import PagePatch.Page.Document
import PagePatch.Text.Blank

namespace PagePatch

/-!
# Command host

A script host without a script language. Code of the form `@verb argument` is a command to fail, to
look at the page or to remove an element; other code does nothing. All but failing is noted.
-/

/-- What the `commandHost` notes, the last note last. -/
inductive CommandNote where
  /-- Code that is no command. -/
  | run (code : String)
  /-- The markup found in an element. -/
  | read (id : String) (inner : Option String)
  /-- The markup found in the body. -/
  | body (markup : String)
  /-- A removal, and whether there was something to remove. -/
  | remove (id : String) (removed : Bool)
  deriving DecidableEq, Repr

/-- The verb and the argument of `code`: what stands in front of the first blank, and what stands
    behind it. Blanks around the code do not count. -/
def commandWords (code : String) : String × String :=
  let s := Text.trimChars code.toList
  (String.ofList (s.takeWhile (· ≠ ' ')), String.ofList ((s.dropWhile (· ≠ ' ')).drop 1))

/-- The command host: the first of the `commandWords` of the code says what to do, and the rest is
    its argument. The state is what was noted so far; a command that fails leaves no note. -/
def commandHost : ScriptHost (List CommandNote) := fun code page notes =>
  let (verb, argument) := commandWords code
  match verb with
  | "@throw" => ({ failure := some (.script argument) }, notes)
  | "@missing" => ({ failure := some (.elementNotFound argument) }, notes)
  | "@read" => ({}, notes ++ [.read argument (page.innerHtml? argument)])
  | "@body" => ({}, notes ++ [.body (page.regionHtml .body)])
  | "@remove" =>
    ({ instructions := [.remove argument] },
      notes ++ [.remove argument (page.contains argument)])
  | _ => ({}, notes ++ [.run code])

end PagePatch

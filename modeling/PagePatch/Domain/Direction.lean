import PagePatch.Domain.Mark

namespace PagePatch.Domain

open Text

/-!
# Writing direction

In a name with letters of scripts that run from right to left every label has to be laid out
alike wherever it stands.

* `Direction` and `direction` — what a character means for the direction of its text;
* `runsLeft` — whether a label holds a character of such a script;
* `directionsFit` — the rule for the labels of such a name.

The tables hold the characters that a domain name may hold. Characters that cannot occur there
count with their neighbours.
-/

/-- What a character means for the direction of its text. -/
inductive Direction where
  /-- It runs to the right. -/
  | right
  /-- It runs to the left. -/
  | left
  /-- It runs to the left, in the Arabic and kindred scripts. -/
  | arabic
  /-- An Arabic digit. -/
  | arabicDigit
  /-- Any other digit. -/
  | digit
  /-- A plus or minus sign. -/
  | sign
  /-- A character at the end of a number. -/
  | terminator
  /-- A character between two numbers. -/
  | separator
  /-- A mark that takes no room of its own. -/
  | mark
  /-- An invisible character. -/
  | invisible
  /-- Any other character. -/
  | neutral
  deriving DecidableEq, Repr

/-- The letters that run to the left. -/
def leftwardLetters : CodeTable := CodeTable.read
  ["5BE-5F4 7C0-7F5 7FA-85E 10800-1091B 10920-10B35 10B40-10CFF 10D4A-10D4F 10D6F-10D8F",
   "10E80-10EB1 10F00-10F27 10F70-10FF6 1E800-1E95F"]

/-- The letters that run to the left in the Arabic and kindred scripts. -/
def arabicLetters : CodeTable := CodeTable.read
  ["608 60B 60D 61B-64A 66D-6D5 6E5-6E6 6EE-6EF 6FA-7B1 860-8C9 FBB2-FBC2 FE73 10D00-10D23",
   "10EC2-10EC7 10F30-10F59 1EC71-1ED3D"]

/-- The Arabic digits. -/
def arabicDigits : CodeTable := CodeTable.read
  ["660-669 66B-66C 10D30-10D49 10E60-10E7E"]

/-- The other digits. -/
def plainDigits : CodeTable := CodeTable.read
  ["30-39 6F0-6F9 102E1-102FB"]

/-- The signs. -/
def signs : CodeTable := CodeTable.read
  ["2B 2D 2212"]

/-- The characters at the end of a number. -/
def terminators : CodeTable := CodeTable.read
  ["23-25 A2-A5 B0-B1 58F 609-60A 66A 9F2-9F3 9FB AF1 BF9 E3F 17DB 2030-2032 20A0-20C1 212E 2213",
   "A838-A839 11FDD-11FE0 1E2FF"]

/-- The characters between two numbers. -/
def separators : CodeTable := CodeTable.read
  ["2C 2E-2F 3A 60C 2044"]

/-- The invisible characters. -/
def invisibles : CodeTable := CodeTable.read
  ["0-8 E-1B 7F 200C-200D"]

/-- The characters without a direction. -/
def neutrals : CodeTable := CodeTable.read
  ["21-22 26-2A 3B-60 7B-7E A1 A6-AE B6-D7 F7 2B9-2BA 2C2-2CF 2D2-2ED 2EF-2FF 375 3F6 58A-58E",
   "606-607 60E-60F 6DE 6E9 7F6-7F9 BF3-BF8 BFA C78-C7E F3A-F3D 1390-1399 1400 169B-169C",
   "17F0-180A 1940-1945 19DE-19FF 2010-2027 2035-2043 2045-205E 2104-2129 213A-214D 218A-2211",
   "2214-2335 237B-2394 2396-26AB 26AD-27FF 2900-2BFF 2CE5-2CEA 2CF9-2CFF 2E00-3004 3008-3020",
   "3030 3037 303D-303F 30A0 30FB 31C0-31E5 4DC0-4DFF A490-A4C6 A60D-A60F A673-A67F A700-A721",
   "A788 A828-A82B A874-A877 AB6A-AB6B FBC3-FE46 10101 10140-1018C 10190-101A0 1091F 10B39-10B3F",
   "10D6E 10ED0-10ED8 11052-11065 11660-1166C 11FD5-11FDC 11FE1-11FF1 16FE2 1CC00-1CEF0",
   "1D1E9-1D245 1D300-1D356 1EEF0-1F12F 1F16D-1F16F 1F1AD 1F260-1FBFA"]

/-- The marks that run to the right like letters. -/
def rightwardMarks : CodeTable := CodeTable.read
  ["CBF CC6 11A07-11A08 11C3F"]

/-- The tables of the directions other than rightward. -/
def directionTables : List (CodeTable × Direction) :=
  [(leftwardLetters, .left), (arabicLetters, .arabic), (arabicDigits, .arabicDigit),
    (plainDigits, .digit), (signs, .sign), (terminators, .terminator), (separators, .separator),
    (invisibles, .invisible), (neutrals, .neutral)]

/-- What the character `c` means for the direction of its text. Whatever is in no table runs to the
    right. -/
def direction (c : Char) : Direction :=
  if isNonspacing c then if rightwardMarks.contains c then .right else .mark
  else ((directionTables.find? (·.1.contains c)).map Prod.snd).getD .right

/-- Whether a label holds a character of a script that runs to the left, so that `directionsFit` is
    asked of all labels. -/
def runsLeft (label : List Char) : Bool :=
  label.any fun c => [Direction.left, .arabic, .arabicDigit].contains (direction c)

/-- What may stand in a label that runs to the right, behind its first character. -/
def rightwardParts : List Direction :=
  [.right, .digit, .sign, .separator, .terminator, .neutral, .invisible, .mark]

/-- What may stand in a label that runs to the left, behind its first character. -/
def leftwardParts : List Direction :=
  [.left, .arabic, .arabicDigit, .digit, .sign, .separator, .terminator, .neutral, .invisible,
    .mark]

/-- Whether a label can be laid out in one way only: it begins with a letter, ends with a letter
    or digit, marks aside, and holds nothing of the other direction and not both kinds of
    digits. -/
def directionsFit (label : List Char) : Bool :=
  match label.map direction with
  | [] => true
  | first :: rest =>
    let rest := (rest.reverse.dropWhile (· == .mark)).reverse
    match first with
    | .right => rest.all rightwardParts.contains && rest.getLast?.all [.right, .digit].contains
    | .left | .arabic =>
      rest.all leftwardParts.contains
        && rest.getLast?.all [.left, .arabic, .digit, .arabicDigit].contains
        && !(rest.contains .digit && rest.contains .arabicDigit)
    | _ => false

end PagePatch.Domain

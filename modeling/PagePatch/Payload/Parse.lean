import PagePatch.Payload.Document
import PagePatch.Payload.Regions

namespace PagePatch

/-!
# Reading payloads

A payload is tried by one strategy after the other. The first that reads it wins. A payload that
can be read but has a senseless operation ends the search: it is never read a second way.

* `Strategy` — one way of reading, `Strategy.standard` the usual ones;
* `Parser.parse` — the change-set of a payload, or what every strategy had to say.
-/

/-- One way of reading a payload. The reserved ids tell `read` what is a region. -/
structure Strategy where
  /-- The name that it is known by, in results and in attempts. -/
  name : String
  /-- The changes of a payload, or what is wrong with it. -/
  read : ReservedIds → String → Except Error ChangeSet

namespace Strategy

/-- Reads well-formed documents by `ChangeSet.ofDocument`, whatever the reserved ids are. -/
def structured : Strategy where
  name := "structured"
  read := fun _ raw => (ChangeSet.ofDocument raw).mapError PayloadFault.toError

/-- Picks region updates out of the raw text by `ChangeSet.ofRegions`, whatever else stands
    there. -/
def regions : Strategy where
  name := "section-fallback"
  read := fun reserved raw => (ChangeSet.ofRegions reserved raw).mapError PayloadFault.toError

/-- The strategies that are used if no others are named: `structured` first, then `regions`. -/
def standard : List Strategy := [structured, regions]

end Strategy

/-- A payload that was read by one of the strategies, whose name goes with the `changes`. -/
structure ParsedPayload where
  /-- Its changes. -/
  changes : ChangeSet
  /-- The name of the strategy that read it. -/
  strategy : String
  deriving DecidableEq, Repr

/-- A payload that no strategy could read, or that was too senseless to be read a second way.
    `attempts` lists what was tried. -/
structure ParseFailure where
  /-- What the first strategy had to say, or why none was asked. -/
  description : String
  /-- What every strategy that was tried had to say, in the order in which they were tried. -/
  attempts : List (String × Error)
  deriving DecidableEq, Repr

/-- The failure as the error that is told to listeners, with its `description` as the wording. -/
def ParseFailure.toError (failure : ParseFailure) : Error :=
  .malformedResponse failure.description

/-- Strategies in the order in which `Parser.parse` tries them. -/
structure Parser where
  /-- The ids with a meaning of their own. -/
  reserved : ReservedIds := {}
  /-- The strategies. -/
  strategies : List Strategy := Strategy.standard

namespace Parser

/-- Tries strategies in order; the first argument holds what the earlier ones had to say. An error
    that `isStructural` ends the search, since the payload was read then and makes no sense. -/
def tryAll (reserved : ReservedIds) (raw : String) :
    List (String × Error) → List Strategy → Except (List (String × Error)) ParsedPayload
  | attempts, [] => .error attempts
  | attempts, s :: rest =>
    match s.read reserved raw with
    | .ok changes => .ok { changes, strategy := s.name }
    | .error e =>
      if e.isStructural then .error (attempts ++ [(s.name, e)])
      else tryAll reserved raw (attempts ++ [(s.name, e)]) rest

/-- Reads the payload `raw`. A blank one is not even tried. -/
def parse (p : Parser) (raw : String) : Except ParseFailure ParsedPayload :=
  if Text.isBlankText raw then .error { description := "empty response", attempts := [] }
  else
    match tryAll p.reserved raw [] p.strategies with
    | .ok parsed => .ok parsed
    | .error attempts =>
      .error {
        -- without any strategy there is nobody who could have said something
        description := match attempts with
          | [] => "no parse strategy configured"
          | (_, e) :: _ => e.message
        attempts }

end Parser

end PagePatch

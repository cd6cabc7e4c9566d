import PagePatch.Error
import PagePatch.Xml.Error

namespace PagePatch

/-!
# Faults of payloads

* `OperationFault` — a readable operation that makes no sense;
* `PayloadFault` — why a payload is no change-set, and the error it is reported as.
-/

/-- What an operation of a partial response lacks, so that it makes no sense. `toError` words it. -/
inductive OperationFault where
  /-- An `element` that has to name an id does not. -/
  | withoutId (element : String)
  /-- An attribute of the element with the id `target` has no name. -/
  | attributeWithoutName (target : String)
  /-- An insert, with its id if it has one, names no anchor. -/
  | insertWithoutAnchor (id : Option String)
  /-- A redirect names no address. -/
  | redirectWithoutUrl
  deriving DecidableEq, Repr

/-- The error that a senseless operation is reported as, always `Error.structural`: it names the
    part of the response, and what it lacks. -/
def OperationFault.toError : OperationFault → Error
  | withoutId element => .structural element ("<" ++ element ++ "> without id")
  | attributeWithoutName target =>
    .structural "attributes" ("attribute without name on " ++ target)
  | insertWithoutAnchor id =>
    .structural (id.getD "insert") "insert has neither a before nor an after anchor"
  | redirectWithoutUrl => .structural "redirect" "redirect without url"

/-- Why a payload is no change-set, by `ChangeSet.ofDocument` as well as by
    `ChangeSet.ofRegions`. -/
inductive PayloadFault where
  /-- It is no well-formed document. -/
  | malformed (fault : Xml.Fault)
  /-- Its root is another element. -/
  | otherRoot (name : String)
  /-- One of its operations makes no sense. -/
  | operation (fault : OperationFault)
  /-- It was searched for updates of regions, and holds none. -/
  | noRegion
  deriving DecidableEq, Repr

/-- The error that a faulty payload is reported as. Only the fault of an operation
    `isStructural`. -/
def PayloadFault.toError : PayloadFault → Error
  | malformed fault => .malformedResponse fault.message
  | otherRoot name =>
    .malformedResponse ("expected <partial-response> root, found <" ++ name ++ ">")
  | operation fault => fault.toError
  | noRegion => .malformedResponse "no head, body or root update found"

end PagePatch

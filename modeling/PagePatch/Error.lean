import PagePatch.RequestId
import PagePatch.Url.Basic

namespace PagePatch

/-!
# Errors

* `Error` — everything that can go wrong between a request and the patched page;
* `Error.message` — the wording of each error;
* `Error.isRecoverable` and its siblings — the classes that callers tell apart.
-/

/-- Why an operation failed, with the parts that its `message` is made of. -/
inductive Error where
  /-- The configuration is unusable, as `message` says. -/
  | config (message : String)
  /-- A caller passed an argument that no request can be made of. -/
  | invalidArgument (message : String)
  /-- The exchange with the server failed. -/
  | transport (message : String)
  /-- The deadline of a request passed; `ms` is its length. -/
  | requestTimeout (request : RequestId) (ms : Nat)
  /-- The engine has been shut down. -/
  | engineClosed
  /-- A payload could not be read. -/
  | malformedResponse (message : String)
  /-- A payload could be read, but the `operation` in it makes no sense. -/
  | structural (operation message : String)
  /-- A step out of order. -/
  | protocol (message : String)
  /-- No attached element has the id. -/
  | elementNotFound (id : String)
  /-- An insert has nothing to stand next to: no attached element has the id `anchor`. -/
  | anchorNotFound (anchor operation : String)
  /-- A script failed. -/
  | script (message : String)
  /-- A text is not an address. -/
  | url (cause : Url.ParseError)
  deriving DecidableEq, Repr

namespace Error

/-- The wording of an error. Callers are told it as a result, and listeners as the description of an
    `ErrorEvent`. -/
def message : Error → String
  | config m => "Configuration error: " ++ m
  | invalidArgument m => "Invalid argument: " ++ m
  | transport m => "Transport failed: " ++ m
  | requestTimeout id ms => "Request " ++ id.toString ++ " timed out after " ++ toString ms ++ "ms"
  | engineClosed => "Engine closed"
  | malformedResponse m => "Malformed response: " ++ m
  | structural operation m => "Structural error in " ++ operation ++ ": " ++ m
  | protocol m => "Protocol error: " ++ m
  | elementNotFound id => "Element not found: " ++ id
  | anchorNotFound anchor operation =>
    "Insert anchor not found: " ++ anchor ++ " (inserting " ++ operation ++ ")"
  | script m => "Script error: " ++ m
  | url cause => "URL error: " ++ cause.message

/-- Whether the error is a deadline that was missed. -/
def isTimeout : Error → Bool
  | requestTimeout .. => true
  | _ => false

/-- Whether the error says that no response arrived. -/
def isTransport : Error → Bool
  | transport _ | requestTimeout .. => true
  | _ => false

/-- Whether the error is about a payload that could be read but has a senseless operation.
    `Parser.parse` tries no further strategy behind such an error. -/
def isStructural : Error → Bool
  | structural .. => true
  | _ => false

/-- Whether the payload is at fault: it could not be read, or `isStructural` holds. -/
def isResponse : Error → Bool
  | malformedResponse _ | structural .. => true
  | _ => false

/-- Whether the remaining operations of a change-set may go on after the error: an element that is
    missing is skipped, and anything else ends them. `Document.tellElement` makes the
    distinction. -/
def isRecoverable : Error → Bool
  | elementNotFound _ => true
  | _ => false

end Error

end PagePatch

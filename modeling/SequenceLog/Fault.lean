import SequenceLog.Json.Equality
import SequenceLog.Json.Shown
/-! Faults. A fault may have been raised because of another, its cause. Every kind has one
wording, given by `Fault.message`. -/
namespace SequenceLog

/-- A sequence token as the service sends it. It is a text, and null stands for none; any other
value is passed on as it came. -/
abbrev Token := Json.Value

structure ServiceError where
  code : Option Json.Value
  message : Option Json.Value
  /-- The sequence token that the service says it expects. -/
  expected : Option Token
  /-- Whether the client gave up after its own retries, and after how many. -/
  retriesExhausted : Bool
  retryAttempts : Option Json.Value
  operation : Text
  deriving DecidableEq, Repr, Inhabited

namespace ServiceError

def memberText (missing : Text) : Option Json.Value → Text
  | none => missing
  | some value => value.shown

def retryText (e : ServiceError) : Text :=
  match e.retriesExhausted, e.retryAttempts with
  | true, some attempts => " (reached max retries: " ++ attempts.shown ++ ")"
  | _, _ => ""

def text (e : ServiceError) : Text :=
  "An error occurred (" ++ memberText "Unknown" e.code ++ ") when calling the " ++ e.operation ++
    " operation" ++ e.retryText ++ ": " ++ memberText "Unknown" e.message

end ServiceError

/-- The kinds of fault that carry nothing but a message. -/
inductive Kind where
  | logWriter
  | serialization
  | transport
  | connection
  | timeout
  | throttled
  | runtime
  | invalidValue
  | wrongType
  | missingKey
  | missingAttribute
  | system
  | deadline
  | recursion
  | general
  deriving DecidableEq, Repr, Inhabited

inductive Fault where
  | plain (kind : Kind) (message : Text) (cause : Option Fault)
  /-- The destination refused the token of an append. `structured` says whether the token it
  expects came as data. -/
  | tokenRejected (message : Text) (expected : Token) (structured : Bool) (cause : Option Fault)
  | writerInvalid (group stream : Text)
  /-- An append failed for good. `chained` says whether the cause was the one raised. -/
  | unrecoverable (group stream : Text) (reason : Fault) (chained : Bool)
  | service (error : ServiceError)
  | endpoint (url : Text)
  /-- The task was told to stop. This is not a failure, and no handler of failures sees it. -/
  | cancelled (message : Text)
  deriving Inhabited

namespace Fault

def message : Fault → Text
  | .plain .missingKey message _ => message.quoted
  | .plain _ message _ => message
  | .tokenRejected message _ _ _ => message
  | .writerInvalid group stream => "writer for " ++ group ++ "/" ++ stream ++ " was invalidated"
  | .unrecoverable group stream reason _ =>
    "append to " ++ group ++ "/" ++ stream ++ " failed: " ++ reason.message
  | .service error => error.text
  | .endpoint url => "Could not connect to the endpoint URL: \"" ++ url ++ "\""
  | .cancelled message => message

def cause? : Fault → Option Fault
  | .plain _ _ cause => cause
  | .tokenRejected _ _ _ cause => cause
  | .unrecoverable _ _ reason true => some reason
  | _ => none

/-- A failure can be handled; a cancellation passes every handler. -/
def isFailure : Fault → Bool
  | .cancelled _ => false
  | _ => true

def isTransportFault : Fault → Bool
  | .plain kind _ _ =>
    match kind with
    | .transport | .connection | .timeout | .throttled => true
    | _ => false
  | .tokenRejected .. => true
  | _ => false

def isWriterFault : Fault → Bool
  | .plain .logWriter _ _ | .plain .serialization _ _ => true
  | .writerInvalid .. | .unrecoverable .. => true
  | fault => fault.isTransportFault

/-- A rejection without a token as data counts as structured only where told so. -/
def rejected (message : Text) (expected : Token) (structured : Option Bool) : Fault :=
  .tokenRejected message expected (structured.getD (expected != .null)) none

def stopped : Fault := .cancelled ""

end Fault
end SequenceLog

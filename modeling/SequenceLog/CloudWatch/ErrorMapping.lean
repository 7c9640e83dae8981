import SequenceLog.Rejection
import SequenceLog.Transport
/-! The faults that the transport to the log service raises, and how the service's errors become
faults of the transport. -/
namespace SequenceLog
namespace CloudWatch

def notConnected : Fault := .plain .connection "Not connected to CloudWatch Logs" none

def timedOut : Fault := .plain .timeout "CloudWatch Logs PutLogEvents timed out" none

/-- A member was asked of a value that does not have it. -/
def lacksMember (value : Json.Value) (member : String) : Fault :=
  .plain .missingAttribute ("'" ++ value.typeName ++ "' object has no attribute '" ++ member ++ "'")
    none

/-- A member was asked of a client or a context when none was held. -/
def nothingHeld (member : String) : Fault := lacksMember .null member

def notIterable (value : Json.Value) : Fault :=
  .plain .wrongType ("'" ++ value.typeName ++ "' object is not iterable") none

def cannotConnect (reason : Fault) : Fault :=
  let target := match reason with
    | .endpoint _ => "CloudWatch Logs endpoint"
    | _ => "CloudWatch Logs"
  .plain .connection ("Failed to connect to " ++ target ++ ": " ++ reason.message) (some reason)

def cannotPrepare (key : Key) (error : ServiceError) : Fault :=
  .plain .transport ("Failed to prepare " ++ key.group ++ "/" ++ key.stream ++ ": " ++ error.text)
    (some (.service error))

end CloudWatch

namespace ServiceError

def alreadyExists (error : ServiceError) : Bool :=
  error.code == some (.text "ResourceAlreadyExistsException")

def summary (error : ServiceError) : Text :=
  memberText "" error.code ++ ": " ++ memberText "" error.message

/-- The fault of an append that the service answered with an error: a token mismatch, a throttled
call, or any other failure. -/
def appendFault (error : ServiceError) : Fault :=
  if error.code = some (.text Rejection.mismatchCode) then
    .tokenRejected (Rejection.mismatchCode ++ ": " ++ memberText "" error.message)
      ((error.expected.getD .null).orNull) error.expected.isSome (some (.service error))
  else if error.code = some (.text "ThrottlingException") then
    .plain .throttled ("CloudWatch Logs throttled PutLogEvents: " ++ error.summary)
      (some (.service error))
  else
    .plain .transport ("CloudWatch Logs PutLogEvents failed: " ++ error.summary)
      (some (.service error))

end ServiceError
end SequenceLog

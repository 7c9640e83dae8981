import SequenceLog.Fault
import SequenceLog.Json.Value
/-! Notices: what the library reports about its own work. -/
namespace SequenceLog

inductive Severity where
  | debug
  | info
  | warning
  | error
  deriving DecidableEq, Repr, Inhabited

/-- The part of the library that speaks. -/
inductive Source where
  | rejection
  | writer
  | registry
  | memory
  | service
  | settings
  deriving DecidableEq, Repr, Inhabited

structure Notice where
  severity : Severity
  source : Source
  message : Text
  details : List (String × Json.Value)
  /-- A fault that was caught and is reported here instead of being raised. -/
  fault : Option Fault
  deriving Inhabited

end SequenceLog

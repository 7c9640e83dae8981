import SequenceLog.Json.Writer
import SequenceLog.Logging.Level
import SequenceLog.Record
/-! The lines that handlers write for the records of loggers. -/
namespace SequenceLog.Logging

/-- How the handler writes a record: as a JSON object, or as a plain line. -/
inductive LineFormat where
  | json
  | text
  deriving DecidableEq, Repr, Inhabited

structure LogLine where
  logger : Text
  level : Int
  message : Text
  extra : List (Text × Json.Value)
  deriving Inhabited

def ownAttributes : List Text :=
  ["name", "msg", "args", "levelname", "levelno", "pathname", "filename", "module", "exc_info",
    "exc_text", "stack_info", "lineno", "funcName", "created", "msecs", "relativeCreated",
    "thread", "threadName", "processName", "process", "message", "asctime"]

def clash (name : Text) : Fault :=
  .plain .missingKey ("Attempt to overwrite " ++ name.quoted ++ " in LogRecord") none

def plainLine (now : Moment) (line : LogLine) : Text :=
  now.lineText ++ " - " ++ line.logger ++ " - " ++ levelText line.level ++ " - " ++
    line.message

/-- A member that is set again keeps its place. -/
def setMember (name : Text) (value : Json.Value) :
    List (Text × Json.Value) → List (Text × Json.Value)
  | [] => [(name, value)]
  | (n, v) :: rest =>
    if n = name then (n, value) :: rest else (n, v) :: setMember name value rest

/-- Dates and times that a record carries have a form of their own. -/
def carriedValue : Json.Value → Json.Value
  | .foreign object => ((object.lineText.map fun text => .text text).getD (.foreign object))
  | value => value

def textMember (name value : Text) : Text × Json.Value := (name, .text value)

def timeName : Text := "time"

/-- An attribute that every record may carry, and that is not written. -/
def taskName : Text := "taskName"

/-- The members of a record's JSON object: what it carries, its message, and the time unless it
carries one. -/
def members (now : Moment) (line : LogLine) : List (Text × Json.Value) :=
  let extra := line.extra.foldl (fun done (name, value) => setMember name value done) []
  let extra := (extra.filter (·.1 ≠ taskName)).map fun (name, value) => (name, carriedValue value)
  let carried := extra ++ [textMember "message" line.message]
  if carried.any (·.1 = timeName) then carried else carried ++ [textMember timeName now.isoText]

/-- A value that has no JSON form is replaced by what messages show of it, unless the stack is
exceeded. -/
def writable (stack : Json.Stack) (value : Json.Value) : Except Json.Problem Json.Value :=
  match Json.write Json.spaced stack value with
  | .ok _ => .ok value
  | .error problem =>
    if problem.kind = .recursion then .error problem
    else match value.unshownWithin stack.room with
      | none => .ok (.text value.shown)
      | some problem => .error problem

def jsonLine (stack : Json.Stack) (now : Moment) (line : LogLine) : Except Json.Problem Text := do
  let entries ← (members now line).mapM fun (name, value) => do
    return (Json.Value.text name, ← writable stack value)
  return .ofChars (← Json.write Json.spaced stack (.mapping entries))

/-- What makes a JSON object of a record, or the fault in making it. -/
abbrev Formatter := Moment → LogLine → Except Fault Text

def jsonFormatter (stack : Json.Stack) : Formatter := fun now line =>
  match jsonLine stack now line with
  | .ok text => .ok text
  | .error problem => .error problem.plainFault

/-- An attribute of this name hides what renders a record's message. -/
def renderingAttribute : Text := "getMessage"

/-- What is written for a record. Nothing is written where the message cannot be rendered, or where
the object cannot be made, but too deep nesting is a fault. -/
def format (json : Formatter) (now : Moment) (line : LogLine) (format : LineFormat) :
    Except Fault Text :=
  if line.extra.any (·.1 = renderingAttribute) then .ok ""
  else match format with
    | .json =>
      match json now line with
      | .ok text => .ok (text ++ "\n")
      | .error (.plain .recursion message cause) => .error (.plain .recursion message cause)
      | .error _ => .ok ""
    | .text => .ok (plainLine now line ++ "\n")

end SequenceLog.Logging

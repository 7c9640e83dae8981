import SequenceLog.Calendar
import SequenceLog.Fault
import SequenceLog.Json.Writer
/-! Log records and the events made from them. An event carries the payload of its record without
the record's identity: group and stream are addressed by the append call, and the time travels
beside the payload. -/
namespace SequenceLog

structure LogEvent where
  message : Text
  timestamp : Int
  deriving DecidableEq, Repr, Inhabited

structure Record where
  group : Option Text
  stream : Option Text
  content : Option Text
  level : Option Text
  host : Option Text
  fields : Json.Value
  time : Moment
  deriving Inhabited

namespace Json.Problem

def kind : Problem → Kind
  | .foreignValue _ | .foreignKey _ => .wrongType
  | .circular | .longInteger => .invalidValue
  | .tooDeep | .overflow _ | .tooDeepToShow => .recursion

def plainFault (problem : Problem) : Fault := .plain problem.kind problem.message none

/-- The fault of a record that cannot be serialized. Too deep nesting is raised as it is. -/
def fault (problem : Problem) : Fault :=
  match problem.kind with
  | .recursion => problem.plainFault
  | _ => .plain .serialization ("Failed to serialize log record: " ++ problem.message)
      (some problem.plainFault)

end Json.Problem

namespace Record

/-- The time of a record is the present where none is given. -/
def timeOf (now : Moment) (given : Option Reading) : Moment := (given.map Reading.moment).getD now

/-- One member of a payload, left out when empty. -/
def member (name : String) (value : Json.Value) : List (String × Json.Value) :=
  if value.isEmpty then [] else [(name, value)]

def textMember (name : String) (value : Option Text) : List (String × Json.Value) :=
  member name ((value.map Json.Value.text).getD .null)

/-- What addresses the record rather than being said by it. -/
def identity (r : Record) : List (String × Json.Value) :=
  textMember "group" r.group ++ textMember "stream" r.stream ++ [("time", .text r.time.isoText)]

def payload (r : Record) : List (String × Json.Value) :=
  textMember "level" r.level ++ textMember "host" r.host ++ member "fields" r.fields ++
    textMember "content" r.content

def full (r : Record) : List (String × Json.Value) := r.identity ++ r.payload

def encode (stack : Json.Stack) (members : List (String × Json.Value)) : Except Fault Text :=
  let entries := members.map fun (name, value) => (Json.Value.text name, value)
  match Json.write Json.compact stack (.mapping entries) with
  | .ok text => .ok (.ofChars text)
  | .error problem => .error problem.fault

def event (stack : Json.Stack) (r : Record) : Except Fault LogEvent :=
  (encode stack r.payload).map fun message => ⟨message, r.time.milliseconds⟩

/-- The events of some records, or the first fault in making one. -/
def events (stack : Json.Stack) : List Record → Except Fault (List LogEvent)
  | [] => .ok []
  | r :: rest =>
    match r.event stack with
    | .error fault => .error fault
    | .ok event => (events stack rest).map (event :: ·)

end Record

/-- Records to be appended together, and the stack of the call that writes them. -/
structure Batch where
  stack : Json.Stack
  records : List Record
  deriving Inhabited

def Batch.events (batch : Batch) : Except Fault (List LogEvent) :=
  Record.events batch.stack batch.records

end SequenceLog

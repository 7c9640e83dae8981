import SequenceLog.Logging.Line
/-! Logging for processes that embed the library. Setting it up gives the root logger a level and a
single handler, and quietens the loggers of the client libraries. A logger is there from its first
record on. -/
namespace SequenceLog

/-- The loggers' state. A level of zero leaves the decision to the logger above. -/
structure Logging where
  rootLevel : Int
  handlers : List Logging.LineFormat
  clientLevel : Int
  asyncClientLevel : Int
  /-- The names of the loggers that are there, the root left out. -/
  loggers : List Text
  /-- What loggers decided on levels since levels were last set. -/
  decisions : List ((Text × Int) × Bool)
  deriving DecidableEq, Repr, Inhabited

namespace Logging

def initial : Logging := ⟨30, [], 0, 0, ["botocore", "aiobotocore"], []⟩

/-- Sets up logging. Where the level is refused nothing changes. -/
def setup (l : Logging) (levelName formatName : Text) : Logging × Option Fault :=
  match levelNamed levelName with
  | .error fault => (l, some fault)
  | .ok level =>
    ({ rootLevel := level
       handlers := [if formatName = "json" then .json else .text]
       clientLevel := warningLevel
       asyncClientLevel := warningLevel
       loggers := l.loggers
       decisions := [] }, none)

/-- The loggers above one, the nearest first. Names are given in reverse. What comes before a dot
names a logger above, if it is there. If it is not, its own last character ends no other name. -/
def lineage (there : List Text) : List CodePoint → List Text
  | dot :: c :: rest =>
    let above : Text := ⟨(c :: rest).reverse⟩
    if dot ≠ '.' then lineage there (c :: rest)
    else if above ∈ there then above :: lineage there (c :: rest)
    else lineage there rest
  | _ => []

def ownLevel (l : Logging) (name : Text) : Int :=
  if name = "botocore" then l.clientLevel
  else if name = "aiobotocore" then l.asyncClientLevel
  else 0

def effectiveLevel (l : Logging) (name : Text) : Int :=
  let above := lineage l.loggers name.points.reverse
  (((name :: above).map l.ownLevel).find? (· ≠ 0)).getD l.rootLevel

/-- Whether a logger lets records of a level pass. It stands by what it decided before. -/
def isEnabled (l : Logging) (logger : Text) (level : Int) : Bool :=
  (l.decisions.lookup (logger, level)).getD (0 < level && l.effectiveLevel logger ≤ level)

def named (l : Logging) (logger : Text) : Logging :=
  { l with loggers := if logger ∈ l.loggers then l.loggers else logger :: l.loggers }

/-- What is written for a record, by each handler. Attributes may not replace the record's
own, whether the record is written or not. -/
def log (l : Logging) (json : Formatter) (now : Moment) (line : LogLine) :
    Logging × Except Fault (List Text) :=
  let l := l.named line.logger
  match line.extra.find? fun (name, _) => ownAttributes.contains name with
  | some (name, _) => (l, .error (clash name))
  | none =>
    let enabled := l.isEnabled line.logger line.level
    let l := { l with decisions := ((line.logger, line.level), enabled) :: l.decisions }
    (l, if enabled then l.handlers.mapM (format json now line) else .ok [])

end Logging
end SequenceLog

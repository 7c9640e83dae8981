import SequenceLog.Heap
import SequenceLog.Mutex
import SequenceLog.Number.Binary64
/-! Timers. They wake threads, end calls that take too long, and bring the answers to calls. The
timer that is due first comes first; of those due in the same microsecond, the one started
first. -/
namespace SequenceLog.Scenario

abbrev CallId := Nat

inductive Alarm where
  | wake (task : TaskId)
  | limit (task : TaskId) (call : CallId)
  | answer (call : CallId)
  deriving DecidableEq, Repr, Inhabited

/-- An instant. Those within one microsecond are told apart by the numbers of the timers that are
due at them. -/
structure Instant where
  microsecond : Nat
  timer : Nat
  deriving DecidableEq, Repr, Inhabited

def Instant.before (a b : Instant) : Bool :=
  a.microsecond < b.microsecond || (a.microsecond = b.microsecond && a.timer < b.timer)

/-- The microsecond nearest to the end of a delay of `num / den` seconds. At the very start a tie
goes to the even neighbour. Later it goes up, as an instant at which a timer rang lies a little
after its microsecond; that is taken for a nanosecond. -/
def Instant.microsecondAfter (now : Instant) (num den : Nat) : Nat :=
  if now = ⟨0, 0⟩ then Binary64.divideToEven (num * 1000000) den
  else now.microsecond + Binary64.divideToEven (num * 1000000000 + den) (1000 * den)

/-- When a timer is due. One without a date was started for a delay that is not a number. -/
inductive Due where
  | instant (instant : Instant)
  | never
  | undated
  deriving DecidableEq, Repr, Inhabited

namespace Due

def after (now : Instant) (timer : Nat) : Binary64 → Due
  | .nan => .undated
  | .infinite _ => .never
  | .finite _ significand exponent =>
    let (num, den) := Binary64.magnitude significand exponent
    .instant ⟨now.microsecondAfter num den, timer⟩

/-- What has no date comes neither before nor after anything. -/
def before : Due → Due → Bool
  | .instant a, .instant b => a.before b
  | .instant _, .never => true
  | _, _ => false

/-- What has no date is always due. -/
def isPast (now : Instant) : Due → Bool
  | .instant due => !now.before due
  | .never => false
  | .undated => true

end Due

/-- A timer. One that is no longer wanted is dropped and rings no more. -/
structure Timer where
  due : Due
  alarm : Alarm
  dropped : Bool
  deriving DecidableEq, Repr, Inhabited

def Timer.before (a b : Timer) : Bool := a.due.before b.due

/-- The timers that run, and those that were dropped since they were started and are still among
the others. -/
structure Timers where
  heap : Heap Timer Timer.before
  /-- How many timers were dropped since all dropped ones were last removed, less those that were
  removed from the top before a round. -/
  dropped : Nat
  deriving Inhabited

namespace Timers

def empty : Timers := ⟨.empty, 0⟩

def start (ts : Timers) (due : Due) (alarm : Alarm) : Timers :=
  { ts with heap := ts.heap.push ⟨due, alarm, false⟩ }

/-- Drops the timer of an alarm. It stays where it is. -/
def drop (ts : Timers) (alarm : Alarm) : Timers :=
  let wanted := fun (t : Timer) => t.alarm = alarm && !t.dropped
  { heap := ts.heap.map fun t => if wanted t then { t with dropped := true } else t
    dropped := ts.dropped + ts.heap.toList.countP wanted }

/-- Removes the dropped timers on top. Where there are more than a hundred timers, and more than
half as many were dropped, all dropped ones are removed. -/
def tidy (ts : Timers) : Timers :=
  if 100 < ts.heap.size && ts.heap.size < 2 * ts.dropped then
    ⟨ts.heap.filter fun t => !t.dropped, 0⟩
  else
    let (gone, heap) := ts.heap.popWhile Timer.dropped
    ⟨heap, ts.dropped - gone.length⟩

def next? (ts : Timers) : Option Instant :=
  match ts.heap.top?.map Timer.due with
  | some (.instant due) => some due
  | _ => none

/-- Takes the timers on top that are due. Those of them that were dropped are not given. -/
def takeDue (ts : Timers) (now : Instant) : List Alarm × Timers :=
  let (due, heap) := ts.heap.popWhile fun t => t.due.isPast now
  ((due.filter fun t => !t.dropped).map Timer.alarm, { ts with heap := heap })

end Timers

end SequenceLog.Scenario

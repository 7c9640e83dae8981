/-! A lock with a queue. Tasks get the lock in the order in which they asked for it. A lock that
is let go is granted to the head of the queue, which takes it on its next turn; until then nobody
else can have it. A task that is told to stop keeps its place, marked as abandoned, until its next
turn removes it. -/
namespace SequenceLog

abbrev TaskId := Nat

inductive Place where
  | waiting
  | granted
  | abandoned
  deriving DecidableEq, Repr, Inhabited

structure Mutex where
  held : Bool
  queue : List (TaskId × Place)
  deriving DecidableEq, Repr

namespace Mutex

def free : Mutex := ⟨false, []⟩

instance : Inhabited Mutex := ⟨free⟩

/-- The lock can be taken at once when nobody holds it and nobody who still wants it queues. -/
def available (m : Mutex) : Bool := !m.held && m.queue.all fun entry => entry.2 = .abandoned

def take (m : Mutex) : Mutex := { m with held := true }

def join (m : Mutex) (task : TaskId) : Mutex := { m with queue := m.queue ++ [(task, .waiting)] }

/-- Grants the lock to the head of the queue, unless that has been granted it or given up. -/
def grant (m : Mutex) : Mutex × Option TaskId :=
  match m.queue with
  | (task, .waiting) :: rest => ({ m with queue := (task, .granted) :: rest }, some task)
  | _ => (m, none)

def release (m : Mutex) : Mutex × Option TaskId := grant { m with held := false }

def drop (m : Mutex) (task : TaskId) : Mutex :=
  { m with queue := m.queue.filter fun entry => entry.1 ≠ task }

def isGranted (m : Mutex) (task : TaskId) : Bool := m.queue.contains (task, .granted)

/-- The lock passes to a task that was granted it. -/
def enter (m : Mutex) (task : TaskId) : Mutex := (m.drop task).take

/-- Marks a waiting task as one that gives up. -/
def abandon (m : Mutex) (task : TaskId) : Mutex :=
  { m with queue := m.queue.map fun entry =>
      if entry = (task, .waiting) then (task, .abandoned) else entry }

/-- A task that gives up leaves the queue and passes on a lock it may have been granted. -/
def leave (m : Mutex) (task : TaskId) : Mutex × Option TaskId :=
  let m := m.drop task
  if m.held then (m, none) else m.grant

end Mutex
end SequenceLog

import SequenceLog.Pool
/-! A session: one transport, one pool of writers on it, and the operations that are under way.
Tasks take turns, one at a time; in its turn a task starts an operation or goes on with the one it
is suspended in. The session does not choose whose turn it is. -/
namespace SequenceLog

/-- Where a search for a writer is suspended: in the queue for the stream's lock, or while the
stream is prepared. -/
inductive LookupStage (σ : Type) where
  | queued
  | preparing (stage : σ)

/-- Where a batch is suspended: in the queue for the writer's lock, or in an append. `left` counts
the appends that may still follow the one in flight. -/
inductive BatchStage (σ : Type) where
  | queued
  | sending (left : Nat) (stage : σ)

/-- An operation under way. -/
inductive Activity (σ : Type) where
  | transport (stage : σ)
  | lookup (key : Key) (era : Nat) (stage : LookupStage σ)
  | batch (writer : WriterId) (events : List LogEvent) (stage : BatchStage σ)

inductive Answer where
  | nothing
  | token (token : Token)
  | writer (writer : WriterId)
  deriving DecidableEq, Repr, Inhabited

structure Session (τ σ κ : Type) where
  transport : τ
  pool : Pool
  /-- Every writer ever opened, by its number. -/
  writers : List Writer
  active : TaskId → Option (Activity σ)
  happened : List (Happening κ)

/-- A session after part of an operation, and how far the operation came. -/
structure Stepped (τ σ κ : Type) where
  session : Session τ σ κ
  progress : Progress (Activity σ) Answer

namespace Session
variable {τ σ κ : Type}

def new (transport : τ) (pool : Pool) : Session τ σ κ := ⟨transport, pool, [], fun _ => none, []⟩

def writer (s : Session τ σ κ) (id : WriterId) : Writer := (s.writers[id]?).getD default

def setWriter (s : Session τ σ κ) (id : WriterId) (w : Writer) : Session τ σ κ :=
  { s with writers := s.writers.set id w }

def note (s : Session τ σ κ) (happenings : List (Happening κ)) : Session τ σ κ :=
  { s with happened := s.happened ++ happenings }

def notice (s : Session τ σ κ) (notices : List Notice) : Session τ σ κ :=
  s.note (notices.map .notice)

/-- Takes over the transport and the remarks of a reply. -/
def absorb {ρ α : Type} (s : Session τ σ κ) (reply : Reply τ ρ κ α) : Session τ σ κ :=
  { s with transport := reply.state }.note (reply.remarks.map .ofRemark)

def wake (s : Session τ σ κ) : Option TaskId → Session τ σ κ
  | some task => s.note [.wake task]
  | none => s

def finished (s : Session τ σ κ) (result : Except Fault Answer) : Stepped τ σ κ :=
  ⟨s, .finished result⟩

def suspended (s : Session τ σ κ) (activity : Activity σ) : Stepped τ σ κ :=
  ⟨s, .suspended activity⟩

/-- Explicit removal of a registered writer. -/
def remove (s : Session τ σ κ) (key : Key) (writer : Option WriterId) : Session τ σ κ :=
  { s with pool := s.pool.remove key writer }.notice (s.pool.removeNotices key writer)

def closePool (s : Session τ σ κ) : Session τ σ κ := { s with pool := s.pool.close }

/-- Opens a writer outside the pool. -/
def openWriter (s : Session τ σ κ) (key : Key) (registry : Registry) (token : Token)
    (maxAttempts : Int) : Stepped τ σ κ :=
  match Writer.new? key registry token maxAttempts with
  | .error fault => s.finished (.error fault)
  | .ok w => { s with writers := s.writers ++ [w] }.finished (.ok (.writer s.writers.length))

end Session
end SequenceLog

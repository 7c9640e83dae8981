import SequenceLog.Table
import SequenceLog.Writer
/-! The pool: at most one registered writer for each stream, and a lock for each stream under
which a missing writer is opened. -/
namespace SequenceLog

structure Pool where
  /-- Prepare a stream before its writer is opened. -/
  createStreams : Bool
  maxAttempts : Int
  writers : Table Key WriterId
  /-- Closing the pool starts a new era with locks of its own. -/
  era : Nat
  locks : Nat → Key → Mutex

namespace Pool

def new (createStreams : Bool) (maxAttempts : Int) : Pool :=
  ⟨createStreams, maxAttempts, .empty, 0, fun _ _ => .free⟩

def setLock (p : Pool) (era : Nat) (key : Key) (m : Mutex) : Pool :=
  { p with locks := fun e k => if e = era ∧ k = key then m else p.locks e k }

def register (p : Pool) (key : Key) (writer : WriterId) : Pool :=
  { p with writers := p.writers.insert key writer }

/-- A writer that is given must be the registered one for anything to be removed. -/
def removes (p : Pool) (key : Key) (writer : Option WriterId) : Bool :=
  match p.writers.get? key, writer with
  | none, _ => false
  | some _, none => true
  | some current, some writer => current == writer

def remove (p : Pool) (key : Key) (writer : Option WriterId) : Pool :=
  if p.removes key writer then { p with writers := p.writers.erase key } else p

def removedNotice (key : Key) : Notice :=
  ⟨.info, .registry, "Removed writer", Writer.keyDetails key, none⟩

def removeNotices (p : Pool) (key : Key) (writer : Option WriterId) : List Notice :=
  if p.removes key writer then [removedNotice key] else []

def createdNotice (key : Key) : Notice :=
  ⟨.debug, .registry, "Created writer", Writer.keyDetails key, none⟩

def close (p : Pool) : Pool := { p with writers := .empty, era := p.era + 1 }

end Pool
end SequenceLog

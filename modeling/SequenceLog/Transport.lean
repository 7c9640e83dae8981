import SequenceLog.Mutex
import SequenceLog.Notice
import SequenceLog.Record
/-! Transports. An operation of a transport is carried out in stages: it is either over or
suspended at a stage, from which it goes on when its wait is over, when its time limit has passed
or when it is interrupted. Nothing is assumed about when that happens or what happens between. -/
namespace SequenceLog

/-- The destination of events: a stream within a group. -/
structure Key where
  group : Text
  stream : Text
  deriving DecidableEq, Repr, Inhabited

/-- A request to append events to a stream, under the sequence token of the stream. -/
structure Append where
  key : Key
  token : Token
  events : List LogEvent
  deriving DecidableEq, Repr, Inhabited

/-- What a suspended operation is told when it goes on. -/
inductive Signal where
  | ready
  | expired
  | interrupted
  deriving DecidableEq, Repr, Inhabited

/-- What a suspended operation waits for: a delay, a call that is made by a task of its own and may
take no longer than a limit, or a lock. Delays and limits are in seconds. -/
inductive Wait where
  | pause (delay : Binary64)
  | call (delay limit : Binary64)
  | lock
  deriving DecidableEq, Repr, Inhabited

inductive Progress (σ α : Type) where
  | finished (result : Except Fault α)
  | suspended (stage : σ)

/-- Writers are numbered in the order in which they were opened. -/
abbrev WriterId := Nat

inductive Remark (κ : Type) where
  | notice (notice : Notice)
  | call (call : κ)

inductive Happening (κ : Type) where
  | notice (notice : Notice)
  | call (call : κ)
  /-- A writer sent an append. -/
  | sent (writer : WriterId) (request : Append)
  /-- An append that a writer sent came to an end. -/
  | settled (writer : WriterId) (result : Except Fault Token)
  /-- The registry of a writer was asked to forget it. -/
  | removal (key : Key) (writer : WriterId)
  /-- A task was granted a lock it waits for. -/
  | wake (task : TaskId)

def Happening.ofRemark {κ : Type} : Remark κ → Happening κ
  | .notice n => .notice n
  | .call c => .call c

def Happening.call? {κ : Type} : Happening κ → Option κ
  | .call c => some c
  | _ => none

def Happening.notice? {κ : Type} : Happening κ → Option Notice
  | .notice n => some n
  | _ => none

/-- The state after some part of an operation, what it remarked, and how far it came. -/
structure Reply (τ σ κ α : Type) where
  state : τ
  remarks : List (Remark κ)
  progress : Progress σ α

class Transport (τ : Type) (σ κ : outParam Type) where
  append : τ → Append → Reply τ σ κ Token
  /-- Creates group and stream where they are missing, and tells the stream's token. -/
  ensureStream : τ → Key → Reply τ σ κ Token
  resume : τ → σ → Signal → Reply τ σ κ Token
  wait : σ → Wait

end SequenceLog

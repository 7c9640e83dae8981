import SequenceLog.Json.Sameness
import SequenceLog.Rejection
import SequenceLog.Table
import SequenceLog.Transport
/-! A transport that keeps its streams in memory and enforces sequence tokens. An append is
recorded when it is called, sleeps for the configured delay, and is then carried out in one step. -/
namespace SequenceLog

structure StoredStream where
  events : List LogEvent
  /-- The token that the next append must present. -/
  token : Token
  deriving DecidableEq, Repr, Inhabited

/-- An append that sleeps before it is carried out. -/
structure SleepingAppend where
  request : Append
  delay : Binary64
  deriving DecidableEq, Repr, Inhabited

structure Memory where
  /-- Rejections name the expected token as data, not only in their text. -/
  structured : Bool
  /-- Appends to a missing stream create it. -/
  autoCreate : Bool
  /-- Seconds that each append sleeps. -/
  delay : Binary64
  connected : Bool
  streams : Table Key StoredStream
  /-- Failures for the next appends, one each. -/
  failures : List Fault
  issued : Nat
  /-- The appends received since the last close. -/
  calls : List Append

namespace Memory

def new (structured autoCreate : Bool) (delay : Binary64) : Memory :=
  ⟨structured, autoCreate, delay, false, .empty, [], 0, []⟩

def emptyStream : StoredStream := ⟨[], .null⟩

def stream (m : Memory) (key : Key) : StoredStream := (m.streams.get? key).getD emptyStream

def events (m : Memory) (key : Key) : List LogEvent := (m.stream key).events

def token (m : Memory) (key : Key) : Token := (m.stream key).token

def notConnected : Fault := .plain .connection "Not connected" none

def noSuchStream (key : Key) : Fault :=
  .plain .transport ("ResourceNotFoundException: The specified log stream does not exist: " ++
    key.group ++ "/" ++ key.stream) none

/-- Tokens are the numbers from 1 on, at a width of 56 digits. -/
def tokenText (n : Nat) : Text := .ofChars (Calendar.padded 56 n)

def rejectionText (expected : Token) : Text :=
  Rejection.mismatchCode ++ ": The given sequenceToken is invalid. " ++
    "The next expected sequenceToken is: " ++
    if expected.isEmpty then Rejection.noToken else expected.shown

def rejection (m : Memory) (expected : Token) : Fault :=
  if m.structured then .tokenRejected (rejectionText expected) expected true none
  else .tokenRejected (rejectionText expected) .null false none

def appendedNotice (key : Key) (count : Nat) : Notice :=
  ⟨.debug, .memory, "Events appended to in-memory stream",
    [("group", .text key.group), ("stream", .text key.stream), ("count", .int count)], none⟩

def store (m : Memory) (key : Key) (s : StoredStream) : Memory :=
  { m with streams := m.streams.insert key s }

/-- The step in which an append is decided: a pending failure comes first, then a missing stream,
then the token. A stream that is created stays even if the token is refused. -/
def commit (m : Memory) (r : Append) : Memory × Except Fault Token :=
  match m.failures with
  | fault :: rest => ({ m with failures := rest }, .error fault)
  | [] =>
    if (m.streams.get? r.key).isNone && !m.autoCreate then (m, .error (noSuchStream r.key))
    else
      let target := m.stream r.key
      if r.token.same target.token then
        let next := .text (tokenText (m.issued + 1))
        ({ m.store r.key ⟨target.events ++ r.events, next⟩ with issued := m.issued + 1 },
          .ok next)
      else (m.store r.key target, .error (m.rejection target.token))

def settle (m : Memory) (r : Append) : Reply Memory SleepingAppend Append Token :=
  let (after, result) := m.commit r
  let remarks := match result with
    | .ok _ => [.notice (appendedNotice r.key r.events.length)]
    | .error _ => []
  ⟨after, remarks, .finished result⟩

def append (m : Memory) (r : Append) : Reply Memory SleepingAppend Append Token :=
  if m.connected then
    let received := { m with calls := m.calls ++ [r] }
    if m.delay.isZero then
      let reply := received.settle r
      { reply with remarks := .call r :: reply.remarks }
    else ⟨received, [.call r], .suspended ⟨r, m.delay⟩⟩
  else ⟨m, [], .finished (.error notConnected)⟩

def ensureStream (m : Memory) (key : Key) :
    Reply Memory SleepingAppend Append Token :=
  if m.connected then
    let target := m.stream key
    ⟨m.store key target, [], .finished (.ok target.token)⟩
  else ⟨m, [], .finished (.error notConnected)⟩

/-- An append that is interrupted in its sleep leaves no trace but its record. -/
def resume (m : Memory) (s : SleepingAppend) :
    Signal → Reply Memory SleepingAppend Append Token
  | .ready => m.settle s.request
  | .expired | .interrupted => ⟨m, [], .finished (.error .stopped)⟩

instance : Transport Memory SleepingAppend Append where
  append := append
  ensureStream := ensureStream
  resume := resume
  wait s := .pause s.delay

def connectedNotice : Notice := ⟨.debug, .memory, "InMemoryLogTransport connected", [], none⟩

def closedNotice : Notice := ⟨.debug, .memory, "InMemoryLogTransport closed", [], none⟩

def connect (m : Memory) : Memory := { m with connected := true }

/-- Closing forgets the streams, the calls and the pending failures, but not which tokens were
issued. -/
def close (m : Memory) : Memory :=
  { m with connected := false, streams := .empty, calls := [], failures := [] }

def inject (m : Memory) (fault : Fault) : Memory := { m with failures := m.failures ++ [fault] }

/-- Makes a stream expect a token, as if another producer had written to it. -/
def setToken (m : Memory) (key : Key) (token : Token) : Memory :=
  m.store key { m.stream key with token := token }

def deleteStream (m : Memory) (key : Key) : Memory := { m with streams := m.streams.erase key }

end Memory
end SequenceLog

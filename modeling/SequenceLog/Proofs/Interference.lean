import SequenceLog.Proofs.Fidelity
import SequenceLog.Proofs.Wire
/-! Transports to streams that others use too. Before each append the others may make its stream
expect another token. A service that enforces tokens, reached by its client, and the transport that
keeps its streams in memory both answer as the log that they show. Main statements:
`Honours.faithful`, `CloudWatch.honours` and `Memory.honours`. -/
namespace SequenceLog
open Scenario
variable {τ σ κ : Type}

/-- A transport whose streams others can make expect a token. -/
class Contestable (τ : Type) where
  isConnected : τ → Bool
  setToken : τ → Key → Token → τ

/-- A transport with what others do before each of the next appends. -/
structure Contested (τ : Type) where
  transport : τ
  changes : List (Option Token)

namespace Contested

def wrap (changes : List (Option Token)) (reply : Reply τ σ κ Token) :
    Reply (Contested τ) σ κ Token :=
  ⟨⟨reply.state, changes⟩, reply.remarks, reply.progress⟩

section
variable [Transport τ σ κ] [Contestable τ]

def append (t : Contested τ) (r : Append) : Reply (Contested τ) σ κ Token :=
  match t.changes with
  | [] => wrap [] (Transport.append t.transport r)
  | none :: rest => wrap rest (Transport.append t.transport r)
  | some token :: rest =>
    wrap rest (Transport.append (Contestable.setToken t.transport r.key token) r)

instance : Transport (Contested τ) σ κ where
  append := append
  ensureStream t key := wrap t.changes (Transport.ensureStream t.transport key)
  resume t stage signal := wrap t.changes (Transport.resume t.transport stage signal)
  wait := Transport.wait τ

end

instance [Transport τ σ κ] [Contestable τ] : Commanded (Contested τ) Empty Empty κ where
  isConnected t := Contestable.isConnected t.transport
  perform _ command := nomatch command
  resume _ stage := nomatch stage
  wait stage := nomatch stage

/-- The log that the transport shows, with the changes that are to come. -/
def Shows (shows : τ → Log → Prop) (t : Contested τ) (log : Log) : Prop :=
  shows t.transport log ∧ t.changes = log.changes

end Contested

/-- The transport answers as the log when nobody comes between, and can be made to expect a token. -/
structure Honours [Transport τ σ κ] [Contestable τ] (shows : τ → Log → Prop) (key : Key) : Prop where
  append : ∀ {t log r}, shows t log → log.stream.token.IsToken → r.key = key → r.token.IsToken →
    Answers shows (Transport.append t r) (log.answer r)
  expect : ∀ {t log} token, shows t log → shows (Contestable.setToken t key token) (log.expecting token)
  /-- The transport does not know what others will do. -/
  blind : ∀ {t log} changes, shows t log → shows t { log with changes := changes }

section Contest
variable {shows : τ → Log → Prop} {reply : Reply τ σ κ Token} {answer : Log × Except Fault Token}
  {changes : List (Option Token)}

theorem Arrives.wrap (arrives : Arrives shows reply answer) (same : answer.1.changes = changes) :
    Arrives (Contested.Shows shows) (Contested.wrap changes reply) answer :=
  ⟨arrives.outcome, arrives.shown, same.symm⟩

variable [Transport τ σ κ] [Contestable τ]

theorem Answers.wrap (answers : Answers shows reply answer) (same : answer.1.changes = changes) :
    Answers (Contested.Shows shows) (Contested.wrap changes reply) answer := by
  cases answers with
  | now arrives => exact .now (arrives.wrap same)
  | later waits arrives => exact .later waits (arrives.wrap same)

theorem Log.changes_answer (log : Log) (r : Append) : (log.answer r).1.changes = log.changes := by
  unfold answer
  split <;> rfl

theorem Honours.faithful {key : Key} (honours : Honours shows key) :
    Faithful (Contested.Shows shows) key := by
  intro t log r shown proper sameKey token
  obtain ⟨t, changes⟩ := t
  obtain ⟨shown, rfl⟩ := shown
  have expected := proper.disturbed.token
  rw [Log.receive]
  cases coming : log.changes with
  | nil =>
    have calm : log.disturbed = log := by simp only [Log.disturbed, coming]
    rw [calm] at expected ⊢
    have answers := (honours.append shown expected sameKey token).wrap (log.changes_answer r)
    rwa [coming] at answers
  | cons change rest =>
    cases change with
    | none =>
      have calm : log.disturbed = { log with changes := rest } := by
        simp only [Log.disturbed, coming]
      rw [calm] at expected ⊢
      exact (honours.append (honours.blind rest shown) expected sameKey token).wrap
        (Log.changes_answer _ r)
    | some other =>
      have changed : log.disturbed = { log with changes := rest }.expecting other := by
        simp only [Log.disturbed, coming]
      rw [changed] at expected ⊢
      have shown := honours.expect other (honours.blind rest shown)
      rw [← sameKey] at shown
      exact (honours.append shown expected sameKey token).wrap (Log.changes_answer _ r)

end Contest

/-- The streams are the given one, under its key, and the others. -/
def Table.Keeps (t : Table Key StoredStream) (key : Key) (others : Key → Option StoredStream)
    (stream : StoredStream) : Prop :=
  ∀ other, t.get? other = if other = key then some stream else others other

namespace Table.Keeps
variable {t : Table Key StoredStream} {key : Key} {others : Key → Option StoredStream}
  {stream : StoredStream}

theorem self (keeps : t.Keeps key others stream) : t.get? key = some stream := by
  simpa using keeps key

theorem insert (keeps : t.Keeps key others stream) (stream' : StoredStream) :
    (t.insert key stream').Keeps key others stream' := by
  intro other
  by_cases same : other = key
  · subst same
    simp
  · rw [get?_insert_other t stream' same, keeps other, if_neg same, if_neg same]

end Table.Keeps

/-- A service that enforces sequence tokens. -/
structure Enforcer where
  streams : Table Key StoredStream
  issued : Nat
  /-- Errors name the expected token as data. -/
  structured : Bool

namespace Enforcer
open CloudWatch

def wording (expected : Token) : Text :=
  "The given sequenceToken is invalid. The next expected sequenceToken is: " ++
    if expected.isEmpty then Rejection.noToken else expected.shown

/-- The client puts the code before the wording, which makes it that of the transport in memory. -/
theorem wording_eq (expected : Token) :
    (Rejection.mismatchCode : Text) ++ ": " ++ wording expected = Memory.rejectionText expected := by
  have opening : (Rejection.mismatchCode : Text) ++ ": " ++
      "The given sequenceToken is invalid. The next expected sequenceToken is: " =
      Rejection.mismatchCode ++ ": The given sequenceToken is invalid. " ++
        "The next expected sequenceToken is: " := by decide +kernel
  rw [wording, Memory.rejectionText, ← opening]
  simp only [Text.append_assoc]

def mismatch (e : Enforcer) (expected : Token) : ServiceError where
  code := some (.text Rejection.mismatchCode)
  message := some (.text (wording expected))
  expected := if e.structured then some expected else none
  retriesExhausted := false
  retryAttempts := none
  operation := "PutLogEvents"

def missing : ServiceError where
  code := some (.text "ResourceNotFoundException")
  message := some (.text "The specified log stream does not exist.")
  expected := none
  retriesExhausted := false
  retryAttempts := none
  operation := "PutLogEvents"

/-- A request must carry the token that its stream expects. The tokens that are given out are those
of the transport in memory. -/
def put (e : Enforcer) (r : Append) : Except Fault Response × Enforcer :=
  match e.streams.get? r.key with
  | none => (.error (.service missing), e)
  | some stream =>
    if r.token.same stream.token then
      let next := .text (Memory.tokenText (e.issued + 1))
      (.ok (.mapping [(.text "nextSequenceToken", next)]),
        { e with
          streams := e.streams.insert r.key ⟨stream.events ++ r.events, next⟩
          issued := e.issued + 1 })
    else (.error (.service (e.mismatch stream.token)), e)

instance : Service Enforcer where
  answer e
    | .putLogEvents r => (⟨.zero false, (e.put r).1⟩, (e.put r).2)
    | _ => (.unscripted, e)

def setToken (e : Enforcer) (key : Key) (token : Token) : Enforcer :=
  match e.streams.get? key with
  | none => e
  | some stream => { e with streams := e.streams.insert key { stream with token := token } }

end Enforcer

namespace CloudWatch

instance : Contestable (CloudWatch Enforcer) where
  isConnected c := c.connected
  setToken c key token := { c with service := c.service.setToken key token }

structure Shows (key : Key) (others : Key → Option StoredStream) (c : CloudWatch Enforcer)
    (log : Log) : Prop where
  connected : c.client.isSome
  streams : c.service.streams.Keeps key others log.stream
  issued : c.service.issued = log.issued
  structured : c.service.structured = log.structured

variable {key : Key} {others : Key → Option StoredStream} {c : CloudWatch Enforcer} {log : Log}

/-- The fault that the client raises for a mismatch is the refusal of the log, with a cause. -/
theorem uncaused_mismatch (shown : Shows key others c log) (proper : log.stream.token.IsToken) :
    (putFault (.service (c.service.mismatch log.stream.token))).uncaused = log.refusal := by
  have wording := Enforcer.wording_eq log.stream.token
  simp only [putFault, ServiceError.appendFault, Enforcer.mismatch, if_true, shown.structured,
    Log.refusal, ← wording]
  cases log.structured with
  | false => rfl
  | true =>
    simp only [if_true, Option.getD_some, proper.orNull]
    rfl

theorem Shows.put (shown : Shows key others c log) (proper : log.stream.token.IsToken) {r : Append}
    (sameKey : r.key = key) (token : r.token.IsToken) :
    Shows key others { c with service := (c.service.put r).2 } (log.answer r).1 ∧
      uncaused (putOutcome (c.service.put r).1) = (log.answer r).2 := by
  subst sameKey
  have same := token.same_iff proper
  simp only [Enforcer.put, shown.streams.self, Log.answer]
  by_cases expected : r.token = log.stream.token
  · rw [if_pos (same.2 expected), if_pos expected, shown.issued]
    exact ⟨⟨shown.connected, shown.streams.insert _, rfl, shown.structured⟩, rfl⟩
  · rw [if_neg (mt same.1 expected), if_neg expected]
    exact ⟨shown, congrArg Except.error (uncaused_mismatch shown proper)⟩

theorem Shows.setToken (shown : Shows key others c log) (token : Token) :
    Shows key others { c with service := c.service.setToken key token } (log.expecting token) := by
  rw [Enforcer.setToken, shown.streams.self]
  exact ⟨shown.connected, shown.streams.insert _, shown.issued, shown.structured⟩

theorem putResult_state (c : CloudWatch Enforcer) (r : Append) (outcome : Except Fault Response) :
    (c.putResult r outcome).state = c := by
  cases outcome with
  | error fault => rfl
  | ok response => cases response <;> rfl

/-- An append waits for its call, on which the service has decided by then. -/
theorem append_connected {r : Append} (connected : c.client.isSome) (token : r.token.IsToken) :
    CloudWatch.append c r = ⟨{ c with service := (c.service.put r).2 },
      [.call (.putLogEvents r)],
      .suspended (.putting r c.timeout ⟨.zero false, (c.service.put r).1⟩)⟩ := by
  have unchanged : wireRequest r = r := by rw [wireRequest, token.orNull]
  unfold CloudWatch.append
  split
  · simp_all
  · rw [unchanged]
    rfl

theorem arrives_ready (r : Append) (outcome : Except Fault Response) {limit : Binary64}
    {answer : Log × Except Fault Token} (shown : Shows key others c answer.1)
    (same : uncaused (putOutcome outcome) = answer.2) :
    Arrives (Shows key others)
      (Transport.resume c (Stage.putting r limit ⟨.zero false, outcome⟩) .ready) answer := by
  have resumed : Transport.resume c (Stage.putting r limit ⟨.zero false, outcome⟩) .ready =
      c.putResult r outcome := rfl
  rw [resumed]
  refine ⟨⟨_, c.putResult_progress r outcome, same⟩, ?_⟩
  rw [putResult_state]
  exact shown

theorem honours (key : Key) (others : Key → Option StoredStream) :
    Honours (Shows key others) key where
  append {c log r} shown proper sameKey token := by
    obtain ⟨kept, same⟩ := shown.put proper sameKey token
    have append : Transport.append c r = _ := append_connected shown.connected token
    rw [append]
    exact .later rfl (arrives_ready r (c.service.put r).1 kept same)
  expect token shown := shown.setToken token
  blind changes shown := ⟨shown.connected, shown.streams, shown.issued, shown.structured⟩

end CloudWatch

namespace Memory

instance : Contestable Memory where
  isConnected m := m.connected
  setToken := setToken

structure Shows (key : Key) (others : Key → Option StoredStream) (m : Memory) (log : Log) : Prop where
  connected : m.connected = true
  flawless : m.failures = []
  streams : m.streams.Keeps key others log.stream
  issued : m.issued = log.issued
  structured : m.structured = log.structured

variable {key : Key} {others : Key → Option StoredStream} {m : Memory} {log : Log}

theorem Shows.stream (shown : Shows key others m log) : m.stream key = log.stream := by
  rw [Memory.stream, shown.streams.self]
  rfl

theorem Shows.setToken (shown : Shows key others m log) (token : Token) :
    Shows key others (m.setToken key token) (log.expecting token) := by
  rw [Memory.setToken, shown.stream]
  exact ⟨shown.connected, shown.flawless, shown.streams.insert _, shown.issued, shown.structured⟩

theorem Shows.commit (shown : Shows key others m log) (proper : log.stream.token.IsToken) {r : Append}
    (sameKey : r.key = key) (token : r.token.IsToken) :
    Shows key others (m.commit r).1 (log.answer r).1 ∧
      uncaused (m.commit r).2 = (log.answer r).2 := by
  subst sameKey
  have same := token.same_iff proper
  have present : ((m.streams.get? r.key).isNone && !m.autoCreate) = false := by
    rw [shown.streams.self]
    rfl
  simp only [Memory.commit, shown.flawless, present, shown.stream, Log.answer]
  by_cases expected : r.token = log.stream.token
  · rw [if_neg Bool.false_ne_true, if_pos (same.2 expected), if_pos expected, shown.issued]
    exact ⟨⟨shown.connected, shown.flawless, shown.streams.insert _, rfl, shown.structured⟩, rfl⟩
  · rw [if_neg Bool.false_ne_true, if_neg (mt same.1 expected), if_neg expected]
    refine ⟨⟨shown.connected, shown.flawless, shown.streams.insert _, shown.issued,
      shown.structured⟩, ?_⟩
    rw [rejection, shown.structured, Log.refusal]
    cases log.structured <;> rfl

theorem Shows.settle (shown : Shows key others m log) (proper : log.stream.token.IsToken) {r : Append}
    (sameKey : r.key = key) (token : r.token.IsToken) :
    Arrives (Shows key others) (m.settle r) (log.answer r) := by
  obtain ⟨kept, same⟩ := shown.commit proper sameKey token
  exact ⟨⟨_, rfl, same⟩, kept⟩

theorem honours (key : Key) (others : Key → Option StoredStream) :
    Honours (Shows key others) key where
  append {m log r} shown proper sameKey token := by
    let received := { m with calls := m.calls ++ [r] }
    have shown' : Shows key others received log :=
      ⟨shown.connected, shown.flawless, shown.streams, shown.issued, shown.structured⟩
    have arrives := shown'.settle proper sameKey token
    by_cases instant : m.delay.isZero = true
    · have append : Transport.append m r =
          { received.settle r with remarks := .call r :: (received.settle r).remarks } := by
        simp [Transport.append, Memory.append, shown.connected, instant, received]
      rw [append]
      exact .now ⟨arrives.outcome, arrives.shown⟩
    · have append : Transport.append m r = ⟨received, [.call r], .suspended ⟨r, m.delay⟩⟩ := by
        simp [Transport.append, Memory.append, shown.connected, instant, received]
      rw [append]
      exact .later rfl arrives
  expect token shown := shown.setToken token
  blind changes shown :=
    ⟨shown.connected, shown.flawless, shown.streams, shown.issued, shown.structured⟩

end Memory

end SequenceLog

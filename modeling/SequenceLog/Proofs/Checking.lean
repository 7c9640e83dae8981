import SequenceLog.Proofs.Expectation
import SequenceLog.Proofs.Trial
import SequenceLog.Proofs.Upkeep
import SequenceLog.Proofs.Yield
/-! What becomes of an append that is checked. A memory that is connected, creates what is missing and
is given no failures refuses an append only for its token, and tells the token that the stream expects
at this very moment; the batch sends that one next. Main statements: `checks_settle`,
`sends_sendBatch` and `seeded_prepare`. -/
namespace SequenceLog
open Scenario

namespace Memory
variable {m : Memory} {r : Append}

theorem token_store (m : Memory) (key other : Key) (s : StoredStream) :
    (m.store key s).token other = if other = key then s.token else m.token other := by
  by_cases own : other = key
  · rw [if_pos own, own, token_eq, expects_store_self]
    rfl
  · rw [if_neg own, token_eq, expects_store_other s own, token_eq]

theorem token_store_stream (m : Memory) (key other : Key) :
    (m.store key (m.stream key)).token other = m.token other := by
  rw [token_store]
  split
  · rename_i own
    rw [own]
    rfl
  · rfl

/-- The memory refuses an append for nothing but its token, and tells the right one. -/
structure Cooperates (m : Memory) : Prop where
  connected : m.connected = true
  structured : m.structured = true
  autoCreate : m.autoCreate = true
  failures : m.failures = []
  /-- What a stream expects can be met: no token is a number that differs from itself. -/
  meetable : ∀ key, (m.token key).same (m.token key) = true

namespace Cooperates

theorem store (cooperates : m.Cooperates) {s : StoredStream} (meetable : s.token.same s.token = true)
    (key : Key) : (m.store key s).Cooperates where
  connected := cooperates.connected
  structured := cooperates.structured
  autoCreate := cooperates.autoCreate
  failures := cooperates.failures
  meetable other := by
    rw [token_store]
    split
    · exact meetable
    · exact cooperates.meetable other

theorem counted (cooperates : m.Cooperates) (issued : Nat) (calls : List Append) :
    { m with issued := issued, calls := calls }.Cooperates :=
  ⟨cooperates.connected, cooperates.structured, cooperates.autoCreate, cooperates.failures,
    cooperates.meetable⟩

theorem accepts (cooperates : m.Cooperates) (same : r.token.same (m.token r.key) = true) :
    (m.commit r).1.Cooperates ∧ ∃ next, (m.commit r).2 = .ok next := by
  rw [(Decides.accepted cooperates.failures (.inr cooperates.autoCreate) same).commit_eq]
  have next : (Json.Value.text (tokenText (m.issued + 1))).same (.text (tokenText (m.issued + 1))) =
      true := (Json.Value.same_text ..).2 rfl
  exact ⟨(cooperates.store next r.key).counted _ _, _, rfl⟩

theorem refuses (cooperates : m.Cooperates) (other : r.token.same (m.token r.key) = false) :
    (m.commit r).1.Cooperates ∧ (∀ key, (m.commit r).1.token key = m.token key) ∧
      ∃ fault, (m.commit r).2 = .error fault ∧ fault.isFailure = true ∧
        fault.expected? = some ⟨m.token r.key⟩ := by
  rw [(Decides.refused cooperates.failures (.inr cooperates.autoCreate) other).commit_eq]
  refine ⟨cooperates.store (cooperates.meetable r.key) r.key, token_store_stream m r.key, _, rfl, ?_⟩
  rw [rejection, if_pos cooperates.structured]
  exact ⟨rfl, rfl⟩

theorem commit (cooperates : m.Cooperates) (r : Append) : (m.commit r).1.Cooperates := by
  cases same : r.token.same (m.token r.key) with
  | true => exact (cooperates.accepts same).1
  | false => exact (cooperates.refuses same).1

end Cooperates

/-- How far an append comes in a memory that cooperates: it sleeps, or is decided at once. -/
inductive Receives (m : Memory) (r : Append) (reply : Reply Memory SleepingAppend Append Token) : Prop
  | sleeps {asleep : SleepingAppend} : reply.state.Cooperates →
      (∀ key, reply.state.token key = m.token key) → asleep.request = r →
      reply.progress = .suspended asleep → Receives m r reply
  | decides {received : Memory} : received.Cooperates → (∀ key, received.token key = m.token key) →
      reply.state = (received.commit r).1 → reply.progress = .finished (received.commit r).2 →
      Receives m r reply

theorem Cooperates.receives (cooperates : m.Cooperates) (r : Append) : m.Receives r (m.append r) := by
  have received : { m with calls := m.calls ++ [r] }.Cooperates := cooperates.counted m.issued _
  unfold append
  rw [if_pos cooperates.connected]
  dsimp only
  split
  · exact .decides received (fun _ => rfl) rfl rfl
  · exact .sleeps received (fun _ => rfl) rfl rfl

theorem Receives.cooperates {reply : Reply Memory SleepingAppend Append Token}
    (receives : m.Receives r reply) : reply.state.Cooperates := by
  cases receives with
  | sleeps cooperates => exact cooperates
  | decides received _ state => exact state ▸ received.commit r

/-- The memory goes on cooperating in all its operations. -/
theorem upkeep_cooperates : Upkeep Cooperates (fun _ : SleepingAppend => True) fun _ => True where
  append cooperates request _ := ⟨(cooperates.receives request).cooperates, fun _ _ => trivial⟩
  ensureStream {m} cooperates key := by
    refine ⟨?_, fun _ _ => trivial⟩
    change (m.ensureStream key).state.Cooperates
    rw [Memory.ensureStream, if_pos cooperates.connected]
    exact cooperates.store (cooperates.meetable key) key
  resume {m asleep} cooperates _ signal := by
    refine ⟨?_, fun _ _ => trivial⟩
    cases signal with
    | ready => exact cooperates.commit asleep.request
    | expired | interrupted => exact cooperates

theorem cooperates_new (delay : Binary64) : (Memory.new true true delay).connect.Cooperates :=
  ⟨rfl, rfl, rfl, rfl, fun _ => rfl⟩

end Memory

/-- A move that leaves the settings of the memory alone, injects no failure and does not close it, and
makes no stream expect a number that differs from itself. -/
def Move.Lenient : Move Memory.Command Empty → Prop
  | .command .close | .command (.inject _) | .command (.configure ..) => False
  | .command (.setToken _ token) => token.same token = true
  | _ => True

theorem Move.Lenient.upholds {move : Move Memory.Command Empty} (lenient : move.Lenient) :
    move.Upholds Memory.Cooperates := by
  cases move with
  | command command =>
    intro m cooperates
    cases command with
    | close | inject | configure => exact lenient.elim
    | connect =>
      exact ⟨rfl, cooperates.structured, cooperates.autoCreate, cooperates.failures,
        cooperates.meetable⟩
    | setToken key token =>
      exact cooperates.store (s := { m.stream key with token := token }) lenient key
    | deleteStream key =>
      refine ⟨cooperates.connected, cooperates.structured, cooperates.autoCreate,
        cooperates.failures, fun other => ?_⟩
      change ((m.deleteStream key).token other).same ((m.deleteStream key).token other) = true
      rw [Memory.token_eq, Memory.expects_deleteStream]
      split
      · rfl
      · rw [← Memory.token_eq]
        exact cooperates.meetable other
    | _ => exact cooperates
  | chore stage => cases stage
  | _ => trivial

/-- What becomes of a batch whose append with `token` is checked where `expected` is the token to meet,
with `left` more to try. It is over if the token was right, or if it was not and no append is left;
else it sends `expected`, and that one is accepted at once or has to sleep. -/
inductive Checked (id : WriterId) (key : Key) (events : List LogEvent) (expected token : Token) :
    Nat → List Deed → Progress (Activity SleepingAppend) Answer → Prop
  | accepted {left next} : token.same expected = true →
      Checked id key events expected token left [.settled (.ok next)] (.finished (.ok .nothing))
  | corrected {left fault next} : token.same expected = false →
      Checked id key events expected token (left + 1)
        [.settled (.error fault), .sent ⟨key, expected, events⟩, .settled (.ok next)]
        (.finished (.ok .nothing))
  | repeated {left fault asleep} : token.same expected = false →
      asleep.request = ⟨key, expected, events⟩ →
      Checked id key events expected token (left + 1)
        [.settled (.error fault), .sent ⟨key, expected, events⟩]
        (.suspended (.batch id events (.sending left asleep)))
  | exhausted {fault} : token.same expected = false →
      Checked id key events expected token 0 [.settled (.error fault), .removed key]
        (.finished (.error (.unrecoverable key.group key.stream fault true)))

namespace Session
variable {s : Session Memory SleepingAppend Append} {id : WriterId} {events : List LogEvent}
  {m : Memory} {token : Token} {left : Nat}

/-- The batch goes on with the check of its append. If it has to wait then, the stream still expects
what it did. -/
structure Checks (s : Session Memory SleepingAppend Append) (id : WriterId) (events : List LogEvent)
    (expected token : Token) (left : Nat) (stepped : Stepped Memory SleepingAppend Append) : Prop where
  outcome : ∃ deeds, stepped.session.deeds id = s.deeds id ++ deeds ∧
    Checked id (s.writer id).key events expected token left deeds stepped.progress
  kept : ∀ activity, stepped.progress = .suspended activity →
    stepped.session.transport.token (s.writer id).key = expected

theorem deeds_accepted {τ σ κ : Type} [Transport τ σ κ] (s : Session τ σ κ) (id : WriterId)
    (events : List LogEvent) (left : Nat) (next : Token) :
    (s.settle id events left (.ok next)).session.deeds id = s.deeds id ++ [.settled (.ok next)] ∧
      (s.settle id events left (.ok next)).progress = .finished (.ok .nothing) := by
  cases left <;> simp [settle, finished, Happening.deed?]

theorem deeds_stopped {τ σ κ : Type} [Transport τ σ κ] (s : Session τ σ κ) (id : WriterId)
    (events : List LogEvent) (left : Nat) {fault : Fault} (passed : fault.isFailure = false) :
    (s.settle id events left (.error fault)).session.deeds id =
        s.deeds id ++ [.settled (.error fault)] ∧
      (s.settle id events left (.error fault)).progress = .finished (.error fault) := by
  cases left <;> simp [settle, passed, finished, Happening.deed?]

theorem deeds_exhausted {τ σ κ : Type} [Transport τ σ κ] (s : Session τ σ κ)
    (known : id < s.writers.length) (events : List LogEvent) {fault : Fault}
    (failed : fault.isFailure = true) :
    (s.settle id events 0 (.error fault)).session.deeds id =
        s.deeds id ++ [.settled (.error fault), .removed (s.writer id).key] ∧
      (s.settle id events 0 (.error fault)).progress =
        .finished (.error ((s.writer id).appendFault fault)) := by
  let noticed := (s.note [.settled id (.error fault)]).notice fault.expectedNotices
  have told : ((noticed.retire id fault).releaseWriter id).deeds id =
      s.deeds id ++ [.settled (.error fault), .removed (s.writer id).key] := by
    rw [deeds_releaseWriter, deeds_retire noticed id known fault]
    simp [noticed, Happening.deed?]
  simp only [settle, failed, if_true]
  cases fault.expected? <;> exact ⟨told, rfl⟩

theorem checks_resend (cooperates : s.transport.Cooperates) {expected : Token}
    (expects : expected = s.transport.token (s.writer id).key)
    (stale : token.same expected = false) {fault : Fault} (failed : fault.isFailure = true)
    (told : fault.expected? = some ⟨expected⟩) :
    Checks s id events expected token (left + 1) (s.settle id events (left + 1) (.error fault)) := by
  subst expects
  obtain ⟨notices, repeated⟩ := settle_repeats s id events left failed told
  have deeds := deeds_resend s id events fault notices ⟨s.transport.token (s.writer id).key⟩
  let request : Append := ⟨(s.writer id).key, s.transport.token (s.writer id).key, events⟩
  have receives : s.transport.Receives request (s.transport.append request) :=
    cooperates.receives request
  rw [repeated]
  generalize made : s.resend id events fault notices ⟨s.transport.token (s.writer id).key⟩ = resent
    at deeds ⊢
  have state : resent.1.transport = (s.transport.append request).state := by
    rw [← made]
    rfl
  have progress : resent.2 = (s.transport.append request).progress := by
    rw [← made]
    rfl
  cases receives with
  | @sleeps asleep _ same own sleeps =>
    rw [progress, sleeps]
    refine ⟨⟨_, deeds, .repeated stale own⟩, fun _ _ => ?_⟩
    change resent.1.transport.token _ = _
    rw [state, same]
  | @decides received cooperates' same _ decided =>
    -- what is expected now is what was told
    have met : request.token.same (received.token request.key) = true := by
      rw [same]
      exact cooperates.meetable _
    obtain ⟨-, next, accepted⟩ := cooperates'.accepts met
    rw [progress, decided, accepted]
    obtain ⟨grown, ended⟩ := deeds_accepted resent.1 id events left next
    refine ⟨⟨_, grown.trans (by rw [deeds, List.append_assoc]), ?_⟩, fun _ waits => ?_⟩
    · rw [show (resent.1.pursue id events left (.finished (.ok next))).progress = _ from ended]
      exact .corrected stale
    · cases ended.symm.trans waits

theorem checks_settle (known : id < s.writers.length) (cooperates : m.Cooperates)
    {request : Append} (own : request = ⟨(s.writer id).key, token, events⟩)
    (state : s.transport = (m.commit request).1) (left : Nat) :
    Checks s id events (m.token (s.writer id).key) token left
      (s.settle id events left (m.commit request).2) := by
  subst own
  cases same : token.same (m.token (s.writer id).key) with
  | true =>
    obtain ⟨-, next, accepted⟩ := cooperates.accepts (r := ⟨(s.writer id).key, token, events⟩) same
    rw [accepted]
    obtain ⟨grown, ended⟩ := deeds_accepted s id events left next
    exact ⟨⟨_, grown, ended ▸ .accepted same⟩, fun _ waits => by cases ended.symm.trans waits⟩
  | false =>
    obtain ⟨cooperates', expects, fault, refused, failed, told⟩ :=
      cooperates.refuses (r := ⟨(s.writer id).key, token, events⟩) same
    rw [refused]
    rw [← state] at cooperates' expects
    cases left with
    | zero =>
      obtain ⟨grown, ended⟩ := deeds_exhausted s known events failed
      exact ⟨⟨_, grown, ended ▸ .exhausted same⟩, fun _ waits => by cases ended.symm.trans waits⟩
    | succ left => exact checks_resend cooperates' (expects _).symm same failed told

/-- How the turn ends in which a batch gets the lock of an active writer: its first append sleeps, or it
was checked at once. -/
inductive Sends (s : Session Memory SleepingAppend Append) (id : WriterId) (events : List LogEvent)
    (stepped : Stepped Memory SleepingAppend Append) : Prop
  | sleeps {asleep} :
      stepped.session.deeds id =
        s.deeds id ++ [.sent ((s.writer id).request (s.writer id).token events)] →
      asleep.request = (s.writer id).request (s.writer id).token events →
      stepped.session.transport.token (s.writer id).key = s.transport.token (s.writer id).key →
      stepped.progress = .suspended (.batch id events (.sending (s.writer id).retries asleep)) →
      Sends s id events stepped
  | checked {deeds} : stepped.session.deeds id = s.deeds id ++
        .sent ((s.writer id).request (s.writer id).token events) :: deeds →
      Checked id (s.writer id).key events (s.transport.token (s.writer id).key) (s.writer id).token
        (s.writer id).retries deeds stepped.progress →
      (∀ activity, stepped.progress = .suspended activity →
        stepped.session.transport.token (s.writer id).key = s.transport.token (s.writer id).key) →
      Sends s id events stepped

theorem sends_sendBatch (known : id < s.writers.length) (active : (s.writer id).status = .active)
    (cooperates : s.transport.Cooperates) (events : List LogEvent) :
    Sends s id events (s.sendBatch id events) := by
  rw [sendBatch_active active]
  let request := (s.writer id).request (s.writer id).token events
  have deeds := deeds_send s id events (s.writer id).token
  have receives : s.transport.Receives request (s.transport.append request) :=
    cooperates.receives request
  generalize made : s.send id events (s.writer id).token = sent at deeds ⊢
  have writers : sent.1.writers = s.writers := by
    rw [← made]
    rfl
  have writer : sent.1.writer id = s.writer id := by rw [writer, writers, writer]
  have state : sent.1.transport = (s.transport.append request).state := by
    rw [← made]
    rfl
  have progress : sent.2 = (s.transport.append request).progress := by
    rw [← made]
    rfl
  cases receives with
  | @sleeps asleep _ same own sleeps =>
    rw [progress, sleeps]
    exact .sleeps deeds own (by rw [← same, ← state]; rfl) rfl
  | @decides received cooperates' same decided outcome =>
    have known' : id < sent.1.writers.length := by rwa [writers]
    have own : request = ⟨(sent.1.writer id).key, (s.writer id).token, events⟩ := by
      rw [writer]
      rfl
    obtain ⟨⟨more, grown, checked⟩, kept⟩ :=
      checks_settle known' cooperates' own (state.trans decided) (s.writer id).retries
    rw [writer, same] at checked kept
    rw [progress, outcome]
    exact .checked (grown.trans (by rw [deeds, List.append_assoc]; rfl)) checked kept

/-- The writers from the number `n` on have the tokens that their streams expect. -/
def Seeded (n : Nat) (s : Session Memory SleepingAppend Append) : Prop :=
  ∀ w ∈ s.writers.drop n, w.token.same (s.transport.token w.key) = true

theorem Seeded.of_same {n : Nat} (same : s.writers.length = n) : s.Seeded n := by
  intro w member
  rw [← same, List.drop_length] at member
  cases member

theorem seeded_openPrepared {key : Key} (meets : token.same (s.transport.token key) = true)
    (era : Nat) :
    (s.openPrepared key era (.ok token)).session.Seeded s.writers.length := by
  have transport := s.openPrepared_transport key era (.ok token)
  intro w member
  rw [transport]
  unfold openPrepared at member
  split at member
  · rw [finished, releaseKey_writers, List.drop_length] at member
    cases member
  · rename_i opened made
    rw [finished, releaseKey_writers] at member
    have one : w = opened := by simpa using member
    obtain ⟨key, -, given, -⟩ := Writer.new?_ok made
    rwa [one, key, given]

theorem seeded_prepare (creates : s.pool.createStreams = true) (cooperates : s.transport.Cooperates)
    (key : Key) (era : Nat) : (s.prepare key era).session.Seeded s.writers.length := by
  unfold prepare
  split
  · exact .of_same (by rw [finished, releaseKey_writers])
  · rw [if_pos creates]
    have ensured : Transport.ensureStream s.transport key =
        (⟨s.transport.store key (s.transport.stream key), [],
          .finished (.ok (s.transport.token key))⟩ : Reply Memory SleepingAppend Append Token) :=
      if_pos cooperates.connected
    simp only [ensured]
    refine seeded_openPrepared (s := s.absorb _) ?_ era
    rw [absorb_transport, Memory.token_store_stream]
    exact cooperates.meetable key

theorem seeded_startLookup (creates : s.pool.createStreams = true)
    (cooperates : s.transport.Cooperates) (task : TaskId) (key : Key) :
    (s.startLookup task key).session.Seeded s.writers.length := by
  unfold startLookup
  split
  · exact .of_same rfl
  · dsimp only
    split
    · exact seeded_prepare (s := s.setKeyLock _ _ _) creates cooperates key _
    · exact .of_same rfl

theorem seeded_resumeLookup (creates : s.pool.createStreams = true)
    (cooperates : s.transport.Cooperates) (task : TaskId) (key : Key) (era : Nat) (signal : Signal) :
    (s.resumeLookup task key era .queued signal).session.Seeded s.writers.length := by
  cases signal with
  | ready =>
    simp only [resumeLookup]
    split
    · exact seeded_prepare (s := s.setKeyLock _ _ _) creates cooperates key era
    · exact .of_same rfl
  | expired | interrupted => exact .of_same (by simp [resumeLookup, finished, setKeyLock])

end Session
end SequenceLog

import SequenceLog.Proofs.Admission
import SequenceLog.Proofs.Checking
import SequenceLog.Proofs.Containment
import SequenceLog.Proofs.Delivery
import SequenceLog.Proofs.Interruption
import SequenceLog.Proofs.SingleUse
/-! Contention for a stream. A memory that cooperates refuses an append of a batch only where others have
changed what the stream expects since the token of the append was told. What an append owes is paid for
by a turn in which somebody disturbs the stream; the balance is kept by every turn of a run. Main
statement: `bounded_interference`. -/
namespace SequenceLog
open Scenario

section Counts
variable {τ σ κ μ χ : Type}

def Turn.Settles (turn : Turn τ σ κ μ χ) (id : WriterId) (call : CallId) : Prop :=
  turn.call = some call ∧ Deed.outcomes (turn.after.deeds id) ≠ []

/-- The turns in which an append of the call was decided. -/
def Run.checks (r : Run τ σ κ μ χ) (id : WriterId) (call : CallId) : Set Nat :=
  {k | r.At k (·.Settles id call)}

def Run.rounds (r : Run τ σ κ μ χ) (call : CallId) (e : Nat) : Nat :=
  (r.turns.drop (e + 1)).countP (·.call = some call)

/-- In the turn somebody else than the call changes the token that the stream expects, which is none for
a stream that is not there. -/
def Turn.Disturbs (turn : MemoryTurn) (key : Key) (call : CallId) : Prop :=
  turn.call ≠ some call ∧ turn.before.transport.token key ≠ turn.after.transport.token key

instance (turn : MemoryTurn) (key : Key) (call : CallId) : Decidable (turn.Disturbs key call) :=
  inferInstanceAs (Decidable (_ ∧ _))

def Run.disturbances (r : MemoryRun) (key : Key) (call : CallId) (i j : Nat) : Nat :=
  ((r.turns.take j).drop (i + 1)).countP (·.Disturbs key call)

/-- An append that is under way with the token owes something if it would be refused as things are. -/
def Run.debt (r : MemoryRun) (key : Key) (token : Token) : Nat :=
  if token.same (r.session.transport.token key) then 0 else 1

section Concat
variable {r r' : Run τ σ κ μ χ} {turn : Turn τ σ κ μ χ} {id : WriterId} {call : CallId} {i k : Nat}

theorem Run.checks_lt (member : k ∈ r.checks id call) : k < r.turns.length := Run.At.lt member

theorem Run.mem_checks_concat (turns : r'.turns = r.turns ++ [turn]) :
    k ∈ r'.checks id call ↔ k ∈ r.checks id call ∨ k = r.turns.length ∧ turn.Settles id call :=
  Run.at_concat turns

theorem Run.checks_same (turns : r'.turns = r.turns ++ [turn]) (quiet : ¬ turn.Settles id call) :
    r'.checks id call = r.checks id call := by
  ext k
  simp [mem_checks_concat turns, quiet]

theorem Run.first_check (turns : r'.turns = r.turns ++ [turn]) (first : IsLeast (r.checks id call) i) :
    IsLeast (r'.checks id call) i := by
  refine ⟨(mem_checks_concat turns).2 (.inl first.1), fun k member => ?_⟩
  rcases (mem_checks_concat turns).1 member with old | ⟨rfl, -⟩
  · exact first.2 old
  · exact Nat.le_of_lt (checks_lt first.1)

theorem Run.first_check_now (turns : r'.turns = r.turns ++ [turn]) (none : ∀ k, k ∉ r.checks id call)
    (settles : turn.Settles id call) : IsLeast (r'.checks id call) r.turns.length := by
  refine ⟨(mem_checks_concat turns).2 (.inr ⟨rfl, settles⟩), fun k member => ?_⟩
  rcases (mem_checks_concat turns).1 member with old | ⟨rfl, -⟩
  · exact absurd old (none k)
  · exact Nat.le_refl _

theorem Run.last_check (turns : r'.turns = r.turns ++ [turn]) :
    ∀ k ∈ r'.checks id call, k ≤ r.turns.length := by
  intro k member
  rcases (mem_checks_concat turns).1 member with old | ⟨rfl, -⟩
  · exact Nat.le_of_lt (checks_lt old)
  · exact Nat.le_refl _

theorem Run.checks_of_silent (silent : r.deedsOf id call = []) (k : Nat) :
    k ∉ r.checks id call := by
  rintro ⟨turn, there, own, decided⟩
  apply decided
  suffices none : turn.after.deeds id = [] by simp [none]
  rw [deedsOf, List.filterMap_eq_nil_iff] at silent
  refine List.eq_nil_iff_forall_not_mem.2 fun deed member => ?_
  have told : (call, deed) ∈ r.chronicle id :=
    List.mem_flatMap.2 ⟨turn, List.mem_of_getElem? there, by simp [Turn.deeds, own, member]⟩
  simpa using silent _ told

theorem Run.rounds_concat (turns : r'.turns = r.turns ++ [turn]) {e : Nat} (since : e < r.turns.length) :
    r'.rounds call e = r.rounds call e + if turn.call = some call then 1 else 0 := by
  rw [rounds, turns, List.drop_append_of_le_length since, List.countP_append, rounds]
  simp [List.countP_cons]

end Concat

section Disturbances
variable {r r' : MemoryRun} {turn : MemoryTurn} {key : Key} {call : CallId} {i j : Nat}

/-- What disturbed the stream before a turn is settled. -/
theorem Run.disturbances_old (turns : r'.turns = r.turns ++ [turn]) (past : j ≤ r.turns.length) :
    r'.disturbances key call i j = r.disturbances key call i j := by
  rw [disturbances, turns, List.take_append_of_le_length past, disturbances]

theorem Run.disturbances_concat (turns : r'.turns = r.turns ++ [turn]) (since : i < r.turns.length) :
    r'.disturbances key call i r'.turns.length =
      r.disturbances key call i r.turns.length + if turn.Disturbs key call then 1 else 0 := by
  rw [disturbances, List.take_length, turns, List.drop_append_of_le_length since,
    List.countP_append, disturbances, List.take_length]
  simp [List.countP_cons]

theorem Run.disturbances_self : r.disturbances key call i i = 0 := by
  have none : (r.turns.take i).drop (i + 1) = [] :=
    List.drop_eq_nil_of_le (Nat.le_succ_of_le (List.length_take_le ..))
  rw [disturbances, none]
  rfl

theorem Run.disturbances_own (turns : r'.turns = r.turns ++ [turn]) (own : turn.call = some call)
    (since : i ≤ r.turns.length) :
    r'.disturbances key call i r'.turns.length = r'.disturbances key call i r.turns.length := by
  rcases Nat.lt_or_eq_of_le since with before | now
  · rw [disturbances_concat turns before, disturbances_old turns (Nat.le_refl _)]
    simp [Turn.Disturbs, own]
  · have past : r'.turns.length ≤ i + 1 := by simp [turns, now]
    rw [now, disturbances_self, disturbances, List.take_length, ← now, List.drop_eq_nil_of_le past]
    rfl

end Disturbances
end Counts

/-- The refusals since the turn `i`, and what an append with the token owes, were paid for by
disturbances of the stream since then, but for `slack`. -/
structure Tallies (r : MemoryRun) (call : CallId) (key : Key) (token : Token) (i slack refused : Nat) :
    Prop where
  since : i < r.turns.length
  balance : refused + r.debt key token ≤ slack + r.disturbances key call i r.turns.length

namespace Tallies
variable {r r' : MemoryRun} {turn : MemoryTurn} {call : CallId} {key : Key} {token : Token}
  {i slack refused : Nat}

/-- A turn of somebody else pays for what it makes the append owe. -/
theorem foreign (tallies : Tallies r call key token i slack refused)
    (turns : r'.turns = r.turns ++ [turn]) (before : turn.before.transport = r.session.transport)
    (after : turn.after.transport = r'.session.transport) (foreign : turn.call ≠ some call) :
    Tallies r' call key token i slack refused where
  since := by
    rw [turns, List.length_append]
    exact Nat.lt_add_right _ tallies.since
  balance := by
    have paid : r'.debt key token ≤
        r.debt key token + if turn.Disturbs key call then 1 else 0 := by
      by_cases same : turn.before.transport.token key = turn.after.transport.token key
      · rw [before, after] at same
        rw [Run.debt, Run.debt, same]
        exact Nat.le_add_right ..
      · rw [if_pos ⟨foreign, same⟩, Run.debt]
        split <;> omega
    have balance := tallies.balance
    rw [Run.disturbances_concat turns tallies.since]
    omega

theorem stale (tallies : Tallies r call key token i slack refused)
    (stale : token.same (r.session.transport.token key) = false) :
    refused + 1 ≤ slack + r.disturbances key call i r.turns.length := by
  have balance := tallies.balance
  rwa [Run.debt, if_neg (Bool.eq_false_iff.1 stale)] at balance

end Tallies

/-- What a batch of the writer `w` came to in the turn `z`, after it had got the lock in the turn `e` and
had sent so many appends. It returned; it was cancelled; or its last append was refused like all
before it, and then others disturbed the stream as often as it sent again. -/
inductive ComesTo (r : MemoryRun) (id : WriterId) (call : CallId) (w : Writer) (e slack z : Nat)
    (turn : MemoryTurn) : (sent : Nat) → Except Fault Answer → Prop
  | returned {refused} : refused ≤ slack + r.disturbances w.key call e z →
      ComesTo r id call w e slack z turn (refused + 1) (.ok .nothing)
  | cancelled {refused} : refused ≤ slack + r.disturbances w.key call e z → turn.Cancels →
      ComesTo r id call w e slack z turn (refused + 1) (.error .stopped)
  | defeated {i fault} : IsLeast (r.checks id call) i → z ∈ r.checks id call →
      w.retries ≤ r.disturbances w.key call i z →
      w.retries + 1 ≤ slack + r.disturbances w.key call e z →
      ComesTo r id call w e slack z turn (w.retries + 1)
        (.error (.unrecoverable w.key.group w.key.stream fault true))

/-- A batch that got the lock of the writer `w` in the turn `e` has an append with the token under way,
after so many that were refused. The balance holds since the turn `e`, and since the first check. -/
structure Awaits (r : MemoryRun) (id : WriterId) (call : CallId) (w : Writer) (events : List LogEvent)
    (e slack : Nat) (task : TaskId) (left : Nat) (asleep : SleepingAppend) (refused : Nat)
    (token : Token) : Prop where
  under : r.session.active task = some (.batch id events (.sending left asleep))
  own : r.call task = call
  key : (r.session.writer id).key = w.key
  request : asleep.request = ⟨w.key, token, events⟩
  budget : refused + left = w.retries
  sent : (Deed.requests (r.deedsOf id call)).length = refused + 1
  rounds : r.rounds call e ≤ refused
  tallies : Tallies r call w.key token e slack refused
  first : (refused = 0 ∧ ∀ k, k ∉ r.checks id call) ∨
    ∃ i earlier, refused = earlier + 1 ∧ IsLeast (r.checks id call) i ∧
      Tallies r call w.key token i 0 earlier

/-- How a batch fares that got the lock of the writer `w` in the turn `e`: it has an append under way,
or it is over. -/
inductive Chases (r : MemoryRun) (id : WriterId) (call : CallId) (w : Writer)
    (events : List LogEvent) (e slack : Nat) : Prop
  | waits {task left asleep refused token} :
      Awaits r id call w events e slack task left asleep refused token →
      Chases r id call w events e slack
  | ended {z turn result sent} : r.turns[z]? = some turn → turn.call = some call →
      turn.result = some result → r.results call = [result] → call < r.operations.length →
      (Deed.requests (r.deedsOf id call)).length = sent → (∀ k ∈ r.checks id call, k ≤ z) →
      ComesTo r id call w e slack z turn sent result → Chases r id call w events e slack

section Chase
variable {r r' : MemoryRun} {turn : MemoryTurn} {task : TaskId}
  {stepped : Stepped Memory SleepingAppend Append} {id : WriterId} {call : CallId} {w : Writer}
  {events : List LogEvent} {e slack refused left : Nat} {expected token : Token}

structure Pursues (r r' : MemoryRun) (turn : MemoryTurn) (task : TaskId)
    (stepped : Stepped Memory SleepingAppend Append) (id : WriterId) (call : CallId) (w : Writer) :
    Prop where
  takes : Takes r r' task stepped
  own : r'.call task = call
  turns : r'.turns = r.turns ++ [turn]
  called : turn.call = some call
  after : turn.after = r'.session
  result : turn.result = stepped.result?
  unended : r.results call = []
  key : (stepped.session.writer id).key = w.key

namespace Pursues
variable (pursues : Pursues r r' turn task stepped id call w)
include pursues

theorem settles {decided : List (Except Fault Token)}
    (outcomes : Deed.outcomes (stepped.session.deeds id) = decided) (some : decided ≠ []) :
    turn.Settles id call := by
  refine ⟨pursues.called, ?_⟩
  rw [pursues.after, pursues.takes.deeds, outcomes]
  exact some

theorem deedsOf : r'.deedsOf id call = r.deedsOf id call ++ stepped.session.deeds id := by
  rw [pursues.takes.deedsOf, if_pos pursues.own]

theorem ends {result : Except Fault Answer} (ended : stepped.progress = .finished result) {sent : Nat}
    (sends : (Deed.requests (r'.deedsOf id call)).length = sent)
    (comes : ComesTo r' id call w e slack r.turns.length turn sent result) :
    Chases r' id call w events e slack := by
  have last : stepped.result? = some result := by rw [Stepped.result?, ended]
  refine .ended (by rw [pursues.turns, List.getElem?_concat_length]) pursues.called
    (pursues.result.trans last) ?_ (pursues.own ▸ pursues.takes.begun) sends
    (Run.last_check pursues.turns) comes
  rw [pursues.takes.results, if_pos pursues.own, last, pursues.unended]
  rfl

theorem tallies {key : Key} {i : Nat} (since : i ≤ r.turns.length)
    (meets : token.same (r'.session.transport.token key) = true)
    (paid : refused ≤ slack + r'.disturbances key call i r.turns.length) :
    Tallies r' call key token i slack refused where
  since := by
    rw [pursues.turns, List.length_append]
    exact Nat.lt_succ_of_le since
  balance := by
    rw [Run.debt, if_pos meets, Run.disturbances_own pursues.turns pursues.called since]
    exact paid

/-- An append of the batch is checked that carries `token`, while the stream expects `expected`. So far
`refused` appends of it were refused; if this one is, that was paid for too. -/
theorem checked {front deeds : List Deed} (noted : stepped.session.deeds id = front ++ deeds)
    (undecided : Deed.outcomes front = [])
    (sent : (Deed.requests (r.deedsOf id call ++ front)).length = refused + 1)
    (budget : refused + left = w.retries) (rounds : r'.rounds call e ≤ refused + 1)
    (meetable : expected.same expected = true)
    (checked : Checked id w.key events expected token left deeds stepped.progress)
    (kept : ∀ activity, stepped.progress = .suspended activity →
      stepped.session.transport.token w.key = expected)
    (since : e ≤ r.turns.length)
    (allowed : refused ≤ slack + r'.disturbances w.key call e r.turns.length)
    (paid : token.same expected = false →
      refused + 1 ≤ slack + r'.disturbances w.key call e r.turns.length)
    (first : (refused = 0 ∧ ∀ k, k ∉ r.checks id call) ∨
      ∃ i earlier, refused = earlier + 1 ∧ IsLeast (r.checks id call) i ∧
        (token.same expected = false →
          earlier + 1 ≤ r'.disturbances w.key call i r.turns.length)) :
    Chases r' id call w events e slack := by
  have all : r'.deedsOf id call = r.deedsOf id call ++ front ++ deeds := by
    rw [pursues.deedsOf, noted, List.append_assoc]
  have outcomes : Deed.outcomes (stepped.session.deeds id) = Deed.outcomes deeds := by
    rw [noted, Deed.outcomes_append, undecided, List.nil_append]
  -- the first check, and what was paid for since
  have start (settles : turn.Settles id call) (stale : token.same expected = false) :
      ∃ i, IsLeast (r'.checks id call) i ∧ i ≤ r.turns.length ∧
        refused ≤ r'.disturbances w.key call i r.turns.length := by
    rcases first with ⟨rfl, none⟩ | ⟨i, earlier, rfl, least, paid⟩
    · exact ⟨_, Run.first_check_now pursues.turns none settles, Nat.le_refl _, Nat.zero_le _⟩
    · exact ⟨i, Run.first_check pursues.turns least, Nat.le_of_lt (Run.checks_lt least.1), paid stale⟩
  have grown : (Deed.requests (r'.deedsOf id call)).length =
      refused + 1 + (Deed.requests deeds).length := by
    rw [all, Deed.requests_append, List.length_append, sent]
  generalize ended : stepped.progress = progress at checked kept
  cases checked with
  | accepted => exact pursues.ends ended grown (.returned allowed)
  | corrected stale => exact pursues.ends ended grown (.returned (paid stale))
  | @repeated left fault asleep stale request =>
    have settles : turn.Settles id call := pursues.settles outcomes (by simp)
    obtain ⟨i, least, early, paid'⟩ := start settles stale
    have under := pursues.takes.active_self
    rw [Stepped.activity?, ended] at under
    have expects : r'.session.transport.token w.key = expected := by
      rw [pursues.takes.session]
      exact kept _ rfl
    have meets : expected.same (r'.session.transport.token w.key) = true := by rwa [expects]
    refine .waits ⟨under, pursues.own, ?_, request, by omega, grown, rounds, ?_,
      .inr ⟨i, refused, rfl, least, ?_⟩⟩
    · rw [pursues.takes.writer, pursues.key]
    · exact pursues.tallies since meets (paid stale)
    · exact pursues.tallies early meets (by rwa [Nat.zero_add])
  | exhausted stale =>
    have settles : turn.Settles id call := pursues.settles outcomes (by simp)
    obtain ⟨i, least, -, paid'⟩ := start settles stale
    obtain rfl : refused = w.retries := budget
    exact pursues.ends ended grown (.defeated least
      ((Run.mem_checks_concat pursues.turns).2 (.inr ⟨rfl, settles⟩)) paid' (paid stale))

end Pursues

theorem ComesTo.kept {z sent : Nat} {last : MemoryTurn} {result : Except Fault Answer}
    (comes : ComesTo r id call w e slack z last sent result) (turns : r'.turns = r.turns ++ [turn])
    (past : z ≤ r.turns.length) (quiet : ¬ turn.Settles id call) :
    ComesTo r' id call w e slack z last sent result := by
  have same (i : Nat) : r'.disturbances w.key call i z = r.disturbances w.key call i z :=
    Run.disturbances_old turns past
  cases comes with
  | returned allowed => exact .returned (by rwa [same])
  | cancelled allowed cancels => exact .cancelled (by rwa [same]) cancels
  | @defeated i fault least decided between paid =>
    rw [← same] at between paid
    rw [← Run.checks_same turns quiet] at least decided
    exact .defeated least decided between paid

theorem pursues_resume (sound : Sound r) (ends : EndsOnce r) {asleep : SleepingAppend}
    (under : r.session.active task = some (.batch id events (.sending left asleep)))
    (key : (r.session.writer id).key = w.key) {signal : Signal}
    (turns : (r.step (.resume task signal)).turns = r.turns ++ [turn]) :
    Pursues r (r.step (.resume task signal)) turn task
      (r.session.fresh.resumeBatch task id events (.sending left asleep) signal) id (r.call task) w := by
  have known := (sound.asked task id events _ under).1
  have steps := steps_step sound (.resume task signal)
  generalize made : r.step (.resume task signal) = r' at steps turns ⊢
  cases steps with
  | stay => simp at turns
  | resume under' operations call takes =>
    cases under.symm.trans under'
    obtain rfl : _ = turn := by simpa using (takes.turns_eq made).symm.trans turns
    refine ⟨takes, congrFun call task, turns, by rw [call], rfl, rfl,
      ends.underway task (by simp [under]), ?_⟩
    exact (takes.extension.key known).trans key
  | pass between => cases between

namespace Awaits
variable {asleep : SleepingAppend} {signal : Signal}
  (awaits : Awaits r id call w events e slack task left asleep refused token)
include awaits

theorem allowed (turns : r'.turns = r.turns ++ [turn]) :
    refused ≤ slack + r'.disturbances w.key call e r.turns.length := by
  have balance := awaits.tallies.balance
  rw [Run.disturbances_old turns (Nat.le_refl _)]
  omega

theorem hears (sound : Sound r) (ends : EndsOnce r) (cooperates : r.session.transport.Cooperates)
    (turns : (r.step (.resume task .ready)).turns = r.turns ++ [turn]) :
    Chases (r.step (.resume task .ready)) id call w events e slack := by
  obtain rfl := awaits.own
  have pursues := pursues_resume (w := w) sound ends awaits.under awaits.key turns
  have known := (sound.asked task id events _ awaits.under).1
  have quiet : r.session.fresh.deeds id = [] := rfl
  rw [Session.resumeBatch_sending] at pursues
  generalize r.step (.resume task .ready) = r' at pursues turns ⊢
  have settled (i : Nat) : r'.disturbances w.key (r.call task) i r.turns.length =
      r.disturbances w.key (r.call task) i r.turns.length :=
    Run.disturbances_old turns (Nat.le_refl _)
  let absorbed := r.session.fresh.absorb (Transport.resume r.session.transport asleep .ready)
  have writer : (absorbed.writer id).key = w.key := awaits.key
  have own : asleep.request = ⟨(absorbed.writer id).key, token, events⟩ := by
    rw [awaits.request, writer]
  have checks : absorbed.Checks id events _ token left (absorbed.pursue id events left
      (Transport.resume r.session.transport asleep .ready).progress) :=
    Session.checks_settle (s := absorbed) (m := r.session.transport) known cooperates own rfl left
  rw [writer] at checks
  obtain ⟨⟨deeds, noted, checked⟩, kept⟩ := checks
  rw [writer] at checked kept
  rw [Session.deeds_absorb, quiet] at noted
  refine pursues.checked noted rfl ?_ awaits.budget ?_ (cooperates.meetable _) checked kept
    (Nat.le_of_lt awaits.tallies.since) (awaits.allowed turns) (fun stale => ?_)
    (awaits.first.imp_right fun ⟨i, earlier, same, least, tallies⟩ =>
      ⟨i, earlier, same, least, fun stale => ?_⟩)
  · rw [List.append_nil, awaits.sent]
  · rw [Run.rounds_concat turns awaits.tallies.since, if_pos pursues.called]
    exact Nat.succ_le_succ awaits.rounds
  · rw [settled]
    exact awaits.tallies.stale stale
  · have paid := tallies.stale stale
    rwa [Nat.zero_add, ← settled] at paid

theorem stops (sound : Sound r) (ends : EndsOnce r) (cancelled : signal ≠ .ready)
    (turns : (r.step (.resume task signal)).turns = r.turns ++ [turn]) :
    Chases (r.step (.resume task signal)) id call w events e slack := by
  obtain rfl := awaits.own
  have pursues := pursues_resume (w := w) sound ends awaits.under awaits.key turns
  obtain ⟨-, move, -⟩ := Run.turn_of_step turns
  have quiet : r.session.fresh.deeds id = [] := rfl
  rw [Session.resumeBatch_sending] at pursues
  generalize r.step (.resume task signal) = r' at pursues turns ⊢
  let absorbed := r.session.fresh.absorb (Transport.resume r.session.transport asleep signal)
  have stopped : absorbed.pursue id events left
      (Transport.resume r.session.transport asleep signal).progress =
      absorbed.settle id events left (.error .stopped) := by
    cases signal with
    | ready => exact absurd rfl cancelled
    | expired | interrupted => rfl
  change Pursues r r' turn task (absorbed.pursue id events left
    (Transport.resume r.session.transport asleep signal).progress) id (r.call task) w at pursues
  rw [stopped] at pursues
  have passed : Fault.stopped.isFailure = false := rfl
  obtain ⟨noted, ended⟩ := absorbed.deeds_stopped id events left passed
  rw [Session.deeds_absorb, quiet] at noted
  refine pursues.ends ended ?_ (.cancelled (awaits.allowed turns) ⟨task, signal, move, cancelled⟩)
  rw [pursues.deedsOf, noted, Deed.requests_append, List.length_append, awaits.sent]
  rfl

theorem stands (sound : Sound r) (ends : EndsOnce r) {move : Move Memory.Command Empty}
    (turns : (r.step move).turns = r.turns ++ [turn])
    (other : ∀ signal, move ≠ .resume task signal) :
    Chases (r.step move) id call w events e slack := by
  obtain rfl := awaits.own
  obtain ⟨allowed, -, called, before, after⟩ := Run.turn_of_step turns
  have foreign : turn.call ≠ some (r.call task) :=
    called ▸ Run.caller_foreign sound ends (by simp [awaits.under]) allowed other
  have stands : Stands r (r.step move) id task := by
    have attends := attends_step sound awaits.under move
    generalize r.step move = r' at attends
    cases attends with
    | stands stands => exact stands
    | hears => exact absurd rfl (other _)
  have checks : (r.step move).checks id (r.call task) = r.checks id (r.call task) :=
    Run.checks_same turns fun settles => foreign settles.1
  have transport : turn.before.transport = r.session.transport := by
    rw [before]
    rfl
  have kept {i slack refused : Nat} (tallies : Tallies r (r.call task) w.key token i slack refused) :
      Tallies (r.step move) (r.call task) w.key token i slack refused :=
    tallies.foreign turns transport (by rw [after]) foreign
  refine .waits ⟨stands.active.trans awaits.under, stands.call, ?_, awaits.request, awaits.budget,
    ?_, ?_, kept awaits.tallies, ?_⟩
  · obtain ⟨lock, writer⟩ := stands.writer
    rw [writer, awaits.key]
  · rw [Run.deedsOf_congr stands.chronicle, awaits.sent]
  · rw [Run.rounds_concat turns awaits.tallies.since, if_neg foreign]
    exact awaits.rounds
  · rw [checks]
    exact awaits.first.imp_right fun ⟨i, earlier, same, least, tallies⟩ =>
      ⟨i, earlier, same, least, kept tallies⟩

end Awaits

theorem chases_step (sound : Sound r) (ends : EndsOnce r) (cooperates : r.session.transport.Cooperates)
    (chases : Chases r id call w events e slack) (move : Move Memory.Command Empty) :
    Chases (r.step move) id call w events e slack := by
  rcases r.turns_step move with same | ⟨turn, turns, -⟩
  · rwa [Run.step_of_turns same]
  cases chases with
  | @waits task _ _ _ _ awaits =>
    by_cases mine : ∃ signal, move = .resume task signal
    · obtain ⟨signal, rfl⟩ := mine
      by_cases ready : signal = .ready
      · subst ready
        exact awaits.hears sound ends cooperates turns
      · exact awaits.stops sound ends ready turns
    · exact awaits.stands sound ends turns (not_exists.1 mine)
  | @ended z last result sent there own ended results begun sends greatest comes =>
    have past := (List.getElem?_eq_some_iff.1 there).1
    obtain ⟨deeds, results'⟩ : (r.step move).deedsOf id call = r.deedsOf id call ∧ _ :=
      Run.ended_step sound ends begun (by simp [results]) move
    have quiet : ¬ turn.Settles id call := by
      rintro ⟨mine, decided⟩
      rw [Run.deedsOf_concat turns, if_pos mine] at deeds
      exact decided (by simp [List.append_right_eq_self.1 deeds])
    obtain ⟨-, ⟨more, operations⟩, -⟩ := Run.grows_step sound move
    refine .ended (by rw [turns, List.getElem?_append_left past, there]) own ended
      (results'.trans results) (by simpa [operations] using Nat.lt_add_right _ begun) ?_ ?_
      (comes.kept turns (Nat.le_of_lt past) quiet)
    · rw [deeds, sends]
    · rwa [Run.checks_same turns quiet]

theorem Admits.chases (admits : Admits r r' turn id call events)
    (active : (r.session.writer id).status = .active) (cooperates : r.session.transport.Cooperates) :
    Chases r' id call (r.session.writer id) events r.turns.length
      (r.debt (r.session.writer id).key (r.session.writer id).token) := by
  obtain ⟨task, lock, called, own, takes, result⟩ := admits.served
  let locked := r.session.fresh.setWriter id { r.session.writer id with lock := lock }
  have writer : locked.writer id = { r.session.writer id with lock := lock } :=
    Session.writer_setWriter_self r.session.fresh id _ admits.known
  have quiet : locked.deeds id = [] := rfl
  have pursues : Pursues r r' turn task (locked.sendBatch id events) id call (r.session.writer id) :=
    ⟨takes, own, admits.turns, by rw [called, own], admits.after, result, admits.unended,
      takes.extension.key admits.known⟩
  have none := Run.checks_of_silent admits.silent
  have new : r'.rounds call r.turns.length = 0 := by simp [Run.rounds, admits.turns]
  have known : id < locked.writers.length := by simpa [locked, Session.fresh] using admits.known
  -- an append that sleeps owes what it would be refused for as things are
  cases locked.sends_sendBatch known (by rw [writer, active]) cooperates events with
  | @sleeps asleep deeds request kept waits =>
    rw [writer] at deeds request kept waits
    rw [quiet, List.nil_append] at deeds
    have under := takes.active_self
    rw [Stepped.activity?, waits] at under
    have undecided : ¬ turn.Settles id call := by
      rintro ⟨-, decided⟩
      rw [admits.after, takes.deeds, deeds] at decided
      exact decided rfl
    refine .waits ⟨under, own, ?_, request, Nat.zero_add _, ?_, Nat.le_of_eq new, ⟨?_, ?_⟩,
      .inl ⟨rfl, ?_⟩⟩
    · rw [takes.writer, pursues.key]
    · rw [pursues.deedsOf, admits.silent, deeds]
      rfl
    · simp [admits.turns]
    · have same : r'.session.transport.token (r.session.writer id).key =
          r.session.transport.token (r.session.writer id).key := by
        rw [takes.session]
        exact kept
      rw [Nat.zero_add, Run.debt, same]
      exact Nat.le_add_right ..
    · rwa [Run.checks_same admits.turns undecided]
  | @checked deeds noted checked kept =>
    rw [writer] at noted checked kept
    rw [quiet, List.nil_append] at noted
    have noted : _ = [.sent _] ++ deeds := noted
    refine pursues.checked noted rfl ?_ (Nat.zero_add _) ?_
      (cooperates.meetable _) checked kept (Nat.le_refl _) (Nat.zero_le _) (fun stale => ?_)
      (.inl ⟨rfl, none⟩)
    · rw [admits.silent]
      rfl
    · rw [new]
      exact Nat.zero_le _
    · rw [Run.debt, if_neg (Bool.eq_false_iff.1 stale)]
      exact Nat.le_add_right ..

theorem chases_play (sound : Sound r) (ends : EndsOnce r)
    (upheld : r.session.Upheld Memory.Cooperates fun _ => True)
    (chases : Chases r id call w events e slack) {moves : List (Move Memory.Command Empty)}
    (lenient : ∀ move ∈ moves, move.Lenient) : Chases (r.play moves) id call w events e slack := by
  have all : EndsOnce (r.play moves) ∧
      (r.play moves).session.Upheld Memory.Cooperates (fun _ => True) ∧
      Chases (r.play moves) id call w events e slack :=
    play_induct (motive := fun r => EndsOnce r ∧
        r.session.Upheld Memory.Cooperates (fun _ => True) ∧ Chases r id call w events e slack)
      sound ⟨ends, upheld, chases⟩ fun _ sound ⟨ends, upheld, chases⟩ move member =>
        ⟨ends_once_step ends sound move,
          upheld_step Memory.upkeep_cooperates sound upheld (lenient move member).upholds,
          chases_step sound ends upheld.transport chases move⟩
  exact all.2.2

/-- From the turn on in which a batch gets the lock of an active writer. Nothing is left open if the
tokens of the writer and of its stream agree then. -/
theorem chases_of_enters (sound : Sound r) (ends : EndsOnce r)
    (upheld : r.session.Upheld Memory.Cooperates fun _ => True)
    {moves : List (Move Memory.Command Empty)} (lenient : ∀ move ∈ moves, move.Lenient)
    (there : (r.play moves).turns[e]? = some turn) (new : r.turns.length ≤ e)
    (own : turn.call = some call) (enters : turn.Enters id)
    (active : (turn.before.writer id).status = .active) :
    ((r.play moves).session.writer id).key = (turn.before.writer id).key ∧
      ∃ events, Chases (r.play moves) id call (turn.before.writer id) events e
        (if (turn.before.writer id).token.same
          (turn.before.transport.token (turn.before.writer id).key) then 0 else 1) := by
  obtain ⟨front, move, later, rfl, rfl, made⟩ := Run.made_at there new
  have earlier : ∀ move ∈ front, move.Lenient := fun move member =>
    lenient move (List.mem_append_left _ member)
  obtain ⟨now, later⟩ := List.forall_mem_cons.1 fun move member =>
    lenient move (List.mem_append_right front member)
  have sound₀ := sound_play sound front
  have ends₀ := ends_once_play ends sound front
  have upheld₀ := upheld_play Memory.upkeep_cooperates sound upheld fun move member =>
    (earlier move member).upholds
  obtain ⟨events, admits⟩ := admits_step sound₀ ends₀ made own enters
  have chases := admits.chases (by rw [admits.before] at active; exact active) upheld₀.transport
  have played := chases_play (sound_step sound₀ move) (ends_once_step ends₀ sound₀ move)
    (upheld_step Memory.upkeep_cooperates sound₀ upheld₀ now.upholds) chases later
  rw [Run.play_append, admits.before]
  exact ⟨Run.key_play sound₀ admits.known (move :: _), events, played⟩

/-- The writers that a turn opens for the pool have the tokens that their streams expect. -/
theorem seeded_step (sound : Sound r) (delivered : Delivered r)
    (creates : r.session.pool.createStreams = true) (cooperates : r.session.transport.Cooperates)
    {move : Move Memory.Command Empty}
    (pooled : ∀ key registry token n, move ≠ .openWriter key registry token n)
    (turns : (r.step move).turns = r.turns ++ [turn]) :
    turn.after.Seeded turn.before.writers.length := by
  obtain ⟨-, -, -, before, after⟩ := Run.turn_of_step turns
  rw [before, after]
  have steps := steps_step sound move
  generalize r.step move = r' at steps turns ⊢
  have of_takes {task : TaskId} {stepped : Stepped Memory SleepingAppend Append}
      (takes : Takes r r' task stepped)
      (seeded : stepped.session.Seeded r.session.fresh.writers.length) :
      r'.session.Seeded r.session.fresh.writers.length := by
    rw [takes.session]
    exact seeded
  cases steps with
  | stay => simp at turns
  | @start task operation _ _ known _ _ takes =>
    apply of_takes takes
    cases operation with
    | append | ensureStream => exact .of_same rfl
    | getWriter key =>
      exact Session.seeded_startLookup (s := r.session.fresh) creates cooperates task key
    | write busy batch =>
      exact .of_same (Session.within_startBatch (s := r.session.fresh) (known busy batch rfl) task
        batch).length
  | @resume task signal activity _ under _ _ takes =>
    apply of_takes takes
    obtain ⟨operation, -, fits⟩ := delivered.fits task activity under
    cases fits with
    | append => exact .of_same rfl
    | search =>
      exact Session.seeded_resumeLookup (s := r.session.fresh) creates cooperates task _ _ signal
    | queued | sending =>
      exact .of_same (Session.within_resumeBatch (s := r.session.fresh)
        (sound.asked task _ _ _ under).1 task _ _ signal).length
  | pass between =>
    cases move with
    | start | resume => cases between
    | openWriter key registry token n => exact absurd rfl (pooled key registry token n)
    | abandon task =>
      refine .of_same ?_
      simp only [Run.pass, Session.play, Session.abandon]
      split <;> simp [Session.setKeyLock]
    | remove | closePool | command => exact .of_same rfl
    | chore stage => cases stage

end Chase

section Ends
variable {r : MemoryRun} {call : CallId}

def Turn.Ends {τ σ κ μ χ : Type} (turn : Turn τ σ κ μ χ) (call : CallId) : Prop :=
  turn.call = some call ∧ ∃ result, turn.result = some result

theorem Run.end_unique {τ σ κ μ χ : Type} {r : Run τ σ κ μ χ} {i j : Nat}
    (once : (r.results call).length ≤ 1) (first : r.At i (·.Ends call))
    (second : r.At j (·.Ends call)) : ¬ i < j := by
  intro before
  obtain ⟨early, atI, ownI, result, endedI⟩ := first
  obtain ⟨late, atJ, ownJ, result', endedJ⟩ := second
  let ended := fun turn : Turn τ σ κ μ χ => if turn.call = some call then turn.result else none
  have split : r.results call =
      (r.turns.take j).filterMap ended ++ (r.turns.drop j).filterMap ended := by
    rw [results, ← List.filterMap_append, List.take_append_drop]
  have front : result ∈ (r.turns.take j).filterMap ended := by
    refine List.mem_filterMap.2 ⟨early, List.mem_iff_getElem?.2 ⟨i, ?_⟩, by simp [ended, ownI, endedI]⟩
    rw [List.getElem?_take, if_pos before, atI]
  have back : result' ∈ (r.turns.drop j).filterMap ended := by
    refine List.mem_filterMap.2 ⟨late, List.mem_iff_getElem?.2 ⟨0, ?_⟩, by simp [ended, ownJ, endedJ]⟩
    rw [List.getElem?_drop, Nat.add_zero, atJ]
  have some := List.length_pos_of_mem front
  have more := List.length_pos_of_mem back
  rw [split, List.length_append] at once
  omega

theorem Run.undisturbed {key : Key} {i j : Nat}
    (calm : ∀ k, i < k → k < j → ¬ r.At k (·.Disturbs key call)) : r.disturbances key call i j = 0 := by
  rw [disturbances, List.countP_eq_zero]
  intro turn member disturbs
  obtain ⟨k, there⟩ := List.mem_iff_getElem?.1 member
  rw [List.getElem?_drop, List.getElem?_take] at there
  split at there
  · rename_i before
    exact calm _ (by omega) before ⟨turn, there, by simpa using disturbs⟩
  · cases there

variable {id : WriterId} {w : Writer} {events : List LogEvent} {e slack : Nat}

/-- A batch that failed for good has sent all that it was allowed, and others kept disturbing it. -/
theorem Chases.defeated {fault : Fault} (chases : Chases r id call w events e slack)
    (ends : EndsOnce r) (failed : .error fault ∈ r.results call)
    (final : fault.isUnrecoverable = true) :
    (Deed.requests (r.deedsOf id call)).length = w.retries + 1 ∧
      ∃ i j, IsLeast (r.checks id call) i ∧ IsGreatest (r.checks id call) j ∧
        w.retries ≤ r.disturbances w.key call i j := by
  cases chases with
  | @waits task _ _ _ _ awaits =>
    rw [← awaits.own, ends.underway task (by simp [awaits.under])] at failed
    cases failed
  | ended _ _ _ results _ sends greatest comes =>
    rw [results, List.mem_singleton] at failed
    subst failed
    cases comes with
    | cancelled => cases final
    | defeated least decided between => exact ⟨sends, _, _, least, ⟨decided, greatest⟩, between⟩

/-- A batch that nobody disturbs until it ends is never refused but for what was open at first, and so
does not fail for good if it may be sent twice. -/
theorem Chases.unharmed (chases : Chases r id call w events e slack) (ends : EndsOnce r)
    (calm : ∀ k, e < k → r.At k (·.Disturbs w.key call) → ∃ z < k, r.At z (·.Ends call))
    (allowed : slack ≤ w.retries) :
    let sent := (Deed.requests (r.deedsOf id call)).length
    1 ≤ sent ∧ sent ≤ slack + 1 ∧
      ((r.results call = [] ∧ (∃ task, r.session.Sending id task ∧ r.call task = call) ∧
          r.rounds call e < sent) ∨
        r.results call = [.ok .nothing] ∨
        (r.results call = [.error .stopped] ∧
          ∃ last ∈ r.turns, last.call = some call ∧ last.Cancels)) := by
  cases chases with
  | @waits task _ _ _ _ awaits =>
    have unended : r.results call = [] :=
      awaits.own ▸ ends.underway task (by simp [awaits.under])
    have none := Run.undisturbed (j := r.turns.length) fun k later _ disturbed => by
      obtain ⟨z, -, last, there, own, result, ended⟩ := calm k later disturbed
      have told := Run.mem_results (List.mem_of_getElem? there) own ended
      rw [unended] at told
      cases told
    have balance := awaits.tallies.balance
    have rounds := awaits.rounds
    rw [none] at balance
    rw [awaits.sent]
    exact ⟨by omega, by omega,
      .inl ⟨unended, ⟨task, ⟨_, _, _, awaits.under⟩, awaits.own⟩, by omega⟩⟩
  | @ended z last result _ there own ended results _ sends _ comes =>
    have none := Run.undisturbed (j := z) fun k later before disturbed => by
      obtain ⟨z', earlier, ends'⟩ := calm k later disturbed
      exact Run.end_unique (ends.once call) ends' ⟨last, there, own, result, ended⟩ (by omega)
    rw [sends]
    cases comes with
    | returned paid =>
      rw [none] at paid
      exact ⟨by omega, by omega, .inr (.inl results)⟩
    | cancelled paid cancels =>
      rw [none] at paid
      exact ⟨by omega, by omega,
        .inr (.inr ⟨results, last, List.mem_of_getElem? there, own, cancels⟩)⟩
    | defeated _ _ _ paid =>
      -- it would have been refused more often than anything accounts for
      rw [none] at paid
      omega

end Ends

section Creates
variable {τ σ κ μ χ : Type} [Transport τ σ κ] [Commanded τ μ χ κ]

theorem Run.createStreams_play {r : Run τ σ κ μ χ} (sound : Sound r) (moves : List (Move μ χ)) :
    (r.play moves).session.pool.createStreams = r.session.pool.createStreams :=
  play_induct (motive := (·.session.pool.createStreams = r.session.pool.createStreams)) sound rfl
    fun _ sound same move _ => (setUpAs_step sound move).1.trans same

end Creates

theorem seeded_play {r : MemoryRun} (sound : Sound r) (delivered : Delivered r)
    (creates : r.session.pool.createStreams = true)
    (upheld : r.session.Upheld Memory.Cooperates fun _ => True)
    {moves : List (Move Memory.Command Empty)} (lenient : ∀ move ∈ moves, move.Lenient)
    {turn : MemoryTurn} (member : turn ∈ (r.play moves).turns) (new : turn ∉ r.turns)
    (pooled : ∀ key registry token n, turn.move ≠ .openWriter key registry token n) :
    turn.after.Seeded turn.before.writers.length := by
  obtain ⟨front, move, later, rfl, made⟩ := (Run.made_of_mem member).resolve_left new
  have before : ∀ move ∈ front, move.Upholds Memory.Cooperates := fun move member =>
    (lenient move (List.mem_append_left _ member)).upholds
  obtain ⟨-, same, -⟩ := Run.turn_of_step made
  exact seeded_step (sound_play sound front) (delivered_play delivered sound front)
    ((Run.createStreams_play sound front).trans creates)
    (upheld_play Memory.upkeep_cooperates sound upheld before).transport (same ▸ pooled) made

/-- In every run on a memory that is connected, told to create streams and to tell the tokens that it
expects, with any delay, whoever else writes to the streams, sets their tokens or deletes them. If a
batch that is allowed `n` appends fails for good, it sent `n`, and between the turn in which the first
one was checked and the turn in which the last one was, others changed what its stream expects in
`n - 1` turns at least. If `n` is two or more, and nobody else changes what the stream expects from the
turn in which a batch gets the lock of the active writer until the batch ends, then it sends two
appends at most, and one if the token of the writer was the right one; it returns, or was cancelled, or
is still under way, and then it has had fewer turns than appends since. A writer that a pool opens
which creates streams has the right token. -/
theorem bounded_interference (delay : Binary64) (createStreams : Bool) (maxAttempts : Int)
    (moves : List (Move Memory.Command Empty)) (lenient : ∀ move ∈ moves, move.Lenient) :
    let r : MemoryRun :=
      (Run.new (Memory.new true true delay).connect createStreams maxAttempts).play moves
    (∀ (call : CallId) id batch n fault, r.operations[call]? = some (.write id batch) →
      r.Limits id n → .error fault ∈ r.results call → fault.isUnrecoverable = true →
      (Deed.requests (r.deedsOf id call)).length = n ∧
        ∃ i j, IsLeast (r.checks id call) i ∧ IsGreatest (r.checks id call) j ∧
          n - 1 ≤ r.disturbances (r.session.writer id).key call i j) ∧
    (∀ e (turn : MemoryTurn) (call : CallId) id n, r.turns[e]? = some turn →
      turn.call = some call → turn.Enters id → (turn.before.writer id).status = .active →
      r.Limits id n → 2 ≤ n →
      (∀ k, e < k → r.At k (·.Disturbs (r.session.writer id).key call) →
        ∃ z < k, r.At z (·.Ends call)) →
      let sent := (Deed.requests (r.deedsOf id call)).length
      sent ≤ 2 ∧
        ((turn.before.writer id).token.same
          (turn.before.transport.token (r.session.writer id).key) = true → sent = 1) ∧
        ((r.results call = [] ∧ (∃ task, r.session.Sending id task ∧ r.call task = call) ∧
            r.rounds call e < sent) ∨
          r.results call = [.ok .nothing] ∨
          (r.results call = [.error .stopped] ∧
            ∃ last ∈ r.turns, last.call = some call ∧ last.Cancels))) ∧
    (createStreams = true → ∀ turn ∈ r.turns,
      (∀ key registry token n, turn.move ≠ .openWriter key registry token n) →
      turn.after.Seeded turn.before.writers.length) := by
  intro r
  have upheld : (Run.new (Memory.new true true delay).connect createStreams maxAttempts :
      MemoryRun).session.Upheld Memory.Cooperates fun _ => True :=
    ⟨Memory.cooperates_new delay, fun _ _ _ under => by cases under⟩
  have sound : Sound r := sound_play (sound_new ..) moves
  have ends : EndsOnce r := ends_once_play (ends_once_new ..) (sound_new ..) moves
  have limited : Limited r := limited_play (sound_new ..) (limited_new ..) moves
  have chased {e : Nat} {turn : MemoryTurn} {call : CallId} {id : WriterId} {n : Nat}
      (there : r.turns[e]? = some turn) (own : turn.call = some call) (enters : turn.Enters id)
      (active : (turn.before.writer id).status = .active) (limits : r.Limits id n) :
      (r.session.writer id).key = (turn.before.writer id).key ∧
        (turn.before.writer id).retries + 1 = n ∧
        ∃ events, Chases r id call (turn.before.writer id) events e
          (if (turn.before.writer id).token.same
            (turn.before.transport.token (turn.before.writer id).key) then 0 else 1) := by
    obtain ⟨key, chases⟩ := chases_of_enters (sound_new ..) (ends_once_new ..) upheld lenient there
      (Nat.zero_le e) own enters active
    obtain ⟨-, -, retries, -⟩ := fares_of_enters (sound_new ..) (ends_once_new ..)
      (List.mem_of_getElem? there) (by simp [Run.new]) own enters active
    exact ⟨key, retries ▸ limited.limit limits, chases⟩
  refine ⟨fun call id batch n fault called limits failed final => ?_,
    fun e turn call id n there own enters active limits many calm => ?_,
    fun creates turn member pooled => ?_⟩
  · obtain ⟨turn, member, own, enters, active⟩ := admitted_of_unrecoverable
      (admitting_play (sound_new ..) (admitting_new ..) moves)
      (retiring_play (sound_new ..) (retiring_new ..) moves)
      (suited_play (suited_new ..) (sound_new ..) moves) called failed final
    obtain ⟨e, there⟩ := List.mem_iff_getElem?.1 member
    obtain ⟨key, rfl, events, chases⟩ := chased there own enters active limits
    rw [key]
    exact chases.defeated ends failed final
  · obtain ⟨key, rfl, events, chases⟩ := chased there own enters active limits
    rw [key] at calm ⊢
    have slack : (if (turn.before.writer id).token.same
        (turn.before.transport.token (turn.before.writer id).key) then 0 else 1) ≤ 1 := by
      split <;> omega
    have allowed := Nat.le_trans slack (Nat.le_of_succ_le_succ many)
    obtain ⟨some, few, fate⟩ := chases.unharmed ends calm allowed
    refine ⟨Nat.le_trans few (Nat.succ_le_succ slack), fun agree => ?_, fate⟩
    rw [if_pos agree] at few
    exact Nat.le_antisymm few some
  · exact seeded_play (sound_new ..) (delivered_new _ _ _ fun _ => rfl) creates upheld lenient member
      (by simp [Run.new]) pooled

/-- A writer of the pool is refused, sends again, and is refused again since the token was changed in
between. Its successor has the right token. -/
def contended : List (Move Memory.Command Empty) :=
  [.start 0 (.getWriter default), .command (.setToken default (.text "a")),
    .start 0 (.write 0 .single), .resume 0 .ready, .command (.setToken default (.text "b")),
    .resume 0 .ready, .start 0 (.getWriter default), .start 0 (.write 1 .single), .resume 0 .ready]

def contendedRun : MemoryRun :=
  (Run.new (Memory.new true true (.finite false 1 0)).connect true 2).play contended

theorem bounded_interference_contended :
    (∃ reason, contendedRun.results 1 = [.error (.unrecoverable "" "" reason true)]) ∧
      (∃ i j, IsLeast (contendedRun.checks 0 1) i ∧ IsGreatest (contendedRun.checks 0 1) j ∧
        2 - 1 ≤ contendedRun.disturbances default 1 i j) ∧
      (∃ turn ∈ contendedRun.turns, turn.after.Seeded turn.before.writers.length ∧
        turn.result = some (.ok (.writer 1))) ∧
      (Deed.requests (contendedRun.deedsOf 1 3)).length = 1 ∧
      contendedRun.results 3 = [.ok .nothing] := by
  have lenient : ∀ move ∈ contended, move.Lenient := by simp [contended, Move.Lenient]
  obtain ⟨defeated, calm, seeded⟩ := bounded_interference (.finite false 1 0) true 2 contended lenient
  obtain ⟨reason, failed⟩ : ∃ reason, contendedRun.results 1 =
      [.error (.unrecoverable "" "" reason true)] := ⟨_, rfl⟩
  obtain ⟨-, between⟩ := defeated 1 0 .single 2 (.unrecoverable "" "" reason true) rfl ⟨_, rfl, rfl⟩
    (failed ▸ List.mem_singleton_self _) rfl
  have opening : contendedRun.turns[6]? = some contendedRun.turns[6] := rfl
  obtain ⟨-, one, -⟩ := calm 7 contendedRun.turns[7] 3 1 2 rfl rfl
    ⟨rfl, by simp [Batch.single], ⟨_, rfl⟩, by decide⟩ rfl ⟨_, rfl, rfl⟩ (Nat.le_refl 2) (fun k later disturbed => by
      have before : k < 9 := disturbed.lt
      obtain rfl : k = 8 := by omega
      obtain ⟨turn, there, foreign, -⟩ := disturbed
      cases there
      exact absurd rfl foreign)
  refine ⟨⟨reason, failed⟩, between, ⟨_, List.mem_of_getElem? opening, ?_, rfl⟩, one rfl, rfl⟩
  exact seeded rfl _ (List.mem_of_getElem? opening) fun _ _ _ _ move => by cases move

end SequenceLog

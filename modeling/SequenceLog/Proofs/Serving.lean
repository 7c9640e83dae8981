import Mathlib.Data.List.Basic
import SequenceLog.Proofs.Soundness
/-! How a writer serves its batches, over every run. Main statements: `serves_in_order`, that appends
of a writer never overlap, that a batch has its appends in one piece, and that batches are sent in
the order in which they came; `carries_told_token`, that the token of every append follows from what
the writer did before. -/
namespace SequenceLog
open Scenario Chronicle
variable {τ σ κ μ χ : Type}

section Lists
variable {a : Nat} {l : List Nat}

theorem replicate_count_append_filter (sorted : l.Pairwise (· ≤ ·)) (least : ∀ x ∈ l, a ≤ x) :
    l = List.replicate (l.count a) a ++ l.filter (· ≠ a) := by
  induction l with
  | nil => rfl
  | cons x l ih =>
    obtain ⟨first, sorted⟩ := List.pairwise_cons.1 sorted
    by_cases same : x = a
    · subst same
      simpa [List.replicate_succ] using ih sorted fun y member => first y member
    · have above : ∀ y ∈ l, y ≠ a := by
        intro y member
        have after := first y member
        have bound := least x (by simp)
        omega
      have none : l.count a = 0 := List.count_eq_zero.2 fun member => above a member rfl
      have all : l.filter (· ≠ a) = l := List.filter_eq_self.2 (by simpa using above)
      rw [List.count_cons_of_ne same, none, List.filter_cons_of_pos (by simpa using same), all]
      rfl

/-- A sorted list goes through a strictly sorted one that has all its members. -/
theorem eq_flatMap_replicate {steps : List Nat} (sorted : l.Pairwise (· ≤ ·))
    (strict : steps.Pairwise (· < ·)) (within : ∀ x ∈ l, x ∈ steps) :
    l = steps.flatMap fun x => List.replicate (l.count x) x := by
  induction steps generalizing l with
  | nil => exact List.eq_nil_iff_forall_not_mem.2 fun x member => by cases within x member
  | cons a steps ih =>
    obtain ⟨first, strict⟩ := List.pairwise_cons.1 strict
    have least : ∀ x ∈ l, a ≤ x := by
      intro x member
      rcases List.mem_cons.1 (within x member) with rfl | member
      · exact Nat.le_refl _
      · exact Nat.le_of_lt (first x member)
    have later : ∀ x ∈ l.filter (· ≠ a), x ∈ steps := by
      intro x member
      obtain ⟨member, different⟩ := List.mem_filter.1 member
      exact (List.mem_cons.1 (within x member)).resolve_left (by simpa using different)
    have rest := ih (sorted.sublist List.filter_sublist) strict later
    have counts : (steps.flatMap fun x => List.replicate ((l.filter (· ≠ a)).count x) x) =
        steps.flatMap fun x => List.replicate (l.count x) x := by
      apply List.flatMap_congr
      intro x member
      rw [List.count_filter (by simpa using Nat.ne_of_gt (first x member))]
    rw [List.flatMap_cons, ← counts, ← rest]
    exact replicate_count_append_filter sorted least

end Lists

/-- The calls that came to the lock of a writer, in the order in which they came. A call comes to the
lock in the turn in which it begins, unless there is nothing to append. -/
def Run.arrivals (r : Run τ σ κ μ χ) (id : WriterId) : List CallId :=
  (List.range r.operations.length).filter fun call => match r.operations[call]? with
    | some (.write writer batch) => writer = id && !batch.records.isEmpty && batch.events.isOk
    | _ => false

theorem Run.arrivals_sorted (r : Run τ σ κ μ χ) (id : WriterId) :
    (r.arrivals id).Pairwise (· < ·) :=
  List.pairwise_lt_range.sublist List.filter_sublist

theorem Run.Asks.arrived {r : Run τ σ κ μ χ} {id : WriterId} {call : CallId}
    {events : List LogEvent} (asked : r.Asks id call events) : call ∈ r.arrivals id := by
  have bound := asked.bound
  obtain ⟨batch, operation, nonempty, serialized⟩ := asked
  refine List.mem_filter.2 ⟨List.mem_range.2 bound, ?_⟩
  rw [operation]
  simp [nonempty, serialized, Except.isOk, Except.toBool]

theorem Sound.flying_iff {r : Run τ σ κ μ χ} (sound : Sound r) (id : WriterId) (call : CallId) :
    (∃ past request, r.chronicle id = past ++ [(call, .sent request)]) ↔
      ∃ task, r.session.Sending id task ∧ r.call task = call := by
  constructor
  · rintro ⟨past, request, last⟩
    have known : id < r.session.writers.length := by
      apply Nat.lt_of_not_le
      intro late
      simp [sound.strange id late] at last
    obtain ⟨lane, attended⟩ := sound.attended id known
    have flying := attended.lawful.flying_iff.2 ⟨past, last⟩
    rcases attended.phase with ⟨idle, -⟩ | ⟨task, events, left, stage, sent, under, phase⟩
    · simp [flying] at idle
    · rw [flying] at phase
      cases phase
      exact ⟨task, ⟨events, left, stage, under⟩, rfl⟩
  · rintro ⟨task, sending, rfl⟩
    obtain ⟨lane, attended⟩ := sound.attended_of_sending sending
    obtain ⟨events, left, stage, under⟩ := sending
    obtain ⟨sent, flying⟩ := attended.flying under
    obtain ⟨past, last⟩ := attended.lawful.flying_iff.1 flying
    exact ⟨past, _, last⟩

section Play
variable [Transport τ σ κ] [Commanded τ μ χ κ]

/-- Whatever the transport does and whenever calls are told to stop: at most one task is in an append
of a writer, every append comes to its end before the next one is sent, and the appends are those of
one arrival after the other, each with all its attempts. -/
theorem serves_in_order (transport : τ) (createStreams : Bool) (maxAttempts : Int)
    (moves : List (Move μ χ)) (id : WriterId) :
    let r : Run τ σ κ μ χ := (Run.new transport createStreams maxAttempts).play moves
    let sent := senders (r.chronicle id)
    (∀ a b, r.session.Sending id a → r.session.Sending id b → a = b) ∧
    (∀ call, (∃ past request, r.chronicle id = past ++ [(call, .sent request)]) ↔
      ∃ task, r.session.Sending id task ∧ r.call task = call) ∧
    (∀ past call request rest, r.chronicle id = past ++ (call, .sent request) :: rest →
      rest = [] ∨ ∃ result later, rest = (call, .settled result) :: later) ∧
    (r.arrivals id).Nodup ∧
    sent = (r.arrivals id).flatMap fun call => List.replicate (sent.count call) call := by
  intro r sent
  have sound : Sound r := sound_play (sound_new ..) moves
  obtain ⟨lane, lawful, -⟩ := sound.lawful id
  refine ⟨?_, sound.flying_iff id, ?_, ?_, ?_⟩
  · intro a b sendingA sendingB
    obtain ⟨lane, attended⟩ := sound.attended_of_sending sendingA
    exact attended.guards.alone a b sendingA sendingB
  · intro past call request rest split
    exact lawful.sent_then_settled split
  · exact (r.arrivals_sorted id).imp Nat.ne_of_lt
  · apply eq_flatMap_replicate lawful.senders_sorted (r.arrivals_sorted id)
    intro call member
    obtain ⟨events, asked⟩ := lawful.senders_ask call member
    exact asked.arrived

/-- Whatever the transport does and whenever calls are told to stop: the first append of a call carries
the token of the writer's last success, or the one it was opened with; a further append carries the
token that was told by the failure right before it. The token of the writer is that of its last
success all along. -/
theorem carries_told_token (transport : τ) (createStreams : Bool) (maxAttempts : Int)
    (moves : List (Move μ χ)) (id : WriterId) :
    let r : Run τ σ κ μ χ := (Run.new transport createStreams maxAttempts).play moves
    (∀ past call request rest, r.chronicle id = past ++ (call, .sent request) :: rest →
      (call ∉ senders past → request.token = adopted (r.firstToken id) past) ∧
      (call ∈ senders past → ∃ before fault expected,
        past = before ++ [(call, .settled (.error fault))] ∧
        fault.expected? = some expected ∧ request.token = expected.token)) ∧
    (r.session.writer id).token = adopted (r.firstToken id) (r.chronicle id) := by
  intro r
  have sound : Sound r := sound_play (sound_new ..) moves
  obtain ⟨lane, lawful, token⟩ := sound.lawful id
  constructor
  · intro past call request rest split
    exact lawful.sent_token split
  · rw [← token, lawful.adopted_eq]

end Play

/-- A writer that has to be told the token of its stream, and a batch after that. -/
def retry : List (Move Memory.Command Empty) :=
  [.command .connect, .command (.setToken default (.text "token")),
    .openWriter default (.outside none) .null 3, .start 0 (.write 0 .single),
    .start 1 (.write 0 .single)]

def retryRun : MemoryRun := (Run.new (Memory.new true true (.zero false)) true 3).play retry

theorem serves_in_order_retry :
    retryRun.arrivals 0 = [0, 1] ∧ senders (retryRun.chronicle 0) = [0, 0, 1] ∧
      ∃ past request rest, retryRun.chronicle 0 = past ++ (0, .sent request) :: rest ∧
        ∃ result later, rest = (0, .settled result) :: later := by
  obtain ⟨-, -, ended, -, -⟩ := serves_in_order (Memory.new true true (.zero false)) true 3 retry 0
  have split : retryRun.chronicle 0 =
      [] ++ (0, .sent ⟨default, .null, _⟩) :: (retryRun.chronicle 0).drop 1 := rfl
  refine ⟨by decide, by decide, [], _, _, split, ?_⟩
  rcases ended _ _ _ _ split with none | follows
  · cases none
  · exact follows

theorem carries_told_token_retry :
    ∃ past request rest, retryRun.chronicle 0 = past ++ (0, .sent request) :: rest ∧
      0 ∈ senders past ∧ request.token = .text "token" ∧
      ∃ before fault expected, past = before ++ [(0, .settled (.error fault))] ∧
        fault.expected? = some expected ∧ request.token = expected.token := by
  have split : retryRun.chronicle 0 = (retryRun.chronicle 0).take 2 ++
      (0, .sent ⟨default, .text "token", _⟩) :: (retryRun.chronicle 0).drop 3 := rfl
  have again : 0 ∈ senders ((retryRun.chronicle 0).take 2) := by decide
  obtain ⟨tokens, -⟩ := carries_told_token (Memory.new true true (.zero false)) true 3 retry 0
  exact ⟨_, _, _, split, again, rfl, (tokens _ _ _ _ split).2 again⟩

end SequenceLog

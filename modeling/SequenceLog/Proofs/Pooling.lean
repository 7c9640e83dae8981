import SequenceLog.Proofs.SearchTurn
import SequenceLog.Proofs.Soundness
/-! One live writer for each stream. Main statement: `one_live_writer`, about every run in which the
pool is not closed and writers are not removed from outside. -/
namespace SequenceLog
open Scenario
variable {τ σ κ μ χ : Type}

/-- A move that leaves it to the writers of the pool to remove themselves. -/
def Move.LeavesPool : Move μ χ → Prop
  | .remove _ _ | .closePool => False
  | .openWriter _ registry _ _ => registry ≠ .pool
  | _ => True

/-- The writers that the pool made for a stream, in the order in which they were made. -/
def Session.madeFor (s : Session τ σ κ) (key : Key) : List WriterId :=
  (List.range s.writers.length).filter fun id =>
    (s.writer id).key = key ∧ (s.writer id).registry = .pool

theorem Session.mem_madeFor {s : Session τ σ κ} {key : Key} {id : WriterId} :
    id ∈ s.madeFor key ↔ s.Made key id := by
  simp [madeFor, Made]

theorem Session.madeFor_sorted (s : Session τ σ κ) (key : Key) :
    (s.madeFor key).Pairwise (· < ·) :=
  List.pairwise_lt_range.sublist List.filter_sublist

section Turns
variable {r r' : Run τ σ κ μ χ} {task : TaskId} {stepped : Stepped τ σ κ}

theorem Takes.pooled_within {id : WriterId} (takes : Takes r r' task stepped)
    (pooled : r.session.Pooled) (within : Session.Within id r.session.fresh stepped.session)
    (before : ∀ key era stage, r.session.active task ≠ some (.lookup key era stage))
    (after : ∀ key era stage, stepped.activity? ≠ some (.lookup key era stage)) :
    r'.session.Pooled := by
  have fresh : r.session.fresh.Registered := pooled.registered.of_same rfl rfl
  have era : stepped.session.pool.era = r.session.pool.era := within.pool_era
  refine ⟨fun {other key era' stage} under => ?_, fun key => ?_, takes.registered (fresh.within within)⟩
  · rw [takes.pool, era]
    by_cases same : other = task
    · rw [same, takes.active_self] at under
      exact absurd under (after key era' stage)
    · rw [takes.active_other same] at under
      exact pooled.current under
  · exact takes.reserved_within (pooled.reserved key) within (before key) (after key)

theorem Session.Batching.silent {id : WriterId} {events : List LogEvent}
    (batching : Batching id events stepped.progress) (key : Key) (era : Nat)
    (stage : LookupStage σ) : stepped.activity? ≠ some (.lookup key era stage) := by
  obtain ⟨s, progress⟩ := stepped
  cases batching <;> simp [Stepped.activity?]

theorem Session.Batching.handsOut {id : WriterId} {events : List LogEvent}
    (batching : Batching id events stepped.progress) : stepped.HandsOut := by
  obtain ⟨s, progress⟩ := stepped
  cases batching <;> intro id handed <;> cases handed

theorem Session.relay_progress (s : Session τ σ κ) (reply : Reply τ σ κ Token) :
    (∀ key era stage, (s.relay reply).activity? ≠ some (.lookup key era stage)) ∧
      (s.relay reply).HandsOut := by
  simp only [relay, Stepped.activity?, Stepped.HandsOut, Stepped.result?]
  cases reply.progress with
  | suspended stage => simp
  | finished result => cases result <;> simp [Except.map]

theorem Session.within_relay {s : Session τ σ κ} {reply : Reply τ σ κ Token} (id : WriterId) :
    Within id s (s.relay reply).session :=
  within_absorb

end Turns

/-- What is true of a run in which writers remove only themselves. -/
structure Kept (r : Run τ σ κ μ χ) : Prop where
  sound : Sound r
  pooled : r.session.Pooled
  handed : ∀ turn ∈ r.turns, ∀ id, turn.result = some (.ok (.writer id)) →
    id < turn.after.writers.length ∧ (turn.after.writer id).status = .active

theorem Kept.takes {r r' : Run τ σ κ μ χ} {task : TaskId} {stepped : Stepped τ σ κ} (kept : Kept r)
    (sound : Sound r') (takes : Takes r r' task stepped) (pooled : r'.session.Pooled)
    (handsOut : stepped.HandsOut) : Kept r' where
  sound := sound
  pooled := pooled
  handed turn member id result := by
    obtain ⟨move, turns⟩ := takes.turns
    rw [turns, List.mem_append, List.mem_singleton] at member
    rcases member with old | rfl
    · exact kept.handed turn old id result
    · rw [takes.writers, takes.writer]
      exact handsOut id result

theorem Kept.pass {r : Run τ σ κ μ χ} (kept : Kept r) {move : Move μ χ} {s : Session τ σ κ}
    (sound : Sound (r.pass move s)) (pooled : s.Pooled) : Kept (r.pass move s) where
  sound := sound
  pooled := pooled
  handed turn member id result := by
    rw [Run.pass, List.mem_append, List.mem_singleton] at member
    rcases member with old | rfl
    · exact kept.handed turn old id result
    · cases result

theorem kept_new (transport : τ) (createStreams : Bool) (maxAttempts : Int) :
    Kept (.new transport createStreams maxAttempts : Run τ σ κ μ χ) where
  sound := sound_new ..
  pooled := .new ..
  handed turn member := by cases member

section Play
variable [Transport τ σ κ] [Commanded τ μ χ κ]

theorem kept_step {r : Run τ σ κ μ χ} (kept : Kept r) {move : Move μ χ} (leaves : move.LeavesPool) :
    Kept (r.step move) := by
  have sound := sound_step kept.sound move
  have steps := steps_step kept.sound move
  generalize r.step move = r' at steps sound ⊢
  have pooled := kept.pooled
  cases steps with
  | stay => exact kept
  | @start task operation _ idle known operations call takes =>
    have before : ∀ key era stage, r.session.active task ≠ some (.lookup key era stage) := by
      simp [idle]
    cases operation with
    | append request | ensureStream key =>
      obtain ⟨silent, handsOut⟩ := Session.relay_progress r.session.fresh _
      exact kept.takes sound takes
        (takes.pooled_within pooled (Session.within_relay 0) before silent) handsOut
    | getWriter key =>
      have registered : r.session.fresh.Registered := pooled.registered.of_same rfl rfl
      exact kept.takes sound takes (takes.pooled_startLookup pooled idle)
        ((Session.registers_startLookup task).handsOut registered Session.apart_startLookup)
    | write id batch =>
      obtain ⟨events, batching⟩ := r.session.fresh.batching_start task id batch
      have within := Session.within_startBatch (s := r.session.fresh) (known id batch rfl) task batch
      exact kept.takes sound takes (takes.pooled_within pooled within before batching.silent)
        batching.handsOut
  | @resume task signal activity _ under operations call takes =>
    cases activity with
    | transport stage =>
      obtain ⟨silent, handsOut⟩ := Session.relay_progress r.session.fresh _
      exact kept.takes sound takes
        (takes.pooled_within pooled (Session.within_relay 0) (by simp [under]) silent) handsOut
    | lookup key era stage =>
      obtain rfl := pooled.current under
      have registered : r.session.fresh.Registered := pooled.registered.of_same rfl rfl
      have registers : Registers key r.session.fresh
          (r.session.fresh.resumeLookup task key r.session.pool.era stage signal) :=
        Session.registers_resumeLookup task fun preparing same _ =>
          (pooled.reserved key).vacant task ⟨preparing, same ▸ under⟩
      exact kept.takes sound takes (takes.pooled_resumeLookup pooled under)
        (registers.handsOut registered Session.apart_resumeLookup)
    | batch id events stage =>
      have batching :=
        Session.batching_resumeBatch (s := r.session.fresh) task id events stage signal
      have within := Session.within_resumeBatch (s := r.session.fresh)
        (kept.sound.asked task id events stage under).1 task events stage signal
      exact kept.takes sound takes
        (takes.pooled_within pooled within (by simp [under]) batching.silent) batching.handsOut
  | pass between =>
    have fresh : r.session.fresh.Pooled := pooled.of_same rfl rfl rfl
    cases move with
    | start task operation | resume task signal => cases between
    | remove key writer | closePool => cases leaves
    | abandon task => exact kept.pass sound (fresh.abandon task)
    | openWriter key registry token maxAttempts =>
      exact kept.pass sound (fresh.openWriter leaves key token maxAttempts)
    | command command => exact kept.pass sound (pooled.of_same rfl rfl rfl)
    | chore stage signal => exact kept.pass sound (pooled.of_same rfl rfl rfl)

theorem kept_play {r : Run τ σ κ μ χ} (kept : Kept r) {moves : List (Move μ χ)}
    (leaves : ∀ move ∈ moves, move.LeavesPool) : Kept (r.play moves) :=
  play_induct kept.sound kept fun _ _ kept move member => kept_step kept (leaves move member)

end Play

/-- A task that sends for a writer of the pool sends for the registered one. -/
theorem Kept.sending_registered {r : Run τ σ κ μ χ} (kept : Kept r) {key : Key} {id : WriterId}
    {task : TaskId} (made : r.session.Made key id) (sending : r.session.Sending id task) :
    r.session.pool.writers.get? key = some id := by
  obtain ⟨lane, attended⟩ := kept.sound.attended id made.1
  obtain ⟨events, left, stage, under⟩ := sending
  obtain ⟨sent, flying⟩ := attended.flying under
  rw [← kept.pooled.registered.active_iff made, ← attended.status]
  apply attended.lawful.active_of_busy
  simp [flying]

/-- A writer that was made before another one for the same stream has retired. -/
theorem Kept.replaced {r : Run τ σ κ μ χ} (kept : Kept r) {key : Key} {id later : WriterId}
    (made : r.session.Made key id) (madeLater : r.session.Made key later) (before : id < later) :
    (r.session.writer id).status = .invalidated := by
  cases status : (r.session.writer id).status with
  | invalidated => rfl
  | active =>
    have registered := (kept.pooled.registered.active_iff made).1 status
    exact absurd before (Nat.not_lt.2 (kept.pooled.registered.latest madeLater registered))

/-- In every run in which the pool is not closed and writers are removed by nobody but themselves: of
the writers that the pool made for a stream all but the last have retired, the last is registered
exactly as long as it is active, a registered writer is one for its stream, at most one task has an
append under way for any of them, and nobody is given a writer that has retired. -/
theorem one_live_writer [Transport τ σ κ] [Commanded τ μ χ κ] (transport : τ) (createStreams : Bool)
    (maxAttempts : Int) (moves : List (Move μ χ)) (leaves : ∀ move ∈ moves, move.LeavesPool)
    (key : Key) :
    let r : Run τ σ κ μ χ := (Run.new transport createStreams maxAttempts).play moves
    let s := r.session
    (∀ id ∈ (s.madeFor key).dropLast, (s.writer id).status = .invalidated) ∧
    (∀ last, (s.madeFor key).getLast? = some last →
      (s.pool.writers.get? key = some last ↔ (s.writer last).status = .active)) ∧
    (∀ id, s.pool.writers.get? key = some id →
      id < s.writers.length ∧ (s.writer id).key = key) ∧
    (∀ id ∈ s.madeFor key, ∀ other ∈ s.madeFor key, ∀ a b,
      s.Sending id a → s.Sending other b → id = other ∧ a = b) ∧
    (∀ turn ∈ r.turns, ∀ id, turn.result = some (.ok (.writer id)) →
      id < turn.after.writers.length ∧ (turn.after.writer id).status = .active) := by
  intro r s
  have kept : Kept r := kept_play (kept_new ..) leaves
  refine ⟨fun id member => ?_, fun last member => ?_, fun id found => ?_, ?_, kept.handed⟩
  · obtain ⟨front, last, made⟩ : ∃ front last, s.madeFor key = front ++ [last] := by
      rcases List.eq_nil_or_concat (s.madeFor key) with none | ⟨front, last, made⟩
      · simp [none] at member
      · exact ⟨front, last, by rw [made, List.concat_eq_append]⟩
    have sorted := s.madeFor_sorted key
    rw [made] at sorted member
    rw [List.dropLast_concat] at member
    have before : id < last := (List.pairwise_append.1 sorted).2.2 id member last (by simp)
    have madeFirst : id ∈ s.madeFor key := by simp [made, member]
    have madeLast : last ∈ s.madeFor key := by simp [made]
    exact kept.replaced (Session.mem_madeFor.1 madeFirst) (Session.mem_madeFor.1 madeLast) before
  · have made := Session.mem_madeFor.1 (List.mem_of_getLast? member)
    exact (kept.pooled.registered.active_iff made).symm
  · have made := kept.pooled.registered.made found
    exact ⟨made.1, made.2.1⟩
  · intro id member other member' a b sending sending'
    have made := Session.mem_madeFor.1 member
    have registered := kept.sending_registered made sending
    have registered' := kept.sending_registered (Session.mem_madeFor.1 member') sending'
    obtain rfl : id = other := Option.some.inj (registered.symm.trans registered')
    obtain ⟨lane, attended⟩ := kept.sound.attended id made.1
    exact ⟨rfl, attended.guards.alone a b sending sending'⟩

def replacement : List (Move Memory.Command Empty) :=
  [.command .connect, .command (.inject Memory.notConnected), .start 0 (.getWriter default),
    .start 1 (.write 0 .single), .start 0 (.getWriter default)]

def replacementRun : MemoryRun :=
  (Run.new (Memory.new true true (.zero false)) true 3).play replacement

theorem one_live_writer_replacement :
    (∀ move ∈ replacement, move.LeavesPool) ∧
      replacementRun.session.madeFor default = [0, 1] ∧
      (replacementRun.session.writer 0).status = .invalidated ∧
      (replacementRun.session.pool.writers.get? default = some 1 ↔
        (replacementRun.session.writer 1).status = .active) := by
  have leaves : ∀ move ∈ replacement, move.LeavesPool := by simp [replacement, Move.LeavesPool]
  have made : replacementRun.session.madeFor default = [0, 1] := by decide
  obtain ⟨retired, registered, -⟩ :=
    one_live_writer (Memory.new true true (.zero false)) true 3 replacement leaves default
  refine ⟨leaves, made, retired 0 ?_, registered 1 ?_⟩
  · exact made.symm ▸ List.mem_singleton_self 0
  · exact congrArg List.getLast? made

end SequenceLog

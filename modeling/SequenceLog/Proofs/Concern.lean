import SequenceLog.Proofs.Soundness
/-! What a step of a run means for one writer. Either it is the turn of a batch for the writer, which
starts or goes on, or it leaves the writer and its batches alone. Main statement: `concerns_step`. -/
namespace SequenceLog
open Scenario
variable {τ σ κ μ χ : Type}

/-- The writer for which a batch had the turn. -/
def Turn.writer? (turn : Turn τ σ κ μ χ) : Option WriterId :=
  match turn.move with
  | .start _ (.write id _) => some id
  | .resume task _ => turn.before.batchOf task
  | _ => none

namespace Session
variable {s s' : Session τ σ κ} {id : WriterId}

theorem status_of_unknown (late : s.writers.length ≤ id) : (s.writer id).status = .active := by
  simp [writer, List.getElem?_eq_none late]
  rfl

theorem Apart.status (apart : Apart s s') (id : WriterId) :
    (s'.writer id).status = (s.writer id).status := by
  by_cases old : id < s.writers.length
  · rw [writer_congr id (apart.getElem? old)]
  · have late := Nat.le_of_not_lt old
    rw [status_of_unknown late]
    by_cases young : id < s'.writers.length
    · exact (apart.newborn late young).2
    · exact status_of_unknown (Nat.le_of_not_lt young)

theorem abandon_quiet (s : Session τ σ κ) (task : TaskId) (id : WriterId) :
    ((s.abandon task).writer id).status = (s.writer id).status ∧
      (s.abandon task).deeds id = s.deeds id := by
  unfold abandon
  split
  · exact ⟨rfl, rfl⟩
  · rename_i other events under
    refine ⟨?_, rfl⟩
    by_cases same : id = other
    · subst same
      by_cases known : id < s.writers.length
      · rw [writer_setWriter_self s id _ known]
      · simp [writer, known]
    · refine congrArg (·.status) (writer_congr id ?_)
      simp [List.getElem?_set_ne (Ne.symm same)]
  · exact ⟨rfl, rfl⟩

theorem Batching.writer {stepped : Stepped τ σ κ} {events : List LogEvent}
    (batching : Batching id events stepped.progress) {activity : Activity σ}
    (goes : stepped.activity? = some activity) : activity.writer? = some id := by
  unfold Stepped.activity? at goes
  generalize stepped.progress = progress at batching goes
  cases batching with
  | waits stage => cases goes; rfl
  | failed | done => cases goes

theorem startBatch_writer [Transport τ σ κ] {task : TaskId} {batch : Batch}
    {activity : Activity σ} (goes : (s.startBatch task id batch).activity? = some activity) :
    activity.writer? = some id := by
  obtain ⟨events, batching⟩ := s.batching_start task id batch
  exact batching.writer goes

end Session

/-- The second run comes from the first without anything done to the writer by one of its batches. -/
structure Spares (r r' : Run τ σ κ μ χ) (id : WriterId) : Prop where
  status : (r'.session.writer id).status = (r.session.writer id).status
  key : id < r.session.writers.length → (r'.session.writer id).key = (r.session.writer id).key
  quiet : r'.session.deeds id = []
  operations : ∃ more, r'.operations = r.operations ++ more
  batches : ∀ task, r'.session.batchOf task = some id → r'.session.active task = r.session.active task

/-- What a move means for a writer. -/
inductive Concerns (r : Run τ σ κ μ χ) (id : WriterId) [Transport τ σ κ] :
    Move μ χ → Run τ σ κ μ χ → Prop
  | stay {move} : Concerns r id move r
  | spared {move r' turn} : r'.turns = r.turns ++ [turn] → turn.before = r.session.fresh →
      turn.after = r'.session → turn.writer? ≠ some id → Spares r r' id → Concerns r id move r'
  | start {task batch r'} : id < r.session.writers.length →
      r'.operations[r'.call task]? = some (.write id batch) →
      Takes r r' task (r.session.fresh.startBatch task id batch) →
      r'.turns = r.turns ++ [⟨.start task (.write id batch), some (r'.call task), r.session.fresh,
        r'.session, (r.session.fresh.startBatch task id batch).result?⟩] →
      Concerns r id (.start task (.write id batch)) r'
  | resume {task events stage signal r'} :
      r.session.active task = some (.batch id events stage) →
      Takes r r' task (r.session.fresh.resumeBatch task id events stage signal) →
      r'.turns = r.turns ++ [⟨.resume task signal, some (r'.call task), r.session.fresh,
        r'.session, (r.session.fresh.resumeBatch task id events stage signal).result?⟩] →
      Concerns r id (.resume task signal) r'

section Sparing
variable {r r' : Run τ σ κ μ χ} {task : TaskId} {stepped : Stepped τ σ κ} {id : WriterId}

theorem Takes.deeds (takes : Takes r r' task stepped) (id : WriterId) :
    r'.session.deeds id = stepped.session.deeds id := by
  rw [takes.session]
  rfl

/-- A task that has no batch for the writer afterwards leaves those it has where they are. -/
theorem Takes.batches (takes : Takes r r' task stepped)
    (away : stepped.activity?.bind Activity.writer? ≠ some id) (other : TaskId)
    (mine : r'.session.batchOf other = some id) :
    r'.session.active other = r.session.active other := by
  by_cases own : other = task
  · subst own
    rw [Session.batchOf, takes.active_self] at mine
    exact absurd mine away
  · exact takes.active_other own

theorem Takes.spares_apart (takes : Takes r r' task stepped)
    (apart : r.session.fresh.Apart stepped.session)
    (away : stepped.activity?.bind Activity.writer? = none) (id : WriterId) : Spares r r' id where
  status := (congrArg (·.status) (takes.writer id)).trans (apart.status id)
  key := takes.key
  quiet := (takes.deeds id).trans (apart.quiet id)
  operations := takes.operations
  batches := takes.batches (by simp [away])

theorem Takes.spares_within {busy : WriterId} (takes : Takes r r' task stepped)
    (within : Session.Within busy r.session.fresh stepped.session) (different : id ≠ busy)
    (own : ∀ activity, stepped.activity? = some activity → activity.writer? = some busy) :
    Spares r r' id where
  status := by
    rw [takes.writer, Session.writer_congr id (within.others id different)]
    rfl
  key := takes.key
  quiet := (takes.deeds id).trans (within.quiet id different)
  operations := takes.operations
  batches := by
    refine takes.batches fun mine => different ?_
    obtain ⟨activity, goes, writes⟩ := Option.bind_eq_some_iff.1 mine
    exact Option.some.inj (writes.symm.trans (own activity goes))

end Sparing

section Steps
variable [Transport τ σ κ] [Commanded τ μ χ κ] {r : Run τ σ κ μ χ} {move : Move μ χ}

/-- Between the turns no writer changes its status, and nothing is noted about any. -/
theorem Run.spares_pass (between : r.caller move = none) (id : WriterId) :
    Spares r (r.pass move (r.session.fresh.play move).1) id := by
  have extension := Run.pass_extension between
  have batches : ∀ task, (r.pass move (r.session.fresh.play move).1).session.batchOf task = some id →
      (r.session.fresh.play move).1.active task = r.session.active task :=
    fun task _ => congrFun extension.active task
  have operations : ∃ more, (r.pass move (r.session.fresh.play move).1).operations =
      r.operations ++ more := ⟨[], (List.append_nil _).symm⟩
  have of_apart (apart : r.session.fresh.Apart (r.session.fresh.play move).1) :
      Spares r (r.pass move (r.session.fresh.play move).1) id :=
    ⟨apart.status id, extension.key, apart.quiet id, operations, batches⟩
  cases move with
  | start task operation | resume task signal => cases between
  | abandon task =>
    obtain ⟨status, quiet⟩ := Session.abandon_quiet r.session.fresh task id
    exact ⟨status, extension.key, quiet, operations, batches⟩
  | openWriter key registry token maxAttempts => exact of_apart Session.apart_openWriter
  | remove key writer => exact of_apart Session.apart_remove
  | closePool => exact ⟨rfl, fun _ => rfl, rfl, operations, batches⟩
  | command | chore => exact of_apart Session.apart_absorb

theorem concerns_step (sound : Sound r) (move : Move μ χ) (id : WriterId) :
    Concerns r id move (r.step move) := by
  have steps := steps_step sound move
  generalize made : r.step move = r' at steps ⊢
  cases steps with
  | stay => exact .stay
  | @start task operation _ idle known operations call takes =>
    have turns := takes.turns_eq made
    cases operation with
    | append request | ensureStream key =>
      exact .spared turns rfl rfl (by simp [Turn.writer?])
        (takes.spares_apart Session.apart_absorb (Session.relay_silent ..) id)
    | getWriter key =>
      exact .spared turns rfl rfl (by simp [Turn.writer?])
        (takes.spares_apart Session.apart_startLookup (Session.startLookup_silent ..) id)
    | write writer batch =>
      by_cases same : id = writer
      · subst same
        refine .start (known id batch rfl) ?_ takes turns
        rw [operations, call, List.getElem?_concat_length]
      · have within := Session.within_startBatch (s := r.session.fresh) (known writer batch rfl) task
          batch
        exact .spared turns rfl rfl (by simp [Turn.writer?, Ne.symm same])
          (takes.spares_within within same fun _ goes => Session.startBatch_writer goes)
  | @resume task signal activity _ under operations call takes =>
    have turns := takes.turns_eq made
    have batch : r.session.fresh.batchOf task = activity.writer? := by
      simp [Session.batchOf, Session.fresh, under]
    cases activity with
    | transport stage =>
      exact .spared turns rfl rfl (by simp [Turn.writer?, batch, Activity.writer?])
        (takes.spares_apart Session.apart_absorb (Session.relay_silent ..) id)
    | lookup key era stage =>
      exact .spared turns rfl rfl (by simp [Turn.writer?, batch, Activity.writer?])
        (takes.spares_apart Session.apart_resumeLookup (Session.resumeLookup_silent ..) id)
    | batch writer events stage =>
      have known := (sound.asked task writer events stage under).1
      by_cases same : id = writer
      · subst same
        exact .resume under takes turns
      · have within := Session.within_resumeBatch (s := r.session.fresh) known task events stage signal
        exact .spared turns rfl rfl (by simp [Turn.writer?, batch, Activity.writer?, Ne.symm same])
          (takes.spares_within within same fun _ goes =>
            (Session.batching_resumeBatch (s := r.session.fresh) task writer ..).writer goes)
  | pass between =>
    refine .spared rfl rfl rfl ?_ (Run.spares_pass between id)
    cases move with
    | start | resume => cases between
    | _ => simp [Turn.writer?]

end Steps
end SequenceLog

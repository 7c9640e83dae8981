import SequenceLog.Proofs.Ending
import SequenceLog.Proofs.Trial
/-! What others do while a batch is under way. A writer is only changed in the turns of its batches, and
while one of them has an append under way the others only come to the queue, stay in it or leave it.
Main statement: `attends_step`. -/
namespace SequenceLog
open Scenario
variable {τ σ κ μ χ : Type}

theorem Run.chronicle_step {r r' : Run τ σ κ μ χ} {turn : Turn τ σ κ μ χ} {id : WriterId}
    (turns : r'.turns = r.turns ++ [turn]) : r'.chronicle id = r.chronicle id ++ turn.deeds id := by
  simp [chronicle, turns]

theorem Turn.deeds_of_quiet {turn : Turn τ σ κ μ χ} {id : WriterId}
    (quiet : turn.after.deeds id = []) : turn.deeds id = [] := by
  simp only [deeds, quiet, List.map_nil]
  split <;> rfl

section Steps
variable [Transport τ σ κ] [Commanded τ μ χ κ] {r : Run τ σ κ μ χ} {id : WriterId}

theorem Run.steady_pass {move : Move μ χ} (between : r.caller move = none)
    (known : id < r.session.writers.length) :
    Session.Steady id r.session.fresh (r.session.fresh.play move).1 := by
  have known : id < r.session.fresh.writers.length := known
  cases move with
  | start task operation | resume task signal => cases between
  | abandon task => exact Session.steady_abandon known task
  | openWriter key registry token maxAttempts => exact Session.apart_openWriter.steady known
  | remove key writer => exact Session.apart_remove.steady known
  | closePool => exact .of_same rfl rfl
  | command | chore => exact Session.apart_absorb.steady known

omit [Transport τ σ κ] [Commanded τ μ χ κ] in
theorem Takes.steady {r' : Run τ σ κ μ χ} {task : TaskId} {stepped : Stepped τ σ κ}
    (takes : Takes r r' task stepped) (steady : Session.Steady id r.session.fresh stepped.session) :
    Session.Steady id r.session.fresh r'.session :=
  ⟨by rw [takes.writer]; exact steady.writer, by rw [takes.deeds]; exact steady.quiet⟩

theorem Run.step_of_turns {move : Move μ χ} (same : (r.step move).turns = r.turns) :
    r.step move = r := by
  unfold step at same ⊢
  split
  · rename_i allowed
    simp [allowed] at same
  · rfl

theorem Run.turn_of_step {move : Move μ χ} {turn : Turn τ σ κ μ χ}
    (turns : (r.step move).turns = r.turns ++ [turn]) :
    r.session.allows move = true ∧ turn.move = move ∧ turn.call = r.caller move ∧
      turn.before = r.session.fresh ∧ turn.after = (r.step move).session := by
  by_cases allowed : r.session.allows move = true
  · rw [Run.step_of_allowed allowed] at turns ⊢
    have same := List.append_cancel_left turns
    simp only [List.cons.injEq, and_true] at same
    subst same
    exact ⟨allowed, rfl, rfl, rfl, rfl⟩
  · simp [Run.step, allowed] at turns

omit [Transport τ σ κ] [Commanded τ μ χ κ] in
/-- A turn that a call under way does not take itself belongs to another call, or to none. -/
theorem Run.caller_foreign (sound : Sound r) (ends : EndsOnce r) {task : TaskId}
    (under : r.session.active task ≠ none) {move : Move μ χ}
    (allowed : r.session.allows move = true) (other : ∀ signal, move ≠ .resume task signal) :
    r.caller move ≠ some (r.call task) := by
  cases move with
  | start busy operation =>
    intro same
    exact Nat.ne_of_gt (sound.began task under) (Option.some.inj same)
  | resume busy signal =>
    intro same
    have underway : r.session.active busy ≠ none := by
      simpa [Session.allows, Option.isSome_iff_ne_none] using allowed
    obtain rfl := ends.apart underway under (Option.some.inj same)
    exact other signal rfl
  | _ => exact (Option.some_ne_none _).symm

theorem steady_step (sound : Sound r) (known : id < r.session.writers.length) {move : Move μ χ}
    {turn : Turn τ σ κ μ χ} (turns : (r.step move).turns = r.turns ++ [turn])
    (other : turn.writer? ≠ some id) :
    Session.Steady id r.session.fresh (r.step move).session := by
  have steps := steps_step sound move
  generalize made : r.step move = r' at steps turns ⊢
  cases steps with
  | stay => simp at turns
  | @start task operation _ idle present operations call takes =>
    obtain rfl : _ = turn := by simpa using (takes.turns_eq made).symm.trans turns
    cases operation with
    | append request | ensureStream key => exact takes.steady (Session.apart_absorb.steady known)
    | getWriter key => exact takes.steady (Session.apart_startLookup.steady known)
    | write busy batch =>
      have different : id ≠ busy := fun same => other (by simp [Turn.writer?, same])
      exact takes.steady ((Session.within_startBatch (s := r.session.fresh)
        (present busy batch rfl) task batch).steady different)
  | @resume task signal activity _ under operations call takes =>
    obtain rfl : _ = turn := by simpa using (takes.turns_eq made).symm.trans turns
    cases activity with
    | transport stage => exact takes.steady (Session.apart_absorb.steady known)
    | lookup key era stage => exact takes.steady (Session.apart_resumeLookup.steady known)
    | batch busy events stage =>
      have different : id ≠ busy := by
        rintro rfl
        apply other
        simp [Turn.writer?, Session.batchOf, Session.fresh, under, Activity.writer?]
      exact takes.steady ((Session.within_resumeBatch (s := r.session.fresh)
        (sound.asked task busy events stage under).1 task events stage signal).steady different)
  | pass between => exact Run.steady_pass between known

omit [Transport τ σ κ] [Commanded τ μ χ κ] in
/-- While a batch has an append under way, those who want the lock of its writer do not get it. -/
theorem Sound.locked (sound : Sound r) {task : TaskId} (sending : r.session.Sending id task) :
    (r.session.writer id).lock.held = true ∧
      ∀ other, (r.session.writer id).lock.isGranted other = false := by
  obtain ⟨lane, attended⟩ := sound.attended_of_sending sending
  have held := attended.guards.held.2 ⟨task, sending⟩
  refine ⟨held, fun other => Bool.eq_false_iff.2 fun granted => ?_⟩
  have unheld := (attended.guards.granted other (Mutex.isGranted_iff.1 granted)).1
  cases held.symm.trans unheld

theorem plays_step (sound : Sound r) {move : Move μ χ} {turn : Turn τ σ κ μ χ}
    (turns : (r.step move).turns = r.turns ++ [turn]) (own : turn.writer? = some id) :
    id < r.session.writers.length ∧ ∃ task stepped, Takes r (r.step move) task stepped ∧
      Session.Plays id r.session.fresh stepped ∧
      turn = ⟨move, some ((r.step move).call task), r.session.fresh, (r.step move).session,
        stepped.result?⟩ := by
  have concerns := concerns_step sound move id
  generalize r.step move = r' at concerns turns ⊢
  cases concerns with
  | stay => simp at turns
  | spared turns' _ _ other =>
    obtain rfl : _ = turn := by simpa using turns'.symm.trans turns
    exact absurd own other
  | @start task batch _ known _ takes turns' =>
    obtain rfl : _ = turn := by simpa using turns'.symm.trans turns
    exact ⟨known, task, _, takes, (r.session.fresh.starts task id batch).plays known, rfl⟩
  | @resume task events stage signal _ under takes turns' =>
    obtain rfl : _ = turn := by simpa using turns'.symm.trans turns
    have known := (sound.asked task id events stage under).1
    refine ⟨known, task, _, takes,
      (r.session.fresh.resumes task id events stage signal).plays known ?_, rfl⟩
    rintro left sent rfl
    exact ⟨sound.active_of_sending under, (sound.locked ⟨events, left, sent, under⟩).1⟩

theorem Run.call_step (sound : Sound r) {task : TaskId} (under : r.session.active task ≠ none)
    (move : Move μ χ) : (r.step move).call task = r.call task := by
  have steps := steps_step sound move
  generalize r.step move = r' at steps ⊢
  cases steps with
  | stay => rfl
  | @start busy operation _ idle _ _ _ takes =>
    exact takes.others task fun same => under (same ▸ idle)
  | resume _ _ call => rw [call]
  | pass => rfl

theorem Run.unmoved_step (sound : Sound r) {task : TaskId} (under : r.session.active task ≠ none)
    {move : Move μ χ} (other : ∀ signal, move ≠ .resume task signal) :
    (r.step move).session.active task = r.session.active task := by
  have steps := steps_step sound move
  generalize r.step move = r' at steps ⊢
  cases steps with
  | stay => rfl
  | @start busy operation _ idle _ _ _ takes =>
    exact takes.active_other fun same => under (same ▸ idle)
  | @resume busy signal activity _ _ _ _ takes =>
    exact takes.active_other fun same => other signal (same ▸ rfl)
  | pass between => exact congrFun (Run.pass_extension between).active task

/-- The run goes on while a task stays where it is, and nothing is done to a writer but to its lock. -/
structure Stands (r r' : Run τ σ κ μ χ) (id : WriterId) (task : TaskId) : Prop where
  active : r'.session.active task = r.session.active task
  call : r'.call task = r.call task
  writer : ∃ lock, r'.session.writer id = { r.session.writer id with lock := lock }
  chronicle : r'.chronicle id = r.chronicle id

/-- What a move means for a batch that has an append under way: the batch hears from the transport, or
stands by. -/
inductive Attends (r : Run τ σ κ μ χ) (task : TaskId) (id : WriterId) (events : List LogEvent)
    (left : Nat) (stage : σ) : Move μ χ → Run τ σ κ μ χ → Prop
  | stands {move r'} : Stands r r' id task → Attends r task id events left stage move r'
  | hears {signal r'} :
      Takes r r' task (r.session.fresh.resumeBatch task id events (.sending left stage) signal) →
      r'.call task = r.call task → Attends r task id events left stage (.resume task signal) r'

theorem attends_step (sound : Sound r) {task : TaskId} {events : List LogEvent} {left : Nat}
    {stage : σ} (under : r.session.active task = some (.batch id events (.sending left stage)))
    (move : Move μ χ) : Attends r task id events left stage move (r.step move) := by
  by_cases own : ∃ signal, move = .resume task signal
  · obtain ⟨signal, rfl⟩ := own
    have steps := steps_step sound (.resume task signal)
    generalize r.step (.resume task signal) = r' at steps ⊢
    cases steps with
    | stay => exact .stands ⟨rfl, rfl, ⟨_, rfl⟩, rfl⟩
    | resume under' operations call takes =>
      cases under.symm.trans under'
      exact .hears takes (congrFun call task)
    | pass between => cases between
  · have known := (sound.asked task id events _ under).1
    obtain ⟨held, refused⟩ := sound.locked ⟨events, left, stage, under⟩
    have busy : r.session.active task ≠ none := by simp [under]
    have active := Run.unmoved_step sound busy (not_exists.1 own)
    have call := Run.call_step sound busy move
    have concerns := concerns_step sound move id
    have steady := @steady_step _ _ _ _ _ _ _ r id sound known move
    generalize r.step move = r' at concerns active call steady ⊢
    have stands {turn : Turn τ σ κ μ χ} (turns : r'.turns = r.turns ++ [turn])
        (after : turn.after = r'.session) (steady : Session.Steady id r.session.fresh r'.session) :
        Stands r r' id task :=
      ⟨active, call, steady.writer.imp fun _ kept => kept.1, by
        rw [Run.chronicle_step turns, Turn.deeds_of_quiet (after ▸ steady.quiet), List.append_nil]⟩
    cases concerns with
    | stay => exact .stands ⟨rfl, rfl, ⟨_, rfl⟩, rfl⟩
    | spared turns before after other spares => exact .stands (stands turns after (steady turns other))
    | start _ _ takes turns =>
      exact .stands (stands turns rfl (takes.steady ((Session.starts ..).steady known held)))
    | @resume busy _ place _ _ under' takes turns =>
      cases place with
      | queued =>
        exact .stands (stands turns rfl (takes.steady ((Session.resumes ..).steady known
          (refused busy))))
      | sending left' stage' =>
        obtain ⟨lane, attended⟩ := sound.attended_of_sending ⟨events, left, stage, under⟩
        obtain rfl := attended.guards.alone task busy ⟨_, _, _, under⟩ ⟨_, _, _, under'⟩
        exact absurd ⟨_, rfl⟩ own

end Steps
end SequenceLog

import SequenceLog.Proofs.Attendance
import SequenceLog.Proofs.Lookup
/-! What a move adds to a run. A move that is not allowed adds nothing; a task that starts or goes on
takes a turn, in which its operation steps; all else happens between the turns. -/
namespace SequenceLog
open Scenario
variable {τ σ κ μ χ : Type}

/-- What is at a place of a list stays there when the list grows at its end. -/
theorem getElem?_grows {α : Type} {xs ys : List α} (grows : xs <+: ys) {i : Nat} {a : α}
    (there : xs[i]? = some a) : ys[i]? = some a := by
  obtain ⟨more, rfl⟩ := grows
  rw [List.getElem?_append_left (List.getElem?_eq_some_iff.1 there).1, there]

namespace Session

/-- No move takes writers away, gives them another stream or changes what tasks are suspended in. -/
structure Extends (s s' : Session τ σ κ) : Prop where
  active : s'.active = s.active
  longer : s.writers.length ≤ s'.writers.length
  key : ∀ {id}, id < s.writers.length → (s'.writer id).key = (s.writer id).key

theorem Within.extension {s s' : Session τ σ κ} {id : WriterId} (within : Within id s s') :
    s.Extends s' where
  active := within.active
  longer := Nat.le_of_eq within.length.symm
  key {other} _ := by
    by_cases same : other = id
    · rw [same, within.key]
    · rw [writer_congr other (within.others other same)]

theorem Apart.extension {s s' : Session τ σ κ} (apart : Apart s s') : s.Extends s' where
  active := apart.active
  longer := apart.longer
  key known := by rw [writer_congr _ (apart.getElem? known)]

/-- The session as a move finds it: nothing has happened yet. -/
def fresh (s : Session τ σ κ) : Session τ σ κ := { s with happened := [] }

variable [Transport τ σ κ]

/-- The first part of an operation. -/
def opening (s : Session τ σ κ) (task : TaskId) : Operation → Stepped τ σ κ
  | .append request => s.relay (Transport.append s.transport request)
  | .ensureStream key => s.relay (Transport.ensureStream s.transport key)
  | .getWriter key => s.startLookup task key
  | .write id batch => s.startBatch task id batch

/-- The next part of an operation. -/
def ongoing (s : Session τ σ κ) (task : TaskId) (signal : Signal) : Activity σ → Stepped τ σ κ
  | .transport stage => s.relay (Transport.resume s.transport stage signal)
  | .lookup key era stage => s.resumeLookup task key era stage signal
  | .batch id events stage => s.resumeBatch task id events stage signal

theorem start_eq (s : Session τ σ κ) (task : TaskId) (operation : Operation) :
    s.start task operation = record task (s.opening task operation) := by
  cases operation <;> rfl

theorem resume_eq {s : Session τ σ κ} {task : TaskId} {activity : Activity σ} (signal : Signal)
    (under : s.active task = some activity) :
    s.resume task signal = record task (s.ongoing task signal activity) := by
  simp only [resume, under]
  cases activity <;> rfl

theorem opening_extension {s : Session τ σ κ} {task : TaskId} {operation : Operation}
    (known : ∀ id batch, operation = .write id batch → id < s.writers.length) :
    s.Extends (s.opening task operation).session := by
  cases operation with
  | append request | ensureStream key => exact apart_absorb.extension
  | getWriter key => exact apart_startLookup.extension
  | write id batch => exact (within_startBatch (known id batch rfl) task batch).extension

theorem ongoing_extension {s : Session τ σ κ} {task : TaskId} {signal : Signal}
    {activity : Activity σ}
    (known : ∀ id events stage, activity = .batch id events stage → id < s.writers.length) :
    s.Extends (s.ongoing task signal activity).session := by
  cases activity with
  | transport stage => exact apart_absorb.extension
  | lookup key era stage => exact apart_resumeLookup.extension
  | batch id events stage =>
    exact (within_resumeBatch (known id events stage rfl) task events stage signal).extension

end Session

/-- The run goes on with a turn of a task. -/
structure Takes (r r' : Run τ σ κ μ χ) (task : TaskId) (stepped : Stepped τ σ κ) : Prop where
  session : r'.session = { stepped.session with active := fun t =>
    if t = task then stepped.activity? else stepped.session.active t }
  extension : r.session.fresh.Extends stepped.session
  operations : ∃ more, r'.operations = r.operations ++ more
  begun : r'.call task < r'.operations.length
  others : ∀ other, other ≠ task → r'.call other = r.call other
  turns : ∃ move, r'.turns = r.turns ++
    [⟨move, some (r'.call task), r.session.fresh, r'.session, stepped.result?⟩]

/-- The run goes on with something between the turns. -/
def Run.pass (r : Run τ σ κ μ χ) (move : Move μ χ) (s : Session τ σ κ) : Run τ σ κ μ χ :=
  { r with session := s, turns := r.turns ++ [⟨move, none, r.session.fresh, s, none⟩] }

variable [Transport τ σ κ] [Commanded τ μ χ κ]

/-- Where a run can come to by a move. -/
inductive Steps (r : Run τ σ κ μ χ) : Move μ χ → Run τ σ κ μ χ → Prop
  | stay {move} : Steps r move r
  | start {task operation r'} : r.session.active task = none →
      (∀ id batch, operation = .write id batch → id < r.session.writers.length) →
      r'.operations = r.operations ++ [operation] → r'.call task = r.operations.length →
      Takes r r' task (r.session.fresh.opening task operation) → Steps r (.start task operation) r'
  | resume {task signal activity r'} : r.session.active task = some activity →
      r'.operations = r.operations → r'.call = r.call →
      Takes r r' task (r.session.fresh.ongoing task signal activity) →
      Steps r (.resume task signal) r'
  | pass {move} : r.caller move = none →
      Steps r move (r.pass move (r.session.fresh.play move).1)

theorem Run.step_of_allowed {r : Run τ σ κ μ χ} {move : Move μ χ}
    (allowed : r.session.allows move = true) :
    r.step move = { r.begin move with
      session := (r.session.fresh.play move).1
      turns := r.turns ++ [⟨move, r.caller move, r.session.fresh, (r.session.fresh.play move).1,
        (r.session.fresh.play move).2⟩] } := by
  rw [Run.step, if_pos allowed]
  rfl

theorem Run.takes_start {r : Run τ σ κ μ χ} {task : TaskId} {operation : Operation}
    (allowed : r.session.allows (.start task operation : Move μ χ) = true)
    (known : ∀ id batch, operation = .write id batch → id < r.session.writers.length) :
    Takes r (r.step (.start task operation)) task (r.session.fresh.opening task operation) := by
  rw [Run.step_of_allowed allowed]
  constructor
  · rw [Session.play, Session.start_eq, Session.record_eq]
  · exact Session.opening_extension known
  · exact ⟨[operation], rfl⟩
  · simp [Run.begin]
  · intro other different
    simp [Run.begin, different]
  · refine ⟨.start task operation, ?_⟩
    simp [Run.begin, Run.caller, Session.play, Session.start_eq, Session.record_eq]

theorem Run.takes_resume {r : Run τ σ κ μ χ} {task : TaskId} {activity : Activity σ}
    (under : r.session.active task = some activity)
    (known : ∀ id events stage, activity = .batch id events stage → id < r.session.writers.length)
    (began : r.call task < r.operations.length) (signal : Signal) :
    Takes r (r.step (.resume task signal)) task (r.session.fresh.ongoing task signal activity) := by
  have allowed : r.session.allows (.resume task signal : Move μ χ) = true := by
    simp [Session.allows, under]
  have under' : r.session.fresh.active task = some activity := under
  rw [Run.step_of_allowed allowed]
  constructor
  · rw [Session.play, Session.resume_eq signal under', Session.record_eq]
  · exact Session.ongoing_extension known
  · exact ⟨[], by simp [Run.begin]⟩
  · exact began
  · intro other _
    rfl
  · refine ⟨.resume task signal, ?_⟩
    simp [Run.begin, Run.caller, Session.play, Session.resume_eq signal under', Session.record_eq]

theorem steps_step {r : Run τ σ κ μ χ} (sound : Sound r) (move : Move μ χ) :
    Steps r move (r.step move) := by
  by_cases allowed : r.session.allows move = true
  · have stepped := Run.step_of_allowed allowed
    cases move with
    | start task operation =>
      have idle : r.session.active task = none := by
        cases operation <;> simp_all [Session.allows]
      have known : ∀ id batch, operation = .write id batch → id < r.session.writers.length := by
        rintro id batch rfl
        simp_all [Session.allows]
      exact .start idle known (by rw [stepped]; rfl) (by simp [stepped, Run.begin])
        (Run.takes_start allowed known)
    | resume task signal =>
      obtain ⟨activity, under⟩ := Option.isSome_iff_exists.1 allowed
      have known : ∀ id events stage, activity = .batch id events stage →
          id < r.session.writers.length := fun id events stage same =>
        (sound.asked task id events stage (same ▸ under)).1
      exact .resume under (by rw [stepped]; rfl) (by rw [stepped]; rfl)
        (Run.takes_resume under known (sound.began task (by simp [under])) signal)
    | _ => exact stepped ▸ .pass rfl
  · rw [Run.step, if_neg allowed]
    exact .stay

omit [Transport τ σ κ] in
theorem Session.abandon_extension (s : Session τ σ κ) (task : TaskId) :
    s.Extends (s.abandon task) := by
  unfold abandon
  split
  · exact apart_setKeyLock.extension
  · rename_i id events under
    refine ⟨rfl, by simp, fun {other} known => ?_⟩
    by_cases same : other = id
    · subst same
      rw [writer_setWriter_self s other _ known]
    · refine congrArg (·.key) (writer_congr other ?_)
      simp [List.getElem?_set_ne (Ne.symm same)]
  · exact (Apart.refl s).extension

omit [Transport τ σ κ] in
theorem Session.abandon_transport (s : Session τ σ κ) (task : TaskId) :
    (s.abandon task).transport = s.transport := by
  unfold abandon
  split <;> rfl

theorem Run.pass_extension {r : Run τ σ κ μ χ} {move : Move μ χ} (between : r.caller move = none) :
    r.session.fresh.Extends (r.session.fresh.play move).1 := by
  cases move with
  | start task operation | resume task signal => cases between
  | abandon task => exact Session.abandon_extension ..
  | openWriter key registry token maxAttempts => exact Session.apart_openWriter.extension
  | remove key writer => exact Session.apart_remove.extension
  | closePool => exact ⟨rfl, Nat.le_refl _, fun _ => rfl⟩
  | command | chore => exact Session.apart_absorb.extension

theorem Run.step_resume (r : Run τ σ κ μ χ) (task : TaskId) (signal : Signal) :
    (r.step (.resume task signal)).operations = r.operations ∧
      (r.step (.resume task signal)).call = r.call := by
  unfold step
  split <;> exact ⟨rfl, rfl⟩

/-- A move that is made takes one turn, which is a turn of this move. -/
theorem Run.turns_step (r : Run τ σ κ μ χ) (move : Move μ χ) :
    (r.step move).turns = r.turns ∨
      ∃ turn, (r.step move).turns = r.turns ++ [turn] ∧ turn.move = move := by
  unfold step
  split
  · exact .inr ⟨_, rfl, rfl⟩
  · exact .inl rfl

theorem Run.turns_play (r : Run τ σ κ μ χ) (moves : List (Move μ χ)) :
    ∃ later, (r.play moves).turns = r.turns ++ later := by
  induction moves generalizing r with
  | nil => exact ⟨[], (List.append_nil _).symm⟩
  | cons move moves ih =>
    obtain ⟨later, all⟩ := ih (r.step move)
    rcases r.turns_step move with same | ⟨turn, turns, -⟩
    · exact ⟨later, same ▸ all⟩
    · rw [turns, List.append_assoc] at all
      exact ⟨_, all⟩

theorem Run.mem_turns_play {r : Run τ σ κ μ χ} {turn : Turn τ σ κ μ χ} (member : turn ∈ r.turns)
    (moves : List (Move μ χ)) : turn ∈ (r.play moves).turns := by
  obtain ⟨later, all⟩ := r.turns_play moves
  exact all ▸ List.mem_append_left _ member

theorem Run.play_append (r : Run τ σ κ μ χ) (moves more : List (Move μ χ)) :
    r.play (moves ++ more) = (r.play moves).play more :=
  List.foldl_append

theorem Takes.turns_eq {r r' : Run τ σ κ μ χ} {task : TaskId} {stepped : Stepped τ σ κ}
    {move : Move μ χ} (takes : Takes r r' task stepped) (made : r.step move = r') :
    r'.turns = r.turns ++
      [⟨move, some (r'.call task), r.session.fresh, r'.session, stepped.result?⟩] := by
  obtain ⟨move', turns⟩ := takes.turns
  rcases r.turns_step move with none | ⟨turn, one, same⟩
  · simp [made, turns] at none
  · rw [made, turns, List.append_cancel_left_eq, List.singleton_inj] at one
    rw [turns, ← same, ← one]

omit [Transport τ σ κ] [Commanded τ μ χ κ]

namespace Takes
variable {r r' : Run τ σ κ μ χ} {task : TaskId} {stepped : Stepped τ σ κ}

theorem writers (takes : Takes r r' task stepped) : r'.session.writers = stepped.session.writers := by
  rw [takes.session]

theorem writer (takes : Takes r r' task stepped) (id : WriterId) :
    r'.session.writer id = stepped.session.writer id := by
  rw [takes.session]
  rfl

theorem longer (takes : Takes r r' task stepped) :
    r.session.writers.length ≤ r'.session.writers.length :=
  takes.writers ▸ takes.extension.longer

theorem key (takes : Takes r r' task stepped) {id : WriterId} (known : id < r.session.writers.length) :
    (r'.session.writer id).key = (r.session.writer id).key := by
  rw [takes.writer]
  exact takes.extension.key known

theorem active (takes : Takes r r' task stepped) :
    stepped.session.active = r.session.active :=
  takes.extension.active

theorem active_self (takes : Takes r r' task stepped) :
    r'.session.active task = stepped.activity? := by
  simp [takes.session]

theorem active_other (takes : Takes r r' task stepped) {other : TaskId} (different : other ≠ task) :
    r'.session.active other = r.session.active other := by
  simp [takes.session, takes.active, different]

/-- A task that goes on with what it was suspended in leaves all tasks as they were. -/
theorem active_unchanged (takes : Takes r r' task stepped)
    (same : stepped.activity? = r.session.active task) : r'.session.active = r.session.active := by
  funext other
  by_cases own : other = task
  · rw [own, takes.active_self, same]
  · exact takes.active_other own

theorem chronicle (takes : Takes r r' task stepped) (id : WriterId) :
    r'.chronicle id = stepped.session.told (r.chronicle id) (r'.call task) id := by
  obtain ⟨move, turns⟩ := takes.turns
  have same : r'.session.deeds id = stepped.session.deeds id := by
    rw [takes.session]
    rfl
  simp [Run.chronicle, turns, Turn.deeds, same, Session.told]

theorem opened (takes : Takes r r' task stepped) :
    r'.opened = r.opened ++ r'.session.writers.drop r.session.writers.length := by
  obtain ⟨move, turns⟩ := takes.turns
  simp [Run.opened, turns, Session.fresh]

end Takes

theorem Run.chronicle_pass (r : Run τ σ κ μ χ) (move : Move μ χ) (s : Session τ σ κ)
    (id : WriterId) : (r.pass move s).chronicle id = r.chronicle id := by
  simp [chronicle, pass, Turn.deeds]

theorem Run.opened_pass (r : Run τ σ κ μ χ) (move : Move μ χ) (s : Session τ σ κ) :
    (r.pass move s).opened = r.opened ++ s.writers.drop r.session.writers.length := by
  simp [opened, pass, Session.fresh]

end SequenceLog

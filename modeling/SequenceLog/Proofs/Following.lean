import SequenceLog.Proofs.Acting
import SequenceLog.Proofs.Ending
import SequenceLog.Proofs.Pooling
import SequenceLog.Proofs.Tenure
/-! Schedules that follow runs. A schedule stands where a run does when they have the same session and
the same things happened in both. Each turn that a thread gives to its operation is a move of the run, and
so is all that a thread does between the operations. Main statements: `Core.Rests.turned` and
`Core.Stands.turned`. -/
namespace SequenceLog
open Scenario Scenario.Schedule
variable {τ σ κ μ χ α β : Type}

def Run.callsMade (r : Run τ σ κ μ χ) : List κ :=
  r.turns.flatMap fun turn => turn.after.happened.filterMap Happening.call?

def Run.noticesGiven (r : Run τ σ κ μ χ) : List Notice :=
  r.turns.flatMap fun turn => turn.after.happened.filterMap Happening.notice?

/-- A writer that is given out was opened. -/
def Stepped.Opens (stepped : Stepped τ σ κ) : Prop :=
  ∀ id, stepped.result? = some (.ok (.writer id)) → id < stepped.session.writers.length

theorem Stepped.HandsOut.opens {stepped : Stepped τ σ κ} (handsOut : stepped.HandsOut) :
    stepped.Opens :=
  fun id given => (handsOut id given).1

section Answers
variable {s : Session τ σ κ} {key : Key} {era : Nat} {stepped : Stepped τ σ κ}

theorem Prepared.opens (prepared : Prepared key era s stepped) : stepped.Opens := by
  intro id given
  cases prepared with
  | waits | failed => cases given
  | opened writers =>
    cases given
    simp [writers]

theorem Found.opens (found : Found key era s stepped) (listed : s.Listed) : stepped.Opens := by
  cases found with
  | there entry writers =>
    intro id given
    cases given
    exact writers ▸ (listed entry).1
  | missing _ prepared => exact prepared.opens

namespace Session

/-- A writer that is opened outside the pool is opened in silence. -/
theorem openWriter_opens (s : Session τ σ κ) (key : Key) (registry : Registry) (token : Token)
    (maxAttempts : Int) :
    (s.openWriter key registry token maxAttempts).session.happened = s.happened ∧
      (s.openWriter key registry token maxAttempts).Opens := by
  unfold openWriter
  split
  · exact ⟨rfl, fun id given => by cases given⟩
  · refine ⟨rfl, fun id given => ?_⟩
    cases given
    simp [finished]

theorem abandon_happened (s : Session τ σ κ) (task : TaskId) :
    (s.abandon task).happened = s.happened := by
  unfold abandon
  split <;> rfl

variable [Transport τ σ κ]

theorem Listed.startLookup (listed : s.Listed) (task : TaskId) (key : Key) :
    (s.startLookup task key).Opens := by
  unfold Session.startLookup
  split
  · rename_i entry
    intro id given
    cases given
    exact (listed entry).1
  · dsimp only
    split
    · exact (found_prepare (s := s.setKeyLock _ _ _) _).opens listed
    · intro id given
      cases given

theorem Listed.resumeLookup (listed : s.Listed) (task : TaskId) (key : Key) (era : Nat)
    (stage : LookupStage σ) (signal : Signal) :
    (s.resumeLookup task key era stage signal).Opens := by
  cases stage with
  | queued =>
    cases signal with
    | ready =>
      simp only [Session.resumeLookup]
      split
      · exact (found_prepare (s := s.setKeyLock _ _ _) _).opens listed
      · intro id given
        cases given
    | expired | interrupted =>
      intro id given
      cases given
  | preparing stage => exact (prepared_preparing era task stage signal).opens

theorem Listed.opening (listed : s.Listed) (task : TaskId) (operation : Operation) :
    (s.opening task operation).Opens := by
  cases operation with
  | append request | ensureStream key => exact (relay_progress s _).2.opens
  | getWriter key => exact listed.startLookup task key
  | write id batch =>
    obtain ⟨events, batching⟩ := s.batching_start task id batch
    exact batching.handsOut.opens

theorem Listed.ongoing (listed : s.Listed) (task : TaskId) (signal : Signal)
    (activity : Activity σ) : (s.ongoing task signal activity).Opens := by
  cases activity with
  | transport stage => exact (relay_progress s _).2.opens
  | lookup key era stage => exact listed.resumeLookup task key era stage signal
  | batch id events stage =>
    exact (batching_resumeBatch (s := s) task id events stage signal).handsOut.opens

end Session

end Answers

namespace Scenario.Schedule
open Act

namespace Core

/-- The schedule stands where the run does. -/
structure Follows (c : Core τ σ κ χ) (r : Run τ σ κ μ χ) : Prop where
  sound : Sound r
  listed : r.session.Listed
  session : c.session = r.session.fresh
  known : ∀ name id, c.names.get? name = some id → id < r.session.writers.length
  calls : c.calls = r.callsMade
  notices : c.notices = r.noticesGiven

/-- The operations under way are those of threads that are suspended in one, but for one of them. -/
def OrderlyBut (c : Core τ σ κ χ) (task : TaskId) : Prop :=
  ∀ other, other ≠ task → c.session.active other ≠ none → c.works[other]? = some .operation

def Orderly (c : Core τ σ κ χ) : Prop :=
  ∀ task, c.session.active task ≠ none → c.works[task]? = some .operation

section Works
variable {c : Core τ σ κ χ} {task : TaskId} {work : Work χ}

theorem Orderly.idle (orderly : c.Orderly) (there : c.works[task]? = some work)
    (other : work ≠ .operation) : c.session.active task = none := by
  refine Decidable.byContradiction fun under => ?_
  have same := (orderly task under).symm.trans there
  exact other (Option.some.inj same).symm

theorem OrderlyBut.working (orderly : c.OrderlyBut task)
    (own : c.session.active task ≠ none → (c.working task work).works[task]? = some .operation) :
    (c.working task work).Orderly := by
  intro other under
  by_cases same : other = task
  · subst same
    exact own under
  · simp only [Core.working, List.getElem?_modify, if_neg (Ne.symm same)]
    simpa using orderly other same under

end Works

section Moves
variable {c : Core τ σ κ χ} {r : Run τ σ κ μ χ}

theorem Follows.working (follows : c.Follows r) (task : TaskId) (work : Work χ) :
    (c.working task work).Follows r :=
  { follows with }

theorem Follows.naming (follows : c.Follows r) (name : Text) {id : WriterId}
    (opened : id < c.session.writers.length) :
    (c.naming name id).Follows r :=
  { follows with
    known := fun other id' named => by
      rw [Core.naming] at named
      by_cases same : other = name
      · subst same
        rw [Table.get?_insert_self] at named
        cases named
        rwa [follows.session] at opened
      · rw [Table.get?_insert_other _ _ same] at named
        exact follows.known other id' named }

variable [Transport τ σ κ] [Commanded τ μ χ κ]

theorem Follows.step (follows : c.Follows r) {move : Move μ χ}
    (allowed : c.session.allows move = true) :
    (c.turning (c.session.play move).1).collected.Follows (r.step move) := by
  have longer : r.session.writers.length ≤ (r.step move).session.writers.length := by
    rcases proceeds_step follows.sound move with stays | ⟨turn, proceeds⟩
    · exact Nat.le_of_eq (congrArg (·.session.writers.length) stays.symm)
    · have longer := proceeds.orderly.longer
      rwa [proceeds.before, proceeds.after] at longer
  have listed : (r.step move).session.Listed := by
    rcases proceeds_step follows.sound move with stays | ⟨turn, proceeds⟩
    · rw [stays]
      exact follows.listed
    · rw [← proceeds.after]
      exact proceeds.orderly.listed (proceeds.before ▸ follows.listed)
  have stepped : r.step move = _ := Run.step_of_allowed (by
    rw [follows.session] at allowed
    cases move with
    | start task operation => cases operation <;> exact allowed
    | _ => exact allowed)
  refine ⟨sound_step follows.sound move, listed, ?_, fun name id named => ?_, ?_, ?_⟩
  · rw [stepped, follows.session]
    rfl
  · exact Nat.lt_of_lt_of_le (follows.known name id named) longer
  · rw [stepped]
    simp [collected, turning, follows.session, follows.calls, Run.callsMade]
  · rw [stepped]
    simp [collected, turning, follows.session, follows.notices, Run.noticesGiven]

end Moves

/-- The schedule stands where moves lead. -/
structure Stands (start : Run τ σ κ μ χ) [Transport τ σ κ] [Commanded τ μ χ κ] (c : Core τ σ κ χ) :
    Prop where
  played : ∃ moves, c.Follows (start.play moves)
  orderly : c.Orderly

/-- A thread is between two of its steps. -/
structure Rests (start : Run τ σ κ μ χ) [Transport τ σ κ] [Commanded τ μ χ κ] (task : TaskId)
    (c : Core τ σ κ χ) : Prop extends Stands start c where
  among : task < c.works.length
  idle : c.session.active task = none

section Standing
variable [Transport τ σ κ] [Commanded τ μ χ κ] {start : Run τ σ κ μ χ} {c : Core τ σ κ χ}
  {task : TaskId}

theorem Stands.step (stands : c.Stands start) {move : Move μ χ}
    (allowed : c.session.allows move = true) :
    ∃ moves, (c.turning (c.session.play move).1).collected.Follows (start.play moves) := by
  obtain ⟨moves, follows⟩ := stands.played
  refine ⟨moves ++ [move], ?_⟩
  rw [Run.play_append]
  exact follows.step allowed

/-- What is done between the turns of the operations is of no concern to the threads. -/
theorem Stands.active_pass (stands : c.Stands start) (move : Move μ χ)
    (between : start.caller move = none) : (c.session.play move).1.active = c.session.active := by
  obtain ⟨moves, follows⟩ := stands.played
  rw [follows.session]
  refine (Run.pass_extension ?_).active
  cases move with
  | start | resume => cases between
  | _ => rfl

theorem Stands.pass (stands : c.Stands start) (move : Move μ χ)
    (between : start.caller move = none) :
    (c.turning (c.session.play move).1).collected.Stands start where
  played := stands.step (by
    cases move with
    | start | resume => cases between
    | _ => rfl)
  orderly task under := stands.orderly task (stands.active_pass move between ▸ under)

theorem Rests.pass (rests : c.Rests start task) (move : Move μ χ)
    (between : start.caller move = none) :
    (c.turning (c.session.play move).1).collected.Rests start task where
  toStands := rests.toStands.pass move between
  among := rests.among
  idle := (congrFun (rests.toStands.active_pass move between) task).trans rests.idle

/-- Where nothing happened there is nothing to take down. -/
theorem Rests.pass_silent (rests : c.Rests start task) (move : Move μ χ)
    (between : start.caller move = none)
    (silent : (c.session.play move).1.happened = c.session.happened) :
    (c.turning (c.session.play move).1).Rests start task := by
  obtain ⟨moves, follows⟩ := rests.played
  have empty : c.session.happened = [] := congrArg (·.happened) follows.session
  rw [← Core.collected_of_empty (c := c.turning _) (silent.trans empty)]
  exact rests.pass move between

/-- A thread that is between two of its steps is suspended in something other than an operation. -/
theorem Rests.working (rests : c.Rests start task) (work : Work χ) :
    (c.working task work).Rests start task where
  played := by
    obtain ⟨moves, follows⟩ := rests.played
    exact ⟨moves, follows.working task work⟩
  orderly := OrderlyBut.working (fun other _ => rests.orderly other) fun under =>
    absurd rests.idle under
  among := by simpa [Core.working] using rests.among
  idle := rests.idle

theorem Rests.spawning (rests : c.Rests start task) :
    c.spawning.Rests start task where
  played := by
    obtain ⟨moves, follows⟩ := rests.played
    exact ⟨moves, { follows with }⟩
  orderly other under := getElem?_grows (List.prefix_append _ _) (rests.orderly other under)
  among := by
    rw [Core.spawning, List.length_append]
    exact Nat.lt_add_right _ rests.among
  idle := rests.idle

theorem Rests.naming (rests : c.Rests start task) (name : Text) {id : WriterId}
    (opened : id < c.session.writers.length) :
    (c.naming name id).Rests start task :=
  { rests with
    played := by
      obtain ⟨moves, follows⟩ := rests.played
      exact ⟨moves, follows.naming name opened⟩ }

end Standing

/-- What the turn of a thread's operation has made of the session. -/
structure Turned (start : Run τ σ κ μ χ) [Transport τ σ κ] [Commanded τ μ χ κ] (task : TaskId)
    (turn : Session τ σ κ × Option (Except Fault Answer)) (c : Core τ σ κ χ) : Prop where
  played : ∃ moves, (c.turning turn.1).collected.Follows (start.play moves)
  among : task < c.works.length
  others : (c.turning turn.1).OrderlyBut task
  idle : turn.2 ≠ none → turn.1.active task = none
  opened : ∀ id, turn.2 = some (.ok (.writer id)) → id < turn.1.writers.length

section Turns
variable [Transport τ σ κ] [Commanded τ μ χ κ] {start : Run τ σ κ μ χ} {c : Core τ σ κ χ}
  {task : TaskId}

/-- A task is idle once its operation is over. -/
theorem turned_record {stepped : Stepped τ σ κ} (orderly : c.Orderly)
    (among : task < c.works.length)
    (played : ∃ moves, (c.turning (Session.record task stepped).1).collected.Follows
      (start.play moves))
    (active : stepped.session.active = c.session.active)
    (opened : stepped.Opens) : c.Turned start task (Session.record task stepped) := by
  rw [Session.record_eq] at played ⊢
  refine ⟨played, among, fun other different under => orderly other ?_, fun ended => ?_, opened⟩
  · simpa [turning, different, active] using under
  · obtain ⟨result, ended⟩ := Option.ne_none_iff_exists'.1 ended
    simpa using Stepped.activity?_of_result? ended

theorem Rests.turned (rests : c.Rests start task) (operation : Operation)
    (known : ∀ id batch, operation = .write id batch → id < c.session.writers.length) :
    c.Turned start task (c.session.start task operation) := by
  obtain ⟨moves, follows⟩ := rests.played
  have listed : c.session.Listed := follows.session ▸ follows.listed
  have allowed : c.session.allows (.start task operation : Move μ χ) = true := by
    cases operation with
    | write id batch => simp [Session.allows, rests.idle, known id batch rfl]
    | _ => simp [Session.allows, rests.idle]
  have played := rests.toStands.step allowed
  rw [Session.play, Session.start_eq] at played
  rw [Session.start_eq]
  exact turned_record rests.orderly rests.among played (Session.opening_extension known).active
    (listed.opening task operation)

theorem Stands.turned (stands : c.Stands start) (among : task < c.works.length) (signal : Signal) :
    c.Turned start task (c.session.resume task signal) := by
  obtain ⟨moves, follows⟩ := stands.played
  have listed : c.session.Listed := follows.session ▸ follows.listed
  -- a thread may be woken with nothing under way any more, and then no move is made
  cases under : c.session.active task with
  | none =>
    have stays : c.session.resume task signal = (c.session, none) := by
      simp [Session.resume, under]
    have empty : c.session.happened = [] := congrArg (·.happened) follows.session
    rw [stays]
    exact ⟨⟨moves, (Core.collected_of_empty empty).symm ▸ follows⟩, among,
      fun other _ => stands.orderly other, fun _ => under, fun _ given => by cases given⟩
  | some activity =>
    have known : ∀ id events stage, activity = .batch id events stage →
        id < c.session.writers.length := by
      rintro id events stage rfl
      rw [follows.session] at under ⊢
      exact (follows.sound.asked task id events stage under).1
    have allowed : c.session.allows (.resume task signal : Move μ χ) = true := by
      simp [Session.allows, under]
    have played := stands.step allowed
    rw [Session.play, Session.resume_eq signal under] at played
    rw [Session.resume_eq signal under]
    exact turned_record stands.orderly among played (Session.ongoing_extension known).active
      (listed.ongoing task signal activity)

theorem Turned.rests {turn : Session τ σ κ × Option (Except Fault Answer)}
    (turned : c.Turned start task turn) (ended : turn.2 ≠ none) :
    (c.turning turn.1).collected.Rests start task where
  played := turned.played
  orderly other under := by
    refine turned.others other (fun own => ?_) under
    exact absurd (turned.idle ended) (own ▸ under)
  among := turned.among
  idle := turned.idle ended

theorem Turned.suspended {turn : Session τ σ κ × Option (Except Fault Answer)}
    (turned : c.Turned start task turn) :
    ((c.turning turn.1).collected.working task .operation).Stands start where
  played := by
    obtain ⟨moves, follows⟩ := turned.played
    exact ⟨moves, follows.working task .operation⟩
  orderly := OrderlyBut.working turned.others fun _ => by
    have among : task < ((c.turning turn.1).collected).works.length := turned.among
    simp [Core.working, List.getElem?_eq_getElem among]

end Turns

end Core

section Resting
variable [Transport τ σ κ] [Commanded τ μ χ κ] {start : Run τ σ κ μ χ} {c : Core τ σ κ χ}
  {task : TaskId} {work : Work χ}

theorem Core.Stands.rests (stands : c.Stands start) (there : c.works[task]? = some work)
    (other : work ≠ .operation) : c.Rests start task where
  toStands := stands
  among := (List.getElem?_eq_some_iff.1 there).1
  idle := stands.orderly.idle there other

end Resting

end Scenario.Schedule

end SequenceLog

import SequenceLog.Proofs.Occupancy
import SequenceLog.Proofs.Retirement
/-! The tenure of writers in the pool. A step takes entries out of the pool, and takes in at most the
writer that it makes, so that a writer that has left never comes back. This holds in every run,
whenever the pool is closed and whoever removes writers. Main statement: `listed_once`. -/
namespace SequenceLog
open Scenario
variable {τ σ κ μ χ : Type}

namespace Session

def Lists (s : Session τ σ κ) (id : WriterId) : Prop :=
  ∃ key, s.pool.writers.get? key = some id

/-- A writer that the pool lists was made, and for the stream it is listed under. -/
def Listed (s : Session τ σ κ) : Prop :=
  ∀ {key id}, s.pool.writers.get? key = some id → id < s.writers.length ∧ (s.writer id).key = key

/-- What can become of a stream's entry in a step: it stays, it goes, or it is that of the writer that
the step makes. -/
inductive Fate (s s' : Session τ σ κ) (key : Key) : Prop
  | stays : s'.pool.writers.get? key = s.pool.writers.get? key → Fate s s' key
  | goes : s'.pool.writers.get? key = none → Fate s s' key
  | comes : s'.pool.writers.get? key = some s.writers.length → s'.Made key s.writers.length →
      Fate s s' key

section Steps
variable {s s' : Session τ σ κ} {key : Key} {era : Nat} {stepped : Stepped τ σ κ}

/-- Who holds the lock of a stream does not matter. -/
theorem Fate.of_locked {other : Key} (fate : s'.Fate stepped.session other)
    (pool : s'.pool.writers = s.pool.writers) (writers : s'.writers = s.writers) :
    s.Fate stepped.session other := by
  cases fate with
  | stays same => exact .stays (pool ▸ same)
  | goes gone => exact .goes gone
  | comes entry made => exact .comes (writers ▸ entry) (writers ▸ made)

theorem fate_prepared (prepared : Prepared key era s stepped) (other : Key) :
    s.Fate stepped.session other := by
  cases prepared with
  | waits _ pool => exact .stays (congrArg (·.writers.get? other) pool)
  | failed _ pool => exact .stays (congrArg (·.writers.get? other) pool)
  | opened writers pool sameKey registry =>
    have entry := congrArg (·.writers.get? other) pool
    by_cases same : other = key
    · subst same
      refine .comes (entry.trans (Table.get?_insert_self ..)) ⟨by simp [writers], ?_⟩
      rw [writer_new writers]
      exact ⟨sameKey, registry⟩
    · exact .stays (entry.trans (Table.get?_insert_other _ _ same))

theorem fate_found (found : Found key era s stepped) (other : Key) :
    s.Fate stepped.session other := by
  cases found with
  | there _ _ pool => exact .stays (congrArg (·.writers.get? other) pool)
  | missing _ prepared => exact fate_prepared prepared other

variable [Transport τ σ κ]

theorem fate_startLookup (task : TaskId) (key other : Key) :
    s.Fate (s.startLookup task key).session other := by
  unfold startLookup
  split
  · exact .stays rfl
  · dsimp only
    split
    · exact (fate_found (found_prepare (s := s.setKeyLock _ _ _) _) other).of_locked rfl rfl
    · exact .stays rfl

theorem fate_resumeLookup (task : TaskId) (key other : Key) (era : Nat) (stage : LookupStage σ)
    (signal : Signal) : s.Fate (s.resumeLookup task key era stage signal).session other := by
  cases stage with
  | queued =>
    cases signal with
    | ready =>
      simp only [resumeLookup]
      split
      · exact (fate_found (found_prepare (s := s.setKeyLock _ _ _) _) other).of_locked rfl rfl
      · exact .stays rfl
    | expired | interrupted => exact .stays (congrArg (·.writers.get? other) (wake_pool ..))
  | preparing stage => exact fate_prepared (prepared_preparing era task stage signal) other

end Steps

end Session

namespace Turn
variable (turn : Turn τ σ κ μ χ) (id : WriterId)

def Enrols : Prop := ¬ turn.before.Lists id ∧ turn.after.Lists id

def Dismisses : Prop := turn.before.Lists id ∧ ¬ turn.after.Lists id

/-- A turn does to the pool what its move stands for. -/
structure Orderly : Prop where
  longer : turn.before.writers.length ≤ turn.after.writers.length
  key : ∀ {id}, id < turn.before.writers.length →
    (turn.after.writer id).key = (turn.before.writer id).key
  fate : ∀ key, turn.before.Fate turn.after key
  batch : ∀ {id}, turn.writer? = some id → ∀ key,
    turn.after.pool.writers.get? key = turn.before.pool.writers.get? key ∨
      (turn.before.pool.writers.get? key = some id ∧ turn.after.pool.writers.get? key = none)
  remove : ∀ {key writer}, turn.move = .remove key writer →
    turn.after.pool = turn.before.pool.remove key writer

end Turn

structure Proceeds (r r' : Run τ σ κ μ χ) (turn : Turn τ σ κ μ χ) : Prop where
  turns : r'.turns = r.turns ++ [turn]
  before : turn.before = r.session.fresh
  after : turn.after = r'.session
  orderly : turn.Orderly

section Step
variable {r r' : Run τ σ κ μ χ} {task : TaskId} {stepped : Stepped τ σ κ} {turn : Turn τ σ κ μ χ}

theorem Takes.fate {key : Key} (takes : Takes r r' task stepped)
    (fate : r.session.fresh.Fate stepped.session key) : r.session.fresh.Fate r'.session key := by
  cases fate with
  | stays same => exact .stays (takes.pool ▸ same)
  | goes gone => exact .goes (takes.pool ▸ gone)
  | comes entry made => exact .comes (takes.pool ▸ entry) ((takes.made_iff key _).2 made)

theorem Takes.proceeds (takes : Takes r r' task stepped) (turns : r'.turns = r.turns ++ [turn])
    (before : turn.before = r.session.fresh) (after : turn.after = r'.session)
    (fate : ∀ key, r.session.fresh.Fate stepped.session key) (writer : turn.writer? = none)
    (move : ∀ key writer, turn.move ≠ .remove key writer) : Proceeds r r' turn where
  turns := turns
  before := before
  after := after
  orderly := by
    constructor
    · rw [before, after]
      exact takes.longer
    · intro id known
      rw [before] at known ⊢
      rw [after]
      exact takes.key known
    · intro key
      rw [before, after]
      exact takes.fate (fate key)
    · intro id own
      cases writer.symm.trans own
    · intro key writer own
      exact absurd own (move key writer)

/-- The turn of a batch. At most its own writer leaves the pool. -/
theorem Takes.proceeds_within {id : WriterId} (takes : Takes r r' task stepped)
    (turns : r'.turns = r.turns ++ [turn]) (before : turn.before = r.session.fresh)
    (after : turn.after = r'.session)
    (within : Session.Within id r.session.fresh stepped.session) (writer : turn.writer? = some id)
    (move : ∀ key writer, turn.move ≠ .remove key writer) : Proceeds r r' turn where
  turns := turns
  before := before
  after := after
  orderly := by
    have occupant : ∀ key, r'.session.pool.writers.get? key = r.session.pool.writers.get? key ∨
        (r.session.pool.writers.get? key = some id ∧ r'.session.pool.writers.get? key = none) := by
      intro key
      rw [takes.pool]
      exact (within.occupant key).imp_right fun ⟨there, gone, _⟩ => ⟨there, gone⟩
    constructor
    · rw [before, after]
      exact takes.longer
    · intro other known
      rw [before] at known ⊢
      rw [after]
      exact takes.key known
    · intro key
      rw [before, after]
      exact (occupant key).elim (fun same => .stays same) fun gone => .goes gone.2
    · intro other own key
      obtain rfl : id = other := Option.some.inj (writer.symm.trans own)
      rw [before, after]
      exact occupant key
    · intro key writer own
      exact absurd own (move key writer)

variable [Transport τ σ κ] [Commanded τ μ χ κ]

theorem Run.proceeds_pass {move : Move μ χ} (between : r.caller move = none) :
    ∃ turn, Proceeds r (r.pass move (r.session.fresh.play move).1) turn := by
  have extension := Run.pass_extension between
  refine ⟨_, rfl, rfl, rfl, extension.longer, extension.key, fun key => ?_, fun own => ?_,
    fun {key writer} own => ?_⟩
  · cases move with
    | start | resume => cases between
    | abandon task => exact .stays (congrArg (·.get? key) (Session.abandon_registered task))
    | remove other writer =>
      rcases r.session.pool.occupant_remove key other writer with same | ⟨-, gone, -⟩
      · exact .stays same
      · exact .goes gone
    | closePool => exact .goes rfl
    | openWriter other registry token maxAttempts =>
      exact .stays (congrArg (·.writers.get? key) (Session.openWriter_pool ..).1)
    | command | chore => exact .stays rfl
  · cases move with
    | start | resume => cases between
    | _ => cases own
  · cases own
    rfl

theorem proceeds_step (sound : Sound r) (move : Move μ χ) :
    r.step move = r ∨ ∃ turn, Proceeds r (r.step move) turn := by
  have steps := steps_step sound move
  generalize made : r.step move = r' at steps ⊢
  cases steps with
  | stay => exact .inl rfl
  | @start task operation _ idle known operations call takes =>
    have turns := takes.turns_eq made
    cases operation with
    | append request | ensureStream other =>
      exact .inr ⟨_, takes.proceeds turns rfl rfl (fun _ => .stays rfl) rfl
        fun _ _ own => by cases own⟩
    | getWriter other =>
      exact .inr ⟨_, takes.proceeds turns rfl rfl (Session.fate_startLookup task other) rfl
        fun _ _ own => by cases own⟩
    | write id batch =>
      have within := Session.within_startBatch (s := r.session.fresh) (known id batch rfl) task batch
      exact .inr ⟨_, takes.proceeds_within turns rfl rfl within rfl fun _ _ own => by cases own⟩
  | @resume task signal activity _ under operations call takes =>
    have turns := takes.turns_eq made
    have batch : r.session.fresh.batchOf task = activity.writer? := by
      simp [Session.batchOf, Session.fresh, under]
    cases activity with
    | transport stage =>
      exact .inr ⟨_, takes.proceeds turns rfl rfl (fun _ => .stays rfl) batch
        fun _ _ own => by cases own⟩
    | lookup other era stage =>
      exact .inr ⟨_, takes.proceeds turns rfl rfl
        (fun key => Session.fate_resumeLookup task other key era stage signal) batch
        fun _ _ own => by cases own⟩
    | batch id events stage =>
      have within := Session.within_resumeBatch (s := r.session.fresh)
        (sound.asked task id events stage under).1 task events stage signal
      exact .inr ⟨_, takes.proceeds_within turns rfl rfl within batch fun _ _ own => by cases own⟩
  | pass between => exact .inr (Run.proceeds_pass between)

end Step

namespace Turn.Orderly
variable {turn : Turn τ σ κ μ χ} {id : WriterId}

theorem listed (orderly : turn.Orderly) (listed : turn.before.Listed) : turn.after.Listed := by
  intro key id entry
  cases orderly.fate key with
  | stays same =>
    obtain ⟨known, own⟩ := listed (same ▸ entry)
    exact ⟨Nat.lt_of_lt_of_le known orderly.longer, (orderly.key known).trans own⟩
  | goes gone => cases gone.symm.trans entry
  | comes new made =>
    cases new.symm.trans entry
    exact ⟨made.1, made.2.1⟩

/-- The pool takes in nobody but the writer that is made. -/
theorem enrolled (orderly : turn.Orderly) (enrols : turn.Enrols id) :
    id = turn.before.writers.length := by
  obtain ⟨absent, key, entry⟩ := enrols
  cases orderly.fate key with
  | stays same => exact absurd ⟨key, same ▸ entry⟩ absent
  | goes gone => cases gone.symm.trans entry
  | comes new => exact (Option.some.inj (new.symm.trans entry)).symm

theorem out (orderly : turn.Orderly) (known : id < turn.before.writers.length) {key : Key}
    (absent : turn.before.pool.writers.get? key ≠ some id) :
    turn.after.pool.writers.get? key ≠ some id := by
  intro entry
  cases orderly.fate key with
  | stays same => exact absent (same ▸ entry)
  | goes gone => cases gone.symm.trans entry
  | comes new =>
    cases new.symm.trans entry
    exact absurd known (Nat.lt_irrefl _)

end Turn.Orderly

theorem Turn.unremovable {turn : Turn τ σ κ μ χ} {key : Key} {writer : Option WriterId}
    (kept : turn.before.pool.removes key writer = false)
    (nobody : ∀ id, turn.after.pool.writers.get? key = some id →
      turn.before.pool.writers.get? key = some id) :
    turn.after.pool.removes key writer = false := by
  cases entry : turn.after.pool.writers.get? key with
  | none => simp [Pool.removes, entry]
  | some id =>
    have before := nobody id entry
    simp only [Pool.removes, before] at kept
    simpa only [Pool.removes, entry] using kept

/-- The turns lead from the one session to the other. -/
inductive Course : Session τ σ κ → List (Turn τ σ κ μ χ) → Session τ σ κ → Prop
  | nil (s) : Course s [] s
  | cons {s turn turns s'} : turn.before = s.fresh → turn.Orderly → Course turn.after turns s' →
      Course s (turn :: turns) s'

theorem course_play [Transport τ σ κ] [Commanded τ μ χ κ] {r : Run τ σ κ μ χ} (sound : Sound r)
    (moves : List (Move μ χ)) :
    ∃ later, (r.play moves).turns = r.turns ++ later ∧
      Course r.session later (r.play moves).session := by
  induction moves generalizing r with
  | nil => exact ⟨[], (List.append_nil _).symm, .nil _⟩
  | cons move moves ih =>
    obtain ⟨later, turns, course⟩ := ih (sound_step sound move)
    rcases proceeds_step sound move with stays | ⟨turn, proceeds⟩
    · rw [stays] at turns course
      have played : r.play (move :: moves) = r.play moves := congrArg (Run.play · moves) stays
      exact ⟨later, played ▸ turns, played ▸ course⟩
    · refine ⟨turn :: later, ?_, .cons proceeds.before proceeds.orderly (proceeds.after ▸ course)⟩
      rw [List.append_cons, ← proceeds.turns]
      exact turns

namespace Course
variable {s s' : Session τ σ κ} {turns : List (Turn τ σ κ μ χ)} {id : WriterId}

theorem split {front later : List (Turn τ σ κ μ χ)} {turn : Turn τ σ κ μ χ}
    (course : Course s (front ++ turn :: later) s') :
    ∃ mid, Course s front mid ∧ turn.before = mid.fresh ∧ turn.Orderly ∧
      Course turn.after later s' := by
  induction front generalizing s with
  | nil =>
    cases course with
    | cons before orderly course => exact ⟨s, .nil s, before, orderly, course⟩
  | cons first front ih =>
    cases course with
    | cons before orderly course =>
      obtain ⟨mid, front, rest⟩ := ih course
      exact ⟨mid, .cons before orderly front, rest⟩

theorem longer (course : Course s turns s') : s.writers.length ≤ s'.writers.length := by
  induction course with
  | nil => exact Nat.le_refl _
  | cons before orderly _ ih =>
    have longer := orderly.longer
    rw [before] at longer
    exact Nat.le_trans longer ih

theorem listed (course : Course s turns s') (listed : s.Listed) : s'.Listed := by
  induction course with
  | nil => exact listed
  | cons before orderly _ ih => exact ih (orderly.listed (before ▸ listed))

/-- A writer that was made before and is not registered for a stream stays so for good. -/
theorem out (course : Course s turns s') (known : id < s.writers.length) {key : Key}
    (absent : s.pool.writers.get? key ≠ some id) : s'.pool.writers.get? key ≠ some id := by
  induction course with
  | nil => exact absent
  | @cons s turn _ _ before orderly _ ih =>
    have known' : id < turn.before.writers.length := before ▸ known
    exact ih (Nat.lt_of_lt_of_le known' orderly.longer) (orderly.out known' (before ▸ absent))

theorem unlisted (course : Course s turns s') (known : id < s.writers.length)
    (absent : ¬ s.Lists id) {turn : Turn τ σ κ μ χ} (member : turn ∈ turns) :
    ¬ turn.after.Lists id := by
  rintro ⟨key, entry⟩
  obtain ⟨front, later, rfl⟩ := List.append_of_mem member
  obtain ⟨mid, front, before, orderly, -⟩ := course.split
  have known' : id < turn.before.writers.length := before ▸ Nat.lt_of_lt_of_le known front.longer
  have absent' := front.out known fun there => absent ⟨key, there⟩
  exact orderly.out known' (before ▸ absent') entry

theorem enrols_nobody (course : Course s turns s') (known : id < s.writers.length)
    {turn : Turn τ σ κ μ χ} (member : turn ∈ turns) : ¬ turn.Enrols id := by
  intro enrols
  obtain ⟨front, later, rfl⟩ := List.append_of_mem member
  obtain ⟨mid, front, before, orderly, -⟩ := course.split
  have new := orderly.enrolled enrols
  rw [before] at new
  have older : id < mid.writers.length := Nat.lt_of_lt_of_le known front.longer
  exact absurd new (Nat.ne_of_lt older)

theorem unremovable (course : Course s turns s') {key : Key} {writer : Option WriterId}
    (kept : s.pool.removes key writer = false)
    (nobody : ∀ turn ∈ turns, ∀ id, turn.after.pool.writers.get? key = some id →
      turn.before.pool.writers.get? key = some id) :
    s'.pool.removes key writer = false := by
  induction course with
  | nil => exact kept
  | @cons s turn _ _ before orderly _ ih =>
    exact ih (Turn.unremovable (before ▸ kept) (nobody turn (List.mem_cons_self ..)))
      fun other member => nobody other (List.mem_cons_of_mem _ member)

end Course

theorem Pool.get?_remove_any (p : Pool) (key other : Key) :
    (p.remove key none).writers.get? other =
      if other = key then none else p.writers.get? other := by
  unfold remove removes
  cases entry : p.writers.get? key with
  | none =>
    by_cases same : other = key
    · simp [same, entry]
    · simp [same]
  | some id =>
    by_cases same : other = key
    · simp [same]
    · simp [same, Table.get?_erase_other]

theorem Pool.remove_of_not_removes {p : Pool} {key : Key} {writer : Option WriterId}
    (kept : p.removes key writer = false) : p.remove key writer = p := by
  rw [remove, if_neg (by simp [kept])]

/-- A removal with a writer that is not the registered one does not touch the pool. -/
theorem Pool.remove_of_other {p : Pool} {key : Key} {id : WriterId}
    (other : p.writers.get? key ≠ some id) : p.remove key (some id) = p := by
  apply remove_of_not_removes
  cases entry : p.writers.get? key with
  | none => simp [removes, entry]
  | some current =>
    have different : current ≠ id := fun same => other (entry.trans (congrArg some same))
    simp [removes, entry, different]

namespace Turn.Orderly
variable {turn : Turn τ σ κ μ χ} {key : Key}

theorem remove_writer {id : WriterId} (orderly : turn.Orderly)
    (move : turn.move = .remove key (some id)) :
    (turn.before.pool.writers.get? key ≠ some id → turn.after.pool = turn.before.pool) ∧
      ∀ other, turn.after.pool.writers.get? other =
        if other = key ∧ turn.before.pool.writers.get? key = some id then none
        else turn.before.pool.writers.get? other := by
  have pool := orderly.remove move
  exact ⟨fun other => pool.trans (Pool.remove_of_other other),
    fun other => pool ▸ Pool.get?_remove ..⟩

theorem remove_any (orderly : turn.Orderly) (move : turn.move = .remove key none) (other : Key) :
    turn.after.pool.writers.get? other =
      if other = key then none else turn.before.pool.writers.get? other :=
  orderly.remove move ▸ Pool.get?_remove_any ..

theorem retires {id : WriterId} {reason : Fault} (orderly : turn.Orderly)
    (retires : turn.Retires id reason) (key : Key) :
    turn.after.pool.writers.get? key = turn.before.pool.writers.get? key ∨
      (turn.before.pool.writers.get? key = some id ∧
        turn.after.pool.writers.get? key = none) := by
  refine orderly.batch ?_ key
  refine Decidable.byContradiction fun other => ?_
  exact absurd retires.failure (by simp [turn.bearable_of_other other])

end Turn.Orderly

/-- A removal that was made already changes nothing when it is made again, if it is that of a writer or
if nobody came in for the stream. -/
theorem Course.removed_again {s : Session τ σ κ} {first second : Turn τ σ κ μ χ}
    {middle : List (Turn τ σ κ μ χ)} {key : Key} {writer : Option WriterId}
    (orderly : first.Orderly) (course : Course first.after middle s)
    (before : second.before = s.fresh) (orderly' : second.Orderly)
    (move : first.move = .remove key writer) (move' : second.move = .remove key writer)
    (nobody : (∃ id, writer = some id ∧ id < first.before.writers.length) ∨
      ∀ turn ∈ middle, ∀ id, turn.after.pool.writers.get? key = some id →
        turn.before.pool.writers.get? key = some id) :
    second.after.pool = second.before.pool := by
  have kept : first.after.pool.removes key writer = false :=
    orderly.remove move ▸ Pool.removes_remove ..
  rw [orderly'.remove move', before]
  rcases nobody with ⟨id, rfl, known⟩ | nobody
  · apply Pool.remove_of_other
    refine course.out (Nat.lt_of_lt_of_le known orderly.longer) fun entry => ?_
    simp [Pool.removes, entry] at kept
  · exact Pool.remove_of_not_removes (course.unremovable kept nobody)

/-- Every writer is registered for one stretch of the run at most, and for its own stream. A removal
that names a writer takes the entry of the stream if it is that writer's, and else changes nothing; made
again it changes nothing. A writer that retires takes no entry but its own with it. -/
theorem listed_once [Transport τ σ κ] [Commanded τ μ χ κ] (transport : τ) (createStreams : Bool)
    (maxAttempts : Int) (moves : List (Move μ χ)) :
    let r : Run τ σ κ μ χ := (Run.new transport createStreams maxAttempts).play moves
    r.session.Listed ∧ ∀ front turn later, r.turns = front ++ turn :: later →
      (∀ id, turn.Enrols id → ∀ other ∈ later, ¬ other.Enrols id) ∧
      (∀ id, turn.Dismisses id → ∀ other ∈ later, ¬ other.after.Lists id) ∧
      (∀ key id, turn.move = .remove key (some id) →
        (turn.before.pool.writers.get? key ≠ some id → turn.after.pool = turn.before.pool) ∧
        ∀ other, turn.after.pool.writers.get? other =
          if other = key ∧ turn.before.pool.writers.get? key = some id then none
          else turn.before.pool.writers.get? other) ∧
      (∀ key, turn.move = .remove key none → ∀ other, turn.after.pool.writers.get? other =
        if other = key then none else turn.before.pool.writers.get? other) ∧
      (∀ key writer middle again rest, later = middle ++ again :: rest →
        turn.move = .remove key writer → again.move = .remove key writer →
        ((∃ id, writer = some id ∧ id < turn.before.writers.length) ∨
          ∀ between ∈ middle, ∀ id, between.after.pool.writers.get? key = some id →
            between.before.pool.writers.get? key = some id) →
        again.after.pool = again.before.pool) ∧
      ∀ id reason, turn.Retires id reason → ∀ key,
        turn.after.pool.writers.get? key = turn.before.pool.writers.get? key ∨
          (turn.before.pool.writers.get? key = some id ∧
            turn.after.pool.writers.get? key = none) := by
  intro r
  have empty : (Run.new transport createStreams maxAttempts : Run τ σ κ μ χ).session.Listed := by
    intro key id entry
    simp [Run.new, Session.new, Pool.new] at entry
  obtain ⟨turns, played, course⟩ :=
    course_play (sound_new (μ := μ) (χ := χ) transport createStreams maxAttempts) moves
  refine ⟨course.listed empty, fun front turn later split => ?_⟩
  have turns_eq : turns = front ++ turn :: later := by
    simpa [Run.new] using played.symm.trans split
  subst turns_eq
  obtain ⟨mid, start, before, orderly, rest⟩ := course.split
  have listed : turn.before.Listed := before ▸ start.listed empty
  refine ⟨fun id enrols other member => ?_, fun id dismisses other member => ?_, fun key id move =>
    orderly.remove_writer move, fun key move other => orderly.remove_any move other, ?_,
    fun id reason retires key => orderly.retires retires key⟩
  · obtain ⟨key, entry⟩ := enrols.2
    exact rest.enrols_nobody (orderly.listed listed entry).1 member
  · obtain ⟨⟨key, entry⟩, gone⟩ := dismisses
    exact rest.unlisted (Nat.lt_of_lt_of_le (listed entry).1 orderly.longer) gone member
  · rintro key writer middle again later rfl move move' nobody
    obtain ⟨mid', course', before', orderly', -⟩ := rest.split
    exact course'.removed_again orderly before' orderly' move move' nobody

/-- A writer is replaced, and somebody who still has it writes to it and removes it. -/
def replaced : List (Move Memory.Command Empty) :=
  [.start 0 (.getWriter default), .openWriter default .pool .null 3, .remove default (some 0),
    .start 0 (.getWriter default), .start 0 (.write 0 .single), .remove default (some 0)]

def replacedRun : MemoryRun :=
  (Run.new (Memory.new true true (.zero false)) false 3).play replaced

/-- The writer that replaced it stays, and the one that was removed is out for good. -/
theorem listed_once_replaced :
    ∃ removed came retired again,
      replacedRun.turns = replacedRun.turns.take 2 ++ removed :: ([came, retired] ++ [again]) ∧
      removed.Dismisses 0 ∧ came.Enrols 2 ∧ retired.Retires 0 Memory.notConnected ∧
      ¬ again.after.Lists 0 ∧ again.after.pool = again.before.pool ∧
      again.after.pool.writers.get? default = some 2 := by
  obtain ⟨-, turns⟩ := listed_once (Memory.new true true (.zero false)) false 3 replaced
  have split : replacedRun.turns = replacedRun.turns.take 2 ++ _ :: ([_, _] ++ [_]) := rfl
  obtain ⟨-, left, -, -, twice, -⟩ := turns _ _ _ split
  have dismisses : (replacedRun.turns[2]).Dismisses 0 :=
    ⟨⟨default, rfl⟩, fun ⟨_, entry⟩ => by cases entry⟩
  have enrols : (replacedRun.turns[3]).Enrols 2 :=
    ⟨fun ⟨_, entry⟩ => by (cases entry), default, rfl⟩
  refine ⟨_, _, _, _, split, dismisses, enrols, ?_, left 0 dismisses _ (by simp), ?_, rfl⟩
  · exact ⟨Nat.zero_lt_succ _, rfl, rfl, ⟨[_], rfl, rfl⟩, rfl⟩
  · exact twice default (some 0) _ _ _ rfl rfl rfl (.inl ⟨0, rfl, Nat.zero_lt_succ _⟩)

end SequenceLog

import SequenceLog.Proofs.Pooling
import SequenceLog.Proofs.Retirement
/-! Who is registered for a stream, turn by turn. A search opens a writer under the lock of its stream,
which closing the pool forgets. As long as no search that began before the pool was closed opens a
writer after that, a registered writer is never replaced by another one. Main statement:
`keeps_registered`. -/
namespace SequenceLog
open Scenario
variable {τ σ κ μ χ : Type}

def Activity.search? : Activity σ → Option Key
  | .lookup key _ _ => some key
  | _ => none

namespace Turn
variable (turn : Turn τ σ κ μ χ) (key : Key)

def search? : Option Key :=
  match turn.move with
  | .start _ (.getWriter key) => some key
  | .resume task _ => (turn.before.active task).bind Activity.search?
  | _ => none

/-- A search for the stream ends with this writer. -/
def Gives (id : WriterId) : Prop :=
  turn.search? = some key ∧ turn.result = some (.ok (.writer id))

/-- Whoever was registered for the stream still is, and nobody else. -/
def Holds : Prop := turn.after.pool.writers.get? key = turn.before.pool.writers.get? key

/-- A search opens a writer for a stream that had none. -/
structure Fills : Prop where
  vacant : turn.before.pool.writers.get? key = none
  registered : turn.after.pool.writers.get? key = some turn.before.writers.length
  made : turn.after.Made key turn.before.writers.length
  given : turn.Gives key turn.before.writers.length

/-- The stream loses its writer: the pool is closed, somebody removes the writer, or it retires. -/
def Vacates : Prop :=
  ∃ id, turn.before.pool.writers.get? key = some id ∧ turn.after.pool.writers.get? key = none ∧
    (turn.move = .closePool ∨ turn.move = .remove key none ∨ turn.move = .remove key (some id) ∨
      ∃ reason, turn.Retires id reason)

/-- A search that began before the pool was closed opens a writer now that it is. -/
def Overtaken : Prop :=
  turn.result = some (.ok (.writer turn.before.writers.length)) ∧
    ∃ task signal era stage, turn.move = .resume task signal ∧
      turn.before.active task = some (.lookup key era stage) ∧ era < turn.before.pool.era

end Turn

section Parts
variable {s : Session τ σ κ}

theorem Pool.occupant_remove (p : Pool) (key other : Key) (writer : Option WriterId) :
    (p.remove other writer).writers.get? key = p.writers.get? key ∨
      (other = key ∧ (p.remove other writer).writers.get? key = none ∧
        ∃ id, p.writers.get? key = some id ∧ (writer = none ∨ writer = some id)) := by
  unfold remove
  split
  · rename_i removes
    by_cases same : other = key
    · subst same
      refine .inr ⟨rfl, Table.get?_erase_self .., ?_⟩
      unfold Pool.removes at removes
      split at removes
      · cases removes
      · rename_i current there
        exact ⟨current, there, .inl rfl⟩
      · rename_i current writer there
        exact ⟨current, there, .inr (congrArg some (beq_iff_eq.1 removes).symm)⟩
    · exact .inl (Table.get?_erase_other _ (Ne.symm same))
  · exact .inl rfl

namespace Session

theorem abandon_registered (task : TaskId) : (s.abandon task).pool.writers = s.pool.writers := by
  unfold abandon
  split <;> rfl

theorem openWriter_pool (key : Key) (registry : Registry) (token : Token) (maxAttempts : Int) :
    (s.openWriter key registry token maxAttempts).session.pool = s.pool ∧
      (s.openWriter key registry token maxAttempts).session.active = s.active := by
  unfold openWriter
  split <;> exact ⟨rfl, rfl⟩

section Retired
variable [Transport τ σ κ] {id : WriterId} (retired : (s.writer id).status = .invalidated)
include retired

theorem sendBatch_pool {events : List LogEvent} {lock : Mutex} :
    ((s.setWriter id { s.writer id with lock := lock }).sendBatch id events).session.pool =
      s.pool := by
  have writer := writer_setWriter_self s id { s.writer id with lock := lock }
    (known_of_invalidated retired)
  rw [sendBatch_invalidated (by rw [writer, retired])]
  exact wake_pool ..

theorem startBatch_pool (task : TaskId) (batch : Batch) :
    (s.startBatch task id batch).session.pool = s.pool := by
  unfold startBatch
  split
  · rfl
  · split
    · rfl
    · dsimp only
      split
      · exact sendBatch_pool retired
      · rfl

theorem resumeBatch_pool (task : TaskId) (events : List LogEvent) {stage : BatchStage σ}
    (signal : Signal) (busy : ∀ left sent, stage = .sending left sent →
      (s.writer id).status = .active) :
    (s.resumeBatch task id events stage signal).session.pool = s.pool := by
  cases stage with
  | queued =>
    cases signal with
    | ready =>
      simp only [resumeBatch]
      split
      · exact sendBatch_pool retired
      · rfl
    | expired | interrupted => exact wake_pool ..
  | sending left sent => cases retired.symm.trans (busy left sent rfl)

end Retired
end Session
end Parts

/-- The run goes on with a turn, and the lock of the stream stays in use as it should be. -/
structure Tends (r r' : Run τ σ κ μ χ) (key : Key) (turn : Turn τ σ κ μ χ) : Prop where
  turns : r'.turns = r.turns ++ [turn]
  before : turn.before = r.session.fresh
  after : turn.after = r'.session
  reserved : r'.session.Reserved key
  outcome : turn.Holds key ∨ turn.Fills key ∨ turn.Vacates key
  given : ∀ id, turn.Gives key id → r'.session.pool.writers.get? key = some id

section Turns
variable {r r' : Run τ σ κ μ χ} {task : TaskId} {stepped : Stepped τ σ κ} {key : Key}
  {turn : Turn τ σ κ μ χ}

theorem Tends.of_holds (turns : r'.turns = r.turns ++ [turn])
    (before : turn.before = r.session.fresh) (after : turn.after = r'.session)
    (reserved : r'.session.Reserved key)
    (same : r'.session.pool.writers.get? key = r.session.pool.writers.get? key)
    (elsewhere : turn.search? ≠ some key) : Tends r r' key turn where
  turns := turns
  before := before
  after := after
  reserved := reserved
  outcome := .inl (by rw [Turn.Holds, after, before]; exact same)
  given _ gives := absurd gives.1 elsewhere

theorem Takes.tends_search (takes : Takes r r' task stepped) (turns : r'.turns = r.turns ++ [turn])
    (before : turn.before = r.session.fresh) (after : turn.after = r'.session)
    (result : turn.result = stepped.result?) (search : turn.search? = some key)
    (reserved : r'.session.Reserved key) (registers : Registers key r.session.fresh stepped) :
    Tends r r' key turn := by
  cases registers with
  | keeps same given =>
    rw [← takes.pool] at same
    refine ⟨turns, before, after, reserved, .inl ?_, fun id gives => ?_⟩
    · rw [Turn.Holds, after, before, same]
    · rw [same]
      exact given id (result ▸ gives.2)
  | fills vacant registered made given =>
    rw [← takes.pool] at registered
    have length : turn.before.writers.length = r.session.writers.length := by rw [before]; rfl
    refine ⟨turns, before, after, reserved, .inr (.inl ⟨?_, ?_, ?_, search, ?_⟩), fun id gives => ?_⟩
    · rw [before, vacant]
    · rw [after, length]
      exact registered
    · rw [after, length]
      exact (takes.made_iff key _).2 made
    · rw [result, length]
      exact given
    · cases given.symm.trans (result.symm.trans gives.2)
      exact registered

/-- A turn of a batch. Its writer may retire, and leave the pool by that. -/
theorem Takes.tends_batch {busy : WriterId} (takes : Takes r r' task stepped)
    (turns : r'.turns = r.turns ++ [turn]) (before : turn.before = r.session.fresh)
    (after : turn.after = r'.session) (elsewhere : turn.search? ≠ some key)
    (reserved : r'.session.Reserved key)
    (within : Session.Within busy r.session.fresh stepped.session)
    (still : (r.session.writer busy).status = .invalidated →
      stepped.session.pool = r.session.pool)
    (advances : ∃ turn, Advances r r' busy turn) : Tends r r' key turn := by
  have occupant := within.occupant key
  rw [← takes.pool] at occupant still
  rcases occupant with same | ⟨there, gone, invalidated⟩
  · exact .of_holds turns before after reserved same elsewhere
  · refine ⟨turns, before, after, reserved, .inr (.inr ?_), fun _ gives => absurd gives.1 elsewhere⟩
    obtain ⟨own, advances⟩ := advances
    obtain rfl : turn = own := by
      simpa using turns.symm.trans advances.turns
    rcases advances.outcome with keeps | retires
    · -- a writer that had retired before is not taken out now
      have retired : (r.session.writer busy).status = .invalidated := by
        have status := keeps.status
        rw [before, after, takes.writer, invalidated] at status
        exact status.symm
      rw [still retired] at gone
      cases there.symm.trans gone
    · exact ⟨busy, by rw [before, there], by rw [after, gone], .inr (.inr (.inr retires))⟩

end Turns

section Searches
variable {r r' : Run τ σ κ μ χ} {task : TaskId} {key : Key}

theorem Takes.tends_other {era : Nat} {other : Key} {stepped : Stepped τ σ κ}
    {turn : Turn τ σ κ μ χ} (takes : Takes r r' task stepped) (turns : r'.turns = r.turns ++ [turn])
    (before : turn.before = r.session.fresh) (after : turn.after = r'.session)
    (reserved : r.session.Reserved key) (confined : Confined other era r.session.fresh stepped)
    (different : key ≠ other) (search : turn.search? = some other)
    (away : ∀ era stage, r.session.active task ≠ some (.lookup key era stage)) :
    Tends r r' key turn := by
  refine .of_holds turns before after (takes.reserved_other reserved confined different away) ?_ ?_
  · rw [takes.pool]
    exact confined.writers key different
  · rw [search]
    exact fun same => different (Option.some.inj same).symm

variable [Transport τ σ κ]

theorem Takes.tends_startLookup (takes : Takes r r' task (r.session.fresh.startLookup task key))
    (turns : r'.turns = r.turns ++ [⟨.start task (.getWriter key), some (r'.call task),
      r.session.fresh, r'.session, (r.session.fresh.startLookup task key).result?⟩])
    (reserved : r.session.Reserved key) (idle : r.session.active task = none) :
    ∃ turn, Tends r r' key turn :=
  ⟨_, takes.tends_search turns rfl rfl rfl rfl (takes.reserved_startLookup reserved idle)
    (Session.registers_startLookup task)⟩

theorem Takes.tends_resumeLookup {era : Nat} {stage : LookupStage σ} {signal : Signal}
    (takes : Takes r r' task (r.session.fresh.resumeLookup task key era stage signal))
    (turns : r'.turns = r.turns ++ [⟨.resume task signal, some (r'.call task), r.session.fresh,
      r'.session, (r.session.fresh.resumeLookup task key era stage signal).result?⟩])
    (reserved : r.session.Reserved key)
    (under : r.session.active task = some (.lookup key era stage))
    (prompt : ∀ turn ∈ r'.turns, ¬ turn.Overtaken key) : ∃ turn, Tends r r' key turn := by
  have search : (r.session.active task).bind Activity.search? = some key := by
    rw [under]
    rfl
  by_cases current : era = r.session.pool.era
  · subst current
    refine ⟨_, takes.tends_search turns rfl rfl rfl search (takes.reserved_resumeLookup reserved under)
      (Session.registers_resumeLookup task fun preparing same _ => ?_)⟩
    subst same
    exact reserved.vacant task ⟨preparing, under⟩
  · have early : era < r.session.pool.era := by
      have := reserved.era_le under
      omega
    have opens : (r.session.fresh.resumeLookup task key era stage signal).result? ≠
        some (.ok (.writer r.session.writers.length)) := fun given =>
      prompt _ (turns ▸ List.mem_append_right _ (List.mem_singleton_self _))
        ⟨given, task, signal, era, stage, rfl, under, early⟩
    have registers : Registers key r.session.fresh
        (r.session.fresh.resumeLookup task key era stage signal) :=
      Session.registers_resumeLookup task fun _ _ given => absurd given opens
    refine ⟨_, takes.tends_search turns rfl rfl rfl search ?_ registers⟩
    refine takes.reserved_overtaken reserved (Session.confined_resumeLookup task stage signal) under
      early fun vacant => ?_
    cases registers with
    | keeps same => exact same.trans vacant
    | fills _ _ _ given => exact absurd given opens

end Searches

section Play
variable {r : Run τ σ κ μ χ} {key : Key}

variable [Transport τ σ κ] [Commanded τ μ χ κ]

/-- Between the turns the registration only changes when writers are removed or the pool is closed. -/
theorem Run.tends_pass {move : Move μ χ} (between : r.caller move = none)
    (reserved : r.session.Reserved key) :
    ∃ turn, Tends r (r.pass move (r.session.fresh.play move).1) key turn := by
  have elsewhere : (⟨move, none, r.session.fresh, (r.session.fresh.play move).1, none⟩ :
      Turn τ σ κ μ χ).search? ≠ some key := by
    cases move with
    | start | resume => cases between
    | _ => simp [Turn.search?]
  cases move with
  | start task operation | resume task signal => cases between
  | abandon task =>
    have fresh : r.session.fresh.Reserved key := reserved.of_same rfl rfl
    refine ⟨_, .of_holds rfl rfl rfl (fresh.abandon task) ?_ elsewhere⟩
    exact congrArg (·.get? key) (Session.abandon_registered task)
  | openWriter other registry token maxAttempts =>
    obtain ⟨pool, active⟩ := r.session.fresh.openWriter_pool other registry token maxAttempts
    exact ⟨_, .of_holds rfl rfl rfl (reserved.of_same active pool)
      (congrArg (·.writers.get? key) pool) elsewhere⟩
  | command | chore =>
    exact ⟨_, .of_holds rfl rfl rfl (reserved.of_same rfl rfl) rfl elsewhere⟩
  | remove other writer =>
    have occupant := r.session.pool.occupant_remove key other writer
    have reserved' : (r.session.fresh.remove other writer).Reserved key := by
      refine reserved.congr (Pool.remove_era ..)
        (fun era _ => congrFun (congrFun (Pool.remove_locks ..) era) key) (fun _ _ _ _ => Iff.rfl)
        fun vacant => ?_
      rcases occupant with same | ⟨-, gone, -⟩
      · exact same.trans vacant
      · exact gone
    rcases occupant with same | ⟨rfl, gone, id, there, asked⟩
    · exact ⟨_, .of_holds rfl rfl rfl reserved' same elsewhere⟩
    · refine ⟨_, rfl, rfl, rfl, reserved', .inr (.inr ⟨id, there, gone, ?_⟩),
        fun _ gives => absurd gives.1 elsewhere⟩
      rcases asked with rfl | rfl
      · exact .inr (.inl rfl)
      · exact .inr (.inr (.inl rfl))
  | closePool =>
    have fresh : r.session.fresh.Reserved key := reserved.of_same rfl rfl
    refine ⟨_, rfl, rfl, rfl, fresh.close, ?_, fun _ gives => absurd gives.1 elsewhere⟩
    cases there : r.session.pool.writers.get? key with
    | none => exact .inl there.symm
    | some id => exact .inr (.inr ⟨id, there, rfl, .inl rfl⟩)

theorem tends_step (sound : Sound r) (reserved : r.session.Reserved key) (move : Move μ χ)
    (prompt : ∀ turn ∈ (r.step move).turns, ¬ turn.Overtaken key) :
    r.step move = r ∨ ∃ turn, Tends r (r.step move) key turn := by
  have steps := steps_step sound move
  generalize made : r.step move = r' at steps prompt ⊢
  cases steps with
  | stay => exact .inl rfl
  | @start task operation _ idle known operations call takes =>
    have turns := takes.turns_eq made
    have before : ∀ era stage, r.session.active task ≠ some (.lookup key era stage) := by
      simp [idle]
    cases operation with
    | append request | ensureStream other =>
      obtain ⟨silent, -⟩ := Session.relay_progress r.session.fresh _
      have reserved' := takes.reserved_within reserved (Session.within_relay 0) before (silent key)
      exact .inr ⟨_, .of_holds turns rfl rfl reserved' (by rw [takes.pool]; rfl)
        (by simp [Turn.search?])⟩
    | getWriter other =>
      by_cases same : key = other
      · subst same
        exact .inr (takes.tends_startLookup turns reserved idle)
      · exact .inr ⟨_, takes.tends_other turns rfl rfl reserved (Session.confined_startLookup task)
          same rfl before⟩
    | write id batch =>
      obtain ⟨events, batching⟩ := r.session.fresh.batching_start task id batch
      have within := Session.within_startBatch (s := r.session.fresh) (known id batch rfl) task batch
      have reserved' := takes.reserved_within reserved within before (batching.silent key)
      exact .inr ⟨_, takes.tends_batch turns rfl rfl (by simp [Turn.search?]) reserved' within
        (fun retired => Session.startBatch_pool (s := r.session.fresh) retired task batch)
        (takes.advances_startBatch (known id batch rfl) turns)⟩
  | @resume task signal activity _ under operations call takes =>
    have turns := takes.turns_eq made
    have search : (r.session.fresh.active task).bind Activity.search? = activity.search? := by
      rw [Session.fresh, under]
      rfl
    cases activity with
    | transport stage =>
      obtain ⟨silent, -⟩ := Session.relay_progress r.session.fresh _
      have reserved' := takes.reserved_within reserved (Session.within_relay 0) (by simp [under])
        (silent key)
      exact .inr ⟨_, .of_holds turns rfl rfl reserved' (by rw [takes.pool]; rfl)
        (by simp [Turn.search?, search, Activity.search?])⟩
    | lookup other era stage =>
      by_cases same : key = other
      · subst same
        exact .inr (takes.tends_resumeLookup turns reserved under prompt)
      · exact .inr ⟨_, takes.tends_other turns rfl rfl reserved
          (Session.confined_resumeLookup task stage signal) same search
          (by simp [under, Ne.symm same])⟩
    | batch id events stage =>
      have known := (sound.asked task id events stage under).1
      have batching :=
        Session.batching_resumeBatch (s := r.session.fresh) task id events stage signal
      have within := Session.within_resumeBatch (s := r.session.fresh) known task events stage signal
      have reserved' := takes.reserved_within reserved within (by simp [under]) (batching.silent key)
      exact .inr ⟨_, takes.tends_batch turns rfl rfl (by simp [Turn.search?, search, Activity.search?])
        reserved' within (fun retired => Session.resumeBatch_pool (s := r.session.fresh) retired task
          events signal fun left sent sending => sound.active_of_sending (sending ▸ under))
        (takes.advances_resumeBatch sound under turns)⟩
  | pass between => exact .inr (Run.tends_pass between reserved)

end Play

/-- What is true of a run in which no search opens a writer after the pool was closed over it: whoever
was given stays registered until the stream loses its writer. -/
structure Tended (r : Run τ σ κ μ χ) (key : Key) : Prop where
  reserved : r.session.Reserved key
  turns : ∀ turn ∈ r.turns, turn.Holds key ∨ turn.Fills key ∨ turn.Vacates key
  lasts : ∀ {front first later id}, r.turns = front ++ first :: later → first.Gives key id →
    (∀ turn ∈ later, ¬ turn.Vacates key) → r.session.pool.writers.get? key = some id
  agrees : ∀ {front first middle last rest id other},
    r.turns = front ++ first :: (middle ++ last :: rest) → first.Gives key id →
    last.Gives key other → (∀ turn ∈ middle, ¬ turn.Vacates key) → id = other

theorem tended_new (transport : τ) (createStreams : Bool) (maxAttempts : Int) (key : Key) :
    Tended (.new transport createStreams maxAttempts : Run τ σ κ μ χ) key where
  reserved := .new ..
  turns turn member := by cases member
  lasts split := by simp [Run.new] at split
  agrees split := by simp [Run.new] at split

section Tended
variable {r r' : Run τ σ κ μ χ} {key : Key} {turn : Turn τ σ κ μ χ}

/-- Who is registered stays so, unless the stream loses its writer. -/
theorem Tends.keeps {id : WriterId} (tends : Tends r r' key turn)
    (there : r.session.pool.writers.get? key = some id) (stays : ¬ turn.Vacates key) :
    r'.session.pool.writers.get? key = some id := by
  rcases tends.outcome with holds | fills | vacates
  · rw [Turn.Holds, tends.after, tends.before] at holds
    exact holds.trans there
  · have vacant := fills.vacant
    rw [tends.before] at vacant
    cases there.symm.trans vacant
  · exact absurd vacates stays

/-- Whoever is given is registered, so the stream does not lose its writer in that turn. -/
theorem Tends.stays {id : WriterId} (tends : Tends r r' key turn) (gives : turn.Gives key id) :
    ¬ turn.Vacates key := by
  rintro ⟨-, -, gone, -⟩
  rw [tends.after, tends.given id gives] at gone
  cases gone

theorem Tends.tended (tends : Tends r r' key turn) (tended : Tended r key) : Tended r' key where
  reserved := tends.reserved
  turns other member := by
    rw [tends.turns, List.mem_append, List.mem_singleton] at member
    rcases member with old | rfl
    · exact tended.turns other old
    · exact tends.outcome
  lasts {front first later id} split gives kept := by
    rw [tends.turns] at split
    rcases Chronicle.concat_eq_split.1 split with ⟨-, -, rfl⟩ | ⟨early, rfl, old⟩
    · exact tends.given id gives
    · have there := tended.lasts old gives fun other member =>
        kept other (List.mem_append_left _ member)
      exact tends.keeps there (kept turn (List.mem_append_right _ (List.mem_singleton_self _)))
  agrees {front first middle last rest id other} split gives gives' kept := by
    rw [tends.turns, ← List.cons_append, ← List.append_assoc] at split
    rcases Chronicle.concat_eq_split.1 split with ⟨-, same, rfl⟩ | ⟨early, rfl, old⟩
    · have there := tends.keeps (tended.lasts same gives kept) (tends.stays gives')
      exact Option.some.inj (there.symm.trans (tends.given other gives'))
    · rw [List.append_assoc, List.cons_append] at old
      exact tended.agrees old gives gives' kept

end Tended

section Play
variable [Transport τ σ κ] [Commanded τ μ χ κ] {r : Run τ σ κ μ χ} {key : Key}

theorem tended_play (sound : Sound r) (tended : Tended r key) (moves : List (Move μ χ))
    (prompt : ∀ turn ∈ (r.play moves).turns, ¬ turn.Overtaken key) : Tended (r.play moves) key := by
  induction moves generalizing r with
  | nil => exact tended
  | cons move moves ih =>
    refine ih (sound_step sound move) ?_ prompt
    rcases tends_step sound tended.reserved move fun turn member =>
        prompt turn (Run.mem_turns_play member moves) with stays | ⟨turn, tends⟩
    · rwa [stays]
    · exact tends.tended tended

/-- In every run in which no search that began before the pool was closed opens a writer after that: a
search opens a writer only where none is registered, a registered writer leaves the pool only when that
is closed, when it is removed or when it retires, and two searches for a stream that loses no writer
between their ends are given the same one. -/
theorem keeps_registered (transport : τ) (createStreams : Bool) (maxAttempts : Int)
    (moves : List (Move μ χ)) (key : Key) :
    let r : Run τ σ κ μ χ := (Run.new transport createStreams maxAttempts).play moves
    (∀ turn ∈ r.turns, ¬ turn.Overtaken key) →
    (∀ turn ∈ r.turns, turn.Holds key ∨ turn.Fills key ∨ turn.Vacates key) ∧
    ∀ front first middle last rest id other,
      r.turns = front ++ first :: (middle ++ last :: rest) → first.Gives key id →
      last.Gives key other → (∀ turn ∈ middle, ¬ turn.Vacates key) → id = other := by
  intro r prompt
  have tended : Tended r key := tended_play (sound_new ..) (tended_new ..) moves prompt
  exact ⟨tended.turns, fun _ _ _ _ _ _ _ => tended.agrees⟩

end Play

def scripted : CloudWatch CloudWatch.Script := .new "" none (.zero false) .silent

def slowCreation : CloudWatch.Command :=
  .script .createLogGroup [⟨.finite false 1 0, .ok .empty⟩]

/-- Two searches overlap, and another one begins after the pool was closed. -/
def overlapping : List (Move CloudWatch.Command CloudWatch.Chore) :=
  [.command .connect, .command slowCreation, .start 0 (.getWriter default),
    .start 1 (.getWriter default), .resume 0 .ready, .resume 1 .ready, .closePool,
    .start 0 (.getWriter default)]

def overlappingRun : ScriptedRun := (Run.new scripted true 3).play overlapping

/-- Nobody goes on with a search from before the pool was closed, and the two searches that overlap are
given the same writer. -/
theorem keeps_registered_overlapping :
    (∀ turn ∈ overlappingRun.turns, ¬ turn.Overtaken default) ∧
      (∀ turn ∈ overlappingRun.turns,
        turn.Holds default ∨ turn.Fills default ∨ turn.Vacates default) ∧
      ∃ first last, overlappingRun.turns = overlappingRun.turns.take 4 ++
          first :: ([] ++ last :: overlappingRun.turns.drop 6) ∧ first.Gives default 0 ∧
        last.Gives default 0 ∧ ∀ id, last.Gives default id → id = 0 := by
  have eras : (overlappingRun.turns.all fun turn => match turn.move with
      | .resume _ _ => turn.before.pool.era == 0
      | _ => true) = true := rfl
  have prompt : ∀ turn ∈ overlappingRun.turns, ¬ turn.Overtaken default := by
    rintro turn member ⟨-, task, signal, era, stage, move, -, early⟩
    have none := List.all_eq_true.1 eras turn member
    simp only [move, beq_iff_eq] at none
    omega
  have kept := keeps_registered scripted true 3 overlapping default
  obtain ⟨turns, agrees⟩ := kept prompt
  have split : overlappingRun.turns = overlappingRun.turns.take 4 ++
      _ :: ([] ++ _ :: overlappingRun.turns.drop 6) := rfl
  refine ⟨prompt, turns, _, _, split, ⟨rfl, rfl⟩, ⟨rfl, rfl⟩, fun id gives => ?_⟩
  exact (agrees _ _ _ _ _ 0 id split ⟨rfl, rfl⟩ gives fun _ member => by cases member).symm

/-- The pool is closed under a search that prepares its stream, and another one begins before that goes
on. -/
def overtaking : List (Move CloudWatch.Command CloudWatch.Chore) :=
  [.command .connect, .command slowCreation, .start 0 (.getWriter default), .closePool,
    .start 1 (.getWriter default), .resume 0 .ready]

def overtakingRun : ScriptedRun := (Run.new scripted true 3).play overtaking

/-- A search that was overtaken puts its own writer in the place of one that was just given. -/
theorem overtaking_replaces : ∃ front first last, overtakingRun.turns = front ++ [first, last] ∧
    first.Gives default 0 ∧ last.Gives default 1 ∧ last.Overtaken default ∧
    first.after.pool.writers.get? default = some 0 ∧
    last.before.pool.writers.get? default = some 0 ∧
    last.after.pool.writers.get? default = some 1 := by
  refine ⟨overtakingRun.turns.take 4, _, _, rfl, ⟨rfl, rfl⟩, ⟨rfl, rfl⟩, ?_, rfl, rfl, rfl⟩
  exact ⟨rfl, 0, .ready, 0, _, rfl, rfl, Nat.zero_lt_one⟩

end SequenceLog

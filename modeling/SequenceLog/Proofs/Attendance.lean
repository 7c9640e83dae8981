import SequenceLog.Proofs.Attempts
import SequenceLog.Proofs.Lock
/-! How writers are attended. In every run each writer's lock guards the appends of its batches, the
queue holds the calls that wait for it in the order of their arrival, and the writer's chronicle is
lawful. Main statement: `sound_play`. -/
namespace SequenceLog
variable {τ σ κ μ χ : Type}

/-- The writer that a task has a batch for. -/
def Activity.writer? : Activity σ → Option WriterId
  | .batch id _ _ => some id
  | _ => none

namespace Session

def batchOf (s : Session τ σ κ) (task : TaskId) : Option WriterId :=
  (s.active task).bind Activity.writer?

def Sending (s : Session τ σ κ) (id : WriterId) (task : TaskId) : Prop :=
  ∃ events left stage, s.active task = some (.batch id events (.sending left stage))

def Queueing (s : Session τ σ κ) (id : WriterId) (task : TaskId) : Prop :=
  ∃ events, s.active task = some (.batch id events .queued)

theorem Sending.batchOf {s : Session τ σ κ} {id : WriterId} {task : TaskId}
    (sending : s.Sending id task) : s.batchOf task = some id := by
  obtain ⟨events, left, stage, active⟩ := sending
  simp [Session.batchOf, active, Activity.writer?]

theorem Queueing.batchOf {s : Session τ σ κ} {id : WriterId} {task : TaskId}
    (queueing : s.Queueing id task) : s.batchOf task = some id := by
  obtain ⟨events, active⟩ := queueing
  simp [Session.batchOf, active, Activity.writer?]

end Session

/-- What an operation goes on with, if it is suspended. -/
def Stepped.activity? (stepped : Stepped τ σ κ) : Option (Activity σ) :=
  match stepped.progress with
  | .suspended activity => some activity
  | .finished _ => none

def Stepped.result? (stepped : Stepped τ σ κ) : Option (Except Fault Answer) :=
  match stepped.progress with
  | .suspended _ => none
  | .finished result => some result

theorem Session.record_eq (task : TaskId) (stepped : Stepped τ σ κ) :
    Session.record task stepped =
      ({ stepped.session with active := fun t =>
          if t = task then stepped.activity? else stepped.session.active t }, stepped.result?) := by
  obtain ⟨s, progress⟩ := stepped
  cases progress <;> rfl

/-- The writer `id` is attended as `lane` says. -/
structure Attended (r : Run τ σ κ μ χ) (id : WriterId) (lane : Lane) : Prop where
  guards : (r.session.writer id).lock.Guards (r.session.Sending id) (r.session.Queueing id)
  ordered : (r.session.writer id).lock.Ordered r.call lane.horizon
  lawful : Lawful (r.session.writer id).key (r.firstToken id) (r.Asks id) (r.chronicle id) lane
  token : lane.token = (r.session.writer id).token
  status : lane.status = (r.session.writer id).status
  phase : (lane.phase = .idle ∧ ∀ task, ¬ r.session.Sending id task) ∨
    ∃ task events left stage sent,
      r.session.active task = some (.batch id events (.sending left stage)) ∧
      lane.phase = .flying (r.call task) ⟨(r.session.writer id).key, sent, events⟩

structure Sound (r : Run τ σ κ μ χ) : Prop where
  began : ∀ task, r.session.active task ≠ none → r.call task < r.operations.length
  asked : ∀ task id events stage, r.session.active task = some (.batch id events stage) →
    id < r.session.writers.length ∧ r.Asks id (r.call task) events
  strange : ∀ id, r.session.writers.length ≤ id → r.chronicle id = []
  opened : r.opened.length = r.session.writers.length
  attended : ∀ id, id < r.session.writers.length → ∃ lane, Attended r id lane

theorem Attended.flying {r : Run τ σ κ μ χ} {id : WriterId} {lane : Lane} {task : TaskId}
    {events : List LogEvent} {left : Nat} {stage : σ} (attended : Attended r id lane)
    (under : r.session.active task = some (.batch id events (.sending left stage))) :
    ∃ sent, lane.phase = .flying (r.call task) ⟨(r.session.writer id).key, sent, events⟩ := by
  have sending : r.session.Sending id task := ⟨events, left, stage, under⟩
  rcases attended.phase with ⟨-, nobody⟩ | ⟨other, events', left', stage', sent, under', phase⟩
  · exact absurd sending (nobody task)
  · obtain rfl := attended.guards.alone other task ⟨events', left', stage', under'⟩ sending
    cases under.symm.trans under'
    exact ⟨sent, phase⟩

theorem Sound.attended_of_sending {r : Run τ σ κ μ χ} (sound : Sound r) {id : WriterId}
    {task : TaskId} (sending : r.session.Sending id task) : ∃ lane, Attended r id lane := by
  obtain ⟨events, left, stage, under⟩ := sending
  exact sound.attended id (sound.asked task id events _ under).1

theorem Sound.active_of_sending {r : Run τ σ κ μ χ} (sound : Sound r) {id : WriterId} {task : TaskId}
    {events : List LogEvent} {left : Nat} {stage : σ}
    (under : r.session.active task = some (.batch id events (.sending left stage))) :
    (r.session.writer id).status = .active := by
  obtain ⟨lane, attended⟩ := sound.attended_of_sending ⟨events, left, stage, under⟩
  obtain ⟨sent, phase⟩ := attended.flying under
  rw [← attended.status]
  exact attended.lawful.active_of_busy (by simp [phase])

/-- Every chronicle is lawful. The one of a writer that does not exist is empty. -/
theorem Sound.lawful {r : Run τ σ κ μ χ} (sound : Sound r) (id : WriterId) :
    ∃ lane, Lawful (r.session.writer id).key (r.firstToken id) (r.Asks id) (r.chronicle id) lane ∧
      lane.token = (r.session.writer id).token := by
  by_cases known : id < r.session.writers.length
  · obtain ⟨lane, attended⟩ := sound.attended id known
    exact ⟨lane, attended.lawful, attended.token⟩
  · have late := Nat.le_of_not_lt known
    refine ⟨⟨r.firstToken id, .active, 0, .idle⟩, ?_, ?_⟩
    · rw [sound.strange id late]
      exact .nil
    · simp [Run.firstToken, Session.writer, List.getElem?_eq_none late,
        List.getElem?_eq_none (sound.opened.symm ▸ late)]

theorem Attended.congr {r r' : Run τ σ κ μ χ} {id : WriterId} {lane : Lane}
    (attended : Attended r id lane)
    (writer : r'.session.writer id = r.session.writer id)
    (active : ∀ task, r'.session.active task = r.session.active task ∨
      (r.session.batchOf task ≠ some id ∧ r'.session.batchOf task ≠ some id))
    (calls : ∀ task, r.session.batchOf task = some id → r'.call task = r.call task)
    (asks : ∀ call events, r.Asks id call events → r'.Asks id call events)
    (first : r'.firstToken id = r.firstToken id) (chronicle : r'.chronicle id = r.chronicle id) :
    Attended r' id lane := by
  have sending : ∀ task, r'.session.Sending id task ↔ r.session.Sending id task := by
    intro task
    rcases active task with same | ⟨before, after⟩
    · simp only [Session.Sending, same]
    · exact ⟨fun h => absurd h.batchOf after, fun h => absurd h.batchOf before⟩
  have queueing : ∀ task, r'.session.Queueing id task ↔ r.session.Queueing id task := by
    intro task
    rcases active task with same | ⟨before, after⟩
    · simp only [Session.Queueing, same]
    · exact ⟨fun h => absurd h.batchOf after, fun h => absurd h.batchOf before⟩
  constructor
  · exact writer ▸ attended.guards.congr sending queueing
  · refine writer ▸ attended.ordered.congr (fun entry member => ?_) (Nat.le_refl _)
    exact calls _ ((attended.guards.queued _).2 ⟨_, member⟩).batchOf
  · rw [writer, first, chronicle]
    exact attended.lawful.mono asks
  · rw [writer, attended.token]
  · rw [writer, attended.status]
  · rcases attended.phase with ⟨idle, none⟩ | ⟨task, events, left, stage, sent, under, phase⟩
    · exact .inl ⟨idle, fun task h => none task ((sending task).1 h)⟩
    · have mine : r.session.batchOf task = some id :=
        Session.Sending.batchOf ⟨events, left, stage, under⟩
      refine .inr ⟨task, events, left, stage, sent, ?_, ?_⟩
      · rcases active task with same | ⟨before, -⟩
        · exact same.trans under
        · exact absurd mine before
      · rw [calls task mine, writer, phase]

namespace Run

theorem Asks.bound {r : Run τ σ κ μ χ} {id : WriterId} {call : CallId} {events : List LogEvent}
    (asked : r.Asks id call events) : call < r.operations.length := by
  obtain ⟨batch, operation, -⟩ := asked
  exact (List.getElem?_eq_some_iff.1 operation).1

theorem Asks.mono {r r' : Run τ σ κ μ χ} {id : WriterId} {call : CallId} {events : List LogEvent}
    (asked : r.Asks id call events) (more : ∃ more, r'.operations = r.operations ++ more) :
    r'.Asks id call events := by
  have bound := asked.bound
  obtain ⟨batch, operation, serialized⟩ := asked
  obtain ⟨more, operations⟩ := more
  exact ⟨batch, by rw [operations, List.getElem?_append_left bound, operation], serialized⟩

end Run

/-- A run stays sound if each of its old writers stays attended, and every new one starts with a free
lock and nothing in its chronicle. -/
theorem Sound.advance {r r' : Run τ σ κ μ χ} (sound : Sound r)
    (began : ∀ task, r'.session.active task ≠ none → r'.call task < r'.operations.length)
    (asked : ∀ task id events stage, r'.session.active task = some (.batch id events stage) →
      id < r.session.writers.length ∧ r'.Asks id (r'.call task) events)
    (longer : r.session.writers.length ≤ r'.session.writers.length)
    (newborn : ∀ id, r.session.writers.length ≤ id → id < r'.session.writers.length →
      (r'.session.writer id).lock = .free ∧ (r'.session.writer id).status = .active)
    (strange : ∀ id, r.session.writers.length ≤ id → r'.chronicle id = [])
    (opened : r'.opened = r.opened ++ r'.session.writers.drop r.session.writers.length)
    (attended : ∀ id, id < r.session.writers.length → ∃ lane, Attended r' id lane) : Sound r' where
  began := began
  asked task id events stage under :=
    ⟨Nat.lt_of_lt_of_le (asked task id events stage under).1 longer,
      (asked task id events stage under).2⟩
  strange id h := strange id (Nat.le_trans longer h)
  opened := by
    rw [opened, List.length_append, List.length_drop, sound.opened]
    omega
  attended id h := by
    by_cases old : id < r.session.writers.length
    · exact attended id old
    · have late : r.session.writers.length ≤ id := Nat.le_of_not_lt old
      obtain ⟨free, active⟩ := newborn id late h
      have nobody : ∀ task, r'.session.batchOf task ≠ some id := by
        intro task mine
        obtain ⟨activity, under, same⟩ := Option.bind_eq_some_iff.1 mine
        cases activity with
        | batch other events stage =>
          cases same
          exact old (asked task _ events stage under).1
        | _ => cases same
      have first : r'.firstToken id = (r'.session.writer id).token := by
        rw [Run.firstToken, opened, List.getElem?_append_right (sound.opened.symm ▸ late),
          List.getElem?_drop, sound.opened, Nat.add_sub_cancel' late]
        rfl
      refine ⟨⟨(r'.session.writer id).token, .active, 0, .idle⟩, ?_⟩
      constructor
      · rw [free]
        exact Mutex.guards_free.congr (fun task => ⟨fun h => nobody task h.batchOf, False.elim⟩)
          fun task => ⟨fun h => nobody task h.batchOf, False.elim⟩
      · rw [free]
        exact Mutex.ordered_free
      · rw [strange id late, first]
        exact .nil
      · rfl
      · exact active.symm
      · exact .inl ⟨rfl, fun task h => nobody task h.batchOf⟩

end SequenceLog

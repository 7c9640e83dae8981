import SequenceLog.Mutex
/-! Locks in use. A lock guards a section: it is held while a task is inside, never by two, and its
queue holds exactly the tasks that wait. Main statements: every operation on a lock keeps it so, and
those who still want the lock get it in the order in which they asked for it. -/
namespace SequenceLog.Mutex

/-- A lock guards the section that the tasks `inside` are in, and `waiting` ask for it. Only the
head of the queue can have been granted the lock, and only while nobody is inside. -/
structure Guards (m : Mutex) (inside waiting : TaskId → Prop) : Prop where
  held : m.held = true ↔ ∃ task, inside task
  alone : ∀ a b, inside a → inside b → a = b
  queued : ∀ task, waiting task ↔ ∃ place, (task, place) ∈ m.queue
  granted : ∀ task, (task, .granted) ∈ m.queue →
    m.held = false ∧ ∃ rest, m.queue = (task, .granted) :: rest

/-- The queue is in the order of the ranks of its tasks. Those who still want the lock have ranks
from the horizon on. -/
structure Ordered (m : Mutex) (rank : TaskId → Nat) (horizon : Nat) : Prop where
  sorted : m.queue.Pairwise fun a b => rank a.1 < rank b.1
  ahead : ∀ entry ∈ m.queue, entry.2 ≠ .abandoned → horizon ≤ rank entry.1

/-- A lock that nobody holds does not keep the head of its queue waiting. -/
def Alert (m : Mutex) : Prop :=
  m.held = false → ∀ entry, m.queue.head? = some entry → entry.2 ≠ .waiting

variable {m : Mutex} {inside waiting : TaskId → Prop} {rank : TaskId → Nat} {horizon : Nat}

theorem guards_free : free.Guards (fun _ => False) (fun _ => False) := by
  constructor <;> simp [free]

theorem ordered_free : free.Ordered rank horizon := by
  constructor <;> simp [free]

theorem Guards.congr {inside' waiting' : TaskId → Prop} (guards : m.Guards inside waiting)
    (sameInside : ∀ task, inside' task ↔ inside task)
    (sameWaiting : ∀ task, waiting' task ↔ waiting task) : m.Guards inside' waiting' := by
  obtain rfl : inside' = inside := funext fun task => propext (sameInside task)
  obtain rfl : waiting' = waiting := funext fun task => propext (sameWaiting task)
  exact guards

theorem Ordered.congr {rank' : TaskId → Nat} {horizon' : Nat} (ordered : m.Ordered rank horizon)
    (same : ∀ entry ∈ m.queue, rank' entry.1 = rank entry.1) (earlier : horizon' ≤ horizon) :
    m.Ordered rank' horizon' where
  sorted := ordered.sorted.imp_of_mem fun ha hb before => by rwa [same _ ha, same _ hb]
  ahead entry member wants :=
    (same entry member).symm ▸ Nat.le_trans earlier (ordered.ahead entry member wants)

@[simp] theorem take_held (m : Mutex) : m.take.held = true := rfl

/-- A lock that can be taken is free, and everybody in its queue has given up. -/
theorem available_iff :
    m.available = true ↔ m.held = false ∧ ∀ entry ∈ m.queue, entry.2 = .abandoned := by
  simp [available]

theorem Guards.take (guards : m.Guards inside waiting) (available : m.available = true)
    (task : TaskId) : m.take.Guards (· = task) waiting where
  held := ⟨fun _ => ⟨task, rfl⟩, fun _ => rfl⟩
  alone a b ha hb := ha.trans hb.symm
  queued := guards.queued
  granted other member := by
    have := (available_iff.1 available).2 _ member
    contradiction

theorem Ordered.take (ordered : m.Ordered rank horizon) (available : m.available = true)
    (horizon' : Nat) : m.take.Ordered rank horizon' where
  sorted := ordered.sorted
  ahead entry member wants := absurd ((available_iff.1 available).2 entry member) wants

theorem Guards.join (guards : m.Guards inside waiting) {task : TaskId} (outside : ¬ waiting task) :
    (m.join task).Guards inside (fun other => waiting other ∨ other = task) where
  held := guards.held
  alone := guards.alone
  queued other := by
    simp only [Mutex.join, List.mem_append, List.mem_singleton, Prod.mk.injEq, guards.queued other]
    constructor
    · rintro (⟨place, member⟩ | rfl)
      · exact ⟨place, .inl member⟩
      · exact ⟨.waiting, .inr ⟨rfl, rfl⟩⟩
    · rintro ⟨place, member | ⟨rfl, -⟩⟩
      · exact .inl ⟨place, member⟩
      · exact .inr rfl
  granted other member := by
    have member : (other, .granted) ∈ m.queue := by simpa [Mutex.join] using member
    obtain ⟨unheld, rest, queue⟩ := guards.granted other member
    exact ⟨unheld, rest ++ [(task, .waiting)], by simp [Mutex.join, queue]⟩

theorem Ordered.join (ordered : m.Ordered rank horizon) {task : TaskId}
    (last : ∀ entry ∈ m.queue, rank entry.1 < rank task) (late : horizon ≤ rank task) :
    (m.join task).Ordered rank horizon where
  sorted := by
    simp only [Mutex.join, List.pairwise_append, List.pairwise_singleton, List.mem_singleton,
      forall_eq, true_and]
    exact ⟨ordered.sorted, last⟩
  ahead entry member wants := by
    rcases List.mem_append.1 member with member | member
    · exact ordered.ahead entry member wants
    · rw [List.mem_singleton.1 member]
      exact late

theorem mem_drop {task : TaskId} {entry : TaskId × Place} :
    entry ∈ (m.drop task).queue ↔ entry ∈ m.queue ∧ entry.1 ≠ task := by
  simp [drop]

/-- Leaving the queue. Whether the task was granted the lock does not matter for the others. -/
theorem Guards.drop (guards : m.Guards inside waiting) (task : TaskId) :
    (m.drop task).Guards inside (fun other => waiting other ∧ other ≠ task) where
  held := guards.held
  alone := guards.alone
  queued other := by
    simp only [mem_drop, guards.queued other, exists_and_right]
  granted other member := by
    obtain ⟨member, different⟩ := mem_drop.1 member
    obtain ⟨unheld, rest, queue⟩ := guards.granted other member
    refine ⟨unheld, rest.filter fun entry => entry.1 ≠ task, ?_⟩
    simp [Mutex.drop, queue, show other ≠ task from different]

theorem Ordered.drop (ordered : m.Ordered rank horizon) (task : TaskId) :
    (m.drop task).Ordered rank horizon where
  sorted := ordered.sorted.sublist List.filter_sublist
  ahead entry member := ordered.ahead entry (mem_drop.1 member).1

/-- Granting a free lock only tells the head of the queue. -/
theorem Guards.grant (guards : m.Guards inside waiting) (unheld : m.held = false) :
    m.grant.1.Guards inside waiting := by
  unfold Mutex.grant
  split
  · rename_i task rest queue
    refine ⟨guards.held, guards.alone, fun other => ?_, fun other member => ?_⟩
    · rw [guards.queued other]
      simp only [queue, List.mem_cons, Prod.mk.injEq]
      constructor
      · rintro ⟨place, ⟨rfl, -⟩ | member⟩
        · exact ⟨.granted, .inl ⟨rfl, rfl⟩⟩
        · exact ⟨place, .inr member⟩
      · rintro ⟨place, ⟨rfl, -⟩ | member⟩
        · exact ⟨.waiting, .inl ⟨rfl, rfl⟩⟩
        · exact ⟨place, .inr member⟩
    · rcases List.mem_cons.1 member with same | member
      · cases same
        exact ⟨unheld, rest, rfl⟩
      · -- no second task can have been granted the lock before
        obtain ⟨_, tail, head⟩ := guards.granted other (by simp [queue, member])
        rw [queue] at head
        cases head
  · exact guards

theorem Ordered.grant (ordered : m.Ordered rank horizon) : m.grant.1.Ordered rank horizon := by
  unfold Mutex.grant
  split
  · rename_i task rest queue
    have sorted := ordered.sorted
    have ahead := ordered.ahead
    rw [queue] at sorted ahead
    refine ⟨?_, fun entry member wants => ?_⟩
    · simpa using sorted
    · rcases List.mem_cons.1 member with rfl | member
      · exact ahead (task, .waiting) (by simp) (by simp)
      · exact ahead entry (List.mem_cons_of_mem _ member) wants
  · exact ordered

theorem length_grant (m : Mutex) : m.grant.1.queue.length = m.queue.length := by
  unfold grant
  split
  · rename_i task rest queue
    simp [queue]
  · rfl

theorem length_drop_lt {task : TaskId} {place : Place} (member : (task, place) ∈ m.queue) :
    (m.drop task).queue.length < m.queue.length :=
  List.length_filter_lt_length_iff_exists.2 ⟨_, member, by simp⟩

/-- Nobody gives up because somebody is granted the lock. -/
theorem abandoned_of_grant {task : TaskId} (member : (task, .abandoned) ∈ m.grant.1.queue) :
    (task, .abandoned) ∈ m.queue := by
  unfold grant at member
  split at member
  · rename_i first rest queue
    rw [queue]
    simpa using member
  · exact member

theorem Guards.release {task : TaskId} (guards : m.Guards (· = task) waiting) :
    m.release.1.Guards (fun _ => False) waiting := by
  have free : ({ m with held := false } : Mutex).Guards (fun _ => False) waiting := {
    held := by simp
    alone := fun _ _ inside => inside.elim
    queued := guards.queued
    granted := fun other member => ⟨rfl, (guards.granted other member).2⟩ }
  exact free.grant rfl

theorem Ordered.release (ordered : m.Ordered rank horizon) : m.release.1.Ordered rank horizon :=
  Ordered.grant ⟨ordered.sorted, ordered.ahead⟩

theorem Guards.leave (guards : m.Guards inside waiting) (task : TaskId) :
    (m.leave task).1.Guards inside (fun other => waiting other ∧ other ≠ task) := by
  simp only [Mutex.leave]
  split
  · exact guards.drop task
  · rename_i unheld
    exact (guards.drop task).grant (by simpa using unheld)

theorem Ordered.leave (ordered : m.Ordered rank horizon) (task : TaskId) :
    (m.leave task).1.Ordered rank horizon := by
  simp only [Mutex.leave]
  split
  · exact ordered.drop task
  · exact (ordered.drop task).grant

theorem isGranted_iff {task : TaskId} : m.isGranted task = true ↔ (task, .granted) ∈ m.queue := by
  simp [isGranted]

/-- A task that was granted the lock finds the section empty. -/
theorem Guards.enter (guards : m.Guards inside waiting) {task : TaskId}
    (granted : m.isGranted task = true) :
    (m.enter task).Guards (· = task) (fun other => waiting other ∧ other ≠ task) where
  held := ⟨fun _ => ⟨task, rfl⟩, fun _ => rfl⟩
  alone a b ha hb := ha.trans hb.symm
  queued := (guards.drop task).queued
  granted other member := by
    obtain ⟨member, different⟩ := mem_drop.1 member
    obtain ⟨_, _, first⟩ := guards.granted task (isGranted_iff.1 granted)
    obtain ⟨_, _, second⟩ := guards.granted other member
    rw [first] at second
    cases second
    exact absurd rfl different

/-- Whoever enters comes before all who stay in the queue. -/
theorem Ordered.enter (ordered : m.Ordered rank horizon) (guards : m.Guards inside waiting)
    {task : TaskId} (granted : m.isGranted task = true) :
    (m.enter task).Ordered rank (rank task + 1) where
  sorted := (ordered.drop task).sorted
  ahead entry member wants := by
    obtain ⟨member, different⟩ := mem_drop.1 member
    obtain ⟨_, rest, queue⟩ := guards.granted task (isGranted_iff.1 granted)
    have sorted := ordered.sorted
    rw [queue] at sorted member
    rcases List.mem_cons.1 member with rfl | member
    · exact absurd rfl different
    · exact (List.pairwise_cons.1 sorted).1 entry member

theorem Ordered.of_granted (ordered : m.Ordered rank horizon) {task : TaskId}
    (granted : m.isGranted task = true) : horizon ≤ rank task :=
  ordered.ahead _ (isGranted_iff.1 granted) (by simp)

/-- Giving up changes places, not who stands in the queue. -/
theorem abandon_tasks (m : Mutex) (task : TaskId) :
    (m.abandon task).queue.map (·.1) = m.queue.map (·.1) := by
  simp only [abandon, List.map_map]
  apply List.map_congr_left
  intro entry _
  simp only [Function.comp]
  split
  · rename_i same
    rw [same]
  · rfl

theorem mem_abandon {task other : TaskId} {place : Place} (lasting : place ≠ .abandoned)
    (member : (other, place) ∈ (m.abandon task).queue) : (other, place) ∈ m.queue := by
  simp only [abandon, List.mem_map] at member
  obtain ⟨entry, member, changed⟩ := member
  split at changed
  · cases changed
    contradiction
  · exact changed ▸ member

theorem Guards.abandon (guards : m.Guards inside waiting) (task : TaskId) :
    (m.abandon task).Guards inside waiting where
  held := guards.held
  alone := guards.alone
  queued other := by
    have names : ∀ {queue : List (TaskId × Place)},
        (∃ place, (other, place) ∈ queue) ↔ other ∈ queue.map (·.1) := by simp
    rw [guards.queued other, names, names, abandon_tasks]
  granted other member := by
    obtain ⟨unheld, rest, queue⟩ := guards.granted other (mem_abandon (by simp) member)
    exact ⟨unheld, (⟨false, rest⟩ : Mutex).abandon task |>.queue, by simp [Mutex.abandon, queue]⟩

theorem Ordered.abandon (ordered : m.Ordered rank horizon) (task : TaskId) :
    (m.abandon task).Ordered rank horizon where
  sorted := by
    have sorted : (m.queue.map (·.1)).Pairwise (rank · < rank ·) := List.pairwise_map.2 ordered.sorted
    rwa [← abandon_tasks m task, List.pairwise_map] at sorted
  ahead entry member wants := ordered.ahead entry (mem_abandon wants member) wants

theorem alert_free : free.Alert := fun _ _ head => by cases head

theorem alert_of_held (held : m.held = true) : m.Alert :=
  fun unheld => by cases held.symm.trans unheld

/-- Who comes last is not the head of the queue of a lock that cannot be taken. -/
theorem Alert.join (alert : m.Alert) (taken : m.available = false) (task : TaskId) :
    (m.join task).Alert := by
  intro unheld entry head
  have unheld' : m.held = false := unheld
  cases queue : m.queue with
  | nil => simp [available, unheld', queue] at taken
  | cons first rest =>
    apply alert unheld'
    simpa [Mutex.join, queue] using head

theorem alert_grant : m.grant.1.Alert := by
  unfold Mutex.grant
  split
  · intro _ entry head
    cases head
    simp
  · rename_i other
    rintro - ⟨task, place⟩ head rfl
    cases queue : m.queue with
    | nil => simp [queue] at head
    | cons first rest =>
      rw [queue] at head
      cases head
      exact other task rest queue

theorem alert_release : m.release.1.Alert := alert_grant

theorem alert_leave (task : TaskId) : (m.leave task).1.Alert := by
  simp only [Mutex.leave]
  split
  · rename_i held
    exact alert_of_held held
  · exact alert_grant

theorem Alert.abandon (alert : m.Alert) (task : TaskId) : (m.abandon task).Alert := by
  intro unheld entry head
  cases queue : m.queue with
  | nil => simp [Mutex.abandon, queue] at head
  | cons first rest =>
    simp only [Mutex.abandon, queue, List.map_cons, List.head?_cons, Option.some.injEq] at head
    split at head
    · simp [← head]
    · exact head ▸ alert unheld first (by simp [queue])

end SequenceLog.Mutex

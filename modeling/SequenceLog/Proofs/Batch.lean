import SequenceLog.Proofs.Turn
/-! The turns of batches. A batch that gets its writer's lock is served, one that does not is queued,
and one that gives up leaves the queue. Each way the writer stays attended. -/
namespace SequenceLog
open Scenario
variable {τ σ κ μ χ : Type}

theorem Takes.firstToken {r r' : Run τ σ κ μ χ} {task : TaskId} {stepped : Stepped τ σ κ}
    {id : WriterId} (takes : Takes r r' task stepped) (sound : Sound r)
    (known : id < r.session.writers.length) : r'.firstToken id = r.firstToken id := by
  rw [Run.firstToken, takes.opened, List.getElem?_append_left (sound.opened.symm ▸ known)]
  rfl

theorem Takes.attended_untouched {r r' : Run τ σ κ μ χ} {task : TaskId} {stepped : Stepped τ σ κ}
    {id : WriterId} {lane : Lane} (takes : Takes r r' task stepped) (sound : Sound r)
    (known : id < r.session.writers.length) (attended : Attended r id lane)
    (same : stepped.session.writers[id]? = r.session.writers[id]?)
    (quiet : stepped.session.deeds id = []) (before : r.session.batchOf task ≠ some id)
    (after : stepped.activity?.bind Activity.writer? ≠ some id) : Attended r' id lane := by
  refine attended.congr ?_ (fun other => ?_) (fun other mine => ?_) (fun call events asked => ?_) ?_ ?_
  · rw [takes.writer, Session.writer_congr id same]
  · by_cases different : other = task
    · subst different
      exact .inr ⟨before, by rwa [Session.batchOf, takes.active_self]⟩
    · exact .inl (takes.active_other different)
  · refine takes.others other fun same => before ?_
    rwa [← same]
  · exact asked.mono takes.operations
  · exact takes.firstToken sound known
  · rw [takes.chronicle, Session.told, quiet, List.map_nil, List.append_nil]

/-- A run stays sound over a turn if its old writers stay attended. -/
theorem Takes.sound {r r' : Run τ σ κ μ χ} {task : TaskId} {stepped : Stepped τ σ κ}
    (takes : Takes r r' task stepped) (sound : Sound r)
    (own : ∀ id events stage, stepped.activity? = some (.batch id events stage) →
      id < r.session.writers.length ∧ r'.Asks id (r'.call task) events)
    (longer : r.session.writers.length ≤ stepped.session.writers.length)
    (newborn : ∀ id, r.session.writers.length ≤ id → id < stepped.session.writers.length →
      (stepped.session.writer id).lock = .free ∧ (stepped.session.writer id).status = .active)
    (quiet : ∀ id, r.session.writers.length ≤ id → stepped.session.deeds id = [])
    (attended : ∀ id, id < r.session.writers.length → ∃ lane, Attended r' id lane) : Sound r' := by
  refine sound.advance (fun other under => ?_) (fun other id events stage under => ?_) ?_ ?_ ?_
    takes.opened attended
  · by_cases same : other = task
    · exact same ▸ takes.begun
    · rw [takes.active_other same] at under
      obtain ⟨more, operations⟩ := takes.operations
      rw [takes.others other same, operations, List.length_append]
      exact Nat.lt_add_right _ (sound.began other under)
  · by_cases same : other = task
    · subst same
      exact own id events stage (takes.active_self ▸ under)
    · rw [takes.active_other same] at under
      rw [takes.others other same]
      have asked := sound.asked other id events stage under
      exact ⟨asked.1, asked.2.mono takes.operations⟩
  · rwa [takes.writers]
  · rwa [takes.writers, funext takes.writer]
  · intro id late
    rw [takes.chronicle, Session.told, sound.strange id late, quiet id late]
    rfl

theorem Takes.sound_apart {r r' : Run τ σ κ μ χ} {task : TaskId} {stepped : Stepped τ σ κ}
    (takes : Takes r r' task stepped) (sound : Sound r) (apart : r.session.fresh.Apart stepped.session)
    (before : r.session.batchOf task = none)
    (after : stepped.activity?.bind Activity.writer? = none) : Sound r' := by
  refine takes.sound sound (fun id events stage under => ?_) apart.longer
    (fun id late young => apart.newborn late young) (fun id _ => apart.quiet id) fun id known => ?_
  · simp [under, Activity.writer?] at after
  · obtain ⟨lane, attended⟩ := sound.attended id known
    exact ⟨lane, takes.attended_untouched sound known attended (apart.getElem? known)
      (apart.quiet id) (by simp [before]) (by simp [after])⟩

/-- A turn of a batch. What is left to show is that its own writer stays attended. -/
theorem Takes.sound_within {r r' : Run τ σ κ μ χ} {task : TaskId} {stepped : Stepped τ σ κ}
    {id : WriterId} {events : List LogEvent} (takes : Takes r r' task stepped) (sound : Sound r)
    (within : Session.Within id r.session.fresh stepped.session)
    (known : id < r.session.writers.length) (asked : r'.Asks id (r'.call task) events)
    (before : ∀ other, r.session.batchOf task = some other → other = id)
    (after : ∀ activity, stepped.activity? = some activity → ∃ stage,
      activity = .batch id events stage)
    (attended : ∃ lane, Attended r' id lane) : Sound r' := by
  have length : stepped.session.writers.length = r.session.writers.length := within.length
  refine takes.sound sound (fun other events' stage under => ?_)
    (Nat.le_of_eq length.symm) (fun other late young => ?_) (fun other late => ?_) fun other old => ?_
  · obtain ⟨stage', same⟩ := after _ under
    cases same
    exact ⟨known, asked⟩
  · exact absurd (length ▸ young) (Nat.not_lt.2 late)
  · exact within.quiet other fun same => absurd known (Nat.not_lt.2 (same ▸ late))
  · by_cases same : other = id
    · exact same ▸ attended
    · obtain ⟨lane, kept⟩ := sound.attended other old
      refine ⟨lane, takes.attended_untouched sound old kept (within.others other same)
        (within.quiet other same) (fun mine => same (before other mine)) fun mine => ?_⟩
      obtain ⟨activity, under, writes⟩ := Option.bind_eq_some_iff.1 mine
      obtain ⟨stage, rfl⟩ := after activity under
      cases writes
      exact same rfl

section Own
variable {r r' : Run τ σ κ μ χ} {task : TaskId} {stepped : Stepped τ σ κ} {id : WriterId}

/-- Unless the task goes on to send, those who send are the others who did. -/
theorem Takes.sending_iff (id : WriterId) (takes : Takes r r' task stepped)
    (silent : ∀ events left stage, stepped.activity? ≠ some (.batch id events (.sending left stage)))
    (other : TaskId) : r'.session.Sending id other ↔ r.session.Sending id other ∧ other ≠ task := by
  by_cases same : other = task
  · subst same
    simp [Session.Sending, takes.active_self, silent]
  · simp [Session.Sending, takes.active_other same, same]

theorem Takes.queueing_iff (id : WriterId) (takes : Takes r r' task stepped)
    (away : ∀ events, stepped.activity? ≠ some (.batch id events .queued))
    (other : TaskId) : r'.session.Queueing id other ↔ r.session.Queueing id other ∧ other ≠ task := by
  by_cases same : other = task
  · subst same
    simp [Session.Queueing, takes.active_self, away]
  · simp [Session.Queueing, takes.active_other same, same]

/-- The turn of a batch that had the lock in it. -/
theorem Takes.attended_served {events : List LogEvent} {lock : Mutex} {lane : Lane}
    (takes : Takes r r' task stepped) (sound : Sound r) (known : id < r.session.writers.length)
    (within : Session.Within id r.session.fresh stepped.session)
    (alone : ∀ other, r.session.Sending id other → other = task)
    (guards : lock.Guards (· = task) fun other => r.session.Queueing id other ∧ other ≠ task)
    (ordered : lock.Ordered r'.call lane.horizon)
    (serves : Session.Serves (r.session.writer id).key (r.firstToken id) (r'.Asks id)
      (r.chronicle id) (r'.call task) id events lock stepped lane) : Attended r' id lane := by
  have key : (r'.session.writer id).key = (r.session.writer id).key := by
    rw [takes.writer]
    exact within.key
  have lawful : Lawful (r'.session.writer id).key (r'.firstToken id) (r'.Asks id)
      (r'.chronicle id) lane := by
    rw [key, takes.firstToken sound known, takes.chronicle]
    exact serves.lawful
  have token : lane.token = (r'.session.writer id).token := by rw [takes.writer, serves.token]
  have status : lane.status = (r'.session.writer id).status := by rw [takes.writer, serves.status]
  rcases serves.ending with ⟨left, stage, sent, progress, phase, locked⟩ |
    ⟨result, progress, idle, locked⟩
  · have under : r'.session.active task = some (.batch id events (.sending left stage)) := by
      rw [takes.active_self, Stepped.activity?, progress]
    have sending : ∀ other, r'.session.Sending id other ↔ other = task := by
      intro other
      constructor
      · intro h
        by_cases mine : other = task
        · exact mine
        · apply alone other
          simpa [Session.Sending, takes.active_other mine] using h
      · rintro rfl
        exact ⟨events, left, stage, under⟩
    have queueing := takes.queueing_iff id (by simp [← takes.active_self, under])
    refine ⟨?_, ?_, lawful, token, status, .inr ⟨task, events, left, stage, sent, under, ?_⟩⟩
    · rw [takes.writer, locked]
      exact guards.congr sending queueing
    · rw [takes.writer, locked]
      exact ordered
    · rw [key, phase]
  · have gone : stepped.activity? = none := by rw [Stepped.activity?, progress]
    have sending : ∀ other, ¬ r'.session.Sending id other := by
      intro other h
      obtain ⟨h, different⟩ := (takes.sending_iff id (by simp [gone]) other).1 h
      exact different (alone other h)
    have queueing := takes.queueing_iff id (by simp [gone])
    refine ⟨?_, ?_, lawful, token, status, .inl ⟨idle, sending⟩⟩
    · rw [takes.writer, locked]
      exact guards.release.congr (fun other => ⟨sending other, False.elim⟩) queueing
    · rw [takes.writer, locked]
      exact ordered.release

theorem Attended.unheld {lane : Lane} (attended : Attended r id lane)
    (unheld : (r.session.writer id).lock.held = false) :
    lane.phase = .idle ∧ ∀ task, ¬ r.session.Sending id task := by
  have nobody : ∀ task, ¬ r.session.Sending id task := fun task sending => by
    rw [attended.guards.held.2 ⟨task, sending⟩] at unheld
    cases unheld
  rcases attended.phase with idle | ⟨task, events, left, stage, _, under, _⟩
  · exact idle
  · exact absurd ⟨events, left, stage, under⟩ (nobody task)

theorem Session.told_of_quiet {s : Session τ σ κ} {past : Chronicle} {call : CallId}
    (quiet : s.deeds id = []) : s.told past call id = past := by
  rw [told, quiet, List.map_nil, List.append_nil]

theorem Takes.lawful_of_quiet {lane : Lane} (takes : Takes r r' task stepped)
    (attended : Attended r id lane) {s : Session τ σ κ} (quiet : s.deeds id = []) :
    Lawful (r.session.writer id).key (r.firstToken id) (r'.Asks id)
      (s.told (r.chronicle id) (r'.call task) id) lane := by
  rw [Session.told_of_quiet quiet]
  exact attended.lawful.mono fun call events asked => asked.mono takes.operations

theorem Session.Serves.activity {key : Key} {token : Token} {asks : CallId → List LogEvent → Prop}
    {past : Chronicle} {call : CallId} {events : List LogEvent} {lock : Mutex} {lane : Lane}
    (serves : Serves key token asks past call id events lock stepped lane)
    {activity : Activity σ} (goes : stepped.activity? = some activity) :
    ∃ stage, activity = .batch id events stage := by
  rcases serves.ending with ⟨left, stage, sent, progress, -⟩ | ⟨result, progress, -⟩
  · rw [Stepped.activity?, progress] at goes
    cases goes
    exact ⟨_, rfl⟩
  · rw [Stepped.activity?, progress] at goes
    cases goes

/-- A turn in which a batch only has to do with the queue: it gets in line, waits or gives up. -/
theorem Takes.sound_requeue {events : List LogEvent} {lock : Mutex} {lane : Lane}
    (takes : Takes r r' task stepped) (sound : Sound r) (known : id < r.session.writers.length)
    (asked : r'.Asks id (r'.call task) events) (attended : Attended r id lane)
    (within : Session.Within id r.session.fresh stepped.session)
    (writer : stepped.session.writer id = { r.session.writer id with lock := lock })
    (quiet : stepped.session.deeds id = [])
    (before : ∀ other, r.session.batchOf task = some other → other = id)
    (unsent : ¬ r.session.Sending id task)
    (after : ∀ activity, stepped.activity? = some activity → activity = .batch id events .queued)
    (guards : lock.Guards (r.session.Sending id) (r'.session.Queueing id))
    (ordered : lock.Ordered r'.call lane.horizon) : Sound r' := by
  have sending : ∀ other, r'.session.Sending id other ↔ r.session.Sending id other := by
    intro other
    rw [takes.sending_iff id fun _ _ _ goes => by cases after _ goes]
    exact and_iff_left_of_imp fun sends same => unsent (same ▸ sends)
  refine takes.sound_within sound within known asked before
    (fun activity goes => ⟨.queued, after activity goes⟩) ⟨lane, ?_⟩
  constructor
  · rw [takes.writer, writer]
    exact guards.congr sending fun _ => Iff.rfl
  · rw [takes.writer, writer]
    exact ordered
  · rw [takes.writer, writer, takes.firstToken sound known, takes.chronicle]
    exact takes.lawful_of_quiet attended quiet
  · rw [takes.writer, writer, attended.token]
  · rw [takes.writer, writer, attended.status]
  · rcases attended.phase with ⟨idle, nobody⟩ | ⟨other, events, left, stage, sent, under, phase⟩
    · exact .inl ⟨idle, fun other h => nobody other ((sending other).1 h)⟩
    · have different : other ≠ task := by
        rintro rfl
        exact unsent ⟨events, left, stage, under⟩
      refine .inr ⟨other, events, left, stage, sent, ?_, ?_⟩
      · rw [takes.active_other different, under]
      · rw [takes.others other different, takes.writer, writer, phase]

theorem Takes.sound_join {events : List LogEvent} {lane : Lane}
    (takes : Takes r r' task ((r.session.fresh.setWriter id
      { r.session.writer id with lock := (r.session.writer id).lock.join task }).suspended
        (.batch id events .queued)))
    (sound : Sound r) (known : id < r.session.writers.length)
    (asked : r'.Asks id (r'.call task) events) (idle : r.session.active task = none)
    (call : r'.call task = r.operations.length) (attended : Attended r id lane) : Sound r' := by
  have outside : ¬ r.session.Queueing id task := by
    rintro ⟨events, under⟩
    simp [idle] at under
  have queueing : ∀ other, r'.session.Queueing id other ↔
      r.session.Queueing id other ∨ other = task := by
    intro other
    by_cases same : other = task
    · subst same
      simp [Session.Queueing, takes.active_self, Stepped.activity?, Session.suspended]
    · simp [Session.Queueing, takes.active_other same, same]
  have earlier : ∀ entry ∈ (r.session.writer id).lock.queue,
      r'.call entry.1 = r.call entry.1 ∧ r.call entry.1 < r.operations.length := by
    intro entry member
    have waits := (attended.guards.queued entry.1).2 ⟨_, member⟩
    refine ⟨takes.others _ fun same => outside (same ▸ waits), sound.began _ ?_⟩
    obtain ⟨events, under⟩ := waits
    simp [under]
  have horizon : lane.horizon ≤ r.operations.length :=
    attended.lawful.horizon_le fun _ _ asked => asked.bound
  refine takes.sound_requeue sound known asked attended
    (Session.within_lock (s := r.session.fresh) known _)
    (Session.writer_setWriter_self r.session.fresh id _ known) rfl ?_ ?_ ?_
    ((attended.guards.join outside).congr (fun _ => Iff.rfl) queueing) ?_
  · simp [Session.batchOf, idle]
  · rintro ⟨events, left, stage, under⟩
    simp [idle] at under
  · rintro activity ⟨⟩
    rfl
  · refine (attended.ordered.congr (fun entry member => (earlier entry member).1)
      (Nat.le_refl _)).join (fun entry member => ?_) (call ▸ horizon)
    rw [(earlier entry member).1, call]
    exact (earlier entry member).2

theorem Takes.sound_leave {events : List LogEvent} {lane : Lane} {fault : Fault}
    (takes : Takes r r' task (((r.session.fresh.setWriter id
      { r.session.writer id with lock := ((r.session.writer id).lock.leave task).1 }).wake
        ((r.session.writer id).lock.leave task).2).finished (.error fault)))
    (sound : Sound r) (known : id < r.session.writers.length)
    (asked : r'.Asks id (r'.call task) events)
    (under : r.session.active task = some (.batch id events .queued)) (call : r'.call = r.call)
    (attended : Attended r id lane) : Sound r' := by
  have within := (Session.within_lock (s := r.session.fresh) known
    ((r.session.writer id).lock.leave task).1).trans
      (Session.within_wake ((r.session.writer id).lock.leave task).2)
  have queueing := takes.queueing_iff id (by simp [Stepped.activity?, Session.finished])
  refine takes.sound_requeue sound known asked attended within ?_ ?_ ?_ ?_ ?_
    ((attended.guards.leave task).congr (fun _ => Iff.rfl) queueing)
    (call ▸ attended.ordered.leave task)
  · rw [Session.finished, Session.writer_wake]
    exact Session.writer_setWriter_self r.session.fresh id _ known
  · rw [Session.finished, Session.deeds_wake]
    rfl
  · simp [Session.batchOf, under, Activity.writer?]
  · rintro ⟨events, left, stage, sending⟩
    simp [under] at sending
  · rintro activity ⟨⟩

theorem Takes.sound_wait {events : List LogEvent} {lane : Lane}
    (takes : Takes r r' task (r.session.fresh.suspended (.batch id events .queued)))
    (sound : Sound r) (known : id < r.session.writers.length)
    (asked : r'.Asks id (r'.call task) events)
    (under : r.session.active task = some (.batch id events .queued)) (call : r'.call = r.call)
    (attended : Attended r id lane) : Sound r' := by
  have kept : r'.session.active = r.session.active := takes.active_unchanged under.symm
  refine takes.sound_requeue sound known asked attended (.refl _) rfl rfl ?_ ?_ ?_ ?_
    (call ▸ attended.ordered)
  · simp [Session.batchOf, under, Activity.writer?]
  · rintro ⟨events, left, stage, sending⟩
    simp [under] at sending
  · rintro activity ⟨⟩
    rfl
  · exact attended.guards.congr (fun _ => Iff.rfl) fun other => by rw [Session.Queueing, kept]; rfl

variable [Transport τ σ κ]

theorem Takes.sound_enter {events : List LogEvent} {lock : Mutex} {lane : Lane}
    (takes : Takes r r' task ((r.session.fresh.setWriter id
      { r.session.writer id with lock := lock }).sendBatch id events))
    (sound : Sound r) (known : id < r.session.writers.length)
    (asked : r'.Asks id (r'.call task) events)
    (before : ∀ other, r.session.batchOf task = some other → other = id)
    (attended : Attended r id lane) (unheld : (r.session.writer id).lock.held = false)
    (late : lane.horizon ≤ r'.call task)
    (guards : lock.Guards (· = task) fun other => r.session.Queueing id other ∧ other ≠ task)
    (ordered : lock.Ordered r'.call (r'.call task + 1)) : Sound r' := by
  let locked := r.session.fresh.setWriter id { r.session.writer id with lock := lock }
  obtain ⟨idle, nobody⟩ := attended.unheld unheld
  have writer : locked.writer id = { r.session.writer id with lock := lock } :=
    Session.writer_setWriter_self r.session.fresh id _ known
  have entered : Session.Within id r.session.fresh locked :=
    Session.within_lock (s := r.session.fresh) known lock
  have lawful := takes.lawful_of_quiet attended (s := locked) rfl
  have sameLock : (locked.writer id).lock = lock := by rw [writer]
  obtain ⟨lane', horizon, serves⟩ := Session.serves_sendBatch (entered.known known) lawful idle
    (by rw [writer, attended.token]) (by rw [writer, attended.status]) late asked
    (by rw [writer]) sameLock
  have within := entered.trans (Session.within_sendBatch (entered.known known) events)
  refine takes.sound_within sound within known asked before (fun _ => serves.activity) ⟨lane', ?_⟩
  exact takes.attended_served sound known within (fun other sending => absurd sending (nobody other))
    guards (ordered.congr (fun _ _ => rfl) horizon) serves

theorem Takes.sound_startBatch {batch : Batch}
    (takes : Takes r r' task (r.session.fresh.startBatch task id batch)) (sound : Sound r)
    (known : id < r.session.writers.length) (idle : r.session.active task = none)
    (operations : r'.operations = r.operations ++ [.write id batch])
    (call : r'.call task = r.operations.length) : Sound r' := by
  have nothing : r.session.batchOf task = none := by simp [Session.batchOf, idle]
  unfold Session.startBatch at takes
  split at takes
  · exact takes.sound_apart sound (.refl _) nothing rfl
  · rename_i some
    split at takes
    · exact takes.sound_apart sound (.refl _) nothing rfl
    · rename_i events serialized
      have asked : r'.Asks id (r'.call task) events :=
        ⟨batch, by simp [operations, call], by simpa using some, serialized⟩
      obtain ⟨lane, attended⟩ := sound.attended id known
      have horizon : lane.horizon ≤ r'.call task :=
        call ▸ attended.lawful.horizon_le fun _ _ asked => asked.bound
      dsimp only at takes
      split at takes
      · rename_i available
        have available : (r.session.writer id).lock.available = true := available
        have ordered := attended.ordered.take available (r'.call task + 1)
        refine takes.sound_enter sound known asked (by simp [nothing]) attended
          (Mutex.available_iff.1 available).1 horizon ?_ (ordered.congr ?_ (Nat.le_refl _))
        · apply (attended.guards.take available task).congr fun _ => Iff.rfl
          intro other
          apply and_iff_left_of_imp
          intro queueing same
          obtain ⟨events, under⟩ := queueing
          simp [same, idle] at under
        · intro entry member
          apply takes.others _
          intro same
          obtain ⟨events, under⟩ := (attended.guards.queued entry.1).2 ⟨_, member⟩
          simp [same, idle] at under
      · exact takes.sound_join sound known asked idle call attended

theorem Takes.sound_sending {events : List LogEvent} {left : Nat} {stage : σ} {signal : Signal}
    {lane : Lane}
    (takes : Takes r r' task
      (r.session.fresh.resumeBatch task id events (.sending left stage) signal))
    (sound : Sound r) (known : id < r.session.writers.length)
    (asked : r'.Asks id (r'.call task) events)
    (under : r.session.active task = some (.batch id events (.sending left stage)))
    (call : r'.call = r.call) (attended : Attended r id lane) : Sound r' := by
  let reply := Transport.resume r.session.transport stage signal
  let absorbed := r.session.fresh.absorb reply
  have mine : ∀ other, r.session.batchOf task = some other → other = id := by
    simp [Session.batchOf, under, Activity.writer?]
  have alone : ∀ other, r.session.Sending id other → other = task := fun other sending =>
    attended.guards.alone other task sending ⟨events, left, stage, under⟩
  obtain ⟨sent, phase⟩ := attended.flying under
  have guards : (r.session.writer id).lock.Guards (· = task)
      fun other => r.session.Queueing id other ∧ other ≠ task := by
    refine attended.guards.congr (fun other => ?_) fun other => ?_
    · exact ⟨fun same => ⟨events, left, stage, same ▸ under⟩, alone other⟩
    · apply and_iff_left_of_imp
      intro queueing same
      obtain ⟨events, queued⟩ := queueing
      simp [same, under] at queued
  have kept := takes.lawful_of_quiet attended (s := absorbed) (Session.deeds_absorb ..)
  have active : lane.status = .active := attended.lawful.active_of_busy (by simp [phase])
  have within : Session.Within id r.session.fresh absorbed := Session.within_absorb
  have lawful : Lawful (r.session.writer id).key (r.firstToken id) (r'.Asks id)
      (absorbed.told (r.chronicle id) (r'.call task) id)
      ⟨(absorbed.writer id).token, .active, lane.horizon,
        .flying (r'.call task) ⟨(r.session.writer id).key, sent, events⟩⟩ := by
    have same : (absorbed.writer id).token = lane.token := attended.token.symm
    rwa [same, ← active, call, ← phase, ← call]
  rw [Session.resumeBatch_sending] at takes
  obtain ⟨lane', horizon, serves⟩ := Session.serves_pursue (s := absorbed) known
    (attended.status.symm.trans active) lawful rfl rfl left reply.progress
  have within' : Session.Within id r.session.fresh
      (absorbed.pursue id events left reply.progress).session :=
    within.trans (Session.within_pursue known)
  refine takes.sound_within sound within' known asked mine (fun _ => serves.activity) ⟨lane', ?_⟩
  exact takes.attended_served sound known within' alone guards
    (attended.ordered.congr (fun _ _ => by rw [call]) (Nat.le_of_eq horizon)) serves

theorem Takes.sound_resumeBatch {events : List LogEvent} {stage : BatchStage σ} {signal : Signal}
    (takes : Takes r r' task (r.session.fresh.resumeBatch task id events stage signal))
    (sound : Sound r) (under : r.session.active task = some (.batch id events stage))
    (call : r'.call = r.call) : Sound r' := by
  obtain ⟨known, asked⟩ := sound.asked task id events stage under
  have asked : r'.Asks id (r'.call task) events := call ▸ asked.mono takes.operations
  obtain ⟨lane, attended⟩ := sound.attended id known
  cases stage with
  | queued =>
    unfold Session.resumeBatch at takes
    cases signal with
    | ready =>
      dsimp only at takes
      split at takes
      · rename_i granted
        have granted : (r.session.writer id).lock.isGranted task = true := granted
        have unheld := (attended.guards.granted task (Mutex.isGranted_iff.1 granted)).1
        refine takes.sound_enter sound known asked ?_ attended unheld ?_
          (attended.guards.enter granted) (call ▸ attended.ordered.enter attended.guards granted)
        · simp [Session.batchOf, under, Activity.writer?]
        · exact call ▸ attended.ordered.of_granted granted
      · exact takes.sound_wait sound known asked under call attended
    | expired | interrupted => exact takes.sound_leave sound known asked under call attended
  | sending left stage => exact takes.sound_sending sound known asked under call attended

end Own

end SequenceLog

import SequenceLog.Proofs.Search
/-! The turns of searches. A search that gets the lock of its stream is served, one that does not is
queued, and one that gives up leaves the queue. Each way the lock stays in use as it should be, and no
search matters to other streams. Main statement: `Takes.reserved_found`, about a search that had the
lock. -/
namespace SequenceLog
variable {τ σ κ μ χ : Type}

section Turns
variable {r r' : Run τ σ κ μ χ} {task : TaskId} {stepped : Stepped τ σ κ} {key : Key}

theorem Takes.pool (takes : Takes r r' task stepped) : r'.session.pool = stepped.session.pool := by
  rw [takes.session]

theorem Takes.made_iff (takes : Takes r r' task stepped) (key : Key) (id : WriterId) :
    r'.session.Made key id ↔ stepped.session.Made key id := by
  rw [takes.session]
  rfl

theorem Takes.registered (takes : Takes r r' task stepped)
    (registered : stepped.session.Registered) : r'.session.Registered :=
  registered.congr (by rw [takes.pool]) takes.made_iff fun _ id _ => by rw [takes.writer]

theorem Takes.reserved_congr (takes : Takes r r' task stepped) (reserved : r.session.Reserved key)
    (era : stepped.session.pool.era = r.session.pool.era)
    (locks : ∀ era, r.session.pool.era ≤ era →
      stepped.session.pool.locks era key = r.session.pool.locks era key)
    (found : r.session.pool.writers.get? key = none → stepped.session.pool.writers.get? key = none)
    (before : ∀ era stage, r.session.pool.era ≤ era →
      r.session.active task ≠ some (.lookup key era stage))
    (after : ∀ era stage, r.session.pool.era ≤ era →
      stepped.activity? ≠ some (.lookup key era stage)) : r'.session.Reserved key := by
  rw [← takes.pool] at era locks found
  refine reserved.congr era locks (fun other era stage late => ?_) found
  by_cases same : other = task
  · rw [same, takes.active_self]
    exact ⟨fun under => absurd under (after era stage late),
      fun under => absurd under (before era stage late)⟩
  · rw [takes.active_other same]

/-- A turn that has nothing to do with searches, and leaves the pool's locks alone. -/
theorem Takes.reserved_within {id : WriterId} (takes : Takes r r' task stepped)
    (reserved : r.session.Reserved key) (within : Session.Within id r.session.fresh stepped.session)
    (before : ∀ era stage, r.session.active task ≠ some (.lookup key era stage))
    (after : ∀ era stage, stepped.activity? ≠ some (.lookup key era stage)) :
    r'.session.Reserved key :=
  takes.reserved_congr reserved within.pool_era (fun _ _ => by rw [within.pool_locks]; rfl)
    within.vacant (fun era stage _ => before era stage) fun era stage _ => after era stage

theorem Takes.reserved_other {era : Nat} {other : Key} (takes : Takes r r' task stepped)
    (reserved : r.session.Reserved key) (confined : Confined other era r.session.fresh stepped)
    (different : key ≠ other) (before : ∀ era stage,
      r.session.active task ≠ some (.lookup key era stage)) : r'.session.Reserved key := by
  refine takes.reserved_congr reserved confined.sameEra
    (fun era _ => confined.locks era key (.inl different)) (fun vacant => ?_)
    (fun era stage _ => before era stage) fun era stage _ under => ?_
  · exact (confined.writers key different).trans vacant
  · obtain ⟨stage, same⟩ := confined.activity _ under
    cases same
    exact different rfl

/-- A search from before the pool was closed may do anything but open a writer. -/
theorem Takes.reserved_overtaken {era : Nat} {stage : LookupStage σ}
    (takes : Takes r r' task stepped) (reserved : r.session.Reserved key)
    (confined : Confined key era r.session.fresh stepped)
    (under : r.session.active task = some (.lookup key era stage)) (early : era < r.session.pool.era)
    (found : r.session.pool.writers.get? key = none →
      stepped.session.pool.writers.get? key = none) : r'.session.Reserved key := by
  refine takes.reserved_congr reserved confined.sameEra (fun later late => ?_) found
    (fun later stage late => ?_) fun later stage late goes => ?_
  · exact confined.locks later key (.inr (by omega))
  · rw [under]
    rintro ⟨⟩
    omega
  · obtain ⟨stage, same⟩ := confined.activity _ goes
    cases same
    omega

/-- A search for the stream itself. What is left to show is that the lock stays in order. -/
theorem Takes.reserved_change (takes : Takes r r' task stepped) (reserved : r.session.Reserved key)
    (confined : Confined key r.session.pool.era r.session.fresh stepped)
    (guards : (stepped.session.pool.locks r.session.pool.era key).Guards (r'.session.Preparing key)
      (r'.session.Seeking key))
    (vacant : ∀ task, r'.session.Preparing key task →
      stepped.session.pool.writers.get? key = none) : r'.session.Reserved key where
  era_le {other era stage} under := by
    rw [takes.pool, confined.sameEra]
    by_cases same : other = task
    · rw [same, takes.active_self] at under
      obtain ⟨stage, same⟩ := confined.activity _ under
      cases same
      exact Nat.le_refl _
    · rw [takes.active_other same] at under
      exact reserved.era_le under
  unused {era} late := by
    rw [takes.pool, confined.sameEra] at late
    rw [takes.pool, confined.locks era key (.inr (Nat.ne_of_gt late))]
    exact reserved.unused late
  guards := by
    rw [takes.pool, confined.sameEra]
    exact guards
  vacant other preparing := by
    rw [takes.pool]
    exact vacant other preparing

/-- Unless the task goes on to prepare the stream, those who do are the others who did. -/
theorem Takes.preparing_iff (takes : Takes r r' task stepped)
    (era : stepped.session.pool.era = r.session.pool.era)
    (silent : ∀ stage, stepped.activity? ≠ some (.lookup key r.session.pool.era (.preparing stage)))
    (other : TaskId) :
    r'.session.Preparing key other ↔ r.session.Preparing key other ∧ other ≠ task := by
  by_cases same : other = task
  · subst same
    simp [Session.Preparing, takes.active_self, takes.pool, era, silent]
  · simp [Session.Preparing, takes.active_other same, takes.pool, era, same]

/-- Unless the task goes on to wait for the lock, those who do are the others who did. -/
theorem Takes.seeking_iff (takes : Takes r r' task stepped)
    (era : stepped.session.pool.era = r.session.pool.era)
    (away : stepped.activity? ≠ some (.lookup key r.session.pool.era .queued)) (other : TaskId) :
    r'.session.Seeking key other ↔ r.session.Seeking key other ∧ other ≠ task := by
  by_cases same : other = task
  · subst same
    simp [Session.Seeking, takes.active_self, takes.pool, era, away]
  · simp [Session.Seeking, takes.active_other same, takes.pool, era, same]

theorem Takes.reserved_letGo {p : Pool} {result : Except Fault Answer}
    (takes : Takes r r' task stepped) (reserved : r.session.Reserved key)
    (confined : Confined key r.session.pool.era r.session.fresh stepped)
    (pool : stepped.session.pool = p.letGo r.session.pool.era key)
    (ended : stepped.progress = .finished result)
    (alone : ∀ other, r.session.Preparing key other → other = task)
    (guards : (p.locks r.session.pool.era key).Guards (· = task) fun other =>
      r.session.Seeking key other ∧ other ≠ task) : r'.session.Reserved key := by
  have gone : stepped.activity? = none := by rw [Stepped.activity?, ended]
  have era : stepped.session.pool.era = r.session.pool.era := confined.sameEra
  have preparing : ∀ other, ¬ r'.session.Preparing key other := by
    intro other prepares
    obtain ⟨prepares, different⟩ := (takes.preparing_iff era (by simp [gone]) other).1 prepares
    exact different (alone other prepares)
  refine takes.reserved_change reserved confined ?_ fun other prepares =>
    absurd prepares (preparing other)
  rw [pool, Pool.letGo, Pool.setLock_self]
  exact guards.release.congr (fun other => ⟨preparing other, False.elim⟩)
    (takes.seeking_iff era (by simp [gone]))

theorem Takes.reserved_prepared {s : Session τ σ κ} {lock : Mutex} (takes : Takes r r' task stepped)
    (reserved : r.session.Reserved key)
    (pool : s.pool = r.session.pool.setLock r.session.pool.era key lock)
    (unregistered : s.pool.writers.get? key = none)
    (prepared : Prepared key r.session.pool.era s stepped)
    (alone : ∀ other, r.session.Preparing key other → other = task)
    (guards : lock.Guards (· = task) fun other => r.session.Seeking key other ∧ other ≠ task) :
    r'.session.Reserved key := by
  have confined : Confined key r.session.pool.era r.session.fresh stepped :=
    prepared.confined.of_locked pool
  have locked : s.pool.locks r.session.pool.era key = lock := by rw [pool, Pool.setLock_self]
  rw [← locked] at guards
  cases prepared with
  | @waits s' stage writers pool' =>
    have era : s'.pool.era = r.session.pool.era := confined.sameEra
    have preparing : ∀ other, r'.session.Preparing key other ↔ other = task := by
      intro other
      constructor
      · rintro ⟨stage', under⟩
        by_cases same : other = task
        · exact same
        · refine alone other ⟨stage', ?_⟩
          rwa [takes.active_other same, takes.pool, era] at under
      · rintro rfl
        refine ⟨stage, ?_⟩
        rw [takes.active_self, takes.pool, era]
        rfl
    refine takes.reserved_change reserved confined ?_ fun _ _ => ?_
    · rw [pool']
      exact guards.congr preparing (takes.seeking_iff era (by simp [Stepped.activity?]))
    · rwa [pool']
  | failed _ pool' => exact takes.reserved_letGo reserved confined pool' rfl alone guards
  | opened _ pool' => exact takes.reserved_letGo reserved confined pool' rfl alone guards

theorem Takes.reserved_found {s : Session τ σ κ} {lock : Mutex} (takes : Takes r r' task stepped)
    (reserved : r.session.Reserved key)
    (pool : s.pool = r.session.pool.setLock r.session.pool.era key lock)
    (found : Found key r.session.pool.era s stepped)
    (alone : ∀ other, r.session.Preparing key other → other = task)
    (guards : lock.Guards (· = task) fun other => r.session.Seeking key other ∧ other ≠ task) :
    r'.session.Reserved key := by
  cases found with
  | missing unregistered prepared =>
    exact takes.reserved_prepared reserved pool unregistered prepared alone guards
  | @there s' id there writers pool' =>
    have confined : Confined key r.session.pool.era r.session.fresh
        ⟨s', .finished (.ok (.writer id))⟩ :=
      (Found.there there writers pool').confined.of_locked pool
    have locked : s.pool.locks r.session.pool.era key = lock := by rw [pool, Pool.setLock_self]
    exact takes.reserved_letGo reserved confined pool' rfl alone (locked ▸ guards)

/-- A turn in which a search only has to do with the queue of its stream's lock. -/
theorem Takes.reserved_requeue {lock : Mutex} (takes : Takes r r' task stepped)
    (reserved : r.session.Reserved key)
    (pool : stepped.session.pool = r.session.pool.setLock r.session.pool.era key lock)
    (unprepared : ¬ r.session.Preparing key task)
    (after : ∀ activity, stepped.activity? = some activity →
      activity = .lookup key r.session.pool.era .queued)
    (guards : lock.Guards (r.session.Preparing key) (r'.session.Seeking key)) :
    r'.session.Reserved key := by
  have confined : Confined key r.session.pool.era r.session.fresh stepped :=
    .of_lock pool fun activity goes => ⟨_, after activity goes⟩
  have preparing : ∀ other, r'.session.Preparing key other ↔ r.session.Preparing key other := by
    intro other
    rw [takes.preparing_iff confined.sameEra fun stage goes => by cases after _ goes]
    exact and_iff_left_of_imp fun prepares same => unprepared (same ▸ prepares)
  refine takes.reserved_change reserved confined ?_ fun other prepares => ?_
  · rw [pool, Pool.setLock_self]
    exact guards.congr preparing fun _ => Iff.rfl
  · rw [pool]
    exact reserved.vacant other ((preparing other).1 prepares)

/-- A turn of a search in a pool that was never closed. What is left to show is that its own stream
is in order. -/
theorem Takes.pooled_confined (takes : Takes r r' task stepped) (pooled : r.session.Pooled)
    (confined : Confined key r.session.pool.era r.session.fresh stepped)
    (before : ∀ other era stage, r.session.active task = some (.lookup other era stage) →
      other = key)
    (reserved : r'.session.Reserved key) (registered : stepped.session.Registered) :
    r'.session.Pooled where
  current {other key' era stage} under := by
    rw [takes.pool, confined.sameEra]
    by_cases same : other = task
    · rw [same, takes.active_self] at under
      obtain ⟨stage, same⟩ := confined.activity _ under
      cases same
      rfl
    · rw [takes.active_other same] at under
      exact pooled.current under
  reserved other := by
    by_cases same : other = key
    · exact same ▸ reserved
    · exact takes.reserved_other (pooled.reserved other) confined same fun era stage under =>
        same (before other era stage under)
  registered := takes.registered registered

variable [Transport τ σ κ]

/-- A search takes a free lock, or one that it was granted. -/
theorem Takes.reserved_prepare {lock : Mutex}
    (takes : Takes r r' task ((r.session.fresh.setKeyLock r.session.pool.era key lock).prepare key
      r.session.pool.era))
    (reserved : r.session.Reserved key)
    (unheld : (r.session.pool.locks r.session.pool.era key).held = false)
    (guards : lock.Guards (· = task) fun other => r.session.Seeking key other ∧ other ≠ task) :
    r'.session.Reserved key := by
  let locked := r.session.fresh.setKeyLock r.session.pool.era key lock
  refine takes.reserved_found (s := locked) reserved rfl (Session.found_prepare _)
    (fun other preparing => ?_) guards
  rw [reserved.guards.held.2 ⟨other, preparing⟩] at unheld
  cases unheld

theorem Takes.reserved_startLookup (takes : Takes r r' task (r.session.fresh.startLookup task key))
    (reserved : r.session.Reserved key) (idle : r.session.active task = none) :
    r'.session.Reserved key := by
  have guards := reserved.guards
  have away : ∀ other, r.session.Seeking key other → other ≠ task := by
    rintro other seeking rfl
    simp [Session.Seeking, idle] at seeking
  unfold Session.startLookup at takes
  split at takes
  · exact takes.reserved_congr reserved rfl (fun _ _ => rfl) (fun vacant => vacant) (by simp [idle])
      (by simp [Stepped.activity?, Session.finished])
  · dsimp only at takes
    split at takes
    · rename_i available
      have available : (r.session.pool.locks r.session.pool.era key).available = true := available
      apply takes.reserved_prepare reserved (Mutex.available_iff.1 available).1
      exact (guards.take available task).congr (fun _ => Iff.rfl) fun other =>
        and_iff_left_of_imp (away other)
    · have outside : ¬ r.session.Seeking key task := fun seeking => away task seeking rfl
      refine takes.reserved_requeue reserved rfl ?_ ?_
        ((guards.join outside).congr (fun _ => Iff.rfl) fun other => ?_)
      · rintro ⟨stage, under⟩
        simp [idle] at under
      · rintro activity ⟨⟩
        rfl
      · by_cases same : other = task
        · subst same
          simp [Session.Seeking, takes.active_self, takes.pool, Stepped.activity?,
            Session.suspended, Session.setKeyLock]
        · have era : r'.session.pool.era = r.session.pool.era := by rw [takes.pool]; rfl
          simp [Session.Seeking, takes.active_other same, era, same]

theorem Takes.reserved_resumeLookup {stage : LookupStage σ} {signal : Signal}
    (takes : Takes r r' task
      (r.session.fresh.resumeLookup task key r.session.pool.era stage signal))
    (reserved : r.session.Reserved key)
    (under : r.session.active task = some (.lookup key r.session.pool.era stage)) :
    r'.session.Reserved key := by
  have guards := reserved.guards
  cases stage with
  | queued =>
    have unprepared : ¬ r.session.Preparing key task := by
      rintro ⟨stage, preparing⟩
      simp [under] at preparing
    cases signal with
    | ready =>
      simp only [Session.resumeLookup] at takes
      split at takes
      · rename_i granted
        have granted : (r.session.pool.locks r.session.pool.era key).isGranted task = true := granted
        have unheld := (guards.granted task (Mutex.isGranted_iff.1 granted)).1
        exact takes.reserved_prepare reserved unheld (guards.enter granted)
      · -- a task that was woken early goes on waiting
        have kept : r'.session.active = r.session.active := takes.active_unchanged under.symm
        refine takes.reserved_requeue reserved (Pool.setLock_locks ..).symm unprepared ?_
          (guards.congr (fun _ => Iff.rfl) fun other => ?_)
        · rintro activity ⟨⟩
          rfl
        · have era : r'.session.pool.era = r.session.pool.era := by rw [takes.pool]; rfl
          rw [Session.Seeking, kept, era]
          rfl
    | expired | interrupted =>
      let left := (r.session.fresh.setKeyLock r.session.pool.era key
        ((r.session.pool.locks r.session.pool.era key).leave task).1).wake
          ((r.session.pool.locks r.session.pool.era key).leave task).2
      have pool : left.pool = r.session.pool.setLock r.session.pool.era key
        ((r.session.pool.locks r.session.pool.era key).leave task).1 := Session.wake_pool ..
      refine takes.reserved_requeue reserved pool unprepared ?_
        ((guards.leave task).congr (fun _ => Iff.rfl) (takes.seeking_iff ?_ ?_))
      · rintro activity ⟨⟩
      · exact (congrArg (·.era) pool).trans rfl
      · rintro ⟨⟩
  | preparing stage =>
    have prepares : r.session.Preparing key task := ⟨stage, under⟩
    have alone : ∀ other, r.session.Preparing key other → other = task := fun other preparing =>
      guards.alone other task preparing prepares
    refine takes.reserved_prepared (s := r.session.fresh) reserved (Pool.setLock_locks ..).symm
      (reserved.vacant task prepares) (Session.prepared_preparing _ task stage signal) alone
      (guards.congr (fun other => ?_) fun other => ?_)
    · exact ⟨fun same => same ▸ prepares, alone other⟩
    · apply and_iff_left_of_imp
      intro seeking same
      rw [Session.Seeking, same, under] at seeking
      cases seeking

theorem Takes.pooled_startLookup (takes : Takes r r' task (r.session.fresh.startLookup task key))
    (pooled : r.session.Pooled) (idle : r.session.active task = none) : r'.session.Pooled := by
  have registered : r.session.fresh.Registered := pooled.registered.of_same rfl rfl
  exact takes.pooled_confined pooled (Session.confined_startLookup (s := r.session.fresh) task)
    (by simp [idle]) (takes.reserved_startLookup (pooled.reserved key) idle)
    (registered.startLookup task)

theorem Takes.pooled_resumeLookup {stage : LookupStage σ} {signal : Signal}
    (takes : Takes r r' task
      (r.session.fresh.resumeLookup task key r.session.pool.era stage signal))
    (pooled : r.session.Pooled)
    (under : r.session.active task = some (.lookup key r.session.pool.era stage)) :
    r'.session.Pooled := by
  have registered : r.session.fresh.Registered := pooled.registered.of_same rfl rfl
  refine takes.pooled_confined pooled (Session.confined_resumeLookup task stage signal)
    (fun other era stage' under' => ?_) (takes.reserved_resumeLookup (pooled.reserved key) under)
    (registered.resumeLookup task fun preparing same => ?_)
  · cases under.symm.trans under'
    rfl
  · subst same
    exact (pooled.reserved key).vacant task ⟨preparing, under⟩

end Turns
end SequenceLog

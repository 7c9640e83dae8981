import SequenceLog.Proofs.Registration
import SequenceLog.Proofs.Turn
/-! Searches for writers. The lock of a stream guards the time in which the stream is prepared, so that
a writer is registered only where there is none, and whoever is given a writer is given an active
one. -/
namespace SequenceLog
variable {τ σ κ μ χ : Type}

namespace Session

def Preparing (s : Session τ σ κ) (key : Key) (task : TaskId) : Prop :=
  ∃ stage, s.active task = some (.lookup key s.pool.era (.preparing stage))

def Seeking (s : Session τ σ κ) (key : Key) (task : TaskId) : Prop :=
  s.active task = some (.lookup key s.pool.era .queued)

/-- The lock of a stream is in use as it should be. Searches from before the pool was closed have other
locks; those of the times to come are free. -/
structure Reserved (s : Session τ σ κ) (key : Key) : Prop where
  era_le : ∀ {task era stage}, s.active task = some (.lookup key era stage) → era ≤ s.pool.era
  unused : ∀ {era}, s.pool.era < era → s.pool.locks era key = .free
  guards : (s.pool.locks s.pool.era key).Guards (s.Preparing key) (s.Seeking key)
  vacant : ∀ task, s.Preparing key task → s.pool.writers.get? key = none

theorem Reserved.new (transport : τ) (createStreams : Bool) (maxAttempts : Int) (key : Key) :
    (Session.new transport (.new createStreams maxAttempts) : Session τ σ κ).Reserved key where
  era_le under := by cases under
  unused _ := rfl
  guards := Mutex.guards_free.congr (fun _ => by simp [Preparing, Session.new])
    fun _ => by simp [Seeking, Session.new]
  vacant _ preparing := by simp [Preparing, Session.new] at preparing

/-- A change that has nothing to do with the searches for the stream. Those from before the pool was
closed do not matter. -/
theorem Reserved.congr {s s' : Session τ σ κ} {key : Key} (reserved : s.Reserved key)
    (era : s'.pool.era = s.pool.era)
    (locks : ∀ era, s.pool.era ≤ era → s'.pool.locks era key = s.pool.locks era key)
    (lookups : ∀ task era stage, s.pool.era ≤ era →
      (s'.active task = some (.lookup key era stage) ↔ s.active task = some (.lookup key era stage)))
    (found : s.pool.writers.get? key = none → s'.pool.writers.get? key = none) :
    s'.Reserved key where
  era_le {task other stage} under := by
    rw [era]
    by_cases late : s.pool.era ≤ other
    · exact reserved.era_le ((lookups task other stage late).1 under)
    · omega
  unused {other} late := by
    rw [era] at late
    rw [locks other (by omega)]
    exact reserved.unused late
  guards := by
    rw [era, locks _ (Nat.le_refl _)]
    refine reserved.guards.congr (fun task => ?_) fun task => ?_
    · simp only [Preparing, era, lookups _ _ _ (Nat.le_refl _)]
    · simp only [Seeking, era, lookups _ _ _ (Nat.le_refl _)]
  vacant task preparing := by
    refine found (reserved.vacant task ?_)
    simpa only [Preparing, era, lookups _ _ _ (Nat.le_refl _)] using preparing

theorem Reserved.of_same {s s' : Session τ σ κ} {key : Key} (reserved : s.Reserved key)
    (active : s'.active = s.active) (pool : s'.pool = s.pool) : s'.Reserved key :=
  reserved.congr (by rw [pool]) (by simp [pool]) (by simp [active]) fun vacant => by rwa [pool]

/-- Closing the pool starts afresh, whatever searches there are. -/
theorem Reserved.close {s : Session τ σ κ} {key : Key} (reserved : s.Reserved key) :
    s.closePool.Reserved key where
  era_le under := Nat.le_succ_of_le (reserved.era_le under)
  unused {era} late := reserved.unused (Nat.lt_of_succ_lt late)
  guards := by
    have nobody : ∀ task stage,
        s.active task ≠ some (.lookup key (s.pool.era + 1) stage) := by
      intro task stage under
      have := reserved.era_le under
      omega
    have free : s.pool.locks (s.pool.era + 1) key = .free := reserved.unused (Nat.lt_succ_self _)
    have guards := free ▸ Mutex.guards_free
    exact guards.congr (fun task => ⟨fun ⟨stage, under⟩ => nobody task _ under, False.elim⟩)
      fun task => ⟨fun under => nobody task _ under, False.elim⟩
  vacant _ _ := Table.get?_empty _

end Session

namespace Pool
variable (p : Pool) (era : Nat) (key : Key) (m : Mutex)

@[simp] theorem setLock_writers : (p.setLock era key m).writers = p.writers := rfl
@[simp] theorem setLock_era : (p.setLock era key m).era = p.era := rfl

@[simp] theorem setLock_self : (p.setLock era key m).locks era key = m := by
  simp [setLock]

theorem setLock_locks : p.setLock era key (p.locks era key) = p := by
  have same : (p.setLock era key (p.locks era key)).locks = p.locks := by
    funext e k
    simp only [setLock]
    split
    · rename_i h
      rw [h.1, h.2]
    · rfl
  exact congrArg (fun locks => { p with locks := locks }) same

theorem setLock_elsewhere {e : Nat} {other : Key} (elsewhere : other ≠ key ∨ e ≠ era) :
    (p.setLock era key m).locks e other = p.locks e other :=
  if_neg fun same => elsewhere.elim (absurd same.2) (absurd same.1)

def letGo : Pool := p.setLock era key (p.locks era key).release.1

end Pool

/-- How a turn ends in which a stream is prepared: that is not over, no writer can be opened, or one is
and is registered. -/
inductive Prepared (key : Key) (era : Nat) (s : Session τ σ κ) : Stepped τ σ κ → Prop
  | waits {s' stage} : s'.writers = s.writers → s'.pool = s.pool →
      Prepared key era s ⟨s', .suspended (.lookup key era (.preparing stage))⟩
  | failed {s' fault} : s'.writers = s.writers → s'.pool = s.pool.letGo era key →
      Prepared key era s ⟨s', .finished (.error fault)⟩
  | opened {s' w} : s'.writers = s.writers ++ [w] →
      s'.pool = (s.pool.register key s.writers.length).letGo era key →
      w.key = key → w.registry = .pool → w.status = .active →
      Prepared key era s ⟨s', .finished (.ok (.writer s.writers.length))⟩

/-- How a turn ends that a search has with the lock of its stream: a writer is there after all, or the
stream is prepared. -/
inductive Found (key : Key) (era : Nat) (s : Session τ σ κ) : Stepped τ σ κ → Prop
  | there {s' id} : s.pool.writers.get? key = some id → s'.writers = s.writers →
      s'.pool = s.pool.letGo era key → Found key era s ⟨s', .finished (.ok (.writer id))⟩
  | missing {stepped} : s.pool.writers.get? key = none → Prepared key era s stepped →
      Found key era s stepped

theorem Prepared.congr {key : Key} {era : Nat} {s s' : Session τ σ κ} {stepped : Stepped τ σ κ}
    (prepared : Prepared key era s stepped) (writers : s.writers = s'.writers)
    (pool : s.pool = s'.pool) : Prepared key era s' stepped := by
  obtain ⟨transport, pool, writers, active, happened⟩ := s'
  cases writers
  cases pool
  cases prepared with
  | waits writers pool => exact .waits writers pool
  | failed writers pool => exact .failed writers pool
  | opened writers pool sameKey registry status => exact .opened writers pool sameKey registry status

namespace Session
variable {s : Session τ σ κ} {key : Key}

theorem releaseKey_writers (era : Nat) : (s.releaseKey era key).writers = s.writers := by
  rw [releaseKey, wake_writers]
  rfl

theorem releaseKey_pool (era : Nat) : (s.releaseKey era key).pool = s.pool.letGo era key := by
  rw [releaseKey, wake_pool]
  rfl

theorem releaseKey_transport (era : Nat) : (s.releaseKey era key).transport = s.transport := by
  rw [releaseKey, wake_transport]
  rfl

theorem prepared_openPrepared (era : Nat) (token : Except Fault Token) :
    Prepared key era s (s.openPrepared key era token) := by
  unfold openPrepared
  split
  · exact .failed (releaseKey_writers _) (releaseKey_pool _)
  · rename_i w opened
    have opened : ∃ token, Writer.new? key .pool token s.pool.maxAttempts = .ok w := by
      cases token with
      | error fault => cases opened
      | ok token => exact ⟨token, opened⟩
    obtain ⟨token, opened⟩ := opened
    obtain ⟨sameKey, registry, -, status, -⟩ := Writer.new?_ok opened
    refine .opened ?_ ?_ sameKey registry status
    · rw [releaseKey_writers]
      rfl
    · exact releaseKey_pool _

variable [Transport τ σ κ]

theorem found_prepare (era : Nat) : Found key era s (s.prepare key era) := by
  unfold prepare
  split
  · rename_i id there
    exact .there there (releaseKey_writers _) (releaseKey_pool _)
  · rename_i vacant
    refine .missing vacant ?_
    split
    · dsimp only
      split
      · exact .waits rfl rfl
      · exact (prepared_openPrepared (s := s.absorb _) era _).congr rfl rfl
    · exact prepared_openPrepared era _

theorem prepared_preparing (era : Nat) (task : TaskId) (stage : σ) (signal : Signal) :
    Prepared key era s (s.resumeLookup task key era (.preparing stage) signal) := by
  simp only [resumeLookup]
  split
  · exact .waits rfl rfl
  · exact (prepared_openPrepared (s := s.absorb _) era _).congr rfl rfl

end Session

/-- A turn of a search changes the pool for its own stream alone. -/
structure Confined (key : Key) (era : Nat) (s : Session τ σ κ) (stepped : Stepped τ σ κ) : Prop where
  sameEra : stepped.session.pool.era = s.pool.era
  locks : ∀ e other, other ≠ key ∨ e ≠ era →
    stepped.session.pool.locks e other = s.pool.locks e other
  writers : ∀ other, other ≠ key →
    stepped.session.pool.writers.get? other = s.pool.writers.get? other
  activity : ∀ activity, stepped.activity? = some activity → ∃ stage, activity = .lookup key era stage

section Confined
variable {key : Key} {era : Nat} {s s' : Session τ σ κ} {stepped : Stepped τ σ κ}

/-- A turn that ends with the lock of the stream changed, and perhaps a writer registered. -/
theorem Confined.of_pool {p : Pool} {lock : Mutex}
    (pool : stepped.session.pool = p.setLock era key lock) (sameEra : p.era = s.pool.era)
    (locks : ∀ e other, other ≠ key ∨ e ≠ era → p.locks e other = s.pool.locks e other)
    (writers : ∀ other, other ≠ key → p.writers.get? other = s.pool.writers.get? other)
    (activity : ∀ activity, stepped.activity? = some activity → ∃ stage,
      activity = .lookup key era stage) : Confined key era s stepped where
  sameEra := by rw [pool, Pool.setLock_era, sameEra]
  locks e other elsewhere := by
    rw [pool, Pool.setLock_elsewhere _ _ _ _ elsewhere, locks e other elsewhere]
  writers other different := by rw [pool, Pool.setLock_writers, writers other different]
  activity := activity

theorem Confined.of_lock {lock : Mutex}
    (pool : stepped.session.pool = s.pool.setLock era key lock)
    (activity : ∀ activity, stepped.activity? = some activity → ∃ stage,
      activity = .lookup key era stage) : Confined key era s stepped :=
  .of_pool pool rfl (fun _ _ _ => rfl) (fun _ _ => rfl) activity

theorem Confined.of_same (pool : stepped.session.pool = s.pool)
    (activity : ∀ activity, stepped.activity? = some activity → ∃ stage,
      activity = .lookup key era stage) : Confined key era s stepped :=
  .of_lock (pool.trans (s.pool.setLock_locks era key).symm) activity

/-- Who holds the lock of the stream does not matter. -/
theorem Confined.of_locked {lock : Mutex} (pool : s'.pool = s.pool.setLock era key lock)
    (confined : Confined key era s' stepped) : Confined key era s stepped where
  sameEra := by rw [confined.sameEra, pool, Pool.setLock_era]
  locks e other elsewhere := by
    rw [confined.locks e other elsewhere, pool, Pool.setLock_elsewhere _ _ _ _ elsewhere]
  writers other different := by rw [confined.writers other different, pool, Pool.setLock_writers]
  activity := confined.activity

theorem Prepared.confined (prepared : Prepared key era s stepped) : Confined key era s stepped := by
  cases prepared with
  | waits _ pool => exact .of_same pool fun _ goes => by cases goes; exact ⟨_, rfl⟩
  | failed _ pool => exact .of_lock pool fun _ goes => by cases goes
  | opened _ pool =>
    refine .of_pool pool rfl (fun _ _ _ => rfl) (fun other different => ?_) fun _ goes => by cases goes
    exact Table.get?_insert_other _ _ different

theorem Found.confined (found : Found key era s stepped) : Confined key era s stepped := by
  cases found with
  | there _ _ pool => exact .of_lock pool fun _ goes => by cases goes
  | missing _ prepared => exact prepared.confined

variable [Transport τ σ κ]

theorem Session.confined_startLookup (task : TaskId) :
    Confined key s.pool.era s (s.startLookup task key) := by
  unfold startLookup
  split
  · exact .of_same rfl fun _ goes => by cases goes
  · dsimp only
    split
    · exact .of_locked rfl (found_prepare (s := s.setKeyLock _ _ _) _).confined
    · exact .of_lock rfl fun _ goes => by cases goes; exact ⟨_, rfl⟩

theorem Session.confined_resumeLookup (task : TaskId) (stage : LookupStage σ) (signal : Signal) :
    Confined key era s (s.resumeLookup task key era stage signal) := by
  cases stage with
  | queued =>
    cases signal with
    | ready =>
      simp only [resumeLookup]
      split
      · exact .of_locked rfl (found_prepare (s := s.setKeyLock _ _ _) _).confined
      · exact .of_same rfl fun _ goes => by cases goes; exact ⟨_, rfl⟩
    | expired | interrupted => exact .of_lock (wake_pool ..) (fun _ goes => by cases goes)
  | preparing stage => exact (prepared_preparing era task stage signal).confined

end Confined

section Registered
variable {key : Key} {era : Nat} {s : Session τ σ κ} {stepped : Stepped τ σ κ}

theorem Prepared.registered (prepared : Prepared key era s stepped) (registered : s.Registered)
    (vacant : s.pool.writers.get? key = none) : stepped.session.Registered := by
  cases prepared with
  | waits writers pool => exact registered.of_same (congrArg (·.writers) pool) writers
  | failed writers pool => exact registered.of_same (by rw [pool]; rfl) writers
  | opened writers pool sameKey registry status =>
    exact registered.register writers status registry (by rw [sameKey, vacant])
      (by rw [pool, sameKey]; rfl)

theorem Found.registered (found : Found key era s stepped) (registered : s.Registered) :
    stepped.session.Registered := by
  cases found with
  | there _ writers pool => exact registered.of_same (by rw [pool]; rfl) writers
  | missing vacant prepared => exact prepared.registered registered vacant

variable [Transport τ σ κ]

theorem Session.Registered.startLookup (registered : s.Registered) (task : TaskId) :
    (s.startLookup task key).session.Registered := by
  unfold Session.startLookup
  split
  · exact registered
  · dsimp only
    split
    · exact (found_prepare (s := s.setKeyLock _ _ _) _).registered (registered.of_same rfl rfl)
    · exact registered.of_same rfl rfl

theorem Session.Registered.resumeLookup (registered : s.Registered) (task : TaskId)
    {stage : LookupStage σ} {signal : Signal}
    (vacant : ∀ preparing, stage = .preparing preparing → s.pool.writers.get? key = none) :
    (s.resumeLookup task key era stage signal).session.Registered := by
  cases stage with
  | queued =>
    cases signal with
    | ready =>
      simp only [Session.resumeLookup]
      split
      · exact (found_prepare (s := s.setKeyLock _ _ _) _).registered (registered.of_same rfl rfl)
      · exact registered
    | expired | interrupted =>
      exact registered.of_same (congrArg (·.writers) (wake_pool ..)) (wake_writers ..)
  | preparing stage =>
    exact (prepared_preparing era task stage signal).registered registered (vacant stage rfl)

end Registered

/-- What the turn of a search does to the registration of its stream: whoever is registered stays so
and nobody else is given, or a new writer is registered where there was none and given. -/
inductive Registers (key : Key) (s : Session τ σ κ) (stepped : Stepped τ σ κ) : Prop
  | keeps : stepped.session.pool.writers.get? key = s.pool.writers.get? key →
      (∀ id, stepped.result? = some (.ok (.writer id)) → s.pool.writers.get? key = some id) →
      Registers key s stepped
  | fills : s.pool.writers.get? key = none →
      stepped.session.pool.writers.get? key = some s.writers.length →
      stepped.session.Made key s.writers.length →
      stepped.result? = some (.ok (.writer s.writers.length)) → Registers key s stepped

section Registers
variable {key : Key} {era : Nat} {s s' : Session τ σ κ} {stepped : Stepped τ σ κ}

theorem Registers.of_locked (registers : Registers key s' stepped)
    (pool : s'.pool.writers = s.pool.writers) (writers : s'.writers = s.writers) :
    Registers key s stepped := by
  cases registers with
  | keeps same given =>
    rw [pool] at same given
    exact .keeps same given
  | fills vacant registered made given =>
    rw [pool] at vacant
    rw [writers] at registered made given
    exact .fills vacant registered made given

theorem Prepared.registers (prepared : Prepared key era s stepped)
    (vacant : stepped.result? = some (.ok (.writer s.writers.length)) →
      s.pool.writers.get? key = none) : Registers key s stepped := by
  cases prepared with
  | waits _ pool => exact .keeps (congrArg (·.writers.get? key) pool) fun _ given => by cases given
  | failed _ pool => exact .keeps (congrArg (·.writers.get? key) pool) fun _ given => by cases given
  | @opened s' w writers pool sameKey registry =>
    refine .fills (vacant rfl) ?_ ⟨?_, ?_⟩ rfl
    · rw [pool]
      exact Table.get?_insert_self ..
    · simp [writers]
    · rw [Session.writer_new writers]
      exact ⟨sameKey, registry⟩

theorem Found.registers (found : Found key era s stepped) : Registers key s stepped := by
  cases found with
  | @there s' id there _ pool =>
    refine .keeps (congrArg (·.writers.get? key) pool) fun other given => ?_
    cases given
    exact there
  | missing vacant prepared => exact prepared.registers fun _ => vacant

variable [Transport τ σ κ]

theorem Session.registers_startLookup (task : TaskId) :
    Registers key s (s.startLookup task key) := by
  unfold startLookup
  split
  · rename_i there
    refine .keeps rfl fun id given => ?_
    cases given
    exact there
  · dsimp only
    split
    · exact (found_prepare (s := s.setKeyLock _ _ _) _).registers.of_locked rfl rfl
    · exact .keeps rfl fun _ given => by cases given

theorem Session.registers_resumeLookup (task : TaskId) {stage : LookupStage σ} {signal : Signal}
    (vacant : ∀ preparing, stage = .preparing preparing →
      (s.resumeLookup task key era stage signal).result? = some (.ok (.writer s.writers.length)) →
      s.pool.writers.get? key = none) :
    Registers key s (s.resumeLookup task key era stage signal) := by
  cases stage with
  | queued =>
    cases signal with
    | ready =>
      simp only [resumeLookup]
      split
      · exact (found_prepare (s := s.setKeyLock _ _ _) _).registers.of_locked rfl rfl
      · exact .keeps rfl fun _ given => by cases given
    | expired | interrupted =>
      exact .keeps (congrArg (·.writers.get? key) (wake_pool ..)) fun _ given => by cases given
  | preparing stage =>
    exact (prepared_preparing era task stage signal).registers (vacant stage rfl)

end Registers

/-- What a session is like where writers are removed from the pool by nobody but themselves, and where
it was never closed. -/
structure Session.Pooled (s : Session τ σ κ) : Prop where
  current : ∀ {task key era stage}, s.active task = some (.lookup key era stage) → era = s.pool.era
  reserved : ∀ key, s.Reserved key
  registered : s.Registered

theorem Session.Reserved.abandon {s : Session τ σ κ} {key : Key} (reserved : s.Reserved key)
    (task : TaskId) : (s.abandon task).Reserved key := by
  unfold Session.abandon
  split
  · rename_i other era under
    by_cases own : key = other ∧ era = s.pool.era
    · obtain ⟨rfl, rfl⟩ := own
      refine ⟨reserved.era_le, fun {later} late => ?_, ?_, reserved.vacant⟩
      · exact (Pool.setLock_elsewhere _ _ _ _ (.inr (Nat.ne_of_gt late))).trans (reserved.unused late)
      · have lock : (s.setKeyLock s.pool.era key
            ((s.pool.locks s.pool.era key).abandon task)).pool.locks s.pool.era key =
            (s.pool.locks s.pool.era key).abandon task := Pool.setLock_self ..
        exact lock.symm ▸ reserved.guards.abandon task
    · refine reserved.congr rfl (fun later late => ?_) (fun _ _ _ _ => Iff.rfl) fun vacant => vacant
      apply Pool.setLock_elsewhere
      by_cases same : key = other
      · subst same
        have := reserved.era_le under
        exact .inr fun equal => own ⟨rfl, by omega⟩
      · exact .inl same
  · exact reserved.of_same rfl rfl
  · exact reserved

namespace Session.Pooled
variable {s s' : Session τ σ κ}

theorem new (transport : τ) (createStreams : Bool) (maxAttempts : Int) :
    (Session.new transport (.new createStreams maxAttempts) : Session τ σ κ).Pooled where
  current under := by cases under
  reserved key := .new ..
  registered := .new ..

theorem of_same (pooled : s.Pooled) (active : s'.active = s.active) (pool : s'.pool = s.pool)
    (writers : s'.writers = s.writers) : s'.Pooled where
  current under := by
    rw [active] at under
    rw [pool, pooled.current under]
  reserved key := (pooled.reserved key).of_same active pool
  registered := pooled.registered.of_same (by rw [pool]) writers

theorem abandon (pooled : s.Pooled) (task : TaskId) : (s.abandon task).Pooled where
  current under := by
    unfold Session.abandon at under ⊢
    split at under <;> exact pooled.current under
  reserved key := (pooled.reserved key).abandon task
  registered := by
    unfold Session.abandon
    split
    · exact pooled.registered.of_same rfl rfl
    · rename_i id events under
      by_cases known : id < s.writers.length
      · exact pooled.registered.within (within_lock known _)
      · exact pooled.registered.of_same rfl
          (by simp [List.set_eq_of_length_le (Nat.le_of_not_lt known)])
    · exact pooled.registered

theorem openWriter (pooled : s.Pooled) {registry : Registry} (outside : registry ≠ .pool)
    (key : Key) (token : Token) (maxAttempts : Int) :
    (s.openWriter key registry token maxAttempts).session.Pooled := by
  unfold Session.openWriter
  split
  · exact pooled
  · rename_i w opened
    obtain ⟨-, same, -⟩ := Writer.new?_ok opened
    exact ⟨pooled.current, fun key => (pooled.reserved key).of_same rfl rfl,
      pooled.registered.open_outside rfl rfl (same ▸ outside)⟩

end Session.Pooled

/-- Whoever is given a writer is given an active one. -/
def Stepped.HandsOut (stepped : Stepped τ σ κ) : Prop :=
  ∀ id, stepped.result? = some (.ok (.writer id)) →
    id < stepped.session.writers.length ∧ (stepped.session.writer id).status = .active

theorem Session.Registered.handed {s : Session τ σ κ} (registered : s.Registered) {key : Key}
    {id : WriterId} (there : s.pool.writers.get? key = some id) :
    id < s.writers.length ∧ (s.writer id).status = .active :=
  ⟨(registered.made there).1, (registered.active_iff (registered.made there)).2 there⟩

theorem Registers.handsOut {s : Session τ σ κ} {key : Key} {stepped : Stepped τ σ κ}
    (registers : Registers key s stepped) (registered : s.Registered)
    (apart : s.Apart stepped.session) : stepped.HandsOut := by
  intro id handed
  cases registers with
  | keeps _ given =>
    obtain ⟨known, active⟩ := registered.handed (given id handed)
    rw [Session.writer_congr id (apart.getElem? known)]
    exact ⟨Nat.lt_of_lt_of_le known apart.longer, active⟩
  | fills _ _ made given =>
    cases given.symm.trans handed
    exact ⟨made.1, (apart.newborn (Nat.le_refl _) made.1).2⟩

end SequenceLog

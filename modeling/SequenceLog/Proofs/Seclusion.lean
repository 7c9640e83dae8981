import SequenceLog.Proofs.Mirroring
import SequenceLog.Proofs.Yield
/-! What is done for other streams. Searches for their writers, batches for these and whoever gives
up in one of their queues leave everything of a stream as it is, so that they are nothing to a
session which serves the stream alone. Main statements: `Session.beside_opening`,
`Session.beside_ongoing` and `Session.Mirrors.elsewhere`. -/
namespace SequenceLog

/-- What the second session has more than the first, or otherwise, belongs to other streams. -/
structure Session.Beside (s t : MemorySession) (key : Key) : Prop where
  extension : s.Extends t
  memory : s.transport.Beside t.transport key
  setUp : s.pool.SetUpAs t.pool
  era : t.pool.era = s.pool.era
  locks : ∀ era, t.pool.locks era key = s.pool.locks era key
  registered : t.pool.writers.get? key = s.pool.writers.get? key
  writer : ∀ {id}, id < s.writers.length → (s.writer id).key = key → t.writer id = s.writer id
  own : writersOn t.writers key = writersOn s.writers key

/-- A turn of an operation on another stream, which goes on with that stream if at all. -/
structure Stepped.Beside (s : MemorySession) (stepped : MemoryStepped) (key : Key) : Prop where
  session : s.Beside stepped.session key
  away : stepped.activity?.bind (Activity.key? stepped.session.writers) ≠ some key
  known : ∀ {id events stage}, stepped.activity? = some (.batch id events stage) →
    id < stepped.session.writers.length

/-- An operation of the pool or of one of its writers. -/
def Operation.OfPool : Operation → Prop
  | .getWriter _ | .write _ _ => True
  | _ => False

theorem Memory.upkeep_beside (m : Memory) (key : Key) :
    Upkeep (m.Beside · key) (fun asleep : SleepingAppend => key ≠ asleep.request.key)
      (key ≠ ·) where
  append {now} beside request away :=
    ⟨beside.trans (beside_append now away), fun stage waits =>
      ((adds_append now request).stage stage waits).symm ▸ away⟩
  ensureStream {now} beside other := by
    refine ⟨beside.trans (beside_ensureStream now other key), fun stage waits => ?_⟩
    obtain ⟨result, ended⟩ := now.ensureStream_finished other
    cases waits.symm.trans ended
  resume {now asleep} beside away signal :=
    ⟨beside.trans (beside_resume now asleep away signal), fun stage waits =>
      ((adds_resume now asleep signal).stage stage waits).symm ▸ away⟩

namespace Session
variable {s s' t : MemorySession} {key other : Key} {ρ : Renaming} {task : TaskId} {id : WriterId}
  {events : List LogEvent} {era : Nat} {stepped : MemoryStepped}

theorem Mirrors.beside (mirrors : s.Mirrors s' key ρ) (beside : s.Beside t key) :
    t.Mirrors s' key ρ where
  memory := mirrors.memory.beside beside.memory
  setUp := ⟨mirrors.setUp.1.trans beside.setUp.1.symm, mirrors.setUp.2.trans beside.setUp.2.symm⟩
  era := mirrors.era.trans beside.era.symm
  locks era := (mirrors.locks era).trans (beside.locks era).symm
  registered := beside.registered.symm ▸ mirrors.registered
  named := mirrors.named.trans beside.own.symm
  alone := mirrors.alone
  writer named := by
    obtain ⟨known, own, -⟩ := mirrors.known named
    exact (beside.writer known own).symm ▸ mirrors.writer named
  asked under :=
    Nat.lt_of_lt_of_le (mirrors.asked (beside.extension.active ▸ under)) beside.extension.longer
  tasks task := by
    rw [beside.extension.active]
    exact (mirrors.tasks task).congr fun id events stage under =>
      beside.extension.key (mirrors.asked under)

/-- The turn of a task that is at another stream is nothing to the session of the stream alone. -/
theorem Mirrors.elsewhere (mirrors : s.Mirrors s' key ρ) (beside : stepped.Beside s key)
    (idle : s'.active task = none) : (record task stepped).1.Mirrors s' key ρ := by
  have mirrors := mirrors.beside beside.session
  rw [record_eq]
  refine { mirrors with asked := fun {other id events stage} under => ?_,
                        tasks := fun other => ?_ }
  · by_cases mine : other = task
    · simp only [mine, if_true] at under
      exact beside.known under
    · simp only [mine, if_false] at under
      exact mirrors.asked under
  · by_cases mine : other = task
    · simp only [mine, if_true, idle]
      exact .elsewhere beside.away
    · simpa only [mine, if_false] using mirrors.tasks other

end Session

section Writers
variable {s : MemorySession} {key other : Key} {era : Nat} {stepped : MemoryStepped}

/-- The only writer that may be opened is one for the stream. -/
theorem Prepared.appended (prepared : Prepared other era s stepped) :
    stepped.session.writers = s.writers ∨
      ∃ w, stepped.session.writers = s.writers ++ [w] ∧ w.key = other := by
  cases prepared with
  | waits writers | failed writers => exact .inl writers
  | opened writers _ about => exact .inr ⟨_, writers, about⟩

theorem Found.appended (found : Found other era s stepped) :
    stepped.session.writers = s.writers ∨
      ∃ w, stepped.session.writers = s.writers ++ [w] ∧ w.key = other := by
  cases found with
  | there _ writers => exact .inl writers
  | missing _ prepared => exact prepared.appended

theorem Sought.appended (sought : Sought other era s stepped) :
    stepped.session.writers = s.writers ∨
      ∃ w, stepped.session.writers = s.writers ++ [w] ∧ w.key = other := by
  cases sought with
  | queues _ writers => exact .inl writers
  | holds _ found => exact found.appended
  | prepares prepared => exact prepared.appended

theorem Sought.beside (sought : Sought other era s stepped)
    (confined : Confined other era s stepped) (apart : s.Apart stepped.session)
    (different : key ≠ other) (memory : s.transport.Beside stepped.session.transport key) :
    stepped.Beside s key where
  session :=
    { extension := apart.extension
      memory := memory
      setUp := sought.setUpAs
      era := confined.sameEra
      locks := fun era => confined.locks era key (.inl different)
      registered := confined.writers key different
      writer := fun known _ => Session.writer_congr _ (apart.getElem? known)
      own := by
        rcases sought.appended with same | ⟨w, more, about⟩
        · rw [same]
        · rw [more, writersOn_append, about, if_neg different.symm, List.append_nil] }
  away goes := by
    obtain ⟨activity, under, about⟩ := Option.bind_eq_some_iff.1 goes
    obtain ⟨stage, rfl⟩ := confined.activity activity under
    exact different (Option.some.inj about).symm
  known under := by
    obtain ⟨stage, lookup⟩ := confined.activity _ under
    cases lookup

end Writers

namespace Session
variable {s t : MemorySession} {key : Key} {task : TaskId} {id : WriterId}
  {events : List LogEvent} {stepped : MemoryStepped}

section Batches

theorem Within.beside (within : Within id s t) (away : key ≠ (s.writer id).key)
    (memory : s.transport.Beside t.transport key) : s.Beside t key where
  extension := within.extension
  memory := memory
  setUp := within.setUpAs
  era := within.pool_era
  locks era := by rw [within.pool_locks]
  registered := by
    rcases within.registration with ⟨-, pool⟩ | ⟨-, pool⟩
    · rw [pool]
    · rw [pool, Pool.without]
      split
      · rw [Pool.get?_remove, if_neg fun mine => away mine.1]
      · rfl
  writer _ own := within.writer_other fun same => away (same ▸ own.symm)
  own := writersOn_congr within.length (fun _ => within.extension.key) key

theorem Batching.beside (batching : Batching id events stepped.progress)
    (within : Within id s stepped.session) (known : id < s.writers.length)
    (away : key ≠ (s.writer id).key)
    (memory : s.transport.Beside stepped.session.transport key) : stepped.Beside s key where
  session := within.beside away memory
  away goes := by
    obtain ⟨activity, under, about⟩ := Option.bind_eq_some_iff.1 goes
    have own := batching.writer under
    cases activity with
    | batch other events stage =>
      cases own
      exact away ((Option.some.inj about).symm.trans within.key)
    | _ => cases own
  known under := by
    have own := batching.writer under
    cases own
    exact within.known known

theorem beside_startBatch (known : id < s.writers.length) (away : key ≠ (s.writer id).key)
    (task : TaskId) (batch : Batch) : (s.startBatch task id batch).Beside s key := by
  obtain ⟨events, batching⟩ := s.batching_start task id batch
  have upholds : (s.startBatch task id batch).Upholds _ _ :=
    upholds_startBatch (s.transport.upkeep_beside key) (.refl ..) away batch
  exact batching.beside (within_startBatch known task batch) known away upholds.transport

/-- A batch that goes on does so for its own writer, with an append to the writer's stream. -/
theorem beside_resumeBatch (known : id < s.writers.length) (away : key ≠ (s.writer id).key)
    (task : TaskId) {stage : BatchStage SleepingAppend} (signal : Signal)
    (own : ∀ left asleep, stage = .sending left asleep →
      asleep.request.key = (s.writer id).key) :
    (s.resumeBatch task id events stage signal).Beside s key := by
  have upholds : (s.resumeBatch task id events stage signal).Upholds _ _ :=
    upholds_resumeBatch (s.transport.upkeep_beside key) (.refl ..) away
      (fun left asleep same => (own left asleep same).symm ▸ away) signal
  exact (batching_resumeBatch task id events stage signal).beside
    (within_resumeBatch known task events stage signal) known away upholds.transport

end Batches

section Turns

theorem beside_opening {operation : Operation} (ofPool : operation.OfPool)
    (away : operation.key? s.writers ≠ some key)
    (known : ∀ id batch, operation = .write id batch → id < s.writers.length) (task : TaskId) :
    (s.opening task operation).Beside s key := by
  cases operation with
  | append | ensureStream => cases ofPool
  | getWriter other =>
    have different : key ≠ other := fun same => away (congrArg some same.symm)
    have upholds : (s.startLookup task other).Upholds _ _ :=
      upholds_startLookup (s.transport.upkeep_beside key) (.refl ..)
    exact (sought_startLookup task).beside (confined_startLookup task) apart_startLookup different
      upholds.transport
  | write id batch =>
    exact beside_startBatch (known id batch rfl) (fun same => away (congrArg some same.symm)) task
      batch

theorem beside_ongoing {operation : Operation} {activity : Activity SleepingAppend}
    (ofPool : operation.OfPool) (fits : Fits s operation activity)
    (away : activity.key? s.writers ≠ some key)
    (known : ∀ id events stage, activity = .batch id events stage → id < s.writers.length)
    (task : TaskId) (signal : Signal) : (s.ongoing task signal activity).Beside s key := by
  cases fits with
  | append => cases ofPool
  | @search _ other era =>
    have different : key ≠ other := fun same => away (congrArg some same.symm)
    have upholds : (s.resumeLookup task other era .queued signal).Upholds _ _ :=
      upholds_resumeLookup (s.transport.upkeep_beside key) (.refl ..) (fun _ same => by cases same)
        signal
    exact (sought_resumeLookup task .queued signal).beside
      (confined_resumeLookup task .queued signal) apart_resumeLookup different upholds.transport
  | @queued id batch events =>
    exact beside_resumeBatch (known id events _ rfl)
      (fun same => away (congrArg some same.symm)) task signal fun _ _ same => by cases same
  | @sending id batch events left asleep _ sameKey =>
    have own : ∀ left' asleep', (.sending left asleep : BatchStage SleepingAppend) =
        .sending left' asleep' → asleep'.request.key = (s.writer id).key := by
      rintro _ _ ⟨⟩
      exact sameKey
    exact beside_resumeBatch (known id events _ rfl)
      (fun same => away (congrArg some same.symm)) task signal own

theorem beside_abandoned (asked : ∀ {id events stage},
      s.active task = some (.batch id events stage) → id < s.writers.length)
    (away : s.stream? task ≠ some key) : s.Beside (s.abandon task) key := by
  unfold stream? at away
  unfold abandon
  split
  · rename_i other era under
    rw [under] at away
    have different : key ≠ other := fun same => away (congrArg some same.symm)
    exact ⟨apart_setKeyLock.extension, .refl .., ⟨rfl, rfl⟩, rfl,
      fun e => Pool.setLock_elsewhere s.pool _ _ _ (.inl different), rfl, fun _ _ => rfl, rfl⟩
  · rename_i id events under
    rw [under] at away
    exact (within_lock (asked under) _).beside
      (fun same => away (congrArg some same.symm)) (.refl ..)
  · exact ⟨(Apart.refl s).extension, .refl .., ⟨rfl, rfl⟩, rfl, fun _ => rfl, rfl, fun _ _ => rfl,
      rfl⟩

end Turns
end Session
end SequenceLog

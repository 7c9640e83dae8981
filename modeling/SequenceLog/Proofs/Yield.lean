import SequenceLog.Proofs.Storage
/-! What operations yield. A turn of an operation adds to the streams of the memory all that the
operation yields, if it succeeds in this turn, and nothing otherwise. Main statements:
`carries_opening` and `carries_ongoing`. -/
namespace SequenceLog

namespace Session
variable {s : Session Memory SleepingAppend Append}

/-- What a search for a writer does: it stores nothing, and prepares a stream at once if at all. -/
structure StoresNothing (s : Session Memory SleepingAppend Append)
    (stepped : Stepped Memory SleepingAppend Append) : Prop where
  kept : ∀ key, stepped.session.transport.events key = s.transport.events key
  queued : ∀ activity, stepped.activity? = some activity →
    ∃ key era, activity = .lookup key era .queued

theorem openPrepared_transport (key : Key) (era : Nat) (prepared : Except Fault Token) :
    (s.openPrepared key era prepared).session.transport = s.transport := by
  unfold openPrepared
  split <;> simp only [finished, releaseKey, wake_transport] <;> rfl

theorem openPrepared_activity (key : Key) (era : Nat) (prepared : Except Fault Token) :
    (s.openPrepared key era prepared).activity? = none := by
  unfold openPrepared
  split <;> rfl

theorem stores_nothing_prepare (key : Key) (era : Nat) : StoresNothing s (s.prepare key era) := by
  unfold prepare
  split
  · refine ⟨fun other => ?_, fun _ goes => by cases goes⟩
    simp only [finished, releaseKey, wake_transport]
    rfl
  · split
    · obtain ⟨result, ended⟩ := Memory.ensureStream_finished s.transport key
      have ended : (Transport.ensureStream s.transport key).progress = .finished result := ended
      simp only [ended]
      refine ⟨fun other => ?_, fun activity goes => ?_⟩
      · rw [openPrepared_transport]
        exact Memory.events_ensureStream ..
      · rw [openPrepared_activity] at goes
        cases goes
    · refine ⟨fun other => by rw [openPrepared_transport], fun activity goes => ?_⟩
      rw [openPrepared_activity] at goes
      cases goes

theorem stores_nothing_startLookup (task : TaskId) (key : Key) :
    StoresNothing s (s.startLookup task key) := by
  unfold startLookup
  split
  · exact ⟨fun _ => rfl, fun _ goes => by cases goes⟩
  · dsimp only
    split
    · exact ⟨(stores_nothing_prepare (s := s.setKeyLock _ _ _) ..).kept,
        (stores_nothing_prepare ..).queued⟩
    · refine ⟨fun _ => rfl, fun activity goes => ?_⟩
      cases goes
      exact ⟨_, _, rfl⟩

theorem stores_nothing_resumeLookup (task : TaskId) (key : Key) (era : Nat) (signal : Signal) :
    StoresNothing s (s.resumeLookup task key era .queued signal) := by
  cases signal with
  | ready =>
    simp only [resumeLookup]
    split
    · exact ⟨(stores_nothing_prepare (s := s.setKeyLock _ _ _) ..).kept,
        (stores_nothing_prepare ..).queued⟩
    · refine ⟨fun _ => rfl, fun activity goes => ?_⟩
      cases goes
      exact ⟨_, _, rfl⟩
  | expired | interrupted =>
    refine ⟨fun _ => ?_, fun _ goes => by cases goes⟩
    simp only [resumeLookup, finished, wake_transport]
    rfl

end Session

/-- What an operation adds to a stream when it succeeds. -/
def Operation.yield (s : Session Memory SleepingAppend Append) (key : Key) :
    Operation → List LogEvent
  | .append request => if key = request.key then request.events else []
  | .write id batch =>
    if key = (s.writer id).key then (batch.events).toOption.getD [] else []
  | .ensureStream _ | .getWriter _ => []

/-- What an operation adds to a stream in a turn with the given result. -/
def Operation.gain (s : Session Memory SleepingAppend Append) (key : Key) (operation : Operation) :
    Option (Except Fault Answer) → List LogEvent
  | some (.ok _) => operation.yield s key
  | _ => []

/-- What an operation can be suspended in: in an append, that of its own events. -/
inductive Fits (s : Session Memory SleepingAppend Append) :
    Operation → Activity SleepingAppend → Prop
  | append {asleep} : Fits s (.append asleep.request) (.transport asleep)
  | search {key other era} : Fits s (.getWriter key) (.lookup other era .queued)
  | queued {id batch events} : batch.events = .ok events →
      Fits s (.write id batch) (.batch id events .queued)
  | sending {id batch events left asleep} : batch.events = .ok events →
      asleep.request.key = (s.writer id).key → asleep.request.events = events →
      Fits s (.write id batch) (.batch id events (.sending left asleep))

/-- What a call has done after a turn of its operation: all it is to add if it succeeded in the turn,
and nothing otherwise. Only a batch that can be serialized succeeds. -/
structure Carries (s : Session Memory SleepingAppend Append) (operation : Operation)
    (stepped : Stepped Memory SleepingAppend Append) : Prop where
  fits : ∀ activity, stepped.activity? = some activity → Fits s operation activity
  grown : ∀ key, stepped.session.transport.events key =
    s.transport.events key ++ operation.gain s key stepped.result?
  serialized : ∀ id batch answer, operation = .write id batch →
    stepped.result? = some (.ok answer) → ∃ events, batch.events = .ok events

namespace Session
variable {s : Session Memory SleepingAppend Append}

theorem StoresNothing.carries {key : Key} {stepped : Stepped Memory SleepingAppend Append}
    (nothing : StoresNothing s stepped) : Carries s (.getWriter key) stepped where
  fits activity goes := by
    obtain ⟨other, era, rfl⟩ := nothing.queued activity goes
    exact .search
  grown key := by
    rw [nothing.kept, Operation.gain.eq_def]
    split <;> simp [Operation.yield]
  serialized _ _ _ same := by cases same

theorem carries_ensureStream (key : Key) :
    Carries s (.ensureStream key) (s.relay (Memory.ensureStream s.transport key)) := by
  obtain ⟨result, ended⟩ := Memory.ensureStream_finished s.transport key
  constructor
  · intro activity goes
    simp [relay, Stepped.activity?, ended] at goes
  · intro other
    simp only [relay, absorb_transport, Memory.events_ensureStream, Operation.gain.eq_def]
    split <;> simp [Operation.yield]
  · intro _ _ _ same
    cases same

theorem carries_append {request : Append} {reply : Reply Memory SleepingAppend Append Token}
    (adds : s.transport.Adds request reply.state reply.progress) :
    Carries s (.append request) (s.relay reply) where
  fits activity goes := by
    simp only [relay, Stepped.activity?] at goes
    cases progress : reply.progress with
    | finished result => simp [progress] at goes
    | suspended asleep =>
      simp only [progress, Option.some.injEq] at goes
      subst goes
      rw [← adds.stage asleep progress]
      exact .append
  grown key := by
    have grown := adds.grown key
    simp only [relay, Stepped.result?, absorb_transport, grown]
    cases reply.progress with
    | suspended asleep => rfl
    | finished result => cases result <;> rfl
  serialized _ _ _ same := by cases same

theorem Stores.carries {id : WriterId} {events : List LogEvent} {batch : Batch}
    {stepped : Stepped Memory SleepingAppend Append}
    (stores : Stores s.transport.events (s.writer id).key id events stepped)
    (batching : Batching id events stepped.progress) (serialized : batch.events = .ok events) :
    Carries s (.write id batch) stepped := by
  obtain ⟨after, progress⟩ := stepped
  constructor
  · intro activity goes
    cases batching with
    | waits stage =>
      cases goes
      cases stage with
      | queued => exact .queued serialized
      | sending left asleep =>
        obtain ⟨sameKey, sameEvents⟩ := stores.stage left asleep rfl
        exact .sending serialized sameKey sameEvents
    | failed | done => cases goes
  · intro key
    rw [stores.grown]
    cases batching with
    | waits | failed => rfl
    | done =>
      simp [Progress.gain, Stepped.result?, Operation.gain, Operation.yield, serialized,
        Except.toOption]
  · intro _ _ _ same _
    cases same
    exact ⟨events, serialized⟩

theorem carries_startBatch {id : WriterId} (known : id < s.writers.length) (task : TaskId)
    (batch : Batch) : Carries s (.write id batch) (s.startBatch task id batch) := by
  cases serialized : batch.events with
  | error fault =>
    rw [startBatch_unserialized serialized]
    exact ⟨fun _ goes => (by cases goes), fun key => (List.append_nil _).symm,
      fun _ _ _ _ result => (by cases result)⟩
  | ok events =>
    exact (stores_startBatch known serialized).carries (batching_startBatch task id serialized)
      serialized

theorem carries_opening {operation : Operation} (task : TaskId)
    (known : ∀ id batch, operation = .write id batch → id < s.writers.length) :
    Carries s operation (s.opening task operation) := by
  cases operation with
  | append request => exact carries_append (Memory.adds_append ..)
  | ensureStream key => exact carries_ensureStream key
  | getWriter key => exact (stores_nothing_startLookup task key).carries
  | write id batch => exact carries_startBatch (known id batch rfl) task batch

theorem carries_ongoing {operation : Operation} {activity : Activity SleepingAppend} (task : TaskId)
    (signal : Signal) (fits : Fits s operation activity)
    (known : ∀ id batch, operation = .write id batch → id < s.writers.length) :
    Carries s operation (s.ongoing task signal activity) := by
  cases fits with
  | append => exact carries_append (Memory.adds_resume ..)
  | search => exact (stores_nothing_resumeLookup task _ _ signal).carries
  | @queued id batch events serialized =>
    refine (stores_resumeBatch (known id batch rfl) fun left asleep same => ?_).carries
      (batching_resumeBatch task id events .queued signal) serialized
    cases same
  | @sending id batch events left asleep serialized sameKey sameEvents =>
    refine (stores_resumeBatch (known id batch rfl) fun left asleep same => ?_).carries
      (batching_resumeBatch task id events (.sending left asleep) signal) serialized
    cases same
    exact ⟨sameKey, sameEvents⟩

end Session

namespace Memory

/-- Only deleting a stream, or closing, takes events away, and no command adds any. -/
theorem events_perform (m : Memory) {command : Command} {key : Key} (going : command ≠ .close)
    (kept : command ≠ .deleteStream key) : (m.perform command).state.events key = m.events key := by
  cases command with
  | close => exact absurd rfl going
  | setToken other token => exact events_store_stream ..
  | deleteStream other =>
    have different : key ≠ other := fun same => kept (same ▸ rfl)
    simp [perform, events, stream, deleteStream, different]
  | _ => rfl

end Memory
end SequenceLog

import SequenceLog.Proofs.Decision
import SequenceLog.Proofs.Turn
/-! What appends store in the memory. An append stores its events where it is carried out, in one step
and only if it succeeds, and so does a batch with all its appends. -/
namespace SequenceLog

/-- What an operation adds to the stream `key` that is to add the events to the stream `target`. -/
def Progress.gain {σ α : Type} (progress : Progress σ α) (target : Key) (events : List LogEvent)
    (key : Key) : List LogEvent :=
  match progress with
  | .finished (.ok _) => if key = target then events else []
  | _ => []

namespace Memory
variable {m : Memory} {key : Key} {r : Append}

theorem events_store_self (s : StoredStream) : (m.store key s).events key = s.events := by
  simp [events, stream, store]

theorem events_store_other {other : Key} (s : StoredStream) (different : other ≠ key) :
    (m.store key s).events other = m.events other := by
  simp [events, stream, store, different]

/-- A stream that is stored as it is stays as it is, even if it had to be created. -/
theorem events_store_stream (token : Token) (other : Key) :
    (m.store key { m.stream key with token := token }).events other = m.events other := by
  by_cases same : other = key
  · rw [same, events_store_self]
    rfl
  · exact events_store_other _ same

theorem events_commit (m : Memory) (r : Append) (key : Key) :
    (m.commit r).1.events key =
      m.events key ++
        (.finished (m.commit r).2 : Progress SleepingAppend Token).gain r.key r.events key := by
  have decided := m.decides_commit r
  generalize m.commit r = decision at decided
  cases decided with
  | failed | missing => exact (List.append_nil _).symm
  | accepted =>
    by_cases same : key = r.key
    · subst same
      simp only [Progress.gain, if_true]
      exact events_store_self ..
    · simp only [Progress.gain, if_neg same, List.append_nil]
      exact events_store_other _ same
  | refused => exact (events_store_stream (m.token r.key) key).trans (List.append_nil _).symm

/-- An append adds its events when it succeeds, and is suspended with its request. -/
structure Adds (m : Memory) (r : Append) (after : Memory)
    (progress : Progress SleepingAppend Token) : Prop where
  grown : ∀ key, after.events key = m.events key ++ progress.gain r.key r.events key
  stage : ∀ stage, progress = .suspended stage → stage.request = r

theorem adds_settle (m : Memory) (r : Append) : m.Adds r (m.settle r).state (m.settle r).progress where
  grown := events_commit m r
  stage stage progress := by cases progress

theorem adds_append (m : Memory) (r : Append) :
    m.Adds r (m.append r).state (m.append r).progress := by
  unfold append
  split
  · dsimp only
    split
    · exact ⟨events_commit _ r, fun stage progress => by cases progress⟩
    · refine ⟨fun key => (List.append_nil _).symm, fun stage progress => ?_⟩
      cases progress
      rfl
  · exact ⟨fun key => (List.append_nil _).symm, fun stage progress => by cases progress⟩

/-- A sleeping append that is interrupted adds nothing. -/
theorem adds_resume (m : Memory) (stage : SleepingAppend) (signal : Signal) :
    m.Adds stage.request (m.resume stage signal).state (m.resume stage signal).progress := by
  cases signal with
  | ready => exact adds_settle m stage.request
  | expired | interrupted =>
    exact ⟨fun key => (List.append_nil _).symm, fun stage progress => by cases progress⟩

/-- Preparing a stream adds no events and is never suspended. -/
theorem events_ensureStream (m : Memory) (key other : Key) :
    (m.ensureStream key).state.events other = m.events other := by
  unfold ensureStream
  split
  · exact events_store_stream (m.token key) other
  · rfl

theorem ensureStream_finished (m : Memory) (key : Key) :
    ∃ result, (m.ensureStream key).progress = .finished result := by
  unfold ensureStream
  split <;> exact ⟨_, rfl⟩

end Memory

namespace Session
variable {s : Session Memory SleepingAppend Append} {id : WriterId} {events : List LogEvent}

/-- How much of a batch for `target` is stored after a turn, counted from the `stored` events on. A
batch that waits does so with its own events. -/
structure Stores (stored : Key → List LogEvent) (target : Key) (id : WriterId)
    (events : List LogEvent) (stepped : Stepped Memory SleepingAppend Append) : Prop where
  grown : ∀ key, stepped.session.transport.events key =
    stored key ++ stepped.progress.gain target events key
  stage : ∀ left stage, stepped.progress = .suspended (.batch id events (.sending left stage)) →
    stage.request.key = target ∧ stage.request.events = events

theorem adds_send (s : Session Memory SleepingAppend Append) (id : WriterId)
    (events : List LogEvent) (token : Token) :
    s.transport.Adds ⟨(s.writer id).key, token, events⟩ (s.send id events token).1.transport
      (s.send id events token).2 :=
  Memory.adds_append ..

theorem adds_resend (s : Session Memory SleepingAppend Append) (id : WriterId)
    (events : List LogEvent) (fault : Fault) (notices : List Notice) (expected : Expected) :
    s.transport.Adds ⟨(s.writer id).key, expected.token, events⟩
      (s.resend id events fault notices expected).1.transport
      (s.resend id events fault notices expected).2 :=
  adds_send ((s.note _).notice _) id events expected.token

theorem stores_settle {stored : Key → List LogEvent} {target : Key} {left : Nat}
    {result : Except Fault Token} (sameKey : (s.writer id).key = target)
    (gained : ∀ key, s.transport.events key =
      stored key ++ (.finished result : Progress SleepingAppend Token).gain target events key) :
    Stores stored target id events (s.settle id events left result) := by
  -- what is refused stores nothing, and what succeeds ends the batch
  refine settle_induct id events
    (motive := fun s _ result stepped => (s.writer id).key = target → (∀ key, s.transport.events key =
        stored key ++ (.finished result : Progress SleepingAppend Token).gain target events key) →
      Stores stored target id events stepped)
    ?accepted ?stopped ?fatal ?waits ?again s left result sameKey gained
  case accepted =>
    intro s left token sameKey gained
    refine ⟨fun key => ?_, fun left stage progress => by cases progress⟩
    rw [finished, releaseWriter_transport]
    exact gained key
  case stopped =>
    intro s left fault _ sameKey gained
    refine ⟨fun key => ?_, fun left stage progress => by cases progress⟩
    rw [finished, releaseWriter_transport]
    exact gained key
  case fatal =>
    intro s left fault notices _ _ sameKey gained
    refine ⟨fun key => ?_, fun left stage progress => by cases progress⟩
    rw [finished, releaseWriter_transport, retire_transport]
    exact gained key
  case waits =>
    intro s left fault expected notices stage _ _ progress sameKey gained
    have adds := adds_resend s id events fault notices expected
    refine ⟨fun key => ?_, fun left' stage' suspended => ?_⟩
    · rw [suspended, adds.grown, gained, progress]
      simp [Progress.gain]
    · cases suspended
      rw [adds.stage stage progress]
      exact ⟨sameKey, rfl⟩
  case again =>
    intro s left fault expected notices result _ _ progress resent ih sameKey gained
    have adds := adds_resend s id events fault notices expected
    apply ih sameKey
    intro key
    have kept : s.transport.events key = stored key := by simpa [Progress.gain] using gained key
    rw [← kept, ← sameKey, ← progress]
    exact adds.grown key

theorem stores_pursue {stored : Key → List LogEvent} {target : Key} {left : Nat}
    {progress : Progress SleepingAppend Token} (sameKey : (s.writer id).key = target)
    (gained : ∀ key, s.transport.events key = stored key ++ progress.gain target events key)
    (own : ∀ stage, progress = .suspended stage →
      stage.request.key = target ∧ stage.request.events = events) :
    Stores stored target id events (s.pursue id events left progress) := by
  cases progress with
  | suspended stage =>
    refine ⟨gained, fun left stage suspended => ?_⟩
    cases suspended
    exact own stage rfl
  | finished result => exact stores_settle sameKey gained

theorem stores_nothing {target : Key} {stepped : Stepped Memory SleepingAppend Append}
    (kept : stepped.session.transport = s.transport)
    (nothing : ∀ key, stepped.progress.gain target events key = [])
    (silent : ∀ left stage, stepped.progress ≠ .suspended (.batch id events (.sending left stage))) :
    Stores s.transport.events target id events stepped where
  grown key := by rw [kept, nothing, List.append_nil]
  stage left stage suspended := absurd suspended (silent left stage)

theorem stores_sendBatch (s : Session Memory SleepingAppend Append) (id : WriterId)
    (events : List LogEvent) :
    Stores s.transport.events (s.writer id).key id events (s.sendBatch id events) := by
  cases status : (s.writer id).status with
  | invalidated =>
    rw [sendBatch_invalidated status]
    exact stores_nothing (releaseWriter_transport ..) (fun _ => rfl) fun _ _ suspended => by cases suspended
  | active =>
    rw [sendBatch_active status]
    have adds := adds_send s id events (s.writer id).token
    apply stores_pursue (by rw [writer_send]) adds.grown
    intro stage suspended
    rw [adds.stage stage suspended]
    exact ⟨rfl, rfl⟩

theorem stores_startBatch (known : id < s.writers.length) {task : TaskId} {batch : Batch}
    (serialized : batch.events = .ok events) :
    Stores s.transport.events (s.writer id).key id events (s.startBatch task id batch) := by
  unfold startBatch
  split
  · rename_i empty
    have none : batch.records = [] := by simpa using empty
    rw [Batch.events, none] at serialized
    cases serialized
    exact stores_nothing rfl (by simp [finished, Progress.gain])
      fun _ _ suspended => by cases suspended
  · rw [serialized]
    dsimp only
    split
    · let taken := s.setWriter id { s.writer id with lock := (s.writer id).lock.take }
      have writer : taken.writer id = { s.writer id with lock := (s.writer id).lock.take } :=
        writer_setWriter_self s id _ known
      have stores := stores_sendBatch taken id events
      rw [writer] at stores
      exact stores
    · exact stores_nothing rfl (fun _ => rfl) fun _ _ suspended => by cases suspended

theorem stores_resumeBatch (known : id < s.writers.length) {task : TaskId}
    {stage : BatchStage SleepingAppend} {signal : Signal}
    (own : ∀ left asleep, stage = .sending left asleep →
      asleep.request.key = (s.writer id).key ∧ asleep.request.events = events) :
    Stores s.transport.events (s.writer id).key id events
      (s.resumeBatch task id events stage signal) := by
  cases stage with
  | queued =>
    cases signal with
    | ready =>
      simp only [resumeBatch]
      split
      · let entered := s.setWriter id { s.writer id with lock := (s.writer id).lock.enter task }
        have writer : entered.writer id = { s.writer id with lock := (s.writer id).lock.enter task } :=
          writer_setWriter_self s id _ known
        have stores := stores_sendBatch entered id events
        rw [writer] at stores
        exact stores
      · exact stores_nothing rfl (fun _ => rfl) fun _ _ suspended => by cases suspended
    | expired | interrupted =>
      refine stores_nothing ?_ (fun _ => rfl) fun _ _ suspended => by cases suspended
      exact wake_transport ..
  | sending left asleep =>
    obtain ⟨sameKey, sameEvents⟩ := own left asleep rfl
    have adds := Memory.adds_resume s.transport asleep signal
    rw [resumeBatch_sending]
    refine stores_pursue rfl (fun key => ?_) fun stage suspended => ?_
    · rw [← sameKey, ← sameEvents]
      exact adds.grown key
    · rw [adds.stage stage suspended]
      exact ⟨sameKey, sameEvents⟩

end Session
end SequenceLog

import SequenceLog.Proofs.Chronicle
import SequenceLog.Proofs.Section
/-! The attempts of a batch. What a batch does about the outcome of an append is one of five things:
it succeeds, it is told to stop, it fails for good, or it sends again and then either waits or has
the next outcome at once. `settle_induct` says so once for all that is proved about batches. -/
namespace SequenceLog.Session
variable {τ σ κ : Type} [Transport τ σ κ]

/-- What a batch does about an append as far as that came, with `left` more to try. -/
def pursue (s : Session τ σ κ) (id : WriterId) (events : List LogEvent) (left : Nat) :
    Progress σ Token → Stepped τ σ κ
  | .suspended stage => s.suspended (.batch id events (.sending left stage))
  | .finished result => s.settle id events left result

/-- An append that failed is followed by another one. -/
def resend (s : Session τ σ κ) (id : WriterId) (events : List LogEvent) (fault : Fault)
    (notices : List Notice) (expected : Expected) : Session τ σ κ × Progress σ Token :=
  ((s.note [.settled id (.error fault)]).notice notices).send id events expected.token

omit [Transport τ σ κ] in
theorem notice_notice (s : Session τ σ κ) (first second : List Notice) :
    (s.notice first).notice second = s.notice (first ++ second) := by
  simp [notice, note]

theorem settle_repeats (s : Session τ σ κ) (id : WriterId) (events : List LogEvent) (left : Nat)
    {fault : Fault} {token : Expected} (failure : fault.isFailure = true)
    (expected : fault.expected? = some token) :
    ∃ notices, s.settle id events (left + 1) (.error fault) =
      (s.resend id events fault notices token).1.pursue id events left
        (s.resend id events fault notices token).2 := by
  refine ⟨fault.expectedNotices ++ [(s.writer id).retryNotice ((s.writer id).retries - left)], ?_⟩
  simp only [settle, failure, expected, if_true, notice_notice, writer_notice, writer_note, resend]
  cases (Session.send (_ : Session τ σ κ) id events token.token).2 <;> rfl

/-- Induction over the outcomes of a batch's appends. -/
theorem settle_induct (id : WriterId) (events : List LogEvent)
    {motive : Session τ σ κ → Nat → Except Fault Token → Stepped τ σ κ → Prop}
    (accepted : ∀ s left token, motive s left (.ok token)
      ((((s.note [.settled id (.ok token)]).adopt id token).releaseWriter id).finished
        (.ok .nothing)))
    (stopped : ∀ s left fault, fault.isFailure = false → motive s left (.error fault)
      (((s.note [.settled id (.error fault)]).releaseWriter id).finished (.error fault)))
    (fatal : ∀ s left fault notices, fault.isFailure = true →
      (fault.expected? = none ∨ left = 0) → motive s left (.error fault)
        (((((s.note [.settled id (.error fault)]).notice notices).retire id fault).releaseWriter
          id).finished (.error ((s.writer id).appendFault fault))))
    (waits : ∀ s left fault expected notices stage, fault.isFailure = true →
      fault.expected? = some expected →
      (s.resend id events fault notices expected).2 = .suspended stage →
      motive s (left + 1) (.error fault)
        ((s.resend id events fault notices expected).1.suspended
          (.batch id events (.sending left stage))))
    (again : ∀ s left fault expected notices result, fault.isFailure = true →
      fault.expected? = some expected →
      (s.resend id events fault notices expected).2 = .finished result →
      (let resent := (s.resend id events fault notices expected).1
       motive resent left result (resent.settle id events left result) →
        motive s (left + 1) (.error fault) (resent.settle id events left result)))
    (s : Session τ σ κ) (left : Nat) (result : Except Fault Token) :
    motive s left result (s.settle id events left result) := by
  -- one attempt fewer is left with each append that is sent again
  induction left generalizing s result with
  | zero =>
    cases result with
    | ok token => exact accepted s 0 token
    | error fault =>
      cases failure : fault.isFailure with
      | false => simpa [settle, failure] using stopped s 0 fault failure
      | true =>
        have := fatal s 0 fault fault.expectedNotices failure (.inr rfl)
        cases expected : fault.expected? <;> simpa [settle, failure, expected] using this
  | succ left ih =>
    cases result with
    | ok token => exact accepted s (left + 1) token
    | error fault =>
      cases failure : fault.isFailure with
      | false => simpa [settle, failure] using stopped s (left + 1) fault failure
      | true =>
        cases expected : fault.expected? with
        | none =>
          simpa [settle, failure, expected] using
            fatal s (left + 1) fault fault.expectedNotices failure (.inl expected)
        | some token =>
          obtain ⟨notices, repeated⟩ := settle_repeats s id events left failure expected
          rw [repeated, pursue.eq_def]
          cases progress : (s.resend id events fault notices token).2 with
          | suspended stage => exact waits s left fault token notices stage failure expected progress
          | finished result =>
            exact again s left fault token notices result failure expected progress (ih _ _)

theorem deeds_resend (s : Session τ σ κ) (id : WriterId) (events : List LogEvent) (fault : Fault)
    (notices : List Notice) (expected : Expected) :
    (s.resend id events fault notices expected).1.deeds id = s.deeds id ++
      [.settled (.error fault), .sent ((s.writer id).request expected.token events)] := by
  simp [resend, Happening.deed?]

theorem within_resend {s : Session τ σ κ} {id : WriterId} (events : List LogEvent) (fault : Fault)
    (notices : List Notice) (expected : Expected) :
    Within id s (s.resend id events fault notices expected).1 :=
  within_settled.trans (within_notice.trans (within_send ..))

theorem within_settle {id : WriterId} {events : List LogEvent} {s : Session τ σ κ} {left : Nat}
    {result : Except Fault Token} (known : id < s.writers.length) :
    Within id s (s.settle id events left result).session := by
  refine settle_induct id events
    (motive := fun s _ _ stepped => id < s.writers.length → Within id s stepped.session)
    ?accepted ?stopped ?fatal ?waits ?again s left result known
  case accepted =>
    intro s left token known
    have adopted : Within id s ((s.note [.settled id (.ok token)]).adopt id token) :=
      within_settled.trans (within_adopt (s := s.note _) known token)
    exact adopted.trans (within_releaseWriter (adopted.known known))
  case stopped =>
    intro s left fault _ known
    exact within_settled.trans (within_releaseWriter (s := s.note _) known)
  case fatal =>
    intro s left fault notices _ _ known
    have noticed : Within id s ((s.note [.settled id (.error fault)]).notice notices) :=
      within_settled.trans within_notice
    have retired := noticed.trans (within_retire (noticed.known known) fault)
    exact retired.trans (within_releaseWriter (retired.known known))
  case waits =>
    intro s left fault expected notices stage _ _ _ known
    exact within_resend ..
  case again =>
    intro s left fault expected notices result _ _ _ resent ih known
    have again : Within id s resent := within_resend ..
    exact again.trans (ih (again.known known))

theorem within_pursue {id : WriterId} {events : List LogEvent} {s : Session τ σ κ} {left : Nat}
    {progress : Progress σ Token} (known : id < s.writers.length) :
    Within id s (s.pursue id events left progress).session := by
  cases progress with
  | suspended stage => exact .refl s
  | finished result => exact within_settle known

/-- A chronicle with what the session has noted about the writer since. -/
def told (s : Session τ σ κ) (past : Chronicle) (call : CallId) (id : WriterId) : Chronicle :=
  past ++ (s.deeds id).map (call, ·)

omit [Transport τ σ κ] in
theorem told_of_deeds {s s' : Session τ σ κ} {past : Chronicle} {call : CallId} {id : WriterId}
    {more : List Deed} (grown : s'.deeds id = s.deeds id ++ more) :
    s'.told past call id = s.told past call id ++ more.map (call, ·) := by
  simp [told, grown]

/-- How a turn ends that a call has in its writer's section. Either the call waits for an append, and
the lock stays as it is, or the call is over and lets the lock go. -/
structure Serves (key : Key) (token : Token) (asks : CallId → List LogEvent → Prop)
    (past : Chronicle) (call : CallId) (id : WriterId) (events : List LogEvent) (lock : Mutex)
    (stepped : Stepped τ σ κ) (lane : Lane) : Prop where
  lawful : Lawful key token asks (stepped.session.told past call id) lane
  token : lane.token = (stepped.session.writer id).token
  status : lane.status = (stepped.session.writer id).status
  ending :
    (∃ left stage sent,
      stepped.progress = .suspended (.batch id events (.sending left stage)) ∧
      lane.phase = .flying call ⟨key, sent, events⟩ ∧
      (stepped.session.writer id).lock = lock) ∨
    (∃ result, stepped.progress = .finished result ∧ lane.phase = .idle ∧
      (stepped.session.writer id).lock = lock.release.1)

section Served
variable {key : Key} {token : Token} {asks : CallId → List LogEvent → Prop} {past : Chronicle}
  {call : CallId} {id : WriterId} {events : List LogEvent} {lock : Mutex}

omit [Transport τ σ κ] in
theorem serves_released {s : Session τ σ κ} {lane : Lane} (known : id < s.writers.length)
    (lawful : Lawful key token asks (s.told past call id) lane) (idle : lane.phase = .idle)
    (sameToken : lane.token = (s.writer id).token) (sameStatus : lane.status = (s.writer id).status)
    (locked : (s.writer id).lock = lock) (result : Except Fault Answer) :
    Serves key token asks past call id events lock ((s.releaseWriter id).finished result) lane where
  lawful := by
    have kept : (s.releaseWriter id).told past call id = s.told past call id := by simp [told]
    exact kept.symm ▸ lawful
  token := by rw [finished, writer_releaseWriter s id known, sameToken]
  status := by rw [finished, writer_releaseWriter s id known, sameStatus]
  ending := .inr ⟨result, rfl, idle, by rw [finished, writer_releaseWriter s id known, locked]⟩

/-- An append that was refused and sent again is under way with the token that was told. -/
theorem lawful_resend {s : Session τ σ κ} {horizon : CallId} {sent : Token} {fault : Fault}
    {notices : List Notice} {expected : Expected} {status : Status}
    (lawful : Lawful key token asks (s.told past call id)
      ⟨(s.writer id).token, status, horizon, .flying call ⟨key, sent, events⟩⟩)
    (failed : fault.isFailure = true) (told : fault.expected? = some expected)
    (sameKey : (s.writer id).key = key) :
    Lawful key token asks ((s.resend id events fault notices expected).1.told past call id)
      ⟨(s.writer id).token, status, horizon, .flying call ⟨key, expected.token, events⟩⟩ := by
  rw [told_of_deeds (deeds_resend s id events fault notices expected), Writer.request, sameKey]
  simpa using (lawful.refused failed).again told

theorem serves_settle {s : Session τ σ κ} {horizon : CallId} {sent : Token}
    (known : id < s.writers.length) (status : (s.writer id).status = .active)
    (lawful : Lawful key token asks (s.told past call id)
      ⟨(s.writer id).token, .active, horizon, .flying call ⟨key, sent, events⟩⟩)
    (sameKey : (s.writer id).key = key) (locked : (s.writer id).lock = lock) (left : Nat)
    (result : Except Fault Token) :
    ∃ lane, lane.horizon = horizon ∧
      Serves key token asks past call id events lock (s.settle id events left result) lane := by
  -- over the attempts that are left: the chronicle stays lawful with the append that is in flight
  refine settle_induct id events
    (motive := fun s _ _ stepped => ∀ sent, id < s.writers.length →
      (s.writer id).status = .active →
      Lawful key token asks (s.told past call id)
        ⟨(s.writer id).token, .active, horizon, .flying call ⟨key, sent, events⟩⟩ →
      (s.writer id).key = key → (s.writer id).lock = lock →
      ∃ lane, lane.horizon = horizon ∧
        Serves key token asks past call id events lock stepped lane)
    ?accepted ?stopped ?fatal ?waits ?again s left result sent known status lawful sameKey locked
  case accepted =>
    intro s left next sent known status lawful sameKey locked
    let adopted := (s.note [.settled id (.ok next)]).adopt id next
    have grown : adopted.deeds id = s.deeds id ++ [.settled (.ok next)] := by
      simp [adopted, Happening.deed?]
    have writer : adopted.writer id = { s.writer id with token := next } :=
      writer_adopt (s.note _) id known next
    refine ⟨⟨next, .active, horizon, .idle⟩, rfl, serves_released ?_ ?_ rfl ?_ ?_ ?_ _⟩
    · simpa [adopted, adopt] using known
    · exact told_of_deeds grown ▸ lawful.accepted
    · exact (congrArg (·.token) writer).symm
    · exact (congrArg (·.status) writer).trans status |>.symm
    · exact (congrArg (·.lock) writer).trans locked
  case stopped =>
    intro s left fault passed sent known status lawful sameKey locked
    have grown : (s.note [.settled id (.error fault)]).deeds id =
        s.deeds id ++ [.settled (.error fault)] := by simp [Happening.deed?]
    refine ⟨⟨(s.writer id).token, .active, horizon, .idle⟩, rfl,
      serves_released (s := s.note _) known ?_ rfl rfl status.symm locked _⟩
    exact told_of_deeds grown ▸ lawful.stopped passed
  case fatal =>
    intro s left fault notices failed _ sent known status lawful sameKey locked
    let noticed := (s.note [.settled id (.error fault)]).notice notices
    have grown : (noticed.retire id fault).deeds id =
        s.deeds id ++ [.settled (.error fault), .removed key] := by
      rw [deeds_retire noticed id known]
      simp [noticed, Happening.deed?, sameKey]
    have writer := writer_retire noticed id known fault
    refine ⟨⟨(s.writer id).token, .invalidated, horizon, .idle⟩, rfl,
      serves_released ?_ ?_ rfl ?_ ?_ ?_ _⟩
    · exact (within_retire (s := noticed) known fault).known known
    · rw [told_of_deeds grown]
      simpa using (lawful.refused failed).retired
    · exact (congrArg (·.token) writer).symm
    · exact (congrArg (·.status) writer).symm
    · exact (congrArg (·.lock) writer).trans locked
  case waits =>
    intro s left fault expected notices stage failed told progress sent known status lawful sameKey
      locked
    exact ⟨_, rfl, lawful_resend lawful failed told sameKey, rfl, status.symm,
      .inl ⟨left, stage, _, rfl, rfl, locked⟩⟩
  case again =>
    intro s left fault expected notices result failed told progress resent ih sent known status
      lawful sameKey locked
    have kept : Within id s resent := within_resend ..
    exact ih _ (kept.known known) status (lawful_resend lawful failed told sameKey) sameKey locked

theorem serves_pursue {s : Session τ σ κ} {horizon : CallId} {sent : Token}
    (known : id < s.writers.length) (status : (s.writer id).status = .active)
    (lawful : Lawful key token asks (s.told past call id)
      ⟨(s.writer id).token, .active, horizon, .flying call ⟨key, sent, events⟩⟩)
    (sameKey : (s.writer id).key = key) (locked : (s.writer id).lock = lock) (left : Nat)
    (progress : Progress σ Token) :
    ∃ lane, lane.horizon = horizon ∧
      Serves key token asks past call id events lock (s.pursue id events left progress) lane := by
  cases progress with
  | suspended stage =>
    exact ⟨_, rfl, lawful, rfl, status.symm, .inl ⟨left, stage, sent, rfl, rfl, locked⟩⟩
  | finished result => exact serves_settle known status lawful sameKey locked left result

theorem sendBatch_invalidated {s : Session τ σ κ} (status : (s.writer id).status = .invalidated) :
    s.sendBatch id events =
      (s.releaseWriter id).finished (.error (s.writer id).invalidFault) := by
  simp only [sendBatch, status]

theorem sendBatch_active {s : Session τ σ κ} (status : (s.writer id).status = .active) :
    s.sendBatch id events = (s.send id events (s.writer id).token).1.pursue id events
      (s.writer id).retries (s.send id events (s.writer id).token).2 := by
  simp only [sendBatch, status]
  cases (s.send id events (s.writer id).token).2 <;> rfl

theorem resumeBatch_sending (s : Session τ σ κ) (task : TaskId) (left : Nat) (stage : σ)
    (signal : Signal) :
    s.resumeBatch task id events (.sending left stage) signal =
      (s.absorb (Transport.resume s.transport stage signal)).pursue id events left
        (Transport.resume s.transport stage signal).progress := by
  simp only [resumeBatch]
  cases (Transport.resume s.transport stage signal).progress <;> rfl

/-- A batch that has the lock is served, and no call before it will be any more. -/
theorem serves_sendBatch {s : Session τ σ κ} {lane : Lane} (known : id < s.writers.length)
    (lawful : Lawful key token asks (s.told past call id) lane) (idle : lane.phase = .idle)
    (sameToken : lane.token = (s.writer id).token) (sameStatus : lane.status = (s.writer id).status)
    (late : lane.horizon ≤ call) (asked : asks call events) (sameKey : (s.writer id).key = key)
    (locked : (s.writer id).lock = lock) :
    ∃ lane', lane'.horizon ≤ call + 1 ∧
      Serves key token asks past call id events lock (s.sendBatch id events) lane' := by
  obtain ⟨t, status, n, phase⟩ := lane
  cases idle
  cases sameToken
  cases status with
  | invalidated =>
    rw [sendBatch_invalidated sameStatus.symm]
    exact ⟨_, Nat.le_succ_of_le late,
      serves_released known lawful rfl rfl sameStatus locked _⟩
  | active =>
    rw [sendBatch_active sameStatus.symm]
    let sent := (s.send id events (s.writer id).token).1
    have grown : sent.deeds id = s.deeds id ++ [.sent ⟨key, (s.writer id).token, events⟩] := by
      simp [sent, Writer.request, sameKey]
    have lawful : Lawful key token asks (sent.told past call id)
        ⟨(sent.writer id).token, .active, call + 1,
          .flying call ⟨key, (s.writer id).token, events⟩⟩ :=
      told_of_deeds grown ▸ lawful.first late asked
    have sentKnown : id < sent.writers.length := known
    obtain ⟨lane', horizon, served⟩ := serves_pursue sentKnown sameStatus.symm lawful sameKey
      locked (s.writer id).retries (s.send id events (s.writer id).token).2
    exact ⟨lane', Nat.le_of_eq horizon, served⟩

theorem within_sendBatch {s : Session τ σ κ} (known : id < s.writers.length)
    (events : List LogEvent) : Within id s (s.sendBatch id events).session := by
  cases status : (s.writer id).status with
  | invalidated =>
    rw [sendBatch_invalidated status]
    exact within_releaseWriter known
  | active =>
    rw [sendBatch_active status]
    have sent : Within id s (s.send id events (s.writer id).token).1 := within_send ..
    exact sent.trans (within_pursue (sent.known known))

end Served

section Turns
variable {s : Session τ σ κ} {id : WriterId} {events : List LogEvent}

theorem within_startBatch (known : id < s.writers.length) (task : TaskId) (batch : Batch) :
    Within id s (s.startBatch task id batch).session := by
  unfold startBatch
  split
  · exact .refl s
  · split
    · exact .refl s
    · dsimp only
      split
      · have taken := within_lock known (s.writer id).lock.take
        exact taken.trans (within_sendBatch (taken.known known) _)
      · exact within_lock known _

theorem within_resumeBatch (known : id < s.writers.length) (task : TaskId)
    (events : List LogEvent) (stage : BatchStage σ) (signal : Signal) :
    Within id s (s.resumeBatch task id events stage signal).session := by
  cases stage with
  | queued =>
    cases signal with
    | ready =>
      simp only [resumeBatch]
      split
      · have entered := within_lock known ((s.writer id).lock.enter task)
        exact entered.trans (within_sendBatch (entered.known known) _)
      · exact .refl s
    | expired | interrupted => exact (within_lock known _).trans (within_wake _)
  | sending left stage =>
    rw [resumeBatch_sending]
    exact within_absorb.trans (within_pursue (s := s.absorb _) known)

inductive Batching (id : WriterId) (events : List LogEvent) :
    Progress (Activity σ) Answer → Prop
  | waits (stage : BatchStage σ) : Batching id events (.suspended (.batch id events stage))
  | failed (fault : Fault) : Batching id events (.finished (.error fault))
  | done : Batching id events (.finished (.ok .nothing))

theorem batching_settle (left : Nat) (result : Except Fault Token) :
    Batching id events (s.settle id events left result).progress := by
  exact settle_induct id events
    (motive := fun _ _ _ stepped => Batching id events stepped.progress)
    (fun _ _ _ => .done) (fun _ _ _ _ => .failed _) (fun _ _ _ _ _ _ => .failed _)
    (fun _ _ _ _ _ _ _ _ _ => .waits _) (fun _ _ _ _ _ _ _ _ _ ih => ih) s left result

theorem batching_pursue (left : Nat) (progress : Progress σ Token) :
    Batching id events (s.pursue id events left progress).progress := by
  cases progress with
  | suspended stage => exact .waits _
  | finished result => exact batching_settle left result

theorem batching_sendBatch : Batching id events (s.sendBatch id events).progress := by
  cases status : (s.writer id).status with
  | invalidated =>
    rw [sendBatch_invalidated status]
    exact .failed _
  | active =>
    rw [sendBatch_active status]
    exact batching_pursue ..

theorem batching_startBatch (task : TaskId) (id : WriterId) {batch : Batch}
    (serialized : batch.events = .ok events) :
    Batching id events (s.startBatch task id batch).progress := by
  unfold startBatch
  split
  · exact .done
  · rw [serialized]
    dsimp only
    split
    · exact batching_sendBatch
    · exact .waits _

theorem filled_of_unserialized {batch : Batch} {fault : Fault}
    (unserialized : batch.events = .error fault) : batch.records ≠ [] := by
  intro empty
  rw [Batch.events, empty] at unserialized
  cases unserialized

theorem startBatch_unserialized {task : TaskId} {batch : Batch} {fault : Fault}
    (unserialized : batch.events = .error fault) :
    s.startBatch task id batch = s.finished (.error fault) := by
  unfold startBatch
  split
  · rename_i empty
    exact absurd (by simpa using empty) (filled_of_unserialized unserialized)
  · rw [unserialized]

/-- A batch that was not serialized has no events. -/
theorem batching_start (s : Session τ σ κ) (task : TaskId) (id : WriterId) (batch : Batch) :
    ∃ events, Batching id events (s.startBatch task id batch).progress := by
  cases serialized : batch.events with
  | ok events => exact ⟨events, batching_startBatch task id serialized⟩
  | error fault =>
    rw [startBatch_unserialized serialized]
    exact ⟨[], .failed fault⟩

theorem batching_resumeBatch (task : TaskId) (id : WriterId) (events : List LogEvent)
    (stage : BatchStage σ) (signal : Signal) :
    Batching id events (s.resumeBatch task id events stage signal).progress := by
  cases stage with
  | queued =>
    cases signal with
    | ready =>
      simp only [resumeBatch]
      split
      · exact batching_sendBatch
      · exact .waits _
    | expired | interrupted => exact .failed _
  | sending left stage =>
    rw [resumeBatch_sending]
    exact batching_pursue ..

end Turns

end SequenceLog.Session

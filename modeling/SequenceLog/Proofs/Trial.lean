import SequenceLog.Proofs.Verdict
/-! The trials of a batch, from its first append to the one that decides it. A batch that has the lock
sends one append after the other, each with the token that the refusal before it told, until one is
accepted, cannot be repeated, or was the last that is allowed. A turn of a batch is about the queue
alone, finds the writer retired, or goes on with the trials. Main statements: `tries_sendBatch`,
`tries_pursue`, `Starts.plays` and `Resumes.plays`. -/
namespace SequenceLog
open Scenario
variable {τ σ κ μ χ : Type}

namespace Deed

def request? : Deed → Option Append
  | .sent request => some request
  | _ => none

def requests (deeds : List Deed) : List Append := deeds.filterMap request?

def outcome? : Deed → Option (Except Fault Token)
  | .settled result => some result
  | _ => none

def outcomes (deeds : List Deed) : List (Except Fault Token) := deeds.filterMap outcome?

variable {deeds more : List Deed} {request : Append} {result : Except Fault Token} {key : Key}

@[simp] theorem requests_append : requests (deeds ++ more) = requests deeds ++ requests more :=
  List.filterMap_append

@[simp] theorem outcomes_append : outcomes (deeds ++ more) = outcomes deeds ++ outcomes more :=
  List.filterMap_append

@[simp] theorem requests_sent : requests (.sent request :: deeds) = request :: requests deeds := rfl

@[simp] theorem requests_settled : requests (.settled result :: deeds) = requests deeds := rfl

@[simp] theorem requests_removed : requests (.removed key :: deeds) = requests deeds := rfl

@[simp] theorem requests_nil : requests [] = [] := rfl

@[simp] theorem outcomes_sent : outcomes (.sent request :: deeds) = outcomes deeds := rfl

@[simp] theorem outcomes_settled : outcomes (.settled result :: deeds) = result :: outcomes deeds :=
  rfl

@[simp] theorem outcomes_removed : outcomes (.removed key :: deeds) = outcomes deeds := rfl

@[simp] theorem outcomes_nil : outcomes [] = [] := rfl

@[simp] theorem removals_sent : removals [.sent request] = [] := rfl

@[simp] theorem removals_again : removals [.settled result, .sent request] = [] := rfl

end Deed

/-- The deeds of a batch that has an append under way, and the number of its appends. The first one
carries the token of the writer, every other one the token that the refusal before it told. -/
inductive Trying (key : Key) (token : Token) (events : List LogEvent) : Nat → List Deed → Prop
  | first : Trying key token events 1 [.sent ⟨key, token, events⟩]
  | again {sent deeds fault expected} : Trying key token events sent deeds →
      fault.isFailure = true → fault.expected? = some expected →
      Trying key token events (sent + 1)
        (deeds ++ [.settled (.error fault), .sent ⟨key, expected.token, events⟩])

/-- The deeds of a batch that is over and was allowed `n` appends, with the token and the status that
it leaves its writer, and its result. -/
inductive Tried (key : Key) (token : Token) (events : List LogEvent) (n : Nat) :
    List Deed → Token → Status → Except Fault Answer → Prop
  | returned {sent deeds next} : Trying key token events sent deeds → sent ≤ n →
      Tried key token events n (deeds ++ [.settled (.ok next)]) next .active (.ok .nothing)
  | stopped {sent deeds fault} : Trying key token events sent deeds → sent ≤ n →
      fault.isFailure = false →
      Tried key token events n (deeds ++ [.settled (.error fault)]) token .active (.error fault)
  | failed {sent deeds fault} : Trying key token events sent deeds → sent ≤ n →
      fault.isFailure = true → (fault.expected? = none ∨ sent = n) →
      Tried key token events n (deeds ++ [.settled (.error fault), .removed key]) token .invalidated
        (.error (.unrecoverable key.group key.stream fault true))

namespace Trying
variable {key : Key} {token : Token} {events : List LogEvent} {sent : Nat} {deeds : List Deed}

theorem pos (trying : Trying key token events sent deeds) : 1 ≤ sent := by
  cases trying with
  | first => exact Nat.le_refl 1
  | again => exact Nat.le_add_left ..

theorem requests (trying : Trying key token events sent deeds) :
    (Deed.requests deeds).length = sent := by
  induction trying with
  | first => rfl
  | again _ _ _ ih => simp [ih]

theorem carries (trying : Trying key token events sent deeds) :
    ∀ request ∈ Deed.requests deeds, request.key = key ∧ request.events = events := by
  induction trying with
  | first => simp
  | again _ _ _ ih =>
    intro request member
    simp only [Deed.requests_append, Deed.requests_settled, Deed.requests_sent, Deed.requests_nil,
      List.mem_append, List.mem_singleton] at member
    rcases member with member | rfl
    · exact ih request member
    · exact ⟨rfl, rfl⟩

theorem outcomes (trying : Trying key token events sent deeds) :
    (Deed.outcomes deeds).length + 1 = sent := by
  induction trying with
  | first => rfl
  | again _ _ _ ih => simp [ih]

/-- Every append before the one under way was refused, and the token that it should have carried was
told. -/
theorem refused (trying : Trying key token events sent deeds) :
    ∀ outcome ∈ Deed.outcomes deeds, ∃ fault, outcome = .error fault ∧ fault.isFailure = true ∧
      fault.expected?.isSome = true := by
  induction trying with
  | first => simp
  | @again _ _ fault expected _ failed told ih =>
    intro outcome member
    simp only [Deed.outcomes_append, Deed.outcomes_settled, Deed.outcomes_sent, Deed.outcomes_nil,
      List.mem_append, List.mem_singleton] at member
    rcases member with member | rfl
    · exact ih outcome member
    · exact ⟨fault, rfl, failed, by simp [told]⟩

theorem removals (trying : Trying key token events sent deeds) : Deed.removals deeds = [] := by
  induction trying with
  | first => rfl
  | again _ _ _ ih => simp [ih]

end Trying

namespace Session
variable {s s' : Session τ σ κ} {id : WriterId} {events : List LogEvent} {n : Nat}
  {front : List Deed}

/-- The writer has changed in nothing but its lock, which keeps nobody waiting that it did not before,
and nothing is noted about it. -/
structure Steady (id : WriterId) (s s' : Session τ σ κ) : Prop where
  writer : ∃ lock, s'.writer id = { s.writer id with lock := lock } ∧
    ((s.writer id).lock.Alert → lock.Alert)
  quiet : s'.deeds id = s.deeds id

theorem Steady.of_same (writer : s'.writer id = s.writer id) (quiet : s'.deeds id = s.deeds id) :
    Steady id s s' :=
  ⟨⟨(s.writer id).lock, writer, fun alert => alert⟩, quiet⟩

theorem Apart.steady (apart : Apart s s') (known : id < s.writers.length) : Steady id s s' :=
  .of_same (writer_congr id (apart.getElem? known)) (apart.quiet id)

theorem Within.steady {busy : WriterId} (within : Within busy s s') (different : id ≠ busy) :
    Steady id s s' :=
  .of_same (writer_congr id (within.others id different)) (within.quiet id different)

theorem steady_lock (known : id < s.writers.length) {lock : Mutex}
    (alert : (s.writer id).lock.Alert → lock.Alert) :
    Steady id s (s.setWriter id { s.writer id with lock := lock }) :=
  ⟨⟨lock, writer_setWriter_self s id _ known, alert⟩, rfl⟩

theorem steady_abandon (known : id < s.writers.length) (task : TaskId) :
    Steady id s (s.abandon task) := by
  unfold abandon
  split
  · exact .of_same rfl rfl
  · rename_i other events under
    by_cases same : id = other
    · subst same
      exact steady_lock known fun alert => alert.abandon task
    · refine .of_same (writer_congr id ?_) rfl
      simp [List.getElem?_set_ne (Ne.symm same)]
  · exact .of_same rfl rfl

theorem steady_leave (known : id < s.writers.length) (task : TaskId) :
    Steady id s ((s.setWriter id { s.writer id with lock := ((s.writer id).lock.leave task).1 }).wake
      ((s.writer id).lock.leave task).2) := by
  have left := writer_setWriter_self s id
    { s.writer id with lock := ((s.writer id).lock.leave task).1 } known
  exact ⟨⟨_, (writer_wake ..).trans left, fun _ => Mutex.alert_leave task⟩, by simp⟩

/-- How far a batch comes that has the lock of its writer and was allowed `n` appends, after it did
what is in `front`. It waits for an append, and the writer is as it was; or it is over, and has let
the lock go. -/
inductive Tries (id : WriterId) (events : List LogEvent) (n : Nat) (front : List Deed)
    (s : Session τ σ κ) (stepped : Stepped τ σ κ) : Prop
  | waits {deeds sent left stage} : stepped.session.deeds id = s.deeds id ++ deeds →
      Trying (s.writer id).key (s.writer id).token events sent (front ++ deeds) → sent + left = n →
      stepped.session.writer id = s.writer id →
      stepped.progress = .suspended (.batch id events (.sending left stage)) →
      Tries id events n front s stepped
  | ends {deeds token status result} : stepped.session.deeds id = s.deeds id ++ deeds →
      Tried (s.writer id).key (s.writer id).token events n (front ++ deeds) token status result →
      stepped.session.writer id = { s.writer id with
        token := token, status := status, lock := (s.writer id).lock.release.1 } →
      stepped.progress = .finished result → Tries id events n front s stepped

/-- A step in which the batch has done more, and the writer stays as it is. -/
theorem Tries.after {s s' : Session τ σ κ} {stepped : Stepped τ σ κ} {more : List Deed}
    (tries : Tries id events n (front ++ more) s' stepped)
    (grown : s'.deeds id = s.deeds id ++ more) (writer : s'.writer id = s.writer id) :
    Tries id events n front s stepped := by
  cases tries with
  | waits deeds trying budget same progress =>
    rw [writer] at trying same
    rw [grown, List.append_assoc] at deeds
    rw [List.append_assoc] at trying
    exact .waits deeds trying budget same progress
  | ends deeds tried same progress =>
    rw [writer] at tried same
    rw [grown, List.append_assoc] at deeds
    rw [List.append_assoc] at tried
    exact .ends deeds tried same progress

variable [Transport τ σ κ]

theorem tries_settle {s : Session τ σ κ} {sent left : Nat} (known : id < s.writers.length)
    (active : (s.writer id).status = .active)
    (trying : Trying (s.writer id).key (s.writer id).token events sent front)
    (budget : sent + left = n) (result : Except Fault Token) :
    Tries id events n front s (s.settle id events left result) := by
  -- an append that is sent again adds its refusal to what the batch did before
  refine settle_induct id events
    (motive := fun s left _ stepped => ∀ sent front, id < s.writers.length →
      (s.writer id).status = .active →
      Trying (s.writer id).key (s.writer id).token events sent front → sent + left = n →
      Tries id events n front s stepped)
    ?accepted ?stopped ?fatal ?waits ?again s left result sent front known active trying budget
  case accepted =>
    intro s left next sent front known active trying budget
    have adopted : id < ((s.note [.settled id (.ok next)]).adopt id next).writers.length := by
      simpa [adopt] using known
    have told : (((s.note [.settled id (.ok next)]).adopt id next).releaseWriter id).deeds id =
        s.deeds id ++ [.settled (.ok next)] := by simp [Happening.deed?]
    refine .ends told (.returned trying (by omega)) ?_ rfl
    rw [finished, writer_releaseWriter _ id adopted, writer_adopt (s.note _) id known]
    simp [← active]
  case stopped =>
    intro s left fault passed sent front known active trying budget
    have told : ((s.note [.settled id (.error fault)]).releaseWriter id).deeds id =
        s.deeds id ++ [.settled (.error fault)] := by simp [Happening.deed?]
    refine .ends told (.stopped trying (by omega) passed) ?_ rfl
    rw [finished, writer_releaseWriter (s.note _) id known]
    simp [← active]
  case fatal =>
    intro s left fault notices failed last sent front known active trying budget
    let noticed := (s.note [.settled id (.error fault)]).notice notices
    have retired := (within_retire (s := noticed) known fault).known known
    have decided : fault.expected? = none ∨ sent = n := last.imp_right fun last => by omega
    have told : ((noticed.retire id fault).releaseWriter id).deeds id =
        s.deeds id ++ [.settled (.error fault), .removed (s.writer id).key] := by
      rw [deeds_releaseWriter, deeds_retire noticed id known fault]
      simp [noticed, Happening.deed?]
    refine .ends told (.failed trying (by omega) failed decided) ?_ rfl
    rw [finished, writer_releaseWriter _ id retired, writer_retire noticed id known]
    rfl
  case waits =>
    intro s left fault expected notices stage failed told _ sent front known active trying budget
    exact .waits (deeds_resend s id events fault notices expected) (trying.again failed told)
      (by omega) rfl rfl
  case again =>
    intro s left fault expected notices result failed told _ resent ih sent front known active trying
      budget
    have kept : Within id s resent := within_resend ..
    exact (ih (sent + 1) _ (kept.known known) active (trying.again failed told) (by omega)).after
      (deeds_resend s id events fault notices expected) rfl

theorem tries_pursue {s : Session τ σ κ} {sent left : Nat} (known : id < s.writers.length)
    (active : (s.writer id).status = .active)
    (trying : Trying (s.writer id).key (s.writer id).token events sent front)
    (budget : sent + left = n) (progress : Progress σ Token) :
    Tries id events n front s (s.pursue id events left progress) := by
  cases progress with
  | suspended stage =>
    exact .waits (List.append_nil _).symm ((List.append_nil front).symm ▸ trying) budget rfl rfl
  | finished result => exact tries_settle known active trying budget result

theorem tries_sendBatch {s : Session τ σ κ} (known : id < s.writers.length)
    (active : (s.writer id).status = .active) :
    Tries id events ((s.writer id).retries + 1) [] s (s.sendBatch id events) := by
  rw [sendBatch_active active]
  let sent := (s.send id events (s.writer id).token).1
  have tries : Tries id events ((s.writer id).retries + 1)
      ([] ++ [.sent ((s.writer id).request (s.writer id).token events)]) sent
      (sent.pursue id events (s.writer id).retries (s.send id events (s.writer id).token).2) :=
    tries_pursue (s := sent) known active .first (Nat.add_comm ..) _
  exact tries.after (deeds_send s id events _) rfl

theorem tries_locked {s : Session τ σ κ} (known : id < s.writers.length)
    (active : (s.writer id).status = .active) (events : List LogEvent) (lock : Mutex) :
    let locked := s.setWriter id { s.writer id with lock := lock }
    Tries id events ((s.writer id).retries + 1) [] locked (locked.sendBatch id events) := by
  intro locked
  have writer : locked.writer id = { s.writer id with lock := lock } :=
    writer_setWriter_self s id _ known
  have tries : Tries id events ((locked.writer id).retries + 1) [] locked
      (locked.sendBatch id events) :=
    tries_sendBatch (by simpa [locked] using known) (by rw [writer, active])
  rwa [writer] at tries

/-- What a batch does that starts: nothing if it is empty or was not serialized; else it gets the
writer's lock, or queues for it. -/
inductive Starts (s : Session τ σ κ) (task : TaskId) (id : WriterId) (batch : Batch) :
    Stepped τ σ κ → Prop
  | empty : batch.records = [] → Starts s task id batch (s.finished (.ok .nothing))
  | unserialized {fault} : batch.events = .error fault →
      Starts s task id batch (s.finished (.error fault))
  | enters {events : List LogEvent} : batch.records ≠ [] → batch.events = .ok events →
      (s.writer id).lock.available = true → Starts s task id batch
        ((s.setWriter id { s.writer id with lock := (s.writer id).lock.take }).sendBatch id events)
  | joins {events : List LogEvent} : batch.events = .ok events →
      (s.writer id).lock.available = false → Starts s task id batch
        ((s.setWriter id { s.writer id with lock := (s.writer id).lock.join task }).suspended
          (.batch id events .queued))

theorem starts (s : Session τ σ κ) (task : TaskId) (id : WriterId) (batch : Batch) :
    Starts s task id batch (s.startBatch task id batch) := by
  unfold startBatch
  split
  · rename_i empty
    exact .empty (by simpa using empty)
  · rename_i nonempty
    split
    · rename_i unserialized
      exact .unserialized unserialized
    · rename_i serialized
      dsimp only
      split
      · rename_i available
        exact .enters (by simpa using nonempty) serialized available
      · rename_i taken
        exact .joins serialized (by simpa using taken)

/-- What a batch does that goes on: in the queue it gets the lock, stays or leaves; with an append
under way it hears from the transport. -/
inductive Resumes (s : Session τ σ κ) (task : TaskId) (id : WriterId) (events : List LogEvent) :
    BatchStage σ → Signal → Stepped τ σ κ → Prop
  | enters : (s.writer id).lock.isGranted task = true →
      Resumes s task id events .queued .ready
        ((s.setWriter id { s.writer id with lock := (s.writer id).lock.enter task }).sendBatch id
          events)
  | stays : (s.writer id).lock.isGranted task = false →
      Resumes s task id events .queued .ready (s.suspended (.batch id events .queued))
  | leaves {signal} : signal ≠ .ready →
      Resumes s task id events .queued signal
        (((s.setWriter id { s.writer id with lock := ((s.writer id).lock.leave task).1 }).wake
          ((s.writer id).lock.leave task).2).finished (.error .stopped))
  | hears {left stage signal} :
      Resumes s task id events (.sending left stage) signal
        ((s.absorb (Transport.resume s.transport stage signal)).pursue id events left
          (Transport.resume s.transport stage signal).progress)

theorem resumes (s : Session τ σ κ) (task : TaskId) (id : WriterId) (events : List LogEvent)
    (stage : BatchStage σ) (signal : Signal) :
    Resumes s task id events stage signal (s.resumeBatch task id events stage signal) := by
  cases stage with
  | queued =>
    cases signal with
    | ready =>
      simp only [resumeBatch]
      split
      · rename_i granted
        exact .enters granted
      · rename_i waiting
        exact .stays (by simpa using waiting)
    | expired | interrupted => exact .leaves (by simp)
  | sending left stage =>
    rw [resumeBatch_sending]
    exact .hears

theorem Starts.steady {task : TaskId} {batch : Batch}
    {stepped : Stepped τ σ κ} (starts : Starts s task id batch stepped)
    (known : id < s.writers.length) (held : (s.writer id).lock.held = true) :
    Steady id s stepped.session := by
  cases starts with
  | empty | unserialized => exact .of_same rfl rfl
  | enters _ _ available => simp [Mutex.available, held] at available
  | joins _ taken => exact steady_lock known fun alert => alert.join taken task

theorem Resumes.steady {task : TaskId} {events : List LogEvent} {signal : Signal}
    {stepped : Stepped τ σ κ} (resumes : Resumes s task id events .queued signal stepped)
    (known : id < s.writers.length) (refused : (s.writer id).lock.isGranted task = false) :
    Steady id s stepped.session := by
  cases resumes with
  | enters granted => cases granted.symm.trans refused
  | stays => exact .of_same rfl rfl
  | leaves => exact steady_leave known task

/-- What a turn does for the writer of the batch that has it: it is about the queue alone; or it refuses
the batch, since the writer has retired; or it goes on with the trials of the batch, which has the
lock. -/
inductive Plays (id : WriterId) (s : Session τ σ κ) (stepped : Stepped τ σ κ) : Prop
  | aside : Steady id s stepped.session → stepped.session.pool = s.pool → Plays id s stepped
  | refused {lock : Mutex} :
      stepped.session.writer id = { s.writer id with lock := lock.release.1 } →
      stepped.session.deeds id = s.deeds id → stepped.session.pool = s.pool →
      stepped.progress = .finished (.error (s.writer id).invalidFault) → Plays id s stepped
  | serves {s₁ : Session τ σ κ} {lock : Mutex} {events n front} : (s.writer id).status = .active →
      s₁.writer id = { s.writer id with lock := lock } → lock.held = true →
      s₁.deeds id = s.deeds id → s₁.pool = s.pool → Within id s₁ stepped.session →
      Tries id events n front s₁ stepped → Plays id s stepped

theorem plays_sendBatch (known : id < s.writers.length) {lock : Mutex} (held : lock.held = true) :
    Plays id s
      ((s.setWriter id { s.writer id with lock := lock }).sendBatch id events) := by
  let locked := s.setWriter id { s.writer id with lock := lock }
  have known' : id < locked.writers.length := by simpa [locked] using known
  have writer : locked.writer id = { s.writer id with lock := lock } :=
    writer_setWriter_self s id _ known
  cases status : (s.writer id).status with
  | invalidated =>
    rw [sendBatch_invalidated (by rw [writer, status])]
    have released : (locked.releaseWriter id).writer id =
        { s.writer id with lock := lock.release.1 } := by
      rw [writer_releaseWriter _ id known', writer]
    refine .refused released (by simp [finished]) (by simp [finished]) ?_
    rw [finished, writer]
    rfl
  | active =>
    exact .serves status writer held rfl rfl (within_sendBatch known' events)
      (tries_locked known status events lock)

theorem Starts.plays {task : TaskId} {batch : Batch} {stepped : Stepped τ σ κ}
    (starts : Starts s task id batch stepped) (known : id < s.writers.length) :
    Plays id s stepped := by
  cases starts with
  | empty | unserialized => exact .aside (.of_same rfl rfl) rfl
  | enters => exact plays_sendBatch known rfl
  | joins _ taken => exact .aside (steady_lock known fun alert => alert.join taken task) rfl

theorem Resumes.plays {task : TaskId} {stage : BatchStage σ} {signal : Signal}
    {stepped : Stepped τ σ κ} (resumes : Resumes s task id events stage signal stepped)
    (known : id < s.writers.length)
    (busy : ∀ left sent, stage = .sending left sent →
      (s.writer id).status = .active ∧ (s.writer id).lock.held = true) : Plays id s stepped := by
  cases resumes with
  | enters => exact plays_sendBatch known rfl
  | stays waiting => exact .aside (.of_same rfl rfl) rfl
  | leaves =>
    exact .aside (steady_leave known task) (by simp [finished])
  | @hears left stage signal =>
    obtain ⟨active, held⟩ := busy left stage rfl
    let absorbed := s.absorb (Transport.resume s.transport stage signal)
    -- what the call has sent before does not matter here
    have front : Trying (absorbed.writer id).key (absorbed.writer id).token events 1 _ := .first
    have tries := tries_pursue (s := absorbed) known active front (n := 1 + left) rfl
      (Transport.resume s.transport stage signal).progress
    have same : absorbed.writer id = { s.writer id with lock := (s.writer id).lock } := rfl
    exact .serves active same held (deeds_absorb ..) rfl (within_pursue (s := absorbed) known) tries

omit [Transport τ σ κ] in
theorem Plays.retries {stepped : Stepped τ σ κ} (plays : Plays id s stepped) :
    (stepped.session.writer id).retries = (s.writer id).retries := by
  cases plays with
  | aside steady =>
    obtain ⟨lock, writer, -⟩ := steady.writer
    rw [writer]
  | refused writer => rw [writer]
  | serves _ writer _ _ _ _ tries =>
    cases tries with
    | waits _ _ _ same => rw [same, writer]
    | ends _ _ same => rw [same, writer]

end Session
end SequenceLog

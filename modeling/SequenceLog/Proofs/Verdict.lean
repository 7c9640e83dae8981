import SequenceLog.Proofs.Concern
/-! How the turns of batches end. What a batch has noted about its writer in a turn, the status of the
writer after it and the way in which the turn ended go together. Main statements:
`concludes_startBatch` and `concludes_resumeBatch`. -/
namespace SequenceLog
open Scenario
variable {τ σ κ μ χ : Type}

namespace Deed

def removal? : Deed → Option Key
  | .removed key => some key
  | _ => none

def removals (deeds : List Deed) : List Key := deeds.filterMap removal?

variable {deeds more : List Deed} {request : Append} {result : Except Fault Token} {key : Key}

@[simp] theorem removals_nil : removals [] = [] := rfl

@[simp] theorem removals_append : removals (deeds ++ more) = removals deeds ++ removals more :=
  List.filterMap_append

@[simp] theorem removals_retired : removals [.settled result, .removed key] = [key] := rfl

@[simp] theorem removals_settled : removals [.settled result] = [] := rfl

end Deed

/-- How a turn ends that a batch has with the lock of an active writer: it waits for an append, it
returns after one that succeeded, it was told to stop, or it fails with the failure of its last
append, of which the registry of the writer has been told. -/
inductive Verdict (key : Key) : List Deed → Status → Progress (Activity σ) Answer → Prop
  | waits {deeds activity} : Deed.removals deeds = [] → Verdict key deeds .active (.suspended activity)
  | returned (deeds) {next} : Deed.removals deeds = [] →
      Verdict key (deeds ++ [.settled (.ok next)]) .active (.finished (.ok .nothing))
  | stopped {deeds fault} : Deed.removals deeds = [] → fault.isFailure = false →
      Verdict key deeds .active (.finished (.error fault))
  | failed (deeds) {reason} : Deed.removals deeds = [] →
      Verdict key (deeds ++ [.settled (.error reason), .removed key]) .invalidated
        (.finished (.error (.unrecoverable key.group key.stream reason true)))

/-- What was noted earlier in the turn does not matter, as long as nobody was removed. -/
theorem Verdict.prepend {key : Key} {front deeds : List Deed} {status : Status}
    {progress : Progress (Activity σ) Answer} (verdict : Verdict key deeds status progress)
    (kept : Deed.removals front = []) : Verdict key (front ++ deeds) status progress := by
  cases verdict with
  | waits quiet => exact .waits (by simp [kept, quiet])
  | returned deeds quiet =>
    rw [← List.append_assoc]
    exact .returned _ (by simp [kept, quiet])
  | stopped quiet passed => exact .stopped (by simp [kept, quiet]) passed
  | failed deeds quiet =>
    rw [← List.append_assoc]
    exact .failed _ (by simp [kept, quiet])

/-- The second session is where a batch of the writer has come to, with a verdict on what was noted
since the first. -/
def Session.Judged (id : WriterId) (s : Session τ σ κ) (stepped : Stepped τ σ κ) : Prop :=
  ∃ deeds, stepped.session.deeds id = s.deeds id ++ deeds ∧
    Verdict (s.writer id).key deeds (stepped.session.writer id).status stepped.progress

namespace Session
variable {id : WriterId} {events : List LogEvent}

theorem Judged.after {s s' : Session τ σ κ} {stepped : Stepped τ σ κ} {front : List Deed}
    (judged : Judged id s' stepped) (grown : s'.deeds id = s.deeds id ++ front)
    (kept : Deed.removals front = []) (key : (s'.writer id).key = (s.writer id).key) :
    Judged id s stepped := by
  obtain ⟨deeds, more, verdict⟩ := judged
  exact ⟨front ++ deeds, by rw [more, grown, List.append_assoc], key ▸ verdict.prepend kept⟩

theorem Judged.of_quiet {s s' : Session τ σ κ} {stepped : Stepped τ σ κ}
    (judged : Judged id s' stepped) (quiet : s'.deeds id = s.deeds id)
    (key : (s'.writer id).key = (s.writer id).key) : Judged id s stepped :=
  judged.after (quiet.trans (List.append_nil _).symm) rfl key

theorem status_releaseWriter {s : Session τ σ κ} (known : id < s.writers.length) :
    ((s.releaseWriter id).writer id).status = (s.writer id).status := by
  rw [writer_releaseWriter s id known]

variable [Transport τ σ κ]

theorem judged_settle {s : Session τ σ κ} (known : id < s.writers.length)
    (active : (s.writer id).status = .active) (left : Nat) (result : Except Fault Token) :
    Judged id s (s.settle id events left result) := by
  refine settle_induct id events
    (motive := fun s _ _ stepped => id < s.writers.length → (s.writer id).status = .active →
      Judged id s stepped)
    ?accepted ?stopped ?fatal ?waits ?again s left result known active
  case accepted =>
    intro s left next known active
    have adopted : id < ((s.note [.settled id (.ok next)]).adopt id next).writers.length := by
      simpa [adopt] using known
    refine ⟨[.settled (.ok next)], by simp [finished, Happening.deed?], ?_⟩
    rw [finished, status_releaseWriter adopted, writer_adopt (s.note _) id known]
    exact active.symm ▸ Verdict.returned [] rfl
  case stopped =>
    intro s left fault passed known active
    refine ⟨[.settled (.error fault)], by simp [finished, Happening.deed?], ?_⟩
    rw [finished, status_releaseWriter (s := s.note _) known]
    exact active.symm ▸ Verdict.stopped rfl passed
  case fatal =>
    intro s left fault notices failed _ known active
    let noticed := (s.note [.settled id (.error fault)]).notice notices
    have retired := (within_retire (s := noticed) known fault).known known
    have told := deeds_retire noticed id known fault
    refine ⟨[.settled (.error fault), .removed (s.writer id).key], ?_, ?_⟩
    · rw [finished, deeds_releaseWriter, told]
      simp [noticed, Happening.deed?]
    · rw [finished, status_releaseWriter retired, writer_retire noticed id known]
      exact Verdict.failed [] rfl
  case waits =>
    intro s left fault expected notices stage _ _ _ known active
    have resent : ((s.resend id events fault notices expected).1.writer id).status = .active := active
    exact ⟨_, deeds_resend s id events fault notices expected, resent.symm ▸ .waits rfl⟩
  case again =>
    intro s left fault expected notices result _ _ _ resent ih known active
    have kept : Within id s resent := within_resend ..
    exact (ih (kept.known known) active).after (deeds_resend s id events fault notices expected) rfl rfl

theorem judged_pursue {s : Session τ σ κ} (known : id < s.writers.length)
    (active : (s.writer id).status = .active) (left : Nat) (progress : Progress σ Token) :
    Judged id s (s.pursue id events left progress) := by
  cases progress with
  | suspended stage => exact ⟨[], (List.append_nil _).symm, active.symm ▸ .waits rfl⟩
  | finished result => exact judged_settle known active left result

theorem judged_sendBatch {s : Session τ σ κ} (known : id < s.writers.length)
    (active : (s.writer id).status = .active) : Judged id s (s.sendBatch id events) := by
  rw [sendBatch_active active]
  let sent := (s.send id events (s.writer id).token).1
  have judged : Judged id sent (sent.pursue id events (s.writer id).retries
      (s.send id events (s.writer id).token).2) := judged_pursue (s := sent) known active ..
  exact judged.after (deeds_send s id events _) rfl rfl

/-- How a turn of a batch ends: with a verdict if the batch had the lock of an active writer, with the
refusal of a retired one, or in the queue or outside it with nothing done. -/
inductive Concludes (id : WriterId) (s : Session τ σ κ) (stepped : Stepped τ σ κ) : Prop
  | served : (s.writer id).status = .active → Judged id s stepped → Concludes id s stepped
  | refused : (s.writer id).status = .invalidated → stepped.session.deeds id = s.deeds id →
      (stepped.session.writer id).status = .invalidated →
      stepped.progress = .finished (.error (s.writer id).invalidFault) → Concludes id s stepped
  | aside : stepped.session.deeds id = s.deeds id →
      (stepped.session.writer id).status = (s.writer id).status →
      (∀ result, stepped.progress = .finished result → result = .error .stopped) →
      Concludes id s stepped

omit [Transport τ σ κ] in
theorem Concludes.of_locked {s : Session τ σ κ} {stepped : Stepped τ σ κ} (lock : Mutex)
    (known : id < s.writers.length)
    (concludes : Concludes id (s.setWriter id { s.writer id with lock := lock }) stepped) :
    Concludes id s stepped := by
  have writer := writer_setWriter_self s id { s.writer id with lock := lock } known
  cases concludes with
  | served active judged =>
    rw [writer] at active
    exact .served active (judged.of_quiet (s := s) rfl (by rw [writer]))
  | refused retired quiet after progress =>
    rw [writer] at retired progress
    exact .refused retired quiet after progress
  | aside quiet same silent =>
    rw [writer] at same
    exact .aside quiet same silent

theorem concludes_sendBatch {s : Session τ σ κ} (known : id < s.writers.length) :
    Concludes id s (s.sendBatch id events) := by
  cases status : (s.writer id).status with
  | active => exact .served status (judged_sendBatch known status)
  | invalidated =>
    rw [sendBatch_invalidated status]
    refine .refused status (deeds_releaseWriter s id) ?_ rfl
    rw [finished, status_releaseWriter known, status]

theorem concludes_startBatch {s : Session τ σ κ} (known : id < s.writers.length) (task : TaskId)
    {batch : Batch} (nonempty : batch.records ≠ []) (serialized : batch.events = .ok events) :
    Concludes id s (s.startBatch task id batch) := by
  unfold startBatch
  rw [if_neg (by simpa using nonempty), serialized]
  dsimp only
  split
  · exact .of_locked _ known (concludes_sendBatch (by simpa using known))
  · exact .of_locked _ known (.aside rfl rfl fun _ ended => by cases ended)

theorem concludes_resumeBatch {s : Session τ σ κ} (known : id < s.writers.length) (task : TaskId)
    {stage : BatchStage σ} (signal : Signal)
    (busy : ∀ left sent, stage = .sending left sent → (s.writer id).status = .active) :
    Concludes id s (s.resumeBatch task id events stage signal) := by
  cases stage with
  | queued =>
    cases signal with
    | ready =>
      simp only [resumeBatch]
      split
      · exact .of_locked _ known (concludes_sendBatch (by simpa using known))
      · exact .aside rfl rfl fun _ ended => by cases ended
    | expired | interrupted =>
      apply Concludes.of_locked ((s.writer id).lock.leave task).1 known
      refine .aside (deeds_wake ..) (congrArg (·.status) (writer_wake ..)) fun _ ended => ?_
      cases ended
      rfl
  | sending left sent =>
    rw [resumeBatch_sending]
    have active := busy left sent rfl
    let absorbed := s.absorb (Transport.resume s.transport sent signal)
    have judged : Judged id absorbed (absorbed.pursue id events left
        (Transport.resume s.transport sent signal).progress) :=
      judged_pursue (s := absorbed) known active ..
    exact .served active (judged.of_quiet (by simp [absorbed]) rfl)

end Session
end SequenceLog

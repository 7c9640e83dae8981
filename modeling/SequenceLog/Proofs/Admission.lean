import SequenceLog.Proofs.Reckoning
/-! Admission to a writer. Whatever a call did with a writer it did from the turn on in which it got the
lock, and the writer was active then; so a batch that fails for good had got the lock. Main statements:
`admitting_play` and `admitted_of_unrecoverable`. -/
namespace SequenceLog
open Scenario
variable {τ σ κ μ χ : Type}

/-- The call got the lock of the writer while it was active. -/
def Run.Admitted (r : Run τ σ κ μ χ) (id : WriterId) (call : CallId) : Prop :=
  ∃ turn ∈ r.turns, turn.call = some call ∧ turn.Enters id ∧
    (turn.before.writer id).status = .active

/-- Whoever sends to a writer, or did something with it, was admitted. -/
structure Admitting (r : Run τ σ κ μ χ) (id : WriterId) : Prop where
  sending : ∀ task, r.session.Sending id task → r.Admitted id (r.call task)
  told : ∀ entry ∈ r.chronicle id, r.Admitted id entry.1

section Turns
variable {r r' : Run τ σ κ μ χ} {turn : Turn τ σ κ μ χ} {id : WriterId} {task : TaskId}
  {stepped : Stepped τ σ κ}

theorem Run.Admitted.later {call : CallId} (admitted : r.Admitted id call)
    (turns : r'.turns = r.turns ++ [turn]) : r'.Admitted id call := by
  obtain ⟨entry, member, own, enters, active⟩ := admitted
  exact ⟨entry, turns ▸ List.mem_append_left _ member, own, enters, active⟩

theorem Takes.admitting (takes : Takes r r' task stepped) (turns : r'.turns = r.turns ++ [turn])
    (admitting : Admitting r id)
    (gate : r'.session.Sending id task ∨ stepped.session.deeds id ≠ [] →
      r'.Admitted id (r'.call task)) : Admitting r' id where
  sending other sends := by
    by_cases own : other = task
    · subst own
      exact gate (.inl sends)
    · rw [Session.Sending, takes.active_other own] at sends
      rw [takes.others other own]
      exact (admitting.sending other sends).later turns
  told entry member := by
    rw [takes.chronicle, Session.told, List.mem_append] at member
    rcases member with old | new
    · exact (admitting.told entry old).later turns
    · obtain ⟨deed, noted, rfl⟩ := List.mem_map.1 new
      exact gate (.inr (List.ne_nil_of_mem noted))

/-- A turn that leaves a batch in the queue, or ends it, has nothing to do with the writer. -/
theorem Takes.no_gate (takes : Takes r r' task stepped) (quiet : stepped.session.deeds id = [])
    (still : ∀ events left stage,
      stepped.progress ≠ .suspended (.batch id events (.sending left stage))) :
    ¬ (r'.session.Sending id task ∨ stepped.session.deeds id ≠ []) := by
  rintro (⟨events, left, stage, under⟩ | noted)
  · rw [takes.active_self, Stepped.activity?] at under
    split at under
    · rename_i progress
      cases under
      exact still events left stage progress
    · cases under
  · exact noted quiet

/-- A batch that gets the lock is admitted, or is refused by a writer that has retired. -/
theorem Takes.gate_locked [Transport τ σ κ] {lock : Mutex} {events : List LogEvent}
    (known : id < r.session.writers.length)
    (takes : Takes r r' task
      ((r.session.fresh.setWriter id { r.session.writer id with lock := lock }).sendBatch id events))
    (turns : r'.turns = r.turns ++ [turn]) (own : turn.call = some (r'.call task))
    (before : turn.before = r.session.fresh) (enters : turn.Enters id)
    (gate : r'.session.Sending id task ∨ ((r.session.fresh.setWriter id
      { r.session.writer id with lock := lock }).sendBatch id events).session.deeds id ≠ []) :
    r'.Admitted id (r'.call task) := by
  cases status : (r.session.writer id).status with
  | active =>
    refine ⟨turn, by simp [turns], own, enters, ?_⟩
    rw [before]
    exact status
  | invalidated =>
    let locked := r.session.fresh.setWriter id { r.session.writer id with lock := lock }
    have writer : locked.writer id = { r.session.writer id with lock := lock } :=
      Session.writer_setWriter_self r.session.fresh id _ known
    have refused : locked.sendBatch id events = _ :=
      Session.sendBatch_invalidated (by rw [writer, status])
    refine absurd gate (takes.no_gate ?_ fun _ _ _ waits => ?_)
    · rw [refused]
      exact Session.deeds_releaseWriter ..
    · rw [refused] at waits
      cases waits

end Turns

section Play
variable [Transport τ σ κ] [Commanded τ μ χ κ] {r : Run τ σ κ μ χ} {id : WriterId}

theorem admitting_step (sound : Sound r) (admitting : Admitting r id) (move : Move μ χ) :
    Admitting (r.step move) id := by
  have concerns := concerns_step sound move id
  have calls : ∀ task, r.session.active task ≠ none → (r.step move).call task = r.call task :=
    fun task under => Run.call_step sound under move
  generalize r.step move = r' at concerns calls ⊢
  cases concerns with
  | stay => exact admitting
  | spared turns before after other spares =>
    refine ⟨fun task ⟨events, left, stage, sends⟩ => ?_, fun entry member => ?_⟩
    · have same := spares.batches task (by simp [Session.batchOf, sends, Activity.writer?])
      rw [calls task (by simp [← same, sends])]
      exact (admitting.sending task ⟨events, left, stage, same ▸ sends⟩).later turns
    · rw [Run.chronicle_step turns, Turn.deeds_of_quiet (after ▸ spares.quiet),
        List.append_nil] at member
      exact (admitting.told entry member).later turns
  | @start task batch _ known _ takes turns =>
    refine takes.admitting turns admitting ?_
    have starts := r.session.fresh.starts task id batch
    generalize r.session.fresh.startBatch task id batch = stepped at starts takes turns ⊢
    cases starts with
    | empty | unserialized =>
      exact fun gate => absurd gate (takes.no_gate rfl fun _ _ _ waits => by cases waits)
    | joins =>
      exact fun gate => absurd gate (takes.no_gate rfl fun _ _ _ waits => by cases waits)
    | enters nonempty serialized available =>
      exact takes.gate_locked known turns rfl rfl ⟨rfl, nonempty, ⟨_, serialized⟩, available⟩
  | @resume task events place signal _ under takes turns =>
    refine takes.admitting turns admitting ?_
    have known := (sound.asked task id events place under).1
    have resumes := r.session.fresh.resumes task id events place signal
    generalize r.session.fresh.resumeBatch task id events place signal = stepped
      at resumes takes turns ⊢
    cases resumes with
    | enters granted =>
      exact takes.gate_locked known turns rfl rfl ⟨⟨_, under⟩, granted⟩
    | stays =>
      exact fun gate => absurd gate (takes.no_gate rfl fun _ _ _ waits => by cases waits)
    | leaves =>
      refine fun gate => absurd gate (takes.no_gate ?_ fun _ _ _ waits => by cases waits)
      exact Session.deeds_wake ..
    | @hears left stage =>
      intro _
      rw [calls task (by simp [under])]
      exact (admitting.sending task ⟨events, left, stage, under⟩).later turns

theorem admitting_play (sound : Sound r) (admitting : Admitting r id) (moves : List (Move μ χ)) :
    Admitting (r.play moves) id :=
  play_induct sound admitting fun _ sound admitting move _ => admitting_step sound admitting move

omit [Transport τ σ κ] [Commanded τ μ χ κ] in
theorem admitting_new (transport : τ) (createStreams : Bool) (maxAttempts : Int) (id : WriterId) :
    Admitting (.new transport createStreams maxAttempts : Run τ σ κ μ χ) id where
  sending _ sends := by
    obtain ⟨_, _, _, under⟩ := sends
    cases under
  told _ member := by cases member

omit [Transport τ σ κ] [Commanded τ μ χ κ] in
theorem admitted_of_unrecoverable (admitting : Admitting r id) (retiring : Retiring r id)
    (suited : Suited r) {call : CallId} {batch : Batch} {fault : Fault}
    (called : r.operations[call]? = some (.write id batch))
    (failed : .error fault ∈ r.results call) (final : fault.isUnrecoverable = true) :
    r.Admitted id call := by
  obtain ⟨turn, member, ended⟩ := List.mem_filterMap.1 failed
  split at ended
  · rename_i own
    have writer := suited.writer member own called
    rcases retiring.turns turn member with keeps | ⟨reason, retires⟩
    · have bearable := keeps.bearable
      simp [Turn.failure?, ended, writer, final] at bearable
    · obtain ⟨front, -, deeds⟩ := retires.deeds
      refine admitting.told (call, .removed (turn.before.writer id).key)
        (List.mem_flatMap.2 ⟨turn, member, ?_⟩)
      simp [Turn.deeds, own, deeds]
  · cases ended

end Play
end SequenceLog

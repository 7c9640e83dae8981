import SequenceLog.Proofs.Batch
/-! Soundness of runs. Whatever the transport does and whenever tasks are told to stop, every move
keeps each writer attended. -/
namespace SequenceLog
open Scenario
variable {τ σ κ μ χ : Type}

section Silent
variable (s : Session τ σ κ)

/-- Searches and bare operations never turn into batches. -/
theorem Session.relay_silent (reply : Reply τ σ κ Token) :
    (s.relay reply).activity?.bind Activity.writer? = none := by
  simp only [relay, Stepped.activity?]
  cases reply.progress <;> rfl

theorem Session.openPrepared_silent (key : Key) (era : Nat) (prepared : Except Fault Token) :
    (s.openPrepared key era prepared).activity?.bind Activity.writer? = none := by
  unfold openPrepared
  split <;> rfl

variable [Transport τ σ κ]

theorem Session.prepare_silent (key : Key) (era : Nat) :
    (s.prepare key era).activity?.bind Activity.writer? = none := by
  unfold prepare
  split
  · rfl
  · split
    · dsimp only
      split
      · rfl
      · exact openPrepared_silent ..
    · exact openPrepared_silent ..

theorem Session.startLookup_silent (task : TaskId) (key : Key) :
    (s.startLookup task key).activity?.bind Activity.writer? = none := by
  unfold startLookup
  split
  · rfl
  · dsimp only
    split
    · exact prepare_silent ..
    · rfl

theorem Session.resumeLookup_silent (task : TaskId) (key : Key) (era : Nat) (stage : LookupStage σ)
    (signal : Signal) :
    (s.resumeLookup task key era stage signal).activity?.bind Activity.writer? = none := by
  unfold resumeLookup
  dsimp only
  split
  · split
    · exact prepare_silent ..
    · rfl
  · rfl
  · split
    · rfl
    · exact openPrepared_silent ..

end Silent

theorem sound_new (transport : τ) (createStreams : Bool) (maxAttempts : Int) :
    Sound (.new transport createStreams maxAttempts : Run τ σ κ μ χ) := by
  constructor
  · intro task under
    exact absurd rfl under
  · intro task id events stage under
    cases under
  · intro id _
    rfl
  · rfl
  · intro id known
    exact absurd known (Nat.not_lt_zero id)

/-- Between the turns writers stay as they are, or somebody in a queue gives up. -/
theorem Sound.pass {r : Run τ σ κ μ χ} (sound : Sound r) (move : Move μ χ) {s : Session τ σ κ}
    (active : s.active = r.session.active)
    (longer : r.session.writers.length ≤ s.writers.length)
    (newborn : ∀ id, r.session.writers.length ≤ id → id < s.writers.length →
      (s.writer id).lock = .free ∧ (s.writer id).status = .active)
    (writers : ∀ id, id < r.session.writers.length → s.writer id = r.session.writer id ∨
      ∃ task, s.writer id =
        { r.session.writer id with lock := (r.session.writer id).lock.abandon task }) :
    Sound (r.pass move s) := by
  refine sound.advance (fun task under => ?_) (fun task id events stage under => ?_) longer newborn
    (fun id late => ?_) (r.opened_pass move s) fun id known => ?_
  · exact sound.began task (congrFun active task ▸ under)
  · exact sound.asked task id events stage ((congrFun active task).symm.trans under)
  · rw [Run.chronicle_pass, sound.strange id late]
  · obtain ⟨lane, attended⟩ := sound.attended id known
    have first : (r.pass move s).firstToken id = r.firstToken id := by
      rw [Run.firstToken, r.opened_pass, List.getElem?_append_left (sound.opened.symm ▸ known)]
      rfl
    rcases writers id known with same | ⟨task, changed⟩
    · exact ⟨lane, attended.congr same (fun task => .inl (congrFun active task)) (fun _ _ => rfl)
        (fun _ _ asked => asked) first (r.chronicle_pass move s id)⟩
    · have sending : s.Sending id = r.session.Sending id := by
        funext task
        simp [Session.Sending, active]
      have queueing : s.Queueing id = r.session.Queueing id := by
        funext task
        simp [Session.Queueing, active]
      refine ⟨lane, ?_⟩
      constructor
      · rw [Run.pass, changed, sending, queueing]
        exact attended.guards.abandon task
      · rw [Run.pass, changed]
        exact attended.ordered.abandon task
      · rw [first, r.chronicle_pass, Run.pass, changed]
        exact attended.lawful
      · rw [Run.pass, changed, attended.token]
      · rw [Run.pass, changed, attended.status]
      · rw [Run.pass, changed]
        simpa only [active, sending] using attended.phase

theorem Sound.pass_apart {r : Run τ σ κ μ χ} (sound : Sound r) (move : Move μ χ)
    {s : Session τ σ κ} (apart : r.session.fresh.Apart s) : Sound (r.pass move s) :=
  sound.pass move apart.active apart.longer (fun _ late young => apart.newborn late young)
    fun id known => .inl (Session.writer_congr id (apart.getElem? known))

/-- Giving up a place in a queue. -/
theorem Sound.pass_abandon {r : Run τ σ κ μ χ} (sound : Sound r) (move : Move μ χ) (task : TaskId) :
    Sound (r.pass move (r.session.fresh.abandon task)) := by
  unfold Session.abandon
  split
  · exact sound.pass_apart move Session.apart_setKeyLock
  · rename_i id events under
    have length : (r.session.fresh.setWriter id { r.session.writer id with
        lock := (r.session.writer id).lock.abandon task }).writers.length =
        r.session.writers.length := by simp [Session.fresh]
    refine sound.pass move rfl (Nat.le_of_eq length.symm) (fun other late young => ?_)
      fun other known => ?_
    · exact absurd (length ▸ young) (Nat.not_lt.2 late)
    · by_cases same : other = id
      · subst same
        exact .inr ⟨task, Session.writer_setWriter_self r.session.fresh other _ known⟩
      · refine .inl (Session.writer_congr other ?_)
        simp [Session.fresh, List.getElem?_set_ne (Ne.symm same)]
  · exact sound.pass_apart move (.refl _)

section Play
variable [Transport τ σ κ] [Commanded τ μ χ κ]

theorem sound_step {r : Run τ σ κ μ χ} (sound : Sound r) (move : Move μ χ) : Sound (r.step move) := by
  have steps := steps_step sound move
  generalize r.step move = r' at steps ⊢
  -- only batches have to do with the lanes of writers
  cases steps with
  | stay => exact sound
  | @start task operation _ idle known operations call takes =>
    have nothing : r.session.batchOf task = none := by simp [Session.batchOf, idle]
    cases operation with
    | append request | ensureStream key =>
      exact takes.sound_apart sound Session.apart_absorb nothing (Session.relay_silent ..)
    | getWriter key =>
      exact takes.sound_apart sound Session.apart_startLookup nothing
        (Session.startLookup_silent ..)
    | write id batch =>
      exact takes.sound_startBatch sound (known id batch rfl) idle operations call
  | @resume task signal activity _ under operations call takes =>
    cases activity with
    | transport stage =>
      have nothing : r.session.batchOf task = none := by
        simp [Session.batchOf, under, Activity.writer?]
      exact takes.sound_apart sound Session.apart_absorb nothing (Session.relay_silent ..)
    | lookup key era stage =>
      have nothing : r.session.batchOf task = none := by
        simp [Session.batchOf, under, Activity.writer?]
      exact takes.sound_apart sound Session.apart_resumeLookup nothing
        (Session.resumeLookup_silent ..)
    | batch id events stage => exact takes.sound_resumeBatch sound under call
  | pass between =>
    cases move with
    | start task operation | resume task signal => cases between
    | abandon task => exact sound.pass_abandon _ task
    | remove key writer => exact sound.pass_apart _ Session.apart_remove
    | closePool =>
      have kept : r.session.fresh.closePool.writers = r.session.fresh.writers ++ [] :=
        (List.append_nil _).symm
      exact sound.pass_apart _ ⟨rfl, ⟨[], kept, by simp⟩, fun _ => rfl⟩
    | openWriter key registry token maxAttempts =>
      exact sound.pass_apart _ Session.apart_openWriter
    | command command => exact sound.pass_apart _ Session.apart_absorb
    | chore stage signal => exact sound.pass_apart _ Session.apart_absorb

/-- What holds at first, and what the moves keep, holds when they have been made. -/
theorem play_induct {motive : Run τ σ κ μ χ → Prop} {r : Run τ σ κ μ χ} {moves : List (Move μ χ)}
    (sound : Sound r) (start : motive r)
    (step : ∀ r, Sound r → motive r → ∀ move ∈ moves, motive (r.step move)) :
    motive (r.play moves) := by
  induction moves generalizing r with
  | nil => exact start
  | cons move moves ih =>
    exact ih (sound_step sound move) (step r sound start move List.mem_cons_self)
      fun r sound now move member => step r sound now move (List.mem_cons_of_mem _ member)

theorem sound_play {r : Run τ σ κ μ χ} (sound : Sound r) (moves : List (Move μ χ)) :
    Sound (r.play moves) :=
  play_induct sound sound fun _ sound _ move _ => sound_step sound move

end Play

end SequenceLog

import SequenceLog.Proofs.Following
import SequenceLog.Scenario.Run
/-! Schedules make runs. Whatever the steps of a scenario are, and however long it goes on, the session
stands where some moves lead, and the calls and notices that were reported are those of these moves. So
what holds in every run holds of every scenario. Main statements: `run_plays`, and `runSteps_plays` about
what a scenario comes to in the end. -/
namespace SequenceLog.Scenario.Schedule
open Act
variable {τ σ κ μ χ α β : Type}

/-- After a step that is not over a thread is suspended in it. -/
def Core.Taken (start : Run τ σ κ μ χ) [Transport τ σ κ] [Commanded τ μ χ κ] (task : TaskId)
    (outcome? : Option α) (c : Core τ σ κ χ) : Prop :=
  c.Stands start ∧ (outcome? ≠ none → c.Rests start task)

section Acts
variable [Transport τ σ κ] [Commanded τ μ χ κ] {start : Run τ σ κ μ χ} {task : TaskId}

theorem Core.Rests.taken {c : Core τ σ κ χ} (rests : c.Rests start task) (outcome? : Option α) :
    c.Taken start task outcome? :=
  ⟨rests.toStands, fun _ => rests⟩

theorem Core.Stands.taken {c : Core τ σ κ χ} (stands : c.Stands start) :
    c.Taken start task (none : Option α) :=
  ⟨stands, fun ended => absurd rfl ended⟩

theorem leads_answer {c : Core τ σ κ χ} (rests : c.Rests start task) (outcome? : Option α) :
    (pure outcome? : Act τ σ κ μ χ (Option α)).Leads (· = c)
      fun outcome? => Core.Taken start task outcome? :=
  .pure fun _ same => same ▸ rests.taken _

theorem leads_presentWriter (name : Option Text) (id : WriterId) :
    (presentWriter name id : Act τ σ κ μ χ Result).Leads
      (fun c => c.Rests start task ∧ id < c.session.writers.length) fun _ => Core.Rests start task := by
  have number : Leads (Core.Rests start task) (do
      let number ← writerNumber id
      return .writer number ((← MonadState.get).session.writer id).token : Act τ σ κ μ χ Result)
      fun _ => Core.Rests start task :=
    .bind (.quiet (keeps_writerNumber (fun _ _ => rfl) id)) fun _ => .get fun s now =>
      .pure fun c same => same ▸ now
  cases name with
  | none => exact fun s now => number s now.1
  | some name =>
    exact fun s now => number _ (now.1.naming name now.2 : (s.core.naming name id).Rests start task)

theorem leads_present (step : Step μ) (result : Except Fault Answer) :
    (present step result : Act τ σ κ μ χ Outcome).Leads
      (fun c => c.Rests start task ∧
        ∀ id, result = .ok (.writer id) → id < c.session.writers.length)
      fun _ => Core.Rests start task := by
  rcases result with fault | (_ | token | id)
  · exact .pure fun _ now => now.1
  · exact .pure fun _ now => now.1
  · exact .pure fun _ now => now.1
  · intro s now
    exact Leads.bind (leads_presentWriter _ id) (fun _ => .pure fun _ now => now) s
      ⟨now.1, now.2 id rfl⟩

omit [Transport τ σ κ] [Commanded τ μ χ κ] in
/-- What happened in the session is taken down when the session is taken over. -/
theorem leads_takeOver {P N : Core τ σ κ χ → Prop} {R : β → Core τ σ κ χ → Prop}
    {f : Session τ σ κ → Session τ σ κ} {next : Act τ σ κ μ χ β}
    (now : ∀ c, P c → N (c.turning (f c.session)).collected) (rest : next.Leads N fun b => R b) :
    Leads P (do modify fun s => { s with session := f s.session }; collect; next) R :=
  .bind (.of_core (f := fun c => c.turning (f c.session)) (fun _ => rfl) (N := fun c => N c.collected)
    now) fun _ => .bind (.of_core core_collect fun _ now => now) fun _ => rest

theorem leads_operate (step : Step μ) (turn : Session τ σ κ × Option (Except Fault Answer)) :
    (operate task step turn : Act τ σ κ μ χ (Option Outcome)).Leads
      (Core.Turned start task turn) fun outcome? => Core.Taken start task outcome? := by
  obtain ⟨session, result?⟩ := turn
  cases result? with
  | some result =>
    refine leads_takeOver (f := fun _ => session) (fun c turned => ?_) (.bind (leads_present step result)
      fun _ => .pure fun _ rests => rests.taken _)
    exact ⟨turned.rests (by simp), fun id given => turned.opened id (congrArg some given)⟩
  | none =>
    refine leads_takeOver (f := fun _ => session) (N := fun c => (c.working task .operation).Stands start)
      (fun c turned => turned.suspended) (.bind (.of_core core_suspendFor fun _ now => now)
        fun _ => .pure fun _ stands => stands.taken)

/-- A thread is suspended in a step that is no operation. -/
theorem leads_suspended {act : Act τ σ κ μ χ Unit} {work : Work χ}
    (core : ∀ s, (act s).2.core = s.core.working task work) :
    (do act; return none : Act τ σ κ μ χ (Option Outcome)).Leads (Core.Rests start task)
      fun outcome? => Core.Taken start task outcome? :=
  .bind (.of_core core fun _ rests => rests.working work) fun _ =>
    .pure fun _ rests => rests.taken none

theorem leads_commandReply (reply : Reply τ χ κ Result) :
    (commandReply task reply : Act τ σ κ μ χ (Option Outcome)).Leads
      (fun c => c.Rests start task ∧ ∃ move, start.caller move = none ∧
        (c.session.play move).1 = c.session.absorb reply)
      fun outcome? => Core.Taken start task outcome? := by
  refine leads_takeOver (f := fun s => s.absorb reply) (N := Core.Rests start task) (fun c now => ?_) ?_
  · obtain ⟨rests, move, between, absorbs⟩ := now
    exact absorbs ▸ rests.pass move between
  split
  · exact .pure fun _ rests => rests.taken _
  · exact .pure fun _ rests => rests.taken _
  · exact leads_suspended core_suspendFor

theorem leads_withWriter (name : Text) {c : Core τ σ κ χ} (rests : c.Rests start task)
    {step : WriterId → Act τ σ κ μ χ (Option Outcome)}
    (leads : ∀ id, id < c.session.writers.length →
      (step id).Leads (· = c) fun outcome? => Core.Taken start task outcome?) :
    (withWriter name step).Leads (· = c) fun outcome? => Core.Taken start task outcome? := by
  refine .get fun s same => ?_
  split
  · rename_i id named
    obtain ⟨moves, follows⟩ := rests.played
    refine same ▸ leads id ?_
    rw [follows.session]
    exact follows.known name id (same ▸ named)
  · exact same ▸ leads_answer rests _

theorem leads_remove (key : Key) (writer : Option WriterId) :
    (do modify fun s => { s with session := s.session.remove key writer }
        collect
        return some (.ok .nothing) : Act τ σ κ μ χ (Option Outcome)).Leads (Core.Rests start task)
      fun outcome? => Core.Taken start task outcome? :=
  leads_takeOver (f := fun s => s.remove key writer) (N := Core.Rests start task)
    (fun _ rests => rests.pass (.remove key writer) rfl) (.pure fun _ rests => rests.taken _)

theorem leads_takeStep (step : Step μ) :
    (takeStep task step : Act τ σ κ μ χ (Option Outcome)).Leads (Core.Rests start task)
      fun outcome? => Core.Taken start task outcome? := by
  refine .get fun s rests => ?_
  have starts : ∀ operation, (∀ id batch, operation ≠ .write id batch) →
      (operate task step (s.session.start task operation) : Act τ σ κ μ χ _).Leads (· = s.core)
        fun outcome? => Core.Taken start task outcome? := fun operation other =>
    (leads_operate _ _).known (rests.turned operation fun id batch same => absurd same (other id batch))
  cases step with
  | append request => exact starts (.append request) fun _ _ same => by cases same
  | ensureStream key => exact starts (.ensureStream key) fun _ _ same => by cases same
  | getWriter key => exact starts (.getWriter key) fun _ _ same => by cases same
  | isConnected | poolSize => exact leads_answer rests _
  | command command =>
    exact (leads_commandReply _).known ⟨rests, .command command, rfl, rfl⟩
  | remove key writer =>
    cases writer with
    | none => exact (leads_remove key none).known rests
    | some name => exact leads_withWriter name rests fun id _ => (leads_remove key (some id)).known rests
  | contains parts =>
    dsimp only
    split <;> exact leads_answer rests _
  | closePool =>
    refine .bind (.of_core (f := fun c => c.turning c.session.closePool) (fun _ => rfl)
      (N := Core.Rests start task) fun c same => ?_) fun _ => .pure fun _ rests => rests.taken _
    exact (same ▸ rests).pass_silent .closePool rfl rfl
  | openWriter key registry token maxAttempts name =>
    obtain ⟨silent, opens⟩ := s.session.openWriter_opens key registry token maxAttempts
    have rests' : (s.core.turning (s.session.openWriter key registry token maxAttempts).session).Rests
        start task :=
      rests.pass_silent (.openWriter key registry token maxAttempts) rfl silent
    dsimp only
    generalize s.session.openWriter key registry token maxAttempts = opened at opens rests' ⊢
    refine .bind (.of_core (f := fun c => c.turning opened.session) (fun _ => rfl)
      (N := (· = s.core.turning opened.session)) fun c same => ?_) fun _ => ?_
    · exact congrArg (·.turning opened.session) same
    split
    · rename_i result progress
      refine (Leads.bind (leads_present _ result) fun _ => .pure fun _ rests => rests.taken _).known ?_
      exact ⟨rests', fun id given => opens id (by rw [Stepped.result?, progress, given])⟩
    · exact leads_answer rests' _
  | write name batch =>
    refine leads_withWriter name rests fun id opened => (leads_operate _ _).known ?_
    refine rests.turned (.write id batch) fun _ _ same => ?_
    cases same
    exact opened
  | closeWriter name | inspect name => exact leads_withWriter name rests fun _ _ => leads_answer rests _
  | sleep delay => exact (leads_suspended core_pause).known rests
  | gather branches =>
    cases branches with
    | nil => exact leads_answer rests _
    | cons branch branches =>
      refine (Leads.bind (.mapM (fun steps => .of_core core_spawn fun _ rests => rests.spawning) _)
        fun children => leads_suspended core_suspend).known rests
  | cancel delay subject =>
    exact (Leads.bind (.of_core core_spawn fun _ rests => rests.spawning)
      fun child => leads_suspended core_pause).known rests

theorem leads_finish (unstarted : Bool) :
    (finish task unstarted : Act τ σ κ μ χ Unit).Leads (Core.Rests start task)
      fun _ => Core.Stands start :=
  .of_core core_finish fun _ rests => (rests.working .over).toStands

/-- A thread takes its steps one after the other until it is suspended. -/
theorem leads_takeSteps (steps : List (Step μ)) :
    (takeSteps task steps : Act τ σ κ μ χ Unit).Leads (Core.Rests start task)
      fun _ => Core.Stands start := by
  -- a thread that is between two steps is idle, and so may start an operation
  induction steps with
  | nil => exact leads_finish false
  | cons step rest ih =>
    refine .bind (leads_takeStep step) fun outcome? => ?_
    cases outcome? with
    | some outcome => exact .bind (.quiet quiet_complete) fun _ s taken => ih s (taken.2 (by simp))
    | none => exact .pure fun _ taken => taken.1

theorem leads_requestStop (fuel : Nat) (other : TaskId) :
    (requestStop fuel other : Act τ σ κ μ χ Bool).Leads (Core.Rests start task)
      fun _ => Core.Rests start task := by
  -- who waits for others only passes the request on; a move is made where somebody queues for a lock
  induction fuel generalizing other with
  | zero => exact .pure fun _ rests => rests
  | succ fuel ih =>
    refine .get fun s rests => ?_
    have interrupts : (modifyThread other ({ · with interrupted := true }) : Act τ σ κ μ χ Unit).Quiet :=
      quiet_modifyThread fun _ => rfl
    dsimp only
    split
    · exact .pure fun c same => same ▸ rests
    refine Leads.known (P := Core.Rests start task) ?_ rests
    have done : (do modifyThread other ({ · with interrupted := true }); return true :
        Act τ σ κ μ χ Bool).Leads (Core.Rests start task) fun _ => Core.Rests start task :=
      .bind (.quiet interrupts) fun _ => .pure fun _ rests => rests
    split
    · exact done
    split
    · refine .bind (ih _) fun stopped => ?_
      split
      · exact done
      · exact .pure fun _ rests => rests
    · refine .bind (.forIn (fun branch stopped => .bind (ih branch) fun _ => ?_) _ _) fun stopped => ?_
      · split <;> exact .pure fun _ rests => rests
      · split
        · exact .bind (.quiet (quiet_modifyThread fun _ => rfl)) fun _ => .pure fun _ rests => rests
        · exact done
    · have woken : (do modifyThread other ({ · with interrupted := true }); wake other; return true :
          Act τ σ κ μ χ Bool).Leads (Core.Rests start task) fun _ => Core.Rests start task :=
        .bind (.quiet interrupts) fun _ => .bind (.quiet quiet_wake) fun _ => .pure fun _ rests => rests
      split
      · refine .bind (.of_core (f := fun c => c.turning (c.session.abandon other)) (fun _ => rfl)
          fun c rests => ?_) fun _ => woken
        exact rests.pass_silent (.abandon other) rfl (Session.abandon_happened ..)
      · exact woken

/-- A thread goes on with the step that it is suspended in. -/
theorem leads_goOn (step : Step μ) (t : Thread μ χ) {c : Core τ σ κ χ} (stands : c.Stands start)
    (there : c.works[task]? = some t.work) :
    (goOn task step t : Act τ σ κ μ χ (Option Outcome)).Leads (· = c)
      fun outcome? => Core.Taken start task outcome? := by
  obtain ⟨parent, steps, answers, work, hold, queued, interrupted⟩ := t
  have among : task < c.works.length := (List.getElem?_eq_some_iff.1 there).1
  have rests : work ≠ .operation → c.Rests start task := stands.rests there
  cases work with
  | sleeping => exact leads_answer (rests nofun) _
  | operation =>
    refine .bind (.quiet quiet_signal?) fun signal? => ?_
    cases signal? with
    | none => exact Leads.known (.pure fun _ stands => stands.taken) stands
    | some signal =>
      refine .get fun s same => ?_
      subst same
      exact (leads_operate _ _).known (stands.turned among signal)
  | chore chore =>
    refine .bind (.quiet quiet_signal?) fun signal? => ?_
    cases signal? with
    | none => exact Leads.known (.pure fun _ stands => stands.taken) stands
    | some signal =>
      refine .get fun s same => ?_
      subst same
      exact (leads_commandReply _).known ⟨rests nofun, .chore chore signal, rfl, rfl⟩
  | gathering branches =>
    dsimp only [goOn]
    split
    · exact leads_answer (rests nofun) _
    · exact .get fun s same => same ▸ leads_answer (rests nofun) _
  | timing subject =>
    dsimp only [goOn]
    split
    · exact leads_answer (rests nofun) _
    · refine Leads.known (.get fun s rests => .bind (.known (leads_requestStop _ subject) rests)
        fun _ => .get fun s' rests => ?_) (rests nofun)
      split
      · exact .bind (.quiet quiet_subjectOutcome) fun _ => leads_answer rests _
      · exact (leads_suspended core_suspend).known rests
  | joining subject =>
    dsimp only [goOn]
    split
    · exact leads_answer (rests nofun) _
    · exact .bind (.quiet quiet_subjectOutcome) fun _ => leads_answer (rests nofun) _
  | _ => exact Leads.known (.pure fun _ stands => stands.taken) stands

omit [Transport τ σ κ] [Commanded τ μ χ κ] in
theorem works_core {s : Schedule τ σ κ μ χ} (among : task < s.threads.length) :
    s.core.works[task]? = some (s.thread task).work := by
  simp [core, thread, List.getElem?_eq_getElem among]

theorem leads_takeTurn (task : TaskId) :
    (takeTurn task : Act τ σ κ μ χ Unit).Leads (Core.Stands start) fun _ => Core.Stands start := by
  refine .get fun s stands => .bind (.quiet (quiet_modifyThread fun _ => rfl)) fun _ => ?_
  have there : (s.thread task).steps ≠ [] ∨ (s.thread task).work ≠ .over →
      s.core.works[task]? = some (s.thread task).work := by
    intro busy
    refine works_core (Decidable.byContradiction fun strange => ?_)
    have nobody : s.thread task = default := by simp [thread, Nat.not_lt.1 strange]
    rw [nobody] at busy
    exact busy.elim (absurd rfl) (absurd rfl)
  refine .perhaps quiet_dropTimer ?_
  dsimp only
  split
  · rename_i starting
    have rests := stands.rests (there (.inr (by simp [starting]))) (by simp [starting])
    split
    · exact (leads_finish true).known rests
    · exact (leads_takeSteps _).known rests
  · exact .pure fun _ same => same ▸ stands
  · rename_i step rest steps _
    refine .bind (leads_goOn step _ stands (there (.inl (by simp [steps])))) fun outcome? => ?_
    cases outcome? with
    | some outcome =>
      exact .bind (.quiet quiet_complete) fun _ s taken => leads_takeSteps rest s (taken.2 (by simp))
    | none => exact .pure fun _ taken => taken.1

theorem leads_dispatch (callback : Callback) :
    (dispatch callback : Act τ σ κ μ χ Unit).Leads (Core.Stands start) fun _ => Core.Stands start := by
  cases callback with
  | turn task => exact leads_takeTurn task
  | call id => exact .quiet quiet_takeCallTurn
  | callOver id => exact .quiet (.bind .get fun _ => quiet_wakeForCall)
  | ring alarm => exact .quiet quiet_ring
  | branchOver task unstarted =>
    refine .quiet (.bind .get fun s => ?_)
    split
    · split
      · exact .bind (quiet_modifyThread fun _ => rfl) fun _ => quiet_wake
      · exact quiet_modifyThread fun _ => rfl
    · exact .pure _

theorem leads_run (fuel : Nat) :
    (run fuel : Act τ σ κ μ χ Unit).Leads (Core.Stands start) fun _ => Core.Stands start := by
  -- a round begins without a move, and every callback of it leads on by some
  induction fuel with
  | zero => exact .pure fun _ stands => stands
  | succ fuel ih =>
    refine .get fun s stands => ?_
    split
    · exact .pure fun _ same => same ▸ stands
    split
    · rename_i callback rest _
      have same : ({ s with round := rest } : Schedule τ σ κ μ χ).core = s.core := rfl
      exact .bind (fun _ _ => same ▸ stands) fun _ => .bind (leads_dispatch callback) fun _ => ih
    · dsimp only
      split
      · exact .pure fun _ same => same ▸ stands
      · exact .bind (fun _ _ => (rfl : s.beginRound.core = s.core) ▸ stands) fun _ => ih

end Acts

section Scenario
variable [Transport τ σ κ] [Commanded τ μ χ κ] (transport : τ) (createStreams : Bool)
  (maxAttempts : Int) (steps : List (Step μ))

/-- Before its first turn a scenario has done nothing. -/
theorem stands_initial :
    (initial transport (.new createStreams maxAttempts) steps : Schedule τ σ κ μ χ).core.Stands
      (Run.new transport createStreams maxAttempts : Run τ σ κ μ χ) where
  played := by
    refine ⟨[], sound_new transport createStreams maxAttempts, fun entry => ?_, rfl,
      fun name id named => ?_, rfl, rfl⟩
    · simp [Run.play, Run.new, Session.new, Pool.new] at entry
    · simp [core, initial] at named
  orderly task under := absurd rfl under

/-- Wherever a scenario is left, its session stands where some moves lead, and what was reported and is
still to be reported is what happened in these moves. -/
theorem run_plays (fuel : Nat) :
    let s : Schedule τ σ κ μ χ :=
      (run fuel (initial transport (.new createStreams maxAttempts) steps)).2
    ∃ moves, let r : Run τ σ κ μ χ := (Run.new transport createStreams maxAttempts).play moves
      s.session = r.session.fresh ∧
      s.reports.flatMap (·.calls) ++ s.happened.filterMap Happening.call? = r.callsMade ∧
      s.reports.flatMap (·.notices) ++ s.happened.filterMap Happening.notice? = r.noticesGiven := by
  have stands := leads_run fuel _ (stands_initial transport createStreams maxAttempts steps)
  obtain ⟨moves, follows⟩ := stands.played
  exact ⟨moves, follows.session, follows.calls, follows.notices⟩

omit [Transport τ σ κ] in
theorem keeps_final : (final : Act τ σ κ μ χ (Final τ)).Keeps account := by
  refine .bind .get fun s => .bind (.mapM (fun entry => ?_) _) fun _ => .bind .get fun _ => .pure _
  exact .bind (keeps_writerNumber (fun _ _ => rfl) _) fun _ => .pure _

omit [Transport τ σ κ] in
theorem final_session (s : Schedule τ σ κ μ χ) :
    (final s).1.transport = s.session.transport ∧
      ∃ numbering : List WriterId, (final s).1.writers = numbering.map s.session.writer :=
  ⟨rfl, _, rfl⟩

/-- What a scenario comes to is the end of a run, and its reports tell what happened in that run. -/
theorem runSteps_plays :
    ∃ moves : List (Move μ χ),
      let r : Run τ σ κ μ χ := (Run.new transport createStreams maxAttempts).play moves
      let outcome := runSteps transport (.new createStreams maxAttempts) steps
      outcome.2.transport = r.session.transport ∧
      (∃ numbering : List WriterId, outcome.2.writers = numbering.map r.session.writer) ∧
      outcome.1.flatMap (·.calls) <+: r.callsMade ∧
      outcome.1.flatMap (·.notices) <+: r.noticesGiven := by
  let fuel := turnLimit (.new createStreams maxAttempts) steps
  obtain ⟨moves, session, calls, notices⟩ :=
    run_plays (χ := χ) (κ := κ) transport createStreams maxAttempts steps fuel
  generalize ran : (run fuel (initial transport (.new createStreams maxAttempts) steps)).2 = s at *
  have outcome : runSteps transport (.new createStreams maxAttempts) steps =
      ((final s).2.reports, (final s).1) := by
    rw [← ran]
    rfl
  have reports : (final s).2.reports = s.reports := congrArg (·.2.2) (keeps_final s)
  obtain ⟨transport', numbering, writers⟩ := final_session s
  rw [session] at transport' writers
  refine ⟨moves, ?_⟩
  rw [outcome, reports]
  exact ⟨transport', ⟨numbering, writers⟩, calls ▸ List.prefix_append _ _,
    notices ▸ List.prefix_append _ _⟩

end Scenario

end SequenceLog.Scenario.Schedule

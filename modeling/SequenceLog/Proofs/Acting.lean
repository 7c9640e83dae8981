import SequenceLog.Scenario.Turn
/-! What the acts of a schedule leave alone. Most of what a schedule does is about turns, timers and
answers, and has nothing to do with the session, with the writers that have names or with what its threads
are suspended in. Main statements: those about `Act.Quiet`, and what each other act does to the core. -/
namespace SequenceLog.Scenario.Schedule
variable {τ σ κ μ χ α β γ δ : Type}

/-- What matters of a schedule to those who watch the session: the session, the writers that have names,
what the threads go on with, and the calls and notices so far, whether they were reported or not. -/
structure Core (τ σ κ χ : Type) where
  session : Session τ σ κ
  names : Table Text WriterId
  works : List (Work χ)
  calls : List κ
  notices : List Notice

def core (s : Schedule τ σ κ μ χ) : Core τ σ κ χ where
  session := s.session
  names := s.names
  works := s.threads.map (·.work)
  calls := s.reports.flatMap (·.calls) ++ s.happened.filterMap Happening.call?
  notices := s.reports.flatMap (·.notices) ++ s.happened.filterMap Happening.notice?

namespace Core

/-- A thread goes on with other work. -/
def working (c : Core τ σ κ χ) (task : TaskId) (work : Work χ) : Core τ σ κ χ :=
  { c with works := c.works.modify task fun _ => work }

/-- A thread is added. -/
def spawning (c : Core τ σ κ χ) : Core τ σ κ χ := { c with works := c.works ++ [.starting] }

def naming (c : Core τ σ κ χ) (name : Text) (id : WriterId) : Core τ σ κ χ :=
  { c with names := c.names.insert name id }

def turning (c : Core τ σ κ χ) (s : Session τ σ κ) : Core τ σ κ χ := { c with session := s }

/-- What happened in the session was taken down. -/
def collected (c : Core τ σ κ χ) : Core τ σ κ χ :=
  { c with
    session := { c.session with happened := [] }
    calls := c.calls ++ c.session.happened.filterMap Happening.call?
    notices := c.notices ++ c.session.happened.filterMap Happening.notice? }

theorem collected_of_empty {c : Core τ σ κ χ} (empty : c.session.happened = []) : c.collected = c := by
  obtain ⟨⟨transport, pool, writers, active, happened⟩, names, works, calls, notices⟩ := c
  cases empty
  simp [collected]

end Core

theorem works_modify {threads : List (Thread μ χ)} {task : TaskId} {f : Thread μ χ → Thread μ χ}
    {g : Work χ → Work χ} (same : ∀ t, (f t).work = g t.work) :
    (threads.modify task f).map (·.work) = (threads.map (·.work)).modify task g := by
  apply List.ext_getElem?
  intro i
  by_cases own : task = i
  · simp only [List.getElem?_map, List.getElem?_modify, if_pos own]
    cases threads[i]? <;> simp [same]
  · simp only [List.getElem?_map, List.getElem?_modify, if_neg own]
    cases threads[i]? <;> simp

namespace Act

theorem bind_apply (act : Act τ σ κ μ χ α) (next : α → Act τ σ κ μ χ β) (s : Schedule τ σ κ μ χ) :
    (act >>= next) s = next (act s).1 (act s).2 := rfl

theorem get_apply (s : Schedule τ σ κ μ χ) :
    (get : Act τ σ κ μ χ (Schedule τ σ κ μ χ)) s = (s, s) := rfl

theorem modify_apply (f : Schedule τ σ κ μ χ → Schedule τ σ κ μ χ) (s : Schedule τ σ κ μ χ) :
    (modify f : Act τ σ κ μ χ Unit) s = ((), f s) := rfl

/-- An act that leaves what is seen of every schedule as it is. -/
def Keeps (view : Schedule τ σ κ μ χ → γ) (act : Act τ σ κ μ χ α) : Prop :=
  ∀ s, view (act s).2 = view s

abbrev Quiet (act : Act τ σ κ μ χ α) : Prop := act.Keeps core

namespace Keeps
variable {view : Schedule τ σ κ μ χ → γ}

theorem bind {act : Act τ σ κ μ χ α} {next : α → Act τ σ κ μ χ β} (first : act.Keeps view)
    (rest : ∀ a, (next a).Keeps view) : (act >>= next).Keeps view :=
  fun s => (rest _ _).trans (first s)

theorem getting {next : Schedule τ σ κ μ χ → Act τ σ κ μ χ β} {s : Schedule τ σ κ μ χ}
    (rest : view (next s s).2 = view s) : view ((MonadState.get >>= next) s).2 = view s :=
  rest

theorem afterwards {act : Act τ σ κ μ χ α} {next : α → Act τ σ κ μ χ β}
    (rest : ∀ a, (next a).Keeps view) (s : Schedule τ σ κ μ χ) :
    view ((act >>= next) s).2 = view (act s).2 :=
  rest _ _

/-- What an act does after another one that keeps more. -/
theorem followed {v : Schedule τ σ κ μ χ → β} {act : Act τ σ κ μ χ α}
    {next : α → Act τ σ κ μ χ δ} {s : Schedule τ σ κ μ χ} (first : act.Keeps v)
    (rest : ∀ a s', v s' = v s → view (next a s').2 = view s) :
    view ((act >>= next) s).2 = view s :=
  rest _ _ (first s)

theorem pure (a : α) : (Pure.pure a : Act τ σ κ μ χ α).Keeps view := fun _ => rfl

theorem get : (MonadState.get : Act τ σ κ μ χ (Schedule τ σ κ μ χ)).Keeps view := fun _ => rfl

theorem forIn {step : α → β → Act τ σ κ μ χ (ForInStep β)} (keeps : ∀ a b, (step a b).Keeps view)
    (items : List α) (b : β) : (ForIn.forIn items b step).Keeps view := by
  induction items generalizing b with
  | nil => exact pure b
  | cons item items ih =>
    rw [List.forIn_cons]
    refine (keeps item b).bind fun result => ?_
    cases result with
    | done b => exact pure b
    | yield b => exact ih b

theorem mapM {step : α → Act τ σ κ μ χ β} (keeps : ∀ a, (step a).Keeps view) (items : List α) :
    (items.mapM step).Keeps view := by
  induction items with
  | nil => exact pure []
  | cons item items ih =>
    rw [List.mapM_cons]
    exact (keeps item).bind fun _ => ih.bind fun _ => pure _

theorem filterMapM {step : α → Act τ σ κ μ χ (Option β)} (keeps : ∀ a, (step a).Keeps view)
    (items : List α) : (items.filterMapM step).Keeps view := by
  induction items with
  | nil => exact pure []
  | cons item items ih =>
    rw [List.filterMapM_cons]
    refine (keeps item).bind fun result => ?_
    cases result with
    | none => exact ih
    | some b => exact ih.bind fun _ => pure _

end Keeps
/-- An act that leads from what holds of the core to what holds of it and the outcome. -/
def Leads (P : Core τ σ κ χ → Prop) (act : Act τ σ κ μ χ α) (Q : α → Core τ σ κ χ → Prop) : Prop :=
  ∀ s, P s.core → Q (act s).1 (act s).2.core

namespace Leads
variable {P : Core τ σ κ χ → Prop} {Q : α → Core τ σ κ χ → Prop} {R : β → Core τ σ κ χ → Prop}

theorem bind {act : Act τ σ κ μ χ α} {next : α → Act τ σ κ μ χ β} (first : act.Leads P Q)
    (rest : ∀ a, (next a).Leads (Q a) R) : (act >>= next).Leads P R :=
  fun s now => rest _ _ (first s now)

theorem pure {a : α} (now : ∀ c, P c → Q a c) : (Pure.pure a : Act τ σ κ μ χ α).Leads P Q :=
  fun s holds => now s.core holds

/-- An act that looks at the schedule knows what its core is. -/
theorem get {next : Schedule τ σ κ μ χ → Act τ σ κ μ χ β}
    (rest : ∀ s, P s.core → (next s).Leads (· = s.core) R) : (MonadState.get >>= next).Leads P R :=
  fun s now => rest s now s rfl

theorem quiet {act : Act τ σ κ μ χ α} (quiet : act.Quiet) : act.Leads P fun _ => P :=
  fun s now => (quiet s).symm ▸ now

theorem of_core {act : Act τ σ κ μ χ α} {f : Core τ σ κ χ → Core τ σ κ χ}
    (core : ∀ s, (act s).2.core = f s.core) {N : Core τ σ κ χ → Prop} (now : ∀ c, P c → N (f c)) :
    act.Leads P fun _ => N :=
  fun s holds => core s ▸ now _ holds

/-- What an act does that knows the core it begins with. -/
theorem known {act : Act τ σ κ μ χ α} {c : Core τ σ κ χ} (leads : act.Leads P Q) (now : P c) :
    act.Leads (· = c) Q :=
  fun s same => leads s (same ▸ now)

/-- What is quiet may be left out. -/
theorem perhaps {p : Prop} [Decidable p] {act : Act τ σ κ μ χ Unit} {next : Unit → Act τ σ κ μ χ α}
    (quiet : act.Quiet) (rest : (next ()).Leads P Q) :
    (if p then act >>= next else next ()).Leads P Q := by
  split
  · exact bind (.quiet quiet) fun _ => rest
  · exact rest

theorem forIn {step : α → β → Act τ σ κ μ χ (ForInStep β)}
    (leads : ∀ a b, (step a b).Leads P fun _ => P) (items : List α) (b : β) :
    (ForIn.forIn items b step).Leads P fun _ => P := by
  induction items generalizing b with
  | nil => exact pure fun _ now => now
  | cons item items ih =>
    rw [List.forIn_cons]
    refine bind (leads item b) fun result => ?_
    cases result with
    | done b => exact pure fun _ now => now
    | yield b => exact ih b

theorem mapM {step : α → Act τ σ κ μ χ β} (leads : ∀ a, (step a).Leads P fun _ => P)
    (items : List α) : (items.mapM step).Leads P fun _ => P := by
  induction items with
  | nil => exact pure fun _ now => now
  | cons item items ih =>
    rw [List.mapM_cons]
    exact bind (leads item) fun _ => bind ih fun _ => pure fun _ now => now

end Leads

end Act

open Act

theorem core_modifyThread {task : TaskId} {f : Thread μ χ → Thread μ χ} {g : Work χ → Work χ}
    (same : ∀ t, (f t).work = g t.work) (s : Schedule τ σ κ μ χ) :
    (modifyThread task f s).2.core = { s.core with works := s.core.works.modify task g } := by
  have works : (s.threads.modify task f).map (·.work) = s.core.works.modify task g :=
    works_modify same
  rw [← works]
  rfl

theorem quiet_modifyThread {task : TaskId} {f : Thread μ χ → Thread μ χ}
    (same : ∀ t, (f t).work = t.work) : (modifyThread task f : Act τ σ κ μ χ Unit).Quiet := by
  intro s
  rw [core_modifyThread (g := id) same, List.modify_id]

theorem quiet_modifyCall {id : CallId} {f : TimedCall → TimedCall} :
    (modifyCall id f : Act τ σ κ μ χ Unit).Quiet := fun _ => rfl

theorem quiet_enqueue {callback : Callback} : (enqueue callback : Act τ σ κ μ χ Unit).Quiet :=
  fun _ => rfl

theorem quiet_startTimer {delay : Binary64} {alarm : Alarm} :
    (startTimer delay alarm : Act τ σ κ μ χ Unit).Quiet := fun _ => rfl

theorem quiet_dropTimer {alarm : Alarm} : (dropTimer alarm : Act τ σ κ μ χ Unit).Quiet := fun _ => rfl

theorem quiet_wake {task : TaskId} : (wake task : Act τ σ κ μ χ Unit).Quiet := by
  refine .bind .get fun s => ?_
  split
  · exact .pure _
  · exact .bind (quiet_modifyThread fun _ => rfl) fun _ => quiet_enqueue

theorem quiet_stopCall {id : CallId} : (stopCall id : Act τ σ κ μ χ Unit).Quiet := by
  refine .bind .get fun s => ?_
  split
  · exact .pure _
  · exact quiet_modifyCall
  · exact quiet_modifyCall
  · exact .bind quiet_modifyCall fun _ => quiet_enqueue

theorem quiet_signal? {task : TaskId} {hold : Hold} {interrupted : Bool} :
    (signal? task hold interrupted : Act τ σ κ μ χ (Option Signal)).Quiet := by
  unfold signal?
  split
  · refine .bind .get fun s => ?_
    split
    · exact .bind quiet_dropTimer fun _ => .pure _
    · exact .bind (quiet_modifyThread fun _ => rfl) fun _ => .bind quiet_stopCall fun _ => .pure _
  · exact .bind quiet_dropTimer fun _ => .pure _
  · exact .pure _

theorem quiet_takeCallTurn {id : CallId} : (takeCallTurn id : Act τ σ κ μ χ Unit).Quiet := by
  refine .bind .get fun s => ?_
  dsimp only
  split
  · split
    · exact .bind quiet_modifyCall fun _ => quiet_enqueue
    · exact .bind quiet_startTimer fun _ => quiet_modifyCall
  · exact .bind quiet_dropTimer fun _ => .bind quiet_modifyCall fun _ => quiet_enqueue

theorem quiet_wakeForCall {task : TaskId} {id : CallId} :
    (wakeForCall task id : Act τ σ κ μ χ Unit).Quiet := by
  refine .bind .get fun s => ?_
  split
  · split
    · exact quiet_wake
    · exact .pure _
  · split
    · exact quiet_wake
    · exact .pure _
  · exact .pure _

theorem quiet_ring {alarm : Alarm} : (ring alarm : Act τ σ κ μ χ Unit).Quiet := by
  cases alarm with
  | wake task => exact quiet_wake
  | answer id =>
    refine .bind .get fun s => ?_
    split
    · exact .bind quiet_modifyCall fun _ => quiet_enqueue
    · exact .pure _
  | limit task id =>
    refine .bind .get fun s => ?_
    split
    · exact quiet_wake
    · exact .pure _

theorem keeps_writerNumber {view : Schedule τ σ κ μ χ → γ}
    (blind : ∀ s numbering, view { s with numbering := numbering } = view s) (id : WriterId) :
    (writerNumber id : Act τ σ κ μ χ Nat).Keeps view := by
  intro s
  cases found : s.numbering.findIdx? (· = id) with
  | some number =>
    simp only [writerNumber, bind_apply, get_apply, found]
    rfl
  | none =>
    simp only [writerNumber, bind_apply, get_apply, found]
    exact blind s _

theorem quiet_subjectOutcome {subject : TaskId} :
    (subjectOutcome subject : Act τ σ κ μ χ Outcome).Quiet := by
  refine .bind .get fun s => ?_
  split <;> exact .pure _

/-- The core, and what of it is pending and what was reported. -/
def account (s : Schedule τ σ κ μ χ) : Core τ σ κ χ × List (Happening κ) × List (Report κ) :=
  (s.core, s.happened, s.reports)

/-- What is reported was pending before. -/
theorem quiet_complete {task : TaskId} {step : Step μ} {outcome : Except Obstacle Result} :
    (complete task step outcome : Act τ σ κ μ χ Unit).Quiet := by
  intro s
  refine Keeps.getting ?_
  refine Keeps.followed (v := account) (fun s => ?_) fun _ s' same => ?_
  · refine congrArg (·, s.happened, s.reports) (quiet_modifyThread ?_ s)
    exact fun _ => rfl
  split
  · refine Eq.trans ?_ (congrArg Prod.fst same)
    refine Keeps.followed (v := account) (.filterMapM (fun happening => ?_) _) fun _ s'' same' => ?_
    · split
      · split
        · exact .pure _
        · exact .bind (keeps_writerNumber (fun _ _ => rfl) _) fun _ => .pure _
      · exact .pure _
    · have pending : s''.happened = s.happened := congrArg (·.2.1) (same'.trans same)
      refine Eq.trans ?_ (congrArg Prod.fst same')
      simp [modify_apply, account, core, pending]
  · exact congrArg Prod.fst same

/-- A thread is suspended. -/
theorem core_suspend {task : TaskId} {work : Work χ} {hold : Hold} (s : Schedule τ σ κ μ χ) :
    (suspend task work hold s).2.core = s.core.working task work :=
  core_modifyThread (fun _ => rfl) s

theorem core_pause {task : TaskId} {work : Work χ} {delay : Binary64} (s : Schedule τ σ κ μ χ) :
    (pause task work delay s).2.core = s.core.working task work := by
  unfold pause
  split
  · exact (quiet_wake _).trans (core_suspend s)
  · exact core_suspend (startTimer delay (.wake task) s).2

theorem core_suspendFor {task : TaskId} {work : Work χ} {wait : Wait} (s : Schedule τ σ κ μ χ) :
    (suspendFor task work wait s).2.core = s.core.working task work := by
  cases wait with
  | pause delay => exact core_pause s
  | lock => exact core_suspend s
  | call delay limit =>
    simp only [suspendFor, bind_apply, get_apply]
    split
    · exact core_suspend _
    · exact core_suspend _

theorem core_finish {task : TaskId} {unstarted : Bool} (s : Schedule τ σ κ μ χ) :
    (finish task unstarted s).2.core = s.core.working task .over := by
  refine Eq.trans (Keeps.afterwards (fun _ => ?_) s) (core_modifyThread (fun _ => rfl) s)
  refine .bind .get fun s => ?_
  split
  · exact .pure _
  · exact quiet_enqueue
  · refine .bind .get fun s => ?_
    split
    · exact quiet_wake
    · exact .pure _

theorem core_spawn {parent : Parent} {steps : List (Step μ)} (s : Schedule τ σ κ μ χ) :
    (spawn parent steps s).2.core = s.core.spawning := by
  let t : Thread μ χ := ⟨parent, steps, [], .starting, .nothing, true, false⟩
  have works : (s.threads ++ [t]).map (·.work) = s.core.works ++ [.starting] := List.map_append
  rw [Core.spawning, ← works]
  rfl

theorem core_collect (s : Schedule τ σ κ μ χ) : (collect s).2.core = s.core.collected := by
  simp only [collect, bind_apply, get_apply]
  -- no task that is woken up touches the core
  refine Eq.trans (Keeps.forIn (fun happening _ => ?_) _ _ _) ?_
  · split
    · exact .bind quiet_wake fun _ => .pure _
    · exact .pure _
  · simp [modify_apply, core, Core.collected]

end SequenceLog.Scenario.Schedule

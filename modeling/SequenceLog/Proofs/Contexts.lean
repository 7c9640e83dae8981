import SequenceLog.Proofs.Run
/-! Client contexts. Whoever connects enters a context that is left on closing. Every context that
was entered is left once, as long as nobody connects or closes while a context is being entered, and
nobody closes while one is being left. Calls that overlap in these ways leave a context twice, or
never. Main statements: `leaves_entered` and `overlapping_leaks`. -/
namespace SequenceLog

def Remark.call? {κ : Type} : Remark κ → Option κ
  | .call made => some made
  | .notice _ => none

def Reply.calls {τ σ κ α : Type} (reply : Reply τ σ κ α) : List κ :=
  reply.remarks.filterMap Remark.call?

/-- What was begun came to an end without a fault. -/
def Reply.Returns {τ σ κ α : Type} (reply : Reply τ σ κ α) : Prop :=
  ∃ answer, reply.progress = .finished (.ok answer)

namespace CloudWatch
variable {ς : Type}

def Chore.isEntering : Chore → Bool
  | .entering .. => true
  | _ => false

/-- What those do who connect and close: they begin, or they go on where they were suspended. -/
inductive Act where
  | connect
  | close
  | ready (call : CallId)

/-- A transport with the calls to connect and to close it. Calls are numbered in the order in which
they began. -/
structure Switchboard (ς : Type) where
  transport : CloudWatch ς
  /-- How many calls began so far. -/
  begun : Nat
  /-- Where the calls are suspended that are not over. -/
  pending : Table CallId Chore
  /-- What each call had the service do. -/
  made : List (CallId × Call)
  /-- The calls that ended without a fault. -/
  returned : List CallId

namespace Switchboard

def new (region : Text) (endpoint : Option Text) (timeout : Binary64) (service : ς) :
    Switchboard ς :=
  ⟨CloudWatch.new region endpoint timeout service, 0, .empty, [], []⟩

def take (b : Switchboard ς) (call : CallId) (reply : ChoreReply ς) : Switchboard ς where
  transport := reply.state
  begun := b.begun
  pending := match reply.progress with
    | .suspended chore => b.pending.insert call chore
    | .finished _ => b.pending.erase call
  made := b.made ++ reply.calls.map (call, ·)
  returned := match reply.progress with
    | .finished (.ok _) => b.returned ++ [call]
    | _ => b.returned

def begin (b : Switchboard ς) (reply : ChoreReply ς) : Switchboard ς :=
  { b with begun := b.begun + 1 }.take b.begun reply

/-- A call that is not suspended does not go on. -/
def step [Service ς] (b : Switchboard ς) : Act → Switchboard ς
  | .connect => b.begin b.transport.connect
  | .close => b.begin b.transport.close
  | .ready call =>
    match b.pending.get? call with
    | some chore => b.take call (b.transport.resumeChore chore .ready)
    | none => b

def play [Service ς] (b : Switchboard ς) (acts : List Act) : Switchboard ς := acts.foldl step b

def Idle (b : Switchboard ς) : Prop := b.pending.entries = []

theorem Idle.alone {b : Switchboard ς} (idle : b.Idle) (call : CallId) :
    b.pending.get? call = none := by
  unfold Table.get?
  rw [show b.pending.entries = [] from idle]
  rfl

def Entered (b : Switchboard ς) (context : Nat) : Prop :=
  ∃ call ∈ b.returned, (call, .enterContext context) ∈ b.made

def departures (b : Switchboard ς) (context : Nat) : Nat :=
  (b.made.map (·.2)).count (.leaveContext context)

/-- A call begins too early: somebody connects or closes while a context is being entered, or closes
while one is being left. -/
def overtakes (b : Switchboard ς) : Act → Bool
  | .connect => b.pending.entries.any (·.2.isEntering)
  | .close => !b.pending.entries.isEmpty
  | .ready _ => false

/-- Nobody begins too early. -/
def separate [Service ς] (b : Switchboard ς) : List Act → Bool
  | [] => true
  | act :: acts => !b.overtakes act && (b.step act).separate acts

section Take
variable {b : Switchboard ς} {call : CallId} {reply : ChoreReply ς} {context : Nat}

theorem departures_take : (b.take call reply).departures context =
    b.departures context + reply.calls.count (.leaveContext context) := by
  simp [departures, take, Function.comp_def]

theorem mem_returned_take {other : CallId} :
    other ∈ (b.take call reply).returned ↔ other ∈ b.returned ∨ (other = call ∧ reply.Returns) := by
  obtain ⟨state, remarks, progress⟩ := reply
  rcases progress with ⟨fault | answer⟩ | chore <;> simp [take, Reply.Returns]

theorem mem_made_take {other : CallId} {made : Call} : (other, made) ∈ (b.take call reply).made ↔
    (other, made) ∈ b.made ∨ (other = call ∧ made ∈ reply.calls) := by
  simp only [take, List.mem_append, List.mem_map, Prod.mk.injEq]
  grind

theorem entered_take (unreturned : call ∉ b.returned) : (b.take call reply).Entered context ↔
    b.Entered context ∨ (reply.Returns ∧
      ((call, .enterContext context) ∈ b.made ∨ .enterContext context ∈ reply.calls)) := by
  simp only [Entered, mem_returned_take, mem_made_take]
  constructor
  · rintro ⟨other, old | ⟨rfl, returns⟩, made | ⟨same, now⟩⟩
    · exact .inl ⟨other, old, made⟩
    · exact absurd (same ▸ old) unreturned
    · exact .inr ⟨returns, .inl made⟩
    · exact .inr ⟨returns, .inr now⟩
  · rintro (⟨other, old, made⟩ | ⟨returns, made | now⟩)
    · exact ⟨other, .inl old, .inl made⟩
    · exact ⟨call, .inr ⟨rfl, returns⟩, .inl made⟩
    · exact ⟨call, .inr ⟨rfl, returns⟩, .inr ⟨rfl, now⟩⟩

theorem pending_take_other {other : CallId} (different : other ≠ call) :
    (b.take call reply).pending.get? other = b.pending.get? other := by
  obtain ⟨state, remarks, progress⟩ := reply
  cases progress with
  | finished result => exact Table.get?_erase_other _ different
  | suspended chore => exact Table.get?_insert_other _ _ different

theorem pending_finished {result : Except Fault (Option Bool)}
    (ended : reply.progress = .finished result) : (b.take call reply).pending.get? call = none := by
  simp [take, ended]

theorem pending_suspended {chore : Chore} (waits : reply.progress = .suspended chore) :
    (b.take call reply).pending.get? call = some chore := by
  simp [take, waits]

end Take
end Switchboard

section Replies
variable [Service ς]

/-- Whatever calls the service has answered, it does not cancel a call to leave a context. -/
def Lenient (service : ς) : Prop :=
  ∀ (calls : List Call) (context : Nat) (fault : Fault),
    (Service.answer (calls.foldl (fun s call => (Service.answer s call).2) service)
      (.leaveContext context)).1.outcome = .error fault → fault.isFailure = true

theorem Lenient.answer {service : ς} (lenient : Lenient service) (call : Call) :
    Lenient (Service.answer service call).2 :=
  fun calls => lenient (call :: calls)

/-- The call that creates a client context. -/
def creation (c : CloudWatch ς) : Call := .createClient c.region (customEndpoint c.endpoint)

def created (c : CloudWatch ς) (service : ς) : CloudWatch ς :=
  { c with service := service, contexts := c.contexts + 1, context := some c.contexts }

def holding (c : CloudWatch ς) (context : Nat) : CloudWatch ς :=
  { c with client := some context, connected := true }

/-- What connecting comes to where nobody is connected: no context can be created, or one is created
and then entered, if that is possible, at once or later. -/
inductive Connecting (c : CloudWatch ς) : ChoreReply ς → Prop
  | uncreated {service : ς} {fault} : (Lenient c.service → Lenient service) →
      Connecting c ⟨{ c with service := service }, [.call c.creation], .finished (.error fault)⟩
  | failed {service : ς} {fault} : (Lenient c.service → Lenient service) →
      Connecting c ⟨c.created service, [.call c.creation, .call (.enterContext c.contexts)],
        .finished (.error fault)⟩
  | waits {service : ς} {behaviour} : (Lenient c.service → Lenient service) →
      Connecting c ⟨c.created service, [.call c.creation, .call (.enterContext c.contexts)],
        .suspended (.entering c.contexts behaviour)⟩
  | entered {service : ς} {notice} : (Lenient c.service → Lenient service) →
      Connecting c ⟨(c.created service).holding c.contexts,
        [.call c.creation, .call (.enterContext c.contexts), .notice notice], .finished (.ok none)⟩

theorem connecting_connect {c : CloudWatch ς} (apart : c.connected = false) :
    Connecting c c.connect := by
  unfold connect request
  rw [if_neg (by simp [apart])]
  dsimp only
  split
  · exact .uncreated (·.answer _)
  · split
    · unfold entered
      split
      · exact .failed fun lenient => (lenient.answer _).answer _
      · exact .entered fun lenient => (lenient.answer _).answer _
    · exact .waits fun lenient => (lenient.answer _).answer _

/-- What closing comes to where a context is in use: it is left at once or later. -/
inductive Closing (c : CloudWatch ς) (context : Nat) : ChoreReply ς → Prop
  | waits {service : ς} {behaviour} : Lenient service →
      (∀ fault, behaviour.outcome = .error fault → fault.isFailure = true) →
      Closing c context ⟨{ c with service := service }, [.call (.leaveContext context)],
        .suspended (.leaving behaviour)⟩
  | closed {service : ς} {notices : List Notice} : Lenient service →
      Closing c context ⟨{ c with service := service }.cleared,
        .call (.leaveContext context) :: notices.map .notice, .finished (.ok none)⟩

omit [Service ς] in
/-- A context that could not be left counts as left all the same, unless that was cancelled. -/
theorem left_of_lenient (c : CloudWatch ς) {outcome : Except Fault Response}
    (calm : ∀ fault, outcome = .error fault → fault.isFailure = true) :
    ∃ notices, c.left outcome = c.cleared.done notices := by
  cases outcome with
  | ok response => exact ⟨_, rfl⟩
  | error fault => exact ⟨_, by rw [left, if_pos (calm fault rfl)]⟩

theorem closing_close {c : CloudWatch ς} {context : Nat} (held : c.client = some context)
    (same : c.context = some context) (lenient : Lenient c.service) :
    Closing c context c.close := by
  have calm : ∀ fault, (Service.answer c.service (.leaveContext context)).1.outcome = .error fault →
      fault.isFailure = true := lenient [] context
  unfold close request
  split
  · rename_i none
    cases held.symm.trans none
  · rename_i none
    cases same.symm.trans none
  · rename_i current _ there
    obtain rfl : context = current := Option.some.inj (same.symm.trans there)
    dsimp only
    split
    · obtain ⟨notices, left⟩ := left_of_lenient
        { c with service := (Service.answer c.service (.leaveContext context)).2 } calm
      rw [left]
      exact .closed (lenient.answer _)
    · exact .waits (lenient.answer _) calm

end Replies

namespace Switchboard

/-- A context was entered and left once, or neither. -/
def Settled (b : Switchboard ς) (context : Nat) : Prop :=
  (b.Entered context ∧ b.departures context = 1) ∨ (¬ b.Entered context ∧ b.departures context = 0)

/-- What is noted is about calls that began, and contexts that were created. -/
structure Booked [Service ς] (b : Switchboard ς) : Prop where
  lenient : Lenient b.transport.service
  unborn : ∀ call, b.begun ≤ call →
    call ∉ b.returned ∧ b.pending.get? call = none ∧ ∀ made, (call, made) ∉ b.made
  unreturned : ∀ call chore, b.pending.get? call = some chore → call ∉ b.returned
  uncreated : ∀ context, b.transport.contexts ≤ context →
    ¬ b.Entered context ∧ b.departures context = 0

/-- How far the connection has come. In each phase all contexts are settled but the one in use. -/
inductive Phase (b : Switchboard ς) : Prop
  | apart : b.transport.client = none → b.transport.connected = false →
      (∀ call, b.pending.get? call = none) → (∀ context, b.Settled context) → Phase b
  | entering {call context behaviour} : b.transport.client = none → b.transport.connected = false →
      b.transport.context = some context → context < b.transport.contexts →
      b.pending.get? call = some (.entering context behaviour) →
      (∀ other, other ≠ call → b.pending.get? other = none) →
      (∀ other, (call, .enterContext other) ∈ b.made ↔ other = context) →
      ¬ b.Entered context → (∀ context, b.Settled context) → Phase b
  | connected {context} : b.transport.client = some context → b.transport.connected = true →
      b.transport.context = some context → (∀ call, b.pending.get? call = none) →
      b.Entered context → b.departures context = 0 →
      (∀ other, other ≠ context → b.Settled other) → Phase b
  | leaving {call context behaviour} : b.transport.client = some context →
      b.transport.connected = true → b.pending.get? call = some (.leaving behaviour) →
      (∀ other, other ≠ call → b.pending.get? other = none) →
      (∀ other, (call, .enterContext other) ∉ b.made) →
      (∀ fault, behaviour.outcome = .error fault → fault.isFailure = true) →
      (∀ context, b.Settled context) → Phase b

section Phases
variable {b : Switchboard ς} {call : CallId} {reply : ChoreReply ς} {context : Nat}

theorem Settled.take (settled : b.Settled context) (unreturned : call ∉ b.returned)
    (enters : ¬ (reply.Returns ∧
      ((call, .enterContext context) ∈ b.made ∨ .enterContext context ∈ reply.calls)))
    (leaves : .leaveContext context ∉ reply.calls) : (b.take call reply).Settled context := by
  simpa [Settled, entered_take unreturned, enters, departures_take,
    List.count_eq_zero_of_not_mem leaves] using settled

theorem Booked.begins [Service ς] (booked : b.Booked) :
    { b with begun := b.begun + 1 }.Booked where
  lenient := booked.lenient
  unborn call late := booked.unborn call (Nat.le_of_succ_le late)
  unreturned := booked.unreturned
  uncreated := booked.uncreated

theorem Booked.take [Service ς] (booked : b.Booked) (known : call < b.begun)
    (unreturned : call ∉ b.returned) (lenient : Lenient reply.state.service)
    (uncreated : ∀ context, reply.state.contexts ≤ context → b.transport.contexts ≤ context ∧
      ¬ (reply.Returns ∧
        ((call, .enterContext context) ∈ b.made ∨ .enterContext context ∈ reply.calls)) ∧
      .leaveContext context ∉ reply.calls) : (b.take call reply).Booked where
  lenient := lenient
  unborn other late := by
    have different : other ≠ call := fun same => absurd late (Nat.not_le.2 (same ▸ known))
    obtain ⟨silent, unknown, nothing⟩ := booked.unborn other late
    refine ⟨?_, ?_, fun made => ?_⟩
    · simp [mem_returned_take, silent, different]
    · rw [pending_take_other different, unknown]
    · simp [mem_made_take, nothing, different]
  unreturned other chore under := by
    by_cases same : other = call
    · subst same
      rw [mem_returned_take]
      rintro (old | ⟨-, answer, ended⟩)
      · exact unreturned old
      · cases (pending_finished ended).symm.trans under
    · rw [pending_take_other same] at under
      simp [mem_returned_take, booked.unreturned other chore under, same]
  uncreated context late := by
    obtain ⟨late, enters, leaves⟩ := uncreated context late
    obtain ⟨silent, nothing⟩ := booked.uncreated context late
    rw [entered_take unreturned, departures_take, nothing, List.count_eq_zero_of_not_mem leaves]
    exact ⟨fun entered => entered.elim silent enters, rfl⟩

end Phases

structure Orderly [Service ς] (b : Switchboard ς) : Prop where
  booked : b.Booked
  phase : b.Phase

section Begin
variable [Service ς] {b : Switchboard ς} {reply : ChoreReply ς} {context : Nat}

theorem entered_begin (booked : b.Booked) : (b.begin reply).Entered context ↔
    b.Entered context ∨ (reply.Returns ∧ .enterContext context ∈ reply.calls) := by
  obtain ⟨unreturned, -, nothing⟩ := booked.unborn b.begun (Nat.le_refl _)
  have taken : (b.begin reply).Entered context ↔ _ :=
    entered_take (b := { b with begun := b.begun + 1 }) unreturned
  rw [taken]
  simp only [nothing, false_or]
  exact Iff.rfl

omit [Service ς] in
theorem departures_begin : (b.begin reply).departures context =
    b.departures context + reply.calls.count (.leaveContext context) :=
  departures_take

omit [Service ς] in
theorem pending_begin_other {call : CallId} (different : call ≠ b.begun) :
    (b.begin reply).pending.get? call = b.pending.get? call :=
  pending_take_other different

theorem pending_begin (booked : b.Booked) {result : Except Fault (Option Bool)}
    (ended : reply.progress = .finished result) (call : CallId) :
    (b.begin reply).pending.get? call = b.pending.get? call := by
  by_cases own : call = b.begun
  · rw [own, (booked.unborn b.begun (Nat.le_refl _)).2.1]
    exact pending_finished ended
  · exact pending_begin_other own

theorem Booked.begin (booked : b.Booked) (lenient : Lenient reply.state.service)
    (uncreated : ∀ context, reply.state.contexts ≤ context → b.transport.contexts ≤ context ∧
      .enterContext context ∉ reply.calls ∧ .leaveContext context ∉ reply.calls) :
    (b.begin reply).Booked := by
  obtain ⟨unreturned, -, nothing⟩ := booked.unborn b.begun (Nat.le_refl _)
  refine booked.begins.take (Nat.lt_succ_self _) unreturned lenient fun context late => ?_
  obtain ⟨late, enters, leaves⟩ := uncreated context late
  exact ⟨late, fun ⟨_, entered⟩ => entered.elim (nothing _) enters, leaves⟩

theorem Settled.begin (settled : b.Settled context) (booked : b.Booked)
    (enters : ¬ (reply.Returns ∧ .enterContext context ∈ reply.calls))
    (leaves : .leaveContext context ∉ reply.calls) : (b.begin reply).Settled context := by
  simpa [Settled, entered_begin booked, enters, departures_begin,
    List.count_eq_zero_of_not_mem leaves] using settled

theorem Orderly.connecting (booked : b.Booked) (nobody : b.transport.client = none)
    (apart : b.transport.connected = false) (alone : ∀ call, b.pending.get? call = none)
    (settled : ∀ context, b.Settled context) (connecting : Connecting b.transport reply) :
    (b.begin reply).Orderly := by
  obtain ⟨unentered, undeparted⟩ := booked.uncreated b.transport.contexts (Nat.le_refl _)
  cases connecting with
  | @uncreated service fault lenient =>
    refine ⟨booked.begin (lenient booked.lenient) fun context late => ⟨late, ?_, ?_⟩,
      .apart nobody apart (fun call => ?_) fun context => (settled context).begin booked ?_ ?_⟩
    · simp [Reply.calls, Remark.call?, creation]
    · simp [Reply.calls, Remark.call?, creation]
    · rw [pending_begin booked rfl, alone]
    · rintro ⟨⟨_, returns⟩, -⟩
      cases returns
    · simp [Reply.calls, Remark.call?, creation]
  | @failed service fault lenient =>
    refine ⟨booked.begin (lenient booked.lenient) fun context late => ?_,
      .apart nobody apart (fun call => ?_) fun context => (settled context).begin booked ?_ ?_⟩
    · have new : b.transport.contexts < context := late
      simp [Reply.calls, Remark.call?, creation, Nat.le_of_lt new, Nat.ne_of_gt new]
    · rw [pending_begin booked rfl, alone]
    · rintro ⟨⟨_, returns⟩, -⟩
      cases returns
    · simp [Reply.calls, Remark.call?, creation]
  | @waits service behaviour lenient =>
    refine ⟨booked.begin (lenient booked.lenient) fun context late => ?_,
      .entering nobody apart rfl (Nat.lt_succ_self _) (pending_suspended rfl)
        (fun other different => ?_) (fun other => ?_) ?_ fun context =>
          (settled context).begin booked ?_ ?_⟩
    · have new : b.transport.contexts < context := late
      simp [Reply.calls, Remark.call?, creation, Nat.le_of_lt new, Nat.ne_of_gt new]
    · rw [← alone other]
      exact pending_begin_other different
    · have made := (booked.unborn b.begun (Nat.le_refl _)).2.2
      simp [begin, take, made, Reply.calls, Remark.call?, creation, eq_comm]
    · rw [entered_begin booked]
      rintro (old | ⟨⟨_, returns⟩, -⟩)
      · exact unentered old
      · cases returns
    · rintro ⟨⟨_, returns⟩, -⟩
      cases returns
    · simp [Reply.calls, Remark.call?, creation]
  | @entered service notice lenient =>
    refine ⟨booked.begin (lenient booked.lenient) fun context late => ?_,
      .connected rfl rfl rfl (fun call => ?_) ?_ ?_ fun context other =>
        (settled context).begin booked ?_ ?_⟩
    · have new : b.transport.contexts < context := late
      simp [Reply.calls, Remark.call?, creation, Nat.le_of_lt new, Nat.ne_of_gt new]
    · rw [pending_begin booked rfl, alone]
    · rw [entered_begin booked]
      exact .inr ⟨⟨_, rfl⟩, by simp [Reply.calls, Remark.call?, creation]⟩
    · simp [departures_begin, undeparted, Reply.calls, Remark.call?, creation, List.filterMap_cons]
    · simp [Reply.calls, Remark.call?, creation, other]
    · simp [Reply.calls, Remark.call?, creation]

theorem Orderly.closing (booked : b.Booked) (held : b.transport.client = some context)
    (connected : b.transport.connected = true) (alone : ∀ call, b.pending.get? call = none)
    (entered : b.Entered context) (present : b.departures context = 0)
    (settled : ∀ other, other ≠ context → b.Settled other)
    (closing : Closing b.transport context reply) : (b.begin reply).Orderly := by
  have created : context < b.transport.contexts := by
    refine Nat.lt_of_not_le fun late => ?_
    exact (booked.uncreated context late).1 entered
  have calls : reply.calls = [.leaveContext context] := by
    cases closing with
    | waits => rfl
    | closed => simp [Reply.calls, Remark.call?, Function.comp_def]
  have booked' (lenient : Lenient reply.state.service)
      (contexts : reply.state.contexts = b.transport.contexts) : (b.begin reply).Booked := by
    refine booked.begin lenient fun other late => ?_
    rw [contexts] at late
    simp [calls, late, Nat.ne_of_gt (Nat.lt_of_lt_of_le created late)]
  have settled' (other : Nat) : (b.begin reply).Settled other := by
    by_cases same : other = context
    · subst same
      refine .inl ⟨(entered_begin booked).2 (.inl entered), ?_⟩
      simp [departures_begin, present, calls]
    · exact (settled other same).begin booked (by simp [calls]) (by simp [calls, same])
  cases closing with
  | waits lenient calm =>
    refine ⟨booked' lenient rfl, .leaving held connected (pending_suspended rfl)
      (fun other different => ?_) (fun other => ?_) calm settled'⟩
    · rw [← alone other]
      exact pending_begin_other different
    · have made := (booked.unborn b.begun (Nat.le_refl _)).2.2
      simp [begin, take, made, Reply.calls, Remark.call?]
  | closed lenient =>
    exact ⟨booked' lenient rfl, .apart rfl rfl
      (fun call => by rw [pending_begin booked rfl, alone]) settled'⟩

end Begin

section Step
variable [Service ς] {b : Switchboard ς} {call : CallId} {context : Nat} {behaviour : Behaviour}

omit [Service ς] in
@[simp] theorem calls_done (c : CloudWatch ς) (notices : List Notice) :
    (c.done notices).calls = [] := by
  simp [Reply.calls, done, Remark.call?, Function.comp_def]

/-- A call that does not have the service do anything and is over at once. -/
theorem Settled.quiet (settled : b.Settled context) (booked : b.Booked) {c : CloudWatch ς}
    {notices : List Notice} : (b.begin (c.done notices)).Settled context :=
  settled.begin booked (by simp) (by simp)

theorem Booked.quiet (booked : b.Booked) {c : CloudWatch ς} {notices : List Notice}
    (service : c.service = b.transport.service) (contexts : c.contexts = b.transport.contexts) :
    (b.begin (c.done notices)).Booked :=
  booked.begin (service ▸ booked.lenient) fun context late =>
    ⟨contexts ▸ late, by simp, by simp⟩

theorem connect_connected {c : CloudWatch ς} (connected : c.connected = true) :
    c.connect = c.done [] := by
  rw [connect, if_pos connected]

theorem close_apart {c : CloudWatch ς} (nobody : c.client = none) :
    c.close = c.cleared.done [closedNotice] := by
  unfold close
  split
  · rfl
  · rename_i held _
    cases nobody.symm.trans held
  · rename_i held _
    cases nobody.symm.trans held

omit [Service ς] in
theorem any_isEntering (under : b.pending.get? call = some (.entering context behaviour)) :
    b.pending.entries.any (·.2.isEntering) = true := by
  obtain ⟨entry, found, same⟩ := Option.map_eq_some_iff.1 under
  rw [List.any_eq_true]
  exact ⟨entry, List.mem_of_find?_eq_some found, by rw [same]; rfl⟩

omit [Service ς] in
theorem entries_ne_nil {chore : Chore} (under : b.pending.get? call = some chore) :
    b.pending.entries ≠ [] := by
  intro nothing
  simp [Table.get?, nothing] at under

theorem orderly_connect (orderly : b.Orderly) (apart : b.overtakes .connect = false) :
    (b.step .connect).Orderly := by
  obtain ⟨booked, phase⟩ := orderly
  cases phase with
  | apart nobody unconnected alone settled =>
    exact .connecting booked nobody unconnected alone settled (connecting_connect unconnected)
  | entering _ _ _ _ under => simp [overtakes, any_isEntering under] at apart
  | connected held connected same alone entered present settled =>
    rw [step, connect_connected connected]
    refine ⟨booked.quiet rfl rfl, .connected held connected same (fun call => ?_) ?_ ?_
      fun other different => (settled other different).quiet booked⟩
    · rw [pending_begin booked rfl, alone]
    · exact (entered_begin booked).2 (.inl entered)
    · simp [departures_begin, present]
  | @leaving call _ _ held connected under others silent calm settled =>
    rw [step, connect_connected connected]
    refine ⟨booked.quiet rfl rfl, .leaving held connected
      ((pending_begin booked rfl call).trans under) (fun other different => ?_) (fun other => ?_)
      calm fun context => (settled context).quiet booked⟩
    · rw [pending_begin booked rfl, others other different]
    · simp [begin, take, silent]

theorem orderly_close (orderly : b.Orderly) (apart : b.overtakes .close = false) :
    (b.step .close).Orderly := by
  obtain ⟨booked, phase⟩ := orderly
  cases phase with
  | apart nobody unconnected alone settled =>
    rw [step, close_apart nobody]
    refine ⟨booked.quiet rfl rfl, .apart rfl rfl (fun call => ?_) fun context => ?_⟩
    · rw [pending_begin booked rfl, alone]
    · exact (settled context).quiet booked
  | entering _ _ _ _ under => simp [overtakes, entries_ne_nil under] at apart
  | connected held connected same alone entered present settled =>
    exact .closing booked held connected alone entered present settled
      (closing_close held same booked.lenient)
  | leaving _ _ under => simp [overtakes, entries_ne_nil under] at apart

theorem orderly_entered (booked : b.Booked) (nobody : b.transport.client = none)
    (apart : b.transport.connected = false) (same : b.transport.context = some context)
    (created : context < b.transport.contexts)
    (under : b.pending.get? call = some (.entering context behaviour))
    (others : ∀ other, other ≠ call → b.pending.get? other = none)
    (own : ∀ other, (call, .enterContext other) ∈ b.made ↔ other = context)
    (unentered : ¬ b.Entered context) (settled : ∀ context, b.Settled context) :
    (b.take call (b.transport.entered context behaviour.outcome)).Orderly := by
  have unreturned := booked.unreturned call _ under
  have known : call < b.begun := Nat.lt_of_not_le fun late => by
    cases (booked.unborn call late).2.1.symm.trans under
  have alone {reply : ChoreReply ς} {result} (ended : reply.progress = .finished result) (other) :
      (b.take call reply).pending.get? other = none := by
    by_cases same : other = call
    · rw [same, pending_finished ended]
    · rw [pending_take_other same, others other same]
  -- only now is it known whether the context was entered, which the call asked for before
  cases behaviour.outcome with
  | error fault =>
    refine ⟨booked.take known unreturned booked.lenient fun other late => ⟨late, ?_, ?_⟩,
      .apart nobody apart (alone rfl) fun other => (settled other).take unreturned ?_ ?_⟩
    · rintro ⟨⟨_, returns⟩, -⟩
      cases returns
    · simp [entered, refused, Reply.calls]
    · rintro ⟨⟨_, returns⟩, -⟩
      cases returns
    · simp [entered, refused, Reply.calls]
  | ok response =>
    have calls : (b.transport.entered context (.ok response)).calls = [] := calls_done ..
    refine ⟨booked.take known unreturned booked.lenient fun other late => ⟨late, ?_, ?_⟩,
      .connected rfl rfl same (alone rfl) ?_ ?_ fun other different =>
        (settled other).take unreturned ?_ ?_⟩
    · have different : other ≠ context := Nat.ne_of_gt (Nat.lt_of_lt_of_le created late)
      simp [own, different, calls]
    · simp [calls]
    · exact (entered_take unreturned).2 (.inr ⟨⟨_, rfl⟩, .inl ((own context).2 rfl)⟩)
    · have present := (settled context).resolve_left fun left => unentered left.1
      simp [departures_take, present.2, calls]
    · simp [own, different, calls]
    · simp [calls]

theorem orderly_left (booked : b.Booked) (under : b.pending.get? call = some (.leaving behaviour))
    (others : ∀ other, other ≠ call → b.pending.get? other = none)
    (silent : ∀ other, (call, .enterContext other) ∉ b.made)
    (calm : ∀ fault, behaviour.outcome = .error fault → fault.isFailure = true)
    (settled : ∀ context, b.Settled context) :
    (b.take call (b.transport.left behaviour.outcome)).Orderly := by
  have unreturned := booked.unreturned call _ under
  have known : call < b.begun := Nat.lt_of_not_le fun late => by
    cases (booked.unborn call late).2.1.symm.trans under
  obtain ⟨notices, left⟩ := left_of_lenient b.transport calm
  rw [left]
  refine ⟨booked.take known unreturned booked.lenient fun other late => ⟨late, ?_, ?_⟩,
    .apart rfl rfl (fun other => ?_) fun other => (settled other).take unreturned ?_ ?_⟩
  · simp [silent]
  · simp
  · by_cases same : other = call
    · exact same ▸ pending_finished rfl
    · rw [pending_take_other same, others other same]
  · simp [silent]
  · simp

theorem orderly_ready (orderly : b.Orderly) (call : CallId) : (b.step (.ready call)).Orderly := by
  have booked := orderly.booked
  cases under : b.pending.get? call with
  | none => rwa [step, under]
  | some chore =>
    simp only [step, under]
    cases orderly.phase with
    | apart _ _ alone | connected _ _ _ alone => cases (alone call).symm.trans under
    | @entering own context behaviour nobody apart same created under' others made unentered
        settled =>
      obtain rfl : call = own := Decidable.byContradiction fun different => by
        cases (others call different).symm.trans under
      cases under'.symm.trans under
      exact orderly_entered booked nobody apart same created under others made unentered settled
    | @leaving own context behaviour held connected under' others silent calm settled =>
      obtain rfl : call = own := Decidable.byContradiction fun different => by
        cases (others call different).symm.trans under
      cases under'.symm.trans under
      exact orderly_left booked under others silent calm settled

theorem orderly_step (orderly : b.Orderly) {act : Act} (apart : b.overtakes act = false) :
    (b.step act).Orderly := by
  cases act with
  | connect => exact orderly_connect orderly apart
  | close => exact orderly_close orderly apart
  | ready call => exact orderly_ready orderly call

theorem orderly_play (orderly : b.Orderly) {acts : List Act} (separate : b.separate acts = true) :
    (b.play acts).Orderly := by
  induction acts generalizing b with
  | nil => exact orderly
  | cons act acts ih =>
    simp only [Switchboard.separate, Bool.and_eq_true, Bool.not_eq_true'] at separate
    exact ih (orderly_step orderly separate.1) separate.2

/-- Nothing is in use and nobody is about to change that, or somebody is leaving what was. -/
def Ebbs (b : Switchboard ς) : Prop :=
  (b.transport.client = none ∧ ∀ call, b.pending.get? call = none) ∨
    ∃ call behaviour, b.pending.get? call = some (.leaving behaviour)

theorem ebbs_close (orderly : b.Orderly) (alone : ∀ call, b.pending.get? call = none) :
    (b.step .close).Ebbs := by
  obtain ⟨booked, phase⟩ := orderly
  have ended {reply : ChoreReply ς} {result} (ends : reply.progress = .finished result) (call) :
      (b.begin reply).pending.get? call = none := by
    rw [pending_begin booked ends, alone]
  cases phase with
  | apart nobody =>
    rw [step, close_apart nobody]
    exact .inl ⟨rfl, ended rfl⟩
  | @connected context held connected same =>
    have closing : Closing b.transport context b.transport.close :=
      closing_close held same booked.lenient
    rw [step]
    generalize b.transport.close = reply at closing
    cases closing with
    | waits => exact .inr ⟨_, _, pending_suspended rfl⟩
    | closed => exact .inl ⟨rfl, ended rfl⟩
  | entering _ _ _ _ under | leaving _ _ under => cases (alone _).symm.trans under

theorem ebbs_ready (orderly : b.Orderly) (ebbs : b.Ebbs) (call : CallId) :
    (b.step (.ready call)).Ebbs := by
  rcases ebbs with ⟨nobody, alone⟩ | ⟨own, behaviour, under⟩
  · rw [step, alone]
    exact .inl ⟨nobody, alone⟩
  · cases orderly.phase with
    | apart _ _ alone | connected _ _ _ alone => cases (alone own).symm.trans under
    | @entering other _ _ _ _ _ _ under' others =>
      obtain rfl : own = other := Decidable.byContradiction fun different => by
        cases (others own different).symm.trans under
      cases under'.symm.trans under
    | @leaving other _ _ _ _ under' others _ calm =>
      obtain rfl : own = other := Decidable.byContradiction fun different => by
        cases (others own different).symm.trans under
      cases under'.symm.trans under
      by_cases same : call = own
      · subst same
        obtain ⟨notices, left⟩ := left_of_lenient b.transport calm
        simp only [step, under, resumeChore, left]
        refine .inl ⟨rfl, fun other => ?_⟩
        by_cases same : other = call
        · exact same ▸ pending_finished rfl
        · rw [pending_take_other same, others other same]
      · rw [step, others call same]
        exact .inr ⟨own, behaviour, under⟩

/-- Where nobody connects or closes any more, the connection only comes to its end. -/
theorem ebbs_play (orderly : b.Orderly) (ebbs : b.Ebbs) {acts : List Act}
    (resting : ∀ act ∈ acts, ∃ call, act = .ready call) :
    (b.play acts).Orderly ∧ (b.play acts).Ebbs := by
  induction acts generalizing b with
  | nil => exact ⟨orderly, ebbs⟩
  | cons act acts ih =>
    obtain ⟨⟨call, rfl⟩, rest⟩ := List.forall_mem_cons.1 resting
    exact ih (orderly_ready orderly call) (ebbs_ready orderly ebbs call) rest

/-- When it has, all contexts are settled. -/
theorem Ebbs.settled (ebbs : b.Ebbs) (orderly : b.Orderly) (idle : b.Idle) (context : Nat) :
    b.Settled context := by
  cases orderly.phase with
  | apart _ _ _ settled | entering _ _ _ _ _ _ _ _ settled | leaving _ _ _ _ _ _ settled =>
    exact settled context
  | connected held =>
    rcases ebbs with ⟨nobody, -⟩ | ⟨call, behaviour, under⟩
    · cases nobody.symm.trans held
    · cases (idle.alone call).symm.trans under

theorem orderly_new (region : Text) (endpoint : Option Text) (timeout : Binary64) {service : ς}
    (lenient : Lenient service) : (Switchboard.new region endpoint timeout service).Orderly := by
  have unentered (context : Nat) :
      ¬ (Switchboard.new region endpoint timeout service).Entered context := by
    rintro ⟨call, returned, -⟩
    cases returned
  refine ⟨⟨lenient, fun call _ => ?_, fun call chore under => ?_, fun context _ => ?_⟩,
    .apart rfl rfl (fun call => rfl) fun context => .inr ⟨unentered context, rfl⟩⟩
  · exact ⟨List.not_mem_nil, rfl, fun _ => List.not_mem_nil⟩
  · cases under
  · exact ⟨unentered context, rfl⟩

end Step
end Switchboard

/-- Nobody connects or closes while a context is being entered, and nobody closes while one is being
left. Then, when all calls are over and the last one to begin was one to close that began alone,
every context that was entered was left once, and no other one was left. -/
theorem leaves_entered [Service ς] (region : Text) (endpoint : Option Text) (timeout : Binary64)
    (service : ς) (lenient : Lenient service) (front rest : List Act)
    (apart : (Switchboard.new region endpoint timeout service).separate front = true)
    (idle : ((Switchboard.new region endpoint timeout service).play front).Idle)
    (resting : ∀ act ∈ rest, ∃ call, act = .ready call)
    (ended : ((Switchboard.new region endpoint timeout service).play
      (front ++ .close :: rest)).Idle)
    (context : Nat) :
    let b := (Switchboard.new region endpoint timeout service).play (front ++ .close :: rest)
    (b.Entered context → b.departures context = 1) ∧
      (¬ b.Entered context → b.departures context = 0) := by
  intro b
  let c := (Switchboard.new region endpoint timeout service).play front
  have played : b = (c.step .close).play rest := by
    simp only [b, c, Switchboard.play, List.foldl_append, List.foldl_cons]
  have before : c.Orderly :=
    Switchboard.orderly_play (Switchboard.orderly_new region endpoint timeout lenient) apart
  have entries : c.pending.entries = [] := idle
  have closed : (c.step .close).Orderly :=
    Switchboard.orderly_close before (by simp [Switchboard.overtakes, entries])
  obtain ⟨orderly, ebbs⟩ :=
    Switchboard.ebbs_play closed (Switchboard.ebbs_close before idle.alone) resting
  rw [← played] at orderly ebbs
  rcases ebbs.settled orderly ended context with ⟨entered, once⟩ | ⟨unentered, never⟩
  · exact ⟨fun _ => once, fun unentered => absurd entered unentered⟩
  · exact ⟨fun entered => absurd entered unentered, fun _ => never⟩

theorem Script.lenient (script : Script) (calm : ∀ behaviour ∈ script.behaviours .leaveContext,
    ∀ fault, behaviour.outcome = .error fault → fault.isFailure = true) : Lenient script := by
  intro calls
  induction calls generalizing script with
  | nil =>
    intro context fault failed
    rcases script.next_behaviour .leaveContext with silent | scripted
    · have unscripted : (script.next .leaveContext).1.outcome = .error fault := failed
      rw [silent] at unscripted
      cases unscripted
    · exact calm _ scripted fault failed
  | cons call calls ih =>
    exact ih _ fun behaviour member => calm behaviour (script.next_subset call.method _ member)

def aSecond : Binary64 := .ofRatio false 1 1

def unreachable : Fault := .plain .system "unreachable" none

/-- The first context cannot be entered, the second only after a while; leaving it takes a while too
and fails. -/
def unsteady : Script where
  behaviours
    | .enterContext => [⟨.zero false, .error unreachable⟩, ⟨aSecond, .ok .empty⟩]
    | .leaveContext => [⟨aSecond, .error unreachable⟩]
    | _ => []

/-- Somebody connects again while the context is being left, which does nothing, and once more when
it is left. -/
def reconnecting : List Act :=
  [.connect, .connect, .ready 1, .close, .connect, .ready 2, .connect]

def reconnected : Switchboard Script :=
  (Switchboard.new "eu" none aSecond unsteady).play (reconnecting ++ .close :: [])

theorem leaves_entered_reconnecting :
    (Switchboard.new "eu" none aSecond unsteady).separate reconnecting = true ∧
      (reconnected.Entered 1 ∧ reconnected.departures 1 = 1) ∧
      ¬ reconnected.Entered 0 ∧ reconnected.departures 0 = 0 := by
  have lenient : Lenient unsteady := by
    refine unsteady.lenient fun behaviour member fault failed => ?_
    obtain rfl : behaviour = ⟨aSecond, .error unreachable⟩ := List.mem_singleton.1 member
    cases failed
    rfl
  have apart : (Switchboard.new "eu" none aSecond unsteady).separate reconnecting = true := rfl
  have left := leaves_entered "eu" none aSecond unsteady lenient reconnecting [] apart rfl
    (fun _ member => by cases member) rfl
  have entered : reconnected.Entered 1 := ⟨1, by decide, by decide⟩
  have unentered : ¬ reconnected.Entered 0 := by
    rintro ⟨call, returned, made⟩
    have calls : ∀ call ∈ reconnected.returned, (call, .enterContext 0) ∉ reconnected.made := by
      decide
    exact calls call returned made
  exact ⟨apart, ⟨entered, (left 1).1 entered⟩, unentered, (left 0).2 unentered⟩

/-- Entering the first context takes a while. -/
def slowEntry : Script where
  behaviours
    | .enterContext => [⟨aSecond, .ok .empty⟩]
    | _ => []

/-- Leaving a context takes a while. -/
def slowDeparture : Script where
  behaviours
    | .leaveContext => [⟨aSecond, .ok .empty⟩, ⟨aSecond, .ok .empty⟩]
    | _ => []

def connectedTwice : Switchboard Script :=
  (Switchboard.new "eu" none aSecond slowEntry).play [.connect, .connect, .ready 0]

def closedTwice : Switchboard Script :=
  (Switchboard.new "eu" none aSecond slowDeparture).play
    [.connect, .close, .close, .ready 1, .ready 2]

/-- Two calls to connect overlap: of the two contexts that are entered only the one that was created
last is left on closing. Two calls to close overlap: both leave the context. -/
theorem overlapping_leaks :
    (connectedTwice.Idle ∧ (connectedTwice.step .close).Idle ∧
      (connectedTwice.step .close).Entered 0 ∧ (connectedTwice.step .close).departures 0 = 0) ∧
    closedTwice.Idle ∧ (closedTwice.step .close).Idle ∧
      (closedTwice.step .close).Entered 0 ∧ (closedTwice.step .close).departures 0 = 2 :=
  ⟨⟨rfl, rfl, ⟨0, by decide, by decide⟩, by decide⟩, rfl, rfl, ⟨0, by decide, by decide⟩, by decide⟩

end CloudWatch
end SequenceLog

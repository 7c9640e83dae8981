import SequenceLog.Proofs.Contexts
/-! Connectivity. Connects, closes, checks, appends and preparations of streams overlap on one transport,
each free to suspend, to fail and to be stopped. The transport is connected exactly when it holds a
client, only a connect that returns and a close change that, and the client is used only while the
transport is connected. Main statement: `client_used_while_connected`. -/
namespace SequenceLog

/-- The same reply, where stages and answers of other kinds may occur as well. -/
def Reply.among {τ σ κ α σ' α' : Type} (stage : σ → σ') (answer : α → α')
    (reply : Reply τ σ κ α) : Reply τ σ' κ α' :=
  ⟨reply.state, reply.remarks, match reply.progress with
    | .suspended waits => .suspended (stage waits)
    | .finished result => .finished (result.map answer)⟩

namespace CloudWatch
variable {ς σ α : Type}

/-- Whether a call is one of the client. The others create a client and enter and leave its context. -/
def Call.isClient : Call → Bool
  | .createClient .. | .enterContext _ | .leaveContext _ => false
  | .putLogEvents _ | .createLogGroup _ | .createLogStream _ | .describeLogStreams _
  | .describeLogGroups _ => true

/-- What a transport may be asked for. -/
inductive Errand where
  | connect
  | close
  | healthCheck
  | append (request : Append)
  | ensureStream (key : Key)

inductive Halt where
  | chore (chore : Chore)
  | stage (stage : Stage)

/-- An errand comes to what a chore or what an operation comes to. -/
abbrev ErrandReply (ς : Type) := Reply (CloudWatch ς) Halt Call (Option Bool ⊕ Token)

/-- The errands that are suspended at such a place. -/
def Halt.Of : Halt → Errand → Prop
  | .chore (.entering ..), .connect | .chore (.leaving _), .close
  | .chore (.checking _), .healthCheck | .stage (.putting ..), .append _
  | .stage (.creatingGroup ..), .ensureStream _ | .stage (.creatingStream ..), .ensureStream _
  | .stage (.describing ..), .ensureStream _ => True
  | _, _ => False

def undertake [Service ς] (c : CloudWatch ς) : Errand → ErrandReply ς
  | .connect => c.connect.among .chore .inl
  | .close => c.close.among .chore .inl
  | .healthCheck => c.healthCheck.among .chore .inl
  | .append request => (c.append request).among .stage .inr
  | .ensureStream key => (c.ensureStream key).among .stage .inr

def goOn [Service ς] (c : CloudWatch ς) (signal : Signal) : Halt → ErrandReply ς
  | .chore chore => (c.resumeChore chore signal).among .chore .inl
  | .stage stage => (c.resume stage signal).among .stage .inr

structure Stretch (ς : Type) where
  call : CallId
  errand : Errand
  before : CloudWatch ς
  reply : ErrandReply ς

/-- A transport with all errands that are under way on it. They are numbered in the order in which
they began. -/
structure Hub (ς : Type) where
  transport : CloudWatch ς
  /-- How many errands began so far. -/
  begun : Nat
  pending : Table CallId (Errand × Halt)
  stretches : List (Stretch ς)

/-- What may come next: an errand begins, or one goes on that is suspended. -/
inductive Hub.Event where
  | begin (errand : Errand)
  | goOn (call : CallId) (signal : Signal)

namespace Hub

def new (region : Text) (endpoint : Option Text) (timeout : Binary64) (service : ς) : Hub ς :=
  ⟨CloudWatch.new region endpoint timeout service, 0, .empty, []⟩

def take (h : Hub ς) (call : CallId) (errand : Errand) (reply : ErrandReply ς) : Hub ς where
  transport := reply.state
  begun := h.begun
  pending := match reply.progress with
    | .suspended halt => h.pending.insert call (errand, halt)
    | .finished _ => h.pending.erase call
  stretches := h.stretches ++ [⟨call, errand, h.transport, reply⟩]

/-- An errand that is not suspended does not go on. -/
def step [Service ς] (h : Hub ς) : Event → Hub ς
  | .begin errand =>
    { h with begun := h.begun + 1 }.take h.begun errand (h.transport.undertake errand)
  | .goOn call signal =>
    match h.pending.get? call with
    | some (errand, halt) => h.take call errand (h.transport.goOn signal halt)
    | none => h

def play [Service ς] (h : Hub ς) (events : List Event) : Hub ς := events.foldl step h

end Hub

section Among
variable {stage : σ → Halt} {answer : α → Option Bool ⊕ Token}
  {reply : Reply (CloudWatch ς) σ Call α}

@[simp] theorem calls_among : (reply.among stage answer).calls = reply.calls := rfl

theorem returns_among : (reply.among stage answer).Returns ↔ reply.Returns := by
  obtain ⟨state, remarks, progress⟩ := reply
  rcases progress with ⟨fault | said⟩ | waits <;> simp [Reply.among, Reply.Returns, Except.map]

theorem suspended_among {halt : Halt}
    (waits : (reply.among stage answer).progress = .suspended halt) :
    ∃ own, reply.progress = .suspended own ∧ halt = stage own := by
  obtain ⟨state, remarks, progress⟩ := reply
  cases progress with
  | finished result => cases waits
  | suspended own =>
    cases waits
    exact ⟨own, rfl, rfl⟩

end Among

/-- The transport is connected exactly when it holds a client. -/
def Linked (c : CloudWatch ς) : Prop := c.connected = c.client.isSome

/-- A part of an errand that leaves the client where it is, and uses it only if there is one. It is
suspended at such a place only. -/
structure Borrows (fits : σ → Prop) (c : CloudWatch ς) (reply : Reply (CloudWatch ς) σ Call α) :
    Prop where
  client : reply.state.client = c.client
  connected : reply.state.connected = c.connected
  held : reply.calls ≠ [] → c.client.isSome = true
  waits : ∀ place, reply.progress = .suspended place → fits place

section Borrowing
variable {c : CloudWatch ς} {key : Key}

theorem borrows_finished {fits : σ → Prop} {notices : List (Remark Call)} {result : Except Fault α}
    (silent : notices.filterMap Remark.call? = []) :
    Borrows fits c ⟨c, notices, .finished result⟩ :=
  ⟨rfl, rfl, fun some => absurd silent some, nofun⟩

theorem borrows_request [Service ς] {fits : σ → Prop} {context : Nat} (there : c.client = some context)
    {call : Call} {reply : Reply (CloudWatch ς) σ Call α}
    (borrows : Borrows fits (c.request call).2 reply) (before : List (Remark Call)) :
    Borrows fits c { reply with remarks := before ++ reply.remarks } :=
  ⟨borrows.client, borrows.connected, fun _ => by simp [there], borrows.waits⟩

theorem borrows_suspended [Service ς] {fits : σ → Prop} {context : Nat}
    (there : c.client = some context) {call : Call} {place : σ} (fit : fits place) :
    Borrows fits c (⟨(c.request call).2, [.call call], .suspended place⟩ :
      Reply (CloudWatch ς) σ Call α) :=
  ⟨rfl, rfl, fun _ => by simp [there], fun _ waits => by cases waits; exact fit⟩

theorem borrows_putResult {fits : Stage → Prop} (request : Append)
    (outcome : Except Fault Response) : Borrows fits c (c.putResult request outcome) := by
  unfold putResult
  split
  · exact borrows_finished rfl
  · refine borrows_finished ?_
    split <;> rfl
  · exact borrows_finished rfl

theorem borrows_described {fits : Stage → Prop} (outcome : Except Fault Response) :
    Borrows fits c (c.described key outcome) := by
  unfold described
  split <;> exact borrows_finished rfl

theorem borrows_checked {fits : Chore → Prop} (behaviour : Behaviour) (signal : Signal) :
    Borrows fits c (c.resumeChore (.checking behaviour) signal) := by
  cases signal with
  | interrupted | expired => exact borrows_finished rfl
  | ready =>
    simp only [resumeChore, checked]
    split
    · exact borrows_finished rfl
    · split <;> exact borrows_finished rfl

variable [Service ς]

theorem borrows_healthCheck :
    Borrows (fun chore => (Halt.chore chore).Of .healthCheck) c c.healthCheck := by
  unfold healthCheck
  split
  · exact borrows_finished rfl
  · rename_i there
    exact borrows_suspended there trivial

theorem borrows_append (request : Append) :
    Borrows (fun stage => (Halt.stage stage).Of (.append request)) c (c.append request) := by
  unfold append
  split
  · exact borrows_finished rfl
  · rename_i there
    exact borrows_suspended there trivial

variable {fits : Stage → Prop}

theorem borrows_describe (fit : ∀ behaviour, fits (.describing key behaviour)) :
    Borrows fits c (c.describe key) := by
  unfold describe
  split
  · exact borrows_finished rfl
  · rename_i there
    dsimp only
    split
    · exact borrows_request there (borrows_described _) [_]
    · exact borrows_suspended there (fit _)

theorem borrows_streamCreated (fit : ∀ behaviour, fits (.describing key behaviour))
    (outcome : Except Fault Response) : Borrows fits c (c.streamCreated key outcome) := by
  unfold streamCreated
  split
  · exact borrows_finished rfl
  · exact borrows_describe fit

theorem borrows_createStream (fit : ∀ behaviour, fits (.describing key behaviour))
    (also : ∀ behaviour, fits (.creatingStream key behaviour)) :
    Borrows fits c (c.createStream key) := by
  unfold createStream
  split
  · exact borrows_finished rfl
  · rename_i there
    dsimp only
    split
    · exact borrows_request there (borrows_streamCreated fit _) [_]
    · exact borrows_suspended there (also _)

theorem borrows_groupCreated (fit : ∀ behaviour, fits (.describing key behaviour))
    (also : ∀ behaviour, fits (.creatingStream key behaviour)) (outcome : Except Fault Response) :
    Borrows fits c (c.groupCreated key outcome) := by
  unfold groupCreated
  split
  · exact borrows_finished rfl
  · exact borrows_createStream fit also

theorem borrows_ensureStream :
    Borrows (fun stage => (Halt.stage stage).Of (.ensureStream key)) c (c.ensureStream key) := by
  unfold ensureStream
  split
  · exact borrows_finished rfl
  · rename_i there
    dsimp only
    split
    · exact borrows_request there (borrows_groupCreated (fun _ => trivial) (fun _ => trivial) _) [_]
    · exact borrows_suspended there trivial

theorem borrows_resume {errand : Errand} {stage : Stage} (own : (Halt.stage stage).Of errand)
    (signal : Signal) :
    Borrows (fun stage => (Halt.stage stage).Of errand) c (c.resume stage signal) := by
  cases signal with
  | interrupted => exact borrows_finished rfl
  | expired => cases stage <;> exact borrows_finished rfl
  | ready =>
    cases stage with
    | putting request _ behaviour => exact borrows_putResult request _
    | describing => exact borrows_described _
    | creatingGroup =>
      cases errand with
      | ensureStream key => exact borrows_groupCreated (fun _ => trivial) (fun _ => trivial) _
      | connect | close | healthCheck | append => cases own
    | creatingStream =>
      cases errand with
      | ensureStream key => exact borrows_streamCreated (fun _ => trivial) _
      | connect | close | healthCheck | append => cases own

end Borrowing

/-- A part of connecting or closing, suspended at such a place only. It changes whether the transport,
which was connected before or not, is connected only where it returns, and does not call the client. -/
structure Switches (fits : Chore → Prop) (before : Bool) (reply : ChoreReply ς) : Prop where
  linked : reply.state.Linked
  connected : ¬ reply.Returns → reply.state.connected = before
  silent : ∀ call ∈ reply.calls, call.isClient = false
  waits : ∀ chore, reply.progress = .suspended chore → fits chore

section Switching
variable {fits : Chore → Prop} {before : Bool} {c : CloudWatch ς}

theorem linked_cleared (c : CloudWatch ς) : c.cleared.Linked := rfl

theorem switches_done (linked : c.Linked) (notices : List Notice) :
    Switches fits before (c.done notices) :=
  ⟨linked, fun unreturned => absurd ⟨none, rfl⟩ unreturned, by simp, nofun⟩

theorem switches_refused (linked : c.Linked) (fault : Fault) :
    Switches fits c.connected (c.refused fault) :=
  ⟨linked, fun _ => rfl, fun _ => nofun, nofun⟩

theorem switches_suspended (linked : c.Linked) {chore : Chore} (fit : fits chore) :
    Switches fits c.connected ⟨c, [], .suspended chore⟩ :=
  ⟨linked, fun _ => rfl, fun _ => nofun, fun _ waits => by cases waits; exact fit⟩

theorem Switches.afterCall {reply : ChoreReply ς} (switches : Switches fits before reply)
    {call : Call} (apart : call.isClient = false) : Switches fits before (afterCall call reply) where
  linked := switches.linked
  connected := switches.connected
  silent other member := by
    rcases List.mem_cons.1 (show other ∈ call :: reply.calls from member) with rfl | member
    · exact apart
    · exact switches.silent other member
  waits := switches.waits

theorem switches_entered (linked : c.Linked) (context : Nat) (outcome : Except Fault Response) :
    Switches fits c.connected (c.entered context outcome) := by
  unfold entered
  split
  · exact switches_refused linked _
  · have linked : (c.holding context).Linked := rfl
    exact switches_done linked _

theorem switches_left (linked : c.Linked) (outcome : Except Fault Response) :
    Switches fits c.connected (c.left outcome) := by
  unfold left
  split
  · exact switches_done c.linked_cleared _
  · split
    · exact switches_done c.linked_cleared _
    · exact switches_refused linked _

/-- Connecting and closing go on without suspending again. -/
theorem switches_resumeChore (linked : c.Linked) (chore : Chore)
    (own : ∀ behaviour, chore ≠ .checking behaviour) (signal : Signal) :
    Switches fits c.connected (c.resumeChore chore signal) := by
  cases chore with
  | checking behaviour => exact absurd rfl (own behaviour)
  | entering context behaviour =>
    cases signal with
    | interrupted | expired => exact switches_refused linked _
    | ready => exact switches_entered linked _ _
  | leaving behaviour =>
    cases signal with
    | interrupted | expired => exact switches_refused linked _
    | ready => exact switches_left linked _

variable [Service ς]

theorem Linked.request (linked : c.Linked) (call : Call) : (c.request call).2.Linked := linked

theorem switches_connect (linked : c.Linked) :
    Switches (fun chore => (Halt.chore chore).Of .connect) c.connected c.connect := by
  unfold connect
  split
  · exact switches_done linked _
  · dsimp only
    split
    · refine .afterCall ?_ rfl
      exact switches_refused (linked.request c.creation) _
    · have created : (c.created (c.request c.creation).2.service).Linked := linked
      refine .afterCall (.afterCall ?_ rfl) rfl
      split
      · exact switches_entered (created.request _) _ _
      · exact switches_suspended (created.request _) trivial

theorem switches_close (linked : c.Linked) :
    Switches (fun chore => (Halt.chore chore).Of .close) c.connected c.close := by
  unfold close
  split
  · exact switches_done c.linked_cleared _
  · exact switches_left linked _
  · dsimp only
    refine .afterCall ?_ rfl
    split
    · exact switches_left (linked.request _) _
    · exact switches_suspended (linked.request _) trivial

end Switching

/-- What a part of an errand may do: it leaves the transport connected exactly when it holds a client,
and only connecting and closing change whether it is, where they return. Calls of the client are made
of a connected transport. -/
structure Conducts (c : CloudWatch ς) (errand : Errand) (reply : ErrandReply ς) : Prop where
  linked : reply.state.Linked
  unreturned : ¬ reply.Returns → reply.state.connected = c.connected
  keeps : errand ≠ .connect → errand ≠ .close → reply.state.connected = c.connected
  guarded : ∀ call ∈ reply.calls, call.isClient = true →
    c.connected = true ∧ reply.state.connected = true
  waits : ∀ halt, reply.progress = .suspended halt → halt.Of errand

section Conduct
variable {c : CloudWatch ς} {errand : Errand}

theorem Borrows.conducts {place : σ → Halt} {answer : α → Option Bool ⊕ Token}
    {reply : Reply (CloudWatch ς) σ Call α}
    (borrows : Borrows (fun stage => (place stage).Of errand) c reply) (linked : c.Linked) :
    c.Conducts errand (reply.among place answer) where
  linked := borrows.connected.trans (linked.trans (congrArg Option.isSome borrows.client.symm))
  unreturned _ := borrows.connected
  keeps _ _ := borrows.connected
  guarded call member _ := by
    have held := borrows.held (List.ne_nil_of_mem member)
    exact ⟨linked.trans held, borrows.connected.trans (linked.trans held)⟩
  waits halt waits := by
    obtain ⟨own, progress, rfl⟩ := suspended_among waits
    exact borrows.waits own progress

theorem Switches.conducts {reply : ChoreReply ς}
    (switches : Switches (fun chore => (Halt.chore chore).Of errand) c.connected reply)
    (own : errand = .connect ∨ errand = .close) :
    c.Conducts errand (reply.among .chore .inl) where
  linked := switches.linked
  unreturned unreturned :=
    switches.connected fun returns => unreturned (returns_among.2 returns)
  keeps unconnecting unclosing := (own.elim unconnecting unclosing).elim
  guarded call member client := by cases (switches.silent call member).symm.trans client
  waits halt waits := by
    obtain ⟨own, progress, rfl⟩ := suspended_among waits
    exact switches.waits own progress

variable [Service ς]

theorem conducts_undertake (linked : c.Linked) (errand : Errand) :
    c.Conducts errand (c.undertake errand) := by
  cases errand with
  | connect => exact (switches_connect linked).conducts (.inl rfl)
  | close => exact (switches_close linked).conducts (.inr rfl)
  | healthCheck => exact borrows_healthCheck.conducts linked
  | append request => exact (borrows_append request).conducts linked
  | ensureStream key => exact borrows_ensureStream.conducts linked

theorem conducts_goOn (linked : c.Linked) {halt : Halt} (own : halt.Of errand) (signal : Signal) :
    c.Conducts errand (c.goOn signal halt) := by
  cases halt with
  | stage stage => exact (borrows_resume own signal).conducts linked
  | chore chore =>
    cases chore with
    | checking behaviour =>
      cases errand with
      | healthCheck => exact (borrows_checked behaviour signal).conducts linked
      | connect | close | append | ensureStream => cases own
    | entering context behaviour =>
      cases errand with
      | connect =>
        exact (switches_resumeChore linked _ (fun _ same => by cases same) signal).conducts
          (.inl rfl)
      | close | healthCheck | append | ensureStream => cases own
    | leaving behaviour =>
      cases errand with
      | close =>
        exact (switches_resumeChore linked _ (fun _ same => by cases same) signal).conducts
          (.inr rfl)
      | connect | healthCheck | append | ensureStream => cases own

end Conduct

namespace Hub

/-- What is true of every hub that is reached. -/
structure Conducted (h : Hub ς) : Prop where
  linked : h.transport.Linked
  own : ∀ call errand halt, h.pending.get? call = some (errand, halt) → halt.Of errand
  stretches : ∀ stretch ∈ h.stretches, stretch.before.Conducts stretch.errand stretch.reply

variable {h : Hub ς} {call : CallId} {errand : Errand}

theorem Conducted.take (conducted : h.Conducted) {reply : ErrandReply ς}
    (conducts : h.transport.Conducts errand reply) : (h.take call errand reply).Conducted where
  linked := conducts.linked
  own other errand' halt under := by
    obtain ⟨state, remarks, progress⟩ := reply
    by_cases same : other = call
    · subst same
      cases progress with
      | finished result => simp [Hub.take] at under
      | suspended waits =>
        obtain ⟨rfl, rfl⟩ : errand = errand' ∧ waits = halt := by simpa [Hub.take] using under
        exact conducts.waits waits rfl
    · refine conducted.own other errand' halt ?_
      cases progress <;> simpa [Hub.take, same] using under
  stretches :=
    List.forall_mem_append.2 ⟨conducted.stretches, List.forall_mem_singleton.2 conducts⟩

variable [Service ς]

theorem conducted_step (conducted : h.Conducted) (event : Event) : (h.step event).Conducted := by
  cases event with
  | begin errand =>
    have begun : Conducted { h with begun := h.begun + 1 } :=
      ⟨conducted.linked, conducted.own, conducted.stretches⟩
    exact begun.take (conducts_undertake conducted.linked errand)
  | goOn call signal =>
    cases under : h.pending.get? call with
    | none => rwa [step, under]
    | some entry =>
      obtain ⟨errand, halt⟩ := entry
      rw [step, under]
      have own := conducted.own call errand halt under
      exact conducted.take (conducts_goOn conducted.linked own signal)

theorem conducted_play (conducted : h.Conducted) (events : List Event) :
    (h.play events).Conducted := by
  induction events generalizing h with
  | nil => exact conducted
  | cons event events ih => exact ih (conducted_step conducted event)

omit [Service ς] in
theorem conducted_new (region : Text) (endpoint : Option Text) (timeout : Binary64) (service : ς) :
    (Hub.new region endpoint timeout service).Conducted where
  linked := rfl
  own call errand halt under := by cases under
  stretches stretch member := by cases member

end Hub

/-- However connects, closes, checks, appends and preparations of streams overlap, whatever the service
answers to their calls, and wherever they are stopped: the transport is connected exactly when it holds
a client. Connecting that fails leaves it connected or not as it found it in each of its parts, and so
do checks, appends and preparations; and every call of the client is made while the transport is
connected. -/
theorem client_used_while_connected [Service ς] (region : Text) (endpoint : Option Text)
    (timeout : Binary64) (service : ς) (events : List Hub.Event) :
    let h := (Hub.new region endpoint timeout service).play events
    (h.transport.connected = true ↔ ∃ context, h.transport.client = some context) ∧
    ∀ stretch ∈ h.stretches,
      (stretch.errand = .connect → ¬ stretch.reply.Returns →
        stretch.reply.state.connected = stretch.before.connected) ∧
      (stretch.errand ≠ .connect → stretch.errand ≠ .close →
        stretch.reply.state.connected = stretch.before.connected) ∧
      ∀ call ∈ stretch.reply.calls, call.isClient = true →
        stretch.before.connected = true ∧ stretch.reply.state.connected = true := by
  intro h
  have conducted : h.Conducted := Hub.conducted_play (Hub.conducted_new ..) events
  refine ⟨?_, fun stretch member => ?_⟩
  · rw [show h.transport.connected = h.transport.client.isSome from conducted.linked,
      Option.isSome_iff_exists]
  · have conducts := conducted.stretches stretch member
    exact ⟨fun _ => conducts.unreturned, conducts.keeps, conducts.guarded⟩

/-- The first context cannot be entered, which takes a while to tell. Groups take a while to create. -/
def sluggish : Script where
  behaviours
    | .enterContext => [⟨aSecond, .error unreachable⟩]
    | .createLogGroup => [⟨aSecond, .ok .empty⟩]
    | _ => []

/-- The connect that began first fails when another one is over, and a stream is being prepared when
the transport is closed. -/
def overtaken : Hub Script :=
  (Hub.new "eu" none aSecond sluggish).play
    [.begin .connect, .begin .connect, .goOn 0 .ready, .begin (.ensureStream default),
      .begin .close, .goOn 2 .ready]

theorem client_used_while_connected_overtaken :
    (∃ stretch ∈ overtaken.stretches, stretch.errand = .connect ∧ ¬ stretch.reply.Returns ∧
      stretch.before.connected = true ∧ stretch.reply.state.connected = true) ∧
    (∃ stretch ∈ overtaken.stretches, .createLogGroup "" ∈ stretch.reply.calls ∧
      stretch.before.connected = true) ∧
    ∃ stretch ∈ overtaken.stretches, stretch.errand = .ensureStream default ∧
      stretch.before.connected = false ∧ stretch.reply.state.connected = false ∧
      stretch.reply.calls = [] := by
  have conducts := (client_used_while_connected "eu" none aSecond sluggish
    [.begin .connect, .begin .connect, .goOn 0 .ready, .begin (.ensureStream default),
      .begin .close, .goOn 2 .ready]).2
  have failing : overtaken.stretches[2]? = some _ := rfl
  have creating : overtaken.stretches[3]? = some _ := rfl
  have late : overtaken.stretches[5]? = some _ := rfl
  refine ⟨⟨_, List.mem_of_getElem? failing, rfl, ?_, rfl, ?_⟩,
    ⟨_, List.mem_of_getElem? creating, List.mem_singleton.2 rfl, ?_⟩,
    ⟨_, List.mem_of_getElem? late, rfl, rfl, ?_, rfl⟩⟩
  · rintro ⟨_, returned⟩
    cases returned
  · refine ((conducts _ (List.mem_of_getElem? failing)).1 rfl ?_).trans rfl
    rintro ⟨_, returned⟩
    cases returned
  · exact ((conducts _ (List.mem_of_getElem? creating)).2.2 _ (List.mem_singleton.2 rfl) rfl).1
  · exact ((conducts _ (List.mem_of_getElem? late)).2.1 nofun nofun).trans rfl

end CloudWatch
end SequenceLog

import SequenceLog.Proofs.Concern
import SequenceLog.Proofs.Ledger
/-! The traffic between a writer and the log service. Each append of the writer is one call of the
service, unless there is no connection, and the call's outcome decides that of the append. Main
statement: `linked_play`. -/
namespace SequenceLog
open Scenario CloudWatch
variable {ς μ χ : Type}

namespace CloudWatch

def Stage.behaviour : Stage → Behaviour
  | .putting _ _ behaviour | .creatingGroup _ behaviour | .creatingStream _ behaviour
  | .describing _ behaviour => behaviour

def Stage.isPutting : Stage → Bool
  | .putting .. => true
  | _ => false

/-- What a call that an operation waits for has come to when the operation goes on. -/
def Stage.outcome (stage : Stage) : Signal → Except Fault Response
  | .ready => stage.behaviour.outcome
  | .expired => .error (.plain .deadline "" none)
  | .interrupted => .error .stopped

/-- What an append comes to by the outcome of its call. -/
def putOutcome : Except Fault Response → Except Fault Token
  | .error fault => .error (putFault fault)
  | .ok (.mapping members) => .ok ((Json.Value.lookup "nextSequenceToken" members).getD .null)
  | .ok response => .error (lacksMember response "get")

end CloudWatch

/-- What passes between a writer and the service. -/
inductive Wire where
  | put (request : Append)
  | answered (outcome : Except Fault Response)

abbrev Traffic := List (CallId × Wire)

def Happening.put? : Happening Call → Option Append
  | .call (.putLogEvents request) => some request
  | _ => none

def Session.puts {τ σ : Type} (s : Session τ σ Call) : List Append :=
  s.happened.filterMap Happening.put?

/-- What became of the append with which a batch goes on in a turn. -/
def Turn.answer? {τ : Type} (turn : Turn τ Stage Call μ χ) : Option (Except Fault Response) :=
  match turn.move with
  | .resume task signal =>
    match turn.before.active task with
    | some (.batch _ _ (.sending _ stage)) => some (stage.outcome signal)
    | _ => none
  | _ => none

theorem Turn.answer?_resume {τ : Type} {before after : Session τ Stage Call} {task : TaskId}
    {signal : Signal} {id : WriterId} {events : List LogEvent} {left : Nat} {stage : Stage}
    {call : Option CallId} {result : Option (Except Fault Answer)}
    (under : before.active task = some (.batch id events (.sending left stage))) :
    (⟨.resume task signal, call, before, after, result⟩ : Turn τ Stage Call μ χ).answer? =
      some (stage.outcome signal) := by
  simp [answer?, under]

/-- What passed between a writer and the service in a turn: first the answer to the request before. -/
def Turn.traffic {τ : Type} (turn : Turn τ Stage Call μ χ) (id : WriterId) : Traffic :=
  match turn.call with
  | some call =>
    if turn.writer? = some id then
      (turn.answer?.toList.map Wire.answered ++ turn.after.puts.map Wire.put).map (call, ·)
    else []
  | none => []

def Run.traffic {τ : Type} (r : Run τ Stage Call μ χ) (id : WriterId) : Traffic :=
  r.turns.flatMap (·.traffic id)

/-- The traffic that belongs to a chronicle. -/
inductive Wired : Chronicle → Traffic → Prop
  | nil : Wired [] []
  | put {past before call request} : Wired past before →
      Wired (past ++ [(call, .sent request)]) (before ++ [(call, .put (wireRequest request))])
  | answered {past before call outcome} : Wired past before →
      Wired (past ++ [(call, .settled (putOutcome outcome))]) (before ++ [(call, .answered outcome)])
  | removed {past before call key} : Wired past before → Wired (past ++ [(call, .removed key)]) before
  /-- Without a connection there is no call. -/
  | unsent {past before call request} : Wired past before →
      Wired (past ++ [(call, .sent request), (call, .settled (.error notConnected))]) before

namespace CloudWatch
variable (c : CloudWatch ς)

theorem putResult_progress (request : Append) (outcome : Except Fault Response) :
    (c.putResult request outcome).progress = .finished (putOutcome outcome) := by
  cases outcome with
  | error fault => rfl
  | ok response => cases response <;> rfl

theorem putResult_remarks (request : Append) (outcome : Except Fault Response) :
    (c.putResult request outcome).remarks.filterMap (Happening.put? ∘ Happening.ofRemark) = [] := by
  cases outcome with
  | error fault => rfl
  | ok response =>
    cases response with
    | mapping members =>
      simp only [putResult]
      split <;> rfl
    | _ => rfl

end CloudWatch

namespace Session
variable {τ σ : Type} (s : Session τ σ Call)

@[simp] theorem puts_note (happenings : List (Happening Call)) :
    (s.note happenings).puts = s.puts ++ happenings.filterMap Happening.put? := by
  simp [puts, note]

@[simp] theorem puts_notice (notices : List Notice) : (s.notice notices).puts = s.puts := by
  simp [notice, List.filterMap_map, Function.comp_def, Happening.put?]

@[simp] theorem puts_setWriter (id : WriterId) (w : Writer) : (s.setWriter id w).puts = s.puts := rfl

@[simp] theorem puts_wake (task : Option TaskId) : (s.wake task).puts = s.puts := by
  cases task <;> simp [wake, Happening.put?]

@[simp] theorem puts_absorb {ρ α : Type} (reply : Reply τ ρ Call α) :
    (s.absorb reply).puts =
      s.puts ++ reply.remarks.filterMap (Happening.put? ∘ Happening.ofRemark) := by
  simp [absorb, puts, note, List.filterMap_map]

@[simp] theorem puts_adopt (id : WriterId) (token : Token) : (s.adopt id token).puts = s.puts := rfl

@[simp] theorem puts_releaseWriter (id : WriterId) : (s.releaseWriter id).puts = s.puts := by
  simp [releaseWriter]

@[simp] theorem puts_remove (key : Key) (writer : Option WriterId) :
    (s.remove key writer).puts = s.puts := by
  rw [remove, puts_notice]
  rfl

@[simp] theorem puts_retire (id : WriterId) (reason : Fault) : (s.retire id reason).puts = s.puts := by
  simp only [retire, deregister]
  split <;> simp [Happening.put?]

/-- Traffic with the requests that were made in the session since. -/
def carried (past : Traffic) (call : CallId) : Traffic := past ++ s.puts.map fun r => (call, .put r)

@[simp] theorem told_fresh (past : Chronicle) (call : CallId) (id : WriterId) :
    s.fresh.told past call id = past := List.append_nil _

@[simp] theorem carried_fresh (past : Traffic) (call : CallId) : s.fresh.carried past call = past :=
  List.append_nil _

end Session

/-- How far the append of a batch has come. If it is over, its outcome is not in the chronicle yet. -/
def Underway (past : Chronicle) (before : Traffic) (call : CallId) (id : WriterId)
    (s : Session (CloudWatch ς) Stage Call) : Progress Stage Token → Prop
  | .suspended stage => stage.isPutting = true ∧ Wired (s.told past call id) (s.carried before call)
  | .finished result =>
    Wired (s.told past call id ++ [(call, .settled result)]) (s.carried before call)

/-- The traffic of a turn of a batch belongs to what the writer did in it. -/
structure Conveyed (past : Chronicle) (before : Traffic) (call : CallId) (id : WriterId)
    (stepped : Stepped (CloudWatch ς) Stage Call) : Prop where
  wired : Wired (stepped.session.told past call id) (stepped.session.carried before call)
  putting : ∀ other events left stage,
    stepped.activity? = some (.batch other events (.sending left stage)) → stage.isPutting = true

namespace Session
variable [Service ς] {s : Session (CloudWatch ς) Stage Call} {past : Chronicle} {before : Traffic}
  {call : CallId} {id : WriterId} {events : List LogEvent}

omit [Service ς] in
theorem conveyed_finished (s : Session (CloudWatch ς) Stage Call)
    {s' : Session (CloudWatch ς) Stage Call} {result : Except Fault Answer} (more : List Deed)
    (deeds : s'.deeds id = s.deeds id ++ more) (puts : s'.puts = s.puts)
    (wired : Wired (s.told past call id ++ more.map (call, ·)) (s.carried before call)) :
    Conveyed past before call id (s'.finished result) where
  wired := by
    rw [finished, told_of_deeds deeds, carried, puts]
    exact wired
  putting _ _ _ _ suspended := by cases suspended

theorem underway_send (wired : Wired (s.told past call id) (s.carried before call)) (token : Token) :
    Underway past before call id (s.send id events token).1 (s.send id events token).2 := by
  have told : (s.send id events token).1.told past call id =
      s.told past call id ++ [(call, .sent ((s.writer id).request token events))] :=
    told_of_deeds (deeds_send ..)
  cases client : s.transport.client with
  | none =>
    have progress : (s.send id events token).2 = .finished (.error notConnected) := by
      simp [send, Transport.append, CloudWatch.append, client, failed]
    have puts : (s.send id events token).1.puts = s.puts := by
      simp [send, Transport.append, CloudWatch.append, client, failed, Happening.put?]
    rw [progress, Underway, told, carried, puts, List.append_assoc]
    exact wired.unsent
  | some held =>
    let sent := wireRequest ((s.writer id).request token events)
    let behaviour := (Service.answer s.transport.service (.putLogEvents sent)).1
    have progress : (s.send id events token).2 = .suspended
        (.putting ((s.writer id).request token events) s.transport.timeout behaviour) := by
      simp [send, Transport.append, CloudWatch.append, client, CloudWatch.request, behaviour, sent]
    have puts : (s.send id events token).1.puts =
        s.puts ++ [wireRequest ((s.writer id).request token events)] := by
      simp [send, Transport.append, CloudWatch.append, client, Happening.put?, Happening.ofRemark]
    rw [progress, Underway, told, carried, puts, List.map_append, ← List.append_assoc]
    exact ⟨rfl, wired.put⟩

/-- An append that failed is over when the next one is sent. -/
theorem underway_resend (events : List LogEvent) {fault : Fault}
    (wired : Wired (s.told past call id ++ [(call, .settled (.error fault))]) (s.carried before call))
    (notices : List Notice) (expected : Expected) :
    Underway past before call id (s.resend id events fault notices expected).1
      (s.resend id events fault notices expected).2 := by
  let noticed := (s.note [.settled id (.error fault)]).notice notices
  have deeds : noticed.deeds id = s.deeds id ++ [.settled (.error fault)] := by
    simp [noticed, Happening.deed?]
  have puts : noticed.puts = s.puts := by simp [noticed, Happening.put?]
  apply underway_send (s := noticed)
  rw [told_of_deeds deeds, carried, puts]
  exact wired

omit [Service ς] in
theorem conveyed_suspended {stage : Stage} {left : Nat}
    (underway : Underway past before call id s (.suspended stage)) :
    Conveyed past before call id (s.suspended (.batch id events (.sending left stage))) where
  wired := underway.2
  putting _ _ _ _ suspended := by
    cases suspended
    exact underway.1

theorem conveyed_settle (known : id < s.writers.length) (left : Nat) (result : Except Fault Token)
    (wired : Wired (s.told past call id ++ [(call, .settled result)]) (s.carried before call)) :
    Conveyed past before call id (s.settle id events left result) := by
  refine settle_induct id events
    (motive := fun s _ result stepped => id < s.writers.length →
      Wired (s.told past call id ++ [(call, .settled result)]) (s.carried before call) →
      Conveyed past before call id stepped)
    ?accepted ?stopped ?fatal ?waits ?again s left result known wired
  case accepted =>
    intro s left next known wired
    exact conveyed_finished s [.settled (.ok next)] (by simp [Happening.deed?])
      (by simp [Happening.put?]) wired
  case stopped =>
    intro s left fault _ known wired
    exact conveyed_finished s [.settled (.error fault)] (by simp [Happening.deed?])
      (by simp [Happening.put?]) wired
  case fatal =>
    intro s left fault notices _ _ known wired
    let noticed := (s.note [.settled id (.error fault)]).notice notices
    have told := deeds_retire noticed id known fault
    refine conveyed_finished s [.settled (.error fault), .removed (s.writer id).key] ?_ ?_ ?_
    · rw [deeds_releaseWriter, told]
      simp [noticed, Happening.deed?]
    · simp [Happening.put?]
    · simpa using wired.removed
  case waits =>
    intro s left fault expected notices stage _ _ progress known wired
    have underway := underway_resend events wired notices expected
    rw [progress] at underway
    exact conveyed_suspended underway
  case again =>
    intro s left fault expected notices result _ _ progress resent ih known wired
    have kept : Within id s resent := within_resend ..
    have underway := underway_resend events wired notices expected
    rw [progress] at underway
    exact ih (kept.known known) underway

theorem conveyed_pursue (known : id < s.writers.length) (left : Nat) {progress : Progress Stage Token}
    (underway : Underway past before call id s progress) :
    Conveyed past before call id (s.pursue id events left progress) := by
  cases progress with
  | suspended stage => exact conveyed_suspended underway
  | finished result => exact conveyed_settle known left result underway

omit [Service ς] in
/-- A turn in which a batch does nothing but take its place. -/
theorem conveyed_idle (s : Session (CloudWatch ς) Stage Call)
    {stepped : Stepped (CloudWatch ς) Stage Call}
    (wired : Wired (s.told past call id) (s.carried before call))
    (deeds : stepped.session.deeds id = s.deeds id) (puts : stepped.session.puts = s.puts)
    (silent : ∀ other events left stage,
      stepped.activity? ≠ some (.batch other events (.sending left stage))) :
    Conveyed past before call id stepped where
  wired := by rwa [told, deeds, carried, puts]
  putting other events left stage suspended := absurd suspended (silent other events left stage)

theorem conveyed_sendBatch (known : id < s.writers.length)
    (wired : Wired (s.told past call id) (s.carried before call)) :
    Conveyed past before call id (s.sendBatch id events) := by
  cases status : (s.writer id).status with
  | invalidated =>
    rw [sendBatch_invalidated status]
    exact conveyed_idle s wired (deeds_releaseWriter ..) (puts_releaseWriter ..)
      fun _ _ _ _ suspended => by cases suspended
  | active =>
    rw [sendBatch_active status]
    exact conveyed_pursue (s := (s.send id events (s.writer id).token).1) known _
      (underway_send wired _)

theorem conveyed_startBatch (known : id < s.writers.length) (task : TaskId) (batch : Batch)
    (wired : Wired (s.told past call id) (s.carried before call)) :
    Conveyed past before call id (s.startBatch task id batch) := by
  unfold startBatch
  split
  · exact conveyed_idle s wired rfl rfl fun _ _ _ _ suspended => by cases suspended
  · split
    · exact conveyed_idle s wired rfl rfl fun _ _ _ _ suspended => by cases suspended
    · dsimp only
      split
      · exact conveyed_sendBatch (s := s.setWriter id _) (by simpa using known) wired
      · exact conveyed_idle s wired rfl rfl fun _ _ _ _ suspended => by cases suspended

theorem conveyed_queued (known : id < s.writers.length) (task : TaskId) (signal : Signal)
    (wired : Wired (s.told past call id) (s.carried before call)) :
    Conveyed past before call id (s.resumeBatch task id events .queued signal) := by
  cases signal with
  | ready =>
    simp only [resumeBatch]
    split
    · exact conveyed_sendBatch (s := s.setWriter id _) (by simpa using known) wired
    · exact conveyed_idle s wired rfl rfl fun _ _ _ _ suspended => by cases suspended
  | expired | interrupted =>
    exact conveyed_idle s wired (by simp [resumeBatch, finished]) (by simp [resumeBatch, finished])
      fun _ _ _ _ suspended => by cases suspended

theorem conveyed_sending (known : id < s.writers.length) (task : TaskId) {left : Nat} {stage : Stage}
    (putting : stage.isPutting = true) (signal : Signal)
    (wired : Wired (s.told past call id) before) (fresh : s.puts = []) :
    Conveyed past (before ++ [(call, .answered (stage.outcome signal))]) call id
      (s.resumeBatch task id events (.sending left stage) signal) := by
  cases stage with
  | putting request limit behaviour =>
    rw [resumeBatch_sending]
    let reply : TokenReply ς :=
      Transport.resume s.transport (.putting request limit behaviour) signal
    let outcome := (Stage.putting request limit behaviour).outcome signal
    have progress : reply.progress = .finished (putOutcome outcome) := by
      cases signal with
      | ready => exact putResult_progress ..
      | expired | interrupted => rfl
    have quiet : reply.remarks.filterMap (Happening.put? ∘ Happening.ofRemark) = [] := by
      cases signal with
      | ready => exact putResult_remarks ..
      | expired | interrupted => rfl
    apply conveyed_pursue (s := s.absorb reply) known
    have told : (s.absorb reply).told past call id = s.told past call id := by simp [Session.told]
    rw [progress, Underway, told, carried, puts_absorb, fresh, quiet, List.append_nil, List.map_nil,
      List.append_nil]
    exact wired.answered
  | creatingGroup | creatingStream | describing => cases putting

end Session

/-- The traffic of a writer belongs to its chronicle, and whatever a batch of it waits for is the call
of its append. -/
structure Linked (r : Run (CloudWatch ς) Stage Call μ χ) (id : WriterId) : Prop where
  wired : Wired (r.chronicle id) (r.traffic id)
  putting : ∀ task events left stage,
    r.session.active task = some (.batch id events (.sending left stage)) → stage.isPutting = true

theorem linked_new (c : CloudWatch ς) (createStreams : Bool) (maxAttempts : Int) (id : WriterId) :
    Linked (.new c createStreams maxAttempts : Run (CloudWatch ς) Stage Call μ χ) id where
  wired := .nil
  putting _ _ _ _ under := by cases under

section Play
variable [Service ς] [Commanded (CloudWatch ς) μ χ Call] {r r' : Run (CloudWatch ς) Stage Call μ χ}
  {id : WriterId}

omit [Service ς] [Commanded (CloudWatch ς) μ χ Call] in
theorem Takes.linked {task : TaskId} {stepped : Stepped (CloudWatch ς) Stage Call}
    {turn : Turn (CloudWatch ς) Stage Call μ χ} (takes : Takes r r' task stepped)
    (turns : r'.turns = r.turns ++ [turn]) (after : turn.after = r'.session)
    (belongs : turn.call = some (r'.call task)) (own : turn.writer? = some id)
    (linked : Linked r id)
    (conveyed : Conveyed (r.chronicle id)
      (r.traffic id ++ turn.answer?.toList.map fun o => (r'.call task, .answered o)) (r'.call task) id
      stepped) : Linked r' id where
  wired := by
    have puts : turn.after.puts = stepped.session.puts := by
      rw [after, takes.session]
      rfl
    have traffic : r'.traffic id = stepped.session.carried
        (r.traffic id ++ turn.answer?.toList.map fun o => (r'.call task, .answered o))
        (r'.call task) := by
      simp [Run.traffic, turns, Turn.traffic, belongs, own, puts, Session.carried,
        Function.comp_def]
    rw [takes.chronicle, traffic]
    exact conveyed.wired
  putting other events left stage under := by
    by_cases same : other = task
    · subst same
      exact conveyed.putting id events left stage (takes.active_self ▸ under)
    · exact linked.putting other events left stage (takes.active_other same ▸ under)

theorem linked_step (linked : Linked r id) (sound : Sound r) (move : Move μ χ) :
    Linked (r.step move) id := by
  have concerns := concerns_step sound move id
  generalize r.step move = r' at concerns ⊢
  cases concerns with
  | stay => exact linked
  | @spared move _ turn turns before after other spares =>
    have deeds : turn.deeds id = [] := by
      rw [Turn.deeds, after, spares.quiet]
      split <;> rfl
    have traffic : turn.traffic id = [] := by
      unfold Turn.traffic
      split
      · exact if_neg other
      · rfl
    constructor
    · simpa [Run.chronicle, Run.traffic, turns, deeds, traffic] using linked.wired
    · intro task events left stage under
      have mine : r'.session.batchOf task = some id :=
        Session.Sending.batchOf ⟨events, left, stage, under⟩
      exact linked.putting task events left stage (spares.batches task mine ▸ under)
  | @start task batch _ known _ takes turns =>
    refine takes.linked turns rfl rfl rfl linked ?_
    apply Session.conveyed_startBatch (s := r.session.fresh) known
    simpa [Turn.answer?] using linked.wired
  | @resume task events stage signal _ under takes turns =>
    have known := (sound.asked task id events stage under).1
    have own : r.session.fresh.batchOf task = some id := by
      simp [Session.batchOf, Session.fresh, under, Activity.writer?]
    refine takes.linked turns rfl rfl own linked ?_
    have under' : r.session.fresh.active task = some (.batch id events stage) := under
    cases stage with
    | queued =>
      apply Session.conveyed_queued (s := r.session.fresh) known
      simpa [Turn.answer?, under'] using linked.wired
    | sending left stage =>
      have putting := linked.putting task events left stage under
      rw [Turn.answer?_resume under']
      apply Session.conveyed_sending (s := r.session.fresh) known task putting signal _ rfl
      simpa using linked.wired

theorem linked_play (linked : Linked r id) (sound : Sound r) (moves : List (Move μ χ)) :
    Linked (r.play moves) id :=
  play_induct sound linked fun _ sound linked move _ => linked_step linked sound move

end Play
end SequenceLog

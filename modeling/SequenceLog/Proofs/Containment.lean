import SequenceLog.Proofs.Flight
import SequenceLog.Proofs.Upkeep
import SequenceLog.Proofs.Wire
/-! Faults that leave an operation on the log service. Where the calls come to nothing that the
transport does not understand, every failure of a bare operation or of a search is one of the
transport's own, unless the connection was closed between two calls of a preparation. What is not
understood is passed on as it is. Main statements: `contains_faults` and `strange_faults_leave`. -/
namespace SequenceLog
open Scenario

section Sources
variable {τ σ κ : Type} {s : Session τ σ κ} {key : Key} {era : Nat} {task : TaskId} {fault : Fault}

/-- Where writers may make an append at all, a writer cannot be opened only for what happened to the
preparation of its stream. -/
theorem Session.fault_openPrepared (attempts : 1 ≤ s.pool.maxAttempts)
    {prepared : Except Fault Token}
    (failed : (s.openPrepared key era prepared).result? = some (.error fault)) :
    prepared = .error fault := by
  cases prepared with
  | error reason =>
    cases failed
    rfl
  | ok token =>
    have opened : Writer.new? key .pool token s.pool.maxAttempts =
        .ok ⟨key, .pool, token, .active, s.pool.maxAttempts.toNat - 1, .free⟩ :=
      if_neg (Int.not_lt.2 attempts)
    simp only [openPrepared, Except.bind, opened] at failed
    cases failed

variable [Transport τ σ κ]

theorem Session.fault_prepare (attempts : 1 ≤ s.pool.maxAttempts)
    (failed : (s.prepare key era).result? = some (.error fault)) :
    (Transport.ensureStream s.transport key).progress = .finished (.error fault) := by
  unfold prepare at failed
  split at failed
  · cases failed
  · split at failed
    · dsimp only at failed
      split at failed
      · cases failed
      · rename_i ended
        have same := fault_openPrepared (s := s.absorb _) attempts failed
        exact same ▸ ended
    · cases fault_openPrepared attempts failed

theorem Session.fault_startLookup (attempts : 1 ≤ s.pool.maxAttempts)
    (failed : (s.startLookup task key).result? = some (.error fault)) :
    (Transport.ensureStream s.transport key).progress = .finished (.error fault) := by
  unfold startLookup at failed
  split at failed
  · cases failed
  · dsimp only at failed
    split at failed
    · exact fault_prepare (s := s.setKeyLock _ _ _) attempts failed
    · cases failed

/-- A search that goes on fails when it is told to stop, or by the preparation of its stream. -/
theorem Session.fault_resumeLookup (attempts : 1 ≤ s.pool.maxAttempts) {stage : LookupStage σ}
    {signal : Signal}
    (failed : (s.resumeLookup task key era stage signal).result? = some (.error fault)) :
    fault = .stopped ∨
      (Transport.ensureStream s.transport key).progress = .finished (.error fault) ∨
      ∃ preparing, stage = .preparing preparing ∧
        (Transport.resume s.transport preparing signal).progress = .finished (.error fault) := by
  cases stage with
  | queued =>
    cases signal with
    | ready =>
      simp only [resumeLookup] at failed
      split at failed
      · exact .inr (.inl (fault_prepare (s := s.setKeyLock _ _ _) attempts failed))
      · cases failed
    | expired | interrupted =>
      cases failed
      exact .inl rfl
  | preparing stage =>
    simp only [resumeLookup] at failed
    split at failed
    · cases failed
    · rename_i ended
      have same := fault_openPrepared (s := s.absorb _) attempts failed
      exact .inr (.inr ⟨stage, rfl, same ▸ ended⟩)

omit [Transport τ σ κ] in
theorem Session.fault_relay {reply : Reply τ σ κ Token}
    (failed : (s.relay reply).result? = some (.error fault)) :
    reply.progress = .finished (.error fault) := by
  simp only [relay, Stepped.result?] at failed
  cases progress : reply.progress with
  | suspended stage => simp [progress] at failed
  | finished result =>
    cases result with
    | ok token => simp [progress, Except.map] at failed
    | error reason => simp_all [Except.map]

end Sources

section SetUp
variable {τ σ κ μ χ : Type} [Transport τ σ κ] [Commanded τ μ χ κ] {r : Run τ σ κ μ χ}

/-- No move changes how the pool was set up. -/
theorem setUpAs_step (sound : Sound r) (move : Move μ χ) :
    r.session.pool.SetUpAs (r.step move).session.pool := by
  have steps := steps_step sound move
  generalize r.step move = r' at steps ⊢
  cases steps with
  | stay => exact ⟨rfl, rfl⟩
  | @start task operation _ _ known _ _ takes =>
    rw [takes.pool]
    cases operation with
    | append request | ensureStream key => exact ⟨rfl, rfl⟩
    | getWriter key => exact (sought_startLookup (s := r.session.fresh) task).setUpAs
    | write id batch =>
      exact (Session.within_startBatch (s := r.session.fresh) (known id batch rfl) ..).setUpAs
  | @resume task signal activity _ under _ _ takes =>
    rw [takes.pool]
    cases activity with
    | transport stage => exact ⟨rfl, rfl⟩
    | lookup key era stage =>
      exact (sought_resumeLookup (s := r.session.fresh) task stage signal).setUpAs
    | batch id events stage =>
      have known := (sound.asked task id events stage under).1
      exact (Session.within_resumeBatch (s := r.session.fresh) known ..).setUpAs
  | pass between =>
    cases move with
    | start task operation | resume task signal => cases between
    | abandon task => exact (r.session.fresh.beside_abandon task default).setUpAs
    | remove key writer => exact Pool.setUpAs_remove ..
    | openWriter key registry token maxAttempts =>
      simp only [Run.pass, Session.play, Session.openWriter]
      split <;> exact ⟨rfl, rfl⟩
    | closePool | command | chore => exact ⟨rfl, rfl⟩

end SetUp

namespace CloudWatch

def IsListing (response : Response) : Prop :=
  ∃ members, response = .mapping members ∧
    ∀ streams, Json.Value.lookup "logStreams" members = some streams →
      ∃ descriptions, streams.items? = some descriptions ∧
        ∀ description ∈ descriptions, ∃ members, description = .mapping members

/-- What a call may come to that the transport understands: a response with the members it asks for,
an error of the service, the passed deadline of an append, a fault of its own, or a cancellation. -/
def Method.Understands (method : Method) : Except Fault Response → Prop
  | .ok response =>
    match method with
    | .putLogEvents => ∃ members, response = .mapping members
    | .describeLogStreams => IsListing response
    | _ => True
  | .error (.service _) => True
  | .error (.plain .deadline _ _) => method = .putLogEvents
  | .error fault => fault.isFailure = true → fault.isTransportFault = true

def Script.Understood (script : Script) : Prop :=
  ∀ method, ∀ behaviour ∈ script.behaviours method, method.Understands behaviour.outcome

/-- What the service still has to say is understood. -/
def Understood (c : CloudWatch Script) : Prop := c.service.Understood

def Stage.method : Stage → Method
  | .putting .. => .putLogEvents
  | .creatingGroup .. => .createLogGroup
  | .creatingStream .. => .createLogStream
  | .describing .. => .describeLogStreams

def Stage.Understood (stage : Stage) : Prop := stage.method.Understands stage.behaviour.outcome

/-- There are calls to make after the one that the preparation of a stream waits for. -/
def Stage.hasNext : Stage → Bool
  | .creatingGroup .. | .creatingStream .. => true
  | _ => false

theorem Method.understands_unscripted (method : Method) :
    method.Understands Behaviour.unscripted.outcome := by
  have listing : IsListing .empty := ⟨[], rfl, fun _ absent => by cases absent⟩
  cases method <;> first | exact ⟨[], rfl⟩ | exact listing | trivial

theorem Script.Understood.next {script : Script} (understood : script.Understood)
    (method : Method) :
    method.Understands (script.next method).1.outcome ∧ (script.next method).2.Understood := by
  refine ⟨?_, fun other behaviour member => ?_⟩
  · rcases script.next_behaviour method with silent | scripted
    · rw [silent]
      exact method.understands_unscripted
    · exact understood method _ scripted
  · exact understood other behaviour (script.next_subset method other member)

theorem Script.Understood.extend {script : Script} (understood : script.Understood)
    {method : Method} {more : List Behaviour}
    (also : ∀ behaviour ∈ more, method.Understands behaviour.outcome) :
    (script.extend method more).Understood := by
  intro other behaviour member
  simp only [Script.extend] at member
  split at member
  · rename_i same
    subst same
    rcases List.mem_append.1 member with old | new
    · exact understood other behaviour old
    · exact also behaviour new
  · exact understood other behaviour member

theorem uploadToken_ok (stream : Text) {descriptions : List Json.Value}
    (described : ∀ description ∈ descriptions, ∃ members, description = .mapping members) :
    ∃ token, uploadToken stream descriptions = .ok token := by
  induction descriptions with
  | nil => exact ⟨.null, rfl⟩
  | cons description rest ih =>
    obtain ⟨⟨members, rfl⟩, others⟩ := List.forall_mem_cons.1 described
    unfold uploadToken
    split
    · exact ⟨_, rfl⟩
    · exact ih others

theorem listedToken_ok (stream : Text) {response : Response} (listing : IsListing response) :
    ∃ token, listedToken stream response = .ok token := by
  obtain ⟨members, rfl, listed⟩ := listing
  cases found : Json.Value.lookup "logStreams" members with
  | none => exact ⟨.null, by simp [listedToken, found, Json.Value.items?, uploadToken]⟩
  | some streams =>
    obtain ⟨descriptions, items, described⟩ := listed streams found
    simpa [listedToken, found, items] using uploadToken_ok stream described

theorem isTransportFault_appendFault (error : ServiceError) :
    error.appendFault.isTransportFault = true := by
  unfold ServiceError.appendFault
  split
  · rfl
  · split <;> rfl

/-- A fault that may leave an operation: one of the transport's own, or a cancellation. -/
def IsOwn (fault : Fault) : Prop := fault.isFailure = true → fault.isTransportFault = true

theorem isOwn_putFault {fault : Fault}
    (understood : Method.putLogEvents.Understands (.error fault)) : IsOwn (putFault fault) := by
  unfold putFault
  split
  · exact fun _ => isTransportFault_appendFault _
  · exact fun _ => rfl
  · rename_i strange late
    unfold Method.Understands at understood
    split at understood <;> simp_all [IsOwn]

theorem isOwn_prepareFault (key : Key) {method : Method} (other : method ≠ .putLogEvents)
    {fault : Fault} (understood : method.Understands (.error fault)) :
    IsOwn (prepareFault key fault) := by
  unfold prepareFault
  split
  · exact fun _ => rfl
  · unfold Method.Understands at understood
    split at understood <;> simp_all [IsOwn]

theorem creationFault?_eq {outcome : Except Fault Response} {fault : Fault}
    (failed : creationFault? outcome = some fault) : outcome = .error fault := by
  unfold creationFault? at failed
  split at failed
  · cases failed
  · split at failed <;> cases failed
    rfl
  · cases failed
    rfl

/-- What an operation of the transport comes to where the service is understood. `orphaned` tells
that the client may be gone. -/
structure Contains (orphaned : Prop) (reply : TokenReply Script) : Prop where
  upholds : reply.Upholds Understood Stage.Understood
  fault : ∀ fault, reply.progress = .finished (.error fault) →
    IsOwn fault ∨ (orphaned ∧ ∃ member, fault = nothingHeld member)

section Replies
variable {c : CloudWatch Script} {orphaned : Prop} {key : Key}

theorem contains_failed (understood : c.Understood) {fault : Fault}
    (own : IsOwn fault ∨ (orphaned ∧ ∃ member, fault = nothingHeld member)) :
    Contains orphaned (c.failed fault) where
  upholds := ⟨understood, fun _ waits => by cases waits⟩
  fault other failed := by
    cases failed
    exact own

theorem contains_suspended (understood : c.Understood) (stage : Stage) (fits : stage.Understood)
    (remarks : List (Remark Call)) : Contains orphaned ⟨c, remarks, .suspended stage⟩ where
  upholds := ⟨understood, fun _ waits => by cases waits; exact fits⟩
  fault _ failed := by cases failed

theorem Contains.after {reply : TokenReply Script} (contains : Contains orphaned reply)
    (before : List (Remark Call)) : Contains orphaned (CloudWatch.after before reply) :=
  ⟨⟨contains.upholds.state, contains.upholds.stage⟩, contains.fault⟩

theorem Understood.request (understood : c.Understood) (call : Call) :
    call.method.Understands (c.request call).1.outcome ∧ (c.request call).2.Understood :=
  understood.next call.method

theorem contains_described (understood : c.Understood) {outcome : Except Fault Response}
    (fits : Method.describeLogStreams.Understands outcome) :
    Contains orphaned (c.described key outcome) := by
  cases outcome with
  | error fault =>
    exact contains_failed understood (.inl (isOwn_prepareFault key (by decide) fits))
  | ok response =>
    obtain ⟨token, listed⟩ := listedToken_ok key.stream fits
    refine ⟨⟨understood, fun _ waits => by cases waits⟩, fun fault failed => ?_⟩
    simp [described, listed] at failed

theorem contains_describe (understood : c.Understood) (gone : c.client = none → orphaned) :
    Contains orphaned (c.describe key) := by
  unfold describe
  split
  · rename_i none
    exact contains_failed understood (.inr ⟨gone none, _, rfl⟩)
  · obtain ⟨fits, understood'⟩ := understood.request (.describeLogStreams key)
    dsimp only
    split
    · exact (contains_described understood' fits).after _
    · exact contains_suspended understood' (.describing key _) fits _

theorem contains_streamCreated (understood : c.Understood) (gone : c.client = none → orphaned)
    {outcome : Except Fault Response} (fits : Method.createLogStream.Understands outcome) :
    Contains orphaned (c.streamCreated key outcome) := by
  unfold streamCreated
  split
  · rename_i failed
    rw [creationFault?_eq failed] at fits
    exact contains_failed understood (.inl (isOwn_prepareFault key (by decide) fits))
  · exact contains_describe understood gone

theorem contains_createStream (understood : c.Understood) (gone : c.client = none → orphaned) :
    Contains orphaned (c.createStream key) := by
  unfold createStream
  split
  · rename_i none
    exact contains_failed understood (.inr ⟨gone none, _, rfl⟩)
  · obtain ⟨fits, understood'⟩ := understood.request (.createLogStream key)
    dsimp only
    split
    · exact (contains_streamCreated understood' gone fits).after _
    · exact contains_suspended understood' (.creatingStream key _) fits _

theorem contains_groupCreated (understood : c.Understood) (gone : c.client = none → orphaned)
    {outcome : Except Fault Response} (fits : Method.createLogGroup.Understands outcome) :
    Contains orphaned (c.groupCreated key outcome) := by
  unfold groupCreated
  split
  · rename_i failed
    rw [creationFault?_eq failed] at fits
    exact contains_failed understood (.inl (isOwn_prepareFault key (by decide) fits))
  · exact contains_createStream understood gone

/-- A preparation begins only where there is a client, which stays while it is not suspended. -/
theorem contains_ensureStream (understood : c.Understood) (key : Key) :
    Contains False (c.ensureStream key) := by
  unfold ensureStream
  split
  · exact contains_failed understood (.inl fun _ => rfl)
  · rename_i held
    obtain ⟨fits, understood'⟩ := understood.request (.createLogGroup key.group)
    have client : (c.request (.createLogGroup key.group)).2.client = c.client := rfl
    dsimp only
    split
    · exact (contains_groupCreated understood' (by simp [client, held]) fits).after _
    · exact contains_suspended understood' (.creatingGroup key _) fits _

theorem contains_append (understood : c.Understood) (request : Append) :
    Contains False (c.append request) := by
  unfold append
  split
  · exact contains_failed understood (.inl fun _ => rfl)
  · obtain ⟨fits, understood'⟩ := understood.request (.putLogEvents (wireRequest request))
    exact contains_suspended understood' (.putting request c.timeout _) fits _

theorem contains_putResult (understood : c.Understood) {request : Append}
    {outcome : Except Fault Response} (fits : Method.putLogEvents.Understands outcome) :
    Contains orphaned (c.putResult request outcome) := by
  cases outcome with
  | error fault => exact contains_failed understood (.inl (isOwn_putFault fits))
  | ok response =>
    obtain ⟨members, rfl⟩ := fits
    exact ⟨⟨understood, fun _ waits => by cases waits⟩, fun _ failed => by cases failed⟩

theorem contains_resume (understood : c.Understood) {stage : Stage} (fits : stage.Understood)
    (signal : Signal) :
    Contains (c.client = none ∧ stage.hasNext = true) (c.resume stage signal) := by
  have cancelled : IsOwn .stopped := fun failure => by cases failure
  cases signal with
  | interrupted => exact contains_failed understood (.inl cancelled)
  | expired =>
    cases stage with
    | putting => exact contains_failed understood (.inl fun _ => rfl)
    | creatingGroup | creatingStream | describing =>
      exact contains_failed understood (.inl cancelled)
  | ready =>
    cases stage with
    | putting request limit behaviour => exact contains_putResult understood fits
    | creatingGroup key behaviour => exact contains_groupCreated understood (⟨·, rfl⟩) fits
    | creatingStream key behaviour => exact contains_streamCreated understood (⟨·, rfl⟩) fits
    | describing key behaviour => exact contains_described understood fits

theorem upkeep_understood : Upkeep Understood Stage.Understood fun _ => True where
  append understood request _ := (contains_append understood request).upholds
  ensureStream understood key := (contains_ensureStream understood key).upholds
  resume understood fits signal := (contains_resume understood fits signal).upholds

end Replies

section Commands
variable {c : CloudWatch Script}

theorem understood_entered (understood : c.Understood) (context : Nat)
    (outcome : Except Fault Response) : (c.entered context outcome).state.Understood := by
  unfold entered
  split <;> exact understood

theorem understood_left (understood : c.Understood) (outcome : Except Fault Response) :
    (c.left outcome).state.Understood := by
  unfold left
  split
  · exact understood
  · split <;> exact understood

theorem understood_connect (understood : c.Understood) : c.connect.state.Understood := by
  unfold connect
  split
  · exact understood
  · have created := (understood.request (.createClient c.region (customEndpoint c.endpoint))).2
    dsimp only
    split
    · exact created
    · have entering := (Script.Understood.next created .enterContext).2
      simp only [afterCall]
      split
      · refine understood_entered ?_ _ _
        exact entering
      · exact entering

theorem understood_close (understood : c.Understood) : c.close.state.Understood := by
  unfold close
  split
  · exact understood
  · exact understood_left understood _
  · rename_i context _ _
    have leaving := (understood.request (.leaveContext context)).2
    simp only [afterCall]
    split
    · exact understood_left leaving _
    · exact leaving

theorem understood_healthCheck (understood : c.Understood) : c.healthCheck.state.Understood := by
  unfold healthCheck
  split
  · exact understood
  · exact (understood.request (.describeLogGroups 1)).2

theorem understood_resumeChore (understood : c.Understood) (chore : Chore) (signal : Signal) :
    (c.resumeChore chore signal).state.Understood := by
  cases signal with
  | interrupted => exact understood
  | expired => cases chore <;> exact understood
  | ready =>
    cases chore with
    | entering context behaviour => exact understood_entered understood _ _
    | leaving behaviour => exact understood_left understood _
    | checking behaviour =>
      simp only [resumeChore, checked]
      split
      · exact understood
      · split <;> exact understood

end Commands
end CloudWatch

open CloudWatch

def Move.Understood : Move CloudWatch.Command Chore → Prop
  | .command (.script method more) =>
    ∀ behaviour ∈ more, method.Understands behaviour.outcome
  | _ => True

theorem Move.Understood.upholds {move : Move CloudWatch.Command Chore}
    (understood : move.Understood) : move.Upholds CloudWatch.Understood := by
  cases move with
  | command given =>
    intro c known
    cases given with
    | connect => exact understood_connect known
    | close => exact understood_close known
    | healthCheck => exact understood_healthCheck known
    | script method more => exact Script.Understood.extend known understood
  | chore stage signal => exact fun c known => understood_resumeChore known stage signal
  | _ => trivial

abbrev ScriptedTurn :=
  Turn (CloudWatch CloudWatch.Script) CloudWatch.Stage CloudWatch.Call CloudWatch.Command
    CloudWatch.Chore

/-- The connection was closed between two calls of a preparation, which goes on in this turn. -/
def Turn.Orphaned (turn : ScriptedTurn) : Prop :=
  turn.before.transport.client = none ∧
    ∃ task signal activity stage, turn.move = .resume task signal ∧
      turn.before.active task = some activity ∧ activity.stage? = some stage ∧
      stage.hasNext = true

/-- How a turn may fail that is not one of a batch. -/
def Turn.Contained (turn : ScriptedTurn) : Prop :=
  turn.writer? = none → ∀ fault, turn.result = some (.error fault) →
    IsOwn fault ∨ (turn.Orphaned ∧ ∃ member, fault = nothingHeld member)

/-- What is true of a run where all calls are understood. -/
structure Contained (r : ScriptedRun) : Prop where
  sound : Sound r
  upheld : r.session.Upheld Understood Stage.Understood
  attempts : 1 ≤ r.session.pool.maxAttempts
  turns : ∀ turn ∈ r.turns, turn.Contained

theorem contained_new {c : CloudWatch Script} (understood : c.Understood) (createStreams : Bool)
    {maxAttempts : Int} (attempts : 1 ≤ maxAttempts) :
    Contained (.new c createStreams maxAttempts) where
  sound := sound_new ..
  upheld := ⟨understood, fun _ _ _ under => by cases under⟩
  attempts := attempts
  turns turn member := by cases member

section Turns
variable {s : Session (CloudWatch Script) Stage Call} {task : TaskId} {fault : Fault}

theorem isOwn_opening (understood : s.transport.Understood) (attempts : 1 ≤ s.pool.maxAttempts)
    {operation : Operation} (apart : ∀ id batch, operation ≠ .write id batch)
    (failed : (s.opening task operation).result? = some (.error fault)) : IsOwn fault := by
  have own : ∀ {reply : TokenReply Script}, Contains False reply →
      reply.progress = .finished (.error fault) → IsOwn fault :=
    fun contains ended => (contains.fault fault ended).resolve_right And.left
  cases operation with
  | append request => exact own (contains_append understood request) (Session.fault_relay failed)
  | ensureStream key =>
    exact own (contains_ensureStream understood key) (Session.fault_relay failed)
  | getWriter key =>
    exact own (contains_ensureStream understood key) (Session.fault_startLookup attempts failed)
  | write id batch => exact absurd rfl (apart id batch)

theorem isOwn_ongoing (understood : s.transport.Understood) (attempts : 1 ≤ s.pool.maxAttempts)
    {activity : Activity Stage} (fits : ∀ stage, activity.stage? = some stage → stage.Understood)
    (apart : activity.writer? = none) {signal : Signal}
    (failed : (s.ongoing task signal activity).result? = some (.error fault)) :
    IsOwn fault ∨ ((s.transport.client = none ∧ ∃ stage, activity.stage? = some stage ∧
      stage.hasNext = true) ∧ ∃ member, fault = nothingHeld member) := by
  cases activity with
  | transport stage =>
    have contains := contains_resume understood (fits stage rfl) signal
    -- the one fault of another kind is that of a preparation that finds the client gone
    have source := contains.fault fault (Session.fault_relay failed)
    exact source.imp_right fun ⟨⟨gone, next⟩, missing⟩ => ⟨⟨gone, stage, rfl, next⟩, missing⟩
  | lookup key era stage =>
    rcases Session.fault_resumeLookup attempts failed with rfl | ended | ⟨preparing, rfl, ended⟩
    · exact .inl fun failure => by cases failure
    · exact .inl (((contains_ensureStream understood key).fault fault ended).resolve_right And.left)
    · have source := (contains_resume understood (fits preparing rfl) signal).fault fault ended
      exact source.imp_right fun ⟨⟨gone, next⟩, missing⟩ =>
        ⟨⟨gone, preparing, rfl, next⟩, missing⟩
  | batch id events stage => cases apart

end Turns

theorem contained_step {r : ScriptedRun} (contained : Contained r)
    {move : Move CloudWatch.Command Chore} (understood : move.Understood) :
    Contained (r.step move) := by
  have sound := sound_step contained.sound move
  have upheld := upheld_step upkeep_understood contained.sound contained.upheld understood.upholds
  have setUp := setUpAs_step contained.sound move
  have steps := steps_step contained.sound move
  generalize made : r.step move = r' at steps sound upheld setUp ⊢
  refine ⟨sound, upheld, setUp.2.symm ▸ contained.attempts, ?_⟩
  have grown : ∀ {turn : ScriptedTurn}, r'.turns = r.turns ++ [turn] → turn.Contained →
      ∀ turn ∈ r'.turns, turn.Contained := by
    intro turn turns now
    rw [turns]
    exact List.forall_mem_append.2 ⟨contained.turns, List.forall_mem_singleton.2 now⟩
  cases steps with
  | stay => exact contained.turns
  | @start task operation _ _ known _ _ takes =>
    refine grown (takes.turns_eq made) fun apart fault failed => .inl ?_
    refine isOwn_opening (s := r.session.fresh) contained.upheld.transport contained.attempts
      (fun id batch same => ?_) failed
    subst same
    cases apart
  | @resume task signal activity _ under _ _ takes =>
    refine grown (takes.turns_eq made) fun apart fault failed => ?_
    have batch : r.session.fresh.batchOf task = activity.writer? := by
      simp [Session.batchOf, Session.fresh, under]
    have source := isOwn_ongoing (s := r.session.fresh) contained.upheld.transport
      contained.attempts (fun stage => contained.upheld.stage task activity stage under)
      (batch.symm.trans apart) failed
    refine source.imp_right ?_
    rintro ⟨⟨gone, stage, own, next⟩, missing⟩
    exact ⟨⟨gone, task, signal, activity, stage, rfl, under, own, next⟩, missing⟩
  | pass between => exact grown rfl fun _ fault failed => by cases failed

theorem contained_play {r : ScriptedRun} (contained : Contained r)
    {moves : List (Move CloudWatch.Command Chore)}
    (understood : ∀ move ∈ moves, move.Understood) : Contained (r.play moves) :=
  play_induct contained.sound contained fun _ _ contained move member =>
    contained_step contained (understood move member)

theorem Fault.isWriterFault_of_transport {fault : Fault} (own : fault.isTransportFault = true) :
    fault.isWriterFault = true := by
  unfold isWriterFault
  split <;> first | rfl | exact own

/-- In every run in which the calls of the service come to what the transport understands, with
connecting and closing at any time: an append, the preparation of a stream and a search for a writer
fail with nothing but faults of the transport, unless the connection was closed between two calls of
a preparation that goes on. -/
theorem contains_faults (region : Text) (endpoint : Option Text) (timeout : Binary64)
    (script : Script) (understood : script.Understood) (createStreams : Bool) {maxAttempts : Int}
    (attempts : 1 ≤ maxAttempts) (moves : List (Move CloudWatch.Command Chore))
    (added : ∀ move ∈ moves, move.Understood) :
    let r : ScriptedRun :=
      (Run.new (.new region endpoint timeout script) createStreams maxAttempts).play moves
    ∀ turn ∈ r.turns, turn.writer? = none → ∀ fault, turn.result = some (.error fault) →
      fault.isFailure = true →
      (fault.isTransportFault = true ∧ fault.isWriterFault = true) ∨
        (turn.Orphaned ∧ ∃ member, fault = nothingHeld member) := by
  intro r turn member apart fault failed failure
  have start : Contained (.new (.new region endpoint timeout script) createStreams maxAttempts) :=
    contained_new (c := .new region endpoint timeout script) understood createStreams attempts
  have contained : turn.Contained := (contained_play start added).turns turn member
  rcases contained apart fault failed with own | orphaned
  · exact .inl ⟨own failure, Fault.isWriterFault_of_transport (own failure)⟩
  · exact .inr orphaned

/-- The service is busy when events are appended, and does not let streams be listed. -/
def troubledScript : Script where
  behaviours
    | .putLogEvents => [⟨.finite false 1 0, .error (.service
        ⟨some (.text "ThrottlingException"), none, none, false, none, ""⟩)⟩]
    | .describeLogStreams => [⟨.finite false 1 0, .error (.service
        ⟨some (.text "AccessDeniedException"), none, none, false, none, ""⟩)⟩]
    | _ => []

/-- The connection is closed under an append and under a search that lists streams. -/
def troubled : List (Move CloudWatch.Command Chore) :=
  [.command .connect, .start 0 (.append default), .start 1 (.getWriter default), .command .close,
    .resume 0 .ready, .resume 1 .ready, .start 2 (.ensureStream default)]

def troubledRun : ScriptedRun :=
  (Run.new (.new "eu" none (.zero false) troubledScript) true 3).play troubled

theorem contains_faults_troubled :
    troubledScript.Understood ∧ (∀ move ∈ troubled, move.Understood) ∧
      ∃ turn fault, troubledRun.turns[5]? = some turn ∧ turn.before.transport.client = none ∧
        turn.result = some (.error fault) ∧ fault.isTransportFault = true ∧
        fault.isWriterFault = true := by
  have understood : troubledScript.Understood := by
    rintro method behaviour member
    cases method with
    | putLogEvents | describeLogStreams =>
      obtain rfl := List.mem_singleton.1 member
      trivial
    | _ => cases member
  have added : ∀ move ∈ troubled, move.Understood := by simp [troubled, Move.Understood]
  have contains := contains_faults "eu" none (.zero false) troubledScript understood true
    (show (1 : Int) ≤ 3 by decide) troubled added
  have sixth : troubledRun.turns[5]? = some _ := rfl
  refine ⟨understood, added, _, _, sixth, rfl, rfl, ?_⟩
  refine (contains _ (List.mem_of_getElem? sixth) rfl _ rfl rfl).resolve_right ?_
  rintro ⟨-, member, same⟩
  cases same

/-- The service cannot be reached when events are appended. -/
def unreachableRun : ScriptedRun :=
  (Run.new scripted true 3).play [.command .connect,
    .command (.script .putLogEvents [⟨.zero false, .error (.endpoint "https://logs")⟩]),
    .start 0 (.append default), .resume 0 .ready]

/-- The connection is closed while a search creates the group of its stream. -/
def orphanedRun : ScriptedRun :=
  (Run.new scripted true 3).play [.command .connect, .command slowCreation,
    .start 0 (.getWriter default), .command .close, .resume 0 .ready]

/-- That the service cannot be reached leaves an append as it is, and a search that goes on without
a client fails for want of a member. Neither is a fault of writers and their transports. -/
theorem strange_faults_leave :
    (∃ turn ∈ unreachableRun.turns, turn.writer? = none ∧ ∃ fault,
      turn.result = some (.error fault) ∧ fault.isFailure = true ∧ fault.isWriterFault = false) ∧
    ∃ turn ∈ orphanedRun.turns, turn.writer? = none ∧ ∃ fault,
      turn.result = some (.error fault) ∧ fault.isFailure = true ∧ fault.isWriterFault = false := by
  have put : unreachableRun.turns[3]? = some _ := rfl
  have search : orphanedRun.turns[4]? = some _ := rfl
  exact ⟨⟨_, List.mem_of_getElem? put, rfl, .endpoint "https://logs", rfl, rfl, rfl⟩,
    ⟨_, List.mem_of_getElem? search, rfl, nothingHeld "create_log_stream", rfl, rfl, rfl⟩⟩

end SequenceLog

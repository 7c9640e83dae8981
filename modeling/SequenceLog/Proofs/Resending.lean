import SequenceLog.Proofs.Errand
import SequenceLog.Proofs.Reference
import SequenceLog.Proofs.Serving
import SequenceLog.Proofs.Verdict
/-! Sending again. A batch is sent again only where it is certain that nothing of it was stored, so no
service ever holds it twice, and a service holds every batch that was written without a fault. Main
statement: `resends_safely`. -/
namespace SequenceLog
open Scenario CloudWatch
variable {τ σ κ μ χ : Type}

theorem Session.Concludes.accepted {id : WriterId} {s : Session τ σ κ} {stepped : Stepped τ σ κ}
    {answer : Answer} (concludes : Session.Concludes id s stepped)
    (returned : stepped.progress = .finished (.ok answer)) :
    ∃ next, .settled (.ok next) ∈ stepped.session.deeds id := by
  cases concludes with
  | served _ judged =>
    obtain ⟨deeds, grown, verdict⟩ := judged
    rw [returned] at verdict
    generalize (stepped.session.writer id).status = status at verdict
    cases verdict with
    | @returned front next => exact ⟨next, by simp [grown]⟩
  | refused _ _ _ progress => cases returned.symm.trans progress
  | aside _ _ silent => cases silent _ returned

/-- Every batch for the writer that returned had an append that succeeded. -/
def Run.Repays (r : Run τ σ κ μ χ) (id : WriterId) : Prop :=
  ∀ turn ∈ r.turns, ∀ call batch answer, turn.call = some call → turn.writer? = some id →
    r.operations[call]? = some (.write id batch) → batch.records ≠ [] → turn.result = some (.ok answer) →
    ∃ next, (call, .settled (.ok next)) ∈ r.chronicle id

theorem Run.Asks.unique {r : Run τ σ κ μ χ} {id : WriterId} {call : CallId}
    {events events' : List LogEvent} (asked : r.Asks id call events) (asked' : r.Asks id call events') :
    events = events' := by
  obtain ⟨batch, called, -, serialized⟩ := asked
  obtain ⟨batch', called', -, serialized'⟩ := asked'
  cases called.symm.trans called'
  exact Except.ok.inj (serialized.symm.trans serialized')

section Repays
variable {r r' : Run τ σ κ μ χ} {id : WriterId}

/-- The run goes on with a turn. What was repaid stays so. -/
theorem Run.Repays.extended {turn : Turn τ σ κ μ χ} (repays : r.Repays id) (suited : Suited r)
    (turns : r'.turns = r.turns ++ [turn]) (operations : ∃ more, r'.operations = r.operations ++ more)
    (own : ∀ call batch answer, turn.call = some call → turn.writer? = some id →
      r'.operations[call]? = some (.write id batch) → batch.records ≠ [] → turn.result = some (.ok answer) →
      ∃ next, (call, .settled (.ok next)) ∈ turn.deeds id) : r'.Repays id := by
  have chronicle : r'.chronicle id = r.chronicle id ++ turn.deeds id := by
    simp [Run.chronicle, turns]
  intro turn' member call batch answer belongs writes called nonempty result
  rw [chronicle]
  rw [turns, List.mem_append, List.mem_singleton] at member
  rcases member with member | rfl
  · obtain ⟨operation, known, -⟩ := suited.turns turn' member call belongs
    obtain ⟨more, operations⟩ := operations
    rw [operations, List.getElem?_append_left (List.getElem?_eq_some_iff.1 known).1] at called
    obtain ⟨next, accepted⟩ := repays turn' member call batch answer belongs writes called nonempty
      result
    exact ⟨next, List.mem_append_left _ accepted⟩
  · obtain ⟨next, accepted⟩ := own call batch answer belongs writes called nonempty result
    exact ⟨next, List.mem_append_right _ accepted⟩

theorem Takes.accepted {task : TaskId} {stepped : Stepped τ σ κ} {turn : Turn τ σ κ μ χ}
    {answer : Answer} (takes : Takes r r' task stepped) (after : turn.after = r'.session)
    (belongs : turn.call = some (r'.call task)) (result : turn.result = stepped.result?)
    (concludes : Session.Concludes id r.session.fresh stepped)
    (returned : turn.result = some (.ok answer)) :
    ∃ next, (r'.call task, .settled (.ok next)) ∈ turn.deeds id := by
  have progress : stepped.progress = .finished (.ok answer) := by
    rw [result, Stepped.result?] at returned
    split at returned
    · cases returned
    · rename_i finished
      cases returned
      exact finished
  obtain ⟨next, accepted⟩ := concludes.accepted progress
  refine ⟨next, ?_⟩
  rw [Turn.deeds, belongs, after, takes.deeds]
  exact List.mem_map_of_mem accepted

variable [Transport τ σ κ] [Commanded τ μ χ κ]

theorem repays_step (repays : r.Repays id) (suited : Suited r) (sound : Sound r) (move : Move μ χ) :
    (r.step move).Repays id := by
  have concerns := concerns_step sound move id
  generalize r.step move = r' at concerns ⊢
  cases concerns with
  | stay => exact repays
  | spared turns _ _ other spares =>
    exact repays.extended suited turns spares.operations fun _ _ _ _ own => absurd own other
  | @start task batch _ known called takes turns =>
    refine repays.extended suited turns takes.operations ?_
    intro call batch' answer belongs _ called' nonempty result
    cases belongs
    cases called.symm.trans called'
    cases serialized : batch.events with
    | ok events =>
      exact takes.accepted rfl rfl rfl
        (Session.concludes_startBatch (s := r.session.fresh) known task nonempty serialized) result
    | error fault =>
      rw [Session.startBatch_unserialized serialized] at result
      cases result
  | @resume task events stage signal _ under takes turns =>
    refine repays.extended suited turns takes.operations ?_
    intro call batch answer belongs _ _ _ result
    cases belongs
    have known := (sound.asked task id events stage under).1
    have busy : ∀ left sent, stage = .sending left sent → (r.session.writer id).status = .active :=
      fun left sent sending => sound.active_of_sending (sending ▸ under)
    exact takes.accepted rfl rfl rfl
      (Session.concludes_resumeBatch (s := r.session.fresh) known task signal busy) result

omit [Transport τ σ κ] [Commanded τ μ χ κ] in
theorem repays_new (transport : τ) (createStreams : Bool) (maxAttempts : Int) (id : WriterId) :
    (.new transport createStreams maxAttempts : Run τ σ κ μ χ).Repays id := by
  intro turn member
  cases member

theorem repays_play (repays : r.Repays id) (suited : Suited r) (sound : Sound r)
    (moves : List (Move μ χ)) : (r.play moves).Repays id := by
  have both : Suited (r.play moves) ∧ (r.play moves).Repays id :=
    play_induct (motive := fun r => Suited r ∧ r.Repays id) sound ⟨suited, repays⟩
      fun _ sound ⟨suited, repays⟩ move _ =>
        ⟨suited_step suited sound move, repays_step repays suited sound move⟩
  exact both.2

omit [Transport τ σ κ] [Commanded τ μ χ κ] in
/-- A call that returned was made for its events, of which an append succeeded. -/
theorem Run.Repays.accepted {call : CallId} {events : List LogEvent} {answer : Answer}
    (repays : r.Repays id) (suited : Suited r) (asked : r.Asks id call events)
    (returned : .ok answer ∈ r.results call) :
    ∃ next, (call, .settled (.ok next)) ∈ r.chronicle id := by
  obtain ⟨batch, called, nonempty, -⟩ := asked
  obtain ⟨turn, member, result⟩ := List.mem_filterMap.1 returned
  split at result
  · rename_i belongs
    have writes := suited.writer member belongs called
    exact repays turn member call batch answer belongs writes called nonempty result
  · cases result

end Repays

/-- A failed call that may have stored its events all the same: a deadline passed, or the service
answered with an error that is not about the token. -/
def CloudWatch.isAmbiguous : Fault → Bool
  | .plain .deadline _ _ => true
  | .service error => error.code ≠ some (.text Rejection.mismatchCode)
  | _ => false

/-- Whatever texts the error of the service holds, they are not read as a mismatch. -/
theorem CloudWatch.refuses_ambiguous {fault : Fault} (ambiguous : isAmbiguous fault = true) :
    refuses (putOutcome (.error fault)) = false := by
  have nothing : reference? fault = none := by
    unfold isAmbiguous at ambiguous
    split at ambiguous
    · rfl
    · exact if_neg (by simpa using ambiguous)
    · cases ambiguous
  have unexpected := expected?_putFault fault
  rw [nothing] at unexpected
  simp [putOutcome, refuses, Fault.isRecoverable, Option.map_eq_none_iff.1 unexpected]

/-- An answer is the end of an append. Requests after it are made for appends after that. -/
theorem Wired.of_answered {h : Chronicle} {w past rest : Traffic} {call : CallId}
    {outcome : Except Fault Response} (wired : Wired h w)
    (split : w = past ++ (call, .answered outcome) :: rest) :
    ∃ before later, h = before ++ (call, .settled (putOutcome outcome)) :: later ∧
      ∀ other request, (other, .put request) ∈ rest → other ∈ Chronicle.senders later := by
  induction wired generalizing rest with
  | nil => simp at split
  | @put _ _ sender sent _ ih =>
    rcases Chronicle.concat_eq_split.1 split with ⟨-, -, different⟩ | ⟨front, rfl, same⟩
    · cases different
    · obtain ⟨before, later, rfl, sends⟩ := ih same
      refine ⟨before, later ++ _, List.append_assoc .., fun other request member => ?_⟩
      rw [Chronicle.mem_senders_sent]
      rcases List.mem_append.1 member with member | own
      · exact .inl (sends other request member)
      · exact .inr (congrArg Prod.fst (List.mem_singleton.1 own))
  | answered _ ih =>
    rcases Chronicle.concat_eq_split.1 split with ⟨rfl, rfl, same⟩ | ⟨front, rfl, same⟩
    · cases same
      exact ⟨_, [], rfl, fun _ _ member => by cases member⟩
    · obtain ⟨before, later, rfl, sends⟩ := ih same
      refine ⟨before, later ++ _, List.append_assoc .., fun other request member => ?_⟩
      simpa using sends other request (by simpa using member)
  | removed _ ih =>
    obtain ⟨before, later, rfl, sends⟩ := ih split
    exact ⟨before, later ++ _, List.append_assoc .., fun other request member => by
      simpa using sends other request member⟩
  | unsent _ ih =>
    obtain ⟨before, later, rfl, sends⟩ := ih split
    exact ⟨before, later ++ _, List.append_assoc .., fun other request member => by
      simp [sends other request member]⟩

/-- Whatever the transport does and whenever calls are told to stop: a call sends its own events to the
stream of its writer, and sends them again only right after a failure that told which token to carry.
So a service that stores what succeeds and nothing of what it refuses so, whatever it does otherwise,
holds the events of a call once at most, and once if the call returned. Over the log service a call
makes no further request after a deadline or after an error that is not about the token. -/
theorem resends_safely [Transport τ σ κ] [Commanded τ μ χ κ] (transport : τ) (createStreams : Bool)
    (maxAttempts : Int) (moves : List (Move μ χ)) (id : WriterId) :
    let r : Run τ σ κ μ χ := (Run.new transport createStreams maxAttempts).play moves
    (∀ past call request rest, r.chronicle id = past ++ (call, .sent request) :: rest →
      request.key = (r.session.writer id).key ∧ r.Asks id call request.events ∧
      (call ∈ Chronicle.senders past → ∃ before fault,
        past = before ++ [(call, .settled (.error fault))] ∧ fault.isRecoverable = true)) ∧
    (∀ ledger, Stored (r.chronicle id) ledger → ∀ call events, r.Asks id call events →
      (ledger.blocks call = [] ∨ ledger.blocks call = [events]) ∧
      (∀ answer, .ok answer ∈ r.results call → ledger.blocks call = [events])) ∧
    (∀ {ς ν ψ : Type} [Service ς] [Commanded (CloudWatch ς) ν ψ Call] (c : CloudWatch ς)
      (moves : List (Move ν ψ)),
      let r : Run (CloudWatch ς) Stage Call ν ψ := (Run.new c createStreams maxAttempts).play moves
      ∀ past call fault rest, r.traffic id = past ++ (call, .answered (.error fault)) :: rest →
        isAmbiguous fault = true → ∀ request, (call, .put request) ∉ rest) := by
  intro r
  have sound : Sound r := sound_play (sound_new ..) moves
  have suited : Suited r := suited_play (suited_new ..) (sound_new ..) moves
  have repays : r.Repays id := repays_play (repays_new _ _ _ _) (suited_new ..) (sound_new ..) moves
  obtain ⟨lane, lawful, -⟩ := sound.lawful id
  refine ⟨fun past call request rest split => ?_, fun ledger stored call events asked => ?_, ?_⟩
  · rw [split] at lawful
    exact lawful.sent_after
  · have once : ledger.blocks call = [] ∨ ledger.blocks call = [events] := by
      rcases stored.held lawful call with nothing | ⟨events', asked', once, -⟩
      · exact .inl nothing
      · exact .inr (asked'.unique asked ▸ once)
    refine ⟨once, fun answer returned => once.resolve_left ?_⟩
    obtain ⟨next, accepted⟩ := repays.accepted suited asked returned
    exact stored.blocks_of_accepted accepted
  · intro ς ν ψ _ _ c moves w past call fault rest split ambiguous request member
    have sound : Sound w := sound_play (sound_new ..) moves
    have linked : Linked w id := linked_play (linked_new ..) (sound_new ..) moves
    obtain ⟨lane, lawful, -⟩ := sound.lawful id
    obtain ⟨before, later, same, sends⟩ := linked.wired.of_answered split
    exact (lawful.silent_after same (refuses_ambiguous ambiguous)).1 (sends call request member)

def busy : List (Move CloudWatch.Command Chore) :=
  [.command .connect, .command (.script .putLogEvents [⟨.zero false, .error (.service
      ⟨some (.text "ThrottlingException"), none, none, false, none, ""⟩)⟩]),
    .openWriter default (.outside none) .null 3, .start 0 (.write 0 .single), .resume 0 .ready]

def busyRun : Run (CloudWatch Script) Stage Call CloudWatch.Command Chore :=
  (Run.new (.new "" none (.zero false) .silent) true 3).play busy

theorem resends_safely_retry :
    (∃ past request rest, retryRun.chronicle 0 = past ++ (0, .sent request) :: rest ∧
      0 ∈ Chronicle.senders past ∧ ∃ before fault,
        past = before ++ [(0, .settled (.error fault))] ∧ fault.isRecoverable = true) ∧
    (∃ events ledger, retryRun.Asks 0 0 events ∧ Stored (retryRun.chronicle 0) ledger ∧
      ledger.blocks 0 = [events]) ∧
    (∃ past fault rest, busyRun.traffic 0 = past ++ (0, .answered (.error fault)) :: rest ∧
      isAmbiguous fault = true ∧ ∀ request, (0, .put request) ∉ rest) := by
  obtain ⟨sends, stores, silent⟩ :=
    resends_safely (Memory.new true true (.zero false)) true 3 retry 0
  refine ⟨?_, ?_, ?_⟩
  · have split : retryRun.chronicle 0 = (retryRun.chronicle 0).take 2 ++
        (0, .sent ⟨default, .text "token", _⟩) :: (retryRun.chronicle 0).drop 3 := rfl
    have again : 0 ∈ Chronicle.senders ((retryRun.chronicle 0).take 2) := by decide
    exact ⟨_, _, _, split, again, (sends _ _ _ _ split).2.2 again⟩
  · have asked : retryRun.Asks 0 0 _ := ⟨Batch.single, rfl, by simp [Batch.single], rfl⟩
    -- the first attempt is refused, the others succeed
    have stored : Stored (retryRun.chronicle 0) [(1, _), (0, _)] :=
      ((Stored.nil.failed 0 _ _).accepted 0 _ _).accepted 1 _ _
    exact ⟨_, _, asked, stored, (stores _ stored 0 _ asked).2 .nothing (List.mem_singleton_self _)⟩
  · have split : busyRun.traffic 0 = (busyRun.traffic 0).take 1 ++
        (0, .answered (.error (.service _))) :: (busyRun.traffic 0).drop 2 := rfl
    exact ⟨_, _, _, split, rfl, silent _ busy _ _ _ _ split rfl⟩

end SequenceLog

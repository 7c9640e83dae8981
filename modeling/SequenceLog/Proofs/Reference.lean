import SequenceLog.Proofs.Wire
/-! The tokens of the requests that the log service gets. Which token a request carries, if any, is
decided by the traffic before it alone. Main statement: `sends_reference_token`. -/
namespace SequenceLog
open Scenario CloudWatch
variable {ς μ χ : Type}

namespace CloudWatch

/-- The token that a failed call tells a writer to send instead. An error of the service tells it as
data, even when the data is empty, or else by its message; other exceptions tell it by what they are. A
deadline tells nothing. -/
def reference? : Fault → Option Token
  | .service error =>
    if error.code = some (.text Rejection.mismatchCode) then
      match error.expected with
      | some token => some token
      | none => (Rejection.parse (Rejection.heading ++ " " ++
          ServiceError.memberText "" error.message)).map (·.token)
    else none
  | .plain .deadline _ _ => none
  | fault => fault.expected?.map (·.token)

/-- The field of a request that carries the token. It is absent where there is none. -/
def sequenceToken? (request : Append) : Option Token :=
  match request.token with
  | .null => none
  | token => some token

theorem sequenceToken?_eq {request : Append} {reference : Token}
    (carries : request.token = reference.orNull) :
    sequenceToken? request = if reference.isEmpty then none else some reference := by
  unfold sequenceToken?
  rw [carries, Json.Value.orNull]
  by_cases empty : reference.isEmpty = true
  · simp [empty]
  · cases reference <;> simp_all [Json.Value.isEmpty]

theorem orNull_orNull (token : Token) : token.orNull.orNull = token.orNull := by
  by_cases empty : token.isEmpty = true <;> simp [Json.Value.orNull, empty]

theorem lacksMember_expected? (value : Json.Value) (member : String) :
    (lacksMember value member).expected? = none := rfl

theorem map_orNull (told : Option Expected) :
    told.map (·.token.orNull) = (told.map (·.token)).map (·.orNull) := by
  cases told <;> rfl

/-- How an append reports that its call failed does not change what the failure tells. -/
theorem expected?_putFault (fault : Fault) :
    (putFault fault).expected?.map (·.token.orNull) = (reference? fault).map (·.orNull) := by
  cases fault with
  | service error =>
    simp only [putFault, reference?, ServiceError.appendFault]
    by_cases mismatch : error.code = some (.text Rejection.mismatchCode)
    · rw [if_pos mismatch, if_pos mismatch]
      cases told : error.expected with
      | none =>
        -- the message is the one that the heading and the service's message make up
        exact map_orNull _
      | some token => simp [Fault.expected?, Fault.evidence, orNull_orNull]
    · rw [if_neg mismatch, if_neg mismatch]
      split <;> rfl
  | plain kind message cause =>
    cases kind with
    | deadline => rfl
    | _ => exact map_orNull _
  | _ => exact map_orNull _

end CloudWatch

namespace Wire

def next? : Wire → Option Token
  | .answered (.ok (.mapping members)) =>
    some ((Json.Value.lookup "nextSequenceToken" members).getD .null)
  | _ => none

def isPut : Wire → Bool
  | .put _ => true
  | .answered _ => false

end Wire

namespace Traffic

/-- The calls that made requests, request by request. -/
def putters (traffic : Traffic) : List CallId :=
  (traffic.filter (·.2.isPut)).map (·.1)

/-- The token that the last successful call returned, or the given one. -/
def latest (token : Token) (traffic : Traffic) : Token :=
  ((traffic.filterMap (·.2.next?)).getLast?).getD token

end Traffic

namespace Wired
open Chronicle
variable {h : Chronicle} {w : Traffic}

theorem next?_answered (outcome : Except Fault Response) :
    (Wire.answered outcome).next? = (putOutcome outcome).toOption := by
  cases outcome with
  | error fault => rfl
  | ok response => cases response <;> rfl

theorem adopted_eq (wired : Wired h w) (token : Token) : adopted token h = w.latest token := by
  induction wired with
  | nil => rfl
  | put _ ih => simpa [Traffic.latest, Wire.next?] using ih
  | @answered past before call outcome _ ih =>
    cases settled : putOutcome outcome with
    | ok next => simp [Traffic.latest, next?_answered, settled, Except.toOption]
    | error fault => simpa [Traffic.latest, next?_answered, settled, Except.toOption] using ih
  | removed _ ih => simpa using ih
  | @unsent past before call request _ ih =>
    rw [List.append_cons, adopted_failed, adopted_sent, ih]

theorem senders_of_putters (wired : Wired h w) : ∀ call ∈ w.putters, call ∈ senders h := by
  induction wired with
  | nil => simp [Traffic.putters]
  | put _ ih =>
    intro call member
    simp only [Traffic.putters, List.filter_append, List.map_append, List.mem_append] at member
    rw [mem_senders_sent]
    exact member.imp (ih call) fun own => by simpa [Wire.isPut] using own
  | answered _ ih => simpa [Traffic.putters, Wire.isPut] using ih
  | removed _ ih => simpa using ih
  | unsent _ ih =>
    intro call member
    rw [List.append_cons, senders_append, senders_append]
    simp [ih call member]

/-- A request was made for an append, of which all that came before is known. -/
theorem of_put (wired : Wired h w) {past rest : Traffic} {call : CallId} {request : Append}
    (split : w = past ++ (call, .put request) :: rest) :
    ∃ before sent later, h = before ++ (call, .sent sent) :: later ∧ request = wireRequest sent ∧
      Wired before past := by
  induction wired generalizing rest with
  | nil => simp at split
  | put wired ih =>
    rcases concat_eq_split.1 split with ⟨rfl, rfl, same⟩ | ⟨front, rfl, same⟩
    · cases same
      exact ⟨_, _, [], rfl, rfl, wired⟩
    · obtain ⟨before, sent, later, rfl, same, wired⟩ := ih same
      exact ⟨before, sent, later ++ _, List.append_assoc .., same, wired⟩
  | answered wired ih =>
    rcases concat_eq_split.1 split with ⟨-, -, different⟩ | ⟨front, rfl, same⟩
    · cases different
    · obtain ⟨before, sent, later, rfl, same, wired⟩ := ih same
      exact ⟨before, sent, later ++ _, List.append_assoc .., same, wired⟩
  | removed _ ih =>
    obtain ⟨before, sent, later, rfl, same, wired⟩ := ih split
    exact ⟨before, sent, later ++ _, List.append_assoc .., same, wired⟩
  | unsent _ ih =>
    obtain ⟨before, sent, later, rfl, same, wired⟩ := ih split
    exact ⟨before, sent, later ++ _, List.append_assoc .., same, wired⟩

theorem sent_last {past : Chronicle} {call : CallId} {request : Append}
    (wired : Wired (past ++ [(call, .sent request)]) w) : call ∈ w.putters := by
  generalize whole : past ++ [(call, .sent request)] = h at wired
  cases wired with
  | nil => simp at whole
  | put wired =>
    obtain ⟨-, same⟩ := List.append_singleton_inj.1 whole
    cases same
    simp [Traffic.putters, Wire.isPut]
  | answered | removed =>
    obtain ⟨-, same⟩ := List.append_singleton_inj.1 whole
    cases same
  | unsent =>
    obtain ⟨-, same⟩ := List.append_singleton_inj.1 (whole.trans (List.append_cons ..))
    cases same

theorem settled_last {past : Chronicle} {call : CallId} {fault : Fault} {expected : Expected}
    (wired : Wired (past ++ [(call, .settled (.error fault))]) w)
    (told : fault.expected? = some expected) :
    ∃ before reason, w = before ++ [(call, .answered (.error reason))] ∧ putFault reason = fault ∧
      Wired past before := by
  generalize whole : past ++ [(call, .settled (.error fault))] = h at wired
  cases wired with
  | nil => simp at whole
  | @answered past before call outcome wired =>
    obtain ⟨rfl, same⟩ := List.append_singleton_inj.1 whole
    simp only [Prod.mk.injEq, Deed.settled.injEq] at same
    obtain ⟨rfl, same⟩ := same
    cases outcome with
    | error reason =>
      cases same
      exact ⟨before, reason, rfl, rfl, wired⟩
    | ok response =>
      -- a response that is no object is no rejection
      cases response <;> cases same <;> cases (lacksMember_expected? _ _).symm.trans told
  | put | removed =>
    obtain ⟨-, same⟩ := List.append_singleton_inj.1 whole
    cases same
  | unsent =>
    obtain ⟨-, same⟩ := List.append_singleton_inj.1 (whole.trans (List.append_cons ..))
    cases same
    cases told

end Wired

/-- The reference token of a request, by the traffic before it. -/
theorem Lawful.put_reference {key : Key} {token : Token} {asks : CallId → List LogEvent → Prop}
    {h : Chronicle} {lane : Lane} {w : Traffic} (lawful : Lawful key token asks h lane)
    (wired : Wired h w) {past rest : Traffic} {call : CallId} {request : Append}
    (split : w = past ++ (call, .put request) :: rest) :
    ∃ reference, sequenceToken? request = (if reference.isEmpty then none else some reference) ∧
      (call ∉ past.putters → reference = past.latest token) ∧
      (call ∈ past.putters → ∃ before fault,
        past = before ++ [(call, .answered (.error fault))] ∧ reference? fault = some reference) := by
  obtain ⟨before, sent, later, rfl, rfl, wired⟩ := wired.of_put split
  obtain ⟨first, again⟩ := lawful.sent_token rfl
  by_cases member : call ∈ Chronicle.senders before
  · obtain ⟨earlier, fault, expected, rfl, told, carried⟩ := again member
    obtain ⟨front, reason, rfl, mapped, wired⟩ := wired.settled_last told
    have tells := expected?_putFault reason
    rw [mapped, told] at tells
    obtain ⟨reference, refers, same⟩ := Option.map_eq_some_iff.1 tells.symm
    refine ⟨reference, sequenceToken?_eq ?_, fun absent => absurd ?_ absent,
      fun _ => ⟨front, reason, rfl, refers⟩⟩
    · exact (congrArg Json.Value.orNull carried).trans same.symm
    · -- the append that failed had made a request
      obtain ⟨_, prefix'⟩ := lawful.of_append
      obtain ⟨middle, request', lawful', flying, -⟩ := prefix'.settled_last
      obtain ⟨_, rfl⟩ := lawful'.flying_iff.1 flying
      simpa [Traffic.putters, Wire.isPut] using wired.sent_last
  · refine ⟨past.latest token, sequenceToken?_eq ?_, fun _ => rfl,
      fun put => absurd (wired.senders_of_putters call put) member⟩
    exact congrArg Json.Value.orNull ((first member).trans (wired.adopted_eq token))

/-- Whatever the service answers and whenever calls are told to stop: a request carries a sequence token
exactly if its reference token is not empty, and then that one. The reference token of the first
request of a batch is the one that the writer's last successful call returned, or the one that the
writer was opened with. That of a further request is told by the exception right before it: by an error
of the service as data, if the data is there, or else by the error's message, and by any other
exception as the writer reads it. -/
theorem sends_reference_token [Service ς] [Commanded (CloudWatch ς) μ χ Call] (c : CloudWatch ς)
    (createStreams : Bool) (maxAttempts : Int) (moves : List (Move μ χ)) (id : WriterId) :
    let r : Run (CloudWatch ς) Stage Call μ χ := (Run.new c createStreams maxAttempts).play moves
    ∀ (past : Traffic) call request rest, r.traffic id = past ++ (call, .put request) :: rest →
      ∃ reference, sequenceToken? request = (if reference.isEmpty then none else some reference) ∧
        (call ∉ past.putters → reference = past.latest (r.firstToken id)) ∧
        (call ∈ past.putters → ∃ before fault,
          past = before ++ [(call, .answered (.error fault))] ∧
          reference? fault = some reference) := by
  intro r past call request rest split
  have sound : Sound r := sound_play (sound_new ..) moves
  have linked : Linked r id := linked_play (linked_new ..) (sound_new ..) moves
  obtain ⟨lane, lawful, -⟩ := sound.lawful id
  exact lawful.put_reference linked.wired split

/-- A writer whose first request is refused, with the token that the service expects as data. -/
def correction : List (Move CloudWatch.Command Chore) :=
  [.command .connect, .command (.script .putLogEvents [⟨.zero false, .error (.service
      ⟨some (.text Rejection.mismatchCode), none, some (.text "token"), false, none, ""⟩)⟩]),
    .openWriter default (.outside none) (.text "") 3, .start 0 (.write 0 .single),
    .resume 0 .ready, .resume 0 .ready]

def correctionRun : Run (CloudWatch Script) Stage Call CloudWatch.Command Chore :=
  (Run.new (.new "" none (.zero false) .silent) true 3).play correction

theorem sends_reference_token_correction :
    ∃ (past : Traffic) (request : Append) (rest : Traffic),
      correctionRun.traffic 0 = past ++ (0, .put request) :: rest ∧ 0 ∈ past.putters ∧
        sequenceToken? request = some (.text "token") ∧
        ∃ before fault, past = before ++ [(0, .answered (.error fault))] ∧
          reference? fault = some (.text "token") := by
  have split : correctionRun.traffic 0 = (correctionRun.traffic 0).take 2 ++
      (0, .put ⟨default, .text "token", _⟩) :: (correctionRun.traffic 0).drop 3 := rfl
  have member : 0 ∈ Traffic.putters ((correctionRun.traffic 0).take 2) := by decide
  obtain ⟨reference, field, -, again⟩ :=
    sends_reference_token (.new "" none (.zero false) Script.silent) true 3 correction 0 _ _ _ _ split
  have carried : some (.text "token") = if reference.isEmpty then none else some reference := field
  have told : reference = .text "token" := by
    split at carried
    · cases carried
    · exact (Option.some.inj carried).symm
  exact ⟨_, _, _, split, member, rfl, told ▸ again member⟩

end SequenceLog

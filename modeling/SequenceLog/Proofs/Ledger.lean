import SequenceLog.Proofs.Chronicle
/-! What a service may hold after the appends of a writer. An append that succeeded was stored and one
that was refused for its token was not; about any other the writer cannot tell. Main statements: a
batch is stored once at most, whatever the service did, and once if an append of it succeeded. -/
namespace SequenceLog

/-- A failure that tells which token the next attempt is to carry. -/
def Fault.isRecoverable (fault : Fault) : Bool := fault.isFailure && fault.expected?.isSome

/-- An append is refused when it is certain that nothing of it was stored. -/
def refuses : Except Fault Token → Bool
  | .ok _ => false
  | .error fault => fault.isRecoverable

/-- What a service holds, block by block, with the calls that the blocks are from. -/
abbrev Ledger := List (CallId × List LogEvent)

namespace Ledger

def blocks (ledger : Ledger) (call : CallId) : List (List LogEvent) :=
  (ledger.filter (·.1 = call)).map (·.2)

variable {ledger ledger' : Ledger} {call other : CallId} {events : List LogEvent}

@[simp] theorem blocks_nil : blocks [] call = [] := rfl

theorem blocks_perm (same : ledger.Perm ledger') (call : CallId) :
    (ledger.blocks call).Perm (ledger'.blocks call) :=
  (same.filter _).map _

theorem blocks_cons_self : blocks ((call, events) :: ledger) call = events :: ledger.blocks call := by
  simp [blocks]

theorem blocks_cons_other (different : other ≠ call) :
    blocks ((other, events) :: ledger) call = ledger.blocks call := by
  simp [blocks, different]

end Ledger

/-- An append with its outcome, which is missing while the append is under way. -/
def attempt (call : CallId) (request : Append) : Option (Except Fault Token) → Chronicle
  | none => [(call, .sent request)]
  | some result => [(call, .sent request), (call, .settled result)]

/-- The service may hold this ledger after the chronicle. Where it puts a block does not matter. -/
inductive Stored : Chronicle → Ledger → Prop
  | nil : Stored [] []
  | removed {past ledger call key} : Stored past ledger →
      Stored (past ++ [(call, .removed key)]) ledger
  | lost {past ledger call request outcome} : Stored past ledger →
      (∀ next, outcome ≠ some (.ok next)) → Stored (past ++ attempt call request outcome) ledger
  | kept {past ledger ledger' call request outcome} : Stored past ledger →
      (∀ result, outcome = some result → refuses result = false) →
      ledger'.Perm ((call, request.events) :: ledger) →
      Stored (past ++ attempt call request outcome) ledger'

/-- The next append may be one of the call: nobody is served and the call is a later one, or it was
told which token to carry. -/
def Lane.Admits (lane : Lane) (call : CallId) : Prop :=
  (lane.phase = .idle ∧ lane.horizon ≤ call) ∨
    ∃ request fault, lane.phase = .refused call request fault ∧ fault.isRecoverable = true

theorem Stored.accepted {past : Chronicle} {ledger : Ledger} (stored : Stored past ledger)
    (call : CallId) (request : Append) (next : Token) :
    Stored (past ++ attempt call request (some (.ok next))) ((call, request.events) :: ledger) :=
  stored.kept (fun _ same => by cases same; rfl) (.refl _)

theorem Stored.failed {past : Chronicle} {ledger : Ledger} (stored : Stored past ledger)
    (call : CallId) (request : Append) (fault : Fault) :
    Stored (past ++ attempt call request (some (.error fault))) ledger :=
  stored.lost fun _ same => by cases same

namespace Lawful
open Chronicle
variable {key : Key} {token : Token} {asks : CallId → List LogEvent → Prop} {h : Chronicle}
  {lane : Lane}

theorem of_concat {past : Chronicle} {entry : CallId × Deed}
    (lawful : Lawful key token asks (past ++ [entry]) lane) :
    ∃ before, Lawful key token asks past before := by
  generalize whole : past ++ [entry] = h at lawful
  cases lawful with
  | nil => simp at whole
  | first lawful | accepted lawful | stopped lawful | refused lawful | again lawful | retired lawful =>
    obtain ⟨rfl, -⟩ := List.append_singleton_inj.1 whole
    exact ⟨_, lawful⟩

theorem of_append {past rest : Chronicle} (lawful : Lawful key token asks (past ++ rest) lane) :
    ∃ before, Lawful key token asks past before := by
  induction rest generalizing past with
  | nil => exact ⟨lane, by simpa using lawful⟩
  | cons entry rest ih =>
    rw [List.append_cons] at lawful
    obtain ⟨_, grown⟩ := ih lawful
    exact grown.of_concat

theorem failed_of_refused {call : CallId} {request : Append} {fault : Fault}
    (lawful : Lawful key token asks h lane) (phase : lane.phase = .refused call request fault) :
    fault.isFailure = true := by
  cases lawful with
  | refused _ failed => cases phase; exact failed
  | _ => cases phase

theorem asked_of_busy {call : CallId} {request : Append} (lawful : Lawful key token asks h lane)
    (busy : lane.phase = .flying call request ∨ ∃ fault, lane.phase = .refused call request fault) :
    request.key = key ∧ asks call request.events := by
  induction lawful generalizing request with
  | first _ _ asked =>
    rcases busy with phase | ⟨fault, phase⟩ <;> cases phase
    exact ⟨rfl, asked⟩
  | refused _ _ ih =>
    rcases busy with phase | ⟨fault, phase⟩ <;> cases phase
    exact ih (.inl rfl)
  | again _ _ ih =>
    rcases busy with phase | ⟨fault, phase⟩ <;> cases phase
    obtain ⟨sameKey, asked⟩ := ih (.inr ⟨_, rfl⟩)
    exact ⟨sameKey, asked⟩
  | nil | accepted | stopped | retired => rcases busy with phase | ⟨fault, phase⟩ <;> cases phase

theorem sent_last {past : Chronicle} {call : CallId} {request : Append}
    (lawful : Lawful key token asks (past ++ [(call, .sent request)]) lane) :
    lane.phase = .flying call request ∧ ∃ before, Lawful key token asks past before ∧
      before.horizon ≤ lane.horizon ∧ call < lane.horizon ∧ before.Admits call := by
  generalize whole : past ++ [(call, .sent request)] = h at lawful
  cases lawful with
  | nil => simp at whole
  | first lawful late _ =>
    obtain ⟨rfl, same⟩ := List.append_singleton_inj.1 whole
    cases same
    exact ⟨rfl, _, lawful, Nat.le_succ_of_le late, Nat.lt_succ_self _, .inl ⟨rfl, late⟩⟩
  | again lawful told =>
    obtain ⟨rfl, same⟩ := List.append_singleton_inj.1 whole
    cases same
    refine ⟨rfl, _, lawful, Nat.le_refl _, ?_, .inr ⟨_, _, rfl, ?_⟩⟩
    · exact Nat.lt_of_succ_le (Nat.le_of_eq (lawful.served rfl).1.symm)
    · simp [Fault.isRecoverable, lawful.failed_of_refused rfl, told]
  | accepted | stopped | refused | retired =>
    obtain ⟨-, same⟩ := List.append_singleton_inj.1 whole
    cases same

theorem settled_last {past : Chronicle} {call : CallId} {result : Except Fault Token}
    (lawful : Lawful key token asks (past ++ [(call, .settled result)]) lane) :
    ∃ before request, Lawful key token asks past before ∧ before.phase = .flying call request ∧
      before.horizon = lane.horizon ∧
      (lane.phase = .idle ∨ ∃ fault, result = .error fault ∧
        lane.phase = .refused call request fault) := by
  generalize whole : past ++ [(call, .settled result)] = h at lawful
  cases lawful with
  | nil => simp at whole
  | accepted lawful | stopped lawful =>
    obtain ⟨rfl, same⟩ := List.append_singleton_inj.1 whole
    cases same
    exact ⟨_, _, lawful, rfl, rfl, .inl rfl⟩
  | refused lawful =>
    obtain ⟨rfl, same⟩ := List.append_singleton_inj.1 whole
    cases same
    exact ⟨_, _, lawful, rfl, rfl, .inr ⟨_, rfl, rfl⟩⟩
  | first | again | retired =>
    obtain ⟨-, same⟩ := List.append_singleton_inj.1 whole
    cases same

theorem removed_last {past : Chronicle} {call : CallId} {other : Key}
    (lawful : Lawful key token asks (past ++ [(call, .removed other)]) lane) :
    lane.phase = .idle ∧
      ∃ before, Lawful key token asks past before ∧ before.horizon = lane.horizon := by
  generalize whole : past ++ [(call, .removed other)] = h at lawful
  cases lawful with
  | nil => simp at whole
  | retired lawful =>
    obtain ⟨rfl, -⟩ := List.append_singleton_inj.1 whole
    exact ⟨rfl, _, lawful, rfl⟩
  | first | accepted | stopped | refused | again =>
    obtain ⟨-, same⟩ := List.append_singleton_inj.1 whole
    cases same

/-- An append was admitted for a call that asked for it. It is refused only with its own outcome. -/
theorem attempted {past : Chronicle} {call : CallId} {request : Append}
    {outcome : Option (Except Fault Token)}
    (lawful : Lawful key token asks (past ++ attempt call request outcome) lane) :
    asks call request.events ∧ call < lane.horizon ∧
      (∀ other earlier fault, lane.phase = .refused other earlier fault →
        other = call ∧ outcome = some (.error fault)) ∧
      ∃ before, Lawful key token asks past before ∧ before.horizon ≤ lane.horizon ∧
        before.Admits call := by
  cases outcome with
  | none =>
    obtain ⟨phase, before, lawful', later, bound, admits⟩ := lawful.sent_last
    refine ⟨(lawful.asked_of_busy (.inl phase)).2, bound, fun other earlier fault refused => ?_,
      before, lawful', later, admits⟩
    cases phase.symm.trans refused
  | some result =>
    rw [attempt, List.append_cons] at lawful
    obtain ⟨middle, request', lawful', flying, same, ended⟩ := lawful.settled_last
    obtain ⟨phase, before, lawful'', later, bound, admits⟩ := lawful'.sent_last
    refine ⟨(lawful'.asked_of_busy (.inl phase)).2, same ▸ bound, fun other earlier fault refused => ?_,
      before, lawful'', same ▸ later, admits⟩
    rcases ended with idle | ⟨reason, rfl, last⟩
    · cases idle.symm.trans refused
    · cases last.symm.trans refused
      cases flying.symm.trans phase
      exact ⟨rfl, rfl⟩

/-- A call sends its own events alone, and another time only right after a failure that told which
token to carry. -/
theorem sent_after {past rest : Chronicle} {call : CallId} {request : Append}
    (lawful : Lawful key token asks (past ++ (call, .sent request) :: rest) lane) :
    request.key = key ∧ asks call request.events ∧ (call ∈ senders past → ∃ before fault,
      past = before ++ [(call, .settled (.error fault))] ∧ fault.isRecoverable = true) := by
  rw [List.append_cons] at lawful
  obtain ⟨_, sent⟩ := lawful.of_append
  obtain ⟨flying, before, lawful', -, -, admits⟩ := sent.sent_last
  obtain ⟨sameKey, asked⟩ := sent.asked_of_busy (.inl flying)
  refine ⟨sameKey, asked, fun member => ?_⟩
  rcases admits with ⟨-, late⟩ | ⟨earlier, fault, refused, recoverable⟩
  · exact absurd (lawful'.senders_before call member) (Nat.not_lt.2 late)
  · obtain ⟨front, last⟩ := lawful'.last_refused refused
    exact ⟨front, fault, last, recoverable⟩

/-- A call whose append did not come to a refusal sends no other one. -/
theorem silent_after {past rest : Chronicle} {call : CallId} {result : Except Fault Token}
    (lawful : Lawful key token asks h lane) (split : h = past ++ (call, .settled result) :: rest)
    (final : refuses result = false) :
    call ∉ senders rest ∧ call < lane.horizon ∧ (lane.phase.call? = some call →
      ∃ request fault, lane.phase = .refused call request fault ∧ fault.isRecoverable = false) := by
  induction lawful generalizing rest with
  | nil => simp at split
  | first lawful late _ ih =>
    rcases concat_eq_split.1 split with ⟨-, -, different⟩ | ⟨front, rfl, same⟩
    · cases different
    · obtain ⟨absent, bound, -⟩ := ih same
      have later := Nat.lt_of_lt_of_le bound late
      refine ⟨?_, Nat.lt_succ_of_lt later, fun own => ?_⟩
      · simpa [absent] using Nat.ne_of_lt later
      · cases own
        exact absurd later (Nat.lt_irrefl _)
  | accepted lawful ih | stopped lawful _ ih =>
    rcases concat_eq_split.1 split with ⟨rfl, -, same⟩ | ⟨front, rfl, same⟩
    · cases same
      have last := (lawful.served rfl).1
      exact ⟨List.not_mem_nil, last ▸ Nat.lt_succ_self _, fun own => by cases own⟩
    · obtain ⟨absent, bound, -⟩ := ih same
      exact ⟨by simpa using absent, bound, fun own => by cases own⟩
  | refused lawful _ ih =>
    rcases concat_eq_split.1 split with ⟨rfl, -, same⟩ | ⟨front, rfl, same⟩
    · cases same
      have last := (lawful.served rfl).1
      exact ⟨List.not_mem_nil, last ▸ Nat.lt_succ_self _, fun _ => ⟨_, _, rfl, final⟩⟩
    · obtain ⟨absent, bound, resting⟩ := ih same
      refine ⟨by simpa using absent, bound, fun own => ?_⟩
      obtain ⟨_, _, phase, -⟩ := resting own
      cases phase
  | @again past t status n sender request fault expected lawful told ih =>
    rcases concat_eq_split.1 split with ⟨-, -, different⟩ | ⟨front, rfl, same⟩
    · cases different
    · obtain ⟨absent, bound, resting⟩ := ih same
      have other : sender ≠ call := by
        rintro rfl
        obtain ⟨_, _, phase, lost⟩ := resting rfl
        cases phase
        simp [Fault.isRecoverable, lawful.failed_of_refused rfl, told] at lost
      exact ⟨by simp [absent, other.symm], bound, fun own => absurd (Option.some.inj own) other⟩
  | retired lawful ih =>
    rcases concat_eq_split.1 split with ⟨-, -, different⟩ | ⟨front, rfl, same⟩
    · cases different
    · obtain ⟨absent, bound, -⟩ := ih same
      exact ⟨by simpa using absent, bound, fun own => by cases own⟩

end Lawful

/-- The ledger has nothing from the call, or its events once; then no further append of the call is
admitted. -/
def Held (asks : CallId → List LogEvent → Prop) (lane : Lane) (ledger : Ledger) (call : CallId) :
    Prop :=
  ledger.blocks call = [] ∨ ∃ events, asks call events ∧ ledger.blocks call = [events] ∧
    call < lane.horizon ∧
    ∀ request fault, lane.phase = .refused call request fault → fault.isRecoverable = false

section Held
variable {key : Key} {token : Token} {asks : CallId → List LogEvent → Prop} {h : Chronicle}
  {lane before : Lane} {ledger ledger' : Ledger} {call : CallId}

theorem Held.blocks_of_admits (held : Held asks before ledger call) (admits : before.Admits call) :
    ledger.blocks call = [] := by
  rcases held with nothing | ⟨_, _, _, bound, final⟩
  · exact nothing
  · rcases admits with ⟨-, late⟩ | ⟨request, fault, refused, recoverable⟩
    · exact absurd bound (Nat.not_lt.2 late)
    · cases (final request fault refused).symm.trans recoverable

theorem Held.later (held : Held asks before ledger call)
    (same : (ledger'.blocks call).Perm (ledger.blocks call)) (later : before.horizon ≤ lane.horizon)
    (other : ∀ request fault, lane.phase ≠ .refused call request fault) :
    Held asks lane ledger' call := by
  rcases held with nothing | ⟨events, asked, once, bound, -⟩
  · exact .inl (List.perm_nil.1 (nothing ▸ same))
  · exact .inr ⟨events, asked, List.perm_singleton.1 (once ▸ same), Nat.lt_of_lt_of_le bound later,
      fun request fault refused => absurd refused (other request fault)⟩

/-- Whatever the service did with those appends about which the writer cannot tell, it holds every
batch once at most. -/
theorem Stored.held (stored : Stored h ledger) (lawful : Lawful key token asks h lane)
    (call : CallId) : Held asks lane ledger call := by
  induction stored generalizing lane with
  | nil => exact .inl rfl
  | removed _ ih =>
    obtain ⟨idle, before, lawful', same⟩ := lawful.removed_last
    refine (ih lawful').later (.refl _) (Nat.le_of_eq same) fun request fault refused => ?_
    cases idle.symm.trans refused
  | @lost past ledger sender request outcome _ _ ih =>
    obtain ⟨_, _, refused, before, lawful', later, admits⟩ := lawful.attempted
    by_cases own : call = sender
    · subst own
      exact .inl ((ih lawful').blocks_of_admits admits)
    · exact (ih lawful').later (.refl _) later fun request fault last => own (refused _ _ _ last).1
  | @kept past ledger ledger' sender request outcome _ certain added ih =>
    obtain ⟨asked, bound, refused, before, lawful', later, admits⟩ := lawful.attempted
    have grown := Ledger.blocks_perm added call
    by_cases own : call = sender
    · subst own
      rw [Ledger.blocks_cons_self, (ih lawful').blocks_of_admits admits] at grown
      refine .inr ⟨_, asked, List.perm_singleton.1 grown, bound, fun request fault last => ?_⟩
      exact certain _ (refused _ _ _ last).2
    · rw [Ledger.blocks_cons_other (Ne.symm own)] at grown
      exact (ih lawful').later grown later fun request fault last => own (refused _ _ _ last).1

theorem Stored.blocks_of_accepted {next : Token} (stored : Stored h ledger)
    (accepted : (call, .settled (.ok next)) ∈ h) : ledger.blocks call ≠ [] := by
  induction stored with
  | nil => cases accepted
  | removed _ ih => exact ih (by simpa using accepted)
  | @lost past ledger sender request outcome _ failed ih =>
    refine ih ((List.mem_append.1 accepted).resolve_right fun member => ?_)
    cases outcome with
    | none => simp [attempt] at member
    | some result =>
      simp only [attempt, List.mem_cons, Prod.mk.injEq, reduceCtorEq, and_false, Deed.settled.injEq,
        List.not_mem_nil, or_false, false_or] at member
      exact failed next (congrArg some member.2.symm)
  | @kept past ledger ledger' sender request outcome _ _ added ih =>
    have grown := Ledger.blocks_perm added call
    intro nothing
    rw [nothing] at grown
    by_cases own : sender = call
    · subst own
      rw [Ledger.blocks_cons_self] at grown
      cases List.nil_perm.1 grown
    · rw [Ledger.blocks_cons_other own] at grown
      refine ih ((List.mem_append.1 accepted).resolve_right fun member => own ?_)
        (List.nil_perm.1 grown)
      cases outcome <;> simp_all [attempt]

end Held
end SequenceLog

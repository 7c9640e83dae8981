import SequenceLog.Proofs.Run
/-! The chronicle of a writer: the appends it sent, how they came to an end, and its removal. A
lawful chronicle is one that a writer can have which admits one batch at a time. Main statements:
in a lawful chronicle an append comes to its end before the next one is sent, calls follow each
other in the order of their numbers, and every token is determined by what came before. -/
namespace SequenceLog

abbrev Chronicle := List (CallId × Deed)

/-- What a writer is doing. A refused append is either sent again or the last of its writer. -/
inductive Phase where
  | idle
  | flying (call : CallId) (request : Append)
  | refused (call : CallId) (request : Append) (fault : Fault)

def Phase.call? : Phase → Option CallId
  | .idle => none
  | .flying call _ | .refused call _ _ => some call

structure Lane where
  /-- The token that the next batch starts with. -/
  token : Token
  status : Status
  /-- Calls before it have no more part in the chronicle, unless one is under way. -/
  horizon : CallId
  phase : Phase

/-- The chronicles of a writer for `key` that was opened with `token`. `asks` tells which events
a call wants appended. -/
inductive Lawful (key : Key) (token : Token) (asks : CallId → List LogEvent → Prop) :
    Chronicle → Lane → Prop
  | nil : Lawful key token asks [] ⟨token, .active, 0, .idle⟩
  /-- The first append of a batch carries the token of the writer. -/
  | first {past t n call events} : Lawful key token asks past ⟨t, .active, n, .idle⟩ → n ≤ call →
      asks call events → Lawful key token asks (past ++ [(call, .sent ⟨key, t, events⟩)])
        ⟨t, .active, call + 1, .flying call ⟨key, t, events⟩⟩
  | accepted {past t status n call request next} :
      Lawful key token asks past ⟨t, status, n, .flying call request⟩ →
      Lawful key token asks (past ++ [(call, .settled (.ok next))]) ⟨next, status, n, .idle⟩
  | stopped {past t status n call request fault} :
      Lawful key token asks past ⟨t, status, n, .flying call request⟩ → fault.isFailure = false →
      Lawful key token asks (past ++ [(call, .settled (.error fault))]) ⟨t, status, n, .idle⟩
  | refused {past t status n call request fault} :
      Lawful key token asks past ⟨t, status, n, .flying call request⟩ → fault.isFailure = true →
      Lawful key token asks (past ++ [(call, .settled (.error fault))])
        ⟨t, status, n, .refused call request fault⟩
  /-- A further append of the batch carries the token that the refusal told. -/
  | again {past t status n call request fault expected} :
      Lawful key token asks past ⟨t, status, n, .refused call request fault⟩ →
      fault.expected? = some expected →
      Lawful key token asks (past ++ [(call, .sent { request with token := expected.token })])
        ⟨t, status, n, .flying call { request with token := expected.token }⟩
  | retired {past t status n call request fault} :
      Lawful key token asks past ⟨t, status, n, .refused call request fault⟩ →
      Lawful key token asks (past ++ [(call, .removed key)]) ⟨t, .invalidated, n, .idle⟩

namespace Chronicle

/-- The calls whose appends were sent, append by append. -/
def senders (h : Chronicle) : List CallId :=
  h.filterMap fun entry => match entry.2 with
    | .sent _ => some entry.1
    | _ => none

/-- The token that the last successful append returned, or the given one. -/
def adopted (token : Token) (h : Chronicle) : Token :=
  ((h.filterMap fun entry => match entry.2 with
    | .settled (.ok next) => some next
    | _ => none).getLast?).getD token

variable {h past rest : Chronicle} {call other : CallId} {request : Append}

@[simp] theorem senders_nil : senders [] = [] := rfl

@[simp] theorem senders_append (a b : Chronicle) : senders (a ++ b) = senders a ++ senders b :=
  List.filterMap_append

@[simp] theorem senders_sent : senders [(call, .sent request)] = [call] := rfl

theorem mem_senders_sent :
    other ∈ senders (h ++ [(call, .sent request)]) ↔ other ∈ senders h ∨ other = call := by
  simp

@[simp] theorem senders_settled {result : Except Fault Token} :
    senders [(call, .settled result)] = [] := rfl

@[simp] theorem senders_removed {key : Key} : senders [(call, .removed key)] = [] := rfl

@[simp] theorem adopted_nil (token : Token) : adopted token [] = token := rfl

@[simp] theorem adopted_sent (token : Token) :
    adopted token (h ++ [(call, .sent request)]) = adopted token h := by
  simp [adopted]

@[simp] theorem adopted_accepted (token next : Token) :
    adopted token (h ++ [(call, .settled (.ok next))]) = next := by
  simp [adopted]

@[simp] theorem adopted_failed (token : Token) (fault : Fault) :
    adopted token (h ++ [(call, .settled (.error fault))]) = adopted token h := by
  simp [adopted]

@[simp] theorem adopted_removed (token : Token) (key : Key) :
    adopted token (h ++ [(call, .removed key)]) = adopted token h := by
  simp [adopted]

theorem concat_eq_split {α : Type} {l past rest : List α} {x y : α} :
    l ++ [x] = past ++ y :: rest ↔
      (rest = [] ∧ l = past ∧ x = y) ∨ ∃ front, rest = front ++ [x] ∧ l = past ++ y :: front := by
  rcases List.eq_nil_or_concat rest with rfl | ⟨front, last, rfl⟩
  · simp
  · have regrouped : past ++ y :: (front ++ [last]) = (past ++ y :: front) ++ [last] := by simp
    rw [List.concat_eq_append, regrouped, List.append_singleton_inj]
    constructor
    · rintro ⟨rfl, rfl⟩
      exact .inr ⟨front, rfl, rfl⟩
    · rintro (⟨empty, -, -⟩ | ⟨front', same, rfl⟩)
      · simp at empty
      · obtain ⟨rfl, rfl⟩ := List.append_singleton_inj.1 same
        exact ⟨rfl, rfl⟩

end Chronicle

namespace Lawful
open Chronicle
variable {key : Key} {token : Token} {asks : CallId → List LogEvent → Prop} {h : Chronicle}
  {lane : Lane}

theorem flying_iff {call : CallId} {request : Append} (lawful : Lawful key token asks h lane) :
    lane.phase = .flying call request ↔ ∃ past, h = past ++ [(call, .sent request)] := by
  constructor
  · intro phase
    cases lawful <;> cases phase <;> exact ⟨_, rfl⟩
  · rintro ⟨past, last⟩
    cases lawful <;> simp_all

theorem last_refused {call : CallId} {request : Append} {fault : Fault}
    (lawful : Lawful key token asks h lane) (phase : lane.phase = .refused call request fault) :
    ∃ past, h = past ++ [(call, .settled (.error fault))] := by
  cases lawful <;> simp_all

theorem active_of_busy (lawful : Lawful key token asks h lane) (busy : lane.phase ≠ .idle) :
    lane.status = .active := by
  induction lawful with
  | nil | first => rfl
  | accepted | stopped | retired => exact absurd rfl busy
  | refused _ _ ih | again _ _ ih => exact ih (by simp)

theorem adopted_eq (lawful : Lawful key token asks h lane) : lane.token = adopted token h := by
  induction lawful with
  | nil => rfl
  | first _ _ _ ih => simpa using ih
  | accepted => simp
  | stopped _ _ ih | refused _ _ ih | retired _ ih => simpa using ih
  | again _ _ ih => simpa using ih

/-- The call that is served has sent something, and is the last one before the horizon. -/
theorem served {call : CallId} (lawful : Lawful key token asks h lane)
    (busy : lane.phase.call? = some call) : lane.horizon = call + 1 ∧ call ∈ senders h := by
  induction lawful with
  | nil | accepted | stopped | retired => cases busy
  | first => cases busy; simp
  | refused _ _ ih => simpa using ih busy
  | again _ _ ih =>
    obtain ⟨last, member⟩ := ih busy
    exact ⟨last, by simp [member]⟩

theorem senders_before (lawful : Lawful key token asks h lane) :
    ∀ call ∈ senders h, call < lane.horizon := by
  induction lawful with
  | nil => simp
  | first _ late _ ih =>
    intro call member
    rcases mem_senders_sent.1 member with member | rfl
    · exact Nat.lt_succ_of_lt (Nat.lt_of_lt_of_le (ih call member) late)
    · exact Nat.lt_succ_self _
  | accepted _ ih | stopped _ _ ih | refused _ _ ih | retired _ ih => simpa using ih
  | again lawful _ ih =>
    intro call member
    rcases mem_senders_sent.1 member with member | rfl
    · exact ih call member
    · exact Nat.lt_of_succ_le (Nat.le_of_eq (lawful.served rfl).1.symm)

theorem horizon_le {bound : CallId} (lawful : Lawful key token asks h lane)
    (bounded : ∀ call events, asks call events → call < bound) : lane.horizon ≤ bound := by
  induction lawful with
  | nil => exact Nat.zero_le _
  | first _ _ asked => exact bounded _ _ asked
  | accepted _ ih | stopped _ _ ih | refused _ _ ih | again _ _ ih | retired _ ih => exact ih

/-- Calls send their appends in the order of their numbers. -/
theorem senders_sorted (lawful : Lawful key token asks h lane) :
    (senders h).Pairwise (· ≤ ·) := by
  induction lawful with
  | nil => exact .nil
  | first lawful late _ ih =>
    have before := lawful.senders_before
    simp only [senders_append, senders_sent, List.pairwise_append, List.pairwise_singleton,
      List.mem_singleton, forall_eq, true_and]
    exact ⟨ih, fun call member => Nat.le_of_lt (Nat.lt_of_lt_of_le (before call member) late)⟩
  | accepted _ ih | stopped _ _ ih | refused _ _ ih | retired _ ih => simpa using ih
  | again lawful _ ih =>
    have before := lawful.senders_before
    have last := (lawful.served rfl).1
    simp only [senders_append, senders_sent, List.pairwise_append, List.pairwise_singleton,
      List.mem_singleton, forall_eq, true_and]
    exact ⟨ih, fun call member =>
      Nat.le_of_lt_succ (Nat.lt_of_lt_of_le (before call member) (Nat.le_of_eq last))⟩

theorem senders_ask (lawful : Lawful key token asks h lane) :
    ∀ call ∈ senders h, ∃ events, asks call events := by
  induction lawful with
  | nil => simp
  | first _ _ asked ih =>
    intro call member
    rcases mem_senders_sent.1 member with member | rfl
    · exact ih call member
    · exact ⟨_, asked⟩
  | accepted _ ih | stopped _ _ ih | refused _ _ ih | retired _ ih => simpa using ih
  | again lawful _ ih =>
    intro call member
    rcases mem_senders_sent.1 member with member | rfl
    · exact ih call member
    · exact ih _ (lawful.served rfl).2

theorem mono {asks' : CallId → List LogEvent → Prop} (lawful : Lawful key token asks h lane)
    (more : ∀ call events, asks call events → asks' call events) :
    Lawful key token asks' h lane := by
  induction lawful with
  | nil => exact .nil
  | first _ late asked ih => exact .first ih late (more _ _ asked)
  | accepted _ ih => exact .accepted ih
  | stopped _ passed ih => exact .stopped ih passed
  | refused _ failed ih => exact .refused ih failed
  | again _ told ih => exact .again ih told
  | retired _ ih => exact .retired ih

/-- What follows an append that was sent is its own end. -/
theorem sent_then_settled (lawful : Lawful key token asks h lane) {past rest : Chronicle}
    {call : CallId} {request : Append} (split : h = past ++ (call, .sent request) :: rest) :
    rest = [] ∨ ∃ result later, rest = (call, .settled result) :: later := by
  induction lawful generalizing rest with
  | nil => simp at split
  | first lawful _ _ ih | again lawful _ ih =>
    rcases concat_eq_split.1 split with ⟨rfl, -, -⟩ | ⟨front, rfl, same⟩
    · exact .inl rfl
    · rcases ih same with rfl | ⟨result, later, rfl⟩
      · -- the append before would be under way, and none is
        have := lawful.flying_iff.2 ⟨_, same⟩
        cases this
      · exact .inr ⟨result, _, rfl⟩
  | accepted lawful ih | stopped lawful _ ih | refused lawful _ ih =>
    rcases concat_eq_split.1 split with ⟨-, -, different⟩ | ⟨front, rfl, same⟩
    · cases different
    · rcases ih same with rfl | ⟨result, later, rfl⟩
      · have := lawful.flying_iff.2 ⟨_, same⟩
        cases this
        exact .inr ⟨_, [], rfl⟩
      · exact .inr ⟨result, _, rfl⟩
  | retired lawful ih =>
    rcases concat_eq_split.1 split with ⟨-, -, different⟩ | ⟨front, rfl, same⟩
    · cases different
    · rcases ih same with rfl | ⟨result, later, rfl⟩
      · have := lawful.flying_iff.2 ⟨_, same⟩
        cases this
      · exact .inr ⟨result, _, rfl⟩

/-- The token of an append is determined by what came before it. -/
theorem sent_token (lawful : Lawful key token asks h lane) {past rest : Chronicle} {call : CallId}
    {request : Append} (split : h = past ++ (call, .sent request) :: rest) :
    (call ∉ senders past → request.token = adopted token past) ∧
      (call ∈ senders past → ∃ before fault expected,
        past = before ++ [(call, .settled (.error fault))] ∧
          fault.expected? = some expected ∧ request.token = expected.token) := by
  induction lawful generalizing rest with
  | nil => simp at split
  | first lawful late _ ih =>
    rcases concat_eq_split.1 split with ⟨rfl, rfl, same⟩ | ⟨front, rfl, same⟩
    · cases same
      refine ⟨fun _ => lawful.adopted_eq, fun member => ?_⟩
      exact absurd (lawful.senders_before call member) (Nat.not_lt.2 late)
    · exact ih same
  | accepted lawful ih | stopped lawful _ ih | refused lawful _ ih | retired lawful ih =>
    rcases concat_eq_split.1 split with ⟨-, -, different⟩ | ⟨front, rfl, same⟩
    · cases different
    · exact ih same
  | again lawful told ih =>
    rcases concat_eq_split.1 split with ⟨rfl, rfl, same⟩ | ⟨front, rfl, same⟩
    · cases same
      obtain ⟨before, last⟩ := lawful.last_refused rfl
      refine ⟨fun absent => absurd (lawful.served rfl).2 absent, fun _ => ?_⟩
      exact ⟨before, _, _, last, told, rfl⟩
    · exact ih same

end Lawful
end SequenceLog

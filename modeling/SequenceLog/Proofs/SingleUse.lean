import SequenceLog.Proofs.Expectation
import SequenceLog.Proofs.Handling
/-! Tokens of the memory are good for one append. In every run in which nobody makes a stream expect
a token of his own, a token is given out once, and accepted once at most, by the stream that it was
given out for. Main statement: `single_use`. -/
namespace SequenceLog
open Scenario

/-- A move that calls the transport itself, and leaves it to the appends what the streams expect. -/
def Move.Unforced : Move Memory.Command Empty → Prop
  | .start _ (.append _) | .start _ (.ensureStream _) | .resume _ _ | .abandon _ => True
  | .command (.setToken _ _) => False
  | .command _ => True
  | _ => False

namespace Turn
variable (turn : MemoryTurn) (key : Key)

/-- An append is accepted, and this is the token that it returns. -/
def Accepts (request : Append) (next : Token) : Prop :=
  turn.append? = some request ∧ turn.result = some (.ok (.token next))

def Clears : Prop := turn.move = .command (.deleteStream key) ∨ turn.move = .command .close

def Creates : Prop :=
  turn.before.transport.streams.get? key = none ∧ turn.after.transport.streams.get? key ≠ none

def Changes : Prop :=
  turn.Clears key ∨ ∃ request next, turn.Accepts request next ∧ request.key = key

/-- What a turn does to the tokens: an append is accepted, or none is. -/
inductive Issues : Prop
  | accepted {request next} : turn.Accepts request next →
      request.token.same (turn.before.transport.token request.key) = true →
      next = .text (Memory.tokenText (turn.before.transport.issued + 1)) →
      turn.after.transport.issued = turn.before.transport.issued + 1 →
      (∀ key, turn.after.transport.expects key =
        if key = request.key then some next else turn.before.transport.expects key) → Issues
  | none : (∀ request next, ¬ turn.Accepts request next) →
      turn.after.transport.issued = turn.before.transport.issued →
      (∀ key, (¬ turn.Clears key ∧ turn.before.transport.Retains turn.after.transport key) ∨
        (turn.Clears key ∧ turn.after.transport.expects key = none)) → Issues

variable {turn key}

theorem Accepts.unique {request other : Append} {next next' : Token}
    (accepts : turn.Accepts request next) (accepts' : turn.Accepts other next') :
    request = other ∧ next = next' := by
  have same := accepts.1.symm.trans accepts'.1
  have token := accepts.2.symm.trans accepts'.2
  simp only [Option.some.injEq, Except.ok.injEq, Answer.token.injEq] at same token
  exact ⟨same, token⟩

theorem not_clears_of_append {request : Append} (asks : turn.append? = some request) :
    ¬ turn.Clears key := by
  rintro (move | move) <;> simp [append?, move] at asks

theorem creates_iff : turn.Creates key ↔ turn.before.transport.expects key = none ∧
    turn.after.transport.expects key ≠ none := by
  simp [Creates, Memory.expects]

end Turn

section Steps
variable {r r' : MemoryRun} {turn : MemoryTurn}

structure Deals (r r' : MemoryRun) (turn : MemoryTurn) : Prop where
  turns : r'.turns = r.turns ++ [turn]
  before : turn.before.transport = r.session.transport
  after : turn.after.transport = r'.session.transport
  bare : r'.Bare
  issues : turn.Issues

theorem Turn.issues_commit {request : Append} (asks : turn.append? = some request)
    (result : turn.result = some ((turn.before.transport.commit request).2.map .token))
    (issued : turn.after.transport.issued = (turn.before.transport.commit request).1.issued)
    (streams : turn.after.transport.streams = (turn.before.transport.commit request).1.streams) :
    turn.Issues := by
  have expects (key : Key) : turn.after.transport.expects key =
      (turn.before.transport.commit request).1.expects key := by
    rw [Memory.expects, streams, Memory.expects]
  cases decided : (turn.before.transport.commit request).2 with
  | ok next =>
    obtain ⟨same, next_eq, counted, expected⟩ := Memory.commit_accepts decided
    rw [decided] at result
    refine .accepted ⟨asks, result⟩ same next_eq (issued.trans counted) fun key => ?_
    rw [expects, expected]
  | error fault =>
    obtain ⟨counted, retains⟩ := Memory.commit_refuses decided
    rw [decided] at result
    refine .none (fun other next accepts => ?_) (issued.trans counted)
      fun key => .inl ⟨not_clears_of_append asks, ?_⟩
    · cases result.symm.trans accepts.2
    · rw [Memory.Retains, expects]
      exact retains key

theorem Turn.issues_nothing (silent : ∀ request next, ¬ turn.Accepts request next)
    (calm : ∀ key, ¬ turn.Clears key)
    (issued : turn.after.transport.issued = turn.before.transport.issued)
    (streams : turn.after.transport.streams = turn.before.transport.streams) : turn.Issues :=
  .none silent issued fun key =>
    .inl ⟨calm key, .inl (by rw [Memory.expects, streams, Memory.expects])⟩

/-- A command issues nothing. It takes streams away where it is meant to, and nowhere else. -/
theorem Turn.issues_command {command : Memory.Command} (move : turn.move = .command command)
    (unforced : ∀ key token, command ≠ .setToken key token)
    (after : turn.after.transport = (turn.before.transport.perform command).state) :
    turn.Issues := by
  have silent : ∀ request next, ¬ turn.Accepts request next := by
    intro request next accepts
    have asks := accepts.1
    simp [append?, move] at asks
  cases command with
  | setToken key token => exact absurd rfl (unforced key token)
  | close =>
    refine .none silent (by rw [after]; rfl) fun key => .inr ⟨.inr move, ?_⟩
    rw [after]
    rfl
  | deleteStream key =>
    refine .none silent (by rw [after]; rfl) fun other => ?_
    have expects := turn.before.transport.expects_deleteStream key other
    by_cases own : other = key
    · subst own
      rw [if_pos rfl] at expects
      exact .inr ⟨.inl move, by rw [after, ← expects]; rfl⟩
    · rw [if_neg own] at expects
      refine .inl ⟨?_, .inl (by rw [after, ← expects]; rfl)⟩
      rintro (same | same) <;> cases move.symm.trans same
      exact own rfl
  | _ =>
    refine issues_nothing silent (fun key => ?_) (by rw [after]; rfl) (by rw [after]; rfl)
    rintro (same | same) <;> cases move.symm.trans same

/-- Appends that fail at once, fall asleep or are stopped issue nothing. -/
theorem Turn.issues_asleep {request : Append} (asks : turn.append? = some request)
    (after : turn.after.transport.issued = turn.before.transport.issued ∧
      turn.after.transport.streams = turn.before.transport.streams)
    (unanswered : ∀ answer, turn.result ≠ some (.ok answer)) : turn.Issues :=
  issues_nothing (fun _ next accepts => unanswered (.token next) accepts.2)
    (fun _ => not_clears_of_append asks) after.1 after.2

theorem Turn.Handles.issues (handles : turn.Handles)
    (unforced : ∀ key token, turn.move ≠ .command (.setToken key token)) : turn.Issues := by
  cases handles with
  | refused move _ after result | received move _ after result =>
    exact issues_asleep (by rw [append?, move]) (by rw [after]; exact ⟨rfl, rfl⟩) (by simp [result])
  | prompt move _ after result =>
    exact issues_commit (by rw [append?, move]) result (by rw [after]; rfl) (by rw [after]; rfl)
  | woken move under after result =>
    exact issues_commit (by simp only [append?, move, under]) result (by rw [after]) (by rw [after])
  | @stopped _ _ asleep move _ under after result =>
    have asks : turn.append? = some asleep.request := by simp only [append?, move, under]
    exact issues_asleep asks (by rw [after]; exact ⟨rfl, rfl⟩) (by simp [result])
  | @prepared _ key move after =>
    have retains := turn.before.transport.ensureStream_retains key
    refine .none (fun request next accepts => ?_) (by rw [after]; exact (retains key).1)
      fun other => .inl ⟨?_, by rw [after]; exact (retains other).2⟩
    · have asks := accepts.1
      simp [append?, move] at asks
    · rintro (same | same) <;> cases move.symm.trans same
  | commanded move after _ =>
    exact issues_command move (fun key token same => unforced key token (same ▸ move)) after
  | abandoned move after _ =>
    refine issues_nothing (fun request next accepts => ?_) (fun key => ?_) (by rw [after])
      (by rw [after])
    · have asks := accepts.1
      simp [append?, move] at asks
    · rintro (same | same) <;> cases move.symm.trans same

theorem Move.Unforced.direct {move : Move Memory.Command Empty} (unforced : move.Unforced) :
    move.Direct ∧ ∀ key token, move ≠ .command (.setToken key token) := by
  cases move with
  | start task operation =>
    cases operation with
    | append | ensureStream => exact ⟨trivial, nofun⟩
    | getWriter | write => cases unforced
  | resume | abandon => exact ⟨trivial, nofun⟩
  | command command =>
    refine ⟨trivial, fun key token same => ?_⟩
    cases same
    cases unforced
  | _ => cases unforced

theorem deals_step (sound : Sound r) (bare : r.Bare) {move : Move Memory.Command Empty}
    (unforced : move.Unforced) : r.step move = r ∨ ∃ turn, Deals r (r.step move) turn := by
  obtain ⟨direct, unforced⟩ := unforced.direct
  rcases handled_step sound bare direct with stays | ⟨turn, rfl, handled⟩
  · exact .inl stays
  · exact .inr ⟨turn, handled.turns, handled.before_transport, handled.after, handled.bare,
      handled.handles.issues unforced⟩

end Steps

def Run.At {τ σ κ μ χ : Type} (r : Run τ σ κ μ χ) (i : Nat) (these : Turn τ σ κ μ χ → Prop) :
    Prop :=
  ∃ turn, r.turns[i]? = some turn ∧ these turn

section At
variable {τ σ κ μ χ : Type} {r r' : Run τ σ κ μ χ} {turn : Turn τ σ κ μ χ} {i : Nat}
  {these : Turn τ σ κ μ χ → Prop}

theorem Run.At.lt (there : r.At i these) : i < r.turns.length := by
  obtain ⟨turn, made, -⟩ := there
  exact (List.getElem?_eq_some_iff.1 made).1

theorem Run.at_concat (turns : r'.turns = r.turns ++ [turn]) :
    r'.At i these ↔ r.At i these ∨ (i = r.turns.length ∧ these turn) := by
  unfold At
  rw [turns]
  by_cases old : i < r.turns.length
  · simp [List.getElem?_append_left old, Nat.ne_of_lt old]
  · have late : r.turns[i]? = none := List.getElem?_eq_none (Nat.le_of_not_lt old)
    by_cases last : i = r.turns.length
    · simp [last]
    · have later : i - r.turns.length ≠ 0 := by omega
      simp [List.getElem?_append_right (Nat.le_of_not_lt old), late, last, later]

/-- There is a turn of the first kind, and none of the second since. -/
def Run.Since (r : Run τ σ κ μ χ) (these those : Turn τ σ κ μ χ → Prop) : Prop :=
  ∃ i, r.At i these ∧ ∀ j, i < j → ¬ r.At j those

variable {those : Turn τ σ κ μ χ → Prop}

theorem Run.Since.concat (since : r.Since these those) (turns : r'.turns = r.turns ++ [turn])
    (quiet : ¬ those turn) : r'.Since these those := by
  obtain ⟨i, there, none⟩ := since
  refine ⟨i, (at_concat turns).2 (.inl there), fun j later made => ?_⟩
  rcases (at_concat turns).1 made with old | ⟨-, now⟩
  · exact none j later old
  · exact quiet now

theorem Run.Since.now (turns : r'.turns = r.turns ++ [turn]) (now : these turn) :
    r'.Since these those := by
  refine ⟨r.turns.length, (at_concat turns).2 (.inr ⟨rfl, now⟩), fun j later made => ?_⟩
  have := made.lt
  simp only [turns, List.length_append, List.length_singleton] at this
  omega

theorem Run.Since.of_concat (since : r'.Since these those) (turns : r'.turns = r.turns ++ [turn]) :
    these turn ∨ (r.Since these those ∧ ¬ those turn) := by
  obtain ⟨i, there, quiet⟩ := since
  rcases (at_concat turns).1 there with old | ⟨-, now⟩
  · refine .inr ⟨⟨i, old, fun j late made => ?_⟩, fun made => ?_⟩
    · exact quiet j late ((at_concat turns).2 (.inl made))
    · exact quiet _ old.lt ((at_concat turns).2 (.inr ⟨rfl, made⟩))
  · exact .inl now

end At

/-- The tokens were spent as they should be, and each stream expects a token that was given out for
it and not used since, or none since it was created. -/
structure Spent (r : MemoryRun) : Prop where
  issued : ∀ i request next, r.At i (·.Accepts request next) →
    ∃ n ≤ r.session.transport.issued, next = .text (Memory.tokenText n)
  once : ∀ i j request other next, r.At i (·.Accepts request next) →
    r.At j (·.Accepts other next) → i = j
  held : ∀ key token, r.session.transport.expects key = some token → token ≠ .null →
    r.Since (fun turn => ∃ request, request.key = key ∧ turn.Accepts request token) (·.Changes key)
  blank : ∀ key, r.session.transport.expects key = some .null →
    r.Since (fun turn => turn.Creates key ∧ ¬ turn.Changes key) (·.Changes key)
  origin : ∀ i request next, r.At i (·.Accepts request next) → request.token ≠ .null →
    ∃ s < i, (r.At s fun turn => ∃ source, source.key = request.key ∧
        turn.Accepts source request.token) ∧
      ∀ m, s < m → m < i → ¬ r.At m (·.Changes request.key)
  renewed : ∀ i j request other next next', i < j → r.At i (·.Accepts request next) →
    r.At j (·.Accepts other next') → request.key = other.key → request.token = .null →
    other.token = .null → ∃ m, i < m ∧ m ≤ j ∧ r.At m (·.Creates request.key)

section Spending
variable {r r' : MemoryRun} {turn : MemoryTurn} {key : Key}

theorem spent_new (structured autoCreate : Bool) (delay : Binary64) (createStreams : Bool)
    (maxAttempts : Int) :
    Spent (.new (.new structured autoCreate delay) createStreams maxAttempts : MemoryRun) where
  issued i request next made := by cases made.lt
  once i j request other next made := by cases made.lt
  held key token there := by cases there
  blank key there := by cases there
  origin i request next made := by cases made.lt
  renewed i j request other next next' _ made := by cases made.lt

theorem Turn.Accepts.changes_iff {request : Append} {next : Token}
    (accepts : turn.Accepts request next) : turn.Changes key ↔ request.key = key := by
  refine ⟨?_, fun own => .inr ⟨request, next, accepts, own⟩⟩
  rintro (clears | ⟨other, next', accepts', own⟩)
  · exact absurd clears (not_clears_of_append accepts.1)
  · rw [(accepts.unique accepts').1, own]

theorem Spent.untouched (spent : Spent r) {request : Append}
    (same : request.token.same (r.session.transport.token request.key) = true) :
    (request.token = .null ∧ r.session.transport.expects request.key = none) ∨
      r.session.transport.expects request.key = some request.token := by
  rw [Memory.token_eq] at same
  cases expected : r.session.transport.expects request.key with
  | none => exact .inl ⟨by simpa [expected] using same, rfl⟩
  | some token =>
    refine .inr ?_
    simp only [expected, Option.getD_some] at same
    by_cases none : token = .null
    · subst none
      rw [(Json.Value.same_null _).1 same]
    · obtain ⟨s, ⟨turn, made, source, own, accepts⟩, -⟩ :=
        spent.held request.key token expected none
      obtain ⟨n, -, text⟩ := spent.issued s source token ⟨turn, made, accepts⟩
      subst text
      rw [(Json.Value.same_text _ _).1 same]

theorem Spent.origin_kept (spent : Spent r) (turns : r'.turns = r.turns ++ [turn]) {i : Nat}
    {request : Append} {next : Token} (made : r.At i (·.Accepts request next))
    (proper : request.token ≠ .null) :
    ∃ s < i, (r'.At s fun turn => ∃ source, source.key = request.key ∧
        turn.Accepts source request.token) ∧
      ∀ m, s < m → m < i → ¬ r'.At m (·.Changes request.key) := by
  obtain ⟨s, before, source, quiet⟩ := spent.origin i request next made proper
  refine ⟨s, before, (Run.at_concat turns).2 (.inl source), fun m later earlier changes => ?_⟩
  rcases (Run.at_concat turns).1 changes with changes | ⟨rfl, -⟩
  · exact quiet m later earlier changes
  · exact absurd made.lt (by omega)

/-- A stream that accepts an append without a token was created since any append it accepted. -/
theorem Spent.renewed_last (spent : Spent r) (deals : Deals r r' turn) {request first : Append}
    {next token : Token}
    (same : request.token.same (r.session.transport.token request.key) = true)
    (expects : ∀ key, r'.session.transport.expects key =
      if key = request.key then some next else r.session.transport.expects key)
    (without : request.token = .null) {i : Nat} (made : r.At i (·.Accepts first token))
    (own : first.key = request.key) :
    ∃ m, i < m ∧ m ≤ r.turns.length ∧ r'.At m (·.Creates request.key) := by
  rcases spent.untouched same with ⟨-, missing⟩ | expected
  · refine ⟨_, made.lt, Nat.le_refl _, (Run.at_concat deals.turns).2 (.inr ⟨rfl, ?_⟩)⟩
    rw [Turn.creates_iff, deals.before, deals.after]
    exact ⟨missing, by simp [expects]⟩
  · rw [without] at expected
    obtain ⟨s, ⟨creator, there, creates, unchanged⟩, quiet⟩ := spent.blank request.key expected
    have changes : r.At i (·.Changes request.key) := by
      obtain ⟨turn, made, accepts⟩ := made
      exact ⟨turn, made, accepts.changes_iff.2 own⟩
    have here : r.At s (·.Creates request.key) := ⟨creator, there, creates⟩
    refine ⟨s, ?_, Nat.le_of_lt here.lt, (Run.at_concat deals.turns).2 (.inl here)⟩
    rcases Nat.lt_trichotomy i s with earlier | rfl | later
    · exact earlier
    · obtain ⟨turn, there', changed⟩ := changes
      cases there.symm.trans there'
      exact absurd changed unchanged
    · exact absurd changes (quiet i later)

theorem Spent.accepted (spent : Spent r) (deals : Deals r r' turn) {request : Append} {next : Token}
    (accepts : turn.Accepts request next)
    (same : request.token.same (r.session.transport.token request.key) = true)
    (number : next = .text (Memory.tokenText (r.session.transport.issued + 1)))
    (counted : r'.session.transport.issued = r.session.transport.issued + 1)
    (expects : ∀ key, r'.session.transport.expects key =
      if key = request.key then some next else r.session.transport.expects key) : Spent r' := by
  have concat {i : Nat} {these : MemoryTurn → Prop} :
      r'.At i these ↔ r.At i these ∨ (i = r.turns.length ∧ these turn) := Run.at_concat deals.turns
  -- the number is higher than those of all tokens that were issued
  have fresh : ∀ i other, ¬ r.At i (·.Accepts other next) := by
    intro i other made
    obtain ⟨n, le, text⟩ := spent.issued i other next made
    have := Memory.tokenText_injective (Json.Value.text.inj (text.symm.trans number))
    omega
  constructor
  · intro i other token made
    rcases concat.1 made with old | ⟨-, now⟩
    · obtain ⟨n, le, text⟩ := spent.issued i other token old
      exact ⟨n, by omega, text⟩
    · rw [← (accepts.unique now).2, counted]
      exact ⟨_, Nat.le_refl _, number⟩
  · intro i j first second token made made'
    rcases concat.1 made with old | ⟨last, now⟩ <;> rcases concat.1 made' with old' | ⟨last', now'⟩
    · exact spent.once i j first second token old old'
    · rw [← (accepts.unique now').2] at old
      exact absurd old (fresh i first)
    · rw [← (accepts.unique now).2] at old'
      exact absurd old' (fresh j second)
    · rw [last, last']
  · intro key token there proper
    rw [expects] at there
    split at there
    · rename_i own
      obtain rfl : next = token := Option.some.inj there
      exact .now deals.turns ⟨request, own.symm, accepts⟩
    · rename_i other
      exact (spent.held key token there proper).concat deals.turns
        (mt accepts.changes_iff.1 (Ne.symm other))
  · intro key there
    rw [expects] at there
    split at there
    · rw [number] at there
      cases there
    · rename_i other
      exact (spent.blank key there).concat deals.turns (mt accepts.changes_iff.1 (Ne.symm other))
  · intro i other token made proper
    rcases concat.1 made with old | ⟨rfl, now⟩
    · exact spent.origin_kept deals.turns old proper
    · obtain ⟨rfl, -⟩ := accepts.unique now
      have expected := (spent.untouched same).resolve_left fun without => proper without.1
      obtain ⟨s, source, quiet⟩ := spent.held request.key request.token expected proper
      refine ⟨s, source.lt, concat.2 (.inl source), fun m later earlier changes => ?_⟩
      rcases concat.1 changes with changes | ⟨rfl, -⟩
      · exact quiet m later changes
      · exact absurd earlier (Nat.lt_irrefl _)
  · intro i j first second token token' before made made' own without without'
    rcases concat.1 made' with old' | ⟨rfl, now'⟩
    · have old : r.At i (·.Accepts first token) :=
        (concat.1 made).resolve_right fun last => absurd old'.lt (by omega)
      obtain ⟨m, later, earlier, creates⟩ :=
        spent.renewed i j first second token token' before old old' own without without'
      exact ⟨m, later, earlier, concat.2 (.inl creates)⟩
    · have old : r.At i (·.Accepts first token) :=
        (concat.1 made).resolve_right fun last => absurd before (by omega)
      obtain ⟨rfl, -⟩ := accepts.unique now'
      exact own ▸ spent.renewed_last deals same expects without' old own

theorem Spent.unaccepted (spent : Spent r) (deals : Deals r r' turn)
    (silent : ∀ request next, ¬ turn.Accepts request next)
    (counted : r'.session.transport.issued = r.session.transport.issued)
    (kept : ∀ key, (¬ turn.Clears key ∧ r.session.transport.Retains r'.session.transport key) ∨
      (turn.Clears key ∧ r'.session.transport.expects key = none)) : Spent r' := by
  have concat {i : Nat} {these : MemoryTurn → Prop} :
      r'.At i these ↔ r.At i these ∨ (i = r.turns.length ∧ these turn) := Run.at_concat deals.turns
  have old {i : Nat} {request : Append} {next : Token} (made : r'.At i (·.Accepts request next)) :
      r.At i (·.Accepts request next) :=
    (concat.1 made).resolve_right fun last => silent _ _ last.2
  have unchanged {key : Key} (stays : ¬ turn.Clears key) : ¬ turn.Changes key := by
    rintro (clears | ⟨request, next, accepts, -⟩)
    · exact stays clears
    · exact silent _ _ accepts
  constructor
  · intro i request next made
    rw [counted]
    exact spent.issued i request next (old made)
  · intro i j request other next made made'
    exact spent.once i j request other next (old made) (old made')
  · intro key token there proper
    rcases kept key with ⟨stays, same | ⟨-, created⟩⟩ | ⟨-, gone⟩
    · exact (spent.held key token (same ▸ there) proper).concat deals.turns (unchanged stays)
    · exact absurd (Option.some.inj (created.symm.trans there)).symm proper
    · cases gone.symm.trans there
  · intro key there
    rcases kept key with ⟨stays, same | ⟨missing, created⟩⟩ | ⟨-, gone⟩
    · exact (spent.blank key (same ▸ there)).concat deals.turns (unchanged stays)
    · refine .now deals.turns ⟨?_, unchanged stays⟩
      rw [Turn.creates_iff, deals.before, deals.after]
      exact ⟨missing, by simp [created]⟩
    · cases gone.symm.trans there
  · intro i request next made proper
    exact spent.origin_kept deals.turns (old made) proper
  · intro i j request other next next' before made made' own without without'
    obtain ⟨m, later, earlier, creates⟩ :=
      spent.renewed i j request other next next' before (old made) (old made') own without without'
    exact ⟨m, later, earlier, concat.2 (.inl creates)⟩

theorem Spent.deals (spent : Spent r) (deals : Deals r r' turn) : Spent r' := by
  cases deals.issues with
  | accepted accepts same number counted expects =>
    rw [deals.before] at same number counted expects
    rw [deals.after] at counted expects
    exact spent.accepted deals accepts same number counted expects
  | none silent counted kept =>
    rw [deals.before] at counted kept
    rw [deals.after] at counted kept
    exact spent.unaccepted deals silent counted kept

theorem spent_play (spent : Spent r) (sound : Sound r) (bare : r.Bare)
    {moves : List (Move Memory.Command Empty)} (unforced : ∀ move ∈ moves, move.Unforced) :
    Spent (r.play moves) := by
  have both : (r.play moves).Bare ∧ Spent (r.play moves) := by
    refine play_induct (motive := fun r => r.Bare ∧ Spent r) sound ⟨bare, spent⟩
      fun r sound ⟨bare, spent⟩ move member => ?_
    rcases deals_step sound bare (unforced move member) with stays | ⟨turn, deals⟩
    · exact stays.symm ▸ ⟨bare, spent⟩
    · exact ⟨deals.bare, spent.deals deals⟩
  exact both.2

end Spending

/-- Whatever appends are made, overlapping or not and with whatever tokens: all the tokens that they
return are different. A token that an append is accepted with was returned by an earlier append to
the same stream, which has accepted no other since and was not cleared; it is not accepted again.
Between two appends that a stream accepts without a token the stream was created anew. -/
theorem single_use (structured autoCreate : Bool) (delay : Binary64) (createStreams : Bool)
    (maxAttempts : Int) (moves : List (Move Memory.Command Empty))
    (unforced : ∀ move ∈ moves, move.Unforced) :
    let r : MemoryRun :=
      (Run.new (Memory.new structured autoCreate delay) createStreams maxAttempts).play moves
    (∀ i j request other next, r.At i (·.Accepts request next) → r.At j (·.Accepts other next) →
      i = j) ∧
    (∀ i request next, r.At i (·.Accepts request next) → request.token ≠ .null →
      ∃ s < i, (r.At s fun turn => ∃ source, source.key = request.key ∧
          turn.Accepts source request.token) ∧
        ∀ m, s < m → m < i → ¬ r.At m (·.Changes request.key)) ∧
    (∀ i j request other next next', r.At i (·.Accepts request next) →
      r.At j (·.Accepts other next') → request.token = other.token → request.token ≠ .null →
      i = j) ∧
    ∀ i j request other next next', i < j → r.At i (·.Accepts request next) →
      r.At j (·.Accepts other next') → request.key = other.key → request.token = .null →
      other.token = .null → ∃ m, i < m ∧ m ≤ j ∧ r.At m (·.Creates request.key) := by
  intro r
  have bare : (Run.new (Memory.new structured autoCreate delay) createStreams maxAttempts :
      MemoryRun).Bare := fun task activity under => by cases under
  have spent : Spent r := spent_play (spent_new ..) (sound_new ..) bare unforced
  refine ⟨spent.once, spent.origin, ?_, spent.renewed⟩
  -- of two appends with one token the earlier changes the stream after the token was returned
  have never : ∀ i j request other next next', i < j → r.At i (·.Accepts request next) →
      r.At j (·.Accepts other next') → request.token = other.token → request.token ≠ .null →
      False := by
    intro i j request other next next' before made made' same proper
    obtain ⟨s, earlier, ⟨_, at_s, source, own, accepts⟩, -⟩ :=
      spent.origin i request next made proper
    obtain ⟨s', earlier', ⟨_, at_s', source', own', accepts'⟩, quiet⟩ :=
      spent.origin j other next' made' (same ▸ proper)
    obtain rfl : s = s' :=
      spent.once s s' source source' _ ⟨_, at_s, accepts⟩ ⟨_, at_s', same ▸ accepts'⟩
    cases at_s.symm.trans at_s'
    obtain ⟨rfl, -⟩ := accepts.unique accepts'
    obtain ⟨turn, at_i, accepts_i⟩ := made
    exact quiet i earlier before ⟨turn, at_i, accepts_i.changes_iff.2 (own.symm.trans own')⟩
  intro i j request other next next' made made' same proper
  rcases Nat.lt_trichotomy i j with before | equal | after
  · exact (never i j request other next next' before made made' same proper).elim
  · exact equal
  · exact (never j i other request next' next after made' made same.symm (same ▸ proper)).elim

def numbered (n : Nat) : Token := .text (Memory.tokenText n)

/-- Two appends overlap, the second with the token that the first is yet to return. Then the stream
is deleted and another append creates it anew. -/
def overlappingAppends : List (Move Memory.Command Empty) :=
  [.command .connect, .start 0 (.append ⟨default, .null, []⟩),
    .start 1 (.append ⟨default, numbered 1, []⟩), .resume 0 .ready, .resume 1 .ready,
    .command (.deleteStream default), .start 0 (.append ⟨default, .null, []⟩), .resume 0 .ready]

def overlappingAppendsRun : MemoryRun :=
  (Run.new (Memory.new true true (.ofRatio false 1 1)) false 3).play overlappingAppends

/-- All three are accepted: the second after the first, and the third after the stream was created
anew. -/
theorem single_use_overlapping :
    (∀ move ∈ overlappingAppends, move.Unforced) ∧
      (∃ s < 4, (overlappingAppendsRun.At s fun turn => ∃ source : Append, source.key = default ∧
          turn.Accepts source (numbered 1)) ∧
        ∀ m, s < m → m < 4 → ¬ overlappingAppendsRun.At m (·.Changes default)) ∧
      ∃ m, 3 < m ∧ m ≤ 7 ∧ overlappingAppendsRun.At m (·.Creates default) := by
  have unforced : ∀ move ∈ overlappingAppends, move.Unforced := by
    simp [overlappingAppends, Move.Unforced]
  obtain ⟨-, traced, -, renewed⟩ :=
    single_use true true (.ofRatio false 1 1) false 3 overlappingAppends unforced
  have first : overlappingAppendsRun.At 3 (·.Accepts ⟨default, .null, []⟩ (numbered 1)) :=
    ⟨_, rfl, rfl, rfl⟩
  have second : overlappingAppendsRun.At 4 (·.Accepts ⟨default, numbered 1, []⟩ (numbered 2)) :=
    ⟨_, rfl, rfl, rfl⟩
  have third : overlappingAppendsRun.At 7 (·.Accepts ⟨default, .null, []⟩ (numbered 3)) :=
    ⟨_, rfl, rfl, rfl⟩
  exact ⟨unforced, traced _ _ _ second (by simp [numbered]),
    renewed _ _ _ _ _ _ (by decide) first third rfl rfl rfl⟩

end SequenceLog

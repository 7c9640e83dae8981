import SequenceLog.Proofs.Soundness
/-! Calls come to one end. A task has one call at a time, a call is under way until it ends, and one that
has ended is never taken up again. Main statement: `ends_once_play`. -/
namespace SequenceLog
open Scenario
variable {τ σ κ μ χ : Type}

/-- The calls under way are those that have not ended, and are told apart by their tasks. -/
structure EndsOnce (r : Run τ σ κ μ χ) : Prop where
  underway : ∀ task, r.session.active task ≠ none → r.results (r.call task) = []
  apart : ∀ {a b}, r.session.active a ≠ none → r.session.active b ≠ none → r.call a = r.call b → a = b
  goes : ∀ call, call < r.operations.length → r.results call = [] →
    ∃ task, r.session.active task ≠ none ∧ r.call task = call
  unborn : ∀ call, r.operations.length ≤ call → r.results call = []
  once : ∀ call, (r.results call).length ≤ 1

theorem ends_once_new (transport : τ) (createStreams : Bool) (maxAttempts : Int) :
    EndsOnce (.new transport createStreams maxAttempts : Run τ σ κ μ χ) where
  underway _ under := absurd rfl under
  apart under := absurd rfl under
  goes _ begun := by cases begun
  unborn _ _ := rfl
  once _ := Nat.zero_le 1

theorem Run.results_pass (r : Run τ σ κ μ χ) (move : Move μ χ) (s : Session τ σ κ) (call : CallId) :
    (r.pass move s).results call = r.results call := by
  simp [results, pass]

theorem Run.mem_results {r : Run τ σ κ μ χ} {turn : Turn τ σ κ μ χ} {call : CallId}
    {result : Except Fault Answer} (member : turn ∈ r.turns) (own : turn.call = some call)
    (ended : turn.result = some result) : result ∈ r.results call :=
  List.mem_filterMap.2 ⟨turn, member, by rw [if_pos own, ended]⟩

/-- A call that ends in a turn had not ended before. -/
theorem EndsOnce.first {r r' : Run τ σ κ μ χ} {turn : Turn τ σ κ μ χ} {call : CallId}
    {result : Except Fault Answer} (ends : EndsOnce r') (turns : r'.turns = r.turns ++ [turn])
    (own : turn.call = some call) (ended : turn.result = some result) :
    r.results call = [] ∧ r'.results call = [result] := by
  have grown : r'.results call = r.results call ++ [result] := by
    simp [Run.results, turns, own, ended]
  have once := ends.once call
  rw [grown, List.length_append, List.length_singleton] at once
  have none : r.results call = [] := List.length_eq_zero_iff.1 (by omega)
  exact ⟨none, by rw [grown, none, List.nil_append]⟩

/-- A call that has ended has the same result ever after. -/
theorem EndsOnce.kept {r r' : Run τ σ κ μ χ} {call : CallId} {result : Except Fault Answer}
    (ends : EndsOnce r') (later : r.turns <+: r'.turns) (ended : r.results call = [result]) :
    r'.results call = [result] := by
  have grows : r.results call <+: r'.results call := later.filterMap _
  have full : (r'.results call).length ≤ (r.results call).length := ended ▸ ends.once call
  exact (grows.eq_of_length_le full).symm.trans ended

section Takes
variable {r r' : Run τ σ κ μ χ} {task : TaskId} {stepped : Stepped τ σ κ}

theorem Takes.results (takes : Takes r r' task stepped) (call : CallId) :
    r'.results call =
      r.results call ++ if r'.call task = call then stepped.result?.toList else [] := by
  obtain ⟨move, turns⟩ := takes.turns
  simp only [Run.results, turns, List.filterMap_append, List.append_cancel_left_eq]
  by_cases own : r'.call task = call
  · cases stepped.result? <;> simp [own]
  · simp [own]

/-- An operation is either suspended or over. -/
theorem Stepped.result?_of_activity? {activity : Activity σ}
    (goes : stepped.activity? = some activity) :
    stepped.result? = none := by
  obtain ⟨s, progress⟩ := stepped
  cases progress with
  | suspended activity => rfl
  | finished result => cases goes

theorem Stepped.activity?_of_unended (unended : stepped.result? = none) :
    ∃ activity, stepped.activity? = some activity := by
  obtain ⟨s, progress⟩ := stepped
  cases progress with
  | suspended activity => exact ⟨activity, rfl⟩
  | finished => cases unended

theorem Stepped.activity?_of_result? {result : Except Fault Answer}
    (ended : stepped.result? = some result) : stepped.activity? = none := by
  obtain ⟨s, progress⟩ := stepped
  cases progress with
  | suspended activity => cases ended
  | finished => rfl

theorem EndsOnce.takes (ends : EndsOnce r) (takes : Takes r r' task stepped)
    (unended : r.results (r'.call task) = [])
    (own : ∀ other, other ≠ task → r.session.active other ≠ none → r.call other ≠ r'.call task)
    (keeps : r.session.active task ≠ none → r'.call task = r.call task)
    (new : ∀ call, call < r'.operations.length → r'.call task ≠ call → call < r.operations.length) :
    EndsOnce r' where
  underway other under := by
    by_cases same : other = task
    · subst same
      rw [takes.results, unended]
      obtain ⟨activity, goes⟩ := Option.ne_none_iff_exists'.1 (takes.active_self ▸ under)
      simp [Stepped.result?_of_activity? goes]
    · rw [takes.active_other same] at under
      rw [takes.results, takes.others other same, ends.underway other under,
        if_neg (own other same under).symm]
      rfl
  apart {a b} underA underB same := by
    by_cases isA : a = task <;> by_cases isB : b = task
    · rw [isA, isB]
    · subst isA
      rw [takes.active_other isB] at underB
      rw [takes.others b isB] at same
      exact absurd same.symm (own b isB underB)
    · subst isB
      rw [takes.active_other isA] at underA
      rw [takes.others a isA] at same
      exact absurd same (own a isA underA)
    · rw [takes.active_other isA] at underA
      rw [takes.active_other isB] at underB
      rw [takes.others a isA, takes.others b isB] at same
      exact ends.apart underA underB same
  goes call begun unended := by
    rw [takes.results, List.append_eq_nil_iff] at unended
    by_cases mine : r'.call task = call
    · have goes : stepped.result? = none := by simpa [mine] using unended.2
      obtain ⟨activity, goes⟩ := Stepped.activity?_of_unended goes
      exact ⟨task, by simp [takes.active_self, goes], mine⟩
    · obtain ⟨other, under, calls⟩ := ends.goes call (new call begun mine) unended.1
      have different : other ≠ task := by
        rintro rfl
        exact mine ((keeps under).trans calls)
      exact ⟨other, takes.active_other different ▸ under, (takes.others other different).trans calls⟩
  unborn call late := by
    obtain ⟨more, operations⟩ := takes.operations
    have earlier : r.operations.length ≤ r'.operations.length := by simp [operations]
    have different : r'.call task ≠ call := Nat.ne_of_lt (Nat.lt_of_lt_of_le takes.begun late)
    rw [takes.results, ends.unborn call (Nat.le_trans earlier late), if_neg different]
    rfl
  once call := by
    rw [takes.results]
    by_cases same : r'.call task = call
    · subst same
      rw [unended]
      cases stepped.result? <;> simp
    · simpa [same] using ends.once call

end Takes

section Play
variable [Transport τ σ κ] [Commanded τ μ χ κ]

theorem ends_once_step {r : Run τ σ κ μ χ} (ends : EndsOnce r) (sound : Sound r) (move : Move μ χ) :
    EndsOnce (r.step move) := by
  have steps := steps_step sound move
  generalize r.step move = r' at steps ⊢
  cases steps with
  | stay => exact ends
  | @start task operation _ idle known operations call takes =>
    refine ends.takes takes (call ▸ ends.unborn _ (Nat.le_refl _)) (fun other _ under => ?_)
      (fun under => absurd idle under) fun earlier begun different => ?_
    · rw [call]
      exact Nat.ne_of_lt (sound.began other under)
    · rw [operations, List.length_append, List.length_singleton] at begun
      exact Nat.lt_of_le_of_ne (Nat.le_of_lt_succ begun) (call ▸ Ne.symm different)
  | @resume task signal activity _ under operations call takes =>
    have underway : r.session.active task ≠ none := by simp [under]
    refine ends.takes takes (call ▸ ends.underway task underway) (fun other different under' same => ?_)
      (fun _ => congrFun call task) fun _ begun _ => operations ▸ begun
    exact different (ends.apart under' underway (call ▸ same))
  | pass between =>
    have active := (Run.pass_extension between).active
    constructor
    · intro task under
      rw [Run.results_pass]
      exact ends.underway task (congrFun active task ▸ under)
    · intro a b underA underB
      exact ends.apart (congrFun active a ▸ underA) (congrFun active b ▸ underB)
    · intro call begun unended
      rw [Run.results_pass] at unended
      obtain ⟨task, under, calls⟩ := ends.goes call begun unended
      exact ⟨task, (congrFun active task).symm ▸ under, calls⟩
    · intro call late
      rw [Run.results_pass]
      exact ends.unborn call late
    · intro call
      rw [Run.results_pass]
      exact ends.once call

theorem ends_once_play {r : Run τ σ κ μ χ} (ends : EndsOnce r) (sound : Sound r)
    (moves : List (Move μ χ)) : EndsOnce (r.play moves) :=
  play_induct sound ends fun _ sound ends move _ => ends_once_step ends sound move

end Play
end SequenceLog

import SequenceLog.Proofs.Storage
/-! What the streams of the memory expect. A stream is made to expect a token by the append that it
accepts, and only by that; the tokens are texts of numbers that are counted up. Main statements:
`Memory.commit_accepts`, `Memory.commit_refuses` and `Memory.tokenText_injective`. -/
namespace SequenceLog

namespace Json.Value

@[simp] theorem same_null (value : Json.Value) : value.same .null = true ↔ value = .null := by
  cases value with
  | float x => cases x <;> simp [same, sameNumber, ratio?]
  | _ => simp [same, sameNumber, ratio?]

@[simp] theorem same_text (value : Json.Value) (text : Text) :
    value.same (.text text) = true ↔ value = .text text := by
  cases value with
  | float x => cases x <;> simp [same, sameNumber, ratio?]
  | _ => simp [same, sameNumber, ratio?]

end Json.Value

theorem Text.ofChars_injective {a b : List Char} (same : ofChars a = ofChars b) : a = b := by
  have chars := congrArg (fun text => text.points.map CodePoint.toChar) same
  simpa [Function.comp_def] using chars

theorem Calendar.ofDigitChars_padded (width n : Nat) :
    Nat.ofDigitChars 10 (padded width n) 0 = n := by
  simp [padded, Nat.ofDigitChars_append]

namespace Memory
variable {m m' : Memory} {key : Key} {r : Append}

/-- Different numbers are different tokens, also where they are wider than the padding. -/
theorem tokenText_injective {i j : Nat} (same : tokenText i = tokenText j) : i = j := by
  have digits := congrArg (Nat.ofDigitChars 10 · 0) (Text.ofChars_injective same)
  simpa only [Calendar.ofDigitChars_padded] using digits

def expects (m : Memory) (key : Key) : Option Token := (m.streams.get? key).map (·.token)

theorem token_eq (m : Memory) (key : Key) : m.token key = (m.expects key).getD .null := by
  unfold token stream expects
  cases m.streams.get? key <;> rfl

theorem expects_store_self (s : StoredStream) : (m.store key s).expects key = some s.token := by
  simp [expects, store]

theorem expects_store_other {other : Key} (s : StoredStream) (different : other ≠ key) :
    (m.store key s).expects other = m.expects other := by
  simp [expects, store, different]

theorem expects_deleteStream (m : Memory) (key other : Key) :
    (m.deleteStream key).expects other = if other = key then none else m.expects other := by
  by_cases same : other = key
  · simp [expects, deleteStream, same]
  · simp [expects, deleteStream, same]

/-- A stream goes on to expect what it expected. It may be created, and then it expects none. -/
def Retains (m m' : Memory) (key : Key) : Prop :=
  m'.expects key = m.expects key ∨ (m.expects key = none ∧ m'.expects key = some .null)

theorem Retains.token (retains : m.Retains m' key) : m'.token key = m.token key := by
  rw [token_eq, token_eq]
  rcases retains with same | ⟨missing, created⟩
  · rw [same]
  · rw [missing, created]
    rfl

/-- A stream that is stored as it is retains what it expects, even if it had to be created. -/
theorem retains_store_stream (m : Memory) (key other : Key) :
    m.Retains (m.store key (m.stream key)) other := by
  by_cases same : other = key
  · subst same
    rw [Retains, expects_store_self]
    unfold stream expects
    cases m.streams.get? other <;> simp [emptyStream]
  · exact .inl (expects_store_other _ same)

/-- An append that is accepted had the token of its stream, and gets the next one, which is what the
stream expects from then on. -/
theorem commit_accepts {next : Token} (accepted : (m.commit r).2 = .ok next) :
    r.token.same (m.token r.key) = true ∧ next = .text (tokenText (m.issued + 1)) ∧
      (m.commit r).1.issued = m.issued + 1 ∧
      ∀ key, (m.commit r).1.expects key = if key = r.key then some next else m.expects key := by
  have decided := m.decides_commit r
  generalize m.commit r = decision at decided accepted
  cases decided with
  | accepted idle provides same =>
    cases accepted
    refine ⟨same, rfl, rfl, fun key => ?_⟩
    by_cases own : key = r.key
    · subst own
      rw [if_pos rfl]
      exact expects_store_self ..
    · rw [if_neg own]
      exact expects_store_other _ own
  | failed | missing | refused => cases accepted

/-- An append that fails uses up no token. -/
theorem commit_refuses {fault : Fault} (failed : (m.commit r).2 = .error fault) :
    (m.commit r).1.issued = m.issued ∧ ∀ key, m.Retains (m.commit r).1 key := by
  have decided := m.decides_commit r
  generalize m.commit r = decision at decided failed
  cases decided with
  | failed | missing => exact ⟨rfl, fun _ => .inl rfl⟩
  | accepted => cases failed
  | refused => exact ⟨rfl, fun key => retains_store_stream m r.key key⟩

theorem ensureStream_retains (m : Memory) (key other : Key) :
    (m.ensureStream key).state.issued = m.issued ∧
      m.Retains (m.ensureStream key).state other := by
  unfold ensureStream
  split
  · exact ⟨rfl, retains_store_stream m key other⟩
  · exact ⟨rfl, .inl rfl⟩

end Memory
end SequenceLog

import SequenceLog.Proofs.Decision
import SequenceLog.Proofs.Expectation
import SequenceLog.Proofs.Wording
/-! What the refusals of the memory tell. A refusal that names the expected token as data tells it as it
is. One that only words it tells the tokens that a message can tell and no others. The tokens that the
memory gives out are of this kind. Main statement: `refusal_tells_expected`. -/
namespace SequenceLog
open Rejection

section Digits
variable {token : Text} (filled : token.points ≠ [])
  (digits : ∀ c ∈ token.points, '0'.toNat ≤ c.val ∧ c.val ≤ '9'.toNat)
include digits

theorem not_isBlank_of_digit {c : CodePoint} (member : c ∈ token.points) :
    Text.isBlank c = false := by
  obtain ⟨low, high⟩ := digits c member
  simp only [Char.reduceToNat] at low high
  simp [Text.isBlank, Text.isSpace]
  omega

include filled

/-- A message can tell any number. -/
theorem tellable_of_digits : Tellable token where
  filled := filled
  undivided member := absurd (digits divider member) (by decide)
  unbroken member := absurd (digits lineBreak member) (by decide)
  bare :=
    ⟨fun _ first => not_isBlank_of_digit digits (List.mem_of_head? first),
      fun _ last => not_isBlank_of_digit digits (List.mem_of_getLast? last)⟩
  named same := by
    subst same
    exact absurd (digits 'n' (by decide)) (by decide)

end Digits

namespace Memory
variable {m : Memory} {r : Append} {expected : Token}

theorem tellable_tokenText (n : Nat) : Tellable (tokenText n) := by
  apply tellable_of_digits
  · simp [tokenText, Calendar.padded, Text.ofChars]
  · intro c member
    obtain ⟨d, written, rfl⟩ := List.mem_map.1 member
    have digit : d.isDigit = true := by
      rcases List.mem_append.1 written with zero | proper
      · rw [List.eq_of_mem_replicate zero]
        rfl
      · exact Nat.isDigit_of_mem_toDigits (by decide) (by decide) proper
    simpa [Char.isDigit, UInt32.le_iff_toNat_le, CodePoint.ofChar] using digit

/-- What a refusal says between the heading and the last divider. -/
def refusalWords : Text := " The given sequenceToken is invalid. The next expected sequenceToken is"

def namedToken (expected : Token) : Text := if expected.isEmpty then noToken else expected.shown

theorem points_rejectionText (expected : Token) :
    (rejectionText expected).points = heading.points ++ refusalWords.points ++
      divider :: ((' ' : CodePoint) :: (namedToken expected).points) := by
  have opening : (mismatchCode ++ ": The given sequenceToken is invalid. " ++
      "The next expected sequenceToken is: " : Text).points =
      heading.points ++ refusalWords.points ++ [divider, ' '] := by decide +kernel
  rw [rejectionText, Text.points_append, opening, namedToken]
  simp

def refusalWording {word : Text} (spellable : Spellable word) : Wording where
  words := refusalWords.points
  field := (' ' : CodePoint) :: word.points
  further := []
  words_unbroken := by decide +kernel
  field_unbroken := by
    have blank : lineBreak ≠ (' ' : CodePoint) := by decide
    simp [spellable.unbroken, blank]
  field_undivided := by
    have blank : divider ≠ (' ' : CodePoint) := by decide
    simp [spellable.undivided, blank]
  field_told := by
    obtain ⟨c, rest, points⟩ := List.exists_cons_of_ne_nil spellable.filled
    exact ⟨c, by simp [points], spellable.bare.front c (by rw [points]; rfl)⟩
  further_apart _ none := nomatch none

theorem parse_rejectionText (spellable : Spellable (namedToken expected)) :
    parse (rejectionText expected) =
      some ⟨if namedToken expected = noToken then .null else .text (namedToken expected)⟩ := by
  have text : (refusalWording spellable).text = rejectionText expected := by
    rw [Wording.text, refusalWording, List.append_nil, ← points_rejectionText]
  rw [← text, ← Wording.tells_iff]
  refine ⟨namedToken expected, ⟨spellable.bare, [(' ' : CodePoint)], [], ?_, ?_, ?_⟩, rfl⟩
  · simp [refusalWording]
  · simp only [List.mem_singleton, forall_eq]
    decide
  · simp

theorem spellable_noToken : Spellable noToken where
  filled := by decide
  undivided := by decide
  unbroken := by decide
  bare := ⟨by decide, by decide⟩

/-- The wording of a refusal tells none, and the tokens that a message can tell. -/
theorem parse_rejectionText_iff (proper : expected = .null ∨ ∃ token, expected = .text token) :
    parse (rejectionText expected) = some ⟨expected⟩ ↔
      expected = .null ∨ ∃ token, expected = .text token ∧ Tellable token := by
  constructor
  · intro told
    rcases proper with none | ⟨token, rfl⟩
    · exact .inl none
    · exact .inr ⟨token, rfl, tellable_of_parse told rfl⟩
  · rintro (rfl | ⟨token, rfl, tellable⟩)
    · exact parse_rejectionText spellable_noToken
    · have named : namedToken (.text token) = token := by
        have filled : Json.Value.isEmpty (.text token) = false := by
          simpa [Json.Value.isEmpty, Text.isEmpty] using tellable.filled
        rw [namedToken, filled]
        rfl
      have spellable : Spellable (namedToken (.text token)) := by
        rw [named]
        exact tellable.toSpellable
      rw [parse_rejectionText spellable, named, if_neg tellable.named]

/-- A refusal tells what it names as data, and else what its wording tells. -/
theorem expected?_rejection (m : Memory) (expected : Token) :
    (m.rejection expected).expected? =
      if m.structured then some ⟨expected⟩ else parse (rejectionText expected) := by
  unfold rejection
  split <;> rfl

end Memory

/-- Whatever a stream expects, none or any text, and whatever other token is presented: the append fails,
at once or after its sleep, with a fault that tells exactly the expected token if refusals name it as
data; and if they only word it, does so if and only if none is expected or a token that a message can
tell. The tokens that the memory itself has given out are told in both cases. -/
theorem refusal_tells_expected (m : Memory) (r : Append) (expected : Token)
    (proper : expected = .null ∨ ∃ token, expected = .text token)
    (expects : m.token r.key = expected) (differs : r.token ≠ expected) (idle : m.failures = [])
    (provides : m.Provides r.key) :
    ∃ fault, (m.connected = true → m.delay.isZero = true →
        (m.append r).progress = .finished (.error fault)) ∧
      (∀ delay, (m.resume ⟨r, delay⟩ .ready).progress = .finished (.error fault)) ∧
      (m.structured = true → fault.expected? = some ⟨expected⟩) ∧
      (m.structured = false → (fault.expected? = some ⟨expected⟩ ↔
        expected = .null ∨ ∃ token, expected = .text token ∧ Tellable token)) ∧
      ((∃ (earlier : Memory) (accepted : Append), (earlier.commit accepted).2 = .ok expected) →
        fault.expected? = some ⟨expected⟩) := by
  have other : r.token.same (m.token r.key) = false := by
    rw [expects, ← Bool.not_eq_true]
    rcases proper with rfl | ⟨token, rfl⟩
    · rwa [Json.Value.same_null]
    · rwa [Json.Value.same_text]
  have refused : (m.commit r).2 = .error (m.rejection expected) := by
    rw [(Memory.Decides.refused idle provides other).commit_eq, expects]
  refine ⟨m.rejection expected, fun connected prompt => ?_, fun delay => ?_, fun data => ?_,
    fun wording => ?_, ?_⟩
  · rw [(Memory.append_prompt connected prompt r).2, refused]
  · rw [← refused]
    rfl
  · rw [Memory.expected?_rejection, if_pos data]
  · rw [Memory.expected?_rejection, if_neg (by simp [wording]), Memory.parse_rejectionText_iff proper]
  · rintro ⟨earlier, accepted, given⟩
    obtain ⟨-, number, -⟩ := Memory.commit_accepts given
    rw [Memory.expected?_rejection]
    split
    · rfl
    · exact (Memory.parse_rejectionText_iff proper).2
        (.inr ⟨_, number, Memory.tellable_tokenText _⟩)

/-- A memory that only words its refusals, with a stream that expects the token. -/
def wordy (token : Token) : Memory :=
  (Memory.new false true (.zero false)).connect.setToken default token

/-- A token with a divider is not told, and one that was given out is. -/
theorem refusal_tells_expected_wordy :
    (∃ fault, ((wordy (.text "a:b")).append ⟨default, .null, []⟩).progress =
        .finished (.error fault) ∧ fault.expected? ≠ some ⟨.text "a:b"⟩) ∧
      ∃ fault, ((wordy (.text (Memory.tokenText 1))).append ⟨default, .null, []⟩).progress =
        .finished (.error fault) ∧ fault.expected? = some ⟨.text (Memory.tokenText 1)⟩ := by
  constructor
  · obtain ⟨fault, prompt, -, -, worded, -⟩ :=
      refusal_tells_expected (wordy (.text "a:b")) ⟨default, .null, []⟩ (.text "a:b")
        (.inr ⟨_, rfl⟩) rfl (by decide) rfl (.inr rfl)
    refine ⟨fault, prompt rfl rfl, fun told => ?_⟩
    rcases (worded rfl).1 told with none | ⟨token, same, tellable⟩
    · cases none
    · cases same
      exact tellable.undivided (by decide)
  · obtain ⟨fault, prompt, -, -, -, issued⟩ :=
      refusal_tells_expected (wordy (.text (Memory.tokenText 1))) ⟨default, .null, []⟩
        (.text (Memory.tokenText 1)) (.inr ⟨_, rfl⟩) rfl nofun rfl (.inr rfl)
    refine ⟨fault, prompt rfl rfl, issued ⟨wordy .null, ⟨default, .null, []⟩, rfl⟩⟩

end SequenceLog

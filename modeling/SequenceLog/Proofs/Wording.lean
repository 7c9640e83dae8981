import Mathlib.Data.List.TakeWhile
import SequenceLog.Rejection
/-! How a mismatch is worded. Behind the heading, the first line of the message has words and, after the
last divider, a field that is not blank. The token that the message tells is the field without the
blanks around it. Only such messages tell one. Main statement: `parse_accepts_wordings`. -/
namespace SequenceLog

namespace Text
variable {α : Type} {p : α → Bool}

/-- A word has nothing of the class at its ends. -/
structure Bare (p : α → Bool) (word : List α) : Prop where
  front : ∀ c, word.head? = some c → p c = false
  back : ∀ c, word.getLast? = some c → p c = false

/-- The word is what the field holds between members of the class. -/
structure Trims (p : α → Bool) (field word : List α) : Prop where
  bare : Bare p word
  around : ∃ front back, field = front ++ word ++ back ∧ (∀ c ∈ front, p c = true) ∧
    ∀ c ∈ back, p c = true

theorem dropWhile_stopped {s : List α} (stop : ∀ c, s.head? = some c → p c = false) :
    s.dropWhile p = s := by
  cases s with
  | nil => rfl
  | cons c rest => simp [stop c rfl]

theorem head?_dropWhile {s : List α} {c : α} (first : (s.dropWhile p).head? = some c) :
    p c = false := by
  have stop := s.head?_dropWhile_not p
  rwa [first] at stop

theorem trimBy_around {front word back : List α} (bare : Bare p word)
    (before : ∀ c ∈ front, p c = true) (after : ∀ c ∈ back, p c = true) :
    trimBy p (front ++ word ++ back) = word := by
  have after' : ∀ c ∈ back.reverse, p c = true := by simpa using after
  rw [trimBy, List.append_assoc, List.dropWhile_append_of_pos before]
  cases word with
  | nil =>
    rw [List.nil_append, List.dropWhile_eq_nil_iff.2 after]
    rfl
  | cons c rest =>
    have stops : (c :: rest ++ back).dropWhile p = c :: rest ++ back :=
      dropWhile_stopped fun other first => bare.front other (by simpa using first)
    have stops' : (c :: rest).reverse.dropWhile p = (c :: rest).reverse :=
      dropWhile_stopped fun other last => bare.back other (by rwa [List.head?_reverse] at last)
    rw [stops, List.reverse_append, List.dropWhile_append_of_pos after', stops', List.reverse_reverse]

theorem trims_trimBy (p : α → Bool) (field : List α) : Trims p field (trimBy p field) := by
  let rest := field.dropWhile p
  have split : rest = trimBy p field ++ (rest.reverse.takeWhile p).reverse := by
    have whole : rest.reverse.takeWhile p ++ rest.reverse.dropWhile p = rest.reverse :=
      List.takeWhile_append_dropWhile
    have back := congrArg List.reverse whole
    rw [List.reverse_append, List.reverse_reverse] at back
    exact back.symm
  refine ⟨⟨fun c first => ?_, fun c last => ?_⟩, field.takeWhile p,
    (rest.reverse.takeWhile p).reverse, ?_, fun c => List.mem_takeWhile_imp, fun c member => ?_⟩
  · apply head?_dropWhile (s := field)
    rw [show field.dropWhile p = rest from rfl, split, List.head?_append, first]
    rfl
  · apply head?_dropWhile (s := rest.reverse)
    simpa [trimBy, rest] using last
  · rw [List.append_assoc, ← split]
    exact List.takeWhile_append_dropWhile.symm
  · exact List.mem_takeWhile_imp (List.mem_reverse.1 member)

theorem trimBy_eq_nil_iff {field : List α} : trimBy p field = [] ↔ ∀ c ∈ field, p c = true := by
  constructor
  · intro nothing c member
    obtain ⟨front, back, split, before, after⟩ := (trims_trimBy p field).around
    rw [split, nothing, List.append_nil] at member
    exact (List.mem_append.1 member).elim (before c) (after c)
  · intro all
    rw [trimBy, List.dropWhile_eq_nil_iff.2 all]
    rfl

/-- There is one such word, and trimming finds it. -/
theorem trims_iff {field word : List α} : Trims p field word ↔ trimBy p field = word := by
  constructor
  · rintro ⟨bare, front, back, rfl, before, after⟩
    exact trimBy_around bare before after
  · rintro rfl
    exact trims_trimBy p field

end Text

namespace Rejection

def lineBreak : CodePoint := '\n'

/-- The parts of a message that is worded as a mismatch. -/
structure Wording where
  words : List CodePoint
  field : List CodePoint
  /-- What follows the first line. -/
  further : List CodePoint
  words_unbroken : lineBreak ∉ words
  field_unbroken : lineBreak ∉ field
  field_undivided : divider ∉ field
  field_told : ∃ c ∈ field, Text.isBlank c = false
  further_apart : ∀ c, further.head? = some c → c = lineBreak

namespace Wording

def text (w : Wording) : Text := ⟨heading.points ++ w.words ++ divider :: w.field ++ w.further⟩

/-- The field tells the token, or that there is to be none. -/
def Tells (w : Wording) (expected : Expected) : Prop :=
  ∃ word : Text, Text.Trims Text.isBlank w.field word.points ∧
    expected.token = if word = noToken then .null else .text word

end Wording

section Line

theorem lineBreak_not_mem_heading : lineBreak ∉ heading.points := by decide +kernel

theorem count_heading : heading.points.count divider = 1 := by decide +kernel

theorem firstLine_append {line further : List CodePoint} (unbroken : lineBreak ∉ line)
    (apart : ∀ c, further.head? = some c → c = lineBreak) : firstLine (line ++ further) = line := by
  have whole : ∀ c ∈ line, (c != lineBreak) = true := by
    intro c member
    simpa using fun same : c = lineBreak => unbroken (same ▸ member)
  have ended : further.takeWhile (· != lineBreak) = [] := by
    cases further with
    | nil => rfl
    | cons c rest => simp [apart c rfl]
  have taken : firstLine (line ++ further) = line ++ further.takeWhile (· != lineBreak) :=
    List.takeWhile_append_of_pos whole
  rw [taken, ended, List.append_nil]

theorem firstLine_heading (rest : List CodePoint) :
    firstLine (heading.points ++ rest) = heading.points ++ firstLine rest := by
  apply List.takeWhile_append_of_pos
  decide +kernel

theorem lineBreak_not_mem_firstLine (points : List CodePoint) : lineBreak ∉ firstLine points := by
  intro member
  have other := List.mem_takeWhile_imp member
  simp [lineBreak] at other

theorem exists_further (points : List CodePoint) :
    ∃ further, points = firstLine points ++ further ∧
      ∀ c, further.head? = some c → c = lineBreak := by
  refine ⟨points.dropWhile (· != lineBreak), List.takeWhile_append_dropWhile.symm, ?_⟩
  intro c first
  simpa using Text.head?_dropWhile first

theorem lastPart_append {front field : List CodePoint} (undivided : divider ∉ field) :
    lastPart (front ++ divider :: field) = field := by
  have whole : ∀ c ∈ field.reverse, (c != divider) = true := by
    intro c member
    simpa using fun same : c = divider => undivided (same ▸ List.mem_reverse.1 member)
  simp [lastPart, List.takeWhile_append_of_pos whole]

theorem exists_field {line : List CodePoint} (divided : divider ∈ line) :
    ∃ words field, line = words ++ divider :: field ∧ divider ∉ field := by
  obtain ⟨front, back, split, none⟩ := List.eq_append_cons_of_mem (List.mem_reverse.2 divided)
  refine ⟨back.reverse, front.reverse, ?_, by simpa using none⟩
  rw [← List.reverse_reverse line, split]
  simp

end Line

namespace Wording
variable (w : Wording)

def line : List CodePoint := heading.points ++ w.words ++ divider :: w.field

theorem firstLine_text : firstLine w.text.points = w.line := by
  apply firstLine_append _ w.further_apart
  have distinct : lineBreak ≠ divider := by decide
  simp [lineBreak_not_mem_heading, w.words_unbroken, w.field_unbroken, distinct]

theorem lastPart_line : lastPart w.line = w.field := lastPart_append w.field_undivided

theorem three_le_partCount : 3 ≤ partCount w.line := by
  simp only [partCount, line, List.count_append, List.count_cons_self, count_heading]
  omega

/-- Equal messages have equal parts. -/
theorem text_injective {w w' : Wording} (same : w.text = w'.text) : w = w' := by
  have line : w.line = w'.line := by rw [← firstLine_text, ← firstLine_text, same]
  have field : w.field = w'.field := by rw [← lastPart_line, ← lastPart_line, line]
  have words : w.words = w'.words := by
    rw [Wording.line, Wording.line, field] at line
    simpa using line
  have further : w.further = w'.further := by
    have points := congrArg Text.points same
    rw [text, text, words, field] at points
    simpa using points
  cases w
  cases w'
  simp_all

theorem parse_text : parse w.text =
    some ⟨if (⟨Text.trim w.field⟩ : Text) = noToken then .null else .text ⟨Text.trim w.field⟩⟩ := by
  have headed : heading.points.isPrefixOf w.text.points = true := by
    simp [text, List.append_assoc]
  have told : (⟨Text.trim w.field⟩ : Text).isEmpty = false := by
    rw [Text.isEmpty, List.isEmpty_eq_false_iff]
    intro nothing
    obtain ⟨c, member, proper⟩ := w.field_told
    have blank := Text.trimBy_eq_nil_iff.1 nothing c member
    rw [proper] at blank
    cases blank
  have long : ¬ partCount w.line < 3 := Nat.not_lt.2 w.three_le_partCount
  simp only [parse, headed, if_true, firstLine_text, long, if_false, lastPart_line, told,
    Bool.false_eq_true]
  split <;> rfl

theorem tells_iff {w : Wording} {expected : Expected} :
    w.Tells expected ↔ parse w.text = some expected := by
  rw [parse_text]
  constructor
  · rintro ⟨word, trims, token⟩
    have found : (⟨Text.trim w.field⟩ : Text) = word := by
      rw [Text.trim, Text.trims_iff.1 trims]
    rw [found, ← token]
  · intro parsed
    cases parsed
    exact ⟨⟨Text.trim w.field⟩, Text.trims_trimBy Text.isBlank w.field, rfl⟩

end Wording

/-- A text that is understood has the heading, a divider after it in its first line, and a last part
that is not blank. -/
theorem of_parse {text : Text} {expected : Expected} (parsed : parse text = some expected) :
    ∃ rest, text.points = heading.points ++ rest ∧ 3 ≤ partCount (firstLine text.points) ∧
      Text.trim (lastPart (firstLine text.points)) ≠ [] := by
  simp only [parse] at parsed
  split at parsed
  · rename_i headed
    obtain ⟨rest, whole⟩ := List.isPrefixOf_iff_prefix.1 headed
    refine ⟨rest, whole.symm, ?_⟩
    split at parsed
    · cases parsed
    · rename_i long
      split at parsed
      · cases parsed
      · rename_i filled
        exact ⟨Nat.le_of_not_lt long, by simpa [Text.isEmpty] using filled⟩
  · cases parsed

theorem exists_wording {text : Text} {expected : Expected} (parsed : parse text = some expected) :
    ∃ w : Wording, w.text = text := by
  obtain ⟨rest, whole, long, filled⟩ := of_parse parsed
  obtain ⟨further, split, apart⟩ := exists_further rest
  have unbroken := lineBreak_not_mem_firstLine rest
  have line : firstLine text.points = heading.points ++ firstLine rest := by
    rw [whole, firstLine_heading]
  have divided : divider ∈ firstLine rest := by
    rw [line, partCount, List.count_append, count_heading] at long
    rw [← List.count_pos_iff]
    omega
  obtain ⟨words, field, parts, undivided⟩ := exists_field divided
  rw [line, parts, ← List.append_assoc, lastPart_append undivided] at filled
  rw [parts, List.mem_append, List.mem_cons, not_or, not_or] at unbroken
  have told : ∃ c ∈ field, Text.isBlank c = false := by
    by_contra blank
    exact filled (Text.trimBy_eq_nil_iff.2 (by simpa using blank))
  refine ⟨⟨words, field, further, unbroken.1, unbroken.2.2, undivided, told, apart⟩, ?_⟩
  rw [Wording.text, List.append_assoc, List.append_assoc]
  have points : text.points = heading.points ++ (words ++ (divider :: field ++ further)) := by
    rw [whole, split, parts, List.append_assoc]
  rw [← points]

/-- A text that a message can have for its field, whatever blanks are around it. -/
structure Spellable (word : Text) : Prop where
  filled : word.points ≠ []
  undivided : divider ∉ word.points
  unbroken : lineBreak ∉ word.points
  bare : Text.Bare Text.isBlank word.points

/-- A token that a message can tell. -/
structure Tellable (token : Text) : Prop extends Spellable token where
  named : token ≠ noToken

theorem Wording.spellable (w : Wording) {word : Text}
    (trims : Text.Trims Text.isBlank w.field word.points) : Spellable word := by
  obtain ⟨front, back, split, before, after⟩ := trims.around
  have inside : ∀ c ∈ word.points, c ∈ w.field := by
    intro c member
    rw [split]
    simp [member]
  refine ⟨?_, fun member => w.field_undivided (inside _ member),
    fun member => w.field_unbroken (inside _ member), trims.bare⟩
  intro nothing
  obtain ⟨c, member, proper⟩ := w.field_told
  have blank := Text.trimBy_eq_nil_iff.1 ((Text.trims_iff.1 trims).trans nothing) c member
  rw [proper] at blank
  cases blank

theorem tellable_of_parse {text : Text} {expected : Expected} {token : Text}
    (parsed : parse text = some expected) (told : expected.token = .text token) :
    Tellable token := by
  obtain ⟨w, rfl⟩ := exists_wording parsed
  obtain ⟨word, trims, said⟩ := Wording.tells_iff.2 parsed
  rw [told] at said
  split at said
  · cases said
  · rename_i named
    obtain rfl : token = word := by simpa using said
    exact ⟨w.spellable trims, named⟩

theorem headed_firstLine (points : List CodePoint) :
    heading.points <+: firstLine points ↔ heading.points <+: points := by
  constructor
  · exact fun headed => headed.trans (List.takeWhile_prefix _)
  · rintro ⟨rest, rfl⟩
    rw [firstLine_heading]
    exact List.prefix_append ..

theorem parse_firstLine (points : List CodePoint) : parse ⟨firstLine points⟩ = parse ⟨points⟩ := by
  have once : firstLine (firstLine points) = firstLine points := by
    have ended : ∀ c, ([] : List CodePoint).head? = some c → c = lineBreak := nofun
    simpa using firstLine_append (lineBreak_not_mem_firstLine points) ended
  have headed : heading.points.isPrefixOf (firstLine points) = heading.points.isPrefixOf points := by
    rw [Bool.eq_iff_iff, List.isPrefixOf_iff_prefix, List.isPrefixOf_iff_prefix, headed_firstLine]
  simp only [parse, once, headed]

theorem parse_further {line : List CodePoint} (unbroken : lineBreak ∉ line)
    (further : List CodePoint) : parse ⟨line ++ lineBreak :: further⟩ = parse ⟨line⟩ := by
  have first : firstLine (line ++ lineBreak :: further) = line :=
    firstLine_append unbroken fun c same => (Option.some.inj same).symm
  rw [← parse_firstLine, first]

end Rejection

open Rejection

/-- A message is understood if and only if it is worded as a mismatch: the heading, words, a divider, a
field without dividers that is not blank, and perhaps further lines. It is so worded in one way only.
The token that is understood is the field without the blanks around it, or none where the field says
so. Nothing after the first line break matters, and a token that is told is not empty, is not the
spelling of none, has no divider and no line break in it, and no blanks around it. -/
theorem parse_accepts_wordings :
    (∀ text, (∃ expected, parse text = some expected) ↔ ∃ w : Wording, w.text = text) ∧
    (∀ w w' : Wording, w.text = w'.text → w = w') ∧
    (∀ (w : Wording) expected, parse w.text = some expected ↔ w.Tells expected) ∧
    (∀ line further, lineBreak ∉ line → parse ⟨line ++ lineBreak :: further⟩ = parse ⟨line⟩) ∧
    ∀ text expected token, parse text = some expected → expected.token = .text token →
      Tellable token := by
  refine ⟨fun text => ⟨fun ⟨_, parsed⟩ => exists_wording parsed, ?_⟩,
    fun w w' => Wording.text_injective, fun w expected => Wording.tells_iff.symm,
    fun line further unbroken => parse_further unbroken further,
    fun text expected token => tellable_of_parse⟩
  rintro ⟨w, rfl⟩
  exact ⟨_, w.parse_text⟩

/-- Words with dividers, and a field with an information separator and a wide space around it. -/
def windyLine : Text := "InvalidSequenceTokenException: at: last:\u001F49 59\u3000"

/-- The line tells its last field, also where another line follows that says something else. -/
theorem parse_accepts_wordings_windy :
    lineBreak ∉ windyLine.points ∧
      parse (windyLine ++ "\nInvalidSequenceTokenException: next: null") = parse windyLine ∧
      parse windyLine = some ⟨.text "49 59"⟩ ∧ Tellable "49 59" := by
  obtain ⟨-, -, -, further, told⟩ := parse_accepts_wordings
  have unbroken : lineBreak ∉ windyLine.points := by decide +kernel
  have parsed : parse windyLine = some ⟨.text "49 59"⟩ := by decide +kernel
  exact ⟨unbroken, further windyLine.points _ unbroken, parsed, told _ _ _ parsed rfl⟩

end SequenceLog

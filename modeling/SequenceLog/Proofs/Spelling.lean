import Mathlib.Data.List.TakeWhile
import SequenceLog.Number.Numeral
/-! How numerals are spelled. The grammar of whole numbers and of decimal fractions is given on its
own, and reading a text finds a number if and only if the grammar spells it that way. Main
statements: `readInteger_eq_value` and `readBinary64?_eq_some`. -/
namespace SequenceLog.Numeral

section Grammar

def AreDigits (text : List Char) : Prop := ∀ c ∈ text, isDigit c = true

/-- Every underscore stands between two digits. -/
def Grouped (text : List Char) : Prop :=
  ∀ before after, text = before ++ '_' :: after →
    (∃ digit, before.getLast? = some digit ∧ isDigit digit = true) ∧
      ∃ digit, after.head? = some digit ∧ isDigit digit = true

def ungrouped (text : List Char) : List Char := text.filter (· ≠ '_')

/-- A text, whether it has a minus, and what follows its sign. -/
inductive Signed : List Char → Bool → List Char → Prop
  | minus (body) : Signed ('-' :: body) true body
  | plus (body) : Signed ('+' :: body) false body
  | bare (body) : Signed body false body

def signed (negative : Bool) (magnitude : Nat) : Int :=
  if negative then -(magnitude : Int) else magnitude

/-- Digits in groups, at least one of them and no more than the limit. -/
structure IsRun (run : List Char) : Prop where
  chars : ∀ c ∈ run, isDigit c = true ∨ c = '_'
  grouped : Grouped run
  nonempty : run ≠ []
  limit : (ungrouped run).length ≤ digitLimit

def SpellsInteger (text : List Char) (n : Int) : Prop :=
  ∃ negative run, Signed text negative run ∧ IsRun run ∧
    n = signed negative (valueOf (ungrouped run))

inductive SpellsExponent : List Char → Int → Prop
  | absent : SpellsExponent [] 0
  | present {letter : Char} {text digits : List Char} {negative : Bool} :
    letter = 'e' ∨ letter = 'E' → Signed text negative digits → digits ≠ [] → AreDigits digits →
      SpellsExponent (letter :: text) (signed negative (valueOf digits))

/-- What follows the sign of a decimal fraction, with the digits before and after its point and its
exponent. -/
inductive SpellsDecimal : List Char → List Char → List Char → Int → Prop
  | whole {whole tail : List Char} {exponent : Int} :
    whole ≠ [] → AreDigits whole → SpellsExponent tail exponent →
      SpellsDecimal (whole ++ tail) whole [] exponent
  | point {whole fraction tail : List Char} {exponent : Int} :
    whole ≠ [] ∨ fraction ≠ [] → AreDigits whole → AreDigits fraction →
      SpellsExponent tail exponent →
      SpellsDecimal (whole ++ '.' :: (fraction ++ tail)) whole fraction exponent

/-- A name of infinity or of the missing number in any mix of cases, or a decimal fraction, which
stands for the number nearest to it. -/
inductive SpellsMagnitude (negative : Bool) : List Char → Binary64 → Prop
  | infinity {body : List Char} :
    String.ofList (body.map lower) = "inf" ∨ String.ofList (body.map lower) = "infinity" →
      SpellsMagnitude negative body (.infinite negative)
  | missing {body : List Char} :
    String.ofList (body.map lower) = "nan" → SpellsMagnitude negative body .nan
  | decimal {body whole fraction : List Char} {exponent : Int} :
    SpellsDecimal body whole fraction exponent →
      SpellsMagnitude negative body
        (.ofDecimal negative (valueOf (whole ++ fraction)) (exponent - fraction.length))

/-- A sign and a magnitude. The underscores, each between two digits, do not count. -/
def SpellsBinary64 (text : List Char) (x : Binary64) : Prop :=
  Grouped text ∧ ∃ negative body, Signed (ungrouped text) negative body ∧
    SpellsMagnitude negative body x

end Grammar

section Underscores
variable {a b : Char} {rest text digits : List Char}

theorem not_grouped_underscore : ¬ Grouped ('_' :: rest) := by
  intro grouped
  obtain ⟨⟨digit, last, -⟩, -⟩ := grouped [] rest rfl
  cases last

theorem grouped_nil : Grouped [] := by
  intro before after split
  simp at split

theorem grouped_cons (own : a ≠ '_') (next : rest.head? ≠ some '_') :
    Grouped (a :: rest) ↔ Grouped rest := by
  constructor
  · rintro grouped before after rfl
    obtain ⟨⟨digit, last, isDigit⟩, later⟩ := grouped (a :: before) after rfl
    cases before with
    | nil => simp at next
    | cons c before => exact ⟨⟨digit, by simpa [List.getLast?_cons] using last, isDigit⟩, later⟩
  · intro grouped before after split
    cases before with
    | nil =>
      obtain ⟨same, -⟩ := List.cons.inj split
      exact absurd same own
    | cons c before =>
      obtain ⟨rfl, rfl⟩ := List.cons.inj split
      obtain ⟨⟨digit, last, isDigit⟩, later⟩ := grouped before after rfl
      exact ⟨⟨digit, by simp [List.getLast?_cons, last], isDigit⟩, later⟩

theorem grouped_cons_underscore :
    Grouped (a :: '_' :: b :: rest) ↔
      isDigit a = true ∧ isDigit b = true ∧ Grouped (b :: rest) := by
  constructor
  · intro grouped
    obtain ⟨⟨_, here, left⟩, ⟨_, there, right⟩⟩ := grouped [a] (b :: rest) rfl
    cases here
    cases there
    refine ⟨left, right, fun before after split => ?_⟩
    have longer : a :: '_' :: b :: rest = (a :: '_' :: before) ++ '_' :: after := by rw [split]; rfl
    obtain ⟨⟨digit, last, isDigit⟩, later⟩ := grouped _ _ longer
    cases before with
    | nil =>
      obtain ⟨rfl, -⟩ := List.cons.inj split
      cases right
    | cons c before => exact ⟨⟨digit, by simpa [List.getLast?_cons] using last, isDigit⟩, later⟩
  · rintro ⟨left, right, grouped⟩ before after split
    match before with
    | [] =>
      obtain ⟨rfl, -⟩ := List.cons.inj split
      cases left
    | [c] =>
      simp only [List.cons_append, List.nil_append, List.cons.injEq, true_and] at split
      obtain ⟨rfl, rfl⟩ := split
      exact ⟨⟨a, rfl, left⟩, b, rfl, right⟩
    | c :: d :: before =>
      simp only [List.cons_append, List.cons.injEq] at split
      obtain ⟨rfl, rfl, split⟩ := split
      obtain ⟨⟨digit, last, isDigit⟩, later⟩ := grouped before after split
      exact ⟨⟨digit, by simp [List.getLast?_cons, last], isDigit⟩, later⟩

theorem not_grouped_ending : ¬ Grouped [a, '_'] := by
  intro grouped
  obtain ⟨-, digit, next, -⟩ := grouped [a] [] rfl
  cases next

/-- The underscores are removed if and only if each has its place. -/
theorem joinDigits?_eq_some :
    joinDigits? text = some digits ↔ Grouped text ∧ digits = ungrouped text := by
  fun_induction joinDigits? text generalizing digits with
  | case1 => simp [grouped_nil, ungrouped, eq_comm]
  | case2 rest => simp [not_grouped_underscore]
  | case3 a b rest own between ih =>
    obtain ⟨left, right⟩ := Bool.and_eq_true_iff.1 between
    have removed : ungrouped (a :: '_' :: b :: rest) = a :: ungrouped (b :: rest) := by
      simp [ungrouped, show a ≠ '_' from own]
    rw [Option.map_eq_some_iff, grouped_cons_underscore, removed]
    simp [ih, left, right, and_assoc, @eq_comm _ digits]
  | case4 a b rest own apart =>
    have refused : ¬ Grouped (a :: '_' :: b :: rest) := by
      rw [grouped_cons_underscore]
      rintro ⟨left, right, -⟩
      exact apart (by simp [left, right])
    simp [refused]
  | case5 a rest own short ih =>
    by_cases next : rest.head? = some '_'
    · obtain ⟨more, rfl⟩ := List.head?_eq_some_iff.1 next
      cases more with
      | nil => simp [not_grouped_ending, joinDigits?]
      | cons b more => exact (short b more rfl).elim
    · have removed : ungrouped (a :: rest) = a :: ungrouped rest := by
        simp [ungrouped, show a ≠ '_' from own]
      rw [Option.map_eq_some_iff, grouped_cons own next, removed]
      simp [ih, and_assoc, @eq_comm _ digits]

end Underscores

section Signs
variable {text body : List Char} {negative : Bool}

theorem signed_splitSign (text : List Char) :
    Signed text (splitSign text).1 (splitSign text).2 := by
  unfold splitSign
  split <;> constructor

/-- A sign that is split off is the one before what does not begin with a sign itself. -/
theorem Signed.splitSign_eq (signed : Signed text negative body)
    (first : body.head? ≠ some '-' ∧ body.head? ≠ some '+') :
    splitSign text = (negative, body) := by
  cases signed with
  | minus | plus => rfl
  | bare =>
    unfold splitSign
    split
    · exact absurd rfl first.1
    · exact absurd rfl first.2
    · rfl

theorem isDigit_bounds {c : Char} : isDigit c = true ↔ 48 ≤ c.toNat ∧ c.toNat ≤ 57 := by
  rw [isDigit, Bool.and_eq_true, decide_eq_true_iff, decide_eq_true_iff]
  exact Iff.rfl

end Signs

section Integers
variable {text run : List Char} {negative : Bool}

def inRun (c : Char) : Bool := isDigit c || c == '_'

theorem ungrouped_ne_nil (grouped : Grouped run) (nonempty : run ≠ []) : ungrouped run ≠ [] := by
  cases run with
  | nil => exact absurd rfl nonempty
  | cons c rest =>
    have own : c ≠ '_' := by
      rintro rfl
      exact not_grouped_underscore grouped
    simp [ungrouped, own]

/-- What a run consists of is not a sign. -/
theorem Signed.splitSign_run (signed : Signed text negative run)
    (chars : ∀ c ∈ run, inRun c = true) : splitSign text = (negative, run) := by
  refine signed.splitSign_eq ⟨fun first => ?_, fun first => ?_⟩ <;>
  · obtain ⟨rest, rfl⟩ := List.head?_eq_some_iff.1 first
    cases chars _ List.mem_cons_self

theorem readInteger_eq {text : Text} {body : List Char}
    (split : splitSign (prepare text) = (negative, body)) :
    readInteger text = match joinDigits? (body.takeWhile inRun) with
      | none | some [] => .malformed
      | some digits =>
        if digitLimit < digits.length then .tooLong digits.length
        else if body.dropWhile inRun ≠ [] then .malformed
        else .value (signed negative (valueOf digits)) := by
  rw [readInteger, split]
  rfl

/-- An integer is read from a text if and only if the text, without the white space around it,
spells it. -/
theorem readInteger_eq_value {text : Text} {n : Int} :
    readInteger text = .value n ↔ SpellsInteger (prepare text) n := by
  constructor
  · intro value
    have sign := signed_splitSign (prepare text)
    obtain ⟨⟨negative, body⟩, parts⟩ : ∃ parts, splitSign (prepare text) = parts := ⟨_, rfl⟩
    rw [parts] at sign
    rw [readInteger_eq parts] at value
    split at value
    · cases value
    · cases value
    · rename_i digits nonempty joined
      split at value
      · cases value
      · rename_i within
        split at value
        · cases value
        · rename_i ended
          rw [not_not] at ended
          have whole : body.takeWhile inRun = body := by
            simpa [ended] using List.takeWhile_append_dropWhile (p := inRun) (l := body)
          obtain ⟨grouped, rfl⟩ := joinDigits?_eq_some.1 (whole ▸ joined)
          refine ⟨negative, body, sign, ⟨fun c member => ?_, grouped, ?_, Nat.le_of_not_lt within⟩,
            (IntegerReading.value.inj value).symm⟩
          · have char := List.dropWhile_eq_nil_iff.1 ended c member
            simpa [inRun] using char
          · rintro rfl
            exact nonempty rfl
  · rintro ⟨negative, run, sign, isRun, rfl⟩
    have chars : ∀ c ∈ run, inRun c = true := fun c member => by
      simpa [inRun] using isRun.chars c member
    have whole : run.takeWhile inRun = run := List.takeWhile_eq_self_iff.2 chars
    have ended : run.dropWhile inRun = [] := List.dropWhile_eq_nil_iff.2 chars
    have joined := joinDigits?_eq_some.2 ⟨isRun.grouped, rfl⟩
    have nonempty := ungrouped_ne_nil isRun.grouped isRun.nonempty
    have within := Nat.not_lt.2 isRun.limit
    rw [readInteger_eq (sign.splitSign_run chars), whole, joined, ended]
    cases remaining : ungrouped run with
    | nil => exact absurd remaining nonempty
    | cons c rest =>
      rw [remaining] at within
      simp only [if_neg within, ne_eq, not_true_eq_false, if_false]

end Integers

section Fractions
variable {text body run rest tail : List Char} {negative : Bool} {exponent : Int}

theorem areDigits_takeWhile (text : List Char) : AreDigits (text.takeWhile isDigit) :=
  fun _ member => List.mem_takeWhile_imp member

theorem takeWhile_digits (digits : AreDigits run)
    (next : ∀ c, rest.head? = some c → isDigit c = false) :
    (run ++ rest).takeWhile isDigit = run ∧ (run ++ rest).dropWhile isDigit = rest := by
  induction run with
  | nil =>
    cases rest with
    | nil => exact ⟨rfl, rfl⟩
    | cons c rest => simp [next c rfl]
  | cons c run ih =>
    obtain ⟨digit, others⟩ := List.forall_mem_cons.1 digits
    obtain ⟨taken, dropped⟩ := ih others
    simp [digit, taken, dropped]

theorem readExponent?_eq_some : readExponent? text = some exponent ↔ SpellsExponent text exponent := by
  constructor
  · intro value
    cases text with
    | nil =>
      cases value
      exact .absent
    | cons letter text =>
      simp only [readExponent?] at value
      split at value
      · rename_i named
        split at value
        · rename_i digits
          cases value
          have all : AreDigits (splitSign text).2 := by simpa [AreDigits] using digits.2
          exact .present named (signed_splitSign text) digits.1 all
        · cases value
      · cases value
  · intro spelled
    cases spelled with
    | absent => rfl
    | present named sign nonempty digits =>
      have all := And.intro nonempty (List.all_eq_true.2 digits)
      have split := sign.splitSign_run fun c member => by simp [inRun, digits c member]
      simp only [readExponent?, if_pos named, split, if_pos all]
      rfl

theorem SpellsExponent.head? {c : Char} (spelled : SpellsExponent tail exponent)
    (first : tail.head? = some c) : c = 'e' ∨ c = 'E' := by
  cases spelled with
  | absent => cases first
  | present named =>
    cases first
    exact named

theorem SpellsExponent.not_digit {c : Char} (spelled : SpellsExponent tail exponent)
    (first : tail.head? = some c) : isDigit c = false := by
  rcases spelled.head? first with rfl | rfl <;> rfl

def splitFraction : List Char → List Char × List Char
  | '.' :: rest => (rest.takeWhile isDigit, rest.dropWhile isDigit)
  | rest => ([], rest)

theorem splitFraction_eq (ending : SpellsExponent tail exponent) : splitFraction tail = ([], tail) := by
  unfold splitFraction
  split
  · rcases ending.head? rfl with same | same <;> cases same
  · rfl

theorem splitFraction_spec {after fraction : List Char}
    (split : splitFraction after = (fraction, tail)) :
    (AreDigits fraction ∧ after = '.' :: (fraction ++ tail)) ∨ (fraction = [] ∧ after = tail) := by
  unfold splitFraction at split
  split at split <;> cases split
  · exact .inl ⟨areDigits_takeWhile _, by rw [List.takeWhile_append_dropWhile]⟩
  · exact .inr ⟨rfl, rfl⟩

theorem readDecimal?_eq {whole after fraction : List Char}
    (first : body.takeWhile isDigit = whole) (second : body.dropWhile isDigit = after)
    (split : splitFraction after = (fraction, tail)) :
    readDecimal? negative body =
      if whole = [] ∧ fraction = [] then none
      else (readExponent? tail).map fun exponent =>
        .ofDecimal negative (valueOf (whole ++ fraction)) (exponent - fraction.length) := by
  have fraction_eq : (splitFraction after).1 = fraction := congrArg Prod.fst split
  have tail_eq : (splitFraction after).2 = tail := congrArg Prod.snd split
  rw [← first, ← fraction_eq, ← tail_eq, ← second]
  rfl

/-- A decimal fraction is read if and only if it is spelled. -/
theorem readDecimal?_eq_some {x : Binary64} :
    readDecimal? negative body = some x ↔
      ∃ whole fraction exponent, SpellsDecimal body whole fraction exponent ∧
        x = .ofDecimal negative (valueOf (whole ++ fraction)) (exponent - fraction.length) := by
  constructor
  · intro value
    have parts := List.takeWhile_append_dropWhile (p := isDigit) (l := body)
    have digits := areDigits_takeWhile body
    obtain ⟨⟨fraction, tail⟩, split⟩ : ∃ parts, splitFraction (body.dropWhile isDigit) = parts :=
      ⟨_, rfl⟩
    rw [readDecimal?_eq rfl rfl split] at value
    split at value
    · cases value
    · rename_i some
      obtain ⟨exponent, read, rfl⟩ := Option.map_eq_some_iff.1 value
      have ending := readExponent?_eq_some.1 read
      refine ⟨_, fraction, exponent, ?_, rfl⟩
      rw [not_and_or] at some
      rcases splitFraction_spec split with ⟨others, after⟩ | ⟨rfl, after⟩
      · have spelled := SpellsDecimal.point some digits others ending
        rwa [← after, parts] at spelled
      · have spelled := SpellsDecimal.whole (some.resolve_right (absurd rfl)) digits ending
        rwa [← after, parts] at spelled
  · rintro ⟨whole, fraction, exponent, spelled, rfl⟩
    cases spelled with
    | whole nonempty digits ending =>
      obtain ⟨taken, dropped⟩ := takeWhile_digits digits fun c => ending.not_digit
      have value := readExponent?_eq_some.2 ending
      rw [readDecimal?_eq taken dropped (splitFraction_eq ending), if_neg (nonempty ·.1), value]
      rfl
    | @point _ _ tail _ nonempty digits others ending =>
      have apart : ∀ c, ('.' :: (fraction ++ tail)).head? = some c → isDigit c = false := by
        intro c first
        cases first
        rfl
      obtain ⟨taken, dropped⟩ := takeWhile_digits digits apart
      obtain ⟨taken', dropped'⟩ := takeWhile_digits others fun c => ending.not_digit
      have split : splitFraction ('.' :: (fraction ++ tail)) = (fraction, tail) :=
        Prod.ext taken' dropped'
      have value := readExponent?_eq_some.2 ending
      have some : ¬ (whole = [] ∧ fraction = []) := fun both => nonempty.elim (· both.1) (· both.2)
      rw [readDecimal?_eq taken dropped split, if_neg some, value]
      rfl

end Fractions

section Names
variable {body : List Char} {negative : Bool} {c : Char}

theorem lower_digit (digit : isDigit c = true) : lower c = c := by
  have small : ¬ (65 ≤ c.toNat ∧ c.toNat ≤ 90) := by
    have bounds := isDigit_bounds.1 digit
    omega
  have plain : ('A' ≤ c && c ≤ 'Z') = false := by
    rw [Bool.and_eq_false_iff, decide_eq_false_iff_not, decide_eq_false_iff_not]
    exact not_and_or.1 small
  simp [lower, plain]

theorem SpellsDecimal.head? {whole fraction : List Char} {exponent : Int}
    (spelled : SpellsDecimal body whole fraction exponent) :
    ∃ c, body.head? = some c ∧ (isDigit c = true ∨ c = '.') := by
  cases spelled with
  | whole nonempty digits =>
    obtain ⟨c, rest, rfl⟩ := List.exists_cons_of_ne_nil nonempty
    exact ⟨c, rfl, .inl (digits c List.mem_cons_self)⟩
  | point _ digits =>
    cases whole with
    | nil => exact ⟨'.', rfl, .inr rfl⟩
    | cons c rest => exact ⟨c, rfl, .inl (digits c List.mem_cons_self)⟩

/-- No decimal fraction is one of the names, which begin with a letter. -/
theorem SpellsDecimal.not_named {whole fraction : List Char} {exponent : Int}
    (spelled : SpellsDecimal body whole fraction exponent) {name : String} (letter : Char)
    (first : name.toList.head? = some letter) (digit : isDigit letter = false)
    (point : letter ≠ '.') : String.ofList (body.map lower) ≠ name := by
  rintro rfl
  obtain ⟨c, head, kind⟩ := spelled.head?
  have same : lower c = letter := by simpa [head] using first
  rcases kind with own | rfl
  · rw [lower_digit own] at same
    simp [← same, own] at digit
  · exact point same.symm

/-- What follows the sign of a number does not begin with another. -/
theorem SpellsMagnitude.head? {x : Binary64} (spelled : SpellsMagnitude negative body x) :
    body.head? ≠ some '-' ∧ body.head? ≠ some '+' := by
  have named : ∀ {name : String}, String.ofList (body.map lower) = name →
      name.toList.head? ≠ some '-' ∧ name.toList.head? ≠ some '+' →
      body.head? ≠ some '-' ∧ body.head? ≠ some '+' := by
    rintro name rfl apart
    simp only [String.toList_ofList, List.head?_map] at apart
    exact ⟨fun first => apart.1 (by rw [first]; rfl), fun first => apart.2 (by rw [first]; rfl)⟩
  cases spelled with
  | infinity name => exact name.elim (named · (by decide)) (named · (by decide))
  | missing name => exact named name (by decide)
  | decimal spelled =>
    obtain ⟨c, head, kind⟩ := spelled.head?
    rw [head]
    refine ⟨fun same => ?_, fun same => ?_⟩ <;>
    · cases same
      revert kind
      decide

/-- A number is read from a text if and only if the text, without the white space around it, spells
it. -/
theorem readBinary64?_eq_some {text : Text} {x : Binary64} :
    readBinary64? text = some x ↔ SpellsBinary64 (prepare text) x := by
  rw [readBinary64?, Option.bind_eq_some_iff]
  constructor
  · rintro ⟨joined, removed, value⟩
    obtain ⟨grouped, rfl⟩ := joinDigits?_eq_some.1 removed
    refine ⟨grouped, _, _, signed_splitSign _, ?_⟩
    dsimp only at value
    split at value
    · cases value
      exact .infinity ‹_›
    · split at value
      · cases value
        exact .missing ‹_›
      · obtain ⟨whole, fraction, exponent, spelled, rfl⟩ := readDecimal?_eq_some.1 value
        exact .decimal spelled
  · rintro ⟨grouped, negative, body, sign, spelled⟩
    refine ⟨_, joinDigits?_eq_some.2 ⟨grouped, rfl⟩, ?_⟩
    rw [sign.splitSign_eq spelled.head?]
    dsimp only
    cases spelled with
    | infinity name => rw [if_pos name]
    | missing name => rw [name]; rfl
    | decimal spelled =>
      have infinite : ¬ (String.ofList (body.map lower) = "inf" ∨
          String.ofList (body.map lower) = "infinity") := by
        rintro (name | name)
        · exact spelled.not_named 'i' rfl rfl (by decide) name
        · exact spelled.not_named 'i' rfl rfl (by decide) name
      have missing : String.ofList (body.map lower) ≠ "nan" :=
        spelled.not_named 'n' rfl rfl (by decide)
      rw [if_neg infinite, if_neg missing]
      exact readDecimal?_eq_some.2 ⟨_, _, _, spelled, rfl⟩

end Names
end SequenceLog.Numeral

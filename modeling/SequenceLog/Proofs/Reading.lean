import Mathlib.Data.List.Forall2
import SequenceLog.Json.Reader
import SequenceLog.Json.Writer
/-! Reading back what was written. A text stands for a value when a reader gets the value from it and
goes on behind it; the fuel that this takes is bounded by the length of the text, so that what was
written part by part is read part by part. Main statements: `Value.Portable.written` and
`Value.Portable.written_or_tooDeep`. -/
namespace SequenceLog

/-- A text without surrogates. -/
def Text.IsProper (t : Text) : Prop :=
  ∀ c ∈ t.points, c.isHighSurrogate = false ∧ c.isLowSurrogate = false

instance (t : Text) : Decidable t.IsProper :=
  inferInstanceAs
    (Decidable (∀ c ∈ t.points, c.isHighSurrogate = false ∧ c.isLowSurrogate = false))

namespace CodePoint

theorem val_toChar {c : CodePoint} (high : c.isHighSurrogate = false)
    (low : c.isLowSurrogate = false) : c.toChar.toNat = c.val := by
  have range := c.inRange
  have valid : c.val.isValidChar := by
    rw [← Bool.not_eq_true, isHighSurrogate_iff] at high
    rw [← Bool.not_eq_true, isLowSurrogate_iff] at low
    simp only [Nat.isValidChar]
    omega
  have plain : c.toChar = Char.ofNat c.val := by simp [toChar, high, low]
  rw [plain, Char.ofNat, dif_pos valid]
  rfl

theorem ofChar_toChar {c : CodePoint} (high : c.isHighSurrogate = false)
    (low : c.isLowSurrogate = false) : ofChar c.toChar = c := by
  cases c
  simp only [ofChar, mk.injEq]
  exact val_toChar high low

end CodePoint

namespace Text

theorem hexDigitValue?_hexDigit (n : Nat) : hexDigitValue? (hexDigit n) = some (n % 16) := by
  have every : ∀ d < 16, hexDigitValue? (Nat.digitChar d) = some d := by decide
  exact every _ (Nat.mod_lt _ (by decide))

theorem hexValue?_hexDigits (width n : Nat) :
    hexValue? (hexDigits width n) = some (n % Nat.pow 16 width) := by
  induction width generalizing n with
  | zero => simp [hexValue?, hexDigits, Nat.mod_one]
  | succ width ih =>
    have shorter : List.foldlM (fun n c => (hexDigitValue? c).map (16 * n + ·)) 0
        (hexDigits width (n / 16)) = some (n / 16 % Nat.pow 16 width) := ih (n / 16)
    have power : Nat.pow 16 (width + 1) = 16 * Nat.pow 16 width := Nat.mul_comm ..
    have split : 16 * (n / 16 % Nat.pow 16 width) + n % 16 = n % Nat.pow 16 (width + 1) := by
      rw [power, Nat.mod_mul, Nat.add_comm]
    generalize Nat.pow 16 width = before at shorter split
    generalize Nat.pow 16 (width + 1) = all at split ⊢
    simp [hexValue?, hexDigits, List.foldlM_append, shorter, hexDigitValue?_hexDigit, split]

end Text

namespace Json

theorem readText_unicodeEscape (done : List CodePoint) (c : CodePoint) (small : c.val < 0x10000)
    (rest : List Char) :
    readText done (unicodeEscape c.val ++ rest) = readText (addEscaped done c) rest := by
  have read : Text.hexValue? (Text.hexDigits 4 c.val) = some c.val := by
    rw [Text.hexValue?_hexDigits]
    exact congrArg some (Nat.mod_eq_of_lt small)
  have escaped : Text.hexDigits 4 c.val =
      [Text.hexDigit (c.val / 16 / 16 / 16), Text.hexDigit (c.val / 16 / 16),
        Text.hexDigit (c.val / 16), Text.hexDigit c.val] := rfl
  rw [escaped] at read
  simp only [unicodeEscape, escaped, List.cons_append, List.nil_append, readText, escaped?, read,
    Option.bind_some, dif_pos c.inRange]

theorem addEscaped_of_not_low (done : List CodePoint) {c : CodePoint}
    (low : c.isLowSurrogate = false) : addEscaped done c = c :: done := by
  cases done with
  | nil => rfl
  | cons last before => simp [addEscaped, joined?, low]

/-- Two surrogates are read back as the one code point that they stand for. -/
theorem addEscaped_pair (done : List CodePoint) {c high low : CodePoint} (large : 0x10000 ≤ c.val)
    (first : high.val = 0xD800 + (c.val - 0x10000) / 0x400)
    (second : low.val = 0xDC00 + (c.val - 0x10000) % 0x400) :
    addEscaped (addEscaped done high) low = c :: done := by
  have range := c.inRange
  have isHigh : high.isHighSurrogate = true := CodePoint.isHighSurrogate_iff.2 (by omega)
  have isLow : low.isLowSurrogate = true := CodePoint.isLowSurrogate_iff.2 (by omega)
  have notLow : high.isLowSurrogate = false := by
    rw [← Bool.not_eq_true, CodePoint.isLowSurrogate_iff]
    omega
  have joined : joined? high low = some c := by
    rw [joined?, dif_pos ⟨isHigh, isLow⟩]
    cases c
    simp only [Option.some.injEq, CodePoint.mk.injEq]
    simp only at first second large
    omega
  rw [addEscaped_of_not_low done notLow]
  simp only [addEscaped, joined]

theorem readText_plain (done : List CodePoint) {c : Char} (quote : c ≠ '"') (backslash : c ≠ '\\')
    (printed : 0x20 ≤ c.toNat) (rest : List Char) :
    readText done (c :: rest) = readText (.ofChar c :: done) rest := by
  rw [readText.eq_def]
  split
  · rename_i no
    cases no
  · rename_i same
    cases same
    exact absurd rfl quote
  · rename_i same
    cases same
    exact absurd rfl backslash
  · rename_i same
    cases same
    exact absurd rfl backslash
  · rename_i same
    cases same
    rw [if_neg (Nat.not_lt.2 printed)]

theorem readText_escape (done : List CodePoint) {c : CodePoint} (high : c.isHighSurrogate = false)
    (low : c.isLowSurrogate = false) (rest : List Char) :
    readText done (escape c ++ rest) = readText (c :: done) rest := by
  have range := c.inRange
  -- first the escapes with a letter, then what stands for itself, then those with a number
  unfold escape
  split
  · rename_i marked
    rcases marked with rfl | rfl <;> rfl
  split
  · rename_i same
    subst same
    rfl
  split
  · rename_i same
    subst same
    rfl
  split
  · rename_i same
    subst same
    rfl
  split
  · rename_i same
    subst same
    rfl
  split
  · rename_i same
    subst same
    rfl
  split
  · rename_i marked _ _ _ _ _ printed
    have back := CodePoint.ofChar_toChar high low
    have quote : c.toChar ≠ '"' := fun same => marked (.inl (same ▸ back.symm))
    have backslash : c.toChar ≠ '\\' := fun same => marked (.inr (same ▸ back.symm))
    have seen : 0x20 ≤ c.toChar.toNat := (CodePoint.val_toChar high low).symm ▸ printed.1
    rw [List.singleton_append, readText_plain done quote backslash seen, back]
  split
  · rename_i small
    rw [readText_unicodeEscape done c small, addEscaped_of_not_low done low]
  · rename_i large
    let first : CodePoint := ⟨0xD800 + (c.val - 0x10000) / 0x400, by omega⟩
    let second : CodePoint := ⟨0xDC00 + (c.val - 0x10000) % 0x400, by omega⟩
    rw [List.append_assoc]
    refine (readText_unicodeEscape done first (by simp only [first]; omega) _).trans ?_
    refine (readText_unicodeEscape _ second (by simp only [second]; omega) _).trans ?_
    have firstVal : first.val = 0xD800 + (c.val - 0x10000) / 0x400 := rfl
    have secondVal : second.val = 0xDC00 + (c.val - 0x10000) % 0x400 := rfl
    rw [addEscaped_pair done (Nat.le_of_not_lt large) firstVal secondVal]

/-- A text is read back up to its closing quote. -/
theorem readText_written {points : List CodePoint} (proper : Text.IsProper ⟨points⟩)
    (done : List CodePoint) (rest : List Char) :
    readText done (points.flatMap escape ++ '"' :: rest) =
      some (⟨done.reverse ++ points⟩, rest) := by
  induction points generalizing done with
  | nil => simp [readText]
  | cons c points ih =>
    obtain ⟨⟨high, low⟩, others⟩ := List.forall_mem_cons.1 proper
    rw [List.flatMap_cons, List.append_assoc, readText_escape done high low, ih others]
    simp

/-- What may stand after a value: nothing, or what separates or closes. -/
def Delimited (rest : List Char) : Prop := ∀ c ∈ rest.head?, c = ',' ∨ c = ']' ∨ c = '}'

theorem isDigit_of_mem_writeNat {n : Nat} {c : Char} (member : c ∈ writeNat n) :
    Numeral.isDigit c = true := by
  have digit := Nat.isDigit_of_mem_toDigits (by decide) (by decide) member
  simpa [Char.isDigit, Numeral.isDigit, Char.le_def] using digit

theorem readDigits?_written (n : Nat) {rest : List Char}
    (ends : ∀ c ∈ rest.head?, Numeral.isDigit c = false) :
    readDigits? (writeNat n ++ rest) = some (writeNat n, rest) := by
  have digits : ∀ c ∈ writeNat n, Numeral.isDigit c = true := fun _ => isDigit_of_mem_writeNat
  have stop : rest.takeWhile Numeral.isDigit = [] ∧ rest.dropWhile Numeral.isDigit = rest := by
    cases rest with
    | nil => exact ⟨rfl, rfl⟩
    | cons c rest => simp [ends c rfl]
  rw [readDigits?, List.takeWhile_append_of_pos digits, List.dropWhile_append_of_pos digits,
    stop.1, stop.2, List.append_nil, if_neg (show writeNat n ≠ [] from Nat.toDigits_ne_nil)]

theorem head?_writeNat {n : Nat} (positive : 0 < n) : (writeNat n).head? ≠ some '0' := by
  induction n using Nat.strongRecOn with
  | ind n ih =>
    rcases Nat.lt_or_ge n 10 with small | large
    · have every : ∀ d < 10, 0 < d → [Nat.digitChar d].head? ≠ some '0' := by decide
      rw [writeNat, Nat.toDigits_of_lt_base small]
      exact every n small positive
    · have front := ih (n / 10) (by omega) (by omega)
      rw [writeNat, Nat.toDigits_of_base_le (by decide) large, List.head?_append]
      unfold writeNat at front
      cases digits : Nat.toDigits 10 (n / 10) with
      | nil => exact absurd digits Nat.toDigits_ne_nil
      | cons d ds => simpa [digits] using front

theorem readWhole?_written (n : Nat) {rest : List Char}
    (ends : ∀ c ∈ rest.head?, Numeral.isDigit c = false) :
    readWhole? (writeNat n ++ rest) = some (writeNat n, rest) := by
  rw [readWhole?, readDigits?_written n ends, Option.filter_some, if_pos]
  rcases Nat.eq_zero_or_pos n with rfl | positive
  · rfl
  · simp [head?_writeNat positive]

theorem readUnsigned?_written (negative : Bool) (n : Nat) {rest : List Char}
    (ends : Delimited rest) :
    readUnsigned? negative (writeNat n ++ rest) =
      some (.int (if negative then -n else n), rest) := by
  have apart : ∀ c ∈ rest.head?, Numeral.isDigit c = false ∧ c ≠ '.' ∧ c ≠ 'e' ∧ c ≠ 'E' := by
    intro c first
    rcases ends c first with rfl | rfl | rfl <;> decide
  have fraction : readFraction? rest = some (none, rest) := by
    unfold readFraction?
    split
    · exact absurd rfl (apart '.' rfl).2.1
    · rfl
  have exponent : readExponent? rest = some (none, rest) := by
    cases rest with
    | nil => rfl
    | cons c rest => simp [readExponent?, (apart c rfl).2.2]
  have size : Numeral.valueOf (writeNat n) = n :=
    Nat.ofDigitChars_toDigits (by decide) (by decide)
  simp [readUnsigned?, readWhole?_written n fun c first => (apart c first).1, fraction, exponent,
    numberOf, size]

/-- The text stands for the value: a reader gets the value, and goes on behind the text. -/
structure Reads (text : List Char) (value : Value) : Prop where
  opens : ∃ first more, text = first :: more ∧ isSpace first = false ∧ first ≠ ']'
  back : ∀ fuel rest, 3 * text.length ≤ fuel → Delimited rest →
    readValue fuel (text ++ rest) = some (value, rest)

theorem skipSpace_cons {c : Char} (visible : isSpace c = false) (rest : List Char) :
    skipSpace (c :: rest) = c :: rest := by
  simp [skipSpace, visible]

/-- A text that begins neither a text nor a container is that of a word or a number. -/
theorem readValue_scalar (fuel : Nat) {c : Char} {rest : List Char} (visible : isSpace c = false)
    (text : c ≠ '"') (list : c ≠ '[') (mapping : c ≠ '{') :
    readValue (fuel + 1) (c :: rest) = (readWord? (c :: rest)).or (readNumber? (c :: rest)) := by
  rw [readValue, skipSpace_cons visible]
  split
  · rename_i same
    cases same
    exact absurd rfl text
  · rename_i same
    cases same
    exact absurd rfl list
  · rename_i same
    cases same
    exact absurd rfl mapping
  · rfl

theorem succ_of_length {fuel : Nat} {first : Char} {more : List Char}
    (enough : 3 * (first :: more).length ≤ fuel) : ∃ left, fuel = left + 1 :=
  ⟨fuel - 1, by simp at enough; omega⟩

theorem reads_null : Reads writeNull .null where
  opens := ⟨_, _, rfl, by decide, by decide⟩
  back fuel rest enough _ := by
    obtain ⟨left, rfl⟩ := succ_of_length enough
    exact readValue_scalar left (by decide) (by decide) (by decide) (by decide)

theorem reads_bool (b : Bool) : Reads (writeBool b) (.bool b) := by
  cases b
  all_goals
    refine ⟨⟨_, _, rfl, by decide, by decide⟩, fun fuel rest enough _ => ?_⟩
    obtain ⟨left, rfl⟩ := succ_of_length enough
    exact readValue_scalar left (by decide) (by decide) (by decide) (by decide)

theorem readWord?_of_digit {c : Char} (digit : Numeral.isDigit c = true) (rest : List Char) :
    readWord? (c :: rest) = none ∧ readWord? ('-' :: c :: rest) = none := by
  have other : c ≠ 'n' ∧ c ≠ 't' ∧ c ≠ 'f' ∧ c ≠ 'N' ∧ c ≠ 'I' ∧ c ≠ '-' := by
    refine ⟨?_, ?_, ?_, ?_, ?_, ?_⟩ <;> rintro rfl <;> revert digit <;> decide
  simp [readWord?, words, List.isPrefixOf, other, Ne.symm]

theorem reads_natural (n : Nat) : Reads (writeNat n) (.int n) := by
  cases digits : writeNat n with
  | nil => exact absurd digits Nat.toDigits_ne_nil
  | cons d ds =>
    have digit : Numeral.isDigit d = true :=
      isDigit_of_mem_writeNat (digits ▸ List.mem_cons_self)
    have other : isSpace d = false ∧ d ≠ '"' ∧ d ≠ '[' ∧ d ≠ '{' ∧ d ≠ ']' ∧ d ≠ '-' := by
      refine ⟨?_, ?_, ?_, ?_, ?_, ?_⟩
      · rw [← Bool.not_eq_true]
        intro space
        simp only [isSpace, Bool.or_eq_true, beq_iff_eq] at space
        rcases space with ((rfl | rfl) | rfl) | rfl <;> revert digit <;> decide
      all_goals
        rintro rfl
        revert digit
        decide
    obtain ⟨visible, text, list, mapping, closing, minus⟩ := other
    refine ⟨⟨d, ds, rfl, visible, closing⟩, fun fuel rest enough ends => ?_⟩
    obtain ⟨left, rfl⟩ := succ_of_length enough
    have number : readNumber? (d :: (ds ++ rest)) = readUnsigned? false (d :: (ds ++ rest)) := by
      unfold readNumber?
      split
      · rename_i same
        cases same
        exact absurd rfl minus
      · rfl
    rw [List.cons_append, readValue_scalar left visible text list mapping,
      (readWord?_of_digit digit _).1, Option.none_or, number, ← List.cons_append, ← digits,
      readUnsigned?_written false n ends]
    rfl

theorem reads_negative (n : Nat) : Reads ('-' :: writeNat n) (.int (-n)) := by
  refine ⟨⟨_, _, rfl, by decide, by decide⟩, fun fuel rest enough ends => ?_⟩
  obtain ⟨left, rfl⟩ := succ_of_length enough
  have word : readWord? ('-' :: (writeNat n ++ rest)) = none := by
    cases digits : writeNat n with
    | nil => exact absurd digits Nat.toDigits_ne_nil
    | cons d ds =>
      have digit : Numeral.isDigit d = true :=
      isDigit_of_mem_writeNat (digits ▸ List.mem_cons_self)
      exact (readWord?_of_digit digit _).2
  rw [List.cons_append,
    readValue_scalar left (by decide) (by decide) (by decide) (by decide), word, Option.none_or,
    readNumber?, readUnsigned?_written true n ends]
  rfl

theorem reads_int (n : Int) : Reads ((if n < 0 then ['-'] else []) ++ writeNat n.natAbs) (.int n) := by
  rcases Int.lt_or_le n 0 with negative | natural
  · have same : -(n.natAbs : Int) = n := by omega
    rw [if_pos negative, List.singleton_append]
    have reads := reads_negative n.natAbs
    rwa [same] at reads
  · have same : (n.natAbs : Int) = n := by omega
    rw [if_neg (Int.not_lt.2 natural), List.nil_append]
    have reads := reads_natural n.natAbs
    rwa [same] at reads

theorem readText_writeText {t : Text} (proper : t.IsProper) (rest : List Char) :
    ∃ body, writeText t = '"' :: body ∧ readText [] (body ++ rest) = some (t, rest) := by
  refine ⟨t.points.flatMap escape ++ ['"'], rfl, ?_⟩
  rw [List.append_assoc]
  exact readText_written proper [] rest

theorem reads_text {t : Text} (proper : t.IsProper) : Reads (writeText t) (.text t) where
  opens := ⟨_, _, rfl, by decide, by decide⟩
  back fuel rest enough _ := by
    obtain ⟨left, rfl⟩ := succ_of_length enough
    obtain ⟨body, written, back⟩ := readText_writeText proper rest
    rw [written, List.cons_append, readValue, skipSpace_cons (by decide)]
    simp only [back, Option.map_some]

/-- The text stands for the entry of a mapping. -/
structure ReadsEntry (text : List Char) (entry : Value × Value) : Prop where
  opens : ∃ more, text = '"' :: more
  back : ∀ fuel rest, 3 * text.length ≤ fuel → Delimited rest →
    readEntry fuel (text ++ rest) = some (entry, rest)

theorem delimited_comma (rest : List Char) : Delimited (',' :: rest) := fun _ first => by
  cases first; exact .inl rfl

theorem delimited_bracket (rest : List Char) : Delimited (']' :: rest) := fun _ first => by
  cases first; exact .inr (.inl rfl)

theorem delimited_brace (rest : List Char) : Delimited ('}' :: rest) := fun _ first => by
  cases first; exact .inr (.inr rfl)

theorem reads_entry {key : Text} {text : List Char} {value : Value} (proper : key.IsProper)
    (reads : Reads text value) :
    ReadsEntry (writeText key ++ compact.colon ++ text) (.text key, value) where
  opens := ⟨_, rfl⟩
  back fuel rest enough ends := by
    obtain ⟨body, written, back⟩ := readText_writeText proper (':' :: (text ++ rest))
    have regrouped : writeText key ++ compact.colon ++ text ++ rest =
        '"' :: (body ++ ':' :: (text ++ rest)) := by simp [written, compact]
    have length : 3 * text.length + 1 ≤ fuel := by
      simp only [List.length_append] at enough
      have : compact.colon.length = 1 := rfl
      omega
    obtain ⟨left, rfl⟩ : ∃ left, fuel = left + 1 := ⟨fuel - 1, by omega⟩
    rw [regrouped, readEntry]
    simp [back, skipSpace_cons (show isSpace ':' = false by decide),
      reads.back left rest (by omega) ends]

theorem readItems_written {texts : List (List Char)} {items : List Value}
    (reads : List.Forall₂ Reads texts items) (nonempty : items ≠ []) (fuel : Nat)
    (rest : List Char) (enough : 3 * (joinItems compact texts).length + 1 ≤ fuel) :
    readItems fuel (joinItems compact texts ++ ']' :: rest) = some (items, rest) := by
  induction reads generalizing fuel with
  | nil => exact absurd rfl nonempty
  | @cons text item texts items first others ih =>
    obtain ⟨left, rfl⟩ : ∃ left, fuel = left + 1 := ⟨fuel - 1, by omega⟩
    cases others with
    | nil =>
      simp only [joinItems] at enough ⊢
      rw [readItems]
      simp [first.back left _ (by omega) (delimited_bracket rest),
        skipSpace_cons (show isSpace ']' = false by decide)]
    | @cons text' item' texts items second others =>
      have split : joinItems compact (text :: text' :: texts) ++ ']' :: rest =
          text ++ ',' :: (joinItems compact (text' :: texts) ++ ']' :: rest) := by
        simp [joinItems, compact]
      have shorter : 3 * (joinItems compact (text' :: texts)).length + 1 ≤ left ∧
          3 * text.length ≤ left := by
        simp only [joinItems, compact, List.length_append, List.length_singleton] at enough ⊢
        omega
      rw [split, readItems]
      simp [first.back left _ shorter.2 (delimited_comma _),
        skipSpace_cons (show isSpace ',' = false by decide), ih (by simp) left shorter.1]

theorem readEntries_written {texts : List (List Char)} {entries : List (Value × Value)}
    (reads : List.Forall₂ ReadsEntry texts entries) (nonempty : entries ≠ []) (fuel : Nat)
    (rest : List Char) (enough : 3 * (joinItems compact texts).length + 1 ≤ fuel) :
    readEntries fuel (joinItems compact texts ++ '}' :: rest) = some (entries, rest) := by
  induction reads generalizing fuel with
  | nil => exact absurd rfl nonempty
  | @cons text entry texts entries first others ih =>
    obtain ⟨left, rfl⟩ : ∃ left, fuel = left + 1 := ⟨fuel - 1, by omega⟩
    obtain ⟨more, opens⟩ := first.opens
    have visible : ∀ tail, skipSpace (text ++ tail) = text ++ tail := fun tail => by
      rw [opens]
      exact skipSpace_cons (by decide) _
    cases others with
    | nil =>
      simp only [joinItems] at enough ⊢
      rw [readEntries, visible]
      simp [first.back left _ (by omega) (delimited_brace rest),
        skipSpace_cons (show isSpace '}' = false by decide)]
    | @cons text' entry' texts entries second others =>
      have split : joinItems compact (text :: text' :: texts) ++ '}' :: rest =
          text ++ ',' :: (joinItems compact (text' :: texts) ++ '}' :: rest) := by
        simp [joinItems, compact]
      have shorter : 3 * (joinItems compact (text' :: texts)).length + 1 ≤ left ∧
          3 * text.length ≤ left := by
        simp only [joinItems, compact, List.length_append, List.length_singleton] at enough ⊢
        omega
      rw [split, readEntries, visible]
      simp [first.back left _ shorter.2 (delimited_comma _),
        skipSpace_cons (show isSpace ',' = false by decide), ih (by simp) left shorter.1]

theorem reads_list {texts : List (List Char)} {items : List Value}
    (reads : List.Forall₂ Reads texts items) : Reads (writeList compact texts) (.list items) where
  opens := ⟨_, _, rfl, by decide, by decide⟩
  back fuel rest enough _ := by
    have regrouped : writeList compact texts ++ rest =
        '[' :: (joinItems compact texts ++ ']' :: rest) := by simp [writeList]
    have length : 3 * (joinItems compact texts).length + 6 ≤ fuel := by
      simp only [writeList, List.length_append, List.length_cons, List.length_nil] at enough
      omega
    obtain ⟨left, rfl⟩ : ∃ left, fuel = left + 2 := ⟨fuel - 2, by omega⟩
    rw [regrouped, readValue, skipSpace_cons (by decide)]
    cases reads with
    | nil => simp [joinItems, skipSpace_cons (show isSpace ']' = false by decide), readList]
    | @cons text item texts items first others =>
      have back := readItems_written (.cons first others) (by simp) left rest (by omega)
      obtain ⟨c, more, opens, visible, closing⟩ := first.opens
      obtain ⟨tail, joined⟩ : ∃ tail, joinItems compact (text :: texts) ++ ']' :: rest =
          c :: tail := by
        cases texts <;> simp [joinItems, opens]
      rw [joined] at back ⊢
      have listed : readList (left + 1) (c :: tail) = readItems left (c :: tail) := by
        rw [readList]
        rintro more same
        cases same
        exact closing rfl
      simp [skipSpace_cons visible, listed, back]

namespace Value

/-- Keys that are texts are the same only where they are equal. -/
theorem setEntry_new {name : Text} {value : Value} {done : List (Value × Value)}
    (texts : ∀ entry ∈ done, ∃ other : Text, entry.1 = .text other ∧ other ≠ name) :
    setEntry (.text name) value done = done ++ [(.text name, value)] := by
  induction done with
  | nil => rfl
  | cons entry done ih =>
    obtain ⟨key, old⟩ := entry
    obtain ⟨⟨other, rfl, different⟩, rest⟩ := List.forall_mem_cons.1 texts
    simp [setEntry, same, different, ih rest]

/-- A mapping is made from its entries where their keys are different texts. -/
theorem ofEntries_distinct {entries : List (Value × Value)}
    (texts : ∀ entry ∈ entries, ∃ name : Text, entry.1 = .text name)
    (distinct : (entries.map (·.1)).Nodup) : ofEntries entries = .mapping entries := by
  suffices onto : ∀ done : List (Value × Value),
      (∀ entry ∈ done ++ entries, ∃ name : Text, entry.1 = .text name) →
      ((done ++ entries).map (·.1)).Nodup →
      entries.foldl (fun done entry => setEntry entry.1 entry.2 done) done = done ++ entries by
    exact congrArg mapping (onto [] texts distinct)
  clear texts distinct
  induction entries with
  | nil => simp
  | cons entry entries ih =>
    intro done texts distinct
    obtain ⟨key, value⟩ := entry
    obtain ⟨name, rfl⟩ : ∃ name : Text, key = .text name := texts (key, value) (by simp)
    have fresh : ∀ entry ∈ done, ∃ other : Text, entry.1 = .text other ∧ other ≠ name := by
      intro entry member
      obtain ⟨other, isText⟩ := texts entry (List.mem_append_left _ member)
      refine ⟨other, isText, ?_⟩
      rintro rfl
      rw [List.map_append, List.nodup_append] at distinct
      exact distinct.2.2 entry.1 (List.mem_map_of_mem member) (.text other) (by simp) isText
    have regrouped : done ++ (.text name, value) :: entries =
        done ++ [(.text name, value)] ++ entries := by simp
    rw [regrouped] at texts distinct
    rw [List.foldl_cons, regrouped, ← ih _ texts distinct]
    exact congrArg (List.foldl _ · entries) (setEntry_new fresh)

end Value

theorem reads_mapping {texts : List (List Char)} {entries : List (Value × Value)}
    (reads : List.Forall₂ ReadsEntry texts entries)
    (keys : ∀ entry ∈ entries, ∃ name : Text, entry.1 = .text name)
    (distinct : (entries.map (·.1)).Nodup) :
    Reads (writeMapping compact texts) (.mapping entries) where
  opens := ⟨_, _, rfl, by decide, by decide⟩
  back fuel rest enough _ := by
    have regrouped : writeMapping compact texts ++ rest =
        '{' :: (joinItems compact texts ++ '}' :: rest) := by simp [writeMapping]
    have length : 3 * (joinItems compact texts).length + 6 ≤ fuel := by
      simp only [writeMapping, List.length_append, List.length_cons, List.length_nil] at enough
      omega
    obtain ⟨left, rfl⟩ : ∃ left, fuel = left + 2 := ⟨fuel - 2, by omega⟩
    rw [regrouped, readValue, skipSpace_cons (by decide), ← Value.ofEntries_distinct keys distinct]
    cases reads with
    | nil => simp [joinItems, skipSpace_cons (show isSpace '}' = false by decide), readMapping]
    | @cons text entry texts entries first others =>
      have back := readEntries_written (.cons first others) (by simp) left rest (by omega)
      obtain ⟨more, opens⟩ := first.opens
      obtain ⟨tail, joined⟩ : ∃ tail, joinItems compact (text :: texts) ++ '}' :: rest =
          '"' :: tail := by
        cases texts <;> simp [joinItems, opens]
      rw [joined] at back ⊢
      simp [skipSpace_cons (show isSpace '"' = false by decide), readMapping, back]

/-- A value that JSON carries as it is, with containers nested at most so deep: null, truth values,
integers that are not too long, texts without surrogates, and lists and mappings of such values, the
keys of a mapping being different texts. -/
inductive Value.Portable : (depth : Nat) → Value → Prop
  | null {depth} : Portable depth .null
  | bool {depth} (b : Bool) : Portable depth (.bool b)
  | int {depth} {n : Int} : n.natAbs < Nat.pow 10 Numeral.digitLimit → Portable depth (.int n)
  | text {depth} {t : Text} : t.IsProper → Portable depth (.text t)
  | list {depth items} : (∀ item ∈ items, Portable depth item) → Portable (depth + 1) (.list items)
  | mapping {depth entries} :
      (∀ entry ∈ entries, ∃ name : Text, entry.1 = .text name ∧ name.IsProper) →
      (entries.map (·.1)).Nodup → (∀ entry ∈ entries, Portable depth entry.2) →
      Portable (depth + 1) (.mapping entries)

/-- What is written where the values are. -/
theorem writeItems_written {stack : Stack} {items : List Value}
    (written : ∀ item ∈ items, ∃ text, write compact stack item = .ok text ∧ Reads text item) :
    ∃ texts, writeItems compact stack items = .ok texts ∧ List.Forall₂ Reads texts items := by
  induction items with
  | nil => exact ⟨[], rfl, .nil⟩
  | cons item items ih =>
    obtain ⟨⟨text, first, reads⟩, others⟩ := List.forall_mem_cons.1 written
    obtain ⟨texts, rest, all⟩ := ih others
    refine ⟨text :: texts, ?_, .cons reads all⟩
    rw [writeItems, first, rest]
    rfl

theorem writeEntries_written {stack : Stack} {entries : List (Value × Value)}
    (keys : ∀ entry ∈ entries, ∃ name : Text, entry.1 = .text name ∧ name.IsProper)
    (written : ∀ entry ∈ entries, ∃ text,
      write compact stack entry.2 = .ok text ∧ Reads text entry.2) :
    ∃ texts, writeEntries compact stack entries = .ok texts ∧
      List.Forall₂ ReadsEntry texts entries := by
  induction entries with
  | nil => exact ⟨[], rfl, .nil⟩
  | cons entry entries ih =>
    obtain ⟨key, value⟩ := entry
    obtain ⟨⟨name, rfl, proper⟩, names⟩ := List.forall_mem_cons.1 keys
    obtain ⟨⟨text, first, reads⟩, others⟩ := List.forall_mem_cons.1 written
    obtain ⟨texts, rest, all⟩ := ih names others
    refine ⟨_ :: texts, ?_, .cons (reads_entry proper reads) all⟩
    rw [writeEntries, writeEntry, rest]
    simp only at first
    rw [first]
    rfl

/-- A portable value is written where there is room for its containers, and read back. -/
theorem Value.Portable.written {room : Nat} {value : Value} (portable : value.Portable room)
    (stack : Stack) : ∃ text, write compact (stack.left room) value = .ok text ∧ Reads text value := by
  induction portable with
  | null => exact ⟨_, rfl, reads_null⟩
  | bool b => exact ⟨_, rfl, reads_bool b⟩
  | @int depth n short =>
    refine ⟨_, ?_, reads_int n⟩
    rw [write, writeInt, if_neg (Nat.not_le.2 short), Stack.settle_ok]
  | text proper => exact ⟨_, rfl, reads_text proper⟩
  | list _ ih =>
    obtain ⟨texts, all, reads⟩ := writeItems_written ih
    refine ⟨_, ?_, reads_list reads⟩
    rw [write, Stack.deeper_left_succ, all]
    rfl
  | mapping keys distinct _ ih =>
    obtain ⟨texts, all, reads⟩ := writeEntries_written keys ih
    refine ⟨_, ?_, reads_mapping reads (fun entry member => (keys entry member).imp fun _ => And.left)
      distinct⟩
    rw [write, Stack.deeper_left_succ, all]
    rfl

section TooDeep
variable {stack : Stack} {room : Nat}

/-- Where an item has no room nothing is written. -/
theorem writeItems_tooDeep {items : List Value} (each : ∀ item ∈ items,
      item.Portable room ∨ write compact (stack.left room) item = .error .tooDeep) :
    (∀ item ∈ items, item.Portable room) ∨
      writeItems compact (stack.left room) items = .error .tooDeep := by
  induction items with
  | nil => exact .inl fun _ member => by cases member
  | cons item items ih =>
    obtain ⟨first, others⟩ := List.forall_mem_cons.1 each
    rcases first with fits | deep
    · rcases ih others with fit | deep
      · exact .inl (List.forall_mem_cons.2 ⟨fits, fit⟩)
      · obtain ⟨text, written, -⟩ := fits.written stack
        exact .inr (by rw [writeItems, written, deep]; rfl)
    · exact .inr (by rw [writeItems, deep]; rfl)

theorem writeEntries_tooDeep {entries : List (Value × Value)}
    (keys : ∀ entry ∈ entries, ∃ name : Text, entry.1 = .text name ∧ name.IsProper)
    (each : ∀ entry ∈ entries,
      entry.2.Portable room ∨ write compact (stack.left room) entry.2 = .error .tooDeep) :
    (∀ entry ∈ entries, entry.2.Portable room) ∨
      writeEntries compact (stack.left room) entries = .error .tooDeep := by
  induction entries with
  | nil => exact .inl fun _ member => by cases member
  | cons entry entries ih =>
    obtain ⟨key, value⟩ := entry
    obtain ⟨⟨name, rfl, proper⟩, names⟩ := List.forall_mem_cons.1 keys
    obtain ⟨first, others⟩ := List.forall_mem_cons.1 each
    have own : (stack.left room).settle (writeKey (.text name)) = .ok (writeText name) := rfl
    rcases first with fits | deep
    · rcases ih names others with fit | deep
      · exact .inl (List.forall_mem_cons.2 ⟨fits, fit⟩)
      · obtain ⟨text, written, -⟩ := fits.written stack
        simp only at written
        exact .inr (by rw [writeEntries, writeEntry, own, written, deep]; rfl)
    · simp only at deep
      exact .inr (by rw [writeEntries, writeEntry, own, deep]; rfl)

/-- A value that would be portable with more room fails for want of room, and for nothing else. -/
theorem Value.Portable.written_or_tooDeep {depth : Nat} {value : Value}
    (portable : value.Portable depth) (stack : Stack) (room : Nat) :
    value.Portable room ∨ write compact (stack.left room) value = .error .tooDeep := by
  induction portable generalizing room with
  | null => exact .inl .null
  | bool b => exact .inl (.bool b)
  | int short => exact .inl (.int short)
  | text proper => exact .inl (.text proper)
  | list _ ih =>
    cases room with
    | zero => exact .inr rfl
    | succ room =>
      rcases writeItems_tooDeep fun item member => ih item member room with fit | deep
      · exact .inl (.list fit)
      · exact .inr (by rw [write, Stack.deeper_left_succ, deep]; rfl)
  | mapping keys distinct _ ih =>
    cases room with
    | zero => exact .inr rfl
    | succ room =>
      rcases writeEntries_tooDeep keys fun entry member => ih entry member room with fit | deep
      · exact .inl (.mapping keys distinct fit)
      · exact .inr (by rw [write, Stack.deeper_left_succ, deep]; rfl)

end TooDeep

end Json
end SequenceLog

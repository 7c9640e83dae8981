import SequenceLog.Proofs.Obstacle
/-! What is written consists of printable ASCII. Every character of a text is either printed as it is or
escaped, words and numbers are made of printed characters, and so is what stands between the items of a
container as long as the layout has it so. So whatever a record says, its message is one line. Main
statement: `message_is_one_line`. -/
namespace SequenceLog
open Json

/-- A character between the space and the tilde: no control character, no line break, and nothing
outside ASCII. -/
def IsPrinted (c : Char) : Prop := 0x20 ≤ c.toNat ∧ c.toNat ≤ 0x7E

instance : DecidablePred IsPrinted := fun c =>
  inferInstanceAs (Decidable (0x20 ≤ c.toNat ∧ c.toNat ≤ 0x7E))

/-- A piece of text with printed characters only. -/
def Legible (chars : List Char) : Prop := ∀ c ∈ chars, IsPrinted c

instance (chars : List Char) : Decidable (Legible chars) := List.decidableBAll IsPrinted chars

namespace Legible
variable {c : Char} {chars front back : List Char}

@[simp] theorem nil : Legible [] := fun _ member => by cases member

@[simp] theorem cons_iff : Legible (c :: chars) ↔ IsPrinted c ∧ Legible chars :=
  List.forall_mem_cons

@[simp] theorem append_iff : Legible (front ++ back) ↔ Legible front ∧ Legible back :=
  List.forall_mem_append

theorem sublist (legible : Legible back) (part : front.Sublist back) : Legible front :=
  fun c member => legible c (part.subset member)

theorem replicate (n : Nat) (printed : IsPrinted c) : Legible (List.replicate n c) := by
  intro d member
  rw [List.eq_of_mem_replicate member]
  exact printed

theorem flatMap {α : Type} {items : List α} {write : α → List Char}
    (each : ∀ item, Legible (write item)) : Legible (items.flatMap write) := by
  intro c member
  obtain ⟨item, -, inside⟩ := List.mem_flatMap.1 member
  exact each item c inside

/-- Digits of a base up to sixteen. -/
theorem digitChar {n : Nat} (small : n < 16) : IsPrinted (Nat.digitChar n) := by
  have every : ∀ n < 16, IsPrinted (Nat.digitChar n) := by decide
  exact every n small

theorem toDigits (n : Nat) : Legible (Nat.toDigits 10 n) := by
  intro c member
  have digit := Nat.isDigit_of_mem_toDigits (by decide) (by decide) member
  simp only [Char.isDigit, Bool.and_eq_true, decide_eq_true_eq] at digit
  have low : '0'.toNat ≤ c.toNat := digit.1
  have high : c.toNat ≤ '9'.toNat := digit.2
  exact ⟨Nat.le_trans (by decide) low, Nat.le_trans high (by decide)⟩

theorem hexDigits (width n : Nat) : Legible (Text.hexDigits width n) := by
  induction width generalizing n with
  | zero => exact nil
  | succ width ih =>
    rw [Text.hexDigits, append_iff, cons_iff]
    exact ⟨ih _, digitChar (Nat.mod_lt _ (by decide)), nil⟩

end Legible

/-- A text whose code points all lie between the space and the tilde. -/
def Text.IsLine (t : Text) : Prop := ∀ c ∈ t.points, 0x20 ≤ c.val ∧ c.val ≤ 0x7E

instance (t : Text) : Decidable t.IsLine :=
  inferInstanceAs (Decidable (∀ c ∈ t.points, 0x20 ≤ c.val ∧ c.val ≤ 0x7E))

theorem Legible.isLine {chars : List Char} (legible : Legible chars) :
    (Text.ofChars chars).IsLine := by
  intro point member
  rw [Text.points_ofChars] at member
  obtain ⟨c, inside, rfl⟩ := List.mem_map.1 member
  exact legible c inside

namespace Binary64

theorem legible_exponentText (exponent : Int) : Legible (exponentText exponent) := by
  have digits := Legible.toDigits exponent.natAbs
  have zero : IsPrinted '0' := by decide
  have sign : IsPrinted (if exponent < 0 then '-' else '+') := by split <;> decide
  simp only [exponentText, Legible.cons_iff]
  refine ⟨sign, ?_⟩
  split
  · exact Legible.cons_iff.2 ⟨zero, digits⟩
  · exact digits

/-- Digits, a point and an exponent, wherever the point comes to stand. -/
theorem legible_layout (d : Decimal) : Legible (layout d) := by
  have digits := Legible.toDigits d.digits
  have zero : IsPrinted '0' := by decide
  have point : IsPrinted '.' := by decide
  have mark : IsPrinted 'e' := by decide
  simp only [layout]
  split
  · cases all : Nat.toDigits 10 d.digits with
    | nil => exact Legible.nil
    | cons lead rest =>
      rw [all, Legible.cons_iff] at digits
      have mantissa : Legible (if rest = [] then [lead] else lead :: '.' :: rest) := by
        split <;> simp [digits, point]
      exact Legible.append_iff.2 ⟨mantissa, Legible.cons_iff.2 ⟨mark, legible_exponentText _⟩⟩
  split
  · simp [zero, point, digits, Legible.replicate]
  · have padded : Legible (Nat.toDigits 10 d.digits ++
        List.replicate (d.point.toNat - (Nat.toDigits 10 d.digits).length) '0') :=
      Legible.append_iff.2 ⟨digits, Legible.replicate _ zero⟩
    refine Legible.append_iff.2 ⟨padded.sublist (List.take_sublist ..), ?_⟩
    refine Legible.cons_iff.2 ⟨point, ?_⟩
    split
    · simp [zero]
    · exact padded.sublist (List.drop_sublist ..)

/-- A number is legible in every style in which the words for what is not finite are. -/
theorem legible_decimalText {style : FloatStyle} (nan : Legible style.nan.toList)
    (infinity : Legible style.infinity.toList) (x : Binary64) : Legible (x.decimalText style) := by
  have sign (negative : Bool) : Legible (if negative then ['-'] else []) := by
    cases negative <;> decide
  cases x with
  | nan => exact nan
  | infinite negative => exact Legible.append_iff.2 ⟨sign negative, infinity⟩
  | finite negative significand exponent =>
    refine Legible.append_iff.2 ⟨sign negative, ?_⟩
    split
    · decide
    · exact legible_layout _

end Binary64

namespace Json

theorem legible_unicodeEscape (unit : Nat) : Legible (unicodeEscape unit) := by
  have backslash : IsPrinted '\\' := by decide
  have letter : IsPrinted 'u' := by decide
  exact Legible.cons_iff.2 ⟨backslash, Legible.cons_iff.2 ⟨letter, Legible.hexDigits 4 unit⟩⟩

/-- A code point that is written as it is lies between the space and the tilde. -/
theorem isPrinted_toChar {c : CodePoint} (low : 0x20 ≤ c.val) (high : c.val ≤ 0x7E) :
    IsPrinted c.toChar := by
  have notHigh : c.isHighSurrogate = false := by
    rw [← Bool.not_eq_true, CodePoint.isHighSurrogate_iff]
    omega
  have notLow : c.isLowSurrogate = false := by
    rw [← Bool.not_eq_true, CodePoint.isLowSurrogate_iff]
    omega
  rw [IsPrinted, CodePoint.val_toChar notHigh notLow]
  exact ⟨low, high⟩

theorem legible_escape (c : CodePoint) : Legible (escape c) := by
  unfold escape
  split
  · rename_i marked
    rcases marked with rfl | rfl <;> decide
  split
  · decide
  split
  · decide
  split
  · decide
  split
  · decide
  split
  · decide
  split
  · rename_i printed
    exact Legible.cons_iff.2 ⟨isPrinted_toChar printed.1 printed.2, Legible.nil⟩
  split
  · exact legible_unicodeEscape _
  · exact Legible.append_iff.2 ⟨legible_unicodeEscape _, legible_unicodeEscape _⟩

theorem legible_quote {body : List Char} (legible : Legible body) : Legible (quote body) := by
  have mark : IsPrinted '"' := by decide
  simp [quote, mark, legible]

theorem legible_writeText (t : Text) : Legible (writeText t) :=
  legible_quote (Legible.flatMap legible_escape)

theorem legible_writeBool (b : Bool) : Legible (writeBool b) := by
  cases b <;> decide

theorem legible_writeNull : Legible writeNull := by decide

theorem legible_writeFloat (x : Binary64) : Legible (writeFloat x) :=
  x.legible_decimalText (by decide) (by decide)

variable {α β γ : Type}

/-- What is written, if anything is, has a property. -/
def Yields (property : α → Prop) (outcome : Except Problem α) : Prop :=
  ∀ a, outcome = .ok a → property a

namespace Yields
variable {P : α → Prop} {Q : β → Prop} {R : γ → Prop}

theorem ok {a : α} (holds : P a) : Yields P (.ok a) := by
  intro b same
  cases same
  exact holds

theorem error (problem : Problem) : Yields P (.error problem) := fun _ failed => by cases failed

theorem map {outcome : Except Problem α} {f : α → β} (yields : Yields P outcome)
    (holds : ∀ a, P a → Q (f a)) : Yields Q (outcome.map f) := by
  cases outcome with
  | ok a => exact .ok (holds a (yields a rfl))
  | error problem => exact .error problem

theorem both {first : Except Problem α} {second : Except Problem β} {f : α → β → γ}
    (yields : Yields P first) (yields' : Yields Q second) (holds : ∀ a b, P a → Q b → R (f a b)) :
    Yields R (do
      let a ← first
      let b ← second
      return f a b) := by
  cases first with
  | error problem => exact .error problem
  | ok a =>
    cases second with
    | error problem => exact .error problem
    | ok b => exact .ok (holds a b (yields a rfl) (yields' b rfl))

theorem settle {stack : Stack} {outcome : Except Problem α} (yields : Yields P outcome) :
    Yields P (stack.settle outcome) := by
  cases outcome with
  | ok a => exact yields
  | error problem => exact .error _

theorem deeper {stack : Stack} {body : Stack → Except Problem α}
    (yields : ∀ stack, Yields P (body stack)) : Yields P (stack.deeper body) := by
  unfold Stack.deeper
  split
  · exact .error _
  · exact yields _

end Yields

theorem legible_writeInt (n : Int) : Yields Legible (writeInt n) := by
  by_cases long : Nat.pow 10 Numeral.digitLimit ≤ n.natAbs
  · rw [writeInt, if_pos long]
    exact .error _
  · have sign : Legible (if n < 0 then ['-'] else []) := by split <;> decide
    rw [writeInt, if_neg long]
    exact .ok (Legible.append_iff.2 ⟨sign, Legible.toDigits n.natAbs⟩)

theorem legible_writeKey (key : Value) : Yields Legible (writeKey key) := by
  cases key with
  | text t => exact .ok (legible_writeText t)
  | null => exact .ok (legible_quote legible_writeNull)
  | bool b => exact .ok (legible_quote (legible_writeBool b))
  | int n =>
    rw [writeKey]
    exact (legible_writeInt n).map fun _ => legible_quote
  | float x => exact .ok (legible_quote (legible_writeFloat x))
  | _ => exact .error _

/-- A layout that puts printed characters only between items. -/
structure Layout.Printed (layout : Layout) : Prop where
  comma : Legible layout.comma
  colon : Legible layout.colon

theorem printed_compact : compact.Printed := ⟨by decide, by decide⟩

variable {layout : Layout}

theorem legible_joinItems (printed : layout.Printed) {items : List (List Char)}
    (each : ∀ item ∈ items, Legible item) : Legible (joinItems layout items) := by
  induction items with
  | nil => exact Legible.nil
  | cons item items ih =>
    obtain ⟨first, others⟩ := List.forall_mem_cons.1 each
    cases items with
    | nil => exact first
    | cons next rest =>
      simp only [joinItems, Legible.append_iff]
      exact ⟨⟨first, printed.comma⟩, ih others⟩

theorem legible_writeList (printed : layout.Printed) {items : List (List Char)}
    (each : ∀ item ∈ items, Legible item) : Legible (writeList layout items) := by
  have opening : IsPrinted '[' := by decide
  have closing : IsPrinted ']' := by decide
  simp [writeList, opening, closing, legible_joinItems printed each]

theorem legible_writeMapping (printed : layout.Printed) {entries : List (List Char)}
    (each : ∀ entry ∈ entries, Legible entry) : Legible (writeMapping layout entries) := by
  have opening : IsPrinted '{' := by decide
  have closing : IsPrinted '}' := by decide
  simp [writeMapping, opening, closing, legible_joinItems printed each]

mutual

/-- Whatever a value holds, wherever it is written and on any stack. -/
theorem legible_write (printed : layout.Printed) (stack : Stack) : (value : Value) →
    Yields Legible (write layout stack value)
  | .null => .ok legible_writeNull
  | .bool b => .ok (legible_writeBool b)
  | .int n => by
    rw [write]
    exact .settle (legible_writeInt n)
  | .float x => .ok (legible_writeFloat x)
  | .text t => .ok (legible_writeText t)
  | .list items => .deeper fun stack =>
    (legible_writeItems printed stack items).map fun _ => legible_writeList printed
  | .tuple items => .deeper fun stack =>
    (legible_writeItems printed stack items).map fun _ => legible_writeList printed
  | .mapping entries => .deeper fun stack =>
    (legible_writeEntries printed stack entries).map fun _ => legible_writeMapping printed
  | .foreign object => by
    rw [write, writeForeign]
    refine .settle ?_
    split
    · exact .ok (legible_writeText _)
    · exact .error _
  | .enclosing _ => .error _
  termination_by structural value => value

theorem legible_writeItems (printed : layout.Printed) (stack : Stack) : (items : List Value) →
    Yields (fun texts => ∀ text ∈ texts, Legible text) (writeItems layout stack items)
  | [] => .ok fun _ none => by cases none
  | item :: rest =>
    (legible_write printed stack item).both (legible_writeItems printed stack rest)
      fun _ _ first others => List.forall_mem_cons.2 ⟨first, others⟩
  termination_by structural items => items

theorem legible_writeEntries (printed : layout.Printed) (stack : Stack) :
    (entries : List (Value × Value)) →
    Yields (fun texts => ∀ text ∈ texts, Legible text) (writeEntries layout stack entries)
  | [] => .ok fun _ none => by cases none
  | entry :: rest =>
    (legible_writeEntry printed stack entry).both (legible_writeEntries printed stack rest)
      fun _ _ first others => List.forall_mem_cons.2 ⟨first, others⟩
  termination_by structural entries => entries

theorem legible_writeEntry (printed : layout.Printed) (stack : Stack) : (entry : Value × Value) →
    Yields Legible (writeEntry layout stack entry)
  | (key, value) =>
    (Yields.settle (legible_writeKey key)).both (legible_write printed stack value)
      fun _ _ first second => by
        simp only [Legible.append_iff]
        exact ⟨⟨first, printed.colon⟩, second⟩
  termination_by structural entry => entry

end

end Json

namespace Record

variable {stack : Stack}

theorem isLine_of_encode {members : List (String × Value)} {text : Text}
    (written : encode stack members = .ok text) : text.IsLine := by
  unfold encode at written
  dsimp only at written
  split at written
  · rename_i chars made
    cases written
    exact (legible_write printed_compact stack _ chars made).isLine
  · cases written

/-- A record whose payload can be written is written with its identity and without. -/
theorem encodes_of_payload {r : Record} (sound : r.object.firstObstacle? stack = none) :
    (∃ text, encode stack r.full = .ok text) ∧ ∃ e, r.event stack = .ok e := by
  obtain ⟨message, made⟩ := (r.event_of_obstacle stack).2 sound
  refine ⟨?_, _, made⟩
  obtain ⟨⟨fault, -, failed⟩ | ⟨rest, -, full⟩, same, -⟩ := payload_drops_identity stack r
  · rw [made, failed] at same
    cases same
  · exact ⟨_, full⟩

end Record

/-- On every stack, whatever a record says, what is written of it lies between the space and the tilde,
character by character: the record in full as well as its payload and the message of its event. So none
of them breaks a line or carries a control character. A record whose payload can be written does have
them. -/
theorem message_is_one_line (stack : Stack) (r : Record) :
    (∀ text, Record.encode stack r.full = .ok text → text.IsLine) ∧
    (∀ text, Record.encode stack r.payload = .ok text → text.IsLine) ∧
    (∀ e, r.event stack = .ok e → e.message.IsLine) ∧
    (r.object.firstObstacle? stack = none →
      (∃ text, Record.encode stack r.full = .ok text) ∧ ∃ e, r.event stack = .ok e) := by
  refine ⟨fun _ => Record.isLine_of_encode, fun _ => Record.isLine_of_encode, fun e made => ?_,
    Record.encodes_of_payload⟩
  unfold Record.event at made
  cases written : Record.encode stack r.payload with
  | error fault => simp [written, Except.map] at made
  | ok text =>
    simp only [written, Except.map, Except.ok.injEq] at made
    subst made
    exact Record.isLine_of_encode written

/-- A record that tries to begin a new line wherever it can. -/
def unruly : Record :=
  { (default : Record) with
    group := some "a\nb"
    content := some ⟨['\r', '\x7f', 'é', '😀']⟩
    fields := .mapping [(.text "\n", .float (.infinite true)), (.float .nan, .text "\x00\"\\"),
      (.null, .tuple [.text "\u2028"])] }

theorem message_is_one_line_unruly :
    unruly.object.firstObstacle? tightStack = none ∧
      ∃ text e, Record.encode tightStack unruly.full = .ok text ∧
        unruly.event tightStack = .ok e ∧ text.IsLine ∧ e.message.IsLine := by
  obtain ⟨full, -, event, written⟩ := message_is_one_line tightStack unruly
  have sound : unruly.object.firstObstacle? tightStack = none := rfl
  obtain ⟨⟨text, encoded⟩, e, made⟩ := written sound
  exact ⟨sound, text, e, encoded, made, full text encoded, event e made⟩

end SequenceLog

/-! Texts. A text is a sequence of code points. Unlike the characters of a string these may be
surrogates, which belong to a text where they were escaped one by one. -/
namespace SequenceLog

/-- A code point of Unicode, surrogates included. -/
structure CodePoint where
  val : Nat
  inRange : val < 0x110000
  deriving DecidableEq, Repr

namespace CodePoint

theorem toNat_valid (c : Char) : c.toNat < 0xD800 ∨ 0xDFFF < c.toNat ∧ c.toNat < 0x110000 := c.valid

def ofChar (c : Char) : CodePoint := ⟨c.toNat, by have := toNat_valid c; omega⟩

instance : Coe Char CodePoint := ⟨ofChar⟩

instance : Inhabited CodePoint := ⟨'\x00'⟩

/-- The first of the two surrogates that stand for a code point beyond the sixteen-bit range. -/
def isHighSurrogate (c : CodePoint) : Bool := 0xD800 ≤ c.val && c.val < 0xDC00

def isLowSurrogate (c : CodePoint) : Bool := 0xDC00 ≤ c.val && c.val < 0xE000

theorem isHighSurrogate_iff {c : CodePoint} :
    c.isHighSurrogate ↔ 0xD800 ≤ c.val ∧ c.val < 0xDC00 := by
  simp [isHighSurrogate]

theorem isLowSurrogate_iff {c : CodePoint} :
    c.isLowSurrogate ↔ 0xDC00 ≤ c.val ∧ c.val < 0xE000 := by
  simp [isLowSurrogate]

/-- The code point as a character. A surrogate is none, and gives the replacement character. -/
def toChar (c : CodePoint) : Char :=
  if c.isHighSurrogate || c.isLowSurrogate then '\uFFFD' else Char.ofNat c.val

theorem not_surrogate_ofChar (c : Char) :
    ((ofChar c).isHighSurrogate || (ofChar c).isLowSurrogate) = false := by
  have valid := toNat_valid c
  rw [← Bool.not_eq_true, Bool.or_eq_true, isHighSurrogate_iff, isLowSurrogate_iff]
  simp only [ofChar]
  omega

@[simp] theorem toChar_ofChar (c : Char) : (ofChar c).toChar = c := by
  simp [toChar, not_surrogate_ofChar]
  simp [ofChar]

end CodePoint

structure Text where
  points : List CodePoint
  deriving DecidableEq, Repr, Inhabited

namespace Text

def ofChars (chars : List Char) : Text := ⟨chars.map .ofChar⟩

def ofString (s : String) : Text := ofChars s.toList

instance : Coe String Text := ⟨ofString⟩

instance : Append Text := ⟨fun a b => ⟨a.points ++ b.points⟩⟩

def isEmpty (t : Text) : Bool := t.points.isEmpty

/-- Texts are ordered by their code points. -/
instance : LT Text := ⟨fun a b => a.points.map (·.val) < b.points.map (·.val)⟩

instance (a b : Text) : Decidable (a < b) :=
  inferInstanceAs (Decidable (a.points.map (·.val) < b.points.map (·.val)))

@[simp] theorem points_append (a b : Text) : (a ++ b).points = a.points ++ b.points := rfl

theorem append_assoc (a b c : Text) : a ++ b ++ c = a ++ (b ++ c) :=
  congrArg mk (List.append_assoc ..)

@[simp] theorem points_ofChars (chars : List Char) : (ofChars chars).points = chars.map .ofChar :=
  rfl

end Text

end SequenceLog

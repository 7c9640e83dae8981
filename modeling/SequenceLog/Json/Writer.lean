import SequenceLog.Json.Stack
import SequenceLog.Json.Value
import SequenceLog.Number.Numeral
import SequenceLog.Number.Shortest
import SequenceLog.Text.Hex
/-! Writing JSON. Only printable ASCII is written, members keep their order, and the first problem
in writing order is the one reported: an entry's key is written before its value. -/
namespace SequenceLog.Json

/-- What stands between two items, and between a key and its value, and whether foreign objects
are written as texts. -/
structure Layout where
  comma : List Char
  colon : List Char
  foreignAsText : Bool

/-- The layout of payloads. -/
def compact : Layout := ⟨[','], [':'], false⟩

/-- The layout of log lines. -/
def spaced : Layout := ⟨[',', ' '], [':', ' '], true⟩

def unicodeEscape (unit : Nat) : List Char := '\\' :: 'u' :: Text.hexDigits 4 unit

/-- A code point beyond the sixteen-bit range is escaped as two surrogates. -/
def escape (c : CodePoint) : List Char :=
  if c = '"' ∨ c = '\\' then ['\\', c.toChar]
  else if c = '\n' then ['\\', 'n']
  else if c = '\r' then ['\\', 'r']
  else if c = '\t' then ['\\', 't']
  else if c = '\x08' then ['\\', 'b']
  else if c = '\x0c' then ['\\', 'f']
  else if 0x20 ≤ c.val ∧ c.val ≤ 0x7E then [c.toChar]
  else if c.val < 0x10000 then unicodeEscape c.val
  else
    let n := c.val - 0x10000
    unicodeEscape (0xD800 + n / 0x400) ++ unicodeEscape (0xDC00 + n % 0x400)

def writeText (t : Text) : List Char := '"' :: t.points.flatMap escape ++ ['"']

def writeBool (b : Bool) : List Char :=
  if b then ['t', 'r', 'u', 'e'] else ['f', 'a', 'l', 's', 'e']

def writeNull : List Char := ['n', 'u', 'l', 'l']

def writeNat (n : Nat) : List Char := Nat.toDigits 10 n

/-- An integer of more digits than the limit is not written. -/
def writeInt (n : Int) : Except Problem (List Char) :=
  if Nat.pow 10 Numeral.digitLimit ≤ n.natAbs then .error .longInteger
  else .ok ((if n < 0 then ['-'] else []) ++ writeNat n.natAbs)

def writeFloat (x : Binary64) : List Char := x.decimalText Binary64.json

def quote (body : List Char) : List Char := '"' :: body ++ ['"']

def writeForeign (layout : Layout) (object : Foreign) : Except Problem (List Char) :=
  if layout.foreignAsText then .ok (writeText object.text)
  else .error (.foreignValue object.typeName)

/-- Scalar keys are written as the text of the scalar. -/
def writeKey : Value → Except Problem (List Char)
  | .text s => .ok (writeText s)
  | .null => .ok (quote writeNull)
  | .bool b => .ok (quote (writeBool b))
  | .int n => (writeInt n).map quote
  | .float x => .ok (quote (writeFloat x))
  | .foreign object => .error (.foreignKey object.fullTypeName)
  | container => .error (.foreignKey container.typeName)

/-- Items with the layout's comma between them. -/
def joinItems (layout : Layout) : List (List Char) → List Char
  | [] => []
  | [item] => item
  | item :: rest => item ++ layout.comma ++ joinItems layout rest

def writeList (layout : Layout) (items : List (List Char)) : List Char :=
  '[' :: joinItems layout items ++ [']']

def writeMapping (layout : Layout) (entries : List (List Char)) : List Char :=
  '{' :: joinItems layout entries ++ ['}']

mutual

/-- Writes a value where so much of the stack is left. -/
def write (layout : Layout) (stack : Stack) : Value → Except Problem (List Char)
  | .null => .ok writeNull
  | .bool b => .ok (writeBool b)
  | .int n => stack.settle (writeInt n)
  | .float x => .ok (writeFloat x)
  | .text s => .ok (writeText s)
  | .list items =>
    stack.deeper fun stack => (writeItems layout stack items).map (writeList layout)
  | .tuple items =>
    stack.deeper fun stack => (writeItems layout stack items).map (writeList layout)
  | .mapping entries =>
    stack.deeper fun stack => (writeEntries layout stack entries).map (writeMapping layout)
  | .foreign object => stack.settle (writeForeign layout object)
  | .enclosing _ => stack.settle (.error .circular)
  termination_by structural value => value

def writeItems (layout : Layout) (stack : Stack) : List Value → Except Problem (List (List Char))
  | [] => .ok []
  | item :: rest => do
    let text ← write layout stack item
    let texts ← writeItems layout stack rest
    return text :: texts
  termination_by structural items => items

def writeEntries (layout : Layout) (stack : Stack) :
    List (Value × Value) → Except Problem (List (List Char))
  | [] => .ok []
  | entry :: rest => do
    let text ← writeEntry layout stack entry
    let texts ← writeEntries layout stack rest
    return text :: texts
  termination_by structural entries => entries

def writeEntry (layout : Layout) (stack : Stack) : Value × Value → Except Problem (List Char)
  | (key, value) => do
    let keyText ← stack.settle (writeKey key)
    let valueText ← write layout stack value
    return keyText ++ layout.colon ++ valueText
  termination_by structural entry => entry

end

end SequenceLog.Json

import SequenceLog.Json.Key
import SequenceLog.Number.Numeral
import SequenceLog.Text.Hex
/-! Reading JSON. White space may stand around every part. Members keep the order in which their
keys first occur, and a repeated key takes its last value. The words that the writer has for floats
that are not finite are read too. -/
namespace SequenceLog.Json

def isSpace (c : Char) : Bool := c == ' ' || c == '\t' || c == '\n' || c == '\r'

def skipSpace (text : List Char) : List Char := text.dropWhile isSpace

/-- The character that a letter after a backslash stands for. -/
def unescape? : Char → Option Char
  | '"' => some '"'
  | '\\' => some '\\'
  | '/' => some '/'
  | 'b' => some '\x08'
  | 'f' => some '\x0c'
  | 'n' => some '\n'
  | 'r' => some '\r'
  | 't' => some '\t'
  | _ => none

/-- A surrogate after its counterpart stands with it for one code point beyond the sixteen-bit
range. -/
def joined? (high low : CodePoint) : Option CodePoint :=
  if h : high.isHighSurrogate ∧ low.isLowSurrogate then
    some ⟨0x10000 + (high.val - 0xD800) * 0x400 + (low.val - 0xDC00), by
      have := CodePoint.isHighSurrogate_iff.mp h.1
      have := CodePoint.isLowSurrogate_iff.mp h.2
      omega⟩
  else none

/-- Adds an escaped code point to those of a text, which are kept last first. -/
def addEscaped (done : List CodePoint) (c : CodePoint) : List CodePoint :=
  match done with
  | [] => [c]
  | last :: before =>
    match joined? last c with
    | some both => both :: before
    | none => c :: done

def escaped? (a b c d : Char) : Option CodePoint :=
  (Text.hexValue? [a, b, c, d]).bind fun n =>
    if inRange : n < 0x110000 then some ⟨n, inRange⟩ else none

def readText (done : List CodePoint) : List Char → Option (Text × List Char)
  | [] => none
  | '"' :: rest => some (⟨done.reverse⟩, rest)
  | '\\' :: 'u' :: a :: b :: c :: d :: rest =>
    match escaped? a b c d with
    | some c => readText (addEscaped done c) rest
    | none => none
  | '\\' :: c :: rest =>
    match unescape? c with
    | some c => readText (c :: done) rest
    | none => none
  | c :: rest => if c.toNat < 0x20 then none else readText (c :: done) rest

def readDigits? (text : List Char) : Option (List Char × List Char) :=
  let digits := text.takeWhile Numeral.isDigit
  if digits = [] then none else some (digits, text.dropWhile Numeral.isDigit)

/-- Reads the digits before the point. They begin with a zero only where it is the number. -/
def readWhole? (text : List Char) : Option (List Char × List Char) :=
  (readDigits? text).filter fun (digits, _) => digits.head? ≠ some '0' ∨ digits = ['0']

def readFraction? : List Char → Option (Option (List Char) × List Char)
  | '.' :: rest => (readDigits? rest).map fun (digits, rest) => (some digits, rest)
  | rest => some (none, rest)

def readExponent? : List Char → Option (Option Int × List Char)
  | [] => some (none, [])
  | c :: rest =>
    if c = 'e' ∨ c = 'E' then
      let (negative, body) := Numeral.splitSign rest
      (readDigits? body).map fun (digits, rest) =>
        let size : Int := Numeral.valueOf digits
        (some (if negative then -size else size), rest)
    else some (none, c :: rest)

/-- A number with a fraction or an exponent is a float, any other an integer. -/
def numberOf (negative : Bool) (whole : List Char) :
    Option (List Char) → Option Int → Value
  | none, none =>
    let size : Int := Numeral.valueOf whole
    .int (if negative then -size else size)
  | fraction, exponent =>
    let fraction := fraction.getD []
    .float (.ofDecimal negative (Numeral.valueOf (whole ++ fraction))
      (exponent.getD 0 - fraction.length))

def readUnsigned? (negative : Bool) (text : List Char) : Option (Value × List Char) := do
  let (whole, rest) ← readWhole? text
  let (fraction, rest) ← readFraction? rest
  let (exponent, rest) ← readExponent? rest
  return (numberOf negative whole fraction exponent, rest)

def readNumber? : List Char → Option (Value × List Char)
  | '-' :: rest => readUnsigned? true rest
  | rest => readUnsigned? false rest

def words : List (List Char × Value) := [
  (['n', 'u', 'l', 'l'], .null),
  (['t', 'r', 'u', 'e'], .bool true),
  (['f', 'a', 'l', 's', 'e'], .bool false),
  (['N', 'a', 'N'], .float .nan),
  (['I', 'n', 'f', 'i', 'n', 'i', 't', 'y'], .float (.infinite false)),
  (['-', 'I', 'n', 'f', 'i', 'n', 'i', 't', 'y'], .float (.infinite true))]

def readWord? (text : List Char) : Option (Value × List Char) :=
  (words.find? fun (word, _) => word.isPrefixOf text).map fun (word, value) =>
    (value, text.drop word.length)

mutual

/-- Reads a value at the front of a text. Every step takes from the fuel. -/
def readValue (fuel : Nat) (text : List Char) : Option (Value × List Char) :=
  match fuel with
  | 0 => none
  | fuel + 1 =>
    match skipSpace text with
    | '"' :: rest => (readText [] rest).map fun (s, rest) => (.text s, rest)
    | '[' :: rest => (readList fuel (skipSpace rest)).map fun (items, rest) => (.list items, rest)
    | '{' :: rest =>
      (readMapping fuel (skipSpace rest)).map fun (entries, rest) => (.ofEntries entries, rest)
    | rest => (readWord? rest).or (readNumber? rest)
  termination_by structural fuel

def readList (fuel : Nat) (text : List Char) : Option (List Value × List Char) :=
  match fuel, text with
  | 0, _ => none
  | _ + 1, ']' :: rest => some ([], rest)
  | fuel + 1, text => readItems fuel text
  termination_by structural fuel

def readItems (fuel : Nat) (text : List Char) : Option (List Value × List Char) :=
  match fuel with
  | 0 => none
  | fuel + 1 => do
    let (item, rest) ← readValue fuel text
    match skipSpace rest with
    | ']' :: rest => return ([item], rest)
    | ',' :: rest =>
      let (items, rest) ← readItems fuel rest
      return (item :: items, rest)
    | _ => none
  termination_by structural fuel

def readMapping (fuel : Nat) (text : List Char) : Option (List (Value × Value) × List Char) :=
  match fuel, text with
  | 0, _ => none
  | _ + 1, '}' :: rest => some ([], rest)
  | fuel + 1, text => readEntries fuel text
  termination_by structural fuel

def readEntries (fuel : Nat) (text : List Char) : Option (List (Value × Value) × List Char) :=
  match fuel with
  | 0 => none
  | fuel + 1 => do
    let (entry, rest) ← readEntry fuel (skipSpace text)
    match skipSpace rest with
    | '}' :: rest => return ([entry], rest)
    | ',' :: rest =>
      let (entries, rest) ← readEntries fuel rest
      return (entry :: entries, rest)
    | _ => none
  termination_by structural fuel

def readEntry (fuel : Nat) (text : List Char) : Option ((Value × Value) × List Char) :=
  match fuel, text with
  | fuel + 1, '"' :: rest => do
    let (key, rest) ← readText [] rest
    match skipSpace rest with
    | ':' :: rest =>
      let (value, rest) ← readValue fuel rest
      return ((.text key, value), rest)
    | _ => none
  | _, _ => none
  termination_by structural fuel

end

/-- The value that a text holds. At most three steps are taken for each of its characters. -/
def read? (text : String) : Option Value :=
  match readValue (3 * text.toList.length + 1) text.toList with
  | some (value, rest) => if skipSpace rest = [] then some value else none
  | none => none

end SequenceLog.Json

import SequenceLog.Number.Binary64
import SequenceLog.Text.Blank
import SequenceLog.Text.Digit
/-! Reading numerals. White space may surround a numeral, a sign may lead it, decimal digits of
every script count, and a single underscore may stand between two digits. -/
namespace SequenceLog.Numeral

/-- Beyond this many digits an integer is neither read nor written. -/
def digitLimit : Nat := 4300

def isDigit (c : Char) : Bool := '0' ≤ c && c ≤ '9'

/-- Digits of every script become ASCII digits and white space outside ASCII becomes a space. What
else lies outside ASCII has no place in a numeral. -/
def normalize (c : CodePoint) : Char :=
  if c.val < 127 then c.toChar
  else if Text.isSpace c then ' '
  else match Text.digitValue? c with
    | some n => Nat.digitChar n
    | none => '?'

def prepare (text : Text) : List Char :=
  Text.trimBy (fun c => Text.isSpace c) (text.points.map normalize)

def splitSign : List Char → Bool × List Char
  | '-' :: rest => (true, rest)
  | '+' :: rest => (false, rest)
  | rest => (false, rest)

/-- Removes the underscores, each of which must stand between two digits. -/
def joinDigits? : List Char → Option (List Char)
  | [] => some []
  | '_' :: _ => none
  | a :: '_' :: b :: rest =>
    if isDigit a && isDigit b then (joinDigits? (b :: rest)).map (a :: ·) else none
  | a :: rest => (joinDigits? rest).map (a :: ·)

def valueOf (digits : List Char) : Nat := Nat.ofDigitChars 10 digits 0

inductive IntegerReading where
  | value (n : Int)
  | tooLong (digits : Nat)
  | malformed
  deriving DecidableEq, Repr

/-- The run of digits is examined first: where it is too long, what follows it is not read. -/
def readInteger (text : Text) : IntegerReading :=
  let (negative, body) := splitSign (prepare text)
  let inRun := fun c => isDigit c || c == '_'
  match joinDigits? (body.takeWhile inRun) with
  | none | some [] => .malformed
  | some digits =>
    if digitLimit < digits.length then .tooLong digits.length
    else if body.dropWhile inRun ≠ [] then .malformed
    else .value (if negative then -(valueOf digits : Int) else valueOf digits)

def lower (c : Char) : Char :=
  if 'A' ≤ c && c ≤ 'Z' then Char.ofNat (c.toNat + 32) else c

/-- What may follow the digits of a decimal fraction: nothing, or an exponent. -/
def readExponent? : List Char → Option Int
  | [] => some 0
  | e :: rest =>
    if e = 'e' ∨ e = 'E' then
      let (negative, digits) := splitSign rest
      if digits ≠ [] ∧ digits.all isDigit then
        some (if negative then -(valueOf digits : Int) else valueOf digits)
      else none
    else none

/-- A decimal fraction has a digit on at least one side of its point. -/
def readDecimal? (negative : Bool) (body : List Char) : Option Binary64 :=
  let whole := body.takeWhile isDigit
  let (fraction, rest) := match body.dropWhile isDigit with
    | '.' :: rest => (rest.takeWhile isDigit, rest.dropWhile isDigit)
    | rest => ([], rest)
  if whole = [] ∧ fraction = [] then none
  else (readExponent? rest).map fun exponent =>
    .ofDecimal negative (valueOf (whole ++ fraction)) (exponent - fraction.length)

/-- Besides decimal fractions, the names of infinity and of the missing number are read, in any
mix of cases. -/
def readBinary64? (text : Text) : Option Binary64 :=
  (joinDigits? (prepare text)).bind fun joined =>
    let (negative, body) := splitSign joined
    let word := String.ofList (body.map lower)
    if word = "inf" ∨ word = "infinity" then some (.infinite negative)
    else if word = "nan" then some .nan
    else readDecimal? negative body

end SequenceLog.Numeral

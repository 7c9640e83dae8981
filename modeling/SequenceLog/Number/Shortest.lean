import SequenceLog.Number.Binary64
/-! The decimal text of a binary number: the fewest digits that read back as the number, and of
those the nearest. `decimalText` lays them out; a `FloatStyle` holds what the layouts of
different formats disagree on. -/
namespace SequenceLog.Binary64

/-- The digits `d` and the place `p` of the point stand for `0.d · 10 ^ p`. -/
structure Decimal where
  digits : Nat
  point : Int
  deriving DecidableEq, Repr

/-- The place of the point: `10 ^ (p - 1) ≤ num / den < 10 ^ p`. -/
def pointPlace (num den : Nat) : Int :=
  if den ≤ num then (Nat.toDigits 10 (num / den)).length
  else 1 - ((Nat.toDigits 10 ((den + num - 1) / num - 1)).length : Int)

/-- The numbers that round to a significand and exponent form an interval. Over the denominator
it has the lower end, the value itself and the upper end; the ends belong to it when the
significand is even. -/
structure Interval where
  low : Nat
  value : Nat
  high : Nat
  den : Nat
  closed : Bool

def interval (significand : Nat) (exponent : Int) : Interval :=
  let below := if significand = Nat.pow 2 52 ∧ -1074 < exponent then 1 else 2
  let (factor, den) := magnitude 1 (exponent - 2)
  { low := (4 * significand - below) * factor
    value := 4 * significand * factor
    high := (4 * significand + 2) * factor
    den := den
    closed := significand % 2 = 0 }

def Interval.holds (i : Interval) (count num den : Nat) : Bool :=
  let x := count * num * i.den
  if i.closed then i.low * den ≤ x && x ≤ i.high * den
  else i.low * den < x && x < i.high * den

/-- The nearest point, if any, of the grid with the given number of places that lies in the
interval. A tie between two goes to the even one. -/
def Interval.onGrid? (i : Interval) (point : Int) (places : Nat) : Option Nat :=
  let unit := point - places
  let (num, den) := if 0 ≤ unit then (Nat.pow 10 unit.toNat, 1) else (1, Nat.pow 10 (-unit).toNat)
  let down := i.value * den / (i.den * num)
  let up := down + 1
  let nearest := divideToEven (i.value * den) (i.den * num)
  if i.holds nearest num den then some nearest
  else if i.holds down num den then some down
  else if i.holds up num den then some up
  else none

def dropZeros : (fuel : Nat) → Nat → Nat
  | 0, n => n
  | fuel + 1, n => if n % 10 = 0 then dropZeros fuel (n / 10) else n

/-- Seventeen places always suffice. -/
def shortest (significand : Nat) (exponent : Int) : Decimal :=
  let i := interval significand exponent
  let point := pointPlace i.value i.den
  let places := ((List.range 17).map (· + 1)).find? fun places => (i.onGrid? point places).isSome
  let places := places.getD 17
  let digits := (i.onGrid? point places).getD 0
  let point := if digits = Nat.pow 10 places then point + 1 else point
  ⟨dropZeros 20 digits, point⟩

structure FloatStyle where
  nan : String
  infinity : String

/-- Numbers in messages. -/
def plain : FloatStyle := ⟨"nan", "inf"⟩

/-- Numbers in a JSON text. -/
def json : FloatStyle := ⟨"NaN", "Infinity"⟩

def exponentText (exponent : Int) : List Char :=
  let digits := Nat.toDigits 10 exponent.natAbs
  (if exponent < 0 then '-' else '+') :: (if digits.length < 2 then '0' :: digits else digits)

/-- From `10 ^ -4` up to `10 ^ 16` a number is written with its point in place, and always with
a digit after it; otherwise with an exponent. -/
def layout (d : Decimal) : List Char :=
  let digits := Nat.toDigits 10 d.digits
  if d.point ≤ -4 ∨ 16 < d.point then
    match digits with
    | [] => []
    | lead :: rest =>
      (if rest = [] then [lead] else lead :: '.' :: rest) ++ 'e' :: exponentText (d.point - 1)
  else if d.point ≤ 0 then '0' :: '.' :: (List.replicate (-d.point).toNat '0' ++ digits)
  else
    let whole := d.point.toNat
    let padded := digits ++ List.replicate (whole - digits.length) '0'
    let fraction := padded.drop whole
    padded.take whole ++ '.' :: (if fraction = [] then ['0'] else fraction)

def decimalText (style : FloatStyle) : Binary64 → List Char
  | .nan => style.nan.toList
  | .infinite negative => (if negative then ['-'] else []) ++ style.infinity.toList
  | .finite negative significand exponent =>
    (if negative then ['-'] else []) ++
      if significand = 0 then ['0', '.', '0'] else layout (shortest significand exponent)

end SequenceLog.Binary64

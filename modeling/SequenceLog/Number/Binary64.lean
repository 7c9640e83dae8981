/-! Binary floating point of 64 bits as exact values. A finite number is a sign, a significand
below `2 ^ 53` and a power of two, so every comparison and rounding is done on integers. -/
namespace SequenceLog

inductive Binary64 where
  | nan
  | infinite (negative : Bool)
  | finite (negative : Bool) (significand : Nat) (exponent : Int)
  deriving DecidableEq, Repr, Inhabited

namespace Binary64

def zero (negative : Bool) : Binary64 := .finite negative 0 (-1074)

/-- Division to the nearest integer; a tie goes to the even neighbour. -/
def divideToEven (num den : Nat) : Nat :=
  let quotient := num / den
  let twice := 2 * (num % den)
  if twice < den then quotient
  else if den < twice then quotient + 1
  else quotient + quotient % 2

/-- The exponent of the unit in which a positive ratio is rounded: 53 significant bits, or fewer
near zero. -/
def unitExponent (num den : Nat) : Int :=
  let guess : Int := (Nat.log2 num : Int) - (Nat.log2 den : Int) - 52
  let tooLarge :=
    if 0 ≤ guess then num < den * Nat.pow 2 (52 + guess.toNat)
    else num * Nat.pow 2 (-guess).toNat < den * Nat.pow 2 52
  max (-1074) (if tooLarge then guess - 1 else guess)

/-- The number nearest to a ratio. Magnitudes from `2 ^ 1024` on are infinite. -/
def ofRatio (negative : Bool) (num den : Nat) : Binary64 :=
  if num = 0 then zero negative
  else
    let unit := unitExponent num den
    let rounded :=
      if 0 ≤ unit then divideToEven num (den * Nat.pow 2 unit.toNat)
      else divideToEven (num * Nat.pow 2 (-unit).toNat) den
    let (significand, exponent) :=
      if rounded = Nat.pow 2 53 then (Nat.pow 2 52, unit + 1) else (rounded, unit)
    if 971 < exponent then .infinite negative else .finite negative significand exponent

/-- The number nearest to `digits · 10 ^ exponent`. Exponents far outside the range are decided
without forming the power. -/
def ofDecimal (negative : Bool) (digits : Nat) (exponent : Int) : Binary64 :=
  if digits = 0 then zero negative
  else if 400 < exponent then .infinite negative
  else if exponent + (Nat.log2 digits : Int) < -400 then zero negative
  else if 0 ≤ exponent then ofRatio negative (digits * Nat.pow 10 exponent.toNat) 1
  else ofRatio negative digits (Nat.pow 10 (-exponent).toNat)

def isZero : Binary64 → Bool
  | .finite _ significand _ => significand == 0
  | _ => false

def isNonpositive : Binary64 → Bool
  | .nan => false
  | .infinite negative => negative
  | .finite negative significand _ => negative || significand == 0

def magnitude (significand : Nat) (exponent : Int) : Nat × Nat :=
  if 0 ≤ exponent then (significand * Nat.pow 2 exponent.toNat, 1)
  else (significand, Nat.pow 2 (-exponent).toNat)

end Binary64
end SequenceLog

import SequenceLog.Json.Equality
/-! When values count as the same. Numbers of all types are compared by their magnitude, containers
by their parts. The entries of a mapping may come in any order. -/
namespace SequenceLog.Json.Value

/-- A finite number as a numerator over a positive denominator. -/
def ratio? : Value → Option (Int × Nat)
  | .bool b => some (if b then 1 else 0, 1)
  | .int n => some (n, 1)
  | .float (.finite negative significand exponent) =>
    let (num, den) := Binary64.magnitude significand exponent
    some (if negative then -(num : Int) else num, den)
  | .foreign object => object.number
  | _ => none

def sameNumber (a b : Value) : Bool :=
  match a.ratio?, b.ratio? with
  | some (m, c), some (n, d) => m * d == n * c
  | _, _ => false

mutual

def same : Value → Value → Bool
  | .null, .null => true
  | .text s, .text t => s == t
  | .float (.infinite m), .float (.infinite n) => m == n
  | .list xs, .list ys | .tuple xs, .tuple ys => sameItems xs ys
  | .mapping xs, .mapping ys => xs.length == ys.length && sameEntries xs ys
  | .foreign a, .foreign b => a == b
  | a, b => sameNumber a b
  termination_by structural a => a

def sameItems : List Value → List Value → Bool
  | [], [] => true
  | x :: xs, y :: ys => same x y && sameItems xs ys
  | _, _ => false
  termination_by structural a => a

/-- Whether all entries of the first mapping are entries of the second. -/
def sameEntries : List (Value × Value) → List (Value × Value) → Bool
  | [], _ => true
  | x :: xs, ys => ys.any (sameEntry x) && sameEntries xs ys
  termination_by structural a => a

def sameEntry : Value × Value → Value × Value → Bool
  | (key, value), (otherKey, otherValue) => same key otherKey && same value otherValue
  termination_by structural a => a

end

end SequenceLog.Json.Value

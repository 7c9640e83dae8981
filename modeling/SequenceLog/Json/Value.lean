import SequenceLog.Number.Binary64
import SequenceLog.Text.Basic
/-! The values that callers put into a record's payload. They need not have a JSON form: a key may
be anything, an object may be foreign to JSON, and a container may hold itself. -/
namespace SequenceLog.Json

/-- An object of a type without a JSON form. -/
structure Foreign where
  typeName : String
  fullTypeName : String
  /-- The object as a text. -/
  text : String
  /-- The object as it is shown among other values. -/
  literal : String
  /-- What a log line carries for it, where that is not its text. -/
  lineText : Option String
  /-- The number that it equals, as a numerator over a positive denominator. -/
  number : Option (Int × Nat)
  deriving DecidableEq, Repr, Inhabited

inductive Value where
  | null
  | bool (b : Bool)
  | int (n : Int)
  | float (x : Binary64)
  | text (t : Text)
  | list (items : List Value)
  | tuple (items : List Value)
  | mapping (entries : List (Value × Value))
  | foreign (object : Foreign)
  /-- The container that lies the given number of levels further out. -/
  | enclosing (levels : Nat)
  deriving Repr, Inhabited

namespace Value

def typeName : Value → String
  | .null => "NoneType"
  | .bool _ => "bool"
  | .int _ => "int"
  | .float _ => "float"
  | .text _ => "str"
  | .list _ => "list"
  | .tuple _ => "tuple"
  | .mapping _ | .enclosing _ => "dict"
  | .foreign object => object.typeName

/-- The empty and zero values count as absent. -/
def isEmpty : Value → Bool
  | .null => true
  | .bool b => !b
  | .int n => n == 0
  | .float (.finite _ significand _) => significand == 0
  | .text t => t.isEmpty
  | .list items | .tuple items => items.isEmpty
  | .mapping entries => entries.isEmpty
  | _ => false

def orNull (v : Value) : Value := if v.isEmpty then .null else v

/-- What an iteration over a value goes through. Mappings give their keys. -/
def items? : Value → Option (List Value)
  | .list items | .tuple items => some items
  | .mapping entries => some (entries.map (·.1))
  | .text t => some (t.points.map fun c => .text ⟨[c]⟩)
  | _ => none

def nested : Nat → Value
  | 0 => .list []
  | n + 1 => .list [nested n]

end Value
end SequenceLog.Json

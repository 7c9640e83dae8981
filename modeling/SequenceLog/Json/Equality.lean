import SequenceLog.Json.Value
/-! Values have decidable equality: `beq` compares two values part by part, and is true exactly of
equal ones. -/
namespace SequenceLog.Json.Value

mutual

def beq : Value → Value → Bool
  | .null, .null => true
  | .bool a, .bool b => a == b
  | .int a, .int b => a == b
  | .float a, .float b => a == b
  | .text a, .text b => a == b
  | .list a, .list b => beqItems a b
  | .tuple a, .tuple b => beqItems a b
  | .mapping a, .mapping b => beqEntries a b
  | .foreign a, .foreign b => a == b
  | .enclosing a, .enclosing b => a == b
  | _, _ => false
  termination_by structural a => a

def beqItems : List Value → List Value → Bool
  | [], [] => true
  | x :: xs, y :: ys => beq x y && beqItems xs ys
  | _, _ => false
  termination_by structural a => a

def beqEntries : List (Value × Value) → List (Value × Value) → Bool
  | [], [] => true
  | x :: xs, y :: ys => beqEntry x y && beqEntries xs ys
  | _, _ => false
  termination_by structural a => a

def beqEntry : Value × Value → Value × Value → Bool
  | (a, b), (c, d) => beq a c && beq b d
  termination_by structural a => a

end

mutual

theorem beq_iff : (a b : Value) → (beq a b = true ↔ a = b)
  | .null, b | .bool _, b | .int _, b | .float _, b | .text _, b | .foreign _, b
  | .enclosing _, b => by cases b <;> simp [beq]
  | .list a, b => by cases b <;> simp [beq, beqItems_iff a]
  | .tuple a, b => by cases b <;> simp [beq, beqItems_iff a]
  | .mapping a, b => by cases b <;> simp [beq, beqEntries_iff a]
  termination_by structural a => a

theorem beqItems_iff : (a b : List Value) → (beqItems a b = true ↔ a = b)
  | [], b => by cases b <;> simp [beqItems]
  | x :: xs, b => by cases b <;> simp [beqItems, beq_iff x, beqItems_iff xs]
  termination_by structural a => a

theorem beqEntries_iff : (a b : List (Value × Value)) → (beqEntries a b = true ↔ a = b)
  | [], b => by cases b <;> simp [beqEntries]
  | x :: xs, b => by cases b <;> simp [beqEntries, beqEntry_iff x, beqEntries_iff xs]
  termination_by structural a => a

theorem beqEntry_iff : (a b : Value × Value) → (beqEntry a b = true ↔ a = b)
  | (x, y), (_, _) => by simp [beqEntry, beq_iff x, beq_iff y]
  termination_by structural a => a

end

instance : DecidableEq Value := fun a b => decidable_of_iff _ (beq_iff a b)

end SequenceLog.Json.Value

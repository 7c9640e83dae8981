import SequenceLog.Json.Problem
/-! The stack on which values are written. How much of it is left depends on the caller. Every
container takes room inside those around it, and so does the raising of a problem. -/
namespace SequenceLog.Json

structure Stack where
  /-- How many containers can be open inside one another. -/
  room : Nat
  /-- The room that it takes to raise a problem. -/
  toRaise : Problem → Nat
  /-- The message of what is raised instead where there is less. -/
  overflow : Problem → (room : Nat) → String
  deriving Inhabited

namespace Stack

/-- A stack on which it takes no room to raise a problem. -/
def ofRoom (room : Nat) : Stack := ⟨room, fun _ => 0, fun _ _ => ""⟩

/-- The stack with another room left. -/
def left (stack : Stack) (room : Nat) : Stack := { stack with room := room }

/-- What is left inside so many containers. -/
def inside (stack : Stack) (depth : Nat) : Stack := stack.left (stack.room - depth)

def raised (stack : Stack) (problem : Problem) : Problem :=
  if stack.toRaise problem ≤ stack.room then problem
  else .overflow (stack.overflow problem stack.room)

/-- The outcome of a part that is not a container. -/
def settle {α : Type} (stack : Stack) : Except Problem α → Except Problem α
  | .ok a => .ok a
  | .error problem => .error (stack.raised problem)

/-- Goes one container deeper, where there is room. -/
def deeper {α : Type} (stack : Stack) (body : Stack → Except Problem α) : Except Problem α :=
  match stack.room with
  | 0 => .error .tooDeep
  | room + 1 => body (stack.left room)

variable {α : Type} (stack : Stack)

@[simp] theorem left_room (room : Nat) : (stack.left room).room = room := rfl

@[simp] theorem left_self : stack.left stack.room = stack := rfl

@[simp] theorem left_left (room other : Nat) : (stack.left room).left other = stack.left other := rfl

@[simp] theorem settle_ok (a : α) : stack.settle (.ok a) = .ok a := rfl

@[simp] theorem deeper_left_zero (body : Stack → Except Problem α) :
    (stack.left 0).deeper body = .error .tooDeep := rfl

@[simp] theorem deeper_left_succ (room : Nat) (body : Stack → Except Problem α) :
    (stack.left (room + 1)).deeper body = body (stack.left room) := rfl

end Stack
end SequenceLog.Json

import SequenceLog.Json.Key
import SequenceLog.Transport
/-! The log service as a client reaches it: its methods, the calls made of them and what it
answers. Any state machine over the calls is a service; one that follows a script is given. -/
namespace SequenceLog.CloudWatch

/-- The methods of the service. The first three create a client and enter and leave its context. -/
inductive Method where
  | createClient
  | enterContext
  | leaveContext
  | putLogEvents
  | createLogGroup
  | createLogStream
  | describeLogStreams
  | describeLogGroups
  deriving DecidableEq, Repr, Inhabited

/-- A call with its arguments. Contexts are numbered in the order in which they were created. -/
inductive Call where
  | createClient (region : Text) (endpoint : Option Text)
  | enterContext (context : Nat)
  | leaveContext (context : Nat)
  | putLogEvents (request : Append)
  | createLogGroup (group : Text)
  | createLogStream (key : Key)
  | describeLogStreams (key : Key)
  | describeLogGroups (limit : Nat)
  deriving DecidableEq, Repr

def Call.method : Call → Method
  | .createClient .. => .createClient
  | .enterContext _ => .enterContext
  | .leaveContext _ => .leaveContext
  | .putLogEvents _ => .putLogEvents
  | .createLogGroup _ => .createLogGroup
  | .createLogStream _ => .createLogStream
  | .describeLogStreams _ => .describeLogStreams
  | .describeLogGroups _ => .describeLogGroups

/-- What a call returns: an object, of which a few members are read. -/
abbrev Response := Json.Value

def Response.empty : Response := .mapping []

structure Behaviour where
  delay : Binary64
  outcome : Except Fault Response

def Behaviour.unscripted : Behaviour := ⟨.zero false, .ok .empty⟩

/-- A service decides what it does with each call, and may change by it. -/
class Service (ς : Type) where
  answer : ς → Call → Behaviour × ς

/-- A service that follows a script: for each method, the behaviours of its next calls. -/
structure Script where
  behaviours : Method → List Behaviour

namespace Script

def silent : Script := ⟨fun _ => []⟩

def extend (s : Script) (method : Method) (more : List Behaviour) : Script :=
  ⟨fun m => if m = method then s.behaviours m ++ more else s.behaviours m⟩

def next (s : Script) (method : Method) : Behaviour × Script :=
  match s.behaviours method with
  | [] => (.unscripted, s)
  | behaviour :: rest => (behaviour, ⟨fun m => if m = method then rest else s.behaviours m⟩)

/-- What comes next is in the script, unless that says nothing. -/
theorem next_behaviour (s : Script) (method : Method) :
    (s.next method).1 = .unscripted ∨ (s.next method).1 ∈ s.behaviours method := by
  unfold next
  split
  · exact .inl rfl
  · rename_i rest same
    exact .inr (same ▸ List.mem_cons_self ..)

theorem next_subset (s : Script) (method other : Method) :
    (s.next method).2.behaviours other ⊆ s.behaviours other := by
  unfold next
  split
  · exact List.Subset.refl _
  · rename_i rest same
    by_cases own : other = method
    · simp [own, same]
    · simp [own]

instance : Service Script where
  answer s call := s.next call.method

end Script
end SequenceLog.CloudWatch

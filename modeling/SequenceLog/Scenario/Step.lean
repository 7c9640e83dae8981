import SequenceLog.Session.Turn
/-! Scenarios: steps that are taken on a session, one after the other, in concurrent branches, or
under a cancellation, and the answers to them. -/
namespace SequenceLog.Scenario

/-- A step. Writers are referred to by names. `μ` holds the commands that a transport understands
besides appending and preparing. Delays are in seconds. -/
inductive Step (μ : Type) where
  | append (request : Append)
  | ensureStream (key : Key)
  | isConnected
  | command (command : μ)
  | getWriter (key : Key) (name : Option Text)
  | remove (key : Key) (writer : Option Text)
  | contains (parts : List Json.Value)
  | poolSize
  | closePool
  | openWriter (key : Key) (registry : Registry) (token : Token) (maxAttempts : Int)
      (name : Option Text)
  | write (writer : Text) (batch : Batch)
  | closeWriter (writer : Text)
  | inspect (writer : Text)
  | sleep (delay : Binary64)
  | gather (branches : List (List (Step μ)))
  | cancel (delay : Binary64) (step : Step μ)
  deriving Inhabited

namespace Step
variable {μ : Type}

def subject? : Step μ → Option Text
  | .remove _ writer => writer
  | .write writer _ | .closeWriter writer | .inspect writer => some writer
  | _ => none

/-- The writer whose state is told with the answer to a step: its own, or that of the step right
inside a cancellation. -/
def writerName? : Step μ → Option Text
  | .cancel _ step => step.subject?
  | step => step.subject?

mutual

def size : Step μ → Nat
  | .gather branches => 1 + branchesSize branches
  | .cancel _ step => 1 + step.size
  | _ => 1
  termination_by structural step => step

def branchesSize : List (List (Step μ)) → Nat
  | [] => 0
  | branch :: rest => 1 + stepsSize branch + branchesSize rest
  termination_by structural branches => branches

def stepsSize : List (Step μ) → Nat
  | [] => 0
  | step :: rest => step.size + stepsSize rest
  termination_by structural steps => steps

end

mutual

def attempts : Step μ → Nat
  | .openWriter _ _ _ maxAttempts _ => maxAttempts.toNat
  | .gather branches => branchesAttempts branches
  | .cancel _ step => step.attempts
  | _ => 0
  termination_by structural step => step

def branchesAttempts : List (List (Step μ)) → Nat
  | [] => 0
  | branch :: rest => max (stepsAttempts branch) (branchesAttempts rest)
  termination_by structural branches => branches

def stepsAttempts : List (Step μ) → Nat
  | [] => 0
  | step :: rest => max step.attempts (stepsAttempts rest)
  termination_by structural steps => steps

end
end Step

structure WriterInfo where
  key : Key
  token : Token
  status : Status
  description : Text
  deriving DecidableEq, Repr, Inhabited

/-- What keeps a step from its result. -/
inductive Obstacle where
  | fault (fault : Fault)
  | noSuchWriter (name : Text)
  deriving Inhabited

mutual

inductive Result where
  | nothing
  | flag (b : Bool)
  | count (n : Nat)
  | token (token : Token)
  | events (events : List LogEvent)
  /-- A writer, by its number in the order of appearance, and its token. -/
  | writer (number : Nat) (token : Token)
  | info (info : WriterInfo)
  | branches (answers : List (List StepAnswer))

/-- The answer to a step, with token and status of the writer that it names. -/
structure StepAnswer where
  outcome : Except Obstacle Result
  state : Option (Token × Status)

end

abbrev Outcome := Except Obstacle Result

instance : Inhabited Result := ⟨.nothing⟩

instance : Inhabited StepAnswer := ⟨⟨.ok .nothing, none⟩⟩

/-- The answer to a step of the scenario itself, with all that happened in the meantime. -/
structure Report (κ : Type) where
  answer : StepAnswer
  calls : List κ
  notices : List Notice
  removals : List (Key × Nat)
  poolSize : Nat

end SequenceLog.Scenario

import SequenceLog.Scenario.Step
import SequenceLog.Scenario.Timer
/-! The threads of a scenario. The steps of the scenario itself, each branch and each cancelled step
run in threads of their own, and the calls that have a time limit run beside them. -/
namespace SequenceLog.Scenario

inductive Callback where
  | turn (task : TaskId)
  /-- A service call that runs on its own takes a turn. -/
  | call (call : CallId)
  /-- The call is over, and the thread that waits for it is told. -/
  | callOver (call : CallId)
  /-- A branch is over, and the thread that waits for it is told. -/
  | branchOver (task : TaskId) (unstarted : Bool)
  | ring (alarm : Alarm)
  deriving DecidableEq, Repr, Inhabited

inductive CallStage where
  | starting
  | waiting
  | answered
  | over
  deriving DecidableEq, Repr, Inhabited

/-- A call that runs beside the thread that waits for it. -/
structure TimedCall where
  owner : TaskId
  /-- Seconds after which the call is answered. -/
  delay : Binary64
  stage : CallStage
  stopped : Bool
  deriving DecidableEq, Repr, Inhabited

/-- What holds a thread up. -/
inductive Hold where
  | nothing
  | timer
  | lock
  | call (call : CallId)
  /-- The call is being stopped, because its time is up or because the thread is to stop. -/
  | stopping (call : CallId) (expired : Bool)
  | thread (task : TaskId)
  | branches (left : Nat) (stopped : Bool)
  deriving DecidableEq, Repr, Inhabited

/-- What a thread goes on with in its next turn. -/
inductive Work (χ : Type) where
  | starting
  | sleeping
  | operation
  | chore (stage : χ)
  | gathering (branches : List TaskId)
  /-- A cancellation before and after it has told its subject to stop. -/
  | timing (subject : TaskId)
  | joining (subject : TaskId)
  | over

inductive Parent where
  | none
  | gather (task : TaskId)
  | cancel (task : TaskId)
  deriving DecidableEq, Repr, Inhabited

structure Thread (μ χ : Type) where
  parent : Parent
  /-- The steps still to be taken, the current one included. -/
  steps : List (Step μ)
  answers : List StepAnswer
  work : Work χ
  hold : Hold
  /-- Whether its next turn is queued. -/
  queued : Bool
  /-- Whether it learns in its next turn that it is to stop. -/
  interrupted : Bool

instance {μ χ : Type} : Inhabited (Thread μ χ) := ⟨⟨.none, [], [], .over, .nothing, false, false⟩⟩

end SequenceLog.Scenario

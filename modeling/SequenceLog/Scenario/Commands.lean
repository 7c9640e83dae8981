import SequenceLog.CloudWatch.Connection
import SequenceLog.Memory
import SequenceLog.Scenario.Step
/-! The commands of the two transports: connecting and closing, and what only one of them can
do. -/
namespace SequenceLog
namespace Scenario

/-- A transport with commands of its own, which may be suspended as well. -/
class Commanded (τ : Type) (μ χ κ : outParam Type) where
  isConnected : τ → Bool
  perform : τ → μ → Reply τ χ κ Result
  resume : τ → χ → Signal → Reply τ χ κ Result
  wait : χ → Wait

end Scenario

namespace Memory
open Scenario

inductive Command where
  | connect
  | close
  | inject (fault : Fault)
  | setToken (key : Key) (token : Token)
  | deleteStream (key : Key)
  | events (key : Key)
  | eventCount (key : Key)
  | token (key : Key)
  /-- Changes the settings that are given. -/
  | configure (structured autoCreate : Option Bool) (delay : Option Binary64)
  deriving Inhabited

def configure (m : Memory) (structured autoCreate : Option Bool) (delay : Option Binary64) :
    Memory :=
  { m with
    structured := structured.getD m.structured
    autoCreate := autoCreate.getD m.autoCreate
    delay := delay.getD m.delay }

def perform (m : Memory) (command : Command) : Reply Memory Empty Append Result :=
  let answer := fun (m : Memory) (notices : List Notice) (result : Result) =>
    ⟨m, notices.map .notice, .finished (.ok result)⟩
  match command with
  | .connect => answer m.connect [connectedNotice] .nothing
  | .close => answer m.close [closedNotice] .nothing
  | .inject fault => answer (m.inject fault) [] .nothing
  | .setToken key token => answer (m.setToken key token) [] .nothing
  | .deleteStream key => answer (m.deleteStream key) [] .nothing
  | .events key => answer m [] (.events (m.events key))
  | .eventCount key => answer m [] (.count (m.events key).length)
  | .token key => answer m [] (.token (m.token key))
  | .configure structured autoCreate delay =>
    answer (m.configure structured autoCreate delay) [] .nothing

instance : Commanded Memory Command Empty Append where
  isConnected m := m.connected
  perform := perform
  resume _ stage := nomatch stage
  wait stage := nomatch stage

end Memory

namespace CloudWatch
open Scenario

inductive Command where
  | connect
  | close
  | healthCheck
  | script (method : Method) (behaviours : List Behaviour)

instance : Inhabited Command := ⟨.connect⟩

def choreResult : Option Bool → Result
  | some b => .flag b
  | none => .nothing

def answerChore {ς : Type} (reply : ChoreReply ς) : Reply (CloudWatch ς) Chore Call Result :=
  ⟨reply.state, reply.remarks, match reply.progress with
    | .suspended chore => .suspended chore
    | .finished result => .finished (result.map choreResult)⟩

def perform (c : CloudWatch Script) : Command → Reply (CloudWatch Script) Chore Call Result
  | .connect => answerChore c.connect
  | .close => answerChore c.close
  | .healthCheck => answerChore c.healthCheck
  | .script method behaviours =>
    ⟨{ c with service := c.service.extend method behaviours }, [], .finished (.ok .nothing)⟩

instance : Commanded (CloudWatch Script) Command Chore Call where
  isConnected c := c.connected
  perform := perform
  resume c chore signal := answerChore (c.resumeChore chore signal)
  wait := choreWait

end CloudWatch
end SequenceLog

import SequenceLog.Scenario.Commands
/-! Runs. A run is a session with a record of how it came about: the moves that were made, the calls
they belonged to and how each call ended. Moves come in any order. A task may be told to stop
wherever it is suspended, and the transport may be commanded at any time between turns. -/
namespace SequenceLog
open Scenario

/-- A batch of one record, with just the room that this takes. -/
def Batch.single : Batch := ⟨.ofRoom 1, [default]⟩

/-- Calls are numbered in the order in which they began. -/
abbrev CallId := Nat

/-- What may come next in a session: a turn of a task, or something done between turns. `μ` holds
the commands of the transport and `χ` the stages in which these are suspended. -/
inductive Move (μ χ : Type) where
  | start (task : TaskId) (operation : Operation)
  | resume (task : TaskId) (signal : Signal)
  | abandon (task : TaskId)
  | remove (key : Key) (writer : Option WriterId)
  | closePool
  | openWriter (key : Key) (registry : Registry) (token : Token) (maxAttempts : Int)
  | command (command : μ)
  | chore (stage : χ) (signal : Signal)

namespace Session
variable {τ σ κ μ χ : Type}

/-- Only an idle task can start an operation, and only a writer that was opened can be written to.
Only a task with an operation under way can go on. -/
def allows (s : Session τ σ κ) : Move μ χ → Bool
  | .start task (.write id _) => (s.active task).isNone && id < s.writers.length
  | .start task _ => (s.active task).isNone
  | .resume task _ => (s.active task).isSome
  | _ => true

/-- Makes a move. The result is that of the call whose turn it was, if that ended. -/
def play [Transport τ σ κ] [Commanded τ μ χ κ] (s : Session τ σ κ) :
    Move μ χ → Session τ σ κ × Option (Except Fault Answer)
  | .start task operation => s.start task operation
  | .resume task signal => s.resume task signal
  | .abandon task => (s.abandon task, none)
  | .remove key writer => (s.remove key writer, none)
  | .closePool => (s.closePool, none)
  | .openWriter key registry token maxAttempts =>
    ((s.openWriter key registry token maxAttempts).session, none)
  | .command command => (s.absorb (Commanded.perform s.transport command), none)
  | .chore stage signal => (s.absorb (Commanded.resume s.transport stage signal), none)

end Session

/-- A move that was made, with the session before and after it. What happened in it is what the
session has noted after it. -/
structure Turn (τ σ κ μ χ : Type) where
  move : Move μ χ
  /-- The call whose turn it was. -/
  call : Option CallId
  before : Session τ σ κ
  after : Session τ σ κ
  result : Option (Except Fault Answer)

structure Run (τ σ κ μ χ : Type) where
  session : Session τ σ κ
  /-- The calls that began so far. -/
  operations : List Operation
  /-- The call that a task began last. -/
  call : TaskId → CallId
  turns : List (Turn τ σ κ μ χ)

abbrev MemoryRun := Run Memory SleepingAppend Append Memory.Command Empty
abbrev MemoryTurn := Turn Memory SleepingAppend Append Memory.Command Empty

abbrev ScriptedRun :=
  Run (CloudWatch CloudWatch.Script) CloudWatch.Stage CloudWatch.Call CloudWatch.Command
    CloudWatch.Chore

/-- What a writer and its transport and registry had to do with each other. -/
inductive Deed where
  | sent (request : Append)
  | settled (result : Except Fault Token)
  | removed (key : Key)

def Happening.deed? {κ : Type} (id : WriterId) : Happening κ → Option Deed
  | .sent writer request => if writer = id then some (.sent request) else none
  | .settled writer result => if writer = id then some (.settled result) else none
  | .removal key writer => if writer = id then some (.removed key) else none
  | _ => none

def Session.deeds {τ σ κ : Type} (s : Session τ σ κ) (id : WriterId) : List Deed :=
  s.happened.filterMap (Happening.deed? id)

def Turn.deeds {τ σ κ μ χ : Type} (turn : Turn τ σ κ μ χ) (id : WriterId) : List (CallId × Deed) :=
  match turn.call with
  | some call => (turn.after.deeds id).map (call, ·)
  | none => []

namespace Run
variable {τ σ κ μ χ : Type}

def new (transport : τ) (createStreams : Bool) (maxAttempts : Int) : Run τ σ κ μ χ :=
  ⟨.new transport (.new createStreams maxAttempts), [], fun _ => 0, []⟩

/-- The call that a move belongs to. One that starts gets the next number. -/
def caller (r : Run τ σ κ μ χ) : Move μ χ → Option CallId
  | .start _ _ => some r.operations.length
  | .resume task _ => some (r.call task)
  | _ => none

def begin (r : Run τ σ κ μ χ) : Move μ χ → Run τ σ κ μ χ
  | .start task operation => { r with
      operations := r.operations ++ [operation]
      call := fun t => if t = task then r.operations.length else r.call t }
  | _ => r

variable [Transport τ σ κ] [Commanded τ μ χ κ]

/-- Makes a move if it is allowed. The session notes only what happens in this one. -/
def step (r : Run τ σ κ μ χ) (move : Move μ χ) : Run τ σ κ μ χ :=
  if r.session.allows move then
    let before := { r.session with happened := [] }
    let (after, result) := before.play move
    { r.begin move with
      session := after
      turns := r.turns ++ [⟨move, r.caller move, before, after, result⟩] }
  else r

def play (r : Run τ σ κ μ χ) (moves : List (Move μ χ)) : Run τ σ κ μ χ := moves.foldl step r

omit [Transport τ σ κ] [Commanded τ μ χ κ]

def chronicle (r : Run τ σ κ μ χ) (id : WriterId) : List (CallId × Deed) :=
  r.turns.flatMap (·.deeds id)

def results (r : Run τ σ κ μ χ) (call : CallId) : List (Except Fault Answer) :=
  r.turns.filterMap fun turn => if turn.call = some call then turn.result else none

/-- The writers as they were when they were opened. -/
def opened (r : Run τ σ κ μ χ) : List Writer :=
  r.turns.flatMap fun turn => turn.after.writers.drop turn.before.writers.length

def firstToken (r : Run τ σ κ μ χ) (id : WriterId) : Token := (r.opened[id]?.getD default).token

/-- A call asks a writer to append events: it was made to write a batch that is not empty, and
these are the events of the batch. -/
def Asks (r : Run τ σ κ μ χ) (id : WriterId) (call : CallId) (events : List LogEvent) : Prop :=
  ∃ batch, r.operations[call]? = some (.write id batch) ∧ batch.records ≠ [] ∧
    batch.events = .ok events

end Run
end SequenceLog

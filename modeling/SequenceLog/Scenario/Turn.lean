import SequenceLog.Json.Key
import SequenceLog.Scenario.Answer
import SequenceLog.Scenario.Commands
/-! Turns of threads and calls. In its turn a thread goes on with the step in which it was suspended
and takes the steps after it, until it is suspended again or over. -/
namespace SequenceLog.Scenario.Schedule
variable {τ σ κ μ χ : Type}

def withWriter (name : Text)
    (step : WriterId → Act τ σ κ μ χ (Option Outcome)) :
    Act τ σ κ μ χ (Option Outcome) := do
  match (← get).names.get? name with
  | some id => step id
  | none => return some (.error (.noSuchWriter name))

/-- A part of a key can change. -/
def noKey (part : Json.Value) : Fault :=
  .plain .wrongType ("unhashable type: '" ++ part.typeName ++ "'") none

/-- What a thread is told about its wait. There is no signal yet while its call has first to be
stopped. A call that is over counts, even for a thread that is to stop. -/
def signal? (task : TaskId) (hold : Hold) (interrupted : Bool) : Act τ σ κ μ χ (Option Signal) := do
  match hold with
  | .call id =>
    if ((← get).call id).stage = .over then
      dropTimer (.limit task id)
      return some .ready
    else
      modifyThread task ({ · with hold := .stopping id (!interrupted) })
      stopCall id
      return none
  | .stopping id expired =>
    dropTimer (.limit task id)
    return some (if interrupted || !expired then .interrupted else .expired)
  | _ => return some (if interrupted then .interrupted else .ready)

/-- A call waits for its delay and is then over. With a delay below zero it takes another turn. -/
def takeCallTurn (id : CallId) : Act τ σ κ μ χ Unit := do
  let c := (← get).call id
  if c.stage = .starting ∧ !c.stopped ∧ !c.delay.isZero then
    if c.delay.isNonpositive then
      modifyCall id ({ · with stage := .answered })
      enqueue (.call id)
    else
      startTimer c.delay (.answer id)
      modifyCall id ({ · with stage := .waiting })
  else
    dropTimer (.answer id)
    modifyCall id ({ · with stage := .over })
    enqueue (.callOver id)

def wakeForCall (task : TaskId) (id : CallId) : Act τ σ κ μ χ Unit := do
  match ((← get).thread task).hold with
  | .call other | .stopping other _ => if other = id then wake task
  | _ => pure ()

def ring : Alarm → Act τ σ κ μ χ Unit
  | .wake task => wake task
  | .answer id => do
    if ((← get).call id).stage = .waiting then
      modifyCall id ({ · with stage := .answered })
      enqueue (.call id)
  | .limit task id => do
    if ((← get).thread task).hold = .call id then wake task

variable [Transport τ σ κ] [Commanded τ μ χ κ]

omit [Commanded τ μ χ κ] in
def operate (task : TaskId) (step : Step μ) (turn : Session τ σ κ × Option (Except Fault Answer)) :
    Act τ σ κ μ χ (Option Outcome) := do
  modify fun s => { s with session := turn.1 }
  collect
  match turn.2 with
  | some result => return some (← present step result)
  | none =>
    suspendFor task .operation ((turn.1.wait? task).getD .lock)
    return none

omit [Transport τ σ κ] in
def commandReply (task : TaskId) (reply : Reply τ χ κ Result) :
    Act τ σ κ μ χ (Option Outcome) := do
  modify fun s => { s with session := s.session.absorb reply }
  collect
  match reply.progress with
  | .finished (.ok result) => return some (.ok result)
  | .finished (.error fault) => return some (.error (.fault fault))
  | .suspended chore =>
    suspendFor task (.chore chore) (Commanded.wait τ chore)
    return none

/-- Takes a step. The outcome is there unless the thread was suspended. -/
def takeStep (task : TaskId) (step : Step μ) :
    Act τ σ κ μ χ (Option Outcome) := do
  let s ← get
  let started := fun operation => operate task step (s.session.start task operation)
  let ok := fun result => some (Except.ok result)
  match step with
  | .append request => started (.append request)
  | .ensureStream key => started (.ensureStream key)
  | .isConnected => return ok (.flag (Commanded.isConnected s.session.transport))
  | .command command => commandReply task (Commanded.perform s.session.transport command)
  | .getWriter key _ => started (.getWriter key)
  | .remove key none =>
    modify fun s => { s with session := s.session.remove key none }
    collect
    return ok .nothing
  | .remove key (some name) => withWriter name fun id => do
    modify fun s => { s with session := s.session.remove key (some id) }
    collect
    return ok .nothing
  | .contains parts =>
    match Json.Value.changeableItem? parts, parts with
    | some part, _ => return some (.error (.fault (noKey part)))
    | none, [.text group, .text stream] =>
      return ok (.flag (s.session.pool.writers.get? ⟨group, stream⟩).isSome)
    | none, _ => return ok (.flag false)
  | .poolSize => return ok (.count s.session.pool.writers.size)
  | .closePool =>
    modify fun s => { s with session := s.session.closePool }
    return ok .nothing
  | .openWriter key registry token maxAttempts _ =>
    let opened := s.session.openWriter key registry token maxAttempts
    modify fun s => { s with session := opened.session }
    match opened.progress with
    | .finished result => return some (← present step result)
    | .suspended _ => return none
  | .write name batch => withWriter name fun id => started (.write id batch)
  | .closeWriter name => withWriter name fun _ => return ok .nothing
  | .inspect name => withWriter name fun id =>
    let w := s.session.writer id
    return ok (.info ⟨w.key, w.token, w.status, w.describe⟩)
  | .sleep delay =>
    pause task .sleeping delay
    return none
  | .gather [] => return ok (.branches [])
  | .gather branches =>
    let children ← branches.mapM (spawn (.gather task))
    suspend task (.gathering children) (.branches children.length false)
    return none
  | .cancel delay subject =>
    let child ← spawn (.cancel task) [subject]
    pause task (.timing child) delay
    return none

def takeSteps (task : TaskId) : List (Step μ) → Act τ σ κ μ χ Unit
  | [] => finish task false
  | step :: rest => do
    if let some outcome ← takeStep task step then
      complete task step outcome
      takeSteps task rest

def goOn (task : TaskId) (step : Step μ) (t : Thread μ χ) :
    Act τ σ κ μ χ (Option Outcome) := do
  let stopped := some (Except.error (Obstacle.fault .stopped))
  match t.work with
  | .starting | .over => return none
  | .sleeping => return if t.interrupted then stopped else some (.ok .nothing)
  | .operation =>
    let some signal ← signal? task t.hold t.interrupted | return none
    operate task step ((← get).session.resume task signal)
  | .chore chore =>
    let some signal ← signal? task t.hold t.interrupted | return none
    commandReply task (Commanded.resume (← get).session.transport chore signal)
  | .gathering branches =>
    if t.interrupted then return stopped
    let s ← get
    return some (.ok (.branches (branches.map fun branch => (s.thread branch).answers)))
  | .timing subject =>
    if t.interrupted then return stopped
    let _ ← requestStop (← get).threads.length subject
    if (← get).isOver subject then return some (← subjectOutcome subject)
    suspend task (.joining subject) (.thread subject)
    return none
  | .joining subject =>
    if t.interrupted then return stopped
    return some (← subjectOutcome subject)

def takeTurn (task : TaskId) : Act τ σ κ μ χ Unit := do
  let t := (← get).thread task
  modifyThread task ({ · with queued := false, interrupted := false })
  if t.hold = .timer then dropTimer (.wake task)
  match t.work, t.steps with
  | .starting, steps => if t.interrupted then finish task true else takeSteps task steps
  | _, [] => pure ()
  | _, step :: rest =>
    if let some outcome ← goOn task step t then
      complete task step outcome
      takeSteps task rest

def dispatch : Callback → Act τ σ κ μ χ Unit
  | .turn task => takeTurn task
  | .call id => takeCallTurn id
  | .callOver id => do wakeForCall ((← get).call id).owner id
  | .branchOver task unstarted => do
    match ((← get).thread task).hold with
    | .branches left stopped =>
      if unstarted || left ≤ 1 then
        modifyThread task fun t =>
          { t with hold := .nothing, interrupted := t.interrupted || unstarted || stopped }
        wake task
      else modifyThread task ({ · with hold := .branches (left - 1) stopped })
    | _ => pure ()
  | .ring alarm => ring alarm

def run : (fuel : Nat) → Act τ σ κ μ χ Unit
  | 0 => pure ()
  | fuel + 1 => do
    let s ← get
    unless s.isOver 0 do
      match s.round with
      | callback :: rest =>
        set { s with round := rest }
        dispatch callback
        run fuel
      | [] =>
        let s := s.beginRound
        unless s.round.isEmpty do
          set s
          run fuel

end SequenceLog.Scenario.Schedule

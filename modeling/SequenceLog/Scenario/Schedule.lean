import SequenceLog.Scenario.Thread
/-! The schedule that decides whose turn it is. Time is virtual and counted in microseconds. Turns
are taken in rounds: what is queued during a round has its turn in the next one, in the order in
which it was queued, and one thread runs until it is suspended. Only when nothing is queued at the
end of a round does time move on to the next timer. Timers that are due ring at the end of the round
that begins. -/
namespace SequenceLog.Scenario

structure Schedule (τ σ κ μ χ : Type) where
  session : Session τ σ κ
  now : Instant
  /-- What is still to be done in the current round. -/
  round : List Callback
  /-- What was queued for the next round. -/
  queue : List Callback
  timers : Timers
  /-- How many timers were started so far. -/
  timersStarted : Nat
  threads : List (Thread μ χ)
  calls : List TimedCall
  names : Table Text WriterId
  /-- The writers in the order in which they appeared in answers. -/
  numbering : List WriterId
  /-- What happened since the last report. -/
  happened : List (Happening κ)
  reports : List (Report κ)

namespace Schedule
variable {τ σ κ μ χ : Type}

abbrev Act (τ σ κ μ χ α : Type) := StateM (Schedule τ σ κ μ χ) α

def thread (s : Schedule τ σ κ μ χ) (task : TaskId) : Thread μ χ := (s.threads[task]?).getD default

def isOver (s : Schedule τ σ κ μ χ) (task : TaskId) : Bool :=
  match (s.thread task).work with
  | .over => true
  | _ => false

def call (s : Schedule τ σ κ μ χ) (id : CallId) : TimedCall := (s.calls[id]?).getD default

def modifyThread (task : TaskId) (f : Thread μ χ → Thread μ χ) : Act τ σ κ μ χ Unit :=
  modify fun s => { s with threads := s.threads.modify task f }

def modifyCall (id : CallId) (f : TimedCall → TimedCall) : Act τ σ κ μ χ Unit :=
  modify fun s => { s with calls := s.calls.modify id f }

def enqueue (callback : Callback) : Act τ σ κ μ χ Unit :=
  modify fun s => { s with queue := s.queue ++ [callback] }

def startTimer (delay : Binary64) (alarm : Alarm) : Act τ σ κ μ χ Unit :=
  modify fun s =>
    let number := s.timersStarted + 1
    { s with timers := s.timers.start (.after s.now number delay) alarm, timersStarted := number }

/-- A timer that is dropped does not ring even if it was due in this round. -/
def dropTimer (alarm : Alarm) : Act τ σ κ μ χ Unit :=
  modify fun s => { s with
    timers := s.timers.drop alarm
    round := s.round.filter (· ≠ .ring alarm) }

def wake (task : TaskId) : Act τ σ κ μ χ Unit := do
  unless ((← get).thread task).queued do
    modifyThread task ({ · with queued := true })
    enqueue (.turn task)

def suspend (task : TaskId) (work : Work χ) (hold : Hold) : Act τ σ κ μ χ Unit :=
  modifyThread task ({ · with work := work, hold := hold })

/-- Suspends a thread for a delay in seconds. Where that is not above zero, the others have a turn
first. -/
def pause (task : TaskId) (work : Work χ) (delay : Binary64) : Act τ σ κ μ χ Unit := do
  if delay.isNonpositive then
    suspend task work .nothing
    wake task
  else
    startTimer delay (.wake task)
    suspend task work .timer

def spawn (parent : Parent) (steps : List (Step μ)) : Act τ σ κ μ χ TaskId := do
  let task := (← get).threads.length
  modify fun s => { s with
    threads := s.threads ++ [⟨parent, steps, [], .starting, .nothing, true, false⟩] }
  enqueue (.turn task)
  return task

/-- Takes note of what happened in the session and wakes the tasks that were granted a lock. -/
def collect : Act τ σ κ μ χ Unit := do
  let happened := (← get).session.happened
  modify fun s => { s with
    session := { s.session with happened := [] }
    happened := s.happened ++ happened }
  for happening in happened do
    match happening with
    | .wake task => wake task
    | _ => pure ()

/-- A call is told to stop. It learns of it in its next turn. -/
def stopCall (id : CallId) : Act τ σ κ μ χ Unit := do
  match ((← get).call id).stage with
  | .over => pure ()
  | .starting | .answered => modifyCall id ({ · with stopped := true })
  | .waiting =>
    modifyCall id ({ · with stage := .answered, stopped := true })
    enqueue (.call id)

/-- Suspends a thread in what its operation or chore waits for. A call whose limit is not above
zero is made all the same, and stopped before its first turn. -/
def suspendFor (task : TaskId) (work : Work χ) : Wait → Act τ σ κ μ χ Unit
  | .pause delay => pause task work delay
  | .lock => suspend task work .lock
  | .call delay limit => do
    let id := (← get).calls.length
    let outOfTime := limit.isNonpositive
    unless outOfTime do startTimer limit (.limit task id)
    modify fun s => { s with calls := s.calls ++ [⟨task, delay, .starting, outOfTime⟩] }
    enqueue (.call id)
    suspend task work (if outOfTime then .stopping id true else .call id)

/-- Tells a thread to stop: whatever it waits for is given up, and it learns of it in its next
turn. A thread whose turn is queued learns of it then. Threads that wait for others pass it on.
The result says whether there was anything to stop. -/
def requestStop : (fuel : Nat) → TaskId → Act τ σ κ μ χ Bool
  | 0, _ => return false
  | fuel + 1, task => do
    let t := (← get).thread task
    if let .over := t.work then return false
    let interrupt := modifyThread task ({ · with interrupted := true })
    if t.queued then interrupt
    else match t.hold with
      | .thread other => if !(← requestStop fuel other) then interrupt
      | .branches left _ =>
        let branches := match t.work with
          | .gathering branches => branches
          | _ => []
        let mut stopped := false
        for branch in branches do
          if ← requestStop fuel branch then stopped := true
        if stopped then modifyThread task ({ · with hold := .branches left true }) else interrupt
      | hold =>
        if hold = .lock then modify fun s => { s with session := s.session.abandon task }
        interrupt
        wake task
    return true

/-- Begins a round with what is queued, followed by the timers on top that are due. -/
def beginRound (s : Schedule τ σ κ μ χ) : Schedule τ σ κ μ χ :=
  let timers := s.timers.tidy
  let now := match s.queue, timers.next? with
    | [], some due => if s.now.before due then due else s.now
    | _, _ => s.now
  let (alarms, timers) := timers.takeDue now
  { s with now := now, round := s.queue ++ alarms.map .ring, queue := [], timers := timers }

end Schedule
end SequenceLog.Scenario

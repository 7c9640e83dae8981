import SequenceLog.Scenario.Schedule
/-! How the steps of a thread end. Each step leaves an answer; a thread without further steps is
over. Writers are numbered in the order in which they appear in answers. -/
namespace SequenceLog.Scenario.Schedule
variable {τ σ κ μ χ : Type}

def writerNumber (id : WriterId) : Act τ σ κ μ χ Nat := do
  let s ← get
  match s.numbering.findIdx? (· = id) with
  | some number => return number
  | none =>
    set { s with numbering := s.numbering ++ [id] }
    return s.numbering.length

def presentWriter (name : Option Text) (id : WriterId) : Act τ σ κ μ χ Result := do
  if let some name := name then modify fun s => { s with names := s.names.insert name id }
  let number ← writerNumber id
  return .writer number ((← get).session.writer id).token

def present (step : Step μ) : Except Fault Answer → Act τ σ κ μ χ Outcome
  | .error fault => return .error (.fault fault)
  | .ok .nothing => return .ok .nothing
  | .ok (.token token) => return .ok (.token token)
  | .ok (.writer id) => do
    let name := match step with
      | .getWriter _ name | .openWriter _ _ _ _ name => name
      | _ => none
    return .ok (← presentWriter name id)

/-- Adds the answer of a thread's current step. Answers to the steps of the scenario itself are
reported together with what happened since the last report. -/
def complete (task : TaskId) (step : Step μ) (outcome : Except Obstacle Result) :
    Act τ σ κ μ χ Unit := do
  let s ← get
  let state := do
    let id ← s.names.get? (← step.writerName?)
    let w := s.session.writer id
    return (w.token, w.status)
  let answer := ⟨outcome, state⟩
  modifyThread task fun t => { t with steps := t.steps.tail, answers := t.answers ++ [answer] }
  if task = 0 then
    let removals ← s.happened.filterMapM fun
      | .removal key id =>
        if (s.session.writer id).registry = .pool then return none
        else return some (key, ← writerNumber id)
      | _ => return none
    let report := {
      answer := answer
      calls := s.happened.filterMap Happening.call?
      notices := s.happened.filterMap Happening.notice?
      removals := removals
      poolSize := s.session.pool.writers.size }
    modify fun s => { s with happened := [], reports := s.reports ++ [report] }

def finish (task : TaskId) (unstarted : Bool) : Act τ σ κ μ χ Unit := do
  modifyThread task ({ · with work := .over, hold := .nothing })
  match ((← get).thread task).parent with
  | .none => pure ()
  | .gather parent => enqueue (.branchOver parent unstarted)
  | .cancel parent =>
    if ((← get).thread parent).hold = .thread task then wake parent

/-- What a cancelled step came to: its own outcome, if it got that far. -/
def subjectOutcome (subject : TaskId) : Act τ σ κ μ χ Outcome := do
  match ((← get).thread subject).answers with
  | answer :: _ => return answer.outcome
  | [] => return .error (.fault .stopped)

end SequenceLog.Scenario.Schedule

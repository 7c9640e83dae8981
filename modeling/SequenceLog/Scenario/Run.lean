import SequenceLog.Scenario.Turn
/-! Running a scenario from its start to its end. -/
namespace SequenceLog.Scenario
open Schedule

structure Final (τ : Type) where
  transport : τ
  connected : Bool
  pool : List (Key × Nat)
  writers : List Writer

variable {τ σ κ μ χ : Type}

def initial (transport : τ) (pool : Pool) (steps : List (Step μ)) : Schedule τ σ κ μ χ :=
  { session := .new transport pool
    now := ⟨0, 0⟩
    round := []
    queue := [.turn 0]
    timers := .empty
    timersStarted := 0
    threads := [⟨.none, steps, [], .starting, .nothing, true, false⟩]
    calls := []
    names := .empty
    numbering := []
    happened := []
    reports := [] }

/-- Each step takes a bounded number of turns and rounds for every attempt it may make. -/
def turnLimit (pool : Pool) (steps : List (Step μ)) : Nat :=
  48 * (Step.stepsSize steps + 1) * (max pool.maxAttempts.toNat (Step.stepsAttempts steps) + 8)

/-- Group and stream in the order of their code points. -/
def keyBefore (a b : Key) : Bool :=
  a.group < b.group || (a.group = b.group && !(b.stream < a.stream))

def sortedByKey {α : Type} (t : Table Key α) : List (Key × α) :=
  t.entries.mergeSort fun a b => keyBefore a.1 b.1

/-- Writers that appear only at the end are numbered in the order of their keys. -/
def final [Commanded τ μ χ κ] : Act τ σ κ μ χ (Final τ) := do
  let s ← get
  let pool ← (sortedByKey s.session.pool.writers).mapM fun (key, id) => do
    return (key, ← writerNumber id)
  let numbering := (← get).numbering
  return ⟨s.session.transport, Commanded.isConnected s.session.transport, pool,
    numbering.map s.session.writer⟩

def runSteps [Transport τ σ κ] [Commanded τ μ χ κ] (transport : τ) (pool : Pool)
    (steps : List (Step μ)) : List (Report κ) × Final τ :=
  let act : Act τ σ κ μ χ (Final τ) := do
    run (turnLimit pool steps)
    final
  let (final, schedule) := act (initial transport pool steps)
  (schedule.reports, final)

end SequenceLog.Scenario

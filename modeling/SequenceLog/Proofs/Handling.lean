import SequenceLog.Proofs.Soundness
import SequenceLog.Proofs.Storage
/-! How the memory handles the calls that are made to it directly. An append that is received is carried
out in the same turn, or sleeps and is carried out when it wakes up, unless it is stopped before. Main
statement: `handled_step`. -/
namespace SequenceLog
open Scenario

/-- A move that calls or commands the transport itself. -/
def Move.Direct : Move Memory.Command Empty → Prop
  | .start _ (.append _) | .start _ (.ensureStream _) | .resume _ _ | .abandon _ | .command _ => True
  | _ => False

/-- What a turn does to the memory, and how the call whose turn it is comes out. -/
inductive Turn.Handles (turn : MemoryTurn) : Prop
  | refused {task request} : turn.move = .start task (.append request) →
      turn.before.transport.connected = false →
      turn.after.transport = turn.before.transport →
      turn.result = some (.error Memory.notConnected) → Handles turn
  | received {task request} : turn.move = .start task (.append request) →
      turn.before.transport.connected = true →
      turn.after.transport = turn.before.transport.receive request →
      turn.result = none → Handles turn
  | prompt {task request} : turn.move = .start task (.append request) →
      turn.before.transport.connected = true →
      turn.after.transport = (turn.before.transport.commit request).1.receive request →
      turn.result = some ((turn.before.transport.commit request).2.map .token) → Handles turn
  | woken {task asleep} : turn.move = .resume task .ready →
      turn.before.active task = some (.transport asleep) →
      turn.after.transport = (turn.before.transport.commit asleep.request).1 →
      turn.result = some ((turn.before.transport.commit asleep.request).2.map .token) → Handles turn
  | stopped {task signal asleep} : turn.move = .resume task signal → signal ≠ .ready →
      turn.before.active task = some (.transport asleep) →
      turn.after.transport = turn.before.transport →
      turn.result = some (.error .stopped) → Handles turn
  | prepared {task key} : turn.move = .start task (.ensureStream key) →
      turn.after.transport = (turn.before.transport.ensureStream key).state → Handles turn
  | commanded {command} : turn.move = .command command →
      turn.after.transport = (turn.before.transport.perform command).state →
      turn.result = none → Handles turn
  | abandoned {task} : turn.move = .abandon task →
      turn.after.transport = turn.before.transport → turn.result = none → Handles turn

def Turn.append? (turn : MemoryTurn) : Option Append :=
  match turn.move with
  | .start _ (.append request) => some request
  | .resume task _ =>
    match turn.before.active task with
    | some (.transport asleep) => some asleep.request
    | _ => none
  | _ => none

/-- Nothing is under way but appends that sleep. -/
def Run.Bare (r : MemoryRun) : Prop :=
  ∀ task activity, r.session.active task = some activity → ∃ asleep, activity = .transport asleep

/-- The run goes on with a turn that the memory handles. -/
structure Handled (r r' : MemoryRun) (turn : MemoryTurn) : Prop where
  turns : r'.turns = r.turns ++ [turn]
  caller : turn.call = r.caller turn.move
  before : turn.before = r.session.fresh
  after : turn.after.transport = r'.session.transport
  handles : turn.Handles
  bare : r'.Bare
  /-- Who sleeps now slept before, or has just made an append. -/
  sleeps : ∀ task asleep, r'.session.active task = some (.transport asleep) →
    (r.session.active task = some (.transport asleep) ∧ r'.call task = r.call task) ∨
      (turn.move = .start task (.append asleep.request) ∧ turn.call = some (r'.call task) ∧
        turn.result = none)
  operations : r'.operations = r.operations ++ match turn.move with
    | .start _ operation => [operation]
    | _ => []

section Steps
variable {r r' : MemoryRun} {turn : MemoryTurn} {task : TaskId}

theorem Handled.before_transport (handled : Handled r r' turn) :
    turn.before.transport = r.session.transport :=
  congrArg (·.transport) handled.before

/-- A turn in which the transport was called tells what it replied. -/
structure Turn.Relays (turn : MemoryTurn) (reply : Reply Memory SleepingAppend Append Token) :
    Prop where
  after : turn.after.transport = reply.state
  finished : ∀ result, reply.progress = .finished result → turn.result = some (result.map .token)
  suspended : ∀ asleep, reply.progress = .suspended asleep → turn.result = none

theorem Turn.handles_append {request : Append} (move : turn.move = .start task (.append request))
    (relays : turn.Relays (turn.before.transport.append request)) : turn.Handles := by
  have after := relays.after
  cases connected : turn.before.transport.connected with
  | false =>
    rw [Memory.append_unconnected connected] at after
    refine .refused move connected after (relays.finished (.error Memory.notConnected) ?_)
    rw [Memory.append_unconnected connected]
  | true =>
    cases prompt : turn.before.transport.delay.isZero with
    | true =>
      obtain ⟨state, progress⟩ := Memory.append_prompt connected prompt request
      exact .prompt move connected (after.trans state) (relays.finished _ progress)
    | false =>
      rw [Memory.append_delayed connected prompt] at after
      refine .received move connected after (relays.suspended ⟨request, turn.before.transport.delay⟩ ?_)
      rw [Memory.append_delayed connected prompt]

theorem Turn.handles_resume {signal : Signal} {asleep : SleepingAppend}
    (move : turn.move = .resume task signal)
    (under : turn.before.active task = some (.transport asleep))
    (relays : turn.Relays (turn.before.transport.resume asleep signal)) : turn.Handles := by
  cases signal with
  | ready => exact .woken move under relays.after (relays.finished _ rfl)
  | expired | interrupted =>
    exact .stopped move nofun under relays.after (relays.finished (.error .stopped) rfl)

/-- What sleeps after a turn of a task slept before, but for what this task has come to. -/
theorem Takes.sleeps {reply : Reply Memory SleepingAppend Append Token}
    (takes : Takes r r' task (r.session.fresh.relay reply)) {other : TaskId}
    {activity : Activity SleepingAppend} (under : r'.session.active other = some activity) :
    (r.session.active other = some activity ∧ r'.call other = r.call other) ∨
      (other = task ∧ ∃ asleep, activity = .transport asleep ∧ reply.progress = .suspended asleep) := by
  by_cases same : other = task
  · subst same
    rw [takes.active_self] at under
    unfold Session.relay Stepped.activity? at under
    cases progress : reply.progress with
    | suspended asleep => exact .inr ⟨rfl, asleep, by simpa [progress] using under.symm, rfl⟩
    | finished result => simp [progress] at under
  · exact .inl ⟨takes.active_other same ▸ under, takes.others other same⟩

theorem Takes.bare {reply : Reply Memory SleepingAppend Append Token}
    (takes : Takes r r' task (r.session.fresh.relay reply)) (bare : r.Bare) : r'.Bare := by
  intro other activity under
  rcases takes.sleeps under with ⟨slept, -⟩ | ⟨-, asleep, sleeps, -⟩
  · exact bare other activity slept
  · exact ⟨asleep, sleeps⟩

theorem Takes.relays {reply : Reply Memory SleepingAppend Append Token}
    (takes : Takes r r' task (r.session.fresh.relay reply)) (after : turn.after = r'.session)
    (result : turn.result = (r.session.fresh.relay reply).result?) : turn.Relays reply where
  after := by
    rw [after, takes.session]
    rfl
  finished came progress := by simp [result, Session.relay, Stepped.result?, progress]
  suspended asleep progress := by simp [result, Session.relay, Stepped.result?, progress]

theorem handled_step (sound : Sound r) (bare : r.Bare) {move : Move Memory.Command Empty}
    (direct : move.Direct) :
    r.step move = r ∨ ∃ turn, turn.move = move ∧ Handled r (r.step move) turn := by
  have steps := steps_step sound move
  generalize made : r.step move = r' at steps ⊢
  cases steps with
  | stay => exact .inl rfl
  | @start task operation _ idle known operations call takes =>
    have turns := takes.turns_eq made
    cases operation with
    | append request =>
      have slept := (Memory.adds_append r.session.transport request).stage
      refine .inr ⟨_, rfl, turns, congrArg some call, rfl, rfl,
        Turn.handles_append rfl (takes.relays rfl rfl), takes.bare bare, fun other asleep under => ?_,
        operations⟩
      rcases takes.sleeps under with before | ⟨rfl, asleep', same, progress⟩
      · exact .inl before
      · cases same
        rw [slept asleep progress]
        exact .inr ⟨rfl, rfl, (takes.relays rfl rfl).suspended asleep progress⟩
    | ensureStream key =>
      obtain ⟨result, ended⟩ := Memory.ensureStream_finished r.session.transport key
      refine .inr ⟨_, rfl, turns, congrArg some call, rfl, rfl,
        .prepared rfl (takes.relays rfl rfl).after, takes.bare bare, fun other asleep under => ?_,
        operations⟩
      rcases takes.sleeps under with before | ⟨-, asleep', -, progress⟩
      · exact .inl before
      · cases ended.symm.trans progress
    | getWriter key | write id batch => cases direct
  | @resume task signal activity _ under operations call takes =>
    have turns := takes.turns_eq made
    obtain ⟨asleep, rfl⟩ := bare task activity under
    refine .inr ⟨_, rfl, turns, congrArg some (congrFun call task), rfl, rfl,
      Turn.handles_resume rfl under (takes.relays rfl rfl), takes.bare bare,
      fun other asleep' under' => ?_, by simp [operations]⟩
    rcases takes.sleeps under' with before | ⟨-, asleep'', -, progress⟩
    · exact .inl before
    · cases signal <;> cases progress
  | pass between =>
    have active := (Run.pass_extension between).active
    refine .inr ⟨_, rfl, rfl, between.symm, rfl, rfl, ?_, ?_, ?_, ?_⟩
    · cases move with
      | start task operation | resume task signal => cases between
      | command command => exact .commanded rfl rfl rfl
      | abandon task => exact .abandoned rfl (Session.abandon_transport ..) rfl
      | chore stage signal => cases stage
      | remove | closePool | openWriter => cases direct
    · intro task activity under
      exact bare task activity (congrFun active task ▸ under)
    · intro task asleep under
      exact .inl ⟨congrFun active task ▸ under, rfl⟩
    · cases move with
      | start task operation => cases between
      | _ => simp [Run.pass]

end Steps
end SequenceLog

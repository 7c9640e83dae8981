import SequenceLog.Proofs.SingleUse
/-! What a memory stores while it is closed. Closing forgets all streams, and an append that is made
of a closed memory stores nothing. But the connection is looked at only when an append is made: one
that sleeps while the memory is closed is carried out when it wakes up. Main statement:
`closed_stays_empty`. -/
namespace SequenceLog
open Scenario

def Move.connection (before : Bool) : Move Memory.Command Empty → Bool
  | .command .connect => true
  | .command .close => false
  | _ => before

namespace Turn
variable (turn : MemoryTurn)

def Closes : Prop := turn.move = .command .close

def Connects : Prop := turn.move = .command .connect

/-- A stream is made to expect a token, and is created if it is not there. -/
def Forces : Prop := ∃ key token, turn.move = .command (.setToken key token)

/-- The call makes an append of a connected memory. -/
def Boards (call : CallId) : Prop :=
  turn.call = some call ∧ turn.before.transport.connected = true ∧
    ∃ task request, turn.move = .start task (.append request)

/-- An append changes the streams of a memory that is not connected. -/
def Intrudes : Prop :=
  turn.append? ≠ none ∧ turn.before.transport.connected = false ∧
    turn.after.transport.streams ≠ turn.before.transport.streams

variable {turn}

theorem Handles.connected (handles : turn.Handles) : turn.after.transport.connected =
    turn.move.connection turn.before.transport.connected := by
  cases handles with
  | refused move _ after | received move _ after | stopped move _ _ after | abandoned move after =>
    rw [after, move]
    rfl
  | prompt move _ after | woken move _ after =>
    rw [after, move]
    exact (Memory.commit_stays ..).2.1
  | prepared move after =>
    rw [after, move, Memory.ensureStream]
    split <;> rfl
  | @commanded command move after =>
    rw [after, move]
    cases command <;> rfl

theorem Handles.closed_iff (handles : turn.Handles) : turn.after.transport.connected = false ↔
    ¬ turn.Connects ∧ (turn.Closes ∨ turn.before.transport.connected = false) := by
  rw [handles.connected, Connects, Closes]
  cases turn.move with
  | command command => cases command <;> simp [Move.connection]
  | _ => simp [Move.connection]

theorem Handles.of_closes (handles : turn.Handles) (closes : turn.Closes) :
    turn.after.transport = turn.before.transport.close := by
  cases handles with
  | @commanded command move after =>
    cases closes.symm.trans move
    exact after
  | _ move => cases closes.symm.trans move

/-- Of the appends only one that wakes up can change the streams of a closed memory. -/
theorem Handles.intrudes (handles : turn.Handles) (intrudes : turn.Intrudes) :
    ∃ task asleep, turn.move = .resume task .ready ∧
      turn.before.active task = some (.transport asleep) := by
  obtain ⟨asks, closed, changes⟩ := intrudes
  cases handles with
  | refused _ _ after | stopped _ _ _ after =>
    exact absurd (by rw [after]) changes
  | received _ connected | prompt _ connected => cases closed.symm.trans connected
  | @woken task asleep move under => exact ⟨task, asleep, move, under⟩
  | prepared move | commanded move | abandoned move => exact absurd (by rw [append?, move]) asks

/-- A closed memory without streams gets none, but from an append that wakes up or by force. -/
theorem Handles.empty (handles : turn.Handles) (closed : turn.before.transport.connected = false)
    (calm : ¬ turn.Forces ∧ ¬ turn.Intrudes)
    (empty : ∀ key, turn.before.transport.streams.get? key = none) (key : Key) :
    turn.after.transport.streams.get? key = none := by
  cases handles with
  | refused _ _ after | stopped _ _ _ after | abandoned _ after => exact after ▸ empty key
  | received _ connected | prompt _ connected => cases closed.symm.trans connected
  | woken move under =>
    have asks : turn.append? ≠ none := by simp [append?, move, under]
    have same := Classical.not_not.1 fun changes => calm.2 ⟨asks, closed, changes⟩
    rw [same, empty]
  | prepared _ after =>
    rw [after, Memory.ensureStream, closed]
    exact empty key
  | @commanded command move after =>
    rw [after]
    cases command with
    | setToken key token => exact absurd ⟨key, token, move⟩ calm.1
    | close => rfl
    | deleteStream other =>
      by_cases same : key = other
      · subst same
        exact Table.get?_erase_self ..
      · exact (Table.get?_erase_other _ same).trans (empty key)
    | _ => exact empty key

end Turn

/-- The call made its append before the memory was closed, and the memory was not connected again up
to the turn with the number. -/
def Run.Overtaken (r : MemoryRun) (call : CallId) (i : Nat) : Prop :=
  ∃ s c, s < c ∧ c < i ∧ r.At s (·.Boards call) ∧ r.At c Turn.Closes ∧
    ∀ j, c < j → j < i → ¬ r.At j Turn.Connects

/-- Something that may leave a stream in the memory. -/
def Turn.Opens (turn : MemoryTurn) : Prop := turn.Connects ∨ turn.Forces ∨ turn.Intrudes

/-- What sleeps in a closed memory, or intruded there, was overtaken by the closing. -/
structure Guarded (r : MemoryRun) : Prop where
  bare : r.Bare
  boarded : ∀ task, r.session.active task ≠ none → ∃ s, r.At s (·.Boards (r.call task))
  overtaken : ∀ task, r.session.active task ≠ none → r.session.transport.connected = false →
    r.Overtaken (r.call task) r.turns.length
  intruders : ∀ i turn, r.turns[i]? = some turn → turn.Intrudes →
    ∃ call task, turn.call = some call ∧ turn.move = .resume task .ready ∧ r.Overtaken call i
  empty : r.Since Turn.Closes Turn.Opens → r.session.transport.connected = false ∧
    ∀ key, r.session.transport.streams.get? key = none

section Steps
variable {r r' : MemoryRun} {turn : MemoryTurn} {call : CallId}

theorem Run.Overtaken.concat {i : Nat} (overtaken : r.Overtaken call i)
    (turns : r'.turns = r.turns ++ [turn]) (early : i ≤ r.turns.length) : r'.Overtaken call i := by
  obtain ⟨s, c, before, after, boards, closes, quiet⟩ := overtaken
  refine ⟨s, c, before, after, (Run.at_concat turns).2 (.inl boards),
    (Run.at_concat turns).2 (.inl closes), fun j late soon connects => ?_⟩
  rcases (Run.at_concat turns).1 connects with old | ⟨last, -⟩
  · exact quiet j late soon old
  · omega

theorem Run.Overtaken.next (overtaken : r.Overtaken call r.turns.length)
    (turns : r'.turns = r.turns ++ [turn]) (calm : ¬ turn.Connects) :
    r'.Overtaken call r'.turns.length := by
  have length : r'.turns.length = r.turns.length + 1 := by simp [turns]
  obtain ⟨s, c, before, after, boards, closes, quiet⟩ := overtaken.concat turns (Nat.le_refl _)
  refine ⟨s, c, before, by omega, boards, closes, fun j late soon connects => ?_⟩
  rcases (Run.at_concat turns).1 connects with old | ⟨-, now⟩
  · exact quiet j late old.lt connects
  · exact calm now

theorem Run.overtaken_now {s : Nat} (boards : r.At s (·.Boards call))
    (turns : r'.turns = r.turns ++ [turn]) (closes : turn.Closes) :
    r'.Overtaken call r'.turns.length := by
  have length : r'.turns.length = r.turns.length + 1 := by simp [turns]
  refine ⟨s, r.turns.length, boards.lt, by omega, (Run.at_concat turns).2 (.inl boards),
    (Run.at_concat turns).2 (.inr ⟨rfl, closes⟩), fun j late soon => ?_⟩
  omega

theorem guarded_new (structured autoCreate : Bool) (delay : Binary64) (createStreams : Bool)
    (maxAttempts : Int) :
    Guarded (.new (.new structured autoCreate delay) createStreams maxAttempts : MemoryRun) where
  bare task activity under := by cases under
  boarded task under := absurd rfl under
  overtaken task under := absurd rfl under
  intruders i turn there := by cases there
  empty since := by
    obtain ⟨i, there, -⟩ := since
    cases there.lt

/-- A call that makes an append of a closed memory does not fall asleep. -/
theorem Handled.boards (handled : Handled r r' turn) {task : TaskId} {request : Append}
    (move : turn.move = .start task (.append request)) (own : turn.call = some call)
    (asleep : turn.result = none) :
    turn.Boards call ∧ turn.after.transport.connected = true := by
  have stays := handled.handles.connected
  rw [move] at stays
  cases handled.handles with
  | received move' connected => exact ⟨⟨own, connected, task, request, move⟩, stays.trans connected⟩
  | refused _ _ _ result | prompt _ _ _ result | stopped _ _ _ _ result => cases asleep.symm.trans result
  | _ move' => cases move.symm.trans move'

theorem Handled.closed_iff (handled : Handled r r' turn) :
    r'.session.transport.connected = false ↔
      ¬ turn.Connects ∧ (turn.Closes ∨ r.session.transport.connected = false) := by
  rw [← handled.after, ← handled.before_transport]
  exact handled.handles.closed_iff

section Keeping
variable (guarded : Guarded r) (handled : Handled r r' turn) {task : TaskId}
include guarded handled

theorem Guarded.boards (under : r'.session.active task ≠ none) :
    ∃ s, r'.At s (·.Boards (r'.call task)) := by
  obtain ⟨activity, under⟩ := Option.ne_none_iff_exists'.1 under
  obtain ⟨asleep, rfl⟩ := handled.bare task activity under
  rcases handled.sleeps task asleep under with ⟨slept, same⟩ | ⟨move, own, silent⟩
  · obtain ⟨s, boards⟩ := guarded.boarded task (by simp [slept])
    rw [same]
    exact ⟨s, (Run.at_concat handled.turns).2 (.inl boards)⟩
  · have boards := (handled.boards move own silent).1
    exact ⟨_, (Run.at_concat handled.turns).2 (.inr ⟨rfl, boards⟩)⟩

theorem Guarded.overtakes (under : r'.session.active task ≠ none)
    (closed : r'.session.transport.connected = false) :
    r'.Overtaken (r'.call task) r'.turns.length := by
  obtain ⟨activity, under⟩ := Option.ne_none_iff_exists'.1 under
  obtain ⟨asleep, rfl⟩ := handled.bare task activity under
  rcases handled.sleeps task asleep under with ⟨slept, same⟩ | ⟨move, own, silent⟩
  · have under : r.session.active task ≠ none := by simp [slept]
    rw [same]
    obtain ⟨calm, closes | before⟩ := handled.closed_iff.1 closed
    · obtain ⟨s, boards⟩ := guarded.boarded task under
      exact Run.overtaken_now boards handled.turns closes
    · exact (guarded.overtaken task under before).next handled.turns calm
  · have connected := (handled.boards move own silent).2
    cases (handled.after ▸ connected).symm.trans closed

theorem Guarded.intruder (intrudes : turn.Intrudes) :
    ∃ call task, turn.call = some call ∧ turn.move = .resume task .ready ∧
      r.Overtaken call r.turns.length := by
  obtain ⟨task, asleep, move, under⟩ := handled.handles.intrudes intrudes
  have slept : r.session.active task ≠ none := by
    rw [handled.before] at under
    exact fun none => by cases none.symm.trans under
  have own := handled.caller
  rw [move] at own
  have closed : r.session.transport.connected = false := handled.before_transport ▸ intrudes.2.1
  exact ⟨_, task, own, move, guarded.overtaken task slept closed⟩

theorem Guarded.stays_empty (since : r'.Since Turn.Closes Turn.Opens) :
    r'.session.transport.connected = false ∧
      ∀ key, r'.session.transport.streams.get? key = none := by
  rcases since.of_concat handled.turns with closes | ⟨since, calm⟩
  · rw [← handled.after, handled.handles.of_closes closes]
    exact ⟨rfl, fun key => rfl⟩
  · obtain ⟨closed, empty⟩ := guarded.empty since
    refine ⟨handled.closed_iff.2 ⟨fun connects => calm (.inl connects), .inr closed⟩, fun key => ?_⟩
    rw [← handled.after]
    rw [← handled.before_transport] at closed empty
    refine handled.handles.empty closed ⟨?_, ?_⟩ empty key
    · exact fun forces => calm (.inr (.inl forces))
    · exact fun intrudes => calm (.inr (.inr intrudes))

theorem Guarded.kept : Guarded r' where
  bare := handled.bare
  boarded _ := guarded.boards handled
  overtaken _ := guarded.overtakes handled
  empty := guarded.stays_empty handled
  intruders i other there intrudes := by
    have turns := handled.turns
    rw [turns] at there
    by_cases old : i < r.turns.length
    · rw [List.getElem?_append_left old] at there
      obtain ⟨call, task, own, move, overtaken⟩ := guarded.intruders i other there intrudes
      exact ⟨call, task, own, move, overtaken.concat turns (Nat.le_of_lt old)⟩
    · obtain ⟨rfl, rfl⟩ : i = r.turns.length ∧ turn = other := by
        rw [List.getElem?_append_right (Nat.le_of_not_lt old), List.getElem?_singleton] at there
        split at there
        · exact ⟨by omega, Option.some.inj there⟩
        · cases there
      obtain ⟨call, task, own, move, overtaken⟩ := guarded.intruder handled intrudes
      exact ⟨call, task, own, move, overtaken.concat turns (Nat.le_refl _)⟩

end Keeping
end Steps

/-- Whatever appends overlap with whatever connecting and closing: an append changes the streams of
a memory that is not connected only if it was made before the memory was closed, and wakes up
after. Once the memory was closed it is not connected and holds no stream and no event until it is
connected, is made to expect a token, or such an append wakes up. -/
theorem closed_stays_empty (structured autoCreate : Bool) (delay : Binary64) (createStreams : Bool)
    (maxAttempts : Int) (moves : List (Move Memory.Command Empty))
    (direct : ∀ move ∈ moves, move.Direct) :
    let r : MemoryRun :=
      (Run.new (Memory.new structured autoCreate delay) createStreams maxAttempts).play moves
    (∀ i turn, r.turns[i]? = some turn → turn.Intrudes →
      ∃ call task, turn.call = some call ∧ turn.move = .resume task .ready ∧ r.Overtaken call i) ∧
    (r.Since Turn.Closes Turn.Opens → r.session.transport.connected = false ∧
      ∀ key, r.session.transport.streams.get? key = none ∧ r.session.transport.events key = []) := by
  intro r
  have guarded : Guarded r := by
    refine play_induct (sound_new ..) (guarded_new ..) fun r sound guarded move member => ?_
    rcases handled_step sound guarded.bare (direct move member) with stays | ⟨turn, -, handled⟩
    · exact stays.symm ▸ guarded
    · exact guarded.kept handled
  refine ⟨guarded.intruders, fun since => ?_⟩
  obtain ⟨closed, empty⟩ := guarded.empty since
  refine ⟨closed, fun key => ⟨empty key, ?_⟩⟩
  rw [Memory.events, Memory.stream, empty]
  rfl

/-- Two appends sleep while the memory is closed. One of them wakes up, and the memory is closed
again. The other is stopped then, and another append is made of the closed memory. -/
def overtakenAppends : List (Move Memory.Command Empty) :=
  [.command .connect, .start 0 (.append ⟨default, .null, [default]⟩),
    .start 1 (.append ⟨default, .null, [default]⟩), .command .close, .resume 0 .ready,
    .command .close, .resume 1 .interrupted, .start 0 (.append ⟨default, .null, [default]⟩)]

def overtakenRun : MemoryRun :=
  (Run.new (Memory.new true true (.ofRatio false 1 1)) false 3).play overtakenAppends

/-- The append that wakes up was overtaken by the first closing, and nothing is left by the other
two after the second. -/
theorem closed_stays_empty_overtaken :
    (∀ move ∈ overtakenAppends, move.Direct) ∧ overtakenRun.Overtaken 0 4 ∧
      overtakenRun.session.transport.connected = false ∧
      ∀ key, overtakenRun.session.transport.streams.get? key = none ∧
        overtakenRun.session.transport.events key = [] := by
  have direct : ∀ move ∈ overtakenAppends, move.Direct := by
    simp [overtakenAppends, Move.Direct]
  obtain ⟨intruders, empty⟩ :=
    closed_stays_empty true true (.ofRatio false 1 1) false 3 overtakenAppends direct
  have intrudes : overtakenRun.At 4 Turn.Intrudes := by
    refine ⟨_, rfl, nofun, rfl, fun same => ?_⟩
    have size : 1 = 0 := congrArg Table.size same
    cases size
  have since : overtakenRun.Since Turn.Closes Turn.Opens := by
    refine ⟨5, ⟨_, rfl, rfl⟩, fun j late made => ?_⟩
    obtain rfl | rfl : j = 6 ∨ j = 7 := by
      have early : j < 8 := made.lt
      omega
    all_goals
      obtain ⟨turn, there, connects | ⟨_, _, forces⟩ | ⟨_, _, changes⟩⟩ := made
      · cases there
        cases connects
      · cases there
        cases forces
      · cases there
        exact changes rfl
  obtain ⟨turn, there, changes⟩ := intrudes
  obtain ⟨call, -, own, -, overtaken⟩ := intruders 4 turn there changes
  cases there
  cases own
  exact ⟨direct, overtaken, empty since⟩

/-- An append that sleeps while the memory is closed, and wakes up before it is connected again. -/
def lateAppend : List (Move Memory.Command Empty) :=
  [.command .connect, .start 0 (.append ⟨default, .null, [default]⟩), .command .close,
    .resume 0 .ready]

def lateAppendRun : MemoryRun :=
  (Run.new (Memory.new true true (.ofRatio false 1 1)) false 3).play lateAppend

/-- The append creates its stream in the closed memory and stores its event there. -/
theorem late_append_stores :
    lateAppendRun.At 3 Turn.Intrudes ∧
      lateAppendRun.Since Turn.Closes (fun turn => turn.Connects ∨ turn.Forces) ∧
      lateAppendRun.session.transport.connected = false ∧
      lateAppendRun.session.transport.events default = [default] ∧
      lateAppendRun.results 0 = [.ok (.token (numbered 1))] := by
  refine ⟨⟨_, rfl, nofun, rfl, fun same => ?_⟩, ⟨2, ⟨_, rfl, rfl⟩, fun j late made => ?_⟩, rfl, rfl,
    rfl⟩
  · have size : 1 = 0 := congrArg Table.size same
    cases size
  · obtain rfl : j = 3 := by
      have early : j < 4 := made.lt
      omega
    obtain ⟨turn, there, connects | ⟨_, _, forces⟩⟩ := made
    · cases there
      cases connects
    · cases there
      cases forces

end SequenceLog

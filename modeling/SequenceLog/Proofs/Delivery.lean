import Mathlib.Data.List.Basic
import SequenceLog.Proofs.Ending
import SequenceLog.Proofs.Yield
/-! What reaches the streams of the memory, over every run. Main statement: `delivers_exactly_once`. -/
namespace SequenceLog

/-- What a turn adds to a stream: what the operation of its call yields, if the call succeeds in it. -/
def Run.yield (r : MemoryRun) (key : Key) (turn : MemoryTurn) : List LogEvent :=
  match turn.call.bind fun call => r.operations[call]? with
  | some operation => operation.gain r.session key turn.result
  | none => []

/-- What the streams and the calls have to do with each other. -/
structure Delivered (r : MemoryRun) : Prop where
  known : ∀ (call : CallId) id batch, r.operations[call]? = some (.write id batch) →
    id < r.session.writers.length
  fits : ∀ task activity, r.session.active task = some activity →
    ∃ operation, r.operations[r.call task]? = some operation ∧ Fits r.session operation activity
  born : ∀ turn ∈ r.turns, ∀ call, turn.call = some call → call < r.operations.length
  grown : ∀ turn ∈ r.turns, ∀ key,
    turn.after.transport.events key = turn.before.transport.events key ++ r.yield key turn ∨
      turn.call = none ∧ (turn.move = .command .close ∨ turn.move = .command (.deleteStream key))
  serialized : ∀ turn ∈ r.turns, ∀ call id batch answer, turn.call = some call →
    r.operations[call]? = some (.write id batch) → turn.result = some (.ok answer) →
    ∃ events, batch.events = .ok events
  stored : ∀ key, (∀ turn ∈ r.turns, turn.move ≠ .command .close ∧
      turn.move ≠ .command (.deleteStream key)) →
    r.session.transport.events key = r.turns.flatMap (r.yield key)

theorem delivered_new (transport : Memory) (createStreams : Bool) (maxAttempts : Int)
    (empty : ∀ key, transport.events key = []) :
    Delivered (.new transport createStreams maxAttempts) where
  known _ _ _ operation := by cases operation
  fits _ _ under := by cases under
  born _ member := by cases member
  grown _ member := by cases member
  serialized _ member := by cases member
  stored key _ := empty key

theorem Operation.gain_congr {s s' : Session Memory SleepingAppend Append} {operation : Operation}
    (keys : ∀ id batch, operation = .write id batch → (s'.writer id).key = (s.writer id).key)
    (key : Key) (result : Option (Except Fault Answer)) :
    operation.gain s' key result = operation.gain s key result := by
  have same : operation.yield s' key = operation.yield s key := by
    cases operation with
    | write id batch => simp only [yield, keys id batch rfl]
    | append | ensureStream | getWriter => rfl
  rw [gain.eq_def, gain.eq_def, same]

theorem Fits.congr {s s' : Session Memory SleepingAppend Append} {operation : Operation}
    {activity : Activity SleepingAppend} (fits : Fits s operation activity)
    (keys : ∀ id batch, operation = .write id batch → (s'.writer id).key = (s.writer id).key) :
    Fits s' operation activity := by
  cases fits with
  | append => exact .append
  | search => exact .search
  | queued serialized => exact .queued serialized
  | sending serialized sameKey sameEvents =>
    exact .sending serialized (by rw [keys _ _ rfl, sameKey]) sameEvents

section Steps
variable {r r' : MemoryRun}

/-- What a turn added does not change later. -/
theorem Delivered.yield_eq (delivered : Delivered r)
    (operations : ∃ more, r'.operations = r.operations ++ more)
    (keys : ∀ {id}, id < r.session.writers.length →
      (r'.session.writer id).key = (r.session.writer id).key)
    {turn : MemoryTurn} (member : turn ∈ r.turns)
    (key : Key) : r'.yield key turn = r.yield key turn := by
  unfold Run.yield
  cases belongs : turn.call with
  | none => rfl
  | some call =>
    obtain ⟨more, operations⟩ := operations
    have old : r'.operations[call]? = r.operations[call]? := by
      rw [operations, List.getElem?_append_left (delivered.born turn member call belongs)]
    simp only [Option.bind_some, old]
    cases operation : r.operations[call]? with
    | none => rfl
    | some _ =>
      exact Operation.gain_congr
        (fun id batch same => keys (delivered.known call id batch (same ▸ operation))) key _

theorem Takes.delivered {task : TaskId} {stepped : Stepped Memory SleepingAppend Append}
    {operation : Operation} (takes : Takes r r' task stepped) (delivered : Delivered r)
    (begun : ∀ other, r.session.active other ≠ none → r.call other < r.operations.length)
    (known : ∀ (call : CallId) id batch, r'.operations[call]? = some (.write id batch) →
      id < r.session.writers.length)
    (called : r'.operations[r'.call task]? = some operation)
    (carries : Carries r.session.fresh operation stepped) : Delivered r' := by
  obtain ⟨move, turns⟩ := takes.turns
  have old : ∀ {turn}, turn ∈ r.turns → ∀ key, r'.yield key turn = r.yield key turn :=
    delivered.yield_eq takes.operations takes.key
  -- the stream of a writer is the same before and after, so both runs tell the same yield
  have yields : ∀ key, r'.yield key ⟨move, some (r'.call task), r.session.fresh, r'.session,
      stepped.result?⟩ = operation.gain r.session.fresh key stepped.result? := by
    intro key
    simp only [Run.yield, Option.bind_some, called]
    exact Operation.gain_congr
      (fun id batch same => takes.key (known _ id batch (same ▸ called))) key _
  have transport : r'.session.transport = stepped.session.transport := by rw [takes.session]
  constructor
  · intro call id batch written
    exact Nat.lt_of_lt_of_le (known call id batch written) takes.longer
  · intro other activity under
    by_cases same : other = task
    · subst same
      refine ⟨operation, called, (carries.fits activity (takes.active_self ▸ under)).congr ?_⟩
      exact fun id batch same => takes.key (known _ id batch (same ▸ called))
    · rw [takes.active_other same] at under
      obtain ⟨operation, before, fits⟩ := delivered.fits other activity under
      obtain ⟨more, operations⟩ := takes.operations
      have bound := begun other (by simp [under])
      rw [takes.others other same, operations, List.getElem?_append_left bound]
      refine ⟨operation, before, fits.congr fun id batch same => ?_⟩
      exact takes.key (delivered.known _ id batch (same ▸ before))
  · intro turn member call belongs
    obtain ⟨more, operations⟩ := takes.operations
    rw [turns, List.mem_append, List.mem_singleton] at member
    rcases member with member | rfl
    · rw [operations, List.length_append]
      exact Nat.lt_add_right _ (delivered.born turn member call belongs)
    · cases belongs
      exact takes.begun
  · intro turn member key
    rw [turns, List.mem_append, List.mem_singleton] at member
    rcases member with member | rfl
    · rw [old member]
      exact delivered.grown turn member key
    · rw [yields, transport]
      exact .inl (carries.grown key)
  · intro turn member call id batch answer belongs written result
    rw [turns, List.mem_append, List.mem_singleton] at member
    rcases member with member | rfl
    · obtain ⟨more, operations⟩ := takes.operations
      rw [operations, List.getElem?_append_left (delivered.born turn member call belongs)] at written
      exact delivered.serialized turn member call id batch answer belongs written result
    · cases belongs
      exact carries.serialized id batch answer (Option.some.inj (called.symm.trans written)) result
  · intro key kept
    rw [turns] at kept ⊢
    rw [List.flatMap_append, List.flatMap_singleton, yields, transport, carries.grown]
    congr 1
    apply (delivered.stored key fun turn member => kept turn (List.mem_append_left _ member)).trans
    exact List.flatMap_congr fun turn member => (old member key).symm

/-- Between the turns nothing is added, and only what closes or deletes takes events away. -/
theorem Delivered.pass {move : Move Memory.Command Empty} {s : Session Memory SleepingAppend Append}
    (delivered : Delivered r) (extension : r.session.fresh.Extends s)
    (kept : ∀ key, move ≠ .command .close → move ≠ .command (.deleteStream key) →
      s.transport.events key = r.session.transport.events key) : Delivered (r.pass move s) := by
  have operations : ∃ more, (r.pass move s).operations = r.operations ++ more :=
    ⟨[], (List.append_nil _).symm⟩
  have old : ∀ {turn}, turn ∈ r.turns → ∀ key,
      Run.yield (r.pass move s) key turn = r.yield key turn :=
    delivered.yield_eq operations extension.key
  constructor
  · intro call id batch written
    exact Nat.lt_of_lt_of_le (delivered.known call id batch written) extension.longer
  · intro task activity under
    obtain ⟨operation, called, fits⟩ :=
      delivered.fits task activity ((congrFun extension.active task).symm.trans under)
    refine ⟨operation, called, fits.congr fun id batch same => ?_⟩
    exact extension.key (delivered.known _ id batch (same ▸ called))
  · intro turn member call belongs
    rw [Run.pass, List.mem_append, List.mem_singleton] at member
    rcases member with member | rfl
    · exact delivered.born turn member call belongs
    · cases belongs
  · intro turn member key
    rw [Run.pass, List.mem_append, List.mem_singleton] at member
    rcases member with member | rfl
    · rw [old member]
      exact delivered.grown turn member key
    · by_cases closes : move = .command .close
      · exact .inr ⟨rfl, .inl closes⟩
      · by_cases deletes : move = .command (.deleteStream key)
        · exact .inr ⟨rfl, .inr deletes⟩
        · exact .inl ((kept key closes deletes).trans (List.append_nil _).symm)
  · intro turn member call id batch answer belongs written result
    rw [Run.pass, List.mem_append, List.mem_singleton] at member
    rcases member with member | rfl
    · exact delivered.serialized turn member call id batch answer belongs written result
    · cases belongs
  · intro key untouched
    have before := delivered.stored key fun turn member =>
      untouched turn (List.mem_append_left _ member)
    obtain ⟨going, there⟩ := untouched _ (List.mem_append_right _ (List.mem_singleton_self _))
    have last : Run.yield (r.pass move s) key ⟨move, none, r.session.fresh, s, none⟩ = [] := rfl
    have turns : (r.pass move s).turns = r.turns ++ [⟨move, none, r.session.fresh, s, none⟩] := rfl
    rw [turns, List.flatMap_append, List.flatMap_singleton, last, List.append_nil]
    refine (kept key going there).trans (before.trans ?_)
    exact List.flatMap_congr fun turn member => (old member key).symm

theorem delivered_step (delivered : Delivered r) (sound : Sound r)
    (move : Move Memory.Command Empty) : Delivered (r.step move) := by
  have steps := steps_step sound move
  generalize r.step move = r' at steps ⊢
  cases steps with
  | stay => exact delivered
  | @start task operation _ idle known operations call takes =>
    refine takes.delivered delivered sound.began (fun call' id batch written => ?_) ?_
      (Session.carries_opening task known)
    · rw [operations] at written
      rcases Nat.lt_or_ge call' r.operations.length with bound | late
      · rw [List.getElem?_append_left bound] at written
        exact delivered.known call' id batch written
      · rw [List.getElem?_append_right late, List.getElem?_singleton] at written
        split at written
        · exact known id batch (Option.some.inj written)
        · cases written
    · rw [operations, call, List.getElem?_concat_length]
  | @resume task signal activity _ under operations call takes =>
    obtain ⟨operation, called, fits⟩ := delivered.fits task activity under
    have called' : r'.operations[r'.call task]? = some operation := by rw [operations, call, called]
    apply takes.delivered delivered sound.began (operations ▸ delivered.known) called'
    have fits : Fits r.session.fresh operation activity := fits.congr fun _ _ _ => rfl
    exact Session.carries_ongoing task signal fits fun id batch same =>
      delivered.known _ id batch (same ▸ called)
  | pass between =>
    apply delivered.pass (Run.pass_extension between)
    intro key going there
    cases move with
    | start task operation | resume task signal => cases between
    | command command =>
      exact Memory.events_perform _ (fun same => going (same ▸ rfl)) fun same => there (same ▸ rfl)
    | chore stage signal => cases stage
    | abandon task =>
      simp only [Session.play, Session.abandon]
      split <;> rfl
    | openWriter key registry token maxAttempts =>
      simp only [Session.play, Session.openWriter]
      split <;> rfl
    | remove | closePool => rfl

end Steps

theorem delivered_play {r : MemoryRun} (delivered : Delivered r) (sound : Sound r)
    (moves : List (Move Memory.Command Empty)) : Delivered (r.play moves) :=
  play_induct sound delivered fun _ sound delivered move _ => delivered_step delivered sound move

theorem Run.move_of_step {r : MemoryRun} {move : Move Memory.Command Empty} {turn : MemoryTurn}
    (member : turn ∈ (r.step move).turns) : turn ∈ r.turns ∨ turn.move = move := by
  unfold step at member
  split at member
  · rw [List.mem_append, List.mem_singleton] at member
    rcases member with member | rfl
    · exact .inl member
    · exact .inr rfl
  · exact .inl member

theorem Run.move_of_play {r : MemoryRun} {moves : List (Move Memory.Command Empty)}
    {turn : MemoryTurn} (member : turn ∈ (r.play moves).turns) :
    turn ∈ r.turns ∨ turn.move ∈ moves := by
  induction moves generalizing r with
  | nil => exact .inl member
  | cons move moves ih =>
    rcases ih member with member | later
    · rcases move_of_step member with member | rfl
      · exact .inl member
      · exact .inr (List.mem_cons_self ..)
    · exact .inr (List.mem_cons_of_mem _ later)

/-- The events that stand at the end of a stream after a turn and were not there before it. -/
def Turn.block? (turn : MemoryTurn) (key : Key) : Option (List LogEvent) :=
  let added := (turn.after.transport.events key).drop (turn.before.transport.events key).length
  if added = [] then none else some added

def Run.blocks (r : MemoryRun) (key : Key) (call : CallId) : List (List LogEvent) :=
  r.turns.filterMap fun turn => if turn.call = some call then turn.block? key else none

/-- The block that an operation adds to a stream when it ends, if it adds any. -/
def Operation.block? (s : Session Memory SleepingAppend Append) (key : Key) (operation : Operation)
    (result : Except Fault Answer) : Option (List LogEvent) :=
  let added := operation.gain s key (some result)
  if added = [] then none else some added

theorem Delivered.blocks_eq {r : MemoryRun} (delivered : Delivered r) {call : CallId}
    {operation : Operation} (called : r.operations[call]? = some operation) (key : Key) :
    r.blocks key call = (r.results call).filterMap (operation.block? r.session key) := by
  rw [Run.blocks, Run.results, List.filterMap_filterMap]
  apply List.filterMap_congr
  intro turn member
  by_cases belongs : turn.call = some call
  · have grown := (delivered.grown turn member key).resolve_right (by simp [belongs])
    have added : turn.block? key =
        if r.yield key turn = [] then none else some (r.yield key turn) := by
      simp only [Turn.block?, grown, List.drop_left]
    have yields : r.yield key turn = operation.gain r.session key turn.result := by
      simp only [Run.yield, belongs, Option.bind_some, called]
    rw [if_pos belongs, if_pos belongs, added, yields]
    cases turn.result with
    | none => rfl
    | some result => rfl
  · rw [if_neg belongs, if_neg belongs]
    rfl

theorem Batch.events_ne_nil {batch : Batch} {events : List LogEvent}
    (serialized : batch.events = .ok events) (nonempty : batch.records ≠ []) : events ≠ [] := by
  obtain ⟨stack, records⟩ := batch
  cases records with
  | nil => exact absurd rfl nonempty
  | cons record rest =>
    rintro rfl
    simp only [Batch.events, Record.events] at serialized
    split at serialized
    · cases serialized
    · cases others : Record.events stack rest <;> simp [others, Except.map] at serialized

/-- Whatever the moves: a turn adds to a stream what the operation yields that succeeds in it, and only
closing and deleting take events away; a call of a writer with a batch ends once at most, and if it
returns its events were added to the writer's stream as one block, in their order and nowhere else,
and if it does not nothing was added; and a stream that is never deleted holds what the operations
that succeeded yielded, in the order in which they did. -/
theorem delivers_exactly_once (structured autoCreate : Bool) (delay : Binary64)
    (createStreams : Bool) (maxAttempts : Int) (moves : List (Move Memory.Command Empty)) :
    let r : MemoryRun :=
      (Run.new (Memory.new structured autoCreate delay) createStreams maxAttempts).play moves
    (∀ turn ∈ r.turns, ∀ key,
      turn.after.transport.events key = turn.before.transport.events key ++ r.yield key turn ∨
        turn.move = .command .close ∨ turn.move = .command (.deleteStream key)) ∧
    (∀ (call : CallId) id batch, r.operations[call]? = some (.write id batch) → batch.records ≠ [] →
      (r.results call).length ≤ 1 ∧
      (∀ answer, .ok answer ∈ r.results call → ∃ events, batch.events = .ok events ∧
        ∀ key, r.blocks key call = if key = (r.session.writer id).key then [events] else []) ∧
      ((∀ answer, .ok answer ∉ r.results call) → ∀ key, r.blocks key call = [])) ∧
    (∀ key, (∀ move ∈ moves, move ≠ .command .close ∧ move ≠ .command (.deleteStream key)) →
      r.session.transport.events key = r.turns.flatMap (r.yield key)) := by
  intro r
  have sound : Sound r := sound_play (sound_new ..) moves
  have ends : EndsOnce r := ends_once_play (ends_once_new ..) (sound_new ..) moves
  have delivered : Delivered r :=
    delivered_play (delivered_new _ _ _ fun _ => rfl) (sound_new ..) moves
  refine ⟨fun turn member key => ?_, fun call id batch written nonempty => ?_,
    fun key kept => ?_⟩
  · exact (delivered.grown turn member key).imp_right (·.2)
  · refine ⟨ends.once call, fun answer returned => ?_, fun failed key => ?_⟩
    · obtain ⟨turn, made, result⟩ := List.mem_filterMap.1 returned
      split at result
      · rename_i belongs
        obtain ⟨events, serialized⟩ :=
          delivered.serialized turn made call id batch answer belongs written result
        refine ⟨events, serialized, fun key => ?_⟩
        -- with a second result the call would have ended twice
        have only : r.results call = [.ok answer] := by
          have once := ends.once call
          rcases ended : r.results call with _ | ⟨end', rest⟩
          · simp [ended] at returned
          · obtain rfl : rest = [] := by simpa [ended] using once
            simpa [ended, eq_comm] using returned
        rw [delivered.blocks_eq written, only]
        by_cases own : key = (r.session.writer id).key
        · simp [Operation.block?, Operation.gain, Operation.yield, own, serialized,
            Except.toOption, Batch.events_ne_nil serialized nonempty]
        · simp [Operation.block?, Operation.gain, Operation.yield, own]
      · cases result
    · rw [delivered.blocks_eq written, List.filterMap_eq_nil_iff]
      intro result member
      cases result with
      | ok answer => exact absurd member (failed answer)
      | error fault => rfl
  · apply delivered.stored key
    intro turn member
    rcases Run.move_of_play member with old | made
    · cases old
    · exact kept turn.move made

def Batch.pair : Batch := ⟨.ofRoom 1, [default, default]⟩

/-- Two writers of one stream. The second one has to be told the token of the stream. -/
def rivals : List (Move Memory.Command Empty) :=
  [.command .connect, .openWriter default (.outside none) .null 3,
    .openWriter default (.outside none) .null 3, .start 0 (.write 0 .single),
    .start 1 (.write 1 .pair)]

def rivalsRun : MemoryRun := (Run.new (Memory.new true true (.zero false)) true 3).play rivals

theorem delivers_exactly_once_rivals :
    rivalsRun.results 1 = [.ok .nothing] ∧
      ∃ events, Batch.pair.events = .ok events ∧
        rivalsRun.blocks default 1 = [events] ∧
        rivalsRun.session.transport.events default =
          rivalsRun.turns.flatMap (rivalsRun.yield default) := by
  obtain ⟨-, calls, stored⟩ :=
    delivers_exactly_once true true (.zero false) true 3 rivals
  obtain ⟨-, returned, -⟩ := calls 1 1 .pair rfl (by simp [Batch.pair])
  have results : rivalsRun.results 1 = [.ok .nothing] := rfl
  obtain ⟨events, serialized, blocks⟩ := returned .nothing (results ▸ List.mem_singleton_self _)
  refine ⟨results, events, serialized, ?_, stored default (by simp [rivals])⟩
  exact (blocks default).trans (if_pos rfl)

end SequenceLog

import SequenceLog.Proofs.Verdict
/-! The retirement of writers. A writer retires in the turn in which one of its batches fails for good:
its registry is asked to forget it, once, and whatever the registry does the batch fails with the
failure of its last append. Nothing is sent after that, and whoever gets the lock is refused. Main
statement: `retires_once`. -/
namespace SequenceLog
open Scenario
variable {τ σ κ μ χ : Type}

/-- The fault of a batch that failed for good. -/
def Fault.isUnrecoverable : Fault → Bool
  | .unrecoverable .. => true
  | _ => false

namespace Turn
variable (turn : Turn τ σ κ μ χ)

/-- The fault with which a batch for a writer failed for good in the turn. -/
def failure? (id : WriterId) : Option Fault :=
  match turn.result with
  | some (.error fault) => if turn.writer? = some id ∧ fault.isUnrecoverable then some fault else none
  | _ => none

/-- The turn leaves a writer the status it had: the registry is not asked to forget it, and no batch
fails for good. -/
structure Keeps (id : WriterId) : Prop where
  status : (turn.after.writer id).status = (turn.before.writer id).status
  quiet : Deed.removals (turn.after.deeds id) = []
  bearable : turn.failure? id = none

/-- The writer retires in the turn. Its last append has failed, its registry is asked to forget it, and
the batch fails with that failure as the cause. -/
structure Retires (id : WriterId) (reason : Fault) : Prop where
  known : id < turn.before.writers.length
  active : (turn.before.writer id).status = .active
  invalidated : (turn.after.writer id).status = .invalidated
  deeds : ∃ front, Deed.removals front = [] ∧ turn.after.deeds id =
    front ++ [.settled (.error reason), .removed (turn.before.writer id).key]
  failure : turn.failure? id = some (.unrecoverable (turn.before.writer id).key.group
    (turn.before.writer id).key.stream reason true)

/-- A batch gets the lock of the writer in the turn: one that has something to append finds it free,
or one in the queue goes on after it was granted the lock. -/
def Enters (id : WriterId) : Prop :=
  match turn.move with
  | .start _ (.write writer batch) => writer = id ∧ batch.records ≠ [] ∧
    (∃ events, batch.events = .ok events) ∧ (turn.before.writer id).lock.available = true
  | .resume task .ready => (∃ events, turn.before.active task = some (.batch id events .queued)) ∧
    (turn.before.writer id).lock.isGranted task = true
  | _ => False

/-- A turn after the retirement of the writer for `key`. -/
structure Idles (id : WriterId) (key : Key) : Prop where
  invalidated : (turn.after.writer id).status = .invalidated
  quiet : turn.after.deeds id = []
  refused : turn.Enters id → turn.result = some (.error (.writerInvalid key.group key.stream))
  returned : ∀ task stack, turn.move = .start task (.write id ⟨stack, []⟩) →
    turn.result = some (.ok .nothing)

end Turn

def Run.failures (r : Run τ σ κ μ χ) (id : WriterId) : List Fault :=
  r.turns.filterMap (·.failure? id)

/-- The keys under which the registry of a writer was asked to forget it. -/
def Run.removals (r : Run τ σ κ μ χ) (id : WriterId) : List Key :=
  r.turns.flatMap fun turn => Deed.removals (turn.after.deeds id)

theorem Record.not_unrecoverable {stack : Json.Stack} {records : List Record} {fault : Fault}
    (unserialized : Record.events stack records = .error fault) : fault.isUnrecoverable = false := by
  induction records with
  | nil => cases unserialized
  | cons record rest ih =>
    simp only [Record.events] at unserialized
    split at unserialized
    · rename_i failed
      cases unserialized
      simp only [Record.event, Record.encode] at failed
      split at failed
      · cases failed
      · rename_i problem _
        cases failed
        cases problem <;> rfl
    · cases others : Record.events stack rest with
      | ok events => simp [others, Except.map] at unserialized
      | error fault' =>
        simp only [others, Except.map] at unserialized
        cases unserialized
        exact ih others

namespace Session
variable {s s' : Session τ σ κ} {id : WriterId}

theorem known_of_invalidated (retired : (s.writer id).status = .invalidated) :
    id < s.writers.length := by
  apply Nat.lt_of_not_le
  intro late
  simp [writer, List.getElem?_eq_none late] at retired
  cases retired

variable [Transport τ σ κ]

theorem sendBatch_refused {events : List LogEvent} {lock : Mutex} (known : id < s.writers.length)
    (retired : (s.writer id).status = .invalidated) :
    ((s.setWriter id { s.writer id with lock := lock }).sendBatch id events).progress =
      .finished (.error (s.writer id).invalidFault) := by
  have writer := writer_setWriter_self s id { s.writer id with lock := lock } known
  rw [sendBatch_invalidated (by rw [writer, retired]), writer]
  rfl

theorem startBatch_refused {batch : Batch} {events : List LogEvent} (task : TaskId)
    (known : id < s.writers.length) (retired : (s.writer id).status = .invalidated)
    (nonempty : batch.records ≠ []) (serialized : batch.events = .ok events)
    (available : (s.writer id).lock.available = true) :
    (s.startBatch task id batch).progress = .finished (.error (s.writer id).invalidFault) := by
  unfold startBatch
  rw [if_neg (by simpa using nonempty), serialized]
  dsimp only
  rw [if_pos available]
  exact sendBatch_refused known retired

theorem resumeBatch_refused {events : List LogEvent} {task : TaskId} (known : id < s.writers.length)
    (retired : (s.writer id).status = .invalidated)
    (granted : (s.writer id).lock.isGranted task = true) :
    (s.resumeBatch task id events .queued .ready).progress =
      .finished (.error (s.writer id).invalidFault) := by
  simp only [resumeBatch, granted, if_true]
  exact sendBatch_refused known retired

end Session

structure Advances (r r' : Run τ σ κ μ χ) (id : WriterId) (turn : Turn τ σ κ μ χ) : Prop where
  turns : r'.turns = r.turns ++ [turn]
  before : turn.before = r.session.fresh
  after : turn.after = r'.session
  key : id < r.session.writers.length → (r'.session.writer id).key = (r.session.writer id).key
  outcome : turn.Keeps id ∨ ∃ reason, turn.Retires id reason
  idles : (r.session.writer id).status = .invalidated → turn.Idles id (r.session.writer id).key

section Turns
variable {r r' : Run τ σ κ μ χ} {id : WriterId} {turn : Turn τ σ κ μ χ}

theorem Turn.bearable_of_other (other : turn.writer? ≠ some id) : turn.failure? id = none := by
  unfold failure?
  split
  · rw [if_neg fun h => other h.1]
  · rfl

theorem Turn.bearable_of_result
    (mild : ∀ fault, turn.result = some (.error fault) → fault.isUnrecoverable = false) :
    turn.failure? id = none := by
  unfold failure?
  split
  · rename_i fault result
    simp [mild fault result]
  · rfl

theorem Advances.of_quiet (turns : r'.turns = r.turns ++ [turn])
    (before : turn.before = r.session.fresh) (after : turn.after = r'.session)
    (key : id < r.session.writers.length → (r'.session.writer id).key = (r.session.writer id).key)
    (status : (r'.session.writer id).status = (r.session.writer id).status)
    (quiet : r'.session.deeds id = []) (bearable : turn.failure? id = none)
    (outside : ¬ turn.Enters id)
    (returned : ∀ task stack, turn.move = .start task (.write id ⟨stack, []⟩) →
      turn.result = some (.ok .nothing)) : Advances r r' id turn where
  turns := turns
  before := before
  after := after
  key := key
  outcome := .inl ⟨by rw [after, before]; exact status, by rw [after, quiet]; rfl, bearable⟩
  idles retired := ⟨by rw [after, status, retired], by rw [after, quiet],
    fun enters => absurd enters outside, returned⟩

theorem Turn.writer_of_enters (enters : turn.Enters id) : turn.writer? = some id := by
  unfold Enters at enters
  unfold writer?
  split at enters
  · rename_i move
    simp [move, enters.1]
  · rename_i move
    obtain ⟨⟨events, under⟩, -⟩ := enters
    simp [move, Session.batchOf, under, Activity.writer?]
  · exact enters.elim

theorem Spares.advances (spares : Spares r r' id) (turns : r'.turns = r.turns ++ [turn])
    (before : turn.before = r.session.fresh) (after : turn.after = r'.session)
    (other : turn.writer? ≠ some id) : Advances r r' id turn :=
  .of_quiet turns before after spares.key spares.status spares.quiet (turn.bearable_of_other other)
    (fun enters => other (turn.writer_of_enters enters))
    fun task stack start => absurd (by simp [Turn.writer?, start]) other

theorem Verdict.outcome {deeds : List Deed} {status : Status} {key : Key} {s : Session τ σ κ}
    {progress : Progress (Activity σ) Answer} (verdict : Verdict key deeds status progress)
    (known : id < turn.before.writers.length) (own : turn.writer? = some id)
    (active : (turn.before.writer id).status = .active)
    (before : (turn.before.writer id).key = key) (after : (turn.after.writer id).status = status)
    (noted : turn.after.deeds id = deeds) (result : turn.result = Stepped.result? ⟨s, progress⟩) :
    turn.Keeps id ∨ ∃ reason, turn.Retires id reason := by
  cases verdict with
  | waits quiet =>
    refine .inl ⟨after.trans active.symm, noted ▸ quiet, turn.bearable_of_result fun fault ended => ?_⟩
    cases result.symm.trans ended
  | returned deeds quiet =>
    refine .inl ⟨after.trans active.symm, by simp [noted, quiet],
      turn.bearable_of_result fun fault ended => ?_⟩
    cases result.symm.trans ended
  | @stopped _ fault quiet passed =>
    refine .inl ⟨after.trans active.symm, noted ▸ quiet, turn.bearable_of_result fun _ ended => ?_⟩
    cases result.symm.trans ended
    cases fault with
    | cancelled => rfl
    | _ => cases passed
  | @failed front reason quiet =>
    subst before
    refine .inr ⟨reason, known, active, after, ⟨front, quiet, noted⟩, ?_⟩
    simp [Turn.failure?, result, Stepped.result?, own, Fault.isUnrecoverable]

theorem Takes.advances_concludes {task : TaskId} {stepped : Stepped τ σ κ}
    (takes : Takes r r' task stepped) (known : id < r.session.writers.length)
    (turns : r'.turns = r.turns ++ [turn]) (before : turn.before = r.session.fresh)
    (after : turn.after = r'.session) (result : turn.result = stepped.result?)
    (concludes : Session.Concludes id r.session.fresh stepped) (own : turn.writer? = some id)
    (enters : turn.Enters id → (r.session.writer id).status = .invalidated →
      stepped.progress = .finished (.error (r.session.writer id).invalidFault))
    (nonempty : ∀ task stack, turn.move ≠ .start task (.write id ⟨stack, []⟩)) :
    Advances r r' id turn := by
  have same : (turn.before.writer id) = r.session.writer id := by rw [before]; rfl
  have writer : turn.after.writer id = stepped.session.writer id := by rw [after, takes.writer]
  have deeds : turn.after.deeds id = stepped.session.deeds id := by rw [after, takes.deeds]
  have mild : ∀ fault, stepped.progress = .finished (.error fault) →
      fault.isUnrecoverable = false → turn.failure? id = none := by
    intro fault progress mild
    apply turn.bearable_of_result
    intro fault' ended
    rw [result, Stepped.result?, progress] at ended
    cases ended
    exact mild
  refine ⟨turns, before, after, fun _ => takes.key known, ?_, fun retired => ?_⟩
  · cases concludes with
    | served active judged =>
      obtain ⟨more, grown, verdict⟩ := judged
      exact verdict.outcome (before ▸ known) own (same ▸ active) (congrArg (·.key) same)
        (congrArg (·.status) writer) (deeds.trans grown) result
    | refused retired quiet after progress =>
      refine .inl ⟨?_, by rw [deeds, quiet]; rfl, mild _ progress rfl⟩
      rw [writer, after, same]
      exact retired.symm
    | aside quiet kept silent =>
      refine .inl ⟨by rw [writer, kept, same]; rfl, by rw [deeds, quiet]; rfl, ?_⟩
      apply turn.bearable_of_result
      intro fault ended
      rw [result, Stepped.result?] at ended
      split at ended
      · cases ended
      · rename_i progress
        cases silent _ progress
        cases ended
        rfl
  · have refused : turn.Enters id → turn.result = some (.error (r.session.writer id).invalidFault) := by
      intro entered
      rw [result, Stepped.result?, enters entered retired]
    cases concludes with
    | served active => cases retired.symm.trans active
    | refused _ quiet after progress =>
      exact ⟨by rw [writer, after], by rw [deeds, quiet]; rfl, refused,
        fun task stack start => absurd start (nonempty task stack)⟩
    | aside quiet kept silent =>
      exact ⟨by rw [writer, kept]; exact retired, by rw [deeds, quiet]; rfl, refused,
        fun task stack start => absurd start (nonempty task stack)⟩

end Turns

section Batches
variable [Transport τ σ κ] {r r' : Run τ σ κ μ χ} {task : TaskId} {id : WriterId}

theorem Takes.advances_startBatch {batch : Batch} (known : id < r.session.writers.length)
    (takes : Takes r r' task (r.session.fresh.startBatch task id batch))
    (turns : r'.turns = r.turns ++ [⟨.start task (.write id batch), some (r'.call task),
      r.session.fresh, r'.session, (r.session.fresh.startBatch task id batch).result?⟩]) :
    ∃ turn, Advances r r' id turn := by
  cases serialized : batch.events with
  | error fault =>
    have nonempty : batch.records ≠ [] := Session.filled_of_unserialized serialized
    rw [Session.startBatch_unserialized serialized] at takes turns
    refine ⟨_, .of_quiet turns rfl rfl takes.key ?_ ?_ ?_ ?_ ?_⟩
    · exact congrArg (·.status) (takes.writer id)
    · exact takes.deeds id
    · apply Turn.bearable_of_result
      intro other ended
      cases ended
      exact Record.not_unrecoverable serialized
    · rintro ⟨-, -, ⟨events, serialized'⟩, -⟩
      cases serialized.symm.trans serialized'
    · intro other stack start
      cases start
      exact absurd rfl nonempty
  | ok events =>
    obtain ⟨stack, records⟩ := batch
    by_cases empty : records = []
    · subst empty
      refine ⟨_, .of_quiet turns rfl rfl takes.key ?_ ?_ ?_ ?_ ?_⟩
      · exact congrArg (·.status) (takes.writer id)
      · exact takes.deeds id
      · exact Turn.bearable_of_result fun other ended => by cases ended
      · exact fun enters => enters.2.1 rfl
      · exact fun _ _ _ => rfl
    · refine ⟨_, takes.advances_concludes known turns rfl rfl rfl
        (Session.concludes_startBatch (s := r.session.fresh) known task empty serialized) rfl ?_ ?_⟩
      · rintro ⟨-, -, -, available⟩ retired
        exact Session.startBatch_refused (s := r.session.fresh) task known retired empty serialized
          available
      · intro other stack start
        cases start
        exact empty rfl

theorem Takes.advances_resumeBatch {events : List LogEvent} {stage : BatchStage σ} {signal : Signal}
    (sound : Sound r) (under : r.session.active task = some (.batch id events stage))
    (takes : Takes r r' task (r.session.fresh.resumeBatch task id events stage signal))
    (turns : r'.turns = r.turns ++ [⟨.resume task signal, some (r'.call task), r.session.fresh,
      r'.session, (r.session.fresh.resumeBatch task id events stage signal).result?⟩]) :
    ∃ turn, Advances r r' id turn := by
  have known := (sound.asked task id events stage under).1
  have active : ∀ left sent, stage = .sending left sent → (r.session.writer id).status = .active :=
    fun left sent sending => sound.active_of_sending (sending ▸ under)
  have own : r.session.fresh.batchOf task = some id := by
    simp [Session.batchOf, Session.fresh, under, Activity.writer?]
  refine ⟨_, takes.advances_concludes known turns rfl rfl rfl
    (Session.concludes_resumeBatch (s := r.session.fresh) known task signal active) own ?_
    fun _ _ start => by cases start⟩
  intro enters retired
  cases signal with
  | ready =>
    obtain ⟨⟨events', queued⟩, granted⟩ := enters
    cases under.symm.trans queued
    exact Session.resumeBatch_refused (s := r.session.fresh) known retired granted
  | expired | interrupted => exact enters.elim

end Batches

/-- A writer retires once at most, and what its turns did agrees with its status. -/
structure Retiring (r : Run τ σ κ μ χ) (id : WriterId) : Prop where
  turns : ∀ turn ∈ r.turns, turn.Keeps id ∨ ∃ reason, turn.Retires id reason
  active : (r.session.writer id).status = .active → r.failures id = [] ∧ r.removals id = []
  invalidated : (r.session.writer id).status = .invalidated → ∃ reason,
    r.failures id = [.unrecoverable (r.session.writer id).key.group
      (r.session.writer id).key.stream reason true] ∧
    r.removals id = [(r.session.writer id).key]

section Invariant
variable {r r' : Run τ σ κ μ χ} {id : WriterId}

theorem retiring_new (transport : τ) (createStreams : Bool) (maxAttempts : Int) (id : WriterId) :
    Retiring (.new transport createStreams maxAttempts : Run τ σ κ μ χ) id := by
  constructor
  · intro turn member
    cases member
  · intro _
    exact ⟨rfl, rfl⟩
  · intro retired
    exact absurd (Session.known_of_invalidated retired) (Nat.not_lt_zero id)

theorem Advances.retiring {turn : Turn τ σ κ μ χ} (advances : Advances r r' id turn)
    (retiring : Retiring r id) : Retiring r' id := by
  obtain ⟨turns, before, after, key, outcome, -⟩ := advances
  have failures : r'.failures id = r.failures id ++ (turn.failure? id).toList := by
    cases failed : turn.failure? id <;> simp [Run.failures, turns, failed]
  have removals : r'.removals id = r.removals id ++ Deed.removals (turn.after.deeds id) := by
    simp [Run.removals, turns]
  have same : turn.before.writer id = r.session.writer id := by rw [before]; rfl
  have all : ∀ turn ∈ r'.turns, turn.Keeps id ∨ ∃ reason, turn.Retires id reason := by
    intro turn' member
    rw [turns, List.mem_append, List.mem_singleton] at member
    rcases member with member | rfl
    · exact retiring.turns turn' member
    · exact outcome
  rcases outcome with keeps | ⟨reason, retires⟩
  · have status : (r'.session.writer id).status = (r.session.writer id).status := by
      rw [← after, keeps.status, same]
    simp only [keeps.bearable, keeps.quiet, Option.toList_none, List.append_nil] at failures removals
    refine ⟨all, fun active => ?_, fun retired => ?_⟩
    · rw [failures, removals]
      exact retiring.active (status ▸ active)
    · rw [status] at retired
      rw [failures, removals, key (Session.known_of_invalidated retired)]
      exact retiring.invalidated retired
  · refine ⟨all, fun active => ?_, fun _ => ⟨reason, ?_⟩⟩
    · rw [← after, retires.invalidated] at active
      cases active
    · obtain ⟨unfailed, registered⟩ := retiring.active (same ▸ retires.active)
      obtain ⟨front, quiet, deeds⟩ := retires.deeds
      have known : id < r.session.writers.length := by
        have := retires.known
        rwa [before] at this
      rw [failures, removals, key known, unfailed, registered, deeds, retires.failure, same]
      simp [quiet]

end Invariant

section Play
variable [Transport τ σ κ] [Commanded τ μ χ κ] {r : Run τ σ κ μ χ} {id : WriterId}

theorem advances_step (sound : Sound r) (move : Move μ χ) (id : WriterId) :
    r.step move = r ∨ ∃ turn, Advances r (r.step move) id turn := by
  have concerns := concerns_step sound move id
  generalize r.step move = r' at concerns ⊢
  cases concerns with
  | stay => exact .inl rfl
  | spared turns before after other spares =>
    exact .inr ⟨_, spares.advances turns before after other⟩
  | start known _ takes turns => exact .inr (takes.advances_startBatch known turns)
  | resume under takes turns => exact .inr (takes.advances_resumeBatch sound under turns)

theorem retiring_play (sound : Sound r) (retiring : Retiring r id) (moves : List (Move μ χ)) :
    Retiring (r.play moves) id := by
  refine play_induct (motive := (Retiring · id)) sound retiring fun r sound retiring move _ => ?_
  rcases advances_step sound move id with stays | ⟨turn, advances⟩
  · rwa [stays]
  · exact advances.retiring retiring

/-- A writer that has retired stays so, and all turns from then on are idle. -/
theorem idles_play (sound : Sound r) (retired : (r.session.writer id).status = .invalidated)
    (moves : List (Move μ χ)) : ((r.play moves).session.writer id).status = .invalidated ∧
      ∃ later, (r.play moves).turns = r.turns ++ later ∧
        ∀ turn ∈ later, turn.Idles id (r.session.writer id).key := by
  induction moves generalizing r with
  | nil => exact ⟨retired, [], (List.append_nil _).symm, fun _ member => by cases member⟩
  | cons move moves ih =>
    rcases advances_step sound move id with stays | ⟨turn, advances⟩
    · have played : r.play (move :: moves) = r.play moves := congrArg (Run.play · moves) stays
      rw [played]
      exact ih sound retired
    · have idles := advances.idles retired
      have still := advances.after ▸ idles.invalidated
      obtain ⟨after, later, turns, idle⟩ := ih (sound_step sound move) still
      rw [advances.key (Session.known_of_invalidated retired)] at idle
      refine ⟨after, turn :: later, ?_, fun turn' member => ?_⟩
      · rw [List.append_cons]
        exact turns.trans (congrArg (· ++ later) advances.turns)
      · rcases List.mem_cons.1 member with rfl | member
        · exact idles
        · exact idle turn' member

/-- Whatever the transport, the registry and the callers do: in every turn a writer keeps its status,
or it retires, and then its registry is asked to forget it in the same turn, right after its last
append has failed, and the batch fails with that failure as the cause. Until a writer has retired no
batch failed for good. Once it has, this was so for one batch, and the registry was asked once;
whatever comes later, the writer stays retired, nothing is sent, a batch that gets the lock is refused
and an empty one returns. -/
theorem retires_once (transport : τ) (createStreams : Bool) (maxAttempts : Int)
    (moves more : List (Move μ χ)) (id : WriterId) :
    let r : Run τ σ κ μ χ := (Run.new transport createStreams maxAttempts).play moves
    let key := (r.session.writer id).key
    (∀ turn ∈ r.turns, turn.Keeps id ∨ ∃ reason, turn.Retires id reason) ∧
    ((r.session.writer id).status = .active → r.failures id = [] ∧ r.removals id = []) ∧
    ((r.session.writer id).status = .invalidated →
      (∃ reason, r.failures id = [.unrecoverable key.group key.stream reason true] ∧
        r.removals id = [key]) ∧
      ((r.play more).session.writer id).status = .invalidated ∧
      ∃ later, (r.play more).turns = r.turns ++ later ∧ ∀ turn ∈ later, turn.Idles id key) := by
  intro r key
  have sound : Sound r := sound_play (sound_new ..) moves
  have retiring : Retiring r id := retiring_play (sound_new ..) (retiring_new ..) moves
  exact ⟨retiring.turns, retiring.active,
    fun retired => ⟨retiring.invalidated retired, idles_play sound retired more⟩⟩

end Play

/-- A batch fails while another one is in the queue, and the registry refuses to forget the writer. -/
def refusal : List (Move Memory.Command Empty) :=
  [.command .connect, .command (.inject Memory.notConnected),
    .openWriter default (.outside (some "refused")) .null 3, .start 0 (.write 0 .single),
    .start 1 (.write 0 .single), .resume 0 .ready]

/-- The other batch gets the lock, and somebody has nothing to write. -/
def afterRefusal : List (Move Memory.Command Empty) :=
  [.resume 1 .ready, .start 0 (.write 0 default)]

def refusalRun : MemoryRun :=
  (Run.new (Memory.new true true (.finite false 1 0)) true 3).play refusal

theorem retires_once_refusal :
    (refusalRun.session.writer 0).status = .invalidated ∧ refusalRun.removals 0 = [default] ∧
      refusalRun.results 0 = [.error (.unrecoverable "" "" Memory.notConnected true)] ∧
      (refusalRun.play afterRefusal).results 1 = [.error (.writerInvalid "" "")] ∧
      (refusalRun.play afterRefusal).results 2 = [.ok .nothing] ∧
      ∃ later, (refusalRun.play afterRefusal).turns = refusalRun.turns ++ later ∧
        ∀ turn ∈ later, turn.Idles 0 default := by
  have retired : (refusalRun.session.writer 0).status = .invalidated := by decide
  obtain ⟨-, -, final⟩ := retires_once (Memory.new true true (.finite false 1 0)) true 3 refusal
    afterRefusal 0
  obtain ⟨⟨reason, -, removals⟩, -, idle⟩ := final retired
  exact ⟨retired, removals, rfl, rfl, rfl, idle⟩

end SequenceLog

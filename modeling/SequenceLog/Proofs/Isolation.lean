import Mathlib.Data.List.Forall2
import SequenceLog.Proofs.Delivery
import SequenceLog.Proofs.Seclusion
/-! The isolation of streams. A run of searches and batches on many streams is compared with the run
that makes the moves of one of these streams alone. Every turn on the stream has its counterpart
there, with the same outcome but for the names of writers and tokens. Main statement:
`streams_isolated`. -/
namespace SequenceLog

abbrev MemoryMove := Move Memory.Command Empty

/-- Getting a writer, writing a batch, going on with either, or giving up in a queue. -/
def Move.OfPool {μ χ : Type} : Move μ χ → Prop
  | .start _ operation => operation.OfPool
  | .resume _ _ | .abandon _ => True
  | _ => False

/-- The operation in a run of one stream alone. The writers of the stream are given, and are known
there by their places among these. -/
def Operation.among (ids : List WriterId) : Operation → Operation
  | .write id batch => .write (ids.idxOf id) batch
  | operation => operation

/-- The move as it is made in a run of the stream alone, if it is about the stream. -/
def Session.moveOn? (s : MemorySession) (key : Key) : MemoryMove → Option MemoryMove
  | .start task operation =>
    if operation.key? s.writers = some key then
      some (.start task (operation.among (writersOn s.writers key)))
    else none
  | .resume task signal => if s.stream? task = some key then some (.resume task signal) else none
  | .abandon task => if s.stream? task = some key then some (.abandon task) else none
  | _ => none

def Turn.moveOn? (turn : MemoryTurn) (key : Key) : Option MemoryMove :=
  turn.before.moveOn? key turn.move

def Run.turnsOn (r : MemoryRun) (key : Key) : List MemoryTurn :=
  r.turns.filter fun turn => (turn.moveOn? key).isSome

/-- The moves of operations on a stream, as they are made in a run of this stream alone. -/
def Run.movesOn (r : MemoryRun) (key : Key) : List MemoryMove := r.turns.filterMap (·.moveOn? key)

/-- A stream and its writers look alike in both sessions, and a task at the stream waits for the
same. The second session has no other writers, and no other task waits there. -/
structure Session.Agrees (s s' : MemorySession) (key : Key) : Prop where
  events : s'.transport.events key = s.transport.events key
  statuses : s'.writers.map (·.status) =
    (writersOn s.writers key).map fun id => (s.writer id).status
  waits : ∀ task, s'.wait? task = if s.stream? task = some key then s.wait? task else none

structure Turn.Agrees (turn turn' : MemoryTurn) (key : Key) (ρ : Renaming) : Prop where
  move : turn.moveOn? key = some turn'.move
  result : Option.Rel ρ.SameResult turn.result turn'.result
  after : turn.after.Agrees turn'.after key

theorem Turn.Agrees.mono {turn turn' : MemoryTurn} {key : Key} {ρ ρ' : Renaming}
    (agrees : turn.Agrees turn' key ρ) (grows : ρ.Grows ρ') : turn.Agrees turn' key ρ' where
  move := agrees.move
  result := by
    have same := agrees.result
    generalize turn.result = result, turn'.result = result' at same
    cases same with
    | none => exact .none
    | some same => exact .some (same.mono grows)
  after := agrees.after

theorem Session.allowed_start {s : MemorySession} {task : TaskId} {operation : Operation}
    (allowed : s.allows (.start task operation : MemoryMove) = true) : s.active task = none ∧
      ∀ id batch, operation = .write id batch → id < s.writers.length := by
  refine ⟨by cases operation <;> simp_all [allows], ?_⟩
  rintro id batch rfl
  simp_all [allows]

namespace Session.Mirrors
variable {s s' : MemorySession} {key : Key} {ρ : Renaming} {move move' : MemoryMove}
  {operation operation' : Operation}

theorem fresh (mirrors : s.Mirrors s' key ρ) : s.fresh.Mirrors s'.fresh key ρ :=
  mirrors.of_same rfl rfl rfl rfl rfl rfl rfl rfl

theorem agrees (mirrors : s.Mirrors s' key ρ) : s.Agrees s' key where
  events := mirrors.memory.events
  statuses := by
    rw [← mirrors.named]
    refine List.ext_getElem (by simp [mirrors.alone]) fun i first second => ?_
    have place : i < ρ.writers.length := by simpa using second
    have status := (mirrors.writer (List.getElem?_eq_getElem place)).status
    have known : i < s'.writers.length := by simpa using first
    have found : s'.writers[i] = s'.writer i := by simp [Session.writer, known]
    rw [List.getElem_map, List.getElem_map, found, status]
  waits := mirrors.wait

theorem among (mirrors : s.Mirrors s' key ρ) (ofPool : operation.OfPool)
    (about : operation.key? s.writers = some key)
    (known : ∀ id batch, operation = .write id batch → id < s.writers.length) :
    ρ.SameOperation key operation (operation.among (writersOn s.writers key)) := by
  cases operation with
  | append | ensureStream => cases ofPool
  | getWriter other =>
    cases about
    exact .getWriter
  | write id batch =>
    have member : id ∈ writersOn s.writers key :=
      mem_writersOn.2 ⟨known id batch rfl, Option.some.inj about⟩
    refine .write batch ?_
    rw [Renaming.SameWriter, mirrors.named]
    exact List.getElem?_idxOf member

theorem allows_start (mirrors : s.Mirrors s' key ρ)
    (same : ρ.SameOperation key operation operation') {task : TaskId}
    (idle : s'.active task = none) :
    s'.allows (.start task operation' : MemoryMove) = true := by
  cases same with
  | getWriter => simp [allows, idle]
  | write batch named => simp [allows, idle, (mirrors.known named).2.2]

/-- A move that is about the stream can be made in the session of the stream alone as well, and
comes to the same there. -/
theorem play_here (mirrors : s.Mirrors s' key ρ) (ofPool : move.OfPool)
    (allowed : s.allows move = true) (own : s.moveOn? key move = some move') :
    s'.allows move' = true ∧ ∃ ρ', ρ.Grows ρ' ∧
      (s.play move).1.Mirrors (s'.play move').1 key ρ' ∧
      Option.Rel ρ'.SameResult (s.play move).2 (s'.play move').2 := by
  cases move with
  | start task operation =>
    simp only [moveOn?, Option.ite_none_right_eq_some, Option.some.injEq] at own
    obtain ⟨about, rfl⟩ := own
    obtain ⟨rest, known⟩ := allowed_start allowed
    have idle : s'.active task = none := mirrors.idle (by simp [stream?, rest])
    have same := mirrors.among ofPool about known
    obtain ⟨ρ', grows, follows⟩ := follows_opening mirrors task same
    simp only [play, start_eq]
    exact ⟨mirrors.allows_start same idle, ρ', grows, mirrors_record follows task⟩
  | resume task signal =>
    simp only [moveOn?, Option.ite_none_right_eq_some, Option.some.injEq] at own
    obtain ⟨about, rfl⟩ := own
    obtain ⟨activity, activity', under, under', same⟩ := mirrors.here about
    obtain ⟨ρ', grows, follows⟩ := follows_ongoing mirrors task same signal
    simp only [play, resume_eq signal under, resume_eq signal under']
    exact ⟨by simp [allows, under'], ρ', grows, mirrors_record follows task⟩
  | abandon task =>
    simp only [moveOn?, Option.ite_none_right_eq_some, Option.some.injEq] at own
    obtain ⟨about, rfl⟩ := own
    obtain ⟨activity, activity', under, under', same⟩ := mirrors.here about
    exact ⟨rfl, ρ, .refl ρ, mirrors.abandon under under' same, .none⟩
  | _ => cases ofPool

theorem play_elsewhere (mirrors : s.Mirrors s' key ρ) (ofPool : move.OfPool)
    (allowed : s.allows move = true) (other : s.moveOn? key move = none)
    (fits : ∀ task activity, s.active task = some activity →
      ∃ operation : Operation, operation.OfPool ∧ Fits s operation activity) :
    (s.play move).1.Mirrors s' key ρ := by
  cases move with
  | start task operation =>
    have away : operation.key? s.writers ≠ some key := by simpa [moveOn?] using other
    obtain ⟨rest, known⟩ := allowed_start allowed
    simp only [play, start_eq]
    exact mirrors.elsewhere (beside_opening ofPool away known task)
      (mirrors.idle (by simp [stream?, rest]))
  | resume task signal =>
    have away : s.stream? task ≠ some key := by simpa [moveOn?] using other
    obtain ⟨activity, under⟩ := Option.isSome_iff_exists.1 allowed
    obtain ⟨operation, ofPool, fits⟩ := fits task activity under
    have about : activity.key? s.writers ≠ some key := by simpa [stream?, under] using away
    simp only [play, resume_eq signal under]
    exact mirrors.elsewhere (beside_ongoing ofPool fits about
      (fun id events stage same => mirrors.asked (same ▸ under)) task signal) (mirrors.idle away)
  | abandon task =>
    have away : s.stream? task ≠ some key := by simpa [moveOn?] using other
    exact mirrors.beside (beside_abandoned mirrors.asked away)
  | _ => cases ofPool

end Session.Mirrors

/-- The second run makes the moves of the first one on the stream, which come to the same. -/
structure Run.Mirrors (r alone : MemoryRun) (key : Key) (ρ : Renaming) : Prop where
  session : r.session.Mirrors alone.session key ρ
  turns : List.Forall₂ (fun turn turn' => turn.Agrees turn' key ρ) (r.turnsOn key) alone.turns

section Play
variable {r alone : MemoryRun} {key : Key} {ρ : Renaming}

theorem Run.operations_step (r : MemoryRun) {move : MemoryMove} (given : move.OfPool)
    (ofPool : ∀ operation ∈ r.operations, operation.OfPool) :
    ∀ operation ∈ (r.step move).operations, operation.OfPool := by
  unfold step
  split
  · intro operation member
    cases move with
    | start task started =>
      rcases List.mem_append.1 member with old | new
      · exact ofPool operation old
      · exact List.mem_singleton.1 new ▸ given
    | resume | abandon => exact ofPool operation member
    | _ => cases given
  · exact ofPool

theorem mirrors_step (mirrors : r.Mirrors alone key ρ) (delivered : Delivered r)
    (ofPool : ∀ operation ∈ r.operations, operation.OfPool) {move : MemoryMove}
    (given : move.OfPool) :
    ∃ ρ' more, (r.step move).movesOn key = r.movesOn key ++ more ∧
      (r.step move).Mirrors (alone.play more) key ρ' := by
  by_cases allowed : r.session.allows move = true
  · have session := mirrors.session.fresh
    have stepped := Run.step_of_allowed allowed
    have fits : ∀ task activity, r.session.fresh.active task = some activity →
        ∃ operation : Operation, operation.OfPool ∧ Fits r.session.fresh operation activity := by
      intro task activity under
      obtain ⟨operation, called, fits⟩ := delivered.fits task activity under
      exact ⟨operation, ofPool operation (List.mem_of_getElem? called), fits.congr fun _ _ _ => rfl⟩
    cases own : r.session.fresh.moveOn? key move with
    | none =>
      -- the turn has no counterpart: the run of the stream alone stands still
      have kept := session.play_elsewhere given allowed own fits
      refine ⟨ρ, [], ?_, ?_, ?_⟩
      · simp [stepped, Run.movesOn, Turn.moveOn?, own]
      · rw [stepped]
        exact kept.of_same rfl rfl rfl rfl rfl rfl rfl rfl
      · simpa [stepped, Run.turnsOn, Turn.moveOn?, own, Run.play] using mirrors.turns
    | some move' =>
      obtain ⟨allowed', ρ', grows, kept, result⟩ := session.play_here given allowed own
      have stepped' : alone.step move' = _ := Run.step_of_allowed allowed'
      refine ⟨ρ', [move'], ?_, ?_, ?_⟩
      · simp [stepped, Run.movesOn, Turn.moveOn?, own]
      · simpa only [Run.play, List.foldl_cons, List.foldl_nil, stepped, stepped'] using kept
      · -- the earlier turns agree under the names that are new as well
        have turns := mirrors.turns.imp fun _ _ agrees => agrees.mono grows
        simp only [Run.play, List.foldl_cons, List.foldl_nil, stepped, stepped', Run.turnsOn,
          List.filter_append]
        refine List.rel_append turns ?_
        simpa [Turn.moveOn?, own] using ⟨own, result, kept.agrees⟩
  · have stays : r.step move = r := if_neg allowed
    exact ⟨ρ, [], by simp [stays], stays.symm ▸ mirrors⟩

theorem mirrors_play (mirrors : r.Mirrors alone key ρ) (delivered : Delivered r) (sound : Sound r)
    (ofPool : ∀ operation ∈ r.operations, operation.OfPool) {moves : List MemoryMove}
    (given : ∀ move ∈ moves, move.OfPool) :
    ∃ ρ' more, (r.play moves).movesOn key = r.movesOn key ++ more ∧
      (r.play moves).Mirrors (alone.play more) key ρ' := by
  induction moves generalizing r alone ρ with
  | nil => exact ⟨ρ, [], (List.append_nil _).symm, mirrors⟩
  | cons move moves ih =>
    obtain ⟨first, rest⟩ := List.forall_mem_cons.1 given
    obtain ⟨ρ', more, made, stepped⟩ := mirrors_step mirrors delivered ofPool first
    obtain ⟨ρ'', later, made', played⟩ := ih stepped (delivered_step delivered sound move)
      (sound_step sound move) (r.operations_step first ofPool) rest
    refine ⟨ρ'', more ++ later, ?_, Run.play_append alone more later ▸ played⟩
    rw [← List.append_assoc, ← made]
    exact made'

theorem mirrors_new (delay : Binary64) (createStreams : Bool) (maxAttempts : Int) (key : Key) :
    let start : MemoryRun :=
      Run.new (Memory.new true true delay).connect createStreams maxAttempts
    start.Mirrors start key .empty where
  session :=
    { memory := ⟨⟨rfl, rfl, rfl, rfl⟩, ⟨rfl, rfl, rfl, rfl⟩, rfl, rfl, .none,
        by simp [Renaming.empty], rfl⟩
      setUp := ⟨rfl, rfl⟩
      era := rfl
      locks := fun _ => rfl
      registered := .none
      named := rfl
      alone := rfl
      writer := fun named => by cases named
      asked := fun under => by cases under
      tasks := fun _ => .elsewhere (by simp [Run.new, Session.new]) }
  turns := .nil

end Play

/-- Whatever searches, batches and cancellations there are on however many streams of one pool: for
every stream the run that makes the moves on this stream alone, in their order, makes all of them;
each turn has the same result as in the full run, but for the numbers of writers and the tokens,
which are renamed one to one; and after each turn the stream holds the same messages, its writers
have the same statuses, and the tasks at it wait for the same. -/
theorem streams_isolated (delay : Binary64) (createStreams : Bool) (maxAttempts : Int)
    (moves : List MemoryMove) (ofPool : ∀ move ∈ moves, move.OfPool) (key : Key) :
    let start : MemoryRun :=
      Run.new (Memory.new true true delay).connect createStreams maxAttempts
    let r := start.play moves
    let alone := start.play (r.movesOn key)
    ∃ ρ : Renaming, ρ.writers = writersOn r.session.writers key ∧
      (∀ {id other alone alone'}, ρ.SameWriter id alone → ρ.SameWriter other alone' →
        (id = other ↔ alone = alone')) ∧
      (∀ {t t' u u'}, ρ.SameToken t t' → ρ.SameToken u u' → (t = u ↔ t' = u')) ∧
      List.Forall₂ (fun turn turn' => turn.Agrees turn' key ρ) (r.turnsOn key) alone.turns ∧
      r.session.Agrees alone.session key := by
  intro start r alone
  obtain ⟨ρ, more, made, mirrors⟩ := mirrors_play (mirrors_new delay createStreams maxAttempts key)
    (delivered_new _ createStreams maxAttempts fun _ => rfl) (sound_new ..) (by simp [Run.new])
    ofPool
  obtain rfl : r.movesOn key = more := made
  exact ⟨ρ, mirrors.session.named, fun first second => first.unique second,
    fun first second => first.unique second, mirrors.turns, mirrors.session.agrees⟩

def firstStream : Key := ⟨"group", "first"⟩

def secondStream : Key := ⟨"group", "second"⟩

/-- Batches on two streams overlap. On the second one a batch has to queue and gives up; there the
first append is accepted after one on the first stream. -/
def interleaved : List MemoryMove :=
  [.start 0 (.getWriter firstStream), .start 1 (.getWriter secondStream),
    .start 0 (.write 0 .single), .start 1 (.write 1 .single), .start 2 (.write 1 .single),
    .resume 0 .ready, .abandon 2, .resume 1 .ready, .resume 2 .interrupted,
    .start 0 (.write 1 .single)]

def interleavedStart : MemoryRun :=
  Run.new (Memory.new true true (.ofRatio false 1 1)).connect true 3

def interleavedRun : MemoryRun := interleavedStart.play interleaved

def secondRun : MemoryRun := interleavedStart.play (interleavedRun.movesOn secondStream)

/-- Without the first stream the writer of the second one is the first, and has the first token. -/
theorem streams_isolated_interleaved :
    (∀ move ∈ interleaved, move.OfPool) ∧
      interleavedRun.movesOn secondStream = [.start 1 (.getWriter secondStream),
        .start 1 (.write 0 .single), .start 2 (.write 0 .single), .abandon 2,
        .resume 1 .ready, .resume 2 .interrupted, .start 0 (.write 0 .single)] ∧
      (interleavedRun.session.writer 1).token = .text (Memory.tokenText 2) ∧
      (secondRun.session.writer 0).token = .text (Memory.tokenText 1) ∧
      interleavedRun.session.Agrees secondRun.session secondStream := by
  have ofPool : ∀ move ∈ interleaved, move.OfPool := by
    simp [interleaved, Move.OfPool, Operation.OfPool]
  obtain ⟨ρ, -, -, -, -, agrees⟩ :=
    streams_isolated (.ofRatio false 1 1) true 3 interleaved ofPool secondStream
  exact ⟨ofPool, rfl, rfl, rfl, agrees⟩

end SequenceLog

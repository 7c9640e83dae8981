import SequenceLog.Proofs.Payload
import SequenceLog.Proofs.Reckoning
/-! Batches that come to nothing. A batch with a record that has no event is over before it asks for the
lock, and one that is cancelled, wherever it is suspended, leaves its writer as it found it. Main
statement: `interrupted_changes_nothing`. -/
namespace SequenceLog
open Scenario
variable {τ σ κ μ χ : Type}

theorem Record.events_error {stack : Json.Stack} {front rest : List Record} {bad : Record}
    {fault : Fault} (made : ∀ record ∈ front, ∃ event, record.event stack = .ok event)
    (failed : bad.event stack = .error fault) :
    Record.events stack (front ++ bad :: rest) = .error fault := by
  induction front with
  | nil => simp [Record.events, failed]
  | cons record front ih =>
    obtain ⟨event, first⟩ := made record List.mem_cons_self
    have others := ih fun other member => made other (List.mem_cons_of_mem _ member)
    simp [Record.events, first, others, Except.map]

namespace Mutex

theorem release_held (m : Mutex) : m.release.1.held = false := by
  unfold release grant
  split <;> rfl

end Mutex

/-- A batch that was cancelled leaves its writer the token and the status, and removes nothing. -/
theorem Tried.interrupted {key : Key} {token left : Token} {events : List LogEvent} {n : Nat}
    {deeds : List Deed} {status : Status} {fault : Fault}
    (tried : Tried key token events n deeds left status (.error fault))
    (passed : fault.isFailure = false) :
    left = token ∧ status = .active ∧ Deed.removals deeds = [] := by
  cases tried with
  | stopped trying => exact ⟨rfl, rfl, by simp [trying.removals]⟩
  | failed => cases passed

namespace Session
variable {s s' : Session τ σ κ} {id : WriterId} {stepped : Stepped τ σ κ}

/-- The writer keeps its token and its status, the pool is as it was, and no registry was asked to
forget the writer. -/
structure Preserves (id : WriterId) (s s' : Session τ σ κ) : Prop where
  token : (s'.writer id).token = (s.writer id).token
  status : (s'.writer id).status = (s.writer id).status
  pool : s'.pool = s.pool
  kept : ∃ deeds, s'.deeds id = s.deeds id ++ deeds ∧ Deed.removals deeds = []

theorem Steady.preserves (steady : Steady id s s') (pool : s'.pool = s.pool) : Preserves id s s' := by
  obtain ⟨⟨lock, writer, -⟩, quiet⟩ := steady
  exact ⟨by rw [writer], by rw [writer], pool, [], by rw [quiet, List.append_nil], rfl⟩

/-- The operation goes on, or was cancelled. -/
def Unfinished (result : Option (Except Fault Answer)) : Prop :=
  ∀ outcome, result = some outcome → ∃ fault, outcome = .error fault ∧ fault.isFailure = false

theorem Tries.preserves {events : List LogEvent} {n : Nat} {front : List Deed}
    (tries : Tries id events n front s stepped) (within : Within id s stepped.session)
    (active : (s.writer id).status = .active) (unfinished : Unfinished stepped.result?) :
    Preserves id s stepped.session := by
  have pool (status : (stepped.session.writer id).status = .active) :
      stepped.session.pool = s.pool := by
    rcases within.registration with ⟨-, pool⟩ | ⟨retired, -⟩
    · exact pool
    · cases status.symm.trans retired
  cases tries with
  | waits deeds trying _ same =>
    have kept := trying.removals
    rw [Deed.removals_append, List.append_eq_nil_iff] at kept
    exact ⟨by rw [same], by rw [same], pool (by rw [same, active]), _, deeds, kept.2⟩
  | @ends _ token status result deeds tried same progress =>
    obtain ⟨fault, rfl, passed⟩ := unfinished result (by simp [Stepped.result?, progress])
    obtain ⟨rfl, rfl, kept⟩ := tried.interrupted passed
    rw [Deed.removals_append, List.append_eq_nil_iff] at kept
    exact ⟨by rw [same], by rw [same, active], pool (by rw [same]), _, deeds, kept.2⟩

theorem Plays.preserves (plays : Plays id s stepped) (unfinished : Unfinished stepped.result?) :
    Preserves id s stepped.session := by
  cases plays with
  | aside steady pool => exact steady.preserves pool
  | refused writer deeds pool =>
    exact ⟨by rw [writer], by rw [writer], pool, [], by rw [deeds, List.append_nil], rfl⟩
  | serves active writer _ deeds pool within tries =>
    obtain ⟨token, status, same, kept⟩ := tries.preserves within (by rw [writer, active]) unfinished
    exact ⟨by rw [token, writer], by rw [status, writer], by rw [same, pool], deeds ▸ kept⟩

/-- After a batch nobody is kept waiting for a lock that is free. -/
theorem Plays.alert (plays : Plays id s stepped) (alert : (s.writer id).lock.Alert) :
    (stepped.session.writer id).lock.Alert := by
  cases plays with
  | aside steady =>
    obtain ⟨lock, writer, still⟩ := steady.writer
    rw [writer]
    exact still alert
  | refused writer =>
    rw [writer]
    exact Mutex.alert_release
  | serves _ writer held _ _ _ tries =>
    cases tries with
    | waits _ _ _ same =>
      rw [same, writer]
      exact Mutex.alert_of_held held
    | ends _ _ same =>
      rw [same]
      exact Mutex.alert_release

theorem Plays.released (plays : Plays id s stepped)
    (noted : stepped.session.deeds id ≠ s.deeds id) {result : Except Fault Answer}
    (ended : stepped.result? = some result) : (stepped.session.writer id).lock.held = false := by
  cases plays with
  | aside steady => exact absurd steady.quiet noted
  | refused _ deeds => exact absurd deeds noted
  | serves _ _ _ _ _ _ tries =>
    cases tries with
    | waits _ _ _ _ progress => simp [Stepped.result?, progress] at ended
    | ends _ _ same =>
      rw [same]
      exact Mutex.release_held _

end Session

theorem Trying.head {key : Key} {token : Token} {events : List LogEvent} {sent : Nat}
    {deeds : List Deed} (trying : Trying key token events sent deeds) :
    ∃ more, deeds = .sent ⟨key, token, events⟩ :: more := by
  induction trying with
  | first => exact ⟨[], rfl⟩
  | again _ _ _ ih =>
    obtain ⟨more, rfl⟩ := ih
    exact ⟨_, rfl⟩

theorem Tried.head {key : Key} {token left : Token} {events : List LogEvent} {n : Nat}
    {deeds : List Deed} {status : Status} {result : Except Fault Answer}
    (tried : Tried key token events n deeds left status result) :
    ∃ more, deeds = .sent ⟨key, token, events⟩ :: more := by
  cases tried with
  | returned trying | stopped trying | failed trying =>
    obtain ⟨more, rfl⟩ := trying.head
    exact ⟨_, rfl⟩

/-- What a batch that was given the lock does first is to send its events. -/
theorem Session.Tries.head {s : Session τ σ κ} {stepped : Stepped τ σ κ} {id : WriterId}
    {events : List LogEvent} {n : Nat} (tries : Session.Tries id events n [] s stepped) :
    ∃ more, stepped.session.deeds id =
      s.deeds id ++ .sent ⟨(s.writer id).key, (s.writer id).token, events⟩ :: more := by
  cases tries with
  | waits deeds trying =>
    obtain ⟨more, same⟩ := trying.head
    exact ⟨more, by rw [deeds, ← same]; rfl⟩
  | ends deeds tried =>
    obtain ⟨more, same⟩ := tried.head
    exact ⟨more, by rw [deeds, ← same]; rfl⟩

section Steps
variable [Transport τ σ κ] [Commanded τ μ χ κ] {r : Run τ σ κ μ χ} {id : WriterId}
  {turn : Turn τ σ κ μ χ} {move : Move μ χ}

theorem alert_step (sound : Sound r) (known : id < r.session.writers.length)
    (alert : (r.session.writer id).lock.Alert) (move : Move μ χ) :
    ((r.step move).session.writer id).lock.Alert := by
  rcases r.turns_step move with same | ⟨turn, turns, -⟩
  · rwa [Run.step_of_turns same]
  · by_cases own : turn.writer? = some id
    · obtain ⟨-, task, stepped, takes, plays, -⟩ := plays_step sound turns own
      exact takes.writer id ▸ plays.alert alert
    · obtain ⟨lock, writer, still⟩ := (steady_step sound known turns own).writer
      rw [writer]
      exact still alert

theorem alert_play (sound : Sound r)
    (alert : ∀ id < r.session.writers.length, (r.session.writer id).lock.Alert)
    (moves : List (Move μ χ)) : ∀ id < (r.play moves).session.writers.length,
      ((r.play moves).session.writer id).lock.Alert := by
  refine play_induct (motive := fun r => ∀ id < r.session.writers.length,
    (r.session.writer id).lock.Alert) sound alert fun r sound alert move _ id young => ?_
  by_cases old : id < r.session.writers.length
  · exact alert_step sound old (alert id old) move
  · obtain ⟨free, -⟩ := newborn_step sound move (Nat.le_of_not_lt old) young
    rw [free]
    exact Mutex.alert_free

theorem preserves_step (sound : Sound r) (turns : (r.step move).turns = r.turns ++ [turn])
    (own : turn.writer? = some id) (unfinished : Session.Unfinished turn.result) :
    Session.Preserves id turn.before turn.after := by
  obtain ⟨-, task, stepped, takes, plays, rfl⟩ := plays_step sound turns own
  obtain ⟨token, status, pool, kept⟩ := plays.preserves unfinished
  refine ⟨by rw [takes.writer, token], by rw [takes.writer, status], ?_, by rwa [takes.deeds]⟩
  rw [← pool, takes.session]

theorem preserves_play (sound : Sound r) {moves : List (Move μ χ)}
    (member : turn ∈ (r.play moves).turns) (new : turn ∉ r.turns) (own : turn.writer? = some id)
    (unfinished : Session.Unfinished turn.result) :
    Session.Preserves id turn.before turn.after := by
  obtain ⟨front, move, later, rfl, made⟩ := (Run.made_of_mem member).resolve_left new
  exact preserves_step (sound_play sound front) made own unfinished

theorem Run.step_unserialized {task : TaskId} {batch : Batch} {fault : Fault}
    (idle : r.session.active task = none) (known : id < r.session.writers.length)
    (unserialized : batch.events = .error fault) :
    (r.step (.start task (.write id batch))).session = r.session.fresh ∧
      (r.step (.start task (.write id batch))).turns = r.turns ++
        [⟨.start task (.write id batch), some r.operations.length, r.session.fresh,
          r.session.fresh, some (.error fault)⟩] := by
  have allowed : r.session.allows (.start task (.write id batch) : Move μ χ) = true := by
    simp [Session.allows, idle, known]
  have played : r.session.fresh.play (.start task (.write id batch) : Move μ χ) =
      (r.session.fresh, some (.error fault)) := by
    have same : (fun t => if t = task then none else r.session.active t) = r.session.active := by
      funext t
      split
      · rename_i own
        rw [own, idle]
      · rfl
    simp only [Session.play, Session.start, Session.startBatch_unserialized unserialized,
      Session.finished, Session.record, Session.fresh, same]
  rw [Run.step_of_allowed allowed, played]
  exact ⟨rfl, rfl⟩

omit [Transport τ σ κ] [Commanded τ μ χ κ] in
/-- What a call that has ended leaves of the lock: the call is neither inside nor in the queue. -/
theorem Sound.left (sound : Sound r) (ends : EndsOnce r) {call : CallId}
    (ended : r.results call ≠ []) {task : TaskId} (own : r.call task = call)
    (known : id < r.session.writers.length) :
    r.session.active task = none ∧ ∀ place, (task, place) ∉ (r.session.writer id).lock.queue := by
  have idle : r.session.active task = none := by
    by_contra under
    exact ended (own ▸ ends.underway task under)
  refine ⟨idle, fun place queued => ?_⟩
  obtain ⟨lane, attended⟩ := sound.attended id known
  obtain ⟨events, under⟩ := (attended.guards.queued task).2 ⟨place, queued⟩
  cases idle.symm.trans under

theorem Run.firstToken_play (sound : Sound r) (known : id < r.session.writers.length)
    (moves : List (Move μ χ)) : (r.play moves).firstToken id = r.firstToken id := by
  obtain ⟨-, more, opened⟩ := Run.grows_play sound moves
  rw [Run.firstToken, opened, List.getElem?_append_left (sound.opened.symm ▸ known), Run.firstToken]

omit [Transport τ σ κ] [Commanded τ μ χ κ] in
theorem adopted_of_unaccepted (token : Token) {past rest : Chronicle}
    (unaccepted : ∀ call next, (call, .settled (.ok next)) ∉ rest) :
    Chronicle.adopted token (past ++ rest) = Chronicle.adopted token past := by
  induction rest generalizing past with
  | nil => rw [List.append_nil]
  | cons entry rest ih =>
    rw [List.append_cons, ih fun call next member => unaccepted call next (.tail _ member)]
    obtain ⟨call, deed⟩ := entry
    cases deed with
    | sent => exact Chronicle.adopted_sent ..
    | removed => exact Chronicle.adopted_removed ..
    | settled result =>
      cases result with
      | error => exact Chronicle.adopted_failed ..
      | ok next => exact absurd List.mem_cons_self (unaccepted call next)

/-- As long as no append succeeds, whoever begins to append does it with the token of the writer. -/
theorem Sound.next_token (sound : Sound r) (known : id < r.session.writers.length)
    {moves : List (Move μ χ)} {past rest : Chronicle} {call : CallId} {request : Append}
    (split : (r.play moves).chronicle id = r.chronicle id ++ past ++ (call, .sent request) :: rest)
    (first : call ∉ Chronicle.senders (r.chronicle id ++ past))
    (unaccepted : ∀ other next, (other, .settled (.ok next)) ∉ past) :
    request.token = (r.session.writer id).token := by
  obtain ⟨lane, lawful, -⟩ := (sound_play sound moves).lawful id
  obtain ⟨now, lawfulNow, token⟩ := sound.lawful id
  rw [(lawful.sent_token split).1 first, Run.firstToken_play sound known,
    adopted_of_unaccepted _ unaccepted, ← token, lawfulNow.adopted_eq]

omit [Commanded τ μ χ κ] in
theorem Admits.sends {r' : Run τ σ κ μ χ} {call : CallId} {events : List LogEvent}
    (admits : Admits r r' turn id call events) (active : (r.session.writer id).status = .active) :
    ∃ more, turn.after.deeds id =
      .sent ⟨(r.session.writer id).key, (r.session.writer id).token, events⟩ :: more := by
  obtain ⟨task, lock, -, -, takes, -⟩ := admits.served
  have tries := Session.tries_locked (s := r.session.fresh) admits.known active events lock
  have writer := Session.writer_setWriter_self r.session.fresh id
    { r.session.fresh.writer id with lock := lock } admits.known
  obtain ⟨more, deeds⟩ := tries.head
  rw [admits.after, takes.deeds]
  refine ⟨more, deeds.trans ?_⟩
  rw [writer]
  rfl

end Steps

/-- The call is told to stop while it waits. -/
def Turn.Cancels {τ σ κ μ χ : Type} (turn : Turn τ σ κ μ χ) : Prop :=
  ∃ task signal, turn.move = .resume task signal ∧ signal ≠ .ready

section Cancelled
variable [Transport τ σ κ] [Commanded τ μ χ κ]

/-- What a cancelled call that wrote a batch leaves of the writer. -/
structure Undone (r : Run τ σ κ μ χ) (id : WriterId) (call : CallId) : Prop where
  /-- No turn of the call changed the token, the status or the registration of the writer. -/
  turns : ∀ turn ∈ r.turns, turn.call = some call → Session.Preserves id turn.before turn.after
  /-- If the call had the lock, the writer is as it was when the call got it. -/
  entry : ∀ turn ∈ r.turns, turn.call = some call → turn.Enters id →
    (turn.before.writer id).status = .active →
    (r.session.writer id).token = (turn.before.writer id).token ∧
      (r.session.writer id).status = .active
  /-- The call neither holds the lock nor waits for it. -/
  left : ∀ task, r.call task = call → r.session.active task = none ∧
    ∀ place, (task, place) ∉ (r.session.writer id).lock.queue
  held : (r.session.writer id).lock.held = true ↔ ∃ task, r.session.Sending id task
  alert : (r.session.writer id).lock.Alert
  /-- Whoever gets the lock next sends at once, with the token of the writer. -/
  next : ∀ (move : Move μ χ) turn, (r.step move).turns = r.turns ++ [turn] → turn.Enters id →
    (r.session.writer id).status = .active → ∃ events more, turn.after.deeds id =
      .sent ⟨(r.session.writer id).key, (r.session.writer id).token, events⟩ :: more
  /-- As long as no append succeeds, everybody's first append carries this token. -/
  later : ∀ (moves : List (Move μ χ)) past other request rest,
    (r.play moves).chronicle id = r.chronicle id ++ past ++ (other, .sent request) :: rest →
    other ∉ Chronicle.senders (r.chronicle id ++ past) →
    (∀ call next, (call, .settled (.ok next)) ∉ past) →
    request.token = (r.session.writer id).token

theorem undone_step {r : Run τ σ κ μ χ} {transport : τ} {createStreams : Bool} {maxAttempts : Int}
    {moves : List (Move μ χ)} (played : r = (Run.new transport createStreams maxAttempts).play moves)
    {move : Move μ χ} {turn : Turn τ σ κ μ χ} {call : CallId} {id : WriterId} {batch : Batch}
    {fault : Fault} (turns : (r.step move).turns = r.turns ++ [turn]) (own : turn.call = some call)
    (writes : (r.step move).operations[call]? = some (.write id batch))
    (ended : turn.result = some (.error fault)) (passed : fault.isFailure = false) :
    Undone (r.step move) id call := by
  have sound : Sound r := played ▸ sound_play (sound_new ..) moves
  have ends : EndsOnce r := played ▸ ends_once_play (ends_once_new ..) (sound_new ..) moves
  have suited : Suited r := played ▸ suited_play (suited_new ..) (sound_new ..) moves
  have all : r.step move = (Run.new transport createStreams maxAttempts).play (moves ++ [move]) := by
    rw [Run.play_append, ← played]
    rfl
  have sound' := sound_step sound move
  have ends' := ends_once_step ends sound move
  have suited' := suited_step suited sound move
  obtain ⟨unended, results⟩ := ends'.first turns own ended
  have busy {other : Turn τ σ κ μ χ} (member : other ∈ (r.step move).turns)
      (mine : other.call = some call) : other.writer? = some id :=
    suited'.writer member mine writes
  have last : turn ∈ (r.step move).turns := by simp [turns]
  obtain ⟨known, task, stepped, takes, plays, made⟩ := plays_step sound turns (busy last own)
  have before : turn.before = r.session.fresh := by rw [made]
  have after : turn.after = (r.step move).session := by rw [made]
  -- the call has this one result, so none of its turns can have concluded its batch
  have unfinished {result : Option (Except Fault Answer)} (only : ∀ outcome, result = some outcome →
      outcome ∈ (r.step move).results call) : Session.Unfinished result := by
    intro outcome ended'
    have same := only outcome ended'
    rw [results, List.mem_singleton] at same
    exact ⟨fault, same, passed⟩
  have preserves := preserves_step sound turns (busy last own)
    (unfinished fun _ ended' => Run.mem_results last own ended')
  have known' : id < (r.step move).session.writers.length :=
    Nat.lt_of_lt_of_le known (Run.longer_step sound move)
  obtain ⟨lane, attended⟩ := sound'.attended id known'
  refine ⟨fun other member mine => ?_, fun entry member mine enters active => ?_,
    fun task mine => sound'.left ends' (by simp [results]) mine known', attended.guards.held, ?_,
    fun next turn' turns' enters active => ?_, fun moves' past other request rest split first none =>
      sound'.next_token known' split first none⟩
  · exact preserves_play (sound_new ..) (all ▸ member) (by simp [Run.new]) (busy member mine)
      (unfinished fun _ ended' => Run.mem_results member mine ended')
  · have kept : ((r.step move).session.writer id).token = (r.session.writer id).token ∧
        ((r.step move).session.writer id).status = (r.session.writer id).status := by
      have token := preserves.token
      have status := preserves.status
      rw [after, before] at token status
      exact ⟨token, status⟩
    rw [turns, List.mem_append, List.mem_singleton] at member
    rcases member with old | rfl
    · obtain ⟨events, -, -, fares⟩ := fares_of_enters (sound_new ..) (ends_once_new ..)
        (played ▸ old) (by simp [Run.new]) mine enters active
      rw [← played] at fares
      cases fares with
      | trying _ _ _ _ writer =>
        obtain ⟨lock, writer⟩ := writer
        rw [kept.1, kept.2, writer]
        exact ⟨rfl, active⟩
      | tried _ _ _ results' => cases unended.symm.trans results'
    · rw [before] at active ⊢
      exact ⟨kept.1, kept.2.trans active⟩
  · rw [all]
    exact alert_play (sound_new ..) (fun _ none => absurd none (Nat.not_lt_zero _)) _ id (all ▸ known')
  · obtain ⟨-, task', stepped', -, -, made'⟩ :=
      plays_step sound' turns' (turn'.writer_of_enters enters)
    obtain ⟨events, admits⟩ := admits_step sound' ends' turns' (by rw [made']) enters
    exact ⟨events, admits.sends active⟩

/-- Whatever the transport and the others do, and in whatever state the writer is. If a record of a
batch has no event, and those before it have one, the call fails with this fault in the turn in which
it starts: nothing happens in the turn, and the session stays as it is. If a call that writes a batch
is cancelled, it has changed neither token nor status nor registration of its writer, it neither holds
the lock nor waits for it, and lets it go if it had it; then the lock is free for the next one, who sends at
once, with the token that the writer had all along. -/
theorem interrupted_changes_nothing (transport : τ) (createStreams : Bool) (maxAttempts : Int)
    (moves : List (Move μ χ)) :
    let r : Run τ σ κ μ χ := (Run.new transport createStreams maxAttempts).play moves
    (∀ task id stack front bad rest fault, r.session.active task = none →
      id < r.session.writers.length → (∀ record ∈ front, ∃ event, record.event stack = .ok event) →
      bad.event stack = .error fault →
      let move : Move μ χ := .start task (.write id ⟨stack, front ++ bad :: rest⟩)
      (r.step move).session = r.session.fresh ∧
        (r.step move).turns = r.turns ++ [⟨move, some r.operations.length, r.session.fresh,
          r.session.fresh, some (.error fault)⟩]) ∧
    (∀ move turn call id batch fault, (r.step move).turns = r.turns ++ [turn] →
      turn.call = some call → (r.step move).operations[call]? = some (.write id batch) →
      turn.result = some (.error fault) → fault.isFailure = false →
      Undone (r.step move) id call ∧
        (turn.after.deeds id ≠ [] → ((r.step move).session.writer id).lock.held = false)) := by
  intro r
  have sound : Sound r := sound_play (sound_new ..) moves
  refine ⟨fun task id stack front bad rest fault idle known made failed => ?_,
    fun move turn call id batch fault turns own writes ended passed => ?_⟩
  · exact Run.step_unserialized idle known (Record.events_error made failed)
  · refine ⟨undone_step rfl turns own writes ended passed, fun noted => ?_⟩
    have suited : Suited (r.step move) :=
      suited_step (suited_play (suited_new ..) (sound_new ..) moves) sound move
    have writer : turn.writer? = some id := suited.writer (by simp [turns]) own writes
    obtain ⟨-, task, stepped, takes, plays, rfl⟩ := plays_step sound turns writer
    rw [takes.writer]
    refine plays.released (fun quiet => noted ?_) ended
    exact (takes.deeds id).trans quiet

end Cancelled

def unwritable : Record :=
  { (default : Record) with
    fields := .mapping [(.text "k", .foreign { (default : Json.Foreign) with typeName := "object" })] }

theorem event_unwritable (room : Nat) :
    unwritable.event (.ofRoom (room + 2)) = .error (Json.Problem.foreignValue "object").fault := rfl

/-- A batch whose first append was refused is sending again, and another one waits. -/
def resending : List (Move Memory.Command Empty) :=
  [.command .connect, .command (.setToken default (.text "token")),
    .openWriter default (.outside none) .null 3, .start 0 (.write 0 .single),
    .start 1 (.write 0 .single), .resume 0 .ready]

def resendingRun : MemoryRun :=
  (Run.new (Memory.new true true (.finite false 1 0)) true 3).play resending

theorem interrupted_changes_nothing_resending :
    (resendingRun.step (.start 2 (.write 0 ⟨.ofRoom 2, [default, unwritable]⟩))).session =
        resendingRun.session.fresh ∧
      (let r := resendingRun.step (.resume 0 .interrupted)
       Undone r 0 0 ∧ (r.session.writer 0).lock.held = false ∧
        ∃ turn events more, (r.step (.resume 1 .ready)).turns = r.turns ++ [turn] ∧
          turn.after.deeds 0 = .sent ⟨default, .null, events⟩ :: more) := by
  obtain ⟨unserialized, cancelled⟩ := interrupted_changes_nothing
    (Memory.new true true (.finite false 1 0)) true 3 resending
  obtain ⟨same, -⟩ := unserialized 2 0 (.ofRoom 2) [default] unwritable [] _ rfl (by decide)
    (fun record member => List.mem_singleton.1 member ▸ ⟨_, rfl⟩) (event_unwritable 0)
  obtain ⟨undone, released⟩ := cancelled (.resume 0 .interrupted) _ 0 0 .single .stopped rfl rfl rfl
    rfl rfl
  obtain ⟨events, more, sent⟩ := undone.next (.resume 1 .ready) _ rfl
    ⟨⟨_, rfl⟩, by decide⟩ rfl
  exact ⟨same, undone, released (List.cons_ne_nil _ _), _, events, more, rfl, sent⟩

def openedRun : MemoryRun :=
  (Run.new (Memory.new true true (.zero false)) true 3).play
    [.command .connect, .openWriter default (.outside none) .null 3]

/-- What is not reported as a failure to serialize hides the failures after it: where there is room for the
second record of the batch but not for the first, which is nested too deep, the batch fails with the fault
of the first. -/
theorem abyss_hides_unwritable :
    (∀ room, 2 ≤ room →
      ∃ message cause, unwritable.event (.ofRoom room) = .error (.plain .serialization message cause)) ∧
    (∀ stack : Json.Stack, stack.room ≤ 1202 →
      ∃ turn, (openedRun.step (.start 0 (.write 0 ⟨stack, [abyss, unwritable]⟩))).turns =
          openedRun.turns ++ [turn] ∧
        turn.result = some (.error Json.Problem.tooDeep.fault)) ∧
    ∀ message cause, Json.Problem.tooDeep.fault ≠ .plain .serialization message cause := by
  refine ⟨fun room enough => ?_, fun stack shallow => ?_, nofun⟩
  · obtain ⟨more, rfl⟩ := Nat.exists_eq_add_of_le' enough
    exact ⟨_, _, event_unwritable more⟩
  · have failed : Batch.events ⟨stack, [] ++ abyss :: [unwritable]⟩ =
        .error Json.Problem.tooDeep.fault :=
      Record.events_error nofun (event_abyss shallow)
    have stepped : _ ∧ (openedRun.step
        (.start 0 (.write 0 ⟨stack, [] ++ abyss :: [unwritable]⟩))).turns = _ :=
      Run.step_unserialized rfl (by decide) failed
    exact ⟨_, stepped.2, rfl⟩

end SequenceLog

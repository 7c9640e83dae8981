import SequenceLog.Proofs.Ending
import SequenceLog.Proofs.Interference
/-! A writer on the transport in memory and a writer on the transport to an enforcing service, side by
side. Either of them follows a writer of which the log alone decides what becomes, however often its
task has to go on. Main statement: `lock_step`. -/
namespace SequenceLog
open Scenario
variable {τ σ κ μ χ : Type}

/-- A writer as the log decides it. The calls are numbered by their results. -/
structure Ideal where
  writer : Writer
  pool : Pool
  log : Log
  chronicle : Chronicle
  results : List (Except Fault Answer)

namespace Ideal

def answered (i : Ideal) (result : Except Fault Answer) : Ideal :=
  { i with results := i.results ++ [result] }

def conclude (i : Ideal) (c : Conclusion) : Ideal where
  writer := i.writer.after c.outcome
  pool := i.pool.after i.writer 0 c.outcome
  log := c.log
  chronicle := i.chronicle ++ c.deeds.map (i.results.length, ·)
  results := i.results ++ [i.writer.reply c.outcome]

def serve (i : Ideal) (events : List LogEvent) : Ideal :=
  match i.writer.status with
  | .invalidated => i.answered (.error i.writer.invalidFault)
  | .active => i.conclude (i.log.serve i.writer.key events i.writer.retries i.writer.token)

def write (i : Ideal) (batch : Batch) : Ideal :=
  if batch.records.isEmpty then i.answered (.ok .nothing)
  else match batch.events with
    | .error fault => i.answered (.error fault.uncaused)
    | .ok events => i.serve events

/-- The writer is between two batches, and nobody uses anything but tokens. -/
structure Proper (i : Ideal) : Prop where
  token : i.writer.token.IsToken
  log : i.log.Proper
  free : i.writer.lock = .free

variable {i : Ideal}

theorem write_cases (i : Ideal) (batch : Batch) :
    (∃ result, i.write batch = i.answered result) ∨
      ∃ events, i.write batch =
        i.conclude (i.log.serve i.writer.key events i.writer.retries i.writer.token) := by
  unfold write
  split
  · exact .inl ⟨_, rfl⟩
  · split
    · exact .inl ⟨_, rfl⟩
    · unfold serve
      split
      · exact .inl ⟨_, rfl⟩
      · exact .inr ⟨_, rfl⟩

theorem Proper.conclude (proper : i.Proper) {c : Conclusion} (log : c.log.Proper)
    (usable : Usable c.outcome) : (i.conclude c).Proper := by
  obtain ⟨_, deeds, outcome⟩ := c
  cases usable with
  | accepted token => exact ⟨token, log, proper.free⟩
  | refused => exact ⟨proper.token, log, proper.free⟩

theorem Proper.write (proper : i.Proper) (batch : Batch) : (i.write batch).Proper := by
  rcases i.write_cases batch with ⟨result, answered⟩ | ⟨events, concluded⟩
  · rw [answered]
    exact ⟨proper.token, proper.log, proper.free⟩
  · rw [concluded]
    obtain ⟨log, usable⟩ := proper.log.serve i.writer.key events i.writer.retries i.writer.token
    exact proper.conclude log usable

theorem length_write (i : Ideal) (batch : Batch) :
    (i.write batch).results.length = i.results.length + 1 := by
  rcases i.write_cases batch with ⟨result, answered⟩ | ⟨events, concluded⟩
  · simp [answered, Ideal.answered]
  · simp [concluded, Ideal.conclude]

theorem length_writes (i : Ideal) (batches : List Batch) :
    (batches.foldl write i).results.length = i.results.length + batches.length := by
  induction batches generalizing i with
  | nil => rfl
  | cons batch rest ih =>
    rw [List.foldl_cons, ih, length_write, List.length_cons]
    omega

theorem fixed_write (i : Ideal) (batch : Batch) :
    (i.write batch).writer.key = i.writer.key ∧
      (i.write batch).writer.retries = i.writer.retries := by
  rcases i.write_cases batch with ⟨result, answered⟩ | ⟨events, concluded⟩
  · rw [answered]
    exact ⟨rfl, rfl⟩
  · rw [concluded, Ideal.conclude]
    dsimp only
    unfold Writer.after
    split <;> exact ⟨rfl, rfl⟩

end Ideal

def Writer.locked (w : Writer) : Writer := { w with lock := w.lock.take }

/-- The chronicle of a writer without the causes of faults. -/
def Run.gist (r : Run τ σ κ μ χ) (id : WriterId) : Chronicle :=
  (r.chronicle id).map fun entry => (entry.1, entry.2.uncaused)

theorem Takes.gist {r r' : Run τ σ κ μ χ} {task : TaskId} {stepped : Stepped τ σ κ}
    (takes : Takes r r' task stepped) (id : WriterId) :
    r'.gist id = r.gist id ++ (stepped.session.gist id).map (r'.call task, ·) := by
  simp [Run.gist, takes.chronicle, Session.told, Session.gist]

/-- How a call of the run ended, without the causes of faults. -/
def Run.endings (r : Run τ σ κ μ χ) (call : CallId) : List (Except Fault Answer) :=
  (r.results call).map uncaused

/-- Task 0 goes from one run to the other in its latest call. The log has decided all calls before. -/
structure Latest (r r' : Run τ σ κ μ χ) (i : Ideal) : Prop where
  others : ∀ task, task ≠ 0 → r.session.active task = none
  call : r'.call 0 = i.results.length
  begun : r'.operations.length = i.results.length + 1
  ended : ∀ call, r.endings call = (i.results[call]?).toList

section Following
variable (shows : τ → Log → Prop)

/-- The run is between two batches of its one writer, and all is as the log decides it. -/
structure Follows (r : Run τ σ κ μ χ) (i : Ideal) : Prop where
  shown : shows r.session.transport i.log
  alone : r.session.writers.length = 1
  writer : r.session.writer 0 = i.writer
  pool : r.session.pool = i.pool
  idle : ∀ task, r.session.active task = none
  chronicle : r.gist 0 = i.chronicle
  begun : r.operations.length = i.results.length
  ended : ∀ call, r.endings call = (i.results[call]?).toList

/-- The run is in the middle of a batch that comes to the conclusion `c`. It waits for an append, and
fewer than `bound` may follow. -/
structure Nears [Transport τ σ κ] (r : Run τ σ κ μ χ) (i : Ideal) (c : Conclusion) (bound : Nat) :
    Prop where
  latest : Latest r r i
  alone : r.session.writers.length = 1
  writer : r.session.writer 0 = i.writer.locked
  pool : r.session.pool = i.pool
  underway : ∃ events left stage front log outcome, left < bound ∧
    r.session.active 0 = some (.batch 0 events (.sending left stage)) ∧
    Arrives shows (Transport.resume r.session.transport stage .ready) (log, outcome) ∧
    log.Proper ∧ Usable outcome ∧
    r.gist 0 = i.chronicle ++ front.map (i.results.length, ·) ∧
    c = (log.conclude i.writer.key events left outcome).behind front

end Following

section Turns
variable {shows : τ → Log → Prop} {r r' : Run τ σ κ μ χ} {i : Ideal}

theorem toList_concat {α : Type} (l : List α) (x : α) (n : Nat) :
    ((l ++ [x])[n]?).toList = (l[n]?).toList ++ if l.length = n then [x] else [] := by
  rcases Nat.lt_trichotomy n l.length with before | rfl | after
  · rw [List.getElem?_append_left before, if_neg (Nat.ne_of_gt before), List.append_nil]
  · simp
  · have longer : (l ++ [x]).length ≤ n := by simp; omega
    rw [List.getElem?_eq_none longer, List.getElem?_eq_none (Nat.le_of_lt after),
      if_neg (Nat.ne_of_lt after)]
    rfl

theorem Takes.endings {task : TaskId} {stepped : Stepped τ σ κ} (takes : Takes r r' task stepped)
    (call : CallId) : r'.endings call =
      r.endings call ++ if r'.call task = call then (stepped.result?.map uncaused).toList else [] := by
  rw [Run.endings, takes.results, List.map_append]
  split
  · cases stepped.result? <;> rfl
  · rfl

theorem Takes.follows {i' : Ideal} {s : Session τ σ κ} {result : Except Fault Answer}
    (takes : Takes r r' 0 (s.finished result)) (latest : Latest r r' i) (alone : s.writers.length = 1)
    (shown : shows s.transport i'.log) (writer : s.writer 0 = i'.writer) (pool : s.pool = i'.pool)
    (results : i'.results = i.results ++ [uncaused result])
    (chronicle : i'.chronicle = r.gist 0 ++ (s.gist 0).map (i.results.length, ·)) :
    Follows shows r' i' where
  shown := by rw [takes.session]; exact shown
  alone := by rw [takes.session]; exact alone
  writer := (takes.writer 0).trans writer
  pool := by rw [takes.session]; exact pool
  idle task := by
    by_cases own : task = 0
    · rw [own, takes.active_self]
      rfl
    · rw [takes.active_other own, latest.others task own]
  chronicle := by rw [takes.gist, latest.call, chronicle]; rfl
  begun := by simp [latest.begun, results]
  ended call := by
    rw [takes.endings, latest.ended, latest.call, results, toList_concat]
    rfl

theorem Follows.answered {s : Session τ σ κ} {result : Except Fault Answer}
    (follows : Follows shows r i) (takes : Takes r r' 0 (s.finished result)) (latest : Latest r r' i)
    (length : s.writers.length = r.session.writers.length)
    (transport : s.transport = r.session.transport) (writer : s.writer 0 = r.session.writer 0)
    (pool : s.pool = r.session.pool) (quiet : s.gist 0 = []) :
    Follows shows r' (i.answered (uncaused result)) := by
  refine takes.follows latest (length.trans follows.alone) (transport ▸ follows.shown)
    (writer.trans follows.writer) (pool.trans follows.pool) rfl ?_
  simp [Ideal.answered, follows.chronicle, quiet]

theorem released_free {w : Writer} (free : w.lock = .free) :
    { w.locked with lock := w.locked.lock.release.1 } = w := by
  obtain ⟨key, registry, token, status, retries, lock⟩ := w
  cases free
  rfl

theorem after_released {w : Writer} (free : w.lock = .free) (outcome : Except Fault Token) :
    { w.locked.after outcome with lock := w.locked.lock.release.1 } = w.after outcome := by
  cases outcome with
  | ok token => exact congrArg (fun w : Writer => { w with token := token }) (released_free free)
  | error fault =>
    exact congrArg (fun w : Writer => { w with status := .invalidated }) (released_free free)

theorem after_locked (p : Pool) (w : Writer) (id : WriterId) (outcome : Except Fault Token) :
    p.after w.locked id outcome = p.after w id outcome := by
  cases outcome <;> rfl

theorem reply_locked (w : Writer) (outcome : Except Fault Token) :
    w.locked.reply outcome = w.reply outcome := by
  cases outcome <;> rfl

variable [Transport τ σ κ] {c c' : Conclusion} {front : List Deed} {bound : Nat}

theorem Takes.nears {events : List LogEvent} {s : Session τ σ κ} {stepped : Stepped τ σ κ}
    (takes : Takes r r' 0 stepped) (latest : Latest r r' i)
    (heads : Session.Heads shows i.writer.key 0 events s bound c' stepped)
    (alone : stepped.session.writers.length = 1) (free : i.writer.lock = .free)
    (writer : s.writer 0 = i.writer.locked) (pool : s.pool = i.pool)
    (quiet : s.gist 0 = []) (told : r.gist 0 = i.chronicle ++ front.map (i.results.length, ·))
    (same : c = c'.behind front) :
    Follows shows r' (i.conclude c) ∨ Nears shows r' i c bound := by
  subst same
  cases heads with
  | ends shown writer' pool' reply grown =>
    rw [writer] at writer' pool' reply
    rw [quiet, List.nil_append] at grown
    refine .inl (takes.follows latest alone shown ?_ ?_ ?_ ?_)
    · exact writer'.trans (after_released free _)
    · rw [pool', pool, after_locked]
      rfl
    · rw [reply, reply_locked]
      rfl
    · simp [told, grown, Ideal.conclude, Conclusion.behind]
  | @waits s' left stage front' log outcome fewer writer' pool' arrives proper usable grown same =>
    rw [quiet, List.nil_append] at grown
    have session : r'.session.transport = s'.transport := by rw [takes.session]; rfl
    refine .inr ⟨⟨?_, latest.call, latest.begun, ?_⟩, ?_, ?_, ?_, ?_⟩
    · intro task other
      rw [takes.active_other other, latest.others task other]
    · intro call
      rw [takes.endings, latest.ended]
      simp [Session.suspended, Stepped.result?]
    · rw [takes.session]
      exact alone
    · exact (takes.writer 0).trans (writer'.trans writer)
    · rw [takes.session]
      exact pool'.trans pool
    · refine ⟨events, left, stage, front ++ front', log, outcome, fewer, ?_, session ▸ arrives, proper,
        usable, ?_, ?_⟩
      · rw [takes.active_self]
        rfl
      · rw [takes.gist, latest.call, told]
        simp [Session.suspended, grown]
      · rw [same, Conclusion.behind_behind]

theorem Follows.sends {s : Session τ σ κ} {events : List LogEvent} (follows : Follows shows r i)
    (proper : i.Proper) (faithful : Faithful shows i.writer.key)
    (takes : Takes r r' 0 (s.sendBatch 0 events)) (latest : Latest r r' i)
    (alone : (s.sendBatch 0 events).session.writers.length = 1)
    (length : s.writers.length = r.session.writers.length)
    (transport : s.transport = r.session.transport)
    (writer : s.writer 0 = i.writer.locked)
    (pool : s.pool = r.session.pool) (quiet : s.gist 0 = []) :
    Follows shows r' (i.serve events) ∨
      ∃ c, i.serve events = i.conclude c ∧ Nears shows r' i c (i.writer.retries + 1) := by
  have known : 0 < s.writers.length := by
    rw [length, follows.alone]
    exact Nat.zero_lt_one
  cases status : i.writer.status with
  | invalidated =>
    have refused : (s.writer 0).status = .invalidated := (congrArg (·.status) writer).trans status
    rw [Session.sendBatch_invalidated refused, writer] at takes
    have released : (s.releaseWriter 0).writer 0 = r.session.writer 0 := by
      rw [Session.writer_releaseWriter s 0 known, writer, follows.writer]
      exact released_free proper.free
    have count := (Session.within_releaseWriter known).length.trans length
    have silent : (s.releaseWriter 0).gist 0 = [] := by
      rw [Session.gist, Session.deeds_releaseWriter]
      exact quiet
    rw [Ideal.serve, status]
    exact .inl (follows.answered takes latest count ((s.releaseWriter_transport 0).trans transport)
      released ((s.releaseWriter_pool 0).trans pool) silent)
  | active =>
    have ready : (s.writer 0).status = .active := (congrArg (·.status) writer).trans status
    have sameKey : (s.writer 0).key = i.writer.key := congrArg (·.key) writer
    have token : (s.writer 0).token.IsToken := by
      rw [writer]
      exact proper.token
    have heads := Session.heads_sendBatch faithful known ready sameKey (transport ▸ follows.shown)
      proper.log token events
    rw [writer] at heads
    have told : r.gist 0 = i.chronicle ++ ([] : List Deed).map (i.results.length, ·) := by
      simp [follows.chronicle]
    have nearer := takes.nears latest heads alone proper.free writer (pool.trans follows.pool) quiet
      told rfl
    rw [Ideal.serve, status]
    exact nearer.imp_right fun nears => ⟨_, rfl, nears⟩

variable [Commanded τ μ χ κ]

/-- When it goes on, a batch comes to its conclusion or nearer to it. -/
theorem Nears.step (nears : Nears shows r i c bound) (faithful : Faithful shows i.writer.key)
    (free : i.writer.lock = .free) :
    Follows shows (r.step (.resume 0 .ready)) (i.conclude c) ∨
      ∃ left < bound, Nears shows (r.step (.resume 0 .ready)) i c left := by
  obtain ⟨events, left, stage, front, log, outcome, fewer, under, arrives, proper, usable, told, same⟩ :=
    nears.underway
  have known : 0 < r.session.fresh.writers.length := nears.alone.symm ▸ Nat.zero_lt_one
  obtain ⟨operations, call⟩ := r.step_resume 0 .ready
  have begun : r.call 0 < r.operations.length := by
    rw [nears.latest.call, nears.latest.begun]
    exact Nat.lt_succ_self _
  have takes := Run.takes_resume under (fun id events stage same => by cases same; exact known) begun
    .ready
  have latest : Latest r (r.step (.resume 0 .ready)) i :=
    ⟨nears.latest.others, call ▸ nears.latest.call, operations ▸ nears.latest.begun,
      nears.latest.ended⟩
  have sameKey : (r.session.fresh.writer 0).key = i.writer.key := congrArg (·.key) nears.writer
  have heads := Session.heads_resumeBatch faithful known sameKey proper usable arrives 0 events left
  have within := Session.within_resumeBatch known 0 events (.sending left stage) .ready
  exact (takes.nears latest heads (within.length.trans nears.alone) free nears.writer nears.pool rfl told
    same).imp_right fun nears' => ⟨left, fewer, nears'⟩

theorem Follows.play_idle (follows : Follows shows r i) (n : Nat) :
    Follows shows (r.play (List.replicate n (.resume 0 .ready))) i := by
  induction n with
  | zero => exact follows
  | succ n ih =>
    have stays : r.step (.resume 0 .ready) = r := by
      simp [Run.step, Session.allows, follows.idle]
    rw [List.replicate_succ, Run.play, List.foldl_cons, stays]
    exact ih

/-- A batch comes to its conclusion when it goes on often enough. -/
theorem Nears.play (nears : Nears shows r i c bound) (faithful : Faithful shows i.writer.key)
    (free : i.writer.lock = .free) {n : Nat} (enough : bound ≤ n) :
    Follows shows (r.play (List.replicate n (.resume 0 .ready))) (i.conclude c) := by
  induction n generalizing r bound with
  | zero =>
    obtain ⟨_, left, _, _, _, _, fewer, -⟩ := nears.underway
    omega
  | succ n ih =>
    rw [List.replicate_succ, Run.play, List.foldl_cons]
    rcases nears.step faithful free with follows | ⟨left, fewer, nears⟩
    · exact follows.play_idle n
    · exact ih nears (by omega)

theorem Session.startBatch_free {s : Session τ σ κ} {id : WriterId} {batch : Batch}
    {events : List LogEvent} (free : (s.writer id).lock = .free)
    (filled : batch.records.isEmpty = false) (serialized : batch.events = .ok events)
    (task : TaskId) :
    s.startBatch task id batch =
      (s.setWriter id (s.writer id).locked).sendBatch id events := by
  have available : (s.writer id).lock.available = true := by rw [free]; rfl
  simp only [startBatch, filled, serialized, available, if_true, Bool.false_eq_true, if_false]
  rfl

/-- A batch that starts is answered, or is brought nearer to what the log makes of it. -/
theorem Follows.start (follows : Follows shows r i) (proper : i.Proper)
    (faithful : Faithful shows i.writer.key) (batch : Batch) :
    Follows shows (r.step (.start 0 (.write 0 batch))) (i.write batch) ∨
      ∃ c, i.write batch = i.conclude c ∧
        Nears shows (r.step (.start 0 (.write 0 batch))) i c (i.writer.retries + 1) := by
  have allowed : r.session.allows (.start 0 (.write 0 batch) : Move μ χ) = true := by
    simp [Session.allows, follows.idle, follows.alone]
  have known : 0 < r.session.fresh.writers.length := follows.alone.symm ▸ Nat.zero_lt_one
  have takes : Takes r (r.step (.start 0 (.write 0 batch))) 0
      (r.session.fresh.startBatch 0 0 batch) :=
    Run.takes_start allowed fun id other same => by cases same; exact known
  have latest : Latest r (r.step (.start 0 (.write 0 batch))) i := by
    rw [Run.step_of_allowed allowed]
    exact ⟨fun task _ => follows.idle task, by simp [Run.begin, follows.begun],
      by simp [Run.begin, follows.begun], follows.ended⟩
  have free : (r.session.fresh.writer 0).lock = .free :=
    (congrArg (·.lock) follows.writer).trans proper.free
  have alone := (Session.within_startBatch known 0 batch).length.trans follows.alone
  unfold Ideal.write
  cases filled : batch.records.isEmpty with
  | true =>
    rw [Session.startBatch, if_pos filled] at takes
    exact .inl (follows.answered takes latest rfl rfl rfl rfl rfl)
  | false =>
    cases serialized : batch.events with
    | error fault =>
      rw [Session.startBatch_unserialized serialized] at takes
      exact .inl (follows.answered takes latest rfl rfl rfl rfl rfl)
    | ok events =>
      rw [Session.startBatch_free free filled serialized] at takes alone
      have writer : (r.session.fresh.setWriter 0 (r.session.fresh.writer 0).locked).writer 0 =
          i.writer.locked := by
        rw [Session.writer_setWriter_self _ 0 _ known, ← follows.writer]
        rfl
      have length : (r.session.fresh.setWriter 0 (r.session.fresh.writer 0).locked).writers.length =
          r.session.writers.length := List.length_set
      exact follows.sends proper faithful takes latest alone length rfl writer rfl rfl

/-- The moves of a task that writes a batch, with as many turns as it may need. -/
def Move.writing (turns : Nat) (batch : Batch) : List (Move μ χ) :=
  .start 0 (.write 0 batch) :: List.replicate turns (.resume 0 .ready)

theorem Follows.write (follows : Follows shows r i) (proper : i.Proper)
    (faithful : Faithful shows i.writer.key) {turns : Nat} (enough : i.writer.retries < turns)
    (batch : Batch) : Follows shows (r.play (Move.writing turns batch)) (i.write batch) := by
  rw [Move.writing, Run.play, List.foldl_cons]
  rcases follows.start proper faithful batch with follows | ⟨c, same, nears⟩
  · exact follows.play_idle turns
  · rw [same]
    exact nears.play faithful proper.free enough

theorem Follows.play (follows : Follows shows r i) (proper : i.Proper)
    (faithful : Faithful shows i.writer.key) {turns : Nat} (enough : i.writer.retries < turns)
    (batches : List Batch) :
    Follows shows (r.play (batches.flatMap (Move.writing turns))) (batches.foldl Ideal.write i) := by
  induction batches generalizing r i with
  | nil => exact follows
  | cons batch rest ih =>
    obtain ⟨key, retries⟩ := i.fixed_write batch
    rw [List.flatMap_cons, Run.play_append, List.foldl_cons]
    exact ih (follows.write proper faithful enough batch) (proper.write batch) (key ▸ faithful)
      (retries ▸ enough)

theorem follows_opened {t : τ} {log : Log} (shown : shows t log) {key : Key} {token : Token}
    {maxAttempts : Int} (attempts : 1 ≤ maxAttempts) (registry : Registry) (createStreams : Bool)
    (poolAttempts : Int) :
    Follows shows
      ((Run.new t createStreams poolAttempts : Run τ σ κ μ χ).step
        (.openWriter key registry token maxAttempts))
      ⟨⟨key, registry, token, .active, maxAttempts.toNat - 1, .free⟩,
        .new createStreams poolAttempts, log, [], []⟩ := by
  have opened : Writer.new? key registry token maxAttempts =
      .ok ⟨key, registry, token, .active, maxAttempts.toNat - 1, .free⟩ :=
    if_neg (by omega)
  rw [Run.step_of_allowed rfl]
  simp only [Session.play, Session.openWriter, opened]
  exact ⟨shown, rfl, rfl, rfl, fun _ => rfl, rfl, rfl, fun _ => rfl⟩

end Turns

/-- The transports are connected and have the same streams, and no failure is to come. -/
structure Alike (c : CloudWatch Enforcer) (m : Memory) : Prop where
  client : c.client.isSome
  connected : m.connected = true
  flawless : m.failures = []
  streams : ∀ key, c.service.streams.get? key = m.streams.get? key
  issued : c.service.issued = m.issued
  structured : c.service.structured = m.structured

/-- The runs have one writer each and have answered the same calls, and nothing but the causes of faults
tells them apart. -/
structure InStep
    (real : Run (Contested (CloudWatch Enforcer)) CloudWatch.Stage CloudWatch.Call Empty Empty)
    (fake : Run (Contested Memory) SleepingAppend Append Empty Empty) (calls : Nat) : Prop where
  idle : ∀ task, real.session.active task = none ∧ fake.session.active task = none
  opened : real.session.writers.length = 1
  writers : real.session.writers = fake.session.writers
  pool : real.session.pool = fake.session.pool
  chronicle : real.gist 0 = fake.gist 0
  answered : ∀ call, (real.endings call).length = if call < calls then 1 else 0
  endings : ∀ call, real.endings call = fake.endings call
  streams : ∀ key, real.session.transport.transport.service.streams.get? key =
    fake.session.transport.transport.streams.get? key
  issued : real.session.transport.transport.service.issued = fake.session.transport.transport.issued

theorem Follows.inStep {key : Key} {others : Key → Option StoredStream} {i : Ideal}
    {real : Run (Contested (CloudWatch Enforcer)) CloudWatch.Stage CloudWatch.Call Empty Empty}
    {fake : Run (Contested Memory) SleepingAppend Append Empty Empty}
    (follows : Follows (Contested.Shows (CloudWatch.Shows key others)) real i)
    (follows' : Follows (Contested.Shows (Memory.Shows key others)) fake i) :
    InStep real fake i.results.length where
  idle task := ⟨follows.idle task, follows'.idle task⟩
  opened := follows.alone
  writers := by
    obtain ⟨w, real⟩ := List.length_eq_one_iff.1 follows.alone
    obtain ⟨w', fake⟩ := List.length_eq_one_iff.1 follows'.alone
    have same := follows.writer.trans follows'.writer.symm
    simp only [Session.writer, real, fake] at same ⊢
    exact congrArg (· :: []) same
  pool := follows.pool.trans follows'.pool.symm
  chronicle := follows.chronicle.trans follows'.chronicle.symm
  answered call := by
    rw [follows.ended]
    split
    · rename_i done
      simp [done]
    · rename_i undone
      simp [undone]
  endings call := (follows.ended call).trans (follows'.ended call).symm
  streams key := (follows.shown.1.streams key).trans (follows'.shown.1.streams key).symm
  issued := follows.shown.1.issued.trans follows'.shown.1.issued.symm

/-- A writer on the client of an enforcing service and a writer on the transport in memory stay in step.
They start with the same token, on the same streams, with refusals of the same kind, and others make
the stream expect the same tokens between the appends. No text among the tokens is empty. Then after
any batches both have sent the same appends with the same outcomes, every call has ended alike, and
writers and streams are the same. -/
theorem lock_step {c : CloudWatch Enforcer} {m : Memory} (alike : Alike c m) {key : Key}
    {stream : StoredStream} (present : m.streams.get? key = some stream)
    (expected : stream.token.IsToken) {token : Token} (carried : token.IsToken)
    {changes : List (Option Token)} (changed : ∀ token, some token ∈ changes → token.IsToken)
    {maxAttempts : Int} (attempts : 1 ≤ maxAttempts) {turns : Nat} (enough : maxAttempts ≤ turns)
    (registry : Registry) (createStreams : Bool) (poolAttempts : Int)
    (batches : List Batch) :
    let moves := .openWriter key registry token maxAttempts :: batches.flatMap (Move.writing turns)
    InStep ((Run.new ⟨c, changes⟩ createStreams poolAttempts).play moves)
      ((Run.new ⟨m, changes⟩ createStreams poolAttempts).play moves) batches.length := by
  intro moves
  let log : Log := ⟨stream, m.issued, m.structured, changes⟩
  let i : Ideal := ⟨⟨key, registry, token, .active, maxAttempts.toNat - 1, .free⟩,
    .new createStreams poolAttempts, log, [], []⟩
  have proper : i.Proper := ⟨carried, ⟨expected, changed⟩, rfl⟩
  have streams : m.streams.Keeps key m.streams.get? stream := by
    intro other
    by_cases same : other = key
    · rw [if_pos same, same, present]
    · rw [if_neg same]
  have fewer : i.writer.retries < turns := by
    show maxAttempts.toNat - 1 < turns
    omega
  have shownReal : Contested.Shows (CloudWatch.Shows key m.streams.get?) ⟨c, changes⟩ log :=
    ⟨⟨alike.client, fun other => (alike.streams other).trans (streams other), alike.issued,
      alike.structured⟩, rfl⟩
  have shownFake : Contested.Shows (Memory.Shows key m.streams.get?) ⟨m, changes⟩ log :=
    ⟨⟨alike.connected, alike.flawless, streams, rfl, rfl⟩, rfl⟩
  have real := (follows_opened (μ := Empty) (χ := Empty) shownReal attempts registry createStreams
    poolAttempts).play proper (CloudWatch.honours key m.streams.get?).faithful fewer batches
  have fake := (follows_opened (μ := Empty) (χ := Empty) shownFake attempts registry createStreams
    poolAttempts).play proper (Memory.honours key m.streams.get?).faithful fewer batches
  have calls : (batches.foldl Ideal.write i).results.length = batches.length := by
    rw [Ideal.length_writes]
    exact Nat.zero_add _
  exact calls ▸ real.inStep fake

/-- A stream to which somebody has written. -/
def contestedStreams : Table Key StoredStream := Table.empty.insert default ⟨[], .text "first"⟩

def contestedService : CloudWatch Enforcer :=
  { CloudWatch.new "" none (.zero false) ⟨contestedStreams, 0, false⟩ with
    client := some 0, connected := true }

def contestedMemory : Memory :=
  { Memory.new false true (.zero false) with connected := true, streams := contestedStreams }

/-- What the others do before each append. -/
def contest : List (Option Token) :=
  [none, none, some (.text "theirs"), none, some (.text "more"), some (.text "again")]

def contestMoves : List (Move Empty Empty) :=
  .openWriter default .pool .null 2 ::
    [.single, .single, .single, .single].flatMap (Move.writing 2)

/-- The first batch is told the token, the second is overtaken once and the third twice, which is once
too often. The fourth finds the writer retired. -/
theorem lock_step_contest :
    let real := (Run.new (Contested.mk contestedService contest) true 3).play contestMoves
    let fake := (Run.new (Contested.mk contestedMemory contest) true 3).play contestMoves
    InStep real fake 4 ∧ Chronicle.senders (fake.chronicle 0) = [0, 0, 1, 1, 2, 2] ∧
      (fake.session.writer 0).status = .invalidated := by
  have alike : Alike contestedService contestedMemory :=
    ⟨rfl, rfl, rfl, fun _ => rfl, rfl, rfl⟩
  have changed : ∀ token, some token ∈ contest → token.IsToken := by
    intro token member
    simp only [contest, List.mem_cons, Option.some.injEq, reduceCtorEq, false_or, List.not_mem_nil,
      or_false] at member
    rcases member with rfl | rfl | rfl <;> rfl
  have stays := lock_step alike (show contestedMemory.streams.get? default = some _ from rfl) rfl
    (show Json.Value.IsToken .null from trivial) changed (show (1 : Int) ≤ 2 by decide)
    (show (2 : Int) ≤ 2 by decide) .pool true 3 [.single, .single, .single, .single]
  exact ⟨stays, by decide +kernel, by decide +kernel⟩

end SequenceLog

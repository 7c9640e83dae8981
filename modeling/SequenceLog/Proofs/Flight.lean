import SequenceLog.Proofs.Ending
import SequenceLog.Proofs.Occupancy
import SequenceLog.Proofs.Preparation
/-! The preparation of a stream, turn by turn. As long as the pool is not closed and streams are prepared
by searches alone, a stream begins to be prepared only where it has no writer and nobody is at it, and
every turn leaves the lock of the stream in use as it should be. Main statement: `flies_step`. -/
namespace SequenceLog
open Scenario
variable {τ σ κ μ χ : Type}

/-- A move that leaves the pool open, and the preparation of streams to the searches. -/
def Move.LeavesStreams : Move μ χ → Prop
  | .closePool | .start _ (.ensureStream _) => False
  | _ => True

section Parts
variable {s s' : Session τ σ κ} {key : Key} {era : Nat} {stepped : Stepped τ σ κ}

theorem Prepared.alert (prepared : Prepared key era s stepped)
    (alert : (s.pool.locks era key).Alert) : (stepped.session.pool.locks era key).Alert := by
  cases prepared with
  | waits _ pool => exact pool ▸ alert
  | failed _ pool | opened _ pool =>
    rw [pool, Pool.letGo, Pool.setLock_self]
    exact Mutex.alert_release

theorem Found.alert (found : Found key era s stepped) (alert : (s.pool.locks era key).Alert) :
    (stepped.session.pool.locks era key).Alert := by
  cases found with
  | there _ _ pool =>
    rw [pool, Pool.letGo, Pool.setLock_self]
    exact Mutex.alert_release
  | missing _ prepared => exact prepared.alert alert

/-- What every step of the session leaves as it is: how the pool was set up. -/
def Pool.SetUpAs (p p' : Pool) : Prop :=
  p'.createStreams = p.createStreams ∧ p'.maxAttempts = p.maxAttempts

theorem Pool.setUpAs_remove (p : Pool) (key : Key) (writer : Option WriterId) :
    p.SetUpAs (p.remove key writer) := by
  unfold remove
  split <;> exact ⟨rfl, rfl⟩

/-- A change of the pool that has nothing to do with the searches under way. -/
structure Pool.Beside (p p' : Pool) (key : Key) : Prop where
  era : p'.era = p.era
  alert : (p.locks p.era key).Alert → (p'.locks p'.era key).Alert
  setUpAs : p.SetUpAs p'

theorem Session.beside_abandon (s : Session τ σ κ) (task : TaskId) (key : Key) :
    s.pool.Beside (s.abandon task).pool key := by
  unfold abandon
  split
  · rename_i other era under
    refine ⟨rfl, fun alert => ?_, ⟨rfl, rfl⟩⟩
    by_cases own : key = other ∧ s.pool.era = era
    · obtain ⟨rfl, rfl⟩ := own
      have lock : (s.setKeyLock s.pool.era key
          ((s.pool.locks s.pool.era key).abandon task)).pool.locks s.pool.era key =
          (s.pool.locks s.pool.era key).abandon task := Pool.setLock_self ..
      exact lock.symm ▸ alert.abandon task
    · have elsewhere : key ≠ other ∨ s.pool.era ≠ era := Classical.not_and_iff_not_or_not.1 own
      exact (Pool.setLock_elsewhere s.pool _ _ _ elsewhere).symm ▸ alert
  · exact ⟨rfl, id, rfl, rfl⟩
  · exact ⟨rfl, id, rfl, rfl⟩

theorem Pool.beside_remove (p : Pool) (key other : Key) (writer : Option WriterId) :
    p.Beside (p.remove other writer) key where
  era := p.remove_era ..
  alert := by
    rw [p.remove_era, p.remove_locks]
    exact id
  setUpAs := p.setUpAs_remove ..

theorem Session.Within.setUpAs {id : WriterId} (within : Within id s s') : s.pool.SetUpAs s'.pool := by
  rcases within.registration with ⟨-, pool⟩ | ⟨-, pool⟩
  · exact pool ▸ ⟨rfl, rfl⟩
  · rw [pool, Pool.without]
    split
    · exact Pool.setUpAs_remove ..
    · exact ⟨rfl, rfl⟩

theorem Prepared.setUpAs (prepared : Prepared key era s stepped) :
    s.pool.SetUpAs stepped.session.pool := by
  cases prepared with
  | waits _ pool | failed _ pool | opened _ pool => exact pool ▸ ⟨rfl, rfl⟩

theorem Found.setUpAs (found : Found key era s stepped) : s.pool.SetUpAs stepped.session.pool := by
  cases found with
  | there _ _ pool => exact pool ▸ ⟨rfl, rfl⟩
  | missing _ prepared => exact prepared.setUpAs

def Session.SameWriters (s s' : Session τ σ κ) : Prop :=
  s'.writers = s.writers ∧ s'.pool.writers = s.pool.writers

theorem Prepared.sameWriters (prepared : Prepared key era s stepped) {fault : Fault}
    (failed : stepped.result? = some (.error fault)) : s.SameWriters stepped.session := by
  cases prepared with
  | waits writers pool | failed writers pool => exact ⟨writers, congrArg (·.writers) pool⟩
  | opened => cases failed

theorem Found.sameWriters (found : Found key era s stepped) {fault : Fault}
    (failed : stepped.result? = some (.error fault)) : s.SameWriters stepped.session := by
  cases found with
  | there => cases failed
  | missing _ prepared => exact prepared.sameWriters failed

/-- What a turn of a search does to the pool: at most the queue of the stream's lock changes, or the
search has the lock, or it goes on to prepare the stream under the lock. -/
inductive Sought (key : Key) (era : Nat) (s : Session τ σ κ) (stepped : Stepped τ σ κ) : Prop
  | queues {lock} : stepped.session.pool = s.pool.setLock era key lock →
      stepped.session.writers = s.writers → ((s.pool.locks era key).Alert → lock.Alert) →
      Sought key era s stepped
  | holds {lock} : lock.held = true → Found key era (s.setKeyLock era key lock) stepped →
      Sought key era s stepped
  | prepares : Prepared key era s stepped → Sought key era s stepped

namespace Sought

theorem of_same (pool : stepped.session.pool = s.pool) (writers : stepped.session.writers = s.writers) :
    Sought key era s stepped :=
  .queues (pool.trans (Pool.setLock_locks ..).symm) writers fun alert => alert

theorem alert (sought : Sought key era s stepped) (alert : (s.pool.locks era key).Alert) :
    (stepped.session.pool.locks era key).Alert := by
  cases sought with
  | queues pool _ kept =>
    rw [pool, Pool.setLock_self]
    exact kept alert
  | holds held found =>
    apply found.alert
    rw [Session.setKeyLock, Pool.setLock_self]
    exact Mutex.alert_of_held held
  | prepares prepared => exact prepared.alert alert

theorem setUpAs (sought : Sought key era s stepped) : s.pool.SetUpAs stepped.session.pool := by
  cases sought with
  | queues pool => exact pool ▸ ⟨rfl, rfl⟩
  | holds _ found => exact found.setUpAs
  | prepares prepared => exact prepared.setUpAs

theorem sameWriters (sought : Sought key era s stepped) {fault : Fault}
    (failed : stepped.result? = some (.error fault)) : s.SameWriters stepped.session := by
  cases sought with
  | queues pool writers => exact ⟨writers, congrArg (·.writers) pool⟩
  | holds _ found => exact found.sameWriters failed
  | prepares prepared => exact prepared.sameWriters failed

end Sought

variable [Transport τ σ κ]

theorem sought_startLookup (task : TaskId) : Sought key s.pool.era s (s.startLookup task key) := by
  unfold Session.startLookup
  split
  · exact .of_same rfl rfl
  · dsimp only
    split
    · exact .holds (Mutex.take_held _) (Session.found_prepare _)
    · rename_i taken
      exact .queues rfl rfl fun alert => alert.join (Bool.eq_false_iff.2 taken) task

theorem sought_resumeLookup (task : TaskId) (stage : LookupStage σ) (signal : Signal) :
    Sought key era s (s.resumeLookup task key era stage signal) := by
  cases stage with
  | queued =>
    cases signal with
    | ready =>
      simp only [Session.resumeLookup]
      split
      · exact .holds (Mutex.take_held _) (Session.found_prepare _)
      · exact .of_same rfl rfl
    | expired | interrupted =>
      exact .queues (Session.wake_pool ..) (Session.wake_writers ..) fun _ => Mutex.alert_leave task
  | preparing stage => exact .prepares (Session.prepared_preparing era task stage signal)

end Parts

/-- The lock that the searches for a stream have now. -/
def Session.keyLock (s : Session τ σ κ) (key : Key) : Mutex := s.pool.locks s.pool.era key

namespace Turn
variable (turn : Turn τ σ κ μ χ) (key : Key)

def task? : Option TaskId :=
  match turn.move with
  | .start task _ | .resume task _ => some task
  | _ => none

/-- A search gets the lock of the stream: it finds it free, or was granted it. -/
def Obtains : Prop :=
  match turn.move with
  | .start _ (.getWriter other) => other = key ∧ (turn.before.keyLock key).available = true
  | .resume task signal => signal = .ready ∧ turn.before.Seeking key task ∧
      (turn.before.keyLock key).isGranted task = true
  | _ => False

/-- A search looks for the writer of the stream: it begins, or it gets the lock. -/
def Looks : Prop := (∃ task, turn.move = .start task (.getWriter key)) ∨ turn.Obtains key

/-- A search that is not over waits for the lock of the stream or prepares it. -/
def Waits : Prop :=
  ∃ task, turn.task? = some task ∧ (turn.after.Seeking key task ∨ turn.after.Preparing key task)

def Stops : Prop :=
  ∃ task signal, turn.move = .resume task signal ∧ signal ≠ .ready ∧
    turn.before.Seeking key task ∧ turn.result = some (.error .stopped)

/-- A search that fails makes and registers nobody. It leaves the queue of the lock, and the lock is free
after it unless another search holds that all along. -/
structure Fails : Prop where
  writers : turn.before.SameWriters turn.after
  left : ∀ task, turn.task? = some task → ∀ place, (task, place) ∉ (turn.after.keyLock key).queue
  free : (turn.after.keyLock key).held = true →
    ∃ other, turn.task? ≠ some other ∧ turn.before.Preparing key other

variable {turn key}

theorem Stops.result (stops : turn.Stops key) : turn.result = some (.error .stopped) := by
  obtain ⟨_, _, -, -, -, result⟩ := stops
  exact result

theorem not_looks_of_stops (stops : turn.Stops key) : ¬ turn.Looks key := by
  obtain ⟨task, signal, move, told, -⟩ := stops
  simp [Looks, Obtains, move, told]

theorem not_looks_of_preparing {task : TaskId} {signal : Signal} (move : turn.move = .resume task signal)
    (prepares : turn.before.Preparing key task) : ¬ turn.Looks key := by
  obtain ⟨stage, under⟩ := prepares
  simp [Looks, Obtains, Session.Seeking, move, under]

theorem search?_of_looks (looks : turn.Looks key) : turn.search? = some key := by
  rcases looks with ⟨task, move⟩ | obtains
  · rw [search?, move]
  · unfold Obtains at obtains
    split at obtains
    · rename_i move
      rw [search?, move, obtains.1]
    · rename_i task signal move
      have seeking : turn.before.active task = _ := obtains.2.1
      rw [search?, move]
      simp only [seeking]
      rfl
    · exact obtains.elim

end Turn

namespace Turn
variable (turn : Turn (Recorded τ) (RecordedStage σ) κ μ χ) (key : Key)

/-- What becomes of the search that had the turn. -/
def Answers : Option (Except Fault Token) → Prop
  | some (.ok token) => turn.Gives key turn.before.writers.length ∧
      (turn.after.writer turn.before.writers.length).token = token
  | some (.error fault) => turn.search? = some key ∧ turn.result = some (.error fault)
  | none => turn.search? = some key → turn.result = none ∨ turn.Stops key ∨
      ∃ id, turn.result = some (.ok (.writer id)) ∧ turn.before.pool.writers.get? key = some id

/-- What a turn does about preparing a stream: `tries` tells whether that begins, and `outcome` how it
ends if it does. -/
structure Prepares (tries : Bool) (outcome : Option (Except Fault Token)) : Prop where
  record : turn.after.preparations key =
    turn.before.preparations key ++ Preparation.calls key tries outcome
  first : tries = true → turn.before.pool.writers.get? key = none ∧
    ∀ task, ¬ turn.before.Preparing key task
  under : tries = false → outcome ≠ none → ∃ task, turn.before.Preparing key task
  after : (∃ task, turn.after.Preparing key task) ↔
    outcome = none ∧ (tries = true ∨ ∃ task, turn.before.Preparing key task)
  obtains : turn.Obtains key → turn.before.pool.writers.get? key = none → tries = true
  answers : turn.Answers key outcome

end Turn

/-- What searches keep true about their stream where the pool is not closed. -/
structure Flight (s : RecordedSession τ σ κ) (key : Key) : Prop where
  current : ∀ {task other era stage}, s.active task = some (.lookup other era stage) →
    era = s.pool.era
  reserved : s.Reserved key
  alert : (s.keyLock key).Alert
  marked : ∀ {task activity}, s.active task = some activity → activity.Marked
  creates : s.pool.createStreams = true
  attempts : 1 ≤ s.pool.maxAttempts

section Flight
variable {r r' : RecordedRun τ σ κ μ χ} {task : TaskId} {key : Key} {tries : Bool}
  {outcome : Option (Except Fault Token)} {stepped : Stepped (Recorded τ) (RecordedStage σ) κ}
  {turn : Turn (Recorded τ) (RecordedStage σ) κ μ χ}

theorem Takes.preparations (takes : Takes r r' task stepped) (key : Key) :
    r'.session.preparations key = stepped.session.preparations key := by
  rw [takes.session]
  rfl

theorem Takes.flight (takes : Takes r r' task stepped) (flight : Flight r.session key)
    (reserved : r'.session.Reserved key) (era : stepped.session.pool.era = r.session.pool.era)
    (current : ∀ other era stage, stepped.activity? = some (.lookup other era stage) →
      era = r.session.pool.era)
    (alert : (stepped.session.keyLock key).Alert)
    (marked : ∀ activity, stepped.activity? = some activity → activity.Marked)
    (setUpAs : r.session.pool.SetUpAs stepped.session.pool) : Flight r'.session key where
  current {other key' era' stage} under := by
    rw [takes.pool, era]
    by_cases same : other = task
    · rw [same, takes.active_self] at under
      exact current _ _ _ under
    · rw [takes.active_other same] at under
      exact flight.current under
  reserved := reserved
  alert := by
    rw [Session.keyLock, takes.pool]
    exact alert
  marked {other activity} under := by
    by_cases same : other = task
    · rw [same, takes.active_self] at under
      exact marked _ under
    · rw [takes.active_other same] at under
      exact flight.marked under
  creates := by rw [takes.pool, setUpAs.1, flight.creates]
  attempts := by
    rw [takes.pool, setUpAs.2]
    exact flight.attempts

theorem Takes.prepares_attempted (takes : Takes r r' task stepped)
    (before : turn.before = r.session.fresh) (after : turn.after = r'.session)
    (result : turn.result = stepped.result?) (search : turn.search? = some key)
    (era : stepped.session.pool.era = r.session.pool.era)
    (attempted : Attempted key r.session.pool.era
      (r.session.transport.record ++ Preparation.calls key tries none) r.session.writers.length
      stepped outcome)
    (alone : ∀ other, r.session.Preparing key other → other = task)
    (first : tries = true → r.session.pool.writers.get? key = none ∧
      ∀ other, ¬ r.session.Preparing key other)
    (under : tries = true ∨ r.session.Preparing key task)
    (obtains : turn.Obtains key → r.session.pool.writers.get? key = none → tries = true) :
    turn.Prepares key tries outcome where
  record := by
    rw [after, takes.preparations, before, Session.preparations, attempted.record, List.append_assoc,
      Preparation.calls_append, List.filter_append, Preparation.calls_filter_self]
    rfl
  first := by
    rw [before]
    exact first
  under late _ := by
    rw [before]
    exact ⟨task, under.resolve_left (by simp [late])⟩
  after := by
    rw [before, after]
    cases attempted with
    | @waits s stage _ marked =>
      have prepares : r'.session.Preparing key task := by
        refine ⟨stage, ?_⟩
        rw [takes.active_self, takes.pool, era]
        rfl
      exact ⟨fun _ => ⟨rfl, under.imp_right fun there => ⟨task, there⟩⟩, fun _ => ⟨task, prepares⟩⟩
    | failed | opened =>
      constructor
      · rintro ⟨other, prepares⟩
        obtain ⟨there, different⟩ :=
          (takes.preparing_iff era (by simp [Stepped.activity?]) other).1 prepares
        exact absurd (alone other there) different
      · rintro ⟨going, -⟩
        cases going
  obtains := by
    rw [before]
    exact obtains
  answers := by
    have length : turn.before.writers.length = r.session.writers.length := by rw [before]; rfl
    cases attempted with
    | waits => exact fun _ => .inl result
    | failed => exact ⟨search, result⟩
    | opened _ token =>
      refine ⟨⟨search, ?_⟩, ?_⟩
      · rw [result, length]
        rfl
      · rw [after, takes.writer, length]
        exact token

theorem Takes.prepares_nothing (takes : Takes r r' task stepped)
    (before : turn.before = r.session.fresh) (after : turn.after = r'.session)
    (record : stepped.session.preparations key = r.session.preparations key)
    (era : stepped.session.pool.era = r.session.pool.era)
    (unprepared : ¬ r.session.Preparing key task)
    (silent : ∀ stage, stepped.activity? ≠ some (.lookup key r.session.pool.era (.preparing stage)))
    (obtains : turn.Obtains key → r.session.pool.writers.get? key ≠ none)
    (answers : turn.Answers key none) : turn.Prepares key false none where
  record := by
    rw [after, takes.preparations, record, before]
    simp [Preparation.calls]
    rfl
  first tries := by cases tries
  under _ ended := absurd rfl ended
  after := by
    rw [before, after]
    simp only [takes.preparing_iff era silent, true_and, Bool.false_eq_true, false_or]
    refine exists_congr fun other => and_iff_left_of_imp ?_
    rintro prepares rfl
    exact unprepared prepares
  obtains has vacant := by
    rw [before] at vacant
    exact absurd vacant (obtains has)
  answers := answers

theorem Takes.fails (takes : Takes r r' task stepped) (before : turn.before = r.session.fresh)
    (after : turn.after = r'.session) (own : turn.task? = some task)
    (era : stepped.session.pool.era = r.session.pool.era) (reserved : r'.session.Reserved key)
    (ended : stepped.activity? = none) (same : r.session.fresh.SameWriters stepped.session) :
    turn.Fails key where
  writers := by
    rw [before, after]
    exact ⟨takes.writers.trans same.1, (congrArg (·.writers) takes.pool).trans same.2⟩
  left other self place member := by
    obtain rfl : task = other := Option.some.inj (own.symm.trans self)
    rw [after] at member
    have seeking := (reserved.guards.queued task).2 ⟨place, member⟩
    rw [Session.Seeking, takes.active_self, ended] at seeking
    cases seeking
  free held := by
    rw [after] at held
    obtain ⟨other, prepares⟩ := reserved.guards.held.1 held
    obtain ⟨there, different⟩ := (takes.preparing_iff era (by simp [ended]) other).1 prepares
    refine ⟨other, fun same => ?_, before ▸ there⟩
    exact different (Option.some.inj (own.symm.trans same)).symm

end Flight

/-- The run goes on with a turn, and the searches for the stream stay in order. -/
structure Flies (r r' : RecordedRun τ σ κ μ χ) (key : Key)
    (turn : Turn (Recorded τ) (RecordedStage σ) κ μ χ) (tries : Bool)
    (outcome : Option (Except Fault Token)) : Prop where
  tends : Tends r r' key turn
  longer : r.session.writers.length ≤ r'.session.writers.length
  flight : Flight r'.session key
  prepares : turn.Prepares key tries outcome
  fails : ∀ fault, turn.search? = some key → turn.result = some (.error fault) → turn.Fails key
  served : turn.Looks key → ∀ id, turn.before.pool.writers.get? key = some id →
    turn.result = some (.ok (.writer id))
  waits : turn.search? = some key → turn.result = none → turn.Waits key

section Searches
variable {r r' : RecordedRun τ σ κ μ χ} {task : TaskId} {key : Key} {tries : Bool}
  {outcome : Option (Except Fault Token)} {stepped : Stepped (Recorded τ) (RecordedStage σ) κ}
  {turn : Turn (Recorded τ) (RecordedStage σ) κ μ χ}

theorem Takes.flies_search (takes : Takes r r' task stepped) (flight : Flight r.session key)
    (tends : Tends r r' key turn) (result : turn.result = stepped.result?)
    (own : turn.task? = some task)
    (confined : Confined key r.session.pool.era r.session.fresh stepped)
    (sought : Sought key r.session.pool.era r.session.fresh stepped)
    (marked : ∀ activity, stepped.activity? = some activity → activity.Marked)
    (prepares : turn.Prepares key tries outcome)
    (served : turn.Looks key → ∀ id, r.session.pool.writers.get? key = some id →
      stepped.result? = some (.ok (.writer id))) : Flies r r' key turn tries outcome where
  tends := tends
  longer := takes.longer
  flight := by
    refine takes.flight flight tends.reserved confined.sameEra (fun other era stage goes => ?_) ?_
      marked sought.setUpAs
    · obtain ⟨_, same⟩ := confined.activity _ goes
      cases same
      rfl
    · rw [Session.keyLock, confined.sameEra]
      exact sought.alert flight.alert
  prepares := prepares
  fails fault _ failed := by
    have failed : stepped.result? = some (.error fault) := result ▸ failed
    exact takes.fails tends.before tends.after own confined.sameEra tends.reserved
      (Stepped.activity?_of_result? failed) (sought.sameWriters failed)
  served looks id there := by
    rw [tends.before] at there
    exact result.trans (served looks id there)
  waits _ unended := by
    obtain ⟨activity, goes⟩ := Stepped.activity?_of_unended (result.symm.trans unended)
    obtain ⟨stage, rfl⟩ := confined.activity activity goes
    have under : r'.session.active task = some (.lookup key r'.session.pool.era stage) := by
      rw [takes.active_self, goes, takes.pool, confined.sameEra]
      rfl
    refine ⟨task, own, ?_⟩
    rw [tends.after]
    cases stage with
    | queued => exact .inl under
    | preparing stage => exact .inr ⟨stage, under⟩

theorem Takes.prepares_searched {stops looks obtains : Prop} (takes : Takes r r' task stepped)
    (before : turn.before = r.session.fresh) (after : turn.after = r'.session)
    (result : turn.result = stepped.result?) (search : turn.search? = some key)
    (era : stepped.session.pool.era = r.session.pool.era)
    (unprepared : ¬ r.session.Preparing key task)
    (searched : Searched key r.session.pool.era r.session.fresh stops looks obtains stepped tries
      outcome)
    (stopping : stops → turn.result = some (.error .stopped) → turn.Stops key)
    (has : turn.Obtains key → obtains) (nobody : obtains → ∀ other, ¬ r.session.Preparing key other) :
    turn.Prepares key tries outcome := by
  cases searched with
  | given record there =>
    refine takes.prepares_nothing before after (Session.preparations_congr record key) era unprepared
      (by simp [Stepped.activity?]) (fun _ vacant => ?_) fun _ => .inr (.inr ⟨_, result, before ▸ there⟩)
    cases there.symm.trans vacant
  | queues record without =>
    exact takes.prepares_nothing before after (Session.preparations_congr record key) era unprepared
      (by simp [Stepped.activity?]) (fun obtains => absurd (has obtains) without) fun _ => .inl result
  | stops record told =>
    have stops := stopping told result
    exact takes.prepares_nothing before after (Session.preparations_congr record key) era unprepared
      (by simp [Stepped.activity?])
      (fun obtains => absurd (.inr obtains) (turn.not_looks_of_stops stops))
      fun _ => .inr (.inl stops)
  | tries vacant obtains attempted =>
    exact takes.prepares_attempted before after result search era attempted
      (fun other prepares => absurd prepares (nobody obtains other))
      (fun _ => ⟨vacant, nobody obtains⟩) (.inl rfl) fun _ _ => rfl

variable [Transport τ σ κ]

theorem Takes.flies_startLookup (takes : Takes r r' task (r.session.fresh.startLookup task key))
    (made : turn = ⟨.start task (.getWriter key), some (r'.call task), r.session.fresh, r'.session,
      (r.session.fresh.startLookup task key).result?⟩)
    (tends : Tends r r' key turn) (flight : Flight r.session key)
    (idle : r.session.active task = none) : ∃ tries outcome, Flies r r' key turn tries outcome := by
  subst made
  have confined : Confined key r.session.pool.era r.session.fresh
      (r.session.fresh.startLookup task key) :=
    Session.confined_startLookup (s := r.session.fresh) task
  have sought : Sought key r.session.pool.era r.session.fresh
      (r.session.fresh.startLookup task key) := sought_startLookup (s := r.session.fresh) task
  have unprepared : ¬ r.session.Preparing key task := by
    rintro ⟨stage, under⟩
    cases idle.symm.trans under
  obtain ⟨tries, outcome, searched⟩ : ∃ tries outcome,
      Searched key r.session.pool.era r.session.fresh _ _ _ _ tries outcome :=
    searched_startLookup (s := r.session.fresh) flight.creates flight.attempts task
  have nobody : (r.session.keyLock key).available = true →
      ∀ other, ¬ r.session.Preparing key other := by
    intro available other prepares
    have held := flight.reserved.guards.held.2 ⟨other, prepares⟩
    have unheld := (Mutex.available_iff.1 available).1
    cases held.symm.trans unheld
  refine ⟨tries, outcome,
    takes.flies_search flight tends rfl rfl confined sought searched.marked ?_ fun _ _ there => ?_⟩
  · exact takes.prepares_searched rfl rfl rfl rfl confined.sameEra unprepared searched
      False.elim (fun obtains => obtains.2) nobody
  · exact searched.served trivial not_false there

theorem Takes.flies_queued {signal : Signal}
    (takes : Takes r r' task
      (r.session.fresh.resumeLookup task key r.session.pool.era .queued signal))
    (made : turn = ⟨.resume task signal, some (r'.call task), r.session.fresh, r'.session,
      (r.session.fresh.resumeLookup task key r.session.pool.era .queued signal).result?⟩)
    (tends : Tends r r' key turn) (flight : Flight r.session key)
    (seeking : r.session.Seeking key task) : ∃ tries outcome, Flies r r' key turn tries outcome := by
  subst made
  have search : (r.session.fresh.active task).bind Activity.search? = some key := by
    rw [Session.fresh, seeking]
    rfl
  have confined : Confined key r.session.pool.era r.session.fresh
      (r.session.fresh.resumeLookup task key r.session.pool.era .queued signal) :=
    Session.confined_resumeLookup task .queued signal
  have unprepared : ¬ r.session.Preparing key task := by
    rintro ⟨stage, preparing⟩
    cases seeking.symm.trans preparing
  obtain ⟨tries, outcome, searched⟩ : ∃ tries outcome,
      Searched key r.session.pool.era r.session.fresh _ _ _ _ tries outcome :=
    searched_queued (s := r.session.fresh) flight.creates flight.attempts task signal
  have nobody : (r.session.keyLock key).isGranted task = true →
      ∀ other, ¬ r.session.Preparing key other := by
    intro granted other prepares
    have guards := flight.reserved.guards
    have held := guards.held.2 ⟨other, prepares⟩
    have unheld := (guards.granted task (Mutex.isGranted_iff.1 granted)).1
    cases held.symm.trans unheld
  refine ⟨tries, outcome, takes.flies_search flight tends rfl rfl confined
    (sought_resumeLookup task .queued signal) searched.marked ?_ ?_⟩
  · exact takes.prepares_searched rfl rfl rfl search confined.sameEra unprepared searched
      (fun told result => ⟨task, signal, rfl, told, seeking, result⟩)
      (fun obtains => ⟨obtains.1, obtains.2.2⟩) fun has => nobody has.2
  · rintro (⟨_, start⟩ | obtains) id there
    · cases start
    · exact searched.served ⟨obtains.1, obtains.2.2⟩ (fun told => told obtains.1) there

theorem Takes.flies_preparing {stage : RecordedStage σ} {signal : Signal}
    (takes : Takes r r' task
      (r.session.fresh.resumeLookup task key r.session.pool.era (.preparing stage) signal))
    (made : turn = ⟨.resume task signal, some (r'.call task), r.session.fresh, r'.session,
      (r.session.fresh.resumeLookup task key r.session.pool.era (.preparing stage) signal).result?⟩)
    (tends : Tends r r' key turn) (flight : Flight r.session key)
    (under : r.session.active task = some (.lookup key r.session.pool.era (.preparing stage))) :
    ∃ tries outcome, Flies r r' key turn tries outcome := by
  subst made
  have search : (r.session.fresh.active task).bind Activity.search? = some key := by
    rw [Session.fresh, under]
    rfl
  have confined : Confined key r.session.pool.era r.session.fresh
      (r.session.fresh.resumeLookup task key r.session.pool.era (.preparing stage) signal) :=
    Session.confined_resumeLookup task (.preparing stage) signal
  have prepares : r.session.Preparing key task := ⟨stage, under⟩
  obtain ⟨outcome, attempted⟩ : ∃ outcome,
      Attempted key r.session.pool.era r.session.transport.record r.session.writers.length
        (r.session.fresh.resumeLookup task key r.session.pool.era (.preparing stage) signal) outcome :=
    attempted_preparing (s := r.session.fresh) flight.attempts task signal (flight.marked under)
  refine ⟨false, outcome, takes.flies_search flight tends rfl rfl confined
    (sought_resumeLookup task (.preparing stage) signal) attempted.marked ?_
    fun looks => absurd looks (Turn.not_looks_of_preparing rfl prepares)⟩
  refine takes.prepares_attempted rfl rfl rfl search confined.sameEra ?_
    (fun other preparing => flight.reserved.guards.alone other task preparing prepares)
    (fun tries => by cases tries) (.inr prepares)
    fun obtains => absurd (.inr obtains) (Turn.not_looks_of_preparing rfl prepares)
  simpa [Preparation.calls] using attempted

end Searches

section Step
variable {r r' : RecordedRun τ σ κ μ χ} {task : TaskId} {key : Key}
  {stepped : Stepped (Recorded τ) (RecordedStage σ) κ}
  {turn : Turn (Recorded τ) (RecordedStage σ) κ μ χ}

theorem Takes.flies_unrecorded {id : WriterId} (takes : Takes r r' task stepped)
    (tends : Tends r r' key turn) (flight : Flight r.session key)
    (within : Session.Within id r.session.fresh stepped.session)
    (unrecorded : Unrecorded r.session.fresh stepped)
    (before : ∀ other era stage, r.session.active task ≠ some (.lookup other era stage))
    (silent : ∀ other era stage, stepped.activity? ≠ some (.lookup other era stage))
    (elsewhere : turn.search? ≠ some key) : Flies r r' key turn false none where
  tends := tends
  longer := takes.longer
  flight := by
    refine takes.flight flight tends.reserved within.pool_era
      (fun other era stage goes => absurd goes (silent other era stage)) ?_ unrecorded.marked
      within.setUpAs
    rw [Session.keyLock, within.pool_era, within.pool_locks]
    exact flight.alert
  prepares :=
    takes.prepares_nothing tends.before tends.after (Session.preparations_congr unrecorded.record key)
      within.pool_era (fun ⟨stage, under⟩ => before _ _ _ under) (fun stage => silent _ _ _)
      (fun obtains => absurd (turn.search?_of_looks (.inr obtains)) elsewhere)
      fun search => absurd search elsewhere
  fails fault search := absurd search elsewhere
  served looks := absurd (turn.search?_of_looks looks) elsewhere
  waits search := absurd search elsewhere

theorem Takes.flies_other {other : Key} (takes : Takes r r' task stepped)
    (tends : Tends r r' key turn) (flight : Flight r.session key) (different : key ≠ other)
    (confined : Confined other r.session.pool.era r.session.fresh stepped)
    (sought : Sought other r.session.pool.era r.session.fresh stepped)
    (adds : ∃ tries outcome, stepped.session.transport.record =
        r.session.transport.record ++ Preparation.calls other tries outcome ∧
      ∀ activity, stepped.activity? = some activity → activity.Marked)
    (unprepared : ¬ r.session.Preparing key task) (search : turn.search? = some other) :
    Flies r r' key turn false none := by
  obtain ⟨tries, outcome, record, marked⟩ := adds
  have elsewhere : turn.search? ≠ some key :=
    fun own => different (Option.some.inj (own.symm.trans search))
  refine ⟨tends, takes.longer, ?_, ?_, fun fault search => absurd search elsewhere,
    fun looks => absurd (turn.search?_of_looks looks) elsewhere, fun search => absurd search elsewhere⟩
  · refine takes.flight flight tends.reserved confined.sameEra (fun third era stage goes => ?_) ?_
      marked sought.setUpAs
    · obtain ⟨_, same⟩ := confined.activity _ goes
      cases same
      rfl
    · rw [Session.keyLock, confined.sameEra, confined.locks _ _ (.inl different)]
      exact flight.alert
  · refine takes.prepares_nothing tends.before tends.after ?_ confined.sameEra unprepared
      (fun stage goes => ?_) (fun obtains => absurd (turn.search?_of_looks (.inr obtains)) elsewhere)
      fun search => absurd search elsewhere
    · rw [Session.preparations, record, List.filter_append,
        Preparation.calls_filter_other (Ne.symm different), List.append_nil]
      rfl
    · obtain ⟨_, same⟩ := confined.activity _ goes
      cases same
      exact different rfl

variable [Transport τ σ κ]

/-- A task begins something: only a search for the stream has to do with it. -/
theorem Takes.flies_start {operation : Operation}
    (takes : Takes r r' task (r.session.fresh.opening task operation))
    (made : turn = ⟨.start task operation, some (r'.call task), r.session.fresh, r'.session,
      (r.session.fresh.opening task operation).result?⟩)
    (tends : Tends r r' key turn) (flight : Flight r.session key)
    (idle : r.session.active task = none)
    (known : ∀ id batch, operation = .write id batch → id < r.session.writers.length)
    (leaves : (Move.start task operation : Move μ χ).LeavesStreams) :
    ∃ tries outcome, Flies r r' key turn tries outcome := by
  have before : ∀ other era stage, r.session.active task ≠ some (.lookup other era stage) := by
    simp [idle]
  cases operation with
  | ensureStream other => cases leaves
  | append request =>
    obtain ⟨silent, -⟩ := Session.relay_progress r.session.fresh
      (Transport.append r.session.transport request)
    exact ⟨false, none, takes.flies_unrecorded tends flight (Session.within_relay 0)
      Session.unrecorded_relay before silent (by simp [made, Turn.search?])⟩
  | getWriter other =>
    by_cases same : key = other
    · subst same
      exact takes.flies_startLookup made tends flight idle
    · obtain ⟨tries, outcome, searched⟩ : ∃ tries outcome,
          Searched other r.session.pool.era r.session.fresh _ _ _ _ tries outcome :=
        searched_startLookup (s := r.session.fresh) flight.creates flight.attempts task
      refine ⟨false, none, takes.flies_other tends flight same
        (Session.confined_startLookup (s := r.session.fresh) task)
        (sought_startLookup (s := r.session.fresh) task)
        ⟨tries, outcome, searched.record, searched.marked⟩ ?_ (by simp [made, Turn.search?])⟩
      rintro ⟨_, preparing⟩
      exact before _ _ _ preparing
  | write id batch =>
    obtain ⟨events, batching⟩ := r.session.fresh.batching_start task id batch
    have within := Session.within_startBatch (s := r.session.fresh) (known id batch rfl) task batch
    exact ⟨false, none, takes.flies_unrecorded tends flight within
      (Session.unrecorded_startBatch task batch) before batching.silent
      (by simp [made, Turn.search?])⟩

/-- A task goes on: only with a search for the stream has it to do with that. -/
theorem Takes.flies_resume {activity : Activity (RecordedStage σ)} {signal : Signal}
    (takes : Takes r r' task (r.session.fresh.ongoing task signal activity))
    (made : turn = ⟨.resume task signal, some (r'.call task), r.session.fresh, r'.session,
      (r.session.fresh.ongoing task signal activity).result?⟩)
    (tends : Tends r r' key turn) (flight : Flight r.session key)
    (under : r.session.active task = some activity)
    (known : ∀ id events stage, activity = .batch id events stage → id < r.session.writers.length) :
    ∃ tries outcome, Flies r r' key turn tries outcome := by
  have search : turn.search? = activity.search? := by
    simp [made, Turn.search?, Session.fresh, under]
  cases activity with
  | transport stage =>
    obtain ⟨silent, -⟩ := Session.relay_progress r.session.fresh
      (Transport.resume r.session.transport stage signal)
    have marked : stage.preparing = none := flight.marked under
    have resumed : Unrecorded r.session.fresh (r.session.fresh.relay
        (Recorded.observe r.session.transport.record none
          (Transport.resume r.session.transport.transport stage.stage signal))) :=
      Session.unrecorded_relay
    rw [← marked] at resumed
    exact ⟨false, none, takes.flies_unrecorded tends flight (Session.within_relay 0) resumed
      (by simp [under]) silent (by simp [search, Activity.search?])⟩
  | lookup other era stage =>
    obtain rfl := flight.current under
    by_cases same : key = other
    · subst same
      cases stage with
      | queued => exact takes.flies_queued made tends flight under
      | preparing stage => exact takes.flies_preparing made tends flight under
    · refine ⟨false, none, takes.flies_other tends flight same
        (Session.confined_resumeLookup task stage signal) (sought_resumeLookup task stage signal)
        (recorded_resumeLookup (s := r.session.fresh) flight.creates flight.attempts task signal
          (flight.marked under)) ?_ search⟩
      rintro ⟨_, preparing⟩
      cases under.symm.trans preparing
      exact same rfl
  | batch id events stage =>
    have batching := Session.batching_resumeBatch (s := r.session.fresh) task id events stage signal
    have within := Session.within_resumeBatch (s := r.session.fresh) (known id events stage rfl) task
      events stage signal
    exact ⟨false, none, takes.flies_unrecorded tends flight within
      (Session.unrecorded_resumeBatch task signal (flight.marked under)) (by simp [under])
      batching.silent (by simp [search, Activity.search?])⟩

variable [Commanded τ μ χ κ]

theorem Run.beside_pass {move : Move μ χ} (between : r.caller move = none)
    (leaves : move.LeavesStreams) (key : Key) :
    r.session.pool.Beside (r.session.fresh.play move).1.pool key ∧
      (r.session.fresh.play move).1.transport.record = r.session.transport.record := by
  have same : r.session.pool.Beside r.session.pool key := ⟨rfl, id, rfl, rfl⟩
  cases move with
  | start | resume => cases between
  | closePool => cases leaves
  | abandon task =>
    refine ⟨Session.beside_abandon r.session.fresh task key, ?_⟩
    simp only [Session.play, Session.abandon]
    split <;> rfl
  | remove other writer => exact ⟨r.session.pool.beside_remove key other writer, rfl⟩
  | openWriter other registry token maxAttempts =>
    obtain ⟨pool, -⟩ := r.session.fresh.openWriter_pool other registry token maxAttempts
    refine ⟨pool.symm ▸ same, ?_⟩
    simp only [Session.play, Session.openWriter]
    split <;> rfl
  | command | chore => exact ⟨same, rfl⟩

theorem Run.flies_pass {move : Move μ χ} (between : r.caller move = none)
    (leaves : move.LeavesStreams)
    (tends : Tends r (r.pass move (r.session.fresh.play move).1) key turn)
    (own : turn.move = move) (flight : Flight r.session key) :
    Flies r (r.pass move (r.session.fresh.play move).1) key turn false none := by
  have active : (r.session.fresh.play move).1.active = r.session.active :=
    (Run.pass_extension between).active
  obtain ⟨beside, record⟩ := Run.beside_pass between leaves key
  have preparing : ∀ task, turn.after.Preparing key task ↔ turn.before.Preparing key task := by
    intro task
    rw [tends.after, tends.before, Session.Preparing, Run.pass, active, beside.era]
    rfl
  have nobody : turn.search? ≠ some key := by
    rw [Turn.search?, own]
    cases move with
    | start | resume => cases between
    | _ => simp
  have idle : ¬ turn.Looks key := fun looks => nobody (turn.search?_of_looks looks)
  have flight' : Flight (r.session.fresh.play move).1 key := {
    current := fun under => by
      rw [active] at under
      rw [beside.era, flight.current under]
    reserved := tends.reserved
    alert := beside.alert flight.alert
    marked := fun under => flight.marked (active ▸ under)
    creates := beside.setUpAs.1.trans flight.creates
    attempts := beside.setUpAs.2.symm ▸ flight.attempts }
  refine ⟨tends, (Run.pass_extension between).longer, flight', ?_,
    fun fault search => absurd search nobody, fun looks => absurd looks idle,
    fun search => absurd search nobody⟩
  constructor
  · rw [tends.after, tends.before]
    exact (Session.preparations_congr record key).trans (List.append_nil _).symm
  · intro tries
    cases tries
  · intro _ ended
    exact absurd rfl ended
  · simp [preparing]
  · intro obtains
    exact absurd (.inr obtains) idle
  · intro search
    exact absurd search nobody

omit [Transport τ σ κ] [Commanded τ μ χ κ] in
theorem Tends.turn_eq {other : Turn (Recorded τ) (RecordedStage σ) κ μ χ}
    (tends : Tends r r' key turn) (turns : r'.turns = r.turns ++ [other]) : turn = other := by
  simpa using tends.turns.symm.trans turns

theorem Run.before_step (r : Run τ σ κ μ χ) (move : Move μ χ) :
    (r.step move).turns = r.turns ∨
      ∃ turn, (r.step move).turns = r.turns ++ [turn] ∧ turn.before = r.session.fresh := by
  unfold step
  split
  · exact .inr ⟨_, rfl, rfl⟩
  · exact .inl rfl

/-- No search is from before the pool was closed. -/
theorem Flight.prompt_step (flight : Flight r.session key)
    (prompt : ∀ turn ∈ r.turns, ¬ turn.Overtaken key) (move : Move μ χ) :
    ∀ turn ∈ (r.step move).turns, ¬ turn.Overtaken key := by
  rcases r.before_step move with same | ⟨last, turns, before⟩
  · rwa [same]
  · intro turn member
    rw [turns, List.mem_append, List.mem_singleton] at member
    rcases member with old | rfl
    · exact prompt turn old
    · rintro ⟨-, task, signal, era, stage, -, under, early⟩
      rw [before] at under early
      have current := flight.current under
      rw [current] at early
      exact absurd early (Nat.lt_irrefl _)

theorem flies_step (sound : Sound r) (flight : Flight r.session key)
    (prompt : ∀ turn ∈ r.turns, ¬ turn.Overtaken key) {move : Move μ χ}
    (leaves : move.LeavesStreams) :
    r.step move = r ∨ ∃ turn tries outcome, Flies r (r.step move) key turn tries outcome := by
  rcases tends_step sound flight.reserved move (flight.prompt_step prompt move) with stays | ⟨turn, tends⟩
  · exact .inl stays
  refine .inr ⟨turn, ?_⟩
  have steps := steps_step sound move
  generalize made : r.step move = r' at steps tends ⊢
  cases steps with
  | stay =>
    have turns := tends.turns
    simp at turns
  | start idle known _ _ takes =>
    exact takes.flies_start (tends.turn_eq (takes.turns_eq made)) tends flight idle known leaves
  | @resume task _ activity _ under _ _ takes =>
    have known : ∀ id events stage, activity = .batch id events stage →
        id < r.session.writers.length :=
      fun id events stage same => (sound.asked task id events stage (same ▸ under)).1
    exact takes.flies_resume (tends.turn_eq (takes.turns_eq made)) tends flight under known
  | pass between =>
    exact ⟨false, none, Run.flies_pass between leaves tends (by rw [tends.turn_eq rfl]) flight⟩

end Step

end SequenceLog

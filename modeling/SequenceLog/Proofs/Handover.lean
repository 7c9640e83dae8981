import SequenceLog.Proofs.Errand
import SequenceLog.Proofs.Flight
/-! Searches that take turns. Of all the searches for a stream one at a time prepares it, under the
stream's lock, and the others wait. In every turn searchers are treated fairly, and once the stream has a
writer those who wait are given it one after the other, each in one turn. Main statements: `flown_play`
and `Flown.drains`. -/
namespace SequenceLog
open Scenario
variable {τ σ κ μ χ : Type}

/-- The preparations of a stream come one after the other. `pending` tells whether one is under way. -/
inductive Alternates (key : Key) : List Preparation → (pending : Bool) → Prop
  | nil : Alternates key [] false
  | began {past} : Alternates key past false → Alternates key (past ++ [.began key]) true
  | ended {past result} : Alternates key past true →
      Alternates key (past ++ [.ended key result]) false

theorem Alternates.calls {key : Key} {past : List Preparation} {pending : Bool}
    (alternates : Alternates key past pending) (tries : Bool) (outcome : Option (Except Fault Token))
    (first : tries = true → pending = false)
    (under : tries = false → outcome ≠ none → pending = true) :
    Alternates key (past ++ Preparation.calls key tries outcome)
      (outcome.isNone && (tries || pending)) := by
  cases tries with
  | false =>
    cases outcome with
    | none => simpa [Preparation.calls] using alternates
    | some result =>
      obtain rfl := under rfl (by simp)
      exact alternates.ended
  | true =>
    obtain rfl := first rfl
    cases outcome with
    | none => exact alternates.began
    | some result =>
      have both : Alternates key (past ++ [.began key] ++ [.ended key result]) false :=
        alternates.began.ended
      simpa [Preparation.calls] using both

/-- What searchers can rely on in a turn. The lock of the stream is in use as it should be and keeps nobody
waiting while it is free. Whoever is given a writer is given the registered one, and whoever looks for a
writer that is there is given it. One that has the lock and finds no writer tries for itself; when that
succeeds it is given the writer that was opened with the token, and when it fails it leaves everything to
the others. A search that is not over waits for the lock or prepares the stream. -/
structure Turn.Fair (turn : Turn (Recorded τ) (RecordedStage σ) κ μ χ) (key : Key) : Prop where
  guards : (turn.after.keyLock key).Guards (turn.after.Preparing key) (turn.after.Seeking key)
  alert : (turn.after.keyLock key).Alert
  given : ∀ id, turn.Gives key id → turn.after.pool.writers.get? key = some id
  fails : ∀ fault, turn.search? = some key → turn.result = some (.error fault) → turn.Fails key
  tries : turn.Obtains key → turn.before.pool.writers.get? key = none →
    ∃ rest, turn.after.preparations key = turn.before.preparations key ++ .began key :: rest
  served : turn.Looks key → ∀ id, turn.before.pool.writers.get? key = some id →
    turn.result = some (.ok (.writer id))
  answers : ∀ calls result, turn.after.preparations key = turn.before.preparations key ++ calls →
    .ended key result ∈ calls → turn.Answers key (some result)
  waits : turn.search? = some key → turn.result = none → turn.Waits key

/-- What is true of a run in which the pool is not closed. -/
structure Flown (r : RecordedRun τ σ κ μ χ) (key : Key) : Prop where
  sound : Sound r
  ends : EndsOnce r
  suited : Suited r
  flight : Flight r.session key
  prompt : ∀ turn ∈ r.turns, ¬ turn.Overtaken key
  turns : ∀ turn ∈ r.turns, turn.Fair key
  alternates : ∃ pending, Alternates key (r.session.preparations key) pending ∧
    (pending = true ↔ ∃ task, r.session.Preparing key task)

theorem flown_new (transport : τ) {maxAttempts : Int} (attempts : 1 ≤ maxAttempts) (key : Key) :
    Flown (.new ⟨transport, []⟩ true maxAttempts : RecordedRun τ σ κ μ χ) key where
  sound := sound_new ..
  ends := ends_once_new ..
  suited := suited_new ..
  flight := {
    current := fun under => by cases under
    reserved := .new ..
    alert := Mutex.alert_free
    marked := fun under => by cases under
    creates := rfl
    attempts := attempts }
  prompt turn member := by cases member
  turns turn member := by cases member
  alternates := ⟨false, .nil, by simp [Session.Preparing, Run.new, Session.new]⟩

section Play
variable {r r' : RecordedRun τ σ κ μ χ} {key : Key} {tries : Bool}
  {outcome : Option (Except Fault Token)} {turn : Turn (Recorded τ) (RecordedStage σ) κ μ χ}

theorem Flies.fair (flies : Flies r r' key turn tries outcome) : turn.Fair key where
  guards := by
    rw [flies.tends.after]
    exact flies.flight.reserved.guards
  alert := by
    rw [flies.tends.after]
    exact flies.flight.alert
  given id gives := by
    rw [flies.tends.after]
    exact flies.tends.given id gives
  fails := flies.fails
  tries obtains vacant := by
    have begins := flies.prepares.obtains obtains vacant
    rw [flies.prepares.record, begins]
    exact ⟨_, rfl⟩
  served := flies.served
  answers calls result grown ended := by
    rw [flies.prepares.record, List.append_cancel_left_eq] at grown
    obtain rfl : outcome = some result := Preparation.outcome_of_ended (grown ▸ ended)
    exact flies.prepares.answers
  waits := flies.waits

theorem Flies.flown (flies : Flies r r' key turn tries outcome) (flown : Flown r key)
    (sound : Sound r') (ends : EndsOnce r') (suited : Suited r')
    (prompt : ∀ turn ∈ r'.turns, ¬ turn.Overtaken key) : Flown r' key where
  sound := sound
  ends := ends
  suited := suited
  flight := flies.flight
  prompt := prompt
  turns other member := by
    rw [flies.tends.turns, List.mem_append, List.mem_singleton] at member
    rcases member with old | rfl
    · exact flown.turns other old
    · exact flies.fair
  alternates := by
    obtain ⟨pending, alternates, there⟩ := flown.alternates
    have prepares := flies.prepares
    have before : (∃ task, turn.before.Preparing key task) ↔ pending = true := by
      rw [there, flies.tends.before]
      rfl
    have grown := alternates.calls tries outcome (fun tries => ?_)
      fun late ended => before.1 (prepares.under late ended)
    · refine ⟨outcome.isNone && (tries || pending), ?_, ?_⟩
      · rw [← flies.tends.after, prepares.record, flies.tends.before]
        exact grown
      · rw [← flies.tends.after, prepares.after, before]
        simp
    · have nobody := (prepares.first tries).2
      rw [← Bool.not_eq_true, ← before]
      exact fun ⟨task, preparing⟩ => nobody task preparing

theorem Flight.preparing_iff (flight : Flight r.session key) (task : TaskId) :
    (∃ era stage, r.session.active task = some (.lookup key era (.preparing stage))) ↔
      r.session.Preparing key task := by
  constructor
  · rintro ⟨era, stage, under⟩
    exact ⟨stage, flight.current under ▸ under⟩
  · exact fun ⟨stage, under⟩ => ⟨_, stage, under⟩

/-- A search that has not ended waits for the lock of its stream or prepares it. -/
theorem Flown.underway (flown : Flown r key) {call : CallId}
    (called : r.operations[call]? = some (.getWriter key)) (unended : r.results call = []) :
    ∃ task, r.call task = call ∧ (r.session.Seeking key task ∨ r.session.Preparing key task) := by
  have begun := (List.getElem?_eq_some_iff.1 called).1
  obtain ⟨task, goes, rfl⟩ := flown.ends.goes call begun unended
  obtain ⟨activity, under⟩ := Option.ne_none_iff_exists'.1 goes
  obtain ⟨operation, called', suits⟩ := flown.suited.suits task activity under
  cases called.symm.trans called'
  refine ⟨task, rfl, ?_⟩
  cases activity with
  | transport | batch => cases suits
  | lookup other era stage =>
    cases suits
    obtain rfl := flown.flight.current under
    cases stage with
    | queued => exact .inl under
    | preparing stage => exact .inr ⟨stage, under⟩

variable [Transport τ σ κ] [Commanded τ μ χ κ]

theorem flown_step (flown : Flown r key) {move : Move μ χ} (leaves : move.LeavesStreams) :
    Flown (r.step move) key := by
  rcases flies_step flown.sound flown.flight flown.prompt leaves with
    stays | ⟨turn, tries, outcome, flies⟩
  · rwa [stays]
  · exact flies.flown flown (sound_step flown.sound move) (ends_once_step flown.ends flown.sound move)
      (suited_step flown.suited flown.sound move) (flown.flight.prompt_step flown.prompt move)

theorem flown_play (flown : Flown r key) {moves : List (Move μ χ)}
    (leaves : ∀ move ∈ moves, move.LeavesStreams) : Flown (r.play moves) key :=
  play_induct (motive := (Flown · key)) flown.sound flown fun _ _ flown move member =>
    flown_step flown (leaves move member)

end Play

section Queue
variable {s : Session τ σ κ} {key : Key} {task : TaskId} {id : WriterId}

/-- The first in the queue of a stream's lock is done with. It leaves the queue, and the next one is
granted the lock. -/
structure Session.Dismisses (s : Session τ σ κ) (key : Key) (task : TaskId)
    (result : Except Fault Answer) (stepped : Stepped τ σ κ) : Prop where
  ended : stepped.result? = some result
  era : stepped.session.pool.era = s.pool.era
  writers : stepped.session.pool.writers = s.pool.writers
  lock : stepped.session.keyLock key = ((s.keyLock key).drop task).grant.1

variable [Transport τ σ κ]

theorem Session.dismisses_granted (there : s.pool.writers.get? key = some id)
    (unheld : (s.keyLock key).held = false) (granted : (s.keyLock key).isGranted task = true) :
    s.Dismisses key task (.ok (.writer id))
      (s.resumeLookup task key s.pool.era .queued .ready) := by
  have passed : ((s.keyLock key).enter task).release = ((s.keyLock key).drop task).grant := by
    rw [Mutex.release, Mutex.enter, Mutex.take, ← unheld]
    rfl
  have served : s.resumeLookup task key s.pool.era .queued .ready =
      ((s.setKeyLock s.pool.era key ((s.keyLock key).enter task)).releaseKey s.pool.era key).finished
        (.ok (.writer id)) := by
    simp only [Session.keyLock] at granted
    simp only [Session.resumeLookup, if_pos granted, Session.prepare, Session.setKeyLock,
      Pool.setLock_writers, there, Session.keyLock]
  rw [served]
  refine ⟨rfl, by simp [finished, releaseKey_pool, Pool.letGo, setKeyLock],
    by simp [finished, releaseKey_pool, Pool.letGo, setKeyLock], ?_⟩
  simp only [finished, keyLock, releaseKey_pool, Pool.letGo, setKeyLock, Pool.setLock_era,
    Pool.setLock_self]
  exact congrArg (·.1) passed

theorem Session.dismisses_stopped (unheld : (s.keyLock key).held = false) :
    s.Dismisses key task (.error .stopped)
      (s.resumeLookup task key s.pool.era .queued .interrupted) := by
  have passed : (s.keyLock key).leave task = ((s.keyLock key).drop task).grant := by
    rw [Mutex.leave, if_neg (by simpa [Mutex.drop] using unheld)]
  refine ⟨rfl, by simp [resumeLookup, finished, setKeyLock], by simp [resumeLookup, finished, setKeyLock],
    ?_⟩
  simp only [resumeLookup, finished, keyLock, wake_pool, setKeyLock, Pool.setLock_era,
    Pool.setLock_self]
  exact congrArg (·.1) passed

end Queue

section Drains
variable {r r' : RecordedRun τ σ κ μ χ} {key : Key} {id : WriterId} {task : TaskId}
  {result : Except Fault Answer} {stepped : Stepped (Recorded τ) (RecordedStage σ) κ}

theorem Takes.seeking_of_dismissed (takes : Takes r r' task stepped)
    (dismisses : r.session.fresh.Dismisses key task result stepped) {other : TaskId} :
    r'.session.Seeking key other ↔ r.session.Seeking key other ∧ other ≠ task := by
  refine takes.seeking_iff dismisses.era ?_ other
  simp [Stepped.activity?_of_result? dismisses.ended]

theorem Takes.keyLock_of_dismissed (takes : Takes r r' task stepped)
    (dismisses : r.session.fresh.Dismisses key task result stepped) :
    r'.session.keyLock key = ((r.session.keyLock key).drop task).grant.1 := by
  rw [Session.keyLock, takes.pool]
  exact dismisses.lock

variable [Transport τ σ κ] [Commanded τ μ χ κ]

/-- In a run in which the stream has a writer, the next turn of the first in the queue is its last. -/
theorem Flown.dismisses_first (flown : Flown r key)
    (there : r.session.pool.writers.get? key = some id) {place : Place}
    {rest : List (TaskId × Place)} (queue : (r.session.keyLock key).queue = (task, place) :: rest) :
    ∃ signal result stepped, Takes r (r.step (.resume task signal)) task stepped ∧
      r.session.fresh.Dismisses key task result stepped ∧
      (result = .ok (.writer id) ∨ result = .error .stopped ∧ place = .abandoned) := by
  have guards := flown.flight.reserved.guards
  have seeking : r.session.Seeking key task :=
    (guards.queued task).2 ⟨place, queue ▸ List.mem_cons_self⟩
  have unheld : (r.session.keyLock key).held = false := by
    rw [Bool.eq_false_iff]
    intro held
    obtain ⟨other, prepares⟩ := guards.held.1 held
    cases there.symm.trans (flown.flight.reserved.vacant other prepares)
  have takes := Run.takes_resume seeking (fun _ _ _ same => by cases same)
    (flown.sound.began task (by simp [show r.session.active task = _ from seeking]))
  cases place with
  | waiting => exact absurd rfl (flown.flight.alert unheld _ (by rw [queue]; rfl))
  | granted =>
    have granted : (r.session.keyLock key).isGranted task = true :=
      Mutex.isGranted_iff.2 (queue ▸ List.mem_cons_self)
    exact ⟨.ready, _, _, takes .ready, Session.dismisses_granted there unheld granted, .inl rfl⟩
  | abandoned =>
    exact ⟨.interrupted, _, _, takes .interrupted, Session.dismisses_stopped unheld, .inr ⟨rfl, rfl⟩⟩

theorem Flown.results_of_dismissed {signal : Signal} {moves : List (Move μ χ)} (flown : Flown r key)
    (takes : Takes r (r.step (.resume task signal)) task stepped)
    (dismisses : r.session.fresh.Dismisses key task result stepped)
    (seeking : r.session.Seeking key task) (leaves : ∀ move ∈ moves, move.LeavesStreams) :
    (r.play (.resume task signal :: moves)).results (r.call task) = [result] := by
  have flown' : Flown (r.step (.resume task signal)) key := flown_step flown trivial
  have unended : r.results (r.call task) = [] :=
    flown.ends.underway task (by simp [show r.session.active task = _ from seeking])
  have ended : (r.step (.resume task signal)).results (r.call task) = [result] := by
    rw [takes.results, (r.step_resume task signal).2, if_pos rfl, dismisses.ended, unended]
    rfl
  obtain ⟨later, turns⟩ := (r.step (.resume task signal)).turns_play moves
  exact (flown_play flown' leaves).ends.kept ⟨later, turns.symm⟩ ended

/-- Once the stream has a writer, all those who wait for its lock need is their turns, one each. Whoever
has not given up is given the writer. -/
theorem Flown.drains (flown : Flown r key) (there : r.session.pool.writers.get? key = some id) :
    ∃ resumes : List (Move μ χ),
      (∀ move ∈ resumes, ∃ task signal, move = .resume task signal ∧ r.session.Seeking key task) ∧
      ∀ task, r.session.Seeking key task →
        (r.play resumes).results (r.call task) = [.ok (.writer id)] ∨
        (r.play resumes).results (r.call task) = [.error .stopped] ∧
          (task, .abandoned) ∈ (r.session.keyLock key).queue := by
  -- each turn takes the first out of the queue and grants the lock to the next
  induction size : (r.session.keyLock key).queue.length using Nat.strongRecOn generalizing r with
  | ind n ih =>
    cases queue : (r.session.keyLock key).queue with
    | nil =>
      refine ⟨[], by simp, fun task seeking => ?_⟩
      obtain ⟨place, queued⟩ := (flown.flight.reserved.guards.queued task).1 seeking
      change (task, place) ∈ (r.session.keyLock key).queue at queued
      rw [queue] at queued
      cases queued
    | cons entry rest =>
      obtain ⟨first, place⟩ := entry
      obtain ⟨signal, result, stepped, takes, dismisses, outcome⟩ := flown.dismisses_first there queue
      have flown' : Flown (r.step (.resume first signal)) key := flown_step flown trivial
      have calls := (r.step_resume first signal).2
      have lock := takes.keyLock_of_dismissed dismisses
      have shorter : ((r.step (.resume first signal)).session.keyLock key).queue.length < n := by
        rw [lock, Mutex.length_grant, ← size]
        exact Mutex.length_drop_lt (queue ▸ List.mem_cons_self)
      have there' : (r.step (.resume first signal)).session.pool.writers.get? key = some id := by
        rw [takes.pool, dismisses.writers]
        exact there
      have seeking : r.session.Seeking key first :=
        (flown.flight.reserved.guards.queued first).2 ⟨place, queue ▸ List.mem_cons_self⟩
      obtain ⟨resumes, others, served⟩ := ih _ shorter flown' there' rfl
      refine ⟨.resume first signal :: resumes, ?_, fun task waits => ?_⟩
      · refine List.forall_mem_cons.2 ⟨⟨first, signal, rfl, seeking⟩, fun move member => ?_⟩
        obtain ⟨task, signal, made, waits⟩ := others move member
        exact ⟨task, signal, made, ((takes.seeking_of_dismissed dismisses).1 waits).1⟩
      · by_cases same : task = first
        · subst same
          rw [flown.results_of_dismissed takes dismisses seeking fun move member => by
            obtain ⟨_, _, rfl, -⟩ := others move member
            trivial]
          rcases outcome with rfl | ⟨rfl, rfl⟩
          · exact .inl rfl
          · exact .inr ⟨rfl, List.mem_cons_self⟩
        · rw [← calls]
          refine (served task ((takes.seeking_of_dismissed dismisses).2 ⟨waits, same⟩)).imp_right
            (And.imp_right fun member => ?_)
          rw [lock] at member
          exact queue ▸ (Mutex.mem_drop.1 (Mutex.abandoned_of_grant member)).1

end Drains

end SequenceLog

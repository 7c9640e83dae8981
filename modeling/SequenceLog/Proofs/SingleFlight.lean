import Mathlib.Data.List.Induction
import SequenceLog.Proofs.Handover
/-! Searches that overlap. When the search that prepares a stream succeeds, they are all given the one
writer that was opened; when it fails the lock passes on, and the next one tries for itself. Main
statement: `single_flight`. -/
namespace SequenceLog
open Scenario
variable {τ σ κ μ χ : Type}

section Play
variable {r r' : RecordedRun τ σ κ μ χ} {key : Key} {tries : Bool}
  {outcome : Option (Except Fault Token)} {turn : Turn (Recorded τ) (RecordedStage σ) κ μ χ}

theorem Run.firstToken_old (sound : Sound r) (turns : r'.turns = r.turns ++ [turn]) {id : WriterId}
    (known : id < r.session.writers.length) : r'.firstToken id = r.firstToken id := by
  have opened : r'.opened = r.opened ++ turn.after.writers.drop turn.before.writers.length := by
    simp [Run.opened, turns]
  rw [Run.firstToken, opened, List.getElem?_append_left (sound.opened.symm ▸ known)]
  rfl

theorem Run.firstToken_new (sound : Sound r) (turns : r'.turns = r.turns ++ [turn])
    (before : turn.before.writers = r.session.writers) :
    r'.firstToken r.session.writers.length =
      (turn.after.writer r.session.writers.length).token := by
  have opened : r'.opened = r.opened ++ turn.after.writers.drop turn.before.writers.length := by
    simp [Run.opened, turns]
  rw [Run.firstToken, opened, List.getElem?_append_right (Nat.le_of_eq sound.opened), sound.opened,
    before, List.getElem?_drop]
  simp [Session.writer]

theorem Flies.opened {token : Token} (flies : Flies r r' key turn tries (some (.ok token)))
    (sound : Sound r) (vacant : r.session.pool.writers.get? key = none) :
    turn.result = some (.ok (.writer r.session.writers.length)) ∧
      r'.session.pool.writers.get? key = some r.session.writers.length ∧
      r.session.writers.length < r'.session.writers.length ∧
      r'.firstToken r.session.writers.length = token := by
  obtain ⟨tends, -, -, prepares, -⟩ := flies
  obtain ⟨gives, seeded⟩ := prepares.answers
  have writers : turn.before.writers = r.session.writers := by
    rw [tends.before]
    rfl
  rw [writers] at gives seeded
  have there := tends.given _ gives
  have made : turn.after.Made key turn.before.writers.length := by
    rcases tends.outcome with holds | fills | ⟨_, _, gone, _⟩
    · rw [Turn.Holds, tends.after, there, tends.before] at holds
      cases holds.trans vacant
    · exact fills.made
    · rw [tends.after, there] at gone
      cases gone
  have known : r.session.writers.length < turn.after.writers.length := writers ▸ made.1
  refine ⟨gives.2, there, tends.after ▸ known, ?_⟩
  rw [Run.firstToken_new sound tends.turns writers, seeded]

end Play

/-- What has become of the searches for a stream since it had no writer and nobody prepared it, provided
that it lost no writer and that no preparation failed. `calls` is what was recorded about the stream. At
first nobody has the lock. Then one search prepares the stream, and in the end a writer is there for
everybody. A search that stops in the queue gets nothing. -/
inductive Shared (key : Key) (r : RecordedRun τ σ κ μ χ)
    (stretch : List (Turn (Recorded τ) (RecordedStage σ) κ μ χ)) (calls : List Preparation) : Prop
  | fresh : calls = [] → r.session.pool.writers.get? key = none →
      (∀ task, ¬ r.session.Preparing key task) →
      (∀ turn ∈ stretch, turn.search? = some key → turn.result = none ∨ turn.Stops key) →
      Shared key r stretch calls
  | under : calls = [.began key] → (∃ task, r.session.Preparing key task) →
      (∀ turn ∈ stretch, turn.search? = some key → turn.result = none ∨ turn.Stops key) →
      Shared key r stretch calls
  | done {id token} : calls = [.began key, .ended key (.ok token)] →
      r.session.pool.writers.get? key = some id → id < r.session.writers.length →
      r.firstToken id = token → (∀ task, ¬ r.session.Preparing key task) →
      (∀ turn ∈ stretch, turn.search? = some key →
        turn.result = none ∨ turn.Stops key ∨ turn.result = some (.ok (.writer id))) →
      Shared key r stretch calls

/-- What has become of a call that searches for a stream and had not ended before the stretch. It goes on,
it was told to stop while it waited, or it was given the one writer there is, after the one preparation
there was. -/
inductive Partakes (key : Key) (r : RecordedRun τ σ κ μ χ)
    (stretch : List (Turn (Recorded τ) (RecordedStage σ) κ μ χ)) (calls : List Preparation)
    (call : CallId) : Prop
  | goes {task} : r.results call = [] → r.call task = call →
      r.session.Seeking key task ∨ r.session.Preparing key task → Partakes key r stretch calls call
  | stopped {turn} : r.results call = [.error .stopped] → turn ∈ stretch → turn.call = some call →
      turn.Stops key → Partakes key r stretch calls call
  | given {id} : r.results call = [.ok (.writer id)] →
      r.session.pool.writers.get? key = some id →
      calls = [.began key, .ended key (.ok (r.firstToken id))] → Partakes key r stretch calls call

section Shared
variable {r r' : RecordedRun τ σ κ μ χ} {key : Key} {tries : Bool}
  {outcome : Option (Except Fault Token)} {turn : Turn (Recorded τ) (RecordedStage σ) κ μ χ}
  {stretch : List (Turn (Recorded τ) (RecordedStage σ) κ μ χ)} {calls : List Preparation}

theorem Flies.idle (flies : Flies r r' key turn false none) (stays : ¬ turn.Vacates key) :
    r'.session.pool.writers.get? key = r.session.pool.writers.get? key ∧
      ((∃ task, r'.session.Preparing key task) ↔ ∃ task, r.session.Preparing key task) ∧
      (turn.search? = some key → turn.result = none ∨ turn.Stops key ∨
        ∃ id, turn.result = some (.ok (.writer id)) ∧
          r.session.pool.writers.get? key = some id) := by
  obtain ⟨tends, -, -, prepares, -⟩ := flies
  have answers : turn.search? = some key → _ := prepares.answers
  have after := prepares.after
  rw [tends.before] at answers
  simp only [tends.before, tends.after, true_and, Bool.false_eq_true, false_or] at after
  refine ⟨?_, after, answers⟩
  rcases tends.outcome with holds | fills | vacates
  · rw [Turn.Holds, tends.after, tends.before] at holds
    exact holds
  · have vacant := fills.vacant
    rw [tends.before] at vacant
    rcases answers fills.given.1 with none | stops | ⟨id, -, there⟩
    · cases none.symm.trans fills.given.2
    · cases stops.result.symm.trans fills.given.2
    · cases there.symm.trans vacant
  · exact absurd vacates stays

theorem Flies.unserved (flies : Flies r r' key turn tries none)
    (vacant : r.session.pool.writers.get? key = none) (search : turn.search? = some key) :
    turn.result = none ∨ turn.Stops key := by
  have answers : turn.search? = some key → _ := flies.prepares.answers
  rw [flies.tends.before] at answers
  rcases answers search with none | stops | ⟨id, -, there⟩
  · exact .inl none
  · exact .inr stops
  · cases there.symm.trans vacant

theorem Flies.shared_idle (flies : Flies r r' key turn false none)
    (flight : Flight r.session key) (sound : Sound r) (shared : Shared key r stretch calls)
    (stays : ¬ turn.Vacates key) : Shared key r' (stretch ++ [turn]) calls := by
  obtain ⟨same, preparing, answers⟩ := flies.idle stays
  cases shared with
  | fresh made vacant nobody turns =>
    refine .fresh made (same.trans vacant) (fun task prepares => ?_)
      (List.forall_mem_append.2 ⟨turns, by simpa using flies.unserved vacant⟩)
    obtain ⟨other, there⟩ := preparing.1 ⟨task, prepares⟩
    exact nobody other there
  | under made there turns =>
    obtain ⟨task, prepares⟩ := there
    have vacant : r.session.pool.writers.get? key = none := flight.reserved.vacant task prepares
    exact .under made (preparing.2 ⟨task, prepares⟩)
      (List.forall_mem_append.2 ⟨turns, by simpa using flies.unserved vacant⟩)
  | @done id token made there known seeded nobody turns =>
    refine .done made (same.trans there) (Nat.lt_of_lt_of_le known flies.longer)
      ((Run.firstToken_old sound flies.tends.turns known).trans seeded) (fun task prepares => ?_)
      (List.forall_mem_append.2 ⟨turns, ?_⟩)
    · obtain ⟨other, there⟩ := preparing.1 ⟨task, prepares⟩
      exact nobody other there
    · simp only [List.mem_singleton, forall_eq]
      intro search
      refine (answers search).imp_right (Or.imp_right ?_)
      rintro ⟨other, given, there'⟩
      cases there.symm.trans there'
      exact given

theorem Flies.shared_opened {token : Token} (flies : Flies r r' key turn tries (some (.ok token)))
    (sound : Sound r) (vacant : r.session.pool.writers.get? key = none)
    (made : calls ++ Preparation.calls key tries (some (.ok token)) =
      [.began key, .ended key (.ok token)])
    (turns : ∀ turn ∈ stretch, turn.search? = some key → turn.result = none ∨ turn.Stops key) :
    Shared key r' (stretch ++ [turn])
      (calls ++ Preparation.calls key tries (some (.ok token))) := by
  obtain ⟨given, there, known, seeded⟩ := flies.opened sound vacant
  have after := flies.prepares.after
  simp only [flies.tends.after, reduceCtorEq, false_and, iff_false, not_exists] at after
  refine .done made there known seeded after (List.forall_mem_append.2 ⟨?_, ?_⟩)
  · exact fun other member search => (turns other member search).imp_right .inl
  · simp only [List.mem_singleton, forall_eq]
    exact fun _ => .inr (.inr given)

theorem Flies.shared (flies : Flies r r' key turn tries outcome) (sound : Sound r)
    (flight : Flight r.session key) (shared : Shared key r stretch calls)
    (stays : ¬ turn.Vacates key)
    (succeeds : ∀ fault, .ended key (.error fault) ∉ calls ++ Preparation.calls key tries outcome) :
    Shared key r' (stretch ++ [turn]) (calls ++ Preparation.calls key tries outcome) := by
  have first := flies.prepares.first
  have under := flies.prepares.under
  have after := flies.prepares.after
  simp only [flies.tends.before, flies.tends.after] at first under after
  cases tries with
  | true =>
    -- whoever begins has found no writer and nobody else at work
    obtain ⟨vacant, nobody⟩ := first rfl
    cases shared with
    | fresh made _ _ turns =>
      subst made
      cases outcome with
      | none =>
        exact .under rfl (after.2 ⟨rfl, .inl rfl⟩)
          (List.forall_mem_append.2 ⟨turns, by simpa using flies.unserved vacant⟩)
      | some result =>
        cases result with
        | error fault => exact absurd (by simp [Preparation.calls]) (succeeds fault)
        | ok token => exact flies.shared_opened sound vacant rfl turns
    | under _ there =>
      obtain ⟨task, prepares⟩ := there
      exact absurd prepares (nobody task)
    | done _ there => cases there.symm.trans vacant
  | false =>
    cases outcome with
    | none => simpa [Preparation.calls] using flies.shared_idle flight sound shared stays
    | some result =>
      obtain ⟨task, prepares⟩ := under rfl (by simp)
      have vacant : r.session.pool.writers.get? key = none := flight.reserved.vacant task prepares
      cases shared with
      | fresh _ _ nobody | done _ _ _ _ nobody => exact absurd prepares (nobody task)
      | under made _ turns =>
        subst made
        cases result with
        | error fault => exact absurd (by simp [Preparation.calls]) (succeeds fault)
        | ok token => exact flies.shared_opened sound vacant rfl turns

variable [Transport τ σ κ] [Commanded τ μ χ κ]

/-- The searches from a time on at which the stream has no writer and nobody prepares it. -/
theorem shared_play (flown : Flown r key) (vacant : r.session.pool.writers.get? key = none)
    (nobody : ∀ task, ¬ r.session.Preparing key task) {moves : List (Move μ χ)}
    (leaves : ∀ move ∈ moves, move.LeavesStreams) :
    ∃ stretch calls, (r.play moves).turns = r.turns ++ stretch ∧
      (r.play moves).session.preparations key = r.session.preparations key ++ calls ∧
      ((∀ turn ∈ stretch, ¬ turn.Vacates key) → (∀ fault, .ended key (.error fault) ∉ calls) →
        Shared key (r.play moves) stretch calls) := by
  -- from the end, since a turn is judged by the run that leads up to it
  induction moves using List.reverseRecOn with
  | nil =>
    exact ⟨[], [], (List.append_nil _).symm, (List.append_nil _).symm,
      fun _ _ => .fresh rfl vacant nobody fun _ member => by cases member⟩
  | append_singleton moves move ih =>
    obtain ⟨early, last⟩ := List.forall_mem_append.1 leaves
    have leaves' : move.LeavesStreams := last move (List.mem_singleton_self _)
    have flown' := flown_play flown early
    obtain ⟨stretch, calls, turns, record, shared⟩ := ih early
    have step : r.play (moves ++ [move]) = (r.play moves).step move := r.play_append moves [move]
    rw [step]
    rcases flies_step flown'.sound flown'.flight flown'.prompt leaves' with
      stays | ⟨turn, tries, outcome, flies⟩
    · rw [stays]
      exact ⟨stretch, calls, turns, record, shared⟩
    · refine ⟨stretch ++ [turn], calls ++ Preparation.calls key tries outcome, ?_, ?_,
        fun kept succeeds => ?_⟩
      · rw [flies.tends.turns, turns, List.append_assoc]
      · rw [← flies.tends.after, flies.prepares.record, flies.tends.before, ← List.append_assoc,
          ← record]
        rfl
      · obtain ⟨keptEarly, keptLast⟩ := List.forall_mem_append.1 kept
        refine flies.shared flown'.sound flown'.flight (shared keptEarly fun fault member => ?_)
          (keptLast turn (List.mem_singleton_self _)) succeeds
        exact succeeds fault (List.mem_append_left _ member)

omit [Transport τ σ κ] [Commanded τ μ χ κ] in
theorem Shared.partakes {call : CallId} (shared : Shared key r' stretch calls) (flown : Flown r' key)
    (turns : r'.turns = r.turns ++ stretch) (called : r'.operations[call]? = some (.getWriter key))
    (unended : r.results call = []) : Partakes key r' stretch calls call := by
  rcases ended : r'.results call with - | ⟨result, more⟩
  · obtain ⟨task, own, goes⟩ := flown.underway called ended
    exact .goes ended own goes
  · have once := flown.ends.once call
    rw [ended, List.length_cons, Nat.succ_le_succ_iff, Nat.le_zero, List.length_eq_zero_iff] at once
    subst once
    have member : result ∈ r'.results call := ended ▸ List.mem_singleton_self _
    rw [Run.results, turns, List.filterMap_append, ← Run.results, unended, List.nil_append] at member
    obtain ⟨turn, late, gives⟩ := List.mem_filterMap.1 member
    split at gives
    · rename_i own
      have search : turn.search? = some key :=
        flown.suited.search (turns ▸ List.mem_append_right _ late) own called
      have stopped (stops : turn.Stops key) : Partakes key r' stretch calls call := by
        cases gives.symm.trans stops.result
        exact .stopped ended late own stops
      cases shared with
      | fresh _ _ _ none | under _ _ none =>
        rcases none turn late search with none | stops
        · cases gives.symm.trans none
        · exact stopped stops
      | done made there known seeded nobody all =>
        rcases all turn late search with none | stops | given
        · cases gives.symm.trans none
        · exact stopped stops
        · cases gives.symm.trans given
          exact .given ended there (seeded ▸ made)
    · cases gives

/-- In every run in which the pool is not closed and streams are prepared by searches alone: the
preparations of a stream come one after the other, at most one search has one under way, the others that
have not ended wait for the lock, and in every turn searchers are treated fairly. Once there is a writer,
those who wait need only their turns to be given it.
From any time on at which the stream has no writer and nobody prepares it, as long as it loses no writer
and no preparation fails, all the searches that end together make one preparation and are given the one
writer that was opened with the token it returned. -/
theorem single_flight (transport : τ) {maxAttempts : Int} (attempts : 1 ≤ maxAttempts)
    (moves more : List (Move μ χ)) (leaves : ∀ move ∈ moves ++ more, move.LeavesStreams)
    (key : Key) :
    let r : RecordedRun τ σ κ μ χ := (Run.new ⟨transport, []⟩ true maxAttempts).play moves
    let r' := r.play more
    let prepares := fun task => ∃ era stage,
      r.session.active task = some (.lookup key era (.preparing stage))
    (∃ pending, Alternates key (r.session.preparations key) pending ∧
      (pending = true ↔ ∃ task, prepares task)) ∧
    (∀ a b, prepares a → prepares b → a = b) ∧
    (∀ turn ∈ r.turns, turn.Fair key) ∧
    (∀ call, r.operations[call]? = some (.getWriter key) → r.results call = [] →
      ∃ task, r.call task = call ∧ (r.session.Seeking key task ∨ r.session.Preparing key task)) ∧
    (∀ id, r.session.pool.writers.get? key = some id → ∃ resumes : List (Move μ χ),
      (∀ move ∈ resumes, ∃ task signal, move = .resume task signal ∧ r.session.Seeking key task) ∧
      ∀ task, r.session.Seeking key task →
        (r.play resumes).results (r.call task) = [.ok (.writer id)] ∨
        (r.play resumes).results (r.call task) = [.error .stopped] ∧
          (task, .abandoned) ∈ (r.session.keyLock key).queue) ∧
    (r.session.pool.writers.get? key = none → (∀ task, ¬ prepares task) →
      ∀ stretch calls, r'.turns = r.turns ++ stretch →
        r'.session.preparations key = r.session.preparations key ++ calls →
        (∀ turn ∈ stretch, ¬ turn.Vacates key) → (∀ fault, .ended key (.error fault) ∉ calls) →
        Shared key r' stretch calls ∧
        ∀ call, r'.operations[call]? = some (.getWriter key) → r.results call = [] →
          Partakes key r' stretch calls call) := by
  intro r r' prepares
  obtain ⟨early, late⟩ := List.forall_mem_append.1 leaves
  have flown : Flown r key := flown_play (flown_new transport attempts key) early
  have same : ∀ task, prepares task ↔ r.session.Preparing key task := flown.flight.preparing_iff
  have guards := flown.flight.reserved.guards
  refine ⟨?_, fun a b first second => ?_, flown.turns, fun _ => flown.underway,
    fun _ => flown.drains, fun vacant nobody stretch calls => ?_⟩
  · obtain ⟨pending, alternates, there⟩ := flown.alternates
    exact ⟨pending, alternates, there.trans (exists_congr fun task => (same task).symm)⟩
  · exact guards.alone a b ((same a).1 first) ((same b).1 second)
  · intro turns record kept succeeds
    obtain ⟨stretch', calls', turns', record', shared⟩ := shared_play flown vacant
      (fun task there => nobody task ((same task).2 there)) late
    obtain rfl := List.append_cancel_left (turns.symm.trans turns')
    obtain rfl := List.append_cancel_left (record.symm.trans record')
    have shared := shared kept succeeds
    exact ⟨shared, fun _ => shared.partakes (flown_play flown late) turns⟩

end Shared

/-- The service takes its time to create a group. -/
def crowded : RecordedRun (CloudWatch CloudWatch.Script) CloudWatch.Stage CloudWatch.Call
    CloudWatch.Command CloudWatch.Chore :=
  (Run.new ⟨scripted, []⟩ true 3).play [.command .connect, .command slowCreation]

/-- Three searches overlap, and one of them stops waiting. -/
def crowd : List (Move CloudWatch.Command CloudWatch.Chore) :=
  [.start 0 (.getWriter default), .start 1 (.getWriter default), .start 2 (.getWriter default),
    .resume 1 .interrupted, .resume 0 .ready, .resume 2 .ready]

/-- One preparation serves the other two. -/
theorem single_flight_crowd :
    (∀ move ∈ [.command .connect, .command slowCreation] ++ crowd, move.LeavesStreams) ∧
      ∃ stretch, (crowded.play crowd).turns = crowded.turns ++ stretch ∧
        Shared default (crowded.play crowd) stretch
          [.began default, .ended default (.ok .null)] ∧
        (∀ call < 3, Partakes default (crowded.play crowd) stretch
          [.began default, .ended default (.ok .null)] call) ∧
        stretch.map (·.result) = [none, none, none, some (.error .stopped),
          some (.ok (.writer 0)), some (.ok (.writer 0))] := by
  have leaves : ∀ move ∈ [.command .connect, .command slowCreation] ++ crowd, move.LeavesStreams := by
    simp [crowd, Move.LeavesStreams]
  obtain ⟨-, -, -, -, -, flight⟩ := single_flight scripted (show (1 : Int) ≤ 3 by decide)
    [.command .connect, .command slowCreation] crowd leaves default
  have turns : (crowded.play crowd).turns = crowded.turns ++ (crowded.play crowd).turns.drop 2 := rfl
  have kept : (((crowded.play crowd).turns.drop 2).all fun turn =>
      (turn.before.pool.writers.get? default).isNone ||
        (turn.after.pool.writers.get? default).isSome) = true := rfl
  obtain ⟨shared, partakes⟩ := flight rfl (by rintro task ⟨era, stage, under⟩; cases under) _
    [.began default, .ended default (.ok .null)] turns rfl
    (by
      rintro turn member ⟨id, there, gone, -⟩
      have stays := List.all_eq_true.1 kept turn member
      simp [there, gone] at stays)
    (by simp)
  refine ⟨leaves, _, turns, shared, fun call among => partakes call ?_ rfl, rfl⟩
  have one : ∀ n : Nat, n < 3 → n = 0 ∨ n = 1 ∨ n = 2 := by omega
  rcases one call among with rfl | rfl | rfl <;> rfl

end SequenceLog

import SequenceLog.Proofs.Interruption
import SequenceLog.Proofs.SingleUse
/-! Overlapping appends come out as if they had been made one after another. The point at which an
append is carried out is where it takes effect; an append that is stopped in its sleep has no such
point. Main statement: `appends_linearizable`. -/
namespace SequenceLog
open Scenario

/-- A point of a run in which something becomes of the memory: an append is carried out for a call,
or a failure is put into the queue. -/
inductive Point where
  | carried (call : CallId) (request : Append) (result : Except Fault Answer)
  | injected (fault : Fault)

def Point.call? : Point → Option CallId
  | .carried call _ _ => some call
  | .injected _ => none

/-- What the points of a run take from the queue of failures, and put into it. -/
inductive Consumes (queue : List Fault) : List Point → List Fault → Prop
  | nil : Consumes queue [] queue
  | failed {points fault rest call request} : Consumes queue points (fault :: rest) →
      Consumes queue (points ++ [.carried call request (.error fault)]) rest
  | empty {points call request result} : Consumes queue points [] →
      Consumes queue (points ++ [.carried call request result]) []
  | injected {points rest fault} : Consumes queue points rest →
      Consumes queue (points ++ [.injected fault]) (rest ++ [fault])

namespace Memory
variable {m m' after : Memory} {r : Append} {points : List Point}

/-- No stream has other events, and none expects another token. -/
def Keeps (m m' : Memory) : Prop := ∀ key, m'.events key = m.events key ∧ m'.token key = m.token key

/-- An append that fails may create its stream, which is then as if it were not there. -/
theorem keeps_commit {fault : Fault} (failed : (m.commit r).2 = .error fault) :
    m.Keeps (m.commit r).1 := by
  intro key
  refine ⟨?_, ((commit_refuses failed).2 key).token⟩
  rw [events_commit, failed]
  exact List.append_nil _

/-- An append that nothing comes between: it is called, sleeps if it has to, and goes on. -/
inductive Executes (m : Memory) (r : Append) : Memory × Except Fault Token → Prop
  | prompt {result} : (m.append r).progress = .finished result →
      Executes m r ((m.append r).state, result)
  | slept {asleep result} : (m.append r).progress = .suspended asleep →
      ((m.append r).state.resume asleep .ready).progress = .finished result →
      Executes m r (((m.append r).state.resume asleep .ready).state, result)

theorem executes (connected : m.connected = true) (r : Append) :
    m.Executes r ((m.commit r).1.receive r, (m.commit r).2) := by
  cases prompt : m.delay.isZero with
  | true =>
    obtain ⟨state, progress⟩ := append_prompt connected prompt r
    rw [← state]
    exact .prompt progress
  | false =>
    have slept := append_delayed connected prompt r
    have woken : (m.append r).state.resume ⟨r, m.delay⟩ .ready = (m.receive r).settle r := by
      rw [slept]
      rfl
    have carried := commit_receive m r r
    have state : ((m.receive r).settle r).state = (m.commit r).1.receive r :=
      congrArg Prod.fst carried
    have result : ((m.receive r).commit r).2 = (m.commit r).2 := by rw [carried]
    have progress : ((m.receive r).settle r).progress = .finished (m.commit r).2 :=
      congrArg Progress.finished result
    rw [← state, ← woken]
    exact .slept (by rw [slept]) (woken ▸ progress)

theorem Executes.unique {outcome other : Memory × Except Fault Token}
    (executes : m.Executes r outcome) (executes' : m.Executes r other) : outcome = other := by
  cases executes with
  | prompt finished =>
    cases executes' with
    | prompt finished' =>
      cases finished.symm.trans finished'
      rfl
    | slept suspended => cases finished.symm.trans suspended
  | slept suspended finished =>
    cases executes' with
    | prompt finished' => cases suspended.symm.trans finished'
    | slept suspended' finished' =>
      cases suspended.symm.trans suspended'
      cases finished.symm.trans finished'
      rfl

/-- The points of a run one after another, each append from its call to its end. -/
inductive Serial (m : Memory) : List Point → Memory → Prop
  | nil : Serial m [] m
  | append {points before after call request result} : Serial m points before →
      before.Executes request (after, result) →
      Serial m (points ++ [.carried call request (result.map .token)]) after
  | inject {points before fault} : Serial m points before →
      Serial m (points ++ [.injected fault]) (before.inject fault)

theorem Serial.connected (serial : m.Serial points after) (connected : m.connected = true) :
    after.connected = true := by
  induction serial with
  | nil => exact connected
  | append _ executes ih =>
    cases executes.unique (Memory.executes ih _)
    exact (commit_stays ..).2.1.trans ih
  | inject _ ih => exact ih

/-- A pending failure is for the next append, and only that. -/
theorem Serial.consumes (serial : m.Serial points after) (connected : m.connected = true) :
    Consumes m.failures points after.failures := by
  induction serial with
  | nil => exact .nil
  | @append points before after call request result serial executes ih =>
    cases executes.unique (Memory.executes (serial.connected connected) request)
    have decided := before.decides_commit request
    generalize before.commit request = decision at decided
    cases decided with
    | failed pending =>
      rw [pending] at ih
      exact .failed ih
    | missing idle | accepted idle | refused idle =>
      rw [idle] at ih
      have none : before.failures = [] := idle
      simp only [receive, store, none]
      exact .empty ih
  | inject _ ih => exact .injected ih

end Memory

/-- A move of somebody who appends, makes appends fail, or looks at what is stored. -/
def Move.Appending : Move Memory.Command Empty → Prop
  | .start _ (.append _) | .resume _ _ | .abandon _ => True
  | .command (.inject _) | .command .connect => True
  | .command (.events _) | .command (.eventCount _) | .command (.token _) => True
  | _ => False

theorem Move.Appending.direct {move : Move Memory.Command Empty} (appending : move.Appending) :
    move.Direct := by
  cases move with
  | start task operation =>
    cases operation with
    | append => trivial
    | ensureStream | getWriter | write => cases appending
  | resume | abandon | command => trivial
  | _ => cases appending

def Operation.request? : Operation → Option Append
  | .append request => some request
  | _ => none

namespace Turn
variable (turn : MemoryTurn)

def Resumes : Prop := ∃ task signal, turn.move = .resume task signal

def point? : Option Point :=
  match turn.move with
  | .start _ _ | .resume _ .ready =>
    match turn.call, turn.append?, turn.result with
    | some call, some request, some result => some (.carried call request result)
    | _, _, _ => none
  | .command (.inject fault) => some (.injected fault)
  | _ => none

/-- What a turn comes to, and the memory after it but for the calls that it takes down. -/
inductive Serves : Memory → Prop
  | carried {call request result} : turn.call = some call →
      turn.point? = some (.carried call request (result.map .token)) →
      (turn.before.transport.commit request).2 = result →
      turn.result = some (result.map .token) → ¬ turn.Cancels →
      Serves (turn.before.transport.commit request).1
  | stopped : turn.point? = none → turn.Cancels → turn.result = some (.error .stopped) →
      Serves turn.before.transport
  | injected {fault} : turn.point? = some (.injected fault) → turn.result = none →
      ¬ turn.Resumes → Serves (turn.before.transport.inject fault)
  | quiet : turn.point? = none → turn.result = none → ¬ turn.Resumes → Serves turn.before.transport

end Turn

namespace Run
variable (r : MemoryRun)

def points : List Point := r.turns.filterMap Turn.point?

/-- The points that belong to a call. -/
def share (call : CallId) : List Point := r.points.filter (·.call? = some call)

/-- How it went for a call so far. It waits to go on, or was stopped, or was carried out once with
the result that it has. -/
inductive Course (call : CallId) : Prop
  | waiting : (∀ turn ∈ r.turns, turn.call = some call → ¬ turn.Resumes) → r.results call = [] →
      r.share call = [] → Course call
  | stopped : (∃ turn ∈ r.turns, turn.call = some call ∧ turn.Cancels) →
      r.results call = [.error .stopped] → r.share call = [] → Course call
  | carried {request result} : (∀ turn ∈ r.turns, turn.call = some call → ¬ turn.Cancels) →
      r.operations[call]? = some (.append request) → r.results call = [result] →
      r.share call = [.carried call request result] → Course call

end Run

section Steps
variable {m : Memory} {r r' : MemoryRun} {turn : MemoryTurn}

theorem Turn.Cancels.resumes (cancels : turn.Cancels) : turn.Resumes := by
  obtain ⟨task, signal, move, -⟩ := cancels
  exact ⟨task, signal, move⟩

theorem Turn.of_point {call : CallId} {request : Append} {result : Except Fault Answer}
    (is_point : turn.point? = some (.carried call request result)) :
    turn.call = some call ∧ turn.append? = some request ∧ turn.result = some result := by
  unfold point? at is_point
  split at is_point
  · split at is_point <;> cases is_point
    exact ⟨‹_›, ‹_›, ‹_›⟩
  · split at is_point <;> cases is_point
    exact ⟨‹_›, ‹_›, ‹_›⟩
  · cases is_point
  · cases is_point

theorem Run.points_concat (turns : r'.turns = r.turns ++ [turn]) :
    r'.points = r.points ++ turn.point?.toList := by
  rw [points, turns, List.filterMap_append, points]
  cases is_point : turn.point? <;> simp [is_point]

theorem Run.share_concat (turns : r'.turns = r.turns ++ [turn]) (call : CallId) :
    r'.share call = r.share call ++ turn.point?.toList.filter (·.call? = some call) := by
  rw [share, points_concat turns, List.filter_append, share]

theorem Run.share_other (turns : r'.turns = r.turns ++ [turn]) {call : CallId}
    (other : turn.call ≠ some call) : r'.share call = r.share call := by
  have none : turn.point?.toList.filter (·.call? = some call) = [] := by
    apply List.filter_eq_nil_iff.2
    intro point member own
    cases point with
    | carried caller =>
      have belongs := (Turn.of_point (Option.mem_toList.1 member)).1
      exact other (belongs.trans (of_decide_eq_true own))
    | injected => cases of_decide_eq_true own
  rw [share_concat turns, none, List.append_nil]

/-- Nothing is under way but appends that sleep, each with the request of its call. -/
def Run.Dormant (r : MemoryRun) : Prop :=
  ∀ task activity, r.session.active task = some activity →
    ∃ asleep, activity = .transport asleep ∧
      r.operations[r.call task]? = some (.append asleep.request)

theorem Run.Dormant.bare (dormant : r.Dormant) : r.Bare := by
  intro task activity under
  obtain ⟨asleep, same, -⟩ := dormant task activity under
  exact ⟨asleep, same⟩

theorem Handled.begun (handled : Handled r r' turn) {task : TaskId} {operation : Operation}
    (move : turn.move = .start task operation) {call : CallId} (own : turn.call = some call) :
    r'.operations[call]? = some operation := by
  have next := own.symm.trans handled.caller
  rw [move] at next
  have operations := handled.operations
  rw [move] at operations
  rw [operations, Option.some.inj next]
  exact List.getElem?_concat_length

theorem Handled.grown (handled : Handled r r' turn) : r.operations <+: r'.operations :=
  ⟨_, handled.operations.symm⟩

theorem Handled.dormant (handled : Handled r r' turn) (dormant : r.Dormant) : r'.Dormant := by
  intro task activity under
  obtain ⟨asleep, rfl⟩ := handled.bare task activity under
  refine ⟨asleep, rfl, ?_⟩
  rcases handled.sleeps task asleep under with ⟨slept, same⟩ | ⟨move, own, -⟩
  · obtain ⟨asleep', own, asked⟩ := dormant task _ slept
    cases own
    rw [same]
    exact getElem?_grows handled.grown asked
  · exact handled.begun move own

theorem Handled.called (handled : Handled r r' turn) (dormant : r.Dormant) {request : Append}
    (asks : turn.append? = some request) :
    ∃ call, turn.call = some call ∧ r'.operations[call]? = some (.append request) := by
  have caller := handled.caller
  unfold Turn.append? at asks
  split at asks
  · rename_i move
    cases asks
    rw [move] at caller
    exact ⟨_, caller, handled.begun move caller⟩
  · rename_i task _ move
    split at asks
    · rename_i under
      cases asks
      rw [move] at caller
      rw [handled.before] at under
      obtain ⟨_, same, asked⟩ := dormant task _ under
      cases same
      exact ⟨_, caller, getElem?_grows handled.grown asked⟩
    · cases asks
  · cases asks

/-- Appends that are made of a connected memory are carried out, stopped or taken down, and nothing
else becomes of the streams. -/
theorem Handled.serves (handled : Handled r r' turn) (dormant : r.Dormant)
    (appending : turn.move.Appending)
    (connected : turn.before.transport.connected = true) :
    ∃ next began, turn.Serves next ∧
      turn.after.transport = { next with calls := turn.before.transport.calls ++ began } ∧
      r'.operations = r.operations ++ began.map .append := by
  have operations := handled.operations
  have kept {next : Memory} (calls : next.calls = turn.before.transport.calls) :
      next = { next with calls := turn.before.transport.calls ++ [] } := by
    rw [List.append_nil, ← calls]
  -- a call has its point in the turn in which its append is carried out, or not at all
  cases handled.handles with
  | refused _ closed => cases closed.symm.trans connected
  | @received task request move _ after result =>
    refine ⟨_, [request], .quiet ?_ result ?_, after, ?_⟩
    · cases asked : turn.call <;> simp [Turn.point?, move, result]
    · rintro ⟨_, _, resumes⟩
      cases move.symm.trans resumes
    · simpa [move] using operations
  | @prompt task request move _ after result =>
    have asks : turn.append? = some request := by simp [Turn.append?, move]
    obtain ⟨call, own, -⟩ := handled.called dormant asks
    refine ⟨_, [request], .carried own ?_ rfl result ?_, ?_, ?_⟩
    · simp [Turn.point?, move, own, asks, result]
    · rintro ⟨_, _, resumes, -⟩
      cases move.symm.trans resumes
    · rw [after, Memory.receive, (Memory.commit_stays ..).1]
    · simpa [move] using operations
  | @woken task asleep move under after result =>
    have asks : turn.append? = some asleep.request := by simp [Turn.append?, move, under]
    obtain ⟨call, own, -⟩ := handled.called dormant asks
    refine ⟨_, [], .carried own ?_ rfl result ?_, after.trans (kept (Memory.commit_stays ..).1), ?_⟩
    · simp [Turn.point?, move, own, asks, result]
    · rintro ⟨_, _, resumes, other⟩
      cases move.symm.trans resumes
      exact other rfl
    · simpa [move] using operations
  | @stopped task signal asleep move other under after result =>
    refine ⟨_, [], .stopped ?_ ⟨task, signal, move, other⟩ result, after.trans (kept rfl), ?_⟩
    · cases signal with
      | ready => exact absurd rfl other
      | expired | interrupted => simp [Turn.point?, move]
    · simpa [move] using operations
  | prepared move =>
    rw [move] at appending
    cases appending
  | @commanded command move after result =>
    have resumes : ¬ turn.Resumes := by
      rintro ⟨_, _, resumes⟩
      cases move.symm.trans resumes
    have operations : r'.operations = r.operations ++ [] := by simpa [move] using operations
    rw [move] at appending
    cases command with
    | inject fault =>
      have point : turn.point? = some (.injected fault) := by simp [Turn.point?, move]
      exact ⟨_, [], .injected point result resumes, after.trans (kept rfl), operations⟩
    | connect =>
      have point : turn.point? = none := by simp [Turn.point?, move]
      refine ⟨_, [], .quiet point result resumes, after.trans ?_, operations⟩
      rw [← kept rfl]
      exact congrArg (fun on => { turn.before.transport with connected := on }) connected.symm
    | events key | eventCount key | token key =>
      have point : turn.point? = none := by simp [Turn.point?, move]
      exact ⟨_, [], .quiet point result resumes, after.trans (kept rfl), operations⟩
    | _ => cases appending
  | @abandoned task move after result =>
    refine ⟨_, [], .quiet ?_ result ?_, after.trans (kept rfl), ?_⟩
    · simp [Turn.point?, move]
    · rintro ⟨_, _, resumes⟩
      cases move.symm.trans resumes
    · simpa [move] using operations

theorem Turn.Serves.keeps {next : Memory} (serves : turn.Serves next)
    (failed : ∀ answer, turn.result ≠ some (.ok answer)) : turn.before.transport.Keeps next := by
  cases serves with
  | @carried _ request result _ _ came ended =>
    cases result with
    | ok token => exact absurd ended (failed _)
    | error fault => exact Memory.keeps_commit came
  | stopped | injected | quiet => exact fun _ => ⟨rfl, rfl⟩

theorem Run.results_concat (turns : r'.turns = r.turns ++ [turn]) {call : CallId}
    (silent : turn.call = some call → turn.result = none) : r'.results call = r.results call := by
  rw [results, turns, List.filterMap_append, results]
  by_cases own : turn.call = some call
  · simp [own, silent own]
  · simp [own]

theorem Run.Course.kept {call : CallId} (course : r.Course call) (turns : r'.turns = r.turns ++ [turn])
    (grown : r.operations <+: r'.operations) (results : r'.results call = r.results call)
    (share : r'.share call = r.share call) (calm : turn.call = some call → ¬ turn.Resumes) :
    r'.Course call := by
  cases course with
  | waiting waits none idle =>
    refine .waiting (fun other member own => ?_) (results.trans none) (share.trans idle)
    rw [turns] at member
    rcases List.mem_append.1 member with old | new
    · exact waits other old own
    · cases List.mem_singleton.1 new
      exact calm own
  | stopped told ended idle =>
    obtain ⟨other, member, own, stops⟩ := told
    refine .stopped ⟨other, ?_, own, stops⟩ (results.trans ended) (share.trans idle)
    rw [turns]
    exact List.mem_append_left _ member
  | carried unstopped asked ended once =>
    refine .carried (fun other member own stops => ?_) (getElem?_grows grown asked)
      (results.trans ended) (share.trans once)
    rw [turns] at member
    rcases List.mem_append.1 member with old | new
    · exact unstopped other old own stops
    · cases List.mem_singleton.1 new
      exact calm own stops.resumes

theorem Run.Course.waits {call : CallId} (course : r.Course call) (unended : r.results call = []) :
    (∀ turn ∈ r.turns, turn.call = some call → ¬ turn.Resumes) ∧ r.share call = [] := by
  cases course with
  | waiting waits _ idle => exact ⟨waits, idle⟩
  | stopped _ ended | carried _ _ ended => cases unended.symm.trans ended

theorem Handled.course (handled : Handled r r' turn) (dormant : r.Dormant) (ends : EndsOnce r')
    {next : Memory}
    (serves : turn.Serves next) {call : CallId} (course : r.Course call) : r'.Course call := by
  have turns := handled.turns
  have grown := handled.grown
  by_cases own : turn.call = some call
  case neg =>
    exact course.kept turns grown (Run.results_concat turns fun own' => absurd own' own)
      (Run.share_other turns own) fun own' => absurd own' own
  -- a turn that ends the call finds it waiting, for it ends only once
  have share := Run.share_concat turns call
  cases serves with
  | @carried call' request result own' point _ ended calm =>
    obtain rfl : call' = call := Option.some.inj (own'.symm.trans own)
    obtain ⟨unended, results⟩ := ends.first turns own ended
    obtain ⟨waits, idle⟩ := course.waits unended
    obtain ⟨call, own'', begun⟩ := handled.called dormant (Turn.of_point point).2.1
    obtain rfl : call = call' := Option.some.inj (own''.symm.trans own)
    refine .carried (fun other member owned stops => ?_) begun results ?_
    · rw [turns] at member
      rcases List.mem_append.1 member with old | new
      · exact waits other old owned stops.resumes
      · cases List.mem_singleton.1 new
        exact calm stops
    · simp [share, idle, point, Point.call?]
  | stopped point stops ended =>
    obtain ⟨unended, results⟩ := ends.first turns own ended
    refine .stopped ⟨turn, ?_, own, stops⟩ results ?_
    · simp [turns]
    · simp [share, (course.waits unended).2, point]
  | injected point silent calm =>
    refine course.kept turns grown (Run.results_concat turns fun _ => silent) ?_ fun _ => calm
    simp [share, point, Point.call?]
  | quiet point silent calm =>
    refine course.kept turns grown (Run.results_concat turns fun _ => silent) ?_ fun _ => calm
    simp [share, point]

/-- The point that a turn is comes after those before it, also where these are taken one after
another. -/
theorem Memory.Serial.serves {points : List Point} {after next : Memory} {calls : List Append}
    (serial : m.Serial points after) (connected : m.connected = true) (serves : turn.Serves next)
    (now : turn.before.transport = { after with calls := calls }) :
    ∃ after', m.Serial (points ++ turn.point?.toList) after' ∧
      ∀ calls, { next with calls := calls } = { after' with calls := calls } := by
  -- the memories differ only in what they have taken down, and no append is decided by that
  cases serves with
  | @carried _ request result _ point came =>
    rw [now, commit_calls] at came
    rw [point, now, commit_calls, ← came]
    exact ⟨_, serial.append (executes (serial.connected connected) request), fun _ => rfl⟩
  | injected point =>
    rw [point, now]
    exact ⟨_, serial.inject, fun _ => rfl⟩
  | stopped point | quiet point =>
    rw [point, now]
    exact ⟨after, by simpa using serial, fun _ => rfl⟩

/-- A run of appends does what its points do one after another. -/
structure Replays (m : Memory) (r : MemoryRun) : Prop where
  ends : EndsOnce r
  dormant : r.Dormant
  serial : ∃ after, m.Serial r.points after ∧ r.session.transport =
    { after with calls := m.calls ++ r.operations.filterMap Operation.request? }
  course : ∀ call, r.Course call
  keeps : ∀ turn ∈ r.turns, (∀ answer, turn.result ≠ some (.ok answer)) →
    turn.before.transport.Keeps turn.after.transport

theorem replays_new (m : Memory) (createStreams : Bool) (maxAttempts : Int) :
    Replays m (.new m createStreams maxAttempts) where
  ends := ends_once_new ..
  dormant task activity under := by cases under
  serial := ⟨m, .nil, by simp [Run.new, Session.new]⟩
  course call := .waiting (fun _ member => absurd member List.not_mem_nil) rfl rfl
  keeps _ member := absurd member List.not_mem_nil

theorem Replays.handled (replays : Replays m r) (connected : m.connected = true)
    (ends : EndsOnce r') (handled : Handled r r' turn) (appending : turn.move.Appending) :
    Replays m r' := by
  obtain ⟨after, serial, now⟩ := replays.serial
  have before := handled.before_transport.trans now
  have open_now : turn.before.transport.connected = true := by
    rw [before]
    exact serial.connected connected
  obtain ⟨next, began, serves, came, operations⟩ := handled.serves replays.dormant appending open_now
  refine ⟨ends, handled.dormant replays.dormant, ?_, fun call =>
    handled.course replays.dormant ends serves (replays.course call), ?_⟩
  · obtain ⟨after', serial', same⟩ := serial.serves connected serves before
    refine ⟨after', Run.points_concat handled.turns ▸ serial', ?_⟩
    have asked : (began.map Operation.append).filterMap Operation.request? = began := by
      rw [List.filterMap_map]
      exact List.filterMap_some
    rw [← handled.after, came, before, same, operations, List.filterMap_append, asked,
      List.append_assoc]
  · intro other member failed
    rw [handled.turns] at member
    rcases List.mem_append.1 member with old | new
    · exact replays.keeps other old failed
    · cases List.mem_singleton.1 new
      rw [came]
      exact serves.keeps failed

end Steps

/-- Whatever appends are made of a connected memory, overlapping or not, with some of them stopped
in their sleep and failures pending: the memory is as if those that went on had been made one after
another, in the order in which they went on, and so are their results. It has taken down all of
them, in the order in which they were made. An append that fails or is stopped changes no stream,
but may create it; the failures go to those that go on, first come, first served. -/
theorem appends_linearizable (m : Memory) (connected : m.connected = true) (createStreams : Bool)
    (maxAttempts : Int) (moves : List (Move Memory.Command Empty))
    (appending : ∀ move ∈ moves, move.Appending) :
    let r : MemoryRun := (Run.new m createStreams maxAttempts).play moves
    (∃ after, m.Serial r.points after ∧ r.session.transport =
      { after with calls := m.calls ++ r.operations.filterMap Operation.request? }) ∧
    (∀ call, r.Course call) ∧
    (∀ turn ∈ r.turns, (∀ answer, turn.result ≠ some (.ok answer)) →
      turn.before.transport.Keeps turn.after.transport) ∧
    Consumes m.failures r.points r.session.transport.failures := by
  intro r
  have replays : Replays m r := by
    refine play_induct (sound_new ..) (replays_new ..) fun r sound replays move member => ?_
    have may := appending move member
    rcases handled_step sound replays.dormant.bare may.direct with stays | ⟨turn, rfl, handled⟩
    · exact stays.symm ▸ replays
    · exact replays.handled connected (ends_once_step replays.ends sound _) handled may
  refine ⟨replays.serial, replays.course, replays.keeps, ?_⟩
  obtain ⟨after, serial, now⟩ := replays.serial
  rw [now]
  exact serial.consumes connected

def throttled : Fault := .plain .transport "throttled" none

/-- A memory in which a failure is pending, and each append sleeps for a second. -/
def awaitingFailure : Memory :=
  { (Memory.new true true (.ofRatio false 1 1)).connect with failures := [throttled] }

/-- Four appends overlap and go on in another order than they were made in; the first is stopped.
The last has the token that the second is yet to return, and goes on before it. -/
def shuffledAppends : List (Move Memory.Command Empty) :=
  [.start 0 (.append ⟨default, .null, [default]⟩), .start 1 (.append ⟨default, .null, [default]⟩),
    .start 2 (.append ⟨default, .null, []⟩), .start 3 (.append ⟨default, numbered 1, []⟩),
    .resume 2 .ready, .resume 0 .interrupted, .resume 3 .ready, .resume 1 .ready]

def shuffledRun : MemoryRun := (Run.new awaitingFailure false 3).play shuffledAppends

/-- The third takes the failure, the fourth is refused, and only the second stores its event. -/
theorem appends_linearizable_shuffled :
    awaitingFailure.connected = true ∧ (∀ move ∈ shuffledAppends, move.Appending) ∧
      shuffledRun.points =
        [.carried 2 ⟨default, .null, []⟩ (.error throttled),
          .carried 3 ⟨default, numbered 1, []⟩ (.error (awaitingFailure.rejection .null)),
          .carried 1 ⟨default, .null, [default]⟩ (.ok (.token (numbered 1)))] ∧
      (∃ after, awaitingFailure.Serial shuffledRun.points after ∧
        shuffledRun.session.transport = { after with
          calls := shuffledRun.operations.filterMap Operation.request? }) ∧
      shuffledRun.Course 0 ∧ shuffledRun.results 0 = [.error .stopped] ∧
      Consumes [throttled] shuffledRun.points [] := by
  have appending : ∀ move ∈ shuffledAppends, move.Appending := by
    simp [shuffledAppends, Move.Appending]
  obtain ⟨serial, course, -, consumes⟩ :=
    appends_linearizable awaitingFailure rfl false 3 shuffledAppends appending
  exact ⟨rfl, appending, rfl, serial, course 0, rfl, consumes⟩

end SequenceLog

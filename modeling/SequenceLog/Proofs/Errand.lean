import SequenceLog.Proofs.Occupancy
/-! What calls are out for. Every turn of a call is about what the call was made for: a batch for a
writer, the writer of a stream, or something of the transport. Main statement: `suited_play`. -/
namespace SequenceLog
open Scenario
variable {τ σ κ μ χ : Type}

inductive Errand where
  | transport
  | search (key : Key)
  | batch (id : WriterId)

def Operation.errand : Operation → Errand
  | .append _ | .ensureStream _ => .transport
  | .getWriter key => .search key
  | .write id _ => .batch id

def Activity.errand : Activity σ → Errand
  | .transport _ => .transport
  | .lookup key _ _ => .search key
  | .batch id _ _ => .batch id

namespace Turn
variable {turn : Turn τ σ κ μ χ}

variable (turn) in
def errand? : Option Errand :=
  match turn.move with
  | .start _ operation => some operation.errand
  | .resume task _ => (turn.before.active task).map Activity.errand
  | _ => none

theorem writer?_of_errand {id : WriterId} (out : turn.errand? = some (.batch id)) :
    turn.writer? = some id := by
  unfold errand? at out
  unfold writer?
  split at out
  · rename_i task operation move
    cases operation <;> cases out
    rw [move]
  · rename_i task signal move
    obtain ⟨activity, under, same⟩ := Option.map_eq_some_iff.1 out
    cases activity <;> cases same
    simp [move, Session.batchOf, under, Activity.writer?]
  · cases out

theorem search?_of_errand {key : Key} (out : turn.errand? = some (.search key)) :
    turn.search? = some key := by
  unfold errand? at out
  unfold search?
  split at out
  · rename_i task operation move
    cases operation <;> cases out
    rw [move]
  · rename_i task signal move
    obtain ⟨activity, under, same⟩ := Option.map_eq_some_iff.1 out
    cases activity <;> cases same
    simp [move, under, Activity.search?]
  · cases out

end Turn

/-- The turns of a call are about what it was made for. -/
structure Suited (r : Run τ σ κ μ χ) : Prop where
  suits : ∀ task activity, r.session.active task = some activity → ∃ operation,
    r.operations[r.call task]? = some operation ∧ operation.errand = activity.errand
  turns : ∀ turn ∈ r.turns, ∀ call, turn.call = some call → ∃ operation,
    r.operations[call]? = some operation ∧ turn.errand? = some operation.errand

namespace Session
variable [Transport τ σ κ] {s : Session τ σ κ}

omit [Transport τ σ κ] in
theorem relay_errand {reply : Reply τ σ κ Token} {activity : Activity σ}
    (goes : (s.relay reply).activity? = some activity) : activity.errand = .transport := by
  simp only [relay, Stepped.activity?] at goes
  cases progress : reply.progress with
  | finished result => simp [progress] at goes
  | suspended stage =>
    rw [progress] at goes
    cases goes
    rfl

omit [Transport τ σ κ] in
theorem Batching.errand {id : WriterId} {events : List LogEvent} {stepped : Stepped τ σ κ}
    (batching : Batching id events stepped.progress) {activity : Activity σ}
    (goes : stepped.activity? = some activity) : activity.errand = .batch id := by
  have writer := batching.writer goes
  cases activity <;> cases writer
  rfl

theorem opening_errand {task : TaskId} {operation : Operation} {activity : Activity σ}
    (goes : (s.opening task operation).activity? = some activity) :
    operation.errand = activity.errand := by
  cases operation with
  | append request | ensureStream key => exact (relay_errand goes).symm
  | getWriter key =>
    have confined : Confined key s.pool.era s (s.startLookup task key) := confined_startLookup task
    obtain ⟨stage, rfl⟩ := confined.activity activity goes
    rfl
  | write id batch =>
    obtain ⟨events, batching⟩ := s.batching_start task id batch
    exact (batching.errand goes).symm

theorem ongoing_errand {task : TaskId} {signal : Signal} {before activity : Activity σ}
    (goes : (s.ongoing task signal before).activity? = some activity) :
    before.errand = activity.errand := by
  cases before with
  | transport stage => exact (relay_errand goes).symm
  | lookup key era stage =>
    obtain ⟨stage, rfl⟩ := (confined_resumeLookup task stage signal).activity activity goes
    rfl
  | batch id events stage =>
    exact ((batching_resumeBatch (s := s) task id events stage signal).errand goes).symm

end Session

section Suited
variable {r r' : Run τ σ κ μ χ}

theorem Suited.writer (suited : Suited r) {turn : Turn τ σ κ μ χ} (member : turn ∈ r.turns)
    {call : CallId} (own : turn.call = some call) {id : WriterId} {batch : Batch}
    (called : r.operations[call]? = some (.write id batch)) : turn.writer? = some id := by
  obtain ⟨operation, called', out⟩ := suited.turns turn member call own
  cases called.symm.trans called'
  exact Turn.writer?_of_errand out

theorem Suited.search (suited : Suited r) {turn : Turn τ σ κ μ χ} (member : turn ∈ r.turns)
    {call : CallId} (own : turn.call = some call) {key : Key}
    (called : r.operations[call]? = some (.getWriter key)) : turn.search? = some key := by
  obtain ⟨operation, called', out⟩ := suited.turns turn member call own
  cases called.symm.trans called'
  exact Turn.search?_of_errand out

theorem suited_new (transport : τ) (createStreams : Bool) (maxAttempts : Int) :
    Suited (.new transport createStreams maxAttempts : Run τ σ κ μ χ) where
  suits _ _ under := by cases under
  turns _ member := by cases member

/-- What an operation was stays known. -/
theorem Run.called_extended (operations : ∃ more, r'.operations = r.operations ++ more)
    {call : CallId} {operation : Operation} (called : r.operations[call]? = some operation) :
    r'.operations[call]? = some operation := by
  obtain ⟨more, operations⟩ := operations
  rw [operations, List.getElem?_append_left (List.getElem?_eq_some_iff.1 called).1, called]

theorem Takes.suited {task : TaskId} {stepped : Stepped τ σ κ} {turn : Turn τ σ κ μ χ}
    {operation : Operation} (takes : Takes r r' task stepped) (suited : Suited r)
    (turns : r'.turns = r.turns ++ [turn]) (belongs : turn.call = some (r'.call task))
    (called : r'.operations[r'.call task]? = some operation)
    (out : turn.errand? = some operation.errand)
    (goes : ∀ activity, stepped.activity? = some activity → operation.errand = activity.errand) :
    Suited r' where
  suits other activity under := by
    by_cases same : other = task
    · subst same
      exact ⟨operation, called, goes activity (takes.active_self ▸ under)⟩
    · rw [takes.active_other same] at under
      obtain ⟨operation, called, suits⟩ := suited.suits other activity under
      rw [takes.others other same]
      exact ⟨operation, Run.called_extended takes.operations called, suits⟩
  turns turn' member call belongs' := by
    rw [turns, List.mem_append, List.mem_singleton] at member
    rcases member with member | rfl
    · obtain ⟨operation, called, out⟩ := suited.turns turn' member call belongs'
      exact ⟨operation, Run.called_extended takes.operations called, out⟩
    · obtain rfl := Option.some.inj (belongs.symm.trans belongs')
      exact ⟨operation, called, out⟩

variable [Transport τ σ κ] [Commanded τ μ χ κ]

theorem suited_step (suited : Suited r) (sound : Sound r) (move : Move μ χ) :
    Suited (r.step move) := by
  have steps := steps_step sound move
  generalize made : r.step move = r' at steps ⊢
  cases steps with
  | stay => exact suited
  | @start task operation _ idle known operations call takes =>
    have called : r'.operations[r'.call task]? = some operation := by
      rw [operations, call, List.getElem?_concat_length]
    exact takes.suited suited (takes.turns_eq made) rfl called rfl fun _ => Session.opening_errand
  | @resume task signal activity _ under operations call takes =>
    obtain ⟨operation, called, suits⟩ := suited.suits task activity under
    have under' : r.session.fresh.active task = some activity := under
    refine takes.suited suited (takes.turns_eq made) rfl (by rw [operations, call, called]) ?_ ?_
    · simp [Turn.errand?, under', suits]
    · exact fun _ goes => suits.trans (Session.ongoing_errand goes)
  | pass between =>
    have active := (Run.pass_extension between).active
    constructor
    · exact fun task activity under => suited.suits task activity (congrFun active task ▸ under)
    · intro turn member call belongs
      rw [Run.pass, List.mem_append, List.mem_singleton] at member
      rcases member with member | rfl
      · exact suited.turns turn member call belongs
      · cases belongs

theorem suited_play (suited : Suited r) (sound : Sound r) (moves : List (Move μ χ)) :
    Suited (r.play moves) :=
  play_induct sound suited fun _ sound suited move _ => suited_step suited sound move

end Suited
end SequenceLog

import Mathlib.Data.Nat.Find
import Mathlib.Order.Bounds.Defs
import SequenceLog.Proofs.Resending
import SequenceLog.Proofs.Retirement
import SequenceLog.Proofs.Serving
import SequenceLog.Proofs.Standing
/-! What a batch comes to. From the turn in which a batch gets the lock of an active writer, the outcomes
of its appends alone say how many of them it sends, what it returns and what it leaves of its writer.
Main statement: `sends_until_decided`. -/
namespace SequenceLog
open Scenario
variable {τ σ κ μ χ : Type}

namespace Run
variable (r : Run τ σ κ μ χ) (id : WriterId)

def deedsOf (call : CallId) : List Deed :=
  (r.chronicle id).filterMap fun entry => if entry.1 = call then some entry.2 else none

/-- The writer was opened to send a batch `n` times at most. -/
def Limits (n : Nat) : Prop :=
  ∃ w, r.opened[id]? = some w ∧ Writer.new? w.key w.registry w.token n = .ok w

end Run

/-- Every writer was opened as writers are, and is so still in how often it may send a batch. -/
structure Limited (r : Run τ σ κ μ χ) : Prop where
  kept : ∀ id w, r.opened[id]? = some w → (r.session.writer id).retries = w.retries
  made : ∀ w ∈ r.opened, w.lock = .free ∧ w.status = .active

theorem Writer.retries_of_new {key : Key} {registry : Registry} {token : Token} {n : Nat} {w : Writer}
    (made : Writer.new? key registry token n = .ok w) : w.retries + 1 = n := by
  unfold Writer.new? at made
  split at made
  · cases made
  · cases made
    simp only [Int.toNat_natCast]
    omega

theorem Limited.limit {r : Run τ σ κ μ χ} {id : WriterId} {n : Nat} (limited : Limited r)
    (limits : r.Limits id n) : (r.session.writer id).retries + 1 = n := by
  obtain ⟨w, opened, made⟩ := limits
  rw [limited.kept id w opened, Writer.retries_of_new made]

theorem limited_new (transport : τ) (createStreams : Bool) (maxAttempts : Int) :
    Limited (.new transport createStreams maxAttempts : Run τ σ κ μ χ) where
  kept _ _ opened := by cases opened
  made _ member := by cases member

section Steps
variable [Transport τ σ κ] [Commanded τ μ χ κ] {r : Run τ σ κ μ χ}

theorem newborn_step (sound : Sound r) (move : Move μ χ) {id : WriterId}
    (late : r.session.writers.length ≤ id) (young : id < (r.step move).session.writers.length) :
    ((r.step move).session.writer id).lock = .free ∧
      ((r.step move).session.writer id).status = .active := by
  have steps := steps_step sound move
  generalize r.step move = r' at steps young ⊢
  have of_apart {s : Session τ σ κ} (apart : r.session.fresh.Apart s)
      (same : r'.session.writers = s.writers) : (r'.session.writer id).lock = .free ∧
        (r'.session.writer id).status = .active := by
    rw [Session.writer, same]
    exact apart.newborn late (same ▸ young)
  have of_length (same : r'.session.writers.length = r.session.writers.length) :
      (r'.session.writer id).lock = .free ∧ (r'.session.writer id).status = .active :=
    absurd (same ▸ young) (Nat.not_lt.2 late)
  cases steps with
  | stay => exact of_length rfl
  | @start task operation _ idle known operations call takes =>
    cases operation with
    | append | ensureStream => exact of_apart Session.apart_absorb takes.writers
    | getWriter => exact of_apart Session.apart_startLookup takes.writers
    | write busy batch =>
      exact of_length (takes.writers ▸ (Session.within_startBatch (s := r.session.fresh)
        (known busy batch rfl) task batch).length)
  | @resume task signal activity _ under operations call takes =>
    cases activity with
    | transport => exact of_apart Session.apart_absorb takes.writers
    | lookup => exact of_apart Session.apart_resumeLookup takes.writers
    | batch busy events stage =>
      exact of_length (takes.writers ▸ (Session.within_resumeBatch (s := r.session.fresh)
        (sound.asked task busy events stage under).1 task events stage signal).length)
  | @pass move between =>
    cases move with
    | start | resume => cases between
    | abandon task =>
      refine of_length ?_
      simp only [Run.pass, Session.play, Session.abandon]
      split <;> simp [Session.fresh, Session.setKeyLock]
    | openWriter => exact of_apart Session.apart_openWriter rfl
    | remove => exact of_apart Session.apart_remove rfl
    | closePool => exact of_length rfl
    | command | chore => exact of_apart Session.apart_absorb rfl

theorem retries_step (sound : Sound r) {id : WriterId} (known : id < r.session.writers.length)
    (move : Move μ χ) :
    ((r.step move).session.writer id).retries = (r.session.writer id).retries := by
  rcases r.turns_step move with same | ⟨turn, turns, -⟩
  · rw [Run.step_of_turns same]
  · by_cases own : turn.writer? = some id
    · obtain ⟨-, task, stepped, takes, plays, -⟩ := plays_step sound turns own
      exact takes.writer id ▸ plays.retries
    · obtain ⟨lock, writer, -⟩ := (steady_step sound known turns own).writer
      exact congrArg (·.retries) writer

theorem Run.grows_step (sound : Sound r) (move : Move μ χ) :
    (∃ later, (r.step move).turns = r.turns ++ later) ∧
      (∃ more, (r.step move).operations = r.operations ++ more) ∧
      (r.step move).opened =
        r.opened ++ (r.step move).session.writers.drop r.session.writers.length := by
  have steps := steps_step sound move
  generalize r.step move = r' at steps ⊢
  cases steps with
  | stay => exact ⟨⟨[], by simp⟩, ⟨[], by simp⟩, by simp⟩
  | start _ _ _ _ takes | resume _ _ _ takes =>
    obtain ⟨made, turns⟩ := takes.turns
    exact ⟨⟨_, turns⟩, takes.operations, takes.opened⟩
  | pass => exact ⟨⟨_, rfl⟩, ⟨[], by simp [Run.pass]⟩, r.opened_pass _ _⟩

theorem Run.longer_step (sound : Sound r) (move : Move μ χ) :
    r.session.writers.length ≤ (r.step move).session.writers.length := by
  have steps := steps_step sound move
  generalize r.step move = r' at steps ⊢
  cases steps with
  | stay => exact Nat.le_refl _
  | start _ _ _ _ takes | resume _ _ _ takes => exact takes.longer
  | pass between => exact (Run.pass_extension between).longer

theorem Run.key_play (sound : Sound r) {id : WriterId} (known : id < r.session.writers.length)
    (moves : List (Move μ χ)) :
    ((r.play moves).session.writer id).key = (r.session.writer id).key := by
  have kept : id < (r.play moves).session.writers.length ∧
      ((r.play moves).session.writer id).key = (r.session.writer id).key := by
    refine play_induct (motive := fun r' => id < r'.session.writers.length ∧
        (r'.session.writer id).key = (r.session.writer id).key) sound ⟨known, rfl⟩
      fun r' sound ⟨known, key⟩ move _ => ?_
    refine ⟨Nat.lt_of_lt_of_le known (Run.longer_step sound move), Eq.trans ?_ key⟩
    have steps := steps_step sound move
    generalize r'.step move = r'' at steps ⊢
    cases steps with
    | stay => rfl
    | start _ _ _ _ takes | resume _ _ _ takes => exact takes.key known
    | pass between => exact (Run.pass_extension between).key known
  exact kept.2

theorem limited_step (sound : Sound r) (limited : Limited r) (move : Move μ χ) :
    Limited (r.step move) where
  made w member := by
    obtain ⟨-, -, grown⟩ := Run.grows_step sound move
    rw [grown, List.mem_append] at member
    rcases member with old | new
    · exact limited.made w old
    · obtain ⟨i, there⟩ := List.mem_iff_getElem?.1 new
      rw [List.getElem?_drop] at there
      have newborn := newborn_step sound move (Nat.le_add_right _ i)
        (List.getElem?_eq_some_iff.1 there).1
      simpa [Session.writer, there] using newborn
  kept id w opened := by
    obtain ⟨-, -, grown⟩ := Run.grows_step sound move
    by_cases old : id < r.session.writers.length
    · rw [grown, List.getElem?_append_left (sound.opened.symm ▸ old)] at opened
      rw [retries_step sound old move, limited.kept id w opened]
    · have late := Nat.le_of_not_lt old
      rw [grown, List.getElem?_append_right (sound.opened.symm ▸ late), List.getElem?_drop,
        sound.opened, Nat.add_sub_cancel' late] at opened
      simp [Session.writer, opened]

theorem limited_play (sound : Sound r) (limited : Limited r) (moves : List (Move μ χ)) :
    Limited (r.play moves) :=
  play_induct sound limited fun _ sound limited move _ => limited_step sound limited move

theorem Run.grows_play (sound : Sound r) (moves : List (Move μ χ)) :
    (∃ more, (r.play moves).operations = r.operations ++ more) ∧
      ∃ more, (r.play moves).opened = r.opened ++ more := by
  induction moves generalizing r with
  | nil => exact ⟨⟨[], by simp [play]⟩, ⟨[], by simp [play]⟩⟩
  | cons move moves ih =>
    obtain ⟨-, ⟨begun, operations⟩, opened⟩ := Run.grows_step sound move
    obtain ⟨⟨begun', operations'⟩, ⟨more, opened'⟩⟩ := ih (sound_step sound move)
    rw [operations, List.append_assoc] at operations'
    rw [opened, List.append_assoc] at opened'
    exact ⟨⟨_, operations'⟩, ⟨_, opened'⟩⟩

theorem Run.made_at {moves : List (Move μ χ)} {turn : Turn τ σ κ μ χ} {i : Nat}
    (there : (r.play moves).turns[i]? = some turn) (new : r.turns.length ≤ i) :
    ∃ front move later, moves = front ++ move :: later ∧ (r.play front).turns.length = i ∧
      ((r.play front).step move).turns = (r.play front).turns ++ [turn] := by
  induction moves generalizing r with
  | nil => exact absurd (List.getElem?_eq_some_iff.1 there).1 (Nat.not_lt.2 new)
  | cons move moves ih =>
    rcases r.turns_step move with same | ⟨last, turns, -⟩
    · obtain ⟨front, next, later, rfl, count, made⟩ := ih (r := r.step move) there (same ▸ new)
      exact ⟨move :: front, next, later, rfl, count, made⟩
    · rcases Nat.eq_or_lt_of_le new with now | later
      · obtain ⟨more, all⟩ := Run.turns_play (r.step move) moves
        have there : ((r.step move).play moves).turns[i]? = some turn := there
        rw [all, turns, ← now, List.append_assoc] at there
        obtain rfl : last = turn := by simpa using there
        exact ⟨[], move, moves, rfl, now, turns⟩
      · obtain ⟨front, next, later, rfl, count, made⟩ :=
          ih (r := r.step move) there (by simp only [turns, List.length_append]; exact later)
        exact ⟨move :: front, next, later, rfl, count, made⟩

theorem Run.made_of_mem {moves : List (Move μ χ)} {turn : Turn τ σ κ μ χ}
    (member : turn ∈ (r.play moves).turns) : turn ∈ r.turns ∨ ∃ front move later,
      moves = front ++ move :: later ∧
        ((r.play front).step move).turns = (r.play front).turns ++ [turn] := by
  obtain ⟨i, there⟩ := List.mem_iff_getElem?.1 member
  by_cases old : i < r.turns.length
  · obtain ⟨later, all⟩ := Run.turns_play r moves
    rw [all, List.getElem?_append_left old] at there
    exact .inl (List.mem_of_getElem? there)
  · obtain ⟨front, move, later, same, -, made⟩ := Run.made_at there (Nat.le_of_not_lt old)
    exact .inr ⟨front, move, later, same, made⟩

end Steps

theorem Lawful.sender_of_mem {key : Key} {token : Token} {asks : CallId → List LogEvent → Prop}
    {h : Chronicle} {lane : Lane} (lawful : Lawful key token asks h lane) :
    ∀ entry ∈ h, entry.1 ∈ Chronicle.senders h := by
  have grown {past : Chronicle} {call : CallId} {deed : Deed}
      (ih : ∀ entry ∈ past, entry.1 ∈ Chronicle.senders past)
      (sent : call ∈ Chronicle.senders (past ++ [(call, deed)])) :
      ∀ entry ∈ past ++ [(call, deed)], entry.1 ∈ Chronicle.senders (past ++ [(call, deed)]) := by
    intro entry member
    rcases List.mem_append.1 member with old | last
    · rw [Chronicle.senders_append]
      exact List.mem_append_left _ (ih entry old)
    · rw [List.mem_singleton.1 last]
      exact sent
  induction lawful with
  | nil => simp
  | first _ _ _ ih | again _ _ ih => exact grown ih (by simp)
  | accepted lawful ih | stopped lawful _ ih | refused lawful _ ih | retired lawful ih =>
    exact grown ih (by simpa using (lawful.served rfl).2)

section Deeds
variable {r r' : Run τ σ κ μ χ} {id : WriterId} {call : CallId}

theorem Run.deedsOf_congr (same : r'.chronicle id = r.chronicle id) :
    r'.deedsOf id call = r.deedsOf id call := by
  rw [deedsOf, same, deedsOf]

theorem Run.deedsOf_concat {turn : Turn τ σ κ μ χ} (turns : r'.turns = r.turns ++ [turn]) :
    r'.deedsOf id call =
      r.deedsOf id call ++ if turn.call = some call then turn.after.deeds id else [] := by
  rw [deedsOf, chronicle_step turns, List.filterMap_append, deedsOf, Turn.deeds.eq_def]
  cases own : turn.call with
  | none => simp
  | some other =>
    by_cases same : other = call
    · simp [same, List.filterMap_map]
    · simp [same, List.filterMap_map]

theorem Takes.deedsOf {task : TaskId} {stepped : Stepped τ σ κ} (takes : Takes r r' task stepped) :
    r'.deedsOf id call =
      r.deedsOf id call ++ if r'.call task = call then stepped.session.deeds id else [] := by
  obtain ⟨move, turns⟩ := takes.turns
  simp [Run.deedsOf_concat turns, takes.deeds]

theorem Run.deedsOf_of_silent (silent : ∀ entry ∈ r.chronicle id, entry.1 ≠ call) :
    r.deedsOf id call = [] := by
  rw [deedsOf, List.filterMap_eq_nil_iff]
  intro entry member
  rw [if_neg (silent entry member)]

end Deeds

/-- How a call fares from the turn on in which it gets the lock of the active writer `w`: it has an
append under way, or it is over. -/
inductive Fares (r : Run τ σ κ μ χ) (id : WriterId) (call : CallId) (w : Writer)
    (events : List LogEvent) : Prop
  | trying {task left stage sent} :
      r.session.active task = some (.batch id events (.sending left stage)) → r.call task = call →
      Trying w.key w.token events sent (r.deedsOf id call) → sent + left = w.retries + 1 →
      (∃ lock, r.session.writer id = { w with lock := lock }) → r.results call = [] →
      Fares r id call w events
  | tried {last token status result} : last ∈ r.turns → last.call = some call →
      last.result = some result → r.results call = [result] →
      Tried w.key w.token events (w.retries + 1) (r.deedsOf id call) token status result →
      (last.after.writer id).token = token → (last.after.writer id).status = status →
      call < r.operations.length → Fares r id call w events

section Fares
variable {r r' : Run τ σ κ μ χ} {task : TaskId} {stepped : Stepped τ σ κ} {id : WriterId}
  {w : Writer} {events : List LogEvent}

theorem Takes.fares {s : Session τ σ κ} {lock : Mutex} {turn : Turn τ σ κ μ χ}
    (takes : Takes r r' task stepped) (turns : r'.turns = r.turns ++ [turn])
    (call : turn.call = some (r'.call task)) (after : turn.after = r'.session)
    (result : turn.result = stepped.result?)
    (unended : r.results (r'.call task) = [])
    (tries : s.Tries id events (w.retries + 1) (r.deedsOf id (r'.call task)) stepped)
    (quiet : s.deeds id = []) (writer : s.writer id = { w with lock := lock }) :
    Fares r' id (r'.call task) w events := by
  have grown : r'.deedsOf id (r'.call task) = r.deedsOf id (r'.call task) ++ _ := takes.deedsOf
  rw [if_pos rfl] at grown
  have results := takes.results (r'.call task)
  rw [if_pos rfl, unended, List.nil_append] at results
  cases tries with
  | waits deeds trying budget same progress =>
    rw [quiet, List.nil_append] at deeds
    rw [writer, ← deeds, ← grown] at trying
    have under := takes.active_self
    rw [Stepped.activity?, progress] at under
    exact .trying under rfl trying budget ⟨lock, by rw [takes.writer, same, writer]⟩
      (by simpa [Stepped.result?, progress] using results)
  | ends deeds tried same progress =>
    rw [quiet, List.nil_append] at deeds
    rw [writer, ← deeds, ← grown] at tried
    have left : turn.after.writer id = stepped.session.writer id := by rw [after, takes.writer]
    refine .tried (by simp [turns]) call ?_ ?_ tried (by rw [left, same]) (by rw [left, same])
      takes.begun
    · simp [result, Stepped.result?, progress]
    · simpa [Stepped.result?, progress] using results

variable [Transport τ σ κ] [Commanded τ μ χ κ]

theorem Run.ended_step (sound : Sound r) (ends : EndsOnce r) {call : CallId}
    (begun : call < r.operations.length) (ended : r.results call ≠ []) (move : Move μ χ) :
    (r.step move).deedsOf id call = r.deedsOf id call ∧
      (r.step move).results call = r.results call := by
  have steps := steps_step sound move
  generalize r.step move = r' at steps ⊢
  cases steps with
  | stay => exact ⟨rfl, rfl⟩
  | @start task operation _ idle known operations new takes =>
    have different : r'.call task ≠ call := new ▸ Nat.ne_of_gt begun
    rw [takes.deedsOf, takes.results, if_neg different, if_neg different]
    simp
  | @resume task signal activity _ under operations same takes =>
    have different : r'.call task ≠ call := by
      rintro rfl
      exact ended (same ▸ ends.underway task (by simp [under]))
    rw [takes.deedsOf, takes.results, if_neg different, if_neg different]
    simp
  | pass between =>
    exact ⟨Run.deedsOf_congr (Run.chronicle_pass ..), Run.results_pass ..⟩

theorem fares_step {call : CallId} (sound : Sound r) (ends : EndsOnce r)
    (active : w.status = .active) (fares : Fares r id call w events) (move : Move μ χ) :
    Fares (r.step move) id call w events := by
  cases fares with
  | @trying task left stage sent under own trying budget writer unended =>
    obtain ⟨lock, writer⟩ := writer
    have known := (sound.asked task id events _ under).1
    have ends' := ends_once_step ends sound move
    have attends := attends_step sound under move
    generalize made : r.step move = r' at attends ends' ⊢
    cases attends with
    | stands stands =>
      obtain ⟨lock', writer'⟩ := stands.writer
      refine .trying (stands.active.trans under) (stands.call.trans own) ?_ budget
        ⟨lock', by rw [writer', writer]⟩ ?_
      · rwa [Run.deedsOf_congr stands.chronicle]
      · rw [← own, ← stands.call]
        exact ends'.underway task (by simp [stands.active, under])
    | @hears signal _ takes same =>
      subst own
      rw [Session.resumeBatch_sending] at takes
      have turns := takes.turns_eq made
      rw [← same] at trying unended ⊢
      let absorbed := r.session.fresh.absorb (Transport.resume r.session.transport stage signal)
      have writer' : absorbed.writer id = { w with lock := lock } := writer
      have tries : Session.Tries id events (w.retries + 1) (r.deedsOf id (r'.call task)) absorbed
          (absorbed.pursue id events left
            (Transport.resume r.session.transport stage signal).progress) :=
        Session.tries_pursue (s := absorbed) known (by rw [writer', active])
          (by rw [writer']; exact trying) budget _
      exact takes.fares turns rfl rfl rfl unended tries (by simp [absorbed]; rfl) writer'
  | @tried last token status result member own ended results tried leftToken leftStatus begun =>
    have still : (r.step move).deedsOf id call = r.deedsOf id call ∧ _ :=
      Run.ended_step sound ends begun (by simp [results]) move
    obtain ⟨⟨later, turns⟩, ⟨more, operations⟩, -⟩ := Run.grows_step sound move
    refine .tried (by simp [turns, member]) own ended (still.2.trans results) ?_ leftToken leftStatus
      (by simpa [operations] using Nat.lt_add_right _ begun)
    rwa [still.1]

theorem fares_play {call : CallId} (sound : Sound r) (ends : EndsOnce r)
    (active : w.status = .active) (fares : Fares r id call w events) (moves : List (Move μ χ)) :
    Fares (r.play moves) id call w events := by
  have both : EndsOnce (r.play moves) ∧ Fares (r.play moves) id call w events :=
    play_induct (motive := fun r => EndsOnce r ∧ Fares r id call w events) sound ⟨ends, fares⟩
      fun _ sound ⟨ends, fares⟩ move _ =>
        ⟨ends_once_step ends sound move, fares_step sound ends active fares move⟩
  exact both.2

omit [Transport τ σ κ] [Commanded τ μ χ κ] in
theorem Attended.silent {lane : Lane} {call : CallId} (attended : Attended r id lane)
    (late : lane.horizon ≤ call) : r.deedsOf id call = [] := by
  apply Run.deedsOf_of_silent
  rintro entry member rfl
  have before := attended.lawful.senders_before _ (attended.lawful.sender_of_mem entry member)
  exact Nat.not_lt.2 late before

/-- The run goes on with the turn in which a batch gets the lock of a writer. -/
structure Admits (r r' : Run τ σ κ μ χ) (turn : Turn τ σ κ μ χ) (id : WriterId) (call : CallId)
    (events : List LogEvent) : Prop where
  known : id < r.session.writers.length
  turns : r'.turns = r.turns ++ [turn]
  before : turn.before = r.session.fresh
  after : turn.after = r'.session
  asked : r'.Asks id call events
  unended : r.results call = []
  silent : r.deedsOf id call = []
  served : ∃ task lock, turn.call = some (r'.call task) ∧ r'.call task = call ∧
    let locked := r.session.fresh.setWriter id { r.session.writer id with lock := lock }
    Takes r r' task (locked.sendBatch id events) ∧
      turn.result = (locked.sendBatch id events).result?

omit [Commanded τ μ χ κ] in
theorem Admits.fares {turn : Turn τ σ κ μ χ} {call : CallId}
    (admits : Admits r r' turn id call events) (active : (r.session.writer id).status = .active) :
    Fares r' id call (r.session.writer id) events := by
  obtain ⟨task, lock, own, rfl, takes, result⟩ := admits.served
  have tries := Session.tries_locked (s := r.session.fresh) admits.known active events lock
  rw [← admits.silent] at tries
  exact takes.fares admits.turns own admits.after result admits.unended tries rfl
    (Session.writer_setWriter_self r.session.fresh id _ admits.known)

theorem admits_step {call : CallId} (sound : Sound r) (ends : EndsOnce r) {move : Move μ χ}
    {turn : Turn τ σ κ μ χ} (turns : (r.step move).turns = r.turns ++ [turn])
    (own : turn.call = some call) (enters : turn.Enters id) :
    ∃ events, Admits r (r.step move) turn id call events := by
  have steps := steps_step sound move
  generalize made : r.step move = r' at steps turns ⊢
  cases steps with
  | stay => simp at turns
  | @start task operation _ idle known operations new takes =>
    have last := takes.turns_eq made
    obtain rfl : _ = turn := by simpa using last.symm.trans turns
    obtain rfl : r'.call task = call := Option.some.inj own
    cases operation with
    | append | ensureStream | getWriter => exact enters.elim
    | write busy batch =>
      obtain ⟨rfl, nonempty, ⟨events, serialized⟩, available⟩ := enters
      have known := known busy batch rfl
      obtain ⟨lane, attended⟩ := sound.attended busy known
      -- a call that begins now comes after all that the chronicle knows
      have late : lane.horizon ≤ r'.call task := by
        rw [new]
        exact attended.lawful.horizon_le fun _ _ asked => asked.bound
      have asked : r'.Asks busy (r'.call task) events :=
        ⟨batch, by rw [operations, new, List.getElem?_concat_length], nonempty, serialized⟩
      refine ⟨events, known, turns, rfl, rfl, asked, new ▸ ends.unborn _ (Nat.le_refl _),
        attended.silent late, task, (r.session.writer busy).lock.take, rfl, rfl, ?_⟩
      have starts := r.session.fresh.starts task busy batch
      change Takes r r' task (r.session.fresh.startBatch task busy batch) at takes
      change _ ∧ (r.session.fresh.startBatch task busy batch).result? = _
      generalize r.session.fresh.startBatch task busy batch = stepped at starts takes ⊢
      cases starts with
      | empty empty => exact absurd empty nonempty
      | unserialized failed => cases failed.symm.trans serialized
      | joins _ taken => cases taken.symm.trans available
      | enters _ serialized' =>
        cases serialized'.symm.trans serialized
        exact ⟨takes, rfl⟩
  | @resume task signal activity _ under operations same takes =>
    have last := takes.turns_eq made
    obtain rfl : _ = turn := by simpa using last.symm.trans turns
    obtain rfl : r'.call task = call := Option.some.inj own
    cases signal with
    | expired | interrupted => exact enters.elim
    | ready =>
      obtain ⟨⟨events, queued⟩, granted⟩ := enters
      cases under.symm.trans queued
      obtain ⟨known, asks⟩ := sound.asked task id events .queued under
      obtain ⟨lane, attended⟩ := sound.attended id known
      have late : lane.horizon ≤ r'.call task := same ▸ attended.ordered.of_granted granted
      refine ⟨events, known, turns, rfl, rfl, same ▸ asks.mono ⟨[], by simp [operations]⟩,
        same ▸ ends.underway task (by simp [under]), attended.silent late, task,
        (r.session.writer id).lock.enter task, rfl, rfl, ?_⟩
      have resumes := r.session.fresh.resumes task id events .queued .ready
      change Takes r r' task (r.session.fresh.resumeBatch task id events .queued .ready) at takes
      change _ ∧ (r.session.fresh.resumeBatch task id events .queued .ready).result? = _
      generalize r.session.fresh.resumeBatch task id events .queued .ready = stepped
        at resumes takes ⊢
      cases resumes with
      | stays waiting => cases waiting.symm.trans granted
      | leaves other => exact absurd rfl other
      | enters => exact ⟨takes, rfl⟩
  | @pass _ between =>
    obtain rfl : _ = turn := by simpa [Run.pass] using turns
    cases move with
    | start | resume => cases between
    | _ => exact enters.elim

theorem retries_play (sound : Sound r) (known : id < r.session.writers.length)
    (moves : List (Move μ χ)) :
    ((r.play moves).session.writer id).retries = (r.session.writer id).retries := by
  have kept : id < (r.play moves).session.writers.length ∧
      ((r.play moves).session.writer id).retries = (r.session.writer id).retries :=
    play_induct (motive := fun r' => id < r'.session.writers.length ∧
        (r'.session.writer id).retries = (r.session.writer id).retries) sound ⟨known, rfl⟩
      fun _ sound ⟨known, retries⟩ move _ =>
        ⟨Nat.lt_of_lt_of_le known (Run.longer_step sound move),
          (retries_step sound known move).trans retries⟩
  exact kept.2

theorem fares_of_enters {call : CallId} {moves : List (Move μ χ)} {turn : Turn τ σ κ μ χ}
    (sound : Sound r) (ends : EndsOnce r) (member : turn ∈ (r.play moves).turns)
    (new : turn ∉ r.turns) (own : turn.call = some call) (enters : turn.Enters id)
    (active : (turn.before.writer id).status = .active) :
    ∃ events, (r.play moves).Asks id call events ∧
      ((r.play moves).session.writer id).retries = (turn.before.writer id).retries ∧
      Fares (r.play moves) id call (turn.before.writer id) events := by
  obtain ⟨front, move, later, rfl, made⟩ := (Run.made_of_mem member).resolve_left new
  have sound₀ := sound_play sound front
  have ends₀ := ends_once_play ends sound front
  have sound₁ := sound_step sound₀ move
  obtain ⟨events, admits⟩ := admits_step sound₀ ends₀ made own enters
  have writer : (r.play front).session.writer id = turn.before.writer id :=
    (congrArg (·.writer id) admits.before).symm
  obtain ⟨operations, -⟩ := Run.grows_play sound₁ later
  have split : r.play (front ++ move :: later) = ((r.play front).step move).play later :=
    Run.play_append ..
  rw [split, ← writer]
  refine ⟨events, admits.asked.mono operations, ?_, ?_⟩
  · have known := Nat.lt_of_lt_of_le admits.known (Run.longer_step sound₀ move)
    exact (retries_play sound₁ known later).trans (retries_step sound₀ admits.known move)
  · rw [← writer] at active
    exact fares_play sound₁ (ends_once_step ends₀ sound₀ move) active (admits.fares active) later

end Fares

/-- The outcome with this number decides a batch that is allowed `n` appends: the append succeeded, its
failure tells no token to try again with, or it was the last. -/
def Decides (n : Nat) (outcomes : Nat → Except Fault Token) (k : Nat) : Prop :=
  (∃ token, outcomes k = .ok token) ∨
    (∃ fault, outcomes k = .error fault ∧ fault.expected? = none) ∨ k = n

/-- What the last outcome of a batch makes of its result, of its writer `w`, and of what the registry
is asked to forget. -/
def Writer.Leaves (w : Writer) (outcome : Except Fault Token) (result : Except Fault Answer)
    (after : Writer) (removals : List Key) : Prop :=
  match outcome with
  | .ok token =>
    result = .ok .nothing ∧ after.token = token ∧ after.status = .active ∧ removals = []
  | .error fault =>
    result = .error (.unrecoverable w.key.group w.key.stream fault true) ∧ after.token = w.token ∧
      after.status = .invalidated ∧ removals = [w.key]

section Decisions
variable {key : Key} {token : Token} {events : List LogEvent} {sent n : Nat} {deeds : List Deed}
  {outcomes : Nat → Except Fault Token}

/-- The outcomes of the appends that have ended are the first of these. -/
def Deed.Meets (deeds : List Deed) (outcomes : Nat → Except Fault Token) : Prop :=
  ∀ i outcome, (Deed.outcomes deeds)[i]? = some outcome → outcomes (i + 1) = outcome

/-- As long as a batch goes on, nothing is decided. -/
theorem Trying.undecided (trying : Trying key token events sent deeds) (allowed : sent ≤ n)
    (met : Deed.Meets deeds outcomes) {k : Nat} (least : 1 ≤ k) (decides : Decides n outcomes k) :
    sent ≤ k := by
  apply Nat.le_of_not_lt
  intro before
  have count := trying.outcomes
  have there : k - 1 < (Deed.outcomes deeds).length := by omega
  obtain ⟨fault, refused, -, told⟩ := trying.refused _ (List.getElem_mem there)
  have outcome := met (k - 1) _ (List.getElem?_eq_getElem there)
  rw [refused, Nat.sub_add_cancel least] at outcome
  rcases decides with ⟨token, accepted⟩ | ⟨fault', failed, untold⟩ | last
  · cases accepted.symm.trans outcome
  · cases failed.symm.trans outcome
    simp [untold] at told
  · omega

/-- The outcome of the append under way is the first to decide, if it decides. -/
theorem Trying.decided (trying : Trying key token events sent deeds) (allowed : sent ≤ n)
    {result : Except Fault Token} {more : List Deed} (last : Deed.outcomes more = [result])
    (met : Deed.Meets (deeds ++ more) outcomes)
    (decides : outcomes sent = result → Decides n outcomes sent) :
    IsLeast {k | 1 ≤ k ∧ Decides n outcomes k} sent ∧ outcomes sent = result ∧
      (Deed.outcomes (deeds ++ more)).length = sent := by
  have count := trying.outcomes
  have all : Deed.outcomes (deeds ++ more) = Deed.outcomes deeds ++ [result] := by
    rw [Deed.outcomes_append, last]
  have outcome : outcomes sent = result := by
    rw [← count]
    exact met _ _ (by rw [all, List.getElem?_concat_length])
  have before : Deed.Meets deeds outcomes := fun i outcome there =>
    met i outcome (by
      rw [all, List.getElem?_append_left (List.getElem?_eq_some_iff.1 there).1, there])
  exact ⟨⟨⟨trying.pos, decides outcome⟩, fun k later =>
    trying.undecided allowed before later.1 later.2⟩, outcome, by simp [all, count]⟩

/-- A batch that is over, and was not cancelled, is so by the first outcome that decides. -/
theorem Tried.leaves {w after : Writer} {status : Status} {result : Except Fault Answer}
    (tried : Tried w.key w.token events n deeds token status result)
    (sameToken : after.token = token) (sameStatus : after.status = status)
    (failures : ∀ k fault, outcomes k = .error fault → fault.isFailure = true)
    (met : Deed.Meets deeds outcomes) :
    ∃ k, IsLeast {k | 1 ≤ k ∧ Decides n outcomes k} k ∧
      (∀ request ∈ Deed.requests deeds, request.key = w.key ∧ request.events = events) ∧
      (Deed.outcomes deeds).length = k ∧ (Deed.requests deeds).length = k ∧
      w.Leaves (outcomes k) result after (Deed.removals deeds) := by
  cases tried with
  | @returned sent deeds next trying allowed =>
    obtain ⟨least, outcome, count⟩ := trying.decided allowed rfl met fun last => .inl ⟨_, last⟩
    refine ⟨sent, least, by simpa using trying.carries, count, by simp [trying.requests], ?_⟩
    rw [outcome]
    exact ⟨rfl, sameToken, sameStatus, by simp [trying.removals]⟩
  | @stopped sent deeds fault trying allowed passed =>
    -- the outcome would be a cancellation
    have count := trying.outcomes
    have outcome := failures _ fault (met (Deed.outcomes deeds).length (.error fault) (by simp))
    cases passed.symm.trans outcome
  | @failed sent deeds fault trying allowed failed last =>
    have ending : Deed.outcomes [.settled (.error fault), .removed w.key] = [.error fault] := rfl
    obtain ⟨least, outcome, count⟩ := trying.decided allowed ending met
      fun outcome => .inr (last.imp_left fun untold => ⟨fault, outcome, untold⟩)
    refine ⟨sent, least, by simpa using trying.carries, count, by simp [trying.requests], ?_⟩
    rw [outcome]
    exact ⟨rfl, sameToken, sameStatus, by simp [trying.removals]⟩

end Decisions

end SequenceLog

import SequenceLog.Proofs.Search
import SequenceLog.Proofs.Soundness
/-! What a transport keeps up. A property of a transport that none of its operations breaks is kept
by every turn, along with what it says about the operations that are suspended in the transport, and
so holds in every run. A turn may be known to append to some streams only. Main statements:
`Session.upholds_opening` and `upheld_play`. -/
namespace SequenceLog
open Scenario
variable {τ σ κ μ χ : Type}

/-- Where an operation is suspended in the transport. -/
def Activity.stage? : Activity σ → Option σ
  | .transport stage | .lookup _ _ (.preparing stage) | .batch _ _ (.sending _ stage) => some stage
  | _ => none

/-- The stream that an operation under way is about. -/
def Activity.key? (writers : List Writer) : Activity σ → Option Key
  | .transport _ => none
  | .lookup key _ _ => some key
  | .batch id _ _ => some ((writers[id]?).getD default).key

/-- The stream that an operation is about. -/
def Operation.key? (writers : List Writer) : Operation → Option Key
  | .append request => some request.key
  | .ensureStream key | .getWriter key => some key
  | .write id _ => some ((writers[id]?).getD default).key

section Property
variable (holds : τ → Prop) (fits : σ → Prop)

/-- The transport has the property afterwards, and so has a stage in which it suspends. -/
structure Reply.Upholds (reply : Reply τ σ κ Token) : Prop where
  state : holds reply.state
  stage : ∀ stage, reply.progress = .suspended stage → fits stage

structure Stepped.Upholds (stepped : Stepped τ σ κ) : Prop where
  transport : holds stepped.session.transport
  stage : ∀ activity stage, stepped.activity? = some activity → activity.stage? = some stage →
    fits stage

structure Session.Upheld (s : Session τ σ κ) : Prop where
  transport : holds s.transport
  stage : ∀ task activity stage, s.active task = some activity → activity.stage? = some stage →
    fits stage

/-- No operation of the transport breaks the property, if only such streams are appended to. -/
structure Upkeep [Transport τ σ κ] (target : Key → Prop) : Prop where
  append : ∀ {t : τ}, holds t → ∀ request, target request.key →
    (Transport.append t request).Upholds holds fits
  ensureStream : ∀ {t : τ}, holds t → ∀ key, (Transport.ensureStream t key).Upholds holds fits
  resume : ∀ {t : τ} {stage : σ}, holds t → fits stage → ∀ signal,
    (Transport.resume t stage signal).Upholds holds fits

end Property

section Steps
variable {holds : τ → Prop} {fits : σ → Prop} {target : Key → Prop} {s : Session τ σ κ}
  {id : WriterId} {events : List LogEvent} {key : Key} {era : Nat} {task : TaskId}

theorem Session.upholds_finished (held : holds s.transport) (result : Except Fault Answer) :
    (s.finished result).Upholds holds fits :=
  ⟨held, fun _ _ goes => by cases goes⟩

theorem Session.upholds_queued (held : holds s.transport) {activity : Activity σ}
    (queued : activity.stage? = none) : (s.suspended activity).Upholds holds fits :=
  ⟨held, fun _ _ goes waits => by cases goes; cases queued.symm.trans waits⟩

theorem Session.upholds_relay {reply : Reply τ σ κ Token} (upholds : reply.Upholds holds fits) :
    (s.relay reply).Upholds holds fits := by
  refine ⟨upholds.state, fun activity stage goes waits => ?_⟩
  simp only [relay, Stepped.activity?] at goes
  split at goes
  · rename_i progress
    split at progress
    · rename_i own
      cases progress
      cases goes
      cases waits
      exact upholds.stage _ own
    · cases progress
  · cases goes

theorem Session.upholds_openPrepared (held : holds s.transport) (prepared : Except Fault Token) :
    (s.openPrepared key era prepared).Upholds holds fits := by
  unfold openPrepared
  split
  · exact upholds_finished (s.releaseKey_transport era ▸ held) _
  · exact upholds_finished ((releaseKey_transport (s := _) era).symm ▸ held) _

variable [Transport τ σ κ]

theorem Session.upholds_prepare (upkeep : Upkeep holds fits target) (held : holds s.transport) :
    (s.prepare key era).Upholds holds fits := by
  unfold prepare
  split
  · exact upholds_finished (s.releaseKey_transport era ▸ held) _
  · split
    · have upholds := upkeep.ensureStream held key
      dsimp only
      split
      · rename_i stage waits
        exact ⟨upholds.state, fun _ _ goes own => by
          cases goes; cases own; exact upholds.stage _ waits⟩
      · exact upholds_openPrepared (s := s.absorb _) upholds.state _
    · exact upholds_openPrepared held _

theorem Session.upholds_startLookup (upkeep : Upkeep holds fits target) (held : holds s.transport) :
    (s.startLookup task key).Upholds holds fits := by
  unfold startLookup
  split
  · exact upholds_finished held _
  · dsimp only
    split
    · exact upholds_prepare (s := s.setKeyLock _ _ _) upkeep held
    · exact upholds_queued (s := s.setKeyLock _ _ _) held rfl

theorem Session.upholds_resumeLookup (upkeep : Upkeep holds fits target) (held : holds s.transport)
    {stage : LookupStage σ} (own : ∀ preparing, stage = .preparing preparing → fits preparing)
    (signal : Signal) : (s.resumeLookup task key era stage signal).Upholds holds fits := by
  cases stage with
  | queued =>
    cases signal with
    | ready =>
      simp only [resumeLookup]
      split
      · exact upholds_prepare (s := s.setKeyLock _ _ _) upkeep held
      · exact upholds_queued held rfl
    | expired | interrupted =>
      exact upholds_finished ((wake_transport ..).symm ▸ held) _
  | preparing stage =>
    have upholds := upkeep.resume held (own stage rfl) signal
    simp only [resumeLookup]
    split
    · rename_i waits
      exact ⟨upholds.state, fun _ _ goes own => by
        cases goes; cases own; exact upholds.stage _ waits⟩
    · exact upholds_openPrepared (s := s.absorb _) upholds.state _

theorem Session.upholds_settle (upkeep : Upkeep holds fits target) (held : holds s.transport)
    (own : target (s.writer id).key) (left : Nat) (result : Except Fault Token) :
    (s.settle id events left result).Upholds holds fits := by
  refine settle_induct id events
    (motive := fun s _ _ stepped => holds s.transport → target (s.writer id).key →
      stepped.Upholds holds fits)
    ?accepted ?stopped ?fatal ?waits ?again s left result held own
  case accepted =>
    intro s left token held _
    exact upholds_finished ((releaseWriter_transport ..).symm ▸ held) _
  case stopped =>
    intro s left fault _ held _
    exact upholds_finished ((releaseWriter_transport ..).symm ▸ held) _
  case fatal =>
    intro s left fault notices _ _ held _
    refine upholds_finished ?_ _
    rw [releaseWriter_transport, retire_transport]
    exact held
  case waits =>
    intro s left fault expected notices stage _ _ waits held own
    have upholds := upkeep.append held ((s.writer id).request expected.token events) own
    exact ⟨upholds.state, fun _ _ goes own => by
      cases goes; cases own; exact upholds.stage _ waits⟩
  case again =>
    intro s left fault expected notices result _ _ _ resent ih held own
    exact ih (upkeep.append held ((s.writer id).request expected.token events) own).state own

theorem Session.upholds_pursue (upkeep : Upkeep holds fits target) {reply : Reply τ σ κ Token}
    (upholds : reply.Upholds holds fits) (sameState : s.transport = reply.state)
    (own : target (s.writer id).key) (left : Nat) :
    (s.pursue id events left reply.progress).Upholds holds fits := by
  have held : holds s.transport := sameState ▸ upholds.state
  unfold pursue
  split
  · rename_i waits
    exact ⟨held, fun _ _ goes own => by cases goes; cases own; exact upholds.stage _ waits⟩
  · exact upholds_settle upkeep held own left _

theorem Session.upholds_sendBatch (upkeep : Upkeep holds fits target) (held : holds s.transport)
    (own : target (s.writer id).key) : (s.sendBatch id events).Upholds holds fits := by
  cases status : (s.writer id).status with
  | invalidated =>
    rw [sendBatch_invalidated status]
    exact upholds_finished ((releaseWriter_transport ..).symm ▸ held) _
  | active =>
    rw [sendBatch_active status]
    exact upholds_pursue (s := (s.send id events _).1) upkeep (upkeep.append held _ own) rfl own _

omit [Transport τ σ κ] in
/-- Who holds its lock does not matter to where a writer writes. -/
theorem Session.writer_locked_key (s : Session τ σ κ) (id : WriterId) (lock : Mutex) :
    ((s.setWriter id { s.writer id with lock := lock }).writer id).key = (s.writer id).key := by
  by_cases known : id < s.writers.length
  · rw [writer_setWriter_self s id _ known]
  · simp [writer, known]

theorem Session.upholds_startBatch (upkeep : Upkeep holds fits target) (held : holds s.transport)
    (own : target (s.writer id).key) (batch : Batch) :
    (s.startBatch task id batch).Upholds holds fits := by
  unfold startBatch
  split
  · exact upholds_finished held _
  · split
    · exact upholds_finished held _
    · dsimp only
      split
      · exact upholds_sendBatch (s := s.setWriter _ _) upkeep held
          ((s.writer_locked_key id _).symm ▸ own)
      · exact upholds_queued (s := s.setWriter _ _) held rfl

theorem Session.upholds_resumeBatch (upkeep : Upkeep holds fits target) (held : holds s.transport)
    (own : target (s.writer id).key) {stage : BatchStage σ}
    (sends : ∀ left sending, stage = .sending left sending → fits sending) (signal : Signal) :
    (s.resumeBatch task id events stage signal).Upholds holds fits := by
  cases stage with
  | queued =>
    cases signal with
    | ready =>
      simp only [resumeBatch]
      split
      · exact upholds_sendBatch (s := s.setWriter _ _) upkeep held
          ((s.writer_locked_key id _).symm ▸ own)
      · exact upholds_queued held rfl
    | expired | interrupted =>
      exact upholds_finished ((wake_transport ..).symm ▸ held) _
  | sending left stage =>
    rw [resumeBatch_sending]
    exact upholds_pursue (s := s.absorb _) upkeep
      (upkeep.resume held (sends left stage rfl) signal) rfl own _

theorem Session.upholds_opening (upkeep : Upkeep holds fits target) (held : holds s.transport)
    {operation : Operation} (own : ∀ key, operation.key? s.writers = some key → target key) :
    (s.opening task operation).Upholds holds fits := by
  cases operation with
  | append request => exact upholds_relay (upkeep.append held request (own _ rfl))
  | ensureStream key => exact upholds_relay (upkeep.ensureStream held key)
  | getWriter key => exact upholds_startLookup upkeep held
  | write id batch => exact upholds_startBatch upkeep held (own _ rfl) batch

theorem Session.upholds_ongoing (upkeep : Upkeep holds fits target) (held : holds s.transport)
    {activity : Activity σ} (own : ∀ key, activity.key? s.writers = some key → target key)
    (stays : ∀ stage, activity.stage? = some stage → fits stage) (signal : Signal) :
    (s.ongoing task signal activity).Upholds holds fits := by
  cases activity with
  | transport stage => exact upholds_relay (upkeep.resume held (stays stage rfl) signal)
  | lookup key era stage =>
    exact upholds_resumeLookup upkeep held
      (fun preparing same => stays preparing (by rw [same]; rfl)) signal
  | batch id events stage =>
    exact upholds_resumeBatch upkeep held (own _ rfl)
      (fun left sending same => stays sending (by rw [same]; rfl)) signal

end Steps

section Play
variable {holds : τ → Prop} {fits : σ → Prop} {r r' : Run τ σ κ μ χ} {task : TaskId}
  {stepped : Stepped τ σ κ}

theorem Takes.upheld (takes : Takes r r' task stepped) (upheld : r.session.Upheld holds fits)
    (upholds : stepped.Upholds holds fits) : r'.session.Upheld holds fits where
  transport := by
    rw [takes.session]
    exact upholds.transport
  stage other activity stage under own := by
    by_cases same : other = task
    · exact upholds.stage activity stage ((takes.active_self).symm.trans (same ▸ under)) own
    · exact upheld.stage other activity stage ((takes.active_other same).symm.trans under) own

theorem Session.openWriter_transport (s : Session τ σ κ) (key : Key) (registry : Registry)
    (token : Token) (maxAttempts : Int) :
    (s.openWriter key registry token maxAttempts).session.transport = s.transport := by
  unfold openWriter
  split <;> rfl

variable [Transport τ σ κ] [Commanded τ μ χ κ]

/-- A command or a chore that does not break the property. -/
def Move.Upholds (holds : τ → Prop) : Move μ χ → Prop
  | .command given => ∀ t : τ, holds t → holds (Commanded.perform t given).state
  | .chore stage signal => ∀ t : τ, holds t → holds (Commanded.resume t stage signal).state
  | _ => True

theorem upheld_step (upkeep : Upkeep holds fits fun _ => True) (sound : Sound r)
    (upheld : r.session.Upheld holds fits) {move : Move μ χ} (upholds : move.Upholds holds) :
    (r.step move).session.Upheld holds fits := by
  have steps := steps_step sound move
  generalize r.step move = r' at steps ⊢
  have held : holds r.session.fresh.transport := upheld.transport
  cases steps with
  | stay => exact upheld
  | start _ _ _ _ takes =>
    exact takes.upheld upheld (Session.upholds_opening upkeep held fun _ _ => trivial)
  | @resume task signal activity _ under _ _ takes =>
    have stays := fun stage => upheld.stage task activity stage under
    exact takes.upheld upheld
      (Session.upholds_ongoing upkeep held (fun _ _ => trivial) stays signal)
  | pass between =>
    refine ⟨?_, fun task activity stage under => ?_⟩
    · cases move with
      | start task operation | resume task signal => cases between
      | abandon task => exact (Session.abandon_transport ..).symm ▸ held
      | openWriter key registry token maxAttempts =>
        exact (Session.openWriter_transport ..).symm ▸ held
      | remove key writer | closePool => exact held
      | command command | chore stage signal => exact upholds _ held
    · have same := (Run.pass_extension between).active
      exact upheld.stage task activity stage ((congrFun same task).symm.trans under)

theorem upheld_play (upkeep : Upkeep holds fits fun _ => True) (sound : Sound r)
    (upheld : r.session.Upheld holds fits) {moves : List (Move μ χ)}
    (upholds : ∀ move ∈ moves, move.Upholds holds) :
    (r.play moves).session.Upheld holds fits :=
  play_induct (motive := (·.session.Upheld holds fits)) sound upheld
    fun _ sound upheld move member => upheld_step upkeep sound upheld (upholds move member)

end Play
end SequenceLog

import SequenceLog.Proofs.Flight
import SequenceLog.Proofs.Renaming
import SequenceLog.Proofs.Upkeep
/-! Two sessions side by side, of which the second serves one stream alone. Searches for the writer
of the stream and batches for its writers go the same way in both, but for the names of writers and
tokens. Main statements: `Session.follows_opening` and `Session.follows_ongoing`. -/
namespace SequenceLog

abbrev MemorySession := Session Memory SleepingAppend Append
abbrev MemoryStepped := Stepped Memory SleepingAppend Append

def Session.stream? {τ σ κ : Type} (s : Session τ σ κ) (task : TaskId) : Option Key :=
  (s.active task).bind (Activity.key? s.writers)

/-- The writers for a stream, in the order in which they were opened. -/
def writersOn (writers : List Writer) (key : Key) : List WriterId :=
  (List.range writers.length).filter fun id => ((writers[id]?).getD default).key = key

section WritersOn
variable {writers writers' : List Writer} {key : Key}

theorem mem_writersOn {id : WriterId} : id ∈ writersOn writers key ↔
    id < writers.length ∧ ((writers[id]?).getD default).key = key := by
  simp [writersOn]

/-- Which writers a stream has depends on nothing but the streams of the writers. -/
theorem writersOn_congr (length : writers'.length = writers.length)
    (keys : ∀ id, id < writers.length →
      ((writers'[id]?).getD default).key = ((writers[id]?).getD default).key) (key : Key) :
    writersOn writers' key = writersOn writers key := by
  unfold writersOn
  rw [length]
  refine List.filter_congr fun id member => ?_
  rw [keys id (List.mem_range.1 member)]

theorem writersOn_append (writers : List Writer) (w : Writer) (key : Key) :
    writersOn (writers ++ [w]) key =
      writersOn writers key ++ if w.key = key then [writers.length] else [] := by
  have old : (List.range writers.length).filter
      (fun id => (((writers ++ [w])[id]?).getD default).key = key) = writersOn writers key :=
    List.filter_congr fun id member => by rw [List.getElem?_append_left (List.mem_range.1 member)]
  unfold writersOn at old ⊢
  rw [List.length_append, List.length_singleton, List.range_succ, List.filter_append, old]
  by_cases own : w.key = key <;> simp [own]

end WritersOn

namespace Renaming
variable (ρ : Renaming)

/-- What an operation on the stream can fail with. A failure for good tells the expected token. -/
inductive SameFault : Fault → Fault → Prop
  | same (fault : Fault) : SameFault fault fault
  | unrecoverable {reason reason' : Fault} (group stream : Text) (chained : Bool) :
      ρ.SameRefusal reason reason' → SameFault (.unrecoverable group stream reason chained)
        (.unrecoverable group stream reason' chained)

/-- What an operation on the stream can end with. -/
inductive SameResult : Except Fault Answer → Except Fault Answer → Prop
  | nothing : SameResult (.ok .nothing) (.ok .nothing)
  | writer {id alone : WriterId} : ρ.SameWriter id alone →
      SameResult (.ok (.writer id)) (.ok (.writer alone))
  | failed {fault fault' : Fault} : ρ.SameFault fault fault' →
      SameResult (.error fault) (.error fault')

inductive SameActivity (key : Key) :
    Activity SleepingAppend → Activity SleepingAppend → Prop
  | seeking (era : Nat) : SameActivity key (.lookup key era .queued) (.lookup key era .queued)
  | waiting {id alone : WriterId} (events : List LogEvent) : ρ.SameWriter id alone →
      SameActivity key (.batch id events .queued) (.batch alone events .queued)
  | sending {id alone : WriterId} {a a' : SleepingAppend} (events : List LogEvent) (left : Nat) :
      ρ.SameWriter id alone → ρ.SameSleep key a a' →
      SameActivity key (.batch id events (.sending left a)) (.batch alone events (.sending left a'))

inductive SameTurn (key : Key) : Progress (Activity SleepingAppend) Answer →
    Progress (Activity SleepingAppend) Answer → Prop
  | goes {activity activity' : Activity SleepingAppend} : ρ.SameActivity key activity activity' →
      SameTurn key (.suspended activity) (.suspended activity')
  | ends {result result' : Except Fault Answer} : ρ.SameResult result result' →
      SameTurn key (.finished result) (.finished result')

inductive SameOperation (key : Key) : Operation → Operation → Prop
  | getWriter : SameOperation key (.getWriter key) (.getWriter key)
  | write {id alone : WriterId} (batch : Batch) : ρ.SameWriter id alone →
      SameOperation key (.write id batch) (.write alone batch)

/-- What a task does is about another stream, or it is done in the run of the stream alone too. -/
inductive SameTask (key : Key) (writers : List Writer) :
    Option (Activity SleepingAppend) → Option (Activity SleepingAppend) → Prop
  | elsewhere {activity : Option (Activity SleepingAppend)} :
      activity.bind (Activity.key? writers) ≠ some key → SameTask key writers activity none
  | here {activity activity' : Activity SleepingAppend} : ρ.SameActivity key activity activity' →
      SameTask key writers (some activity) (some activity')

/-- The writers are the same but for the name of the token. -/
structure SameState (w w' : Writer) : Prop where
  key : w'.key = w.key
  registry : w'.registry = w.registry
  token : ρ.SameToken w.token w'.token
  status : w'.status = w.status
  retries : w'.retries = w.retries
  lock : w'.lock = w.lock

variable {ρ} {ρ' : Renaming} {key : Key}

theorem SameFault.mono {fault fault' : Fault} (same : ρ.SameFault fault fault')
    (grows : ρ.Grows ρ') : ρ'.SameFault fault fault' := by
  cases same with
  | same fault => exact .same fault
  | unrecoverable group stream chained refusal => exact .unrecoverable _ _ _ (refusal.mono grows)

theorem SameResult.mono {result result' : Except Fault Answer} (same : ρ.SameResult result result')
    (grows : ρ.Grows ρ') : ρ'.SameResult result result' := by
  cases same with
  | nothing => exact .nothing
  | writer named => exact .writer (named.mono grows)
  | failed fault => exact .failed (fault.mono grows)

theorem SameActivity.mono {activity activity' : Activity SleepingAppend}
    (same : ρ.SameActivity key activity activity') (grows : ρ.Grows ρ') :
    ρ'.SameActivity key activity activity' := by
  cases same with
  | seeking era => exact .seeking era
  | waiting events named => exact .waiting events (named.mono grows)
  | sending events left named asleep =>
    exact .sending events left (named.mono grows) (asleep.mono grows)

theorem SameTask.mono {writers : List Writer}
    {activity activity' : Option (Activity SleepingAppend)}
    (same : ρ.SameTask key writers activity activity') (grows : ρ.Grows ρ') :
    ρ'.SameTask key writers activity activity' := by
  cases same with
  | elsewhere other => exact .elsewhere other
  | here activity => exact .here (activity.mono grows)

theorem SameState.mono {w w' : Writer} (same : ρ.SameState w w') (grows : ρ.Grows ρ') :
    ρ'.SameState w w' :=
  { same with token := same.token.mono grows }

theorem SameState.setLock {w w' : Writer} (same : ρ.SameState w w') (lock : Mutex) :
    ρ.SameState { w with lock := lock } { w' with lock := lock } :=
  ⟨same.key, same.registry, same.token, same.status, same.retries, rfl⟩

theorem SameState.setStatus {w w' : Writer} (same : ρ.SameState w w') (status : Status) :
    ρ.SameState { w with status := status } { w' with status := status } :=
  ⟨same.key, same.registry, same.token, rfl, same.retries, same.lock⟩

theorem SameState.setToken {w w' : Writer} (same : ρ.SameState w w') {token token' : Token}
    (named : ρ.SameToken token token') :
    ρ.SameState { w with token := token } { w' with token := token' } :=
  ⟨same.key, same.registry, named, same.status, same.retries, same.lock⟩

/-- Writers come and go, but what a task does stays about the stream that it is about. -/
theorem SameTask.congr {writers writers' : List Writer}
    {activity activity' : Option (Activity SleepingAppend)}
    (same : ρ.SameTask key writers activity activity')
    (keys : ∀ id events stage, activity = some (.batch id events stage) →
      ((writers'[id]?).getD default).key = ((writers[id]?).getD default).key) :
    ρ.SameTask key writers' activity activity' := by
  cases same with
  | here activity => exact .here activity
  | elsewhere other =>
    refine .elsewhere fun own => other ?_
    rw [← own]
    cases activity with
    | none => rfl
    | some activity =>
      cases activity with
      | batch id events stage => simp [Activity.key?, keys id events stage rfl]
      | _ => rfl

end Renaming

/-- The second session has of the first what there is of one stream: the stream itself, its lock,
its writers and the operations on it. -/
structure Session.Mirrors (s s' : MemorySession) (key : Key) (ρ : Renaming) : Prop where
  memory : s.transport.Mirrors s'.transport key ρ
  setUp : s.pool.SetUpAs s'.pool
  era : s'.pool.era = s.pool.era
  locks : ∀ era, s'.pool.locks era key = s.pool.locks era key
  registered : Option.Rel ρ.SameWriter (s.pool.writers.get? key) (s'.pool.writers.get? key)
  named : ρ.writers = writersOn s.writers key
  alone : s'.writers.length = ρ.writers.length
  writer : ∀ {id alone}, ρ.SameWriter id alone → ρ.SameState (s.writer id) (s'.writer alone)
  asked : ∀ {task id events stage}, s.active task = some (.batch id events stage) →
    id < s.writers.length
  tasks : ∀ task, ρ.SameTask key s.writers (s.active task) (s'.active task)

structure Stepped.Mirrors (stepped stepped' : MemoryStepped) (key : Key) (ρ : Renaming) : Prop where
  session : stepped.session.Mirrors stepped'.session key ρ
  progress : ρ.SameTurn key stepped.progress stepped'.progress

/-- Two parts of an operation on the stream come to the same, with more names than before. -/
def Stepped.Follows (stepped stepped' : MemoryStepped) (key : Key) (ρ : Renaming) : Prop :=
  ∃ ρ', ρ.Grows ρ' ∧ stepped.Mirrors stepped' key ρ'

theorem Stepped.Follows.after {stepped stepped' : MemoryStepped} {key : Key} {ρ ρ' : Renaming}
    (follows : stepped.Follows stepped' key ρ') (grows : ρ.Grows ρ') :
    stepped.Follows stepped' key ρ := by
  obtain ⟨ρ'', more, mirrors⟩ := follows
  exact ⟨ρ'', grows.trans more, mirrors⟩

namespace Session
variable {s s' t t' : MemorySession} {key : Key} {ρ ρ' : Renaming}

namespace Mirrors

theorem of_same (mirrors : s.Mirrors s' key ρ) (transport : t.transport = s.transport)
    (pool : t.pool = s.pool) (writers : t.writers = s.writers) (active : t.active = s.active)
    (transport' : t'.transport = s'.transport) (pool' : t'.pool = s'.pool)
    (writers' : t'.writers = s'.writers) (active' : t'.active = s'.active) :
    t.Mirrors t' key ρ := by
  obtain ⟨_, _, _, _, _⟩ := t
  obtain ⟨_, _, _, _, _⟩ := t'
  subst transport pool writers active transport' pool' writers' active'
  exact { mirrors with }

theorem note (mirrors : s.Mirrors s' key ρ) (happened happened' : List (Happening Append)) :
    (s.note happened).Mirrors (s'.note happened') key ρ :=
  mirrors.of_same rfl rfl rfl rfl rfl rfl rfl rfl

theorem wake (mirrors : s.Mirrors s' key ρ) (task task' : Option TaskId) :
    (s.wake task).Mirrors (s'.wake task') key ρ :=
  mirrors.of_same (wake_transport ..) (wake_pool ..) (wake_writers ..) (wake_active ..)
    (wake_transport ..) (wake_pool ..) (wake_writers ..) (wake_active ..)

theorem finished (mirrors : s.Mirrors s' key ρ) {result result' : Except Fault Answer}
    (same : ρ.SameResult result result') :
    (s.finished result).Follows (s'.finished result') key ρ :=
  ⟨ρ, .refl ρ, mirrors, .ends same⟩

theorem suspended (mirrors : s.Mirrors s' key ρ) {activity activity' : Activity SleepingAppend}
    (same : ρ.SameActivity key activity activity') :
    (s.suspended activity).Follows (s'.suspended activity') key ρ :=
  ⟨ρ, .refl ρ, mirrors, .goes same⟩

theorem moved (mirrors : s.Mirrors s' key ρ) (issues : ρ.Issues ρ') {m m' : Memory}
    (memory : m.Mirrors m' key ρ') :
    ({ s with transport := m } : MemorySession).Mirrors { s' with transport := m' } key ρ' where
  memory := memory
  setUp := mirrors.setUp
  era := mirrors.era
  locks := mirrors.locks
  registered := issues.sameWriter ▸ mirrors.registered
  named := issues.writers.trans mirrors.named
  alone := mirrors.alone.trans (congrArg List.length issues.writers).symm
  writer named := (mirrors.writer (issues.sameWriter ▸ named)).mono issues.grows
  asked := mirrors.asked
  tasks task := (mirrors.tasks task).mono issues.grows

theorem setKeyLock (mirrors : s.Mirrors s' key ρ) (era : Nat) (lock : Mutex) :
    (s.setKeyLock era key lock).Mirrors (s'.setKeyLock era key lock) key ρ where
  memory := mirrors.memory
  setUp := mirrors.setUp
  era := mirrors.era
  locks other := by
    have same := mirrors.locks other
    simp only [Session.setKeyLock, Pool.setLock, same]
  registered := mirrors.registered
  named := mirrors.named
  alone := mirrors.alone
  writer := mirrors.writer
  asked := mirrors.asked
  tasks := mirrors.tasks

theorem releaseKey (mirrors : s.Mirrors s' key ρ) (era : Nat) :
    (s.releaseKey era key).Mirrors (s'.releaseKey era key) key ρ := by
  simp only [Session.releaseKey, mirrors.locks era]
  exact (mirrors.setKeyLock era _).wake _ _

theorem known (mirrors : s.Mirrors s' key ρ) {id alone : WriterId} (named : ρ.SameWriter id alone) :
    id < s.writers.length ∧ (s.writer id).key = key ∧ alone < s'.writers.length := by
  obtain ⟨known, own⟩ := mem_writersOn.1 (mirrors.named ▸ List.mem_of_getElem? named)
  exact ⟨known, own, mirrors.alone ▸ (List.getElem?_eq_some_iff.1 named).1⟩

theorem setWriter (mirrors : s.Mirrors s' key ρ) {id alone : WriterId}
    (named : ρ.SameWriter id alone) {w w' : Writer} (state : ρ.SameState w w')
    (own : w.key = (s.writer id).key) :
    (s.setWriter id w).Mirrors (s'.setWriter alone w') key ρ := by
  obtain ⟨known, -, known'⟩ := mirrors.known named
  have keys : ∀ other, other < s.writers.length →
      ((s.setWriter id w).writer other).key = (s.writer other).key := by
    intro other _
    by_cases same : other = id
    · rw [same, writer_setWriter_self s id w known, own]
    · refine congrArg (·.key) (writer_congr other ?_)
      simp [List.getElem?_set_ne (Ne.symm same)]
  refine ⟨mirrors.memory, mirrors.setUp, mirrors.era, mirrors.locks, mirrors.registered, ?_, ?_,
    fun {other alone'} named' => ?_, ?_, fun task => ?_⟩
  · exact mirrors.named.trans (writersOn_congr (by simp) keys key).symm
  · simpa using mirrors.alone
  · by_cases same : other = id
    · obtain rfl : alone' = alone := (named'.unique named).1 same
      rw [same, writer_setWriter_self s id w known, writer_setWriter_self s' alone' w' known']
      exact state
    · have apart : alone' ≠ alone := fun equal => same ((named'.unique named).2 equal)
      have old : (s.setWriter id w).writer other = s.writer other :=
        writer_congr other (by simp [List.getElem?_set_ne (Ne.symm same)])
      have old' : (s'.setWriter alone w').writer alone' = s'.writer alone' :=
        writer_congr alone' (by simp [List.getElem?_set_ne (Ne.symm apart)])
      rw [old, old']
      exact mirrors.writer named'
  · intro task other events stage under
    simpa using mirrors.asked under
  · exact (mirrors.tasks task).congr fun other events stage under =>
      keys other (mirrors.asked under)

theorem remove (mirrors : s.Mirrors s' key ρ) {id alone : WriterId}
    (named : ρ.SameWriter id alone) :
    (s.remove key (some id)).Mirrors (s'.remove key (some alone)) key ρ where
  memory := mirrors.memory
  setUp := by
    have same := s.pool.setUpAs_remove key (some id)
    have same' := s'.pool.setUpAs_remove key (some alone)
    exact ⟨same'.1.trans (mirrors.setUp.1.trans same.1.symm),
      same'.2.trans (mirrors.setUp.2.trans same.2.symm)⟩
  era := by
    rw [remove_pool, remove_pool, Pool.remove_era, Pool.remove_era, mirrors.era]
  locks era := by
    rw [remove_pool, remove_pool, Pool.remove_locks, Pool.remove_locks, mirrors.locks]
  registered := by
    have registered := mirrors.registered
    rw [remove_pool, remove_pool, Pool.get?_remove, Pool.get?_remove]
    generalize s.pool.writers.get? key = there, s'.pool.writers.get? key = there' at registered
    cases registered with
    | none => simp
    | @some other alone' named' =>
      have unique := named'.unique named
      by_cases same : other = id
      · simp [same, unique.1 same]
      · simpa [same, mt unique.2 same] using Option.Rel.some named'
  named := mirrors.named
  alone := mirrors.alone
  writer := mirrors.writer
  asked := mirrors.asked
  tasks := mirrors.tasks

theorem deregister (mirrors : s.Mirrors s' key ρ) {id alone : WriterId}
    (named : ρ.SameWriter id alone) :
    (s.deregister id).Mirrors (s'.deregister alone) key ρ := by
  have state := mirrors.writer named
  obtain ⟨-, own, -⟩ := mirrors.known named
  simp only [Session.deregister, state.registry, state.key, own]
  split
  · exact (mirrors.note _ _).remove named
  · exact mirrors.note _ _
  · exact (mirrors.note _ _).note _ _

theorem releaseWriter (mirrors : s.Mirrors s' key ρ) {id alone : WriterId}
    (named : ρ.SameWriter id alone) :
    (s.releaseWriter id).Mirrors (s'.releaseWriter alone) key ρ := by
  have state := mirrors.writer named
  simp only [Session.releaseWriter, state.lock]
  have released := mirrors.setWriter named (state.setLock (s.writer id).lock.release.1) rfl
  exact released.wake _ _

theorem adopt (mirrors : s.Mirrors s' key ρ) {id alone : WriterId}
    (named : ρ.SameWriter id alone) {token token' : Token} (same : ρ.SameToken token token') :
    (s.adopt id token).Mirrors (s'.adopt alone token') key ρ :=
  mirrors.setWriter named ((mirrors.writer named).setToken same) rfl

theorem retire (mirrors : s.Mirrors s' key ρ) {id alone : WriterId}
    (named : ρ.SameWriter id alone) (reason reason' : Fault) :
    (s.retire id reason).Mirrors (s'.retire alone reason') key ρ := by
  have noticed := mirrors.note ([(s.writer id).retiredNotice reason].map .notice)
    ([(s'.writer alone).retiredNotice reason'].map .notice)
  have marked := noticed.setWriter named ((mirrors.writer named).setStatus .invalidated) rfl
  exact marked.deregister named

theorem send (mirrors : s.Mirrors s' key ρ) {id alone : WriterId}
    (named : ρ.SameWriter id alone) (events : List LogEvent) {token token' : Token}
    (same : ρ.SameToken token token') :
    ∃ ρ', ρ.Issues ρ' ∧ (s.send id events token).1.Mirrors (s'.send alone events token').1 key ρ' ∧
      ρ'.SameProgress key (s.send id events token).2 (s'.send alone events token').2 := by
  obtain ⟨-, own, -⟩ := mirrors.known named
  have request : ρ.SameRequest key ((s.writer id).request token events)
      ((s'.writer alone).request token' events) :=
    ⟨own, (mirrors.writer named).key.trans own, rfl, same⟩
  obtain ⟨ρ', issues, reply⟩ := Memory.mirrors_append mirrors.memory request
  exact ⟨ρ', issues, (mirrors.moved issues reply.state).of_same rfl rfl rfl rfl rfl rfl rfl rfl,
    reply.progress⟩

end Mirrors

section Batches
variable {id alone : WriterId} {events : List LogEvent}

theorem settle_accepted (s : MemorySession) (left : Nat) (token : Token) :
    s.settle id events left (.ok token) =
      (((s.note [.settled id (.ok token)]).adopt id token).releaseWriter id).finished
        (.ok .nothing) := by
  cases left <;> rfl

theorem settle_stopped (s : MemorySession) (left : Nat) :
    s.settle id events left (.error .stopped) =
      ((s.note [.settled id (.error .stopped)]).releaseWriter id).finished (.error .stopped) := by
  cases left <;> rfl

theorem settle_rejected (s : MemorySession) (message : Text) (expected : Token) :
    let fault : Fault := .tokenRejected message expected true none
    s.settle id events 0 (.error fault) =
      ((((s.note [.settled id (.error fault)]).notice []).retire id fault).releaseWriter
        id).finished (.error ((s.writer id).appendFault fault)) :=
  rfl

theorem follows_accepted (mirrors : s.Mirrors s' key ρ) (named : ρ.SameWriter id alone)
    (left : Nat) {next next' : Token} (token : ρ.SameToken next next') :
    (s.settle id events left (.ok next)).Follows (s'.settle alone events left (.ok next')) key
      ρ := by
  rw [settle_accepted, settle_accepted]
  exact (((mirrors.note _ _).adopt named token).releaseWriter named).finished .nothing

theorem follows_stopped (mirrors : s.Mirrors s' key ρ) (named : ρ.SameWriter id alone)
    (left : Nat) : (s.settle id events left (.error .stopped)).Follows
      (s'.settle alone events left (.error .stopped)) key ρ := by
  rw [settle_stopped, settle_stopped]
  exact ((mirrors.note _ _).releaseWriter named).finished (.failed (.same _))

/-- An append that goes on has the same consequences in both sessions if its outcomes have. -/
theorem follows_pursue (mirrors : s.Mirrors s' key ρ) (named : ρ.SameWriter id alone) (left : Nat)
    {progress progress' : Progress SleepingAppend Token}
    (same : ρ.SameProgress key progress progress')
    (settles : ∀ {outcome outcome'}, ρ.SameOutcome outcome outcome' →
      (s.settle id events left outcome).Follows (s'.settle alone events left outcome') key ρ) :
    (s.pursue id events left progress).Follows (s'.pursue alone events left progress') key ρ := by
  cases same with
  | asleep asleep => exact mirrors.suspended (.sending events left named asleep)
  | ended outcome => exact settles outcome

theorem follows_settle (mirrors : s.Mirrors s' key ρ) (named : ρ.SameWriter id alone) (left : Nat)
    {outcome outcome' : Except Fault Token} (same : ρ.SameOutcome outcome outcome') :
    (s.settle id events left outcome).Follows (s'.settle alone events left outcome') key ρ := by
  -- on the attempts that are left: each may issue another token, and so extend the renaming
  induction left generalizing s s' ρ outcome outcome' with
  | zero =>
    cases same with
    | accepted token => exact follows_accepted mirrors named 0 token
    | refused refusal =>
      cases refusal with
      | stopped => exact follows_stopped mirrors named 0
      | rejected token =>
        rw [settle_rejected, settle_rejected, Writer.appendFault, Writer.appendFault,
          (mirrors.writer named).key]
        refine Mirrors.finished ?_ (.failed (.unrecoverable _ _ _ (.rejected token)))
        exact (((mirrors.note _ _).note _ _).retire named _ _).releaseWriter named
  | succ left ih =>
    cases same with
    | accepted token => exact follows_accepted mirrors named (left + 1) token
    | refused refusal =>
      cases refusal with
      | stopped => exact follows_stopped mirrors named (left + 1)
      | @rejected expected expected' token =>
        let fault (expected : Token) : Fault :=
          .tokenRejected (Memory.rejectionText expected) expected true none
        have repeats (s : MemorySession) (id : WriterId) (expected : Token) :=
          s.settle_repeats id events left (show (fault expected).isFailure = true from rfl)
            (show (fault expected).expected? = some ⟨expected⟩ from rfl)
        obtain ⟨notices, resent⟩ := repeats s id expected
        obtain ⟨notices', resent'⟩ := repeats s' alone expected'
        have noted := (mirrors.note [.settled id (.error (fault expected))]
          [.settled alone (.error (fault expected'))]).note (notices.map .notice)
            (notices'.map .notice)
        obtain ⟨ρ', issues, sent, progress⟩ := noted.send named events token
        have named' := named.mono issues.grows
        rw [resent, resent']
        exact (follows_pursue sent named' left progress (ih sent named')).after issues.grows

/-- A batch sends with the lock of its writer, in both sessions or in none. -/
theorem follows_sendBatch (mirrors : s.Mirrors s' key ρ) (named : ρ.SameWriter id alone)
    (events : List LogEvent) :
    (s.sendBatch id events).Follows (s'.sendBatch alone events) key ρ := by
  have state := mirrors.writer named
  cases status : (s.writer id).status with
  | invalidated =>
    rw [sendBatch_invalidated status, sendBatch_invalidated (state.status.trans status),
      Writer.invalidFault, Writer.invalidFault, state.key]
    exact (mirrors.releaseWriter named).finished (.failed (.same _))
  | active =>
    rw [sendBatch_active status, sendBatch_active (state.status.trans status), state.retries]
    obtain ⟨ρ', issues, sent, progress⟩ := mirrors.send named events state.token
    have named' := named.mono issues.grows
    exact (follows_pursue sent named' _ progress (follows_settle sent named' _)).after issues.grows

theorem follows_startBatch (mirrors : s.Mirrors s' key ρ) (named : ρ.SameWriter id alone)
    (task : TaskId) (batch : Batch) :
    (s.startBatch task id batch).Follows (s'.startBatch task alone batch) key ρ := by
  have state := mirrors.writer named
  unfold startBatch
  split
  · exact mirrors.finished .nothing
  · split
    · exact mirrors.finished (.failed (.same _))
    · rename_i events _
      simp only [state.lock]
      split
      · have taken := mirrors.setWriter named (state.setLock (s.writer id).lock.take) rfl
        exact follows_sendBatch taken named events
      · have joined := mirrors.setWriter named (state.setLock ((s.writer id).lock.join task)) rfl
        exact joined.suspended (.waiting events named)

theorem follows_waiting (mirrors : s.Mirrors s' key ρ) (named : ρ.SameWriter id alone)
    (task : TaskId) (events : List LogEvent) (signal : Signal) :
    (s.resumeBatch task id events .queued signal).Follows
      (s'.resumeBatch task alone events .queued signal) key ρ := by
  have state := mirrors.writer named
  cases signal with
  | ready =>
    simp only [resumeBatch, state.lock]
    split
    · have entered := mirrors.setWriter named (state.setLock ((s.writer id).lock.enter task)) rfl
      exact follows_sendBatch entered named events
    · exact mirrors.suspended (.waiting events named)
  | expired | interrupted =>
    simp only [resumeBatch, state.lock]
    have left := mirrors.setWriter named (state.setLock ((s.writer id).lock.leave task).1) rfl
    exact (left.wake _ _).finished (.failed (.same _))

theorem follows_sending (mirrors : s.Mirrors s' key ρ) (named : ρ.SameWriter id alone)
    (task : TaskId) (events : List LogEvent) (left : Nat) {a a' : SleepingAppend}
    (asleep : ρ.SameSleep key a a') (signal : Signal) :
    (s.resumeBatch task id events (.sending left a) signal).Follows
      (s'.resumeBatch task alone events (.sending left a') signal) key ρ := by
  obtain ⟨ρ', issues, reply⟩ := Memory.mirrors_resume mirrors.memory asleep signal
  have moved : (s.absorb (Transport.resume s.transport a signal)).Mirrors
      (s'.absorb (Transport.resume s'.transport a' signal)) key ρ' :=
    (mirrors.moved issues reply.state).of_same rfl rfl rfl rfl rfl rfl rfl rfl
  have named' := named.mono issues.grows
  rw [resumeBatch_sending, resumeBatch_sending]
  exact (follows_pursue moved named' left reply.progress (follows_settle moved named' left)).after
    issues.grows

end Batches

section Searches

theorem Mirrors.register (mirrors : s.Mirrors s' key ρ) {w w' : Writer}
    (state : ρ.SameState w w') (own : w.key = key) :
    ∃ ρ', ρ.Grows ρ' ∧ ρ'.SameWriter s.writers.length s'.writers.length ∧
      ({ s with
        writers := s.writers ++ [w]
        pool := s.pool.register key s.writers.length } : MemorySession).Mirrors
      { s' with
        writers := s'.writers ++ [w']
        pool := s'.pool.register key s'.writers.length } key ρ' := by
  have late : ∀ other ∈ ρ.writers, other < s.writers.length := fun other member =>
    (mem_writersOn.1 (mirrors.named ▸ member)).1
  have grows := ρ.grows_enlist late
  have fresh : (ρ.enlist s.writers.length late).SameWriter s.writers.length s'.writers.length := by
    simp [Renaming.SameWriter, Renaming.enlist, mirrors.alone]
  refine ⟨ρ.enlist s.writers.length late, grows, fresh, ?_⟩
  refine ⟨mirrors.memory.grow grows rfl, mirrors.setUp, mirrors.era, mirrors.locks, ?_, ?_, ?_,
    fun {id alone} named => ?_, fun under => ?_, fun task => ?_⟩
  · simpa [Pool.register] using Option.Rel.some fresh
  · simp [Renaming.enlist, writersOn_append, own, mirrors.named]
  · simp [Renaming.enlist, mirrors.alone]
  · by_cases last : alone = s'.writers.length
    · obtain rfl : id = s.writers.length := (named.unique fresh).2 last
      rw [last, writer_new rfl, writer_new rfl]
      exact state.mono grows
    · have bound := (List.getElem?_eq_some_iff.1 named).1
      have earlier : alone < ρ.writers.length := by
        simp only [Renaming.enlist, List.length_append, List.length_singleton] at bound
        exact Nat.lt_of_le_of_ne (Nat.le_of_lt_succ bound) (mirrors.alone ▸ last)
      have old : ρ.SameWriter id alone := by
        rw [Renaming.SameWriter, ← List.getElem?_append_left earlier]
        exact named
      obtain ⟨known, -, known'⟩ := mirrors.known old
      rw [writer_old rfl known, writer_old rfl known']
      exact (mirrors.writer old).mono grows
  · exact Nat.lt_of_lt_of_le (mirrors.asked under) (by simp)
  · refine ((mirrors.tasks task).mono grows).congr fun id events stage under => ?_
    rw [List.getElem?_append_left (mirrors.asked under)]

/-- A writer is opened in both sessions, with tokens that stand for each other, or in none. -/
theorem follows_openPrepared (mirrors : s.Mirrors s' key ρ) (era : Nat) {token token' : Token}
    (same : ρ.SameToken token token') :
    (s.openPrepared key era (.ok token)).Follows (s'.openPrepared key era (.ok token')) key ρ := by
  simp only [openPrepared, Except.bind, Writer.new?, mirrors.setUp.2]
  by_cases few : s.pool.maxAttempts < 1
  · simp only [few, if_true]
    exact (mirrors.releaseKey era).finished (.failed (.same _))
  · simp only [few, if_false]
    have state : ρ.SameState
        ⟨key, .pool, token, .active, s.pool.maxAttempts.toNat - 1, .free⟩
        ⟨key, .pool, token', .active, s.pool.maxAttempts.toNat - 1, .free⟩ :=
      ⟨rfl, rfl, same, rfl, rfl, rfl⟩
    obtain ⟨ρ', grows, fresh, registered⟩ := mirrors.register state rfl
    exact (((registered.note _ _).releaseKey era).finished (.writer fresh)).after grows

theorem follows_prepare (mirrors : s.Mirrors s' key ρ) (era : Nat) :
    (s.prepare key era).Follows (s'.prepare key era) key ρ := by
  have registered := mirrors.registered
  unfold prepare
  generalize s.pool.writers.get? key = there, s'.pool.writers.get? key = there' at registered ⊢
  cases registered with
  | some named => exact (mirrors.releaseKey era).finished (.writer named)
  | none =>
    have ended : (Transport.ensureStream s.transport key).progress = .finished (.ok _) :=
      mirrors.memory.plain.ensureStream key
    have ended' : (Transport.ensureStream s'.transport key).progress = .finished (.ok _) :=
      mirrors.memory.plain'.ensureStream key
    simp only [mirrors.setUp.1, ended, ended']
    split
    · have prepared := Memory.mirrors_ensureStream mirrors.memory
      have moved : (s.absorb (Transport.ensureStream s.transport key)).Mirrors
          (s'.absorb (Transport.ensureStream s'.transport key)) key ρ :=
        (mirrors.moved (.refl ρ) prepared).of_same rfl rfl rfl rfl rfl rfl rfl rfl
      exact follows_openPrepared moved era mirrors.memory.token
    · exact follows_openPrepared mirrors era .none

theorem follows_startLookup (mirrors : s.Mirrors s' key ρ) (task : TaskId) :
    (s.startLookup task key).Follows (s'.startLookup task key) key ρ := by
  have registered := mirrors.registered
  unfold startLookup
  generalize s.pool.writers.get? key = there, s'.pool.writers.get? key = there' at registered ⊢
  cases registered with
  | some named => exact mirrors.finished (.writer named)
  | none =>
    simp only [mirrors.era, mirrors.locks]
    split
    · exact follows_prepare (mirrors.setKeyLock _ _) _
    · exact (mirrors.setKeyLock _ _).suspended (.seeking _)

theorem follows_seeking (mirrors : s.Mirrors s' key ρ) (task : TaskId) (era : Nat)
    (signal : Signal) : (s.resumeLookup task key era .queued signal).Follows
      (s'.resumeLookup task key era .queued signal) key ρ := by
  simp only [resumeLookup, mirrors.locks]
  cases signal with
  | ready =>
    dsimp only
    split
    · exact follows_prepare (mirrors.setKeyLock _ _) _
    · exact mirrors.suspended (.seeking era)
  | expired | interrupted =>
    exact ((mirrors.setKeyLock _ _).wake _ _).finished (.failed (.same _))

end Searches

section Turns
variable {task : TaskId}

theorem Mirrors.about (mirrors : s.Mirrors s' key ρ) {activity activity' : Activity SleepingAppend}
    (same : ρ.SameActivity key activity activity') : activity.key? s.writers = some key := by
  cases same with
  | seeking era => rfl
  | waiting events named | sending events left named =>
    exact congrArg some (mirrors.known named).2.1

/-- A task that is not at the stream is idle in the session of the stream alone. -/
theorem Mirrors.idle (mirrors : s.Mirrors s' key ρ)
    (away : s.stream? task ≠ some key) : s'.active task = none := by
  have same := mirrors.tasks task
  unfold stream? at away
  generalize s.active task = there, s'.active task = there' at same away ⊢
  cases same with
  | elsewhere => rfl
  | here activity => exact absurd (mirrors.about activity) away

theorem Mirrors.here (mirrors : s.Mirrors s' key ρ)
    (own : s.stream? task = some key) :
    ∃ activity activity', s.active task = some activity ∧ s'.active task = some activity' ∧
      ρ.SameActivity key activity activity' := by
  have same := mirrors.tasks task
  unfold stream? at own
  generalize s.active task = there, s'.active task = there' at same own ⊢
  cases same with
  | elsewhere other => exact absurd own other
  | here activity => exact ⟨_, _, rfl, rfl, activity⟩

theorem mirrors_record {stepped stepped' : MemoryStepped} (mirrors : stepped.Mirrors stepped' key ρ)
    (task : TaskId) : (record task stepped).1.Mirrors (record task stepped').1 key ρ ∧
      Option.Rel ρ.SameResult (record task stepped).2 (record task stepped').2 := by
  obtain ⟨after, progress⟩ := stepped
  obtain ⟨after', progress'⟩ := stepped'
  obtain ⟨session, same⟩ := mirrors
  rw [record_eq, record_eq]
  refine ⟨{ session with asked := fun {other id events stage} under => ?_,
                         tasks := fun other => ?_ }, ?_⟩
  · by_cases mine : other = task
    · simp only [mine, if_true, Stepped.activity?] at under
      cases same with
      | ends => cases under
      | goes activity =>
          cases activity with
        | seeking => cases under
        | waiting events named | sending events left named =>
          cases under
          exact (session.known named).1
    · simp only [mine, if_false] at under
      exact session.asked under
  · by_cases mine : other = task
    · simp only [mine, if_true, Stepped.activity?]
      cases same with
      | goes activity => exact .here activity
      | ends => exact .elsewhere (by simp)
    · simpa only [mine, if_false] using session.tasks other
  · cases same with
    | goes => exact .none
    | ends result => exact .some result

theorem follows_opening (mirrors : s.Mirrors s' key ρ) (task : TaskId)
    {operation operation' : Operation} (same : ρ.SameOperation key operation operation') :
    (s.opening task operation).Follows (s'.opening task operation') key ρ := by
  cases same with
  | getWriter => exact follows_startLookup mirrors task
  | write batch named => exact follows_startBatch mirrors named task batch

theorem follows_ongoing (mirrors : s.Mirrors s' key ρ) (task : TaskId)
    {activity activity' : Activity SleepingAppend} (same : ρ.SameActivity key activity activity')
    (signal : Signal) :
    (s.ongoing task signal activity).Follows (s'.ongoing task signal activity') key ρ := by
  cases same with
  | seeking era => exact follows_seeking mirrors task era signal
  | waiting events named => exact follows_waiting mirrors named task events signal
  | sending events left named asleep =>
    exact follows_sending mirrors named task events left asleep signal

theorem Mirrors.abandon (mirrors : s.Mirrors s' key ρ)
    {activity activity' : Activity SleepingAppend} (under : s.active task = some activity)
    (under' : s'.active task = some activity') (same : ρ.SameActivity key activity activity') :
    (s.abandon task).Mirrors (s'.abandon task) key ρ := by
  cases same with
  | seeking era =>
    simp only [Session.abandon, under, under', mirrors.locks]
    exact mirrors.setKeyLock era _
  | waiting events named =>
    have state := mirrors.writer named
    simp only [Session.abandon, under, under', state.lock]
    exact mirrors.setWriter named (state.setLock _) rfl
  | sending events left named =>
    simp only [Session.abandon, under, under']
    exact mirrors

/-- A task at the stream waits for the same in both sessions: for a lock, or as long as the memories
let it. A task elsewhere does not wait in the session of the stream alone. -/
theorem Mirrors.wait (mirrors : s.Mirrors s' key ρ) (task : TaskId) :
    s'.wait? task = if s.stream? task = some key then s.wait? task else none := by
  split
  · rename_i own
    obtain ⟨activity, activity', under, under', same⟩ := mirrors.here own
    simp only [wait?, under, under', Option.map_some]
    cases same with
    | seeking | waiting => rfl
    | sending events left named asleep => exact congrArg (some ∘ Wait.pause) asleep.delay
  · rename_i away
    simp only [wait?, mirrors.idle away, Option.map_none]

end Turns
end Session
end SequenceLog

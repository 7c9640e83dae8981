import SequenceLog.Proofs.SearchTurn
import SequenceLog.Scenario.Commands
/-! The preparation of streams. A transport is made to keep a record of the streams that it was asked to
prepare and of how that ended, and else does what it did. Batches and bare appends leave no trace in the
record; a search asks at most once in a turn, when it has the lock of its stream and finds no writer.
Main statements: `searched_startLookup`,
`searched_queued` and `attempted_preparing`. -/
namespace SequenceLog
open Scenario
variable {τ σ κ μ χ : Type}

/-- The preparation of a stream begins or ends. -/
inductive Preparation where
  | began (key : Key)
  | ended (key : Key) (result : Except Fault Token)

namespace Preparation

def key : Preparation → Key
  | .began key | .ended key _ => key

/-- What is recorded in a turn: perhaps a preparation begins, and perhaps one ends. -/
def calls (key : Key) (tries : Bool) (outcome : Option (Except Fault Token)) : List Preparation :=
  (if tries then [.began key] else []) ++ (outcome.map (.ended key)).toList

theorem calls_filter_other {key other : Key} (different : other ≠ key) (tries : Bool)
    (outcome : Option (Except Fault Token)) :
    (calls other tries outcome).filter (·.key = key) = [] := by
  cases tries <;> cases outcome <;> simp [calls, Preparation.key, different]

theorem calls_filter_self (key : Key) (tries : Bool) (outcome : Option (Except Fault Token)) :
    (calls key tries outcome).filter (·.key = key) = calls key tries outcome := by
  cases tries <;> cases outcome <;> simp [calls, Preparation.key]

theorem calls_append (key : Key) (tries : Bool) (outcome : Option (Except Fault Token)) :
    calls key tries none ++ calls key false outcome = calls key tries outcome := by
  simp [calls]

theorem outcome_of_ended {key : Key} {tries : Bool} {outcome : Option (Except Fault Token)}
    {result : Except Fault Token} (member : .ended key result ∈ calls key tries outcome) :
    outcome = some result := by
  cases tries <;> cases outcome <;> simp_all [calls]

end Preparation

/-- A transport with a record. -/
structure Recorded (τ : Type) where
  transport : τ
  record : List Preparation

/-- A suspended operation, with the stream that it prepares if it does that. -/
structure RecordedStage (σ : Type) where
  stage : σ
  preparing : Option Key

abbrev RecordedSession (τ σ κ : Type) := Session (Recorded τ) (RecordedStage σ) κ

abbrev RecordedRun (τ σ κ μ χ : Type) := Run (Recorded τ) (RecordedStage σ) κ μ χ

namespace Recorded

def observe (record : List Preparation) (preparing : Option Key) (reply : Reply τ σ κ Token) :
    Reply (Recorded τ) (RecordedStage σ) κ Token :=
  match reply.progress with
  | .suspended stage => ⟨⟨reply.state, record⟩, reply.remarks, .suspended ⟨stage, preparing⟩⟩
  | .finished result =>
    ⟨⟨reply.state, record ++ (preparing.map (.ended · result)).toList⟩, reply.remarks,
      .finished result⟩

instance [Transport τ σ κ] : Transport (Recorded τ) (RecordedStage σ) κ where
  append t request := observe t.record none (Transport.append t.transport request)
  ensureStream t key :=
    observe (t.record ++ [.began key]) (some key) (Transport.ensureStream t.transport key)
  resume t stage signal :=
    observe t.record stage.preparing (Transport.resume t.transport stage.stage signal)
  wait stage := Transport.wait τ stage.stage

/-- Commands do not prepare streams. -/
def keep {ρ α : Type} (record : List Preparation) (reply : Reply τ ρ κ α) :
    Reply (Recorded τ) ρ κ α :=
  ⟨⟨reply.state, record⟩, reply.remarks, reply.progress⟩

instance [Commanded τ μ χ κ] : Commanded (Recorded τ) μ χ κ where
  isConnected t := Commanded.isConnected t.transport
  perform t command := keep t.record (Commanded.perform t.transport command)
  resume t stage signal := keep t.record (Commanded.resume t.transport stage signal)
  wait := Commanded.wait τ

theorem observe_none (record : List Preparation) (reply : Reply τ σ κ Token) :
    (observe record none reply).state.record = record ∧
      ∀ stage, (observe record none reply).progress = .suspended stage → stage.preparing = none := by
  unfold observe
  split <;> simp [eq_comm]

end Recorded

/-- The operation under way is marked with the stream that it prepares. -/
def Activity.Marked : Activity (RecordedStage σ) → Prop
  | .lookup key _ (.preparing stage) => stage.preparing = some key
  | .transport stage | .batch _ _ (.sending _ stage) => stage.preparing = none
  | .lookup _ _ .queued | .batch _ _ .queued => True

def Session.preparations (s : RecordedSession τ σ κ) (key : Key) : List Preparation :=
  s.transport.record.filter (·.key = key)

theorem Session.preparations_congr {s s' : RecordedSession τ σ κ}
    (record : s'.transport.record = s.transport.record) (key : Key) :
    s'.preparations key = s.preparations key :=
  congrArg (List.filter _) record

/-- A part of an operation that prepares nothing. -/
structure Unrecorded (s : RecordedSession τ σ κ) (stepped : Stepped (Recorded τ) (RecordedStage σ) κ) :
    Prop where
  record : stepped.session.transport.record = s.transport.record
  marked : ∀ activity, stepped.activity? = some activity → activity.Marked

theorem Unrecorded.after {s s' : RecordedSession τ σ κ}
    {stepped : Stepped (Recorded τ) (RecordedStage σ) κ} (unrecorded : Unrecorded s' stepped)
    (record : s'.transport.record = s.transport.record) : Unrecorded s stepped where
  record := unrecorded.record.trans record
  marked := unrecorded.marked

namespace Session
variable {s s' : RecordedSession τ σ κ} {id : WriterId} {events : List LogEvent}

theorem unrecorded_finished {result : Except Fault Answer}
    (record : s'.transport.record = s.transport.record) : Unrecorded s (s'.finished result) where
  record := record
  marked activity goes := by cases goes

theorem unrecorded_relay {reply : Reply τ σ κ Token} :
    Unrecorded s (s.relay (Recorded.observe s.transport.record none reply)) := by
  obtain ⟨record, marked⟩ := Recorded.observe_none s.transport.record reply
  refine ⟨record, fun activity goes => ?_⟩
  simp only [relay, Stepped.activity?] at goes
  cases progress : (Recorded.observe s.transport.record none reply).progress with
  | finished result => simp [progress] at goes
  | suspended stage =>
    rw [progress] at goes
    cases goes
    exact marked stage progress

theorem retire_record (reason : Fault) :
    (s.retire id reason).transport.record = s.transport.record := by
  simp only [retire, deregister]
  split <;> rfl

theorem releaseWriter_record : (s.releaseWriter id).transport.record = s.transport.record := by
  simp [releaseWriter]

variable [Transport τ σ κ]

theorem record_send (s : RecordedSession τ σ κ) (id : WriterId) (events : List LogEvent)
    (token : Token) :
    (s.send id events token).1.transport.record = s.transport.record ∧
      ∀ stage, (s.send id events token).2 = .suspended stage → stage.preparing = none :=
  Recorded.observe_none s.transport.record _

theorem record_resend (s : RecordedSession τ σ κ) (id : WriterId) (events : List LogEvent)
    (fault : Fault) (notices : List Notice) (expected : Expected) :
    (s.resend id events fault notices expected).1.transport.record = s.transport.record ∧
      ∀ stage, (s.resend id events fault notices expected).2 = .suspended stage →
        stage.preparing = none :=
  record_send ((s.note _).notice notices) ..

theorem unrecorded_settle (left : Nat) (result : Except Fault Token) :
    Unrecorded s (s.settle id events left result) := by
  refine settle_induct id events (motive := fun s _ _ stepped => Unrecorded s stepped)
    ?accepted ?stopped ?fatal ?waits ?again s left result
  case accepted =>
    intro s left token
    exact unrecorded_finished releaseWriter_record
  case stopped =>
    intro s left fault _
    exact unrecorded_finished releaseWriter_record
  case fatal =>
    intro s left fault notices _ _
    exact unrecorded_finished (releaseWriter_record.trans (retire_record fault))
  case waits =>
    intro s left fault expected notices stage _ _ waits
    obtain ⟨record, marked⟩ := s.record_resend id events fault notices expected
    refine ⟨record, fun activity goes => ?_⟩
    cases goes
    exact marked stage waits
  case again =>
    intro s left fault expected notices result _ _ _ resent ih
    exact ih.after (s.record_resend id events fault notices expected).1

theorem unrecorded_pursue {left : Nat} {progress : Progress (RecordedStage σ) Token}
    (marked : ∀ stage, progress = .suspended stage → stage.preparing = none) :
    Unrecorded s (s.pursue id events left progress) := by
  cases progress with
  | finished result => exact unrecorded_settle left result
  | suspended stage =>
    refine ⟨rfl, fun activity goes => ?_⟩
    cases goes
    exact marked stage rfl

theorem unrecorded_sendBatch : Unrecorded s (s.sendBatch id events) := by
  cases status : (s.writer id).status with
  | invalidated =>
    rw [sendBatch_invalidated status]
    exact unrecorded_finished releaseWriter_record
  | active =>
    obtain ⟨record, marked⟩ := s.record_send id events (s.writer id).token
    rw [sendBatch_active status]
    exact (unrecorded_pursue marked).after record

theorem unrecorded_startBatch (task : TaskId) (batch : Batch) :
    Unrecorded s (s.startBatch task id batch) := by
  unfold startBatch
  split
  · exact unrecorded_finished rfl
  · split
    · exact unrecorded_finished rfl
    · dsimp only
      split
      · exact unrecorded_sendBatch.after rfl
      · refine ⟨rfl, fun activity goes => ?_⟩
        cases goes
        trivial

theorem unrecorded_resumeBatch (task : TaskId) {stage : BatchStage (RecordedStage σ)}
    (signal : Signal)
    (marked : Activity.Marked (.batch id events stage)) :
    Unrecorded s (s.resumeBatch task id events stage signal) := by
  cases stage with
  | queued =>
    cases signal with
    | ready =>
      simp only [resumeBatch]
      split
      · exact unrecorded_sendBatch.after rfl
      · refine ⟨rfl, fun activity goes => ?_⟩
        cases goes
        trivial
    | expired | interrupted =>
      exact unrecorded_finished (by simp [setWriter_transport])
  | sending left stage =>
    obtain ⟨record, marked'⟩ := Recorded.observe_none s.transport.record
      (Transport.resume s.transport.transport stage.stage signal)
    have silent : stage.preparing = none := marked
    rw [resumeBatch_sending]
    rw [← silent] at record marked'
    refine (unrecorded_pursue fun stage' waits => ?_).after record
    exact (marked' stage' waits).trans silent

end Session

section Searches

/-- How the part of a search ends in which a stream is prepared: that takes longer, it failed, or a
writer is opened with the token that the stream has. `past` is what was recorded until then, and `new`
the number of the next writer. -/
inductive Attempted (key : Key) (era : Nat) (past : List Preparation) (new : WriterId) :
    Stepped (Recorded τ) (RecordedStage σ) κ → Option (Except Fault Token) → Prop
  | waits {s stage} : s.transport.record = past → stage.preparing = some key →
      Attempted key era past new ⟨s, .suspended (.lookup key era (.preparing stage))⟩ none
  | failed {s fault} : s.transport.record = past ++ [.ended key (.error fault)] →
      Attempted key era past new ⟨s, .finished (.error fault)⟩ (some (.error fault))
  | opened {s token} : s.transport.record = past ++ [.ended key (.ok token)] →
      (s.writer new).token = token →
      Attempted key era past new ⟨s, .finished (.ok (.writer new))⟩ (some (.ok token))

/-- How a turn of a search ends that begins or that stood in the queue. It is given a writer that is
registered, it waits for the lock, it stops waiting, or it has the lock and prepares the stream. Only one
that looks for a writer and finds none, or that does not look, is kept waiting. -/
inductive Searched (key : Key) (era : Nat) (s : RecordedSession τ σ κ) (stops looks obtains : Prop) :
    Stepped (Recorded τ) (RecordedStage σ) κ → Bool → Option (Except Fault Token) → Prop
  | given {s' id} : s'.transport.record = s.transport.record →
      s.pool.writers.get? key = some id →
      Searched key era s stops looks obtains ⟨s', .finished (.ok (.writer id))⟩ false none
  | queues {s'} : s'.transport.record = s.transport.record → ¬ obtains →
      (looks → s.pool.writers.get? key = none) →
      Searched key era s stops looks obtains ⟨s', .suspended (.lookup key era .queued)⟩ false none
  | stops {s'} : s'.transport.record = s.transport.record → stops →
      Searched key era s stops looks obtains ⟨s', .finished (.error .stopped)⟩ false none
  | tries {stepped outcome} : s.pool.writers.get? key = none → obtains →
      Attempted key era (s.transport.record ++ [.began key]) s.writers.length stepped outcome →
      Searched key era s stops looks obtains stepped true outcome

variable {s : RecordedSession τ σ κ} {key : Key} {era : Nat} {past : List Preparation}

theorem attempted_openPrepared {result : Except Fault Token}
    (record : s.transport.record = past ++ [.ended key result]) (attempts : 1 ≤ s.pool.maxAttempts) :
    Attempted key era past s.writers.length (s.openPrepared key era result) (some result) := by
  cases result with
  | error fault =>
    refine .failed ?_
    rw [Session.releaseKey_transport, record]
  | ok token =>
    have enough : ¬ s.pool.maxAttempts < 1 := by omega
    simp only [Session.openPrepared, Except.bind, Writer.new?, if_neg enough]
    refine .opened ?_ ?_
    · rw [Session.releaseKey_transport]
      exact record
    · rw [Session.writer_new (Session.releaseKey_writers _)]

/-- A transport that has done something about a stream has taken that down. -/
theorem observe_key (record : List Preparation) (key : Key) (reply : Reply τ σ κ Token) :
    (∃ stage, (Recorded.observe record (some key) reply).progress = .suspended stage ∧
      stage.preparing = some key ∧ (Recorded.observe record (some key) reply).state.record = record) ∨
    ∃ result, (Recorded.observe record (some key) reply).progress = .finished result ∧
      (Recorded.observe record (some key) reply).state.record = record ++ [.ended key result] := by
  unfold Recorded.observe
  cases reply.progress with
  | suspended stage => exact .inl ⟨_, rfl, rfl, rfl⟩
  | finished result => exact .inr ⟨_, rfl, rfl⟩

variable {stops looks obtains : Prop} {stepped : Stepped (Recorded τ) (RecordedStage σ) κ} {tries : Bool}
  {outcome : Option (Except Fault Token)} {new : WriterId}

theorem Attempted.record (attempted : Attempted key era past new stepped outcome) :
    stepped.session.transport.record = past ++ Preparation.calls key false outcome := by
  cases attempted <;> simp_all [Preparation.calls]

theorem Attempted.marked (attempted : Attempted key era past new stepped outcome) :
    ∀ activity, stepped.activity? = some activity → activity.Marked := by
  intro activity goes
  cases attempted with
  | waits _ marked =>
    cases goes
    exact marked
  | failed | opened => cases goes

theorem Searched.record (searched : Searched key era s stops looks obtains stepped tries outcome) :
    stepped.session.transport.record =
      s.transport.record ++ Preparation.calls key tries outcome := by
  cases searched with
  | given record | queues record | stops record => simpa [Preparation.calls] using record
  | tries _ _ attempted => simpa [Preparation.calls] using attempted.record

theorem Searched.marked (searched : Searched key era s stops looks obtains stepped tries outcome) :
    ∀ activity, stepped.activity? = some activity → activity.Marked := by
  intro activity goes
  cases searched with
  | given | stops => cases goes
  | queues =>
    cases goes
    trivial
  | tries _ _ attempted => exact attempted.marked activity goes

/-- A search that looks for a writer that is there is given it. -/
theorem Searched.served (searched : Searched key era s stops looks obtains stepped tries outcome)
    (look : looks) (goes : ¬ stops) {id : WriterId} (there : s.pool.writers.get? key = some id) :
    stepped.result? = some (.ok (.writer id)) := by
  cases searched with
  | given _ there' =>
    cases there.symm.trans there'
    rfl
  | queues _ _ vacant => cases there.symm.trans (vacant look)
  | stops _ told => exact absurd told goes
  | tries vacant => cases there.symm.trans vacant

variable [Transport τ σ κ]

theorem searched_prepare {lock : Mutex} (creates : s.pool.createStreams = true)
    (attempts : 1 ≤ s.pool.maxAttempts) (has : obtains) :
    ∃ tries outcome, Searched key era s stops looks obtains
      ((s.setKeyLock era key lock).prepare key era) tries outcome := by
  unfold Session.prepare
  split
  · rename_i id there
    exact ⟨false, none, .given (by rw [Session.releaseKey_transport]; rfl) there⟩
  · rename_i vacant
    rw [if_pos (show (s.setKeyLock era key lock).pool.createStreams = true from creates)]
    rcases observe_key ((s.setKeyLock era key lock).transport.record ++ [.began key]) key
        (Transport.ensureStream (s.setKeyLock era key lock).transport.transport key) with
      ⟨stage, progress, marked, record⟩ | ⟨result, progress, record⟩
    · refine ⟨true, none, .tries vacant has ?_⟩
      simp only [Transport.ensureStream, progress]
      exact .waits record marked
    · refine ⟨true, some result, .tries vacant has ?_⟩
      simp only [Transport.ensureStream, progress]
      exact attempted_openPrepared (s := (s.setKeyLock era key lock).absorb _) record attempts

theorem searched_startLookup (creates : s.pool.createStreams = true)
    (attempts : 1 ≤ s.pool.maxAttempts) (task : TaskId) :
    ∃ tries outcome, Searched key s.pool.era s False True
      ((s.pool.locks s.pool.era key).available = true) (s.startLookup task key) tries outcome := by
  unfold Session.startLookup
  split
  · rename_i id there
    exact ⟨false, none, .given rfl there⟩
  · rename_i vacant
    dsimp only
    split
    · rename_i available
      exact searched_prepare creates attempts available
    · rename_i taken
      exact ⟨false, none, .queues rfl taken fun _ => vacant⟩

theorem searched_queued (creates : s.pool.createStreams = true) (attempts : 1 ≤ s.pool.maxAttempts)
    (task : TaskId) (signal : Signal) :
    let granted := signal = .ready ∧ (s.pool.locks era key).isGranted task = true
    ∃ tries outcome, Searched key era s (signal ≠ .ready) granted granted
      (s.resumeLookup task key era .queued signal) tries outcome := by
  cases signal with
  | ready =>
    simp only [Session.resumeLookup]
    split
    · rename_i granted
      exact searched_prepare creates attempts ⟨trivial, granted⟩
    · rename_i refused
      exact ⟨false, none, .queues rfl (fun has => refused has.2) fun has => absurd has.2 refused⟩
  | expired | interrupted => exact ⟨false, none, .stops (by simp [Session.setKeyLock]) (by simp)⟩

theorem attempted_preparing (attempts : 1 ≤ s.pool.maxAttempts) (task : TaskId)
    {stage : RecordedStage σ} (signal : Signal) (own : stage.preparing = some key) :
    ∃ outcome, Attempted key era s.transport.record s.writers.length
      (s.resumeLookup task key era (.preparing stage) signal) outcome := by
  rcases observe_key s.transport.record key
      (Transport.resume s.transport.transport stage.stage signal) with
    ⟨stage', progress, marked, record⟩ | ⟨result, progress, record⟩
  · refine ⟨none, ?_⟩
    simp only [Session.resumeLookup, Transport.resume, own, progress]
    exact .waits record marked
  · refine ⟨some result, ?_⟩
    simp only [Session.resumeLookup, Transport.resume, own, progress]
    exact attempted_openPrepared (s := s.absorb _) record attempts

theorem recorded_resumeLookup (creates : s.pool.createStreams = true)
    (attempts : 1 ≤ s.pool.maxAttempts) (task : TaskId) {stage : LookupStage (RecordedStage σ)}
    (signal : Signal) (marked : Activity.Marked (.lookup key era stage)) :
    ∃ tries outcome, (s.resumeLookup task key era stage signal).session.transport.record =
        s.transport.record ++ Preparation.calls key tries outcome ∧
      ∀ activity, (s.resumeLookup task key era stage signal).activity? = some activity →
        activity.Marked := by
  cases stage with
  | queued =>
    obtain ⟨tries, outcome, searched⟩ := searched_queued (s := s) creates attempts task signal
    exact ⟨tries, outcome, searched.record, searched.marked⟩
  | preparing stage =>
    obtain ⟨outcome, attempted⟩ := attempted_preparing attempts task signal marked
    exact ⟨false, outcome, attempted.record, attempted.marked⟩

end Searches
end SequenceLog

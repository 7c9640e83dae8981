import SequenceLog.Memory
import SequenceLog.Proofs.Attempts
/-! Transports that answer alike. A log is what there is to know of a service that enforces sequence
tokens, for the writer of one of its streams. A transport is faithful to the log that it shows if it
answers every append as the log does, at once or after a wait. What a batch comes to is then up to the
log, and faults differ at most in their causes. Main statements: `heads_sendBatch` and
`heads_resumeBatch`. -/
namespace SequenceLog
variable {τ σ κ : Type}

namespace Fault

/-- The fault without what it was raised because of. -/
def uncaused : Fault → Fault
  | .plain kind message _ => .plain kind message none
  | .tokenRejected message expected structured _ => .tokenRejected message expected structured none
  | .unrecoverable group stream reason chained =>
    .unrecoverable group stream reason.uncaused chained
  | fault => fault

theorem message_uncaused : ∀ fault : Fault, fault.uncaused.message = fault.message
  | .plain kind _ _ => by cases kind <;> rfl
  | .tokenRejected .. => rfl
  | .unrecoverable _ _ reason _ => by simp only [uncaused, message, message_uncaused reason]
  | .writerInvalid .. | .service _ | .endpoint _ | .cancelled _ => rfl

theorem isFailure_uncaused (fault : Fault) : fault.uncaused.isFailure = fault.isFailure := by
  cases fault <;> rfl

theorem evidence_uncaused (fault : Fault) : fault.uncaused.evidence = fault.evidence := by
  cases fault with
  | tokenRejected message expected structured cause => cases structured <;> rfl
  | plain kind message cause =>
    exact congrArg Evidence.wording (message_uncaused (.plain kind message cause))
  | unrecoverable group stream reason chained =>
    exact congrArg Evidence.wording (message_uncaused (.unrecoverable group stream reason chained))
  | _ => rfl

theorem expected?_uncaused (fault : Fault) : fault.uncaused.expected? = fault.expected? := by
  rw [expected?, expected?, evidence_uncaused]

end Fault

def uncaused {α : Type} (result : Except Fault α) : Except Fault α := result.mapError Fault.uncaused

def Deed.uncaused : Deed → Deed
  | .settled result => .settled (SequenceLog.uncaused result)
  | deed => deed

/-- A value that can be a sequence token: null, or a text that is not empty. -/
def Json.Value.IsToken : Json.Value → Prop
  | .null => True
  | .text t => t.isEmpty = false
  | _ => False

namespace Json.Value.IsToken
variable {token other : Token}

theorem orNull (proper : token.IsToken) : token.orNull = token := by
  cases token with
  | null => rfl
  | text t => simp only [Json.Value.orNull, isEmpty, show t.isEmpty = false from proper]; rfl
  | _ => cases proper

theorem same_iff (proper : token.IsToken) (proper' : other.IsToken) :
    token.same other = true ↔ token = other := by
  cases token with
  | null =>
    cases other with
    | null => simp [same]
    | text t => simp [same, sameNumber, ratio?]
    | _ => cases proper'
  | text t =>
    cases other with
    | null => simp [same, sameNumber, ratio?]
    | text t' => simp [same]
    | _ => cases proper'
  | _ => cases proper

end Json.Value.IsToken

theorem Memory.isToken_tokenText (n : Nat) : Json.Value.IsToken (.text (tokenText n)) := by
  have written : Calendar.padded 56 n ≠ [] := by
    unfold Calendar.padded
    cases Nat.toDigits 10 n <;> simp
  cases digits : Calendar.padded 56 n with
  | nil => exact absurd digits written
  | cons digit rest => simp [Json.Value.IsToken, tokenText, digits, Text.ofChars, Text.isEmpty]

theorem Rejection.isToken_parse {text : Text} {expected : Expected}
    (parsed : parse text = some expected) : expected.token.IsToken := by
  simp only [parse] at parsed
  split at parsed
  · split at parsed
    · cases parsed
    · split at parsed
      · cases parsed
      · rename_i filled
        split at parsed <;> cases parsed
        · trivial
        · simpa [Json.Value.IsToken] using filled
  · cases parsed

/-- What there is to know of a service that enforces sequence tokens, for the writer of a stream. -/
structure Log where
  stream : StoredStream
  /-- How many tokens the service gave out. -/
  issued : Nat
  /-- Refusals name the expected token as data. -/
  structured : Bool
  /-- What others do before each of the next appends: they make the stream expect another token, or
  nothing. -/
  changes : List (Option Token)

namespace Log

def expecting (log : Log) (token : Token) : Log :=
  { log with stream := { log.stream with token := token } }

def disturbed (log : Log) : Log :=
  match log.changes with
  | [] => log
  | none :: rest => { log with changes := rest }
  | some token :: rest => { log with changes := rest }.expecting token

def refusal (log : Log) : Fault :=
  let wording := Memory.rejectionText log.stream.token
  if log.structured then .tokenRejected wording log.stream.token true none
  else .tokenRejected wording .null false none

/-- The log stores the events of an append that carries the expected token, and gives out the next
token. It refuses every other append. -/
def answer (log : Log) (r : Append) : Log × Except Fault Token :=
  if r.token = log.stream.token then
    let next := .text (Memory.tokenText (log.issued + 1))
    ({ log with stream := ⟨log.stream.events ++ r.events, next⟩, issued := log.issued + 1 }, .ok next)
  else (log, .error log.refusal)

def receive (log : Log) (r : Append) : Log × Except Fault Token := log.disturbed.answer r

structure Proper (log : Log) : Prop where
  token : log.stream.token.IsToken
  changes : ∀ token, some token ∈ log.changes → token.IsToken

end Log

/-- The outcomes that a log can have for an append. A token that a refusal tells can be sent. -/
inductive Usable : Except Fault Token → Prop
  | accepted {token : Token} : token.IsToken → Usable (.ok token)
  | refused {fault : Fault} : fault.isFailure = true →
      (∀ expected, fault.expected? = some expected → expected.token.IsToken) →
      Usable (.error fault)

namespace Log
variable {log : Log}

theorem usable_refusal (proper : log.stream.token.IsToken) : Usable (.error log.refusal) := by
  unfold refusal
  dsimp only
  split
  · refine .refused rfl fun expected told => ?_
    cases told
    exact proper
  · exact .refused rfl fun expected told => Rejection.isToken_parse told

theorem Proper.disturbed (proper : log.Proper) : log.disturbed.Proper := by
  obtain ⟨stream, issued, structured, changes⟩ := log
  cases changes with
  | nil => exact proper
  | cons change rest =>
    have later : ∀ token, some token ∈ rest → token.IsToken := fun token member =>
      proper.changes token (List.mem_cons_of_mem _ member)
    cases change with
    | none => exact ⟨proper.token, later⟩
    | some token => exact ⟨proper.changes token List.mem_cons_self, later⟩

theorem Proper.answer (proper : log.Proper) (r : Append) :
    (log.answer r).1.Proper ∧ Usable (log.answer r).2 := by
  unfold Log.answer
  split
  · have next := Memory.isToken_tokenText (log.issued + 1)
    exact ⟨⟨next, proper.changes⟩, .accepted next⟩
  · exact ⟨proper, usable_refusal proper.token⟩

theorem Proper.receive (proper : log.Proper) (r : Append) :
    (log.receive r).1.Proper ∧ Usable (log.receive r).2 :=
  proper.disturbed.answer r

end Log

/-- What a batch comes to: the log after it, what its writer did, and what came of the last append. -/
structure Conclusion where
  log : Log
  deeds : List Deed
  outcome : Except Fault Token

def Conclusion.behind (front : List Deed) (c : Conclusion) : Conclusion :=
  { c with deeds := front ++ c.deeds }

theorem Conclusion.behind_behind (first second : List Deed) (c : Conclusion) :
    (c.behind second).behind first = c.behind (first ++ second) := by
  simp [behind]

namespace Log
variable (key : Key) (events : List LogEvent)

/-- What a batch comes to after the outcome of an append, with `left` more to try. -/
def conclude : (left : Nat) → Log → Except Fault Token → Conclusion
  | _, log, .ok token => ⟨log, [.settled (.ok token)], .ok token⟩
  | left, log, .error fault =>
    match fault.expected?, left with
    | some expected, left + 1 =>
      let request := ⟨key, expected.token, events⟩
      (conclude left (log.receive request).1 (log.receive request).2).behind
        [.settled (.error fault), .sent request]
    | _, _ => ⟨log, [.settled (.error fault), .removed key], .error fault⟩

theorem conclude_accepted (left : Nat) (log : Log) (token : Token) :
    log.conclude key events left (.ok token) = ⟨log, [.settled (.ok token)], .ok token⟩ := by
  cases left <;> rfl

theorem conclude_fatal {left : Nat} (log : Log) {fault : Fault}
    (fatal : fault.expected? = none ∨ left = 0) :
    log.conclude key events left (.error fault) =
      ⟨log, [.settled (.error fault), .removed key], .error fault⟩ := by
  rcases fatal with untold | rfl
  · cases left <;> simp [conclude, untold]
  · cases told : fault.expected? <;> simp [conclude, told]

theorem conclude_again (left : Nat) (log : Log) {fault : Fault} {expected : Expected}
    (told : fault.expected? = some expected) :
    log.conclude key events (left + 1) (.error fault) =
      ((log.receive ⟨key, expected.token, events⟩).1.conclude key events left
        (log.receive ⟨key, expected.token, events⟩).2).behind
        [.settled (.error fault), .sent ⟨key, expected.token, events⟩] := by
  simp [conclude, told]

theorem Proper.conclude {log : Log} (proper : log.Proper) {outcome : Except Fault Token}
    (usable : Usable outcome) (left : Nat) :
    (log.conclude key events left outcome).log.Proper ∧
      Usable (log.conclude key events left outcome).outcome := by
  induction left generalizing log outcome with
  | zero =>
    cases outcome with
    | ok token => exact ⟨proper, usable⟩
    | error fault =>
      rw [conclude_fatal key events log (.inr rfl)]
      exact ⟨proper, usable⟩
  | succ left ih =>
    cases outcome with
    | ok token => exact ⟨proper, usable⟩
    | error fault =>
      cases told : fault.expected? with
      | none =>
        rw [conclude_fatal key events log (.inl told)]
        exact ⟨proper, usable⟩
      | some expected =>
        rw [conclude_again key events left log told]
        obtain ⟨proper', usable'⟩ := proper.receive ⟨key, expected.token, events⟩
        exact ih proper' usable'

/-- What a batch comes to of which nothing is sent yet. -/
def serve (left : Nat) (log : Log) (token : Token) : Conclusion :=
  let request := ⟨key, token, events⟩
  ((log.receive request).1.conclude key events left (log.receive request).2).behind [.sent request]

theorem Proper.serve {log : Log} (proper : log.Proper) (left : Nat) (token : Token) :
    (log.serve key events left token).log.Proper ∧
      Usable (log.serve key events left token).outcome := by
  obtain ⟨proper', usable'⟩ := proper.receive ⟨key, token, events⟩
  exact proper'.conclude key events usable' left

end Log

section Faithful
variable (shows : τ → Log → Prop)

/-- An operation is over, with the log and the outcome that were to come. -/
structure Arrives (reply : Reply τ σ κ Token) (answer : Log × Except Fault Token) : Prop where
  outcome : ∃ result, reply.progress = .finished result ∧ uncaused result = answer.2
  shown : shows reply.state answer.1

/-- An operation comes to what the log answers, at once or when its wait is over. -/
inductive Answers [Transport τ σ κ] (reply : Reply τ σ κ Token)
    (answer : Log × Except Fault Token) : Prop
  | now : Arrives shows reply answer → Answers reply answer
  | later {stage : σ} : reply.progress = .suspended stage →
      Arrives shows (Transport.resume reply.state stage .ready) answer → Answers reply answer

/-- The transport answers the appends to a stream as the log that it shows. -/
def Faithful [Transport τ σ κ] (key : Key) : Prop :=
  ∀ {t log r}, shows t log → log.Proper → r.key = key → r.token.IsToken →
    Answers shows (Transport.append t r) (log.receive r)

variable {shows} [Transport τ σ κ] {reply : Reply τ σ κ Token} {answer : Log × Except Fault Token}

theorem Answers.finished (answers : Answers shows reply answer) {result : Except Fault Token}
    (ended : reply.progress = .finished result) :
    uncaused result = answer.2 ∧ shows reply.state answer.1 := by
  cases answers with
  | now arrives =>
    obtain ⟨result', ended', same⟩ := arrives.outcome
    cases ended.symm.trans ended'
    exact ⟨same, arrives.shown⟩
  | later waits => cases ended.symm.trans waits

theorem Answers.suspended (answers : Answers shows reply answer) {stage : σ}
    (waits : reply.progress = .suspended stage) :
    Arrives shows (Transport.resume reply.state stage .ready) answer := by
  cases answers with
  | now arrives =>
    obtain ⟨result, ended, -⟩ := arrives.outcome
    cases waits.symm.trans ended
  | later waits' arrives =>
    cases waits.symm.trans waits'
    exact arrives

end Faithful

def Writer.after (w : Writer) : Except Fault Token → Writer
  | .ok token => { w with token := token }
  | .error _ => { w with status := .invalidated }

def Writer.reply (w : Writer) : Except Fault Token → Except Fault Answer
  | .ok _ => .ok .nothing
  | .error fault => .error (w.appendFault fault)

def Pool.after (p : Pool) (w : Writer) (id : WriterId) : Except Fault Token → Pool
  | .ok _ => p
  | .error _ => p.without w id

namespace Session
variable {shows : τ → Log → Prop} {key : Key} {id : WriterId} {events : List LogEvent}

/-- What a session has noted about a writer, without the causes of faults. -/
def gist (s : Session τ σ κ) (id : WriterId) : List Deed := (s.deeds id).map Deed.uncaused

theorem gist_of_deeds {s s' : Session τ σ κ} {more : List Deed}
    (grown : s'.deeds id = s.deeds id ++ more) : s'.gist id = s.gist id ++ more.map Deed.uncaused := by
  simp [gist, grown]

variable [Transport τ σ κ]

variable (shows key id events) in
/-- A turn of a batch brings it nearer to its conclusion. If the batch waits after it, fewer than
`bound` appends may follow the one it waits for. -/
inductive Heads (s : Session τ σ κ) (bound : Nat) (c : Conclusion) : Stepped τ σ κ → Prop
  | ends {s' : Session τ σ κ} {result : Except Fault Answer} :
      shows s'.transport c.log →
      s'.writer id =
        { (s.writer id).after c.outcome with lock := (s.writer id).lock.release.1 } →
      s'.pool = s.pool.after (s.writer id) id c.outcome →
      uncaused result = (s.writer id).reply c.outcome →
      s'.gist id = s.gist id ++ c.deeds → Heads s bound c (s'.finished result)
  | waits {s' : Session τ σ κ} {left : Nat} {stage : σ} {front : List Deed} {log : Log}
      {outcome : Except Fault Token} :
      left < bound → s'.writer id = s.writer id → s'.pool = s.pool →
      Arrives shows (Transport.resume s'.transport stage .ready) (log, outcome) →
      log.Proper → Usable outcome → s'.gist id = s.gist id ++ front →
      c = (log.conclude key events left outcome).behind front →
      Heads s bound c (s'.suspended (.batch id events (.sending left stage)))

theorem Heads.behind {s s' : Session τ σ κ} {bound bound' : Nat} {c : Conclusion}
    {front : List Deed} {stepped : Stepped τ σ κ} (heads : Heads shows key id events s bound c stepped)
    (writer : s.writer id = s'.writer id) (pool : s.pool = s'.pool)
    (gist : s.gist id = s'.gist id ++ front) (fewer : bound ≤ bound') :
    Heads shows key id events s' bound' (c.behind front) stepped := by
  cases heads with
  | ends shown writer' pool' reply gist' =>
    refine .ends shown (writer ▸ writer') (writer ▸ pool ▸ pool') (writer ▸ reply) ?_
    rw [gist', gist, List.append_assoc]
    rfl
  | waits less writer' pool' arrives proper usable gist' same =>
    refine .waits (Nat.lt_of_lt_of_le less fewer) (writer'.trans writer) (pool'.trans pool) arrives
      proper usable ?_ (same ▸ Conclusion.behind_behind ..)
    rw [gist', gist, List.append_assoc]

variable {s : Session τ σ κ} {log : Log}

theorem heads_pursue {s' : Session τ σ κ} {left bound : Nat} {front : List Deed}
    {reply : Reply τ σ κ Token} {answer : Log × Except Fault Token}
    (answers : Answers shows reply answer) (proper : answer.1.Proper) (usable : Usable answer.2)
    (state : s.transport = reply.state) (fewer : left < bound)
    (settled : ∀ result, reply.progress = .finished result → uncaused result = answer.2 →
      shows s.transport answer.1 →
      Heads shows key id events s left (answer.1.conclude key events left answer.2)
        (s.settle id events left result))
    (writer : s.writer id = s'.writer id) (pool : s.pool = s'.pool)
    (gist : s.gist id = s'.gist id ++ front) :
    Heads shows key id events s' bound
      ((answer.1.conclude key events left answer.2).behind front)
      (s.pursue id events left reply.progress) := by
  cases progress : reply.progress with
  | suspended stage =>
    have arrives := answers.suspended progress
    rw [← state] at arrives
    exact .waits fewer writer pool arrives proper usable gist rfl
  | finished result =>
    obtain ⟨same, shown⟩ := answers.finished progress
    rw [← state] at shown
    exact (settled result progress same shown).behind writer pool gist (Nat.le_of_lt fewer)

/-- An append that was refused is sent again, with the token that the refusal told. -/
theorem heads_resend (faithful : Faithful shows key) (sameKey : (s.writer id).key = key)
    (shown : shows s.transport log) (proper : log.Proper) {fault : Fault} {expected : Expected}
    (told : fault.uncaused.expected? = some expected) (usable : Usable (.error fault.uncaused))
    (events : List LogEvent) (left : Nat) (notices : List Notice)
    (settled : ∀ result log' outcome, (s.resend id events fault notices expected).2 = .finished result →
      shows (s.resend id events fault notices expected).1.transport log' → log'.Proper →
      Usable outcome → uncaused result = outcome →
      Heads shows key id events (s.resend id events fault notices expected).1 left
        (log'.conclude key events left outcome)
        ((s.resend id events fault notices expected).1.settle id events left result)) :
    Heads shows key id events s (left + 1)
      (log.conclude key events (left + 1) (.error fault.uncaused))
      ((s.resend id events fault notices expected).1.pursue id events left
        (s.resend id events fault notices expected).2) := by
  have token : expected.token.IsToken := by
    cases usable with
    | refused _ tokens => exact tokens expected told
  obtain ⟨proper', usable'⟩ := proper.receive ⟨key, expected.token, events⟩
  have answers : Answers shows (Transport.append s.transport
      ((s.writer id).request expected.token events)) (log.receive ⟨key, expected.token, events⟩) := by
    rw [Writer.request, sameKey]
    exact faithful shown proper rfl token
  rw [Log.conclude_again key events left log told]
  refine heads_pursue answers proper' usable' rfl (Nat.lt_succ_self left) ?_ rfl rfl ?_
  · intro result ended same shown'
    exact settled result _ _ ended shown' proper' usable' same
  · rw [gist_of_deeds (deeds_resend s id events fault notices expected), Writer.request, sameKey]
    rfl

/-- What came of an append leads to what the log makes of it. -/
theorem heads_settle (faithful : Faithful shows key) (known : id < s.writers.length)
    (sameKey : (s.writer id).key = key) (shown : shows s.transport log) (proper : log.Proper)
    {outcome : Except Fault Token} (usable : Usable outcome) (left : Nat)
    {result : Except Fault Token} (same : uncaused result = outcome) :
    Heads shows key id events s left (log.conclude key events left outcome)
      (s.settle id events left result) := by
  subst same
  -- over the attempts that are left, with the log moving on along with the session
  refine settle_induct id events
    (motive := fun s left result stepped => ∀ log, id < s.writers.length →
      (s.writer id).key = key → shows s.transport log → log.Proper → Usable (uncaused result) →
      Heads shows key id events s left (log.conclude key events left (uncaused result)) stepped)
    ?accepted ?stopped ?fatal ?waits ?again s left result log known sameKey shown proper usable
  case accepted =>
    intro s left token log known sameKey shown proper usable
    have adopted := writer_adopt (s.note [.settled id (.ok token)]) id known token
    have known' : id < ((s.note [.settled id (.ok token)]).adopt id token).writers.length := by
      simpa [adopt] using known
    rw [show uncaused (.ok token : Except Fault Token) = .ok token from rfl, Log.conclude_accepted]
    refine .ends ?_ ?_ ?_ rfl ?_
    · rw [releaseWriter_transport]
      exact shown
    · rw [writer_releaseWriter _ id known', adopted]
      rfl
    · rw [releaseWriter_pool]
      rfl
    · have grown : (((s.note [.settled id (.ok token)]).adopt id token).releaseWriter id).deeds id =
          s.deeds id ++ [.settled (.ok token)] := by simp [Happening.deed?]
      exact gist_of_deeds grown
  case stopped =>
    intro s left fault passes log known sameKey shown proper usable
    cases usable with
    | refused failed =>
      rw [Fault.isFailure_uncaused, passes] at failed
      cases failed
  case fatal =>
    intro s left fault notices failed last log known sameKey shown proper usable
    let noticed := (s.note [.settled id (.error fault)]).notice notices
    have known' : id < (noticed.retire id fault).writers.length :=
      (within_retire (s := noticed) known fault).known known
    have fatal : fault.uncaused.expected? = none ∨ left = 0 :=
      last.imp_left fault.expected?_uncaused.trans
    rw [show uncaused (.error fault : Except Fault Token) = .error fault.uncaused from rfl,
      Log.conclude_fatal key events log fatal]
    refine .ends ?_ ?_ ?_ rfl ?_
    · rw [releaseWriter_transport, retire_transport]
      exact shown
    · rw [writer_releaseWriter _ id known', writer_retire noticed id known]
      rfl
    · rw [releaseWriter_pool, retire_pool noticed id known]
      rfl
    · have grown : ((noticed.retire id fault).releaseWriter id).deeds id =
          s.deeds id ++ [.settled (.error fault), .removed key] := by
        rw [deeds_releaseWriter, deeds_retire noticed id known]
        simp [noticed, Happening.deed?, sameKey]
      exact gist_of_deeds grown
  case waits =>
    intro s left fault expected notices stage failed told progress log known sameKey shown proper
      usable
    have heads := heads_resend faithful sameKey shown proper (fault.expected?_uncaused.trans told)
      usable events left notices fun result _ _ ended => by
        cases ended.symm.trans progress
    rwa [progress] at heads
  case again =>
    intro s left fault expected notices result failed told progress resent ih log known sameKey shown
      proper usable
    have heads := heads_resend faithful sameKey shown proper (fault.expected?_uncaused.trans told)
      usable events left notices fun result' log' outcome ended shown' proper' usable' same => by
        cases ended.symm.trans progress
        subst same
        exact ih log' known sameKey shown' proper' usable'
    rwa [progress] at heads

theorem heads_sendBatch (faithful : Faithful shows key) (known : id < s.writers.length)
    (active : (s.writer id).status = .active) (sameKey : (s.writer id).key = key)
    (shown : shows s.transport log) (proper : log.Proper) (token : (s.writer id).token.IsToken)
    (events : List LogEvent) :
    Heads shows key id events s ((s.writer id).retries + 1)
      (log.serve key events (s.writer id).retries (s.writer id).token) (s.sendBatch id events) := by
  obtain ⟨proper', usable'⟩ := proper.receive ⟨key, (s.writer id).token, events⟩
  have answers : Answers shows (Transport.append s.transport
      ((s.writer id).request (s.writer id).token events))
      (log.receive ⟨key, (s.writer id).token, events⟩) := by
    rw [Writer.request, sameKey]
    exact faithful shown proper rfl token
  rw [sendBatch_active active]
  refine heads_pursue answers proper' usable' rfl (Nat.lt_succ_self _) ?_ rfl rfl ?_
  · intro result _ same shown'
    exact heads_settle (s := (s.send id events _).1) faithful known sameKey shown' proper' usable' _
      same
  · rw [gist_of_deeds (deeds_send s id events _), Writer.request, sameKey]
    rfl

/-- A batch goes on when the append that it waits for is over. -/
theorem heads_resumeBatch (faithful : Faithful shows key) (known : id < s.writers.length)
    (sameKey : (s.writer id).key = key) (proper : log.Proper) {outcome : Except Fault Token}
    (usable : Usable outcome) {stage : σ}
    (arrives : Arrives shows (Transport.resume s.transport stage .ready) (log, outcome))
    (task : TaskId) (events : List LogEvent) (left : Nat) :
    Heads shows key id events s left (log.conclude key events left outcome)
      (s.resumeBatch task id events (.sending left stage) .ready) := by
  obtain ⟨⟨result, ended, same⟩, shown⟩ := arrives
  rw [resumeBatch_sending, ended]
  have heads : Heads shows key id events (s.absorb _) left (log.conclude key events left outcome) _ :=
    heads_settle (s := s.absorb _) faithful known sameKey shown proper usable left same
  have quiet : (s.absorb (Transport.resume s.transport stage .ready)).gist id = s.gist id ++ [] := by
    simp [gist]
  have since : Heads shows key id events s left
      ((log.conclude key events left outcome).behind []) _ :=
    heads.behind rfl rfl quiet (Nat.le_refl left)
  exact since

end Session
end SequenceLog

import SequenceLog.Session.Basic
/-! Writing a batch. The writer's lock is held from the first append to the last retry. A rejection
that names the expected token is answered with another append, as long as attempts are left; every
other failure retires the writer. A cancellation only lets the lock go. -/
namespace SequenceLog.Session
variable {τ σ κ : Type} [Transport τ σ κ]

omit [Transport τ σ κ] in
def releaseWriter (s : Session τ σ κ) (id : WriterId) : Session τ σ κ :=
  let w := s.writer id
  let (lock, woken) := w.lock.release
  (s.setWriter id { w with lock := lock }).wake woken

omit [Transport τ σ κ] in
def adopt (s : Session τ σ κ) (id : WriterId) (token : Token) : Session τ σ κ :=
  s.setWriter id { s.writer id with token := token }

omit [Transport τ σ κ] in
/-- Tells the writer's registry that it retires. A registry that refuses does not stop it. -/
def deregister (s : Session τ σ κ) (id : WriterId) : Session τ σ κ :=
  let w := s.writer id
  let s := s.note [.removal w.key id]
  match w.registry with
  | .pool => s.remove w.key (some id)
  | .outside none => s
  | .outside (some refusal) => s.notice [w.removalFailedNotice refusal]

omit [Transport τ σ κ] in
def retire (s : Session τ σ κ) (id : WriterId) (reason : Fault) : Session τ σ κ :=
  let w := s.writer id
  ((s.notice [w.retiredNotice reason]).setWriter id { w with status := .invalidated }).deregister id

def send (s : Session τ σ κ) (id : WriterId) (events : List LogEvent) (token : Token) :
    Session τ σ κ × Progress σ Token :=
  let request := (s.writer id).request token events
  let reply := Transport.append s.transport request
  ((s.note [.sent id request]).absorb reply, reply.progress)

/-- The outcome of an append, with `left` more to try. -/
def settle (s : Session τ σ κ) (id : WriterId) (events : List LogEvent) :
    (left : Nat) → Except Fault Token → Stepped τ σ κ
  | _, .ok token =>
    let s := s.note [.settled id (.ok token)]
    ((s.adopt id token).releaseWriter id).finished (.ok .nothing)
  | left, .error fault =>
    let s := s.note [.settled id (.error fault)]
    if fault.isFailure then
      let s := s.notice fault.expectedNotices
      let w := s.writer id
      match fault.expected?, left with
      | some expected, left + 1 =>
        let s := s.notice [w.retryNotice (w.retries - left)]
        let (s, progress) := s.send id events expected.token
        match progress with
        | .suspended stage => s.suspended (.batch id events (.sending left stage))
        | .finished result => settle s id events left result
      | _, _ => ((s.retire id fault).releaseWriter id).finished (.error (w.appendFault fault))
    else (s.releaseWriter id).finished (.error fault)

def sendBatch (s : Session τ σ κ) (id : WriterId) (events : List LogEvent) : Stepped τ σ κ :=
  let w := s.writer id
  match w.status with
  | .invalidated => (s.releaseWriter id).finished (.error w.invalidFault)
  | .active =>
    let (s, progress) := s.send id events w.token
    match progress with
    | .suspended stage => s.suspended (.batch id events (.sending w.retries stage))
    | .finished result => s.settle id events w.retries result

/-- An empty batch does nothing. The events are made before the lock is asked for. -/
def startBatch (s : Session τ σ κ) (task : TaskId) (id : WriterId) (batch : Batch) :
    Stepped τ σ κ :=
  if batch.records.isEmpty then s.finished (.ok .nothing)
  else match batch.events with
    | .error fault => s.finished (.error fault)
    | .ok events =>
      let w := s.writer id
      if w.lock.available then
        (s.setWriter id { w with lock := w.lock.take }).sendBatch id events
      else (s.setWriter id { w with lock := w.lock.join task }).suspended (.batch id events .queued)

/-- A task in the queue goes on only when it was granted the lock. -/
def resumeBatch (s : Session τ σ κ) (task : TaskId) (id : WriterId) (events : List LogEvent)
    (stage : BatchStage σ) (signal : Signal) : Stepped τ σ κ :=
  let w := s.writer id
  match stage, signal with
  | .queued, .ready =>
    if w.lock.isGranted task then
      (s.setWriter id { w with lock := w.lock.enter task }).sendBatch id events
    else s.suspended (.batch id events .queued)
  | .queued, _ =>
    let (lock, woken) := w.lock.leave task
    ((s.setWriter id { w with lock := lock }).wake woken).finished (.error .stopped)
  | .sending left stage, _ =>
    let reply := Transport.resume s.transport stage signal
    let s := s.absorb reply
    match reply.progress with
    | .suspended stage => s.suspended (.batch id events (.sending left stage))
    | .finished result => s.settle id events left result

end SequenceLog.Session

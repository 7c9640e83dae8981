import SequenceLog.Session.Basic
/-! Looking up the writer of a stream. A registered writer is handed out at once. A missing one is
opened under the stream's lock, after the stream was prepared if the pool asks for that, so that
searches which overlap open a single writer. -/
namespace SequenceLog.Session
variable {τ σ κ : Type} [Transport τ σ κ]

omit [Transport τ σ κ] in
def setKeyLock (s : Session τ σ κ) (era : Nat) (key : Key) (m : Mutex) : Session τ σ κ :=
  { s with pool := s.pool.setLock era key m }

omit [Transport τ σ κ] in
def releaseKey (s : Session τ σ κ) (era : Nat) (key : Key) : Session τ σ κ :=
  let (lock, woken) := (s.pool.locks era key).release
  (s.setKeyLock era key lock).wake woken

omit [Transport τ σ κ] in
/-- The stream is prepared, or could not be: a writer with the stream's token is opened. -/
def openPrepared (s : Session τ σ κ) (key : Key) (era : Nat)
    (prepared : Except Fault Token) : Stepped τ σ κ :=
  match prepared.bind fun token => Writer.new? key .pool token s.pool.maxAttempts with
  | .error fault => (s.releaseKey era key).finished (.error fault)
  | .ok w =>
    let id := s.writers.length
    let s := { s with writers := s.writers ++ [w], pool := s.pool.register key id }
    ((s.notice [Pool.createdNotice key]).releaseKey era key).finished (.ok (.writer id))

/-- The search has the lock. The writer may have been opened while it queued. -/
def prepare (s : Session τ σ κ) (key : Key) (era : Nat) : Stepped τ σ κ :=
  match s.pool.writers.get? key with
  | some id => (s.releaseKey era key).finished (.ok (.writer id))
  | none =>
    if s.pool.createStreams then
      let reply := Transport.ensureStream s.transport key
      let s := s.absorb reply
      match reply.progress with
      | .suspended stage => s.suspended (.lookup key era (.preparing stage))
      | .finished result => s.openPrepared key era result
    else s.openPrepared key era (.ok .null)

def startLookup (s : Session τ σ κ) (task : TaskId) (key : Key) : Stepped τ σ κ :=
  match s.pool.writers.get? key with
  | some id => s.finished (.ok (.writer id))
  | none =>
    let era := s.pool.era
    let lock := s.pool.locks era key
    if lock.available then (s.setKeyLock era key lock.take).prepare key era
    else (s.setKeyLock era key (lock.join task)).suspended (.lookup key era .queued)

def resumeLookup (s : Session τ σ κ) (task : TaskId) (key : Key) (era : Nat)
    (stage : LookupStage σ) (signal : Signal) : Stepped τ σ κ :=
  let lock := s.pool.locks era key
  match stage, signal with
  | .queued, .ready =>
    if lock.isGranted task then (s.setKeyLock era key (lock.enter task)).prepare key era
    else s.suspended (.lookup key era .queued)
  | .queued, _ =>
    let (lock, woken) := lock.leave task
    ((s.setKeyLock era key lock).wake woken).finished (.error .stopped)
  | .preparing stage, _ =>
    let reply := Transport.resume s.transport stage signal
    let s := s.absorb reply
    match reply.progress with
    | .suspended stage => s.suspended (.lookup key era (.preparing stage))
    | .finished result => s.openPrepared key era result

end SequenceLog.Session

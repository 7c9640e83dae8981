import SequenceLog.Session.Batch
import SequenceLog.Session.Lookup
/-! Turns. A session advances by the turns of its tasks: a task starts an operation, goes on with
it, or is told to stop while it queues for a lock. -/
namespace SequenceLog

inductive Operation where
  | append (request : Append)
  | ensureStream (key : Key)
  | getWriter (key : Key)
  | write (writer : WriterId) (batch : Batch)
  deriving Inhabited

namespace Session
variable {τ σ κ : Type} [Transport τ σ κ]

omit [Transport τ σ κ] in
def relay (s : Session τ σ κ) (reply : Reply τ σ κ Token) : Stepped τ σ κ :=
  ⟨s.absorb reply, match reply.progress with
    | .suspended stage => .suspended (.transport stage)
    | .finished result => .finished (result.map .token)⟩

omit [Transport τ σ κ] in
/-- Remembers what the task is suspended in, or that its operation is over. -/
def record (task : TaskId) (stepped : Stepped τ σ κ) :
    Session τ σ κ × Option (Except Fault Answer) :=
  let set := fun activity => { stepped.session with
    active := fun t => if t = task then activity else stepped.session.active t }
  match stepped.progress with
  | .suspended activity => (set (some activity), none)
  | .finished result => (set none, some result)

/-- A task starts an operation. The result is there when the operation is over. -/
def start (s : Session τ σ κ) (task : TaskId) (operation : Operation) :
    Session τ σ κ × Option (Except Fault Answer) :=
  record task <| match operation with
    | .append request => s.relay (Transport.append s.transport request)
    | .ensureStream key => s.relay (Transport.ensureStream s.transport key)
    | .getWriter key => s.startLookup task key
    | .write writer batch => s.startBatch task writer batch

def resume (s : Session τ σ κ) (task : TaskId) (signal : Signal) :
    Session τ σ κ × Option (Except Fault Answer) :=
  match s.active task with
  | none => (s, none)
  | some activity => record task <| match activity with
    | .transport stage => s.relay (Transport.resume s.transport stage signal)
    | .lookup key era stage => s.resumeLookup task key era stage signal
    | .batch writer events stage => s.resumeBatch task writer events stage signal

def abandon (s : Session τ σ κ) (task : TaskId) : Session τ σ κ :=
  match s.active task with
  | some (.lookup key era .queued) =>
    s.setKeyLock era key ((s.pool.locks era key).abandon task)
  | some (.batch writer _ .queued) =>
    let w := s.writer writer
    s.setWriter writer { w with lock := w.lock.abandon task }
  | _ => s

def wait? (s : Session τ σ κ) (task : TaskId) : Option Wait :=
  (s.active task).map fun
    | .transport stage => Transport.wait τ stage
    | .lookup _ _ .queued | .batch _ _ .queued => .lock
    | .lookup _ _ (.preparing stage) => Transport.wait τ stage
    | .batch _ _ (.sending _ stage) => Transport.wait τ stage

end Session
end SequenceLog

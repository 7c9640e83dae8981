import SequenceLog.Mutex
import SequenceLog.Rejection
import SequenceLog.Text.Quoted
import SequenceLog.Transport
/-! Writers. A writer is the only one to append to its stream: it owns the sequence token, and its
lock admits one batch at a time. A writer that failed for good is retired and stays so. -/
namespace SequenceLog

inductive Status where
  | active
  | invalidated
  deriving DecidableEq, Repr, Inhabited

/-- Who is told when a writer retires: the pool, or a registry outside it. One that refuses fails
with the given message. -/
inductive Registry where
  | pool
  | outside (refusal : Option Text)
  deriving DecidableEq, Repr, Inhabited

structure Writer where
  key : Key
  registry : Registry
  /-- The token for the next append. -/
  token : Token
  status : Status
  /-- How often a batch may be sent again after a rejection. -/
  retries : Nat
  lock : Mutex
  deriving DecidableEq, Repr, Inhabited

namespace Writer

/-- The calls allowed for a batch where nothing else is asked for. -/
def defaultAttempts : Int := 3

def tooFewAttempts : Fault := .plain .invalidValue "max_attempts must be at least 1" none

/-- A writer makes at most `maxAttempts` calls for a batch, and at least one. -/
def new? (key : Key) (registry : Registry) (token : Token) (maxAttempts : Int) :
    Except Fault Writer :=
  if maxAttempts < 1 then .error tooFewAttempts
  else .ok ⟨key, registry, token, .active, maxAttempts.toNat - 1, .free⟩

def Status.text : Status → String
  | .active => "active"
  | .invalidated => "invalidated"

def describe (w : Writer) : Text :=
  "SequencedWriter(group=" ++ w.key.group.quoted ++ ", stream=" ++ w.key.stream.quoted ++
    ", status=" ++ Status.text w.status ++ ")"

def request (w : Writer) (token : Token) (events : List LogEvent) : Append :=
  ⟨w.key, token, events⟩

def invalidFault (w : Writer) : Fault := .writerInvalid w.key.group w.key.stream

def appendFault (w : Writer) (reason : Fault) : Fault :=
  .unrecoverable w.key.group w.key.stream reason true

def keyDetails (key : Key) : List (String × Json.Value) :=
  [("group", .text key.group), ("stream", .text key.stream)]

def retryNotice (w : Writer) (attempt : Nat) : Notice :=
  ⟨.debug, .writer, "Retrying append with expected sequence token",
    keyDetails w.key ++ [("attempt", .int attempt)], none⟩

def retiredNotice (w : Writer) (reason : Fault) : Notice :=
  ⟨.warning, .writer, "Invalidating writer after failed append: " ++ reason.message,
    keyDetails w.key, none⟩

def removalFailedNotice (w : Writer) (refusal : Text) : Notice :=
  ⟨.error, .writer, "Failed to remove invalidated writer from registry", keyDetails w.key,
    some (.plain .runtime refusal none)⟩

end Writer
end SequenceLog

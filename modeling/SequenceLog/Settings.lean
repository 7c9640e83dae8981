import SequenceLog.CloudWatch.Client
import SequenceLog.Number.Numeral
import SequenceLog.Number.Shortest
import SequenceLog.Pool
/-! Settings, read from the environment and validated. Numbers are read before anything is
validated, the time limit first. -/
namespace SequenceLog

structure Settings where
  region : Text
  endpoint : Option Text
  /-- Seconds that an append may take. -/
  timeout : Binary64
  createStreams : Bool
  maxAttempts : Int
  logLevel : Text
  logFormat : Text
  deriving DecidableEq, Repr, Inhabited

abbrev Environment := String → Option Text

namespace Settings

def standard : Settings :=
  ⟨"us-east-1", none, .finite false (15 * Nat.pow 2 49) (-48), false, 3, "INFO", "json"⟩

def notANumber (text : Text) : Fault :=
  .plain .invalidValue ("could not convert string to float: " ++ text.quoted) none

/-- At most 200 characters of the quoted text are shown. -/
def notAnInteger (text : Text) : Fault :=
  .plain .invalidValue ("invalid literal for int() with base 10: " ++
    ⟨text.quoted.points.take 200⟩) none

def tooManyDigits (digits : Nat) : Fault :=
  .plain .invalidValue ("Exceeds the limit (4300 digits) for integer string conversion: " ++
    "value has " ++ toString digits ++
    " digits; use sys.set_int_max_str_digits() to increase the limit") none

def readTimeout (text : Text) : Except Fault Binary64 :=
  match Numeral.readBinary64? text with
  | some x => .ok x
  | none => .error (notANumber text)

def readAttempts (text : Text) : Except Fault Int :=
  match Numeral.readInteger text with
  | .value n => .ok n
  | .tooLong digits => .error (tooManyDigits digits)
  | .malformed => .error (notAnInteger text)

/-- Outside ASCII no letter of the word has a capital. -/
def readFlag (text : Text) : Bool :=
  text.points.map (Numeral.lower ·.toChar) = ['t', 'r', 'u', 'e']

def read (env : Environment) : Except Fault Settings := do
  let timeout ← readTimeout ((env "CLOUDWATCH_LOGS_TIMEOUT").getD "30")
  let attempts ← readAttempts ((env "WRITER_MAX_ATTEMPTS").getD "3")
  return {
    region := (env "AWS_REGION").getD ((env "AWS_DEFAULT_REGION").getD standard.region)
    endpoint := env "CLOUDWATCH_LOGS_ENDPOINT_URL"
    timeout := timeout
    createStreams := readFlag ((env "CLOUDWATCH_LOGS_CREATE_STREAMS").getD "false")
    maxAttempts := attempts
    logLevel := (env "LOG_LEVEL").getD standard.logLevel
    logFormat := (env "LOG_FORMAT").getD standard.logFormat }

/-- The first of the rules that the settings break. -/
def problem? (s : Settings) : Option Fault :=
  if s.maxAttempts < 1 then
    some (.plain .invalidValue "WRITER_MAX_ATTEMPTS must be at least 1" none)
  else if s.timeout.isNonpositive then
    some (.plain .invalidValue "CLOUDWATCH_LOGS_TIMEOUT must be positive" none)
  else if s.logFormat ≠ "json" ∧ s.logFormat ≠ "text" then
    some (.plain .invalidValue ("Invalid LOG_FORMAT '" ++ s.logFormat ++
      "'. Must be one of: json, text") none)
  else none

def load (env : Environment) : Except Fault Settings := do
  let settings ← read env
  match settings.problem? with
  | some fault => .error fault
  | none => return settings

def loadedNotice (s : Settings) : Notice :=
  ⟨.info, .settings, "Client configuration loaded",
    [("region", .text s.region),
      ("endpoint", .text ((CloudWatch.customEndpoint s.endpoint).getD "AWS")),
      ("create_streams", .bool s.createStreams),
      ("max_attempts", .int s.maxAttempts),
      ("log_level", .text s.logLevel)], none⟩

def transport {ς : Type} (s : Settings) (service : ς) : CloudWatch ς :=
  .new s.region s.endpoint s.timeout service

def pool (s : Settings) : Pool := .new s.createStreams s.maxAttempts

end Settings
end SequenceLog

import Mathlib.Algebra.Order.Field.Power
import Mathlib.Algebra.Order.Field.Rat
import SequenceLog.Proofs.Containment
import SequenceLog.Proofs.Occupancy
import SequenceLog.Proofs.Spelling
import SequenceLog.Settings
/-! Loading settings. Settings are loaded if and only if their numbers are spelled as numbers and in
range, and the log format is known. A time limit is refused for being zero or less, which a text for
no number is not. In a pool that is made from loaded settings a search for a writer fails with nothing
but what the transport answers. Main statements: `loads_in_range` and `loads_without_number`. -/
namespace SequenceLog
open Scenario

namespace Binary64

def value? : Binary64 → Option ℚ
  | .finite negative significand exponent =>
    some ((if negative then -1 else 1) * (significand * 2 ^ exponent))
  | _ => none

/-- Strictly above zero, infinity included. -/
def IsAboveZero (x : Binary64) : Prop :=
  x = .infinite false ∨ ∃ value, x.value? = some value ∧ 0 < value

theorem isNonpositive_eq_false {x : Binary64} :
    x.isNonpositive = false ↔ x = .nan ∨ x.IsAboveZero := by
  cases x with
  | nan => simp [isNonpositive]
  | infinite negative => simp [isNonpositive, IsAboveZero, value?]
  | finite negative significand exponent =>
    have power : (0 : ℚ) < 2 ^ exponent := zpow_pos rfl exponent
    have positive : (0 : ℚ) < significand * 2 ^ exponent ↔ significand ≠ 0 := by
      rw [mul_pos_iff_of_pos_right power, Nat.cast_pos, Nat.pos_iff_ne_zero]
    cases negative with
    | true =>
      have magnitude : (0 : ℚ) ≤ significand * 2 ^ exponent :=
        mul_nonneg (Nat.cast_nonneg significand) power.le
      have below : ¬ (0 : ℚ) < -1 * (significand * 2 ^ exponent) := by
        rw [neg_one_mul, neg_pos]
        exact not_lt.2 magnitude
      simpa [isNonpositive, IsAboveZero, value?] using below
    | false => simp [isNonpositive, IsAboveZero, value?, positive]

end Binary64

namespace Settings
variable {env : Environment} {s : Settings} {fault : Fault}

def timeoutText (env : Environment) : Text := (env "CLOUDWATCH_LOGS_TIMEOUT").getD "30"

def attemptsText (env : Environment) : Text := (env "WRITER_MAX_ATTEMPTS").getD "3"

def formatText (env : Environment) : Text := (env "LOG_FORMAT").getD "json"

/-- The numbers that the environment spells, or that count where it is silent. -/
structure Spells (env : Environment) (timeout : Binary64) (attempts : Int) : Prop where
  timeout : Numeral.SpellsBinary64 (Numeral.prepare (timeoutText env)) timeout
  attempts : Numeral.SpellsInteger (Numeral.prepare (attemptsText env)) attempts

/-- What the rules let pass. A time limit that is no number passes like one above zero. -/
structure Passes (timeout : Binary64) (attempts : Int) (format : Text) : Prop where
  timeout : timeout = .nan ∨ timeout.IsAboveZero
  attempts : 1 ≤ attempts
  format : format = "json" ∨ format = "text"

def IsInvalid (fault : Fault) : Prop := ∃ message, fault = .plain .invalidValue message none

def ofNumbers (env : Environment) (timeout : Binary64) (attempts : Int) : Settings where
  region := (env "AWS_REGION").getD ((env "AWS_DEFAULT_REGION").getD standard.region)
  endpoint := env "CLOUDWATCH_LOGS_ENDPOINT_URL"
  timeout := timeout
  createStreams := readFlag ((env "CLOUDWATCH_LOGS_CREATE_STREAMS").getD "false")
  maxAttempts := attempts
  logLevel := (env "LOG_LEVEL").getD standard.logLevel
  logFormat := formatText env

theorem readTimeout_ok {text : Text} {x : Binary64} :
    readTimeout text = .ok x ↔ Numeral.SpellsBinary64 (Numeral.prepare text) x := by
  rw [← Numeral.readBinary64?_eq_some, readTimeout]
  split <;> rename_i read <;> simp [read]

theorem readAttempts_ok {text : Text} {n : Int} :
    readAttempts text = .ok n ↔ Numeral.SpellsInteger (Numeral.prepare text) n := by
  rw [← Numeral.readInteger_eq_value, readAttempts]
  split <;> rename_i read <;> simp [read]

theorem readTimeout_error {text : Text} (failed : readTimeout text = .error fault) :
    IsInvalid fault := by
  unfold readTimeout at failed
  split at failed <;> cases failed
  exact ⟨_, rfl⟩

theorem readAttempts_error {text : Text} (failed : readAttempts text = .error fault) :
    IsInvalid fault := by
  unfold readAttempts at failed
  split at failed <;> cases failed
  · exact ⟨_, rfl⟩
  · exact ⟨_, rfl⟩

theorem read_eq : read env =
    (readTimeout (timeoutText env)).bind fun timeout =>
      (readAttempts (attemptsText env)).bind fun attempts => .ok (ofNumbers env timeout attempts) :=
  rfl

theorem problem?_eq_none :
    s.problem? = none ↔ Passes s.timeout s.maxAttempts s.logFormat := by
  have timeout : ¬ s.timeout.isNonpositive = true ↔ s.timeout = .nan ∨ s.timeout.IsAboveZero := by
    rw [Bool.not_eq_true, Binary64.isNonpositive_eq_false]
  have format : ¬ (s.logFormat ≠ "json" ∧ s.logFormat ≠ "text") ↔
      s.logFormat = "json" ∨ s.logFormat = "text" := by
    rw [not_and_or, not_not, not_not]
  unfold problem?
  constructor
  · intro none
    split at none
    · cases none
    · rename_i attempts
      split at none
      · cases none
      · rename_i above
        split at none
        · cases none
        · rename_i known
          exact ⟨timeout.1 above, Int.not_lt.1 attempts, format.1 known⟩
  · intro passes
    rw [if_neg (Int.not_lt.2 passes.attempts), if_neg (timeout.2 passes.timeout),
      if_neg (format.2 passes.format)]

theorem problem?_invalid (broken : s.problem? = some fault) : IsInvalid fault := by
  unfold problem? at broken
  split at broken
  · cases broken
    exact ⟨_, rfl⟩
  · split at broken
    · cases broken
      exact ⟨_, rfl⟩
    · split at broken <;> cases broken
      exact ⟨_, rfl⟩

theorem load_cases (env : Environment) :
    (∃ timeout attempts, Spells env timeout attempts ∧ Passes timeout attempts (formatText env) ∧
      load env = .ok (ofNumbers env timeout attempts)) ∨
    ∃ fault, load env = .error fault ∧ IsInvalid fault := by
  rw [load, read_eq]
  cases first : readTimeout (timeoutText env) with
  | error fault => exact .inr ⟨fault, rfl, readTimeout_error first⟩
  | ok timeout =>
    cases second : readAttempts (attemptsText env) with
    | error fault => exact .inr ⟨fault, rfl, readAttempts_error second⟩
    | ok attempts =>
      simp only [Except.bind, bind]
      cases broken : (ofNumbers env timeout attempts).problem? with
      | some fault => exact .inr ⟨fault, rfl, problem?_invalid broken⟩
      | none =>
        exact .inl ⟨timeout, attempts, ⟨readTimeout_ok.1 first, readAttempts_ok.1 second⟩,
          problem?_eq_none.1 broken, rfl⟩

/-- Settings are loaded if and only if both numbers are spelled and nothing is out of range. -/
theorem load_ok : load env = .ok s ↔ ∃ timeout attempts, Spells env timeout attempts ∧
    Passes timeout attempts (formatText env) ∧ s = ofNumbers env timeout attempts := by
  constructor
  · intro loaded
    rcases load_cases env with ⟨timeout, attempts, spells, passes, made⟩ | ⟨fault, failed, -⟩
    · exact ⟨timeout, attempts, spells, passes, Except.ok.inj (loaded.symm.trans made)⟩
    · cases loaded.symm.trans failed
  · rintro ⟨timeout, attempts, spells, passes, rfl⟩
    have sound : (ofNumbers env timeout attempts).problem? = none := problem?_eq_none.2 passes
    rw [load, read_eq, readTimeout_ok.2 spells.timeout, readAttempts_ok.2 spells.attempts]
    simp only [Except.bind, bind, sound]
    rfl

theorem load_error (failed : load env = .error fault) : IsInvalid fault := by
  rcases load_cases env with ⟨timeout, attempts, -, -, made⟩ | ⟨other, refused, invalid⟩
  · cases failed.symm.trans made
  · exact Except.error.inj (refused.symm.trans failed) ▸ invalid

end Settings

section Searches
variable {τ σ κ μ χ : Type} [Transport τ σ κ] [Commanded τ μ χ κ]

/-- Why a search fails in a turn: it is told to stop, or the transport answers this to the
preparation of the stream, at its beginning or when it goes on. -/
inductive Turn.Excuses (turn : Turn τ σ κ μ χ) (key : Key) : Fault → Prop
  | stopped : turn.Excuses key .stopped
  | refused {fault : Fault} :
    (Transport.ensureStream turn.before.transport key).progress = .finished (.error fault) →
      turn.Excuses key fault
  | failed {fault : Fault} {task : TaskId} {era : Nat} {stage : σ} {signal : Signal} :
    turn.move = .resume task signal →
      turn.before.active task = some (.lookup key era (.preparing stage)) →
      (Transport.resume turn.before.transport stage signal).progress = .finished (.error fault) →
      turn.Excuses key fault

structure Excused (r : Run τ σ κ μ χ) : Prop where
  attempts : 1 ≤ r.session.pool.maxAttempts
  turns : ∀ turn ∈ r.turns, ∀ key, turn.search? = some key → ∀ fault,
    turn.result = some (.error fault) → turn.Excuses key fault

theorem excused_step {r : Run τ σ κ μ χ} (sound : Sound r) (excused : Excused r)
    (move : Move μ χ) : Excused (r.step move) := by
  have setUp := setUpAs_step sound move
  have steps := steps_step sound move
  generalize made : r.step move = r' at steps setUp ⊢
  refine ⟨setUp.2.symm ▸ excused.attempts, ?_⟩
  have grown : ∀ {turn : Turn τ σ κ μ χ}, r'.turns = r.turns ++ [turn] →
      (∀ key, turn.search? = some key → ∀ fault, turn.result = some (.error fault) →
        turn.Excuses key fault) →
      ∀ turn ∈ r'.turns, ∀ key, turn.search? = some key → ∀ fault,
        turn.result = some (.error fault) → turn.Excuses key fault := by
    intro turn turns now
    rw [turns]
    exact List.forall_mem_append.2 ⟨excused.turns, List.forall_mem_singleton.2 now⟩
  cases steps with
  | stay => exact excused.turns
  | @start task operation _ _ _ _ _ takes =>
    refine grown (takes.turns_eq made) fun key search fault failed => ?_
    cases operation with
    | getWriter other =>
      cases search
      exact .refused (Session.fault_startLookup (s := r.session.fresh) excused.attempts failed)
    | append | ensureStream | write => cases search
  | @resume task signal activity _ under _ _ takes =>
    refine grown (takes.turns_eq made) fun key search fault failed => ?_
    have own : activity.search? = some key := by
      simpa [Turn.search?, Session.fresh, under] using search
    cases activity with
    | lookup other era stage =>
      cases own
      rcases Session.fault_resumeLookup (s := r.session.fresh) excused.attempts failed with
        rfl | refused | ⟨preparing, rfl, ended⟩
      · exact .stopped
      · exact .refused refused
      · exact .failed rfl under ended
    | transport | batch => cases own
  | pass between => exact grown rfl fun _ _ _ failed => by cases failed

theorem excused_play {transport : τ} {createStreams : Bool} {maxAttempts : Int}
    (attempts : 1 ≤ maxAttempts) (moves : List (Move μ χ)) :
    Excused ((Run.new transport createStreams maxAttempts).play moves) := by
  have start : Excused (.new transport createStreams maxAttempts : Run τ σ κ μ χ) :=
    ⟨attempts, fun _ member => by cases member⟩
  exact play_induct (sound_new ..) start fun _ sound excused move _ => excused_step sound excused move

end Searches

open Settings

/-- Settings are loaded from an environment if and only if it spells a time limit that is above zero
or no number, and at least one attempt, and names a log format that is known. Everything else is
refused as an invalid value. Whatever a transport does, no writer is refused in a pool of the settings
for the attempts it may make. -/
theorem loads_in_range {τ σ κ μ χ : Type} [Transport τ σ κ] [Commanded τ μ χ κ]
    (env : Environment) :
    ((∃ s, load env = .ok s) ↔ ∃ timeout attempts, Spells env timeout attempts ∧
      Passes timeout attempts (formatText env)) ∧
    (∀ fault, load env = .error fault → IsInvalid fault) ∧
    ∀ s, load env = .ok s →
      Passes s.timeout s.maxAttempts s.logFormat ∧ Spells env s.timeout s.maxAttempts ∧
      (∀ key token, ∃ w, Writer.new? key .pool token s.pool.maxAttempts = .ok w) ∧
      ∀ (transport : τ) (moves : List (Move μ χ)),
        let r := (Run.new transport s.pool.createStreams s.pool.maxAttempts).play moves
        ∀ turn ∈ r.turns, ∀ key, turn.search? = some key → ∀ fault,
          turn.result = some (.error fault) → turn.Excuses key fault := by
  refine ⟨⟨?_, ?_⟩, fun _ => load_error, fun s loaded => ?_⟩
  · rintro ⟨s, loaded⟩
    obtain ⟨timeout, attempts, spells, passes, -⟩ := load_ok.1 loaded
    exact ⟨timeout, attempts, spells, passes⟩
  · rintro ⟨timeout, attempts, spells, passes⟩
    exact ⟨_, load_ok.2 ⟨timeout, attempts, spells, passes, rfl⟩⟩
  · obtain ⟨timeout, attempts, spells, passes, rfl⟩ := load_ok.1 loaded
    have bound : 1 ≤ (ofNumbers env timeout attempts).pool.maxAttempts := passes.attempts
    refine ⟨passes, spells, fun key token => ⟨_, if_neg (Int.not_lt.2 bound)⟩, ?_⟩
    intro transport moves r
    exact (excused_play bound moves).turns

/-- The number of attempts is written in groups of digits, and a space is left on each side. -/
def sampleEnvironment : Environment
  | "CLOUDWATCH_LOGS_TIMEOUT" => some "2.5"
  | "WRITER_MAX_ATTEMPTS" => some " 1_0 "
  | "CLOUDWATCH_LOGS_CREATE_STREAMS" => some "True"
  | _ => none

def sampleTimeout : Binary64 := .finite false (5 * Nat.pow 2 50) (-51)

/-- A search that is refused the listing of streams. -/
def refused : List (Move CloudWatch.Command CloudWatch.Chore) :=
  [.command .connect, .start 0 (.getWriter default), .resume 0 .ready]

theorem loads_in_range_grouped :
    ∃ s, load sampleEnvironment = .ok s ∧ s.maxAttempts = 10 ∧ s.timeout.IsAboveZero ∧
      ∃ turn : ScriptedTurn, turn.search? = some default ∧ ∃ fault,
        turn.result = some (.error fault) ∧ turn.Excuses default fault := by
  obtain ⟨-, -, each⟩ := @loads_in_range (CloudWatch CloudWatch.Script) CloudWatch.Stage
    CloudWatch.Call CloudWatch.Command CloudWatch.Chore _ _ sampleEnvironment
  have above : sampleTimeout.IsAboveZero := by
    have passed : sampleTimeout.isNonpositive = false := rfl
    exact (Binary64.isNonpositive_eq_false.1 passed).resolve_left (by decide)
  have spells : Spells sampleEnvironment sampleTimeout 10 :=
    ⟨readTimeout_ok.1 rfl, readAttempts_ok.1 rfl⟩
  have passes : Passes sampleTimeout 10 "json" := ⟨.inr above, by decide, .inl rfl⟩
  have loaded := load_ok.2 ⟨_, _, spells, passes, rfl⟩
  obtain ⟨-, -, -, excuses⟩ := each _ loaded
  let r : ScriptedRun :=
    (Run.new (.new "eu" none (.zero false) troubledScript) true 10).play refused
  have third : r.turns[2]? = some _ := rfl
  exact ⟨_, loaded, rfl, above, _, rfl, _, rfl,
    excuses (.new "eu" none (.zero false) troubledScript) refused _ (List.mem_of_getElem? third)
      default rfl _ rfl⟩

def nanEnvironment : Environment
  | "CLOUDWATCH_LOGS_TIMEOUT" => some "nan"
  | _ => none

/-- Settings are loaded with a time limit that is not above zero. -/
theorem loads_without_number :
    ∃ s, load nanEnvironment = .ok s ∧ s.timeout = .nan ∧ ¬ s.timeout.IsAboveZero := by
  have spells : Spells nanEnvironment .nan 3 := ⟨readTimeout_ok.1 rfl, readAttempts_ok.1 rfl⟩
  have passes : Passes .nan 3 (formatText nanEnvironment) := ⟨.inl rfl, by decide, .inl rfl⟩
  refine ⟨_, load_ok.2 ⟨_, _, spells, passes, rfl⟩, rfl, ?_⟩
  rintro (same | ⟨value, none, -⟩)
  · cases same
  · cases none

end SequenceLog

import SequenceLog.Logging
import SequenceLog.Proofs.Rendering
/-! The last setup of logging counts. A setup is refused for a level that is the name of a constant of
another kind, and changes nothing then. Any other setup leaves nothing of what was set up before, and
from then on every record that passes the level is written once, in the form that was set up. Main
statements: `last_setup_wins` and `constant_refused`. -/
namespace SequenceLog.Logging

inductive Use where
  | setup (levelName formatName : Text)
  | record (now : Moment) (line : LogLine)

def use (json : Formatter) (l : Logging) : Use → Logging
  | .setup levelName formatName => (l.setup levelName formatName).1
  | .record now line => (l.log json now line).1

def uses (json : Formatter) (l : Logging) (given : List Use) : Logging := given.foldl (use json) l

/-- The name of a constant that is not a level. -/
def IsConstant (name : Text) : Prop :=
  capitals name = "BASIC_FORMAT" ∨ capitals name = "_STYLES"

instance (name : Text) : Decidable (IsConstant name) := inferInstanceAs (Decidable (_ ∨ _))

def Use.SetsUp : Use → Prop
  | .setup levelName _ => ¬ IsConstant levelName
  | .record .. => False

/-- The level that a name stands for in capitals. Names of no level stand for that of information. -/
def StandsFor (name : Text) (level : Int) : Prop :=
  (capitals name, level) ∈ levels ∨
    ((∀ other, (capitals name, other) ∉ levels) ∧ level = infoLevel)

/-- The logger of a client library, or one below it. -/
def IsClient (logger : Text) : Prop :=
  ∃ client ∈ [("botocore" : Text), "aiobotocore"],
    logger = client ∨ ∃ rest, logger.points = client.points ++ CodePoint.ofChar '.' :: rest

theorem mem_of_lookup {α β : Type} [BEq α] [LawfulBEq α] {entries : List (α × β)} {key : α}
    {value : β} (found : entries.lookup key = some value) : (key, value) ∈ entries := by
  obtain ⟨before, after, rfl, -⟩ := List.lookup_eq_some_iff.1 found
  exact List.mem_append_right before List.mem_cons_self

section Levels
variable {name : Text}

theorem levelNamed_ordinary (ordinary : ¬ IsConstant name) :
    ∃ level, StandsFor name level ∧ levelNamed name = .ok level := by
  obtain ⟨format, styles⟩ := not_or.1 ordinary
  unfold levelNamed
  dsimp only
  split
  · rename_i level found
    exact ⟨level, .inl (mem_of_lookup found), rfl⟩
  · rename_i unknown
    rw [if_neg format, if_neg styles]
    refine ⟨infoLevel, .inr ⟨fun other known => ?_, rfl⟩, rfl⟩
    have apart := List.lookup_eq_none_iff.1 unknown _ known
    simp at apart

theorem StandsFor.unique {level other : Int} (standsFor : StandsFor name level)
    (standsFor' : StandsFor name other) : level = other := by
  have looked : ∀ entry ∈ levels, levels.lookup entry.1 = some entry.2 := by decide
  rcases standsFor with known | ⟨unknown, info⟩ <;> rcases standsFor' with known' | ⟨unknown', info'⟩
  · exact Option.some.inj ((looked _ known).symm.trans (looked _ known'))
  · exact absurd known (unknown' level)
  · exact absurd known' (unknown other)
  · exact info.trans info'.symm

theorem levelNamed_constant (constant : IsConstant name) :
    levelNamed name = .error unknownLevel ∨ levelNamed name = .error notALevel := by
  unfold levelNamed
  rcases constant with format | styles
  · rw [format]
    exact .inl rfl
  · rw [styles]
    exact .inr rfl

end Levels

section Loggers
variable {l : Logging} {logger : Text}

/-- A logger above another has the beginning of its name, before a dot. -/
theorem mem_lineage {there : List Text} {reversed : List CodePoint} {above : Text}
    (member : above ∈ lineage there reversed) :
    ∃ rest, reversed.reverse = above.points ++ CodePoint.ofChar '.' :: rest := by
  have longer : ∀ (last : List CodePoint) {shorter : List CodePoint},
      (∃ rest, shorter.reverse = above.points ++ CodePoint.ofChar '.' :: rest) →
      ∃ rest, (last ++ shorter).reverse = above.points ++ CodePoint.ofChar '.' :: rest := by
    rintro last shorter ⟨rest, split⟩
    exact ⟨rest ++ last.reverse, by simp [split]⟩
  fun_induction lineage there reversed with
  | case1 dot c rest other ih => exact longer [dot] (ih member)
  | case2 dot c rest name isDot known ih =>
    rcases List.mem_cons.1 member with rfl | further
    · exact ⟨[], by simp [name, Decidable.not_not.1 isDot]⟩
    · exact longer [dot] (ih further)
  | case3 dot c rest name isDot unknown ih => exact longer [dot, c] (ih member)
  | case4 => cases member

/-- Only the loggers of the client libraries have a level of their own. -/
theorem ownLevel_of_not_client (other : ¬ IsClient logger) (above : Text)
    (member : above ∈ logger :: lineage l.loggers logger.points.reverse) : l.ownLevel above = 0 := by
  have apart : ∀ client ∈ [("botocore" : Text), "aiobotocore"], above ≠ client := by
    rintro client listed rfl
    refine other ⟨above, listed, ?_⟩
    rcases List.mem_cons.1 member with rfl | further
    · exact .inl rfl
    · obtain ⟨rest, split⟩ := mem_lineage further
      rw [List.reverse_reverse] at split
      exact .inr ⟨rest, split⟩
  rw [ownLevel, if_neg (apart _ List.mem_cons_self), if_neg (apart _ (by simp))]

theorem effectiveLevel_of_not_client (other : ¬ IsClient logger) :
    l.effectiveLevel logger = l.rootLevel := by
  have none : ((logger :: lineage l.loggers logger.points.reverse).map l.ownLevel).find?
      (· ≠ 0) = none := by
    refine List.find?_eq_none.2 fun level member => ?_
    obtain ⟨above, listed, rfl⟩ := List.mem_map.1 member
    simp [ownLevel_of_not_client other above listed]
  simp only [effectiveLevel, none, Option.getD_none]

end Loggers

section States
variable {json : Formatter} {l : Logging} {style : LineFormat} {level : Int}

/-- What a logger may have decided: the root level decides, unless the logger is one of the client
libraries, which are held to warnings as well. -/
structure Decides (level : Int) (logger : Text) (asked : Int) (enabled : Bool) : Prop where
  other : ¬ IsClient logger → (enabled = true ↔ 0 < asked ∧ level ≤ asked)
  high : 0 < asked → level ≤ asked → warningLevel ≤ asked → enabled = true

/-- Logging as a setup leaves it and as it stays while records are logged. -/
structure Configured (style : LineFormat) (level : Int) (l : Logging) : Prop where
  rootLevel : l.rootLevel = level
  handlers : l.handlers = [style]
  clientLevel : l.clientLevel = warningLevel
  asyncClientLevel : l.asyncClientLevel = warningLevel
  decisions : ∀ logger asked enabled, ((logger, asked), enabled) ∈ l.decisions →
    Decides level logger asked enabled

theorem Configured.effectiveLevel (configured : Configured style level l) (logger : Text) :
    l.effectiveLevel logger = level ∨ l.effectiveLevel logger = warningLevel := by
  have own : ∀ name, l.ownLevel name = 0 ∨ l.ownLevel name = warningLevel := by
    intro name
    unfold ownLevel
    split
    · exact .inr configured.clientLevel
    · split
      · exact .inr configured.asyncClientLevel
      · exact .inl rfl
  unfold Logging.effectiveLevel
  dsimp only
  cases found : ((logger :: lineage l.loggers logger.points.reverse).map l.ownLevel).find?
      (· ≠ 0) with
  | none => exact .inl configured.rootLevel
  | some other =>
    obtain ⟨name, -, rfl⟩ := List.mem_map.1 (List.mem_of_find?_eq_some found)
    have nonzero : l.ownLevel name ≠ 0 := by simpa using List.find?_some found
    exact .inr ((own name).resolve_left nonzero)

theorem Configured.isEnabled (configured : Configured style level l) (logger : Text) (asked : Int) :
    Decides level logger asked (l.isEnabled logger asked) := by
  unfold Logging.isEnabled
  cases remembered : l.decisions.lookup (logger, asked) with
  | some enabled => exact configured.decisions logger asked enabled (mem_of_lookup remembered)
  | none =>
    refine ⟨fun other => ?_, fun positive high warned => ?_⟩
    · simp [effectiveLevel_of_not_client other, configured.rootLevel]
    · rcases configured.effectiveLevel logger with same | same
      · simp [same, positive, high]
      · simp [same, positive, warned]

/-- A record leaves logging configured, and is handed to the one handler if the logger lets it
pass. -/
theorem Configured.log (configured : Configured style level l) (json : Formatter) (now : Moment)
    (line : LogLine) : Configured style level (l.log json now line).1 ∧
      ((∀ further ∈ line.extra, further.1 ∉ ownAttributes) →
        ∃ enabled, Decides level line.logger line.level enabled ∧
          (l.log json now line).2 =
            if enabled = true then (format json now line style).map ([·]) else .ok []) := by
  have named : Configured style level (l.named line.logger) :=
    ⟨configured.rootLevel, configured.handlers, configured.clientLevel,
      configured.asyncClientLevel, configured.decisions⟩
  have decides := named.isEnabled line.logger line.level
  unfold Logging.log
  dsimp only
  split
  · rename_i name value clashing
    refine ⟨named, fun clean => ?_⟩
    have own := List.find?_some clashing
    exact absurd (List.contains_iff_mem.1 own) (clean _ (List.mem_of_find?_eq_some clashing))
  · refine ⟨⟨named.rootLevel, named.handlers, named.clientLevel, named.asyncClientLevel, ?_⟩,
      fun _ => ⟨_, decides, ?_⟩⟩
    · intro logger asked enabled member
      rcases List.mem_cons.1 member with same | earlier
      · cases same
        exact decides
      · exact named.decisions logger asked enabled earlier
    · simp only [named.handlers]
      split
      · rw [List.mapM_cons, List.mapM_nil]
        cases format json now line style <;> rfl
      · rfl

theorem configured_setup (l : Logging) {levelName : Text} (formatName : Text)
    (ordinary : ¬ IsConstant levelName) :
    (l.setup levelName formatName).2 = none ∧ ∃ level, StandsFor levelName level ∧
      Configured (if formatName = "json" then .json else .text) level
        (l.setup levelName formatName).1 := by
  obtain ⟨level, standsFor, named⟩ := levelNamed_ordinary ordinary
  simp only [setup, named]
  exact ⟨trivial, level, standsFor, rfl, rfl, rfl, rfl, fun _ _ _ member => by cases member⟩

theorem setup_constant (l : Logging) {levelName : Text} (formatName : Text)
    (constant : IsConstant levelName) :
    l.setup levelName formatName = (l, some unknownLevel) ∨
      l.setup levelName formatName = (l, some notALevel) := by
  rcases levelNamed_constant constant with unknown | strange
  · exact .inl (by simp only [setup, unknown])
  · exact .inr (by simp only [setup, strange])

theorem Configured.use (configured : Configured style level l) {next : Use}
    (last : ¬ next.SetsUp) : Configured style level (use json l next) := by
  cases next with
  | record now line => exact (configured.log json now line).1
  | setup levelName formatName =>
    have constant : IsConstant levelName := Decidable.not_not.1 last
    rcases setup_constant l formatName constant with same | same <;>
    · simp only [Logging.use, same]
      exact configured

theorem Configured.uses (configured : Configured style level l) {later : List Use}
    (last : ∀ next ∈ later, ¬ next.SetsUp) : Configured style level (uses json l later) := by
  induction later generalizing l with
  | nil => exact configured
  | cons next later ih =>
    obtain ⟨first, others⟩ := List.forall_mem_cons.1 last
    exact ih (configured.use first) others

theorem uses_append (l : Logging) (earlier later : List Use) :
    uses json l (earlier ++ later) = uses json (uses json l earlier) later :=
  List.foldl_append

end States

/-- The record has a level, it is not below that of the root, and a client library gives a warning at
least. -/
structure Passes (level : Int) (line : LogLine) : Prop where
  positive : 0 < line.level
  level : level ≤ line.level
  client : IsClient line.logger → warningLevel ≤ line.level

/-- Setting up logging succeeds but for two names of constants, which change nothing. The last setup
that succeeds wins, whatever was done before and whatever is logged or refused after it: there is one
handler, which writes the form that was asked for, and the root has the level of that name. Then each
record that passes is written once, whatever makes the objects of the records, if it returns a text. One
below the level is not, unless a client library gives it. -/
theorem last_setup_wins (json : Formatter) (start : Logging) (earlier later : List Use) {levelName : Text}
    (formatName : Text) (ordinary : ¬ IsConstant levelName)
    (last : ∀ next ∈ later, ¬ next.SetsUp) :
    let l := uses json start (earlier ++ .setup levelName formatName :: later)
    let style := if formatName = "json" then LineFormat.json else .text
    (∀ (l : Logging) (levelName formatName : Text),
      (¬ IsConstant levelName → (l.setup levelName formatName).2 = none) ∧
      (IsConstant levelName → l.setup levelName formatName = (l, some unknownLevel) ∨
        l.setup levelName formatName = (l, some notALevel))) ∧
    l.handlers = [style] ∧ (∀ level, StandsFor levelName level ↔ l.rootLevel = level) ∧
    l.clientLevel = warningLevel ∧ l.asyncClientLevel = warningLevel ∧
    ∀ now line, (∀ further ∈ line.extra, further.1 ∉ ownAttributes) →
      (Passes l.rootLevel line → (l.log json now line).2 = (format json now line style).map ([·])) ∧
      (Passes l.rootLevel line → IsRendered json style now line →
        ∃ text : Text, text ≠ "" ∧ (l.log json now line).2 = .ok [text]) ∧
      (¬ IsClient line.logger → ¬ (0 < line.level ∧ l.rootLevel ≤ line.level) →
        (l.log json now line).2 = .ok []) := by
  intro l style
  obtain ⟨-, level, standsFor, first⟩ := configured_setup (uses json start earlier) formatName ordinary
  have configured : Configured style level l := by
    rw [show l = uses json ((uses json start earlier).setup levelName formatName).1 later from
      uses_append start earlier _]
    exact first.uses last
  refine ⟨fun l levelName formatName => ⟨fun ordinary => (configured_setup l formatName ordinary).1,
    setup_constant l formatName⟩, configured.handlers, fun other => ?_, configured.clientLevel,
    configured.asyncClientLevel, ?_⟩
  · rw [configured.rootLevel]
    exact ⟨standsFor.unique, fun same => same ▸ standsFor⟩
  intro now line clean
  obtain ⟨enabled, decides, outcome⟩ := (configured.log json now line).2 clean
  rw [configured.rootLevel]
  have written (passes : Passes level line) :
      (l.log json now line).2 = (format json now line style).map ([·]) := by
    have lets : enabled = true := by
      by_cases client : IsClient line.logger
      · exact decides.high passes.positive passes.level (passes.client client)
      · exact (decides.other client).2 ⟨passes.positive, passes.level⟩
    rw [outcome, if_pos lets]
  refine ⟨written, fun passes rendered => ?_, fun other low => ?_⟩
  · obtain ⟨text, nonempty, made⟩ := format_rendered rendered
    refine ⟨text, nonempty, ?_⟩
    rw [written passes, made]
    rfl
  · rw [outcome, if_neg (mt (decides.other other).1 low)]

def sampleLine : LogLine := ⟨"cwlogs_writer.pool", 30, "late", [("group", .text "app")]⟩

/-- A formatter with little of the stack left. -/
def sampleFormatter : Formatter := jsonFormatter (.ofRoom 1)

/-- Logging is set up twice and a setup is refused, and records are logged between and after. -/
def reconfigured : Logging :=
  uses sampleFormatter initial ([.setup "debug" "text", .record default sampleLine] ++
    .setup "Warning" "json" :: [.setup "basic_format" "text", .record default sampleLine])

theorem last_setup_wins_refused :
    reconfigured.handlers = [.json] ∧ reconfigured.rootLevel = 30 ∧ ∃ text : Text,
      text ≠ "" ∧ (reconfigured.log sampleFormatter default sampleLine).2 = .ok [text] := by
  have ordinary : ¬ IsConstant "Warning" := by decide
  have last : ∀ next ∈ [.setup "basic_format" "text", .record default sampleLine],
      ¬ Use.SetsUp next := by
    refine List.forall_mem_cons.2 ⟨fun sets => sets (by decide), ?_⟩
    exact List.forall_mem_singleton.2 id
  obtain ⟨-, handlers, -, -, -, each⟩ := last_setup_wins sampleFormatter initial
    [.setup "debug" "text", .record default sampleLine] _ "json" ordinary last
  have rootLevel : reconfigured.rootLevel = 30 := rfl
  have clean : ∀ further ∈ sampleLine.extra, further.1 ∉ ownAttributes := by decide
  have passes : Passes reconfigured.rootLevel sampleLine := by
    rw [rootLevel]
    exact ⟨by decide, by decide, fun _ => by decide⟩
  have rendered : IsRendered sampleFormatter .json default sampleLine :=
    ⟨by decide, fun _ => returns_jsonFormatter (by decide)
      (List.forall_mem_singleton.2 (isShowable_text "app"))⟩
  obtain ⟨-, written, -⟩ := each default sampleLine clean
  exact ⟨handlers, rootLevel, written passes rendered⟩

/-- A level by the name of a constant that is no level is refused and leaves logging as it was: without
a handler, and not at the level of information. -/
theorem constant_refused :
    initial.setup "BASIC_FORMAT" "json" = (initial, some unknownLevel) ∧
      initial.handlers = [] ∧ initial.rootLevel ≠ infoLevel :=
  ⟨rfl, rfl, by decide⟩

end SequenceLog.Logging

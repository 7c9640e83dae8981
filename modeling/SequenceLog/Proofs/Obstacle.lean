import SequenceLog.Proofs.Identity
/-! What keeps a record from becoming an event. A value is written part by part, a container before what
it holds and a key before its value, and the first part that stands in the way is the one reported: a part
that JSON cannot hold, which takes room to be raised, or a container for which there is no room. Main
statement: `event_fails_at_first_problem`. -/
namespace SequenceLog
open Json

namespace Json

/-- A part of a value: the value itself or one that it holds, or a key, with the number of containers
around it. -/
inductive Part where
  | value (depth : Nat) (value : Value)
  | key (depth : Nat) (key : Value)

mutual

/-- The parts of a value in the order in which they are written. -/
def Value.parts (depth : Nat) : Value → List Part
  | .list items => .value depth (.list items) :: itemsParts (depth + 1) items
  | .tuple items => .value depth (.tuple items) :: itemsParts (depth + 1) items
  | .mapping entries => .value depth (.mapping entries) :: entriesParts (depth + 1) entries
  | scalar => [.value depth scalar]
  termination_by structural value => value

def itemsParts (depth : Nat) : List Value → List Part
  | [] => []
  | item :: rest => item.parts depth ++ itemsParts depth rest
  termination_by structural items => items

def entriesParts (depth : Nat) : List (Value × Value) → List Part
  | [] => []
  | entry :: rest => entryParts depth entry ++ entriesParts depth rest
  termination_by structural entries => entries

def entryParts (depth : Nat) : Value × Value → List Part
  | (key, value) => .key depth key :: value.parts depth
  termination_by structural entry => entry

end

/-- An integer of more digits than are written. -/
def longInteger? (n : Int) : Option Problem :=
  if Numeral.digitLimit < (writeNat n.natAbs).length then some .longInteger else none

/-- What keeps a value from being written, whatever it holds. -/
def Value.problem? : Value → Option Problem
  | .int n => longInteger? n
  | .foreign object => some (.foreignValue object.typeName)
  | .enclosing _ => some .circular
  | _ => none

/-- What keeps a value from being a key. -/
def Value.keyProblem? : Value → Option Problem
  | .null | .bool _ | .float _ | .text _ => none
  | .int n => longInteger? n
  | .foreign object => some (.foreignKey object.fullTypeName)
  | container => some (.foreignKey container.typeName)

def Value.isContainer : Value → Bool
  | .list _ | .tuple _ | .mapping _ => true
  | _ => false

theorem Value.problem?_container {container : Value} (isContainer : container.isContainer = true) :
    container.problem? = none := by
  cases container with
  | list _ | tuple _ | mapping _ => rfl
  | _ => cases isContainer

namespace Part

def depth : Part → Nat
  | .value depth _ | .key depth _ => depth

def problem? : Part → Option Problem
  | .value _ v => v.problem?
  | .key _ k => k.keyProblem?

def isContainer : Part → Bool
  | .value _ v => v.isContainer
  | .key _ _ => false

end Part

/-- What keeps a part from being written: there is no room for a container, or there is something that
JSON cannot hold, for which there may be no room either. -/
def Part.obstacle? (stack : Stack) (part : Part) : Option Problem :=
  if part.isContainer && decide (stack.room ≤ part.depth) then some .tooDeep
  else part.problem?.map (stack.inside part.depth).raised

/-- There is room for a part, and for raising what is wrong with it. -/
structure Part.Fits (stack : Stack) (part : Part) : Prop where
  container : part.isContainer = true → part.depth < stack.room
  problem : ∀ problem ∈ part.problem?, part.depth + stack.toRaise problem ≤ stack.room

/-- The first thing in a value that keeps it from being written. -/
def Value.firstObstacle? (stack : Stack) (value : Value) : Option Problem :=
  (value.parts 0).findSome? (Part.obstacle? stack)

theorem Part.Fits.obstacle?_eq {stack : Stack} {part : Part} (fits : part.Fits stack) :
    part.obstacle? stack = part.problem? := by
  have shallow : ¬ (part.isContainer && decide (stack.room ≤ part.depth)) = true := by
    simpa using fun container => Nat.not_le_of_lt (fits.container container)
  rw [obstacle?, if_neg shallow]
  cases bad : part.problem? with
  | none => rfl
  | some problem =>
    have room : part.depth + stack.toRaise problem ≤ stack.room := fits.problem problem bad
    have raises : (stack.inside part.depth).toRaise problem ≤ (stack.inside part.depth).room :=
      Nat.le_sub_of_add_le' room
    rw [Option.map_some, Stack.raised, if_pos raises]

/-- With room for every part the first obstacle is the first thing that JSON cannot hold. -/
theorem findSome?_obstacle? {stack : Stack} {parts : List Part}
    (fit : ∀ part ∈ parts, part.Fits stack) :
    parts.findSome? (Part.obstacle? stack) = parts.findSome? Part.problem? := by
  induction parts with
  | nil => rfl
  | cons part parts ih =>
    obtain ⟨first, rest⟩ := List.forall_mem_cons.1 fit
    rw [List.findSome?_cons, List.findSome?_cons, first.obstacle?_eq, ih rest]

def failure? {α : Type} : Except Problem α → Option Problem
  | .ok _ => none
  | .error problem => some problem

variable {α β γ : Type}

@[simp] theorem failure?_ok (a : α) : failure? (.ok a) = none := rfl

@[simp] theorem failure?_error (problem : Problem) :
    failure? (.error problem : Except Problem α) = some problem := rfl

@[simp] theorem failure?_map (f : α → β) (outcome : Except Problem α) :
    failure? (outcome.map f) = failure? outcome := by
  cases outcome <;> rfl

theorem failure?_both (first : Except Problem α) (second : Except Problem β) (f : α → β → γ) :
    failure? (do
      let a ← first
      let b ← second
      return f a b) = (failure? first).or (failure? second) := by
  cases first <;> cases second <;> rfl

theorem length_writeNat_le {n digits : Nat} (positive : 0 < digits) :
    (writeNat n).length ≤ digits ↔ n < Nat.pow 10 digits :=
  Nat.length_toDigits_le_iff (by decide) positive

theorem failure?_writeInt (n : Int) : failure? (writeInt n) = longInteger? n := by
  have digits : (writeNat n.natAbs).length ≤ Numeral.digitLimit ↔
      n.natAbs < Nat.pow 10 Numeral.digitLimit := length_writeNat_le (by decide)
  unfold writeInt longInteger?
  by_cases long : Nat.pow 10 Numeral.digitLimit ≤ n.natAbs
  · have digits : Numeral.digitLimit < (writeNat n.natAbs).length :=
      Nat.lt_of_not_le fun few => Nat.not_le_of_lt (digits.1 few) long
    rw [if_pos long, if_pos digits, failure?_error]
  · have digits : (writeNat n.natAbs).length ≤ Numeral.digitLimit :=
      digits.2 (Nat.lt_of_not_le long)
    rw [if_neg long, if_neg (Nat.not_lt_of_le digits), failure?_ok]

theorem failure?_writeKey (key : Value) : failure? (writeKey key) = key.keyProblem? := by
  cases key with
  | int n => rw [writeKey, failure?_map, failure?_writeInt, Value.keyProblem?]
  | _ => rfl

theorem failure?_settle (stack : Stack) (outcome : Except Problem α) :
    failure? (stack.settle outcome) = (failure? outcome).map stack.raised := by
  cases outcome <;> rfl

variable {stack : Stack} {depth : Nat}

/-- A container fails for want of room or else where what it holds does. -/
theorem failure?_deeper {container : Value} {held : List Part} {body : Stack → Except Problem α}
    (isContainer : container.isContainer = true)
    (inside : failure? (body (stack.inside (depth + 1))) = held.findSome? (Part.obstacle? stack)) :
    failure? ((stack.inside depth).deeper body) =
      (Part.value depth container :: held).findSome? (Part.obstacle? stack) := by
  by_cases deep : stack.room ≤ depth
  · have none : stack.inside depth = stack.left 0 := by rw [Stack.inside, Nat.sub_eq_zero_of_le deep]
    rw [none, Stack.deeper_left_zero]
    simp [Part.obstacle?, Part.isContainer, Part.depth, isContainer, deep]
  · have room : stack.room - depth = stack.room - (depth + 1) + 1 := by omega
    have fits : (Part.value depth container).obstacle? stack = none := by
      simp [Part.obstacle?, Part.isContainer, Part.depth, Part.problem?, deep,
        Value.problem?_container isContainer]
    rw [List.findSome?_cons, fits, Stack.inside, room, Stack.deeper_left_succ]
    exact inside

mutual

/-- The first obstacle in a value is why it cannot be written, wherever the value stands. -/
theorem failure?_write (stack : Stack) (depth : Nat) : (value : Value) →
    failure? (write compact (stack.inside depth) value) =
      (value.parts depth).findSome? (Part.obstacle? stack)
  | .list items => by
    rw [write, Value.parts]
    exact failure?_deeper rfl (by rw [failure?_map, failure?_writeItems stack (depth + 1)])
  | .tuple items => by
    rw [write, Value.parts]
    exact failure?_deeper rfl (by rw [failure?_map, failure?_writeItems stack (depth + 1)])
  | .mapping entries => by
    rw [write, Value.parts]
    exact failure?_deeper rfl (by rw [failure?_map, failure?_writeEntries stack (depth + 1)])
  | .int n => by
    have alone : Value.parts depth (.int n) = [.value depth (.int n)] := rfl
    rw [write, failure?_settle, failure?_writeInt, alone, List.findSome?_singleton]
    rfl
  | .null => rfl
  | .bool _ => rfl
  | .float _ => rfl
  | .text _ => rfl
  | .foreign _ => rfl
  | .enclosing _ => rfl
  termination_by structural value => value

theorem failure?_writeItems (stack : Stack) (depth : Nat) : (items : List Value) →
    failure? (writeItems compact (stack.inside depth) items) =
      (itemsParts depth items).findSome? (Part.obstacle? stack)
  | [] => rfl
  | item :: rest => by
    rw [writeItems, failure?_both, itemsParts, List.findSome?_append,
      failure?_write stack depth item, failure?_writeItems stack depth rest]
  termination_by structural items => items

theorem failure?_writeEntries (stack : Stack) (depth : Nat) : (entries : List (Value × Value)) →
    failure? (writeEntries compact (stack.inside depth) entries) =
      (entriesParts depth entries).findSome? (Part.obstacle? stack)
  | [] => rfl
  | entry :: rest => by
    rw [writeEntries, failure?_both, entriesParts, List.findSome?_append,
      failure?_writeEntry stack depth entry, failure?_writeEntries stack depth rest]
  termination_by structural entries => entries

theorem failure?_writeEntry (stack : Stack) (depth : Nat) : (entry : Value × Value) →
    failure? (writeEntry compact (stack.inside depth) entry) =
      (entryParts depth entry).findSome? (Part.obstacle? stack)
  | (key, value) => by
    have first : (Part.key depth key).obstacle? stack =
        key.keyProblem?.map (stack.inside depth).raised := rfl
    rw [writeEntry, failure?_both, entryParts, List.findSome?_cons, first, failure?_settle,
      failure?_writeKey, failure?_write stack depth value]
    cases key.keyProblem? <;> rfl
  termination_by structural entry => entry

end

theorem findSome?_of_isEmpty {value : Value} (empty : value.isEmpty = true) :
    (value.parts depth).findSome? Part.problem? = none := by
  cases value with
  | int n =>
    simp only [Value.isEmpty, beq_iff_eq] at empty
    rw [empty]
    rfl
  | list items | tuple items =>
    obtain rfl : items = [] := by simpa [Value.isEmpty] using empty
    rfl
  | mapping entries =>
    obtain rfl : entries = [] := by simpa [Value.isEmpty] using empty
    rfl
  | foreign _ | enclosing _ => cases empty
  | null | bool _ | float _ | text _ => rfl

/-- Members are examined in order, whether or not those that are empty are left out. -/
theorem findSome?_sayings (sayings : List (String × Value)) :
    (entriesParts depth ((sayings.filter fun saying => !saying.2.isEmpty).map fun saying =>
        (.text saying.1, saying.2))).findSome? Part.problem? =
      sayings.findSome? fun saying => (saying.2.parts depth).findSome? Part.problem? := by
  induction sayings with
  | nil => rfl
  | cons saying sayings ih =>
    obtain ⟨name, value⟩ := saying
    have named : (Part.key depth (.text name)).problem? = none := rfl
    cases empty : value.isEmpty with
    | true => simpa [empty, findSome?_of_isEmpty empty] using ih
    | false =>
      rw [List.filter_cons_of_pos (by simp [empty]), List.map_cons, entriesParts, entryParts,
        List.findSome?_append, List.findSome?_cons, named, ih, List.findSome?_cons]
      cases (value.parts depth).findSome? Part.problem? <;> rfl

theorem kind_of_longInteger {n : Int} {problem : Problem} (long : longInteger? n = some problem) :
    problem.kind ≠ .recursion := by
  unfold longInteger? at long
  split at long
  · cases long
    nofun
  · cases long

theorem Part.kind_of_problem {part : Part} {problem : Problem} (bad : part.problem? = some problem) :
    problem.kind ≠ .recursion := by
  cases part with
  | value depth v =>
    cases v with
    | int n => exact kind_of_longInteger bad
    | foreign _ | enclosing _ =>
      cases bad
      nofun
    | _ => cases bad
  | key depth k =>
    cases k with
    | null | bool _ | float _ | text _ => cases bad
    | int n => exact kind_of_longInteger bad
    | _ =>
      cases bad
      nofun

theorem Problem.fault_eq {problem : Problem} (kind : problem.kind ≠ .recursion) :
    problem.fault = .plain .serialization ("Failed to serialize log record: " ++ problem.message)
      (some (.plain problem.kind problem.message none)) := by
  cases problem with
  | tooDeep | overflow _ | tooDeepToShow => exact absurd rfl kind
  | _ => rfl

end Json

namespace Record

/-- The parts of the fields of a record. The payload is a container around them. -/
def fieldParts (r : Record) : List Part := r.fields.parts 1

/-- The first thing in the fields that JSON cannot hold. -/
def firstProblem? (r : Record) : Option Problem := r.fieldParts.findSome? Part.problem?

/-- There is room for every part of the payload. -/
def IsWithin (stack : Stack) (r : Record) : Prop := ∀ part ∈ r.object.parts 0, part.Fits stack

theorem firstProblem?_eq (r : Record) :
    (r.object.parts 0).findSome? Part.problem? = r.firstProblem? := by
  have text (value : Option Text) :
      ((Value.text (value.getD "")).parts 1).findSome? Part.problem? = none := rfl
  have members : (r.object.parts 0).findSome? Part.problem? =
      r.sayings.findSome? fun saying => (saying.2.parts 1).findSome? Part.problem? :=
    findSome?_sayings r.sayings
  rw [members, firstProblem?, fieldParts]
  simp only [sayings, List.findSome?_cons, List.findSome?_nil, text]
  cases (r.fields.parts 1).findSome? Part.problem? <;> rfl

/-- The first obstacle in the payload of a record decides what becomes of it. -/
theorem event_of_obstacle (stack : Stack) (r : Record) :
    (∀ problem, r.object.firstObstacle? stack = some problem →
      r.event stack = .error problem.fault) ∧
    (r.object.firstObstacle? stack = none →
      ∃ message, r.event stack = .ok ⟨message, r.time.milliseconds⟩) := by
  have failure : failure? (write compact stack r.object) = r.object.firstObstacle? stack :=
    failure?_write stack 0 r.object
  rw [← failure, event_eq]
  cases write compact stack r.object with
  | ok text =>
    refine ⟨fun problem failed => ?_, fun _ => ⟨_, rfl⟩⟩
    cases failed
  | error problem =>
    refine ⟨fun other same => ?_, fun none => by cases none⟩
    cases same
    rfl

variable {stack : Stack} {r : Record}

theorem IsWithin.firstObstacle?_eq (within : r.IsWithin stack) :
    r.object.firstObstacle? stack = r.firstProblem? :=
  (findSome?_obstacle? within).trans r.firstProblem?_eq

theorem event_of_problem (within : r.IsWithin stack) {problem : Problem}
    (first : r.firstProblem? = some problem) :
    r.event stack = .error (.plain .serialization
      ("Failed to serialize log record: " ++ problem.message)
      (some (.plain problem.kind problem.message none))) := by
  obtain ⟨part, -, bad⟩ := List.exists_of_findSome?_eq_some first
  rw [← Problem.fault_eq (Part.kind_of_problem bad)]
  exact (r.event_of_obstacle stack).1 problem (within.firstObstacle?_eq.trans first)

theorem event_of_sound (within : r.IsWithin stack) (sound : r.firstProblem? = none) :
    ∃ message, r.event stack = .ok ⟨message, r.time.milliseconds⟩ :=
  (r.event_of_obstacle stack).2 (within.firstObstacle?_eq.trans sound)

end Record

/-- On every stack the first obstacle in writing order decides what becomes of a record: something that
JSON cannot hold, a container for which there is no room, or a problem that there is no room to raise.
With room for all parts of the payload, a record fails with a fault of serialization just when there is
something in its fields that JSON cannot hold. The cause is the first such thing, a key coming before its
value. In every other case it becomes an event. -/
theorem event_fails_at_first_problem (stack : Stack) (r : Record) :
    (∀ problem, r.object.firstObstacle? stack = some problem →
      r.event stack = .error problem.fault) ∧
    (r.object.firstObstacle? stack = none →
      ∃ message, r.event stack = .ok ⟨message, r.time.milliseconds⟩) ∧
    (r.IsWithin stack →
      ((∃ message cause, r.event stack = .error (.plain .serialization message cause)) ↔
        ∃ part ∈ r.fieldParts, part.problem?.isSome) ∧
      (∀ problem, r.firstProblem? = some problem →
        r.event stack = .error (.plain .serialization
          ("Failed to serialize log record: " ++ problem.message)
          (some (.plain problem.kind problem.message none)))) ∧
      ((∀ part ∈ r.fieldParts, part.problem? = none) →
        ∃ message, r.event stack = .ok ⟨message, r.time.milliseconds⟩)) := by
  obtain ⟨fails, written⟩ := r.event_of_obstacle stack
  refine ⟨fails, written, fun within => ⟨⟨?_, ?_⟩, fun _ => Record.event_of_problem within,
    fun sound => Record.event_of_sound within (List.findSome?_eq_none_iff.2 sound)⟩⟩
  · rintro ⟨message, cause, failed⟩
    refine List.findSome?_isSome_iff.1 (Option.isSome_iff_ne_none.2 fun none => ?_)
    obtain ⟨text, made⟩ := Record.event_of_sound within none
    cases made.symm.trans failed
  · intro bad
    obtain ⟨problem, first⟩ := Option.isSome_iff_exists.1 (List.findSome?_isSome_iff.2 bad)
    exact ⟨_, _, Record.event_of_problem within first⟩

/-- A set, as callers may put it into fields. -/
def oddity : Foreign := { (default : Foreign) with typeName := "set", fullTypeName := "set" }

/-- A record with a tuple for a key, whose value has no JSON form either, and with fields that hold
themselves after that. -/
def tangled : Record :=
  { (default : Record) with
    fields := .mapping [(.text "x", .list [.float .nan, .float (.infinite true)]),
      (.tuple [], .foreign oddity), (.text "self", .enclosing 0)] }

/-- A stack on which it takes room to raise the problems of values. -/
def tightStack : Stack where
  room := 4
  toRaise
    | .foreignValue _ | .circular => 2
    | _ => 0
  overflow _ _ := "maximum recursion depth exceeded"

instance (stack : Stack) (part : Part) : Decidable (part.Fits stack) :=
  decidable_of_iff ((part.isContainer = true → part.depth < stack.room) ∧
      ∀ problem ∈ part.problem?, part.depth + stack.toRaise problem ≤ stack.room)
    ⟨fun ⟨container, problem⟩ => ⟨container, problem⟩, fun fits => ⟨fits.container, fits.problem⟩⟩

theorem event_fails_at_first_problem_key :
    tangled.IsWithin tightStack ∧
      tangled.event tightStack = .error (.plain .serialization
        ("Failed to serialize log record: " ++
          "keys must be str, int, float, bool or None, not tuple")
        (some (.plain .wrongType "keys must be str, int, float, bool or None, not tuple" none))) := by
  have within : tangled.IsWithin tightStack := by
    unfold Record.IsWithin
    decide
  obtain ⟨-, -, whole⟩ := event_fails_at_first_problem tightStack tangled
  exact ⟨within, (whole within).2.1 (.foreignKey "tuple") rfl⟩

theorem Json.Part.findSome?_container {stack : Stack} {depth : Nat} {container : Value}
    {held : List Part} (isContainer : container.isContainer = true)
    (deep : held.findSome? (Part.obstacle? stack) = some .tooDeep) :
    (Part.value depth container :: held).findSome? (Part.obstacle? stack) = some .tooDeep := by
  rw [List.findSome?_cons]
  by_cases outer : stack.room ≤ depth
  · simp [Part.obstacle?, Part.isContainer, Part.depth, isContainer, outer]
  · simp [Part.obstacle?, Part.isContainer, Part.depth, Part.problem?, outer,
      Value.problem?_container isContainer, deep]

/-- In lists within lists nothing but their depth is in the way. -/
theorem Json.Value.findSome?_nested {stack : Stack} {n depth : Nat} (deep : stack.room ≤ depth + n) :
    ((Value.nested n).parts depth).findSome? (Part.obstacle? stack) = some .tooDeep := by
  induction n generalizing depth with
  | zero =>
    have outer : stack.room ≤ depth := deep
    rw [Value.nested, Value.parts, List.findSome?_cons]
    simp [Part.obstacle?, Part.isContainer, Part.depth, Value.isContainer, outer]
  | succ n ih =>
    rw [Value.nested, Value.parts]
    refine Part.findSome?_container rfl ?_
    rw [itemsParts, List.findSome?_append, ih (by omega), Option.some_or]

/-- A record whose fields hold a set after another value. -/
def burying (value : Value) : Record :=
  { (default : Record) with
    content := some "c"
    fields := .mapping [(.text "deep", value), (.text "bad", .foreign oddity)] }

theorem fieldParts_burying (value : Value) : (burying value).fieldParts =
    .value 1 (burying value).fields :: .key 2 (.text "deep") ::
      (value.parts 2 ++ [.key 2 (.text "bad"), .value 2 (.foreign oddity)]) := rfl

theorem parts_burying (value : Value) : (burying value).object.parts 0 =
    .value 0 (burying value).object :: .key 1 (.text "fields") ::
      ((burying value).fieldParts ++ [.key 1 (.text "content"), .value 1 (.text "c")]) := rfl

theorem firstObstacle?_burying {stack : Stack} {value : Value}
    (deep : (value.parts 2).findSome? (Part.obstacle? stack) = some .tooDeep) :
    (burying value).object.firstObstacle? stack = some .tooDeep := by
  have fields : (burying value).fieldParts.findSome? (Part.obstacle? stack) = some .tooDeep := by
    rw [fieldParts_burying]
    refine Part.findSome?_container rfl ?_
    rw [List.findSome?_cons]
    refine (List.findSome?_append ..).trans ?_
    rw [deep, Option.some_or]
  rw [Value.firstObstacle?, parts_burying]
  refine Part.findSome?_container rfl ?_
  rw [List.findSome?_cons]
  refine (List.findSome?_append ..).trans ?_
  rw [fields, Option.some_or]

/-- What is nested too deep hides what comes after it: there is a set in the fields, and yet the fault is
not one of serialization, unless there is room for more than twelve hundred containers. -/
theorem buried_not_reported :
    (∃ part ∈ (burying (.nested 1200)).fieldParts, part.problem?.isSome) ∧
      ∀ stack : Stack, stack.room ≤ 1202 → ¬ ∃ message cause,
        (burying (.nested 1200)).event stack = .error (.plain .serialization message cause) := by
  refine ⟨⟨.value 2 (.foreign oddity), ?_, rfl⟩, fun stack shallow => ?_⟩
  · rw [fieldParts_burying]
    simp
  · have deep : ((Value.nested 1200).parts 2).findSome? (Part.obstacle? stack) = some .tooDeep :=
      Value.findSome?_nested (by omega)
    have failed := ((burying (.nested 1200)).event_of_obstacle stack).1 .tooDeep
      (firstObstacle?_burying deep)
    rintro ⟨message, cause, reported⟩
    cases failed.symm.trans reported

end SequenceLog

import SequenceLog.Proofs.Reading
import SequenceLog.Record
/-! Payloads are read back. The message of an event holds what its record says, in order, and nothing
that is empty, so records with one message say the same. Main statement: `payload_read_back`. -/
namespace SequenceLog
open Json

theorem Text.isEmpty_iff {t : Text} : t.isEmpty = true ↔ t = ⟨[]⟩ := by
  cases t
  simp [isEmpty]

def Text.string (t : Text) : String := String.ofList (t.points.map CodePoint.toChar)

theorem Text.string_ofChars (chars : List Char) : (ofChars chars).string = String.ofList chars := by
  simp [string, Function.comp_def]

theorem Text.ofString_injective {a b : String} (same : ofString a = ofString b) : a = b := by
  have strings := congrArg Text.string same
  simpa only [ofString, string_ofChars, String.ofList_toList] using strings

theorem Json.Reads.read? {text : List Char} {value : Value} (reads : Reads text value) :
    Json.read? (String.ofList text) = some value := by
  have back := reads.back (3 * text.length + 1) [] (Nat.le_succ _) fun _ none => by cases none
  rw [List.append_nil] at back
  simp [Json.read?, back, skipSpace]

theorem Json.Value.Portable.mono {depth deeper : Nat} {value : Value}
    (portable : value.Portable depth) (le : depth ≤ deeper) : value.Portable deeper := by
  induction portable generalizing deeper with
  | null => exact .null
  | bool b => exact .bool b
  | int short => exact .int short
  | text proper => exact .text proper
  | list _ ih =>
    obtain ⟨more, rfl⟩ : ∃ more, deeper = more + 1 := ⟨deeper - 1, by omega⟩
    exact .list fun item member => ih item member (by omega)
  | mapping keys distinct _ ih =>
    obtain ⟨more, rfl⟩ : ∃ more, deeper = more + 1 := ⟨deeper - 1, by omega⟩
    exact .mapping keys distinct fun entry member => ih entry member (by omega)

namespace Record

/-- What a record says, by name. What it does not say counts as empty. -/
def sayings (r : Record) : List (String × Value) :=
  [("level", .text (r.level.getD "")), ("host", .text (r.host.getD "")), ("fields", r.fields),
    ("content", .text (r.content.getD ""))]

/-- The object that a reader of the payload is to get: what the record says, if it is not empty. -/
def object (r : Record) : Value :=
  .mapping ((r.sayings.filter fun saying => !saying.2.isEmpty).map fun (name, value) =>
    (.text name, value))

/-- A record that JSON can carry. Its fields are a mapping, with containers nested at most so deep. -/
structure Portable (depth : Nat) (r : Record) : Prop where
  level : ∀ t ∈ r.level, t.IsProper
  host : ∀ t ∈ r.host, t.IsProper
  content : ∀ t ∈ r.content, t.IsProper
  fields : r.fields.Portable depth
  mapping : ∃ entries, r.fields = .mapping entries

theorem textMember_eq (name : String) (value : Option Text) :
    textMember name value = member name (.text (value.getD "")) := by
  cases value <;> rfl

theorem payload_eq (r : Record) :
    r.payload = r.sayings.filter fun saying => !saying.2.isEmpty := by
  have kept (name : String) (value : Value) (rest : List (String × Value)) :
      ((name, value) :: rest).filter (fun saying => !saying.2.isEmpty) =
        member name value ++ rest.filter fun saying => !saying.2.isEmpty := by
    cases empty : value.isEmpty <;> simp [member, empty]
  simp only [payload, sayings, textMember_eq, kept, List.filter_nil, List.append_nil,
    List.append_assoc]

variable {stack : Stack} {depth : Nat} {r r' : Record}

theorem isProper_getD {value : Option Text} (proper : ∀ t ∈ value, t.IsProper) :
    (value.getD "").IsProper := by
  cases value with
  | none => exact fun _ member => by cases member
  | some t => exact proper t rfl

theorem Portable.object (portable : r.Portable depth) : r.object.Portable (depth + 1) := by
  have names : ∀ saying ∈ r.sayings, Text.IsProper saying.1 := by
    simp only [sayings, List.forall_mem_cons]
    exact ⟨by decide, by decide, by decide, by decide, fun _ member => by cases member⟩
  have distinct : (r.sayings.map fun saying => Value.text saying.1).Nodup := by
    simp only [sayings, List.map_cons, List.map_nil]
    decide
  have values : ∀ saying ∈ r.sayings, saying.2.Portable depth := by
    simp only [sayings, List.forall_mem_cons]
    exact ⟨.text (isProper_getD portable.level), .text (isProper_getD portable.host),
      portable.fields, .text (isProper_getD portable.content), fun _ member => by cases member⟩
  refine .mapping (fun entry member => ?_) ?_ fun entry member => ?_
  · obtain ⟨saying, said, rfl⟩ := List.mem_map.1 member
    exact ⟨_, rfl, names saying (List.mem_of_mem_filter said)⟩
  · rw [List.map_map]
    exact distinct.sublist (List.filter_sublist.map _)
  · obtain ⟨saying, said, rfl⟩ := List.mem_map.1 member
    exact values saying (List.mem_of_mem_filter said)

theorem event_eq (stack : Stack) (r : Record) : r.event stack =
    match write compact stack r.object with
    | .ok text => .ok ⟨.ofChars text, r.time.milliseconds⟩
    | .error problem => .error problem.fault := by
  have entries : .mapping (r.payload.map fun (name, value) => (Value.text name, value)) =
      r.object := by rw [payload_eq, object]
  simp only [event, encode, entries]
  cases write compact stack r.object <;> rfl

/-- Where the payload has room it becomes an event, whose message is read as the payload. -/
theorem event_written (portable : r.object.Portable stack.room) :
    ∃ e, r.event stack = .ok e ∧ read? e.message.string = some r.object := by
  obtain ⟨text, written, reads⟩ := portable.written stack
  rw [Stack.left_self] at written
  refine ⟨⟨.ofChars text, r.time.milliseconds⟩, ?_, ?_⟩
  · rw [event_eq, written]
  · rw [Text.string_ofChars, reads.read?]

theorem Portable.event (portable : r.Portable depth) (stack : Stack) :
    (r.object.Portable stack.room ∧
        ∃ e, r.event stack = .ok e ∧ read? e.message.string = some r.object) ∨
      (¬ r.object.Portable stack.room ∧ r.event stack = .error Problem.tooDeep.fault) := by
  by_cases fits : r.object.Portable stack.room
  · exact .inl ⟨fits, event_written fits⟩
  · have deep := (portable.object.written_or_tooDeep stack stack.room).resolve_left fits
    rw [Stack.left_self] at deep
    refine .inr ⟨fits, ?_⟩
    rw [event_eq, deep]

theorem Portable.read (portable : r.Portable depth) {e : LogEvent} (made : r.event stack = .ok e) :
    read? e.message.string = some r.object := by
  rcases portable.event stack with ⟨-, other, made', read⟩ | ⟨-, failed⟩
  · cases made.symm.trans made'
    exact read
  · cases made.symm.trans failed

theorem filter_names {keeps : String × Value → Bool} {a b : List (String × Value)}
    (names : a.map (·.1) = b.map (·.1)) (distinct : (a.map (·.1)).Nodup)
    (left : a.filter keeps = b.filter keeps) :
    List.Forall₂ (fun x y => x = y ∨ (keeps x = false ∧ keeps y = false)) a b := by
  induction a generalizing b with
  | nil =>
    obtain rfl : b = [] := by simpa using names.symm
    exact .nil
  | cons x a ih =>
    obtain _ | ⟨y, b⟩ := b
    · cases names
    simp only [List.map_cons, List.cons.injEq, List.nodup_cons] at names distinct
    obtain ⟨name, names⟩ := names
    obtain ⟨fresh, distinct⟩ := distinct
    -- a member that is left over on one side only would be found among the later ones of the other
    have absent : ∀ z ∈ a.filter keeps, z.1 ≠ x.1 := fun z member same =>
      fresh (same ▸ List.mem_map_of_mem (List.mem_of_mem_filter member))
    have absent' : ∀ z ∈ b.filter keeps, z.1 ≠ x.1 := fun z member same =>
      fresh (names ▸ same ▸ List.mem_map_of_mem (List.mem_of_mem_filter member))
    cases first : keeps x <;> cases second : keeps y <;>
      simp only [List.filter_cons, first, second, if_true, Bool.false_eq_true, if_false] at left
    · exact .cons (.inr ⟨first, second⟩) (ih names distinct left)
    · exact absurd name.symm (absent y (left ▸ List.mem_cons_self))
    · exact absurd rfl (absent' x (left ▸ List.mem_cons_self))
    · obtain ⟨same, left⟩ := List.cons.inj left
      exact .cons (.inl same) (ih names distinct left)

theorem text_of_members {name : String} {t t' : Text}
    (same : (name, Value.text t) = (name, .text t') ∨
      ((!(Value.text t).isEmpty) = false ∧ (!(Value.text t').isEmpty) = false)) : t = t' := by
  rcases same with same | ⟨empty, empty'⟩
  · simpa using same
  · simp only [Value.isEmpty, Bool.not_eq_false', Text.isEmpty_iff] at empty empty'
    rw [empty, empty']

/-- Records with the same payload say the same. -/
theorem object_injective (mapping : ∃ entries, r.fields = .mapping entries)
    (mapping' : ∃ entries, r'.fields = .mapping entries) (same : r.object = r'.object) :
    r.level.getD "" = r'.level.getD "" ∧ r.host.getD "" = r'.host.getD "" ∧
      r.fields = r'.fields ∧ r.content.getD "" = r'.content.getD "" := by
  have left : (r.sayings.filter fun saying => !saying.2.isEmpty) =
      r'.sayings.filter fun saying => !saying.2.isEmpty := by
    have injective : Function.Injective fun saying : String × Value =>
        (Value.text saying.1, saying.2) := by
      rintro ⟨name, value⟩ ⟨name', value'⟩ same
      simp only [Prod.mk.injEq, Value.text.injEq] at same
      rw [Text.ofString_injective same.1, same.2]
    exact List.map_injective_iff.2 injective (Value.mapping.inj same)
  have names : (r.sayings.map (·.1)).Nodup := by
    simp only [sayings, List.map_cons, List.map_nil]
    decide
  have sameNames : r.sayings.map (·.1) = r'.sayings.map (·.1) := rfl
  have members := filter_names sameNames names left
  simp only [sayings, List.forall₂_cons, List.forall₂_nil_left_iff] at members
  obtain ⟨level, host, fields, content, -⟩ := members
  refine ⟨text_of_members level, text_of_members host, ?_, text_of_members content⟩
  obtain ⟨entries, fields_eq⟩ := mapping
  obtain ⟨entries', fields_eq'⟩ := mapping'
  rw [fields_eq, fields_eq'] at fields ⊢
  rcases fields with same | ⟨empty, empty'⟩
  · simpa using same
  · simp only [Value.isEmpty, Bool.not_eq_false', List.isEmpty_iff] at empty empty'
    rw [empty, empty']

end Record

/-- On every stack the message of a record that JSON can carry is read back as what the record says,
as long as there is room for the containers of its payload, which are one more around those of the
fields. Where there is none, there is no message. Records with the same message say the same, on
whatever stacks it was made. -/
theorem payload_read_back (stack stack' : Stack) {depth depth' : Nat} {r r' : Record}
    (portable : r.Portable depth) (portable' : r'.Portable depth') :
    (depth < stack.room → r.object.Portable stack.room) ∧
    (r.object.Portable stack.room →
      ∃ e, r.event stack = .ok e ∧ read? e.message.string = some r.object) ∧
    (¬ r.object.Portable stack.room → ¬ ∃ e, r.event stack = .ok e) ∧
    (∀ e e', r.event stack = .ok e → r'.event stack' = .ok e' → e.message = e'.message →
      r.level.getD "" = r'.level.getD "" ∧ r.host.getD "" = r'.host.getD "" ∧
        r.fields = r'.fields ∧ r.content.getD "" = r'.content.getD "") := by
  refine ⟨fun roomy => portable.object.mono roomy, Record.event_written, fun deep => ?_,
    fun e e' made made' same => ?_⟩
  · rintro ⟨e, made⟩
    cases made.symm.trans ((portable.event stack).resolve_left fun fits => deep fits.1).2
  · have read : read? e.message.string = some r.object := portable.read made
    have read' : read? e'.message.string = some r'.object := portable'.read made'
    rw [same, read', Option.some.injEq] at read
    exact Record.object_injective portable.mapping portable'.mapping read.symm

/-- A record with most of what a payload can hold. -/
def greeting : Record where
  group := none
  stream := none
  content := some "say \"hi\""
  level := some "INFO"
  host := none
  fields := .mapping [(.text "n", .int (-70)),
    (.text "😀", .list [.null, .bool true, .text "é\n", .mapping []])]
  time := default

/-- The same, said by another stream of a host without a name. -/
def greetingElsewhere : Record := { greeting with stream := some "other", host := some "" }

theorem portable_greeting : greeting.Portable 3 where
  level t some := by cases some; decide
  host t none := by cases none
  content t some := by cases some; decide
  mapping := ⟨_, rfl⟩
  fields := by
    have inner : Value.Portable 2 (.list [.null, .bool true, .text "é\n", .mapping []]) := by
      refine .list ?_
      simp only [List.forall_mem_cons]
      exact ⟨.null, .bool true, .text (by decide),
        .mapping (fun _ none => by cases none) .nil (fun _ none => by cases none),
        fun _ none => by cases none⟩
    refine .mapping ?_ (by decide) ?_
    · simp only [List.forall_mem_cons]
      exact ⟨⟨_, rfl, by decide⟩, ⟨_, rfl, by decide⟩, fun _ none => by cases none⟩
    · simp only [List.forall_mem_cons]
      exact ⟨.int (by decide +kernel), inner, fun _ none => by cases none⟩

theorem payload_read_back_greeting :
    greeting.Portable 3 ∧ greetingElsewhere.Portable 3 ∧ 3 < (Stack.ofRoom 4).room ∧
      ∃ e e', greeting.event (.ofRoom 4) = .ok e ∧
        greetingElsewhere.event (.ofRoom 5) = .ok e' ∧ e.message = e'.message ∧
        read? e.message.string = some greeting.object ∧
        greeting.fields = greetingElsewhere.fields := by
  have elsewhere : greetingElsewhere.Portable 3 :=
    { portable_greeting with host := fun t some => by cases some; decide }
  obtain ⟨fits, written, -, injective⟩ :=
    payload_read_back (.ofRoom 4) (.ofRoom 5) portable_greeting elsewhere
  obtain ⟨fits', written', -, -⟩ :=
    payload_read_back (.ofRoom 5) (.ofRoom 4) elsewhere portable_greeting
  obtain ⟨e, made, read⟩ := written (fits (by decide))
  obtain ⟨e', made', -⟩ := written' (fits' (by decide))
  have same : (greeting.event (.ofRoom 4)).toOption.map (·.message) =
      (greetingElsewhere.event (.ofRoom 5)).toOption.map (·.message) := by decide +kernel
  rw [made, made'] at same
  have same : e.message = e'.message := Option.some.inj same
  exact ⟨portable_greeting, elsewhere, by decide, e, e', made, made', same, read,
    (injective e e' made made' same).2.2.1⟩

theorem portable_nested {n depth : Nat} : (Value.nested n).Portable depth ↔ n < depth := by
  induction n generalizing depth with
  | zero =>
    constructor
    · intro portable
      cases portable
      exact Nat.zero_lt_succ _
    · intro positive
      obtain ⟨room, rfl⟩ : ∃ room, depth = room + 1 := ⟨depth - 1, by omega⟩
      exact .list fun _ none => by cases none
  | succ n ih =>
    constructor
    · intro portable
      cases portable with
      | list items => exact Nat.succ_lt_succ (ih.1 (items _ List.mem_cons_self))
    · intro deeper
      obtain ⟨room, rfl⟩ : ∃ room, depth = room + 1 := ⟨depth - 1, by omega⟩
      refine .list fun item member => ?_
      rw [List.mem_singleton.1 member]
      exact ih.2 (Nat.lt_of_succ_lt_succ deeper)

/-- A record with lists in lists, deeper than a payload has room for. -/
def abyss : Record where
  group := none
  stream := none
  content := none
  level := none
  host := none
  fields := .mapping [(.text "deep", .nested 1200)]
  time := default

theorem portable_abyss : abyss.Portable 1202 := by
  have keys : ∀ entry ∈ [(Value.text "deep", Value.nested 1200)],
      ∃ name : Text, entry.1 = .text name ∧ name.IsProper := by
    intro entry member
    rw [List.mem_singleton.1 member]
    exact ⟨_, rfl, by decide⟩
  exact {
    level := fun _ none => by cases none
    host := fun _ none => by cases none
    content := fun _ none => by cases none
    mapping := ⟨_, rfl⟩
    fields := by
      refine .mapping keys (by simp) fun entry member => ?_
      rw [List.mem_singleton.1 member]
      exact portable_nested.2 (by decide) }

theorem event_abyss {stack : Stack} (shallow : stack.room ≤ 1202) :
    abyss.event stack = .error Problem.tooDeep.fault := by
  rcases portable_abyss.event stack with ⟨fits, -⟩ | ⟨-, failed⟩
  · have object : abyss.object = .mapping [(.text "fields", abyss.fields)] := rfl
    rw [object] at fits
    generalize stack.room = room at fits shallow
    cases fits with
    | mapping _ _ values =>
      have inside := values _ List.mem_cons_self
      cases inside with
      | mapping _ _ values =>
        have short := portable_nested.1 (values _ List.mem_cons_self)
        omega
  · exact failed

/-- There is no message on any stack without room for more than twelve hundred containers. -/
theorem abyss_without_message :
    abyss.Portable 1202 ∧ ∀ stack : Stack, stack.room ≤ 1202 → ¬ ∃ e, abyss.event stack = .ok e := by
  refine ⟨portable_abyss, fun stack shallow ⟨e, made⟩ => ?_⟩
  cases made.symm.trans (event_abyss shallow)

end SequenceLog

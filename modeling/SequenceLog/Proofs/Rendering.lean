import SequenceLog.Logging.Line
/-! What becomes of a record as a line. A plain line is there for every record whose message can be
rendered, and a JSON line wherever the formatter returns a text. That of the library does if each further
attribute either has a JSON form inside the object or can at least be shown. Main statements:
`format_rendered` and `returns_jsonFormatter`. -/
namespace SequenceLog

namespace Json
variable {layout : Layout} {α β γ : Type}

theorem both_ok {first : Except Problem α} {second : Except Problem β} {f : α → β → γ} {c : γ} :
    (do
      let a ← first
      let b ← second
      return f a b) = .ok c ↔ ∃ a b, first = .ok a ∧ second = .ok b ∧ f a b = c := by
  constructor
  · intro done
    cases first with
    | error problem => cases done
    | ok a =>
      cases second with
      | error problem => cases done
      | ok b => exact ⟨a, b, rfl, rfl, Except.ok.inj done⟩
  · rintro ⟨a, b, rfl, rfl, rfl⟩
    rfl

variable {stack : Stack}

theorem settle_ok_iff {outcome : Except Problem α} {a : α} :
    stack.settle outcome = .ok a ↔ outcome = .ok a := by
  cases outcome with
  | ok b => exact Iff.rfl
  | error problem => simp [Stack.settle]

theorem deeper_roomier {room : Nat} {body : Stack → Except Problem α} {f : α → β} {b : β}
    (roomier : ∀ room a, body (stack.left room) = .ok a → body (stack.left (room + 1)) = .ok a)
    (written : ((stack.left room).deeper fun stack => (body stack).map f) = .ok b) :
    ((stack.left (room + 1)).deeper fun stack => (body stack).map f) = .ok b := by
  cases room with
  | zero => cases written
  | succ room =>
    rw [Stack.deeper_left_succ] at written ⊢
    cases held : body (stack.left room) with
    | error problem => simp [held, Except.map] at written
    | ok a => rwa [roomier room a held, ← held]

mutual

theorem write_roomier (room : Nat) : (value : Value) → ∀ text,
    write layout (stack.left room) value = .ok text →
      write layout (stack.left (room + 1)) value = .ok text
  | .list items => fun _ written => by
    rw [write] at written ⊢
    exact deeper_roomier (fun room => writeItems_roomier room items) written
  | .tuple items => fun _ written => by
    rw [write] at written ⊢
    exact deeper_roomier (fun room => writeItems_roomier room items) written
  | .mapping entries => fun _ written => by
    rw [write] at written ⊢
    exact deeper_roomier (fun room => writeEntries_roomier room entries) written
  | .null | .bool _ | .float _ | .text _ => fun _ written => by rwa [write] at written ⊢
  | .int _ | .foreign _ | .enclosing _ => fun _ written => by
    rw [write, settle_ok_iff] at written ⊢
    exact written
  termination_by structural value => value

theorem writeItems_roomier (room : Nat) : (items : List Value) → ∀ texts,
    writeItems layout (stack.left room) items = .ok texts →
      writeItems layout (stack.left (room + 1)) items = .ok texts
  | [] => fun _ written => written
  | item :: rest => fun _ written => by
    rw [writeItems, both_ok] at written ⊢
    obtain ⟨text, texts, first, others, joined⟩ := written
    exact ⟨text, texts, write_roomier room item text first,
      writeItems_roomier room rest texts others, joined⟩
  termination_by structural items => items

theorem writeEntries_roomier (room : Nat) : (entries : List (Value × Value)) → ∀ texts,
    writeEntries layout (stack.left room) entries = .ok texts →
      writeEntries layout (stack.left (room + 1)) entries = .ok texts
  | [] => fun _ written => written
  | entry :: rest => fun _ written => by
    rw [writeEntries, both_ok] at written ⊢
    obtain ⟨text, texts, first, others, joined⟩ := written
    exact ⟨text, texts, writeEntry_roomier room entry text first,
      writeEntries_roomier room rest texts others, joined⟩
  termination_by structural entries => entries

theorem writeEntry_roomier (room : Nat) : (entry : Value × Value) → ∀ text,
    writeEntry layout (stack.left room) entry = .ok text →
      writeEntry layout (stack.left (room + 1)) entry = .ok text
  | (key, value) => fun _ written => by
    rw [writeEntry, both_ok] at written ⊢
    obtain ⟨keyText, text, first, held, joined⟩ := written
    rw [settle_ok_iff] at first
    exact ⟨keyText, text, settle_ok_iff.2 first, write_roomier room value text held, joined⟩
  termination_by structural entry => entry

end

/-- What is written inside a container is written the same outside. -/
theorem write_of_inside {value : Value} {text : List Char}
    (written : write layout (stack.inside 1) value = .ok text) :
    write layout stack value = .ok text := by
  cases room : stack.room with
  | zero =>
    have same : stack.room - 1 = stack.room := by rw [room]
    rwa [Stack.inside, same, Stack.left_self] at written
  | succ room' =>
    rw [Stack.inside, room, Nat.add_sub_cancel] at written
    have roomier := write_roomier room' value text written
    rwa [← room, Stack.left_self] at roomier

end Json

namespace Logging
open Json
variable {stack : Stack}

/-- A formatter does its work for a record: it returns a text. -/
def Formatter.Returns (json : Formatter) (now : Moment) (line : LogLine) : Prop :=
  ∃ text, json now line = .ok text

/-- The message of the record can be rendered, and an object can be made of it if one is wanted. -/
structure IsRendered (json : Formatter) (style : LineFormat) (now : Moment) (line : LogLine) :
    Prop where
  message : ∀ further ∈ line.extra, further.1 ≠ renderingAttribute
  object : style = .json → json.Returns now line

/-- A value that finds its place in an object: it has a JSON form there, or else it can be shown. -/
def IsShowable (stack : Stack) (value : Value) : Prop :=
  (∃ text, write spaced (stack.inside 1) value = .ok text) ∨
    ∃ problem, write spaced stack value = .error problem ∧ problem.kind ≠ .recursion ∧
      value.unshownWithin stack.room = none

theorem isShowable_text (text : Text) : IsShowable stack (.text text) := .inl ⟨_, rfl⟩

theorem IsShowable.writable {value : Value} (showable : IsShowable stack value) :
    ∃ stand text, writable stack value = .ok stand ∧
      write spaced (stack.inside 1) stand = .ok text := by
  unfold Logging.writable
  rcases showable with ⟨text, written⟩ | ⟨problem, failed, shallow, shown⟩
  · rw [write_of_inside written]
    exact ⟨value, text, rfl, written⟩
  · rw [failed]
    dsimp only
    rw [if_neg shallow, shown]
    exact ⟨.text value.shown, _, rfl, rfl⟩

theorem forall_setMember {P : Value → Prop} {name : Text} {value : Value}
    {done : List (Text × Value)} (own : P value) (others : ∀ member ∈ done, P member.2) :
    ∀ member ∈ setMember name value done, P member.2 := by
  induction done with
  | nil => exact List.forall_mem_singleton.2 own
  | cons first rest ih =>
    obtain ⟨here, further⟩ := List.forall_mem_cons.1 others
    unfold setMember
    split
    · exact List.forall_mem_cons.2 ⟨own, further⟩
    · exact List.forall_mem_cons.2 ⟨here, ih further⟩

theorem forall_setMembers {P : Value → Prop} {given done : List (Text × Value)}
    (each : ∀ member ∈ given, P member.2) (others : ∀ member ∈ done, P member.2) :
    ∀ member ∈ given.foldl (fun done (name, value) => setMember name value done) done,
      P member.2 := by
  induction given generalizing done with
  | nil => exact others
  | cons first rest ih =>
    obtain ⟨here, further⟩ := List.forall_mem_cons.1 each
    exact ih further (forall_setMember here others)

theorem isShowable_members (now : Moment) {line : LogLine}
    (each : ∀ further ∈ line.extra, IsShowable stack (carriedValue further.2)) :
    ∀ member ∈ members now line, IsShowable stack member.2 := by
  have extra := forall_setMembers (P := fun value => IsShowable stack (carriedValue value)) each
    (List.forall_mem_nil _)
  have carried : ∀ member ∈ (((line.extra.foldl (fun done (name, value) =>
      setMember name value done) []).filter (·.1 ≠ taskName)).map fun (name, value) =>
        (name, carriedValue value)) ++ [textMember "message" line.message],
      IsShowable stack member.2 := by
    refine List.forall_mem_append.2 ⟨?_, List.forall_mem_singleton.2 (isShowable_text _)⟩
    intro member listed
    obtain ⟨⟨name, value⟩, kept, rfl⟩ := List.mem_map.1 listed
    exact extra _ (List.mem_filter.1 kept).1
  unfold members
  dsimp only
  split
  · exact carried
  · exact List.forall_mem_append.2 ⟨carried, List.forall_mem_singleton.2 (isShowable_text _)⟩

theorem written_members {given : List (Text × Value)}
    (each : ∀ member ∈ given, IsShowable stack member.2) :
    ∃ entries texts,
      given.mapM (fun (name, value) => do return (Value.text name, ← writable stack value)) =
        .ok entries ∧ writeEntries spaced (stack.inside 1) entries = .ok texts := by
  induction given with
  | nil => exact ⟨[], [], rfl, rfl⟩
  | cons member rest ih =>
    obtain ⟨name, value⟩ := member
    obtain ⟨here, further⟩ := List.forall_mem_cons.1 each
    obtain ⟨entries, texts, made, written⟩ := ih further
    obtain ⟨stand, text, (stands : writable stack value = .ok stand), shown⟩ := here.writable
    have first : writeEntry spaced (stack.inside 1) (.text name, stand) =
        .ok (writeText name ++ spaced.colon ++ text) :=
      both_ok.2 ⟨_, _, rfl, shown, rfl⟩
    refine ⟨(.text name, stand) :: entries, (writeText name ++ spaced.colon ++ text) :: texts, ?_, ?_⟩
    · rw [List.mapM_cons, made]
      dsimp only
      rw [stands]
      rfl
    · rw [writeEntries, both_ok]
      exact ⟨_, _, first, written, rfl⟩

/-- The formatter of JSON lines returns a text if there is room for the object and every further
attribute finds its place in it. -/
theorem returns_jsonFormatter {now : Moment} {line : LogLine} (roomy : 0 < stack.room)
    (each : ∀ further ∈ line.extra, IsShowable stack (carriedValue further.2)) :
    (jsonFormatter stack).Returns now line := by
  obtain ⟨entries, texts, made, written⟩ := written_members (isShowable_members now each)
  have whole : write spaced stack (.mapping entries) = .ok (writeMapping spaced texts) := by
    obtain ⟨room, same⟩ := Nat.exists_eq_add_of_le' roomy
    rw [Stack.inside, same, Nat.add_sub_cancel] at written
    rw [← stack.left_self, same, write, Stack.deeper_left_succ, written]
    rfl
  have line : jsonLine stack now line = .ok (.ofChars (writeMapping spaced texts)) := by
    unfold jsonLine
    rw [made]
    change (write spaced stack (.mapping entries)).bind _ = _
    rw [whole]
    rfl
  refine ⟨.ofChars (writeMapping spaced texts), ?_⟩
  simp only [jsonFormatter, line]

theorem format_rendered {json : Formatter} {style : LineFormat} {now : Moment} {line : LogLine}
    (rendered : IsRendered json style now line) :
    ∃ text : Text, text ≠ "" ∧ format json now line style = .ok text := by
  have ended (text : Text) : text ++ "\n" ≠ "" := by
    intro empty
    have points := congrArg Text.points empty
    exact absurd points (List.append_ne_nil_of_right_ne_nil _ nofun)
  have message : line.extra.any (·.1 = renderingAttribute) = false := by
    simpa using rendered.message
  unfold format
  rw [message, if_neg Bool.false_ne_true]
  cases style with
  | text => exact ⟨plainLine now line ++ "\n", ended _, rfl⟩
  | json =>
    obtain ⟨text, made⟩ := rendered.object rfl
    simp only [made]
    exact ⟨text ++ "\n", ended _, rfl⟩

end Logging
end SequenceLog

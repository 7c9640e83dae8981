import SequenceLog.Proofs.Payload
/-! The identity of a record. A record in full is its payload with group, stream and time in front, text
for text, and where the one cannot be written neither can the other. So the message of an event does not
tell where or when the record belongs. Main statement: `payload_drops_identity`. -/
namespace SequenceLog
open Json

namespace Json

def writeMember (name : String) (value : Text) : List Char := writeText name ++ ':' :: writeText value

theorem writeEntries_texts (stack : Stack) (members : List (String × Text))
    (entries : List (Value × Value)) :
    writeEntries compact stack
        (members.map (fun member => (.text member.1, .text member.2)) ++ entries) =
      (writeEntries compact stack entries).map
        (members.map (fun member => writeMember member.1 member.2) ++ ·) := by
  induction members with
  | nil =>
    simp only [List.map_nil, List.nil_append]
    cases writeEntries compact stack entries <;> rfl
  | cons member members ih =>
    have written : writeEntry compact stack (.text member.1, .text member.2) =
        .ok (writeMember member.1 member.2) := by
      simp [writeEntry, writeKey, write, writeMember, compact, bind, Except.bind, pure,
        Except.pure]
    rw [List.map_cons, List.cons_append, writeEntries, written, ih]
    cases writeEntries compact stack entries <;> rfl

theorem writeEntries_ne_nil {stack : Stack} {entries : List (Value × Value)}
    {texts : List (List Char)} (written : writeEntries compact stack entries = .ok texts) :
    ∀ text ∈ texts, text ≠ [] := by
  induction entries generalizing texts with
  | nil =>
    cases written
    exact fun _ => nofun
  | cons entry entries ih =>
    obtain ⟨key, value⟩ := entry
    simp only [writeEntries, writeEntry, bind, Except.bind, pure, Except.pure] at written
    cases first : stack.settle (writeKey key) with
    | error problem => simp [first] at written
    | ok keyText =>
      cases second : write compact stack value with
      | error problem => simp [first, second] at written
      | ok valueText =>
        cases rest : writeEntries compact stack entries with
        | error problem => simp [first, second, rest] at written
        | ok others =>
          simp only [first, second, rest, Except.ok.injEq] at written
          subst written
          exact List.forall_mem_cons.2 ⟨by simp [compact], ih rest⟩

/-- Items with commas between them: those before one that is there in any case have a comma behind them,
and what comes after it has one before it. -/
theorem joinItems_append (front : List (List Char)) (middle : List Char)
    {rest : List (List Char)} (present : ∀ text ∈ rest, text ≠ []) :
    joinItems compact (front ++ middle :: rest) = front.flatMap (· ++ [',']) ++ middle ++
      (if joinItems compact rest = [] then [] else ',' :: joinItems compact rest) := by
  induction front with
  | nil =>
    cases rest with
    | nil => simp [joinItems]
    | cons text rest =>
      have written : joinItems compact (text :: rest) ≠ [] := by
        cases rest <;> simp [joinItems, present text List.mem_cons_self]
      rw [if_neg written]
      simp [joinItems, compact]
  | cons item front ih =>
    obtain ⟨next, others, same⟩ : ∃ next others, front ++ middle :: rest = next :: others := by
      cases front <;> exact ⟨_, _, rfl⟩
    rw [List.cons_append, same, joinItems, ← same, ih]
    · simp [compact]
    · simp

end Json

namespace Record

/-- Group and stream of a record where they are not empty, and its time. -/
def addresses (r : Record) : List (String × Text) :=
  [("group", r.group.getD ""), ("stream", r.stream.getD "")].filter (!·.2.isEmpty) ++
    [("time", (r.time.isoText : Text))]

def leading (name : String) (value : Option Text) : List Char :=
  if (value.getD "").isEmpty then [] else writeMember name (value.getD "") ++ [',']

/-- Group, stream and time of a record, as they are written. -/
def identityText (r : Record) : List Char :=
  leading "group" r.group ++ leading "stream" r.stream ++ writeMember "time" r.time.isoText

theorem identity_eq (r : Record) :
    r.identity = r.addresses.map fun member => (member.1, .text member.2) := by
  cases group : (r.group.getD "").isEmpty <;> cases stream : (r.stream.getD "").isEmpty <;>
    simp [identity, addresses, textMember_eq, member, Value.isEmpty, group, stream]

theorem encode_eq (stack : Stack) (members : List (String × Value)) : encode stack members =
    match stack.deeper fun stack =>
        writeEntries compact stack (members.map fun member => (.text member.1, member.2)) with
    | .ok texts => .ok (.ofChars ('{' :: joinItems compact texts ++ ['}']))
    | .error problem => .error problem.fault := by
  simp only [encode, write, Stack.deeper]
  cases stack.room with
  | zero => rfl
  | succ room =>
    dsimp only
    cases writeEntries compact (stack.left room)
        (members.map fun member => (.text member.1, member.2)) <;> rfl

/-- The identity stands in front of the other members, with a comma before these if there are any. -/
theorem joinItems_addresses (r : Record) {texts : List (List Char)}
    (present : ∀ text ∈ texts, text ≠ []) :
    joinItems compact (r.addresses.map (fun member => writeMember member.1 member.2) ++ texts) =
      r.identityText ++
        (if joinItems compact texts = [] then [] else ',' :: joinItems compact texts) := by
  have named : ([("group", r.group.getD ""), ("stream", r.stream.getD "")].filter
      (!·.2.isEmpty)).flatMap (fun member => writeMember member.1 member.2 ++ [',']) =
      leading "group" r.group ++ leading "stream" r.stream := by
    cases group : (r.group.getD "").isEmpty <;> cases stream : (r.stream.getD "").isEmpty <;>
      simp [leading, group, stream]
  rw [addresses, List.map_append, List.append_assoc, List.map_singleton, List.singleton_append,
    joinItems_append _ _ present, List.flatMap_map, named, identityText]

end Record

/-- On every stack a record in full and its payload are both written or fail with the same fault.
Where they are written, the record in full is its payload with group and stream, if they are not
empty, and the time in front of the other members, and a comma between if there are others. The
message of the event is the payload, and is the same for another group, stream or time. -/
theorem payload_drops_identity (stack : Stack) (r : Record) :
    ((∃ fault, Record.encode stack r.full = .error fault ∧
        Record.encode stack r.payload = .error fault) ∨
      ∃ rest : List Char,
        Record.encode stack r.payload = .ok (.ofChars ('{' :: rest ++ ['}'])) ∧
        Record.encode stack r.full = .ok (.ofChars ('{' :: r.identityText ++
          (if rest = [] then [] else ',' :: rest) ++ ['}']))) ∧
    (r.event stack).map LogEvent.message = Record.encode stack r.payload ∧
    ∀ group stream time,
      ({ r with group := group, stream := stream, time := time }.event stack).map
        LogEvent.message = (r.event stack).map LogEvent.message := by
  have message (r : Record) : (r.event stack).map LogEvent.message =
      Record.encode stack r.payload := by
    unfold Record.event
    cases Record.encode stack r.payload <;> rfl
  refine ⟨?_, message r, fun group stream time => by rw [message, message]; rfl⟩
  have written (stack : Stack) := writeEntries_texts stack r.addresses
    (r.payload.map fun member => (.text member.1, member.2))
  simp only [Record.encode_eq, Record.full, Record.identity_eq, List.map_append, List.map_map,
    Function.comp_def, written, Stack.deeper]
  cases stack.room with
  | zero => exact .inl ⟨_, rfl, rfl⟩
  | succ room =>
    dsimp only
    cases payload : writeEntries compact (stack.left room)
        (r.payload.map fun member => (.text member.1, member.2)) with
    | error problem => exact .inl ⟨problem.fault, rfl, rfl⟩
    | ok texts =>
      refine .inr ⟨joinItems compact texts, rfl, ?_⟩
      simp only [Except.map, Record.joinItems_addresses r (writeEntries_ne_nil payload),
        List.append_assoc, List.cons_append]

end SequenceLog

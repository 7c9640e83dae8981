import SequenceLog.Json.Sameness
/-! Keys of mappings. Keys that count as the same are one key; a mapping keeps its keys in the order
in which they were first set. -/
namespace SequenceLog.Json.Value

mutual

/-- The first part of a value, in the order in which they are looked at, that can change. A value
with such a part is no key. -/
def changeable? : Value → Option Value
  | .list items => some (.list items)
  | .mapping entries => some (.mapping entries)
  | .tuple items => changeableItem? items
  | _ => none
  termination_by structural value => value

def changeableItem? : List Value → Option Value
  | [] => none
  | item :: rest => (changeable? item).or (changeableItem? rest)
  termination_by structural items => items

end

/-- Sets a key. One that is there already keeps its place and spelling. -/
def setEntry (key value : Value) : List (Value × Value) → List (Value × Value)
  | [] => [(key, value)]
  | (k, v) :: rest =>
    if same k key then (k, value) :: rest else (k, v) :: setEntry key value rest

def ofEntries (entries : List (Value × Value)) : Value :=
  .mapping (entries.foldl (fun done (key, value) => setEntry key value done) [])

def lookup (name : Text) (entries : List (Value × Value)) : Option Value :=
  (entries.find? fun entry => entry.1 = .text name).map (·.2)

end SequenceLog.Json.Value

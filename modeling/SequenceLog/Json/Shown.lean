import SequenceLog.Json.Writer
import SequenceLog.Text.Quoted
/-! Values as messages show them. A value on its own is shown as its text; among others, texts are
quoted and foreign objects shown by their literals. A container inside itself is left out. -/
namespace SequenceLog.Json.Value

inductive Container where
  | list
  | tuple
  | mapping
  deriving DecidableEq, Repr

/-- What stands for a container where it contains itself. -/
def Container.ellipsis : Container → Text
  | .list => "[...]"
  | .tuple => "(...)"
  | .mapping => "\x7b...\x7d"

def commaSeparated : List Text → Text
  | [] => ""
  | [item] => item
  | item :: rest => item ++ ", " ++ commaSeparated rest

/-- A single item in a tuple keeps its comma. -/
def bracketed (container : Container) (items : List Text) : Text :=
  match container, items with
  | .list, items => "[" ++ commaSeparated items ++ "]"
  | .tuple, [item] => "(" ++ item ++ ",)"
  | .tuple, items => "(" ++ commaSeparated items ++ ")"
  | .mapping, items => "\x7b" ++ commaSeparated items ++ "\x7d"

mutual

/-- Shows a value inside the given containers, the innermost first. -/
def shownIn (outer : List Container) : Value → Text
  | .null => "None"
  | .bool b => if b then "True" else "False"
  | .int n => toString n
  | .float x => .ofChars (x.decimalText Binary64.plain)
  | .text t => t.quoted
  | .list items => bracketed .list (shownItems (.list :: outer) items)
  | .tuple items => bracketed .tuple (shownItems (.tuple :: outer) items)
  | .mapping entries => bracketed .mapping (shownEntries (.mapping :: outer) entries)
  | .foreign object => object.literal
  | .enclosing levels => ((outer[levels]?).getD .list).ellipsis
  termination_by structural value => value

def shownItems (outer : List Container) : List Value → List Text
  | [] => []
  | item :: rest => shownIn outer item :: shownItems outer rest
  termination_by structural items => items

def shownEntries (outer : List Container) : List (Value × Value) → List Text
  | [] => []
  | entry :: rest => shownEntry outer entry :: shownEntries outer rest
  termination_by structural entries => entries

def shownEntry (outer : List Container) : Value × Value → Text
  | (key, value) => shownIn outer key ++ ": " ++ shownIn outer value
  termination_by structural entry => entry

end

/-- A value on its own. -/
def shown : Value → Text
  | .text t => t
  | .foreign object => object.text
  | value => shownIn [] value

mutual

/-- The first reason, in the order in which the parts are shown, why a value cannot be shown with
room for the given number of containers around one another. -/
def unshownWithin (room : Nat) : Value → Option Problem
  | .int n => if Nat.pow 10 Numeral.digitLimit ≤ n.natAbs then some .longInteger else none
  | .list items | .tuple items =>
    match room with
    | 0 => some .tooDeepToShow
    | room + 1 => unshownItems room items
  | .mapping entries =>
    match room with
    | 0 => some .tooDeepToShow
    | room + 1 => unshownEntries room entries
  | _ => none
  termination_by structural value => value

def unshownItems (room : Nat) : List Value → Option Problem
  | [] => none
  | item :: rest => (unshownWithin room item).or (unshownItems room rest)
  termination_by structural items => items

def unshownEntries (room : Nat) : List (Value × Value) → Option Problem
  | [] => none
  | entry :: rest => (unshownEntry room entry).or (unshownEntries room rest)
  termination_by structural entries => entries

def unshownEntry (room : Nat) : Value × Value → Option Problem
  | (key, value) => (unshownWithin room key).or (unshownWithin room value)
  termination_by structural entry => entry

end

end SequenceLog.Json.Value

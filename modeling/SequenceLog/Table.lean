/-! Tables: finite maps whose entries are kept in a list, at most one for each key. -/
namespace SequenceLog

structure Table (κ α : Type) where
  entries : List (κ × α)
  deriving Repr

namespace Table
variable {κ α : Type} [DecidableEq κ]

def empty : Table κ α := ⟨[]⟩

def get? (t : Table κ α) (key : κ) : Option α :=
  (t.entries.find? fun entry => entry.1 = key).map (·.2)

def erase (t : Table κ α) (key : κ) : Table κ α := ⟨t.entries.filter (·.1 ≠ key)⟩

def insert (t : Table κ α) (key : κ) (value : α) : Table κ α :=
  ⟨(key, value) :: (t.erase key).entries⟩

def size (t : Table κ α) : Nat := t.entries.length

@[simp] theorem get?_empty (key : κ) : (empty : Table κ α).get? key = none := rfl

@[simp] theorem get?_erase_self (t : Table κ α) (key : κ) : (t.erase key).get? key = none := by
  simp [get?, erase, List.find?_eq_none]

@[simp] theorem get?_erase_other (t : Table κ α) {key other : κ} (h : other ≠ key) :
    (t.erase key).get? other = t.get? other := by
  unfold get? erase
  rw [List.find?_filter]
  congr 2
  funext entry
  by_cases e : entry.1 = other <;> simp [e, h]

@[simp] theorem get?_insert_self (t : Table κ α) (key : κ) (value : α) :
    (t.insert key value).get? key = some value := by
  simp [get?, insert]

@[simp] theorem get?_insert_other (t : Table κ α) {key other : κ} (value : α) (h : other ≠ key) :
    (t.insert key value).get? other = t.get? other := by
  rw [← get?_erase_other t h]
  simp [get?, insert, h.symm]

end Table
end SequenceLog

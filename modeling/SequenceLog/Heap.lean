/-! Binary heaps. An item is moved only along the way between the top and a leaf, and only by
asking whether one item comes before another. Where items come in some order the first of them is
on top; the heap is of use as well where some items come neither before nor after others. -/
namespace SequenceLog

/-- The children of the item at `i` are those at `2 * i + 1` and `2 * i + 2`. -/
structure Heap (α : Type) (before : α → α → Bool) where
  items : Array α

namespace Heap
variable {α : Type} {before : α → α → Bool} {n : Nat}

def empty : Heap α before := ⟨#[]⟩

instance : Inhabited (Heap α before) := ⟨empty⟩

def toList (h : Heap α before) : List α := h.items.toList

def size (h : Heap α before) : Nat := h.items.size

def top? (h : Heap α before) : Option α := h.items[0]?

def map (f : α → α) (h : Heap α before) : Heap α before := ⟨h.items.map f⟩

/-- Moves an item upwards past every parent that it comes before, but not beyond `stop`. -/
def rise (before : α → α → Bool) (stop : Nat) (items : Vector α n) (i : Fin n) : Vector α n :=
  let parent : Fin n := ⟨(i - 1) / 2, by omega⟩
  if h : stop < i.val ∧ before items[i] items[parent] then
    rise before stop (items.swap i parent) parent
  else items
termination_by i.val
decreasing_by have := h.1; show (i.val - 1) / 2 < i.val; omega

/-- The child to which an item gives way: the first, if it comes before the second or there is no
second. -/
def heir? (before : α → α → Bool) (items : Vector α n) (i : Fin n) :
    Option { child : Fin n // i < child } :=
  if first : 2 * i.val + 1 < n then
    if second : 2 * i.val + 2 < n then
      if before items[2 * i.val + 1] items[2 * i.val + 2] then
        some ⟨⟨2 * i.val + 1, first⟩, by simp [Fin.lt_def]; omega⟩
      else some ⟨⟨2 * i.val + 2, second⟩, by simp [Fin.lt_def]; omega⟩
    else some ⟨⟨2 * i.val + 1, first⟩, by simp [Fin.lt_def]; omega⟩
  else none

/-- Moves an item down to a leaf and from there upwards to its place, but not beyond `stop`. -/
def sink (before : α → α → Bool) (stop : Nat) (items : Vector α n) (i : Fin n) : Vector α n :=
  match heir? before items i with
  | some ⟨child, _⟩ => sink before stop (items.swap i child) child
  | none => rise before stop items i
termination_by n - i.val
decreasing_by have := child.isLt; omega

/-- Moves the first `count` items into place, the last of them first. -/
def arrange (before : α → α → Bool) (items : Vector α n) : (count : Nat) → count ≤ n → Vector α n
  | 0, _ => items
  | count + 1, h => arrange before (sink before count items ⟨count, h⟩) count (Nat.le_of_lt h)

def push (h : Heap α before) (item : α) : Heap α before :=
  ⟨(rise before 0 ⟨h.items.push item, rfl⟩ ⟨h.items.size, by simp⟩).toArray⟩

def pop? (h : Heap α before) : Option (α × Heap α before) :=
  match h.items.back? with
  | none => none
  | some last =>
    let rest := h.items.pop
    if inside : 0 < rest.size then
      some (rest[0], ⟨(sink before 0 ⟨rest.set 0 last, rfl⟩ ⟨0, by simpa using inside⟩).toArray⟩)
    else some (last, empty)

/-- A heap of the items of an array. The items of its first half have children. -/
def ofArray (items : Array α) : Heap α before :=
  ⟨(arrange before ⟨items, rfl⟩ (items.size / 2) (Nat.div_le_self ..)).toArray⟩

/-- Keeps the items that have a property. They are arranged anew. -/
def filter (p : α → Bool) (h : Heap α before) : Heap α before := ofArray (h.items.filter p)

theorem rise_perm (stop : Nat) (items : Vector α n) (i : Fin n) :
    (rise before stop items i).toList.Perm items.toList := by
  induction items, i using rise.induct before stop with
  | case1 items i parent h ih =>
    rw [rise, dif_pos h]
    exact ih.trans (Vector.swap_perm ..).toList
  | case2 items i parent h => rw [rise, dif_neg h]

theorem sink_perm (stop : Nat) (items : Vector α n) (i : Fin n) :
    (sink before stop items i).toList.Perm items.toList := by
  induction items, i using sink.induct before with
  | case1 items i child _ h ih =>
    rw [sink, h]
    exact ih.trans (Vector.swap_perm ..).toList
  | case2 items i h =>
    rw [sink, h]
    exact rise_perm stop items i

/-- Popping takes the one item that it returns. -/
theorem toList_pop? {h rest : Heap α before} {item : α} (popped : h.pop? = some (item, rest)) :
    h.toList.Perm (item :: rest.toList) := by
  unfold pop? at popped
  split at popped
  · contradiction
  next last back =>
    obtain ⟨⟨xs⟩, eq⟩ := Array.back?_eq_some_iff.mp back
    rw [toList, eq]
    simp only [eq, Array.pop_push] at popped
    cases xs with
    | nil =>
      simp at popped
      obtain ⟨rfl, rfl⟩ := popped
      simp [empty, toList]
    | cons top others =>
      simp at popped
      obtain ⟨rfl, rfl⟩ := popped
      refine .trans ?_ ((sink_perm ..).cons _).symm
      simp [Vector.toList]

theorem size_pop? {h rest : Heap α before} {item : α} (popped : h.pop? = some (item, rest)) :
    rest.items.size < h.items.size := by
  have := (toList_pop? popped).length_eq
  simp [toList] at this
  omega

def popWhile (p : α → Bool) (h : Heap α before) : List α × Heap α before :=
  if h.top?.any p then
    match _ : h.pop? with
    | some (item, rest) =>
      let (items, left) := popWhile p rest
      (item :: items, left)
    | none => ([], h)
  else ([], h)
termination_by h.items.size
decreasing_by exact size_pop? (by assumption)

end Heap
end SequenceLog

import SequenceLog.Proofs.Lookup
/-! The registration of writers. In a pool whose writers are removed by nobody but themselves the last
writer made for a stream is registered for as long as it is active, and all writers before it have
retired. -/
namespace SequenceLog
variable {τ σ κ : Type}

/-- Removing a writer takes it out where it is registered, and nothing else. -/
theorem Pool.get?_remove (p : Pool) (key other : Key) (id : WriterId) :
    (p.remove key (some id)).writers.get? other =
      if other = key ∧ p.writers.get? key = some id then none else p.writers.get? other := by
  have removes : p.removes key (some id) = true ↔ p.writers.get? key = some id := by
    cases found : p.writers.get? key <;> simp [Pool.removes, found]
  unfold remove
  by_cases mine : p.writers.get? key = some id
  · rw [if_pos (removes.2 mine)]
    by_cases same : other = key
    · subst same
      simp [mine]
    · simp [same]
  · rw [if_neg (fun h => mine (removes.1 h)), if_neg fun h => mine h.2]

namespace Session

/-- The pool made this writer for this stream. -/
def Made (s : Session τ σ κ) (key : Key) (id : WriterId) : Prop :=
  id < s.writers.length ∧ (s.writer id).key = key ∧ (s.writer id).registry = .pool

structure Registered (s : Session τ σ κ) : Prop where
  made : ∀ {key id}, s.pool.writers.get? key = some id → s.Made key id
  active_iff : ∀ {key id}, s.Made key id →
    ((s.writer id).status = .active ↔ s.pool.writers.get? key = some id)
  latest : ∀ {key id last}, s.Made key id → s.pool.writers.get? key = some last → id ≤ last

namespace Registered
variable {s s' : Session τ σ κ} {id : WriterId}

theorem new (transport : τ) (createStreams : Bool) (maxAttempts : Int) :
    (Session.new transport (.new createStreams maxAttempts) : Session τ σ κ).Registered where
  made found := by simp [Session.new, Pool.new] at found
  active_iff made := absurd made.1 (Nat.not_lt_zero _)
  latest made := absurd made.1 (Nat.not_lt_zero _)

/-- The registration depends on the registered writers and on what the pool made. -/
theorem congr (registered : s.Registered) (pool : s'.pool.writers = s.pool.writers)
    (made : ∀ key id, s'.Made key id ↔ s.Made key id)
    (status : ∀ key id, s.Made key id → (s'.writer id).status = (s.writer id).status) :
    s'.Registered where
  made found := (made _ _).2 (registered.made (pool ▸ found))
  active_iff h := by
    have h := (made _ _).1 h
    rw [status _ _ h, pool, registered.active_iff h]
  latest h found := registered.latest ((made _ _).1 h) (pool ▸ found)

theorem of_same (registered : s.Registered) (pool : s'.pool.writers = s.pool.writers)
    (writers : s'.writers = s.writers) : s'.Registered := by
  refine registered.congr pool (fun key id => ?_) fun key id _ => ?_
  · simp only [Made, writer, writers]
  · simp only [writer, writers]

end Registered

theorem Within.writer_other {s s' : Session τ σ κ} {id other : WriterId} (within : Within id s s')
    (different : other ≠ id) : s'.writer other = s.writer other :=
  writer_congr other (within.others other different)

theorem Within.made_iff {s s' : Session τ σ κ} {id : WriterId} (within : Within id s s') (key : Key)
    (other : WriterId) : s'.Made key other ↔ s.Made key other := by
  unfold Made
  rw [within.length]
  by_cases same : other = id
  · rw [same, within.key, within.registry]
  · rw [within.writer_other same]

section Within
variable {s s' : Session τ σ κ} {id : WriterId} (within : Within id s s')
include within

theorem Within.pool_era : s'.pool.era = s.pool.era := by
  rcases within.registration with ⟨-, pool⟩ | ⟨-, pool⟩
  · rw [pool]
  · rw [pool, Pool.without]
    split
    · exact Pool.remove_era ..
    · rfl

theorem Within.pool_locks : s'.pool.locks = s.pool.locks := by
  rcases within.registration with ⟨-, pool⟩ | ⟨-, pool⟩
  · rw [pool]
  · rw [pool, Pool.without]
    split
    · exact Pool.remove_locks ..
    · rfl

/-- Only a writer that retires is taken out of the pool. -/
theorem Within.occupant (key : Key) :
    s'.pool.writers.get? key = s.pool.writers.get? key ∨
      (s.pool.writers.get? key = some id ∧ s'.pool.writers.get? key = none ∧
        (s'.writer id).status = .invalidated) := by
  rcases within.registration with ⟨-, pool⟩ | ⟨status, pool⟩
  · exact .inl (by rw [pool])
  · rw [pool, Pool.without]
    split
    · rw [Pool.get?_remove]
      split
      · rename_i mine
        exact .inr ⟨mine.1 ▸ mine.2, rfl, status⟩
      · exact .inl rfl
    · exact .inl rfl

theorem Within.vacant {key : Key} (vacant : s.pool.writers.get? key = none) :
    s'.pool.writers.get? key = none := by
  rcases within.occupant key with same | ⟨-, gone, -⟩
  · rw [same, vacant]
  · exact gone

end Within

theorem Registered.within {s s' : Session τ σ κ} {id : WriterId} (registered : s.Registered)
    (within : Within id s s') : s'.Registered := by
  rcases within.registration with ⟨status, pool⟩ | ⟨status, pool⟩
  · apply registered.congr (by rw [pool]) within.made_iff
    intro key other _
    by_cases same : other = id
    · rw [same, status]
    · rw [within.writer_other same]
  · cases registry : (s.writer id).registry with
    | outside refusal =>
      rw [Pool.without, registry] at pool
      apply registered.congr (by rw [pool]) within.made_iff
      intro key other made
      have different : other ≠ id := by
        rintro rfl
        exact Registry.noConfusion (made.2.2.symm.trans registry)
      rw [within.writer_other different]
    | pool =>
      rw [Pool.without, registry] at pool
      have kept : ∀ {key other}, s'.pool.writers.get? key = some other →
          s.pool.writers.get? key = some other := by
        intro key other found
        rw [pool, Pool.get?_remove] at found
        split at found
        · cases found
        · exact found
      constructor
      · intro key other found
        exact (within.made_iff key other).2 (registered.made (kept found))
      · intro key other made
        have made := (within.made_iff key other).1 made
        rw [pool, Pool.get?_remove]
        by_cases same : other = id
        · subst same
          rw [made.2.1, status]
          by_cases mine : s.pool.writers.get? key = some other
          · simp [mine]
          · simp [mine]
        · rw [within.writer_other same, registered.active_iff made]
          by_cases mine : key = (s.writer id).key ∧ s.pool.writers.get? (s.writer id).key = some id
          · rw [if_pos mine, mine.1, mine.2]
            simp [Ne.symm same]
          · rw [if_neg mine]
      · intro key other last made found
        exact registered.latest ((within.made_iff key other).1 made) (kept found)

section Grown
variable {s s' : Session τ σ κ} {w : Writer} (writers : s'.writers = s.writers ++ [w])
include writers

theorem writer_old {id : WriterId} (known : id < s.writers.length) :
    s'.writer id = s.writer id :=
  writer_congr id (by rw [writers, List.getElem?_append_left known])

theorem writer_new : s'.writer s.writers.length = w := by
  simp [writer, writers]

/-- What was made is what had been made before, or the new writer if that is the pool's. -/
theorem made_grown (key : Key) (id : WriterId) : s'.Made key id ↔
    s.Made key id ∨ (id = s.writers.length ∧ w.key = key ∧ w.registry = .pool) := by
  unfold Made
  rw [writers, List.length_append, List.length_singleton]
  by_cases old : id < s.writers.length
  · have different : id ≠ s.writers.length := Nat.ne_of_lt old
    simp [writer_old writers old, old, different, Nat.lt_succ_of_lt old]
  · by_cases last : id = s.writers.length
    · subst last
      simp [writer_new writers]
    · have beyond : ¬ id < s.writers.length + 1 := by
        intro h
        exact last (Nat.le_antisymm (Nat.le_of_lt_succ h) (Nat.le_of_not_lt old))
      simp [old, last, beyond]

theorem Registered.open_outside (registered : s.Registered) (pool : s'.pool = s.pool)
    (outside : w.registry ≠ .pool) : s'.Registered := by
  refine registered.congr (by rw [pool]) (fun key id => ?_) fun key id made => ?_
  · rw [made_grown writers]
    exact or_iff_left fun h => outside h.2.2
  · rw [writer_old writers made.1]

/-- A new writer is registered where none is. -/
theorem Registered.register (registered : s.Registered) (active : w.status = .active)
    (pooled : w.registry = .pool) (vacant : s.pool.writers.get? w.key = none)
    (pool : s'.pool.writers = s.pool.writers.insert w.key s.writers.length) : s'.Registered := by
  have retired : ∀ {id}, s.Made w.key id → (s.writer id).status ≠ .active := by
    intro id made
    rw [Ne, registered.active_iff made, vacant]
    simp
  constructor
  · intro key id found
    rw [made_grown writers]
    rw [pool] at found
    by_cases same : key = w.key
    · subst same
      rw [Table.get?_insert_self, Option.some.injEq] at found
      exact .inr ⟨found.symm, rfl, pooled⟩
    · rw [Table.get?_insert_other _ _ same] at found
      exact .inl (registered.made found)
  · intro key id made
    rw [pool]
    rcases (made_grown writers key id).1 made with old | ⟨rfl, rfl, -⟩
    · rw [writer_old writers old.1]
      by_cases same : key = w.key
      · subst same
        have different : s.writers.length ≠ id := (Nat.ne_of_lt old.1).symm
        simp [retired old, different]
      · rw [Table.get?_insert_other _ _ same, registered.active_iff old]
    · rw [writer_new writers, Table.get?_insert_self]
      simp [active]
  · intro key id last made found
    rw [pool] at found
    by_cases same : key = w.key
    · subst same
      rw [Table.get?_insert_self, Option.some.injEq] at found
      subst found
      rcases (made_grown writers w.key id).1 made with old | ⟨rfl, -, -⟩
      · exact Nat.le_of_lt old.1
      · exact Nat.le_refl _
    · rw [Table.get?_insert_other _ _ same] at found
      rcases (made_grown writers key id).1 made with old | ⟨-, rfl, -⟩
      · exact registered.latest old found
      · exact absurd rfl same

end Grown

end Session
end SequenceLog

import SequenceLog.Proofs.Run
/-! What the steps of a batch change. A batch works in the section that its writer's lock guards: it
changes this writer, the transport and the registration of the writer, and notes what it did. -/
namespace SequenceLog
variable {τ σ κ : Type}

namespace Pool

@[simp] theorem remove_era (p : Pool) (key : Key) (id : Option WriterId) :
    (p.remove key id).era = p.era := by
  unfold remove; split <;> rfl

@[simp] theorem remove_locks (p : Pool) (key : Key) (id : Option WriterId) :
    (p.remove key id).locks = p.locks := by
  unfold remove; split <;> rfl

/-- The pool when a writer has retired. Only a registered writer is removed from it. -/
def without (p : Pool) (w : Writer) (id : WriterId) : Pool :=
  match w.registry with
  | .pool => p.remove w.key (some id)
  | .outside _ => p

theorem removes_remove (p : Pool) (key : Key) (id : Option WriterId) :
    (p.remove key id).removes key id = false := by
  unfold remove
  split
  · simp [removes]
  · rename_i kept
    simpa using kept

theorem remove_remove (p : Pool) (key : Key) (id : Option WriterId) :
    (p.remove key id).remove key id = p.remove key id := by
  rw [remove, if_neg (by simp [removes_remove])]

theorem without_congr (p : Pool) {w w' : Writer} (key : w'.key = w.key)
    (registry : w'.registry = w.registry) (id : WriterId) : p.without w' id = p.without w id := by
  rw [without, without, key, registry]

theorem without_without (p : Pool) (w : Writer) (id : WriterId) :
    (p.without w id).without w id = p.without w id := by
  unfold without
  split
  · exact remove_remove ..
  · rfl

end Pool

namespace Session

section Parts
variable (s : Session τ σ κ) (id : WriterId)

@[simp] theorem note_transport (happenings : List (Happening κ)) :
    (s.note happenings).transport = s.transport := rfl
@[simp] theorem note_pool (happenings : List (Happening κ)) : (s.note happenings).pool = s.pool := rfl
@[simp] theorem note_writers (happenings : List (Happening κ)) :
    (s.note happenings).writers = s.writers := rfl
@[simp] theorem note_active (happenings : List (Happening κ)) :
    (s.note happenings).active = s.active := rfl

@[simp] theorem notice_transport (notices : List Notice) :
    (s.notice notices).transport = s.transport := rfl
@[simp] theorem notice_pool (notices : List Notice) : (s.notice notices).pool = s.pool := rfl
@[simp] theorem notice_writers (notices : List Notice) : (s.notice notices).writers = s.writers := rfl
@[simp] theorem notice_active (notices : List Notice) : (s.notice notices).active = s.active := rfl

@[simp] theorem setWriter_transport (w : Writer) : (s.setWriter id w).transport = s.transport := rfl
@[simp] theorem setWriter_pool (w : Writer) : (s.setWriter id w).pool = s.pool := rfl
@[simp] theorem setWriter_writers (w : Writer) :
    (s.setWriter id w).writers = s.writers.set id w := rfl
@[simp] theorem setWriter_active (w : Writer) : (s.setWriter id w).active = s.active := rfl

@[simp] theorem absorb_transport {ρ α : Type} (reply : Reply τ ρ κ α) :
    (s.absorb reply).transport = reply.state := rfl
@[simp] theorem absorb_pool {ρ α : Type} (reply : Reply τ ρ κ α) :
    (s.absorb reply).pool = s.pool := rfl
@[simp] theorem absorb_writers {ρ α : Type} (reply : Reply τ ρ κ α) :
    (s.absorb reply).writers = s.writers := rfl
@[simp] theorem absorb_active {ρ α : Type} (reply : Reply τ ρ κ α) :
    (s.absorb reply).active = s.active := rfl

@[simp] theorem wake_transport (task : Option TaskId) : (s.wake task).transport = s.transport := by
  cases task <;> rfl
@[simp] theorem wake_pool (task : Option TaskId) : (s.wake task).pool = s.pool := by
  cases task <;> rfl
@[simp] theorem wake_writers (task : Option TaskId) : (s.wake task).writers = s.writers := by
  cases task <;> rfl
@[simp] theorem wake_active (task : Option TaskId) : (s.wake task).active = s.active := by
  cases task <;> rfl

@[simp] theorem deeds_note (happenings : List (Happening κ)) :
    (s.note happenings).deeds id = s.deeds id ++ happenings.filterMap (Happening.deed? id) := by
  simp [deeds, note]

@[simp] theorem deeds_notice (notices : List Notice) : (s.notice notices).deeds id = s.deeds id := by
  simp [notice, List.filterMap_map, Function.comp_def, Happening.deed?]

@[simp] theorem deeds_setWriter (other : WriterId) (w : Writer) :
    (s.setWriter other w).deeds id = s.deeds id := rfl

/-- A transport says nothing about writers. -/
@[simp] theorem deeds_absorb {ρ α : Type} (reply : Reply τ ρ κ α) :
    (s.absorb reply).deeds id = s.deeds id := by
  have silent : ∀ remark : Remark κ, (Happening.ofRemark remark).deed? id = none := by
    intro remark
    cases remark <;> rfl
  simp [absorb, deeds, note, List.filterMap_map, silent]

@[simp] theorem deeds_wake (task : Option TaskId) : (s.wake task).deeds id = s.deeds id := by
  cases task <;> simp [wake, Happening.deed?]

theorem writer_congr {s s' : Session τ σ κ} (same : s'.writers[id]? = s.writers[id]?) :
    s'.writer id = s.writer id := by
  rw [writer, writer, same]

@[simp] theorem writer_note (happenings : List (Happening κ)) :
    (s.note happenings).writer id = s.writer id := rfl
@[simp] theorem writer_notice (notices : List Notice) :
    (s.notice notices).writer id = s.writer id := rfl
@[simp] theorem writer_absorb {ρ α : Type} (reply : Reply τ ρ κ α) :
    (s.absorb reply).writer id = s.writer id := rfl
@[simp] theorem writer_wake (task : Option TaskId) : (s.wake task).writer id = s.writer id := by
  cases task <;> rfl
@[simp] theorem writer_remove (key : Key) (writer : Option WriterId) :
    (s.remove key writer).writer id = s.writer id := rfl

@[simp] theorem writer_setWriter_self (w : Writer) (known : id < s.writers.length) :
    (s.setWriter id w).writer id = w := by
  simp [writer, known]

@[simp] theorem remove_transport (key : Key) (writer : Option WriterId) :
    (s.remove key writer).transport = s.transport := rfl
@[simp] theorem remove_pool (key : Key) (writer : Option WriterId) :
    (s.remove key writer).pool = s.pool.remove key writer := rfl
@[simp] theorem remove_writers (key : Key) (writer : Option WriterId) :
    (s.remove key writer).writers = s.writers := rfl
@[simp] theorem remove_active (key : Key) (writer : Option WriterId) :
    (s.remove key writer).active = s.active := rfl
@[simp] theorem deeds_remove (key : Key) (writer : Option WriterId) :
    (s.remove key writer).deeds id = s.deeds id := by
  rw [remove, deeds_notice]
  rfl

end Parts

/-- The second session comes from the first by what belongs to one writer alone: the writer itself,
its registration, the transport and what is noted about it. A writer that retires is removed. -/
structure Within (id : WriterId) (s s' : Session τ σ κ) : Prop where
  active : s'.active = s.active
  length : s'.writers.length = s.writers.length
  others : ∀ other, other ≠ id → s'.writers[other]? = s.writers[other]?
  key : (s'.writer id).key = (s.writer id).key
  registry : (s'.writer id).registry = (s.writer id).registry
  registration : ((s'.writer id).status = (s.writer id).status ∧ s'.pool = s.pool) ∨
    ((s'.writer id).status = .invalidated ∧ s'.pool = s.pool.without (s.writer id) id)
  quiet : ∀ other, other ≠ id → s'.deeds other = s.deeds other

namespace Within
variable {id : WriterId} {s s' s'' : Session τ σ κ}

/-- What leaves the writers and the pool alone. -/
theorem of_same (active : s'.active = s.active) (writers : s'.writers = s.writers)
    (pool : s'.pool = s.pool) (quiet : ∀ other, other ≠ id → s'.deeds other = s.deeds other) :
    Within id s s' := by
  have writer : s'.writer id = s.writer id := writer_congr id (by rw [writers])
  exact ⟨active, by rw [writers], fun _ _ => by rw [writers], by rw [writer], by rw [writer],
    .inl ⟨by rw [writer], pool⟩, quiet⟩

theorem refl (s : Session τ σ κ) : Within id s s := of_same rfl rfl rfl fun _ _ => rfl

theorem trans (first : Within id s s') (second : Within id s' s'') : Within id s s'' where
  active := second.active.trans first.active
  length := second.length.trans first.length
  others other h := (second.others other h).trans (first.others other h)
  key := second.key.trans first.key
  registry := second.registry.trans first.registry
  registration := by
    have same := s.pool.without_congr first.key first.registry id
    rcases first.registration with ⟨status, pool⟩ | ⟨status, pool⟩ <;>
      rcases second.registration with ⟨status', pool'⟩ | ⟨status', pool'⟩
    · exact .inl ⟨status'.trans status, pool'.trans pool⟩
    · exact .inr ⟨status', by rw [pool', pool, same]⟩
    · exact .inr ⟨status'.trans status, pool'.trans pool⟩
    · refine .inr ⟨status', ?_⟩
      rw [pool', pool, Pool.without_congr _ first.key first.registry, Pool.without_without]
  quiet other h := (second.quiet other h).trans (first.quiet other h)

theorem known (within : Within id s s') (known : id < s.writers.length) : id < s'.writers.length :=
  within.length.symm ▸ known

end Within

section Parts
variable {s : Session τ σ κ} {id : WriterId}

theorem within_note {happenings : List (Happening κ)}
    (own : ∀ other, other ≠ id → happenings.filterMap (Happening.deed? other) = []) :
    Within id s (s.note happenings) :=
  .of_same rfl rfl rfl fun other h => by rw [deeds_note, own other h, List.append_nil]

theorem within_notice {notices : List Notice} : Within id s (s.notice notices) :=
  .of_same rfl rfl rfl fun _ _ => deeds_notice ..

theorem within_setWriter {w : Writer} (known : id < s.writers.length)
    (key : w.key = (s.writer id).key) (registry : w.registry = (s.writer id).registry)
    (status : w.status = (s.writer id).status) : Within id s (s.setWriter id w) where
  active := rfl
  length := by simp
  others other h := by simp [List.getElem?_set_ne h.symm]
  key := by rw [writer_setWriter_self s id w known, key]
  registry := by rw [writer_setWriter_self s id w known, registry]
  registration := .inl ⟨by rw [writer_setWriter_self s id w known, status], rfl⟩
  quiet _ _ := rfl

theorem within_absorb {ρ α : Type} {reply : Reply τ ρ κ α} : Within id s (s.absorb reply) :=
  .of_same rfl rfl rfl fun _ _ => deeds_absorb ..

theorem within_wake (task : Option TaskId) : Within id s (s.wake task) := by
  cases task with
  | none => exact .refl s
  | some task => exact within_note fun _ _ => rfl

/-- A happening about a writer is not about another one. -/
theorem within_settled {result : Except Fault Token} :
    Within id s (s.note [.settled id result]) :=
  within_note fun other h => by simp [Happening.deed?, h.symm]

section Results
variable (s : Session τ σ κ) (id : WriterId)

theorem writer_adopt (known : id < s.writers.length) (token : Token) :
    (s.adopt id token).writer id = { s.writer id with token := token } :=
  writer_setWriter_self s id _ known

theorem writer_releaseWriter (known : id < s.writers.length) :
    (s.releaseWriter id).writer id =
      { s.writer id with lock := (s.writer id).lock.release.1 } := by
  rw [releaseWriter, writer_wake, writer_setWriter_self s id _ known]

@[simp] theorem releaseWriter_transport : (s.releaseWriter id).transport = s.transport := by
  rw [releaseWriter, wake_transport, setWriter_transport]

@[simp] theorem releaseWriter_pool : (s.releaseWriter id).pool = s.pool := by
  rw [releaseWriter, wake_pool, setWriter_pool]

@[simp] theorem writer_deregister : (s.deregister id).writer id = s.writer id := by
  simp only [deregister]
  split <;> rfl

@[simp] theorem deregister_writers : (s.deregister id).writers = s.writers := by
  simp only [deregister]
  split <;> rfl

@[simp] theorem deregister_active : (s.deregister id).active = s.active := by
  simp only [deregister]
  split <;> rfl

theorem deregister_pool : (s.deregister id).pool = s.pool.without (s.writer id) id := by
  simp only [deregister, Pool.without]
  split <;> simp_all

@[simp] theorem retire_transport (reason : Fault) :
    (s.retire id reason).transport = s.transport := by
  simp only [retire, deregister]
  split <;> rfl

theorem retire_pool (known : id < s.writers.length) (reason : Fault) :
    (s.retire id reason).pool = s.pool.without (s.writer id) id := by
  have marked := writer_setWriter_self (s.notice [(s.writer id).retiredNotice reason]) id
    { s.writer id with status := .invalidated } known
  rw [retire, deregister_pool, marked]
  rfl

theorem writer_retire (known : id < s.writers.length) (reason : Fault) :
    (s.retire id reason).writer id = { s.writer id with status := .invalidated } := by
  rw [retire, writer_deregister]
  exact writer_setWriter_self (s.notice _) id _ known

@[simp] theorem writer_send [Transport τ σ κ] (events : List LogEvent) (token : Token) :
    (s.send id events token).1.writer id = s.writer id := rfl

@[simp] theorem deeds_adopt (token : Token) : (s.adopt id token).deeds id = s.deeds id := rfl

@[simp] theorem deeds_releaseWriter : (s.releaseWriter id).deeds id = s.deeds id := by
  simp [releaseWriter]

@[simp] theorem deeds_deregister :
    (s.deregister id).deeds id = s.deeds id ++ [.removed (s.writer id).key] := by
  simp only [deregister]
  split <;> simp [Happening.deed?]

theorem deeds_deregister_other {other : WriterId} (different : other ≠ id) :
    (s.deregister id).deeds other = s.deeds other := by
  simp only [deregister]
  split <;> simp [Happening.deed?, different.symm]

theorem deeds_retire (known : id < s.writers.length) (reason : Fault) :
    (s.retire id reason).deeds id = s.deeds id ++ [.removed (s.writer id).key] := by
  have marked := writer_setWriter_self (s.notice [(s.writer id).retiredNotice reason]) id
    { s.writer id with status := .invalidated } known
  rw [retire, deeds_deregister, marked, deeds_setWriter, deeds_notice]

@[simp] theorem deeds_send [Transport τ σ κ] (events : List LogEvent) (token : Token) :
    (s.send id events token).1.deeds id =
      s.deeds id ++ [.sent ((s.writer id).request token events)] := by
  simp [send, Happening.deed?]

end Results

theorem within_lock (known : id < s.writers.length) (m : Mutex) :
    Within id s (s.setWriter id { s.writer id with lock := m }) :=
  within_setWriter known rfl rfl rfl

theorem within_releaseWriter (known : id < s.writers.length) : Within id s (s.releaseWriter id) :=
  (within_lock known _).trans (within_wake _)

theorem within_adopt (known : id < s.writers.length) (token : Token) :
    Within id s (s.adopt id token) :=
  within_setWriter known rfl rfl rfl

theorem within_retire (known : id < s.writers.length) (reason : Fault) :
    Within id s (s.retire id reason) where
  active := by rw [retire, deregister_active]; rfl
  length := by simp [retire]
  others other h := by simp [retire, List.getElem?_set_ne h.symm]
  key := by rw [writer_retire s id known]
  registry := by rw [writer_retire s id known]
  registration :=
    .inr ⟨by rw [writer_retire s id known], retire_pool s id known reason⟩
  quiet other h := by
    rw [retire, deeds_deregister_other _ _ h, deeds_setWriter, deeds_notice]

theorem within_send [Transport τ σ κ] (events : List LogEvent) (token : Token) :
    Within id s (s.send id events token).1 :=
  (within_note fun other h => by simp [Happening.deed?, h.symm]).trans within_absorb

end Parts

end Session
end SequenceLog

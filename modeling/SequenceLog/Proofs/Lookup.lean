import SequenceLog.Proofs.Section
/-! What looking up a writer changes: the transport, the pool, and at most one writer more. The
writers that were there stay as they are, and nothing is noted about any of them. -/
namespace SequenceLog
variable {τ σ κ : Type}

/-- What every writer is opened as. -/
theorem Writer.new?_ok {key : Key} {registry : Registry} {token : Token} {maxAttempts : Int}
    {w : Writer} (opened : Writer.new? key registry token maxAttempts = .ok w) :
    w.key = key ∧ w.registry = registry ∧ w.token = token ∧ w.status = .active ∧ w.lock = .free := by
  unfold new? at opened
  split at opened
  · cases opened
  · cases opened
    exact ⟨rfl, rfl, rfl, rfl, rfl⟩

namespace Session

/-- The second session comes from the first without a change to the writers, but for new ones. -/
structure Apart (s s' : Session τ σ κ) : Prop where
  active : s'.active = s.active
  writers : ∃ new, s'.writers = s.writers ++ new ∧ ∀ w ∈ new, w.lock = .free ∧ w.status = .active
  quiet : ∀ id, s'.deeds id = s.deeds id

namespace Apart
variable {s s' s'' : Session τ σ κ}

theorem refl (s : Session τ σ κ) : Apart s s := ⟨rfl, ⟨[], by simp⟩, fun _ => rfl⟩

theorem trans (first : Apart s s') (second : Apart s' s'') : Apart s s'' where
  active := second.active.trans first.active
  writers := by
    obtain ⟨new, writers, free⟩ := first.writers
    obtain ⟨more, writers', free'⟩ := second.writers
    refine ⟨new ++ more, by rw [writers', writers, List.append_assoc], fun w member => ?_⟩
    rcases List.mem_append.1 member with member | member
    · exact free w member
    · exact free' w member
  quiet id := (second.quiet id).trans (first.quiet id)

theorem longer (apart : Apart s s') : s.writers.length ≤ s'.writers.length := by
  obtain ⟨new, writers, -⟩ := apart.writers
  simp [writers]

theorem getElem? (apart : Apart s s') {id : WriterId} (known : id < s.writers.length) :
    s'.writers[id]? = s.writers[id]? := by
  obtain ⟨new, writers, -⟩ := apart.writers
  rw [writers, List.getElem?_append_left known]

theorem newborn (apart : Apart s s') {id : WriterId} (late : s.writers.length ≤ id)
    (known : id < s'.writers.length) :
    (s'.writer id).lock = .free ∧ (s'.writer id).status = .active := by
  obtain ⟨new, writers, free⟩ := apart.writers
  obtain ⟨w, found⟩ : ∃ w, s'.writers[id]? = some w := ⟨_, List.getElem?_eq_getElem known⟩
  have member : w ∈ new := by
    rw [writers, List.getElem?_append_right late] at found
    exact List.mem_of_getElem? found
  simpa [writer, found] using free w member

end Apart

section Parts
variable {s : Session τ σ κ}

theorem apart_notice {notices : List Notice} : Apart s (s.notice notices) :=
  ⟨rfl, ⟨[], by simp⟩, fun _ => deeds_notice ..⟩

theorem apart_absorb {ρ α : Type} {reply : Reply τ ρ κ α} : Apart s (s.absorb reply) :=
  ⟨rfl, ⟨[], by simp⟩, fun _ => deeds_absorb ..⟩

theorem apart_wake {task : Option TaskId} : Apart s (s.wake task) :=
  ⟨by simp, ⟨[], by simp⟩, fun _ => deeds_wake ..⟩

theorem apart_setKeyLock {era : Nat} {key : Key} {m : Mutex} : Apart s (s.setKeyLock era key m) :=
  ⟨rfl, ⟨[], by simp [setKeyLock]⟩, fun _ => rfl⟩

theorem apart_releaseKey {era : Nat} {key : Key} : Apart s (s.releaseKey era key) :=
  apart_setKeyLock.trans apart_wake

theorem apart_remove {key : Key} {id : Option WriterId} : Apart s (s.remove key id) :=
  ⟨rfl, ⟨[], by simp⟩, fun _ => deeds_remove ..⟩

theorem apart_openWriter {key : Key} {registry : Registry} {token : Token} {maxAttempts : Int} :
    Apart s (s.openWriter key registry token maxAttempts).session := by
  unfold openWriter
  split
  · exact .refl s
  · rename_i w opened
    obtain ⟨-, -, -, active, free⟩ := Writer.new?_ok opened
    exact ⟨rfl, ⟨[w], rfl, by simp [free, active]⟩, fun _ => rfl⟩

theorem apart_openPrepared {key : Key} {era : Nat} {prepared : Except Fault Token} :
    Apart s (s.openPrepared key era prepared).session := by
  unfold openPrepared
  split
  · exact apart_releaseKey
  · rename_i w opened
    have opened : ∃ token, Writer.new? key .pool token s.pool.maxAttempts = .ok w := by
      cases prepared with
      | error fault => cases opened
      | ok token => exact ⟨token, opened⟩
    obtain ⟨token, opened⟩ := opened
    obtain ⟨-, -, -, active, free⟩ := Writer.new?_ok opened
    have added : Apart s { s with
        writers := s.writers ++ [w], pool := s.pool.register key s.writers.length } :=
      ⟨rfl, ⟨[w], rfl, by simp [free, active]⟩, fun _ => rfl⟩
    exact added.trans (apart_notice.trans apart_releaseKey)

variable [Transport τ σ κ]

theorem apart_prepare {key : Key} {era : Nat} : Apart s (s.prepare key era).session := by
  unfold prepare
  split
  · exact apart_releaseKey
  · split
    · dsimp only
      split
      · exact apart_absorb
      · exact apart_absorb.trans apart_openPrepared
    · exact apart_openPrepared

theorem apart_startLookup {task : TaskId} {key : Key} :
    Apart s (s.startLookup task key).session := by
  unfold startLookup
  split
  · exact .refl s
  · dsimp only
    split
    · exact apart_setKeyLock.trans apart_prepare
    · exact apart_setKeyLock

theorem apart_resumeLookup {task : TaskId} {key : Key} {era : Nat} {stage : LookupStage σ}
    {signal : Signal} : Apart s (s.resumeLookup task key era stage signal).session := by
  unfold resumeLookup
  dsimp only
  split
  · split
    · exact apart_setKeyLock.trans apart_prepare
    · exact .refl s
  · exact apart_setKeyLock.trans apart_wake
  · split
    · exact apart_absorb
    · exact apart_absorb.trans apart_openPrepared

end Parts

end Session
end SequenceLog

import SequenceLog.Memory
/-! How the memory decides an append. A pending failure comes first, then a missing stream that is not to
be created, then the token. Main statement: `Memory.decides_commit`. -/
namespace SequenceLog.Memory
variable {m : Memory} {r : Append}

/-- The memory has the stream of a key, or creates it for an append. -/
def Provides (m : Memory) (key : Key) : Prop :=
  m.streams.get? key ≠ none ∨ m.autoCreate = true

/-- What comes of an append that is carried out: the memory after it, and the result. -/
inductive Decides (m : Memory) (r : Append) : Memory × Except Fault Token → Prop
  | failed {fault rest} : m.failures = fault :: rest →
      Decides m r ({ m with failures := rest }, .error fault)
  | missing : m.failures = [] → ¬ m.Provides r.key → Decides m r (m, .error (noSuchStream r.key))
  | accepted : m.failures = [] → m.Provides r.key → r.token.same (m.token r.key) = true →
      Decides m r
        ({ m.store r.key ⟨m.events r.key ++ r.events, .text (tokenText (m.issued + 1))⟩ with
            issued := m.issued + 1 },
          .ok (.text (tokenText (m.issued + 1))))
  | refused : m.failures = [] → m.Provides r.key → r.token.same (m.token r.key) = false →
      Decides m r (m.store r.key (m.stream r.key), .error (m.rejection (m.token r.key)))

theorem provides_iff (m : Memory) (key : Key) :
    m.Provides key ↔ ((m.streams.get? key).isNone && !m.autoCreate) = false := by
  rw [Provides, Bool.and_eq_false_iff, Option.isNone_eq_false_iff, Option.isSome_iff_ne_none,
    Bool.not_eq_false']

theorem decides_commit (m : Memory) (r : Append) : m.Decides r (m.commit r) := by
  unfold commit
  split
  · rename_i pending
    exact .failed pending
  · rename_i idle
    split
    · rename_i missing
      exact .missing idle (by simp [provides_iff, missing])
    · rename_i there
      have provides : m.Provides r.key := (m.provides_iff r.key).2 (by simpa using there)
      dsimp only
      split
      · rename_i same
        exact .accepted idle provides same
      · rename_i differs
        exact .refused idle provides (Bool.eq_false_iff.2 differs)

theorem Decides.commit_eq {decision : Memory × Except Fault Token} (decides : m.Decides r decision) :
    m.commit r = decision := by
  have decided := m.decides_commit r
  generalize m.commit r = other at decided
  cases decides <;> cases decided <;> simp_all

def receive (m : Memory) (r : Append) : Memory := { m with calls := m.calls ++ [r] }

/-- What was taken down does not matter to an append that is carried out. -/
theorem commit_calls (m : Memory) (r : Append) (calls : List Append) :
    { m with calls := calls }.commit r = ({ (m.commit r).1 with calls := calls }, (m.commit r).2) := by
  apply Decides.commit_eq
  have decided := m.decides_commit r
  generalize m.commit r = decision at decided
  cases decided with
  | failed pending => exact .failed pending
  | missing idle missing => exact .missing idle missing
  | accepted idle provides same => exact .accepted idle provides same
  | refused idle provides differs => exact .refused idle provides differs

/-- Nor is it changed, or the memory disconnected or slowed down. -/
theorem commit_stays (m : Memory) (r : Append) :
    (m.commit r).1.calls = m.calls ∧ (m.commit r).1.connected = m.connected ∧
      (m.commit r).1.delay = m.delay := by
  have decided := m.decides_commit r
  generalize m.commit r = decision at decided
  cases decided <;> exact ⟨rfl, rfl, rfl⟩

theorem commit_receive (m : Memory) (r other : Append) :
    (m.receive other).commit r = ((m.commit r).1.receive other, (m.commit r).2) := by
  rw [receive, commit_calls, receive, (m.commit_stays r).1]

theorem append_unconnected (closed : m.connected = false) (r : Append) :
    m.append r = ⟨m, [], .finished (.error notConnected)⟩ := by
  simp [append, closed]

/-- Where appends do not sleep they are carried out at once. -/
theorem append_prompt (connected : m.connected = true) (prompt : m.delay.isZero = true) (r : Append) :
    (m.append r).state = (m.commit r).1.receive r ∧
      (m.append r).progress = .finished (m.commit r).2 := by
  have reply : (m.append r).state = ((m.receive r).commit r).1 ∧
      (m.append r).progress = .finished ((m.receive r).commit r).2 := by
    rw [append, if_pos connected]
    simp only [if_pos prompt]
    exact ⟨rfl, rfl⟩
  rwa [commit_receive] at reply

theorem append_delayed (connected : m.connected = true) (delayed : m.delay.isZero = false)
    (r : Append) :
    m.append r = ⟨m.receive r, [.call r], .suspended ⟨r, m.delay⟩⟩ := by
  simp [append, connected, delayed, receive]

end SequenceLog.Memory

import SequenceLog.Proofs.Expectation
/-! Two memories side by side, of which the second serves one stream alone. What one of them does
for the stream the other does as well, but for the names of the tokens; what the first does for
other streams changes nothing of that. Main statements: `Memory.mirrors_append`,
`Memory.mirrors_resume` and `Memory.Mirrors.beside`. -/
namespace SequenceLog

/-- The names that a run which serves many streams has for what a run of one stream alone has: the
writers of the stream in the order in which they were opened, and the numbers of its tokens in the
order in which they were issued. -/
structure Renaming where
  writers : List WriterId
  tokens : List Nat
  writers_sorted : writers.Pairwise (· < ·)
  tokens_sorted : tokens.Pairwise (· < ·)

theorem place_unique {xs : List Nat} (sorted : xs.Pairwise (· < ·)) {i j a b : Nat}
    (first : xs[i]? = some a) (second : xs[j]? = some b) : a = b ↔ i = j := by
  have bound := (List.getElem?_eq_some_iff.1 first).1
  rw [← List.getElem?_inj bound (sorted.imp Nat.ne_of_lt), first, second, Option.some.injEq]

namespace Renaming

def empty : Renaming := ⟨[], [], .nil, .nil⟩

def issue (ρ : Renaming) (n : Nat) (late : ∀ m ∈ ρ.tokens, m < n) : Renaming where
  writers := ρ.writers
  tokens := ρ.tokens ++ [n]
  writers_sorted := ρ.writers_sorted
  tokens_sorted := List.pairwise_append.2 ⟨ρ.tokens_sorted, List.pairwise_singleton .., by simpa⟩

def enlist (ρ : Renaming) (id : WriterId) (late : ∀ other ∈ ρ.writers, other < id) : Renaming where
  writers := ρ.writers ++ [id]
  tokens := ρ.tokens
  writers_sorted := List.pairwise_append.2 ⟨ρ.writers_sorted, List.pairwise_singleton .., by simpa⟩
  tokens_sorted := ρ.tokens_sorted

/-- All names stay as they are, and more may be given. -/
structure Grows (ρ ρ' : Renaming) : Prop where
  writers : ρ.writers <+: ρ'.writers
  tokens : ρ.tokens <+: ρ'.tokens

theorem Grows.refl (ρ : Renaming) : ρ.Grows ρ := ⟨List.prefix_rfl, List.prefix_rfl⟩

theorem Grows.trans {ρ ρ' ρ'' : Renaming} (first : ρ.Grows ρ') (second : ρ'.Grows ρ'') :
    ρ.Grows ρ'' :=
  ⟨first.writers.trans second.writers, first.tokens.trans second.tokens⟩

/-- More tokens may be named, but no more writers. -/
structure Issues (ρ ρ' : Renaming) : Prop where
  grows : ρ.Grows ρ'
  writers : ρ'.writers = ρ.writers

theorem Issues.refl (ρ : Renaming) : ρ.Issues ρ := ⟨.refl ρ, rfl⟩

theorem issues_issue (ρ : Renaming) {n : Nat} (late : ∀ m ∈ ρ.tokens, m < n) :
    ρ.Issues (ρ.issue n late) :=
  ⟨⟨List.prefix_rfl, List.prefix_append ..⟩, rfl⟩

theorem grows_enlist (ρ : Renaming) {id : WriterId} (late : ∀ other ∈ ρ.writers, other < id) :
    ρ.Grows (ρ.enlist id late) :=
  ⟨List.prefix_append .., List.prefix_rfl⟩

section Relations
variable (ρ : Renaming)

/-- The second number is that of the same writer in the run of the stream alone. -/
def SameWriter (id alone : WriterId) : Prop := ρ.writers[alone]? = some id

/-- The second token stands for the first in the run of the stream alone. -/
inductive SameToken : Token → Token → Prop
  | none : SameToken .null .null
  | issued {i n : Nat} : ρ.tokens[i]? = some n →
      SameToken (.text (Memory.tokenText n)) (.text (Memory.tokenText (i + 1)))

/-- What an append is refused with: it was told to stop, or its token is not the expected one. -/
inductive SameRefusal : Fault → Fault → Prop
  | stopped : SameRefusal .stopped .stopped
  | rejected {expected expected' : Token} : ρ.SameToken expected expected' →
      SameRefusal (.tokenRejected (Memory.rejectionText expected) expected true none)
        (.tokenRejected (Memory.rejectionText expected') expected' true none)

inductive SameOutcome : Except Fault Token → Except Fault Token → Prop
  | accepted {next next' : Token} : ρ.SameToken next next' → SameOutcome (.ok next) (.ok next')
  | refused {fault fault' : Fault} : ρ.SameRefusal fault fault' →
      SameOutcome (.error fault) (.error fault')

structure SameRequest (key : Key) (r r' : Append) : Prop where
  own : r.key = key
  own' : r'.key = key
  events : r'.events = r.events
  token : ρ.SameToken r.token r'.token

structure SameSleep (key : Key) (a a' : SleepingAppend) : Prop where
  request : ρ.SameRequest key a.request a'.request
  delay : a'.delay = a.delay

inductive SameProgress (key : Key) :
    Progress SleepingAppend Token → Progress SleepingAppend Token → Prop
  | asleep {a a' : SleepingAppend} : ρ.SameSleep key a a' →
      SameProgress key (.suspended a) (.suspended a')
  | ended {outcome outcome' : Except Fault Token} : ρ.SameOutcome outcome outcome' →
      SameProgress key (.finished outcome) (.finished outcome')

end Relations

section Names
variable {ρ ρ' : Renaming} {key : Key} {t t' u u' : Token}

theorem SameWriter.mono {id alone : WriterId} (same : ρ.SameWriter id alone)
    (grows : ρ.Grows ρ') : ρ'.SameWriter id alone :=
  getElem?_grows grows.writers same

theorem Issues.sameWriter (issues : ρ.Issues ρ') : ρ'.SameWriter = ρ.SameWriter := by
  funext id alone
  rw [SameWriter, SameWriter, issues.writers]

theorem SameToken.mono (same : ρ.SameToken t t') (grows : ρ.Grows ρ') : ρ'.SameToken t t' := by
  cases same with
  | none => exact .none
  | issued named => exact .issued (getElem?_grows grows.tokens named)

theorem SameRefusal.mono {fault fault' : Fault} (same : ρ.SameRefusal fault fault')
    (grows : ρ.Grows ρ') : ρ'.SameRefusal fault fault' := by
  cases same with
  | stopped => exact .stopped
  | rejected token => exact .rejected (token.mono grows)

theorem SameSleep.mono {a a' : SleepingAppend} (same : ρ.SameSleep key a a')
    (grows : ρ.Grows ρ') : ρ'.SameSleep key a a' where
  request := { same.request with token := same.request.token.mono grows }
  delay := same.delay

theorem SameWriter.unique {id other alone alone' : WriterId} (first : ρ.SameWriter id alone)
    (second : ρ.SameWriter other alone') : id = other ↔ alone = alone' :=
  place_unique ρ.writers_sorted first second

theorem SameToken.unique (first : ρ.SameToken t t') (second : ρ.SameToken u u') :
    t = u ↔ t' = u' := by
  cases first with
  | none => cases second <;> simp
  | issued named =>
    cases second with
    | none => simp
    | issued named' =>
      have texts : ∀ i j : Nat, (Json.Value.text (Memory.tokenText i) =
          .text (Memory.tokenText j)) ↔ i = j := fun i j =>
        ⟨fun same => Memory.tokenText_injective (Json.Value.text.inj same), fun same => same ▸ rfl⟩
      rw [texts, texts, place_unique ρ.tokens_sorted named named', Nat.add_right_cancel_iff]

/-- Whether a token is the expected one does not depend on the names. -/
theorem SameToken.same_eq (first : ρ.SameToken t t') (second : ρ.SameToken u u') :
    t.same u = t'.same u' := by
  rw [Bool.eq_iff_iff]
  have unique := first.unique second
  cases second with
  | none => simpa only [Json.Value.same_null] using unique
  | issued => simpa only [Json.Value.same_text] using unique

end Names
end Renaming

namespace Memory
variable {m m' : Memory} {key : Key} {r r' : Append} {ρ : Renaming}

/-- A memory that is connected, creates missing streams, names the expected token in its rejections
and has no failures in store. -/
structure Plain (m : Memory) : Prop where
  structured : m.structured = true
  autoCreate : m.autoCreate = true
  connected : m.connected = true
  failures : m.failures = []

/-- The second memory has the stream of the first, with the tokens that stand for those of the
first, and has issued no others. -/
structure Mirrors (m m' : Memory) (key : Key) (ρ : Renaming) : Prop where
  plain : m.Plain
  plain' : m'.Plain
  delay : m'.delay = m.delay
  events : m'.events key = m.events key
  token : ρ.SameToken (m.token key) (m'.token key)
  below : ∀ n ∈ ρ.tokens, n ≤ m.issued
  issued : m'.issued = ρ.tokens.length

theorem Plain.accepts (plain : m.Plain) (same : r.token.same (m.token r.key) = true) :
    (m.commit r).2 = .ok (.text (tokenText (m.issued + 1))) := by
  rw [(Decides.accepted plain.failures (.inr plain.autoCreate) same).commit_eq]

theorem Plain.rejects (plain : m.Plain) (other : r.token.same (m.token r.key) = false) :
    (m.commit r).2 =
      .error (.tokenRejected (rejectionText (m.token r.key)) (m.token r.key) true none) := by
  rw [(Decides.refused plain.failures (.inr plain.autoCreate) other).commit_eq]
  rw [rejection, if_pos plain.structured]

theorem Plain.commit (plain : m.Plain) (r : Append) : (m.commit r).1.Plain := by
  obtain ⟨structured, autoCreate, connected, failures⟩ := plain
  have decided := m.decides_commit r
  generalize m.commit r = decision at decided
  cases decided with
  | failed pending => cases failures.symm.trans pending
  | missing | accepted | refused => exact ⟨structured, autoCreate, connected, failures⟩

/-- What is done for another stream changes nothing for this one, but tokens may be issued. -/
structure Beside (m after : Memory) (key : Key) : Prop where
  plain : m.Plain → after.Plain
  delay : after.delay = m.delay
  events : after.events key = m.events key
  token : after.token key = m.token key
  issued : m.issued ≤ after.issued

theorem Beside.refl (m : Memory) (key : Key) : m.Beside m key :=
  ⟨id, rfl, rfl, rfl, Nat.le_refl _⟩

theorem Beside.trans {m'' : Memory} (first : m.Beside m' key) (second : m'.Beside m'' key) :
    m.Beside m'' key where
  plain := second.plain ∘ first.plain
  delay := second.delay.trans first.delay
  events := second.events.trans first.events
  token := second.token.trans first.token
  issued := Nat.le_trans first.issued second.issued

theorem beside_commit (m : Memory) (other : key ≠ r.key) : m.Beside (m.commit r).1 key where
  plain plain := plain.commit r
  delay := (commit_stays m r).2.2
  events := by
    rw [events_commit]
    unfold Progress.gain
    split <;> simp [other]
  token := by
    cases result : (m.commit r).2 with
    | ok next => rw [token_eq, token_eq, (commit_accepts result).2.2.2, if_neg other]
    | error fault => exact ((commit_refuses result).2 key).token
  issued := by
    cases result : (m.commit r).2 with
    | ok next => exact (commit_accepts result).2.2.1 ▸ Nat.le_succ _
    | error fault => exact Nat.le_of_eq (commit_refuses result).1.symm

theorem beside_calls (m : Memory) (calls : List Append) (key : Key) :
    m.Beside { m with calls := calls } key :=
  ⟨fun ⟨structured, autoCreate, connected, failures⟩ =>
    ⟨structured, autoCreate, connected, failures⟩, rfl, rfl, rfl, Nat.le_refl _⟩

theorem beside_append (m : Memory) (other : key ≠ r.key) : m.Beside (m.append r).state key := by
  have received := m.beside_calls (m.calls ++ [r]) key
  unfold append
  split
  · dsimp only
    split
    · exact received.trans (beside_commit _ other)
    · exact received
  · exact .refl m key

theorem beside_resume (m : Memory) (asleep : SleepingAppend) (other : key ≠ asleep.request.key)
    (signal : Signal) : m.Beside (m.resume asleep signal).state key := by
  cases signal with
  | ready => exact beside_commit m other
  | expired | interrupted => exact .refl m key

/-- To prepare a stream is to create it where it is missing, which nobody can tell. -/
theorem beside_ensureStream (m : Memory) (other key : Key) :
    m.Beside (m.ensureStream other).state key where
  plain := by
    rintro ⟨structured, autoCreate, connected, failures⟩
    unfold ensureStream
    split <;> exact ⟨structured, autoCreate, connected, failures⟩
  delay := by
    unfold ensureStream
    split <;> rfl
  events := events_ensureStream ..
  token := (ensureStream_retains m other key).2.token
  issued := Nat.le_of_eq (ensureStream_retains m other key).1.symm

/-- What the first memory does for other streams is nothing to the second. -/
theorem Mirrors.beside {after : Memory} (mirrors : m.Mirrors m' key ρ)
    (beside : m.Beside after key) : after.Mirrors m' key ρ where
  plain := beside.plain mirrors.plain
  plain' := mirrors.plain'
  delay := mirrors.delay.trans beside.delay.symm
  events := mirrors.events.trans beside.events.symm
  token := beside.token.symm ▸ mirrors.token
  below n member := Nat.le_trans (mirrors.below n member) beside.issued
  issued := mirrors.issued

theorem Mirrors.grow {ρ' : Renaming} (mirrors : m.Mirrors m' key ρ) (grows : ρ.Grows ρ')
    (tokens : ρ'.tokens = ρ.tokens) : m.Mirrors m' key ρ' :=
  { mirrors with
    token := mirrors.token.mono grows
    below := tokens ▸ mirrors.below
    issued := tokens ▸ mirrors.issued }

/-- The second memory may change as well in what nobody can tell, as long as it issues nothing. -/
theorem Mirrors.beside_alone {after : Memory} (mirrors : m.Mirrors m' key ρ)
    (beside : m'.Beside after key) (issued : after.issued = m'.issued) :
    m.Mirrors after key ρ where
  plain := mirrors.plain
  plain' := beside.plain mirrors.plain'
  delay := beside.delay.trans mirrors.delay
  events := beside.events.trans mirrors.events
  token := beside.token.symm ▸ mirrors.token
  below := mirrors.below
  issued := issued.trans mirrors.issued

end Memory

structure Reply.Mirrors (reply reply' : Reply Memory SleepingAppend Append Token) (key : Key)
    (ρ : Renaming) : Prop where
  state : reply.state.Mirrors reply'.state key ρ
  progress : ρ.SameProgress key reply.progress reply'.progress

namespace Memory
variable {m m' : Memory} {key : Key} {r r' : Append} {ρ : Renaming}

/-- The step in which an append is decided comes to the same in both memories. An accepted append
gets a new name for its token. -/
theorem mirrors_commit (mirrors : m.Mirrors m' key ρ) (request : ρ.SameRequest key r r') :
    ∃ ρ', ρ.Issues ρ' ∧ (m.commit r).1.Mirrors (m'.commit r').1 key ρ' ∧
      ρ'.SameOutcome (m.commit r).2 (m'.commit r').2 := by
  obtain ⟨rfl, own', events, token⟩ := request
  have expected : r.token.same (m.token r.key) = r'.token.same (m'.token r'.key) :=
    own'.symm ▸ token.same_eq mirrors.token
  have delay := (commit_stays m' r').2.2.trans
    (mirrors.delay.trans (commit_stays m r).2.2.symm)
  have plain := mirrors.plain.commit r
  have plain' := mirrors.plain'.commit r'
  cases same : r.token.same (m.token r.key) with
  | false =>
    have refused := mirrors.plain.rejects same
    have refused' := mirrors.plain'.rejects (expected ▸ same)
    obtain ⟨issued, retains⟩ := commit_refuses refused
    obtain ⟨issued', retains'⟩ := commit_refuses refused'
    refine ⟨ρ, .refl ρ, ⟨plain, plain', delay, ?_, ?_, ?_, ?_⟩, ?_⟩
    · simp [events_commit, refused, refused', Progress.gain, mirrors.events]
    · rw [(retains r.key).token, (retains' r.key).token]
      exact mirrors.token
    · exact issued.symm ▸ mirrors.below
    · rw [issued', mirrors.issued]
    · rw [refused, refused', own']
      exact .refused (.rejected mirrors.token)
  | true =>
    have accepted := mirrors.plain.accepts same
    have accepted' := mirrors.plain'.accepts (expected ▸ same)
    obtain ⟨-, -, issued, next⟩ := commit_accepts accepted
    obtain ⟨-, -, issued', next'⟩ := commit_accepts accepted'
    have late : ∀ n ∈ ρ.tokens, n < m.issued + 1 :=
      fun n member => Nat.lt_succ_of_le (mirrors.below n member)
    -- the memories issue different numbers, which from now on stand for each other
    have named : (ρ.issue (m.issued + 1) late).SameToken
        (.text (tokenText (m.issued + 1))) (.text (tokenText (m'.issued + 1))) :=
      mirrors.issued ▸ .issued (by simp [Renaming.issue])
    refine ⟨ρ.issue (m.issued + 1) late, ρ.issues_issue late,
      ⟨plain, plain', delay, ?_, ?_, ?_, ?_⟩, ?_⟩
    · simp [events_commit, accepted, accepted', Progress.gain, mirrors.events, own', events]
    · rw [token_eq, token_eq, next, next', own', if_pos rfl, if_pos rfl]
      exact named
    · intro n member
      rw [issued]
      rcases List.mem_append.1 member with old | new
      · exact Nat.le_of_lt (late n old)
      · exact Nat.le_of_eq (List.mem_singleton.1 new)
    · rw [issued', mirrors.issued]
      simp [Renaming.issue]
    · rw [accepted, accepted']
      exact .accepted named

theorem mirrors_settle (mirrors : m.Mirrors m' key ρ) (request : ρ.SameRequest key r r') :
    ∃ ρ', ρ.Issues ρ' ∧ (m.settle r).Mirrors (m'.settle r') key ρ' := by
  obtain ⟨ρ', issues, decided, outcome⟩ := mirrors_commit mirrors request
  exact ⟨ρ', issues, decided, .ended outcome⟩

theorem mirrors_append (mirrors : m.Mirrors m' key ρ) (request : ρ.SameRequest key r r') :
    ∃ ρ', ρ.Issues ρ' ∧ (m.append r).Mirrors (m'.append r') key ρ' := by
  have received := (mirrors.beside (m.beside_calls (m.calls ++ [r]) key)).beside_alone
    (m'.beside_calls (m'.calls ++ [r']) key) rfl
  unfold append
  rw [if_pos mirrors.plain.connected, if_pos mirrors.plain'.connected]
  cases instant : m.delay.isZero with
  | true =>
    have instant' : m'.delay.isZero = true := mirrors.delay ▸ instant
    obtain ⟨ρ', issues, settled⟩ := mirrors_settle received request
    simp only [instant', if_true]
    exact ⟨ρ', issues, settled.state, settled.progress⟩
  | false =>
    have late : m'.delay.isZero = false := mirrors.delay ▸ instant
    simp only [late, Bool.false_eq_true, if_false]
    exact ⟨ρ, .refl ρ, received, .asleep ⟨request, mirrors.delay⟩⟩

theorem mirrors_resume (mirrors : m.Mirrors m' key ρ) {a a' : SleepingAppend}
    (asleep : ρ.SameSleep key a a') (signal : Signal) :
    ∃ ρ', ρ.Issues ρ' ∧ (m.resume a signal).Mirrors (m'.resume a' signal) key ρ' := by
  cases signal with
  | ready => exact mirrors_settle mirrors asleep.request
  | expired | interrupted => exact ⟨ρ, .refl ρ, mirrors, .ended (.refused .stopped)⟩

theorem mirrors_ensureStream (mirrors : m.Mirrors m' key ρ) :
    (m.ensureStream key).state.Mirrors (m'.ensureStream key).state key ρ :=
  (mirrors.beside (m.beside_ensureStream key key)).beside_alone
    (m'.beside_ensureStream key key) (ensureStream_retains m' key key).1

theorem Plain.ensureStream (plain : m.Plain) (key : Key) :
    (m.ensureStream key).progress = .finished (.ok (m.token key)) := by
  unfold Memory.ensureStream
  rw [if_pos plain.connected]
  rfl

end Memory
end SequenceLog

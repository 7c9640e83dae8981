import Mathlib.Logic.Function.Iterate
import Mathlib.Order.Monotone.Basic
import SequenceLog.Record
/-! Instants. A clock ticks once in a microsecond, and the calendar tells what it shows next; by the
ticks between them two readings of a clock are apart. The microseconds of a moment are these ticks,
counted from the start of 1970 in universal time, and its milliseconds are the whole ones among them.
Main statement: `milliseconds_floor_instant`. -/
namespace SequenceLog
open Calendar

/-- The months of the Gregorian calendar. Every fourth year has a day more, but of the years that end a
century only every fourth. -/
def monthLengths (year : Nat) : List Nat :=
  [31, if 4 ∣ year ∧ (100 ∣ year → 400 ∣ year) then 29 else 28, 31, 30, 31, 30,
    31, 31, 30, 31, 30, 31]

/-- The days of a month. A month that the calendar does not have has none. -/
def monthLength (year month : Nat) : Nat := ((monthLengths year)[month - 1]?).getD 0

namespace Moment

/-- A date of the calendar, from year 1 on, and a time of the day. -/
structure IsValid (m : Moment) : Prop where
  year : 1 ≤ m.year
  month : 1 ≤ m.month
  day : 1 ≤ m.day ∧ m.day ≤ monthLength m.year m.month
  hour : m.hour < 24
  minute : m.minute < 60
  second : m.second < 60
  microsecond : m.microsecond < 1000000

def nextDay (m : Moment) : Moment :=
  if m.day < monthLength m.year m.month then { m with day := m.day + 1 }
  else if m.month < 12 then { m with month := m.month + 1, day := 1 }
  else { m with year := m.year + 1, month := 1, day := 1 }

def tick (m : Moment) : Moment :=
  if m.microsecond + 1 < 1000000 then { m with microsecond := m.microsecond + 1 }
  else if m.second + 1 < 60 then { m with second := m.second + 1, microsecond := 0 }
  else if m.minute + 1 < 60 then { m with minute := m.minute + 1, second := 0, microsecond := 0 }
  else if m.hour + 1 < 24 then { m with hour := m.hour + 1, minute := 0, second := 0, microsecond := 0 }
  else { m.nextDay with hour := 0, minute := 0, second := 0, microsecond := 0 }

def epoch : Moment := ⟨1970, 1, 1, 0, 0, 0, 0, 0⟩

/-- The instant at which a clock shows a moment, in microseconds since the epoch. It is found by letting
the clock tick, or by going back from its next tick; and where another clock is ahead by more, it shows
the same that much earlier. -/
inductive Shows : Moment → Int → Prop
  | epoch : Shows epoch 0
  | tick {m : Moment} {instant : Int} : Shows m instant → Shows m.tick (instant + 1)
  | back {m : Moment} {instant : Int} : m.IsValid → Shows m.tick instant → Shows m (instant - 1)
  | ahead {m : Moment} {instant : Int} (offset : Int) : Shows m instant →
      Shows { m with offset := offset } (instant - (offset - m.offset))

end Moment

namespace Calendar
variable {year month day : Nat}

theorem isLeap_iff : isLeap year = true ↔ 4 ∣ year ∧ (100 ∣ year → 400 ∣ year) := by
  simp only [isLeap, Bool.and_eq_true, Bool.or_eq_true, beq_iff_eq, bne_iff_ne]
  omega

theorem daysInMonth_eq (first : 1 ≤ month) (last : month ≤ 12) :
    daysInMonth year month = monthLength year month := by
  have every : ∀ n < 12, daysInMonth year (n + 1) = monthLength year (n + 1) := by
    have february : daysInMonth year 2 = monthLength year 2 :=
      if_congr isLeap_iff rfl rfl
    intro n small
    rcases n with _ | _ | _ | _ | _ | _ | _ | _ | _ | _ | _ | _ | n
    case succ.zero => exact february
    all_goals first | rfl | omega
  obtain ⟨n, rfl⟩ : ∃ n, month = n + 1 := ⟨month - 1, by omega⟩
  exact every n (by omega)

theorem daysInMonth_pos : 1 ≤ daysInMonth year month := by
  unfold daysInMonth
  split
  · split <;> decide
  all_goals decide

theorem month_le (first : 1 ≤ day) (last : day ≤ monthLength year month) : month ≤ 12 := by
  refine Nat.le_of_not_lt fun late => ?_
  have none : (monthLengths year)[month - 1]? = none := by
    rw [List.getElem?_eq_none_iff]
    simp only [monthLengths, List.length_cons, List.length_nil]
    omega
  rw [monthLength, none] at last
  exact absurd last (Nat.not_le_of_lt first)

theorem daysBeforeMonth_succ (first : 1 ≤ month) :
    daysBeforeMonth year (month + 1) = daysBeforeMonth year month + daysInMonth year month := by
  obtain ⟨n, rfl⟩ : ∃ n, month = n + 1 := ⟨month - 1, by omega⟩
  rfl

theorem daysBeforeMonth_mono : Monotone (daysBeforeMonth year) := by
  refine monotone_nat_of_le_succ fun month => ?_
  cases month with
  | zero => exact Nat.le_refl _
  | succ n => exact Nat.le_add_right ..

theorem daysBeforeYear_add_one (first : 1 ≤ year) :
    daysBeforeYear (year + 1) = daysBeforeYear year + if isLeap year then 366 else 365 := by
  obtain ⟨past, rfl⟩ : ∃ past, year = past + 1 := ⟨year - 1, by omega⟩
  have leap : isLeap (past + 1) = true ↔ 4 ∣ past + 1 ∧ (100 ∣ past + 1 → 400 ∣ past + 1) :=
    isLeap_iff
  have century : 400 ∣ past + 1 → 100 ∣ past + 1 := Nat.dvd_trans (by decide)
  have fourth : 100 ∣ past + 1 → 4 ∣ past + 1 := Nat.dvd_trans (by decide)
  have fewer : past / 100 ≤ past / 4 := Nat.div_le_div_left (by decide) (by decide)
  simp only [daysBeforeYear, Nat.add_sub_cancel, Nat.succ_div]
  generalize past / 4 = fourths, past / 100 = centuries, past / 400 = eras at *
  -- which of the three quotients grow in the year decides what is added
  by_cases by4 : 4 ∣ past + 1 <;> by_cases by100 : 100 ∣ past + 1 <;>
    by_cases by400 : 400 ∣ past + 1 <;> simp_all <;> omega

theorem daysBeforeYear_succ (first : 1 ≤ year) :
    daysBeforeYear (year + 1) = daysBeforeYear year + daysBeforeMonth year 13 := by
  have months : daysBeforeMonth year 13 = if isLeap year then 366 else 365 := by
    simp only [daysBeforeMonth, daysInMonth]
    split <;> rfl
  rw [months, daysBeforeYear_add_one first]

theorem daysBeforeYear_mono : Monotone daysBeforeYear := by
  refine monotone_nat_of_le_succ fun year => ?_
  cases year with
  | zero => exact Nat.le_refl _
  | succ n => exact daysBeforeYear_succ (Nat.le_add_left 1 n) ▸ Nat.le_add_right ..

end Calendar

namespace Moment
variable {m m' : Moment} {instant instant' : Int}

def dayNumber (m : Moment) : Nat := Calendar.dayNumber m.year m.month m.day

theorem IsValid.month_le (valid : m.IsValid) : m.month ≤ 12 :=
  Calendar.month_le valid.day.1 valid.day.2

theorem IsValid.day_le (valid : m.IsValid) : m.day ≤ daysInMonth m.year m.month :=
  daysInMonth_eq valid.month valid.month_le ▸ valid.day.2

theorem IsValid.inMonth (valid : m.IsValid) :
    daysBeforeMonth m.year m.month + m.day ≤ daysBeforeMonth m.year (m.month + 1) :=
  daysBeforeMonth_succ valid.month ▸ Nat.add_le_add_left valid.day_le _

theorem IsValid.inYear (valid : m.IsValid) :
    daysBeforeYear m.year < m.dayNumber ∧ m.dayNumber ≤ daysBeforeYear (m.year + 1) := by
  have year := daysBeforeYear_succ valid.year
  have later : daysBeforeMonth m.year (m.month + 1) ≤ daysBeforeMonth m.year 13 :=
    daysBeforeMonth_mono (Nat.succ_le_succ valid.month_le)
  have inMonth := valid.inMonth
  have first := valid.day.1
  simp only [dayNumber, Calendar.dayNumber]
  omega

/-- No two dates have the same number. -/
theorem IsValid.date_unique (valid : m.IsValid) (valid' : m'.IsValid)
    (same : m.dayNumber = m'.dayNumber) :
    m.year = m'.year ∧ m.month = m'.month ∧ m.day = m'.day := by
  have year : m.year = m'.year := by
    have inYear := valid.inYear
    have inYear' := valid'.inYear
    rcases Nat.lt_trichotomy m.year m'.year with earlier | equal | later
    · have apart : daysBeforeYear (m.year + 1) ≤ daysBeforeYear m'.year :=
        daysBeforeYear_mono earlier
      omega
    · exact equal
    · have apart : daysBeforeYear (m'.year + 1) ≤ daysBeforeYear m.year :=
        daysBeforeYear_mono later
      omega
  have inMonth := valid.inMonth
  have inMonth' := valid'.inMonth
  have first := valid.day.1
  have first' := valid'.day.1
  simp only [dayNumber, Calendar.dayNumber, year] at same inMonth
  have month : m.month = m'.month := by
    rcases Nat.lt_trichotomy m.month m'.month with earlier | equal | later
    · have apart : daysBeforeMonth m'.year (m.month + 1) ≤ daysBeforeMonth m'.year m'.month :=
        daysBeforeMonth_mono earlier
      omega
    · exact equal
    · have apart : daysBeforeMonth m'.year (m'.month + 1) ≤ daysBeforeMonth m'.year m.month :=
        daysBeforeMonth_mono later
      omega
  rw [month] at same
  exact ⟨year, month, by omega⟩

theorem IsValid.clockSeconds_lt (valid : m.IsValid) : m.clockSeconds < 86400 := by
  have hour := valid.hour
  have minute := valid.minute
  have second := valid.second
  simp only [clockSeconds]
  omega

theorem IsValid.clock_unique (valid : m.IsValid) (valid' : m'.IsValid)
    (same : m.clockSeconds = m'.clockSeconds) :
    m.hour = m'.hour ∧ m.minute = m'.minute ∧ m.second = m'.second := by
  have minute := valid.minute
  have second := valid.second
  have minute' := valid'.minute
  have second' := valid'.second
  simp only [clockSeconds] at same
  have hour : m.hour = m'.hour := by omega
  have minute : m.minute = m'.minute := by omega
  exact ⟨hour, minute, by omega⟩

/-- Clocks that are ahead by the same do not show different things at one instant. -/
theorem IsValid.unique (valid : m.IsValid) (valid' : m'.IsValid) (offset : m.offset = m'.offset)
    (same : m.microseconds = m'.microseconds) : m = m' := by
  have microsecond : m.microsecond = m'.microsecond := by
    have below := valid.microsecond
    have below' := valid'.microsecond
    simp only [microseconds, offset] at same
    omega
  have clock : m.clockSeconds = m'.clockSeconds := by
    have below := valid.clockSeconds_lt
    have below' := valid'.clockSeconds_lt
    simp only [microseconds, offset, microsecond] at same
    omega
  have number : m.dayNumber = m'.dayNumber := by
    simp only [microseconds, offset, microsecond, clock] at same
    simp only [dayNumber]
    omega
  obtain ⟨year, month, day⟩ := valid.date_unique valid' number
  obtain ⟨hour, minute, second⟩ := valid.clock_unique valid' clock
  cases m
  cases m'
  simp only [mk.injEq]
  exact ⟨year, month, day, hour, minute, second, microsecond, offset⟩

theorem IsValid.nextDay (valid : m.IsValid) :
    m.nextDay.IsValid ∧ m.nextDay.dayNumber = m.dayNumber + 1 := by
  have months := valid.month_le
  have day := valid.day
  unfold Moment.nextDay
  split
  · rename_i inside
    exact ⟨{ valid with day := ⟨Nat.le_add_left .., inside⟩ }, rfl⟩
  · rename_i done
    have last : m.day = daysInMonth m.year m.month :=
      (Nat.le_antisymm day.2 (Nat.le_of_not_lt done)).trans
        (daysInMonth_eq valid.month months).symm
    split
    · rename_i more
      have positive : 1 ≤ monthLength m.year (m.month + 1) :=
        daysInMonth_eq (Nat.le_add_left ..) more ▸ daysInMonth_pos
      have next : daysBeforeMonth m.year (m.month + 1) =
          daysBeforeMonth m.year m.month + daysInMonth m.year m.month :=
        daysBeforeMonth_succ valid.month
      refine ⟨{ valid with month := Nat.le_add_left .., day := ⟨Nat.le_refl 1, positive⟩ }, ?_⟩
      simp only [dayNumber, Calendar.dayNumber]
      omega
    · rename_i december
      have month : m.month = 12 := Nat.le_antisymm months (Nat.le_of_not_lt december)
      have january : 1 ≤ monthLength (m.year + 1) 1 :=
        daysInMonth_eq (Nat.le_refl 1) (by decide) ▸ daysInMonth_pos
      have year := daysBeforeYear_succ valid.year
      have twelfth : daysBeforeMonth m.year 13 =
          daysBeforeMonth m.year 12 + daysInMonth m.year 12 := rfl
      have first : daysBeforeMonth (m.year + 1) 1 = 0 := rfl
      rw [month] at last
      refine ⟨{ valid with
        year := Nat.le_add_left .., month := Nat.le_refl 1, day := ⟨Nat.le_refl 1, january⟩ }, ?_⟩
      simp only [dayNumber, Calendar.dayNumber, month]
      omega

@[simp] theorem offset_nextDay (m : Moment) : m.nextDay.offset = m.offset := by
  unfold nextDay
  split
  · rfl
  · split <;> rfl

@[simp] theorem offset_tick (m : Moment) : m.tick.offset = m.offset := by
  unfold tick
  repeat'
    split
  all_goals first | rfl | exact m.offset_nextDay

theorem IsValid.tick (valid : m.IsValid) :
    m.tick.IsValid ∧ m.tick.microseconds = m.microseconds + 1 := by
  have microsecond := valid.microsecond
  have second := valid.second
  have minute := valid.minute
  have hour := valid.hour
  unfold Moment.tick
  split
  · rename_i inside
    refine ⟨{ valid with microsecond := inside }, ?_⟩
    simp only [microseconds, clockSeconds]
    omega
  split
  · rename_i inside
    refine ⟨{ valid with microsecond := Nat.succ_pos _, second := inside }, ?_⟩
    simp only [microseconds, clockSeconds]
    omega
  split
  · rename_i inside
    refine ⟨{ valid with microsecond := Nat.succ_pos _, second := Nat.succ_pos _, minute := inside }, ?_⟩
    simp only [microseconds, clockSeconds]
    omega
  split
  · rename_i inside
    refine ⟨{ valid with
      microsecond := Nat.succ_pos _, second := Nat.succ_pos _, minute := Nat.succ_pos _
      hour := inside }, ?_⟩
    simp only [microseconds, clockSeconds]
    omega
  · obtain ⟨next, number⟩ := valid.nextDay
    refine ⟨{ next with
      microsecond := Nat.succ_pos _, second := Nat.succ_pos _, minute := Nat.succ_pos _
      hour := Nat.succ_pos _ }, ?_⟩
    simp only [dayNumber] at number
    simp only [microseconds, clockSeconds, offset_nextDay, number]
    omega

/-- What a clock shows is valid, and the instant is the one counted. -/
theorem Shows.counted (shows : m.Shows instant) : m.IsValid ∧ instant = m.microseconds := by
  induction shows with
  | epoch => exact ⟨⟨by decide, by decide, by decide, by decide, by decide, by decide, by decide⟩, rfl⟩
  | tick _ ih =>
    obtain ⟨valid, count⟩ := ih
    obtain ⟨next, later⟩ := valid.tick
    exact ⟨next, by omega⟩
  | back valid _ ih =>
    obtain ⟨-, later⟩ := valid.tick
    exact ⟨valid, by omega⟩
  | ahead offset _ ih =>
    obtain ⟨valid, count⟩ := ih
    refine ⟨{ valid with }, ?_⟩
    simp only [microseconds, clockSeconds] at count ⊢
    omega

theorem Shows.ticks (shows : m.Shows instant) (n : Nat) :
    (Moment.tick^[n] m).Shows (instant + n) := by
  induction n generalizing m instant with
  | zero => simpa using shows
  | succ n ih =>
    have later : instant + (n + 1 : Nat) = instant + 1 + n := by omega
    rw [Function.iterate_succ_apply, later]
    exact ih shows.tick

theorem Shows.of_ticks (valid : m.IsValid) {n : Nat} (shows : (Moment.tick^[n] m).Shows instant) :
    m.Shows (instant - n) := by
  induction n generalizing m with
  | zero => simpa using shows
  | succ n ih =>
    have earlier : instant - (n + 1 : Nat) = instant - n - 1 := by omega
    rw [Function.iterate_succ_apply] at shows
    rw [earlier]
    exact .back valid (ih valid.tick.1 shows)

theorem IsValid.ticks (valid : m.IsValid) (n : Nat) :
    (Moment.tick^[n] m).IsValid ∧ (Moment.tick^[n] m).microseconds = m.microseconds + n ∧
      (Moment.tick^[n] m).offset = m.offset := by
  induction n generalizing m with
  | zero => exact ⟨valid, by simp, rfl⟩
  | succ n ih =>
    obtain ⟨next, later⟩ := valid.tick
    obtain ⟨last, count, offset⟩ := ih next
    rw [Function.iterate_succ_apply]
    refine ⟨last, ?_, offset.trans m.offset_tick⟩
    rw [count, later]
    omega

/-- Every valid moment is shown at some instant: the clock comes to it by ticking from the epoch, or
comes to the epoch by ticking from it. -/
theorem IsValid.shows (valid : m.IsValid) : m.Shows m.microseconds := by
  have start : Shows { epoch with offset := m.offset } (-m.offset) := by
    have moved := Shows.epoch.ahead m.offset
    rwa [show (0 : Int) - (m.offset - epoch.offset) = -m.offset by simp [epoch]] at moved
  obtain ⟨first, begins⟩ := start.counted
  rcases Int.le_total (-m.offset) m.microseconds with later | earlier
  · obtain ⟨n, apart⟩ := Int.eq_ofNat_of_zero_le (Int.sub_nonneg_of_le later)
    obtain ⟨reached, count, offset⟩ := first.ticks n
    have same := reached.unique valid offset (by omega)
    have shows := start.ticks n
    rw [same] at shows
    rwa [show -m.offset + n = m.microseconds by omega] at shows
  · obtain ⟨n, apart⟩ := Int.eq_ofNat_of_zero_le (Int.sub_nonneg_of_le earlier)
    obtain ⟨reached, count, offset⟩ := valid.ticks n
    have same := reached.unique first offset (by omega)
    have shows := Shows.of_ticks valid (same.symm ▸ start)
    rwa [show -m.offset - n = m.microseconds by omega] at shows

end Moment

/-- A valid date and time, whether its offset is told or not, is shown at exactly one instant, and its
milliseconds are the whole ones up to this instant, also before the epoch. So they are the same for
everything that is shown at the same instant, and do not become fewer when the instant is later. -/
theorem milliseconds_floor_instant {r : Reading} (valid : r.moment.IsValid) :
    ∃ instant, (∀ other, r.moment.Shows other ↔ other = instant) ∧
      1000 * r.moment.milliseconds ≤ instant ∧ instant < 1000 * r.moment.milliseconds + 1000 ∧
      ∀ (r' : Reading) (instant' : Int), r'.moment.Shows instant' →
        (instant = instant' → r.moment.milliseconds = r'.moment.milliseconds) ∧
        (instant ≤ instant' → r.moment.milliseconds ≤ r'.moment.milliseconds) := by
  have only (other : Int) : r.moment.Shows other ↔ other = r.moment.microseconds :=
    ⟨fun shows => shows.counted.2, fun same => same ▸ valid.shows⟩
  refine ⟨r.moment.microseconds, only, ?_, ?_, fun r' instant' shows => ?_⟩
  · simp only [Moment.milliseconds]
    omega
  · simp only [Moment.milliseconds]
    omega
  · rw [shows.counted.2]
    simp only [Moment.milliseconds]
    omega

/-- The last microsecond before 1970, on a clock that does not tell its offset. -/
def lastMicrosecond : Reading := ⟨1969, 12, 31, 23, 59, 59, 999999, none⟩

/-- The first of year 1 on a clock that is ahead, so that the instant lies before that year. -/
def firstDay : Reading := ⟨1, 1, 1, 0, 0, 0, 0, some 86399999999⟩

theorem milliseconds_floor_instant_negative :
    lastMicrosecond.moment.IsValid ∧ lastMicrosecond.moment.milliseconds = -1 ∧
      firstDay.moment.milliseconds ≤ lastMicrosecond.moment.milliseconds := by
  have valid : lastMicrosecond.moment.IsValid :=
    ⟨by decide, by decide, by decide, by decide, by decide, by decide, by decide⟩
  have valid' : firstDay.moment.IsValid :=
    ⟨by decide, by decide, by decide, by decide, by decide, by decide, by decide⟩
  obtain ⟨instant, only, -⟩ := milliseconds_floor_instant valid
  obtain ⟨instant', only', -, -, order⟩ := milliseconds_floor_instant valid'
  have last : instant = -1 := ((only _).1 valid.shows).symm
  have first : instant' = -62135683199999999 := ((only' _).1 valid'.shows).symm
  exact ⟨valid, rfl, (order _ _ ((only _).2 rfl)).2 (by omega)⟩

end SequenceLog

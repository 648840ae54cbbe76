import CrossSql.Calendar.Date
import Mathlib.Order.Monotone.Basic

/-!
# The numbers of days

The calendar runs from its first day to its last without a gap and without counting a day twice. So
a number between those of the first and the last day belongs to exactly one date, and walking along
the calendar arrives at it, over the ends of months and of years.

## Main definitions

* `Date.first`, `Date.last`, `InCalendar`: the ends of the calendar, and the numbers between them.
* `Date.dayNumber_injective`: the date of a number.
* `Date.addDays?_eq_some_iff`: the date that a walk arrives at.
-/

namespace CrossSql.Calendar

/-! ## Years and months -/

def daysInYear (year : Int) : Nat := if isLeap year then 366 else 365

namespace Date

theorem daysBeforeYear_succ (year : Int) :
    daysBeforeYear (year + 1) = daysBeforeYear year + daysInYear year := by
  unfold daysBeforeYear daysInYear isLeap
  split <;> rename_i leap <;> simp at leap <;> omega

theorem daysBeforeYear_mono {year later : Int} (h : year ≤ later) :
    daysBeforeYear year ≤ daysBeforeYear later := by
  unfold daysBeforeYear
  omega

theorem daysBeforeMonth_succ {year : Int} {month : Nat} (h : month ≠ 0) :
    daysBeforeMonth year (month + 1) = daysBeforeMonth year month + daysInMonth year month := by
  simp [daysBeforeMonth, h]

theorem daysBeforeMonth_mono (year : Int) : Monotone (daysBeforeMonth year) :=
  monotone_nat_of_le_succ fun month => by simp [daysBeforeMonth]

/-- The months make up the year. -/
theorem daysBeforeMonth_thirteen (year : Int) : daysBeforeMonth year 13 = daysInYear year := by
  cases leap : isLeap year <;> simp [daysBeforeMonth, daysInMonth, daysInYear, leap]

variable {d e : Date}

/-! ## One date for a number -/

/-- The number of the day within its year, from one. -/
def dayOfYear (d : Date) : Nat := daysBeforeMonth d.year d.month + d.day

theorem dayNumber_eq (d : Date) : d.dayNumber = daysBeforeYear d.year + d.dayOfYear := by
  unfold dayNumber dayOfYear
  omega

theorem dayOfYear_pos (d : Date) : 0 < d.dayOfYear :=
  Nat.lt_add_left _ d.isDay.2.2.1

theorem dayOfYear_le_month (d : Date) : d.dayOfYear ≤ daysBeforeMonth d.year (d.month + 1) := by
  rw [daysBeforeMonth_succ (Nat.ne_of_gt d.isDay.2.1.1)]
  exact Nat.add_le_add_left d.isDay.2.2.2 _

theorem dayOfYear_le_year (d : Date) : d.dayOfYear ≤ daysInYear d.year := by
  rw [← daysBeforeMonth_thirteen]
  exact d.dayOfYear_le_month.trans
    (daysBeforeMonth_mono d.year (Nat.succ_le_succ d.isDay.2.1.2))

theorem dayNumber_le (d : Date) : d.dayNumber ≤ daysBeforeYear (d.year + 1) := by
  have inside := d.dayOfYear_le_year
  rw [dayNumber_eq, daysBeforeYear_succ]
  omega

theorem dayNumber_lt_of_year_lt (h : d.year < e.year) : d.dayNumber < e.dayNumber := by
  have year := daysBeforeYear_mono (show d.year + 1 ≤ e.year from h)
  have before := d.dayNumber_le
  have after := e.dayOfYear_pos
  rw [e.dayNumber_eq]
  omega

theorem dayOfYear_lt_of_month_lt (same : d.year = e.year) (h : d.month < e.month) :
    d.dayOfYear < e.dayOfYear := by
  have month := daysBeforeMonth_mono e.year (Nat.succ_le_of_lt h)
  have before := d.dayOfYear_le_month
  rw [same] at before
  exact (before.trans month).trans_lt (Nat.lt_add_of_pos_right e.isDay.2.2.1)

/-- No two dates have one number. -/
theorem dayNumber_injective : Function.Injective dayNumber := by
  intro d e same
  have year : d.year = e.year := by
    rcases Int.lt_trichotomy d.year e.year with less | equal | more
    · exact absurd same (Int.ne_of_lt (dayNumber_lt_of_year_lt less))
    · exact equal
    · exact absurd same.symm (Int.ne_of_lt (dayNumber_lt_of_year_lt more))
  have days : d.dayOfYear = e.dayOfYear := by
    rw [dayNumber_eq, dayNumber_eq, year] at same
    omega
  have month : d.month = e.month := by
    rcases Nat.lt_trichotomy d.month e.month with less | equal | more
    · exact absurd days (Nat.ne_of_lt (dayOfYear_lt_of_month_lt year less))
    · exact equal
    · exact absurd days.symm (Nat.ne_of_lt (dayOfYear_lt_of_month_lt year.symm more))
  have day : d.day = e.day := by
    rw [dayOfYear, dayOfYear, year, month] at days
    omega
  cases d
  cases e
  simp_all

/-! ## The ends of years and of the calendar -/

theorem dayNumber_of_newYear (month : d.month = 1) (day : d.day = 1) :
    d.dayNumber = daysBeforeYear d.year + 1 := by
  simp [dayNumber, month, day, daysBeforeMonth]

theorem dayNumber_of_yearEnd (month : d.month = 12) (day : d.day = 31) :
    d.dayNumber = daysBeforeYear (d.year + 1) := by
  have december : daysBeforeMonth d.year 13 = daysBeforeMonth d.year 12 + 31 :=
    daysBeforeMonth_succ (by decide)
  rw [dayNumber, month, day, daysBeforeYear_succ, ← daysBeforeMonth_thirteen, december]
  omega

def first : Date := ⟨-9999, 1, 1, by decide⟩

def last : Date := ⟨9999, 12, 31, by decide⟩

end Date

/-- The number is that of a day between the ends of the calendar. -/
def InCalendar (day : Int) : Prop := Date.first.dayNumber ≤ day ∧ day ≤ Date.last.dayNumber

instance (day : Int) : Decidable (InCalendar day) := inferInstanceAs (Decidable (_ ∧ _))

theorem inCalendar_iff {day : Int} :
    InCalendar day ↔ Date.daysBeforeYear (-9999) < day ∧ day ≤ Date.daysBeforeYear 10000 := by
  have early : Date.first.dayNumber = _ := Date.dayNumber_of_newYear rfl rfl
  have late : Date.last.dayNumber = _ := Date.dayNumber_of_yearEnd rfl rfl
  rw [InCalendar, early, late]
  exact Iff.rfl

namespace Date

variable {d e : Date}

theorem inCalendar (d : Date) : InCalendar d.dayNumber := by
  have year := d.isDay.1
  have early := daysBeforeYear_mono year.1
  have late := daysBeforeYear_mono (show d.year + 1 ≤ 10000 by omega)
  have positive := d.dayOfYear_pos
  have bound := d.dayNumber_le
  rw [inCalendar_iff]
  rw [dayNumber_eq] at *
  omega

/-! ## Walking along the calendar -/

/-- The step goes as many days ahead, unless the calendar does not reach there. -/
def Moves (step : Date → Option Date) (days : Int) : Prop :=
  ∀ d, (∃ e, step d = some e ∧ e.dayNumber = d.dayNumber + days) ∨
    step d = none ∧ ¬InCalendar (d.dayNumber + days)

theorem moves_next? : Moves next? 1 := by
  intro d
  have inside := d.isDay
  unfold next?
  split_ifs with withinMonth withinYear
  · have isDay : IsDay d.year d.month (d.day + 1) := by grind [IsDay]
    refine .inl ⟨⟨_, _, _, isDay⟩, dif_pos isDay, ?_⟩
    simp only [dayNumber]
    omega
  · have isDay : IsDay d.year (d.month + 1) 1 := by grind [IsDay, daysInMonth_pos]
    refine .inl ⟨⟨_, _, _, isDay⟩, dif_pos isDay, ?_⟩
    simp only [dayNumber, daysBeforeMonth_succ (Nat.ne_of_gt inside.2.1.1)]
    grind [IsDay]
  · have ending : d.month = 12 ∧ d.day = 31 := by grind [IsDay, daysInMonth]
    have number := dayNumber_of_yearEnd ending.1 ending.2
    by_cases final : d.year + 1 = 10000
    · refine .inr ⟨dif_neg (by grind [IsDay]), ?_⟩
      rw [inCalendar_iff, number, final]
      omega
    · have isDay : IsDay (d.year + 1) 1 1 := by grind [IsDay, daysInMonth]
      refine .inl ⟨⟨_, _, _, isDay⟩, dif_pos isDay, ?_⟩
      rw [number, dayNumber_of_newYear rfl rfl]

theorem moves_previous? : Moves previous? (-1) := by
  intro d
  have inside := d.isDay
  unfold previous?
  split_ifs with withinMonth withinYear
  · have isDay : IsDay d.year d.month (d.day - 1) := by grind [IsDay]
    refine .inl ⟨⟨_, _, _, isDay⟩, dif_pos isDay, ?_⟩
    simp only [dayNumber]
    omega
  · have isDay : IsDay d.year (d.month - 1) (daysInMonth d.year (d.month - 1)) := by
      grind [IsDay, daysInMonth_pos]
    have month := @daysBeforeMonth_succ d.year (d.month - 1) (by omega)
    rw [Nat.sub_add_cancel inside.2.1.1] at month
    refine .inl ⟨⟨_, _, _, isDay⟩, dif_pos isDay, ?_⟩
    simp only [dayNumber, month]
    grind [IsDay]
  · have beginning : d.month = 1 ∧ d.day = 1 := by grind [IsDay]
    have number := dayNumber_of_newYear beginning.1 beginning.2
    by_cases initial : d.year = -9999
    · refine .inr ⟨dif_neg (by grind [IsDay]), ?_⟩
      rw [inCalendar_iff, number, initial]
      omega
    · have isDay : IsDay (d.year - 1) 12 31 := by grind [IsDay, daysInMonth]
      refine .inl ⟨⟨_, _, _, isDay⟩, dif_pos isDay, ?_⟩
      rw [number, dayNumber_of_yearEnd rfl rfl, Int.sub_add_cancel]
      omega

/-- Repeated steps arrive at the date with the right number, if there is one. On the way there the
calendar does not end, because it ends before or behind both dates. -/
theorem Moves.walk?_eq_some_iff {step : Date → Option Date} {days : Int} (moves : Moves step days)
    (unit : days = 1 ∨ days = -1) (n : Nat) :
    walk? step n d = some e ↔ e.dayNumber = d.dayNumber + n * days := by
  induction n generalizing d with
  | zero => simp [walk?, eq_comm, dayNumber_injective.eq_iff]
  | succ n ih =>
    obtain ⟨next, taken, number⟩ | ⟨stuck, outside⟩ := moves d
    · rw [walk?, taken, Option.bind_some, ih, number]
      rcases unit with rfl | rfl <;> omega
    · have here := d.inCalendar
      have there := e.inCalendar
      unfold InCalendar at here there outside
      rw [walk?, stuck, Option.bind_none]
      simp only [reduceCtorEq, false_iff]
      rcases unit with rfl | rfl <;> omega

/-- The day that is so many days later has the number that is so much greater. -/
theorem addDays?_eq_some_iff {n : Int} :
    d.addDays? n = some e ↔ e.dayNumber = d.dayNumber + n := by
  unfold addDays?
  split
  · rw [moves_next?.walk?_eq_some_iff (.inl rfl)]
    omega
  · rw [moves_previous?.walk?_eq_some_iff (.inr rfl)]
    omega

/-- Every number between the ends of the calendar is that of a date. -/
theorem exists_dayNumber_eq {day : Int} (h : InCalendar day) : ∃ d : Date, d.dayNumber = day := by
  obtain ⟨n, rfl⟩ : ∃ n : Nat, day = first.dayNumber + n := ⟨(day - first.dayNumber).toNat, by
    have := h.1
    omega⟩
  induction n with
  | zero => exact ⟨first, by simp⟩
  | succ n ih =>
    obtain ⟨d, number⟩ := ih ⟨by omega, by have := h.2; omega⟩
    obtain ⟨e, -, next⟩ | ⟨-, outside⟩ := moves_next? d
    · exact ⟨e, by omega⟩
    · refine absurd ?_ outside
      rwa [number, Int.add_assoc]

end Date

end CrossSql.Calendar

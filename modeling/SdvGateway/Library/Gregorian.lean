import Mathlib.Algebra.BigOperators.Intervals
import Mathlib.Algebra.Order.BigOperators.Group.Finset
import Mathlib.Tactic.IntervalCases

/-! The Gregorian calendar, from 1 January of the year 0. Months count from 0 and
days from 1. -/
namespace SdvGateway.Library.Gregorian
open Finset

def isLeap (year : Nat) : Bool := year % 4 = 0 && (year % 100 ≠ 0 || year % 400 = 0)

def monthLength (year : Nat) : Nat → Nat
  | 1 => if isLeap year then 29 else 28
  | 3 | 5 | 8 | 10 => 30
  | _ => 31

def yearLength (year : Nat) : Nat := ∑ month ∈ range 12, monthLength year month

structure Date where
  year : Nat
  month : Nat
  day : Nat
  month_lt : month < 12
  day_pos : 0 < day
  day_le : day ≤ monthLength year month

theorem yearLength_eq (year : Nat) : yearLength year = if isLeap year then 366 else 365 := by
  simp only [yearLength, sum_range_succ, range_zero, sum_empty, monthLength]
  split <;> rfl

theorem isLeap_iff (year : Nat) :
    isLeap year = true ↔ year % 4 = 0 ∧ (year % 100 ≠ 0 ∨ year % 400 = 0) := by
  simp [isLeap]

theorem not_isLeap_iff (year : Nat) :
    ¬isLeap year = true ↔ year % 4 ≠ 0 ∨ year % 100 = 0 ∧ year % 400 ≠ 0 := by
  rw [isLeap_iff]
  omega

theorem sum_yearLength (year : Nat) :
    ∑ y ∈ range year, yearLength y + (year + 99) / 100 =
      365 * year + (year + 3) / 4 + (year + 399) / 400 := by
  induction year with
  | zero => rfl
  | succ year ih =>
    rw [sum_range_succ, yearLength_eq]
    split
    · next hleap =>
      rw [isLeap_iff] at hleap
      omega
    · next hcommon =>
      rw [not_isLeap_iff] at hcommon
      cases hcommon with
      | inl hfour =>
        have hfours : (year + 1 + 3) / 4 = (year + 3) / 4 := by omega
        have hcenturies : (year + 1 + 99) / 100 = (year + 99) / 100 := by omega
        have heras : (year + 1 + 399) / 400 = (year + 399) / 400 := by omega
        rw [hfours, hcenturies, heras]
        omega
      | inr hcentury => omega

namespace Date

def dayNumber (d : Date) : Nat :=
  ∑ year ∈ range d.year, yearLength year + ∑ month ∈ range d.month, monthLength d.year month +
    (d.day - 1)

def Before (d d' : Date) : Prop :=
  d.year < d'.year ∨ d.year = d'.year ∧
    (d.month < d'.month ∨ d.month = d'.month ∧ d.day < d'.day)

end Date

/-- What lies before one period and inside it ends where a later period begins. -/
theorem sum_add_lt {length : Nat → Nat} {n n' inside : Nat} (h : n < n')
    (hinside : inside < length n) :
    ∑ i ∈ range n, length i + inside < ∑ i ∈ range n', length i := by
  calc
    ∑ i ∈ range n, length i + inside < ∑ i ∈ range n, length i + length n := by omega
    _ = ∑ i ∈ range (n + 1), length i := (sum_range_succ length n).symm
    _ ≤ ∑ i ∈ range n', length i := sum_le_sum_of_subset (range_mono h)

theorem Date.dayNumber_lt {d d' : Date} (h : d.Before d') : d.dayNumber < d'.dayNumber := by
  have hday := d.day_pos
  have hlast := d.day_le
  have hday' := d'.day_pos
  unfold dayNumber
  rcases h with hyear | ⟨hyear, hmonth | ⟨hmonth, hdays⟩⟩
  · have hinside : ∑ month ∈ range d.month, monthLength d.year month + (d.day - 1) <
        yearLength d.year := sum_add_lt d.month_lt (by omega)
    have hbefore := sum_add_lt hyear hinside
    omega
  · have hbefore : ∑ month ∈ range d.month, monthLength d.year month + (d.day - 1) <
        ∑ month ∈ range d'.month, monthLength d.year month := sum_add_lt hmonth (by omega)
    rw [← hyear]
    omega
  · rw [← hyear, ← hmonth]
    omega

theorem monthLength_le (year month : Nat) : monthLength year month ≤ 31 := by
  unfold monthLength
  split
  · split <;> decide
  all_goals decide

theorem Date.day_le_thirtyOne (d : Date) : d.day ≤ 31 :=
  Nat.le_trans d.day_le (monthLength_le d.year d.month)

theorem Date.year_lt_of_dayNumber_lt {d : Date} {year : Nat}
    (h : d.dayNumber < ∑ y ∈ range year, yearLength y) : d.year < year := by
  by_contra hlate
  have hbefore : ∑ y ∈ range year, yearLength y ≤ ∑ y ∈ range d.year, yearLength y :=
    sum_le_sum_of_subset (range_mono (Nat.le_of_not_lt hlate))
  unfold dayNumber at h
  omega

theorem Date.before_or_same (d d' : Date) :
    d.Before d' ∨ (d.year = d'.year ∧ d.month = d'.month ∧ d.day = d'.day) ∨ d'.Before d := by
  unfold Before
  omega

theorem Date.before_of_dayNumber_lt {d d' : Date} (h : d.dayNumber < d'.dayNumber) :
    d.Before d' := by
  rcases d.before_or_same d' with hbefore | hsame | hafter
  · exact hbefore
  · exfalso
    unfold dayNumber at h
    rw [hsame.1, hsame.2.1, hsame.2.2] at h
    exact Nat.lt_irrefl _ h
  · exact absurd (dayNumber_lt hafter) (Nat.lt_asymm h)

theorem Date.same_of_dayNumber_eq {d d' : Date} (h : d.dayNumber = d'.dayNumber) :
    d.year = d'.year ∧ d.month = d'.month ∧ d.day = d'.day := by
  rcases d.before_or_same d' with hbefore | hsame | hafter
  · exact absurd h (Nat.ne_of_lt (dayNumber_lt hbefore))
  · exact hsame
  · exact absurd h.symm (Nat.ne_of_lt (dayNumber_lt hafter))

/-! Years that begin in March end with the leap day, and their months begin at
regular distances. -/

def marchMonth (day : Nat) : Nat := (5 * day + 2) / 153

def beforeMarchMonth (month : Nat) : Nat := (153 * month + 2) / 5

theorem beforeMarchMonth_le (day : Nat) : beforeMarchMonth (marchMonth day) ≤ day := by
  unfold beforeMarchMonth marchMonth
  omega

theorem monthLength_march (year : Nat) {month : Nat} (h : month < 10) :
    beforeMarchMonth month + monthLength year (month + 2) = beforeMarchMonth (month + 1) := by
  interval_cases month <;> rfl

theorem february_eq (year : Nat) : monthLength year 1 = if isLeap year then 29 else 28 := rfl

theorem yearLength_february (year : Nat) : yearLength year = monthLength year 1 + 337 := by
  rw [yearLength_eq, february_eq]
  split <;> rfl

theorem sum_yearLength_era (era : Nat) {year : Nat} (h : year < 400) :
    ∑ y ∈ range (year + 400 * era + 1), yearLength y =
      146097 * era + (365 * year + year / 4 - year / 100) + 366 := by
  have hyears := sum_yearLength (year + 400 * era + 1)
  omega

theorem sum_monthLength_march (year : Nat) {month : Nat} (h : month ≤ 10) :
    ∑ m ∈ range (month + 2), monthLength year m =
      31 + monthLength year 1 + beforeMarchMonth month := by
  induction month with
  | zero => rfl
  | succ month ih =>
    have hmonth := monthLength_march year h
    rw [sum_range_succ, ih (by omega)]
    omega

/-- A year of the era of 400 years and a day of that year, both from March on. -/
structure MarchDay where
  era : Nat
  year : Nat
  day : Nat
  year_lt : year < 400
  day_le : day ≤ 364 ∨ day = 365 ∧ isLeap (year + 1) = true

theorem isLeap_add_era (year era : Nat) : isLeap (year + 400 * era) = isLeap year := by
  rw [Bool.eq_iff_iff, isLeap_iff, isLeap_iff]
  omega

namespace MarchDay

theorem marchMonth_lt (m : MarchDay) : marchMonth m.day < 12 := by
  have hday := m.day_le
  unfold marchMonth
  omega

theorem day_le_of_winter (m : MarchDay) (h : ¬marchMonth m.day < 10) :
    m.day - beforeMarchMonth (marchMonth m.day) + 1 ≤
      monthLength (m.year + 400 * m.era + 1) (marchMonth m.day - 10) := by
  have hmonth := m.marchMonth_lt
  have hday := m.day_le
  have hwinter : marchMonth m.day = 10 ∨ marchMonth m.day = 11 := by omega
  cases hwinter with
  | inl hjanuary =>
    have hlength : monthLength (m.year + 400 * m.era + 1) 0 = 31 := rfl
    rw [hjanuary, Nat.sub_self, hlength]
    unfold marchMonth at hjanuary
    unfold beforeMarchMonth
    omega
  | inr hfebruary =>
    rw [hfebruary]
    change _ ≤ monthLength _ 1
    rw [february_eq, Nat.add_right_comm, isLeap_add_era]
    unfold beforeMarchMonth
    split
    · omega
    · next hcommon =>
      have hshort : m.day ≤ 364 := hday.resolve_right fun h => hcommon h.2
      omega

def dayNumber (m : MarchDay) : Nat :=
  146097 * m.era + (365 * m.year + m.year / 4 - m.year / 100) + m.day

def date (m : MarchDay) : Date :=
  if h : marchMonth m.day < 10 then
    { year := m.year + 400 * m.era
      month := marchMonth m.day + 2
      day := m.day - beforeMarchMonth (marchMonth m.day) + 1
      month_lt := by omega
      day_pos := by omega
      day_le := by
        have hlength := monthLength_march (m.year + 400 * m.era) h
        unfold beforeMarchMonth marchMonth at *
        omega }
  else
    { year := m.year + 400 * m.era + 1
      month := marchMonth m.day - 10
      day := m.day - beforeMarchMonth (marchMonth m.day) + 1
      month_lt := by
        have hmonth := m.marchMonth_lt
        omega
      day_pos := by omega
      day_le := m.day_le_of_winter h }

theorem date_year (m : MarchDay) :
    m.date.year = m.year + 400 * m.era + if marchMonth m.day < 10 then 0 else 1 := by
  unfold date
  split <;> rfl

theorem date_month (m : MarchDay) :
    m.date.month =
      if marchMonth m.day < 10 then marchMonth m.day + 2 else marchMonth m.day - 10 := by
  unfold date
  split <;> rfl

theorem date_day (m : MarchDay) :
    m.date.day = m.day - beforeMarchMonth (marchMonth m.day) + 1 := by
  unfold date
  split <;> rfl

theorem dayNumber_date (m : MarchDay) : m.date.dayNumber = m.dayNumber + 60 := by
  have hmonth := m.marchMonth_lt
  have hbegun := beforeMarchMonth_le m.day
  have hyears := sum_yearLength_era m.era m.year_lt
  unfold date
  split
  · next h =>
    rw [sum_range_succ, yearLength_february] at hyears
    simp only [Date.dayNumber, dayNumber]
    rw [sum_monthLength_march _ (Nat.le_of_lt h)]
    omega
  · next h =>
    simp only [Date.dayNumber, dayNumber]
    have hmonths : ∑ month ∈ range (marchMonth m.day - 10),
        monthLength (m.year + 400 * m.era + 1) month + 306 =
          beforeMarchMonth (marchMonth m.day) := by
      have hwinter : marchMonth m.day = 10 ∨ marchMonth m.day = 11 := by omega
      cases hwinter with
      | inl hjanuary =>
        rw [hjanuary]
        rfl
      | inr hfebruary =>
        rw [hfebruary]
        rfl
    omega

end MarchDay

end SdvGateway.Library.Gregorian

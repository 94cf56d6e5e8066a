import SdvGateway.Common.Timestamp
import SdvGateway.Library.FixedWidth
import SdvGateway.Library.Gregorian

/-! Time stamps are sort keys of the tables. The broken-down time is that of the
Gregorian calendar, and its text sorts as the time does. -/
namespace SdvGateway.Common.TimestampOrder
open Library Gregorian FixedWidth

def eraYear (doe : Nat) : Nat := (doe - doe / 1460 + doe / 36524 - doe / 146096) / 365

private theorem exists_eraYear_parts {doe : Nat} (h : doe < 146097) :
    ∃ c q j r, c ≤ 3 ∧ q ≤ 24 ∧ j ≤ 3 ∧
      (r ≤ 364 ∨ r = 365 ∧ j = 3 ∧ (q < 24 ∨ c = 3)) ∧
      doe = 36524 * c + 1461 * q + 365 * j + r := by
  by_cases hlast : doe = 146096
  · exact ⟨3, 24, 3, 365, by omega⟩
  · refine ⟨doe / 36524, doe % 36524 / 1461, min (doe % 36524 % 1461 / 365) 3,
      doe % 36524 % 1461 - 365 * min (doe % 36524 % 1461 / 365) 3, ?_⟩
    omega

private theorem eraYear_parts {c q j r doe : Nat} (hc : c ≤ 3) (hq : q ≤ 24) (hj : j ≤ 3)
    (hr : r ≤ 364 ∨ r = 365 ∧ j = 3 ∧ (q < 24 ∨ c = 3))
    (hdoe : doe = 36524 * c + 1461 * q + 365 * j + r) : eraYear doe = 100 * c + 4 * q + j := by
  have hlast : doe / 146096 = 0 ∨ c = 3 ∧ q = 24 ∧ j = 3 ∧ r = 365 := by omega
  have hcentury : doe / 36524 = c ∨ c = 3 ∧ q = 24 ∧ j = 3 ∧ r = 365 := by omega
  have hfour : doe / 1460 = 25 * c + q ∨
      doe / 1460 = 25 * c + q + 1 ∧ 1460 ≤ 24 * c + q + 365 * j + r := by omega
  unfold eraYear
  omega

theorem eraYear_spec {doe : Nat} (h : doe < 146097) :
    eraYear doe < 400 ∧
      365 * eraYear doe + eraYear doe / 4 - eraYear doe / 100 ≤ doe ∧
      (doe - (365 * eraYear doe + eraYear doe / 4 - eraYear doe / 100) ≤ 364 ∨
        doe - (365 * eraYear doe + eraYear doe / 4 - eraYear doe / 100) = 365 ∧
          isLeap (eraYear doe + 1) = true) := by
  obtain ⟨c, q, j, r, hc, hq, hj, hr, hdoe⟩ := exists_eraYear_parts h
  have hleapYears : (100 * c + 4 * q + j) / 4 = 25 * c + q := by omega
  have hcenturies : (100 * c + 4 * q + j) / 100 = c := by omega
  rw [eraYear_parts hc hq hj hr hdoe, isLeap_iff, hleapYears, hcenturies]
  omega

def marchDay (days : Nat) : MarchDay where
  era := days / 146097
  year := eraYear (days % 146097)
  day := days % 146097 - (365 * eraYear (days % 146097) + eraYear (days % 146097) / 4 -
    eraYear (days % 146097) / 100)
  year_lt := (eraYear_spec (Nat.mod_lt _ (by decide))).1
  day_le := (eraYear_spec (Nat.mod_lt _ (by decide))).2.2

private theorem dayNumber_marchDay (days : Nat) : (marchDay days).dayNumber = days := by
  have hspec := eraYear_spec (Nat.mod_lt days (show 146097 > 0 by decide))
  unfold MarchDay.dayNumber marchDay
  dsimp only
  omega

def dateOf (t : Nat) : Date := (marchDay (t / 86400 + 719468)).date

theorem dayNumber_dateOf (t : Nat) : (dateOf t).dayNumber = t / 86400 + 719528 := by
  rw [dateOf, MarchDay.dayNumber_date, dayNumber_marchDay]

private theorem marchDay_eq {n : Nat} {days doe yoe : Int} (hdays : days = n)
    (hdoe : doe = days.fmod 146097)
    (hyoe : yoe = (doe - doe / 1460 + doe / 36524 - doe / 146096) / 365) :
    days.fdiv 146097 = (marchDay n).era ∧ yoe = (marchDay n).year ∧
      doe - (365 * yoe + yoe / 4 - yoe / 100) = (marchDay n).day := by
  have hspec := eraYear_spec (Nat.mod_lt n (show 146097 > 0 by decide))
  rw [Int.fmod_eq_emod_of_nonneg _ (by decide)] at hdoe
  have hdoeNat : doe = ((n % 146097 : Nat) : Int) := by omega
  have hyoeNat : yoe = ((eraYear (n % 146097) : Nat) : Int) := by
    rw [hyoe, hdoeNat, eraYear]
    omega
  rw [Int.fdiv_eq_ediv_of_nonneg _ (by decide), hyoeNat, hdoeNat, hdays]
  unfold marchDay
  dsimp only
  omega

theorem gmtime_eq (t : Nat) :
    gmtime t = { year := ((dateOf t).year : Int) - 1900
                 mon := (dateOf t).month
                 mday := (dateOf t).day
                 hour := (t % 86400 / 3600 : Nat)
                 min := (t % 86400 / 60 % 60 : Nat)
                 sec := (t % 86400 % 60 : Nat) } := by
  have hdays : (t : Int).fdiv 86400 + 719468 = ((t / 86400 + 719468 : Nat) : Int) := by
    rw [Int.fdiv_eq_ediv_of_nonneg _ (by decide)]
    omega
  have hrest : (t : Int).fmod 86400 = ((t % 86400 : Nat) : Int) := by
    rw [Int.fmod_eq_emod_of_nonneg _ (by decide)]
    omega
  obtain ⟨hera, hyoe, hday⟩ := marchDay_eq hdays rfl rfl
  rw [gmtime]
  simp only [hdays, hrest] at hera hyoe hday ⊢
  simp only [hera, hyoe] at hday ⊢
  rw [hday]
  rw [dateOf, MarchDay.date_year, MarchDay.date_month, MarchDay.date_day]
  generalize marchDay (t / 86400 + 719468) = m
  have hmonth : (5 * (m.day : Int) + 2) / 153 = (marchMonth m.day : Int) := by
    unfold marchMonth
    omega
  have hbegun := beforeMarchMonth_le m.day
  have hbefore : (153 * (marchMonth m.day : Int) + 2) / 5 =
      (beforeMarchMonth (marchMonth m.day) : Int) := by
    unfold beforeMarchMonth
    omega
  rw [hmonth, hbefore, Tm.mk.injEq]
  by_cases h : marchMonth m.day < 10
  · have hcast : (marchMonth m.day : Int) < 10 := by omega
    rw [if_pos hcast, if_pos h, if_pos h]
    omega
  · have hcast : ¬(marchMonth m.day : Int) < 10 := by omega
    have hwinter := m.marchMonth_lt
    rw [if_neg hcast, if_neg h, if_neg h]
    omega

def asciiDigit (n : Nat) : UInt8 := UInt8.ofNat (0x30 + n)

theorem asciiDigit_lt (a b : Nat) (h : a < b) (hb : b < 10) : asciiDigit a < asciiDigit b := by
  rw [UInt8.lt_iff_toNat_lt, asciiDigit, asciiDigit, UInt8.toNat_ofNat', UInt8.toNat_ofNat']
  omega

theorem natText_eq (n : Nat) :
    natText n = if n < 10 then [asciiDigit n] else natText (n / 10) ++ [asciiDigit (n % 10)] := by
  have hdigit : ∀ d < 10, UInt8.ofNat (Nat.digitChar d).toNat = asciiDigit d := by decide
  unfold natText
  rw [Nat.toDigits_eq_if (by decide)]
  split
  · next h => rw [List.map_singleton, hdigit n h]
  · rw [List.map_append, List.map_singleton, hdigit _ (Nat.mod_lt _ (by decide))]

private theorem replicate_natText {width n : Nat} (hpos : 0 < width) (h : n < 10 ^ width) :
    List.replicate (width - (natText n).length) 0x30 ++ natText n =
      digits 10 asciiDigit width n := by
  induction width generalizing n with
  | zero => omega
  | succ width ih =>
    rw [Nat.pow_succ] at h
    have hhigh : n / 10 < 10 ^ width := by omega
    rw [digits, natText_eq]
    cases width with
    | zero =>
      have hsmall : n < 10 := by omega
      rw [if_pos hsmall, Nat.mod_eq_of_lt hsmall]
      rfl
    | succ width =>
      rw [← ih (Nat.succ_pos width) hhigh]
      split
      · next hsmall =>
        have hzero : natText 0 = [0x30] := rfl
        rw [Nat.div_eq_of_lt hsmall, Nat.mod_eq_of_lt hsmall, hzero]
        simp [List.replicate_succ']
      · simp

theorem padded_eq {width n : Nat} (hpos : 0 < width) (h : n < 10 ^ width) :
    padded width n = digits 10 asciiDigit width n := by
  have hsign : ¬(n : Int) < 0 := by omega
  rw [← replicate_natText hpos h, padded]
  simp only [hsign, if_false, Int.natAbs_natCast]

def layout : List (Nat × Str) :=
  [(4, lit "-"), (2, lit "-"), (2, lit "T"), (2, lit ":"), (2, lit ":"), (2, lit "."), (3, lit "Z")]

def fields (ms : Nat) : List Nat :=
  [(dateOf (ms / 1000)).year, (dateOf (ms / 1000)).month + 1, (dateOf (ms / 1000)).day,
    ms / 1000 % 86400 / 3600, ms / 1000 % 86400 / 60 % 60, ms / 1000 % 86400 % 60, ms % 1000]

def limit : Nat := 253402300800000

theorem year_lt {ms : Nat} (h : ms < limit) : (dateOf (ms / 1000)).year < 10000 := by
  have hyears := sum_yearLength 10000
  have hdays := dayNumber_dateOf (ms / 1000)
  unfold limit at h
  apply Date.year_lt_of_dayNumber_lt
  omega

theorem fits_fields {ms : Nat} (h : ms < limit) : FixedWidth.Fits 10 layout (fields ms) := by
  have hyear := year_lt h
  have hmonth := (dateOf (ms / 1000)).month_lt
  have hday := (dateOf (ms / 1000)).day_le_thirtyOne
  unfold FixedWidth.Fits layout fields
  simp only [List.forall₂_cons, List.Forall₂.nil, and_true]
  omega

theorem fields_lt {ms ms' : Nat} (h : ms < ms') : fields ms < fields ms' := by
  have hdays := dayNumber_dateOf (ms / 1000)
  have hdays' := dayNumber_dateOf (ms' / 1000)
  unfold fields
  simp only [List.cons_lt_cons_iff]
  by_cases hsame : ms / 1000 / 86400 = ms' / 1000 / 86400
  · obtain ⟨hyear, hmonth, hday⟩ :=
      Date.same_of_dayNumber_eq (hdays.trans ((congrArg (· + 719528) hsame).trans hdays'.symm))
    rw [hyear, hmonth, hday]
    omega
  · have hbefore := Date.before_of_dayNumber_lt
      (show (dateOf (ms / 1000)).dayNumber < (dateOf (ms' / 1000)).dayNumber by omega)
    unfold Date.Before at hbefore
    omega

private theorem text_eq {year month day hour min sec ms : Nat}
    (hfits : FixedWidth.Fits 10 layout [year, month, day, hour, min, sec, ms]) :
    (padded 4 year ++ lit "-" ++ padded 2 month ++ lit "-" ++ padded 2 day ++ lit "T" ++
        padded 2 hour ++ lit ":" ++ padded 2 min ++ lit ":" ++ padded 2 sec ++ lit "." ++
        padded 3 ms ++ lit "Z").take 31 =
      render 10 asciiDigit layout [year, month, day, hour, min, sec, ms] := by
  unfold FixedWidth.Fits layout at hfits
  simp only [List.forall₂_cons, List.Forall₂.nil, and_true] at hfits
  obtain ⟨hyear, hmonth, hday, hhour, hmin, hsec, hms⟩ := hfits
  rw [padded_eq (by decide) hyear, padded_eq (by decide) hmonth, padded_eq (by decide) hday,
    padded_eq (by decide) hhour, padded_eq (by decide) hmin, padded_eq (by decide) hsec,
    padded_eq (by decide) hms]
  have hsigns : (lit "-").length = 1 ∧ (lit "T").length = 1 ∧ (lit ":").length = 1 ∧
      (lit ".").length = 1 ∧ (lit "Z").length = 1 := by decide +kernel
  rw [List.take_of_length_le (by simp [hsigns])]
  simp only [render, layout, List.append_assoc, List.append_nil]

theorem iso8601Utc_eq {tp : Nat} (h : tp / 1000000 < limit) :
    iso8601Utc tp = render 10 asciiDigit layout (fields (tp / 1000000)) := by
  have hms : ((tp : Int).tdiv 1000000).tmod 1000 = ((tp / 1000000 % 1000 : Nat) : Int) := by
    rw [Int.tdiv_eq_ediv_of_nonneg (by omega), Int.tmod_eq_emod_of_nonneg (by omega)]
    omega
  have hseconds : (tp : Int).tdiv 1000000000 = ((tp / 1000000 / 1000 : Nat) : Int) := by
    rw [Int.tdiv_eq_ediv_of_nonneg (by omega)]
    omega
  rw [fields, ← text_eq (fits_fields h), iso8601Utc]
  simp only [hms, hseconds, gmtime_eq, Int.sub_add_cancel, Int.natCast_succ]

/-- The end of the year 9999, in nanoseconds. -/
def endOfTime : Int := 253402300800000000000

theorem iso8601Utc_lt {t1 t2 : Int} (h1 : 0 ≤ t1) (h2 : t2 < endOfTime)
    (h : t1 / 1000000 < t2 / 1000000) : iso8601Utc t1 < iso8601Utc t2 := by
  unfold endOfTime at h2
  obtain ⟨tp1, rfl⟩ := Int.eq_ofNat_of_zero_le h1
  obtain ⟨tp2, rfl⟩ := Int.eq_ofNat_of_zero_le (show 0 ≤ t2 by omega)
  have hlimit1 : tp1 / 1000000 < limit := by
    unfold limit
    omega
  have hlimit2 : tp2 / 1000000 < limit := by
    unfold limit
    omega
  have hms : tp1 / 1000000 < tp2 / 1000000 := by omega
  rw [iso8601Utc_eq hlimit1, iso8601Utc_eq hlimit2]
  exact render_lt asciiDigit_lt (fits_fields hlimit1) (fits_fields hlimit2) (fields_lt hms)

/-- Time stamps from 1970 to 9999 sort as their milliseconds do. -/
theorem iso8601Utc_order {t1 t2 : Int} (h1 : 0 ≤ t1) (h1' : t1 < 253402300800000000000)
    (h2 : 0 ≤ t2) (h2' : t2 < 253402300800000000000) :
    (iso8601Utc t1 < iso8601Utc t2 ↔ t1 / 1000000 < t2 / 1000000) ∧
      (iso8601Utc t1 = iso8601Utc t2 ↔ t1 / 1000000 = t2 / 1000000) := by
  obtain ⟨tp1, rfl⟩ := Int.eq_ofNat_of_zero_le h1
  obtain ⟨tp2, rfl⟩ := Int.eq_ofNat_of_zero_le h2
  have hlimit1 : tp1 / 1000000 < limit := by
    unfold limit
    omega
  have hlimit2 : tp2 / 1000000 < limit := by
    unfold limit
    omega
  rw [iso8601Utc_eq hlimit1, iso8601Utc_eq hlimit2]
  have hlt {ms ms' : Nat} (hms : ms < limit) (hms' : ms' < limit) (h : ms < ms') :
      render 10 asciiDigit layout (fields ms) < render 10 asciiDigit layout (fields ms') :=
    render_lt asciiDigit_lt (fits_fields hms) (fits_fields hms') (fields_lt h)
  have hne {a b : Str} (h : a < b) : a ≠ b := by
    rintro rfl
    exact List.lt_irrefl a h
  rcases Nat.lt_trichotomy (tp1 / 1000000) (tp2 / 1000000) with h | h | h
  · have htext := hlt hlimit1 hlimit2 h
    exact ⟨iff_of_true htext (by omega), iff_of_false (hne htext) (by omega)⟩
  · rw [h]
    exact ⟨iff_of_false (List.lt_irrefl _) (by omega), iff_of_true rfl (by omega)⟩
  · have htext := hlt hlimit2 hlimit1 h
    exact ⟨iff_of_false (List.lt_asymm htext) (by omega),
      iff_of_false (fun heq => hne htext heq.symm) (by omega)⟩

theorem iso8601Utc_order_leap_day :
    iso8601Utc 1709251199999000000 < iso8601Utc 1709251200000000000 :=
  (iso8601Utc_order (by decide) (by decide) (by decide) (by decide)).1.mpr (by decide)

end SdvGateway.Common.TimestampOrder

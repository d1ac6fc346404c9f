import SpaceVeins.SGP4Mobility
import SpaceVeins.Shared.Calendar

/-!
# Dates, days of the year and Julian dates

`jday_SGP4`, `days2mdhms_SGP4` and `invjday_SGP4` take every fourth year for a leap
year. With that calendar they fit together for all years; the calendar of the
simulated world agrees with it from March 1900 to February 2100. The arithmetic is
exact here; where doubles round the fraction of a day, the hours and minutes can be
those of a moment just before.
-/

set_option autoImplicit false

namespace SpaceVeins
open Calendar

namespace DateTime
variable {K : Type} [Field K]

omit [Field K] in
protected theorem ext {d d' : DateTime K} (hyear : d.year = d'.year) (hmon : d.mon = d'.mon)
    (hday : d.day = d'.day) (hhour : d.hour = d'.hour) (hmin : d.min = d'.min)
    (hsec : d.sec = d'.sec) : d = d' := by
  cases d
  cases d'
  simp_all

def date (d : DateTime K) : Date := ⟨d.year, d.mon, d.day⟩

/-- The part of the day that has passed. -/
def dayFraction (d : DateTime K) : K := (d.sec + d.min * 60.0 + d.hour * 3600.0) / 86400.0

/-- A time of the day on a clock. -/
structure Clock [LinearOrder K] (d : DateTime K) : Prop where
  hour_nonneg : 0 ≤ d.hour
  hour_lt : d.hour < 24
  min_nonneg : 0 ≤ d.min
  min_lt : d.min < 60
  sec_nonneg : 0 ≤ d.sec
  sec_lt : d.sec < 60.0

end DateTime

namespace SGP4Mobility
variable {K : Type} [Field K] [LinearOrder K] [FloorRing K]

/-- The check for several days in the fraction. -/
def multipleDays (jd jdfrac : K) : K × K :=
  if 1.0 ≤ |jdfrac| then (jd + ⌊jdfrac⌋, jdfrac - ⌊jdfrac⌋) else (jd, jdfrac)

/-- How far a Julian date is from midnight. -/
def midnightOffset (jd : K) : K := jd - ⌊jd⌋ - 0.5

/-- The check for a part of a day in the first number. -/
def fractionIncluded (jd jdfrac : K) : K × K :=
  let dt := midnightOffset jd
  if 0.00000001 < |dt| then (jd - dt, jdfrac + dt) else (jd, jdfrac)

def daysIn (temp : K) (year : Int) : Int :=
  let leapyrs : Int := ⌊((year - 1901 : Int) : K) * 0.25⌋
  ⌊temp - (((year - 1900 : Int) : K) * 365.0 + leapyrs)⌋

def invjday_SGP4 (jd jdfrac : K) : DateTime K :=
  let (jd, jdfrac) := multipleDays jd jdfrac
  let (jd, jdfrac) := fractionIncluded jd jdfrac
  let temp := jd - 2415019.5
  let tu := temp / 365.25
  let year := 1900 + ⌊tu⌋
  let year := if daysIn temp year + jdfrac < 1.0 then year - 1 else year
  days2mdhms_SGP4 year (daysIn temp year + jdfrac)

/-- The number of a day in the formula of `jday_SGP4`. -/
def dayNumber (d : Date) : Int :=
  367 * d.year - 7 * (d.year + (d.month + 9) / 12) / 4 + 275 * d.month / 9 + d.day

/-- The number of the last day before a month; the month after December is the thirteenth. -/
def monthNumber (year month : Int) : Int := dayNumber ⟨year, month, 0⟩

/-- The instant that a Julian date in two parts denotes. -/
def instant (jd : K × K) : K := jd.1 + jd.2

/-- The instant of a day number. -/
def numberInstant (number : Int) : K := number + 1721013.5

section
variable [IsStrictOrderedRing K]

theorem floor_intCast_div (a : Int) (n : Nat) : ⌊(a : K) / n⌋ = a / n := by
  rw [Int.floor_div_natCast, Int.floor_intCast]

theorem floor_jday_month (mon : Int) : ⌊((mon + 9 : Int) : K) / 12⌋ = (mon + 9) / 12 := by
  have h := floor_intCast_div (K := K) (mon + 9) 12
  simpa only [Nat.cast_ofNat] using h

theorem jday_eq (d : DateTime K) : jday_SGP4 d =
    if 1 < |d.dayFraction| then
      ((numberInstant (dayNumber d.date) : K) + ⌊d.dayFraction⌋,
        d.dayFraction - ⌊d.dayFraction⌋)
    else (numberInstant (dayNumber d.date), d.dayFraction) := by
  have hmonth := floor_jday_month (K := K) d.mon
  have hyear : ⌊(7 * ((d.year : K) + ((d.mon + 9) / 12 : Int)) : K) * (1 / 4)⌋ =
      7 * (d.year + (d.mon + 9) / 12) / 4 := by
    have h := floor_intCast_div (K := K) (7 * (d.year + (d.mon + 9) / 12)) 4
    simp only [Nat.cast_ofNat] at h
    rw [← h]
    push_cast
    ring_nf
  have hday : ⌊((275 * d.mon : Int) : K) / 9⌋ = 275 * d.mon / 9 := by
    have h := floor_intCast_div (K := K) (275 * d.mon) 9
    simpa only [Nat.cast_ofNat] using h
  have hjd : (367 * (d.year : K) -
      ⌊(7 * ((d.year : K) + ⌊((d.mon + 9 : Int) : K) / 12⌋) : K) * (1 / 4)⌋ +
      ⌊((275 * d.mon : Int) : K) / 9⌋ + (d.day : K) + 17210135 / 10 : K) =
      numberInstant (dayNumber d.date) := by
    rw [hmonth, hyear, hday, numberInstant, dayNumber, DateTime.date]
    push_cast
    norm_num
  have hfrac : (d.sec + d.min * 60 + d.hour * 3600) / 86400 = d.dayFraction := by
    rw [DateTime.dayFraction]
    norm_num
  unfold jday_SGP4
  simp only [hjd, hfrac]

theorem instant_jday (d : DateTime K) :
    instant (jday_SGP4 d) = numberInstant (dayNumber d.date) + d.dayFraction := by
  rw [jday_eq, instant]
  split_ifs
  · ring
  · rfl

end

theorem dayNumber_eq (d : Date) : dayNumber d = monthNumber d.year d.month + d.day := by
  simp [monthNumber, dayNumber]

theorem seven_quarters (year : Int) : 7 * year / 4 = 2 * year - 1 - (year - 1) / 4 := by
  have hmod : year % 4 = 0 ∨ year % 4 = 1 ∨ year % 4 = 2 ∨ year % 4 = 3 := by omega
  rcases hmod with hmod | hmod | hmod | hmod <;> omega

/-- January and February count with the leap day of the year before, the others with their own. -/
theorem monthNumber_eq (year : Int) {month : Int} (hpos : 1 ≤ month) (hle : month ≤ 13) :
    monthNumber year month = 365 * year +
      (if month ≤ 2 then (year - 1) / 4 + 1 else year / 4 - 1) + 275 * month / 9 := by
  rw [monthNumber, dayNumber, seven_quarters]
  split_ifs with hmonth
  · have hzero : (month + 9) / 12 = 0 := by omega
    simp only [hzero]
    omega
  · have hone : (month + 9) / 12 = 1 := by omega
    simp only [hone]
    omega

theorem monthNumber_one (year : Int) : monthNumber year 1 = 365 * year + (year - 1) / 4 + 31 := by
  rw [monthNumber_eq year (le_refl 1) (by decide)]
  norm_num
  omega

theorem monthNumber_succ (year : Int) {month : Int} (hpos : 1 ≤ month) (hle : month ≤ 12) :
    monthNumber year (month + 1) =
      monthNumber year month + monthLength JulianLeap year month := by
  have hleap : JulianLeap year ↔ year % 4 = 0 := Int.dvd_iff_emod_eq_zero
  rw [monthNumber_eq year (by omega) (by omega), monthNumber_eq year hpos (by omega)]
  simp only [monthLength, hleap]
  interval_cases month <;> norm_num <;> (try split_ifs) <;> omega

theorem monthNumber_newYear (year : Int) : monthNumber (year + 1) 1 = monthNumber year 13 := by
  rw [monthNumber_one, monthNumber_eq year (by decide) (le_refl 13)]
  norm_num
  omega

theorem monthNumber_mono (year : Int) {month month' : Int} (hpos : 1 ≤ month)
    (h : month ≤ month') (hle : month' ≤ 13) :
    monthNumber year month ≤ monthNumber year month' := by
  induction month', h using Int.leInduction with
  | base => exact le_rfl
  | succ month' h ih =>
    have hlength := one_le_monthLength JulianLeap year month'
    rw [monthNumber_succ year (by omega) (by omega)]
    exact (ih (by omega)).trans (by omega)

/-- A Julian date grows by one from each day to the next if every fourth year is a leap year. -/
theorem dayNumber_next {d : Date} (h : d.Valid JulianLeap) :
    dayNumber (d.next JulianLeap) = dayNumber d + 1 := by
  obtain ⟨hpos, hle, _, hlength⟩ := h
  rw [dayNumber_eq d]
  unfold Date.next
  split_ifs with hlast hmonth
  · rw [dayNumber_eq]
    ring
  · rw [dayNumber_eq, monthNumber_succ d.year hpos hle]
    simp only
    omega
  · have htwelve : d.month = 12 := by omega
    have hsucc := monthNumber_succ d.year hpos hle
    rw [dayNumber_eq, monthNumber_newYear]
    rw [htwelve] at hsucc hlast hlength ⊢
    norm_num at hsucc
    simp only
    omega

theorem eq_of_dayNumber_eq {d d' : Date} (h : d.Valid JulianLeap) (h' : d'.Valid JulianLeap)
    (hyear : d.year = d'.year) (hnumber : dayNumber d = dayNumber d') : d = d' := by
  -- An earlier month ends before a later one begins.
  have before : ∀ {d d' : Date}, d.Valid JulianLeap → d'.Valid JulianLeap → d.year = d'.year →
      d.month < d'.month → dayNumber d < dayNumber d' := by
    intro d d' h h' hyear hlt
    have hsucc := monthNumber_succ d.year h.month_pos h.month_le
    have hmono := monthNumber_mono d.year (by have := h.month_pos; omega) hlt
      (by have := h'.month_le; omega)
    have hlast := h.day_le
    have hfirst := h'.day_pos
    rw [dayNumber_eq, dayNumber_eq, ← hyear]
    omega
  rcases lt_trichotomy d.month d'.month with hlt | heq | hlt
  · have := before h h' hyear hlt
    omega
  · rw [dayNumber_eq, dayNumber_eq, hyear, heq] at hnumber
    exact Date.ext hyear heq (by omega)
  · have := before h' h hyear.symm hlt
    omega

theorem lmonth_length (year : Int) : (lmonth year).length = 12 := rfl

theorem lmonth_eq (year : Int) {k : Nat} (hk : k < 12) :
    (lmonth year)[k]? = some (monthLength JulianLeap year (k + 1)) := by
  have hleap : JulianLeap year ↔ Int.tmod year 4 = 0 := Int.dvd_iff_tmod_eq_zero
  simp only [lmonth, monthLength, hleap]
  interval_cases k <;> simp

/-- The loop finds the month that a day of the year lies in; the sums are the last days before
the months. -/
theorem findMonth_spec (number : Int → Int) (dayofyr : Int) (months : List Int)
    (i inttemp : Int) (hne : months ≠ []) (hmonths : ∀ k : Nat, k + 1 < months.length →
      months[k]? = some (number (i + k + 1) - number (i + k))) (hstart : inttemp = number i) :
    ∃ mon, findMonth dayofyr months i inttemp = (mon, number mon) ∧ i ≤ mon ∧
      mon < i + months.length ∧ (i < mon → number mon < dayofyr) ∧
      (mon + 1 < i + months.length → dayofyr ≤ number (mon + 1)) := by
  induction months, i, inttemp using findMonth.induct dayofyr with
  | case1 m n rest i inttemp hlt ih =>
    have hfirst := hmonths 0 (by simp)
    simp at hfirst
    obtain ⟨mon, hfind, hle, hlast, hbefore, hafter⟩ := ih (by simp)
      (fun k hk => by
        have h := hmonths (k + 1) (by simpa using hk)
        push_cast at h
        simpa [add_assoc, add_comm, add_left_comm] using h) (by omega)
    refine ⟨mon, by rw [findMonth, if_pos hlt, hfind], by omega, ?_, fun _ => ?_, fun h => ?_⟩
    · simp at hlast ⊢
      omega
    · rcases hle.eq_or_lt with heq | hlt
      · rw [← heq]
        omega
      · exact hbefore hlt
    · exact hafter (by simp at h ⊢; omega)
  | case2 m n rest i inttemp hlt =>
    have hfirst := hmonths 0 (by simp)
    simp at hfirst
    refine ⟨i, by rw [findMonth, if_neg hlt, hstart], le_rfl, by simp; omega, ?_, fun _ => ?_⟩
    · omega
    · omega
  | case3 months i inttemp hshort =>
    obtain ⟨m, rfl⟩ : ∃ m, months = [m] := by
      match months, hne, hshort with
      | [m], _, _ => exact ⟨m, rfl⟩
      | m :: n :: rest, _, hshort => exact (hshort m n rest rfl).elim
    exact ⟨i, by rw [findMonth, hstart]; simp, le_rfl, by simp, by simp, by simp⟩

/-- The day and the time that `days2mdhms_SGP4` finds in a year. -/
structure DayOfYear (year : Int) (days : K) (d : DateTime K) : Prop where
  year_eq : d.year = year
  number : dayNumber d.date = monthNumber year 1 + ⌊days⌋
  fraction : d.dayFraction = Int.fract days
  clock : d.Clock
  valid : 1 ≤ ⌊days⌋ → monthNumber year 1 + ⌊days⌋ ≤ monthNumber (year + 1) 1 →
    d.date.Valid JulianLeap

theorem days2mdhms_date (year : Int) (days : K) :
    let d := days2mdhms_SGP4 year days
    dayNumber d.date = monthNumber year 1 + ⌊days⌋ ∧
      (1 ≤ ⌊days⌋ → monthNumber year 1 + ⌊days⌋ ≤ monthNumber (year + 1) 1 →
        d.date.Valid JulianLeap) := by
  have hmonths : ∀ k : Nat, k + 1 < (lmonth year).length → (lmonth year)[k]? =
      some ((monthNumber year (1 + k + 1) - monthNumber year 1) -
        (monthNumber year (1 + k) - monthNumber year 1)) := by
    intro k hk
    rw [lmonth_length] at hk
    rw [lmonth_eq year (by omega), add_comm 1 (k : Int),
      monthNumber_succ year (by omega) (by omega)]
    congr 1
    ring
  obtain ⟨mon, hfind, hpos, hle, hbefore, hafter⟩ := findMonth_spec
    (fun month => monthNumber year month - monthNumber year 1) ⌊days⌋ (lmonth year) 1 0
    (by simp [lmonth]) hmonths (by ring)
  rw [lmonth_length] at hle hafter
  have hdate : (days2mdhms_SGP4 year days).date =
      ⟨year, mon, ⌊days⌋ - (monthNumber year mon - monthNumber year 1)⟩ := by
    simp only [days2mdhms_SGP4, DateTime.date, hfind]
  simp only
  rw [hdate, dayNumber_eq]
  refine ⟨by simp only; ring, fun hfirst hlast => ⟨hpos, by simp only; omega, ?_, ?_⟩⟩
  · simp only
    rcases hpos.eq_or_lt with heq | hlt
    · rw [← heq]
      omega
    · have := hbefore hlt
      omega
  · have hsucc := monthNumber_succ year hpos (by omega)
    simp only
    rcases (show mon ≤ 12 by omega).eq_or_lt with heq | hlt
    · rw [monthNumber_newYear] at hlast
      rw [heq] at hsucc ⊢
      norm_num at hsucc
      omega
    · have := hafter (by omega)
      omega

section
variable [IsStrictOrderedRing K]

theorem days2mdhms_time (year : Int) (days : K) :
    let d := days2mdhms_SGP4 year days
    d.dayFraction = Int.fract days ∧ d.Clock := by
  have scaled : ∀ {x n : K}, 0 ≤ x → x < 1 → 0 < n → 0 ≤ x * n ∧ x * n < n := by
    intro x n h0 h1 hn
    exact ⟨mul_nonneg h0 hn.le, by simpa using mul_lt_mul_of_pos_right h1 hn⟩
  have floored : ∀ {x : K} {n : Nat}, 0 ≤ x → x < n → 0 ≤ ⌊x⌋ ∧ ⌊x⌋ < n := by
    intro x n h0 hn
    exact ⟨Int.floor_nonneg.mpr h0, Int.floor_lt.mpr (by simpa using hn)⟩
  obtain ⟨hhour0, hhour⟩ := scaled (Int.fract_nonneg days) (Int.fract_lt_one days)
    (by norm_num : (0 : K) < 24)
  obtain ⟨hmin0, hmin⟩ := scaled (Int.fract_nonneg (Int.fract days * 24)) (Int.fract_lt_one _)
    (by norm_num : (0 : K) < 60)
  obtain ⟨hsec0, hsec⟩ := scaled (Int.fract_nonneg (Int.fract (Int.fract days * 24) * 60))
    (Int.fract_lt_one _) (by norm_num : (0 : K) < 60)
  obtain ⟨h1, h2⟩ := floored (n := 24) hhour0 (by simpa using hhour)
  obtain ⟨h3, h4⟩ := floored (n := 60) hmin0 (by simpa using hmin)
  simp only [Int.fract] at h1 h2 h3 h4 hsec0 hsec
  refine ⟨?_, h1, h2, h3, h4, hsec0, ?_⟩
  · have hminute : (60.0 : K) = 60 := by norm_num
    have hhour : (3600.0 : K) = 60 * 60 := by norm_num
    have hday : (86400.0 : K) = 24 * 60 * 60 := by norm_num
    rw [DateTime.dayFraction, hminute, hhour, hday, div_eq_iff (by norm_num)]
    simp only [days2mdhms_SGP4, Int.fract]
    ring
  · norm_num
    exact hsec

theorem days2mdhms_spec (year : Int) (days : K) :
    DayOfYear year days (days2mdhms_SGP4 year days) := by
  obtain ⟨hnumber, hvalid⟩ := days2mdhms_date year days
  obtain ⟨hfraction, hclock⟩ := days2mdhms_time year days
  exact ⟨rfl, hnumber, hfraction, hclock, hvalid⟩

/-- Back from a day of a year to the instant. -/
theorem instant_days2mdhms (year : Int) (days : K) :
    instant (jday_SGP4 (days2mdhms_SGP4 year days)) =
      numberInstant (monthNumber year 1) + days := by
  have h := days2mdhms_spec year days
  rw [instant_jday, h.number, h.fraction, numberInstant, numberInstant]
  push_cast
  linear_combination Int.floor_add_fract days

theorem floor_quarter (a : Int) : ⌊(a : K) * 0.25⌋ = a / 4 := by
  have h := floor_intCast_div (K := K) a 4
  rw [Nat.cast_ofNat] at h
  rw [show (a : K) * 0.25 = a / 4 by norm_num; ring, h]
  rfl

theorem daysIn_eq (jd : K) (year : Int) :
    daysIn (jd - 2415019.5) year = ⌊jd - 1721013.5⌋ - monthNumber year 1 := by
  have hleap : (year - 1901) / 4 = (year - 1) / 4 - 475 := by omega
  rw [daysIn, floor_quarter, ← Int.floor_sub_intCast, hleap, monthNumber_one]
  congr 1
  push_cast
  norm_num
  ring

/-- The part of a day in the first number that is lost: a date less than `0.00000001` days away
from midnight counts as the midnight before. -/
def unseen (jd : K) : K :=
  if 0.00000001 < |midnightOffset jd| then 0 else Int.fract (midnightOffset jd)

theorem midnightOffset_add (jd : K) (n : Int) : midnightOffset (jd + n) = midnightOffset jd := by
  rw [midnightOffset, midnightOffset, Int.floor_add_intCast]
  push_cast
  ring

/-- The midnight before. -/
theorem floor_midnight (jd : K) :
    (⌊jd - 1721013.5⌋ : K) + 1721013.5 = jd - Int.fract (midnightOffset jd) := by
  have hoffset : jd - 1721013.5 = midnightOffset jd + (⌊jd⌋ - 1721013 : Int) := by
    rw [midnightOffset]
    push_cast
    linarith [show (1721013.5 : K) = 1721013 + 0.5 by norm_num]
  have hfract : Int.fract (jd - 1721013.5) = Int.fract (midnightOffset jd) := by
    rw [hoffset, Int.fract_add_intCast]
  rw [← hfract, Int.fract]
  ring

theorem fractionIncluded_eq (jd jdfrac : K) : let jd' := fractionIncluded jd jdfrac
    (⌊jd'.1 - 1721013.5⌋ : K) + 1721013.5 + jd'.2 = jd + jdfrac - unseen jd := by
  simp only [fractionIncluded]
  rw [floor_midnight, unseen]
  split_ifs with hdt
  · have hmidnight : midnightOffset (jd - midnightOffset jd) = 0 := by
      have hhalf : jd - midnightOffset jd = 0.5 + (⌊jd⌋ : Int) := by
        rw [midnightOffset]
        ring
      rw [hhalf, midnightOffset_add, midnightOffset]
      norm_num
    rw [hmidnight, Int.fract_zero]
    ring
  · ring

/-- From a Julian date to the calendar and back. -/
theorem instant_invjday (jd jdfrac : K) :
    instant (jday_SGP4 (invjday_SGP4 jd jdfrac)) = jd + jdfrac - unseen jd := by
  -- Whatever year is tried, the days are counted from its beginning.
  obtain ⟨year, hyear⟩ : ∃ year, invjday_SGP4 jd jdfrac =
      days2mdhms_SGP4 year
        (daysIn ((fractionIncluded (multipleDays jd jdfrac).1 (multipleDays jd jdfrac).2).1 -
            2415019.5) year +
          (fractionIncluded (multipleDays jd jdfrac).1 (multipleDays jd jdfrac).2).2) := ⟨_, rfl⟩
  rw [hyear, instant_days2mdhms, daysIn_eq, numberInstant]
  have hday := fractionIncluded_eq (multipleDays jd jdfrac).1 (multipleDays jd jdfrac).2
  have hwhole : (multipleDays jd jdfrac).1 + (multipleDays jd jdfrac).2 = jd + jdfrac ∧
      midnightOffset (multipleDays jd jdfrac).1 = midnightOffset jd := by
    unfold multipleDays
    split_ifs
    · exact ⟨by ring, midnightOffset_add _ _⟩
    · exact ⟨rfl, rfl⟩
  rw [hwhole.1, unseen, hwhole.2] at hday
  rw [unseen]
  push_cast
  linear_combination hday

/-- Six o'clock, a day and a quarter after the first number. -/
theorem instant_invjday_morning :
    instant (jday_SGP4 (invjday_SGP4 (2460310.5 : ℚ) 1.25)) =
      2460310.5 + 1.25 - unseen (2460310.5 : ℚ) :=
  instant_invjday 2460310.5 1.25

theorem valid_bounds {d : Date} (h : d.Valid JulianLeap) :
    monthNumber d.year 1 < dayNumber d ∧ dayNumber d ≤ monthNumber (d.year + 1) 1 := by
  obtain ⟨hpos, hle, hday, hlength⟩ := h
  have hfirst := monthNumber_mono d.year (le_refl 1) hpos (by omega)
  have hlast := monthNumber_mono d.year (show 1 ≤ d.month + 1 by omega) (show _ ≤ 13 by omega)
    (le_refl 13)
  rw [monthNumber_succ d.year hpos hle] at hlast
  rw [dayNumber_eq, monthNumber_newYear]
  omega

/-- The first guess is the year of every date. -/
theorem year_guess {d : Date} (h : d.Valid JulianLeap) :
    1900 + ⌊((numberInstant (dayNumber d) : K) - 2415019.5) / 365.25⌋ = d.year := by
  have hbounds := valid_bounds h
  rw [monthNumber_one, monthNumber_one] at hbounds
  have hquotient : 4 * (dayNumber d - 694006) / 1461 = d.year - 1900 := by
    have hmod : d.year % 4 = 0 ∨ d.year % 4 = 1 ∨ d.year % 4 = 2 ∨ d.year % 4 = 3 := by omega
    rcases hmod with hmod | hmod | hmod | hmod <;> omega
  have hfloor := floor_intCast_div (K := K) (4 * (dayNumber d - 694006)) 1461
  have hdays : ((numberInstant (dayNumber d) : K) - 2415019.5) / 365.25 =
      ((4 * (dayNumber d - 694006) : Int) : K) / (1461 : Nat) := by
    rw [numberInstant]
    push_cast
    norm_num
    ring
  rw [hdays, hfloor]
  push_cast
  omega

theorem eq_of_dayFraction_eq {d d' : DateTime K} (h : d.Clock) (h' : d'.Clock)
    (hfraction : d.dayFraction = d'.dayFraction) :
    d.hour = d'.hour ∧ d.min = d'.min ∧ d.sec = d'.sec := by
  have hsum : d.sec + d.min * 60 + d.hour * 3600 = d'.sec + d'.min * 60 + d'.hour * 3600 := by
    norm_num [DateTime.dayFraction] at hfraction
    linarith
  have le_of_seconds : ∀ {s s' : K} {n n' : Int}, 0 ≤ s' → s < 60.0 →
      s + n * 60 = s' + n' * 60 → n' ≤ n := by
    intro s s' n n' hs' hs heq
    have hlt : (n' : K) < n + 1 := by
      norm_num at hs
      linarith
    exact_mod_cast Int.lt_add_one_iff.mp (by exact_mod_cast hlt)
  have hminutes : d.min + d.hour * 60 = d'.min + d'.hour * 60 := by
    apply le_antisymm
    · exact le_of_seconds h.sec_nonneg h'.sec_lt (by push_cast; linarith)
    · exact le_of_seconds h'.sec_nonneg h.sec_lt (by push_cast; linarith)
  have hhour : d.hour = d'.hour := by
    have := h.min_nonneg
    have := h.min_lt
    have := h'.min_nonneg
    have := h'.min_lt
    omega
  have hmin : d.min = d'.min := by omega
  exact ⟨hhour, hmin, by rw [hhour, hmin] at hsum; linarith⟩

theorem dayFraction_clock {d : DateTime K} (h : d.Clock) :
    0 ≤ d.dayFraction ∧ d.dayFraction < 1 := by
  have hmin : (0 : K) ≤ d.min ∧ (d.min : K) ≤ 59 :=
    ⟨by exact_mod_cast h.min_nonneg, by exact_mod_cast Int.lt_add_one_iff.mp h.min_lt⟩
  have hhour : (0 : K) ≤ d.hour ∧ (d.hour : K) ≤ 23 :=
    ⟨by exact_mod_cast h.hour_nonneg, by exact_mod_cast Int.lt_add_one_iff.mp h.hour_lt⟩
  have hsec := h.sec_nonneg
  have hsec' := h.sec_lt
  rw [DateTime.dayFraction]
  constructor
  · apply div_nonneg <;> norm_num
    linarith
  · rw [div_lt_one (by norm_num)]
    norm_num at hsec' ⊢
    linarith

/-- From the calendar to a Julian date and back, in exact arithmetic. -/
theorem invjday_jday (d : DateTime K) (hdate : d.date.Valid JulianLeap) (hclock : d.Clock) :
    invjday_SGP4 (jday_SGP4 d).1 (jday_SGP4 d).2 = d := by
  obtain ⟨hfrac0, hfrac1⟩ := dayFraction_clock hclock
  have habs : |d.dayFraction| < 1 := by rwa [abs_of_nonneg hfrac0]
  have hjd : jday_SGP4 d = (numberInstant (dayNumber d.date), d.dayFraction) := by
    rw [jday_eq, if_neg habs.le.not_gt]
  have hmidnight : midnightOffset (numberInstant (dayNumber d.date) : K) = 0 := by
    rw [numberInstant, add_comm, midnightOffset_add, midnightOffset]
    norm_num
  have hfloor : ⌊(numberInstant (dayNumber d.date) : K) - 1721013.5⌋ = dayNumber d.date := by
    rw [numberInstant, add_sub_cancel_right, Int.floor_intCast]
  obtain ⟨hfirst, hlast⟩ := valid_bounds hdate
  have hguess : ¬ ((dayNumber d.date - monthNumber d.year 1 : Int) : K) + d.dayFraction < 1.0 := by
    have hone : (1 : K) ≤ (dayNumber d.date - monthNumber d.year 1 : Int) := by
      exact_mod_cast (show 1 ≤ dayNumber d.date - monthNumber d.year 1 by
        simp only [DateTime.date] at hfirst ⊢
        omega)
    norm_num at hone ⊢
    linarith
  have hinv : invjday_SGP4 (jday_SGP4 d).1 (jday_SGP4 d).2 =
      days2mdhms_SGP4 d.year
        ((dayNumber d.date - monthNumber d.year 1 : Int) + d.dayFraction) := by
    have hmultiple : multipleDays (numberInstant (dayNumber d.date)) d.dayFraction =
        (numberInstant (dayNumber d.date), d.dayFraction) := by
      rw [multipleDays, if_neg (by norm_num; exact habs)]
    have hincluded : fractionIncluded (numberInstant (dayNumber d.date)) d.dayFraction =
        (numberInstant (dayNumber d.date), d.dayFraction) := by
      simp [fractionIncluded, hmidnight]
    have hyear : 1900 + ⌊((numberInstant (dayNumber d.date) : K) - 2415019.5) / 365.25⌋ = d.year :=
      year_guess hdate
    simp only [hjd, invjday_SGP4, hmultiple, hincluded, daysIn_eq, hfloor, hyear, if_neg hguess]
  have hspec := days2mdhms_spec d.year
    (((dayNumber d.date - monthNumber d.year 1 : Int) : K) + d.dayFraction)
  have hdays : ⌊((dayNumber d.date - monthNumber d.year 1 : Int) : K) + d.dayFraction⌋ =
      dayNumber d.date - monthNumber d.year 1 := by
    rw [Int.floor_intCast_add, Int.floor_eq_zero_iff.mpr ⟨hfrac0, hfrac1⟩, add_zero]
  rw [← hinv] at hspec
  obtain ⟨hyear, hnumber, hfraction, hclock', hvalid⟩ := hspec
  rw [hdays, add_sub_cancel] at hnumber hvalid
  rw [Int.fract_intCast_add, Int.fract_eq_self.mpr ⟨hfrac0, hfrac1⟩] at hfraction
  have hdate' := eq_of_dayNumber_eq
    (hvalid (by simp only [DateTime.date] at hfirst ⊢; omega) hlast) hdate hyear hnumber
  obtain ⟨hhour, hmin, hsec⟩ := eq_of_dayFraction_eq hclock' hclock hfraction
  simp only [DateTime.date, Date.mk.injEq] at hdate'
  obtain ⟨_, hmon, hday⟩ := hdate'
  exact DateTime.ext hyear hmon hday hhour hmin hsec

end

/-- The last minute of a leap day. -/
theorem invjday_jday_leap_day :
    invjday_SGP4 (jday_SGP4 (⟨2024, 2, 29, 23, 59, 30⟩ : DateTime ℚ)).1
      (jday_SGP4 (⟨2024, 2, 29, 23, 59, 30⟩ : DateTime ℚ)).2 = ⟨2024, 2, 29, 23, 59, 30⟩ :=
  invjday_jday (⟨2024, 2, 29, 23, 59, 30⟩ : DateTime ℚ)
    ⟨by decide, by decide, by decide, by decide⟩
    ⟨by decide, by decide, by decide, by decide, by norm_num, by norm_num⟩

/-- The day before a 29 February that only the calendar of the formula has. -/
def Skips (d : Date) : Prop :=
  d.month = 2 ∧ d.day = 28 ∧ JulianLeap d.year ∧ ¬ GregorianLeap d.year

instance : DecidablePred Skips := fun d =>
  inferInstanceAs (Decidable (d.month = 2 ∧ d.day = 28 ∧ JulianLeap d.year ∧
    ¬ GregorianLeap d.year))

theorem Valid.julian {d : Date} (h : d.Valid GregorianLeap) : d.Valid JulianLeap := by
  refine ⟨h.month_pos, h.month_le, h.day_pos, h.day_le.trans ?_⟩
  have hleap : GregorianLeap d.year → JulianLeap d.year := And.left
  unfold monthLength
  split_ifs <;> simp_all

theorem lt_monthLength_iff {d : Date} (h : d.Valid GregorianLeap) (hskip : ¬ Skips d) :
    d.day < monthLength GregorianLeap d.year d.month ↔
      d.day < monthLength JulianLeap d.year d.month := by
  have hlast := h.day_le
  have hleap : GregorianLeap d.year → JulianLeap d.year := And.left
  unfold monthLength at hlast ⊢
  by_cases hmonth : d.month = 2
  · by_cases hgregorian : GregorianLeap d.year
    · simp [hmonth, hgregorian, hleap hgregorian]
    by_cases hjulian : JulianLeap d.year
    · have hday : d.day ≠ 28 := fun hday => hskip ⟨hmonth, hday, hjulian, hgregorian⟩
      simp only [hmonth, hgregorian, hjulian, if_true, if_false] at hlast ⊢
      omega
    · simp [hmonth, hgregorian, hjulian]
  · simp only [if_neg hmonth]

theorem dayNumber_next_gregorian (d : Date) (h : d.Valid GregorianLeap) :
    dayNumber (d.next GregorianLeap) = dayNumber d + 1 + if Skips d then 1 else 0 := by
  by_cases hskip : Skips d
  · obtain ⟨hmonth, hday, hjulian, hgregorian⟩ := hskip
    have hnext : d.next GregorianLeap = ⟨d.year, 3, 1⟩ := by
      simp [Date.next, monthLength, hmonth, hday, hgregorian]
    have hfebruary := monthNumber_succ d.year (show (1 : Int) ≤ 2 by decide) (by decide)
    rw [if_pos ⟨hmonth, hday, hjulian, hgregorian⟩, hnext, dayNumber_eq, dayNumber_eq d, hmonth,
      hday]
    simp [monthLength, hjulian] at hfebruary ⊢
    omega
  · have hnext : d.next GregorianLeap = d.next JulianLeap := by
      simp only [Date.next, lt_monthLength_iff h hskip]
    rw [if_neg hskip, add_zero, hnext, dayNumber_next (Valid.julian h)]

/-- The days that a Julian date of the formula is ahead after some days. -/
def skipped (d : Date) (n : Nat) : Nat :=
  ((Finset.range n).filter fun i => Skips ((Date.next GregorianLeap)^[i] d)).card

theorem dayNumber_iterate {d : Date} (h : d.Valid GregorianLeap) (n : Nat) :
    dayNumber ((Date.next GregorianLeap)^[n] d) = dayNumber d + n + skipped d n := by
  rw [number_iterate dayNumber_next_gregorian h n, skipped, Finset.natCast_card_filter]

/-- None from 1901 through 2099. -/
theorem skipped_eq_zero {d : Date} (n : Nat) (hfirst : 1901 ≤ d.year)
    (hlast : ((Date.next GregorianLeap)^[n] d).year ≤ 2099) : skipped d n = 0 := by
  rw [skipped, Finset.card_eq_zero, Finset.filter_eq_empty_iff]
  rintro i hi ⟨_, _, hjulian, hgregorian⟩
  have hle : ((Date.next GregorianLeap)^[i] d).year ≤ 2099 :=
    (year_le_iterate d (Finset.mem_range.mp hi).le).trans hlast
  have hge : 1901 ≤ ((Date.next GregorianLeap)^[i] d).year :=
    hfirst.trans (year_le_iterate d (Nat.zero_le i))
  -- A leap year of the formula alone is a century.
  simp only [GregorianLeap, JulianLeap] at hjulian hgregorian
  omega

section
variable [IsStrictOrderedRing K]

/-- A Julian date counts the days of the Gregorian calendar and one more for every 29 February
that this calendar leaves out. -/
theorem instant_after_days {d d' : DateTime K} {n : Nat} (h : d.date.Valid GregorianLeap)
    (hdays : d'.date = (Date.next GregorianLeap)^[n] d.date) :
    instant (jday_SGP4 d') - instant (jday_SGP4 d) =
      n + skipped d.date n + (d'.dayFraction - d.dayFraction) := by
  rw [instant_jday, instant_jday, hdays, numberInstant, numberInstant, dayNumber_iterate h]
  push_cast
  ring

end

/-- Over the end of February 2100. -/
theorem instant_after_days_century :
    instant (jday_SGP4 (⟨2100, 3, 1, 12, 0, 0⟩ : DateTime ℚ)) -
        instant (jday_SGP4 (⟨2100, 2, 27, 0, 0, 0⟩ : DateTime ℚ)) =
      (2 : Nat) + skipped ⟨2100, 2, 27⟩ 2 +
        ((⟨2100, 3, 1, 12, 0, 0⟩ : DateTime ℚ).dayFraction -
          (⟨2100, 2, 27, 0, 0, 0⟩ : DateTime ℚ).dayFraction) ∧
      skipped ⟨2100, 2, 27⟩ 2 = 1 :=
  ⟨instant_after_days ⟨by decide, by decide, by decide, by decide⟩ (by decide), by decide⟩

section
variable {Elements : Type}

/-- The year that the two digits of the elements stand for. -/
def epochYear (epochyr : Int) : Int := if 57 ≤ epochyr then 1900 + epochyr else 2000 + epochyr

theorem days2mdhms_epochYear (epochyr : Int) (days : K) :
    { days2mdhms_SGP4 epochyr days with year := epochYear epochyr } =
      days2mdhms_SGP4 (epochYear epochyr) days := by
  have hleap : Int.tmod (epochYear epochyr) 4 = 0 ↔ Int.tmod epochyr 4 = 0 := by
    rw [← Int.dvd_iff_tmod_eq_zero, ← Int.dvd_iff_tmod_eq_zero, epochYear]
    split_ifs <;> omega
  have hmonths : lmonth (epochYear epochyr) = lmonth epochyr := by
    simp only [lmonth, hleap]
  simp only [days2mdhms_SGP4, hmonths]

variable [IsStrictOrderedRing K]

theorem initial_diff (m : SGP4Mobility K Elements) (wall : DateTime K) :
    (initial m wall).diffTleEpochWctMin =
      (numberInstant (dayNumber wall.date) + wall.dayFraction -
        (numberInstant (monthNumber (epochYear m.satrec.epochyr) 1) + m.satrec.epochdays)) *
        1440 := by
  have hepoch := days2mdhms_epochYear m.satrec.epochyr m.satrec.epochdays
  rw [epochYear] at hepoch
  have htle := instant_days2mdhms (epochYear m.satrec.epochyr) m.satrec.epochdays
  have hwall := instant_jday wall
  simp only [initial, setTimes, hepoch]
  rw [← htle, ← hwall, instant, instant, epochYear]
  ring

/-- `epochdays` is one at the beginning of the first of January. -/
theorem initial_minutes (m : SGP4Mobility K Elements) (wall : DateTime K) {first : Date}
    {epoch start : Nat} (hvalid : first.Valid GregorianLeap) (hfirst : 1901 ≤ first.year)
    (hepoch : (Date.next GregorianLeap)^[epoch] first = ⟨epochYear m.satrec.epochyr, 1, 1⟩)
    (hstart : (Date.next GregorianLeap)^[start] first = wall.date)
    (hepochyr : m.satrec.epochyr ≤ 99) (hlast : wall.year ≤ 2099) :
    (initial m wall).diffTleEpochWctMin =
      (start + wall.dayFraction - (epoch + (m.satrec.epochdays - 1))) * 1440 := by
  have hepochYear : epochYear m.satrec.epochyr ≤ 2099 := by
    rw [epochYear]
    split_ifs <;> omega
  have hjanuary := dayNumber_iterate hvalid epoch
  have hwall := dayNumber_iterate hvalid start
  rw [skipped_eq_zero epoch hfirst (by rw [hepoch]; exact hepochYear), hepoch, dayNumber_eq]
    at hjanuary
  rw [skipped_eq_zero start hfirst (by rw [hstart]; exact hlast), hstart] at hwall
  rw [initial_diff, hwall, numberInstant, numberInstant]
  have hnumber :
      (monthNumber (epochYear m.satrec.epochyr) 1 : K) = dayNumber first + epoch - 1 := by
    simp only at hjanuary
    have h : monthNumber (epochYear m.satrec.epochyr) 1 = dayNumber first + epoch - 1 := by omega
    rw [h]
    push_cast
    ring
  rw [hnumber]
  push_cast
  ring

end

/-- An epoch at noon of the first day of 2025 and a start at the next midnight. -/
theorem initial_minutes_new_year :
    (initial ({ unprojected with satrec := ⟨25, 1.5, 0, ()⟩ } : SGP4Mobility ℚ Unit)
        ⟨2025, 1, 2, 0, 0, 0⟩).diffTleEpochWctMin =
      ((3 : Nat) + (⟨2025, 1, 2, 0, 0, 0⟩ : DateTime ℚ).dayFraction -
        ((2 : Nat) + (1.5 - 1))) * 1440 :=
  initial_minutes ({ unprojected with satrec := ⟨25, 1.5, 0, ()⟩ } : SGP4Mobility ℚ Unit)
    ⟨2025, 1, 2, 0, 0, 0⟩
    (⟨by decide, by decide, by decide, by decide⟩ : Date.Valid GregorianLeap ⟨2024, 12, 30⟩)
    (by decide) (by decide) (by decide) (by decide) (by decide)

end SGP4Mobility
end SpaceVeins

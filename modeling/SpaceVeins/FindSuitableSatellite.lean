import Mathlib.Data.Prod.Lex
import SpaceVeins.Shared.Python

/-!
# The time span of the satellite finder

A script prints the satellites that pass over a place between two dates. It
refuses a span whose end lies before its start, field by field.
-/

set_option autoImplicit false

namespace SpaceVeins.FindSuitableSatellite
open Python

/-- A date and a time of day, as they are split off an argument. -/
def splitArgument (argument : List Char) :
    Except PyException (List (List Char) × List (List Char)) := do
  let parts := argument.splitOn ':'
  let date := (← getItem parts 0).splitOn '-'
  let time := (← getItem parts 1).splitOn '-'
  pure (date, time)

/-- One test of the script, on the field with index `i`. -/
def refuseBefore (endFields startFields : List (List Char)) (i : Nat) (message : String) :
    Except PyException Unit := do
  if (← int (← getItem endFields i)) < (← int (← getItem startFields i)) then
    .error (.valueError message)
  else pure ()

/-- The script from the splitting of its arguments to the last test. The tests of the time of day
compare the end with itself. -/
def validate (sdate edate : List Char) : Except PyException Unit := do
  let (start_date, _) ← splitArgument sdate
  let (end_date, end_time) ← splitArgument edate
  refuseBefore end_date start_date 0 "End date's year lies before start date!"
  refuseBefore end_date start_date 1 "End date's month lies before start date!"
  refuseBefore end_date start_date 2 "End date's day lies before start date!"
  refuseBefore end_time end_time 0 "End date's hour lies before start date!"
  refuseBefore end_time end_time 1 "End date's minute lies before start date!"
  refuseBefore end_time end_time 2 "End date's second lies before start date!"

structure DateField where
  digits : List Char
  ne_nil : digits ≠ []
  isDigit : ∀ c ∈ digits, c.isDigit = true

def DateField.value (f : DateField) : Nat := CxxString.numeral 10 f.digits

/-- A well-formed argument. -/
structure Argument where
  year : DateField
  month : DateField
  day : DateField
  hour : DateField
  minute : DateField
  second : DateField

namespace Argument

def text (a : Argument) : List Char :=
  [':'].intercalate [['-'].intercalate [a.year.digits, a.month.digits, a.day.digits],
    ['-'].intercalate [a.hour.digits, a.minute.digits, a.second.digits]]

def date (a : Argument) : Nat ×ₗ Nat ×ₗ Nat :=
  toLex (a.year.value, toLex (a.month.value, a.day.value))

def time (a : Argument) : Nat ×ₗ Nat ×ₗ Nat :=
  toLex (a.hour.value, toLex (a.minute.value, a.second.value))

/-- Instants in the order of the calendar. -/
def instant (a : Argument) : (Nat ×ₗ Nat ×ₗ Nat) ×ₗ (Nat ×ₗ Nat ×ₗ Nat) := toLex (a.date, a.time)

end Argument

theorem DateField.not_mem {c : Char} (hc : c.isDigit = false) (f : DateField) : c ∉ f.digits := by
  intro hmem
  rw [f.isDigit c hmem] at hc
  cases hc

theorem DateField.int_digits (f : DateField) : int f.digits = .ok f.value :=
  Python.int_digits f.ne_nil f.isDigit

theorem splitOn_fields (a b c : DateField) :
    (['-'].intercalate [a.digits, b.digits, c.digits]).splitOn '-' =
      [a.digits, b.digits, c.digits] := by
  apply List.splitOn_intercalate
  · have hminus := @DateField.not_mem '-' (by decide)
    simp [hminus]
  · exact List.cons_ne_nil _ _

theorem splitArgument_text (a : Argument) :
    splitArgument a.text = .ok ([a.year.digits, a.month.digits, a.day.digits],
      [a.hour.digits, a.minute.digits, a.second.digits]) := by
  have hcolon := @DateField.not_mem ':' (by decide)
  have hsplit : a.text.splitOn ':' =
      [['-'].intercalate [a.year.digits, a.month.digits, a.day.digits],
        ['-'].intercalate [a.hour.digits, a.minute.digits, a.second.digits]] := by
    apply List.splitOn_intercalate
    · simp [hcolon]
    · exact List.cons_ne_nil _ _
  unfold splitArgument
  simp only [hsplit, getItem_zero, getItem_succ, ok_bind, splitOn_fields, pure_eq_ok]

theorem refuseBefore_eq_ok_iff {endFields startFields : List (List Char)} {i : Nat}
    {message : String} {e s : DateField} (he : getItem endFields i = .ok e.digits)
    (hs : getItem startFields i = .ok s.digits) :
    refuseBefore endFields startFields i message =
      if e.value < s.value then .error (.valueError message) else .ok () := by
  simp only [refuseBefore, he, hs, ok_bind, DateField.int_digits, pure_eq_ok, Nat.cast_lt]

/-- Only the date is tested, and every field of it on its own. -/
theorem validate_eq_ok_iff (s e : Argument) :
    validate s.text e.text = .ok () ↔
      s.year.value ≤ e.year.value ∧ s.month.value ≤ e.month.value ∧ s.day.value ≤ e.day.value := by
  unfold validate
  simp only [splitArgument_text, ok_bind]
  rw [refuseBefore_eq_ok_iff (e := e.year) (s := s.year) rfl rfl,
    refuseBefore_eq_ok_iff (e := e.month) (s := s.month) rfl rfl,
    refuseBefore_eq_ok_iff (e := e.day) (s := s.day) rfl rfl,
    refuseBefore_eq_ok_iff (e := e.hour) (s := e.hour) rfl rfl,
    refuseBefore_eq_ok_iff (e := e.minute) (s := e.minute) rfl rfl,
    refuseBefore_eq_ok_iff (e := e.second) (s := e.second) rfl rfl]
  simp only [lt_irrefl, if_false, ok_bind]
  by_cases hyear : e.year.value < s.year.value
  · simp [hyear]
  · by_cases hmonth : e.month.value < s.month.value
    · simp [hyear, hmonth]
    · by_cases hday : e.day.value < s.day.value
      · simp [hyear, hmonth, hday]
      · simp only [hyear, hmonth, hday, if_false, ok_bind, true_iff]
        omega

theorem date_le_iff (s e : Argument) :
    s.date ≤ e.date ↔ s.year.value < e.year.value ∨ s.year.value = e.year.value ∧
      (s.month.value < e.month.value ∨ s.month.value = e.month.value ∧
        s.day.value ≤ e.day.value) := by
  simp only [Argument.date, Prod.Lex.le_iff, ofLex_toLex]

/-- The script accepts exactly the spans that are not reversed exactly if a later date has no
smaller month and no smaller day, and a span within a day is not reversed. -/
theorem accepts_iff (s e : Argument) :
    (validate s.text e.text = .ok () ↔ s.instant ≤ e.instant) ↔
      (s.date < e.date → s.month.value ≤ e.month.value ∧ s.day.value ≤ e.day.value) ∧
        (s.date = e.date → s.time ≤ e.time) := by
  have hinstant : s.instant ≤ e.instant ↔ s.date < e.date ∨ s.date = e.date ∧ s.time ≤ e.time :=
    Prod.Lex.le_iff
  have hle := date_le_iff s e
  have hge := date_le_iff e s
  rw [validate_eq_ok_iff, hinstant]
  rcases lt_trichotomy s.date e.date with hlt | heq | hgt
  · have hne := hlt.ne
    have hyears := hle.mp hlt.le
    simp only [hlt, hne, true_or, iff_true, forall_true_left, false_imp_iff, and_true]
    omega
  · have hyears := hle.mp heq.le
    have hyears' := hge.mp heq.ge
    simp only [heq, lt_irrefl, false_or, true_and, false_imp_iff, forall_true_left]
    have hfields : s.year.value ≤ e.year.value ∧ s.month.value ≤ e.month.value ∧
        s.day.value ≤ e.day.value := by omega
    simp only [hfields, and_self, true_iff]
  · have hyears := hge.mp hgt.le
    have hnot := mt hle.mpr hgt.not_ge
    simp only [hgt.not_gt, hgt.ne', false_and, or_self, false_imp_iff, and_self, iff_true,
      iff_false]
    omega

def field (digits : List Char) (h : digits ≠ [] ∧ digits.all Char.isDigit = true) : DateField :=
  ⟨digits, h.1, List.all_eq_true.mp h.2⟩

/-- The span from the last day of a year to the first day of the next one is refused, and a span
that ends before it starts, on one day, is accepted. -/
theorem new_year_refused :
    let eve : Argument := ⟨field "2023".toList (by decide), field "12".toList (by decide),
      field "31".toList (by decide), field "23".toList (by decide), field "00".toList (by decide),
      field "00".toList (by decide)⟩
    let newYear : Argument := ⟨field "2024".toList (by decide), field "01".toList (by decide),
      field "01".toList (by decide), field "01".toList (by decide), field "00".toList (by decide),
      field "00".toList (by decide)⟩
    let earlier : Argument := { eve with hour := field "22".toList (by decide) }
    ¬ (validate eve.text newYear.text = .ok () ↔ eve.instant ≤ newYear.instant) ∧
      ¬ (validate eve.text earlier.text = .ok () ↔ eve.instant ≤ earlier.instant) := by
  intro eve newYear earlier
  rw [validate_eq_ok_iff, validate_eq_ok_iff]
  decide

end SpaceVeins.FindSuitableSatellite

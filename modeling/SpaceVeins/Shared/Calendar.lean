import Mathlib.Algebra.BigOperators.Group.Finset.Basic
import Mathlib.Algebra.BigOperators.Intervals
import Mathlib.Algebra.Order.Ring.Int
import Mathlib.Logic.Function.Iterate
import Mathlib.Tactic.IntervalCases
import Mathlib.Tactic.Ring

/-!
# Calendar dates and the day after

A calendar is known by its leap years. A number given to the dates counts days if
it grows by one from each date to the next; where it grows by more, what it is too
large by adds up along the days.
-/

set_option autoImplicit false

namespace Calendar

@[ext] structure Date where
  year : Int
  month : Int
  day : Int
deriving DecidableEq, Repr

/-- Every fourth year. -/
def JulianLeap (year : Int) : Prop := 4 ∣ year

/-- Every fourth year but for three centuries out of four. -/
def GregorianLeap (year : Int) : Prop := 4 ∣ year ∧ (¬ 100 ∣ year ∨ 400 ∣ year)

instance : DecidablePred JulianLeap := fun year => inferInstanceAs (Decidable (4 ∣ year))

instance : DecidablePred GregorianLeap := fun year =>
  inferInstanceAs (Decidable (4 ∣ year ∧ (¬ 100 ∣ year ∨ 400 ∣ year)))

section
variable (Leap : Int → Prop) [DecidablePred Leap]

def monthLength (year month : Int) : Int :=
  if month = 2 then (if Leap year then 29 else 28)
  else if month = 4 ∨ month = 6 ∨ month = 9 ∨ month = 11 then 30
  else 31

structure Date.Valid (d : Date) : Prop where
  month_pos : 1 ≤ d.month
  month_le : d.month ≤ 12
  day_pos : 1 ≤ d.day
  day_le : d.day ≤ monthLength Leap d.year d.month

/-- The day after. -/
def Date.next (d : Date) : Date :=
  if d.day < monthLength Leap d.year d.month then ⟨d.year, d.month, d.day + 1⟩
  else if d.month < 12 then ⟨d.year, d.month + 1, 1⟩
  else ⟨d.year + 1, 1, 1⟩

theorem one_le_monthLength (year month : Int) : 1 ≤ monthLength Leap year month := by
  unfold monthLength
  split_ifs <;> decide

variable {Leap}

theorem Date.Valid.next {d : Date} (h : d.Valid Leap) : (d.next Leap).Valid Leap := by
  unfold Date.next
  split_ifs with hday hmonth
  · have := h.day_pos
    exact ⟨h.month_pos, h.month_le, by simp only; omega, by simp only; omega⟩
  · have := h.month_pos
    exact ⟨by simp only; omega, by simp only; omega, le_rfl, one_le_monthLength Leap _ _⟩
  · exact ⟨le_rfl, (by decide : (1 : Int) ≤ 12), le_rfl, one_le_monthLength Leap _ _⟩

theorem Date.Valid.iterate {d : Date} (h : d.Valid Leap) (n : Nat) :
    ((Date.next Leap)^[n] d).Valid Leap := by
  induction n with
  | zero => exact h
  | succ n ih =>
    rw [Function.iterate_succ_apply']
    exact ih.next

theorem year_le_next (d : Date) : d.year ≤ (d.next Leap).year := by
  unfold Date.next
  split_ifs <;> simp only <;> omega

theorem year_le_iterate (d : Date) {i n : Nat} (h : i ≤ n) :
    ((Date.next Leap)^[i] d).year ≤ ((Date.next Leap)^[n] d).year := by
  induction n, h using Nat.le_induction with
  | base => exact le_rfl
  | succ n _ ih =>
    rw [Function.iterate_succ_apply']
    exact ih.trans (year_le_next _)

/-- What a number grows by too much from a day to the next adds up. -/
theorem number_iterate {number excess : Date → Int}
    (hnext : ∀ d, d.Valid Leap → number (d.next Leap) = number d + 1 + excess d)
    {d : Date} (h : d.Valid Leap) (n : Nat) : number ((Date.next Leap)^[n] d) =
      number d + n + ∑ i ∈ Finset.range n, excess ((Date.next Leap)^[i] d) := by
  induction n with
  | zero => simp
  | succ n ih =>
    rw [Function.iterate_succ_apply', hnext _ (h.iterate n), ih, Finset.sum_range_succ]
    push_cast
    ring

end
end Calendar

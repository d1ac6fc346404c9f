import Mathlib.Algebra.Order.Floor.Semiring
import Mathlib.Data.Nat.Cast.Order.Field
import Mathlib.Logic.Function.Iterate
import Mathlib.Tactic.Linarith
import Mathlib.Tactic.Ring

/-!
# A process in steps of one length whose last state is kept

The process starts at time zero and is advanced, forwards or backwards, as long
as the time asked for is a step or more away. The next request goes on from the
state that is kept, or from the start if its time lies nearer to zero or on the
other side of it. What a request reaches does not depend on the state kept.
-/

set_option autoImplicit false

namespace SteppedCache

/-- The loop that advances a state until it is near; `none` if `fuel` tests do not end it. -/
def advanceUntil {σ : Type} (near : σ → Bool) (advance : σ → σ) : Nat → σ → Option σ
  | 0, _ => none
  | fuel + 1, s => if near s then some s else advanceUntil near advance fuel (advance s)

theorem advanceUntil_iterate {σ : Type} {near : σ → Bool} {advance : σ → σ} {n fuel : Nat} {s : σ}
    (far : ∀ i < n, near (advance^[i] s) = false) (hnear : near (advance^[n] s) = true)
    (hfuel : n < fuel) : advanceUntil near advance fuel s = some (advance^[n] s) := by
  induction n generalizing fuel s with
  | zero =>
    obtain ⟨fuel, rfl⟩ := Nat.exists_eq_add_of_lt hfuel
    have hs : near s = true := hnear
    simp [advanceUntil, hs]
  | succ n ih =>
    obtain ⟨fuel, rfl⟩ : ∃ f, fuel = f + 1 := ⟨fuel - 1, by omega⟩
    have hs : near s = false := far 0 (Nat.succ_pos n)
    rw [advanceUntil, hs, if_neg Bool.false_ne_true, Function.iterate_succ_apply]
    rw [Function.iterate_succ_apply] at hnear
    refine ih ?_ hnear (by omega)
    intro i hi
    rw [← Function.iterate_succ_apply]
    exact far (i + 1) (by omega)

/-- A state carries its time, and `advance d` is one step of the signed length `d`. -/
structure Process (K σ : Type) [Field K] [LinearOrder K] where
  time : σ → K
  start : σ
  advance : K → σ → σ
  step : K
  step_pos : 0 < step
  time_start : time start = 0
  time_advance : ∀ d s, time (advance d s) = time s + d

namespace Process
variable {K σ : Type} [Field K] [LinearOrder K]

/-- The step towards `t`. -/
def towards (p : Process K σ) (t : K) : K := if 0 < t then p.step else -p.step

/-- The state from which a request for the time `t` goes on. -/
def resume (p : Process K σ) (t : K) (s : σ) : σ :=
  if p.time s = 0 ∨ t * p.time s ≤ 0 ∨ |t| < |p.time s| then p.start else s

def near (p : Process K σ) (t : K) (s : σ) : Bool := decide (|t - p.time s| < p.step)

variable [IsStrictOrderedRing K] [FloorSemiring K]

/-- The number of tests allowed to the loop from `s` to `t`. -/
def fuel (p : Process K σ) (t : K) (s : σ) : Nat := ⌊|t - p.time s| / p.step⌋₊ + 2

/-- A request for the time `t` when `s` is the state that is kept. -/
def request (p : Process K σ) (t : K) (s : σ) : Option σ :=
  advanceUntil (p.near t) (p.advance (p.towards t)) (p.fuel t (p.resume t s)) (p.resume t s)

/-- The number of whole steps between the start and the time `t`. -/
def steps (p : Process K σ) (t : K) : Nat := ⌊|t| / p.step⌋₊

/-- The state for the time `t`, counted from the start. -/
def stateAt (p : Process K σ) (t : K) : σ := (p.advance (p.towards t))^[p.steps t] p.start

/-- The states that requests leave behind; a state at time zero is not looked at. -/
def Kept (p : Process K σ) (s : σ) : Prop := p.time s = 0 ∨ ∃ t, s = p.stateAt t

variable (p : Process K σ)

omit [IsStrictOrderedRing K] [FloorSemiring K] in
theorem time_iterate (d : K) (n : Nat) (s : σ) :
    p.time ((p.advance d)^[n] s) = p.time s + n * d := by
  induction n with
  | zero => simp
  | succ n ih =>
    rw [Function.iterate_succ_apply', p.time_advance, ih]
    push_cast
    ring

omit [FloorSemiring K] in
/-- After `n` of the steps towards `t`, none of which passes it. -/
theorem distance_iterate {t : K} {n : Nat} (h : n * p.step ≤ |t|) :
    |t - p.time ((p.advance (p.towards t))^[n] p.start)| = |t| - n * p.step := by
  rw [time_iterate, p.time_start, zero_add, towards]
  by_cases ht : 0 < t
  · rw [if_pos ht, abs_of_pos ht]
    rw [abs_of_pos ht] at h
    exact abs_of_nonneg (by linarith)
  · have hneg := not_lt.mp ht
    rw [if_neg ht, abs_of_nonpos hneg]
    rw [abs_of_nonpos hneg] at h
    rw [abs_of_nonpos (by linarith)]
    ring

theorem steps_mul_le (t : K) : p.steps t * p.step ≤ |t| := by
  have h : (p.steps t : K) ≤ |t| / p.step :=
    Nat.floor_le (div_nonneg (abs_nonneg t) p.step_pos.le)
  exact (le_div_iff₀ p.step_pos).mp h

theorem lt_steps_mul (t : K) : |t| < (p.steps t + 1) * p.step :=
  (div_lt_iff₀ p.step_pos).mp (Nat.lt_floor_add_one (|t| / p.step))

theorem near_iterate_iff {t : K} {n : Nat} (h : n ≤ p.steps t) :
    p.near t ((p.advance (p.towards t))^[n] p.start) = true ↔ n = p.steps t := by
  have hle : (n : K) * p.step ≤ |t| :=
    le_trans (mul_le_mul_of_nonneg_right (by exact_mod_cast h) p.step_pos.le) (p.steps_mul_le t)
  rw [near, decide_eq_true_eq, p.distance_iterate hle]
  constructor
  · intro hlt
    by_contra hne
    have hsucc : (n : K) + 1 ≤ p.steps t := by exact_mod_cast Nat.lt_of_le_of_ne h hne
    have := mul_le_mul_of_nonneg_right hsucc p.step_pos.le
    have := p.steps_mul_le t
    linarith
  · rintro rfl
    have := p.lt_steps_mul t
    linarith

/-- The loop towards `t` from any state on the way ends at the state for `t`. -/
theorem advanceUntil_on_the_way {t : K} {n : Nat} (h : n ≤ p.steps t) :
    advanceUntil (p.near t) (p.advance (p.towards t))
        (p.fuel t ((p.advance (p.towards t))^[n] p.start))
        ((p.advance (p.towards t))^[n] p.start) = some (p.stateAt t) := by
  have hmul : (n : K) * p.step ≤ |t| :=
    le_trans (mul_le_mul_of_nonneg_right (by exact_mod_cast h) p.step_pos.le) (p.steps_mul_le t)
  have hfuel : p.steps t - n < p.fuel t ((p.advance (p.towards t))^[n] p.start) := by
    rw [fuel, p.distance_iterate hmul, sub_div, mul_div_cancel_right₀ _ p.step_pos.ne',
      Nat.floor_sub_natCast]
    exact lt_of_le_of_lt le_rfl (Nat.lt_add_of_pos_right (by omega))
  rw [advanceUntil_iterate (n := p.steps t - n) ?_ ?_ hfuel]
  · rw [← Function.iterate_add_apply, Nat.sub_add_cancel h]
    rfl
  · intro i hi
    rw [← Function.iterate_add_apply, Bool.eq_false_iff]
    intro hnear
    have := (p.near_iterate_iff (n := i + n) (by omega)).mp hnear
    omega
  · rw [← Function.iterate_add_apply, Nat.sub_add_cancel h]
    exact (p.near_iterate_iff le_rfl).mpr rfl

omit [IsStrictOrderedRing K] in
theorem time_stateAt (t : K) : p.time (p.stateAt t) = p.steps t * p.towards t := by
  rw [stateAt, time_iterate, p.time_start, zero_add]

omit [FloorSemiring K] in
theorem abs_towards (t : K) : |p.towards t| = p.step := by
  rw [towards]
  split
  · exact abs_of_pos p.step_pos
  · rw [abs_neg, abs_of_pos p.step_pos]

/-- A state that a request goes on from lies on the way to the time asked for. -/
theorem towards_eq_of_mul_pos {t u : K} (h : 0 < t * p.time (p.stateAt u)) :
    p.towards t = p.towards u := by
  rw [time_stateAt] at h
  have hsteps : (0 : K) ≤ p.steps u := Nat.cast_nonneg _
  unfold towards at h ⊢
  by_cases hu : 0 < u
  · rw [if_pos hu] at h ⊢
    have ht : 0 < t := pos_of_mul_pos_left h (mul_nonneg hsteps p.step_pos.le)
    rw [if_pos ht]
  · rw [if_neg hu] at h ⊢
    have ht : ¬ 0 < t := by
      intro ht
      have : t * (p.steps u * -p.step) ≤ 0 :=
        mul_nonpos_of_nonneg_of_nonpos ht.le
          (mul_nonpos_of_nonneg_of_nonpos hsteps (neg_nonpos.mpr p.step_pos.le))
      linarith
    rw [if_neg ht]

/-- **What a request reaches is the state for its time, whatever was kept.** -/
theorem request_eq {s : σ} (h : p.Kept s) (t : K) : p.request t s = some (p.stateAt t) := by
  unfold request
  by_cases hback : p.time s = 0 ∨ t * p.time s ≤ 0 ∨ |t| < |p.time s|
  · rw [resume, if_pos hback]
    exact p.advanceUntil_on_the_way (n := 0) (Nat.zero_le _)
  · rw [resume, if_neg hback]
    push Not at hback
    obtain ⟨hne, hpos, hle⟩ := hback
    obtain ⟨u, rfl⟩ := h.resolve_left hne
    have hdir := p.towards_eq_of_mul_pos hpos
    rw [time_stateAt, abs_mul, abs_towards, Nat.abs_cast] at hle
    have hsteps : p.steps u ≤ p.steps t :=
      Nat.le_floor ((le_div_iff₀ p.step_pos).mpr hle)
    rw [stateAt, ← hdir]
    exact p.advanceUntil_on_the_way hsteps

omit [IsStrictOrderedRing K] in
theorem kept_stateAt (t : K) : p.Kept (p.stateAt t) := Or.inr ⟨t, rfl⟩

/-- The state for `t` is less than a step away from `t` and not beyond it. -/
theorem distance_stateAt (t : K) : |t - p.time (p.stateAt t)| < p.step ∧
    |p.time (p.stateAt t)| ≤ |t| := by
  constructor
  · exact of_decide_eq_true ((p.near_iterate_iff (t := t) le_rfl).mpr rfl)
  · rw [time_stateAt, abs_mul, abs_towards, Nat.abs_cast]
    exact p.steps_mul_le t

end Process
end SteppedCache

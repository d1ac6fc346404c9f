import Mathlib

/-!
# Simulation time, errors and random draws

What the modules use of the simulation kernel. A `simtime_t` is an `Int`, the
count of its ticks; a tick is a picosecond, the kernel's default resolution.
Everything that stops the simulation is a `SimError`. A value of `Rng` is one
behaviour of the random number generators during one event.
-/

set_option autoImplicit false

namespace SpaceVeins

namespace SimTime

/-- `SimTime(n, SIMTIME_S)`. -/
def ofS (n : Int) : Int := n * 1000000000000

/-- `SimTime(n, SIMTIME_MS)`. -/
def ofMs (n : Int) : Int := n * 1000000000

/-- `SimTime::dbl`, in seconds. -/
def dbl (t : Int) : ℚ := t / 1000000000000

/-- `omnetpp::fmod` on simulation times. -/
def fmod (x y : Int) : Int := Int.tmod x y

theorem dbl_sub (s t : Int) : dbl (s - t) = dbl s - dbl t := by
  unfold dbl
  push_cast
  ring

theorem dbl_ofMs (n : Int) : dbl (ofMs n) = n / 1000 := by
  unfold dbl ofMs
  push_cast
  ring

end SimTime

/-- The cast `(int64)x` of a double cuts the fraction off. -/
def int64 (x : ℚ) : Int := Int.tdiv x.num x.den

theorem int64_of_nonneg {x : ℚ} (hx : 0 ≤ x) : int64 x = ⌊x⌋ := by
  rw [int64, Int.tdiv_eq_ediv_of_nonneg (Rat.num_nonneg.mpr hx), Rat.floor_def']

theorem int64_nonneg {x : ℚ} (hx : 0 ≤ x) : 0 ≤ int64 x := by
  rw [int64_of_nonneg hx]
  exact Int.floor_nonneg.mpr hx

@[simp] theorem int64_natCast (n : Nat) : int64 (n : ℚ) = n := by simp [int64]

/-- What ends a simulation run. -/
inductive SimError where
  /-- An `ASSERT` of the C++ code does not hold. -/
  | assertFailed (condition : String)
  /-- `scheduleAt` with a time in the past. -/
  | pastEvent
  /-- `scheduleAt` with a message that is already scheduled. -/
  | alreadyScheduled
  /-- `throw cRuntimeError(...)`. -/
  | cRuntimeError (message : String)
deriving DecidableEq, Repr

theorem bind_eq_ok {ε α β : Type} {x : Except ε α} {f : α → Except ε β} {b : β} :
    (x >>= f) = .ok b ↔ ∃ a, x = .ok a ∧ f a = .ok b := by
  cases x with
  | error e => simp [bind, Except.bind]
  | ok a => simp [bind, Except.bind]

def assert (condition : String) (holds : Bool) : Except SimError Unit :=
  if holds then .ok () else .error (.assertFailed condition)

/-- `scheduleAt(t, msg)` at time `now`; a message is the time it is scheduled for, if any. -/
def scheduleAt (now t : Int) (msg : Option Int) : Except SimError (Option Int) :=
  if t < now then .error .pastEvent
  else if msg.isSome then .error .alreadyScheduled
  else .ok (some t)

theorem assert_eq_ok {c : String} {b : Bool} {u : Unit} : assert c b = .ok u ↔ b = true := by
  cases b <;> simp [assert]

theorem scheduleAt_eq_ok {now t : Int} {msg r : Option Int} :
    scheduleAt now t msg = .ok r ↔ now ≤ t ∧ msg = none ∧ r = some t := by
  unfold scheduleAt
  split
  · simp only [reduceCtorEq, false_iff]
    omega
  · rename_i hle
    cases msg with
    | some u => simp
    | none => simp [not_lt.mp hle, eq_comm]

/-- One behaviour of the random number generators. `uniform` gets its bounds in either order. -/
structure Rng where
  intuniform : Int → Int → Int
  uniform : Int → Int → Int
  intuniform_mem : ∀ a b, a ≤ b → a ≤ intuniform a b ∧ intuniform a b ≤ b
  uniform_mem : ∀ a b, min a b ≤ uniform a b ∧ uniform a b ≤ max a b

namespace Rng

/-- The generators that return `d` and `u` wherever the bounds allow it. -/
def drawing (d : Int) (u : Int) : Rng where
  intuniform a b := max a (min d b)
  uniform a b := max (min a b) (min u (max a b))
  intuniform_mem a b h := by omega
  uniform_mem a b := by omega

theorem drawing_intuniform {a b d : Int} (u : Int) (ha : a ≤ d) (hb : d ≤ b) :
    (drawing d u).intuniform a b = d := by
  change max a (min d b) = d
  omega

end Rng
end SpaceVeins

import Mathlib.Data.List.Basic

/-!
# Vectors of the C++ library and loops over them

A `std::vector` is the list of its elements. An access behind the end is
undefined behaviour, and a failed `assert` ends the program; both stop a
computation here. A `for` loop with an index that runs from 0 passes its
variables from one round to the next.
-/

set_option autoImplicit false

namespace CxxVector

inductive VectorError where
  /-- An index that is not below `size()`. -/
  | outOfBounds
  | assertFailed (condition : String)
deriving DecidableEq, Repr

variable {α σ : Type}

/-- `v[i]`. -/
def get (v : List α) (i : Nat) : Except VectorError α :=
  match v[i]? with
  | none => .error .outOfBounds
  | some a => .ok a

/-- `v[i] = a`. -/
def set (v : List α) (i : Nat) (a : α) : Except VectorError (List α) :=
  if i < v.length then .ok (List.set v i a) else .error .outOfBounds

/-- `v[i] += a`. -/
def addAt [Add α] (v : List α) (i : Nat) (a : α) : Except VectorError (List α) := do
  set v i ((← get v i) + a)

/-- `assert` of `<cassert>`. -/
def cassert (condition : String) (holds : Bool) : Except VectorError Unit :=
  if holds then .ok () else .error (.assertFailed condition)

/-- `n` rounds of a loop, the first one with index `i`. -/
def loopFrom (body : Nat → σ → Except VectorError σ) (i : Nat) : Nat → σ → Except VectorError σ
  | 0, s => .ok s
  | n + 1, s => do loopFrom body (i + 1) n (← body i s)

/-- `for (i = 0; i < n; i++)`. -/
def forLoop (n : Nat) (s : σ) (body : Nat → σ → Except VectorError σ) : Except VectorError σ :=
  loopFrom body 0 n s

@[simp] theorem ok_bind {β γ : Type} (b : β) (f : β → Except VectorError γ) :
    (Except.ok b >>= f) = f b := rfl

@[simp] theorem error_bind {β γ : Type} (e : VectorError) (f : β → Except VectorError γ) :
    ((Except.error e : Except VectorError β) >>= f) = .error e := rfl

@[simp] theorem pure_eq_ok {β : Type} (b : β) : (pure b : Except VectorError β) = .ok b := rfl

theorem forLoop_error {n : Nat} {s : σ} {body : Nat → σ → Except VectorError σ} {e : VectorError}
    (hn : 0 < n) (hbody : body 0 s = .error e) : forLoop n s body = .error e := by
  cases n with
  | zero => omega
  | succ n => rw [forLoop, loopFrom, hbody, error_bind]

theorem loopFrom_push {a : α} {body : Nat → List α → Except VectorError (List α)}
    (hbody : ∀ i r, body i r = .ok (r ++ [a])) (n : Nat) :
    ∀ i r, loopFrom body i n r = .ok (r ++ List.replicate n a) := by
  induction n with
  | zero => simp [loopFrom]
  | succ n ih =>
    intro i r
    rw [loopFrom, hbody, ok_bind, ih, List.append_assoc]
    rfl

theorem forLoop_push {a : α} {body : Nat → List α → Except VectorError (List α)} (n : Nat)
    (hbody : ∀ i r, body i r = .ok (r ++ [a])) : forLoop n [] body = .ok (List.replicate n a) :=
  loopFrom_push hbody n 0 []

@[simp] theorem get_cons_zero (a : α) (v : List α) : get (a :: v) 0 = .ok a := rfl

@[simp] theorem get_cons_succ (a : α) (v : List α) (i : Nat) : get (a :: v) (i + 1) = get v i := rfl

@[simp] theorem get_nil (i : Nat) : get ([] : List α) i = .error .outOfBounds := rfl

@[simp] theorem set_cons_zero (b a : α) (v : List α) : set (b :: v) 0 a = .ok (a :: v) := by
  simp [set]

@[simp] theorem set_cons_succ (b a : α) (v : List α) (i : Nat) :
    set (b :: v) (i + 1) a = (set v i a).map (b :: ·) := by
  unfold set
  by_cases h : i < v.length
  · simp [h, Except.map]
  · simp [h, Except.map]

@[simp] theorem addAt_cons_zero [Add α] (b a : α) (v : List α) :
    addAt (b :: v) 0 a = .ok ((b + a) :: v) := by
  simp [addAt]

@[simp] theorem addAt_cons_succ [Add α] (b a : α) (v : List α) (i : Nat) :
    addAt (b :: v) (i + 1) a = (addAt v i a).map (b :: ·) := by
  unfold addAt
  cases hget : get v i with
  | error e => simp [hget, bind, Except.bind, Except.map]
  | ok c => simp [hget]

@[simp] theorem addAt_nil [Add α] (i : Nat) (a : α) : addAt [] i a = .error .outOfBounds := rfl

end CxxVector

import Mathlib.Data.List.Basic
import Mathlib.Tactic.Common

/-!
# Append-only logs and readers that lag behind

A writer appends to a log, and every reader has read a prefix of it. What a
prefix amounts to is a fold over its entries, so it does not change when the log
grows. A log is honest if each entry agrees with what the entries before it
amount to; then a reader that keeps the fold finds each entry to agree with its
own view when it reads it.
-/

set_option autoImplicit false

namespace Journal

universe u v
variable {ε : Type u} {β : Type v} {f : β → ε → β} {b : β} {log : List ε} {e : ε} {m n : Nat}

/-- What the first `n` entries amount to. -/
def view (f : β → ε → β) (b : β) (log : List ε) (n : Nat) : β := (log.take n).foldl f b

/-- The entries from position `m` on, before position `n`. -/
def between (log : List ε) (m n : Nat) : List ε := (log.take n).drop m

theorem view_append (h : n ≤ log.length) (more : List ε) :
    view f b (log ++ more) n = view f b log n := by
  rw [view, view, List.take_append_of_le_length h]

theorem view_succ (h : log[n]? = some e) : view f b log (n + 1) = f (view f b log n) e := by
  rw [view, view, List.take_add_one, h, Option.toList_some, List.foldl_append]
  rfl

theorem view_snoc (e : ε) :
    view f b (log ++ [e]) (log.length + 1) = f (view f b log log.length) e := by
  rw [view_succ List.getElem?_concat_length, view_append (Nat.le_refl _)]

theorem view_induction {P : β → Prop} (hb : P b) (keep : ∀ x, P x → ∀ e ∈ log, P (f x e))
    (n : Nat) : P (view f b log n) := by
  have hall : ∀ entries : List ε, entries ⊆ log → ∀ x, P x → P (entries.foldl f x) := by
    intro entries
    induction entries with
    | nil => exact fun _ x hx => hx
    | cons e entries ih =>
      intro hsub x hx
      obtain ⟨he, hrest⟩ := List.cons_subset.mp hsub
      exact ih hrest (f x e) (keep x hx e he)
  exact hall (log.take n) (List.take_subset n log) b hb

theorem between_self (log : List ε) (m : Nat) : between log m m = [] := by
  rw [between, List.drop_eq_nil_iff]
  exact List.length_take_le m log

theorem between_append (h : n ≤ log.length) (more : List ε) :
    between (log ++ more) m n = between log m n := by
  rw [between, between, List.take_append_of_le_length h]

theorem between_succ (hmn : m ≤ n) (h : log[n]? = some e) :
    between log m (n + 1) = between log m n ++ [e] := by
  obtain ⟨hn, _⟩ := List.getElem?_eq_some_iff.mp h
  rw [between, between, List.take_add_one, h, Option.toList_some, List.drop_append_of_le_length]
  rw [List.length_take]
  omega

/-- Every entry agrees with what the entries before it amount to. -/
def Honest (f : β → ε → β) (b : β) (Q : β → ε → Prop) (log : List ε) : Prop :=
  ∀ n e, log[n]? = some e → Q (view f b log n) e

theorem honest_nil {Q : β → ε → Prop} : Honest f b Q [] := by
  intro n e h
  simp at h

/-- A writer that knows the fold of its log keeps it honest. -/
theorem Honest.snoc {Q : β → ε → Prop} (h : Honest f b Q log)
    (he : Q (view f b log log.length) e) : Honest f b Q (log ++ [e]) := by
  intro n x hx
  rcases Nat.lt_trichotomy n log.length with hn | rfl | hn
  · rw [List.getElem?_append_left hn] at hx
    rw [view_append (Nat.le_of_lt hn)]
    exact h n x hx
  · rw [List.getElem?_concat_length] at hx
    obtain rfl := Option.some.inj hx
    rwa [view_append (Nat.le_refl _)]
  · have hbeyond : (log ++ [e]).length ≤ n := by
      rw [List.length_append, List.length_singleton]
      exact hn
    rw [List.getElem?_eq_none hbeyond] at hx
    cases hx

end Journal

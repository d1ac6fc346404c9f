import Mathlib.Data.List.Basic

/-!
# Interleavings

A list can be dealt out to two others so that each of them keeps the order. The
lists grow at their ends, as records of what has happened do. Nothing here depends
on what the elements are.
-/

set_option autoImplicit false

namespace Interleaving

universe u
variable {α : Type u}

/-- `Interleaves xs ys zs`: every element of `zs` went either to `xs` or to `ys`, in order. -/
inductive Interleaves : List α → List α → List α → Prop where
  | nil : Interleaves [] [] []
  | left {xs ys zs : List α} (x : α) :
      Interleaves xs ys zs → Interleaves (xs ++ [x]) ys (zs ++ [x])
  | right {xs ys zs : List α} (y : α) :
      Interleaves xs ys zs → Interleaves xs (ys ++ [y]) (zs ++ [y])

namespace Interleaves
variable {xs ys zs : List α}

theorem left_sublist (h : Interleaves xs ys zs) : xs.Sublist zs := by
  induction h with
  | nil => exact List.Sublist.refl []
  | left x _ ih => exact ih.append (List.Sublist.refl [x])
  | right y _ ih => exact ih.trans (List.sublist_append_left _ _)

end Interleaves
end Interleaving

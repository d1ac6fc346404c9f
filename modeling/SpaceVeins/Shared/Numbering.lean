import Mathlib

/-!
# First-come numbering of keys in an ordered map

`number f m k` inserts `k` with the value `f n`, where `n` is the number of keys
already present, and leaves the map alone if `k` is one of them. The abstract
side is a duplicate-free list of keys in the order in which they came; the map
represents the list when the key at position `i` carries `f i`.
-/

set_option autoImplicit false

namespace Numbering
open Std

universe u v
variable {κ : Type u} {β : Type v}

/-- The abstract registry appends a key that it does not hold yet. -/
def enroll [DecidableEq κ] (l : List κ) (k : κ) : List κ := if k ∈ l then l else l ++ [k]

section Registry
variable [DecidableEq κ]

theorem enroll_of_mem {l : List κ} {k : κ} (h : k ∈ l) : enroll l k = l := if_pos h

theorem enroll_of_not_mem {l : List κ} {k : κ} (h : k ∉ l) : enroll l k = l ++ [k] := if_neg h

theorem enroll_nodup {l : List κ} (h : l.Nodup) (k : κ) : (enroll l k).Nodup := by
  by_cases hk : k ∈ l
  · rwa [enroll_of_mem hk]
  · rw [enroll_of_not_mem hk]
    exact h.append (List.nodup_singleton k) (by simpa using hk)

theorem foldl_enroll_nil (ks : List κ) : ks.foldl enroll [] = ks.eraseDups := by
  induction ks using List.reverseRecOn with
  | nil => simp
  | append_singleton ks k ih =>
    rw [List.foldl_append, List.foldl_cons, List.foldl_nil, ih, List.eraseDups_append]
    by_cases hk : k ∈ ks
    · rw [enroll_of_mem (List.mem_eraseDups.mpr hk)]
      simp [List.removeAll, hk]
    · rw [enroll_of_not_mem (fun h => hk (List.mem_eraseDups.mp h))]
      simp [List.removeAll, hk, List.eraseDups_cons]

theorem foldl_enroll_nodup {l : List κ} (h : l.Nodup) (ks : List κ) :
    (ks.foldl enroll l).Nodup := by
  induction ks generalizing l with
  | nil => exact h
  | cons k ks ih => exact ih (enroll_nodup h k)

theorem eraseDups_nodup (ks : List κ) : ks.eraseDups.Nodup := by
  rw [← foldl_enroll_nil]
  exact foldl_enroll_nodup List.nodup_nil ks

theorem eraseDups_of_nodup {ks : List κ} (h : ks.Nodup) : ks.eraseDups = ks := by
  induction ks with
  | nil => rfl
  | cons k ks ih =>
    rw [List.nodup_cons] at h
    have hkeep : ks.filter (fun a => !a == k) = ks := by
      apply List.filter_eq_self.mpr
      intro a ha
      have hne : a ≠ k := fun heq => h.1 (heq ▸ ha)
      simp [hne]
    rw [List.eraseDups_cons, hkeep, ih h.2]

end Registry

theorem getElem?_snoc {l : List κ} {a k : κ} {i : Nat} :
    (l ++ [k])[i]? = some a ↔ l[i]? = some a ∨ (i = l.length ∧ a = k) := by
  rcases Nat.lt_trichotomy i l.length with hi | hi | hi
  · rw [List.getElem?_append_left hi]
    exact ⟨Or.inl, fun h => h.resolve_right (fun hc => absurd hc.1 (by omega))⟩
  · subst i
    simp [eq_comm]
  · rw [List.getElem?_eq_none (by simpa using hi), List.getElem?_eq_none (by omega)]
    simp
    omega

section Map
variable {cmp : κ → κ → Ordering} [TransCmp cmp]

/-- Insert `k` under the next free number; an existing key keeps its value. -/
def number (f : Nat → β) (m : ExtTreeMap κ β cmp) (k : κ) : ExtTreeMap κ β cmp :=
  m.insertIfNew k (f m.size)

/-- The key at position `i` of the list carries `f i`, and the map holds nothing else. -/
structure Represents (f : Nat → β) (l : List κ) (m : ExtTreeMap κ β cmp) : Prop where
  nodup : l.Nodup
  size : m.size = l.length
  entries : ∀ k v, m[k]? = some v ↔ ∃ i, l[i]? = some k ∧ v = f i

variable {f : Nat → β} {l : List κ} {m : ExtTreeMap κ β cmp}

theorem represents_empty : Represents f [] (∅ : ExtTreeMap κ β cmp) where
  nodup := List.nodup_nil
  size := by simp
  entries := by simp

namespace Represents

theorem mem_iff (h : Represents f l m) {k : κ} : k ∈ m ↔ k ∈ l := by
  rw [← ExtTreeMap.isSome_getElem?_iff_mem, Option.isSome_iff_exists, List.mem_iff_getElem?]
  constructor
  · rintro ⟨v, hv⟩
    obtain ⟨i, hi, _⟩ := (h.entries k v).mp hv
    exact ⟨i, hi⟩
  · rintro ⟨i, hi⟩
    exact ⟨f i, (h.entries k (f i)).mpr ⟨i, hi, rfl⟩⟩

variable [LawfulEqCmp cmp] [DecidableEq κ]

/-- The map operation carries out the operation of the abstract registry. -/
theorem number (h : Represents f l m) (k : κ) :
    Represents f (enroll l k) (number f m k) := by
  by_cases hk : k ∈ l
  · have hsame : Numbering.number f m k = m := by
      apply ExtTreeMap.ext_getElem?
      intro a
      rw [Numbering.number, ExtTreeMap.getElem?_insertIfNew]
      simp [h.mem_iff, hk]
    rwa [hsame, enroll_of_mem hk]
  · refine ⟨enroll_nodup h.nodup k, ?_, ?_⟩
    · rw [Numbering.number, ExtTreeMap.size_insertIfNew, if_neg (mt h.mem_iff.mp hk),
        enroll_of_not_mem hk, h.size, List.length_append, List.length_singleton]
    · intro a v
      rw [Numbering.number, ExtTreeMap.getElem?_insertIfNew, enroll_of_not_mem hk]
      simp only [getElem?_snoc]
      by_cases hka : k = a
      · subst a
        have hnew : cmp k k = .eq ∧ k ∉ m := ⟨ReflCmp.compare_self, mt h.mem_iff.mp hk⟩
        rw [if_pos hnew, h.size]
        constructor
        · intro hv
          exact ⟨l.length, Or.inr ⟨rfl, rfl⟩, (Option.some.inj hv).symm⟩
        · rintro ⟨i, hi | ⟨rfl, _⟩, rfl⟩
          · exact absurd (List.mem_of_getElem? hi) hk
          · rfl
      · have hold : ¬ (cmp k a = .eq ∧ k ∉ m) := fun hc => hka (LawfulEqCmp.eq_of_compare hc.1)
        rw [if_neg hold, h.entries]
        constructor
        · rintro ⟨i, hi, rfl⟩
          exact ⟨i, Or.inl hi, rfl⟩
        · rintro ⟨i, hi | ⟨_, rfl⟩, rfl⟩
          · exact ⟨i, hi, rfl⟩
          · exact absurd rfl hka

end Represents

theorem number_keeps [LawfulEqCmp cmp] {k a : κ} {v : β} (h : m[a]? = some v) :
    (number f m k)[a]? = some v := by
  rw [number, ExtTreeMap.getElem?_insertIfNew]
  by_cases hc : cmp k a = .eq ∧ k ∉ m
  · have hka : k = a := LawfulEqCmp.eq_of_compare hc.1
    subst a
    exact absurd (ExtTreeMap.mem_iff_isSome_getElem?.mpr (by simp [h])) hc.2
  · rw [if_neg hc, h]

end Map
end Numbering

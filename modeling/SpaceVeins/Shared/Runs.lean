import Mathlib.Data.List.Basic
import Mathlib.Tactic.Common

/-!
# Recorded runs of a labelled transition system

`Step s e t` is one step from `s` to `t` under the event `e`. A run records
every step it takes, with the states before and after it, so that a condition on
the steps of a run and a property of the states it visits are both statements
about the recorded path. Nothing here depends on what the states are.
-/

set_option autoImplicit false

namespace Runs

universe u v
variable {σ : Type u} {ε : Type v}

/-- `Run Step s path t`: the steps in `path`, oldest first, lead from `s` to `t`. -/
inductive Run (Step : σ → ε → σ → Prop) (s : σ) : List (σ × ε × σ) → σ → Prop where
  | refl : Run Step s [] s
  | snoc {path : List (σ × ε × σ)} {t u : σ} {e : ε} :
      Run Step s path t → Step t e u → Run Step s (path ++ [(t, e, u)]) u

namespace Run
variable {Step : σ → ε → σ → Prop} {s t u : σ} {path : List (σ × ε × σ)} {e : ε}

theorem single (h : Step s e t) : Run Step s [(s, e, t)] t := .snoc .refl h

theorem trans {rest : List (σ × ε × σ)} (hst : Run Step s path t) (htu : Run Step t rest u) :
    Run Step s (path ++ rest) u := by
  induction htu with
  | refl => simpa using hst
  | snoc _ hstep ih =>
    rw [← List.append_assoc]
    exact .snoc ih hstep

theorem split {first rest : List (σ × ε × σ)} (h : Run Step s (first ++ rest) u) :
    ∃ t, Run Step s first t ∧ Run Step t rest u := by
  generalize hpath : first ++ rest = path at h
  induction h generalizing rest with
  | refl =>
    obtain ⟨rfl, rfl⟩ := List.append_eq_nil_iff.mp hpath
    exact ⟨s, .refl, .refl⟩
  | @snoc path t u e hrun hstep ih =>
    rcases List.eq_nil_or_concat' rest with rfl | ⟨rest, last, rfl⟩
    · rw [List.append_nil] at hpath
      subst hpath
      exact ⟨u, .snoc hrun hstep, .refl⟩
    · rw [← List.append_assoc] at hpath
      obtain ⟨hfirst, hlast⟩ := List.append_inj' hpath rfl
      obtain ⟨m, hm, hrest⟩ := ih hfirst
      obtain rfl := List.singleton_inj.mp hlast
      exact ⟨m, hm, .snoc hrest hstep⟩

theorem eq_of_nil (h : Run Step s [] t) : t = s := by
  generalize hpath : ([] : List (σ × ε × σ)) = path at h
  cases h with
  | refl => rfl
  | snoc => simp at hpath

theorem of_cons {a b : σ} (h : Run Step s ((a, e, b) :: path) t) :
    a = s ∧ Step s e b ∧ Run Step b path t := by
  have hsplit : Run Step s ([(a, e, b)] ++ path) t := h
  obtain ⟨m, hfirst, hrest⟩ := hsplit.split
  generalize hpath : [(a, e, b)] = first at hfirst
  cases hfirst with
  | refl => simp at hpath
  | @snoc p x _ e' hrun hstep =>
    obtain ⟨rfl, hlast⟩ : [] = p ∧ [(a, e, b)] = [(x, e', m)] :=
      List.append_inj' (by simpa using hpath) rfl
    obtain rfl := hrun.eq_of_nil
    obtain ⟨rfl, rfl, rfl⟩ : a = x ∧ e = e' ∧ b = m := by simpa using hlast
    exact ⟨rfl, hstep, hrest⟩

theorem cons (h : Step s e t) (hrun : Run Step t path u) : Run Step s ((s, e, t) :: path) u :=
  (single h).trans hrun

/-- What every step preserves holds at the end of a run. -/
theorem invariant {P : σ → Prop} (hs : P s) (keep : ∀ t e u, P t → Step t e u → P u)
    (h : Run Step s path t) : P t := by
  induction h with
  | refl => exact hs
  | snoc _ hstep ih => exact keep _ _ _ ih hstep

theorem reached_of_mem {a b : σ} (h : Run Step s path t) (hm : (a, e, b) ∈ path) :
    ∃ first, first <+: path ∧ Run Step s first a ∧ Step a e b := by
  obtain ⟨first, rest, rfl⟩ := List.append_of_mem hm
  obtain ⟨m, hfirst, hrest⟩ := h.split
  obtain ⟨rfl, hstep, _⟩ := hrest.of_cons
  exact ⟨first, List.prefix_append _ _, hfirst, hstep⟩

theorem step_of_mem {a b : σ} (h : Run Step s path t) (hm : (a, e, b) ∈ path) : Step a e b := by
  obtain ⟨_, _, _, hstep⟩ := h.reached_of_mem hm
  exact hstep

theorem invariant_of_mem {P : σ → Prop} (hs : P s) (keep : ∀ t e u, P t → Step t e u → P u)
    (h : Run Step s path t) {a b : σ} (hm : (a, e, b) ∈ path) : P a ∧ P b := by
  obtain ⟨_, _, hfirst, hstep⟩ := h.reached_of_mem hm
  have ha := hfirst.invariant hs keep
  exact ⟨ha, keep _ _ _ ha hstep⟩

/-- A property that a step keeps under a condition holds wherever a run gets
whose steps all meet the condition. `I` is what holds without the condition. -/
theorem invariant_of_guard {I P : σ → Prop} {G : σ → ε → Prop}
    (hI : I s) (hP : P s)
    (keepI : ∀ t e u, I t → Step t e u → I u)
    (keepP : ∀ t e u, I t → P t → Step t e u → G t e → P u)
    (h : Run Step s path t) (guarded : ∀ a e b, (a, e, b) ∈ path → G a e) : P t := by
  induction h with
  | refl => exact hP
  | @snoc path t u e hrun hstep ih =>
    have hbefore : ∀ a e b, (a, e, b) ∈ path → G a e := by
      intro a e b hm
      exact guarded a e b (List.mem_append_left _ hm)
    exact keepP t e u (hrun.invariant hI keepI) (ih hbefore) hstep
      (guarded t e u (by simp))

/-- If one step keeps `P` exactly when it meets the condition, then the runs that
visit only states with `P` are the runs whose steps all meet the condition. -/
theorem visits_iff_guarded {I P : σ → Prop} {G : σ → ε → Prop}
    (hI : I s) (hP : P s)
    (keepI : ∀ t e u, I t → Step t e u → I u)
    (stepP : ∀ t e u, I t → P t → Step t e u → (P u ↔ G t e))
    (h : Run Step s path t) :
    (∀ a e b, (a, e, b) ∈ path → P b) ↔ (∀ a e b, (a, e, b) ∈ path → G a e) := by
  have before : ∀ {path t}, Run Step s path t → (∀ a e b, (a, e, b) ∈ path → P b) → P t := by
    intro path t hrun visits
    cases hrun with
    | refl => exact hP
    | @snoc path t _ e => exact visits t e _ (by simp)
  induction h with
  | refl => simp
  | @snoc path t u e hrun hstep ih =>
    have last : ∀ {Q : σ → ε → σ → Prop}, (∀ a f b, (a, f, b) ∈ path ++ [(t, e, u)] → Q a f b) ↔
        (∀ a f b, (a, f, b) ∈ path → Q a f b) ∧ Q t e u := by
      intro Q
      constructor
      · intro all
        exact ⟨fun a f b hm => all a f b (List.mem_append_left _ hm), all t e u (by simp)⟩
      · rintro ⟨all, hlast⟩ a f b hm
        rcases List.mem_append.mp hm with hm | hm
        · exact all a f b hm
        · obtain ⟨rfl, rfl, rfl⟩ : a = t ∧ f = e ∧ b = u := by simpa using hm
          exact hlast
    have hIt := hrun.invariant hI keepI
    rw [last, last]
    constructor
    · rintro ⟨visits, hu⟩
      exact ⟨ih.mp visits, (stepP t e u hIt (before hrun visits) hstep).mp hu⟩
    · rintro ⟨guarded, hg⟩
      have visits := ih.mpr guarded
      exact ⟨visits, (stepP t e u hIt (before hrun visits) hstep).mpr hg⟩

/-- If every step that meets the condition is, under `f`, a step of another system, then the runs
whose steps all meet the condition are runs of that system. -/
theorem map_of_guard {σ' : Type u} {Step' : σ' → ε → σ' → Prop} {f : σ → σ'} {I : σ → Prop}
    {G : ε → Prop} (hI : I s)
    (keep : ∀ t e u, I t → Step t e u → G e → I u ∧ Step' (f t) e (f u))
    (h : Run Step s path t) (guarded : ∀ a e b, (a, e, b) ∈ path → G e) :
    I t ∧ Run Step' (f s) (path.map fun x => (f x.1, x.2.1, f x.2.2)) (f t) := by
  induction h with
  | refl => exact ⟨hI, .refl⟩
  | @snoc path t u e hrun hstep ih =>
    obtain ⟨hIt, hmapped⟩ := ih fun a e b hm => guarded a e b (List.mem_append_left _ hm)
    obtain ⟨hIu, hstep'⟩ := keep t e u hIt hstep (guarded t e u (by simp))
    refine ⟨hIu, ?_⟩
    rw [List.map_append]
    exact .snoc hmapped hstep'

end Run

/-- The run along given events, if each of them can happen. -/
def replay (step? : σ → ε → Option σ) (s : σ) : List ε → Option (List (σ × ε × σ) × σ)
  | [] => some ([], s)
  | e :: events =>
    match step? s e with
    | none => none
    | some t => (replay step? t events).map fun (path, u) => ((s, e, t) :: path, u)

theorem run_of_replay {Step : σ → ε → σ → Prop} {step? : σ → ε → Option σ}
    (sound : ∀ s e t, step? s e = some t → Step s e t) {s t : σ} {events : List ε}
    {path : List (σ × ε × σ)} (h : replay step? s events = some (path, t)) :
    Run Step s path t := by
  induction events generalizing s path with
  | nil =>
    obtain ⟨rfl, rfl⟩ : path = [] ∧ t = s := by simpa [replay] using h.symm
    exact .refl
  | cons e events ih =>
    unfold replay at h
    cases hstep : step? s e with
    | none => simp [hstep] at h
    | some m =>
      obtain ⟨⟨rest, u⟩, hrest, heq⟩ : ∃ r, replay step? m events = some r ∧
          ((s, e, m) :: r.1, r.2) = (path, t) := by simpa [hstep] using h
      obtain ⟨rfl, rfl⟩ := Prod.mk.inj heq
      exact .cons (sound s e m hstep) (ih hrest)

theorem run_of_replay_get {Step : σ → ε → σ → Prop} {step? : σ → ε → Option σ}
    (sound : ∀ s e t, step? s e = some t → Step s e t) {s : σ} {events : List ε}
    (h : (replay step? s events).isSome = true) :
    Run Step s ((replay step? s events).get h).1 ((replay step? s events).get h).2 :=
  run_of_replay sound (Option.some_get h).symm

end Runs

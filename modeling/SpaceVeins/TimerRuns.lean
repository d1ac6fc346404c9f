import SpaceVeins.TimerManager
import SpaceVeins.Shared.Runs
import SpaceVeins.Shared.Numbering

/-!
# Timers over whole runs

The owner of a timer manager creates and cancels timers when it handles messages and
in the callbacks of the timers, in any order. The kernel delivers the messages by
their times.
-/

set_option autoImplicit false

namespace SpaceVeins

namespace TimerSpecification
variable {κ : Type}

/-- What the functions of the class make; its fields are private. -/
inductive Built : TimerSpecification κ → Prop where
  | new (callback : κ) : Built (new callback)
  | interval {spec spec' : TimerSpecification κ} {t : Int} :
      Built spec → spec.interval t = .ok spec' → Built spec'
  | relativeStart {spec : TimerSpecification κ} (t : Int) :
      Built spec → Built (spec.relativeStart t)
  | absoluteStart {spec : TimerSpecification κ} (t : Int) :
      Built spec → Built (spec.absoluteStart t)
  | relativeEnd {spec : TimerSpecification κ} (t : Int) : Built spec → Built (spec.relativeEnd t)
  | absoluteEnd {spec : TimerSpecification κ} (t : Int) : Built spec → Built (spec.absoluteEnd t)
  | repetitions {spec : TimerSpecification κ} (n : UInt64) : Built spec → Built (spec.repetitions n)
  | openEnd {spec : TimerSpecification κ} : Built spec → Built spec.openEnd
  | oneshotIn {spec spec' : TimerSpecification κ} {t : Int} :
      Built spec → spec.oneshotIn t = .ok spec' → Built spec'
  | oneshotAt {spec spec' : TimerSpecification κ} {t : Int} :
      Built spec → spec.oneshotAt t = .ok spec' → Built spec'

theorem interval_eq_ok {spec spec' : TimerSpecification κ} {t : Int} :
    spec.interval t = .ok spec' ↔ 0 < t ∧ spec' = { spec with period_ := t } := by
  simp only [interval, bind_eq_ok, assert_eq_ok, decide_eq_true_eq, exists_const, pure,
    Except.pure, Except.ok.injEq]
  rw [eq_comm]

theorem Built.period {spec : TimerSpecification κ} (h : Built spec) :
    spec.period_ = SimTime.ofS (-1) ∨ 0 < spec.period_ := by
  induction h with
  | new => exact .inl rfl
  | interval _ h =>
    obtain ⟨hpos, rfl⟩ := interval_eq_ok.mp h
    exact .inr hpos
  | relativeStart _ _ ih => exact ih
  | absoluteStart _ _ ih => exact ih
  | relativeEnd _ _ ih => exact ih
  | absoluteEnd _ _ ih => exact ih
  | repetitions _ _ ih => exact ih
  | openEnd _ ih => exact ih
  | oneshotIn _ h =>
    obtain ⟨spec, hspec, heq⟩ := bind_eq_ok.mp h
    obtain ⟨hpos, rfl⟩ := interval_eq_ok.mp hspec
    cases heq
    exact .inr hpos
  | oneshotAt _ h =>
    obtain ⟨spec, hspec, heq⟩ := bind_eq_ok.mp h
    obtain ⟨hpos, rfl⟩ := interval_eq_ok.mp hspec
    cases heq
    exact .inr hpos

theorem Built.period_pos {spec : TimerSpecification κ} (h : Built spec)
    (hvalid : spec.valid = true) : 0 < spec.period_ := by
  rcases h.period with hnone | hpos
  · simp [valid, hnone] at hvalid
  · exact hpos

@[simp] theorem finalize_period (now : Int) (spec : TimerSpecification κ) :
    (spec.finalize now).period_ = spec.period_ := by
  have hstart : (spec.finalizeStart now).period_ = spec.period_ := by
    unfold finalizeStart
    split <;> rfl
  rw [← hstart, finalize, finalizeEnd]
  split <;> rfl

/-- The times at which a timer may fire. -/
def occurrence (spec : TimerSpecification κ) (k : Nat) : Int := spec.start_ + k * spec.period_

@[simp] theorem occurrence_zero (spec : TimerSpecification κ) :
    spec.occurrence 0 = spec.start_ := by
  simp [occurrence]

theorem occurrence_succ (spec : TimerSpecification κ) (k : Nat) :
    spec.occurrence (k + 1) = spec.occurrence k + spec.period_ := by
  simp only [occurrence, Nat.cast_add, Nat.cast_one]
  ring

theorem occurrence_lt_iff {spec : TimerSpecification κ} (h : 0 < spec.period_) {i j : Nat} :
    spec.occurrence i < spec.occurrence j ↔ i < j := by
  have hmul : (i : Int) * spec.period_ < j * spec.period_ ↔ (i : Int) < j :=
    mul_lt_mul_iff_of_pos_right h
  rw [occurrence, occurrence, add_lt_add_iff_left, hmul, Nat.cast_lt]

theorem validOccurence_occurrence {spec : TimerSpecification κ} (h : 0 < spec.period_) (k : Nat) :
    spec.validOccurence (spec.occurrence k) = true ↔
      spec.occurrence k ≤ spec.end_time_ ∨ spec.end_mode_ = .openEnd := by
  have hstart : spec.start_ ≤ spec.occurrence k := by
    have : 0 ≤ (k : Int) * spec.period_ := by positivity
    rw [occurrence]
    omega
  have hperiod : SimTime.fmod (spec.occurrence k - spec.start_) spec.period_ = 0 := by
    rw [occurrence, add_sub_cancel_left, SimTime.fmod, Int.mul_tmod_left]
  simp only [validOccurence, hperiod, hstart, decide_true, Bool.true_and, Bool.and_true,
    Bool.or_eq_true, decide_eq_true_eq]

theorem validOccurence_mono {spec : TimerSpecification κ} (h : 0 < spec.period_) {i j : Nat}
    (hij : i ≤ j) (hj : spec.validOccurence (spec.occurrence j) = true) :
    spec.validOccurence (spec.occurrence i) = true := by
  rw [validOccurence_occurrence h] at hj ⊢
  have hle : spec.occurrence i ≤ spec.occurrence j := by
    rcases hij.eq_or_lt with rfl | hlt
    · exact le_rfl
    · exact ((occurrence_lt_iff h).mpr hlt).le
  exact hj.imp_left hle.trans

end TimerSpecification

/-- What the owner does with its timers. -/
inductive TimerCommand (κ : Type) where
  | create (spec : TimerSpecification κ) (name : String)
  | cancel (handle : Nat)

/-- A manager with the specifications that were created, by identifier, the timers that were
cancelled, and the calls of the callbacks. -/
structure WatchedTimers (κ : Type) where
  timerManager : TimerManager κ
  created : List (TimerSpecification κ)
  cancelled : List Nat
  fired : List (Nat × Int)

namespace WatchedTimers
variable {κ : Type}

def start : WatchedTimers κ := ⟨.empty, [], [], []⟩

def execute (now : Int) (w : WatchedTimers κ) :
    TimerCommand κ → Except SimError (WatchedTimers κ)
  | .create spec name => do
    let tm ← w.timerManager.create now spec name
    pure { w with timerManager := tm, created := w.created ++ [spec.finalize now] }
  | .cancel handle => pure { w with
      timerManager := w.timerManager.cancel handle
      cancelled := if (w.timerManager.find? handle).isSome then handle :: w.cancelled
        else w.cancelled }

def executeAll (now : Int) (commands : List (TimerCommand κ)) (w : WatchedTimers κ) :
    Except SimError (WatchedTimers κ) :=
  commands.foldlM (execute now) w

/-- `handleMessage` for the message of a timer, whose callback executes `commands`. -/
def deliver (now : Int) (id : Nat) (commands : List (TimerCommand κ)) (w : WatchedTimers κ) :
    Except SimError (Option (WatchedTimers κ)) :=
  TimerManager.handleMessage WatchedTimers.timerManager
    (fun tm w => { w with timerManager := tm })
    (fun _ w => executeAll now commands { w with fired := w.fired ++ [(id, now)] }) now id
    { w with timerManager := w.timerManager.setArrival id none }

/-- Nothing is due before `time`. -/
def NothingBefore (time : Int) (w : WatchedTimers κ) : Prop :=
  ∀ t ∈ w.timerManager.timers_, ∀ arrival, t.arrival = some arrival → time ≤ arrival

instance (time : Int) (w : WatchedTimers κ) : Decidable (NothingBefore time w) :=
  decidable_of_iff (∀ t ∈ w.timerManager.timers_, t.arrival.all (time ≤ ·) = true) (by
    refine forall₂_congr fun t _ => ?_
    cases t.arrival <;> simp)

def BuiltAll (commands : List (TimerCommand κ)) : Prop :=
  ∀ spec name, .create spec name ∈ commands → spec.Built

inductive Event (κ : Type) where
  | message (commands : List (TimerCommand κ))
  | timer (id : Nat) (commands : List (TimerCommand κ))

/-- The owner handles another message, or the next timer is due. -/
inductive Step : Int × WatchedTimers κ → Event κ → Int × WatchedTimers κ → Prop where
  | message {now time : Int} {w w' : WatchedTimers κ} {commands : List (TimerCommand κ)} :
      now ≤ time → NothingBefore time w → BuiltAll commands →
      executeAll time commands w = .ok w' → Step (now, w) (.message commands) (time, w')
  | timer {now time : Int} {w w' : WatchedTimers κ} {commands : List (TimerCommand κ)}
      {t : Timer κ} :
      t ∈ w.timerManager.timers_ → t.arrival = some time → NothingBefore time w →
      BuiltAll commands → deliver time t.id commands w = .ok (some w') →
      Step (now, w) (.timer t.id commands) (time, w')

/-- When a timer has fired. -/
def times (w : WatchedTimers κ) (id : Nat) : List Int :=
  (w.fired.filter fun f => f.1 = id).map Prod.snd

/-- An entry of `timers_`. -/
def Entered (tm : TimerManager κ) (id : Nat) (spec : TimerSpecification κ)
    (arrival : Option Int) : Prop :=
  ∃ t ∈ tm.timers_, t.id = id ∧ t.spec = spec ∧ t.arrival = arrival

def Absent (tm : TimerManager κ) (id : Nat) : Prop := ∀ t ∈ tm.timers_, t.id ≠ id

/-- What may hold of a timer after it has fired `k` times; `busy` is the timer whose callback is
running. -/
inductive Status (busy : Option Nat) (now : Int) (w : WatchedTimers κ) (id : Nat)
    (spec : TimerSpecification κ) (k : Nat) : Prop where
  | waiting : busy ≠ some id → Entered w.timerManager id spec (some (spec.occurrence k)) →
      now ≤ spec.occurrence k → (k = 0 ∨ spec.validOccurence (spec.occurrence k) = true) →
      Status busy now w id spec k
  | running (j : Nat) : busy = some id → k = j + 1 → Entered w.timerManager id spec none →
      now = spec.occurrence j → Status busy now w id spec k
  | gone : Absent w.timerManager id →
      (id ∈ w.cancelled ∨ spec.validOccurence (spec.occurrence k) = false) →
      Status busy now w id spec k

structure OnSchedule (busy : Option Nat) (now : Int) (w : WatchedTimers κ) (id : Nat)
    (spec : TimerSpecification κ) (k : Nat) : Prop where
  period_pos : 0 < spec.period_
  times_eq : w.times id = (List.range k).map spec.occurrence
  valid : ∀ i < k, spec.validOccurence (spec.occurrence i) = true
  past : ∀ i < k, spec.occurrence i ≤ now
  status : Status busy now w id spec k

structure Inv (busy : Option Nat) (now : Int) (w : WatchedTimers κ) : Prop where
  created_length : w.created.length = w.timerManager.nextId
  busy_lt : ∀ id ∈ busy, id < w.timerManager.nextId
  fired_lt : ∀ f ∈ w.fired, f.1 < w.timerManager.nextId
  cancelled_absent : ∀ id ∈ w.cancelled, id < w.timerManager.nextId ∧ Absent w.timerManager id
  known : ∀ t ∈ w.timerManager.timers_, w.created[t.id]? = some t.spec
  on_schedule : ∀ id spec, w.created[id]? = some spec → ∃ k, OnSchedule busy now w id spec k

theorem inv_start (now : Int) : Inv none now (start : WatchedTimers κ) where
  created_length := rfl
  busy_lt := by simp
  fired_lt := by simp [start]
  cancelled_absent := by simp [start]
  known := by simp [start, TimerManager.empty]
  on_schedule := by simp [start]

theorem create_eq_ok {tm tm' : TimerManager κ} {now : Int} {spec : TimerSpecification κ}
    {name : String} : tm.create now spec name = .ok tm' ↔
      spec.valid = true ∧ now ≤ (spec.finalize now).start_ ∧
        tm' = tm.insert name (spec.finalize now) (some (spec.finalize now).start_) := by
  simp only [TimerManager.create, bind_eq_ok, assert_eq_ok, scheduleAt_eq_ok, exists_const, pure,
    Except.pure, Except.ok.injEq]
  constructor
  · rintro ⟨hvalid, _, ⟨hle, _, rfl⟩, rfl⟩
    exact ⟨hvalid, hle, rfl⟩
  · rintro ⟨hvalid, hle, rfl⟩
    exact ⟨hvalid, _, ⟨hle, trivial, rfl⟩, rfl⟩

theorem mem_insert {tm : TimerManager κ} {name : String} {spec : TimerSpecification κ}
    {arrival : Option Int} {t : Timer κ} : t ∈ (tm.insert name spec arrival).timers_ ↔
      t ∈ tm.timers_ ∨ t = ⟨tm.nextId, name, spec, arrival⟩ := by
  simp [TimerManager.insert]

theorem inv_create {busy : Option Nat} {now : Int} {w : WatchedTimers κ} (h : Inv busy now w)
    {spec : TimerSpecification κ} {name : String} (hbuilt : spec.Built)
    (hvalid : spec.valid = true) (hle : now ≤ (spec.finalize now).start_) :
    Inv busy now { w with
      timerManager := w.timerManager.insert name (spec.finalize now)
        (some (spec.finalize now).start_)
      created := w.created ++ [spec.finalize now] } where
  created_length := by simp [TimerManager.insert, h.created_length]
  busy_lt := fun id hid => (h.busy_lt id hid).trans (Nat.lt_succ_self _)
  fired_lt := fun f hf => (h.fired_lt f hf).trans (Nat.lt_succ_self _)
  cancelled_absent := by
    intro id hid
    obtain ⟨hlt, habsent⟩ := h.cancelled_absent id hid
    refine ⟨hlt.trans (Nat.lt_succ_self _), fun t ht => ?_⟩
    rcases mem_insert.mp ht with ht | rfl
    · exact habsent t ht
    · exact hlt.ne'
  known := by
    intro t ht
    rcases mem_insert.mp ht with ht | rfl
    · have hlt := w.timerManager.ids_lt t ht
      rw [List.getElem?_append_left (by rw [h.created_length]; exact hlt)]
      exact h.known t ht
    · simp [← h.created_length]
  on_schedule := by
    intro id spec' hcreated
    rcases Numbering.getElem?_snoc.mp hcreated with hold | ⟨rfl, rfl⟩
    · have hid : id < w.timerManager.nextId := by
        rw [← h.created_length]
        exact (List.getElem?_eq_some_iff.mp hold).1
      obtain ⟨k, hk⟩ := h.on_schedule id spec' hold
      refine ⟨k, hk.period_pos, hk.times_eq, hk.valid, hk.past, ?_⟩
      rcases hk.status with ⟨hb, ⟨t, ht, heq⟩, hle, hv⟩ | ⟨j, hb, hj, ⟨t, ht, heq⟩, hn⟩ | ⟨ha, hc⟩
      · exact .waiting hb ⟨t, mem_insert.mpr (.inl ht), heq⟩ hle hv
      · exact .running j hb hj ⟨t, mem_insert.mpr (.inl ht), heq⟩ hn
      · refine .gone (fun t ht => ?_) hc
        rcases mem_insert.mp ht with ht | rfl
        · exact ha t ht
        · exact hid.ne'
    · refine ⟨0, ?_, ?_, by simp, by simp, ?_⟩
      · rw [TimerSpecification.finalize_period]
        exact hbuilt.period_pos hvalid
      · simp only [times, List.range_zero, List.map_nil, List.map_eq_nil_iff,
          List.filter_eq_nil_iff, decide_eq_true_eq]
        intro f hf heq
        have := h.fired_lt f hf
        rw [h.created_length] at heq
        omega
      · rw [h.created_length]
        refine .waiting (fun hb => ?_) ⟨_, mem_insert.mpr (.inr rfl), rfl, rfl, by simp⟩ (by simpa)
          (.inl rfl)
        exact absurd (h.busy_lt _ hb) (lt_irrefl _)

theorem inv_cancel {busy : Option Nat} {now : Int} {w : WatchedTimers κ} (h : Inv busy now w)
    (handle : Nat) (hlt : handle < w.timerManager.nextId) :
    Inv busy now { w with
      timerManager := w.timerManager.erase handle
      cancelled := handle :: w.cancelled } where
  created_length := h.created_length
  busy_lt := h.busy_lt
  fired_lt := h.fired_lt
  cancelled_absent := by
    intro id hid
    rcases List.mem_cons.mp hid with rfl | hid
    · exact ⟨hlt, fun t ht => by simpa using (List.mem_filter.mp ht).2⟩
    · obtain ⟨hlt, habsent⟩ := h.cancelled_absent id hid
      exact ⟨hlt, fun t ht => habsent t (List.mem_of_mem_filter ht)⟩
  known := fun t ht => h.known t (List.mem_of_mem_filter ht)
  on_schedule := by
    intro id spec hcreated
    obtain ⟨k, hk⟩ := h.on_schedule id spec hcreated
    refine ⟨k, hk.period_pos, hk.times_eq, hk.valid, hk.past, ?_⟩
    by_cases hid : id = handle
    · refine .gone (fun t ht => ?_) (.inl (by simp [hid]))
      rw [hid]
      simpa using (List.mem_filter.mp ht).2
    · have keep : ∀ {arrival}, Entered w.timerManager id spec arrival →
          Entered (w.timerManager.erase handle) id spec arrival := by
        rintro arrival ⟨t, ht, rfl, heq⟩
        exact ⟨t, List.mem_filter.mpr ⟨ht, by simpa using hid⟩, rfl, heq⟩
      rcases hk.status with ⟨hb, he, hle, hv⟩ | ⟨j, hb, hj, he, hn⟩ | ⟨ha, hc⟩
      · exact .waiting hb (keep he) hle hv
      · exact .running j hb hj (keep he) hn
      · exact .gone (fun t ht => ha t (List.mem_of_mem_filter ht))
          (hc.imp_left (List.mem_cons_of_mem _))

theorem inv_execute {busy : Option Nat} {now : Int} {w w' : WatchedTimers κ}
    (h : Inv busy now w) {command : TimerCommand κ} (hbuilt : BuiltAll [command])
    (hexecute : execute now w command = .ok w') : Inv busy now w' := by
  cases command with
  | create spec name =>
    obtain ⟨tm, hcreate, heq⟩ := bind_eq_ok.mp hexecute
    obtain ⟨hvalid, hle, rfl⟩ := create_eq_ok.mp hcreate
    cases heq
    exact inv_create h (hbuilt spec name (List.mem_singleton_self _)) hvalid hle
  | cancel handle =>
    cases hexecute
    simp only [TimerManager.cancel]
    split_ifs with hfound
    · obtain ⟨t, hfind⟩ := Option.isSome_iff_exists.mp hfound
      obtain ⟨ht, rfl⟩ := TimerManager.find?_some hfind
      exact inv_cancel h t.id (w.timerManager.ids_lt t ht)
    · exact h

theorem inv_executeAll {busy : Option Nat} {now : Int} {commands : List (TimerCommand κ)}
    {w w' : WatchedTimers κ} (h : Inv busy now w) (hbuilt : BuiltAll commands)
    (hexecute : executeAll now commands w = .ok w') : Inv busy now w' := by
  induction commands generalizing w with
  | nil =>
    cases hexecute
    exact h
  | cons command commands ih =>
    obtain ⟨w₁, hfirst, hrest⟩ := bind_eq_ok.mp hexecute
    refine ih (inv_execute h ?_ hfirst) (fun spec name hc => ?_) hrest
    · intro spec name hc
      exact hbuilt spec name (List.mem_singleton.mp hc ▸ List.mem_cons_self)
    · exact hbuilt spec name (List.mem_cons_of_mem _ hc)

theorem inv_later {now time : Int} {w : WatchedTimers κ} (h : Inv none now w) (hle : now ≤ time)
    (hnext : NothingBefore time w) : Inv none time w where
  created_length := h.created_length
  busy_lt := h.busy_lt
  fired_lt := h.fired_lt
  cancelled_absent := h.cancelled_absent
  known := h.known
  on_schedule := by
    intro id spec hcreated
    obtain ⟨k, hk⟩ := h.on_schedule id spec hcreated
    refine ⟨k, hk.period_pos, hk.times_eq, hk.valid, fun i hi => (hk.past i hi).trans hle, ?_⟩
    rcases hk.status with ⟨hb, he, _, hv⟩ | ⟨j, hb, _, _, _⟩ | ⟨ha, hc⟩
    · obtain ⟨t, ht, hid, hspec, harrival⟩ := he
      exact .waiting hb ⟨t, ht, hid, hspec, harrival⟩ (hnext t ht _ harrival) hv
    · cases hb
    · exact .gone ha hc

theorem eq_of_id {tm : TimerManager κ} {t t' : Timer κ} (h : t ∈ tm.timers_)
    (h' : t' ∈ tm.timers_) (hid : t.id = t'.id) : t = t' :=
  List.inj_on_of_nodup_map tm.ids_nodup h h' hid

theorem find?_eq_some {tm : TimerManager κ} {t : Timer κ} (h : t ∈ tm.timers_) :
    tm.find? t.id = some t := by
  cases hfind : tm.find? t.id with
  | none => exact absurd (List.find?_eq_none.mp hfind t h) (by simp)
  | some t' =>
    obtain ⟨ht', hid⟩ := TimerManager.find?_some hfind
    rw [eq_of_id ht' h hid]

theorem absent_of_find?_eq_none {tm : TimerManager κ} {id : Nat} (h : tm.find? id = none) :
    Absent tm id := by
  intro t ht
  simpa using List.find?_eq_none.mp h t ht

theorem mem_setArrival {tm : TimerManager κ} {id : Nat} {arrival : Option Int} {t : Timer κ} :
    t ∈ (tm.setArrival id arrival).timers_ ↔
      (t.id ≠ id ∧ t ∈ tm.timers_) ∨
        ∃ t' ∈ tm.timers_, t'.id = id ∧ t = { t' with arrival := arrival } := by
  simp only [TimerManager.setArrival, List.mem_map]
  constructor
  · rintro ⟨t', ht', rfl⟩
    split_ifs with hid
    · exact .inr ⟨t', ht', hid, rfl⟩
    · exact .inl ⟨hid, ht'⟩
  · rintro (⟨hid, ht⟩ | ⟨t', ht', hid, rfl⟩)
    · exact ⟨t, ht, if_neg hid⟩
    · exact ⟨t', ht', if_pos hid⟩

theorem Entered.of_mem {tm : TimerManager κ} {t : Timer κ} {spec : TimerSpecification κ}
    {arrival : Option Int} (h : Entered tm t.id spec arrival) (ht : t ∈ tm.timers_) :
    t.spec = spec ∧ t.arrival = arrival := by
  obtain ⟨t', ht', hid, rfl, rfl⟩ := h
  rw [eq_of_id ht' ht hid]
  exact ⟨rfl, rfl⟩

theorem Absent.not_mem {tm : TimerManager κ} {t : Timer κ} (h : Absent tm t.id) :
    t ∉ tm.timers_ := fun ht => h t ht rfl

/-- An operation on one timer of the manager leaves the others as they are. -/
structure Others (id : Nat) (tm tm' : TimerManager κ) : Prop where
  nextId : tm'.nextId = tm.nextId
  spec : ∀ t' ∈ tm'.timers_, ∃ t ∈ tm.timers_, t'.id = t.id ∧ t'.spec = t.spec
  entered : ∀ id' spec arrival, id' ≠ id → Entered tm id' spec arrival →
    Entered tm' id' spec arrival

theorem others_setArrival (tm : TimerManager κ) (id : Nat) (arrival : Option Int) :
    Others id tm (tm.setArrival id arrival) where
  nextId := rfl
  spec := by
    intro t' ht'
    rcases mem_setArrival.mp ht' with ⟨_, ht⟩ | ⟨t, ht, _, rfl⟩
    · exact ⟨t', ht, rfl, rfl⟩
    · exact ⟨t, ht, rfl, rfl⟩
  entered := by
    rintro id' spec arrival' hne ⟨t, ht, rfl, hrest⟩
    exact ⟨t, mem_setArrival.mpr (.inl ⟨hne, ht⟩), rfl, hrest⟩

theorem others_erase (tm : TimerManager κ) (id : Nat) : Others id tm (tm.erase id) where
  nextId := rfl
  spec := fun t ht => ⟨t, List.mem_of_mem_filter ht, rfl, rfl⟩
  entered := by
    rintro id' spec arrival hne ⟨t, ht, rfl, hrest⟩
    exact ⟨t, List.mem_filter.mpr ⟨ht, by simpa using hne⟩, rfl, hrest⟩

theorem Others.absent {id id' : Nat} {tm tm' : TimerManager κ} (h : Others id tm tm')
    (habsent : Absent tm id') : Absent tm' id' := by
  intro t' ht' hid
  obtain ⟨t, ht, heq, _⟩ := h.spec t' ht'
  exact habsent t ht (heq ▸ hid)

theorem Status.others {id id' : Nat} {busy busy' : Option Nat} {now : Int}
    {w w' : WatchedTimers κ} {spec : TimerSpecification κ} {k : Nat}
    (hstatus : Status busy now w id' spec k) (h : Others id w.timerManager w'.timerManager)
    (hcancelled : w'.cancelled = w.cancelled) (hne : id' ≠ id)
    (hbusy : busy = some id' ↔ busy' = some id') : Status busy' now w' id' spec k := by
  rcases hstatus with ⟨hb, he, hle, hv⟩ | ⟨j, hb, hj, he, hn⟩ | ⟨ha, hc⟩
  · exact .waiting (fun hb' => hb (hbusy.mpr hb')) (h.entered _ _ _ hne he) hle hv
  · exact .running j (hbusy.mp hb) hj (h.entered _ _ _ hne he) hn
  · exact .gone (h.absent ha) (hcancelled ▸ hc)

/-- The message of a timer leaves the event set and the callback is called. -/
theorem inv_called {now : Int} {w : WatchedTimers κ} (h : Inv none now w) {t : Timer κ}
    (ht : t ∈ w.timerManager.timers_) (harrival : t.arrival = some now)
    (hvalid : t.spec.validOccurence now = true) :
    Inv (some t.id) now { w with
      timerManager := w.timerManager.setArrival t.id none
      fired := w.fired ++ [(t.id, now)] } where
  created_length := h.created_length
  busy_lt := by
    intro id hid
    cases hid
    exact w.timerManager.ids_lt t ht
  fired_lt := by
    intro f hf
    rcases List.mem_append.mp hf with hf | hf
    · exact h.fired_lt f hf
    · rw [List.mem_singleton.mp hf]
      exact w.timerManager.ids_lt t ht
  cancelled_absent := by
    intro id hid
    obtain ⟨hlt, habsent⟩ := h.cancelled_absent id hid
    exact ⟨hlt, (others_setArrival _ _ _).absent habsent⟩
  known := by
    intro t' ht'
    obtain ⟨t, ht, hid, hspec⟩ := (others_setArrival _ _ _).spec t' ht'
    rw [hid, hspec]
    exact h.known t ht
  on_schedule := by
    intro id spec hcreated
    obtain ⟨k, hk⟩ := h.on_schedule id spec hcreated
    by_cases hid : id = t.id
    · subst hid
      rcases hk.status with ⟨hb, he, hle, hv⟩ | ⟨j, hb, _, _, _⟩ | ⟨ha, hc⟩
      · obtain ⟨rfl, heq⟩ := he.of_mem ht
        have hnow : now = t.spec.occurrence k := Option.some_inj.mp (harrival.symm.trans heq)
        refine ⟨k + 1, hk.period_pos, ?_, ?_, ?_, .running k rfl rfl ?_ hnow⟩
        · rw [List.range_succ, List.map_append, ← hk.times_eq]
          simp [times, hnow]
        · intro i hi
          rcases Nat.lt_succ_iff_lt_or_eq.mp hi with hi | rfl
          · exact hk.valid i hi
          · exact hnow ▸ hvalid
        · intro i hi
          rcases Nat.lt_succ_iff_lt_or_eq.mp hi with hi | rfl
          · exact hk.past i hi
          · exact hnow.ge
        · exact ⟨_, mem_setArrival.mpr (.inr ⟨t, ht, rfl, rfl⟩), rfl, rfl, rfl⟩
      · cases hb
      · exact absurd ht ha.not_mem
    · refine ⟨k, hk.period_pos, ?_, hk.valid, hk.past, ?_⟩
      · rw [← hk.times_eq]
        simp [times, Ne.symm hid]
      · have hbusy : (none : Option Nat) = some id ↔ some t.id = some id := by
          simp [Ne.symm hid]
        exact hk.status.others (others_setArrival w.timerManager t.id none) rfl hid hbusy

/-- The timer is scheduled again or erased. -/
theorem inv_returned {now : Int} {w : WatchedTimers κ} {t : Timer κ} (h : Inv (some t.id) now w)
    (ht : t ∈ w.timerManager.timers_) :
    Inv none now { w with
      timerManager := if t.spec.validOccurence (now + t.spec.period_) = true then
        w.timerManager.setArrival t.id (some (now + t.spec.period_))
        else w.timerManager.erase t.id } := by
  have hothers : Others t.id w.timerManager (if t.spec.validOccurence (now + t.spec.period_) = true
      then w.timerManager.setArrival t.id (some (now + t.spec.period_))
      else w.timerManager.erase t.id) := by
    split_ifs
    · exact others_setArrival _ _ _
    · exact others_erase _ _
  refine ⟨h.created_length.trans hothers.nextId.symm, by simp,
    fun f hf => (h.fired_lt f hf).trans_eq hothers.nextId.symm, ?_, ?_, ?_⟩
  · intro id hid
    obtain ⟨hlt, habsent⟩ := h.cancelled_absent id hid
    exact ⟨hlt.trans_eq hothers.nextId.symm, hothers.absent habsent⟩
  · intro t' ht'
    obtain ⟨t, ht, hid, hspec⟩ := hothers.spec t' ht'
    rw [hid, hspec]
    exact h.known t ht
  · intro id spec hcreated
    obtain ⟨k, hk⟩ := h.on_schedule id spec hcreated
    refine ⟨k, hk.period_pos, hk.times_eq, hk.valid, hk.past, ?_⟩
    by_cases hid : id = t.id
    · subst hid
      rcases hk.status with ⟨hb, _, _, _⟩ | ⟨j, _, rfl, he, rfl⟩ | ⟨ha, hc⟩
      · exact absurd rfl hb
      · obtain ⟨rfl, _⟩ := he.of_mem ht
        rw [← TimerSpecification.occurrence_succ]
        split_ifs with hvalid
        · refine .waiting (by simp) ?_ ?_ (.inr hvalid)
          · exact ⟨_, mem_setArrival.mpr (.inr ⟨t, ht, rfl, rfl⟩), rfl, rfl, rfl⟩
          · exact ((TimerSpecification.occurrence_lt_iff hk.period_pos).mpr (Nat.lt_succ_self j)).le
        · refine .gone (fun t' ht' => ?_) (.inr (by simpa using hvalid))
          simpa using (List.mem_filter.mp ht').2
      · exact absurd ht ha.not_mem
    · have hbusy : some t.id = some id ↔ (none : Option Nat) = some id := by
        simp [Ne.symm hid]
      exact hk.status.others hothers rfl hid hbusy

theorem inv_cancelled {now : Int} {w : WatchedTimers κ} {id : Nat} (h : Inv (some id) now w)
    (habsent : Absent w.timerManager id) : Inv none now w where
  created_length := h.created_length
  busy_lt := by simp
  fired_lt := h.fired_lt
  cancelled_absent := h.cancelled_absent
  known := h.known
  on_schedule := by
    intro id' spec hcreated
    obtain ⟨k, hk⟩ := h.on_schedule id' spec hcreated
    refine ⟨k, hk.period_pos, hk.times_eq, hk.valid, hk.past, ?_⟩
    rcases hk.status with ⟨_, he, hle, hv⟩ | ⟨j, hb, _, ⟨t, ht, hid, _⟩, _⟩ | ⟨ha, hc⟩
    · exact .waiting (by simp) he hle hv
    · cases hb
      exact absurd hid (habsent t ht)
    · exact .gone ha hc

theorem inv_deliver {now : Int} {w w' : WatchedTimers κ} (h : Inv none now w) {t : Timer κ}
    (ht : t ∈ w.timerManager.timers_) (harrival : t.arrival = some now)
    {commands : List (TimerCommand κ)} (hbuilt : BuiltAll commands)
    (hdeliver : deliver now t.id commands w = .ok (some w')) : Inv none now w' := by
  have hfound := TimerManager.find?_setArrival (find?_eq_some ht) none
  simp only [deliver, TimerManager.handleMessage, hfound] at hdeliver
  obtain ⟨_, hassert, hrest⟩ := bind_eq_ok.mp hdeliver
  obtain ⟨w₁, hcallback, hrest⟩ := bind_eq_ok.mp hrest
  have hcalled := inv_called h ht harrival (Bool.and_eq_true_iff.mp (assert_eq_ok.mp hassert)).2
  have h₁ := inv_executeAll hcalled hbuilt hcallback
  cases hfind : w₁.timerManager.find? t.id with
  | none =>
    rw [hfind] at hrest
    cases hrest
    exact inv_cancelled h₁ (absent_of_find?_eq_none hfind)
  | some t₁ =>
    obtain ⟨ht₁, hid⟩ := TimerManager.find?_some hfind
    rw [← hid] at h₁
    have hreturned := inv_returned h₁ ht₁
    rw [hid] at hreturned
    rw [hfind] at hrest
    simp only at hrest
    split_ifs at hrest hreturned with hnext
    · obtain ⟨arrival, hschedule, heq⟩ := bind_eq_ok.mp hrest
      obtain ⟨_, _, rfl⟩ := scheduleAt_eq_ok.mp hschedule
      cases heq
      exact hreturned
    · cases hrest
      exact hreturned

theorem le_of_waiting {now time : Int} {w : WatchedTimers κ} (h : Inv none now w) {t : Timer κ}
    (ht : t ∈ w.timerManager.timers_) (harrival : t.arrival = some time) : now ≤ time := by
  obtain ⟨k, hk⟩ := h.on_schedule t.id t.spec (h.known t ht)
  rcases hk.status with ⟨_, he, hle, _⟩ | ⟨j, hb, _, _, _⟩ | ⟨ha, _⟩
  · obtain ⟨_, heq⟩ := he.of_mem ht
    rwa [Option.some_inj.mp (harrival.symm.trans heq)]
  · cases hb
  · exact absurd ht ha.not_mem

theorem inv_step {s s' : Int × WatchedTimers κ} {e : Event κ} (h : Inv none s.1 s.2)
    (hstep : Step s e s') : Inv none s'.1 s'.2 := by
  cases hstep with
  | message hle hnext hbuilt hexecute =>
    exact inv_executeAll (inv_later h hle hnext) hbuilt hexecute
  | timer ht harrival hnext hbuilt hdeliver =>
    exact inv_deliver (inv_later h (le_of_waiting h ht harrival) hnext) ht harrival hbuilt hdeliver

theorem inv_run {now : Int}
    {path : List ((Int × WatchedTimers κ) × Event κ × Int × WatchedTimers κ)}
    {s : Int × WatchedTimers κ} (h : Runs.Run Step (now, start) path s) : Inv none s.1 s.2 :=
  h.invariant (P := fun s => Inv none s.1 s.2) (inv_start now) fun _ _ _ => inv_step

/-- Every five ticks, until `finish` ticks have passed. -/
def everyFive (finish : Int) : TimerSpecification Unit :=
  { TimerSpecification.new () with period_ := 5, end_mode_ := .relative, end_time_ := finish }

theorem everyFive_built (finish : Int) : (everyFive finish).Built :=
  .relativeEnd finish (.interval (t := 5) (.new ()) rfl)

theorem builtAll_everyFive (finish : Int) : BuiltAll [.create (everyFive finish) ""] := by
  intro spec name h
  cases List.mem_singleton.mp h
  exact everyFive_built finish

/-- A manager with this timer, created at time 0. -/
def everyFiveCreated (finish : Int) : WatchedTimers Unit :=
  ⟨TimerManager.empty.insert "" ((everyFive finish).finalize 0) (some 5),
    [(everyFive finish).finalize 0], [], []⟩

theorem everyFive_run (finish : Int) : Runs.Run Step (0, start)
    [((0, start), .message [.create (everyFive finish) ""], (0, everyFiveCreated finish))]
    (0, everyFiveCreated finish) :=
  .single (.message le_rfl (by simp [NothingBefore, start, TimerManager.empty])
    (builtAll_everyFive finish) rfl)

/-- Every timer fires at its start, then once in every period, and never otherwise; no occurrence
is left out unless the timer is cancelled. -/
theorem Inv.times_of_created {now : Int} {w : WatchedTimers κ} (h : Inv none now w) {id : Nat}
    {spec : TimerSpecification κ} (hcreated : w.created[id]? = some spec) :
    ∃ k, w.times id = (List.range k).map spec.occurrence ∧
      (∀ i < k, spec.validOccurence (spec.occurrence i) = true ∧ spec.occurrence i ≤ now) ∧
      (id ∉ w.cancelled → ∀ i, spec.validOccurence (spec.occurrence i) = true →
        spec.occurrence i < now → i < k) := by
  obtain ⟨k, hk⟩ := h.on_schedule id spec hcreated
  refine ⟨k, hk.times_eq, fun i hi => ⟨hk.valid i hi, hk.past i hi⟩, fun hkept i hvalid hpast => ?_⟩
  rcases hk.status with ⟨_, _, hle, _⟩ | ⟨j, hb, _, _, _⟩ | ⟨_, hcancelled | hinvalid⟩
  · exact (TimerSpecification.occurrence_lt_iff hk.period_pos).mp (hpast.trans_le hle)
  · cases hb
  · exact absurd hcancelled hkept
  · by_contra hge
    have hk' := TimerSpecification.validOccurence_mono hk.period_pos (not_lt.mp hge) hvalid
    rw [hinvalid] at hk'
    cases hk'

/-- Five ticks later, when it has fired once. -/
def everyFiveFired : WatchedTimers Unit where
  timerManager := (((everyFiveCreated 12).timerManager.setArrival 0 none).setArrival 0 (some 10))
  created := (everyFiveCreated 12).created
  cancelled := []
  fired := [(0, 5)]

theorem everyFive_fires :
    Step (0, everyFiveCreated 12) (.timer 0 []) (5, everyFiveFired) :=
  .timer (t := ⟨0, "", (everyFive 12).finalize 0, some 5⟩) List.mem_cons_self rfl
    (by simp [NothingBefore, everyFiveCreated, TimerManager.insert, TimerManager.empty])
    (by simp [BuiltAll]) rfl

theorem execute_frame {now : Int} {w w' : WatchedTimers κ} {command : TimerCommand κ}
    (h : execute now w command = .ok w') : w'.fired = w.fired ∧ w.cancelled ⊆ w'.cancelled := by
  cases command with
  | create spec name =>
    obtain ⟨tm, _, heq⟩ := bind_eq_ok.mp h
    cases heq
    exact ⟨rfl, List.Subset.refl _⟩
  | cancel handle =>
    cases h
    refine ⟨rfl, ?_⟩
    simp only
    split_ifs
    · exact List.subset_cons_self _ _
    · exact List.Subset.refl _

theorem executeAll_frame {now : Int} {commands : List (TimerCommand κ)} {w w' : WatchedTimers κ}
    (h : executeAll now commands w = .ok w') :
    w'.fired = w.fired ∧ w.cancelled ⊆ w'.cancelled := by
  induction commands generalizing w with
  | nil =>
    cases h
    exact ⟨rfl, List.Subset.refl _⟩
  | cons command commands ih =>
    obtain ⟨w₁, hfirst, hrest⟩ := bind_eq_ok.mp h
    obtain ⟨hfired₁, hcancelled₁⟩ := execute_frame hfirst
    obtain ⟨hfired, hcancelled⟩ := ih hrest
    exact ⟨hfired.trans hfired₁, List.Subset.trans hcancelled₁ hcancelled⟩

theorem deliver_frame {now : Int} {w w' : WatchedTimers κ} {t : Timer κ}
    (ht : t ∈ w.timerManager.timers_) {commands : List (TimerCommand κ)}
    (h : deliver now t.id commands w = .ok (some w')) :
    w'.fired = w.fired ++ [(t.id, now)] ∧ w.cancelled ⊆ w'.cancelled := by
  have hfound := TimerManager.find?_setArrival (find?_eq_some ht) none
  simp only [deliver, TimerManager.handleMessage, hfound] at h
  obtain ⟨_, _, hrest⟩ := bind_eq_ok.mp h
  obtain ⟨w₁, hcallback, hrest⟩ := bind_eq_ok.mp hrest
  have hframe := executeAll_frame hcallback
  split at hrest
  · cases hrest
    exact hframe
  · split_ifs at hrest
    · obtain ⟨arrival, _, heq⟩ := bind_eq_ok.mp hrest
      cases heq
      exact hframe
    · cases hrest
      exact hframe

/-- A timer that has been cancelled never fires again. -/
theorem cancelled_never_fires {first now later : Int} {w w' : WatchedTimers κ}
    {path path' : List ((Int × WatchedTimers κ) × Event κ × Int × WatchedTimers κ)}
    (h : Runs.Run Step (first, start) path (now, w))
    (h' : Runs.Run Step (now, w) path' (later, w')) {id : Nat} (hid : id ∈ w.cancelled) :
    w'.times id = w.times id := by
  have hall := h'.invariant (P := fun s => Inv none s.1 s.2 ∧ id ∈ s.2.cancelled ∧
    s.2.times id = w.times id) ⟨inv_run h, hid, rfl⟩ ?_
  · exact hall.2.2
  rintro s e s' ⟨hinv, hcancelled, htimes⟩ hstep
  refine ⟨inv_step hinv hstep, ?_⟩
  cases hstep with
  | message _ _ _ hexecute =>
    obtain ⟨hfired, hsub⟩ := executeAll_frame hexecute
    exact ⟨hsub hcancelled, by rw [← htimes, times, times, hfired]⟩
  | @timer _ _ _ _ _ t ht _ _ _ hdeliver =>
    obtain ⟨hfired, hsub⟩ := deliver_frame ht hdeliver
    have hne : t.id ≠ id := (hinv.cancelled_absent id hcancelled).2 t ht
    refine ⟨hsub hcancelled, ?_⟩
    rw [← htimes, times, times, hfired]
    simp [hne]

/-- Cancelled after it has fired once; then another timer is created. -/
def everyFiveCancelled : WatchedTimers Unit where
  timerManager := everyFiveFired.timerManager.erase 0
  created := everyFiveFired.created
  cancelled := [0]
  fired := [(0, 5)]

theorem everyFive_cancel :
    Step (5, everyFiveFired) (.message [.cancel 0]) (6, everyFiveCancelled) :=
  .message (by decide)
    (by simp [NothingBefore, everyFiveFired, everyFiveCreated, TimerManager.setArrival,
      TimerManager.insert, TimerManager.empty])
    (by simp [BuiltAll]) rfl

def everyFiveAgain : WatchedTimers Unit where
  timerManager := everyFiveCancelled.timerManager.insert "" ((everyFive 12).finalize 20) (some 25)
  created := everyFiveCancelled.created ++ [(everyFive 12).finalize 20]
  cancelled := [0]
  fired := [(0, 5)]

theorem cancelled_never_fires_everyFive :
    everyFiveAgain.times 0 = everyFiveCancelled.times 0 :=
  cancelled_never_fires (((everyFive_run 12).snoc everyFive_fires).snoc everyFive_cancel)
    (.single (.message (by decide : (6 : Int) ≤ 20)
      (by simp [NothingBefore, everyFiveCancelled, everyFiveFired, everyFiveCreated,
        TimerManager.erase, TimerManager.setArrival, TimerManager.insert, TimerManager.empty])
      (builtAll_everyFive 12) rfl)) List.mem_cons_self

theorem execute_error {now : Int} {w : WatchedTimers κ} {command : TimerCommand κ} {e : SimError}
    (h : execute now w command = .error e) :
    e = .assertFailed "timerSpecification.valid()" ∨ e = .pastEvent := by
  cases command with
  | create spec name =>
    simp only [execute, TimerManager.create, assert, scheduleAt, bind, Except.bind, pure,
      Except.pure] at h
    split_ifs at h <;> simp_all
  | cancel handle => cases h

theorem executeAll_error {now : Int} {commands : List (TimerCommand κ)} {w : WatchedTimers κ}
    {e : SimError} (h : executeAll now commands w = .error e) :
    e = .assertFailed "timerSpecification.valid()" ∨ e = .pastEvent := by
  induction commands generalizing w with
  | nil => cases h
  | cons command commands ih =>
    rw [executeAll, List.foldlM_cons] at h
    cases hfirst : execute now w command with
    | error e' =>
      rw [hfirst] at h
      cases h
      exact execute_error hfirst
    | ok w₁ =>
      rw [hfirst] at h
      exact ih h

theorem validOccurence_iff {now time : Int} {w : WatchedTimers κ} (h : Inv none now w)
    {t : Timer κ} (ht : t ∈ w.timerManager.timers_) (harrival : t.arrival = some time) :
    t.spec.valid = true ∧ (t.spec.validOccurence time = true ↔
      t.spec.start_ ≤ t.spec.end_time_ ∨ t.spec.end_mode_ = .openEnd) := by
  obtain ⟨k, hk⟩ := h.on_schedule t.id t.spec (h.known t ht)
  have hpos := hk.period_pos
  have hfirst := TimerSpecification.validOccurence_occurrence hpos 0
  rw [TimerSpecification.occurrence_zero] at hfirst
  refine ⟨?_, ?_⟩
  · rw [TimerSpecification.valid, decide_eq_true_eq, SimTime.ofS]
    omega
  rcases hk.status with ⟨_, he, _, hv⟩ | ⟨j, hb, _, _, _⟩ | ⟨ha, _⟩
  · obtain ⟨_, heq⟩ := he.of_mem ht
    obtain rfl : time = t.spec.occurrence k := Option.some_inj.mp (harrival.symm.trans heq)
    rcases hv with rfl | hv
    · rw [TimerSpecification.occurrence_zero]
      exact hfirst
    · have h₀ := TimerSpecification.validOccurence_mono hpos (Nat.zero_le k) hv
      rw [TimerSpecification.occurrence_zero] at h₀
      exact iff_of_true hv (hfirst.mp h₀)
  · cases hb
  · exact absurd ht ha.not_mem

/-- The assertion in `handleMessage` fails for the timers whose end is before their start, whatever
happened before. -/
theorem assertion_fails_iff {first now time : Int} {w : WatchedTimers κ}
    {path : List ((Int × WatchedTimers κ) × Event κ × Int × WatchedTimers κ)}
    (h : Runs.Run Step (first, start) path (now, w)) {t : Timer κ}
    (ht : t ∈ w.timerManager.timers_) (harrival : t.arrival = some time)
    (commands : List (TimerCommand κ)) :
    deliver time t.id commands w = .error (.assertFailed
        "timer->second.valid() && timer->second.validOccurence(simTime())") ↔
      t.spec.end_mode_ ≠ .openEnd ∧ t.spec.end_time_ < t.spec.start_ := by
  obtain ⟨hvalid, hoccurence⟩ := validOccurence_iff (inv_run h) ht harrival
  have hfound := TimerManager.find?_setArrival (find?_eq_some ht) none
  simp only [deliver, TimerManager.handleMessage, hfound, hvalid, Bool.true_and]
  by_cases hocc : t.spec.validOccurence time = true
  · have hend := hoccurence.mp hocc
    refine iff_of_false (fun hfail => ?_) (by rw [not_and_or, not_not, not_lt]; exact hend.symm)
    simp only [hocc, assert, if_true, bind, Except.bind] at hfail
    -- What the callback or the next event can fail with is another error.
    split at hfail
    · rename_i e hcallback
      cases hfail
      rcases executeAll_error hcallback with h | h <;> simp at h
    · split at hfail
      · cases hfail
      · split_ifs at hfail
        · unfold scheduleAt at hfail
          split_ifs at hfail <;> cases hfail
        · cases hfail
  · have hend := mt hoccurence.mpr hocc
    push Not at hend
    simp [assert, hocc, bind, Except.bind, hend]

/-- The first occurrence after five ticks, the end after two. -/
theorem assertion_fails_everyFive :
    deliver 5 0 [] (everyFiveCreated 2) = .error (.assertFailed
        "timer->second.valid() && timer->second.validOccurence(simTime())") ↔
      ((everyFive 2).finalize 0).end_mode_ ≠ .openEnd ∧
        ((everyFive 2).finalize 0).end_time_ < ((everyFive 2).finalize 0).start_ :=
  assertion_fails_iff (everyFive_run 2) (t := ⟨0, "", (everyFive 2).finalize 0, some 5⟩)
    List.mem_cons_self rfl []

end WatchedTimers
end SpaceVeins

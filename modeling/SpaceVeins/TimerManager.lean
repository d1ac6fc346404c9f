import SpaceVeins.SimTime

/-!
# The timer manager

A module that owns a `TimerManager` gives it the self messages it receives; the
manager runs the callback of the timer that the message belongs to and decides
whether the timer fires again. Callbacks are data here: `κ` names them, and the
owning module says what each one does.
-/

set_option autoImplicit false

namespace SpaceVeins

inductive StartMode where
  | relative
  | absolute
  | immediate
deriving DecidableEq, Repr

inductive EndMode where
  | relative
  | absolute
  | repetition
  | openEnd
deriving DecidableEq, Repr

structure TimerSpecification (κ : Type) where
  start_mode_ : StartMode
  start_ : Int
  end_mode_ : EndMode
  end_count_ : UInt32
  end_time_ : Int
  period_ : Int
  callback_ : κ
deriving DecidableEq

namespace TimerSpecification
variable {κ : Type}

/-- The constructor: no interval yet, starting at once, open ended. -/
def new (callback : κ) : TimerSpecification κ :=
  ⟨.immediate, 0, .openEnd, 0, 0, SimTime.ofS (-1), callback⟩

def interval (spec : TimerSpecification κ) (interval : Int) :
    Except SimError (TimerSpecification κ) := do
  assert "interval > 0" (decide (0 < interval))
  pure { spec with period_ := interval }

def relativeStart (spec : TimerSpecification κ) (start : Int) : TimerSpecification κ :=
  { spec with start_mode_ := .relative, start_ := start }

def absoluteStart (spec : TimerSpecification κ) (start : Int) : TimerSpecification κ :=
  { spec with start_mode_ := .absolute, start_ := start }

def relativeEnd (spec : TimerSpecification κ) (finish : Int) : TimerSpecification κ :=
  { spec with end_mode_ := .relative, end_time_ := finish }

def absoluteEnd (spec : TimerSpecification κ) (finish : Int) : TimerSpecification κ :=
  { spec with end_mode_ := .absolute, end_time_ := finish }

def repetitions (spec : TimerSpecification κ) (n : UInt64) : TimerSpecification κ :=
  { spec with end_mode_ := .repetition, end_count_ := n.toUInt32 }

def openEnd (spec : TimerSpecification κ) : TimerSpecification κ :=
  { spec with end_mode_ := .openEnd }

def oneshotIn (spec : TimerSpecification κ) (delay : Int) :
    Except SimError (TimerSpecification κ) := do
  let spec ← (spec.relativeStart delay).interval (SimTime.ofS 1)
  pure (spec.repetitions 1)

def oneshotAt (spec : TimerSpecification κ) (time : Int) :
    Except SimError (TimerSpecification κ) := do
  let spec ← (spec.absoluteStart time).interval (SimTime.ofS 1)
  pure (spec.repetitions 1)

/-- `finalize` makes the start and the end independent of the current time. -/
def finalizeStart (now : Int) (spec : TimerSpecification κ) : TimerSpecification κ :=
  match spec.start_mode_ with
  | .relative => { spec with start_ := spec.start_ + now, start_mode_ := .absolute }
  | .absolute => spec
  | .immediate => { spec with start_ := now + spec.period_ }

def finalizeEnd (now : Int) (spec : TimerSpecification κ) : TimerSpecification κ :=
  match spec.end_mode_ with
  | .relative => { spec with end_time_ := spec.end_time_ + now, end_mode_ := .absolute }
  | .absolute => spec
  | .repetition =>
    { spec with end_time_ := spec.start_ + (spec.end_count_ - 1).toNat * spec.period_,
                end_mode_ := .absolute }
  | .openEnd => spec

def finalize (now : Int) (spec : TimerSpecification κ) : TimerSpecification κ :=
  (spec.finalizeStart now).finalizeEnd now

def valid (spec : TimerSpecification κ) : Bool := decide (spec.period_ ≠ SimTime.ofS (-1))

def validOccurence (spec : TimerSpecification κ) (time : Int) : Bool :=
  let afterStart := decide (spec.start_ ≤ time)
  let beforeEnd := decide (time ≤ spec.end_time_)
  let atPeriod := decide (SimTime.fmod (time - spec.start_) spec.period_ = 0)
  afterStart && (beforeEnd || decide (spec.end_mode_ = .openEnd)) && atPeriod

/-- The finalized specification of a timer that fires once, at `time`. -/
def oneshot (callback : κ) (time : Int) : TimerSpecification κ :=
  ⟨.absolute, time, .absolute, 1, time, SimTime.ofS 1, callback⟩

theorem oneshotAt_new (callback : κ) (time : Int) :
    ∃ spec, (new callback).oneshotAt time = .ok spec ∧ spec.valid = true ∧
      ∀ now, spec.finalize now = oneshot callback time := by
  refine ⟨_, rfl, rfl, ?_⟩
  intro now
  simp [finalize, finalizeStart, finalizeEnd, repetitions, absoluteStart, new, oneshot]

@[simp] theorem oneshot_callback (callback : κ) (time : Int) :
    (oneshot callback time).callback_ = callback := rfl

@[simp] theorem oneshot_period (callback : κ) (time : Int) :
    (oneshot callback time).period_ = SimTime.ofS 1 := rfl

theorem validOccurence_oneshot (callback : κ) (time t : Int) :
    (oneshot callback time).validOccurence t = true ↔ t = time := by
  simp only [validOccurence, oneshot, SimTime.fmod, Bool.and_eq_true, Bool.or_eq_true,
    decide_eq_true_eq, reduceCtorEq, or_false]
  constructor
  · rintro ⟨⟨hstart, hend⟩, _⟩
    exact le_antisymm (of_decide_eq_true hend) (of_decide_eq_true hstart)
  · rintro rfl
    simp

end TimerSpecification

/-- A timer of a manager with the `TimerMessage` that triggers it. -/
structure Timer (κ : Type) where
  /-- `cMessage::getId` of the message. -/
  id : Nat
  name : String
  spec : TimerSpecification κ
  /-- When the message is scheduled to arrive, if it is scheduled. -/
  arrival : Option Int
deriving DecidableEq

/-- `timers_` with the identifiers handed out so far. No two timers share a message. -/
@[ext] structure TimerManager (κ : Type) where
  timers_ : List (Timer κ)
  nextId : Nat
  ids_lt : ∀ t ∈ timers_, t.id < nextId
  ids_nodup : (timers_.map Timer.id).Nodup

namespace TimerManager
variable {κ : Type}

def empty : TimerManager κ := ⟨[], 0, by simp, by simp⟩

def find? (tm : TimerManager κ) (id : Nat) : Option (Timer κ) :=
  tm.timers_.find? fun t => t.id = id

/-- A new entry of `timers_`, with its message scheduled for `arrival`. -/
def insert (tm : TimerManager κ) (name : String) (spec : TimerSpecification κ)
    (arrival : Option Int) : TimerManager κ where
  timers_ := tm.timers_ ++ [⟨tm.nextId, name, spec, arrival⟩]
  nextId := tm.nextId + 1
  ids_lt := by
    intro t ht
    rcases List.mem_append.mp ht with ht | ht
    · have := tm.ids_lt t ht
      omega
    · rw [List.mem_singleton.mp ht]
      simp
  ids_nodup := by
    rw [List.map_append]
    refine tm.ids_nodup.append (List.nodup_singleton _) ?_
    intro id hid hnew
    obtain ⟨t, ht, rfl⟩ := List.mem_map.mp hid
    have hlt := tm.ids_lt t ht
    have heq : t.id = tm.nextId := by simpa using hnew
    omega

def setArrival (tm : TimerManager κ) (id : Nat) (arrival : Option Int) : TimerManager κ where
  timers_ := tm.timers_.map fun t => if t.id = id then { t with arrival := arrival } else t
  nextId := tm.nextId
  ids_lt := by
    intro t ht
    obtain ⟨old, hold, rfl⟩ := List.mem_map.mp ht
    have := tm.ids_lt old hold
    split <;> exact this
  ids_nodup := by
    have hsame : (Timer.id ∘ fun t : Timer κ =>
        if t.id = id then { t with arrival := arrival } else t) = Timer.id := by
      funext t
      simp only [Function.comp]
      split <;> rfl
    rw [List.map_map, hsame]
    exact tm.ids_nodup

/-- `cancelAndDelete` of the message followed by `timers_.erase`. -/
def erase (tm : TimerManager κ) (id : Nat) : TimerManager κ where
  timers_ := tm.timers_.filter fun t => t.id ≠ id
  nextId := tm.nextId
  ids_lt := fun t ht => tm.ids_lt t (List.mem_of_mem_filter ht)
  ids_nodup := tm.ids_nodup.sublist (List.filter_sublist.map _)

/-- `create` at time `now`. -/
def create (tm : TimerManager κ) (now : Int) (spec : TimerSpecification κ) (name : String) :
    Except SimError (TimerManager κ) := do
  assert "timerSpecification.valid()" spec.valid
  let spec := spec.finalize now
  let arrival ← scheduleAt now spec.start_ none
  pure (tm.insert name spec arrival)

/-- `create(TimerSpecification(callback).oneshotAt(time), name)`. -/
def createOneshotAt (tm : TimerManager κ) (now : Int) (callback : κ) (time : Int)
    (name : String) : Except SimError (TimerManager κ) := do
  let spec ← (TimerSpecification.new callback).oneshotAt time
  tm.create now spec name

/-- `cancel`: expired timers are silently ignored. -/
def cancel (tm : TimerManager κ) (handle : Nat) : TimerManager κ :=
  if (tm.find? handle).isSome then tm.erase handle else tm

/-- `handleMessage` at time `now`, for a message that has just left the event set.
The result is `none` if the message is no timer of this manager. -/
def handleMessage {σ : Type} (getTm : σ → TimerManager κ) (setTm : TimerManager κ → σ → σ)
    (run : κ → σ → Except SimError σ) (now : Int) (id : Nat) (s : σ) :
    Except SimError (Option σ) :=
  match (getTm s).find? id with
  | none => .ok none
  | some timer => do
    assert "timer->second.valid() && timer->second.validOccurence(simTime())"
      (timer.spec.valid && timer.spec.validOccurence now)
    let s ← run timer.spec.callback_ s
    match (getTm s).find? id with
    -- the callback has cancelled its own timer
    | none => pure (some s)
    | some timer =>
      let next_event := now + timer.spec.period_
      if timer.spec.validOccurence next_event then do
        let arrival ← scheduleAt now next_event timer.arrival
        pure (some (setTm ((getTm s).setArrival id arrival) s))
      else
        pure (some (setTm ((getTm s).erase id) s))

/-- Every timer fires once and is scheduled for that moment. -/
def AllOneshot (tm : TimerManager κ) : Prop :=
  ∀ t ∈ tm.timers_, ∃ time, t.spec = .oneshot t.spec.callback_ time ∧ t.arrival = some time

theorem allOneshot_empty : AllOneshot (empty : TimerManager κ) := by
  intro t ht
  cases ht

theorem allOneshot_insert {tm : TimerManager κ} (h : tm.AllOneshot) (name : String)
    (callback : κ) (time : Int) :
    (tm.insert name (.oneshot callback time) (some time)).AllOneshot := by
  intro t ht
  rcases List.mem_append.mp ht with ht | ht
  · exact h t ht
  · rw [List.mem_singleton.mp ht]
    exact ⟨time, rfl, rfl⟩

theorem allOneshot_erase {tm : TimerManager κ} (h : tm.AllOneshot) (id : Nat) :
    (tm.erase id).AllOneshot := fun t ht => h t (List.mem_of_mem_filter ht)

theorem find?_some {tm : TimerManager κ} {id : Nat} {t : Timer κ} (h : tm.find? id = some t) :
    t ∈ tm.timers_ ∧ t.id = id :=
  ⟨List.mem_of_find?_eq_some h, by simpa using List.find?_some h⟩

theorem erase_eq_append {tm : TimerManager κ} {id : Nat} {t : Timer κ} (h : tm.find? id = some t) :
    ∃ before after, tm.timers_ = before ++ t :: after ∧
      (tm.erase id).timers_ = before ++ after := by
  obtain ⟨ht, rfl⟩ := find?_some h
  obtain ⟨before, after, hsplit⟩ := List.append_of_mem ht
  refine ⟨before, after, hsplit, ?_⟩
  have hnodup := tm.ids_nodup
  rw [hsplit, List.map_append, List.map_cons, List.nodup_append] at hnodup
  obtain ⟨_, hafter, hdisjoint⟩ := hnodup
  have hkeep : ∀ other, other ∈ before ∨ other ∈ after → other.id ≠ t.id := by
    rintro other (ho | ho) heq
    · exact hdisjoint other.id (List.mem_map_of_mem ho) t.id List.mem_cons_self heq
    · exact (List.nodup_cons.mp hafter).1 (heq ▸ List.mem_map_of_mem ho)
  change tm.timers_.filter _ = _
  rw [hsplit, List.filter_append, List.filter_cons_of_neg (by simp),
    List.filter_eq_self.mpr (by simpa using fun o ho => hkeep o (Or.inl ho)),
    List.filter_eq_self.mpr (by simpa using fun o ho => hkeep o (Or.inr ho))]

/-- The times at which the timers whose callback satisfies `p` are due. -/
def pending (p : κ → Bool) (tm : TimerManager κ) : List Int :=
  tm.timers_.filterMap fun t => if p t.spec.callback_ then t.arrival else none

theorem pending_insert (p : κ → Bool) (tm : TimerManager κ) (name : String) (callback : κ)
    (time : Int) :
    (tm.insert name (.oneshot callback time) (some time)).pending p =
      tm.pending p ++ if p callback then [time] else [] := by
  change List.filterMap _ (tm.timers_ ++ _) = _
  rw [List.filterMap_append]
  by_cases hp : p callback = true <;> simp [pending, hp]

theorem pending_erase_of_not {p : κ → Bool} {tm : TimerManager κ} {id : Nat} {t : Timer κ}
    (h : tm.find? id = some t) (hp : p t.spec.callback_ = false) :
    (tm.erase id).pending p = tm.pending p := by
  obtain ⟨before, after, hsplit, herase⟩ := erase_eq_append h
  simp [pending, hsplit, herase, hp]

theorem pending_erase_of {p : κ → Bool} {tm : TimerManager κ} {id : Nat} {t : Timer κ} {time : Int}
    (h : tm.find? id = some t) (hp : p t.spec.callback_ = true) (ht : t.arrival = some time) :
    ∃ before after, tm.pending p = before ++ time :: after ∧
      (tm.erase id).pending p = before ++ after := by
  obtain ⟨before, after, hsplit, herase⟩ := erase_eq_append h
  refine ⟨before.filterMap fun t => if p t.spec.callback_ then t.arrival else none,
    after.filterMap fun t => if p t.spec.callback_ then t.arrival else none, ?_, ?_⟩
  · simp [pending, hsplit, hp, ht]
  · simp [pending, herase]

theorem erase_setArrival (tm : TimerManager κ) (id : Nat) (arrival : Option Int) :
    (tm.setArrival id arrival).erase id = tm.erase id := by
  apply TimerManager.ext
  · simp only [erase, setArrival]
    induction tm.timers_ with
    | nil => rfl
    | cons t ts ih => by_cases ht : t.id = id <;> simp_all
  · rfl

theorem find?_setArrival {tm : TimerManager κ} {id : Nat} {t : Timer κ}
    (h : tm.find? id = some t) (arrival : Option Int) :
    (tm.setArrival id arrival).find? id = some { t with arrival := arrival } := by
  have hsame : ((fun t : Timer κ => decide (t.id = id)) ∘ fun t =>
      if t.id = id then { t with arrival := arrival } else t) = fun t => decide (t.id = id) := by
    funext t
    simp only [Function.comp]
    split <;> rfl
  change (tm.timers_.map _).find? _ = _
  rw [List.find?_map, hsame]
  rw [find?] at h
  rw [h, Option.map_some, if_pos (by simpa using List.find?_some h)]

theorem createOneshotAt_eq (tm : TimerManager κ) (now : Int) (callback : κ) (time : Int)
    (name : String) :
    tm.createOneshotAt now callback time name =
      if time < now then .error .pastEvent
      else .ok (tm.insert name (.oneshot callback time) (some time)) := by
  obtain ⟨spec, hspec, hvalid, hfinal⟩ := TimerSpecification.oneshotAt_new callback time
  have hstart : (TimerSpecification.oneshot callback time).start_ = time := rfl
  simp only [createOneshotAt, hspec, create, assert, hvalid, hfinal, hstart, scheduleAt, bind,
    Except.bind, pure, Except.pure, if_true]
  by_cases hpast : time < now <;> simp [hpast]

theorem createOneshotAt_eq_ok {tm tm' : TimerManager κ} {now time : Int} {callback : κ}
    {name : String} :
    tm.createOneshotAt now callback time name = .ok tm' ↔
      now ≤ time ∧ tm' = tm.insert name (.oneshot callback time) (some time) := by
  rw [createOneshotAt_eq]
  by_cases hpast : time < now
  · simp [hpast, not_le.mpr hpast]
  · simp [hpast, not_lt.mp hpast, eq_comm]

theorem handleMessage_oneshot {σ : Type} {getTm : σ → TimerManager κ}
    {setTm : TimerManager κ → σ → σ} {run : κ → σ → Except SimError σ} {now time : Int} {id : Nat}
    {s : σ} {result : Option σ} {timer : Timer κ} {callback : κ}
    (hfind : (getTm s).find? id = some timer) (hspec : timer.spec = .oneshot callback time)
    (hkeep : ∀ s', run callback s = .ok s' → getTm s' = getTm s) :
    handleMessage getTm setTm run now id s = .ok result ↔
      now = time ∧
        ∃ s', run callback s = .ok s' ∧ result = some (setTm ((getTm s).erase id) s') := by
  have hnext : (TimerSpecification.oneshot callback time).validOccurence
      (time + SimTime.ofS 1) = false := by
    rw [Bool.eq_false_iff, ne_eq, TimerSpecification.validOccurence_oneshot]
    simp [SimTime.ofS]
  have hvalid : (TimerSpecification.oneshot callback time).valid = true := rfl
  simp only [handleMessage, hfind, hspec, bind_eq_ok, assert_eq_ok, hvalid, Bool.true_and,
    TimerSpecification.validOccurence_oneshot, TimerSpecification.oneshot_callback,
    exists_const]
  refine and_congr_right ?_
  rintro rfl
  refine exists_congr fun s' => and_congr_right fun hrun => ?_
  rw [hkeep s' hrun, hfind]
  simp [hspec, hnext, pure, Except.pure, eq_comm]

end TimerManager
end SpaceVeins

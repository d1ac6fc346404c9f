import SpaceVeins.TimerRuns

/-!
# Where the messages of the timers lie

`timers_` is keyed by the pointer to the `TimerMessage`, and the memory of a cancelled
timer's message may be given to the next one. The identifiers of the messages are not used
again, so the runs in which no callback can find its own address taken by another timer are
runs of the timers by identifier.
-/

set_option autoImplicit false

namespace SpaceVeins

/-- The timers with the address that each message, by its identifier, was allocated at. -/
structure AddressedTimers (κ : Type) where
  watched : WatchedTimers κ
  address : Nat → Nat

namespace AddressedTimers
variable {κ : Type}

def start (address : Nat → Nat) : AddressedTimers κ := ⟨.start, address⟩

def timers_ (s : AddressedTimers κ) : List (Timer κ) := s.watched.timerManager.timers_

/-- `timers_.find(timerMessage)`. -/
def findMessage (s : AddressedTimers κ) (timerMessage : Nat) : Option (Timer κ) :=
  s.timers_.find? fun t => s.address t.id = timerMessage

/-- The message of a new timer lies where no message of a timer does. -/
inductive Execute (now : Int) :
    AddressedTimers κ → TimerCommand κ → AddressedTimers κ → Prop where
  | create {s : AddressedTimers κ} {w : WatchedTimers κ} {spec : TimerSpecification κ}
      {name : String} {timerMessage : Nat} :
      s.findMessage timerMessage = none → s.watched.execute now (.create spec name) = .ok w →
      Execute now s (.create spec name)
        ⟨w, Function.update s.address s.watched.timerManager.nextId timerMessage⟩
  | cancel {s : AddressedTimers κ} {w : WatchedTimers κ} {handle : Nat} :
      s.watched.execute now (.cancel handle) = .ok w →
      Execute now s (.cancel handle) { s with watched := w }

inductive ExecuteAll (now : Int) :
    AddressedTimers κ → List (TimerCommand κ) → AddressedTimers κ → Prop where
  | nil {s : AddressedTimers κ} : ExecuteAll now s [] s
  | cons {s s₁ s' : AddressedTimers κ} {command : TimerCommand κ}
      {commands : List (TimerCommand κ)} : Execute now s command s₁ →
      ExecuteAll now s₁ commands s' → ExecuteAll now s (command :: commands) s'

def setManager (s : AddressedTimers κ) (tm : TimerManager κ) : AddressedTimers κ :=
  { s with watched := { s.watched with timerManager := tm } }

/-- The rest of `handleMessage` after the callback of the timer `id`, whose message lies at
`timerMessage`. The iterator `timer` is the one that was found before the callback. -/
inductive Returned (now : Int) (id timerMessage : Nat) :
    AddressedTimers κ → AddressedTimers κ → Prop where
  | cancelled {s : AddressedTimers κ} :
      s.findMessage timerMessage = none → Returned now id timerMessage s s
  | again {s : AddressedTimers κ} {timer : Timer κ} {arrival : Option Int} :
      s.findMessage timerMessage = some timer → timer.id = id →
      timer.spec.validOccurence (now + timer.spec.period_) = true →
      scheduleAt now (now + timer.spec.period_) timer.arrival = .ok arrival →
      Returned now id timerMessage s
        (s.setManager (s.watched.timerManager.setArrival id arrival))
  | finished {s : AddressedTimers κ} {timer : Timer κ} :
      s.findMessage timerMessage = some timer → timer.id = id →
      timer.spec.validOccurence (now + timer.spec.period_) = false →
      Returned now id timerMessage s (s.setManager (s.watched.timerManager.erase id))
  -- The entry that `timer` points to was erased. What its use leads to is not defined.
  | undefined {s s' : AddressedTimers κ} {timer : Timer κ} :
      s.findMessage timerMessage = some timer → timer.id ≠ id →
      Returned now id timerMessage s s'

/-- The message of the timer `id` has left the event set and its callback is called. -/
def called (now : Int) (id : Nat) (s : AddressedTimers κ) : AddressedTimers κ :=
  { s with watched := { s.watched with
      timerManager := s.watched.timerManager.setArrival id none
      fired := s.watched.fired ++ [(id, now)] } }

/-- As for the timers by identifier, with `handleMessage` searching for the message. -/
inductive Step : Int × AddressedTimers κ → WatchedTimers.Event κ → Int × AddressedTimers κ →
    Prop where
  | message {now time : Int} {s s' : AddressedTimers κ} {commands : List (TimerCommand κ)} :
      now ≤ time → s.watched.NothingBefore time → WatchedTimers.BuiltAll commands →
      ExecuteAll time s commands s' → Step (now, s) (.message commands) (time, s')
  | timer {now time : Int} {s s₁ s' : AddressedTimers κ} {commands : List (TimerCommand κ)}
      {t timer : Timer κ} :
      t ∈ s.timers_ → t.arrival = some time → s.watched.NothingBefore time →
      WatchedTimers.BuiltAll commands → s.findMessage (s.address t.id) = some timer →
      (timer.spec.valid && timer.spec.validOccurence time) = true →
      ExecuteAll time (s.called time t.id) commands s₁ →
      Returned time t.id (s.address t.id) s₁ s' → Step (now, s) (.timer t.id commands) (time, s')

/-- No callback creates a timer after it has cancelled its own. -/
def KeepsAddress : WatchedTimers.Event κ → Prop
  | .message _ => True
  | .timer id commands => ∀ before after, commands = before ++ .cancel id :: after →
      ∀ spec name, .create spec name ∉ after

theorem keepsAddress_of_not_cancel {id : Nat} {commands : List (TimerCommand κ)}
    (h : .cancel id ∉ commands) : KeepsAddress (.timer id commands) := by
  rintro before after rfl
  simp at h

/-- No two timers have their messages at one address. -/
def Separate (s : AddressedTimers κ) : Prop :=
  ∀ t ∈ s.timers_, ∀ t' ∈ s.timers_, s.address t.id = s.address t'.id → t.id = t'.id

theorem findMessage_eq_some {s : AddressedTimers κ} {timerMessage : Nat} {t : Timer κ}
    (h : s.findMessage timerMessage = some t) : t ∈ s.timers_ ∧ s.address t.id = timerMessage :=
  ⟨List.mem_of_find?_eq_some h, by simpa using List.find?_some h⟩

theorem findMessage_eq_none {s : AddressedTimers κ} {timerMessage : Nat}
    (h : s.findMessage timerMessage = none) : ∀ t ∈ s.timers_, s.address t.id ≠ timerMessage := by
  intro t ht
  simpa using List.find?_eq_none.mp h t ht

theorem Execute.watched {now : Int} {s s' : AddressedTimers κ} {command : TimerCommand κ}
    (h : Execute now s command s') : s.watched.execute now command = .ok s'.watched := by
  cases h with
  | create _ h => exact h
  | cancel h => exact h

theorem ExecuteAll.watched {now : Int} {s s' : AddressedTimers κ}
    {commands : List (TimerCommand κ)} (h : ExecuteAll now s commands s') :
    WatchedTimers.executeAll now commands s.watched = .ok s'.watched := by
  induction h with
  | nil => rfl
  | cons hfirst _ ih =>
    rw [WatchedTimers.executeAll, List.foldlM_cons, hfirst.watched]
    exact ih

/-- What a created timer changes: no message lies at its address yet. -/
theorem Execute.created {now : Int} {s s' : AddressedTimers κ} {spec : TimerSpecification κ}
    {name : String} (h : Execute now s (.create spec name) s') :
    ∃ timerMessage, (∀ t ∈ s.timers_, s.address t.id ≠ timerMessage) ∧
      (∀ t ∈ s.timers_, t ∈ s'.timers_ ∧ s'.address t.id = s.address t.id) ∧
      ∀ t ∈ s'.timers_, t ∈ s.timers_ ∨
        t.id = s.watched.timerManager.nextId ∧ s'.address t.id = timerMessage := by
  cases h with
  | @create _ _ _ timerMessage hfree hexecute =>
    obtain ⟨tm, hcreate, heq⟩ := bind_eq_ok.mp hexecute
    obtain ⟨_, _, rfl⟩ := WatchedTimers.create_eq_ok.mp hcreate
    cases heq
    refine ⟨_, findMessage_eq_none hfree, fun t ht => ⟨?_, ?_⟩, fun t ht => ?_⟩
    · exact WatchedTimers.mem_insert.mpr (.inl ht)
    · exact Function.update_of_ne (s.watched.timerManager.ids_lt t ht).ne _ _
    · rcases WatchedTimers.mem_insert.mp ht with ht | rfl
      · exact .inl ht
      · exact .inr ⟨rfl, Function.update_self _ _ _⟩

theorem Execute.cancelled {now : Int} {s s' : AddressedTimers κ} {handle : Nat}
    (h : Execute now s (.cancel handle) s') :
    s'.address = s.address ∧ (∀ t ∈ s'.timers_, t ∈ s.timers_) ∧
      ∀ t ∈ s.timers_, t.id ≠ handle → t ∈ s'.timers_ := by
  cases h with
  | cancel hexecute =>
    cases hexecute
    refine ⟨rfl, ?_⟩
    simp only [timers_, TimerManager.cancel]
    split_ifs
    · refine ⟨fun t ht => List.mem_of_mem_filter ht, fun t ht hne => ?_⟩
      exact List.mem_filter.mpr ⟨ht, by simpa using hne⟩
    · exact ⟨fun _ ht => ht, fun _ ht _ => ht⟩

theorem separate_execute {now : Int} {s s' : AddressedTimers κ} {command : TimerCommand κ}
    (hs : s.Separate) (h : Execute now s command s') : s'.Separate := by
  cases command with
  | create spec name =>
    obtain ⟨timerMessage, hfree, hkept, hnew⟩ := h.created
    intro t ht t' ht' heq
    rcases hnew t ht with hold | ⟨hid, haddress⟩ <;>
      rcases hnew t' ht' with hold' | ⟨hid', haddress'⟩
    · rw [(hkept t hold).2, (hkept t' hold').2] at heq
      exact hs t hold t' hold' heq
    · rw [(hkept t hold).2, haddress'] at heq
      exact absurd heq (hfree t hold)
    · rw [(hkept t' hold').2, haddress] at heq
      exact absurd heq.symm (hfree t' hold')
    · rw [hid, hid']
  | cancel handle =>
    obtain ⟨haddress, hsub, _⟩ := h.cancelled
    intro t ht t' ht' heq
    rw [haddress] at heq
    exact hs t (hsub t ht) t' (hsub t' ht') heq

theorem separate_executeAll {now : Int} {s s' : AddressedTimers κ}
    {commands : List (TimerCommand κ)} (hs : s.Separate) (h : ExecuteAll now s commands s') :
    s'.Separate := by
  induction h with
  | nil => exact hs
  | cons hfirst _ ih => exact ih (separate_execute hs hfirst)

/-- At this address lies the message of this timer or none. -/
def Owns (id timerMessage : Nat) (s : AddressedTimers κ) : Prop :=
  ∀ t ∈ s.timers_, s.address t.id = timerMessage → t.id = id

/-- Nothing is allocated at the address of a timer that is still there. -/
theorem owns_execute {now : Int} {id timerMessage : Nat} {s s' : AddressedTimers κ}
    {command : TimerCommand κ} (hs : Owns id timerMessage s) (h : Execute now s command s')
    (hlive : (∃ t ∈ s.timers_, s.address t.id = timerMessage) ∨
      ∀ spec name, command ≠ .create spec name) : Owns id timerMessage s' := by
  intro t ht heq
  cases command with
  | create spec name =>
    obtain ⟨new, hfree, hkept, hnew⟩ := h.created
    obtain ⟨own, hown, haddress⟩ := hlive.resolve_right fun hnot => hnot spec name rfl
    rcases hnew t ht with hold | ⟨_, hat⟩
    · rw [(hkept t hold).2] at heq
      exact hs t hold heq
    · rw [hat] at heq
      exact absurd (haddress.trans heq.symm) (hfree own hown)
  | cancel handle =>
    obtain ⟨haddress, hsub, _⟩ := h.cancelled
    rw [haddress] at heq
    exact hs t (hsub t ht) heq

theorem owns_executeAll_of_not_create {now : Int} {id timerMessage : Nat}
    {s s' : AddressedTimers κ} {commands : List (TimerCommand κ)}
    (hs : Owns id timerMessage s) (h : ExecuteAll now s commands s')
    (hnot : ∀ spec name, .create spec name ∉ commands) : Owns id timerMessage s' := by
  induction h with
  | nil => exact hs
  | cons hfirst _ ih =>
    refine ih (owns_execute hs hfirst (.inr fun spec name heq => ?_))
      fun spec name hm => hnot spec name (List.mem_cons_of_mem _ hm)
    exact hnot spec name (heq ▸ List.mem_cons_self)

/-- A callback that keeps its address: as long as its timer is there nobody else gets the
address, and afterwards it creates no timer. -/
theorem owns_executeAll {now : Int} {s s' : AddressedTimers κ}
    {commands : List (TimerCommand κ)} (h : ExecuteAll now s commands s') {t : Timer κ}
    (ht : t ∈ s.timers_) (hs : Owns t.id (s.address t.id) s)
    (hkeeps : KeepsAddress (.timer t.id commands)) : Owns t.id (s.address t.id) s' := by
  induction h with
  | nil => exact hs
  | @cons s s₁ s' command commands hfirst hrest ih =>
    have hs₁ := owns_execute hs hfirst (.inl ⟨t, ht, rfl⟩)
    by_cases hown : command = .cancel t.id
    · exact owns_executeAll_of_not_create hs₁ hrest (hkeeps [] commands (by rw [hown]; rfl))
    · have hkept : t ∈ s₁.timers_ ∧ s₁.address t.id = s.address t.id := by
        cases command with
        | create spec name =>
          obtain ⟨_, _, hkept, _⟩ := hfirst.created
          exact hkept t ht
        | cancel handle =>
          obtain ⟨haddress, _, hothers⟩ := hfirst.cancelled
          exact ⟨hothers t ht fun heq => hown (heq ▸ rfl), congrFun haddress t.id⟩
      rw [← hkept.2] at hs₁ ⊢
      refine ih hkept.1 hs₁ fun before after heq spec name => ?_
      exact hkeeps (command :: before) after (by rw [heq]; rfl) spec name

theorem separate_of_others {id : Nat} {s : AddressedTimers κ} {w : WatchedTimers κ}
    (hs : s.Separate)
    (h : WatchedTimers.Others id s.watched.timerManager w.timerManager) :
    Separate { s with watched := w } := by
  intro t ht t' ht' heq
  obtain ⟨u, hu, hid, _⟩ := h.spec t ht
  obtain ⟨u', hu', hid', _⟩ := h.spec t' ht'
  simp only [hid, hid'] at heq ⊢
  exact hs u hu u' hu' heq

theorem Returned.separate {now : Int} {id timerMessage : Nat} {s s' : AddressedTimers κ}
    (h : Returned now id timerMessage s s') (hs : s.Separate)
    (howns : Owns id timerMessage s) : s'.Separate := by
  cases h with
  | cancelled => exact hs
  | again => exact separate_of_others hs (WatchedTimers.others_setArrival _ _ _)
  | finished => exact separate_of_others hs (WatchedTimers.others_erase _ _)
  | undefined hfind hne =>
    obtain ⟨ht, haddress⟩ := findMessage_eq_some hfind
    exact absurd (howns _ ht haddress) hne

theorem Execute.address_eq {now : Int} {s s' : AddressedTimers κ} {command : TimerCommand κ}
    (h : Execute now s command s') {id : Nat} (hid : id < s.watched.timerManager.nextId) :
    id < s'.watched.timerManager.nextId ∧ s'.address id = s.address id := by
  cases h with
  | create _ hexecute =>
    obtain ⟨tm, hcreate, heq⟩ := bind_eq_ok.mp hexecute
    obtain ⟨_, _, rfl⟩ := WatchedTimers.create_eq_ok.mp hcreate
    cases heq
    exact ⟨hid.trans (Nat.lt_succ_self _), Function.update_of_ne hid.ne _ _⟩
  | cancel hexecute =>
    cases hexecute
    refine ⟨?_, rfl⟩
    simp only [TimerManager.cancel]
    split_ifs <;> exact hid

theorem ExecuteAll.address_eq {now : Int} {s s' : AddressedTimers κ}
    {commands : List (TimerCommand κ)} (h : ExecuteAll now s commands s') {id : Nat}
    (hid : id < s.watched.timerManager.nextId) : s'.address id = s.address id := by
  induction h with
  | nil => rfl
  | cons hfirst _ ih =>
    obtain ⟨hid₁, heq⟩ := hfirst.address_eq hid
    rw [ih hid₁, heq]

/-- A search for the address finds what a search for the identifier finds. -/
theorem findMessage_eq {s : AddressedTimers κ} {id timerMessage : Nat}
    (howns : Owns id timerMessage s) (haddress : s.address id = timerMessage) :
    s.findMessage timerMessage = s.watched.timerManager.find? id := by
  refine List.find?_congr fun t ht => ?_
  have hiff : s.address t.id = timerMessage ↔ t.id = id :=
    ⟨howns t ht, fun heq => by rw [heq, haddress]⟩
  simp only [hiff]

/-- A delivery whose callback keeps the address is the delivery by identifier. -/
theorem deliver_of_addresses {now : Int} {s s₁ s' : AddressedTimers κ}
    {commands : List (TimerCommand κ)} {t : Timer κ} (ht : t ∈ s.timers_)
    (hassert : (t.spec.valid && t.spec.validOccurence now) = true)
    (hcallback : ExecuteAll now (s.called now t.id) commands s₁)
    (howns : Owns t.id (s.address t.id) s₁)
    (hreturned : Returned now t.id (s.address t.id) s₁ s') :
    s.watched.deliver now t.id commands = .ok (some s'.watched) := by
  have hfound := TimerManager.find?_setArrival (WatchedTimers.find?_eq_some ht) none
  have haddress : s₁.address t.id = s.address t.id :=
    hcallback.address_eq (s.watched.timerManager.ids_lt t ht)
  have hfind := findMessage_eq howns haddress
  have hexecute := hcallback.watched
  simp only [called] at hexecute
  simp only [WatchedTimers.deliver, TimerManager.handleMessage, hfound, hassert, assert, if_true,
    bind, Except.bind, hexecute]
  cases hreturned with
  | cancelled hnone =>
    rw [← hfind, hnone]
    rfl
  | again hsome _ hnext hschedule =>
    rw [← hfind, hsome]
    simp only [hnext, hschedule, if_true]
    rfl
  | finished hsome _ hnext =>
    rw [← hfind, hsome]
    simp only [hnext, Bool.false_eq_true, if_false]
    rfl
  | undefined hsome hne =>
    obtain ⟨hmem, hat⟩ := findMessage_eq_some hsome
    exact absurd (howns _ hmem hat) hne

/-- A step that keeps the addresses apart is a step of the timers by identifier. -/
theorem watched_step {s s' : Int × AddressedTimers κ} {e : WatchedTimers.Event κ}
    (hs : s.2.Separate) (h : Step s e s') (hkeeps : KeepsAddress e) :
    s'.2.Separate ∧ WatchedTimers.Step (s.1, s.2.watched) e (s'.1, s'.2.watched) := by
  cases h with
  | message hle hnext hbuilt hexecute =>
    exact ⟨separate_executeAll hs hexecute, .message hle hnext hbuilt hexecute.watched⟩
  | @timer _ time s s₁ s' commands t timer ht harrival hnext hbuilt hfind hassert hcallback
      hreturned =>
    obtain ⟨htimer, haddress⟩ := findMessage_eq_some hfind
    obtain rfl := WatchedTimers.eq_of_id htimer ht (hs timer htimer t ht haddress)
    have hcalled : (s.called time timer.id).Separate :=
      separate_of_others hs (WatchedTimers.others_setArrival _ _ _)
    have hown : { timer with arrival := none } ∈ (s.called time timer.id).timers_ :=
      WatchedTimers.mem_setArrival.mpr (.inr ⟨timer, ht, rfl, rfl⟩)
    have howns : Owns timer.id (s.address timer.id) s₁ :=
      owns_executeAll (t := { timer with arrival := none }) hcallback hown
        (fun u hu heq => hcalled u hu _ hown heq) hkeeps
    exact ⟨hreturned.separate (separate_executeAll hcalled hcallback) howns,
      .timer ht harrival hnext hbuilt
        (deliver_of_addresses ht hassert hcallback howns hreturned)⟩

theorem watched_run {first : Int} {address : Nat → Nat} {s : Int × AddressedTimers κ}
    {path : List ((Int × AddressedTimers κ) × WatchedTimers.Event κ × Int × AddressedTimers κ)}
    (h : Runs.Run Step (first, start address) path s)
    (hkeeps : ∀ a e b, (a, e, b) ∈ path → KeepsAddress e) :
    ∃ path', Runs.Run WatchedTimers.Step (first, WatchedTimers.start) path' (s.1, s.2.watched) := by
  have hstart : (start address : AddressedTimers κ).Separate := fun t ht => by cases ht
  exact ⟨_, (h.map_of_guard (f := fun s => (s.1, s.2.watched)) (I := fun s => s.2.Separate)
    hstart (fun _ _ _ => watched_step) hkeeps).2⟩

/-- Every timer fires at its start, then once in every period, and never otherwise; no occurrence
is left out unless the timer is cancelled. -/
theorem fires_on_schedule {first now : Int} {address : Nat → Nat} {s : AddressedTimers κ}
    {path : List ((Int × AddressedTimers κ) × WatchedTimers.Event κ × Int × AddressedTimers κ)}
    (h : Runs.Run Step (first, start address) path (now, s))
    (hkeeps : ∀ a e b, (a, e, b) ∈ path → KeepsAddress e) {id : Nat}
    {spec : TimerSpecification κ} (hcreated : s.watched.created[id]? = some spec) :
    ∃ k, s.watched.times id = (List.range k).map spec.occurrence ∧
      (∀ i < k, spec.validOccurence (spec.occurrence i) = true ∧ spec.occurrence i ≤ now) ∧
      (id ∉ s.watched.cancelled → ∀ i, spec.validOccurence (spec.occurrence i) = true →
        spec.occurrence i < now → i < k) := by
  obtain ⟨_, hrun⟩ := watched_run h hkeeps
  exact (WatchedTimers.inv_run hrun).times_of_created hcreated

/-- The timers after a `create`. -/
def createAt (now : Int) (spec : TimerSpecification κ) (timerMessage : Nat)
    (s : AddressedTimers κ) : AddressedTimers κ where
  watched := { s.watched with
    timerManager := s.watched.timerManager.insert "" (spec.finalize now)
      (some (spec.finalize now).start_)
    created := s.watched.created ++ [spec.finalize now] }
  address := Function.update s.address s.watched.timerManager.nextId timerMessage

/-- A timer for every five ticks, until tick 12. -/
def firstTimer : AddressedTimers Unit := (start id).createAt 0 (WatchedTimers.everyFive 12) 4096

/-- At tick 5 its callback creates another one. -/
def secondTimer : AddressedTimers Unit :=
  (firstTimer.called 5 0).createAt 5 (WatchedTimers.everyFive 12) 8192

def secondWaits : AddressedTimers Unit :=
  secondTimer.setManager (secondTimer.watched.timerManager.setArrival 0 (some 10))

/-- At tick 10 the first timer fires for the last time, -/
def firstGone : AddressedTimers Unit :=
  (secondWaits.called 10 0).setManager ((secondWaits.called 10 0).watched.timerManager.erase 0)

/-- and the next message is allocated where its message was. -/
def addressReused : AddressedTimers Unit := firstGone.createAt 10 (WatchedTimers.everyFive 12) 4096

theorem addressReused_run : ∃ path, Runs.Run Step (0, start id) path (10, addressReused) ∧
    ∀ a e b, (a, e, b) ∈ path → KeepsAddress e := by
  have hcreate : ∀ {now : Int} {timerMessage : Nat} {s : AddressedTimers Unit},
      s.findMessage timerMessage = none →
      now ≤ ((WatchedTimers.everyFive 12).finalize now).start_ →
      ExecuteAll now s [.create (WatchedTimers.everyFive 12) ""]
        (s.createAt now (WatchedTimers.everyFive 12) timerMessage) := by
    intro now timerMessage s hfree hle
    refine .cons (.create hfree ?_) .nil
    exact bind_eq_ok.mpr ⟨_, WatchedTimers.create_eq_ok.mpr ⟨rfl, hle, rfl⟩, rfl⟩
  have hbuilt := WatchedTimers.builtAll_everyFive 12
  have h₁ : Step (0, start id) (.message [.create (WatchedTimers.everyFive 12) ""])
      (0, firstTimer) :=
    .message le_rfl (by decide) hbuilt (hcreate (by decide) (by decide))
  have h₂ : Step (0, firstTimer) (.timer 0 [.create (WatchedTimers.everyFive 12) ""])
      (5, secondWaits) :=
    .timer (t := ⟨0, "", (WatchedTimers.everyFive 12).finalize 0, some 5⟩) (by decide) rfl
      (by decide) hbuilt rfl (by decide) (hcreate (by decide) (by decide))
      (.again (s := secondTimer) rfl rfl (by decide) rfl)
  have h₃ : Step (5, secondWaits) (.timer 0 []) (10, firstGone) :=
    .timer (t := ⟨0, "", (WatchedTimers.everyFive 12).finalize 0, some 10⟩) (by decide) rfl
      (by decide) (by simp [WatchedTimers.BuiltAll]) rfl (by decide) .nil
      (.finished rfl rfl (by decide))
  have h₄ : Step (10, firstGone) (.message [.create (WatchedTimers.everyFive 12) ""])
      (10, addressReused) :=
    .message le_rfl (by decide) hbuilt (hcreate (by decide) (by decide))
  refine ⟨_, (((Runs.Run.single h₁).snoc h₂).snoc h₃).snoc h₄, ?_⟩
  simp only [List.mem_append, List.mem_singleton, Prod.mk.injEq]
  rintro a e b (((⟨_, rfl, _⟩ | ⟨_, rfl, _⟩) | ⟨_, rfl, _⟩) | ⟨_, rfl, _⟩)
  · trivial
  · exact keepsAddress_of_not_cancel (by simp)
  · exact keepsAddress_of_not_cancel (by simp)
  · trivial

theorem fires_on_schedule_addressReused :
    ∃ k, addressReused.watched.times 0 =
        (List.range k).map ((WatchedTimers.everyFive 12).finalize 0).occurrence ∧
      (∀ i < k, ((WatchedTimers.everyFive 12).finalize 0).validOccurence
          (((WatchedTimers.everyFive 12).finalize 0).occurrence i) = true ∧
        ((WatchedTimers.everyFive 12).finalize 0).occurrence i ≤ 10) ∧
      (0 ∉ addressReused.watched.cancelled → ∀ i,
        ((WatchedTimers.everyFive 12).finalize 0).validOccurence
          (((WatchedTimers.everyFive 12).finalize 0).occurrence i) = true →
        ((WatchedTimers.everyFive 12).finalize 0).occurrence i < 10 → i < k) := by
  obtain ⟨path, hrun, hkeeps⟩ := addressReused_run
  exact fires_on_schedule hrun hkeeps rfl

end AddressedTimers
end SpaceVeins

import SpaceVeins.SamacSatelliteAppl

/-!
# The book behind the schedules

A `ScheduleBook` only remembers who registered in which period. Every run of the
satellite application follows the book: the schedule published at the end of a
period numbers the addresses that registered in it, in the order in which they
registered first, and the schedule under construction does the same for the
period that is still open.
-/

set_option autoImplicit false

namespace SpaceVeins
open Numbering Runs

/-- Who registered in the periods that are over, and in the current one. -/
structure ScheduleBook where
  closed : List (List MacAddress)
  current : List MacAddress

namespace ScheduleBook

def empty : ScheduleBook := ⟨[], []⟩

def enter (book : ScheduleBook) : SatelliteMessage → ScheduleBook
  | .packet (.registration reg) => { book with current := book.current ++ [reg.srcMacAddress] }
  | .packet .other => book
  | .wlanScheduleTimer => ⟨book.closed ++ [book.current], []⟩

def ofRun (path : List (SamacSatelliteAppl × SatelliteEvent × SamacSatelliteAppl)) :
    ScheduleBook :=
  path.foldl (fun book step => book.enter step.2.1.message) empty

@[simp] theorem ofRun_nil : ofRun [] = empty := rfl

@[simp] theorem ofRun_snoc
    (path : List (SamacSatelliteAppl × SatelliteEvent × SamacSatelliteAppl))
    (step : SamacSatelliteAppl × SatelliteEvent × SamacSatelliteAppl) :
    ofRun (path ++ [step]) = (ofRun path).enter step.2.1.message := by
  simp [ofRun]

end ScheduleBook

/-- `ws` gives the slot `i * slot` to the address that came as number `i` in `batch`. -/
def WlanSchedule.Assigns (ws : WlanSchedule) (slot : ℚ) (batch : List MacAddress) : Prop :=
  Represents (fun i => (i : ℚ) * slot) (batch.eraseDups.map MacAddress.getInt) ws

namespace WlanSchedule
variable {slot : ℚ} {batch : List MacAddress} {ws : WlanSchedule}

theorem assigns_nil (slot : ℚ) : Assigns ∅ slot [] := represents_empty

/-- The entries of the schedule are the pairs `(a i, i * slot)`. -/
theorem Assigns.entries (h : ws.Assigns slot batch) (k : UInt64) (delta : ℚ) :
    ws[k]? = some delta ↔
      ∃ (i : Nat) (a : MacAddress),
        batch.eraseDups[i]? = some a ∧ k = a.getInt ∧ delta = i * slot := by
  rw [Represents.entries h]
  simp only [List.getElem?_map, Option.map_eq_some_iff]
  constructor
  · rintro ⟨i, ⟨a, ha, rfl⟩, rfl⟩
    exact ⟨i, a, ha, rfl, rfl⟩
  · rintro ⟨i, a, ha, rfl, rfl⟩
    exact ⟨i, ⟨a, ha, rfl⟩, rfl⟩

theorem Assigns.mem_iff (h : ws.Assigns slot batch) (a : MacAddress) :
    a.getInt ∈ ws ↔ a ∈ batch := by
  rw [Represents.mem_iff h, List.mem_map]
  constructor
  · rintro ⟨b, hb, hab⟩
    rw [← MacAddress.getInt_inj.mp hab]
    exact List.mem_eraseDups.mp hb
  · intro ha
    exact ⟨a, List.mem_eraseDups.mpr ha, rfl⟩

theorem Assigns.size (h : ws.Assigns slot batch) : ws.size = batch.eraseDups.length := by
  rw [Represents.size h, List.length_map]

theorem Assigns.insertIfNew (h : ws.Assigns slot batch) (a : MacAddress) :
    Assigns (ws.insertIfNew a.getInt (ws.size * slot)) slot (batch ++ [a]) := by
  have hbatch : (batch ++ [a]).eraseDups.map MacAddress.getInt =
      enroll (batch.eraseDups.map MacAddress.getInt) a.getInt := by
    rw [← foldl_enroll_nil, List.foldl_append, foldl_enroll_nil, List.foldl_cons, List.foldl_nil]
    by_cases ha : a ∈ batch.eraseDups
    · rw [enroll_of_mem ha, enroll_of_mem (List.mem_map_of_mem ha)]
    · rw [enroll_of_not_mem ha, enroll_of_not_mem, List.map_append, List.map_singleton]
      rwa [List.mem_map_of_injective MacAddress.getInt_injective]
  unfold Assigns
  rw [hbatch]
  exact Represents.number h a.getInt

end WlanSchedule

def SatellitePayload.wlanSchedule? : SatellitePayload → Option SpaceVeinsWlanScheduleMessage
  | .wlanSchedule ws => some ws
  | _ => none

/-- The schedules among the packets of the satellite, oldest first. -/
def schedules (sent : List SatellitePayload) : List SpaceVeinsWlanScheduleMessage :=
  sent.filterMap SatellitePayload.wlanSchedule?

@[simp] theorem schedules_snoc_wlanSchedule (sent : List SatellitePayload)
    (ws : SpaceVeinsWlanScheduleMessage) :
    schedules (sent ++ [.wlanSchedule ws]) = schedules sent ++ [ws] := by
  simp [schedules, SatellitePayload.wlanSchedule?]

@[simp] theorem schedules_snoc_ack (sent : List SatellitePayload) (ack : SpaceVeinsSatelliteAck) :
    schedules (sent ++ [.ack ack]) = schedules sent := by
  simp [schedules, SatellitePayload.wlanSchedule?]

theorem mem_schedules {sent : List SatellitePayload} {ws : SpaceVeinsWlanScheduleMessage} :
    ws ∈ schedules sent ↔ .wlanSchedule ws ∈ sent := by
  unfold schedules
  rw [List.mem_filterMap]
  constructor
  · rintro ⟨payload, hmem, hws⟩
    cases payload with
    | wlanSchedule ws' =>
      obtain rfl := Option.some.inj hws
      exact hmem
    | ack => cases hws
    | other => cases hws
  · intro hmem
    exact ⟨_, hmem, rfl⟩

namespace SamacSatelliteAppl

@[simp] theorem wlanSlot_s_publish (now : Int) (sat : SamacSatelliteAppl) :
    (sat.publishWlanSchedule now).wlanSlot_s = sat.wlanSlot_s := rfl

@[simp] theorem wlanSchedule_publish (now : Int) (sat : SamacSatelliteAppl) :
    (sat.publishWlanSchedule now).wlanSchedule = ∅ := rfl

@[simp] theorem sent_publish (now : Int) (sat : SamacSatelliteAppl) :
    (sat.publishWlanSchedule now).sent =
      sat.sent ++ [.wlanSchedule (sat.wlanScheduleMessage now)] := rfl

@[simp] theorem wlanSchedule_registration (reg : SpaceVeinsRegistrationMessage)
    (sat : SamacSatelliteAppl) :
    (sat.processPacket (.registration reg)).wlanSchedule =
      sat.wlanSchedule.insertIfNew reg.srcMacAddress.getInt
        (sat.wlanSchedule.size * sat.wlanSlot_s) := rfl

@[simp] theorem sent_registration (reg : SpaceVeinsRegistrationMessage)
    (sat : SamacSatelliteAppl) :
    (sat.processPacket (.registration reg)).sent =
      sat.sent ++ [.ack ⟨reg.srcMacAddress⟩] := rfl

/-- The state of the application agrees with the book. -/
structure Follows (slot : ℚ) (book : ScheduleBook) (sat : SamacSatelliteAppl) : Prop where
  slot_eq : sat.wlanSlot_s = slot
  current : sat.wlanSchedule.Assigns slot book.current
  closed : List.Forall₂ (fun ws batch => ws.wlanSchedule.Assigns slot batch)
    (schedules sat.sent) book.closed

theorem follows_start {slot : ℚ} {interval latency now : Int} {sat : SamacSatelliteAppl}
    (h : (initial slot interval latency).startApplication now = .ok sat) :
    sat.Follows slot .empty := by
  obtain ⟨timer, _, hsat⟩ := bind_eq_ok.mp h
  obtain rfl := Except.ok.inj hsat
  exact ⟨rfl, WlanSchedule.assigns_nil slot, .nil⟩

theorem follows_step {slot : ℚ} {book : ScheduleBook} {sat sat' : SamacSatelliteAppl}
    {event : SatelliteEvent} (hfollows : sat.Follows slot book) (h : Step sat event sat') :
    sat'.Follows slot (book.enter event.message) := by
  obtain ⟨hmsg, _, rfl⟩ | ⟨pk, hmsg, rfl⟩ := step_cases h
  · rw [hmsg]
    refine ⟨hfollows.slot_eq, WlanSchedule.assigns_nil slot, ?_⟩
    change List.Forall₂ _ (schedules (sat.publishWlanSchedule event.now).sent) _
    rw [sent_publish, schedules_snoc_wlanSchedule]
    exact List.rel_append hfollows.closed (.cons hfollows.current .nil)
  · rw [hmsg]
    cases pk with
    | registration reg =>
      refine ⟨hfollows.slot_eq, ?_, ?_⟩
      · rw [wlanSchedule_registration, hfollows.slot_eq]
        exact hfollows.current.insertIfNew reg.srcMacAddress
      · rw [sent_registration, schedules_snoc_ack]
        exact hfollows.closed
    | other => exact ⟨hfollows.slot_eq, hfollows.current, hfollows.closed⟩

theorem follows_run {slot : ℚ} {sat₀ sat : SamacSatelliteAppl}
    {path : List (SamacSatelliteAppl × SatelliteEvent × SamacSatelliteAppl)}
    (h₀ : sat₀.Follows slot .empty) (hrun : Run Step sat₀ path sat) :
    sat.Follows slot (.ofRun path) := by
  induction hrun with
  | refl => exact h₀
  | snoc _ hstep ih =>
    rw [ScheduleBook.ofRun_snoc]
    exact follows_step ih hstep

/-- Every schedule ever sent numbers the registrations of one period. -/
theorem assigns_of_sent {slot : ℚ} {interval latency now : Int} {sat₀ sat : SamacSatelliteAppl}
    {path : List (SamacSatelliteAppl × SatelliteEvent × SamacSatelliteAppl)}
    {ws : SpaceVeinsWlanScheduleMessage}
    (hstart : (initial slot interval latency).startApplication now = .ok sat₀)
    (hrun : Run Step sat₀ path sat) (hws : .wlanSchedule ws ∈ sat.sent) :
    ∃ batch, ws.wlanSchedule.Assigns slot batch := by
  have hclosed := (follows_run (follows_start hstart) hrun).closed
  obtain ⟨i, hi⟩ := List.mem_iff_getElem?.mp (mem_schedules.mpr hws)
  obtain ⟨hlt, rfl⟩ := List.getElem?_eq_some_iff.mp hi
  exact ⟨_, List.Forall₂.get hclosed hlt (hclosed.length_eq ▸ hlt)⟩

/-! Every list of registrations is the batch of some period. -/

theorem step_packet {sat : SamacSatelliteAppl} {now : Int} {pk : VehiclePayload}
    (hdue : ∀ time ∈ sat.wlanScheduleTimer, now ≤ time) :
    Step sat ⟨now, .packet pk⟩ (sat.processPacket pk) :=
  ⟨⟨hdue, fun h => (by cases h)⟩, rfl⟩

theorem step_timer {sat : SamacSatelliteAppl} {now : Int}
    (htimer : sat.wlanScheduleTimer = some now) (hinterval : 0 ≤ sat.wlanScheduleInterval_s) :
    Step sat ⟨now, .wlanScheduleTimer⟩ { sat.publishWlanSchedule now with
      wlanScheduleTimer := some (now + sat.wlanScheduleInterval_s) } := by
  have hnext : scheduleAt now (now + sat.wlanScheduleInterval_s) none =
      .ok (some (now + sat.wlanScheduleInterval_s)) :=
    scheduleAt_eq_ok.mpr ⟨by omega, rfl, rfl⟩
  refine ⟨⟨by simp [htimer], fun _ => htimer⟩, ?_⟩
  exact bind_eq_ok.mpr ⟨_, hnext, rfl⟩

theorem start_eq_ok {slot : ℚ} {interval latency now : Int} {sat : SamacSatelliteAppl} :
    (initial slot interval latency).startApplication now = .ok sat ↔
      0 ≤ interval ∧ sat = { initial slot interval latency with
        wlanScheduleTimer := some (now + interval) } := by
  simp only [startApplication, scheduleTimer, bind_eq_ok, scheduleAt_eq_ok, pure, Except.pure,
    Except.ok.injEq]
  constructor
  · rintro ⟨timer, ⟨hle, _, rfl⟩, rfl⟩
    exact ⟨by simpa [initial] using hle, rfl⟩
  · rintro ⟨hle, rfl⟩
    exact ⟨_, ⟨by simpa [initial] using hle, rfl, rfl⟩, rfl⟩

def receive (regs : List MacAddress) (sat : SamacSatelliteAppl) : SamacSatelliteAppl :=
  regs.foldl (fun sat a => sat.processPacket (.registration ⟨a⟩)) sat

theorem run_receive {sat : SamacSatelliteAppl} {now time : Int}
    (htimer : sat.wlanScheduleTimer = some time) (hle : now ≤ time) (regs : List MacAddress) :
    ∃ path, Run Step sat path (sat.receive regs) ∧
      path.map (fun step => step.2.1.message) = regs.map fun a => .packet (.registration ⟨a⟩) := by
  induction regs generalizing sat with
  | nil => exact ⟨[], .refl, rfl⟩
  | cons a regs ih =>
    have hstep : Step sat ⟨now, .packet (.registration ⟨a⟩)⟩
        (sat.processPacket (.registration ⟨a⟩)) :=
      step_packet (by simpa [htimer] using hle)
    have htimer' : (sat.processPacket (.registration ⟨a⟩)).wlanScheduleTimer = some time := htimer
    obtain ⟨path, hrun, hpath⟩ := ih htimer'
    exact ⟨_, (Run.single hstep).trans hrun, by simp [hpath]⟩

theorem receive_keeps (regs : List MacAddress) (sat : SamacSatelliteAppl) :
    (sat.receive regs).wlanScheduleTimer = sat.wlanScheduleTimer ∧
      (sat.receive regs).wlanScheduleInterval_s = sat.wlanScheduleInterval_s ∧
      (sat.receive regs).maxV2SLatency_s = sat.maxV2SLatency_s ∧
      schedules (sat.receive regs).sent = schedules sat.sent := by
  induction regs generalizing sat with
  | nil => exact ⟨rfl, rfl, rfl, rfl⟩
  | cons a regs ih =>
    obtain ⟨htimer, hinterval, hlatency, hsent⟩ := ih (sat.processPacket (.registration ⟨a⟩))
    exact ⟨htimer, hinterval, hlatency, hsent.trans (schedules_snoc_ack _ _)⟩

theorem exists_period {sat : SamacSatelliteAppl} {time : Int}
    (htimer : sat.wlanScheduleTimer = some time) (hinterval : 0 ≤ sat.wlanScheduleInterval_s)
    (regs : List MacAddress) :
    ∃ path sat' ws, Run Step sat path sat' ∧
      path.map (fun step => step.2.1.message) =
        regs.map (fun a => .packet (.registration ⟨a⟩)) ++ [.wlanScheduleTimer] ∧
      schedules sat'.sent = schedules sat.sent ++ [ws] ∧
      ws.wlanScheduleBeginTimestamp = time + sat.maxV2SLatency_s ∧
      sat'.wlanScheduleTimer = some (time + sat.wlanScheduleInterval_s) ∧
      sat'.wlanScheduleInterval_s = sat.wlanScheduleInterval_s ∧
      sat'.maxV2SLatency_s = sat.maxV2SLatency_s := by
  obtain ⟨path, hrun, hpath⟩ := run_receive htimer le_rfl regs
  obtain ⟨htimer', hinterval', hlatency', hsent'⟩ := receive_keeps regs sat
  have hstep := step_timer (htimer'.trans htimer) (hinterval' ▸ hinterval)
  refine ⟨_, _, (sat.receive regs).wlanScheduleMessage time, .snoc hrun hstep, ?_, ?_, ?_, ?_,
    hinterval', hlatency'⟩
  · simp [hpath]
  · rw [← hsent']
    exact schedules_snoc_wlanSchedule _ _
  · rw [← hlatency']
    rfl
  · rw [← hinterval']

theorem ofRun_eq (path : List (SamacSatelliteAppl × SatelliteEvent × SamacSatelliteAppl)) :
    ScheduleBook.ofRun path =
      (path.map fun step => step.2.1.message).foldl ScheduleBook.enter .empty :=
  (List.foldl_map ..).symm

theorem enter_registrations (regs : List MacAddress) (book : ScheduleBook) :
    (regs.map fun a => SatelliteMessage.packet (.registration ⟨a⟩)).foldl ScheduleBook.enter book =
      { book with current := book.current ++ regs } := by
  induction regs generalizing book with
  | nil => simp
  | cons a regs ih =>
    rw [List.map_cons, List.foldl_cons, ih]
    simp [ScheduleBook.enter]

theorem exists_periods {sat : SamacSatelliteAppl} {time : Int}
    (htimer : sat.wlanScheduleTimer = some time) (hinterval : 0 ≤ sat.wlanScheduleInterval_s)
    (batches : List (List MacAddress)) :
    ∃ path sat', Run Step sat path sat' ∧
      path.map (fun step => step.2.1.message) = batches.flatMap fun regs =>
        regs.map (fun a => .packet (.registration ⟨a⟩)) ++ [.wlanScheduleTimer] := by
  induction batches generalizing sat time with
  | nil => exact ⟨[], sat, .refl, rfl⟩
  | cons regs batches ih =>
    obtain ⟨first, sat₁, _, hfirst, hmessages, _, _, htimer₁, hinterval₁, _⟩ :=
      exists_period htimer hinterval regs
    obtain ⟨rest, sat', hrest, hmessages'⟩ := ih htimer₁ (hinterval₁ ▸ hinterval)
    refine ⟨_, sat', hfirst.trans hrest, ?_⟩
    rw [List.map_append, hmessages, hmessages', List.flatMap_cons]

theorem enter_batches (batches closed : List (List MacAddress)) :
    (batches.flatMap fun regs => regs.map (fun a => SatelliteMessage.packet (.registration ⟨a⟩)) ++
      [.wlanScheduleTimer]).foldl ScheduleBook.enter ⟨closed, []⟩ = ⟨closed ++ batches, []⟩ := by
  induction batches generalizing closed with
  | nil => simp
  | cons regs batches ih =>
    rw [List.flatMap_cons, List.foldl_append, List.foldl_append, enter_registrations]
    simp only [List.nil_append, List.foldl_cons, List.foldl_nil, ScheduleBook.enter]
    rw [ih, List.append_assoc, List.singleton_append]

/-- From the start, any registrations whatever can be those of the first periods. -/
theorem exists_closed {slot : ℚ} {interval latency now : Int} {sat₀ : SamacSatelliteAppl}
    (hstart : (initial slot interval latency).startApplication now = .ok sat₀)
    (batches : List (List MacAddress)) :
    ∃ path sat, Run Step sat₀ path sat ∧ (ScheduleBook.ofRun path).closed = batches := by
  obtain ⟨hinterval, hsat₀⟩ := start_eq_ok.mp hstart
  have htimer : sat₀.wlanScheduleTimer = some (now + interval) := by rw [hsat₀]
  obtain ⟨path, sat, hrun, hmessages⟩ :=
    exists_periods htimer (by rw [hsat₀]; exact hinterval) batches
  refine ⟨path, sat, hrun, ?_⟩
  rw [ofRun_eq, hmessages, ScheduleBook.empty, enter_batches, List.nil_append]

/-- From the start, any registrations whatever can be those of the first period. -/
theorem exists_published {slot : ℚ} {interval latency now : Int} {sat₀ : SamacSatelliteAppl}
    (hstart : (initial slot interval latency).startApplication now = .ok sat₀)
    (regs : List MacAddress) :
    ∃ path sat ws, Run Step sat₀ path sat ∧ (ScheduleBook.ofRun path).closed = [regs] ∧
      schedules sat.sent = [ws] ∧ ws.wlanSchedule.Assigns slot regs ∧
      ws.wlanScheduleBeginTimestamp = now + interval + latency := by
  obtain ⟨hinterval, hsat₀⟩ := start_eq_ok.mp hstart
  have htimer : sat₀.wlanScheduleTimer = some (now + interval) := by rw [hsat₀]
  have hlatency : sat₀.maxV2SLatency_s = latency := by rw [hsat₀]; rfl
  have hempty : schedules sat₀.sent = [] := by rw [hsat₀]; rfl
  obtain ⟨path, sat, ws, hrun, hpath, hsent, hbegin, _⟩ :=
    exists_period htimer (by rw [hsat₀]; exact hinterval) regs
  rw [hempty, List.nil_append] at hsent
  rw [hlatency] at hbegin
  have hbook : (ScheduleBook.ofRun path).closed = [regs] := by
    rw [ofRun_eq, hpath, List.foldl_append, enter_registrations]
    simp [ScheduleBook.enter, ScheduleBook.empty]
  refine ⟨path, sat, ws, hrun, hbook, hsent, ?_, hbegin⟩
  have hclosed := (follows_run (follows_start hstart) hrun).closed
  rw [hsent, hbook] at hclosed
  cases hclosed with
  | cons hassigns _ => exact hassigns

/-- The published schedules are the enumerations of the first registrations. -/
theorem wlanSchedule_enumerates {slot : ℚ} {interval latency now : Int}
    {sat₀ sat : SamacSatelliteAppl}
    {path : List (SamacSatelliteAppl × SatelliteEvent × SamacSatelliteAppl)}
    (hstart : (initial slot interval latency).startApplication now = .ok sat₀)
    (hrun : Run Step sat₀ path sat) :
    List.Forall₂
      (fun ws batch =>
        (∀ (k : UInt64) (delta : ℚ), ws.wlanSchedule[k]? = some delta ↔
          ∃ (i : Nat) (a : MacAddress),
            batch.eraseDups[i]? = some a ∧ k = a.getInt ∧ delta = i * slot) ∧
        ws.wlanSchedule.size = batch.eraseDups.length ∧
        ∀ a : MacAddress, a.getInt ∈ ws.wlanSchedule ↔ a ∈ batch)
      (schedules sat.sent) (ScheduleBook.ofRun path).closed ∧
    (∀ a event b, (a, event, b) ∈ path →
      (event.message = .wlanScheduleTimer →
        b.wlanSchedule = ∅ ∧ ∃ ws, ws.wlanSchedule = a.wlanSchedule ∧
          b.sent = a.sent ++ [.wlanSchedule ws]) ∧
      (event.message ≠ .wlanScheduleTimer →
        schedules b.sent = schedules a.sent ∧
        ∀ (k : UInt64) (delta : ℚ),
          a.wlanSchedule[k]? = some delta → b.wlanSchedule[k]? = some delta)) := by
  constructor
  · have hclosed := (follows_run (follows_start hstart) hrun).closed
    exact hclosed.imp fun ws batch h => ⟨h.entries, h.size, h.mem_iff⟩
  · intro a event b hmem
    obtain ⟨hmsg, _, rfl⟩ | ⟨pk, hmsg, rfl⟩ := step_cases (hrun.step_of_mem hmem)
    · rw [hmsg]
      exact ⟨fun _ => ⟨rfl, a.wlanScheduleMessage event.now, rfl, rfl⟩, fun h => absurd rfl h⟩
    · rw [hmsg]
      refine ⟨fun h => (by cases h), fun _ => ?_⟩
      cases pk with
      | registration reg =>
        refine ⟨?_, fun k delta hk => ?_⟩
        · rw [sent_registration, schedules_snoc_ack]
        · rw [wlanSchedule_registration]
          exact number_keeps (f := fun i => (i : ℚ) * a.wlanSlot_s) hk
      | other => exact ⟨rfl, fun _ _ hk => hk⟩

theorem wlanSchedule_enumerates_repeated : ∃ sat₀ path sat ws,
    initialDefault.startApplication 0 = .ok sat₀ ∧ Run Step sat₀ path sat ∧
      schedules sat.sent = [ws] ∧ ws.wlanSchedule.size = 2 ∧
      ws.wlanSchedule[(5 : UInt64)]? = some 0 ∧
      ws.wlanSchedule[(3 : UInt64)]? = some (1 / 1000) := by
  have hstart : initialDefault.startApplication 0 = .ok { initialDefault with
      wlanScheduleTimer := some (0 + SimTime.ofS 1) } := start_eq_ok.mpr ⟨by decide, rfl⟩
  obtain ⟨path, sat, ws, hrun, hbook, hsent, _, _⟩ :=
    exists_published hstart [.ofBits 5, .ofBits 3, .ofBits 5]
  have hall := (wlanSchedule_enumerates hstart hrun).1
  rw [hsent, hbook] at hall
  cases hall with
  | cons hws _ =>
    obtain ⟨hentries, hsize, _⟩ := hws
    refine ⟨_, path, sat, ws, hstart, hrun, hsent, hsize, ?_, ?_⟩
    · exact (hentries 5 0).mpr ⟨0, .ofBits 5, by decide, by decide, by norm_num⟩
    · exact (hentries 3 (1 / 1000)).mpr ⟨1, .ofBits 3, by decide, by decide, by norm_num⟩

end SamacSatelliteAppl
end SpaceVeins

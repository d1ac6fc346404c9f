import SpaceVeins.WlanSlots
import SpaceVeins.SamacRegistration

/-!
# The times around a schedule

A vehicle derives two timers from a schedule: its transmission, and a
registration that is to reach the satellite before the next schedule. The times
depend on the latency of the schedule, on its interval and on the allowances of
both modules.
-/

set_option autoImplicit false

namespace SpaceVeins
open Runs

namespace Rng

theorem drawing_uniform {a b u : Int} (d : Int) (hlow : min a b ≤ u) (hhigh : u ≤ max a b) :
    (drawing d u).uniform a b = u := by
  change max (min a b) (min u (max a b)) = u
  omega

end Rng

namespace Samac

/-- The smallest slot that a vehicle can get from a schedule: its own, or the first free one. -/
def smallestDelta (ws : WlanSchedule) (address : MacAddress) : Int :=
  match ws[address.getInt]? with
  | some second => SimTime.ofMs (int64 (second * 1000))
  | none => if ws.size < 100 then SimTime.ofMs ws.size else 0

theorem createTimer_eq (now time : Int) (callback : Callback) (name : String) (v : Samac) :
    v.createTimer now callback time name =
      if time < now then .error .pastEvent else .ok (v.withTimer callback time name) := by
  rw [createTimer, TimerManager.createOneshotAt_eq]
  split <;> rfl

theorem transmissionTime_ne_pastEvent (v : Samac) (rng : Rng) (ws : WlanSchedule) (begin : Int) :
    v.transmissionTime rng ws begin ≠ .error .pastEvent := by
  intro h
  cases hentry : ws[v.address.getInt]? with
  | some second =>
    rw [transmissionTime_of_entry rng begin hentry] at h
    cases h
  | none =>
    have hmem : v.address.getInt ∉ ws := fun hmem => by
      rw [Std.ExtTreeMap.getElem?_eq_some_getElem hmem] at hentry
      cases hentry
    rw [transmissionTime_of_not_mem rng begin hmem] at h
    split at h
    · cases h
    · split at h
      · cases h
      · cases h

theorem processWlanSchedule_pastEvent {now : Int} {rng : Rng} {mac : MacAddress}
    {ws : SpaceVeinsWlanScheduleMessage} {v : Samac} :
    v.processWlanSchedule now rng mac ws = .error .pastEvent ↔
      ∃ time, v.transmissionTime rng ws.wlanSchedule ws.wlanScheduleBeginTimestamp = .ok time ∧
        (time < now ∨
          rng.uniform now (v.readWlanSchedule now ws).lastUsefulRegistrationTime < now) := by
  have htime' := transmissionTime_congr rng ws.wlanSchedule ws.wlanScheduleBeginTimestamp
    (v := { v with leoSatelliteMacAddress := mac }) (w := v) rfl
  cases htime : v.transmissionTime rng ws.wlanSchedule ws.wlanScheduleBeginTimestamp with
  | error e =>
    have hne := transmissionTime_ne_pastEvent v rng ws.wlanSchedule ws.wlanScheduleBeginTimestamp
    rw [htime] at hne
    simp only [processWlanSchedule, handleWlanSchedule, scheduleWlanTransmission, htime', htime,
      bind, Except.bind, reduceCtorEq, false_and, exists_false, iff_false]
    simpa using hne
  | ok time =>
    simp only [processWlanSchedule, handleWlanSchedule, scheduleWlanTransmission, htime', htime,
      bind, Except.bind, createTimer_eq]
    generalize hw : withTimer .scheduleWlanTransmissionCallback time
      "scheduleWlanTransmissionCallback" { v with leoSatelliteMacAddress := mac } = w
    have hlast : (w.readWlanSchedule now ws).lastUsefulRegistrationTime =
        (v.readWlanSchedule now ws).lastUsefulRegistrationTime := by
      rw [readWlanSchedule_lastUseful, readWlanSchedule_lastUseful, ← hw]
      rfl
    by_cases hpast : time < now
    · simp [hpast]
    · simp only [hpast, if_false, hlast]
      by_cases hlate : rng.uniform now (v.readWlanSchedule now ws).lastUsefulRegistrationTime < now
      · simp [hlate]
      · simp [hlate, hpast, pure, Except.pure]

/-- The slots that a vehicle can get are the smallest one and later ones, and the smallest one can
be drawn. -/
theorem transmissionTime_smallest (v : Samac) (ws : WlanSchedule) (begin last now : Int) :
    ((v.address.getInt ∉ ws ∧ 100 < ws.size) ∧
      ∀ rng, ∃ e, v.transmissionTime rng ws begin = .error e) ∨
    (¬ (v.address.getInt ∉ ws ∧ 100 < ws.size) ∧
      (∀ rng, ∃ time, v.transmissionTime rng ws begin = .ok time ∧
        begin + smallestDelta ws v.address ≤ time) ∧
      ∃ rng, v.transmissionTime rng ws begin = .ok (begin + smallestDelta ws v.address) ∧
        rng.uniform now last = last) := by
  by_cases hmem : v.address.getInt ∈ ws
  · have hentry := Std.ExtTreeMap.getElem?_eq_some_getElem hmem
    have hsmallest : smallestDelta ws v.address =
        SimTime.ofMs (int64 (ws[v.address.getInt] * 1000)) := by
      rw [smallestDelta, hentry]
    refine Or.inr ⟨fun h => h.1 hmem, ?_, .drawing 0 last, ?_, ?_⟩
    · intro rng
      exact ⟨_, transmissionTime_of_entry rng begin hentry, by rw [hsmallest]⟩
    · rw [hsmallest, transmissionTime_of_entry _ begin hentry]
    · exact Rng.drawing_uniform 0 (by omega) (by omega)
  · have hnone := Std.ExtTreeMap.getElem?_eq_none hmem
    have hsmallest : smallestDelta ws v.address =
        if ws.size < 100 then SimTime.ofMs ws.size else 0 := by
      rw [smallestDelta, hnone]
    rcases Nat.lt_trichotomy ws.size 100 with hlt | heq | hgt
    · rw [if_pos hlt] at hsmallest
      refine Or.inr ⟨fun h => by omega, ?_, .drawing ws.size last, ?_, ?_⟩
      · intro rng
        have hdraw := (rng.intuniform_mem ws.size 99 (by omega)).1
        rw [transmissionTime_of_not_mem rng begin hmem, if_pos hlt, hsmallest]
        refine ⟨_, rfl, ?_⟩
        have := SimTime.ofMs_le.mpr hdraw
        omega
      · rw [transmissionTime_of_not_mem _ begin hmem, if_pos hlt, hsmallest,
          Rng.drawing_intuniform last le_rfl (by omega)]
      · exact Rng.drawing_uniform _ (by omega) (by omega)
    · rw [if_neg (by omega)] at hsmallest
      have htime : ∀ rng, v.transmissionTime rng ws begin = .ok (begin + 0) := by
        intro rng
        rw [transmissionTime_of_not_mem rng begin hmem, if_neg (by omega), if_neg (by omega),
          add_zero]
      refine Or.inr ⟨fun h => by omega, ?_, .drawing 0 last, ?_, ?_⟩
      · intro rng
        exact ⟨_, htime rng, by rw [hsmallest]⟩
      · rw [htime, hsmallest]
      · exact Rng.drawing_uniform 0 (by omega) (by omega)
    · refine Or.inl ⟨⟨hmem, hgt⟩, fun rng => ?_⟩
      rw [transmissionTime_of_not_mem rng begin hmem, if_neg (by omega), if_pos hgt]
      exact ⟨_, rfl⟩

/-- No timer of a schedule is asked for in the past, whatever is drawn, exactly if the schedule is
refused, or came early enough both for the slot and for a registration. -/
theorem schedule_in_future_iff (sat : SamacSatelliteAppl) (T now : Int) (mac : MacAddress)
    (v : Samac) :
    (∀ rng, v.processWlanSchedule now rng mac (sat.wlanScheduleMessage T) ≠ .error .pastEvent) ↔
      (v.address.getInt ∉ sat.wlanSchedule ∧ 100 < sat.wlanSchedule.size) ∨
      (now - T ≤ sat.maxV2SLatency_s + smallestDelta sat.wlanSchedule v.address ∧
        3 * (now - T) + v.maxSatelliteProcDelay_s ≤ sat.wlanScheduleInterval_s) := by
  have hlast := readWlanSchedule_lastUseful now (sat.wlanScheduleMessage T) v
  change _ = T + sat.wlanScheduleInterval_s - (2 * (now - T) + v.maxSatelliteProcDelay_s) at hlast
  simp only [ne_eq, processWlanSchedule_pastEvent, hlast]
  change (∀ rng, ¬ ∃ time, v.transmissionTime rng sat.wlanSchedule (T + sat.maxV2SLatency_s) =
    .ok time ∧ _) ↔ _
  obtain ⟨hrefused, herror⟩ | ⟨hnot, hleast, rng, hrng, hdraw⟩ := transmissionTime_smallest v
    sat.wlanSchedule (T + sat.maxV2SLatency_s)
    (T + sat.wlanScheduleInterval_s - (2 * (now - T) + v.maxSatelliteProcDelay_s)) now
  · refine iff_of_true (fun rng => ?_) (Or.inl hrefused)
    rintro ⟨time, htime, -⟩
    obtain ⟨e, he⟩ := herror rng
    rw [he] at htime
    cases htime
  · constructor
    · intro hfuture
      have hboth := hfuture rng
      rw [hrng, hdraw] at hboth
      refine Or.inr ⟨?_, ?_⟩
      · by_contra hlate
        exact hboth ⟨_, rfl, Or.inl (by omega)⟩
      · by_contra hlate
        exact hboth ⟨_, rfl, Or.inr (by omega)⟩
    · rintro (hrefused | ⟨hslot, hregistration⟩)
      · exact absurd hrefused hnot
      · rintro rng ⟨time, htime, hpast⟩
        obtain ⟨time', htime', hle⟩ := hleast rng
        obtain rfl := Except.ok.inj (htime'.symm.trans htime)
        have huniform := (rng.uniform_mem now
          (T + sat.wlanScheduleInterval_s - (2 * (now - T) + v.maxSatelliteProcDelay_s))).1
        omega

/-- With a latency of 400 ms a registration would have been useful only before the schedule
arrived. -/
theorem late_schedule_past_event :
    exampleVehicle.processWlanSchedule (SimTime.ofMs 400) (.drawing 0 (SimTime.ofMs 190))
      (.ofBits 1) ((SamacSatelliteAppl.initial (1 / 1000) (SimTime.ofS 1)
        (SimTime.ofMs 500)).wlanScheduleMessage 0) = .error .pastEvent := by
  rw [processWlanSchedule_pastEvent]
  refine ⟨SimTime.ofMs 500, by decide +kernel, Or.inr (by decide +kernel)⟩

end Samac

/-! ## A registration and the next schedule -/

namespace SamacSatelliteAppl
variable {sat sat' : SamacSatelliteAppl}
  {path : List (SamacSatelliteAppl × SatelliteEvent × SamacSatelliteAppl)} {time : Int}

/-- Between two schedules the timer waits, and nothing is taken out of the schedule. -/
structure Collects (time interval : Int) (addresses : Set UInt64) (sat : SamacSatelliteAppl) :
    Prop where
  timer : sat.wlanScheduleTimer = some time
  interval_eq : sat.wlanScheduleInterval_s = interval
  entered : ∀ a ∈ addresses, a ∈ sat.wlanSchedule

theorem collects_step {event : SatelliteEvent} {interval : Int} {addresses : Set UInt64}
    (h : sat.Collects time interval addresses) (hstep : Step sat event sat')
    (hmsg : event.message ≠ .wlanScheduleTimer) : sat'.Collects time interval addresses := by
  obtain ⟨htimer, _, _⟩ | ⟨pk, _, rfl⟩ := step_cases hstep
  · exact absurd htimer hmsg
  · cases pk with
    | registration reg =>
      refine ⟨h.timer, h.interval_eq, fun a ha => ?_⟩
      rw [wlanSchedule_registration, Std.ExtTreeMap.mem_insertIfNew]
      exact Or.inr (h.entered a ha)
    | other => exact ⟨h.timer, h.interval_eq, h.entered⟩

theorem collects_run {interval : Int} {addresses : Set UInt64}
    (h : sat.Collects time interval addresses) (hrun : Run Step sat path sat')
    (hmsg : ∀ step ∈ path, step.2.1.message ≠ .wlanScheduleTimer) :
    sat'.Collects time interval addresses := by
  induction hrun with
  | refl => exact h
  | @snoc path t u event _ hstep ih =>
    have ht := ih fun step hmem => hmsg step (List.mem_append_left _ hmem)
    exact collects_step ht hstep (hmsg (t, event, u) (by simp))

theorem no_timer_before {interval : Int} {addresses : Set UInt64}
    (h : sat.Collects time interval addresses) (hrun : Run Step sat path sat')
    (hearly : ∀ step ∈ path, step.2.1.now < time) :
    ∀ step ∈ path, step.2.1.message ≠ .wlanScheduleTimer := by
  induction hrun with
  | refl =>
    intro step hmem
    cases hmem
  | @snoc path t u event hrun hstep ih =>
    have hbefore := ih fun step hmem => hearly step (List.mem_append_left _ hmem)
    intro step hmem
    rcases List.mem_append.mp hmem with hmem | hmem
    · exact hbefore step hmem
    · obtain rfl := List.mem_singleton.mp hmem
      intro htimer
      have hdue := hstep.1.2 htimer
      rw [(collects_run h hrun hbefore).timer] at hdue
      have hnow := hearly (t, event, u) (by simp)
      have heq := Option.some.inj hdue
      simp only at hnow
      omega

theorem publishes_collected {interval next : Int} {addresses : Set UInt64}
    (h : sat.Collects time interval addresses) (hstep : Step sat ⟨next, .wlanScheduleTimer⟩ sat') :
    next = time ∧ ∃ ws, sat'.sent = sat.sent ++ [.wlanSchedule ws] ∧
      ws.transmitTimestamp = time ∧ ∀ a ∈ addresses, a ∈ ws.wlanSchedule := by
  obtain ⟨_, htimer, rfl⟩ | ⟨_, hmsg, _⟩ := step_cases hstep
  · rw [h.timer] at htimer
    obtain rfl := Option.some.inj htimer
    exact ⟨rfl, sat.wlanScheduleMessage time, sent_publish _ _, rfl, h.entered⟩
  · cases hmsg

theorem collects_publish {T : Int} (hstep : Step sat ⟨T, .wlanScheduleTimer⟩ sat') :
    sat'.Collects (T + sat.wlanScheduleInterval_s) sat.wlanScheduleInterval_s ∅ := by
  obtain ⟨_, _, rfl⟩ | ⟨_, hmsg, _⟩ := step_cases hstep
  · exact ⟨rfl, rfl, fun a ha => ha.elim⟩
  · cases hmsg

end SamacSatelliteAppl

namespace Samac
variable {v v' : Samac} {path : List (Samac × SamacEvent × Samac)}

/-- The times of a schedule are in force, and its registration timer, if it is still there, waits
for `u`. -/
structure InForce (address : MacAddress) (latency delay finish : Int) (id : Nat) (u : Int)
    (v : Samac) : Prop where
  orderly : v.Orderly
  address_eq : v.address = address
  latency_eq : v.currentSatelliteLatency = latency
  delay_eq : v.maxSatelliteProcDelay_s = delay
  finish_eq : v.endOfCurrentWlanSchedule = finish
  timer : ∀ t ∈ v.timerManager.timers_, t.id = id →
    t.spec.callback_ = .satelliteRegistrationCallback ∧ t.arrival = some u

theorem InForce.keep {address : MacAddress} {latency delay finish u : Int} {id : Nat}
    (h : v.InForce address latency delay finish id u) (haddress : v'.address = v.address)
    (htimers : v'.timerManager = v.timerManager)
    (hlatency : v'.currentSatelliteLatency = v.currentSatelliteLatency)
    (hdelay : v'.maxSatelliteProcDelay_s = v.maxSatelliteProcDelay_s)
    (hfinish : v'.endOfCurrentWlanSchedule = v.endOfCurrentWlanSchedule) :
    v'.InForce address latency delay finish id u :=
  ⟨orderly_of_eq h.orderly htimers, haddress.trans h.address_eq,
    hlatency.trans h.latency_eq, hdelay.trans h.delay_eq,
    hfinish.trans h.finish_eq, htimers ▸ h.timer⟩

theorem inForce_step {address : MacAddress} {latency delay finish u : Int} {id : Nat}
    {event : SamacEvent}
    (h : v.InForce address latency delay finish id u) (hstep : Step v event v')
    (hmsg : isWlanSchedule event.message = false) :
    v'.InForce address latency delay finish id u := by
  have horderly := orderly_step h.orderly hstep
  cases step_effect h.orderly.oneshot hstep with
  | registration =>
    exact ⟨horderly, h.address_eq, h.latency_eq, h.delay_eq, h.finish_eq,
      fun t ht => h.timer t (List.mem_of_mem_filter ht)⟩
  | transmission =>
    exact ⟨horderly, h.address_eq, h.latency_eq, h.delay_eq, h.finish_eq,
      fun t ht => h.timer t (List.mem_of_mem_filter ht)⟩
  | ackTimer => exact ⟨horderly, h.address_eq, h.latency_eq, h.delay_eq, h.finish_eq, h.timer⟩
  | leoAck =>
    refine h.keep ?_ (timerManager_processLeoAck _ v).1 ?_ ?_ ?_
    · unfold processLeoAck
      split <;> rfl
    · unfold processLeoAck
      split <;> rfl
    · unfold processLeoAck
      split <;> rfl
    · unfold processLeoAck
      split <;> rfl
  | wlanSchedule hreceived =>
    rw [hreceived] at hmsg
    cases hmsg
  | otherPacket => exact h
  | upperPacket =>
    refine h.keep ?_ (timerManager_handleUpperPacket _ v).1 ?_ ?_ ?_
    · unfold handleUpperPacket
      split <;> rfl
    · unfold handleUpperPacket
      split <;> rfl
    · unfold handleUpperPacket
      split <;> rfl
    · unfold handleUpperPacket
      split <;> rfl

theorem inForce_run {address : MacAddress} {latency delay finish u : Int} {id : Nat}
    (h : v.InForce address latency delay finish id u) (hrun : Run Step v path v')
    (hmsg : ∀ step ∈ path, isWlanSchedule step.2.1.message = false) :
    v'.InForce address latency delay finish id u := by
  induction hrun with
  | refl => exact h
  | @snoc path t u event _ hstep ih =>
    have ht := ih fun step hmem => hmsg step (List.mem_append_left _ hmem)
    exact inForce_step ht hstep (hmsg (t, event, u) (by simp))

theorem inForce_schedule {now : Int} {rng : Rng} {mac : MacAddress}
    {ws : SpaceVeinsWlanScheduleMessage} (h : v.Orderly)
    (hstep : Step v ⟨now, rng, .lowerLayerIn ⟨mac, .wlanSchedule ws⟩⟩ v') :
    now ≤ rng.uniform now v'.lastUsefulRegistrationTime ∧
      v'.lastUsefulRegistrationTime = ws.transmitTimestamp + ws.wlanScheduleInterval -
        (2 * (now - ws.transmitTimestamp) + v.maxSatelliteProcDelay_s) ∧
      v'.InForce v.address (now - ws.transmitTimestamp) v.maxSatelliteProcDelay_s
        (ws.transmitTimestamp + ws.wlanScheduleInterval) (v.timerManager.nextId + 1)
        (rng.uniform now v'.lastUsefulRegistrationTime) := by
  have horderly := orderly_step h hstep
  cases step_effect h.oneshot hstep with
  | @wlanSchedule mac' ws' time registration hmsg _ _ hdraw hregistration =>
    obtain ⟨rfl, rfl⟩ : mac = mac' ∧ ws = ws' := by simpa using hmsg
    have hlast : (v.afterWlanSchedule now mac ws time registration).lastUsefulRegistrationTime =
        (v.readWlanSchedule now ws).lastUsefulRegistrationTime := by
      simp only [afterWlanSchedule, record, withTimer, readWlanSchedule_lastUseful]
    simp only [← hlast] at hdraw
    rw [← hdraw]
    refine ⟨hregistration, ?_, horderly, ?_, ?_, ?_, ?_, ?_⟩
    · rw [hlast, readWlanSchedule_lastUseful]
    · simp only [afterWlanSchedule, record, withTimer, readWlanSchedule, recordMissedAcks_eq]
    · simp only [afterWlanSchedule, record, withTimer, readWlanSchedule, recordMissedAcks_eq]
    · simp only [afterWlanSchedule, record, withTimer, readWlanSchedule, recordMissedAcks_eq]
    · simp only [afterWlanSchedule, record, withTimer, readWlanSchedule, recordMissedAcks_eq]
    · intro t ht hid
      rw [timerManager_afterWlanSchedule] at ht
      rcases List.mem_append.mp ht with hold | hnew
      · rcases List.mem_append.mp hold with hold | hnew
        · have := v.timerManager.ids_lt t hold
          omega
        · rw [List.mem_singleton.mp hnew] at hid
          simp at hid
      · rw [List.mem_singleton.mp hnew]
        exact ⟨rfl, rfl⟩
  | registration _ hmsg => cases hmsg
  | transmission _ _ _ hmsg => cases hmsg
  | ackTimer hmsg => cases hmsg
  | leoAck hmsg => cases hmsg
  | otherPacket hmsg => cases hmsg
  | upperPacket hmsg => cases hmsg

theorem inForce_register {address : MacAddress} {latency delay finish u time : Int} {id : Nat}
    {rng : Rng}
    (h : v.InForce address latency delay finish id u)
    (hstep : Step v ⟨time, rng, .timerMessage id⟩ v') :
    time = u ∧ v'.sentDown = v.sentDown ++ [⟨address⟩] ∧
      v'.expectedAck_Timestamp = u + 2 * latency + delay ∧
      v'.endOfCurrentWlanSchedule = finish := by
  have hdue := hstep.1.2
  obtain ⟨t, hfind, harrival⟩ := Option.bind_eq_some_iff.mp hdue
  obtain ⟨ht, hid⟩ := TimerManager.find?_some hfind
  obtain ⟨hcallback, hu⟩ := h.timer t ht hid
  obtain rfl : u = time := Option.some.inj (hu.symm.trans harrival)
  cases step_effect h.orderly.oneshot hstep with
  | registration start hmsg =>
    refine ⟨rfl, ?_, ?_, h.finish_eq⟩
    · rw [← h.address_eq]
      rfl
    · rw [← h.latency_eq, ← h.delay_eq]
      rfl
  | transmission _ _ _ hmsg hfind' hregisters =>
    cases hmsg
    obtain rfl := Option.some.inj (hfind.symm.trans hfind')
    rw [hcallback] at hregisters
    cases hregisters
  | ackTimer hmsg => cases hmsg
  | leoAck hmsg => cases hmsg
  | wlanSchedule hmsg => cases hmsg
  | otherPacket hmsg => cases hmsg
  | upperPacket hmsg => cases hmsg

end Samac

/-- A registration whose way up and whose acknowledgement take no longer than the schedule took,
and that is handled within the allowance, is in the next schedule and is acknowledged in time. -/
theorem registration_in_next_schedule {sat0 sat1 sat2 sat3 : SamacSatelliteAppl}
    {v0 v1 v2 v3 : Samac} {T now u up proc down : Int} {rng rng' : Rng} {mac : MacAddress}
    {sats : List (SamacSatelliteAppl × SatelliteEvent × SamacSatelliteAppl)}
    {past samacs : List (Samac × SamacEvent × Samac)} {address : MacAddress} {delay : Int}
    {multicast : Option UInt32} {port : Int} {queue : PacketQueue}
    {encapsulate : Packet → List Packet → Except SimError (Packet × List Packet)}
    (hreach : Run Samac.Step (.initial address delay multicast port queue encapsulate) past v0)
    (hpublish : sat0.Step ⟨T, .wlanScheduleTimer⟩ sat1)
    (hschedule : v0.Step
      ⟨now, rng, .lowerLayerIn ⟨mac, .wlanSchedule (sat0.wlanScheduleMessage T)⟩⟩ v1)
    (hlatency : 0 < now - T)
    (hinterval : 3 * (now - T) + v0.maxSatelliteProcDelay_s ≤ sat0.wlanScheduleInterval_s)
    (hsamacs : Run Samac.Step v1 samacs v2)
    (hcurrent : ∀ step ∈ samacs, Samac.isWlanSchedule step.2.1.message = false)
    (hregister : v2.Step ⟨u, rng', .timerMessage (v0.timerManager.nextId + 1)⟩ v3)
    (hup : up ≤ now - T) (hproc : proc ≤ v0.maxSatelliteProcDelay_s) (hdown : down ≤ now - T)
    (hsats : Run SamacSatelliteAppl.Step sat1 sats sat2)
    (horder : ∀ step ∈ sats, step.2.1.now ≤ u + up + proc)
    (hentered : sat2.Step ⟨u + up + proc, .packet (.registration ⟨v0.address⟩)⟩ sat3) :
    (now ≤ u ∧ u ≤ v1.lastUsefulRegistrationTime ∧
      v3.sentDown = v2.sentDown ++ [⟨v0.address⟩]) ∧
    (u + up + proc < T + sat0.wlanScheduleInterval_s ∧
      sat3.sent = sat2.sent ++ [.ack ⟨v0.address⟩] ∧
      ∀ rest sat4 sat5 next, Run SamacSatelliteAppl.Step sat3 rest sat4 →
        (∀ step ∈ rest, step.2.1.message ≠ .wlanScheduleTimer) →
        sat4.Step ⟨next, .wlanScheduleTimer⟩ sat5 →
        next = T + sat0.wlanScheduleInterval_s ∧
          ∃ ws, sat5.sent = sat4.sent ++ [.wlanSchedule ws] ∧
            v0.address.getInt ∈ ws.wlanSchedule) ∧
    u + up + proc + down ≤ v3.expectedAck_Timestamp ∧
    v3.expectedAck_Timestamp ≤ v3.endOfCurrentWlanSchedule ∧
    v3.endOfCurrentWlanSchedule = T + sat0.wlanScheduleInterval_s := by
  obtain ⟨hdraw, hlast, hforce⟩ :=
    Samac.inForce_schedule (Samac.orderly_run hreach) hschedule
  change _ = T + sat0.wlanScheduleInterval_s - (2 * (now - T) + v0.maxSatelliteProcDelay_s) at hlast
  obtain ⟨hu, hsent, hexpected, hfinish⟩ :=
    Samac.inForce_register (Samac.inForce_run hforce hsamacs hcurrent) hregister
  change v3.expectedAck_Timestamp = _ + 2 * (now - T) + _ at hexpected
  change v3.endOfCurrentWlanSchedule = T + sat0.wlanScheduleInterval_s at hfinish
  have huniform := (rng.uniform_mem now v1.lastUsefulRegistrationTime).2
  rw [← hu] at hdraw huniform hexpected
  have hearly : u + up + proc < T + sat0.wlanScheduleInterval_s := by omega
  have hcollects := SamacSatelliteAppl.collects_publish hpublish
  have hbefore := SamacSatelliteAppl.no_timer_before hcollects hsats
    fun step hmem => lt_of_le_of_lt (horder step hmem) hearly
  have hcollects2 := SamacSatelliteAppl.collects_run hcollects hsats hbefore
  refine ⟨⟨hdraw, by omega, hsent⟩, ⟨hearly, ?_, ?_⟩, by omega, by omega, hfinish⟩
  · obtain ⟨hmsg, _, _⟩ | ⟨pk, hmsg, rfl⟩ := SamacSatelliteAppl.step_cases hentered
    · cases hmsg
    · cases hmsg
      exact SamacSatelliteAppl.sent_registration _ _
  · intro rest sat4 sat5 next hrest hmsgs hnext
    have hcollects3 : sat3.Collects (T + sat0.wlanScheduleInterval_s) sat0.wlanScheduleInterval_s
        {v0.address.getInt} := by
      obtain ⟨hmsg, _, _⟩ | ⟨pk, hmsg, rfl⟩ := SamacSatelliteAppl.step_cases hentered
      · cases hmsg
      · cases hmsg
        refine ⟨hcollects2.timer, hcollects2.interval_eq, ?_⟩
        rintro a rfl
        rw [SamacSatelliteAppl.wlanSchedule_registration, Std.ExtTreeMap.mem_insertIfNew]
        simp
    have hcollects4 := SamacSatelliteAppl.collects_run hcollects3 hrest hmsgs
    obtain ⟨htime, ws, hws, -, hmem⟩ := SamacSatelliteAppl.publishes_collected hcollects4 hnext
    exact ⟨htime, ws, hws, hmem _ rfl⟩

namespace Samac

def dueSatellite : SamacSatelliteAppl :=
  { SamacSatelliteAppl.initialDefault with wlanScheduleTimer := some (SimTime.ofS 1) }

/-- Its first schedule is heard after 4 ms; the slot is over before the registration. -/
def firstSchedule : SamacEvent :=
  ⟨SimTime.ofMs 1004, .drawing 50 (SimTime.ofMs 1500),
    .lowerLayerIn ⟨.ofBits 1, .wlanSchedule (dueSatellite.wlanScheduleMessage (SimTime.ofS 1))⟩⟩

def afterFirstSchedule (events : List SamacEvent) : Option Samac :=
  events.foldlM step? exampleVehicle

theorem afterFirstSchedule_isSome :
    (afterFirstSchedule [firstSchedule]).isSome = true ∧
      (afterFirstSchedule [firstSchedule, timerAtMs 1055 0]).isSome = true ∧
      (afterFirstSchedule [firstSchedule, timerAtMs 1055 0, timerAtMs 1500 1]).isSome = true := by
  decide +kernel

end Samac

theorem registration_in_next_schedule_first : ∃ v : Samac,
    SimTime.ofMs 1508 ≤ v.expectedAck_Timestamp ∧
      v.expectedAck_Timestamp ≤ v.endOfCurrentWlanSchedule ∧
      v.endOfCurrentWlanSchedule = SimTime.ofS 2 := by
  obtain ⟨h1, h2, h3⟩ := Samac.afterFirstSchedule_isSome
  obtain ⟨v1, hv1⟩ := Option.isSome_iff_exists.mp h1
  obtain ⟨v2, hv2⟩ := Option.isSome_iff_exists.mp h2
  obtain ⟨v3, hv3⟩ := Option.isSome_iff_exists.mp h3
  rw [Samac.afterFirstSchedule, List.foldlM_cons] at hv1 hv2 hv3
  have hstep1 : Samac.exampleVehicle.step? Samac.firstSchedule = some v1 := by simpa using hv1
  rw [hstep1] at hv2 hv3
  have hstep2 : v1.step? (Samac.timerAtMs 1055 0) = some v2 := by simpa using hv2
  have hstep3 : v2.step? (Samac.timerAtMs 1500 1) = some v3 := by simpa [hstep2] using hv3
  have hpublish := @SamacSatelliteAppl.step_timer Samac.dueSatellite _ rfl (by decide)
  have hquiet : ∀ step ∈ [(v1, Samac.timerAtMs 1055 0, v2)],
      Samac.isWlanSchedule step.2.1.message = false := by
    simp [Samac.timerAtMs, Samac.isWlanSchedule]
  have hresult := @registration_in_next_schedule _ _ _ _ Samac.exampleVehicle v1 v2 v3 _ _ _
    (SimTime.ofMs 3) (SimTime.ofMs 1) (SimTime.ofMs 4) _ _ _ [] [] _ (.ofBits 7) _ _ _ _ _
    .refl hpublish (Samac.step_of_step? hstep1) (by decide) (by decide)
    (.single (Samac.step_of_step? hstep2)) hquiet (Samac.step_of_step? hstep3)
    (by decide) (by decide) (by decide) .refl (by simp) (SamacSatelliteAppl.step_packet (by decide))
  exact ⟨v3, hresult.2.2⟩

end SpaceVeins

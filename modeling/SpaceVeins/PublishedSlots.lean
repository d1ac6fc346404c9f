import SpaceVeins.WlanSlots

/-!
# Slots over whole runs of the satellite

For every run of the satellite application, and for every schedule published in
it, the exact conditions on the registrations of the period under which the
slots are far enough apart, are avoided by the other vehicles, lie within the
interval, and are accepted at all.
-/

set_option autoImplicit false

namespace SpaceVeins
open Runs

namespace SamacSatelliteAppl
variable {slot : ℚ} {interval latency now : Int} {sat₀ sat : SamacSatelliteAppl}
  {path : List (SamacSatelliteAppl × SatelliteEvent × SamacSatelliteAppl)}

/-- The beginnings of the schedules lie one interval apart, and the timer waits for the next. -/
structure Clocked (interval latency : Int) (sat : SamacSatelliteAppl) : Prop where
  interval_eq : sat.wlanScheduleInterval_s = interval
  latency_eq : sat.maxV2SLatency_s = latency
  intervals : ∀ ws ∈ schedules sat.sent, ws.wlanScheduleInterval = interval
  chain : List.IsChain (fun ws next : SpaceVeinsWlanScheduleMessage =>
    next.wlanScheduleBeginTimestamp = ws.wlanScheduleBeginTimestamp + interval)
    (schedules sat.sent)
  last : ∀ ws ∈ (schedules sat.sent).getLast?,
    sat.wlanScheduleTimer = some (ws.wlanScheduleBeginTimestamp - latency + interval)

theorem clocked_start (h : (initial slot interval latency).startApplication now = .ok sat) :
    sat.Clocked interval latency := by
  obtain ⟨_, rfl⟩ := start_eq_ok.mp h
  refine ⟨rfl, rfl, ?_, ?_, ?_⟩ <;> simp [initial, schedules]

theorem clocked_step {sat' : SamacSatelliteAppl} {event : SatelliteEvent}
    (hclock : sat.Clocked interval latency) (h : Step sat event sat') :
    sat'.Clocked interval latency := by
  obtain ⟨_, htimer, rfl⟩ | ⟨pk, _, rfl⟩ := step_cases h
  · have hsent : schedules (sat.publishWlanSchedule event.now).sent =
        schedules sat.sent ++ [sat.wlanScheduleMessage event.now] := by
      rw [sent_publish, schedules_snoc_wlanSchedule]
    have hbegin : (sat.wlanScheduleMessage event.now).wlanScheduleBeginTimestamp =
        event.now + latency := by rw [← hclock.latency_eq]; rfl
    refine ⟨hclock.interval_eq, hclock.latency_eq, ?_, ?_, ?_⟩
    · intro ws hws
      rw [hsent] at hws
      rcases List.mem_append.mp hws with hws | hws
      · exact hclock.intervals ws hws
      · rw [List.mem_singleton.mp hws]
        exact hclock.interval_eq
    · change List.IsChain _ (schedules (sat.publishWlanSchedule event.now).sent)
      rw [hsent, List.isChain_append]
      refine ⟨hclock.chain, List.isChain_singleton _, ?_⟩
      intro ws hws next hnext
      obtain rfl : sat.wlanScheduleMessage event.now = next := by simpa using hnext
      have hdue := Option.some.inj (htimer.symm.trans (hclock.last ws hws))
      omega
    · intro ws hws
      change ws ∈ (schedules (sat.publishWlanSchedule event.now).sent).getLast? at hws
      rw [hsent, List.getLast?_concat] at hws
      obtain rfl : sat.wlanScheduleMessage event.now = ws := by simpa using hws
      change some (event.now + sat.wlanScheduleInterval_s) = _
      rw [hbegin, hclock.interval_eq, add_sub_cancel_right]
  · have hsent : schedules (sat.processPacket pk).sent = schedules sat.sent := by
      cases pk with
      | registration reg => exact schedules_snoc_ack _ _
      | other => rfl
    cases pk with
    | registration reg =>
      exact ⟨hclock.interval_eq, hclock.latency_eq, hsent ▸ hclock.intervals,
        hsent ▸ hclock.chain, hsent ▸ hclock.last⟩
    | other =>
      exact ⟨hclock.interval_eq, hclock.latency_eq, hclock.intervals, hclock.chain, hclock.last⟩

theorem clocked_run (h₀ : sat₀.Clocked interval latency) (hrun : Run Step sat₀ path sat) :
    sat.Clocked interval latency :=
  hrun.invariant h₀ fun _ _ _ => clocked_step

theorem forall₂_of_assigns {P : SpaceVeinsWlanScheduleMessage → List MacAddress → Prop}
    (hstart : (initial slot interval latency).startApplication now = .ok sat₀)
    (hrun : Run Step sat₀ path sat)
    (h : ∀ ws ∈ schedules sat.sent, ∀ batch, ws.wlanSchedule.Assigns slot batch → P ws batch) :
    List.Forall₂ P (schedules sat.sent) (ScheduleBook.ofRun path).closed := by
  have hclosed := (follows_run (follows_start hstart) hrun).closed
  rw [List.forall₂_iff_get] at hclosed ⊢
  exact ⟨hclosed.1, fun i hi hi' => h _ (List.get_mem _ _) _ (hclosed.2 i hi hi')⟩

/-- The slots of the published schedules are as far apart as they are long if and only if at most
one vehicle is registered or the slot length is a whole number of milliseconds. -/
theorem slots_spaced_iff (hslot : 0 < slot)
    (hstart : (initial slot interval latency).startApplication now = .ok sat₀)
    (hrun : Run Step sat₀ path sat) :
    List.Forall₂
      (fun ws batch => SlotsSpaced slot ws ↔
        batch.eraseDups.length ≤ 1 ∨ ∃ k : ℤ, slot * 1000 = k)
      (schedules sat.sent) (ScheduleBook.ofRun path).closed :=
  forall₂_of_assigns hstart hrun fun _ _ _ h => slotsSpaced_iff hslot h

theorem exists_start (slot : ℚ) (interval latency : Int) (hinterval : 0 ≤ interval) :
    ∃ sat₀, (initial slot interval latency).startApplication 0 = .ok sat₀ :=
  ⟨_, start_eq_ok.mpr ⟨hinterval, rfl⟩⟩

theorem slots_spaced_one_ms : ∃ sat₀ path sat ws,
    initialDefault.startApplication 0 = .ok sat₀ ∧ Run Step sat₀ path sat ∧
      (ScheduleBook.ofRun path).closed = [[.ofBits 1, .ofBits 2]] ∧
      schedules sat.sent = [ws] ∧ SlotsSpaced (1 / 1000) ws := by
  obtain ⟨sat₀, hstart⟩ := exists_start (1 / 1000) (SimTime.ofS 1) (SimTime.ofMs 5)
    (by decide)
  obtain ⟨path, sat, ws, hrun, hbook, hsent, _, _⟩ :=
    exists_published hstart [.ofBits 1, .ofBits 2]
  have hall := slots_spaced_iff (by norm_num) hstart hrun
  rw [hsent, hbook] at hall
  cases hall with
  | cons hws _ => exact ⟨sat₀, path, sat, ws, hstart, hrun, hbook, hsent,
      hws.mpr (Or.inr ⟨1, by norm_num⟩)⟩

/-- With slots of half a millisecond the first two vehicles transmit at the same time. -/
theorem half_ms_slots_collide : ∃ sat₀ path sat ws,
    (initial (1 / 2000) (SimTime.ofS 1) (SimTime.ofMs 5)).startApplication 0 = .ok sat₀ ∧
      Run Step sat₀ path sat ∧
      (ScheduleBook.ofRun path).closed = [[.ofBits 1, .ofBits 2]] ∧
      .wlanSchedule ws ∈ sat.sent ∧
      (MacAddress.ofBits 1).getInt ∈ ws.wlanSchedule ∧
      (MacAddress.ofBits 2).getInt ∈ ws.wlanSchedule ∧
      (∀ (v w : Samac) (rng rng' : Rng),
        v.address = .ofBits 1 → w.address = .ofBits 2 →
        v.transmissionTime rng ws.wlanSchedule ws.wlanScheduleBeginTimestamp =
            .ok (SimTime.ofMs 1005) ∧
          w.transmissionTime rng' ws.wlanSchedule ws.wlanScheduleBeginTimestamp =
            .ok (SimTime.ofMs 1005)) ∧
      ¬ SlotsSpaced (1 / 2000) ws := by
  obtain ⟨sat₀, hstart⟩ := exists_start (1 / 2000) (SimTime.ofS 1) (SimTime.ofMs 5)
    (by decide)
  obtain ⟨path, sat, ws, hrun, hbook, hsent, hassigns, hbegin⟩ :=
    exists_published hstart [.ofBits 1, .ofBits 2]
  have hslot : ∀ i : Nat, i ≤ 1 → slotMs (1 / 2000) i = 0 := by
    intro i hi
    rw [slotMs_eq_floor (by norm_num), Int.floor_eq_zero_iff, Set.mem_Ico]
    have : (i : ℚ) ≤ 1 := by exact_mod_cast hi
    constructor
    · positivity
    · linarith
  have hmem : ∀ a ∈ [MacAddress.ofBits 1, .ofBits 2], a.getInt ∈ ws.wlanSchedule :=
    fun a => (hassigns.mem_iff a).mpr
  have htime : ∀ (v : Samac) (rng : Rng) (i : Nat), i ≤ 1 →
      ([MacAddress.ofBits 1, .ofBits 2].eraseDups)[i]? = some v.address →
      v.transmissionTime rng ws.wlanSchedule ws.wlanScheduleBeginTimestamp =
        .ok (SimTime.ofMs 1005) := by
    intro v rng i hi hv
    rw [hassigns.transmissionTime _ _ hv, hslot i hi, hbegin]
    rfl
  refine ⟨sat₀, path, sat, ws, hstart, hrun, hbook, mem_schedules.mp (by simp [hsent]),
    hmem _ (by simp), hmem _ (by simp), ?_, ?_⟩
  · intro v w rng rng' hv hw
    exact ⟨htime v rng 0 (by omega) (by rw [hv]; decide),
      htime w rng' 1 le_rfl (by rw [hw]; decide)⟩
  · intro hspaced
    obtain ⟨v, hv⟩ := Samac.exists_address (.ofBits 1)
    obtain ⟨w, hw⟩ := Samac.exists_address (.ofBits 2)
    obtain ⟨t, u, ht, hu, hdist⟩ := hspaced v w (.drawing 0 0) (.drawing 0 0)
      (by rw [hv, hw]; decide) (hv ▸ hmem _ (by simp)) (hw ▸ hmem _ (by simp))
    rw [htime v _ 0 (by omega) (by rw [hv]; decide)] at ht
    rw [htime w _ 1 le_rfl (by rw [hw]; decide)] at hu
    obtain rfl := Except.ok.inj ht
    obtain rfl := Except.ok.inj hu
    simp [SimTime.dbl] at hdist
    norm_num at hdist

/-- With slots of a millisecond the vehicles without a slot avoid the assigned ones if and only if
not exactly a hundred vehicles are registered. -/
theorem free_slots_avoid_iff
    (hstart : (initial (1 / 1000) interval latency).startApplication now = .ok sat₀)
    (hrun : Run Step sat₀ path sat) :
    List.Forall₂ (fun ws batch => AvoidsSlots ws ↔ batch.eraseDups.length ≠ 100)
      (schedules sat.sent) (ScheduleBook.ofRun path).closed :=
  forall₂_of_assigns hstart hrun fun _ _ _ h => avoidsSlots_iff h

theorem free_slots_avoid_single : ∃ sat₀ path sat ws,
    initialDefault.startApplication 0 = .ok sat₀ ∧ Run Step sat₀ path sat ∧
      (ScheduleBook.ofRun path).closed = [[.ofBits 1]] ∧
      schedules sat.sent = [ws] ∧ AvoidsSlots ws := by
  obtain ⟨sat₀, hstart⟩ := exists_start (1 / 1000) (SimTime.ofS 1) (SimTime.ofMs 5)
    (by decide)
  obtain ⟨path, sat, ws, hrun, hbook, hsent, _, _⟩ := exists_published hstart [.ofBits 1]
  have hall := free_slots_avoid_iff hstart hrun
  rw [hsent, hbook] at hall
  cases hall with
  | cons hws _ => exact ⟨sat₀, path, sat, ws, hstart, hrun, hbook, hsent, hws.mpr (by decide)⟩

def firstAddresses (n : Nat) : List MacAddress :=
  (List.range n).map fun i => .ofBits (UInt64.ofNat i)

section
variable {n : Nat}

theorem length_firstAddresses : (firstAddresses n).length = n := by
  rw [firstAddresses, List.length_map, List.length_range]

theorem mem_firstAddresses {i : Nat} (hn : n ≤ 2 ^ 48) (hi : i < 2 ^ 48) :
    MacAddress.ofBits (UInt64.ofNat i) ∈ firstAddresses n ↔ i < n := by
  constructor
  · intro h
    obtain ⟨j, hj, heq⟩ := List.mem_map.mp h
    rw [List.mem_range] at hj
    rwa [← (MacAddress.ofBits_inj (hj.trans_le hn) hi).mp heq]
  · intro h
    exact List.mem_map.mpr ⟨i, List.mem_range.mpr h, rfl⟩

theorem eraseDups_firstAddresses (hn : n ≤ 2 ^ 48) :
    (firstAddresses n).eraseDups = firstAddresses n := by
  apply Numbering.eraseDups_of_nodup
  apply MacAddress.map_ofBits_nodup List.nodup_range
  exact fun i hi => (List.mem_range.mp hi).trans_le hn

end

/-- Among a hundred registered vehicles and one that missed its registration, the latter
transmits in the slot of the first. -/
theorem hundred_registrations_collide : ∃ sat₀ path sat ws,
    initialDefault.startApplication 0 = .ok sat₀ ∧ Run Step sat₀ path sat ∧
      (ScheduleBook.ofRun path).closed = [firstAddresses 100] ∧
      .wlanSchedule ws ∈ sat.sent ∧
      (MacAddress.ofBits 100).getInt ∉ ws.wlanSchedule ∧
      (MacAddress.ofBits 0).getInt ∈ ws.wlanSchedule ∧
      (∀ (v w : Samac) (rng rng' : Rng),
        v.address = .ofBits 100 → w.address = .ofBits 0 →
        v.transmissionTime rng ws.wlanSchedule ws.wlanScheduleBeginTimestamp =
            .ok (SimTime.ofMs 1005) ∧
          w.transmissionTime rng' ws.wlanSchedule ws.wlanScheduleBeginTimestamp =
            .ok (SimTime.ofMs 1005)) ∧
      ¬ AvoidsSlots ws := by
  obtain ⟨sat₀, hstart⟩ := exists_start (1 / 1000) (SimTime.ofS 1) (SimTime.ofMs 5)
    (by decide)
  obtain ⟨path, sat, ws, hrun, hbook, hsent, hassigns, hbegin⟩ :=
    exists_published hstart (firstAddresses 100)
  have hkeep : (firstAddresses 100).eraseDups = firstAddresses 100 :=
    eraseDups_firstAddresses (by decide)
  have hlen : (firstAddresses 100).eraseDups.length = 100 := by rw [hkeep, length_firstAddresses]
  have hfirst : (firstAddresses 100).eraseDups[0]? = some (.ofBits 0) := by
    rw [hkeep]
    rfl
  have hout : (MacAddress.ofBits 100).getInt ∉ ws.wlanSchedule := by
    rw [hassigns.mem_iff]
    exact mt (mem_firstAddresses (i := 100) (by decide) (by decide)).mp (lt_irrefl 100)
  have hin := hassigns.mem_of_position hfirst
  have hpair : ∀ (v w : Samac) (rng rng' : Rng),
      v.address = .ofBits 100 → w.address = .ofBits 0 →
      v.transmissionTime rng ws.wlanSchedule ws.wlanScheduleBeginTimestamp =
          .ok (SimTime.ofMs 1005) ∧
        w.transmissionTime rng' ws.wlanSchedule ws.wlanScheduleBeginTimestamp =
          .ok (SimTime.ofMs 1005) := by
    intro v w rng rng' hv hw
    constructor
    · rw [Samac.transmissionTime_of_not_mem _ _ (hv ▸ hout), hassigns.size, hlen, hbegin]
      rfl
    · rw [hassigns.transmissionTime _ _ (hw ▸ hfirst), hbegin, slotMs_default]
      rfl
  refine ⟨sat₀, path, sat, ws, hstart, hrun, hbook, mem_schedules.mp (by simp [hsent]), hout, hin,
    hpair, ?_⟩
  intro havoids
  obtain ⟨v, hv⟩ := Samac.exists_address (.ofBits 100)
  obtain ⟨w, hw⟩ := Samac.exists_address (.ofBits 0)
  obtain ⟨ht, hu⟩ := hpair v w (.drawing 0 0) (.drawing 0 0) hv hw
  exact havoids v w _ _ _ _ (hv ▸ hout) (hw ▸ hin) ht hu rfl

/-- No vehicle transmits before its schedule begins. All of them transmit within the interval if
and only if the last slot and the fixed range of the random slots end within it; then no time of a
schedule reaches a time of the next one. -/
theorem windows_of_run (hslot : 0 < slot) (hinterval : 0 < interval)
    (hstart : (initial slot interval latency).startApplication now = .ok sat₀)
    (hrun : Run Step sat₀ path sat) :
    List.Forall₂
      (fun ws batch =>
        ws.wlanScheduleInterval = interval ∧
        (∀ (v : Samac) (rng : Rng) (t : Int),
          v.transmissionTime rng ws.wlanSchedule ws.wlanScheduleBeginTimestamp = .ok t →
          ws.wlanScheduleBeginTimestamp ≤ t) ∧
        (InWindow ws ↔
          (batch ≠ [] → SimTime.ofMs (slotMs slot (batch.eraseDups.length - 1)) < interval) ∧
          (batch.eraseDups.length < 100 → SimTime.ofMs 99 < interval)))
      (schedules sat.sent) (ScheduleBook.ofRun path).closed ∧
    List.IsChain
      (fun ws next =>
        next.wlanScheduleBeginTimestamp = ws.wlanScheduleBeginTimestamp + interval ∧
        (InWindow ws → ∀ (v w : Samac) (rng rng' : Rng) (t u : Int),
          v.transmissionTime rng ws.wlanSchedule ws.wlanScheduleBeginTimestamp = .ok t →
          w.transmissionTime rng' next.wlanSchedule next.wlanScheduleBeginTimestamp = .ok u →
          t < u))
      (schedules sat.sent) := by
  have hclock := clocked_run (clocked_start hstart) hrun
  constructor
  · refine forall₂_of_assigns hstart hrun fun ws hws batch h => ?_
    have hI := hclock.intervals ws hws
    have hwindow := inWindow_iff hslot (hI ▸ hinterval) h
    rw [hI] at hwindow
    exact ⟨hI, fun v rng t ht => begin_le_time hslot h ht, hwindow⟩
  · refine List.IsChain.imp_of_mem_imp ?_ hclock.chain
    intro ws next hws hnext hbegin
    refine ⟨hbegin, fun hwindow v w rng rng' t u ht hu => ?_⟩
    obtain ⟨batch, h⟩ := assigns_of_sent hstart hrun (mem_schedules.mp hnext)
    have hafter := begin_le_time hslot h hu
    have hbefore := (hwindow v rng t ht).2
    have hI := hclock.intervals ws hws
    omega

theorem windows_of_default_run : ∃ sat₀ path sat ws next,
    initialDefault.startApplication 0 = .ok sat₀ ∧ Run Step sat₀ path sat ∧
      (ScheduleBook.ofRun path).closed = [[.ofBits 1, .ofBits 2], [.ofBits 2]] ∧
      schedules sat.sent = [ws, next] ∧ InWindow ws ∧ InWindow next ∧
      next.wlanScheduleBeginTimestamp = ws.wlanScheduleBeginTimestamp + SimTime.ofS 1 ∧
      ∀ (v w : Samac) (rng rng' : Rng) (t u : Int),
        v.transmissionTime rng ws.wlanSchedule ws.wlanScheduleBeginTimestamp = .ok t →
        w.transmissionTime rng' next.wlanSchedule next.wlanScheduleBeginTimestamp = .ok u →
        t < u := by
  obtain ⟨sat₀, hstart⟩ := exists_start (1 / 1000) (SimTime.ofS 1) (SimTime.ofMs 5)
    (by decide)
  obtain ⟨path, sat, hrun, hbook⟩ :=
    exists_closed hstart [[.ofBits 1, .ofBits 2], [.ofBits 2]]
  have hfits : ∀ n : Nat, n < 100 →
      SimTime.ofMs (slotMs (1 / 1000) n) < SimTime.ofS 1 ∧ SimTime.ofMs 99 < SimTime.ofS 1 := by
    intro n hn
    rw [slotMs_default]
    simp only [SimTime.ofMs, SimTime.ofS]
    omega
  obtain ⟨hall, hchain⟩ := windows_of_run (by norm_num) (by decide) hstart hrun
  generalize hsent : schedules sat.sent = sent at hall hchain
  rw [hbook] at hall
  obtain ⟨ws, later, hws, hlater, rfl⟩ := List.forall₂_cons_right_iff.mp hall
  obtain ⟨next, none, hnext, hnone, rfl⟩ := List.forall₂_cons_right_iff.mp hlater
  obtain rfl := List.forall₂_nil_right_iff.mp hnone
  have hwindow := hws.2.2.mpr ⟨fun _ => (hfits _ (by decide)).1, fun _ => (hfits 0 (by decide)).2⟩
  obtain ⟨hbegin, hbefore⟩ := (List.isChain_pair).mp hchain
  exact ⟨sat₀, path, sat, ws, next, hstart, hrun, hbook, hsent, hwindow,
    hnext.2.2.mpr ⟨fun _ => (hfits _ (by decide)).1, fun _ => (hfits 0 (by decide)).2⟩, hbegin,
    hbefore hwindow⟩

/-- With an interval of 50 ms an unregistered vehicle can draw a slot of the next schedule. -/
theorem short_interval_overrun : ∃ sat₀ path sat ws,
    (initial (1 / 1000) (SimTime.ofMs 50) (SimTime.ofMs 5)).startApplication 0 = .ok sat₀ ∧
      Run Step sat₀ path sat ∧ .wlanSchedule ws ∈ sat.sent ∧
      ws.wlanScheduleBeginTimestamp = SimTime.ofMs 55 ∧
      (∀ v : Samac, v.transmissionTime (.drawing 99 0) ws.wlanSchedule
        ws.wlanScheduleBeginTimestamp = .ok (SimTime.ofMs 154)) ∧
      ¬ InWindow ws := by
  obtain ⟨sat₀, hstart⟩ := exists_start (1 / 1000) (SimTime.ofMs 50) (SimTime.ofMs 5)
    (by decide)
  obtain ⟨path, sat, ws, hrun, _, hsent, hassigns, hbegin⟩ := exists_published hstart []
  have hmem : .wlanSchedule ws ∈ sat.sent := mem_schedules.mp (by simp [hsent])
  have hbegin' : ws.wlanScheduleBeginTimestamp = SimTime.ofMs 55 := hbegin.trans (by decide)
  have htime : ∀ v : Samac, v.transmissionTime (.drawing 99 0) ws.wlanSchedule
      ws.wlanScheduleBeginTimestamp = .ok (SimTime.ofMs 154) := by
    intro v
    have hout : v.address.getInt ∉ ws.wlanSchedule := by simp [hassigns.mem_iff]
    rw [Samac.transmissionTime_of_not_mem _ _ hout, hassigns.size, hbegin']
    rfl
  refine ⟨sat₀, path, sat, ws, hstart, hrun, hmem, hbegin', htime, ?_⟩
  intro hwindow
  obtain ⟨v, _⟩ := Samac.exists_address (.ofBits 1)
  have hlate := (hwindow v _ _ (htime v)).2
  have hI := (clocked_run (clocked_start hstart) hrun).intervals ws (mem_schedules.mpr hmem)
  rw [hbegin', hI] at hlate
  exact absurd hlate (by decide)

/-- A vehicle rejects a schedule if and only if it is not in it and more than a hundred others
are. -/
theorem too_large_iff
    (hstart : (initial slot interval latency).startApplication now = .ok sat₀)
    (hrun : Run Step sat₀ path sat) :
    List.Forall₂
      (fun ws batch => ∀ (v : Samac) (now : Int) (rng : Rng),
        ((∃ t, v.transmissionTime rng ws.wlanSchedule ws.wlanScheduleBeginTimestamp = .ok t) ↔
          v.address ∈ batch ∨ batch.eraseDups.length ≤ 100) ∧
        ((∃ message, v.scheduleWlanTransmission now rng ws.wlanSchedule
            ws.wlanScheduleBeginTimestamp = .error (.cRuntimeError message)) ↔
          v.address ∉ batch ∧ 100 < batch.eraseDups.length))
      (schedules sat.sent) (ScheduleBook.ofRun path).closed := by
  refine forall₂_of_assigns hstart hrun fun ws _ batch h v now rng => ?_
  by_cases hv : v.address ∈ batch
  · obtain ⟨i, _, hi⟩ := h.position ((h.mem_iff v.address).mpr hv)
    have ht := h.transmissionTime rng ws.wlanScheduleBeginTimestamp hi
    refine ⟨⟨fun _ => Or.inl hv, fun _ => ⟨_, ht⟩⟩, ?_⟩
    simp [Samac.scheduleWlanTransmission_cRuntimeError, ht, hv]
  · have ht := Samac.transmissionTime_of_not_mem rng ws.wlanScheduleBeginTimestamp
      (mt (h.mem_iff v.address).mp hv)
    rw [h.size] at ht
    rw [Samac.scheduleWlanTransmission_cRuntimeError, ht]
    by_cases hlarge : 100 < batch.eraseDups.length
    · simp [hv, hlarge, not_le.mpr hlarge, show ¬ batch.eraseDups.length < 100 by omega]
    · by_cases hfree : batch.eraseDups.length < 100
      · simp [hv, hlarge, hfree, not_lt.mp hlarge]
      · simp [hv, hlarge, hfree, not_lt.mp hlarge]

theorem too_large_hundred : ∃ sat₀ path sat ws,
    initialDefault.startApplication 0 = .ok sat₀ ∧ Run Step sat₀ path sat ∧
      (ScheduleBook.ofRun path).closed = [firstAddresses 100] ∧ schedules sat.sent = [ws] ∧
      ∀ (v : Samac) (rng : Rng), ∃ t,
        v.transmissionTime rng ws.wlanSchedule ws.wlanScheduleBeginTimestamp = .ok t := by
  obtain ⟨sat₀, hstart⟩ := exists_start (1 / 1000) (SimTime.ofS 1) (SimTime.ofMs 5)
    (by decide)
  obtain ⟨path, sat, ws, hrun, hbook, hsent, _, _⟩ :=
    exists_published hstart (firstAddresses 100)
  have hall := too_large_iff hstart hrun
  rw [hsent, hbook] at hall
  have hfits : (firstAddresses 100).eraseDups.length ≤ 100 := by
    rw [eraseDups_firstAddresses (by decide), length_firstAddresses]
  cases hall with
  | cons hws _ =>
    exact ⟨sat₀, path, sat, ws, hstart, hrun, hbook, hsent, fun v rng =>
      (hws v 0 rng).1.mpr (Or.inr hfits)⟩

/-- A hundred and one registrations end the simulation at a vehicle that is not among them. -/
theorem hundred_one_registrations_abort : ∃ sat₀ path sat ws,
    initialDefault.startApplication 0 = .ok sat₀ ∧ Run Step sat₀ path sat ∧
      (ScheduleBook.ofRun path).closed = [firstAddresses 101] ∧ .wlanSchedule ws ∈ sat.sent ∧
      ∀ (v : Samac) (now : Int) (rng : Rng), v.address = .ofBits 101 →
        v.scheduleWlanTransmission now rng ws.wlanSchedule ws.wlanScheduleBeginTimestamp =
          .error (.cRuntimeError "myWlanSchedule size is too large, size: 101") := by
  obtain ⟨sat₀, hstart⟩ := exists_start (1 / 1000) (SimTime.ofS 1) (SimTime.ofMs 5)
    (by decide)
  obtain ⟨path, sat, ws, hrun, hbook, hsent, hassigns, _⟩ :=
    exists_published hstart (firstAddresses 101)
  have hlen : (firstAddresses 101).eraseDups.length = 101 := by
    rw [eraseDups_firstAddresses (by decide), length_firstAddresses]
  have hout : (MacAddress.ofBits 101).getInt ∉ ws.wlanSchedule := by
    rw [hassigns.mem_iff]
    exact mt (mem_firstAddresses (i := 101) (by decide) (by decide)).mp (lt_irrefl 101)
  refine ⟨sat₀, path, sat, ws, hstart, hrun, hbook, mem_schedules.mp (by simp [hsent]), ?_⟩
  intro v now rng hv
  have ht := Samac.transmissionTime_of_not_mem rng ws.wlanScheduleBeginTimestamp
    (hv ▸ hout)
  rw [hassigns.size, hlen] at ht
  rw [Samac.scheduleWlanTransmission, ht]
  rfl

end SamacSatelliteAppl
end SpaceVeins

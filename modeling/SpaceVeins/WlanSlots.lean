import SpaceVeins.Samac
import SpaceVeins.ScheduleBook
import SpaceVeins.Shared.FloorSpacing

/-!
# The slots that vehicles read from a published schedule

The satellite writes the slots as multiples of `wlanSlot_s`; a vehicle reads its
own entry, or draws a slot at random if it has none. The transmission times of
all vehicles are compared for every schedule that a run of the satellite
publishes.
-/

set_option autoImplicit false

namespace SpaceVeins
open Runs

/-- The offset in milliseconds that a vehicle reads from slot number `i`. -/
def slotMs (slot : ℚ) (i : Nat) : Int := int64 ((i : ℚ) * slot * 1000)

theorem slotMs_eq_floor {slot : ℚ} (hslot : 0 < slot) (i : Nat) :
    slotMs slot i = ⌊(i : ℚ) * (slot * 1000)⌋ := by
  rw [slotMs, int64_of_nonneg (by positivity), mul_assoc]

theorem slotMs_nonneg {slot : ℚ} (hslot : 0 < slot) (i : Nat) : 0 ≤ slotMs slot i :=
  int64_nonneg (by positivity)

theorem slotMs_mono {slot : ℚ} (hslot : 0 < slot) {i j : Nat} (hij : i ≤ j) :
    slotMs slot i ≤ slotMs slot j := by
  rw [slotMs_eq_floor hslot, slotMs_eq_floor hslot]
  have hcast : (i : ℚ) ≤ j := by exact_mod_cast hij
  exact Int.floor_le_floor (mul_le_mul_of_nonneg_right hcast (by positivity))

@[simp] theorem slotMs_default (i : Nat) : slotMs (1 / 1000) i = i := by
  rw [slotMs, show (i : ℚ) * (1 / 1000) * 1000 = i by ring, int64_natCast]

namespace SimTime

theorem ofMs_le {a b : Int} : ofMs a ≤ ofMs b ↔ a ≤ b := by
  unfold ofMs
  omega

theorem ofMs_inj {a b : Int} : ofMs a = ofMs b ↔ a = b := by
  unfold ofMs
  omega

theorem ofMs_nonneg {a : Int} (h : 0 ≤ a) : 0 ≤ ofMs a := by
  unfold ofMs
  omega

theorem dbl_sub_ofMs (begin a b : Int) :
    dbl (begin + ofMs a - (begin + ofMs b)) = (a - b : Int) / 1000 := by
  rw [add_sub_add_left_eq_sub, dbl_sub, dbl_ofMs, dbl_ofMs]
  push_cast
  ring

end SimTime

namespace Samac
variable {v : Samac} {rng : Rng} {ws : WlanSchedule} {begin : Int}

theorem transmissionTime_of_entry (rng : Rng) (begin : Int) {delta : ℚ}
    (h : ws[v.address.getInt]? = some delta) :
    v.transmissionTime rng ws begin = .ok (begin + SimTime.ofMs (int64 (delta * 1000))) := by
  simp [transmissionTime, h, bind, Except.bind, pure, Except.pure]

theorem transmissionTime_of_not_mem (rng : Rng) (begin : Int)
    (h : v.address.getInt ∉ ws) :
    v.transmissionTime rng ws begin =
      if ws.size < 100 then .ok (begin + SimTime.ofMs (rng.intuniform ws.size 99))
      else if ws.size > 100 then .error (.cRuntimeError
        ("myWlanSchedule size is too large, size: " ++ toString ws.size))
      else .ok begin := by
  have hnone : ws[v.address.getInt]? = none := Std.ExtTreeMap.getElem?_eq_none h
  simp only [transmissionTime, hnone, bind, Except.bind, pure, Except.pure, throw, throwThe,
    MonadExceptOf.throw]
  split
  · rfl
  · split
    · rfl
    · simp

theorem scheduleWlanTransmission_cRuntimeError {now : Int} :
    (∃ message, v.scheduleWlanTransmission now rng ws begin = .error (.cRuntimeError message)) ↔
      ∃ message, v.transmissionTime rng ws begin = .error (.cRuntimeError message) := by
  unfold scheduleWlanTransmission
  cases v.transmissionTime rng ws begin with
  | error e => simp [bind, Except.bind]
  | ok t =>
    simp only [createTimer, TimerManager.createOneshotAt_eq, bind, Except.bind]
    by_cases hpast : t < now <;> simp [hpast, pure, Except.pure]

theorem exists_address (a : MacAddress) : ∃ v : Samac, v.address = a :=
  ⟨initial a 0 none 0 ⟨[], -1, -1, []⟩ fun packet frames => .ok (packet, frames), rfl⟩

end Samac

theorem exists_address_not_mem (batch : List MacAddress) (hshort : batch.length ≤ 100) :
    ∃ a : MacAddress, a ∉ batch := by
  by_contra hall
  have hall : ∀ a, a ∈ batch := by simpa using hall
  have hnodup : ((List.range 101).map fun i => MacAddress.ofBits (UInt64.ofNat i)).Nodup := by
    apply MacAddress.map_ofBits_nodup List.nodup_range
    exact fun i hi => (List.mem_range.mp hi).trans (by decide)
  have hlen := (hnodup.subperm fun a _ => hall a).length_le
  rw [List.length_map, List.length_range] at hlen
  omega

namespace WlanSchedule.Assigns
variable {slot : ℚ} {batch : List MacAddress} {ws : WlanSchedule} {v : Samac} {rng : Rng}
  {begin t : Int}

theorem transmissionTime (h : ws.Assigns slot batch) (rng : Rng) (begin : Int) {i : Nat}
    (hi : batch.eraseDups[i]? = some v.address) :
    v.transmissionTime rng ws begin = .ok (begin + SimTime.ofMs (slotMs slot i)) :=
  Samac.transmissionTime_of_entry rng begin ((h.entries _ _).mpr ⟨i, v.address, hi, rfl, rfl⟩)

theorem position (h : ws.Assigns slot batch) {a : MacAddress} (ha : a.getInt ∈ ws) :
    ∃ i, i < batch.eraseDups.length ∧ batch.eraseDups[i]? = some a := by
  have hmem : a ∈ batch.eraseDups := List.mem_eraseDups.mpr ((h.mem_iff a).mp ha)
  obtain ⟨i, hi⟩ := List.mem_iff_getElem?.mp hmem
  exact ⟨i, (List.getElem?_eq_some_iff.mp hi).1, hi⟩

theorem mem_of_position (h : ws.Assigns slot batch) {i : Nat} {a : MacAddress}
    (hi : batch.eraseDups[i]? = some a) : a.getInt ∈ ws :=
  (h.mem_iff a).mpr (List.mem_eraseDups.mp (List.mem_of_getElem? hi))

theorem exists_vehicle_not_mem (h : ws.Assigns slot batch) (hshort : batch.eraseDups.length ≤ 100) :
    ∃ v : Samac, v.address.getInt ∉ ws := by
  obtain ⟨a, ha⟩ := exists_address_not_mem batch.eraseDups hshort
  obtain ⟨v, rfl⟩ := Samac.exists_address a
  exact ⟨v, fun hmem => ha (List.mem_eraseDups.mpr ((h.mem_iff v.address).mp hmem))⟩

theorem time_cases (h : ws.Assigns slot batch) (ht : v.transmissionTime rng ws begin = .ok t) :
    (∃ i, i < batch.eraseDups.length ∧ batch.eraseDups[i]? = some v.address ∧
      t = begin + SimTime.ofMs (slotMs slot i)) ∨
    (v.address.getInt ∉ ws ∧ batch.eraseDups.length < 100 ∧
      ∃ d : Int, batch.eraseDups.length ≤ d ∧ d ≤ 99 ∧ t = begin + SimTime.ofMs d) ∨
    (v.address.getInt ∉ ws ∧ batch.eraseDups.length = 100 ∧ t = begin) := by
  by_cases hmem : v.address.getInt ∈ ws
  · obtain ⟨i, hlt, hi⟩ := h.position hmem
    rw [h.transmissionTime _ _ hi] at ht
    exact Or.inl ⟨i, hlt, hi, (Except.ok.inj ht).symm⟩
  · rw [Samac.transmissionTime_of_not_mem _ _ hmem, h.size] at ht
    refine Or.inr ?_
    split at ht
    · rename_i hfree
      have hdraw := rng.intuniform_mem batch.eraseDups.length 99 (by omega)
      exact Or.inl ⟨hmem, hfree, _, hdraw.1, hdraw.2, (Except.ok.inj ht).symm⟩
    · split at ht
      · cases ht
      · exact Or.inr ⟨hmem, by omega, (Except.ok.inj ht).symm⟩

end WlanSchedule.Assigns

/-! ## Distance of the assigned slots -/

/-- Any two vehicles in the schedule transmit at least `slot` seconds apart. -/
def SlotsSpaced (slot : ℚ) (ws : SpaceVeinsWlanScheduleMessage) : Prop :=
  ∀ (v w : Samac) (rng rng' : Rng), v.address ≠ w.address →
    v.address.getInt ∈ ws.wlanSchedule → w.address.getInt ∈ ws.wlanSchedule →
    ∃ t u, v.transmissionTime rng ws.wlanSchedule ws.wlanScheduleBeginTimestamp = .ok t ∧
      w.transmissionTime rng' ws.wlanSchedule ws.wlanScheduleBeginTimestamp = .ok u ∧
      slot ≤ |SimTime.dbl (t - u)|

theorem le_abs_slotMs_iff {slot : ℚ} (hslot : 0 < slot) {i j : Nat} (hij : i < j) :
    slot ≤ |((slotMs slot j - slotMs slot i : Int) : ℚ) / 1000| ↔
      slot * 1000 ≤ ((⌊(j : ℚ) * (slot * 1000)⌋ - ⌊(i : ℚ) * (slot * 1000)⌋ : ℤ) : ℚ) := by
  have hmono := slotMs_mono hslot hij.le
  have hnonneg : (0 : ℚ) ≤ ((slotMs slot j - slotMs slot i : Int) : ℚ) := by
    exact_mod_cast sub_nonneg.mpr hmono
  rw [abs_of_nonneg (by positivity), le_div_iff₀ (by norm_num), slotMs_eq_floor hslot,
    slotMs_eq_floor hslot]

theorem slotsSpaced_iff {slot : ℚ} {batch : List MacAddress} {ws : SpaceVeinsWlanScheduleMessage}
    (hslot : 0 < slot) (h : ws.wlanSchedule.Assigns slot batch) :
    SlotsSpaced slot ws ↔ batch.eraseDups.length ≤ 1 ∨ ∃ k : ℤ, slot * 1000 = k := by
  rw [← FloorSpacing.spacing_iff (K := ℚ) (by positivity)]
  constructor
  · intro hspaced i j hij hj
    have hi : i < batch.eraseDups.length := hij.trans hj
    obtain ⟨v, hv⟩ := Samac.exists_address (batch.eraseDups[j])
    obtain ⟨w, hw⟩ := Samac.exists_address (batch.eraseDups[i])
    have hvj : batch.eraseDups[j]? = some v.address := by rw [hv, List.getElem?_eq_getElem hj]
    have hwi : batch.eraseDups[i]? = some w.address := by rw [hw, List.getElem?_eq_getElem hi]
    have hne : v.address ≠ w.address := by
      rw [hv, hw]
      intro heq
      exact absurd ((Numbering.eraseDups_nodup batch).getElem_inj_iff.mp heq) (by omega)
    obtain ⟨t, u, ht, hu, hdist⟩ := hspaced v w (.drawing 0 0) (.drawing 0 0) hne
      (h.mem_of_position hvj) (h.mem_of_position hwi)
    rw [h.transmissionTime _ _ hvj] at ht
    rw [h.transmissionTime _ _ hwi] at hu
    obtain rfl := Except.ok.inj ht
    obtain rfl := Except.ok.inj hu
    rw [SimTime.dbl_sub_ofMs] at hdist
    exact (le_abs_slotMs_iff hslot hij).mp hdist
  · intro hspacing v w rng rng' hne hv hw
    obtain ⟨i, hi, hvi⟩ := h.position hv
    obtain ⟨j, hj, hwj⟩ := h.position hw
    refine ⟨_, _, h.transmissionTime _ _ hvi, h.transmissionTime _ _ hwj, ?_⟩
    rw [SimTime.dbl_sub_ofMs]
    rcases Nat.lt_trichotomy i j with hij | rfl | hij
    · have hdist := (le_abs_slotMs_iff hslot hij).mpr (hspacing i j hij hj)
      rwa [← neg_sub (slotMs slot j), Int.cast_neg, neg_div, abs_neg]
    · exact absurd (Option.some.inj (hvi.symm.trans hwj)) hne
    · exact (le_abs_slotMs_iff hslot hij).mpr (hspacing j i hij hi)

/-! ## Distance of the free slots -/

/-- A vehicle that is not in the schedule does not transmit with one that is. -/
def AvoidsSlots (ws : SpaceVeinsWlanScheduleMessage) : Prop :=
  ∀ (v w : Samac) (rng rng' : Rng) (t u : Int), v.address.getInt ∉ ws.wlanSchedule →
    w.address.getInt ∈ ws.wlanSchedule →
    v.transmissionTime rng ws.wlanSchedule ws.wlanScheduleBeginTimestamp = .ok t →
    w.transmissionTime rng' ws.wlanSchedule ws.wlanScheduleBeginTimestamp = .ok u → t ≠ u

theorem avoidsSlots_iff {batch : List MacAddress} {ws : SpaceVeinsWlanScheduleMessage}
    (h : ws.wlanSchedule.Assigns (1 / 1000) batch) :
    AvoidsSlots ws ↔ batch.eraseDups.length ≠ 100 := by
  constructor
  · intro havoids hfull
    obtain ⟨v, hv⟩ := h.exists_vehicle_not_mem hfull.le
    obtain ⟨w, hw⟩ := Samac.exists_address (batch.eraseDups[0])
    have hw0 : batch.eraseDups[0]? = some w.address := by
      rw [hw, List.getElem?_eq_getElem (by omega)]
    have htime : v.transmissionTime (.drawing 0 0) ws.wlanSchedule
        ws.wlanScheduleBeginTimestamp = .ok ws.wlanScheduleBeginTimestamp := by
      rw [Samac.transmissionTime_of_not_mem _ _ hv, h.size, hfull]
      rfl
    have hslot : w.transmissionTime (.drawing 0 0) ws.wlanSchedule
        ws.wlanScheduleBeginTimestamp = .ok ws.wlanScheduleBeginTimestamp := by
      rw [h.transmissionTime _ _ hw0, slotMs_default]
      simp [SimTime.ofMs]
    exact havoids v w _ _ _ _ hv (h.mem_of_position hw0) htime hslot rfl
  · intro hfull v w rng rng' t u hv hw ht hu
    obtain ⟨i, hi, hwi⟩ := h.position hw
    rw [h.transmissionTime _ _ hwi, slotMs_default] at hu
    obtain rfl := Except.ok.inj hu
    obtain ⟨j, _, hvj, _⟩ | ⟨_, _, d, hd, _, rfl⟩ | ⟨_, hfull', _⟩ := h.time_cases ht
    · exact absurd (h.mem_of_position hvj) hv
    · intro heq
      have := SimTime.ofMs_inj.mp (add_left_cancel heq)
      omega
    · exact absurd hfull' hfull

/-! ## The window of a schedule -/

/-- Every vehicle that gets a time transmits before the next schedule begins. -/
def InWindow (ws : SpaceVeinsWlanScheduleMessage) : Prop :=
  ∀ (v : Samac) (rng : Rng) (t : Int),
    v.transmissionTime rng ws.wlanSchedule ws.wlanScheduleBeginTimestamp = .ok t →
    ws.wlanScheduleBeginTimestamp ≤ t ∧
      t < ws.wlanScheduleBeginTimestamp + ws.wlanScheduleInterval

theorem begin_le_time {slot : ℚ} {batch : List MacAddress} {ws : WlanSchedule} {v : Samac}
    {rng : Rng} {begin t : Int} (hslot : 0 < slot) (h : ws.Assigns slot batch)
    (ht : v.transmissionTime rng ws begin = .ok t) : begin ≤ t := by
  obtain ⟨i, _, _, rfl⟩ | ⟨_, _, d, hd, _, rfl⟩ | ⟨_, _, rfl⟩ := h.time_cases ht
  · have := SimTime.ofMs_nonneg (slotMs_nonneg hslot i)
    omega
  · have := SimTime.ofMs_nonneg (a := d) (by omega)
    omega
  · exact le_rfl

theorem inWindow_iff {slot : ℚ} {batch : List MacAddress} {ws : SpaceVeinsWlanScheduleMessage}
    (hslot : 0 < slot) (hinterval : 0 < ws.wlanScheduleInterval)
    (h : ws.wlanSchedule.Assigns slot batch) :
    InWindow ws ↔
      (batch ≠ [] → SimTime.ofMs (slotMs slot (batch.eraseDups.length - 1)) <
        ws.wlanScheduleInterval) ∧
      (batch.eraseDups.length < 100 → SimTime.ofMs 99 < ws.wlanScheduleInterval) := by
  constructor
  · intro hwindow
    constructor
    · intro hne
      have hpos : 0 < batch.eraseDups.length := by
        obtain ⟨a, ha⟩ := List.exists_mem_of_ne_nil batch hne
        exact List.length_pos_of_mem (List.mem_eraseDups.mpr ha)
      obtain ⟨v, hv⟩ := Samac.exists_address (batch.eraseDups[batch.eraseDups.length - 1])
      have hlast : batch.eraseDups[batch.eraseDups.length - 1]? = some v.address := by
        rw [hv, List.getElem?_eq_getElem (by omega)]
      have := (hwindow v (.drawing 0 0) _ (h.transmissionTime _ _ hlast)).2
      omega
    · intro hfree
      obtain ⟨v, hv⟩ := h.exists_vehicle_not_mem hfree.le
      have htime : v.transmissionTime (.drawing 99 0) ws.wlanSchedule
          ws.wlanScheduleBeginTimestamp =
            .ok (ws.wlanScheduleBeginTimestamp + SimTime.ofMs 99) := by
        rw [Samac.transmissionTime_of_not_mem _ _ hv, h.size, if_pos hfree,
          Rng.drawing_intuniform 0 (by omega) le_rfl]
      have := (hwindow v _ _ htime).2
      omega
  · rintro ⟨hlast, hfree⟩ v rng t ht
    refine ⟨begin_le_time hslot h ht, ?_⟩
    obtain ⟨i, hi, hvi, rfl⟩ | ⟨_, hlt, d, _, hd, rfl⟩ | ⟨_, _, rfl⟩ := h.time_cases ht
    · have hmono := SimTime.ofMs_le.mpr (slotMs_mono hslot (Nat.le_sub_one_of_lt hi))
      have := hlast (List.ne_nil_of_mem (List.mem_eraseDups.mp (List.mem_of_getElem? hvi)))
      omega
    · have hmono := SimTime.ofMs_le.mpr hd
      have := hfree hlt
      omega
    · omega

end SpaceVeins

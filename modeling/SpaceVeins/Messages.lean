import SpaceVeins.SimTime

/-!
# Addresses, schedules and messages

The data that satellites and vehicles exchange, and the statistics signals that
both sides emit.
-/

set_option autoImplicit false

namespace SpaceVeins

/-- `inet::MacAddress`: 48 bits in a 64 bit word. -/
structure MacAddress where
  address : UInt64
  address_lt : address.toNat < 2 ^ 48
deriving DecidableEq

namespace MacAddress

/-- The constructor keeps the lower 48 bits of its argument. -/
def ofBits (bits : UInt64) : MacAddress :=
  ⟨bits &&& 0xffffffffffff, by
    rw [UInt64.toNat_and]
    exact Nat.lt_of_le_of_lt Nat.and_le_right (by decide)⟩

def getInt (a : MacAddress) : UInt64 := a.address

/-- `getAddressSize`, in bytes. -/
def getAddressSize : Nat := 6

theorem getInt_injective : Function.Injective getInt := by
  intro a b h
  cases a
  cases b
  simpa [getInt] using h

theorem getInt_inj {a b : MacAddress} : a.getInt = b.getInt ↔ a = b := getInt_injective.eq_iff

theorem ofBits_inj {m n : Nat} (hm : m < 2 ^ 48) (hn : n < 2 ^ 48) :
    ofBits (UInt64.ofNat m) = ofBits (UInt64.ofNat n) ↔ m = n := by
  have hbits : ∀ k < 2 ^ 48, (ofBits (UInt64.ofNat k)).address.toNat = k := by
    intro k hk
    have hmask : (0xffffffffffff : UInt64).toNat = 2 ^ 48 - 1 := rfl
    rw [ofBits, UInt64.toNat_and, hmask, Nat.and_two_pow_sub_one_eq_mod, UInt64.toNat_ofNat',
      Nat.mod_mod_of_dvd _ (Nat.pow_dvd_pow 2 (by decide)), Nat.mod_eq_of_lt hk]
  constructor
  · intro h
    rw [← hbits m hm, ← hbits n hn, h]
  · rintro rfl
    rfl

theorem map_ofBits_nodup {l : List Nat} (hl : l.Nodup) (hbound : ∀ n ∈ l, n < 2 ^ 48) :
    (l.map fun n => ofBits (UInt64.ofNat n)).Nodup :=
  hl.map_on fun m hm n hn heq => (ofBits_inj (hbound m hm) (hbound n hn)).mp heq

end MacAddress

/-- `std::map<MacAddress_t, simTimeDelta_t>`; the doubles are read as exact rationals. -/
abbrev WlanSchedule := Std.ExtTreeMap UInt64 ℚ

structure SpaceVeinsRegistrationMessage where
  srcMacAddress : MacAddress
deriving DecidableEq

structure SpaceVeinsSatelliteAck where
  acknowledgedVehicleId : MacAddress
deriving DecidableEq

structure SpaceVeinsWlanScheduleMessage where
  wlanSchedule : WlanSchedule
  wlanScheduleBeginTimestamp : Int
  wlanScheduleInterval : Int
  transmitTimestamp : Int
  /-- The chunk length in bytes. -/
  chunkLength : Nat

/-- What a packet from the satellite carries, as the packet filters of the vehicle tell it apart. -/
inductive SatellitePayload where
  | ack (ack : SpaceVeinsSatelliteAck)
  | wlanSchedule (ws : SpaceVeinsWlanScheduleMessage)
  | other

/-- What a packet that reaches the satellite carries. -/
inductive VehiclePayload where
  | registration (reg : SpaceVeinsRegistrationMessage)
  | other
deriving DecidableEq

/-- The signals that `VehicleStatistics` emits for the two modules. -/
inductive Statistic where
  | sendSatellitePackets
  | receivedSatellitePackets
  | sendWlanSchedules
  | receivedWlanSchedules
  | sendSatelliteRegistrationMessages
  | receivedSatelliteRegistrationMessages
  | missedSatelliteRegistrationAcks
  | receivedSatelliteRegistrationAcks
  | applLayerRoundTripTime (rtt : Int)
  | applLayerSatelliteLatency (lat : Int)
  | registeredVehiclesPerSchedule (count : Nat)
deriving DecidableEq

end SpaceVeins

import Mathlib.Algebra.Order.Field.Basic
import SpaceVeins.Coordinates
import SpaceVeins.Messages

/-!
# The receiver filters of the radio medium

`isPotentialReceiver` decides whether a radio gets a signal at all. Coordinates
and limits are elements of an ordered field `K`; a limit that is NaN is `none`,
and so is the angle of a direction without length, which divides zero by zero.
-/

set_option autoImplicit false

namespace SpaceVeins

/-- What the medium uses of the mathematical library. -/
structure Libm (K : Type) [Field K] [LinearOrder K] where
  sqrt : K → K
  asin : K → K
  pi : K
  sqrt_nonneg : ∀ x, 0 ≤ x → 0 ≤ sqrt x
  sqrt_zero : sqrt 0 = 0

namespace Coord
variable {K : Type} [Field K] [LinearOrder K]

def sub (p q : Coord K) : Coord K := ⟨p.x - q.x, p.y - q.y, p.z - q.z⟩

def squareLength (p : Coord K) : K := p.x * p.x + p.y * p.y + p.z * p.z

def length (libm : Libm K) (p : Coord K) : K := libm.sqrt p.squareLength

def distance (libm : Libm K) (p q : Coord K) : K := (p.sub q).length libm

/-- `normalize().z`, unless it is NaN. -/
def normalizedZ (libm : Libm K) (p : Coord K) : Option K :=
  if p.length libm = 0 then none else some (p.z / p.length libm)

end Coord

/-- `deg(rad(asin(direction.z)))` of the normalized direction, unless it is NaN. -/
def elevation {K : Type} [Field K] [LinearOrder K] (libm : Libm K) (direction : Coord K) :
    Option K :=
  (direction.normalizedZ libm).map fun z => libm.asin z * (180 / libm.pi)

namespace MacAddress

def isBroadcast (a : MacAddress) : Bool := a.address == 0xffffffffffff

/-- The lowest bit of the first byte. -/
def isMulticast (a : MacAddress) : Bool := (a.address >>> 40) &&& 1 == 1

end MacAddress

inductive RadioMode where
  | off
  | sleep
  | receiver
  | transmitter
  | transceiver
  | switching
deriving DecidableEq, Repr

/-- What the medium reads from a `Radio`. -/
structure Radio where
  radioMode : RadioMode
  /-- `getNedTypeName` of the node that contains the radio. -/
  nedTypeName : String
deriving DecidableEq, Repr

/-- What the medium reads from an `IRadio`, for the transmission at hand. -/
structure IRadio where
  id : Int
  /-- `dynamic_cast<const Radio *>`, with `none` for the null pointer. -/
  asRadio : Option Radio
  /-- `computeIsReceptionPossible` of the receiver, with `none` if there is no receiver. -/
  isReceptionPossible : Option Bool
  /-- The addresses in the interface table of the node, if it has a table. -/
  interfaceTable : Option (List (Option MacAddress))
deriving DecidableEq

structure Transmission (K : Type) where
  transmitter : IRadio
  startPosition : Coord K
  endPosition : Coord K
  /-- The destination in the `MacAddressInd` tag of the packet, if it has one. -/
  macAddressInd : Option MacAddress

structure Arrival (K : Type) where
  startPosition : Coord K
  endPosition : Coord K

inductive RangeFilterKind where
  | anywhere
  | interferenceRange
  | communicationRange
deriving DecidableEq, Repr

/-- The limits that `MediumLimitCache` keeps for the medium. -/
structure MediumLimitCache (K : Type) where
  maxCommunicationRange : Option K
  maxInterferenceRange : Option K
  minElevationAngleV2S : Option K
  minElevationAngleD2S : Option K
  disableS2SCommunication : Bool

structure RadioMedium (K : Type) where
  mediumLimitCache : MediumLimitCache K
  rangeFilter : RangeFilterKind
  radioModeFilter : Bool
  listeningFilter : Bool
  macAddressFilter : Bool

def satelliteType : String := "space_veins.nodes.Satellite"

def satDroneType : String := "space_veins.nodes.SatDrone"

def satCarType : String := "space_veins.nodes.SatCar"

namespace RadioMedium
variable {K : Type} [Field K] [LinearOrder K]

def matchesMacAddressFilter (radio : IRadio) (transmission : Transmission K) :
    Except SimError Bool :=
  match transmission.macAddressInd with
  | none => .ok true
  | some address =>
    if address.isBroadcast || address.isMulticast then .ok true
    else
      match radio.interfaceTable with
      | none => .error (.cRuntimeError
          "check_and_cast(): Cannot cast nullptr to type 'inet::IInterfaceTable *'")
      | some interfaces => .ok (interfaces.any fun interface => interface == some address)

def getTransmitter (transmission : Transmission K) : Except SimError Radio :=
  match transmission.transmitter.asRadio with
  | none => .error (.cRuntimeError
      ("No radio found with id " ++ toString transmission.transmitter.id))
  | some transmitter => .ok transmitter

def getReceiver (receiverRadio : Option Radio) : Except SimError Radio :=
  match receiverRadio with
  | none => .error (.cRuntimeError "receiverRadio is nullptr.")
  | some receiver => .ok receiver

def areReceiverAndTransmitterSatellites (receiverRadio : Option Radio)
    (transmission : Transmission K) : Except SimError Bool := do
  let transmitter ← getTransmitter transmission
  if transmitter.nedTypeName ≠ satelliteType then pure false
  else
    let receiver ← getReceiver receiverRadio
    if receiver.nedTypeName ≠ satelliteType then pure false
    else pure true

/-- The minimum elevation angle for the communication between two nodes of these types. -/
def minElevationAngle (medium : RadioMedium K) (receiverModuleType transmitterModuleType : String) :
    Except SimError (Option K) :=
  if receiverModuleType = satDroneType ∨ transmitterModuleType = satDroneType then
    .ok medium.mediumLimitCache.minElevationAngleD2S
  else if receiverModuleType = satCarType ∨ transmitterModuleType = satCarType then
    .ok medium.mediumLimitCache.minElevationAngleV2S
  else .error (.cRuntimeError
    ("Neither V2S nor D2S communication: transmitter module: " ++ transmitterModuleType ++
      ", receiver module: " ++ receiverModuleType))

/-- The direction towards the satellite; the default coordinates if there is none. -/
def satelliteDirection (receiverModuleType transmitterModuleType : String)
    (transmission : Transmission K) (arrival : Arrival K) : Coord K :=
  if transmitterModuleType = satelliteType then
    transmission.startPosition.sub arrival.endPosition
  else if receiverModuleType = satelliteType then
    arrival.endPosition.sub transmission.startPosition
  else ⟨0, 0, 0⟩

/-- A comparison with NaN is false. -/
def geNaN (a : Option K) (b : K) : Bool :=
  match a with
  | none => false
  | some a => decide (b ≤ a)

def isElevationAngleLargeEnough (medium : RadioMedium K) (libm : Libm K)
    (receiverRadio : Option Radio) (transmission : Transmission K) (arrival : Arrival K) :
    Except SimError Bool := do
  let transmitter ← getTransmitter transmission
  let receiver ← getReceiver receiverRadio
  match ← medium.minElevationAngle receiver.nedTypeName transmitter.nedTypeName with
  | none => pure true
  | some minElevationAngle =>
    let direction :=
      satelliteDirection receiver.nedTypeName transmitter.nedTypeName transmission arrival
    pure (geNaN (elevation libm direction) minElevationAngle)

/-- `isInCommunicationRange` and `isInInterferenceRange` differ in their limit only. -/
def isInRange (libm : Libm K) (maxRange : Option K) (transmission : Transmission K)
    (arrival : Arrival K) : Bool :=
  match maxRange with
  | none => true
  | some maxRange =>
    decide (transmission.startPosition.distance libm arrival.startPosition < maxRange) &&
      decide (transmission.endPosition.distance libm arrival.endPosition < maxRange)

def isInCommunicationRange (medium : RadioMedium K) (libm : Libm K)
    (transmission : Transmission K) (arrival : Arrival K) : Bool :=
  isInRange libm medium.mediumLimitCache.maxCommunicationRange transmission arrival

def isInInterferenceRange (medium : RadioMedium K) (libm : Libm K)
    (transmission : Transmission K) (arrival : Arrival K) : Bool :=
  isInRange libm medium.mediumLimitCache.maxInterferenceRange transmission arrival

def rejectedByRadioMode (medium : RadioMedium K) (receiverRadio : Option Radio) : Bool :=
  match receiverRadio with
  | none => false
  | some receiver => medium.radioModeFilter && decide (receiver.radioMode ≠ .receiver) &&
      decide (receiver.radioMode ≠ .transceiver)

def rejectedByListening (medium : RadioMedium K) (radio : IRadio) : Bool :=
  medium.listeningFilter && radio.isReceptionPossible == some false

def rejectedByMacAddress (medium : RadioMedium K) (radio : IRadio)
    (transmission : Transmission K) : Except SimError Bool :=
  if medium.macAddressFilter then
    (matchesMacAddressFilter radio transmission).map fun matched => !matched
  else .ok false

def rejectedAsSatellites (medium : RadioMedium K) (receiverRadio : Option Radio)
    (transmission : Transmission K) : Except SimError Bool :=
  if medium.mediumLimitCache.disableS2SCommunication then
    areReceiverAndTransmitterSatellites receiverRadio transmission
  else .ok false

/-- `arrival` is what `getArrival` finds for the radio and the transmission. -/
def isPotentialReceiver (medium : RadioMedium K) (libm : Libm K) (radio : IRadio)
    (transmission : Transmission K) (arrival : Arrival K) : Except SimError Bool := do
  let receiverRadio := radio.asRadio
  if medium.rejectedByRadioMode receiverRadio then pure false
  else if medium.rejectedByListening radio then pure false
  else if ← medium.rejectedByMacAddress radio transmission then pure false
  -- the two range filters decide on their own
  else if medium.rangeFilter = .interferenceRange then
    pure (medium.isInInterferenceRange libm transmission arrival)
  else if medium.rangeFilter = .communicationRange then
    pure (medium.isInCommunicationRange libm transmission arrival)
  else if ← medium.rejectedAsSatellites receiverRadio transmission then pure false
  else medium.isElevationAngleLargeEnough libm receiverRadio transmission arrival

end RadioMedium
end SpaceVeins

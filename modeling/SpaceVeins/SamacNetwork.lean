import SpaceVeins.SamacRegistration
import SpaceVeins.ScheduleBook
import SpaceVeins.Shared.Journal

/-!
# One satellite and its vehicles

The packets of the satellite form a log; every vehicle reads it from the point
at which it joined, in order and without gaps. Registrations may be lost,
repeated, delayed and reordered on their way up. The flag of a vehicle and the
schedule of the satellite are both functions of the log.
-/

set_option autoImplicit false

namespace SpaceVeins
open Runs Journal

/-- A vehicle and the part of the satellite's packets that it has received. -/
structure VehicleNode where
  samac : Samac
  /-- The position of the first packet that reaches the vehicle. -/
  joined : Nat
  /-- The position of the next packet that reaches the vehicle. -/
  cursor : Nat

structure SamacNetwork where
  satellite : SamacSatelliteAppl
  vehicles : MacAddress → Option VehicleNode

inductive NetworkEvent where
  | join (address : MacAddress)
  | satelliteTimer (now : Int)
  /-- A packet reaches the satellite. -/
  | uplink (now : Int) (pk : VehiclePayload)
  /-- The next packet of the satellite reaches the vehicle. -/
  | downlink (address : MacAddress) (now : Int) (rng : Rng) (macAddressInd : MacAddress)
  /-- A timer or a packet of the upper layer reaches the vehicle. -/
  | internal (address : MacAddress) (event : SamacEvent)

namespace SamacNetwork

def setVehicle (net : SamacNetwork) (address : MacAddress) (node : VehicleNode) : SamacNetwork :=
  { net with vehicles := Function.update net.vehicles address (some node) }

inductive Step : SamacNetwork → NetworkEvent → SamacNetwork → Prop where
  /-- A vehicle joins with an address that no vehicle had before. -/
  | join {net : SamacNetwork} {address : MacAddress} (delay : Int) (multicast : Option UInt32)
      (port : Int) (queue : PacketQueue)
      (encapsulate : Packet → List Packet → Except SimError (Packet × List Packet))
      (position : Nat) :
      net.vehicles address = none → position ≤ net.satellite.sent.length →
      Step net (.join address) (net.setVehicle address
        ⟨.initial address delay multicast port queue encapsulate, position, position⟩)
  | satelliteTimer {net : SamacNetwork} {now : Int} {satellite : SamacSatelliteAppl} :
      net.satellite.Step ⟨now, .wlanScheduleTimer⟩ satellite →
      Step net (.satelliteTimer now) { net with satellite := satellite }
  /-- Any registration sent so far can arrive, any number of times. -/
  | uplinkRegistration {net : SamacNetwork} {now : Int} {reg : SpaceVeinsRegistrationMessage}
      {address : MacAddress} {node : VehicleNode} {satellite : SamacSatelliteAppl} :
      net.vehicles address = some node → reg ∈ node.samac.sentDown →
      net.satellite.Step ⟨now, .packet (.registration reg)⟩ satellite →
      Step net (.uplink now (.registration reg)) { net with satellite := satellite }
  | uplinkOther {net : SamacNetwork} {now : Int} {satellite : SamacSatelliteAppl} :
      net.satellite.Step ⟨now, .packet .other⟩ satellite →
      Step net (.uplink now .other) { net with satellite := satellite }
  | downlink {net : SamacNetwork} {address : MacAddress} {now : Int} {rng : Rng}
      {macAddressInd : MacAddress} {node : VehicleNode} {payload : SatellitePayload}
      {samac : Samac} :
      net.vehicles address = some node →
      net.satellite.sent[node.cursor]? = some payload →
      node.samac.Step ⟨now, rng, .lowerLayerIn ⟨macAddressInd, payload⟩⟩ samac →
      Step net (.downlink address now rng macAddressInd)
        (net.setVehicle address ⟨samac, node.joined, node.cursor + 1⟩)
  | internal {net : SamacNetwork} {address : MacAddress} {event : SamacEvent}
      {node : VehicleNode} {samac : Samac} :
      net.vehicles address = some node → (∀ pk, event.message ≠ .lowerLayerIn pk) →
      node.samac.Step event samac →
      Step net (.internal address event)
        (net.setVehicle address ⟨samac, node.joined, node.cursor⟩)

/-- The step, computed for vehicles that join with an unbounded queue before the first packet of
the satellite and answer for their own registrations. -/
def step? (net : SamacNetwork) : NetworkEvent → Option SamacNetwork
  | .join address =>
    match net.vehicles address with
    | some _ => none
    | none => some (net.setVehicle address ⟨.initial address (SimTime.ofMs 10) (some 0xE0000001)
        9001 ⟨[], -1, -1, []⟩ fun packet frames => .ok (packet, frames), 0, 0⟩)
  | .satelliteTimer now => do
    let satellite ← net.satellite.step? ⟨now, .wlanScheduleTimer⟩
    some { net with satellite := satellite }
  | .uplink now (.registration reg) => do
    let node ← net.vehicles reg.srcMacAddress
    if reg ∈ node.samac.sentDown then
      let satellite ← net.satellite.step? ⟨now, .packet (.registration reg)⟩
      some { net with satellite := satellite }
    else none
  | .uplink now .other => do
    let satellite ← net.satellite.step? ⟨now, .packet .other⟩
    some { net with satellite := satellite }
  | .downlink address now rng macAddressInd => do
    let node ← net.vehicles address
    let payload ← net.satellite.sent[node.cursor]?
    let samac ← node.samac.step? ⟨now, rng, .lowerLayerIn ⟨macAddressInd, payload⟩⟩
    some (net.setVehicle address ⟨samac, node.joined, node.cursor + 1⟩)
  | .internal address event =>
    match event.message with
    | .lowerLayerIn _ => none
    | _ => do
      let node ← net.vehicles address
      let samac ← node.samac.step? event
      some (net.setVehicle address ⟨samac, node.joined, node.cursor⟩)

theorem step_of_step? {net net' : SamacNetwork} {event : NetworkEvent}
    (h : net.step? event = some net') : Step net event net' := by
  cases event with
  | join address =>
    simp only [step?] at h
    split at h
    · cases h
    · rename_i hnone
      cases h
      exact .join _ _ _ _ _ 0 hnone (Nat.zero_le _)
  | satelliteTimer now =>
    obtain ⟨satellite, hsat, heq⟩ := Option.bind_eq_some_iff.mp h
    cases heq
    exact .satelliteTimer (SamacSatelliteAppl.step_of_step? hsat)
  | uplink now pk =>
    cases pk with
    | registration reg =>
      obtain ⟨node, hnode, hrest⟩ := Option.bind_eq_some_iff.mp h
      split at hrest
      · rename_i hreg
        obtain ⟨satellite, hsat, heq⟩ := Option.bind_eq_some_iff.mp hrest
        cases heq
        exact .uplinkRegistration hnode hreg (SamacSatelliteAppl.step_of_step? hsat)
      · cases hrest
    | other =>
      obtain ⟨satellite, hsat, heq⟩ := Option.bind_eq_some_iff.mp h
      cases heq
      exact .uplinkOther (SamacSatelliteAppl.step_of_step? hsat)
  | downlink address now rng macAddressInd =>
    obtain ⟨node, hnode, hrest⟩ := Option.bind_eq_some_iff.mp h
    obtain ⟨payload, hpayload, hrest⟩ := Option.bind_eq_some_iff.mp hrest
    obtain ⟨samac, hsamac, heq⟩ := Option.bind_eq_some_iff.mp hrest
    cases heq
    exact .downlink hnode hpayload (Samac.step_of_step? hsamac)
  | internal address event =>
    simp only [step?] at h
    split at h
    · cases h
    · rename_i hnot
      obtain ⟨node, hnode, hrest⟩ := Option.bind_eq_some_iff.mp h
      obtain ⟨samac, hsamac, heq⟩ := Option.bind_eq_some_iff.mp hrest
      cases heq
      exact .internal hnode hnot (Samac.step_of_step? hsamac)

def initial (satellite : SamacSatelliteAppl) : SamacNetwork := ⟨satellite, fun _ => none⟩

end SamacNetwork

/-! What reaches a vehicle, and what it makes of it. -/

/-- Which addresses have been acknowledged since the last schedule. -/
def acknowledged (flags : MacAddress → Bool) : SatellitePayload → MacAddress → Bool
  | .ack ack => Function.update flags ack.acknowledgedVehicleId true
  | .wlanSchedule _ => fun _ => false
  | .other => flags

/-- A schedule lists exactly the acknowledged addresses. -/
def ListsAcknowledged (flags : MacAddress → Bool) : SatellitePayload → Prop
  | .wlanSchedule ws => ∀ a : MacAddress, a.getInt ∈ ws.wlanSchedule ↔ flags a = true
  | _ => True

/-- The flags after the first `n` packets of the satellite. -/
def flagsAt (sent : List SatellitePayload) (n : Nat) : MacAddress → Bool :=
  view acknowledged (fun _ => false) sent n

theorem flagsAt_of_no_ack {sent : List SatellitePayload} {a : MacAddress}
    (h : .ack ⟨a⟩ ∉ sent) (n : Nat) : flagsAt sent n a = false := by
  refine view_induction (P := fun flags : MacAddress → Bool => flags a = false) rfl ?_ n
  intro flags hflags payload hmem
  cases payload with
  | ack ack =>
    have hne : a ≠ ack.acknowledgedVehicleId := by
      rintro rfl
      exact h hmem
    rwa [acknowledged, Function.update_of_ne hne]
  | wlanSchedule ws => rfl
  | other => exact hflags

namespace Samac

/-- How often `recordMissedSatelliteRegistrationAcks` has been called. -/
def missedAcks (v : Samac) : Nat :=
  v.vehicleStatistics.count .missedSatelliteRegistrationAcks

theorem step_receive {v v' : Samac} {now : Int} {rng : Rng} {mac : MacAddress}
    {payload : SatellitePayload} (h : v.Orderly)
    (hstep : Step v ⟨now, rng, .lowerLayerIn ⟨mac, payload⟩⟩ v') :
    v'.address = v.address ∧ v'.sentDown = v.sentDown ∧
      (∀ flags, flags v.address = v.registeredAtSatellite →
        v'.registeredAtSatellite = acknowledged flags payload v.address) ∧
      v'.receivedInitialWlanSchedule =
        (v.receivedInitialWlanSchedule || payload.wlanSchedule?.isSome) ∧
      v'.missedAcks = v.missedAcks +
        if payload.wlanSchedule?.isSome && !v.registeredAtSatellite &&
          v.receivedInitialWlanSchedule then 1 else 0 := by
  cases step_effect h.oneshot hstep with
  | registration _ hmsg => cases hmsg
  | transmission _ _ _ hmsg => cases hmsg
  | ackTimer hmsg => cases hmsg
  | @leoAck _ ack hmsg =>
    cases hmsg
    by_cases hown : ack.acknowledgedVehicleId = v.address
    · simp [processLeoAck, hown, record, acknowledged, SatellitePayload.wlanSchedule?,
        missedAcks]
    · simp only [processLeoAck, hown, if_false, record, acknowledged,
        Function.update_of_ne (Ne.symm hown), SatellitePayload.wlanSchedule?, missedAcks]
      simp [eq_comm]
  | wlanSchedule hmsg =>
    cases hmsg
    simp only [afterWlanSchedule, record, withTimer, readWlanSchedule, recordMissedAcks_eq,
      acknowledged, SatellitePayload.wlanSchedule?, missedAcks, List.count_append]
    cases v.registeredAtSatellite <;> cases v.receivedInitialWlanSchedule <;> simp
  | otherPacket hmsg =>
    cases hmsg
    simp [acknowledged, SatellitePayload.wlanSchedule?, eq_comm]
  | upperPacket hmsg => cases hmsg

theorem step_internal {v v' : Samac} {event : SamacEvent} (h : v.Orderly)
    (hmsg : ∀ pk, event.message ≠ .lowerLayerIn pk) (hstep : Step v event v') :
    v'.address = v.address ∧
      (v'.sentDown = v.sentDown ∨ v'.sentDown = v.sentDown ++ [⟨v.address⟩]) ∧
      v'.registeredAtSatellite = v.registeredAtSatellite ∧
      v'.receivedInitialWlanSchedule = v.receivedInitialWlanSchedule ∧
      v'.missedAcks = v.missedAcks := by
  cases step_effect h.oneshot hstep with
  | registration =>
    refine ⟨rfl, Or.inr rfl, rfl, rfl, ?_⟩
    simp [missedAcks, afterRegistration]
  | transmission => exact ⟨rfl, Or.inl rfl, rfl, rfl, rfl⟩
  | ackTimer => exact ⟨rfl, Or.inl rfl, rfl, rfl, rfl⟩
  | leoAck hreceived => exact absurd hreceived (hmsg _)
  | wlanSchedule hreceived => exact absurd hreceived (hmsg _)
  | otherPacket hreceived => exact absurd hreceived (hmsg _)
  | @upperPacket packet =>
    unfold handleUpperPacket
    split <;> exact ⟨rfl, Or.inl rfl, rfl, rfl, rfl⟩

end Samac
end SpaceVeins

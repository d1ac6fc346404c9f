import SpaceVeins.Messages
import SpaceVeins.PacketQueue
import SpaceVeins.TimerManager

/-!
# The vehicle module SAMAC

The state of the module and its handlers, in the order of the source. A handler
gets the current time and, where it draws random numbers, the behaviour of the
generators. An error ends the simulation, so the state it leaves is not kept.
-/

set_option autoImplicit false

namespace SpaceVeins

/-- The closures that SAMAC hands to timer specifications. -/
inductive Callback where
  /-- Created by `handleWlanSchedule`. -/
  | satelliteRegistrationCallback
  /-- Created by `scheduleWlanTransmission`. -/
  | scheduleWlanTransmissionCallback
  /-- The closure in `handleSelfMessage` that calls `registerAtSatellite` again. -/
  | retryRegistration
deriving DecidableEq, Repr

structure Samac where
  address : MacAddress
  maxSatelliteProcDelay_s : Int
  /-- The destination of registrations, with `none` for an unspecified address. -/
  leoSatelliteSamacMulticastAddress : Option UInt32
  leoSatelliteSamacDestPort : Int
  /-- What `encapsulate` makes of a packet and of the contents of `inProgressFrames`. -/
  encapsulate : Packet → List Packet → Except SimError (Packet × List Packet)
  timerManager : TimerManager Callback
  /-- When the timer expires, if it is scheduled. -/
  satelliteRegistrationAckTimer : Option Int
  pendingQueue : PacketQueue
  inProgressFrames : List Packet
  registeredAtSatellite : Bool
  receivedInitialWlanSchedule : Bool
  leoSatelliteMacAddress : MacAddress
  wlanScheduleInterval_s : Int
  endOfCurrentWlanSchedule : Int
  currentSatelliteLatency : Int
  startRegistrationTimestamp : Int
  lastUsefulRegistrationTime : Int
  expectedAck_Timestamp : Int
  /-- Every registration sent down so far, oldest first. -/
  sentDown : List SpaceVeinsRegistrationMessage
  /-- Every frame handed to the radio so far, oldest first. -/
  sentDirect : List Packet
  /-- Every signal emitted so far, oldest first. -/
  vehicleStatistics : List Statistic

/-- A packet from the satellite with its `MacAddressInd` tag. -/
structure LeoPacket where
  macAddressInd : MacAddress
  payload : SatellitePayload

/-- The messages that the kernel delivers to the module. -/
inductive SamacMessage where
  /-- The `TimerMessage` of the timer with this identifier. -/
  | timerMessage (id : Nat)
  /-- Any other self message, with its kind. -/
  | selfMessage (kind : Int)
  | lowerLayerIn (pk : LeoPacket)
  | upperLayerIn (packet : Packet)
  /-- Neither a self message nor a packet. -/
  | unknown

namespace Samac

def SATELLITE_REGISTRATION_ACK_TIMER : Int := 0

/-- The module before its first event. -/
def initial (address : MacAddress) (maxSatelliteProcDelay_s : Int)
    (multicastAddress : Option UInt32) (destPort : Int) (pendingQueue : PacketQueue)
    (encapsulate : Packet → List Packet → Except SimError (Packet × List Packet)) : Samac where
  address := address
  maxSatelliteProcDelay_s := maxSatelliteProcDelay_s
  leoSatelliteSamacMulticastAddress := multicastAddress
  leoSatelliteSamacDestPort := destPort
  encapsulate := encapsulate
  timerManager := .empty
  satelliteRegistrationAckTimer := none
  pendingQueue := pendingQueue
  inProgressFrames := []
  registeredAtSatellite := false
  receivedInitialWlanSchedule := false
  leoSatelliteMacAddress := .ofBits 0
  wlanScheduleInterval_s := 0
  endOfCurrentWlanSchedule := 0
  currentSatelliteLatency := 0
  startRegistrationTimestamp := 0
  lastUsefulRegistrationTime := 0
  expectedAck_Timestamp := 0
  sentDown := []
  sentDirect := []
  vehicleStatistics := []

def record (stats : List Statistic) (v : Samac) : Samac :=
  { v with vehicleStatistics := v.vehicleStatistics ++ stats }

/-- `timerManager.create` of a timer that fires once. -/
def createTimer (now : Int) (callback : Callback) (time : Int) (name : String) (v : Samac) :
    Except SimError Samac := do
  let timerManager ← v.timerManager.createOneshotAt now callback time name
  pure { v with timerManager := timerManager }

/-- `addUdpHeader`: what it checks before it adds the header. -/
def addUdpHeader (v : Samac) : Except SimError Unit :=
  if v.leoSatelliteSamacMulticastAddress.isNone then
    .error (.cRuntimeError "send: unspecified destination address")
  else if v.leoSatelliteSamacDestPort ≤ 0 ∨ 65535 < v.leoSatelliteSamacDestPort then
    .error (.cRuntimeError
      ("send: invalid remote port number " ++ toString v.leoSatelliteSamacDestPort))
  else .ok ()

def sendSatellitePacket (pk : SpaceVeinsRegistrationMessage) (v : Samac) : Samac :=
  { v with sentDown := v.sentDown ++ [pk] }

def registerAtSatellite (now : Int) (v : Samac) : Except SimError Samac := do
  let v := { v with
    expectedAck_Timestamp := now + 2 * v.currentSatelliteLatency + v.maxSatelliteProcDelay_s }
  v.addUdpHeader
  let v := v.sendSatellitePacket ⟨v.address⟩
  let v := v.record [.sendSatelliteRegistrationMessages, .sendSatellitePackets]
  let timer ← scheduleAt now v.expectedAck_Timestamp v.satelliteRegistrationAckTimer
  pure { v with satelliteRegistrationAckTimer := timer }

def doPacketInjection (v : Samac) : Except SimError Samac := do
  let (packet, pendingQueue) ← v.pendingQueue.popPacket
  let (frame, inProgressFrames) ← v.encapsulate packet v.inProgressFrames
  pure { v with
    pendingQueue := pendingQueue
    inProgressFrames := inProgressFrames
    sentDirect := v.sentDirect ++ [frame] }

def runCallback (now : Int) (callback : Callback) (v : Samac) : Except SimError Samac :=
  match callback with
  | .satelliteRegistrationCallback =>
    registerAtSatellite now { v with startRegistrationTimestamp := now }
  | .scheduleWlanTransmissionCallback =>
    if !v.pendingQueue.isEmpty then doPacketInjection v else pure v
  | .retryRegistration => registerAtSatellite now v

def handleSelfMessage (now : Int) (rng : Rng) (kind : Int) (v : Samac) :
    Except SimError Samac := do
  if kind = SATELLITE_REGISTRATION_ACK_TIMER then
    assert "!satelliteRegistrationAckTimer->isScheduled()" v.satelliteRegistrationAckTimer.isNone
    if now < v.lastUsefulRegistrationTime then
      -- the specification is built, but no timer is created from it
      let _t_spec ← (TimerSpecification.new Callback.retryRegistration).oneshotAt
        (rng.uniform now v.lastUsefulRegistrationTime)
      pure v
    else pure v
  else throw (.cRuntimeError "handleSelfMessage -- received unknown self message.")

def handleUpperPacket (packet : Packet) (v : Samac) : Samac :=
  if v.receivedInitialWlanSchedule then
    { v with pendingQueue := v.pendingQueue.pushPacket packet }
  else v

def processLeoAck (ack : SpaceVeinsSatelliteAck) (v : Samac) : Samac :=
  let v :=
    if ack.acknowledgedVehicleId = v.address then
      { v with registeredAtSatellite := true }.record [.receivedSatelliteRegistrationAcks]
    else v
  v.record [.receivedSatellitePackets]

/-- The instant for which `scheduleWlanTransmission` creates its timer: `begin + delta`. -/
def transmissionTime (rng : Rng) (ws : WlanSchedule) (begin : Int) (v : Samac) :
    Except SimError Int := do
  let delta ←
    match ws[v.address.getInt]? with
    | some second => pure (SimTime.ofMs (int64 (second * 1000)))
    | none =>
      if ws.size < 100 then
        pure (SimTime.ofMs (rng.intuniform ws.size 99))
      else if ws.size > 100 then
        throw (.cRuntimeError
          ("myWlanSchedule size is too large, size: " ++ toString ws.size))
      -- `delta` keeps the value of its default constructor
      else pure 0
  pure (begin + delta)

def scheduleWlanTransmission (now : Int) (rng : Rng) (ws : WlanSchedule) (begin : Int)
    (v : Samac) : Except SimError Samac := do
  let time ← v.transmissionTime rng ws begin
  v.createTimer now .scheduleWlanTransmissionCallback time "scheduleWlanTransmissionCallback"

def recordMissedAcks (v : Samac) : Samac :=
  if !v.registeredAtSatellite && v.receivedInitialWlanSchedule then
    v.record [.missedSatelliteRegistrationAcks]
  else v

/-- `handleWlanSchedule` between its two timers. -/
def readWlanSchedule (now : Int) (ws : SpaceVeinsWlanScheduleMessage) (v : Samac) : Samac :=
  let v := { v with wlanScheduleInterval_s := ws.wlanScheduleInterval }
  let v := { v with endOfCurrentWlanSchedule := ws.transmitTimestamp + v.wlanScheduleInterval_s }
  let v := { v with currentSatelliteLatency := now - ws.transmitTimestamp }
  let v := { v with lastUsefulRegistrationTime :=
    v.endOfCurrentWlanSchedule - (2 * v.currentSatelliteLatency + v.maxSatelliteProcDelay_s) }
  let v := v.record
    [.applLayerRoundTripTime (2 * v.currentSatelliteLatency + v.maxSatelliteProcDelay_s),
     .applLayerSatelliteLatency v.currentSatelliteLatency]
  let v := v.recordMissedAcks
  -- cancel old registration process, try again
  let v := { v with satelliteRegistrationAckTimer := none }
  { v with registeredAtSatellite := false }

def handleWlanSchedule (now : Int) (rng : Rng) (ws : SpaceVeinsWlanScheduleMessage) (v : Samac) :
    Except SimError Samac := do
  let v ← v.scheduleWlanTransmission now rng ws.wlanSchedule ws.wlanScheduleBeginTimestamp
  let v := v.readWlanSchedule now ws
  v.createTimer now .satelliteRegistrationCallback
    (rng.uniform now v.lastUsefulRegistrationTime) "satelliteRegistrationCallback"

def processWlanSchedule (now : Int) (rng : Rng) (macAddressInd : MacAddress)
    (ws : SpaceVeinsWlanScheduleMessage) (v : Samac) : Except SimError Samac := do
  let v := { v with leoSatelliteMacAddress := macAddressInd }
  let v ← v.handleWlanSchedule now rng ws
  let v :=
    if !v.receivedInitialWlanSchedule then { v with receivedInitialWlanSchedule := true } else v
  pure (v.record [.receivedWlanSchedules, .receivedSatellitePackets])

def processLeoPacket (now : Int) (rng : Rng) (pk : LeoPacket) (v : Samac) :
    Except SimError Samac :=
  match pk.payload with
  | .ack ack => pure (v.processLeoAck ack)
  | .wlanSchedule ws => v.processWlanSchedule now rng pk.macAddressInd ws
  | .other => pure v

def handleMessageWhenUp (now : Int) (rng : Rng) (message : SamacMessage) (v : Samac) :
    Except SimError Samac :=
  match message with
  | .timerMessage id => do
    let handled ← TimerManager.handleMessage Samac.timerManager
      (fun timerManager v => { v with timerManager := timerManager }) (runCallback now) now id v
    match handled with
    | some v => pure v
    -- a `TimerMessage` has the default kind 0
    | none => v.handleSelfMessage now rng 0
  | .selfMessage kind => v.handleSelfMessage now rng kind
  | .lowerLayerIn pk => v.processLeoPacket now rng pk
  | .upperLayerIn packet => pure (v.handleUpperPacket packet)
  | .unknown =>
    throw (.cRuntimeError "handleMessageWhenUp -- received an unknown message.")

end Samac
end SpaceVeins

import SpaceVeins.AckAgreement

/-!
# The statistics of a network

The signals that the two modules emit are the results of a simulation. In every run
of the network they count what the log of the satellite holds: the satellite counts
its packets, and a vehicle counts those that it has read.
-/

set_option autoImplicit false

namespace SpaceVeins
open Runs Journal

namespace SatellitePayload

def isAck : SatellitePayload → Bool
  | .ack _ => true
  | .wlanSchedule _ => false
  | .other => false

/-- An acknowledgement of this vehicle. -/
def isAckOf (address : MacAddress) : SatellitePayload → Bool
  | .ack message => decide (message.acknowledgedVehicleId = address)
  | .wlanSchedule _ => false
  | .other => false

end SatellitePayload

/-- The value of `registeredVehiclesPerSchedule`. -/
def Statistic.registeredVehicles? : Statistic → Option Nat
  | .registeredVehiclesPerSchedule count => some count
  | _ => none

namespace Samac

def counted (s : Statistic) (v : Samac) : Nat := v.vehicleStatistics.count s

theorem counted_append {v v' : Samac} {stats : List Statistic}
    (h : v'.vehicleStatistics = v.vehicleStatistics ++ stats) (s : Statistic) :
    v'.counted s = v.counted s + stats.count s := by
  rw [counted, h, List.count_append, counted]

/-- The statistics of a packet that is received at `now`. -/
def receptionStatistics (now : Int) (v : Samac) : SatellitePayload → List Statistic
  | .ack ack =>
    (if ack.acknowledgedVehicleId = v.address then [.receivedSatelliteRegistrationAcks] else []) ++
      [.receivedSatellitePackets]
  | .wlanSchedule ws =>
    [.applLayerRoundTripTime (2 * (now - ws.transmitTimestamp) + v.maxSatelliteProcDelay_s),
      .applLayerSatelliteLatency (now - ws.transmitTimestamp)] ++
      (if !v.registeredAtSatellite && v.receivedInitialWlanSchedule then
        [.missedSatelliteRegistrationAcks] else []) ++
      [.receivedWlanSchedules, .receivedSatellitePackets]
  | .other => []

theorem statistics_receive {v v' : Samac} {now : Int} {rng : Rng} {mac : MacAddress}
    {payload : SatellitePayload} (h : v.Orderly)
    (hstep : Step v ⟨now, rng, .lowerLayerIn ⟨mac, payload⟩⟩ v') :
    v'.vehicleStatistics = v.vehicleStatistics ++ v.receptionStatistics now payload := by
  cases step_effect h.oneshot hstep with
  | registration _ hmsg => cases hmsg
  | transmission _ _ _ hmsg => cases hmsg
  | ackTimer hmsg => cases hmsg
  | @leoAck _ ack hmsg =>
    cases hmsg
    by_cases hown : ack.acknowledgedVehicleId = v.address
    · simp [processLeoAck, hown, record, receptionStatistics]
    · simp [processLeoAck, hown, record, receptionStatistics]
  | wlanSchedule hmsg =>
    cases hmsg
    simp [afterWlanSchedule, record, withTimer, readWlanSchedule, recordMissedAcks_eq,
      receptionStatistics]
  | otherPacket hmsg =>
    cases hmsg
    simp [receptionStatistics]
  | upperPacket hmsg => cases hmsg

theorem count_receptionStatistics (now : Int) (v : Samac) {payload : SatellitePayload}
    (hknown : payload ≠ .other) :
    (v.receptionStatistics now payload).count .receivedSatellitePackets = 1 ∧
      (v.receptionStatistics now payload).count .receivedWlanSchedules =
        payload.wlanSchedule?.toList.length ∧
      (v.receptionStatistics now payload).count .receivedSatelliteRegistrationAcks =
        [payload].countP (SatellitePayload.isAckOf v.address) ∧
      (v.receptionStatistics now payload).count .sendSatelliteRegistrationMessages = 0 ∧
      (v.receptionStatistics now payload).count .sendSatellitePackets = 0 := by
  cases payload with
  | ack ack =>
    by_cases hown : ack.acknowledgedVehicleId = v.address
    · simp [receptionStatistics, hown, SatellitePayload.wlanSchedule?, SatellitePayload.isAckOf]
    · simp [receptionStatistics, hown, SatellitePayload.wlanSchedule?, SatellitePayload.isAckOf]
  | wlanSchedule ws =>
    simp only [receptionStatistics, List.count_append]
    by_cases hmissed : (!v.registeredAtSatellite && v.receivedInitialWlanSchedule) = true
    · simp only [if_pos hmissed]
      simp [SatellitePayload.wlanSchedule?, SatellitePayload.isAckOf]
    · simp only [if_neg hmissed]
      simp [SatellitePayload.wlanSchedule?, SatellitePayload.isAckOf]
  | other => exact absurd rfl hknown

/-- Apart from packets of the satellite, only registrations are counted. -/
theorem statistics_internal {v v' : Samac} {event : SamacEvent} (h : v.Orderly)
    (hmsg : ∀ pk, event.message ≠ .lowerLayerIn pk) (hstep : Step v event v') :
    v'.vehicleStatistics = v.vehicleStatistics ∧ v'.sentDown = v.sentDown ∨
      v'.vehicleStatistics = v.vehicleStatistics ++
          [.sendSatelliteRegistrationMessages, .sendSatellitePackets] ∧
        v'.sentDown = v.sentDown ++ [⟨v.address⟩] := by
  cases step_effect h.oneshot hstep with
  | registration => exact .inr ⟨rfl, rfl⟩
  | transmission => exact .inl ⟨rfl, rfl⟩
  | ackTimer => exact .inl ⟨rfl, rfl⟩
  | leoAck hreceived => exact absurd hreceived (hmsg _)
  | wlanSchedule hreceived => exact absurd hreceived (hmsg _)
  | otherPacket hreceived => exact absurd hreceived (hmsg _)
  | @upperPacket packet =>
    unfold handleUpperPacket
    split <;> exact .inl ⟨rfl, rfl⟩

end Samac

/-- A vehicle has counted the packets that it has read, and its registrations. -/
structure VehicleNode.Counts (sent : List SatellitePayload) (address : MacAddress)
    (node : VehicleNode) : Prop where
  receivedSatellitePackets :
    node.samac.counted .receivedSatellitePackets = node.cursor - node.joined
  receivedWlanSchedules : node.samac.counted .receivedWlanSchedules =
    (schedules (between sent node.joined node.cursor)).length
  receivedSatelliteRegistrationAcks :
    node.samac.counted .receivedSatelliteRegistrationAcks =
      (between sent node.joined node.cursor).countP (SatellitePayload.isAckOf address)
  sendSatelliteRegistrationMessages :
    node.samac.counted .sendSatelliteRegistrationMessages = node.samac.sentDown.length
  sendSatellitePackets :
    node.samac.counted .sendSatellitePackets = node.samac.sentDown.length

namespace VehicleNode.Counts
variable {sent : List SatellitePayload} {address : MacAddress} {node : VehicleNode}

theorem append (h : node.Counts sent address) (hcursor : node.cursor ≤ sent.length)
    (more : List SatellitePayload) : node.Counts (sent ++ more) address where
  receivedSatellitePackets := h.receivedSatellitePackets
  receivedWlanSchedules := by rw [h.receivedWlanSchedules, between_append hcursor]
  receivedSatelliteRegistrationAcks := by
    rw [h.receivedSatelliteRegistrationAcks, between_append hcursor]
  sendSatelliteRegistrationMessages := h.sendSatelliteRegistrationMessages
  sendSatellitePackets := h.sendSatellitePackets

theorem join (delay : Int) (multicast : Option UInt32) (port : Int) (queue : PacketQueue)
    (encapsulate : Packet → List Packet → Except SimError (Packet × List Packet))
    (position : Nat) : VehicleNode.Counts sent address
      ⟨.initial address delay multicast port queue encapsulate, position, position⟩ := by
  constructor <;> simp [Samac.counted, Samac.initial, between_self, schedules]

/-- The satellite sends acknowledgements and schedules only. -/
theorem receive (h : node.Counts sent address) (hagrees : node.Agrees sent address)
    {payload : SatellitePayload} (hnext : sent[node.cursor]? = some payload)
    (hknown : payload ≠ .other) {now : Int} {rng : Rng} {mac : MacAddress} {samac : Samac}
    (hstep : node.samac.Step ⟨now, rng, .lowerLayerIn ⟨mac, payload⟩⟩ samac) :
    VehicleNode.Counts sent address ⟨samac, node.joined, node.cursor + 1⟩ := by
  obtain ⟨_, hsent, _⟩ := Samac.step_receive hagrees.orderly hstep
  obtain ⟨hpackets, hschedules, hacks, hregistrations, hsends⟩ :=
    Samac.count_receptionStatistics now node.samac hknown
  have hcounted := Samac.counted_append (Samac.statistics_receive hagrees.orderly hstep)
  have hbetween := between_succ hagrees.joined_le hnext
  refine ⟨?_, ?_, ?_, ?_, ?_⟩
  · rw [hcounted, hpackets, h.receivedSatellitePackets]
    exact (Nat.succ_sub hagrees.joined_le).symm
  · rw [hcounted, hschedules, h.receivedWlanSchedules, hbetween,
      VehicleNode.Agrees.schedules_snoc, List.length_append]
  · rw [hcounted, hacks, h.receivedSatelliteRegistrationAcks, hbetween, List.countP_append,
      hagrees.address_eq]
  · rw [hcounted, hregistrations, h.sendSatelliteRegistrationMessages, hsent, Nat.add_zero]
  · rw [hcounted, hsends, h.sendSatellitePackets, hsent, Nat.add_zero]

theorem internal (h : node.Counts sent address) (hagrees : node.Agrees sent address)
    {event : SamacEvent} {samac : Samac} (hmsg : ∀ pk, event.message ≠ .lowerLayerIn pk)
    (hstep : node.samac.Step event samac) :
    VehicleNode.Counts sent address ⟨samac, node.joined, node.cursor⟩ := by
  rcases Samac.statistics_internal hagrees.orderly hmsg hstep with
    ⟨hsame, hsent⟩ | ⟨hnew, hsent⟩
  · have hcounted : ∀ s, samac.counted s = node.samac.counted s := by
      intro s
      rw [Samac.counted, hsame, Samac.counted]
    refine ⟨?_, ?_, ?_, ?_, ?_⟩
    · rw [hcounted, h.receivedSatellitePackets]
    · rw [hcounted, h.receivedWlanSchedules]
    · rw [hcounted, h.receivedSatelliteRegistrationAcks]
    · rw [hcounted, h.sendSatelliteRegistrationMessages, hsent]
    · rw [hcounted, h.sendSatellitePackets, hsent]
  · have hcounted := Samac.counted_append hnew
    refine ⟨?_, ?_, ?_, ?_, ?_⟩
    · rw [hcounted, h.receivedSatellitePackets]
      rfl
    · rw [hcounted, h.receivedWlanSchedules]
      rfl
    · rw [hcounted, h.receivedSatelliteRegistrationAcks]
      rfl
    · rw [hcounted, h.sendSatelliteRegistrationMessages, hsent, List.length_append]
      rfl
    · rw [hcounted, h.sendSatellitePackets, hsent, List.length_append]
      rfl

end VehicleNode.Counts

namespace SamacSatelliteAppl
variable {sat sat' : SamacSatelliteAppl} {event : SatelliteEvent}

def counted (s : Statistic) (sat : SamacSatelliteAppl) : Nat := sat.vehicleStatistics.count s

theorem counted_append {stats : List Statistic}
    (h : sat'.vehicleStatistics = sat.vehicleStatistics ++ stats) (s : Statistic) :
    sat'.counted s = sat.counted s + stats.count s := by
  rw [counted, h, List.count_append, counted]

/-- The satellite has counted its packets, and one registration for each acknowledgement. -/
structure Counts (sat : SamacSatelliteAppl) : Prop where
  sendSatellitePackets : sat.counted .sendSatellitePackets = sat.sent.length
  sendWlanSchedules : sat.counted .sendWlanSchedules = (schedules sat.sent).length
  receivedSatelliteRegistrationMessages :
    sat.counted .receivedSatelliteRegistrationMessages = sat.sent.countP SatellitePayload.isAck
  receivedSatellitePackets :
    sat.counted .receivedSatelliteRegistrationMessages ≤ sat.counted .receivedSatellitePackets
  registeredVehiclesPerSchedule :
    sat.vehicleStatistics.filterMap Statistic.registeredVehicles? =
      (schedules sat.sent).map fun ws => ws.wlanSchedule.size
  registered : ((schedules sat.sent).map fun ws => ws.wlanSchedule.size).sum +
    sat.wlanSchedule.size ≤ sat.sent.countP SatellitePayload.isAck
  known : .other ∉ sat.sent

theorem counts_start {slot : ℚ} {interval latency now : Int}
    (h : (initial slot interval latency).startApplication now = .ok sat) : sat.Counts := by
  obtain ⟨_, rfl⟩ := start_eq_ok.mp h
  constructor <;> simp [initial, counted, schedules]

theorem counts_publish (h : sat.Counts) (now : Int) : (sat.publishWlanSchedule now).Counts := by
  have hsent : (sat.publishWlanSchedule now).sent =
    sat.sent ++ [.wlanSchedule (sat.wlanScheduleMessage now)] := rfl
  have hschedules : schedules (sat.publishWlanSchedule now).sent =
      schedules sat.sent ++ [sat.wlanScheduleMessage now] := by
    rw [hsent, VehicleNode.Agrees.schedules_snoc]
    rfl
  have hstatistics : (sat.publishWlanSchedule now).vehicleStatistics = sat.vehicleStatistics ++
      [.registeredVehiclesPerSchedule sat.wlanSchedule.size, .sendWlanSchedules,
        .sendSatellitePackets] := List.append_assoc _ _ _
  have hcounted := counted_append hstatistics
  have hacks : (sat.publishWlanSchedule now).sent.countP SatellitePayload.isAck =
      sat.sent.countP SatellitePayload.isAck := by
    simp [SatellitePayload.isAck]
  constructor
  · rw [hcounted, h.sendSatellitePackets, hsent, List.length_append]
    simp
  · rw [hcounted, h.sendWlanSchedules, hschedules, List.length_append]
    simp
  · rw [hcounted, h.receivedSatelliteRegistrationMessages, hacks]
    simp
  · rw [hcounted, hcounted]
    simpa using h.receivedSatellitePackets
  · rw [hstatistics, hschedules, List.filterMap_append, h.registeredVehiclesPerSchedule]
    simp [Statistic.registeredVehicles?, wlanScheduleMessage]
  · rw [hschedules, hacks]
    have hcleared : (sat.publishWlanSchedule now).wlanSchedule.size = 0 := rfl
    simpa [hcleared, wlanScheduleMessage, List.sum_append] using h.registered
  · rw [hsent]
    simpa using h.known

theorem counts_registration (h : sat.Counts) (reg : SpaceVeinsRegistrationMessage) :
    (sat.processPacket (.registration reg)).Counts := by
  have hsent := sent_registration reg sat
  have hschedules : schedules (sat.processPacket (.registration reg)).sent =
      schedules sat.sent := by
    rw [hsent, VehicleNode.Agrees.schedules_snoc]
    exact List.append_nil _
  have hstatistics : (sat.processPacket (.registration reg)).vehicleStatistics =
      sat.vehicleStatistics ++ [.sendSatellitePackets, .receivedSatelliteRegistrationMessages,
        .receivedSatellitePackets] := List.append_assoc _ _ _
  have hcounted := counted_append hstatistics
  have hacks : (sat.processPacket (.registration reg)).sent.countP SatellitePayload.isAck =
      sat.sent.countP SatellitePayload.isAck + 1 := by
    simp [SatellitePayload.isAck]
  have hsize : (sat.processPacket (.registration reg)).wlanSchedule.size ≤
      sat.wlanSchedule.size + 1 := by
    rw [wlanSchedule_registration]
    exact Std.ExtTreeMap.size_insertIfNew_le
  constructor
  · rw [hcounted, h.sendSatellitePackets, hsent, List.length_append]
    simp
  · rw [hcounted, h.sendWlanSchedules, hschedules]
    simp
  · rw [hcounted, h.receivedSatelliteRegistrationMessages, hacks]
    simp
  · rw [hcounted, hcounted]
    simpa using h.receivedSatellitePackets
  · rw [hstatistics, hschedules, List.filterMap_append, h.registeredVehiclesPerSchedule]
    simp [Statistic.registeredVehicles?]
  · rw [hschedules, hacks]
    have hregistered := h.registered
    omega
  · rw [hsent]
    simpa using h.known

theorem counts_other (h : sat.Counts) : (sat.processPacket .other).Counts := by
  have hstatistics : (sat.processPacket .other).vehicleStatistics =
      sat.vehicleStatistics ++ [.receivedSatellitePackets] := rfl
  have hcounted := counted_append hstatistics
  have hfilter : (sat.processPacket .other).vehicleStatistics.filterMap
      Statistic.registeredVehicles? =
        sat.vehicleStatistics.filterMap Statistic.registeredVehicles? := by
    simp [processPacket, record, Statistic.registeredVehicles?]
  refine ⟨?_, ?_, ?_, ?_, hfilter.trans h.registeredVehiclesPerSchedule, h.registered, h.known⟩
  · exact (hcounted _).trans h.sendSatellitePackets
  · exact (hcounted _).trans h.sendWlanSchedules
  · exact (hcounted _).trans h.receivedSatelliteRegistrationMessages
  · rw [hcounted, hcounted]
    exact Nat.add_le_add h.receivedSatellitePackets (by decide)

theorem counts_step (h : sat.Counts) (hstep : Step sat event sat') : sat'.Counts := by
  obtain ⟨_, _, rfl⟩ | ⟨pk, _, rfl⟩ := step_cases hstep
  · obtain ⟨h₁, h₂, h₃, h₄, h₅, h₆, h₇⟩ := counts_publish h event.now
    exact ⟨h₁, h₂, h₃, h₄, h₅, h₆, h₇⟩
  · cases pk with
    | registration reg => exact counts_registration h reg
    | other => exact counts_other h

end SamacSatelliteAppl

namespace SamacNetwork
variable {net net' : SamacNetwork} {event : NetworkEvent}

/-- The satellite and all its vehicles have counted. -/
structure Counts (net : SamacNetwork) : Prop where
  satellite : net.satellite.Counts
  vehicles : ∀ a node, net.vehicles a = some node → node.Counts net.satellite.sent a

theorem counts_setVehicle (h : net.Counts) {a : MacAddress} {node : VehicleNode}
    (hnode : node.Counts net.satellite.sent a) : (net.setVehicle a node).Counts := by
  refine ⟨h.satellite, ?_⟩
  intro b node' hb
  by_cases hba : b = a
  · subst hba
    obtain rfl : node = node' := by simpa [setVehicle] using hb
    exact hnode
  · exact h.vehicles b node' (by simpa [setVehicle, Function.update_of_ne hba] using hb)

theorem counts_satellite (hagrees : net.Agrees) (h : net.Counts) {event : SatelliteEvent}
    {satellite : SamacSatelliteAppl} (hstep : net.satellite.Step event satellite) :
    Counts { net with satellite := satellite } := by
  obtain ⟨_, more, hsent, _⟩ := SamacSatelliteAppl.acknowledges_step hagrees.satellite hstep
  refine ⟨SamacSatelliteAppl.counts_step h.satellite hstep, ?_⟩
  intro a node hnode
  change node.Counts satellite.sent a
  rw [hsent]
  exact (h.vehicles a node hnode).append (hagrees.vehicles a node hnode).cursor_le more

theorem counts_step (hagrees : net.Agrees) (h : net.Counts) (hstep : Step net event net') :
    net'.Counts := by
  cases hstep with
  | join delay multicast port queue encapsulate position hnone hposition =>
    exact counts_setVehicle h (.join delay multicast port queue encapsulate position)
  | satelliteTimer hsat => exact counts_satellite hagrees h hsat
  | uplinkRegistration _ _ hsat => exact counts_satellite hagrees h hsat
  | uplinkOther hsat => exact counts_satellite hagrees h hsat
  | downlink hnode hnext hsamac =>
    refine counts_setVehicle h
      ((h.vehicles _ _ hnode).receive (hagrees.vehicles _ _ hnode) hnext ?_ hsamac)
    rintro rfl
    exact h.satellite.known (List.mem_of_getElem? hnext)
  | internal hnode hmsg hsamac =>
    exact counts_setVehicle h
      ((h.vehicles _ _ hnode).internal (hagrees.vehicles _ _ hnode) hmsg hsamac)

/-- In every run the statistics count the log of the satellite, and no vehicle counts more
acknowledgements than the satellite counts registrations. -/
theorem statistics_of_run {slot : ℚ} {interval latency now : Int} {sat₀ : SamacSatelliteAppl}
    {path : List (SamacNetwork × NetworkEvent × SamacNetwork)}
    (hstart : (SamacSatelliteAppl.initial slot interval latency).startApplication now = .ok sat₀)
    (hrun : Run Step (initial sat₀) path net) :
    net.satellite.Counts ∧ ∀ address node, net.vehicles address = some node →
      node.Counts net.satellite.sent address ∧
      node.samac.counted .receivedSatelliteRegistrationAcks ≤
        net.satellite.counted .receivedSatelliteRegistrationMessages := by
  have hsent : sat₀.sent = [] := by
    obtain ⟨_, rfl⟩ := SamacSatelliteAppl.start_eq_ok.mp hstart
    rfl
  have hagrees := agrees_initial (SamacSatelliteAppl.acknowledges_start hstart) hsent
  have hcounts : (initial sat₀).Counts :=
    ⟨SamacSatelliteAppl.counts_start hstart, fun a node hnode => by cases hnode⟩
  have h := (hrun.invariant (P := fun net => net.Agrees ∧ net.Counts) ⟨hagrees, hcounts⟩
    fun _ _ _ h hstep => ⟨agrees_step h.1 hstep, counts_step h.1 h.2 hstep⟩).2
  refine ⟨h.satellite, fun address node hnode => ⟨h.vehicles address node hnode, ?_⟩⟩
  rw [(h.vehicles address node hnode).receivedSatelliteRegistrationAcks,
    h.satellite.receivedSatelliteRegistrationMessages]
  refine (List.countP_mono_left fun payload _ hown => ?_).trans
    (((List.drop_sublist _ _).trans (List.take_sublist _ _)).countP_le)
  cases payload with
  | ack ack => rfl
  | wlanSchedule ws => cases hown
  | other => cases hown

/-- The satellite has entered one of the two registrations, and the vehicle has read one
acknowledgement and missed one. -/
theorem statistics_of_run_missedOnce : ∃ path net node,
    Run Step (initial startedSatellite) path net ∧ net.vehicles (.ofBits 7) = some node ∧
      net.satellite.Counts ∧ node.Counts net.satellite.sent (.ofBits 7) ∧
      node.samac.counted .receivedSatelliteRegistrationAcks ≤
        net.satellite.counted .receivedSatelliteRegistrationMessages ∧
      net.satellite.counted .receivedSatelliteRegistrationMessages = 1 ∧
      node.samac.counted .sendSatelliteRegistrationMessages = 2 ∧
      node.samac.counted .receivedSatelliteRegistrationAcks = 1 ∧
      node.samac.counted .missedSatelliteRegistrationAcks = 1 ∧
      node.samac.counted .receivedWlanSchedules = 3 := by
  have hnode := (Option.some_get missedOnce_vehicle_isSome).symm
  obtain ⟨hsatellite, hvehicles⟩ := statistics_of_run startedSatellite_eq missedOnce_run
  obtain ⟨hcounts, hle⟩ := hvehicles _ _ hnode
  exact ⟨_, _, _, missedOnce_run, hnode, hsatellite, hcounts, hle, by decide +kernel,
    by decide +kernel, by decide +kernel, by decide +kernel, by decide +kernel⟩

end SamacNetwork
end SpaceVeins

import SpaceVeins.SamacNetwork

/-!
# Acknowledgements and slots agree

The satellite keeps its log honest: a schedule lists exactly the addresses
acknowledged since the previous schedule. A vehicle that reads the log in order
keeps the same flag, so it finds its own address in a schedule if and only if it
holds itself registered when it starts to process that schedule.
-/

set_option autoImplicit false

namespace SpaceVeins
open Runs Journal

namespace SamacSatelliteAppl
variable {sat sat' : SamacSatelliteAppl} {event : SatelliteEvent}

/-- The map holds the addresses acknowledged since the last schedule, and all schedules did. -/
structure Acknowledges (sat : SamacSatelliteAppl) : Prop where
  honest : Honest acknowledged (fun _ => false) ListsAcknowledged sat.sent
  mirror : ∀ a : MacAddress,
    a.getInt ∈ sat.wlanSchedule ↔ flagsAt sat.sent sat.sent.length a = true

theorem acknowledges_start {slot : ℚ} {interval latency now : Int}
    (h : (initial slot interval latency).startApplication now = .ok sat) : sat.Acknowledges := by
  obtain ⟨_, rfl⟩ := start_eq_ok.mp h
  refine ⟨honest_nil, fun a => ?_⟩
  simp [initial, flagsAt, view]

theorem flagsAt_snoc (sent : List SatellitePayload) (payload : SatellitePayload) :
    flagsAt (sent ++ [payload]) (sent.length + 1) =
      acknowledged (flagsAt sent sent.length) payload := view_snoc payload

/-- A step appends to the log, acknowledges only registrations it receives, and stays honest. -/
theorem acknowledges_step (h : sat.Acknowledges) (hstep : Step sat event sat') :
    sat'.Acknowledges ∧ ∃ more, sat'.sent = sat.sent ++ more ∧
      ∀ a, .ack ⟨a⟩ ∈ more → event.message = .packet (.registration ⟨a⟩) := by
  obtain ⟨_, _, rfl⟩ | ⟨pk, hmsg, rfl⟩ := step_cases hstep
  · have hlists : ListsAcknowledged (flagsAt sat.sent sat.sent.length)
        (.wlanSchedule (sat.wlanScheduleMessage event.now)) := h.mirror
    refine ⟨⟨h.honest.snoc hlists, fun a => ?_⟩, [_], rfl, ?_⟩
    · change a.getInt ∈ (∅ : WlanSchedule) ↔
        flagsAt (sat.sent ++ [_]) (sat.sent ++ [_]).length a = true
      rw [List.length_append, List.length_singleton, flagsAt_snoc]
      simp [acknowledged]
    · intro a ha
      cases List.mem_singleton.mp ha
  · cases pk with
    | registration reg =>
      refine ⟨⟨h.honest.snoc trivial, fun a => ?_⟩, [_], rfl, ?_⟩
      · rw [wlanSchedule_registration, sent_registration, List.length_append,
          List.length_singleton, flagsAt_snoc, Std.ExtTreeMap.mem_insertIfNew, h.mirror a]
        by_cases ha : a = reg.srcMacAddress
        · simp [acknowledged, ha]
        · have hne : ¬ reg.srcMacAddress.getInt = a.getInt :=
            fun heq => ha (MacAddress.getInt_inj.mp heq).symm
          simp [acknowledged, Function.update_of_ne ha, hne]
      · intro a ha
        obtain rfl : a = reg.srcMacAddress := by simpa using List.mem_singleton.mp ha
        exact hmsg
    | other => exact ⟨⟨h.honest, h.mirror⟩, [], (List.append_nil _).symm, fun a ha => by cases ha⟩

end SamacSatelliteAppl

/-- The state of a vehicle is what the packets it has received amount to. -/
structure VehicleNode.Agrees (sent : List SatellitePayload) (address : MacAddress)
    (node : VehicleNode) : Prop where
  orderly : node.samac.Orderly
  address_eq : node.samac.address = address
  joined_le : node.joined ≤ node.cursor
  cursor_le : node.cursor ≤ sent.length
  flag : node.samac.registeredAtSatellite = flagsAt sent node.cursor address
  received : node.samac.receivedInitialWlanSchedule =
    !(schedules (between sent node.joined node.cursor)).isEmpty
  missed : node.samac.missedAcks =
    (schedules (between sent node.joined node.cursor)).tail.countP
      fun ws => decide (address.getInt ∉ ws.wlanSchedule)
  sentDown : ∀ reg ∈ node.samac.sentDown, reg.srcMacAddress = address

namespace VehicleNode.Agrees
variable {sent : List SatellitePayload} {address : MacAddress} {node : VehicleNode}

theorem append (h : node.Agrees sent address) (more : List SatellitePayload) :
    node.Agrees (sent ++ more) address where
  orderly := h.orderly
  address_eq := h.address_eq
  joined_le := h.joined_le
  cursor_le := h.cursor_le.trans (by simp)
  flag := by rw [h.flag, flagsAt, flagsAt, view_append h.cursor_le]
  received := by rw [h.received, between_append h.cursor_le]
  missed := by rw [h.missed, between_append h.cursor_le]
  sentDown := h.sentDown

theorem join (delay : Int) (multicast : Option UInt32) (port : Int) (queue : PacketQueue)
    (encapsulate : Packet → List Packet → Except SimError (Packet × List Packet))
    {position : Nat} (hposition : position ≤ sent.length) (hfresh : .ack ⟨address⟩ ∉ sent) :
    VehicleNode.Agrees sent address
      ⟨.initial address delay multicast port queue encapsulate, position, position⟩ where
  orderly := Samac.orderly_initial ..
  address_eq := rfl
  joined_le := le_rfl
  cursor_le := hposition
  flag := (flagsAt_of_no_ack hfresh position).symm
  received := by simp [between_self, schedules, Samac.initial]
  missed := by simp [between_self, schedules, Samac.initial, Samac.missedAcks]
  sentDown := by simp [Samac.initial]

theorem schedules_snoc (sent : List SatellitePayload) (payload : SatellitePayload) :
    schedules (sent ++ [payload]) = schedules sent ++ payload.wlanSchedule?.toList := by
  rw [schedules, schedules, List.filterMap_append]
  cases hws : payload.wlanSchedule? <;> simp [hws]

/-- The flag tells whether the schedule that is received next lists the vehicle. -/
theorem flag_iff (h : node.Agrees sent address)
    (hhonest : Honest acknowledged (fun _ => false) ListsAcknowledged sent)
    {ws : SpaceVeinsWlanScheduleMessage} (hnext : sent[node.cursor]? = some (.wlanSchedule ws)) :
    node.samac.registeredAtSatellite = true ↔ address.getInt ∈ ws.wlanSchedule := by
  rw [h.flag]
  exact (hhonest node.cursor _ hnext address).symm

theorem receive (h : node.Agrees sent address)
    (hhonest : Honest acknowledged (fun _ => false) ListsAcknowledged sent)
    {payload : SatellitePayload} (hnext : sent[node.cursor]? = some payload) {now : Int} {rng : Rng}
    {mac : MacAddress} {samac : Samac}
    (hstep : node.samac.Step ⟨now, rng, .lowerLayerIn ⟨mac, payload⟩⟩ samac) :
    VehicleNode.Agrees sent address ⟨samac, node.joined, node.cursor + 1⟩ := by
  obtain ⟨haddress, hsent, hflag, hreceived, hmissed⟩ := Samac.step_receive h.orderly hstep
  obtain ⟨hlt, _⟩ := List.getElem?_eq_some_iff.mp hnext
  rw [h.address_eq] at hflag
  refine ⟨Samac.orderly_step h.orderly hstep, haddress.trans h.address_eq,
    Nat.le_succ_of_le h.joined_le, hlt, ?_, ?_, ?_, hsent ▸ h.sentDown⟩
  · rw [hflag (flagsAt sent node.cursor) h.flag.symm, flagsAt, flagsAt, view_succ hnext]
  · rw [hreceived, h.received, between_succ h.joined_le hnext, schedules_snoc]
    cases payload.wlanSchedule? <;> simp
  · rw [hmissed, h.missed, h.received, between_succ h.joined_le hnext, schedules_snoc]
    cases payload with
    | ack ack => simp [SatellitePayload.wlanSchedule?]
    | other => simp [SatellitePayload.wlanSchedule?]
    | wlanSchedule ws =>
      have hlisted := h.flag_iff hhonest hnext
      generalize schedules (between sent node.joined node.cursor) = earlier
      cases earlier with
      | nil => simp [SatellitePayload.wlanSchedule?]
      | cons first rest =>
        by_cases hmem : address.getInt ∈ ws.wlanSchedule
        · simp [SatellitePayload.wlanSchedule?, List.countP_append, hmem, hlisted.mpr hmem]
        · simp [SatellitePayload.wlanSchedule?, List.countP_append, hmem, mt hlisted.mp hmem]

theorem internal (h : node.Agrees sent address) {event : SamacEvent} {samac : Samac}
    (hmsg : ∀ pk, event.message ≠ .lowerLayerIn pk) (hstep : node.samac.Step event samac) :
    VehicleNode.Agrees sent address ⟨samac, node.joined, node.cursor⟩ := by
  obtain ⟨haddress, hsent, hflag, hreceived, hmissed⟩ :=
    Samac.step_internal h.orderly hmsg hstep
  refine ⟨Samac.orderly_step h.orderly hstep, haddress.trans h.address_eq, h.joined_le,
    h.cursor_le, hflag.trans h.flag, hreceived.trans h.received, hmissed.trans h.missed, ?_⟩
  intro reg hreg
  rcases hsent with hsame | hnew
  · exact h.sentDown reg (hsame ▸ hreg)
  · rw [hnew] at hreg
    rcases List.mem_append.mp hreg with hold | hlast
    · exact h.sentDown reg hold
    · rw [List.mem_singleton.mp hlast]
      exact h.address_eq

end VehicleNode.Agrees

namespace SamacNetwork
variable {net net' : SamacNetwork} {event : NetworkEvent}

/-- The satellite is honest, all vehicles agree with its log, and only vehicles are acknowledged. -/
structure Agrees (net : SamacNetwork) : Prop where
  satellite : net.satellite.Acknowledges
  fresh : ∀ a, net.vehicles a = none → .ack ⟨a⟩ ∉ net.satellite.sent
  vehicles : ∀ a node, net.vehicles a = some node → node.Agrees net.satellite.sent a

theorem agrees_initial {sat : SamacSatelliteAppl} (h : sat.Acknowledges) (hsent : sat.sent = []) :
    (initial sat).Agrees :=
  ⟨h, fun a _ => by simp [initial, hsent], fun a node hnode => by cases hnode⟩

theorem setVehicle_self (net : SamacNetwork) (a : MacAddress) (node : VehicleNode) :
    (net.setVehicle a node).vehicles a = some node := Function.update_self ..

theorem agrees_setVehicle (h : net.Agrees) {a : MacAddress} {node : VehicleNode}
    (hnode : node.Agrees net.satellite.sent a) : (net.setVehicle a node).Agrees := by
  refine ⟨h.satellite, ?_, ?_⟩
  · intro b hb
    by_cases hba : b = a
    · subst hba
      simp [setVehicle] at hb
    · exact h.fresh b (by simpa [setVehicle, Function.update_of_ne hba] using hb)
  · intro b node' hb
    by_cases hba : b = a
    · subst hba
      obtain rfl : node = node' := by simpa [setVehicle] using hb
      exact hnode
    · exact h.vehicles b node' (by simpa [setVehicle, Function.update_of_ne hba] using hb)

theorem agrees_satellite (h : net.Agrees) {event : SatelliteEvent} {satellite : SamacSatelliteAppl}
    (hstep : net.satellite.Step event satellite)
    (hsender : ∀ reg, event.message = .packet (.registration reg) →
      net.vehicles reg.srcMacAddress ≠ none) :
    Agrees { net with satellite := satellite } := by
  obtain ⟨hsat, more, hsent, hacks⟩ :=
    SamacSatelliteAppl.acknowledges_step h.satellite hstep
  refine ⟨hsat, ?_, ?_⟩
  · intro a ha hmem
    change .ack ⟨a⟩ ∈ satellite.sent at hmem
    rw [hsent] at hmem
    rcases List.mem_append.mp hmem with hold | hnew
    · exact h.fresh a ha hold
    · exact hsender ⟨a⟩ (hacks a hnew) ha
  · intro a node hnode
    change node.Agrees satellite.sent a
    rw [hsent]
    exact (h.vehicles a node hnode).append more

theorem agrees_step (h : net.Agrees) (hstep : Step net event net') : net'.Agrees := by
  cases hstep with
  | join delay multicast port queue encapsulate position hnone hposition =>
    exact agrees_setVehicle h
      (.join delay multicast port queue encapsulate hposition (h.fresh _ hnone))
  | satelliteTimer hsat => exact agrees_satellite h hsat fun reg hreg => by cases hreg
  | @uplinkRegistration _ reg a node satellite hnode hreg hsat =>
    refine agrees_satellite h hsat fun reg' hreg' => ?_
    obtain rfl : reg = reg' := by simpa using hreg'
    rw [(h.vehicles a node hnode).sentDown reg hreg, hnode]
    exact Option.some_ne_none node
  | uplinkOther hsat => exact agrees_satellite h hsat fun reg hreg => by cases hreg
  | downlink hnode hnext hsamac =>
    exact agrees_setVehicle h
      ((h.vehicles _ _ hnode).receive h.satellite.honest hnext hsamac)
  | internal hnode hmsg hsamac =>
    exact agrees_setVehicle h ((h.vehicles _ _ hnode).internal hmsg hsamac)

section Runs
variable {slot : ℚ} {interval latency now : Int} {sat₀ : SamacSatelliteAppl}
  {path : List (SamacNetwork × NetworkEvent × SamacNetwork)}

/-- A vehicle that starts to process a schedule is registered if and only if the schedule lists
it, and it has recorded a missed acknowledgement for exactly those schedules, its first one
apart, that do not list it. -/
theorem ack_and_slot_agree
    (hstart : (SamacSatelliteAppl.initial slot interval latency).startApplication now = .ok sat₀)
    (hrun : Run Step (initial sat₀) path net) :
    (∀ m m' address now rng mac, (m, .downlink address now rng mac, m') ∈ path →
      ∀ node ws, m.vehicles address = some node →
        m.satellite.sent[node.cursor]? = some (.wlanSchedule ws) →
        (node.samac.registeredAtSatellite = true ↔ address.getInt ∈ ws.wlanSchedule)) ∧
    (∀ address node, net.vehicles address = some node →
      node.samac.missedAcks =
        (schedules (between net.satellite.sent node.joined node.cursor)).tail.countP
          fun ws => decide (address.getInt ∉ ws.wlanSchedule)) := by
  have hsent : sat₀.sent = [] := by
    obtain ⟨_, rfl⟩ := SamacSatelliteAppl.start_eq_ok.mp hstart
    rfl
  have hinitial := agrees_initial (SamacSatelliteAppl.acknowledges_start hstart) hsent
  constructor
  · intro m m' address now rng mac hmem node ws hnode hnext
    have h := (hrun.invariant_of_mem hinitial (fun _ _ _ => agrees_step) hmem).1
    exact (h.vehicles address node hnode).flag_iff h.satellite.honest hnext
  · intro address node hnode
    have h := hrun.invariant hinitial fun _ _ _ => agrees_step
    exact (h.vehicles address node hnode).missed

end Runs

def startedSatellite : SamacSatelliteAppl :=
  { SamacSatelliteAppl.initialDefault with wlanScheduleTimer := some (SimTime.ofS 1) }

/-- The next packet of the satellite arrives; the draws are the slot and the time of
registration. -/
def downlinkAtMs (ms slot registration : Int) : NetworkEvent :=
  .downlink (.ofBits 7) (SimTime.ofMs ms) (.drawing slot (SimTime.ofMs registration)) (.ofBits 1)

/-- The registration after the first schedule is acknowledged, and the second schedule lists the
vehicle; the one after the second is lost, and the third does not. -/
def missedOnce : List NetworkEvent :=
  [.join (.ofBits 7), .satelliteTimer (SimTime.ofS 1), downlinkAtMs 1004 50 1500,
    .internal (.ofBits 7) (Samac.timerAtMs 1055 0), .internal (.ofBits 7) (Samac.timerAtMs 1500 1),
    .uplink (SimTime.ofMs 1504) (.registration ⟨.ofBits 7⟩), downlinkAtMs 1508 0 0,
    .internal (.ofBits 7) (Samac.ackTimerAtMs 1518), .satelliteTimer (SimTime.ofS 2),
    downlinkAtMs 2004 0 2500, .internal (.ofBits 7) (Samac.timerAtMs 2005 2),
    .internal (.ofBits 7) (Samac.timerAtMs 2500 3),
    .internal (.ofBits 7) (Samac.ackTimerAtMs 2518), .satelliteTimer (SimTime.ofS 3),
    downlinkAtMs 3004 10 3500]

theorem missedOnce_isSome :
    (replay step? (initial startedSatellite) missedOnce).isSome = true := by
  decide +kernel

theorem missedOnce_run : Run Step (initial startedSatellite)
    (Option.get _ missedOnce_isSome).1 (Option.get _ missedOnce_isSome).2 :=
  run_of_replay_get (fun _ _ _ => step_of_step?) missedOnce_isSome

theorem missedOnce_vehicle_isSome :
    ((Option.get _ missedOnce_isSome).2.vehicles (.ofBits 7)).isSome = true := by
  decide +kernel

theorem startedSatellite_eq :
    SamacSatelliteAppl.initialDefault.startApplication 0 = .ok startedSatellite :=
  SamacSatelliteAppl.start_eq_ok.mpr ⟨by decide, rfl⟩

/-- For every schedule that reaches a vehicle: whether the vehicle holds itself registered, and
whether the schedule lists it. -/
def schedulesRead (path : List (SamacNetwork × NetworkEvent × SamacNetwork)) :
    List (Bool × Bool) :=
  path.filterMap fun (net, event, _) =>
    match event with
    | .downlink address _ _ _ => do
      let node ← net.vehicles address
      let ws ← (← net.satellite.sent[node.cursor]?).wlanSchedule?
      some (node.samac.registeredAtSatellite, decide (address.getInt ∈ ws.wlanSchedule))
    | _ => none

/-- The vehicle is registered for the second of three schedules only, and counts one missed
acknowledgement. -/
theorem ack_and_slot_agree_missedOnce : ∃ path net node,
    Run Step (initial startedSatellite) path net ∧ net.vehicles (.ofBits 7) = some node ∧
      schedulesRead path = [(false, false), (true, true), (false, false)] ∧
      (∀ m m' now rng mac, (m, .downlink (.ofBits 7) now rng mac, m') ∈ path →
        ∀ node ws, m.vehicles (.ofBits 7) = some node →
          m.satellite.sent[node.cursor]? = some (.wlanSchedule ws) →
          (node.samac.registeredAtSatellite = true ↔
            (MacAddress.ofBits 7).getInt ∈ ws.wlanSchedule)) ∧
      (schedules (between net.satellite.sent node.joined node.cursor)).tail.countP
        (fun ws => decide ((MacAddress.ofBits 7).getInt ∉ ws.wlanSchedule)) = 1 ∧
      node.samac.missedAcks = 1 := by
  have hnode := (Option.some_get missedOnce_vehicle_isSome).symm
  obtain ⟨hflag, hmissed⟩ := ack_and_slot_agree startedSatellite_eq missedOnce_run
  have hone : (Option.get _ missedOnce_vehicle_isSome).samac.missedAcks = 1 := by decide +kernel
  exact ⟨_, _, _, missedOnce_run, hnode, by decide +kernel,
    fun m m' now rng mac hm => hflag m m' (.ofBits 7) now rng mac hm,
    (hmissed _ _ hnode).symm.trans hone, hone⟩

end SamacNetwork
end SpaceVeins

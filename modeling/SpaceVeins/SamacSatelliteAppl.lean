import SpaceVeins.Messages
import SpaceVeins.Shared.Numbering
import SpaceVeins.Shared.Runs

/-!
# The satellite application

`SamacSatelliteAppl` enters every registration it receives into the schedule
under construction, acknowledges it, and publishes and clears the schedule
whenever its timer expires. The published schedules are related to an abstract
book that only remembers who registered in which period.
-/

set_option autoImplicit false

namespace SpaceVeins

structure SamacSatelliteAppl where
  wlanSlot_s : ℚ
  wlanScheduleInterval_s : Int
  maxV2SLatency_s : Int
  wlanSchedule : WlanSchedule
  /-- When `wlanScheduleTimer` expires, if it is scheduled. -/
  wlanScheduleTimer : Option Int
  /-- Every packet sent so far, oldest first. -/
  sent : List SatellitePayload
  /-- Every signal emitted so far, oldest first. -/
  vehicleStatistics : List Statistic

/-- The messages that the kernel delivers to the application. -/
inductive SatelliteMessage where
  | wlanScheduleTimer
  | packet (pk : VehiclePayload)
deriving DecidableEq

structure SatelliteEvent where
  now : Int
  message : SatelliteMessage
deriving DecidableEq

namespace SamacSatelliteAppl

/-- The application after `initialize`, with the values of its parameters. -/
def initial (wlanSlot_s : ℚ) (wlanScheduleInterval_s maxV2SLatency_s : Int) :
    SamacSatelliteAppl where
  wlanSlot_s := wlanSlot_s
  wlanScheduleInterval_s := wlanScheduleInterval_s
  maxV2SLatency_s := maxV2SLatency_s
  wlanSchedule := ∅
  wlanScheduleTimer := none
  sent := []
  vehicleStatistics := []

def initialDefault : SamacSatelliteAppl := initial (1 / 1000) (SimTime.ofS 1) (SimTime.ofMs 5)

def record (stats : List Statistic) (sat : SamacSatelliteAppl) : SamacSatelliteAppl :=
  { sat with vehicleStatistics := sat.vehicleStatistics ++ stats }

def sendPacket (pk : SatellitePayload) (sat : SamacSatelliteAppl) : SamacSatelliteAppl :=
  { sat with sent := sat.sent ++ [pk] }

def scheduleTimer (now time : Int) (sat : SamacSatelliteAppl) :
    Except SimError SamacSatelliteAppl := do
  let timer ← scheduleAt now time sat.wlanScheduleTimer
  pure { sat with wlanScheduleTimer := timer }

def startApplication (now : Int) (sat : SamacSatelliteAppl) : Except SimError SamacSatelliteAppl :=
  sat.scheduleTimer now (now + sat.wlanScheduleInterval_s)

def sendVehicleRegistrationAck (vehicleId : MacAddress) (sat : SamacSatelliteAppl) :
    SamacSatelliteAppl :=
  (sat.record [.sendSatellitePackets]).sendPacket (.ack ⟨vehicleId⟩)

/-- `insert` leaves an existing entry alone, so a slot once given is kept. -/
def addToWlanSchedule (vehicleId : MacAddress) (sat : SamacSatelliteAppl) : SamacSatelliteAppl :=
  let wlanScheduleSize := sat.wlanSchedule.size
  { sat with wlanSchedule :=
      sat.wlanSchedule.insertIfNew vehicleId.getInt (wlanScheduleSize * sat.wlanSlot_s) }

/-- The payload that `publishWlanSchedule` builds. -/
def wlanScheduleMessage (now : Int) (sat : SamacSatelliteAppl) : SpaceVeinsWlanScheduleMessage where
  wlanSchedule := sat.wlanSchedule
  wlanScheduleBeginTimestamp := now + sat.maxV2SLatency_s
  wlanScheduleInterval := sat.wlanScheduleInterval_s
  transmitTimestamp := now
  chunkLength :=
    if 0 < sat.wlanSchedule.size then
      sat.wlanSchedule.size * (MacAddress.getAddressSize + 8) + 3 * 8
    else 3 * 8

def publishWlanSchedule (now : Int) (sat : SamacSatelliteAppl) : SamacSatelliteAppl :=
  let payload := sat.wlanScheduleMessage now
  let sat := sat.record [.registeredVehiclesPerSchedule sat.wlanSchedule.size]
  let sat := { sat with wlanSchedule := ∅ }
  (sat.sendPacket (.wlanSchedule payload)).record [.sendWlanSchedules, .sendSatellitePackets]

/-- The only self message of the module is `wlanScheduleTimer`. -/
def handleSelfMessage (now : Int) (sat : SamacSatelliteAppl) :
    Except SimError SamacSatelliteAppl :=
  let sat := sat.publishWlanSchedule now
  sat.scheduleTimer now (now + sat.wlanScheduleInterval_s)

def processPacket (pk : VehiclePayload) (sat : SamacSatelliteAppl) : SamacSatelliteAppl :=
  match pk with
  | .registration reg =>
    ((sat.addToWlanSchedule reg.srcMacAddress).sendVehicleRegistrationAck reg.srcMacAddress).record
      [.receivedSatelliteRegistrationMessages, .receivedSatellitePackets]
  | .other => sat.record [.receivedSatellitePackets]

/-- The kernel takes a self message off the event set before it delivers it. -/
def handleMessageWhenUp (event : SatelliteEvent) (sat : SamacSatelliteAppl) :
    Except SimError SamacSatelliteAppl :=
  match event.message with
  | .wlanScheduleTimer => handleSelfMessage event.now { sat with wlanScheduleTimer := none }
  | .packet pk => pure (sat.processPacket pk)

/-- The timer arrives exactly when it was scheduled for, and no event overtakes it. -/
def Due (sat : SamacSatelliteAppl) (event : SatelliteEvent) : Prop :=
  (∀ time ∈ sat.wlanScheduleTimer, event.now ≤ time) ∧
    (event.message = .wlanScheduleTimer → sat.wlanScheduleTimer = some event.now)

def Step (sat : SamacSatelliteAppl) (event : SatelliteEvent) (sat' : SamacSatelliteAppl) : Prop :=
  sat.Due event ∧ sat.handleMessageWhenUp event = .ok sat'

instance (sat : SamacSatelliteAppl) (event : SatelliteEvent) : Decidable (sat.Due event) :=
  inferInstanceAs (Decidable (_ ∧ _))

/-- The step, computed. -/
def step? (sat : SamacSatelliteAppl) (event : SatelliteEvent) : Option SamacSatelliteAppl :=
  if sat.Due event then (sat.handleMessageWhenUp event).toOption else none

theorem step_of_step? {sat sat' : SamacSatelliteAppl} {event : SatelliteEvent}
    (h : sat.step? event = some sat') : Step sat event sat' := by
  unfold step? at h
  split at h
  · rename_i hdue
    refine ⟨hdue, ?_⟩
    cases hresult : sat.handleMessageWhenUp event with
    | error e => simp [hresult, Except.toOption] at h
    | ok sat₁ =>
      rw [hresult] at h
      obtain rfl : sat₁ = sat' := by simpa [Except.toOption] using h
      rfl
  · cases h

/-! What one event can do. -/

theorem handleSelfMessage_ok {now : Int} {sat sat' : SamacSatelliteAppl}
    (h : handleSelfMessage now sat = .ok sat') :
    sat' = { sat.publishWlanSchedule now with
      wlanScheduleTimer := some (now + sat.wlanScheduleInterval_s) } := by
  obtain ⟨timer, htimer, hsat⟩ := bind_eq_ok.mp h
  obtain ⟨_, _, rfl⟩ := scheduleAt_eq_ok.mp htimer
  exact (Except.ok.inj hsat).symm

/-- Every step publishes, enters a registration, or drops an unknown packet. -/
theorem step_cases {sat sat' : SamacSatelliteAppl} {event : SatelliteEvent}
    (h : Step sat event sat') :
    (event.message = .wlanScheduleTimer ∧ sat.wlanScheduleTimer = some event.now ∧
      sat' = { sat.publishWlanSchedule event.now with
        wlanScheduleTimer := some (event.now + sat.wlanScheduleInterval_s) }) ∨
    (∃ pk, event.message = .packet pk ∧ sat' = sat.processPacket pk) := by
  obtain ⟨⟨_, hdue⟩, hstep⟩ := h
  unfold handleMessageWhenUp at hstep
  cases hm : event.message with
  | wlanScheduleTimer =>
    rw [hm] at hstep
    have hsat := handleSelfMessage_ok hstep
    exact Or.inl ⟨rfl, hdue hm, hsat⟩
  | packet pk =>
    rw [hm] at hstep
    exact Or.inr ⟨pk, rfl, (Except.ok.inj hstep).symm⟩

end SamacSatelliteAppl
end SpaceVeins

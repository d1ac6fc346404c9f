import SpaceVeins.Samac
import SpaceVeins.Shared.Runs

/-!
# What one event does to a vehicle

Each handler gets one lemma that says when it succeeds and which state it leaves.
They are put together in `Effect`, the complete list of what one event can do;
every invariant of the vehicle is derived from that list.
-/

set_option autoImplicit false

namespace SpaceVeins

structure SamacEvent where
  now : Int
  rng : Rng
  message : SamacMessage

namespace Samac

/-- The kernel takes a self message off the event set before it delivers it. -/
def arrive (message : SamacMessage) (v : Samac) : Samac :=
  match message with
  | .timerMessage id => { v with timerManager := v.timerManager.setArrival id none }
  | .selfMessage _ => { v with satelliteRegistrationAckTimer := none }
  | _ => v

/-- The times at which self messages of the module are scheduled to arrive. -/
def arrivals (v : Samac) : List Int :=
  v.timerManager.timers_.filterMap Timer.arrival ++ v.satelliteRegistrationAckTimer.toList

/-- A self message arrives exactly when it was scheduled for. -/
def Arrives (v : Samac) (now : Int) : SamacMessage → Prop
  | .timerMessage id => (v.timerManager.find? id).bind Timer.arrival = some now
  | .selfMessage kind =>
    kind = SATELLITE_REGISTRATION_ACK_TIMER ∧ v.satelliteRegistrationAckTimer = some now
  | .lowerLayerIn _ | .upperLayerIn _ | .unknown => True

instance (v : Samac) (now : Int) (message : SamacMessage) :
    Decidable (v.Arrives now message) :=
  match message with
  | .timerMessage _ => inferInstanceAs (Decidable (_ = _))
  | .selfMessage _ => inferInstanceAs (Decidable (_ ∧ _))
  | .lowerLayerIn _ | .upperLayerIn _ | .unknown => isTrue trivial

/-- No event overtakes a self message that is scheduled. -/
def Due (v : Samac) (event : SamacEvent) : Prop :=
  (∀ time ∈ v.arrivals, event.now ≤ time) ∧ v.Arrives event.now event.message

instance (v : Samac) (event : SamacEvent) : Decidable (v.Due event) :=
  inferInstanceAs (Decidable (_ ∧ _))

def Step (v : Samac) (event : SamacEvent) (v' : Samac) : Prop :=
  v.Due event ∧
    (v.arrive event.message).handleMessageWhenUp event.now event.rng event.message = .ok v'

/-- The step, computed. -/
def step? (v : Samac) (event : SamacEvent) : Option Samac :=
  if v.Due event then
    ((v.arrive event.message).handleMessageWhenUp event.now event.rng event.message).toOption
  else none

theorem step_of_step? {v v' : Samac} {event : SamacEvent} (h : v.step? event = some v') :
    Step v event v' := by
  unfold step? at h
  split at h
  · rename_i hdue
    refine ⟨hdue, ?_⟩
    cases hresult : (v.arrive event.message).handleMessageWhenUp event.now event.rng
        event.message with
    | error e => simp [hresult, Except.toOption] at h
    | ok w =>
      rw [hresult] at h
      obtain rfl : w = v' := by simpa [Except.toOption] using h
      rfl
  · cases h

/-! The states that successful handlers leave. -/

/-- A timer that fires once at `time` has been created. -/
def withTimer (callback : Callback) (time : Int) (name : String) (v : Samac) : Samac :=
  { v with timerManager := v.timerManager.insert name (.oneshot callback time) (some time) }

def afterRegistration (now : Int) (v : Samac) : Samac :=
  let expected := now + 2 * v.currentSatelliteLatency + v.maxSatelliteProcDelay_s
  { v with
    expectedAck_Timestamp := expected
    sentDown := v.sentDown ++ [⟨v.address⟩]
    vehicleStatistics := v.vehicleStatistics ++
      [.sendSatelliteRegistrationMessages, .sendSatellitePackets]
    satelliteRegistrationAckTimer := some expected }

/-- A schedule has been processed: its transmission is planned for `time` and the next
registration for `registration`. -/
def afterWlanSchedule (now : Int) (macAddressInd : MacAddress)
    (ws : SpaceVeinsWlanScheduleMessage) (time registration : Int) (v : Samac) : Samac :=
  let v := { v with leoSatelliteMacAddress := macAddressInd }
  let v := v.withTimer .scheduleWlanTransmissionCallback time "scheduleWlanTransmissionCallback"
  let v := v.readWlanSchedule now ws
  let v := v.withTimer .satelliteRegistrationCallback registration "satelliteRegistrationCallback"
  { v with receivedInitialWlanSchedule := true }.record
    [.receivedWlanSchedules, .receivedSatellitePackets]

theorem createTimer_eq_ok {now time : Int} {callback : Callback} {name : String} {v v' : Samac} :
    v.createTimer now callback time name = .ok v' ↔
      now ≤ time ∧ v' = v.withTimer callback time name := by
  simp only [createTimer, bind_eq_ok, TimerManager.createOneshotAt_eq_ok, pure, Except.pure,
    Except.ok.injEq]
  constructor
  · rintro ⟨tm, ⟨hle, rfl⟩, rfl⟩
    exact ⟨hle, rfl⟩
  · rintro ⟨hle, rfl⟩
    exact ⟨_, ⟨hle, rfl⟩, rfl⟩

theorem registerAtSatellite_eq_ok {now : Int} {v v' : Samac} :
    registerAtSatellite now v = .ok v' ↔
      v.addUdpHeader = .ok () ∧
        now ≤ now + 2 * v.currentSatelliteLatency + v.maxSatelliteProcDelay_s ∧
        v.satelliteRegistrationAckTimer = none ∧ v' = v.afterRegistration now := by
  have hheader : ∀ t : Int, addUdpHeader { v with expectedAck_Timestamp := t } = v.addUdpHeader :=
    fun _ => rfl
  simp only [registerAtSatellite, bind_eq_ok, hheader, scheduleAt_eq_ok, pure, Except.pure,
    Except.ok.injEq]
  constructor
  · rintro ⟨_, hudp, timer, ⟨hle, hnone, rfl⟩, rfl⟩
    refine ⟨hudp, hle, hnone, ?_⟩
    simp [afterRegistration, sendSatellitePacket, record]
  · rintro ⟨hudp, hle, hnone, rfl⟩
    refine ⟨(), hudp, _, ⟨hle, hnone, rfl⟩, ?_⟩
    simp [afterRegistration, sendSatellitePacket, record]

theorem doPacketInjection_ok {v v' : Samac} (h : v.doPacketInjection = .ok v') :
    ∃ pendingQueue inProgressFrames frame, v' = { v with
      pendingQueue := pendingQueue
      inProgressFrames := inProgressFrames
      sentDirect := v.sentDirect ++ [frame] } := by
  obtain ⟨⟨packet, queue⟩, _, h⟩ := bind_eq_ok.mp h
  obtain ⟨⟨frame, frames⟩, _, h⟩ := bind_eq_ok.mp h
  exact ⟨queue, frames, frame, (Except.ok.inj h).symm⟩

theorem handleSelfMessage_eq_ok {now : Int} {rng : Rng} {kind : Int} {v v' : Samac} :
    v.handleSelfMessage now rng kind = .ok v' ↔
      kind = SATELLITE_REGISTRATION_ACK_TIMER ∧ v.satelliteRegistrationAckTimer = none ∧
        v' = v := by
  by_cases hkind : kind = SATELLITE_REGISTRATION_ACK_TIMER
  · obtain ⟨spec, hspec, _, _⟩ := TimerSpecification.oneshotAt_new Callback.retryRegistration
      (rng.uniform now v.lastUsefulRegistrationTime)
    simp only [handleSelfMessage, hkind, if_true, bind_eq_ok, assert_eq_ok, hspec, true_and]
    by_cases hlate : now < v.lastUsefulRegistrationTime
    · simp [hlate, pure, Except.pure, bind, Except.bind, eq_comm (a := v')]
    · simp [hlate, pure, Except.pure, eq_comm (a := v')]
  · simp [handleSelfMessage, hkind, throw, throwThe, MonadExceptOf.throw]

theorem scheduleWlanTransmission_eq_ok {now begin : Int} {rng : Rng} {ws : WlanSchedule}
    {v v' : Samac} :
    v.scheduleWlanTransmission now rng ws begin = .ok v' ↔
      ∃ time, v.transmissionTime rng ws begin = .ok time ∧ now ≤ time ∧
        v' = v.withTimer .scheduleWlanTransmissionCallback time
          "scheduleWlanTransmissionCallback" := by
  simp only [scheduleWlanTransmission, bind_eq_ok, createTimer_eq_ok]

theorem transmissionTime_congr (rng : Rng) (ws : WlanSchedule) (begin : Int) {v w : Samac}
    (h : v.address = w.address) :
    v.transmissionTime rng ws begin = w.transmissionTime rng ws begin := by
  unfold transmissionTime
  rw [h]

theorem recordMissedAcks_eq (v : Samac) :
    v.recordMissedAcks = v.record
      (if !v.registeredAtSatellite && v.receivedInitialWlanSchedule then
        [.missedSatelliteRegistrationAcks] else []) := by
  unfold recordMissedAcks
  split
  · rfl
  · simp [record]

theorem readWlanSchedule_lastUseful (now : Int) (ws : SpaceVeinsWlanScheduleMessage) (v : Samac) :
    (v.readWlanSchedule now ws).lastUsefulRegistrationTime =
      ws.transmitTimestamp + ws.wlanScheduleInterval -
        (2 * (now - ws.transmitTimestamp) + v.maxSatelliteProcDelay_s) := by
  simp only [readWlanSchedule, recordMissedAcks_eq, record]

theorem processWlanSchedule_eq_ok {now : Int} {rng : Rng} {macAddressInd : MacAddress}
    {ws : SpaceVeinsWlanScheduleMessage} {v v' : Samac} :
    v.processWlanSchedule now rng macAddressInd ws = .ok v' ↔
      ∃ time, v.transmissionTime rng ws.wlanSchedule ws.wlanScheduleBeginTimestamp = .ok time ∧
        now ≤ time ∧
        now ≤ rng.uniform now (v.readWlanSchedule now ws).lastUsefulRegistrationTime ∧
        v' = v.afterWlanSchedule now macAddressInd ws time
          (rng.uniform now (v.readWlanSchedule now ws).lastUsefulRegistrationTime) := by
  have hfinish : ∀ w : Samac,
      (if !w.receivedInitialWlanSchedule then { w with receivedInitialWlanSchedule := true }
        else w) = { w with receivedInitialWlanSchedule := true } := by
    intro w
    cases hw : w.receivedInitialWlanSchedule
    · simp
    · cases w
      simp_all
  have hlast : ∀ time, ((withTimer .scheduleWlanTransmissionCallback time
        "scheduleWlanTransmissionCallback" { v with leoSatelliteMacAddress := macAddressInd }
          ).readWlanSchedule now ws).lastUsefulRegistrationTime =
      (v.readWlanSchedule now ws).lastUsefulRegistrationTime := by
    intro time
    simp only [readWlanSchedule_lastUseful, withTimer]
  have htime := transmissionTime_congr rng ws.wlanSchedule ws.wlanScheduleBeginTimestamp
    (v := { v with leoSatelliteMacAddress := macAddressInd }) (w := v) rfl
  simp only [processWlanSchedule, handleWlanSchedule, bind_eq_ok, scheduleWlanTransmission_eq_ok,
    createTimer_eq_ok, hfinish, htime, pure, Except.pure, Except.ok.injEq]
  constructor
  · rintro ⟨_, ⟨_, ⟨time, ht, hle, rfl⟩, hreg, rfl⟩, rfl⟩
    rw [hlast] at hreg ⊢
    exact ⟨time, ht, hle, hreg, rfl⟩
  · rintro ⟨time, ht, hle, hreg, rfl⟩
    refine ⟨_, ⟨_, ⟨time, ht, hle, rfl⟩, ?_, rfl⟩, ?_⟩
    · rwa [hlast]
    · rw [hlast]
      rfl

/-- The callbacks that call `registerAtSatellite`. -/
def Callback.registers : Callback → Bool
  | .satelliteRegistrationCallback => true
  | .scheduleWlanTransmissionCallback => false
  | .retryRegistration => true

theorem runCallback_ok {now : Int} {callback : Callback} {v v' : Samac}
    (h : runCallback now callback v = .ok v') :
    (Callback.registers callback = true ∧ v.satelliteRegistrationAckTimer = none ∧
      ∃ start, v' = afterRegistration now { v with startRegistrationTimestamp := start }) ∨
    (Callback.registers callback = false ∧ ∃ pendingQueue inProgressFrames sentDirect, v' = { v with
      pendingQueue := pendingQueue
      inProgressFrames := inProgressFrames
      sentDirect := sentDirect }) := by
  cases callback with
  | satelliteRegistrationCallback =>
    obtain ⟨_, _, hnone, rfl⟩ := registerAtSatellite_eq_ok.mp h
    exact Or.inl ⟨rfl, hnone, now, rfl⟩
  | retryRegistration =>
    obtain ⟨_, _, hnone, rfl⟩ := registerAtSatellite_eq_ok.mp h
    exact Or.inl ⟨rfl, hnone, v.startRegistrationTimestamp, rfl⟩
  | scheduleWlanTransmissionCallback =>
    refine Or.inr ⟨rfl, ?_⟩
    simp only [runCallback] at h
    split at h
    · obtain ⟨queue, frames, frame, rfl⟩ := doPacketInjection_ok h
      exact ⟨queue, frames, v.sentDirect ++ [frame], rfl⟩
    · obtain rfl := Except.ok.inj h
      exact ⟨v.pendingQueue, v.inProgressFrames, v.sentDirect, rfl⟩

theorem runCallback_timerManager {now : Int} {callback : Callback} {v v' : Samac}
    (h : runCallback now callback v = .ok v') : v'.timerManager = v.timerManager := by
  obtain ⟨_, _, _, rfl⟩ | ⟨_, _, _, _, rfl⟩ := runCallback_ok h <;> rfl

/-- What one event can do. The event set holds one-shot timers only. -/
inductive Effect (v : Samac) (event : SamacEvent) : Samac → Prop where
  /-- A registration callback fires and `registerAtSatellite` is entered. -/
  | registration {id : Nat} {timer : Timer Callback} (start : Int) :
      event.message = .timerMessage id → v.timerManager.find? id = some timer →
      Callback.registers timer.spec.callback_ = true →
      timer.spec = .oneshot timer.spec.callback_ event.now →
      v.satelliteRegistrationAckTimer = none →
      Effect v event { afterRegistration event.now { v with startRegistrationTimestamp := start }
        with timerManager := v.timerManager.erase id }
  /-- A transmission callback fires. -/
  | transmission {id : Nat} {timer : Timer Callback} (pendingQueue : PacketQueue)
      (inProgressFrames sentDirect : List Packet) :
      event.message = .timerMessage id → v.timerManager.find? id = some timer →
      Callback.registers timer.spec.callback_ = false →
      Effect v event { v with
        timerManager := v.timerManager.erase id
        pendingQueue := pendingQueue
        inProgressFrames := inProgressFrames
        sentDirect := sentDirect }
  | ackTimer :
      event.message = .selfMessage SATELLITE_REGISTRATION_ACK_TIMER →
      v.satelliteRegistrationAckTimer = some event.now →
      Effect v event { v with satelliteRegistrationAckTimer := none }
  | leoAck {macAddressInd : MacAddress} {ack : SpaceVeinsSatelliteAck} :
      event.message = .lowerLayerIn ⟨macAddressInd, .ack ack⟩ →
      Effect v event (v.processLeoAck ack)
  | wlanSchedule {macAddressInd : MacAddress} {ws : SpaceVeinsWlanScheduleMessage}
      {time registration : Int} :
      event.message = .lowerLayerIn ⟨macAddressInd, .wlanSchedule ws⟩ →
      v.transmissionTime event.rng ws.wlanSchedule ws.wlanScheduleBeginTimestamp = .ok time →
      event.now ≤ time →
      registration = event.rng.uniform event.now
        (v.readWlanSchedule event.now ws).lastUsefulRegistrationTime →
      event.now ≤ registration →
      Effect v event (v.afterWlanSchedule event.now macAddressInd ws time registration)
  | otherPacket {macAddressInd : MacAddress} :
      event.message = .lowerLayerIn ⟨macAddressInd, .other⟩ → Effect v event v
  | upperPacket {packet : Packet} :
      event.message = .upperLayerIn packet → Effect v event (v.handleUpperPacket packet)

theorem timer_step {v v' : Samac} {event : SamacEvent} {id : Nat}
    (hshot : v.timerManager.AllOneshot) (hmsg : event.message = .timerMessage id)
    (h : Step v event v') :
    ∃ timer w, v.timerManager.find? id = some timer ∧
      timer.spec = .oneshot timer.spec.callback_ event.now ∧
      runCallback event.now timer.spec.callback_ (v.arrive (.timerMessage id)) = .ok w ∧
      v' = { w with timerManager := v.timerManager.erase id } := by
  obtain ⟨⟨_, hdue⟩, hstep⟩ := h
  rw [hmsg] at hdue hstep
  obtain ⟨timer, hfind, harrival⟩ := Option.bind_eq_some_iff.mp hdue
  obtain ⟨time, hspec, hat⟩ := hshot timer (TimerManager.find?_some hfind).1
  obtain rfl : event.now = time := Option.some.inj (harrival.symm.trans hat)
  obtain ⟨handled, hhandle, hstep⟩ := bind_eq_ok.mp hstep
  have hfind' := TimerManager.find?_setArrival hfind none
  have hspec' : ({ timer with arrival := none } : Timer Callback).spec =
      .oneshot timer.spec.callback_ event.now := hspec
  obtain ⟨_, w, hrun, rfl⟩ := (TimerManager.handleMessage_oneshot
    (s := v.arrive (.timerMessage id)) hfind' hspec'
    (fun _ hrun => runCallback_timerManager hrun)).mp hhandle
  obtain rfl := Except.ok.inj hstep
  have herase := TimerManager.erase_setArrival v.timerManager id none
  refine ⟨timer, w, hfind, hspec, hrun, ?_⟩
  rw [← herase]
  rfl

theorem effect_of_timer {v v' : Samac} {event : SamacEvent} {id : Nat}
    (hshot : v.timerManager.AllOneshot) (hmsg : event.message = .timerMessage id)
    (h : Step v event v') : Effect v event v' := by
  obtain ⟨timer, w, hfind, hspec, hrun, rfl⟩ := timer_step hshot hmsg h
  obtain ⟨hreg, hnone, start, rfl⟩ | ⟨hreg, queue, frames, sent, rfl⟩ := runCallback_ok hrun
  · exact Effect.registration start hmsg hfind hreg hspec hnone
  · exact Effect.transmission queue frames sent hmsg hfind hreg

/-- Nothing but the listed effects can happen. -/
theorem step_effect {v v' : Samac} {event : SamacEvent} (hshot : v.timerManager.AllOneshot)
    (h : Step v event v') : Effect v event v' := by
  cases hmsg : event.message with
  | timerMessage id => exact effect_of_timer hshot hmsg h
  | selfMessage kind =>
    obtain ⟨⟨_, hdue⟩, hstep⟩ := h
    rw [hmsg] at hdue hstep
    obtain ⟨rfl, hat⟩ := hdue
    obtain ⟨_, _, rfl⟩ := handleSelfMessage_eq_ok.mp hstep
    exact .ackTimer hmsg hat
  | lowerLayerIn pk =>
    obtain ⟨_, hstep⟩ := h
    rw [hmsg] at hstep
    obtain ⟨mac, payload⟩ := pk
    cases payload with
    | ack ack =>
      obtain rfl := Except.ok.inj hstep
      exact .leoAck hmsg
    | wlanSchedule ws =>
      obtain ⟨time, htime, hle, hreg, rfl⟩ := processWlanSchedule_eq_ok.mp hstep
      exact .wlanSchedule hmsg htime hle rfl hreg
    | other =>
      obtain rfl := Except.ok.inj hstep
      exact .otherPacket hmsg
  | upperLayerIn packet =>
    obtain ⟨_, hstep⟩ := h
    rw [hmsg] at hstep
    obtain rfl := Except.ok.inj hstep
    exact .upperPacket hmsg
  | unknown =>
    obtain ⟨_, hstep⟩ := h
    rw [hmsg] at hstep
    cases hstep

end Samac
end SpaceVeins

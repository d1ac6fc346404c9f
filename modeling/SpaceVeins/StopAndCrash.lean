import SpaceVeins.OperationalBase
import SpaceVeins.SamacRegistration
import SpaceVeins.SamacSatelliteAppl

/-!
# Stopping and crashing SAMAC and the satellite application

Neither module cancels a timer when it is stopped or crashes. A timer that is
still scheduled then reaches a module that is down, which is an error, or is found
scheduled by the next start.
-/

set_option autoImplicit false

namespace SpaceVeins
open Runs

/-- SAMAC with what `MacProtocolBase` keeps about it. -/
structure MacProtocol where
  samac : Samac
  currentTxFrame : Option Packet
  /-- `none` for the null pointer, which it stays for SAMAC. -/
  txQueue : Option (List Packet)
  interfaceUp : Bool
  carrier : Bool

namespace MacProtocol

def initial (samac : Samac) : MacProtocol := ⟨samac, none, none, false, false⟩

def handleStartOperation (v : MacProtocol) : MacProtocol :=
  { v with interfaceUp := true, carrier := true }

/-- `dropCurrentTxFrame` and `flushQueue`. -/
def handleStopOperation (v : MacProtocol) : MacProtocol :=
  { v with
    currentTxFrame := none
    txQueue := v.txQueue.map fun _ => []
    carrier := false
    interfaceUp := false }

/-- `deleteCurrentTxFrame` and `clearQueue`. -/
def handleCrashOperation (v : MacProtocol) : MacProtocol :=
  { v with
    currentTxFrame := none
    txQueue := v.txQueue.map fun _ => []
    carrier := false
    interfaceUp := false }

end MacProtocol

namespace Samac

def isSelfMessage : SamacMessage → Bool
  | .timerMessage _ | .selfMessage _ => true
  | _ => false

theorem arrives_scheduled {v : Samac} {now : Int} {message : SamacMessage}
    (hself : isSelfMessage message = true) (h : v.Arrives now message) : now ∈ v.arrivals := by
  cases message with
  | timerMessage id =>
    obtain ⟨timer, hfind, harrival⟩ := Option.bind_eq_some_iff.mp h
    exact List.mem_append_left _ (List.mem_filterMap.mpr
      ⟨timer, (TimerManager.find?_some hfind).1, harrival⟩)
  | selfMessage kind =>
    obtain ⟨_, htimer⟩ := h
    exact List.mem_append_right _ (by simp [htimer])
  | lowerLayerIn => cases hself
  | upperLayerIn => cases hself
  | unknown => cases hself

/-- SAMAC as a module with a lifecycle. A packet on `lowerLayerIn` is discarded while it is down. -/
def lifecycle : OperationalModule MacProtocol SamacEvent where
  typeName := "SAMAC"
  time event := event.now
  isSelfMessage event := isSelfMessage event.message
  arrivals v := v.samac.arrivals
  Due v event := v.samac.Due event
  arrive event v := { v with samac := v.samac.arrive event.message }
  handleMessageWhenUp event v := do
    let samac ← v.samac.handleMessageWhenUp event.now event.rng event.message
    pure { v with samac := samac }
  discards event :=
    match event.message with
    | .lowerLayerIn _ => true
    | _ => false
  handleStartOperation _ v := .ok v.handleStartOperation
  handleStopOperation v := .ok v.handleStopOperation
  handleCrashOperation v := .ok v.handleCrashOperation
  due_scheduled := by
    intro v event hself hdue
    exact arrives_scheduled hself hdue.2
  arrive_other := by
    intro v event hself
    cases hmessage : event.message with
    | timerMessage id => rw [hmessage] at hself; cases hself
    | selfMessage kind => rw [hmessage] at hself; cases hself
    | lowerLayerIn pk => rfl
    | upperLayerIn packet => rfl
    | unknown => rfl
  discards_other := by
    intro event hdiscards
    cases hmessage : event.message with
    | lowerLayerIn pk => rfl
    | timerMessage id => rw [hmessage] at hdiscards; cases hdiscards
    | selfMessage kind => rw [hmessage] at hdiscards; cases hdiscards
    | upperLayerIn packet => rfl
    | unknown => rfl

instance (v : MacProtocol) (event : SamacEvent) : Decidable (lifecycle.Due v event) :=
  inferInstanceAs (Decidable (v.samac.Due event))

theorem lifecycle_cancelsNothing : lifecycle.CancelsNothing where
  stop := by
    intro v v' h
    obtain rfl := Except.ok.inj h
    rfl
  crash := by
    intro v v' h
    obtain rfl := Except.ok.inj h
    rfl

end Samac

namespace SamacSatelliteAppl

def isSelfMessage : SatelliteMessage → Bool
  | .wlanScheduleTimer => true
  | .packet _ => false

/-- Returns true and does nothing. -/
def stopApplication (sat : SamacSatelliteAppl) : Bool × SamacSatelliteAppl := (true, sat)

def handleStopOperation (sat : SamacSatelliteAppl) : Except SimError SamacSatelliteAppl := do
  let (ok, sat) := sat.stopApplication
  assert "ok" ok
  pure sat

/-- The satellite application as a module with a lifecycle. -/
def lifecycle : OperationalModule SamacSatelliteAppl SatelliteEvent where
  typeName := "SamacSatelliteAppl"
  time event := event.now
  isSelfMessage event := isSelfMessage event.message
  arrivals sat := sat.wlanScheduleTimer.toList
  Due sat event := sat.Due event
  arrive event sat :=
    if isSelfMessage event.message then { sat with wlanScheduleTimer := none } else sat
  handleMessageWhenUp event sat := sat.handleMessageWhenUp event
  discards _ := false
  handleStartOperation now sat := sat.startApplication now
  handleStopOperation sat := sat.handleStopOperation
  -- only the socket is destroyed
  handleCrashOperation sat := .ok sat
  due_scheduled := by
    intro sat event hself hdue
    cases hmessage : event.message with
    | wlanScheduleTimer => simp [hdue.2 hmessage]
    | packet pk => rw [hmessage] at hself; cases hself
  arrive_other := by
    intro sat event hself
    simp [hself]
  discards_other := by
    intro event hdiscards
    cases hdiscards

instance (sat : SamacSatelliteAppl) (event : SatelliteEvent) :
    Decidable (lifecycle.Due sat event) :=
  inferInstanceAs (Decidable (sat.Due event))

theorem lifecycle_cancelsNothing : lifecycle.CancelsNothing where
  stop := by
    intro sat sat' h
    obtain rfl := Except.ok.inj h
    rfl
  crash := by
    intro sat sat' h
    obtain rfl := Except.ok.inj h
    rfl

/-- The application has its timer scheduled whenever it is up. -/
def TimerWhenUp (s : Operational SamacSatelliteAppl) : Prop :=
  s.operationalState = .OPERATING → s.own.wlanScheduleTimer ≠ none

theorem startApplication_ok {now : Int} {sat sat' : SamacSatelliteAppl}
    (h : sat.startApplication now = .ok sat') :
    sat.wlanScheduleTimer = none ∧ sat'.wlanScheduleTimer ≠ none := by
  obtain ⟨timer, htimer, hsat⟩ := bind_eq_ok.mp h
  obtain ⟨_, hnone, rfl⟩ := scheduleAt_eq_ok.mp htimer
  obtain rfl := Except.ok.inj hsat
  exact ⟨hnone, Option.some_ne_none _⟩

theorem startApplication_of_none {sat : SamacSatelliteAppl} (h : sat.wlanScheduleTimer = none)
    (now : Int) : sat.startApplication now ≠ .error .alreadyScheduled := by
  unfold startApplication scheduleTimer scheduleAt
  rw [h]
  by_cases hpast : now + sat.wlanScheduleInterval_s < now
  · simp [hpast, bind, Except.bind]
  · simp [hpast, bind, Except.bind, pure, Except.pure]

theorem timer_processPacket (pk : VehiclePayload) (sat : SamacSatelliteAppl) :
    (sat.processPacket pk).wlanScheduleTimer = sat.wlanScheduleTimer := by
  cases pk <;> rfl

theorem timerWhenUp_init {now : Int} {up : Bool} {own : SamacSatelliteAppl}
    {s : Operational SamacSatelliteAppl} (h : lifecycle.initModule now up own = .ok s) :
    TimerWhenUp s := by
  cases up with
  | true =>
    obtain ⟨started, hstart, hs⟩ := bind_eq_ok.mp h
    obtain rfl := Except.ok.inj hs
    exact fun _ => (startApplication_ok hstart).2
  | false =>
    obtain rfl := Except.ok.inj h
    intro hup
    cases hup

theorem timerWhenUp_step {s s' : Operational SamacSatelliteAppl}
    {event : LifecycleEvent SatelliteEvent} (hsettled : OperationalModule.Settled s)
    (htimer : TimerWhenUp s) (h : lifecycle.Step s event s') : TimerWhenUp s' := by
  cases OperationalModule.step_effect hsettled h with
  | @whenUp name e own hup hdue hown =>
    intro _
    have hown : handleMessageWhenUp e (lifecycle.arrive e s.own) = .ok own := hown
    unfold handleMessageWhenUp at hown
    cases hmessage : e.message with
    | wlanScheduleTimer =>
      rw [hmessage] at hown
      rw [handleSelfMessage_ok hown]
      exact Option.some_ne_none _
    | packet pk =>
      rw [hmessage] at hown
      obtain rfl := Except.ok.inj hown
      have hself : isSelfMessage e.message = false := by rw [hmessage]; rfl
      have harrive : lifecycle.arrive e s.own = s.own := lifecycle.arrive_other s.own e hself
      change (processPacket pk (lifecycle.arrive e s.own)).wlanScheduleTimer ≠ none
      rw [timer_processPacket, harrive]
      exact htimer hup
  | whenDown => exact htimer
  | start _ hown => exact fun _ => (startApplication_ok hown).2
  | takenDown =>
    intro hup
    cases hup

theorem takenDownIdle_iff {s s' : Operational SamacSatelliteAppl}
    {event : LifecycleEvent SatelliteEvent} (htimer : TimerWhenUp s)
    (h : lifecycle.Step s event s') :
    lifecycle.TakenDownIdle s event ↔ event.takesDown = false := by
  constructor
  · intro hidle
    by_contra htakes
    have htakes : event.takesDown = true := by simpa using htakes
    have hup : s.operationalState = .OPERATING := by
      cases event with
      | message => cases htakes
      | operation now operation =>
        cases operation with
        | ModuleStartOperation => cases htakes
        | ModuleStopOperation => exact h.1.2
        | ModuleCrashOperation => exact h.1.2
    have hnone : s.own.wlanScheduleTimer = none := by
      simpa [lifecycle] using hidle htakes
    exact htimer hup hnone
  · intro hkeeps htakes
    rw [hkeeps] at htakes
    cases htakes

end SamacSatelliteAppl

section Lifecycle
variable {address : MacAddress} {delay : Int} {multicast : Option UInt32} {port : Int}
  {queue : PacketQueue}
  {encapsulate : Packet → List Packet → Except SimError (Packet × List Packet)}
  {wlanSlot : ℚ} {interval maxLatency : Int} {now : Int} {up : Bool}
  {s t : Operational MacProtocol}
  {path : List (Operational MacProtocol × LifecycleEvent SamacEvent × Operational MacProtocol)}
  {s' t' : Operational SamacSatelliteAppl}
  {path' : List (Operational SamacSatelliteAppl × LifecycleEvent SatelliteEvent ×
    Operational SamacSatelliteAppl)}

/-- A run of the satellite application leaves no timer behind exactly if nothing takes the
application down. -/
theorem satellite_idleWhenDown_iff
    (hinit : SamacSatelliteAppl.lifecycle.initModule now up
      (.initial wlanSlot interval maxLatency) = .ok s')
    (hrun : Run SamacSatelliteAppl.lifecycle.Step s' path' t') :
    (∀ a event b, (a, event, b) ∈ path' → SamacSatelliteAppl.lifecycle.IdleWhenDown b) ↔
      ∀ a event b, (a, event, b) ∈ path' → event.takesDown = false := by
  rw [OperationalModule.idleWhenDown_iff rfl hinit hrun
    SamacSatelliteAppl.lifecycle_cancelsNothing]
  have hstart : OperationalModule.Settled s' ∧ SamacSatelliteAppl.TimerWhenUp s' :=
    ⟨(OperationalModule.settled_of_init hinit rfl).1,
      SamacSatelliteAppl.timerWhenUp_init hinit⟩
  have hbefore : ∀ {a event b}, (a, event, b) ∈ path' → SamacSatelliteAppl.TimerWhenUp a := by
    intro a event b hmem
    have hboth := hrun.invariant_of_mem
      (P := fun s => OperationalModule.Settled s ∧ SamacSatelliteAppl.TimerWhenUp s) hstart
      (fun _ _ _ h hstep => ⟨OperationalModule.settled_step h.1 hstep,
        SamacSatelliteAppl.timerWhenUp_step h.1 h.2 hstep⟩) hmem
    exact hboth.1.2
  constructor
  · intro hidle a event b hmem
    exact (SamacSatelliteAppl.takenDownIdle_iff (hbefore hmem) (hrun.step_of_mem hmem)).mp
      (hidle a event b hmem)
  · intro hkeeps a event b hmem
    exact (SamacSatelliteAppl.takenDownIdle_iff (hbefore hmem) (hrun.step_of_mem hmem)).mpr
      (hkeeps a event b hmem)

/-- The runs of SAMAC that leave no timer behind are those whose operations take it down only
while no timer is scheduled, and the runs of the satellite application that leave none behind
are those without such operations. In these runs no self message finds the module down, and no
start finds a timer scheduled. -/
theorem no_timer_left_iff
    (hinit : Samac.lifecycle.initModule now up (.initial
      (.initial address delay multicast port queue encapsulate)) = .ok s)
    (hrun : Run Samac.lifecycle.Step s path t)
    (hinit' : SamacSatelliteAppl.lifecycle.initModule now up
      (.initial wlanSlot interval maxLatency) = .ok s')
    (hrun' : Run SamacSatelliteAppl.lifecycle.Step s' path' t') :
    (((∀ a event b, (a, event, b) ∈ path → Samac.lifecycle.IdleWhenDown b) ↔
        ∀ a event b, (a, event, b) ∈ path → Samac.lifecycle.TakenDownIdle a event) ∧
      ((∀ a event b, (a, event, b) ∈ path → Samac.lifecycle.TakenDownIdle a event) →
        t.operationalState = .NOT_OPERATING →
          (∀ event, Samac.isSelfMessage event.message = true → ¬ t.own.samac.Due event) ∧
          ∀ now, Samac.lifecycle.handleStartOperation now t.own ≠ .error .alreadyScheduled)) ∧
    (((∀ a event b, (a, event, b) ∈ path' → SamacSatelliteAppl.lifecycle.IdleWhenDown b) ↔
        ∀ a event b, (a, event, b) ∈ path' → event.takesDown = false) ∧
      ((∀ a event b, (a, event, b) ∈ path' → event.takesDown = false) →
        t'.operationalState = .NOT_OPERATING →
          (∀ event, SamacSatelliteAppl.isSelfMessage event.message = true → ¬ t'.own.Due event) ∧
          ∀ now, t'.own.startApplication now ≠ .error .alreadyScheduled)) := by
  refine ⟨⟨OperationalModule.idleWhenDown_iff rfl hinit hrun Samac.lifecycle_cancelsNothing, ?_⟩,
    satellite_idleWhenDown_iff hinit' hrun', ?_⟩
  · intro hguard hdown
    have hidle := OperationalModule.idleWhenDown_run rfl hinit hrun
      Samac.lifecycle_cancelsNothing hguard
    constructor
    · intro event hself
      exact OperationalModule.not_due_of_idle hidle hdown hself
    · intro now hstart
      cases hstart
  · intro hkeeps hdown
    have hguard : ∀ a event b, (a, event, b) ∈ path' →
        SamacSatelliteAppl.lifecycle.TakenDownIdle a event := by
      intro a event b hmem htakes
      rw [hkeeps a event b hmem] at htakes
      cases htakes
    have hidle := OperationalModule.idleWhenDown_run rfl hinit' hrun'
      SamacSatelliteAppl.lifecycle_cancelsNothing hguard
    constructor
    · intro event hself
      exact OperationalModule.not_due_of_idle hidle hdown hself
    · intro now hstart
      have hnone : t'.own.wlanScheduleTimer = none := by
        simpa [SamacSatelliteAppl.lifecycle] using hidle hdown
      exact SamacSatelliteAppl.startApplication_of_none hnone now hstart

end Lifecycle

def satelliteUp : Operational SamacSatelliteAppl :=
  ⟨.OPERATING, 0, { SamacSatelliteAppl.initialDefault with
    wlanScheduleTimer := some (SimTime.ofS 1) }⟩

theorem satelliteUp_init : SamacSatelliteAppl.lifecycle.initModule 0 true
    (.initial (1 / 1000) (SimTime.ofS 1) (SimTime.ofMs 5)) = .ok satelliteUp := rfl

def vehicleUp : Operational MacProtocol :=
  ⟨.OPERATING, 0, (MacProtocol.initial Samac.exampleVehicle).handleStartOperation⟩

/-- The vehicle is stopped when all timers of its first schedule have fired, and started again. -/
def stoppedWhenIdle : List (LifecycleEvent SamacEvent) :=
  [.message "SpaceVeinsWlanScheduleMessage" (Samac.scheduleAtMs 4 0 50 500),
    .message "scheduleWlanTransmissionCallback" (Samac.timerAtMs 55 0),
    .message "satelliteRegistrationCallback" (Samac.timerAtMs 500 1),
    .message "satelliteRegistrationAckTimer" (Samac.ackTimerAtMs 518),
    .operation (SimTime.ofMs 600) .ModuleStopOperation,
    .operation (SimTime.ofMs 700) .ModuleStartOperation,
    .operation (SimTime.ofMs 800) .ModuleCrashOperation]

theorem stoppedWhenIdle_isSome :
    (replay Samac.lifecycle.step? vehicleUp stoppedWhenIdle).isSome = true := by
  decide +kernel

/-- The satellite enters a registration and publishes its schedule. -/
def publishesOnce : List (LifecycleEvent SatelliteEvent) :=
  [.message "SpaceVeinsRegistrationMessage"
      ⟨SimTime.ofMs 500, .packet (.registration ⟨.ofBits 7⟩)⟩,
    .message "wlanScheduleTimer" ⟨SimTime.ofS 1, .wlanScheduleTimer⟩]

theorem publishesOnce_isSome :
    (replay SamacSatelliteAppl.lifecycle.step? satelliteUp publishesOnce).isSome = true := by
  decide +kernel

theorem no_timer_left_stopped : ∃ path t path' t',
    Run Samac.lifecycle.Step vehicleUp path t ∧ path.length = 7 ∧
      t.operationalState = .NOT_OPERATING ∧ t.own.samac.sentDown.length = 1 ∧
      Run SamacSatelliteAppl.lifecycle.Step satelliteUp path' t' ∧ t'.own.sent.length = 2 ∧
      (∀ a event b, (a, event, b) ∈ path → Samac.lifecycle.IdleWhenDown b) ∧
      (∀ event, Samac.isSelfMessage event.message = true → ¬ t.own.samac.Due event) ∧
      ∀ a event b, (a, event, b) ∈ path' → SamacSatelliteAppl.lifecycle.IdleWhenDown b := by
  have hvehicle : Samac.lifecycle.initModule 0 true (.initial Samac.exampleVehicle) =
      .ok vehicleUp := rfl
  have hrun := run_of_replay_get (fun _ _ _ => OperationalModule.step_of_step? _)
    stoppedWhenIdle_isSome
  have hrun' := run_of_replay_get (fun _ _ _ => OperationalModule.step_of_step? _)
    publishesOnce_isSome
  obtain ⟨⟨hidle, hdown⟩, hidle', _⟩ := no_timer_left_iff hvehicle hrun satelliteUp_init hrun'
  have htaken : ∀ step ∈ (Option.get _ stoppedWhenIdle_isSome).1,
      Samac.lifecycle.TakenDownIdle step.1 step.2.1 := by
    decide +kernel
  have hkept : ∀ step ∈ (Option.get _ publishesOnce_isSome).1, step.2.1.takesDown = false := by
    decide +kernel
  have hguard := fun a event b hm => htaken (a, event, b) hm
  exact ⟨_, _, _, _, hrun, by decide +kernel, by decide +kernel, by decide +kernel, hrun',
    by decide +kernel, hidle.mpr hguard, (hdown hguard (by decide +kernel)).1,
    hidle'.mpr fun a event b hm => hkept (a, event, b) hm⟩

/-- A satellite that is stopped before its first schedule is due. -/
def satelliteStopped : Operational SamacSatelliteAppl :=
  ⟨.NOT_OPERATING, SimTime.ofMs 500, satelliteUp.own⟩

/-- The timer stays scheduled: it reaches the module while it is down, and a start before that
finds it scheduled. -/
theorem satellite_timer_left :
    SamacSatelliteAppl.lifecycle.initModule 0 true .initialDefault = .ok satelliteUp ∧
      SamacSatelliteAppl.lifecycle.Step satelliteUp
        (.operation (SimTime.ofMs 500) .ModuleStopOperation) satelliteStopped ∧
      SamacSatelliteAppl.lifecycle.arrivals satelliteStopped.own = [SimTime.ofS 1] ∧
      SamacSatelliteAppl.lifecycle.CanHappen satelliteStopped
        (.message "wlanScheduleTimer" ⟨SimTime.ofS 1, .wlanScheduleTimer⟩) ∧
      SamacSatelliteAppl.lifecycle.handle satelliteStopped
          (.message "wlanScheduleTimer" ⟨SimTime.ofS 1, .wlanScheduleTimer⟩) =
        .error (.cRuntimeError
          "Self message 'wlanScheduleTimer' received when SamacSatelliteAppl is down") ∧
      SamacSatelliteAppl.lifecycle.CanHappen satelliteStopped
        (.operation (SimTime.ofMs 700) .ModuleStartOperation) ∧
      SamacSatelliteAppl.lifecycle.handle satelliteStopped
          (.operation (SimTime.ofMs 700) .ModuleStartOperation) =
        .error .alreadyScheduled := by
  have hscheduled : ∀ {t : Int}, t ≤ SimTime.ofS 1 →
      ∀ time ∈ SamacSatelliteAppl.lifecycle.arrivals satelliteStopped.own, t ≤ time := by
    intro t hle time htime
    rwa [List.mem_singleton.mp htime]
  refine ⟨satelliteUp_init, ⟨⟨hscheduled (by decide), rfl⟩, rfl⟩, rfl, ⟨?_, fun _ => rfl⟩, rfl,
    ⟨hscheduled (by decide), rfl⟩, rfl⟩
  intro time htime
  exact hscheduled le_rfl time (Option.mem_toList.mpr htime)

end SpaceVeins

import SpaceVeins.SamacSteps

/-!
# The registration process of a vehicle

A registration attempt is pending while a timer waits to call
`registerAtSatellite`; the process goes on while the acknowledgement timer runs.
For every run of the module: when at most one process is under way, and what
becomes of it when the acknowledgement timer expires.
-/

set_option autoImplicit false

namespace SpaceVeins
open Runs

namespace Samac

/-- The times of the pending attempts to register. -/
def attempts (v : Samac) : List Int := v.timerManager.pending Callback.registers

/-- The pending `satelliteRegistrationCallback` timers, and one for the acknowledgement timer. -/
def registrationProcesses (v : Samac) : Nat :=
  (v.timerManager.pending fun callback =>
      decide (callback = .satelliteRegistrationCallback)).length +
    if v.satelliteRegistrationAckTimer.isSome then 1 else 0

/-- All timers fire once, and none of them was created by the acknowledgement timer. -/
structure Orderly (v : Samac) : Prop where
  oneshot : v.timerManager.AllOneshot
  no_retry : ∀ t ∈ v.timerManager.timers_, t.spec.callback_ ≠ .retryRegistration

theorem orderly_withTimer {v : Samac} (h : v.Orderly) (callback : Callback)
    (hcallback : callback ≠ .retryRegistration) (time : Int) (name : String) :
    (v.withTimer callback time name).Orderly := by
  refine ⟨TimerManager.allOneshot_insert h.oneshot name callback time, ?_⟩
  intro t ht
  rcases List.mem_append.mp ht with ht | ht
  · exact h.no_retry t ht
  · rw [List.mem_singleton.mp ht]
    exact hcallback

theorem orderly_of_erase {v v' : Samac} (h : v.Orderly) {id : Nat}
    (herase : v'.timerManager = v.timerManager.erase id) : v'.Orderly := by
  refine ⟨?_, ?_⟩
  · rw [herase]
    exact TimerManager.allOneshot_erase h.oneshot id
  · rw [herase]
    exact fun t ht => h.no_retry t (List.mem_of_mem_filter ht)

theorem orderly_of_eq {v v' : Samac} (h : v.Orderly) (heq : v'.timerManager = v.timerManager) :
    v'.Orderly := ⟨heq ▸ h.oneshot, heq ▸ h.no_retry⟩

theorem timerManager_readWlanSchedule (now : Int) (ws : SpaceVeinsWlanScheduleMessage)
    (v : Samac) : (v.readWlanSchedule now ws).timerManager = v.timerManager := by
  simp only [readWlanSchedule, recordMissedAcks_eq, record]

theorem timerManager_processLeoAck (ack : SpaceVeinsSatelliteAck) (v : Samac) :
    (v.processLeoAck ack).timerManager = v.timerManager ∧
      (v.processLeoAck ack).satelliteRegistrationAckTimer = v.satelliteRegistrationAckTimer := by
  unfold processLeoAck
  split <;> exact ⟨rfl, rfl⟩

theorem timerManager_handleUpperPacket (packet : Packet) (v : Samac) :
    (v.handleUpperPacket packet).timerManager = v.timerManager ∧
      (v.handleUpperPacket packet).satelliteRegistrationAckTimer =
        v.satelliteRegistrationAckTimer ∧
      (v.handleUpperPacket packet).registeredAtSatellite = v.registeredAtSatellite := by
  unfold handleUpperPacket
  split <;> exact ⟨rfl, rfl, rfl⟩

theorem timerManager_afterWlanSchedule (now : Int) (macAddressInd : MacAddress)
    (ws : SpaceVeinsWlanScheduleMessage) (time registration : Int) (v : Samac) :
    (v.afterWlanSchedule now macAddressInd ws time registration).timerManager =
      ((v.timerManager.insert "scheduleWlanTransmissionCallback"
          (.oneshot .scheduleWlanTransmissionCallback time) (some time)).insert
        "satelliteRegistrationCallback"
        (.oneshot .satelliteRegistrationCallback registration) (some registration)) := by
  simp only [afterWlanSchedule, record, withTimer, timerManager_readWlanSchedule]

theorem ackTimer_afterWlanSchedule (now : Int) (macAddressInd : MacAddress)
    (ws : SpaceVeinsWlanScheduleMessage) (time registration : Int) (v : Samac) :
    (v.afterWlanSchedule now macAddressInd ws time registration).satelliteRegistrationAckTimer =
        none ∧
      (v.afterWlanSchedule now macAddressInd ws time registration).registeredAtSatellite =
        false := ⟨rfl, rfl⟩

theorem orderly_initial (address : MacAddress) (delay : Int) (multicast : Option UInt32)
    (port : Int) (queue : PacketQueue)
    (encapsulate : Packet → List Packet → Except SimError (Packet × List Packet)) :
    (initial address delay multicast port queue encapsulate).Orderly :=
  ⟨TimerManager.allOneshot_empty, fun t ht => by cases ht⟩

theorem orderly_step {v v' : Samac} {event : SamacEvent} (h : v.Orderly)
    (hstep : Step v event v') : v'.Orderly := by
  cases step_effect h.oneshot hstep with
  | registration => exact orderly_of_erase h rfl
  | transmission => exact orderly_of_erase h rfl
  | ackTimer => exact orderly_of_eq h rfl
  | leoAck => exact orderly_of_eq h (timerManager_processLeoAck _ v).1
  | @wlanSchedule mac ws time registration =>
    have hfirst := orderly_withTimer h .scheduleWlanTransmissionCallback (by decide)
      time "scheduleWlanTransmissionCallback"
    have hboth := orderly_withTimer hfirst .satelliteRegistrationCallback (by decide)
      registration "satelliteRegistrationCallback"
    exact orderly_of_eq hboth (timerManager_afterWlanSchedule _ _ _ _ _ v)
  | otherPacket => exact h
  | upperPacket => exact orderly_of_eq h (timerManager_handleUpperPacket _ v).1

theorem attempts_eq {v : Samac} (h : v.Orderly) :
    v.attempts = v.timerManager.pending fun callback =>
      decide (callback = .satelliteRegistrationCallback) := by
  refine List.filterMap_congr fun t ht => ?_
  have hne := h.no_retry t ht
  cases hc : t.spec.callback_ with
  | retryRegistration => exact absurd hc hne
  | satelliteRegistrationCallback => rfl
  | scheduleWlanTransmissionCallback => rfl

theorem registrationProcesses_eq {v : Samac} (h : v.Orderly) :
    v.registrationProcesses =
      v.attempts.length + if v.satelliteRegistrationAckTimer.isSome then 1 else 0 := by
  rw [registrationProcesses, attempts_eq h]

/-! What the events do to the attempts. -/

theorem attempts_insert_two (v : Samac) (now : Int) (macAddressInd : MacAddress)
    (ws : SpaceVeinsWlanScheduleMessage) (time registration : Int) :
    (v.afterWlanSchedule now macAddressInd ws time registration).attempts =
      v.attempts ++ [registration] := by
  rw [attempts, timerManager_afterWlanSchedule, TimerManager.pending_insert,
    TimerManager.pending_insert]
  simp [Callback.registers, attempts]

theorem attempts_erase {v : Samac} (h : v.Orderly) {id : Nat} {timer : Timer Callback}
    (hfind : v.timerManager.find? id = some timer) :
    (Callback.registers timer.spec.callback_ = true ∧
      ((v.timerManager.erase id).pending Callback.registers).length + 1 = v.attempts.length) ∨
    (Callback.registers timer.spec.callback_ = false ∧
      (v.timerManager.erase id).pending Callback.registers = v.attempts) := by
  cases hreg : Callback.registers timer.spec.callback_ with
  | false => exact Or.inr ⟨rfl, TimerManager.pending_erase_of_not hfind hreg⟩
  | true =>
    obtain ⟨time, _, harrival⟩ := h.oneshot timer (TimerManager.find?_some hfind).1
    obtain ⟨before, after, hpending, herase⟩ :=
      TimerManager.pending_erase_of hfind hreg harrival
    refine Or.inl ⟨rfl, ?_⟩
    rw [attempts, hpending, herase]
    simp only [List.length_append, List.length_cons]
    omega

def isWlanSchedule : SamacMessage → Bool
  | .lowerLayerIn ⟨_, .wlanSchedule _⟩ => true
  | _ => false

/-- A schedule message finds no registration attempt pending. -/
def ScheduleWhenIdle (v : Samac) (event : SamacEvent) : Prop :=
  isWlanSchedule event.message = true → v.attempts = []

instance (v : Samac) (event : SamacEvent) : Decidable (v.ScheduleWhenIdle event) :=
  inferInstanceAs (Decidable (_ → _))

/-- A step out of a state with at most one process leads to such a state again, unless it is a
schedule that finds an attempt pending. -/
theorem registrationProcesses_step {v v' : Samac} {event : SamacEvent} (h : v.Orderly)
    (hone : v.registrationProcesses ≤ 1) (hstep : Step v event v') :
    v'.registrationProcesses ≤ 1 ↔ v.ScheduleWhenIdle event := by
  rw [registrationProcesses_eq h] at hone
  rw [registrationProcesses_eq (orderly_step h hstep)]
  cases step_effect h.oneshot hstep with
  | @registration id timer start hmsg hfind hreg _ hnone =>
    have hidle : v.ScheduleWhenIdle event := by simp [ScheduleWhenIdle, isWlanSchedule, hmsg]
    obtain ⟨_, hlen⟩ | ⟨hnot, _⟩ := attempts_erase h hfind
    · simp only [hnone, Option.isSome_none, Bool.false_eq_true, if_false] at hone
      simp only [attempts, afterRegistration, Option.isSome_some, if_true, hidle, iff_true]
      omega
    · rw [hreg] at hnot
      cases hnot
  | @transmission id timer _ _ _ hmsg hfind hreg =>
    have hidle : v.ScheduleWhenIdle event := by simp [ScheduleWhenIdle, isWlanSchedule, hmsg]
    obtain ⟨hyes, _⟩ | ⟨_, hsame⟩ := attempts_erase h hfind
    · rw [hreg] at hyes
      cases hyes
    · simpa only [attempts, hsame, hidle, iff_true] using hone
  | ackTimer hmsg _ =>
    have hidle : v.ScheduleWhenIdle event := by simp [ScheduleWhenIdle, isWlanSchedule, hmsg]
    simp only [hidle, iff_true, Option.isSome_none, Bool.false_eq_true, if_false]
    exact (Nat.le_add_right _ _).trans hone
  | @leoAck _ ack hmsg =>
    have hidle : v.ScheduleWhenIdle event := by simp [ScheduleWhenIdle, isWlanSchedule, hmsg]
    obtain ⟨htimers, hack⟩ := timerManager_processLeoAck ack v
    simpa only [attempts, htimers, hack, hidle, iff_true] using hone
  | @wlanSchedule mac ws time registration hmsg =>
    rw [attempts_insert_two, (ackTimer_afterWlanSchedule _ _ _ _ _ v).1]
    constructor
    · intro hle _
      simpa using hle
    · intro hidle
      simp [hidle (by rw [hmsg]; rfl)]
  | otherPacket hmsg =>
    have hidle : v.ScheduleWhenIdle event := by simp [ScheduleWhenIdle, isWlanSchedule, hmsg]
    simpa only [hidle, iff_true] using hone
  | @upperPacket packet hmsg =>
    have hidle : v.ScheduleWhenIdle event := by simp [ScheduleWhenIdle, isWlanSchedule, hmsg]
    obtain ⟨htimers, hack, _⟩ := timerManager_handleUpperPacket packet v
    simpa only [attempts, htimers, hack, hidle, iff_true] using hone

section Runs
variable {address : MacAddress} {delay : Int} {multicast : Option UInt32} {port : Int}
  {queue : PacketQueue}
  {encapsulate : Packet → List Packet → Except SimError (Packet × List Packet)}
  {path : List (Samac × SamacEvent × Samac)} {v : Samac}

theorem orderly_run (hrun : Run Step (initial address delay multicast port queue encapsulate)
    path v) : v.Orderly :=
  hrun.invariant (orderly_initial ..) fun _ _ _ => orderly_step

theorem registrationProcesses_run
    (hrun : Run Step (initial address delay multicast port queue encapsulate) path v)
    (hidle : ∀ a event b, (a, event, b) ∈ path → a.ScheduleWhenIdle event) :
    v.registrationProcesses ≤ 1 :=
  hrun.invariant_of_guard (I := Orderly) (G := ScheduleWhenIdle) (orderly_initial ..)
    (Nat.zero_le 1) (fun _ _ _ => orderly_step)
    (fun _ _ _ h hone hstep => (registrationProcesses_step h hone hstep).mpr) hidle

theorem ackTimer_none_of_attempt (h : v.Orderly) (hone : v.registrationProcesses ≤ 1)
    (hattempt : v.attempts ≠ []) : v.satelliteRegistrationAckTimer = none := by
  rw [registrationProcesses_eq h] at hone
  have hpos := List.length_pos_of_ne_nil hattempt
  cases htimer : v.satelliteRegistrationAckTimer with
  | none => rfl
  | some time =>
    simp only [htimer, Option.isSome_some, if_true] at hone
    omega

theorem attempts_ne_nil_of_find? (h : v.Orderly) {id : Nat} {timer : Timer Callback}
    (hfind : v.timerManager.find? id = some timer)
    (hreg : Callback.registers timer.spec.callback_ = true) : v.attempts ≠ [] := by
  obtain ⟨_, hlen⟩ | ⟨hnot, _⟩ := attempts_erase h hfind
  · intro hnil
    rw [hnil] at hlen
    cases hlen
  · rw [hreg] at hnot
    cases hnot

/-- The runs with at most one registration process in every state are the runs in which every
schedule finds no attempt pending. In them `registerAtSatellite` is entered only while the
acknowledgement timer is not scheduled. -/
theorem one_registration_process_iff
    (hrun : Run Step (initial address delay multicast port queue encapsulate) path v) :
    ((∀ a event b, (a, event, b) ∈ path → b.registrationProcesses ≤ 1) ↔
      ∀ a event b, (a, event, b) ∈ path → a.ScheduleWhenIdle event) ∧
    ((∀ a event b, (a, event, b) ∈ path → a.ScheduleWhenIdle event) →
      ∀ id timer, v.timerManager.find? id = some timer →
        timer.spec.callback_ = .satelliteRegistrationCallback →
        v.satelliteRegistrationAckTimer = none) := by
  constructor
  · exact hrun.visits_iff_guarded (I := Orderly) (P := fun v => v.registrationProcesses ≤ 1)
      (G := ScheduleWhenIdle) (orderly_initial ..) (Nat.zero_le 1)
      (fun _ _ _ => orderly_step) (fun _ _ _ => registrationProcesses_step)
  · intro hidle id timer hfind hcallback
    have horderly := orderly_run hrun
    exact ackTimer_none_of_attempt horderly (registrationProcesses_run hrun hidle)
      (attempts_ne_nil_of_find? horderly hfind (by rw [hcallback]; rfl))

end Runs

/-! Runs with given events. -/

/-- A vehicle with an unbounded queue, whose satellite answers within 10 ms. -/
def exampleVehicle : Samac :=
  initial (.ofBits 7) (SimTime.ofMs 10) (some 0xE0000001) 9001 ⟨[], -1, -1, []⟩
    fun packet frames => .ok (packet, frames)

/-- An empty schedule that was sent at `ms`, 5 ms before it begins, with an interval of 1 s. -/
def emptySchedule (ms : Int) : SpaceVeinsWlanScheduleMessage where
  wlanSchedule := ∅
  wlanScheduleBeginTimestamp := SimTime.ofMs (ms + 5)
  wlanScheduleInterval := SimTime.ofS 1
  transmitTimestamp := SimTime.ofMs ms
  chunkLength := 24

/-- `emptySchedule sent` arrives at `ms`; the draws are the slot and the time of registration. -/
def scheduleAtMs (ms sent slot registration : Int) : SamacEvent :=
  ⟨SimTime.ofMs ms, .drawing slot (SimTime.ofMs registration),
    .lowerLayerIn ⟨.ofBits 1, .wlanSchedule (emptySchedule sent)⟩⟩

def timerAtMs (ms : Int) (id : Nat) : SamacEvent :=
  ⟨SimTime.ofMs ms, .drawing 0 0, .timerMessage id⟩

def ackTimerAtMs (ms : Int) : SamacEvent :=
  ⟨SimTime.ofMs ms, .drawing 0 0, .selfMessage SATELLITE_REGISTRATION_ACK_TIMER⟩

/-- One schedule, its transmission, and the registration that follows it. -/
def oneSchedule : List SamacEvent :=
  [scheduleAtMs 4 0 50 500, timerAtMs 55 0, timerAtMs 500 1]

theorem oneSchedule_isSome : (replay step? exampleVehicle oneSchedule).isSome = true := by
  decide +kernel

theorem one_registration_process_single : ∃ path v,
    Run Step exampleVehicle path v ∧ path.length = 3 ∧
      v.satelliteRegistrationAckTimer = some (SimTime.ofMs 518) ∧
      ∀ a event b, (a, event, b) ∈ path → b.registrationProcesses ≤ 1 := by
  have hrun := run_of_replay_get (fun _ _ _ => step_of_step?) oneSchedule_isSome
  have hidle : ∀ step ∈ (Option.get _ oneSchedule_isSome).1,
      step.1.ScheduleWhenIdle step.2.1 := by
    decide +kernel
  exact ⟨_, _, hrun, by decide +kernel, by decide +kernel,
    (one_registration_process_iff hrun).1.mpr fun a event b hmem => hidle (a, event, b) hmem⟩

/-- Schedules of two satellites, both heard before the first attempt to register. -/
def twoSchedules : List SamacEvent :=
  [scheduleAtMs 4 0 50 500, scheduleAtMs 6 2 60 510, timerAtMs 55 0, timerAtMs 67 2,
    timerAtMs 500 1]

theorem twoSchedules_isSome : (replay step? exampleVehicle twoSchedules).isSome = true := by
  decide +kernel

/-- Both attempts stay pending, and the second one finds the acknowledgement timer scheduled. -/
theorem two_satellites_two_processes : ∃ path v,
    Run Step exampleVehicle path v ∧
      (∃ a event b, (a, event, b) ∈ path ∧ event.now = SimTime.ofMs 6 ∧
        b.registrationProcesses = 2) ∧
      v.Due (timerAtMs 510 3) ∧
      (v.arrive (.timerMessage 3)).handleMessageWhenUp (SimTime.ofMs 510) (.drawing 0 0)
        (.timerMessage 3) = .error .alreadyScheduled := by
  have hrun := run_of_replay_get (fun _ _ _ => step_of_step?) twoSchedules_isSome
  have htwo : ∃ step ∈ (Option.get _ twoSchedules_isSome).1, step.2.1.now = SimTime.ofMs 6 ∧
      step.2.2.registrationProcesses = 2 := by
    decide +kernel
  obtain ⟨⟨a, event, b⟩, hmem, hnow, hprocesses⟩ := htwo
  exact ⟨_, _, hrun, ⟨a, event, b, hmem, hnow, hprocesses⟩, by decide +kernel, rfl⟩

end Samac
end SpaceVeins

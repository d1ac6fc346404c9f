import SpaceVeins.SamacRegistration

/-!
# Lost and acknowledged registrations

When the acknowledgement timer expires, `handleSelfMessage` builds the
specification of a retry but hands it to no timer manager. So lost registrations
are retried and acknowledged ones are not in exactly those runs in which no retry
is needed and an acknowledgement leaves nothing to be called off.
-/

set_option autoImplicit false

namespace SpaceVeins
open Runs

namespace Samac

def isAckTimer : SamacMessage → Bool
  | .selfMessage _ => true
  | _ => false

/-- The message acknowledges this vehicle. -/
def isOwnAck (v : Samac) : SamacMessage → Bool
  | .lowerLayerIn ⟨_, .ack ack⟩ => decide (ack.acknowledgedVehicleId = v.address)
  | _ => false

/-- The message is the timer of an attempt to register. -/
def isAttempt (v : Samac) : SamacMessage → Bool
  | .timerMessage id =>
    (v.timerManager.find? id).any fun timer => Callback.registers timer.spec.callback_
  | _ => false

/-- Exactly the attempts that a vehicle needs after its acknowledgement timer has expired. -/
def Retries (now : Int) (v : Samac) (attempts : List Int) : Prop :=
  (v.registeredAtSatellite = false → now < v.lastUsefulRegistrationTime →
    ∃ time, attempts = [time] ∧ now ≤ time ∧ time ≤ v.lastUsefulRegistrationTime) ∧
  (v.registeredAtSatellite = true → attempts = [])

/-- The acknowledgement timer does not expire in a vehicle that could still register, unless
another schedule has left one attempt that is pending anyway. -/
def RetryNotNeeded (v : Samac) (event : SamacEvent) : Prop :=
  isAckTimer event.message = true → v.registeredAtSatellite = false →
    event.now < v.lastUsefulRegistrationTime →
      v.attempts.length = 1 ∧ ∀ time ∈ v.attempts, time ≤ v.lastUsefulRegistrationTime

/-- While an acknowledged vehicle has an attempt pending, neither this nor the acknowledgement
timer comes due. -/
def NothingToCallOff (v : Samac) (event : SamacEvent) : Prop :=
  v.registeredAtSatellite = true → v.attempts ≠ [] →
    isAckTimer event.message = false ∧ v.isAttempt event.message = false

instance (v : Samac) (event : SamacEvent) : Decidable (v.RetryNotNeeded event) :=
  inferInstanceAs (Decidable (_ → _))

instance (v : Samac) (event : SamacEvent) : Decidable (v.NothingToCallOff event) :=
  inferInstanceAs (Decidable (_ → _))

/-- The acknowledgement of this vehicle finds no registration attempt pending. -/
def AckWhenIdle (v : Samac) (event : SamacEvent) : Prop :=
  v.isOwnAck event.message = true → v.attempts = []

theorem attempts_ackTimer {v v' : Samac} {event : SamacEvent} (h : v.Orderly)
    (hstep : Step v event v') (hack : isAckTimer event.message = true) :
    v'.attempts = v.attempts ∧ v.satelliteRegistrationAckTimer = some event.now ∧
      v'.sentDown = v.sentDown := by
  cases step_effect h.oneshot hstep with
  | ackTimer _ hat => exact ⟨rfl, hat, rfl⟩
  | registration _ hmsg => simp [isAckTimer, hmsg] at hack
  | transmission _ _ _ hmsg => simp [isAckTimer, hmsg] at hack
  | leoAck hmsg => simp [isAckTimer, hmsg] at hack
  | wlanSchedule hmsg => simp [isAckTimer, hmsg] at hack
  | otherPacket hmsg => simp [isAckTimer, hmsg] at hack
  | upperPacket hmsg => simp [isAckTimer, hmsg] at hack

/-- An attempt that is pending is not due before now. -/
theorem le_of_mem_attempts {v : Samac} {event : SamacEvent} (hdue : v.Due event) {time : Int}
    (hmem : time ∈ v.attempts) : event.now ≤ time := by
  obtain ⟨timer, htimer, hpending⟩ := List.mem_filterMap.mp hmem
  have harrival : timer.arrival = some time := by
    split at hpending
    · exact hpending
    · cases hpending
  exact hdue.1 time (List.mem_append_left _ (List.mem_filterMap.mpr ⟨timer, htimer, harrival⟩))

/-- Registrations are sent by attempts that come due, and by nothing else. -/
theorem sentDown_ne_iff {v v' : Samac} {event : SamacEvent} (h : v.Orderly)
    (hstep : Step v event v') : v'.sentDown ≠ v.sentDown ↔ v.isAttempt event.message = true := by
  cases step_effect h.oneshot hstep with
  | registration _ hmsg hfind hreg =>
    simp [isAttempt, hmsg, hfind, hreg, afterRegistration]
  | transmission _ _ _ hmsg hfind hreg => simp [isAttempt, hmsg, hfind, hreg]
  | ackTimer hmsg => simp [isAttempt, hmsg]
  | @leoAck _ ack hmsg =>
    have hsent : (v.processLeoAck ack).sentDown = v.sentDown := by
      unfold processLeoAck
      split <;> rfl
    simp [isAttempt, hmsg, hsent]
  | wlanSchedule hmsg =>
    simp [isAttempt, hmsg, afterWlanSchedule, record, withTimer, readWlanSchedule,
      recordMissedAcks_eq]
  | otherPacket hmsg => simp [isAttempt, hmsg]
  | @upperPacket packet hmsg =>
    have hsent : (v.handleUpperPacket packet).sentDown = v.sentDown := by
      unfold handleUpperPacket
      split <;> rfl
    simp [isAttempt, hmsg, hsent]

theorem attempts_ne_nil_of_isAttempt {v : Samac} (h : v.Orderly) {message : SamacMessage}
    (hattempt : v.isAttempt message = true) : v.attempts ≠ [] := by
  cases message with
  | timerMessage id =>
    cases hfind : v.timerManager.find? id with
    | none => simp [isAttempt, hfind] at hattempt
    | some timer =>
      exact attempts_ne_nil_of_find? h hfind (by simpa [isAttempt, hfind] using hattempt)
  | selfMessage kind => cases hattempt
  | lowerLayerIn pk => cases hattempt
  | upperLayerIn packet => cases hattempt
  | unknown => cases hattempt

/-- What a step does for lost and acknowledged registrations. -/
theorem retries_step_iff {v v' : Samac} {event : SamacEvent} (h : v.Orderly)
    (hstep : Step v event v') :
    (isAckTimer event.message = true → v.Retries event.now v'.attempts) ∧
        (v'.sentDown ≠ v.sentDown → v.registeredAtSatellite = false) ↔
      v.RetryNotNeeded event ∧ v.NothingToCallOff event := by
  rw [sentDown_ne_iff h hstep]
  cases hack : isAckTimer event.message with
  | true =>
    -- An expiry creates no attempt, so those that are due were pending before.
    obtain ⟨hsame, _, hsent⟩ := attempts_ackTimer h hstep hack
    have hnot : v.isAttempt event.message = false := by
      rw [← Bool.not_eq_true]
      exact fun hattempt => (sentDown_ne_iff h hstep).mpr hattempt hsent
    simp only [hsame, hnot, Bool.false_eq_true, IsEmpty.forall_iff, and_true, forall_const,
      RetryNotNeeded, NothingToCallOff, hack, Retries, Bool.true_eq_false, imp_false, not_not]
    refine and_congr_left fun _ => forall₂_congr fun _ _ => ?_
    constructor
    · rintro ⟨time, htimes, _, hlast⟩
      rw [htimes]
      exact ⟨rfl, fun t ht => (List.mem_singleton.mp ht) ▸ hlast⟩
    · rintro ⟨hlength, hlast⟩
      obtain ⟨time, htimes⟩ := List.length_eq_one_iff.mp hlength
      have hmem : time ∈ v.attempts := htimes ▸ List.mem_singleton_self time
      exact ⟨time, htimes, le_of_mem_attempts hstep.1 hmem, hlast time hmem⟩
  | false =>
    simp only [Bool.false_eq_true, false_implies, true_and, RetryNotNeeded, NothingToCallOff, hack]
    constructor
    · intro hquiet hregistered _
      by_contra hattempt
      rw [Bool.not_eq_false] at hattempt
      rw [hquiet hattempt] at hregistered
      cases hregistered
    · intro hquiet hattempt
      by_contra hregistered
      rw [Bool.not_eq_false] at hregistered
      rw [hquiet hregistered (attempts_ne_nil_of_isAttempt h hattempt)] at hattempt
      cases hattempt

/-- An acknowledged vehicle has no attempt pending. -/
def Quiet (v : Samac) : Prop := v.registeredAtSatellite = true → v.attempts = []

theorem quiet_step {v v' : Samac} {event : SamacEvent} (h : v.Orderly) (hquiet : v.Quiet)
    (hstep : Step v event v') (hidle : v.AckWhenIdle event) : v'.Quiet := by
  cases step_effect h.oneshot hstep with
  | @registration id timer start _ hfind hreg =>
    intro hregistered
    exact absurd (hquiet hregistered) (attempts_ne_nil_of_find? h hfind hreg)
  | @transmission id timer _ _ _ _ hfind hreg =>
    intro hregistered
    obtain ⟨hyes, _⟩ | ⟨_, hsame⟩ := attempts_erase h hfind
    · rw [hreg] at hyes
      cases hyes
    · rw [attempts, hsame]
      exact hquiet hregistered
  | ackTimer => exact hquiet
  | @leoAck _ ack hmsg =>
    intro hregistered
    rw [attempts, (timerManager_processLeoAck ack v).1]
    by_cases hown : ack.acknowledgedVehicleId = v.address
    · exact hidle (by simp [isOwnAck, hmsg, hown])
    · simp only [processLeoAck, hown, if_false, record] at hregistered
      exact hquiet hregistered
  | wlanSchedule =>
    intro hregistered
    rw [(ackTimer_afterWlanSchedule _ _ _ _ _ v).2] at hregistered
    cases hregistered
  | otherPacket => exact hquiet
  | @upperPacket packet =>
    intro hregistered
    obtain ⟨htimers, _, hsame⟩ := timerManager_handleUpperPacket packet v
    rw [attempts, htimers]
    exact hquiet (hsame ▸ hregistered)

section Runs
variable {address : MacAddress} {delay : Int} {multicast : Option UInt32} {port : Int}
  {queue : PacketQueue}
  {encapsulate : Packet → List Packet → Except SimError (Packet × List Packet)}
  {path : List (Samac × SamacEvent × Samac)} {v : Samac}

theorem orderly_of_mem
    (hrun : Run Step (initial address delay multicast port queue encapsulate) path v)
    {a b : Samac} {event : SamacEvent} (hm : (a, event, b) ∈ path) : a.Orderly :=
  (hrun.invariant_of_mem (orderly_initial ..) (fun _ _ _ => orderly_step) hm).1

/-- Lost registrations are retried and acknowledged ones are not in exactly the runs in which no
expiry of the acknowledgement timer needs a retry, and in which no attempt of an acknowledged
vehicle would have to be called off. -/
theorem retries_iff
    (hrun : Run Step (initial address delay multicast port queue encapsulate) path v) :
    (∀ a event b, (a, event, b) ∈ path →
        (isAckTimer event.message = true → a.Retries event.now b.attempts) ∧
          (b.sentDown ≠ a.sentDown → a.registeredAtSatellite = false)) ↔
      ∀ a event b, (a, event, b) ∈ path → a.RetryNotNeeded event ∧ a.NothingToCallOff event :=
  forall₃_congr fun _ _ _ => forall_congr' fun hm =>
    retries_step_iff (orderly_of_mem hrun hm) (hrun.step_of_mem hm)

/-- Where schedules and acknowledgements find no attempt pending, these are the runs in which the
retry is never taken. -/
theorem retry_never_taken_iff
    (hrun : Run Step (initial address delay multicast port queue encapsulate) path v)
    (hschedules : ∀ a event b, (a, event, b) ∈ path → a.ScheduleWhenIdle event)
    (hacks : ∀ a event b, (a, event, b) ∈ path → a.AckWhenIdle event) :
    (∀ a event b, (a, event, b) ∈ path → a.RetryNotNeeded event ∧ a.NothingToCallOff event) ↔
      ∀ a event b, (a, event, b) ∈ path → isAckTimer event.message = true →
        a.registeredAtSatellite = true ∨ a.lastUsefulRegistrationTime ≤ event.now := by
  refine forall₃_congr fun a event b => forall_congr' fun hm => ?_
  have horderly := orderly_of_mem hrun hm
  obtain ⟨first, hearlier, hfirst, hstep⟩ := hrun.reached_of_mem hm
  have hone := registrationProcesses_run hfirst fun x e y hxy =>
    hschedules x e y (hearlier.subset hxy)
  have hquiet : a.Quiet := hfirst.invariant_of_guard (I := Orderly) (G := AckWhenIdle)
    (orderly_initial ..) (fun h => by cases h) (fun _ _ _ => orderly_step)
    (fun _ _ _ => quiet_step) fun x e y hxy => hacks x e y (hearlier.subset hxy)
  constructor
  · rintro ⟨hretry, _⟩ hack
    by_contra hneeded
    obtain ⟨hregistered, hlate⟩ := not_or.mp hneeded
    rw [Bool.not_eq_true] at hregistered
    obtain ⟨hlength, _⟩ := hretry hack hregistered (not_le.mp hlate)
    have hnone := ackTimer_none_of_attempt horderly hone
      (List.ne_nil_of_length_pos (hlength ▸ Nat.one_pos))
    rw [(attempts_ackTimer horderly hstep hack).2.1] at hnone
    cases hnone
  · intro hretry
    refine ⟨fun hack hregistered hlate => ?_, fun hregistered hpending => ?_⟩
    · rcases hretry hack with hyes | hle
      · rw [hyes] at hregistered
        cases hregistered
      · exact absurd hlate (not_lt.mpr hle)
    · exact absurd (hquiet hregistered) hpending

end Runs

def ackAtMs (ms : Int) : SamacEvent :=
  ⟨SimTime.ofMs ms, .drawing 0 0, .lowerLayerIn ⟨.ofBits 1, .ack ⟨.ofBits 7⟩⟩⟩

/-- The registration for the first of two schedules is lost, that for the second is acknowledged
before the timer expires. -/
def acknowledgedRegistration : List SamacEvent :=
  [scheduleAtMs 4 0 50 500, scheduleAtMs 6 2 60 800, timerAtMs 55 0, timerAtMs 67 2,
    timerAtMs 500 1, ackTimerAtMs 518, timerAtMs 800 3, ackAtMs 810, ackTimerAtMs 818]

theorem acknowledgedRegistration_isSome :
    (replay step? exampleVehicle acknowledgedRegistration).isSome = true := by
  decide +kernel

theorem retries_acknowledged : ∃ path v,
    Run Step exampleVehicle path v ∧ path.length = 9 ∧ v.sentDown.length = 2 ∧
      ∀ a event b, (a, event, b) ∈ path →
        (isAckTimer event.message = true → a.Retries event.now b.attempts) ∧
          (b.sentDown ≠ a.sentDown → a.registeredAtSatellite = false) := by
  have hrun := run_of_replay_get (fun _ _ _ => step_of_step?) acknowledgedRegistration_isSome
  have hsteps : ∀ step ∈ (Option.get _ acknowledgedRegistration_isSome).1,
      step.1.RetryNotNeeded step.2.1 ∧ step.1.NothingToCallOff step.2.1 := by
    decide +kernel
  exact ⟨_, _, hrun, by decide +kernel, by decide +kernel,
    (retries_iff hrun).mpr fun a event b hm => hsteps (a, event, b) hm⟩

def lostRegistration : List SamacEvent :=
  [scheduleAtMs 5 0 50 105, timerAtMs 55 0, timerAtMs 105 1, ackTimerAtMs 125]

theorem lostRegistration_isSome :
    (replay step? exampleVehicle lostRegistration).isSome = true := by
  decide +kernel

/-- The timer expires 855 ms before the last useful time, and no attempt is pending. -/
theorem lost_registration_not_retried : ∃ path v a event b,
    Run Step exampleVehicle path v ∧ (a, event, b) ∈ path ∧ isAckTimer event.message = true ∧
      event.now = SimTime.ofMs 125 ∧ a.registeredAtSatellite = false ∧
      a.lastUsefulRegistrationTime = SimTime.ofMs 980 ∧ b.attempts = [] ∧
      ¬ a.Retries event.now b.attempts := by
  have hrun := run_of_replay_get (fun _ _ _ => step_of_step?) lostRegistration_isSome
  have hlost : ∃ step ∈ (Option.get _ lostRegistration_isSome).1,
      isAckTimer step.2.1.message = true ∧ step.2.1.now = SimTime.ofMs 125 ∧
        step.1.registeredAtSatellite = false ∧
        step.1.lastUsefulRegistrationTime = SimTime.ofMs 980 ∧ step.2.2.attempts = [] := by
    decide +kernel
  obtain ⟨⟨a, event, b⟩, hmem, hack, hnow, hregistered, hlast, hnil⟩ := hlost
  refine ⟨_, _, a, event, b, hrun, hmem, hack, hnow, hregistered, hlast, hnil, ?_⟩
  rintro ⟨hretry, _⟩
  have hlate : event.now < a.lastUsefulRegistrationTime := by
    rw [show event.now = _ from hnow, show a.lastUsefulRegistrationTime = _ from hlast]
    decide
  obtain ⟨time, hone, _⟩ := hretry hregistered hlate
  rw [show b.attempts = [] from hnil] at hone
  cases hone

end Samac
end SpaceVeins

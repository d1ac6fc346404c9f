import SpaceVeins.SamacEncapsulate
import SpaceVeins.SamacRegistration
import SpaceVeins.Shared.Interleaving

/-!
# The way of a packet through SAMAC

Packets that arrive after the first schedule enter the pending queue, and the
transmission timers of later schedules take them out one by one. For every run:
the packets injected and those still waiting are, in this order, the packets
accepted except for those that the queue dropped at its tail.
-/

set_option autoImplicit false

namespace SpaceVeins
open Runs Interleaving

namespace Samac

def upperPacket? : SamacMessage → Option Packet
  | .upperLayerIn packet => some packet
  | _ => none

/-- The packets that were offered once the first schedule had been processed. -/
def accepted (messages : List SamacMessage) : List Packet :=
  (messages.dropWhile fun message => !isWlanSchedule message).filterMap upperPacket?

/-- The packets that were offered before. -/
def refused (messages : List SamacMessage) : List Packet :=
  (messages.takeWhile fun message => !isWlanSchedule message).filterMap upperPacket?

theorem accepted_concat (messages : List SamacMessage) (message : SamacMessage) :
    accepted (messages ++ [message]) =
      accepted messages ++
        if messages.any isWlanSchedule then (upperPacket? message).toList else [] := by
  unfold accepted
  cases hany : messages.any isWlanSchedule with
  | true =>
    have hne : (messages.dropWhile fun message => !isWlanSchedule message) ≠ [] := by
      intro hnil
      obtain ⟨schedule, hmem, hschedule⟩ := List.any_eq_true.mp hany
      have := List.dropWhile_eq_nil_iff.mp hnil schedule hmem
      simp [hschedule] at this
    rw [List.dropWhile_append, if_neg (by simpa using hne), List.filterMap_append]
    cases hupper : upperPacket? message <;> simp [hupper]
  | false =>
    have hnil : (messages.dropWhile fun message => !isWlanSchedule message) = [] := by
      rw [List.dropWhile_eq_nil_iff]
      intro earlier hmem
      simpa using List.any_eq_false.mp hany earlier hmem
    rw [List.dropWhile_append, hnil]
    cases message with
    | lowerLayerIn pk => rcases pk with ⟨_, _ | _ | _⟩ <;> simp [isWlanSchedule, upperPacket?]
    | timerMessage => simp [isWlanSchedule]
    | selfMessage => simp [isWlanSchedule]
    | upperLayerIn => simp [isWlanSchedule]
    | unknown => simp [isWlanSchedule]

/-- The transmission timers that are pending. -/
def transmissions (v : Samac) : Nat :=
  (v.timerManager.pending fun callback => !Callback.registers callback).length

/-- What an event does to the way of the packets. -/
inductive QueueEffect (v : Samac) (event : SamacEvent) (v' : Samac) : Prop where
  /-- The queues are left alone. -/
  | same : v'.pendingQueue = v.pendingQueue → v'.inProgressFrames = v.inProgressFrames →
      v'.sentDirect = v.sentDirect →
      v'.receivedInitialWlanSchedule = v.receivedInitialWlanSchedule →
      v'.transmissions ≤ v.transmissions → isWlanSchedule event.message = false →
      upperPacket? event.message = none → QueueEffect v event v'
  /-- A schedule adds a transmission timer. -/
  | schedule : v'.pendingQueue = v.pendingQueue → v'.inProgressFrames = v.inProgressFrames →
      v'.sentDirect = v.sentDirect → v'.receivedInitialWlanSchedule = true →
      v'.transmissions = v.transmissions + 1 → isWlanSchedule event.message = true →
      upperPacket? event.message = none → QueueEffect v event v'
  /-- A packet is offered. -/
  | offer (packet : Packet) : upperPacket? event.message = some packet →
      isWlanSchedule event.message = false → v' = v.handleUpperPacket packet →
      QueueEffect v event v'
  /-- A transmission timer takes the first packet out. -/
  | inject (packet frame : Packet) (pendingQueue : PacketQueue) (inProgressFrames : List Packet) :
      v.pendingQueue.popPacket = .ok (packet, pendingQueue) →
      v.encapsulate packet v.inProgressFrames = .ok (frame, inProgressFrames) →
      v'.pendingQueue = pendingQueue → v'.inProgressFrames = inProgressFrames →
      v'.sentDirect = v.sentDirect ++ [frame] →
      v'.receivedInitialWlanSchedule = v.receivedInitialWlanSchedule →
      v'.transmissions + 1 = v.transmissions → isWlanSchedule event.message = false →
      upperPacket? event.message = none → QueueEffect v event v'

theorem transmissions_erase {v : Samac} (h : v.Orderly) {id : Nat} {timer : Timer Callback}
    (hfind : v.timerManager.find? id = some timer) :
    (Callback.registers timer.spec.callback_ = true ∧
      ((v.timerManager.erase id).pending fun callback => !Callback.registers callback).length =
        v.transmissions) ∨
    (Callback.registers timer.spec.callback_ = false ∧
      ((v.timerManager.erase id).pending fun callback => !Callback.registers callback).length + 1 =
        v.transmissions) := by
  cases hreg : Callback.registers timer.spec.callback_ with
  | true =>
    left
    rw [TimerManager.pending_erase_of_not hfind (by simp [hreg]), transmissions]
    exact ⟨rfl, rfl⟩
  | false =>
    obtain ⟨time, _, harrival⟩ := h.oneshot timer (TimerManager.find?_some hfind).1
    obtain ⟨before, after, hpending, herase⟩ :=
      TimerManager.pending_erase_of (p := fun callback => !Callback.registers callback) hfind
        (by simp [hreg]) harrival
    refine Or.inr ⟨rfl, ?_⟩
    rw [transmissions, hpending, herase]
    simp only [List.length_append, List.length_cons]
    omega

theorem encapsulate_step {v v' : Samac} {event : SamacEvent} (h : v.Orderly)
    (hstep : Step v event v') : v'.encapsulate = v.encapsulate := by
  cases step_effect h.oneshot hstep with
  | registration => rfl
  | transmission => rfl
  | ackTimer => rfl
  | @leoAck _ ack =>
    unfold processLeoAck
    split <;> rfl
  | wlanSchedule =>
    simp only [afterWlanSchedule, record, withTimer, readWlanSchedule, recordMissedAcks_eq]
  | otherPacket => rfl
  | upperPacket =>
    unfold handleUpperPacket
    split <;> rfl

theorem doPacketInjection_eq_ok {v v' : Samac} :
    v.doPacketInjection = .ok v' ↔
      ∃ packet pendingQueue frame inProgressFrames,
        v.pendingQueue.popPacket = .ok (packet, pendingQueue) ∧
        v.encapsulate packet v.inProgressFrames = .ok (frame, inProgressFrames) ∧
        v' = { v with
          pendingQueue := pendingQueue
          inProgressFrames := inProgressFrames
          sentDirect := v.sentDirect ++ [frame] } := by
  simp only [doPacketInjection, bind_eq_ok, pure, Except.pure, Except.ok.injEq]
  constructor
  · rintro ⟨⟨packet, queue⟩, hpop, ⟨frame, frames⟩, hframe, rfl⟩
    exact ⟨packet, queue, frame, frames, hpop, hframe, rfl⟩
  · rintro ⟨packet, queue, frame, frames, hpop, hframe, rfl⟩
    exact ⟨⟨packet, queue⟩, hpop, ⟨frame, frames⟩, hframe, rfl⟩

theorem queueEffect_of_timer {v v' : Samac} {event : SamacEvent} {id : Nat} (h : v.Orderly)
    (hmsg : event.message = .timerMessage id) (hstep : Step v event v') :
    QueueEffect v event v' := by
  have hnot : isWlanSchedule event.message = false := by rw [hmsg]; rfl
  have hnone : upperPacket? event.message = none := by rw [hmsg]; rfl
  obtain ⟨timer, w, hfind, _, hrun, rfl⟩ := timer_step h.oneshot hmsg hstep
  cases hcallback : timer.spec.callback_ with
  | satelliteRegistrationCallback =>
    rw [hcallback] at hrun
    obtain ⟨_, _, _, rfl⟩ := registerAtSatellite_eq_ok.mp hrun
    obtain ⟨_, hsame⟩ | ⟨hreg, _⟩ := transmissions_erase h hfind
    · exact .same rfl rfl rfl rfl hsame.le hnot hnone
    · rw [hcallback] at hreg
      cases hreg
  | retryRegistration =>
    rw [hcallback] at hrun
    obtain ⟨_, _, _, rfl⟩ := registerAtSatellite_eq_ok.mp hrun
    obtain ⟨_, hsame⟩ | ⟨hreg, _⟩ := transmissions_erase h hfind
    · exact .same rfl rfl rfl rfl hsame.le hnot hnone
    · rw [hcallback] at hreg
      cases hreg
  | scheduleWlanTransmissionCallback =>
    rw [hcallback] at hrun
    obtain ⟨hreg, _⟩ | ⟨_, hone⟩ := transmissions_erase h hfind
    · rw [hcallback] at hreg
      cases hreg
    · simp only [runCallback] at hrun
      split at hrun
      · obtain ⟨packet, queue, frame, frames, hpop, hframe, rfl⟩ :=
          doPacketInjection_eq_ok.mp hrun
        exact .inject packet frame queue frames hpop hframe rfl rfl rfl rfl hone hnot hnone
      · obtain rfl := Except.ok.inj hrun
        exact .same rfl rfl rfl rfl (by rw [← hone]; exact Nat.le_succ _) hnot hnone

theorem transmissions_of_timers {v v' : Samac} (h : v'.timerManager = v.timerManager) :
    v'.transmissions = v.transmissions := by rw [transmissions, h, transmissions]

theorem queues_processLeoAck (ack : SpaceVeinsSatelliteAck) (v : Samac) :
    (v.processLeoAck ack).pendingQueue = v.pendingQueue ∧
      (v.processLeoAck ack).inProgressFrames = v.inProgressFrames ∧
      (v.processLeoAck ack).sentDirect = v.sentDirect ∧
      (v.processLeoAck ack).receivedInitialWlanSchedule = v.receivedInitialWlanSchedule := by
  unfold processLeoAck
  split <;> exact ⟨rfl, rfl, rfl, rfl⟩

theorem queueEffect_of_step {v v' : Samac} {event : SamacEvent} (h : v.Orderly)
    (hstep : Step v event v') : QueueEffect v event v' := by
  cases step_effect h.oneshot hstep with
  | registration _ hmsg => exact queueEffect_of_timer h hmsg hstep
  | transmission _ _ _ hmsg => exact queueEffect_of_timer h hmsg hstep
  | ackTimer hmsg =>
    exact .same rfl rfl rfl rfl le_rfl (by rw [hmsg]; rfl) (by rw [hmsg]; rfl)
  | @leoAck _ ack hmsg =>
    have hnot : isWlanSchedule event.message = false := by rw [hmsg]; rfl
    have hnone : upperPacket? event.message = none := by rw [hmsg]; rfl
    have htimers := transmissions_of_timers (timerManager_processLeoAck ack v).1
    obtain ⟨hqueue, hframes, hsent, hheard⟩ := queues_processLeoAck ack v
    exact .same hqueue hframes hsent hheard htimers.le hnot hnone
  | @wlanSchedule mac ws time registration hmsg =>
    refine .schedule ?_ ?_ ?_ ?_ ?_ (by rw [hmsg]; rfl) (by rw [hmsg]; rfl)
    · simp only [afterWlanSchedule, record, withTimer, readWlanSchedule, recordMissedAcks_eq]
    · simp only [afterWlanSchedule, record, withTimer, readWlanSchedule, recordMissedAcks_eq]
    · simp only [afterWlanSchedule, record, withTimer, readWlanSchedule, recordMissedAcks_eq]
    · rfl
    · rw [transmissions, timerManager_afterWlanSchedule, TimerManager.pending_insert,
        TimerManager.pending_insert]
      simp [Callback.registers, transmissions]
  | otherPacket hmsg =>
    exact .same rfl rfl rfl rfl le_rfl (by rw [hmsg]; rfl) (by rw [hmsg]; rfl)
  | @upperPacket packet hmsg =>
    exact .offer packet (by rw [hmsg]; rfl) (by rw [hmsg]; rfl) rfl

/-- What is true of the packets after the given messages. -/
structure Conserved (wlanBandwidth : ℚ) (stationAt : Packet → Ieee80211Station)
    (messages : List SamacMessage) (v : Samac) : Prop where
  encapsulates : v.encapsulate = encapsulateAt wlanBandwidth stationAt
  idle : v.inProgressFrames = []
  settled : v.pendingQueue.Settled
  heard : v.receivedInitialWlanSchedule = messages.any isWlanSchedule
  injections : v.sentDirect.length + v.transmissions ≤ messages.countP isWlanSchedule
  dealt : Interleaves (v.sentDirect.map Packet.id ++ v.pendingQueue.queue.map Packet.id)
    (v.pendingQueue.dropped.map Packet.id) ((accepted messages).map Packet.id)

section Step
variable {wlanBandwidth : ℚ} {stationAt : Packet → Ieee80211Station}
  {messages : List SamacMessage} {v v' : Samac} {event : SamacEvent}

theorem conserved_offer (h : Conserved wlanBandwidth stationAt messages v) {packet : Packet}
    (hupper : upperPacket? event.message = some packet)
    (hnot : isWlanSchedule event.message = false) :
    Conserved wlanBandwidth stationAt (messages ++ [event.message])
      (v.handleUpperPacket packet) := by
  have hcount : (messages ++ [event.message]).countP isWlanSchedule =
      messages.countP isWlanSchedule := by simp [hnot]
  have hany : (messages ++ [event.message]).any isWlanSchedule = messages.any isWlanSchedule := by
    simp [hnot]
  have haccepted := accepted_concat messages event.message
  rw [← h.heard, hupper] at haccepted
  unfold handleUpperPacket
  cases hheard : v.receivedInitialWlanSchedule with
  | false =>
    rw [hheard] at haccepted
    simp only [Bool.false_eq_true, if_false, List.append_nil] at haccepted ⊢
    exact ⟨h.encapsulates, h.idle, h.settled, h.heard.trans hany.symm, hcount ▸ h.injections,
      haccepted ▸ h.dealt⟩
  | true =>
    rw [hheard] at haccepted
    simp only [if_true, Option.toList_some] at haccepted ⊢
    have hdealt : Interleaves (v.sentDirect.map Packet.id ++
        (v.pendingQueue.pushPacket packet).queue.map Packet.id)
        ((v.pendingQueue.pushPacket packet).dropped.map Packet.id)
        ((accepted (messages ++ [event.message])).map Packet.id) ∧
        (v.pendingQueue.pushPacket packet).Settled := by
      rw [haccepted, List.map_append, List.map_singleton]
      obtain ⟨hpush, hsettled⟩ | ⟨hpush, hsettled, _⟩ :=
        PacketQueue.pushPacket_cases h.settled packet
      · rw [hpush] at hsettled ⊢
        rw [List.map_append, List.map_singleton, ← List.append_assoc]
        exact ⟨.left packet.id h.dealt, hsettled⟩
      · rw [hpush] at hsettled ⊢
        rw [List.map_append, List.map_singleton]
        exact ⟨.right packet.id h.dealt, hsettled⟩
    exact ⟨h.encapsulates, h.idle, hdealt.2, hheard.symm.trans (h.heard.trans hany.symm),
      hcount ▸ h.injections, hdealt.1⟩

theorem conserved_step (horderly : v.Orderly) (h : Conserved wlanBandwidth stationAt messages v)
    (hstep : Step v event v') :
    Conserved wlanBandwidth stationAt (messages ++ [event.message]) v' := by
  have hencapsulates := (encapsulate_step horderly hstep).trans h.encapsulates
  have haccepted := accepted_concat messages event.message
  cases queueEffect_of_step horderly hstep with
  | same hqueue hframes hsent hheard hle hnot hnone =>
    simp only [hnone, Option.toList_none, ite_self, List.append_nil] at haccepted
    refine ⟨hencapsulates, hframes.trans h.idle, hqueue ▸ h.settled, ?_, ?_, ?_⟩
    · rw [hheard, h.heard]
      simp [hnot]
    · have := h.injections
      simp only [hsent, List.countP_append, List.countP_singleton, hnot, Bool.false_eq_true,
        if_false]
      omega
    · rw [hsent, hqueue, haccepted]
      exact h.dealt
  | schedule hqueue hframes hsent hheard hmore hschedule hnone =>
    simp only [hnone, Option.toList_none, ite_self, List.append_nil] at haccepted
    refine ⟨hencapsulates, hframes.trans h.idle, hqueue ▸ h.settled, ?_, ?_, ?_⟩
    · rw [hheard]
      simp [hschedule]
    · have := h.injections
      simp only [hsent, hmore, List.countP_append, List.countP_singleton, hschedule, if_true]
      omega
    · rw [hsent, hqueue, haccepted]
      exact h.dealt
  | offer packet hupper hnot hv =>
    rw [hv]
    exact conserved_offer h hupper hnot
  | inject packet frame queue frames hpop hframe hqueue hframes hsent hheard hless hnot hnone =>
    simp only [hnone, Option.toList_none, ite_self, List.append_nil] at haccepted
    obtain ⟨rest, hfirst, rfl⟩ := PacketQueue.popPacket_eq_ok.mp hpop
    rw [h.encapsulates, h.idle] at hframe
    obtain ⟨hid, rfl⟩ := encapsulateAt_ok hframe
    refine ⟨hencapsulates, hframes, hqueue ▸ PacketQueue.settled_of_popped h.settled hfirst,
      ?_, ?_, ?_⟩
    · rw [hheard, h.heard]
      simp [hnot]
    · have := h.injections
      simp only [hsent, List.length_append, List.length_singleton, List.countP_append,
        List.countP_singleton, hnot, Bool.false_eq_true, if_false]
      omega
    · have hdealt := h.dealt
      rw [hfirst] at hdealt
      rw [hsent, hqueue, haccepted]
      simpa [hid] using hdealt

/-- The queue has dropped the packet that has just come, which is one too many for it. -/
def DropsNewcomer (v : Samac) (message : SamacMessage) (v' : Samac) : Prop :=
  ∃ packet, upperPacket? message = some packet ∧
    v'.pendingQueue =
      { v.pendingQueue with dropped := v.pendingQueue.dropped ++ [packet] } ∧
    PacketQueue.isOverloaded
      { v.pendingQueue with queue := v.pendingQueue.queue ++ [packet] } = true

theorem dropsNewcomer_step (horderly : v.Orderly) (hsettled : v.pendingQueue.Settled)
    (hstep : Step v event v') (hdrop : v'.pendingQueue.dropped ≠ v.pendingQueue.dropped) :
    DropsNewcomer v event.message v' := by
  cases queueEffect_of_step horderly hstep with
  | same hqueue => exact absurd (congrArg PacketQueue.dropped hqueue) hdrop
  | schedule hqueue => exact absurd (congrArg PacketQueue.dropped hqueue) hdrop
  | offer packet hupper _ hv =>
    subst hv
    unfold handleUpperPacket at hdrop ⊢
    split_ifs at hdrop ⊢ with hheard
    · obtain ⟨hpush, _⟩ | ⟨hpush, _, hoverloaded⟩ :=
        PacketQueue.pushPacket_cases hsettled packet
      · exact absurd (congrArg PacketQueue.dropped hpush) hdrop
      · exact ⟨packet, hupper, hpush, hoverloaded⟩
    · exact absurd rfl hdrop
  | inject packet frame queue frames hpop _ hqueue =>
    obtain ⟨rest, _, rfl⟩ := PacketQueue.popPacket_eq_ok.mp hpop
    exact absurd (congrArg PacketQueue.dropped hqueue) hdrop

end Step

section Runs
variable {address : MacAddress} {delay : Int} {multicast : Option UInt32} {port : Int}
  {packetCapacity dataCapacity : Int} {wlanBandwidth : ℚ}
  {stationAt : Packet → Ieee80211Station} {path : List (Samac × SamacEvent × Samac)} {v : Samac}

def messagesOf (path : List (Samac × SamacEvent × Samac)) : List SamacMessage :=
  path.map fun step => step.2.1.message

theorem conserved_run
    (hrun : Run Step (initial address delay multicast port ⟨[], packetCapacity, dataCapacity, []⟩
      (encapsulateAt wlanBandwidth stationAt)) path v) :
    Conserved wlanBandwidth stationAt (messagesOf path) v := by
  induction hrun with
  | refl => exact ⟨rfl, rfl, Or.inl rfl, rfl, le_rfl, .nil⟩
  | @snoc path v v' event hrun hstep ih =>
    rw [messagesOf, List.map_append, List.map_singleton]
    exact conserved_step (orderly_run hrun) ih hstep

/-- In every run the injected packets followed by the waiting ones are the accepted packets, in
the order of their arrival, except for those that the queue dropped at its tail, each as it came
to a full queue. No more packets are injected than schedules were processed, none that was offered
before the first schedule, and no frame stays in progress. -/
theorem packets_conserved
    (hrun : Run Step (initial address delay multicast port ⟨[], packetCapacity, dataCapacity, []⟩
      (encapsulateAt wlanBandwidth stationAt)) path v) :
    Interleaves (v.sentDirect.map Packet.id ++ v.pendingQueue.queue.map Packet.id)
      (v.pendingQueue.dropped.map Packet.id) ((accepted (messagesOf path)).map Packet.id) ∧
    v.sentDirect.length ≤ (messagesOf path).countP isWlanSchedule ∧
    (∀ packet ∈ refused (messagesOf path),
      packet.id ∉ (accepted (messagesOf path)).map Packet.id →
        packet.id ∉ v.sentDirect.map Packet.id) ∧
    v.inProgressFrames = [] ∧
    (∀ a event b, (a, event, b) ∈ path → b.pendingQueue.dropped ≠ a.pendingQueue.dropped →
      DropsNewcomer a event.message b) := by
  have h := conserved_run hrun
  refine ⟨h.dealt, (Nat.le_add_right _ _).trans h.injections, ?_, h.idle, ?_⟩
  · intro packet _ hnot hsent
    have hsublist := h.dealt.left_sublist
    exact hnot (hsublist.subset (List.mem_append_left _ hsent))
  · intro a event b hm hdrop
    obtain ⟨_, _, hfirst, hstep⟩ := hrun.reached_of_mem hm
    exact dropsNewcomer_step (orderly_run hfirst) (conserved_run hfirst).settled hstep hdrop

end Runs

/-- A vehicle with a queue for one packet next to a station in an independent network. -/
def ordinaryVehicle : Samac :=
  initial (.ofBits 7) (SimTime.ofMs 10) (some 0xE0000001) 9001 ⟨[], 1, -1, []⟩
    (encapsulateAt 10000000 fun packet =>
      { (adHocStation 600).setPacket packet.id (some (ipv4Packet 600)) with
        nextPacket := packet.id + 1 })

def upperPacketAtMs (ms : Int) (id : Nat) : SamacEvent :=
  ⟨SimTime.ofMs ms, .drawing 0 0, .upperLayerIn ⟨id, 4800⟩⟩

/-- A packet comes before the first schedule, two between it and the next one; each schedule
lets a packet go. -/
def twoInjections : List SamacEvent :=
  [upperPacketAtMs 1 5, scheduleAtMs 4 0 50 500, upperPacketAtMs 10 0, upperPacketAtMs 20 1,
    timerAtMs 55 0, upperPacketAtMs 60 2, timerAtMs 500 1, ackTimerAtMs 518,
    scheduleAtMs 1004 1000 30 1500, upperPacketAtMs 1010 3, timerAtMs 1035 2]

theorem twoInjections_isSome : (replay step? ordinaryVehicle twoInjections).isSome = true := by
  decide +kernel

theorem packets_conserved_twoInjections : ∃ path v, Run Step ordinaryVehicle path v ∧
    v.sentDirect.map Packet.id = [0, 2] ∧ v.pendingQueue.dropped.map Packet.id = [1, 3] ∧
    Interleaves (v.sentDirect.map Packet.id ++ v.pendingQueue.queue.map Packet.id)
      (v.pendingQueue.dropped.map Packet.id) ((accepted (messagesOf path)).map Packet.id) ∧
    ∀ a event b, (a, event, b) ∈ path → b.pendingQueue.dropped ≠ a.pendingQueue.dropped →
      DropsNewcomer a event.message b := by
  have hrun := run_of_replay_get (fun _ _ _ => step_of_step?) twoInjections_isSome
  obtain ⟨hdealt, _, _, _, hdropped⟩ := packets_conserved hrun
  exact ⟨_, _, hrun, by decide +kernel, by decide +kernel, hdealt, hdropped⟩

end Samac
end SpaceVeins

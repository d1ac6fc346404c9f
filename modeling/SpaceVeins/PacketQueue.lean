import SpaceVeins.SimTime

/-!
# The packet queue of the interface

A `PacketQueue` with the dropper of `DropTailQueue`: a packet is inserted first,
and packets are then dropped at the end of the queue until its limits are met.
-/

set_option autoImplicit false

namespace SpaceVeins

/-- A packet with its identity (the pointer of the C++ code) and its length in bits. -/
structure Packet where
  id : Nat
  totalLength : Nat
deriving DecidableEq, Repr

structure PacketQueue where
  queue : List Packet
  /-- The largest number of packets; `-1` stands for no limit. -/
  packetCapacity : Int
  /-- The largest number of bits; `-1` stands for no limit. -/
  dataCapacity : Int
  /-- Every packet dropped so far, oldest first. -/
  dropped : List Packet
deriving DecidableEq, Repr

namespace PacketQueue

def isEmpty (q : PacketQueue) : Bool := q.queue.isEmpty

def getNumPackets (q : PacketQueue) : Nat := q.queue.length

def getTotalLength (q : PacketQueue) : Nat := (q.queue.map Packet.totalLength).sum

def isOverloaded (q : PacketQueue) : Bool :=
  (decide (q.packetCapacity ≠ -1) && decide (q.packetCapacity < q.getNumPackets)) ||
    (decide (q.dataCapacity ≠ -1) && decide (q.dataCapacity < q.getTotalLength))

/-- The loop of `pushPacket`; every round removes a packet, so the length bounds the rounds. -/
def dropAtEnd : Nat → PacketQueue → PacketQueue
  | 0, q => q
  | rounds + 1, q =>
    match q.queue.getLast? with
    | none => q
    | some packet =>
      if q.isOverloaded then
        dropAtEnd rounds { q with queue := q.queue.dropLast, dropped := q.dropped ++ [packet] }
      else q

def pushPacket (packet : Packet) (q : PacketQueue) : PacketQueue :=
  let q := { q with queue := q.queue ++ [packet] }
  dropAtEnd q.getNumPackets q

/-- `check_and_cast` fails on the null pointer that the front of an empty queue is. -/
def popPacket (q : PacketQueue) : Except SimError (Packet × PacketQueue) :=
  match q.queue with
  | [] => .error (.cRuntimeError "check_and_cast(): Cannot cast nullptr to type 'Packet'")
  | packet :: rest => .ok (packet, { q with queue := rest })

/-- Nothing more would be dropped. -/
def Settled (q : PacketQueue) : Prop := q.queue = [] ∨ q.isOverloaded = false

theorem dropAtEnd_of_settled {q : PacketQueue} (h : q.Settled) (rounds : Nat) :
    dropAtEnd rounds q = q := by
  cases rounds with
  | zero => rfl
  | succ rounds =>
    unfold dropAtEnd
    cases hlast : q.queue.getLast? with
    | none => rfl
    | some packet =>
      rcases h with hempty | hload
      · rw [hempty] at hlast
        cases hlast
      · simp [hload]

theorem pushPacket_cases {q : PacketQueue} (h : q.Settled) (packet : Packet) :
    (q.pushPacket packet = { q with queue := q.queue ++ [packet] } ∧
      (q.pushPacket packet).Settled) ∨
    (q.pushPacket packet = { q with dropped := q.dropped ++ [packet] } ∧
      (q.pushPacket packet).Settled ∧
      isOverloaded { q with queue := q.queue ++ [packet] } = true) := by
  have hpush : q.pushPacket packet = dropAtEnd (q.queue.length + 1)
      { q with queue := q.queue ++ [packet] } := by
    simp [pushPacket, getNumPackets]
  rw [hpush]
  unfold dropAtEnd
  simp only [List.getLast?_append_of_ne_nil, List.getLast?_singleton, List.dropLast_concat, ne_eq,
    List.cons_ne_self, not_false_eq_true]
  cases hload : isOverloaded { q with queue := q.queue ++ [packet] } with
  | false =>
    exact Or.inl ⟨rfl, Or.inr hload⟩
  | true =>
    have hback : Settled { q with dropped := q.dropped ++ [packet] } := h
    have hstop := dropAtEnd_of_settled hback q.queue.length
    refine Or.inr ?_
    simp only [if_true]
    exact ⟨hstop, hstop.symm ▸ hback, trivial⟩

theorem popPacket_eq_ok {q q' : PacketQueue} {packet : Packet} :
    q.popPacket = .ok (packet, q') ↔
      ∃ rest, q.queue = packet :: rest ∧ q' = { q with queue := rest } := by
  unfold popPacket
  cases q.queue with
  | nil => simp
  | cons first rest => simp [eq_comm]

theorem settled_of_popped {q : PacketQueue} {packet : Packet} {rest : List Packet}
    (h : q.Settled) (hqueue : q.queue = packet :: rest) :
    Settled { q with queue := rest } := by
  rcases h with hempty | hload
  · rw [hqueue] at hempty
    cases hempty
  · right
    simp only [isOverloaded, getNumPackets, getTotalLength, hqueue, Bool.or_eq_false_iff,
      Bool.and_eq_false_iff, decide_eq_false_iff_not, List.length_cons, List.map_cons,
      List.sum_cons] at hload ⊢
    obtain ⟨hcount, hlength⟩ := hload
    refine ⟨hcount.imp_right ?_, hlength.imp_right ?_⟩
    · intro hle
      apply decide_eq_false
      omega
    · intro hle
      apply decide_eq_false
      omega

end PacketQueue
end SpaceVeins

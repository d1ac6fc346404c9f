import SpaceVeins.Messages
import SpaceVeins.PacketQueue

/-!
# The data service of the co-located 802.11 MAC

A station without QoS hands each frame to its `OriginatorMacDataService`, which
numbers it and cuts it into fragments if it is longer than the threshold. Packets
are objects: a pointer names one, and cutting a frame makes new packets and
deletes the old one.
-/

set_option autoImplicit false

namespace SpaceVeins

inductive Ieee80211FrameType where
  | ST_DATA
  | ST_DATA_WITH_QOS
deriving DecidableEq

/-- The 802.11 data header. Lengths are in bytes. -/
structure Ieee80211DataHeader where
  type : Ieee80211FrameType
  toDS : Bool
  fromDS : Bool
  moreFragments : Bool
  durationField : Int
  receiverAddress : MacAddress
  transmitterAddress : MacAddress
  address3 : MacAddress
  fragmentNumber : Nat
  /-- Numbers are cyclic; `none` before one has been assigned. -/
  sequenceNumber : Option (Fin 4096)
  tid : Int
  chunkLength : Nat
deriving DecidableEq

def DATAFRAME_HEADER_MINLENGTH : Nat := 2 + 2 + 3 * 6 + 2
def QOSCONTROL_PART_LENGTH : Nat := 2
def MAX_NUM_FRAGMENTS : Int := 16

namespace Ieee80211DataHeader

def new : Ieee80211DataHeader where
  type := .ST_DATA
  toDS := false
  fromDS := false
  moreFragments := false
  durationField := -1
  receiverAddress := .ofBits 0
  transmitterAddress := .ofBits 0
  address3 := .ofBits 0
  fragmentNumber := 0
  sequenceNumber := none
  tid := 0
  chunkLength := DATAFRAME_HEADER_MINLENGTH

end Ieee80211DataHeader

/-- The protocols with an EtherType, and all others. -/
inductive Protocol where
  | ipv4 | arp | cdp | srp | tsn | trill | l2isis | ipv6 | flooding | probabilistic | wiseRoute
  | nextHopForwarding | mpls | lldp | tteth
  | ieee80211EtherType | ieee80211Mac
  | other (name : String)
deriving DecidableEq

namespace Protocol

/-- `ProtocolGroup::ethertype.findProtocolNumber`. -/
def findProtocolNumber : Protocol → Int
  | ipv4 => 0x0800
  | arp => 0x0806
  | cdp => 0x2000
  | srp => 0x22EA
  | tsn => 0x22F0
  | trill => 0x22F3
  | l2isis => 0x22F4
  | ipv6 => 0x86DD
  | flooding => 0x36FC
  | probabilistic => 0x86FD
  | wiseRoute => 0x86FE
  | nextHopForwarding => 0x86FF
  | mpls => 0x8847
  | lldp => 0x88CC
  | tteth => 0x891d
  | ieee80211EtherType | ieee80211Mac | other _ => -1

def getName : Protocol → String
  | ieee80211EtherType => "ieee80211ethertype"
  | ieee80211Mac => "ieee80211mac"
  | other name => name
  | ipv4 => "ipv4"
  | arp => "arp"
  | cdp => "cdp"
  | srp => "srp"
  | tsn => "tsn"
  | trill => "trill"
  | l2isis => "l2isis"
  | ipv6 => "ipv6"
  | flooding => "flooding"
  | probabilistic => "probabilistic"
  | wiseRoute => "wiseroute"
  | nextHopForwarding => "nexthopforwarding"
  | mpls => "mpls"
  | lldp => "lldp"
  | tteth => "tteth"

end Protocol

inductive Chunk where
  | ieee80211EtherTypeHeader (etherType : Int)
  | ieee80211DataHeader (header : Ieee80211DataHeader)
  | ieee80211MacTrailer
  /-- Raw bytes, which may be read as any other chunk. -/
  | bytesChunk (length : Nat)
  /-- Any other chunk, or a slice of one. -/
  | other (length : Nat)
deriving DecidableEq

def Chunk.getChunkLength : Chunk → Nat
  | ieee80211EtherTypeHeader _ => 2
  | ieee80211DataHeader header => header.chunkLength
  | ieee80211MacTrailer => 4
  | bytesChunk length => length
  | other length => length

/-- The mode of a transmission, by its name. -/
structure Ieee80211OfdmMode where
  name : String
deriving DecidableEq, Repr

/-- What a packet holds: its name, its chunks and its tags. -/
structure PacketData where
  name : String
  chunks : List Chunk
  /-- The tag may hold a null pointer. -/
  packetProtocolTag : Option (Option Protocol)
  llcProtocolTag : Option Protocol
  macAddressReq : Option MacAddress
  userPriorityReq : Option Int
  ieee80211ModeReq : Option Ieee80211OfdmMode
deriving DecidableEq

namespace PacketData

def getByteLength (data : PacketData) : Nat := (data.chunks.map Chunk.getChunkLength).sum

def ofChunks (name : String) (chunks : List Chunk) : PacketData :=
  ⟨name, chunks, none, none, none, none, none⟩

def insertAtFront (chunk : Chunk) (data : PacketData) : PacketData :=
  { data with chunks := chunk :: data.chunks }

def insertAtBack (chunk : Chunk) (data : PacketData) : PacketData :=
  { data with chunks := data.chunks ++ [chunk] }

def implicitSerialization : SimError :=
  .cRuntimeError ("Implicit chunk serialization is disabled to prevent unpredictable " ++
    "performance degradation (you may consider changing the " ++
    "Chunk::enableImplicitChunkSerialization flag or passing the PF_ALLOW_SERIALIZATION flag " ++
    "to peek)")

/-- `peekAtFront` of the data header, which is never read from raw bytes here. -/
def peekHeader (data : PacketData) : Except SimError Ieee80211DataHeader :=
  match data.chunks with
  | .ieee80211DataHeader header :: _ => .ok header
  | _ => .error implicitSerialization

/-- `removeAtFront` and `popAtFront` of the data header. -/
def removeHeader (data : PacketData) : Except SimError (Ieee80211DataHeader × PacketData) := do
  let header ← data.peekHeader
  pure (header, { data with chunks := data.chunks.tail })

/-- `peekAtBack<Ieee80211MacTrailer>(B(4))`: the length of the trailer. -/
def peekTrailer (data : PacketData) : Except SimError Nat :=
  match data.chunks.getLast? with
  | some .ieee80211MacTrailer => .ok 4
  | some (.bytesChunk length) => if 4 ≤ length then .ok 4 else .error implicitSerialization
  | _ => .error implicitSerialization

/-- `popAtBack<Ieee80211MacTrailer>(B(4))`. -/
def popTrailer (data : PacketData) : Except SimError PacketData := do
  let trailerLength ← data.peekTrailer
  match data.chunks.getLast? with
  | some (.bytesChunk length) =>
    pure { data with chunks := data.chunks.dropLast ++ [.bytesChunk (length - trailerLength)] }
  | _ => pure { data with chunks := data.chunks.dropLast }

@[simp] theorem getByteLength_insertAtFront (chunk : Chunk) (data : PacketData) :
    (data.insertAtFront chunk).getByteLength = chunk.getChunkLength + data.getByteLength := by
  simp [getByteLength, insertAtFront]

@[simp] theorem getByteLength_insertAtBack (chunk : Chunk) (data : PacketData) :
    (data.insertAtBack chunk).getByteLength = data.getByteLength + chunk.getChunkLength := by
  simp [getByteLength, insertAtBack]

theorem peekTrailer_ok {data : PacketData} {length : Nat} (h : data.peekTrailer = .ok length) :
    length = 4 := by
  unfold peekTrailer at h
  split at h
  · exact (Except.ok.inj h).symm
  · split at h
    · exact (Except.ok.inj h).symm
    · cases h
  · cases h

end PacketData

inductive MibMode where
  | INFRASTRUCTURE
  | INDEPENDENT
  | MESH
deriving DecidableEq

inductive BssStationType where
  | ACCESS_POINT
  | STATION
deriving DecidableEq

/-- The management information base; `none` stands for the initial value -1 of an enumeration. -/
structure Ieee80211Mib where
  address : MacAddress
  mode : Option MibMode
  bssid : MacAddress
  stationType : Option BssStationType

/-- Sequence numbers are counted modulo 4096. -/
instance seqNum_neZero : NeZero 4096 := ⟨by decide⟩

/-- The packets there are, by their pointers, and the co-located station. -/
structure Ieee80211Station where
  packets : Nat → Option PacketData
  nextPacket : Nat
  mib : Ieee80211Mib
  fragmentationThreshold : Int
  lastSeqNum : Fin 4096 := 0
  lastSentSeqNums : MacAddress → Option (Fin 4096)

namespace Ieee80211Station

def getPacket (packet : Nat) (station : Ieee80211Station) : Except SimError PacketData :=
  match station.packets packet with
  | some data => .ok data
  | none => .error (.cRuntimeError "the packet has been deleted")

def setPacket (packet : Nat) (data : Option PacketData) (station : Ieee80211Station) :
    Ieee80211Station :=
  { station with packets := fun p => if p = packet then data else station.packets p }

/-- `new Packet`. -/
def newPacket (data : PacketData) (station : Ieee80211Station) : Nat × Ieee80211Station :=
  let created := station.setPacket station.nextPacket (some data)
  (station.nextPacket, { created with nextPacket := station.nextPacket + 1 })

@[simp] theorem getPacket_setPacket (packet : Nat) (data : PacketData)
    (station : Ieee80211Station) :
    (station.setPacket packet (some data)).getPacket packet = .ok data := by
  simp [getPacket, setPacket]

theorem getPacket_of_eq {packet : Nat} {data : PacketData} {station : Ieee80211Station}
    (h : station.packets packet = some data) : station.getPacket packet = .ok data := by
  simp [getPacket, h]

theorem getPacket_eq_ok {packet : Nat} {data : PacketData} {station : Ieee80211Station} :
    station.getPacket packet = .ok data ↔ station.packets packet = some data := by
  unfold getPacket
  cases station.packets packet <;> simp

/-- The loop of `BasicFragmentationPolicy::computeFragmentSizes`: the sizes and the payload that
is left. The check before the loop bounds its rounds. -/
def fragmentLoop (fragmentationThreshold headerLength trailerLength : Int) :
    Nat → Int → List Int × Int
  | 0, payloadLength => ([], payloadLength)
  | rounds + 1, payloadLength =>
    if headerLength + trailerLength + payloadLength > fragmentationThreshold then
      let size := fragmentationThreshold - headerLength - trailerLength
      let (sizes, rest) := fragmentLoop fragmentationThreshold headerLength trailerLength rounds
        (payloadLength - size)
      (size :: sizes, rest)
    else ([], payloadLength)

/-- The loop with its last, shorter fragment. -/
def fragmentSizes (fragmentationThreshold headerLength trailerLength payloadLength : Int) :
    List Int :=
  let (sizes, rest) := fragmentLoop fragmentationThreshold headerLength trailerLength
    MAX_NUM_FRAGMENTS.toNat payloadLength
  if rest ≠ 0 then sizes ++ [rest] else sizes

def computeFragmentSizes (frame : PacketData) (station : Ieee80211Station) :
    Except SimError (List Int) :=
  if station.fragmentationThreshold < frame.getByteLength then do
    let header ← frame.peekHeader
    let trailerLength ← frame.peekTrailer
    let headerLength := header.chunkLength
    let payloadLength : Int := frame.getByteLength - headerLength - trailerLength
    let maxFragmentPayload := station.fragmentationThreshold - headerLength - trailerLength
    if payloadLength > maxFragmentPayload * MAX_NUM_FRAGMENTS then
      throw (.cRuntimeError ("Fragmentation: frame \"" ++ frame.name ++
        "\" too large, won't fit into " ++ toString MAX_NUM_FRAGMENTS ++ " fragments"))
    else
      pure (fragmentSizes station.fragmentationThreshold headerLength trailerLength payloadLength)
  else .ok []

/-- The loop of `Fragmentation::fragmentFrame`, from fragment `i` on. -/
def createFragments (name : String) (frameHeader : Ieee80211DataHeader) :
    Nat → List Int → Ieee80211Station → List Nat × Ieee80211Station
  | _, [], station => ([], station)
  | i, size :: sizes, station =>
    let fragmentHeader := { frameHeader with fragmentNumber := i, moreFragments := !sizes.isEmpty }
    let (fragment, station) := station.newPacket (PacketData.ofChunks
      (name ++ "-frag" ++ toString i)
      [.ieee80211DataHeader fragmentHeader, .other size.toNat, .ieee80211MacTrailer])
    let (fragments, station) := createFragments name frameHeader (i + 1) sizes station
    (fragment :: fragments, station)

/-- The frame is deleted at the end. -/
def fragmentFrame (frame : Nat) (fragmentSizes : List Int) (station : Ieee80211Station) :
    Except SimError (List Nat × Ieee80211Station) := do
  let data ← station.getPacket frame
  let (frameHeader, data) ← data.removeHeader
  let _ ← data.popTrailer
  let (fragments, station) := createFragments data.name frameHeader 0 fragmentSizes station
  pure (fragments, station.setPacket frame none)

/-- The result is `none` for the null pointer. -/
def fragmentIfNeeded (frame : Nat) (station : Ieee80211Station) :
    Except SimError (Option (List Nat) × Ieee80211Station) := do
  let data ← station.getPacket frame
  let fragmentSizes ← station.computeFragmentSizes data
  if fragmentSizes.length ≠ 0 then do
    let (fragments, station) ← station.fragmentFrame frame fragmentSizes
    pure (some fragments, station)
  else pure (none, station)

/-- The next number, which differs from the last one that the receiver was sent. -/
def nextSeqNum (address : MacAddress) (station : Ieee80211Station) : Fin 4096 :=
  let lastSeqNum := station.lastSeqNum + 1
  if station.lastSentSeqNums address = some lastSeqNum then lastSeqNum + 1 else lastSeqNum

def setLastSeqNum (address : MacAddress) (lastSeqNum : Fin 4096) (station : Ieee80211Station) :
    Ieee80211Station :=
  { station with
    lastSeqNum := lastSeqNum
    lastSentSeqNums := fun a =>
      if a = address then some lastSeqNum else station.lastSentSeqNums a }

/-- `NonQoSSequenceNumberAssignment::assignSequenceNumber`. -/
def assignSequenceNumber (header : Ieee80211DataHeader) (station : Ieee80211Station) :
    Except SimError (Ieee80211DataHeader × Ieee80211Station) := do
  assert "header->getType() != ST_DATA_WITH_QOS" (decide (header.type ≠ .ST_DATA_WITH_QOS))
  let lastSeqNum := station.nextSeqNum header.receiverAddress
  pure ({ header with sequenceNumber := some lastSeqNum },
    station.setLastSeqNum header.receiverAddress lastSeqNum)

/-- The part of `extractFramesToTransmit` after the packet has been taken from the queue. -/
def framesOfPacket (packet : Nat) (station : Ieee80211Station) :
    Except SimError (List Nat × Ieee80211Station) := do
  let data ← station.getPacket packet
  let (header, data) ← data.removeHeader
  let (header, station) ← station.assignSequenceNumber header
  let station :=
    station.setPacket packet (some (data.insertAtFront (.ieee80211DataHeader header)))
  let (fragments, station) ← station.fragmentIfNeeded packet
  pure (fragments.getD [packet], station)

/-- The result is `none` for the null pointer. -/
def extractFramesToTransmit (pendingQueue : PacketQueue) (station : Ieee80211Station) :
    Except SimError (Option (List Nat) × PacketQueue × Ieee80211Station) :=
  if pendingQueue.isEmpty then .ok (none, pendingQueue, station)
  else do
    let (packet, pendingQueue) ← pendingQueue.popPacket
    let (frames, station) ← station.framesOfPacket packet.id
    pure (some frames, pendingQueue, station)

/-! Fragments are never longer than the threshold, and a frame that is cut is cut into several. -/

section Loop
variable {fragmentationThreshold headerLength trailerLength : Int}

theorem fragmentLoop_rest_pos (rounds : Nat) {payloadLength : Int} (h : 0 < payloadLength) :
    0 < (fragmentLoop fragmentationThreshold headerLength trailerLength rounds
      payloadLength).2 := by
  induction rounds generalizing payloadLength with
  | zero => exact h
  | succ rounds ih =>
    unfold fragmentLoop
    split
    · apply ih
      omega
    · exact h

theorem fragmentLoop_rest_le (rounds : Nat) {payloadLength : Int}
    (hmax : 0 ≤ fragmentationThreshold - headerLength - trailerLength)
    (h : payloadLength ≤ (fragmentationThreshold - headerLength - trailerLength) * rounds) :
    headerLength + trailerLength + (fragmentLoop fragmentationThreshold headerLength trailerLength
      rounds payloadLength).2 ≤ fragmentationThreshold := by
  induction rounds generalizing payloadLength with
  | zero =>
    simp only [fragmentLoop, Nat.cast_zero, Int.mul_zero] at h ⊢
    omega
  | succ rounds ih =>
    unfold fragmentLoop
    split
    · apply ih
      push_cast at h
      linarith
    · rename_i hdone
      omega

theorem mem_fragmentLoop (rounds : Nat) {payloadLength size : Int}
    (h : size ∈ (fragmentLoop fragmentationThreshold headerLength trailerLength rounds
      payloadLength).1) :
    size = fragmentationThreshold - headerLength - trailerLength := by
  induction rounds generalizing payloadLength with
  | zero => cases h
  | succ rounds ih =>
    unfold fragmentLoop at h
    split at h
    · rcases List.mem_cons.mp h with rfl | h
      · rfl
      · exact ih h
    · cases h

theorem fragmentLoop_ne_nil (rounds : Nat) {payloadLength : Int}
    (h : fragmentationThreshold - headerLength - trailerLength < payloadLength) :
    (fragmentLoop fragmentationThreshold headerLength trailerLength (rounds + 1)
      payloadLength).1 ≠ [] := by
  have hcut : headerLength + trailerLength + payloadLength > fragmentationThreshold := by omega
  simp [fragmentLoop, hcut]

end Loop

theorem computeFragmentSizes_of_le {frame : PacketData} {station : Ieee80211Station}
    (h : (frame.getByteLength : Int) ≤ station.fragmentationThreshold) :
    station.computeFragmentSizes frame = .ok [] := by
  unfold computeFragmentSizes
  rw [if_neg (not_lt.mpr h)]

/-- A payload that exceeds one fragment is cut into several, each of which is short enough. -/
theorem fragmentSizes_spec {fragmentationThreshold headerLength trailerLength payloadLength : Int}
    (hlong : fragmentationThreshold - headerLength - trailerLength < payloadLength)
    (hfits : payloadLength ≤
      (fragmentationThreshold - headerLength - trailerLength) * MAX_NUM_FRAGMENTS) :
    2 ≤ (fragmentSizes fragmentationThreshold headerLength trailerLength payloadLength).length ∧
      ∀ size ∈ fragmentSizes fragmentationThreshold headerLength trailerLength payloadLength,
        headerLength + trailerLength + size ≤ fragmentationThreshold := by
  unfold MAX_NUM_FRAGMENTS at hfits
  have hmax : 0 ≤ fragmentationThreshold - headerLength - trailerLength := by omega
  have hpos : 0 < payloadLength := lt_of_le_of_lt hmax hlong
  rcases hloop : fragmentLoop fragmentationThreshold headerLength trailerLength 16 payloadLength
    with ⟨sizes, rest⟩
  have hne : sizes ≠ [] := by
    have := fragmentLoop_ne_nil 15 hlong
    rwa [hloop] at this
  have hrest : 0 < rest := by
    have := @fragmentLoop_rest_pos fragmentationThreshold headerLength trailerLength 16 _ hpos
    rwa [hloop] at this
  have hdone : headerLength + trailerLength + rest ≤ fragmentationThreshold := by
    have := fragmentLoop_rest_le 16 hmax hfits
    rwa [hloop] at this
  have hsizes : fragmentSizes fragmentationThreshold headerLength trailerLength payloadLength =
      sizes ++ [rest] := by
    have hrounds : MAX_NUM_FRAGMENTS.toNat = 16 := rfl
    simp only [fragmentSizes, hrounds, hloop]
    rw [if_pos hrest.ne']
  rw [hsizes]
  constructor
  · have := List.length_pos_of_ne_nil hne
    simp only [List.length_append, List.length_singleton]
    omega
  · intro size hsize
    rcases List.mem_append.mp hsize with hsize | hsize
    · have hmem : size ∈ (fragmentLoop fragmentationThreshold headerLength trailerLength 16
          payloadLength).1 := by rwa [hloop]
      have := mem_fragmentLoop 16 hmem
      omega
    · rw [List.mem_singleton.mp hsize]
      exact hdone

/-- A frame that is too long is cut into at least two fragments, and all of them are short
enough, header and trailer included. -/
theorem computeFragmentSizes_cut {frame : PacketData} {station : Ieee80211Station}
    {sizes : List Int} (hlong : station.fragmentationThreshold < frame.getByteLength)
    (h : station.computeFragmentSizes frame = .ok sizes) :
    2 ≤ sizes.length ∧ ∃ header, frame.peekHeader = .ok header ∧
      ∀ size ∈ sizes, header.chunkLength + 4 + size ≤ station.fragmentationThreshold := by
  unfold computeFragmentSizes at h
  rw [if_pos hlong] at h
  obtain ⟨header, hheader, h⟩ := bind_eq_ok.mp h
  obtain ⟨trailerLength, htrailer, h⟩ := bind_eq_ok.mp h
  obtain rfl := PacketData.peekTrailer_ok htrailer
  simp only at h
  split at h
  · cases h
  · rename_i hfits
    obtain rfl := Except.ok.inj h
    obtain ⟨htwo, hshort⟩ := fragmentSizes_spec (by omega) (not_lt.mp hfits)
    exact ⟨htwo, header, hheader, hshort⟩

theorem createFragments_length (name : String) (frameHeader : Ieee80211DataHeader) (i : Nat)
    (sizes : List Int) (station : Ieee80211Station) :
    (createFragments name frameHeader i sizes station).1.length = sizes.length := by
  induction sizes generalizing i station with
  | nil => rfl
  | cons size sizes ih => simp only [createFragments, List.length_cons, ih]

theorem fragmentIfNeeded_of_le {frame : Nat} {data : PacketData} {station : Ieee80211Station}
    (hdata : station.packets frame = some data)
    (h : (data.getByteLength : Int) ≤ station.fragmentationThreshold) :
    station.fragmentIfNeeded frame = .ok (none, station) := by
  simp [fragmentIfNeeded, getPacket_of_eq hdata, computeFragmentSizes_of_le h, bind, Except.bind,
    pure, Except.pure]

theorem fragmentIfNeeded_cut {frame : Nat} {data : PacketData}
    {station station' : Ieee80211Station} {fragments : Option (List Nat)}
    (hdata : station.packets frame = some data)
    (hlong : station.fragmentationThreshold < data.getByteLength)
    (h : station.fragmentIfNeeded frame = .ok (fragments, station')) :
    ∃ frames, fragments = some frames ∧ 2 ≤ frames.length := by
  obtain ⟨_, hget, h⟩ := bind_eq_ok.mp h
  rw [getPacket_of_eq hdata] at hget
  obtain rfl := Except.ok.inj hget
  obtain ⟨sizes, hsizes, h⟩ := bind_eq_ok.mp h
  obtain ⟨htwo, _⟩ := computeFragmentSizes_cut hlong hsizes
  rw [if_pos (by omega)] at h
  obtain ⟨⟨frames, cut⟩, hframes, h⟩ := bind_eq_ok.mp h
  obtain ⟨rfl, rfl⟩ := Prod.mk.inj (Except.ok.inj h)
  refine ⟨frames, rfl, ?_⟩
  obtain ⟨_, _, hframes⟩ := bind_eq_ok.mp hframes
  obtain ⟨⟨header, rest⟩, _, hframes⟩ := bind_eq_ok.mp hframes
  obtain ⟨_, _, hframes⟩ := bind_eq_ok.mp hframes
  obtain ⟨rfl, _⟩ := Prod.mk.inj (Except.ok.inj hframes)
  rw [createFragments_length]
  exact htwo

def numbered (header : Ieee80211DataHeader) (number : Fin 4096) (data : PacketData) : PacketData :=
  data.insertAtFront (.ieee80211DataHeader { header with sequenceNumber := some number })

theorem getByteLength_numbered (header : Ieee80211DataHeader) (number : Fin 4096)
    (data : PacketData) :
    (numbered header number data).getByteLength = header.chunkLength + data.getByteLength := by
  simp [numbered, Chunk.getChunkLength]

def afterNumbering (packet : Nat) (header : Ieee80211DataHeader) (data : PacketData)
    (station : Ieee80211Station) : Ieee80211Station :=
  let number := station.nextSeqNum header.receiverAddress
  (station.setLastSeqNum header.receiverAddress number).setPacket packet
    (some (numbered header number data))

section Frames
variable {packet : Nat} {header : Ieee80211DataHeader} {data : PacketData}
  {station : Ieee80211Station}
  (hdata : station.packets packet = some (data.insertAtFront (.ieee80211DataHeader header)))
include hdata

theorem framesOfPacket_of_qos (hqos : header.type = .ST_DATA_WITH_QOS) :
    station.framesOfPacket packet =
      .error (.assertFailed "header->getType() != ST_DATA_WITH_QOS") := by
  have hassign : station.assignSequenceNumber header =
      .error (.assertFailed "header->getType() != ST_DATA_WITH_QOS") := by
    simp [assignSequenceNumber, assert, hqos, bind, Except.bind]
  simp [framesOfPacket, getPacket_of_eq hdata, PacketData.removeHeader, PacketData.peekHeader,
    PacketData.insertAtFront, hassign, bind, Except.bind, pure, Except.pure]

theorem framesOfPacket_of_not_qos (hqos : header.type ≠ .ST_DATA_WITH_QOS) :
    station.framesOfPacket packet =
      ((afterNumbering packet header data station).fragmentIfNeeded packet).map fun r =>
        (r.1.getD [packet], r.2) := by
  have hassign : station.assignSequenceNumber header =
      .ok ({ header with sequenceNumber := some (station.nextSeqNum header.receiverAddress) },
        station.setLastSeqNum header.receiverAddress
          (station.nextSeqNum header.receiverAddress)) := by
    simp [assignSequenceNumber, assert, hqos, bind, Except.bind, pure, Except.pure]
  simp [framesOfPacket, getPacket_of_eq hdata, PacketData.removeHeader, PacketData.peekHeader,
    PacketData.insertAtFront, hassign, bind, Except.bind, pure, Except.pure, afterNumbering,
    numbered]
  rfl

/-- A single frame comes back exactly if the packet has no QoS header and is short enough, and
this frame is then the packet itself. -/
theorem framesOfPacket_eq_singleton {frame : Nat} {station' : Ieee80211Station} :
    station.framesOfPacket packet = .ok ([frame], station') ↔
      header.type ≠ .ST_DATA_WITH_QOS ∧
        (header.chunkLength + data.getByteLength : Int) ≤ station.fragmentationThreshold ∧
        frame = packet ∧ station' = afterNumbering packet header data station := by
  by_cases hqos : header.type = .ST_DATA_WITH_QOS
  · simp [framesOfPacket_of_qos hdata hqos, hqos]
  · rw [framesOfPacket_of_not_qos hdata hqos]
    have hpacket : (afterNumbering packet header data station).packets packet =
        some (numbered header (station.nextSeqNum header.receiverAddress) data) := by
      simp [afterNumbering, setPacket]
    have hthreshold : (afterNumbering packet header data station).fragmentationThreshold =
        station.fragmentationThreshold := rfl
    by_cases hshort :
        (header.chunkLength + data.getByteLength : Int) ≤ station.fragmentationThreshold
    · have hkeep := fragmentIfNeeded_of_le hpacket
        (by rw [getByteLength_numbered, hthreshold]; push_cast; exact hshort)
      simp only [hkeep, Except.map, Option.getD_none, Except.ok.injEq, Prod.mk.injEq,
        List.cons.injEq, and_true, hqos, hshort, true_and, ne_eq, not_false_eq_true]
      exact and_congr eq_comm eq_comm
    · have hlong : (afterNumbering packet header data station).fragmentationThreshold <
          (numbered header (station.nextSeqNum header.receiverAddress) data).getByteLength := by
        rw [getByteLength_numbered, hthreshold]
        push_cast
        exact not_le.mp hshort
      simp only [hshort, false_and, and_false, iff_false]
      intro h
      cases hcut : (afterNumbering packet header data station).fragmentIfNeeded packet with
      | error e => rw [hcut] at h; cases h
      | ok r =>
        obtain ⟨frames, hframes, htwo⟩ := fragmentIfNeeded_cut hpacket hlong hcut
        rw [hcut] at h
        have hone : r.1.getD [packet] = [frame] := congrArg Prod.fst (Except.ok.inj h)
        rw [hframes, Option.getD_some] at hone
        rw [hone] at htwo
        simp at htwo

end Frames

end Ieee80211Station
end SpaceVeins

import SpaceVeins.DataService
import SpaceVeins.Samac

/-!
# How SAMAC turns a packet into a frame

`encapsulate` gives the packet the headers of an 802.11 frame, passes it through
the data service of the co-located station, and finishes the frame that it gets
back. The injection then sends the packet that it took from the queue, so it
matters whether the two are the same.
-/

set_option autoImplicit false

namespace SpaceVeins

/-- The default interface MTU, in bytes. -/
def SAMAC_MTU : Nat := 4470

namespace Ieee80211OfdmCompliantModes

/-- `Ieee80211OfdmCompliantModes::getCompliantMode`. -/
def getCompliantMode (signalRateField : Nat) (channelSpacing : ℚ) :
    Except SimError Ieee80211OfdmMode :=
  let find := fun modes : List (Nat × String) =>
    match modes.lookup signalRateField with
    | some name => .ok ⟨name⟩
    | none => .error (.cRuntimeError (toString signalRateField ++ " is not a valid rate"))
  if channelSpacing = 20000000 then
    find [(13, "ofdmMode6MbpsCS20MHz"), (15, "ofdmMode9MbpsCS20MHz"), (5, "ofdmMode12MbpsCS20MHz"),
      (7, "ofdmMode18MbpsCS20MHz"), (9, "ofdmMode24MbpsCS20MHz"), (11, "ofdmMode36Mbps"),
      (1, "ofdmMode48Mbps"), (3, "ofdmMode54Mbps")]
  else if channelSpacing = 10000000 then
    find [(13, "ofdmMode3MbpsCS10MHz"), (15, "ofdmMode4_5MbpsCS10MHz"), (5, "ofdmMode6MbpsCS10MHz"),
      (7, "ofdmMode9MbpsCS10MHz"), (9, "ofdmMode12MbpsCS10MHz"), (11, "ofdmMode18MbpsCS10MHz"),
      (1, "ofdmMode24MbpsCS10MHz"), (3, "ofdmMode27Mbps")]
  else if channelSpacing = 5000000 then
    find [(13, "ofdmMode1_5Mbps"), (15, "ofdmMode2_25Mbps"), (5, "ofdmMode3MbpsCS5MHz"),
      (7, "ofdmMode4_5MbpsCS5MHz"), (9, "ofdmMode6MbpsCS5MHz"), (11, "ofdmMode9MbpsCS5MHz"),
      (1, "ofdmMode12MbpsCS5MHz"), (3, "ofdmMode13_5Mbps")]
  else .error (.cRuntimeError ("Channel spacing = " ++ toString channelSpacing ++
    " must be 5, 10 or 20 MHz"))

theorem getCompliantMode_nine_ok {channelSpacing : ℚ} :
    (∃ mode, getCompliantMode 9 channelSpacing = .ok mode) ↔
      channelSpacing = 20000000 ∨ channelSpacing = 10000000 ∨ channelSpacing = 5000000 := by
  unfold getCompliantMode
  by_cases h20 : channelSpacing = 20000000
  · simp [h20, List.lookup]
  · by_cases h10 : channelSpacing = 10000000
    · simp [h10, List.lookup]
    · by_cases h5 : channelSpacing = 5000000 <;> simp [h20, h10, h5, List.lookup]

end Ieee80211OfdmCompliantModes

namespace PacketData

/-- `getTag<...>` of a tag that may be absent. -/
def getTag {α : Type} (typename : String) : Option α → Except SimError α
  | some tag => .ok tag
  | none => .error (.cRuntimeError ("Tag '" ++ typename ++ "' is absent"))

theorem getTag_eq_ok {α : Type} {typename : String} {tag : Option α} {a : α} :
    getTag typename tag = .ok a ↔ tag = some a := by
  cases tag <;> simp [getTag]

end PacketData

namespace Samac

/-- The LLC header. -/
def insertLlcHeader (packet : PacketData) : Except SimError PacketData := do
  let protocol ← PacketData.getTag "inet::PacketProtocolTag" packet.packetProtocolTag
  let ethType := (protocol.map Protocol.findProtocolNumber).getD (-1)
  if ethType = -1 then
    throw (.cRuntimeError ("EtherType not found for protocol " ++
      (protocol.map Protocol.getName).getD "(nullptr)"))
  else
    pure { packet.insertAtFront (.ieee80211EtherTypeHeader ethType) with
      packetProtocolTag := some (some .ieee80211EtherType)
      llcProtocolTag := some .ieee80211EtherType }

def setAddresses (mib : Ieee80211Mib) (destAddress : MacAddress) (header : Ieee80211DataHeader) :
    Except SimError Ieee80211DataHeader :=
  let header := { header with transmitterAddress := mib.address }
  match mib.mode with
  | some .INDEPENDENT => .ok { header with receiverAddress := destAddress }
  | some .INFRASTRUCTURE =>
    match mib.stationType with
    | some .ACCESS_POINT =>
      .ok { header with fromDS := true, address3 := mib.address, receiverAddress := destAddress }
    | some .STATION =>
      .ok { header with toDS := true, receiverAddress := mib.bssid, address3 := destAddress }
    | none => .error (.cRuntimeError "Unknown station type")
  | _ => .error (.cRuntimeError "Unknown mode")

/-- A user priority makes the frame a QoS frame. -/
def setPriority (userPriorityReq : Option Int) (header : Ieee80211DataHeader) :
    Ieee80211DataHeader :=
  match userPriorityReq with
  | some userPriority =>
    { header with
      type := .ST_DATA_WITH_QOS
      chunkLength := header.chunkLength + QOSCONTROL_PART_LENGTH
      tid := userPriority }
  | none => header

/-- `encapsulate` up to the packet in front of which both headers have been inserted. -/
def insertHeaders (mib : Ieee80211Mib) (packet : PacketData) : Except SimError PacketData := do
  let packet ← insertLlcHeader packet
  let destAddress ← PacketData.getTag "inet::MacAddressReq" packet.macAddressReq
  let header ← setAddresses mib destAddress .new
  let header := setPriority packet.userPriorityReq header
  let header := { header with durationField := 0 }
  pure (packet.insertAtFront (.ieee80211DataHeader header))

/-- A frame with its trailer, its protocol and its mode request. -/
def withTrailer (mode : Ieee80211OfdmMode) (packet : PacketData) : PacketData :=
  { packet.insertAtBack .ieee80211MacTrailer with
    packetProtocolTag := some (some .ieee80211Mac)
    ieee80211ModeReq := some mode }

/-- `encapsulate` after the frames have been extracted. The variable `packet` now names the first
frame, which is not what the caller knows as its packet. -/
def finishFrame (wlanBandwidth : ℚ) (frames : Option (List Nat)) (station : Ieee80211Station) :
    Except SimError Ieee80211Station :=
  match frames with
  | none => .error (.cRuntimeError "the frames are a null pointer")
  | some frames => do
    assert "frames->size() == 1" (decide (frames.length = 1))
    let packet := frames.headD 0
    let data ← station.getPacket packet
    let mode ← Ieee80211OfdmCompliantModes.getCompliantMode 9 wlanBandwidth
    pure (station.setPacket packet (some (withTrailer mode data)))

/-- `encapsulate` before the frames are extracted. -/
def offerFrame (packet : Nat) (inProgressFrames : PacketQueue) (station : Ieee80211Station) :
    Except SimError (PacketQueue × Ieee80211Station) := do
  let data ← station.getPacket packet
  let data ← insertHeaders station.mib data
  pure (inProgressFrames.pushPacket ⟨packet, 8 * data.getByteLength⟩,
    station.setPacket packet (some data))

def encapsulatePacket (wlanBandwidth : ℚ) (packet : Nat) (inProgressFrames : PacketQueue)
    (station : Ieee80211Station) : Except SimError (PacketQueue × Ieee80211Station) := do
  let (inProgressFrames, station) ← offerFrame packet inProgressFrames station
  let (frames, inProgressFrames, station) ← station.extractFramesToTransmit inProgressFrames
  let station ← finishFrame wlanBandwidth frames station
  pure (inProgressFrames, station)

/-- A `DropTailQueue` with its default limits. -/
def dropTailQueue (packets : List Packet) : PacketQueue := ⟨packets, 100, -1, []⟩

/-- `encapsulate` as the module's injection sees it, with the co-located station as it is when
the packet is injected. The packet that is sent is the one that was taken from the queue. -/
def encapsulateAt (wlanBandwidth : ℚ) (stationAt : Packet → Ieee80211Station) (packet : Packet)
    (inProgressFrames : List Packet) : Except SimError (Packet × List Packet) := do
  let (inProgressFrames, station) ←
    encapsulatePacket wlanBandwidth packet.id (dropTailQueue inProgressFrames) (stationAt packet)
  let data ← station.getPacket packet.id
  pure (⟨packet.id, 8 * data.getByteLength⟩, inProgressFrames.queue)

/-! When the headers can be built, and what they are. -/

def Addressable (mib : Ieee80211Mib) : Prop :=
  mib.mode = some .INDEPENDENT ∨ mib.mode = some .INFRASTRUCTURE ∧ mib.stationType ≠ none

theorem setAddresses_isOk {mib : Ieee80211Mib} (destAddress : MacAddress)
    (header : Ieee80211DataHeader) :
    (∃ result, setAddresses mib destAddress header = .ok result) ↔ Addressable mib := by
  unfold setAddresses Addressable
  rcases mib.mode with _ | _ | _ | _
  · simp
  · rcases mib.stationType with _ | _ | _ <;> simp
  · simp
  · simp

theorem setAddresses_keep {mib : Ieee80211Mib} {destAddress : MacAddress}
    {header result : Ieee80211DataHeader} (h : setAddresses mib destAddress header = .ok result) :
    result.type = header.type ∧ result.chunkLength = header.chunkLength := by
  unfold setAddresses at h
  rcases hmode : mib.mode with _ | _ | _ | _ <;> simp only [hmode] at h
  · cases h
  · rcases hstation : mib.stationType with _ | _ | _ <;> simp only [hstation] at h
    · cases h
    · obtain rfl := Except.ok.inj h
      exact ⟨rfl, rfl⟩
    · obtain rfl := Except.ok.inj h
      exact ⟨rfl, rfl⟩
  · obtain rfl := Except.ok.inj h
    exact ⟨rfl, rfl⟩
  · cases h

/-- The tags and the MIB allow the headers. -/
structure Headed (mib : Ieee80211Mib) (packet : PacketData) : Prop where
  protocol : ∃ protocol, packet.packetProtocolTag = some (some protocol) ∧
    protocol.findProtocolNumber ≠ -1
  destination : packet.macAddressReq ≠ none
  addressable : Addressable mib

def withLlcHeader (ethType : Int) (packet : PacketData) : PacketData :=
  { packet.insertAtFront (.ieee80211EtherTypeHeader ethType) with
    packetProtocolTag := some (some .ieee80211EtherType)
    llcProtocolTag := some .ieee80211EtherType }

theorem insertLlcHeader_eq_ok {packet result : PacketData} :
    insertLlcHeader packet = .ok result ↔
      ∃ protocol, packet.packetProtocolTag = some (some protocol) ∧
        protocol.findProtocolNumber ≠ -1 ∧
        result = withLlcHeader protocol.findProtocolNumber packet := by
  unfold insertLlcHeader
  rcases packet.packetProtocolTag with _ | _ | protocol
  · simp [PacketData.getTag, bind, Except.bind]
  · simp [PacketData.getTag, bind, Except.bind, throw, throwThe, MonadExceptOf.throw]
  · by_cases hnone : protocol.findProtocolNumber = -1
    · simp [PacketData.getTag, bind, Except.bind, throw, throwThe, MonadExceptOf.throw, hnone]
    · simp [PacketData.getTag, bind, Except.bind, pure, Except.pure, hnone, withLlcHeader,
        eq_comm (a := result)]

theorem insertHeaders_eq_ok {mib : Ieee80211Mib} {packet result : PacketData} :
    insertHeaders mib packet = .ok result ↔
      ∃ protocol destAddress header, packet.packetProtocolTag = some (some protocol) ∧
        protocol.findProtocolNumber ≠ -1 ∧ packet.macAddressReq = some destAddress ∧
        setAddresses mib destAddress .new = .ok header ∧
        result = (withLlcHeader protocol.findProtocolNumber packet).insertAtFront
          (.ieee80211DataHeader
            { setPriority packet.userPriorityReq header with durationField := 0 }) := by
  simp only [insertHeaders, bind_eq_ok, insertLlcHeader_eq_ok, PacketData.getTag_eq_ok, pure,
    Except.pure, Except.ok.injEq]
  constructor
  · rintro ⟨_, ⟨protocol, hprotocol, hnumber, rfl⟩, destAddress, hdest, header, hheader, rfl⟩
    exact ⟨protocol, destAddress, header, hprotocol, hnumber, hdest, hheader, rfl⟩
  · rintro ⟨protocol, destAddress, header, hprotocol, hnumber, hdest, hheader, rfl⟩
    exact ⟨_, ⟨protocol, hprotocol, hnumber, rfl⟩, destAddress, hdest, header, hheader, rfl⟩

theorem insertHeaders_isOk {mib : Ieee80211Mib} {packet : PacketData} :
    (∃ result, insertHeaders mib packet = .ok result) ↔ Headed mib packet := by
  constructor
  · rintro ⟨_, h⟩
    obtain ⟨protocol, destAddress, header, hprotocol, hnumber, hdest, hheader, _⟩ :=
      insertHeaders_eq_ok.mp h
    refine ⟨⟨protocol, hprotocol, hnumber⟩, ?_, (setAddresses_isOk _ _).mp ⟨header, hheader⟩⟩
    rw [hdest]
    exact Option.some_ne_none _
  · rintro ⟨⟨protocol, hprotocol, hnumber⟩, hdest, haddressable⟩
    obtain ⟨destAddress, hdest⟩ := Option.ne_none_iff_exists'.mp hdest
    obtain ⟨header, hheader⟩ := (setAddresses_isOk destAddress .new).mpr haddressable
    exact ⟨_, insertHeaders_eq_ok.mpr
      ⟨protocol, destAddress, header, hprotocol, hnumber, hdest, hheader, rfl⟩⟩

theorem insertHeaders_shape {mib : Ieee80211Mib} {packet result : PacketData}
    (h : insertHeaders mib packet = .ok result) :
    ∃ (header : Ieee80211DataHeader) (body : PacketData),
      result = body.insertAtFront (.ieee80211DataHeader header) ∧
        body.getByteLength = 2 + packet.getByteLength ∧
        (packet.userPriorityReq ≠ none → header.type = .ST_DATA_WITH_QOS) ∧
        (packet.userPriorityReq = none →
          header.type = .ST_DATA ∧ header.chunkLength = DATAFRAME_HEADER_MINLENGTH) := by
  obtain ⟨protocol, destAddress, header, _, _, _, hheader, rfl⟩ := insertHeaders_eq_ok.mp h
  obtain ⟨htype, hlength⟩ := setAddresses_keep hheader
  refine ⟨_, _, rfl, PacketData.getByteLength_insertAtFront _ packet, ?_, ?_⟩
  · intro hpriority
    obtain ⟨priority, hpriority⟩ := Option.ne_none_iff_exists'.mp hpriority
    simp [setPriority, hpriority]
  · intro hpriority
    simp [setPriority, hpriority, htype, hlength, Ieee80211DataHeader.new]

theorem offerFrame_eq_ok {packet : Nat} {queue queue' : PacketQueue}
    {station station' : Ieee80211Station} :
    offerFrame packet queue station = .ok (queue', station') ↔
      ∃ data framed, station.packets packet = some data ∧
        insertHeaders station.mib data = .ok framed ∧
        queue' = queue.pushPacket ⟨packet, 8 * framed.getByteLength⟩ ∧
        station' = station.setPacket packet (some framed) := by
  simp only [offerFrame, bind_eq_ok, Ieee80211Station.getPacket_eq_ok, pure, Except.pure,
    Except.ok.injEq, Prod.mk.injEq]
  constructor
  · rintro ⟨data, hdata, framed, hframed, rfl, rfl⟩
    exact ⟨data, framed, hdata, hframed, rfl, rfl⟩
  · rintro ⟨data, framed, hdata, hframed, rfl, rfl⟩
    exact ⟨data, hdata, framed, hframed, rfl, rfl⟩

theorem pushPacket_dropTailQueue_nil (packet : Packet) :
    (dropTailQueue []).pushPacket packet = dropTailQueue [packet] := rfl

theorem extractFrames_dropTailQueue (packet : Packet) (station : Ieee80211Station) :
    station.extractFramesToTransmit (dropTailQueue [packet]) =
      (station.framesOfPacket packet.id).map fun r => (some r.1, dropTailQueue [], r.2) := by
  change Except.bind _ _ = _
  cases station.framesOfPacket packet.id <;> rfl

theorem finishFrame_eq_ok {wlanBandwidth : ℚ} {frames : List Nat}
    {station station' : Ieee80211Station} :
    finishFrame wlanBandwidth (some frames) station = .ok station' ↔
      ∃ frame data mode, frames = [frame] ∧ station.packets frame = some data ∧
        Ieee80211OfdmCompliantModes.getCompliantMode 9 wlanBandwidth = .ok mode ∧
        station' = station.setPacket frame (some (withTrailer mode data)) := by
  simp only [finishFrame, bind_eq_ok, assert_eq_ok, decide_eq_true_eq,
    Ieee80211Station.getPacket_eq_ok, pure, Except.pure, Except.ok.injEq]
  constructor
  · rintro ⟨_, hone, data, hdata, mode, hmode, rfl⟩
    obtain ⟨frame, rfl⟩ := List.length_eq_one_iff.mp hone
    exact ⟨frame, data, mode, rfl, hdata, hmode, rfl⟩
  · rintro ⟨frame, data, mode, rfl, hdata, hmode, rfl⟩
    exact ⟨(), rfl, data, hdata, mode, hmode, rfl⟩

/-- What has to hold of the packet and the station for the frame to be built in one piece. -/
structure Encapsulable (wlanBandwidth : ℚ) (station : Ieee80211Station) (packet : PacketData) :
    Prop where
  headed : Headed station.mib packet
  noPriority : packet.userPriorityReq = none
  length_le : ((2 + DATAFRAME_HEADER_MINLENGTH + packet.getByteLength : Nat) : Int) ≤
    station.fragmentationThreshold
  bandwidth : wlanBandwidth = 20000000 ∨ wlanBandwidth = 10000000 ∨ wlanBandwidth = 5000000

/-- The data service gives the framed packet back alone exactly if it is short enough and has no
user priority. -/
theorem framesOfPacket_framed {packet frame : Nat} {data framed : PacketData}
    {station extracted : Ieee80211Station}
    (hframed : insertHeaders station.mib data = .ok framed)
    (h : (station.setPacket packet (some framed)).framesOfPacket packet =
      .ok ([frame], extracted)) :
    frame = packet ∧ data.userPriorityReq = none ∧
      ((2 + DATAFRAME_HEADER_MINLENGTH + data.getByteLength : Nat) : Int) ≤
        station.fragmentationThreshold := by
  obtain ⟨header, body, rfl, hbody, hqos, hplain⟩ := insertHeaders_shape hframed
  have hpacket : (station.setPacket packet
      (some (body.insertAtFront (.ieee80211DataHeader header)))).packets packet =
      some (body.insertAtFront (.ieee80211DataHeader header)) := by
    simp [Ieee80211Station.setPacket]
  obtain ⟨htype, hlength, rfl, _⟩ :=
    (Ieee80211Station.framesOfPacket_eq_singleton hpacket).mp h
  have hnone : data.userPriorityReq = none := by
    by_contra hsome
    exact htype (hqos hsome)
  refine ⟨rfl, hnone, ?_⟩
  have hthreshold : (station.setPacket frame
      (some (body.insertAtFront (.ieee80211DataHeader header)))).fragmentationThreshold =
      station.fragmentationThreshold := rfl
  rw [hthreshold, (hplain hnone).2, hbody] at hlength
  push_cast at hlength ⊢
  omega

theorem framesOfPacket_of_encapsulable {packet : Nat} {data framed : PacketData}
    {station : Ieee80211Station} (hframed : insertHeaders station.mib data = .ok framed)
    (hnone : data.userPriorityReq = none)
    (hlength : ((2 + DATAFRAME_HEADER_MINLENGTH + data.getByteLength : Nat) : Int) ≤
      station.fragmentationThreshold) :
    ∃ extracted numbered, (station.setPacket packet (some framed)).framesOfPacket packet =
      .ok ([packet], extracted) ∧ extracted.packets packet = some numbered := by
  obtain ⟨header, body, rfl, hbody, _, hplain⟩ := insertHeaders_shape hframed
  obtain ⟨htype, hheader⟩ := hplain hnone
  have hpacket : (station.setPacket packet
      (some (body.insertAtFront (.ieee80211DataHeader header)))).packets packet =
      some (body.insertAtFront (.ieee80211DataHeader header)) := by
    simp [Ieee80211Station.setPacket]
  refine ⟨_, _, (Ieee80211Station.framesOfPacket_eq_singleton hpacket).mpr
    ⟨by rw [htype]; decide, ?_, rfl, rfl⟩, if_pos rfl⟩
  change _ ≤ station.fragmentationThreshold
  rw [hheader, hbody]
  push_cast at hlength ⊢
  omega

theorem encapsulatePacket_ok {wlanBandwidth : ℚ} {packet : Nat} {queue : PacketQueue}
    {station station' : Ieee80211Station}
    (h : encapsulatePacket wlanBandwidth packet (dropTailQueue []) station =
      .ok (queue, station')) : queue = dropTailQueue [] := by
  obtain ⟨⟨offered, offeredStation⟩, hoffer, h⟩ := bind_eq_ok.mp h
  obtain ⟨data, framed, _, hframed, rfl, rfl⟩ := offerFrame_eq_ok.mp hoffer
  rw [pushPacket_dropTailQueue_nil] at h
  obtain ⟨⟨frames, inProgress, extracted⟩, hextract, h⟩ := bind_eq_ok.mp h
  rw [extractFrames_dropTailQueue] at hextract
  obtain ⟨_, _, h⟩ := bind_eq_ok.mp h
  obtain ⟨rfl, _⟩ := Prod.mk.inj (Except.ok.inj h)
  cases hpacket : (station.setPacket packet (some framed)).framesOfPacket packet with
  | error e => rw [hpacket] at hextract; cases hextract
  | ok r =>
    rw [hpacket] at hextract
    exact (congrArg (fun r => r.2.1) (Except.ok.inj hextract)).symm

/-- The packet that is sent is the one that was taken from the queue. -/
theorem encapsulateAt_ok {wlanBandwidth : ℚ} {stationAt : Packet → Ieee80211Station}
    {packet frame : Packet} {inProgressFrames : List Packet}
    (h : encapsulateAt wlanBandwidth stationAt packet [] = .ok (frame, inProgressFrames)) :
    frame.id = packet.id ∧ inProgressFrames = [] := by
  obtain ⟨⟨queue, station⟩, hwhole, h⟩ := bind_eq_ok.mp h
  obtain ⟨data, _, h⟩ := bind_eq_ok.mp h
  obtain ⟨rfl, rfl⟩ := Prod.mk.inj (Except.ok.inj h)
  exact ⟨rfl, congrArg PacketQueue.queue (encapsulatePacket_ok hwhole)⟩

/-- The injection of `packet` completes and sends exactly the one frame that the data service
returned, with trailer and mode request. -/
def SendsExtractedFrame (wlanBandwidth : ℚ) (station : Ieee80211Station) (packet : Packet)
    (v : Samac) : Prop :=
  ∃ offered offeredStation frame inProgress extracted finished data v',
    offerFrame packet.id (dropTailQueue v.inProgressFrames) station =
      .ok (offered, offeredStation) ∧
    offeredStation.extractFramesToTransmit offered = .ok (some [frame], inProgress, extracted) ∧
    finishFrame wlanBandwidth (some [frame]) extracted = .ok finished ∧
    finished.packets frame = some data ∧
    data.chunks.getLast? = some .ieee80211MacTrailer ∧ data.ieee80211ModeReq ≠ none ∧
    v.doPacketInjection = .ok v' ∧
    v'.sentDirect = v.sentDirect ++ [⟨frame, 8 * data.getByteLength⟩]

section Injection
variable {wlanBandwidth : ℚ} {stationAt : Packet → Ieee80211Station} {packet : Packet}
  {rest : List Packet} {data : PacketData} {v : Samac}
  (hdata : (stationAt packet).packets packet.id = some data) (hidle : v.inProgressFrames = [])
include hdata hidle

theorem encapsulable_of_sends
    (h : SendsExtractedFrame wlanBandwidth (stationAt packet) packet v) :
    Encapsulable wlanBandwidth (stationAt packet) data := by
  obtain ⟨_, _, frame, _, extracted, finished, _, _, hoffer, hextract, hfinish, _⟩ := h
  obtain ⟨data', framed, hdata', hframed, rfl, rfl⟩ := offerFrame_eq_ok.mp hoffer
  obtain rfl : data = data' := Option.some.inj (hdata.symm.trans hdata')
  rw [hidle, pushPacket_dropTailQueue_nil, extractFrames_dropTailQueue] at hextract
  cases hframes : ((stationAt packet).setPacket packet.id (some framed)).framesOfPacket
      packet.id with
  | error e => rw [hframes] at hextract; cases hextract
  | ok r =>
    rw [hframes] at hextract
    have hone : r.1 = [frame] :=
      Option.some.inj (congrArg (fun r => r.1) (Except.ok.inj hextract))
    obtain ⟨frames, after⟩ := r
    obtain rfl : frames = [frame] := hone
    obtain ⟨_, hnone, hlength⟩ := framesOfPacket_framed hframed hframes
    obtain ⟨_, _, mode, _, _, hmode, _⟩ := finishFrame_eq_ok.mp hfinish
    exact ⟨insertHeaders_isOk.mp ⟨framed, hframed⟩, hnone, hlength,
      Ieee80211OfdmCompliantModes.getCompliantMode_nine_ok.mp ⟨mode, hmode⟩⟩

theorem sends_of_encapsulable (hencapsulate : v.encapsulate = encapsulateAt wlanBandwidth stationAt)
    (hqueue : v.pendingQueue.queue = packet :: rest)
    (h : Encapsulable wlanBandwidth (stationAt packet) data) :
    SendsExtractedFrame wlanBandwidth (stationAt packet) packet v := by
  obtain ⟨framed, hframed⟩ := insertHeaders_isOk.mpr h.headed
  obtain ⟨extracted, numbered, hframes, hnumbered⟩ :=
    @framesOfPacket_of_encapsulable packet.id data framed _ hframed h.noPriority h.length_le
  obtain ⟨mode, hmode⟩ := Ieee80211OfdmCompliantModes.getCompliantMode_nine_ok.mpr h.bandwidth
  have hoffer : offerFrame packet.id (dropTailQueue []) (stationAt packet) =
      .ok ((dropTailQueue []).pushPacket ⟨packet.id, 8 * framed.getByteLength⟩,
        (stationAt packet).setPacket packet.id (some framed)) :=
    offerFrame_eq_ok.mpr ⟨data, framed, hdata, hframed, rfl, rfl⟩
  have hextract : ((stationAt packet).setPacket packet.id (some framed)).extractFramesToTransmit
      ((dropTailQueue []).pushPacket ⟨packet.id, 8 * framed.getByteLength⟩) =
      .ok (some [packet.id], dropTailQueue [], extracted) := by
    rw [pushPacket_dropTailQueue_nil, extractFrames_dropTailQueue, hframes]
    rfl
  have hfinish : finishFrame wlanBandwidth (some [packet.id]) extracted =
      .ok (extracted.setPacket packet.id (some (withTrailer mode numbered))) :=
    finishFrame_eq_ok.mpr ⟨packet.id, numbered, mode, rfl, hnumbered, hmode, rfl⟩
  have hwhole : encapsulatePacket wlanBandwidth packet.id (dropTailQueue []) (stationAt packet) =
      .ok (dropTailQueue [],
        extracted.setPacket packet.id (some (withTrailer mode numbered))) :=
    bind_eq_ok.mpr ⟨_, hoffer, bind_eq_ok.mpr ⟨_, hextract,
      bind_eq_ok.mpr ⟨_, hfinish, rfl⟩⟩⟩
  have hinject : v.encapsulate packet v.inProgressFrames =
      .ok (⟨packet.id, 8 * (withTrailer mode numbered).getByteLength⟩, []) := by
    rw [hencapsulate, hidle]
    exact bind_eq_ok.mpr ⟨_, hwhole, bind_eq_ok.mpr
      ⟨_, Ieee80211Station.getPacket_setPacket _ _ _, rfl⟩⟩
  have hpop : v.pendingQueue.popPacket = .ok (packet, { v.pendingQueue with queue := rest }) := by
    simp [PacketQueue.popPacket, hqueue]
  refine ⟨_, _, packet.id, _, extracted, _, withTrailer mode numbered, _, ?_, hextract, hfinish,
    ?_, ?_, ?_, bind_eq_ok.mpr ⟨_, hpop, bind_eq_ok.mpr ⟨_, hinject, rfl⟩⟩, rfl⟩
  · rw [hidle]
    exact hoffer
  · simp [Ieee80211Station.setPacket]
  · simp [withTrailer, PacketData.insertAtBack]
  · exact Option.some_ne_none mode

theorem sends_iff_encapsulable
    (hencapsulate : v.encapsulate = encapsulateAt wlanBandwidth stationAt)
    (hqueue : v.pendingQueue.queue = packet :: rest) :
    SendsExtractedFrame wlanBandwidth (stationAt packet) packet v ↔
      Encapsulable wlanBandwidth (stationAt packet) data :=
  ⟨encapsulable_of_sends hdata hidle, sends_of_encapsulable hdata hidle hencapsulate hqueue⟩

/-- With the default threshold the injection of a packet completes, and sends the frame that the
data service returned, exactly if the packet has at most 1474 bytes, headers can be built for it,
it asks for no user priority, and a mode exists for the bandwidth. -/
theorem injection_completes_iff
    (hencapsulate : v.encapsulate = encapsulateAt wlanBandwidth stationAt)
    (hqueue : v.pendingQueue.queue = packet :: rest)
    (hthreshold : (stationAt packet).fragmentationThreshold = 1500) :
    SendsExtractedFrame wlanBandwidth (stationAt packet) packet v ↔
      Headed (stationAt packet).mib data ∧ data.userPriorityReq = none ∧
        data.getByteLength ≤ 1474 ∧
        (wlanBandwidth = 20000000 ∨ wlanBandwidth = 10000000 ∨ wlanBandwidth = 5000000) := by
  rw [sends_iff_encapsulable hdata hidle hencapsulate hqueue]
  have hminimum : DATAFRAME_HEADER_MINLENGTH = 24 := rfl
  constructor
  · intro h
    have hlength := h.length_le
    rw [hthreshold, hminimum] at hlength
    exact ⟨h.headed, h.noPriority, by omega, h.bandwidth⟩
  · rintro ⟨hheaded, hpriority, hlength, hbandwidth⟩
    refine ⟨hheaded, hpriority, ?_, hbandwidth⟩
    rw [hthreshold, hminimum]
    omega

end Injection

def ipv4Packet (length : Nat) : PacketData where
  name := "UdpBasicAppData-0"
  chunks := [.other length]
  packetProtocolTag := some (some .ipv4)
  llcProtocolTag := none
  macAddressReq := some (.ofBits 0xFFFFFFFFFFFF)
  userPriorityReq := none
  ieee80211ModeReq := none

def adHocStation (length : Nat) : Ieee80211Station where
  packets := fun p => if p = 0 then some (ipv4Packet length) else none
  nextPacket := 1
  mib := ⟨.ofBits 7, some .INDEPENDENT, .ofBits 0, none⟩
  fragmentationThreshold := 1500
  lastSentSeqNums := fun _ => none

def vehicleWithPacket (length : Nat) : Samac :=
  initial (.ofBits 7) (SimTime.ofMs 10) (some 0xE0000001) 9001
    (dropTailQueue [⟨0, 8 * length⟩]) (encapsulateAt 10000000 fun _ => adHocStation length)

theorem headed_ipv4Packet (length : Nat) : Headed (adHocStation length).mib (ipv4Packet length) :=
  ⟨⟨.ipv4, rfl, by decide⟩, Option.some_ne_none _, Or.inl rfl⟩

theorem injection_completes_600 :
    SendsExtractedFrame 10000000 (adHocStation 600) ⟨0, 4800⟩ (vehicleWithPacket 600) :=
  (@injection_completes_iff 10000000 (fun _ => adHocStation 600) ⟨0, 4800⟩ [] (ipv4Packet 600)
    (vehicleWithPacket 600) rfl rfl rfl rfl rfl).mpr
    ⟨headed_ipv4Packet 600, rfl, (by decide), Or.inr (Or.inl rfl)⟩

/-- One byte more than the threshold allows, and well below the MTU: the injection ends in an
error, since the frame is examined for a trailer that it does not have yet. -/
theorem injection_fails_1475 :
    (ipv4Packet 1475).getByteLength ≤ SAMAC_MTU ∧
      (vehicleWithPacket 1475).doPacketInjection = .error PacketData.implicitSerialization ∧
      ¬ SendsExtractedFrame 10000000 (adHocStation 1475) ⟨0, 11800⟩ (vehicleWithPacket 1475) := by
  have hfails : (vehicleWithPacket 1475).doPacketInjection =
      .error PacketData.implicitSerialization := rfl
  refine ⟨by decide, hfails, ?_⟩
  rintro ⟨_, _, _, _, _, _, _, v', _, _, _, _, _, _, hsends, _⟩
  rw [hfails] at hsends
  cases hsends

end Samac
end SpaceVeins

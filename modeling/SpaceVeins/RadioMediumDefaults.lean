import SpaceVeins.RadioMediumFilters

/-!
# The medium with its default limits

Without limits the satellite branches should change nothing. The elevation check
asks for the types of the two nodes before it looks at the limit, though, so it
ends the simulation for every pair in which neither node is a car or a drone.
-/

set_option autoImplicit false

namespace SpaceVeins

namespace RadioMedium
variable {K : Type} [Field K] [LinearOrder K]

/-- The limits that `MediumLimitCache.ned` sets by default. -/
structure DefaultLimits (medium : RadioMedium K) : Prop where
  minElevationAngleV2S : medium.mediumLimitCache.minElevationAngleV2S = none
  minElevationAngleD2S : medium.mediumLimitCache.minElevationAngleD2S = none
  disableS2SCommunication : medium.mediumLimitCache.disableS2SCommunication = false

/-- `isPotentialReceiver` without the two branches for satellites. -/
def originalIsPotentialReceiver (medium : RadioMedium K) (libm : Libm K) (radio : IRadio)
    (transmission : Transmission K) (arrival : Arrival K) : Except SimError Bool := do
  let receiverRadio := radio.asRadio
  if medium.rejectedByRadioMode receiverRadio then pure false
  else if medium.rejectedByListening radio then pure false
  else if ← medium.rejectedByMacAddress radio transmission then pure false
  else if medium.rangeFilter = .interferenceRange then
    pure (medium.isInInterferenceRange libm transmission arrival)
  else if medium.rangeFilter = .communicationRange then
    pure (medium.isInCommunicationRange libm transmission arrival)
  else pure true

/-- Both ends are radios in the sense of INET, and one of the nodes is a car or a drone. -/
def Classified (radio : IRadio) (transmission : Transmission K) : Prop :=
  ∃ receiver transmitter, radio.asRadio = some receiver ∧
    transmission.transmitter.asRadio = some transmitter ∧
    ((receiver.nedTypeName = satDroneType ∨ transmitter.nedTypeName = satDroneType) ∨
      (receiver.nedTypeName = satCarType ∨ transmitter.nedTypeName = satCarType))

/-- Both cascades give the same answer, and neither ends the simulation. -/
def Conservative (medium : RadioMedium K) (libm : Libm K) (radio : IRadio)
    (transmission : Transmission K) (arrival : Arrival K) : Prop :=
  ∃ accepted, medium.isPotentialReceiver libm radio transmission arrival = .ok accepted ∧
    medium.originalIsPotentialReceiver libm radio transmission arrival = .ok accepted

variable {medium : RadioMedium K} {libm : Libm K} {radio : IRadio}
  {transmission : Transmission K} {arrival : Arrival K}

omit [Field K] [LinearOrder K] in
theorem minElevationAngle_default (hdefault : medium.DefaultLimits) {r t : String}
    (h : (r = satDroneType ∨ t = satDroneType) ∨ (r = satCarType ∨ t = satCarType)) :
    medium.minElevationAngle r t = .ok none := by
  unfold minElevationAngle
  by_cases hdrone : r = satDroneType ∨ t = satDroneType
  · rw [if_pos hdrone, hdefault.minElevationAngleD2S]
  · rw [if_neg hdrone, if_pos (h.resolve_left hdrone), hdefault.minElevationAngleV2S]

omit [Field K] [LinearOrder K] in
theorem minElevationAngle_error (medium : RadioMedium K) {r t : String}
    (h : ¬ ((r = satDroneType ∨ t = satDroneType) ∨ (r = satCarType ∨ t = satCarType))) :
    ∃ e, medium.minElevationAngle r t = .error e := by
  rw [not_or] at h
  exact ⟨_, by rw [minElevationAngle, if_neg h.1, if_neg h.2]⟩

theorem isElevationAngleLargeEnough_default (hdefault : medium.DefaultLimits)
    (h : Classified radio transmission) :
    medium.isElevationAngleLargeEnough libm radio.asRadio transmission arrival = .ok true := by
  obtain ⟨receiver, transmitter, hreceiver, htransmitter, htypes⟩ := h
  simp only [isElevationAngleLargeEnough, getTransmitter, htransmitter, getReceiver, hreceiver,
    minElevationAngle_default hdefault htypes, bind, Except.bind, pure, Except.pure]

theorem isElevationAngleLargeEnough_error (medium : RadioMedium K) (libm : Libm K)
    (arrival : Arrival K) (h : ¬ Classified radio transmission) :
    ∃ e, medium.isElevationAngleLargeEnough libm radio.asRadio transmission arrival =
      .error e := by
  unfold isElevationAngleLargeEnough getTransmitter
  cases htransmitter : transmission.transmitter.asRadio with
  | none => exact ⟨_, rfl⟩
  | some transmitter =>
    cases hreceiver : radio.asRadio with
    | none => exact ⟨_, rfl⟩
    | some receiver =>
      obtain ⟨e, he⟩ := minElevationAngle_error medium
        fun htypes => h ⟨receiver, transmitter, hreceiver, htransmitter, htypes⟩
      exact ⟨e, by simp only [getReceiver, he, bind, Except.bind]⟩

/-- The cascades agree on a pair if and only if an earlier filter decides about it, or its types
are known to the elevation check. -/
theorem conservative_iff (libm : Libm K) (medium : RadioMedium K)
    (hdefault : medium.DefaultLimits) (radio : IRadio) (transmission : Transmission K)
    (arrival : Arrival K) :
    medium.Conservative libm radio transmission arrival ↔
      medium.rejectedByRadioMode radio.asRadio = true ∨
      medium.rejectedByListening radio = true ∨
      medium.rejectedByMacAddress radio transmission = .ok true ∨
      (medium.rejectedByMacAddress radio transmission = .ok false ∧
        (medium.rangeFilter ≠ .anywhere ∨ Classified radio transmission)) := by
  unfold Conservative isPotentialReceiver originalIsPotentialReceiver
  dsimp only
  by_cases hmode : medium.rejectedByRadioMode radio.asRadio = true
  · rw [if_pos hmode, if_pos hmode]
    exact ⟨fun _ => Or.inl hmode, fun _ => ⟨false, rfl, rfl⟩⟩
  rw [if_neg hmode, if_neg hmode]
  by_cases hlistening : medium.rejectedByListening radio = true
  · rw [if_pos hlistening, if_pos hlistening]
    exact ⟨fun _ => Or.inr (Or.inl hlistening), fun _ => ⟨false, rfl, rfl⟩⟩
  rw [if_neg hlistening, if_neg hlistening, or_iff_right hmode, or_iff_right hlistening]
  cases hmac : medium.rejectedByMacAddress radio transmission with
  | error e => simp [bind, Except.bind]
  | ok rejected =>
    cases rejected with
    | true => simp [bind, Except.bind, pure, Except.pure]
    | false =>
      have hnot : ¬ (Except.ok false : Except SimError Bool) = .ok true := by decide
      rw [or_iff_right hnot, and_iff_right rfl]
      simp only [bind, Except.bind, Bool.false_eq_true, if_false, pure, Except.pure]
      cases hfilter : medium.rangeFilter with
      | interferenceRange =>
        rw [if_pos rfl, if_pos rfl]
        exact ⟨fun _ => Or.inl (by decide), fun _ => ⟨_, rfl, rfl⟩⟩
      | communicationRange =>
        rw [if_neg (by decide), if_pos rfl, if_neg (by decide), if_pos rfl]
        exact ⟨fun _ => Or.inl (by decide), fun _ => ⟨_, rfl, rfl⟩⟩
      | anywhere =>
        have hS2S : medium.rejectedAsSatellites radio.asRadio transmission = .ok false := by
          rw [rejectedAsSatellites, if_neg (by rw [hdefault.disableS2SCommunication]; decide)]
        rw [if_neg (by decide), if_neg (by decide), if_neg (by decide), if_neg (by decide), hS2S]
        constructor
        · rintro ⟨accepted, hnew, -⟩
          right
          by_contra hclassified
          obtain ⟨e, he⟩ := isElevationAngleLargeEnough_error medium libm arrival hclassified
          rw [he] at hnew
          cases hnew
        · intro h
          have hclassified := h.resolve_left (fun hne => hne rfl)
          exact ⟨true, isElevationAngleLargeEnough_default hdefault hclassified, rfl⟩

/-- A medium of INET as it comes, with no filter set. -/
def defaultMedium : RadioMedium ℝ :=
  ⟨⟨none, none, none, none, false⟩, .anywhere, false, false, false⟩

theorem defaultMedium_defaultLimits : defaultMedium.DefaultLimits := ⟨rfl, rfl, rfl⟩

theorem conservative_satellite_to_car :
    defaultMedium.Conservative realLibm (nodeRadio satCarType)
      (nodeTransmission satelliteType ⟨0, 0, 0⟩) ⟨⟨1, 0, 0⟩, ⟨1, 0, 0⟩⟩ :=
  (conservative_iff realLibm defaultMedium defaultMedium_defaultLimits _ _ _).mpr
    (Or.inr (Or.inr (Or.inr ⟨rfl, Or.inr ⟨_, _, rfl, rfl, Or.inr (Or.inl rfl)⟩⟩)))

/-- Two satellites end the simulation, and so do two hosts of INET. -/
theorem default_limits_raise_error :
    defaultMedium.DefaultLimits ∧
    (defaultMedium.isPotentialReceiver realLibm (nodeRadio satelliteType)
        (nodeTransmission satelliteType ⟨0, 0, 0⟩) ⟨⟨1, 0, 0⟩, ⟨1, 0, 0⟩⟩ =
      .error (.cRuntimeError ("Neither V2S nor D2S communication: transmitter module: " ++
        "space_veins.nodes.Satellite, receiver module: space_veins.nodes.Satellite")) ∧
      defaultMedium.originalIsPotentialReceiver realLibm (nodeRadio satelliteType)
        (nodeTransmission satelliteType ⟨0, 0, 0⟩) ⟨⟨1, 0, 0⟩, ⟨1, 0, 0⟩⟩ = .ok true) ∧
    ¬ defaultMedium.Conservative realLibm (nodeRadio "inet.node.inet.AdhocHost")
      (nodeTransmission "inet.node.inet.AdhocHost" ⟨0, 0, 0⟩) ⟨⟨1, 0, 0⟩, ⟨1, 0, 0⟩⟩ := by
  refine ⟨⟨rfl, rfl, rfl⟩, ⟨rfl, rfl⟩, ?_⟩
  rintro ⟨accepted, hnew, -⟩
  have herror : ∃ e, defaultMedium.isPotentialReceiver realLibm
      (nodeRadio "inet.node.inet.AdhocHost")
      (nodeTransmission "inet.node.inet.AdhocHost" ⟨0, 0, 0⟩) ⟨⟨1, 0, 0⟩, ⟨1, 0, 0⟩⟩ =
      .error e := ⟨_, rfl⟩
  obtain ⟨e, he⟩ := herror
  rw [he] at hnew
  cases hnew

end RadioMedium
end SpaceVeins

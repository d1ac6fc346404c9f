import Mathlib.Analysis.SpecialFunctions.Trigonometric.Inverse
import SpaceVeins.RadioMedium

/-!
# Which filters are applied together

A range filter decides on its own, so the satellite filters behind it are never
asked. The configurations are described in which this cannot be noticed.
-/

set_option autoImplicit false

namespace SpaceVeins

namespace RadioMedium
variable {K : Type} [Field K] [LinearOrder K]

def IsSatellite (radio : IRadio) : Prop :=
  ∃ r, radio.asRadio = some r ∧ r.nedTypeName = satelliteType

/-- The two satellite filters hold: satellites do not hear each other if that is disabled, and the
satellite is seen high enough above the horizon of the other node. -/
structure SatelliteFiltersHold (medium : RadioMedium K) (libm : Libm K) (radio : IRadio)
    (transmission : Transmission K) (arrival : Arrival K) : Prop where
  no_s2s : medium.mediumLimitCache.disableS2SCommunication = true →
    ¬ (IsSatellite transmission.transmitter ∧ IsSatellite radio)
  elevation : ∀ receiver transmitter minAngle, radio.asRadio = some receiver →
    transmission.transmitter.asRadio = some transmitter →
    medium.minElevationAngle receiver.nedTypeName transmitter.nedTypeName = .ok (some minAngle) →
    (transmitter.nedTypeName = satelliteType →
      ∃ angle, SpaceVeins.elevation libm
        (transmission.startPosition.sub arrival.endPosition) = some angle ∧ minAngle ≤ angle) ∧
    (transmitter.nedTypeName ≠ satelliteType → receiver.nedTypeName = satelliteType →
      ∃ angle, SpaceVeins.elevation libm
        (arrival.endPosition.sub transmission.startPosition) = some angle ∧ minAngle ≤ angle)

/-- The limit of the range filter that is set. -/
def rangeLimit (medium : RadioMedium K) : Option K :=
  match medium.rangeFilter with
  | .anywhere => none
  | .interferenceRange => medium.mediumLimitCache.maxInterferenceRange
  | .communicationRange => medium.mediumLimitCache.maxCommunicationRange

variable {medium : RadioMedium K} {libm : Libm K} {radio : IRadio}
  {transmission : Transmission K} {arrival : Arrival K}

theorem isPotentialReceiver_ok
    (h : medium.isPotentialReceiver libm radio transmission arrival = .ok true) :
    (medium.rangeFilter = .anywhere ∧
      medium.rejectedAsSatellites radio.asRadio transmission = .ok false ∧
      medium.isElevationAngleLargeEnough libm radio.asRadio transmission arrival = .ok true) ∨
    (medium.rangeFilter ≠ .anywhere ∧
      isInRange libm medium.rangeLimit transmission arrival = true) := by
  unfold isPotentialReceiver at h
  dsimp only at h
  by_cases hmode : medium.rejectedByRadioMode radio.asRadio = true
  · rw [if_pos hmode] at h
    cases h
  by_cases hlistening : medium.rejectedByListening radio = true
  · rw [if_neg hmode, if_pos hlistening] at h
    cases h
  rw [if_neg hmode, if_neg hlistening] at h
  obtain ⟨rejected, _, h⟩ := bind_eq_ok.mp h
  cases rejected with
  | true => cases h
  | false =>
    cases hfilter : medium.rangeFilter with
    | interferenceRange =>
      rw [if_neg (by decide), if_pos hfilter] at h
      refine Or.inr ⟨by decide, ?_⟩
      rw [rangeLimit, hfilter]
      exact Except.ok.inj h
    | communicationRange =>
      rw [if_neg (by decide), if_neg (by rw [hfilter]; decide), if_pos hfilter] at h
      refine Or.inr ⟨by decide, ?_⟩
      rw [rangeLimit, hfilter]
      exact Except.ok.inj h
    | anywhere =>
      rw [if_neg (by decide), if_neg (by rw [hfilter]; decide),
        if_neg (by rw [hfilter]; decide)] at h
      obtain ⟨rejectedS2S, hS2S, h⟩ := bind_eq_ok.mp h
      cases rejectedS2S with
      | true => cases h
      | false => exact Or.inl ⟨rfl, hS2S, h⟩

omit [Field K] [LinearOrder K] in
theorem no_s2s_of_not_rejected
    (h : medium.rejectedAsSatellites radio.asRadio transmission = .ok false)
    (hdisable : medium.mediumLimitCache.disableS2SCommunication = true) :
    ¬ (IsSatellite transmission.transmitter ∧ IsSatellite radio) := by
  rintro ⟨⟨transmitter, htransmitter, htype⟩, receiver, hreceiver, hrtype⟩
  simp [rejectedAsSatellites, hdisable, areReceiverAndTransmitterSatellites, getTransmitter,
    htransmitter, htype, hreceiver, getReceiver, hrtype, bind, Except.bind, pure,
    Except.pure] at h

theorem geNaN_eq_true {a : Option K} {b : K} : geNaN a b = true ↔ ∃ x, a = some x ∧ b ≤ x := by
  cases a <;> simp [geNaN]

theorem elevation_of_large_enough {receiver transmitter : Radio} {minAngle : K}
    (h : medium.isElevationAngleLargeEnough libm radio.asRadio transmission arrival = .ok true)
    (hreceiver : radio.asRadio = some receiver)
    (htransmitter : transmission.transmitter.asRadio = some transmitter)
    (hmin : medium.minElevationAngle receiver.nedTypeName transmitter.nedTypeName =
      .ok (some minAngle)) :
    ∃ angle, SpaceVeins.elevation libm (satelliteDirection receiver.nedTypeName
      transmitter.nedTypeName transmission arrival) = some angle ∧ minAngle ≤ angle := by
  simp only [isElevationAngleLargeEnough, getTransmitter, htransmitter, getReceiver, hreceiver,
    hmin, bind, Except.bind, pure, Except.pure, Except.ok.injEq] at h
  exact geNaN_eq_true.mp h

theorem satelliteFiltersHold_of_anywhere
    (h : medium.isPotentialReceiver libm radio transmission arrival = .ok true)
    (hfilter : medium.rangeFilter = .anywhere) :
    medium.SatelliteFiltersHold libm radio transmission arrival := by
  obtain ⟨_, hS2S, helevation⟩ | ⟨hrange, _⟩ := isPotentialReceiver_ok h
  · refine ⟨no_s2s_of_not_rejected hS2S, ?_⟩
    intro receiver transmitter minAngle hreceiver htransmitter hmin
    have hangle := elevation_of_large_enough helevation hreceiver htransmitter hmin
    constructor
    · intro htype
      rwa [satelliteDirection, if_pos htype] at hangle
    · intro htype hrtype
      rwa [satelliteDirection, if_neg htype, if_pos hrtype] at hangle
  · exact absurd hfilter hrange

/-- A radio in receiver mode that hears everything, in a node of the given type. -/
def nodeRadio (nedTypeName : String) : IRadio :=
  ⟨0, some ⟨.receiver, nedTypeName⟩, some true, some []⟩

/-- A transmission without a destination address from a node of the given type. -/
def nodeTransmission (nedTypeName : String) (position : Coord K) : Transmission K :=
  ⟨nodeRadio nedTypeName, position, position, none⟩

theorem isPotentialReceiver_nodeRadio {type : String} (hfilter : medium.rangeFilter ≠ .anywhere)
    (hmac : transmission.macAddressInd = none)
    (hrange : isInRange libm medium.rangeLimit transmission arrival = true) :
    medium.isPotentialReceiver libm (nodeRadio type) transmission arrival = .ok true := by
  have hmode : medium.rejectedByRadioMode (nodeRadio type).asRadio = false := by
    simp [rejectedByRadioMode, nodeRadio]
  have hlistening : medium.rejectedByListening (nodeRadio type) = false := by
    simp [rejectedByListening, nodeRadio]
  have haddress : medium.rejectedByMacAddress (nodeRadio type) transmission = .ok false := by
    simp [rejectedByMacAddress, matchesMacAddressFilter, hmac, Except.map]
  simp only [isPotentialReceiver, hmode, hlistening, haddress, bind, Except.bind,
    Bool.false_eq_true, if_false]
  cases hkind : medium.rangeFilter with
  | anywhere => exact absurd hkind hfilter
  | interferenceRange =>
    simpa [rangeLimit, hkind, isInInterferenceRange, pure, Except.pure] using hrange
  | communicationRange =>
    simpa [rangeLimit, hkind, isInCommunicationRange, pure, Except.pure] using hrange

theorem distance_self (libm : Libm K) (p : Coord K) : p.distance libm p = 0 := by
  simp [Coord.distance, Coord.sub, Coord.length, Coord.squareLength, libm.sqrt_zero]

theorem elevation_self (libm : Libm K) (p : Coord K) : elevation libm (p.sub p) = none := by
  have hzero : (p.sub p).length libm = 0 := distance_self libm p
  rw [elevation, Coord.normalizedZ, if_pos hzero, Option.map_none]

theorem isInRange_self (libm : Libm K) {limit : Option K} (p : Coord K) (type : String)
    (hlimit : ¬ ∃ range, limit = some range ∧ range ≤ 0) :
    isInRange libm limit (nodeTransmission type p) ⟨p, p⟩ = true := by
  cases limit with
  | none => rfl
  | some range =>
    have hpos : 0 < range := not_le.mp fun hle => hlimit ⟨range, rfl, hle⟩
    simp [isInRange, nodeTransmission, distance_self, hpos]

theorem distance_nonneg [IsStrictOrderedRing K] (libm : Libm K) (p q : Coord K) :
    0 ≤ p.distance libm q := by
  apply libm.sqrt_nonneg
  unfold Coord.squareLength
  have := mul_self_nonneg (p.sub q).x
  have := mul_self_nonneg (p.sub q).y
  have := mul_self_nonneg (p.sub q).z
  positivity

theorem isInRange_of_nonpos [IsStrictOrderedRing K] {range : K} (hrange : range ≤ 0) :
    isInRange libm (some range) transmission arrival = false := by
  have hfar : ¬ transmission.startPosition.distance libm arrival.startPosition < range :=
    not_lt.mpr (hrange.trans (distance_nonneg libm _ _))
  simp [isInRange, hfar]

/-- A medium applies the satellite filters to every receiver it accepts if and only if it has no
range filter, or one that accepts nothing, or no satellite filter is set. -/
theorem satellite_filters_applied_iff [IsStrictOrderedRing K] (libm : Libm K)
    (medium : RadioMedium K) :
    (∀ radio transmission arrival,
      medium.isPotentialReceiver libm radio transmission arrival = .ok true →
        medium.SatelliteFiltersHold libm radio transmission arrival) ↔
      medium.rangeFilter = .anywhere ∨
      (∃ range, medium.rangeLimit = some range ∧ range ≤ 0) ∨
      (medium.mediumLimitCache.disableS2SCommunication = false ∧
        medium.mediumLimitCache.minElevationAngleV2S = none ∧
        medium.mediumLimitCache.minElevationAngleD2S = none) := by
  constructor
  · intro hall
    by_contra hnot
    obtain ⟨hfilter, hlimit, hset⟩ : medium.rangeFilter ≠ .anywhere ∧
        (¬ ∃ range, medium.rangeLimit = some range ∧ range ≤ 0) ∧
        ¬ (medium.mediumLimitCache.disableS2SCommunication = false ∧
          medium.mediumLimitCache.minElevationAngleV2S = none ∧
          medium.mediumLimitCache.minElevationAngleD2S = none) := by
      simpa only [not_or] using hnot
    have hholds : ∀ type, medium.SatelliteFiltersHold libm (nodeRadio type)
        (nodeTransmission satelliteType ⟨0, 0, 0⟩) ⟨⟨0, 0, 0⟩, ⟨0, 0, 0⟩⟩ := fun type =>
      hall _ _ _ (isPotentialReceiver_nodeRadio hfilter rfl
        (isInRange_self libm _ satelliteType hlimit))
    have hnoangle : ∀ type minAngle,
        medium.minElevationAngle type satelliteType ≠ .ok (some minAngle) := by
      intro type minAngle hmin
      obtain ⟨angle, hangle, _⟩ :=
        ((hholds type).elevation ⟨.receiver, type⟩ ⟨.receiver, satelliteType⟩ minAngle rfl rfl
          hmin).1 rfl
      rw [show (nodeTransmission satelliteType (⟨0, 0, 0⟩ : Coord K)).startPosition.sub ⟨0, 0, 0⟩ =
        (⟨0, 0, 0⟩ : Coord K).sub ⟨0, 0, 0⟩ from rfl, elevation_self] at hangle
      cases hangle
    refine hset ⟨?_, ?_, ?_⟩
    · cases hdisable : medium.mediumLimitCache.disableS2SCommunication with
      | false => rfl
      | true =>
        exact absurd ⟨⟨_, rfl, rfl⟩, ⟨_, rfl, rfl⟩⟩ ((hholds satelliteType).no_s2s hdisable)
    · cases hmin : medium.mediumLimitCache.minElevationAngleV2S with
      | none => rfl
      | some minAngle =>
        refine absurd ?_ (hnoangle satCarType minAngle)
        rw [← hmin]
        rfl
    · cases hmin : medium.mediumLimitCache.minElevationAngleD2S with
      | none => rfl
      | some minAngle =>
        refine absurd ?_ (hnoangle satDroneType minAngle)
        rw [← hmin]
        rfl
  · rintro (hfilter | ⟨range, hlimit, hrange⟩ | ⟨hdisable, hV2S, hD2S⟩) radio transmission arrival h
    · exact satelliteFiltersHold_of_anywhere h hfilter
    · obtain ⟨hfilter, _⟩ | ⟨_, hin⟩ := isPotentialReceiver_ok h
      · exact satelliteFiltersHold_of_anywhere h hfilter
      · rw [hlimit, isInRange_of_nonpos hrange] at hin
        cases hin
    · refine ⟨fun hyes => absurd (hyes.symm.trans hdisable) (by decide), ?_⟩
      intro receiver transmitter minAngle _ _ hmin
      unfold minElevationAngle at hmin
      rw [hV2S, hD2S] at hmin
      split at hmin
      · cases hmin
      · split at hmin <;> cases hmin

/-- The library functions on the real numbers. -/
noncomputable def realLibm : Libm ℝ where
  sqrt := Real.sqrt
  asin := Real.arcsin
  pi := Real.pi
  sqrt_nonneg := fun x _ => Real.sqrt_nonneg x
  sqrt_zero := Real.sqrt_zero

/-- The satellite medium of the example scenario: no range filter, 25 degrees, no S2S. -/
def exampleMedium : RadioMedium ℝ :=
  ⟨⟨none, none, some 25, none, true⟩, .anywhere, false, false, false⟩

theorem satellite_filters_applied_example :
    exampleMedium.isPotentialReceiver realLibm (nodeRadio satelliteType)
      (nodeTransmission satelliteType ⟨0, 0, 0⟩) ⟨⟨1000000, 0, 0⟩, ⟨1000000, 0, 0⟩⟩ ≠
        .ok true := by
  intro haccepted
  have hfilters := (satellite_filters_applied_iff realLibm exampleMedium).mpr (Or.inl rfl)
    _ _ _ haccepted
  exact hfilters.no_s2s rfl ⟨⟨_, rfl, rfl⟩, ⟨_, rfl, rfl⟩⟩

/-- The same medium with an interference range of 2000 km. -/
def rangeMedium : RadioMedium ℝ :=
  ⟨⟨none, some 2000000, some 25, none, true⟩, .interferenceRange, false, false, false⟩

/-- Two satellites 1000 km apart hear each other although that is disabled, and a car hears a
satellite 1000 km away at the horizon. -/
theorem range_filter_skips_satellite_filters :
    (rangeMedium.isPotentialReceiver realLibm (nodeRadio satelliteType)
        (nodeTransmission satelliteType ⟨0, 0, 0⟩)
        ⟨⟨1000000, 0, 0⟩, ⟨1000000, 0, 0⟩⟩ = .ok true ∧
      ¬ rangeMedium.SatelliteFiltersHold realLibm (nodeRadio satelliteType)
        (nodeTransmission satelliteType ⟨0, 0, 0⟩)
        ⟨⟨1000000, 0, 0⟩, ⟨1000000, 0, 0⟩⟩) ∧
    (rangeMedium.isPotentialReceiver realLibm (nodeRadio satCarType)
        (nodeTransmission satelliteType ⟨0, 0, 0⟩)
        ⟨⟨1000000, 0, 0⟩, ⟨1000000, 0, 0⟩⟩ = .ok true ∧
      ¬ rangeMedium.SatelliteFiltersHold realLibm (nodeRadio satCarType)
        (nodeTransmission satelliteType ⟨0, 0, 0⟩)
        ⟨⟨1000000, 0, 0⟩, ⟨1000000, 0, 0⟩⟩) := by
  have hdistance : Coord.distance realLibm (⟨0, 0, 0⟩ : Coord ℝ) ⟨1000000, 0, 0⟩ = 1000000 := by
    have hsquare : (0 - 1000000) * (0 - 1000000) + (0 - 0) * (0 - 0) + (0 - 0) * (0 - 0) =
        (1000000 : ℝ) ^ 2 := by norm_num
    change Real.sqrt _ = _
    change Real.sqrt ((0 - 1000000) * (0 - 1000000) + (0 - 0) * (0 - 0) + (0 - 0) * (0 - 0)) = _
    rw [hsquare, Real.sqrt_sq (by norm_num)]
  have hrange : isInRange realLibm rangeMedium.rangeLimit
      (nodeTransmission satelliteType ⟨0, 0, 0⟩) ⟨⟨1000000, 0, 0⟩, ⟨1000000, 0, 0⟩⟩ = true := by
    simp only [isInRange, rangeLimit, rangeMedium, nodeTransmission, hdistance]
    norm_num
  refine ⟨⟨isPotentialReceiver_nodeRadio (by decide) rfl hrange, ?_⟩,
    isPotentialReceiver_nodeRadio (by decide) rfl hrange, ?_⟩
  · intro h
    exact h.no_s2s rfl ⟨⟨_, rfl, rfl⟩, ⟨_, rfl, rfl⟩⟩
  · intro h
    obtain ⟨angle, hangle, hle⟩ :=
      (h.elevation ⟨.receiver, satCarType⟩ ⟨.receiver, satelliteType⟩ 25 rfl rfl rfl).1 rfl
    have hhorizon : SpaceVeins.elevation realLibm
        (Coord.sub (⟨0, 0, 0⟩ : Coord ℝ) ⟨1000000, 0, 0⟩) = some 0 := by
      have hlength : (Coord.sub (⟨0, 0, 0⟩ : Coord ℝ) ⟨1000000, 0, 0⟩).length realLibm = 1000000 :=
        hdistance
      rw [SpaceVeins.elevation, Coord.normalizedZ, hlength, if_neg (by norm_num)]
      simp [Coord.sub, realLibm]
    obtain rfl : (0 : ℝ) = angle := Option.some.inj (hhorizon.symm.trans hangle)
    norm_num at hle

end RadioMedium
end SpaceVeins

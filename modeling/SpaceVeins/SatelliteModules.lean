import SpaceVeins.SatelliteInserter

/-!
# The submodule of a satellite

Stated without positions, loops and string conversions: the constellation of a
satellite is its name up to the delimiter, and its number is the decimal number
behind it, or the catalog number if that is zero. The inserter asks for exactly
these submodules, so two satellites share one if and only if their constellation
and their number coincide.
-/

set_option autoImplicit false

namespace SpaceVeins
open CxxString

namespace TLE

/-- The character at this position stands between brackets. -/
def Bracketed (name : List Char) (p : Nat) : Prop :=
  0 < p ∧ name[p - 1]? = some '[' ∧ name[p + 1]? = some ']'

instance (name : List Char) (p : Nat) : Decidable (Bracketed name p) :=
  inferInstanceAs (Decidable (_ ∧ _))

/-- The first occurence of `d`, unless it stands between brackets. -/
def plainIndex (name : List Char) (d : Char) : Option Nat :=
  if d ∈ name ∧ ¬ Bracketed name (name.idxOf d) then some (name.idxOf d) else none

/-- The delimiter is the first dash if there is one, and the first blank otherwise. -/
def delimiterIndex (name : List Char) : Option Nat :=
  (plainIndex name '-').or (plainIndex name ' ')

def constellation (tle : TLE) : List Char :=
  match delimiterIndex tle.satellite_name.chars with
  | none => tle.satellite_name.chars
  | some p => tle.satellite_name.chars.take p

/-- The digits behind the delimiter, read as a decimal number. -/
def nameNumber (tle : TLE) : Nat :=
  match delimiterIndex tle.satellite_name.chars with
  | none => 0
  | some p => numeral 10 ((tle.satellite_name.chars.drop (p + 1)).filter Char.isDigit)

/-- The catalog number, if columns 3 to 7 of line 1 hold a number. -/
def catalog (tle : TLE) : Option UInt32 :=
  (SatelliteInserter.catalogNumber tle).toOption.map UInt64.toUInt32

def number (tle : TLE) : Option UInt32 :=
  if tle.nameNumber = 0 then tle.catalog else some (UInt32.ofNat tle.nameNumber)

/-- One of the constellations with submodule vectors of their own. -/
def IsKnown (tle : TLE) : Prop := tle.constellation ∈ Constellation.all.map Constellation.name

instance (tle : TLE) : Decidable tle.IsKnown := inferInstanceAs (Decidable (_ ∈ _))

/-- The constellation under which the satellite is created. -/
def vector (defaultName : List Char) (tle : TLE) : List Char :=
  if tle.IsKnown then tle.constellation else defaultName

def index (tle : TLE) : Option UInt32 := if tle.IsKnown then tle.number else tle.catalog

def IsCreated (ignoreUnknown : Bool) (tle : TLE) : Prop := tle.IsKnown ∨ ignoreUnknown = false

instance (ignoreUnknown : Bool) (tle : TLE) : Decidable (tle.IsCreated ignoreUnknown) :=
  inferInstanceAs (Decidable (_ ∨ _))

/-- The submodule of the satellite, if it gets one. -/
def target (defaultName : List Char) (ignoreUnknown : Bool) (tle : TLE) :
    Option (List Char × UInt32) :=
  if tle.IsCreated ignoreUnknown then
    tle.index.map fun n => ("leo".toList ++ tle.vector defaultName, n)
  else none

/-- Both satellites are created, under one constellation and with one number, and at least
one of them has a constellation of its own. -/
structure Collide (defaultName : List Char) (ignoreUnknown : Bool) (tle other : TLE) : Prop where
  known : tle.IsKnown ∨ other.IsKnown
  created : tle.IsCreated ignoreUnknown ∧ other.IsCreated ignoreUnknown
  same_vector : tle.vector defaultName = other.vector defaultName
  same_index : ∃ n, tle.index = some n ∧ other.index = some n

end TLE

namespace SatelliteInserter
variable (stray : Nat → Char) {name : List Char} {d : Char}

theorem charAt_eq_iff {i : Nat} {c : Char} (hi : i ≤ name.length) (hc : c ≠ '\x00') :
    charAt stray name i = c ↔ name[i]? = some c := by
  unfold charAt
  by_cases hlt : i < name.length
  · rw [dif_pos hlt, List.getElem?_eq_getElem hlt, Option.some.injEq]
  · rw [dif_neg hlt, if_pos (by omega), List.getElem?_eq_none (by omega)]
    exact ⟨fun h => absurd h.symm hc, fun h => by cases h⟩

theorem isBracketed_iff {p : Nat} (hpos : 0 < p) (hp : p < name.length)
    (hlen : name.length < npos) :
    isBracketed stray name p = true ↔ TLE.Bracketed name p := by
  have hbefore : sizePred p = p - 1 := if_neg (by omega)
  have hafter : sizeSucc p = p + 1 := if_neg (by omega)
  rw [isBracketed, hbefore, hafter, Bool.and_eq_true, beq_iff_eq, beq_iff_eq,
    charAt_eq_iff stray (by omega) (by decide), charAt_eq_iff stray (by omega) (by decide)]
  exact ⟨fun h => ⟨hpos, h⟩, fun h => h.2⟩

/-- One round of the loop over the delimiters, for a name that does not begin with this one. -/
theorem findDelimiter_cons (hhead : name.head? ≠ some d) (hlen : name.length < npos)
    (rest : List Char) :
    findDelimiter stray name (d :: rest) =
      match TLE.plainIndex name d with
      | some p => (p, [d])
      | none => findDelimiter stray name rest := by
  by_cases hd : d ∈ name
  · have hfind : find name d = name.idxOf d := if_pos hd
    have hlt : name.idxOf d < name.length := List.idxOf_lt_length_of_mem hd
    have hpos : 0 < name.idxOf d := by
      cases name with
      | nil => cases hd
      | cons c tail =>
        have hcd : c ≠ d := fun h => hhead (by rw [h]; rfl)
        simp [hcd]
    have hfound : name.idxOf d ≠ npos := by omega
    by_cases hbracketed : TLE.Bracketed name (name.idxOf d)
    · have hcheck := (isBracketed_iff stray hpos hlt hlen).mpr hbracketed
      simp [findDelimiter, hfind, hcheck, TLE.plainIndex, hbracketed]
    · have hcheck : isBracketed stray name (name.idxOf d) = false := by
        rw [Bool.eq_false_iff]
        exact mt (isBracketed_iff stray hpos hlt hlen).mp hbracketed
      simp [findDelimiter, hfind, hcheck, TLE.plainIndex, hbracketed, hd, hfound]
  · have hfind : find name d = npos := if_neg hd
    simp [findDelimiter, hfind, TLE.plainIndex, hd]

theorem findDelimiter_eq (hdash : name.head? ≠ some '-') (hblank : name.head? ≠ some ' ')
    (hlen : name.length < npos) :
    (∃ p d, TLE.delimiterIndex name = some p ∧ p < name.length ∧
      findDelimiter stray name delimiters = (p, [d])) ∨
    (TLE.delimiterIndex name = none ∧ findDelimiter stray name delimiters = (npos, [])) := by
  have hlt : ∀ {d p}, TLE.plainIndex name d = some p → p < name.length := by
    intro d p hp
    unfold TLE.plainIndex at hp
    split at hp
    · rename_i hd
      rw [← Option.some.inj hp]
      exact List.idxOf_lt_length_of_mem hd.1
    · cases hp
  rw [delimiters, findDelimiter_cons stray hdash hlen, findDelimiter_cons stray hblank hlen]
  unfold TLE.delimiterIndex
  cases hfirst : TLE.plainIndex name '-' with
  | some p => exact Or.inl ⟨p, '-', rfl, hlt hfirst, rfl⟩
  | none =>
    cases hsecond : TLE.plainIndex name ' ' with
    | some p => exact Or.inl ⟨p, ' ', rfl, hlt hsecond, rfl⟩
    | none => exact Or.inr ⟨rfl, rfl⟩

theorem satNumOf_numericPart (tle : TLE) (posConstellation : Nat) (delimiter : List Char) :
    satNumOf tle (numericPart name posConstellation delimiter) =
      let n := numeral 10
        ((name.drop (sizeT (posConstellation + delimiter.length))).filter Char.isDigit)
      if n = 0 then (catalogNumber tle).map UInt64.toUInt32
      else if 2 ^ 64 ≤ n then .error .outOfRange
      else .ok (UInt64.ofNat n).toUInt32 := by
  have hdigits : ∀ c ∈ (name.drop (sizeT (posConstellation + delimiter.length))).filter
      Char.isDigit, c.isDigit = true := fun c hc => (List.mem_filter.mp hc).2
  unfold satNumOf numericPart
  rw [stoul_digits hdigits]
  generalize numeral 10 _ = n
  by_cases hzero : n = 0
  · simp only [hzero, if_true]
  · by_cases hlarge : 2 ^ 64 ≤ n
    · simp only [hzero, hlarge, if_true, if_false]
    · simp only [hzero, hlarge, if_false]

theorem parts_of_name {tle : TLE} (hdash : tle.satellite_name.chars.head? ≠ some '-')
    (hblank : tle.satellite_name.chars.head? ≠ some ' ') :
    ∃ p delimiter, findDelimiter stray tle.satellite_name.chars delimiters = (p, delimiter) ∧
      tle.satellite_name.chars.take p = tle.constellation ∧
      numeral 10 ((tle.satellite_name.chars.drop (sizeT (p + delimiter.length))).filter
        Char.isDigit) = tle.nameNumber := by
  have hlen := tle.satellite_name.length_lt
  obtain ⟨p, d, hindex, hp, hfind⟩ | ⟨hindex, hfind⟩ :=
    findDelimiter_eq stray hdash hblank hlen
  · have hnext : sizeT (p + [d].length) = p + 1 := by
      unfold sizeT npos at *
      simp only [List.length_singleton]
      omega
    refine ⟨p, [d], hfind, by rw [TLE.constellation, hindex], ?_⟩
    rw [TLE.nameNumber, hindex, hnext]
  · have hend : sizeT (npos + ([] : List Char).length) = npos := by simp [sizeT, npos]
    refine ⟨npos, [], hfind, ?_, ?_⟩
    · rw [TLE.constellation, hindex]
      exact List.take_of_length_le hlen.le
    · rw [TLE.nameNumber, hindex, hend, List.drop_of_length_le hlen.le]
      rfl

/-- The code takes a name apart as described, if the name does not begin with a delimiter. -/
theorem getConstellationAndSatNum_eq {tle : TLE}
    (hdash : tle.satellite_name.chars.head? ≠ some '-')
    (hblank : tle.satellite_name.chars.head? ≠ some ' ') :
    getConstellationAndSatNum stray tle =
      (if tle.nameNumber = 0 then (catalogNumber tle).map UInt64.toUInt32
      else if 2 ^ 64 ≤ tle.nameNumber then .error .outOfRange
      else .ok (UInt64.ofNat tle.nameNumber).toUInt32).map fun n => (tle.constellation, n) := by
  obtain ⟨p, delimiter, hfind, hconstellation, hnumber⟩ :=
    parts_of_name stray hdash hblank
  rw [getConstellationAndSatNum, hfind, satNumOf_numericPart, hnumber, hconstellation]

theorem take_not_known (p : Nat) (hhead : name.head? = some '-' ∨ name.head? = some ' ') :
    name.take p ∉ Constellation.all.map Constellation.name := by
  have hnames : ∀ n ∈ Constellation.all.map Constellation.name,
      n.head? ≠ none ∧ n.head? ≠ some '-' ∧ n.head? ≠ some ' ' := by decide
  intro hmem
  obtain ⟨hnone, hdash, hblank⟩ := hnames _ hmem
  rw [List.head?_take] at hnone hdash hblank
  split at hnone
  · exact hnone rfl
  · rename_i hp
    rw [if_neg hp] at hdash hblank
    exact hhead.elim hdash hblank

theorem constellation_eq_take (tle : TLE) :
    ∃ p, tle.constellation = tle.satellite_name.chars.take p := by
  unfold TLE.constellation
  cases TLE.delimiterIndex tle.satellite_name.chars with
  | none => exact ⟨_, List.take_length.symm⟩
  | some p => exact ⟨p, rfl⟩

theorem map_eq_ok_iff {ε α β : Type} {x : Except ε α} {f : α → β} {b : β} :
    x.map f = .ok b ↔ ∃ a, x = .ok a ∧ f a = b := by
  cases x with
  | error e => simp [Except.map]
  | ok a => simp [Except.map]

theorem number_of_ok {tle : TLE} {n : UInt32}
    (h : (if tle.nameNumber = 0 then (catalogNumber tle).map UInt64.toUInt32
      else if 2 ^ 64 ≤ tle.nameNumber then .error .outOfRange
      else .ok (UInt64.ofNat tle.nameNumber).toUInt32) = Except.ok n) :
    tle.number = some n := by
  unfold TLE.number
  by_cases hzero : tle.nameNumber = 0
  · rw [if_pos hzero] at h ⊢
    obtain ⟨catalog, hcatalog, rfl⟩ := map_eq_ok_iff.mp h
    rw [TLE.catalog, hcatalog]
    rfl
  · rw [if_neg hzero] at h ⊢
    by_cases hlarge : 2 ^ 64 ≤ tle.nameNumber
    · rw [if_pos hlarge] at h
      cases h
    · rw [if_neg hlarge] at h
      rw [← Except.ok.inj h, UInt64.toUInt32_ofNat']

/-- The constellation that the code finds is the one of the satellite, as far as it matters. -/
theorem known_of_ok {tle : TLE} {satellite : List Char × UInt32}
    (h : getConstellationAndSatNum stray tle = .ok satellite) :
    (satellite.1 ∈ Constellation.all.map Constellation.name ↔ tle.IsKnown) ∧
    (tle.IsKnown → satellite.1 = tle.constellation ∧ tle.number = some satellite.2) := by
  by_cases hhead : tle.satellite_name.chars.head? = some '-' ∨
      tle.satellite_name.chars.head? = some ' '
  · have hunknown : ¬ tle.IsKnown := by
      obtain ⟨p, hp⟩ := constellation_eq_take tle
      rw [TLE.IsKnown, hp]
      exact take_not_known p hhead
    refine ⟨⟨fun hknown => ?_, fun hknown => absurd hknown hunknown⟩,
      fun hknown => absurd hknown hunknown⟩
    rw [getConstellationAndSatNum, map_eq_ok_iff] at h
    obtain ⟨n, -, rfl⟩ := h
    exact absurd hknown (take_not_known _ hhead)
  · rw [not_or] at hhead
    rw [getConstellationAndSatNum_eq stray hhead.1 hhead.2, map_eq_ok_iff] at h
    obtain ⟨n, hn, rfl⟩ := h
    exact ⟨Iff.rfl, fun _ => ⟨rfl, number_of_ok hn⟩⟩

end SatelliteInserter
end SpaceVeins

import SpaceVeins.SatelliteInserter

/-!
# Reading a TLE file

The loop collects a satellite from three lines, in one object that it uses for
all of them. What comes out are the groups of three lines, in their order; lines
left over at the end are an error.
-/

set_option autoImplicit false

namespace SpaceVeins
open CxxString

/-- The groups of three lines. -/
def TLE.ofLines : List StdString → List TLE
  | satellite_name :: tle_line1 :: tle_line2 :: lines =>
    ⟨satellite_name, tle_line1, tle_line2⟩ :: ofLines lines
  | _ => []

namespace TleFile
variable {σ : Type}

theorem ofLines_of_short {lines : List StdString}
    (h : ∀ satellite_name tle_line1 tle_line2 rest,
      lines = satellite_name :: tle_line1 :: tle_line2 :: rest → False) :
    TLE.ofLines lines = [] ∧ lines.length < 3 := by
  match lines, h with
  | [], _ => exact ⟨rfl, by decide⟩
  | [_], _ => exact ⟨rfl, by simp⟩
  | [_, _], _ => exact ⟨rfl, by simp⟩
  | _ :: _ :: _ :: _, h => exact absurd rfl (h _ _ _ _)

/-- One call after the other, up to the first error. -/
def instantiateAll (instantiateSatellite : TLE → σ → σ × Option InserterError) :
    List TLE → σ → σ × Option InserterError
  | [], s => (s, none)
  | tle :: tles, s =>
    andThen (instantiateAll instantiateSatellite tles) (instantiateSatellite tle s)

/-- The check behind the loop, for a file of `n` lines. -/
def checkComplete (n : Nat) (s : σ) : σ × Option InserterError :=
  if n % 3 = 0 then (s, none) else (s, some (.cRuntimeError "Incomplete satellite TLE"))

theorem andThen_assoc (f g : σ → σ × Option InserterError) (r : σ × Option InserterError) :
    andThen g (andThen f r) = andThen (fun s => andThen g (f s)) r := by
  obtain ⟨s, error⟩ := r
  cases error with
  | none => rfl
  | some e => rfl

section
variable (instantiateSatellite : TLE → σ → σ × Option InserterError)

theorem parseTleLines_three (satellite_name tle_line1 tle_line2 : StdString)
    (lines : List StdString) (tle : TLE) (s : σ) :
    parseTleLines instantiateSatellite (satellite_name :: tle_line1 :: tle_line2 :: lines) 0 tle s =
      andThen (parseTleLines instantiateSatellite lines 0 ⟨satellite_name, tle_line1, tle_line2⟩)
        (instantiateSatellite ⟨satellite_name, tle_line1, tle_line2⟩ s) := rfl

/-- The loop instantiates the groups of three lines, and checks that no line is left over. -/
theorem parseTleLines_eq (lines : List StdString) (tle : TLE) (s : σ) :
    parseTleLines instantiateSatellite lines 0 tle s =
      andThen (checkComplete lines.length)
        (instantiateAll instantiateSatellite (TLE.ofLines lines) s) := by
  induction lines using TLE.ofLines.induct generalizing tle s with
  | case1 satellite_name tle_line1 tle_line2 lines ih =>
    have hcheck : checkComplete (σ := σ)
        (satellite_name :: tle_line1 :: tle_line2 :: lines).length =
        checkComplete lines.length := by
      have hmod : (lines.length + 3) % 3 = lines.length % 3 := Nat.add_mod_right ..
      funext s
      rw [checkComplete, checkComplete, ← hmod]
      rfl
    rw [parseTleLines_three, TLE.ofLines, instantiateAll, andThen_assoc, hcheck]
    exact congrArg (fun f => andThen f _) (funext fun s => ih _ s)
  | case2 lines hlines =>
    match lines, hlines with
    | [], _ => rfl
    | [_], _ => rfl
    | [_, _], _ => rfl
    | _ :: _ :: _ :: _, hlines => exact absurd rfl (hlines _ _ _ _)

theorem parse_eq (tleFile : List Char) (s : σ) :
    parse instantiateSatellite tleFile s =
      andThen (checkComplete (getlines tleFile).length)
        (instantiateAll instantiateSatellite (TLE.ofLines (getlines tleFile)) s) :=
  parseTleLines_eq instantiateSatellite (getlines tleFile) _ s

theorem instantiateAll_of_ok {tles : List TLE} {s : σ}
    (hok : (instantiateAll instantiateSatellite tles s).2 = none) :
    instantiateAll instantiateSatellite tles s =
      (tles.foldl (fun s tle => (instantiateSatellite tle s).1) s, none) := by
  induction tles generalizing s with
  | nil => rfl
  | cons tle tles ih =>
    rw [instantiateAll] at hok ⊢
    rw [List.foldl_cons]
    generalize instantiateSatellite tle s = result at hok ⊢
    obtain ⟨next, error⟩ := result
    cases error with
    | some e => cases hok
    | none => exact ih hok

theorem length_ofLines (lines : List StdString) :
    (TLE.ofLines lines).length = lines.length / 3 := by
  induction lines using TLE.ofLines.induct with
  | case1 satellite_name tle_line1 tle_line2 lines ih =>
    rw [TLE.ofLines, List.length_cons, ih]
    simp only [List.length_cons]
    omega
  | case2 lines hlines =>
    obtain ⟨hnil, hshort⟩ := ofLines_of_short hlines
    rw [hnil, List.length_nil, Nat.div_eq_of_lt hshort]

theorem getElem?_ofLines (lines : List StdString) (i : Nat) (h : 3 * i + 2 < lines.length) :
    (TLE.ofLines lines)[i]? =
      some ⟨lines[3 * i], lines[3 * i + 1], lines[3 * i + 2]⟩ := by
  induction lines using TLE.ofLines.induct generalizing i with
  | case1 satellite_name tle_line1 tle_line2 lines ih =>
    cases i with
    | zero => rfl
    | succ i =>
      have hi : 3 * i + 2 < lines.length := by
        simp only [List.length_cons] at h
        omega
      rw [TLE.ofLines, List.getElem?_cons_succ, ih i hi]
      simp only [Nat.mul_succ, List.getElem_cons_succ]
  | case2 lines hlines =>
    have hshort := (ofLines_of_short hlines).2
    omega

end

/-- No field holds a newline. -/
def OneLined (tle : TLE) : Prop :=
  '\n' ∉ tle.satellite_name.chars ∧ '\n' ∉ tle.tle_line1.chars ∧ '\n' ∉ tle.tle_line2.chars

theorem getlines_print {tle : TLE} (h : OneLined tle) (rest : List Char) :
    getlines (tle.print ++ rest) =
      tle.satellite_name :: tle.tle_line1 :: tle.tle_line2 :: getlines rest := by
  have hprint : tle.print ++ rest = tle.satellite_name.chars ++ '\n' ::
      (tle.tle_line1.chars ++ '\n' :: (tle.tle_line2.chars ++ '\n' :: rest)) := by
    simp [TLE.print]
  rw [hprint, getlines_append h.1, getlines_append h.2.1, getlines_append h.2.2]

theorem getlines_flatMap_print {tles : List TLE} (h : ∀ tle ∈ tles, OneLined tle) :
    TLE.ofLines (getlines (tles.flatMap TLE.print)) = tles ∧
      (getlines (tles.flatMap TLE.print)).length = 3 * tles.length := by
  induction tles with
  | nil => exact ⟨rfl, rfl⟩
  | cons tle tles ih =>
    obtain ⟨hgroups, hlength⟩ := ih fun t ht => h t (List.mem_cons_of_mem _ ht)
    rw [List.flatMap_cons, getlines_print (h tle List.mem_cons_self)]
    refine ⟨by rw [TLE.ofLines, hgroups], ?_⟩
    simp only [List.length_cons, hlength]
    omega

/-- Satellites that have been printed are instantiated again, and any file is read in groups of
three lines. -/
theorem tle_file_read_back (instantiateSatellite : TLE → σ → σ × Option InserterError) (s : σ) :
    (∀ tles : List TLE, (∀ tle ∈ tles, OneLined tle) →
      (instantiateAll instantiateSatellite tles s).2 = none →
      parse instantiateSatellite (tles.flatMap TLE.print) s =
        (tles.foldl (fun s tle => (instantiateSatellite tle s).1) s, none)) ∧
    (∀ tleFile : List Char,
      (instantiateAll instantiateSatellite (TLE.ofLines (getlines tleFile)) s).2 = none →
      parse instantiateSatellite tleFile s =
          ((TLE.ofLines (getlines tleFile)).foldl (fun s tle => (instantiateSatellite tle s).1) s,
            if (getlines tleFile).length % 3 = 0 then none
            else some (.cRuntimeError "Incomplete satellite TLE")) ∧
        (TLE.ofLines (getlines tleFile)).length = (getlines tleFile).length / 3 ∧
        ∀ i (h : 3 * i + 2 < (getlines tleFile).length),
          (TLE.ofLines (getlines tleFile))[i]? = some ⟨(getlines tleFile)[3 * i],
            (getlines tleFile)[3 * i + 1], (getlines tleFile)[3 * i + 2]⟩) := by
  have hparse : ∀ tleFile : List Char,
      (instantiateAll instantiateSatellite (TLE.ofLines (getlines tleFile)) s).2 = none →
      parse instantiateSatellite tleFile s =
        ((TLE.ofLines (getlines tleFile)).foldl (fun s tle => (instantiateSatellite tle s).1) s,
          if (getlines tleFile).length % 3 = 0 then none
          else some (.cRuntimeError "Incomplete satellite TLE")) := by
    intro tleFile hok
    rw [parse_eq, instantiateAll_of_ok instantiateSatellite hok, andThen, checkComplete]
    split
    · rfl
    · rfl
  constructor
  · intro tles hlined hok
    obtain ⟨hgroups, hlength⟩ := getlines_flatMap_print hlined
    have h := hparse (tles.flatMap TLE.print) (by rw [hgroups]; exact hok)
    rwa [hgroups, hlength, if_pos (Nat.mul_mod_right 3 tles.length)] at h
  · intro tleFile hok
    exact ⟨hparse tleFile hok, length_ofLines _, getElem?_ofLines _⟩

def twoTles : List TLE :=
  [⟨⟨"ONEWEB-0012".toList, by decide⟩, ⟨"1 44057U".toList, by decide⟩,
      ⟨"2 44057".toList, by decide⟩⟩,
    ⟨emptyString, ⟨"1 44058U".toList, by decide⟩, ⟨"2 44058".toList, by decide⟩⟩]

theorem tle_file_read_back_two :
    (parse (fun tle tles => (tles ++ [tle], none)) (twoTles.flatMap TLE.print) []).1 = twoTles ∧
    (parse (fun tle tles => (tles ++ [tle], none)) "A\nB\nC\nD".toList []).2 =
      some (.cRuntimeError "Incomplete satellite TLE") := by
  have hread := tle_file_read_back (fun tle (tles : List TLE) => (tles ++ [tle], none)) []
  constructor
  · rw [hread.1 twoTles (by unfold OneLined; decide) rfl]
    rfl
  · rw [(hread.2 "A\nB\nC\nD".toList rfl).1]
    rfl

end TleFile
end SpaceVeins

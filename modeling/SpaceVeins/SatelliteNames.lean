import SpaceVeins.SatelliteRequests

/-!
# The names of satellites

Which names are taken apart inside of the string and without an exception, and
which satellites end up in the submodule vector of the constellation that their
name begins with.
-/

set_option autoImplicit false

namespace SpaceVeins
open CxxString

namespace SatelliteInserter
variable (stray : Nat → Char)

/-- The positions that `isBracketed` reads: the second one only behind a bracket. -/
def bracketReads (satelliteName : List Char) (pos : Nat) : List Nat :=
  if charAt stray satelliteName (sizePred pos) == '[' then [sizePred pos, sizeSucc pos]
  else [sizePred pos]

/-- The loop over the delimiters with the positions of the characters that it reads. -/
def findDelimiterReads (satelliteName : List Char) : List Char → (Nat × List Char) × List Nat
  | [] => ((npos, []), [])
  | delimiter :: rest =>
    let posConstellation := find satelliteName delimiter
    let reads := bracketReads stray satelliteName posConstellation
    let (found, more) := findDelimiterReads satelliteName rest
    if isBracketed stray satelliteName posConstellation then (found, reads ++ more)
    else if posConstellation ≠ npos then ((posConstellation, [delimiter]), reads)
    else (found, reads ++ more)

theorem findDelimiterReads_fst (satelliteName : List Char) (ds : List Char) :
    (findDelimiterReads stray satelliteName ds).1 = findDelimiter stray satelliteName ds := by
  induction ds with
  | nil => rfl
  | cons delimiter rest ih =>
    simp only [findDelimiterReads, findDelimiter]
    split
    · exact ih
    · split
      · rfl
      · exact ih

/-- What `std::string::max_size()` is at most. -/
def maxSize : Nat := 2 ^ 63 - 1

/-- All characters that are read belong to the string or to its end. -/
def ReadsInside (satelliteName : List Char) (ds : List Char) : Prop :=
  ∀ i ∈ (findDelimiterReads stray satelliteName ds).2, i ≤ satelliteName.length

variable {name : List Char} {d : Char}

theorem sizePred_mem_reads (name : List Char) (d : Char) (rest : List Char) :
    sizePred (find name d) ∈ (findDelimiterReads stray name (d :: rest)).2 := by
  have hmem : sizePred (find name d) ∈ bracketReads stray name (find name d) := by
    unfold bracketReads
    split
    · exact List.mem_cons_self
    · exact List.mem_cons_self
  simp only [findDelimiterReads]
  split
  · exact List.mem_append_left _ hmem
  · split
    · exact hmem
    · exact List.mem_append_left _ hmem

theorem not_readsInside_of_not_mem (hsize : name.length ≤ maxSize) (hd : d ∉ name)
    (rest : List Char) : ¬ ReadsInside stray name (d :: rest) := by
  intro hinside
  have hfind : find name d = npos := if_neg hd
  have hle := hinside _ (sizePred_mem_reads stray name d rest)
  have hpred : sizePred npos = 2 ^ 64 - 2 := rfl
  rw [hfind, hpred] at hle
  unfold maxSize at hsize
  omega

theorem not_readsInside_of_head (hsize : name.length ≤ maxSize) (hd : d ∈ name)
    (hhead : name.idxOf d = 0) (rest : List Char) : ¬ ReadsInside stray name (d :: rest) := by
  intro hinside
  have hfind : find name d = 0 := (if_pos hd).trans hhead
  have hle := hinside _ (sizePred_mem_reads stray name d rest)
  have hpred : sizePred 0 = 2 ^ 64 - 1 := rfl
  rw [hfind, hpred] at hle
  unfold maxSize at hsize
  omega

theorem readsInside_cons (hlen : name.length < npos) (hd : d ∈ name) (hpos : 0 < name.idxOf d)
    (rest : List Char) :
    ReadsInside stray name (d :: rest) ↔
      (TLE.Bracketed name (name.idxOf d) → ReadsInside stray name rest) := by
  have hfind : find name d = name.idxOf d := if_pos hd
  have hlt : name.idxOf d < name.length := List.idxOf_lt_length_of_mem hd
  have hbefore : sizePred (name.idxOf d) = name.idxOf d - 1 := if_neg (by omega)
  have hafter : sizeSucc (name.idxOf d) = name.idxOf d + 1 := if_neg (by omega)
  have hreads : ∀ i ∈ bracketReads stray name (name.idxOf d), i ≤ name.length := by
    intro i hi
    rw [bracketReads, hbefore, hafter] at hi
    split at hi
    · simp only [List.mem_cons, List.not_mem_nil, or_false] at hi
      omega
    · simp only [List.mem_cons, List.not_mem_nil, or_false] at hi
      omega
  have hfound : name.idxOf d ≠ npos := by omega
  have hcheck := isBracketed_iff stray hpos hlt hlen
  unfold ReadsInside
  by_cases hbracketed : TLE.Bracketed name (name.idxOf d)
  · simp only [findDelimiterReads, hfind, hcheck.mpr hbracketed, if_true, hbracketed,
      forall_true_left, List.mem_append]
    exact ⟨fun h i hi => h i (.inr hi), fun h i hi => hi.elim (hreads i) (h i)⟩
  · have hfree : isBracketed stray name (name.idxOf d) = false :=
      Bool.eq_false_iff.mpr (mt hcheck.mp hbracketed)
    simp only [findDelimiterReads, hfind, hfree, hfound, ne_eq, not_false_eq_true, if_true,
      hbracketed, false_imp_iff, iff_true, Bool.false_eq_true, if_false]
    exact hreads

theorem readsInside_iff_of_size (hsize : name.length ≤ maxSize) (rest : List Char) :
    ReadsInside stray name (d :: rest) ↔ d ∈ name ∧ 0 < name.idxOf d ∧
      (TLE.Bracketed name (name.idxOf d) → ReadsInside stray name rest) := by
  have hlen : name.length < npos := by
    unfold maxSize npos at *
    omega
  by_cases hd : d ∈ name
  · rcases Nat.eq_zero_or_pos (name.idxOf d) with hzero | hpos
    · simp only [not_readsInside_of_head stray hsize hd hzero rest, hzero, lt_irrefl, false_and,
        and_false]
    · simp only [readsInside_cons stray hlen hd hpos, hd, hpos, true_and]
  · simp only [not_readsInside_of_not_mem stray hsize hd rest, hd, false_and]

/-- The characters that are read are those of the string exactly if it has a dash behind other
characters, and for the dash of `[-]` also a blank behind other characters. -/
theorem readsInside_delimiters_iff (hsize : name.length ≤ maxSize) :
    ReadsInside stray name delimiters ↔ '-' ∈ name ∧ 0 < name.idxOf '-' ∧
      (TLE.Bracketed name (name.idxOf '-') → ' ' ∈ name ∧ 0 < name.idxOf ' ') := by
  have hnil : ReadsInside stray name [] := fun i hi => by cases hi
  rw [delimiters, readsInside_iff_of_size stray hsize, readsInside_iff_of_size stray hsize]
  simp only [hnil, implies_true, and_true]

/-- Columns 3 to 7 hold a decimal number. -/
def HoldsNumber (tle_line1 : List Char) : Prop :=
  ∃ blanks digits, (tle_line1.drop 2).take 5 = List.replicate blanks ' ' ++ digits ∧
    digits ≠ [] ∧ ∀ c ∈ digits, c.isDigit = true

theorem numeral_lt (digits : List Char) (h : ∀ c ∈ digits, c.isDigit = true) :
    numeral 10 digits < 10 ^ digits.length := by
  induction digits with
  | nil => decide
  | cons c digits ih =>
    have hc := digitValue_lt (h c List.mem_cons_self)
    have hrest := ih fun d hd => h d (List.mem_cons_of_mem c hd)
    rw [numeral_cons, List.length_cons, pow_succ]
    have hmul : 10 ^ digits.length * digitValue c ≤ 10 ^ digits.length * 9 :=
      Nat.mul_le_mul_left _ (by omega)
    omega

theorem catalogNumber_of_holdsNumber {tle : TLE} (h : HoldsNumber tle.tle_line1.chars) :
    ∃ n, catalogNumber tle = .ok n := by
  obtain ⟨blanks, digits, htake, hne, hdigits⟩ := h
  have hlong : 2 ≤ tle.tle_line1.chars.length := by
    by_contra hshort
    rw [List.drop_of_length_le (by omega), List.take_nil] at htake
    exact hne (List.append_eq_nil_iff.mp htake.symm).2
  have hsubstr : substr tle.tle_line1.chars 2 5 = .ok (List.replicate blanks ' ' ++ digits) := by
    rw [substr, if_neg (by omega), htake]
  have hlength : digits.length ≤ 5 := by
    have := congrArg List.length htake
    simp only [List.length_take, List.length_append] at this
    omega
  obtain ⟨c, rest, rfl⟩ := List.exists_cons_of_ne_nil hne
  have hdigit := hdigits c List.mem_cons_self
  have hskip : (List.replicate blanks ' ' ++ (c :: rest)).dropWhile isSpace = c :: rest := by
    rw [List.dropWhile_append_of_pos fun d hd => by rw [List.eq_of_mem_replicate hd]; rfl]
    exact List.dropWhile_cons_of_neg (by simp [not_isSpace_of_isDigit hdigit])
  have hsign : readSign (c :: rest) = (false, c :: rest) := by
    have hminus : c ≠ '-' := by
      rintro rfl
      exact absurd hdigit (by decide)
    have hplus : c ≠ '+' := by
      rintro rfl
      exact absurd hdigit (by decide)
    simp [readSign, hminus, hplus]
  have hbase : readPrefix 10 (c :: rest) = (10, c :: rest) := by
    simp [readPrefix]
  have hall : (c :: rest).takeWhile (fun c => decide (digitValue c < 10)) = c :: rest :=
    List.takeWhile_eq_self_iff.mpr fun d hd => decide_eq_true (digitValue_lt (hdigits d hd))
  have hsmall : numeral 10 (c :: rest) < 2 ^ 64 := by
    have hlt := numeral_lt (c :: rest) hdigits
    have hpow : 10 ^ (c :: rest).length ≤ 10 ^ 5 := Nat.pow_le_pow_right (by decide) hlength
    omega
  refine ⟨UInt64.ofNat (numeral 10 (c :: rest)), ?_⟩
  rw [catalogNumber, hsubstr]
  change stoul 10 _ = _
  simp only [stoul, hskip, hsign, hbase, hall, if_neg hne, if_neg hsmall.not_ge,
    Bool.false_eq_true, if_false]

/-- A number is found in the name or in line 1. -/
def Readable (tle : TLE) (n : Nat) : Prop := n < 2 ^ 64 ∧ (n = 0 → tle.catalog ≠ none)

theorem exists_ok_iff_readable {tle : TLE} (n : Nat) :
    (∃ satNum, (if n = 0 then (catalogNumber tle).map UInt64.toUInt32
      else if 2 ^ 64 ≤ n then .error .outOfRange
      else .ok (UInt64.ofNat n).toUInt32) = Except.ok satNum) ↔ Readable tle n := by
  unfold Readable TLE.catalog
  by_cases hzero : n = 0
  · subst hzero
    rw [if_pos rfl]
    cases catalogNumber tle with
    | error e => simp [Except.map, Except.toOption]
    | ok catalog => simp [Except.map, Except.toOption]
  · by_cases hlarge : 2 ^ 64 ≤ n
    · simp only [hzero, hlarge, if_false, if_true, reduceCtorEq, exists_false, false_imp_iff,
        and_true, false_iff]
      omega
    · simp only [hzero, hlarge, if_false, Except.ok.injEq, exists_eq', false_imp_iff, and_true,
        true_iff]
      omega

theorem map_isOk_iff {ε α β : Type} {x : Except ε α} {f : α → β} :
    (∃ b, x.map f = .ok b) ↔ ∃ a, x = .ok a := by
  cases x with
  | error e => simp [Except.map]
  | ok a => simp [Except.map]

theorem head?_ne_of_idxOf_pos (hd : 0 < name.idxOf d) : name.head? ≠ some d := by
  cases name with
  | nil => simp
  | cons c rest =>
    intro hhead
    have heq : c = d := by simpa using hhead
    subst heq
    simp at hd

theorem nameNumber_of_readsInside {tle : TLE}
    (hdash : '-' ∈ tle.satellite_name.chars) (hpos : 0 < tle.satellite_name.chars.idxOf '-')
    (hblank : TLE.Bracketed tle.satellite_name.chars (tle.satellite_name.chars.idxOf '-') →
      0 < tle.satellite_name.chars.idxOf ' ') :
    ∃ p delimiter, findDelimiter stray tle.satellite_name.chars delimiters = (p, delimiter) ∧
      numeral 10 ((tle.satellite_name.chars.drop (sizeT (p + delimiter.length))).filter
        Char.isDigit) = tle.nameNumber := by
  have hhead := head?_ne_of_idxOf_pos hpos
  by_cases hfirst : tle.satellite_name.chars.head? = some ' '
  · have hplain : TLE.plainIndex tle.satellite_name.chars '-' =
        some (tle.satellite_name.chars.idxOf '-') := by
      rw [TLE.plainIndex, if_pos]
      exact ⟨hdash, fun h => head?_ne_of_idxOf_pos (hblank h) hfirst⟩
    have hlen := tle.satellite_name.length_lt
    have hlt := List.idxOf_lt_length_of_mem hdash
    have hnext : sizeT (tle.satellite_name.chars.idxOf '-' + ['-'].length) =
        tle.satellite_name.chars.idxOf '-' + 1 := by
      unfold sizeT npos at *
      simp only [List.length_singleton]
      omega
    refine ⟨tle.satellite_name.chars.idxOf '-', ['-'], ?_, ?_⟩
    · rw [delimiters, findDelimiter_cons stray hhead hlen, hplain]
    · rw [hnext, TLE.nameNumber, TLE.delimiterIndex, hplain]
      rfl
  · obtain ⟨p, delimiter, hfind, -, hnumber⟩ := parts_of_name stray hhead hfirst
    exact ⟨p, delimiter, hfind, hnumber⟩

/-- A name is taken apart inside of the string and without an exception exactly if it has a dash
behind other characters, for the dash of `[-]` also a blank behind other characters, and a number
of 64 bits. -/
theorem name_taken_apart_iff {tle : TLE} (hsize : tle.satellite_name.chars.length ≤ maxSize)
    (hnumber : HoldsNumber tle.tle_line1.chars) :
    (ReadsInside stray tle.satellite_name.chars delimiters ∧
        ∃ value, getConstellationAndSatNum stray tle = .ok value) ↔
      ('-' ∈ tle.satellite_name.chars ∧ 0 < tle.satellite_name.chars.idxOf '-' ∧
        (TLE.Bracketed tle.satellite_name.chars (tle.satellite_name.chars.idxOf '-') →
          ' ' ∈ tle.satellite_name.chars ∧ 0 < tle.satellite_name.chars.idxOf ' ')) ∧
        tle.nameNumber < 2 ^ 64 := by
  rw [readsInside_delimiters_iff stray hsize]
  apply and_congr_right
  rintro ⟨hdash, hpos, hblank⟩
  obtain ⟨p, delimiter, hfind, hvalue⟩ :=
    nameNumber_of_readsInside stray hdash hpos fun h => (hblank h).2
  obtain ⟨catalog, hcatalog⟩ := catalogNumber_of_holdsNumber hnumber
  rw [getConstellationAndSatNum, hfind, map_isOk_iff, satNumOf_numericPart, hvalue]
  refine (exists_ok_iff_readable _).trans ⟨fun h => h.1, fun h => ⟨h, fun _ => ?_⟩⟩
  rw [TLE.catalog, hcatalog]
  exact Option.some_ne_none _

def starlink1007 : TLE :=
  ⟨⟨"STARLINK-1007".toList, by decide⟩, ⟨"1 44713U 19074A".toList, by decide⟩, TleFile.emptyString⟩

theorem starlink_1007_taken_apart :
    ReadsInside (fun _ => '?') starlink1007.satellite_name.chars delimiters ∧
      ∃ value, getConstellationAndSatNum (fun _ => '?') starlink1007 = .ok value :=
  (name_taken_apart_iff (fun _ => '?') (by decide)
    ⟨0, "44713".toList, by decide, by decide, List.all_eq_true.mp (by decide)⟩).mpr (by decide)

def iss : TLE :=
  ⟨⟨"ISS (ZARYA)".toList, by decide⟩, ⟨"1 25544U 98067A".toList, by decide⟩, TleFile.emptyString⟩

/-- A name without a dash is read far behind its end. -/
theorem iss_read_outside :
    HoldsNumber iss.tle_line1.chars ∧
      ¬ (ReadsInside (fun _ => '?') iss.satellite_name.chars delimiters ∧
        ∃ value, getConstellationAndSatNum (fun _ => '?') iss = .ok value) := by
  refine ⟨⟨0, "25544".toList, by decide, by decide, List.all_eq_true.mp (by decide)⟩, ?_⟩
  rw [readsInside_delimiters_iff _ (by decide)]
  rintro ⟨⟨hdash, -⟩, -⟩
  exact absurd hdash (by decide)

/-! The constellation that a name begins with. -/

/-- The name begins with the constellation, followed by a delimiter or by its end. -/
def Begins (c : Constellation) (name : List Char) : Prop :=
  name = c.name ∨ ∃ d ∈ delimiters, ∃ r, name = c.name ++ d :: r

theorem findDelimiter_cases (name ds : List Char) :
    (∃ d ∈ ds, d ∈ name ∧ findDelimiter stray name ds = (name.idxOf d, [d])) ∨
      findDelimiter stray name ds = (npos, []) := by
  induction ds with
  | nil => exact .inr rfl
  | cons d ds ih =>
    have hrest : (∃ d' ∈ d :: ds, d' ∈ name ∧
        findDelimiter stray name ds = (name.idxOf d', [d'])) ∨
          findDelimiter stray name ds = (npos, []) := by
      rcases ih with ⟨d', hd', hmem, hfind⟩ | hnone
      · exact .inl ⟨d', List.mem_cons_of_mem d hd', hmem, hfind⟩
      · exact .inr hnone
    simp only [findDelimiter]
    split
    · exact hrest
    · split
      · rename_i hfound
        have hmem : d ∈ name := by
          by_contra hd
          exact hfound (if_neg hd)
        have hfind : find name d = name.idxOf d := if_pos hmem
        exact .inl ⟨d, List.mem_cons_self, hmem, by rw [hfind]⟩
      · exact hrest

theorem begins_of_take {c : Constellation} (hlen : name.length < npos)
    (h : name.take (findDelimiter stray name delimiters).1 = c.name) : Begins c name := by
  rcases findDelimiter_cases stray name delimiters with ⟨d, hd, hmem, hfind⟩ | hnone
  · have hlt := List.idxOf_lt_length_of_mem hmem
    rw [hfind] at h
    refine .inr ⟨d, hd, name.drop (name.idxOf d + 1), ?_⟩
    rw [← h]
    calc name = name.take (name.idxOf d) ++ name.drop (name.idxOf d) :=
          (List.take_append_drop _ _).symm
      _ = _ := by rw [List.drop_eq_getElem_cons hlt, List.getElem_idxOf]
  · rw [hnone, List.take_of_length_le hlen.le] at h
    exact .inl h

theorem name_facts (c : Constellation) : '-' ∉ c.name ∧ ' ' ∉ c.name ∧
    c.name[c.name.length - 1]? ≠ some '[' ∧ 0 < c.name.length := by
  cases c <;> decide

theorem ofName_name (c : Constellation) : Constellation.ofName c.name = some c := by
  cases c <;> decide

theorem plainIndex_behind {c : Constellation} {r : List Char} (hd : d ∈ delimiters) :
    TLE.plainIndex (c.name ++ d :: r) d = some c.name.length := by
  obtain ⟨hdash, hblank, hlast, hpos⟩ := name_facts c
  have hnot : d ∉ c.name := by
    simp only [delimiters, List.mem_cons, List.not_mem_nil, or_false] at hd
    rcases hd with rfl | rfl
    · exact hdash
    · exact hblank
  have hindex : (c.name ++ d :: r).idxOf d = c.name.length := by
    rw [List.idxOf_append_of_notMem hnot, List.idxOf_cons_self, Nat.add_zero]
  rw [TLE.plainIndex, hindex, if_pos]
  refine ⟨by simp, fun hbracketed => hlast ?_⟩
  rw [← hbracketed.2.1, List.getElem?_append_left (by omega)]

/-- The first dash of the rest is no delimiter. -/
def NoDash (name r : List Char) : Prop := '-' ∉ r ∨ TLE.Bracketed name (name.idxOf '-')

/-- A satellite whose name begins with a constellation belongs to it exactly if the delimiter is a
dash or there is no dash to be found before. -/
theorem constellation_of_begins {tle : TLE} {c : Constellation} {r : List Char}
    (hd : d ∈ delimiters) (hname : tle.satellite_name.chars = c.name ++ d :: r) :
    (d = '-' ∨ NoDash tle.satellite_name.chars r →
      tle.constellation = c.name ∧ tle.nameNumber = numeral 10 (r.filter Char.isDigit)) ∧
    (tle.constellation = c.name → d = '-' ∨ NoDash tle.satellite_name.chars r) := by
  obtain ⟨hdash, hblank, -, -⟩ := name_facts c
  have hplain := @plainIndex_behind d c r hd
  have hfound : TLE.delimiterIndex tle.satellite_name.chars = some c.name.length →
      tle.constellation = c.name ∧ tle.nameNumber = numeral 10 (r.filter Char.isDigit) := by
    intro hindex
    rw [TLE.constellation, TLE.nameNumber, hindex, hname]
    constructor
    · exact List.take_left
    · change numeral 10 (((c.name ++ d :: r).drop (c.name.length + 1)).filter Char.isDigit) = _
      rw [← List.drop_drop, List.drop_left]
      rfl
  by_cases hd' : d = '-'
  · subst hd'
    refine ⟨fun _ => hfound ?_, fun _ => .inl rfl⟩
    rw [TLE.delimiterIndex, hname, hplain]
    rfl
  · have hblank' : d = ' ' := by
      simp only [delimiters, List.mem_cons, List.not_mem_nil, or_false] at hd
      exact hd.resolve_left hd'
    subst hblank'
    have hmem : '-' ∈ tle.satellite_name.chars ↔ '-' ∈ r := by
      simp [hname, hdash]
    have hnone : NoDash tle.satellite_name.chars r ↔
        TLE.plainIndex tle.satellite_name.chars '-' = none := by
      unfold NoDash TLE.plainIndex
      rw [← hmem]
      split
      · rename_i h
        simp only [reduceCtorEq, iff_false, not_or, not_not]
        exact h
      · rename_i h
        simp only [iff_true]
        by_cases hin : '-' ∈ tle.satellite_name.chars
        · exact .inr (Decidable.byContradiction fun hb => h ⟨hin, hb⟩)
        · exact .inl hin
    refine ⟨fun h => hfound ?_, fun h => .inr (hnone.mpr ?_)⟩
    · rw [TLE.delimiterIndex, hnone.mp (h.resolve_left hd'), Option.none_or, hname, hplain]
    · -- a name that is cut at a dash has the blank in front of it
      cases hcut : TLE.plainIndex tle.satellite_name.chars '-' with
      | none => rfl
      | some p =>
        rw [TLE.constellation, TLE.delimiterIndex, hcut] at h
        have hp : p = c.name.length + (1 + r.idxOf '-') := by
          unfold TLE.plainIndex at hcut
          split at hcut
          · rw [← Option.some.inj hcut, hname, List.idxOf_append_of_notMem hdash,
              List.idxOf_cons_ne _ (by decide), Nat.succ_eq_one_add]
          · cases hcut
        have hin : ' ' ∈ tle.satellite_name.chars.take p := by
          rw [hname, hp, List.take_length_add_append, Nat.add_comm, List.take_succ_cons]
          simp
        exact absurd (h ▸ hin) hblank

/-- The satellite is created in the submodule vector of the constellation. -/
def CreatedIn (c : Constellation) (tle : TLE) (inserter : SatelliteInserter)
    (result : SatelliteInserter × Option InserterError) : Prop :=
  ∃ request, result.1.created = inserter.created ++ [request] ∧ request.tle = tle ∧
    request.moduleName = "leo".toList ++ c.name

section
variable (sim : Simulation) {tle : TLE} {inserter : SatelliteInserter}

theorem instantiateSatellite_cases (hignore : inserter.ignoreUnknownSatellites = true) :
    (∃ c n, getConstellationAndSatNum stray tle = .ok (Constellation.name c, n) ∧
      CreatedIn c tle inserter (inserter.instantiateSatellite sim stray tle)) ∨
    (∃ value, getConstellationAndSatNum stray tle = .ok value ∧
      value.1 ∉ Constellation.all.map Constellation.name ∧
      inserter.instantiateSatellite sim stray tle = (inserter, none)) ∨
    ∃ e, getConstellationAndSatNum stray tle = .error e ∧
      inserter.instantiateSatellite sim stray tle = (inserter, some (.exception e)) := by
  rw [instantiateSatellite]
  cases getConstellationAndSatNum stray tle with
  | error e => exact .inr (.inr ⟨e, rfl, rfl⟩)
  | ok value =>
    obtain ⟨constellation, n⟩ := value
    rw [instantiateParsed]
    cases hfound : Constellation.ofName constellation with
    | some c =>
      obtain ⟨rfl, -⟩ := ofName_eq_some hfound
      exact .inl ⟨c, n, rfl, _, rfl, rfl, rfl⟩
    | none =>
      refine .inr (.inl ⟨_, rfl, ofName_eq_none hfound, ?_⟩)
      simp only [hignore, if_true]

theorem createdIn_iff (hignore : inserter.ignoreUnknownSatellites = true) (c : Constellation) :
    CreatedIn c tle inserter (inserter.instantiateSatellite sim stray tle) ↔
      ∃ n, getConstellationAndSatNum stray tle = .ok (c.name, n) := by
  have hnothing : ∀ error, ¬ CreatedIn c tle inserter (inserter, error) := by
    rintro error ⟨request, hcreated, -⟩
    simpa using congrArg List.length hcreated
  rcases instantiateSatellite_cases stray sim hignore with ⟨c', n, hok, hcreated⟩ |
    ⟨value, hok, hunknown, hresult⟩ | ⟨e, herror, hresult⟩
  · have hsame : CreatedIn c tle inserter (inserter.instantiateSatellite sim stray tle) ↔
        c'.name = c.name := by
      obtain ⟨request, hlist, htle, hmodule⟩ := hcreated
      constructor
      · rintro ⟨request', hlist', -, hmodule'⟩
        obtain rfl : request = request' := by simpa using hlist.symm.trans hlist'
        exact List.append_cancel_left (hmodule.symm.trans hmodule')
      · intro heq
        exact ⟨request, hlist, htle, heq ▸ hmodule⟩
    rw [hsame, hok]
    simp only [Except.ok.injEq, Prod.mk.injEq, exists_and_left, exists_eq', and_true]
  · rw [hresult, hok]
    simp only [hnothing, Except.ok.injEq, false_iff, not_exists]
    rintro n rfl
    exact hunknown (List.mem_map_of_mem (by cases c <;> decide))
  · rw [hresult, herror]
    simp only [hnothing, reduceCtorEq, exists_false]

theorem discarded_iff (hignore : inserter.ignoreUnknownSatellites = true)
    (hunknown : ∀ c, ¬ Begins c tle.satellite_name.chars) :
    inserter.instantiateSatellite sim stray tle = (inserter, none) ↔
      ∃ value, getConstellationAndSatNum stray tle = .ok value := by
  rcases instantiateSatellite_cases stray sim hignore with ⟨c, n, hok, -⟩ |
    ⟨value, hok, -, hresult⟩ | ⟨e, herror, hresult⟩
  · rw [getConstellationAndSatNum, map_eq_ok_iff] at hok
    obtain ⟨m, -, hvalue⟩ := hok
    have htake := congrArg Prod.fst hvalue
    exact absurd (begins_of_take stray tle.satellite_name.length_lt htake) (hunknown c)
  · simp only [hresult, hok, Except.ok.injEq, exists_eq']
  · simp only [hresult, herror, Prod.mk.injEq, reduceCtorEq, and_false, exists_false]

/-- The name has the delimiter, and the first one does not stand between brackets. -/
def isPlain (name : List Char) (d : Char) : Bool :=
  decide (d ∈ name) && !isBracketed stray name (name.idxOf d)

/-- The digits behind the delimiter, as a number, or zero without a delimiter. -/
def foundNumber (tle : TLE) : Nat :=
  match delimiters.find? (isPlain stray tle.satellite_name.chars) with
  | some d =>
    numeral 10 ((tle.satellite_name.chars.drop (tle.satellite_name.chars.idxOf d + 1)).filter
      Char.isDigit)
  | none => 0

theorem findDelimiter_eq_find? (hlen : name.length < npos) (ds : List Char) :
    findDelimiter stray name ds =
      ((ds.find? (isPlain stray name)).map fun d => (name.idxOf d, [d])).getD (npos, []) := by
  induction ds with
  | nil => rfl
  | cons d ds ih =>
    rw [findDelimiter, List.find?_cons, ih]
    by_cases hd : d ∈ name
    · have hfind : find name d = name.idxOf d := if_pos hd
      have hfound : name.idxOf d ≠ npos := by
        have hlt := List.idxOf_lt_length_of_mem hd
        omega
      cases hbracketed : isBracketed stray name (name.idxOf d) with
      | true => simp [isPlain, hfind, hbracketed]
      | false => simp [isPlain, hfind, hbracketed, hd, hfound]
    · have hfind : find name d = npos := if_neg hd
      simp [isPlain, hfind, hd]

theorem numeral_found (tle : TLE) :
    numeral 10 ((tle.satellite_name.chars.drop
        (sizeT ((findDelimiter stray tle.satellite_name.chars delimiters).1 +
          (findDelimiter stray tle.satellite_name.chars delimiters).2.length))).filter
      Char.isDigit) = foundNumber stray tle := by
  have hlen := tle.satellite_name.length_lt
  rw [findDelimiter_eq_find? stray hlen, foundNumber]
  cases hfound : delimiters.find? (isPlain stray tle.satellite_name.chars) with
  | none =>
    have hend : sizeT (npos + ([] : List Char).length) = npos := by simp [sizeT, npos]
    rw [Option.map_none, Option.getD_none, hend, List.drop_of_length_le hlen.le]
    rfl
  | some d =>
    have hd : d ∈ tle.satellite_name.chars := by
      have hplain := List.find?_some hfound
      rw [isPlain, Bool.and_eq_true, decide_eq_true_eq] at hplain
      exact hplain.1
    have hlt := List.idxOf_lt_length_of_mem hd
    have hnext : sizeT (tle.satellite_name.chars.idxOf d + [d].length) =
        tle.satellite_name.chars.idxOf d + 1 := by
      unfold sizeT npos at *
      simp only [List.length_singleton]
      omega
    rw [Option.map_some, Option.getD_some, hnext]

theorem exists_value_iff :
    (∃ value, getConstellationAndSatNum stray tle = .ok value) ↔
      Readable tle (foundNumber stray tle) := by
  rw [getConstellationAndSatNum, map_isOk_iff, satNumOf_numericPart, numeral_found]
  exact exists_ok_iff_readable _

/-- A satellite whose name begins with a constellation gets there exactly if the delimiter is a
dash or no dash follows, apart from that of `[-]`; one without a constellation is discarded. In
both cases a number has to be found. -/
theorem membership_iff (hignore : inserter.ignoreUnknownSatellites = true) :
    (∀ c, ∀ d ∈ delimiters, ∀ r, tle.satellite_name.chars = Constellation.name c ++ d :: r →
      (CreatedIn c tle inserter (inserter.instantiateSatellite sim stray tle) ↔
        (d = '-' ∨ NoDash tle.satellite_name.chars r) ∧
          Readable tle (numeral 10 (r.filter Char.isDigit)))) ∧
    ((∀ c, ¬ Begins c tle.satellite_name.chars) →
      (inserter.instantiateSatellite sim stray tle = (inserter, none) ↔
        Readable tle (foundNumber stray tle))) := by
  constructor
  · intro c d hd r hname
    obtain ⟨hfound, hnodash⟩ := constellation_of_begins hd hname
    obtain ⟨hdash, hblank, -, hlength⟩ := name_facts c
    have hhead : ∀ d', d' ∉ c.name → tle.satellite_name.chars.head? ≠ some d' := by
      intro d' hd' heq
      obtain ⟨first, rest, hfirst⟩ := List.exists_cons_of_length_pos hlength
      rw [hname, hfirst, List.cons_append, List.head?_cons, Option.some.injEq] at heq
      rw [hfirst, heq] at hd'
      exact hd' List.mem_cons_self
    rw [createdIn_iff stray sim hignore,
      getConstellationAndSatNum_eq stray (hhead '-' hdash) (hhead ' ' hblank)]
    simp only [map_eq_ok_iff, Prod.mk.injEq]
    constructor
    · rintro ⟨n, m, hm, hconstellation, rfl⟩
      have hcondition := hnodash hconstellation
      rw [← (hfound hcondition).2]
      exact ⟨hcondition, (exists_ok_iff_readable _).mp ⟨m, hm⟩⟩
    · rintro ⟨hcondition, hreadable⟩
      obtain ⟨hconstellation, hnumber⟩ := hfound hcondition
      rw [← hnumber, ← exists_ok_iff_readable] at hreadable
      obtain ⟨m, hm⟩ := hreadable
      exact ⟨m, m, hm, hconstellation, rfl⟩
  · intro hunknown
    rw [discarded_iff stray sim hignore hunknown, exists_value_iff]

end

theorem starlink_1007_member :
    CreatedIn .starlink starlink1007 defaultInserter
      (defaultInserter.instantiateSatellite strictSimulation (fun _ => '?') starlink1007) :=
  ((membership_iff (fun _ => '?') strictSimulation rfl).1 .starlink '-' List.mem_cons_self
    "1007".toList rfl).mpr ⟨.inl rfl, by decide, by decide⟩

def iridium33B : TLE :=
  ⟨⟨"IRIDIUM 33-B".toList, by decide⟩, ⟨"1 33776U 97051S".toList, by decide⟩, TleFile.emptyString⟩

/-- The satellite is discarded, although its name begins with a constellation and a blank. -/
theorem iridium_33_b_missing :
    iridium33B.satellite_name.chars = Constellation.name .iridium ++ ' ' :: "33-B".toList ∧
      ¬ CreatedIn .iridium iridium33B defaultInserter
        (defaultInserter.instantiateSatellite strictSimulation (fun _ => '?') iridium33B) := by
  refine ⟨rfl, ?_⟩
  rw [createdIn_iff _ _ rfl]
  rintro ⟨n, hn⟩
  have hconstellation : (getConstellationAndSatNum (fun _ => '?') iridium33B).map Prod.fst =
      .ok "IRIDIUM 33".toList := by
    decide +kernel
  rw [hn] at hconstellation
  have hname : Constellation.name .iridium = "IRIDIUM 33".toList := Except.ok.inj hconstellation
  exact absurd hname (by decide)

end SatelliteInserter
end SpaceVeins

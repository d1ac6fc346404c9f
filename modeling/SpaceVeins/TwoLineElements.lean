import SpaceVeins.SGP4
import SpaceVeins.JulianDate
import SpaceVeins.Shared.FixedColumns

/-!
# Reading two-line elements

`twoline2rv` fills blanks and sets the implied decimal points in the two lines,
reads them with `sscanf` and turns the values to the units of the propagator. Every
element set in the fixed columns of the format is read back, with one peculiarity:
the check digit behind the element number and behind the revolution number is read
as their last digit.
-/

set_option autoImplicit false

namespace SpaceVeins.SGP4Funcs
open CxxString Scanf FixedColumns SGP4Mobility

/-- What `twoline2rv` stores in its record, with the locals that it reads into. -/
structure TwoLineRecord (K : Type) where
  error : Int
  cardnumb : Int
  satnum : List Char
  classification : Char
  intldesg : List Char
  epochyr : Int
  epochdays : K
  ndot : K
  nddot : K
  nexp : Int
  bstar : K
  ibexp : Int
  ephtype : Int
  elnum : Int
  inclo : K
  nodeo : K
  ecco : K
  argpo : K
  mo : K
  no_kozai : K
  revnum : Int
  jdsatepoch : K
  jdsatepochF : K

/-- The fixes for missing data in the first line. -/
def fixLine1 (longstr1 : List Char) : List Char :=
  let line := fill 10 15 '_' longstr1
  let line := setPoint 44 line
  let line := fill 7 7 'U' line
  let line := fill 9 9 '.' line
  let line := fill 45 49 '0' line
  let line := fill 51 51 '0' line
  let line := setPoint 53 line
  fill 68 68 '0' (fill 62 62 '0' line)

def fixLine2 (longstr2 : List Char) : List Char := fill 26 32 '0' (longstr2.set 25 '.')

variable {K : Type} [Field K] [LinearOrder K] [IsStrictOrderedRing K] [FloorRing K]

section Formats

def format1 : List (Directive (TwoLineRecord K)) :=
  [store (scanInt 2) fun v r => { r with cardnumb := v },
   space, store (scanWord 5) fun v r => { r with satnum := v },
   space, store scanChar fun v r => { r with classification := v },
   space, store (scanWord 10) fun v r => { r with intldesg := v },
   space, store (scanInt 2) fun v r => { r with epochyr := v },
   space, store (scanFloat 12) fun v r => { r with epochdays := v },
   space, store (scanFloat 11) fun v r => { r with ndot := v },
   space, store (scanFloat 7) fun v r => { r with nddot := v },
   space, store (scanInt 2) fun v r => { r with nexp := v },
   space, store (scanFloat 7) fun v r => { r with bstar := v },
   space, store (scanInt 2) fun v r => { r with ibexp := v },
   space, store (scanInt 2) fun v r => { r with ephtype := v },
   space, store (scanInt 6) fun v r => { r with elnum := v },
   space]

/-- With the width of the mean motion. -/
def format2 (width : Nat) : List (Directive (TwoLineRecord K)) :=
  [store (scanInt 2) fun v r => { r with cardnumb := v },
   space, store (scanWord 5) fun v r => { r with satnum := v },
   space, store (scanFloat 9) fun v r => { r with inclo := v },
   space, store (scanFloat 9) fun v r => { r with nodeo := v },
   space, store (scanFloat 8) fun v r => { r with ecco := v },
   space, store (scanFloat 9) fun v r => { r with argpo := v },
   space, store (scanFloat 9) fun v r => { r with mo := v },
   space, store (scanFloat width) fun v r => { r with no_kozai := v },
   space, store (scanInt 6) fun v r => { r with revnum := v },
   space]

end Formats

def xpdotp : K := 1440.0 / (2.0 * pi)

/-- The units of the propagator. -/
def convertUnits (r : TwoLineRecord K) : TwoLineRecord K :=
  { r with
    no_kozai := r.no_kozai / xpdotp
    nddot := r.nddot * (10.0 : K) ^ r.nexp / (xpdotp * 1440.0 * 1440.0)
    bstar := r.bstar * (10.0 : K) ^ r.ibexp
    ndot := r.ndot / (xpdotp * 1440.0)
    inclo := r.inclo * deg2rad
    nodeo := r.nodeo * deg2rad
    argpo := r.argpo * deg2rad
    mo := r.mo * deg2rad }

def findEpoch (r : TwoLineRecord K) : TwoLineRecord K :=
  let year := if r.epochyr < 57 then r.epochyr + 2000 else r.epochyr + 1900
  let jd := jday_SGP4 (days2mdhms_SGP4 year r.epochdays)
  { r with jdsatepoch := jd.1, jdsatepochF := jd.2 }

/-- `twoline2rv` of a catalog run up to the call of `sgp4init`; a line that is too short to be
fixed in place is none. -/
def twoline2rv (longstr1 longstr2 : List Char) (satrec : TwoLineRecord K) :
    Option (TwoLineRecord K) :=
  if longstr1.length < 68 ∨ longstr2.length < 52 then none
  else
    let longstr1 := fixLine1 longstr1
    let longstr2 := fixLine2 longstr2
    let r := sscanf longstr1 format1 { satrec with error := 0 }
    let width := if longstr2.getD 52 '\x00' = ' ' then 10 else 11
    some (findEpoch (convertUnits (sscanf longstr2 (format2 width) r)))

/-- The record before anything is read. -/
def noRecord : TwoLineRecord K :=
  ⟨0, 0, [], 'U', [], 0, 0, 0, 0, 0, 0, 0, 0, 0, 0, 0, 0, 0, 0, 0, 0, 0, 0⟩

/-- A field without white space. -/
structure Word (width : Nat) where
  chars : List Char
  length_eq : chars.length = width
  nonSpace : ∀ c ∈ chars, isSpace c = false

theorem Word.ne_nil {width : Nat} (w : Word width) (h : 0 < width) : w.chars ≠ [] := by
  rintro hnil
  have hlength := w.length_eq
  rw [hnil, List.length_nil] at hlength
  omega

/-- A character or a blank. -/
abbrev Mark := { c : Char // c = ' ' ∨ isSpace c = false }

/-- An international designator: the last two digits of a year, a number and a piece of at most
three letters. -/
structure Designator where
  first : Mark
  middle : List Mark
  last : Mark
  length_eq : middle.length = 6

/-- An element set in the columns of the two lines. -/
structure ElementSet where
  satnum : Word 5
  classification : Mark
  designator : Designator
  epochyr : Digits 2
  epochdays : Fixed 3 8
  ndotSign : Sign
  ndot : Digits 8
  nddot : BlankScientific 5
  bstar : Scientific 5
  ephtype : BlankDigits 1
  elnum : Numeral 4
  checksum1 : BlankDigits 1
  inclo : Fixed 3 4
  nodeo : Fixed 3 4
  ecco : BlankDigits 7
  argpo : Fixed 3 4
  mo : Fixed 3 4
  no_kozai : Fixed 2 8
  revnum : Numeral 5
  checksum2 : Digits 1

namespace Designator
variable (d : Designator)

def text : List Char := d.first :: (d.middle.map (·.1) ++ [d.last.1])

/-- The designator in front of the last character as `twoline2rv` fixes it. -/
def fixed : List Char :=
  fillBlank '.' d.first :: d.middle.map fun c => fillBlank '_' c.1

def stored : List Char := d.fixed ++ if d.last.1 = ' ' then [] else [d.last.1]

/-- The blanks behind it. -/
def gap : Nat := if d.last.1 = ' ' then 2 else 1

end Designator

theorem fillBlank_nonSpace {d : Char} (hd : isSpace d = false) (c : Mark) :
    isSpace (fillBlank d c.1) = false := by
  rw [fillBlank]
  split_ifs with hc
  · exact hd
  · exact c.2.resolve_left hc

/-- The last character belongs to the designator unless it is a blank. -/
theorem Designator.scanWord_fixed (d : Designator) (rest : List Char) :
    scanWord 10 (d.fixed ++ d.last.1 :: ' ' :: rest) =
      some (d.stored, List.replicate d.gap ' ' ++ rest) := by
  have hfixed : ∀ c ∈ d.fixed, isSpace c = false := by
    intro c hc
    rcases List.mem_cons.mp hc with rfl | hc
    · exact fillBlank_nonSpace (by decide) _
    · obtain ⟨mark, _, rfl⟩ := List.mem_map.mp hc
      exact fillBlank_nonSpace (by decide) mark
  have hlength : d.fixed.length = 7 := by
    simp [fixed, d.length_eq]
  have hne : d.fixed ≠ [] := List.cons_ne_nil _ _
  have hend : ∀ c, (' ' :: rest).head? = some c → isSpace c = true := by
    intro c hc
    simp only [List.head?_cons, Option.some.injEq] at hc
    subst hc
    decide
  by_cases hlast : d.last.1 = ' '
  · rw [stored, gap, if_pos hlast, if_pos hlast, List.append_nil, hlast]
    exact scanWord_append hfixed hne (by omega) (.inr fun c hc => hend c hc)
  · have hword : ∀ c ∈ d.stored, isSpace c = false := by
      intro c hc
      rw [stored, if_neg hlast] at hc
      rcases List.mem_append.mp hc with hc | hc
      · exact hfixed c hc
      · exact List.mem_singleton.mp hc ▸ d.last.2.resolve_left hlast
    have hstored : d.fixed ++ d.last.1 :: ' ' :: rest = d.stored ++ ' ' :: rest := by
      rw [stored, if_neg hlast, List.append_assoc, List.singleton_append]
    rw [hstored, gap, if_neg hlast]
    exact scanWord_append hword (by simp [stored, fixed])
      (by simp [stored, if_neg hlast, hlength]) (.inr hend)

namespace ElementSet
variable (e : ElementSet)

def line1 : List Char :=
  '1' :: ' ' :: (e.satnum.chars ++ e.classification.1 :: ' ' :: (e.designator.text ++
    ' ' :: (e.epochyr.chars ++ (e.epochdays.text ++
    ' ' :: e.ndotSign.char :: '.' :: (e.ndot.chars ++
    ' ' :: e.nddot.sign.char :: (e.nddot.mantissa.chars ++
    e.nddot.exponentSign.char :: (e.nddot.exponent.chars ++
    ' ' :: e.bstar.sign.char :: (e.bstar.mantissa.chars ++
    e.bstar.exponentSign.char :: (e.bstar.exponent.chars ++
    ' ' :: (e.ephtype.chars ++ ' ' :: (e.elnum.text ++ e.checksum1.chars)))))))))))

def line2 : List Char :=
  '2' :: ' ' :: (e.satnum.chars ++ ' ' :: (e.inclo.text ++ ' ' :: (e.nodeo.text ++
    ' ' :: (e.ecco.chars ++ ' ' :: (e.argpo.text ++ ' ' :: (e.mo.text ++
    ' ' :: (e.no_kozai.text ++ (e.revnum.text ++ e.checksum2.chars))))))))

/-- The first line after its fixes. -/
def fixed1 : List Char :=
  '1' :: ' ' :: (e.satnum.chars ++ fillBlank 'U' e.classification.1 :: ' ' ::
    (e.designator.fixed ++ e.designator.last.1 ::
    ' ' :: (e.epochyr.chars ++ (e.epochdays.text ++
    ' ' :: e.ndotSign.char :: '.' :: (e.ndot.chars ++
    e.nddot.sign.char :: '.' :: (e.nddot.mantissa.filled.chars ++
    e.nddot.exponentSign.char :: (e.nddot.exponent.filled.chars ++
    e.bstar.sign.char :: '.' :: (e.bstar.mantissa.chars ++
    e.bstar.exponentSign.char :: (e.bstar.exponent.chars ++
    ' ' :: (e.ephtype.filled.chars ++ ' ' :: (e.elnum.text ++ e.checksum1.filled.chars)))))))))))

def fixed2 : List Char :=
  '2' :: ' ' :: (e.satnum.chars ++ ' ' :: (e.inclo.text ++ ' ' :: (e.nodeo.text ++
    '.' :: (e.ecco.filled.chars ++ ' ' :: (e.argpo.text ++ ' ' :: (e.mo.text ++
    ' ' :: (e.no_kozai.text ++ (e.revnum.text ++ e.checksum2.chars))))))))

theorem fixLine2_line2 (tail : List Char) : fixLine2 (e.line2 ++ tail) = e.fixed2 ++ tail := by
  simp [fixLine2, line2, fixed2, fill_append, fill_cons, fill_field, e.satnum.length_eq,
    Fixed.length_text, e.ecco.length_eq, BlankDigits.filled]

theorem fixLine1_line1 (tail : List Char) : fixLine1 (e.line1 ++ tail) = e.fixed1 ++ tail := by
  simp [fixLine1, line1, fixed1, fill_append, fill_cons, fill_field, fill_head, setPoint_append,
    setPoint_cons, setPoint_sign, e.satnum.length_eq, Designator.text, Designator.fixed,
    e.designator.length_eq, Fixed.length_text, e.epochyr.length_eq, e.ndot.length_eq,
    e.nddot.mantissa.length_eq, e.nddot.exponent.length_eq, e.bstar.mantissa.length_eq,
    e.bstar.exponent.length_eq, e.ephtype.length_eq, Numeral.length_text, e.checksum1.length_eq,
    BlankDigits.filled, Function.comp_def]

theorem blank_ends (s : List Char) : EndsFloat (' ' :: s) :=
  endsFloat_cons (by decide) (by decide) (by decide) s

theorem point_ends (s : List Char) : EndsFloat ('.' :: s) :=
  endsFloat_cons (by decide) (by decide) (by decide) s

omit [IsStrictOrderedRing K] in
/-- The mean motion fills its width, and the revolution number may follow at once. -/
theorem read2 {tail : List Char} {width : Nat}
    (hwidth : e.no_kozai.whole.digits.length + 1 + 8 = width) (htail : Ends tail)
    (r : TwoLineRecord K) :
    sscanf (e.fixed2 ++ tail) (format2 width) r =
      { r with
        cardnumb := 2
        satnum := e.satnum.chars
        inclo := e.inclo.value
        nodeo := e.nodeo.value
        ecco := e.ecco.filled.fraction
        argpo := e.argpo.value
        mo := e.mo.value
        no_kozai := e.no_kozai.value
        revnum := 10 * e.revnum.value + e.checksum2.value } := by
  have hfixed : ∀ x : Fixed 3 4, x.whole.digits.length + 1 + 4 ≤ 9 := by
    intro x
    have h := x.whole.digits_length_le
    omega
  simp only [fixed2, List.append_assoc, List.cons_append, format2]
  refine (sscanf_store (scanInt_digit (by decide) (by decide) (blank_ends _).ends) _ _).trans ?_
  refine (sscanf_blank_store (scanWord_skipsSpace 5) (scanWord_append e.satnum.nonSpace
    (e.satnum.ne_nil (by decide)) e.satnum.length_eq.le (.inl e.satnum.length_eq)) _ _).trans ?_
  dsimp only
  refine (sscanf_blank_store (scanFloat_skipsSpace 9) (scanFloat_fixed e.inclo (by decide)
    (hfixed _) (.inr (blank_ends _))) _ _).trans ?_
  dsimp only
  refine (sscanf_blank_store (scanFloat_skipsSpace 9) (scanFloat_fixed e.nodeo (by decide)
    (hfixed _) (.inr (point_ends _))) _ _).trans ?_
  dsimp only
  refine (sscanf_space_store (scanFloat_skipsSpace 8) (scanFloat_fraction e.ecco.filled (by decide)
    (by decide) (blank_ends _)) _ _).trans ?_
  dsimp only
  refine (sscanf_blank_store (scanFloat_skipsSpace 9) (scanFloat_fixed e.argpo (by decide)
    (hfixed _) (.inr (blank_ends _))) _ _).trans ?_
  dsimp only
  refine (sscanf_blank_store (scanFloat_skipsSpace 9) (scanFloat_fixed e.mo (by decide)
    (hfixed _) (.inr (blank_ends _))) _ _).trans ?_
  dsimp only
  refine (sscanf_blank_store (scanFloat_skipsSpace width) (scanFloat_fixed e.no_kozai (by decide)
    hwidth.le (.inl hwidth)) _ _).trans ?_
  dsimp only
  exact sscanf_space_store (scanInt_skipsSpace 6) (scanInt_numeral_digit e.revnum e.checksum2
    (by decide) htail) _ _

omit [IsStrictOrderedRing K] in
theorem read1 {tail : List Char} (htail : Ends tail) (r : TwoLineRecord K) :
    sscanf (e.fixed1 ++ tail) format1 r =
      { r with
        cardnumb := 1
        satnum := e.satnum.chars
        classification := fillBlank 'U' e.classification.1
        intldesg := e.designator.stored
        epochyr := e.epochyr.value
        epochdays := e.epochdays.value
        ndot := e.ndotSign.apply e.ndot.fraction
        nddot := e.nddot.sign.apply e.nddot.mantissa.filled.fraction
        nexp := e.nddot.exponentSign.apply (e.nddot.exponent.filled.value : Int)
        bstar := e.bstar.sign.apply e.bstar.mantissa.fraction
        ibexp := e.bstar.exponentSign.apply (e.bstar.exponent.value : Int)
        ephtype := e.ephtype.filled.value
        elnum := 10 * e.elnum.value + e.checksum1.filled.value } := by
  have hclass : ∀ s, skipSpace (fillBlank 'U' e.classification.1 :: s) =
      fillBlank 'U' e.classification.1 :: s :=
    skipSpace_cons (fillBlank_nonSpace (by decide) _)
  have hdays : e.epochdays.whole.digits.length + 1 + 8 ≤ 12 := by
    have h := e.epochdays.whole.digits_length_le
    omega
  simp only [fixed1, List.append_assoc, List.cons_append, format1]
  refine (sscanf_store (scanInt_digit (by decide) (by decide) (blank_ends _).ends) _ _).trans ?_
  refine (sscanf_blank_store (scanWord_skipsSpace 5) (scanWord_append e.satnum.nonSpace
    (e.satnum.ne_nil (by decide)) e.satnum.length_eq.le (.inl e.satnum.length_eq)) _ _).trans ?_
  dsimp only
  rw [sscanf_space, hclass]
  refine (sscanf_store rfl _ _).trans ?_
  dsimp only
  refine (sscanf_space_store (scanWord_skipsSpace 10)
    (e.designator.scanWord_fixed _) _ _).trans ?_
  dsimp only
  refine (sscanf_space_store (scanInt_skipsSpace 2) ((scanInt_blanks 2 e.designator.gap _).trans
    (scanInt_field e.epochyr (by decide) le_rfl (.inl rfl))) _ _).trans ?_
  dsimp only
  refine (sscanf_space_store (scanFloat_skipsSpace 12) (scanFloat_fixed e.epochdays (by decide)
    hdays (.inr (blank_ends _))) _ _).trans ?_
  dsimp only
  refine (sscanf_blank_store (scanFloat_skipsSpace 11) (scanFloat_sign e.ndotSign e.ndot
    (by decide) (by decide) (e.nddot.sign.endsFloat _)) _ _).trans ?_
  dsimp only
  refine (sscanf_space_store (scanFloat_skipsSpace 7) (scanFloat_sign e.nddot.sign
    e.nddot.mantissa.filled (by decide) (by decide)
    (e.nddot.exponentSign.endsFloat _)) _ _).trans ?_
  dsimp only
  refine (sscanf_space_store (scanInt_skipsSpace 2) (scanInt_sign e.nddot.exponentSign
    e.nddot.exponent.filled (by decide) (by decide) (e.bstar.sign.ends _)) _ _).trans ?_
  dsimp only
  refine (sscanf_space_store (scanFloat_skipsSpace 7) (scanFloat_sign e.bstar.sign
    e.bstar.mantissa (by decide) (by decide) (e.bstar.exponentSign.endsFloat _)) _ _).trans ?_
  dsimp only
  refine (sscanf_space_store (scanInt_skipsSpace 2) (scanInt_sign e.bstar.exponentSign
    e.bstar.exponent (by decide) (by decide) (blank_ends _).ends) _ _).trans ?_
  dsimp only
  refine (sscanf_blank_store (scanInt_skipsSpace 2) (scanInt_field e.ephtype.filled (by decide)
    (by decide) (.inr (blank_ends _).ends)) _ _).trans ?_
  dsimp only
  exact sscanf_blank_store (scanInt_skipsSpace 6) (scanInt_numeral_digit e.elnum
    e.checksum1.filled (by decide) htail) _ _

theorem length_line1 : e.line1.length = 69 := by
  simp [line1, e.satnum.length_eq, Designator.text, e.designator.length_eq, e.epochyr.length_eq,
    Fixed.length_text, e.ndot.length_eq, e.nddot.mantissa.length_eq, e.nddot.exponent.length_eq,
    e.bstar.mantissa.length_eq, e.bstar.exponent.length_eq, e.ephtype.length_eq,
    Numeral.length_text, e.checksum1.length_eq]

theorem length_line2 : e.line2.length = 69 := by
  simp [line2, e.satnum.length_eq, Fixed.length_text, e.ecco.length_eq, Numeral.length_text,
    e.checksum2.length_eq]

/-- A blank in column 52 takes one digit from the mean motion. -/
theorem width_eq (tail : List Char) :
    e.no_kozai.whole.digits.length + 1 + 8 =
      if (e.fixed2 ++ tail).getD 52 '\x00' = ' ' then 10 else 11 := by
  have hcolumn : (e.fixed2 ++ tail)[52]? =
      (e.no_kozai.text ++ (e.revnum.text ++ (e.checksum2.chars ++ tail)))[0]? := by
    simp [fixed2, List.getElem?_append_right, e.satnum.length_eq,
      Fixed.length_text, e.ecco.filled.length_eq]
  have hwidth := e.no_kozai.whole.width_eq
  have hlength := List.length_pos_iff.mpr e.no_kozai.whole.ne_nil
  rw [List.getD_eq_getElem?_getD, hcolumn, Fixed.text, Numeral.text]
  rcases hblanks : e.no_kozai.whole.blanks with _ | k
  · obtain ⟨c, digits, hdigits⟩ := List.exists_cons_of_ne_nil e.no_kozai.whole.ne_nil
    have hc := e.no_kozai.whole.isDigit c (hdigits ▸ List.mem_cons_self)
    have hne : c ≠ ' ' := by
      rintro rfl
      exact absurd hc (by decide)
    rw [hdigits] at hwidth ⊢
    simp only [List.length_cons] at hwidth
    simp [hne]
    omega
  · simp [List.replicate_succ]
    omega

end ElementSet

/-- The record of an element set. -/
def ElementSet.record (e : ElementSet) : TwoLineRecord K :=
  findEpoch (convertUnits
    { error := 0
      cardnumb := 2
      satnum := e.satnum.chars
      classification := fillBlank 'U' e.classification.1
      intldesg := e.designator.stored
      epochyr := e.epochyr.value
      epochdays := e.epochdays.value
      ndot := e.ndotSign.apply e.ndot.fraction
      nddot := e.nddot.sign.apply e.nddot.mantissa.filled.fraction
      nexp := e.nddot.exponentSign.apply (e.nddot.exponent.filled.value : Int)
      bstar := e.bstar.sign.apply e.bstar.mantissa.fraction
      ibexp := e.bstar.exponentSign.apply (e.bstar.exponent.value : Int)
      ephtype := e.ephtype.filled.value
      elnum := 10 * e.elnum.value + e.checksum1.filled.value
      inclo := e.inclo.value
      nodeo := e.nodeo.value
      ecco := e.ecco.filled.fraction
      argpo := e.argpo.value
      mo := e.mo.value
      no_kozai := e.no_kozai.value
      revnum := 10 * e.revnum.value + e.checksum2.value
      jdsatepoch := 0
      jdsatepochF := 0 })

/-- The record holds the element set, in the units of the propagator. -/
structure Reads (e : ElementSet) (r : TwoLineRecord K) : Prop where
  error : r.error = 0
  satnum : r.satnum = e.satnum.chars
  classification : r.classification = fillBlank 'U' e.classification.1
  intldesg : r.intldesg = e.designator.stored
  epochyr : r.epochyr = e.epochyr.value
  epochdays : r.epochdays = e.epochdays.value
  ndot : r.ndot = e.ndotSign.apply e.ndot.fraction / (xpdotp * 1440.0)
  nddot : r.nddot = e.nddot.filled.value / (xpdotp * 1440.0 * 1440.0)
  bstar : r.bstar = e.bstar.value
  ephtype : r.ephtype = e.ephtype.filled.value
  elnum : r.elnum = 10 * e.elnum.value + e.checksum1.filled.value
  inclo : r.inclo = e.inclo.value * deg2rad
  nodeo : r.nodeo = e.nodeo.value * deg2rad
  ecco : r.ecco = e.ecco.filled.fraction
  argpo : r.argpo = e.argpo.value * deg2rad
  mo : r.mo = e.mo.value * deg2rad
  no_kozai : r.no_kozai = e.no_kozai.value / xpdotp
  revnum : r.revnum = 10 * e.revnum.value + e.checksum2.value
  epoch : instant (r.jdsatepoch, r.jdsatepochF) =
    numberInstant (monthNumber (epochYear e.epochyr.value) 1) + e.epochdays.value

omit [IsStrictOrderedRing K] in
theorem findEpoch_epoch (r : TwoLineRecord K) :
    ((findEpoch r).jdsatepoch, (findEpoch r).jdsatepochF) =
      jday_SGP4 (days2mdhms_SGP4 (epochYear r.epochyr) r.epochdays) := by
  have hyear : (if r.epochyr < 57 then r.epochyr + 2000 else r.epochyr + 1900) =
      epochYear r.epochyr := by
    rw [epochYear]
    split_ifs <;> omega
  simp only [findEpoch, hyear]

omit [IsStrictOrderedRing K] in
theorem twoline2rv_eq (e : ElementSet) {tail1 tail2 : List Char} (htail1 : Ends tail1)
    (htail2 : Ends tail2) (satrec : TwoLineRecord K) :
    twoline2rv (e.line1 ++ tail1) (e.line2 ++ tail2) satrec = some e.record := by
  have hlong : ¬((e.line1 ++ tail1).length < 68 ∨ (e.line2 ++ tail2).length < 52) := by
    rw [List.length_append, List.length_append, e.length_line1, e.length_line2]
    omega
  rw [twoline2rv, if_neg hlong]
  simp only [e.fixLine1_line1, e.fixLine2_line2, e.read1 htail1, e.read2 (e.width_eq tail2) htail2]
  rfl

/-- Whatever ends the lines, such as a carriage return. -/
theorem twoline2rv_reads (e : ElementSet) {tail1 tail2 : List Char} (htail1 : Ends tail1)
    (htail2 : Ends tail2) (satrec : TwoLineRecord K) :
    ∃ r, twoline2rv (e.line1 ++ tail1) (e.line2 ++ tail2) satrec = some r ∧ Reads e r := by
  refine ⟨e.record, twoline2rv_eq e htail1 htail2 satrec, ?_⟩
  have hepoch := instant_days2mdhms (epochYear e.epochyr.value) (e.epochdays.value : K)
  constructor
  case epoch => exact (congrArg instant (findEpoch_epoch _)).trans hepoch
  all_goals rfl

/-- The satellite of the example scenario. -/
def spaceVeins1 : ElementSet where
  satnum := ⟨['5', '1', '4', '7', '2'], rfl, fun c hc =>
    not_isSpace_of_isDigit (List.all_eq_true.mp (by rfl) c hc)⟩
  classification := ⟨'U', by decide⟩
  designator := {
    first := ⟨'2', by decide⟩
    middle := [⟨'2', by decide⟩, ⟨'0', by decide⟩, ⟨'1', by decide⟩, ⟨'0', by decide⟩,
      ⟨'S', by decide⟩, ⟨' ', by decide⟩]
    last := ⟨' ', by decide⟩
    length_eq := rfl }
  epochyr := ⟨['2', '2'], rfl, List.all_eq_true.mp rfl⟩
  epochdays := ⟨⟨0, ['0', '5', '3'], rfl, List.cons_ne_nil _ _, List.all_eq_true.mp rfl⟩, zeros 8⟩
  ndotSign := .blank
  ndot := zeros 8
  nddot := ⟨.blank, (zeros 5).unfilled, .plus, (zeros 1).unfilled⟩
  bstar := ⟨.blank, zeros 5, .minus, zeros 1⟩
  ephtype := (zeros 1).unfilled
  elnum := ⟨1, ['9', '9', '9'], rfl, List.cons_ne_nil _ _, List.all_eq_true.mp rfl⟩
  checksum1 := Digits.unfilled ⟨['5'], rfl, List.all_eq_true.mp rfl⟩
  inclo := ⟨⟨1, ['7', '0'], rfl, List.cons_ne_nil _ _, List.all_eq_true.mp rfl⟩, zeros 4⟩
  nodeo := ⟨⟨0, ['0', '0', '0'], rfl, List.cons_ne_nil _ _, List.all_eq_true.mp rfl⟩, zeros 4⟩
  ecco := (zeros 7).unfilled
  argpo := ⟨⟨1, ['0', '0'], rfl, List.cons_ne_nil _ _, List.all_eq_true.mp rfl⟩, zeros 4⟩
  mo := ⟨⟨0, ['0', '0', '0'], rfl, List.cons_ne_nil _ _, List.all_eq_true.mp rfl⟩, zeros 4⟩
  no_kozai := ⟨⟨0, ['1', '5'], rfl, List.cons_ne_nil _ _, List.all_eq_true.mp rfl⟩,
    ⟨['7', '3', '2', '0', '9', '3', '6', '1'], rfl, List.all_eq_true.mp rfl⟩⟩
  revnum := ⟨2, ['2', '4', '0'], rfl, List.cons_ne_nil _ _, List.all_eq_true.mp rfl⟩
  checksum2 := ⟨['1'], rfl, List.all_eq_true.mp rfl⟩

/-- Two lines that end with a carriage return. -/
theorem twoline2rv_reads_spaceVeins1 :
    (String.ofList spaceVeins1.line1 =
        "1 51472U 22010S   22053.00000000  .00000000  00000+0  00000-0 0  9995" ∧
      String.ofList spaceVeins1.line2 =
        "2 51472  70.0000 000.0000 0000000  00.0000 000.0000 15.73209361  2401") ∧
      ∃ r : TwoLineRecord ℚ, twoline2rv (spaceVeins1.line1 ++ ['\r'])
        (spaceVeins1.line2 ++ ['\r']) noRecord = some r ∧ Reads spaceVeins1 r :=
  ⟨⟨rfl, rfl⟩, twoline2rv_reads spaceVeins1 (ends_cons (by decide) _) (ends_cons (by decide) _) _⟩

section Mobility
variable {Elements : Type}

/-- The record of the mobility after the lines are read. -/
def withEpoch (m : SGP4Mobility K Elements) (r : TwoLineRecord K) : SGP4Mobility K Elements :=
  { m with satrec := { m.satrec with epochyr := r.epochyr, epochdays := r.epochdays } }

omit [IsStrictOrderedRing K] in
theorem initial_tle_epoch (m : SGP4Mobility K Elements) (wall : DateTime K) :
    ((initial m wall).tle_epoch_jd, (initial m wall).tle_epoch_frac) =
      jday_SGP4 (days2mdhms_SGP4 (epochYear m.satrec.epochyr) m.satrec.epochdays) := by
  rw [← days2mdhms_epochYear]
  rfl

omit [IsStrictOrderedRing K] in
theorem initial_findEpoch (r : TwoLineRecord K) (m : SGP4Mobility K Elements)
    (wall : DateTime K) :
    ((initial (withEpoch m (findEpoch r)) wall).tle_epoch_jd,
        (initial (withEpoch m (findEpoch r)) wall).tle_epoch_frac) =
      ((findEpoch r).jdsatepoch, (findEpoch r).jdsatepochF) := by
  rw [initial_tle_epoch, findEpoch_epoch]
  rfl

omit [IsStrictOrderedRing K] in
/-- The mobility computes the epoch again, from a year of two digits, and finds the same one. -/
theorem mobility_epoch (longstr1 longstr2 : List Char) (satrec : TwoLineRecord K)
    (m : SGP4Mobility K Elements) (wall : DateTime K) :
    (twoline2rv longstr1 longstr2 satrec).map (fun r =>
        ((initial (withEpoch m r) wall).tle_epoch_jd,
          (initial (withEpoch m r) wall).tle_epoch_frac)) =
      (twoline2rv longstr1 longstr2 satrec).map fun r => (r.jdsatepoch, r.jdsatepochF) := by
  rw [twoline2rv]
  split_ifs
  · rfl
  · exact congrArg some (initial_findEpoch _ m wall)

end Mobility

end SpaceVeins.SGP4Funcs

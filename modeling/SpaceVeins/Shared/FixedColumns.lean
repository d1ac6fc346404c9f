import SpaceVeins.Shared.Scanf
import Mathlib.Data.List.GetD
import Mathlib.Tactic.NormNum.OfScientific

/-!
# Fields in fixed columns

A line with fields in fixed columns is edited in place, where a blank counts for a
zero or a decimal point is left out, before `sscanf` reads it. The fields carry their
widths, so a line of them has every column in its place.
-/

set_option autoImplicit false

namespace FixedColumns
open CxxString Scanf

/-- A blank becomes the character `d`. -/
def fillBlank (d c : Char) : Char := if c = ' ' then d else c

/-- Every blank from column `first` to column `last`. -/
def fill (first last : Nat) (d : Char) (line : List Char) : List Char :=
  (List.range' first (last + 1 - first)).foldl (fun line j => line.modify j (fillBlank d)) line

/-- The decimal point in column `j`; a sign that stands there moves to the left. -/
def setPoint (j : Nat) (line : List Char) : List Char :=
  let c := line.getD j '\x00'
  (if c ≠ ' ' then line.set (j - 1) c else line).set j '.'

inductive Sign where
  | blank
  | plus
  | minus
deriving DecidableEq, Repr

namespace Sign

def char : Sign → Char
  | blank => ' '
  | plus => '+'
  | minus => '-'

def negative (sign : Sign) : Bool := sign == minus

theorem negative_blank : blank.negative = false := rfl

theorem endsFloat (sign : Sign) (s : List Char) : EndsFloat (sign.char :: s) := by
  intro c hc
  simp only [List.head?_cons, Option.some.injEq] at hc
  subst hc
  cases sign <;> decide

theorem ends (sign : Sign) (s : List Char) : Ends (sign.char :: s) :=
  fun c hc => (sign.endsFloat s c hc).1

end Sign

/-- A field of digits. -/
structure Digits (width : Nat) where
  chars : List Char
  length_eq : chars.length = width
  isDigit : ∀ c ∈ chars, c.isDigit = true

theorem Digits.ne_nil {width : Nat} (d : Digits width) (h : 0 < width) : d.chars ≠ [] := by
  rintro hnil
  have hlength := d.length_eq
  rw [hnil, List.length_nil] at hlength
  omega

/-- A field of digits, in which a blank counts for a zero. -/
structure BlankDigits (width : Nat) where
  chars : List Char
  length_eq : chars.length = width
  isDigit : ∀ c ∈ chars, c = ' ' ∨ c.isDigit = true

def zeros (width : Nat) : Digits width where
  chars := List.replicate width '0'
  length_eq := List.length_replicate
  isDigit := by
    intro c hc
    rw [List.eq_of_mem_replicate hc]
    decide

def Digits.unfilled {width : Nat} (d : Digits width) : BlankDigits width :=
  ⟨d.chars, d.length_eq, fun c hc => .inr (d.isDigit c hc)⟩

/-- A number behind blanks. -/
structure Numeral (width : Nat) where
  blanks : Nat
  digits : List Char
  width_eq : blanks + digits.length = width
  ne_nil : digits ≠ []
  isDigit : ∀ c ∈ digits, c.isDigit = true

def BlankDigits.filled {width : Nat} (f : BlankDigits width) : Digits width where
  chars := f.chars.map (fillBlank '0')
  length_eq := by rw [List.length_map, f.length_eq]
  isDigit := by
    intro c hc
    obtain ⟨d, hd, rfl⟩ := List.mem_map.mp hc
    rcases f.isDigit d hd with rfl | hdigit
    · decide
    · have hne : d ≠ ' ' := by
        rintro rfl
        exact absurd hdigit (by decide)
      rw [fillBlank, if_neg hne]
      exact hdigit

namespace Numeral
variable {width : Nat} (n : Numeral width)

def text : List Char := List.replicate n.blanks ' ' ++ n.digits

def value : Nat := numeral 10 n.digits

theorem length_text : n.text.length = width := by
  rw [text, List.length_append, List.length_replicate, n.width_eq]

theorem digits_length_le : n.digits.length ≤ width := by
  have h := n.width_eq
  omega

end Numeral

/-- A number with a decimal point. -/
structure Fixed (whole fraction : Nat) where
  whole : Numeral whole
  fraction : Digits fraction

/-- A sign and the digits after an implied decimal point, times a power of ten. -/
structure Scientific (width : Nat) where
  sign : Sign
  mantissa : Digits width
  exponentSign : Sign
  exponent : Digits 1

structure BlankScientific (width : Nat) where
  sign : Sign
  mantissa : BlankDigits width
  exponentSign : Sign
  exponent : BlankDigits 1

def BlankScientific.filled {width : Nat} (x : BlankScientific width) : Scientific width :=
  ⟨x.sign, x.mantissa.filled, x.exponentSign, x.exponent.filled⟩

section Values
variable {K : Type} [Field K]

def Digits.value {width : Nat} (d : Digits width) : Nat := numeral 10 d.chars

/-- The digits after a decimal point. -/
def Digits.fraction {width : Nat} (d : Digits width) : K := d.value / (10.0 : K) ^ width

def Fixed.text {w f : Nat} (x : Fixed w f) : List Char := x.whole.text ++ '.' :: x.fraction.chars

theorem Fixed.length_text {w f : Nat} (x : Fixed w f) : x.text.length = w + 1 + f := by
  rw [text, List.length_append, List.length_cons, x.whole.length_text, x.fraction.length_eq]
  omega

def Fixed.value {w f : Nat} (x : Fixed w f) : K := x.whole.value + x.fraction.fraction

def Sign.apply {R : Type} [Neg R] (sign : Sign) (x : R) : R := if sign.negative then -x else x

def Scientific.value {width : Nat} (x : Scientific width) : K :=
  x.sign.apply x.mantissa.fraction * (10.0 : K) ^ x.exponentSign.apply (x.exponent.value : Int)

theorem numeral_append (whole fraction : List Char) :
    numeral 10 (whole ++ fraction) =
      10 ^ fraction.length * numeral 10 whole + numeral 10 fraction := by
  rw [numeral, List.foldl_append, foldl_numeral]
  rfl

theorem decimal_sign (sign : Sign) {width : Nat} (d : Digits width) :
    decimal sign.negative [] d.chars 0 = sign.apply (d.fraction : K) := by
  rw [decimal, List.nil_append, d.length_eq, zpow_zero, mul_one, Sign.apply, Digits.fraction,
    signed, Digits.value]
  cases sign.negative
  · simp
  · simp [neg_div]

theorem decimal_fixed [CharZero K] {w f : Nat} (x : Fixed w f) :
    decimal false x.whole.digits x.fraction.chars 0 = (x.value : K) := by
  have hten : (10.0 : K) = 10 := by norm_num
  have hpow : (10 : K) ^ f ≠ 0 := pow_ne_zero _ (by norm_num)
  rw [decimal, signed, if_neg Bool.false_ne_true, numeral_append, x.fraction.length_eq, zpow_zero,
    mul_one, Fixed.value, Digits.fraction, Digits.value, Numeral.value, hten]
  push_cast
  rw [add_div, mul_div_cancel_left₀ _ hpow]

end Values

section Reading
variable {rest : List Char} {width : Nat}

/-- A field of digits that fills the width or that the next character ends. -/
theorem scanInt_field {n : Nat} (d : Digits n) (hpos : 0 < n) (hwidth : n ≤ width)
    (hrest : n = width ∨ Ends rest) :
    scanInt width (d.chars ++ rest) = some ((d.value : Int), rest) := by
  have hlength := d.length_eq
  exact scanInt_digits d.isDigit (d.ne_nil hpos) (by omega) (hrest.imp_left (by omega))

/-- A digit behind a number is read as its last digit. -/
theorem scanInt_numeral_digit {n : Nat} (x : Numeral n) (d : Digits 1) (hwidth : n + 1 ≤ width)
    (hends : Ends rest) :
    scanInt width (x.text ++ (d.chars ++ rest)) =
      some (10 * (x.value : Int) + d.value, rest) := by
  have hlength := d.length_eq
  have hle := x.digits_length_le
  have h := @scanInt_digits (x.digits ++ d.chars) rest width
    (fun c hc => (List.mem_append.mp hc).elim (x.isDigit c) (d.isDigit c))
    (List.append_ne_nil_of_left_ne_nil x.ne_nil _) (by rw [List.length_append]; omega) (.inr hends)
  rw [numeral_append, hlength, pow_one, List.append_assoc] at h
  rw [Numeral.text, List.append_assoc, scanInt_blanks, h, Numeral.value, Digits.value]
  push_cast
  rfl

theorem scanInt_sign {n : Nat} (sign : Sign) (d : Digits n) (hpos : 0 < n) (hwidth : n + 1 ≤ width)
    (hends : Ends rest) :
    scanInt width (sign.char :: (d.chars ++ rest)) =
      some (sign.apply (d.value : Int), rest) := by
  have hlength := d.length_eq
  have hne := d.ne_nil hpos
  cases sign
  · have hblank := scanInt_blanks width 1 (d.chars ++ rest)
    rw [List.replicate_one, List.singleton_append] at hblank
    exact hblank.trans (scanInt_digits d.isDigit hne (by omega) (.inr hends))
  · exact scanInt_signed d.isDigit false hne (by omega) (.inr hends)
  · exact scanInt_signed d.isDigit true hne (by omega) (.inr hends)

variable {K : Type} [Field K]

/-- A number that fills the width or that the next character ends. -/
theorem scanFloat_fixed [CharZero K] {w f : Nat} (x : Fixed w f) (hpos : 0 < f)
    (hwidth : x.whole.digits.length + 1 + f ≤ width)
    (hrest : x.whole.digits.length + 1 + f = width ∨ EndsFloat rest) :
    scanFloat (K := K) width (x.text ++ rest) = some (x.value, rest) := by
  have hfraction := x.fraction.length_eq
  rw [Fixed.text, Numeral.text, List.append_assoc, List.append_assoc, scanFloat_blanks,
    List.cons_append, ← decimal_fixed]
  exact scanFloat_point x.whole.isDigit x.fraction.isDigit (x.fraction.ne_nil hpos)
    (by omega) (hrest.imp_left (by omega))

theorem scanFloat_fraction {n : Nat} (d : Digits n) (hpos : 0 < n) (hwidth : n + 1 ≤ width)
    (hends : EndsFloat rest) :
    scanFloat (K := K) width ('.' :: (d.chars ++ rest)) = some (d.fraction, rest) := by
  have hlength := d.length_eq
  have hroom : ([] : List Char).length + 1 + d.chars.length ≤ width := by
    simp only [List.length_nil]
    omega
  have h := scanFloat_point (K := K) (List.forall_mem_nil _) d.isDigit (d.ne_nil hpos) hroom
    (.inr hends)
  exact h.trans (by rw [← Sign.negative_blank, decimal_sign]; rfl)

theorem scanFloat_sign {n : Nat} (sign : Sign) (d : Digits n) (hpos : 0 < n)
    (hwidth : n + 2 ≤ width) (hends : EndsFloat rest) :
    scanFloat (K := K) width (sign.char :: '.' :: (d.chars ++ rest)) =
      some (sign.apply d.fraction, rest) := by
  have hlength := d.length_eq
  have hroom : ([] : List Char).length + 1 + d.chars.length + 1 ≤ width := by
    simp only [List.length_nil]
    omega
  cases sign
  · have hblank := scanFloat_blanks (K := K) width 1 ('.' :: (d.chars ++ rest))
    rw [List.replicate_one, List.singleton_append] at hblank
    exact hblank.trans (scanFloat_fraction d hpos (by omega) hends)
  · rw [← decimal_sign]
    exact scanFloat_signed (List.forall_mem_nil _) d.isDigit false (d.ne_nil hpos) hroom
      (.inr hends)
  · rw [← decimal_sign]
    exact scanFloat_signed (List.forall_mem_nil _) d.isDigit true (d.ne_nil hpos) hroom
      (.inr hends)

end Reading

section Editing
variable {block : List Char} {first last j : Nat} (d : Char) (line : List Char)

theorem foldl_modify_append (f : Char → Char) (block line : List Char) (first n : Nat) :
    (List.range' (block.length + first) n).foldl (fun line j => line.modify j f) (block ++ line) =
      block ++ (List.range' first n).foldl (fun line j => line.modify j f) line := by
  induction n generalizing first line with
  | zero => rfl
  | succ n ih =>
    have hmodify : (block ++ line).modify (block.length + first) f =
        block ++ line.modify first f := List.modifyTailIdx_add _ _ _ _
    rw [List.range'_succ, List.range'_succ, List.foldl_cons, List.foldl_cons, hmodify,
      Nat.add_assoc, ih]

theorem fill_append (hfirst : block.length ≤ first) (hlast : first ≤ last) :
    fill first last d (block ++ line) =
      block ++ fill (first - block.length) (last - block.length) d line := by
  have h := foldl_modify_append (fillBlank d) block line (first - block.length) (last + 1 - first)
  rw [Nat.add_sub_cancel' hfirst] at h
  rw [fill, fill, h]
  congr 3
  omega

theorem fill_cons (c : Char) (hfirst : 0 < first) (hlast : first ≤ last) :
    fill first last d (c :: line) = c :: fill (first - 1) (last - 1) d line :=
  @fill_append [c] first last d line hfirst hlast

theorem fill_head (c : Char) : fill 0 0 d (c :: line) = fillBlank d c :: line := rfl

/-- A field that is filled from its first to its last column. -/
theorem fill_field (hlength : block.length = last + 1) :
    fill 0 last d (block ++ line) = block.map (fillBlank d) ++ line := by
  rw [fill, Nat.sub_zero, ← hlength]
  clear hlength
  induction block with
  | nil => rfl
  | cons c block ih =>
    have h := foldl_modify_append (fillBlank d) [fillBlank d c] (block ++ line) 0 block.length
    rw [ih] at h
    rw [List.length_cons, List.range'_succ, List.foldl_cons]
    exact h

theorem setPoint_append (hj : block.length < j) :
    setPoint j (block ++ line) = block ++ setPoint (j - block.length) line := by
  have hget : (block ++ line).getD j '\x00' = line.getD (j - block.length) '\x00' :=
    List.getD_append_right _ _ _ _ hj.le
  have hset : (block ++ line).set (j - 1) (line.getD (j - block.length) '\x00') =
      block ++ line.set (j - block.length - 1) (line.getD (j - block.length) '\x00') := by
    rw [List.set_append_right _ _ (by omega)]
    congr 2
    omega
  simp only [setPoint, hget, hset]
  split
  · rw [List.set_append_right _ _ hj.le]
  · rw [List.set_append_right _ _ hj.le]

theorem setPoint_cons (c : Char) (hj : 1 < j) :
    setPoint j (c :: line) = c :: setPoint (j - 1) line :=
  @setPoint_append [c] j line hj

/-- A sign moves in front of its point. -/
theorem setPoint_sign (sign : Sign) :
    setPoint 1 (' ' :: sign.char :: line) = sign.char :: '.' :: line := by
  cases sign <;> rfl

end Editing

end FixedColumns

import Mathlib.Algebra.Order.Floor.Ring
import Mathlib.Data.Int.Log
import Mathlib.Data.Nat.Digits.Lemmas
import Mathlib.Tactic.FieldSimp
import Mathlib.Tactic.Linarith
import SpaceVeins.Shared.CxxString
import SpaceVeins.Shared.FieldNumerals

/-!
# Floating-point numbers as text

A stream with default flags prints a number with six significant digits, in
fixed or in scientific notation. The number that is read back is the printed one
exactly if its significant digits are at most six.
-/

set_option autoImplicit false

namespace DefaultFloat
open CxxString

variable {K : Type} [Field K]

section
variable [LinearOrder K] [FloorRing K]

/-- To the nearest integer, and to the even one of two. -/
def roundHalfEven (x : K) : Int :=
  if x - ⌊x⌋ < 1 / 2 then ⌊x⌋
  else if 1 / 2 < x - ⌊x⌋ then ⌊x⌋ + 1
  else if ⌊x⌋ % 2 = 0 then ⌊x⌋ else ⌊x⌋ + 1

/-- The six digits and the exponent of the first one. -/
def scientific (a : K) : Nat × Int :=
  let m := roundHalfEven (a / 10 ^ (Int.log 10 a - 5))
  if m = 1000000 then (100000, Int.log 10 a + 1) else (m.toNat, Int.log 10 a)

/-- The digits of a number without the zeros at its end. -/
def significant (m : Nat) : List Char :=
  (((Nat.digits 10 m).dropWhile fun d => d == 0).reverse).map Nat.digitChar

def pointed (fraction : List Char) : List Char :=
  if fraction = [] then [] else '.' :: fraction

def exponentText (e : Int) : List Char :=
  let digits := Nat.toDigits 10 e.natAbs
  'e' :: (if e < 0 then '-' else '+') :: (List.replicate (2 - digits.length) '0' ++ digits)

/-- `%f` with as many digits as there are. -/
def fixedText (digits : List Char) (e : Int) : List Char :=
  if 0 ≤ e then
    let n := e.toNat + 1
    digits.take n ++ List.replicate (n - digits.length) '0' ++ pointed (digits.drop n)
  else '0' :: pointed (List.replicate (-e - 1).toNat '0' ++ digits)

/-- `%e` with as many digits as there are. -/
def scientificText (digits : List Char) (e : Int) : List Char :=
  digits.take 1 ++ pointed (digits.drop 1) ++ exponentText e

def positiveText (a : K) : List Char :=
  let (m, e) := scientific a
  if -4 ≤ e ∧ e < 6 then fixedText (significant m) e else scientificText (significant m) e

/-- `stream << x`, the conversion `%g`. -/
def text (x : K) : List Char :=
  if x = 0 then ['0'] else if x < 0 then '-' :: positiveText (-x) else positiveText x

end

def readExponent (s : List Char) : Int :=
  if s.head? = some 'e' then
    let (negative, s) := readSign s.tail
    let n := numeral 10 (s.takeWhile Char.isDigit)
    if negative then -n else n
  else 0

def readFraction (s : List Char) : List Char :=
  if s.head? = some '.' then s.tail.takeWhile Char.isDigit else []

/-- The value of a decimal number. -/
def readDecimal (K : Type) [Field K] (s : List Char) : K :=
  let (negative, s) := readSign s
  let whole := s.takeWhile Char.isDigit
  let rest := s.dropWhile Char.isDigit
  let fraction := readFraction rest
  let rest := if rest.head? = some '.' then rest.tail.dropWhile Char.isDigit else rest
  let value := (numeral 10 (whole ++ fraction) : K) * 10 ^ (readExponent rest - fraction.length)
  if negative then -value else value

/-- A number whose significant digits are at most six. -/
def SixDigits (x : K) : Prop := ∃ k e : Int, |k| < 1000000 ∧ x = k * 10 ^ e

/-! Digits and the numbers they stand for. -/

theorem numeral_append (base : Nat) (s t : List Char) :
    numeral base (s ++ t) = base ^ t.length * numeral base s + numeral base t := by
  rw [numeral, List.foldl_append, foldl_numeral]
  rfl

theorem numeral_zeros (n : Nat) : numeral 10 (List.replicate n '0') = 0 := by
  induction n with
  | zero => rfl
  | succ n ih =>
    rw [List.replicate_succ, numeral_cons, ih]
    simp [digitValue]

theorem digitValue_digitChar {d : Nat} (h : d < 10) : digitValue (Nat.digitChar d) = d := by
  interval_cases d <;> rfl

theorem isDigit_digitChar {d : Nat} (h : d < 10) : (Nat.digitChar d).isDigit = true := by
  interval_cases d <;> rfl

theorem numeral_reverse_digits {l : List Nat} (h : ∀ d ∈ l, d < 10) :
    numeral 10 (l.reverse.map Nat.digitChar) = Nat.ofDigits 10 l := by
  induction l with
  | nil => rfl
  | cons d l ih =>
    rw [List.reverse_cons, List.map_append, numeral_append,
      ih fun c hc => h c (List.mem_cons_of_mem d hc), Nat.ofDigits_cons]
    simp [numeral, digitValue_digitChar (h d List.mem_cons_self)]
    omega

theorem ofDigits_dropWhile_zero (l : List Nat) :
    Nat.ofDigits 10 l = 10 ^ (l.length - (l.dropWhile fun d => d == 0).length) *
      Nat.ofDigits 10 (l.dropWhile fun d => d == 0) := by
  induction l with
  | nil => simp
  | cons d l ih =>
    by_cases hd : d = 0
    · subst hd
      rw [List.dropWhile_cons_of_pos (by decide), Nat.ofDigits_cons, ih, List.length_cons]
      have hle := List.length_dropWhile_le (fun d => d == 0) l
      rw [Nat.succ_sub hle, Nat.pow_succ]
      simp
      ring
    · rw [List.dropWhile_cons_of_neg (by simpa using hd)]
      simp

theorem significant_isDigit {m : Nat} {c : Char} (h : c ∈ significant m) : c.isDigit = true := by
  obtain ⟨d, hd, rfl⟩ := List.mem_map.mp h
  have hd := (List.dropWhile_sublist _).subset (List.mem_reverse.mp hd)
  exact isDigit_digitChar (Nat.digits_lt_base (by decide) hd)

theorem numeral_significant {m : Nat} (hlow : 100000 ≤ m) (hhigh : m < 1000000) :
    (significant m).length ≤ 6 ∧
      m = 10 ^ (6 - (significant m).length) * numeral 10 (significant m) := by
  have hlength : (Nat.digits 10 m).length = 6 := by
    apply le_antisymm
    · exact (Nat.digits_length_le_iff (by decide) m).mpr (by omega)
    · exact (Nat.lt_digits_length_iff (by decide) m).mpr (by omega)
  have hle := List.length_dropWhile_le (fun d => d == 0) (Nat.digits 10 m)
  have hnumeral : numeral 10 (significant m) =
      Nat.ofDigits 10 ((Nat.digits 10 m).dropWhile fun d => d == 0) :=
    numeral_reverse_digits fun d hd =>
      Nat.digits_lt_base (by decide) ((List.dropWhile_sublist _).subset hd)
  have hsignificant : (significant m).length =
      ((Nat.digits 10 m).dropWhile fun d => d == 0).length := by
    simp [significant]
  rw [hnumeral, hsignificant]
  refine ⟨by omega, ?_⟩
  have h := ofDigits_dropWhile_zero (Nat.digits 10 m)
  rwa [Nat.ofDigits_digits, hlength] at h

theorem significant_ne_nil {m : Nat} (hlow : 100000 ≤ m) (hhigh : m < 1000000) :
    significant m ≠ [] := by
  intro hnil
  have h := (numeral_significant hlow hhigh).2
  rw [hnil] at h
  simp [numeral] at h
  omega

/-! Reading. -/

/-- Text that does not go on with digits. -/
def EndsNumber (tail : List Char) : Prop :=
  ∀ c, tail.head? = some c → c.isDigit = false ∧ c ≠ '.'

theorem endsNumber_nil : EndsNumber [] := by
  intro c h
  cases h

theorem endsNumber_exponentText (e : Int) : EndsNumber (exponentText e) := by
  intro c h
  cases h
  exact ⟨rfl, by decide⟩

theorem takeWhile_digits {s tail : List Char} (hs : ∀ c ∈ s, c.isDigit = true)
    (htail : ∀ c, tail.head? = some c → c.isDigit = false) :
    (s ++ tail).takeWhile Char.isDigit = s ∧ (s ++ tail).dropWhile Char.isDigit = tail := by
  rw [List.takeWhile_append_of_pos hs, List.dropWhile_append_of_pos hs]
  cases tail with
  | nil => simp
  | cons c tail =>
    have hc := htail c rfl
    rw [List.takeWhile_cons_of_neg (by simp [hc]), List.dropWhile_cons_of_neg (by simp [hc])]
    simp

theorem readSign_digit {c : Char} (h : c.isDigit = true) (s : List Char) :
    readSign (c :: s) = (false, c :: s) := by
  have hminus : c ≠ '-' := by
    rintro rfl
    exact absurd h (by decide)
  have hplus : c ≠ '+' := by
    rintro rfl
    exact absurd h (by decide)
  simp [readSign, hminus, hplus]

theorem readFraction_pointed {fraction tail : List Char}
    (hfraction : ∀ c ∈ fraction, c.isDigit = true) (htail : EndsNumber tail) :
    readFraction (pointed fraction ++ tail) = fraction ∧
    (if (pointed fraction ++ tail).head? = some '.'
      then (pointed fraction ++ tail).tail.dropWhile Char.isDigit
      else pointed fraction ++ tail) = tail := by
  by_cases hnil : fraction = []
  · subst hnil
    have hhead : tail.head? ≠ some '.' := fun h => (htail _ h).2 rfl
    simp [pointed, readFraction, hhead]
  · have h := takeWhile_digits hfraction fun c hc => (htail c hc).1
    simp [pointed, hnil, readFraction, h.1, h.2]

theorem readDecimal_number {c : Char} {whole fraction tail : List Char}
    (hwhole : ∀ d ∈ c :: whole, d.isDigit = true) (hfraction : ∀ d ∈ fraction, d.isDigit = true)
    (htail : EndsNumber tail) :
    readDecimal K (c :: whole ++ pointed fraction ++ tail) =
      numeral 10 (c :: whole ++ fraction) * 10 ^ (readExponent tail - fraction.length) := by
  have hnext : ∀ d, (pointed fraction ++ tail).head? = some d → d.isDigit = false := by
    intro d hd
    by_cases hnil : fraction = []
    · subst hnil
      exact (htail d hd).1
    · rw [pointed, if_neg hnil] at hd
      cases hd
      rfl
  have hsign := readSign_digit (hwhole c List.mem_cons_self) (whole ++ (pointed fraction ++ tail))
  have hdigits := takeWhile_digits hwhole hnext
  have hpoint := readFraction_pointed hfraction htail
  rw [List.append_assoc]
  unfold readDecimal
  rw [List.cons_append, hsign, ← List.cons_append]
  simp only [hdigits.1, hdigits.2, hpoint.1, hpoint.2, Bool.false_eq_true, if_false]

theorem readDecimal_minus {c : Char} (hc : c.isDigit = true) (s : List Char) :
    readDecimal K ('-' :: c :: s) = -readDecimal K (c :: s) := by
  have hsign := readSign_digit hc s
  have hminus : readSign ('-' :: c :: s) = (true, c :: s) := rfl
  unfold readDecimal
  rw [hsign, hminus]
  simp only [Bool.false_eq_true, if_false, if_true]

theorem numeral_toDigits (n : Nat) : numeral 10 (Nat.toDigits 10 n) = n := by
  induction n using Nat.strong_induction_on with
  | _ n ih =>
    rcases Nat.lt_or_ge n 10 with hlt | hge
    · rw [Nat.toDigits_of_lt_base hlt]
      simp [numeral, digitValue_digitChar hlt]
    · rw [Nat.toDigits_of_base_le (by decide) hge, numeral_append, ih (n / 10) (by omega)]
      simp [numeral, digitValue_digitChar (Nat.mod_lt n (by decide : 0 < 10))]
      omega

theorem readExponent_exponentText (e : Int) : readExponent (exponentText e) = e := by
  have hdigits : ∀ c ∈ List.replicate (2 - (Nat.toDigits 10 e.natAbs).length) '0' ++
      Nat.toDigits 10 e.natAbs, c.isDigit = true := by
    intro c hc
    rcases List.mem_append.mp hc with hzero | hdigit
    · rw [List.eq_of_mem_replicate hzero]
      rfl
    · exact Nat.isDigit_of_mem_toDigits (by decide) (by decide) hdigit
  have htake := (@takeWhile_digits _ [] hdigits (by simp)).1
  have hvalue : numeral 10 (List.replicate (2 - (Nat.toDigits 10 e.natAbs).length) '0' ++
      Nat.toDigits 10 e.natAbs) = e.natAbs := by
    rw [numeral_append, numeral_zeros, numeral_toDigits]
    simp
  rw [List.append_nil] at htake
  by_cases hneg : e < 0
  · simp [readExponent, exponentText, hneg, readSign, htake, hvalue, abs_of_neg hneg]
  · simp [readExponent, exponentText, hneg, readSign, htake, hvalue, abs_of_nonneg (not_lt.mp hneg)]

/-! What is read back. -/

theorem readDecimal_pointed {whole fraction : List Char} (hne : whole ≠ [])
    (hwhole : ∀ d ∈ whole, d.isDigit = true) (hfraction : ∀ d ∈ fraction, d.isDigit = true) :
    readDecimal K (whole ++ pointed fraction) =
      numeral 10 (whole ++ fraction) * 10 ^ (-(fraction.length : Int)) := by
  cases whole with
  | nil => exact absurd rfl hne
  | cons c whole =>
    have h := readDecimal_number (K := K) hwhole hfraction endsNumber_nil
    have hexponent : readExponent [] = 0 := rfl
    rwa [List.append_nil, hexponent, zero_sub] at h

theorem readDecimal_fixedText [CharZero K] {digits : List Char} (hne : digits ≠ [])
    (hdigits : ∀ c ∈ digits, c.isDigit = true) (e : Int) :
    readDecimal K (fixedText digits e) = numeral 10 digits * 10 ^ (e + 1 - digits.length) := by
  have hpos : 0 < digits.length := List.length_pos_of_ne_nil hne
  by_cases he : 0 ≤ e
  · obtain ⟨n, rfl⟩ := Int.eq_ofNat_of_zero_le he
    have hwhole : digits.take (n + 1) ++ List.replicate (n + 1 - digits.length) '0' ≠ [] := by
      intro hnil
      have htake := (List.append_eq_nil_iff.mp hnil).1
      rw [List.take_eq_nil_iff] at htake
      rcases htake with hzero | hnil
      · omega
      · exact hne hnil
    have hwholeDigits : ∀ d ∈ digits.take (n + 1) ++ List.replicate (n + 1 - digits.length) '0',
        d.isDigit = true := by
      intro d hd
      rcases List.mem_append.mp hd with hmem | hzero
      · exact hdigits d (List.mem_of_mem_take hmem)
      · rw [List.eq_of_mem_replicate hzero]
        rfl
    have h := readDecimal_pointed (K := K) hwhole hwholeDigits
      fun d (hd : d ∈ digits.drop (n + 1)) => hdigits d (List.mem_of_mem_drop hd)
    rw [fixedText, if_pos he]
    simp only [Int.toNat_natCast]
    rw [h]
    rcases Nat.le_total digits.length (n + 1) with hle | hle
    · -- all digits are in front of the point, and zeros behind them
      rw [List.take_of_length_le hle, List.drop_of_length_le hle, List.append_nil, numeral_append,
        numeral_zeros, List.length_replicate]
      have hexponent : (n : Int) + 1 - digits.length = ((n + 1 - digits.length : Nat) : Int) := by
        omega
      rw [hexponent, zpow_natCast]
      push_cast
      simp
      ring
    · rw [Nat.sub_eq_zero_of_le hle, List.replicate_zero, List.append_nil, List.take_append_drop,
        List.length_drop]
      congr 2
      omega
  · have hzeros : ∀ d ∈ List.replicate (-e - 1).toNat '0' ++ digits, d.isDigit = true := by
      intro d hd
      rcases List.mem_append.mp hd with hzero | hmem
      · rw [List.eq_of_mem_replicate hzero]
        rfl
      · exact hdigits d hmem
    have hzero : ∀ d ∈ ['0'], d.isDigit = true := by simp
    have h := readDecimal_pointed (K := K) (List.cons_ne_nil _ _) hzero hzeros
    rw [fixedText, if_neg he, ← List.singleton_append, h, numeral_append, numeral_append,
      numeral_zeros, List.length_append, List.length_replicate]
    have hexponent : -(((-e - 1).toNat + digits.length : Nat) : Int) = e + 1 - digits.length := by
      omega
    rw [hexponent]
    simp [numeral, digitValue]

theorem readDecimal_scientificText {digits : List Char} (hne : digits ≠ [])
    (hdigits : ∀ c ∈ digits, c.isDigit = true) (e : Int) :
    readDecimal K (scientificText digits e) =
      numeral 10 digits * 10 ^ (e + 1 - digits.length) := by
  cases digits with
  | nil => exact absurd rfl hne
  | cons c digits =>
    have hc : ∀ d ∈ [c], d.isDigit = true := by
      intro d hd
      rw [List.mem_singleton.mp hd]
      exact hdigits c List.mem_cons_self
    have h := readDecimal_number (K := K) hc (fun d hd => hdigits d (List.mem_cons_of_mem c hd))
      (endsNumber_exponentText e)
    rw [readExponent_exponentText] at h
    rw [scientificText, List.take_one, List.drop_one, List.length_cons]
    simp only [List.head?_cons, Option.toList_some, List.tail_cons]
    rw [h, List.singleton_append]
    push_cast
    ring_nf

theorem sixDigits_neg {x : K} : SixDigits (-x) ↔ SixDigits x := by
  have hneg : ∀ y : K, SixDigits y → SixDigits (-y) := by
    rintro y ⟨k, e, hk, rfl⟩
    refine ⟨-k, e, by rwa [abs_neg], ?_⟩
    push_cast
    ring
  constructor
  · intro h
    rw [← neg_neg x]
    exact hneg _ h
  · exact hneg x

/-! No text of a number has a blank in it. -/

theorem blank_not_mem_digits {s : List Char} (hs : ∀ c ∈ s, c.isDigit = true) : ' ' ∉ s := by
  intro hmem
  exact absurd (hs _ hmem) (by decide)

theorem blank_not_mem_pointed {s : List Char} (hs : ' ' ∉ s) : ' ' ∉ pointed s := by
  unfold pointed
  split_ifs
  · exact List.not_mem_nil
  · simpa using hs

theorem blank_not_mem_zeros (n : Nat) : ' ' ∉ List.replicate n '0' := by
  intro hmem
  exact absurd (List.eq_of_mem_replicate hmem) (by decide)

theorem blank_not_mem_fixedText {s : List Char} (hs : ' ' ∉ s) (e : Int) : ' ' ∉ fixedText s e := by
  unfold fixedText
  split_ifs
  · have hdrop := blank_not_mem_pointed fun h => hs (List.mem_of_mem_drop (i := e.toNat + 1) h)
    have htake : ' ' ∉ s.take (e.toNat + 1) := fun h => hs (List.mem_of_mem_take h)
    simp only [List.mem_append, not_or]
    exact ⟨⟨htake, blank_not_mem_zeros _⟩, hdrop⟩
  · have hfraction : ' ' ∉ List.replicate (-e - 1).toNat '0' ++ s := by
      simp only [List.mem_append, not_or]
      exact ⟨blank_not_mem_zeros _, hs⟩
    simpa using blank_not_mem_pointed hfraction

theorem blank_not_mem_exponentText (e : Int) : ' ' ∉ exponentText e := by
  have hdigits : ' ' ∉ Nat.toDigits 10 e.natAbs := blank_not_mem_digits fun c hc =>
    Nat.isDigit_of_mem_toDigits (by decide) (by decide) hc
  have hsign : ' ' ≠ if e < 0 then '-' else '+' := by
    split_ifs <;> decide
  simp only [exponentText, List.mem_cons, List.mem_append, not_or]
  exact ⟨by decide, hsign, blank_not_mem_zeros _, hdigits⟩

theorem blank_not_mem_scientificText {s : List Char} (hs : ' ' ∉ s) (e : Int) :
    ' ' ∉ scientificText s e := by
  have htake : ' ' ∉ s.take 1 := fun h => hs (List.mem_of_mem_take h)
  have hdrop := blank_not_mem_pointed fun h => hs (List.mem_of_mem_drop (i := 1) h)
  simp only [scientificText, List.mem_append, not_or]
  exact ⟨⟨htake, hdrop⟩, blank_not_mem_exponentText e⟩

/-! Printing. -/

variable [LinearOrder K] [FloorRing K]

theorem roundHalfEven_mem (x : K) : ⌊x⌋ ≤ roundHalfEven x ∧ roundHalfEven x ≤ ⌊x⌋ + 1 := by
  unfold roundHalfEven
  split_ifs <;> omega

theorem blank_not_mem_text (x : K) : ' ' ∉ text x := by
  have hpositive : ∀ a : K, ' ' ∉ positiveText a := by
    intro a
    unfold positiveText
    generalize scientific a = p
    have hdigits : ' ' ∉ significant p.1 := blank_not_mem_digits fun c hc => significant_isDigit hc
    simp only
    split_ifs
    · exact blank_not_mem_fixedText hdigits p.2
    · exact blank_not_mem_scientificText hdigits p.2
  unfold text
  split_ifs
  · simp
  · simpa using hpositive (-x)
  · exact hpositive x

variable [IsStrictOrderedRing K]

theorem roundHalfEven_intCast (n : Int) : roundHalfEven (n : K) = n := by
  have h : (n : K) - ⌊(n : K)⌋ < 1 / 2 := by
    rw [Int.floor_intCast, sub_self]
    norm_num
  rw [roundHalfEven, if_pos h, Int.floor_intCast]

theorem scaled_mem {a : K} (ha : 0 < a) :
    (100000 : K) ≤ a / 10 ^ (Int.log 10 a - 5) ∧ a / 10 ^ (Int.log 10 a - 5) < 1000000 := by
  have hlow := Int.zpow_log_le_self (b := 10) (by decide) ha
  have hhigh := Int.lt_zpow_succ_log_self (b := 10) (by decide) a
  have hpos : (0 : K) < 10 ^ (Int.log 10 a - 5) := zpow_pos (by norm_num) _
  have hten : (10 : K) ≠ 0 := by norm_num
  push_cast at hlow hhigh
  constructor
  · rw [le_div_iff₀ hpos]
    calc (100000 : K) * 10 ^ (Int.log 10 a - 5)
        = 10 ^ (5 : Int) * 10 ^ (Int.log 10 a - 5) := by norm_num
      _ = 10 ^ Int.log 10 a := by rw [← zpow_add₀ hten, add_sub_cancel]
      _ ≤ a := hlow
  · rw [div_lt_iff₀ hpos]
    calc a < 10 ^ (Int.log 10 a + 1) := hhigh
      _ = 10 ^ (6 : Int) * 10 ^ (Int.log 10 a - 5) := by
        rw [← zpow_add₀ hten]
        congr 1
        ring
      _ = 1000000 * 10 ^ (Int.log 10 a - 5) := by norm_num

theorem scientific_mem {a : K} (ha : 0 < a) :
    100000 ≤ (scientific a).1 ∧ (scientific a).1 < 1000000 := by
  have hscaled := scaled_mem ha
  have hlow : 100000 ≤ ⌊a / 10 ^ (Int.log 10 a - 5)⌋ :=
    Int.le_floor.mpr (by exact_mod_cast hscaled.1)
  have hhigh : ⌊a / 10 ^ (Int.log 10 a - 5)⌋ < 1000000 :=
    Int.floor_lt.mpr (by exact_mod_cast hscaled.2)
  have hround := roundHalfEven_mem (a / 10 ^ (Int.log 10 a - 5))
  unfold scientific
  generalize roundHalfEven (a / 10 ^ (Int.log 10 a - 5)) = m at hround
  simp only
  split_ifs with hm
  · omega
  · simp only
    omega

/-- The number that the six digits and the exponent stand for. -/
def scientificValue (a : K) : K := (scientific a).1 * 10 ^ ((scientific a).2 - 5)

theorem readDecimal_positiveText {a : K} (ha : 0 < a) :
    readDecimal K (positiveText a) = scientificValue a := by
  have hmem := scientific_mem ha
  have hdigits := fun c (hc : c ∈ significant (scientific a).1) => significant_isDigit hc
  have hne := significant_ne_nil hmem.1 hmem.2
  obtain ⟨hlength, hvalue⟩ := numeral_significant hmem.1 hmem.2
  have hten : (10 : K) ≠ 0 := by norm_num
  have hread : readDecimal K (positiveText a) = numeral 10 (significant (scientific a).1) *
      10 ^ ((scientific a).2 + 1 - (significant (scientific a).1).length) := by
    unfold positiveText
    generalize scientific a = p at hdigits hne
    simp only
    split_ifs
    · exact readDecimal_fixedText hne hdigits p.2
    · exact readDecimal_scientificText hne hdigits p.2
  rw [hread, scientificValue]
  generalize scientific a = p at hlength hvalue
  generalize significant p.1 = digits at hlength hvalue
  have hexponent : p.2 + 1 - digits.length = (6 - digits.length : Nat) + (p.2 - 5) := by omega
  rw [hexponent, zpow_add₀ hten, zpow_natCast]
  rw [hvalue]
  push_cast
  ring

theorem positiveText_head {a : K} (ha : 0 < a) :
    ∃ c s, positiveText a = c :: s ∧ c.isDigit = true := by
  have hmem := scientific_mem ha
  have hdigits := fun c (hc : c ∈ significant (scientific a).1) => significant_isDigit hc
  have hne := significant_ne_nil hmem.1 hmem.2
  unfold positiveText
  generalize scientific a = p at hdigits hne
  simp only
  generalize significant p.1 = digits at hdigits hne
  cases digits with
  | nil => exact absurd rfl hne
  | cons c digits =>
    have hc := hdigits c List.mem_cons_self
    split_ifs
    · unfold fixedText
      split_ifs
      · exact ⟨c, _, List.cons_append .., hc⟩
      · exact ⟨'0', _, rfl, rfl⟩
    · exact ⟨c, _, rfl, hc⟩

theorem scientificValue_sixDigits {a : K} (ha : 0 < a) : SixDigits (scientificValue a) := by
  refine ⟨(scientific a).1, (scientific a).2 - 5, ?_, ?_⟩
  · have := scientific_mem ha
    rw [abs_of_nonneg (by omega)]
    omega
  · rw [scientificValue, Int.cast_natCast]

theorem scientificValue_eq {a : K} (ha : 0 < a) (h : SixDigits a) : scientificValue a = a := by
  obtain ⟨k, e, hk, hvalue⟩ := h
  have hten : (10 : K) ≠ 0 := by norm_num
  have hlow := Int.zpow_log_le_self (b := 10) (by decide) ha
  push_cast at hlow
  -- the digits do not reach below the sixth one
  have hexponent : Int.log 10 a - 5 ≤ e := by
    by_contra hlt
    have hpos : (0 : K) < 10 ^ e := zpow_pos (by norm_num) _
    have hk' : (k : K) < 1000000 := by
      exact_mod_cast lt_of_le_of_lt (le_abs_self k) hk
    have hgrow : (10 : K) ^ (e + 6) ≤ 10 ^ Int.log 10 a :=
      zpow_le_zpow_right₀ (by norm_num) (by omega)
    rw [zpow_add₀ hten] at hgrow
    have hsix : (10 : K) ^ (6 : Int) = 1000000 := by norm_num
    rw [hsix] at hgrow
    have := mul_lt_mul_of_pos_right hk' hpos
    rw [← hvalue] at this
    linarith
  obtain ⟨n, hn⟩ := Int.le.dest hexponent
  have hmem := scaled_mem ha
  rw [scientificValue, scientific]
  generalize Int.log 10 a = l at hn hmem
  have hscaled : a / 10 ^ (l - 5) = ((k * 10 ^ n : Int) : K) := by
    rw [div_eq_iff (zpow_ne_zero _ hten), hvalue, ← hn, zpow_add₀ hten, zpow_natCast]
    push_cast
    ring
  rw [hscaled] at hmem
  have hlarge : 100000 ≤ k * 10 ^ n := by exact_mod_cast hmem.1
  have hsmall : k * 10 ^ n < 1000000 := by exact_mod_cast hmem.2
  rw [hscaled, roundHalfEven_intCast, if_neg (by omega)]
  rw [div_eq_iff (zpow_ne_zero _ hten)] at hscaled
  have hcast : (((k * 10 ^ n).toNat : Nat) : K) = ((k * 10 ^ n : Int) : K) := by
    rw [← Int.cast_natCast, Int.toNat_of_nonneg (by omega)]
  simp only
  rw [hcast, hscaled]

/-- What is printed and read back is the number itself exactly if it has at most six significant
digits. -/
theorem readDecimal_text_eq_iff (x : K) : readDecimal K (text x) = x ↔ SixDigits x := by
  have hpositive : ∀ a : K, 0 < a → (scientificValue a = a ↔ SixDigits a) := by
    intro a ha
    constructor
    · intro h
      rw [← h]
      exact scientificValue_sixDigits ha
    · exact scientificValue_eq ha
  rcases lt_trichotomy x 0 with hneg | rfl | hpos
  · have ha : 0 < -x := neg_pos.mpr hneg
    obtain ⟨c, s, htext, hc⟩ := positiveText_head ha
    rw [text, if_neg hneg.ne, if_pos hneg, htext, readDecimal_minus hc, ← htext,
      readDecimal_positiveText ha, neg_eq_iff_eq_neg, hpositive _ ha, sixDigits_neg]
  · constructor
    · intro _
      exact ⟨0, 0, by decide, by simp⟩
    · intro _
      rw [text, if_pos rfl]
      simp [readDecimal, readSign, readFraction, readExponent, numeral, digitValue]
  · rw [text, if_neg hpos.ne', if_neg hpos.not_gt, readDecimal_positiveText hpos, hpositive x hpos]

omit [FloorRing K] in
theorem exists_ten_mul_of_sixDigits {x : K} (h : SixDigits x) (hx : 1000000 ≤ x) :
    ∃ n : Int, x = 10 * n := by
  obtain ⟨k, e, hk, rfl⟩ := h
  rcases le_or_gt e 0 with he | he
  · have hsmall : (10 : K) ^ e ≤ 1 := zpow_le_one_of_nonpos₀ (by norm_num) he
    have hpos : (0 : K) < 10 ^ e := zpow_pos (by norm_num) e
    have hk' : (k : K) < 1000000 := by exact_mod_cast lt_of_le_of_lt (le_abs_self k) hk
    nlinarith
  · obtain ⟨n, rfl⟩ := Int.eq_succ_of_zero_lt he
    refine ⟨k * 10 ^ n, ?_⟩
    rw [zpow_add_one₀ (by norm_num), zpow_natCast]
    push_cast
    ring

end DefaultFloat

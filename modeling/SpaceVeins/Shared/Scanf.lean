import SpaceVeins.Shared.CxxString
import Mathlib.Algebra.Field.Basic

/-!
# Formatted reading

The conversions of `sscanf` with a field width. A conversion skips white space, takes
the longest text of its kind that fits the width and leaves the rest; it fails if
there is no such text. A format is the list of its conversions, and what it reads is
stored up to the first one that fails. Numbers are decimal.
-/

set_option autoImplicit false

namespace Scanf
open CxxString

def skipSpace (s : List Char) : List Char := s.dropWhile isSpace

/-- A sign, the width that is left and the rest. -/
def scanSign (width : Nat) (s : List Char) : Bool × Nat × List Char :=
  match width, s with
  | width + 1, '-' :: s => (true, width, s)
  | width + 1, '+' :: s => (false, width, s)
  | width, s => (false, width, s)

def scanDigits (width : Nat) (s : List Char) : List Char × Nat × List Char :=
  let digits := (s.take width).takeWhile Char.isDigit
  (digits, width - digits.length, s.drop digits.length)

/-- The digits after a decimal point, if there is one. -/
def scanFraction (width : Nat) (s : List Char) : List Char × Nat × List Char :=
  match width, s with
  | width + 1, '.' :: s => scanDigits width s
  | width, s => ([], width, s)

def signed (negative : Bool) (digits : List Char) : Int :=
  if negative then -numeral 10 digits else numeral 10 digits

def scanExponent (width : Nat) (s : List Char) : Option (Int × List Char) :=
  match width, s with
  | width + 1, c :: rest =>
    if c = 'e' ∨ c = 'E' then
      let (negative, width, rest) := scanSign width rest
      let (digits, _, rest) := scanDigits width rest
      if digits = [] then none else some (signed negative digits, rest)
    else some (0, s)
  | _, s => some (0, s)

/-- `%d` and `%ld`. -/
def scanInt (width : Nat) (s : List Char) : Option (Int × List Char) :=
  let (negative, width, s) := scanSign width (skipSpace s)
  let (digits, _, s) := scanDigits width s
  if digits = [] then none else some (signed negative digits, s)

/-- The value of a decimal fraction. -/
def decimal {K : Type} [Field K] (negative : Bool) (whole fraction : List Char) (exponent : Int) :
    K :=
  (signed negative (whole ++ fraction) : K) / (10.0 : K) ^ fraction.length * (10.0 : K) ^ exponent

/-- `%lf`. -/
def scanFloat {K : Type} [Field K] (width : Nat) (s : List Char) : Option (K × List Char) :=
  let (negative, width, s) := scanSign width (skipSpace s)
  let (whole, width, s) := scanDigits width s
  let (fraction, width, s) := scanFraction width s
  if whole = [] ∧ fraction = [] then none
  else (scanExponent width s).map fun (exponent, s) =>
    (decimal negative whole fraction exponent, s)

/-- `%s`. -/
def scanWord (width : Nat) (s : List Char) : Option (List Char × List Char) :=
  let word := ((skipSpace s).take width).takeWhile fun c => !isSpace c
  if word = [] then none else some (word, (skipSpace s).drop word.length)

/-- `%c`, which skips nothing. -/
def scanChar : List Char → Option (Char × List Char)
  | [] => none
  | c :: s => some (c, s)

/-- A conversion with its destination in a record, or white space in the format. -/
abbrev Directive (ρ : Type) := ρ → List Char → Option (ρ × List Char)

section
variable {ρ β : Type}

def store (scan : List Char → Option (β × List Char)) (set : β → ρ → ρ) : Directive ρ :=
  fun r s => (scan s).map fun (v, s) => (set v r, s)

def space : Directive ρ := fun r s => some (r, skipSpace s)

def sscanf (s : List Char) (format : List (Directive ρ)) (r : ρ) : ρ :=
  match format with
  | [] => r
  | directive :: format =>
    match directive r s with
    | none => r
    | some (r, s) => sscanf s format r

theorem sscanf_store {scan : List Char → Option (β × List Char)} {set : β → ρ → ρ} {v : β}
    {s rest : List Char} (h : scan s = some (v, rest)) (format : List (Directive ρ)) (r : ρ) :
    sscanf s (store scan set :: format) r = sscanf rest format (set v r) := by
  simp [sscanf, store, h]

theorem sscanf_space (s : List Char) (format : List (Directive ρ)) (r : ρ) :
    sscanf s (space :: format) r = sscanf (skipSpace s) format r := rfl

end

/-- No digit comes next. -/
def Ends (s : List Char) : Prop := ∀ c, s.head? = some c → c.isDigit = false

theorem skipSpace_blank (s : List Char) : skipSpace (' ' :: s) = skipSpace s := rfl

theorem skipSpace_blanks (k : Nat) (s : List Char) :
    skipSpace (List.replicate k ' ' ++ s) = skipSpace s := by
  induction k with
  | zero => rfl
  | succ k ih => rw [List.replicate_succ, List.cons_append, skipSpace_blank, ih]

theorem skipSpace_cons {c : Char} (hc : isSpace c = false) (s : List Char) :
    skipSpace (c :: s) = c :: s :=
  List.dropWhile_cons_of_neg (by simp [hc])

/-- A field that the width or the next character ends. -/
theorem takeWhile_take_append {p : Char → Bool} {field rest : List Char} {width : Nat}
    (hfield : ∀ c ∈ field, p c = true) (hwidth : field.length ≤ width)
    (hrest : field.length = width ∨ ∀ c, rest.head? = some c → p c = false) :
    ((field ++ rest).take width).takeWhile p = field := by
  rw [List.take_append, List.take_of_length_le hwidth, List.takeWhile_append_of_pos hfield]
  rcases hrest with hfull | hends
  · rw [hfull, Nat.sub_self, List.take_zero, List.takeWhile_nil, List.append_nil]
  · cases rest with
    | nil => simp
    | cons c rest =>
      cases width - field.length with
      | zero => simp
      | succ k => simp [hends c rfl]

theorem scanDigits_append {width : Nat} {digits rest : List Char}
    (hdigits : ∀ c ∈ digits, c.isDigit = true) (hwidth : digits.length ≤ width)
    (hrest : digits.length = width ∨ Ends rest) :
    scanDigits width (digits ++ rest) = (digits, width - digits.length, rest) := by
  simp only [scanDigits, takeWhile_take_append hdigits hwidth hrest, List.drop_left]

/-- A character that starts a number or ends one, and is no sign. -/
theorem scanSign_none {s : List Char} (width : Nat) (h : s.head? ≠ some '-')
    (h' : s.head? ≠ some '+') : scanSign width s = (false, width, s) := by
  unfold scanSign
  split
  · simp at h
  · simp at h'
  · rfl

theorem ne_sign_of_isDigit {c : Char} (h : c.isDigit = true) : c ≠ '-' ∧ c ≠ '+' := by
  constructor <;> rintro rfl <;> exact absurd h (by decide)

section Numbers
variable {digits rest : List Char} {width : Nat} (hdigits : ∀ c ∈ digits, c.isDigit = true)
include hdigits

theorem scanInt_digits (hne : digits ≠ []) (hwidth : digits.length ≤ width)
    (hrest : digits.length = width ∨ Ends rest) :
    scanInt width (digits ++ rest) = some ((numeral 10 digits : Int), rest) := by
  obtain ⟨c, digits, rfl⟩ := List.exists_cons_of_ne_nil hne
  have hc := hdigits c List.mem_cons_self
  have hskip : skipSpace (c :: digits ++ rest) = c :: digits ++ rest :=
    skipSpace_cons (not_isSpace_of_isDigit hc) _
  obtain ⟨hminus, hplus⟩ := ne_sign_of_isDigit hc
  have hsign : scanSign width (c :: digits ++ rest) = (false, width, c :: digits ++ rest) :=
    scanSign_none width (by simpa using hminus) (by simpa using hplus)
  simp only [scanInt, hskip, hsign, scanDigits_append hdigits hwidth hrest, signed]
  simp

theorem scanInt_signed (negative : Bool) (hne : digits ≠ []) (hwidth : digits.length + 1 ≤ width)
    (hrest : digits.length + 1 = width ∨ Ends rest) :
    scanInt width ((if negative then '-' else '+') :: digits ++ rest) =
      some (signed negative digits, rest) := by
  obtain ⟨width, rfl⟩ : ∃ w, width = w + 1 := ⟨width - 1, by omega⟩
  have hscan := scanDigits_append hdigits (Nat.le_of_succ_le_succ hwidth)
    (hrest.imp_left Nat.succ.inj)
  cases negative
  · have hskip : skipSpace ('+' :: (digits ++ rest)) = '+' :: (digits ++ rest) :=
      skipSpace_cons (by decide) _
    simp [scanInt, hskip, scanSign, hscan, hne]
  · have hskip : skipSpace ('-' :: (digits ++ rest)) = '-' :: (digits ++ rest) :=
      skipSpace_cons (by decide) _
    simp [scanInt, hskip, scanSign, hscan, hne]

end Numbers

/-- Neither a digit nor an exponent comes next. -/
def EndsFloat (s : List Char) : Prop :=
  ∀ c, s.head? = some c → c.isDigit = false ∧ c ≠ 'e' ∧ c ≠ 'E'

theorem EndsFloat.ends {s : List Char} (h : EndsFloat s) : Ends s := fun c hc => (h c hc).1

theorem scanExponent_none {width : Nat} {rest : List Char} (h : width = 0 ∨ EndsFloat rest) :
    scanExponent width rest = some (0, rest) := by
  unfold scanExponent
  split
  · rename_i width c rest
    rcases h with h | h
    · cases h
    · obtain ⟨_, he, hE⟩ := h c rfl
      rw [if_neg (by simp [he, hE])]
  · rfl

section Fractions
variable {K : Type} [Field K] {whole fraction rest : List Char} {width : Nat}
  (hwhole : ∀ c ∈ whole, c.isDigit = true) (hfraction : ∀ c ∈ fraction, c.isDigit = true)
include hwhole hfraction

/-- After the sign: digits, a point and digits. -/
theorem scanFraction_digits (hwidth : whole.length + 1 + fraction.length ≤ width)
    (hrest : whole.length + 1 + fraction.length = width ∨ EndsFloat rest) :
    scanDigits width (whole ++ '.' :: (fraction ++ rest)) =
        (whole, width - whole.length, '.' :: (fraction ++ rest)) ∧
      scanFraction (width - whole.length) ('.' :: (fraction ++ rest)) =
        (fraction, width - (whole.length + 1 + fraction.length), rest) ∧
      scanExponent (width - (whole.length + 1 + fraction.length)) rest = some (0, rest) := by
  have hpoint : Ends ('.' :: (fraction ++ rest)) := by
    intro c hc
    simp only [List.head?_cons, Option.some.injEq] at hc
    rw [← hc]
    decide
  refine ⟨scanDigits_append hwhole (by omega) (.inr hpoint), ?_, ?_⟩
  · obtain ⟨left, hleft⟩ : ∃ left, width - whole.length = left + 1 :=
      ⟨width - whole.length - 1, by omega⟩
    rw [hleft]
    simp only [scanFraction]
    rw [scanDigits_append hfraction (by omega)]
    · simp only [Prod.mk.injEq, true_and, and_true]
      omega
    · rcases hrest with hfull | hends
      · left
        omega
      · exact .inr fun c hc => (hends c hc).1
  · exact scanExponent_none (hrest.imp_left fun h => by omega)

theorem scanFloat_point (hne : fraction ≠ [])
    (hwidth : whole.length + 1 + fraction.length ≤ width)
    (hrest : whole.length + 1 + fraction.length = width ∨ EndsFloat rest) :
    scanFloat (K := K) width (whole ++ '.' :: (fraction ++ rest)) =
      some (decimal false whole fraction 0, rest) := by
  obtain ⟨hdigits, hpoint, hexponent⟩ := scanFraction_digits hwhole hfraction hwidth hrest
  have hhead : ∀ c, (whole ++ '.' :: (fraction ++ rest)).head? = some c →
      isSpace c = false ∧ c ≠ '-' ∧ c ≠ '+' := by
    intro c hc
    cases whole with
    | nil =>
      simp only [List.nil_append, List.head?_cons, Option.some.injEq] at hc
      rw [← hc]
      decide
    | cons d whole =>
      simp only [List.cons_append, List.head?_cons, Option.some.injEq] at hc
      have hd := hwhole c (hc ▸ List.mem_cons_self)
      exact ⟨not_isSpace_of_isDigit hd, ne_sign_of_isDigit hd⟩
  have hskip : skipSpace (whole ++ '.' :: (fraction ++ rest)) =
      whole ++ '.' :: (fraction ++ rest) := by
    cases hs : whole ++ '.' :: (fraction ++ rest) with
    | nil => rfl
    | cons c s => exact skipSpace_cons (hhead c (by rw [hs]; rfl)).1 s
  have hsign := scanSign_none width (s := whole ++ '.' :: (fraction ++ rest))
    (fun h => (hhead _ h).2.1 rfl) (fun h => (hhead _ h).2.2 rfl)
  simp only [scanFloat, hskip, hsign, hdigits, hpoint, hexponent, hne, and_false, if_false,
    Option.map_some]

theorem scanFloat_signed (negative : Bool) (hne : fraction ≠ [])
    (hwidth : whole.length + 1 + fraction.length + 1 ≤ width)
    (hrest : whole.length + 1 + fraction.length + 1 = width ∨ EndsFloat rest) :
    scanFloat (K := K) width
        ((if negative then '-' else '+') :: (whole ++ '.' :: (fraction ++ rest))) =
      some (decimal negative whole fraction 0, rest) := by
  obtain ⟨width, rfl⟩ : ∃ w, width = w + 1 := ⟨width - 1, by omega⟩
  obtain ⟨hdigits, hpoint, hexponent⟩ := scanFraction_digits hwhole hfraction
    (Nat.le_of_succ_le_succ hwidth) (hrest.imp_left Nat.succ.inj)
  cases negative
  · have hskip : ∀ s, skipSpace ('+' :: s) = '+' :: s := skipSpace_cons (by decide)
    simp [scanFloat, hskip, scanSign, hdigits, hpoint, hexponent, hne]
  · have hskip : ∀ s, skipSpace ('-' :: s) = '-' :: s := skipSpace_cons (by decide)
    simp [scanFloat, hskip, scanSign, hdigits, hpoint, hexponent, hne]

end Fractions

theorem ends_cons {c : Char} (h : c.isDigit = false) (s : List Char) : Ends (c :: s) := by
  intro d hd
  simp only [List.head?_cons, Option.some.injEq] at hd
  exact hd ▸ h

theorem endsFloat_cons {c : Char} (h : c.isDigit = false) (he : c ≠ 'e') (hE : c ≠ 'E')
    (s : List Char) : EndsFloat (c :: s) := by
  intro d hd
  simp only [List.head?_cons, Option.some.injEq] at hd
  exact hd ▸ ⟨h, he, hE⟩

theorem scanInt_blanks (width k : Nat) (s : List Char) :
    scanInt width (List.replicate k ' ' ++ s) = scanInt width s := by
  rw [scanInt, scanInt, skipSpace_blanks]

theorem scanFloat_blanks {K : Type} [Field K] (width k : Nat) (s : List Char) :
    scanFloat (K := K) width (List.replicate k ' ' ++ s) = scanFloat width s := by
  rw [scanFloat, scanFloat, skipSpace_blanks]

theorem scanWord_append {word rest : List Char} {width : Nat}
    (hword : ∀ c ∈ word, isSpace c = false) (hne : word ≠ []) (hwidth : word.length ≤ width)
    (hrest : word.length = width ∨ ∀ c, rest.head? = some c → isSpace c = true) :
    scanWord width (word ++ rest) = some (word, rest) := by
  have hskip : skipSpace (word ++ rest) = word ++ rest := by
    cases word with
    | nil => exact absurd rfl hne
    | cons c word => exact skipSpace_cons (hword c List.mem_cons_self) _
  have hfield : ((word ++ rest).take width).takeWhile (fun c => !isSpace c) = word :=
    takeWhile_take_append (by simpa using hword) hwidth (by simpa using hrest)
  simp only [scanWord, hskip, hfield, if_neg hne, List.drop_left]

theorem scanInt_digit {c : Char} {width : Nat} {rest : List Char} (hc : c.isDigit = true)
    (hwidth : 0 < width) (hends : Ends rest) :
    scanInt width (c :: rest) = some ((digitValue c : Int), rest) := by
  have h := @scanInt_digits [c] rest width (fun d hd => List.mem_singleton.mp hd ▸ hc)
    (List.cons_ne_nil c []) hwidth (.inr hends)
  rw [numeral_cons] at h
  simpa [numeral] using h

/-- A conversion that skips white space by itself. -/
def SkipsSpace {β : Type} (scan : List Char → Option (β × List Char)) : Prop :=
  ∀ s, scan (skipSpace s) = scan s

theorem skipSpace_skipSpace (s : List Char) : skipSpace (skipSpace s) = skipSpace s := by
  induction s with
  | nil => rfl
  | cons c s ih =>
    by_cases hc : isSpace c = true
    · have hskip : skipSpace (c :: s) = skipSpace s := List.dropWhile_cons_of_pos hc
      rw [hskip, ih]
    · rw [skipSpace_cons (by simpa using hc), skipSpace_cons (by simpa using hc)]

theorem scanInt_skipsSpace (width : Nat) : SkipsSpace (scanInt width) := by
  intro s
  rw [scanInt, scanInt, skipSpace_skipSpace]

theorem scanFloat_skipsSpace {K : Type} [Field K] (width : Nat) :
    SkipsSpace (scanFloat (K := K) width) := by
  intro s
  rw [scanFloat, scanFloat, skipSpace_skipSpace]

theorem scanWord_skipsSpace (width : Nat) : SkipsSpace (scanWord width) := by
  intro s
  simp only [scanWord, skipSpace_skipSpace]

theorem sscanf_space_store {ρ β : Type} {scan : List Char → Option (β × List Char)}
    {set : β → ρ → ρ} {v : β} {s rest : List Char} (hskips : SkipsSpace scan)
    (h : scan s = some (v, rest)) (format : List (Directive ρ)) (r : ρ) :
    sscanf s (space :: store scan set :: format) r = sscanf rest format (set v r) := by
  rw [sscanf_space]
  exact sscanf_store ((hskips s).trans h) format r

theorem sscanf_blank_store {ρ β : Type} {scan : List Char → Option (β × List Char)}
    {set : β → ρ → ρ} {v : β} {s rest : List Char} (hskips : SkipsSpace scan)
    (h : scan s = some (v, rest)) (format : List (Directive ρ)) (r : ρ) :
    sscanf (' ' :: s) (space :: store scan set :: format) r = sscanf rest format (set v r) :=
  sscanf_space_store hskips h format r

end Scanf

import Mathlib.Data.List.Basic
import Mathlib.Data.List.TakeWhile
import Mathlib.Tactic.Common
import Mathlib.Tactic.Ring

/-!
# Strings of the C++ library

A `std::string` is the list of its characters; positions are of the unsigned
type `size_t`, whose largest value `npos` stands for no position. `stoul` reads
a number the way `strtoul` does, with white space, sign and prefix.
-/

set_option autoImplicit false

namespace CxxString

/-- `std::string::npos`. -/
def npos : Nat := 2 ^ 64 - 1

/-- A string that fits into memory. -/
structure StdString where
  chars : List Char
  length_lt : chars.length < npos

/-- A `size_t` computation. -/
def sizeT (n : Nat) : Nat := n % 2 ^ 64

/-- `n - 1` of a `size_t`. -/
def sizePred (n : Nat) : Nat := if n = 0 then npos else n - 1

/-- `n + 1` of a `size_t`. -/
def sizeSucc (n : Nat) : Nat := if n = npos then 0 else n + 1

/-- `find` of a string that consists of one character. -/
def find (s : List Char) (c : Char) : Nat := if c ∈ s then s.idxOf c else npos

/-- `operator[]`: behind the last character is a null character, and a read beyond it, whose
behaviour is undefined, yields whatever `stray` says. -/
def charAt (stray : Nat → Char) (s : List Char) (i : Nat) : Char :=
  if h : i < s.length then s[i] else if i = s.length then '\x00' else stray i

/-- The exceptions of the library. -/
inductive StdException where
  | invalidArgument
  | outOfRange
deriving DecidableEq, Repr

/-- `s.substr(pos, count)`. -/
def substr (s : List Char) (pos count : Nat) : Except StdException (List Char) :=
  if s.length < pos then .error .outOfRange else .ok ((s.drop pos).take count)

def isSpace (c : Char) : Bool := c == ' ' || (decide ('\t' ≤ c) && decide (c ≤ '\r'))

/-- The value of a digit in the largest base, and 36 for everything else. -/
def digitValue (c : Char) : Nat :=
  if '0' ≤ c ∧ c ≤ '9' then c.toNat - '0'.toNat
  else if 'a' ≤ c ∧ c ≤ 'z' then c.toNat - 'a'.toNat + 10
  else if 'A' ≤ c ∧ c ≤ 'Z' then c.toNat - 'A'.toNat + 10
  else 36

def numeral (base : Nat) (digits : List Char) : Nat :=
  digits.foldl (fun n c => base * n + digitValue c) 0

/-- A sign in front of the number. -/
def readSign (s : List Char) : Bool × List Char :=
  if s.head? = some '-' then (true, s.tail)
  else if s.head? = some '+' then (false, s.tail)
  else (false, s)

/-- The base that a prefix asks for, and what follows the prefix. -/
def readPrefix (base : Nat) (s : List Char) : Nat × List Char :=
  if s.head? = some '0' then
    if (base = 0 ∨ base = 16) ∧ (s[1]? = some 'x' ∨ s[1]? = some 'X') ∧
        s[2]?.any (fun c => digitValue c < 16) = true then (16, s.drop 2)
    else (if base = 0 then 8 else base, s)
  else (if base = 0 then 10 else base, s)

/-- `std::stoul(s, nullptr, base)` with a 64 bit `unsigned long`. -/
def stoul (base : Nat) (s : List Char) : Except StdException UInt64 :=
  let (negative, s) := readSign (s.dropWhile isSpace)
  let (base, s) := readPrefix base s
  let digits := s.takeWhile fun c => digitValue c < base
  if digits = [] then .error .invalidArgument
  else if 2 ^ 64 ≤ numeral base digits then .error .outOfRange
  else
    let value := UInt64.ofNat (numeral base digits)
    .ok (if negative then 0 - value else value)

theorem isDigit_iff {c : Char} : c.isDigit = true ↔ '0' ≤ c ∧ c ≤ '9' := by
  simp [Char.isDigit, Char.le_def]

theorem digitValue_lt {c : Char} (h : c.isDigit = true) : digitValue c < 10 := by
  have hrange := isDigit_iff.mp h
  have hle : c.toNat ≤ 57 := hrange.2
  have hzero : '0'.toNat = 48 := rfl
  rw [digitValue, if_pos hrange, hzero]
  omega

theorem digitValue_eq_zero {c : Char} (h : c.isDigit = true) : digitValue c = 0 ↔ c = '0' := by
  have hrange := isDigit_iff.mp h
  have hge : 48 ≤ c.toNat := hrange.1
  have hzero : '0'.toNat = 48 := rfl
  rw [digitValue, if_pos hrange, hzero]
  constructor
  · intro hval
    apply Char.ext
    apply UInt32.toNat_inj.mp
    change c.toNat = 48
    omega
  · rintro rfl
    rfl

theorem not_isSpace_of_isDigit {c : Char} (h : c.isDigit = true) : isSpace c = false := by
  have hge : '0' ≤ c := (isDigit_iff.mp h).1
  have hspace : c ≠ ' ' := by
    rintro rfl
    exact absurd hge (by decide)
  have hlarge : ¬ c ≤ '\r' := fun hle =>
    absurd (Char.le_trans hge hle) (by decide : ¬ '0' ≤ '\r')
  simp [isSpace, hspace, hlarge]

theorem foldl_numeral (base n : Nat) (digits : List Char) :
    digits.foldl (fun n c => base * n + digitValue c) n =
      base ^ digits.length * n + numeral base digits := by
  induction digits generalizing n with
  | nil => simp [numeral]
  | cons c digits ih =>
    rw [numeral, List.foldl_cons, List.foldl_cons, ih, ih (base * 0 + digitValue c),
      List.length_cons]
    ring

theorem numeral_cons (base : Nat) (c : Char) (digits : List Char) :
    numeral base (c :: digits) = base ^ digits.length * digitValue c + numeral base digits := by
  rw [numeral, List.foldl_cons, foldl_numeral]
  simp

theorem numeral_dropWhile_zero (base : Nat) (digits : List Char) :
    numeral base (digits.dropWhile fun c => c == '0') = numeral base digits := by
  induction digits with
  | nil => rfl
  | cons c digits ih =>
    by_cases hc : c = '0'
    · subst hc
      rw [List.dropWhile_cons_of_pos (by decide), ih, numeral_cons]
      simp [digitValue]
    · rw [List.dropWhile_cons_of_neg (by simpa using hc)]

theorem numeral_ne_zero {c : Char} {digits : List Char} (hc : c.isDigit = true) (hne : c ≠ '0') :
    numeral 10 (c :: digits) ≠ 0 := by
  have hpos : 0 < digitValue c :=
    Nat.pos_of_ne_zero fun h => hne ((digitValue_eq_zero hc).mp h)
  rw [numeral_cons]
  have := Nat.mul_pos (Nat.pow_pos (n := digits.length) (show 0 < 10 by decide)) hpos
  omega

/-- With the leading zeros gone, digits are read as a decimal number, whatever the prefix rules. -/
theorem stoul_digits {digits : List Char} (h : ∀ c ∈ digits, c.isDigit = true) :
    stoul 0 (digits.dropWhile fun c => c == '0') =
      if numeral 10 digits = 0 then .error .invalidArgument
      else if 2 ^ 64 ≤ numeral 10 digits then .error .outOfRange
      else .ok (UInt64.ofNat (numeral 10 digits)) := by
  rw [← numeral_dropWhile_zero 10 digits]
  have hrest : ∀ c ∈ digits.dropWhile fun c => c == '0', c.isDigit = true := fun c hc =>
    h c ((List.dropWhile_sublist _).subset hc)
  have hhead : ∀ c, (digits.dropWhile fun c => c == '0').head? = some c → c ≠ '0' := by
    intro c hc hzero
    have := List.head?_dropWhile_not (fun c => c == '0') digits
    rw [hc] at this
    simp [hzero] at this
  generalize digits.dropWhile (fun c => c == '0') = rest at hrest hhead
  cases rest with
  | nil => simp [stoul, readSign, readPrefix, numeral]
  | cons c rest =>
    have hdigit := hrest c List.mem_cons_self
    have hne := hhead c rfl
    have hminus : c ≠ '-' := by
      rintro rfl
      exact absurd hdigit (by decide)
    have hplus : c ≠ '+' := by
      rintro rfl
      exact absurd hdigit (by decide)
    have hall : (c :: rest).takeWhile (fun c => decide (digitValue c < 10)) = c :: rest :=
      List.takeWhile_eq_self_iff.mpr fun d hd => decide_eq_true (digitValue_lt (hrest d hd))
    have hspace : (c :: rest).dropWhile isSpace = c :: rest :=
      List.dropWhile_cons_of_neg (by simp [not_isSpace_of_isDigit hdigit])
    rw [if_neg (numeral_ne_zero hdigit hne)]
    simp [stoul, hspace, readSign, hminus, hplus, readPrefix, hne, hall]

end CxxString

import Mathlib.Algebra.Group.Int.Defs
import Mathlib.Algebra.Group.Nat.Defs
import Mathlib.Data.List.Basic

/-!
# Numbers in a text

`strtol` and `atoi` of the C library: white space, a sign, and then the digits up to the first
character that is none.

* `strtol_append` — it reads the digits in front, whatever follows them
* `atoi_toDigits` — it reads back a decimal numeral
-/

namespace Infra

/-! ## Digits -/

/-- The value of a digit or a letter. -/
def digitValue (c : Char) : Option Nat :=
  let n := c.toNat
  if 48 ≤ n ∧ n ≤ 57 then some (n - 48)
  else if 65 ≤ n ∧ n ≤ 90 then some (n - 55)
  else if 97 ≤ n ∧ n ≤ 122 then some (n - 87)
  else none

def isDigitOf (base : Nat) (c : Char) : Bool := (digitValue c).any (· < base)

theorem isDigitOf_iff {base : Nat} {c : Char} :
    isDigitOf base c = true ↔ ∃ n, digitValue c = some n ∧ n < base := by
  unfold isDigitOf
  cases digitValue c <;> simp

/-- The digits up to `F`. -/
def upperDigit (n : Nat) : Char := (Nat.digitChar n).toUpper

theorem toNat_upperDigit : ∀ n : Nat, n < 16 →
    (upperDigit n).toNat = if n < 10 then 48 + n else 55 + n
  | 0, _ | 1, _ | 2, _ | 3, _ | 4, _ | 5, _ | 6, _ | 7, _ | 8, _ | 9, _ | 10, _ | 11, _
  | 12, _ | 13, _ | 14, _ | 15, _ => by decide
  | _ + 16, h => absurd h (by omega)

theorem toNat_toUpper (c : Char) :
    c.toUpper.toNat = if 97 ≤ c.toNat ∧ c.toNat ≤ 122 then c.toNat - 32 else c.toNat := by
  have hlower : 'a'.val ≤ c.val ∧ c.val ≤ 'z'.val ↔ 97 ≤ c.toNat ∧ c.toNat ≤ 122 := by
    rw [UInt32.le_iff_toNat_le, UInt32.le_iff_toNat_le]
    rfl
  unfold Char.toUpper
  by_cases h : 97 ≤ c.toNat ∧ c.toNat ≤ 122
  · rw [dif_pos (hlower.mpr h), if_pos h]
    show (c.val + ('A'.val - 'a'.val)).toNat = c.val.toNat - 32
    have hval : 97 ≤ c.val.toNat ∧ c.val.toNat ≤ 122 := h
    rw [UInt32.toNat_add]
    simp
    omega
  · rw [dif_neg (fun h' => h (hlower.mp h')), if_neg h]

theorem digitValue_upperDigit {n : Nat} (h : n < 16) : digitValue (upperDigit n) = some n := by
  unfold digitValue
  simp only [toNat_upperDigit n h]
  split <;> grind

theorem toNat_toLower (c : Char) :
    c.toLower.toNat = if 65 ≤ c.toNat ∧ c.toNat ≤ 90 then c.toNat + 32 else c.toNat := by
  have hupper : c.val ≥ 'A'.val ∧ c.val ≤ 'Z'.val ↔ 65 ≤ c.toNat ∧ c.toNat ≤ 90 := by
    rw [ge_iff_le, UInt32.le_iff_toNat_le, UInt32.le_iff_toNat_le]
    rfl
  unfold Char.toLower
  by_cases h : 65 ≤ c.toNat ∧ c.toNat ≤ 90
  · rw [dif_pos (hupper.mpr h), if_pos h]
    show (c.val + ('a'.val - 'A'.val)).toNat = c.val.toNat + 32
    have hval : 65 ≤ c.val.toNat ∧ c.val.toNat ≤ 90 := h
    rw [UInt32.toNat_add]
    simp
    omega
  · rw [dif_neg (fun h' => h (hupper.mp h')), if_neg h]

/-- Lower and upper case have the same value. -/
@[simp] theorem digitValue_toUpper (c : Char) : digitValue c.toUpper = digitValue c := by
  unfold digitValue
  simp only [toNat_toUpper]
  by_cases h : 97 ≤ c.toNat ∧ c.toNat ≤ 122
  · simp only [if_pos h]
    rw [if_neg (by omega), if_pos (by omega), if_neg (by omega), if_neg (by omega)]
    congr 1
  · simp only [if_neg h]

/-- A digit is the one of its value, up to case. -/
theorem toUpper_of_digitValue {c : Char} {n : Nat} (h : digitValue c = some n) (hn : n < 16) :
    c.toUpper = upperDigit n := by
  refine Char.toNat_inj.mp ?_
  rw [toNat_upperDigit n hn, toNat_toUpper]
  unfold digitValue at h
  grind

/-! ## `strtol` -/

def isspace (c : Char) : Bool := c.toNat = 32 || (9 ≤ c.toNat && c.toNat ≤ 13)

/-- The number that digits stand for. -/
def numeral (base : Nat) (ds : List Char) : Nat :=
  ds.foldl (fun n c => base * n + (digitValue c).getD 0) 0

/-- The sign: whether it is a minus, and what follows it. -/
def splitSign : List Char → Bool × List Char
  | '-' :: text => (true, text)
  | '+' :: text => (false, text)
  | text => (false, text)

/-- `0x` in front of a hexadecimal number. -/
def skipPrefix (base : Nat) : List Char → List Char
  | '0' :: 'x' :: text => if base = 16 then text else '0' :: 'x' :: text
  | '0' :: 'X' :: text => if base = 16 then text else '0' :: 'X' :: text
  | text => text

/-- `strtol(text, NULL, base)` with a `long` of 64 bits, for a base from 2 to 36. -/
def strtol (base : Nat) (text : List Char) : Int :=
  let (minus, text) := splitSign (text.dropWhile isspace)
  let n : Int := numeral base ((skipPrefix base text).takeWhile (isDigitOf base))
  if minus then max (-2 ^ 63) (-n) else min (2 ^ 63 - 1) n

/-- `atoi`: what `strtol` gives, as an `int`. -/
def atoi (text : List Char) : Int := (strtol 10 text).bmod (2 ^ 32)

section

variable {base : Nat} {c : Char} {ds rest : List Char}

theorem digitValue_ne_none (h : isDigitOf base c = true) : digitValue c ≠ none := by
  obtain ⟨n, hn, -⟩ := isDigitOf_iff.mp h
  rw [hn]
  exact Option.some_ne_none n

theorem isspace_of_isDigitOf (h : isDigitOf base c = true) : isspace c = false := by
  have hval := digitValue_ne_none h
  cases hs : isspace c with
  | false => rfl
  | true =>
    exfalso
    unfold isspace at hs
    unfold digitValue at hval
    grind

theorem splitSign_of_isDigitOf (h : isDigitOf base c = true) (text : List Char) :
    splitSign (c :: text) = (false, c :: text) := by
  have hval := digitValue_ne_none h
  have hminus : c ≠ '-' := fun hc => hval (by rw [hc]; decide)
  have hplus : c ≠ '+' := fun hc => hval (by rw [hc]; decide)
  unfold splitSign
  split
  · next heq => exact absurd (List.cons.inj heq).1 hminus
  · next heq => exact absurd (List.cons.inj heq).1 hplus
  · rfl

/-- Two hexadecimal digits are no prefix. -/
theorem skipPrefix_of_isDigitOf {d : Char} (h : isDigitOf 16 d = true) (text : List Char) :
    skipPrefix 16 (c :: d :: text) = c :: d :: text := by
  have hx : d ≠ 'x' := fun hd => by
    rw [hd] at h
    exact absurd h (by decide)
  have hX : d ≠ 'X' := fun hd => by
    rw [hd] at h
    exact absurd h (by decide)
  unfold skipPrefix
  split
  · next heq => exact absurd (List.cons.inj (List.cons.inj heq).2).1 hx
  · next heq => exact absurd (List.cons.inj (List.cons.inj heq).2).1 hX
  · rfl

theorem skipPrefix_of_ne (h : base ≠ 16) (text : List Char) : skipPrefix base text = text := by
  unfold skipPrefix
  split
  · rw [if_neg h]
  · rw [if_neg h]
  · rfl

/-- **`strtol` reads the digits in front, whatever follows them.** -/
theorem strtol_append (hds : ∀ d ∈ ds, isDigitOf base d = true)
    (hrest : ∀ d ∈ rest.head?, isDigitOf base d = false) (hne : ds ≠ [])
    (hhex : base = 16 → 2 ≤ ds.length) :
    strtol base (ds ++ rest) = min (2 ^ 63 - 1) (numeral base ds : Int) := by
  obtain ⟨c, ds', rfl⟩ := List.exists_cons_of_ne_nil hne
  have hc := hds c List.mem_cons_self
  have hskip : skipPrefix base (c :: ds' ++ rest) = c :: ds' ++ rest := by
    by_cases hb : base = 16
    · subst hb
      obtain ⟨d, ds'', rfl⟩ : ∃ d ds'', ds' = d :: ds'' := by
        cases ds' with
        | nil => exact absurd (hhex rfl) (by simp)
        | cons d ds'' => exact ⟨d, ds'', rfl⟩
      exact skipPrefix_of_isDigitOf (hds d (by simp)) _
    · exact skipPrefix_of_ne hb _
  have htake : (c :: ds' ++ rest).takeWhile (isDigitOf base) = c :: ds' := by
    rw [List.takeWhile_append_of_pos hds]
    cases rest with
    | nil => simp
    | cons d rest => rw [List.takeWhile_cons_of_neg (by simpa using hrest d rfl), List.append_nil]
  unfold strtol
  rw [List.cons_append, List.dropWhile_cons_of_neg (by simp [isspace_of_isDigitOf hc]),
    splitSign_of_isDigitOf hc]
  simp only [← List.cons_append, hskip, htake, Bool.false_eq_true, if_false]

end

/-! ## Decimal numerals -/

theorem isDigit_iff {c : Char} : c.isDigit = true ↔ 48 ≤ c.toNat ∧ c.toNat ≤ 57 := by
  simp [Char.isDigit, UInt32.le_iff_toNat_le, ← Char.toNat_val]

theorem digitValue_of_isDigit {c : Char} (h : c.isDigit = true) :
    digitValue c = some (c.toNat - 48) := if_pos (isDigit_iff.mp h)

theorem isDigitOf_ten {c : Char} (h : c.isDigit = true) : isDigitOf 10 c = true := by
  have hc := isDigit_iff.mp h
  exact isDigitOf_iff.mpr ⟨_, digitValue_of_isDigit h, by omega⟩

theorem numeral_eq_ofDigitChars {ds : List Char} (h : ∀ c ∈ ds, c.isDigit = true) :
    numeral 10 ds = Nat.ofDigitChars 10 ds 0 := by
  rw [Nat.ofDigitChars_eq_foldl]
  refine List.foldl_ext _ _ _ fun n c hc => ?_
  rw [digitValue_of_isDigit (h c hc)]
  rfl

/-- **`atoi` reads back a decimal numeral**, if it is an `int`. -/
theorem atoi_toDigits {n : Nat} (h : n < 2 ^ 31) : atoi (Nat.toDigits 10 n) = n := by
  have hdigit : ∀ c ∈ Nat.toDigits 10 n, c.isDigit = true := fun c hc =>
    Nat.isDigit_of_mem_toDigits (by decide) (by decide) hc
  have hread : strtol 10 (Nat.toDigits 10 n ++ []) = _ :=
    strtol_append (fun c hc => isDigitOf_ten (hdigit c hc)) (by simp)
      Nat.toDigits_ne_nil (fun hb => absurd hb (by decide))
  rw [List.append_nil, numeral_eq_ofDigitChars hdigit, Nat.ofDigitChars_ten_toDigits] at hread
  rw [atoi, hread, Int.min_eq_right (by omega), Int.bmod_eq_of_le (by omega) (by omega)]

end Infra

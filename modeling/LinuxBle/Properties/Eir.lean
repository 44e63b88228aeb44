import Mathlib.Logic.Basic
import Mathlib.Tactic.ByContra
import LinuxBle.Ble.Eir

/-!
# `eir_parse_name` and the end of its input

* `eirParseName_cases` — the parser finds a name, or fails and leaves the output alone
* `staysInside_iff` — when it depends on nothing but its input

## One byte too many

The length byte of a structure does not count itself. A structure at `index` ends at
`index + field_len`, inclusive, and the parser asks for `index + field_len <= eir_len`: it takes a
structure that ends one byte behind the input for complete.
-/

namespace LinuxBle

/-- The type byte of a name. -/
def IsName (type : UInt8) : Prop := type = eirNameShort ∨ type = eirNameComplete

instance : DecidablePred IsName := fun type => by
  unfold IsName
  infer_instance

/-! ## The structures that the parser comes to -/

section

variable (eir : Nat → UInt8) (eirLen : Nat)

/-- The parser comes to `index`: the structures before are complete, and none is a name. -/
inductive EirField : Nat → Prop
  | first : EirField 0
  | next {index : Nat} : EirField index → eir index ≠ 0 → index + (eir index).toNat < eirLen →
      ¬IsName (eir (index + 1)) → EirField (index + ((eir index).toNat + 1))

/--
A structure ends one byte behind the input, and the parser reads that byte: as the type byte, or
as the last one of a name that fits.
-/
def Overruns (outputNameLen : Nat) : Prop :=
  ∃ index, EirField eir eirLen index ∧ index < eirLen ∧ index + (eir index).toNat = eirLen ∧
    ((eir index).toNat = 1 ∨
      IsName (eir (index + 1)) ∧ (eir index).toNat - 1 ≤ outputNameLen)

end

section

variable {eir : Nat → UInt8} {eirLen : Nat} {outputName : List UInt8} {outputNameLen : Nat}
  {index : Nat}

theorem toNat_eq_zero_iff {b : UInt8} : b.toNat = 0 ↔ b = 0 := by
  rw [← UInt8.toNat_inj]
  rfl

/-- **From the structure it comes to, the parser goes on as from the beginning.** -/
theorem EirField.reached (h : EirField eir eirLen index) (outputName : List UInt8)
    (outputNameLen : Nat) :
    ∃ fuel, eirLen ≤ index + fuel ∧
      eirParseName eir eirLen outputName outputNameLen =
        eirLoop eir eirLen outputName outputNameLen fuel index ∧
      ∀ i ∈ eirReadsLoop eir eirLen outputNameLen fuel index,
        i ∈ eirReads eir eirLen outputNameLen := by
  induction h with
  | first => exact ⟨eirLen, by omega, rfl, fun i hi => hi⟩
  | @next index _ hzero hlt hname ih =>
    obtain ⟨fuel, hfuel, hloop, hreads⟩ := ih
    have hpos : (eir index).toNat ≠ 0 := fun he => hzero (toNat_eq_zero_iff.mp he)
    cases fuel with
    | zero => omega
    | succ fuel =>
      unfold IsName at hname
      refine ⟨fuel, by omega, ?_, fun i hi => hreads i ?_⟩
      · rw [hloop, eirLoop, if_pos (by omega)]
        simp only
        rw [if_neg (by omega), if_neg hname]
      · rw [eirReadsLoop, if_pos (by omega)]
        simp only
        rw [if_neg (by omega), if_neg hname]
        exact List.mem_append_right _ hi

/-- Behind the input there is nothing to find. -/
theorem eirLoop_of_le {fuel : Nat} (h : eirLen ≤ index) :
    eirLoop eir eirLen outputName outputNameLen fuel index = (-1, outputName) := by
  cases fuel with
  | zero => rfl
  | succ fuel => rw [eirLoop, if_neg (by omega)]

theorem eirReadsLoop_of_le {fuel : Nat} (h : eirLen ≤ index) :
    eirReadsLoop eir eirLen outputNameLen fuel index = [] := by
  cases fuel with
  | zero => rfl
  | succ fuel => rw [eirReadsLoop, if_neg (by omega)]

/-! ## When it stays inside -/

/-- The byte behind the input is read only where a structure ends there. -/
theorem EirField.overruns : ∀ (fuel index : Nat), EirField eir eirLen index →
    eirLen ∈ eirReadsLoop eir eirLen outputNameLen fuel index →
    Overruns eir eirLen outputNameLen
  | 0, _, _, hi => by cases hi
  | fuel + 1, index, h, hi => by
    rw [eirReadsLoop] at hi
    split at hi
    · next hlt =>
      simp only at hi
      split at hi
      · rw [List.mem_singleton] at hi
        omega
      · next hfield =>
        simp only [List.cons_append, List.nil_append, List.mem_cons] at hi
        rcases hi with hi | hi | hi
        · omega
        · -- the type byte lies behind the input
          exact ⟨index, h, hlt, by omega, Or.inl (by omega)⟩
        · split at hi
          · next hname =>
            split at hi
            · cases hi
            · next hfits =>
              obtain ⟨j, hj, hji⟩ := List.mem_map.mp hi
              rw [List.mem_range] at hj
              exact ⟨index, h, hlt, by omega, Or.inr ⟨hname, by omega⟩⟩
          · next hname =>
            by_cases hend : index + (eir index).toNat < eirLen
            · have hzero : eir index ≠ 0 := fun he => hfield (Or.inl (toNat_eq_zero_iff.mpr he))
              exact EirField.overruns fuel _ (h.next hzero hend hname) hi
            · rw [eirReadsLoop_of_le (by omega)] at hi
              cases hi
    · cases hi

/-- A structure that ends one byte behind the input makes the parser read that byte. -/
theorem Overruns.mem_eirReads (h : Overruns eir eirLen outputNameLen) :
    eirLen ∈ eirReads eir eirLen outputNameLen := by
  obtain ⟨index, hfield, hlt, hend, hread⟩ := h
  obtain ⟨fuel, hfuel, -, hreads⟩ := hfield.reached [] outputNameLen
  refine hreads _ ?_
  cases fuel with
  | zero => omega
  | succ fuel =>
    rw [eirReadsLoop, if_pos hlt]
    simp only
    rw [if_neg (by omega)]
    rcases hread with hone | ⟨hname, hfits⟩
    · refine List.mem_append_left _ ?_
      simp only [List.mem_cons, List.not_mem_nil, or_false]
      omega
    · unfold IsName at hname
      by_cases hone : (eir index).toNat = 1
      · refine List.mem_append_left _ ?_
        simp only [List.mem_cons, List.not_mem_nil, or_false]
        omega
      · refine List.mem_append_right _ ?_
        rw [if_pos hname, if_neg (by omega), List.mem_map]
        exact ⟨(eir index).toNat - 2, by rw [List.mem_range]; omega, by omega⟩

/-- **Every byte read lies inside the input exactly when no structure overruns it.** -/
theorem eirReads_lt_iff :
    (∀ i ∈ eirReads eir eirLen outputNameLen, i < eirLen) ↔
      ¬Overruns eir eirLen outputNameLen := by
  constructor
  · intro h hover
    have hlt := h _ hover.mem_eirReads
    omega
  · intro h i hi
    have hle := eirReads_le i hi
    by_contra hge
    have hie : i = eirLen := by omega
    rw [hie] at hi
    exact h (EirField.overruns eirLen 0 .first hi)

/-- What the parser makes of the name it finds: the name fits, and the input goes that far. -/
structure FoundAt (eir : Nat → UInt8) (eirLen : Nat) (outputName : List UInt8)
    (outputNameLen index : Nat) (res : Int × List UInt8) : Prop where
  field : EirField eir eirLen index
  lt : index < eirLen
  name : IsName (eir (index + 1))
  pos : eir index ≠ 0
  le : index + (eir index).toNat ≤ eirLen
  fits : (eir index).toNat - 1 ≤ outputNameLen
  res : res = (0, memcpyName outputName (fun i => eir (index + 2 + i)) ((eir index).toNat - 1))

/-- **The parser finds a name, or fails and leaves the output alone.** -/
theorem eirLoop_cases : ∀ (fuel index : Nat), EirField eir eirLen index →
    (∃ j, FoundAt eir eirLen outputName outputNameLen j
      (eirLoop eir eirLen outputName outputNameLen fuel index)) ∨
    eirLoop eir eirLen outputName outputNameLen fuel index = (-1, outputName)
  | 0, _, _ => Or.inr rfl
  | fuel + 1, index, h => by
    rw [eirLoop]
    split
    · next hlt =>
      simp only
      split
      · exact Or.inr rfl
      · next hfield =>
        have hzero : eir index ≠ 0 := fun he => hfield (Or.inl (toNat_eq_zero_iff.mpr he))
        split
        · next hname =>
          split
          · exact Or.inr rfl
          · next hfits =>
            exact Or.inl ⟨index, h, hlt, hname, hzero, by omega, by omega, rfl⟩
        · next hname =>
          by_cases hend : index + (eir index).toNat < eirLen
          · exact eirLoop_cases fuel _ (h.next hzero hend hname)
          · exact Or.inr (eirLoop_of_le (by omega))
    · exact Or.inr rfl

theorem eirParseName_cases (eir : Nat → UInt8) (eirLen : Nat) (outputName : List UInt8)
    (outputNameLen : Nat) :
    (∃ index, FoundAt eir eirLen outputName outputNameLen index
      (eirParseName eir eirLen outputName outputNameLen)) ∨
    eirParseName eir eirLen outputName outputNameLen = (-1, outputName) :=
  eirLoop_cases eirLen 0 .first

/--
The parser stays inside its input: it reads nothing behind, takes only a name that is complete,
rejects a structure that claims to go on behind the input, and does not depend on what lies there.
-/
structure StaysInside (eir : Nat → UInt8) (eirLen : Nat) (outputName : List UInt8)
    (outputNameLen : Nat) : Prop where
  reads : ∀ i ∈ eirReads eir eirLen outputNameLen, i < eirLen
  whole : (eirParseName eir eirLen outputName outputNameLen).1 = 0 →
    ∃ index, EirField eir eirLen index ∧ IsName (eir (index + 1)) ∧
      index + (eir index).toNat < eirLen
  past : ∀ index, EirField eir eirLen index → index < eirLen →
    eirLen ≤ index + (eir index).toNat →
    eirParseName eir eirLen outputName outputNameLen = (-1, outputName)
  behind : ∀ eir', (∀ i < eirLen, eir i = eir' i) →
    eirParseName eir eirLen outputName outputNameLen =
      eirParseName eir' eirLen outputName outputNameLen

/-- Without an overrun, a name that is found ends inside the input. -/
theorem FoundAt.lt_of_not_overruns {res : Int × List UInt8}
    (h : FoundAt eir eirLen outputName outputNameLen index res)
    (hno : ¬Overruns eir eirLen outputNameLen) : index + (eir index).toNat < eirLen := by
  by_contra hge
  have hle := h.le
  exact hno ⟨index, h.field, h.lt, by omega, Or.inr ⟨h.name, h.fits⟩⟩

/-- Without an overrun, a structure that goes on behind the input ends the parse. -/
theorem eirParseName_of_past (hno : ¬Overruns eir eirLen outputNameLen)
    (h : EirField eir eirLen index) (hlt : index < eirLen)
    (hpast : eirLen ≤ index + (eir index).toNat) :
    eirParseName eir eirLen outputName outputNameLen = (-1, outputName) := by
  obtain ⟨fuel, hfuel, hloop, -⟩ := h.reached outputName outputNameLen
  rw [hloop, eirLoop_eq hfuel, if_pos hlt]
  simp only
  by_cases hend : index + (eir index).toNat = eirLen
  · rw [if_neg (by omega)]
    by_cases hname : IsName (eir (index + 1))
    · have hlong : (eir index).toNat - 1 > outputNameLen := by
        by_contra hfits
        exact hno ⟨index, h, hlt, hend, Or.inr ⟨hname, by omega⟩⟩
      unfold IsName at hname
      rw [if_pos hname, if_pos hlong]
    · unfold IsName at hname
      rw [if_neg hname]
      exact eirLoop_of_le (by omega)
  · rw [if_pos (Or.inr (by omega))]

/--
**`eir_parse_name` stays inside its input exactly when no structure overruns it.**

The check `index + field_len > eir_len` lets a structure end at the byte behind the input. That
does no harm when the byte is not read: when the structure has a type byte inside the input which
is not that of a name, or its name is too long for the output anyway.
-/
theorem staysInside_iff (eir : Nat → UInt8) (eirLen : Nat) (outputName : List UInt8)
    (outputNameLen : Nat) :
    StaysInside eir eirLen outputName outputNameLen ↔ ¬Overruns eir eirLen outputNameLen := by
  constructor
  · intro h
    exact eirReads_lt_iff.mp h.reads
  · intro hno
    have hreads := eirReads_lt_iff.mpr hno
    refine ⟨hreads, fun hzero => ?_, fun index h hlt hpast => ?_, fun eir' hagree => ?_⟩
    · rcases eirParseName_cases eir eirLen outputName outputNameLen with
        ⟨index, hfound⟩ | hfail
      · exact ⟨index, hfound.field, hfound.name, hfound.lt_of_not_overruns hno⟩
      · rw [hfail] at hzero
        cases hzero
    · exact eirParseName_of_past hno h hlt hpast
    · exact eirParseName_congr fun i hi => hagree i (hreads i hi)

/-- Two bytes of data, the beginning of a name, with the letter `A` behind them. -/
def overrunningName (i : Nat) : UInt8 := [0x02, 0x09, 0x41].getD i 0

/-- The letter is taken for the name. -/
theorem not_staysInside_overrunningName :
    ¬StaysInside overrunningName 2 (List.replicate 30 0) 29 := by
  intro h
  exact absurd (h.reads 2 (by decide)) (by decide)

end

end LinuxBle

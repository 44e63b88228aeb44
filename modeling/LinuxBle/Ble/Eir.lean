import LinuxBle.Ble.Basic

/-!
# `eir_parse_name`

Advertising data is a sequence of structures: a length byte, which does not count itself, a
type byte and a payload. The parser walks them and copies the payload of the first name.
`eir` is the memory at the pointer, which goes on after `eir_len` bytes.
-/

namespace LinuxBle

abbrev eirNameShort : UInt8 := 0x08
abbrev eirNameComplete : UInt8 := 0x09

/-- `memcpy(output_name, src, n)` -/
def memcpyName (outputName : List UInt8) (src : Nat → UInt8) (n : Nat) : List UInt8 :=
  (List.range n).map src ++ outputName.drop n

section

variable (eir : Nat → UInt8) (eirLen : Nat) (outputName : List UInt8) (outputNameLen : Nat)

/--
`while (index < eir_len)`, from `index` on.

Each round moves `index` forward, so `eir_len` rounds are enough (`eirLoop_eq`).
-/
def eirLoop : Nat → Nat → Int × List UInt8
  | 0, _ => (-1, outputName)
  | fuel + 1, index =>
    if index < eirLen then
      let fieldLen := (eir index).toNat
      if fieldLen = 0 ∨ index + fieldLen > eirLen then (-1, outputName)
      else if eir (index + 1) = eirNameShort ∨ eir (index + 1) = eirNameComplete then
        let nameLen := fieldLen - 1
        if nameLen > outputNameLen then (-1, outputName)
        else (0, memcpyName outputName (fun i => eir (index + 2 + i)) nameLen)
      else eirLoop fuel (index + (fieldLen + 1))
    else (-1, outputName)

/-- `eir_parse_name`: what it returns, and `output_name` afterwards. -/
def eirParseName : Int × List UInt8 := eirLoop eir eirLen outputName outputNameLen eirLen 0

/-- The offsets that the loop reads, from `index` on. -/
def eirReadsLoop : Nat → Nat → List Nat
  | 0, _ => []
  | fuel + 1, index =>
    if index < eirLen then
      let fieldLen := (eir index).toNat
      if fieldLen = 0 ∨ index + fieldLen > eirLen then [index]
      else
        [index, index + 1] ++
          if eir (index + 1) = eirNameShort ∨ eir (index + 1) = eirNameComplete then
            if fieldLen - 1 > outputNameLen then []
            else (List.range (fieldLen - 1)).map (index + 2 + ·)
          else eirReadsLoop fuel (index + (fieldLen + 1))
    else []

/-- The offsets that `eir_parse_name` reads. -/
def eirReads : List Nat := eirReadsLoop eir eirLen outputNameLen eirLen 0

variable {eir eirLen outputName outputNameLen}

/-- Once there is fuel for the rest of the input, more fuel changes nothing. -/
theorem eirLoop_fuel : ∀ (fuel fuel' index : Nat), eirLen ≤ index + fuel → eirLen ≤ index + fuel' →
    eirLoop eir eirLen outputName outputNameLen fuel index =
      eirLoop eir eirLen outputName outputNameLen fuel' index
  | 0, 0, _, _, _ => rfl
  | 0, fuel' + 1, index, h, _ => by
    rw [eirLoop, eirLoop, if_neg (by omega)]
  | fuel + 1, 0, index, _, h => by
    rw [eirLoop, eirLoop, if_neg (by omega)]
  | fuel + 1, fuel' + 1, index, h, h' => by
    have ih := eirLoop_fuel fuel fuel' (index + ((eir index).toNat + 1)) (by omega) (by omega)
    simp only [eirLoop, ih]

/-- **The loop is the `while` loop of the source**: with fuel left, one more round unfolds. -/
theorem eirLoop_eq {fuel index : Nat} (h : eirLen ≤ index + fuel) :
    eirLoop eir eirLen outputName outputNameLen fuel index =
      if index < eirLen then
        let fieldLen := (eir index).toNat
        if fieldLen = 0 ∨ index + fieldLen > eirLen then (-1, outputName)
        else if eir (index + 1) = eirNameShort ∨ eir (index + 1) = eirNameComplete then
          if fieldLen - 1 > outputNameLen then (-1, outputName)
          else (0, memcpyName outputName (fun i => eir (index + 2 + i)) (fieldLen - 1))
        else eirLoop eir eirLen outputName outputNameLen fuel (index + (fieldLen + 1))
      else (-1, outputName) := by
  rw [eirLoop_fuel fuel (fuel + 1) index h (by omega), eirLoop]

/-! ## What the parser reads -/

/-- **At most one byte behind the input is read**: a field may end where the input does. -/
theorem eirReadsLoop_le : ∀ (fuel index : Nat),
    ∀ i ∈ eirReadsLoop eir eirLen outputNameLen fuel index, i ≤ eirLen
  | 0, _, i, hi => by simp [eirReadsLoop] at hi
  | fuel + 1, index, i, hi => by
    have ih := eirReadsLoop_le fuel (index + ((eir index).toNat + 1))
    rw [eirReadsLoop] at hi
    split at hi
    · next hlt =>
      simp only at hi
      split at hi
      · simp only [List.mem_singleton] at hi
        omega
      · next hfield =>
        simp only [List.cons_append, List.nil_append, List.mem_cons] at hi
        rcases hi with hi | hi | hi
        · omega
        · omega
        · split at hi
          · split at hi
            · cases hi
            · obtain ⟨j, hj, hi⟩ := List.mem_map.mp hi
              rw [List.mem_range] at hj
              omega
          · exact ih i hi
    · simp at hi

theorem eirReads_le : ∀ i ∈ eirReads eir eirLen outputNameLen, i ≤ eirLen :=
  eirReadsLoop_le eirLen 0

/-- Inputs that agree where the loop reads give the same result. -/
theorem eirLoop_congr {eir' : Nat → UInt8} : ∀ (fuel index : Nat),
    (∀ i ∈ eirReadsLoop eir eirLen outputNameLen fuel index, eir i = eir' i) →
    eirLoop eir eirLen outputName outputNameLen fuel index =
      eirLoop eir' eirLen outputName outputNameLen fuel index
  | 0, _, _ => rfl
  | fuel + 1, index, h => by
    rw [eirReadsLoop] at h
    rw [eirLoop, eirLoop]
    split at h
    · next hlt =>
      rw [if_pos hlt, if_pos hlt]
      simp only at h ⊢
      split at h
      · next hfield =>
        rw [← h index (by simp), if_pos hfield, if_pos hfield]
      · next hfield =>
        have h0 : eir index = eir' index := h index (by simp)
        have h1 : eir (index + 1) = eir' (index + 1) := h (index + 1) (by simp)
        have hrest := fun i hi => h i (List.mem_append_right _ hi)
        rw [← h0, ← h1, if_neg hfield, if_neg hfield]
        split at hrest
        · next hname =>
          rw [if_pos hname, if_pos hname]
          split at hrest
          · next hcap => rw [if_pos hcap, if_pos hcap]
          · next hcap =>
            rw [if_neg hcap, if_neg hcap, Prod.mk.injEq]
            refine ⟨rfl, ?_⟩
            unfold memcpyName
            rw [List.map_congr_left fun j hj =>
              hrest (index + 2 + j) (List.mem_map.mpr ⟨j, hj, rfl⟩)]
        · next hname =>
          rw [if_neg hname, if_neg hname]
          exact eirLoop_congr fuel _ hrest
    · next hlt => rw [if_neg hlt, if_neg hlt]

/-- **What the parser does not read has no influence.** -/
theorem eirParseName_congr {eir' : Nat → UInt8}
    (h : ∀ i ∈ eirReads eir eirLen outputNameLen, eir i = eir' i) :
    eirParseName eir eirLen outputName outputNameLen =
      eirParseName eir' eirLen outputName outputNameLen :=
  eirLoop_congr eirLen 0 h

end

end LinuxBle

import Mathlib.Data.List.Induction
import LinuxBle.Ble.Scan
import LinuxBle.Properties.Eir

/-!
# The round trip of advertising data

* `eirParseName_paddedBytes` — well-formed data gives back its first name
* `Packet.name_terminated` — the name buffer of the scanner stays terminated

The structures before the first name are passed over one by one, so the index is always at the
beginning of a structure (`eirField_length_adBytes`), whatever the payloads contain.
-/

namespace LinuxBle

/-! ## Advertising data -/

/-- A structure of advertising data. Its length byte counts the type and the payload. -/
structure AdStructure where
  type : UInt8
  payload : List UInt8
  length_le : payload.length ≤ 254
  deriving DecidableEq

namespace AdStructure

/-- The length byte. -/
def lengthByte (ad : AdStructure) : UInt8 := UInt8.ofNat (ad.payload.length + 1)

def bytes (ad : AdStructure) : List UInt8 := ad.lengthByte :: ad.type :: ad.payload

theorem toNat_lengthByte (ad : AdStructure) : ad.lengthByte.toNat = ad.payload.length + 1 := by
  have h := ad.length_le
  unfold lengthByte
  rw [UInt8.toNat_ofNat', Nat.mod_eq_of_lt (by omega)]

theorem length_bytes (ad : AdStructure) : ad.bytes.length = ad.payload.length + 2 := rfl

end AdStructure

/-- The structures one behind the other. -/
def adBytes (ads : List AdStructure) : List UInt8 := ads.flatMap AdStructure.bytes

@[simp] theorem adBytes_nil : adBytes [] = [] := rfl

@[simp] theorem adBytes_append (ads ads' : List AdStructure) :
    adBytes (ads ++ ads') = adBytes ads ++ adBytes ads' :=
  List.flatMap_append

@[simp] theorem adBytes_cons (ad : AdStructure) (ads : List AdStructure) :
    adBytes (ad :: ads) = ad.bytes ++ adBytes ads :=
  List.flatMap_cons

/-- The first structure with the type of a name. -/
def firstName (ads : List AdStructure) : Option AdStructure := ads.find? fun ad => IsName ad.type

/-- What a parser makes of the structures: the payload of the first name, if there is room. -/
def parsedName (ads : List AdStructure) (outputName : List UInt8) (outputNameLen : Nat) :
    Int × List UInt8 :=
  match firstName ads with
  | none => (-1, outputName)
  | some ad =>
    if ad.payload.length ≤ outputNameLen then
      (0, ad.payload ++ outputName.drop ad.payload.length)
    else (-1, outputName)

/-! ## The data in memory -/

/-- The memory at a pointer to `bytes`. -/
def memoryOf (bytes : List UInt8) (behind : Nat → UInt8) (i : Nat) : UInt8 :=
  if i < bytes.length then bytes.getD i 0 else behind (i - bytes.length)

section

variable {behind : Nat → UInt8} {outputName : List UInt8} {outputNameLen : Nat}

theorem memoryOf_append (bytes bytes' : List UInt8) (i : Nat) :
    memoryOf (bytes ++ bytes') behind (bytes.length + i) = memoryOf bytes' behind i := by
  unfold memoryOf
  rw [List.length_append]
  by_cases h : i < bytes'.length
  · rw [if_pos (by omega), if_pos h, List.getD_eq_getElem?_getD,
      List.getElem?_append_right (by omega), Nat.add_sub_cancel_left, List.getD_eq_getElem?_getD]
  · rw [if_neg (by omega), if_neg h]
    congr 1
    omega

theorem memoryOf_cons_zero (b : UInt8) (bytes : List UInt8) :
    memoryOf (b :: bytes) behind 0 = b := rfl

theorem memoryOf_cons_succ (b : UInt8) (bytes : List UInt8) (i : Nat) :
    memoryOf (b :: bytes) behind (i + 1) = memoryOf bytes behind i :=
  Nat.add_comm 1 i ▸ memoryOf_append [b] bytes i

/-- The list itself, read from memory. -/
theorem map_memoryOf : ∀ bytes rest : List UInt8,
    (List.range bytes.length).map (memoryOf (bytes ++ rest) behind) = bytes
  | [], _ => rfl
  | b :: bytes, rest => by
    rw [List.length_cons, List.range_succ_eq_map, List.map_cons, List.map_map, List.cons_append,
      memoryOf_cons_zero]
    congr 1
    calc (List.range bytes.length).map (memoryOf (b :: (bytes ++ rest)) behind ∘ Nat.succ)
        = (List.range bytes.length).map (memoryOf (bytes ++ rest) behind) :=
          List.map_congr_left fun i _ => memoryOf_cons_succ b (bytes ++ rest) i
      _ = bytes := map_memoryOf bytes rest

/-! ## One structure -/

variable (before rest : List UInt8) (ad : AdStructure)

theorem memoryOf_lengthByte :
    memoryOf (before ++ (ad.bytes ++ rest)) behind before.length = ad.lengthByte :=
  memoryOf_append before _ 0

theorem memoryOf_type :
    memoryOf (before ++ (ad.bytes ++ rest)) behind (before.length + 1) = ad.type :=
  memoryOf_append before _ 1

theorem map_memoryOf_payload :
    (List.range ad.payload.length).map (fun i =>
      memoryOf (before ++ (ad.bytes ++ rest)) behind (before.length + 2 + i)) = ad.payload := by
  calc (List.range ad.payload.length).map (fun i =>
        memoryOf (before ++ (ad.bytes ++ rest)) behind (before.length + 2 + i))
      = (List.range ad.payload.length).map (memoryOf (ad.payload ++ rest) behind) := by
        refine List.map_congr_left fun i _ => ?_
        rw [Nat.add_assoc, memoryOf_append, Nat.add_comm 2 i]
        unfold AdStructure.bytes
        rw [List.cons_append, List.cons_append, memoryOf_cons_succ, memoryOf_cons_succ]
    _ = ad.payload := map_memoryOf ad.payload rest

/-! ## The structures before the name -/

variable {before rest ad}

/-- **The parser comes to the end of structures without a name.** -/
theorem eirField_length_adBytes (behind : Nat → UInt8) (ads : List AdStructure)
    (h : ∀ ad ∈ ads, ¬IsName ad.type) (rest : List UInt8) :
    EirField (memoryOf (adBytes ads ++ rest) behind) (adBytes ads ++ rest).length
      (adBytes ads).length := by
  induction ads using List.reverseRecOn generalizing rest with
  | nil => exact .first
  | append_singleton ads ad ih =>
    have hrest := ih (fun ad' h' => h ad' (List.mem_append_left _ h')) (ad.bytes ++ rest)
    have hbytes : adBytes (ads ++ [ad]) ++ rest =
        adBytes ads ++ (ad.bytes ++ rest) := by
      simp
    have hlen : (adBytes (ads ++ [ad])).length =
        (adBytes ads).length + (ad.lengthByte.toNat + 1) := by
      simp [ad.toNat_lengthByte, ad.length_bytes]
    rw [hbytes, hlen]
    have hzero : ad.lengthByte ≠ 0 := fun he => by
      have := ad.toNat_lengthByte
      rw [he] at this
      cases this
    have hnext := hrest.next (by rw [memoryOf_lengthByte]; exact hzero)
      (by
        rw [memoryOf_lengthByte, ad.toNat_lengthByte, List.length_append, List.length_append,
          ad.length_bytes]
        omega)
      (by
        rw [memoryOf_type]
        exact h ad (List.mem_append_right _ List.mem_cons_self))
    rw [memoryOf_lengthByte] at hnext
    exact hnext

/-! ## The whole data -/

/-- The structures, and `n` bytes of padding. -/
def paddedBytes (ads : List AdStructure) (n : Nat) : List UInt8 :=
  adBytes ads ++ List.replicate n 0

/-- Padding ends the parse, and so does the end of the input. -/
theorem eirParseName_of_firstName_eq_none {ads : List AdStructure} (h : firstName ads = none)
    (n : Nat) :
    eirParseName (memoryOf (paddedBytes ads n) behind) (paddedBytes ads n).length outputName
      outputNameLen = (-1, outputName) := by
  have hnone : ∀ ad ∈ ads, ¬IsName ad.type := by simpa [firstName] using h
  obtain ⟨fuel, hfuel, hloop, -⟩ :=
    (eirField_length_adBytes behind ads hnone (List.replicate n 0)).reached outputName
      outputNameLen
  unfold paddedBytes
  rw [hloop]
  cases n with
  | zero => exact eirLoop_of_le (by simp)
  | succ n =>
    have hzero : memoryOf (adBytes ads ++ List.replicate (n + 1) 0) behind (adBytes ads).length =
        0 := memoryOf_append (adBytes ads) _ 0
    rw [eirLoop_eq hfuel, if_pos (by simp)]
    simp only
    rw [if_pos (Or.inl (toNat_eq_zero_iff.mpr hzero))]

/-- The first name ends the parse. -/
theorem eirParseName_of_firstName_eq_some {ads : List AdStructure} {ad : AdStructure}
    (h : firstName ads = some ad) (n : Nat) :
    eirParseName (memoryOf (paddedBytes ads n) behind) (paddedBytes ads n).length outputName
      outputNameLen =
        if ad.payload.length ≤ outputNameLen then
          (0, ad.payload ++ outputName.drop ad.payload.length)
        else (-1, outputName) := by
  obtain ⟨hname, before, after, hads, hbefore⟩ := List.find?_eq_some_iff_append.mp h
  have htype : ad.type = eirNameShort ∨ ad.type = eirNameComplete := of_decide_eq_true hname
  have hnone : ∀ ad ∈ before, ¬IsName ad.type := fun ad had => by simpa using hbefore ad had
  have hbytes : paddedBytes ads n =
      adBytes before ++ (ad.bytes ++ (adBytes after ++ List.replicate n 0)) := by
    simp [paddedBytes, hads]
  have hlen : (paddedBytes ads n).length =
      (adBytes before).length + (ad.payload.length + 2 + (adBytes after).length + n) := by
    rw [hbytes]
    simp only [List.length_append, ad.length_bytes, List.length_replicate]
    omega
  obtain ⟨fuel, hfuel, hloop, -⟩ :=
    (eirField_length_adBytes behind before hnone
      (ad.bytes ++ (adBytes after ++ List.replicate n 0))).reached outputName outputNameLen
  rw [← hbytes] at hfuel hloop
  rw [hloop, eirLoop_eq hfuel, if_pos (by omega)]
  simp only
  rw [hbytes, memoryOf_lengthByte, memoryOf_type, ad.toNat_lengthByte, ← hbytes,
    if_neg (by omega), if_pos htype, Nat.add_sub_cancel]
  by_cases hfits : ad.payload.length ≤ outputNameLen
  · rw [if_neg (by omega), if_pos hfits, memcpyName, hbytes, map_memoryOf_payload]
  · rw [if_pos (by omega), if_neg hfits]

/-- **Well-formed data gives back its first name.** -/
theorem eirParseName_paddedBytes (ads : List AdStructure) (n : Nat) (behind : Nat → UInt8)
    (outputName : List UInt8) (outputNameLen : Nat) :
    eirParseName (memoryOf (paddedBytes ads n) behind) (paddedBytes ads n).length outputName
      outputNameLen = parsedName ads outputName outputNameLen := by
  unfold parsedName
  cases h : firstName ads with
  | none => exact eirParseName_of_firstName_eq_none h n
  | some ad => exact eirParseName_of_firstName_eq_some h n

/-! ## The scanner -/

/-- A name is two bytes shorter than its structure. -/
theorem length_payload_of_firstName {ads : List AdStructure} {ad : AdStructure}
    (h : firstName ads = some ad) (n : Nat) :
    ad.payload.length + 2 ≤ (paddedBytes ads n).length := by
  obtain ⟨-, before, after, rfl, -⟩ := List.find?_eq_some_iff_append.mp h
  simp only [paddedBytes, adBytes_append, adBytes_cons, List.length_append, ad.length_bytes]
  omega

/-- A legacy advertisement has no name that is too long for the scanner. -/
theorem parsedName_of_length_le {ads : List AdStructure} {ad : AdStructure} {n : Nat}
    (h : firstName ads = some ad) (hlen : (paddedBytes ads n).length ≤ 31) :
    parsedName ads (List.replicate bleNameSize 0) (bleNameSize - 1) =
      (0, ad.payload ++ List.replicate (bleNameSize - ad.payload.length) 0) := by
  have hle := length_payload_of_firstName h n
  have hfits : ad.payload.length ≤ bleNameSize - 1 := by
    show ad.payload.length ≤ 29
    omega
  rw [parsedName, h]
  simp only
  rw [if_pos hfits, List.drop_replicate]

/-- **The name buffer of the scanner stays terminated.** -/
theorem Packet.name_terminated (p : Packet) :
    p.name.length = bleNameSize ∧ p.name.getLast? = some 0 := by
  unfold Packet.name
  rcases eirParseName_cases (fun i => p.buf (advDataOffset + i)) p.dataLen
    (List.replicate bleNameSize 0) (bleNameSize - 1) with ⟨index, hfound⟩ | hfail
  · have hfits : (p.buf (advDataOffset + index)).toNat - 1 ≤ 29 := hfound.fits
    have hrest : bleNameSize - ((p.buf (advDataOffset + index)).toNat - 1) ≠ 0 := by
      show 30 - ((p.buf (advDataOffset + index)).toNat - 1) ≠ 0
      omega
    rw [hfound.res]
    simp only [memcpyName, List.drop_replicate]
    constructor
    · rw [List.length_append, List.length_map, List.length_range, List.length_replicate]
      show _ = 30
      have : bleNameSize = 30 := rfl
      omega
    · rw [List.getLast?_append, List.getLast?_replicate, if_neg hrest]
      rfl
  · rw [hfail]
    exact ⟨List.length_replicate, rfl⟩

/--
**The round trip of advertising data.**

The parser gives back the first name, or leaves the output alone when there is none or no room;
the name of a legacy advertisement always fits; and the scanner's buffer ends in a zero byte.
-/
theorem eirParseName_roundtrip :
    (∀ ads n behind outputName outputNameLen,
      eirParseName (memoryOf (paddedBytes ads n) behind) (paddedBytes ads n).length outputName
        outputNameLen = parsedName ads outputName outputNameLen) ∧
    (∀ ads ad n behind, firstName ads = some ad → (paddedBytes ads n).length ≤ 31 →
      eirParseName (memoryOf (paddedBytes ads n) behind) (paddedBytes ads n).length
        (List.replicate bleNameSize 0) (bleNameSize - 1) =
          (0, ad.payload ++ List.replicate (bleNameSize - ad.payload.length) 0)) ∧
    ∀ p : Packet, p.name.length = bleNameSize ∧ p.name.getLast? = some 0 := by
  refine ⟨eirParseName_paddedBytes, fun ads ad n behind h hlen => ?_, Packet.name_terminated⟩
  rw [eirParseName_paddedBytes, parsedName_of_length_le h hlen]

/-- Flags, a short name that looks like a header, and another name. -/
def twoNames : List AdStructure :=
  [⟨0x01, [0x06], by decide⟩, ⟨eirNameShort, [0x03, 0x09], by decide⟩,
    ⟨eirNameComplete, [0x41], by decide⟩]

/-- With padding, and other bytes behind: the short name is found. -/
theorem eirParseName_twoNames :
    eirParseName (memoryOf (paddedBytes twoNames 3) fun _ => 0xFF) (paddedBytes twoNames 3).length
      (List.replicate bleNameSize 0) (bleNameSize - 1) =
        (0, [0x03, 0x09] ++ List.replicate 28 0) :=
  eirParseName_roundtrip.2.1 twoNames ⟨eirNameShort, [0x03, 0x09], by decide⟩ 3 _ rfl (by decide)

end

end LinuxBle

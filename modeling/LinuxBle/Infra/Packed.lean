import Mathlib.Logic.Equiv.Defs
import LinuxBle.Infra.Codec

/-!
# Packed structs

A `Packed` format has values of one size, and any bytes of that size are a value. They are put
together from bytes by `pair`, `array` and `map`.

* `Packed.read_encode_append` — what was written is read back, whatever follows
* `Packed.encode_read` — what was read is what was there
-/

namespace Infra

universe u

/-- A format with values of one size, in which any bytes of that size are a value. -/
structure Packed (α : Type u) extends Codec α where
  size : Nat
  length_encode : ∀ a, (encode a).length = size
  decode_of_le : ∀ {bytes}, size ≤ bytes.length → ∃ a, decode bytes = some (a, bytes.drop size)

namespace Packed

variable {α β : Type u}

/-- Nothing at all. -/
def nothing : Packed Unit where
  encode _ := []
  decode bytes := some ((), bytes)
  decode_encode _ _ := rfl
  encode_decode h := by
    cases h
    rfl
  size := 0
  length_encode _ := rfl
  decode_of_le _ := ⟨(), rfl⟩

/-- One byte. -/
def byte : Packed UInt8 where
  toCodec := Codec.byte
  size := 1
  length_encode _ := rfl
  decode_of_le {bytes} h := by
    cases bytes with
    | nil => cases h
    | cons b bytes => exact ⟨b, rfl⟩

/-- One value behind the other. -/
def pair (c : Packed α) (d : Packed β) : Packed (α × β) where
  toCodec := c.toCodec.pair d.toCodec
  size := c.size + d.size
  length_encode ab := by
    show (c.encode ab.1 ++ d.encode ab.2).length = _
    rw [List.length_append, c.length_encode, d.length_encode]
  decode_of_le {bytes} h := by
    obtain ⟨a, ha⟩ := c.decode_of_le (Nat.le_of_add_right_le h)
    have hd : d.size ≤ (bytes.drop c.size).length := by
      rw [List.length_drop]
      omega
    obtain ⟨b, hb⟩ := d.decode_of_le hd
    refine ⟨(a, b), ?_⟩
    rw [List.drop_drop] at hb
    show (do
      let (a, bytes) ← c.decode bytes
      let (b, bytes) ← d.decode bytes
      pure ((a, b), bytes)) = _
    rw [ha]
    simp [hb]

/-- Another name for the values. -/
def map (c : Packed α) (e : α ≃ β) : Packed β where
  encode b := c.encode (e.symm b)
  decode bytes := (c.decode bytes).map fun (a, rest) => (e a, rest)
  decode_encode b rest := by
    rw [c.decode_encode, Option.map_some]
    exact congrArg (fun b => some (b, rest)) (e.apply_symm_apply b)
  encode_decode {bytes b rest} h := by
    obtain ⟨⟨a, rest'⟩, ha, heq⟩ := Option.map_eq_some_iff.mp h
    cases heq
    rw [e.symm_apply_apply]
    exact c.encode_decode ha
  size := c.size
  length_encode b := c.length_encode _
  decode_of_le h := by
    obtain ⟨a, ha⟩ := c.decode_of_le h
    exact ⟨e a, by rw [ha, Option.map_some]⟩

/-- `n` bytes. -/
def array (n : Nat) : Packed (Vector UInt8 n) where
  encode v := v.toList
  decode bytes :=
    if h : n ≤ bytes.length then
      some (⟨(bytes.take n).toArray, by simp [Nat.min_eq_left h]⟩, bytes.drop n)
    else none
  decode_encode v rest := by
    rw [dif_pos (by simp)]
    simp [Vector.toList]
  encode_decode {bytes v rest} h := by
    split at h
    · cases h
      simp
    · cases h
  size := n
  length_encode v := v.length_toList
  decode_of_le h := ⟨_, dif_pos h⟩

/-! ## Reading -/

/-- The value at the front. -/
def read (c : Packed α) (bytes : List UInt8) : Option α := (c.decode bytes).map Prod.fst

variable {c : Packed α} {bytes : List UInt8} {a : α}

/-- **What was written is read back**, whatever follows. -/
@[simp] theorem read_encode_append (a : α) (rest : List UInt8) :
    c.read (c.encode a ++ rest) = some a := by
  rw [read, c.decode_encode, Option.map_some]

/-- Enough bytes are a value. -/
theorem read_of_le (c : Packed α) {bytes : List UInt8} (h : c.size ≤ bytes.length) :
    ∃ a, c.read bytes = some a := by
  obtain ⟨a, ha⟩ := c.decode_of_le h
  exact ⟨a, by rw [read, ha, Option.map_some]⟩

/-- **What was read is what was there.** -/
theorem encode_read (h : c.read bytes = some a) : c.encode a = bytes.take c.size := by
  obtain ⟨⟨a', rest⟩, ha, rfl⟩ := Option.map_eq_some_iff.mp h
  rw [c.encode_decode ha, List.take_left' (c.length_encode _)]

end Packed

end Infra

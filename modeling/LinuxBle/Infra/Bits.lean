import Mathlib.Data.Set.Insert
import Mathlib.Data.Set.Lattice

/-!
# Words as sets

A word of `w` bits is a set of numbers below `w`. Setting and clearing one bit are insertion and
removal.

* `bits_or_shiftLeft`, `bits_and_not_shiftLeft` — one bit on, one bit off
-/

namespace Infra

variable {w : Nat} {m : BitVec w}

/-- The bits that are on. -/
def bits (m : BitVec w) : Set (Fin w) := {i | m.getLsbD i = true}

theorem mem_bits {i : Fin w} : i ∈ bits m ↔ m.getLsbD i = true := Iff.rfl

@[simp] theorem bits_zero : bits (0#w) = ∅ := by
  ext i
  simp [mem_bits]

@[simp] theorem bits_allOnes : bits (BitVec.allOnes w) = Set.univ := by
  ext i
  simp [mem_bits]

/-- The word with one bit. -/
theorem getLsbD_one_shiftLeft (k i : Fin w) : (1#w <<< k.val).getLsbD i = decide (i = k) := by
  rw [← BitVec.twoPow_eq, BitVec.getLsbD_twoPow]
  simp [Fin.ext_iff, eq_comm]

/-- **Switching a bit on is insertion.** -/
theorem bits_or_shiftLeft (k : Fin w) : bits (m ||| 1#w <<< k.val) = insert k (bits m) := by
  ext i
  rw [mem_bits, BitVec.getLsbD_or, getLsbD_one_shiftLeft, Set.mem_insert_iff, mem_bits,
    Bool.or_eq_true, decide_eq_true_eq, or_comm]

/-- **Switching a bit off is removal.** -/
theorem bits_and_not_shiftLeft (k : Fin w) : bits (m &&& ~~~(1#w <<< k.val)) = bits m \ {k} := by
  ext i
  rw [mem_bits, BitVec.getLsbD_and, BitVec.getLsbD_not, getLsbD_one_shiftLeft, Set.mem_sdiff,
    Set.mem_singleton_iff, mem_bits]
  simp

end Infra

/-
Fields of bits in a word.

A field is written by clearing its bits with a mask and putting the new
ones in their place. `testBit_field` says which bit of the result comes
from where; what is known of fields is read off it.
-/
import Mathlib.Data.List.Basic
import Mathlib.Data.Nat.Bitwise

namespace Lib

/-- The bits of a word with a field written: inside the field those of
the new value, outside those of the word. -/
theorem testBit_field (width : Nat) {w x ones d : UInt32} (hones : ones.toNat = 2 ^ width - 1)
    (hpos : 0 < width) (hfits : d.toNat + width ≤ 32) (hx : x.toNat < 2 ^ width) {j : Nat}
    (hj : j < 32) :
    ((x <<< d) ||| (w &&& ~~~(ones <<< d))).toNat.testBit j
      = if d.toNat ≤ j ∧ j < d.toNat + width then x.toNat.testBit (j - d.toNat)
        else w.toNat.testBit j := by
  have hshift : d.toNat % 32 = d.toNat := Nat.mod_eq_of_lt (by omega)
  have hnot : (~~~(ones <<< d)).toNat = 2 ^ 32 - ((ones <<< d).toNat + 1) := by
    rw [UInt32.toNat_not, Nat.sub_sub, Nat.add_comm]
    rfl
  rw [UInt32.toNat_or, UInt32.toNat_and, hnot, Nat.testBit_or, Nat.testBit_and,
    Nat.testBit_two_pow_sub_succ (ones <<< d).toNat_lt, UInt32.toNat_shiftLeft,
    UInt32.toNat_shiftLeft, hshift, hones, Nat.testBit_mod_two_pow, Nat.testBit_mod_two_pow,
    Nat.testBit_shiftLeft,
    Nat.testBit_shiftLeft, Nat.testBit_two_pow_sub_one]
  by_cases hlow : d.toNat ≤ j
  · by_cases hhigh : j < d.toNat + width
    · have hin : j - d.toNat < width := by omega
      simp [hj, hlow, hhigh, hin]
    · have hout : ¬j - d.toNat < width := by omega
      have hzero : x.toNat.testBit (j - d.toNat) = false :=
        Nat.testBit_lt_two_pow (Nat.lt_of_lt_of_le hx (Nat.pow_le_pow_right (by decide) (by omega)))
      simp [hj, hlow, hhigh, hout, hzero]
  · simp [hj, hlow]

/-- A word is its bits. -/
theorem word_ext {w v : UInt32} (h : ∀ j < 32, w.toNat.testBit j = v.toNat.testBit j) : w = v := by
  rw [← UInt32.toNat_inj]
  refine Nat.eq_of_testBit_eq fun j => ?_
  by_cases hj : j < 32
  · exact h j hj
  · have hpow : 2 ^ 32 ≤ 2 ^ j := Nat.pow_le_pow_right (by decide) (by omega)
    rw [Nat.testBit_lt_two_pow (Nat.lt_of_lt_of_le w.toNat_lt hpow),
      Nat.testBit_lt_two_pow (Nat.lt_of_lt_of_le v.toNat_lt hpow)]

end Lib

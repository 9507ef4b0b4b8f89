/-
CRC registers, bit by bit and byte by byte.

A reflected CRC moves its register down one bit at a time and folds the
polynomial in when a one falls out. That step is linear, so eight of
them act on the low byte and on the rest apart, and the rest only moves
down: a table of what becomes of the 256 low bytes replaces the eight
steps (`steps_eight`).
-/
import Mathlib.Algebra.Group.Nat.Defs
import Mathlib.Logic.Function.Iterate

namespace Lib.Crc

/-- One bit step with a polynomial. -/
def step (poly c : UInt32) : UInt32 := if c &&& 1 = 1 then (c >>> 1) ^^^ poly else c >>> 1

variable {poly : UInt32}

theorem and_one_iff (c : UInt32) : c &&& 1 = 1 ↔ c.toNat % 2 = 1 := by
  rw [← UInt32.toNat_inj, UInt32.toNat_and]
  show c.toNat &&& 1 = 1 ↔ _
  rw [Nat.and_one_is_mod]

/-- The step is linear. -/
theorem step_xor (a b : UInt32) : step poly (a ^^^ b) = step poly a ^^^ step poly b := by
  have hlow : (a ^^^ b) &&& 1 = 1 ↔ (a.toNat + b.toNat) % 2 = 1 := by
    rw [and_one_iff, UInt32.toNat_xor, Nat.xor_mod_two_eq_one]
    omega
  unfold step
  simp only [hlow, and_one_iff, UInt32.shiftRight_xor]
  -- one fell out of both, of neither, or of one of them
  rcases Nat.mod_two_eq_zero_or_one a.toNat with ha | ha <;>
    rcases Nat.mod_two_eq_zero_or_one b.toNat with hb | hb
  · rw [if_neg (by omega), if_neg (by omega), if_neg (by omega)]
  · rw [if_pos (by omega), if_neg (by omega), if_pos (by omega), UInt32.xor_assoc]
  · rw [if_pos (by omega), if_pos (by omega), if_neg (by omega), UInt32.xor_assoc, UInt32.xor_assoc,
      UInt32.xor_comm poly]
  · rw [if_neg (by omega), if_pos (by omega), if_pos (by omega), UInt32.xor_assoc,
      UInt32.xor_comm poly, UInt32.xor_assoc (b >>> 1), UInt32.xor_self, UInt32.xor_zero]

theorem steps_xor (n : Nat) (a b : UInt32) :
    (step poly)^[n] (a ^^^ b) = (step poly)^[n] a ^^^ (step poly)^[n] b := by
  induction n generalizing a b with
  | zero => rfl
  | succ n ih =>
      rw [Function.iterate_succ_apply, Function.iterate_succ_apply, Function.iterate_succ_apply,
        step_xor, ih]

/-- While no one falls out, the register only moves down. -/
theorem steps_of_low_zero {n : Nat} {c : UInt32} (h : 2 ^ n ∣ c.toNat) :
    ((step poly)^[n] c).toNat = c.toNat / 2 ^ n := by
  induction n generalizing c with
  | zero => simp
  | succ n ih =>
      obtain ⟨k, hk⟩ := h
      have hhalf : c.toNat / 2 = 2 ^ n * k := by
        rw [hk, Nat.pow_succ, Nat.mul_comm (2 ^ n) 2, Nat.mul_assoc, Nat.mul_div_cancel_left _
          (by omega)]
      have hstep : (step poly c).toNat = c.toNat / 2 := by
        unfold step
        rw [if_neg]
        · rw [UInt32.toNat_shiftRight]
          show c.toNat >>> 1 = _
          rw [Nat.shiftRight_eq_div_pow]
        · rw [and_one_iff, hk, Nat.pow_succ, Nat.mul_comm (2 ^ n) 2, Nat.mul_assoc]
          omega
      rw [Function.iterate_succ_apply, ih ⟨k, by rw [hstep, hhalf]⟩, hstep, Nat.div_div_eq_div_mul,
        Nat.pow_succ, Nat.mul_comm 2]

/-- A register is its low byte and the rest. -/
theorem split_low (x : UInt32) :
    x = (x &&& (0xFF : UInt32)) ^^^ ((x >>> (8 : UInt32)) <<< (8 : UInt32)) := by
  apply UInt32.toNat_inj.1
  apply Nat.eq_of_testBit_eq
  intro i
  rw [UInt32.toNat_xor, UInt32.toNat_and, UInt32.toNat_shiftLeft, UInt32.toNat_shiftRight]
  show x.toNat.testBit i = ((x.toNat &&& (2 ^ 8 - 1)) ^^^ (x.toNat >>> 8) <<< 8 % 2 ^ 32).testBit i
  rw [Nat.testBit_xor, Nat.testBit_and, Nat.testBit_two_pow_sub_one, Nat.testBit_mod_two_pow,
    Nat.testBit_shiftLeft, Nat.testBit_shiftRight]
  by_cases hi : i < 8
  · simp [hi, Nat.not_le.2 hi]
  · have hge : 8 ≤ i := Nat.not_lt.1 hi
    by_cases htop : i < 32
    · simp [hi, hge, htop]
    · have hbit : x.toNat.testBit i = false := by
        apply Nat.testBit_lt_two_pow
        exact Nat.lt_of_lt_of_le x.toNat_lt (Nat.pow_le_pow_right (by omega) (Nat.not_lt.1 htop))
      simp [hi, htop, hbit]

/-- Eight steps: the table's entry for the low byte, and the rest moved
down. -/
theorem steps_eight (x : UInt32) :
    (step poly)^[8] x = (step poly)^[8] (x &&& (0xFF : UInt32)) ^^^ (x >>> (8 : UInt32)) := by
  conv => lhs; rw [split_low x]
  rw [steps_xor]
  congr 1
  apply UInt32.toNat_inj.1
  have hrest : ((x >>> (8 : UInt32)) <<< (8 : UInt32)).toNat = 2 ^ 8 * (x.toNat / 2 ^ 8) := by
    rw [UInt32.toNat_shiftLeft, UInt32.toNat_shiftRight]
    show (x.toNat >>> 8) <<< 8 % 2 ^ 32 = _
    have hlt := x.toNat_lt
    rw [Nat.shiftRight_eq_div_pow, Nat.shiftLeft_eq]
    omega
  rw [steps_of_low_zero ⟨_, hrest⟩, hrest, Nat.mul_div_cancel_left _ (by omega),
    UInt32.toNat_shiftRight]
  show _ = x.toNat >>> 8
  rw [Nat.shiftRight_eq_div_pow]

end Lib.Crc

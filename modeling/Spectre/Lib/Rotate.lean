/-
Checksums that add a word and turn.

The register takes the next word by exclusive or and is turned by a
fixed distance. The step is additive in the register and the word
together and loses nothing of either. So two words that differ in one
place end in different registers (`sum_one_iff`).
-/
import Mathlib.Algebra.Group.Nat.Defs
import Mathlib.Data.List.Basic

namespace Lib.Rotate

/-- A 32-bit word turned to the left. -/
def left (x : UInt32) (n : Nat) : UInt32 := ⟨x.toBitVec.rotateLeft n⟩

/-- One step: the word joins the register, which is turned. -/
def step (n : Nat) (c w : UInt32) : UInt32 := left (c ^^^ w) n

/-- The register after a list of words. -/
def sum (n : Nat) (c : UInt32) (ws : List UInt32) : UInt32 := ws.foldl (step n) c

variable {n : Nat} {c d w v : UInt32} {ws vs : List UInt32}

@[simp] theorem sum_nil : sum n c [] = c := rfl

@[simp] theorem sum_cons : sum n c (w :: ws) = sum n (step n c w) ws := rfl

theorem sum_append (us : List UInt32) : sum n c (us ++ ws) = sum n (sum n c us) ws :=
  List.foldl_append

-- =================================================================== one turn

/-- Turning is additive. -/
theorem left_xor (x y : UInt32) (n : Nat) : left (x ^^^ y) n = left x n ^^^ left y n := by
  apply UInt32.toBitVec_inj.1
  apply BitVec.eq_of_getLsbD_eq
  intro i hi
  show ((x.toBitVec ^^^ y.toBitVec).rotateLeft n).getLsbD i
    = (x.toBitVec.rotateLeft n ^^^ y.toBitVec.rotateLeft n).getLsbD i
  rw [BitVec.getLsbD_xor, BitVec.getLsbD_rotateLeft, BitVec.getLsbD_rotateLeft,
    BitVec.getLsbD_rotateLeft]
  cases decide (i < n % 32) <;> simp [hi, BitVec.getLsbD_xor]

/-- Nothing is lost by turning: a bit is where the distance has put
it. -/
theorem left_eq_zero_iff (x : UInt32) (n : Nat) : left x n = 0 ↔ x = 0 := by
  constructor
  · intro h
    apply UInt32.toBitVec_inj.1
    apply BitVec.eq_of_getLsbD_eq
    intro i hi
    have hturned : ∀ j, (x.toBitVec.rotateLeft n).getLsbD j = false := by
      intro j
      rw [show x.toBitVec.rotateLeft n = 0 from congrArg UInt32.toBitVec h]
      exact BitVec.getLsbD_zero
    have hbit : x.toBitVec.getLsbD i = false := by
      -- bit `i` stands `n` further up, or has come round to the bottom
      by_cases hwrap : i + n % 32 < 32
      · have hi' := hturned (i + n % 32)
        have hup : ¬i + n % 32 < n % 32 := by omega
        rw [BitVec.getLsbD_rotateLeft, decide_eq_false hup] at hi'
        simpa [hwrap] using hi'
      · have hi' := hturned (i + n % 32 - 32)
        have hlow : i + n % 32 - 32 < n % 32 := by omega
        have hback : 32 - n % 32 + (i + n % 32 - 32) = i := by omega
        rw [BitVec.getLsbD_rotateLeft, decide_eq_true hlow, hback] at hi'
        exact hi'
    rw [hbit]
    exact BitVec.getLsbD_zero.symm
  · rintro rfl
    apply UInt32.toBitVec_inj.1
    apply BitVec.eq_of_getLsbD_eq
    intro i hi
    show ((0 : BitVec 32).rotateLeft n).getLsbD i = (0 : BitVec 32).getLsbD i
    rw [BitVec.getLsbD_rotateLeft]
    cases decide (i < n % 32) <;> simp

theorem xor_eq_zero_iff (x y : UInt32) : x ^^^ y = 0 ↔ x = y := by
  constructor
  · intro h
    have hy : x ^^^ y ^^^ y = 0 ^^^ y := congrArg (· ^^^ y) h
    rwa [UInt32.xor_assoc, UInt32.xor_self, UInt32.xor_zero, UInt32.zero_xor] at hy
  · rintro rfl
    exact UInt32.xor_self

theorem left_inj (x y : UInt32) (n : Nat) : left x n = left y n ↔ x = y := by
  rw [← xor_eq_zero_iff, ← left_xor, left_eq_zero_iff, xor_eq_zero_iff]

-- ================================================================ many words

/-- Nothing of the register is lost. -/
theorem step_left_inj : step n c w = step n d w ↔ c = d := by
  unfold step
  rw [left_inj, ← xor_eq_zero_iff]
  have hcancel : c ^^^ w ^^^ (d ^^^ w) = c ^^^ d := by
    rw [UInt32.xor_comm d, UInt32.xor_assoc, ← UInt32.xor_assoc w, UInt32.xor_self,
      UInt32.zero_xor]
  rw [hcancel, xor_eq_zero_iff]

/-- Nothing of the word is lost. -/
theorem step_right_inj : step n c w = step n c v ↔ w = v := by
  unfold step
  rw [UInt32.xor_comm c w, UInt32.xor_comm c v]
  exact step_left_inj (n := n) (c := w) (d := v) (w := c)

/-- Registers that differ stay different. -/
theorem sum_left_inj : sum n c ws = sum n d ws ↔ c = d := by
  induction ws generalizing c d with
  | nil => rfl
  | cons w ws ih => exact ih.trans step_left_inj

/-- Two lists of words with one place in which they differ. -/
theorem sum_one_iff (us : List UInt32) :
    sum n c (us ++ w :: ws) = sum n c (us ++ v :: ws) ↔ w = v := by
  rw [sum_append, sum_append, sum_cons, sum_cons, sum_left_inj, step_right_inj]

end Lib.Rotate

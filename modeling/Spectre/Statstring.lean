/-
The stat string of a map (`encode_statstring`, `decode_statstring` of
`bytes_ext.rs`).

The bytes travel in groups of seven behind a mask byte, and none of
them may be zero: an even byte is made odd by adding one, and a bit of
the mask says which bytes were odd to begin with. The lowest bit of the
mask is always set, so the mask is not zero either.
-/
import Mathlib.Data.Nat.Bitwise
import Mathlib.Tactic.Ring
import Spectre.Lib.Chunks
import Spectre.Replay

namespace Spectre

/-- `decode_statstring`. -/
def decodeStatstring (enc : List UInt8) : List UInt8 :=
  (enc.toChunks 8).flatMap fun chunk =>
    match chunk with
    | [] => []
    | mask :: data => data.zipIdx.map fun e =>
        if mask &&& ((1 : UInt8) <<< (e.2 + 1).toUInt8) = 0 then e.1 - 1 else e.1

-- ================================================================= one group

namespace Statstring

/-- The mask bits of a group, without the lowest: which of its bytes are
odd, the first in the lowest place. -/
def oddBits : List UInt8 → Nat
  | [] => 0
  | b :: rest => (if b % 2 = 0 then 0 else 1) + 2 * oddBits rest

/-- A byte on the wire. -/
def odd (b : UInt8) : UInt8 := if b % 2 = 0 then b + 1 else b

/-- A group on the wire. -/
def encodeGroup (chunk : List UInt8) : List UInt8 :=
  (1 + 2 * oddBits chunk).toUInt8 :: chunk.map odd

/-- What the decoder makes of a group. -/
def decodeGroup : List UInt8 → List UInt8
  | [] => []
  | mask :: data => data.zipIdx.map fun e =>
      if mask &&& ((1 : UInt8) <<< (e.2 + 1).toUInt8) = 0 then e.1 - 1 else e.1

theorem oddBits_lt (chunk : List UInt8) : oddBits chunk < 2 ^ chunk.length := by
  induction chunk with
  | nil => decide
  | cons b rest ih =>
      rw [oddBits, List.length_cons, Nat.pow_succ]
      split <;> omega

/-- A bit of the mask says whether its byte is odd. -/
theorem testBit_oddBits (chunk : List UInt8) {i : Nat} (hi : i < chunk.length) :
    (oddBits chunk).testBit i = !decide (chunk[i] % 2 = 0) := by
  induction chunk generalizing i with
  | nil => cases hi
  | cons b rest ih =>
      cases i with
      | zero =>
          rw [oddBits, List.getElem_cons_zero, Nat.testBit_zero]
          by_cases hb : b % 2 = 0 <;> simp [hb]
      | succ i =>
          have hhalf : oddBits (b :: rest) / 2 = oddBits rest := by
            rw [oddBits]
            split <;> omega
          rw [Nat.testBit_succ, hhalf, List.getElem_cons_succ]
          exact ih (Nat.lt_of_succ_lt_succ hi)

/-- The mask as the source accumulates it. -/
theorem foldl_mask (chunk : List UInt8) (m k : Nat) :
    (chunk.zipIdx k).foldl (fun m e => if e.1 % 2 = 0 then m else m + 2 ^ (e.2 + 1)) m
      = m + 2 ^ (k + 1) * oddBits chunk := by
  induction chunk generalizing m k with
  | nil => rfl
  | cons b rest ih =>
      rw [List.zipIdx_cons, List.foldl_cons, ih, oddBits]
      dsimp only
      by_cases hb : b % 2 = 0
      · rw [if_pos hb, if_pos hb, Nat.pow_succ 2 (k + 1)]
        ring
      · rw [if_neg hb, if_neg hb, Nat.pow_succ 2 (k + 1)]
        ring

/-- The encoder, group by group. -/
theorem encodeStatstring_eq (raw : List UInt8) :
    encodeStatstring raw = (raw.toChunks 7).flatMap encodeGroup := by
  unfold encodeStatstring
  congr 1
  funext chunk
  have hmask := foldl_mask chunk 1 0
  rw [zero_add, pow_one] at hmask
  rw [encodeGroup, ← hmask]
  rfl

/-- The decoder, group by group. -/
theorem decodeStatstring_eq (enc : List UInt8) :
    decodeStatstring enc = (enc.toChunks 8).flatMap decodeGroup := by
  unfold decodeStatstring
  congr 1

theorem mask_toNat {chunk : List UInt8} (h : chunk.length ≤ 7) :
    (1 + 2 * oddBits chunk).toUInt8.toNat = 1 + 2 * oddBits chunk := by
  have hlt := oddBits_lt chunk
  have hle : 2 ^ chunk.length ≤ 2 ^ 7 := Nat.pow_le_pow_right (by decide) h
  rw [Nat.toUInt8_eq, UInt8.toNat_ofNat']
  exact Nat.mod_eq_of_lt (by omega)

/-- The decoder's test of a mask bit. -/
theorem mask_clear_iff {chunk : List UInt8} (h : chunk.length ≤ 7) {i : Nat}
    (hi : i < chunk.length) :
    (1 + 2 * oddBits chunk).toUInt8 &&& ((1 : UInt8) <<< (i + 1).toUInt8) = 0
      ↔ chunk[i] % 2 = 0 := by
  have hplace : ((1 : UInt8) <<< (i + 1).toUInt8).toNat = 2 ^ (i + 1) := by
    have hi7 : i < 7 := Nat.lt_of_lt_of_le hi h
    have hall : ∀ j : Fin 7, ((1 : UInt8) <<< (j.1 + 1).toUInt8).toNat = 2 ^ (j.1 + 1) := by decide
    exact hall ⟨i, hi7⟩
  have hbit : (1 + 2 * oddBits chunk).testBit (i + 1) = (oddBits chunk).testBit i := by
    rw [Nat.testBit_succ]
    congr 1
    omega
  rw [← UInt8.toNat_inj, UInt8.toNat_and, mask_toNat h, hplace, Nat.and_two_pow, hbit,
    testBit_oddBits chunk hi]
  by_cases hb : chunk[i] % 2 = 0 <;> simp [hb]

/-- A byte comes back from the wire. -/
theorem odd_back (b : UInt8) : (if b % 2 = 0 then odd b - 1 else odd b) = b := by
  unfold odd
  by_cases hb : b % 2 = 0
  · rw [if_pos hb, if_pos hb]
    exact UInt8.add_sub_cancel b 1
  · rw [if_neg hb, if_neg hb]

/-- A byte on the wire is not zero. -/
theorem odd_ne_zero (b : UInt8) : odd b ≠ 0 := by
  unfold odd
  intro h
  split at h
  · rename_i hb
    have hlast : b = 255 := by
      rw [← UInt8.add_sub_cancel b 1, h]
      rfl
    rw [hlast] at hb
    exact absurd hb (by decide)
  · rename_i hb
    rw [h] at hb
    exact hb rfl

theorem decodeGroup_encodeGroup {chunk : List UInt8} (h : chunk.length ≤ 7) :
    decodeGroup (encodeGroup chunk) = chunk := by
  unfold encodeGroup decodeGroup
  refine List.ext_getElem (by simp) fun i hi hi' => ?_
  rw [List.getElem_map, List.getElem_zipIdx, List.getElem_map, Nat.zero_add]
  dsimp only
  rw [if_congr (mask_clear_iff h hi') rfl rfl]
  exact odd_back _

theorem length_encodeGroup (chunk : List UInt8) :
    (encodeGroup chunk).length = chunk.length + 1 := by
  rw [encodeGroup, List.length_cons, List.length_map]

theorem zero_notMem_encodeGroup {chunk : List UInt8} (h : chunk.length ≤ 7) :
    0 ∉ encodeGroup chunk := by
  rw [encodeGroup, List.mem_cons, not_or]
  refine ⟨fun hmask => ?_, fun hbyte => ?_⟩
  · have hzero := congrArg UInt8.toNat hmask
    rw [mask_toNat h] at hzero
    exact absurd hzero.symm (by rw [UInt8.toNat_zero]; omega)
  · obtain ⟨b, -, hb⟩ := List.mem_map.1 hbyte
    exact odd_ne_zero b hb

/-- The first group of an encoding, and the encoding of the rest. -/
theorem encodeStatstring_step {raw : List UInt8} (h : raw ≠ []) :
    encodeStatstring raw = encodeGroup (raw.take 7) ++ encodeStatstring (raw.drop 7) := by
  rw [encodeStatstring_eq, encodeStatstring_eq, Lib.toChunks_eq_cons (by decide) h,
    List.flatMap_cons]

theorem encodeStatstring_nil : encodeStatstring [] = [] := rfl

theorem decode_encode (raw : List UInt8) : decodeStatstring (encodeStatstring raw) = raw := by
  refine Lib.chunks_induction (P := fun raw => decodeStatstring (encodeStatstring raw) = raw)
    (n := 7) (by decide) rfl (fun raw hne ih => ?_) raw
  have hgroup : (raw.take 7).length ≤ 7 := List.length_take_le 7 raw
  rw [encodeStatstring_step hne, decodeStatstring_eq]
  by_cases hlong : 7 ≤ raw.length
  · have hfull : (encodeGroup (raw.take 7)).length = 8 := by
      rw [length_encodeGroup, List.length_take_of_le hlong]
    rw [Lib.toChunks_append (by decide) hfull, List.flatMap_cons, ← decodeStatstring_eq, ih,
      decodeGroup_encodeGroup hgroup, List.take_append_drop]
  · -- the last group is all there is
    have hrest : raw.drop 7 = [] := List.drop_of_length_le (by omega)
    have htake : raw.take 7 = raw := List.take_of_length_le (by omega)
    have hshort : (encodeGroup raw).length ≤ 8 := by
      rw [length_encodeGroup]
      omega
    rw [htake] at hgroup
    rw [hrest, htake, encodeStatstring_nil, List.append_nil,
      Lib.toChunks_short (by decide) (by simp [encodeGroup]) hshort, List.flatMap_cons,
      List.flatMap_nil, List.append_nil, decodeGroup_encodeGroup hgroup]

theorem zero_notMem_encode (raw : List UInt8) : 0 ∉ encodeStatstring raw := by
  refine Lib.chunks_induction (P := fun raw => 0 ∉ encodeStatstring raw) (n := 7) (by decide) ?_
    (fun raw hne ih => ?_) raw
  · rw [encodeStatstring_nil]
    exact List.not_mem_nil
  · rw [encodeStatstring_step hne, List.mem_append, not_or]
    exact ⟨zero_notMem_encodeGroup (List.length_take_le 7 raw), ih⟩

theorem length_encode (raw : List UInt8) :
    (encodeStatstring raw).length = raw.length + (raw.length + 6) / 7 := by
  refine Lib.chunks_induction
    (P := fun raw => (encodeStatstring raw).length = raw.length + (raw.length + 6) / 7)
    (n := 7) (by decide) rfl (fun raw hne ih => ?_) raw
  have hpos : 0 < raw.length := List.length_pos_iff.2 hne
  rw [encodeStatstring_step hne, List.length_append, ih, length_encodeGroup, List.length_take,
    List.length_drop]
  omega

end Statstring

-- ============================================================= the round trip

open Statstring

/-- What is encoded is decoded to what it was; the encoding has no zero
byte, and a byte more for every seven begun. -/
theorem statstring_roundtrip (raw : List UInt8) :
    decodeStatstring (encodeStatstring raw) = raw
      ∧ 0 ∉ encodeStatstring raw
      ∧ (encodeStatstring raw).length = raw.length + (raw.length + 6) / 7
      ∧ ∀ e ∈ Set.range encodeStatstring, encodeStatstring (decodeStatstring e) = e := by
  refine ⟨decode_encode raw, zero_notMem_encode raw, length_encode raw, ?_⟩
  rintro e ⟨r, rfl⟩
  rw [decode_encode]

/-- The bytes of the source's own test. -/
example : decodeStatstring (encodeStatstring [0x00, 0x01, 0x7F, 0x80, 0xFF, 0x10, 0x00, 0x2A, 0x03])
    = [0x00, 0x01, 0x7F, 0x80, 0xFF, 0x10, 0x00, 0x2A, 0x03] := by decide +kernel

end Spectre

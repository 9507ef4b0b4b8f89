/-
The last step of the unscrambling, and what is taken from the table.

The table is read as 128 bits (`bit`). The last loop writes the lowest
120 of them, one a turn, from a copy made before it: the bit `k` becomes
the bit `11 * k` of the copy, counted modulo 120. Eleven is its own
inverse there, so each bit of the copy arrives somewhere.
-/
import Mathlib.Data.Set.Finite.List
import Spectre.CdKeyScramble

namespace Spectre.Bnet

open Lib Lib.Checked
open Mpq (wordOf bytesOf toNat_wordOf wordOf_bytesOf bytesOf_wordOf)

-- ======================================================================== bits

/-- The bit `k` of the table, from the lowest. -/
def bit (values : List UInt32) (k : Nat) : Bool :=
  (values.getD (3 - k / 32) 0).toNat.testBit (k % 32)

section Bits

variable {l m s : List UInt32} {j k n : Nat}

/-- Its bits are all of a table. -/
theorem bit_ext (hl : l.length = 4) (hm : m.length = 4) (h : ∀ k < 128, bit l k = bit m k) :
    l = m := by
  refine List.ext_getElem (hl.trans hm.symm) fun i hi hi' => word_ext fun j hj => ?_
  have hword : 3 - (32 * (3 - i) + j) / 32 = i := by omega
  have hplace : (32 * (3 - i) + j) % 32 = j := by omega
  have hbit := h (32 * (3 - i) + j) (by omega)
  unfold bit at hbit
  rw [hword, hplace, List.getD_eq_getElem _ _ hi, List.getD_eq_getElem _ _ hi'] at hbit
  exact hbit

/-- The bytes of the copy from which a word is read are those of the
word. -/
theorem copied_word {i : Nat} (hi : i < s.length) : ∃ b0 b1 b2 b3,
    (index (s.flatMap bytesOf) (4 * i) : KeyRes UInt8) = .ok b0
      ∧ (index (s.flatMap bytesOf) (4 * i + 1) : KeyRes UInt8) = .ok b1
      ∧ (index (s.flatMap bytesOf) (4 * i + 2) : KeyRes UInt8) = .ok b2
      ∧ (index (s.flatMap bytesOf) (4 * i + 3) : KeyRes UInt8) = .ok b3
      ∧ wordOf b0 b1 b2 b3 = s.getD i 0 := by
  induction s generalizing i with
  | nil => exact absurd hi (Nat.not_lt_zero i)
  | cons w s ih =>
      obtain ⟨b0, b1, b2, b3, hbytes, hword⟩ := wordOf_bytesOf w
      rw [List.flatMap_cons, hbytes]
      cases i with
      | zero => exact ⟨b0, b1, b2, b3, rfl, rfl, rfl, rfl, hword⟩
      | succ i => exact ih (Nat.lt_of_succ_lt_succ hi)

theorem testBit_zero_toNat (b : Bool) : b.toNat.testBit 0 = b := by
  cases b <;> rfl

/-- A turn of the last loop writes its bit from the copy, and no
other. -/
theorem moveBit_spec (hl : l.length = 4) (hs : s.length = 4) (hk : k < 120) (hj : j < 120) :
    ∃ m, moveBit (s.flatMap bytesOf) (l, j) k = .ok (m, (j + 11) % 120) ∧ m.length = 4
      ∧ ∀ n < 128, bit m n = if n = k then bit s j else bit l n := by
  obtain ⟨b0, b1, b2, b3, h0, h1, h2, h3, hword⟩ :=
    copied_word (s := s) (i := 3 - j / 32) (hs ▸ Nat.lt_succ_of_le (Nat.sub_le 3 _))
  have hdivk : k >>> 5 = k / 32 := Nat.shiftRight_eq_div_pow k 5
  have hdivj : j >>> 5 = j / 32 := Nat.shiftRight_eq_div_pow j 5
  have hmodk : k &&& 0x1F = k % 32 := Nat.and_two_pow_sub_one_eq_mod k 5
  have hmodj : j &&& 0x1F = j % 32 := Nat.and_two_pow_sub_one_eq_mod j 5
  have hlocation : 12 - (j / 32) <<< 2 = 4 * (3 - j / 32) := by
    rw [Nat.shiftLeft_eq]
    omega
  have hlocated : (j / 32) <<< 2 ≤ 12 := by
    rw [Nat.shiftLeft_eq]
    omega
  have hwrap : (if 120 ≤ j + 11 then j + 11 - 120 else j + 11) = (j + 11) % 120 := by
    split <;> omega
  have hplaced : (k % 32).toUInt32.toNat = k % 32 := toNat_toUInt32 (Nat.mod_lt k (by decide))
  have htaken : (j % 32).toUInt32.toNat = j % 32 := toNat_toUInt32 (Nat.mod_lt j (by decide))
  -- what is taken from the copy is one bit
  have hone : ((s.getD (3 - j / 32) 0 >>> (j % 32).toUInt32) &&& 1).toNat = (bit s j).toNat := by
    unfold bit
    rw [UInt32.toNat_and, UInt32.toNat_shiftRight, htaken,
      Nat.mod_eq_of_lt (Nat.mod_lt j (by decide)), Nat.shiftRight_eq_div_pow, Nat.toNat_testBit]
    exact Nat.and_two_pow_sub_one_eq_mod _ 1
  refine ⟨l.set (3 - k / 32)
    ((((s.getD (3 - j / 32) 0 >>> (j % 32).toUInt32) &&& 1) <<< (k % 32).toUInt32)
    ||| (~~~(1 <<< (k % 32).toUInt32) &&& l.getD (3 - k / 32) 0)), ?_, ?_, fun n hn => ?_⟩
  · unfold moveBit
    dsimp only
    rw [hdivk, hdivj, hmodk, hmodj, sub_eq (by omega), ok_bind, sub_eq hlocated, ok_bind, hlocation,
      h0, ok_bind, h1, ok_bind, h2, ok_bind,
      h3, ok_bind, hword, shrWord_eq _ (Nat.mod_lt j (by decide)), ok_bind,
      index_getD 0 (by omega), ok_bind,
      shlWord_eq _ (Nat.mod_lt k (by decide)), ok_bind,
      shlWord_eq _ (Nat.mod_lt k (by decide)), ok_bind, store_eq _ (by omega), ok_bind,
      add_eq (by omega), ok_bind, hwrap]
    rfl
  · rw [List.length_set, hl]
  · unfold bit
    by_cases hsame : 3 - k / 32 = 3 - n / 32
    · rw [← hsame, List.getD_eq_getElem?_getD, List.getElem?_set_self (by omega), Option.getD_some,
        UInt32.and_comm (~~~_), testBit_field 1 rfl (by decide) (by omega) (hone ▸ Bool.toNat_lt _)
          (Nat.mod_lt n (by decide)), hplaced, hone]
      by_cases hnk : n = k
      · rw [if_pos (by omega), if_pos hnk, hnk, Nat.sub_self]
        exact testBit_zero_toNat (bit s j)
      · rw [if_neg (by omega), if_neg hnk, hsame]
    · have hnk : n ≠ k := by
        rintro rfl
        exact hsame rfl
      rw [if_neg hnk, List.getD_eq_getElem?_getD, List.getElem?_set_ne hsame,
        ← List.getD_eq_getElem?_getD]

/-- The loop up to a turn. -/
theorem foldlM_moveBit (hs : s.length = 4) (hn : n ≤ 120) :
    ∃ m, (List.range n).foldlM (moveBit (s.flatMap bytesOf)) (s, 0) = .ok (m, 11 * n % 120)
      ∧ m.length = 4 ∧ ∀ k < 128, bit m k = if k < n then bit s (11 * k % 120) else bit s k := by
  induction n with
  | zero => exact ⟨s, rfl, hs, fun k _ => (if_neg (Nat.not_lt_zero k)).symm⟩
  | succ n ih =>
      obtain ⟨l, hl, hlen, hbits⟩ := ih (Nat.le_of_succ_le hn)
      obtain ⟨m, hm, hlen', hbits'⟩ :=
        moveBit_spec hlen hs (k := n) (j := 11 * n % 120) hn (Nat.mod_lt _ (by decide))
      refine ⟨m, ?_, hlen', fun k hk => ?_⟩
      · have hplace : (11 * n % 120 + 11) % 120 = 11 * (n + 1) % 120 := by omega
        rw [List.range_succ, List.foldlM_append, hl, ok_bind, List.foldlM_cons, hm, ok_bind, hplace]
        rfl
      · rw [hbits' k hk]
        rcases Nat.lt_trichotomy k n with hlt | heq | hgt
        · rw [if_neg (by omega), hbits k hk, if_pos hlt, if_pos (by omega)]
        · rw [if_pos heq, if_pos (by omega), heq]
        · rw [if_neg (by omega), hbits k hk, if_neg (by omega), if_neg (by omega)]

/-- The table is decoded, and two tables differently. -/
theorem decodeKeyTable_spec (hl : l.length = 4) : ∃ s m, keyRounds l 29 464 = .ok s ∧ s.length = 4
    ∧ decodeKeyTable l = .ok m ∧ m.length = 4
    ∧ ∀ k < 128, bit m k = if k < 120 then bit s (11 * k % 120) else bit s k := by
  obtain ⟨s, hs, hslen⟩ := keyRounds_spec hl (v := 29) (by decide)
  obtain ⟨m, hm, hmlen, hbits⟩ := foldlM_moveBit hslen (n := 120) (Nat.le_refl _)
  refine ⟨s, m, hs, hslen, ?_, hmlen, hbits⟩
  unfold decodeKeyTable
  rw [hs, ok_bind]
  dsimp only
  rw [hm, ok_bind]
  rfl

theorem decodeKeyTable_inj (hl : l.length = 4) (hm : m.length = 4)
    (h : decodeKeyTable l = decodeKeyTable m) : l = m := by
  obtain ⟨s, x, hs, hslen, hx, -, hbits⟩ := decodeKeyTable_spec hl
  obtain ⟨t, y, ht, htlen, hy, -, hbits'⟩ := decodeKeyTable_spec hm
  have hxy : x = y := by
    rw [hx, hy] at h
    exact Checked.ok.inj h
  subst hxy
  refine keyRounds_inj hl hm (v := 29) (by decide) ?_
  refine hs.trans ((congrArg Checked.ok ?_).trans ht.symm)
  refine bit_ext hslen htlen fun j hj => ?_
  by_cases hlow : j < 120
  · -- eleven times eleven is one more than 120
    have hback : 11 * (11 * j % 120) % 120 = j := by omega
    have hplace : 11 * j % 120 < 120 := Nat.mod_lt _ (by decide)
    have hsame := (hbits (11 * j % 120) (by omega)).symm.trans (hbits' (11 * j % 120) (by omega))
    rw [if_pos hplace, if_pos hplace, hback] at hsame
    exact hsame
  · have hsame := (hbits j hj).symm.trans (hbits' j hj)
    rw [if_neg hlow, if_neg hlow] at hsame
    exact hsame

end Bits

-- ================================================================== the values

section Values

variable {l m : List UInt32}

/-- A mask takes six bits of a word away. -/
theorem masked_inj {w v : UInt32} (h : w &&& 0xFFFFFF03 = v &&& 0xFFFFFF03) :
    w.toNat % 4 = v.toNat % 4 ∧ w.toNat / 256 = v.toNat / 256 := by
  have hkept : ∀ j < 32, (0xFFFFFF03 : UInt32).toNat.testBit j = true →
      w.toNat.testBit j = v.toNat.testBit j := by
    intro j _ hj
    have hbit := congrArg (fun x : UInt32 => x.toNat.testBit j) h
    rw [UInt32.toNat_and, UInt32.toNat_and, Nat.testBit_and, Nat.testBit_and, hj, Bool.and_true,
      Bool.and_true] at hbit
    exact hbit
  have hlow : ∀ j < 2, (0xFFFFFF03 : UInt32).toNat.testBit j = true := by decide +kernel
  have hhigh : ∀ j < 24, (0xFFFFFF03 : UInt32).toNat.testBit (j + 8) = true := by decide +kernel
  constructor
  · refine Nat.eq_of_testBit_eq fun j => ?_
    rw [show 4 = 2 ^ 2 from rfl, Nat.testBit_mod_two_pow, Nat.testBit_mod_two_pow]
    by_cases hj : j < 2
    · rw [hkept j (by omega) (hlow j hj)]
    · rw [decide_eq_false hj, Bool.false_and, Bool.false_and]
  · refine Nat.eq_of_testBit_eq fun j => ?_
    rw [show 256 = 2 ^ 8 from rfl, Nat.testBit_div_two_pow, Nat.testBit_div_two_pow]
    by_cases hj : j < 24
    · exact hkept (j + 8) (by omega) (hhigh j hj)
    · have hpow : 2 ^ 32 ≤ 2 ^ (j + 8) := Nat.pow_le_pow_right (by decide) (by omega)
      rw [Nat.testBit_lt_two_pow (Nat.lt_of_lt_of_le w.toNat_lt hpow),
        Nat.testBit_lt_two_pow (Nat.lt_of_lt_of_le v.toNat_lt hpow)]

theorem swapBytes_inj {w v : UInt32} (h : swapBytes w = swapBytes v) : w = v := by
  obtain ⟨a0, a1, a2, a3, hw, rfl⟩ := wordOf_bytesOf w
  obtain ⟨b0, b1, b2, b3, hv, rfl⟩ := wordOf_bytesOf v
  unfold swapBytes at h
  rw [hw, hv] at h
  have hbytes := congrArg bytesOf h
  rw [bytesOf_wordOf, bytesOf_wordOf] at hbytes
  injection hbytes with h3 hbytes
  injection hbytes with h2 hbytes
  injection hbytes with h1 hbytes
  injection hbytes with h0
  rw [h0, h1, h2, h3]

/-- What is taken from a table. -/
theorem keyValues_eq (a0 a1 a2 a3 b0 b1 b2 b3 c0 c1 c2 c3 d0 d1 d2 d3 : UInt8) :
    keyValues [wordOf a0 a1 a2 a3, wordOf b0 b1 b2 b3, wordOf c0 c1 c2 c3, wordOf d0 d1 d2 d3]
      = .ok (wordOf a0 a1 a2 a3 >>> (10 : UInt32), swapBytes (wordOf a1 a0 b3 b2 &&& 0xFFFFFF03),
          [b0, b1] ++ [c0, c1, c2, c3] ++ [d0, d1, d2, d3]) := by
  unfold keyValues beBytesOf
  rw [List.flatMap_cons, List.flatMap_cons, List.flatMap_cons, List.flatMap_cons, bytesOf_wordOf,
    bytesOf_wordOf, bytesOf_wordOf, bytesOf_wordOf]
  rfl

/-- A table is four words of four bytes. -/
theorem table_bytes (hl : l.length = 4) : ∃ a0 a1 a2 a3 b0 b1 b2 b3 c0 c1 c2 c3 d0 d1 d2 d3 : UInt8,
    l = [wordOf a0 a1 a2 a3, wordOf b0 b1 b2 b3, wordOf c0 c1 c2 c3, wordOf d0 d1 d2 d3] := by
  obtain ⟨a, b, c, d, rfl⟩ := List.length_eq_four.1 hl
  obtain ⟨a0, a1, a2, a3, -, rfl⟩ := wordOf_bytesOf a
  obtain ⟨b0, b1, b2, b3, -, rfl⟩ := wordOf_bytesOf b
  obtain ⟨c0, c1, c2, c3, -, rfl⟩ := wordOf_bytesOf c
  obtain ⟨d0, d1, d2, d3, -, rfl⟩ := wordOf_bytesOf d
  exact ⟨a0, a1, a2, a3, b0, b1, b2, b3, c0, c1, c2, c3, d0, d1, d2, d3, rfl⟩

theorem keyValues_returns (hl : l.length = 4) : ∃ v, keyValues l = .ok v ∧ v.2.2.length = 10 := by
  obtain ⟨a0, a1, a2, a3, b0, b1, b2, b3, c0, c1, c2, c3, d0, d1, d2, d3, rfl⟩ := table_bytes hl
  exact ⟨_, keyValues_eq a0 a1 a2 a3 b0 b1 b2 b3 c0 c1 c2 c3 d0 d1 d2 d3, rfl⟩

/-- The values are all of the table. -/
theorem keyValues_inj (hl : l.length = 4) (hm : m.length = 4) (h : keyValues l = keyValues m) :
    l = m := by
  obtain ⟨a0, a1, a2, a3, b0, b1, b2, b3, c0, c1, c2, c3, d0, d1, d2, d3, rfl⟩ := table_bytes hl
  obtain ⟨a0', a1', a2', a3', b0', b1', b2', b3', c0', c1', c2', c3', d0', d1', d2', d3', rfl⟩ :=
    table_bytes hm
  rw [keyValues_eq, keyValues_eq] at h
  simp only [Checked.ok.injEq, Prod.mk.injEq, List.cons_append, List.nil_append, List.cons.injEq,
    and_true] at h
  obtain ⟨hproduct, hpublic, rfl, rfl, rfl, rfl, rfl, rfl, rfl, rfl, rfl, rfl⟩ := h
  -- the first word is spread over the product and the public value
  obtain ⟨hmod, hdiv⟩ := masked_inj (swapBytes_inj hpublic)
  have hshift := congrArg UInt32.toNat hproduct
  simp only [UInt32.toNat_shiftRight, Nat.shiftRight_eq_div_pow, toNat_wordOf, UInt32.reduceToNat,
    Nat.reduceMod, Nat.reducePow] at hshift
  rw [toNat_wordOf, toNat_wordOf] at hmod hdiv
  have h0 := UInt8.toNat_lt a0
  have h0' := UInt8.toNat_lt a0'
  have h1 := UInt8.toNat_lt a1
  have h1' := UInt8.toNat_lt a1'
  have h3 := UInt8.toNat_lt b3
  have h3' := UInt8.toNat_lt b3'
  have hpublished : a0.toNat = a0'.toNat ∧ b3.toNat = b3'.toNat ∧ b2.toNat = b2'.toNat := by omega
  obtain ⟨ha0, hb3, hb2⟩ := hpublished
  have hfirst : wordOf a0 a1 a2 a3 = wordOf a0' a1' a2' a3' := by
    rw [← UInt32.toNat_inj, toNat_wordOf, toNat_wordOf]
    omega
  rw [hfirst, UInt8.toNat_inj.1 hb2, UInt8.toNat_inj.1 hb3]

end Values

-- ============================================================== nothing is lost

instance instFiniteUInt32 : Finite UInt32 :=
  Finite.of_injective UInt32.toFin fun _ _ h => UInt32.toFin_inj.1 h

/-- The unscrambling is a bijection of the tables, and no index, shift
or sum in it goes wrong. The product, the public and the private value
are all of the unscrambled table, so that different tables have
different values. -/
theorem decode_key_table_bijective :
    (∃ g : List UInt32 → List UInt32, (∀ l, l.length = 4 → decodeKeyTable l = .ok (g l))
      ∧ Set.BijOn g {l | l.length = 4} {l | l.length = 4})
    ∧ (∃ e : List UInt32 → UInt32 × UInt32 × List UInt8,
      (∀ l, l.length = 4 → keyValues l = .ok (e l))
      ∧ Set.InjOn e {l | l.length = 4} ∧ ∀ l, l.length = 4 → (e l).2.2.length = 10)
    ∧ ∀ l m : List UInt32, l.length = 4 → m.length = 4 → l ≠ m →
        decodeKeyTable l >>= keyValues ≠ decodeKeyTable m >>= keyValues := by
  have hdecoded : ∀ l : List UInt32, l.length = 4 → ∃ m, decodeKeyTable l = .ok m
    ∧ m.length = 4 := by
    intro l hl
    obtain ⟨s, m, -, -, hm, hmlen, -⟩ := decodeKeyTable_spec hl
    exact ⟨m, hm, hmlen⟩
  choose! g hg hglen using hdecoded
  have hvalues : ∀ l : List UInt32, l.length = 4 → ∃ v, keyValues l = .ok v
    ∧ v.2.2.length = 10 := by
    intro l hl
    exact keyValues_returns hl
  choose! e he helen using hvalues
  have hinj : Set.InjOn g {l | l.length = 4} := by
    intro l hl m hm h
    exact decodeKeyTable_inj hl hm ((hg l hl).trans ((congrArg Checked.ok h).trans (hg m hm).symm))
  refine ⟨⟨g, hg, ?_⟩, ⟨e, he, ?_, helen⟩, ?_⟩
  · exact ((List.finite_length_eq UInt32 4).injOn_iff_bijOn_of_mapsTo hglen).1 hinj
  · intro l hl m hm h
    exact keyValues_inj hl hm ((he l hl).trans ((congrArg Checked.ok h).trans (he m hm).symm))
  · intro l m hl hm hne h
    rw [hg l hl, hg m hm, ok_bind, ok_bind] at h
    exact hne (hinj hl hm (keyValues_inj (hglen l hl) (hglen m hm) h))

end Spectre.Bnet

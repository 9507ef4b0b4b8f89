/-
The cipher and the string hash of MPQ archives (`crypt.rs`).

Both draw on one table of 0x500 words. The source fills it column by
column with a linear generator; here an entry is said directly, by how
many numbers are drawn before it, and `buildStormBuffer_eq` is the loop
that fills the table. An index into the table carries its bound, except
in `hashString`, where it depends on an argument and is checked.
-/
import Mathlib.Data.List.OfFn
import Spectre.Lib.Checked
import Spectre.Rust

namespace Spectre.Mpq

open Lib (Checked)

-- ============================================================== the table

/-- One step of the generator. -/
def nextSeed (seed : UInt32) : UInt32 := (seed * 125 + 3) % 0x2AAAAB

/-- The generator after some steps. -/
def seedAt : Nat → UInt32
  | 0 => 0x00100001
  | n + 1 => nextSeed (seedAt n)

/-- `STORM_BUFFER[i]`: two numbers are drawn for an entry, and the five
entries of a column come one after the other. -/
def stormBuffer (i : Fin 0x500) : UInt32 :=
  let drawn := 2 * (5 * (i.val % 0x100) + i.val / 0x100)
  ((seedAt (drawn + 1) &&& 0xFFFF) <<< (16 : UInt32)) ||| (seedAt (drawn + 2) &&& 0xFFFF)

/-- The body of the inner loop: one entry, and the seed behind it. -/
def fillEntry (st : List UInt32 × UInt32) (index : Nat) : List UInt32 × UInt32 :=
  let seed := nextSeed st.2
  let temp1 := (seed &&& 0xFFFF) <<< (16 : UInt32)
  let seed := nextSeed seed
  let temp2 := seed &&& 0xFFFF
  (st.1.set index (temp1 ||| temp2), seed)

/-- The outer loop up to a column. -/
def fillColumns : Nat → List UInt32 × UInt32
  | 0 => (List.replicate 0x500 0, 0x00100001)
  | i + 1 => (List.range 5).foldl (fun st step => fillEntry st (i + 0x100 * step)) (fillColumns i)

/-- `build_storm_buffer`. -/
def buildStormBuffer : List UInt32 := (fillColumns 0x100).1

-- =================================================================== hash

def hashTableOffset : Nat := 0
def hashNameA : Nat := 0x100
def hashNameB : Nat := 0x200
def hashFileKey : Nat := 0x300

/-- The letter that is hashed. -/
def hashedLetter (b : UInt8) : UInt8 := if b = 0x2F then 0x5C else asciiUpper b

/-- The loop of `hash_string`. -/
def hashFrom {ε : Type} (hashType : Nat) : Text → UInt32 → UInt32 → Checked ε UInt32
  | [], seed1, _ => .ok seed1
  | b :: rest, seed1, seed2 =>
      let ch := hashedLetter b
      if h : hashType + ch.toNat < 0x500 then
        let val := stormBuffer ⟨hashType + ch.toNat, h⟩
        let seed1 := val ^^^ (seed1 + seed2)
        let seed2 := ch.toUInt32 + seed1 + seed2 + (seed2 <<< (5 : UInt32)) + 3
        hashFrom hashType rest seed1 seed2
      else .stuck

/-- `hash_string`. -/
def hashString {ε : Type} (s : Text) (hashType : Nat) : Checked ε UInt32 :=
  hashFrom hashType s 0x7FED7FED 0xEEEEEEEE

-- ================================================================= cipher

/-- `u32::from_le_bytes`. -/
def wordOf (b0 b1 b2 b3 : UInt8) : UInt32 :=
  b0.toUInt32 + b1.toUInt32 * 0x100 + b2.toUInt32 * 0x10000 + b3.toUInt32 * 0x1000000

/-- `u32::to_le_bytes`. -/
def bytesOf (w : UInt32) : List UInt8 :=
  [w.toUInt8, (w >>> (8 : UInt32)).toUInt8, (w >>> (16 : UInt32)).toUInt8,
    (w >>> (24 : UInt32)).toUInt8]

theorem cipherIndex_lt (key : UInt32) : 0x400 + (key.toNat &&& 0xFF) < 0x500 := by
  have hmask : key.toNat &&& 0xFF ≤ 0xFF := Nat.and_le_right
  omega

/-- The entry of the table a key picks. -/
def cipherEntry (key : UInt32) : UInt32 :=
  stormBuffer ⟨0x400 + (key.toNat &&& 0xFF), cipherIndex_lt key⟩

/-- The key for the next word. -/
def nextKey (key : UInt32) : UInt32 :=
  ((~~~key <<< (21 : UInt32)) + 0x11111111) ||| (key >>> (11 : UInt32))

/-- The loop of `decrypt_bytes`, a word at a time. -/
def decryptFrom : List UInt8 → UInt32 → UInt32 → List UInt8
  | b0 :: b1 :: b2 :: b3 :: rest, seed, key =>
      let seed := seed + cipherEntry key
      let ch := wordOf b0 b1 b2 b3 ^^^ (key + seed)
      bytesOf ch ++ decryptFrom rest (ch + seed + (seed <<< (5 : UInt32)) + 3) (nextKey key)
  | tail, _, _ => tail

/-- `decrypt_bytes`. -/
def decryptBytes (data : List UInt8) (key : UInt32) : List UInt8 := decryptFrom data 0xEEEEEEEE key

-- ============================================================== the loops

/-- What the loops have filled with column `i` reached and `n` entries of
it done, and how many numbers they have drawn. -/
structure Filled (i n : Nat) (st : List UInt32 × UInt32) : Prop where
  length : st.1.length = 0x500
  entry : ∀ k : Fin 0x500,
    st.1[k.val]? = some (if k.val % 0x100 < i ∨ k.val % 0x100 = i ∧ k.val / 0x100 < n
    then stormBuffer k else 0)
  seed : st.2 = seedAt (2 * (5 * i + n))

namespace Filled

variable {i n : Nat} {st : List UInt32 × UInt32}

/-- One entry more. -/
theorem step (hi : i < 0x100) (h : Filled i n st) :
    Filled i (n + 1) (fillEntry st (i + 0x100 * n)) where
  length := by
    unfold fillEntry
    rw [List.length_set]
    exact h.length
  entry k := by
    unfold fillEntry
    dsimp only
    rw [List.getElem?_set]
    by_cases hk : i + 0x100 * n = k.val
    · have hmod : k.val % 0x100 = i := by omega
      have hdiv : k.val / 0x100 = n := by omega
      rw [if_pos hk, if_pos (by rw [h.length]; omega), if_pos (.inr ⟨hmod, by omega⟩)]
      unfold stormBuffer
      rw [h.seed, hmod, hdiv]
      rfl
    · rw [if_neg hk, h.entry k]
      congr 1
      refine if_congr ?_ rfl rfl
      omega
  seed := by
    unfold fillEntry
    dsimp only
    rw [h.seed]
    rfl

/-- A whole column. -/
theorem column (hi : i < 0x100) (h : Filled i 0 st) :
    Filled (i + 1) 0
      ((List.range 5).foldl (fun st step => fillEntry st (i + 0x100 * step)) st) := by
  have hfull := ((((h.step hi).step hi).step hi).step hi).step hi
  refine ⟨hfull.length, fun k => ?_, hfull.seed⟩
  have hrow : k.val / 0x100 < 5 := by omega
  rw [show (List.range 5).foldl (fun st step => fillEntry st (i + 0x100 * step)) st
    = fillEntry (fillEntry (fillEntry (fillEntry (fillEntry st (i + 0x100 * 0)) (i + 0x100 * 1))
      (i + 0x100 * 2)) (i + 0x100 * 3)) (i + 0x100 * 4) from rfl, hfull.entry k]
  congr 1
  refine if_congr ?_ rfl rfl
  omega

end Filled

theorem fillColumns_filled (i : Nat) (hi : i ≤ 0x100) : Filled i 0 (fillColumns i) := by
  induction i with
  | zero =>
      refine ⟨List.length_replicate, fun k => ?_, rfl⟩
      unfold fillColumns
      rw [List.getElem?_replicate, if_pos k.isLt, if_neg (by omega)]
  | succ i ih => exact (ih (by omega)).column (by omega)

/-- The loops build the table. -/
theorem buildStormBuffer_eq : buildStormBuffer = List.ofFn stormBuffer := by
  have h := fillColumns_filled 0x100 (Nat.le_refl _)
  refine List.ext_getElem? fun k => ?_
  by_cases hk : k < 0x500
  · rw [List.getElem?_ofFn, dif_pos hk]
    refine (h.entry ⟨k, hk⟩).trans ?_
    rw [if_pos (.inl (Nat.mod_lt _ (by decide)))]
  · have hlen : buildStormBuffer.length = 0x500 := h.length
    rw [List.getElem?_eq_none (by omega), List.getElem?_eq_none (by rw [List.length_ofFn]; omega)]

/-- A hash whose table is in range. -/
theorem hashFrom_returns {ε : Type} {hashType : Nat} (h : hashType ≤ 0x400) (s : Text)
    (seed1 seed2 : UInt32) :
    ∃ v, (hashFrom hashType s seed1 seed2 : Checked ε UInt32) = .ok v := by
  induction s generalizing seed1 seed2 with
  | nil => exact ⟨seed1, rfl⟩
  | cons b s ih =>
      have hch : (hashedLetter b).toNat < 0x100 := UInt8.toNat_lt _
      unfold hashFrom
      rw [dif_pos (by omega)]
      exact ih _ _

theorem hashString_returns {ε : Type} {hashType : Nat} (h : hashType ≤ 0x400) (s : Text) :
    ∃ v, (hashString s hashType : Checked ε UInt32) = .ok v := hashFrom_returns h s _ _

theorem length_decryptFrom (data : List UInt8) (seed key : UInt32) :
    (decryptFrom data seed key).length = data.length := by
  fun_induction decryptFrom data seed key with
  | case1 seed key b0 b1 b2 b3 rest seed' ch ih =>
      rw [List.length_append, ih]
      simp only [bytesOf, List.length_cons, List.length_nil]
      omega
  | case2 => rfl

/-- Decryption is in place. -/
@[simp] theorem length_decryptBytes (data : List UInt8) (key : UInt32) :
    (decryptBytes data key).length = data.length := length_decryptFrom _ _ _

end Spectre.Mpq

/-
Both directions of the MPQ cipher (`crypt.rs`).

`decrypt_bytes` takes its buffer as little-endian words and leaves the
bytes behind the last whole word alone; on the words it is
`decrypt_u32`. The seed moves on with each plain word, so the encryption
that archives are written with meets the same seeds and undoes it
(`mpq_decryption`).
-/
import Spectre.Lib.Autokey
import Spectre.MpqCrypt

namespace Spectre.Mpq

-- ============================================================== on words

/-- The loop of `decrypt_u32`. -/
def decryptWords : List UInt32 → UInt32 → UInt32 → List UInt32
  | [], _, _ => []
  | item :: rest, seed, key =>
      let seed := seed + cipherEntry key
      let ch := item ^^^ (key + seed)
      ch :: decryptWords rest (ch + seed + (seed <<< (5 : UInt32)) + 3) (nextKey key)

/-- `decrypt_u32`. -/
def decryptU32 (data : List UInt32) (key : UInt32) : List UInt32 := decryptWords data 0xEEEEEEEE key

/-- The words of a buffer, as long as there is a whole one. -/
def wordsOf : List UInt8 → List UInt32
  | b0 :: b1 :: b2 :: b3 :: rest => wordOf b0 b1 b2 b3 :: wordsOf rest
  | _ => []

/-- The bytes behind the last whole word. -/
def tailOf (data : List UInt8) : List UInt8 := data.drop (4 * (data.length / 4))

-- ============================================================ encryption

/-- The loop that encrypts: as `decryptFrom`, with the seed updated with
the word as it was before. -/
def encryptFrom : List UInt8 → UInt32 → UInt32 → List UInt8
  | b0 :: b1 :: b2 :: b3 :: rest, seed, key =>
      let seed := seed + cipherEntry key
      let ch := wordOf b0 b1 b2 b3
      bytesOf (ch ^^^ (key + seed))
        ++ encryptFrom rest (ch + seed + (seed <<< (5 : UInt32)) + 3) (nextKey key)
  | tail, _, _ => tail

/-- The encryption of a buffer. -/
def encryptBytes (data : List UInt8) (key : UInt32) : List UInt8 := encryptFrom data 0xEEEEEEEE key

/-- The cipher: the state is the seed and the key of a word. -/
def stormCipher : Lib.Autokey (UInt32 × UInt32) UInt32 where
  uncover st := Function.Involutive.toPerm (fun w => w ^^^ (st.2 + (st.1 + cipherEntry st.2)))
    fun w => by
    dsimp only
    rw [UInt32.xor_assoc, UInt32.xor_self, UInt32.xor_zero]
  next st ch :=
    let seed := st.1 + cipherEntry st.2
    (ch + seed + (seed <<< (5 : UInt32)) + 3, nextKey st.2)

-- ======================================================= bytes and words

theorem toNat_wordOf (b0 b1 b2 b3 : UInt8) : (wordOf b0 b1 b2 b3).toNat
    = b0.toNat + 0x100 * b1.toNat + 0x10000 * b2.toNat + 0x1000000 * b3.toNat := by
  have h0 := b0.toNat_lt
  have h1 := b1.toNat_lt
  have h2 := b2.toNat_lt
  have h3 := b3.toNat_lt
  unfold wordOf
  simp only [UInt32.toNat_add, UInt32.toNat_mul, UInt8.toNat_toUInt32]
  simp only [UInt32.reduceToNat]
  omega

/-- A word is the one its bytes make. -/
theorem wordOf_bytesOf (w : UInt32) : ∃ b0 b1 b2 b3, bytesOf w = [b0, b1, b2, b3]
    ∧ wordOf b0 b1 b2 b3 = w := by
  refine ⟨_, _, _, _, rfl, ?_⟩
  have hw := w.toNat_lt
  rw [← UInt32.toNat_inj, toNat_wordOf]
  simp only [UInt32.toNat_toUInt8, UInt32.toNat_shiftRight, UInt32.reduceToNat,
    Nat.shiftRight_eq_div_pow, Nat.reduceMod, Nat.reducePow]
  omega

/-- Bytes are those of the word they make. -/
theorem bytesOf_wordOf (b0 b1 b2 b3 : UInt8) : bytesOf (wordOf b0 b1 b2 b3) = [b0, b1, b2, b3] := by
  have h0 := b0.toNat_lt
  have h1 := b1.toNat_lt
  have h2 := b2.toNat_lt
  have h3 := b3.toNat_lt
  unfold bytesOf
  simp only [List.cons.injEq, and_true, ← UInt8.toNat_inj, UInt32.toNat_toUInt8,
    UInt32.toNat_shiftRight, UInt32.reduceToNat, Nat.shiftRight_eq_div_pow, Nat.reduceMod,
    Nat.reducePow, toNat_wordOf]
  omega

@[simp] theorem length_bytesOf (w : UInt32) : (bytesOf w).length = 4 := rfl

@[simp] theorem length_flatMap_bytesOf (ws : List UInt32) :
    (ws.flatMap bytesOf).length = 4 * ws.length := by
  induction ws with
  | nil => rfl
  | cons w ws ih =>
      rw [List.flatMap_cons, List.length_append, length_bytesOf, ih, List.length_cons]
      omega

theorem tailOf_cons (b0 b1 b2 b3 : UInt8) (rest : List UInt8) :
    tailOf (b0 :: b1 :: b2 :: b3 :: rest) = tailOf rest := by
  unfold tailOf
  have hlen : 4 * ((b0 :: b1 :: b2 :: b3 :: rest).length / 4) = 4 * (rest.length / 4) + 4 := by
    simp only [List.length_cons]
    omega
  rw [hlen]
  rfl

theorem length_tailOf (data : List UInt8) : (tailOf data).length < 4 := by
  unfold tailOf
  rw [List.length_drop]
  omega

/-- What has no four bytes in front is shorter. -/
theorem length_of_wordless {data : List UInt8}
    (h : ∀ b0 b1 b2 b3 rest, data ≠ b0 :: b1 :: b2 :: b3 :: rest) : data.length < 4 := by
  by_contra hlen
  match data with
  | [] | [_] | [_, _] | [_, _, _] => simp at hlen
  | b0 :: b1 :: b2 :: b3 :: rest => exact h b0 b1 b2 b3 rest rfl

/-- What is shorter than a word is all tail. -/
theorem short_of_length {tail : List UInt8} (h : tail.length < 4) :
    wordsOf tail = [] ∧ tailOf tail = tail := by
  constructor
  · match tail with
    | [] | [_] | [_, _] | [_, _, _] => rfl
    | _ :: _ :: _ :: _ :: rest =>
        simp only [List.length_cons] at h
        omega
  · unfold tailOf
    rw [Nat.div_eq_of_lt h]
    rfl

/-- A buffer is its words and its tail. -/
theorem words_tail (data : List UInt8) : (wordsOf data).flatMap bytesOf ++ tailOf data = data := by
  fun_induction wordsOf data with
  | case1 b0 b1 b2 b3 rest ih =>
      rw [List.flatMap_cons, bytesOf_wordOf, tailOf_cons, List.append_assoc, ih]
      rfl
  | case2 data hshort =>
      rw [List.flatMap_nil, List.nil_append]
      exact (short_of_length (length_of_wordless hshort)).2

/-- The words and the tail of a buffer made of both. -/
theorem parts_append (ws : List UInt32) {tail : List UInt8} (h : tail.length < 4) :
    wordsOf (ws.flatMap bytesOf ++ tail) = ws ∧ tailOf (ws.flatMap bytesOf ++ tail) = tail := by
  induction ws with
  | nil => exact short_of_length h
  | cons w ws ih =>
      obtain ⟨b0, b1, b2, b3, hbytes, hword⟩ := wordOf_bytesOf w
      rw [List.flatMap_cons, hbytes, List.append_assoc]
      constructor
      · show wordOf b0 b1 b2 b3 :: wordsOf (ws.flatMap bytesOf ++ tail) = w :: ws
        rw [hword, ih.1]
      · show tailOf (b0 :: b1 :: b2 :: b3 :: (ws.flatMap bytesOf ++ tail)) = tail
        rw [tailOf_cons, ih.2]

-- ============================================================== the loops

/-- `decrypt_u32` is the cipher. -/
theorem decryptWords_eq (data : List UInt32) (seed key : UInt32) :
    decryptWords data seed key = stormCipher.decipher data (seed, key) := by
  induction data generalizing seed key with
  | nil => rfl
  | cons item rest ih =>
      unfold decryptWords
      dsimp only
      rw [ih]
      rfl

/-- `decrypt_bytes` is the cipher on the words, and nothing on the
tail. -/
theorem decryptFrom_eq (data : List UInt8) (seed key : UInt32) : decryptFrom data seed key
    = (stormCipher.decipher (wordsOf data) (seed, key)).flatMap bytesOf ++ tailOf data := by
  fun_induction wordsOf data generalizing seed key with
  | case1 b0 b1 b2 b3 rest ih =>
      unfold decryptFrom Lib.Autokey.decipher
      dsimp only
      rw [ih, tailOf_cons, List.flatMap_cons, List.append_assoc]
      rfl
  | case2 data hshort =>
      unfold decryptFrom
      split
      · exact absurd rfl (hshort _ _ _ _ _)
      · exact (short_of_length (length_of_wordless hshort)).2.symm

/-- So is the encryption. -/
theorem encryptFrom_eq (data : List UInt8) (seed key : UInt32) : encryptFrom data seed key
    = (stormCipher.encipher (wordsOf data) (seed, key)).flatMap bytesOf ++ tailOf data := by
  fun_induction wordsOf data generalizing seed key with
  | case1 b0 b1 b2 b3 rest ih =>
      unfold encryptFrom Lib.Autokey.encipher
      dsimp only
      rw [ih, tailOf_cons, List.flatMap_cons, List.append_assoc]
      rfl
  | case2 data hshort =>
      unfold encryptFrom
      split
      · exact absurd rfl (hshort _ _ _ _ _)
      · exact (short_of_length (length_of_wordless hshort)).2.symm

/-- The words and the tail of what `decrypt_bytes` leaves. -/
theorem decryptBytes_parts (data : List UInt8) (key : UInt32) :
    wordsOf (decryptBytes data key) = decryptU32 (wordsOf data) key
      ∧ tailOf (decryptBytes data key) = tailOf data := by
  unfold decryptBytes decryptU32
  rw [decryptFrom_eq, decryptWords_eq]
  exact parts_append _ (length_tailOf data)

theorem encryptBytes_parts (data : List UInt8) (key : UInt32) :
    wordsOf (encryptBytes data key) = stormCipher.encipher (wordsOf data) (0xEEEEEEEE, key)
      ∧ tailOf (encryptBytes data key) = tailOf data := by
  unfold encryptBytes
  rw [encryptFrom_eq]
  exact parts_append _ (length_tailOf data)

@[simp] theorem length_encryptBytes (data : List UInt8) (key : UInt32) :
    (encryptBytes data key).length = data.length := by
  unfold encryptBytes
  rw [encryptFrom_eq]
  conv_rhs => rw [← words_tail data]
  simp only [List.length_append, length_flatMap_bytesOf, Lib.Autokey.length_encipher]

/-- Encryption undoes decryption. -/
theorem encryptBytes_decryptBytes (data : List UInt8) (key : UInt32) :
    encryptBytes (decryptBytes data key) key = data := by
  obtain ⟨hwords, htail⟩ := decryptBytes_parts data key
  unfold encryptBytes
  rw [encryptFrom_eq, hwords, htail]
  unfold decryptU32
  rw [decryptWords_eq, Lib.Autokey.encipher_decipher]
  exact words_tail data

/-- Decryption undoes encryption. -/
theorem decryptBytes_encryptBytes (data : List UInt8) (key : UInt32) :
    decryptBytes (encryptBytes data key) key = data := by
  obtain ⟨hwords, htail⟩ := encryptBytes_parts data key
  unfold decryptBytes
  rw [decryptFrom_eq, hwords, htail, Lib.Autokey.decipher_encipher]
  exact words_tail data

/-- Under every key: decryption leaves the bytes behind the last whole
word alone and is `decrypt_u32` on the words, and it is a bijection on
the buffers of each length, which the encryption inverts. -/
theorem mpq_decryption (key : UInt32) :
    (∀ data, tailOf (decryptBytes data key) = tailOf data
        ∧ wordsOf (decryptBytes data key) = decryptU32 (wordsOf data) key
        ∧ decryptBytes data key = (decryptU32 (wordsOf data) key).flatMap bytesOf ++ tailOf data)
      ∧ (∀ n, Set.BijOn (fun data => decryptBytes data key)
        {data | data.length = n} {data | data.length = n})
      ∧ (∀ data, encryptBytes (decryptBytes data key) key = data)
      ∧ ∀ data, decryptBytes (encryptBytes data key) key = data := by
  refine ⟨fun data => ⟨(decryptBytes_parts data key).2, (decryptBytes_parts data key).1, ?_⟩, ?_,
    fun data => encryptBytes_decryptBytes data key, fun data => decryptBytes_encryptBytes data key⟩
  · unfold decryptBytes decryptU32
    rw [decryptFrom_eq, decryptWords_eq]
  · exact Lib.bijOn_length_of_inverse (fun data => length_decryptBytes data key)
      (fun data => length_encryptBytes data key) (fun data => encryptBytes_decryptBytes data key)
      fun data => decryptBytes_encryptBytes data key

end Spectre.Mpq

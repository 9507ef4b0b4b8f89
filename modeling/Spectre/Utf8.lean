/-
Well-formed UTF-8, and what `from_utf8_lossy` makes of it.

Every string that leaves the program is a `String`, so its bytes are
the encodings of characters (`IsUtf8`). Every string that enters it
goes through `from_utf8_lossy`, which changes nothing of such bytes
(`fromUtf8Lossy_eq`): it reads off the characters one by one.
-/
import Spectre.Rust

namespace Spectre

/-- The bytes are the encodings of characters, as a `String`'s are. -/
def IsUtf8 (t : Text) : Prop := ∃ chars : List Char, t = chars.flatMap String.utf8EncodeChar

theorem toNat_byte {n : Nat} (h : n < 256) : (UInt8.ofNat n).toNat = n := by
  rw [UInt8.toNat_ofNat']
  exact Nat.mod_eq_of_lt h

/-- A byte that carries six bits of a character is a continuation
byte. -/
theorem isCont_byte (n : Nat) : isCont (UInt8.ofNat (n % 0x40 + 0x80)) = true := by
  have h := toNat_byte (n := n % 0x40 + 0x80) (by omega)
  simp only [isCont, Bool.and_eq_true, decide_eq_true_eq, UInt8.le_iff_toNat_le, h]
  exact ⟨Nat.le_add_left _ _, by simp; omega⟩

/-- A byte is compared by its value. -/
theorem byte_le_iff {n : Nat} (h : n < 256) (b : UInt8) : UInt8.ofNat n ≤ b ↔ n ≤ b.toNat := by
  rw [UInt8.le_iff_toNat_le, toNat_byte h]

theorem le_byte_iff {n : Nat} (h : n < 256) (b : UInt8) : b ≤ UInt8.ofNat n ↔ b.toNat ≤ n := by
  rw [UInt8.le_iff_toNat_le, toNat_byte h]

theorem byte_lt_iff {n : Nat} (h : n < 256) (b : UInt8) : UInt8.ofNat n < b ↔ n < b.toNat := by
  rw [UInt8.lt_iff_toNat_lt, toNat_byte h]

theorem byte_eq_iff {n : Nat} (h : n < 256) (b : UInt8) : UInt8.ofNat n = b ↔ n = b.toNat := by
  rw [← UInt8.toNat_inj, toNat_byte h]

/-- The first byte of an encoding announces its length. -/
theorem utf8Width_one {n : Nat} (h : n ≤ 0x7F) : utf8Width (UInt8.ofNat n) = 1 := by
  unfold utf8Width
  rw [if_pos ((byte_lt_iff (by omega) _).2 (by simp; omega))]

theorem utf8Width_two {n : Nat} (hlo : 0xC2 ≤ n) (hhi : n ≤ 0xDF) :
    utf8Width (UInt8.ofNat n) = 2 := by
  have hn : n < 256 := by omega
  unfold utf8Width
  simp only [byte_lt_iff hn, byte_le_iff hn, le_byte_iff hn]
  rw [if_neg (by simp; omega), if_pos (by simp; omega)]

theorem utf8Width_three {n : Nat} (hlo : 0xE0 ≤ n) (hhi : n ≤ 0xEF) :
    utf8Width (UInt8.ofNat n) = 3 := by
  have hn : n < 256 := by omega
  unfold utf8Width
  simp only [byte_lt_iff hn, byte_le_iff hn, le_byte_iff hn]
  rw [if_neg (by simp; omega), if_neg (by simp; omega), if_pos (by simp; omega)]

theorem utf8Width_four {n : Nat} (hlo : 0xF0 ≤ n) (hhi : n ≤ 0xF4) :
    utf8Width (UInt8.ofNat n) = 4 := by
  have hn : n < 256 := by omega
  unfold utf8Width
  simp only [byte_lt_iff hn, byte_le_iff hn, le_byte_iff hn]
  rw [if_neg (by simp; omega), if_neg (by simp; omega), if_neg (by simp; omega),
    if_pos (by simp; omega)]

/-- The second byte lies in the range the first one leaves it. -/
theorem secondRange_byte {n m : Nat} (hn : n < 256) (hm : m < 256) (hlo : 0x80 ≤ m) (hhi : m ≤ 0xBF)
    (hE0 : n = 0xE0 → 0xA0 ≤ m) (hED : n = 0xED → m ≤ 0x9F)
    (hF0 : n = 0xF0 → 0x90 ≤ m) (hF4 : n = 0xF4 → m ≤ 0x8F) :
    ((secondRange (UInt8.ofNat n)).1 ≤ UInt8.ofNat m
      && UInt8.ofNat m ≤ (secondRange (UInt8.ofNat n)).2) = true := by
  unfold secondRange
  simp only [byte_eq_iff hn]
  rw [Bool.and_eq_true, decide_eq_true_iff, decide_eq_true_iff, le_byte_iff hm, byte_le_iff hm]
  split
  · exact ⟨hE0 ‹_›, hhi⟩
  split
  · exact ⟨hlo, hED ‹_›⟩
  split
  · exact ⟨hF0 ‹_›, hhi⟩
  split
  · exact ⟨hlo, hF4 ‹_›⟩
  · exact ⟨hlo, hhi⟩

/-- A character's encoding is read as one well-formed character, of the
encoding's length. -/
theorem utf8Next_encodeChar (c : Char) (rest : Text) :
    ∃ b tail, String.utf8EncodeChar c = b :: tail
      ∧ utf8Next b (tail ++ rest) = (true, tail.length + 1) := by
  have hvalid : c.val.toNat < 0xD800 ∨ 0xDFFF < c.val.toNat ∧ c.val.toNat < 0x110000 := c.valid
  unfold String.utf8EncodeChar
  generalize c.val.toNat = v at hvalid
  dsimp only
  split
  · exact ⟨_, _, rfl, by simp [utf8Next, utf8Width_one ‹_›]⟩
  split
  · refine ⟨_, _, rfl, ?_⟩
    have hwidth := utf8Width_two (n := v / 64 % 0x20 + 0xC0) (by omega) (by omega)
    simp only [utf8Next, hwidth, List.cons_append, List.nil_append, isCont_byte, if_true]
    rfl
  split
  · refine ⟨_, _, rfl, ?_⟩
    have hwidth := utf8Width_three (n := v / 4096 % 0x10 + 0xE0) (by omega) (by omega)
    -- neither an overlong form nor a surrogate
    have hsecond :=
      secondRange_byte (n := v / 4096 % 0x10 + 0xE0) (m := v / 64 % 0x40 + 0x80) (by omega)
      (by omega) (by omega) (by omega) (by omega) (by omega) (by omega) (by omega)
    simp only [utf8Next, hwidth, List.cons_append, List.nil_append, hsecond, isCont_byte, if_true]
    rfl
  · refine ⟨_, _, rfl, ?_⟩
    have hwidth := utf8Width_four (n := v / 262144 % 0x08 + 0xF0) (by omega) (by omega)
    have hsecond :=
      secondRange_byte (n := v / 262144 % 0x08 + 0xF0) (m := v / 4096 % 0x40 + 0x80) (by omega)
      (by omega) (by omega) (by omega) (by omega) (by omega) (by omega) (by omega)
    simp only [utf8Next, hwidth, List.cons_append, List.nil_append, hsecond, isCont_byte, if_true]
    rfl

/-- Fuel for every byte is fuel for every character. -/
theorem fromUtf8LossyAux_encode (chars : List Char) (fuel : Nat)
    (hfuel : (chars.flatMap String.utf8EncodeChar).length ≤ fuel) :
    fromUtf8LossyAux fuel (chars.flatMap String.utf8EncodeChar) = chars.flatMap
      String.utf8EncodeChar := by
  induction chars generalizing fuel with
  | nil => cases fuel <;> rfl
  | cons c chars ih =>
      obtain ⟨b, tail, hc, hnext⟩ := utf8Next_encodeChar c (chars.flatMap String.utf8EncodeChar)
      rw [List.flatMap_cons, hc] at hfuel ⊢
      rw [List.length_append, List.length_cons] at hfuel
      obtain ⟨fuel, rfl⟩ : ∃ m, fuel = m + 1 := ⟨fuel - 1, by omega⟩
      rw [List.cons_append]
      unfold fromUtf8LossyAux
      rw [hnext]
      dsimp only
      rw [if_pos rfl, ← List.cons_append, List.take_left' (by simp), List.drop_left' (by simp),
        ih fuel (by omega)]

/-- Nothing of a well-formed string is replaced. -/
theorem fromUtf8Lossy_eq {t : Text} (h : IsUtf8 t) : fromUtf8Lossy t = t := by
  obtain ⟨chars, rfl⟩ := h
  exact fromUtf8LossyAux_encode chars _ (Nat.le_refl _)

end Spectre

/-
Which CD-keys are decoded.

A key should be decoded only if its characters are of the alphabet of
its kind and, for the older kinds, its checksum is right (`Is13`,
`Is16`, `Is26`). Both older decoders check each character. The newest
does not: it takes what the table has for it, and where the table says
that the character is not of the alphabet it computes with minus one.
As the length is counted in bytes, the twenty-six need not even be that
many characters.

`decode_cd_key_ok_iff` says that this is the only way in which a string
that is no key is decoded, and that nothing else goes wrong.
-/
import Spectre.CdKey
import Spectre.CdKeyBits

namespace Spectre.Bnet

open Lib Lib.Checked
open Mpq (wordOf bytesOf length_bytesOf)

-- ============================================================== what a key is

/-- The key without dashes and spaces. -/
def stripped (cdkey : List Char) : List Char := cdkey.filter fun c => c != '-' && c != ' '

/-- What the map has for a character; characters beyond it are in no
alphabet. -/
def mapEntry (map : List UInt8) (c : Char) : UInt8 := map.getD c.toNat 0xFF

/-- The checksum of digits. -/
def sumOf (digits : List Nat) : Nat := digits.foldl (fun v d => v + (d ^^^ v * 2)) 3

/-- The value of a digit. -/
def digitOf (c : Char) : Nat := c.toNat - 48

/-- Thirteen digits, of which the last is the checksum of the others. -/
def Is13 (key : List Char) : Prop :=
  key.length = 13 ∧ (∀ c ∈ key, c.isDigit = true)
    ∧ (key.drop 12).map digitOf = [sumOf ((key.take 12).map digitOf) % 10]

/-- The numbers that pairs of characters stand for. -/
def pairValues : List Nat → List Nat
  | c1 :: c2 :: rest => (c2 + 24 * c1) :: pairValues rest
  | _ => []

/-- The lowest two hexadecimal digits of numbers. -/
def hexDigits (ns : List Nat) : List Nat := ns.flatMap fun n => [n / 16 % 16, n % 16]

/-- Which of the numbers are more than a byte, as bits from the lowest. -/
def carries : List Nat → Nat
  | [] => 0
  | n :: ns => (if 0x100 ≤ n then 1 else 0) + 2 * carries ns

/-- Sixteen characters of the alphabet, with a checksum in the carries. -/
def Is16 (key : List Char) : Prop :=
  key.length = 16 ∧ (∀ c ∈ key, mapEntry w2Map c ≠ 0xFF)
    ∧ sumOf (hexDigits (pairValues (key.map fun c => (mapEntry w2Map c).toNat))) % 256
      = carries (pairValues (key.map fun c => (mapEntry w2Map c).toNat))

/-- Twenty-six characters of the alphabet. -/
def Is26 (key : List Char) : Prop := key.length = 26 ∧ ∀ c ∈ key, mapEntry w3KeyMap c ≠ 0xFF

/-- A CD-key, typed with dashes and spaces. -/
def IsCdKey (cdkey : List Char) : Prop :=
  Is13 (stripped cdkey) ∨ Is16 (stripped cdkey) ∨ Is26 (stripped cdkey)

-- ================================================================= characters

section Characters

variable {key : List Char} {c : Char}

/-- Every character takes a byte at least. -/
theorem length_le_utf8Len (key : List Char) : key.length ≤ utf8Len key := by
  induction key with
  | nil => exact Nat.le_refl 0
  | cons c key ih =>
      have hpos := c.utf8Size_pos
      unfold utf8Len at ih ⊢
      rw [List.length_cons, List.map_cons, List.sum_cons]
      omega

/-- An ASCII character takes one. -/
theorem utf8Size_ascii (h : c.toNat < 128) : c.utf8Size = 1 := by
  rw [Char.utf8Size_eq_one_iff, UInt32.le_iff_toNat_le]
  exact Nat.le_of_lt_succ h

/-- ASCII characters are as many as their bytes. -/
theorem utf8Len_ascii (h : ∀ c ∈ key, c.toNat < 128) : utf8Len key = key.length := by
  induction key with
  | nil => rfl
  | cons c key ih =>
      have hrest := ih fun d hd => h d (.tail _ hd)
      unfold utf8Len at hrest ⊢
      rw [List.map_cons, List.sum_cons, hrest, utf8Size_ascii (h c (.head _)), List.length_cons,
        Nat.add_comm]

/-- A digit is between these codes. -/
theorem digit_ascii (h : c.isDigit = true) : 48 ≤ c.toNat ∧ c.toNat ≤ 57 := by
  unfold Char.isDigit at h
  rw [Bool.and_eq_true, decide_eq_true_iff, decide_eq_true_iff] at h
  exact ⟨UInt32.le_iff_toNat_le.1 h.1, UInt32.le_iff_toNat_le.1 h.2⟩

/-- A map has nothing for what is not ASCII. -/
theorem mapEntry_ascii {map : List UInt8} (hall : ∀ b ∈ map.drop 128, b = 0xFF)
    (h : mapEntry map c ≠ 0xFF) : c.toNat < 128 := by
  refine Nat.lt_of_not_le fun hle => h ?_
  unfold mapEntry
  by_cases hlt : c.toNat < map.length
  · rw [List.getD_eq_getElem _ _ hlt]
    have hplace : 128 + (c.toNat - 128) = c.toNat := by omega
    refine hall _ (List.mem_drop_iff_getElem.2 ⟨c.toNat - 128, by omega, ?_⟩)
    simp only [hplace]
  · exact List.getD_eq_default _ _ (Nat.le_of_not_lt hlt)

set_option maxRecDepth 3000 in
/-- The upper half of the map is empty. -/
theorem drop_w2Map : w2Map.drop 128 = List.replicate 128 0xFF := rfl

set_option maxRecDepth 3000 in
/-- So is that of the other. -/
theorem drop_w3KeyMap : w3KeyMap.drop 128 = List.replicate 128 0xFF := rfl

/-- What is in the alphabet is ASCII. -/
theorem w2Map_ascii (h : mapEntry w2Map c ≠ 0xFF) : c.toNat < 128 := by
  refine mapEntry_ascii (fun b hb => ?_) h
  rw [drop_w2Map] at hb
  exact List.eq_of_mem_replicate hb

/-- The same, of the other alphabet. -/
theorem w3KeyMap_ascii (h : mapEntry w3KeyMap c ≠ 0xFF) : c.toNat < 128 := by
  refine mapEntry_ascii (fun b hb => ?_) h
  rw [drop_w3KeyMap] at hb
  exact List.eq_of_mem_replicate hb

end Characters

-- ================================================================ the checksum

/-- Without carries the sum is no larger. -/
theorem xor_le_add (a b : Nat) : a ^^^ b ≤ a + b := by
  induction a using Nat.strong_induction_on generalizing b with
  | _ a ih =>
      cases a with
      | zero => rw [Nat.zero_xor, Nat.zero_add]
      | succ a =>
          have hhalves := ih ((a + 1) / 2) (by omega) (b / 2)
          have hdiv : ((a + 1) ^^^ b) / 2 = (a + 1) / 2 ^^^ b / 2 := Nat.xor_div_two
          have hmod : ((a + 1) ^^^ b) % 2 = (a + 1 + b) % 2 := Nat.xor_mod_two_eq
          omega

/-- The checksum does not overflow: a digit makes it three times as
large at most, or a little more. -/
theorem foldlM_addToSum {bits : Nat} {digits : List Nat} {v : Nat} (hdigits : ∀ d ∈ digits, d < 16)
    (hfits : 3 ^ digits.length * (v + 8) ≤ 2 ^ bits) :
    (digits.foldlM (addToSum bits) v : KeyRes Nat)
      = .ok (digits.foldl (fun v d => v + (d ^^^ v * 2)) v) := by
  induction digits generalizing v with
  | nil => rfl
  | cons d digits ih =>
      have hd := hdigits d (.head _)
      have hxor := xor_le_add d (v * 2)
      have hpow : 1 ≤ 3 ^ digits.length := Nat.one_le_pow _ _ (by decide)
      rw [List.length_cons, Nat.pow_succ, Nat.mul_assoc] at hfits
      have hhere : 3 * (v + 8) ≤ 2 ^ bits :=
        Nat.le_trans (Nat.le_mul_of_pos_left _ hpow) hfits
      have hnext : 3 ^ digits.length * (v + (d ^^^ v * 2) + 8) ≤ 2 ^ bits :=
        Nat.le_trans (Nat.mul_le_mul_left _ (by omega)) hfits
      have hstep : (addToSum bits v d : KeyRes Nat) = .ok (v + (d ^^^ v * 2)) := by
        unfold addToSum
        rw [mul_eq (by omega), ok_bind, add_eq (by omega)]
      rw [List.foldlM_cons, hstep, ok_bind, List.foldl_cons]
      exact ih (fun x hx => hdigits x (.tail _ hx)) hnext

/-- The checksum of the digits, which stays within its width. -/
theorem foldlM_sumOf {bits : Nat} {digits : List Nat} (hdigits : ∀ d ∈ digits, d < 16)
    (hfits : 3 ^ digits.length * (3 + 8) ≤ 2 ^ bits) :
    (digits.foldlM (addToSum bits) 3 : KeyRes Nat) = .ok (sumOf digits) :=
  foldlM_addToSum hdigits hfits

-- =================================================================== the arrays

section Arrays

variable {bytes : List UInt8} {key : List Char} {n i j : Nat}

/-- The characters are put in, or one of them is refused. -/
theorem fillBytes_spec {accepts : Char → KeyRes Bool} {p : Char → Bool}
    (haccepts : ∀ c, accepts c = .ok (p c)) (hfits : i + key.length ≤ bytes.length) :
    ((∀ c ∈ key, p c = true) ∧ fillBytes accepts bytes i key
        = .ok (bytes.take i ++ key.map (fun c => c.toNat.toUInt8) ++ bytes.drop (i + key.length)))
      ∨ ∃ c, fillBytes accepts bytes i key = .err (.invalidChar c) := by
  induction key generalizing bytes i with
  | nil =>
      refine .inl ⟨fun c hc => (nomatch hc), ?_⟩
      rw [List.map_nil, List.append_nil, List.length_nil, Nat.add_zero, List.take_append_drop]
      rfl
  | cons c key ih =>
      rw [List.length_cons] at hfits ⊢
      unfold fillBytes
      rw [haccepts c, ok_bind]
      cases hc : p c with
      | false => exact .inr ⟨c, rfl⟩
      | true =>
          have hrest : i + 1 + key.length ≤ (bytes.set i c.toNat.toUInt8).length := by
            rw [List.length_set]
            omega
          rw [if_pos rfl, store_eq _ (by omega), ok_bind]
          rcases ih hrest with ⟨hall, hfilled⟩ | hrefused
          · refine .inl ⟨fun d hd => ?_, ?_⟩
            · rcases List.mem_cons.1 hd with rfl | hd
              · exact hc
              · exact hall d hd
            · have htake : (bytes.set i c.toNat.toUInt8).take (i + 1)
                  = bytes.take i ++ [c.toNat.toUInt8] := by
                rw [List.take_succ_eq_append_getElem (by rw [List.length_set]; omega),
                  List.getElem_set_self, List.take_set_of_le (Nat.le_refl i)]
              rw [hfilled, htake, List.drop_set_of_lt (by omega), List.map_cons,
                List.append_assoc (bytes.take i), List.singleton_append, Nat.add_assoc i 1,
                Nat.add_comm 1]
          · exact .inr hrefused

/-- An array of ASCII characters. -/
def AsciiBytes (n : Nat) (bytes : List UInt8) : Prop :=
  bytes.length = n ∧ ∀ b ∈ bytes, b.toNat < 128

/-- A character is replaced by another. -/
theorem AsciiBytes.set (h : AsciiBytes n bytes) {b : UInt8} (hb : b.toNat < 128) :
    AsciiBytes n (bytes.set i b) := by
  refine ⟨(List.length_set ..).trans h.1, fun x hx => ?_⟩
  rcases List.mem_or_eq_of_mem_set hx with hx | rfl
  · exact h.2 x hx
  · exact hb

/-- What is read out is ASCII. -/
theorem AsciiBytes.index (h : AsciiBytes n bytes) (hi : i < n) :
    ∃ b : UInt8, b.toNat < 128 ∧ (index bytes i : KeyRes UInt8) = .ok b := by
  have hlt : i < bytes.length := h.1.symm ▸ hi
  exact ⟨bytes[i], h.2 _ (List.getElem_mem hlt), index_eq hlt⟩

/-- An ASCII character is written. -/
theorem AsciiBytes.store (h : AsciiBytes n bytes) (hi : i < n) {b : UInt8} (hb : b.toNat < 128) :
    Holds (AsciiBytes n) (store bytes i b : KeyRes (List UInt8)) := by
  rw [store_eq _ (h.1.symm ▸ hi)]
  exact Holds.ok (h.set hb)

/-- Two characters change places. -/
theorem AsciiBytes.swap (h : AsciiBytes n bytes) (hi : i < n) (hj : j < n) :
    Holds (AsciiBytes n) (swapBytesAt bytes i j) := by
  obtain ⟨a, ha, hfirst⟩ := h.index hi
  obtain ⟨b, hb, hsecond⟩ := h.index hj
  unfold swapBytesAt
  rw [hfirst, ok_bind, hsecond, ok_bind]
  exact (h.store hi hb).bind fun bytes hbytes => hbytes.store hj ha

/-- Upper case is ASCII too. -/
theorem asciiUpper_lt {b : UInt8} (h : b.toNat < 128) : (asciiUpper b).toNat < 128 := by
  unfold asciiUpper
  split
  · next hlower =>
      have hle : (32 : UInt8) ≤ b := UInt8.le_trans (by decide) hlower.1
      rw [UInt8.toNat_sub_of_le _ _ hle]
      omega
  · exact h

/-- Seven bits stay seven. -/
theorem xor_ascii {a b : UInt8} (ha : a.toNat < 128) (hb : b.toNat < 128) :
    (a ^^^ b).toNat < 128 := by
  rw [UInt8.toNat_xor]
  have hpow : a.toNat ^^^ b.toNat < 2 ^ 7 := Nat.xor_lt_two_pow ha hb
  exact hpow

/-- The unmasking of a character is an ASCII character. -/
theorem AsciiBytes.unmask (h : AsciiBytes n bytes) (hj : j < n) (hashKey : Nat) :
    Holds (fun st => AsciiBytes n st.1) (unmask (bytes, hashKey) j) := by
  obtain ⟨b, hb, hread⟩ := h.index hj
  have hupper := asciiUpper_lt hb
  have hbits : (hashKey &&& 7).toUInt8.toNat < 128 := by
    have hle : hashKey &&& 7 ≤ 7 := Nat.and_le_right
    rw [Nat.toUInt8_eq, UInt8.toNat_ofNat']
    omega
  have hparity : (j.toUInt8 &&& 1).toNat < 128 := by
    have hle : j.toUInt8.toNat &&& 1 ≤ 1 := Nat.and_le_right
    rw [UInt8.toNat_and]
    exact Nat.lt_of_le_of_lt hle (by decide)
  unfold Bnet.unmask
  dsimp only
  rw [hread, ok_bind]
  split
  · exact (h.store hj (xor_ascii hupper hbits)).bind fun bytes hbytes => Holds.ok hbytes
  · split
    · exact (h.store hj (xor_ascii hupper hparity)).bind fun bytes hbytes => Holds.ok hbytes
    · exact (h.store hj hupper).bind fun bytes hbytes => Holds.ok hbytes

/-- The two loops behind the checksum. -/
theorem AsciiBytes.unmasked (h : AsciiBytes n bytes) {m : Nat} (hm : m ≤ n) (hashKey : Nat) :
    Holds (fun st => AsciiBytes n st.1)
      ((List.range m).reverse.foldlM Bnet.unmask (bytes, hashKey)) := by
  refine holds_foldlM h fun st j hj hst => ?_
  rw [List.mem_reverse, List.mem_range] at hj
  exact hst.unmask (Nat.lt_of_lt_of_le hj hm) st.2

/-- One step of the reordering of a key of thirteen. -/
theorem AsciiBytes.reorder13 (h : AsciiBytes 13 bytes) {pos : Nat} (hpos : pos < 13) :
    Holds (AsciiBytes 13) (reorder13 bytes pos i) := by
  induction bytes, pos, i using reorder13.induct with
  | case1 bytes pos i hi ih =>
      unfold Bnet.reorder13
      rw [if_pos hi]
      exact (h.swap hpos (by omega)).bind fun bytes hbytes => ih bytes hbytes (by omega)
  | case2 bytes pos i hi =>
      unfold Bnet.reorder13
      rw [if_neg hi]
      exact Holds.ok h

/-- One step of that of a key of sixteen. -/
theorem AsciiBytes.reorder16 (h : AsciiBytes 16 bytes) (hj : j < 16) :
    Holds (AsciiBytes 16) (reorder16 bytes j) := by
  have hplace : ∀ n, n &&& 0xF < 16 := fun n => Nat.lt_succ_of_le Nat.and_le_right
  unfold Bnet.reorder16
  by_cases hhigh : 8 < j
  · rw [if_pos hhigh, sub_eq hhigh, ok_bind]
    exact h.swap hj (hplace _)
  · rw [if_neg hhigh, sub_eq (Nat.le_of_not_lt hhigh), ok_bind, sub_eq (by omega), ok_bind]
    exact h.swap hj (hplace _)

-- ------------------------------------------------------------------- as strings

/-- An ASCII byte continues no character. -/
theorem ascii_not_cont {b : UInt8} (h : b.toNat < 128) : isCont b = false := by
  unfold isCont
  rw [Bool.and_eq_false_iff, decide_eq_false_iff_not]
  exact .inl fun hle => absurd (UInt8.le_iff_toNat_le.1 hle) (Nat.not_le.2 h)

/-- ASCII is valid UTF-8. -/
theorem AsciiBytes.valid (h : ∀ b ∈ bytes, b.toNat < 128) {fuel : Nat}
    (hfuel : bytes.length ≤ fuel) :
    validUtf8Aux fuel bytes = true := by
  induction bytes generalizing fuel with
  | nil =>
      unfold validUtf8Aux
      rfl
  | cons b bytes ih =>
      cases fuel with
      | zero => exact absurd hfuel (Nat.not_succ_le_zero _)
      | succ fuel =>
          have hnext : utf8Next b bytes = (true, 1) := by
            have hwidth : utf8Width b = 1 := if_pos (UInt8.lt_iff_toNat_lt.2 (h b (.head _)))
            unfold utf8Next
            rw [hwidth]
            rfl
          unfold validUtf8Aux
          rw [hnext]
          exact ih (fun x hx => h x (.tail _ hx)) (Nat.le_of_succ_le_succ hfuel)

/-- So the bytes are a string again. -/
theorem AsciiBytes.fromUtf8 (h : AsciiBytes n bytes) : fromUtf8 bytes = .ok bytes :=
  if_pos (AsciiBytes.valid h.2 (Nat.le_refl _))

/-- It may be cut anywhere. -/
theorem AsciiBytes.boundary (h : AsciiBytes n bytes) (hi : i ≤ n) :
    isCharBoundary bytes i = true := by
  unfold isCharBoundary
  rw [Bool.or_eq_true, beq_iff_eq]
  rcases Nat.lt_or_eq_of_le hi with hlt | heq
  · have hlen : i < bytes.length := h.1.symm ▸ hlt
    rw [List.getElem?_eq_getElem hlen]
    exact .inr (congrArg not (ascii_not_cont (h.2 _ (List.getElem_mem hlen))))
  · exact .inl (heq.trans h.1.symm)

/-- A number is read from a part of the string, or it is none. -/
theorem AsciiBytes.number (h : AsciiBytes n bytes) (parse : Text → Option Nat) (hij : i ≤ j)
    (hj : j ≤ n) :
    (number parse bytes i j).Returns := by
  unfold Bnet.number sliceStr
  rw [h.boundary (Nat.le_trans hij hj), h.boundary hj, Bool.and_true, if_pos rfl,
    slice_eq hij (h.1.symm ▸ hj), ok_bind]
  cases parse ((bytes.drop i).take (j - i)) with
  | some v => exact trivial
  | none => exact trivial

end Arrays

-- ================================================================ the older keys

section Older

variable {key : List Char}

/-- A code below 128 is its own byte. -/
theorem toNat_byte_of_ascii {c : Char} (h : c.toNat < 128) : c.toNat.toUInt8.toNat = c.toNat := by
  rw [Nat.toUInt8_eq, UInt8.toNat_ofNat']
  omega

/-- The bytes of ASCII characters. -/
theorem asciiBytes_map (h : ∀ c ∈ key, c.toNat < 128) :
    AsciiBytes key.length (key.map fun c => c.toNat.toUInt8) := by
  refine ⟨List.length_map _, fun b hb => ?_⟩
  obtain ⟨c, hc, rfl⟩ := List.mem_map.1 hb
  rw [toNat_byte_of_ascii (h c hc)]
  exact h c hc

/-- An array that is filled has the characters and nothing else. -/
theorem fillBytes_full {accepts : Char → KeyRes Bool} {p : Char → Bool} {n : Nat}
    (haccepts : ∀ c, accepts c = .ok (p c)) (hascii : ∀ c, p c = true → c.toNat < 128)
    (hlen : utf8Len key = n) :
    (key.length = n ∧ (∀ c ∈ key, p c = true)
        ∧ fillBytes accepts (List.replicate n 0) 0 key = .ok (key.map fun c => c.toNat.toUInt8))
      ∨ ∃ c, fillBytes accepts (List.replicate n 0) 0 key = .err (.invalidChar c) := by
  have hle : 0 + key.length ≤ (List.replicate n (0 : UInt8)).length := by
    rw [List.length_replicate, Nat.zero_add, ← hlen]
    exact length_le_utf8Len key
  rcases fillBytes_spec haccepts hle with ⟨hall, hfilled⟩ | hrefused
  · have hcount : key.length = n := (utf8Len_ascii fun c hc => hascii c (hall c hc)).symm.trans hlen
    refine .inl ⟨hcount, hall, ?_⟩
    rw [hfilled, Nat.zero_add, hcount, List.drop_replicate, Nat.sub_self, List.replicate_zero,
      List.append_nil, List.take_zero, List.nil_append]
  · exact .inr hrefused

/-- A digit is less than sixteen. -/
theorem digitOf_lt {c : Char} (h : c.isDigit = true) : digitOf c < 16 := by
  have hrange := digit_ascii h
  unfold digitOf
  omega

/-- The checksum is made of the digits. -/
theorem foldlM_digits {digits : List Char} (hdigits : ∀ c ∈ digits, c.isDigit = true) (v : Nat) :
    ((digits.map fun c => c.toNat.toUInt8).foldlM (fun accum b => do
        let digit ← sub (asciiLower b).toNat 48
        addToSum 31 accum digit) v : KeyRes Nat)
      = (digits.map digitOf).foldlM (addToSum 31) v := by
  induction digits generalizing v with
  | nil => rfl
  | cons c digits ih =>
      have hrange := digit_ascii (hdigits c (.head _))
      have hbyte := toNat_byte_of_ascii (c := c) (by omega)
      have hlower : asciiLower c.toNat.toUInt8 = c.toNat.toUInt8 := by
        refine if_neg fun hupper => ?_
        have hle := UInt8.le_iff_toNat_le.1 hupper.1
        rw [hbyte] at hle
        exact absurd hrange.2 (Nat.not_le.2 (Nat.lt_of_lt_of_le (by decide) hle))
      rw [List.map_cons, List.map_cons, List.foldlM_cons, List.foldlM_cons, hlower, hbyte,
        sub_eq hrange.1, ok_bind]
      refine congrArg _ (funext fun accum => ?_)
      exact ih (fun x hx => hdigits x (.tail _ hx)) accum

/-- Thirteen bytes are decoded only if they are a key. -/
theorem decode13CharKey_spec (hlen : utf8Len key = 13) :
    (decode13CharKey key).Holds fun _ => Is13 key := by
  have hascii : ∀ c : Char, c.isDigit = true → c.toNat < 128 := fun c hc =>
    Nat.lt_of_le_of_lt (digit_ascii hc).2 (by decide)
  have haccepts : ∀ c : Char, (fun c => .ok c.isDigit : Char → KeyRes Bool) c = .ok c.isDigit :=
    fun _ => rfl
  unfold decode13CharKey
  rcases fillBytes_full haccepts hascii hlen with
    ⟨hcount, hall, hfilled⟩ | ⟨c, hrefused⟩
  · have hbytes := asciiBytes_map fun c hc => hascii c (hall c hc)
    rw [hcount] at hbytes
    have htaken : ∀ c ∈ key.take 12, c.isDigit = true := fun c hc =>
      hall c (List.mem_of_mem_take hc)
    have hdigits : ∀ d ∈ (key.take 12).map digitOf, d < 16 := by
      intro d hd
      obtain ⟨c, hc, rfl⟩ := List.mem_map.1 hd
      exact digitOf_lt (htaken c hc)
    -- each of the twelve digits at most triples the sum, which fits an i32
    have hfits : 3 ^ ((key.take 12).map digitOf).length * (3 + 8) ≤ 2 ^ 31 := by
      rw [List.length_map, List.length_take, hcount]
      decide
    have hlast : 12 < key.length := by omega
    have hrange := digit_ascii (hall _ (List.getElem_mem hlast))
    have hread : (index (key.map fun c => c.toNat.toUInt8) 12 : KeyRes UInt8)
      = .ok key[12].toNat.toUInt8 := by
      rw [index_eq (by rw [List.length_map]; exact hlast), List.getElem_map]
    have hcheck : (sub key[12].toNat.toUInt8.toNat 48 : KeyRes Nat) = .ok (digitOf key[12]) := by
      rw [toNat_byte_of_ascii (by omega), sub_eq hrange.1]
      rfl
    -- the checksum runs over the first twelve, the last digit is what it must be
    rw [hfilled, ok_bind, ← List.map_take, foldlM_digits htaken, foldlM_sumOf hdigits hfits,
      ok_bind, hread, ok_bind, hcheck, ok_bind]
    by_cases hsum : sumOf ((key.take 12).map digitOf) % 10 = digitOf key[12]
    · have hkey : Is13 key := by
        refine ⟨hcount, hall, ?_⟩
        rw [List.drop_eq_getElem_cons hlast, List.drop_eq_nil_of_le (by omega), hsum]
        rfl
      rw [if_pos hsum, ok_bind]
      refine (hbytes.reorder13 (by decide)).bind fun bytes hbytes => ?_
      refine (hbytes.unmasked (by decide) _).bind fun st hst => ?_
      dsimp only
      rw [hst.fromUtf8, ok_bind]
      refine (hst.number _ (by decide) (by decide)).bind fun _ _ => ?_
      refine (hst.number _ (by decide) (by decide)).bind fun _ _ => ?_
      exact (hst.number _ (by decide) (by decide)).bind fun _ _ => Holds.ok hkey
    · rw [if_neg hsum]
      exact Holds.err _
  · rw [hrefused]
    exact Holds.err _

-- ----------------------------------------------------------------- the sixteen

set_option maxRecDepth 3000 in
/-- The map has an entry for every byte. -/
theorem length_w2Map : w2Map.length = 256 := rfl

set_option maxRecDepth 4000 in
/-- The values of the alphabet are below 24. -/
theorem w2Map_values : w2Map.all (fun e => e == 0xFF || e < 24) = true := rfl

/-- A character is accepted if it is in the alphabet. -/
theorem acceptsW2_eq (c : Char) : acceptsW2 c = .ok (mapEntry w2Map c != 0xFF) := by
  have hlen := length_w2Map
  unfold acceptsW2 mapEntry
  by_cases hc : 256 ≤ c.toNat
  · rw [if_pos hc, List.getD_eq_default _ _ (by omega)]
    rfl
  · rw [if_neg hc, index_getD 0xFF (by omega), ok_bind]
    rfl

/-- The alphabet has twenty-four characters. -/
theorem w2Map_lt {b : UInt8} (h : w2Map.getD b.toNat 0xFF ≠ 0xFF) :
    (w2Map.getD b.toNat 0xFF).toNat < 24 := by
  have hlen := length_w2Map
  have hb := b.toNat_lt
  rw [List.getD_eq_getElem _ _ (by omega)] at h ⊢
  have hin : b.toNat < w2Map.length := by omega
  have hvalue := List.all_eq_true.1 w2Map_values _ (List.getElem_mem hin)
  rw [Bool.or_eq_true, beq_iff_eq, decide_eq_true_eq] at hvalue
  exact UInt8.lt_iff_toNat_lt.1 (hvalue.resolve_left h)

/-- The hexadecimal digit is that of the lowest four bits. -/
theorem getHexValue_congr {n m : Nat} (h : n % 16 = m % 16) : getHexValue n = getHexValue m := by
  unfold getHexValue
  rw [show n &&& 0xF = n % 16 from Nat.and_two_pow_sub_one_eq_mod n 4,
    show m &&& 0xF = m % 16 from Nat.and_two_pow_sub_one_eq_mod m 4, h]

/-- It is read back as these four bits. -/
theorem getNumValue_getHexValue (n : Nat) : getNumValue (getHexValue n) = n % 16 := by
  have hall : ∀ v < 16, getNumValue (getHexValue v) = v := by decide
  rw [getHexValue_congr (Nat.mod_mod n 16).symm, hall _ (Nat.mod_lt n (by decide))]

/-- It is an ASCII character. -/
theorem getHexValue_ascii (n : Nat) : (getHexValue n).toNat < 128 := by
  have hall : ∀ v < 16, (getHexValue v).toNat < 128 := by decide
  rw [getHexValue_congr (Nat.mod_mod n 16).symm]
  exact hall _ (Nat.mod_lt n (by decide))

/-- What the bytes of characters have in the map. -/
def values (bytes : List UInt8) : List Nat := bytes.map fun b => (w2Map.getD b.toNat 0xFF).toNat

/-- The hexadecimal digits, as they are written. -/
def hexBytes (ns : List Nat) : List UInt8 := ns.flatMap fun n =>
  [getHexValue (n / 16), getHexValue n]

/-- The two digits written for a pair. -/
theorem joinPair_eq {start rest : List UInt8} {b0 b1 : UInt8} {i checksum : Nat} (hi : i < 31)
    (hstart : start.length = 2 * i) (h0 : w2Map.getD b0.toNat 0xFF ≠ 0xFF)
    (h1 : w2Map.getD b1.toNat 0xFF ≠ 0xFF) (hsum : checksum < 2 ^ i) {n : Nat}
    (hn : n = (w2Map.getD b1.toNat 0xFF).toNat + 24 * (w2Map.getD b0.toNat 0xFF).toNat) :
    joinPair (start ++ b0 :: b1 :: rest, 2 ^ i, checksum) (2 * i)
      = .ok (start ++ getHexValue (n / 16) :: getHexValue n :: rest, 2 ^ (i + 1),
          checksum + 2 ^ i * (if 0x100 ≤ n then 1 else 0)) := by
  have hlen := length_w2Map
  -- both letters are in the table, with values below twenty-four
  have hlt0 := w2Map_lt h0
  have hlt1 := w2Map_lt h1
  have hread0 : (index (start ++ b0 :: b1 :: rest) (2 * i) : KeyRes UInt8) = .ok b0 := by
    rw [index_eq_ok, List.getElem?_append_right (Nat.le_of_eq hstart), hstart, Nat.sub_self]
    rfl
  have hread1 : (index (start ++ b0 :: b1 :: rest) (2 * i + 1) : KeyRes UInt8) = .ok b1 := by
    rw [index_eq_ok, List.getElem?_append_right (by omega), hstart, Nat.add_sub_cancel_left]
    rfl
  have hfirst : (index w2Map b0.toNat : KeyRes UInt8) = .ok (w2Map.getD b0.toNat 0xFF) :=
    index_getD 0xFF (hlen ▸ b0.toNat_lt)
  have hsecond : (index w2Map b1.toNat : KeyRes UInt8) = .ok (w2Map.getD b1.toNat 0xFF) :=
    index_getD 0xFF (hlen ▸ b1.toNat_lt)
  have hvalue : (w2Map.getD b1.toNat 0xFF).toNat + (w2Map.getD b0.toNat 0xFF).toNat * 3 * 8
    = n := by omega
  -- two digits make at most 575; the bit above a byte goes into the checksum
  have hlow : (if 0x100 ≤ n then sub n 0x100 else .ok n : KeyRes Nat)
      = .ok (if 0x100 ≤ n then n - 0x100 else n) := by
    split
    · exact sub_eq ‹_›
    · rfl
  have hmod : (if 0x100 ≤ n then n - 0x100 else n) % 16 = n % 16 := by
    split <;> omega
  have hdiv : ((if 0x100 ≤ n then n - 0x100 else n) >>> 4) % 16 = n / 16 % 16 := by
    rw [Nat.shiftRight_eq_div_pow]
    split <;> omega
  -- the bit is new, so the or is a sum
  have hcarry : (if 0x100 ≤ n then checksum ||| 2 ^ i else checksum)
      = checksum + 2 ^ i * (if 0x100 ≤ n then 1 else 0) := by
    split
    · have hor := Nat.two_pow_add_eq_or_of_lt hsum 1
      rw [Nat.or_comm, Nat.add_comm, hor, Nat.mul_one]
    · rfl
  have hnext : (shl 32 (2 ^ i) 1 : KeyRes Nat) = .ok (2 ^ (i + 1)) := by
    have hpow : 2 ^ (i + 1) < 2 ^ 32 := Nat.pow_lt_pow_right (by decide) (by omega)
    rw [shl_eq (by decide), Nat.shiftLeft_eq, ← Nat.pow_add, Nat.mod_eq_of_lt hpow]
  unfold joinPair
  dsimp only
  rw [hread0, ok_bind, hfirst, ok_bind, mul_eq (by omega), ok_bind, hread1, ok_bind,
    hsecond, ok_bind, mul_eq (by omega), ok_bind, add_eq (by omega), ok_bind, hvalue, hlow, ok_bind,
    hcarry,
    getHexValue_congr hdiv, getHexValue_congr hmod,
    store_eq _ (by rw [List.length_append, hstart, List.length_cons]; omega), ok_bind,
    List.set_append_right _ _ (Nat.le_of_eq hstart), hstart, Nat.sub_self, List.set_cons_zero,
    store_eq _ (by rw [List.length_append, hstart, List.length_cons, List.length_cons]; omega),
    ok_bind, List.set_append_right _ _ (by omega), hstart, Nat.add_sub_cancel_left, hnext]
  rfl

/-- The loop over the pairs that are left. -/
theorem foldlM_joinPair {bytes start : List UInt8} {i count checksum : Nat} (hi : i + count ≤ 31)
    (hstart : start.length = 2 * i) (hcount : bytes.length = 2 * count)
    (hmap : ∀ b ∈ bytes, w2Map.getD b.toNat 0xFF ≠ 0xFF) (hsum : checksum < 2 ^ i) :
    ((List.range' i count).map (2 * ·)).foldlM joinPair (start ++ bytes, 2 ^ i, checksum)
      = .ok (start ++ hexBytes (pairValues (values bytes)), 2 ^ (i + count),
          checksum + 2 ^ i * carries (pairValues (values bytes))) := by
  induction count generalizing bytes start i checksum with
  | zero =>
      obtain rfl := List.eq_nil_of_length_eq_zero hcount
      rfl
  | succ count ih =>
      match bytes, hcount with
      | b0 :: b1 :: rest, hcount =>
          rw [List.length_cons, List.length_cons] at hcount
          have h0 := hmap b0 (.head _)
          have h1 := hmap b1 (.tail _ (.head _))
          have hrest : ∀ b ∈ rest, w2Map.getD b.toNat 0xFF ≠ 0xFF := fun b hb =>
            hmap b (.tail _ (.tail _ hb))
          let n := (w2Map.getD b1.toNat 0xFF).toNat + 24 * (w2Map.getD b0.toNat 0xFF).toNat
          have hnext : checksum + 2 ^ i * (if 0x100 ≤ n then 1 else 0) < 2 ^ (i + 1) := by
            rw [Nat.pow_succ]
            split <;> omega
          have hstart' : (start ++ [getHexValue (n / 16), getHexValue n]).length = 2 * (i + 1) := by
            rw [List.length_append, hstart]
            rfl
          have htail := ih (by omega) hstart' (by omega) hrest hnext
          rw [List.append_assoc, List.cons_append, List.cons_append, List.nil_append] at htail
          have hvalues : pairValues (values (b0 :: b1 :: rest)) = n :: pairValues (values rest) :=
            rfl
          have hcarries : checksum + 2 ^ i * carries (n :: pairValues (values rest))
              = checksum + 2 ^ i * (if 0x100 ≤ n then 1 else 0)
                + 2 ^ (i + 1) * carries (pairValues (values rest)) := by
            rw [show carries (n :: pairValues (values rest))
              = (if 0x100 ≤ n then 1 else 0) + 2 * carries (pairValues (values rest)) from rfl,
              Nat.mul_add, Nat.pow_succ, Nat.mul_assoc, Nat.add_assoc]
          rw [List.range'_succ, List.map_cons, List.foldlM_cons, joinPair_eq (by omega) hstart h0 h1
            hsum rfl, ok_bind, htail, hvalues, hcarries, Nat.add_right_comm i 1, List.append_assoc]
          rfl

/-- The digits are read again as they were written. -/
theorem getNumValue_hexBytes (ns : List Nat) : (hexBytes ns).map getNumValue = hexDigits ns := by
  induction ns with
  | nil => rfl
  | cons n ns ih =>
      unfold hexBytes hexDigits at ih ⊢
      rw [List.flatMap_cons, List.flatMap_cons, List.map_append, ih, List.map_cons,
        List.map_singleton, getNumValue_getHexValue, getNumValue_getHexValue]

/-- Two digits a number. -/
theorem length_hexBytes (ns : List Nat) : (hexBytes ns).length = 2 * ns.length := by
  induction ns with
  | nil => rfl
  | cons n ns ih =>
      unfold hexBytes at ih ⊢
      rw [List.flatMap_cons, List.length_append, ih, List.length_cons]
      exact Nat.add_comm _ _

/-- One number a pair. -/
theorem length_pairValues {count : Nat} {vs : List Nat} (h : vs.length = 2 * count) :
    (pairValues vs).length = count := by
  induction count generalizing vs with
  | zero =>
      obtain rfl := List.eq_nil_of_length_eq_zero h
      rfl
  | succ count ih =>
      match vs, h with
      | v0 :: v1 :: rest, h =>
          rw [List.length_cons, List.length_cons] at h
          exact congrArg (· + 1) (ih (by omega))

/-- The digits are ASCII characters. -/
theorem hexBytes_ascii (ns : List Nat) : ∀ b ∈ hexBytes ns, b.toNat < 128 := by
  intro b hb
  obtain ⟨n, -, hb⟩ := List.mem_flatMap.1 hb
  rcases List.mem_pair.1 hb with rfl | rfl
  · exact getHexValue_ascii _
  · exact getHexValue_ascii _

/-- Sixteen bytes are decoded only if they are a key. -/
theorem decode16CharKeyComponents_spec (hlen : utf8Len key = 16) :
    (decode16CharKeyComponents key).Holds fun _ => Is16 key := by
  unfold decode16CharKeyComponents
  rcases fillBytes_full acceptsW2_eq (fun c hc => w2Map_ascii (bne_iff_ne.1 hc)) hlen with
    ⟨hcount, hall, hfilled⟩ | ⟨c, hrefused⟩
  · have hascii : ∀ c ∈ key, c.toNat < 128 := fun c hc => w2Map_ascii (bne_iff_ne.1 (hall c hc))
    have hentries : values (key.map fun c => c.toNat.toUInt8)
        = key.map fun c => (mapEntry w2Map c).toNat := by
      unfold values
      rw [List.map_map]
      refine List.map_congr_left fun c hc => ?_
      rw [Function.comp_apply, toNat_byte_of_ascii (hascii c hc)]
      rfl
    have hmap : ∀ b ∈ key.map (fun c => c.toNat.toUInt8), w2Map.getD b.toNat 0xFF ≠ 0xFF := by
      intro b hb
      obtain ⟨c, hc, rfl⟩ := List.mem_map.1 hb
      rw [toNat_byte_of_ascii (hascii c hc)]
      exact bne_iff_ne.1 (hall c hc)
    have hbytes : (key.map fun c => c.toNat.toUInt8).length = 2 * 8 := by
      rw [List.length_map, hcount]
    have hloop : ((List.range 8).map (2 * ·)).foldlM joinPair
      (key.map fun c => c.toNat.toUInt8, 1, 0)
        = .ok (hexBytes (pairValues (values (key.map fun c => c.toNat.toUInt8))), 2 ^ 8,
          0 + 2 ^ 0 * carries (pairValues (values (key.map fun c => c.toNat.toUInt8)))) := by
      have hempty : ([] : List UInt8).length = 2 * 0 := rfl
      rw [List.range_eq_range']
      exact foldlM_joinPair (by decide) hempty hbytes hmap (by decide)
    rw [Nat.pow_zero, Nat.one_mul, Nat.zero_add, hentries] at hloop
    have hpairs : (pairValues (key.map fun c => (mapEntry w2Map c).toNat)).length = 8 := by
      refine length_pairValues ?_
      rw [List.length_map, hcount]
    -- the digits of eight pairs
    generalize hns : pairValues (key.map fun c => (mapEntry w2Map c).toNat) = ns at hloop hpairs
    have hhex : AsciiBytes 16 (hexBytes ns) := by
      refine ⟨?_, hexBytes_ascii ns⟩
      rw [length_hexBytes, hpairs]
    have hdigits : ∀ d ∈ hexDigits ns, d < 16 := by
      intro d hd
      obtain ⟨n, -, hd⟩ := List.mem_flatMap.1 hd
      rcases List.mem_pair.1 hd with rfl | rfl
      · exact Nat.mod_lt _ (by decide)
      · exact Nat.mod_lt _ (by decide)
    have hfits : 3 ^ (hexDigits ns).length * (3 + 8) ≤ 2 ^ 32 := by
      rw [← getNumValue_hexBytes, List.length_map, hhex.1]
      decide
    have hv : ((hexBytes ns).foldlM (fun v c => addToSum 32 v (getNumValue c)) 3 : KeyRes Nat)
        = .ok (sumOf (hexDigits ns)) := by
      rw [← foldlM_sumOf hdigits hfits, ← getNumValue_hexBytes, List.foldlM_map]
    rw [hfilled, ok_bind, hloop, ok_bind]
    dsimp only
    rw [hv, ok_bind, show sumOf (hexDigits ns) &&& 0xFF = sumOf (hexDigits ns) % 256 from
      Nat.and_two_pow_sub_one_eq_mod _ 8]
    by_cases hsum : sumOf (hexDigits ns) % 256 = carries ns
    · have hkey : Is16 key := by
        refine ⟨hcount, fun c hc => bne_iff_ne.1 (hall c hc), ?_⟩
        rw [hns]
        exact hsum
      rw [if_pos hsum, ok_bind]
      have hreordered :
        Holds (AsciiBytes 16) ((List.range 16).reverse.foldlM reorder16 (hexBytes ns)) := by
        refine holds_foldlM hhex fun bytes j hj hbytes => ?_
        rw [List.mem_reverse, List.mem_range] at hj
        exact hbytes.reorder16 hj
      refine hreordered.bind fun bytes hbytes => ?_
      refine (hbytes.unmasked (Nat.le_refl _) _).bind fun st hst => ?_
      rw [hst.fromUtf8, ok_bind]
      refine (hst.number _ (by decide) (by decide)).bind fun _ _ => ?_
      refine (hst.number _ (by decide) (by decide)).bind fun _ _ => ?_
      exact (hst.number _ (by decide) (by decide)).bind fun _ _ => Holds.ok hkey
    · rw [if_neg hsum]
      exact Holds.err _
  · rw [hrefused]
    exact Holds.err _

end Older

-- ================================================================= the newest keys

section Newest

variable {key : List Char}

set_option maxRecDepth 3000 in
/-- This map has an entry for every byte too. -/
theorem length_w3KeyMap : w3KeyMap.length = 256 := rfl

/-- A character below U+0100 is placed, whatever the map has for it. -/
theorem placeChar_eq {table : List Int8} {b : Nat} {c : Char}
    (htable : table.length = 52) (hb : b < 52)
    (hc : c.toNat < 256) : ∃ table' b', placeChar (table, b) c = .ok (table', b')
      ∧ table'.length = 52 ∧ b' < 52 := by
  have hlen := length_w3KeyMap
  have hmod : ∀ n, n % 52 < 52 := fun n => Nat.mod_lt n (by decide)
  have hfirst := hmod (b + 0x07B5)
  have hsecond := hmod ((b + 0x07B5) % 52 + 0x07B5)
  refine ⟨(table.set ((b + 0x07B5) % 52) ((mapEntry w3KeyMap c).toInt8 / 5)).set
    (((b + 0x07B5) % 52 + 0x07B5) % 52) ((mapEntry w3KeyMap c).toInt8 % 5), _, ?_, ?_, hsecond⟩
  · unfold placeChar
    dsimp only
    rw [if_pos hc, index_getD 0xFF (hlen ▸ hc), ok_bind, add_eq (by omega), ok_bind,
      add_eq (by omega), ok_bind, store_eq _ (htable ▸ hfirst), ok_bind,
      store_eq _ (by rw [List.length_set, htable]; exact hsecond), ok_bind]
    rfl
  · rw [List.length_set, List.length_set, htable]

/-- The loop over the characters stops only at one from U+0100 on. -/
theorem foldlM_placeChar (key : List Char) {table : List Int8} {b : Nat}
    (htable : table.length = 52) (hb : b < 52) :
    ((∀ c ∈ key, c.toNat < 256) ∧ ∃ table' b', key.foldlM placeChar (table, b) = .ok (table', b')
        ∧ table'.length = 52)
      ∨ (∃ c ∈ key, 256 ≤ c.toNat) ∧ ∃ c,
        key.foldlM placeChar (table, b) = .err (.invalidChar c) := by
  induction key generalizing table b with
  | nil => exact .inl ⟨fun c hc => (nomatch hc), table, b, rfl, htable⟩
  | cons c key ih =>
      rw [List.foldlM_cons]
      by_cases hc : c.toNat < 256
      · obtain ⟨table', b', hplaced, htable', hb'⟩ := placeChar_eq htable hb hc
        rw [hplaced, ok_bind]
        rcases ih htable' hb' with ⟨hall, hdone⟩ | ⟨⟨d, hd, hlarge⟩, hrefused⟩
        · refine .inl ⟨fun d hd => ?_, hdone⟩
          rcases List.mem_cons.1 hd with rfl | hd
          · exact hc
          · exact hall d hd
        · exact .inr ⟨⟨d, .tail _ hd, hlarge⟩, hrefused⟩
      · have hrefused : placeChar (table, b) c = .err (.invalidChar c) := by
          unfold placeChar
          dsimp only
          rw [if_neg hc]
          rfl
        rw [hrefused]
        exact .inr ⟨⟨c, .head _, Nat.le_of_not_lt hc⟩, c, rfl⟩

/-- The carry goes through all the words. -/
theorem mulAddWords_eq (dcByte : Int32) (words : List UInt32) :
    ∃ ws, mulAddWords dcByte words = .ok ws ∧ ws.length = words.length := by
  induction words generalizing dcByte with
  | nil => exact ⟨[], rfl, rfl⟩
  | cons word words ih =>
      have hword := word.toNat_lt
      obtain ⟨ws, hws, hlen⟩ := ih (Int32.ofNat ((word.toNat * 5) >>> 32))
      refine ⟨(dcByte.toUInt32 + (word.toNat * 5).toUInt32) :: ws, ?_, congrArg (· + 1) hlen⟩
      unfold mulAddWords
      rw [mul_eq (by omega), ok_bind, hws, ok_bind]
      rfl

/-- The digits of the table are added up to four words. -/
theorem foldlM_addDigit {table : List Int8} (htable : table.length = 52) :
    ∃ values, (List.range 52).reverse.foldlM (addDigit table) [0, 0, 0, 0] = .ok values
      ∧ values.length = 4 := by
  have hzeros : ([0, 0, 0, 0] : List UInt32).length = 4 := rfl
  refine foldlM_total hzeros fun values i hi hlen => ?_
  rw [List.mem_reverse, List.mem_range] at hi
  obtain ⟨ws, hws, hwlen⟩ := mulAddWords_eq (table.getD i 0).toInt32 values.reverse
  refine ⟨ws.reverse, ?_, ?_⟩
  · unfold addDigit
    rw [index_getD 0 (htable ▸ hi), ok_bind, hws, ok_bind]
    rfl
  · rw [List.length_reverse, hwlen, List.length_reverse, hlen]

/-- The newest keys are decoded unless a character is from U+0100 on. -/
theorem decode26CharKeyComponents_spec (key : List Char) :
    ((∀ c ∈ key, c.toNat < 256) ∧ ∃ v, decode26CharKeyComponents key = .ok v)
      ∨ (∃ c ∈ key, 256 ≤ c.toNat) ∧ ∃ c,
        decode26CharKeyComponents key = .err (.invalidChar c) := by
  unfold decode26CharKeyComponents
  have hzeros : (List.replicate 52 (0 : Int8)).length = 52 := List.length_replicate
  rcases foldlM_placeChar key hzeros (b := 0x21) (by decide) with
    ⟨hall, table, b, hplaced, htable⟩ | ⟨hlarge, c, hrefused⟩
  · obtain ⟨values, hvalues, hlen⟩ := foldlM_addDigit htable
    obtain ⟨s, m, -, -, hm, hmlen, -⟩ := decodeKeyTable_spec hlen
    obtain ⟨v, hv, -⟩ := keyValues_returns hmlen
    refine .inl ⟨hall, v, ?_⟩
    rw [hplaced, ok_bind]
    dsimp only
    rw [hvalues, ok_bind, hm, ok_bind, hv]
  · refine .inr ⟨hlarge, c, ?_⟩
    rw [hrefused]
    rfl

end Newest

-- ======================================================================= the hash

section Hash

/-- A block has sixteen words. -/
theorem chunkWords_eq {chunk : List UInt8} (h : chunk.length = 64) :
    ∃ ws, chunkWords chunk = .ok ws ∧ ws.length = 16 := by
  refine ⟨(List.range 16).map fun i => wordOf (chunk.getD (i * 4) 0) (chunk.getD (i * 4 + 1) 0)
    (chunk.getD (i * 4 + 2) 0) (chunk.getD (i * 4 + 3) 0), mapM_eq fun i hi => ?_, ?_⟩
  · rw [List.mem_range] at hi
    rw [index_getD 0 (by omega), ok_bind, index_getD 0 (by omega), ok_bind,
      index_getD 0 (by omega), ok_bind, index_getD 0 (by omega), ok_bind]
    rfl
  · rw [List.length_map, List.length_range]

/-- The schedule goes on by a word. -/
theorem extend_eq {w : List UInt32} (h : w.length = 80) {i : Nat} (hi : i < 64) :
    ∃ w', extend w i = .ok w' ∧ w'.length = 80 := by
  unfold extend
  rw [index_getD 0 (by omega), ok_bind, index_getD 0 (by omega), ok_bind,
    index_getD 0 (by omega), ok_bind, index_getD 0 (by omega), ok_bind, store_eq _ (by omega)]
  exact ⟨_, rfl, (List.length_set ..).trans h⟩

/-- A block is hashed, whatever is in it. -/
theorem hashChunk_eq (hash : Words) {chunk : List UInt8} (h : chunk.length = 64) :
    ∃ s, hashChunk hash chunk = .ok s := by
  obtain ⟨ws, hws, hlen⟩ := chunkWords_eq h
  have hwords : (ws ++ List.replicate 64 0).length = 80 := by
    rw [List.length_append, hlen, List.length_replicate]
  obtain ⟨w, hw, -⟩ :=
    foldlM_total (Q := fun w : List UInt32 => w.length = 80) hwords fun w i hi hw =>
    extend_eq hw (List.mem_range.1 hi)
  unfold hashChunk
  rw [hws, ok_bind, hw, ok_bind]
  exact ⟨_, rfl⟩

/-- So is a text of any length. -/
theorem xsha1_eq (data : List UInt8) : ∃ hash, xsha1 data = .ok hash := by
  have hchunks : ∀ chunk ∈ chunksExact (padded data), chunk.length = 64 := by
    intro chunk hchunk
    obtain ⟨k, hk, rfl⟩ := List.mem_map.1 hchunk
    rw [List.mem_range] at hk
    rw [List.length_take, List.length_drop]
    omega
  obtain ⟨hash, hhash, -⟩ :=
    foldlM_total (Q := fun _ : Words => True) trivial fun hash chunk hchunk _ => by
    obtain ⟨s, hs⟩ := hashChunk_eq hash (hchunks chunk hchunk)
    exact ⟨s, hs, trivial⟩
  unfold xsha1
  rw [hhash, ok_bind]
  exact ⟨_, rfl⟩

/-- Every decoded key has a hash. -/
theorem calculateHash_eq [Sha1] (d : CdKeyDecoder) (clientToken serverToken : UInt32) :
    ∃ hash, d.calculateHash clientToken serverToken = .ok hash := by
  unfold CdKeyDecoder.calculateHash
  cases d.keyType with
  | starCraft => exact xsha1_eq _
  | warCraft2 => exact xsha1_eq _
  | warCraft3 => exact ⟨_, if_pos (Sha1.digest_length _)⟩

end Hash

-- ======================================================================= any string

section Any

variable [CharTables] {cdkey : List Char}

/-- What is decoded and is no key: twenty-six bytes, of characters below
U+0100 which may stand in a key, and not all of the alphabet. -/
def Unchecked (cdkey : List Char) : Prop :=
  (∀ c ∈ cdkey, allowed c = true) ∧ utf8Len (stripped cdkey) = 26
    ∧ (∀ c ∈ stripped cdkey, c.toNat < 256) ∧ ∃ c ∈ stripped cdkey, mapEntry w3KeyMap c = 0xFF

/-- Dashes and spaces are all that is taken out. -/
theorem sanitized_eq (h : ∀ c ∈ cdkey, allowed c = true) : sanitized cdkey = stripped cdkey := by
  have hdash : CharTables.isAlphanumeric '-' = false := CharTables.ascii '-' (by decide)
  have hspace : CharTables.isAlphanumeric ' ' = false := CharTables.ascii ' ' (by decide)
  refine List.filter_congr fun c hc => ?_
  have hallowed := h c hc
  unfold allowed at hallowed
  by_cases h1 : c = '-'
  · rw [h1, hdash]
    rfl
  · by_cases h2 : c = ' '
    · rw [h2, hspace]
      rfl
    · rw [beq_eq_false_iff_ne.2 h1, beq_eq_false_iff_ne.2 h2, Bool.or_false,
        Bool.or_false] at hallowed
      rw [hallowed, bne_iff_ne.2 h1, bne_iff_ne.2 h2]
      rfl

/-- Whatever is decoded is a key, or was not checked. -/
theorem decodeKeyComponents_spec (cdkey : List Char) :
    (decodeKeyComponents cdkey).Holds fun _ => IsCdKey cdkey ∨ Unchecked cdkey := by
  unfold decodeKeyComponents
  cases hfind : cdkey.find? (!allowed ·) with
  | some c => exact Holds.err _
  | none =>
      have hallowed : ∀ c ∈ cdkey, allowed c = true := by
        intro c hc
        have hnot := List.find?_eq_none.1 hfind c hc
        rw [Bool.not_eq_true, Bool.not_eq_false'] at hnot
        exact hnot
      rw [ok_bind]
      dsimp only
      rw [sanitized_eq hallowed]
      split
      · next hlen =>
          exact (decode13CharKey_spec hlen).bind fun _ hkey => Holds.ok (.inl (.inl hkey))
      · next hlen =>
          exact (decode16CharKeyComponents_spec hlen).bind fun _ hkey =>
            Holds.ok (.inl (.inr (.inl hkey)))
      · next hlen =>
          rcases decode26CharKeyComponents_spec (stripped cdkey) with
            ⟨hsmall, v, hv⟩ | ⟨-, c, hrefused⟩
          · rw [hv, ok_bind]
            refine Holds.ok ?_
            by_cases hforeign : ∃ c ∈ stripped cdkey, mapEntry w3KeyMap c = 0xFF
            · exact .inr ⟨hallowed, hlen, hsmall, hforeign⟩
            · have hall : ∀ c ∈ stripped cdkey, mapEntry w3KeyMap c ≠ 0xFF := fun c hc h =>
                hforeign ⟨c, hc, h⟩
              have hcount := utf8Len_ascii fun c hc => w3KeyMap_ascii (hall c hc)
              exact .inl (.inr (.inr ⟨hcount.symm.trans hlen, hall⟩))
          · rw [hrefused]
            exact Holds.err _
      · exact Holds.err _

/-- What was not checked is decoded. -/
theorem decodeKeyComponents_unchecked (h : Unchecked cdkey) :
    ∃ d, decodeKeyComponents cdkey = .ok d := by
  obtain ⟨hallowed, hlen, hsmall, -⟩ := h
  have hfind : cdkey.find? (!allowed ·) = none := by
    refine List.find?_eq_none.2 fun c hc => ?_
    rw [hallowed c hc]
    decide
  unfold decodeKeyComponents
  rw [hfind, ok_bind]
  dsimp only
  rw [sanitized_eq hallowed, hlen]
  rcases decode26CharKeyComponents_spec (stripped cdkey) with ⟨-, v, hv⟩ | ⟨⟨c, hc, hlarge⟩, -⟩
  · rw [hv, ok_bind]
    exact ⟨_, rfl⟩
  · exact absurd (hsmall c hc) (Nat.not_lt.2 hlarge)

/-- It is no key. -/
theorem Unchecked.not_key (h : Unchecked cdkey) : ¬IsCdKey cdkey := by
  obtain ⟨-, hlen, -, c, hc, hentry⟩ := h
  rintro (⟨hcount, hdigits, -⟩ | ⟨hcount, hall, -⟩ | ⟨-, hall⟩)
  · have hbytes := utf8Len_ascii fun c hc =>
      Nat.lt_of_le_of_lt (digit_ascii (hdigits c hc)).2 (by decide)
    omega
  · have hbytes := utf8Len_ascii fun c hc => w2Map_ascii (hall c hc)
    omega
  · exact hall c hc hentry

/-- For every string and all tokens, `decode_cd_key` decodes a key or
gives an error, exactly unless the string is of those that are not
checked. Those it decodes, and they are no keys. -/
theorem decode_cd_key_ok_iff [Sha1] (cdkey : List Char) :
    (∀ clientToken serverToken,
        (IsCdKey cdkey ∧ ∃ info, decodeCdKey cdkey clientToken serverToken = .ok info)
          ∨ ∃ e, decodeCdKey cdkey clientToken serverToken = .err e)
      ↔ ¬Unchecked cdkey := by
  constructor
  · intro hdecoded h
    obtain ⟨d, hd⟩ := decodeKeyComponents_unchecked h
    obtain ⟨hash, hhash⟩ := calculateHash_eq d 0 0
    have hok : ∃ info, decodeCdKey cdkey 0 0 = .ok info := by
      unfold decodeCdKey
      rw [hd, ok_bind, hhash, ok_bind]
      exact ⟨_, rfl⟩
    rcases hdecoded 0 0 with ⟨hkey, -⟩ | ⟨e, he⟩
    · exact h.not_key hkey
    · obtain ⟨info, hinfo⟩ := hok
      rw [hinfo] at he
      cases he
  · intro h clientToken serverToken
    have hspec := decodeKeyComponents_spec cdkey
    unfold decodeCdKey
    cases hd : decodeKeyComponents cdkey with
    | ok d =>
        obtain ⟨hash, hhash⟩ := calculateHash_eq d clientToken serverToken
        rw [hd] at hspec
        rw [ok_bind, hhash, ok_bind]
        exact .inl ⟨hspec.resolve_right h, _, rfl⟩
    | err e => exact .inr ⟨e, rfl⟩
    | stuck =>
        rw [hd] at hspec
        exact hspec.elim

end Any

section Ascii

attribute [local instance] asciiTables lengthHash

/-- A key as it is typed, in groups. -/
example : (decodeCdKey "TAKLIB-FWQWJR-VGPSO6-8MUTV5D0".toList 0 0).value?.map
    (fun info => (info.product, info.publicValue)) = some (13473, 24929753) := by
  decide +kernel

end Ascii

/-- The letter is none of the alphabet, but the number decoded from it
goes to the server all the same. -/
theorem letter_outside_alphabet_is_decoded :
    (∀ (_ : CharTables) (_ : Sha1), ∃ info, decodeCdKey (List.replicate 26 'A') 0 0 = .ok info)
      ∧ ¬IsCdKey (List.replicate 26 'A') := by
  have hstripped : stripped (List.replicate 26 'A') = List.replicate 26 'A' := rfl
  have hforeign : mapEntry w3KeyMap 'A' = 0xFF := rfl
  constructor
  · intro tables _
    have hletter : CharTables.isAlphanumeric 'A' = true := CharTables.ascii 'A' (by decide)
    have hunchecked : Unchecked (List.replicate 26 'A') := by
      unfold Unchecked
      rw [hstripped]
      refine ⟨fun c hc => ?_, rfl, fun c hc => ?_, 'A',
        List.mem_replicate.2 ⟨by decide, rfl⟩, hforeign⟩
      · rw [List.eq_of_mem_replicate hc]
        unfold allowed
        rw [hletter]
        rfl
      · rw [List.eq_of_mem_replicate hc]
        decide
    obtain ⟨d, hd⟩ := decodeKeyComponents_unchecked hunchecked
    obtain ⟨hash, hhash⟩ := calculateHash_eq d 0 0
    unfold decodeCdKey
    rw [hd, ok_bind, hhash, ok_bind]
    exact ⟨_, rfl⟩
  · unfold IsCdKey
    rw [hstripped]
    rintro (⟨hcount, -⟩ | ⟨hcount, -⟩ | ⟨-, hall⟩)
    · exact absurd hcount (by decide)
    · exact absurd hcount (by decide)
    · exact hall 'A' (List.mem_replicate.2 ⟨by decide, rfl⟩) hforeign

end Spectre.Bnet

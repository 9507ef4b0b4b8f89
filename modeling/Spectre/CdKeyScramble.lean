/-
Nothing is lost in the table of a CD-key.

The four words are seen as 32 nibbles in the rounds (`nib`) and as 128
bits behind them (`bit`); either view is all of the table. A round
writes one nibble, by a chain of row look-ups in which each of the
others has a part, and leaves the others alone; so two tables that a
round makes equal had the same other nibbles, went through the same
chain, and were equal.
-/
import Spectre.CdKeyTable

namespace Spectre.Bnet

open Lib Lib.Checked
open Mpq (wordOf bytesOf)

-- ===================================================================== nibbles

/-- The nibble `n` of the table, from the lowest. -/
def nib (values : List UInt32) (n : Nat) : Nat :=
  (values.getD (3 - n / 8) 0).toNat / 2 ^ (4 * (n % 8)) % 2 ^ 4

/-- An entry of a row of the table of nibbles. -/
def row (v x : Nat) : Nat := (w3TranslateMap.getD (16 * v + x) 0).toNat

/-- The chain a nibble goes through: the others are mixed in. -/
def chain (others : Nat → Nat) (v : Nat) (js : List Nat) (c : Nat) : Nat :=
  js.foldl (fun c j => row v (others j ^^^ row v c)) c

/-- The other nibbles, in the order in which they are mixed in. -/
def others (v : Nat) : List Nat := (List.range' (v + 1) (29 - v)).reverse ++ (List.range v).reverse

section Rounds

variable {l m : List UInt32} {v n c : Nat}

/-- A nibble has four bits. -/
theorem nib_lt (l : List UInt32) (n : Nat) : nib l n < 16 := Nat.mod_lt _ (by decide)

/-- The bits of a nibble are those of its word. -/
theorem testBit_nib (l : List UInt32) (n t : Nat) : (nib l n).testBit t
    = (decide (t < 4) && (l.getD (3 - n / 8) 0).toNat.testBit (4 * (n % 8) + t)) := by
  unfold nib
  rw [Nat.testBit_mod_two_pow, Nat.testBit_div_two_pow, Nat.add_comm]

/-- Its nibbles are all of a table. -/
theorem nib_ext (hl : l.length = 4) (hm : m.length = 4) (h : ∀ n < 32, nib l n = nib m n) :
    l = m := by
  refine List.ext_getElem (hl.trans hm.symm) fun i hi hi' => word_ext fun j hj => ?_
  have hword : 3 - (8 * (3 - i) + j / 4) / 8 = i := by omega
  have hplace : 4 * ((8 * (3 - i) + j / 4) % 8) + j % 4 = j := by omega
  have hbit := congrArg (fun x => x.testBit (j % 4)) (h (8 * (3 - i) + j / 4) (by omega))
  rw [testBit_nib, testBit_nib, hword, hplace, decide_eq_true (Nat.mod_lt j (by decide)),
    Bool.true_and, Bool.true_and, List.getD_eq_getElem _ _ hi, List.getD_eq_getElem _ _ hi'] at hbit
  exact hbit

/-- The word of a nibble, and its place there. -/
theorem nibble_place (n : Nat) : n >>> 3 = n / 8 ∧ (n &&& 7) <<< 2 = 4 * (n % 8) := by
  constructor
  · rw [Nat.shiftRight_eq_div_pow]
  · rw [show n &&& 7 = n % 8 from Nat.and_two_pow_sub_one_eq_mod n 3, Nat.shiftLeft_eq,
      Nat.mul_comm]

/-- A shift to the right by less than a word. -/
theorem shrWord_eq (w : UInt32) (h : n < 32) : shrWord w n = .ok (w >>> n.toUInt32) := if_pos h

/-- A shift to the left by less than a word. -/
theorem shlWord_eq (w : UInt32) (h : n < 32) : shlWord w n = .ok (w <<< n.toUInt32) := if_pos h

/-- The distance, as a word. -/
theorem toNat_toUInt32 (h : n < 32) : n.toUInt32.toNat = n := by
  rw [Nat.toUInt32_eq, UInt32.toNat_ofNat']
  omega

/-- A nibble is read. -/
theorem nibbleAt_eq (hl : l.length = 4) (hn : n < 32) : nibbleAt l n = .ok (nib l n) := by
  obtain ⟨hdiv, hmul⟩ := nibble_place n
  have hfour : 4 * (n % 8) < 32 := by omega
  unfold nibbleAt nib
  rw [hdiv, hmul, sub_eq (by omega), ok_bind, index_getD 0 (by omega), ok_bind, shrWord_eq _ hfour,
    ok_bind]
  refine congrArg Checked.ok ?_
  rw [UInt32.toNat_and, UInt32.toNat_shiftRight, toNat_toUInt32 hfour, Nat.mod_eq_of_lt hfour,
    Nat.shiftRight_eq_div_pow]
  exact Nat.and_two_pow_sub_one_eq_mod _ 4

-- ------------------------------------------------------------------- the rows

/-- The table has thirty rows. -/
theorem length_w3TranslateMap : w3TranslateMap.length = 480 := by decide +kernel

/-- Its entries are nibbles. -/
theorem row_lt (hv : v < 30) (hc : c < 16) : row v c < 16 := by
  have hall : ∀ b ∈ w3TranslateMap, b.toNat < 16 := by decide +kernel
  have hplace : 16 * v + c < w3TranslateMap.length := by
    rw [length_w3TranslateMap]
    omega
  unfold row
  rw [List.getD_eq_getElem _ _ hplace]
  exact hall _ (List.getElem_mem hplace)

/-- Every row is a permutation. -/
theorem row_inj {d : Nat} (hv : v < 30) (hc : c < 16) (hd : d < 16) (h : row v c = row v d) :
    c = d := by
  have hall : ∀ v : Fin 30, ((w3TranslateMap.drop (16 * v)).take 16).Nodup := by decide +kernel
  have hlen : ((w3TranslateMap.drop (16 * v)).take 16).length = 16 := by
    rw [List.length_take, List.length_drop, length_w3TranslateMap]
    omega
  have hget : ∀ x (hx : x < ((w3TranslateMap.drop (16 * v)).take 16).length),
      ((w3TranslateMap.drop (16 * v)).take 16)[x].toNat = row v x := by
    intro x hx
    unfold row
    rw [List.getElem_take, List.getElem_drop, List.getD_eq_getElem]
  have hfirst : c < ((w3TranslateMap.drop (16 * v)).take 16).length := by omega
  have hsecond : d < ((w3TranslateMap.drop (16 * v)).take 16).length := by omega
  have hsame : ((w3TranslateMap.drop (16 * v)).take 16)[c]
    = ((w3TranslateMap.drop (16 * v)).take 16)[d] := by
    rw [← UInt8.toNat_inj, hget c hfirst, hget d hsecond, h]
  exact (hall ⟨v, hv⟩).getElem_inj_iff.1 hsame

/-- A nibble mixed into an index stays in the row. -/
theorem xor_row {b e : Nat} (hv : v < 30) (hb : b < 16) (he : e < 16) :
    e ^^^ (b + 16 * v) = 16 * v + (e ^^^ b) := by
  have hall : ∀ v : Fin 30, ∀ b e : Fin 16,
      e.val ^^^ (b.val + 16 * v.val) = 16 * v.val + (e.val ^^^ b.val) := by
    decide +kernel
  exact hall ⟨v, hv⟩ ⟨b, hb⟩ ⟨e, he⟩

/-- Nibbles are mixed to a nibble. -/
theorem xor_lt {b e : Nat} (hb : b < 16) (he : e < 16) : e ^^^ b < 16 := by
  have hpow : e ^^^ b < 2 ^ 4 := Nat.xor_lt_two_pow he hb
  exact hpow

/-- An entry is read where it is. -/
theorem index_row (hv : v < 30) (hc : c < 16) : ∃ b : UInt8, b.toNat = row v c
    ∧ (index w3TranslateMap (16 * v + c) : KeyRes UInt8) = .ok b :=
  ⟨_, rfl, index_getD 0 (by rw [length_w3TranslateMap]; omega)⟩

/-- One nibble is mixed in. -/
theorem mixNibble_eq (hl : l.length = 4) (hv : v < 30) (hn : n < 32) (hc : c < 16) :
    mixNibble l (16 * v) c n = .ok (row v (nib l n ^^^ row v c)) := by
  obtain ⟨b, hb, hfirst⟩ := index_row hv hc
  have hlt := row_lt hv hc
  have hxor := xor_lt hlt (nib_lt l n)
  obtain ⟨d, hd, hsecond⟩ := index_row hv hxor
  unfold mixNibble
  rw [nibbleAt_eq hl hn, ok_bind, add_eq (by omega), ok_bind, Nat.add_comm c, hfirst, ok_bind,
    add_eq (by omega), ok_bind, hb, xor_row hv hlt (nib_lt l n), hsecond, ok_bind, ← hd]
  rfl

/-- All of them are. -/
theorem foldlM_mixNibble (hl : l.length = 4) (hv : v < 30) {js : List Nat} (hjs : ∀ j ∈ js, j < 32)
    (hc : c < 16) : js.foldlM (mixNibble l (16 * v)) c = .ok (chain (nib l) v js c)
      ∧ chain (nib l) v js c < 16 := by
  induction js generalizing c with
  | nil => exact ⟨rfl, hc⟩
  | cons j js ih =>
      have hlt := row_lt hv (xor_lt (row_lt hv hc) (nib_lt l j))
      rw [List.foldlM_cons, mixNibble_eq hl hv (hjs j List.mem_cons_self) hc, ok_bind]
      exact ih (fun i hi => hjs i (List.mem_cons_of_mem j hi)) hlt

/-- The chain is a permutation for each value of the other nibbles. -/
theorem chain_inj {f : Nat → Nat} (hf : ∀ n, f n < 16) (hv : v < 30) {js : List Nat} {d : Nat}
    (hc : c < 16) (hd : d < 16) (h : chain f v js c = chain f v js d) : c = d := by
  induction js generalizing c d with
  | nil => exact h
  | cons j js ih =>
      have hrow := ih (row_lt hv (xor_lt (row_lt hv hc) (hf j)))
        (row_lt hv (xor_lt (row_lt hv hd) (hf j))) h
      have hxor := row_inj hv (xor_lt (row_lt hv hc) (hf j)) (xor_lt (row_lt hv hd) (hf j)) hrow
      exact row_inj hv hc hd (Nat.xor_right_injective hxor)

/-- A chain depends on the nibbles it goes by. -/
theorem chain_congr {f g : Nat → Nat} {js : List Nat} (h : ∀ j ∈ js, f j = g j) (c : Nat) :
    chain f v js c = chain g v js c := by
  induction js generalizing c with
  | nil => rfl
  | cons j js ih =>
      unfold chain
      rw [List.foldl_cons, List.foldl_cons, h j List.mem_cons_self]
      exact ih (fun i hi => h i (List.mem_cons_of_mem j hi)) _

/-- The others are the other nibbles. -/
theorem mem_others (hv : v < 30) : ∀ j ∈ others v, j < 32 ∧ j ≠ v := by
  intro j hj
  unfold others at hj
  rw [List.mem_append, List.mem_reverse, List.mem_reverse, List.mem_range'_1, List.mem_range] at hj
  omega

-- --------------------------------------------------------------- one round

/-- A nibble that is written. -/
theorem nib_set (hl : l.length = 4) {k : Nat} (hn : n < 32) (hk : k < 32) {x : UInt32}
    (hx : x.toNat < 16) :
    nib (l.set (3 - n / 8) ((x <<< (4 * (n % 8)).toUInt32)
      ||| (l.getD (3 - n / 8) 0 &&& ~~~(0xF <<< (4 * (n % 8)).toUInt32)))) k
      = if k = n then x.toNat else nib l k := by
  have hd : (4 * (n % 8)).toUInt32.toNat = 4 * (n % 8) := toNat_toUInt32 (by omega)
  refine Nat.eq_of_testBit_eq fun t => ?_
  rw [testBit_nib]
  by_cases ht : t < 4
  · rw [decide_eq_true ht, Bool.true_and]
    by_cases hword : 3 - n / 8 = 3 - k / 8
    · have hget : ∀ w, (l.set (3 - n / 8) w).getD (3 - k / 8) 0 = w := by
        intro w
        rw [hword, List.getD_eq_getElem?_getD, List.getElem?_set_self (by omega), Option.getD_some]
      rw [hget, testBit_field 4 rfl (by decide) (by omega) hx (by omega), hd]
      by_cases hkn : k = n
      · subst hkn
        rw [if_pos (by omega), if_pos rfl, Nat.add_sub_cancel_left]
      · rw [if_neg (by omega), if_neg hkn, testBit_nib, decide_eq_true ht, Bool.true_and, hword]
    · have hkn : k ≠ n := by
        rintro rfl
        exact hword rfl
      rw [if_neg hkn, testBit_nib, decide_eq_true ht, Bool.true_and, List.getD_eq_getElem?_getD,
        List.getElem?_set_ne hword, ← List.getD_eq_getElem?_getD]
  · rw [decide_eq_false ht, Bool.false_and]
    have hlow : (if k = n then x.toNat else nib l k) < 2 ^ 4 := by
      split
      · exact hx
      · exact nib_lt l k
    exact (Nat.testBit_lt_two_pow (Nat.lt_of_lt_of_le hlow
      (Nat.pow_le_pow_right (by decide) (Nat.le_of_not_lt ht)))).symm

/-- A round writes its nibble, through the chain and the row once
more, and no other. -/
theorem keyRound_spec (hl : l.length = 4) (hv : v < 30) : ∃ m, keyRound l v (16 * v) = .ok m
    ∧ m.length = 4 ∧ ∀ k < 32, nib m k
      = if k = v then row v (chain (nib l) v (others v) (nib l v)) else nib l k := by
  obtain ⟨hdiv, hmul⟩ := nibble_place v
  have hall := mem_others hv
  have hhigh : ∀ j ∈ (List.range' (v + 1) (29 - v)).reverse, j < 32 := fun j hj =>
    (hall j (List.mem_append_left _ hj)).1
  have hlow : ∀ j ∈ (List.range v).reverse, j < 32 := fun j hj =>
    (hall j (List.mem_append_right _ hj)).1
  obtain ⟨hfirst, hmid⟩ := foldlM_mixNibble hl hv hhigh (nib_lt l v)
  obtain ⟨hsecond, hend⟩ := foldlM_mixNibble hl hv hlow hmid
  have hchain : chain (nib l) v (List.range v).reverse
      (chain (nib l) v (List.range' (v + 1) (29 - v)).reverse (nib l v))
      = chain (nib l) v (others v) (nib l v) := by
    unfold chain others
    rw [List.foldl_append]
  -- in the first round there is no higher nibble, and the loop over them is left out
  have hloops : (if 16 * v < 464 then
        (List.range' (v + 1) (29 - v)).reverse.foldlM (mixNibble l (16 * v)) (nib l v)
      else .ok (nib l v))
      = .ok (chain (nib l) v (List.range' (v + 1) (29 - v)).reverse (nib l v)) := by
    split
    · exact hfirst
    · have hnone : 29 - v = 0 := by omega
      rw [hnone]
      rfl
  rw [hchain] at hsecond hend
  obtain ⟨b, hb, hentry⟩ := index_row hv hend
  have hnibble : (b &&& 0xF).toUInt32.toNat = row v (chain (nib l) v (others v) (nib l v)) := by
    rw [UInt8.toNat_toUInt32, UInt8.toNat_and, hb]
    exact (Nat.and_two_pow_sub_one_eq_mod _ 4).trans (Nat.mod_eq_of_lt (row_lt hv hend))
  have hnew := row_lt hv hend
  rw [← hnibble] at hnew
  refine ⟨l.set (3 - v / 8) (((b &&& 0xF).toUInt32 <<< (4 * (v % 8)).toUInt32)
    ||| (l.getD (3 - v / 8) 0 &&& ~~~(0xF <<< (4 * (v % 8)).toUInt32))), ?_, ?_, fun k hk => ?_⟩
  · unfold keyRound
    rw [hdiv, hmul]
    dsimp only
    rw [nibbleAt_eq hl (by omega), ok_bind, hloops, ok_bind, hsecond, ok_bind,
      add_eq (by omega), ok_bind,
      Nat.add_comm _ (16 * v), hentry, ok_bind, shlWord_eq _ (by omega), ok_bind,
      shlWord_eq _ (by omega), ok_bind, sub_eq (by omega), ok_bind, index_getD 0 (by omega),
      ok_bind, store_eq _ (by omega)]
  · rw [List.length_set, hl]
  · rw [nib_set hl (by omega) hk hnew, hnibble]

/-- A round can be undone. -/
theorem keyRound_inj (hl : l.length = 4) (hm : m.length = 4) (hv : v < 30)
    (h : keyRound l v (16 * v) = keyRound m v (16 * v)) : l = m := by
  obtain ⟨l', hl', -, hnibl⟩ := keyRound_spec hl hv
  obtain ⟨m', hm', -, hnibm⟩ := keyRound_spec hm hv
  have heq : l' = m' := by
    rw [hl', hm'] at h
    exact Checked.ok.inj h
  subst heq
  have hother : ∀ k < 32, k ≠ v → nib l k = nib m k := by
    intro k hk hne
    have hsame := (hnibl k hk).symm.trans (hnibm k hk)
    rwa [if_neg hne, if_neg hne] at hsame
  refine nib_ext hl hm fun k hk => ?_
  by_cases hkv : k = v
  · subst hkv
    have hsame := (hnibl k hk).symm.trans (hnibm k hk)
    rw [if_pos rfl, if_pos rfl] at hsame
    have hmixed : chain (nib l) k (others k) (nib m k) = chain (nib m) k (others k) (nib m k) :=
      chain_congr (fun j hj => hother j (mem_others hv j hj).1 (mem_others hv j hj).2) _
    have hlt : ∀ (t : List UInt32), t.length = 4 →
        chain (nib t) k (others k) (nib t k) < 16 := by
      intro t ht
      exact (foldlM_mixNibble ht hv (fun j hj => (mem_others hv j hj).1) (nib_lt t k)).2
    have hchain := row_inj hv (hlt l hl) (hlt m hm) hsame
    rw [← hmixed] at hchain
    exact chain_inj (nib_lt l) hv (nib_lt l k) (nib_lt m k) hchain
  · exact hother k hk hkv

/-- All the rounds. -/
theorem keyRounds_spec (hl : l.length = 4) (hv : v < 30) :
    ∃ m, keyRounds l v (16 * v) = .ok m ∧ m.length = 4 := by
  induction v generalizing l with
  | zero =>
      obtain ⟨m, hm, hlen, -⟩ := keyRound_spec hl hv
      refine ⟨m, ?_, hlen⟩
      unfold keyRounds
      rw [hm, ok_bind]
      rfl
  | succ v ih =>
      obtain ⟨m, hm, hlen, -⟩ := keyRound_spec hl hv
      obtain ⟨m', hm', hlen'⟩ := ih hlen (Nat.lt_of_succ_lt hv)
      refine ⟨m', ?_, hlen'⟩
      unfold keyRounds
      rw [hm, ok_bind, if_neg (by omega), show 16 * (v + 1) - 16 = 16 * v from rfl, hm']

/-- The rounds from one nibble on lose nothing. -/
theorem keyRounds_inj (hl : l.length = 4) (hm : m.length = 4) (hv : v < 30)
    (h : keyRounds l v (16 * v) = keyRounds m v (16 * v)) : l = m := by
  induction v generalizing l m with
  | zero =>
      obtain ⟨l', hl', -, -⟩ := keyRound_spec hl hv
      obtain ⟨m', hm', -, -⟩ := keyRound_spec hm hv
      refine keyRound_inj hl hm hv ?_
      unfold keyRounds at h
      rw [hl', hm', ok_bind, ok_bind, if_pos (by omega), if_pos (by omega)] at h
      rw [hl', hm']
      exact h
  | succ v ih =>
      obtain ⟨l', hl', hlen, -⟩ := keyRound_spec hl hv
      obtain ⟨m', hm', hlen', -⟩ := keyRound_spec hm hv
      unfold keyRounds at h
      rw [hl', hm', ok_bind, ok_bind, if_neg (by omega), if_neg (by omega),
        show 16 * (v + 1) - 16 = 16 * v from rfl] at h
      have heq := ih hlen hlen' (Nat.lt_of_succ_lt hv) h
      subst heq
      exact keyRound_inj hl hm hv (hl'.trans hm'.symm)

end Rounds

end Spectre.Bnet

/-
The mode string in the handicaps.

`begin_loading` writes the mode string into the slot table, where the map
script looks for it: the k-th occupied slot's handicap is replaced by a
value that stands for the old handicap and the k-th character together.
The values come from a table that leaves out 0 and the handicaps
themselves, so the script can tell a code from a handicap; the table is
used up to index 245, which is before it wraps.
-/
import Spectre.Slots

namespace Spectre.Hcl

/-- The handicaps a player can choose. -/
def handicaps : List UInt8 := [50, 60, 70, 80, 90, 100]

/-- The handicap and the character a code stands for. Its place in the
table is its value, less one for each value up to it that the table
leaves out. -/
def decodeChar (code : UInt8) : UInt8 × UInt8 :=
  let index := code.toNat - (0 :: handicaps).countP (· ≤ code)
  ((50 + 10 * (index % 6)).toUInt8, hclChars.getD (index / 6) 0)

/-- The code of a handicap and a character stands for these, and is no
handicap. -/
theorem decodeChar_encodeChar : ∀ handicap ∈ handicaps, ∀ ch ∈ hclChars,
    decodeChar (encodeChar ch handicap) = (handicap, ch)
      ∧ encodeChar ch handicap ∉ (0 : UInt8) :: handicaps := by
  decide +kernel

/-- The slot holds a player. -/
def occupied (s : SlotInfo) : Bool := s.slotStatus == slotOccupied

/-- The number of occupied slots before the slot `i`. -/
def rank (slots : SlotTable) (i : Nat) : Nat := (slots.take i).countP occupied

/-- A slot with a character in it. -/
structure Coded (ch : UInt8) (s t : SlotInfo) : Prop where
  slot : s.slotStatus = slotOccupied
  rest : t = { s with handicap := t.handicap }
  decode : decodeChar t.handicap = (s.handicap, ch)
  fresh : t.handicap ∉ (0 : UInt8) :: handicaps

theorem rank_zero (slots : SlotTable) : rank slots 0 = 0 := rfl

theorem rank_succ (s : SlotInfo) (slots : SlotTable) (i : Nat) :
    rank (s :: slots) (i + 1) = rank slots i + if occupied s then 1 else 0 := by
  unfold rank
  rw [List.take_succ_cons, List.countP_cons]

/-- The k-th occupied slot takes the k-th character. -/
theorem encodeFrom_coded {hcl : Text} {slots : SlotTable}
    (hslots : ∀ s ∈ slots, s.slotStatus = slotOccupied → s.handicap ∈ handicaps)
    (hchars : ∀ ch ∈ hcl, ch ∈ hclChars) {i k : Nat} {s : SlotInfo} {ch : UInt8}
    (hs : slots[i]? = some s) (hoccupied : occupied s = true) (hk : rank slots i = k)
    (hch : hcl[k]? = some ch) : ∃ t, (encodeFrom hcl slots)[i]? = some t ∧ Coded ch s t := by
  induction slots generalizing hcl i k with
  | nil => cases hs
  | cons a slots ih =>
      have hrest := fun b hb => hslots b (List.mem_cons_of_mem a hb)
      cases hcl with
      | nil => cases hch
      | cons c hcl =>
          unfold encodeFrom
          cases i with
          | zero =>
              -- the slot is the first of all, so it takes the first character
              obtain rfl : a = s := by simpa using hs
              obtain rfl : 0 = k := hk
              obtain rfl : c = ch := by simpa using hch
              have hstatus : a.slotStatus = slotOccupied := by simpa [occupied] using hoccupied
              rw [if_pos hstatus]
              obtain ⟨hdecode, hfresh⟩ := decodeChar_encodeChar a.handicap
                (hslots a List.mem_cons_self hstatus) c (hchars c List.mem_cons_self)
              exact ⟨_, rfl, hstatus, rfl, hdecode, hfresh⟩
          | succ i =>
              rw [rank_succ] at hk
              have hs' : slots[i]? = some s := by simpa using hs
              split
              · rename_i hstatus
                rw [if_pos (by simpa [occupied] using hstatus)] at hk
                obtain ⟨k, rfl⟩ : ∃ j, k = j + 1 := ⟨rank slots i, hk.symm⟩
                rw [List.getElem?_cons_succ] at hch ⊢
                exact ih hrest (fun d hd => hchars d (List.mem_cons_of_mem c hd)) hs'
                  (Nat.add_right_cancel hk) hch
              · rename_i hstatus
                rw [if_neg (by simpa [occupied] using hstatus)] at hk
                rw [List.getElem?_cons_succ]
                exact ih hrest hchars hs' hk hch

/-- The other slots stay as they are. -/
theorem encodeFrom_other {hcl : Text} {slots : SlotTable} {i : Nat}
    (h : ∀ s, slots[i]? = some s → occupied s = true → hcl.length ≤ rank slots i)
    (hfits : hcl.length ≤ slots.countP occupied) : (encodeFrom hcl slots)[i]? = slots[i]? := by
  induction slots generalizing hcl i with
  | nil =>
      cases hcl with
      | nil => rfl
      | cons c hcl => rfl
  | cons a slots ih =>
      cases hcl with
      | nil => rfl
      | cons c hcl =>
          unfold encodeFrom
          rw [List.countP_cons] at hfits
          cases i with
          | zero =>
              have hstatus : ¬a.slotStatus = slotOccupied := by
                intro hstatus
                have hlen := h a rfl (by simpa [occupied] using hstatus)
                rw [rank_zero] at hlen
                cases hlen
              rw [if_neg hstatus]
              rfl
          | succ i =>
              have hnext : ∀ s, slots[i]? = some s → occupied s = true →
                  (c :: hcl).length ≤ rank slots i + if occupied a then 1 else 0 := by
                intro s hs hoccupied
                rw [← rank_succ]
                exact h s (by simpa using hs) hoccupied
              split
              · rename_i hstatus
                rw [if_pos (by simpa [occupied] using hstatus)] at hnext hfits
                rw [List.getElem?_cons_succ, List.getElem?_cons_succ]
                exact ih (fun s hs ho => Nat.le_of_succ_le_succ (hnext s hs ho))
                  (Nat.le_of_succ_le_succ hfits)
              · rename_i hstatus
                rw [if_neg (by simpa [occupied] using hstatus)] at hnext hfits
                rw [List.getElem?_cons_succ, List.getElem?_cons_succ]
                exact ih hnext hfits

/-- There are as many ranks as occupied slots. -/
theorem exists_rank {slots : SlotTable} {k : Nat} (h : k < slots.countP occupied) :
    ∃ i s, slots[i]? = some s ∧ occupied s = true ∧ rank slots i = k := by
  induction slots generalizing k with
  | nil => cases h
  | cons a slots ih =>
      rw [List.countP_cons] at h
      by_cases ha : occupied a = true
      · rw [if_pos ha] at h
        cases k with
        | zero => exact ⟨0, a, rfl, ha, rfl⟩
        | succ k =>
            obtain ⟨i, s, hs, ho, hk⟩ := ih (Nat.lt_of_succ_lt_succ h)
            exact ⟨i + 1, s, by simpa using hs, ho, by rw [rank_succ, if_pos ha, hk]⟩
      · rw [if_neg ha] at h
        obtain ⟨i, s, hs, ho, hk⟩ := ih h
        exact ⟨i + 1, s, by simpa using hs, ho, by rw [rank_succ, if_neg ha, hk, Nat.add_zero]⟩

theorem encodeHclIntoSlots_eq (hcl : Text) (slots : SlotTable) : encodeHclIntoSlots hcl slots
    = if hcl = [] ∨ slots.countP occupied < hcl.length then (slots, false)
      else if hcl.all (fun c => hclChars.contains c) then (encodeFrom hcl slots, true)
      else (slots, false) := rfl

/-- The encoding succeeds for a mode string of the alphabet that is not
empty and not longer than there are occupied slots, and else changes
nothing. Where it succeeds, the handicap of the k-th occupied slot is a
code of its old handicap and of the k-th character, and every other slot
and field is as it was. -/
theorem hcl_is_decodable (hcl : Text) {slots : SlotTable}
    (hslots : ∀ s ∈ slots, s.slotStatus = slotOccupied → s.handicap ∈ handicaps) :
    ((encodeHclIntoSlots hcl slots).2 = true ↔ hcl ≠ [] ∧ (∀ ch ∈ hcl, ch ∈ hclChars)
        ∧ hcl.length ≤ slots.countP occupied)
      ∧ ((encodeHclIntoSlots hcl slots).2 = false → (encodeHclIntoSlots hcl slots).1 = slots)
      ∧ ((encodeHclIntoSlots hcl slots).2 = true →
        (∀ k ch, hcl[k]? = some ch → ∃ i s t, slots[i]? = some s ∧ rank slots i = k
            ∧ (encodeHclIntoSlots hcl slots).1[i]? = some t ∧ Coded ch s t)
          ∧ ∀ i, (∀ s, slots[i]? = some s → occupied s = true → hcl.length ≤ rank slots i) →
            (encodeHclIntoSlots hcl slots).1[i]? = slots[i]?) := by
  have hsucceeds : (encodeHclIntoSlots hcl slots).2 = true ↔ hcl ≠ [] ∧ (∀ ch ∈ hcl, ch ∈ hclChars)
      ∧ hcl.length ≤ slots.countP occupied := by
    rw [encodeHclIntoSlots_eq]
    split
    · rename_i hbad
      refine ⟨fun h => (nomatch h), fun ⟨hne, _, hlen⟩ => ?_⟩
      rcases hbad with hbad | hbad
      · exact absurd hbad hne
      · exact absurd hlen (Nat.not_le_of_lt hbad)
    · -- past the checks on emptiness and length only a bad letter makes it fail
      rename_i hgood
      rw [not_or, Nat.not_lt] at hgood
      split
      · rename_i hall
        exact ⟨fun _ => ⟨hgood.1, by simpa using hall, hgood.2⟩, fun _ => rfl⟩
      · rename_i hall
        exact ⟨fun h => (nomatch h), fun h => absurd (by simpa using h.2.1) hall⟩
  refine ⟨hsucceeds, fun hfalse => ?_, fun htrue => ?_⟩
  · rw [encodeHclIntoSlots_eq] at hfalse ⊢
    split
    · rfl
    · rename_i hgood
      rw [if_neg hgood] at hfalse
      split
      · rename_i hall
        rw [if_pos hall] at hfalse
        cases hfalse
      · rfl
  · obtain ⟨hne, hchars, hlen⟩ := hsucceeds.1 htrue
    -- where it succeeds the codes are written from the first letter on
    have hout : (encodeHclIntoSlots hcl slots).1 = encodeFrom hcl slots := by
      have hgood : ¬(hcl = [] ∨ slots.countP occupied < hcl.length) := by
        rw [not_or, Nat.not_lt]
        exact ⟨hne, hlen⟩
      rw [encodeHclIntoSlots_eq, if_neg hgood, if_pos (by simpa using hchars)]
    rw [hout]
    refine ⟨fun k ch hch => ?_, fun i hi => encodeFrom_other hi hlen⟩
    have hk : k < hcl.length := (List.getElem?_eq_some_iff.1 hch).1
    -- the k-th letter goes to the k-th occupied slot
    obtain ⟨i, s, hs, hoccupied, hrank⟩ := exists_rank (Nat.lt_of_lt_of_le hk hlen)
    obtain ⟨t, ht, hcoded⟩ := encodeFrom_coded hslots hchars hs hoccupied hrank hch
    exact ⟨i, s, t, hs, hrank, ht, hcoded⟩

/-- A table with an open slot between two players. -/
def twoPlayers : SlotTable :=
  [{ pid := 1, downloadStatus := 100, slotStatus := 2, computer := 0, team := 0, colour := 1
     race := 8, computerType := 1, handicap := 100 },
    { pid := 0, downloadStatus := 255, slotStatus := 0, computer := 0, team := 0, colour := 2
      race := 8, computerType := 1, handicap := 100 },
    { pid := 2, downloadStatus := 100, slotStatus := 2, computer := 0, team := 0, colour := 3
      race := 8, computerType := 1, handicap := 50 }]

theorem hcl_is_decodable_twoPlayers :
    (encodeHclIntoSlots (txt "ap") twoPlayers).2 = true
      ∧ ∀ k ch, (txt "ap")[k]? = some ch → ∃ i s t, twoPlayers[i]? = some s
        ∧ rank twoPlayers i = k ∧ (encodeHclIntoSlots (txt "ap") twoPlayers).1[i]? = some t
        ∧ Coded ch s t := by
  have htrue : (encodeHclIntoSlots (txt "ap") twoPlayers).2 = true := by decide +kernel
  have hslots : ∀ s ∈ twoPlayers, s.slotStatus = slotOccupied → s.handicap ∈ handicaps := by decide
  exact ⟨htrue, ((hcl_is_decodable (txt "ap") hslots).2.2 htrue).1⟩

end Spectre.Hcl

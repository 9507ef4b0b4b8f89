/-
Sorting into bins, and the largest bin in one pass.

`bins key l` puts the entries of `l` into one bin for each key, in the
order the keys are first met: the bin of a key is the sublist of the
entries that have it (`mem_bins`), so a bin's size is the number of
votes for its key.

`pass` goes over the bins once. It remembers the largest size so far,
the key of the first bin of that size, and whether another bin came to
tie it; a larger bin takes the tie back. What it ends with does not
depend on the order of the bins: the key is ahead of all others, or
there is a tie and no key is (`pass_untied`, `pass_tied`).
-/
import Mathlib.Data.List.Basic
import Mathlib.Data.List.Induction
import Mathlib.Data.List.Nodup

namespace Lib

variable {α κ : Type} [DecidableEq κ]

-- ===================================================================== the bins

/-- Put an entry into the bin of its key. -/
def toBin (key : α → κ) (bins : List (κ × List α)) (a : α) : List (κ × List α) :=
  if bins.any fun b => b.1 == key a then
    bins.map fun b => if b.1 = key a then (b.1, b.2 ++ [a]) else b
  else bins ++ [(key a, [a])]

/-- The entries by key. -/
def bins (key : α → κ) (l : List α) : List (κ × List α) := l.foldl (toBin key) []

variable {key : α → κ} {l : List α}

theorem bins_concat (key : α → κ) (l : List α) (a : α) :
    bins key (l ++ [a]) = toBin key (bins key l) a := by
  simp [bins]

/-- The keys of the bins after one more entry. -/
theorem keys_toBin (key : α → κ) (bs : List (κ × List α)) (a : α) :
    (toBin key bs a).map Prod.fst
      = if key a ∈ bs.map Prod.fst then bs.map Prod.fst else bs.map Prod.fst ++ [key a] := by
  have hany : (bs.any fun b => b.1 == key a) = true ↔ key a ∈ bs.map Prod.fst := by
    simp only [List.any_eq_true, List.mem_map, beq_iff_eq]
  unfold toBin
  by_cases h : key a ∈ bs.map Prod.fst
  · rw [if_pos (hany.2 h), if_pos h, List.map_map]
    apply List.map_congr_left
    intro b _
    dsimp only [Function.comp]
    split <;> rfl
  · rw [if_neg (fun hb => h (hany.1 hb)), if_neg h, List.map_append]
    rfl

/-- No two bins have the same key. -/
theorem nodup_keys (key : α → κ) (l : List α) : ((bins key l).map Prod.fst).Nodup := by
  induction l using List.reverseRecOn with
  | nil => simp [bins]
  | append_singleton l a ih =>
      rw [bins_concat, keys_toBin]
      split
      · exact ih
      · rename_i hnew
        rw [List.nodup_append]
        refine ⟨ih, by simp, ?_⟩
        intro k hk k' hk'
        rw [List.mem_singleton.1 hk']
        rintro rfl
        exact hnew hk

/-- The keys of the bins are the keys of the entries. -/
theorem mem_keys {k : κ} : k ∈ (bins key l).map Prod.fst ↔ k ∈ l.map key := by
  induction l using List.reverseRecOn with
  | nil => simp [bins]
  | append_singleton l a ih =>
      rw [bins_concat, keys_toBin, List.map_append, List.mem_append, ← ih]
      split
      · rename_i hold
        constructor
        · exact .inl
        · rintro (hk | hk)
          · exact hk
          · rw [List.map_singleton, List.mem_singleton] at hk
            rw [hk]
            exact hold
      · rw [List.mem_append, List.map_singleton]

/-- The bin of a key holds the entries that have it. -/
theorem snd_of_mem_bins {b : κ × List α} (h : b ∈ bins key l) :
    b.2 = l.filter fun a => key a = b.1 := by
  induction l using List.reverseRecOn generalizing b with
  | nil => simp [bins] at h
  | append_singleton l a ih =>
      rw [List.filter_append]
      have hmem := h
      rw [bins_concat] at h
      unfold toBin at h
      split at h
      · -- the entry goes into a bin that is there
        obtain ⟨c, hc, rfl⟩ := List.mem_map.1 h
        split
        · rename_i hkey
          rw [ih hc]
          simp [hkey]
        · rename_i hkey
          rw [ih hc]
          simp [Ne.symm hkey]
      · rename_i hnew
        have hfresh : key a ∉ l.map key := by
          rw [← mem_keys]
          intro hk
          obtain ⟨c, hc, he⟩ := List.mem_map.1 hk
          exact hnew (List.any_eq_true.2 ⟨c, hc, by simp [he]⟩)
        rcases List.mem_append.1 h with hb | hb
        · have hne : b.1 ≠ key a := by
            rintro he
            exact hfresh (he ▸ mem_keys.1 (List.mem_map_of_mem hb))
          rw [ih hb]
          simp [Ne.symm hne]
        · rw [List.mem_singleton.1 hb]
          have hnone : l.filter (fun x => key x = key a) = [] := by
            rw [List.filter_eq_nil_iff]
            intro x hx
            have hne : key x ≠ key a := fun he => hfresh (he ▸ List.mem_map_of_mem hx)
            simpa using hne
          simp [hnone]

/-- What the bins are. -/
theorem mem_bins {b : κ × List α} :
    b ∈ bins key l ↔ b.1 ∈ l.map key ∧ b.2 = l.filter fun a => key a = b.1 := by
  constructor
  · intro h
    exact ⟨mem_keys.1 (List.mem_map_of_mem h), snd_of_mem_bins h⟩
  · rintro ⟨hkey, hsnd⟩
    obtain ⟨c, hc, he⟩ := List.mem_map.1 (mem_keys.2 hkey)
    have hcb : c = b := by
      apply Prod.ext
      · exact he
      · rw [snd_of_mem_bins hc, hsnd, he]
    exact hcb ▸ hc

/-- The votes for a key. -/
def votes (key : α → κ) (l : List α) (k : κ) : Nat := (l.filter fun a => key a = k).length

theorem votes_pos {k : κ} : 0 < votes key l k ↔ k ∈ l.map key := by
  unfold votes
  rw [List.length_pos_iff_exists_mem]
  simp

/-- A key ahead of all others. -/
def Leads (key : α → κ) (l : List α) (k : κ) : Prop := ∀ k', k' ≠ k → votes key l k' < votes key l k

/-- Only keys that have votes compete. -/
theorem Leads.of_keys {k : κ} (hk : k ∈ l.map key)
    (h : ∀ k' ∈ l.map key, k' ≠ k → votes key l k' < votes key l k) : Leads key l k := by
  intro k' hne
  by_cases hk' : k' ∈ l.map key
  · exact h k' hk' hne
  · have hzero : votes key l k' = 0 := by
      by_contra hpos
      exact hk' (votes_pos.1 (Nat.pos_of_ne_zero hpos))
    have hpos := votes_pos.2 hk
    omega

/-- Who leads does not depend on the order of the entries. -/
theorem Leads.perm {l' : List α} (h : l.Perm l') {k : κ} (hk : Leads key l k) : Leads key l' k := by
  have hvotes : ∀ k, votes key l' k = votes key l k := fun k => (h.filter _).length_eq.symm
  intro k' hne
  rw [hvotes, hvotes]
  exact hk k' hne

-- ==================================================================== one pass

/-- One bin of the pass. -/
def passStep (acc : Nat × κ × Bool) (b : κ × List α) : Nat × κ × Bool :=
  if acc.1 < b.2.length then (b.2.length, b.1, false)
  else if b.2.length = acc.1 then (acc.1, acc.2.1, true)
  else acc

/-- The pass over the bins: the largest size, its key, and whether it is
tied; `k₀` is the key before the first bin. -/
def pass (k₀ : κ) (bs : List (κ × List α)) : Nat × κ × Bool := bs.foldl passStep (0, k₀, false)

/-- What the pass knows of the bins it has seen. -/
structure Seen (bs : List (κ × List α)) (acc : Nat × κ × Bool) : Prop where
  largest : ∀ b ∈ bs, b.2.length ≤ acc.1
  first : bs ≠ [] → ∃ b ∈ bs, b.1 = acc.2.1 ∧ b.2.length = acc.1
  tied : acc.2.2 = true ↔ ∃ b ∈ bs, b.1 ≠ acc.2.1 ∧ b.2.length = acc.1
  zero : bs = [] → acc.1 = 0

variable {bs : List (κ × List α)} {k₀ : κ}

omit [DecidableEq κ] in
/-- One more bin. -/
theorem Seen.step {acc : Nat × κ × Bool} (h : Seen bs acc) {b : κ × List α}
    (hfresh : b.1 ∉ bs.map Prod.fst) (hfull : b.2 ≠ []) : Seen (bs ++ [b]) (passStep acc b) := by
  have hpos : 0 < b.2.length := List.length_pos_iff.2 hfull
  unfold passStep
  by_cases hlt : acc.1 < b.2.length
  · -- a larger bin takes back an earlier tie
    rw [if_pos hlt]
    refine ⟨?_, fun _ => ⟨b, by simp, rfl, rfl⟩, ?_, fun hnil => by simp at hnil⟩
    · intro c hc
      rcases List.mem_append.1 hc with hc | hc
      · exact Nat.le_of_lt (Nat.lt_of_le_of_lt (h.largest c hc) hlt)
      · exact Nat.le_of_eq (congrArg (fun d => d.2.length) (List.mem_singleton.1 hc))
    · constructor
      · intro hf
        cases hf
      · rintro ⟨c, hc, hne, hlen⟩
        rcases List.mem_append.1 hc with hc | hc
        · have hle := h.largest c hc
          dsimp only at hlen
          omega
        · exact absurd (congrArg Prod.fst (List.mem_singleton.1 hc)) hne
  rw [if_neg hlt]
  by_cases heq : b.2.length = acc.1
  · -- another bin of the largest size
    rw [if_pos heq]
    have hsome : bs ≠ [] := by
      intro hnil
      have hzero := h.zero hnil
      omega
    obtain ⟨c, hc, hkey, hlen⟩ := h.first hsome
    refine ⟨?_, fun _ => ⟨c, List.mem_append_left _ hc, hkey, hlen⟩, ?_, fun hnil =>
      by simp at hnil⟩
    · intro d hd
      rcases List.mem_append.1 hd with hd | hd
      · exact h.largest d hd
      · rw [List.mem_singleton.1 hd]
        exact Nat.le_of_eq heq
    · refine ⟨fun _ => ⟨b, by simp, ?_, heq⟩, fun _ => rfl⟩
      intro hb
      exact hfresh (hb.trans hkey.symm ▸ List.mem_map_of_mem hc)
  · rw [if_neg heq]
    have hsome : bs ≠ [] := by
      intro hnil
      have hzero := h.zero hnil
      omega
    obtain ⟨c, hc, hkey, hlen⟩ := h.first hsome
    refine ⟨?_, fun _ => ⟨c, List.mem_append_left _ hc, hkey, hlen⟩, ?_, fun hnil =>
      by simp at hnil⟩
    · intro d hd
      rcases List.mem_append.1 hd with hd | hd
      · exact h.largest d hd
      · rw [List.mem_singleton.1 hd]
        omega
    · rw [h.tied]
      constructor
      · rintro ⟨d, hd, hne, hdlen⟩
        exact ⟨d, List.mem_append_left _ hd, hne, hdlen⟩
      · rintro ⟨d, hd, hne, hdlen⟩
        rcases List.mem_append.1 hd with hd | hd
        · exact ⟨d, hd, hne, hdlen⟩
        · rw [List.mem_singleton.1 hd] at hdlen
          exact absurd hdlen heq

omit [DecidableEq κ] in
/-- The whole pass. -/
theorem seen_pass (hkeys : (bs.map Prod.fst).Nodup) (hfull : ∀ b ∈ bs, b.2 ≠ []) :
    Seen bs (pass k₀ bs) := by
  induction bs using List.reverseRecOn with
  | nil =>
      refine ⟨fun b hb => (nomatch hb), fun h => absurd rfl h, ?_, fun _ => rfl⟩
      constructor
      · intro h
        cases h
      · rintro ⟨b, hb, -⟩
        cases hb
  | append_singleton bs b ih =>
      rw [List.map_append, List.nodup_append] at hkeys
      have hseen := ih hkeys.1 fun c hc => hfull c (List.mem_append_left _ hc)
      have hstep : pass k₀ (bs ++ [b]) = passStep (pass k₀ bs) b := by
        simp [pass]
      rw [hstep]
      refine hseen.step ?_ (hfull b (by simp))
      intro hmem
      exact hkeys.2.2 b.1 hmem b.1 (by simp) rfl

/-- The bins in any order are still bins. -/
theorem seen_pass_bins {bs : List (κ × List α)} (h : bs.Perm (bins key l)) :
    Seen bs (pass k₀ bs) := by
  apply seen_pass
  · exact (h.map Prod.fst).nodup_iff.2 (nodup_keys key l)
  · intro b hb
    have hbin := mem_bins.1 (h.mem_iff.1 hb)
    have hpos := votes_pos.2 hbin.1
    unfold votes at hpos
    rw [← hbin.2] at hpos
    exact List.length_pos_iff.1 hpos

/-- The size of a bin is the number of votes for its key. -/
theorem length_of_mem_bins {b : κ × List α} (h : b ∈ bins key l) :
    b.2.length = votes key l b.1 := by
  rw [snd_of_mem_bins h, votes]

/-- Without a tie the key of the pass leads, whatever the order. -/
theorem pass_untied {bs : List (κ × List α)} (h : bs.Perm (bins key l)) (hl : l ≠ [])
    (htied : (pass k₀ bs).2.2 = false) : Leads key l (pass k₀ bs).2.1 := by
  have hseen : Seen bs (pass k₀ bs) := seen_pass_bins h
  obtain ⟨a, ha⟩ := List.exists_mem_of_ne_nil l hl
  have hsome : bs ≠ [] := by
    intro hnil
    have hbin : (key a, l.filter fun x => key x = key a) ∈ bs :=
      h.mem_iff.2 (mem_bins.2 ⟨List.mem_map_of_mem ha, rfl⟩)
    rw [hnil] at hbin
    cases hbin
  obtain ⟨c, hc, hkey, hlen⟩ := hseen.first hsome
  have hsize := length_of_mem_bins (h.mem_iff.1 hc)
  rw [hkey, hlen] at hsize
  intro k hne
  rw [← hsize]
  by_cases hk : k ∈ l.map key
  · -- its bin is no larger, and would tie were it as large
    have hbin : (k, l.filter fun x => key x = k) ∈ bs := h.mem_iff.2 (mem_bins.2 ⟨hk, rfl⟩)
    have hle := hseen.largest _ hbin
    refine Nat.lt_of_le_of_ne hle fun he => ?_
    have hyes := hseen.tied.2 ⟨_, hbin, hne, he⟩
    rw [htied] at hyes
    cases hyes
  · have hzero : votes key l k = 0 := by
      by_contra hpos
      exact hk (votes_pos.1 (Nat.pos_of_ne_zero hpos))
    have hmem := (mem_bins.1 (h.mem_iff.1 hc)).1
    have hpos := votes_pos.2 hmem
    rw [hkey] at hpos
    omega

/-- With a tie nobody leads. -/
theorem pass_tied {bs : List (κ × List α)} (h : bs.Perm (bins key l))
    (htied : (pass k₀ bs).2.2 = true) (k : κ) : ¬Leads key l k := by
  have hseen : Seen bs (pass k₀ bs) := seen_pass_bins h
  obtain ⟨b, hb, hne, hblen⟩ := hseen.tied.1 htied
  obtain ⟨c, hc, hkey, hclen⟩ := hseen.first (List.ne_nil_of_mem hb)
  have hbsize := length_of_mem_bins (h.mem_iff.1 hb)
  have hcsize := length_of_mem_bins (h.mem_iff.1 hc)
  have hmost : votes key l k ≤ (pass k₀ bs).1 := by
    by_cases hk : k ∈ l.map key
    · have hbin : (k, l.filter fun x => key x = k) ∈ bs := h.mem_iff.2 (mem_bins.2 ⟨hk, rfl⟩)
      exact hseen.largest _ hbin
    · have hzero : votes key l k = 0 := by
        by_contra hpos
        exact hk (votes_pos.1 (Nat.pos_of_ne_zero hpos))
      omega
  intro hlead
  -- one of the two bins has another key
  by_cases hbk : b.1 = k
  · have hck : c.1 ≠ k := fun hck => hne (hbk.trans (hck.symm.trans hkey))
    have hlt := hlead c.1 hck
    omega
  · have hlt := hlead b.1 hbk
    omega

end Lib

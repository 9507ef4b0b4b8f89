/-
Cutting a list into groups of a fixed size.

`List.toChunks n` cuts off `n` elements at a time; only the last group
may be shorter. It is written with two accumulators, and everything
here is proved from one equation that is free of them
(`toChunks_eq_cons`) and the induction it gives. The other way round,
groups are laid one behind the other, and found again by their sizes
(`flatten_of_chunkSize`).
-/
import Mathlib.Data.List.Basic

namespace Lib

variable {α : Type} {n : Nat}

theorem toChunks_nil (n : Nat) : ([] : List α).toChunks n = [] := by
  cases n <;> rfl

/-- The accumulators hold the groups that are complete, and the one
that is being filled. -/
theorem toChunks_go (hn : 0 < n) (xs : List α) (group : Array α) (groups : Array (List α))
    (hsize : group.size ≤ n) :
    List.toChunks.go n xs group groups = groups.toList
      ++ ((group.toList ++ xs.take (n - group.size)) :: (xs.drop (n - group.size)).toChunks n) := by
  induction xs generalizing group groups with
  | nil => simp [List.toChunks.go, toChunks_nil]
  | cons x xs ih =>
      rw [List.toChunks.go]
      by_cases hfull : group.size = n
      · -- the group is complete, and `x` opens the next
        obtain ⟨m, rfl⟩ : ∃ m, n = m + 1 := ⟨n - 1, by omega⟩
        have hopen : (x :: xs).toChunks (m + 1) = List.toChunks.go (m + 1) xs #[x] #[] := rfl
        rw [if_pos (by simpa using hfull), ih _ _ (by simp), hfull, Nat.sub_self, List.drop_zero,
          hopen, ih _ _ (by simp)]
        simp
      · have hroom : n - group.size = n - (group.size + 1) + 1 := by omega
        rw [if_neg (by simpa using hfull), ih _ _ (by simp; omega), hroom]
        simp

/-- The first group, and the groups of the rest. -/
theorem toChunks_eq_cons (hn : 0 < n) {l : List α} (hl : l ≠ []) :
    l.toChunks n = l.take n :: (l.drop n).toChunks n := by
  cases l with
  | nil => exact absurd rfl hl
  | cons x xs =>
      obtain ⟨m, rfl⟩ : ∃ m, n = m + 1 := ⟨n - 1, by omega⟩
      have hopen : (x :: xs).toChunks (m + 1) = List.toChunks.go (m + 1) xs #[x] #[] := rfl
      rw [hopen, toChunks_go hn _ _ _ (by simp)]
      simp

/-- A group of full size in front. -/
theorem toChunks_append (hn : 0 < n) {l : List α} (hl : l.length = n) (rest : List α) :
    (l ++ rest).toChunks n = l :: rest.toChunks n := by
  have hne : l ++ rest ≠ [] := by
    intro h
    have hnil := (List.append_eq_nil_iff.1 h).1
    rw [hnil] at hl
    exact absurd hl.symm (Nat.ne_of_gt hn)
  rw [toChunks_eq_cons hn hne, ← hl, List.take_left, List.drop_left]

/-- A list that is one group. -/
theorem toChunks_short (hn : 0 < n) {l : List α} (hne : l ≠ []) (hl : l.length ≤ n) :
    l.toChunks n = [l] := by
  rw [toChunks_eq_cons hn hne, List.take_of_length_le hl, List.drop_of_length_le hl, toChunks_nil]

/-- Induction over the groups of a list. -/
theorem chunks_induction {P : List α → Prop} (hn : 0 < n) (hnil : P [])
    (hstep : ∀ l, l ≠ [] → P (l.drop n) → P l) (l : List α) : P l := by
  induction hlen : l.length using Nat.strongRecOn generalizing l with
  | ind len ih =>
      by_cases hl : l = []
      · exact hl ▸ hnil
      · have hpos : 0 < l.length := List.length_pos_iff.2 hl
        exact hstep l hl (ih _ (by rw [List.length_drop]; omega) _ rfl)

-- ============================================ groups one behind the other

/-- The size of the `i`th group of `n` out of `total`. -/
def chunkSize (n total i : Nat) : Nat := min n (total - i * n)

theorem chunkSize_succ (n total i : Nat) :
    chunkSize n total (i + 1) = chunkSize n (total - n) i := by
  unfold chunkSize
  rw [Nat.succ_mul, Nat.add_comm, Nat.sub_sub]

/-- Groups that are no longer than they should be are together no longer
than the whole; and if they are as long, none is short. -/
theorem length_flatten_of_le {parts : List (List α)} {total : Nat}
    (h : ∀ i (hi : i < parts.length), parts[i].length ≤ chunkSize n total i) :
    parts.flatten.length ≤ total
      ∧ (parts.flatten.length = total → ∀ i (hi : i < parts.length),
        parts[i].length = chunkSize n total i) := by
  induction parts generalizing total with
  | nil => exact ⟨Nat.zero_le _, fun _ i hi => absurd hi (Nat.not_lt_zero i)⟩
  | cons part parts ih =>
      have hfirst : part.length ≤ chunkSize n total 0 := h 0 (Nat.succ_pos _)
      have hfirst' : part.length ≤ min n total := by
        rw [chunkSize, Nat.zero_mul, Nat.sub_zero] at hfirst
        exact hfirst
      obtain ⟨hle, hall⟩ := @ih (total - n) fun i hi => by
        rw [← chunkSize_succ]
        exact h (i + 1) (Nat.succ_lt_succ hi)
      rw [List.flatten_cons, List.length_append]
      refine ⟨by omega, fun heq i hi => ?_⟩
      cases i with
      | zero =>
          rw [chunkSize, Nat.zero_mul, Nat.sub_zero]
          show part.length = _
          omega
      | succ i =>
          rw [chunkSize_succ]
          exact hall (by omega) i (Nat.lt_of_succ_lt_succ hi)

/-- Groups of the right sizes make up the whole, and each is found at
its place. -/
theorem flatten_of_chunkSize {parts : List (List α)} {total : Nat}
    (hcover : total ≤ parts.length * n)
    (h : ∀ i (hi : i < parts.length), parts[i].length = chunkSize n total i) :
    parts.flatten.length = total
      ∧ ∀ i (hi : i < parts.length), (parts.flatten.drop (i * n)).take (chunkSize n total i)
        = parts[i] := by
  induction parts generalizing total with
  | nil =>
      rw [List.length_nil, Nat.zero_mul] at hcover
      exact ⟨(Nat.le_zero.1 hcover).symm, fun i hi => absurd hi (Nat.not_lt_zero i)⟩
  | cons part parts ih =>
      have hfirst : part.length = min n total := by
        have hzero := h 0 (Nat.succ_pos _)
        rw [chunkSize, Nat.zero_mul, Nat.sub_zero] at hzero
        exact hzero
      rw [List.length_cons, Nat.succ_mul] at hcover
      obtain ⟨hlen, hparts⟩ := @ih (total - n) (by omega) fun i hi => by
        rw [← chunkSize_succ]
        exact h (i + 1) (Nat.succ_lt_succ hi)
      rw [List.flatten_cons, List.length_append]
      refine ⟨by omega, fun i hi => ?_⟩
      cases i with
      | zero =>
          rw [chunkSize, Nat.zero_mul, List.drop_zero, Nat.sub_zero, ← hfirst]
          exact List.take_left
      | succ i =>
          have hrest := hparts i (Nat.lt_of_succ_lt_succ hi)
          rw [chunkSize_succ, Nat.succ_mul, Nat.add_comm, List.getElem_cons_succ]
          by_cases hlong : n ≤ total
          · have hpart : part.length = n := by omega
            rw [← List.drop_drop, ← hpart, List.drop_left, hpart]
            exact hrest
          · -- nothing is left for the groups behind the first
            have hzero : chunkSize n (total - n) i = 0 := by
              unfold chunkSize
              omega
            rw [hzero, List.take_zero] at hrest ⊢
            exact hrest

end Lib

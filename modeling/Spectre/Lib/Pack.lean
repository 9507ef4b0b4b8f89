/-
Greedy packing.

Items are put into the open pack as they come; one that would make it
too large closes it and opens the next. Nothing is lost, repeated or
reordered (`pack_flatten`), and if every item fits a pack on its own
then every pack fits (`pack_fits`).
-/
import Mathlib.Algebra.Order.Ring.Nat
import Mathlib.Data.List.Basic

namespace Lib

variable {α : Type}

/-- The packs closed on the way, and the one left open, starting from an
open pack. -/
def pack (cap : Nat) (size : α → Nat) : List α → List α → List (List α) × List α
  | cur, [] => ([], cur)
  | cur, a :: rest =>
      if cap < (cur.map size).sum + size a ∧ cur ≠ [] then
        (cur :: (pack cap size [a] rest).1, (pack cap size [a] rest).2)
      else pack cap size (cur ++ [a]) rest

variable {cap : Nat} {size : α → Nat} {cur l : List α}

theorem pack_flatten :
    (pack cap size cur l).1.flatten ++ (pack cap size cur l).2 = cur ++ l := by
  induction l generalizing cur with
  | nil => simp [pack]
  | cons a rest ih =>
      unfold pack
      split
      · rw [List.flatten_cons, List.append_assoc, ih]
        rfl
      · rw [ih, List.append_assoc]
        rfl

/-- A closed pack holds something. -/
theorem ne_nil_of_mem_pack {b : List α} (h : b ∈ (pack cap size cur l).1) : b ≠ [] := by
  induction l generalizing cur with
  | nil => cases h
  | cons a rest ih =>
      unfold pack at h
      split at h
      · rename_i hfull
        rcases List.mem_cons.1 h with rfl | h
        · exact hfull.2
        · exact ih h
      · exact ih h

/-- If every item fits, every pack does. -/
theorem pack_fits (hl : ∀ a ∈ l, size a ≤ cap) (hcur : (cur.map size).sum ≤ cap) {b : List α}
    (h : b ∈ (pack cap size cur l).1 ++ [(pack cap size cur l).2]) : (b.map size).sum ≤ cap := by
  induction l generalizing cur with
  | nil =>
      simp only [pack, List.nil_append, List.mem_singleton] at h
      rw [h]
      exact hcur
  | cons a rest ih =>
      have ha : size a ≤ cap := hl a List.mem_cons_self
      have hrest : ∀ c ∈ rest, size c ≤ cap := fun c hc => hl c (List.mem_cons_of_mem _ hc)
      unfold pack at h
      split at h
      · rw [List.cons_append] at h
        rcases List.mem_cons.1 h with rfl | h
        · exact hcur
        · exact ih hrest (by simpa using ha) h
      · rename_i hfit
        refine ih hrest ?_ h
        rw [List.map_append, List.sum_append, List.map_singleton, List.sum_singleton]
        by_cases hnil : cur = []
        · rw [hnil, List.map_nil, List.sum_nil]
          omega
        · by_contra hover
          exact hfit ⟨by omega, hnil⟩

end Lib

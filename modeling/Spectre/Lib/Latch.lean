/-
A latch over a log: set by some entries, reset by others.

`latch opens closes l` is whether the last entry that opens came after
the last that closes — what a reader of the log believes to be open.
`latch_iff` says so without the fold.
-/
import Mathlib.Data.List.Basic
import Mathlib.Data.List.Induction

namespace Lib

variable {α : Type} {opens closes : α → Bool} {l : List α} {x : α}

/-- Whether the log leaves the latch open. -/
def latch (opens closes : α → Bool) (l : List α) : Bool :=
  l.foldl (fun up x => opens x || (up && !closes x)) false

@[simp] theorem latch_nil : latch opens closes [] = false := rfl

theorem latch_concat :
    latch opens closes (l ++ [x]) = (opens x || (latch opens closes l && !closes x)) := by
  unfold latch
  rw [List.foldl_append, List.foldl_cons, List.foldl_nil]

/-- The latch is open exactly if an entry opened it and none closed it
after. -/
theorem latch_iff : latch opens closes l = true ↔
    ∃ pre x post, l = pre ++ x :: post ∧ opens x = true ∧ ∀ y ∈ post, closes y = false := by
  induction l using List.reverseRecOn with
  | nil =>
      constructor
      · exact fun h => nomatch h
      · rintro ⟨pre, x, post, h, -⟩
        cases pre <;> cases h
  | append_singleton l z ih =>
      rw [latch_concat, Bool.or_eq_true, Bool.and_eq_true, Bool.not_eq_true', ih]
      constructor
      · rintro (hopen | ⟨⟨pre, x, post, rfl, hopen, hpost⟩, hclose⟩)
        · exact ⟨l, z, [], rfl, hopen, fun y hy => nomatch hy⟩
        · refine ⟨pre, x, post ++ [z], by simp, hopen, ?_⟩
          intro y hy
          rcases List.mem_append.1 hy with hy | hy
          · exact hpost y hy
          · rw [List.mem_singleton.1 hy]
            exact hclose
      · rintro ⟨pre, x, post, he, hopen, hpost⟩
        -- the opening entry is the last of the log, or lies before it
        rcases List.eq_nil_or_concat' post with rfl | ⟨post', y, rfl⟩
        · rw [List.singleton_inj.1 (List.append_inj' he rfl).2]
          exact .inl hopen
        · rw [← List.cons_append, ← List.append_assoc] at he
          obtain ⟨rfl, hy⟩ := List.append_inj' he rfl
          rw [List.singleton_inj.1 hy]
          refine .inr ⟨⟨pre, x, post', rfl, hopen, ?_⟩, hpost y (by simp)⟩
          exact fun w hw => hpost w (List.mem_append_left _ hw)

end Lib

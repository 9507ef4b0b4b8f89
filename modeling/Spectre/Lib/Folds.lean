/-
What a run of calls leaves behind, read off the list of calls.

A call may set a part of the state, and then the part is what the last
such call set it to (`foldl_last`); or it may add something to a list,
and then the list is what all of them added (`foldl_filed`).
-/
import Mathlib.Data.List.Basic

namespace Lib

variable {σ γ δ ε : Type} {step : σ → γ → σ}

theorem elim_id (o : Option ε) (x : ε) : o.elim x id = o.getD x := by cases o <;> rfl

/-- A part of the state that some of the calls set. -/
theorem foldl_last {part : σ → δ} {sets : γ → Option ε} {upd : ε → δ}
    (h : ∀ s c, part (step s c) = (sets c).elim (part s) upd) (calls : List γ) (s : σ) :
    part (calls.foldl step s) = (calls.filterMap sets).getLast?.elim (part s) upd := by
  induction calls generalizing s with
  | nil => rfl
  | cons c calls ih =>
      rw [List.foldl_cons, ih, h, List.filterMap_cons]
      cases sets c with
      | none => rfl
      | some x =>
          dsimp only
          rw [List.getLast?_cons]
          cases (calls.filterMap sets).getLast? <;> rfl

/-- A list that some of the calls add to. -/
theorem foldl_filed {filed : σ → List ε} {adds : γ → Option ε}
    (h : ∀ s c, filed (step s c) = filed s ++ (adds c).toList) (calls : List γ) (s : σ) :
    filed (calls.foldl step s) = filed s ++ calls.filterMap adds := by
  induction calls generalizing s with
  | nil => exact (List.append_nil _).symm
  | cons c calls ih =>
      rw [List.foldl_cons, ih, h, List.append_assoc, List.filterMap_cons]
      cases adds c <;> rfl

end Lib

/-
Paths of labelled steps, with a guard on each.

A large transition function is easier to reason about as a path of
small steps, each of a known kind. `Path step K s t` is such a path:
every step on it has a kind that `K` admits in the state it is taken
from. One lemma per function gives its path; one case analysis per
property gives what a single step does; `Path.preserves` and
`Path.relates` join the two.

The guard depends on the state so that a property can admit a kind of
step where it is harmless and ask for a reason elsewhere.
-/
import Mathlib.Logic.Relation

namespace Lib

variable {κ σ α : Type}

/-- `t` is reached from `s` by steps of admitted kinds. -/
def Path (step : κ → σ → σ → Prop) (K : κ → σ → Prop) : σ → σ → Prop :=
  Relation.ReflTransGen fun s t => ∃ k, K k s ∧ step k s t

namespace Path

variable {step : κ → σ → σ → Prop} {K K' : κ → σ → Prop} {s t u : σ}

protected theorem refl (s : σ) : Path step K s s := Relation.ReflTransGen.refl

protected theorem trans (h₁ : Path step K s t) (h₂ : Path step K t u) : Path step K s u :=
  Relation.ReflTransGen.trans h₁ h₂

/-- One step is a path. -/
theorem one {k : κ} (hk : K k s) (h : step k s t) : Path step K s t :=
  Relation.ReflTransGen.single ⟨k, hk, h⟩

/-- A path stays a path when more is admitted. -/
theorem mono (hK : ∀ k s, K k s → K' k s) (h : Path step K s t) : Path step K' s t :=
  Relation.ReflTransGen.mono (fun _ _ ⟨k, hk, hs⟩ => ⟨k, hK k _ hk, hs⟩) s t h

/-- A loop is a path when its body is. -/
theorem foldl {f : σ → α → σ} (l : List α) (h : ∀ s, ∀ a ∈ l, Path step K s (f s a)) (s : σ) :
    Path step K s (l.foldl f s) := by
  induction l generalizing s with
  | nil => exact Path.refl s
  | cons a l ih =>
      exact (h s a List.mem_cons_self).trans
        (ih (fun s b hb => h s b (List.mem_cons_of_mem _ hb)) (f s a))

/-- What every admitted step preserves holds at the end of a path. -/
theorem preserves {I : σ → Prop} (hstep : ∀ k s t, K k s → step k s t → I s → I t)
    (h : Path step K s t) (hs : I s) : I t := by
  induction h with
  | refl => exact hs
  | tail _ hlast ih =>
      obtain ⟨k, hk, hst⟩ := hlast
      exact hstep k _ _ hk hst ih

/-- What every admitted step preserves holds all along a path. -/
theorem always {I : σ → Prop} (hstep : ∀ k s t, K k s → step k s t → I s → I t)
    (h : Path step K s t) (hs : I s) : Path step (fun _ u => I u) s t ∧ I t := by
  induction h with
  | refl => exact ⟨Path.refl s, hs⟩
  | tail _ hlast ih =>
      obtain ⟨k, hk, hst⟩ := hlast
      exact ⟨ih.1.trans (Path.one ih.2 hst), hstep k _ _ hk hst ih.2⟩

/-- A preorder every admitted step respects holds between the ends of a
path. -/
theorem relates {R : σ → σ → Prop} (hrefl : ∀ s, R s s) (htrans : ∀ s t u, R s t → R t u → R s u)
    (hstep : ∀ k s t, K k s → step k s t → R s t) (h : Path step K s t) : R s t := by
  induction h with
  | refl => exact hrefl _
  | tail _ hlast ih =>
      obtain ⟨k, hk, hst⟩ := hlast
      exact htrans _ _ _ ih (hstep k _ _ hk hst)

end Path

-- ================================================== runs of a step function

/-- Every label of a list is admitted where its step is taken. -/
def Meets (f : σ → κ → σ) (K : κ → σ → Prop) : σ → List κ → Prop
  | _, [] => True
  | s, k :: ks => K k s ∧ Meets f K (f s k) ks

/-- Whether a list meets a decidable guard. -/
def decideMeets (f : σ → κ → σ) {K : κ → σ → Prop} (h : ∀ k s, Decidable (K k s)) :
    (s : σ) → (ks : List κ) → Decidable (Meets f K s ks)
  | _, [] => isTrue trivial
  | s, k :: ks =>
      have := h k s
      have := decideMeets f h (f s k) ks
      inferInstanceAs (Decidable (K k s ∧ Meets f K (f s k) ks))

instance (f : σ → κ → σ) (K : κ → σ → Prop) [h : ∀ k s, Decidable (K k s)] (s : σ)
    (ks : List κ) : Decidable (Meets f K s ks) := decideMeets f h s ks

/-- A list of admitted labels is a path. -/
theorem Path.of_meets {f : σ → κ → σ} {K : κ → σ → Prop} {ks : List κ} {s : σ}
    (h : Meets f K s ks) : Path (fun k s t => t = f s k) K s (ks.foldl f s) := by
  induction ks generalizing s with
  | nil => exact Path.refl s
  | cons k ks ih => exact (Path.one (k := k) h.1 rfl).trans (ih h.2)

end Lib

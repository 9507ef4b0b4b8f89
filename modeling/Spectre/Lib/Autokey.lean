/-
Ciphers whose state moves on with the plain words.

What a word is masked with depends on the words before it, so neither
direction works on a word by itself: the receiver finds each state from
the words it has just uncovered. Both directions run through the same
states (`encipher_decipher`, `decipher_encipher`), so each is a
bijection on the messages of a length.
-/
import Mathlib.Data.Set.Function
import Mathlib.Logic.Equiv.Defs

namespace Lib

/-- A cipher: what is done to a word in a state, which can be undone,
and the state behind a plain word. -/
structure Autokey (σ α : Type) where
  uncover : σ → Equiv.Perm α
  next : σ → α → σ

namespace Autokey

variable {σ α : Type} (a : Autokey σ α)

/-- The plain words, from a state on. -/
def decipher : List α → σ → List α
  | [], _ => []
  | c :: cs, s => a.uncover s c :: decipher cs (a.next s (a.uncover s c))

/-- The cipher words, from a state on. -/
def encipher : List α → σ → List α
  | [], _ => []
  | p :: ps, s => (a.uncover s).symm p :: encipher ps (a.next s p)

@[simp] theorem length_decipher (cs : List α) (s : σ) : (a.decipher cs s).length = cs.length := by
  induction cs generalizing s with
  | nil => rfl
  | cons c cs ih => exact congrArg (· + 1) (ih _)

@[simp] theorem length_encipher (ps : List α) (s : σ) : (a.encipher ps s).length = ps.length := by
  induction ps generalizing s with
  | nil => rfl
  | cons p ps ih => exact congrArg (· + 1) (ih _)

/-- Enciphering undoes deciphering: it meets the same states. -/
theorem encipher_decipher (cs : List α) (s : σ) : a.encipher (a.decipher cs s) s = cs := by
  induction cs generalizing s with
  | nil => rfl
  | cons c cs ih =>
      unfold decipher encipher
      rw [Equiv.symm_apply_apply, ih]

/-- Deciphering undoes enciphering. -/
theorem decipher_encipher (ps : List α) (s : σ) : a.decipher (a.encipher ps s) s = ps := by
  induction ps generalizing s with
  | nil => rfl
  | cons p ps ih =>
      unfold encipher decipher
      rw [Equiv.apply_symm_apply, ih]

end Autokey

/-- Two maps that keep the length and undo each other are bijections on
the lists of each length. -/
theorem bijOn_length_of_inverse {α : Type} {f g : List α → List α}
    (hf : ∀ l, (f l).length = l.length) (hg : ∀ l, (g l).length = l.length)
    (hgf : ∀ l, g (f l) = l) (hfg : ∀ l, f (g l) = l) (n : Nat) :
    Set.BijOn f {l | l.length = n} {l | l.length = n} := by
  refine ⟨?_, ?_, ?_⟩
  · intro l hl
    exact (hf l).trans hl
  · intro l _ l' _ h
    rw [← hgf l, ← hgf l', h]
  · intro l hl
    exact ⟨g l, (hg l).trans hl, hfg l⟩

end Lib

/-
Readers that take a value off the front of a buffer.

A reader is a state monad over the buffer with an error. What an
encoder wrote is read off (`ReadsOff`): the reader gives the value and
leaves exactly what stood behind it, and fails on every buffer that
ends inside it. The two are proved together because they compose
together: a cut of two encodings in a row is a cut of the first, or the
first and a cut of the second (`ReadsOff.bind`).
-/
import Mathlib.Data.List.Basic

namespace Lib

variable {ε β α γ : Type}

/-- `bytes` is `a` to the reader, whatever follows it, and nothing
shorter is anything. -/
structure ReadsOff (m : EStateM ε (List β) α) (bytes : List β) (a : α) : Prop where
  /-- the value is read, and what follows it is left -/
  whole : ∀ rest, m (bytes ++ rest) = .ok a rest
  /-- a buffer that ends inside it is refused -/
  cut : ∀ part more, bytes = part ++ more → more ≠ [] → ∃ e left, m part = .error e left

namespace ReadsOff

variable {m : EStateM ε (List β) α} {f : α → EStateM ε (List β) γ} {bytes more : List β}
    {a : α} {c : γ}

/-- Nothing is read off an empty encoding, and nothing can be cut from
it. -/
theorem pure (a : α) : ReadsOff (Pure.pure a : EStateM ε (List β) α) [] a where
  whole _ := rfl
  cut _ _ he hne := absurd (List.append_eq_nil_iff.1 he.symm).2 hne

/-- Two readers in a row read two encodings in a row. -/
theorem bind (hm : ReadsOff m bytes a) (hf : ReadsOff (f a) more c) :
    ReadsOff (m >>= f) (bytes ++ more) c where
  whole rest := by
    have hm' := hm.whole (more ++ rest)
    rw [List.append_assoc]
    simp only [Bind.bind, EStateM.bind, hm']
    exact hf.whole rest
  cut part tail he hne := by
    rcases List.append_eq_append_iff.1 he with ⟨mid, hpart, hmore⟩ | ⟨mid, hbytes, htail⟩
    · -- the first is all there, and the second is cut
      obtain ⟨e, left, hcut⟩ := hf.cut mid tail hmore hne
      refine ⟨e, left, ?_⟩
      simp only [Bind.bind, EStateM.bind, hpart, hm.whole mid]
      exact hcut
    · by_cases hmid : mid = []
      · -- the cut is between the two
        subst hmid
        rw [List.append_nil] at hbytes
        rw [List.nil_append] at htail
        obtain ⟨e, left, hcut⟩ := hf.cut [] more rfl (htail ▸ hne)
        refine ⟨e, left, ?_⟩
        have hm' := hm.whole []
        rw [List.append_nil] at hm'
        simp only [Bind.bind, EStateM.bind, ← hbytes, hm']
        exact hcut
      · obtain ⟨e, left, hcut⟩ := hm.cut part mid hbytes hmid
        refine ⟨e, left, ?_⟩
        simp only [Bind.bind, EStateM.bind, hcut]

/-- A value computed from what was read. -/
theorem map (hm : ReadsOff m bytes a) (f : α → γ) : ReadsOff (do return f (← m)) bytes (f a) := by
  have h : ReadsOff (m >>= fun x => Pure.pure (f x)) (bytes ++ []) (f a) := hm.bind (.pure (f a))
  rw [List.append_nil] at h
  exact h

end ReadsOff

/-- Read `n` values, one after the other. -/
def readTimes (m : EStateM ε (List β) α) : Nat → EStateM ε (List β) (List α)
  | 0 => pure []
  | n + 1 => do
      let a ← m
      let rest ← readTimes m n
      return a :: rest

/-- The encodings of a list are read off one by one. -/
theorem ReadsOff.times {m : EStateM ε (List β) α} {enc : α → List β}
    (hm : ∀ a, ReadsOff m (enc a) a) (l : List α) : ReadsOff (readTimes m l.length) (l.flatMap enc)
    l := by
  induction l with
  | nil => exact .pure []
  | cons a l ih =>
      rw [List.flatMap_cons]
      exact (hm a).bind (ih.map fun rest => a :: rest)

end Lib

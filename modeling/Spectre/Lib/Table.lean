/-
Lists used as tables: the update of the first entry that matches, and
pointwise relations between a table and its successor.

A table looked up by key with `find?` is updated in place at the entry
`find?` returns. `updateFirst` is that update; the lemmas say which
entries it can change, that it commutes with any projection the update
leaves alone, and — for a table without duplicate keys — that it
touches exactly the entry with the key.
-/
import Mathlib.Data.List.Basic
import Mathlib.Data.List.Forall2
import Mathlib.Data.List.Nodup

namespace Lib

variable {α β : Type}

/-- Apply `f` to the first entry that satisfies `q`. -/
def updateFirst (q : α → Bool) (f : α → α) : List α → List α
  | [] => []
  | x :: xs => if q x then f x :: xs else x :: updateFirst q f xs

/-- The two ways an entry can come out of an update. -/
theorem mem_updateFirst {q : α → Bool} {f : α → α} {l : List α} {y : α}
    (h : y ∈ updateFirst q f l) : y ∈ l ∨ ∃ x ∈ l, q x = true ∧ l.find? q = some x ∧ y = f x := by
  induction l with
  | nil => cases h
  | cons x xs ih =>
      unfold updateFirst at h
      split at h
      · rename_i hq
        rcases List.mem_cons.1 h with rfl | h
        · exact .inr ⟨x, List.mem_cons_self, hq, by simp [hq], rfl⟩
        · exact .inl (List.mem_cons_of_mem _ h)
      · rename_i hq
        rcases List.mem_cons.1 h with rfl | h
        · exact .inl List.mem_cons_self
        · rcases ih h with h | ⟨z, hz, hqz, hfind, rfl⟩
          · exact .inl (List.mem_cons_of_mem _ h)
          · exact .inr ⟨z, List.mem_cons_of_mem _ hz, hqz, by simp [hq, hfind], rfl⟩

/-- An entry that does not match stays. -/
theorem mem_updateFirst_of_not {q : α → Bool} {f : α → α} {l : List α} {x : α} (hx : x ∈ l)
    (hq : q x = false) : x ∈ updateFirst q f l := by
  induction l with
  | nil => cases hx
  | cons y ys ih =>
      unfold updateFirst
      split
      · rename_i hy
        rcases List.mem_cons.1 hx with rfl | hx
        · rw [hq] at hy
          cases hy
        · exact List.mem_cons_of_mem _ hx
      · rcases List.mem_cons.1 hx with rfl | hx
        · exact List.mem_cons_self
        · exact List.mem_cons_of_mem _ (ih hx)

/-- Two pointwise relations, one after the other. -/
theorem forall₂_comp {γ δ ε : Type*} {R : γ → δ → Prop} {S : δ → ε → Prop} {T : γ → ε → Prop}
    (h : ∀ x y z, R x y → S y z → T x z) {xs : List γ} {ys : List δ} {zs : List ε}
    (hxy : List.Forall₂ R xs ys) (hyz : List.Forall₂ S ys zs) : List.Forall₂ T xs zs := by
  induction hxy generalizing zs with
  | nil =>
      cases hyz
      exact .nil
  | cons hone _ ih =>
      cases hyz with
      | cons hnext hrest => exact .cons (h _ _ _ hone hnext) (ih hrest)

/-- An update is pointwise: each entry is kept, or is the match and is
rewritten. -/
theorem forall₂_updateFirst {R : α → α → Prop} {q : α → Bool} {f : α → α} {l : List α}
    (hkeep : ∀ x ∈ l, R x x) (hupd : ∀ x ∈ l, q x = true → l.find? q = some x → R x (f x)) :
    List.Forall₂ R l (updateFirst q f l) := by
  induction l with
  | nil => exact .nil
  | cons x xs ih =>
      unfold updateFirst
      have hrest : List.Forall₂ R xs xs :=
        List.forall₂_same.2 fun y hy => hkeep y (List.mem_cons_of_mem _ hy)
      split
      · rename_i hq
        exact .cons (hupd x List.mem_cons_self hq (by simp [hq])) hrest
      · rename_i hq
        refine .cons (hkeep x List.mem_cons_self) (ih ?_ ?_)
        · exact fun y hy => hkeep y (List.mem_cons_of_mem _ hy)
        · intro y hy hqy hfind
          exact hupd y (List.mem_cons_of_mem _ hy) hqy (by simp [hq, hfind])

/-- A projection the update keeps is kept along the table. -/
theorem map_updateFirst {q : α → Bool} {f : α → α} {g : α → β} {l : List α}
    (h : ∀ x ∈ l, g (f x) = g x) : (updateFirst q f l).map g = l.map g := by
  induction l with
  | nil => rfl
  | cons x xs ih =>
      unfold updateFirst
      split
      · simp [h x List.mem_cons_self]
      · simp [ih fun y hy => h y (List.mem_cons_of_mem _ hy)]

/-- Without a match nothing changes. -/
theorem updateFirst_of_find?_none {q : α → Bool} {f : α → α} {l : List α}
    (h : l.find? q = none) : updateFirst q f l = l := by
  induction l with
  | nil => rfl
  | cons x xs ih =>
      rw [List.find?_cons] at h
      unfold updateFirst
      split at h
      · cases h
      · rename_i hq
        simp [hq, ih h]

/-- The match, rewritten, is in the table. -/
theorem mem_updateFirst_of_find? {q : α → Bool} {f : α → α} {l : List α} {x : α}
    (h : l.find? q = some x) : f x ∈ updateFirst q f l := by
  induction l with
  | nil => cases h
  | cons y ys ih =>
      unfold updateFirst
      split
      · rename_i hq
        rw [List.find?_cons_of_pos hq] at h
        cases h
        exact List.mem_cons_self
      · rename_i hq
        rw [List.find?_cons_of_neg hq] at h
        exact List.mem_cons_of_mem _ (ih h)

/-- The match is found again, rewritten, when the update keeps what is
looked for. -/
theorem find?_updateFirst {q : α → Bool} {f : α → α} {l : List α}
    (h : ∀ x ∈ l, q x = true → q (f x) = true) :
    (updateFirst q f l).find? q = (l.find? q).map f := by
  induction l with
  | nil => rfl
  | cons x xs ih =>
      unfold updateFirst
      split
      · rename_i hq
        simp [hq, h x List.mem_cons_self hq]
      · rename_i hq
        simp [hq, ih fun y hy => h y (List.mem_cons_of_mem _ hy)]

/-- Looking for something the update can neither create nor destroy
finds what it found before. -/
theorem find?_updateFirst_of_disjoint {q r : α → Bool} {f : α → α} {l : List α}
    (hf : ∀ x ∈ l, q x = true → r x = false ∧ r (f x) = false) :
    (updateFirst q f l).find? r = l.find? r := by
  induction l with
  | nil => rfl
  | cons x xs ih =>
      unfold updateFirst
      split
      · rename_i hq
        obtain ⟨h₁, h₂⟩ := hf x List.mem_cons_self hq
        simp [h₁, h₂]
      · rename_i hq
        rw [List.find?_cons, List.find?_cons,
          ih fun y hy => hf y (List.mem_cons_of_mem _ hy)]

/-- Nor does the update show in what is kept of the table, if what it
changes is left out. -/
theorem filter_updateFirst_of_disjoint {q r : α → Bool} {f : α → α} {l : List α}
    (hf : ∀ x ∈ l, q x = true → r x = false ∧ r (f x) = false) :
    (updateFirst q f l).filter r = l.filter r := by
  induction l with
  | nil => rfl
  | cons x xs ih =>
      unfold updateFirst
      split
      · rename_i hq
        obtain ⟨h₁, h₂⟩ := hf x List.mem_cons_self hq
        simp [h₁, h₂]
      · rename_i hq
        rw [List.filter_cons, List.filter_cons,
          ih fun y hy => hf y (List.mem_cons_of_mem _ hy)]

/-- Related tables answer a lookup alike, up to the relation, when
related entries agree on what is looked for. -/
theorem find?_map_of_forall₂ {R : α → α → Prop} {q : α → Bool} {g : α → β} {l l' : List α}
    (h : List.Forall₂ R l l') (hq : ∀ x y, R x y → q y = q x) (hg : ∀ x y, R x y → g y = g x) :
    (l'.find? q).map g = (l.find? q).map g := by
  induction h with
  | nil => rfl
  | @cons x y _ _ hxy _ ih =>
      rw [List.find?_cons, List.find?_cons, hq x y hxy]
      cases q x with
      | true => exact congrArg some (hg x y hxy)
      | false => exact ih

-- ================================================== tables with distinct keys

/-- In a table with distinct keys the lookup by key finds the entry
itself. -/
theorem find?_key_of_mem [BEq β] [LawfulBEq β] {key : α → β} {l : List α} {x : α}
    (hnd : (l.map key).Nodup) (hx : x ∈ l) : l.find? (fun y => key y == key x) = some x := by
  induction l with
  | nil => cases hx
  | cons y ys ih =>
      rw [List.map_cons, List.nodup_cons] at hnd
      rcases List.mem_cons.1 hx with rfl | hx
      · simp
      · have hne : key y ≠ key x := by
          intro he
          exact hnd.1 (he ▸ List.mem_map_of_mem hx)
        rw [List.find?_cons_of_neg (by simpa using hne)]
        exact ih hnd.2 hx

/-- Updating by key a table with distinct keys is updating the one
entry with that key. -/
theorem updateFirst_key [BEq β] [LawfulBEq β] {key : α → β} {k : β} {f : α → α} {l : List α}
    (hnd : (l.map key).Nodup) :
    updateFirst (fun y => key y == k) f l = l.map fun y => if key y == k then f y else y := by
  induction l with
  | nil => rfl
  | cons y ys ih =>
      rw [List.map_cons, List.nodup_cons] at hnd
      unfold updateFirst
      split
      · rename_i hk
        rw [List.map_cons, if_pos hk]
        congr 1
        have hid : ∀ x ∈ ys, (if key x == k then f x else x) = x := by
          intro x hx
          rw [if_neg]
          intro hxk
          have hkey : key x = key y := by rw [eq_of_beq hk, eq_of_beq hxk]
          exact hnd.1 (hkey ▸ List.mem_map_of_mem hx)
        rw [List.map_congr_left hid, List.map_id']
      · rename_i hk
        rw [List.map_cons, if_neg hk, ih hnd.2]

/-- Every entry on the right of a pairing has one on the left. -/
theorem exists_left_of_forall₂ {R : α → β → Prop} {l : List α} {l' : List β} {y : β}
    (h : List.Forall₂ R l l') (hy : y ∈ l') : ∃ x ∈ l, R x y := by
  induction h with
  | nil => cases hy
  | cons hxy _ ih =>
      rcases List.mem_cons.1 hy with rfl | hy
      · exact ⟨_, List.mem_cons_self, hxy⟩
      · obtain ⟨x, hx, hr⟩ := ih hy
        exact ⟨x, List.mem_cons_of_mem _ hx, hr⟩

/-- Every entry on the left of a pairing has one on the right. -/
theorem exists_right_of_forall₂ {R : α → β → Prop} {l : List α} {l' : List β} {x : α}
    (h : List.Forall₂ R l l') (hx : x ∈ l) : ∃ y ∈ l', R x y :=
  exists_left_of_forall₂ h.flip hx

/-- Without duplicate keys, removing the first entry with a key removes
the key. -/
theorem key_not_mem_eraseP [BEq β] [LawfulBEq β] {key : α → β} {k : β} {l : List α}
    (hnd : (l.map key).Nodup) : k ∉ (l.eraseP fun y => key y == k).map key := by
  induction l with
  | nil => exact List.not_mem_nil
  | cons x xs ih =>
      rw [List.map_cons, List.nodup_cons] at hnd
      by_cases hx : key x = k
      · rw [List.eraseP_cons_of_pos (by simp [hx]), ← hx]
        exact hnd.1
      · rw [List.eraseP_cons_of_neg (by simp [hx]), List.map_cons, List.mem_cons]
        rintro (h | h)
        · exact hx h.symm
        · exact ih hnd.2 h

/-- Removing an entry does not hide the entries with other keys. -/
theorem find?_key_eraseP [BEq β] [LawfulBEq β] {key : α → β} {k k' : β} (l : List α) (h : k' ≠ k) :
    (l.eraseP fun y => key y == k).find? (fun y => key y == k')
      = l.find? fun y => key y == k' := by
  induction l with
  | nil => rfl
  | cons x xs ih =>
      by_cases hx : key x = k
      · rw [List.eraseP_cons_of_pos (by simp [hx]), List.find?_cons_of_neg]
        rw [hx]
        simpa using h.symm
      · rw [List.eraseP_cons_of_neg (by simp [hx]), List.find?_cons, List.find?_cons, ih]

end Lib

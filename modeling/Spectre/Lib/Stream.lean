/-
Records written one behind the other, and read back.

A reader takes one record off the front of a stream and returns what is
left. If it finds what a writer wrote, whatever follows, then reading
until the stream is used up recovers the records that were written. If
moreover everything it can find has some property, then the records are
recovered exactly when all of them have it (`parse_flatMap_iff`).

Reading is done with fuel; a record takes something off the stream, so
the length of the stream is fuel enough.
-/
import Mathlib.Data.List.Basic

namespace Lib

variable {α β : Type}

/-- One record off the front of a stream. -/
abbrev Reader (α β : Type) := List α → Option (β × List α)

/-- The next `n` items, and what is read from exactly these. -/
def field (n : Nat) (content : List α → Option β) : Reader α β := fun src =>
  if n ≤ src.length then (content (src.take n)).map fun x => (x, src.drop n) else none

/-- At most `fuel` records, until the stream is used up. -/
def readAll (read : Reader α β) : Nat → List α → Option (List β)
  | _, [] => some []
  | 0, _ :: _ => none
  | fuel + 1, a :: src =>
      match read (a :: src) with
      | none => none
      | some (x, rest) => (readAll read fuel rest).map fun xs => x :: xs

/-- All records of a stream. -/
def parse (read : Reader α β) (src : List α) : Option (List β) := readAll read src.length src

-- ====================================================================== fields

section Field

variable {n : Nat} {content : List α → Option β} {body src rest : List α} {x : β}

theorem field_append (hn : body.length = n) (h : content body = some x) :
    field n content (body ++ rest) = some (x, rest) := by
  unfold field
  rw [if_pos (by rw [List.length_append]; omega), List.take_left' hn, List.drop_left' hn, h]
  rfl

theorem of_field (h : field n content src = some (x, rest)) :
    ∃ body, body.length = n ∧ content body = some x := by
  unfold field at h
  by_cases hn : n ≤ src.length
  · rw [if_pos hn, Option.map_eq_some_iff] at h
    obtain ⟨y, hy, hxy⟩ := h
    cases hxy
    exact ⟨src.take n, List.length_take_of_le hn, hy⟩
  · rw [if_neg hn] at h
    cases h

end Field

-- ===================================================================== streams

section Parse

variable {read : Reader α β} {write : β → List α} {ok : β → Prop} {xs : List β} {src : List α}

/-- With fuel enough, the records that were written are read. -/
theorem readAll_flatMap (hpos : ∀ x, write x ≠ [])
    (hread : ∀ x rest, ok x → read (write x ++ rest) = some (x, rest)) (hok : ∀ x ∈ xs, ok x)
    {fuel : Nat} (hfuel : (xs.flatMap write).length ≤ fuel) :
    readAll read fuel (xs.flatMap write) = some xs := by
  induction xs generalizing fuel with
  | nil =>
      cases fuel with
      | zero => rfl
      | succ fuel => rfl
  | cons x xs ih =>
      rw [List.flatMap_cons] at hfuel ⊢
      rw [List.length_append] at hfuel
      have hx := hread x (xs.flatMap write) (hok x List.mem_cons_self)
      have hlen : 0 < (write x).length := List.length_pos_iff.2 (hpos x)
      cases hw : write x ++ xs.flatMap write with
      | nil => exact absurd (List.append_eq_nil_iff.1 hw).1 (hpos x)
      | cons a rest =>
          cases fuel with
          | zero => omega
          | succ fuel =>
              rw [hw] at hx
              have hle : (xs.flatMap write).length ≤ fuel := by omega
              have hrest := ih (fun y hy => hok y (List.mem_cons_of_mem x hy)) hle
              unfold readAll
              rw [hx]
              dsimp only
              rw [hrest]
              rfl

/-- Every record that is read is one the reader can find. -/
theorem forall_of_readAll (hfound : ∀ src x rest, read src = some (x, rest) → ok x) {fuel : Nat}
    (h : readAll read fuel src = some xs) : ∀ x ∈ xs, ok x := by
  induction fuel generalizing src xs with
  | zero =>
      cases src with
      | nil =>
          cases h
          exact fun x hx => (List.not_mem_nil hx).elim
      | cons a src => cases h
  | succ fuel ih =>
      cases src with
      | nil =>
          cases h
          exact fun x hx => (List.not_mem_nil hx).elim
      | cons a src =>
          unfold readAll at h
          split at h
          · cases h
          · rename_i x rest hx
            rw [Option.map_eq_some_iff] at h
            obtain ⟨ys, hys, rfl⟩ := h
            intro y hy
            rcases List.mem_cons.1 hy with rfl | hy
            · exact hfound _ _ _ hx
            · exact ih hys y hy

/-- The records that were written are read back exactly when each is one
the reader can find. -/
theorem parse_flatMap_iff (hpos : ∀ x, write x ≠ [])
    (hread : ∀ x rest, ok x → read (write x ++ rest) = some (x, rest))
    (hfound : ∀ src x rest, read src = some (x, rest) → ok x) :
    parse read (xs.flatMap write) = some xs ↔ ∀ x ∈ xs, ok x :=
  ⟨forall_of_readAll hfound, fun hok => readAll_flatMap hpos hread hok (Nat.le_refl _)⟩

end Parse

end Lib

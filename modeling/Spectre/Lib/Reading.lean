/-
Readers put together.

A reader finds a value in some items if it takes exactly these off the
front of a stream, whatever follows (`Finds`). Readers one behind the
other find what each of them finds. A reader that is repeated as long as
the next item starts a record finds the records that were written, up to
the first item that does not start one (`Finds.whileThen`).
-/
import Spectre.Lib.Stream

namespace Lib.Reader

variable {α β γ : Type}

-- ===================================================================== readers

/-- A value of no items. -/
def give (x : β) : Reader α β := fun src => some (x, src)

/-- One reader behind another. -/
def andThen (r : Reader α β) (k : β → Reader α γ) : Reader α γ := fun src =>
  (r src).bind fun found => k found.1 found.2

/-- These items, and nothing of interest in them. -/
def expect [DecidableEq α] (items : List α) : Reader α Unit := fun src =>
  if src.take items.length = items then some ((), src.drop items.length) else none

/-- The next item. -/
def next : Reader α α
  | [] => none
  | a :: src => some (a, src)

/-- The items in front of an end mark; the mark is taken off as well. -/
def upTo [DecidableEq α] (mark : α) : Reader α (List α)
  | [] => none
  | a :: src =>
      if a = mark then some ([], src)
      else (upTo mark src).map fun found => (a :: found.1, found.2)

/-- At most `fuel` records, as long as the next item starts one. -/
def readWhileLoop (starts : α → Bool) (read : Reader α β) : Nat → Reader α (List β)
  | 0, src => if src.head?.any starts then none else some ([], src)
  | fuel + 1, src =>
      if src.head?.any starts then
        (read src).bind fun found =>
          (readWhileLoop starts read fuel found.2).map fun more => (found.1 :: more.1, more.2)
      else some ([], src)

/-- Records, as long as the next item starts one. -/
def readWhile (starts : α → Bool) (read : Reader α β) : Reader α (List β) := fun src =>
  readWhileLoop starts read src.length src

-- ============================================================== what they find

/-- The reader takes these items off the front, whatever follows, and
finds the value in them. -/
def Finds (r : Reader α β) (items : List α) (x : β) : Prop :=
  ∀ rest, r (items ++ rest) = some (x, rest)

namespace Finds

variable {r : Reader α β} {k : β → Reader α γ} {items more : List α} {x : β} {y : γ}

theorem give (x : β) : Finds (give x : Reader α β) [] x := fun _ => rfl

theorem andThen (h : Finds r items x) (h' : Finds (k x) more y) :
    Finds (r.andThen k) (items ++ more) y := by
  intro rest
  unfold Reader.andThen
  rw [List.append_assoc, h]
  exact h' rest

theorem expect [DecidableEq α] (items : List α) : Finds (expect items) items () := by
  intro rest
  unfold Reader.expect
  rw [List.take_left, List.drop_left, if_pos rfl]

theorem next (a : α) : Finds next [a] a := fun _ => rfl

theorem field {n : Nat} {content : List α → Option β} (hn : items.length = n)
    (h : content items = some x) : Finds (Lib.field n content) items x :=
  fun _ => field_append hn h

/-- Items without the mark are read up to it. -/
theorem upTo [DecidableEq α] {mark : α} (h : mark ∉ items) :
    Finds (upTo mark) (items ++ [mark]) items := by
  intro rest
  induction items with
  | nil =>
      show (if mark = mark then _ else _) = _
      rw [if_pos rfl]
      rfl
  | cons a items ih =>
      have ha : a ≠ mark := fun heq => h (heq ▸ List.mem_cons_self)
      have hrest := ih fun hmem => h (List.mem_cons_of_mem a hmem)
      rw [List.cons_append, List.cons_append, Reader.upTo, if_neg ha, hrest]
      rfl

end Finds

-- ==================================================================== repetition

section While

variable {starts : α → Bool} {read : Reader α β} {write : β → List α} {xs : List β}
  {rest : List α}

/-- With fuel enough, the records that were written are read, up to an
item that starts none. -/
theorem readWhileLoop_flatMap (hstarts : ∀ x ∈ xs, (write x).head?.any starts = true)
    (hread : ∀ x ∈ xs, Finds read (write x) x) (hstop : rest.head?.any starts = false)
    {fuel : Nat} (hfuel : xs.length ≤ fuel) :
    readWhileLoop starts read fuel (xs.flatMap write ++ rest) = some (xs, rest) := by
  induction xs generalizing fuel with
  | nil =>
      rw [List.flatMap_nil, List.nil_append]
      cases fuel with
      | zero => rw [readWhileLoop, if_neg (by rw [hstop]; exact Bool.false_ne_true)]
      | succ fuel => rw [readWhileLoop, if_neg (by rw [hstop]; exact Bool.false_ne_true)]
  | cons x xs ih =>
      cases fuel with
      | zero => cases hfuel
      | succ fuel =>
          have hx := hstarts x List.mem_cons_self
          have hfirst : ((x :: xs).flatMap write ++ rest).head?.any starts = true := by
            rw [List.flatMap_cons, List.append_assoc]
            cases hw : write x with
            | nil =>
                rw [hw] at hx
                cases hx
            | cons a more =>
                rw [hw] at hx
                exact hx
          have hrest := ih (fun y hy => hstarts y (List.mem_cons_of_mem x hy))
            (fun y hy => hread y (List.mem_cons_of_mem x hy)) (Nat.le_of_succ_le_succ hfuel)
          rw [readWhileLoop, if_pos hfirst, List.flatMap_cons, List.append_assoc,
            hread x List.mem_cons_self, Option.bind_some, hrest]
          rfl

/-- There are no more records than items. -/
theorem length_le_flatMap (hstarts : ∀ x ∈ xs, (write x).head?.any starts = true) :
    xs.length ≤ (xs.flatMap write).length := by
  induction xs with
  | nil => exact Nat.le_refl 0
  | cons x xs ih =>
      have hx := hstarts x List.mem_cons_self
      have hpos : 0 < (write x).length := by
        cases hw : write x with
        | nil =>
            rw [hw] at hx
            cases hx
        | cons a more => exact Nat.succ_pos _
      have hrest := ih fun y hy => hstarts y (List.mem_cons_of_mem x hy)
      rw [List.flatMap_cons, List.length_append, List.length_cons]
      omega

/-- Records are found in front of something that starts none. -/
theorem Finds.whileThen {k : List β → Reader α γ} {more : List α} {y : γ}
    (hstarts : ∀ x ∈ xs, (write x).head?.any starts = true)
    (hread : ∀ x ∈ xs, Finds read (write x) x) (hne : more ≠ [])
    (hstop : more.head?.any starts = false) (h : Finds (k xs) more y) :
    Finds ((readWhile starts read).andThen k) (xs.flatMap write ++ more) y := by
  intro rest
  have hstop' : (more ++ rest).head?.any starts = false := by
    cases more with
    | nil => exact absurd rfl hne
    | cons a more => exact hstop
  have hfuel : xs.length ≤ (xs.flatMap write ++ (more ++ rest)).length := by
    rw [List.length_append]
    exact Nat.le_trans (length_le_flatMap hstarts) (Nat.le_add_right _ _)
  unfold Reader.andThen readWhile
  rw [List.append_assoc, readWhileLoop_flatMap hstarts hread hstop' hfuel]
  exact h rest

end While

end Lib.Reader

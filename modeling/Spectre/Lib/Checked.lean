/-
Computations whose every step is checked.

A step returns a value, fails with an error of the program's own, or is
stuck: an index, a slice, a sum, a shift or a quotient is out of range,
where a program that checks stops. `Holds P m` says that `m` is not
stuck and that `P` is true of what it returns; it is proved along the
computation, one rule for each step. Read the other way, from what was
returned to the steps on the way there, the rules are the `_eq_ok`
lemmas.
-/
import Mathlib.Algebra.Group.Nat.Defs
import Mathlib.Data.List.Basic

namespace Lib

/-- The outcome of a checked computation. -/
inductive Checked (ε α : Type) where
  | ok (a : α)
  | err (e : ε)
  | stuck
deriving DecidableEq, Repr

namespace Checked

variable {ε α β : Type} {m : Checked ε α} {f : α → Checked ε β} {P : α → Prop} {Q : β → Prop}

/-- The first error, or the first step that is stuck, ends it. -/
def bind (m : Checked ε α) (f : α → Checked ε β) : Checked ε β :=
  match m with
  | ok a => f a
  | err e => err e
  | stuck => stuck

instance : Monad (Checked ε) where
  pure := ok
  bind := bind

/-- A value, without any check. -/
@[simp] theorem pure_eq (a : α) : (pure a : Checked ε α) = ok a := rfl

/-- What is there is handed on. -/
@[simp] theorem ok_bind (a : α) (f : α → Checked ε β) : (ok a : Checked ε α) >>= f = f a := rfl

/-- An error ends the computation. -/
@[simp] theorem err_bind (e : ε) (f : α → Checked ε β) : (err e : Checked ε α) >>= f = err e := rfl

/-- So does a check that fails. -/
@[simp] theorem stuck_bind (f : α → Checked ε β) : (stuck : Checked ε α) >>= f = stuck := rfl

instance : LawfulMonad (Checked ε) := LawfulMonad.mk' (Checked ε)
  (fun m => by cases m <;> rfl) (fun _ _ => rfl) (fun m _ _ => by cases m <;> rfl)

/-- What was returned. -/
def value? (m : Checked ε α) : Option α :=
  match m with
  | ok a => some a
  | err _ => none
  | stuck => none

/-- A value of both is a value of each. -/
theorem bind_eq_ok {b : β} : m >>= f = ok b ↔ ∃ a, m = ok a ∧ f a = ok b := by
  cases m <;> simp

-- ========================================================== not stuck

/-- It is not stuck, and what it returns has the property. -/
def Holds (P : α → Prop) : Checked ε α → Prop
  | ok a => P a
  | err _ => True
  | stuck => False

/-- It returns a value or an error. -/
abbrev Returns (m : Checked ε α) : Prop := m.Holds fun _ => True

instance (m : Checked ε α) : Decidable m.Returns :=
  match m with
  | ok _ => .isTrue trivial
  | err _ => .isTrue trivial
  | stuck => .isFalse id

namespace Holds

/-- A value has what it has. -/
theorem ok {a : α} (h : P a) : Holds P (.ok a : Checked ε α) := h

/-- An error is no value. -/
theorem err (e : ε) : Holds P (.err e : Checked ε α) := trivial

/-- What the first makes sure of is what the second may rely on. -/
theorem bind (hm : Holds P m) (hf : ∀ a, P a → Holds Q (f a)) : Holds Q (m >>= f) := by
  cases m with
  | ok a => exact hf a hm
  | err e => exact trivial
  | stuck => exact hm

/-- What is weaker holds too. -/
theorem mono {P' : α → Prop} (hm : Holds P m) (h : ∀ a, P a → P' a) : Holds P' m := by
  cases m with
  | ok a => exact h a hm
  | err e => exact trivial
  | stuck => exact hm

/-- It holds of both branches. -/
theorem ite {c : Prop} [Decidable c] {n : Checked ε α} (hm : c → Holds P m) (hn : ¬c → Holds P n) :
    Holds P (if c then m else n) := by
  split
  · exact hm ‹c›
  · exact hn ‹¬c›

/-- A computation with a property gets through. -/
theorem returns (hm : Holds P m) : m.Returns := hm.mono fun _ _ => trivial

/-- What was returned has the property. -/
theorem of_ok (hm : Holds P m) {a : α} (h : m = .ok a) : P a := by
  rw [h] at hm
  exact hm

end Holds

/-- It gets through if it is not stuck. -/
theorem returns_iff : m.Returns ↔ m ≠ stuck := by
  cases m <;> simp [Holds]

/-- The list of what is returned for each element. -/
theorem holds_mapM {g : α → Checked ε β} {l : List α} (h : ∀ a ∈ l, Holds Q (g a)) :
    Holds (fun bs => bs.length = l.length ∧ ∀ b ∈ bs, Q b) (l.mapM g) := by
  induction l with
  | nil => exact Holds.ok ⟨rfl, fun b hb => nomatch hb⟩
  | cons a l ih =>
      rw [List.mapM_cons]
      refine (h a (.head _)).bind fun b hb => (ih fun x hx => h x (.tail _ hx)).bind fun bs hbs =>
        ?_
      refine Holds.ok ⟨congrArg (· + 1) hbs.1, fun x hx => ?_⟩
      rcases List.mem_cons.1 hx with rfl | hx
      · exact hb
      · exact hbs.2 x hx

/-- What every turn of a loop keeps, the loop keeps. -/
theorem holds_foldlM {g : β → α → Checked ε β} {l : List α} {b : β} (hb : Q b)
    (h : ∀ b, ∀ a ∈ l, Q b → Holds Q (g b a)) : Holds Q (l.foldlM g b) := by
  induction l generalizing b with
  | nil => exact Holds.ok hb
  | cons a l ih =>
      rw [List.foldlM_cons]
      refine (h b a (.head _) hb).bind fun c hc => ?_
      exact ih hc fun d x hx => h d x (.tail _ hx)

/-- A loop returns what its turns keep, when each of them returns. -/
theorem foldlM_total {g : β → α → Checked ε β} {l : List α} {b : β} (hb : Q b)
    (h : ∀ b, ∀ a ∈ l, Q b → ∃ c, g b a = ok c ∧ Q c) : ∃ c, l.foldlM g b = ok c ∧ Q c := by
  induction l generalizing b with
  | nil => exact ⟨b, rfl, hb⟩
  | cons a l ih =>
      obtain ⟨c, hc, hkept⟩ := h b a (.head _) hb
      rw [List.foldlM_cons, hc, ok_bind]
      exact ih hkept fun d x hx => h d x (.tail _ hx)

/-- Nothing fails. -/
theorem mapM_eq {g : α → Checked ε β} {f : α → β} {l : List α} (h : ∀ a ∈ l, g a = ok (f a)) :
    l.mapM g = ok (l.map f) := by
  induction l with
  | nil => rfl
  | cons a l ih =>
      rw [List.mapM_cons, h a (.head _), ok_bind, ih fun x hx => h x (.tail _ hx)]
      rfl

-- ========================================================== arithmetic

section Arithmetic

variable {w a b c : Nat}

/-- A sum of `w` bits. -/
def add (w a b : Nat) : Checked ε Nat := if a + b < 2 ^ w then ok (a + b) else stuck

/-- A product of `w` bits. -/
def mul (w a b : Nat) : Checked ε Nat := if a * b < 2 ^ w then ok (a * b) else stuck

/-- A difference. -/
def sub (a b : Nat) : Checked ε Nat := if b ≤ a then ok (a - b) else stuck

/-- A shift to the left in `w` bits: the distance is checked, and what
leaves at the top is dropped. -/
def shl (w a b : Nat) : Checked ε Nat := if b < w then ok ((a <<< b) % 2 ^ w) else stuck

/-- A remainder. -/
def rem (a b : Nat) : Checked ε Nat := if b = 0 then stuck else ok (a % b)

/-- A quotient, rounded up. -/
def divCeil (a b : Nat) : Checked ε Nat :=
  if b = 0 then stuck else ok (a / b + if a % b = 0 then 0 else 1)

/-- A sum that fits. -/
theorem add_eq (h : a + b < 2 ^ w) : (add w a b : Checked ε Nat) = ok (a + b) := if_pos h

/-- A product that fits. -/
theorem mul_eq (h : a * b < 2 ^ w) : (mul w a b : Checked ε Nat) = ok (a * b) := if_pos h

/-- A difference that is not negative. -/
theorem sub_eq (h : b ≤ a) : (sub a b : Checked ε Nat) = ok (a - b) := if_pos h

/-- A shift by less than the width. -/
theorem shl_eq (h : b < w) : (shl w a b : Checked ε Nat) = ok ((a <<< b) % 2 ^ w) := if_pos h

/-- A shift by the width or more. -/
theorem shl_stuck (h : w ≤ b) : (shl w a b : Checked ε Nat) = stuck := if_neg (Nat.not_lt.2 h)

/-- A remainder by something. -/
theorem rem_eq (h : b ≠ 0) : (rem a b : Checked ε Nat) = ok (a % b) := if_neg h

/-- A quotient by something, rounded up. -/
theorem divCeil_eq (h : b ≠ 0) :
    (divCeil a b : Checked ε Nat) = ok (a / b + if a % b = 0 then 0 else 1) := if_neg h

end Arithmetic

-- =============================================================== lists

section Lists

variable {l : List α} {i start stop : Nat}

/-- An element. -/
def index (l : List α) (i : Nat) : Checked ε α :=
  match l[i]? with
  | some a => ok a
  | none => stuck

/-- A slice. -/
def slice (l : List α) (start stop : Nat) : Checked ε (List α) :=
  if start ≤ stop ∧ stop ≤ l.length then ok ((l.drop start).take (stop - start)) else stuck

/-- A list with an element replaced. -/
def store (l : List α) (i : Nat) (a : α) : Checked ε (List α) :=
  if i < l.length then ok (l.set i a) else stuck

/-- Writing within the bounds. -/
theorem store_eq (a : α) (h : i < l.length) : (store l i a : Checked ε (List α)) = ok (l.set i a) :=
  if_pos h

/-- Reading within the bounds. -/
theorem index_eq (h : i < l.length) : (index l i : Checked ε α) = ok l[i] := by
  unfold index
  rw [List.getElem?_eq_getElem h]

/-- The same, as the entry or something else. -/
theorem index_getD (d : α) (h : i < l.length) : (index l i : Checked ε α) = ok (l.getD i d) := by
  rw [index_eq h, List.getD_eq_getElem?_getD, List.getElem?_eq_getElem h, Option.getD_some]

/-- What is read is what is there. -/
theorem index_eq_ok {a : α} : (index l i : Checked ε α) = ok a ↔ l[i]? = some a := by
  unfold index
  cases l[i]? <;> simp

/-- A cut within the bounds. -/
theorem slice_eq (hle : start ≤ stop) (h : stop ≤ l.length) :
    (slice l start stop : Checked ε (List α)) = ok ((l.drop start).take (stop - start)) :=
    if_pos ⟨hle, h⟩

end Lists

end Checked

end Lib

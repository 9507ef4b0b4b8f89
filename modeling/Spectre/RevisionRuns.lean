/-
What the version check answers.

A formula may be laid out in any way and may have other tokens in it:
the registers' values, the last one of each, and the operations in their
order are read back, or the first operator is named that there is not
(`formula_read_back`). The checksum is that of the bytes of the files,
each filled up to a whole block, whatever part of a block a call of
`read` brings and however often it is interrupted; and if no call fails
there is one (`check_revision_value`).
-/
import Spectre.CheckRevision

namespace Spectre.Bnet

-- ======================================================================== tokens

/-- A text that consists of these tokens, in any whitespace. -/
inductive Written : List (List Char) → List Char → Prop where
  | blank (ws : List Char) (hws : ∀ c ∈ ws, isWhitespace c = true) : Written [] ws
  | token (ws : List Char) {t : List Char} {tokens : List (List Char)} {text : List Char}
      (hws : ∀ c ∈ ws, isWhitespace c = true) (hne : t ≠ [])
      (ht : ∀ c ∈ t, isWhitespace c = false)
      (hgap : ∀ c, text.head? = some c → isWhitespace c = true)
      (rest : Written tokens text) : Written (t :: tokens) (ws ++ t ++ text)

/-- Whitespace begins no token. -/
theorem tokensFrom_blank {ws : List Char} (hws : ∀ c ∈ ws, isWhitespace c = true)
    (text : List Char) : tokensFrom [] (ws ++ text) = tokensFrom [] text := by
  induction ws with
  | nil => rfl
  | cons c ws ih =>
      rw [List.cons_append, tokensFrom, if_pos (hws c List.mem_cons_self)]
      exact ih fun d hd => hws d (List.mem_cons_of_mem c hd)

/-- A token goes on to its end. -/
theorem tokensFrom_token {t : List Char} (ht : ∀ c ∈ t, isWhitespace c = false)
    (begun text : List Char) : tokensFrom begun (t ++ text) = tokensFrom (begun ++ t) text := by
  induction t generalizing begun with
  | nil => rw [List.nil_append, List.append_nil]
  | cons c t ih =>
      have hc : ¬isWhitespace c = true := by
        rw [ht c List.mem_cons_self]
        exact Bool.false_ne_true
      rw [List.cons_append, tokensFrom, if_neg hc,
        ih fun d hd => ht d (List.mem_cons_of_mem c hd), List.append_assoc, List.singleton_append]

/-- A token ends where the text goes on with whitespace or ends. -/
theorem tokensFrom_end {t : List Char} (hne : t ≠ []) {text : List Char}
    (hgap : ∀ c, text.head? = some c → isWhitespace c = true) :
    tokensFrom t text = t :: tokensFrom [] text := by
  cases text with
  | nil =>
      show flushToken t = t :: flushToken []
      unfold flushToken
      rw [if_neg hne, if_pos rfl]
  | cons c text =>
      have hc := hgap c rfl
      rw [tokensFrom, if_pos hc, tokensFrom, if_pos hc]
      show flushToken t ++ _ = t :: ([] ++ _)
      unfold flushToken
      rw [if_neg hne]
      rfl

/-- The tokens of a text are those it consists of. -/
theorem splitTokens_written {tokens : List (List Char)} {text : List Char}
    (h : Written tokens text) : splitTokens text = tokens := by
  unfold splitTokens
  induction h with
  | blank ws hws =>
      have hblank := tokensFrom_blank hws []
      rw [List.append_nil] at hblank
      rw [hblank]
      rfl
  | token ws hws hne ht hgap _ ih =>
      rw [List.append_assoc, tokensFrom_blank hws, tokensFrom_token ht, List.nil_append,
        tokensFrom_end hne hgap, ih]

/-- Whitespace before it makes no difference. -/
theorem Written.space {tokens : List (List Char)} {text : List Char} (h : Written tokens text)
    {c : Char} (hc : isWhitespace c = true) : Written tokens (c :: text) := by
  have hcons : ∀ {ws : List Char}, (∀ d ∈ ws, isWhitespace d = true) →
      ∀ d ∈ c :: ws, isWhitespace d = true := by
    intro ws hws d hd
    rcases List.mem_cons.1 hd with rfl | hd
    · exact hc
    · exact hws d hd
  cases h with
  | blank ws hws => exact .blank (c :: text) (hcons hws)
  | token ws hws hne ht hgap rest => exact .token (c :: ws) (hcons hws) hne ht hgap rest

/-- A text consists of the tokens it is split into. -/
theorem written_tokensFrom {begun : List Char} (hbegun : ∀ c ∈ begun, isWhitespace c = false)
    (text : List Char) : Written (tokensFrom begun text) (begun ++ text) := by
  have hblank : Written [] [] := .blank [] fun c hc => absurd hc List.not_mem_nil
  induction text generalizing begun with
  | nil =>
      rw [tokensFrom, flushToken]
      split
      · rename_i hnil
        rw [hnil]
        exact hblank
      · rename_i hne
        exact .token [] (fun c hc => absurd hc List.not_mem_nil) hne hbegun
          (fun c hc => by cases hc) hblank
  | cons c text ih =>
      rw [tokensFrom]
      split
      · rename_i hc
        have hrest : Written (tokensFrom [] text) (c :: text) :=
          (ih fun d hd => absurd hd List.not_mem_nil).space hc
        rw [flushToken]
        split
        · rename_i hnil
          rw [hnil]
          exact hrest
        · rename_i hne
          refine .token [] (fun d hd => absurd hd List.not_mem_nil) hne hbegun
            (fun d hd => ?_) hrest
          obtain rfl : c = d := Option.some.inj hd
          exact hc
      · rename_i hc
        -- the token that has begun goes on
        have hlonger : ∀ d ∈ begun ++ [c], isWhitespace d = false := by
          intro d hd
          rcases List.mem_append.1 hd with hd | hd
          · exact hbegun d hd
          · rw [List.mem_singleton.1 hd]
            exact Bool.eq_false_of_not_eq_true hc
        have hon := ih hlonger
        rw [List.append_assoc, List.singleton_append] at hon
        exact hon

-- ====================================================================== numbers

/-- How a number may be written: with a plus or without, with zeros
before its digits. -/
structure Numeral where
  plus : Bool
  zeros : Nat
  value : UInt32

/-- What stands there. -/
def Numeral.text (n : Numeral) : List Char :=
  (if n.plus then ['+'] else []) ++ (List.replicate n.zeros '0' ++ Nat.toDigits 10 n.value.toNat)

/-- All of it but the plus are digits. -/
theorem Numeral.digits_isDigit (n : Numeral) :
    ∀ c ∈ List.replicate n.zeros '0' ++ Nat.toDigits 10 n.value.toNat, c.isDigit = true := by
  intro c hc
  rcases List.mem_append.1 hc with hc | hc
  · rw [List.eq_of_mem_replicate hc]
    rfl
  · exact Nat.isDigit_of_mem_toDigits (by decide) (by decide) hc

/-- The value of a digit, and the digit of that value. -/
theorem digit_value {c : Char} (h : c.isDigit = true) :
    c.toNat - 48 < 10 ∧ Nat.digitChar (c.toNat - 48) = c := by
  have hrange : 48 ≤ c.toNat ∧ c.toNat ≤ 57 := by
    unfold Char.isDigit at h
    rw [Bool.and_eq_true, decide_eq_true_eq, decide_eq_true_eq] at h
    exact h
  refine ⟨by omega, Char.toNat_inj.1 ?_⟩
  rw [Nat.toNat_digitChar_of_lt_ten (by omega)]
  omega

/-- Digits after a number that is not zero make the digits of a number. -/
theorem toDigits_append_digits {acc : Nat} (hacc : 0 < acc) {digits : List Char}
    (h : ∀ c ∈ digits, c.isDigit = true) :
    Nat.toDigits 10 acc ++ digits = Nat.toDigits 10 (Nat.ofDigitChars 10 digits acc) := by
  induction digits generalizing acc with
  | nil => rw [List.append_nil, Nat.ofDigitChars_nil]
  | cons c digits ih =>
      obtain ⟨hvalue, hchar⟩ := digit_value (h c List.mem_cons_self)
      have hstep : Nat.toDigits 10 acc ++ [c] = Nat.toDigits 10 (10 * acc + (c.toNat - 48)) := by
        rw [← Nat.toDigits_append_toDigits (by decide) hacc hvalue,
          Nat.toDigits_of_lt_base hvalue, hchar]
      calc Nat.toDigits 10 acc ++ c :: digits
          = (Nat.toDigits 10 acc ++ [c]) ++ digits := by
            rw [List.append_assoc, List.singleton_append]
        _ = Nat.toDigits 10 (10 * acc + (c.toNat - 48)) ++ digits := by rw [hstep]
        _ = Nat.toDigits 10 (Nat.ofDigitChars 10 (c :: digits) acc) := by
            rw [Nat.ofDigitChars_cons]
            exact ih (by omega) fun d hd => h d (List.mem_cons_of_mem c hd)

/-- Digits are zeros and then the digits of the number they make. -/
theorem digits_of_number {digits : List Char} (hne : digits ≠ [])
    (h : ∀ c ∈ digits, c.isDigit = true) :
    ∃ zeros, digits
      = List.replicate zeros '0' ++ Nat.toDigits 10 (Nat.ofDigitChars 10 digits 0) := by
  induction digits with
  | nil => exact absurd rfl hne
  | cons c digits ih =>
      have hrest := fun d hd => h d (List.mem_cons_of_mem c hd)
      obtain ⟨hvalue, hchar⟩ := digit_value (h c List.mem_cons_self)
      rw [Nat.ofDigitChars_cons, Nat.mul_zero, Nat.zero_add]
      by_cases hzero : c.toNat - 48 = 0
      · -- a zero first: the number is that of the digits behind it
        have hc : c = '0' := by
          rw [← hchar, hzero]
          rfl
        show ∃ zeros, c :: digits
          = List.replicate zeros '0' ++ Nat.toDigits 10 (Nat.ofDigitChars 10 digits (c.toNat - 48))
        rw [hzero, hc]
        cases digits with
        | nil => exact ⟨0, rfl⟩
        | cons d digits =>
            obtain ⟨zeros, hzeros⟩ := ih (List.cons_ne_nil d digits) hrest
            refine ⟨zeros + 1, ?_⟩
            rw [List.replicate_succ, List.cons_append, ← hzeros]
      · refine ⟨0, ?_⟩
        show c :: digits = Nat.toDigits 10 (Nat.ofDigitChars 10 digits (c.toNat - 48))
        rw [← toDigits_append_digits (by omega) hrest, Nat.toDigits_of_lt_base hvalue, hchar]
        rfl

/-- The text after a plus, if there is one. -/
theorem Numeral.text_digits (n : Numeral) :
    (if n.text.head? = some '+' then n.text.tail else n.text)
      = List.replicate n.zeros '0' ++ Nat.toDigits 10 n.value.toNat := by
  unfold text
  cases n.plus with
  | true => exact if_pos rfl
  | false =>
      refine if_neg fun hhead => ?_
      have hplus := n.digits_isDigit '+' (List.mem_of_mem_head? hhead)
      cases hplus

/-- What is read as a number is a number that is written so. -/
theorem parseU32_eq_some {text : List Char} {v : UInt32} :
    parseU32 text = some v ↔ ∃ n : Numeral, n.value = v ∧ n.text = text := by
  constructor
  · intro h
    unfold parseU32 at h
    dsimp only at h
    generalize hdigits : (if text.head? = some '+' then text.tail else text) = digits at h
    by_cases hnumber : digits ≠ [] ∧ digits.all Char.isDigit = true
        ∧ Nat.ofDigitChars 10 digits 0 < 2 ^ 32
    · rw [if_pos hnumber] at h
      obtain ⟨hne, hall, hlt⟩ := hnumber
      have hv : v.toNat = Nat.ofDigitChars 10 digits 0 := by
        rw [← Option.some.inj h, UInt32.toNat_ofNat', Nat.mod_eq_of_lt hlt]
      -- the digits are those of the value behind zeros in front
      obtain ⟨zeros, hzeros⟩ := digits_of_number hne (List.all_eq_true.1 hall)
      rw [← hv] at hzeros
      -- one plus sign may stand before them
      by_cases hplus : text.head? = some '+'
      · rw [if_pos hplus] at hdigits
        refine ⟨⟨true, zeros, v⟩, rfl, ?_⟩
        show '+' :: (List.replicate zeros '0' ++ Nat.toDigits 10 v.toNat) = text
        rw [← hzeros, ← hdigits]
        cases text with
        | nil => cases hplus
        | cons c rest =>
            obtain rfl : c = '+' := Option.some.inj hplus
            rfl
      · rw [if_neg hplus] at hdigits
        exact ⟨⟨false, zeros, v⟩, rfl, hzeros.symm.trans hdigits.symm⟩
    · rw [if_neg hnumber] at h
      cases h
  · rintro ⟨n, rfl, rfl⟩
    unfold parseU32
    dsimp only
    rw [n.text_digits]
    have hnumber : Nat.ofDigitChars 10
        (List.replicate n.zeros '0' ++ Nat.toDigits 10 n.value.toNat) 0 = n.value.toNat := by
      rw [Nat.ofDigitChars_append, Nat.ofDigitChars_replicate_zero, Nat.mul_zero,
        Nat.ofDigitChars_ten_toDigits]
    have hne : List.replicate n.zeros '0' ++ Nat.toDigits 10 n.value.toNat ≠ [] := fun h =>
      Nat.toDigits_ne_nil (List.append_eq_nil_iff.1 h).2
    rw [hnumber, if_pos ⟨hne, List.all_eq_true.2 n.digits_isDigit, n.value.toNat_lt⟩,
      UInt32.ofNat_toNat]

-- ====================================================================== formulas

/-- What stands in a formula: the value of a register, an operation, one
with an operator there is not, and anything else, which is passed over:
a number for no register of these (`D=5`), one that is too large, a word. -/
inductive FormulaItem where
  | value (register : Char) (known : register ∈ ['A', 'B', 'C']) (n : Numeral)
  | operation (o : Operation)
  | unknown (target left op right : Char) (none : OpType.ofChar op = .none)
      (novalue : target ∈ ['A', 'B', 'C'] → ∀ n : Numeral, n.text ≠ [left, op, right])
  | other (token : List Char)
      (novalue : ∀ register ∈ ['A', 'B', 'C'], ∀ n : Numeral, token ≠ register :: '=' :: n.text)
      (nofive : ∀ target left op right, token ≠ [target, '=', left, op, right])

namespace FormulaItem

/-- The character of an operator. -/
def opChar : OpType → Char
  | .add => '+'
  | .sub => '-'
  | .xor => '^'
  | .mul => '*'
  | .div => '/'

/-- How it is written. -/
def token : FormulaItem → List Char
  | value register _ n => register :: '=' :: n.text
  | operation o => [o.target, '=', o.left, opChar o.op, o.right]
  | unknown target left op right _ _ => [target, '=', left, op, right]
  | other token _ _ => token

/-- The value it gives a register. -/
def valueOf (register : Char) : FormulaItem → Option UInt32
  | value r _ n => if r = register then some n.value else none
  | _ => none

/-- The operation it is. -/
def operation? : FormulaItem → Option Operation
  | operation o => some o
  | _ => none

/-- The operator it names that there is not. -/
def unknown? : FormulaItem → Option Char
  | unknown _ _ op _ _ _ => some op
  | _ => none

end FormulaItem

/-- The value a register gets last. -/
def lastValue (register : Char) (items : List FormulaItem) : UInt32 :=
  ((items.filterMap (FormulaItem.valueOf register)).getLast?).getD 0

/-- What the items come to. -/
def formulaOf (items : List FormulaItem) : Except RevisionError Formula :=
  (items.findSome? FormulaItem.unknown?).elim
    (.ok
      { a := lastValue 'A' items, b := lastValue 'B' items, c := lastValue 'C' items
        ops := items.filterMap FormulaItem.operation? })
    fun op => .error (.unknownOperator op)

/-- Three characters with one in the middle that is no digit are no
number. -/
theorem parseU32_operation {left op right : Char} (h : op.isDigit = false) :
    parseU32 [left, op, right] = none := by
  unfold parseU32
  by_cases hplus : [left, op, right].head? = some '+'
  · rw [if_pos hplus]
    refine if_neg fun hall => ?_
    have hop := List.all_eq_true.1 hall.2.1 op List.mem_cons_self
    rw [h] at hop
    cases hop
  · rw [if_neg hplus]
    refine if_neg fun hall => ?_
    have hop := List.all_eq_true.1 hall.2.1 op (List.mem_cons_of_mem _ List.mem_cons_self)
    rw [h] at hop
    cases hop

/-- An operation is no register's value. -/
theorem assigned_operation {register target left op right : Char} (h : op.isDigit = false) :
    assigned register [target, '=', left, op, right] = none := by
  show (if target = register then parseU32 [left, op, right] else none) = none
  rw [parseU32_operation h, ite_self]

/-- A register is given the number that is written, and no other is. -/
theorem assigned_value {register : Char} (r : Char) (n : Numeral) :
    assigned register (r :: '=' :: n.text) = if r = register then some n.value else none := by
  show (if r = register then parseU32 n.text else none) = _
  rw [parseU32_eq_some.2 ⟨n, rfl, rfl⟩]

/-- A register is given nothing but by a number that is written. -/
theorem assigned_none {register : Char} {token : List Char}
    (h : ∀ n : Numeral, token ≠ register :: '=' :: n.text) : assigned register token = none := by
  cases hassigned : assigned register token with
  | none => rfl
  | some v =>
      unfold assigned at hassigned
      split at hassigned
      · rename_i x rest
        split at hassigned
        · rename_i hx
          obtain ⟨n, -, htext⟩ := parseU32_eq_some.1 hassigned
          exact absurd (by rw [hx, htext]) (h n)
        · cases hassigned
      · cases hassigned

/-- An operator is read back from its character. -/
theorem OpType.ofChar_opChar (op : OpType) : OpType.ofChar (FormulaItem.opChar op) = some op := by
  cases op <;> rfl

/-- The operator that is read has the character that was read. -/
theorem opChar_of_ofChar {c : Char} {op : OpType} (h : OpType.ofChar c = some op) :
    FormulaItem.opChar op = c := by
  unfold OpType.ofChar at h
  split at h <;> cases h <;> rfl

/-- No operator is a digit. -/
theorem opChar_nodigit (op : OpType) : (FormulaItem.opChar op).isDigit = false := by
  cases op <;> rfl

/-- What is kept of an item. -/
def Formula.put (f : Formula) (item : FormulaItem) : Formula where
  a := (item.valueOf 'A').getD f.a
  b := (item.valueOf 'B').getD f.b
  c := (item.valueOf 'C').getD f.c
  ops := f.ops ++ item.operation?.toList

/-- Five characters that are no register's value: the fourth is looked up
among the operators. -/
theorem readToken_five (f : Formula) {target left op right : Char}
    (h : ∀ register ∈ ['A', 'B', 'C'], assigned register [target, '=', left, op, right] = none) :
    f.readToken [target, '=', left, op, right]
      = (OpType.ofChar op).elim (.error (.unknownOperator op)) fun o =>
          .ok { f with ops := f.ops ++ [⟨target, left, o, right⟩] } := by
  unfold Formula.readToken
  rw [h 'A' (by decide), h 'B' (by decide), h 'C' (by decide)]
  dsimp only
  cases hop : OpType.ofChar op <;> simp only [hop, Option.elim_none, Option.elim_some]

/-- A token that is neither is passed over. -/
theorem readToken_other (f : Formula) {token : List Char}
    (h : ∀ register ∈ ['A', 'B', 'C'], assigned register token = none)
    (hfive : ∀ target left op right, token ≠ [target, '=', left, op, right]) :
    f.readToken token = .ok f := by
  unfold Formula.readToken
  rw [h 'A' (by decide), h 'B' (by decide), h 'C' (by decide)]
  dsimp only
  split
  · rename_i x l op r
    exact absurd rfl (hfive x l op r)
  · rfl

/-- One item is read as what it says. -/
theorem readToken_item (f : Formula) (item : FormulaItem) :
    f.readToken item.token
      = item.unknown?.elim (.ok (f.put item)) fun op => .error (.unknownOperator op) := by
  have hops : f.ops ++ [] = f.ops := List.append_nil _
  cases item with
  | value register known n =>
      show Formula.readToken f (register :: '=' :: n.text) = .ok (f.put _)
      have hput : f.put (.value register known n) =
          { a := (if register = 'A' then some n.value else none).getD f.a
            b := (if register = 'B' then some n.value else none).getD f.b
            c := (if register = 'C' then some n.value else none).getD f.c
            ops := f.ops } := by
        unfold Formula.put
        exact congrArg _ hops
      unfold Formula.readToken
      rw [hput, assigned_value, assigned_value, assigned_value]
      -- a value goes into its register and leaves the other two
      rcases List.mem_cons.1 known with rfl | known
      · rfl
      rcases List.mem_cons.1 known with rfl | known
      · rfl
      obtain rfl := List.mem_singleton.1 known
      rfl
  | operation o =>
      show f.readToken [o.target, '=', o.left, FormulaItem.opChar o.op, o.right] = .ok _
      rw [readToken_five f fun _ _ => assigned_operation (opChar_nodigit o.op),
        OpType.ofChar_opChar]
      rfl
  | unknown target left op right hnone novalue =>
      show f.readToken [target, '=', left, op, right] = .error _
      -- a token of five characters is an operation only where it is no value
      have hassigned : ∀ register ∈ ['A', 'B', 'C'],
          assigned register [target, '=', left, op, right] = none := by
        intro register hregister
        refine assigned_none fun n hn => ?_
        obtain ⟨rfl, hrest⟩ := List.cons.inj hn
        exact novalue hregister n (List.cons.inj hrest).2.symm
      rw [readToken_five f hassigned, hnone]
      rfl
  | other token novalue nofive =>
      show f.readToken token = .ok (f.put _)
      have hput : f.put (.other token novalue nofive) = f := by
        unfold Formula.put
        exact congrArg (fun ops => ({ a := f.a, b := f.b, c := f.c, ops := ops } : Formula)) hops
      rw [readToken_other f (fun r hr => assigned_none (novalue r hr)) nofive, hput]

/-- Every token is one of the items. -/
theorem token_surjective : Function.Surjective FormulaItem.token := by
  intro t
  by_cases hvalue : ∃ register ∈ ['A', 'B', 'C'], ∃ n : Numeral, t = register :: '=' :: n.text
  · obtain ⟨register, known, n, rfl⟩ := hvalue
    exact ⟨.value register known n, rfl⟩
  have novalue : ∀ register ∈ ['A', 'B', 'C'], ∀ n : Numeral, t ≠ register :: '=' :: n.text :=
    fun register known n ht => hvalue ⟨register, known, n, ht⟩
  by_cases hfive : ∃ target left op right, t = [target, '=', left, op, right]
  · obtain ⟨target, left, op, right, rfl⟩ := hfive
    cases hop : OpType.ofChar op with
    | none =>
        refine ⟨.unknown target left op right hop fun known n hn => ?_, rfl⟩
        exact novalue target known n (by rw [hn])
    | some o =>
        refine ⟨.operation ⟨target, left, o, right⟩, ?_⟩
        show [target, '=', left, FormulaItem.opChar o, right] = _
        rw [opChar_of_ofChar hop]
  · exact ⟨.other t novalue fun target left op right ht => hfive ⟨target, left, op, right, ht⟩, rfl⟩

/-- The last value of a register, or the one it had. -/
def lastFrom (register : Char) (items : List FormulaItem) (v : UInt32) : UInt32 :=
  ((items.filterMap (FormulaItem.valueOf register)).getLast?).getD v

/-- A value gives way to the one behind it. -/
theorem lastFrom_cons (register : Char) (item : FormulaItem) (items : List FormulaItem)
    (v : UInt32) : lastFrom register (item :: items) v
      = lastFrom register items ((item.valueOf register).getD v) := by
  unfold lastFrom
  rw [List.filterMap_cons]
  cases item.valueOf register with
  | none => rfl
  | some w =>
      dsimp only
      rw [List.getLast?_cons]
      rfl

/-- Item after item. -/
theorem readTokens_items (f : Formula) (items : List FormulaItem) :
    (items.map FormulaItem.token).foldlM Formula.readToken f
      = (items.findSome? FormulaItem.unknown?).elim
          (.ok
            { a := lastFrom 'A' items f.a, b := lastFrom 'B' items f.b
              c := lastFrom 'C' items f.c
              ops := f.ops ++ items.filterMap FormulaItem.operation? })
          fun op => .error (.unknownOperator op) := by
  induction items generalizing f with
  | nil =>
      show Except.ok f = .ok _
      rw [List.filterMap_nil, List.append_nil]
      rfl
  | cons item items ih =>
      rw [List.map_cons, List.foldlM_cons, readToken_item, List.findSome?_cons]
      cases hunknown : item.unknown? with
      | some op => rfl
      | none =>
          show (items.map FormulaItem.token).foldlM Formula.readToken (f.put item) = _
          have hops : (f.put item).ops ++ items.filterMap FormulaItem.operation?
              = f.ops ++ (item :: items).filterMap FormulaItem.operation? := by
            show f.ops ++ item.operation?.toList ++ _ = _
            rw [List.append_assoc, List.filterMap_cons]
            cases item.operation? <;> rfl
          rw [ih, hops, lastFrom_cons, lastFrom_cons, lastFrom_cons]
          rfl

/-- However a formula is laid out, its registers' last values and its
operations are read back, or its first unknown operator is named; and
there is no text that is not a list of items laid out. -/
theorem formula_read_back (text : List Char) :
    (∃ items : List FormulaItem, Written (items.map FormulaItem.token) text)
      ∧ ∀ items : List FormulaItem, Written (items.map FormulaItem.token) text →
        parseFormula text = formulaOf items := by
  constructor
  · obtain ⟨items, hitems⟩ := token_surjective.list_map (splitTokens text)
    refine ⟨items, ?_⟩
    rw [hitems]
    exact written_tokensFrom (fun c hc => absurd hc List.not_mem_nil) text
  · intro items h
    unfold parseFormula
    rw [splitTokens_written h, readTokens_items]
    rfl

/-- The rule for a token, with conditions that compute. -/
theorem Written.lay (ws : List Char) {t : List Char} {tokens : List (List Char)} {text : List Char}
    (hws : ws.all isWhitespace = true) (hne : t ≠ []) (ht : t.any isWhitespace = false)
    (hgap : text.head?.all isWhitespace = true) (rest : Written tokens text) :
    Written (t :: tokens) (ws ++ t ++ text) := by
  refine .token ws (List.all_eq_true.1 hws) hne (fun c hc => ?_) (fun c hc => ?_) rest
  · exact Bool.eq_false_of_not_eq_true (List.any_eq_false.1 ht c hc)
  · rw [hc] at hgap
    exact hgap

/-- A formula with a value that is overridden, a register there is not and
an operation, between two tabs and a line's end; and one with a digit for
an operator. -/
theorem formula_read_back_text :
    parseFormula "\tA=7 A=+012\tD=5 A=A-S\n".toList
        = .ok { a := 12, b := 0, c := 0, ops := [⟨'A', 'A', .sub, 'S'⟩] }
      ∧ parseFormula "A=B1C".toList = .error (.unknownOperator '1') := by
  have hnumber : ∀ n : Numeral, n.text ≠ ['B', '1', 'C'] := by
    intro n hn
    have hparse := parseU32_eq_some.2 ⟨n, rfl, hn⟩
    cases hparse
  have h : Written ([.value 'A' (by decide) ⟨false, 0, 7⟩, .value 'A' (by decide) ⟨true, 1, 12⟩,
      .other ['D', '=', '5'] (fun r hr n hn => by
        obtain ⟨rfl, -⟩ := List.cons.inj hn
        exact absurd hr (by decide)) (fun target left op right => by simp),
      .operation ⟨'A', 'A', .sub, 'S'⟩].map FormulaItem.token) "\tA=7 A=+012\tD=5 A=A-S\n".toList :=
    .lay ['\t'] rfl (by decide) rfl rfl (.lay [' '] rfl (by decide) rfl rfl
      (.lay ['\t'] rfl (by decide) rfl rfl (.lay [' '] rfl (by decide) rfl rfl
        (.blank ['\n'] (List.all_eq_true.1 rfl)))))
  have hdigit : Written ([.unknown 'A' 'B' '1' 'C' rfl fun _ => hnumber].map FormulaItem.token)
      "A=B1C".toList :=
    .lay [] rfl (List.cons_ne_nil _ _) rfl rfl (.blank [] (List.all_eq_true.1 rfl))
  exact ⟨(formula_read_back _).2 _ h, (formula_read_back _).2 _ hdigit⟩

end Spectre.Bnet

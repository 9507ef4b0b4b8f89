/-
The scanner of W3MMD actions (`w3mmd.rs`).

A map reports its statistics in records hidden among the actions of the
players: a tag, the name of a cache file, two strings and, for most
tags, a number. The scanner goes through the bytes of an action, hands
every record it finds to `parse_statement`, and goes on a byte further
where there is none. Every sum, index and slice of it is checked here,
in 64 bits (`Lib.Checked`), and a loop that did not end would be `stuck`.

The statements are the scanner's own business: what it finds does not
depend on what has been parsed before (`statementsIn`), and an action
made of records is read as these records (`mmd_scan_exact`).
-/
import Mathlib.Data.List.AList
import Spectre.Lib.Checked
import Spectre.Rust

namespace Spectre

open Lib Lib.Checked

-- ================================================================== statistics

/-- What the parser does with an `f64`: the arithmetic itself is left
open. -/
class RustF64 (F : Type) where
  /-- `str::parse::<f64>` -/
  parse : Text → Option F
  /-- `u32 as f64` -/
  ofU32 : Nat → F
  zero : F
  add : F → F → F
  sub : F → F → F

/-- `MmdValue`. -/
inductive MmdValue (F : Type) where
  | number (n : F)
  | text (t : Text)
deriving DecidableEq, Repr

/-- `W3Mmd`. -/
structure W3Mmd (F : Type) where
  initialized : Bool := false
  flags : AList (fun _ : UInt8 => Text) := ∅
  playerVars : AList (fun _ : UInt8 × Text => MmdValue F) := ∅
  events : List Text := []

/-- What a record says: its two strings, and its number, if it has
one. -/
structure MmdStatement where
  mission : Text
  key : Text
  intVal : Option Nat
deriving DecidableEq, Repr

namespace W3Mmd

section Parse

variable {F : Type} [RustStd] [RustF64 F]

/-- The text of a statement is its key if that looks like one. -/
def statementText (s : MmdStatement) : Text :=
  if 0x20 ∈ s.key ∨ txt "init" <+: s.key ∨ txt "VarP" <+: s.key ∨ txt "FlagP" <+: s.key then s.key
  else s.mission

/-- `self.player_vars.insert`. -/
def setVar (st : W3Mmd F) (pid : UInt8) (name : Text) (v : MmdValue F) : W3Mmd F :=
  { st with playerVars := st.playerVars.insert (pid, name) v }

/-- The value of a variable, if it is a number. -/
def currentNum (st : W3Mmd F) (pid : UInt8) (name : Text) : F :=
  match st.playerVars.lookup (pid, name) with
  | some (.number n) => n
  | _ => RustF64.zero

/-- A `VarP` statement behind its name: the operator and its operand,
or the number of the record. -/
def assign (st : W3Mmd F) (pid : UInt8) (name : Text) (intVal : Option Nat) : List Text
    → W3Mmd F × Bool
  | op :: rest =>
      let target : Option F := (rest.head?.bind RustF64.parse).or (intVal.map RustF64.ofU32)
      if op = txt "=" then
        match target, rest.head? with
        | some n, _ => (st.setVar pid name (.number n), true)
        | none, some text => (st.setVar pid name (.text text), true)
        | none, none => (st, true)
      else if op = txt "+=" then
        match target with
        | some n => (st.setVar pid name (.number (RustF64.add (st.currentNum pid name) n)), true)
        | none => (st, false)
      else if op = txt "-=" then
        match target with
        | some n => (st.setVar pid name (.number (RustF64.sub (st.currentNum pid name) n)), true)
        | none => (st, false)
      else
        match (RustF64.parse op : Option F) with
        | some n => (st.setVar pid name (.number n), true)
        | none => (st, false)
  | [] =>
      match intVal with
      | some v => (st.setVar pid name (.number (RustF64.ofU32 v)), true)
      | none => (st, false)

/-- `parse_statement`. -/
def parseStatement (st : W3Mmd F) (s : MmdStatement) : W3Mmd F × Bool :=
  match splitWhitespace (statementText s) with
  | [] => (st, false)
  | verb :: parts =>
      if eqIgnoreAsciiCase verb (txt "init") then ({ st with initialized := true }, true)
      else if eqIgnoreAsciiCase verb (txt "FlagP") then
        match parts with
        | pid :: flag :: _ =>
            match parseUInt 8 pid with
            | some pid =>
              ({ st with flags := st.flags.insert pid.toUInt8 (RustStd.toLowercase flag) }, true)
            | none => (st, false)
        | _ => (st, false)
      else if eqIgnoreAsciiCase verb (txt "VarP") then
        match parts with
        | pid :: name :: rest =>
            match parseUInt 8 pid with
            | some pid => st.assign pid.toUInt8 name s.intVal rest
            | none => (st, false)
        | _ => (st, false)
      else if eqIgnoreAsciiCase verb (txt "Event") then
        ({ st with events := st.events ++ [joinWith (txt " ") parts] }, true)
      else (st, false)

end Parse

-- ==================================================================== the scan

/-- A computation without errors of its own. -/
abbrev Scan (α : Type) := Checked Empty α

/-- The bits of a `usize`. -/
abbrev usize : Nat := 64

/-- What an iteration finds, if anything, and where the next begins. -/
structure Round where
  statement : Option MmdStatement
  next : Nat
deriving DecidableEq, Repr

/-- `matches!(tag, 0x6B | 0x6C | 0x6D | 0x6F)`. -/
def isSupportedTag (tag : UInt8) : Bool := tag = 0x6B || tag = 0x6C || tag = 0x6D || tag = 0x6F

/-- `u32::from_le_bytes` of the bytes at an index. -/
def valueAt (data : List UInt8) (i : Nat) : Scan Nat := do
  let b0 ← index data i
  let b1 ← index data (← add usize i 1)
  let b2 ← index data (← add usize i 2)
  let b3 ← index data (← add usize i 3)
  return b0.toNat + 256 * b1.toNat + 65536 * b2.toNat + 16777216 * b3.toNat

/-- Nothing begins at a position. -/
def passOver (i : Nat) : Scan Round := do
  let next ← add usize i 1
  return ⟨none, next⟩

/-- The string at a position, and the position behind its zero, if it
has one. -/
def stringAt (data : List UInt8) (start : Nat) : Scan (Option (List UInt8 × Nat)) := do
  let tail ← slice data start data.length
  match tail.findIdx? (· == 0) with
  | none => return none
  | some null => do
      let stop ← add usize start null
      let bytes ← slice data start stop
      let behind ← add usize stop 1
      return some (bytes, behind)

/-- The number of a record, if it has one and it is complete. -/
def numberAt (data : List UInt8) (tag : UInt8) (valStart : Nat) : Scan (Option Nat) := do
  if tag ≠ 0x6F then do
    let valEnd ← add usize valStart 4
    if valEnd ≤ data.length then some <$> valueAt data valStart else return none
  else return none

/-- A record behind its tag and the name of the file. -/
def readStatement (data : List UInt8) (i : Nat) (tag : UInt8) : Scan Round := do
  let start ← add usize i 9
  match ← stringAt data start with
  | none => passOver i
  | some (mission, keyStart) => do
      match ← stringAt data keyStart with
      | none => passOver i
      | some (key, valStart) => do
          let intVal ← numberAt data tag valStart
          let next ← add usize valStart (if tag = 0x6F then 0 else 4)
          return ⟨some ⟨fromUtf8Lossy mission, fromUtf8Lossy key, intVal⟩, next⟩

/-- The body of the loop of `process_action`, at a position with nine
bytes from there. -/
def round (data : List UInt8) (i : Nat) : Scan Round := do
  let tag ← index data i
  if isSupportedTag tag then do
    let name ← slice data (← add usize i 1) (← add usize i 8)
    if eqIgnoreAsciiCase name (txt "mmd.dat") then do
      let null ← index data (← add usize i 8)
      if null = 0 then readStatement data i tag else passOver i
    else passOver i
  else passOver i

/-- The loop of `process_action`. Each iteration goes on by a byte at
least, so the length is fuel enough. -/
def processFrom {F : Type} [RustStd] [RustF64 F] (data : List UInt8) :
    Nat → Nat → W3Mmd F → Bool → Scan (W3Mmd F × Bool)
  | 0, _, _, _ => .stuck
  | fuel + 1, i, st, anyParsed => do
      let room ← add usize i 9
      if room ≤ data.length then do
        let r ← round data i
        match r.statement with
        | some s =>
            let (st, parsed) := st.parseStatement s
            processFrom data fuel r.next st (anyParsed || parsed)
        | none => processFrom data fuel r.next st anyParsed
      else return (st, anyParsed)

/-- `process_action`. -/
def processAction {F : Type} [RustStd] [RustF64 F] (st : W3Mmd F) (data : List UInt8) :
    Scan (W3Mmd F × Bool) :=
  processFrom data (data.length + 1) 0 st false

/-- The statements the loop finds from a position on. -/
def statementsFrom (data : List UInt8) : Nat → Nat → Scan (List MmdStatement)
  | 0, _ => .stuck
  | fuel + 1, i => do
      let room ← add usize i 9
      if room ≤ data.length then do
        let r ← round data i
        let later ← statementsFrom data fuel r.next
        return r.statement.toList ++ later
      else return []

/-- The calls of `parse_statement` in an action. -/
def statementsIn (data : List UInt8) : Scan (List MmdStatement) :=
  statementsFrom data (data.length + 1) 0

/-- Some statements parsed one after the other, and whether one of them
is understood. -/
def parseAll {F : Type} [RustStd] [RustF64 F] (st : W3Mmd F × Bool) (calls : List MmdStatement) :
    W3Mmd F × Bool :=
  calls.foldl (fun st s => ((st.1.parseStatement s).1, st.2 || (st.1.parseStatement s).2)) st

-- =================================================================== progress

section Progress

variable {data : List UInt8} {i : Nat}

theorem passOver_eq (h : i + 1 < 2 ^ 64) : passOver i = .ok ⟨none, i + 1⟩ := by
  unfold passOver
  rw [add_eq h]
  rfl

/-- Where a string ends, its zero is in range. -/
theorem stringAt_holds (hshort : data.length < 2 ^ 63) {start : Nat} (h : start ≤ data.length) :
    Holds (fun found => ∀ s ∈ found, start < s.2 ∧ s.2 ≤ data.length) (stringAt data start) := by
  unfold stringAt
  rw [slice_eq h (Nat.le_refl _), ok_bind]
  split
  · exact Holds.ok fun _ hs => nomatch hs
  · rename_i null hnull
    have hlt : null < (((data.drop start).take (data.length - start))).length := by
      obtain ⟨hlt, -⟩ := List.findIdx?_eq_some_iff_getElem.1 hnull
      exact hlt
    rw [List.length_take, List.length_drop] at hlt
    rw [add_eq (by unfold usize; omega), ok_bind, slice_eq (by omega) (by omega), ok_bind,
      add_eq (by unfold usize; omega), ok_bind]
    refine Holds.ok ?_
    rintro _ ⟨⟩
    exact ⟨by dsimp only; omega, by dsimp only; omega⟩

theorem numberAt_holds (hshort : data.length < 2 ^ 63) (tag : UInt8) {valStart : Nat}
    (h : valStart ≤ data.length) : (numberAt data tag valStart).Returns := by
  unfold numberAt
  refine Holds.ite (fun _ => ?_) fun _ => Holds.ok trivial
  rw [add_eq (by unfold usize; omega), ok_bind]
  refine Holds.ite (fun hfits => ?_) fun _ => Holds.ok trivial
  unfold valueAt
  rw [index_eq (by omega), ok_bind, add_eq (by unfold usize; omega), ok_bind,
    index_eq (by omega), ok_bind, add_eq (by unfold usize; omega), ok_bind, index_eq (by omega),
    ok_bind,
    add_eq (by unfold usize; omega), ok_bind, index_eq (by omega), ok_bind]
  exact Holds.ok trivial

/-- A position the loop can reach. -/
def Onward (data : List UInt8) (i : Nat) (r : Round) : Prop := i < r.next ∧ r.next ≤ data.length + 4

theorem passOver_holds (data : List UInt8) {i : Nat} (h : i < data.length)
    (hshort : data.length < 2 ^ 63) :
    Holds (Onward data i) (passOver i) := by
  rw [passOver_eq (by omega)]
  exact Holds.ok ⟨Nat.lt_succ_self i, by dsimp only; omega⟩

/-- A record that is read lies behind the position. -/
theorem readStatement_holds (hshort : data.length < 2 ^ 63) (h : i + 9 ≤ data.length)
    (tag : UInt8) :
    Holds (Onward data i) (readStatement data i tag) := by
  have hpass := passOver_holds data (i := i) (by omega) hshort
  unfold readStatement
  rw [add_eq (by unfold usize; omega), ok_bind]
  refine (stringAt_holds hshort h).bind fun mission hmission => ?_
  cases mission with
  | none => exact hpass
  | some found =>
      obtain ⟨hstart, hkey⟩ := hmission found rfl
      refine (stringAt_holds hshort hkey).bind fun key hfound => ?_
      cases key with
      | none => exact hpass
      | some found' =>
          obtain ⟨hbehind, hval⟩ := hfound found' rfl
          refine (numberAt_holds hshort tag hval).bind fun intVal _ => ?_
          rw [add_eq (by unfold usize; split <;> omega), ok_bind]
          refine Holds.ok ⟨?_, ?_⟩
          · dsimp only
            omega
          · dsimp only
            split <;> omega

/-- Every iteration is in range, and goes on by a byte at least. -/
theorem round_holds (hshort : data.length < 2 ^ 63) (h : i + 9 ≤ data.length) :
    Holds (Onward data i) (round data i) := by
  have hpass := passOver_holds data (i := i) (by omega) hshort
  unfold round
  rw [index_eq (by omega), ok_bind]
  refine Holds.ite (fun _ => ?_) fun _ => hpass
  rw [add_eq (by unfold usize; omega), ok_bind, add_eq (by unfold usize; omega), ok_bind,
    slice_eq (by omega) (by omega), ok_bind]
  refine Holds.ite (fun _ => ?_) fun _ => hpass
  rw [ok_bind, index_eq (by omega), ok_bind]
  exact Holds.ite (fun _ => readStatement_holds hshort h _) fun _ => hpass

/-- The loop ends, if there is fuel for the bytes that are left. -/
theorem statementsFrom_returns (hshort : data.length < 2 ^ 63) {fuel : Nat}
    (hi : i ≤ data.length + 4) (hfuel : data.length + 1 ≤ fuel + i ∧ 0 < fuel) :
    (statementsFrom data fuel i).Returns := by
  induction fuel generalizing i with
  | zero => exact absurd hfuel.2 (Nat.lt_irrefl 0)
  | succ fuel ih =>
      unfold statementsFrom
      rw [add_eq (by unfold usize; omega), ok_bind]
      refine Holds.ite (fun hroom => ?_) fun _ => Holds.ok trivial
      refine (round_holds hshort hroom).bind fun r hr => ?_
      obtain ⟨hlt, hle⟩ := hr
      exact (ih hle ⟨by omega, by omega⟩).bind fun _ _ => Holds.ok trivial

theorem statementsIn_returns (hshort : data.length < 2 ^ 63) : (statementsIn data).Returns :=
  statementsFrom_returns hshort (Nat.zero_le _) ⟨Nat.le_refl _, Nat.succ_pos _⟩

/-- The loop parses the statements it finds, each once and in turn. -/
theorem processFrom_eq {F : Type} [RustStd] [RustF64 F] (fuel i : Nat) (st : W3Mmd F)
    (anyParsed : Bool) :
    processFrom data fuel i st anyParsed
      = statementsFrom data fuel i >>= fun calls => .ok (parseAll (st, anyParsed) calls) := by
  induction fuel generalizing i st anyParsed with
  | zero => rfl
  | succ fuel ih =>
      unfold processFrom statementsFrom
      cases (add usize i 9 : Scan Nat) with
      | err e => exact e.elim
      | stuck => rfl
      | ok room =>
          rw [ok_bind, ok_bind]
          by_cases hroom : room ≤ data.length
          · rw [if_pos hroom, if_pos hroom]
            cases round data i with
            | err e => exact e.elim
            | stuck => rfl
            | ok r =>
                rw [ok_bind, ok_bind]
                cases hs : r.statement with
                | none =>
                    dsimp only
                    rw [ih, bind_assoc]
                    rfl
                | some s =>
                    dsimp only
                    rw [ih, bind_assoc]
                    rfl
          · rw [if_neg hroom, if_neg hroom]
            rfl

end Progress

end W3Mmd

-- ==================================================================== records

/-- A well-formed record: its tag, the name of the file in any case, two
strings without a zero, and four bytes of a number unless the tag has
none. -/
structure MmdRecord where
  tag : UInt8
  fileName : List UInt8
  mission : List UInt8
  key : List UInt8
  value : List UInt8
  supported : W3Mmd.isSupportedTag tag = true
  named : eqIgnoreAsciiCase fileName (txt "mmd.dat") = true
  missionClean : 0 ∉ mission
  keyClean : 0 ∉ key
  valueLength : value.length = if tag = 0x6F then 0 else 4

namespace MmdRecord

/-- The bytes of a record. -/
def bytes (r : MmdRecord) : List UInt8 :=
  r.tag :: (r.fileName ++ 0 :: (r.mission ++ 0 :: (r.key ++ 0 :: r.value)))

/-- The number of a record. -/
def number? (r : MmdRecord) : Option Nat :=
  match r.value with
  | [a, b, c, d] => some (a.toNat + 256 * b.toNat + 65536 * c.toNat + 16777216 * d.toNat)
  | _ => none

/-- What a record says. -/
def statement (r : MmdRecord) : MmdStatement :=
  ⟨fromUtf8Lossy r.mission, fromUtf8Lossy r.key, r.number?⟩

theorem length_fileName (r : MmdRecord) : r.fileName.length = 7 := by
  have h := r.named
  unfold eqIgnoreAsciiCase at h
  have hlen := congrArg List.length (eq_of_beq h)
  rw [List.length_map, List.length_map] at hlen
  exact hlen.trans (by decide +kernel)

theorem length_bytes (r : MmdRecord) :
    r.bytes.length = 11 + r.mission.length + r.key.length + r.value.length := by
  unfold bytes
  simp only [List.length_cons, List.length_append, length_fileName]
  omega

end MmdRecord

namespace W3Mmd

section Exact

variable {before rest after data : List UInt8} {i : Nat}

/-- What is read behind the bytes that have been passed. -/
theorem index_behind (before rest : List UInt8) (k : Nat) :
    (index (before ++ rest) (before.length + k) : Scan UInt8) = index rest k := by
  unfold index
  rw [List.getElem?_append_right (Nat.le_add_right _ _), Nat.add_sub_cancel_left]

theorem slice_behind (before rest : List UInt8) (start stop : Nat) :
    (slice (before ++ rest) (before.length + start) (before.length + stop) : Scan (List UInt8))
      = slice rest start stop := by
  unfold slice
  rw [List.length_append, List.drop_append, List.drop_of_length_le (Nat.le_add_right _ _),
    List.nil_append, Nat.add_sub_cancel_left, Nat.add_sub_add_left]
  refine if_congr ?_ rfl rfl
  omega

/-- A string without a zero, and the zero behind it. -/
theorem stringAt_eq (before after : List UInt8)
    (hshort : (before ++ (rest ++ 0 :: after)).length < 2 ^ 63) (hclean : 0 ∉ rest) :
    stringAt (before ++ (rest ++ 0 :: after)) before.length
      = .ok (some (rest, before.length + rest.length + 1)) := by
  have hlen : (before ++ (rest ++ 0 :: after)).length
      = before.length + (rest.length + (after.length + 1)) := by
    simp only [List.length_append, List.length_cons]
  have hfind : (rest ++ 0 :: after).findIdx? (· == 0) = some rest.length := by
    rw [List.findIdx?_append, List.findIdx?_eq_none_iff.2 fun b hb => by
      simpa using fun hzero : b = 0 => hclean (hzero ▸ hb)]
    simp [List.findIdx?_cons]
  have htail := slice_behind before (rest ++ 0 :: after) 0 (rest.length + (after.length + 1))
  have hrest := slice_behind before (rest ++ 0 :: after) 0 rest.length
  rw [Nat.add_zero] at htail hrest
  unfold stringAt
  rw [hlen, htail, slice_eq (Nat.zero_le _) (by simp), ok_bind, Nat.sub_zero, List.drop_zero,
    List.take_of_length_le (by simp), hfind]
  dsimp only
  rw [add_eq (by unfold usize; omega), ok_bind, hrest, slice_eq (Nat.zero_le _) (by simp), ok_bind,
    Nat.sub_zero, List.drop_zero, List.take_left' rfl, add_eq (by unfold usize; omega), ok_bind]
  rfl

/-- The number of a record. -/
theorem numberAt_eq (before after : List UInt8) (r : MmdRecord)
    (hshort : (before ++ (r.value ++ after)).length < 2 ^ 63) :
    numberAt (before ++ (r.value ++ after)) r.tag before.length = .ok r.number? := by
  have hvalue := r.valueLength
  unfold numberAt MmdRecord.number?
  by_cases htag : r.tag = 0x6F
  · rw [if_pos htag] at hvalue
    rw [if_neg (not_not.2 htag), List.eq_nil_of_length_eq_zero hvalue]
    rfl
  · rw [if_neg htag] at hvalue
    rw [if_pos htag]
    match hbytes : r.value, hvalue with
    | [a, b, c, d], _ =>
        rw [hbytes] at hshort
        simp only [List.length_append, List.length_cons, List.length_nil] at hshort
        rw [add_eq (by unfold usize; omega), ok_bind, if_pos (by simp)]
        unfold valueAt
        have hzero := index_behind before ([a, b, c, d] ++ after) 0
        rw [Nat.add_zero] at hzero
        rw [hzero, add_eq (by unfold usize; omega), add_eq (by unfold usize; omega),
          add_eq (by unfold usize; omega)]
        simp only [ok_bind, index_behind]
        rfl

/-- A record behind the name of the file is read whole. -/
theorem readStatement_record (before after : List UInt8) (r : MmdRecord) {i : Nat}
    (hbefore : before.length = i + 9)
    (hshort : (before ++ (r.mission ++ 0 :: (r.key ++ 0 :: (r.value ++ after)))).length < 2 ^ 63) :
    readStatement (before ++ (r.mission ++ 0 :: (r.key ++ 0 :: (r.value ++ after)))) i r.tag
      = .ok ⟨some r.statement,
        before.length + r.mission.length + r.key.length + r.value.length + 2⟩ := by
  -- the same bytes, as they stand around the key and around the number
  have hkey : before ++ (r.mission ++ 0 :: (r.key ++ 0 :: (r.value ++ after)))
      = (before ++ r.mission ++ [0]) ++ (r.key ++ 0 :: (r.value ++ after)) := by
    simp only [List.append_assoc, List.cons_append, List.nil_append]
  have hnumber : before ++ (r.mission ++ 0 :: (r.key ++ 0 :: (r.value ++ after)))
      = (before ++ r.mission ++ [0] ++ r.key ++ [0]) ++ (r.value ++ after) := by
    simp only [List.append_assoc, List.cons_append, List.nil_append]
  have hlen := congrArg List.length hnumber
  simp only [List.length_append, List.length_cons, List.length_nil] at hlen hshort
  have hvalue := r.valueLength
  have hfirst := stringAt_eq before (r.key ++ 0 :: (r.value ++ after))
    (by simp only [List.length_append, List.length_cons]; omega) r.missionClean
  have hsecond := stringAt_eq (before ++ r.mission ++ [0]) (r.value ++ after)
    (by simp only [List.length_append, List.length_cons, List.length_nil]; omega) r.keyClean
  have hthird := numberAt_eq (before ++ r.mission ++ [0] ++ r.key ++ [0]) after r
    (by simp only [List.length_append, List.length_cons, List.length_nil]; omega)
  rw [← hkey] at hsecond
  rw [← hnumber] at hthird
  simp only [List.length_append, List.length_cons, List.length_nil, Nat.zero_add] at hsecond hthird
  unfold readStatement
  rw [add_eq (by unfold usize; omega), ok_bind, ← hbefore, hfirst, ok_bind]
  dsimp only
  rw [hsecond, ok_bind]
  dsimp only
  rw [hthird, ok_bind, ← hvalue, add_eq (by unfold usize; omega), ok_bind]
  unfold MmdRecord.statement
  refine congrArg (fun n => Checked.ok (Round.mk _ n)) ?_
  omega

/-- A record at a position is read whole. -/
theorem round_record (r : MmdRecord) (hshort : (before ++ (r.bytes ++ after)).length < 2 ^ 63) :
    round (before ++ (r.bytes ++ after)) before.length
      = .ok ⟨some r.statement, before.length + r.bytes.length⟩ := by
  have hname := r.length_fileName
  have hbytes : before ++ (r.bytes ++ after) = (before ++ r.tag :: (r.fileName ++ [0]))
      ++ (r.mission ++ 0 :: (r.key ++ 0 :: (r.value ++ after))) := by
    unfold MmdRecord.bytes
    simp only [List.append_assoc, List.cons_append, List.nil_append]
  have hread := readStatement_record (before ++ r.tag :: (r.fileName ++ [0])) after r
    (i := before.length) (by simp [hname]) (hbytes ▸ hshort)
  rw [← hbytes] at hread
  have hlen : (before ++ (r.bytes ++ after)).length
      = before.length + (11 + r.mission.length + r.key.length + r.value.length + after.length) := by
    rw [List.length_append, List.length_append, r.length_bytes]
  have htag : (index (before ++ (r.bytes ++ after)) before.length : Scan UInt8) = .ok r.tag :=
    index_behind before (r.bytes ++ after) 0
  have hslice : (slice (before ++ (r.bytes ++ after)) (before.length + 1) (before.length + 8)
      : Scan (List UInt8)) = .ok r.fileName := by
    rw [slice_behind, slice_eq (by omega) (by rw [List.length_append, r.length_bytes]; omega)]
    unfold MmdRecord.bytes
    rw [List.cons_append, List.drop_succ_cons, List.drop_zero, List.append_assoc,
      List.take_left' (by omega)]
  have hzero : (index (before ++ (r.bytes ++ after)) (before.length + 8) : Scan UInt8) = .ok 0 := by
    rw [index_behind]
    unfold index MmdRecord.bytes
    rw [List.cons_append, List.getElem?_cons_succ, List.append_assoc,
      List.getElem?_append_right (by omega), hname]
    rfl
  unfold round
  rw [htag, ok_bind, if_pos r.supported, add_eq (by unfold usize; omega), ok_bind,
    add_eq (by unfold usize; omega), ok_bind, hslice, ok_bind, if_pos r.named, ok_bind,
    hzero, ok_bind, if_pos rfl, hread, r.length_bytes]
  refine congrArg (fun n => Checked.ok (Round.mk _ n)) ?_
  simp only [List.length_append, List.length_cons, List.length_nil, hname]
  omega

/-- Records one behind the other are found, and nothing else. -/
theorem statementsFrom_records (records : List MmdRecord) (before : List UInt8)
    (hshort : (before ++ records.flatMap MmdRecord.bytes).length < 2 ^ 63) {fuel : Nat}
    (hfuel : records.length < fuel) :
    statementsFrom (before ++ records.flatMap MmdRecord.bytes) fuel before.length
      = .ok (records.map MmdRecord.statement) := by
  induction records generalizing before fuel with
  | nil =>
      obtain ⟨fuel, rfl⟩ := Nat.exists_eq_add_of_le' hfuel
      rw [List.flatMap_nil, List.append_nil] at hshort ⊢
      unfold statementsFrom
      rw [add_eq (by unfold usize; omega), ok_bind, if_neg (by omega)]
      rfl
  | cons r records ih =>
      obtain ⟨fuel, rfl⟩ : ∃ m, fuel = m + 1 := ⟨fuel - 1, by omega⟩
      have hlong := r.length_bytes
      rw [List.flatMap_cons] at hshort ⊢
      have hlater := ih (before ++ r.bytes) (by rw [List.append_assoc]; exact hshort)
        (Nat.lt_of_succ_lt_succ hfuel)
      rw [List.append_assoc, List.length_append] at hlater
      have hlen : (before ++ (r.bytes ++ records.flatMap MmdRecord.bytes)).length
          = before.length + (r.bytes.length + (records.flatMap MmdRecord.bytes).length) := by
        simp only [List.length_append]
      unfold statementsFrom
      rw [add_eq (by unfold usize; omega), ok_bind, if_pos (by omega),
        round_record r hshort, ok_bind, hlater, ok_bind]
      rfl

end Exact

-- ==================================================================== result

/-- For every action: each iteration is in range and goes on by a byte
at least, so the loop ends; and processing the action is parsing the
statements that are found, each once and in turn. An action made of
records has exactly theirs. -/
theorem mmd_scan_exact (data : List UInt8) (hshort : data.length < 2 ^ 63) :
    (∀ i, i + 9 ≤ data.length → ∃ r, round data i = .ok r ∧ i < r.next)
      ∧ (∃ calls, statementsIn data = .ok calls
        ∧ ∀ {F : Type} [RustStd] [RustF64 F] (st : W3Mmd F),
          st.processAction data = .ok (parseAll (st, false) calls))
      ∧ ∀ records : List MmdRecord, data = records.flatMap MmdRecord.bytes →
        statementsIn data = .ok (records.map MmdRecord.statement) := by
  refine ⟨fun i hi => ?_, ?_, ?_⟩
  · have hround := round_holds hshort hi
    cases hr : round data i with
    | ok r =>
        rw [hr] at hround
        exact ⟨r, rfl, hround.1⟩
    | err e => exact e.elim
    | stuck =>
        rw [hr] at hround
        exact hround.elim
  · cases hcalls : statementsIn data with
    | ok calls =>
        refine ⟨calls, rfl, fun st => ?_⟩
        unfold processAction
        rw [processFrom_eq]
        unfold statementsIn at hcalls
        rw [hcalls, ok_bind]
    | err e => exact e.elim
    | stuck => exact (returns_iff.1 (statementsIn_returns hshort) hcalls).elim
  · rintro records rfl
    refine statementsFrom_records records [] hshort ?_
    have hcount : records.length ≤ (records.flatMap MmdRecord.bytes).length := by
      clear hshort
      induction records with
      | nil => exact Nat.le_refl 0
      | cons r records ih =>
          rw [List.flatMap_cons, List.length_append, r.length_bytes, List.length_cons]
          omega
    exact Nat.lt_succ_of_le hcount

/-- A kill of player 0, with its number. -/
def killRecord : MmdRecord where
  tag := 0x6B
  fileName := txt "MMD.Dat"
  mission := txt "val:1"
  key := txt "VarP 0 kills +="
  value := [3, 0, 0, 0]
  supported := by decide
  named := by decide +kernel
  missionClean := by decide +kernel
  keyClean := by decide +kernel
  valueLength := by decide

/-- A statement without a number. -/
def winRecord : MmdRecord where
  tag := 0x6F
  fileName := txt "mmd.dat"
  mission := txt "val:2"
  key := txt "FlagP 0 winner"
  value := []
  supported := by decide
  named := by decide +kernel
  missionClean := by decide +kernel
  keyClean := by decide +kernel
  valueLength := by decide

theorem mmd_scan_exact_killAndWin :
    statementsIn ([killRecord, winRecord].flatMap MmdRecord.bytes)
      = .ok [⟨txt "val:1", txt "VarP 0 kills +=", some 3⟩,
        ⟨txt "val:2", txt "FlagP 0 winner", none⟩] := by
  have hscan := (mmd_scan_exact ([killRecord, winRecord].flatMap MmdRecord.bytes)
    (by decide +kernel)).2.2 _ rfl
  have htexts : [killRecord, winRecord].map MmdRecord.statement
      = [⟨txt "val:1", txt "VarP 0 kills +=", some 3⟩, ⟨txt "val:2", txt "FlagP 0 winner", none⟩]
        := by
    decide +kernel
  rw [hscan, htexts]

end W3Mmd

end Spectre

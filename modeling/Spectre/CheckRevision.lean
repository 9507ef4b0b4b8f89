/-
The version check of Battle.net (`check_revision.rs`, `mpq_num.rs`).

The server sends a formula, a small program over the registers A, B and
C, and the name of an archive whose number selects a seed. The client
runs the program once for every word of its files and answers with C.
Here are the parser of formulas, the interpreter, the registry of seeds,
and the loop that reads a file in blocks of 1024 bytes, however many
bytes each call of `read` brings and however often it is interrupted.

A formula is text of the server, so it is a list of characters.
-/
import Spectre.MapFile

namespace Spectre.Bnet

-- ====================================================================== formulas

/-- `OpType`. -/
inductive OpType where
  | add
  | sub
  | xor
  | mul
  | div
deriving DecidableEq

/-- `Operation`. -/
structure Operation where
  target : Char
  left : Char
  op : OpType
  right : Char
deriving DecidableEq

/-- What `parse_formula` returns. -/
structure Formula where
  a : UInt32
  b : UInt32
  c : UInt32
  ops : List Operation
deriving DecidableEq

/-- Why there is no checksum. -/
inductive RevisionError where
  | noFile
  | unknownOperator (op : Char)
  | io
deriving DecidableEq

/-- The text of an error of the source's own. -/
def RevisionError.message : RevisionError → Option (List Char)
  | noFile => some "checkRevision requires at least one file".toList
  | unknownOperator op => some ("unknown CheckRevision operator '".toList ++ [op, '\''])
  | io => none

/-- `char::is_whitespace`. -/
def isWhitespace (c : Char) : Bool :=
  let n := c.toNat
  n == 0x20 || (0x09 ≤ n && n ≤ 0x0D) || n == 0x85 || n == 0xA0 || n == 0x1680
    || (0x2000 ≤ n && n ≤ 0x200A) || n == 0x2028 || n == 0x2029 || n == 0x202F || n == 0x205F
    || n == 0x3000

/-- A token that has ended, if it is one. -/
def flushToken (token : List Char) : List (List Char) := if token = [] then [] else [token]

/-- The tokens of a text, of which the first has begun. -/
def tokensFrom (token : List Char) : List Char → List (List Char)
  | [] => flushToken token
  | c :: text =>
      if isWhitespace c then flushToken token ++ tokensFrom [] text
      else tokensFrom (token ++ [c]) text

/-- `split_whitespace`. -/
def splitTokens (text : List Char) : List (List Char) := tokensFrom [] text

/-- `parse::<u32>()`. -/
def parseU32 (text : List Char) : Option UInt32 :=
  let digits := if text.head? = some '+' then text.tail else text
  let n := Nat.ofDigitChars 10 digits 0
  if digits ≠ [] ∧ digits.all Char.isDigit ∧ n < 2 ^ 32 then some (.ofNat n) else none

/-- The number after the name of a register and `=`. -/
def assigned (register : Char) (token : List Char) : Option UInt32 :=
  match token with
  | x :: '=' :: rest => if x = register then parseU32 rest else none
  | _ => none

/-- The operator of a character. -/
def OpType.ofChar : Char → Option OpType
  | '+' => some .add
  | '-' => some .sub
  | '^' => some .xor
  | '*' => some .mul
  | '/' => some .div
  | _ => none

/-- One token of a formula. One that is neither a register's value nor
an operation is passed over. -/
def Formula.readToken (f : Formula) (token : List Char) : Except RevisionError Formula :=
  match assigned 'A' token, assigned 'B' token, assigned 'C' token with
  | some v, _, _ => .ok { f with a := v }
  | none, some v, _ => .ok { f with b := v }
  | none, none, some v => .ok { f with c := v }
  | none, none, none =>
      match token with
      | [target, '=', left, opChar, right] =>
          match OpType.ofChar opChar with
          | some op => .ok { f with ops := f.ops ++ [{ target, left, op, right }] }
          | none => .error (.unknownOperator opChar)
      | _ => .ok f

/-- `parse_formula`. -/
def parseFormula (formula : List Char) : Except RevisionError Formula :=
  (splitTokens formula).foldlM Formula.readToken { a := 0, b := 0, c := 0, ops := [] }

-- =================================================================== interpreter

/-- The registers. -/
structure Registers where
  a : UInt32
  b : UInt32
  c : UInt32
deriving DecidableEq

/-- `get_reg`. -/
def Registers.get (r : Registers) (s : UInt32) (reg : Char) : UInt32 :=
  if reg = 'A' then r.a else if reg = 'B' then r.b else if reg = 'C' then r.c
  else if reg = 'S' then s else 0

/-- The value of an operation; a quotient by zero is zero. -/
def OpType.eval : OpType → UInt32 → UInt32 → UInt32
  | add, x, y => x + y
  | sub, x, y => x - y
  | xor, x, y => x ^^^ y
  | mul, x, y => x * y
  | div, x, y => if y = 0 then 0 else x / y

/-- One operation. -/
def Operation.run (s : UInt32) (r : Registers) (o : Operation) : Registers :=
  let res := o.op.eval (r.get s o.left) (r.get s o.right)
  if o.target = 'A' then { r with a := res }
  else if o.target = 'B' then { r with b := res }
  else if o.target = 'C' then { r with c := res }
  else r

/-- `execute_ops`. -/
def executeOps (ops : List Operation) (r : Registers) (s : UInt32) : Registers :=
  ops.foldl (Operation.run s) r

-- ======================================================================== seeds

/-- `DEFAULT_MPQ_SEEDS`. -/
def defaultMpqSeeds : List UInt32 :=
  [0xE7F4CB62, 0xF6A14FFC, 0xAA5504AF, 0x871FCDC2, 0x11BF6A18, 0xC57292E6, 0x7927D27E, 0x2FEC8733]

/-- `SEED_REGISTRY`: the seeds, once one has been set. -/
abbrev SeedRegistry := Option (List UInt32)

/-- `get_mpq_seed`. -/
def SeedRegistry.get (reg : SeedRegistry) (mpqNumber : Int) : UInt32 :=
  if mpqNumber < 0 then 0
  else ((reg.getD defaultMpqSeeds)[mpqNumber.toNat]?).getD 0

/-- `set_mpq_seed`: the registry after it, and the seed before. -/
def SeedRegistry.set (reg : SeedRegistry) (mpqNumber : Int) (newSeed : UInt32) :
    SeedRegistry × UInt32 :=
  if mpqNumber < 0 then (reg, 0)
  else
    let idx := mpqNumber.toNat
    let seeds := reg.getD defaultMpqSeeds
    let seeds := if seeds.length ≤ idx then seeds ++ List.replicate (idx + 1 - seeds.length) 0
      else seeds
    (some (seeds.set idx newSeed), (seeds[idx]?).getD 0)

/-- The seed that is used. -/
def SeedRegistry.effective (reg : SeedRegistry) (mpqNumber : Int) : UInt32 :=
  if reg.get mpqNumber ≠ 0 then reg.get mpqNumber else defaultMpqSeeds.getD 1 0

-- ======================================================================== files

/-- What a call of `read` comes to: an interrupt, an error, or as many
bytes as there are and the buffer takes, `n` at most; it is zero only at
the end of the file. -/
inductive ReadCall where
  | interrupted
  | failed
  | got (n : Nat)
deriving DecidableEq

/-- What has come of reading: it waits for a call to return, it has
failed, or it is done. -/
inductive Reading (α : Type) where
  | waiting
  | failed
  | done (a : α)
deriving DecidableEq

/-- A file that is read: the calls to come, and what is left of it. -/
structure OpenFile where
  calls : List ReadCall
  rest : List UInt8

/-- The inner loop: the block is filled up, or the file ends. -/
def fillBlock (rest block : List UInt8) : List ReadCall → Reading (OpenFile × List UInt8)
  | [] => if block.length < 1024 then .waiting else .done (⟨[], rest⟩, block)
  | call :: calls =>
      if block.length < 1024 then
        match call with
        | .interrupted => fillBlock rest block calls
        | .failed => .failed
        | .got n =>
            let count := min (max 1 n) (min (1024 - block.length) rest.length)
            if count = 0 then .done (⟨calls, rest⟩, block)
            else fillBlock (rest.drop count) (block ++ rest.take count) calls
      else .done (⟨call :: calls, rest⟩, block)

/-- `chunks_exact(4)` and `from_le_bytes`. -/
def leWords : List UInt8 → List UInt32
  | a :: b :: c :: d :: rest => leWord a b c d :: leWords rest
  | _ => []

/-- What a block that is not full is filled up with. -/
def padding (total : Nat) : List UInt8 :=
  (List.range (1024 - total)).map fun i => 0xFF - i.toUInt8

/-- The outer loop of `hash_file`. Every round takes a call, so their
number is fuel enough. -/
def hashBlocks (ops : List Operation) : Nat → OpenFile → Registers → Reading Registers
  | 0, _, _ => .waiting
  | fuel + 1, file, r =>
      match fillBlock file.rest [] file.calls with
      | .waiting => .waiting
      | .failed => .failed
      | .done (file, block) =>
          if block = [] then .done r
          else if block.length = 1024 then
            hashBlocks ops fuel file ((leWords block).foldl (executeOps ops) r)
          else .done ((leWords (block ++ padding block.length)).foldl (executeOps ops) r)

/-- `hash_file`; a file that cannot be opened is none. -/
def hashFile (ops : List Operation) (file : Option OpenFile) (r : Registers) : Reading Registers :=
  match file with
  | none => .failed
  | some file => hashBlocks ops (file.calls.length + 1) file r

/-- The files one after the other. -/
def hashFiles (ops : List Operation) : List (Option OpenFile) → Registers → Reading Registers
  | [], r => .done r
  | file :: files, r =>
      match hashFile ops file r with
      | .waiting => .waiting
      | .failed => .failed
      | .done r => hashFiles ops files r

/-- The answer, once the files are read. -/
def Reading.answer : Reading Registers → Reading (Except RevisionError UInt32)
  | waiting => .waiting
  | failed => .done (.error .io)
  | done r => .done (.ok r.c)

/-- `check_revision`. -/
def checkRevision (reg : SeedRegistry) (formula : List Char) (files : List (Option OpenFile))
    (mpqNumber : Int) : Reading (Except RevisionError UInt32) :=
  if files.isEmpty then .done (.error .noFile)
  else
    match parseFormula formula with
    | .error e => .done (.error e)
    | .ok f =>
        (hashFiles f.ops files
          { a := f.a ^^^ reg.effective mpqNumber, b := f.b, c := f.c }).answer

/-- `check_revision_flat`. -/
def checkRevisionFlat (reg : SeedRegistry) (formula : List Char)
    (file1 file2 file3 : Option OpenFile) (mpqNumber : Int) :
    Reading (Except RevisionError UInt32) :=
  checkRevision reg formula [file1, file2, file3] mpqNumber

end Spectre.Bnet

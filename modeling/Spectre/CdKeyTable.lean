/-
The table of a 26-character CD-key (`cdkey.rs`).

The key is a number of 128 bits in four words, the last one lowest.
`decode_key_table` unscrambles it. In thirty rounds it rewrites the
nibbles from the thirtieth down to the first: each is sent through its
own row of a table, once for every other nibble, which is mixed in. Then
the lowest 120 bits are put in another order, with a stride of eleven.

The rows are permutations, so a round can be undone by who knows the
other nibbles, and they are all still there; and eleven is prime to 120.
So nothing is lost (`decode_key_table_bijective`), nor in what is taken
from the table afterwards: the product, the public and the private
value are all of its bits.
-/
import Mathlib.Data.Set.Finite.List
import Spectre.Lib.Fields
import Spectre.MpqCipher

namespace Spectre.Bnet

open Lib Lib.Checked
open Mpq (wordOf bytesOf)

/-- `CdKeyError`. -/
inductive CdKeyError where
  | invalidLength (length : Nat)
  | invalidChar (c : Char)
  | checksumFailed
deriving DecidableEq, Repr

/-- What a function of the source returns. -/
abbrev KeyRes (α : Type) := Checked CdKeyError α

-- ================================================================ the scrambling

/-- `W3_TRANSLATE_MAP`. -/
def w3TranslateMap : List UInt8 :=
  [0x09, 0x04, 0x07, 0x0F, 0x0D, 0x0A, 0x03, 0x0B, 0x01, 0x02, 0x0C, 0x08, 0x06, 0x0E, 0x05, 0x00,
   0x09, 0x0B, 0x05, 0x04, 0x08, 0x0F, 0x01, 0x0E, 0x07, 0x00, 0x03, 0x02, 0x0A, 0x06, 0x0D, 0x0C,
   0x0C, 0x0E, 0x01, 0x04, 0x09, 0x0F, 0x0A, 0x0B, 0x0D, 0x06, 0x00, 0x08, 0x07, 0x02, 0x05, 0x03,
   0x0B, 0x02, 0x05, 0x0E, 0x0D, 0x03, 0x09, 0x00, 0x01, 0x0F, 0x07, 0x0C, 0x0A, 0x06, 0x04, 0x08,
   0x06, 0x02, 0x04, 0x05, 0x0B, 0x08, 0x0C, 0x0E, 0x0D, 0x0F, 0x07, 0x01, 0x0A, 0x00, 0x03, 0x09,
   0x05, 0x04, 0x0E, 0x0C, 0x07, 0x06, 0x0D, 0x0A, 0x0F, 0x02, 0x09, 0x01, 0x00, 0x0B, 0x08, 0x03,
   0x0C, 0x07, 0x08, 0x0F, 0x0B, 0x00, 0x05, 0x09, 0x0D, 0x0A, 0x06, 0x0E, 0x02, 0x04, 0x03, 0x01,
   0x03, 0x0A, 0x0E, 0x08, 0x01, 0x0B, 0x05, 0x04, 0x02, 0x0F, 0x0D, 0x0C, 0x06, 0x07, 0x09, 0x00,
   0x0C, 0x0D, 0x01, 0x0F, 0x08, 0x0E, 0x05, 0x0B, 0x03, 0x0A, 0x09, 0x00, 0x07, 0x02, 0x04, 0x06,
   0x0D, 0x0A, 0x07, 0x0E, 0x01, 0x06, 0x0B, 0x08, 0x0F, 0x0C, 0x05, 0x02, 0x03, 0x00, 0x04, 0x09,
   0x03, 0x0E, 0x07, 0x05, 0x0B, 0x0F, 0x08, 0x0C, 0x01, 0x0A, 0x04, 0x0D, 0x00, 0x06, 0x09, 0x02,
   0x0B, 0x06, 0x09, 0x04, 0x01, 0x08, 0x0A, 0x0D, 0x07, 0x0E, 0x00, 0x0C, 0x0F, 0x02, 0x03, 0x05,
   0x0C, 0x07, 0x08, 0x0D, 0x03, 0x0B, 0x00, 0x0E, 0x06, 0x0F, 0x09, 0x04, 0x0A, 0x01, 0x05, 0x02,
   0x0C, 0x06, 0x0D, 0x09, 0x0B, 0x00, 0x01, 0x02, 0x0F, 0x07, 0x03, 0x04, 0x0A, 0x0E, 0x08, 0x05,
   0x03, 0x06, 0x01, 0x05, 0x0B, 0x0C, 0x08, 0x00, 0x0F, 0x0E, 0x09, 0x04, 0x07, 0x0A, 0x0D, 0x02,
   0x0A, 0x07, 0x0B, 0x0F, 0x02, 0x08, 0x00, 0x0D, 0x0E, 0x0C, 0x01, 0x06, 0x09, 0x03, 0x05, 0x04,
   0x0A, 0x0B, 0x0D, 0x04, 0x03, 0x08, 0x05, 0x09, 0x01, 0x00, 0x0F, 0x0C, 0x07, 0x0E, 0x02, 0x06,
   0x0B, 0x04, 0x0D, 0x0F, 0x01, 0x06, 0x03, 0x0E, 0x07, 0x0A, 0x0C, 0x08, 0x09, 0x02, 0x05, 0x00,
   0x09, 0x06, 0x07, 0x00, 0x01, 0x0A, 0x0D, 0x02, 0x03, 0x0E, 0x0F, 0x0C, 0x05, 0x0B, 0x04, 0x08,
   0x0D, 0x0E, 0x05, 0x06, 0x01, 0x09, 0x08, 0x0C, 0x02, 0x0F, 0x03, 0x07, 0x0B, 0x04, 0x00, 0x0A,
   0x09, 0x0F, 0x04, 0x00, 0x01, 0x06, 0x0A, 0x0E, 0x02, 0x03, 0x07, 0x0D, 0x05, 0x0B, 0x08, 0x0C,
   0x03, 0x0E, 0x01, 0x0A, 0x02, 0x0C, 0x08, 0x04, 0x0B, 0x07, 0x0D, 0x00, 0x0F, 0x06, 0x09, 0x05,
   0x07, 0x02, 0x0C, 0x06, 0x0A, 0x08, 0x0B, 0x00, 0x0F, 0x04, 0x03, 0x0E, 0x09, 0x01, 0x0D, 0x05,
   0x0C, 0x04, 0x05, 0x09, 0x0A, 0x02, 0x08, 0x0D, 0x03, 0x0F, 0x01, 0x0E, 0x06, 0x07, 0x0B, 0x00,
   0x0A, 0x08, 0x0E, 0x0D, 0x09, 0x0F, 0x03, 0x00, 0x04, 0x06, 0x01, 0x0C, 0x07, 0x0B, 0x02, 0x05,
   0x03, 0x0C, 0x04, 0x0A, 0x02, 0x0F, 0x0D, 0x0E, 0x07, 0x00, 0x05, 0x08, 0x01, 0x06, 0x0B, 0x09,
   0x0A, 0x0C, 0x01, 0x00, 0x09, 0x0E, 0x0D, 0x0B, 0x03, 0x07, 0x0F, 0x08, 0x05, 0x02, 0x04, 0x06,
   0x0E, 0x0A, 0x01, 0x08, 0x07, 0x06, 0x05, 0x0C, 0x02, 0x0F, 0x00, 0x0D, 0x03, 0x0B, 0x04, 0x09,
   0x03, 0x08, 0x0E, 0x00, 0x07, 0x09, 0x0F, 0x0C, 0x01, 0x06, 0x0D, 0x02, 0x05, 0x0A, 0x0B, 0x04,
   0x03, 0x0A, 0x0C, 0x04, 0x0D, 0x0B, 0x09, 0x0E, 0x0F, 0x06, 0x01, 0x07, 0x02, 0x00, 0x05, 0x08]

/-- A shift of a `u32` to the right, the distance being checked. -/
def shrWord (w : UInt32) (n : Nat) : KeyRes UInt32 :=
  if n < 32 then .ok (w >>> n.toUInt32) else .stuck

/-- A shift of a `u32` to the left. -/
def shlWord (w : UInt32) (n : Nat) : KeyRes UInt32 :=
  if n < 32 then .ok (w <<< n.toUInt32) else .stuck

/-- `(values[3 - (n >> 3)] >> ((n & 7) << 2)) & 0xF`. -/
def nibbleAt (values : List UInt32) (n : Nat) : KeyRes Nat := do
  let word ← index values (← sub 3 (n >>> 3))
  let shifted ← shrWord word ((n &&& 7) <<< 2)
  return (shifted &&& 0xF).toNat

/-- The body of the inner loops: the nibble `j` is mixed in. -/
def mixNibble (values : List UInt32) (i varC j : Nat) : KeyRes Nat := do
  let ebp ← nibbleAt values j
  let b ← index w3TranslateMap (← add 32 varC i)
  let c ← index w3TranslateMap (ebp ^^^ (← add 32 b.toNat i))
  return c.toNat

/-- The body of the outer loop: the nibble `var8` is rewritten. -/
def keyRound (values : List UInt32) (var8 i : Nat) : KeyRes (List UInt32) := do
  let esi := (var8 &&& 7) <<< 2
  let varC ← nibbleAt values var8
  let varC ←
    (if i < 464 then (List.range' (var8 + 1) (29 - var8)).reverse.foldlM (mixNibble values i) varC
    else .ok varC)
  let varC ← (List.range var8).reverse.foldlM (mixNibble values i) varC
  let entry ← index w3TranslateMap (← add 32 varC i)
  let ebx ← shlWord (entry &&& 0xF).toUInt32 esi
  let mask ← shlWord 0xF esi
  let place ← sub 3 (var8 >>> 3)
  let word ← index values place
  store values place (ebx ||| (word &&& ~~~mask))

/-- The outer loop, from `var8` down, until `i` would be negative. -/
def keyRounds (values : List UInt32) : Nat → Nat → KeyRes (List UInt32)
  | 0, i => do
      let values ← keyRound values 0 i
      if i < 16 then return values else .stuck
  | var8 + 1, i => do
      let values ← keyRound values (var8 + 1) i
      if i < 16 then return values else keyRounds values var8 (i - 16)

/-- The body of the last loop: the bit `edi` comes from the place `esi`
of the copy. -/
def moveBit (scopy : List UInt8) (st : List UInt32 × Nat) (edi : Nat) :
    KeyRes (List UInt32 × Nat) := do
  let (values, esi) := st
  let eax := edi &&& 0x1F
  let ecx := esi &&& 0x1F
  let edx ← sub 3 (edi >>> 5)
  let location ← sub 12 ((esi >>> 5) <<< 2)
  let b0 ← index scopy location
  let b1 ← index scopy (location + 1)
  let b2 ← index scopy (location + 2)
  let b3 ← index scopy (location + 3)
  let shifted ← shrWord (wordOf b0 b1 b2 b3) ecx
  let ebp := shifted &&& 1
  let ckt ← index values edx
  let bit ← shlWord ebp eax
  let one ← shlWord 1 eax
  let values ← store values edx (bit ||| (~~~one &&& ckt))
  let esi ← add 64 esi 11
  return (values, if 120 ≤ esi then esi - 120 else esi)

/-- `decode_key_table`. -/
def decodeKeyTable (values : List UInt32) : KeyRes (List UInt32) := do
  let values ← keyRounds values 29 464
  let scopy := values.flatMap bytesOf
  let (values, _) ← (List.range 120).foldlM (moveBit scopy) (values, 0)
  return values

-- =================================================================== the values

/-- `u32::to_be_bytes`. -/
def beBytesOf (w : UInt32) : List UInt8 := (bytesOf w).reverse

/-- `u32::swap_bytes`. -/
def swapBytes (w : UInt32) : UInt32 :=
  match bytesOf w with
  | [a, b, c, d] => wordOf d c b a
  | _ => w

/-- What is taken from the table: the product, the public value, and
the private value of ten bytes. -/
def keyValues (values : List UInt32) : KeyRes (UInt32 × UInt32 × List UInt8) := do
  let v0 ← index values 0
  let product ← shrWord v0 10
  let be := values.flatMap beBytesOf
  let be2 ← index be 2
  let be3 ← index be 3
  let be4 ← index be 4
  let be5 ← index be 5
  let value1 := wordOf be2 be3 be4 be5 &&& 0xFFFFFF03
  let be6 ← index be 6
  let be7 ← index be 7
  let mid ← slice be 8 12
  let low ← slice be 12 16
  return (product, swapBytes value1, [be7, be6] ++ mid.reverse ++ low.reverse)

end Spectre.Bnet

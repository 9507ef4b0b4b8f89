/-
CD-keys (`cdkey.rs`).

A key is typed with dashes and spaces, which are taken out, and is one
of three kinds by its length: thirteen digits, or sixteen or twenty-six
characters out of an alphabet. The shorter kinds carry a checksum. What
the key stands for is hashed together with two tokens, the older kinds
by a hash of the house (`xsha1.rs`), the newest by SHA-1.

Everything that could go wrong on the way is checked here as the source
checks it or the machine would: indexes, shifts, overflow, and the cuts
through a string. The `i32` numbers of the source are never negative
where they are natural numbers here.
-/
import Spectre.CdKeyTable
import Spectre.Nls

namespace Spectre.Bnet

open Lib Lib.Checked
open Mpq (wordOf bytesOf)

-- ================================================================= characters

/-- The part of the Unicode tables that is asked for. -/
class CharTables where
  /-- `char::is_alphanumeric`. -/
  isAlphanumeric : Char → Bool
  /-- Of the ASCII characters these are the letters and digits. -/
  ascii : ∀ c : Char, c.toNat < 128 → isAlphanumeric c = c.isAlphanum

/-- The tables of one who asks for ASCII characters only. -/
@[reducible] def asciiTables : CharTables := ⟨Char.isAlphanum, fun _ _ => rfl⟩

/-- The length of a string, in bytes. -/
def utf8Len (chars : List Char) : Nat := (chars.map Char.utf8Size).sum

/-- `W3_KEY_MAP`. -/
def w3KeyMap : List UInt8 :=
  [0xFF, 0xFF, 0xFF, 0xFF, 0xFF, 0xFF, 0xFF, 0xFF, 0xFF, 0xFF, 0xFF, 0xFF, 0xFF, 0xFF, 0xFF, 0xFF,
   0xFF, 0xFF, 0xFF, 0xFF, 0xFF, 0xFF, 0xFF, 0xFF, 0xFF, 0xFF, 0xFF, 0xFF, 0xFF, 0xFF, 0xFF, 0xFF,
   0xFF, 0xFF, 0xFF, 0xFF, 0xFF, 0xFF, 0xFF, 0xFF, 0xFF, 0xFF, 0xFF, 0xFF, 0xFF, 0xFF, 0xFF, 0xFF,
   0xFF, 0xFF, 0x00, 0xFF, 0x01, 0xFF, 0x02, 0x03, 0x04, 0x05, 0xFF, 0xFF, 0xFF, 0xFF, 0xFF, 0xFF,
   0xFF, 0xFF, 0x06, 0x07, 0x08, 0x09, 0x0A, 0x0B, 0x0C, 0xFF, 0x0D, 0x0E, 0xFF, 0x0F, 0x10, 0xFF,
   0x11, 0xFF, 0x12, 0xFF, 0x13, 0xFF, 0x14, 0x15, 0x16, 0x17, 0x18, 0xFF, 0xFF, 0xFF, 0xFF, 0xFF,
   0xFF, 0xFF, 0x06, 0x07, 0x08, 0x09, 0x0A, 0x0B, 0x0C, 0xFF, 0x0D, 0x0E, 0xFF, 0x0F, 0x10, 0xFF,
   0x11, 0xFF, 0x12, 0xFF, 0x13, 0xFF, 0x14, 0x15, 0x16, 0x17, 0x18, 0xFF, 0xFF, 0xFF, 0xFF, 0xFF,
   0xFF, 0xFF, 0xFF, 0xFF, 0xFF, 0xFF, 0xFF, 0xFF, 0xFF, 0xFF, 0xFF, 0xFF, 0xFF, 0xFF, 0xFF, 0xFF,
   0xFF, 0xFF, 0xFF, 0xFF, 0xFF, 0xFF, 0xFF, 0xFF, 0xFF, 0xFF, 0xFF, 0xFF, 0xFF, 0xFF, 0xFF, 0xFF,
   0xFF, 0xFF, 0xFF, 0xFF, 0xFF, 0xFF, 0xFF, 0xFF, 0xFF, 0xFF, 0xFF, 0xFF, 0xFF, 0xFF, 0xFF, 0xFF,
   0xFF, 0xFF, 0xFF, 0xFF, 0xFF, 0xFF, 0xFF, 0xFF, 0xFF, 0xFF, 0xFF, 0xFF, 0xFF, 0xFF, 0xFF, 0xFF,
   0xFF, 0xFF, 0xFF, 0xFF, 0xFF, 0xFF, 0xFF, 0xFF, 0xFF, 0xFF, 0xFF, 0xFF, 0xFF, 0xFF, 0xFF, 0xFF,
   0xFF, 0xFF, 0xFF, 0xFF, 0xFF, 0xFF, 0xFF, 0xFF, 0xFF, 0xFF, 0xFF, 0xFF, 0xFF, 0xFF, 0xFF, 0xFF,
   0xFF, 0xFF, 0xFF, 0xFF, 0xFF, 0xFF, 0xFF, 0xFF, 0xFF, 0xFF, 0xFF, 0xFF, 0xFF, 0xFF, 0xFF, 0xFF,
   0xFF, 0xFF, 0xFF, 0xFF, 0xFF, 0xFF, 0xFF, 0xFF, 0xFF, 0xFF, 0xFF, 0xFF, 0xFF, 0xFF, 0xFF, 0xFF]

/-- `W2_MAP`. -/
def w2Map : List UInt8 :=
  [0xFF, 0xFF, 0xFF, 0xFF, 0xFF, 0xFF, 0xFF, 0xFF, 0xFF, 0xFF, 0xFF, 0xFF, 0xFF, 0xFF, 0xFF, 0xFF,
   0xFF, 0xFF, 0xFF, 0xFF, 0xFF, 0xFF, 0xFF, 0xFF, 0xFF, 0xFF, 0xFF, 0xFF, 0xFF, 0xFF, 0xFF, 0xFF,
   0xFF, 0xFF, 0xFF, 0xFF, 0xFF, 0xFF, 0xFF, 0xFF, 0xFF, 0xFF, 0xFF, 0xFF, 0xFF, 0xFF, 0xFF, 0xFF,
   0xFF, 0xFF, 0x00, 0xFF, 0x01, 0xFF, 0x02, 0x03, 0x04, 0x05, 0xFF, 0xFF, 0xFF, 0xFF, 0xFF, 0xFF,
   0xFF, 0xFF, 0x06, 0x07, 0x08, 0x09, 0x0A, 0x0B, 0x0C, 0xFF, 0x0D, 0x0E, 0xFF, 0x0F, 0x10, 0xFF,
   0x11, 0xFF, 0x12, 0xFF, 0x13, 0xFF, 0x14, 0x15, 0x16, 0xFF, 0x17, 0xFF, 0xFF, 0xFF, 0xFF, 0xFF,
   0xFF, 0xFF, 0x06, 0x07, 0x08, 0x09, 0x0A, 0x0B, 0x0C, 0xFF, 0x0D, 0x0E, 0xFF, 0x0F, 0x10, 0xFF,
   0x11, 0xFF, 0x12, 0xFF, 0x13, 0xFF, 0x14, 0x15, 0x16, 0xFF, 0x17, 0xFF, 0xFF, 0xFF, 0xFF, 0xFF,
   0xFF, 0xFF, 0xFF, 0xFF, 0xFF, 0xFF, 0xFF, 0xFF, 0xFF, 0xFF, 0xFF, 0xFF, 0xFF, 0xFF, 0xFF, 0xFF,
   0xFF, 0xFF, 0xFF, 0xFF, 0xFF, 0xFF, 0xFF, 0xFF, 0xFF, 0xFF, 0xFF, 0xFF, 0xFF, 0xFF, 0xFF, 0xFF,
   0xFF, 0xFF, 0xFF, 0xFF, 0xFF, 0xFF, 0xFF, 0xFF, 0xFF, 0xFF, 0xFF, 0xFF, 0xFF, 0xFF, 0xFF, 0xFF,
   0xFF, 0xFF, 0xFF, 0xFF, 0xFF, 0xFF, 0xFF, 0xFF, 0xFF, 0xFF, 0xFF, 0xFF, 0xFF, 0xFF, 0xFF, 0xFF,
   0xFF, 0xFF, 0xFF, 0xFF, 0xFF, 0xFF, 0xFF, 0xFF, 0xFF, 0xFF, 0xFF, 0xFF, 0xFF, 0xFF, 0xFF, 0xFF,
   0xFF, 0xFF, 0xFF, 0xFF, 0xFF, 0xFF, 0xFF, 0xFF, 0xFF, 0xFF, 0xFF, 0xFF, 0xFF, 0xFF, 0xFF, 0xFF,
   0xFF, 0xFF, 0xFF, 0xFF, 0xFF, 0xFF, 0xFF, 0xFF, 0xFF, 0xFF, 0xFF, 0xFF, 0xFF, 0xFF, 0xFF, 0xFF,
   0xFF, 0xFF, 0xFF, 0xFF, 0xFF, 0xFF, 0xFF, 0xFF, 0xFF, 0xFF, 0xFF, 0xFF, 0xFF, 0xFF, 0xFF, 0xFF]

-- ===================================================================== strings

/-- Whether bytes are UTF-8, at most `fuel` characters. -/
def validUtf8Aux : Nat → List UInt8 → Bool
  | _, [] => true
  | 0, _ :: _ => false
  | fuel + 1, b :: rest =>
      (utf8Next b rest).1 && validUtf8Aux fuel ((b :: rest).drop (utf8Next b rest).2)

/-- `std::str::from_utf8`. -/
def fromUtf8 (bytes : List UInt8) : KeyRes Text :=
  if validUtf8Aux bytes.length bytes then .ok bytes else .err .checksumFailed

/-- A slice of a string, which must not cut through a character. -/
def sliceStr (s : Text) (start stop : Nat) : KeyRes Text :=
  if isCharBoundary s start && isCharBoundary s stop then slice s start stop else .stuck

/-- A digit to the base sixteen. -/
def radixDigit (b : UInt8) : Option Nat :=
  if 48 ≤ b ∧ b ≤ 57 then some (b.toNat - 48)
  else if 65 ≤ b ∧ b ≤ 70 then some (b.toNat - 55)
  else if 97 ≤ b ∧ b ≤ 102 then some (b.toNat - 87)
  else none

/-- The value of digits to the base sixteen, or `none` at the first
other byte. -/
def radixValue (acc : Nat) : Text → Option Nat
  | [] => some acc
  | b :: rest => (radixDigit b).bind fun d => radixValue (acc * 16 + d) rest

/-- `u32::from_str_radix` with the radix sixteen. -/
def parseHex (t : Text) : Option Nat :=
  let digits := match t with
    | 43 :: rest => rest
    | _ => t
  if digits = [] then none else (radixValue 0 digits).filter (· < 2 ^ 32)

/-- A number read from a part of a string, by `parse` or
`from_str_radix`. -/
def number (parse : Text → Option Nat) (s : Text) (start stop : Nat) : KeyRes UInt32 := do
  let part ← sliceStr s start stop
  match parse part with
  | some n => return n.toUInt32
  | none => .err .checksumFailed

-- ================================================================= the two older

/-- The characters are put into an array from a place on, as long as
they are accepted. -/
def fillBytes (accepts : Char → KeyRes Bool) (bytes : List UInt8) (i : Nat) : List Char
    → KeyRes (List UInt8)
  | [] => return bytes
  | c :: rest => do
      let accepted ← accepts c
      let bytes ← (if accepted then store bytes i c.toNat.toUInt8 else .err (.invalidChar c))
      fillBytes accepts bytes (i + 1) rest

/-- A digit or value goes into the checksum. -/
def addToSum (bits accum digit : Nat) : KeyRes Nat := do
  let doubled ← mul bits accum 2
  add bits accum (digit ^^^ doubled)

/-- `swap` of an array. -/
def swapBytesAt (bytes : List UInt8) (i j : Nat) : KeyRes (List UInt8) := do
  let a ← index bytes i
  let b ← index bytes j
  let bytes ← store bytes i b
  store bytes j a

/-- The body of the last loop of both decoders: a character up to `7`
takes three bits of the number, `8` and `9` take the place's parity. -/
def unmask (st : List UInt8 × Nat) (j : Nat) : KeyRes (List UInt8 × Nat) := do
  let (bytes, hashKey) := st
  let temp := asciiUpper (← index bytes j)
  let unmasked :=
    if temp ≤ 55 then (temp ^^^ (hashKey &&& 7).toUInt8, hashKey >>> 3)
    else if temp < 65 then (temp ^^^ (j.toUInt8 &&& 1), hashKey)
    else (temp, hashKey)
  let bytes ← store bytes j unmasked.1
  return (bytes, unmasked.2)

/-- The loop that reorders the thirteen digits. -/
def reorder13 (bytes : List UInt8) (pos i : Nat) : KeyRes (List UInt8) :=
  if 7 ≤ i then do
    let bytes ← swapBytesAt bytes pos (i % 0x0C)
    reorder13 bytes (pos - 1) (i - 0x11)
  else return bytes
termination_by i

/-- `decode_13_char_key`. -/
def decode13CharKey (key : List Char) : KeyRes (UInt32 × UInt32 × UInt32) := do
  let bytes ← fillBytes (fun c => .ok c.isDigit) (List.replicate 13 0) 0 key
  let accum ← (bytes.take 12).foldlM (fun accum b => do
    let digit ← sub (asciiLower b).toNat 48
    addToSum 31 accum digit) 3
  let checkDigit ← sub (← index bytes 12).toNat 48
  let _ ← (if accum % 10 = checkDigit then .ok () else .err .checksumFailed)
  let bytes ← reorder13 bytes 0x0B 0xC2
  let (bytes, _) ← (List.range 12).reverse.foldlM unmask (bytes, 0x13AC9741)
  let s ← fromUtf8 bytes
  let product ← number (parseUInt 32) s 0 2
  let value1 ← number (parseUInt 32) s 2 9
  let value2 ← number (parseUInt 32) s 9 12
  return (product, value1, value2)

/-- `get_hex_value`. -/
def getHexValue (v : Nat) : UInt8 :=
  let v := v &&& 0xF
  if v < 10 then v.toUInt8 + 48 else (v - 10).toUInt8 + 65

/-- `get_num_value`. -/
def getNumValue (c : UInt8) : Nat :=
  let c := asciiUpper c
  if 48 ≤ c ∧ c ≤ 57 then (c - 48).toNat
  else if 65 ≤ c ∧ c ≤ 70 then (c - 65 + 10).toNat
  else 0

/-- Whether a character is in the alphabet of the sixteen. -/
def acceptsW2 (c : Char) : KeyRes Bool :=
  if 256 ≤ c.toNat then .ok false else do
    let entry ← index w2Map c.toNat
    return entry != 0xFF

/-- Two characters become two hexadecimal digits and a bit of the
checksum. -/
def joinPair (st : List UInt8 × Nat × Nat) (i : Nat) : KeyRes (List UInt8 × Nat × Nat) := do
  let (bytes, r, checksum) := st
  let c1 ← index w2Map (← index bytes i).toNat
  let n ← mul 32 c1.toNat 3
  let c2 ← index w2Map (← index bytes (i + 1)).toNat
  let n ← add 32 c2.toNat (← mul 32 n 8)
  let checksum := if 0x100 ≤ n then checksum ||| r else checksum
  let n ← (if 0x100 ≤ n then sub n 0x100 else .ok n)
  let n2 := n >>> 4
  let bytes ← store bytes i (getHexValue n2)
  let bytes ← store bytes (i + 1) (getHexValue n)
  let r ← shl 32 r 1
  return (bytes, r, checksum)

/-- The body of the loop that reorders the sixteen. -/
def reorder16 (bytes : List UInt8) (j : Nat) : KeyRes (List UInt8) := do
  let n ← (if 8 < j then sub j 9 else do sub 0xF (← sub 8 j))
  swapBytesAt bytes j (n &&& 0xF)

/-- `decode_16_char_key_components`. -/
def decode16CharKeyComponents (key : List Char) : KeyRes (UInt32 × UInt32 × UInt32) := do
  let bytes ← fillBytes acceptsW2 (List.replicate 16 0) 0 key
  let (bytes, _, checksum) ← ((List.range 8).map (2 * ·)).foldlM joinPair (bytes, 1, 0)
  let v ← bytes.foldlM (fun v c => addToSum 32 v (getNumValue c)) 3
  let _ ← (if v &&& 0xFF = checksum then .ok () else .err .checksumFailed)
  let bytes ← (List.range 16).reverse.foldlM reorder16 bytes
  let (bytes, _) ← (List.range 16).reverse.foldlM unmask (bytes, 0x13AC9741)
  let s ← fromUtf8 bytes
  let product ← number parseHex s 0 2
  let value1 ← number parseHex s 2 8
  let value2 ← number parseHex s 8 16
  return (product, value1, value2)

-- ================================================================== the newest

/-- A character of the twenty-six becomes two digits to the base five. -/
def placeChar (st : List Int8 × Nat) (c : Char) : KeyRes (List Int8 × Nat) := do
  let (table, b) := st
  let decode ← (if c.toNat < 256 then index w3KeyMap c.toNat else .err (.invalidChar c))
  let a := (← add 64 b 0x07B5) % 52
  let b := (← add 64 a 0x07B5) % 52
  let table ← store table a (decode.toInt8 / 5)
  let table ← store table b (decode.toInt8 % 5)
  return (table, b)

/-- The words, from the last one on, times five, and a digit added. -/
def mulAddWords (dcByte : Int32) : List UInt32 → KeyRes (List UInt32)
  | [] => return []
  | word :: rest => do
      let edxeax ← mul 63 word.toNat 5
      let sum := dcByte.toUInt32 + edxeax.toUInt32
      let rest ← mulAddWords (Int32.ofNat (edxeax >>> 32)) rest
      return sum :: rest

/-- A digit of the table goes into the words. -/
def addDigit (table : List Int8) (values : List UInt32) (i : Nat) : KeyRes (List UInt32) := do
  let dcByte ← index table i
  let words ← mulAddWords dcByte.toInt32 values.reverse
  return words.reverse

/-- `decode_26_char_key_components`. -/
def decode26CharKeyComponents (key : List Char) : KeyRes (UInt32 × UInt32 × List UInt8) := do
  let (table, _) ← key.foldlM placeChar (List.replicate 52 0, 0x21)
  let values ← (List.range 52).reverse.foldlM (addDigit table) [0, 0, 0, 0]
  let values ← decodeKeyTable values
  keyValues values

-- ==================================================================== the hash

/-- The five words of the hash of the house. -/
structure Words where
  a : UInt32
  b : UInt32
  c : UInt32
  d : UInt32
  e : UInt32

/-- `u32::rotate_left`. -/
def rotateLeft (w n : UInt32) : UInt32 := (w <<< n) ||| (w >>> (32 - n))

/-- The sixteen words of a chunk. -/
def chunkWords (chunk : List UInt8) : KeyRes (List UInt32) :=
  (List.range 16).mapM fun i => do
    return wordOf (← index chunk (i * 4)) (← index chunk (i * 4 + 1)) (← index chunk (i * 4 + 2))
      (← index chunk (i * 4 + 3))

/-- One of the words behind the sixteen. -/
def extend (w : List UInt32) (i : Nat) : KeyRes (List UInt32) := do
  let val := ((← index w i) ^^^ (← index w (i + 8)) ^^^ (← index w (i + 2))
    ^^^ (← index w (i + 13))) % 32
  store w (i + 16) (rotateLeft 1 val)

/-- One of the eighty rounds. -/
def houseRound (s : Words) (wi : UInt32 × Nat) : Words :=
  let (w, i) := wi
  let (f, k) :=
    if i ≤ 19 then ((s.b &&& s.c) ||| (~~~s.b &&& s.d), 0x5A827999)
    else if i ≤ 39 then (s.b ^^^ s.c ^^^ s.d, 0x6ED9EBA1)
    else if i ≤ 59 then ((s.b &&& s.c) ||| (s.b &&& s.d) ||| (s.c &&& s.d), 0x8F1BBCDC)
    else (s.b ^^^ s.c ^^^ s.d, 0xCA62C1D6)
  let temp := rotateLeft s.a 5 + f + s.e + k + w
  { a := temp, b := s.a, c := rotateLeft s.b 30, d := s.c, e := s.d }

/-- One chunk. -/
def hashChunk (hash : Words) (chunk : List UInt8) : KeyRes Words := do
  let first ← chunkWords chunk
  let w ← (List.range 64).foldlM extend (first ++ List.replicate 64 0)
  let s := w.zipIdx.foldl houseRound hash
  return {
    a := hash.a + s.a, b := hash.b + s.b, c := hash.c + s.c, d := hash.d + s.d
    e := hash.e + s.e }

/-- The data, filled up with zeros to whole chunks, one at least. -/
def padded (data : List UInt8) : List UInt8 :=
  let rem := data.length % 64
  if rem ≠ 0 ∨ data = [] then
    data ++ List.replicate (if data = [] then 64 else 64 - rem) 0
  else data

/-- `chunks_exact(64)`. -/
def chunksExact (data : List UInt8) : List (List UInt8) :=
  (List.range (data.length / 64)).map fun k => (data.drop (64 * k)).take 64

/-- `xsha1`. -/
def xsha1 (data : List UInt8) : KeyRes (List UInt8) := do
  let hash ← (chunksExact (padded data)).foldlM hashChunk
    { a := 0x67452301, b := 0xEFCDAB89, c := 0x98BADCFE, d := 0x10325476, e := 0xC3D2E1F0 }
  return [hash.a, hash.b, hash.c, hash.d, hash.e].flatMap bytesOf

-- ===================================================================== the key

/-- `KeyType`. -/
inductive KeyType where
  | starCraft
  | warCraft2
  | warCraft3
deriving DecidableEq, Repr

/-- `CdKeyDecoder`. -/
structure CdKeyDecoder where
  keyType : KeyType
  product : UInt32
  publicValue : UInt32
  val2 : UInt32
  longVal2 : Option (List UInt8)
deriving DecidableEq

/-- `CdKeyInfo`. -/
structure CdKeyInfo where
  product : UInt32
  publicValue : UInt32
  val2 : UInt32
  longVal2 : Option (List UInt8)
  hash : List UInt8
deriving DecidableEq

section Decoding

variable [CharTables]

/-- The first loop: whether a character may stand in a key. -/
def allowed (c : Char) : Bool := CharTables.isAlphanumeric c || c == '-' || c == ' '

/-- The key without what is not alphanumeric. -/
def sanitized (cdkey : List Char) : List Char := cdkey.filter CharTables.isAlphanumeric

/-- `decode_key_components`, and `CdKeyDecoder::new`, which is that. -/
def decodeKeyComponents (cdkey : List Char) : KeyRes CdKeyDecoder := do
  let _ ← (match cdkey.find? (!allowed ·) with
    | some c => .err (.invalidChar c)
    | none => .ok ())
  let key := sanitized cdkey
  match utf8Len key with
  | 13 => do
      let (product, v1, v2) ← decode13CharKey key
      return { keyType := .starCraft, product, publicValue := v1, val2 := v2, longVal2 := none }
  | 16 => do
      let (product, v1, v2) ← decode16CharKeyComponents key
      return { keyType := .warCraft2, product, publicValue := v1, val2 := v2, longVal2 := none }
  | 26 => do
      let (product, v1, v2) ← decode26CharKeyComponents key
      return { keyType := .warCraft3, product, publicValue := v1, val2 := 0, longVal2 := some v2 }
  | other => .err (.invalidLength other)

variable [Sha1]

/-- `CdKeyDecoder::calculate_hash`. -/
def CdKeyDecoder.calculateHash (d : CdKeyDecoder) (clientToken serverToken : UInt32) :
    KeyRes (List UInt8) :=
  match d.keyType with
  | .starCraft | .warCraft2 =>
      xsha1 (bytesOf clientToken ++ bytesOf serverToken ++ bytesOf d.product
        ++ bytesOf d.publicValue
        ++ bytesOf 0 ++ bytesOf d.val2)
  | .warCraft3 => do
      let res := Sha1.digest (bytesOf clientToken ++ bytesOf serverToken ++ bytesOf d.product
        ++ bytesOf d.publicValue ++ d.longVal2.getD [])
      -- `copy_from_slice` into twenty bytes
      if res.length = 20 then return res else .stuck

/-- `decode_cd_key`. -/
def decodeCdKey (cdkey : List Char) (clientToken serverToken : UInt32) : KeyRes CdKeyInfo := do
  let decoder ← decodeKeyComponents cdkey
  let hash ← decoder.calculateHash clientToken serverToken
  return { product := decoder.product, publicValue := decoder.publicValue, val2 := decoder.val2,
           longVal2 := decoder.longVal2, hash }

end Decoding

end Spectre.Bnet

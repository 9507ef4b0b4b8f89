/-
The pieces of the Rust standard library the engine computes with,
at the byte level.

A Rust `String` is a sequence of UTF-8 bytes: `len` counts bytes,
slicing cuts between bytes (and panics inside a character), and
`eq_ignore_ascii_case` folds single bytes. So `Text` is a list of
bytes here, and nothing below decodes a character unless the source
does: `from_utf8_lossy` (how every string enters from the wire) and
`split_whitespace` (how a chat line becomes a command).

What rests on tables too large to restate — full Unicode lower-casing,
the alphanumeric class — and on float formatting is left to a class,
`RustStd`: every definition and theorem that meets it holds for every
implementation.
-/
import Mathlib.Algebra.GroupWithZero.Nat
import Mathlib.Data.List.Basic

namespace Spectre

/-- The bytes of a Rust `String`. -/
abbrev Text := List UInt8

/-- A string literal of the source, as its UTF-8 bytes. -/
def txt (s : String) : Text := s.toUTF8.toList

/-- The decimal digits of a number, as `format!` prints it. -/
def decimal (n : Nat) : Text := (Nat.toDigits 10 n).map fun c => c.toNat.toUInt8

/-- What the source takes from the standard library and this
development leaves open. -/
class RustStd where
  /-- `str::to_lowercase`, full Unicode. -/
  toLowercase : Text → Text
  /-- `s.chars().all(|c| c.is_alphanumeric())`. -/
  allAlphanumeric : Text → Bool
  /-- `format!("{:.2}", d.as_secs_f64())` of a duration in ms. -/
  seconds : Nat → Text
  /-- The iteration order of a `HashMap`, given its entries. -/
  hashOrder : {α : Type} → List α → List α
  /-- Iteration visits every entry exactly once. -/
  hashOrder_perm : ∀ {α : Type} (l : List α), (hashOrder l).Perm l

-- ===================================================== ASCII case and digits

/-- `u8::to_ascii_lowercase`. -/
def asciiLower (b : UInt8) : UInt8 := if 65 ≤ b ∧ b ≤ 90 then b + 32 else b

/-- `u8::to_ascii_uppercase`. -/
def asciiUpper (b : UInt8) : UInt8 := if 97 ≤ b ∧ b ≤ 122 then b - 32 else b

/-- `str::eq_ignore_ascii_case`. -/
def eqIgnoreAsciiCase (a b : Text) : Bool := a.map asciiLower == b.map asciiLower

/-- The value of a digit string, or `none` at the first non-digit. -/
def digitsValue (acc : Nat) : Text → Option Nat
  | [] => some acc
  | b :: rest =>
      if 48 ≤ b ∧ b ≤ 57 then digitsValue (acc * 10 + (b.toNat - 48)) rest else none

/-- `str::parse` at an unsigned type of `bits` bits: one optional `+`,
then at least one digit, and no overflow. -/
def parseUInt (bits : Nat) (t : Text) : Option Nat :=
  let digits := match t with
    | 43 :: rest => rest
    | _ => t
  if digits = [] then none
  else match digitsValue 0 digits with
    | some n => if n < 2 ^ bits then some n else none
    | none => none

-- ============================================================ UTF-8, lossily

/-- A continuation byte. -/
def isCont (b : UInt8) : Bool := 128 ≤ b && b ≤ 191

/-- The range the second byte must lie in, by the first: the rows of
the well-formed UTF-8 table for three- and four-byte characters. -/
def secondRange (b : UInt8) : UInt8 × UInt8 :=
  if b = 0xE0 then (0xA0, 0xBF)
  else if b = 0xED then (0x80, 0x9F)
  else if b = 0xF0 then (0x90, 0xBF)
  else if b = 0xF4 then (0x80, 0x8F)
  else (0x80, 0xBF)

/-- The length in bytes of the character a first byte announces, `0`
when no character starts with it. -/
def utf8Width (b : UInt8) : Nat :=
  if b < 0x80 then 1
  else if 0xC2 ≤ b ∧ b ≤ 0xDF then 2
  else if 0xE0 ≤ b ∧ b ≤ 0xEF then 3
  else if 0xF0 ≤ b ∧ b ≤ 0xF4 then 4
  else 0

/-- Reads one character: whether it is well formed, and how many bytes
it (or the maximal ill-formed part in its place) takes. -/
def utf8Next (b : UInt8) (rest : Text) : Bool × Nat :=
  let inRange (x : UInt8) := (secondRange b).1 ≤ x && x ≤ (secondRange b).2
  match utf8Width b, rest with
  | 1, _ => (true, 1)
  | 2, c :: _ => if isCont c then (true, 2) else (false, 1)
  | 3, c :: d :: _ =>
      if inRange c then (if isCont d then (true, 3) else (false, 2)) else (false, 1)
  | 3, [c] => if inRange c then (false, 2) else (false, 1)
  | 4, c :: d :: e :: _ =>
      if inRange c then
        (if isCont d then (if isCont e then (true, 4) else (false, 3)) else (false, 2))
      else (false, 1)
  | 4, [c, d] =>
      if inRange c then (if isCont d then (false, 3) else (false, 2)) else (false, 1)
  | 4, [c] => if inRange c then (false, 2) else (false, 1)
  | _, _ => (false, 1)

/-- U+FFFD. -/
def replacement : Text := [0xEF, 0xBF, 0xBD]

/-- `String::from_utf8_lossy` on at most `fuel` characters. -/
def fromUtf8LossyAux : Nat → List UInt8 → Text
  | 0, _ => []
  | _, [] => []
  | fuel + 1, b :: rest =>
      let (ok, n) := utf8Next b rest
      (if ok then (b :: rest).take n else replacement)
        ++ fromUtf8LossyAux fuel ((b :: rest).drop n)

/-- `String::from_utf8_lossy`: every ill-formed maximal part becomes
U+FFFD. -/
def fromUtf8Lossy (bytes : List UInt8) : Text := fromUtf8LossyAux bytes.length bytes

/-- `str::is_char_boundary`. -/
def isCharBoundary (t : Text) (i : Nat) : Bool :=
  i == t.length || (match t[i]? with
    | some b => !isCont b
    | none => false)

-- ================================================================ whitespace

/-- The byte length of the Unicode whitespace character at the head,
`0` when there is none. -/
def whitespaceLen : Text → Nat
  | 0xC2 :: 0x85 :: _ => 2
  | 0xC2 :: 0xA0 :: _ => 2
  | 0xE1 :: 0x9A :: 0x80 :: _ => 3
  | 0xE2 :: 0x81 :: 0x9F :: _ => 3
  | 0xE3 :: 0x80 :: 0x80 :: _ => 3
  | 0xE2 :: 0x80 :: c :: _ =>
      if (0x80 ≤ c ∧ c ≤ 0x8A) ∨ c = 0xA8 ∨ c = 0xA9 ∨ c = 0xAF then 3 else 0
  | b :: _ => if (9 ≤ b ∧ b ≤ 13) ∨ b = 32 then 1 else 0
  | [] => 0

/-- `split_whitespace` over the next `fuel` bytes, `word` being the
word read so far. -/
def splitWhitespaceAux : Nat → Text → Text → List Text
  | 0, word, _ => if word = [] then [] else [word]
  | _, word, [] => if word = [] then [] else [word]
  | fuel + 1, word, b :: rest =>
      let n := whitespaceLen (b :: rest)
      if n = 0 then splitWhitespaceAux fuel (word ++ [b]) rest
      else (if word = [] then [] else [word])
        ++ splitWhitespaceAux fuel [] ((b :: rest).drop n)

/-- `str::split_whitespace`. -/
def splitWhitespace (t : Text) : List Text := splitWhitespaceAux t.length [] t

/-- `args.join(" ")`. -/
def joinWith (sep : Text) : List Text → Text
  | [] => []
  | [t] => t
  | t :: rest => t ++ sep ++ joinWith sep rest

end Spectre

/-
The live stream of a game (`dotatv.rs`): the body bytes pushed so far,
cut into compressed frames that a viewer collects one after another.

Published bytes are dropped from the buffer now and then, so offsets
into it are relative to what has been dropped. `Feed` is the stream
without that bookkeeping: the pieces cut so far and the bytes behind
them. Every operation of the stream is one of its feed, whatever has
been dropped and whenever (`Carries`), and a feed says by its type that
its pieces are neither empty nor across a block boundary.

`flate2` is not part of the source: `Zlib` is what the source takes
from it.
-/
import Spectre.Wire
import Spectre.Lib.Crc

namespace Spectre

/-- `flate2`'s zlib: what the encoder makes of some bytes, the decoder
turns back into them. -/
class Zlib where
  /-- `ZlibEncoder` with the default level. -/
  compress : List UInt8 → List UInt8
  /-- `ZlibDecoder`; `none` on bytes that are no zlib stream. -/
  decompress : List UInt8 → Option (List UInt8)
  decompress_compress : ∀ bytes, decompress (compress bytes) = some bytes

namespace DotaTv

/-- `CHUNK_SIZE`. -/
def chunkSize : Nat := 8192

/-- `MAX_FRAME`. -/
def maxFrame : Nat := chunkSize

/-- `RAW_TRIM_KEEP`. -/
def rawTrimKeep : Nat := chunkSize

-- ================================================================== checksums

/-- The polynomial of CRC-32. -/
def crcPoly : UInt32 := 0xEDB88320

/-- One bit of `crc_table`'s inner loop. -/
def crcTableBit (c : UInt32) : UInt32 :=
  if c &&& 1 ≠ 0 then crcPoly ^^^ (c >>> 1) else c >>> 1

/-- `crc_table`. -/
def crcTable : List UInt32 := (List.range 256).map fun i => crcTableBit^[8] i.toUInt32

/-- `crc_push`. -/
def crcPush (t : List UInt32) (reg : UInt32) (data : List UInt8) : UInt32 :=
  data.foldl (fun reg b => t.getD ((reg ^^^ b.toUInt32) &&& (0xFF : UInt32)).toNat 0
    ^^^ (reg >>> 8))
    reg

/-- `crc32` of this module, by table. -/
def crc32 (data : List UInt8) : UInt32 := crcPush crcTable 0xFFFFFFFF data ^^^ 0xFFFFFFFF

/-- The lowest bit is set or not. -/
theorem and_one_ne_zero_iff (c : UInt32) : c &&& 1 ≠ 0 ↔ c &&& 1 = 1 := by
  rw [Lib.Crc.and_one_iff, Ne, ← UInt32.toNat_inj, UInt32.toNat_and]
  show ¬(c.toNat &&& 1) = 0 ↔ _
  rw [Nat.and_one_is_mod]
  omega

/-- One bit of the table is one bit of the division. -/
theorem crcTableBit_eq : crcTableBit = Lib.Crc.step crcPoly := by
  funext c
  unfold crcTableBit Lib.Crc.step
  simp only [and_one_ne_zero_iff]
  split
  · exact UInt32.xor_comm _ _
  · rfl

/-- An entry is eight of them. -/
theorem crcTable_get {i : Nat} (h : i < 256) :
    crcTable.getD i 0 = (Lib.Crc.step crcPoly)^[8] i.toUInt32 := by
  rw [← crcTableBit_eq, crcTable, List.getD_eq_getElem?_getD, List.getElem?_map,
    List.getElem?_range h]
  rfl

/-- So is a byte of the register. -/
theorem crcByte_eq (reg : UInt32) (b : UInt8) :
    crcByte reg b = (Lib.Crc.step crcPoly)^[8] (reg ^^^ b.toUInt32) := rfl

/-- The table does for a byte what the eight bit steps do. -/
theorem crcPush_crcTable (reg : UInt32) (data : List UInt8) :
    crcPush crcTable reg data = data.foldl crcByte reg := by
  unfold crcPush
  congr 1
  funext reg b
  have hlt : ((reg ^^^ b.toUInt32) &&& (0xFF : UInt32)).toNat < 256 := by
    rw [UInt32.toNat_and]
    exact Nat.lt_succ_of_le Nat.and_le_right
  rw [crcByte_eq, Lib.Crc.steps_eight, crcTable_get hlt]
  have hback : ((reg ^^^ b.toUInt32) &&& (0xFF : UInt32)).toNat.toUInt32
      = (reg ^^^ b.toUInt32) &&& (0xFF : UInt32) := UInt32.ofNat_toNat
  -- the byte itself lies in the part the table looks up
  have hhigh : (reg ^^^ b.toUInt32) >>> (8 : UInt32) = reg >>> 8 := by
    apply UInt32.toNat_inj.1
    rw [UInt32.shiftRight_xor, UInt32.toNat_xor, UInt32.toNat_shiftRight b.toUInt32]
    have hb : b.toUInt32.toNat >>> ((8 : UInt32).toNat % 32) = 0 := by
      show b.toNat >>> 8 = 0
      rw [Nat.shiftRight_eq_div_pow]
      exact Nat.div_eq_of_lt b.toNat_lt
    rw [hb, Nat.xor_zero]
  rw [hback, hhigh]

/-- The checksum of this module is the CRC-32 of `crc32fast`. -/
theorem crc32_eq (data : List UInt8) : crc32 data = Spectre.crc32 data := by
  rw [crc32, crcPush_crcTable, Spectre.crc32]

-- ================================================================= the stream

/-- `Chunk`: one frame. -/
structure Chunk where
  compressed : List UInt8
  validBytes : Nat
  crc : UInt32
deriving DecidableEq, Repr

/-- `Chunk::frame`: the frame as a viewer gets it. -/
def Chunk.frame (c : Chunk) : List UInt8 :=
  u16le c.compressed.length ++ u16le c.validBytes ++ u32le c.crc.toNat ++ c.compressed

/-- `DotaTvError`. -/
inductive DotaTvError where
  | chunkTooLarge (len : Nat)
deriving DecidableEq, Repr

/-- `DotaTvStream`; an `Instant` is a time in ms. -/
structure DotaTvStream where
  raw : List UInt8 := []
  rawBase : Nat := 0
  frames : List Chunk := []
  frameTimes : List Nat := []
  framedLen : Nat := 0
  prologue : List UInt8 := []
  prologueEnd : Nat := 0
  war3Version : UInt32
  build : UInt16
  tft : Bool
  crcReg : UInt32 := 0xFFFFFFFF
deriving DecidableEq, Repr

/-- The decompressed frames, one behind the other; `none` if one of them
is no zlib stream. -/
def inflate [Zlib] : List Chunk → Option (List UInt8)
  | [] => some []
  | c :: rest => do
      let bytes ← Zlib.decompress c.compressed
      let tail ← inflate rest
      some (bytes ++ tail)

namespace DotaTvStream

/-- `DotaTvStream::new`. -/
def new (war3Version : UInt32) (build : UInt16) (tft : Bool) : DotaTvStream :=
  { war3Version := war3Version, build := build, tft := tft }

/-- `for_126a`. -/
def for126a : DotaTvStream := new 26 6059 true

/-- `published_len`. -/
def publishedLen (s : DotaTvStream) : Nat := s.rawBase + s.framedLen

/-- `published_crc`. -/
def publishedCrc (s : DotaTvStream) : UInt32 := s.crcReg ^^^ 0xFFFFFFFF

/-- The bytes `pending_len` counts. -/
def pending (s : DotaTvStream) : List UInt8 := s.raw.drop s.framedLen

/-- `mark_prologue_end`. -/
def markPrologueEnd (s : DotaTvStream) : DotaTvStream :=
  { s with prologueEnd := s.rawBase + s.raw.length, prologue := s.raw }

/-- `push_body`. -/
def pushBody (s : DotaTvStream) (bytes : List UInt8) : DotaTvStream :=
  { s with raw := s.raw ++ bytes }

variable [Zlib]

/-- One turn of `flush`'s loop, with the instant it reads. -/
def cutFrame (s : DotaTvStream) (now : Nat) : Except DotaTvError DotaTvStream :=
  let startAbs := s.rawBase + s.framedLen
  let blockEnd := (startAbs / chunkSize + 1) * chunkSize
  let endAbs := min (min (s.rawBase + s.raw.length) blockEnd) (startAbs + maxFrame)
  let stop := endAbs - s.rawBase
  let slice := (s.raw.take stop).drop s.framedLen
  let compressed := Zlib.compress slice
  if chunkSize < compressed.length then .error (.chunkTooLarge compressed.length)
  else .ok
    { s with
      frames := s.frames ++ [⟨compressed, slice.length % 2 ^ 16, crc32 slice⟩]
      frameTimes := s.frameTimes ++ [now]
      crcReg := crcPush crcTable s.crcReg slice
      framedLen := stop }

/-- The loop of `flush`, for at most `fuel` frames; the clock gives the
instant read for each frame of the call. A frame that cannot be cut
stops it, with the frames before it kept. -/
def flushLoop (clock : Nat → Nat) : Nat → Nat → DotaTvStream →
    Except DotaTvError Nat × DotaTvStream
  | 0, cut, s => (.ok cut, s)
  | fuel + 1, cut, s =>
      if s.framedLen < s.raw.length then
        match s.cutFrame (clock cut) with
        | .error e => (.error e, s)
        | .ok t => flushLoop clock fuel (cut + 1) t
      else (.ok cut, s)

/-- The end of `flush`: published bytes are dropped from the buffer. -/
def trim (s : DotaTvStream) : DotaTvStream :=
  { s with raw := s.raw.drop s.framedLen, rawBase := s.rawBase + s.framedLen, framedLen := 0 }

/-- `flush`, with the decision to trim left open. Every turn of the loop
frames a byte, so the unframed ones are fuel enough. -/
def flushTrimming (trims : DotaTvStream → Bool) (s : DotaTvStream) (clock : Nat → Nat) :
    Except DotaTvError Nat × DotaTvStream :=
  match s.flushLoop clock (s.raw.length - s.framedLen) 0 with
  | (.error e, t) => (.error e, t)
  | (.ok cut, t) => (.ok cut, if trims t then t.trim else t)

/-- When `flush` trims. -/
def trimsNow (s : DotaTvStream) : Bool := rawTrimKeep < s.framedLen

/-- `flush`. -/
def flush (s : DotaTvStream) (clock : Nat → Nat) : Except DotaTvError Nat × DotaTvStream :=
  s.flushTrimming trimsNow clock

end DotaTvStream

-- =================================================================== the feed

/-- Pieces that follow each other from an offset on, none empty and none
across a multiple of the chunk size. -/
def Fits : Nat → List (List UInt8) → Prop
  | _, [] => True
  | off, p :: rest =>
      (0 < p.length ∧ off % chunkSize + p.length ≤ chunkSize) ∧ Fits (off + p.length) rest

/-- One more piece, which does not go across a boundary. -/
theorem fits_append {off : Nat} {pieces : List (List UInt8)} {p : List UInt8}
    (h : Fits off pieces) (hp : 0 < p.length)
    (hend : (off + pieces.flatten.length) % chunkSize + p.length ≤ chunkSize) :
    Fits off (pieces ++ [p]) := by
  induction pieces generalizing off with
  | nil =>
      exact ⟨⟨hp, hend⟩, trivial⟩
  | cons q rest ih =>
      refine ⟨h.1, ih h.2 ?_⟩
      rw [List.flatten_cons, List.length_append, ← Nat.add_assoc] at hend
      exact hend

/-- The stream as a viewer and a publisher see it: the pieces cut so
far, when each was cut, and the bytes not cut yet. -/
@[ext]
structure Feed where
  pieces : List (List UInt8)
  times : List Nat
  pending : List UInt8
  fits : Fits 0 pieces

namespace Feed

/-- The bytes of the pieces. -/
def body (f : Feed) : List UInt8 := f.pieces.flatten

/-- How much the next piece takes: up to the next block boundary. -/
def cutLen (f : Feed) : Nat := min f.pending.length (chunkSize - f.body.length % chunkSize)

/-- The next piece. -/
def next (f : Feed) : List UInt8 := f.pending.take f.cutLen

/-- Nothing published, nothing pushed. -/
def empty : Feed := ⟨[], [], [], trivial⟩

/-- More bytes behind the others. -/
def push (f : Feed) (bytes : List UInt8) : Feed := { f with pending := f.pending ++ bytes }

/-- The next piece is no longer than what there is. -/
theorem cutLen_le (f : Feed) : f.cutLen ≤ f.pending.length := Nat.min_le_left _ _

/-- The next piece is as long as it should be. -/
theorem next_length (f : Feed) : f.next.length = f.cutLen := by
  rw [next, List.length_take]
  exact Nat.min_eq_left f.cutLen_le

/-- It is not empty while bytes are pending. -/
theorem cutLen_pos {f : Feed} (h : f.pending ≠ []) : 0 < f.cutLen := by
  have hpending : 0 < f.pending.length := List.length_pos_iff.2 h
  have hblock : f.body.length % chunkSize < chunkSize := Nat.mod_lt _ (by decide)
  unfold cutLen
  omega

/-- The next piece is cut off. -/
def cut (f : Feed) (now : Nat) (h : f.pending ≠ []) : Feed where
  pieces := f.pieces ++ [f.next]
  times := f.times ++ [now]
  pending := f.pending.drop f.cutLen
  fits := by
    apply fits_append f.fits
    · rw [next_length]
      exact cutLen_pos h
    · rw [Nat.zero_add, next_length]
      show f.body.length % chunkSize + f.cutLen ≤ chunkSize
      have hblock : f.body.length % chunkSize < chunkSize := Nat.mod_lt _ (by decide)
      unfold cutLen
      omega

/-- Every pending byte is cut off, unless a piece is too large for a
frame. -/
def flushLoop [Zlib] (clock : Nat → Nat) : Nat → Nat → Feed → Except DotaTvError Nat × Feed
  | 0, cut, f => (.ok cut, f)
  | fuel + 1, cut, f =>
      if h : f.pending = [] then (.ok cut, f)
      else if chunkSize < (Zlib.compress f.next).length then
        (.error (.chunkTooLarge (Zlib.compress f.next).length), f)
      else flushLoop clock fuel (cut + 1) (f.cut (clock cut) h)

/-- `flush`, on the feed. -/
def flush [Zlib] (f : Feed) (clock : Nat → Nat) : Except DotaTvError Nat × Feed :=
  f.flushLoop clock f.pending.length 0

end Feed

-- ====================================================== the stream and its feed

section Refinement

variable [Zlib] {s : DotaTvStream} {f : Feed}

/-- The frame of a piece. -/
def Chunk.of (bytes : List UInt8) : Chunk :=
  ⟨Zlib.compress bytes, bytes.length % 2 ^ 16, crc32 bytes⟩

/-- A stream holds a feed, wherever its buffer starts. -/
structure Carries (s : DotaTvStream) (f : Feed) : Prop where
  frames : s.frames = f.pieces.map Chunk.of
  times : s.frameTimes = f.times
  inside : s.framedLen ≤ s.raw.length
  pending : s.pending = f.pending
  published : s.publishedLen = f.body.length
  crc : s.crcReg = f.body.foldl crcByte 0xFFFFFFFF

/-- A new stream holds nothing. -/
theorem carries_new (war3Version : UInt32) (build : UInt16) (tft : Bool) :
    Carries (.new war3Version build tft) .empty :=
  ⟨rfl, rfl, Nat.le_refl 0, rfl, rfl, rfl⟩

/-- The snapshot is beside the frames. -/
theorem Carries.markPrologueEnd (h : Carries s f) : Carries s.markPrologueEnd f :=
  ⟨h.frames, h.times, h.inside, h.pending, h.published, h.crc⟩

/-- Bytes that are pushed wait. -/
theorem Carries.pushBody (h : Carries s f) (bytes : List UInt8) :
    Carries (s.pushBody bytes) (f.push bytes) where
  frames := h.frames
  times := h.times
  inside := by
    show s.framedLen ≤ (s.raw ++ bytes).length
    rw [List.length_append]
    exact Nat.le_add_right_of_le h.inside
  pending := by
    show (s.raw ++ bytes).drop s.framedLen = f.pending ++ bytes
    rw [List.drop_append_of_le_length h.inside, ← h.pending]
    rfl
  published := h.published
  crc := h.crc

/-- What is dropped from the buffer has been framed. -/
theorem Carries.trim (h : Carries s f) : Carries s.trim f where
  frames := h.frames
  times := h.times
  inside := Nat.zero_le _
  pending := h.pending
  published := h.published
  crc := h.crc

/-- Framed and waiting bytes are all there have been. -/
theorem Carries.raw_length (h : Carries s f) :
    s.raw.length = s.framedLen + f.pending.length := by
  have hlen := congrArg List.length h.pending
  have hinside := h.inside
  rw [DotaTvStream.pending, List.length_drop] at hlen
  omega

/-- The slice a turn of the loop takes is the next piece. -/
theorem Carries.cutFrame_eq (h : Carries s f) (now : Nat) :
    s.cutFrame now =
      if chunkSize < (Zlib.compress f.next).length then
        .error (.chunkTooLarge (Zlib.compress f.next).length)
      else .ok
        { s with
          frames := s.frames ++ [Chunk.of f.next]
          frameTimes := s.frameTimes ++ [now]
          crcReg := crcPush crcTable s.crcReg f.next
          framedLen := s.framedLen + f.cutLen } := by
  have hraw := h.raw_length
  have hpub := h.published
  -- where the piece ends: at the end of the buffer or of the block
  have hstop : min (min (s.rawBase + s.raw.length)
      (((s.rawBase + s.framedLen) / chunkSize + 1) * chunkSize))
      (s.rawBase + s.framedLen + maxFrame) - s.rawBase = s.framedLen + f.cutLen := by
    unfold DotaTvStream.publishedLen at hpub
    rw [hpub, Feed.cutLen]
    unfold maxFrame chunkSize
    omega
  have hslice : (s.raw.take (s.framedLen + f.cutLen)).drop s.framedLen = f.next := by
    rw [List.drop_take, Nat.add_sub_cancel_left, Feed.next, ← h.pending]
    rfl
  unfold DotaTvStream.cutFrame
  simp only [hstop, hslice]
  rfl

/-- Cutting a frame is cutting a piece. -/
theorem Carries.cut (h : Carries s f) (now : Nat) (hp : f.pending ≠ []) :
    Carries
      { s with
        frames := s.frames ++ [Chunk.of f.next]
        frameTimes := s.frameTimes ++ [now]
        crcReg := crcPush crcTable s.crcReg f.next
        framedLen := s.framedLen + f.cutLen } (f.cut now hp) := by
  have hbody : (f.cut now hp).body = f.body ++ f.next := by
    show (f.pieces ++ [f.next]).flatten = f.pieces.flatten ++ f.next
    rw [List.flatten_append, List.flatten_singleton]
  exact
    { frames := by
        show s.frames ++ [Chunk.of f.next] = (f.pieces ++ [f.next]).map Chunk.of
        rw [List.map_append, ← h.frames, List.map_singleton]
      times := by
        show s.frameTimes ++ [now] = f.times ++ [now]
        rw [h.times]
      inside := by
        show s.framedLen + f.cutLen ≤ s.raw.length
        rw [h.raw_length]
        exact Nat.add_le_add_left f.cutLen_le _
      pending := by
        show s.raw.drop (s.framedLen + f.cutLen) = f.pending.drop f.cutLen
        rw [← List.drop_drop, ← h.pending]
        rfl
      published := by
        rw [hbody, List.length_append, f.next_length, ← h.published]
        show s.rawBase + (s.framedLen + f.cutLen) = s.rawBase + s.framedLen + f.cutLen
        rw [Nat.add_assoc]
      crc := by
        show crcPush crcTable s.crcReg f.next = _
        rw [hbody, List.foldl_append, crcPush_crcTable, h.crc] }

/-- The loop, turn by turn. -/
theorem Carries.flushLoop (clock : Nat → Nat) (fuel cut : Nat) (h : Carries s f) :
    (s.flushLoop clock fuel cut).1 = (f.flushLoop clock fuel cut).1
      ∧ Carries (s.flushLoop clock fuel cut).2 (f.flushLoop clock fuel cut).2 := by
  induction fuel generalizing s f cut with
  | zero => exact ⟨rfl, h⟩
  | succ fuel ih =>
      have hraw := h.raw_length
      unfold DotaTvStream.flushLoop Feed.flushLoop
      by_cases hp : f.pending = []
      · rw [hp] at hraw
        rw [dif_pos hp, if_neg (by rw [hraw]; exact Nat.lt_irrefl _)]
        exact ⟨rfl, h⟩
      · have hpos : 0 < f.pending.length := List.length_pos_iff.2 hp
        rw [dif_neg hp, if_pos (by omega), h.cutFrame_eq]
        by_cases hbig : chunkSize < (Zlib.compress f.next).length
        · rw [if_pos hbig, if_pos hbig]
          exact ⟨rfl, h⟩
        · rw [if_neg hbig, if_neg hbig]
          exact ih (cut + 1) (h.cut (clock cut) hp)

/-- `flush` on the stream is `flush` on its feed, whatever is trimmed. -/
theorem Carries.flushTrimming (h : Carries s f) (trims : DotaTvStream → Bool)
    (clock : Nat → Nat) :
    (s.flushTrimming trims clock).1 = (f.flush clock).1
      ∧ Carries (s.flushTrimming trims clock).2 (f.flush clock).2 := by
  have hfuel : s.raw.length - s.framedLen = f.pending.length := by
    rw [h.raw_length, Nat.add_sub_cancel_left]
  obtain ⟨hres, hcarries⟩ := h.flushLoop clock f.pending.length 0
  unfold DotaTvStream.flushTrimming Feed.flush
  rw [hfuel]
  generalize s.flushLoop clock f.pending.length 0 = r at hres hcarries
  obtain ⟨r, t⟩ := r
  cases r with
  | error e => exact ⟨hres, hcarries⟩
  | ok cut =>
      refine ⟨hres, ?_⟩
      show Carries (if trims t = true then t.trim else t) _
      by_cases ht : trims t = true
      · rw [if_pos ht]
        exact hcarries.trim
      · rw [if_neg ht]
        exact hcarries

end Refinement

-- ======================================================================= runs

/-- A call on the stream. -/
inductive StreamCall where
  | push (bytes : List UInt8)
  | flush (clock : Nat → Nat)

/-- The bytes some calls push. -/
def pushedBy : List StreamCall → List UInt8
  | [] => []
  | .push bytes :: rest => bytes ++ pushedBy rest
  | .flush _ :: rest => pushedBy rest

section Runs

variable [Zlib]

/-- One call, with the decision to trim left open. -/
def DotaTvStream.callTrimming (trims : DotaTvStream → Bool) (s : DotaTvStream) :
    StreamCall → Except DotaTvError Nat × DotaTvStream
  | .push bytes => (.ok 0, s.pushBody bytes)
  | .flush clock => s.flushTrimming trims clock

/-- Calls one after another, each with its own decision to trim, and
what they return. -/
def DotaTvStream.runTrimming : List ((DotaTvStream → Bool) × StreamCall) → DotaTvStream →
    List (Except DotaTvError Nat) × DotaTvStream
  | [], s => ([], s)
  | (trims, c) :: rest, s =>
      let r := s.callTrimming trims c
      let rs := runTrimming rest r.2
      (r.1 :: rs.1, rs.2)

/-- Calls one after another. -/
def DotaTvStream.run (calls : List StreamCall) (s : DotaTvStream) :
    List (Except DotaTvError Nat) × DotaTvStream :=
  s.runTrimming (calls.map fun c => (DotaTvStream.trimsNow, c))

/-- One call on the feed. -/
def Feed.call (f : Feed) : StreamCall → Except DotaTvError Nat × Feed
  | .push bytes => (.ok 0, f.push bytes)
  | .flush clock => f.flush clock

/-- Calls on the feed. -/
def Feed.run : List StreamCall → Feed → List (Except DotaTvError Nat) × Feed
  | [], f => ([], f)
  | c :: rest, f =>
      let r := f.call c
      let rs := run rest r.2
      (r.1 :: rs.1, rs.2)

/-- Every call does to the stream what it does to the feed. -/
theorem Carries.callTrimming {s : DotaTvStream} {f : Feed} (h : Carries s f)
    (trims : DotaTvStream → Bool) (c : StreamCall) :
    (s.callTrimming trims c).1 = (f.call c).1
      ∧ Carries (s.callTrimming trims c).2 (f.call c).2 := by
  cases c with
  | push bytes => exact ⟨rfl, h.pushBody bytes⟩
  | flush clock => exact h.flushTrimming trims clock

/-- A run on the stream is a run on its feed, whenever it trims. -/
theorem Carries.runTrimming (calls : List ((DotaTvStream → Bool) × StreamCall))
    {s : DotaTvStream} {f : Feed} (h : Carries s f) :
    (s.runTrimming calls).1 = (f.run (calls.map Prod.snd)).1
      ∧ Carries (s.runTrimming calls).2 (f.run (calls.map Prod.snd)).2 := by
  induction calls generalizing s f with
  | nil => exact ⟨rfl, h⟩
  | cons c rest ih =>
      obtain ⟨hres, hcarries⟩ := h.callTrimming c.1 c.2
      obtain ⟨hrest, hend⟩ := ih hcarries
      refine ⟨?_, hend⟩
      show (s.callTrimming c.1 c.2).1 :: _ = (f.call c.2).1 :: _
      rw [hres, hrest]

/-- So do calls one after another. -/
theorem Carries.run (calls : List StreamCall) {s : DotaTvStream} {f : Feed} (h : Carries s f) :
    (s.run calls).1 = (f.run calls).1 ∧ Carries (s.run calls).2 (f.run calls).2 := by
  have hmap : (calls.map fun c => (DotaTvStream.trimsNow, c)).map Prod.snd = calls := by
    rw [List.map_map]
    exact List.map_id calls
  have hrun := h.runTrimming (calls.map fun c => (DotaTvStream.trimsNow, c))
  rw [hmap] at hrun
  exact hrun

-- --------------------------------------------------------------- on the feed

/-- A flush neither loses nor repeats a byte, and keeps the pieces. -/
theorem Feed.flushLoop_keeps (clock : Nat → Nat) (fuel cut : Nat) (f : Feed) :
    (f.flushLoop clock fuel cut).2.body ++ (f.flushLoop clock fuel cut).2.pending
        = f.body ++ f.pending
      ∧ f.pieces <+: (f.flushLoop clock fuel cut).2.pieces := by
  induction fuel generalizing f cut with
  | zero => exact ⟨rfl, List.prefix_refl _⟩
  | succ fuel ih =>
      unfold Feed.flushLoop
      by_cases hp : f.pending = []
      · rw [dif_pos hp]
        exact ⟨rfl, List.prefix_refl _⟩
      · rw [dif_neg hp]
        split
        · exact ⟨rfl, List.prefix_refl _⟩
        · obtain ⟨hbytes, hpieces⟩ := ih (cut + 1) (f.cut (clock cut) hp)
          refine ⟨?_, (List.prefix_append f.pieces [f.next]).trans hpieces⟩
          rw [hbytes]
          show (f.pieces ++ [f.next]).flatten ++ f.pending.drop f.cutLen = f.body ++ f.pending
          rw [List.flatten_append, List.flatten_singleton, List.append_assoc, Feed.next,
            List.take_append_drop]
          rfl

/-- A flush that does not fail publishes everything. -/
theorem Feed.flushLoop_ok {clock : Nat → Nat} {fuel cut n : Nat} {f : Feed}
    (hfuel : f.pending.length ≤ fuel) (h : (f.flushLoop clock fuel cut).1 = .ok n) :
    (f.flushLoop clock fuel cut).2.pending = [] := by
  induction fuel generalizing f cut with
  | zero => exact List.eq_nil_of_length_eq_zero (Nat.le_zero.1 hfuel)
  | succ fuel ih =>
      unfold Feed.flushLoop at h ⊢
      by_cases hp : f.pending = []
      · rw [dif_pos hp]
        exact hp
      · rw [dif_neg hp] at h ⊢
        by_cases hbig : chunkSize < (Zlib.compress f.next).length
        · rw [if_pos hbig] at h
          cases h
        · rw [if_neg hbig] at h ⊢
          apply ih _ h
          -- a piece is never empty, so there is one byte less to cut
          have hpos := Feed.cutLen_pos hp
          show (f.pending.drop f.cutLen).length ≤ fuel
          rw [List.length_drop]
          omega

/-- What a flush that does not fail leaves. -/
theorem Feed.flush_ok {clock : Nat → Nat} {n : Nat} {f : Feed} (h : (f.flush clock).1 = .ok n) :
    (f.flush clock).2.pending = [] ∧ (f.flush clock).2.body = f.body ++ f.pending := by
  have hnone : (f.flush clock).2.pending = [] := Feed.flushLoop_ok (Nat.le_refl _) h
  have hkept := (Feed.flushLoop_keeps clock f.pending.length 0 f).1
  unfold Feed.flush at hnone ⊢
  rw [hnone, List.append_nil] at hkept
  exact ⟨hnone, hkept⟩

/-- There is nothing to flush when nothing is pending. -/
theorem Feed.flushLoop_nil {f : Feed} (h : f.pending = []) (clock : Nat → Nat) (fuel cut : Nat) :
    f.flushLoop clock fuel cut = (.ok cut, f) := by
  cases fuel with
  | zero => rfl
  | succ fuel =>
      unfold Feed.flushLoop
      rw [dif_pos h]

/-- There is nothing to flush. -/
theorem Feed.flush_nil {f : Feed} (h : f.pending = []) (clock : Nat → Nat) :
    f.flush clock = (.ok 0, f) := Feed.flushLoop_nil h clock _ 0

/-- No byte is lost and none comes twice, and pieces stay what they are. -/
theorem Feed.run_keeps (calls : List StreamCall) (f : Feed) :
    (f.run calls).2.body ++ (f.run calls).2.pending = f.body ++ f.pending ++ pushedBy calls
      ∧ f.pieces <+: (f.run calls).2.pieces := by
  induction calls generalizing f with
  | nil => exact ⟨(List.append_nil _).symm, List.prefix_refl _⟩
  | cons c rest ih =>
      obtain ⟨hbytes, hpieces⟩ := ih (f.call c).2
      cases c with
      | push bytes =>
          refine ⟨hbytes.trans ?_, hpieces⟩
          show f.body ++ (f.pending ++ bytes) ++ pushedBy rest
            = f.body ++ f.pending ++ (bytes ++ pushedBy rest)
          rw [← List.append_assoc f.body, List.append_assoc]
      | flush clock =>
          obtain ⟨hflush, hmore⟩ := Feed.flushLoop_keeps clock f.pending.length 0 f
          refine ⟨hbytes.trans ?_, hmore.trans hpieces⟩
          exact congrArg (· ++ pushedBy rest) hflush

/-- Calls in two parts. -/
theorem Feed.run_append (calls more : List StreamCall) (f : Feed) :
    (f.run (calls ++ more)).2 = ((f.run calls).2.run more).2 := by
  induction calls generalizing f with
  | nil => rfl
  | cons c rest ih => exact ih (f.call c).2

-- ------------------------------------------------------- what a viewer can rely on

/-- The stream after some bytes have been pushed: what its frames hold,
how they lie, and what its counters say. -/
structure WellFramed (pushed : List UInt8) (s : DotaTvStream) : Prop where
  /-- The frames are the first bytes pushed. -/
  inflated : inflate s.frames = some (pushed.take s.publishedLen)
  published_le : s.publishedLen ≤ pushed.length
  published_sum : s.publishedLen = (s.frames.map Chunk.validBytes).sum
  published_crc : s.publishedCrc = Spectre.crc32 (pushed.take s.publishedLen)
  /-- Each frame holds between one byte and a chunk of them, within one
  block, with their checksum. -/
  frame : ∀ i c, s.frames[i]? = some c →
    ∃ bytes, Zlib.decompress c.compressed = some bytes ∧ c.validBytes = bytes.length
      ∧ 1 ≤ bytes.length ∧ bytes.length ≤ chunkSize ∧ c.crc = Spectre.crc32 bytes
      ∧ (((s.frames.take i).map Chunk.validBytes).sum + bytes.length - 1) / chunkSize
        = ((s.frames.take i).map Chunk.validBytes).sum / chunkSize
  /-- What has not been published is still there. -/
  pending : s.pending = pushed.drop s.publishedLen

/-- The frames decompress to the pieces. -/
theorem inflate_map_of (pieces : List (List UInt8)) :
    inflate (pieces.map Chunk.of) = some pieces.flatten := by
  induction pieces with
  | nil => rfl
  | cons p rest ih =>
      rw [List.map_cons, inflate, ih]
      show (Zlib.decompress (Zlib.compress p) >>= fun bytes => some (bytes ++ rest.flatten)) = _
      rw [Zlib.decompress_compress]
      rfl

/-- A fitting piece is no longer than a chunk, so its length survives
the 16 bits it is kept in. -/
theorem validBytes_of {p : List UInt8} (h : p.length ≤ chunkSize) :
    (Chunk.of p).validBytes = p.length := by
  show p.length % 2 ^ 16 = p.length
  unfold chunkSize at h
  omega

omit [Zlib] in
/-- Where a piece begins, and that it ends in the same block. -/
theorem fits_piece {off i : Nat} {pieces : List (List UInt8)} {p : List UInt8}
    (h : Fits off pieces) (hi : pieces[i]? = some p) :
    0 < p.length
      ∧ (off + ((pieces.take i).map List.length).sum) % chunkSize + p.length ≤ chunkSize := by
  induction pieces generalizing off i with
  | nil => cases hi
  | cons q rest ih =>
      cases i with
      | zero =>
          cases hi
          exact h.1
      | succ i =>
          rw [List.take_succ_cons, List.map_cons, List.sum_cons, ← Nat.add_assoc]
          exact ih h.2 hi

/-- A frame says how long its piece is. -/
theorem map_validBytes {off : Nat} {pieces : List (List UInt8)} (h : Fits off pieces) :
    (pieces.map Chunk.of).map Chunk.validBytes = pieces.map List.length := by
  rw [List.map_map]
  apply List.map_congr_left
  intro p hp
  obtain ⟨i, hi⟩ := List.mem_iff_getElem?.1 hp
  have hfit := (fits_piece h hi).2
  exact validBytes_of (by omega)

/-- What holds of a stream that carries a feed. -/
theorem Carries.wellFramed {s : DotaTvStream} {f : Feed} (h : Carries s f) :
    WellFramed (f.body ++ f.pending) s := by
  have htake : (f.body ++ f.pending).take s.publishedLen = f.body := by
    rw [h.published, List.take_left]
  have hlengths := map_validBytes f.fits
  exact
    { inflated := by
        rw [h.frames, inflate_map_of, htake]
        rfl
      published_le := by
        rw [h.published, List.length_append]
        exact Nat.le_add_right _ _
      published_sum := by
        rw [h.frames, hlengths, h.published, Feed.body, List.length_flatten]
      published_crc := by
        rw [htake, Spectre.crc32, ← h.crc]
        rfl
      frame := by
        intro i c hc
        rw [h.frames, List.getElem?_map] at hc
        obtain ⟨p, hp, rfl⟩ := Option.map_eq_some_iff.1 hc
        obtain ⟨hpos, hend⟩ := fits_piece f.fits hp
        have hle : p.length ≤ chunkSize := by omega
        have hoff : (s.frames.take i).map Chunk.validBytes = (f.pieces.take i).map List.length := by
          rw [List.map_take, h.frames, hlengths, List.map_take]
        rw [hoff]
        refine ⟨p, Zlib.decompress_compress p, validBytes_of hle, hpos, hle, crc32_eq p, ?_⟩
        rw [Nat.zero_add] at hend
        unfold chunkSize at hend ⊢
        omega
      pending := by
        rw [h.published, List.drop_left, h.pending] }

/-- What a viewer can rely on, whatever is pushed, whenever it is
flushed and however the flushes end. Frames once cut stay as they are;
a flush that succeeds publishes everything pushed; and nothing of this,
nor what the calls return, would change if the buffer were trimmed at
other times. -/
theorem dotaTv_stream_invariants (war3Version : UInt32) (build : UInt16) (tft : Bool)
    (calls : List StreamCall) :
    let fresh := DotaTvStream.new war3Version build tft
    let s := (fresh.run calls).2
    WellFramed (pushedBy calls) s
      ∧ (∀ more, s.frames <+: (fresh.run (calls ++ more)).2.frames)
      ∧ (∀ clock n, (s.flush clock).1 = .ok n →
          (s.flush clock).2.publishedLen = (pushedBy calls).length)
      ∧ ∀ trimming : List ((DotaTvStream → Bool) × StreamCall), trimming.map Prod.snd = calls →
          (fresh.runTrimming trimming).1 = (fresh.run calls).1
            ∧ (fresh.runTrimming trimming).2.frames = s.frames
            ∧ (fresh.runTrimming trimming).2.frameTimes = s.frameTimes
            ∧ (fresh.runTrimming trimming).2.publishedLen = s.publishedLen
            ∧ (fresh.runTrimming trimming).2.publishedCrc = s.publishedCrc
            ∧ (fresh.runTrimming trimming).2.pending = s.pending := by
  intro fresh s
  have hfresh : Carries fresh .empty := carries_new war3Version build tft
  obtain ⟨hres, hs⟩ := hfresh.run calls
  have hbytes := (Feed.run_keeps calls .empty).1
  refine ⟨?_, ?_, ?_, ?_⟩
  · have hwell := hs.wellFramed
    rw [hbytes] at hwell
    exact hwell
  · intro more
    -- later calls add frames behind those there are
    have hmore := (hfresh.run (calls ++ more)).2
    rw [Feed.run_append] at hmore
    rw [hs.frames, hmore.frames]
    exact (Feed.run_keeps more _).2.map Chunk.of
  · intro clock n hok
    obtain ⟨hfres, hflush⟩ := hs.flushTrimming DotaTvStream.trimsNow clock
    have hbody := (Feed.flush_ok (hfres.symm.trans hok)).2
    rw [hbytes] at hbody
    show (s.flushTrimming DotaTvStream.trimsNow clock).2.publishedLen = _
    rw [hflush.published, hbody]
    rfl
  · -- trimming drops bytes that were framed already, so no field that is read changes
    rintro trimming rfl
    obtain ⟨htres, ht⟩ := hfresh.runTrimming trimming
    refine ⟨htres.trans hres.symm, ht.frames.trans hs.frames.symm, ht.times.trans hs.times.symm,
      ht.published.trans hs.published.symm, ?_, ht.pending.trans hs.pending.symm⟩
    exact congrArg (· ^^^ 0xFFFFFFFF) (ht.crc.trans hs.crc.symm)

end Runs

-- ============================================================ a small compressor

/-- Runs of equal bytes, each as a count and a byte. -/
def packRuns : List UInt8 → List UInt8
  | [] => []
  | b :: rest =>
      match packRuns rest with
      | c :: d :: tail =>
          if d = b ∧ c < 255 then (c + 1) :: b :: tail else 1 :: b :: c :: d :: tail
      | other => 1 :: b :: other

/-- The bytes of some runs. -/
def unpackRuns : List UInt8 → Option (List UInt8)
  | [] => some []
  | [_] => none
  | c :: b :: rest => (unpackRuns rest).map fun tail => List.replicate c.toNat b ++ tail

/-- Runs give the bytes back. -/
theorem unpackRuns_packRuns (bytes : List UInt8) : unpackRuns (packRuns bytes) = some bytes := by
  induction bytes with
  | nil => rfl
  | cons b rest ih =>
      unfold packRuns
      split
      case h_1 c d tail heq =>
        rw [heq] at ih
        obtain ⟨more, hmore, hrest⟩ := Option.map_eq_some_iff.1 ih
        by_cases hjoin : d = b ∧ c < 255
        · obtain ⟨rfl, hc⟩ := hjoin
          have hcount : (c + 1).toNat = c.toNat + 1 := by
            have hlt : c.toNat < 255 := hc
            rw [UInt8.toNat_add]
            show (c.toNat + 1) % 256 = _
            omega
          rw [if_pos ⟨rfl, hc⟩, unpackRuns, hmore, Option.map_some, hcount, List.replicate_succ,
            List.cons_append, hrest]
        · rw [if_neg hjoin, unpackRuns, ih]
          rfl
      case h_2 other heq =>
        rw [unpackRuns, ih]
        rfl

/-- A `Zlib` to run examples with. -/
@[reducible] def runLength : Zlib := ⟨packRuns, unpackRuns, unpackRuns_packRuns⟩

end DotaTv

end Spectre

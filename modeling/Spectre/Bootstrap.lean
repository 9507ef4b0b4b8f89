/-
What a viewer starts from (`w3g.rs` and `DotaTvStream::bootstrap`): a
replay file that holds the prologue, padded with empty timeslots, and
the index of the frame the stream goes on with.

The prologue in the file is a snapshot `mark_prologue_end` took of the
stream's buffer, after the flush that published it. That flush trims a
buffer of more than a chunk, and the snapshot of a long prologue is then
of nothing.
-/
import Spectre.Framing
import Spectre.Publish

namespace Spectre.DotaTv

-- ================================================================ replay files

/-- `BLOCK_SIZE`. -/
def blockSize : Nat := 8192

/-- `HEADER_SIZE`. -/
def headerSize : Nat := 68

/-- `W3gWriter`. -/
structure W3gWriter where
  war3Version : UInt32
  build : UInt16
  tft : Bool
  replayLengthMs : Nat := 0

/-- `chunks_exact(BLOCK_SIZE)`. -/
def chunksExact (bytes : List UInt8) : List (List UInt8) :=
  (List.range (bytes.length / blockSize)).map fun i => (bytes.drop (i * blockSize)).take blockSize

/-- The fold of a CRC-32 to its low half. -/
def foldCrc (c : UInt32) : UInt32 := c ^^^ (c >>> (16 : UInt32))

/-- A compressed block behind its own header. -/
def blockBytes (block : List UInt8) : List UInt8 :=
  let bh := u16le block.length ++ u16le blockSize
  let crc1 := foldCrc (Spectre.crc32 (bh ++ u32le 0))
  let crc2 := foldCrc (Spectre.crc32 block)
  bh ++ u32le ((crc1 &&& (0xFFFF : UInt32)) ||| (crc2 <<< (16 : UInt32))).toNat ++ block

namespace W3gWriter

/-- The header of a file, but for its checksum. -/
def headerFields (w : W3gWriter) (declaredLen : Nat) (blocks : List (List UInt8)) : List UInt8 :=
  let fileSize := headerSize + (blocks.map List.length).sum + blocks.length * 8
  (txt "Warcraft III recorded game" ++ [0x1A, 0] ++ u32le headerSize ++ u32le fileSize ++ u32le 1
    ++ u32le declaredLen)
  ++ (u32le blocks.length
    ++ (txt (if w.tft then "PX3W" else "3RAW") ++ u32le w.war3Version.toNat ++ u16le w.build.toNat
      ++ u16le 0xC000 ++ u32le w.replayLengthMs))

/-- `emit`. -/
def emit [Zlib] (w : W3gWriter) (padded : List UInt8) (declaredLen : Nat) : List UInt8 :=
  let blocks := (chunksExact padded).map Zlib.compress
  let fields := w.headerFields declaredLen blocks
  fields ++ u32le (Spectre.crc32 (fields ++ u32le 0)).toNat ++ blocks.flatMap blockBytes

/-- `pack_chunk_aligned_declaring`. -/
def packChunkAlignedDeclaring [Zlib] (w : W3gWriter) (decompressed : List UInt8)
    (declaredLen : Nat) : Option (List UInt8) :=
  if decompressed.length % blockSize ≠ 0 then none
  else if decompressed.length < declaredLen then none
  else some (w.emit decompressed declaredLen)

end W3gWriter

/-- The little-endian number at the head of some bytes. -/
def readLe : List UInt8 → Nat
  | [] => 0
  | b :: rest => b.toNat + 256 * readLe rest

/-- The next blocks of a file, decompressed. -/
def inflateBlocks [Zlib] : Nat → List UInt8 → Option (List UInt8)
  | 0, _ => some []
  | n + 1, file => do
      let size := readLe (file.take 2)
      let bytes ← Zlib.decompress ((file.drop 8).take size)
      let rest ← inflateBlocks n (file.drop (8 + size))
      some (bytes ++ rest)

/-- The decompressed body of a replay file, as a reader finds it: the
number of blocks is in the header, their sizes in front of them. -/
def bodyOf [Zlib] (file : List UInt8) : Option (List UInt8) :=
  inflateBlocks (readLe ((file.drop 44).take 4)) (file.drop headerSize)

-- =================================================================== bootstrap

/-- `EMPTY_TIMESLOT`. -/
def emptyTimeslot : List UInt8 := [0x1F, 0x02, 0x00, 0x00, 0x00]

/-- The padding loop of `bootstrap`, for at most `fuel` timeslots. -/
def padTimeslots (aligned : Nat) : Nat → List UInt8 → List UInt8
  | 0, padded => padded
  | fuel + 1, padded =>
      if padded.length + emptyTimeslot.length ≤ aligned then
        padTimeslots aligned fuel (padded ++ emptyTimeslot)
      else padded

/-- `Vec::resize` with zeros. -/
def resize (bytes : List UInt8) (n : Nat) : List UInt8 :=
  bytes.take n ++ List.replicate (n - bytes.length) 0

/-- The resume loop of `bootstrap`: the first frame with the prefix
before it. -/
def resumeIndex (covers : Nat) : Nat → Nat → List Chunk → Nat
  | i, _, [] => i
  | i, covered, c :: rest =>
      if covers ≤ covered then i else resumeIndex covers (i + 1) (covered + c.validBytes) rest

/-- `bootstrap`; `none` is its `expect`. -/
def DotaTvStream.bootstrap [Zlib] (s : DotaTvStream) (replayLengthMs : Nat) :
    Option (List UInt8 × Nat) :=
  let covers := min s.prologueEnd s.publishedLen
  let writer : W3gWriter :=
    { war3Version := s.war3Version, build := s.build, tft := s.tft
      replayLengthMs := replayLengthMs }
  let aligned := (covers + chunkSize - 1) / chunkSize * chunkSize
  let padded := s.prologue.take (min covers s.prologue.length)
  let padded := resize (padTimeslots aligned aligned padded) aligned
  match writer.packChunkAlignedDeclaring padded aligned with
  | none => none
  | some file => some (file, resumeIndex covers 0 0 s.frames % 2 ^ 32)

-- ============================================================ reading a file back

section Reading

variable [Zlib]

/-- The documented worst case of deflate, generously: a block never
grows by much more than its own size. -/
def CompressBound : Prop := ∀ bytes, (Zlib.compress bytes).length ≤ 2 * bytes.length + 256

omit [Zlib] in
/-- Two bytes, read back. -/
theorem readLe_u16le {n : Nat} (h : n < 65536) : readLe (u16le n) = n := by
  obtain ⟨lo, hi, heq, hn⟩ := u16le_toNat h
  rw [heq]
  show lo.toNat + 256 * (hi.toNat + 256 * 0) = n
  omega

omit [Zlib] in
/-- Four bytes, read back. -/
theorem readLe_u32le {n : Nat} (h : n < 2 ^ 32) : readLe (u32le n) = n := by
  simp only [u32le, readLe, Nat.toUInt8_eq, UInt8.toNat_ofNat']
  omega

omit [Zlib] in
/-- A block begins with its length and has eight bytes of header. -/
theorem blockBytes_eq (block : List UInt8) :
    ∃ tail, blockBytes block = u16le block.length ++ tail ++ block ∧ tail.length = 6 :=
  ⟨u16le blockSize ++ _, by rw [blockBytes, List.append_assoc (u16le block.length)], rfl⟩

/-- Blocks are read back one by one. -/
theorem inflateBlocks_flatMap (chunks : List (List UInt8))
    (h : ∀ c ∈ chunks, (Zlib.compress c).length < 65536) :
    inflateBlocks chunks.length ((chunks.map Zlib.compress).flatMap blockBytes)
      = some chunks.flatten := by
  induction chunks with
  | nil => rfl
  | cons c rest ih =>
      have ih := ih fun d hd => h d (.tail _ hd)
      have hsize := h c (.head _)
      obtain ⟨tail, heq, htail⟩ := blockBytes_eq (Zlib.compress c)
      generalize hmore : (rest.map Zlib.compress).flatMap blockBytes = more at ih
      have hfile : ((c :: rest).map Zlib.compress).flatMap blockBytes
          = u16le (Zlib.compress c).length ++ (tail ++ (Zlib.compress c ++ more)) := by
        rw [List.map_cons, List.flatMap_cons, hmore, heq, List.append_assoc, List.append_assoc]
      have htwo : (u16le (Zlib.compress c).length).length = 2 := rfl
      have hread : readLe ((u16le (Zlib.compress c).length
          ++ (tail ++ (Zlib.compress c ++ more))).take 2) = (Zlib.compress c).length := by
        rw [List.take_left' htwo, readLe_u16le hsize]
      have hdrop : ∀ n, (u16le (Zlib.compress c).length
          ++ (tail ++ (Zlib.compress c ++ more))).drop (8 + n)
            = (Zlib.compress c ++ more).drop n := by
        intro n
        rw [← List.append_assoc, ← List.drop_drop]
        congr 1
        exact List.drop_left' (by rw [List.length_append, htwo, htail])
      rw [hfile, List.length_cons]
      unfold inflateBlocks
      simp only [hread]
      rw [hdrop, List.drop_left, show ∀ x : List UInt8, x.drop 8 = x.drop (8 + 0) from fun _ => rfl,
        hdrop, List.drop_zero, List.take_left, Zlib.decompress_compress, ih]
      rfl

omit [Zlib] in
/-- A header is 64 bytes without its checksum; the sizes and the number
of blocks stand in a row from offset 32. -/
theorem headerFields_eq (w : W3gWriter) (declaredLen : Nat) (blocks : List (List UInt8)) :
    ∃ front back, w.headerFields declaredLen blocks
        = front ++ (u32le (headerSize + (blocks.map List.length).sum + blocks.length * 8)
          ++ (u32le 1 ++ (u32le declaredLen ++ (u32le blocks.length ++ back))))
      ∧ front.length = 32 ∧ back.length = 16 := by
  have hmagic : (txt "Warcraft III recorded game").length = 26 := by decide +kernel
  have htag : (txt (if w.tft then "PX3W" else "3RAW")).length = 4 := by
    cases w.tft <;> decide +kernel
  refine ⟨txt "Warcraft III recorded game" ++ [0x1A, 0] ++ u32le headerSize,
    txt (if w.tft then "PX3W" else "3RAW") ++ u32le w.war3Version.toNat ++ u16le w.build.toNat
      ++ u16le 0xC000 ++ u32le w.replayLengthMs, ?_, ?_, ?_⟩
  · unfold W3gWriter.headerFields
    simp only [List.append_assoc]
  · simp only [List.length_append, hmagic]
    rfl
  · simp only [List.length_append, htag]
    rfl

omit [Zlib] in
/-- The number of blocks stands at offset 44. -/
theorem headerFields_blocks (w : W3gWriter) (declaredLen : Nat) (blocks : List (List UInt8)) :
    ∃ front back, w.headerFields declaredLen blocks = front ++ (u32le blocks.length ++ back)
      ∧ front.length = 44 ∧ back.length = 16 := by
  obtain ⟨front, back, hfields, hfront, hback⟩ := headerFields_eq w declaredLen blocks
  refine ⟨front ++ (u32le (headerSize + (blocks.map List.length).sum + blocks.length * 8)
    ++ (u32le 1 ++ u32le declaredLen)), back, ?_, ?_, hback⟩
  · rw [hfields]
    simp only [List.append_assoc]
  · simp only [List.length_append, hfront, u32le, List.length_cons, List.length_nil]

/-- A file holds the blocks it was written from. -/
theorem bodyOf_emit (w : W3gWriter) {padded : List UInt8} (declaredLen : Nat)
    (hcount : (chunksExact padded).length < 2 ^ 32)
    (hsize : ∀ c ∈ chunksExact padded, (Zlib.compress c).length < 65536) :
    bodyOf (w.emit padded declaredLen) = some (chunksExact padded).flatten := by
  obtain ⟨front, back, hfields, hfront, hback⟩ :=
    headerFields_blocks w declaredLen ((chunksExact padded).map Zlib.compress)
  have hemit : ∃ crc : UInt32, w.emit padded declaredLen
      = front ++ (u32le ((chunksExact padded).map Zlib.compress).length
          ++ (back ++ (u32le crc.toNat
            ++ ((chunksExact padded).map Zlib.compress).flatMap blockBytes))) := by
    refine ⟨Spectre.crc32 (w.headerFields declaredLen ((chunksExact padded).map Zlib.compress)
      ++ u32le 0), ?_⟩
    show w.headerFields declaredLen ((chunksExact padded).map Zlib.compress) ++ _ ++ _ = _
    rw [hfields, List.append_assoc, List.append_assoc, List.append_assoc]
  obtain ⟨crc, hemit⟩ := hemit
  rw [List.length_map] at hemit
  unfold bodyOf
  rw [hemit]
  generalize hblocks : ((chunksExact padded).map Zlib.compress).flatMap blockBytes = blocks
  have hread : readLe (((front ++ (u32le (chunksExact padded).length
      ++ (back ++ (u32le crc.toNat ++ blocks)))).drop 44).take 4)
        = (chunksExact padded).length := by
    have hfour : (u32le (chunksExact padded).length).length = 4 := rfl
    rw [List.drop_left' hfront, List.take_left' hfour, readLe_u32le hcount]
  have hdrop : (front ++ (u32le (chunksExact padded).length
      ++ (back ++ (u32le crc.toNat ++ blocks)))).drop headerSize = blocks := by
    rw [← List.append_assoc, ← List.append_assoc, ← List.append_assoc]
    apply List.drop_left'
    simp only [List.length_append, hfront, hback]
    rfl
  rw [hread, hdrop, ← hblocks]
  exact inflateBlocks_flatMap _ hsize

omit [Zlib] in
/-- Whole blocks, one after another. -/
theorem flatten_chunks (bytes : List UInt8) (k : Nat) :
    ((List.range k).map fun i => (bytes.drop (i * blockSize)).take blockSize).flatten
      = bytes.take (k * blockSize) := by
  induction k with
  | zero =>
      rw [Nat.zero_mul]
      rfl
  | succ k ih =>
      rw [List.range_succ, List.map_append, List.flatten_append, ih, List.map_singleton,
        List.flatten_singleton, ← List.take_add, Nat.succ_mul]

omit [Zlib] in
/-- Whole blocks lose nothing in `chunks_exact`. -/
theorem flatten_chunksExact {bytes : List UInt8} (h : bytes.length % blockSize = 0) :
    (chunksExact bytes).flatten = bytes := by
  rw [chunksExact, flatten_chunks, Nat.div_mul_cancel (Nat.dvd_of_mod_eq_zero h), List.take_length]

omit [Zlib] in
/-- So many blocks are whole. -/
theorem chunksExact_length (bytes : List UInt8) :
    (chunksExact bytes).length = bytes.length / blockSize := by
  rw [chunksExact, List.length_map, List.length_range]

omit [Zlib] in
/-- None is longer than a block. -/
theorem length_of_mem_chunksExact {bytes c : List UInt8} (h : c ∈ chunksExact bytes) :
    c.length ≤ blockSize := by
  obtain ⟨i, -, rfl⟩ := List.mem_map.1 h
  exact List.length_take_le _ _

/-- Whole blocks are written to a file and read back. -/
theorem bodyOf_pack (hbound : CompressBound) (w : W3gWriter) {padded : List UInt8}
    (haligned : padded.length % blockSize = 0) (hsmall : padded.length / blockSize < 2 ^ 32) :
    ∃ file, w.packChunkAlignedDeclaring padded padded.length = some file
      ∧ bodyOf file = some padded := by
  refine ⟨w.emit padded padded.length, ?_, ?_⟩
  · unfold W3gWriter.packChunkAlignedDeclaring
    rw [if_neg (fun h => h haligned), if_neg (Nat.lt_irrefl _)]
  · rw [bodyOf_emit, flatten_chunksExact haligned]
    · rw [chunksExact_length]
      exact hsmall
    · intro c hc
      have hlen := length_of_mem_chunksExact hc
      have hpacked := hbound c
      unfold blockSize at hlen
      omega

-- ==================================================================== the padding

omit [Zlib] in
/-- What the loop adds are empty timeslots, as many as fit. -/
theorem padTimeslots_eq (aligned fuel : Nat) (bytes : List UInt8) :
    ∃ k, padTimeslots aligned fuel bytes = bytes ++ (List.replicate k emptyTimeslot).flatten
      ∧ (bytes.length ≤ aligned → (padTimeslots aligned fuel bytes).length ≤ aligned)
      ∧ (aligned < bytes.length + 5 * (fuel + 1) →
          aligned < (padTimeslots aligned fuel bytes).length + 5) := by
  induction fuel generalizing bytes with
  | zero => exact ⟨0, (List.append_nil _).symm, fun h => h, fun h => h⟩
  | succ fuel ih =>
      have hfive : emptyTimeslot.length = 5 := rfl
      unfold padTimeslots
      by_cases hroom : bytes.length + emptyTimeslot.length ≤ aligned
      · obtain ⟨k, heq, hle, hfull⟩ := ih (bytes ++ emptyTimeslot)
        rw [List.length_append] at hle hfull
        rw [if_pos hroom]
        refine ⟨k + 1, ?_, fun _ => hle hroom, fun h => hfull (by omega)⟩
        rw [heq, List.replicate_succ, List.flatten_cons, List.append_assoc]
      · rw [if_neg hroom]
        exact ⟨0, (List.append_nil _).symm, fun h => h, fun _ => by omega⟩

omit [Zlib] in
/-- The padded body: the bytes, empty timeslots, and less than one more
of zeros. -/
theorem padded_eq {bytes : List UInt8} {aligned : Nat} (h : bytes.length ≤ aligned) :
    ∃ k z, resize (padTimeslots aligned aligned bytes) aligned
        = bytes ++ (List.replicate k emptyTimeslot).flatten ++ List.replicate z 0
      ∧ z < 5 ∧ (resize (padTimeslots aligned aligned bytes) aligned).length = aligned := by
  obtain ⟨k, heq, hle, hfull⟩ := padTimeslots_eq aligned aligned bytes
  have hle := hle h
  have hfull := hfull (by omega)
  refine ⟨k, aligned - (padTimeslots aligned aligned bytes).length, ?_, by omega, ?_⟩
  · rw [resize, List.take_of_length_le hle, heq]
  · rw [resize, List.length_append, List.length_take, List.length_replicate]
    omega

/-- The file of a padded body holds it. -/
theorem padded_pack (hbound : CompressBound) {bytes : List UInt8} {n : Nat}
    (h : bytes.length ≤ (n + chunkSize - 1) / chunkSize * chunkSize) (hn : n < 2 ^ 44)
    (w : W3gWriter) :
    ∃ file, w.packChunkAlignedDeclaring
        (resize (padTimeslots ((n + chunkSize - 1) / chunkSize * chunkSize)
          ((n + chunkSize - 1) / chunkSize * chunkSize) bytes)
          ((n + chunkSize - 1) / chunkSize * chunkSize))
        ((n + chunkSize - 1) / chunkSize * chunkSize) = some file
      ∧ bodyOf file = some
          (resize (padTimeslots ((n + chunkSize - 1) / chunkSize * chunkSize)
            ((n + chunkSize - 1) / chunkSize * chunkSize) bytes)
            ((n + chunkSize - 1) / chunkSize * chunkSize)) := by
  generalize haligned : (n + chunkSize - 1) / chunkSize * chunkSize = aligned at h ⊢
  obtain ⟨k, z, -, -, hlen⟩ := padded_eq h
  generalize resize (padTimeslots aligned aligned bytes) aligned = padded at hlen ⊢
  have hwhole : padded.length % blockSize = 0 := by
    rw [hlen, ← haligned]
    exact Nat.mul_mod_left _ _
  have hsmall : padded.length / blockSize < 2 ^ 32 := by
    rw [hlen, ← haligned]
    unfold chunkSize blockSize
    omega
  rw [← hlen]
  exact bodyOf_pack hbound w hwhole hsmall

end Reading

-- ================================================================== the snapshot

section Snapshot

variable [Zlib] {s : DotaTvStream} {f : Feed} {l : Live} {p : List UInt8}

/-- A flush leaves the snapshot alone, and trims nothing from a buffer
of at most a chunk. -/
theorem flushLoop_keeps (clock : Nat → Nat) (fuel cut : Nat) (s : DotaTvStream) :
    (s.flushLoop clock fuel cut).2.raw = s.raw
      ∧ (s.flushLoop clock fuel cut).2.rawBase = s.rawBase
      ∧ (s.flushLoop clock fuel cut).2.prologue = s.prologue
      ∧ (s.flushLoop clock fuel cut).2.prologueEnd = s.prologueEnd := by
  induction fuel generalizing s cut with
  | zero => exact ⟨rfl, rfl, rfl, rfl⟩
  | succ fuel ih =>
      unfold DotaTvStream.flushLoop
      split
      · unfold DotaTvStream.cutFrame
        dsimp only
        by_cases hbig : chunkSize < (Zlib.compress ((s.raw.take (min (min (s.rawBase + s.raw.length)
            (((s.rawBase + s.framedLen) / chunkSize + 1) * chunkSize))
            (s.rawBase + s.framedLen + maxFrame) - s.rawBase)).drop s.framedLen)).length
        · rw [if_pos hbig]
          exact ⟨rfl, rfl, rfl, rfl⟩
        · rw [if_neg hbig]
          exact ih _ _
      · exact ⟨rfl, rfl, rfl, rfl⟩

/-- A flush does not touch the snapshot. -/
theorem flush_prologue (s : DotaTvStream) (clock : Nat → Nat) :
    (s.flush clock).2.prologue = s.prologue ∧ (s.flush clock).2.prologueEnd = s.prologueEnd := by
  obtain ⟨-, -, hpro, hend⟩ := flushLoop_keeps clock (s.raw.length - s.framedLen) 0 s
  unfold DotaTvStream.flush DotaTvStream.flushTrimming
  generalize s.flushLoop clock (s.raw.length - s.framedLen) 0 = r at hpro hend
  obtain ⟨r, t⟩ := r
  cases r with
  | error e => exact ⟨hpro, hend⟩
  | ok n =>
      dsimp only
      split
      · exact ⟨hpro, hend⟩
      · exact ⟨hpro, hend⟩

/-- A stream of less than a chunk is not trimmed. -/
theorem Carries.flush_short (h : Carries s f) (hshort : s.raw.length ≤ chunkSize)
    (clock : Nat → Nat) :
    (s.flush clock).2.raw = s.raw ∧ (s.flush clock).2.rawBase = s.rawBase := by
  obtain ⟨hraw, hbase, -, -⟩ := flushLoop_keeps clock (s.raw.length - s.framedLen) 0 s
  have hinside := (h.flushLoop clock (s.raw.length - s.framedLen) 0).2.inside
  unfold DotaTvStream.flush DotaTvStream.flushTrimming
  generalize s.flushLoop clock (s.raw.length - s.framedLen) 0 = r at hraw hbase hinside
  obtain ⟨r, t⟩ := r
  cases r with
  | error e => exact ⟨hraw, hbase⟩
  | ok n =>
      dsimp only at hraw hinside ⊢
      rw [if_neg]
      · exact ⟨hraw, hbase⟩
      · -- no more is framed than the buffer holds
        rw [hraw] at hinside
        unfold DotaTvStream.trimsNow rawTrimKeep
        rw [decide_eq_true_iff]
        omega

/-- A turn of the loop that goes well. -/
theorem Feed.flushLoop_succ (hpending : f.pending ≠ [])
    (hpack : (Zlib.compress f.next).length ≤ chunkSize) (clock : Nat → Nat) (fuel cut : Nat) :
    f.flushLoop clock (fuel + 1) cut
      = (f.cut (clock cut) hpending).flushLoop clock fuel (cut + 1) := by
  conv => lhs; unfold Feed.flushLoop
  rw [dif_neg hpending, if_neg (Nat.not_lt.2 hpack)]

omit [Zlib] in
/-- The first piece of some bytes. -/
theorem Feed.push_next (p : List UInt8) :
    (Feed.empty.push p).next = p.take chunkSize
      ∧ p.drop (Feed.empty.push p).cutLen = p.drop chunkSize := by
  have hcut : (Feed.empty.push p).cutLen = min p.length chunkSize := by
    show min p.length (chunkSize - 0 % chunkSize) = _
    rw [Nat.zero_mod, Nat.sub_zero]
  refine ⟨?_, ?_⟩
  · show p.take (Feed.empty.push p).cutLen = _
    rw [hcut, List.take_eq_take_iff]
    omega
  · rw [hcut]
    by_cases h : p.length ≤ chunkSize
    · rw [Nat.min_eq_left h, List.drop_length, List.drop_of_length_le h]
    · rw [Nat.min_eq_right (Nat.le_of_not_le h)]

/-- A piece that fits one frame is one. -/
theorem Feed.flush_one (hp : p ≠ []) (hshort : p.length ≤ chunkSize)
    (hpack : (Zlib.compress p).length ≤ chunkSize) (clock : Nat → Nat) :
    ((Feed.empty.push p).flush clock).1 = .ok 1
      ∧ ((Feed.empty.push p).flush clock).2.pieces = [p] := by
  obtain ⟨hnext, hdrop⟩ := Feed.push_next p
  rw [List.take_of_length_le hshort] at hnext
  have hpending : (Feed.empty.push p).pending ≠ [] := hp
  have hrest : ((Feed.empty.push p).cut (clock 0) hpending).pending = [] :=
    hdrop.trans (List.drop_of_length_le hshort)
  obtain ⟨n, hn⟩ : ∃ n, (Feed.empty.push p).pending.length = n + 1 :=
    Nat.exists_eq_succ_of_ne_zero (fun h => hp (List.eq_nil_of_length_eq_zero h))
  unfold Feed.flush
  rw [hn, Feed.flushLoop_succ hpending (by rw [hnext]; exact hpack), Feed.flushLoop_nil hrest]
  refine ⟨rfl, ?_⟩
  show [] ++ [(Feed.empty.push p).next] = [p]
  rw [hnext]
  rfl

/-- Bytes of more than one chunk and at most two are two pieces. -/
theorem Feed.flush_two (hlong : chunkSize < p.length) (hshort : p.length ≤ 2 * chunkSize)
    (hfirst : (Zlib.compress (p.take chunkSize)).length ≤ chunkSize)
    (hsecond : (Zlib.compress (p.drop chunkSize)).length ≤ chunkSize) (clock : Nat → Nat) :
    ((Feed.empty.push p).flush clock).1 = .ok 2 := by
  obtain ⟨hnext, hdrop⟩ := Feed.push_next p
  have hpending : (Feed.empty.push p).pending ≠ [] := by
    show p ≠ []
    rintro rfl
    exact Nat.not_lt_zero _ hlong
  generalize hg : (Feed.empty.push p).cut (clock 0) hpending = g
  have hgpending : g.pending = p.drop chunkSize := by
    rw [← hg]
    exact hdrop
  have hgbody : g.body.length = chunkSize := by
    rw [← hg]
    show ([] ++ [(Feed.empty.push p).next]).flatten.length = chunkSize
    rw [hnext, List.nil_append, List.flatten_singleton, List.length_take]
    exact Nat.min_eq_left (Nat.le_of_lt hlong)
  have hlen : g.pending.length = p.length - chunkSize := by
    rw [hgpending, List.length_drop]
  -- the second piece starts a block, so it takes all that is left
  have hcut : g.cutLen = g.pending.length := by
    unfold Feed.cutLen
    rw [hgbody, Nat.mod_self, Nat.sub_zero, hlen]
    omega
  have hgnext : g.next = p.drop chunkSize := by
    rw [Feed.next, hcut, List.take_length, hgpending]
  have hgne : g.pending ≠ [] := by
    intro hnil
    rw [hnil, List.length_nil] at hlen
    omega
  have hrest : (g.cut (clock 1) hgne).pending = [] := by
    show g.pending.drop g.cutLen = []
    rw [hcut, List.drop_length]
  obtain ⟨n, hn⟩ : ∃ n, (Feed.empty.push p).pending.length = n + 2 := by
    refine ⟨p.length - 2, ?_⟩
    show p.length = p.length - 2 + 2
    unfold chunkSize at hlong
    omega
  unfold Feed.flush
  rw [hn, Feed.flushLoop_succ hpending (by rw [hnext]; exact hfirst), hg,
    Feed.flushLoop_succ hgne (by rw [hgnext]; exact hsecond), Feed.flushLoop_nil hrest]

/-- The stream's snapshot is its first piece. -/
structure Snapped (p : List UInt8) (s : DotaTvStream) : Prop where
  prologue : s.prologue = p
  prologueEnd : s.prologueEnd = p.length
  first : ∃ f rest, Carries s f ∧ f.pieces = p :: rest

/-- Later pieces come behind the first. -/
theorem Snapped.flush (h : Snapped p s) (bytes : List UInt8) (clock : Nat → Nat) :
    Snapped p ((s.pushBody bytes).flush clock).2 := by
  obtain ⟨f, rest, hcarries, hpieces⟩ := h.first
  obtain ⟨hpro, hend⟩ := flush_prologue (s.pushBody bytes) clock
  have hflush := ((hcarries.pushBody bytes).flushTrimming DotaTvStream.trimsNow clock).2
  obtain ⟨more, hmore⟩ := (Feed.flushLoop_keeps clock (f.push bytes).pending.length 0
    (f.push bytes)).2
  refine ⟨hpro.trans h.prologue, hend.trans h.prologueEnd, _, rest ++ more, hflush, ?_⟩
  rw [Feed.flush, ← hmore]
  show f.pieces ++ more = p :: (rest ++ more)
  rw [hpieces]
  rfl

/-- The prologue fits one frame, which is all `mark_prologue_end` asks
for. -/
def FitsOneFrame (p : List UInt8) : Prop :=
  p.length ≤ chunkSize ∧ (Zlib.compress p).length ≤ chunkSize

/-- Until the prologue is sent the stream is fresh; from then on its
snapshot is the prologue and its first frame. -/
structure Booted (p : List UInt8) (l : Live) : Prop where
  prologue : l.body.prologue = .ok p
  unsent : l.prologueSent = false →
    Carries l.shared.stream .empty ∧ l.shared.stream.raw = [] ∧ l.shared.stream.rawBase = 0
  sent : l.prologueSent = true → Snapped p l.shared.stream

/-- A send is a push and a flush, whatever comes of it. -/
theorem send_snd (l : Live) (bytes : List UInt8) (clock : Nat → Nat) :
    (l.send bytes clock).2
      = l.withStream ((l.shared.stream.pushBody bytes).flush clock).2 := by
  unfold Live.send
  generalize (l.shared.stream.pushBody bytes).flush clock = r
  obtain ⟨r, stream⟩ := r
  cases r <;> rfl

/-- It succeeds if the flush does. -/
theorem send_ok_of_flush {bytes : List UInt8} {clock : Nat → Nat} {n : Nat}
    (h : ((l.shared.stream.pushBody bytes).flush clock).1 = .ok n) :
    (l.send bytes clock).1 = .ok () := by
  unfold Live.send
  generalize (l.shared.stream.pushBody bytes).flush clock = r at h
  obtain ⟨r, stream⟩ := r
  cases h
  rfl

omit [Zlib] in
/-- After an error the run goes on where the failed call stopped. -/
theorem andThen_snd (r : Except DotaTvError Unit × Live)
    (next : Live → Except DotaTvError Unit × Live) :
    (Live.andThen r next).2 = r.2 ∨ (Live.andThen r next).2 = (next r.2).2 := by
  unfold Live.andThen
  cases r.1 with
  | error e => exact .inl rfl
  | ok u => exact .inr rfl

/-- Publishing blocks keeps the snapshot, whether or not it fails. -/
theorem Booted.publishBlocks (h : Booted p l) (hsent : l.prologueSent = true)
    (clock : Nat → Nat) : Booted p (l.publishBlocks clock).2 := by
  have hbeat : l.heartbeat.body.prologue = .ok p ∧ l.heartbeat.shared.stream = l.shared.stream := by
    obtain heq | ⟨pid, message, ms, heq⟩ := heartbeat_cases l
    · rw [heq]
      exact ⟨h.prologue, rfl⟩
    · rw [heq]
      exact ⟨h.prologue, rfl⟩
  have hsent' : l.heartbeat.prologueSent = true := (heartbeat_prologueSent l).trans hsent
  have hsnap : Snapped p l.afterDrain.shared.stream := by
    show Snapped p l.heartbeat.shared.stream
    rw [hbeat.2]
    exact h.sent hsent
  have hkeep : ∀ m : Live, m.body = l.heartbeat.body → m.prologueSent = l.heartbeat.prologueSent →
      Snapped p m.shared.stream → Booted p m := by
    intro m hbody hm hs
    refine ⟨hbody ▸ hbeat.1, fun hn => ?_, fun _ => hs⟩
    rw [hm, hsent'] at hn
    cases hn
  rw [publishBlocks_eq]
  split
  · exact hkeep _ rfl rfl hsnap
  · have hnext := hsnap.flush l.heartbeat.undrained clock
    obtain heq | heq := andThen_snd (l.afterDrain.send l.heartbeat.undrained clock)
      fun l => (.ok (), l.noteLength)
    · rw [heq, send_snd]
      exact hkeep _ rfl rfl hnext
    · rw [heq, send_snd]
      exact hkeep _ rfl rfl hnext

omit [Zlib] in
/-- A prologue is not empty. -/
theorem prologue_ne_nil {body : ReplayBody} (h : body.prologue = .ok p) : p ≠ [] := by
  unfold ReplayBody.prologue at h
  split at h
  · intro hnil
    rw [hnil, Except.ok.injEq] at h
    simp only [List.append_eq_nil_iff, List.append_assoc, List.cons_append, reduceCtorEq,
      and_false] at h
  · cases h

/-- The first call sends the prologue as one frame and takes its
snapshot before anything is trimmed. -/
theorem Booted.publishPending (h : Booted p l) (hfits : FitsOneFrame p)
    (clock : Nat → Nat → Nat) : Booted p (l.publishPending clock).2 := by
  by_cases hsent : l.prologueSent = true
  · unfold Live.publishPending
    rw [if_pos hsent]
    exact h.publishBlocks hsent _
  · have hunsent : l.prologueSent = false := Bool.eq_false_iff.2 hsent
    obtain ⟨hcarries, hraw, hbase⟩ := h.unsent hunsent
    have hp := prologue_ne_nil h.prologue
    have hpush := hcarries.pushBody p
    obtain ⟨hok, hpieces⟩ := Feed.flush_one hp hfits.1 hfits.2 (clock 0)
    obtain ⟨hres, hflush⟩ := hpush.flushTrimming DotaTvStream.trimsNow (clock 0)
    have hbuffer : (l.shared.stream.pushBody p).raw = p := by
      show l.shared.stream.raw ++ p = p
      rw [hraw, List.nil_append]
    obtain ⟨hraw', hbase'⟩ := hpush.flush_short (hbuffer.symm ▸ hfits.1) (clock 0)
    -- the flush does not fail, and the whole prologue is in the buffer after it
    have hsend : (l.send p (clock 0)).1 = .ok () := send_ok_of_flush (hres.trans hok)
    have hsnap : Snapped p
        ((l.shared.stream.pushBody p).flush (clock 0)).2.markPrologueEnd := by
      refine ⟨hraw'.trans hbuffer, ?_, _, [], hflush.markPrologueEnd, hpieces⟩
      show DotaTvStream.rawBase _ + List.length (DotaTvStream.raw _) = p.length
      rw [hraw', hbase', hbuffer]
      show l.shared.stream.rawBase + p.length = p.length
      rw [hbase, Nat.zero_add]
    have hnext : Booted p (l.send p (clock 0)).2.afterPrologue := by
      rw [send_snd]
      exact ⟨h.prologue, fun hn => Bool.noConfusion hn, fun _ => hsnap⟩
    rw [publishPending_unsent hunsent h.prologue]
    unfold Live.andThen
    rw [hsend]
    exact hnext.publishBlocks rfl _

/-- A viewer's flush finds nothing to do on a fresh stream. -/
theorem Booted.flushPending (h : Booted p l) (clock : Nat → Nat) :
    Booted p (l.flushPending clock) := by
  have hpush : l.shared.stream.pushBody [] = l.shared.stream := by
    unfold DotaTvStream.pushBody
    rw [List.append_nil]
  refine ⟨h.prologue, fun hn => ?_, fun hs => ?_⟩
  · obtain ⟨hcarries, hraw, hbase⟩ := h.unsent hn
    have hflush := (hcarries.flushTrimming DotaTvStream.trimsNow clock).2
    have hshort : l.shared.stream.raw.length ≤ chunkSize := by
      rw [hraw]
      exact Nat.zero_le _
    obtain ⟨hraw', hbase'⟩ := hcarries.flush_short hshort clock
    rw [Feed.flush_nil rfl] at hflush
    exact ⟨hflush, hraw'.trans hraw, hbase'.trans hbase⟩
  · have hsnap := (h.sent hs).flush [] clock
    rw [hpush] at hsnap
    exact hsnap

/-- Every operation keeps the snapshot. -/
theorem Booted.op (h : Booted p l) (hfits : FitsOneFrame p) (o : LiveOp) :
    Booted p (l.op o).2 := by
  cases o with
  | addTimeslot inc actions => exact ⟨h.prologue, h.unsent, h.sent⟩
  | addTimeslot2 actions => exact ⟨h.prologue, h.unsent, h.sent⟩
  | addChat pid flag extra message => exact ⟨h.prologue, h.unsent, h.sent⟩
  | addLeaver pid reason result => exact ⟨h.prologue, h.unsent, h.sent⟩
  | enableHeartbeat pid => exact ⟨h.prologue, h.unsent, h.sent⟩
  | flushPending clock => exact h.flushPending clock
  | publishPending clock => exact h.publishPending hfits clock

/-- So do operations one after another. -/
theorem Booted.run (ops : List LiveOp) (h : Booted p l) (hfits : FitsOneFrame p) :
    Booted p (l.run ops) := by
  induction ops generalizing l with
  | nil => exact h
  | cons o rest ih => exact ih (h.op hfits o)

-- ------------------------------------------------------------ what a viewer gets

/-- The frame to go on with is the second. -/
theorem resumeIndex_first (hp : p ≠ []) (hshort : p.length ≤ chunkSize) (rest : List Chunk) :
    resumeIndex p.length 0 0 (Chunk.of p :: rest) = 1 := by
  have hpos : 0 < p.length := List.length_pos_iff.2 hp
  unfold resumeIndex
  rw [if_neg (Nat.not_le.2 hpos), validBytes_of hshort, Nat.zero_add, Nat.zero_add]
  cases rest with
  | nil => rfl
  | cons c rest =>
      unfold resumeIndex
      exact if_pos (Nat.le_refl _)

/-- A bootstrap from a snapshot that is the first frame. -/
theorem Snapped.bootstrap (hbound : CompressBound) (h : Snapped p s) (hp : p ≠ [])
    (hshort : p.length ≤ chunkSize) (replayLengthMs : Nat) :
    ∃ file k z rest, s.bootstrap replayLengthMs = some (file, 1)
      ∧ bodyOf file = some (p ++ (List.replicate k emptyTimeslot).flatten ++ List.replicate z 0)
      ∧ z < 5
      ∧ inflate (s.frames.drop 1) = some rest ∧ inflate s.frames = some (p ++ rest) := by
  obtain ⟨f, rest, hcarries, hpieces⟩ := h.first
  have hpub : p.length ≤ s.publishedLen := by
    rw [hcarries.published, Feed.body, hpieces, List.flatten_cons, List.length_append]
    exact Nat.le_add_right _ _
  have hframes : s.frames = Chunk.of p :: rest.map Chunk.of := by
    rw [hcarries.frames, hpieces, List.map_cons]
  have hcovers : min s.prologueEnd s.publishedLen = p.length := by
    rw [h.prologueEnd]
    exact Nat.min_eq_left hpub
  have hle : p.length ≤ (p.length + chunkSize - 1) / chunkSize * chunkSize := by
    unfold chunkSize
    omega
  obtain ⟨k, z, hpadded, hz, hlen⟩ := padded_eq hle
  obtain ⟨file, hfile, hbody⟩ := padded_pack hbound hle (by unfold chunkSize at *; omega)
    { war3Version := s.war3Version, build := s.build, tft := s.tft
      replayLengthMs := replayLengthMs }
  have hserved : s.bootstrap replayLengthMs = some (file, 1 % 2 ^ 32) := by
    unfold DotaTvStream.bootstrap
    simp only [hcovers, h.prologue, Nat.min_self, List.take_length, hfile, hframes,
      resumeIndex_first hp hshort]
  refine ⟨file, k, z, rest.flatten, ?_, ?_, hz, ?_, ?_⟩
  · exact hserved
  · rw [hbody, hpadded]
  · rw [hframes, List.drop_succ_cons, List.drop_zero, inflate_map_of]
  · rw [hframes, ← List.map_cons, inflate_map_of, List.flatten_cons]

/-- Whatever is published, and however the calls end: a viewer who is
served (the server refuses before the first frame) gets the prologue
and padding, and the frames from the index it is given are the published
bytes behind the prologue. -/
theorem bootstrap_covers_stream (hbound : CompressBound) {body : ReplayBody}
    (hp : body.prologue = .ok p) (hfits : FitsOneFrame p) (shared : DotaTvShared)
    (war3Version : UInt32) (build : UInt16) (tft : Bool) (ops : List LiveOp)
    (replayLengthMs : Nat) :
    let s := ((Live.start shared war3Version build tft body).run ops).shared.stream
    s.frames ≠ [] →
      ∃ file resume k z rest, s.bootstrap replayLengthMs = some (file, resume)
        ∧ bodyOf file = some (p ++ (List.replicate k emptyTimeslot).flatten ++ List.replicate z 0)
        ∧ z < 5
        ∧ inflate (s.frames.drop resume) = some rest ∧ inflate s.frames = some (p ++ rest) := by
  intro s hserved
  have hstart : Booted p (Live.start shared war3Version build tft body) :=
    ⟨hp, fun _ => ⟨carries_new war3Version build tft, rfl, rfl⟩, fun hs => Bool.noConfusion hs⟩
  have hend := hstart.run ops hfits
  cases hsent : ((Live.start shared war3Version build tft body).run ops).prologueSent with
  | false =>
      -- nothing has been sent, so there is no frame to serve
      exact absurd (hend.unsent hsent).1.frames hserved
  | true =>
      obtain ⟨file, k, z, rest, hfile, hrest⟩ :=
        (hend.sent hsent).bootstrap hbound (prologue_ne_nil hp) hfits.1 replayLengthMs
      exact ⟨file, 1, k, z, rest, hfile, hrest⟩

-- ------------------------------------------------------------- a long prologue

/-- A flush of more than a chunk that does not fail leaves nothing in
the buffer. -/
theorem Carries.flush_long (h : Carries s f) (hlong : chunkSize < s.raw.length) {n : Nat}
    {clock : Nat → Nat} (hok : (s.flush clock).1 = .ok n) :
    (s.flush clock).2.raw = [] ∧ (s.flush clock).2.rawBase = s.rawBase + s.raw.length := by
  obtain ⟨hraw, hbase, -, -⟩ := flushLoop_keeps clock (s.raw.length - s.framedLen) 0 s
  obtain ⟨hres, hcarries⟩ := h.flushLoop clock (s.raw.length - s.framedLen) 0
  have hfuel : f.pending.length ≤ s.raw.length - s.framedLen := by
    rw [h.raw_length, Nat.add_sub_cancel_left]
  have hnone : ∀ m, (s.flushLoop clock (s.raw.length - s.framedLen) 0).1 = .ok m →
      (f.flushLoop clock (s.raw.length - s.framedLen) 0).2.pending = [] :=
    fun m hm => Feed.flushLoop_ok hfuel (hres.symm.trans hm)
  unfold DotaTvStream.flush DotaTvStream.flushTrimming at hok ⊢
  generalize s.flushLoop clock (s.raw.length - s.framedLen) 0 = r at hraw hbase hcarries hnone hok
  obtain ⟨r, t⟩ := r
  cases r with
  | error e => cases hok
  | ok m =>
      have hdone := hnone m rfl
      have hlen := hcarries.raw_length
      have hpending := hcarries.pending
      rw [hdone] at hlen hpending
      dsimp only at hraw hbase hlen hpending ⊢
      rw [hraw, List.length_nil, Nat.add_zero] at hlen
      -- all of the buffer is framed, so the trim is due and takes it all
      rw [if_pos]
      · refine ⟨hpending, ?_⟩
        show t.rawBase + t.framedLen = s.rawBase + s.raw.length
        rw [hbase, hlen]
      · unfold DotaTvStream.trimsNow rawTrimKeep
        rw [decide_eq_true_iff]
        omega

/-- Publishing blocks does not touch the snapshot. -/
theorem publishBlocks_prologue (l : Live) (clock : Nat → Nat) :
    (l.publishBlocks clock).2.shared.stream.prologue = l.shared.stream.prologue
      ∧ (l.publishBlocks clock).2.shared.stream.prologueEnd = l.shared.stream.prologueEnd := by
  have hbeat : l.afterDrain.shared.stream = l.shared.stream := by
    show l.heartbeat.shared.stream = l.shared.stream
    obtain heq | ⟨pid, message, ms, heq⟩ := heartbeat_cases l
    · rw [heq]
    · rw [heq]
  have hflush := flush_prologue (l.afterDrain.shared.stream.pushBody l.heartbeat.undrained) clock
  rw [publishBlocks_eq, ← hbeat]
  split
  · exact ⟨rfl, rfl⟩
  · obtain heq | heq := andThen_snd (l.afterDrain.send l.heartbeat.undrained clock)
      fun l => (.ok (), l.noteLength)
    · rw [heq, send_snd]
      exact hflush
    · rw [heq, send_snd]
      exact hflush

/-- With nothing but a prologue to publish, publishing it is all that can
fail. -/
theorem publishPending_ok (hsent : l.prologueSent = false) (hp : l.body.prologue = .ok p)
    (hrecords : l.body.records = []) (hquiet : l.shared.heartbeatEnabled = false)
    {clock : Nat → Nat → Nat} (hsend : (l.send p (clock 0)).1 = .ok ()) :
    (l.publishPending clock).1 = .ok () := by
  rw [publishPending_unsent hsent hp]
  unfold Live.andThen
  rw [hsend]
  dsimp only
  generalize hm : (l.send p (clock 0)).2.afterPrologue = m
  have hbeat : m.heartbeat = m := by
    unfold Live.heartbeat
    apply if_neg
    rw [← hm, send_snd]
    rintro ⟨hon, -⟩
    exact Bool.false_ne_true (hquiet.symm.trans hon)
  have hnone : m.undrained = [] := by
    rw [← hm, send_snd]
    show (l.body.records.flatMap ReplayRecord.bytes).drop l.published = []
    rw [hrecords]
    exact List.drop_nil
  rw [publishBlocks_eq, hbeat, if_pos hnone]

/-- The flush that publishes a long prologue trims it away before the
snapshot is taken. -/
theorem long_prologue_lost {shared : DotaTvShared} {war3Version : UInt32} {build : UInt16}
    {tft : Bool} {body : ReplayBody} {clock : Nat → Nat → Nat} (hp : body.prologue = .ok p)
    (hlong : chunkSize < p.length)
    (hok : ((Live.start shared war3Version build tft body).publishPending clock).1 = .ok ()) :
    let s := ((Live.start shared war3Version build tft body).publishPending clock).2.shared.stream
    s.prologue = [] ∧ s.prologueEnd = p.length := by
  intro s
  have hfresh : Carries (Live.start shared war3Version build tft body).shared.stream .empty :=
    carries_new war3Version build tft
  have hstate : s = ((Live.start shared war3Version build tft body).publishPending
    clock).2.shared.stream := rfl
  rw [publishPending_unsent rfl hp] at hok hstate
  obtain ⟨hsend, heq⟩ := andThen_ok hok
  have hflushed : ∃ n, (((Live.start shared war3Version build tft body).shared.stream.pushBody
      p).flush (clock 0)).1 = .ok n := by
    obtain ⟨stream, -, -, hresult⟩ := hfresh.send p (clock 0)
    obtain ⟨n, hn⟩ := hresult hsend
    exact ⟨n, ((hfresh.pushBody p).flushTrimming DotaTvStream.trimsNow (clock 0)).1.trans hn⟩
  obtain ⟨n, hn⟩ := hflushed
  obtain ⟨hraw, hbase⟩ := (hfresh.pushBody p).flush_long hlong hn
  rw [heq, send_snd] at hstate
  obtain ⟨hpro, hend⟩ := publishBlocks_prologue (((Live.start shared war3Version build tft
    body).withStream ((DotaTvStream.pushBody _ p).flush (clock 0)).2).afterPrologue) (clock 1)
  rw [hstate]
  generalize ((DotaTvStream.pushBody _ p).flush (clock 0)).2 = t at hraw hbase hpro hend
  refine ⟨hpro.trans hraw, hend.trans ?_⟩
  show t.rawBase + t.raw.length = p.length
  rw [hraw, hbase]
  exact Nat.zero_add _

/-- Without a snapshot the file of a bootstrap is padding. -/
theorem bootstrap_without_snapshot (hbound : CompressBound) (h : s.prologue = [])
    (hsmall : s.prologueEnd < 2 ^ 44) (replayLengthMs : Nat) :
    ∃ file resume k z, s.bootstrap replayLengthMs = some (file, resume)
      ∧ bodyOf file = some ((List.replicate k emptyTimeslot).flatten ++ List.replicate z 0) := by
  have hcovers : min s.prologueEnd s.publishedLen < 2 ^ 44 :=
    Nat.lt_of_le_of_lt (Nat.min_le_left _ _) hsmall
  have hnil : ([] : List UInt8).length
      ≤ (min s.prologueEnd s.publishedLen + chunkSize - 1) / chunkSize * chunkSize := Nat.zero_le _
  obtain ⟨k, z, hpadded, -, -⟩ := padded_eq hnil
  obtain ⟨file, hfile, hbody⟩ := padded_pack hbound hnil hcovers
    { war3Version := s.war3Version, build := s.build, tft := s.tft
      replayLengthMs := replayLengthMs }
  rw [hpadded] at hbody
  refine ⟨file, resumeIndex (min s.prologueEnd s.publishedLen) 0 0 s.frames % 2 ^ 32, k, z, ?_,
    hbody⟩
  unfold DotaTvStream.bootstrap
  simp only [h, List.take_nil, hfile]

end Snapshot

-- ======================================================================= a game

section Scenario

attribute [local instance] runLength

/-- A byte costs two at most. -/
theorem packRuns_cons_le (b : UInt8) (rest : List UInt8) :
    (packRuns (b :: rest)).length ≤ (packRuns rest).length + 2 := by
  rw [packRuns]
  split
  case h_1 c d tail heq =>
    rw [heq]
    split
    · exact Nat.le_add_right _ _
    · exact Nat.le_refl _
  case h_2 other heq => exact Nat.le_refl _

/-- So do many, in front of others. -/
theorem packRuns_append_le (a b : List UInt8) :
    (packRuns (a ++ b)).length ≤ 2 * a.length + (packRuns b).length := by
  induction a with
  | nil =>
      rw [List.nil_append]
      exact Nat.le_add_left _ _
  | cons x rest ih =>
      have hcons := packRuns_cons_le x (rest ++ b)
      rw [List.cons_append, List.length_cons]
      omega

/-- Runs stay within the bound. -/
theorem compressBound_runLength : CompressBound := by
  intro bytes
  have h := packRuns_append_le bytes []
  rw [List.append_nil] at h
  show (packRuns bytes).length ≤ 2 * bytes.length + 256
  exact Nat.le_trans h (Nat.add_le_add_left (Nat.zero_le 256) _)

/-- A run of one byte is packed in pieces of up to 255. -/
theorem packRuns_replicate (b : UInt8) (n : Nat) :
    ∃ c tail, packRuns (List.replicate (n + 1) b) = c :: b :: tail
      ∧ c.toNat = n % 255 + 1 ∧ tail.length = 2 * (n / 255) := by
  induction n with
  | zero => exact ⟨1, [], rfl, rfl, rfl⟩
  | succ n ih =>
      obtain ⟨c, tail, heq, hc, htail⟩ := ih
      rw [List.replicate_succ, packRuns, heq]
      dsimp only
      by_cases hroom : c < 255
      · have hlt : c.toNat < 255 := hroom
        rw [if_pos ⟨rfl, hroom⟩]
        refine ⟨c + 1, tail, rfl, ?_, ?_⟩
        · rw [UInt8.toNat_add]
          show (c.toNat + 1) % 256 = _
          omega
        · omega
      · have hge : 255 ≤ c.toNat := Nat.not_lt.1 hroom
        rw [if_neg (fun h => hroom h.2)]
        refine ⟨1, c :: b :: tail, rfl, ?_, ?_⟩
        · show 1 = _
          omega
        · rw [List.length_cons, List.length_cons, htail]
          omega

/-- The prologue of the small game. -/
def smallPrologue : List UInt8 :=
  match smallBody.prologue with
  | .ok p => p
  | .error _ => []

/-- The theorem at the small game of the publishing module. -/
theorem bootstrap_covers_stream_smallGame :
    CompressBound ∧ smallBody.prologue = .ok smallPrologue ∧ FitsOneFrame smallPrologue
      ∧ (smallLive.run smallOps).shared.stream.frames ≠ []
      ∧ ∃ file resume k z rest, (smallLive.run smallOps).shared.stream.bootstrap 6100
            = some (file, resume)
        ∧ bodyOf file = some
            (smallPrologue ++ (List.replicate k emptyTimeslot).flatten ++ List.replicate z 0)
        ∧ z < 5
        ∧ inflate ((smallLive.run smallOps).shared.stream.frames.drop resume) = some rest
        ∧ inflate (smallLive.run smallOps).shared.stream.frames = some (smallPrologue ++ rest) := by
  have hp : smallBody.prologue = .ok smallPrologue := by decide +kernel
  have hfits : FitsOneFrame smallPrologue := ⟨by decide +kernel, by decide +kernel⟩
  have hserved : (smallLive.run smallOps).shared.stream.frames ≠ [] := by decide +kernel
  exact ⟨compressBound_runLength, hp, hfits, hserved,
    bootstrap_covers_stream compressBound_runLength hp hfits
      { stream := .for126a, heartbeatEnabled := true } 26 6059 true smallOps 6100 hserved⟩

/-- The small game's body, but for the player's name. -/
def namedBody (name : Text) : ReplayBody := { smallBody with players := [(2, name)] }

/-- Its prologue before the name. -/
def namedFront : List UInt8 :=
  u32le 0x110 ++ [0, 1] ++ txt "host" ++ [0, 1, 0] ++ [] ++ [0, 0] ++ [] ++ [0] ++ u32le 1
    ++ u32le 0x1 ++ u32le 0x12F8B0 ++ [22, 2]

/-- Its prologue behind the name. -/
def namedBack : List UInt8 :=
  [0, 1, 0] ++ u32le 0 ++ [25] ++ u16le 16 ++ [1] ++ List.replicate 9 0 ++ u32le 1 ++ [0, 1]
    ++ 0x1A :: u32le 1 ++ 0x1B :: u32le 1 ++ [] ++ 0x1C :: u32le 1

/-- The prologue with any name in it. -/
theorem namedBody_prologue (name : Text) :
    (namedBody name).prologue = .ok (namedFront ++ (name ++ namedBack)) := by
  have hplayer : [((2 : UInt8), name)].flatMap ReplayBody.playerBlock
      = [22, 2] ++ name ++ [0, 1, 0] ++ u32le 0 := List.flatMap_singleton _ _
  have hfields : (namedBody name).prologue = .ok (u32le 0x110 ++ [0, 1] ++ txt "host" ++ [0, 1, 0]
      ++ [] ++ [0, 0] ++ [] ++ [0] ++ u32le 1 ++ u32le 0x1 ++ u32le 0x12F8B0
      ++ [((2 : UInt8), name)].flatMap ReplayBody.playerBlock
      ++ [25] ++ u16le 16 ++ [1] ++ List.replicate 9 0 ++ u32le 1 ++ [0, 1]
      ++ 0x1A :: u32le 1 ++ 0x1B :: u32le 1 ++ [] ++ 0x1C :: u32le 1) := rfl
  rw [hfields, hplayer]
  unfold namedFront namedBack
  simp only [List.append_assoc]

/-- A body with a player whose name is longer than a chunk: the engine
takes any name a join request brings. -/
def longBody : ReplayBody := namedBody (List.replicate 8200 97)

/-- The prologue of that body. -/
def longPrologue : List UInt8 := namedFront ++ (List.replicate 8200 97 ++ namedBack)

/-- It, on a fresh stream. -/
def longLive : Live := .start { stream := .for126a } 26 6059 true longBody

/-- It is longer than a chunk. -/
theorem longPrologue_length : longPrologue.length = 8271 := by
  have hfront : namedFront.length = 30 := by decide +kernel
  have hback : namedBack.length = 41 := by decide +kernel
  rw [longPrologue, List.length_append, List.length_append, List.length_replicate, hfront, hback]

/-- Its first chunk is nearly all one run. -/
theorem longPrologue_packs :
    (packRuns (longPrologue.take chunkSize)).length ≤ chunkSize := by
  have hfront : namedFront.length = 30 := by decide +kernel
  have htake : longPrologue.take chunkSize = namedFront ++ List.replicate (8161 + 1) 97 := by
    have hname : chunkSize - namedFront.length ≤ (List.replicate 8200 (97 : UInt8)).length := by
      rw [List.length_replicate, hfront]
      decide
    rw [longPrologue, List.take_append, List.take_append_of_le_length hname, List.take_replicate,
      List.take_of_length_le (by rw [hfront]; decide), hfront]
    rfl
  obtain ⟨c, tail, heq, -, htail⟩ := packRuns_replicate 97 8161
  have hle := packRuns_append_le namedFront (List.replicate (8161 + 1) 97)
  rw [htake]
  rw [heq, List.length_cons, List.length_cons, htail, hfront] at hle
  exact Nat.le_trans hle (by decide)

/-- The theorem fails for it: the file a viewer is served is padding,
and the prologue is not in it. -/
theorem long_prologue_is_not_bootstrapped :
    longBody.prologue = .ok longPrologue
      ∧ (longLive.publishPending fun _ k => k).1 = .ok ()
      ∧ ∃ file resume body,
        (longLive.publishPending fun _ k => k).2.shared.stream.bootstrap 0 = some (file, resume)
          ∧ bodyOf file = some body ∧ ∀ padding, body ≠ longPrologue ++ padding := by
  have hp : longBody.prologue = .ok longPrologue := namedBody_prologue _
  have hlen := longPrologue_length
  have hlong : chunkSize < longPrologue.length := by
    rw [hlen]
    decide
  have hsecond : (packRuns (longPrologue.drop chunkSize)).length ≤ chunkSize := by
    have hle := packRuns_append_le (longPrologue.drop chunkSize) []
    rw [List.append_nil, List.length_drop, hlen] at hle
    exact Nat.le_trans hle (by decide)
  have hflush := Feed.flush_two hlong (by rw [hlen]; decide) longPrologue_packs hsecond fun k => k
  have hfresh : Carries longLive.shared.stream .empty := carries_new 26 6059 true
  have hpushed := ((hfresh.pushBody longPrologue).flushTrimming DotaTvStream.trimsNow fun k => k).1
  have hok : (longLive.publishPending fun _ k => k).1 = .ok () :=
    publishPending_ok rfl hp rfl rfl (send_ok_of_flush (hpushed.trans hflush))
  obtain ⟨hlost, hend⟩ := long_prologue_lost hp hlong hok
  obtain ⟨file, resume, k, z, hfile, hbody⟩ :=
    bootstrap_without_snapshot compressBound_runLength hlost (by rw [hend, hlen]; decide) 0
  refine ⟨hp, hok, file, resume, _, hfile, hbody, ?_⟩
  -- a prologue begins with 16, padding with 31 or 0
  intro padding heq
  have hhead : (longPrologue ++ padding).head? = some 16 := rfl
  rw [← heq] at hhead
  cases k with
  | succ k => cases hhead
  | zero =>
      cases z with
      | zero => cases hhead
      | succ z => cases hhead

end Scenario

end Spectre.DotaTv

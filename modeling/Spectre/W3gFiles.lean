/-
Replay files, and what a reader finds in one (`W3gWriter::pack`).

A file is a header, whose fields say how long the file is, how many
blocks follow and how much of them is the replay, and the blocks: each
a size, a checksum and 8192 bytes compressed. The reader here is not
the source's, which only writes; it goes by the fields alone, as the
game does that opens the file. A block is read off the front of what is
left, and the walk is over when nothing is left (`walkBlocks`).

The writer pads the body to whole blocks, and with one block more than
it needs if it was whole already: the declared length is what tells the
padding from the body.
-/
import Spectre.Bootstrap

namespace Spectre.DotaTv

-- ================================================================= the writer

/-- `pack`. -/
def W3gWriter.pack [Zlib] (w : W3gWriter) (decompressed : List UInt8) : List UInt8 :=
  let pad := blockSize - decompressed.length % blockSize
  w.emit (decompressed ++ List.replicate pad 0) decompressed.length

-- ================================================================= the reader

/-- The little-endian field of some width at an offset. -/
def fieldAt (offset width : Nat) (file : List UInt8) : Nat := readLe ((file.drop offset).take width)

/-- A block of a file, as its header and its bytes say. -/
structure W3gBlock where
  declared : Nat
  checksum : Nat
  data : List UInt8
deriving DecidableEq, Repr

namespace W3gBlock

/-- The checksum a block ought to have: of its header, with the field
zeroed, and of its data. -/
def sum (b : W3gBlock) : Nat :=
  let crc1 := foldCrc (Spectre.crc32 (u16le b.data.length ++ u16le b.declared ++ u32le 0))
  let crc2 := foldCrc (Spectre.crc32 b.data)
  ((crc1 &&& (0xFFFF : UInt32)) ||| (crc2 <<< (16 : UInt32))).toNat

/-- The block the writer makes of compressed bytes. -/
def of (data : List UInt8) : W3gBlock :=
  { declared := blockSize, checksum := sum ⟨blockSize, 0, data⟩, data }

end W3gBlock

/-- The block at the front, by its own size field, and what is left. -/
def readBlock (file : List UInt8) : Option (W3gBlock × List UInt8) :=
  let size := fieldAt 0 2 file
  if file.length < 8 + size then none
  else some (⟨fieldAt 2 2 file, fieldAt 4 4 file, (file.drop 8).take size⟩, file.drop (8 + size))

/-- The blocks up to the end of the file; a block takes something off,
so the length of the file is fuel enough. -/
def walkBlocks : Nat → List UInt8 → Option (List W3gBlock)
  | _, [] => some []
  | 0, _ :: _ => none
  | fuel + 1, file => do
      let (block, rest) ← readBlock file
      let blocks ← walkBlocks fuel rest
      some (block :: blocks)

/-- The blocks of a file, if they end where it ends. -/
def blocksOf (file : List UInt8) : Option (List W3gBlock) :=
  walkBlocks file.length (file.drop headerSize)

/-- The blocks decompressed, one behind the other. -/
def inflateAll [Zlib] (blocks : List W3gBlock) : Option (List UInt8) :=
  (blocks.mapM fun b => Zlib.decompress b.data).map List.flatten

/-- What is promised of a file that was written for a body. -/
structure HoldsBody [Zlib] (body file : List UInt8) : Prop where
  /-- the file size, modulo the width of its field -/
  size : fieldAt 32 4 file = file.length % 2 ^ 32
  /-- the declared length -/
  declared : fieldAt 40 4 file = body.length
  /-- the checksum of the header, with its field zeroed -/
  headerCrc : fieldAt 64 4 file = (Spectre.crc32 (file.take 64 ++ u32le 0)).toNat
  /-- the blocks that follow -/
  blocks : ∃ blocks, blocksOf file = some blocks ∧ fieldAt 44 4 file = blocks.length
    ∧ (∀ b ∈ blocks, b.declared = blockSize ∧ b.checksum = b.sum
        ∧ ∃ plain, Zlib.decompress b.data = some plain ∧ plain.length = blockSize)
    ∧ ∃ plain, inflateAll blocks = some plain ∧ plain.take (fieldAt 40 4 file) = body

/-- The output for a block fits its size field. -/
def BlocksFit [Zlib] : Prop :=
  ∀ bytes : List UInt8, bytes.length = blockSize → (Zlib.compress bytes).length < 65536

/-- No block is compressed to twice its size. -/
def BlocksDoNotDouble [Zlib] : Prop :=
  ∀ bytes : List UInt8, bytes.length = blockSize → (Zlib.compress bytes).length + 8 < 2 * blockSize

-- ================================================================= the blocks

/-- A field is found behind what stands before it. -/
theorem fieldAt_append {front field rest : List UInt8} {offset width : Nat}
    (hfront : front.length = offset)
    (hfield : field.length = width) : fieldAt offset width (front ++ (field ++ rest)) = readLe
    field := by
  unfold fieldAt
  rw [List.drop_left' hfront, List.take_left' hfield]

theorem blockBytes_of (data : List UInt8) :
    blockBytes data
      = u16le data.length ++ (u16le blockSize ++ (u32le (W3gBlock.of data).checksum ++ data)) := by
  rw [← List.append_assoc, ← List.append_assoc]
  rfl

theorem checksum_lt (data : List UInt8) : (W3gBlock.of data).checksum < 2 ^ 32 := UInt32.toNat_lt _

/-- A block that was written is read. -/
theorem readBlock_append {data : List UInt8} (hsize : data.length < 65536) (rest : List UInt8) :
    readBlock (blockBytes data ++ rest) = some (W3gBlock.of data, rest) := by
  have hbytes : blockBytes data ++ rest = u16le data.length ++ (u16le blockSize
      ++ (u32le (W3gBlock.of data).checksum ++ (data ++ rest))) := by
    rw [blockBytes_of]
    simp only [List.append_assoc]
  have hlen : (u16le data.length).length = 2 := rfl
  have hdecl : (u16le blockSize).length = 2 := rfl
  have hsum : (u32le (W3gBlock.of data).checksum).length = 4 := rfl
  have hzero : fieldAt 0 2 (blockBytes data ++ rest) = data.length := by
    rw [hbytes]
    exact (fieldAt_append List.length_nil hlen).trans (readLe_u16le hsize)
  have htwo : fieldAt 2 2 (blockBytes data ++ rest) = blockSize := by
    rw [hbytes, fieldAt_append hlen hdecl]
    exact readLe_u16le (by decide)
  have hfour : fieldAt 4 4 (blockBytes data ++ rest) = (W3gBlock.of data).checksum := by
    rw [hbytes, ← List.append_assoc, fieldAt_append (by rw [List.length_append, hlen, hdecl]) hsum]
    exact readLe_u32le (checksum_lt data)
  have hdrop : (blockBytes data ++ rest).drop 8 = data ++ rest := by
    rw [hbytes, ← List.append_assoc, ← List.append_assoc]
    exact List.drop_left' (by rw [List.length_append, List.length_append, hlen, hdecl, hsum])
  have hlong : ¬(blockBytes data ++ rest).length < 8 + data.length := by
    rw [hbytes]
    simp only [List.length_append, hlen, hdecl, hsum]
    omega
  unfold readBlock
  rw [hzero]
  dsimp only
  rw [if_neg hlong, htwo, hfour, ← List.drop_drop, hdrop, List.take_left, List.drop_left]
  rfl

/-- The blocks that were written are walked, to the end. -/
theorem walkBlocks_flatMap {blocks : List (List UInt8)}
    (hsize : ∀ b ∈ blocks, b.length < 65536) {fuel : Nat}
    (hfuel : blocks.length ≤ fuel) :
    walkBlocks fuel (blocks.flatMap blockBytes) = some (blocks.map W3gBlock.of) := by
  induction blocks generalizing fuel with
  | nil => cases fuel <;> rfl
  | cons b blocks ih =>
      obtain ⟨fuel, rfl⟩ : ∃ m, fuel = m + 1 := by
        rw [List.length_cons] at hfuel
        exact ⟨fuel - 1, by omega⟩
      have hread := readBlock_append (hsize b (.head _)) (blocks.flatMap blockBytes)
      have hrest := ih (fun c hc => hsize c (.tail _ hc)) (Nat.le_of_succ_le_succ hfuel)
      rw [List.flatMap_cons]
      cases hfile : blockBytes b ++ blocks.flatMap blockBytes with
      | nil =>
          rw [blockBytes_of] at hfile
          cases hfile
      | cons x xs =>
          rw [hfile] at hread
          unfold walkBlocks
          simp only [hread, Option.bind_eq_bind, Option.bind_some, hrest, List.map_cons]

/-- A block is at least its header. -/
theorem length_flatMap_blocks (blocks : List (List UInt8)) :
    (blocks.flatMap blockBytes).length = (blocks.map List.length).sum + blocks.length * 8 := by
  induction blocks with
  | nil => rfl
  | cons b blocks ih =>
      have hblock : (blockBytes b).length = 8 + b.length := by
        rw [blockBytes_of]
        simp only [List.length_append, u16le, u32le, List.length_cons, List.length_nil]
        omega
      rw [List.flatMap_cons, List.length_append, ih, hblock, List.map_cons, List.sum_cons,
        List.length_cons]
      omega

/-- The blocks are decompressed to what was compressed. -/
theorem inflateAll_compress [Zlib] (chunks : List (List UInt8)) :
    inflateAll ((chunks.map Zlib.compress).map W3gBlock.of) = some chunks.flatten := by
  have hall : ((chunks.map Zlib.compress).map W3gBlock.of).mapM (fun b => Zlib.decompress b.data)
      = some chunks := by
    induction chunks with
    | nil => rfl
    | cons c chunks ih =>
        rw [List.map_cons, List.map_cons, List.mapM_cons, ih]
        simp only [W3gBlock.of, Zlib.decompress_compress, Option.bind_eq_bind, Option.bind_some]
        rfl
  unfold inflateAll
  rw [hall]
  rfl

-- =================================================================== the file

theorem readLe_u32le_mod (n : Nat) : readLe (u32le n) = n % 2 ^ 32 := by
  simp only [u32le, readLe, Nat.toUInt8_eq, UInt8.toNat_ofNat']
  omega

/-- What the writer emits, with its fields where a reader looks for
them. -/
theorem emit_eq [Zlib] (w : W3gWriter) (padded : List UInt8) (declaredLen : Nat) :
    ∃ front back : List UInt8, ∃ size : Nat, ∃ crc : UInt32, front.length = 32 ∧ back.length = 16
      ∧ w.emit padded declaredLen = front ++ (u32le size ++ (u32le 1 ++ (u32le declaredLen
          ++ (u32le (chunksExact padded).length ++ (back ++ (u32le crc.toNat
          ++ ((chunksExact padded).map Zlib.compress).flatMap blockBytes))))))
      ∧ size = (w.emit padded declaredLen).length
      ∧ crc = Spectre.crc32 ((w.emit padded declaredLen).take 64 ++ u32le 0) := by
  generalize hblocks : (chunksExact padded).map Zlib.compress = blocks
  have hcount : blocks.length = (chunksExact padded).length := by
    rw [← hblocks, List.length_map]
  obtain ⟨front, back, hfields, hfront, hback⟩ := headerFields_eq w declaredLen blocks
  have hlength : (w.headerFields declaredLen blocks).length = 64 := by
    rw [hfields]
    simp only [List.length_append, hfront, hback, u32le, List.length_cons, List.length_nil]
  have hemit : w.emit padded declaredLen = w.headerFields declaredLen blocks
      ++ (u32le (Spectre.crc32 (w.headerFields declaredLen blocks ++ u32le 0)).toNat
        ++ blocks.flatMap blockBytes) := by
    rw [← List.append_assoc, ← hblocks]
    rfl
  refine ⟨front, back, headerSize + (blocks.map List.length).sum + blocks.length * 8,
    Spectre.crc32 (w.headerFields declaredLen blocks ++ u32le 0), hfront, hback, ?_, ?_, ?_⟩
  · rw [hemit]
    generalize Spectre.crc32 (w.headerFields declaredLen blocks ++ u32le 0) = crc
    rw [hfields, ← hcount]
    simp only [List.append_assoc]
  · rw [hemit, List.length_append, List.length_append, hlength, length_flatMap_blocks]
    simp only [u32le, headerSize, List.length_cons, List.length_nil]
    omega
  · rw [hemit, List.take_left' hlength]

/-- The chunks are whole blocks. -/
theorem length_chunk {bytes c : List UInt8} (h : c ∈ chunksExact bytes) : c.length = blockSize := by
  obtain ⟨i, hi, rfl⟩ := List.mem_map.1 h
  have hi : i < bytes.length / blockSize := List.mem_range.1 hi
  have hend : (i + 1) * blockSize ≤ bytes.length := by
    exact Nat.le_trans (Nat.mul_le_mul_right _ hi) (Nat.div_mul_le_self _ _)
  rw [List.length_take, List.length_drop]
  rw [Nat.succ_mul] at hend
  omega

/-- Padding makes the body whole blocks. -/
theorem padded_whole (body : List UInt8) :
    (body ++ List.replicate (blockSize - body.length % blockSize) 0).length
      = (body.length / blockSize + 1) * blockSize := by
  rw [List.length_append, List.length_replicate, Nat.add_mul]
  have hlt : body.length % blockSize < blockSize := Nat.mod_lt _ (by decide)
  have hdiv := Nat.div_add_mod' body.length blockSize
  omega

/-- A file holds the body it was written for: its fields say so, and
the walk over its blocks ends where it ends. -/
theorem holdsBody_emit [Zlib] (hfit : BlocksFit) (w : W3gWriter) {padded body : List UInt8}
    (hwhole : padded.length % blockSize = 0) (hcount : padded.length / blockSize < 2 ^ 32)
    (hbody : body.length < 2 ^ 32) (htake : padded.take body.length = body) :
    HoldsBody body (w.emit padded body.length) := by
  obtain ⟨front, back, size, crc, hfront, hback, hemit, hsize, hcrc⟩ := emit_eq w padded body.length
  generalize w.emit padded body.length = file at hemit hsize hcrc ⊢
  -- the compressed blocks by name, as the compressor is a parameter
  generalize hblocks : (chunksExact padded).map Zlib.compress = blocks at hemit
  have hword : ∀ n, (u32le n).length = 4 := fun _ => rfl
  have hfits : ∀ b ∈ blocks, b.length < 65536 := by
    intro b hb
    rw [← hblocks] at hb
    obtain ⟨c, hc, rfl⟩ := List.mem_map.1 hb
    exact hfit c (length_chunk hc)
  have hblocksLength : blocks.length = (chunksExact padded).length := by
    rw [← hblocks, List.length_map]
  -- the fields at their offsets, each behind a front of known length
  have hat32 : fieldAt 32 4 file = size % 2 ^ 32 := by
    rw [hemit, fieldAt_append hfront (hword _), readLe_u32le_mod]
  have hat40 : fieldAt 40 4 file = body.length := by
    rw [hemit, ← List.append_assoc, ← List.append_assoc,
      fieldAt_append (by simp only [List.length_append, hfront, hword]) (hword _),
      readLe_u32le hbody]
  have hat44 : fieldAt 44 4 file = (chunksExact padded).length := by
    rw [hemit, ← List.append_assoc, ← List.append_assoc, ← List.append_assoc,
      fieldAt_append (by simp only [List.length_append, hfront, hword]) (hword _), readLe_u32le]
    rw [chunksExact_length]
    exact hcount
  have hat64 : fieldAt 64 4 file = crc.toNat := by
    rw [hemit, ← List.append_assoc, ← List.append_assoc, ← List.append_assoc, ← List.append_assoc,
      ← List.append_assoc,
      fieldAt_append (by simp only [List.length_append, hfront, hback, hword]) (hword _),
      readLe_u32le crc.toNat_lt]
  have hrest : file.drop headerSize = blocks.flatMap blockBytes := by
    rw [hemit, ← List.append_assoc, ← List.append_assoc, ← List.append_assoc, ← List.append_assoc,
      ← List.append_assoc, ← List.append_assoc]
    exact List.drop_left' (by simp only [List.length_append, hfront, hback, hword, headerSize])
  -- every block has its header of eight, so the bytes suffice to walk them all
  have hfuel : blocks.length ≤ file.length := by
    have hlength := congrArg List.length hrest
    rw [List.length_drop, length_flatMap_blocks] at hlength
    omega
  constructor
  · rw [hat32, hsize]
  · exact hat40
  · rw [hat64, hcrc]
  · refine ⟨blocks.map W3gBlock.of, ?_, ?_, ?_, padded, ?_, ?_⟩
    · unfold blocksOf
      rw [hrest]
      exact walkBlocks_flatMap hfits hfuel
    · rw [hat44, List.length_map, hblocksLength]
    · intro b hb
      obtain ⟨data, hdata, rfl⟩ := List.mem_map.1 hb
      rw [← hblocks] at hdata
      obtain ⟨c, hc, rfl⟩ := List.mem_map.1 hdata
      exact ⟨rfl, rfl, c, Zlib.decompress_compress c, length_chunk hc⟩
    · rw [← hblocks, inflateAll_compress, flatten_chunksExact hwhole]
    · -- the zeros the body was padded with are cut off by the length in the header
      rw [hat40]
      exact htake

/-- The file of a body below 2^31 bytes is below 4 GiB. -/
theorem length_emit_lt [Zlib] (hgrow : BlocksDoNotDouble) (w : W3gWriter) {padded : List UInt8}
    (hcount : padded.length / blockSize ≤ 2 ^ 18) (declaredLen : Nat) :
    (w.emit padded declaredLen).length < 2 ^ 32 := by
  obtain ⟨front, back, size, crc, hfront, hback, hemit, _, _⟩ := emit_eq w padded declaredLen
  have hsum : (((chunksExact padded).map Zlib.compress).map List.length).sum
      + (chunksExact padded).length * 8 ≤ (chunksExact padded).length * (2 * blockSize - 1) := by
    have hall : ∀ c ∈ chunksExact padded, c.length = blockSize := fun c hc => length_chunk hc
    generalize chunksExact padded = chunks at hall
    induction chunks with
    | nil => exact Nat.le_refl 0
    | cons c chunks ih =>
        have hc := hgrow c (hall c (.head _))
        have hrest := ih fun d hd => hall d (.tail _ hd)
        simp only [List.map_cons, List.sum_cons, List.length_cons, Nat.add_mul]
        omega
  rw [chunksExact_length] at hsum
  have hmul : padded.length / blockSize * (2 * blockSize - 1) ≤ 2 ^ 18 * (2 * blockSize - 1) :=
    Nat.mul_le_mul_right _ hcount
  rw [hemit]
  simp only [List.length_append, hfront, hback, length_flatMap_blocks, List.length_map, u32le,
    List.length_cons, List.length_nil, chunksExact_length]
  have hcap : 2 ^ 18 * (2 * blockSize - 1) + 68 < 2 ^ 32 := by decide
  omega

/-- `pack` writes a file that holds the body, and says its own size; the
last needs that compressing does not double a block, so that the size
has room in its field. -/
theorem pack_holds_body [Zlib] (hfit : BlocksFit) (w : W3gWriter) {body : List UInt8}
    (hbody : body.length < 2 ^ 31) :
    HoldsBody body (w.pack body)
      ∧ (BlocksDoNotDouble → fieldAt 32 4 (w.pack body) = (w.pack body).length) := by
  have hlength := padded_whole body
  have hblocks : (body ++ List.replicate (blockSize - body.length % blockSize) 0).length / blockSize
      = body.length / blockSize + 1 := by
    rw [hlength]
    exact Nat.mul_div_cancel _ (by decide)
  have hcount : body.length / blockSize < 2 ^ 18 :=
    Nat.div_lt_of_lt_mul (Nat.lt_of_lt_of_le hbody (by decide))
  have hholds : HoldsBody body (w.pack body) := by
    unfold W3gWriter.pack
    refine holdsBody_emit hfit w ?_ ?_ (by omega) (List.take_left ..)
    · rw [hlength]
      exact Nat.mul_mod_left _ _
    · omega
  refine ⟨hholds, fun hgrow => ?_⟩
  rw [hholds.size]
  refine Nat.mod_eq_of_lt ?_
  unfold W3gWriter.pack
  exact length_emit_lt hgrow w (by omega) _

section Scenario

/-- The checksum at the end of a zlib stream. -/
def adler32 (bytes : List UInt8) : Nat :=
  let (a, b) :=
    bytes.foldl (fun (a, b) x => ((a + x.toNat) % 65521, (b + a + x.toNat) % 65521)) (1, 0)
  b * 65536 + a

/-- A zlib stream of one stored block, as incompressible bytes end up
in: a header, the length twice, the bytes and their checksum. -/
def storedStream (bytes : List UInt8) : List UInt8 :=
  [0x78, 0x9C, 0x01] ++ u16le bytes.length ++ u16le (65535 - bytes.length) ++ bytes
    ++ (u32le (adler32 bytes)).reverse

/-- The bytes of such a stream. -/
def unstore (file : List UInt8) : Option (List UInt8) :=
  if file.length < 11 then none else some ((file.drop 7).take (file.length - 11))

theorem length_storedStream (bytes : List UInt8) :
    (storedStream bytes).length = bytes.length + 11 := by
  simp only [storedStream, u16le, u32le, List.length_append, List.length_reverse, List.length_cons,
    List.length_nil]
  omega

theorem unstore_storedStream (bytes : List UInt8) : unstore (storedStream bytes) = some bytes := by
  have hlength := length_storedStream bytes
  unfold unstore
  rw [if_neg (by omega), hlength, Nat.add_sub_cancel]
  unfold storedStream
  rw [List.append_assoc, List.drop_left' (by rfl), List.take_left]

/-- A compressor that meets nothing it can compress. -/
@[reducible] def storing : Zlib := ⟨storedStream, unstore, unstore_storedStream⟩

attribute [local instance] storing

/-- A writer. -/
def plainWriter : W3gWriter := { war3Version := 26, build := 6059, tft := true }

/-- The theorem where nothing is compressed. -/
theorem pack_holds_body_stored :
    HoldsBody [1, 2, 3] (plainWriter.pack [1, 2, 3])
      ∧ fieldAt 32 4 (plainWriter.pack [1, 2, 3]) = (plainWriter.pack [1, 2, 3]).length := by
  have hgrows : ∀ bytes : List UInt8, (Zlib.compress bytes).length = bytes.length + 11 :=
    length_storedStream
  have hfit : BlocksFit := by
    intro bytes hbytes
    rw [hgrows, hbytes]
    decide
  have hdouble : BlocksDoNotDouble := by
    intro bytes hbytes
    rw [hgrows, hbytes]
    decide
  have h := @pack_holds_body _ hfit plainWriter [1, 2, 3] (by decide)
  exact ⟨h.1, h.2 hdouble⟩

end Scenario

end Spectre.DotaTv

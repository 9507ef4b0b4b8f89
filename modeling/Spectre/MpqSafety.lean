/-
Reading an archive never goes out of range, whatever the bytes are, but
for one shift.

Each function gets one rule (`Holds`): with what it is promised it is
not stuck, and it returns what the next one is promised. The bounds
come from three places only: a slice is shorter than `isize::MAX`, a
number of the file has 32 bits, and an offset was checked against the
length before it is used. The shift of the header's sector size is the
one number that nothing checks (`mpq_reading_total_iff`).
-/
import Spectre.MpqHeader

namespace Spectre.Mpq

open Lib Lib.Checked

-- ================================================================= groups

/-- So many whole chunks. -/
theorem length_chunksExact (n : Nat) (data : List UInt8) :
    (chunksExact n data).length = data.length / n := by
  unfold chunksExact
  rw [List.length_map, List.length_range]

/-- The groups are of full size. -/
theorem length_of_mem_chunksExact {n : Nat} {data chunk : List UInt8}
    (h : chunk ∈ chunksExact n data) :
    chunk.length = n := by
  obtain ⟨i, hi, rfl⟩ := List.mem_map.1 h
  have hlt := List.mem_range.1 hi
  have hend : (i + 1) * n ≤ data.length :=
    (Nat.mul_le_mul_right n hlt).trans (Nat.div_mul_le_self data.length n)
  rw [Nat.succ_mul] at hend
  rw [List.length_take, List.length_drop]
  omega

-- ================================================================= tables

/-- An entry of the table of names. -/
theorem hashEntry_holds {chunk : List UInt8} (h : chunk.length = 16) :
    (MpqHashEntry.parse chunk).Returns := by
  unfold MpqHashEntry.parse
  rw [u32At_eq (by omega), u32At_eq (by omega), u16At_eq (by omega), u16At_eq (by omega),
    u32At_eq (by omega)]
  exact trivial

/-- The numbers of a block have 32 bits. -/
structure MpqBlockEntry.Fits (b : MpqBlockEntry) : Prop where
  filePos : b.filePos < 2 ^ 32
  compressedSize : b.compressedSize < 2 ^ 32
  fileSize : b.fileSize < 2 ^ 32

/-- An entry of the table of blocks; its numbers have 32 bits. -/
theorem blockEntry_holds {chunk : List UInt8} (h : chunk.length = 16) :
    Holds MpqBlockEntry.Fits (MpqBlockEntry.parse chunk) := by
  unfold MpqBlockEntry.parse
  rw [u32At_eq (by omega), u32At_eq (by omega), u32At_eq (by omega), u32At_eq (by omega)]
  exact Holds.ok ⟨le32_lt _ _, le32_lt _ _, le32_lt _ _⟩

variable {data : List UInt8} {count : Nat}

/-- The table of names is read. -/
theorem hashTable_holds (hdata : data.length = count * 16) (hcount : count < 2 ^ 32) :
    Holds (fun t => t.entries.length < 2 ^ 63) (MpqHashTable.parseAndDecrypt data count) := by
  obtain ⟨key, hkey⟩ := @hashString_returns MpqError hashFileKey (by decide) (txt "(hash table)")
  unfold MpqHashTable.parseAndDecrypt hashEntrySize usize
  rw [mul_eq (by omega), ok_bind, if_neg (by omega), slice_eq (Nat.zero_le _) (by omega), ok_bind,
    hkey, ok_bind]
  refine (holds_mapM fun chunk hchunk => hashEntry_holds (length_of_mem_chunksExact hchunk)).bind
    fun entries hentries => Holds.ok ?_
  have hlen : (((data.drop 0).take (count * 16 - 0))).length = count * 16 := by
    rw [List.length_take, List.length_drop]
    omega
  rw [hentries.1, length_chunksExact, length_decryptBytes, hlen]
  omega

/-- The table of blocks is read. -/
theorem blockTable_holds (hdata : data.length = count * 16) (hcount : count < 2 ^ 32) :
    Holds (fun t => ∀ b ∈ t.entries, b.Fits) (MpqBlockTable.parseAndDecrypt data count) := by
  obtain ⟨key, hkey⟩ := @hashString_returns MpqError hashFileKey (by decide) (txt "(block table)")
  unfold MpqBlockTable.parseAndDecrypt blockEntrySize usize
  rw [mul_eq (by omega), ok_bind, if_neg (by omega), slice_eq (Nat.zero_le _) (by omega), ok_bind,
    hkey, ok_bind]
  exact (holds_mapM fun chunk hchunk => blockEntry_holds (length_of_mem_chunksExact hchunk)).bind
    fun entries hentries => Holds.ok hentries.2

/-- The search goes round the table once at most. -/
theorem probe_holds {t : MpqHashTable} (ht : t.entries.length < 2 ^ 63) {startIndex : Nat}
    (hstart : startIndex < t.entries.length) (hashA hashB : Nat) {left i : Nat}
    (hleft : left + i ≤ t.entries.length) : (t.probe startIndex hashA hashB left i).Returns := by
  induction left generalizing i with
  | zero => exact trivial
  | succ left ih =>
      unfold MpqHashTable.probe usize
      rw [add_eq (by omega), ok_bind, rem_eq (by omega), ok_bind,
        index_eq (Nat.mod_lt _ (Nat.zero_lt_of_lt hstart)), ok_bind]
      refine Holds.ite (fun _ => trivial) fun _ => Holds.ite (fun _ => trivial) fun _ => ?_
      exact ih (by omega)

/-- A name is looked up. -/
theorem findBlockIndex_holds {t : MpqHashTable} (ht : t.entries.length < 2 ^ 63) (filename : Text) :
    (t.findBlockIndex filename).Returns := by
  obtain ⟨offset, hoffset⟩ := @hashString_returns MpqError hashTableOffset (by decide) filename
  obtain ⟨hashA, hhashA⟩ := @hashString_returns MpqError hashNameA (by decide) filename
  obtain ⟨hashB, hhashB⟩ := @hashString_returns MpqError hashNameB (by decide) filename
  unfold MpqHashTable.findBlockIndex
  refine Holds.ite (fun _ => trivial) fun hcount => ?_
  rw [hoffset, ok_bind, hhashA, ok_bind, hhashB, ok_bind]
  have hmask : offset.toNat &&& (t.entries.length - 1) ≤ t.entries.length - 1 := Nat.and_le_right
  exact probe_holds ht (by omega) _ _ (by omega)

-- ========================================================== decompression

section Decompression

variable [Codecs] {room : Nat}

/-- Every round takes a byte in or gives one out, and no more than the room.
-/
theorem explodeLoop_holds (hdata : data.length < 2 ^ 63) (hroom : room < 2 ^ 63) {fuel cpos : Nat}
    {exploder : Codecs.Exploder} {out : List UInt8} (hcpos : cpos ≤ data.length)
    (hout : out.length ≤ room)
    (hfuel : data.length - cpos + (room - out.length) < fuel) :
    Holds (fun out => out.length ≤ room) (explodeLoop data room fuel exploder cpos out) := by
  induction fuel generalizing cpos exploder out with
  | zero => exact absurd hfuel (Nat.not_lt_zero _)
  | succ fuel ih =>
      unfold explodeLoop usize
      refine Holds.ite (fun _ => hout) fun _ => Holds.ite (fun _ => hout) fun hmore => ?_
      rw [slice_eq (by omega) (Nat.le_refl _), ok_bind]
      cases hblock : Codecs.explodeBlock exploder ((data.drop cpos).take (data.length - cpos)) with
      | error e => exact trivial
      | ok r =>
          obtain ⟨exploder', consumed, block⟩ := r
          obtain ⟨hconsumed, hshort⟩ := Codecs.explodeBlock_le hblock
          rw [List.length_take, List.length_drop] at hconsumed
          dsimp only
          rw [add_eq (by omega), ok_bind, add_eq (by omega), ok_bind]
          refine Holds.ite (fun _ => trivial) fun hfits => ?_
          have hout' : (out ++ block).length ≤ room := by
            rw [List.length_append]
            omega
          refine Holds.ite (fun _ => hout') fun hgoes => ih (by omega) hout' ?_
          -- a round that goes on takes input or writes output
          rw [List.length_append]
          by_cases hzero : consumed = 0
          · have hwrites : block.length ≠ 0 := fun h => hgoes ⟨hzero, List.length_eq_zero_iff.1 h⟩
            omega
          · omega

/-- What is exploded fits the room. -/
theorem decompressPkware_holds (hdata : data.length < 2 ^ 63) (hroom : room < 2 ^ 63) :
    Holds (fun out => out.length ≤ room) (decompressPkware data room) := by
  unfold decompressPkware
  cases data with
  | nil => exact Nat.zero_le room
  | cons mode rest =>
      refine Holds.ite (fun _ => trivial) fun _ =>
        explodeLoop_holds hdata hroom (Nat.zero_le _) (Nat.zero_le _) ?_
      rw [List.length_nil]
      omega

/-- So does what is unpacked by any method. -/
theorem decompressMulti_holds (hdata : data.length < 2 ^ 63) (hroom : room < 2 ^ 63) :
    Holds (fun out => out.length ≤ room) (decompressMulti data room) := by
  unfold decompressMulti
  cases data with
  | nil => exact Nat.zero_le room
  | cons kind payload =>
      rw [List.length_cons] at hdata
      refine Holds.ite (fun _ => ?_) fun _ =>
        Holds.ite (fun _ => decompressPkware_holds (by omega) hroom)
        fun _ => Holds.ite (fun _ => trivial) fun _ => trivial
      cases hout : Codecs.inflate payload room with
      | ok out => exact Codecs.inflate_le hout
      | error e => exact trivial

end Decompression

-- ================================================================== files

/-- Decrypting keeps the length. -/
@[simp] theorem length_decrypted (block : MpqBlockEntry) (data : List UInt8) (key : UInt32) :
    (decrypted block data key).length = data.length := by
  unfold decrypted
  split
  · exact length_decryptBytes data key
  · rfl

/-- There is a key for every file. -/
theorem fileKey_returns (block : MpqBlockEntry) (filename : Text) :
    ∃ key, fileKey block filename = .ok key := by
  obtain ⟨key, hkey⟩ := @hashString_returns MpqError hashFileKey (by decide) (basename filename)
  unfold fileKey
  split
  · rw [hkey, ok_bind]
    exact ⟨_, rfl⟩
  · exact ⟨0, rfl⟩

/-- A copy of what is there into what has room. -/
theorem copyPrefix_eq {room n : Nat} (hroom : n ≤ room) (hdata : n ≤ data.length) :
    copyPrefix data room n = .ok (data.take n) := by
  unfold copyPrefix
  rw [if_pos hroom, slice_eq (Nat.zero_le n) hdata]
  rfl

/-- Copying what there is, as far as there is room. -/
theorem copyPrefix_holds {room n : Nat} (hroom : n ≤ room) (hdata : n ≤ data.length) :
    Holds (fun out => out.length ≤ room) (copyPrefix data room n) := by
  rw [copyPrefix_eq hroom hdata]
  exact (List.length_take_le n data).trans hroom

/-- How many sectors a file has: all but the last are full. -/
theorem divCeil_bounds {fileSize sectorSize : Nat} (hsize : fileSize ≠ 0)
    (hsector : sectorSize ≠ 0) :
    ∃ n, (divCeil fileSize sectorSize : Res Nat) = .ok n ∧ 0 < n ∧ n ≤ fileSize
      ∧ (n - 1) * sectorSize < fileSize ∧ fileSize ≤ n * sectorSize := by
  have hdiv := Nat.div_add_mod fileSize sectorSize
  have hmod := Nat.mod_lt fileSize (Nat.pos_of_ne_zero hsector)
  have hle := Nat.div_le_self fileSize sectorSize
  rw [Nat.mul_comm] at hdiv
  by_cases hrest : fileSize % sectorSize = 0
  · have hpos : fileSize / sectorSize ≠ 0 := by
      intro hzero
      rw [hzero, Nat.zero_mul] at hdiv
      omega
    obtain ⟨k, hk⟩ := Nat.exists_eq_succ_of_ne_zero hpos
    refine ⟨_, divCeil_eq hsector, ?_⟩
    rw [if_pos hrest, Nat.add_zero]
    rw [hk, Nat.succ_mul] at hdiv
    refine ⟨by omega, hle, ?_, ?_⟩
    · rw [hk, Nat.succ_sub_one]
      omega
    · rw [hk, Nat.succ_mul]
      omega
  · refine ⟨_, divCeil_eq hsector, ?_⟩
    rw [if_neg hrest, Nat.add_sub_cancel, Nat.succ_mul]
    refine ⟨Nat.succ_pos _, ?_, by omega, by omega⟩
    have hmul : fileSize / sectorSize ≤ fileSize / sectorSize * sectorSize :=
      Nat.le_mul_of_pos_right _ (Nat.pos_of_ne_zero hsector)
    omega

namespace Archive

variable [Codecs] {block : MpqBlockEntry} {key : UInt32} {room : Nat}

/-- A file in one piece. -/
theorem readSingleUnit_holds (hdata : data.length < 2 ^ 63) (hroom : room < 2 ^ 63) :
    Holds (fun out => out.length ≤ room) (readSingleUnit block data key room) := by
  have hlen : (decrypted block data key).length < 2 ^ 63 := by
    rw [length_decrypted]
    exact hdata
  unfold readSingleUnit
  refine Holds.ite (fun _ => decompressMulti_holds hlen hroom) fun _ =>
    Holds.ite (fun _ => decompressPkware_holds hlen hroom) fun _ => copyPrefix_holds ?_ ?_
  · omega
  · exact Nat.min_le_right _ _

/-- One sector, unpacked into its room. -/
theorem unpackSector_holds {unpackedSize target : Nat} (hdata : data.length < 2 ^ 63)
    (htarget : target < 2 ^ 63) :
    Holds (fun out => out.length ≤ target) (unpackSector block data unpackedSize target) := by
  have hcopy : Holds (fun out => out.length ≤ target)
    (copyPrefix data target (min data.length target)) :=
    copyPrefix_holds (Nat.min_le_right _ _) (Nat.min_le_left _ _)
  unfold unpackSector
  exact Holds.ite (fun _ => hcopy) fun _ =>
    Holds.ite (fun _ => decompressMulti_holds hdata htarget) fun _ =>
    Holds.ite (fun _ => decompressPkware_holds hdata htarget) fun _ => hcopy

omit [Codecs] in
/-- The last sector has the rest of the file; no sector is larger than
the file. -/
theorem sectorUnpackedSize_eq {fileSize sectorSize n i : Nat} (hi : i < n)
    (hsize : fileSize < 2 ^ 32)
    (hlast : (n - 1) * sectorSize < fileSize) :
    ∃ unpacked, sectorUnpackedSize fileSize sectorSize n i = .ok unpacked ∧ unpacked ≤ fileSize
      ∧ unpacked = if i = n - 1 then fileSize - i * sectorSize else sectorSize := by
  unfold sectorUnpackedSize usize
  rw [sub_eq (by omega), ok_bind]
  by_cases h : i = n - 1
  · subst h
    rw [if_pos rfl, if_pos rfl, mul_eq (by omega), ok_bind, sub_eq (by omega)]
    exact ⟨_, rfl, Nat.sub_le _ _, rfl⟩
  · rw [if_neg h, if_neg h]
    obtain ⟨k, hk⟩ : ∃ k, n - 1 = k + 1 := ⟨n - 2, by omega⟩
    rw [hk, Nat.succ_mul] at hlast
    exact ⟨_, rfl, by omega, rfl⟩

/-- The sectors from one on: each one's place and room are in bounds. -/
theorem readSectors_holds (hdata : data.length < 2 ^ 63) (hroom : room < 2 ^ 63)
    (hfits : block.Fits)
    {sectorSize n : Nat} (hlast : (n - 1) * sectorSize < block.fileSize) (hn : n < 2 ^ 32)
    {offsets : List Nat} (hoffsets : offsets.length = n + 1) {left i : Nat} (hleft : left + i = n)
    {out : List UInt8} (hout : out.length ≤ room) :
    Holds (fun out => out.length ≤ room)
      (readSectors block data key sectorSize room n offsets left i out) := by
  induction left generalizing i out with
  | zero => exact hout
  | succ left ih =>
      have hi : i < n := by omega
      have hfile := hfits.fileSize
      obtain ⟨unpacked, hunpacked, hsize, -⟩ := sectorUnpackedSize_eq hi hfile hlast
      unfold readSectors
      rw [index_eq (by omega), ok_bind, add_eq (by unfold usize; omega), ok_bind,
        index_eq (by omega), ok_bind]
      refine Holds.ite (fun _ => trivial) fun hvalid => ?_
      rw [slice_eq (by omega) (by omega), ok_bind, hunpacked, ok_bind,
        add_eq (by unfold usize; omega), ok_bind]
      dsimp only
      rw [sub_eq (by omega), ok_bind]
      refine (unpackSector_holds ?_ ?_).bind fun written hwritten => ?_
      · rw [length_decrypted, List.length_take, List.length_drop]
        omega
      · omega
      · rw [add_eq (by unfold usize; omega), ok_bind]
        refine ih (by omega) ?_
        rw [List.length_append]
        omega

/-- A file in sectors. -/
theorem readSectorFile_holds (a : Archive) (hdata : data.length < 2 ^ 63) (hroom : room < 2 ^ 63)
    (hfits : block.Fits) (hsize : block.fileSize ≠ 0) :
    Holds (fun out => out.length ≤ room) (a.readSectorFile block data key room) := by
  have hfile := hfits.fileSize
  unfold readSectorFile
  refine Holds.ite (fun _ => trivial) fun hsector => ?_
  obtain ⟨n, hn, hpos, hle, hlast, -⟩ := divCeil_bounds hsize hsector
  rw [hn, ok_bind]
  refine Holds.ite (fun _ => copyPrefix_holds ?_ ?_) fun _ => ?_
  · omega
  · exact Nat.min_le_right _ _
  · unfold usize
    rw [add_eq (by omega), ok_bind, mul_eq (by omega), ok_bind]
    refine Holds.ite (fun _ => trivial) fun htable => ?_
    rw [slice_eq (Nat.zero_le _) (by omega), ok_bind]
    refine (holds_mapM (Q := fun _ => True) fun chunk hchunk => ?_).bind fun offsets hoffsets => ?_
    · rw [u32At_eq (by rw [length_of_mem_chunksExact hchunk])]
      exact trivial
    · refine readSectors_holds hdata hroom hfits hlast (by omega) ?_ (Nat.add_zero n)
        (Nat.zero_le room)
      rw [hoffsets.1, length_chunksExact, length_decrypted, List.length_take, List.length_drop]
      omega

/-- What is promised of an archive that was read. -/
structure InRange (a : Archive) : Prop where
  data : a.data.length < 2 ^ 63
  offset : a.header.archiveOffset ≤ a.data.length
  hashTable : a.hashTable.entries.length < 2 ^ 63
  blockTable : ∀ b ∈ a.blockTable.entries, b.Fits

/-- A file, by its block. -/
theorem readFileByBlock_holds {a : Archive} (ha : a.InRange) (blockIndex : Nat) (filename : Text)
    (hroom : room < 2 ^ 63) :
    Holds (fun out => out.length ≤ room) (a.readFileByBlock blockIndex filename room) := by
  have hshort := ha.data
  have hoffset := ha.offset
  unfold readFileByBlock
  cases hblock : a.blockTable.get blockIndex with
  | none => exact trivial
  | some block =>
      have hfits := ha.blockTable block (List.mem_of_getElem? hblock)
      have hpos := hfits.filePos
      have hcompressed := hfits.compressedSize
      refine Holds.ite (fun _ => Nat.zero_le room) fun hsize =>
        Holds.ite (fun _ => trivial) fun _ => ?_
      unfold usize
      rw [add_eq (by omega), ok_bind, add_eq (by omega), ok_bind]
      refine Holds.ite (fun _ => trivial) fun hend => ?_
      obtain ⟨key, hkey⟩ := fileKey_returns block filename
      rw [slice_eq (by omega) (by omega), ok_bind, hkey, ok_bind]
      have hlen : ((a.data.drop (a.header.archiveOffset + block.filePos)).take
          (a.header.archiveOffset + block.filePos + block.compressedSize
            - (a.header.archiveOffset + block.filePos))).length < 2 ^ 63 := by
        rw [List.length_take, List.length_drop]
        omega
      exact Holds.ite (fun _ => readSingleUnit_holds hlen hroom) fun _ =>
        readSectorFile_holds a hlen hroom hfits hsize

/-- A file, by its name. -/
theorem readFile_holds {a : Archive} (ha : a.InRange) (filename : Text) :
    (a.readFile filename).Returns := by
  unfold readFile
  refine (findBlockIndex_holds ha.hashTable filename).bind fun o _ => ?_
  cases o with
  | none => exact trivial
  | some blockIndex =>
      dsimp only
      cases hblock : a.blockTable.get blockIndex with
      | none => exact trivial
      | some block =>
          have hfits := (ha.blockTable block (List.mem_of_getElem? hblock)).fileSize
          exact (readFileByBlock_holds ha blockIndex filename (by omega)).returns

end Archive

-- ============================================================ the archive

/-- What is promised of a header that was located. -/
structure MpqHeader.InRange (len : Nat) (header : MpqHeader) : Prop where
  archiveOffset : header.archiveOffset ≤ len
  hashTableOffset : header.hashTableOffset < len + 2 ^ 32
  blockTableOffset : header.blockTableOffset < len + 2 ^ 32
  hashTableCount : header.hashTableCount < 2 ^ 32
  blockTableCount : header.blockTableCount < 2 ^ 32

/-- The numbers of a header have their widths. -/
theorem headerOf_inRange {a h : Nat} (ha : a + 32 ≤ data.length) :
    (headerOf data a h).InRange data.length := by
  have hhash := le32_lt ((data.drop h).take 32) 16
  have hblock := le32_lt ((data.drop h).take 32) 20
  refine ⟨?_, ?_, ?_, le32_lt _ _, le32_lt _ _⟩
  all_goals
    unfold headerOf
    dsimp only
    omega

/-- A shift that is in range, of the header that is located. -/
def ShiftInRange (data : List UInt8) : Prop :=
  ∀ a h, HeaderAt data a h → ¬LastOnly data → (headerOf data a h).sectorSizeShift < 64

/-- The header that is located, unless its shift is out of range. -/
theorem locate_holds (hshort : data.length < 2 ^ 63) (hshift : ShiftInRange data) :
    Holds (fun header => header.InRange data.length) (MpqHeader.locate data) := by
  rcases locate_cases hshort with ⟨a, h, hd, hnot, heq⟩ | ⟨-, heq⟩
  · rw [heq, parseAt_eq hshort hd.room hd.stands.1, if_pos (hshift a h hd hnot)]
    exact headerOf_inRange hd.room
  · rw [heq]
    exact trivial

/-- The archive that is opened. -/
theorem fromBytes_holds (hshort : data.length < 2 ^ 63) (hshift : ShiftInRange data) :
    Holds Archive.InRange (Archive.fromBytes data) := by
  unfold Archive.fromBytes usize
  refine (locate_holds hshort hshift).bind fun header hheader => ?_
  have hhash := hheader.hashTableOffset
  have hhashCount := hheader.hashTableCount
  have hblock := hheader.blockTableOffset
  have hblockCount := hheader.blockTableCount
  rw [mul_eq (by omega), ok_bind, add_eq (by omega), ok_bind]
  refine Holds.ite (fun _ => trivial) fun hend => ?_
  rw [slice_eq (by omega) (by omega), ok_bind]
  refine (hashTable_holds ?_ hhashCount).bind fun hashTable hhashTable => ?_
  · rw [List.length_take, List.length_drop]
    omega
  · rw [mul_eq (by omega), ok_bind, add_eq (by omega), ok_bind]
    refine Holds.ite (fun _ => trivial) fun hend' => ?_
    rw [slice_eq (by omega) (by omega), ok_bind]
    refine (blockTable_holds ?_ hblockCount).bind fun blockTable hblockTable => ?_
    · rw [List.length_take, List.length_drop]
      omega
    · exact Holds.ok ⟨hshort, hheader.archiveOffset, hhashTable, hblockTable⟩

/-- A shift that is not in range is made. -/
theorem shiftInRange_of_returns (hshort : data.length < 2 ^ 63)
    (h : (Archive.fromBytes data).Returns) :
    ShiftInRange data := by
  intro a h' hd hnot
  by_contra hshift
  rcases locate_cases hshort with ⟨a', h'', hd', -, heq⟩ | ⟨hnone | hlast, -⟩
  · obtain ⟨rfl, rfl⟩ := hd.unique hd'
    rw [parseAt_eq hshort hd.room hd.stands.1, if_neg hshift] at heq
    unfold Archive.fromBytes at h
    rw [heq] at h
    exact h
  · exact hnone h' hd.stands
  · exact hnot hlast

/-- Reading an archive, and any file of it, returns or fails, if and
only if the sector size of the header is shifted by less than 64. -/
theorem mpq_reading_total_iff [Codecs] (data : Slice) :
    ((Archive.fromBytes data.bytes).Returns
        ∧ ∀ a filename, Archive.fromBytes data.bytes = .ok a → (a.readFile filename).Returns)
      ↔ ShiftInRange data.bytes := by
  constructor
  · exact fun h => shiftInRange_of_returns data.short h.1
  · intro hshift
    have hread := fromBytes_holds data.short hshift
    exact ⟨hread.returns, fun a filename ha => Archive.readFile_holds (hread.of_ok ha) filename⟩

/-- A header with the shift 64 and nothing else. -/
def shiftedHeader : List UInt8 := idMpqArchive ++ List.replicate 10 0 ++ [64] ++ List.replicate 17 0

/-- Opening these 32 bytes as an archive shifts a `usize` by 64. -/
theorem shifted_header_overflows :
    shiftedHeader.length = 32 ∧ ¬(Archive.fromBytes shiftedHeader).Returns := by
  decide +kernel

end Spectre.Mpq

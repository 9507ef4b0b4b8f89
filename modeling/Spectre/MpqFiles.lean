/-
What reading a file of an archive returns.

A file is stored in sectors: one for a file that is a single unit, one
for every `sector_size` bytes otherwise, found by a table of offsets if
they are compressed and by their places if not. Each is to be decrypted,
and decompressed if it is stored in fewer bytes than it unpacks to; what
a reader is to get is all of them, each at its place and in full
(`WholeFile`).

The source reads the three kinds of file on three paths, and `Sound`
says, for each, when the path gives that: none of them notices a sector
that is short, and the second does not decrypt.
-/
import Spectre.Lib.Chunks
import Spectre.MpqSafety

namespace Spectre.Mpq

open Lib Lib.Checked

variable [Codecs]

-- ================================================================ sectors

/-- A sector: what is stored of it, how many bytes it unpacks to, and
its key. -/
structure Sector where
  stored : List UInt8
  unpacked : Nat
  key : UInt32
deriving DecidableEq

namespace Sector

/-- What is stored, decrypted if the file is encrypted. -/
def data (block : MpqBlockEntry) (s : Sector) : List UInt8 := decrypted block s.stored s.key

/-- The decompressor of the file, on a sector of it. -/
def decompress (block : MpqBlockEntry) (s : Sector) : Res (List UInt8) :=
  if block.isCompressed then decompressMulti (s.data block) s.unpacked
  else decompressPkware (s.data block) s.unpacked

/-- The plain bytes of a sector. -/
def plain (block : MpqBlockEntry) (s : Sector) : Option (List UInt8) :=
  if s.stored.length < s.unpacked ∧ (block.isCompressed ∨ block.isImploded) then
    (s.decompress block).value?
  else some (s.data block)

end Sector

/-- A file: its block, what is stored of it, its key, and the size of
the archive's sectors. -/
structure StoredFile where
  block : MpqBlockEntry
  stored : List UInt8
  key : UInt32
  sectorSize : Nat
deriving DecidableEq

namespace StoredFile

/-- How many sectors the bytes of a file take. -/
def places (f : StoredFile) : Nat :=
  f.block.fileSize / f.sectorSize + if f.block.fileSize % f.sectorSize = 0 then 0 else 1

/-- How many sectors the file has. -/
def count (f : StoredFile) : Nat :=
  if f.block.fileSize = 0 then 0 else if f.block.isSingleUnit then 1 else f.places

/-- The offsets of the sectors, of a file that has a table. -/
def offsets (f : StoredFile) : List Nat :=
  (chunksExact 4 (decrypted f.block (f.stored.take ((f.places + 1) * 4)) (f.key - 1))).map
    fun chunk => le32 chunk 0

/-- Where the `i`th sector begins, by the table. -/
def offset (f : StoredFile) (i : Nat) : Nat := f.offsets.getD i 0

/-- The `i`th sector. -/
def sector (f : StoredFile) (i : Nat) : Sector :=
  if f.block.isSingleUnit then ⟨f.stored, f.block.fileSize, f.key⟩
  else
    let unpacked := chunkSize f.sectorSize f.block.fileSize i
    let stored :=
      if f.block.isCompressed ∨ f.block.isImploded then
        (f.stored.drop (f.offset i)).take (f.offset (i + 1) - f.offset i)
      else (f.stored.drop (i * f.sectorSize)).take unpacked
    ⟨stored, unpacked, f.key + UInt32.ofNat i⟩

/-- The whole plain file: every sector at its place and in full. -/
structure WholeFile (f : StoredFile) (out : List UInt8) : Prop where
  size : out.length = f.block.fileSize
  sectors : ∀ i < f.count, ∃ p, (f.sector i).plain f.block = some p
    ∧ (out.drop (i * f.sectorSize)).take (f.sector i).unpacked = p.take (f.sector i).unpacked

-- ================================================== when a path gives that

/-- A single unit: if it is stored in fewer bytes, it is compressed and
all of it comes out, and if not, it is not exploded. -/
def SoundUnit (f : StoredFile) : Prop :=
  if f.stored.length < f.block.fileSize then
    (f.block.isCompressed ∨ f.block.isImploded)
      ∧ ∀ w, (f.sector 0).decompress f.block = .ok w → w.length = f.block.fileSize
  else f.block.isImploded → ∀ w, decompressPkware ((f.sector 0).data f.block)
    f.block.fileSize = .ok w →
    w = ((f.sector 0).data f.block).take f.block.fileSize

/-- Sectors at their places: they are all there, and decrypting them
changes nothing. -/
def SoundPlaces (f : StoredFile) : Prop :=
  f.block.fileSize ≤ f.stored.length ∧ ∀ i < f.count,
    (f.sector i).data f.block = (f.sector i).stored

/-- A sector of a table can be read: it is inside the file, and what
has to be decompressed can be. -/
def Readable (f : StoredFile) (i : Nat) : Prop :=
  (f.offset i ≤ f.offset (i + 1) ∧ f.offset (i + 1) ≤ f.stored.length)
    ∧ ((f.sector i).stored.length ≠ (f.sector i).unpacked → ∃ w,
      (f.sector i).decompress f.block = .ok w)

/-- Sectors of a table: if all of them can be read, all of each comes
out of those in fewer bytes, and none is in more. -/
def SoundTable (f : StoredFile) : Prop :=
  (f.places + 1) * 4 ≤ f.stored.length → (∀ i < f.count, f.Readable i) →
    ∀ i < f.count, ∀ w, (f.sector i).decompress f.block = .ok w →
      ((f.sector i).stored.length < (f.sector i).unpacked → w.length = (f.sector i).unpacked)
        ∧ ((f.sector i).unpacked < (f.sector i).stored.length →
          w = ((f.sector i).data f.block).take (f.sector i).unpacked)

/-- The path the file is read on gives the whole file. -/
def Sound (f : StoredFile) : Prop :=
  if f.block.isSingleUnit then f.SoundUnit
  else f.sectorSize ≠ 0 → if f.block.isCompressed
    ∨ f.block.isImploded then f.SoundTable else f.SoundPlaces

end StoredFile

namespace Archive

/-- The file of a name. -/
def fileOf (a : Archive) (filename : Text) : Option StoredFile := do
  let blockIndex ← (← (a.hashTable.findBlockIndex filename).value?)
  let block ← a.blockTable.get blockIndex
  let key ← (fileKey block filename).value?
  return {
    block
    stored := (a.data.drop (a.header.archiveOffset + block.filePos)).take block.compressedSize
    key, sectorSize := a.header.sectorSize }

/-- Whatever is read is the whole plain file. -/
def ReadsWhole (a : Archive) (filename : Text) : Prop :=
  ∀ out, a.readFile filename = .ok out → ∃ f, a.fileOf filename = some f ∧ f.WholeFile out

/-- The file is on a sound path, if its bytes are read at all. -/
def Sound (a : Archive) (filename : Text) : Prop :=
  ∀ f, a.fileOf filename = some f → f.block.fileSize ≠ 0 → f.block.flags &&& filePatchFile = 0 →
    a.header.archiveOffset + f.block.filePos + f.block.compressedSize ≤ a.data.length → f.Sound

end Archive

-- ============================================================ the flags

omit [Codecs] in
/-- The source tests both flags at once where it looks for a table. -/
theorem flags_eq_zero_iff (block : MpqBlockEntry) :
    block.flags &&& (fileCompress ||| fileImplode) = 0
      ↔ ¬(block.isCompressed ∨ block.isImploded) := by
  unfold MpqBlockEntry.isCompressed MpqBlockEntry.isImploded
  rw [Nat.and_or_distrib_left, Nat.or_eq_zero_iff, not_or]
  simp

-- ========================================================== single units

namespace StoredFile

variable {f : StoredFile}

omit [Codecs] in
/-- Decrypting keeps the length of a sector. -/
theorem length_data (block : MpqBlockEntry) (s : Sector) :
    (s.data block).length = s.stored.length :=
  length_decrypted _ _ _

omit [Codecs] in
/-- A file in one piece is one sector. -/
theorem count_unit (hunit : f.block.isSingleUnit) (hsize : f.block.fileSize ≠ 0) : f.count = 1 := by
  unfold count
  rw [if_neg hsize, if_pos hunit]

omit [Codecs] in
/-- It is all of the file. -/
theorem sector_unit (hunit : f.block.isSingleUnit) (i : Nat) :
    f.sector i = ⟨f.stored, f.block.fileSize, f.key⟩ := if_pos hunit

/-- A single unit is whole if all of its bytes are there and plain. -/
theorem wholeFile_unit_iff (hunit : f.block.isSingleUnit) (hsize : f.block.fileSize ≠ 0)
    (out : List UInt8) :
    f.WholeFile out ↔ out.length = f.block.fileSize ∧ ∃ p, (f.sector 0).plain f.block = some p
      ∧ out = p.take f.block.fileSize := by
  have hzero : (f.sector 0).unpacked = f.block.fileSize := by rw [sector_unit hunit]
  have hout : out.length = f.block.fileSize → (out.drop (0 * f.sectorSize)).take f.block.fileSize
    = out := by
    intro h
    rw [Nat.zero_mul, List.drop_zero, ← h, List.take_length]
  constructor
  · rintro ⟨hlen, hsectors⟩
    obtain ⟨p, hp, heq⟩ := hsectors 0 (by rw [count_unit hunit hsize]; exact Nat.one_pos)
    rw [hzero, hout hlen] at heq
    exact ⟨hlen, p, hp, heq⟩
  · rintro ⟨hlen, p, hp, heq⟩
    refine ⟨hlen, fun i hi => ?_⟩
    obtain rfl : i = 0 := by
      rw [count_unit hunit hsize] at hi
      omega
    rw [hzero, hout hlen]
    exact ⟨p, hp, heq⟩

/-- Reading a single unit. -/
theorem soundUnit_iff (hunit : f.block.isSingleUnit) (hsize : f.block.fileSize ≠ 0) :
    (∀ out, Archive.readSingleUnit f.block f.stored f.key f.block.fileSize = .ok out
      → f.WholeFile out)
      ↔ f.SoundUnit := by
  have hsector := sector_unit hunit 0
  have hlen : (decrypted f.block f.stored f.key).length = f.stored.length := length_decrypted _ _ _
  simp only [wholeFile_unit_iff hunit hsize]
  unfold SoundUnit Archive.readSingleUnit Sector.plain Sector.decompress Sector.data
  rw [hsector]
  dsimp only
  rw [hlen]
  by_cases hless : f.stored.length < f.block.fileSize
  · rw [if_pos hless]
    by_cases hc : f.block.isCompressed
    · -- compressed
      simp only [hc, hless, and_self, if_true, true_or, true_and]
      refine forall₂_congr fun w hw => ?_
      rw [hw]
      simp only [value?, Option.some.injEq, exists_eq_left']
      constructor
      · exact fun h => h.1
      · intro h
        exact ⟨h, by rw [← h, List.take_length]⟩
    · by_cases him : f.block.isImploded
      · simp only [hc, him, hless, and_self, false_and, if_false, if_true, or_true, true_and,
          Bool.false_eq_true]
        refine forall₂_congr fun w hw => ?_
        rw [hw]
        simp only [value?, Option.some.injEq, exists_eq_left']
        constructor
        · exact fun h => h.1
        · intro h
          exact ⟨h, by rw [← h, List.take_length]⟩
      · -- copied, and short
        have hcopy : copyPrefix (decrypted f.block f.stored f.key) f.block.fileSize
            (min (min f.block.fileSize f.block.fileSize) f.stored.length)
              = .ok (decrypted f.block f.stored f.key) := by
          rw [copyPrefix_eq (by omega) (by rw [hlen]; omega), List.take_of_length_le
            (by rw [hlen]; omega)]
        simp only [hc, him, false_and, and_false, if_false, or_self, iff_false, not_forall,
          Bool.false_eq_true]
        refine ⟨_, hcopy, fun h => ?_⟩
        rw [hlen] at h
        omega
  · rw [if_neg hless]
    have hle : f.block.fileSize ≤ f.stored.length := Nat.not_lt.1 hless
    have htake : ((decrypted f.block f.stored f.key).take f.block.fileSize).length
      = f.block.fileSize := by
      rw [List.length_take, hlen]
      omega
    simp only [gt_iff_lt, hless, and_false, false_and, if_false, Option.some.injEq, exists_eq_left']
    by_cases him : f.block.isImploded
    · simp only [him, if_true, forall_const]
      refine forall₂_congr fun w hw => ⟨fun h => h.2, fun h => ⟨h ▸ htake, h⟩⟩
    · simp only [him, Bool.false_eq_true, if_false, false_imp_iff, iff_true]
      intro out hout
      rw [copyPrefix_eq (by omega) (by rw [hlen]; omega)] at hout
      cases hout
      rw [Nat.min_self, Nat.min_eq_left hle]
      exact ⟨htake, rfl⟩

-- ======================================================== places of sectors

omit [Codecs] in
/-- All places but the last are full. -/
theorem places_bounds (hsize : f.block.fileSize ≠ 0) (hsector : f.sectorSize ≠ 0) :
    0 < f.places ∧ f.places ≤ f.block.fileSize ∧ (f.places - 1) * f.sectorSize < f.block.fileSize
      ∧ f.block.fileSize ≤ f.places * f.sectorSize := by
  obtain ⟨n, hn, hbounds⟩ := divCeil_bounds hsize hsector
  rw [divCeil_eq hsector] at hn
  obtain rfl : f.places = n := by simpa [places] using hn
  exact hbounds

omit [Codecs] in
/-- A file in sectors has so many. -/
theorem count_places (hunit : ¬f.block.isSingleUnit) (hsize : f.block.fileSize ≠ 0) :
    f.count = f.places := by
  unfold count
  rw [if_neg hsize, if_neg hunit]

omit [Codecs] in
/-- A place begins inside the file. -/
theorem place_lt {i : Nat} (hlast : (f.places - 1) * f.sectorSize < f.block.fileSize)
    (hi : i < f.places) :
    i * f.sectorSize < f.block.fileSize :=
  Nat.lt_of_le_of_lt (Nat.mul_le_mul_right _ (by omega)) hlast

omit [Codecs] in
/-- The size the source computes for a sector is that of its place. -/
theorem unpacked_eq_chunkSize {i : Nat} (hlast : (f.places - 1) * f.sectorSize < f.block.fileSize)
    (hcover : f.block.fileSize ≤ f.places * f.sectorSize) (hi : i < f.places) :
    (if i = f.places - 1 then f.block.fileSize - i * f.sectorSize else f.sectorSize)
      = chunkSize f.sectorSize f.block.fileSize i := by
  unfold chunkSize
  split
  · subst i
    have hend : f.places * f.sectorSize = (f.places - 1) * f.sectorSize + f.sectorSize := by
      rw [← Nat.succ_mul]
      congr 1
      omega
    omega
  · have hnext : (i + 1) * f.sectorSize ≤ (f.places - 1) * f.sectorSize :=
      Nat.mul_le_mul_right _ (by omega)
    rw [Nat.succ_mul] at hnext
    omega

/-- Reading sectors at their places. -/
theorem soundPlaces_iff (a : Archive) (harchive : a.header.sectorSize = f.sectorSize)
    (hunit : ¬f.block.isSingleUnit) (hplain : ¬(f.block.isCompressed ∨ f.block.isImploded))
    (hsize : f.block.fileSize ≠ 0) (hsector : f.sectorSize ≠ 0) :
    (∀ out, a.readSectorFile f.block f.stored f.key f.block.fileSize = .ok out → f.WholeFile out)
      ↔ f.SoundPlaces := by
  obtain ⟨-, -, hlast, hcover⟩ := places_bounds hsize hsector
  have hread : a.readSectorFile f.block f.stored f.key f.block.fileSize
      = .ok (f.stored.take f.block.fileSize) := by
    unfold Archive.readSectorFile
    rw [harchive, if_neg hsector, divCeil_eq hsector, ok_bind,
      if_pos ((flags_eq_zero_iff f.block).2 hplain), copyPrefix_eq (by omega) (by omega),
      Nat.min_self, ← List.take_eq_take_min]
  have hsectors : ∀ i, f.sector i = ⟨(f.stored.drop (i * f.sectorSize)).take
      (chunkSize f.sectorSize f.block.fileSize i), chunkSize f.sectorSize f.block.fileSize i,
      f.key + UInt32.ofNat i⟩ := by
    intro i
    unfold sector
    rw [if_neg hunit]
    dsimp only
    rw [if_neg hplain]
  have hdata : ∀ i, (f.sector i).plain f.block = some ((f.sector i).data f.block) := by
    intro i
    unfold Sector.plain
    rw [if_neg fun h => hplain h.2]
  -- what is read of a place is what is stored there
  have hplace : ∀ i < f.places, ((f.stored.take f.block.fileSize).drop (i * f.sectorSize)).take
    (f.sector i).unpacked
      = (f.sector i).stored := by
    intro i hi
    rw [hsectors i, List.drop_take, List.take_take, Nat.min_eq_left]
    exact Nat.min_le_right _ _
  have hfull : f.block.fileSize ≤ f.stored.length → ∀ i < f.places,
      ((f.sector i).data f.block).take (f.sector i).unpacked = (f.sector i).data f.block := by
    intro hle i hi
    refine List.take_of_length_le ?_
    rw [length_data, hsectors i]
    exact List.length_take_le _ _
  constructor
  · intro h
    obtain ⟨hlen, hwhole⟩ := h _ hread
    have hle : f.block.fileSize ≤ f.stored.length := by
      rw [List.length_take] at hlen
      omega
    refine ⟨hle, fun i hi => ?_⟩
    obtain ⟨p, hp, heq⟩ := hwhole i hi
    rw [count_places hunit hsize] at hi
    rw [hdata i] at hp
    cases hp
    rw [hplace i hi, hfull hle i hi] at heq
    exact heq.symm
  · rintro ⟨hle, hsame⟩ out hout
    rw [hread] at hout
    cases hout
    refine ⟨by rw [List.length_take]; omega, fun i hi => ⟨_, hdata i, ?_⟩⟩
    have hi' := hi
    rw [count_places hunit hsize] at hi'
    rw [hplace i hi', hfull hle i hi']
    exact (hsame i hi).symm

-- ======================================================== sectors of a table

/-- A sector as long as it should be is not packed. -/
theorem unpackSector_eq {block : MpqBlockEntry} (htable : block.isCompressed ∨ block.isImploded)
    (s : Sector) :
    Archive.unpackSector block (s.data block) s.unpacked s.unpacked
      = if s.stored.length = s.unpacked then .ok (s.data block) else s.decompress block := by
  unfold Archive.unpackSector Sector.decompress
  rw [length_data]
  by_cases hsame : s.stored.length = s.unpacked
  · rw [if_pos hsame, if_pos hsame, copyPrefix_eq (by omega) (by rw [length_data]; omega),
      List.take_of_length_le (by rw [length_data]; omega)]
  · rw [if_neg hsame, if_neg hsame]
    by_cases hc : block.isCompressed
    · rw [if_pos hc, if_pos hc]
    · rw [if_neg hc, if_neg hc, if_pos (htable.resolve_left hc)]

/-- When what comes out of a sector is the sector. -/
theorem unpacked_whole_iff {block : MpqBlockEntry}
    (htable : block.isCompressed ∨ block.isImploded) {s : Sector}
    {w : List UInt8} (hw : Archive.unpackSector block (s.data block) s.unpacked s.unpacked = .ok w)
    (hle : w.length ≤ s.unpacked) :
    (w.length = s.unpacked ∧ ∃ p, s.plain block = some p ∧ w = p.take s.unpacked)
      ↔ ∀ w', s.decompress block = .ok w' → (s.stored.length < s.unpacked → w'.length = s.unpacked)
        ∧ (s.unpacked < s.stored.length → w' = (s.data block).take s.unpacked) := by
  rw [unpackSector_eq htable] at hw
  have hlen := length_data block s
  unfold Sector.plain
  rcases Nat.lt_trichotomy s.stored.length s.unpacked with hlt | heq | hgt
  · rw [if_neg (Nat.ne_of_lt hlt)] at hw
    rw [if_pos ⟨hlt, htable⟩, hw]
    simp only [value?, Option.some.injEq, exists_eq_left', Checked.ok.injEq, forall_eq',
      hlt, true_imp_iff, Nat.not_lt_of_lt hlt, false_imp_iff, and_true, List.take_of_length_le hle]
  · rw [if_pos heq] at hw
    cases hw
    refine iff_of_true ⟨hlen.trans heq, s.data block, ?_, ?_⟩ fun w' _ => ⟨fun h => ?_, fun h => ?_⟩
    · rw [if_neg fun h => Nat.ne_of_lt h.1 heq]
    · rw [List.take_of_length_le (by omega)]
    · omega
    · omega
  · rw [if_neg (Nat.ne_of_gt hgt)] at hw
    rw [if_neg fun h => Nat.not_lt_of_lt hgt h.1, hw]
    simp only [Option.some.injEq, exists_eq_left', Checked.ok.injEq, forall_eq', hgt, true_imp_iff,
      Nat.not_lt_of_lt hgt, false_imp_iff, true_and]
    refine ⟨fun h => h.2, fun h => ⟨?_, h⟩⟩
    rw [h, List.length_take]
    omega

/-- What the loop makes of the `i`th sector. -/
def unpack (f : StoredFile) (i : Nat) : Res (List UInt8) :=
  Archive.unpackSector f.block ((f.sector i).data f.block) (f.sector i).unpacked
    (f.sector i).unpacked

/-- A sector's entries in the table. -/
def Inside (f : StoredFile) (i : Nat) : Prop := f.offset i ≤ f.offset (i + 1) ∧ f.offset (i + 1)
    ≤ f.stored.length

omit [Codecs] in
/-- The offsets are read where they are. -/
theorem index_offset {i : Nat} (hi : i < f.offsets.length) :
    (index f.offsets i : Res Nat) = .ok (f.offset i) :=
  index_getD 0 hi

omit [Codecs] in
/-- A sector is between two offsets. -/
theorem sector_table (hunit : ¬f.block.isSingleUnit)
    (htable : f.block.isCompressed ∨ f.block.isImploded) (i : Nat) :
    f.sector i = ⟨(f.stored.drop (f.offset i)).take (f.offset (i + 1) - f.offset i),
      chunkSize f.sectorSize f.block.fileSize i, f.key + UInt32.ofNat i⟩ := by
  unfold sector
  rw [if_neg hunit]
  dsimp only
  rw [if_pos htable]

/-- A sector is read if it is inside the file and can be unpacked. -/
theorem readable_iff (htable : f.block.isCompressed ∨ f.block.isImploded) (i : Nat) :
    f.Readable i ↔ f.Inside i ∧ ∃ w, f.unpack i = .ok w := by
  unfold Readable Inside unpack
  rw [unpackSector_eq htable]
  refine and_congr_right fun _ => ?_
  by_cases hsame : (f.sector i).stored.length = (f.sector i).unpacked
  · rw [if_pos hsame]
    exact iff_of_true (fun h => absurd hsame h) ⟨_, rfl⟩
  · rw [if_neg hsame]
    exact ⟨fun h => h hsame, fun h _ => h⟩

/-- A file in a table, of an archive that was read. -/
structure Tabled (f : StoredFile) : Prop where
  unit : ¬f.block.isSingleUnit
  table : f.block.isCompressed ∨ f.block.isImploded
  size : f.block.fileSize ≠ 0
  sector : f.sectorSize ≠ 0
  fits : f.block.Fits
  stored : f.stored.length < 2 ^ 63

namespace Tabled

/-- Nothing comes out of a sector that has no room. -/
theorem unpack_le (ht : f.Tabled) {i : Nat} {w : List UInt8} (hw : f.unpack i = .ok w) :
    w.length ≤ (f.sector i).unpacked := by
  have hfile := ht.fits.fileSize
  have hdata : ((f.sector i).data f.block).length < 2 ^ 63 := by
    rw [length_data, sector_table ht.unit ht.table, List.length_take, List.length_drop]
    have hstored := ht.stored
    omega
  have hroom : (f.sector i).unpacked < 2 ^ 63 := by
    have hle : chunkSize f.sectorSize f.block.fileSize i ≤ f.block.fileSize - i * f.sectorSize :=
      Nat.min_le_right _ _
    rw [sector_table ht.unit ht.table]
    dsimp only
    omega
  exact (Archive.unpackSector_holds hdata hroom).of_ok hw

/-- The loop from some sector on, with no more written than the sectors
before it hold. -/
theorem readSectors_eq_ok (ht : f.Tabled) (hoffsets : f.offsets.length = f.places + 1)
    {left i : Nat}
    (hleft : left + i = f.places) {out res : List UInt8} (hout : out.length ≤ i * f.sectorSize) :
    Archive.readSectors f.block f.stored f.key f.sectorSize f.block.fileSize f.places f.offsets left
      i out = .ok res
      ↔ (∀ k < left, f.Inside (i + k)) ∧ ∃ parts : List (List UInt8), parts.length = left
        ∧ (∀ k (hk : k < parts.length), f.unpack (i + k) = .ok parts[k]) ∧ res = out
          ++ parts.flatten := by
  obtain ⟨-, hplaces, hlast, hcover⟩ := places_bounds ht.size ht.sector
  have hfile := ht.fits.fileSize
  have hstored := ht.stored
  induction left generalizing i out with
  | zero =>
      unfold Archive.readSectors
      constructor
      · rintro ⟨⟩
        exact ⟨fun k hk => absurd hk (Nat.not_lt_zero k), [], rfl, fun k hk =>
          absurd hk (Nat.not_lt_zero k), (List.append_nil _).symm⟩
      · rintro ⟨-, parts, hlen, -, rfl⟩
        rw [List.length_eq_zero_iff.1 hlen, List.flatten_nil, List.append_nil]
  | succ left ih =>
      have hi : i < f.places := by omega
      obtain ⟨unpacked, hunpacked, hle, hvalue⟩ := Archive.sectorUnpackedSize_eq hi hfile hlast
      rw [unpacked_eq_chunkSize hlast hcover hi] at hvalue
      have hbegin := place_lt hlast hi
      have hsector := sector_table ht.unit ht.table i
      have hroom : i * f.sectorSize + unpacked ≤ f.block.fileSize := by
        have hmin : chunkSize f.sectorSize f.block.fileSize i
          ≤ f.block.fileSize - i * f.sectorSize :=
          Nat.min_le_right _ _
        omega
      have hnext : ∀ k, i + (k + 1) = i + 1 + k := fun k => by omega
      unfold Archive.readSectors
      rw [index_offset (by omega), ok_bind, add_eq (by unfold usize; omega), ok_bind,
        index_offset (by omega), ok_bind]
      by_cases hinside : f.Inside i
      · obtain ⟨hstart, hstop⟩ := hinside
        rw [if_neg (by omega), slice_eq hstart hstop, ok_bind, hunpacked, ok_bind,
          add_eq (by unfold usize; omega), ok_bind]
        dsimp only
        rw [sub_eq (by omega), ok_bind]
        have htarget : min (out.length + unpacked) f.block.fileSize - out.length = unpacked := by
          omega
        have hcall : Archive.unpackSector f.block
          (decrypted f.block ((f.stored.drop (f.offset i)).take
            (f.offset (i + 1) - f.offset i)) (f.key + UInt32.ofNat i)) unpacked unpacked
              = f.unpack i := by
          unfold unpack Sector.data
          rw [hsector, hvalue]
        rw [htarget, hcall]
        have hsize : ∀ {w}, f.unpack i = .ok w → w.length ≤ unpacked := by
          intro w hw
          have hw' := ht.unpack_le hw
          rw [hsector] at hw'
          exact hvalue ▸ hw'
        have hout' : ∀ {w}, f.unpack i = .ok w → (out ++ w).length ≤ (i + 1) * f.sectorSize := by
          intro w hw
          have hw' := hsize hw
          have hmin : chunkSize f.sectorSize f.block.fileSize i ≤ f.sectorSize :=
            Nat.min_le_left _ _
          rw [List.length_append, Nat.succ_mul]
          omega
        constructor
        · intro h
          obtain ⟨w, hw, h⟩ := bind_eq_ok.1 h
          obtain ⟨_, -, h⟩ := bind_eq_ok.1 h
          obtain ⟨hinside, parts, hlen, hparts, rfl⟩ := (ih (by omega) (hout' hw)).1 h
          refine ⟨fun k hk => ?_, w :: parts, congrArg (· + 1) hlen, fun k hk => ?_, ?_⟩
          · cases k with
            | zero => exact ⟨hstart, hstop⟩
            | succ k => exact hnext k ▸ hinside k (by omega)
          · cases k with
            | zero => exact hw
            | succ k => exact hnext k ▸ hparts k (Nat.lt_of_succ_lt_succ hk)
          · rw [List.flatten_cons, List.append_assoc]
        · rintro ⟨hinside, parts, hlen, hparts, rfl⟩
          cases parts with
          | nil => cases hlen
          | cons w parts =>
              have hw : f.unpack i = .ok w := hparts 0 (Nat.succ_pos _)
              have hw' := hsize hw
              rw [hw, ok_bind, add_eq (by unfold usize; omega), ok_bind]
              refine (ih (by omega) (hout' hw)).2
                ⟨fun k hk => hnext k ▸ hinside (k + 1) (by omega), parts, Nat.succ.inj hlen,
                fun k hk => ?_, by rw [List.flatten_cons, List.append_assoc]⟩
              have hpart := hparts (k + 1) (Nat.succ_lt_succ hk)
              rw [hnext k] at hpart
              exact hpart
      · -- an entry that is not inside the file ends it
        have hbad : f.offset i > f.offset (i + 1) ∨ f.offset (i + 1) > f.stored.length := by
          unfold Inside at hinside
          omega
        rw [if_pos hbad]
        refine iff_of_false (fun h => ?_) fun h => hinside (h.1 0 (Nat.succ_pos left))
        cases h

omit [Codecs] in
/-- The table is as long as it has to be. -/
theorem length_offsets (hlong : (f.places + 1) * 4 ≤ f.stored.length) :
    f.offsets.length = f.places + 1 := by
  unfold offsets
  rw [List.length_map, length_chunksExact, length_decrypted, List.length_take,
    Nat.min_eq_left hlong]
  exact Nat.mul_div_cancel _ (by decide)

/-- Reading sectors of a table. -/
theorem readSectorFile_eq_ok (ht : f.Tabled) (a : Archive)
    (harchive : a.header.sectorSize = f.sectorSize)
    {out : List UInt8} :
    a.readSectorFile f.block f.stored f.key f.block.fileSize = .ok out
      ↔ (f.places + 1) * 4 ≤ f.stored.length ∧ (∀ i < f.places, f.Inside i) ∧ ∃ parts :
        List (List UInt8),
        parts.length = f.places ∧ (∀ i (hi : i < parts.length), f.unpack i = .ok parts[i])
        ∧ out = parts.flatten := by
  obtain ⟨-, hplaces, -, -⟩ := places_bounds ht.size ht.sector
  have hfile := ht.fits.fileSize
  have hdiv : (divCeil f.block.fileSize f.sectorSize : Res Nat) = .ok f.places :=
    divCeil_eq ht.sector
  unfold Archive.readSectorFile
  rw [harchive, if_neg ht.sector, hdiv, ok_bind, if_neg fun h =>
    (flags_eq_zero_iff f.block).1 h ht.table, add_eq (by unfold usize; omega), ok_bind,
    mul_eq (by unfold usize; omega), ok_bind]
  by_cases hlong : (f.places + 1) * 4 ≤ f.stored.length
  · rw [if_neg (by omega), slice_eq (Nat.zero_le _) hlong, ok_bind, List.drop_zero, Nat.sub_zero]
    have hoffsets :
      (chunksExact 4 (decrypted f.block (f.stored.take ((f.places + 1) * 4)) (f.key - 1))).mapM
        (fun chunk => u32At chunk 0) = .ok f.offsets := by
      refine mapM_eq fun chunk hchunk => u32At_eq ?_
      rw [length_of_mem_chunksExact hchunk]
    dsimp only
    rw [hoffsets, ok_bind, ht.readSectors_eq_ok (length_offsets hlong) (Nat.add_zero _)
      (Nat.zero_le _)]
    simp only [hlong, true_and, Nat.zero_add, List.nil_append]
  · rw [if_pos (by omega)]
    exact iff_of_false (fun h => nomatch h) fun h => hlong h.1

/-- A file out of sectors none of which is too long is whole if each is
its sector. -/
theorem wholeFile_iff (ht : f.Tabled) {parts : List (List UInt8)} (hlen : parts.length = f.places)
    (hparts : ∀ i (hi : i < parts.length), f.unpack i = .ok parts[i]) :
    f.WholeFile parts.flatten ↔ ∀ i (hi : i < parts.length), parts[i].length = (f.sector i).unpacked
      ∧ ∃ p, (f.sector i).plain f.block = some p ∧ parts[i] = p.take (f.sector i).unpacked := by
  obtain ⟨-, -, -, hcover⟩ := places_bounds ht.size ht.sector
  have hsize : ∀ i, (f.sector i).unpacked = chunkSize f.sectorSize f.block.fileSize i := by
    intro i
    rw [sector_table ht.unit ht.table]
  have hcount := count_places ht.unit ht.size
  constructor
  · rintro ⟨hwhole, hsectors⟩
    have hfull := (length_flatten_of_le fun i hi => hsize i ▸ ht.unpack_le (hparts i hi)).2 hwhole
    have hplace := (flatten_of_chunkSize (hlen ▸ hcover) hfull).2
    intro i hi
    obtain ⟨p, hp, heq⟩ := hsectors i (by omega)
    rw [hsize i, hplace i hi] at heq
    exact ⟨(hfull i hi).trans (hsize i).symm, p, hp, hsize i ▸ heq⟩
  · intro h
    have hfull : ∀ i (hi : i < parts.length), parts[i].length = chunkSize f.sectorSize
      f.block.fileSize i :=
      fun i hi => (h i hi).1.trans (hsize i)
    obtain ⟨hwhole, hplace⟩ := flatten_of_chunkSize (hlen ▸ hcover) hfull
    refine ⟨hwhole, fun i hi => ?_⟩
    obtain ⟨p, hp, heq⟩ := (h i (by omega)).2
    refine ⟨p, hp, ?_⟩
    rw [hsize i, hplace i (by omega), ← hsize i]
    exact heq

/-- Reading sectors of a table gives the whole file on a sound table,
and only there. -/
theorem soundTable_iff (ht : f.Tabled) (a : Archive)
    (harchive : a.header.sectorSize = f.sectorSize) :
    (∀ out, a.readSectorFile f.block f.stored f.key f.block.fileSize = .ok out → f.WholeFile out)
      ↔ f.SoundTable := by
  have hcount := count_places ht.unit ht.size
  unfold SoundTable
  simp only [readable_iff ht.table, hcount]
  constructor
  · intro h hlong hreadable
    have hparts :
      ∀ i (hi : i < ((List.range f.places).map fun i => ((f.unpack i).value?).getD []).length),
        f.unpack i = .ok ((List.range f.places).map fun i => ((f.unpack i).value?).getD [])[i] := by
      intro i hi
      rw [List.length_map, List.length_range] at hi
      obtain ⟨w, hw⟩ := (hreadable i hi).2
      rw [List.getElem_map, List.getElem_range, hw]
      rfl
    have hlen : ((List.range f.places).map fun i => ((f.unpack i).value?).getD []).length
      = f.places := by
      rw [List.length_map, List.length_range]
    have hwhole := h _ ((ht.readSectorFile_eq_ok a harchive).2
      ⟨hlong, fun i hi => (hreadable i hi).1, _, hlen, hparts, rfl⟩)
    intro i hi
    have hi' := hi
    rw [← hlen] at hi'
    have hpart := hparts i hi'
    exact (unpacked_whole_iff ht.table hpart (ht.unpack_le hpart)).1
      ((ht.wholeFile_iff hlen hparts).1 hwhole i hi')
  · intro h out hout
    obtain ⟨hlong, hinside, parts, hlen, hparts, rfl⟩ := (ht.readSectorFile_eq_ok a harchive).1 hout
    refine (ht.wholeFile_iff hlen hparts).2 fun i hi => ?_
    refine (unpacked_whole_iff ht.table (hparts i hi) (ht.unpack_le (hparts i hi))).2 ?_
    exact h hlong (fun k hk => ⟨hinside k hk, _, hparts k (by omega)⟩) i (by omega)

end Tabled

end StoredFile

namespace Archive

variable {a : Archive} {filename : Text}

/-- Reading a file by its name, on the path of its kind. -/
theorem readFile_eq_ok (ha : a.InRange) {out : List UInt8} :
    a.readFile filename = .ok out ↔ ∃ f, a.fileOf filename = some f
      ∧ if f.block.fileSize = 0 then out = []
        else f.block.flags &&& filePatchFile = 0
          ∧ a.header.archiveOffset + f.block.filePos + f.block.compressedSize ≤ a.data.length
          ∧ (if f.block.isSingleUnit then readSingleUnit f.block f.stored f.key f.block.fileSize
            else a.readSectorFile f.block f.stored f.key f.block.fileSize) = .ok out := by
  have hshort := ha.data
  have hoffset := ha.offset
  unfold readFile fileOf
  cases a.hashTable.findBlockIndex filename with
  | err e => simp [value?]
  | stuck => simp [value?]
  | ok o =>
      cases o with
      | none => simp [value?]
      | some blockIndex =>
          cases hblock : a.blockTable.get blockIndex with
          | none => simp [value?, hblock]
          | some block =>
              have hfits := ha.blockTable block (List.mem_of_getElem? hblock)
              have hpos := hfits.filePos
              have hcompressed := hfits.compressedSize
              obtain ⟨key, hkey⟩ := fileKey_returns block filename
              simp only [ok_bind, value?, Option.bind_eq_bind, Option.bind_some, hblock, hkey,
                Option.pure_def, Option.some.injEq, exists_eq_left']
              unfold readFileByBlock usize
              rw [hblock]
              dsimp only
              -- an empty file is answered before its place is looked at
              by_cases hsize : block.fileSize = 0
              · rw [if_pos hsize, if_pos hsize, Checked.ok.injEq, eq_comm]
              · rw [if_neg hsize, if_neg hsize]
                -- a patch file is refused
                by_cases hpatch : block.flags &&& filePatchFile = 0
                · rw [if_neg (not_not.2 hpatch), add_eq (by omega), ok_bind, add_eq (by omega),
                    ok_bind]
                  by_cases hend : a.header.archiveOffset + block.filePos + block.compressedSize
                    ≤ a.data.length
                  · rw [if_neg (by omega), slice_eq (by omega) hend, ok_bind, hkey, ok_bind,
                      Nat.add_sub_cancel_left]
                    exact ⟨fun h => ⟨hpatch, hend, h⟩, fun h => h.2.2⟩
                  · rw [if_pos (by omega)]
                    exact iff_of_false (fun h => nomatch h) fun h => hend h.2.1
                · rw [if_pos hpatch]
                  exact iff_of_false (fun h => nomatch h) fun h => hpatch h.1

omit [Codecs] in
/-- A file of a name has a block of the archive's, with the stored bytes
of a slice. -/
theorem fileOf_fits (ha : a.InRange) {f : StoredFile} (h : a.fileOf filename = some f) :
    f.block.Fits ∧ f.stored.length < 2 ^ 63 ∧ f.sectorSize = a.header.sectorSize := by
  have hshort := ha.data
  unfold fileOf at h
  simp only [Option.bind_eq_bind, Option.bind_eq_some_iff, Option.pure_def, Option.some.injEq] at h
  obtain ⟨o, -, blockIndex, -, block, hblock, key, -, rfl⟩ := h
  refine ⟨ha.blockTable block (List.mem_of_getElem? hblock), ?_, rfl⟩
  rw [List.length_take, List.length_drop]
  omega

omit [Codecs] in
/-- An archive that was opened is in range. -/
theorem inRange_of_fromBytes {data : Slice} (h : fromBytes data.bytes = .ok a) : a.InRange := by
  refine (fromBytes_holds data.short (shiftInRange_of_returns data.short ?_)).of_ok h
  rw [h]
  exact trivial

/-- The path of a file gives the whole file if and only if it is
sound. -/
theorem sound_iff {f : StoredFile} (harchive : f.sectorSize = a.header.sectorSize)
    (hfits : f.block.Fits)
    (hstored : f.stored.length < 2 ^ 63) (hsize : f.block.fileSize ≠ 0) :
    (∀ out, (if f.block.isSingleUnit then readSingleUnit f.block f.stored f.key f.block.fileSize
        else a.readSectorFile f.block f.stored f.key f.block.fileSize) = .ok out → f.WholeFile out)
      ↔ f.Sound := by
  unfold StoredFile.Sound
  by_cases hunit : f.block.isSingleUnit
  · simp only [if_pos hunit]
    exact StoredFile.soundUnit_iff hunit hsize
  · simp only [if_neg hunit]
    by_cases hsector : f.sectorSize = 0
    · -- no sectors: an error
      refine iff_of_true (fun out hout => ?_) fun h => absurd hsector h
      unfold readSectorFile at hout
      rw [← harchive, if_pos hsector] at hout
      cases hout
    · simp only [ne_eq, hsector, not_false_eq_true, true_imp_iff]
      by_cases htable : f.block.isCompressed ∨ f.block.isImploded
      · rw [if_pos htable]
        exact StoredFile.Tabled.soundTable_iff ⟨hunit, htable, hsize, hsector, hfits, hstored⟩
          a harchive.symm
      · rw [if_neg htable]
        exact StoredFile.soundPlaces_iff a harchive.symm hunit htable hsize hsector

/-- What is read under a name is the whole plain file if and only if
the file is on a sound path. -/
theorem read_whole_iff {data : Slice} (h : fromBytes data.bytes = .ok a) (filename : Text) :
    a.ReadsWhole filename ↔ a.Sound filename := by
  have ha := inRange_of_fromBytes h
  unfold ReadsWhole Sound
  simp only [readFile_eq_ok ha]
  cases hfile : a.fileOf filename with
  | none => simp
  | some f =>
      obtain ⟨hfits, hstored, harchive⟩ := fileOf_fits ha hfile
      simp only [Option.some.injEq, exists_eq_left', forall_eq']
      by_cases hsize : f.block.fileSize = 0
      · -- an empty file has no sectors
        simp only [hsize, if_true, ne_eq, not_true_eq_false, false_imp_iff, iff_true]
        rintro out rfl
        refine ⟨hsize.symm, fun i hi => ?_⟩
        unfold StoredFile.count at hi
        rw [if_pos hsize] at hi
        exact absurd hi (Nat.not_lt_zero i)
      · simp only [if_neg hsize]
        rw [← sound_iff harchive hfits hstored hsize]
        exact ⟨fun hall _ hpatch hend out hout => hall out ⟨hpatch, hend, hout⟩,
          fun hall out hout => hall hsize hout.1 hout.2.1 out hout.2.2⟩

end Archive

end Spectre.Mpq

-- ============================================================ one archive

namespace Spectre.Mpq

/-- Decompressors that refuse everything: the files below are not
compressed. -/
local instance refusing : Codecs where
  inflate _ _ := .error []
  inflate_le h := nomatch h
  Exploder := Unit
  exploder := ()
  ended _ := false
  explodeBlock _ _ := .error []
  explodeBlock_le h := nomatch h

/-- An archive of three files: `s`, a single unit of four bytes of which
one is stored, `e`, the letters `abcd` encrypted, and `p`, the same
letters plain. -/
def mapBytes : List UInt8 := [
  0x4D, 0x50, 0x51, 0x1A, 0x20, 0x00, 0x00, 0x00, 0x99, 0x00, 0x00, 0x00, 0x00, 0x00, 0x03, 0x00,
  0x29, 0x00, 0x00, 0x00, 0x69, 0x00, 0x00, 0x00, 0x04, 0x00, 0x00, 0x00, 0x03, 0x00, 0x00, 0x00,
  0x61, 0xA2, 0x98, 0xA4, 0x6A, 0x61, 0x62, 0x63, 0x64, 0x33, 0x30, 0xC3, 0x79, 0x28, 0xD9, 0x32,
  0x98, 0xBC, 0x73, 0x6F, 0x9F, 0xB2, 0x88, 0x4E, 0xE9, 0xE9, 0x27, 0x61, 0xFD, 0x3F, 0x1A, 0xB5,
  0x56, 0xE1, 0x1D, 0xDC, 0xAE, 0xDB, 0x9E, 0x39, 0xB4, 0x37, 0xC7, 0xBE, 0x8E, 0x91, 0xA3, 0x69,
  0xAD, 0x59, 0x9B, 0x88, 0xA4, 0xCD, 0xAA, 0x75, 0x6F, 0x44, 0xBB, 0x83, 0x27, 0xF3, 0x12, 0xCB,
  0x3C, 0xB3, 0x82, 0xB9, 0x4F, 0x03, 0xC0, 0x72, 0x1B, 0xAB, 0x67, 0x48, 0x3D, 0xA0, 0xD3, 0x08,
  0xCA, 0xD0, 0xBA, 0x35, 0xF8, 0xEE, 0x71, 0x33, 0xE9, 0x84, 0x97, 0xA2, 0xB3, 0x66, 0xA9, 0x98,
  0x0E, 0x91, 0x9C, 0xB6, 0xC6, 0xB7, 0xC8, 0x34, 0xA7, 0x4A, 0x84, 0x49, 0xC8, 0x72, 0xCC, 0x25,
  0x4B, 0xA9, 0x42, 0xE8, 0x84, 0x4D, 0xB5, 0x13, 0x99]

/-- The archive, opened. -/
def threeFiles : Archive where
  data := mapBytes
  header :=
    { archiveOffset := 0, headerSize := 32, archiveSize := 153, formatVersion := 0
      sectorSizeShift := 3, sectorSize := 4096, hashTableOffset := 41, blockTableOffset := 105
      hashTableCount := 4, blockTableCount := 3 }
  hashTable :=
    ⟨[⟨0xFFFFFFFF, 0xFFFFFFFF, 0xFFFF, 0xFFFF, 0xFFFFFFFF⟩, ⟨0x869A7A01, 0xED6E2302, 0, 0, 2⟩,
    ⟨0xBDAE504C, 0x8A331D87, 0, 0, 0⟩, ⟨0xCFD5252B, 0xD01244A1, 0, 0, 1⟩]⟩
  blockTable := ⟨[⟨32, 1, 4, 0x81000000⟩, ⟨33, 4, 4, 0x80010000⟩, ⟨37, 4, 4, 0x80000000⟩]⟩

/-- The file of which one byte is stored. -/
theorem fileOf_short :
    threeFiles.fileOf (txt "s") = some ⟨⟨32, 1, 4, 0x81000000⟩, [0x61], 0, 4096⟩ := by
  decide +kernel

/-- The encrypted file. -/
theorem fileOf_encrypted : threeFiles.fileOf (txt "e")
    = some ⟨⟨33, 4, 4, 0x80010000⟩, [0xA2, 0x98, 0xA4, 0x6A], 0xD349FF6B, 4096⟩ := by
  decide +kernel

/-- The plain one. -/
theorem fileOf_plain : threeFiles.fileOf (txt "p")
    = some ⟨⟨37, 4, 4, 0x80000000⟩, [0x61, 0x62, 0x63, 0x64], 0, 4096⟩ := by
  decide +kernel

/-- The plain file is read whole. -/
theorem read_whole_iff_plain :
    threeFiles.readFile (txt "p") = .ok [0x61, 0x62, 0x63, 0x64] ∧ threeFiles.ReadsWhole
      (txt "p") := by
  refine ⟨by decide +kernel, (@Archive.read_whole_iff _ threeFiles ⟨mapBytes, by decide +kernel⟩
    (by decide +kernel) (txt "p")).2 fun f hf _ _ _ => ?_⟩
  rw [fileOf_plain] at hf
  cases hf
  unfold StoredFile.Sound
  rw [if_neg (by decide +kernel)]
  intro _
  rw [if_neg (by decide +kernel)]
  exact ⟨by decide, by decide +kernel⟩

/-- The first file is read short, and the second as it is encrypted. -/
theorem short_and_encrypted_are_read :
    Archive.fromBytes mapBytes = .ok threeFiles
      ∧ threeFiles.readFile (txt "s") = .ok [0x61] ∧ ¬threeFiles.ReadsWhole (txt "s")
      ∧ threeFiles.readFile (txt "e") = .ok [0xA2, 0x98, 0xA4, 0x6A] ∧ ¬threeFiles.ReadsWhole
        (txt "e") := by
  have hshort : threeFiles.readFile (txt "s") = .ok [0x61] := by decide +kernel
  have hencrypted : threeFiles.readFile (txt "e") = .ok [0xA2, 0x98, 0xA4, 0x6A] := by
    decide +kernel
  refine ⟨by decide +kernel, hshort, fun h => ?_, hencrypted, fun h => ?_⟩
  · obtain ⟨f, hf, hwhole⟩ := h _ hshort
    rw [fileOf_short] at hf
    cases hf
    exact absurd hwhole.size (by decide)
  · obtain ⟨f, hf, hwhole⟩ := h _ hencrypted
    rw [fileOf_encrypted] at hf
    cases hf
    obtain ⟨p, hp, heq⟩ := hwhole.sectors 0 (by decide +kernel)
    have hplain :
      (StoredFile.sector ⟨⟨33, 4, 4, 0x80010000⟩, [0xA2, 0x98, 0xA4, 0x6A], 0xD349FF6B, 4096⟩
      0).plain
        ⟨33, 4, 4, 0x80010000⟩ = some [0x61, 0x62, 0x63, 0x64] := by decide +kernel
    rw [hplain] at hp
    cases hp
    exact absurd heq (by decide +kernel)

end Spectre.Mpq

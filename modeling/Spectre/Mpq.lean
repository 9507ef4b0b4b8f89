/-
MPQ archives (`header.rs`, `hash_table.rs`, `block_table.rs`,
`compression.rs`, `archive.rs`): a map file is one, and the bot reads it
as the client uploaded it.

Every sum, product, shift, index and slice of the source is checked
here, in 64 bits; a computation that would go out of range is `stuck`.
The output slice of the source is written from the front and truncated
to what was written, so it appears as its length (`room`) and the bytes
written so far. The decompressors are other packages' and a parameter
(`Codecs`).
-/
import Spectre.MpqCrypt

namespace Spectre

open Lib (Checked)

/-- `MpqError`, without the error of opening a file. -/
inductive MpqError where
  | headerNotFound
  | corruptedHeader (message : Text)
  | corruptedHashTable
  | corruptedBlockTable
  | fileNotFound (name : Text)
  | decompressionFailed (message : Text)
  | invalidSectorTable
  | unsupportedCompression (kind : UInt8)
  | unexpectedEof (expected got : Nat)
deriving DecidableEq, Repr

namespace Mpq

open Lib.Checked

/-- What a function of the source returns. -/
abbrev Res (α : Type) := Checked MpqError α

/-- The bits of a `usize`. -/
abbrev usize : Nat := 64

/-- `u16::from_le_bytes` of the bytes at an index. -/
def u16At (data : List UInt8) (i : Nat) : Res Nat := do
  let b0 ← index data i
  let b1 ← index data (i + 1)
  return b0.toNat + 256 * b1.toNat

/-- `u32::from_le_bytes` of the bytes at an index. -/
def u32At (data : List UInt8) (i : Nat) : Res Nat := do
  let b0 ← index data i
  let b1 ← index data (i + 1)
  let b2 ← index data (i + 2)
  let b3 ← index data (i + 3)
  return b0.toNat + 256 * b1.toNat + 65536 * b2.toNat + 16777216 * b3.toNat

-- ================================================================= header

def idMpqArchive : List UInt8 := [0x4D, 0x50, 0x51, 0x1A]
def idMpqUserData : List UInt8 := [0x4D, 0x50, 0x51, 0x1B]
def headerSizeV1 : Nat := 32

/-- `MpqHeader`. -/
structure MpqHeader where
  archiveOffset : Nat
  headerSize : Nat
  archiveSize : Nat
  formatVersion : Nat
  sectorSizeShift : Nat
  sectorSize : Nat
  hashTableOffset : Nat
  blockTableOffset : Nat
  hashTableCount : Nat
  blockTableCount : Nat
deriving DecidableEq, Repr

namespace MpqHeader

/-- `MpqHeader::parse_at`. -/
def parseAt (data : List UInt8) (archiveOffset headerOffset : Nat) : Res MpqHeader := do
  let headerEnd ← add usize headerOffset headerSizeV1
  if headerEnd > data.length then .err (.corruptedHeader (txt "Header exceeds file boundary"))
  else do
    let bytes ← slice data headerOffset headerEnd
    let headerSize ← u32At bytes 4
    let archiveSize ← u32At bytes 8
    let formatVersion ← u16At bytes 12
    let sectorSizeShift ← u16At bytes 14
    let hashTableOffsetRel ← u32At bytes 16
    let blockTableOffsetRel ← u32At bytes 20
    let hashTableCount ← u32At bytes 24
    let blockTableCount ← u32At bytes 28
    let hashTableOffset ← add usize archiveOffset hashTableOffsetRel
    let blockTableOffset ← add usize archiveOffset blockTableOffsetRel
    let sectorSize ← shl usize 512 sectorSizeShift
    return { archiveOffset, headerSize, archiveSize, formatVersion, sectorSizeShift, sectorSize,
             hashTableOffset, blockTableOffset, hashTableCount, blockTableCount }

/-- The header a user-data header at `offset` points at, if it is one
and points at one. -/
def userDataTarget (data : List UInt8) (offset : Nat) : Res (Option Nat) := do
  let signature ← slice data offset (← add usize offset 4)
  if signature ≠ idMpqUserData then return none
  else do
    let userDataEnd ← add usize offset 16
    if userDataEnd > data.length then return none
    else do
      let _userDataSize ← u32At data (offset + 4)
      let headerOffset ← u32At data (offset + 8)
      let targetOffset ← add usize offset headerOffset
      let targetEnd ← add usize targetOffset headerSizeV1
      if targetEnd > data.length then return none
      else do
        let target ← slice data targetOffset (← add usize targetOffset 4)
        return if target = idMpqArchive then some targetOffset else none

/-- The first loop of `locate`: every 512 bytes. Each round takes more
than one byte off what is left, so the length is fuel enough. -/
def searchAligned (data : List UInt8) : Nat → Nat → Res (Option MpqHeader)
  | 0, _ => .stuck
  | fuel + 1, offset => do
      let headerEnd ← add usize offset headerSizeV1
      if headerEnd ≤ data.length then do
        let signature ← slice data offset (← add usize offset 4)
        if signature = idMpqArchive then some <$> parseAt data offset offset
        else match ← userDataTarget data offset with
          | some targetOffset => some <$> parseAt data offset targetOffset
          | none => do
              let next ← add usize offset 512
              searchAligned data fuel next
      else return none

/-- The second loop of `locate`: so many offsets from `i` on. -/
def searchBytes (data : List UInt8) : Nat → Nat → Res MpqHeader
  | 0, _ => .err .headerNotFound
  | left + 1, i => do
      let signature ← slice data i (← add usize i 4)
      if signature = idMpqArchive then parseAt data i i
      else searchBytes data left (i + 1)

/-- `MpqHeader::locate`. -/
def locate (data : List UInt8) : Res MpqHeader := do
  if data.length < headerSizeV1 then .err .headerNotFound
  else match ← searchAligned data (data.length + 1) 0 with
    | some header => return header
    | none => searchBytes data (data.length - headerSizeV1) 0

end MpqHeader

-- ================================================================= tables

/-- `chunks_exact`: the groups of full size. -/
def chunksExact (n : Nat) (data : List UInt8) : List (List UInt8) :=
  (List.range (data.length / n)).map fun i => (data.drop (i * n)).take n

/-- `MpqHashEntry`. -/
structure MpqHashEntry where
  hashA : Nat
  hashB : Nat
  locale : Nat
  platform : Nat
  blockIndex : Nat
deriving DecidableEq, Repr

/-- The entry in a group of 16 bytes. -/
def MpqHashEntry.parse (chunk : List UInt8) : Res MpqHashEntry := do
  let hashA ← u32At chunk 0
  let hashB ← u32At chunk 4
  let locale ← u16At chunk 8
  let platform ← u16At chunk 10
  let blockIndex ← u32At chunk 12
  return { hashA, hashB, locale, platform, blockIndex }

def hashEntryEmpty : Nat := 0xFFFFFFFF
def hashEntryDeleted : Nat := 0xFFFFFFFE
def hashEntrySize : Nat := 16

/-- `MpqHashTable`. -/
structure MpqHashTable where
  entries : List MpqHashEntry
deriving DecidableEq, Repr

namespace MpqHashTable

/-- `MpqHashTable::parse_and_decrypt`. -/
def parseAndDecrypt (data : List UInt8) (count : Nat) : Res MpqHashTable := do
  let expectedBytes ← mul usize count hashEntrySize
  if data.length < expectedBytes then .err .corruptedHashTable
  else do
    let encrypted ← slice data 0 expectedBytes
    let key ← hashString (txt "(hash table)") hashFileKey
    let decrypted := decryptBytes encrypted key
    let entries ← (chunksExact hashEntrySize decrypted).mapM MpqHashEntry.parse
    return { entries }

/-- The probing: so many slots from the `i`th on. -/
def probe (t : MpqHashTable) (startIndex hashA hashB : Nat) : Nat → Nat → Res (Option Nat)
  | 0, _ => .ok none
  | left + 1, i => do
      let idx ← rem (← add usize startIndex i) t.entries.length
      let entry ← index t.entries idx
      if entry.blockIndex = hashEntryEmpty then return none
      else if entry.blockIndex ≠ hashEntryDeleted ∧ entry.hashA = hashA ∧ entry.hashB = hashB then
        return some entry.blockIndex
      else probe t startIndex hashA hashB left (i + 1)

/-- `MpqHashTable::find_block_index`. -/
def findBlockIndex (t : MpqHashTable) (filename : Text) : Res (Option Nat) := do
  let count := t.entries.length
  if count = 0 then return none
  else do
    let mask := count - 1
    let offset ← hashString filename hashTableOffset
    let startIndex := offset.toNat &&& mask
    let hashA ← hashString filename hashNameA
    let hashB ← hashString filename hashNameB
    probe t startIndex hashA.toNat hashB.toNat count 0

end MpqHashTable

def fileImplode : Nat := 0x00000100
def fileCompress : Nat := 0x00000200
def fileEncrypted : Nat := 0x00010000
def fileFixKey : Nat := 0x00020000
def filePatchFile : Nat := 0x00100000
def fileSingleUnit : Nat := 0x01000000
def blockEntrySize : Nat := 16

/-- `MpqBlockEntry`. -/
structure MpqBlockEntry where
  filePos : Nat
  compressedSize : Nat
  fileSize : Nat
  flags : Nat
deriving DecidableEq, Repr

namespace MpqBlockEntry

def isEncrypted (b : MpqBlockEntry) : Bool := b.flags &&& fileEncrypted != 0
def hasFixedKey (b : MpqBlockEntry) : Bool := b.flags &&& fileFixKey != 0
def isCompressed (b : MpqBlockEntry) : Bool := b.flags &&& fileCompress != 0
def isImploded (b : MpqBlockEntry) : Bool := b.flags &&& fileImplode != 0
def isSingleUnit (b : MpqBlockEntry) : Bool := b.flags &&& fileSingleUnit != 0

/-- The entry in a group of 16 bytes. -/
def parse (chunk : List UInt8) : Res MpqBlockEntry := do
  let filePos ← u32At chunk 0
  let compressedSize ← u32At chunk 4
  let fileSize ← u32At chunk 8
  let flags ← u32At chunk 12
  return { filePos, compressedSize, fileSize, flags }

end MpqBlockEntry

/-- `MpqBlockTable`. -/
structure MpqBlockTable where
  entries : List MpqBlockEntry
deriving DecidableEq, Repr

namespace MpqBlockTable

/-- `MpqBlockTable::parse_and_decrypt`. -/
def parseAndDecrypt (data : List UInt8) (count : Nat) : Res MpqBlockTable := do
  let expectedBytes ← mul usize count blockEntrySize
  if data.length < expectedBytes then .err .corruptedBlockTable
  else do
    let encrypted ← slice data 0 expectedBytes
    let key ← hashString (txt "(block table)") hashFileKey
    let decrypted := decryptBytes encrypted key
    let entries ← (chunksExact blockEntrySize decrypted).mapM MpqBlockEntry.parse
    return { entries }

/-- `MpqBlockTable::get`. -/
def get (t : MpqBlockTable) (i : Nat) : Option MpqBlockEntry := t.entries[i]?

end MpqBlockTable

-- ========================================================== decompression

/-- The decompressors of other packages. Each returns, and writes at
most what it is given room for. -/
class Codecs where
  /-- `flate2::Decompress::decompress` into a slice of some length: the
  bytes it has written, or the text of its error. -/
  inflate : List UInt8 → Nat → Except Text (List UInt8)
  inflate_le : ∀ {payload : List UInt8} {room : Nat} {out : List UInt8},
    inflate payload room = .ok out → out.length ≤ room
  /-- `implode::exploder::Exploder`. -/
  Exploder : Type
  /-- `Exploder::new(&DEFAULT_CODE_TABLE)`. -/
  exploder : Exploder
  ended : Exploder → Bool
  /-- `Exploder::explode_block`: how many bytes it took, and a block. -/
  explodeBlock : Exploder → List UInt8 → Except Text (Exploder × Nat × List UInt8)
  explodeBlock_le : ∀ {e e' : Exploder} {input block : List UInt8} {consumed : Nat},
    explodeBlock e input = .ok (e', consumed, block) → consumed ≤ input.length
    ∧ block.length < 2 ^ 63

section Decompression

variable [Codecs]

/-- The loop of `decompress_pkware`. A round that goes on takes input or
writes output, so their lengths are fuel enough. -/
def explodeLoop (data : List UInt8) (room : Nat) : Nat → Codecs.Exploder → Nat → List UInt8
    → Res (List UInt8)
  | 0, _, _, _ => .stuck
  | fuel + 1, exploder, cpos, out =>
      if Codecs.ended exploder then .ok out
      else if data.length ≤ cpos then .ok out
      else do
        let abuf ← slice data cpos data.length
        match Codecs.explodeBlock exploder abuf with
        | .ok (exploder, consumed, block) => do
            let cpos ← add usize cpos consumed
            let outEnd ← add usize out.length block.length
            if outEnd > room then
              .err (.decompressionFailed (txt "PKWARE uncompressed output exceeds target buffer"))
            else if consumed = 0 ∧ block = [] then .ok (out ++ block)
            else explodeLoop data room fuel exploder cpos (out ++ block)
        | .error e => .err (.decompressionFailed (txt "PKWARE explode block failed: " ++ e))

/-- `decompress_pkware`: what it has written. -/
def decompressPkware (data : List UInt8) (room : Nat) : Res (List UInt8) :=
  match data with
  | [] => .ok []
  | mode :: _ =>
      if mode = 1 then
        .err (.decompressionFailed (txt "PKWARE ASCII compression mode is unsupported"))
      else explodeLoop data room (data.length + room + 1) Codecs.exploder 0 []

def compressionZlib : UInt8 := 0x02
def compressionPkware : UInt8 := 0x08
def compressionBzip2 : UInt8 := 0x10

/-- `decompress_multi`: what it has written. -/
def decompressMulti (data : List UInt8) (room : Nat) : Res (List UInt8) :=
  match data with
  | [] => .ok []
  | compressionType :: payload =>
      if compressionType &&& compressionZlib ≠ 0 then
        match Codecs.inflate payload room with
        | .ok out => .ok out
        | .error e => .err (.decompressionFailed (txt "ZLIB decompress failed: " ++ e))
      else if compressionType &&& compressionPkware ≠ 0 then decompressPkware payload room
      else if compressionType &&& compressionBzip2
        ≠ 0 then .err (.unsupportedCompression compressionBzip2)
      else .err (.unsupportedCompression compressionType)

end Decompression

-- ================================================================ archive

/-- `Archive`. -/
structure Archive where
  data : List UInt8
  header : MpqHeader
  hashTable : MpqHashTable
  blockTable : MpqBlockTable
deriving DecidableEq, Repr

/-- `out[..n].copy_from_slice(&data[..n])`, `out` having some room. -/
def copyPrefix (data : List UInt8) (room n : Nat) : Res (List UInt8) :=
  if n ≤ room then slice data 0 n else .stuck

/-- `rsplit_once(['\\', '/'])`: the part behind the last separator. -/
def basename (filename : Text) : Text :=
  (filename.reverse.takeWhile fun b => b != 0x5C && b != 0x2F).reverse

/-- The key of a file. -/
def fileKey (block : MpqBlockEntry) (filename : Text) : Res UInt32 :=
  if block.isEncrypted then do
    let key ← hashString (basename filename) hashFileKey
    return if block.hasFixedKey then (key + UInt32.ofNat block.filePos)
      ^^^ UInt32.ofNat block.fileSize else key
  else return 0

/-- Stored bytes, decrypted if the file is encrypted. -/
def decrypted (block : MpqBlockEntry) (data : List UInt8) (key : UInt32) : List UInt8 :=
  if block.isEncrypted then decryptBytes data key else data

namespace Archive

/-- `Archive::from_bytes`. -/
def fromBytes (data : List UInt8) : Res Archive := do
  let header ← MpqHeader.locate data
  let hashTableEnd ← add usize header.hashTableOffset (← mul usize header.hashTableCount 16)
  if hashTableEnd > data.length then .err .corruptedHashTable
  else do
    let hashTable ← MpqHashTable.parseAndDecrypt (← slice data header.hashTableOffset hashTableEnd)
      header.hashTableCount
    let blockTableEnd ← add usize header.blockTableOffset (← mul usize header.blockTableCount 16)
    if blockTableEnd > data.length then .err .corruptedBlockTable
    else do
      let blockTable ← MpqBlockTable.parseAndDecrypt
        (← slice data header.blockTableOffset blockTableEnd)
        header.blockTableCount
      return { data, header, hashTable, blockTable }

variable [Codecs]

/-- `Archive::read_single_unit`. -/
def readSingleUnit (block : MpqBlockEntry) (rawData : List UInt8) (fileKey : UInt32) (room : Nat) :
    Res (List UInt8) :=
  let inBuf := decrypted block rawData fileKey
  if block.isCompressed ∧ room > inBuf.length then decompressMulti inBuf room
  else if block.isImploded then decompressPkware inBuf room
  else copyPrefix inBuf room (min (min block.fileSize room) inBuf.length)

/-- What a sector unpacks to, `target` being the room for it. -/
def unpackSector (block : MpqBlockEntry) (sectorData : List UInt8) (unpackedSize target : Nat) :
    Res (List UInt8) :=
  if sectorData.length = unpackedSize then copyPrefix sectorData target
    (min sectorData.length target)
  else if block.isCompressed then decompressMulti sectorData target
  else if block.isImploded then decompressPkware sectorData target
  else copyPrefix sectorData target (min sectorData.length target)

/-- `sector_unpacked_size`: the last sector has the rest. -/
def sectorUnpackedSize (fileSize sectorSize numSectors i : Nat) : Res Nat := do
  let last ← sub numSectors 1
  if i = last then sub fileSize (← mul usize i sectorSize)
  else return sectorSize

/-- The loop over the sectors: so many from the `i`th on, with what is
written already. -/
def readSectors (block : MpqBlockEntry) (rawData : List UInt8) (fileKey : UInt32)
    (sectorSize room numSectors : Nat) (sectorOffsets : List Nat) :
    Nat → Nat → List UInt8 → Res (List UInt8)
  | 0, _, out => .ok out
  | left + 1, i, out => do
      let start ← index sectorOffsets i
      let stop ← index sectorOffsets (← add usize i 1)
      if start > stop ∨ stop > rawData.length then .err .invalidSectorTable
      else do
        let stored ← slice rawData start stop
        let sectorData := decrypted block stored (fileKey + UInt32.ofNat i)
        let unpackedSize ← sectorUnpackedSize block.fileSize sectorSize numSectors i
        let outEnd := min (← add usize out.length unpackedSize) room
        let target ← sub outEnd out.length
        let written ← unpackSector block sectorData unpackedSize target
        let _totalWritten ← add usize out.length written.length
        readSectors block rawData fileKey sectorSize room numSectors sectorOffsets left (i + 1)
          (out ++ written)

/-- `Archive::read_sector_file`. -/
def readSectorFile (a : Archive) (block : MpqBlockEntry) (rawData : List UInt8) (fileKey : UInt32)
    (room : Nat) : Res (List UInt8) := do
  let sectorSize := a.header.sectorSize
  if sectorSize = 0 then .err .invalidSectorTable
  else do
    let numSectors ← divCeil block.fileSize sectorSize
    if block.flags &&& (fileCompress ||| fileImplode) = 0 then
      copyPrefix rawData room (min (min block.fileSize room) rawData.length)
    else do
      let sectorTableSize ← mul usize (← add usize numSectors 1) 4
      if rawData.length < sectorTableSize then .err .invalidSectorTable
      else do
        let sectorTableBytes ← slice rawData 0 sectorTableSize
        let sectorTableBytes := decrypted block sectorTableBytes (fileKey - 1)
        let sectorOffsets ← (chunksExact 4 sectorTableBytes).mapM fun chunk => u32At chunk 0
        readSectors block rawData fileKey sectorSize room numSectors sectorOffsets numSectors 0 []

/-- `Archive::read_file_by_block`: what it has written into an output of
some room. -/
def readFileByBlock (a : Archive) (blockIndex : Nat) (filename : Text) (room : Nat) :
    Res (List UInt8) :=
  match a.blockTable.get blockIndex with
  | none => .err (.fileNotFound filename)
  | some block =>
      if block.fileSize = 0 then .ok []
      else if block.flags &&& filePatchFile ≠ 0 then .err (.unsupportedCompression 0xFF)
      else do
        let absFilePos ← add usize a.header.archiveOffset block.filePos
        let blockEnd ← add usize absFilePos block.compressedSize
        if blockEnd > a.data.length then .err (.unexpectedEof blockEnd a.data.length)
        else do
          let blockSlice ← slice a.data absFilePos blockEnd
          let key ← fileKey block filename
          if block.isSingleUnit then readSingleUnit block blockSlice key room
          else a.readSectorFile block blockSlice key room

/-- `Archive::read_file`. -/
def readFile (a : Archive) (filename : Text) : Res (List UInt8) := do
  match ← a.hashTable.findBlockIndex filename with
  | none => .err (.fileNotFound filename)
  | some blockIndex =>
      match a.blockTable.get blockIndex with
      | none => .err (.fileNotFound filename)
      | some block => a.readFileByBlock blockIndex filename block.fileSize

end Archive

end Mpq

end Spectre

/-
Loading a map (`map.rs`, and `check_valid` of `state.rs`).

A map file is an archive. The loader takes three things from it: the
checksum and the digest of its scripts, which a client compares with its
own; the header `war3map.w3i`, from which come the size, the options and
the slots; and the file itself. A configuration may override any of it.

What the loader asks of the archive is how large a file is and what a
read puts at the front of a buffer of that size (`MapFiles`). The header
is read with a cursor whose results are mostly not looked at: a read
that fails leaves the cursor at the end and the word that was read
before as it was. Nothing goes backwards, so the cursor is what is left
of the file.

The log lines are left out, and so is the reading from disk: the loader
starts with the bytes and the name of the file.
-/
import Spectre.Lib.Rotate
import Spectre.MpqFiles
import Spectre.Nls
import Spectre.State

namespace Spectre

-- ==================================================================== constants

def mapspeedSlow : UInt8 := 1
def mapspeedNormal : UInt8 := 2
def mapspeedFast : UInt8 := 3
def mapvisHideterrain : UInt8 := 1
def mapvisExplored : UInt8 := 2
def mapvisAlwaysvisible : UInt8 := 3
def mapvisDefault : UInt8 := 4
def mapobsNone : UInt8 := 1
def mapobsOndefeat : UInt8 := 2
def mapobsAllowed : UInt8 := 3
def mapobsReferees : UInt8 := 4
def mapflagTeamstogether : UInt8 := 1
def mapflagFixedteams : UInt8 := 2
def mapflagUnitshare : UInt8 := 4
def mapflagRandomhero : UInt8 := 8
def mapflagRandomraces : UInt8 := 16
def mapoptMelee : UInt32 := 0x04
def mapoptFixedplayersettings : UInt32 := 0x20
def mapoptCustomforces : UInt32 := 0x40
def mapfilterMakerUser : UInt8 := 1
def mapfilterMakerBlizzard : UInt8 := 2
def mapfilterTypeMelee : UInt8 := 1
def mapfilterTypeScenario : UInt8 := 2
def mapfilterSizeSmall : UInt8 := 1
def mapfilterSizeMedium : UInt8 := 2
def mapfilterSizeLarge : UInt8 := 4
def mapfilterObsFull : UInt8 := 1
def mapfilterObsOndeath : UInt8 := 2
def mapfilterObsNone : UInt8 := 4

-- ================================================================ flags and type

/-- A word with these bits if the condition holds. -/
def bitsIf (c : Bool) (bits : UInt32) : UInt32 := if c then bits else 0

/-- The bits of a speed. -/
def speedBits (speed : UInt8) : UInt32 :=
  if speed = mapspeedSlow then 0 else if speed = mapspeedNormal then 1 else 2

/-- The bits of a visibility. -/
def visibilityBits (visibility : UInt8) : UInt32 :=
  if visibility = mapvisHideterrain then 0x100
  else if visibility = mapvisExplored then 0x200
  else if visibility = mapvisAlwaysvisible then 0x400
  else 0x800

/-- The bits of a setting for observers. -/
def observersBits (observers : UInt8) : UInt32 :=
  if observers = mapobsOndefeat then 0x2000
  else if observers = mapobsAllowed then 0x3000
  else if observers = mapobsReferees then 0x40000000
  else 0

/-- `calculate_game_flags`. -/
def calculateGameFlags (speed visibility observers mapFlags : UInt8) : UInt32 :=
  speedBits speed ||| visibilityBits visibility ||| observersBits observers
    ||| bitsIf (mapFlags &&& mapflagTeamstogether != 0) 0x4000
    ||| bitsIf (mapFlags &&& mapflagFixedteams != 0) 0x60000
    ||| bitsIf (mapFlags &&& mapflagUnitshare != 0) 0x1000000
    ||| bitsIf (mapFlags &&& mapflagRandomhero != 0) 0x2000000
    ||| bitsIf (mapFlags &&& mapflagRandomraces != 0) 0x4000000

/-- `calculate_game_type`. -/
def calculateGameType (filterMaker filterType filterSize filterObs : UInt8) : UInt32 :=
  bitsIf (filterMaker &&& mapfilterMakerUser != 0) 0x2000
    ||| bitsIf (filterMaker &&& mapfilterMakerBlizzard != 0) 0x4000
    ||| bitsIf (filterType &&& mapfilterTypeMelee != 0) 0x8000
    ||| bitsIf (filterType &&& mapfilterTypeScenario != 0) 0x10000
    ||| bitsIf (filterSize &&& mapfilterSizeSmall != 0) 0x20000
    ||| bitsIf (filterSize &&& mapfilterSizeMedium != 0) 0x40000
    ||| bitsIf (filterSize &&& mapfilterSizeLarge != 0) 0x80000
    ||| bitsIf (filterObs &&& mapfilterObsFull != 0) 0x100000
    ||| bitsIf (filterObs &&& mapfilterObsOndeath != 0) 0x200000
    ||| bitsIf (filterObs &&& mapfilterObsNone != 0) 0x400000

-- ======================================================================= slots

/-- `apply_melee_slot_init`. -/
def applyMeleeSlotInit (slots : List SlotInfo) : List SlotInfo :=
  slots.mapIdx fun i slot => { slot with team := i.toUInt8, race := 0x20 }

/-- `apply_random_races_force`. -/
def applyRandomRacesForce (slots : List SlotInfo) (mapFlags : UInt8) : List SlotInfo :=
  if mapFlags &&& mapflagRandomraces != 0 then slots.map fun slot => { slot with race := 0x20 }
  else slots

/-- A slot for an observer. -/
def observerSlot : SlotInfo :=
  { pid := 0, downloadStatus := 255, slotStatus := slotOpen, computer := 0, team := 24, colour := 24
    race := 0x20, computerType := 1, handicap := 100 }

/-- `add_observer_slots`. The loop pushes until there are enough. -/
def addObserverSlots (slots : List SlotInfo) (observers : UInt8) (editorVersion : UInt32)
    (customMaxSlots : Option UInt32) : List SlotInfo :=
  if observers = mapobsAllowed ∨ observers = mapobsReferees then
    let defaultMax : Nat := if editorVersion < 6060 then 12 else 24
    let maxSlots := (customMaxSlots.map UInt32.toNat).getD defaultMax
    slots ++ List.replicate (maxSlots - slots.length) observerSlot
  else slots

-- ==================================================================== checksum

/-- Four bytes, the lowest first. -/
def leWord (a b c d : UInt8) : UInt32 :=
  UInt32.ofNat (a.toNat + 256 * b.toNat + 65536 * c.toNat + 16777216 * d.toNat)

/-- The words `xor_rotate_left` takes: four bytes at a time, and the
bytes of the rest one by one. -/
def xorWords : List UInt8 → List UInt32
  | a :: b :: c :: d :: rest => leWord a b c d :: xorWords rest
  | rest => rest.map UInt8.toUInt32

/-- `xor_rotate_left`. -/
def xorRotateLeft (data : List UInt8) : UInt32 := Lib.Rotate.sum 3 0 (xorWords data)

/-- What `open_file` and `read` give for a name: the size of the file,
and what is read into a buffer of that size if the read succeeds. -/
structure MapEntry where
  size : Nat
  read : Option (List UInt8)
deriving DecidableEq, Repr

/-- The files of an archive, by name; `none` where there is none. -/
abbrev MapFiles := Text → Option MapEntry

/-- A script of the archive in place of the one outside, if it has it and
it is not empty. -/
def scriptOf (files : MapFiles) (name : Text) (outside : Option (List UInt8)) :
    Option (List UInt8) :=
  match files name with
  | some { read := some (b :: bytes), .. } => some (b :: bytes)
  | _ => outside

/-- `file_list`. -/
def fileList : List Text :=
  [txt "war3map.j", txt "scripts\\war3map.j", txt "war3map.w3e", txt "war3map.wpm",
    txt "war3map.doo", txt "war3map.w3u", txt "war3map.w3b", txt "war3map.w3d",
    txt "war3map.w3a", txt "war3map.w3q"]

/-- The bytes of a listed file, if they count: its size is neither zero
nor the largest, and something is read. -/
def counted (files : MapFiles) (name : Text) : Option (List UInt8) :=
  match files name with
  | some { size, read := some (b :: bytes) } =>
      if 0 < size ∧ size ≠ 0xFFFFFFFF then some (b :: bytes) else none
  | _ => none

/-- One file of the list: what counts is added to what has counted, and
the second name of the script is passed over once a script is found. -/
def countFile (files : MapFiles) (s : Bool × List (List UInt8)) (name : Text) :
    Bool × List (List UInt8) :=
  if s.1 = true ∧ name = txt "scripts\\war3map.j" then s
  else match counted files name with
    | some bytes => (s.1 || name == txt "war3map.j" || name == txt "scripts\\war3map.j",
        s.2 ++ [bytes])
    | none => s

/-- The files of the list that count, in order. -/
def countedFiles (files : MapFiles) : List (List UInt8) :=
  (fileList.foldl (countFile files) (false, [])).2

/-- The checksum of the scripts and the files that count. -/
def mapCrc (files : MapFiles) (commonJ blizzardJ : Option (List UInt8)) : UInt32 :=
  let common := ((scriptOf files (txt "Scripts\\common.j") commonJ).map xorRotateLeft).getD 0
  let blizzard := ((scriptOf files (txt "Scripts\\blizzard.j") blizzardJ).map xorRotateLeft).getD 0
  let val := Lib.Rotate.left (common ^^^ blizzard) 3
  let val := Lib.Rotate.left (val ^^^ 0x03F1379E) 3
  (countedFiles files).foldl (fun val bytes => Lib.Rotate.left (val ^^^ xorRotateLeft bytes) 3) val

/-- What the digest is of. -/
def hashed (files : MapFiles) (commonJ blizzardJ : Option (List UInt8)) : List UInt8 :=
  (scriptOf files (txt "Scripts\\common.j") commonJ).getD []
    ++ (scriptOf files (txt "Scripts\\blizzard.j") blizzardJ).getD []
    ++ [0x9E, 0x37, 0xF1, 0x03] ++ (countedFiles files).flatten

-- ====================================================================== cursor

/-- The cursor: what is left of the file, and the word last read. -/
structure Cursor where
  rest : List UInt8
  word : UInt32

namespace Cursor

/-- `cursor.seek(SeekFrom::Current(n))`. -/
def seek (c : Cursor) (n : Nat) : Cursor := { c with rest := c.rest.drop n }

/-- `cursor.read_exact(&mut u32_buf)`, with whether it succeeds. -/
def readWord (c : Cursor) : Cursor × Bool :=
  match c.rest with
  | a :: b :: x :: d :: rest => (⟨rest, leWord a b x d⟩, true)
  | _ => (⟨[], c.word⟩, false)

/-- What `read_cstring` leaves, with so many bytes before the string is
too long. -/
def behindCString : Nat → List UInt8 → List UInt8
  | _, [] => []
  | left, b :: rest =>
      if b = 0 then rest
      else match left with
        | 0 => rest
        | left + 1 => behindCString left rest

/-- `read_cstring`, the string not looked at. -/
def skipCString (c : Cursor) : Cursor := { c with rest := behindCString 1024 c.rest }

/-- So many strings. -/
def skipCStrings (c : Cursor) (n : Nat) : Cursor := (skipCString)^[n] c

end Cursor

-- ====================================================================== header

/-- What the loader keeps of the header. -/
structure W3iInfo where
  width : UInt16
  height : UInt16
  numTeams : UInt8
  editorVersion : UInt32
  slots : List SlotInfo
  mapOptions : UInt32
deriving DecidableEq, Repr

namespace W3iInfo

/-- What it starts with. -/
def start : W3iInfo :=
  { width := 128, height := 128, numTeams := 2, editorVersion := 0, slots := [], mapOptions := 0 }

/-- The race of a slot, by the race of the player. -/
def raceOf (race : UInt32) : UInt8 :=
  if race = 1 then 0x01 else if race = 2 then 0x02 else if race = 3 then 0x08
  else if race = 4 then 0x04 else 0x20

/-- The slot of the `i`th player. -/
def slotOf (i : Nat) (colour status race : UInt32) : SlotInfo :=
  { pid := 0, downloadStatus := 255
    slotStatus := if status = 2 then slotOccupied else if status = 1 then slotOpen else slotClosed
    computer := if status = 2 then 1 else 0
    team := (i / 6).toUInt8, colour := colour.toUInt8, race := raceOf race, computerType := 1
    handicap := 100 }

/-- One player: the slot is kept unless it is closed. -/
def readPlayer (s : Cursor × List SlotInfo) (i : Nat) : Cursor × List SlotInfo :=
  let c := s.1.readWord.1
  let colour := c.word
  let c := c.readWord.1
  let status := c.word
  let c := c.readWord.1
  let race := c.word
  let c := ((c.seek 4).skipCString).seek 16
  let slot := slotOf i colour status race
  (c, if slot.slotStatus ≠ slotClosed then s.2 ++ [slot] else s.2)

/-- Every slot whose colour is in the mask joins the team. -/
def joinForce (mask : UInt32) (team : Nat) (slots : List SlotInfo) : List SlotInfo :=
  (List.range 24).foldl (fun slots j =>
    if mask &&& ((1 : UInt32) <<< UInt32.ofNat j) != 0 then
      slots.map fun slot => if slot.colour = j.toUInt8 then { slot with team := team.toUInt8 }
        else slot
    else slots) slots

/-- One force. -/
def readForce (s : Cursor × List SlotInfo) (team : Nat) : Cursor × List SlotInfo :=
  let c := s.1.readWord.1
  let c := c.readWord.1
  (c.skipCString, joinForce c.word team s.2)

/-- The forces, if there are any. -/
def readForces (c : Cursor) (w : W3iInfo) : W3iInfo :=
  if c.readWord.2 then
    let c := c.readWord.1
    let rawTeams := min c.word.toNat 12
    { w with
      numTeams := rawTeams.toUInt8
      slots := ((List.range rawTeams).foldl readForce (c, w.slots)).2 }
  else w

/-- The players, if there are any, and the forces. -/
def readPlayers (c : Cursor) (w : W3iInfo) : W3iInfo :=
  if c.readWord.2 then
    let c := c.readWord.1
    let r := (List.range (min c.word.toNat 24)).foldl readPlayer (c, w.slots)
    readForces r.1 { w with slots := r.2 }
  else w

/-- From the size of the map on. -/
def readSettings (fileFormat : UInt32) (c : Cursor) (w : W3iInfo) : W3iInfo :=
  let c := c.readWord.1
  let rawW := c.word
  let c := c.readWord.1
  let rawH := c.word
  let c := c.readWord.1
  let w := { w with
    width := rawW.toUInt16
    height := rawH.toUInt16
    mapOptions := c.word &&& (mapoptMelee ||| mapoptFixedplayersettings ||| mapoptCustomforces) }
  let c := (c.seek 1).seek 4
  let c := if fileFormat = 25 then c.skipCString else c
  let c := (c.skipCStrings 3).seek 4
  let c := if fileFormat = 25 then c.skipCString else c
  let c := c.skipCStrings 3
  let c := if fileFormat = 25 then ((c.seek 24).skipCString).seek 5 else c
  readPlayers c w

/-- The header. -/
def read (buf : List UInt8) : W3iInfo :=
  let c : Cursor × Bool := Cursor.readWord ⟨buf, 0⟩
  if c.2 ∧ (c.1.word = 18 ∨ c.1.word = 25) then
    let fileFormat := c.1.word
    let version := (c.1.seek 4).readWord
    let w := if version.2 then { start with editorVersion := version.1.word }
      else start
    readSettings fileFormat ((version.1.skipCStrings 4).seek (32 + 16)) w
  else start

end W3iInfo

/-- The header of an archive: read into a buffer of its size, which is
zero behind what was read. -/
def w3iOf (files : MapFiles) : W3iInfo :=
  match files (txt "war3map.w3i") with
  | some { size, read := some bytes } =>
      if 0 < size then W3iInfo.read (bytes ++ List.replicate (size - bytes.length) 0)
      else W3iInfo.start
  | _ => W3iInfo.start

-- ===================================================================== loading

/-- `MapOverride`. -/
structure MapOverride where
  speed : Option UInt8
  visibility : Option UInt8
  observers : Option UInt8
  flags : Option UInt8
  gameType : Option UInt32
  filterMaker : Option UInt8
  filterType : Option UInt8
  filterSize : Option UInt8
  filterObs : Option UInt8
  options : Option UInt32
  width : Option UInt16
  height : Option UInt16
  numPlayers : Option UInt8
  numTeams : Option UInt8
  customSlots : Option (List SlotInfo)
  mapType : Option Text
  matchmakingCategory : Option Text
  defaultHcl : Option Text
  defaultPlayerScore : Option UInt32
  loadingInGame : Option Bool
  localPath : Option Text
  maxSlots : Option UInt32

/-- `MapOverride::default`. -/
def MapOverride.default : MapOverride :=
  ⟨none, none, none, none, none, none, none, none, none, none, none, none, none, none, none, none,
    none, none, none, none, none, none⟩

/-- `MapInfo` with the fields that the loader sets and the engine does
not read. -/
structure LoadedInfo extends MapInfo where
  numTeams : UInt8
  matchmakingCategory : Text
  defaultPlayerScore : UInt32
  loadingInGame : Bool
  localPath : Text
  maxSlots : UInt32

/-- `check_valid`, with its messages. -/
def MapInfo.checkValid (m : MapInfo) : Except Text Unit :=
  if m.path = [] ∨ 53 < m.path.length then
    .error (txt "invalid map_path [" ++ m.path
      ++ txt "]: must not be empty and <= 53 characters")
  else if m.width = 0 ∨ m.height = 0 then
    .error (txt "invalid map dimensions: width and height must be > 0")
  else match m.data with
    | some data =>
        if m.size ≠ UInt32.ofNat data.length then
          .error (txt "invalid map_size [" ++ decimal m.size.toNat
            ++ txt "]: size mismatch with actual map data [" ++ decimal data.length ++ txt "]")
        else .ok ()
    | none => .ok ()

/-- `ParsedMap`. -/
structure ParsedMap where
  info : LoadedInfo
  slots : List SlotInfo
  layoutStyle : UInt8

/-- Why a map is not loaded. -/
inductive LoadError where
  | archive (e : MpqError)
  | invalid (message : Text)

/-- The slots of a map whose header has none. -/
def defaultSlots : List SlotInfo :=
  (List.range 12).map fun i =>
    { pid := 0, downloadStatus := 255, slotStatus := slotOpen, computer := 0
      team := (i / 6).toUInt8, colour := i.toUInt8, race := 0x20, computerType := 1
      handicap := 100 }

/-- A header without slots gets twelve, in two teams. -/
def W3iInfo.orDefault (w : W3iInfo) : W3iInfo :=
  if w.slots = [] then { w with slots := defaultSlots, numTeams := 2 } else w

/-- The slots the options of the header ask for. -/
def W3iInfo.arranged (w : W3iInfo) : List SlotInfo :=
  let slots := if w.mapOptions &&& mapoptMelee != 0 then applyMeleeSlotInit w.slots else w.slots
  if w.mapOptions &&& mapoptFixedplayersettings == 0 then
    slots.map fun slot => { slot with race := slot.race ||| 0x40 }
  else slots

/-- The layout of the options. -/
def layoutStyleOf (options : UInt32) : UInt8 :=
  if options &&& mapoptCustomforces = 0 then 0
  else if options &&& mapoptFixedplayersettings = 0 then 1
  else 3

/-- The part of the loader behind the header: overrides, flags and
slots. -/
def buildMap [Bnet.Sha1] (fileName : Option Text) (mapData : List UInt8) (files : MapFiles)
    (commonJ blizzardJ : Option (List UInt8)) (ovr : MapOverride) : ParsedMap :=
  let w := (w3iOf files).orDefault
  let options := ovr.options.getD w.mapOptions
  let slots := ovr.customSlots.getD w.arranged
  let layoutStyle := layoutStyleOf options
  let observers := ovr.observers.getD mapobsNone
  let mapFlags := ovr.flags.getD (mapflagTeamstogether ||| mapflagFixedteams)
  let slots := applyRandomRacesForce slots mapFlags
  let slots := addObserverSlots slots observers w.editorVersion ovr.maxSlots
  let defaultFilterType := if options &&& mapoptMelee != 0 then mapfilterTypeMelee
    else mapfilterTypeScenario
  { info := {
      path := txt "Maps\\Download\\" ++ fileName.getD (txt "map.w3x")
      size := UInt32.ofNat mapData.length
      info := crc32 mapData
      crc := mapCrc files commonJ blizzardJ
      sha1 := Bnet.Sha1.digest (hashed files commonJ blizzardJ)
      numPlayers := ovr.numPlayers.getD slots.length.toUInt8
      numTeams := ovr.numTeams.getD w.numTeams
      width := (ovr.width.getD w.width).toNat
      height := (ovr.height.getD w.height).toNat
      gameType := ovr.gameType.getD (calculateGameType (ovr.filterMaker.getD mapfilterMakerUser)
        (ovr.filterType.getD defaultFilterType) (ovr.filterSize.getD mapfilterSizeLarge)
        (ovr.filterObs.getD mapfilterObsNone))
      flags := calculateGameFlags (ovr.speed.getD mapspeedFast)
        (ovr.visibility.getD mapvisDefault) observers mapFlags
      data := some mapData
      layoutStyle
      options
      mapType := ovr.mapType.getD (txt "dota")
      matchmakingCategory := ovr.matchmakingCategory.getD []
      defaultHcl := ovr.defaultHcl.getD []
      defaultPlayerScore := ovr.defaultPlayerScore.getD 1000
      loadingInGame := ovr.loadingInGame.getD false
      localPath := ovr.localPath.getD []
      maxSlots := ovr.maxSlots.getD 24 }
    slots
    layoutStyle }

namespace Mpq.Archive

/-- `open_file` of a name, and `read` into a buffer of its size. -/
def mapFiles [Codecs] (a : Archive) : MapFiles := fun name =>
  match a.hashTable.findBlockIndex name with
  | .ok (some i) => (a.blockTable.get i).map fun block =>
      { size := block.fileSize, read := (a.readFileByBlock i name block.fileSize).value? }
  | _ => none

end Mpq.Archive

open Lib

/-- `ParsedMap::load_mpq_with_override`, from the bytes of the file; no
override is the override of nothing. -/
def ParsedMap.loadMpqWithOverride [Mpq.Codecs] [Bnet.Sha1] (fileName : Option Text)
    (mapData : List UInt8) (commonJ blizzardJ : Option (List UInt8)) (ovr : MapOverride) :
    Checked LoadError ParsedMap :=
  match Mpq.Archive.fromBytes mapData with
  | .ok a =>
      let parsed := buildMap fileName mapData a.mapFiles commonJ blizzardJ ovr
      match parsed.info.toMapInfo.checkValid with
      | .ok () => .ok parsed
      | .error e => .err (.invalid e)
  | .err e => .err (.archive e)
  | .stuck => .stuck

end Spectre

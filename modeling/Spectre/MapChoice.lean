/-
The map of a new game, and the game that is played on it.

`resolve_map_info` makes file names of the selected map, of the default
map and of the name of the game, looks for each in three places, and
takes the first file that loads. With none it makes a map up, of twelve
free slots. What is in those files is up to whoever wrote them; in a
game on any of them the slots and the players match from the first
event on, computers or not (`slots_match_on_hosted_map`).

A file system is a function from paths to the bytes that can be read
there.
-/
import Spectre.MapLoading
import Spectre.Seating

namespace Spectre

-- ======================================================================= paths

/-- `Path::join`. -/
def joinPath (base path : Text) : Text :=
  if path.head? = some 0x2F ∨ base = [] then path
  else if base.getLast? = some 0x2F then base ++ path
  else base ++ 0x2F :: path

/-- `Path::file_name`. -/
def fileName (path : Text) : Option Text :=
  match ((path.splitOn 0x2F).filter fun part => part ≠ [] ∧ part ≠ txt ".").getLast? with
  | some name => if name = txt ".." then none else some name
  | none => none

-- ====================================================================== choice

/-- The configuration as far as the choice of a map reads it; `maps` are
the overrides, by file name. -/
structure MapConfig where
  mapPath : Text
  defaultMap : Option Text
  maps : Text → Option MapOverride

/-- A map file, with the extensions it may lack. -/
def withExtensions (file : Text) : List Text :=
  if (txt ".w3x").isSuffixOf file ∨ (txt ".w3m").isSuffixOf file then [file]
  else [file, file ++ txt ".w3x", file ++ txt ".w3m"]

namespace MapConfig

/-- The names a map file may have. -/
def candidates (cfg : MapConfig) (selected : Option Text) (gameName : Text) : List Text :=
  (selected.map withExtensions).getD [] ++ (cfg.defaultMap.map withExtensions).getD []
    ++ [gameName ++ txt ".w3x", gameName ++ txt ".w3m", gameName]

/-- The paths it is looked for at. -/
def paths (cfg : MapConfig) (selected : Option Text) (gameName : Text) : List Text :=
  (cfg.candidates selected gameName).flatMap fun file =>
    [joinPath cfg.mapPath file, joinPath (txt "maps") file, file]

/-- The override of the map. -/
def override (cfg : MapConfig) (selected : Option Text) (gameName : Text) : Option MapOverride :=
  ((selected.bind cfg.maps).or (cfg.defaultMap.bind cfg.maps)).or (cfg.maps gameName)

end MapConfig

/-- A map for a game, and the slots it brings. -/
structure ResolvedMap where
  info : LoadedInfo
  slots : Option (List SlotInfo)

/-- The map that is made up. -/
def fallbackInfo (gameName : Text) : LoadedInfo where
  path := txt "Maps\\Download\\" ++ gameName ++ txt ".w3x"
  size := 1000
  info := 1
  crc := 0x12345678
  sha1 := List.replicate 20 0
  numPlayers := 12
  numTeams := 2
  width := 128
  height := 128
  gameType := 1
  flags := 0x00000002 ||| 0x00000800 ||| 0x00004000 ||| 0x00060000
  data := none
  layoutStyle := 0
  options := 0
  mapType := txt "dota"
  matchmakingCategory := []
  defaultHcl := []
  defaultPlayerScore := 1000
  loadingInGame := false
  localPath := []
  maxSlots := 24

open Lib

section Choice

variable [Mpq.Codecs] [Bnet.Sha1]

/-- The first of the paths whose file loads. -/
def firstMap (files : Text → Option (List UInt8)) (commonJ blizzardJ : Option (List UInt8))
    (ovr : MapOverride) : List Text → Checked LoadError (Option ParsedMap)
  | [] => .ok none
  | path :: paths =>
      match files path with
      | none => firstMap files commonJ blizzardJ ovr paths
      | some data =>
          match ParsedMap.loadMpqWithOverride (fileName path) data commonJ blizzardJ ovr with
          | .ok parsed => .ok (some parsed)
          | .err _ => firstMap files commonJ blizzardJ ovr paths
          | .stuck => .stuck

/-- `resolve_map_info`. -/
def resolveMapInfo (files : Text → Option (List UInt8)) (cfg : MapConfig) (selected : Option Text)
    (gameName : Text) : Checked LoadError ResolvedMap := do
  let commonJ := (files (txt "war3/common.j")).or (files (txt "maps/common.j"))
  let blizzardJ := (files (txt "war3/blizzard.j")).or (files (txt "maps/blizzard.j"))
  let ovr := (cfg.override selected gameName).getD .default
  match ← firstMap files commonJ blizzardJ ovr (cfg.paths selected gameName) with
  | some parsed => return { info := parsed.info, slots := some parsed.slots }
  | none => return { info := fallbackInfo gameName, slots := none }

end Choice

/-- The configuration of `create_game_with_creator`, as far as the map
decides it. -/
def GameConfig.onMap (base : GameConfig) (r : ResolvedMap) : GameConfig :=
  { base with
    map := r.info.toMapInfo, numSlots := r.info.numPlayers.toNat, customSlots := r.slots }

/-- What the overrides of a configuration file are like: none brings
slots of its own. A table of more than 256 slots has no ids for all of
them. -/
def MapConfig.Ordinary (cfg : MapConfig) : Prop :=
  ∀ file ovr, cfg.maps file = some ovr → ovr.customSlots = none ∧ ∀ n ∈ ovr.maxSlots, n ≤ 256

-- ===================================================================== the game

namespace SlotInfo.Unseated

/-- Nobody sits in a slot as the loader makes it. -/
theorem human {s : SlotInfo} (h : s.Unseated) : s.human = false := by
  unfold SlotInfo.human
  rcases h.status with ⟨hstatus, -⟩ | ⟨-, hcomputer⟩
  · rw [hstatus]
    rfl
  · rw [hcomputer, Bool.and_comm]
    rfl

end SlotInfo.Unseated

/-- The slots of a game on a map. -/
theorem seating_new [RustStd] {cfg : GameConfig} {now : Nat} {seed : UInt32}
    (h : UnseatedSlots 256 (GameState.new cfg now seed).slots) :
    Seating (GameState.new cfg now seed) where
  length := h.length
  clean := fun s hs _ => (h.all s hs).pid
  seats := by
    have hnone : (GameState.new cfg now seed).slots.seats = [] := by
      unfold SlotTable.seats
      rw [List.map_eq_nil_iff, List.filter_eq_nil_iff]
      intro s hs
      rw [(h.all s hs).human]
      decide
    rw [hnone]
    exact List.Perm.nil
  pos := fun _ h => nomatch h
  fake := fun _ h => nomatch h
  host := fun h => absurd rfl h

/-- The free slots of a game without a map. -/
theorem unseated_fresh (n : Nat) (hn : n ≤ 24) : UnseatedSlots 256 (SlotTable.new n) where
  all := by
    intro s hs
    obtain ⟨i, hi, rfl⟩ := List.mem_map.1 hs
    refine ⟨rfl, rfl, rfl, rfl, .inl ⟨rfl, rfl⟩, ?_, ?_⟩
    · have hlt : i < n := List.mem_range.1 hi
      show i / 6 % 2 ^ 8 ≤ 24
      omega
    · show (0x20 : UInt8) &&& 0xBF ∈ _
      decide
  length := by
    unfold SlotTable.new
    rw [List.length_map, List.length_range]
    omega

section Hosted

variable [Mpq.Codecs] [Bnet.Sha1] {files : Text → Option (List UInt8)}

theorem unseated_firstMap {commonJ blizzardJ : Option (List UInt8)} {ovr : MapOverride}
    (hcustom : ovr.customSlots = none) (hmax : ∀ n ∈ ovr.maxSlots, n ≤ 256) {paths : List Text}
    {m : ParsedMap} (h : firstMap files commonJ blizzardJ ovr paths = .ok (some m)) :
    UnseatedSlots 256 m.slots := by
  induction paths with
  | nil => cases h
  | cons path paths ih =>
      unfold firstMap at h
      cases hdata : files path with
      | none =>
          rw [hdata] at h
          exact ih h
      | some data =>
          rw [hdata] at h
          dsimp only at h
          cases hload : ParsedMap.loadMpqWithOverride (fileName path) data commonJ blizzardJ
              ovr with
          | ok parsed =>
              rw [hload] at h
              cases h
              exact load_unseated hload hcustom hmax
          | err e =>
              rw [hload] at h
              exact ih h
          | stuck =>
              rw [hload] at h
              cases h

omit [Mpq.Codecs] [Bnet.Sha1] in
/-- The override of a map is ordinary, if there is one. -/
theorem override_ordinary {cfg : MapConfig} (hcfg : cfg.Ordinary) (selected : Option Text)
    (gameName : Text) :
    ((cfg.override selected gameName).getD .default).customSlots = none
      ∧ ∀ n ∈ ((cfg.override selected gameName).getD .default).maxSlots, n ≤ 256 := by
  cases hovr : cfg.override selected gameName with
  | none => exact ⟨rfl, fun _ hn => nomatch hn⟩
  | some ovr =>
      unfold MapConfig.override at hovr
      rw [Option.or_eq_some_iff, Option.or_eq_some_iff] at hovr
      rcases hovr with (hsel | ⟨-, hdefault⟩) | ⟨-, hname⟩
      · obtain ⟨file, -, hfile⟩ := Option.bind_eq_some_iff.1 hsel
        exact hcfg file ovr hfile
      · obtain ⟨file, -, hfile⟩ := Option.bind_eq_some_iff.1 hdefault
        exact hcfg file ovr hfile
      · exact hcfg gameName ovr hname

/-- Whatever the files are: on the map that a new game gets, the slots
and the players match in every run in which no slot is opened or closed
under a player and the fake player is not toggled off under the id of
the virtual host. -/
theorem slots_match_on_hosted_map [RustStd] {cfg : MapConfig} (hcfg : cfg.Ordinary)
    {selected : Option Text} {gameName : Text} {r : ResolvedMap}
    (h : resolveMapInfo files cfg selected gameName = .ok r) {base : GameConfig} {now : Nat}
    {seed : UInt32} {t : GameState}
    (hrun : Runs KeepsSeats (GameState.new (base.onMap r) now seed) t) : SlotsMatch t := by
  have hslots : UnseatedSlots 256 (GameState.new (base.onMap r) now seed).slots := by
    obtain ⟨hcustom, hmax⟩ := override_ordinary hcfg selected gameName
    unfold resolveMapInfo at h
    obtain ⟨found, hfound, h⟩ := Checked.bind_eq_ok.1 h
    cases found with
    | some m =>
        cases h
        exact unseated_firstMap hcustom hmax hfound
    | none =>
        -- the map that is made up
        cases h
        exact unseated_fresh 12 (by decide)
  obtain ⟨ht, hI⟩ := hrun.preserves (I := Seating) (new_wellFormed (base.onMap r) now seed)
    (seating_new hslots) fun s ev hs hev hC hI => step_seating hs hev hC hI
  exact hI.slotsMatch ht

end Hosted

section Played

open Scenario

attribute [local instance] Mpq.refusing Bnet.lengthHash

/-- One map on the disk, in the directory for maps. -/
def oneMap : Text → Option (List UInt8) := fun path =>
  if path = txt "maps/test.w3x" then some duelArchive else none

def plainMaps : MapConfig := { mapPath := txt "maps/", defaultMap := none, maps := fun _ => none }

/-- The map of a game called `test`. -/
def testMap : ResolvedMap :=
  (resolveMapInfo oneMap plainMaps none (txt "test")).value?.getD
    { info := fallbackInfo [], slots := none }

/-- The game on it. -/
def mapLobby : GameState := GameState.new (config.onMap testMap) 0 5

theorem resolve_testMap : resolveMapInfo oneMap plainMaps none (txt "test") = .ok testMap := by
  have hok : (resolveMapInfo oneMap plainMaps none (txt "test")).value?.isSome = true := by
    decide +kernel
  unfold testMap
  cases hmap : resolveMapInfo oneMap plainMaps none (txt "test") with
  | ok r => rfl
  | err e =>
      rw [hmap] at hok
      cases hok
  | stuck =>
      rw [hmap] at hok
      cases hok

/-- Two clients join, the slot behind them is closed, and they change
places. -/
theorem slots_match_on_hosted_map_test :
    testMap.slots.map List.length = some 3 ∧ Runs KeepsSeats mapLobby (mapLobby.run swappedLobby)
      ∧ (mapLobby.run swappedLobby).slots.seats = [2, 1]
      ∧ SlotsMatch (mapLobby.run swappedLobby) := by
  have hrun : Runs KeepsSeats mapLobby (mapLobby.run swappedLobby) :=
    Runs.of_meets (by decide +kernel)
  exact ⟨by decide +kernel, hrun, by decide +kernel,
    slots_match_on_hosted_map (fun _ _ h => absurd h (by simp [plainMaps])) resolve_testMap hrun⟩

end Played

end Spectre

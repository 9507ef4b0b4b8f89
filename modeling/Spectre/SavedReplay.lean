/-
What a saved replay says of a game (`body.rs`, `save_replay`).

The engine hands one thing after another to the replay of a game: who
hosts it, who plays, the table at the start, who leaves while the map
loads, and then the records of the game. At its end the file is written.

The reader here goes by the file alone, as the game does that opens it:
block by block through the file, each with its checksum, and then field
by field through the body. It finds what was handed over: of what can be
set more than once the last, of the rest everything in its order
(`saved_replay_reads_back`).
-/
import Spectre.Grammar
import Spectre.Lib.Folds
import Spectre.Lib.Reading
import Spectre.W3gFiles

namespace Spectre

open DotaTv

-- ================================================================== the writer

/-- `ReplayBody::new`. -/
def ReplayBody.new (hostPid : UInt8) (hostName : Text) : ReplayBody := { hostPid, hostName }

/-- `set_game`. -/
def ReplayBody.setGame (r : ReplayBody) (gameName : Text) (statString : List UInt8)
    (mapGameType : UInt32) : ReplayBody :=
  { r with gameName, statString, mapGameType }

/-- `add_server_chat`. -/
def ReplayBody.addServerChat (r : ReplayBody) (pid : UInt8) (message : Text) : ReplayBody :=
  r.addChat pid 0x20 0 message

/-- `save_replay`: the bytes of the file. -/
def saveReplay [Zlib] (body : ReplayBody) (war3Version : UInt32) (build : UInt16) (tft : Bool) :
    Except ReplayBodyError (List UInt8) :=
  body.finish.map fun out =>
    W3gWriter.pack { war3Version, build, tft, replayLengthMs := out.2 } out.1

/-- What the engine may hand to a replay. -/
inductive ReplayCall where
  | setHost (pid : UInt8) (name : Text)
  | setGame (gameName : Text) (statString : List UInt8) (mapGameType : UInt32)
  | addPlayer (pid : UInt8) (name : Text)
  | setStart (slots : List UInt8) (randomSeed : UInt32) (selectMode startSpots : UInt8)
  | addTimeslot (timeIncrement : Nat) (actions : List UInt8)
  | addTimeslot2 (actions : List UInt8)
  | addChat (pid flag : UInt8) (extra : Nat) (message : Text)
  | addServerChat (pid : UInt8) (message : Text)
  | addLeaver (pid : UInt8) (reason result : Nat)
  | addLeaverLoading (pid : UInt8) (reason result : Nat)
deriving DecidableEq

/-- One call. -/
def ReplayBody.call (r : ReplayBody) : ReplayCall → ReplayBody
  | .setHost pid name => r.setHost pid name
  | .setGame gameName statString mapGameType => r.setGame gameName statString mapGameType
  | .addPlayer pid name => r.addPlayer pid name
  | .setStart slots randomSeed selectMode startSpots =>
      r.setStart slots randomSeed selectMode startSpots
  | .addTimeslot timeIncrement actions => r.addTimeslot timeIncrement actions
  | .addTimeslot2 actions => r.addTimeslot2 actions
  | .addChat pid flag extra message => r.addChat pid flag extra message
  | .addServerChat pid message => r.addServerChat pid message
  | .addLeaver pid reason result => r.addLeaver pid reason result
  | .addLeaverLoading pid reason result => r.addLeaverLoading pid reason result

/-- One call after another. -/
def ReplayBody.calls (r : ReplayBody) (calls : List ReplayCall) : ReplayBody :=
  calls.foldl ReplayBody.call r

-- ================================================================== the reader

/-- The start record: the slot table as it was sent, and what goes with
it. -/
structure ReplayStart where
  slots : List UInt8
  randomSeed : UInt32
  selectMode : UInt8
  startSpots : UInt8
deriving DecidableEq

/-- What stands before the records. -/
structure SavedGame where
  host : UInt8 × Text
  gameName : Text
  statString : List UInt8
  slotCount : Nat
  players : List (UInt8 × Text)
  start : ReplayStart
  loading : List ReplayRecord
deriving DecidableEq

/-- What a file says. -/
structure SavedReplay where
  lengthMs : Nat
  game : SavedGame
  records : List ReplayRecord
deriving DecidableEq

namespace SavedGame

/-- A `u32`. -/
def word : Lib.Reader UInt8 Nat := Lib.field 4 fun bytes => some (readLe bytes)

/-- A `u16`. -/
def half : Lib.Reader UInt8 Nat := Lib.field 2 fun bytes => some (readLe bytes)

/-- A player record. -/
def player : Lib.Reader UInt8 (UInt8 × Text) :=
  (Lib.Reader.expect [22]).andThen fun _ =>
  (Lib.Reader.next).andThen fun pid =>
  (Lib.Reader.upTo 0).andThen fun name =>
  (Lib.Reader.expect ([1, 0] ++ u32le 0)).andThen fun _ =>
  Lib.Reader.give (pid, name)

/-- The start record, behind its kind: its size says how many bytes of
it are slots. -/
def startRecord : Lib.Reader UInt8 ReplayStart :=
  half.andThen fun size =>
  (Lib.Reader.next).andThen fun _ =>
  (Lib.field (size - 7) some).andThen fun slots =>
  word.andThen fun seed =>
  (Lib.Reader.next).andThen fun selectMode =>
  (Lib.Reader.next).andThen fun startSpots =>
  Lib.Reader.give ⟨slots, seed.toUInt32, selectMode, startSpots⟩

/-- Everything before the records. -/
def read : Lib.Reader UInt8 SavedGame :=
  (Lib.Reader.expect (u32le 0x110 ++ [0])).andThen fun _ =>
  (Lib.Reader.next).andThen fun hostPid =>
  (Lib.Reader.upTo 0).andThen fun hostName =>
  (Lib.Reader.expect [1, 0]).andThen fun _ =>
  (Lib.Reader.upTo 0).andThen fun gameName =>
  (Lib.Reader.expect [0]).andThen fun _ =>
  (Lib.Reader.upTo 0).andThen fun statString =>
  word.andThen fun slotCount =>
  (Lib.Reader.expect (u32le 0x1 ++ u32le 0x12F8B0)).andThen fun _ =>
  (Lib.Reader.readWhile (fun b => b == 22) player).andThen fun players =>
  (Lib.Reader.expect [25]).andThen fun _ =>
  startRecord.andThen fun start =>
  (Lib.Reader.expect (0x1A :: u32le 1 ++ 0x1B :: u32le 1)).andThen fun _ =>
  (Lib.Reader.readWhile (fun b => b == 0x17) readRecord).andThen fun loading =>
  (Lib.Reader.expect (0x1C :: u32le 1)).andThen fun _ =>
  Lib.Reader.give
    ⟨(hostPid, hostName), gameName, statString, slotCount, players, start, loading⟩

end SavedGame

/-- A body: what stands before the records, and the records. -/
def openBody (body : List UInt8) : Option (SavedGame × List ReplayRecord) :=
  (SavedGame.read body).bind fun found =>
    (Lib.parse readRecord found.2).map fun records => (found.1, records)

/-- A file: its blocks, if all their checksums are right, and the body
in them, as far as its declared length goes. -/
def openReplay [Zlib] (file : List UInt8) : Option SavedReplay :=
  (blocksOf file).bind fun blocks =>
    if blocks.all fun b => b.checksum == b.sum then
      (inflateAll blocks).bind fun plain =>
        (openBody (plain.take (fieldAt 40 4 file))).map fun found =>
          ⟨fieldAt 60 4 file, found.1, found.2⟩
    else none

-- ================================================================= what was said

namespace ReplayCall

/-- The host that a call names. -/
def host? : ReplayCall → Option (UInt8 × Text)
  | setHost pid name => some (pid, name)
  | _ => none

/-- The name and the map of the game that a call gives. -/
def game? : ReplayCall → Option (Text × List UInt8)
  | setGame gameName statString _ => some (gameName, statString)
  | _ => none

/-- The start that a call sets; a table that is not whole slots is
refused. -/
def start? : ReplayCall → Option ReplayStart
  | setStart slots randomSeed selectMode startSpots =>
      if slots.length % 9 = 0 then some ⟨slots, randomSeed, selectMode, startSpots⟩ else none
  | _ => none

/-- Who left while the map was loading. -/
def loading? : ReplayCall → Option ReplayRecord
  | addLeaverLoading pid reason result => some (.leaver pid reason result)
  | _ => none

/-- The record that a call adds. -/
def record? : ReplayCall → Option ReplayRecord
  | addTimeslot timeIncrement actions => some (.timeslot timeIncrement actions)
  | addTimeslot2 actions => some (.timeslot2 actions)
  | addChat pid flag extra message => some (.chat pid flag extra message)
  | addServerChat pid message => some (.chat pid 0x20 0 message)
  | addLeaver pid reason result => some (.leaver pid reason result)
  | _ => none

/-- The time that a call adds. -/
def elapsed : ReplayCall → Nat
  | addTimeslot timeIncrement _ => timeIncrement
  | _ => 0

/-- The players that are added, but for those with the id of the host of
the moment. -/
def guests : UInt8 → List ReplayCall → List (UInt8 × Text)
  | _, [] => []
  | _, setHost pid _ :: calls => guests pid calls
  | host, addPlayer pid name :: calls =>
      if pid = host then guests host calls else (pid, name) :: guests host calls
  | host, _ :: calls => guests host calls

/-- What a call hands over can be written: names end at their first
zero, sizes have two bytes, and slots are counted with one. -/
def Fits (c : ReplayCall) : Prop :=
  match c with
  | setHost _ name => 0 ∉ name
  | setGame gameName statString _ => 0 ∉ gameName ∧ 0 ∉ statString
  | addPlayer _ name => 0 ∉ name
  | setStart slots _ _ _ => slots.length < 256 * 9
  | addLeaverLoading pid reason result => (ReplayRecord.leaver pid reason result).fits = true
  | addTimeslot timeIncrement actions => (ReplayRecord.timeslot timeIncrement actions).fits = true
  | addTimeslot2 actions => (ReplayRecord.timeslot2 actions).fits = true
  | addChat pid flag extra message => (ReplayRecord.chat pid flag extra message).fits = true
  | addServerChat pid message => (ReplayRecord.chat pid 0x20 0 message).fits = true
  | addLeaver pid reason result => (ReplayRecord.leaver pid reason result).fits = true

end ReplayCall

namespace ReplayBody

/-- The host of a body. -/
def host (r : ReplayBody) : UInt8 × Text := (r.hostPid, r.hostName)

/-- The name and the map of a body's game. -/
def game (r : ReplayBody) : Text × List UInt8 := (r.gameName, r.statString)

/-- The start of a body, once it is set. -/
def start? (r : ReplayBody) : Option ReplayStart :=
  if r.startSet then some ⟨r.slots, r.randomSeed, r.selectMode, r.startSpots⟩ else none

/-- There is a start once it is set. -/
theorem isSome_start? (r : ReplayBody) : r.start?.isSome = r.startSet := by
  unfold start?
  cases r.startSet <;> rfl

variable {r : ReplayBody}

-- One call: what it sets, and what it adds.

/-- The host after a call. -/
theorem call_host (r : ReplayBody) (c : ReplayCall) :
    (r.call c).host = c.host?.elim r.host id := by
  cases c with
  | addPlayer pid name =>
      unfold call addPlayer
      dsimp only
      split <;> rfl
  | setStart slots randomSeed selectMode startSpots =>
      unfold call setStart
      dsimp only
      split <;> rfl
  | _ => rfl

/-- The game after a call. -/
theorem call_game (r : ReplayBody) (c : ReplayCall) :
    (r.call c).game = c.game?.elim r.game id := by
  cases c with
  | addPlayer pid name =>
      unfold call addPlayer
      dsimp only
      split <;> rfl
  | setStart slots randomSeed selectMode startSpots =>
      unfold call setStart
      dsimp only
      split <;> rfl
  | _ => rfl

/-- The start after a call. -/
theorem call_start (r : ReplayBody) (c : ReplayCall) :
    (r.call c).start? = c.start?.elim r.start? some := by
  cases c with
  | addPlayer pid name =>
      unfold call addPlayer
      dsimp only
      split <;> rfl
  | setStart slots randomSeed selectMode startSpots =>
      unfold call setStart ReplayCall.start?
      dsimp only
      split <;> rfl
  | _ => rfl

/-- The records after a call. -/
theorem call_records (r : ReplayBody) (c : ReplayCall) :
    (r.call c).records = r.records ++ c.record?.toList := by
  cases c with
  | addPlayer pid name =>
      unfold call addPlayer
      dsimp only
      split <;> exact (List.append_nil _).symm
  | setStart slots randomSeed selectMode startSpots =>
      unfold call setStart
      dsimp only
      split <;> exact (List.append_nil _).symm
  | setHost | setGame | addLeaverLoading => exact (List.append_nil _).symm
  | addTimeslot | addTimeslot2 | addChat | addServerChat | addLeaver => rfl

/-- Who left while loading, after a call. -/
theorem call_loading (r : ReplayBody) (c : ReplayCall) :
    (r.call c).loadingBlocks
      = r.loadingBlocks ++ (c.loading?.map ReplayRecord.bytes).toList := by
  cases c with
  | addPlayer pid name =>
      unfold call addPlayer
      dsimp only
      split <;> exact (List.append_nil _).symm
  | setStart slots randomSeed selectMode startSpots =>
      unfold call setStart
      dsimp only
      split <;> exact (List.append_nil _).symm
  | addLeaverLoading => rfl
  | setHost | setGame | addTimeslot | addTimeslot2 | addChat | addServerChat | addLeaver =>
      exact (List.append_nil _).symm

-- A run of calls.

/-- The host is the one named last. -/
theorem calls_host (r : ReplayBody) (calls : List ReplayCall) :
    (r.calls calls).host = (calls.filterMap ReplayCall.host?).getLast?.elim r.host id :=
  Lib.foldl_last call_host calls r

/-- So is the game. -/
theorem calls_game (r : ReplayBody) (calls : List ReplayCall) :
    (r.calls calls).game = (calls.filterMap ReplayCall.game?).getLast?.elim r.game id :=
  Lib.foldl_last call_game calls r

/-- So is the start. -/
theorem calls_start (r : ReplayBody) (calls : List ReplayCall) :
    (r.calls calls).start? = (calls.filterMap ReplayCall.start?).getLast?.elim r.start? some :=
  Lib.foldl_last call_start calls r

/-- The records are those that were added, in order. -/
theorem calls_records (r : ReplayBody) (calls : List ReplayCall) :
    (r.calls calls).records = r.records ++ calls.filterMap ReplayCall.record? :=
  Lib.foldl_filed call_records calls r

/-- So are those who left while loading. -/
theorem calls_loading (r : ReplayBody) (calls : List ReplayCall) :
    (r.calls calls).loadingBlocks
      = r.loadingBlocks ++ (calls.filterMap ReplayCall.loading?).map ReplayRecord.bytes := by
  rw [List.map_filterMap]
  exact Lib.foldl_filed call_loading calls r

/-- The players are those added, but for the host. -/
theorem calls_players (r : ReplayBody) (calls : List ReplayCall) :
    (r.calls calls).players = r.players ++ ReplayCall.guests r.hostPid calls := by
  induction calls generalizing r with
  | nil => exact (List.append_nil _).symm
  | cons c calls ih =>
      show ((r.call c).calls calls).players = _
      rw [ih]
      cases c with
      | addPlayer pid name =>
          unfold call addPlayer
          rw [ReplayCall.guests]
          dsimp only
          split
          · rfl
          · rw [List.append_assoc]
            rfl
      | setStart slots randomSeed selectMode startSpots =>
          unfold call setStart
          dsimp only
          split <;> rfl
      | _ => rfl

/-- The length after a call, in 32 bits. -/
theorem call_length (r : ReplayBody) (c : ReplayCall) (h : r.replayLengthMs < 2 ^ 32) :
    (r.call c).replayLengthMs = (r.replayLengthMs + c.elapsed) % 2 ^ 32 := by
  have hnone : r.replayLengthMs = (r.replayLengthMs + 0) % 2 ^ 32 := (Nat.mod_eq_of_lt h).symm
  cases c with
  | addPlayer pid name =>
      unfold call addPlayer
      dsimp only
      split <;> exact hnone
  | setStart slots randomSeed selectMode startSpots =>
      unfold call setStart
      dsimp only
      split <;> exact hnone
  | addTimeslot => rfl
  | _ => exact hnone

/-- The length is the time added up. -/
theorem calls_length (r : ReplayBody) (calls : List ReplayCall) (h : r.replayLengthMs < 2 ^ 32) :
    (r.calls calls).replayLengthMs
      = (r.replayLengthMs + (calls.map ReplayCall.elapsed).sum) % 2 ^ 32 := by
  induction calls generalizing r with
  | nil => exact (Nat.mod_eq_of_lt h).symm
  | cons c calls ih =>
      have hc := call_length r c h
      have hlt : (r.call c).replayLengthMs < 2 ^ 32 := by
        rw [hc]
        exact Nat.mod_lt _ (by decide)
      show ((r.call c).calls calls).replayLengthMs = _
      rw [ih _ hlt, hc, List.map_cons, List.sum_cons]
      omega

-- =================================================================== read back

/-- What a body consists of can be told apart: names have no zero in
them, and the number of slots has room in its byte. -/
structure Clean (r : ReplayBody) : Prop where
  host : 0 ∉ r.hostName
  game : 0 ∉ r.gameName
  stat : 0 ∉ r.statString
  players : ∀ p ∈ r.players, 0 ∉ p.2
  slots : r.slots.length = 9 * r.numSlots
  count : r.numSlots < 256

/-- A call that can be written keeps a body readable. -/
theorem Clean.call (h : r.Clean) {c : ReplayCall} (hc : c.Fits) : (r.call c).Clean := by
  cases c with
  | setHost pid name => exact { h with host := hc }
  | setGame gameName statString mapGameType => exact { h with game := hc.1, stat := hc.2 }
  | addPlayer pid name =>
      unfold ReplayBody.call addPlayer
      dsimp only
      split
      · exact h
      · refine { h with players := fun p hp => ?_ }
        rcases List.mem_append.1 hp with hp | hp
        · exact h.players p hp
        · rw [List.mem_singleton.1 hp]
          exact hc
  | setStart slots randomSeed selectMode startSpots =>
      have hc : slots.length < 256 * 9 := hc
      unfold ReplayBody.call setStart
      dsimp only
      split
      · rename_i hwhole
        refine { h with slots := ?_, count := ?_ }
        · show slots.length = 9 * (slots.length / 9)
          omega
        · show slots.length / 9 < 256
          omega
      · exact h
  | _ => exact { h with }

/-- So do calls one after another. -/
theorem Clean.calls (h : r.Clean) {calls : List ReplayCall} (hcalls : ∀ c ∈ calls, c.Fits) :
    (r.calls calls).Clean := by
  induction calls generalizing r with
  | nil => exact h
  | cons c calls ih =>
      exact ih (h.call (hcalls c List.mem_cons_self))
        fun d hd => hcalls d (List.mem_cons_of_mem c hd)

/-- A new body is readable. -/
theorem clean_new (hostPid : UInt8) {hostName : Text} (h : 0 ∉ hostName) :
    (new hostPid hostName).Clean where
  host := h
  game := List.not_mem_nil
  stat := List.not_mem_nil
  players := fun _ hp => (List.not_mem_nil hp).elim
  slots := rfl
  count := Nat.succ_pos 255

end ReplayBody

section Read

open Lib.Reader

/-- A word is read. -/
theorem finds_word {n : Nat} (h : n < 2 ^ 32) : Finds SavedGame.word (u32le n) n :=
  .field rfl (congrArg some (readLe_u32le h))

/-- A half word is read. -/
theorem finds_half {n : Nat} (h : n < 65536) : Finds SavedGame.half (u16le n) n :=
  .field rfl (congrArg some (readLe_u16le h))

/-- A player record is read back. -/
theorem finds_player {p : UInt8 × Text} (h : 0 ∉ p.2) :
    Finds SavedGame.player (ReplayBody.playerBlock p) p := by
  have hbytes : ReplayBody.playerBlock p
      = [22] ++ ([p.1] ++ ((p.2 ++ [0]) ++ (([1, 0] ++ u32le 0) ++ []))) := by
    unfold ReplayBody.playerBlock
    simp only [List.append_assoc, List.cons_append, List.nil_append, List.append_nil]
  rw [hbytes]
  exact (Finds.expect _).andThen ((Finds.next _).andThen
    ((Finds.upTo h).andThen ((Finds.expect _).andThen (.give _))))

/-- The start record is read back. -/
theorem finds_startRecord {r : ReplayBody} (h : r.Clean) :
    Finds SavedGame.startRecord
      (u16le (7 + r.numSlots * 9) ++ ([r.numSlots.toUInt8] ++ (r.slots
        ++ (u32le r.randomSeed.toNat ++ ([r.selectMode] ++ ([r.startSpots] ++ []))))))
      ⟨r.slots, r.randomSeed, r.selectMode, r.startSpots⟩ := by
  have hcount := h.count
  have hslots : r.slots.length = 7 + r.numSlots * 9 - 7 := by
    rw [h.slots]
    omega
  have hseed : r.randomSeed.toNat.toUInt32 = r.randomSeed := UInt32.ofNat_toNat
  have hgive : Finds
      (give ⟨r.slots, r.randomSeed.toNat.toUInt32, r.selectMode, r.startSpots⟩) ([] : List UInt8)
      (⟨r.slots, r.randomSeed, r.selectMode, r.startSpots⟩ : ReplayStart) := by
    rw [hseed]
    exact .give _
  exact (finds_half (by omega)).andThen ((Finds.next _).andThen
    ((Finds.field hslots rfl).andThen ((finds_word r.randomSeed.toNat_lt).andThen
      ((Finds.next _).andThen ((Finds.next _).andThen hgive)))))

/-- Everything before the records is read back. -/
theorem finds_savedGame {r : ReplayBody} (h : r.Clean) (hset : r.startSet = true)
    {loading : List ReplayRecord} (hleft : r.loadingBlocks = loading.map ReplayRecord.bytes)
    (hfits : ∀ l ∈ loading, l.fits = true)
    (hkind : ∀ l ∈ loading, l.bytes.head?.any (fun b => b == 0x17) = true) :
    ∃ prologue, r.prologue = .ok prologue
      ∧ Finds SavedGame.read prologue ⟨r.host, r.gameName, r.statString, r.numSlots, r.players,
          ⟨r.slots, r.randomSeed, r.selectMode, r.startSpots⟩, loading⟩ := by
  have hcount : r.numSlots < 2 ^ 32 := Nat.lt_trans h.count (by decide)
  have hend : Finds ((readWhile (fun b => b == 0x17) readRecord).andThen fun loading =>
        (expect (0x1C :: u32le 1)).andThen fun _ =>
          give (⟨(r.hostPid, r.hostName), r.gameName, r.statString, r.numSlots, r.players,
            ⟨r.slots, r.randomSeed, r.selectMode, r.startSpots⟩, loading⟩ : SavedGame))
      (loading.flatMap ReplayRecord.bytes ++ ((0x1C :: u32le 1) ++ []))
      ⟨r.host, r.gameName, r.statString, r.numSlots, r.players,
        ⟨r.slots, r.randomSeed, r.selectMode, r.startSpots⟩, loading⟩ :=
    .whileThen hkind (fun l hl => readRecord_bytes (hfits l hl)) (List.cons_ne_nil _ _) rfl
      ((Finds.expect _).andThen (.give _))
  have hplayers : ∀ p ∈ r.players,
      (ReplayBody.playerBlock p).head?.any (fun b => b == 22) = true := fun _ _ => rfl
  refine ⟨(u32le 0x110 ++ [0]) ++ ([r.hostPid] ++ ((r.hostName ++ [0]) ++ ([1, 0]
    ++ ((r.gameName ++ [0]) ++ ([0] ++ ((r.statString ++ [0]) ++ (u32le r.numSlots
    ++ ((u32le 0x1 ++ u32le 0x12F8B0) ++ (r.players.flatMap ReplayBody.playerBlock ++ ([25]
    ++ ((u16le (7 + r.numSlots * 9) ++ ([r.numSlots.toUInt8] ++ (r.slots
      ++ (u32le r.randomSeed.toNat ++ ([r.selectMode] ++ ([r.startSpots] ++ []))))))
    ++ ((0x1A :: u32le 1 ++ 0x1B :: u32le 1)
    ++ (loading.flatMap ReplayRecord.bytes ++ ((0x1C :: u32le 1) ++ [])))))))))))))), ?_, ?_⟩
  · unfold ReplayBody.prologue
    rw [if_pos hset, hleft]
    simp only [List.flatMap_def, List.append_assoc, List.cons_append, List.nil_append,
      List.append_nil]
  · exact (Finds.expect _).andThen ((Finds.next _).andThen ((Finds.upTo h.host).andThen
      ((Finds.expect _).andThen ((Finds.upTo h.game).andThen ((Finds.expect _).andThen
      ((Finds.upTo h.stat).andThen ((finds_word hcount).andThen ((Finds.expect _).andThen
      (.whileThen hplayers (fun p hp => finds_player (h.players p hp)) (List.cons_ne_nil _ _) rfl
      ((Finds.expect _).andThen ((finds_startRecord h).andThen
      ((Finds.expect _).andThen hend))))))))))))

/-- A body is read back. -/
theorem openBody_finish {r : ReplayBody} (h : r.Clean) (hset : r.startSet = true)
    {loading : List ReplayRecord} (hleft : r.loadingBlocks = loading.map ReplayRecord.bytes)
    (hloading : ∀ l ∈ loading, l.fits = true)
    (hkind : ∀ l ∈ loading, l.bytes.head?.any (fun b => b == 0x17) = true)
    (hfits : ∀ c ∈ r.records, c.fits = true) :
    ∃ body, r.finish = .ok (body, r.replayLengthMs)
      ∧ openBody body = some (⟨r.host, r.gameName, r.statString, r.numSlots, r.players,
          ⟨r.slots, r.randomSeed, r.selectMode, r.startSpots⟩, loading⟩, r.records) := by
  obtain ⟨prologue, hprologue, hread⟩ := finds_savedGame h hset hleft hloading hkind
  have hparse : Lib.parse readRecord r.blocks = some r.records := (parse_blocks_iff r).2 hfits
  refine ⟨prologue ++ r.blocks, ?_, ?_⟩
  · unfold ReplayBody.finish
    rw [hprologue]
  · unfold openBody
    rw [hread r.blocks, Option.bind_some, hparse]
    rfl

end Read

-- ==================================================================== the file

/-- The length of the game stands in the header. -/
theorem fieldAt_lengthMs [Zlib] (w : W3gWriter) (padded : List UInt8) (declaredLen : Nat)
    (h : w.replayLengthMs < 2 ^ 32) :
    fieldAt 60 4 (w.emit padded declaredLen) = w.replayLengthMs := by
  have hmagic : (txt "Warcraft III recorded game").length = 26 := by decide +kernel
  have htag : (txt (if w.tft then "PX3W" else "3RAW")).length = 4 := by
    cases w.tft <;> decide +kernel
  generalize hcrc : (Spectre.crc32 (w.headerFields declaredLen
    ((chunksExact padded).map Zlib.compress) ++ u32le 0)).toNat = crc
  have hemit : ∃ front rest, w.emit padded declaredLen = front ++ (u32le w.replayLengthMs ++ rest)
      ∧ front.length = 60 := by
    generalize hblocks : (chunksExact padded).map Zlib.compress = blocks at hcrc
    refine ⟨txt "Warcraft III recorded game" ++ [0x1A, 0] ++ u32le headerSize
      ++ u32le (headerSize + (blocks.map List.length).sum + blocks.length * 8) ++ u32le 1
      ++ u32le declaredLen ++ u32le blocks.length ++ txt (if w.tft then "PX3W" else "3RAW")
      ++ u32le w.war3Version.toNat ++ u16le w.build.toNat ++ u16le 0xC000,
      u32le crc ++ blocks.flatMap blockBytes, ?_, ?_⟩
    · unfold W3gWriter.emit
      dsimp only
      rw [hblocks, hcrc]
      unfold W3gWriter.headerFields
      simp only [List.append_assoc]
    · simp only [List.length_append, hmagic, htag]
      rfl
  obtain ⟨front, rest, hemit, hfront⟩ := hemit
  have hword : (u32le w.replayLengthMs).length = 4 := rfl
  rw [hemit, fieldAt_append hfront hword, readLe_u32le h]

/-- A file is opened if its body is. -/
theorem openReplay_pack [Zlib] (hfit : BlocksFit) (w : W3gWriter) (hms : w.replayLengthMs < 2 ^ 32)
    {body : List UInt8} (hbody : body.length < 2 ^ 31) {found : SavedGame × List ReplayRecord}
    (hopen : openBody body = some found) :
    openReplay (w.pack body) = some ⟨w.replayLengthMs, found.1, found.2⟩ := by
  have hlength := padded_whole body
  have hcount : (body ++ List.replicate (blockSize - body.length % blockSize) 0).length / blockSize
      < 2 ^ 32 := by
    rw [hlength, Nat.mul_div_cancel _ (by decide)]
    have hlt := Nat.div_le_self body.length blockSize
    omega
  have hholds : HoldsBody body (w.pack body) := by
    unfold W3gWriter.pack
    refine holdsBody_emit hfit w ?_ hcount (by omega) (List.take_left ..)
    rw [hlength]
    exact Nat.mul_mod_left _ _
  have hlengthMs : fieldAt 60 4 (w.pack body) = w.replayLengthMs := fieldAt_lengthMs w _ _ hms
  obtain ⟨blocks, hblocks, -, hsums, plain, hplain, htake⟩ := hholds.blocks
  have hall : (blocks.all fun b => b.checksum == b.sum) = true :=
    List.all_eq_true.2 fun b hb => beq_iff_eq.2 (hsums b hb).2.1
  unfold openReplay
  rw [hblocks, Option.bind_some, if_pos hall, hplain, Option.bind_some, htake, hopen, hlengthMs]
  rfl

/-- Who left while loading can be told by the kind of the record. -/
theorem leaver_of_loading? {c : ReplayCall} {l : ReplayRecord} (hc : c.Fits)
    (h : c.loading? = some l) : l.fits = true ∧ l.bytes.head?.any (fun b => b == 0x17) = true := by
  cases c with
  | addLeaverLoading pid reason result =>
      cases h
      exact ⟨hc, rfl⟩
  | _ => cases h

/-- A record that is added fits if its call does. -/
theorem fits_of_record? {c : ReplayCall} {x : ReplayRecord} (hc : c.Fits)
    (h : c.record? = some x) : x.fits = true := by
  cases c with
  | addTimeslot | addTimeslot2 | addChat | addServerChat | addLeaver =>
      cases h
      exact hc
  | _ => cases h

/-- What the calls said of a game, for the start that was set last. -/
def ReplayCall.told (host : UInt8 × Text) (calls : List ReplayCall) (start : ReplayStart) :
    SavedGame :=
  let game := (calls.filterMap game?).getLast?.getD ([], [])
  { host := (calls.filterMap host?).getLast?.getD host
    gameName := game.1, statString := game.2, slotCount := start.slots.length / 9
    players := guests host.1 calls, start, loading := calls.filterMap loading? }

/-- A replay is saved exactly if a start was set, and its file then says
what was said in the calls: the host, the game and the start that were
set last, and the players, those who left while loading and the records
in their order. -/
theorem saved_replay_reads_back [Zlib] (hfit : BlocksFit) (host : UInt8 × Text)
    (hhost : 0 ∉ host.2) {calls : List ReplayCall} (hcalls : ∀ c ∈ calls, c.Fits)
    (war3Version : UInt32) (build : UInt16) (tft : Bool) :
    ((calls.filterMap ReplayCall.start?).getLast? = none →
      saveReplay ((ReplayBody.new host.1 host.2).calls calls) war3Version build tft
        = .error .startNeverSet)
    ∧ ∀ start, (calls.filterMap ReplayCall.start?).getLast? = some start →
        ∃ body ms file, ((ReplayBody.new host.1 host.2).calls calls).finish = .ok (body, ms)
          ∧ saveReplay ((ReplayBody.new host.1 host.2).calls calls) war3Version build tft = .ok file
          ∧ (body.length < 2 ^ 31 → openReplay file = some
              { lengthMs := (calls.map ReplayCall.elapsed).sum % 2 ^ 32
                game := ReplayCall.told host calls start
                records := calls.filterMap ReplayCall.record? }) := by
  have hclean := (ReplayBody.clean_new host.1 hhost).calls hcalls
  have hstart := (ReplayBody.new host.1 host.2).calls_start calls
  have hhosts := (ReplayBody.new host.1 host.2).calls_host calls
  have hgame := (ReplayBody.new host.1 host.2).calls_game calls
  have hplayers := (ReplayBody.new host.1 host.2).calls_players calls
  have hleft := (ReplayBody.new host.1 host.2).calls_loading calls
  have hrecords := (ReplayBody.new host.1 host.2).calls_records calls
  have hms := (ReplayBody.new host.1 host.2).calls_length calls (by exact Nat.two_pow_pos 32)
  -- from here on only what the calls left in the fields matters
  generalize (ReplayBody.new host.1 host.2).calls calls = r at *
  rw [show (ReplayBody.new host.1 host.2).replayLengthMs = 0 from rfl, Nat.zero_add] at hms
  refine ⟨fun hnone => ?_, fun start hsome => ?_⟩
  · -- without a start record the prologue refuses, whatever else was called
    have hunset : r.startSet = false := by
      rw [← r.isSome_start?, hstart, hnone]
      rfl
    unfold saveReplay ReplayBody.finish ReplayBody.prologue
    rw [hunset]
    rfl
  · rw [hsome] at hstart
    have hset : r.startSet = true := by
      rw [← r.isSome_start?, hstart]
      rfl
    -- the last call that set the start is the one whose fields are kept
    have hfields : ⟨r.slots, r.randomSeed, r.selectMode, r.startSpots⟩ = start := by
      unfold ReplayBody.start? at hstart
      rw [if_pos hset] at hstart
      exact Option.some.inj hstart
    have hcount : start.slots.length / 9 = r.numSlots := by
      rw [← hfields, hclean.slots, Nat.mul_div_cancel_left _ (by decide)]
    have hloading : ∀ l ∈ calls.filterMap ReplayCall.loading?,
        l.fits = true ∧ l.bytes.head?.any (fun b => b == 0x17) = true := by
      intro l hl
      obtain ⟨c, hc, hl⟩ := List.mem_filterMap.1 hl
      exact leaver_of_loading? (hcalls c hc) hl
    have hfits : ∀ x ∈ r.records, x.fits = true := by
      intro x hx
      rw [hrecords] at hx
      obtain ⟨c, hc, hx⟩ := List.mem_filterMap.1 hx
      exact fits_of_record? (hcalls c hc) hx
    -- the body as finished, read by its own fields
    obtain ⟨body, hfinish, hopen⟩ := openBody_finish hclean hset hleft
      (fun l hl => (hloading l hl).1) (fun l hl => (hloading l hl).2) hfits
    have htold : (⟨r.host, r.gameName, r.statString, r.numSlots, r.players,
        ⟨r.slots, r.randomSeed, r.selectMode, r.startSpots⟩,
        calls.filterMap ReplayCall.loading?⟩ : SavedGame) = ReplayCall.told host calls start := by
      have hname : r.gameName = _ := congrArg Prod.fst hgame
      have hstat : r.statString = _ := congrArg Prod.snd hgame
      unfold ReplayCall.told
      rw [hfields, hcount, hhosts, hplayers, hname, hstat, Lib.elim_id,
        Lib.elim_id]
      rfl
    have hlt : r.replayLengthMs < 2 ^ 32 := by
      rw [hms]
      exact Nat.mod_lt _ (by decide)
    refine ⟨body, r.replayLengthMs,
      W3gWriter.pack { war3Version, build, tft, replayLengthMs := r.replayLengthMs } body,
      hfinish, ?_, fun hlen => ?_⟩
    · unfold saveReplay
      rw [hfinish]
      rfl
    · rw [openReplay_pack hfit _ hlt hlen hopen, htold, hms, hrecords]
      rfl

section Scenario

attribute [local instance] storing

/-- A compressor that stores is one whose blocks fit. -/
theorem blocksFit_storing : BlocksFit := by
  intro bytes hbytes
  show (storedStream bytes).length < 65536
  rw [length_storedStream, hbytes]
  decide

/-- A game in which the host changes, one player leaves while the map is
loading and another after a turn. -/
def shortGame : List ReplayCall :=
  [.setGame [103] [3, 7] 1, .setHost 1 [97], .addPlayer 1 [97], .addPlayer 2 [98],
    .addPlayer 3 [99], .setStart (List.replicate 18 1) 7 0 2, .addLeaverLoading 2 1 13,
    .addTimeslot 100 [0xAA], .addServerChat 1 [33], .addLeaver 3 1 7]

/-- The calls of the short game can be written. -/
theorem fits_shortGame : ∀ c ∈ shortGame, c.Fits := by
  have hname : ∀ b : UInt8, b ≠ 0 → (0 : UInt8) ∉ [b] := fun b hb hmem =>
    hb (List.mem_singleton.1 hmem).symm
  unfold shortGame
  simp only [List.forall_mem_cons]
  exact ⟨⟨hname 103 (by decide), by decide⟩, hname 97 (by decide), hname 97 (by decide),
    hname 98 (by decide), hname 99 (by decide), (by decide : 18 < 256 * 9), rfl, rfl, rfl, rfl,
    fun _ h => (List.not_mem_nil h).elim⟩

/-- The theorem for that game. -/
theorem saved_replay_reads_back_shortGame :
    ∃ body ms file, ((ReplayBody.new 255 [64]).calls shortGame).finish = .ok (body, ms)
      ∧ saveReplay ((ReplayBody.new 255 [64]).calls shortGame) 26 6059 true = .ok file
      ∧ (body.length < 2 ^ 31 → openReplay file = some
          { lengthMs := 100
            game :=
              { host := (1, [97]), gameName := [103], statString := [3, 7], slotCount := 2
                players := [(2, [98]), (3, [99])], start := ⟨List.replicate 18 1, 7, 0, 2⟩
                loading := [.leaver 2 1 13] }
            records := [.timeslot 100 [0xAA], .chat 1 0x20 0 [33], .leaver 3 1 7] }) :=
  (saved_replay_reads_back blocksFit_storing (255, [64]) (by decide) fits_shortGame 26 6059 true).2
    ⟨List.replicate 18 1, 7, 0, 2⟩ rfl

end Scenario

end Spectre

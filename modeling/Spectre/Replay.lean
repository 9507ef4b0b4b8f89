/-
The replay body the engine writes as the game runs (`body.rs`), up to
what the engine itself calls: the header data set when the game starts
and the record stream behind it.

The source appends the bytes of each record to one buffer. Here the
records are kept apart and the buffer is a function of them (`blocks`).
-/
import Spectre.Wire

namespace Spectre

/-- The 14 bytes of a LEAVEGAME record. -/
def leaveBlock (pid : UInt8) (reason result : Nat) : List UInt8 :=
  0x17 :: u32le reason ++ [pid] ++ u32le result ++ u32le 1

/-- One record of the stream. -/
inductive ReplayRecord where
  | timeslot (timeIncrement : Nat) (actions : List UInt8)
  | timeslot2 (actions : List UInt8)
  | chat (pid flag : UInt8) (extra : Nat) (message : Text)
  | leaver (pid : UInt8) (reason result : Nat)
deriving DecidableEq, Repr

namespace ReplayRecord

/-- The bytes of a record. -/
def bytes : ReplayRecord → List UInt8
  | timeslot timeIncrement actions =>
      0x1F :: u16le (2 + actions.length) ++ u16le timeIncrement ++ actions
  | timeslot2 actions => 0x1E :: u16le (2 + actions.length) ++ u16le 0 ++ actions
  | chat pid flag extra message =>
      0x20 :: pid :: u16le (1 + 4 + message.length + 1) ++ [flag] ++ u32le extra ++ message ++ [0]
  | leaver pid reason result => leaveBlock pid reason result

/-- A TIMESLOT or TIMESLOT2 record. -/
def isTimeslot : ReplayRecord → Bool
  | timeslot .. | timeslot2 _ => true
  | _ => false

/-- Every field of the record fits the bytes it is written to. -/
def fits : ReplayRecord → Bool
  | timeslot timeIncrement actions => timeIncrement < 2 ^ 16 && 2 + actions.length < 2 ^ 16
  | timeslot2 actions => 2 + actions.length < 2 ^ 16
  | chat _ _ extra message => extra < 2 ^ 32 && 1 + 4 + message.length + 1 < 2 ^ 16
  | leaver _ reason result => reason < 2 ^ 32 && result < 2 ^ 32

end ReplayRecord

/-- `ReplayBodyError`, as far as `prologue` and `finish` raise it. -/
inductive ReplayBodyError where
  | startNeverSet
deriving DecidableEq, Repr

/-- `ReplayBody`, without the publishing cursor of the live stream. -/
structure ReplayBody where
  hostPid : UInt8
  hostName : Text
  players : List (UInt8 × Text) := []
  slots : List UInt8 := []
  randomSeed : UInt32 := 0
  selectMode : UInt8 := 0
  startSpots : UInt8 := 0
  numSlots : Nat := 0
  startSet : Bool := false
  gameName : Text := []
  statString : List UInt8 := []
  mapGameType : UInt32 := 0
  loadingBlocks : List (List UInt8) := []
  records : List ReplayRecord := []
  replayLengthMs : Nat := 0
deriving DecidableEq, Repr

namespace ReplayBody

/-- `blocks`: the bytes of the records, one behind the other. -/
def blocks (r : ReplayBody) : List UInt8 := r.records.flatMap ReplayRecord.bytes

/-- The TIMESLOT and TIMESLOT2 records. -/
def timeslots (r : ReplayBody) : List ReplayRecord := r.records.filter ReplayRecord.isTimeslot

/-- `set_host`. -/
def setHost (r : ReplayBody) (pid : UInt8) (name : Text) : ReplayBody :=
  { r with hostPid := pid, hostName := name }

/-- `add_player`: the host is not listed twice. -/
def addPlayer (r : ReplayBody) (pid : UInt8) (name : Text) : ReplayBody :=
  if pid = r.hostPid then r else { r with players := r.players ++ [(pid, name)] }

/-- `set_start`. -/
def setStart (r : ReplayBody) (slots : List UInt8) (randomSeed : UInt32)
    (selectMode startSpots : UInt8) : ReplayBody :=
  if slots.length % 9 = 0 then
    { r with
      numSlots := slots.length / 9, slots := slots, randomSeed := randomSeed
      selectMode := selectMode, startSpots := startSpots, startSet := true }
  else r

/-- `add_timeslot`. -/
def addTimeslot (r : ReplayBody) (timeIncrement : Nat) (actions : List UInt8) : ReplayBody :=
  { r with
    replayLengthMs := (r.replayLengthMs + timeIncrement) % 2 ^ 32
    records := r.records ++ [.timeslot timeIncrement actions] }

/-- `add_timeslot2`. -/
def addTimeslot2 (r : ReplayBody) (actions : List UInt8) : ReplayBody :=
  { r with records := r.records ++ [.timeslot2 actions] }

/-- `add_chat`. -/
def addChat (r : ReplayBody) (pid flag : UInt8) (extra : Nat) (message : Text) : ReplayBody :=
  { r with records := r.records ++ [.chat pid flag extra message] }

/-- `add_leaver`. -/
def addLeaver (r : ReplayBody) (pid : UInt8) (reason result : Nat) : ReplayBody :=
  { r with records := r.records ++ [.leaver pid reason result] }

/-- `add_leaver_loading`. -/
def addLeaverLoading (r : ReplayBody) (pid : UInt8) (reason result : Nat) : ReplayBody :=
  { r with loadingBlocks := r.loadingBlocks ++ [leaveBlock pid reason result] }

/-- A player record of the prologue. -/
def playerBlock (player : UInt8 × Text) : List UInt8 :=
  [22, player.1] ++ player.2 ++ [0, 1, 0] ++ u32le 0

/-- `prologue`: everything before the records. -/
def prologue (r : ReplayBody) : Except ReplayBodyError (List UInt8) :=
  if r.startSet then
    .ok (u32le 0x110 ++ [0, r.hostPid] ++ r.hostName ++ [0, 1, 0] ++ r.gameName ++ [0, 0]
      ++ r.statString ++ [0] ++ u32le r.numSlots ++ u32le 0x1 ++ u32le 0x12F8B0
      ++ r.players.flatMap playerBlock
      ++ [25] ++ u16le (7 + r.numSlots * 9) ++ [r.numSlots.toUInt8] ++ r.slots
      ++ u32le r.randomSeed.toNat ++ [r.selectMode, r.startSpots]
      ++ 0x1A :: u32le 1 ++ 0x1B :: u32le 1 ++ r.loadingBlocks.flatten ++ 0x1C :: u32le 1)
  else .error .startNeverSet

/-- `finish`: the whole body and its length in ms. -/
def finish (r : ReplayBody) : Except ReplayBodyError (List UInt8 × Nat) :=
  match r.prologue with
  | .error e => .error e
  | .ok p => .ok (p ++ r.blocks, r.replayLengthMs)

end ReplayBody

/-- `encode_statstring`: groups of seven bytes behind a mask byte, even
bytes made odd. -/
def encodeStatstring (raw : List UInt8) : List UInt8 :=
  (raw.toChunks 7).flatMap fun chunk =>
    let bits := chunk.zipIdx.foldl (fun m e => if e.1 % 2 = 0 then m else m + 2 ^ (e.2 + 1)) 1
    bits.toUInt8 :: chunk.map fun b => if b % 2 = 0 then b + 1 else b

end Spectre

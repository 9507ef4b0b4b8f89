/-
The packets the engine puts on a player's link (`w3gs/outgoing.rs`,
`gps/mod.rs`, `w3gs/slot.rs`).

A packet is kept as the call of the builder that made it: one
constructor per builder, with the builder's own arguments. `payload`
is the byte layout each builder writes and `encode` frames it, so a
builder that returns a `Result` in the source fails here exactly when
the frame would not fit its 16-bit length field (or for the extra
checks the builder makes itself).

Everything the engine compares or counts — "which pid does this lag
packet name", "is this a W3GS packet" — is read off the constructor;
the bytes matter only where a length does.
-/
import Spectre.Rust

namespace Spectre

-- ================================================================ byte order

/-- `to_le_bytes` of a `u16`. -/
def u16le (n : Nat) : List UInt8 := [n.toUInt8, (n / 256).toUInt8]

/-- `to_le_bytes` of a `u32`. -/
def u32le (n : Nat) : List UInt8 :=
  [n.toUInt8, (n / 256).toUInt8, (n / 65536).toUInt8, (n / 16777216).toUInt8]

/-- The two bytes of a `u16` are read back. -/
theorem u16le_toNat {n : Nat} (h : n < 65536) :
    ∃ lo hi : UInt8, u16le n = [lo, hi] ∧ lo.toNat + 256 * hi.toNat = n := by
  refine ⟨_, _, rfl, ?_⟩
  rw [UInt8.toNat_ofNat', UInt8.toNat_ofNat']
  omega

/-- The four bytes of a `u32` are read back. -/
theorem u32le_toNat {n : Nat} (h : n < 2 ^ 32) :
    ∃ a b c d : UInt8, u32le n = [a, b, c, d]
      ∧ a.toNat + 256 * b.toNat + 65536 * c.toNat + 16777216 * d.toNat = n := by
  refine ⟨_, _, _, _, rfl, ?_⟩
  rw [UInt8.toNat_ofNat', UInt8.toNat_ofNat', UInt8.toNat_ofNat', UInt8.toNat_ofNat']
  omega

/-- Four bytes make a number below 2^32. -/
theorem word_lt (a b c d : UInt8) :
    a.toNat + 256 * b.toNat + 65536 * c.toNat + 16777216 * d.toNat < 2 ^ 32 := by
  have ha := a.toNat_lt
  have hb := b.toNat_lt
  have hc := c.toNat_lt
  have hd := d.toNat_lt
  omega

/-- One CRC-32 bit step (reflected polynomial 0xEDB88320). -/
def crcBit (c : UInt32) : UInt32 :=
  if c &&& 1 = 1 then (c >>> 1) ^^^ 0xEDB88320 else c >>> 1

/-- One CRC-32 byte step. -/
def crcByte (c : UInt32) (b : UInt8) : UInt32 :=
  crcBit (crcBit (crcBit (crcBit (crcBit (crcBit (crcBit (crcBit (c ^^^ b.toUInt32))))))))

/-- `crc32fast::hash`. -/
def crc32 (bytes : List UInt8) : UInt32 := bytes.foldl crcByte 0xFFFFFFFF ^^^ 0xFFFFFFFF

-- ============================================================= wire records

/-- An IPv4 address. -/
structure Ip where
  a : UInt8
  b : UInt8
  c : UInt8
  d : UInt8
deriving DecidableEq, Repr

/-- The four octets, in order. -/
def Ip.bytes (ip : Ip) : List UInt8 := [ip.a, ip.b, ip.c, ip.d]

/-- `0.0.0.0`. -/
def Ip.zero : Ip := ⟨0, 0, 0, 0⟩

/-- The dotted form the engine stores of a leaver's address. -/
def Ip.dotted (ip : Ip) : Text :=
  decimal ip.a.toNat ++ txt "." ++ decimal ip.b.toNat ++ txt "."
    ++ decimal ip.c.toNat ++ txt "." ++ decimal ip.d.toNat

/-- One slot of the game table (`SlotInfo`). -/
structure SlotInfo where
  pid : UInt8
  downloadStatus : UInt8
  slotStatus : UInt8
  computer : UInt8
  team : UInt8
  colour : UInt8
  race : UInt8
  computerType : UInt8
  handicap : UInt8
deriving DecidableEq, Repr

/-- `SlotInfo::encode`. -/
def SlotInfo.encode (s : SlotInfo) : List UInt8 :=
  [s.pid, s.downloadStatus, s.slotStatus, s.computer, s.team, s.colour, s.race,
    s.computerType, s.handicap]

/-- One player's commands of one turn (`ActionBlock`). -/
structure ActionBlock where
  pid : UInt8
  data : List UInt8
deriving DecidableEq, Repr

/-- `ActionBlock::wire_len`. -/
def ActionBlock.wireLen (a : ActionBlock) : Nat := a.data.length + 3

/-- `ActionBlock::put`. -/
def ActionBlock.put (a : ActionBlock) : List UInt8 := a.pid :: u16le a.data.length ++ a.data

/-- `ActionBlock::encode_actions_raw`. -/
def encodeActionsRaw (actions : List ActionBlock) : List UInt8 := actions.flatMap ActionBlock.put

-- ================================================================ the packets

/-- What a link carries: one constructor per outgoing builder. -/
inductive Packet where
  | pingFromHost (ticks : Nat)
  | slotInfoJoin (pid : UInt8) (port : Nat) (externalIp : Ip) (slots : List SlotInfo)
      (randomSeed : UInt32) (layoutStyle playerSlots : UInt8)
  | rejectJoin (reason : Nat)
  | playerInfo (pid : UInt8) (name : Text) (externalIp internalIp : Ip)
  | playerLeaveOthers (pid : UInt8) (leftCode : Nat)
  | gameLoadedOthers (pid : UInt8)
  | slotInfo (slots : List SlotInfo) (randomSeed : UInt32) (layoutStyle playerSlots : UInt8)
  | countdownStart
  | countdownEnd
  | incomingAction (actions : List ActionBlock) (sendInterval : Nat)
  | incomingAction2 (actions : List ActionBlock)
  | chatFromHost (fromPid : UInt8) (toPids : List UInt8) (flag : UInt8) (extra : List UInt8)
      (message : Text)
  | startLag (laggers : List (UInt8 × Nat))
  | stopLag (pid : UInt8) (lagMs : Nat)
  | mapCheck (mapPath : Text) (mapSize mapInfo mapCrc : UInt32) (mapSha1 : List UInt8)
  | startDownload (fromPid : UInt8)
  | mapPart (fromPid toPid : UInt8) (start : Nat) (chunk : List UInt8)
  | rejoinToken (pid : UInt8) (reconnectKey : UInt32) (hostPort : Nat) (mapCrc : UInt32)
      (mapSha1 : List UInt8) (gameName mapName : Text)
  | gpsInit (version : Nat) (pid : UInt8) (reconnectKey : UInt32) (numEmptyActions : Nat)
  | reconnectOk (lastPacket : Nat)
  | gpsReject (reason : Nat)
  | iccupInit (reconnPort : Nat) (pid : UInt8) (reconnectKey : UInt32) (numEmptyActions : Nat)
deriving DecidableEq, Repr

namespace Packet

/-- `put_cstring`. -/
def cstring (t : Text) : List UInt8 := t ++ [0]

/-- `slot_block`. -/
def slotBlock (slots : List SlotInfo) (randomSeed : UInt32) (layoutStyle playerSlots : UInt8) :
    List UInt8 :=
  u16le (1 + slots.length * 9 + 4 + 1 + 1) ++ [slots.length.toUInt8]
    ++ slots.flatMap SlotInfo.encode ++ u32le randomSeed.toNat ++ [layoutStyle, playerSlots]

/-- `action_payload`, past its length check. -/
def actionPayload (actions : List ActionBlock) (sendInterval : Nat) : List UInt8 :=
  if actions = [] then u16le sendInterval
  else
    let sub := encodeActionsRaw actions
    u16le sendInterval ++ u16le (crc32 sub).toNat ++ sub

/-- The payload a builder writes behind the frame header. -/
def payload : Packet → List UInt8
  | pingFromHost ticks => u32le ticks
  | slotInfoJoin pid port ip slots seed layout players =>
      slotBlock slots seed layout players ++ [pid] ++ u16le 2 ++ u16le port ++ ip.bytes
        ++ List.replicate 8 0
  | rejectJoin reason => u32le reason
  | playerInfo pid name ext int =>
      u32le 2 ++ [pid] ++ cstring name ++ [1, 0]
        ++ u16le 2 ++ u16le 0 ++ ext.bytes ++ List.replicate 8 0
        ++ u16le 2 ++ u16le 0 ++ int.bytes ++ List.replicate 8 0
  | playerLeaveOthers pid code => pid :: u32le code
  | gameLoadedOthers pid => [pid]
  | slotInfo slots seed layout players => slotBlock slots seed layout players
  | countdownStart => []
  | countdownEnd => []
  | incomingAction actions interval => actionPayload actions interval
  | incomingAction2 actions => actionPayload actions 0
  | chatFromHost src dest flag extra msg =>
      [dest.length.toUInt8] ++ dest ++ [src, flag] ++ extra ++ cstring msg
  | startLag laggers => laggers.length.toUInt8 :: laggers.flatMap fun l => l.1 :: u32le l.2
  | stopLag pid ms => pid :: u32le ms
  | mapCheck path size info crc sha1 =>
      u32le 1 ++ cstring path ++ u32le size.toNat ++ u32le info.toNat ++ u32le crc.toNat ++ sha1
  | startDownload src => u32le 1 ++ [src]
  | mapPart src dest start chunk =>
      [dest, src] ++ u32le 1 ++ u32le start ++ u32le (crc32 chunk).toNat ++ chunk
  | rejoinToken pid key port crc sha1 game map =>
      pid :: u32le key.toNat ++ u16le port ++ u32le crc.toNat ++ sha1 ++ cstring game ++ cstring map
  | gpsInit version pid key empty => u32le version ++ [pid] ++ u32le key.toNat ++ [empty.toUInt8]
  | reconnectOk last => u32le last
  | gpsReject reason => u32le reason
  | iccupInit port pid key empty =>
      u16le port ++ u32le 0 ++ [pid] ++ u32le key.toNat ++ [empty.toUInt8]

/-- The packet id (`w3gs/ids.rs`, `gps::ids`, `gps::iccup_ids`). -/
def id : Packet → UInt8
  | pingFromHost .. => 0x01
  | slotInfoJoin .. => 0x04
  | rejectJoin .. => 0x05
  | playerInfo .. => 0x06
  | playerLeaveOthers .. => 0x07
  | gameLoadedOthers .. => 0x08
  | slotInfo .. => 0x09
  | countdownStart => 0x0A
  | countdownEnd => 0x0B
  | incomingAction .. => 0x0C
  | chatFromHost .. => 0x0F
  | startLag .. => 0x10
  | stopLag .. => 0x11
  | mapCheck .. => 0x3D
  | startDownload .. => 0x3F
  | mapPart .. => 0x43
  | incomingAction2 .. => 0x48
  | rejoinToken .. => 0x77
  | gpsInit .. => 0x01
  | reconnectOk .. => 0x02
  | gpsReject .. => 0x04
  | iccupInit .. => 0x08

/-- The first byte of the frame: `W3GS_HEADER`, `GPS_HEADER` or
`GPS_ICCUP_HEADER`. -/
def header : Packet → UInt8
  | gpsInit .. | reconnectOk .. | gpsReject .. => 0xF8
  | iccupInit .. => 0x6F
  | _ => 0xF7

/-- Whether the client counts this packet as a W3GS packet. -/
def isW3gs (p : Packet) : Bool := p.header == 0xF7

/-- Whether this is one of the two lag-screen packets. -/
def isLag : Packet → Bool
  | startLag .. | stopLag .. => true
  | _ => false

/-- Whether this is one of the two packets of a turn. -/
def isAction : Packet → Bool
  | incomingAction .. | incomingAction2 .. => true
  | _ => false

/-- Whether this tells a client who is in the game: itself, another
player, or one that goes. -/
def isRoster : Packet → Bool
  | slotInfoJoin .. | playerInfo .. | playerLeaveOthers .. => true
  | _ => false

/-- Whether the frame fits its 16-bit length field. -/
def fits (p : Packet) : Bool := 4 + p.payload.length ≤ 65535

/-- `Frame::encode_with`: the bytes on the wire, or `TooLarge`. -/
def encode (p : Packet) : Option (List UInt8) :=
  if p.fits then some (p.header :: p.id :: u16le (4 + p.payload.length) ++ p.payload) else none

/-- A fallible builder: the packet, unless its frame is too large. -/
def build (p : Packet) : Option Packet := if p.fits then some p else none

theorem build_eq_some {p b : Packet} (h : p.build = some b) : b = p := by
  unfold build at h
  split at h
  · exact (Option.some.inj h).symm
  · cases h

/-- A W3GS packet that is not about the lag screen, a turn or the
roster. -/
def isOrdinary (p : Packet) : Bool := p.isW3gs && !p.isLag && !p.isAction && !p.isRoster

theorem isW3gs_of_isOrdinary {p : Packet} (h : p.isOrdinary = true) : p.isW3gs = true := by
  cases p <;> first | rfl | cases h

theorem isLag_of_isOrdinary {p : Packet} (h : p.isOrdinary = true) : p.isLag = false := by
  cases p <;> first | rfl | cases h

theorem isAction_of_isOrdinary {p : Packet} (h : p.isOrdinary = true) : p.isAction = false := by
  cases p <;> first | rfl | cases h

theorem isRoster_of_isOrdinary {p : Packet} (h : p.isOrdinary = true) : p.isRoster = false := by
  cases p <;> first | rfl | cases h

/-- The lag screen's packets are W3GS packets. -/
theorem isW3gs_of_isLag {p : Packet} (h : p.isLag = true) : p.isW3gs = true := by
  cases p <;> first | rfl | cases h

/-- The packets of a turn are W3GS packets. -/
theorem isW3gs_of_isAction {p : Packet} (h : p.isAction = true) : p.isW3gs = true := by
  cases p <;> first | rfl | cases h

theorem isLag_of_isAction {p : Packet} (h : p.isAction = true) : p.isLag = false := by
  cases p <;> first | rfl | cases h

/-- What is built is ordinary if it is built from an ordinary packet. -/
theorem build_isOrdinary {p : Packet} (h : p.isOrdinary = true) :
    ∀ b ∈ p.build, b.isOrdinary = true := by
  intro b hb
  rw [build_eq_some hb]
  exact h

end Packet

-- =============================================================== the builders

namespace Outgoing

open Packet

/-- `incoming_action`. -/
def incomingAction (actions : List ActionBlock) (sendInterval : Nat) : Option Packet :=
  if actions.any fun a => 65535 < a.data.length then none
  else (Packet.incomingAction actions sendInterval).build

/-- `incoming_action2`. -/
def incomingAction2 (actions : List ActionBlock) : Option Packet :=
  if actions.any fun a => 65535 < a.data.length then none
  else (Packet.incomingAction2 actions).build

/-- `chat_from_host`: refuses an empty recipient list. -/
def chatFromHost (fromPid : UInt8) (toPids : List UInt8) (flag : UInt8) (extra : List UInt8)
    (message : Text) : Option Packet :=
  if toPids = [] then none
  else (Packet.chatFromHost fromPid toPids flag extra message).build

theorem incomingAction_eq_some {actions : List ActionBlock} {sendInterval : Nat} {b : Packet}
    (h : incomingAction actions sendInterval = some b) :
    b = .incomingAction actions sendInterval := by
  unfold incomingAction at h
  split at h
  · cases h
  · exact build_eq_some h

theorem incomingAction2_eq_some {actions : List ActionBlock} {b : Packet}
    (h : incomingAction2 actions = some b) : b = .incomingAction2 actions := by
  unfold incomingAction2 at h
  split at h
  · cases h
  · exact build_eq_some h

theorem chatFromHost_isOrdinary (fromPid : UInt8) (toPids : List UInt8) (flag : UInt8)
    (extra : List UInt8) (message : Text) :
    ∀ b ∈ chatFromHost fromPid toPids flag extra message, b.isOrdinary = true := by
  unfold chatFromHost
  split
  · exact fun b hb => nomatch hb
  · exact build_isOrdinary rfl

end Outgoing

end Spectre

/-
Decoding what a client sends (`bytes_ext.rs`, `w3gs/incoming.rs`,
`gps/mod.rs`).

A decoder reads from the front of the payload. `Reader` keeps the
unread bytes in both outcomes: the source's readers mutate a cursor,
and what a failed read leaves behind is part of what they do.
-/
import Spectre.Wire

namespace Spectre

/-- `ProtoError`, without the I/O case no decoder raises. -/
inductive ProtoError where
  | truncated (need available : Nat)
  | unterminatedString
  | badValue (what : Text)
  | tooLarge (size : Nat)
deriving DecidableEq, Repr

/-- A read from the front of a buffer: a value or an error, and in
either case the bytes left. -/
abbrev Reader (α : Type) := EStateM ProtoError (List UInt8) α

-- ============================================================ the byte readers

/-- `try_get_u8`. -/
def tryGetU8 : Reader UInt8 := fun buf =>
  match buf with
  | b :: rest => .ok b rest
  | [] => .error (.truncated 1 0) []

/-- `try_get_u16_le`. -/
def tryGetU16 : Reader Nat := fun buf =>
  match buf with
  | a :: b :: rest => .ok (a.toNat + 256 * b.toNat) rest
  | _ => .error (.truncated 2 buf.length) buf

/-- `try_get_u32_le`. -/
def tryGetU32 : Reader Nat := fun buf =>
  match buf with
  | a :: b :: c :: d :: rest =>
      .ok (a.toNat + 256 * b.toNat + 65536 * c.toNat + 16777216 * d.toNat) rest
  | _ => .error (.truncated 4 buf.length) buf

/-- `try_get_bytes`. -/
def tryGetBytes (n : Nat) : Reader (List UInt8) := fun buf =>
  if buf.length < n then .error (.truncated n buf.length) buf
  else .ok (buf.take n) (buf.drop n)

/-- `try_get_cstring`: byte by byte to the terminator, so a string
without one consumes the whole buffer before it fails. -/
def tryGetCstringFrom (out : List UInt8) : List UInt8 → EStateM.Result ProtoError (List UInt8) Text
  | [] => .error .unterminatedString []
  | b :: rest => if b = 0 then .ok (fromUtf8Lossy out) rest else tryGetCstringFrom (out ++ [b]) rest

@[inherit_doc tryGetCstringFrom]
def tryGetCstring : Reader Text := tryGetCstringFrom []

/-- A string is read up to its terminator, the bytes before it being held
until then. -/
theorem tryGetCstringFrom_append (out line : List UInt8) (hline : 0 ∉ line) (rest : List UInt8) :
    tryGetCstringFrom out (line ++ 0 :: rest) = .ok (fromUtf8Lossy (out ++ line)) rest := by
  induction line generalizing out with
  | nil => simp [tryGetCstringFrom]
  | cons b line ih =>
      rw [List.mem_cons, not_or] at hline
      rw [List.cons_append]
      unfold tryGetCstringFrom
      rw [if_neg (Ne.symm hline.1), ih (out ++ [b]) hline.2, List.append_assoc]
      rfl

/-- Without a terminator there is no string. -/
theorem tryGetCstringFrom_unterminated (out line : List UInt8) (hline : 0 ∉ line) :
    tryGetCstringFrom out line = .error .unterminatedString [] := by
  induction line generalizing out with
  | nil => rfl
  | cons b line ih =>
      rw [List.mem_cons, not_or] at hline
      unfold tryGetCstringFrom
      rw [if_neg (Ne.symm hline.1), ih (out ++ [b]) hline.2]

/-- Run a decoder on a payload, forgetting the bytes left. -/
def decodeWith {α : Type} (m : Reader α) (payload : List UInt8) : Except ProtoError α :=
  match m payload with
  | .ok a _ => .ok a
  | .error e _ => .error e

-- ============================================================== W3GS payloads

/-- `ReqJoin`. -/
structure ReqJoin where
  hostCounter : Nat
  entryKey : Nat
  listenPort : Nat
  peerKey : Nat
  name : Text
  internalIp : Ip
deriving DecidableEq, Repr

/-- `ReqJoin::decode`. -/
def ReqJoin.decode : List UInt8 → Except ProtoError ReqJoin := decodeWith do
  let hostCounter ← tryGetU32
  let entryKey ← tryGetU32
  let _unknown ← tryGetU8
  let listenPort ← tryGetU16
  let peerKey ← tryGetU32
  let name ← tryGetCstring
  if name = [] then throw (.badValue (txt "empty player name"))
  let _unknown2 ← tryGetBytes 6
  let ip ← tryGetBytes 4
  return { hostCounter, entryKey, listenPort, peerKey, name,
           internalIp := ⟨ip.getD 0 0, ip.getD 1 0, ip.getD 2 0, ip.getD 3 0⟩ }

/-- `OutgoingAction::decode`: the data behind the 4-byte CRC. -/
def decodeOutgoingAction (payload : List UInt8) : Except ProtoError (List UInt8) :=
  if payload.length < 4 then .error (.truncated 4 payload.length) else .ok (payload.drop 4)

/-- `ChatToHost`. -/
structure ChatToHost where
  toPids : List UInt8
  fromPid : UInt8
  flag : UInt8
  extra : List UInt8
  message : Text
  byte : UInt8
deriving DecidableEq, Repr

/-- `ChatToHost::decode`. -/
def ChatToHost.decode : List UInt8 → Except ProtoError ChatToHost := decodeWith do
  let count ← tryGetU8
  let toPids ← tryGetBytes count.toNat
  let fromPid ← tryGetU8
  let flag ← tryGetU8
  if flag = 0x10 then
    let message ← tryGetCstring
    return { toPids, fromPid, flag, extra := [], message, byte := 0 }
  else if 0x11 ≤ flag ∧ flag ≤ 0x14 then
    let byte ← tryGetU8
    return { toPids, fromPid, flag, extra := [], message := [], byte }
  else if flag = 0x20 then
    let extra ← tryGetBytes 4
    let message ← tryGetCstring
    return { toPids, fromPid, flag, extra, message, byte := 0 }
  else throw (.badValue (txt "unknown chat-to-host flag"))

/-- `MapSizeReport::decode`: the size flag and the map size. -/
def MapSizeReport.decode : List UInt8 → Except ProtoError (UInt8 × Nat) := decodeWith do
  let _unknown ← tryGetBytes 4
  let sizeFlag ← tryGetU8
  let mapSize ← tryGetU32
  return (sizeFlag, mapSize)

/-- `decode_leave_game`. -/
def decodeLeaveGame : List UInt8 → Except ProtoError Nat := decodeWith tryGetU32

/-- `decode_keepalive`. -/
def decodeKeepalive : List UInt8 → Except ProtoError Nat := decodeWith do
  let _unknown ← tryGetU8
  tryGetU32

/-- `decode_pong_to_host`. -/
def decodePongToHost : List UInt8 → Except ProtoError Nat := decodeWith tryGetU32

/-- `decode_map_part_ok`. -/
def decodeMapPartOk : List UInt8 → Except ProtoError Nat := decodeWith do
  let _toPid ← tryGetU8
  let _fromPid ← tryGetU8
  let _unknown ← tryGetBytes 4
  tryGetU32

/-- `decode_map_part_not_ok`: bytes 6..10, or 2..6 of a short
payload. -/
def decodeMapPartNotOk (payload : List UInt8) : Except ProtoError Nat :=
  if payload.length < 6 then .error (.truncated 6 payload.length)
  else decodeWith tryGetU32 (if 10 ≤ payload.length then payload.drop 6 else payload.drop 2)

-- =============================================================== GPS payloads

/-- `ReconnectReq`. -/
structure ReconnectReq where
  pid : UInt8
  reconnectKey : UInt32
  lastPacket : Nat
deriving DecidableEq, Repr

/-- `decode_reconnect`. -/
def decodeReconnect : List UInt8 → Except ProtoError ReconnectReq := decodeWith do
  let pid ← tryGetU8
  let key ← tryGetU32
  let lastPacket ← tryGetU32
  return { pid, reconnectKey := key.toUInt32, lastPacket }

/-- `decode_full`. -/
def decodeFull : List UInt8 → Except ProtoError (UInt8 × UInt32) := decodeWith do
  let pid ← tryGetU8
  let key ← tryGetU32
  return (pid, key.toUInt32)

end Spectre

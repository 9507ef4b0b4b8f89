/-
The messages of the spectator protocol, in both directions
(`dotatv.rs`).

The encoders the relay uses stand with it; here are the others, and the
decoders a viewer uses. A message that fits a frame is decoded to what
it was, and a payload that ends inside one to an error
(`dotatv_roundtrip`). Both are proved field by field: each reader takes
what the encoder wrote for its field off the front (`Lib.ReadsOff`),
and a decoder is its readers in a row.

# What a string is

A `String` holds characters, and the protocol ends one at a zero byte:
the strings here are well-formed UTF-8 without a zero (`WireString`). The
widths of the source's integers are part of a message's type
(`TvMessage.Sendable`), as the model reads numbers.
-/
import Spectre.Relay
import Spectre.Utf8
import Spectre.Lib.Readers

namespace Spectre

open Packet (cstring)

-- ============================================================== the encoders

/-- `encode_game_over`. -/
def encodeGameOver (winner : Text) : Except ProtoError (List UInt8) :=
  Frame.encodeWith ⟨0x06, cstring winner⟩ dotatvHeader

/-- `encode_subscribe`. -/
def encodeSubscribe (clientVersion : Nat) : Except ProtoError (List UInt8) :=
  Frame.encodeWith ⟨0x80, u16le clientVersion⟩ dotatvHeader

/-- `encode_client_chat`. -/
def encodeClientChat (text : Text) : Except ProtoError (List UInt8) :=
  Frame.encodeWith ⟨dotatvClientChat, cstring text⟩ dotatvHeader

-- ============================================================== the decoders

/-- `decode_hello`. -/
def readHello : Reader (Nat × Text) := do
  let version ← tryGetU16
  let serverName ← tryGetCstring
  return (version, serverName)

@[inherit_doc readHello]
def decodeHello : List UInt8 → Except ProtoError (Nat × Text) := decodeWith readHello

/-- The loop of `decode_snapshot` over the stat string: byte by byte to
the zero, and a buffer that ends first is an unterminated string. -/
def readStatStringFrom (out : List UInt8) :
    List UInt8 → EStateM.Result ProtoError (List UInt8) (List UInt8)
  | [] => .error .unterminatedString []
  | b :: rest => if b = 0 then .ok out rest else readStatStringFrom (out ++ [b]) rest

@[inherit_doc readStatStringFrom]
def readStatString : Reader (List UInt8) := readStatStringFrom []

/-- The body of the loop over the slots. -/
def readSlot : Reader SlotInfo := do
  let pid ← tryGetU8
  let downloadStatus ← tryGetU8
  let slotStatus ← tryGetU8
  let computer ← tryGetU8
  let team ← tryGetU8
  let colour ← tryGetU8
  let race ← tryGetU8
  let computerType ← tryGetU8
  let handicap ← tryGetU8
  return { pid, downloadStatus, slotStatus, computer, team, colour, race, computerType, handicap }

/-- `decode_snapshot`. -/
def readSnapshot : Reader GameStartSnapshot := do
  let gameName ← tryGetCstring
  let mapPath ← tryGetCstring
  let mapSize ← tryGetU32
  let mapInfoCrc ← tryGetU32
  let mapCrc ← tryGetU32
  let mapSha1 ← tryGetBytes 20
  let statString ← readStatString
  let randomSeed ← tryGetU32
  let layoutStyle ← tryGetU8
  let playerSlots ← tryGetU8
  let war3Version ← tryGetU8
  let isTft ← tryGetU8
  let numSlots ← tryGetU8
  let slots ← Lib.readTimes readSlot numSlots.toNat
  return {
    gameName, mapPath
    mapSize := mapSize.toUInt32
    mapInfoCrc := mapInfoCrc.toUInt32
    mapCrc := mapCrc.toUInt32
    mapSha1, statString
    randomSeed := randomSeed.toUInt32
    layoutStyle, playerSlots, war3Version
    isTft := isTft != 0
    slots }

@[inherit_doc readSnapshot]
def decodeSnapshot : List UInt8 → Except ProtoError GameStartSnapshot := decodeWith readSnapshot

/-- `decode_player`. -/
def readPlayer : Reader DotaPlayerInfo := do
  let pid ← tryGetU8
  let name ← tryGetCstring
  let colour ← tryGetU8
  let team ← tryGetU8
  let race ← tryGetU8
  return { pid, name, colour, team, race }

@[inherit_doc readPlayer]
def decodePlayer : List UInt8 → Except ProtoError DotaPlayerInfo := decodeWith readPlayer

/-- `decode_action`: the first frame of the payload, whose header is
checked; what follows the frame is ignored. -/
def decodeAction (payload : List UInt8) : Except ProtoError (List UInt8) :=
  match payload with
  | header :: _ :: lo :: hi :: _ =>
      if header ≠ w3gsHeader then .error (.badValue (txt "action frame missing 0xF7 header"))
      else
        let len := lo.toNat + 256 * hi.toNat
        if len < 4 then .error (.badValue (txt "action frame length below header size"))
        else if payload.length < len then .error (.truncated len payload.length)
        else .ok (payload.take len)
  | _ => .error (.truncated 4 payload.length)

/-- `decode_chat`. -/
def readChat : Reader (Text × Text) := do
  let sender ← tryGetCstring
  let text ← tryGetCstring
  return (sender, text)

@[inherit_doc readChat]
def decodeChat : List UInt8 → Except ProtoError (Text × Text) := decodeWith readChat

/-- `decode_game_over`. -/
def decodeGameOver : List UInt8 → Except ProtoError Text := decodeWith tryGetCstring

/-- `decode_history_end`. -/
def decodeHistoryEnd : List UInt8 → Except ProtoError Nat := decodeWith tryGetU32

/-- `decode_subscribe`. -/
def decodeSubscribe : List UInt8 → Except ProtoError Nat := decodeWith tryGetU16

/-- `decode_client_chat`. -/
def decodeClientChat : List UInt8 → Except ProtoError Text := decodeWith tryGetCstring

-- =============================================================== one message

/-- The kinds of message that are more than a frame of the game. -/
inductive TvKind where
  | hello
  | snapshot
  | player
  | chat
  | gameOver
  | historyEnd
  | subscribe
  | clientChat
deriving DecidableEq, Repr

/-- A message of one of these kinds. -/
inductive TvMessage where
  | hello (version : Nat) (serverName : Text)
  | snapshot (s : GameStartSnapshot)
  | player (p : DotaPlayerInfo)
  | chat (sender text : Text)
  | gameOver (winner : Text)
  | historyEnd (count : Nat)
  | subscribe (clientVersion : Nat)
  | clientChat (text : Text)
deriving DecidableEq, Repr

/-- `ids`. -/
def TvKind.id : TvKind → UInt8
  | hello => 0x01
  | snapshot => 0x02
  | player => 0x03
  | chat => 0x05
  | gameOver => 0x06
  | historyEnd => 0x07
  | subscribe => 0x80
  | clientChat => dotatvClientChat

/-- The decoder for a kind of message. -/
def TvKind.decode : TvKind → List UInt8 → Except ProtoError TvMessage
  | hello, payload => (decodeHello payload).map fun r => .hello r.1 r.2
  | snapshot, payload => (decodeSnapshot payload).map .snapshot
  | player, payload => (decodePlayer payload).map .player
  | chat, payload => (decodeChat payload).map fun r => .chat r.1 r.2
  | gameOver, payload => (decodeGameOver payload).map .gameOver
  | historyEnd, payload => (decodeHistoryEnd payload).map .historyEnd
  | subscribe, payload => (decodeSubscribe payload).map .subscribe
  | clientChat, payload => (decodeClientChat payload).map .clientChat

/-- A string as the protocol can carry it. -/
def WireString (t : Text) : Prop := IsUtf8 t ∧ 0 ∉ t

namespace TvMessage

/-- The kind of a message. -/
def kind : TvMessage → TvKind
  | hello .. => .hello
  | snapshot _ => .snapshot
  | player _ => .player
  | chat .. => .chat
  | gameOver _ => .gameOver
  | historyEnd _ => .historyEnd
  | subscribe _ => .subscribe
  | clientChat _ => .clientChat

/-- The encoder of a message. -/
def encode : TvMessage → Except ProtoError (List UInt8)
  | hello version serverName => encodeHello version serverName
  | snapshot s => encodeSnapshot s
  | player p => encodePlayer p
  | chat sender text => encodeChat sender text
  | gameOver winner => encodeGameOver winner
  | historyEnd count => encodeHistoryEnd count
  | subscribe clientVersion => encodeSubscribe clientVersion
  | clientChat text => encodeClientChat text

/-- The length of the payload, as the encoders reserve it. -/
def payloadLen : TvMessage → Nat
  | hello _ serverName => 2 + serverName.length + 1
  | snapshot s => s.gameName.length + 1 + s.mapPath.length + 1 + 4 + 4 + 4 + 20
      + s.statString.length + 1 + 4 + 1 + 1 + 1 + 1 + 1 + s.slots.length * 9
  | player p => 1 + p.name.length + 1 + 3
  | chat sender text => sender.length + 1 + text.length + 1
  | gameOver winner => winner.length + 1
  | historyEnd _ => 4
  | subscribe _ => 2
  | clientChat text => text.length + 1

/-- The message is of its type, no string in it has a zero, and no more
slots are in it than a byte counts. -/
def Sendable : TvMessage → Prop
  | hello version serverName => version < 65536 ∧ WireString serverName
  | snapshot s => WireString s.gameName ∧ WireString s.mapPath ∧ s.mapSha1.length = 20
    ∧ 0 ∉ s.statString
      ∧ s.slots.length ≤ 255
  | player p => WireString p.name
  | chat sender text => WireString sender ∧ WireString text
  | gameOver winner => WireString winner
  | historyEnd count => count < 2 ^ 32
  | subscribe clientVersion => clientVersion < 65536
  | clientChat text => WireString text

end TvMessage

-- ============================================================== the fields

open Lib (ReadsOff)

/-- A cut is shorter than the whole. -/
theorem length_cut {bytes part more : List UInt8} (he : bytes = part ++ more) (hne : more ≠ []) :
    part.length < bytes.length := by
  have hmore := List.length_pos_iff.2 hne
  rw [he, List.length_append]
  omega

/-- A byte. -/
theorem readsOff_u8 (b : UInt8) : ReadsOff tryGetU8 [b] b where
  whole _ := rfl
  cut part more he hne := by
    match part, length_cut he hne with
    | [], _ => exact ⟨_, _, rfl⟩

/-- Two bytes. -/
theorem readsOff_u16 {n : Nat} (hn : n < 65536) : ReadsOff tryGetU16 (u16le n) n := by
  obtain ⟨lo, hi, hbytes, hvalue⟩ := u16le_toNat hn
  rw [hbytes]
  constructor
  · intro rest
    rw [← hvalue]
    rfl
  · intro part more he hne
    match part, length_cut he hne with
    | [], _ | [_], _ => exact ⟨_, _, rfl⟩

/-- Four bytes. -/
theorem readsOff_u32 {n : Nat} (hn : n < 2 ^ 32) : ReadsOff tryGetU32 (u32le n) n := by
  obtain ⟨a, b, c, d, hbytes, hvalue⟩ := u32le_toNat hn
  rw [hbytes]
  constructor
  · intro rest
    rw [← hvalue]
    rfl
  · intro part more he hne
    match part, length_cut he hne with
    | [], _ | [_], _ | [_, _], _ | [_, _, _], _ => exact ⟨_, _, rfl⟩

/-- So many bytes. -/
theorem readsOff_bytes (bytes : List UInt8) : ReadsOff (tryGetBytes bytes.length) bytes bytes where
  whole rest := by
    have hlong : ¬(bytes ++ rest).length < bytes.length := by
      rw [List.length_append]
      omega
    unfold tryGetBytes
    rw [if_neg hlong, List.take_left, List.drop_left]
  cut part more he hne := by
    unfold tryGetBytes
    rw [if_pos (length_cut he hne)]
    exact ⟨_, _, rfl⟩

/-- What stands before the terminator, when the buffer ends before it
does. -/
theorem notMem_of_cut {line part more : List UInt8} (hline : 0 ∉ line)
    (he : line ++ [0] = part ++ more)
    (hne : more ≠ []) : 0 ∉ part := by
  rcases List.append_eq_append_iff.1 he with ⟨mid, hpart, hzero⟩ | ⟨mid, hcut, _⟩
  · have hmid : mid = [] := by
      rcases mid with _ | ⟨z, mid⟩
      · rfl
      · injection hzero with _ htail
        exact absurd (List.append_eq_nil_iff.1 htail.symm).2 hne
    rw [hpart, hmid, List.append_nil]
    exact hline
  · rw [hcut] at hline
    exact fun h => hline (List.mem_append_left _ h)

/-- A string and its terminator. -/
theorem readsOff_cstring {t : Text} (ht : WireString t) : ReadsOff tryGetCstring (cstring t) t where
  whole rest := by
    have h := tryGetCstringFrom_append [] t ht.2 rest
    rw [List.nil_append, fromUtf8Lossy_eq ht.1] at h
    unfold cstring
    rw [List.append_assoc]
    exact h
  cut part _ he hne :=
    ⟨_, _, tryGetCstringFrom_unterminated [] part (notMem_of_cut ht.2 he hne)⟩

/-- The stat string ends at its zero. -/
theorem readStatStringFrom_line (out line : List UInt8) (hline : 0 ∉ line) (rest : List UInt8) :
    readStatStringFrom out (line ++ 0 :: rest) = .ok (out ++ line) rest := by
  induction line generalizing out with
  | nil => simp [readStatStringFrom]
  | cons b line ih =>
      rw [List.mem_cons, not_or] at hline
      rw [List.cons_append]
      unfold readStatStringFrom
      rw [if_neg (Ne.symm hline.1), ih (out ++ [b]) hline.2, List.append_assoc]
      rfl

/-- Without one it is no stat string. -/
theorem readStatStringFrom_unterminated (out line : List UInt8) (hline : 0 ∉ line) :
    readStatStringFrom out line = .error .unterminatedString [] := by
  induction line generalizing out with
  | nil => rfl
  | cons b line ih =>
      rw [List.mem_cons, not_or] at hline
      unfold readStatStringFrom
      rw [if_neg (Ne.symm hline.1), ih (out ++ [b]) hline.2]

/-- So it is read off as a string is. -/
theorem readsOff_statString {t : List UInt8} (ht : 0 ∉ t) :
    ReadsOff readStatString (t ++ [0]) t where
  whole rest := by
    rw [List.append_assoc]
    exact readStatStringFrom_line [] t ht rest
  cut part _ he hne :=
    ⟨_, _, readStatStringFrom_unterminated [] part (notMem_of_cut ht he hne)⟩

/-- A slot. -/
theorem readsOff_slot (s : SlotInfo) : ReadsOff readSlot s.encode s :=
  (readsOff_u8 s.pid).bind <| (readsOff_u8 s.downloadStatus).bind <|
    (readsOff_u8 s.slotStatus).bind <|
    (readsOff_u8 s.computer).bind <| (readsOff_u8 s.team).bind <| (readsOff_u8 s.colour).bind <|
    (readsOff_u8 s.race).bind <| (readsOff_u8 s.computerType).bind <| (readsOff_u8 s.handicap).map _

-- ============================================================= the payloads

/-- A decoder gives the value for the payload, and an error for every
payload that ends inside it. -/
structure Decodes {α : Type} (decode : List UInt8 → Except ProtoError α)
    (payload : List UInt8) (a : α) :
    Prop where
  whole : decode payload = .ok a
  cut : ∀ part more, payload = part ++ more → more ≠ [] → ∃ e, decode part = .error e

namespace Decodes

variable {α β : Type} {decode : List UInt8 → Except ProtoError α} {payload : List UInt8} {a : α}

/-- A decoder that runs a reader. -/
theorem of_readsOff {m : Reader α} (h : ReadsOff m payload a) :
    Decodes (decodeWith m) payload a where
  whole := by
    have hwhole := h.whole []
    rw [List.append_nil] at hwhole
    unfold decodeWith
    rw [hwhole]
  cut part more he hne := by
    obtain ⟨e, left, hcut⟩ := h.cut part more he hne
    refine ⟨e, ?_⟩
    unfold decodeWith
    rw [hcut]

/-- What is made of the value. -/
theorem map (h : Decodes decode payload a) (f : α → β) :
    Decodes (fun bytes => (decode bytes).map f) payload (f a) where
  whole := by
    rw [h.whole]
    rfl
  cut part more he hne := by
    obtain ⟨e, hcut⟩ := h.cut part more he hne
    refine ⟨e, ?_⟩
    rw [hcut]
    rfl

end Decodes

/-- The greeting. -/
theorem decodes_hello {version : Nat} {serverName : Text} (hversion : version < 65536)
    (hname : WireString serverName) :
    Decodes decodeHello (u16le version ++ cstring serverName) (version, serverName) :=
  .of_readsOff <| (readsOff_u16 hversion).bind <| (readsOff_cstring hname).map _

/-- A player. -/
theorem decodes_player {p : DotaPlayerInfo} (hname : WireString p.name) :
    Decodes decodePlayer (p.pid :: cstring p.name ++ [p.colour, p.team, p.race]) p :=
  .of_readsOff <| (readsOff_u8 p.pid).bind <| (readsOff_cstring hname).bind <|
    (readsOff_u8 p.colour).bind <| (readsOff_u8 p.team).bind <| (readsOff_u8 p.race).map _

/-- A line of chat. -/
theorem decodes_chat {sender text : Text} (hsender : WireString sender) (htext : WireString text) :
    Decodes decodeChat (cstring sender ++ cstring text) (sender, text) :=
  .of_readsOff <| (readsOff_cstring hsender).bind <| (readsOff_cstring htext).map _

/-- The bytes of a snapshot, field by field. -/
def snapshotPayload (s : GameStartSnapshot) : List UInt8 :=
  cstring s.gameName ++ cstring s.mapPath
    ++ u32le s.mapSize.toNat ++ u32le s.mapInfoCrc.toNat ++ u32le s.mapCrc.toNat ++ s.mapSha1
    ++ s.statString ++ [0] ++ u32le s.randomSeed.toNat
    ++ [s.layoutStyle, s.playerSlots, s.war3Version, s.isTft.toUInt8, s.slots.length.toUInt8]
    ++ s.slots.flatMap SlotInfo.encode

/-- A word is the number it is. -/
theorem toUInt32_toNat (n : UInt32) : n.toNat.toUInt32 = n := by
  exact UInt32.ofNat_toNat

/-- A flag is its byte. -/
theorem toUInt8_ne_zero (b : Bool) : (b.toUInt8 != 0) = b := by
  cases b <;> rfl

/-- The snapshot as its fields are computed from the bytes. -/
theorem snapshot_rebuilt (s : GameStartSnapshot) :
    { s with
      mapSize := s.mapSize.toNat.toUInt32
      mapInfoCrc := s.mapInfoCrc.toNat.toUInt32
      mapCrc := s.mapCrc.toNat.toUInt32
      randomSeed := s.randomSeed.toNat.toUInt32
      isTft := s.isTft.toUInt8 != 0 } = s := by
  rw [toUInt32_toNat, toUInt32_toNat, toUInt32_toNat, toUInt32_toNat, toUInt8_ne_zero]

/-- The snapshot, field by field. -/
theorem decodes_snapshot {s : GameStartSnapshot} (h : (TvMessage.snapshot s).Sendable) :
    Decodes decodeSnapshot (snapshotPayload s) s := by
  obtain ⟨hgame, hmap, hsha, hstat, hslots⟩ := h
  have hcount : s.slots.length.toUInt8.toNat = s.slots.length := toNat_byte (by omega)
  have hsha1 : ReadsOff (tryGetBytes 20) s.mapSha1 s.mapSha1 := hsha ▸ readsOff_bytes s.mapSha1
  have htimes : ReadsOff (Lib.readTimes readSlot s.slots.length.toUInt8.toNat)
      (s.slots.flatMap SlotInfo.encode) s.slots := by
    rw [hcount]
    exact ReadsOff.times readsOff_slot s.slots
  have hread : ReadsOff readSnapshot (cstring s.gameName ++ (cstring s.mapPath
      ++ (u32le s.mapSize.toNat ++ (u32le s.mapInfoCrc.toNat ++ (u32le s.mapCrc.toNat ++ (s.mapSha1
      ++ ((s.statString ++ [0]) ++ (u32le s.randomSeed.toNat ++ ([s.layoutStyle] ++ ([s.playerSlots]
      ++ ([s.war3Version] ++ ([s.isTft.toUInt8] ++ ([s.slots.length.toUInt8]
      ++ s.slots.flatMap SlotInfo.encode))))))))))))) _ :=
    (readsOff_cstring hgame).bind <| (readsOff_cstring hmap).bind <|
      (readsOff_u32 s.mapSize.toNat_lt).bind <| (readsOff_u32 s.mapInfoCrc.toNat_lt).bind <|
      (readsOff_u32 s.mapCrc.toNat_lt).bind <| hsha1.bind <| (readsOff_statString hstat).bind <|
      (readsOff_u32 s.randomSeed.toNat_lt).bind <| (readsOff_u8 s.layoutStyle).bind <|
      (readsOff_u8 s.playerSlots).bind <| (readsOff_u8 s.war3Version).bind <|
      (readsOff_u8 s.isTft.toUInt8).bind <|
        (readsOff_u8 s.slots.length.toUInt8).bind <| htimes.map _
  rw [snapshot_rebuilt s] at hread
  unfold snapshotPayload
  simp only [List.append_assoc, List.cons_append, List.nil_append] at hread ⊢
  exact .of_readsOff hread

namespace TvMessage

/-- The payload of a message. -/
def payload : TvMessage → List UInt8
  | hello version serverName => u16le version ++ cstring serverName
  | snapshot s => snapshotPayload s
  | player p => p.pid :: cstring p.name ++ [p.colour, p.team, p.race]
  | chat sender text => cstring sender ++ cstring text
  | gameOver winner => cstring winner
  | historyEnd count => u32le count
  | subscribe clientVersion => u16le clientVersion
  | clientChat text => cstring text

/-- The encoder frames the payload. -/
theorem encode_eq {m : TvMessage} (h : m.Sendable) :
    m.encode = Frame.encodeWith ⟨m.kind.id, m.payload⟩ dotatvHeader := by
  cases m with
  | snapshot s =>
      obtain ⟨_, _, _, _, hslots⟩ := h
      simp only [encode, encodeSnapshot]
      rw [if_neg (by omega)]
      rfl
  | _ => rfl

/-- The slots take nine bytes each. -/
theorem length_slots (l : List SlotInfo) : (l.flatMap SlotInfo.encode).length = l.length * 9 := by
  induction l with
  | nil => rfl
  | cons s l ih =>
      rw [List.flatMap_cons, List.length_append, ih, List.length_cons]
      simp only [SlotInfo.encode, List.length_cons, List.length_nil]
      omega

/-- The payload is as long as the encoder reserves. -/
theorem length_payload {m : TvMessage} (h : m.Sendable) : m.payload.length = m.payloadLen := by
  cases m with
  | snapshot s =>
      obtain ⟨_, _, hsha, _, _⟩ := h
      simp only [payload, payloadLen, snapshotPayload, cstring, u32le, List.length_append,
        List.length_cons, List.length_nil, hsha, length_slots]
      omega
  | _ => simp [payload, payloadLen, cstring, u16le, u32le] <;> omega

/-- Every kind of message. -/
theorem decodes_payload {m : TvMessage} (h : m.Sendable) : Decodes m.kind.decode m.payload m := by
  cases m with
  | hello version serverName => exact (decodes_hello h.1 h.2).map _
  | snapshot s => exact (decodes_snapshot h).map _
  | player p => exact (decodes_player h).map _
  | chat sender text => exact (decodes_chat h.1 h.2).map _
  | gameOver winner => exact (Decodes.of_readsOff (readsOff_cstring h)).map _
  | historyEnd count => exact (Decodes.of_readsOff (readsOff_u32 h)).map _
  | subscribe clientVersion => exact (Decodes.of_readsOff (readsOff_u16 h)).map _
  | clientChat text => exact (Decodes.of_readsOff (readsOff_cstring h)).map _

end TvMessage

-- ================================================================ the frames

/-- A frame that fits its length field is encoded, and is what the codec
finds in its bytes. -/
theorem headerCodec_encodeWith (header : UInt8) {f : Frame}
    (h : headerLen + f.payload.length ≤ 65535) :
    ∃ bytes, f.encodeWith header = .ok bytes ∧ bytes.length = headerLen + f.payload.length
      ∧ HeaderCodec.decode header bytes = (.ok (some f), []) := by
  obtain ⟨lo, hi, hbytes, hvalue⟩ := u16le_toNat (n := headerLen + f.payload.length) (by omega)
  refine ⟨header :: f.id :: u16le (headerLen + f.payload.length) ++ f.payload, ?_, ?_, ?_⟩
  · unfold Frame.encodeWith
    dsimp only
    rw [if_neg (by omega)]
  · rw [hbytes]
    simp only [headerLen, List.length_append, List.length_cons, List.length_nil]
  · unfold headerLen at hvalue hbytes
    have hcodec := headerCodec_header header (f.id :: lo :: hi :: f.payload)
    dsimp only at hcodec
    rw [if_neg (by omega), if_neg (by omega), List.take_of_length_le (by omega),
      List.drop_of_length_le (by omega)] at hcodec
    unfold headerLen
    rw [hbytes]
    exact hcodec

/-- The action decoder gives back a frame of the game. -/
theorem decodeAction_frame {f : Frame} {bytes : List UInt8}
    (h : f.encodeWith w3gsHeader = .ok bytes) :
    decodeAction bytes = .ok bytes := by
  unfold Frame.encodeWith at h
  dsimp only at h
  split at h
  · cases h
  · injection h with h
    subst h
    obtain ⟨lo, hi, hbytes, hvalue⟩ := u16le_toNat (n := headerLen + f.payload.length) (by omega)
    rw [hbytes]
    unfold headerLen at hvalue
    have hlength : (w3gsHeader :: f.id :: [lo, hi] ++ f.payload).length = lo.toNat
      + 256 * hi.toNat := by
      simp only [List.length_append, List.length_cons, List.length_nil]
      omega
    unfold decodeAction
    dsimp only [List.cons_append, List.nil_append] at hlength ⊢
    rw [if_neg (fun hne => hne rfl), if_neg (by omega), if_neg (by omega),
      List.take_of_length_le (Nat.le_of_eq hlength)]

-- ============================================================ the round trip

/-- Every message that fits a frame comes back from it, and from no
part of it; and so does every frame of the game that fits a frame. -/
theorem dotatv_roundtrip :
    (∀ m : TvMessage, m.Sendable → headerLen + m.payloadLen ≤ 65535 →
      ∃ bytes payload, m.encode = .ok bytes ∧ bytes.length = headerLen + m.payloadLen
        ∧ HeaderCodec.decode dotatvHeader bytes = (.ok (some ⟨m.kind.id, payload⟩), [])
        ∧ m.kind.decode payload = .ok m
        ∧ ∀ part, part <+: payload → part ≠ payload → ∃ e, m.kind.decode part = .error e)
      ∧ ∀ f : List UInt8, (∃ frame : Frame, frame.encodeWith w3gsHeader = .ok f)
        → f.length ≤ 65531 →
        ∃ bytes payload, encodeAction f = .ok bytes
          ∧ HeaderCodec.decode dotatvHeader bytes = (.ok (some ⟨0x04, payload⟩), [])
          ∧ decodeAction payload = .ok f := by
  constructor
  · intro m hm hfits
    rw [← TvMessage.length_payload hm] at hfits ⊢
    obtain ⟨bytes, hencode, hlength, hcodec⟩ :=
      headerCodec_encodeWith dotatvHeader (f := ⟨m.kind.id, m.payload⟩) hfits
    have hdecodes := TvMessage.decodes_payload hm
    refine ⟨bytes, m.payload, (TvMessage.encode_eq hm).trans hencode, hlength, hcodec,
      hdecodes.whole, ?_⟩
    rintro part ⟨more, hcut⟩ hne
    have hmore : more ≠ [] := by
      intro hnil
      rw [hnil, List.append_nil] at hcut
      exact hne hcut
    exact hdecodes.cut part more hcut.symm hmore
  · rintro f ⟨frame, hframe⟩ hfits
    have htotal : headerLen + f.length ≤ 65535 := by
      unfold headerLen
      omega
    obtain ⟨bytes, hencode, _, hcodec⟩ :=
      headerCodec_encodeWith dotatvHeader (f := ⟨0x04, f⟩) htotal
    exact ⟨bytes, f, hencode, hcodec, decodeAction_frame hframe⟩

/-- A greeting, and the frame of a turn. -/
theorem dotatv_roundtrip_hello :
    (∃ bytes payload, (TvMessage.hello 42 [0x53, 0x70]).encode = .ok bytes ∧ bytes.length = 9
        ∧ HeaderCodec.decode dotatvHeader bytes = (.ok (some ⟨0x01, payload⟩), [])
        ∧ TvKind.decode .hello payload = .ok (.hello 42 [0x53, 0x70])
        ∧ ∀ part, part <+: payload → part ≠ payload → ∃ e, TvKind.decode .hello part = .error e)
      ∧ ∃ bytes payload, encodeAction [0xF7, 0x0C, 0x06, 0x00, 0x64, 0x00] = .ok bytes
        ∧ HeaderCodec.decode dotatvHeader bytes = (.ok (some ⟨0x04, payload⟩), [])
        ∧ decodeAction payload = .ok [0xF7, 0x0C, 0x06, 0x00, 0x64, 0x00] := by
  have hname : WireString [0x53, 0x70] := ⟨⟨['S', 'p'], by decide +kernel⟩, by decide⟩
  exact ⟨dotatv_roundtrip.1 (.hello 42 [0x53, 0x70]) ⟨by decide, hname⟩ (by decide +kernel),
    dotatv_roundtrip.2 [0xF7, 0x0C, 0x06, 0x00, 0x64, 0x00]
    ⟨⟨0x0C, [0x64, 0x00]⟩, by decide +kernel⟩
      (by decide)⟩

end Spectre

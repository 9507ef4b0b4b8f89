/-
Joining and coming back (`lobby.rs`, `gproxy.rs`, `full_rejoin.rs`):
the join handshake, the two ways a held seat is re-attached, and what
happens to a player whose connection closes.

`handleGpsReconnect` serves a client that only lost its connection,
from its own buffer. `tryFullRejoin` serves a client that restarted
cold: it repeats the join handshake on the old seat and leaves the
history to the catch-up feed.
-/
import Spectre.Start

namespace Spectre

/-- `REJECT_FULL`. -/
def rejectFull : Nat := 0x09

/-- `REJECT_STARTED`. -/
def rejectStarted : Nat := 0x0A

/-- `reject_reason::NOT_FOUND`. -/
def rejectNotFound : Nat := 0x01

/-- `reject_reason::INVALID_KEY`. -/
def rejectInvalidKey : Nat := 0x02

namespace Player

/-- The re-attachment of `try_full_rejoin`: the seat on its new link,
at the start of the handshake, with the state of the old session
cleared. -/
def attachFull (p : Player) (connId : Nat) (link : PlayerLink) : Player :=
  { p with
    connId := connId, link := link, disconnectedSince := none, left := none
    consecutiveSendFailures := 0, loaded := false, rejoin := .awaitingMapSize
    syncCounter := 0, checksums := [], reports := [], lagging := false, startedLagging := none }

/-- Send packets on a link until one is refused. -/
def sendWhileOk (p : Player) : List Packet → Player
  | [] => p
  | packet :: rest =>
      let (link, result) := p.link.trySend packet .personal
      match result with
      | .ok () => sendWhileOk { p with link := link } rest
      | .error _ => { p with link := link }

/-- The re-attachment of `handle_gps_reconnect`: the new link, the
acknowledgement and the replay. -/
def attachGps (p : Player) (connId : Nat) (link : PlayerLink) (received : Nat)
    (replay : List Packet) : Player :=
  let p := { p with connId := connId, link := link, disconnectedSince := none, left := none }
  (p.sendDirect (.reconnectOk received)).sendWhileOk replay

/-- What `handle_conn_closed` does to the player. -/
def connClosed (p : Player) (now : Nat) (reason : Text) (leftCode : Nat) : Player :=
  if p.gproxy then { p with disconnectedSince := p.disconnectedSince.or (some now) }
  else if p.left.isNone then p.leave (.connClosed reason) leftCode
  else p

/-- One player's share of `reap_gproxy_timeouts`. -/
def gproxyTimeout (p : Player) (now grace : Nat) : Player :=
  match p.disconnectedSince with
  | none => p
  | some since =>
      if grace ≤ now - since then
        { p with
          left := some .failedToReconnect, leftCode := leaveGproxy, disconnectedSince := none }
      else if !p.gproxyDisconnectNoticeSent then
        { p with gproxyDisconnectNoticeSent := true, lastGproxyWaitNotice := some now }
      else match p.lastGproxyWaitNotice with
        | some t => if secs 20 ≤ now - t then { p with lastGproxyWaitNotice := some now } else p
        | none => p

/-- The notice `reap_gproxy_timeouts` gives about a player. -/
def gproxyNotice (p : Player) (now grace : Nat) : Option Text :=
  match p.disconnectedSince with
  | none => none
  | some since =>
      if grace ≤ now - since then none
      else if !p.gproxyDisconnectNoticeSent then
        some (txt "Player [" ++ p.name
          ++ txt "] has lost connection but is using GProxy++ and may reconnect.")
      else match p.lastGproxyWaitNotice with
        | some t =>
            if secs 20 ≤ now - t then
              some (txt "Waiting for reconnect (" ++ decimal ((grace - (now - since)) / 1000)
                ++ txt " seconds remain)...")
            else none
        | none => none

end Player

namespace GameState

-- ============================================================== FULL rejoin

/-- The token cached for a connection by its last GPS FULL frame. -/
def fullToken (s : GameState) (connId : Nat) : Option (UInt8 × UInt32) :=
  (s.pendingFull.find? fun e => e.1 == connId).map Prod.snd

/-- Forget the token of a connection. -/
def forgetFull (s : GameState) (connId : Nat) : GameState :=
  { s with pendingFull := s.pendingFull.filter fun e => e.1 != connId }

/-- Whether a REQ_JOIN on this connection is a FULL rejoin, and of
which seat. -/
def fullRejoinSeat (s : GameState) (connId : Nat) (name : Text) : Option UInt8 :=
  if s.phase = .playing ∨ s.phase = .loading then
    match s.fullToken connId with
    | none => none
    | some (tokenPid, tokenKey) =>
        match s.players.byPid tokenPid with
        | none => none
        | some p =>
            if p.disconnectedSince.isSome ∧ p.left.isNone ∧ eqIgnoreAsciiCase p.name name
              ∧ p.reconnectKey = tokenKey
            then some tokenPid else none
  else none

/-- The other players a rejoining client is told about. -/
def rejoinOthers (s : GameState) (pid : UInt8) : List Player :=
  s.players.filter fun q => q.pid != pid && !q.virtualHost && q.left.isNone

/-- The join packets of `try_full_rejoin`, in order, those that can be
built. -/
def rejoinHandshake (s : GameState) (pid : UInt8) (listenPort : Nat) (externalIp : Ip) :
    List Packet :=
  let m := s.cfg.map
  (Packet.slotInfoJoin pid listenPort externalIp s.slots s.randomSeed m.layoutStyle
      m.numPlayers).build.toList
    ++ (s.rejoinOthers pid).filterMap (fun q =>
      (Packet.playerInfo q.pid q.name q.externalIp q.internalIp).build)
    ++ (Packet.mapCheck m.path m.size m.info m.crc m.sha1).build.toList

/-- `GameState::try_full_rejoin` on a seat that may be rejoined: attach
the link, spend the token, and repeat the join handshake on it. -/
def fullRejoin (s : GameState) (connId : Nat) (pid : UInt8) (req : ReqJoin) (externalIp : Ip)
    (link : PlayerLink) : GameState :=
  let s := { s with players := s.players.modifyPid pid fun p => p.attachFull connId link }
  let s := s.forgetFull connId
  (s.rejoinHandshake pid req.listenPort externalIp).foldl (fun s b => s.sendTo pid b) s

/-- `GameState::try_full_rejoin`: `none` when the join is not a FULL
rejoin. -/
def tryFullRejoin (s : GameState) (connId : Nat) (req : ReqJoin) (externalIp : Ip)
    (link : PlayerLink) : Option GameState :=
  (s.fullRejoinSeat connId req.name).map fun pid => s.fullRejoin connId pid req externalIp link

-- ============================================================ GPS reconnect

/-- `GameState::handle_gps_reconnect`. -/
def handleGpsReconnect (s : GameState) (connId : Nat) (req : ReconnectReq) (link : PlayerLink) :
    GameState × Bool :=
  match s.players.byPid req.pid with
  | none => (s.refuse connId (.gpsReject rejectNotFound), false)
  | some p =>
      if !p.gproxy ∨ p.reconnectKey ≠ req.reconnectKey then
        (s.refuse connId (.gpsReject rejectInvalidKey), false)
      else match p.gproxyBuffer with
        | none => (s.refuse connId (.gpsReject rejectNotFound), false)
        | some b =>
            match b.replayFrom req.lastPacket with
            | none => (s.refuse connId (.gpsReject rejectNotFound), false)
            | some replay =>
                ({ s with players := s.players.modifyPid req.pid fun p =>
                    p.attachGps connId link b.totalSent replay }, true)

/-- `GameState::reap_gproxy_timeouts`. -/
def reapGproxyTimeouts (s : GameState) (grace : Nat) : GameState :=
  let notices := s.players.filterMap fun p => p.gproxyNotice s.now grace
  let s := { s with players := s.players.map fun p => p.gproxyTimeout s.now grace }
  notices.foldl (fun s n => s.sendChatAll n) s

/-- `GameState::gproxy_empty_actions`. -/
def gproxyEmptyActions (s : GameState) : Nat :=
  let secs := s.cfg.reconnectWait / 1000
  if secs = 0 then 0
  else min ((if 60 ≤ secs then secs / 60 else secs) - 1) 9

/-- The port a client is told to reconnect to. -/
def reconnectPort (s : GameState) : Nat :=
  if s.cfg.gproxyReconnectPort ≠ 0 then s.cfg.gproxyReconnectPort
  else if s.cfg.hostPort ≠ 0 then s.cfg.hostPort
  else 6114

-- ================================================================== joining

/-- The slot a joining name gets: the one held for it if open, else the
first open slot nobody holds. -/
def joinSlot [RustStd] (s : GameState) (name : Text) : Option UInt8 :=
  let firstFree := ((List.range s.slots.length).find? fun i =>
    match s.slots[i]? with
    | some slot => slot.slotStatus == slotOpen && !s.holds.any fun h => h.1 == i.toUInt8
    | none => false).map Nat.toUInt8
  match (RustStd.hashOrder s.holds).find? fun h => eqIgnoreAsciiCase h.2 name with
  | some (rsid, _) => if s.slots.isOpen rsid then some rsid else firstFree
  | none => firstFree

/-- A slot is reserved for the name. -/
def isReserved (s : GameState) (name : Text) : Bool :=
  s.holds.any fun h => eqIgnoreAsciiCase h.2 name

/-- The player record of a joining client. -/
def newPlayer (s : GameState) (connId : Nat) (link : PlayerLink) (externalIp : Ip) (req : ReqJoin)
    (pid : UInt8) (reconnectKey : UInt32) : Player :=
  { pid := pid, name := req.name, connId := connId, link := link
    externalIp := externalIp, internalIp := req.internalIp, reconnectKey := reconnectKey
    reserved := s.isReserved req.name
    spoofed := s.cfg.spoofChecks = 0 ∨ externalIp = ⟨127, 0, 0, 1⟩ ∨ externalIp.a = 192
      ∨ externalIp.a = 10 }

/-- The rest of the join burst, behind SLOT_INFO_JOIN: the others, the
map check and the rejoin token. -/
def joinBurst (s : GameState) (player : Player) : List Packet :=
  let m := s.cfg.map
  s.players.filterMap (fun p => (Packet.playerInfo p.pid p.name p.externalIp p.internalIp).build)
    ++ (Packet.mapCheck m.path m.size m.info m.crc m.sha1).build.toList
    ++ (Packet.rejoinToken player.pid player.reconnectKey s.reconnectPort m.crc m.sha1 s.cfg.name
      m.path).build.toList

/-- Announce a packet, if it could be built, to every player but one,
on the bare links. -/
def sendOthersDirect? (s : GameState) (pid : UInt8) (packet : Option Packet) : GameState :=
  match packet with
  | some b => { s with players := s.players.map fun p => if p.pid = pid then p else p.sendDirect b }
  | none => s

/-- Seat a joining client whose SLOT_INFO_JOIN was enqueued. -/
def seatPlayer (s : GameState) (player : Player) : GameState :=
  let player : Player := (s.joinBurst player).foldl Player.sendDirect player
  let s : GameState := { s with players := s.players ++ [player] }
  let s := s.sendOthersDirect? player.pid
    (Packet.playerInfo player.pid player.name player.externalIp player.internalIp).build
  let s := s.sendAllSlotInfo
  if maxSlots - 1 ≤ s.players.humanCount then s.deleteVirtualHost else s

/-- The lobby arm of `handle_req_join`. -/
def joinLobby [RustStd] (s : GameState) (key : UInt32) (connId : Nat) (link : PlayerLink)
    (externalIp : Ip) (req : ReqJoin) : GameState :=
  if s.players.any fun p => eqIgnoreAsciiCase p.name req.name then
    s.refuse connId (.rejectJoin rejectFull)
  else match s.joinSlot req.name, s.players.nextFreePid with
    | some sid, some pid =>
        let s := s.setSlots (s.slots.occupySlot sid pid).1
        let player := s.newPlayer connId link externalIp req pid key
        match (Packet.slotInfoJoin pid req.listenPort externalIp s.slots s.randomSeed
            s.cfg.map.layoutStyle s.cfg.map.numPlayers).build with
        | some b =>
            if player.link.next = .room then s.seatPlayer (player.sendDirect b)
            else s.setSlots (s.slots.release pid).1
        | none => s.setSlots (s.slots.release pid).1
    | _, _ => s.refuse connId (.rejectJoin rejectFull)

/-- Take a connection off the pending list. -/
def unpend (s : GameState) (connId : Nat) : GameState :=
  { s with pending := s.pending.eraseP fun e => e.connId == connId }

/-- `GameState::handle_req_join`, with the reconnect key drawn. -/
def handleReqJoin [RustStd] (s : GameState) (key : UInt32) (connId : Nat) (payload : List UInt8) :
    GameState :=
  match s.pending.find? fun e => e.connId == connId with
  | none => s
  | some e =>
      let s := s.unpend connId
      match ReqJoin.decode payload with
      | .error _ => s
      | .ok req =>
          if s.phase ≠ .lobby then
            match s.tryFullRejoin connId req e.externalIp e.link with
            | some s => s
            | none => s.refuse connId (.rejectJoin rejectStarted)
          else s.joinLobby key connId e.link e.externalIp req

-- ================================================================== leaving

/-- The leave code before and after the game has started. -/
def leaveCode (s : GameState) (afterStart : Nat) : Nat :=
  if s.phase.beforeStart then leaveLobby else afterStart

/-- `GameState::handle_leave`. -/
def handleLeave (s : GameState) (connId : Nat) (reasonCode : Nat) : GameState :=
  if (s.players.byConn connId).isSome then
    { s with players := s.players.modifyConn connId fun p =>
        p.leave (.leftVoluntarily reasonCode) (s.leaveCode leaveLost) }
  else { s with pending := s.pending.filter fun e => e.connId != connId }

/-- `GameState::handle_conn_closed`. -/
def handleConnClosed (s : GameState) (connId : Nat) (reason : Text) : GameState :=
  let s := s.forgetFull connId
  if (s.players.byConn connId).isSome then
    { s with players := s.players.modifyConn connId fun p =>
        p.connClosed s.now reason (s.leaveCode leaveDisconnect) }
  else { s with pending := s.pending.filter fun e => e.connId != connId }

end GameState

end Spectre

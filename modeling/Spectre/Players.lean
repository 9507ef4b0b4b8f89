/-
Players and the player table (`players.rs`).

The table is a list in seating order. Lookups find the first match and
`by_pid_mut` / `by_conn_mut` update in place, so an update through a
lookup is `Lib.updateFirst`.

`left` is a `String` in the source, but nothing ever reads more of it
than whether it is there: the text goes to the log. `LeftReason` keeps
one constructor per site that writes one, with the text.
-/
import Spectre.Lib.Table
import Spectre.History
import Spectre.Slots

namespace Spectre

/-- `RejoinStage`. -/
inductive RejoinStage where
  | none
  | awaitingMapSize
  | awaitingLoaded
deriving DecidableEq, Repr

/-- `ChecksumEntry`. -/
structure ChecksumEntry where
  turn : Nat
  checksum : Nat
deriving DecidableEq, Repr

/-- Why a player was marked left. -/
inductive LeftReason where
  | laggedOut
  | connectionClosed
  | connClosed (reason : Text)
  | catchUpClosed
  | catchUpEvicted
  | failedToReconnect
  | leftVoluntarily (code : Nat)
  | invalidAction
  | desync
  | historyTooLong
  | loadingTimedOut
  | gameOver
  | lacksMap
  | highPing (avg limit : Nat)
  | droppedByVote
  | kicked
  | banned (reason : Text)
  | votedOut
  | lagging (secs : Nat)
deriving DecidableEq, Repr

/-- The text the source stores. -/
def LeftReason.text : LeftReason → Text
  | laggedOut => txt "lagged out (write queue full)"
  | connectionClosed => txt "connection closed"
  | connClosed reason => reason
  | catchUpClosed => txt "connection closed during catch-up"
  | catchUpEvicted => txt "catch-up fell behind history eviction"
  | failedToReconnect => txt "failed to reconnect in time"
  | leftVoluntarily code => txt "left the game voluntarily (code " ++ decimal code ++ txt ")"
  | invalidAction => txt "Invalid action packet"
  | desync => txt "was dropped due to desync"
  | historyTooLong => txt "cannot rejoin: game history too long to replay"
  | loadingTimedOut => txt "loading timed out (60s)"
  | gameOver => txt "was disconnected (gameover timer finished)"
  | lacksMap => txt "lacks map and downloads are disabled"
  | highPing avg limit =>
      txt "autokicked for high ping (" ++ decimal avg ++ txt "ms > " ++ decimal limit ++ txt "ms)"
  | droppedByVote => txt "was dropped by vote"
  | kicked => txt "was kicked"
  | banned reason => txt "banned: " ++ reason
  | votedOut => txt "voted out"
  | lagging secs => txt "was dropped after lagging for " ++ decimal secs ++ txt "s"

/-- `PLAYERLEAVE_DISCONNECT`. -/
def leaveDisconnect : Nat := 1

/-- `PLAYERLEAVE_LOST`. -/
def leaveLost : Nat := 7

/-- `PLAYERLEAVE_LOBBY`. -/
def leaveLobby : Nat := 13

/-- `PLAYERLEAVE_GPROXY`. -/
def leaveGproxy : Nat := 100

/-- `PING_HISTORY`. -/
def pingHistoryCap : Nat := 10

/-- `Player`, without the counters nothing reads. Instants are the
game clock's milliseconds. `reports` is added: the checksums of the
keepalives accepted since the counter was last set to 0. -/
structure Player where
  pid : UInt8
  name : Text
  connId : Nat
  link : PlayerLink
  externalIp : Ip := Ip.zero
  internalIp : Ip := Ip.zero
  joinedRealm : Text := []
  spoofed : Bool := false
  syncCounter : Nat := 0
  lagging : Bool := false
  startedLagging : Option Nat := none
  loaded : Bool := false
  downloadStatus : Nat := 255
  pingHistory : List Nat := []
  reconnectKey : UInt32 := 0
  gproxy : Bool := false
  gproxyBuffer : Option GProxyBuffer := none
  disconnectedSince : Option Nat := none
  muted : Bool := false
  reserved : Bool := false
  checksums : List ChecksumEntry := []
  consecutiveSendFailures : Nat := 0
  leftCode : Nat := leaveLobby
  left : Option LeftReason := none
  virtualHost : Bool := false
  finishedLoadingAt : Option Nat := none
  downloadAllowed : Bool := false
  statsSentTime : Option Nat := none
  statsDotaSentTime : Option Nat := none
  lastGproxyWaitNotice : Option Nat := none
  gproxyDisconnectNoticeSent : Bool := false
  rejoin : RejoinStage := .none
  catchupCursor : Option Nat := none
  catchingUp : Bool := false
  reports : List Nat := []

namespace Player

/-- `Player::record_ping`. -/
def recordPing (p : Player) (ping : Nat) : Player :=
  let kept := if p.pingHistory.length = pingHistoryCap then p.pingHistory.tail else p.pingHistory
  { p with pingHistory := kept ++ [ping] }

/-- `Player::average_ping`. -/
def averagePing (p : Player) : Option Nat :=
  if p.pingHistory = [] then none
  else some (p.pingHistory.sum % 2 ^ 32 / p.pingHistory.length)

/-- `p.left = Some(reason); p.left_code = code`. -/
def leave (p : Player) (reason : LeftReason) (code : Nat) : Player :=
  { p with left := some reason, leftCode := code }

/-- Count a failed send, dropping the player at the threshold
(`MAX_CONSECUTIVE_DROPS`). -/
def sendFailed (p : Player) : Player :=
  let n := min (p.consecutiveSendFailures + 1) (2 ^ 32 - 1)
  { p with
    consecutiveSendFailures := n
    left := if 100 ≤ n then some .laggedOut else p.left }

/-- A send that met a closed link: a gproxy player is held, any other
has left. -/
def linkClosed (p : Player) (now : Nat) : Player :=
  if p.gproxy then
    { p with disconnectedSince := p.disconnectedSince.or (some now) }
  else { p with left := some .connectionClosed }

/-- One `link.try_send` of `broadcast` and `send_to`, and what its
outcome does to the player. -/
def deliver (p : Player) (now : Nat) (packet : Packet) (via : Via) : Player :=
  let (link, result) := p.link.trySend packet via
  let p := { p with link := link }
  match result with
  | .ok () => { p with consecutiveSendFailures := 0 }
  | .error .backpressure => p.sendFailed
  | .error .closed => p.linkClosed now

/-- `let _ = p.link.try_send(..)`: a send whose outcome is ignored. -/
def sendDirect (p : Player) (packet : Packet) : Player :=
  { p with link := (p.link.trySend packet .personal).1 }

/-- Append to the GProxy buffer, if there is one. -/
def buffer (p : Player) (packet : Packet) : Player :=
  { p with gproxyBuffer := p.gproxyBuffer.map fun b => b.push packet }

end Player

-- ================================================================= the table

/-- `PlayerTable`. -/
abbrev PlayerTable := List Player

/-- `NameMatch`. -/
inductive NameMatch where
  | found (p : Player)
  | none
  | ambiguous (n : Nat)

namespace PlayerTable

/-- `by_pid`. -/
def byPid (t : PlayerTable) (pid : UInt8) : Option Player := t.find? fun p => p.pid == pid

/-- `by_conn`. -/
def byConn (t : PlayerTable) (connId : Nat) : Option Player := t.find? fun p => p.connId == connId

/-- An update through `by_pid_mut`. -/
def modifyPid (t : PlayerTable) (pid : UInt8) (f : Player → Player) : PlayerTable :=
  Lib.updateFirst (fun p => p.pid == pid) f t

/-- An update through `by_conn_mut`. -/
def modifyConn (t : PlayerTable) (connId : Nat) (f : Player → Player) : PlayerTable :=
  Lib.updateFirst (fun p => p.connId == connId) f t

/-- `remove_pid`. -/
def removePid (t : PlayerTable) (pid : UInt8) : PlayerTable := t.eraseP fun p => p.pid == pid

/-- `by_name_partial`: an exact match wins, else a unique
case-insensitive prefix. -/
def byNamePartial [RustStd] (t : PlayerTable) (needle : Text) : NameMatch :=
  match t.find? fun p => p.name == needle with
  | some p => .found p
  | Option.none =>
      let lower := RustStd.toLowercase needle
      match t.filter fun p => lower.isPrefixOf (RustStd.toLowercase p.name) with
      | [] => .none
      | [p] => .found p
      | hits => .ambiguous hits.length

/-- `human_count`. -/
def humanCount (t : PlayerTable) : Nat := t.countP fun p => !p.virtualHost

/-- `next_free_pid`: the least of 1..=254 not in the table. -/
def nextFreePid (t : PlayerTable) : Option UInt8 :=
  ((List.range' 1 254).map Nat.toUInt8).find? fun c => !t.any fun p => p.pid == c

end PlayerTable

end Spectre

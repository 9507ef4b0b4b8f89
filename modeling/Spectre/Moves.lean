/-
The small steps of the engine, seen by one player.

Every handler is a sequence of small steps on the state (`Steps`), and
most of those are one small step for each player in the table. `Moves`
lists them: a broadcast heard, a personal send, the catch-up feed, a
mark, a flag, a re-attachment. A property of players is proved once per
constructor, and then holds of every handler.

`Quiet` stands for all the bookkeeping at once: pings, mutes, download
percentages, notices — fields that none of the properties read.
-/
import Spectre.Actor
import Spectre.Delivery

namespace Spectre

/-- The kinds of small step. -/
inductive Kind where
  /-- fields no property reads -/
  | misc
  /-- a broadcast -/
  | air
  /-- a broadcast about the lag screen -/
  | airLag
  /-- the empty turn of a lag screen reset -/
  | reset
  /-- an action packet, relayed, recorded and broadcast -/
  | block
  /-- a send to one player -/
  | tell
  /-- the catch-up feed -/
  | feed
  /-- bookkeeping on players -/
  | note
  /-- a player marked left by the host or by its own wish -/
  | leave
  /-- a player dropped for lagging -/
  | lagDrop
  /-- a player dropped for a desync -/
  | desync
  /-- the loading timeout -/
  | timeout
  /-- a rejoin token on the bare link -/
  | token (pid : UInt8)
  /-- a GPS send on the bare link -/
  | hail
  /-- a client turns out to use GProxy -/
  | gproxy
  /-- a connection closed -/
  | hold
  /-- the reconnect grace runs out -/
  | expire
  /-- a rejoining client answered the map check -/
  | answer
  /-- a rejoin refused because the history has lost its head -/
  | tooLong
  /-- a rejoining client has loaded: the cursor is armed -/
  | arm
  /-- a client has loaded -/
  | load
  /-- lag flags -/
  | lag
  /-- a keepalive -/
  | ack (pid : UInt8) (checksum : Nat)
  /-- queued checksums dropped -/
  | pop
  /-- the fake player is level with the game -/
  | level
  /-- `begin_playing` -/
  | restart
  /-- a FULL rejoin takes over a seat -/
  | attachFull (pid : UInt8)
  /-- a GPS reconnect takes over a seat -/
  | attachGps (pid : UInt8)
  /-- a client is seated and announced -/
  | seat
  /-- a client is not seated after all -/
  | bounce
  /-- the fake player is seated and announced -/
  | seatFake
  /-- the virtual host is created -/
  | host
  /-- a player marked left is removed -/
  | unseat
  /-- the virtual host is removed -/
  | unhost
  /-- the fake player is removed -/
  | unfake
  /-- the slot table changes, its seats do not -/
  | slots
  /-- a slot is opened or closed by command -/
  | vacate (sid : UInt8)
  /-- the game mode is written into the slots -/
  | hcl
  /-- the phase changes -/
  | phase
  /-- the phase becomes loading -/
  | toLoading
  /-- a turn is counted -/
  | turn
  /-- an action is queued -/
  | act
  /-- pending connections -/
  | queue
  /-- the tokens of pending connections -/
  | cache
  /-- votes and downloads -/
  | refer
  /-- the sync limit changes -/
  | limit
  /-- time passes -/
  | clock
  /-- a chat record of the replay, and whether it fits its length field -/
  | record (fits : Bool)
  /-- a LEAVEGAME record of the replay -/
  | leaver
  /-- the head of the replay -/
  | prologue
  /-- the match statistics -/
  | stats
  /-- a lobby status on the event channel -/
  | status
  /-- the game goes on under another name and number -/
  | rehost
  /-- `reap_left_players`, as one step -/
  | reap
  /-- `begin_loading`, as one step -/
  | begin
  /-- `handle_loaded`, as one step -/
  | loaded (connId : Nat)
  /-- `check_lag`, as one step -/
  | lagCheck
  /-- `check_desync`, as one step -/
  | check
  /-- `send_all_actions`, as one step -/
  | sendTurn
deriving DecidableEq

/-- The reasons that are a decision of the host or of the player, and
not the state of a connection or of the loading screen. -/
def LeftReason.decided : LeftReason → Bool
  | leftVoluntarily _ | invalidAction | desync | gameOver | lacksMap | highPing .. | droppedByVote
  | kicked | banned _ | votedOut => true
  | _ => false

/-- The connection id of the virtual host. -/
def hostConn : Nat := 2 ^ 64 - 1

/-- Two records of a player that differ in bookkeeping only. -/
structure Quiet (p q : Player) : Prop where
  pid : q.pid = p.pid
  name : q.name = p.name
  connId : q.connId = p.connId
  link : q.link = p.link
  virtualHost : q.virtualHost = p.virtualHost
  left : q.left = p.left
  gproxy : q.gproxy = p.gproxy
  gproxyBuffer : q.gproxyBuffer = p.gproxyBuffer
  disconnectedSince : q.disconnectedSince = p.disconnectedSince
  rejoin : q.rejoin = p.rejoin
  catchupCursor : q.catchupCursor = p.catchupCursor
  loaded : q.loaded = p.loaded
  lagging : q.lagging = p.lagging
  reconnectKey : q.reconnectKey = p.reconnectKey
  syncCounter : q.syncCounter = p.syncCounter
  checksums : q.checksums = p.checksums
  reports : q.reports = p.reports
  catchingUp : q.catchingUp = p.catchingUp
  leftCode : q.leftCode = p.leftCode

namespace Player

/-- A closed connection touches the flags of absence only. -/
theorem connClosed_eq (p : Player) (now : Nat) (reason : Text) (code : Nat) :
    ∃ d l c, p.connClosed now reason code
      = { p with disconnectedSince := d, left := l, leftCode := c } := by
  unfold connClosed
  split
  · exact ⟨_, p.left, p.leftCode, rfl⟩
  · split
    · exact ⟨p.disconnectedSince, _, _, rfl⟩
    · exact ⟨p.disconnectedSince, p.left, p.leftCode, rfl⟩

/-- The grace of a held player runs out, or it is told that it is
waited for. -/
theorem gproxyTimeout_cases (p : Player) (now grace : Nat) :
    (p.disconnectedSince = none ∧ p.gproxyTimeout now grace = p) ∨
    (∃ since, p.disconnectedSince = some since ∧ grace ≤ now - since
      ∧ p.gproxyTimeout now grace = { p with
        left := some .failedToReconnect, leftCode := leaveGproxy, disconnectedSince := none }) ∨
    ∃ since n t, p.disconnectedSince = some since ∧ now - since < grace
      ∧ p.gproxyTimeout now grace = { p with
        gproxyDisconnectNoticeSent := n, lastGproxyWaitNotice := t } := by
  unfold gproxyTimeout
  cases hd : p.disconnectedSince with
  | none => exact .inl ⟨rfl, rfl⟩
  | some since =>
      dsimp only
      split
      · rename_i hlate
        exact .inr (.inl ⟨since, rfl, hlate, rfl⟩)
      rename_i hlate
      have hearly : now - since < grace := Nat.lt_of_not_le hlate
      split
      · exact .inr (.inr ⟨since, _, _, rfl, hearly, by rw [← hd]⟩)
      split
      · split
        · exact .inr (.inr ⟨since, p.gproxyDisconnectNoticeSent, _, rfl, hearly, by rw [← hd]⟩)
        · exact .inr (.inr ⟨since, p.gproxyDisconnectNoticeSent,
            p.lastGproxyWaitNotice, rfl, hearly, by rw [← hd]⟩)
      · exact .inr (.inr ⟨since, p.gproxyDisconnectNoticeSent, p.lastGproxyWaitNotice, rfl, hearly,
          by rw [← hd]⟩)

/-- The end of the grace touches the flags of absence and the notices
only. -/
theorem gproxyTimeout_eq (p : Player) (now grace : Nat) :
    ∃ d l c n t, p.gproxyTimeout now grace
      = { p with
          disconnectedSince := d, left := l, leftCode := c
          gproxyDisconnectNoticeSent := n, lastGproxyWaitNotice := t } := by
  rcases p.gproxyTimeout_cases now grace with ⟨-, h⟩ | ⟨_, -, -, h⟩ | ⟨_, n, t, -, -, h⟩
  · exact ⟨_, _, _, _, _, h⟩
  · exact ⟨_, _, _, p.gproxyDisconnectNoticeSent, p.lastGproxyWaitNotice, h⟩
  · exact ⟨p.disconnectedSince, p.left, p.leftCode, n, t, h⟩

/-- The loading timeout touches the mark only. -/
theorem loadingTimeout_eq (p : Player) :
    ∃ l c, p.loadingTimeout = { p with left := l, leftCode := c } := by
  unfold loadingTimeout
  split
  · exact ⟨_, _, rfl⟩
  · exact ⟨p.left, p.leftCode, rfl⟩

/-- A keepalive touches the counter, the checksums and the end of a
catch-up. -/
theorem keepalive_eq (p : Player) (gameSync checksum : Nat) :
    ∃ queue up, p.keepalive gameSync checksum = { p with
      syncCounter := min (p.syncCounter + 1) (2 ^ 32 - 1), reports := p.reports ++ [checksum]
      checksums := queue, catchingUp := up } := by
  unfold keepalive
  dsimp only
  split
  · split
    · exact ⟨p.checksums, false, rfl⟩
    · exact ⟨p.checksums, p.catchingUp, rfl⟩
  · exact ⟨_, p.catchingUp, rfl⟩

end Player

/-- The sequence number a broadcast is recorded under, if it is. -/
def GameState.airSeq (s : GameState) : Option Nat :=
  if s.phase = .playing then some s.fullHistory.log.length else none

/-- What one small step does to one player. -/
inductive Moves (s : GameState) : Kind → Player → Player → Prop
  | same {k : Kind} {p : Player} : Moves s k p p
  | air {p : Player} (b : Packet) (h : b.isW3gs = true) : Moves s .air p (p.hear s.now b s.airSeq)
  | tell {p : Player} (b : Packet) (h : b.isW3gs = true)
      (hroster : b.isRoster = true → s.phase = .playing ∨ s.phase = .loading) :
      Moves s .tell p (p.receive s.now b)
  | feed {p : Player} : Moves s .feed p (p.feed s.now s.fullHistory)
  | note {p q : Player} (h : Quiet p q) : Moves s .note p q
  | leave {p : Player} (r : LeftReason) (code : Nat) (h : r.decided = true) (hr : r ≠ .desync)
      (hcode : code < 2 ^ 32) : Moves s .leave p (p.leave r code)
  | desync {p : Player} (code : Nat) (hcode : code < 2 ^ 32) :
      Moves s .desync p (p.leave .desync code)
  | lagDrop {p : Player} (n code : Nat) (h : p.disconnectedSince = none) (hcode : code < 2 ^ 32) :
      Moves s .lagDrop p (p.leave (.lagging n) code)
  | timeout {p : Player} : Moves s .timeout p p.loadingTimeout
  | greet {p : Player} (b : Packet) : Moves s .seat p (p.sendDirect b)
  | token {p : Player} (b : Packet) (h : b.isRoster = false) :
      Moves s (.token p.pid) p (p.sendDirect b)
  | hail {p : Player} (b : Packet) (h : b.isW3gs = false) : Moves s .hail p (p.sendDirect b)
  | gproxy {p : Player} (h : p.connId ≠ hostConn) : Moves s .gproxy p p.enableGproxy
  | hold {p : Player} (reason : Text) (code : Nat) (hcode : code < 2 ^ 32) :
      Moves s .hold p (p.connClosed s.now reason code)
  | expire {p : Player} : Moves s .expire p (p.gproxyTimeout s.now s.cfg.reconnectWait)
  | answer {p : Player} (h : p.rejoin = .awaitingMapSize) :
      Moves s .answer p { p with rejoin := .awaitingLoaded }
  | tooLong {p : Player} (h : p.rejoin = .awaitingLoaded) :
      Moves s .tooLong p
        { p with rejoin := .none, left := some .historyTooLong, leftCode := leaveDisconnect }
  | arm {p : Player} (h : p.rejoin = .awaitingLoaded) :
      Moves s .arm p
        { p with loaded := true, rejoin := .none, catchupCursor := some 0, catchingUp := true }
  | load {p : Player} (t : Option Nat) :
      Moves s .load p { p with loaded := true, finishedLoadingAt := t }
  | lag {p : Player} (b : Bool) (t : Option Nat) (h : p.virtualHost = false) :
      Moves s .lag p { p with lagging := b, startedLagging := t }
  | ack {p : Player} (checksum : Nat) (h : s.phase = .playing) :
      Moves s (.ack p.pid checksum) p (p.keepalive s.syncCounter checksum)
  | pop {p : Player} (rest : List ChecksumEntry) (h : rest <:+ p.checksums) :
      Moves s .pop p { p with checksums := rest }
  | level {p : Player} (h : s.fakePlayerPid = some p.pid) :
      Moves s .level p { p with syncCounter := s.syncCounter }
  | restart {p : Player} : Moves s .restart p p.beginPlaying
  | attachFull {p : Player} (connId : Nat) (link : PlayerLink) (hlink : link.sent = [])
      (hheld : p.disconnectedSince.isSome) (hleft : p.left = none) :
      Moves s (.attachFull p.pid) p (p.attachFull connId link)
  | attachGps {p : Player} (connId : Nat) (link : PlayerLink) (hlink : link.sent = [])
      (hgproxy : p.gproxy = true) (b : GProxyBuffer) (hb : p.gproxyBuffer = some b) (last : Nat)
      (replay : List Packet) (hreplay : b.replayFrom last = some replay) :
      Moves s (.attachGps p.pid) p (p.attachGps connId link b.totalSent replay)

end Spectre

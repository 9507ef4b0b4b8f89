/-
The spectator relay (`relay.rs`, and its messages in `dotatv.rs`).

One task owns the relay and takes commands from two sides: the games
hand it the blocks they broadcast, their setup and their chat; viewers
join, speak and leave. A block waits for the configured delay before it
is sent to the viewers, and is kept for those who join later.

# What is kept besides the source's fields

A viewer's link records every send that was tried on it, with the
instant and with what the send found (`Offer`); what it sent are the
offers that found room. A block carries the instant the game handed it
over (`born`). The relay remembers the blocks it released (`released`),
where among them the current game begins (`gameFrom`), how many times a
game has started (`starts`), and the viewers it has let go (`gone`).
-/
import Mathlib.Logic.Function.Basic
import Spectre.Framing
import Spectre.Incoming
import Spectre.Lib.Table

namespace Spectre

-- ============================================================ what is sent

/-- `DOTATV_HEADER`. -/
def dotatvHeader : UInt8 := 0xFD

/-- `ids::CLIENT_CHAT`. -/
def dotatvClientChat : UInt8 := 0x81

/-- `GameStartSnapshot`. -/
structure GameStartSnapshot where
  gameName : Text
  mapPath : Text
  mapSize : UInt32
  mapInfoCrc : UInt32
  mapCrc : UInt32
  mapSha1 : List UInt8
  statString : List UInt8
  randomSeed : UInt32
  layoutStyle : UInt8
  playerSlots : UInt8
  war3Version : UInt8
  isTft : Bool
  slots : List SlotInfo
deriving DecidableEq, Repr

/-- `dotatv::PlayerInfo`. -/
structure DotaPlayerInfo where
  pid : UInt8
  name : Text
  colour : UInt8
  team : UInt8
  race : UInt8
deriving DecidableEq, Repr

/-- A block of game data, and when the game handed it over. -/
structure GameBlock where
  bytes : List UInt8
  born : Nat
deriving DecidableEq, Repr

/-- `encode_hello`. -/
def encodeHello (version : Nat) (serverName : Text) : Except ProtoError (List UInt8) :=
  Frame.encodeWith ⟨0x01, u16le version ++ Packet.cstring serverName⟩ dotatvHeader

/-- `encode_snapshot`. -/
def encodeSnapshot (s : GameStartSnapshot) : Except ProtoError (List UInt8) :=
  if 255 < s.slots.length then .error (.badValue (txt "too many slots in snapshot"))
  else Frame.encodeWith ⟨0x02, Packet.cstring s.gameName ++ Packet.cstring s.mapPath
    ++ u32le s.mapSize.toNat ++ u32le s.mapInfoCrc.toNat ++ u32le s.mapCrc.toNat ++ s.mapSha1
    ++ s.statString ++ [0] ++ u32le s.randomSeed.toNat
    ++ [s.layoutStyle, s.playerSlots, s.war3Version, s.isTft.toUInt8, s.slots.length.toUInt8]
    ++ s.slots.flatMap SlotInfo.encode⟩ dotatvHeader

/-- `encode_player`. -/
def encodePlayer (p : DotaPlayerInfo) : Except ProtoError (List UInt8) :=
  Frame.encodeWith ⟨0x03, p.pid :: Packet.cstring p.name ++ [p.colour, p.team, p.race]⟩ dotatvHeader

/-- `encode_action`. -/
def encodeAction (w3gsRawFrame : List UInt8) : Except ProtoError (List UInt8) :=
  Frame.encodeWith ⟨0x04, w3gsRawFrame⟩ dotatvHeader

/-- `encode_chat`. -/
def encodeChat (sender text : Text) : Except ProtoError (List UInt8) :=
  Frame.encodeWith ⟨0x05, Packet.cstring sender ++ Packet.cstring text⟩ dotatvHeader

/-- `encode_history_end`. -/
def encodeHistoryEnd (count : Nat) : Except ProtoError (List UInt8) :=
  Frame.encodeWith ⟨0x07, u32le count⟩ dotatvHeader

/-- What the relay sends: a call of one of the encoders, or a block as
it is. A chat line remembers when it was written in a game, if it was. -/
inductive DtvMsg where
  | hello (version : Nat) (serverName : Text)
  | snapshot (s : GameStartSnapshot)
  | player (p : DotaPlayerInfo)
  | action (b : GameBlock)
  | raw (b : GameBlock)
  | chat (sender text : Text) (written : Option Nat)
  | historyEnd (count : Nat)
deriving DecidableEq, Repr

namespace DtvMsg

/-- The bytes, or why there are none. -/
def encode : DtvMsg → Except ProtoError (List UInt8)
  | hello version serverName => encodeHello version serverName
  | snapshot s => encodeSnapshot s
  | player p => encodePlayer p
  | action b => encodeAction b.bytes
  | raw b => .ok b.bytes
  | chat sender text _ => encodeChat sender text
  | historyEnd count => encodeHistoryEnd count

/-- The encoder succeeds. -/
def encodes (m : DtvMsg) : Bool :=
  match m.encode with
  | .ok _ => true
  | .error _ => false

/-- When it happened in the game, if it did. -/
def happened : DtvMsg → Option Nat
  | action b | raw b => some b.born
  | chat _ _ written => written
  | _ => none

/-- Everything but chat: the join burst and the blocks. -/
def isStream : DtvMsg → Bool
  | chat .. => false
  | _ => true

end DtvMsg

/-- A block as it is broadcast: framed, or as it is if it does not fit a
frame. -/
def GameBlock.msg (b : GameBlock) : DtvMsg :=
  if (DtvMsg.action b).encodes then .action b else .raw b

-- ============================================================== a viewer's link

/-- What the sends on a queue find, in turn. -/
structure Schedule where
  finds : Nat → Found
  closed_mono : ∀ n, finds n = .closed → finds (n + 1) = .closed

theorem never_closed_room (_ : Nat) (h : Found.room = .closed) : Found.room = .closed := h

/-- A queue that always has room. -/
def Schedule.drained : Schedule := ⟨fun _ => .room, never_closed_room⟩

/-- A send that was tried. -/
structure Offer where
  time : Nat
  msg : DtvMsg
  found : Found
deriving DecidableEq, Repr

/-- The message, if it was enqueued. -/
def Offer.sent? (o : Offer) : Option (Nat × DtvMsg) :=
  if o.found = .room then some (o.time, o.msg) else none

/-- The link of a viewer: what its sends find, and those tried. -/
structure ViewerLink where
  schedule : Schedule
  offers : List Offer

namespace ViewerLink

/-- What the next send finds. -/
def next (l : ViewerLink) : Found := l.schedule.finds l.offers.length

/-- The link after `try_send`. -/
def push (l : ViewerLink) (now : Nat) (m : DtvMsg) : ViewerLink :=
  { l with offers := l.offers ++ [⟨now, m, l.next⟩] }

/-- `if let Ok(bytes) = encode { let _ = link.try_send(bytes); }`. -/
def offer (l : ViewerLink) (now : Nat) (m : DtvMsg) : ViewerLink :=
  if m.encodes then l.push now m else l

/-- Everything enqueued, oldest first. -/
def sent (l : ViewerLink) : List (Nat × DtvMsg) := l.offers.filterMap Offer.sent?

end ViewerLink

-- ==================================================================== the relay

/-- `RelayConfig`, the part the relay reads; the delay in ms. -/
structure RelayConfig where
  delay : Nat
  maxViewers : Nat
  historyMaxMb : Nat
deriving DecidableEq, Repr

/-- `RelayError`. -/
inductive RelayError where
  | full
  | historyLimitExceeded
deriving DecidableEq, Repr

/-- `MAX_CONSECUTIVE_DROPS`. -/
def maxConsecutiveDrops : Nat := 200

/-- What the relay had when a viewer joined. -/
structure Joined where
  snapshot : Option GameStartSnapshot
  players : List DotaPlayerInfo
  gameFrom : Nat
  releasedUpto : Nat
  starts : Nat
deriving DecidableEq, Repr

/-- A registered viewer. -/
structure Viewer where
  connId : Nat
  link : ViewerLink
  joined : Joined

/-- `Relay`. A connection without drops counts as one with none. -/
structure Relay where
  cfg : RelayConfig
  viewers : List Viewer
  dropCounts : Nat → Nat
  delayedBlocks : List (Nat × GameBlock)
  releasedCount : Nat
  snapshot : Option GameStartSnapshot
  players : List DotaPlayerInfo
  history : List GameBlock
  historyBytes : Nat
  released : List GameBlock
  gameFrom : Nat
  starts : Nat
  gone : List Viewer

/-- The match of `broadcast` on one viewer's send: the viewer after it,
the drop counts, and whether the viewer is kept. -/
def Viewer.deliver (v : Viewer) (now : Nat) (m : DtvMsg) (drops : Nat → Nat) :
    Viewer × (Nat → Nat) × Bool :=
  let u := { v with link := v.link.push now m }
  match v.link.next with
  | .room => (u, Function.update drops v.connId 0, true)
  | .full =>
      let n := drops v.connId + 1
      if maxConsecutiveDrops < n then (u, Function.update drops v.connId 0, false)
      else (u, Function.update drops v.connId n, true)
  | .closed => (u, Function.update drops v.connId 0, false)

/-- The `retain` of `broadcast`: who stays, who goes, and the drop
counts. -/
def deliverAll (now : Nat) (m : DtvMsg) :
    List Viewer → (Nat → Nat) → List Viewer × List Viewer × (Nat → Nat)
  | [], drops => ([], [], drops)
  | v :: vs, drops =>
      let r := v.deliver now m drops
      let rest := deliverAll now m vs r.2.1
      if r.2.2 then (r.1 :: rest.1, rest.2.1, rest.2.2)
      else (rest.1, r.1 :: rest.2.1, rest.2.2)

namespace Relay

/-- `Relay::new`. -/
def new (cfg : RelayConfig) : Relay where
  cfg
  viewers := []
  dropCounts := fun _ => 0
  delayedBlocks := []
  releasedCount := 0
  snapshot := none
  players := []
  history := []
  historyBytes := 0
  released := []
  gameFrom := 0
  starts := 0
  gone := []

/-- `Relay::add_viewer`. -/
def addViewer (r : Relay) (v : Viewer) : Except RelayError Relay :=
  if r.cfg.maxViewers ≤ r.viewers.length then .error .full
  else if r.cfg.historyMaxMb * (1024 * 1024) < r.historyBytes then .error .historyLimitExceeded
  else .ok { r with
    dropCounts := Function.update r.dropCounts v.connId 0, viewers := r.viewers ++ [v] }

/-- `Relay::remove_viewer`. -/
def removeViewer (r : Relay) (connId : Nat) : Relay :=
  { r with
    dropCounts := Function.update r.dropCounts connId 0
    viewers := r.viewers.filter fun v => v.connId != connId
    gone := r.gone ++ r.viewers.filter fun v => v.connId == connId }

/-- `Relay::broadcast`. -/
def broadcast (r : Relay) (now : Nat) (m : DtvMsg) : Relay :=
  let d := deliverAll now m r.viewers r.dropCounts
  { r with viewers := d.1, gone := r.gone ++ d.2.1, dropCounts := d.2.2 }

/-- The body of the loop of `release_due_blocks`, once its block is
popped. -/
def releaseBlock (r : Relay) (now : Nat) (b : GameBlock) : Relay :=
  let r := { r with historyBytes := r.historyBytes + b.bytes.length, history := r.history ++ [b] }
  let r := r.broadcast now b.msg
  { r with releasedCount := r.releasedCount + 1, released := r.released ++ [b] }

/-- The loop of `release_due_blocks` over the queued blocks. -/
def releaseFrom (now : Nat) : List (Nat × GameBlock) → Relay → Relay
  | [], r => r
  | (releaseAt, b) :: rest, r =>
      if releaseAt ≤ now then
        releaseFrom now rest ({ r with delayedBlocks := rest }.releaseBlock now b)
      else r

/-- `Relay::release_due_blocks`. -/
def releaseDueBlocks (r : Relay) (now : Nat) : Relay := releaseFrom now r.delayedBlocks r

/-- The body of the loop of `RelayCmd::GameOver`, once its block is
popped. -/
def flushBlock (r : Relay) (now : Nat) (b : GameBlock) : Relay :=
  let r := r.broadcast now b.msg
  { r with releasedCount := r.releasedCount + 1, released := r.released ++ [b] }

/-- `RelayCmd::GameOver`. -/
def gameOver (r : Relay) (now : Nat) : Relay :=
  let flushed := r.delayedBlocks.foldl (fun r x => r.flushBlock now x.2)
    { r with delayedBlocks := [] }
  { flushed with history := [], historyBytes := 0, gameFrom := flushed.released.length }

/-- What a joining viewer is sent. -/
def joinBurst (r : Relay) : List DtvMsg :=
  .hello 1 (txt "spectre") :: (r.snapshot.toList.map .snapshot ++ r.players.map .player
    ++ r.history.map .action ++ [.historyEnd (r.history.length % 2 ^ 32)])

/-- A joining viewer whose link was sent the burst, whatever came of the
sends. -/
def joiner (r : Relay) (now connId : Nat) (schedule : Schedule) : Viewer where
  connId
  link := r.joinBurst.foldl (fun l m => l.offer now m) ⟨schedule, []⟩
  joined := ⟨r.snapshot, r.players, r.gameFrom, r.released.length, r.starts⟩

/-- `RelayCmd::ViewerJoined`: the burst goes to a viewer that is
registered, and one that is refused is sent nothing. -/
def viewerJoined (r : Relay) (now connId : Nat) (schedule : Schedule) : Relay :=
  match r.addViewer (r.joiner now connId schedule) with
  | .ok r => r
  | .error _ => r

/-- `RelayCmd::PlayerInfo`. -/
def playerInfo (r : Relay) (p : DotaPlayerInfo) : Relay :=
  { r with players :=
      if r.players.any fun q => q.pid == p.pid then
        Lib.updateFirst (fun q => q.pid == p.pid) (fun _ => p) r.players
      else r.players ++ [p] }

/-- A chat line for every viewer, if it fits a frame. -/
def broadcastChat (r : Relay) (now : Nat) (m : DtvMsg) : Relay :=
  if m.encodes then r.broadcast now m else r

/-- `Relay::handle_conn_event` on a frame: a viewer's chat line. -/
def handleFrame (r : Relay) (now connId : Nat) (f : Frame) : Relay :=
  if f.id = dotatvClientChat then
    match tryGetCstring f.payload with
    | .ok text _ =>
        r.broadcastChat now (.chat (txt "Viewer-" ++ decimal connId) text none)
    | .error .. => r
  else r

end Relay

-- ======================================================================= runs

/-- `RelayCmd`, until `Shutdown` ends the run. -/
inductive RelayCmd where
  | gameBlock (bytes : List UInt8)
  | gameStart (snap : GameStartSnapshot)
  | playerInfo (p : DotaPlayerInfo)
  | viewerJoined (connId : Nat) (schedule : Schedule)
  | viewerLeft (connId : Nat)
  | closed (connId : Nat)
  | frame (connId : Nat) (f : Frame)
  | viewerChat (sender text : Text)
  | gameOver
  | debugGetReleasedCount

/-- What a `RelayHandle` queues for a message of the engine. -/
def RelayMsg.cmd : RelayMsg → RelayCmd
  | .gameStart gameName mapPath mapSize mapInfo mapCrc mapSha1 statString randomSeed layoutStyle
      playerSlots slots =>
      .gameStart ⟨gameName, mapPath, mapSize, mapInfo, mapCrc, mapSha1, statString, randomSeed,
        layoutStyle, playerSlots, 26, true, slots⟩
  | .playerInfo pid name colour team race => .playerInfo ⟨pid, name, colour, team, race⟩
  | .chat name message => .viewerChat name message
  | .push packet => .gameBlock (packet.encode.getD [])
  | .gameOver => .gameOver

/-- What the loop of `run_relay` may take next: a command, which was
queued at some instant, or its timer. -/
inductive RelayEvent where
  | cmd (sent : Nat) (c : RelayCmd)
  | tick

namespace Relay

/-- One command. -/
def command (r : Relay) (now sent : Nat) : RelayCmd → Relay
  | .gameBlock bytes =>
      let releaseAt := now + r.cfg.delay
      releaseDueBlocks
        { r with delayedBlocks := r.delayedBlocks ++ [(releaseAt, ⟨bytes, sent⟩)] } now
  | .gameStart snap => { r with snapshot := some snap, starts := r.starts + 1 }
  | .playerInfo p => r.playerInfo p
  | .viewerJoined connId schedule => r.viewerJoined now connId schedule
  | .viewerLeft connId => r.removeViewer connId
  | .closed connId => r.removeViewer connId
  | .frame connId f => r.handleFrame now connId f
  | .viewerChat sender text => r.broadcastChat now (.chat sender text (some sent))
  | .gameOver => r.gameOver now
  | .debugGetReleasedCount => r.releaseDueBlocks now

/-- One turn of the loop of `run_relay`, at an instant. -/
def step (r : Relay) : Nat × RelayEvent → Relay
  | (now, .cmd sent c) => r.command now sent c
  | (now, .tick) => r.releaseDueBlocks now

/-- Turns of the loop one after another. -/
def run : List (Nat × RelayEvent) → Relay → Relay
  | [], r => r
  | e :: rest, r => run rest (r.step e)

/-- A viewer that joins is refused or registered. -/
theorem viewerJoined_cases (r : Relay) (now connId : Nat) (schedule : Schedule) :
    r.viewerJoined now connId schedule = r
      ∨ r.viewerJoined now connId schedule = { r with
          dropCounts := Function.update r.dropCounts connId 0
          viewers := r.viewers ++ [r.joiner now connId schedule] } := by
  unfold viewerJoined addViewer
  by_cases hfull : r.cfg.maxViewers ≤ r.viewers.length
  · rw [if_pos hfull]
    exact .inl rfl
  · rw [if_neg hfull]
    by_cases hlimit : r.cfg.historyMaxMb * (1024 * 1024) < r.historyBytes
    · rw [if_pos hlimit]
      exact .inl rfl
    · rw [if_neg hlimit]
      exact .inr rfl

/-- Everyone who was ever registered. -/
def everyone (r : Relay) : List Viewer := r.viewers ++ r.gone

end Relay

/-- When a command was queued. -/
def RelayEvent.sent? : RelayEvent → Option Nat
  | .cmd sent _ => some sent
  | .tick => none

/-- Instants never go back, no command is handled before it was queued,
and the queue keeps their order. -/
structure Timed (es : List (Nat × RelayEvent)) : Prop where
  order : es.Pairwise fun a b => a.1 ≤ b.1
  sent : ∀ e ∈ es, ∀ t ∈ e.2.sent?, t ≤ e.1
  queue : (es.filterMap fun e => e.2.sent?).Pairwise fun s t => s ≤ t

namespace Timed

variable {e : Nat × RelayEvent} {rest : List (Nat × RelayEvent)}

theorem tail (h : Timed (e :: rest)) : Timed rest := by
  refine ⟨(List.pairwise_cons.1 h.order).2, fun x hx => h.sent x (List.mem_cons_of_mem e hx), ?_⟩
  have hqueue := h.queue
  cases hsent : e.2.sent? with
  | none =>
      rw [List.filterMap_cons, hsent] at hqueue
      exact hqueue
  | some t =>
      rw [List.filterMap_cons, hsent] at hqueue
      exact (List.pairwise_cons.1 hqueue).2

/-- What is handled later was queued later. -/
theorem queued_le (h : Timed (e :: rest)) {s now t : Nat} {c c' : RelayCmd} (he : e.2 = .cmd s c)
    (hmem : (now, .cmd t c') ∈ rest) : s ≤ t := by
  have hqueue := h.queue
  rw [List.filterMap_cons, he] at hqueue
  exact (List.pairwise_cons.1 hqueue).1 t (List.mem_filterMap.2 ⟨_, hmem, rfl⟩)

end Timed

end Spectre

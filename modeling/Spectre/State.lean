/-
The game state and its delivery primitives (`state.rs`, and
`send_chat_to` of `chat.rs`).

Every packet a player gets passes through `broadcast`, `sendTo`,
`pumpRejoinCatchup` or one of the few direct sends of the join and
GProxy handshakes; this file is the first three and the chat lines
built on them.

# What the model adds to the source's fields

- `now`: the clock `Instant::now()` reads, in milliseconds.
- `phases`: every value ever assigned to `phase`, in order.
- `aired`: every packet ever broadcast, in order.
- `started`: the start of the game as `begin_playing` last saw it.
- `reaped`: who was reaped, and why.
- `turns`: the length of every turn ever sent, in ms.
- `panicked`: set where the source would panic on a string slice.
- `events`: what was put on the event channel.
- `refused`: what was sent on connections given up in the same breath,
  whose links are dropped.

Fields that the engine writes and never reads (the lock flag, the last
game name, jitter statistics) and the live-stream handles are left out,
as is W3MMD parsing, whose state nothing reads.
-/
import Spectre.Incoming
import Spectre.Players
import Spectre.Stats
import Spectre.Replay

namespace Spectre

-- ============================================================= configuration

/-- `MapInfo`, the fields the engine reads. -/
structure MapInfo where
  path : Text
  size : UInt32
  info : UInt32
  crc : UInt32
  sha1 : List UInt8
  numPlayers : UInt8
  width : Nat
  height : Nat
  gameType : UInt32
  flags : UInt32
  data : Option (List UInt8)
  layoutStyle : UInt8
  options : UInt32
  mapType : Text
  defaultHcl : Text

namespace MapInfo

/-- `has_fixed_player_settings` (`MAPOPT_FIXEDPLAYERSETTINGS`). -/
def hasFixedPlayerSettings (m : MapInfo) : Bool := m.options &&& 0x20 != 0

/-- `has_custom_forces` (`MAPOPT_CUSTOMFORCES`). -/
def hasCustomForces (m : MapInfo) : Bool := m.options &&& 0x40 != 0

/-- `observers`: whether observers or referees may be seated
(`MAPOBS_ALLOWED` or `MAPOBS_REFEREES`). -/
def seatsObservers (m : MapInfo) : Bool :=
  m.flags &&& 0x40000000 != 0 || m.flags &&& 0x3000 == 0x3000

/-- `has_random_races`. -/
def hasRandomRaces (m : MapInfo) : Bool := m.flags &&& 0x04000000 != 0

end MapInfo

/-- `GameConfig`, the fields the engine reads. Durations are in ms. -/
structure GameConfig where
  name : Text
  owner : Text
  hostCounter : Nat
  numSlots : Nat
  latency : Nat
  syncLimit : Nat
  map : MapInfo
  virtualHostName : Text
  reconnectWait : Nat
  customSlots : Option (List SlotInfo)
  relay : Bool
  store : Bool
  eventTx : Bool
  maxDownloaders : Nat
  maxDownloadSpeed : Nat
  allowDownloads : Nat
  autokickPing : Nat
  lcPings : Bool
  spoofChecks : Nat
  requireSpoofChecks : Bool
  hostPort : Nat
  gproxyReconnectPort : Nat
  lobbyTimeLimit : Nat
  hclFromGameName : Bool
  votekickAllowed : Bool
  votekickPercentage : Nat

/-- A number of seconds on the game clock. -/
def secs (n : Nat) : Nat := n * 1000

/-- `COUNTDOWN_STEP`, in ms. -/
def countdownStep : Nat := 500

/-- `COUNTDOWN_STEPS`. -/
def countdownSteps : Nat := 10

/-- `COUNTDOWN_TOTAL`, in ms. -/
def countdownTotal : Nat := 500 * countdownSteps

/-- `GamePhase`. -/
inductive GamePhase where
  | lobby
  | countdown (startedAt totalDuration lastAnnouncedStep : Nat)
  | loading
  | playing
  | over
deriving DecidableEq, Repr

/-- `GamePhase::Lobby | GamePhase::Countdown { .. }`. -/
def GamePhase.beforeStart : GamePhase → Bool
  | .lobby | .countdown .. => true
  | _ => false

-- ============================================================ other records

/-- `Download`. -/
structure Download where
  pid : UInt8
  sentUpto : Nat
  ackedUpto : Nat
  started : Nat
deriving DecidableEq, Repr

/-- `TickScheduler`, the part the engine reads. -/
structure TickScheduler where
  period : Nat
deriving DecidableEq, Repr

/-- A connection that has not joined yet. -/
structure Pending where
  connId : Nat
  link : PlayerLink
  externalIp : Ip

/-- What the engine pushes to the spectator relay. -/
inductive RelayMsg where
  | gameStart (gameName mapPath : Text) (mapSize mapInfo mapCrc : UInt32) (mapSha1 : List UInt8)
      (statString : List UInt8) (randomSeed : UInt32) (layoutStyle playerSlots : UInt8)
      (slots : List SlotInfo)
  | playerInfo (pid : UInt8) (name : Text) (colour team race : UInt8)
  | chat (name message : Text)
  | push (packet : Packet)
  | gameOver
deriving DecidableEq, Repr

/-- What the engine hands to the persistent store. -/
inductive StoreCmd where
  | ban (name ip admin reason : Text)
  | unban (name : Text)
  | addAdmin (name : Text)
  | removeAdmin (name : Text)
  | logGame (name mapPath : Text) (players : List Text)
  | logDotaGame (name : Text) (winner durationSec treeHp throneHp : Nat)
      (players : List DotAPlayerStats)
  | recordDownload (mapPath : Text) (mapSize : UInt32) (name ip : Text) (spoofed : Bool)
      (total secs : Nat)
deriving DecidableEq, Repr

/-- `GameEvent::LobbyStatus`. -/
structure LobbyStatus where
  hostCounter : Nat
  slotsOpen : Nat
  slotsTotal : Nat
  humanPlayers : Nat
deriving DecidableEq, Repr

/-- What a game starts from: the slots, the seed, and the players with
their names. -/
structure StartState where
  slots : SlotTable
  randomSeed : UInt32
  roster : List (UInt8 × Text)
deriving DecidableEq, Repr

/-- `GameState`. -/
structure GameState where
  cfg : GameConfig
  phase : GamePhase
  slots : SlotTable
  players : PlayerTable
  tick : TickScheduler
  pending : List Pending
  actions : List ActionBlock
  syncCounter : Nat
  gameTicks : Nat
  randomSeed : UInt32
  createdAt : Nat
  lagging : Bool
  finished : Bool
  downloads : List Download
  downloadCounter : Nat
  lastDownloadCounterReset : Nat
  relay : Option (List RelayMsg)
  replay : Option ReplayBody
  store : Option (List StoreCmd)
  dota : Option StatsDotA
  gameOverTime : Option Nat
  hcl : Option Text
  mutedAll : Bool
  drawVotes : List UInt8
  startVotes : List UInt8
  lastPlayerLeft : Option (Text × Text)
  lastPlayerLeftTime : Option Nat
  holds : List (UInt8 × Text)
  votekickTarget : Option UInt8
  votekickVotes : List UInt8
  autostartPlayers : Option Nat
  announceMessage : Option Text
  announceInterval : Nat
  lastAnnounceTime : Option Nat
  virtualHostPid : UInt8
  startedLoadingAt : Option Nat
  lastPingAt : Nat
  lastLagScreenReset : Nat
  lastReservedSeen : Nat
  startPlayers : Nat
  muteLobby : Bool
  localAdminMessages : Bool
  fakePlayerPid : Option UInt8
  fullHistory : FullHistory
  pendingFull : List (Nat × UInt8 × UInt32)
  now : Nat
  phases : List GamePhase
  aired : List Packet
  started : Option StartState
  reaped : List (UInt8 × LeftReason)
  turns : List Nat
  panicked : Bool
  events : List LobbyStatus
  refused : List (Nat × Packet)
  lastLobbyStatus : Option (Nat × Nat × Nat)

namespace GameState

/-- The raw stat string of the replay header and the relay snapshot. -/
def rawStatString (cfg : GameConfig) (tail : List UInt8) : List UInt8 :=
  u32le cfg.map.flags.toNat ++ [0] ++ u16le cfg.map.width ++ u16le cfg.map.height
    ++ u32le cfg.map.crc.toNat ++ cfg.map.path ++ [0] ++ cfg.virtualHostName ++ [0] ++ tail

/-- `GameState::new`, started at `now` with the random seed drawn. -/
def new [RustStd] (cfg : GameConfig) (now : Nat) (randomSeed : UInt32) : GameState where
  cfg := cfg
  phase := .lobby
  slots := cfg.customSlots.getD (SlotTable.new cfg.numSlots)
  players := []
  tick := ⟨cfg.latency⟩
  pending := []
  actions := []
  syncCounter := 0
  gameTicks := 0
  randomSeed := randomSeed
  createdAt := now
  lagging := false
  finished := false
  downloads := []
  downloadCounter := 0
  lastDownloadCounterReset := now
  relay := if cfg.relay then some [] else none
  replay := some
    { hostPid := 255, hostName := cfg.virtualHostName, gameName := cfg.name
      statString := encodeStatstring (rawStatString cfg []), mapGameType := cfg.map.gameType }
  store := if cfg.store then some [] else none
  dota :=
    if cfg.map.mapType = txt "dota"
      ∨ (cfg.map.mapType = []
        ∧ (RustStd.toLowercase cfg.name).tails.any fun t => (txt "dota").isPrefixOf t)
    then some {} else none
  gameOverTime := none
  hcl := (if cfg.hclFromGameName then Hcl.parseFromGamename cfg.name else none).or
    (if cfg.map.defaultHcl = [] then none else some cfg.map.defaultHcl)
  mutedAll := false
  drawVotes := []
  startVotes := []
  lastPlayerLeft := none
  lastPlayerLeftTime := none
  holds := []
  votekickTarget := none
  votekickVotes := []
  autostartPlayers := none
  announceMessage := none
  announceInterval := 0
  lastAnnounceTime := none
  virtualHostPid := 255
  startedLoadingAt := none
  lastPingAt := now
  lastLagScreenReset := now
  lastReservedSeen := now
  startPlayers := 0
  muteLobby := false
  localAdminMessages := true
  fakePlayerPid := none
  fullHistory := FullHistory.new
  pendingFull := []
  now := now
  phases := [.lobby]
  aired := []
  started := none
  reaped := []
  turns := []
  panicked := false
  events := []
  refused := []
  lastLobbyStatus := none

/-- `self.phase = phase`. -/
def setPhase (s : GameState) (phase : GamePhase) : GameState :=
  { s with phase := phase, phases := s.phases ++ [phase] }

/-- `self.finished = true`. -/
def finish (s : GameState) : GameState := { s with finished := true }

/-- `self.slots = slots`, or an update of it in place. -/
def setSlots (s : GameState) (slots : SlotTable) : GameState := { s with slots := slots }

/-- A last packet on a connection that is then dropped. -/
def refuse (s : GameState) (connId : Nat) (packet : Packet) : GameState :=
  { s with refused := s.refused ++ [(connId, packet)] }

/-- `GameState::add_conn`. -/
def addConn (s : GameState) (connId : Nat) (link : PlayerLink) (externalIp : Ip) : GameState :=
  { s with pending := s.pending ++ [⟨connId, link, externalIp⟩] }

/-- `GameState::host_pid`. -/
def hostPid (s : GameState) : UInt8 :=
  if s.virtualHostPid ≠ 255 then s.virtualHostPid
  else match s.players.find? fun p => p.left.isNone with
    | some p => p.pid
    | none => 255

end GameState

-- ================================================================= broadcast

namespace Player

/-- One player's share of a broadcast. The buffer is fed even while the
player is away; the link only when the player is here, past the rejoin
handshake and level with the history. -/
def hear (p : Player) (now : Nat) (packet : Packet) (seq : Option Nat) : Player :=
  if p.left.isSome || p.virtualHost then p
  else
    let p := p.buffer packet
    -- in the rejoin handshake: the packet is recorded and comes with the catch-up
    if p.rejoin ≠ .none then p
    else if p.catchupCursor.isSome then p
    else if p.disconnectedSince.isSome then p
    else p.deliver now packet (.live seq)

/-- The inner loop of the catch-up: send until the link refuses. -/
def feedPackets (now : Nat) : List Packet → Nat → Player → Player × Nat
  | [], cur, p => (p, cur)
  | packet :: rest, cur, p =>
      let (link, result) := p.link.trySend packet (.history cur)
      let p := { p with link := link }
      match result with
      | .ok () => feedPackets now rest (cur + 1) { p with consecutiveSendFailures := 0 }
      | .error .backpressure => (p, cur)
      | .error .closed =>
          if p.gproxy && p.disconnectedSince.isNone then
            ({ p with disconnectedSince := some now, catchupCursor := none }, cur)
          else ({ p with left := some .catchUpClosed, catchupCursor := none }, cur)

/-- One player's share of `pump_rejoin_catchup`. -/
def feed (p : Player) (now : Nat) (history : FullHistory) : Player :=
  match p.catchupCursor with
  | none => p
  | some cursor =>
      if p.left.isSome then { p with catchupCursor := none }
      else if cursor < history.firstSeq then
        { p with left := some .catchUpEvicted, catchupCursor := none }
      else
        let (p, cur) := feedPackets now (history.since cursor) cursor p
        if p.catchupCursor.isSome then
          if history.nextSeq ≤ cur then { p with catchupCursor := none, catchingUp := true }
          else { p with catchupCursor := some cur }
        else p

/-- One player's share of `send_to`. -/
def receive (p : Player) (now : Nat) (packet : Packet) : Player :=
  if p.left.isSome then p
  else
    let p := p.buffer packet
    if p.disconnectedSince.isSome then p else p.deliver now packet .personal

end Player

namespace GameState

/-- `GameState::broadcast`. Only the broadcasts of a running game are
recorded. -/
def broadcast (s : GameState) (packet : Packet) : GameState :=
  if s.phase = .playing then
    { s with
      fullHistory := s.fullHistory.push packet
      players := s.players.map fun p => p.hear s.now packet (some s.fullHistory.nextSeq)
      aired := s.aired ++ [packet] }
  else
    { s with
      players := s.players.map fun p => p.hear s.now packet none
      aired := s.aired ++ [packet] }

/-- Broadcast the result of a fallible builder. -/
def broadcast? (s : GameState) (packet : Option Packet) : GameState :=
  match packet with
  | some b => s.broadcast b
  | none => s

/-- `GameState::pump_rejoin_catchup`. -/
def pumpRejoinCatchup (s : GameState) : GameState :=
  { s with players := s.players.map fun p => p.feed s.now s.fullHistory }

/-- `GameState::send_to`. -/
def sendTo (s : GameState) (pid : UInt8) (packet : Packet) : GameState :=
  { s with players := s.players.modifyPid pid fun p => p.receive s.now packet }

/-- `send_to` with the result of a fallible builder. -/
def sendTo? (s : GameState) (pid : UInt8) (packet : Option Packet) : GameState :=
  match packet with
  | some b => s.sendTo pid b
  | none => s

/-- `GameState::kick_player`. -/
def kickPlayer (s : GameState) (pid : UInt8) (reason : LeftReason) (leftCode : Nat) : GameState :=
  { s with players := s.players.modifyPid pid fun p => p.leave reason leftCode }

-- ====================================================================== chat

/-- `&message[..n]` when the message is longer than `n`: a cut inside a
character panics. -/
def clip (s : GameState) (n : Nat) (message : Text) : GameState × Text :=
  if n < message.length then
    ({ s with panicked := s.panicked || !isCharBoundary message n }, message.take n)
  else (s, message)

/-- Push a message to the relay, if there is one. -/
def relayPush (s : GameState) (m : RelayMsg) : GameState :=
  { s with relay := s.relay.map fun l => l ++ [m] }

/-- Add to the replay, while there is one. -/
def record (s : GameState) (f : ReplayBody → ReplayBody) : GameState :=
  { s with replay := s.replay.map f }

/-- Hand a command to the store, if there is one. -/
def storePush (s : GameState) (c : StoreCmd) : GameState :=
  { s with store := s.store.map fun l => l ++ [c] }

/-- `GameState::send_chat_all`. -/
def sendChatAll (s : GameState) (message : Text) : GameState :=
  let src := s.hostPid
  let pids := (s.players.filter fun p => !p.virtualHost && p.left.isNone).map Player.pid
  if src = 255 then s
  else if pids = [] then s
  else
    let s := s.relayPush (.chat s.cfg.virtualHostName message)
    if s.phase.beforeStart then
      let (s, msg) := s.clip 254 message
      s.broadcast? (Outgoing.chatFromHost src pids 0x10 [] msg)
    else
      let (s, msg) := s.clip 127 message
      let s := s.record fun r => r.addChat src 0x20 0 msg
      s.broadcast? (Outgoing.chatFromHost src pids 0x20 [0, 0, 0, 0] msg)

/-- `GameState::send_chat_to`. -/
def sendChatTo (s : GameState) (pid : UInt8) (message : Text) : GameState :=
  let src := s.hostPid
  if src = 255 then s
  else if s.phase.beforeStart then
    let (s, msg) := s.clip 254 message
    s.sendTo? pid (Outgoing.chatFromHost src [pid] 0x10 [] msg)
  else
    let (s, msg) := s.clip 127 message
    let colour := match s.slots.sidOfPid pid with
      | some sid => (s.slots[sid.toNat]?.map SlotInfo.colour).getD 0
      | none => 0
    s.sendTo? pid (Outgoing.chatFromHost src [pid] 0x20 [3 + colour, 0, 0, 0] msg)

/-- `GameState::send_all_slot_info`. -/
def sendAllSlotInfo (s : GameState) : GameState :=
  s.broadcast?
    (Packet.slotInfo s.slots s.randomSeed s.cfg.map.layoutStyle s.cfg.map.numPlayers).build

-- ============================================================== virtual host

/-- `GameState::create_virtual_host`. -/
def createVirtualHost (s : GameState) : GameState :=
  if s.virtualHostPid ≠ 255 then s
  else match s.players.nextFreePid with
    | none => s
    | some pid =>
        let p : Player :=
          { pid := pid, name := s.cfg.virtualHostName, connId := 2 ^ 64 - 1
            link := PlayerLink.dropped, virtualHost := true, loaded := true }
        let s := { s with virtualHostPid := pid }
        let s := s.broadcast?
          (Packet.playerInfo pid s.cfg.virtualHostName Ip.zero Ip.zero).build
        { s with players := s.players ++ [p] }

/-- `GameState::delete_virtual_host`. -/
def deleteVirtualHost (s : GameState) : GameState :=
  if s.virtualHostPid = 255 then s
  else
    let pid := s.virtualHostPid
    let s := { s with virtualHostPid := 255, players := s.players.removePid pid }
    s.broadcast (.playerLeaveOthers pid leaveLobby)

end GameState

end Spectre

/-
The game actor (`actor.rs`, `handle.rs`, and `on_tick` of
`actions.rs`): what a command, a frame and a tick do, and the loop that
runs them.

# One iteration

An iteration of the loop takes a command or a tick, handles it to the
end and then reaps the players it left marked. Nothing else touches the
state, so a run of the game is a fold over a list of events. Time
passes between iterations (`Event.elapse`) and stands still in one.

A tick's `skipped` count is whatever the scheduler reports. Publishing
to the live stream reads the state and writes none of it, and is left
out.
-/
import Spectre.Turn
import Spectre.Chat

namespace Spectre

/-- `AnyFrame`. -/
inductive AnyFrame where
  | w3gs (id : UInt8) (payload : List UInt8)
  | gps (id : UInt8) (payload : List UInt8)
  | iccupGps (id : UInt8) (payload : List UInt8)
  | dotaTv

/-- `GameCmd`. -/
inductive GameCmd where
  | toggleFakePlayer
  | attachDotaTv
  | newConn (connId : Nat) (link : PlayerLink) (externalIp : Ip)
  | adoptReconnect (connId : Nat) (req : ReconnectReq) (link : PlayerLink)
  | frame (connId : Nat) (f : AnyFrame)
  | closed (connId : Nat) (reason : Text)
  | start
  | chat (msg : Text)
  | unhost
  | shutdown
  | createVirtualHost

/-- What the actor loop waits for. -/
inductive Event where
  | elapse (ms : Nat)
  | cmd (env : Env) (c : GameCmd)
  | tick (skipped : Nat)

/-- The capacity of a player's GProxy buffer. -/
def gproxyCapacity : Nat := 500

namespace Player

/-- A client announces itself as a gproxy client. -/
def enableGproxy (p : Player) : Player :=
  { p with
    gproxy := true
    gproxyBuffer := p.gproxyBuffer.or (some (GProxyBuffer.new gproxyCapacity (by decide))) }

/-- The loading timeout drops a player that has not loaded. -/
def loadingTimeout (p : Player) : Player :=
  if !p.loaded && p.left.isNone && !p.virtualHost then p.leave .loadingTimedOut leaveDisconnect
  else p

/-- The game-over timer drops everyone. -/
def gameOverTimeout (p : Player) : Player :=
  if p.left.isNone && !p.virtualHost then p.leave .gameOver leaveDisconnect else p

/-- A held player that may still come back. -/
def reconnectable (p : Player) (now wait : Nat) : Bool :=
  !p.virtualHost && p.gproxy &&
    (match p.disconnectedSince with
      | some t => decide (now - t < wait)
      | none => false)

end Player

namespace GameState

-- ==================================================================== frames

/-- `GameState::on_w3gs_frame`. -/
def onW3gsFrame [RustStd] (s : GameState) (env : Env) (connId : Nat) (id : UInt8)
    (payload : List UInt8) : GameState :=
  if id = 0x1E then s.handleReqJoin env.reconnectKey connId payload
  else if id = 0x21 then
    s.handleLeave connId (match decodeLeaveGame payload with
      | .ok code => code
      | .error _ => 0)
  else if id = 0x26 then s.handleAction connId payload
  else if id = 0x27 then s.handleKeepalive connId payload
  else if id = 0x28 then s.handleChatToHost env connId payload
  else if id = 0x23 then s.handleLoaded connId
  else if id = 0x46 then s.handlePong connId payload
  else if id = 0x42 then s.handleMapSize connId payload
  else if id = 0x44 then s.handleMapPartOk connId payload
  else if id = 0x45 then s.handleMapPartNotOk connId payload
  else if id = 0x29 then s.handleDropRequest
  else s

/-- A GPS RECONNECT frame, on a connection that has not joined. -/
def onReconnectFrame (s : GameState) (connId : Nat) (payload : List UInt8) : GameState :=
  match decodeReconnect payload, s.pending.find? fun e => e.connId == connId with
  | .ok req, some e =>
      ((s.unpend connId).handleGpsReconnect connId req e.link).1
  | _, _ => s

/-- `GameState::on_gps_frame`. -/
def onGpsFrame (s : GameState) (connId : Nat) (id : UInt8) (payload : List UInt8) : GameState :=
  if id = 0x01 then
    let greet := fun p : Player => p.enableGproxy.sendDirect
      (.gpsInit s.reconnectPort p.pid p.reconnectKey s.gproxyEmptyActions)
    { s with players := s.players.modifyConn connId greet }
  else if id = 0x03 then
    { s with players := s.players.modifyConn connId Player.enableGproxy }
  else if id = 0x02 then s.onReconnectFrame connId payload
  else if id = 0x05 then
    match decodeFull payload with
    | .ok token =>
        { s with pendingFull := (s.pendingFull.filter fun e => e.1 != connId) ++ [(connId, token)] }
    | .error _ => s
  else s

/-- `GameState::on_iccup_gps_frame`. -/
def onIccupGpsFrame (s : GameState) (connId : Nat) (id : UInt8) (payload : List UInt8) :
    GameState :=
  if id = 0x08 then
    let greet := fun p : Player =>
      let p := p.enableGproxy.sendDirect
        (.iccupInit s.reconnectPort p.pid p.reconnectKey s.gproxyEmptyActions)
      match (Packet.rejoinToken p.pid p.reconnectKey s.reconnectPort s.cfg.map.crc
          s.cfg.map.sha1 s.cfg.name s.cfg.map.path).build with
      | some token => p.sendDirect token
      | none => p
    { s with players := s.players.modifyConn connId greet }
  else if id = 0x32 then
    { s with players := s.players.modifyConn connId Player.enableGproxy }
  else if id = 0x16 then s.onReconnectFrame connId payload
  else s

/-- `GameState::on_frame`. -/
def onFrame [RustStd] (s : GameState) (env : Env) (connId : Nat) : AnyFrame → GameState
  | .w3gs id payload => s.onW3gsFrame env connId id payload
  | .gps id payload => s.onGpsFrame connId id payload
  | .iccupGps id payload => s.onIccupGpsFrame connId id payload
  | .dotaTv => s

/-- `GameState::handle_cmd`. -/
def handleCmd [RustStd] (s : GameState) (env : Env) : GameCmd → GameState
  | .newConn connId link externalIp => s.addConn connId link externalIp
  | .adoptReconnect connId req link => (s.handleGpsReconnect connId req link).1
  | .frame connId f => s.onFrame env connId f
  | .closed connId reason => s.handleConnClosed connId reason
  | .start => s.startCountdown
  | .chat msg => s.sendChatAll msg
  | .unhost => if s.phase = .lobby then s.finish else s
  | .attachDotaTv => s
  | .toggleFakePlayer => (s.toggleFakePlayer env.fakeLink).1
  | .shutdown => s.finish
  | .createVirtualHost => s.createVirtualHost

-- ===================================================================== ticks

/-- The ping of a tick before the game runs, every five seconds. -/
def tickPing (s : GameState) : GameState :=
  if (s.phase.beforeStart ∨ s.phase = .loading) ∧ secs 5 ≤ s.now - s.lastPingAt then
    let s := s.broadcast (.pingFromHost ((s.now - s.createdAt) % 2 ^ 32))
    { s with lastPingAt := s.now }
  else s

/-- The repeated announcement of the lobby. -/
def tickAnnounce (s : GameState) : GameState :=
  match s.announceMessage with
  | some msg =>
      if 0 < s.announceInterval
          ∧ (s.lastAnnounceTime.map fun t => decide (s.announceInterval ≤ s.now - t)).getD true then
        let s := s.sendChatAll msg
        { s with lastAnnounceTime := some s.now }
      else s
  | none => s

/-- `GamePhase::Lobby` of `on_tick`. -/
def tickLobby (s : GameState) : GameState :=
  let s := s.tickAnnounce
  if s.autostartPlayers.getD 0 = 0 ∧ 0 < s.cfg.lobbyTimeLimit then
    let s := if s.players.any fun p => !p.virtualHost && p.reserved && p.left.isNone then
        { s with lastReservedSeen := s.now }
      else s
    if secs (s.cfg.lobbyTimeLimit * 60) ≤ s.now - s.lastReservedSeen then s.setPhase .over else s
  else s

/-- `GamePhase::Countdown` of `on_tick`. -/
def tickCountdown [RustStd] (s : GameState) (startedAt totalDuration lastStep : Nat) : GameState :=
  let elapsed := s.now - startedAt
  if totalDuration ≤ elapsed then s.beginLoading
  else
    let step := countdownSteps - elapsed / countdownStep % 256
    if step < lastStep ∧ 1 ≤ step ∧ step ≤ countdownSteps then
      (s.setPhase (.countdown startedAt totalDuration step)).sendChatAll
        (decimal step ++ txt ". . .")
    else s

/-- `GamePhase::Loading` of `on_tick`. -/
def tickLoading [RustStd] (s : GameState) : GameState :=
  match s.startedLoadingAt with
  | some t =>
      if secs 60 ≤ s.now - t then
        { s with players := s.players.map Player.loadingTimeout }.reapLeftPlayers
      else s
  | none => s

/-- The players still in the game. -/
def realPlayers (s : GameState) : Nat := s.players.countP fun p => !p.virtualHost && p.left.isNone

/-- A running game's tick up to the lag check: the state, and whether
the lag screen is up. -/
def tickLag [RustStd] (s : GameState) : GameState × Bool :=
  let s := s.pumpRejoinCatchup
  let s := match s.fakePlayerPid with
    | some fpid =>
        { s with players :=
            s.players.modifyPid fpid fun p => { p with syncCounter := s.syncCounter } }
    | none => s
  s.checkDesync.checkLag

/-- The game-over timers of a running game's tick. -/
def tickGameOver (s : GameState) : GameState :=
  let s := if s.realPlayers = 1 ∧ 1 < s.startPlayers ∧ s.gameOverTime.isNone then
      { s with gameOverTime := some s.now }
    else s
  match s.gameOverTime with
  | some t =>
      if secs 60 ≤ s.now - t then { s with players := s.players.map Player.gameOverTimeout } else s
  | none => s

/-- `GameState::save_game_data`. -/
def saveGameData [RustStd] (s : GameState) : GameState :=
  let names := (s.players.filter fun p => !p.virtualHost).map Player.name
  let s := s.storePush (.logGame s.cfg.name s.cfg.map.path names)
  match s.dota with
  | some d => s.storePush (.logDotaGame s.cfg.name d.winner d.durationSecs d.treeHp d.throneHp
      ((RustStd.hashOrder d.players).map Prod.snd))
  | none => s

/-- The end of `on_tick`: a started game with nobody in it is over. -/
def tickEnd [RustStd] (s : GameState) : GameState :=
  if s.realPlayers = 0 ∧ !(s.players.any fun p => p.reconnectable s.now s.cfg.reconnectWait)
      ∧ (s.phase = .playing ∨ s.phase = .loading) then
    ((s.setPhase .over).relayPush .gameOver).finish.saveGameData
  else s

/-- The head of `on_tick`, common to all phases. -/
def tickHead (s : GameState) : GameState :=
  (s.pumpDownloads.reapGproxyTimeouts s.cfg.reconnectWait).tickPing

/-- `GamePhase::Playing` of `on_tick`: while the lag screen is up no
turn is sent, and the tick ends there. -/
def tickPlaying [RustStd] (s : GameState) (skipped : Nat) : GameState :=
  match s.tickLag with
  | (s, true) => s.dropLaggingPlayers (secs 60)
  | (s, false) => (s.sendAllActions skipped).tickGameOver.tickEnd

/-- `GameState::on_tick`. -/
def onTick [RustStd] (s : GameState) (skipped : Nat) : GameState :=
  let s := s.tickHead
  match s.phase with
  | .lobby => s.tickLobby.tickEnd
  | .countdown startedAt totalDuration lastStep =>
      (s.tickCountdown startedAt totalDuration lastStep).tickEnd
  | .loading => s.tickLoading.tickEnd
  | .playing => s.tickPlaying skipped
  | .over => s.finish.tickEnd

-- ================================================================== the loop

/-- The lobby status the loop reports when it has changed. -/
def reportLobby (s : GameState) : GameState :=
  let status := (s.slots.countOpen, s.slots.length, s.players.humanCount)
  if s.phase = .lobby ∧ s.lastLobbyStatus ≠ some status then
    { s with lastLobbyStatus := some status }.emitLobbyStatus
  else s

/-- The handling of one event, before the reaping. -/
def handle [RustStd] (s : GameState) : Event → GameState
  | .elapse ms => { s with now := s.now + ms }
  | .cmd env c => s.handleCmd env c
  | .tick skipped => s.onTick skipped

/-- One iteration of the actor loop; a finished game takes none. A
shutdown leaves the loop without reaping. -/
def step [RustStd] (s : GameState) (ev : Event) : GameState :=
  if s.finished then s
  else match ev with
    | .elapse _ | .cmd _ .shutdown => s.handle ev
    | _ => (s.handle ev).reapLeftPlayers.reportLobby

/-- A run of the actor loop. -/
def run [RustStd] (s : GameState) (evs : List Event) : GameState := evs.foldl step s

end GameState

end Spectre

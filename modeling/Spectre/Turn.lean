/-
The turns of a running game (`actions.rs`, `lagcheck.rs`): queued
actions, keepalives, the desync check, the lag screen, and the action
packets a tick broadcasts.
-/
import Spectre.Start

namespace Spectre

/-- `MAX_ACTION_PAYLOAD`. -/
def maxActionPayload : Nat := 1452

namespace Player

-- =============================================================== keepalives

/-- What a keepalive does to the player it came from. -/
def keepalive (p : Player) (gameSync checksum : Nat) : Player :=
  let turn := min (p.syncCounter + 1) (2 ^ 32 - 1)
  let p := { p with syncCounter := turn, reports := p.reports ++ [checksum] }
  if p.catchingUp then
    -- checksums of replayed turns are not kept; level with the game, it rejoins the check
    if gameSync ≤ turn then { p with catchingUp := false } else p
  else
    let kept := if 512 ≤ p.checksums.length then p.checksums.tail else p.checksums
    { p with checksums := kept ++ [⟨turn, checksum⟩] }

/-- The players whose checksums are compared. -/
def inDesyncCheck (p : Player) : Bool :=
  p.left.isNone && !p.virtualHost && p.loaded && !p.catchingUp

/-- Drop the oldest queued checksum. -/
def popChecksum (p : Player) : Player := { p with checksums := p.checksums.tail }

-- ================================================================= lag flags

/-- The players the lag check looks at. -/
def inLagCheck (p : Player) : Bool :=
  !p.virtualHost && p.left.isNone && p.rejoin == .none && p.catchupCursor.isNone && !p.catchingUp

/-- A lagging player that has caught up. -/
def recovers (p : Player) (gameSync limit : Nat) : Bool :=
  p.inLagCheck && p.lagging && decide (gameSync - p.syncCounter < limit / 2)

/-- A player that has fallen behind. -/
def startsLagging (p : Player) (gameSync limit : Nat) : Bool :=
  p.inLagCheck && !p.lagging && decide (limit < gameSync - p.syncCounter)

/-- The lag flag after the check. -/
def lagStep (p : Player) (now gameSync limit : Nat) : Player :=
  if p.recovers gameSync limit then { p with lagging := false, startedLagging := none }
  else if p.startsLagging gameSync limit then
    { p with lagging := true, startedLagging := some now }
  else p

/-- How long a player has been lagging, in ms. -/
def lagMs (p : Player) (now : Nat) : Nat :=
  match p.startedLagging with
  | some t => (now - t) % 2 ^ 32
  | none => 0

/-- The players `drop_lagging_players` drops. -/
def lagsTooLong (p : Player) (now maxLag : Nat) : Bool :=
  !p.virtualHost && p.lagging && p.left.isNone && p.disconnectedSince.isNone
    && p.rejoin == .none && p.catchupCursor.isNone && !p.catchingUp
    && (match p.startedLagging with
      | some t => decide (maxLag ≤ now - t)
      | none => false)

end Player

namespace GameState

-- =================================================================== actions

/-- `GameState::handle_action`. -/
def handleAction (s : GameState) (connId : Nat) (payload : List UInt8) : GameState :=
  match s.players.byConn connId with
  | none => s
  | some p =>
      if s.phase ≠ .loading ∧ s.phase ≠ .playing then s.kickPlayer p.pid .invalidAction leaveLost
      else match decodeOutgoingAction payload with
        | .error _ => s
        | .ok data =>
            if 1027 < data.length + 3 then s.kickPlayer p.pid .invalidAction leaveLost
            else { s with actions := s.actions ++ [⟨p.pid, data⟩] }

-- ==================================================================== desync

/-- The oldest turn any of the compared players has a checksum for. -/
def minTurn (active : List Player) : Option Nat :=
  (active.filterMap fun p => p.checksums.head?.map ChecksumEntry.turn).min?

/-- The head entry of a player's queue, by pid. -/
def headChecksum (s : GameState) (pid : UInt8) : Option ChecksumEntry :=
  (s.players.byPid pid).bind fun p => p.checksums.head?

/-- The compared players that have the target turn at their head. -/
def participants (s : GameState) (activePids : List UInt8) (target : Nat) : List UInt8 :=
  activePids.filter fun pid => (s.headChecksum pid).map ChecksumEntry.turn == some target

/-- The checksum a participant reports. -/
def reported (s : GameState) (pid : UInt8) : Nat := ((s.headChecksum pid).map
  ChecksumEntry.checksum).getD 0

/-- Whether the participants report more than one checksum. -/
def differ (s : GameState) : List UInt8 → Bool
  | [] => false
  | first :: rest => rest.any fun pid => s.reported pid != s.reported first

/-- `bins`: the participants by the checksum they report. -/
def bins (s : GameState) (participants : List UInt8) : List (Nat × List UInt8) :=
  participants.foldl (fun bins pid =>
    let cs := s.reported pid
    if bins.any fun b => b.1 == cs then
      bins.map fun b => if b.1 = cs then (b.1, b.2 ++ [pid]) else b
    else bins ++ [(cs, [pid])]) []

/-- The largest bin in iteration order: its size, its checksum, and
whether a later bin ties it. -/
def largestBin (bins : List (Nat × List UInt8)) : Nat × Nat × Bool :=
  bins.foldl (fun acc b =>
    if acc.1 < b.2.length then (b.2.length, b.1, false)
    else if b.2.length = acc.1 then (acc.1, acc.2.1, true)
    else acc) (0, 0, false)

/-- Drop the head entry of each of these players. -/
def popChecksums (s : GameState) (pids : List UInt8) : GameState :=
  pids.foldl (fun s pid =>
    { s with players := s.players.modifyPid pid Player.popChecksum }) s

/-- Kick each of these players for desync. -/
def kickDesynced (s : GameState) (pids : List UInt8) : GameState :=
  pids.foldl (fun s pid => s.kickPlayer pid .desync leaveLost) s

/-- One iteration of the loop of `check_desync`: the state after it,
and whether the loop goes on. -/
def checkDesyncOnce [RustStd] (s : GameState) : GameState × Bool :=
  let active := s.players.filter Player.inDesyncCheck
  let activePids := active.map Player.pid
  match minTurn active with
  | none =>
      if active.length ≤ 1 then
        ({ s with players := s.players.map fun p =>
            if p.inDesyncCheck then { p with checksums := [] } else p }, false)
      else (s, false)
  | some target =>
      if active.length < 2 then
        ({ s with players := s.players.map fun p =>
            if p.inDesyncCheck then { p with checksums := [] } else p }, false)
      -- someone's keepalive for the target turn is still on its way
      else if activePids.any fun pid =>
          match s.players.byPid pid with
          | some p => decide (p.syncCounter < target)
          | none => false
      then (s, false)
      else
        let parts := s.participants activePids target
        if parts.length < 2 ∨ !s.differ parts then (s.popChecksums parts, true)
        else
          let bins := RustStd.hashOrder (s.bins parts)
          let (_, largestCs, tied) := largestBin bins
          let s := s.sendChatAll (txt "Desync detected!")
          let s := if tied then s.kickDesynced parts
            else s.kickDesynced
              ((bins.filter fun b => b.1 != largestCs).flatMap Prod.snd)
          (s.popChecksums parts, false)

/-- The loop of `check_desync`, for at most `fuel` iterations; `none`
when it has not ended by then. -/
def checkDesyncLoop [RustStd] : Nat → GameState → Option GameState
  | 0, _ => none
  | fuel + 1, s =>
      match s.checkDesyncOnce with
      | (s, true) => checkDesyncLoop fuel s
      | (s, false) => some s

/-- The number of queued checksums. -/
def queuedChecksums (s : GameState) : Nat := (s.players.map fun p => p.checksums.length).sum

/-- `GameState::check_desync`. Each iteration that goes on drops a
queued checksum, so one iteration more than there are is enough; the
state is returned as it was should the loop not have ended by then. -/
def checkDesync [RustStd] (s : GameState) : GameState :=
  (checkDesyncLoop (s.queuedChecksums + 1) s).getD s

/-- `GameState::handle_keepalive`. -/
def handleKeepalive [RustStd] (s : GameState) (connId : Nat) (payload : List UInt8) : GameState :=
  if s.phase ≠ .playing then s
  else match decodeKeepalive payload with
    | .error _ => s
    | .ok checksum =>
        let s := { s with
          players := s.players.modifyConn connId fun p => p.keepalive s.syncCounter checksum }
        s.checkDesync

-- ================================================================ lag screen

/-- Take players off the lag screen, one packet each. -/
def stopLags (s : GameState) (l : List (UInt8 × Nat)) : GameState :=
  l.foldl (fun s e => s.broadcast (.stopLag e.1 e.2)) s

/-- The players on the screen, with their lag times. -/
def laggers (s : GameState) : List (UInt8 × Nat) :=
  (s.players.filter fun p => p.lagging && p.left.isNone && !p.virtualHost).map
    fun p => (p.pid, p.lagMs s.now)

/-- The screen reset of `check_lag`: stop and restart the screen of
everyone on it, with an empty turn in between. -/
def resetLagScreen (s : GameState) : GameState :=
  let laggers := s.laggers
  if laggers = [] then s
  else
    let s := (s.stopLags laggers).broadcast? (Outgoing.incomingAction [] 0)
    let s := s.broadcast? (Packet.startLag laggers).build
    { s with lastLagScreenReset := s.now }

/-- The players the check finds caught up, with their lag times. -/
def recovered (s : GameState) : List (UInt8 × Nat) :=
  (s.players.filter fun p => p.recovers s.syncCounter s.cfg.syncLimit).map
    fun p => (p.pid, p.lagMs s.now)

/-- The players the check finds behind. -/
def newlyLagging (s : GameState) : List (UInt8 × Nat) :=
  (s.players.filter fun p => p.startsLagging s.syncCounter s.cfg.syncLimit).map fun p => (p.pid, 0)

/-- Set and clear the lag flags. -/
def lagFlags (s : GameState) : GameState :=
  { s with players := s.players.map fun p => p.lagStep s.now s.syncCounter s.cfg.syncLimit }

/-- Put players on the lag screen, opening it if it was not up. -/
def startLags (s : GameState) (newly : List (UInt8 × Nat)) : GameState :=
  if newly = [] then s
  else if s.lagging then s.broadcast? (Packet.startLag newly).build
  else { s.broadcast? (Packet.startLag newly).build with lastLagScreenReset := s.now }

/-- `self.lagging`, from the flags. -/
def flagLagging (s : GameState) : GameState :=
  { s with lagging := s.players.any fun p => !p.virtualHost && p.lagging }

/-- `check_lag` up to the screen reset. -/
def updateLagScreen (s : GameState) : GameState :=
  ((s.lagFlags.stopLags s.recovered).startLags s.newlyLagging).flagLagging

/-- `GameState::check_lag`: the state, and whether the lag screen is
up. -/
def checkLag (s : GameState) : GameState × Bool :=
  let s := s.updateLagScreen
  let s := if s.lagging ∧ secs 60 ≤ s.now - s.lastLagScreenReset then s.resetLagScreen else s
  (s, s.lagging)

/-- `GameState::drop_lagging_players`. -/
def dropLaggingPlayers (s : GameState) (maxLag : Nat) : GameState :=
  let toDrop := (s.players.filter fun p => p.lagsTooLong s.now maxLag).map Player.pid
  toDrop.foldl (fun s pid => s.kickPlayer pid (.lagging (maxLag / 1000)) leaveDisconnect) s

-- ============================================================== action turns

/-- Relay, record and broadcast one action packet. -/
def sendActionPacket (s : GameState) (packet : Packet) (f : ReplayBody → ReplayBody) : GameState :=
  ((s.relayPush (.push packet)).record f).broadcast packet

/-- Send a full batch ahead of the turn's last packet. -/
def sendOverflow (s : GameState) (batch : List ActionBlock) : GameState :=
  match Outgoing.incomingAction2 batch with
  | some b => s.sendActionPacket b fun r => r.addTimeslot2 (encodeActionsRaw batch)
  | none => s

/-- The batching loop of `send_all_actions` over the queued actions:
the state, the batch left for the turn's last packet, and the winner if
the statistics have just reported one. -/
def batchActions : List ActionBlock → GameState → List ActionBlock → Nat → Option Text →
    GameState × List ActionBlock × Option Text
  | [], s, batch, _, winner => (s, batch, winner)
  | action :: rest, s, batch, batchLen, winner =>
      let (s, winner) := match s.dota with
        | some dota =>
            let (dota, ended) := dota.processAction action.data
            ({ s with dota := some dota },
              if ended ∧ s.gameOverTime.isNone ∧ winner.isNone then some dota.formatWinner
              else winner)
        | none => (s, winner)
      let len := action.wireLen
      if maxActionPayload < batchLen + len ∧ batch ≠ [] then
        batchActions rest (s.sendOverflow batch) [action] len winner
      else batchActions rest s (batch ++ [action]) (batchLen + len) winner

/-- A winner starts the game-over timer. -/
def declareWinner (s : GameState) : Option Text → GameState
  | some w =>
      let s := s.sendChatAll (txt "Game over detected! Winner: " ++ w
        ++ txt ". Game will close in 60s.")
      { s with gameOverTime := some s.now }
  | none => s

/-- The time a tick stands for, in ms: the period times the periods
that passed. -/
def tickElapsed (s : GameState) (skipped : Nat) : Nat :=
  min (s.tick.period % 2 ^ 32 * ((skipped + 1) % 2 ^ 32)) (2 ^ 32 - 1)

/-- `GameState::send_all_actions`. -/
def sendAllActions (s : GameState) (skipped : Nat) : GameState :=
  let elapsed := s.tickElapsed skipped
  let sendInterval := min elapsed 65535
  let queued := s.actions
  let s := { s with
    gameTicks := (s.gameTicks + elapsed) % 2 ^ 32
    syncCounter := (s.syncCounter + 1) % 2 ^ 32
    turns := s.turns ++ [elapsed]
    actions := [] }
  let (s, batch, winner) := batchActions queued s [] 0 none
  let s := s.declareWinner winner
  match Outgoing.incomingAction batch sendInterval with
  | some b => s.sendActionPacket b fun r => r.addTimeslot sendInterval (encodeActionsRaw batch)
  | none => s

end GameState

end Spectre

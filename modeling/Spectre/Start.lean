/-
How a game starts and how players leave it: `begin_loading`,
`begin_playing`, `handle_loaded`, `toggle_fake_player` (`actions.rs`)
and `reap_left_players` (`state.rs`).

The three ways into `beginPlaying` — the last load frame, the load
check at the end of the countdown, and the leaver whose absence makes
everyone loaded — all live here, because the reaper calls it.
-/
import Spectre.State

namespace Spectre

namespace Player

/-- What `begin_playing` resets in every player. -/
def beginPlaying (p : Player) : Player :=
  { p with loaded := true, syncCounter := 0, checksums := [], reports := [] }

/-- The time a player took to load, in ms. -/
def loadTime (p : Player) (started : Nat) : Nat :=
  match p.finishedLoadingAt with
  | some t => t - started
  | none => 0

end Player

/-- The first entry with the least (or, with `flip`, the greatest)
load time. -/
def bestLoad (better : Nat → Nat → Bool) (loads : List (Text × Nat)) : Option (Text × Nat) :=
  loads.foldl (fun acc l =>
    match acc with
    | none => some l
    | some a => if better l.2 a.2 then some l else some a) none

namespace GameState

-- ============================================================= begin_playing

/-- The load-time lines of `begin_playing`. -/
def announceLoadTimes [RustStd] (s : GameState) (started : Nat) : GameState :=
  let humans := s.players.filter fun p => !p.virtualHost
  let loads := humans.map fun p => (p.name, p.loadTime started)
  let personal := humans.map fun p => (p.pid, p.loadTime started)
  let s := match bestLoad (fun a b => a < b) loads, bestLoad (fun a b => b < a) loads with
    | some (sName, sTime), some (lName, lTime) =>
        let s := s.sendChatAll (txt "Shortest load by player [" ++ sName ++ txt "] was "
          ++ RustStd.seconds sTime ++ txt " seconds.")
        s.sendChatAll (txt "Longest load by player [" ++ lName ++ txt "] was "
          ++ RustStd.seconds lTime ++ txt " seconds.")
    | _, _ => s
  personal.foldl (fun s e => s.sendChatTo e.1 (txt "Your loading time was "
    ++ RustStd.seconds e.2 ++ txt " seconds.")) s

/-- The replay header data of `begin_playing`: host, players and the
start block. -/
def startReplay (s : GameState) : GameState :=
  let hostPid := s.hostPid
  let hostName :=
    if s.virtualHostPid ≠ 255 ∧ hostPid = s.virtualHostPid then s.cfg.virtualHostName
    else match s.players.byPid hostPid with
      | some p => p.name
      | none => s.cfg.virtualHostName
  let humans := s.players.filter fun p => !p.virtualHost
  s.record fun r =>
    let r := humans.foldl (fun r p => r.addPlayer p.pid p.name) (r.setHost hostPid hostName)
    r.setStart s.slots.asWireBytes s.randomSeed s.cfg.map.layoutStyle s.cfg.map.numPlayers

/-- The relay snapshot of `begin_playing`. -/
def startRelay (s : GameState) : GameState :=
  let m := s.cfg.map
  let start := RelayMsg.gameStart s.cfg.name m.path m.size m.info m.crc m.sha1
    (encodeStatstring (rawStatString s.cfg (0 :: m.sha1))) s.randomSeed m.layoutStyle m.numPlayers
    s.slots
  let humans := s.players.filter fun p => !p.virtualHost
  humans.foldl (fun s p =>
    match s.slots.find? fun slot => slot.pid == p.pid with
    | some slot => s.relayPush (.playerInfo p.pid p.name slot.colour slot.team slot.race)
    | none => s.relayPush (.playerInfo p.pid p.name 0 0 0x20)) (s.relayPush start)

/-- The start as the host has it. The clients have the slot table they
were sent last, which is another when somebody was reaped while the game
loaded. -/
def startState (s : GameState) : StartState where
  slots := s.slots
  randomSeed := s.randomSeed
  roster := (s.players.filter fun p => !p.virtualHost).map fun p => (p.pid, p.name)

/-- The head of `begin_playing`: the phase, and every player and
counter at turn 0. -/
def enterPlaying (s : GameState) : GameState :=
  { s.setPhase .playing with
    startedLoadingAt := none
    players := s.players.map Player.beginPlaying
    syncCounter := 0
    gameTicks := 0
    started := some s.startState }

/-- `GameState::begin_playing`. -/
def beginPlaying [RustStd] (s : GameState) : GameState :=
  let started := s.startedLoadingAt
  let s := s.enterPlaying
  let s := match started with
    | some t => s.announceLoadTimes t
    | none => s
  s.startReplay.startRelay

-- ========================================================= reap_left_players

/-- Everyone but the virtual host has loaded. -/
def humansLoaded (s : GameState) : Bool := s.players.all fun p => p.virtualHost || p.loaded

/-- The players to reap: marked left, the virtual host apart. -/
def gone (s : GameState) : List (UInt8 × Nat) :=
  (s.players.filter fun p => !p.virtualHost && p.left.isSome).map fun p => (p.pid, p.leftCode)

/-- One iteration of the reaping loop. -/
def reapPlayer (s : GameState) (pid : UInt8) (leftCode : Nat) : GameState :=
  let s := match s.players.byPid pid with
    | some p =>
        { s with
          lastPlayerLeft := some (p.name, p.externalIp.dotted)
          reaped := s.reaped ++ p.left.toList.map fun r => (pid, r) }
    | none => s
  let s := s.record fun r =>
    if s.phase = .loading then r.addLeaverLoading pid 1 leftCode else r.addLeaver pid 1 leftCode
  let s := { s with players := s.players.removePid pid, slots := (s.slots.release pid).1 }
  let s := s.broadcast (.playerLeaveOthers pid leftCode)
  if s.phase = .lobby then s.sendAllSlotInfo else s

/-- A leaver aborts a countdown. -/
def abortCountdown (s : GameState) : GameState :=
  match s.phase with
  | .countdown .. => (s.setPhase .lobby).sendChatAll (txt "Countdown aborted.")
  | _ => s

/-- `GameState::reap_left_players`. -/
def reapLeftPlayers [RustStd] (s : GameState) : GameState :=
  let gone := s.gone
  if gone = [] then s
  else
    let s := s.abortCountdown
    let s := { s with lastPlayerLeftTime := some s.now }
    let s : GameState := gone.foldl (fun s g => s.reapPlayer g.1 g.2) s
    if s.phase = .loading ∧ !s.players.isEmpty ∧ s.humansLoaded then s.beginPlaying else s

-- ============================================================= handle_loaded

/-- A rejoining client has loaded: it is told who else has, and the
catch-up is armed at the head of the history — unless that is gone, and
with it the replay from turn 0. -/
def finishRejoin (s : GameState) (pid : UInt8) : GameState :=
  let startSeq := s.fullHistory.firstSeq
  if 0 < startSeq then
    { s with players := s.players.modifyPid pid fun p =>
        { p with rejoin := .none, left := some .historyTooLong, leftCode := leaveDisconnect } }
  else
    let others := (s.players.filter fun q =>
      q.pid != pid && !q.virtualHost && q.left.isNone).map Player.pid
    let s := others.foldl (fun s opid => s.sendTo pid (.gameLoadedOthers opid)) s
    let s := { s with players := s.players.modifyPid pid fun p =>
      { p with
        loaded := true, rejoin := .none, catchupCursor := some startSeq, catchingUp := true } }
    s.broadcast (.gameLoadedOthers pid)

/-- A client has loaded: it is marked and announced. -/
def markLoaded (s : GameState) (pid : UInt8) : GameState :=
  let s := { s with players := s.players.modifyPid pid fun p =>
    { p with loaded := true, finishedLoadingAt := some s.now } }
  s.broadcast (.gameLoadedOthers pid)

/-- `GameState::handle_loaded`: a load frame either ends a rejoin
handshake or is an ordinary load, the last of which starts the game. -/
def handleLoaded [RustStd] (s : GameState) (connId : Nat) : GameState :=
  match s.players.byConn connId with
  | none => s
  | some q =>
      if (s.players.byPid q.pid).map Player.rejoin = some .awaitingLoaded then s.finishRejoin q.pid
      else
        let s := s.markLoaded q.pid
        if s.players.all Player.loaded then s.beginPlaying else s

-- ============================================================= begin_loading

/-- The HCL string goes into the slots. -/
def applyHcl (s : GameState) : GameState :=
  match s.hcl with
  | some hcl =>
      let (slots, ok) := Hcl.encodeHclIntoSlots hcl s.slots
      if ok then (s.setSlots slots).sendAllSlotInfo else s.setSlots slots
  | none => s

/-- The fake player has loaded as soon as loading starts. -/
def loadFakePlayer (s : GameState) : GameState :=
  match s.fakePlayerPid with
  | some fpid =>
      let s := { s with players := s.players.modifyPid fpid fun p => { p with loaded := true } }
      s.broadcast (.gameLoadedOthers fpid)
  | none => s

/-- `begin_loading` up to its check that everyone has loaded. -/
def enterLoading (s : GameState) : GameState :=
  let s := { s.setPhase .loading with
    startedLoadingAt := some s.now, startPlayers := s.players.humanCount }
  let s := s.applyHcl.broadcast .countdownStart
  let s := s.deleteVirtualHost.broadcast .countdownEnd
  s.loadFakePlayer

/-- `GameState::begin_loading`. -/
def beginLoading [RustStd] (s : GameState) : GameState :=
  let s := s.enterLoading
  if s.players.all Player.loaded then s.beginPlaying else s

-- ======================================================== toggle_fake_player

/-- `GameState::toggle_fake_player`, on the drained link the engine
makes for it. -/
def toggleFakePlayer (s : GameState) (link : PlayerLink) : GameState × Option Text :=
  if s.phase ≠ .lobby then (s, none)
  else match s.fakePlayerPid with
    | some fpid =>
        let s := { s with
          fakePlayerPid := none, players := s.players.removePid fpid
          slots := (s.slots.release fpid).1 }
        let s := s.broadcast (.playerLeaveOthers fpid leaveLobby)
        (s.sendAllSlotInfo, some (txt "Fake player removed."))
    | none =>
        match s.players.nextFreePid, s.slots.firstOpen with
        | some fpid, some slotIdx =>
            let p : Player :=
              { pid := fpid, name := txt "FakePlayer", connId := 0, link := link, loaded := true }
            let s := { s with
              players := s.players ++ [p], slots := (s.slots.occupySlot slotIdx fpid).1
              fakePlayerPid := some fpid }
            let s := s.broadcast? (Packet.playerInfo fpid (txt "FakePlayer") Ip.zero Ip.zero).build
            (s.sendAllSlotInfo, some (txt "Fake player added."))
        | _, _ => (s, none)

end GameState

end Spectre

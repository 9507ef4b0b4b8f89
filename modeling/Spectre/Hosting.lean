/-
The supervisor and the games it hosts (`supervisor.rs`, `handle.rs`, and
the loop of `actor.rs`).

The supervisor keeps a list of games, the ports they host on, and the
tables that bring a connection to its game. A game is an actor of its
own: the supervisor holds a handle to its command queue, learns of its
lobby through a queue of status reports, and finds out that it has ended
when the queue is closed.

# The schedule

A run is a list of events, one for each thing the supervisor, a game or
the world may do next. An event whose task would have to wait does
nothing, so every list is a run, and all runs together are all
schedules.

# What is left out

The listeners (a port that was bound once stays bound), the LAN and
DotaTV broadcasts, the commands of the administrators that host, start
or end no game, and the chat lines that answer the others: they read
these tables or nothing of them. `bnet` lists the commands to the
Battle.net client that concern games.

`unhosted` is kept besides: the games an administrator had taken down.
-/
import Mathlib.Data.List.AList
import Spectre.Books
import Spectre.Routing

namespace Spectre.Hosting

-- ================================================================== the tables

/-- `ActiveLobbyAdvert`, as far as a status report is about it. -/
structure LobbyAdvert where
  gameName : Text
  hostCounter : Nat
  slotsTotal : Nat
  slotsOpen : Nat
  port : Nat
deriving DecidableEq, Repr

/-- `ActiveGameInfo`. A handle is the number of the actor it leads to. -/
structure ActiveGame where
  name : Text
  port : Nat
  hostCounter : Nat
  handle : Nat
  advert : Option LobbyAdvert
  inLobby : Bool
deriving DecidableEq, Repr

/-- `BnetCmd`, as far as it concerns games. -/
inductive BnetCmd where
  | createGame (name : Text) (hostCounter : Nat) (isPublic : Bool) (port : Nat)
  | refreshGame (players slots : Nat)
  | unhostGame
deriving DecidableEq, Repr

/-- The configuration of the bot, as far as hosting reads it. -/
structure HostConfig where
  rootAdmins : List Text
  commandTrigger : Text
  hostPort : Nat
  portPoolStart : Option Nat
  portPoolEnd : Option Nat
  maxGames : Nat
  dotatvEnabled : Bool

/-- `port_pool_range`. -/
def HostConfig.portPoolRange (cfg : HostConfig) : Nat × Nat :=
  let start := cfg.portPoolStart.getD cfg.hostPort
  let last := cfg.portPoolEnd.getD start
  (min start last, max start last)

/-- A `HashMap` from ports or connections to handles. -/
abbrev Handles := AList fun _ : Nat => Nat

/-- `Supervisor`. -/
structure Supervisor where
  currentGame : Option Nat := none
  currentGameName : Option Text := none
  currentGameAdvert : Option LobbyAdvert := none
  games : List ActiveGame := []
  allocatedPorts : List Nat := []
  portToGame : Handles := ∅
  connToGame : Handles := ∅
  hostCounter : Nat := 1
  shutdownRequested : Bool := false
  running : Bool := true

/-- A game actor: its state, its command queue, and whether it has left
its loop, which closes the queue. -/
structure Actor where
  game : GameState
  inbox : List GameCmd := []
  exited : Bool := false

/-- The supervisor, the games, the status reports on the way from the
one to the other, each with its sender, and the commands issued to the
Battle.net client. -/
structure System where
  sup : Supervisor := {}
  actors : List Actor := []
  statuses : List (Nat × LobbyStatus) := []
  bnet : List BnetCmd := []
  unhosted : List Nat := []

/-- What a new game finds: the configuration that the map file and the
defaults make, the time, and its seed. -/
structure Spawn where
  base : GameConfig
  now : Nat
  seed : UInt32

/-- What may happen next. -/
inductive HostEvent where
  /-- a line of the Battle.net channel, or a whisper -/
  | chat (user text : Text) (sp : Spawn)
  /-- a game hosted at the start -/
  | hostOnStart (name owner : Text) (fakePlayer : Bool) (sp : Spawn)
  /-- the `--start-after` timer runs out -/
  | startAfter (handle : Nat)
  | cleanup
  | connection (connId : Nat) (link : PlayerLink) (externalIp : Ip) (localPort : Nat)
  /-- a reconnect task asks a game -/
  | askGame (handle connId : Nat) (req : ReconnectReq) (link : PlayerLink)
  | adopted (connId handle : Nat)
  | conn (ev : ConnEvent)
  | status
  | shutdown
  /-- an actor takes a command -/
  | act (handle : Nat) (env : Env)
  /-- an actor's clock -/
  | elapse (handle ms : Nat)
  | tick (handle skipped : Nat)
  | exit (handle : Nat)

namespace Supervisor

/-- `allocate_port`. -/
def allocatePort (s : Supervisor) (cfg : HostConfig) : Option (Nat × Supervisor) :=
  let (start, last) := cfg.portPoolRange
  match (List.range' start (last + 1 - start)).find? fun p => !s.allocatedPorts.contains p with
  | some p => some (p, { s with allocatedPorts := s.allocatedPorts ++ [p] })
  | none => none

/-- `release_port`. -/
def releasePort (s : Supervisor) (port : Nat) : Supervisor :=
  { s with allocatedPorts := s.allocatedPorts.filter fun p => p ≠ port }

/-- Where `handle_new_connection` sends a connection. -/
def targetGame (s : Supervisor) (localPort : Nat) : Option Nat :=
  (s.portToGame.lookup localPort).or s.currentGame

/-- The supervisor has a handle to the game. -/
def holds (s : Supervisor) (handle : Nat) : Bool :=
  (s.games.any fun g => g.handle == handle) || s.currentGame == some handle
    || (s.portToGame.entries.any fun e => e.2 == handle)
    || (s.connToGame.entries.any fun e => e.2 == handle)

end Supervisor

/-- A status report in an advert. -/
def LobbyAdvert.report (adv : LobbyAdvert) (e : LobbyStatus) : LobbyAdvert :=
  { adv with slotsOpen := e.slotsOpen, slotsTotal := e.slotsTotal }

/-- A status report in the list of games. -/
def ActiveGame.report (g : ActiveGame) (e : LobbyStatus) : ActiveGame :=
  { g with advert := g.advert.map fun adv => adv.report e }

/-- The queue of a game takes a command, or the command is dropped. -/
def Actor.send (a : Actor) (c : GameCmd) : Actor :=
  if !a.exited && decide (a.inbox.length < cmdCapacity) then
    { a with inbox := a.inbox ++ [c] } else a

/-- The capacity of the queue of status reports. -/
def statusCapacity : Nat := 64

-- =============================================================== the supervisor

/-- The commands of an administrator that host, start or end a game. -/
inductive HostCommand where
  | host (isPublic : Bool) (name : Text)
  | hostFor (isPublic : Bool) (owner name : Text)
  | unhost (name : Text)
  | start
  | exit
deriving DecidableEq, Repr

/-- The verbs of `handle_chat_command`. -/
def parseVerb [RustStd] (verb : Text) (args : List Text) : Option HostCommand :=
  let lower := RustStd.toLowercase verb
  if lower = txt "pub" ∨ lower = txt "priv" then
    let name := joinWith (txt " ") args
    if name = [] then none else some (.host (eqIgnoreAsciiCase verb (txt "pub")) name)
  else if lower = txt "unhost" then some (.unhost (joinWith (txt " ") args))
  else if lower = txt "start" then some .start
  else if lower = txt "exit" ∨ lower = txt "quit" then some .exit
  else if lower = txt "pubby" ∨ lower = txt "privby" then
    match args with
    | [] => none
    | owner :: rest =>
        let gname := joinWith (txt " ") rest
        if gname = [] then none
        else some (.hostFor (eqIgnoreAsciiCase verb (txt "pubby")) owner gname)
  else none

/-- The command in a line, if its author is an administrator. -/
def parseLine [RustStd] (cfg : HostConfig) (user text : Text) : Option HostCommand :=
  if cfg.rootAdmins.any fun a => eqIgnoreAsciiCase a user then
    if cfg.commandTrigger.isPrefixOf text then
      match splitWhitespace (text.drop cfg.commandTrigger.length) with
      | [] => none
      | verb :: args => parseVerb verb args
    else none
  else none

namespace System

/-- `GameHandle::send`. -/
def send (sys : System) (handle : Nat) (c : GameCmd) : System :=
  { sys with actors := sys.actors.modify handle fun a => a.send c }

/-- `GameHandle::is_closed`. -/
def isClosed (sys : System) (handle : Nat) : Bool :=
  (sys.actors[handle]?.map Actor.exited).getD true

/-- `create_game_with_creator`. -/
def createGame [RustStd] (sys : System) (cfg : HostConfig) (sp : Spawn) (name owner : Text)
    (isPublic : Bool) : System :=
  let hostCounter := sys.sup.hostCounter % 2 ^ 28
  let sup := { sys.sup with hostCounter := (sys.sup.hostCounter + 1) % 2 ^ 32 }
  match sup.allocatePort cfg with
  | none => { sys with sup := sup }
  | some (port, sup) =>
      let handle := sys.actors.length
      let config := { sp.base with
        name := name, owner := owner, hostCounter := hostCounter, hostPort :=
          port, eventTx := true }
      let advert : LobbyAdvert :=
        { gameName := name, hostCounter := hostCounter, slotsTotal := sp.base.map.numPlayers.toNat
          slotsOpen := sp.base.map.numPlayers.toNat, port := port }
      { sys with
        sup := { sup with
          portToGame := sup.portToGame.insert port handle
          currentGame := some handle, currentGameName := some name, currentGameAdvert := some advert
          games := sup.games ++ [{ name := name, port := port, hostCounter := hostCounter
                                   handle := handle, advert := some advert, inLobby := true }] }
        actors := sys.actors ++ [{ game := GameState.new config sp.now sp.seed
                                   inbox := .createVirtualHost ::
                                     if cfg.dotatvEnabled then [.attachDotaTv] else [] }]
        bnet := sys.bnet ++ [.createGame name hostCounter isPublic port] }

/-- A game taken off the list by an administrator. -/
def dropGame (sys : System) (g : ActiveGame) (games : List ActiveGame) : System :=
  let sys := sys.send g.handle .unhost
  { sys with
    sup := { sys.sup.releasePort g.port with
      games := games, portToGame := sys.sup.portToGame.erase g.port }
    bnet := sys.bnet ++ [.unhostGame], unhosted := sys.unhosted ++ [g.handle] }

/-- `unhost`, with and without a name. -/
def unhost (sys : System) (name : Text) : System :=
  if name ≠ [] then
    let named := fun g : ActiveGame => eqIgnoreAsciiCase g.name name
    match sys.sup.games.find? named with
    | some g => sys.dropGame g (sys.sup.games.eraseP named)
    | none => sys
  else match sys.sup.games.find? ActiveGame.inLobby with
    | some g => sys.dropGame g (sys.sup.games.eraseP ActiveGame.inLobby)
    | none =>
        match sys.sup.currentGame with
        | some handle =>
            let sys := sys.send handle .unhost
            { sys with
              sup := { sys.sup with
                currentGame := none, currentGameName := none, currentGameAdvert := none }
              bnet := sys.bnet ++ [.unhostGame], unhosted := sys.unhosted ++ [handle] }
        | none => sys

/-- `handle_chat_command`. -/
def handleChatCommand [RustStd] (sys : System) (cfg : HostConfig) (user text : Text) (sp : Spawn) :
    System :=
  match parseLine cfg user text with
  | some (.host isPublic name) =>
      if cfg.maxGames ≤ sys.sup.games.length then sys else sys.createGame cfg sp name user isPublic
  | some (.hostFor isPublic owner name) => sys.createGame cfg sp name owner isPublic
  | some (.unhost name) => sys.unhost name
  | some .start =>
      match sys.sup.currentGame with
      | some handle => sys.send handle .start
      | none => sys
  | some .exit => { sys with sup := { sys.sup with shutdownRequested := true } }
  | none => sys

/-- A game of `host_on_start`. -/
def hostOnStart [RustStd] (sys : System) (cfg : HostConfig) (name owner : Text) (fakePlayer : Bool)
    (sp : Spawn) : System :=
  let sys := sys.createGame cfg sp name owner true
  match sys.sup.currentGame with
  | some handle => if fakePlayer then sys.send handle .toggleFakePlayer else sys
  | none => sys

/-- `clean_finished_games`. -/
def cleanFinishedGames (sys : System) : System :=
  let freed := (sys.sup.games.filter fun g => sys.isClosed g.handle).map ActiveGame.port
  let games := sys.sup.games.filter fun g => !sys.isClosed g.handle
  let sup := { sys.sup with
    games := games
    allocatedPorts := sys.sup.allocatedPorts.filter fun p => !freed.contains p
    portToGame := freed.foldl (fun m p => m.erase p) sys.sup.portToGame
    connToGame := ((sys.sup.connToGame.keys.filter fun c =>
      ((sys.sup.connToGame.lookup c).map sys.isClosed).getD false).foldl (fun m c => m.erase c)
        sys.sup.connToGame) }
  match sup.currentGame with
  | some handle =>
      if sys.isClosed handle then
        { sys with
          sup := { sup with
            currentGame := games.getLast?.map ActiveGame.handle
            currentGameName := games.getLast?.map ActiveGame.name
            currentGameAdvert := games.getLast?.bind ActiveGame.advert }
          bnet := if games = [] then sys.bnet ++ [.unhostGame] else sys.bnet }
      else { sys with sup := sup }
  | none => { sys with sup := sup }

/-- `handle_new_connection`. -/
def handleNewConnection (sys : System) (connId : Nat) (link : PlayerLink) (externalIp : Ip)
    (localPort : Nat) : System :=
  match sys.sup.targetGame localPort with
  | some handle =>
      let sys := sys.send handle (.newConn connId link externalIp)
      { sys with sup := { sys.sup with connToGame := sys.sup.connToGame.insert connId handle } }
  | none => sys

/-- `handle_conn_event`. -/
def handleConnEvent (sys : System) (ev : ConnEvent) : System :=
  match sys.sup.connToGame.lookup ev.connId with
  | some handle => sys.send handle ev.cmd
  | none => sys

/-- The supervisor takes a status report. -/
def handleStatus (sys : System) : System :=
  match sys.statuses with
  | [] => sys
  | (_, e) :: rest =>
      { sys with
        sup := { sys.sup with
          games := Lib.updateFirst (fun g => g.hostCounter == e.hostCounter) (fun g => g.report e)
            sys.sup.games
          currentGameAdvert := sys.sup.currentGameAdvert.map fun adv =>
            if adv.hostCounter = e.hostCounter then adv.report e else adv }
        statuses := rest
        bnet := sys.bnet ++ [.refreshGame e.humanPlayers e.slotsOpen] }

/-- `shutdown`, and the end of the supervisor's loop. -/
def shutdown (sys : System) : System :=
  let sys := { sys with sup := { sys.sup with running := false } }
  (sys.sup.games.map ActiveGame.handle ++ sys.sup.currentGame.toList).foldl
    (fun sys handle => sys.send handle .shutdown) sys

-- ================================================================== the games

/-- An iteration of an actor's loop, and the reports it sends. -/
def iterate [RustStd] (sys : System) (handle : Nat) (a : Actor) (inbox : List GameCmd)
    (ev : Event) :
    System :=
  let game := a.game.step ev
  let reports := (game.events.drop a.game.events.length).map fun e => (handle, e)
  { sys with
    actors := sys.actors.set handle { a with game := game, inbox := inbox }
    statuses := sys.statuses ++ reports.take (statusCapacity - sys.statuses.length) }

/-- An actor takes a command off its queue. -/
def act [RustStd] (sys : System) (handle : Nat) (env : Env) : System :=
  match sys.actors[handle]? with
  | some a =>
      match a.inbox with
      | c :: inbox =>
          if a.exited ∨ a.game.finished then sys else sys.iterate handle a inbox (.cmd env c)
      | [] => sys
  | none => sys

/-- An actor's clock goes on, or its timer fires. -/
def clock [RustStd] (sys : System) (handle : Nat) (ev : Event) : System :=
  match sys.actors[handle]? with
  | some a => if a.exited ∨ a.game.finished then sys else sys.iterate handle a a.inbox ev
  | none => sys

/-- An actor whose game is finished, or that has nothing left to take
and nobody left to send it anything, leaves its loop. -/
def exit (sys : System) (handle : Nat) : System :=
  { sys with actors := sys.actors.modify handle fun a =>
      if a.game.finished ∨ (a.inbox.isEmpty ∧ !sys.sup.holds handle) then
        { a with inbox := [], exited := true }
      else a }

-- =================================================================== the system

/-- One iteration of the supervisor's loop. -/
def supervise [RustStd] (sys : System) (cfg : HostConfig) : HostEvent → System
  | .chat user text sp => sys.handleChatCommand cfg user text sp
  | .hostOnStart name owner fakePlayer sp => sys.hostOnStart cfg name owner fakePlayer sp
  | .cleanup => sys.cleanFinishedGames
  | .connection connId link externalIp localPort =>
      sys.handleNewConnection connId link externalIp localPort
  | .adopted connId handle =>
      { sys with sup := { sys.sup with connToGame := sys.sup.connToGame.insert connId handle } }
  | .conn ev => sys.handleConnEvent ev
  | .status => sys.handleStatus
  | _ => sys.shutdown

/-- What happens next. -/
def step [RustStd] (sys : System) (cfg : HostConfig) : HostEvent → System
  | .act handle env => sys.act handle env
  | .elapse handle ms => sys.clock handle (.elapse ms)
  | .tick handle skipped => sys.clock handle (.tick skipped)
  | .exit handle => sys.exit handle
  | .startAfter handle => sys.send handle .start
  | .askGame handle connId req link => sys.send handle (.adoptReconnect connId req link)
  | ev =>
      if !sys.sup.running then sys
      else if sys.sup.shutdownRequested then sys.shutdown
      else sys.supervise cfg ev

/-- A run of the system. -/
def run [RustStd] (sys : System) (cfg : HostConfig) (evs : List HostEvent) : System :=
  evs.foldl (fun sys ev => sys.step cfg ev) sys

end System

end Spectre.Hosting

/-
The Battle.net client, as far as it advertises games (`client.rs`,
`advert.rs`).

The client is a loop around sessions. A session logs in, stage by
stage, and advertises every game of its list, again and again, while it
is in chat. The list belongs to the session: the next one starts with
none. The commands of the supervisor come through a queue, which is
read in a session and in the wait before the next one; and the wait
ends with the first command, whatever it is.

# What is left out

What a session does with its chat, the friends and the clan, and what it
sends to log in: none of it reads or writes the list. Of a frame of the
server the model keeps which step of the login it answers and how.

`issued` is kept besides: the commands about games the supervisor has
given, each with the game it was meant for. `UnhostGame` does not say.
-/
import Spectre.Replay

namespace Spectre.Bnet

-- ==================================================================== commands

/-- `MapAdvert`, as far as an advert shows it. -/
structure MapAdvert where
  path : Text
  crc : UInt32
  sha1 : List UInt8
  width : Nat
  height : Nat
  gameType : UInt32
  flags : UInt32
deriving DecidableEq, Repr

/-- `GameVisibility`. -/
inductive GameVisibility where
  | publicGame
  | privateGame
  | closedGame
deriving DecidableEq, Repr

/-- `as_u8`. -/
def GameVisibility.asU8 : GameVisibility → UInt8
  | publicGame => 16
  | privateGame => 17
  | closedGame => 18

/-- The game of a `CreateGame`. -/
structure Game where
  name : Text
  map : MapAdvert
  hostCounter : Nat
  visibility : GameVisibility
  hostName : Option Text
  port : Option Nat
deriving DecidableEq, Repr

/-- `BnetCmd`; `social` stands for the commands of the chat, the friends
and the clan. -/
inductive BnetCmd where
  | createGame (g : Game)
  | refreshGame (players slots : Nat)
  | unhostGame
  | social
  | shutdown
deriving DecidableEq, Repr

/-- The command creates or unhosts. -/
def BnetCmd.hosts : BnetCmd → Bool
  | createGame _ | unhostGame => true
  | _ => false

/-- What the supervisor means by a command: a game is created, a game is
unhosted, or the last one has ended. -/
inductive Issue where
  | create (g : Game)
  | unhost (name : Text)
  | unhostAll
deriving DecidableEq, Repr

/-- The command it gives. -/
def Issue.cmd : Issue → BnetCmd
  | create g => .createGame g
  | unhost _ | unhostAll => .unhostGame

/-- The games after a command, were it done as it is meant. -/
def Issue.on (games : List Game) : Issue → List Game
  | create g => games.filter (fun h => h.name ≠ g.name) ++ [g]
  | unhost name => games.filter fun h => h.name ≠ name
  | unhostAll => []

/-- The games created and not unhosted, of each name the latest. -/
def hosted (issued : List Issue) : List Game := issued.foldl Issue.on []

-- ===================================================================== adverts

/-- `BnetConfig`, as far as an advert shows it. -/
structure BnetConfig where
  username : Text

/-- `ActiveAdvert`. -/
structure ActiveAdvert where
  name : Text
  map : MapAdvert
  hostCounter : Nat
  statString : List UInt8
  visibility : GameVisibility
  hostName : Text
  port : Option Nat
deriving DecidableEq, Repr

/-- `encode_bnet_statstring`. -/
def encodeBnetStatstring (map : MapAdvert) (hostName : Text) : List UInt8 :=
  encodeStatstring (u32le map.flags.toNat ++ [0] ++ u16le map.width ++ u16le map.height
    ++ u32le map.crc.toNat ++ map.path ++ [0] ++ hostName ++ [0, 0] ++ map.sha1)

/-- The advert of a game. -/
def ActiveAdvert.of (cfg : BnetConfig) (g : Game) : ActiveAdvert :=
  let hostUser := g.hostName.getD cfg.username
  { name := g.name, map := g.map, hostCounter := g.hostCounter
    statString := encodeBnetStatstring g.map hostUser, visibility := g.visibility
    hostName := hostUser, port := g.port }

/-- `advert_game_type`. -/
def advertGameType (map : MapAdvert) (visibility : GameVisibility) : List UInt8 :=
  let t := if visibility = .privateGame then map.gameType ||| 0x800 else map.gameType
  u32le t.toNat

/-- `Frame::encode_with` under the header byte of BNCS. -/
def encodeFrame (id : UInt8) (payload : List UInt8) : Option (List UInt8) :=
  let total := 4 + payload.length
  if 65535 < total then none else some (0xFF :: id :: u16le total ++ payload)

/-- A hexadecimal digit. -/
def hexDigit (n : Nat) : UInt8 := if n < 10 then (48 + n).toUInt8 else (87 + n).toUInt8

/-- `startadvex3`. The eight digits of the host counter stand in
reverse. -/
def startadvex3 (visibility : GameVisibility) (mapGameType : List UInt8) (gameName : Text)
    (upTime : Nat) (statString : List UInt8) (hostCounter : Nat) : Option (List UInt8) :=
  if 128 ≤ statString.length then none
  else
    encodeFrame 0x1C (visibility.asU8 :: [0, 0, 0] ++ u32le upTime ++ mapGameType
      ++ [255, 3, 0, 0] ++ [0, 0, 0, 0] ++ gameName ++ [0] ++ [0] ++ [98]
      ++ (List.range 8).map (fun i => hexDigit (hostCounter / 16 ^ i % 16)) ++ statString ++ [0])

/-- What a session sends about its games: NETGAMEPORT, STARTADVEX3 with
its frame, and STOPADV. -/
inductive Sent where
  | netGamePort (port : Nat)
  | startAdv (name : Text) (frame : List UInt8)
  | stopAdv
deriving DecidableEq, Repr

/-- The game an outgoing packet advertises. -/
def Sent.advertised? : Sent → Option Text
  | startAdv name _ => some name
  | _ => none

namespace ActiveAdvert

/-- The STARTADVEX3 of an advert, if it can be built. -/
def frame (a : ActiveAdvert) : Option (List UInt8) :=
  startadvex3 a.visibility (advertGameType a.map a.visibility) a.name 0 a.statString a.hostCounter

/-- An advert is announced: its port, and the game. -/
def announce (a : ActiveAdvert) : List Sent :=
  (a.port.map Sent.netGamePort).toList ++ (a.frame.map (Sent.startAdv a.name)).toList

end ActiveAdvert

-- ===================================================================== sessions

/-- `Stage`. -/
inductive Stage where
  | awaitAuthInfo
  | awaitAuthCheck
  | awaitAccountLogon
  | awaitAccountLogonProof
  | awaitEnterChat
  | inChat
deriving DecidableEq, Repr

/-- How a frame of the login comes out: the next packet goes out, the
login is over, or nothing can be made of it. -/
inductive Reply where
  | accepted
  | rejected
  | unusable
deriving DecidableEq, Repr

/-- A frame of the server. -/
inductive ServerFrame where
  | authInfo (r : Reply)
  | authCheck (r : Reply)
  | accountLogon (r : Reply)
  | logonProof (r : Reply)
  | enterChat
  | other
deriving DecidableEq, Repr

/-- The stage after a login frame; none where the session breaks off. -/
def Reply.next (r : Reply) (stage next : Stage) : Option Stage :=
  match r with
  | accepted => some next
  | rejected => none
  | unusable => some stage

/-- The stage after a frame. A frame of another stage changes nothing. -/
def Stage.onFrame : Stage → ServerFrame → Option Stage
  | awaitAuthInfo, .authInfo r => r.next .awaitAuthInfo .awaitAuthCheck
  | awaitAuthCheck, .authCheck r => r.next .awaitAuthCheck .awaitAccountLogon
  | awaitAccountLogon, .accountLogon r => r.next .awaitAccountLogon .awaitAccountLogonProof
  | awaitAccountLogonProof, .logonProof r => r.next .awaitAccountLogonProof .awaitEnterChat
  | awaitEnterChat, .enterChat => some .inChat
  | stage, _ => some stage

/-- A frame that brings the session into chat, or finds it there. -/
def Stage.enters : Stage → ServerFrame → Bool
  | awaitEnterChat, .enterChat => true
  | inChat, .enterChat => true
  | _, _ => false

/-- Where the client is in its loop. `asleep` is the wait after a
connection that took not even the first byte; no command is read in
it. -/
inductive Life where
  | connecting
  | asleep
  | waiting
  | session (stage : Stage) (activeAdverts : List ActiveAdvert)
  | ended
deriving DecidableEq, Repr

/-- The client, its queue, what it has sent about games, and the
commands about games it was given. -/
structure Client where
  cfg : BnetConfig
  life : Life := .connecting
  queue : List BnetCmd := []
  sent : List Sent := []
  issued : List Issue := []

/-- What may happen next. -/
inductive ClientEvent where
  /-- the supervisor gives a command about games -/
  | issue (i : Issue)
  /-- or another one -/
  | refresh (players slots : Nat)
  | social
  | shutdown
  /-- the connection is refused -/
  | refused
  /-- it breaks before the protocol byte is out, or before AUTH_INFO is -/
  | cutEarly
  | cutLate
  | connected
  | slept
  /-- the client reads its queue -/
  | take
  | advTick
  | frame (f : ServerFrame)
  /-- the connection closes, or what comes over it is no frame -/
  | closed
deriving DecidableEq, Repr

/-- The capacity of the queue. -/
def queueCapacity : Nat := 256

namespace Client

/-- `BnetHandle::send`: a full queue takes no more, and a client that has
ended takes none. -/
def send (c : Client) (cmd : BnetCmd) : Client :=
  if c.life = .ended ∨ queueCapacity ≤ c.queue.length then c
  else { c with queue := c.queue ++ [cmd] }

/-- A session handles a command. -/
def handle (c : Client) (stage : Stage) (adverts : List ActiveAdvert) : BnetCmd → Client
  | .createGame g =>
      let a := ActiveAdvert.of c.cfg g
      { c with
        sent := c.sent ++ if stage = .inChat then a.announce else []
        life := .session stage (adverts.filter (fun b => b.name ≠ a.name) ++ [a]) }
  | .refreshGame _ _ =>
      { c with
        sent := c.sent ++ if stage = .inChat then adverts.flatMap ActiveAdvert.announce else [] }
  | .unhostGame =>
      { c with
        sent := c.sent ++ if stage = .inChat then [.stopAdv] else []
        life := .session stage [] }
  | .social => c
  | .shutdown => { c with life := .ended }

/-- The client reads its queue: in a session the command is handled; in a
wait it ends the wait. -/
def take (c : Client) : Client :=
  match c.queue, c.life with
  | cmd :: queue, .session stage adverts => { c with queue := queue }.handle stage adverts cmd
  | cmd :: queue, .waiting =>
      { c with queue := queue, life := if cmd = .shutdown then .ended else .connecting }
  | _, _ => c

/-- `adv_timer` fires. -/
def onAdvTick (c : Client) : Client :=
  match c.life with
  | .session .inChat adverts =>
      { c with sent := c.sent ++ adverts.flatMap ActiveAdvert.announce }
  | _ => c

/-- A frame arrives. -/
def onFrame (c : Client) (f : ServerFrame) : Client :=
  match c.life with
  | .session stage adverts =>
      match stage.onFrame f with
      | none => { c with life := .waiting }
      | some next =>
          { c with
            life := .session next adverts
            sent := c.sent ++ if stage.enters f then adverts.flatMap ActiveAdvert.announce else [] }
  | _ => c

/-- What happens next. An event the client is not ready for does
nothing. -/
def step (c : Client) : ClientEvent → Client
  | .issue i => { c.send i.cmd with issued := c.issued ++ [i] }
  | .refresh players slots => c.send (.refreshGame players slots)
  | .social => c.send .social
  | .shutdown => c.send .shutdown
  | .refused => if c.life = .connecting then { c with life := .waiting } else c
  | .cutEarly => if c.life = .connecting then { c with life := .asleep } else c
  | .cutLate => c
  | .connected => if c.life = .connecting then { c with life := .session .awaitAuthInfo [] } else c
  | .slept => if c.life = .asleep ∨ c.life = .waiting then { c with life := .connecting } else c
  | .take => c.take
  | .advTick => c.onAdvTick
  | .frame f => c.onFrame f
  | .closed =>
      match c.life with
      | .session _ _ => { c with life := .waiting }
      | _ => c

/-- A run of the client. -/
def run (c : Client) (evs : List ClientEvent) : Client := evs.foldl step c

end Client

end Spectre.Bnet

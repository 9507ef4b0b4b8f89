/-
A small game to run the model on: a configuration, the frames a client
sends, and the events of a lobby of two players up to a running game.

The properties are about every run; where one fails, or where its
hypotheses are shown to be met, the run is built from these pieces.
Names and texts in them are ASCII and every time is a multiple of 10 ms,
so `asciiStd` computes what Rust's library does.
-/
import Spectre.Iteration

namespace Spectre.Scenario

/-- Rust's library on ASCII text and times in steps of 10 ms. -/
scoped instance asciiStd : RustStd where
  toLowercase t := t.map asciiLower
  allAlphanumeric t := t.all fun b =>
    (48 ≤ b && b ≤ 57) || (65 ≤ b && b ≤ 90) || (97 ≤ b && b ≤ 122)
  seconds ms :=
    decimal (ms / 1000) ++ txt "." ++ decimal (ms % 1000 / 100) ++ decimal (ms % 100 / 10)
  hashOrder l := l
  hashOrder_perm l := List.Perm.refl l

/-- A map that every client has. -/
def map : MapInfo :=
  { path := txt "Maps\\a.w3x", size := 10, info := 1, crc := 2, sha1 := List.replicate 20 0
    numPlayers := 3, width := 1, height := 1, gameType := 1, flags := 0, data := none
    layoutStyle := 0, options := 0, mapType := [], defaultHcl := [] }

/-- A game of three slots with a grace period of 180 s. -/
def config : GameConfig :=
  { name := txt "test", owner := txt "ann", hostCounter := 1, numSlots := 3, latency := 100
    syncLimit := 50, map := map, virtualHostName := txt "Spectre", reconnectWait := 180000
    customSlots := none, relay := false, store := false, eventTx := false, maxDownloaders := 3
    maxDownloadSpeed := 100, allowDownloads := 1, autokickPing := 400, lcPings := true
    spoofChecks := 0, requireSpoofChecks := false, hostPort := 6112, gproxyReconnectPort := 6114
    lobbyTimeLimit := 10, hclFromGameName := true, votekickAllowed := true
    votekickPercentage := 100 }

/-- The game before its first event. -/
def lobby : GameState := GameState.new config 0 5

/-- The choices of an iteration; the key is the one a client seated in
it gets. -/
def env (key : UInt32) : Env := ⟨key, fun _ => 0, PlayerLink.drained⟩

/-- A command. -/
def cmd (c : GameCmd) : Event := .cmd (env 7) c

/-- A W3GS frame. -/
def w3gs (connId : Nat) (id : UInt8) (payload : List UInt8) : Event :=
  cmd (.frame connId (.w3gs id payload))

/-- A GPS frame. -/
def gps (connId : Nat) (id : UInt8) (payload : List UInt8) : Event :=
  cmd (.frame connId (.gps id payload))

/-- A client connects on a link. -/
def connect (connId : Nat) (link : PlayerLink) : Event :=
  cmd (.newConn connId link ⟨10, 0, 0, 1⟩)

/-- REQ_JOIN. -/
def join (connId : Nat) (name : Text) : Event :=
  w3gs connId 0x1E (u32le 1 ++ u32le 0 ++ [0] ++ u16le 6112 ++ u32le 0 ++ name ++ [0]
    ++ [0, 0, 0, 0, 0, 0] ++ [10, 0, 0, 1])

/-- GAME_LOADED_SELF. -/
def loaded (connId : Nat) : Event := w3gs connId 0x23 []

/-- OUTGOING_KEEPALIVE, with the checksum of the turn. -/
def keepalive (connId : Nat) : Event := w3gs connId 0x27 ([0] ++ u32le 1)

/-- The client has the map. -/
def mapReady (connId : Nat) : Event := w3gs connId 0x42 ([1, 0, 0, 0] ++ [1] ++ u32le 10)

/-- LEAVE_GAME. -/
def leaveGame (connId : Nat) : Event := w3gs connId 0x21 (u32le 7)

/-- A chat line of a running game. -/
def say (connId : Nat) (pid : UInt8) (line : Text) : Event :=
  w3gs connId 0x28 ([0, pid, 0x20, 0, 0, 0, 0] ++ line ++ [0])

/-- The client uses GProxy. -/
def hello (connId : Nat) : Event := gps connId 0x01 [1, 0, 0, 0]

/-- The token of a client that restarted cold. -/
def full (connId : Nat) (pid : UInt8) : Event := gps connId 0x05 (pid :: u32le 7)

/-- A client that lost its connection asks for its seat. -/
def reconnect (connId : Nat) (pid : UInt8) (last : Nat) : Event :=
  gps connId 0x02 (pid :: u32le 7 ++ u32le last)

/-- A connection breaks. -/
def closed (connId : Nat) : Event := cmd (.closed connId (txt "reset"))

/-- A link with room for `n` packets that is closed from then on. -/
def closingAfter (n : Nat) : PlayerLink :=
  PlayerLink.fresh (fun k => if k < n then .room else .closed) (by
    intro k hk
    split at hk
    · cases hk
    · rw [if_neg (by omega)])

/-- Two clients join, on the connections 1 and 2 and the given links,
and become the players 1 and 2. -/
def twoJoin (l₁ l₂ : PlayerLink) : List Event :=
  [connect 1 l₁, join 1 (txt "ann"), connect 2 l₂, join 2 (txt "bob")]

/-- The countdown runs through. -/
def countdown : List Event := [cmd .start, .elapse 5000, .tick 0]

/-- Two clients join and load: the game runs. -/
def twoPlay (l₁ l₂ : PlayerLink) : List Event :=
  twoJoin l₁ l₂ ++ countdown ++ [loaded 1, loaded 2]

end Spectre.Scenario

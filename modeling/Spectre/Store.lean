/-
The persistent store: its tables, the statements of its worker, and the
queue in front of it.

The worker owns the connection and takes one command after the other, so
a command is a function of the tables; the statements it is made of are
written out here as the SQL says, with what SQLite documents for it: new
ids are one above the largest, `COLLATE NOCASE` folds the letters of
ASCII, a reference to a row that is not there is refused (the bundled
SQLite is built with foreign keys on), and a transaction that is not
committed leaves nothing behind. Every statement may fail, for want of
room on the disk or because another process has the file; the worker
drops the error and goes on.
-/
import Mathlib.Algebra.Ring.Int.Defs
import Spectre.Lib.Worker
import Spectre.Rust

namespace Spectre.Store

open Lib

-- ====================================================================== records

/-- `Ban`. -/
structure Ban where
  name : Text
  ip : Text
  admin : Text
  reason : Text
  created : Int
deriving DecidableEq, Repr

/-- `DotAPlayerRecord`. -/
structure DotAPlayerRecord where
  colour : UInt32
  name : Text
  hero : Text
  kills : UInt32
  deaths : UInt32
  assists : UInt32
  creepKills : UInt32
  creepDenies : UInt32
  neutralKills : UInt32
  towerKills : UInt32
  raxKills : UInt32
  courierKills : UInt32
deriving DecidableEq, Repr

/-- `DotAStatsSummary`. -/
structure DotAStatsSummary where
  games : UInt32
  wins : UInt32
  losses : UInt32
  kills : UInt32
  deaths : UInt32
  assists : UInt32
  creepKills : UInt32
  creepDenies : UInt32
  neutralKills : UInt32
  towerKills : UInt32
  raxKills : UInt32
deriving DecidableEq, Repr

/-- `StoreCmd`, but for the queries. -/
inductive Cmd where
  | addBan (name ip admin reason : Text)
  | removeBan (name : Text)
  | addAdmin (name server : Text)
  | removeAdmin (name : Text)
  | logGame (name map : Text) (started ended : Int) (players : List Text)
  | logDotaGame (gameName : Text) (winner duration treeHp throneHp : UInt32)
      (players : List DotAPlayerRecord)
  | recordDownload (map : Text) (mapSize : UInt64) (name ip : Text) (spoofed : UInt8)
      (downloaded duration : UInt64)
  | logW3MmdVar (gameName : Text) (pid : UInt8) (varName : Text)
deriving DecidableEq, Repr

/-- `StoreQuery`. -/
inductive Query where
  | isBanned (name ip : Text)
  | isAdmin (name : Text)
  | journalMode
  | gamePlayerCount (gameName : Text)
  | getDotaStats (name : Text)
deriving DecidableEq, Repr

/-- What is sent back. -/
inductive Answer where
  | ban (b : Option Ban)
  | admin (yes : Bool)
  | mode (m : Text)
  | count (n : Nat)
  | stats (s : Option DotAStatsSummary)
deriving DecidableEq, Repr

-- ======================================================================= tables

/-- A row of `games`. -/
structure GameRow where
  id : Nat
  name : Text
  map : Text
  started : Int
  ended : Int
  duration : Int
deriving DecidableEq, Repr

/-- A row of `dotagames`. -/
structure DotaGameRow where
  gameId : Nat
  winner : UInt32
  duration : UInt32
  treeHp : UInt32
  throneHp : UInt32
deriving DecidableEq, Repr

/-- A row of `downloads`; the sizes are stored as signed. -/
structure DownloadRow where
  map : Text
  mapSize : Int
  name : Text
  ip : Text
  spoofed : UInt8
  downloaded : Int
  duration : Int
  created : Int
deriving DecidableEq, Repr

/-- The tables, each in the order of its ids. The ids are kept for the
games, which the other tables refer to. -/
structure Db where
  bans : List Ban := []
  admins : List (Text × Text) := []
  games : List GameRow := []
  gamePlayers : List (Nat × Text) := []
  dotaGames : List DotaGameRow := []
  dotaPlayers : List (Nat × DotAPlayerRecord) := []
  downloads : List DownloadRow := []
  w3mmdVars : List (Nat × UInt8 × Text) := []
deriving DecidableEq, Repr

/-- What the environment decides about a command: the time, and which of
its statements fail. -/
structure Env where
  now : Int
  fails : Nat → Bool := fun _ => false

/-- What SQLite leaves open: which of the rows a `SELECT` without an
order starts with, and the journal mode of the file. -/
class Sqlite where
  first : List Ban → Option Ban
  first_mem : ∀ {rows : List Ban} {b : Ban}, first rows = some b → b ∈ rows
  first_isSome : ∀ {rows : List Ban}, rows ≠ [] → (first rows).isSome = true
  journalMode : Text

/-- `COLLATE NOCASE`: the comparison ends at a NUL, and then the lengths
decide. -/
def nocase (a b : Text) : Bool :=
  eqIgnoreAsciiCase (a.takeWhile (· ≠ 0)) (b.takeWhile (· ≠ 0)) && a.length == b.length

/-- `saturating_sub` of 64 bits. -/
def saturatingSub (a b : Int) : Int := max (-2 ^ 63) (min (2 ^ 63 - 1) (a - b))

/-- `as i64`. -/
def asI64 (n : UInt64) : Int := if n.toNat < 2 ^ 63 then n.toNat else n.toNat - 2 ^ 64

/-- A value read into 32 bits, or an error. -/
def asU32 (n : Nat) : Option UInt32 := if n < 2 ^ 32 then some (.ofNat n) else none

/-- The rows of a loop of inserts, from the `k`th statement on: those
that fail are left out. -/
def Env.inserted {α : Type} (env : Env) (k : Nat) (rows : List α) : List α :=
  (rows.zipIdx k).filterMap fun r => if env.fails r.2 then none else some r.1

namespace Db

/-- The id of the next row of `games`. -/
def nextGameId (db : Db) : Nat := (db.games.map GameRow.id).max?.getD 0 + 1

/-- `SELECT id FROM games WHERE name = ?1 ORDER BY id DESC LIMIT 1`. -/
def lastGame (db : Db) (name : Text) : Option Nat :=
  ((db.games.filter fun g => g.name = name).map GameRow.id).max?

/-- `REFERENCES games(id)`. -/
def refers (db : Db) (gameId : Nat) : Bool := db.games.any fun g => g.id == gameId

-- ===================================================================== commands

/-- A game and its players, in a transaction. -/
def logGame (db : Db) (env : Env) (name map : Text) (started ended : Int) (players : List Text) :
    Db :=
  -- the transaction, the game, the players, the commit
  if env.fails 0 ∨ env.fails 1 ∨ env.fails (2 + players.length) then db
  else
    let gameId := db.nextGameId
    { db with
      games := db.games ++ [{ id := gameId, name, map, started, ended
                              duration := saturatingSub ended started }]
      gamePlayers := db.gamePlayers ++ (env.inserted 2 players).map fun player =>
        (gameId, player) }

/-- The game a result refers to; there is no game 0. -/
def gameOf (db : Db) (env : Env) (gameName : Text) : Nat :=
  if env.fails 1 then 0 else (db.lastGame gameName).getD 0

/-- The result of a DotA game, in a transaction. -/
def logDotaGame (db : Db) (env : Env) (gameName : Text)
    (winner duration treeHp throneHp : UInt32) (players : List DotAPlayerRecord) : Db :=
  -- the transaction, the query, the result, the players, the commit
  if env.fails 0 ∨ env.fails (3 + players.length) then db
  else
    let gameId := db.gameOf env gameName
    if db.refers gameId then
      { db with
        dotaGames := db.dotaGames ++ env.inserted 2 [{ gameId, winner, duration, treeHp, throneHp }]
        dotaPlayers := db.dotaPlayers ++ (env.inserted 3 players).map fun p => (gameId, p) }
    else db

/-- `run_worker`, one command. -/
def apply (env : Env) (db : Db) : Cmd → Db
  | .addBan name ip admin reason =>
      if env.fails 0 then db
      else { db with bans := db.bans ++ [{ name, ip, admin, reason, created := env.now }] }
  | .removeBan name =>
      if env.fails 0 then db
      else { db with bans := db.bans.filter fun b => !nocase b.name name }
  | .addAdmin name server =>
      -- the row of exactly this name is replaced
      if env.fails 0 then db
      else { db with admins := (db.admins.filter fun a => a.1 ≠ name) ++ [(name, server)] }
  | .removeAdmin name =>
      if env.fails 0 then db
      else { db with admins := db.admins.filter fun a => !nocase a.1 name }
  | .logGame name map started ended players => db.logGame env name map started ended players
  | .logDotaGame gameName winner duration treeHp throneHp players =>
      db.logDotaGame env gameName winner duration treeHp throneHp players
  | .recordDownload map mapSize name ip spoofed downloaded duration =>
      if env.fails 0 then db
      else { db with
        downloads := db.downloads ++ [{ map, mapSize := asI64 mapSize, name, ip, spoofed
                                        downloaded := asI64 downloaded
                                        duration := asI64 duration, created := env.now }] }
  | .logW3MmdVar gameName pid varName =>
      match if env.fails 0 then none else db.lastGame gameName with
      | some gameId =>
          if env.fails 1 ∨ !db.refers gameId then db
          else { db with w3mmdVars := db.w3mmdVars ++ [(gameId, pid, varName)] }
      | none => db

-- ====================================================================== queries

/-- The bans on a name or an address. -/
def bansOn (db : Db) (name ip : Text) : List Ban :=
  db.bans.filter fun b => (nocase b.name name && b.name != []) || (b.ip == ip && b.ip != [])

/-- The number of rows of the join of `game_players` and `games`. -/
def playerCount (db : Db) (gameName : Text) : Nat :=
  (db.gamePlayers.map fun p =>
    db.games.countP fun g => g.id == p.1 && g.name == gameName).sum

/-- The sums of `query_dota_stats`, each read into 32 bits; nothing
without a row. -/
def summarize (rows : List DotAPlayerRecord) : Option DotAStatsSummary := do
  let total := fun f : DotAPlayerRecord → UInt32 => (rows.map fun p => (f p).toNat).sum
  let games ← asU32 rows.length
  let kills ← asU32 (total DotAPlayerRecord.kills)
  let deaths ← asU32 (total DotAPlayerRecord.deaths)
  let assists ← asU32 (total DotAPlayerRecord.assists)
  let creepKills ← asU32 (total DotAPlayerRecord.creepKills)
  let creepDenies ← asU32 (total DotAPlayerRecord.creepDenies)
  let neutralKills ← asU32 (total DotAPlayerRecord.neutralKills)
  let towerKills ← asU32 (total DotAPlayerRecord.towerKills)
  let raxKills ← asU32 (total DotAPlayerRecord.raxKills)
  if 0 < games then
    some { games, wins := 0, losses := 0, kills, deaths, assists, creepKills, creepDenies
           neutralKills, towerKills, raxKills }
  else none

/-- `query_dota_stats`. -/
def queryDotaStats (db : Db) (name : Text) : Option DotAStatsSummary :=
  summarize ((db.dotaPlayers.map Prod.snd).filter fun p => nocase p.name name)

/-- `run_worker`, one query; it answers with the default when its
statement fails. -/
def answer [Sqlite] (env : Env) (db : Db) : Query → Answer
  | .isBanned name ip => .ban (if env.fails 0 then none else Sqlite.first (db.bansOn name ip))
  | .isAdmin name => .admin (!env.fails 0 && db.admins.any fun a => nocase a.1 name)
  | .journalMode => .mode (if env.fails 0 then [] else Sqlite.journalMode)
  | .gamePlayerCount gameName => .count (if env.fails 0 then 0 else db.playerCount gameName)
  | .getDotaStats name => .stats (if env.fails 0 then none else db.queryDotaStats name)

end Db

/-- `run_worker` behind `mpsc::channel(1024)`. -/
def worker [Sqlite] : Worker Db Cmd Query Answer Env where
  cap := 1024
  apply := Db.apply
  answer := Db.answer

end Spectre.Store

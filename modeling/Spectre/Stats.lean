/-
DotA statistics read off the action stream (`stats_dota.rs`).

`processAction` scans an action for records `0x6b "dr.x" 0 data 0 key 0
value` and stops at nothing: a record that does not parse costs one
byte. The scan works on the unread suffix of the action.
-/
import Spectre.Incoming

namespace Spectre

/-- `DotAPlayerStats`. -/
structure DotAPlayerStats where
  colour : Nat
  newColour : Nat
  name : Text := []
  hero : Text := []
  kills : Nat := 0
  deaths : Nat := 0
  assists : Nat := 0
  creepKills : Nat := 0
  creepDenies : Nat := 0
  neutralKills : Nat := 0
  gold : Nat := 0
  items : List Text := [[], [], [], [], [], []]
  courierKills : Nat := 0
  towerKills : Nat := 0
  raxKills : Nat := 0
deriving DecidableEq, Repr

/-- `StatsDotA`. The players are the entries of a `HashMap` by id. -/
structure StatsDotA where
  players : List (Nat × DotAPlayerStats) := []
  winner : Nat := 0
  durationMin : Nat := 0
  durationSec : Nat := 0
  treeHp : Nat := 100
  throneHp : Nat := 100
deriving DecidableEq, Repr

namespace StatsDotA

/-- The ids a DotA player can have. -/
def validId (id : Nat) : Bool := (1 ≤ id && id ≤ 5) || (7 ≤ id && id ≤ 11)

/-- `players.entry(id).or_insert_with(new)` and an update. -/
def entry (st : StatsDotA) (id : Nat) (f : DotAPlayerStats → DotAPlayerStats) : StatsDotA :=
  if st.players.any (fun e => e.1 == id) then
    { st with players := st.players.map fun e => if e.1 = id then (e.1, f e.2) else e }
  else { st with players := st.players ++ [(id, f { colour := id, newColour := id })] }

/-- The four value bytes, last first, as text. -/
def valueText (raw : List UInt8) : Text := fromUtf8Lossy raw.reverse

/-- A record about one player. -/
def playerField (key : Text) (value : Nat) (raw : List UInt8) (p : DotAPlayerStats) :
    DotAPlayerStats :=
  if key = txt "1" then { p with kills := value }
  else if key = txt "2" then { p with deaths := value }
  else if key = txt "3" then { p with creepKills := value }
  else if key = txt "4" then { p with creepDenies := value }
  else if key = txt "5" then { p with assists := value }
  else if key = txt "6" then { p with gold := value }
  else if key = txt "7" then { p with neutralKills := value }
  else if key = txt "8_0" then { p with items := p.items.set 0 (valueText raw) }
  else if key = txt "8_1" then { p with items := p.items.set 1 (valueText raw) }
  else if key = txt "8_2" then { p with items := p.items.set 2 (valueText raw) }
  else if key = txt "8_3" then { p with items := p.items.set 3 (valueText raw) }
  else if key = txt "8_4" then { p with items := p.items.set 4 (valueText raw) }
  else if key = txt "8_5" then { p with items := p.items.set 5 (valueText raw) }
  else if key = txt "9" then { p with hero := valueText raw }
  else if key = txt "id" then
    { p with newColour := if 6 ≤ value then (value + 1) % 2 ^ 32 else value }
  else p

/-- It leaves the colour and the name. -/
theorem playerField_identity (key : Text) (value : Nat) (raw : List UInt8) (p : DotAPlayerStats) :
    (playerField key value raw p).colour = p.colour
      ∧ (playerField key value raw p).name = p.name := by
  have hite : ∀ (c : Prop) [Decidable c] (q r : DotAPlayerStats),
      q.colour = p.colour ∧ q.name = p.name → r.colour = p.colour ∧ r.name = p.name →
        (if c then q else r).colour = p.colour ∧ (if c then q else r).name = p.name := by
    intro c _ q r hq hr
    split
    · exact hq
    · exact hr
  unfold playerField
  iterate 15 refine hite _ _ _ ⟨rfl, rfl⟩ ?_
  exact ⟨rfl, rfl⟩

/-- What one complete record does. -/
def record (st : StatsDotA) (data key : Text) (value : Nat) (raw : List UInt8) : StatsDotA :=
  if data = txt "Data" then
    if (txt "Courier").isPrefixOf key then
      if validId value then
        st.entry value fun p => { p with courierKills := (p.courierKills + 1) % 2 ^ 32 }
      else st
    else if (txt "Tower").isPrefixOf key then
      if validId value then
        st.entry value fun p => { p with towerKills := (p.towerKills + 1) % 2 ^ 32 }
      else st
    else if (txt "Rax").isPrefixOf key then
      if validId value then
        st.entry value fun p => { p with raxKills := (p.raxKills + 1) % 2 ^ 32 }
      else st
    else if (txt "Throne").isPrefixOf key then { st with throneHp := min value 100 }
    else if (txt "Tree").isPrefixOf key then { st with treeHp := min value 100 }
    else st
  else if data = txt "Global" then
    if key = txt "Winner" then { st with winner := value }
    else if key = txt "m" then { st with durationMin := value }
    else if key = txt "s" then { st with durationSec := value }
    else st
  else match parseUInt 32 data with
    | some id => if validId id then st.entry id (playerField key value raw) else st
    | none => st

/-- The record signature. -/
def dotaSig : List UInt8 := [0x6b, 0x64, 0x72, 0x2e, 0x78, 0x00]

/-- A record at the head of the unread bytes: its data, key and value
bytes, and the bytes behind it. -/
def readRecord (rest : List UInt8) : Option (Text × Text × List UInt8 × List UInt8) :=
  if rest.take 6 = dotaSig then
    match (rest.drop 6).span (· != 0) with
    | (data, 0 :: afterData) =>
        match afterData.span (· != 0) with
        | (key, 0 :: afterKey) =>
            if afterKey.length < 4 then none
            else some (data, key, afterKey.take 4, afterKey.drop 4)
        | _ => none
    | _ => none
  else none

/-- The scan over the unread bytes. -/
def processFrom : Nat → List UInt8 → StatsDotA → StatsDotA
  | 0, _, st => st
  | _, [], st => st
  | fuel + 1, b :: rest, st =>
      match readRecord (b :: rest) with
      | some (data, key, raw, after) =>
          let value := match raw with
            | [a, b, c, d] => a.toNat + 256 * b.toNat + 65536 * c.toNat + 16777216 * d.toNat
            | _ => 0
          processFrom fuel after (st.record (fromUtf8Lossy data) (fromUtf8Lossy key) value raw)
      | none => processFrom fuel rest st

/-- `StatsDotA::process_action`: the statistics after an action, and
whether a winner is known. -/
def processAction (st : StatsDotA) (action : List UInt8) : StatsDotA × Bool :=
  let st := processFrom action.length action st
  (st, st.winner != 0)

/-- The duration `save_game_data` stores, in `u32` arithmetic. -/
def durationSecs (st : StatsDotA) : Nat := (st.durationMin * 60 % 2 ^ 32 + st.durationSec) % 2 ^ 32

/-- `StatsDotA::format_winner`. -/
def formatWinner (st : StatsDotA) : Text :=
  if st.winner = 1 then txt "Sentinel"
  else if st.winner = 2 then txt "Scourge"
  else txt "Unfinished"

/-- `StatsDotA::format_player_stats`. -/
def formatPlayerStats [RustStd] (st : StatsDotA) (name : Text) : Option Text :=
  ((RustStd.hashOrder st.players).find? fun e => eqIgnoreAsciiCase e.2.name name).map fun e =>
    let p := e.2
    let hero := if p.hero = [] then txt "None" else p.hero
    txt "[" ++ p.name ++ txt "] Hero: " ++ hero ++ txt ", K/D/A: " ++ decimal p.kills ++ txt "/"
      ++ decimal p.deaths ++ txt "/" ++ decimal p.assists ++ txt ", CS: " ++ decimal p.creepKills
      ++ txt "/" ++ decimal p.creepDenies ++ txt ", Neutrals: " ++ decimal p.neutralKills
      ++ txt ", Gold: " ++ decimal p.gold

end StatsDotA

end Spectre

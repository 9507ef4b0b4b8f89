/-
The records in an action, and what one of them does
(`StatsDotA::process_action`).

The scan does not look at the statistics: it finds the same records
whatever they are (`recordsIn`), and processing an action is applying
its records in turn (`processAction_eq`). An action that is records one
behind the other is scanned as exactly these, so how the records are
spread over actions does not matter (`dota_stats_fold`).

A record names one field of one player, or one number of the game, or
nothing (`DotaRecord.names`); the rest stays as it is (`Changes`).
-/
import Spectre.Stats
import Mathlib.Data.List.TakeDrop
import Mathlib.Data.List.TakeWhile
import Mathlib.Tactic.SplitIfs

namespace Spectre

-- ================================================================ the records

/-- A record: its two strings, and its value as it came. -/
structure DotaRecord where
  data : List UInt8
  key : List UInt8
  raw : List UInt8
deriving DecidableEq, Repr

namespace DotaRecord

/-- The value, `from_le_bytes`. -/
def value (r : DotaRecord) : Nat :=
  match r.raw with
  | [a, b, c, d] => a.toNat + 256 * b.toNat + 65536 * c.toNat + 16777216 * d.toNat
  | _ => 0

/-- The bytes of a record. -/
def bytes (r : DotaRecord) : List UInt8 := StatsDotA.dotaSig ++ r.data ++ [0] ++ r.key
    ++ [0] ++ r.raw

/-- What a record does. -/
def apply (st : StatsDotA) (r : DotaRecord) : StatsDotA :=
  st.record (fromUtf8Lossy r.data) (fromUtf8Lossy r.key) r.value r.raw

/-- The strings have no zero, and the value is four bytes. -/
def Clean (r : DotaRecord) : Prop := 0 ∉ r.data ∧ 0 ∉ r.key ∧ r.raw.length = 4

end DotaRecord

/-- The records the scan finds in the unread bytes. -/
def scanRecords : Nat → List UInt8 → List DotaRecord
  | 0, _ => []
  | _, [] => []
  | fuel + 1, b :: rest =>
      match StatsDotA.readRecord (b :: rest) with
      | some (data, key, raw, after) => ⟨data, key, raw⟩ :: scanRecords fuel after
      | none => scanRecords fuel rest

/-- The records in an action. -/
def recordsIn (action : List UInt8) : List DotaRecord := scanRecords action.length action

/-- The scan does what its records do, one after another. -/
theorem processFrom_eq (fuel : Nat) (rest : List UInt8) (st : StatsDotA) :
    StatsDotA.processFrom fuel rest st = (scanRecords fuel rest).foldl DotaRecord.apply st := by
  induction fuel generalizing rest st with
  | zero => rfl
  | succ fuel ih =>
      cases rest with
      | nil => rfl
      | cons b rest =>
          unfold StatsDotA.processFrom scanRecords
          cases StatsDotA.readRecord (b :: rest) with
          | none => exact ih rest st
          | some found => exact ih _ _

/-- Processing an action is applying its records. -/
theorem processAction_eq (st : StatsDotA) (action : List UInt8) :
    (st.processAction action).1 = (recordsIn action).foldl DotaRecord.apply st :=
  processFrom_eq _ _ st

/-- Processing actions is applying the records of all of them. -/
theorem foldl_processAction (actions : List (List UInt8)) (st : StatsDotA) :
    actions.foldl (fun st a => (st.processAction a).1) st
      = (actions.flatMap recordsIn).foldl DotaRecord.apply st := by
  induction actions generalizing st with
  | nil => rfl
  | cons a actions ih =>
    rw [List.foldl_cons, ih, processAction_eq, List.flatMap_cons, List.foldl_append]

-- ------------------------------------------------------- records one by one

/-- A string ends at its zero. -/
theorem span_zero {l : List UInt8} (h : 0 ∉ l) (rest : List UInt8) :
    (l ++ 0 :: rest).span (· != 0) = (l, 0 :: rest) := by
  have hall : ∀ b ∈ l, (b != 0) = true := fun b hb => bne_iff_ne.2 fun hzero => h (hzero ▸ hb)
  rw [List.span_eq_takeWhile_dropWhile, List.takeWhile_append_of_pos hall,
    List.dropWhile_append_of_pos hall]
  simp

/-- A record is read off what begins with it. -/
theorem readRecord_of_clean {r : DotaRecord} (h : r.Clean) (rest : List UInt8) :
    StatsDotA.readRecord (r.bytes ++ rest) = some (r.data, r.key, r.raw, rest) := by
  obtain ⟨hdata, hkey, hraw⟩ := h
  have hbytes : r.bytes ++ rest
      = StatsDotA.dotaSig ++ (r.data ++ 0 :: (r.key ++ 0 :: (r.raw ++ rest))) := by
    unfold DotaRecord.bytes
    simp only [List.append_assoc, List.cons_append, List.nil_append]
  have hsix : StatsDotA.dotaSig.length = 6 := rfl
  have hlong : ¬(r.raw ++ rest).length < 4 := by
    rw [List.length_append, hraw]
    omega
  unfold StatsDotA.readRecord
  rw [hbytes, List.take_left' hsix, if_pos rfl, List.drop_left' hsix]
  simp only [span_zero hdata, span_zero hkey, if_neg hlong, List.take_left' hraw,
    List.drop_left' hraw]

/-- Records one behind the other are found, and nothing else. -/
theorem scanRecords_flatMap {rs : List DotaRecord} (h : ∀ r ∈ rs, r.Clean) {fuel : Nat}
    (hfuel : (rs.flatMap DotaRecord.bytes).length ≤ fuel) :
    scanRecords fuel (rs.flatMap DotaRecord.bytes) = rs := by
  induction rs generalizing fuel with
  | nil => cases fuel <;> rfl
  | cons r rs ih =>
      have hread := readRecord_of_clean (h r (.head _)) (rs.flatMap DotaRecord.bytes)
      rw [List.flatMap_cons] at hfuel ⊢
      cases hfile : r.bytes ++ rs.flatMap DotaRecord.bytes with
      | nil => cases hfile
      | cons b bytes =>
          have hlen := congrArg List.length hfile
          rw [List.length_append, List.length_cons] at hlen
          rw [List.length_append] at hfuel
          have hpos : 6 ≤ r.bytes.length := by
            unfold DotaRecord.bytes
            simp only [List.length_append, StatsDotA.dotaSig, List.length_cons, List.length_nil]
            omega
          obtain ⟨fuel, rfl⟩ : ∃ m, fuel = m + 1 := ⟨fuel - 1, by omega⟩
          rw [hfile] at hread
          unfold scanRecords
          rw [hread]
          dsimp only
          rw [ih (fun r' hr' => h r' (.tail _ hr')) (by omega)]

/-- Records that are written are found again. -/
theorem recordsIn_flatMap {rs : List DotaRecord} (h : ∀ r ∈ rs, r.Clean) :
    recordsIn (rs.flatMap DotaRecord.bytes) = rs := scanRecords_flatMap h (Nat.le_refl _)

-- ========================================================= what a record names

/-- A number of the game. -/
inductive DotaGlobal where
  | winner
  | durationMin
  | durationSec
  | treeHp
  | throneHp
deriving DecidableEq, Repr

/-- A field of a player's entry that records can change. -/
inductive DotaField where
  | newColour
  | hero
  | kills
  | deaths
  | assists
  | creepKills
  | creepDenies
  | neutralKills
  | gold
  | item (slot : Nat)
  | courierKills
  | towerKills
  | raxKills
deriving DecidableEq, Repr

/-- What a record is about. -/
inductive DotaTarget where
  | nothing
  | game (g : DotaGlobal)
  /-- a player's entry, which is created if need be, and a field of it -/
  | player (id : Nat) (f : Option DotaField)
deriving DecidableEq, Repr

/-- The value of a number of the game. -/
def StatsDotA.get (st : StatsDotA) : DotaGlobal → Nat
  | .winner => st.winner
  | .durationMin => st.durationMin
  | .durationSec => st.durationSec
  | .treeHp => st.treeHp
  | .throneHp => st.throneHp

/-- The value of a field of an entry. -/
def DotAPlayerStats.get (p : DotAPlayerStats) : DotaField → Nat ⊕ Text
  | .newColour => .inl p.newColour
  | .hero => .inr p.hero
  | .kills => .inl p.kills
  | .deaths => .inl p.deaths
  | .assists => .inl p.assists
  | .creepKills => .inl p.creepKills
  | .creepDenies => .inl p.creepDenies
  | .neutralKills => .inl p.neutralKills
  | .gold => .inl p.gold
  | .item slot => .inr (p.items.getD slot [])
  | .courierKills => .inl p.courierKills
  | .towerKills => .inl p.towerKills
  | .raxKills => .inl p.raxKills

/-- `players.get(&id)`. -/
def StatsDotA.player (st : StatsDotA) (id : Nat) : Option DotAPlayerStats :=
  (st.players.find? fun e => e.1 == id).map Prod.snd

/-- `DotAPlayerStats::new`. -/
def DotAPlayerStats.fresh (id : Nat) : DotAPlayerStats := { colour := id, newColour := id }

/-- The field a player's record is about, by its key. -/
def fieldNamed (key : Text) : Option DotaField :=
  if key = txt "1" then some .kills
  else if key = txt "2" then some .deaths
  else if key = txt "3" then some .creepKills
  else if key = txt "4" then some .creepDenies
  else if key = txt "5" then some .assists
  else if key = txt "6" then some .gold
  else if key = txt "7" then some .neutralKills
  else if key = txt "8_0" then some (.item 0)
  else if key = txt "8_1" then some (.item 1)
  else if key = txt "8_2" then some (.item 2)
  else if key = txt "8_3" then some (.item 3)
  else if key = txt "8_4" then some (.item 4)
  else if key = txt "8_5" then some (.item 5)
  else if key = txt "9" then some .hero
  else if key = txt "id" then some .newColour
  else none

/-- A building or courier is credited to a player; the value is the
player's id. -/
def creditNamed (value : Nat) (f : DotaField) : DotaTarget :=
  if StatsDotA.validId value then .player value (some f) else .nothing

/-- What a record with these strings and this value is about. -/
def targetNamed (data key : Text) (value : Nat) : DotaTarget :=
  if data = txt "Data" then
    if (txt "Courier").isPrefixOf key then creditNamed value .courierKills
    else if (txt "Tower").isPrefixOf key then creditNamed value .towerKills
    else if (txt "Rax").isPrefixOf key then creditNamed value .raxKills
    else if (txt "Throne").isPrefixOf key then .game .throneHp
    else if (txt "Tree").isPrefixOf key then .game .treeHp
    else .nothing
  else if data = txt "Global" then
    if key = txt "Winner" then .game .winner
    else if key = txt "m" then .game .durationMin
    else if key = txt "s" then .game .durationSec
    else .nothing
  else match parseUInt 32 data with
    | some id => if StatsDotA.validId id then .player id (fieldNamed key) else .nothing
    | none => .nothing

/-- What a record names. -/
def DotaRecord.names (r : DotaRecord) : DotaTarget :=
  targetNamed (fromUtf8Lossy r.data) (fromUtf8Lossy r.key) r.value

/-- A field of an entry after a record about it. -/
def DotAPlayerStats.change (p : DotAPlayerStats) (value : Nat) (raw : List UInt8) :
    Option DotaField → DotAPlayerStats
  | none => p
  | some .newColour => { p with newColour := if 6 ≤ value then (value + 1) % 2 ^ 32 else value }
  | some .hero => { p with hero := StatsDotA.valueText raw }
  | some .kills => { p with kills := value }
  | some .deaths => { p with deaths := value }
  | some .assists => { p with assists := value }
  | some .creepKills => { p with creepKills := value }
  | some .creepDenies => { p with creepDenies := value }
  | some .neutralKills => { p with neutralKills := value }
  | some .gold => { p with gold := value }
  | some (.item slot) => { p with items := p.items.set slot (StatsDotA.valueText raw) }
  | some .courierKills => { p with courierKills := (p.courierKills + 1) % 2 ^ 32 }
  | some .towerKills => { p with towerKills := (p.towerKills + 1) % 2 ^ 32 }
  | some .raxKills => { p with raxKills := (p.raxKills + 1) % 2 ^ 32 }

/-- A number of the game after a record about it. -/
def StatsDotA.setGame (st : StatsDotA) (value : Nat) : DotaGlobal → StatsDotA
  | .winner => { st with winner := value }
  | .durationMin => { st with durationMin := value }
  | .durationSec => { st with durationSec := value }
  | .treeHp => { st with treeHp := min value 100 }
  | .throneHp => { st with throneHp := min value 100 }

/-- The statistics after a record about something. -/
def StatsDotA.change (st : StatsDotA) (value : Nat) (raw : List UInt8) : DotaTarget → StatsDotA
  | .nothing => st
  | .game g => st.setGame value g
  | .player id f => st.entry id fun p => p.change value raw f

/-- A field is changed by its key. -/
theorem playerField_eq (key : Text) (value : Nat) (raw : List UInt8) (p : DotAPlayerStats) :
    StatsDotA.playerField key value raw p = p.change value raw (fieldNamed key) := by
  have hite : ∀ (c : Prop) [Decidable c] {q r : DotAPlayerStats} {f g : Option DotaField},
      q = p.change value raw f → r = p.change value raw g →
        (if c then q else r) = p.change value raw (if c then f else g) := by
    intro c _ q r f g hq hr
    split
    · exact hq
    · exact hr
  unfold StatsDotA.playerField fieldNamed
  iterate 15 refine hite _ rfl ?_
  rfl

/-- What a record does is said by what it names. -/
theorem record_eq (st : StatsDotA) (data key : Text) (value : Nat) (raw : List UInt8) :
    st.record data key value raw = st.change value raw (targetNamed data key value) := by
  unfold StatsDotA.record targetNamed creditNamed
  have hfield : StatsDotA.playerField key value raw = fun p =>
    p.change value raw (fieldNamed key) :=
    funext fun p => playerField_eq key value raw p
  rw [hfield]
  cases parseUInt 32 data with
  | none => split_ifs <;> rfl
  | some id =>
      dsimp only
      split_ifs <;> rfl

/-- A record changes what it names. -/
theorem DotaRecord.apply_eq (st : StatsDotA) (r : DotaRecord) :
    r.apply st = st.change r.value r.raw r.names := record_eq st _ _ _ _

/-- Nothing changes but what is named; a player that is named has an
entry then. -/
structure Changes (t : DotaTarget) (st st' : StatsDotA) : Prop where
  game : ∀ g, t ≠ .game g → st'.get g = st.get g
  others : ∀ id, (∀ f, t ≠ .player id f) → st'.player id = st.player id
  entry : ∀ id f, t = .player id f → StatsDotA.validId id = true
    ∧ ∃ p, st'.player id = some p
      ∧ p.colour = ((st.player id).getD (.fresh id)).colour
      ∧ p.name = ((st.player id).getD (.fresh id)).name
      ∧ ∀ f', f ≠ some f' → p.get f' = ((st.player id).getD (.fresh id)).get f'

-- ------------------------------------------------------------------ entries

/-- An update of one entry keeps the keys. -/
theorem find?_update (l : List (Nat × DotAPlayerStats)) (id id' : Nat)
    (f : DotAPlayerStats → DotAPlayerStats) :
    (l.map fun e => if e.1 = id then (e.1, f e.2) else e).find? (fun e => e.1 == id')
      = (l.find? fun e => e.1 == id').map fun e => if e.1 = id then (e.1, f e.2) else e := by
  rw [List.find?_map]
  have hkey : (fun e : Nat × DotAPlayerStats => e.1 == id')
      ∘ (fun e => if e.1 = id then (e.1, f e.2) else e) = fun e => e.1 == id' := by
    funext e
    rw [Function.comp_apply]
    split <;> rfl
  rw [hkey]

/-- The entry that is updated, or a fresh one. -/
theorem player_entry_self (st : StatsDotA) (id : Nat) (f : DotAPlayerStats → DotAPlayerStats) :
    (st.entry id f).player id = some (f ((st.player id).getD (.fresh id))) := by
  unfold StatsDotA.entry StatsDotA.player
  cases hfind : st.players.find? fun e => e.1 == id with
  | some e =>
      have hid : e.1 = id := by simpa using List.find?_some hfind
      have hany : st.players.any (fun e => e.1 == id) = true :=
        List.any_eq_true.2 ⟨e, List.mem_of_find?_eq_some hfind, beq_iff_eq.2 hid⟩
      rw [if_pos hany]
      dsimp only
      rw [find?_update, hfind]
      simp [hid]
  | none =>
      have hany : ¬st.players.any (fun e => e.1 == id) = true := by
        intro h
        obtain ⟨e, he, hid⟩ := List.any_eq_true.1 h
        exact List.find?_eq_none.1 hfind e he hid
      rw [if_neg hany]
      dsimp only
      rw [List.find?_append, hfind]
      simp [DotAPlayerStats.fresh]

/-- The other entries. -/
theorem player_entry_ne (st : StatsDotA) {id id' : Nat} (hne : id' ≠ id)
    (f : DotAPlayerStats → DotAPlayerStats) : (st.entry id f).player id' = st.player id' := by
  unfold StatsDotA.entry StatsDotA.player
  split
  · dsimp only
    rw [find?_update]
    cases hfind : st.players.find? fun e => e.1 == id' with
    | none => rfl
    | some e =>
        have hid : e.1 = id' := by simpa using List.find?_some hfind
        rw [Option.map_some, if_neg (fun h => hne (hid.symm.trans h))]
  · dsimp only
    rw [List.find?_append]
    simp [Ne.symm hne]

namespace Changes

variable {st : StatsDotA}

/-- Nothing is named. -/
theorem nothing (st : StatsDotA) : Changes .nothing st st where
  game _ _ := rfl
  others _ _ := rfl
  entry _ _ h := nomatch h

/-- A number of the game, the entries being left alone. -/
theorem ofGame {st' : StatsDotA} (g : DotaGlobal) (hplayers : st'.players = st.players)
    (hgame : ∀ g', g ≠ g' → st'.get g' = st.get g') : Changes (.game g) st st' where
  game g' hne := hgame g' fun h => hne (h ▸ rfl)
  others id _ := by
    unfold StatsDotA.player
    rw [hplayers]
  entry _ _ h := nomatch h

/-- An entry whose update changes one field at most. -/
theorem ofEntry {id : Nat} (hid : StatsDotA.validId id = true) {f : Option DotaField}
    {upd : DotAPlayerStats → DotAPlayerStats} (hcolour : ∀ p, (upd p).colour = p.colour)
    (hname : ∀ p, (upd p).name = p.name)
    (hfield : ∀ p f', f ≠ some f' → (upd p).get f' = p.get f') :
    Changes (.player id f) st (st.entry id upd) where
  game g _ := by
    unfold StatsDotA.entry
    split <;> cases g <;> rfl
  others id' hne := player_entry_ne st (fun h => hne f (by rw [h])) upd
  entry id' f' h := by
    cases h
    exact ⟨hid, _, player_entry_self st id upd, hcolour _, hname _, fun f' hf' => hfield _ f' hf'⟩

end Changes

-- ------------------------------------------------------------------- records

/-- A player's record changes neither colour nor name. -/
theorem change_identity (p : DotAPlayerStats) (value : Nat) (raw : List UInt8)
    (f : Option DotaField) :
    (p.change value raw f).colour = p.colour ∧ (p.change value raw f).name = p.name := by
  cases f with
  | none => exact ⟨rfl, rfl⟩
  | some f => cases f <;> exact ⟨rfl, rfl⟩

/-- A record about a field leaves the others. -/
theorem get_change {p : DotAPlayerStats} {value : Nat} {raw : List UInt8} {f : Option DotaField}
    {f' : DotaField} (h : f ≠ some f') : (p.change value raw f).get f' = p.get f' := by
  cases f with
  | none => rfl
  | some f =>
      cases f with
      | item slot =>
          cases f' with
          | item i =>
              have hi : slot ≠ i := fun hi => h (hi ▸ rfl)
              simp only [DotAPlayerStats.change, DotAPlayerStats.get, List.getD_eq_getElem?_getD,
                List.getElem?_set_ne hi]
          | _ => rfl
      | _ => cases f' <;> first | rfl | exact absurd rfl h

/-- One number is set, the others stay. -/
theorem get_setGame {st : StatsDotA} {value : Nat} {g g' : DotaGlobal} (h : g ≠ g') :
    (st.setGame value g).get g' = st.get g' := by
  cases g <;> cases g' <;> first | rfl | exact absurd rfl h

/-- A record is a player's for the ids of players only. -/
theorem validId_of_player {data key : Text} {value id : Nat} {f : Option DotaField}
    (h : targetNamed data key value = .player id f) : StatsDotA.validId id = true := by
  unfold targetNamed creditNamed at h
  cases hid : parseUInt 32 data with
  | none =>
      rw [hid] at h
      split_ifs at h <;> cases h <;> assumption
  | some n =>
      rw [hid] at h
      dsimp only at h
      split_ifs at h <;> cases h <;> assumption

/-- A record changes what it names. -/
theorem DotaRecord.changes (st : StatsDotA) (r : DotaRecord) : Changes r.names st (r.apply st) := by
  rw [r.apply_eq]
  cases hnames : r.names with
  | nothing => exact .nothing st
  | game g => exact .ofGame g (by cases g <;> rfl) fun g' hne => get_setGame hne
  | player id f =>
      exact .ofEntry (validId_of_player hnames) (fun p => (change_identity p _ _ f).1)
        (fun p => (change_identity p _ _ f).2) fun p f' hne => get_change hne

/-- No entry is created but for a player's id. -/
theorem Changes.created {t : DotaTarget} {st st' : StatsDotA} (h : Changes t st st') {id : Nat}
    (hnone : st.player id = none) (hsome : st'.player id ≠ none) : StatsDotA.validId id = true := by
  by_contra hid
  refine hsome ((h.others id fun f hf => ?_).trans hnone)
  exact hid (h.entry id f hf).1

/-- So no other entry is made. -/
theorem created_foldl {rs : List DotaRecord} {st : StatsDotA} {id : Nat}
    (hnone : st.player id = none)
    (hsome : (rs.foldl DotaRecord.apply st).player id ≠ none) : StatsDotA.validId id = true := by
  induction rs generalizing st with
  | nil => exact absurd hnone hsome
  | cons r rs ih =>
      by_cases hstep : (DotaRecord.apply st r).player id = none
      · exact ih hstep hsome
      · exact (r.changes st).created hnone hstep

/-- Which ids these are. -/
theorem validId_iff (id : Nat) :
    StatsDotA.validId id = true ↔ (1 ≤ id ∧ id ≤ 5) ∨ (7 ≤ id ∧ id ≤ 11) := by
  simp [StatsDotA.validId]

-- ============================================================ the fold over records

/-- However records are spread over actions, the statistics afterwards
are those of the records one by one; each changes what it names; entries
are created for players only, whatever the actions are; and an action
reports whether there is a winner then. -/
theorem dota_stats_fold :
    (∀ (st : StatsDotA) (groups : List (List DotaRecord)), (∀ g ∈ groups, ∀ r ∈ g, r.Clean) →
      (groups.map fun g => g.flatMap DotaRecord.bytes).foldl (fun st a => (st.processAction a).1) st
        = groups.flatten.foldl DotaRecord.apply st)
      ∧ (∀ (st : StatsDotA) (r : DotaRecord), Changes r.names st (r.apply st))
      ∧ (∀ (st : StatsDotA) (actions : List (List UInt8)) (id : Nat), st.player id = none →
          (actions.foldl (fun st a => (st.processAction a).1) st).player id ≠ none →
            (1 ≤ id ∧ id ≤ 5) ∨ (7 ≤ id ∧ id ≤ 11))
      ∧ ∀ (st : StatsDotA) (action : List UInt8),
        (st.processAction action).2 = true ↔ (st.processAction action).1.winner ≠ 0 := by
  refine ⟨?_, fun st r => r.changes st, ?_, fun st action => bne_iff_ne⟩
  · intro st groups hclean
    have hscan : ((groups.map fun g => g.flatMap DotaRecord.bytes).flatMap recordsIn)
      = groups.flatten := by
      rw [List.flatMap_map]
      induction groups with
      | nil => rfl
      | cons g groups ih =>
          rw [List.flatMap_cons, List.flatten_cons, recordsIn_flatMap (hclean g (.head _)),
            ih fun g' hg' => hclean g' (.tail _ hg')]
    rw [foldl_processAction, hscan]
  · intro st actions id hnone hsome
    rw [foldl_processAction] at hsome
    exact (validId_iff id).1 (created_foldl hnone hsome)

/-- The end of a game: twelve kills of player 1, a tower, the winner. -/
def endRecords : List (List DotaRecord) :=
  [[⟨[0x31], [0x31], [12, 0, 0, 0]⟩],
    [⟨[0x44, 0x61, 0x74, 0x61], [0x54, 0x6F, 0x77, 0x65, 0x72], [7, 0, 0, 0]⟩,
      ⟨[0x47, 0x6C, 0x6F, 0x62, 0x61, 0x6C], [0x57, 0x69, 0x6E, 0x6E, 0x65, 0x72], [1, 0, 0, 0]⟩]]

/-- The kills and the winner are as reported. -/
theorem dota_stats_fold_endRecords :
    (endRecords.map fun g => g.flatMap DotaRecord.bytes).foldl
      (fun st a => (st.processAction a).1) {}
        = endRecords.flatten.foldl DotaRecord.apply {}
      ∧ ((endRecords.flatten.foldl DotaRecord.apply {}).player 1).map
        DotAPlayerStats.kills = some 12
      ∧ ((endRecords.flatten.foldl DotaRecord.apply {}).player 7).map
        DotAPlayerStats.towerKills = some 1
      ∧ (endRecords.flatten.foldl DotaRecord.apply {}).winner = 1 := by
  have hclean : ∀ g ∈ endRecords, ∀ r ∈ g, r.Clean := by
    unfold DotaRecord.Clean
    decide +kernel
  exact ⟨dota_stats_fold.1 {} endRecords hclean, by decide +kernel, by decide +kernel,
    by decide +kernel⟩

end Spectre

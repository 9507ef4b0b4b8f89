/-
The header of a map, written and read.

A header is described by what is in it (`W3iFile`), and what the loader
makes of it is said without a cursor: the slots are those of the players
that are not closed, each in the team of the last force its colour is
in, or in the team of its place (`W3iFile.info`). The loader reads that
off the encoding, in either format, whatever follows it
(`read_encode`).
-/
import Mathlib.Data.Nat.Bitwise
import Spectre.MapFile

namespace Spectre

-- ================================================================== the format

/-- So many bytes that the loader passes over. -/
abbrev Skipped (n : Nat) := { l : List UInt8 // l.length = n }

/-- A string that the loader gets through. -/
structure CString where
  bytes : List UInt8
  noNul : 0 ∉ bytes
  short : bytes.length ≤ 1024

/-- A string and its terminator. -/
def CString.encode (s : CString) : List UInt8 := s.bytes ++ [0]

/-- A word, the lowest byte first. -/
def wordBytes (w : UInt32) : List UInt8 := u32le w.toNat

/-- A player of the header. -/
structure W3iPlayer where
  colour : UInt32
  status : UInt32
  race : UInt32
  fixed : Skipped 4
  name : CString
  place : Skipped 16

/-- A force of the header. -/
structure W3iForce where
  flags : UInt32
  mask : UInt32
  name : CString

/-- The header of a map. The fields that only format 25 has are here in
either format. -/
structure W3iFile where
  format25 : Bool
  saves : Skipped 4
  editorVersion : UInt32
  title : CString
  author : CString
  description : CString
  recommended : CString
  camera : Skipped 48
  width : UInt32
  height : UInt32
  flags : UInt32
  tileset : Skipped 5
  loadingScreen : CString
  loadingText : CString
  loadingTitle : CString
  loadingSubtitle : CString
  gameData : Skipped 4
  prologueScreen : CString
  prologueText : CString
  prologueTitle : CString
  prologueSubtitle : CString
  fog : Skipped 24
  sound : CString
  light : Skipped 5
  players : List W3iPlayer
  few : players.length ≤ 24
  forces : List W3iForce
  countable : forces.length < 2 ^ 32

namespace W3iPlayer

/-- How it is written, field by field. -/
def encode (p : W3iPlayer) : List UInt8 :=
  wordBytes p.colour ++ (wordBytes p.status ++ (wordBytes p.race ++ (p.fixed.1 ++ (p.name.encode
    ++ p.place.1))))

/-- Whether the player has a slot. -/
def seated (p : W3iPlayer) : Bool := p.status == 1 || p.status == 2

end W3iPlayer

/-- Whether a colour is in a mask. -/
def inMask (mask : UInt32) (colour : UInt8) : Bool :=
  decide (colour.toNat < 24) && mask.toNat.testBit colour.toNat

namespace W3iForce

def encode (f : W3iForce) : List UInt8 :=
  wordBytes f.flags ++ (wordBytes f.mask ++ f.name.encode)

/-- Whether a colour is in the force. -/
def holds (f : W3iForce) (colour : UInt8) : Bool := inMask f.mask colour

end W3iForce

namespace W3iFile

variable (f : W3iFile)

/-- The format, as a word. -/
def formatWord : UInt32 := if f.format25 then 25 else 18

/-- What only format 25 has. -/
def only25 (bytes : List UInt8) : List UInt8 := if f.format25 then bytes else []

/-- The players and the forces, each with their number. -/
def encodeTables : List UInt8 :=
  wordBytes (UInt32.ofNat f.players.length) ++ (f.players.flatMap W3iPlayer.encode
    ++ (wordBytes (UInt32.ofNat f.forces.length) ++ f.forces.flatMap W3iForce.encode))

/-- From the size of the map on. -/
def encodeSettings : List UInt8 :=
  wordBytes f.width ++ (wordBytes f.height ++ (wordBytes f.flags ++ (f.tileset.1
    ++ (f.only25 f.loadingScreen.encode
    ++ (f.loadingText.encode ++ (f.loadingTitle.encode ++ (f.loadingSubtitle.encode
    ++ (f.gameData.1 ++ (f.only25 f.prologueScreen.encode
    ++ (f.prologueText.encode ++ (f.prologueTitle.encode ++ (f.prologueSubtitle.encode
    ++ (f.only25 (f.fog.1 ++ (f.sound.encode ++ f.light.1)) ++ f.encodeTables)))))))))))))

def encode : List UInt8 :=
  wordBytes f.formatWord ++ (f.saves.1 ++ (wordBytes f.editorVersion
    ++ (f.title.encode ++ (f.author.encode ++ (f.description.encode ++ (f.recommended.encode
    ++ (f.camera.1 ++ f.encodeSettings)))))))

-- ============================================================= what it says

/-- The team of a colour: the last of the first twelve forces that it is
in. -/
def teamOf (colour : UInt8) : Option Nat :=
  ((f.forces.take 12).zipIdx.reverse.find? fun e => e.1.holds colour).map Prod.snd

/-- The slot of the `i`th player. -/
def slotOf (p : W3iPlayer) (i : Nat) : SlotInfo :=
  let slot := W3iInfo.slotOf i p.colour p.status p.race
  { slot with team := ((f.teamOf slot.colour).map Nat.toUInt8).getD slot.team }

/-- What the header says. -/
def info : W3iInfo :=
  { width := f.width.toUInt16
    height := f.height.toUInt16
    numTeams := (min f.forces.length 12).toUInt8
    editorVersion := f.editorVersion
    slots := (f.players.zipIdx.filter fun e => e.1.seated).map fun e => f.slotOf e.1 e.2
    mapOptions := f.flags &&& (mapoptMelee ||| mapoptFixedplayersettings ||| mapoptCustomforces) }

end W3iFile

-- ================================================================== the cursor

section Cursor

variable {x : UInt32} {rest : List UInt8}

/-- The bytes of a word make the word. -/
theorem leWord_bytes (w : UInt32) : ∃ a b c d, wordBytes w = [a, b, c, d] ∧ leWord a b c d = w := by
  obtain ⟨a, b, c, d, hbytes, hvalue⟩ := u32le_toNat w.toNat_lt
  refine ⟨a, b, c, d, hbytes, ?_⟩
  unfold leWord
  rw [hvalue, UInt32.ofNat_toNat]

/-- A word is read off. -/
theorem readWord_append (w : UInt32) :
    Cursor.readWord ⟨wordBytes w ++ rest, x⟩ = (⟨rest, w⟩, true) := by
  obtain ⟨a, b, c, d, hbytes, hvalue⟩ := leWord_bytes w
  rw [hbytes]
  show (Cursor.mk rest (leWord a b c d), true) = _
  rw [hvalue]

/-- So many bytes are passed over. -/
theorem seek_append {n : Nat} (s : Skipped n) :
    Cursor.seek ⟨s.1 ++ rest, x⟩ n = ⟨rest, x⟩ := by
  unfold Cursor.seek
  rw [List.drop_left' s.2]

/-- So is a string, up to its terminator. -/
theorem behindCString_append {s : List UInt8} (hs : 0 ∉ s) {left : Nat} (hleft : s.length ≤ left) :
    Cursor.behindCString left (s ++ 0 :: rest) = rest := by
  induction s generalizing left with
  | nil =>
      unfold Cursor.behindCString
      rfl
  | cons b s ih =>
      rw [List.mem_cons, not_or] at hs
      cases left with
      | zero => cases hleft
      | succ left =>
          rw [List.cons_append]
          unfold Cursor.behindCString
          rw [if_neg (Ne.symm hs.1)]
          exact ih hs.2 (Nat.le_of_succ_le_succ hleft)

/-- The same, with the cursor. -/
theorem skipCString_append (s : CString) :
    Cursor.skipCString ⟨s.encode ++ rest, x⟩ = ⟨rest, x⟩ := by
  unfold Cursor.skipCString CString.encode
  rw [List.append_assoc]
  exact congrArg (Cursor.mk · x) (behindCString_append s.noNul s.short)

/-- Three strings. -/
theorem skipCStrings_three (s t u : CString) :
    Cursor.skipCStrings ⟨s.encode ++ (t.encode ++ (u.encode ++ rest)), x⟩ 3 = ⟨rest, x⟩ := by
  show (((Cursor.mk _ x).skipCString).skipCString).skipCString = _
  rw [skipCString_append, skipCString_append, skipCString_append]

end Cursor

-- ================================================================== the forces

/-- A slot in the team of a force, if its colour is in it. -/
def SlotInfo.join (s : SlotInfo) (holds : UInt8 → Bool) (team : Nat) : SlotInfo :=
  if holds s.colour then { s with team := team.toUInt8 } else s

/-- Joining a force changes no colour. -/
@[simp] theorem SlotInfo.join_colour (s : SlotInfo) (holds : UInt8 → Bool) (team : Nat) :
    (s.join holds team).colour = s.colour := by
  unfold SlotInfo.join
  split <;> rfl

/-- Who joins depends on the colour. -/
theorem SlotInfo.join_congr {s : SlotInfo} {p q : UInt8 → Bool} (h : p s.colour = q s.colour)
    (team : Nat) : s.join p team = s.join q team := by
  unfold SlotInfo.join
  rw [h]

/-- A slot of the force joins. -/
theorem SlotInfo.join_of {s : SlotInfo} {p : UInt8 → Bool} (h : p s.colour = true) (team : Nat) :
    s.join p team = { s with team := team.toUInt8 } := if_pos h

/-- Another one does not. -/
theorem SlotInfo.join_not {s : SlotInfo} {p : UInt8 → Bool} (h : p s.colour = false) (team : Nat) :
    s.join p team = s := if_neg (Bool.eq_false_iff.1 h)

/-- The bit of a colour in a mask. -/
theorem mask_bit (mask : UInt32) {j : Nat} (hj : j < 24) :
    (mask &&& ((1 : UInt32) <<< UInt32.ofNat j) != 0) = mask.toNat.testBit j := by
  have hshift : ((1 : UInt32) <<< UInt32.ofNat j).toNat = 2 ^ j := by
    have hpow : 2 ^ j < 2 ^ 32 := Nat.pow_lt_pow_right (by omega) (by omega)
    rw [UInt32.toNat_shiftLeft, UInt32.toNat_ofNat', Nat.mod_eq_of_lt (by omega : j < 2 ^ 32),
      Nat.mod_eq_of_lt (by omega : j < 32)]
    show 1 <<< j % 2 ^ 32 = 2 ^ j
    rw [Nat.one_shiftLeft, Nat.mod_eq_of_lt hpow]
  rw [Bool.eq_iff_iff, bne_iff_ne, ne_eq, ← UInt32.toNat_inj, UInt32.toNat_and, hshift,
    Nat.and_two_pow]
  show ¬_ = 0 ↔ _
  cases mask.toNat.testBit j with
  | false => simp
  | true => simp

/-- One colour after the other is all of them at once. -/
theorem joinForce_eq (mask : UInt32) (team : Nat) (slots : List SlotInfo) :
    W3iInfo.joinForce mask team slots = slots.map fun s => s.join (inMask mask) team := by
  have hgo : ∀ n ≤ 24, (List.range n).foldl (fun slots j =>
      if mask &&& ((1 : UInt32) <<< UInt32.ofNat j) != 0 then
        slots.map fun slot => if slot.colour = j.toUInt8 then { slot with team := team.toUInt8 }
          else slot
      else slots) slots
      = slots.map fun s => s.join (fun c => decide (c.toNat < n) && inMask mask c) team := by
    intro n
    induction n with
    | zero =>
        intro _
        refine (List.map_id' slots).symm.trans (List.map_congr_left fun s _ => ?_)
        exact (SlotInfo.join_not (by simp) team).symm
    | succ n ih =>
        intro hn
        rw [List.range_succ, List.foldl_append, ih (by omega), List.foldl_cons, List.foldl_nil,
          mask_bit _ hn]
        have hcolour : ∀ c : UInt8, c = n.toUInt8 ↔ c.toNat = n := by
          intro c
          rw [← UInt8.toNat_inj]
          show c.toNat = n % 2 ^ 8 ↔ _
          rw [Nat.mod_eq_of_lt (by omega)]
        have hholds : ∀ s : SlotInfo, s.colour.toNat = n →
            inMask mask s.colour = mask.toNat.testBit n := by
          intro s hs
          unfold inMask
          rw [hs, decide_eq_true (by omega : n < 24), Bool.true_and]
        -- the other colours are where they were
        have hother : ∀ s : SlotInfo, s.colour.toNat ≠ n →
            (decide (s.colour.toNat < n) && inMask mask s.colour)
              = (decide (s.colour.toNat < n + 1) && inMask mask s.colour) := by
          intro s hs
          have hlt : s.colour.toNat < n + 1 ↔ s.colour.toNat < n := by omega
          simp only [hlt]
        cases hbit : mask.toNat.testBit n with
        | true =>
            rw [if_pos rfl, List.map_map]
            refine List.map_congr_left fun s _ => ?_
            show (if (s.join _ team).colour = n.toUInt8 then _ else _) = _
            simp only [SlotInfo.join_colour, hcolour]
            by_cases hs : s.colour.toNat = n
            · rw [if_pos hs, SlotInfo.join_not (by simp [hs]),
                SlotInfo.join_of (by simp [hholds s hs, hbit, hs])]
            · rw [if_neg hs]
              exact SlotInfo.join_congr (hother s hs) team
        | false =>
            rw [if_neg Bool.false_ne_true]
            refine List.map_congr_left fun s _ => SlotInfo.join_congr ?_ team
            by_cases hs : s.colour.toNat = n
            · rw [hholds s hs, hbit, Bool.and_false, Bool.and_false]
            · exact hother s hs
  unfold W3iInfo.joinForce
  rw [hgo 24 (Nat.le_refl 24)]
  refine List.map_congr_left fun s _ => ?_
  have hsame : (fun c : UInt8 => decide (c.toNat < 24) && inMask mask c) = inMask mask := by
    funext c
    unfold inMask
    rw [← Bool.and_assoc, Bool.and_self]
  rw [hsame]

/-- The forces one after the other: the last one that holds a colour
has it. -/
theorem foldl_joinForce (forces : List W3iForce) (slots : List SlotInfo) :
    forces.zipIdx.foldl (fun slots e => W3iInfo.joinForce e.1.mask e.2 slots) slots
      = slots.map fun s => { s with
          team := (((forces.zipIdx.reverse.find? fun e => e.1.holds s.colour).map
            Prod.snd).map Nat.toUInt8).getD s.team } := by
  induction forces using List.reverseRecOn with
  | nil => exact (List.map_id' slots).symm
  | append_singleton forces force ih =>
      rw [List.zipIdx_append, List.foldl_append, ih, List.zipIdx_singleton, List.foldl_cons,
        List.foldl_nil, joinForce_eq, List.map_map, List.reverse_append, List.reverse_singleton,
        List.singleton_append]
      refine List.map_congr_left fun s _ => ?_
      show SlotInfo.join _ force.holds _ = _
      unfold SlotInfo.join
      rw [List.find?_cons]
      cases hholds : force.holds s.colour with
      | true => rfl
      | false => rfl

/-- The loop over the forces. -/
theorem foldl_readForce (forces : List W3iForce) (start : Nat) (x : UInt32)
    (rest : List UInt8) (slots : List SlotInfo) :
    ((List.range' start forces.length).foldl W3iInfo.readForce
      (⟨forces.flatMap W3iForce.encode ++ rest, x⟩, slots)).2
      = (forces.zipIdx start).foldl (fun slots e => W3iInfo.joinForce e.1.mask e.2 slots)
        slots := by
  induction forces generalizing start x slots with
  | nil => rfl
  | cons force forces ih =>
      have hread : W3iInfo.readForce
          (⟨(force :: forces).flatMap W3iForce.encode ++ rest, x⟩, slots) start
            = (⟨forces.flatMap W3iForce.encode ++ rest, force.mask⟩,
              W3iInfo.joinForce force.mask start slots) := by
        unfold W3iInfo.readForce W3iForce.encode
        simp only [List.flatMap_cons, List.append_assoc, readWord_append, skipCString_append]
      rw [List.length_cons, List.range'_succ, List.foldl_cons, hread, List.zipIdx_cons,
        List.foldl_cons]
      exact ih (start + 1) _ _

-- ================================================================= the players

/-- The slot is kept if the player has one. -/
theorem seated_iff (p : W3iPlayer) (i : Nat) :
    (W3iInfo.slotOf i p.colour p.status p.race).slotStatus ≠ slotClosed ↔ p.seated = true := by
  unfold W3iInfo.slotOf W3iPlayer.seated
  rw [Bool.or_eq_true, beq_iff_eq, beq_iff_eq]
  dsimp only
  by_cases hopen : p.status = 1
  · rw [hopen]
    decide
  · by_cases htaken : p.status = 2
    · rw [htaken]
      decide
    · rw [if_neg htaken, if_neg hopen]
      simp [hopen, htaken]

/-- The loop over the players. -/
theorem foldl_readPlayer (players : List W3iPlayer) (start : Nat) (x : UInt32)
    (rest : List UInt8) (slots : List SlotInfo) :
    ∃ y, (List.range' start players.length).foldl W3iInfo.readPlayer
      (⟨players.flatMap W3iPlayer.encode ++ rest, x⟩, slots)
      = (⟨rest, y⟩, slots ++ ((players.zipIdx start).filter fun e => e.1.seated).map
        fun e => W3iInfo.slotOf e.2 e.1.colour e.1.status e.1.race) := by
  induction players generalizing start x slots with
  | nil => exact ⟨x, by rw [List.zipIdx_nil, List.filter_nil, List.map_nil, List.append_nil]; rfl⟩
  | cons p players ih =>
      have hread : W3iInfo.readPlayer
          (⟨(p :: players).flatMap W3iPlayer.encode ++ rest, x⟩, slots) start
            = (⟨players.flatMap W3iPlayer.encode ++ rest, p.race⟩,
              if p.seated then slots ++ [W3iInfo.slotOf start p.colour p.status p.race]
              else slots) := by
        unfold W3iInfo.readPlayer W3iPlayer.encode
        simp only [List.flatMap_cons, List.append_assoc, readWord_append, skipCString_append,
          seek_append, seated_iff]
      rw [List.length_cons, List.range'_succ, List.foldl_cons, hread, List.zipIdx_cons]
      obtain ⟨y, hy⟩ := ih (start + 1) p.race
        (if p.seated then slots ++ [W3iInfo.slotOf start p.colour p.status p.race] else slots)
      refine ⟨y, hy.trans ?_⟩
      cases hseated : p.seated with
      | true =>
          rw [if_pos rfl, List.filter_cons_of_pos (by exact hseated), List.map_cons,
            List.append_assoc]
          rfl
      | false => rw [if_neg Bool.false_ne_true, List.filter_cons_of_neg (by simp [hseated])]

-- ================================================================== the header

namespace W3iFile

variable (f : W3iFile) (rest : List UInt8)

/-- The forces are read off. -/
theorem readForces_append (x : UInt32) (w : W3iInfo) :
    W3iInfo.readForces ⟨wordBytes (UInt32.ofNat f.forces.length)
        ++ (f.forces.flatMap W3iForce.encode ++ rest), x⟩ w
      = { w with
          numTeams := (min f.forces.length 12).toUInt8
          slots := w.slots.map fun s => { s with
            team := ((f.teamOf s.colour).map Nat.toUInt8).getD s.team } } := by
  have hcount : (UInt32.ofNat f.forces.length).toNat = f.forces.length := by
    rw [UInt32.toNat_ofNat', Nat.mod_eq_of_lt f.countable]
  have hsplit : f.forces.flatMap W3iForce.encode = (f.forces.take 12).flatMap W3iForce.encode
      ++ (f.forces.drop 12).flatMap W3iForce.encode := by
    rw [← List.flatMap_append, List.take_append_drop]
  have hloop := foldl_readForce (f.forces.take 12) 0 (UInt32.ofNat f.forces.length)
    ((f.forces.drop 12).flatMap W3iForce.encode ++ rest) w.slots
  rw [List.length_take, Nat.min_comm, ← List.range_eq_range', foldl_joinForce] at hloop
  unfold W3iInfo.readForces
  simp only [readWord_append, if_true, hcount]
  rw [hsplit, List.append_assoc, hloop]
  rfl

/-- The players are, and then the forces. -/
theorem readPlayers_append (x : UInt32) (w : W3iInfo) (hw : w.slots = []) :
    W3iInfo.readPlayers ⟨f.encodeTables ++ rest, x⟩ w
      = { w with
          numTeams := (min f.forces.length 12).toUInt8
          slots := (f.players.zipIdx.filter fun e => e.1.seated).map fun e =>
            f.slotOf e.1 e.2 } := by
  have hcount : min (UInt32.ofNat f.players.length).toNat 24 = f.players.length := by
    have hfew := f.few
    rw [UInt32.toNat_ofNat']
    omega
  obtain ⟨y, hloop⟩ := foldl_readPlayer f.players 0 (UInt32.ofNat f.players.length)
    (wordBytes (UInt32.ofNat f.forces.length) ++ (f.forces.flatMap W3iForce.encode ++ rest)) []
  rw [← List.range_eq_range'] at hloop
  unfold W3iInfo.readPlayers encodeTables
  simp only [List.append_assoc, readWord_append, if_true, hcount, hw, hloop, List.nil_append,
    readForces_append, List.map_map]
  rfl

/-- Everything from the size of the map on is. -/
theorem readSettings_append (x : UInt32) (w : W3iInfo) (hw : w.slots = []) :
    W3iInfo.readSettings f.formatWord ⟨f.encodeSettings ++ rest, x⟩ w
      = { f.info with editorVersion := w.editorVersion } := by
  have htileset : ∀ (c : List UInt8) (y : UInt32),
      ((Cursor.mk (f.tileset.1 ++ c) y).seek 1).seek 4 = ⟨c, y⟩ := by
    intro c y
    have hseek : (Cursor.mk (f.tileset.1 ++ c) y).seek 5 = ⟨c, y⟩ := seek_append f.tileset
    unfold Cursor.seek at hseek ⊢
    rw [List.drop_drop]
    exact hseek
  unfold W3iInfo.readSettings encodeSettings only25 formatWord
  cases hformat : f.format25 with
  | true =>
      simp only [if_true, List.append_assoc, readWord_append, htileset, skipCString_append,
        skipCStrings_three, seek_append]
      exact readPlayers_append f rest _ _ hw
  | false =>
      simp only [Bool.false_eq_true, if_false, show ¬(18 : UInt32) = 25 by decide,
        List.append_assoc, List.nil_append, readWord_append, htileset, skipCStrings_three,
        seek_append]
      exact readPlayers_append f rest _ _ hw

end W3iFile

/-- What a header says is what the loader reads from it, in either
format and whatever follows it. -/
theorem w3i_read_encode (f : W3iFile) (rest : List UInt8) :
    W3iInfo.read (f.encode ++ rest) = f.info := by
  have hformat : f.formatWord = 18 ∨ f.formatWord = 25 := by
    unfold W3iFile.formatWord
    cases f.format25
    · exact .inl rfl
    · exact .inr rfl
  unfold W3iInfo.read W3iFile.encode
  simp only [List.append_assoc, readWord_append, hformat, and_self, if_true, seek_append]
  have htexts : ∀ (c : List UInt8) (y : UInt32), Cursor.skipCStrings
      ⟨f.title.encode ++ (f.author.encode ++ (f.description.encode ++ (f.recommended.encode
        ++ c))), y⟩ 4 = ⟨c, y⟩ := by
    intro c y
    show ((((Cursor.mk _ y).skipCString).skipCString).skipCString).skipCString = _
    rw [skipCString_append, skipCString_append, skipCString_append, skipCString_append]
  rw [htexts, seek_append, W3iFile.readSettings_append _ _ _ _ rfl]
  rfl

end Spectre

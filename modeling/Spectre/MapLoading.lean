/-
What a loaded map is good for.

Whatever stands in the file, the slots of a loaded map have nobody in
them, are open or have a computer, and belong to a team: what the header
says of colours, races and forces is cut down to that before a slot is
made. The rest of what the engine reads is in range because
`check_valid` refuses the map otherwise (`loaded_map_sound`).

The checksum of the map changes with every change to a single byte of
the files it is made of (`map_crc_detects`).
-/
import Spectre.W3i

namespace Spectre

-- ================================================================== statements

/-- A slot as the loader makes one. -/
structure SlotInfo.Unseated (s : SlotInfo) : Prop where
  pid : s.pid = 0
  downloadStatus : s.downloadStatus = 255
  computerType : s.computerType = 1
  handicap : s.handicap = 100
  status : s.slotStatus = slotOpen ∧ s.computer = 0 ∨ s.slotStatus = slotOccupied ∧ s.computer = 1
  team : s.team.toNat ≤ 24
  race : s.race &&& 0xBF ∈ [(0x01 : UInt8), 0x02, 0x04, 0x08, 0x20]

/-- `observers`. -/
def MapInfo.observers (m : MapInfo) : UInt8 :=
  if m.flags &&& 0x40000000 != 0 then mapobsReferees
  else if m.flags &&& 0x3000 == 0x3000 then mapobsAllowed
  else if m.flags &&& 0x2000 != 0 then mapobsOndefeat
  else mapobsNone

/-- A setting for observers as the flags keep it. -/
def keptObservers (observers : UInt8) : UInt8 :=
  if observers = mapobsOndefeat ∨ observers = mapobsAllowed ∨ observers = mapobsReferees
    then observers else mapobsNone

/-- What the engine may rely on in a map that was loaded with an
override. -/
structure ParsedMap.Sound (mapData : List UInt8) (ovr : MapOverride) (m : ParsedMap) : Prop where
  /-- the slots -/
  slots : ∀ s ∈ m.slots, s.Unseated
  inhabited : m.slots ≠ []
  few : m.slots.length ≤ max 24 ((ovr.maxSlots.map UInt32.toNat).getD 24)
  players : ovr.numPlayers = none → m.info.numPlayers.toNat = m.slots.length % 256
  /-- the layout, twice -/
  layout : m.layoutStyle = 0 ∨ m.layoutStyle = 1 ∨ m.layoutStyle = 3
  sameLayout : m.info.layoutStyle = m.layoutStyle
  forces : m.layoutStyle ≠ 0 ↔ m.info.hasCustomForces = true
  /-- the size -/
  width : 0 < m.info.width ∧ m.info.width < 65536
  height : 0 < m.info.height ∧ m.info.height < 65536
  path : 0 < m.info.path.length ∧ m.info.path.length ≤ 53
  size : m.info.size.toNat = mapData.length % 2 ^ 32
  data : m.info.data = some mapData
  /-- what is read back from the flags -/
  observers : m.info.observers = keptObservers (ovr.observers.getD mapobsNone)
  randomRaces : m.info.hasRandomRaces
    = (ovr.flags.getD (mapflagTeamstogether ||| mapflagFixedteams) &&& mapflagRandomraces != 0)

/-- Two files of one length that differ within one word of four bytes,
or in one of the bytes behind the last word. -/
inductive OneChange : List UInt8 → List UInt8 → Prop where
  | word (u w w' v : List UInt8) (hu : 4 ∣ u.length) (hw : w.length = 4) (hw' : w'.length = 4)
      (hne : w ≠ w') : OneChange (u ++ (w ++ v)) (u ++ (w' ++ v))
  | tail (u p q : List UInt8) (b b' : UInt8) (hu : 4 ∣ u.length) (hfew : p.length + q.length < 3)
      (hne : b ≠ b') : OneChange (u ++ (p ++ b :: q)) (u ++ (p ++ b' :: q))

-- ======================================================================= slots

namespace SlotInfo.Unseated

variable {s : SlotInfo}

/-- A slot in another team. -/
theorem withTeam (h : s.Unseated) {team : UInt8} (ht : team.toNat ≤ 24) :
    SlotInfo.Unseated { s with team } := { h with team := ht }

/-- A slot with another race. -/
theorem withRace (h : s.Unseated) {race : UInt8}
    (hr : race &&& 0xBF ∈ [(0x01 : UInt8), 0x02, 0x04, 0x08, 0x20]) :
    SlotInfo.Unseated { s with race } := { h with race := hr }

/-- A slot that joins a force. -/
theorem join (h : s.Unseated) (holds : UInt8 → Bool) {team : Nat} (ht : team < 24) :
    (s.join holds team).Unseated := by
  unfold SlotInfo.join
  split
  · refine h.withTeam ?_
    show team % 2 ^ 8 ≤ 24
    omega
  · exact h

end SlotInfo.Unseated

/-- A table of such slots, with so many at most. -/
structure UnseatedSlots (n : Nat) (slots : List SlotInfo) : Prop where
  all : ∀ s ∈ slots, s.Unseated
  length : slots.length ≤ n

namespace UnseatedSlots

variable {n : Nat} {slots : List SlotInfo}

/-- A change of every slot. -/
theorem map (h : UnseatedSlots n slots) {f : SlotInfo → SlotInfo}
    (hf : ∀ s, s.Unseated → (f s).Unseated) : UnseatedSlots n (slots.map f) where
  all := by
    intro s hs
    obtain ⟨a, ha, rfl⟩ := List.mem_map.1 hs
    exact hf a (h.all a ha)
  length := (List.length_map f).trans_le h.length

/-- One slot more. -/
theorem snoc (h : UnseatedSlots n slots) {s : SlotInfo} (hs : s.Unseated) :
    UnseatedSlots (n + 1) (slots ++ [s]) where
  all := by
    intro a ha
    rcases List.mem_append.1 ha with ha | ha
    · exact h.all a ha
    · exact List.mem_singleton.1 ha ▸ hs
  length := by
    rw [List.length_append, List.length_singleton]
    exact Nat.succ_le_succ h.length

/-- Room for more. -/
theorem mono {m : Nat} (h : UnseatedSlots n slots) (hle : n ≤ m) : UnseatedSlots m slots :=
  ⟨h.all, h.length.trans hle⟩

end UnseatedSlots

/-- The slot of a player that is not closed. -/
theorem unseated_slotOf {i : Nat} (hi : i < 24) (colour status race : UInt32)
    (hopen : (W3iInfo.slotOf i colour status race).slotStatus ≠ slotClosed) :
    (W3iInfo.slotOf i colour status race).Unseated where
  pid := rfl
  downloadStatus := rfl
  computerType := rfl
  handicap := rfl
  status := by
    unfold W3iInfo.slotOf at hopen ⊢
    dsimp only at hopen ⊢
    by_cases htaken : status = 2
    · rw [if_pos htaken, if_pos htaken]
      exact .inr ⟨rfl, rfl⟩
    · rw [if_neg htaken] at hopen ⊢
      rw [if_neg htaken]
      by_cases hfree : status = 1
      · rw [if_pos hfree]
        exact .inl ⟨rfl, rfl⟩
      · rw [if_neg hfree] at hopen
        exact absurd rfl hopen
  team := by
    show i / 6 % 2 ^ 8 ≤ 24
    omega
  race := by
    show W3iInfo.raceOf race &&& 0xBF ∈ _
    unfold W3iInfo.raceOf
    repeat' split
    all_goals decide

/-- The loop over the players. -/
theorem unseated_readPlayers (l : List Nat) (hl : ∀ i ∈ l, i < 24) {n : Nat}
    {r : Cursor × List SlotInfo} (h : UnseatedSlots n r.2) :
    UnseatedSlots (n + l.length) (l.foldl W3iInfo.readPlayer r).2 := by
  induction l generalizing n r with
  | nil => exact h
  | cons i l ih =>
      rw [List.foldl_cons, List.length_cons, Nat.add_comm l.length, ← Nat.add_assoc]
      refine ih (fun j hj => hl j (List.mem_cons_of_mem _ hj)) ?_
      unfold W3iInfo.readPlayer
      dsimp only
      split
      · rename_i hopen
        exact h.snoc (unseated_slotOf (hl i List.mem_cons_self) _ _ _ hopen)
      · exact h.mono (Nat.le_succ n)

/-- The loop over the forces. -/
theorem unseated_readForces (l : List Nat) (hl : ∀ i ∈ l, i < 24) {n : Nat}
    {r : Cursor × List SlotInfo} (h : UnseatedSlots n r.2) :
    UnseatedSlots n (l.foldl W3iInfo.readForce r).2 := by
  induction l generalizing r with
  | nil => exact h
  | cons team l ih =>
      refine ih (fun j hj => hl j (List.mem_cons_of_mem _ hj)) ?_
      unfold W3iInfo.readForce
      dsimp only
      rw [joinForce_eq]
      exact h.map fun s hs => hs.join _ (hl team List.mem_cons_self)

/-- The slots of a header, whatever it is. -/
theorem unseated_read (buf : List UInt8) : UnseatedSlots 24 (W3iInfo.read buf).slots := by
  have hnone : UnseatedSlots 24 ([] : List SlotInfo) := ⟨fun s hs => (nomatch hs), Nat.zero_le 24⟩
  -- forces only change the team of slots that are there
  have hforces : ∀ (c : Cursor) (w : W3iInfo), UnseatedSlots 24 w.slots →
      UnseatedSlots 24 (W3iInfo.readForces c w).slots := by
    intro c w hw
    unfold W3iInfo.readForces
    split
    · refine unseated_readForces _ (fun i hi => ?_) hw
      exact Nat.lt_of_lt_of_le (List.mem_range.1 hi) ((Nat.min_le_right _ _).trans (by decide))
    · exact hw
  -- a player entry makes one slot at most, and at most twenty-four are read
  have hplayers : ∀ (c : Cursor) (w : W3iInfo), w.slots = [] →
      UnseatedSlots 24 (W3iInfo.readPlayers c w).slots := by
    intro c w hw
    unfold W3iInfo.readPlayers
    dsimp only
    split
    · refine hforces _ _ ?_
      have hempty : UnseatedSlots 0 (c.readWord.1, w.slots).2 := by
        rw [hw]
        exact ⟨fun s hs => (nomatch hs), Nat.le_refl 0⟩
      have hall := unseated_readPlayers (List.range (min c.readWord.1.word.toNat 24))
        (fun i hi => Nat.lt_of_lt_of_le (List.mem_range.1 hi) (Nat.min_le_right _ _)) hempty
      rw [List.length_range, Nat.zero_add] at hall
      exact hall.mono (Nat.min_le_right _ _)
    · rw [hw]
      exact hnone
  have hsettings : ∀ (fileFormat : UInt32) (c : Cursor) (w : W3iInfo), w.slots = [] →
      UnseatedSlots 24 (W3iInfo.readSettings fileFormat c w).slots := by
    intro fileFormat c w hw
    exact hplayers _ _ hw
  unfold W3iInfo.read
  dsimp only
  split
  · refine hsettings _ _ _ ?_
    split <;> rfl
  · exact hnone

/-- The slots of a map that names none. -/
theorem unseated_defaultSlots : UnseatedSlots 24 defaultSlots := by
  refine ⟨fun s hs => ?_, by decide⟩
  obtain ⟨i, hi, rfl⟩ := List.mem_map.1 hs
  have hlt : i < 12 := List.mem_range.1 hi
  refine ⟨rfl, rfl, rfl, rfl, .inl ⟨rfl, rfl⟩, ?_, ?_⟩
  · show i / 6 % 2 ^ 8 ≤ 24
    omega
  · show (0x20 : UInt8) &&& 0xBF ∈ _
    decide

/-- The slots of a map before it is overridden. -/
theorem unseated_header (files : MapFiles) :
    UnseatedSlots 24 (w3iOf files).orDefault.slots ∧ (w3iOf files).orDefault.slots ≠ [] := by
  have hread : UnseatedSlots 24 (w3iOf files).slots := by
    have hnone : UnseatedSlots 24 W3iInfo.start.slots :=
      ⟨fun s hs => (nomatch hs), Nat.zero_le 24⟩
    unfold w3iOf
    split
    · split
      · exact unseated_read _
      · exact hnone
    · exact hnone
  unfold W3iInfo.orDefault
  split
  · exact ⟨unseated_defaultSlots, show defaultSlots ≠ [] by decide⟩
  · rename_i hsome
    exact ⟨hread, hsome⟩

/-- The bit for a race that may be chosen is none of the race's. -/
theorem race_or (r : UInt8) : (r ||| 0x40) &&& 0xBF = r &&& 0xBF := by
  have hsplit : (r ||| 0x40) &&& 0xBF = (r &&& 0xBF) ||| (0x40 &&& 0xBF) :=
    UInt8.toBitVec_inj.1 BitVec.and_or_distrib_right
  rw [hsplit]
  exact UInt8.or_zero

/-- The slots the options of the header ask for. -/
theorem unseated_arranged {w : W3iInfo} (h : UnseatedSlots 24 w.slots) :
    UnseatedSlots 24 w.arranged := by
  have hmelee : UnseatedSlots 24 (applyMeleeSlotInit w.slots) := by
    unfold applyMeleeSlotInit
    refine ⟨fun s hs => ?_, (List.length_mapIdx).trans_le h.length⟩
    obtain ⟨i, hi, rfl⟩ := List.mem_mapIdx.1 hs
    have hlt := h.length
    have hteam : i.toUInt8.toNat ≤ 24 := by
      show i % 2 ^ 8 ≤ 24
      omega
    exact ((h.all _ (List.getElem_mem hi)).withTeam hteam).withRace (by decide)
  have hslots : UnseatedSlots 24
      (if w.mapOptions &&& mapoptMelee != 0 then applyMeleeSlotInit w.slots else w.slots) := by
    split
    · exact hmelee
    · exact h
  unfold W3iInfo.arranged
  dsimp only
  split
  · exact hslots.map fun s hs => hs.withRace (by rw [race_or]; exact hs.race)
  · exact hslots

/-- Races are drawn for those who may choose. -/
theorem unseated_randomRaces {n : Nat} {slots : List SlotInfo} (h : UnseatedSlots n slots)
    (mapFlags : UInt8) : UnseatedSlots n (applyRandomRacesForce slots mapFlags) := by
  unfold applyRandomRacesForce
  split
  · exact h.map fun s hs => hs.withRace (by decide)
  · exact h

/-- Observers behind the players, up to the limit. -/
theorem unseated_observers {slots : List SlotInfo} (h : UnseatedSlots 24 slots)
    (observers : UInt8) (editorVersion : UInt32) (customMaxSlots : Option UInt32) :
    UnseatedSlots (max 24 ((customMaxSlots.map UInt32.toNat).getD 24))
      (addObserverSlots slots observers editorVersion customMaxSlots) := by
  unfold addObserverSlots
  split
  · refine ⟨fun s hs => ?_, ?_⟩
    · rcases List.mem_append.1 hs with hs | hs
      · exact h.all s hs
      · rw [List.eq_of_mem_replicate hs]
        exact ⟨rfl, rfl, rfl, rfl, .inl ⟨rfl, rfl⟩, by decide, by decide⟩
    · have hlength := h.length
      have hmax : ((customMaxSlots.map UInt32.toNat).getD (if editorVersion < 6060 then 12 else 24))
          ≤ max 24 ((customMaxSlots.map UInt32.toNat).getD 24) := by
        cases customMaxSlots with
        | none =>
            show (if editorVersion < 6060 then 12 else 24) ≤ max 24 24
            split <;> decide
        | some n => exact Nat.le_max_right _ _
      rw [List.length_append, List.length_replicate]
      omega
  · exact h.mono (Nat.le_max_left _ _)

-- ======================================================================= flags

/-- A mask of two parts. -/
theorem or_and_words (x y z : UInt32) : (x ||| y) &&& z = (x &&& z) ||| (y &&& z) :=
  UInt32.toBitVec_inj.1 BitVec.and_or_distrib_right

/-- A mask of bits that are set or not. -/
theorem bitsIf_and (c : Bool) (bits mask : UInt32) :
    bitsIf c bits &&& mask = bitsIf c (bits &&& mask) := by
  unfold bitsIf
  split
  · rfl
  · exact UInt32.zero_and

/-- No bits. -/
theorem bitsIf_zero (c : Bool) : bitsIf c 0 = 0 := by
  cases c <;> rfl

/-- The bits for observers are nobody else's. -/
theorem flags_observers {mask : UInt32} (hmask : mask ∈ [(0x40000000 : UInt32), 0x3000, 0x2000])
    (speed visibility observers mapFlags : UInt8) :
    calculateGameFlags speed visibility observers mapFlags &&& mask
      = observersBits observers &&& mask := by
  have hall : [(0 : UInt32), 1, 2, 0x100, 0x200, 0x400, 0x800, 0x4000, 0x60000,
      0x1000000, 0x2000000, 0x4000000].all (fun bits => bits &&& mask == 0) = true := by
    rcases List.mem_cons.1 hmask with rfl | hmask
    · decide +kernel
    rcases List.mem_cons.1 hmask with rfl | hmask
    · decide +kernel
    obtain rfl := List.mem_singleton.1 hmask
    decide +kernel
  have hclear : ∀ bits ∈ [(0 : UInt32), 1, 2, 0x100, 0x200, 0x400, 0x800, 0x4000, 0x60000,
      0x1000000, 0x2000000, 0x4000000], bits &&& mask = 0 := fun bits hbits =>
    eq_of_beq (List.all_eq_true.1 hall bits hbits)
  have hspeed : speedBits speed &&& mask = 0 := by
    unfold speedBits
    repeat' split
    all_goals exact hclear _ (by decide)
  have hvisibility : visibilityBits visibility &&& mask = 0 := by
    unfold visibilityBits
    repeat' split
    all_goals exact hclear _ (by decide)
  have hbits : ∀ c, ∀ bits ∈ [(0x4000 : UInt32), 0x60000, 0x1000000, 0x2000000, 0x4000000],
      bitsIf c bits &&& mask = 0 := by
    intro c bits hbits
    rw [bitsIf_and, hclear bits (List.mem_of_mem_drop (i := 7) hbits), bitsIf_zero]
  unfold calculateGameFlags
  simp only [or_and_words, hspeed, hvisibility, UInt32.zero_or]
  rw [hbits _ 0x4000 (by decide), hbits _ 0x60000 (by decide), hbits _ 0x1000000 (by decide),
    hbits _ 0x2000000 (by decide), hbits _ 0x4000000 (by decide)]
  simp only [UInt32.or_zero]

/-- The bit for random races is nobody else's. -/
theorem flags_randomRaces (speed visibility observers mapFlags : UInt8) :
    calculateGameFlags speed visibility observers mapFlags &&& 0x4000000
      = bitsIf (mapFlags &&& mapflagRandomraces != 0) 0x4000000 := by
  have hspeed : speedBits speed &&& 0x4000000 = 0 := by
    unfold speedBits
    repeat' split
    all_goals decide
  have hvisibility : visibilityBits visibility &&& 0x4000000 = 0 := by
    unfold visibilityBits
    repeat' split
    all_goals decide
  have hobservers : observersBits observers &&& 0x4000000 = 0 := by
    unfold observersBits
    repeat' split
    all_goals decide
  unfold calculateGameFlags
  simp only [or_and_words, hspeed, hvisibility, hobservers, bitsIf_and, UInt32.zero_or]
  rw [show (0x4000 : UInt32) &&& 0x4000000 = 0 by decide,
    show (0x60000 : UInt32) &&& 0x4000000 = 0 by decide,
    show (0x1000000 : UInt32) &&& 0x4000000 = 0 by decide,
    show (0x2000000 : UInt32) &&& 0x4000000 = 0 by decide,
    show (0x4000000 : UInt32) &&& 0x4000000 = 0x4000000 by decide]
  simp only [bitsIf_zero, UInt32.zero_or]

/-- The setting for observers is read back. -/
theorem observers_read (m : MapInfo) {speed visibility observers mapFlags : UInt8}
    (hflags : m.flags = calculateGameFlags speed visibility observers mapFlags) :
    m.observers = keptObservers observers := by
  unfold MapInfo.observers
  rw [hflags, flags_observers (by decide), flags_observers (by decide),
    flags_observers (by decide)]
  unfold keptObservers observersBits
  by_cases hdefeat : observers = mapobsOndefeat
  · rw [if_pos hdefeat, hdefeat]
    decide
  by_cases hallowed : observers = mapobsAllowed
  · rw [if_neg hdefeat, if_pos hallowed, hallowed]
    decide
  by_cases hreferees : observers = mapobsReferees
  · rw [if_neg hdefeat, if_neg hallowed, if_pos hreferees, hreferees]
    decide
  rw [if_neg hdefeat, if_neg hallowed, if_neg hreferees,
    if_neg (not_or.2 ⟨hdefeat, not_or.2 ⟨hallowed, hreferees⟩⟩)]
  decide

/-- The flag is read back from the flags of the game. -/
theorem randomRaces_read (m : MapInfo) {speed visibility observers mapFlags : UInt8}
    (hflags : m.flags = calculateGameFlags speed visibility observers mapFlags) :
    m.hasRandomRaces = (mapFlags &&& mapflagRandomraces != 0) := by
  unfold MapInfo.hasRandomRaces
  rw [hflags, flags_randomRaces]
  cases mapFlags &&& mapflagRandomraces != 0 <;> rfl

-- ===================================================================== loading

section Loading

open Lib

variable [Mpq.Codecs] [Bnet.Sha1] {fileName : Option Text} {mapData : List UInt8}
variable {commonJ blizzardJ : Option (List UInt8)} {ovr : MapOverride} {m : ParsedMap}

/-- A map that is loaded is what was built of its archive, and valid. -/
theorem load_eq_ok
    (h : ParsedMap.loadMpqWithOverride fileName mapData commonJ blizzardJ ovr = .ok m) :
    ∃ a : Mpq.Archive, Mpq.Archive.fromBytes mapData = .ok a
      ∧ m = buildMap fileName mapData a.mapFiles commonJ blizzardJ ovr
      ∧ m.info.toMapInfo.checkValid = .ok () := by
  unfold ParsedMap.loadMpqWithOverride at h
  cases ha : Mpq.Archive.fromBytes mapData with
  | ok a =>
      rw [ha] at h
      dsimp only at h
      split at h
      · rename_i hvalid
        cases h
        exact ⟨a, rfl, rfl, hvalid⟩
      · cases h
  | err e =>
      rw [ha] at h
      cases h
  | stuck =>
      rw [ha] at h
      cases h

omit [Mpq.Codecs] [Bnet.Sha1] in
/-- What a map that is valid is like. -/
theorem checkValid_eq_ok {i : MapInfo} (h : i.checkValid = .ok ()) :
    (0 < i.path.length ∧ i.path.length ≤ 53) ∧ 0 < i.width ∧ 0 < i.height := by
  unfold MapInfo.checkValid at h
  split at h
  · cases h
  · rename_i hpath
    split at h
    · cases h
    · rename_i hsize
      rw [not_or] at hpath hsize
      exact ⟨⟨List.length_pos_iff.2 hpath.1, Nat.not_lt.1 hpath.2⟩,
        Nat.pos_of_ne_zero hsize.1, Nat.pos_of_ne_zero hsize.2⟩

omit [Mpq.Codecs] [Bnet.Sha1] in
/-- No slot is taken away. -/
theorem addObserverSlots_ne_nil {slots : List SlotInfo} (h : slots ≠ []) (observers : UInt8)
    (editorVersion : UInt32) (customMaxSlots : Option UInt32) :
    addObserverSlots slots observers editorVersion customMaxSlots ≠ [] := by
  unfold addObserverSlots
  split
  · exact List.append_ne_nil_of_left_ne_nil h _
  · exact h

omit [Mpq.Codecs] in
/-- The slots of a map, unless the override has its own. -/
theorem unseated_build (files : MapFiles) (hcustom : ovr.customSlots = none) :
    UnseatedSlots (max 24 ((ovr.maxSlots.map UInt32.toNat).getD 24))
        (buildMap fileName mapData files commonJ blizzardJ ovr).slots
      ∧ (buildMap fileName mapData files commonJ blizzardJ ovr).slots ≠ [] := by
  obtain ⟨hheader, hsome⟩ := unseated_header files
  have harranged : (w3iOf files).orDefault.arranged ≠ [] := by
    rw [← List.length_pos_iff] at hsome ⊢
    unfold W3iInfo.arranged applyMeleeSlotInit
    dsimp only
    split <;> split <;> simpa using hsome
  have hraces : ∀ mapFlags,
      applyRandomRacesForce (w3iOf files).orDefault.arranged mapFlags ≠ [] := by
    intro mapFlags
    rw [← List.length_pos_iff] at harranged ⊢
    unfold applyRandomRacesForce
    split
    · rwa [List.length_map]
    · exact harranged
  unfold buildMap
  dsimp only
  rw [hcustom, Option.getD_none]
  exact ⟨unseated_observers (unseated_randomRaces (unseated_arranged hheader) _) _ _ _,
    addObserverSlots_ne_nil (hraces _) _ _ _⟩

/-- Whatever is in the file and in the override, as long as the override
has no slots of its own: a map that is loaded is sound. -/
theorem loaded_map_sound
    (h : ParsedMap.loadMpqWithOverride fileName mapData commonJ blizzardJ ovr = .ok m)
    (hcustom : ovr.customSlots = none) : m.Sound mapData ovr := by
  obtain ⟨a, -, rfl, hvalid⟩ := load_eq_ok h
  obtain ⟨hpath, hwidth, hheight⟩ := checkValid_eq_ok hvalid
  obtain ⟨hslots, hsome⟩ : UnseatedSlots (max 24 ((ovr.maxSlots.map UInt32.toNat).getD 24))
      (buildMap fileName mapData a.mapFiles commonJ blizzardJ ovr).slots
      ∧ (buildMap fileName mapData a.mapFiles commonJ blizzardJ ovr).slots ≠ [] :=
    unseated_build a.mapFiles hcustom
  exact
    { slots := hslots.all
      inhabited := hsome
      few := hslots.length
      players := by
        intro hnone
        show (ovr.numPlayers.getD _).toNat = _
        rw [hnone]
        rfl
      layout := by
        show layoutStyleOf _ = 0 ∨ layoutStyleOf _ = 1 ∨ layoutStyleOf _ = 3
        unfold layoutStyleOf
        split
        · exact .inl rfl
        · split
          · exact .inr (.inl rfl)
          · exact .inr (.inr rfl)
      sameLayout := rfl
      forces := by
        show layoutStyleOf _ ≠ 0 ↔ (_ &&& mapoptCustomforces != 0) = true
        rw [bne_iff_ne]
        unfold layoutStyleOf
        split
        · rename_i hnone
          exact iff_of_false (fun hne => hne rfl) (fun hne => hne hnone)
        · -- of the two layouts with forces neither is zero
          rename_i hforces
          refine iff_of_true ?_ hforces
          split <;> decide
      width := ⟨hwidth, UInt16.toNat_lt _⟩
      height := ⟨hheight, UInt16.toNat_lt _⟩
      path := hpath
      size := UInt32.toNat_ofNat'
      data := rfl
      observers := observers_read _ rfl
      randomRaces := randomRaces_read _ rfl }

/-- The slots of a loaded map. -/
theorem load_unseated
    (h : ParsedMap.loadMpqWithOverride fileName mapData commonJ blizzardJ ovr = .ok m)
    (hcustom : ovr.customSlots = none) (hmax : ∀ n ∈ ovr.maxSlots, n ≤ 256) :
    UnseatedSlots 256 m.slots := by
  obtain ⟨a, -, rfl, -⟩ := load_eq_ok h
  refine (unseated_build a.mapFiles hcustom).1.mono (Nat.max_le.2 ⟨by decide, ?_⟩)
  cases hn : ovr.maxSlots with
  | none => decide
  | some n => exact UInt32.le_iff_toNat_le.1 (hmax n hn)

end Loading

section Duel

/-- Zeros, for what is passed over. -/
def Skipped.zeros (n : Nat) : Skipped n := ⟨List.replicate n 0, List.length_replicate⟩

/-- No text. -/
def CString.empty : CString := ⟨[], List.not_mem_nil, Nat.zero_le _⟩

/-- The header of a map for two players and a computer, who are in two
forces: the first alone. -/
def duelHeader : W3iFile where
  format25 := false
  saves := .zeros 4
  editorVersion := 0
  title := ⟨[0x61], by decide, by decide⟩
  author := .empty
  description := .empty
  recommended := .empty
  camera := .zeros 48
  width := 64
  height := 64
  flags := mapoptCustomforces
  tileset := .zeros 5
  loadingScreen := .empty
  loadingText := .empty
  loadingTitle := .empty
  loadingSubtitle := .empty
  gameData := .zeros 4
  prologueScreen := .empty
  prologueText := .empty
  prologueTitle := .empty
  prologueSubtitle := .empty
  fog := .zeros 24
  sound := .empty
  light := .zeros 5
  players :=
    [⟨0, 1, 1, .zeros 4, .empty, .zeros 16⟩, ⟨1, 1, 2, .zeros 4, .empty, .zeros 16⟩,
      ⟨2, 2, 4, .zeros 4, .empty, .zeros 16⟩]
  few := by decide
  forces := [⟨0, 1, .empty⟩, ⟨0, 6, .empty⟩]
  countable := by decide

/-- An archive with the header alone, behind its own; then a table of one
name and a table of one block, both encrypted. -/
def duelArchive : List UInt8 :=
  Mpq.idMpqArchive
    ++ [0x20, 0, 0, 0, 0x19, 1, 0, 0, 0, 0, 3, 0, 0xF9, 0, 0, 0, 9, 1, 0, 0, 1, 0, 0, 0, 1, 0, 0, 0]
    ++ duelHeader.encode
    ++ [0x7B, 0x48, 0xD4, 0xB5, 0xC5, 0xAF, 0x80, 0x4A,
      0x46, 0x0C, 0xBF, 0xE2, 0xB1, 0xF7, 0xAF, 0xDE]
    ++ [0xAB, 0x67, 0x48, 0x3D, 0x78, 0xD3, 0x08, 0xCA,
      0x75, 0xBB, 0x35, 0xF8, 0x9B, 0x8E, 0x33, 0xE9]

attribute [local instance] Mpq.refusing Bnet.lengthHash

/-- The map for referees: the three slots of its header, in their forces,
are before those of the observers. -/
theorem loaded_map_sound_duel :
    ∃ m, ParsedMap.loadMpqWithOverride (some (txt "a.w3x")) duelArchive none none
        { MapOverride.default with observers := some mapobsReferees } = .ok m
      ∧ (m.slots.take 4).map (fun s => (s.team, s.colour, s.computer))
        = [(0, 0, 0), (1, 1, 0), (1, 2, 1), (24, 24, 0)]
      ∧ m.Sound duelArchive { MapOverride.default with observers := some mapobsReferees } := by
  have hok : (ParsedMap.loadMpqWithOverride (some (txt "a.w3x")) duelArchive none none
      { MapOverride.default with observers := some mapobsReferees }).value?.map
        (fun m => (m.slots.take 4).map fun s => (s.team, s.colour, s.computer))
      = some [(0, 0, 0), (1, 1, 0), (1, 2, 1), (24, 24, 0)] := by
    decide +kernel
  cases hload : ParsedMap.loadMpqWithOverride (some (txt "a.w3x")) duelArchive none none
      { MapOverride.default with observers := some mapobsReferees } with
  | ok m =>
      rw [hload] at hok
      exact ⟨m, rfl, Option.some.inj hok, loaded_map_sound hload rfl⟩
  | err e =>
      rw [hload] at hok
      cases hok
  | stuck =>
      rw [hload] at hok
      cases hok

end Duel

-- ==================================================================== checksum

section Checksum

open Lib.Rotate

/-- Fewer than four bytes are taken one by one. -/
theorem xorWords_few {l : List UInt8} (h : l.length < 4) : xorWords l = l.map UInt8.toUInt32 := by
  match l with
  | [] | [_] | [_, _] | [_, _, _] => rfl
  | _ :: _ :: _ :: _ :: _ =>
      simp only [List.length_cons] at h
      omega

/-- Words are taken in place. -/
theorem xorWords_append {u : List UInt8} (hu : 4 ∣ u.length) (rest : List UInt8) :
    xorWords (u ++ rest) = xorWords u ++ xorWords rest := by
  obtain ⟨k, hk⟩ := hu
  induction k generalizing u with
  | zero =>
      rw [List.length_eq_zero_iff.1 hk]
      rfl
  | succ k ih =>
      match u with
      | [] | [_] | [_, _] | [_, _, _] => simp at hk <;> omega
      | a :: b :: c :: d :: u =>
          have hlen : u.length = 4 * k := by
            simp only [List.length_cons] at hk
            omega
          show leWord a b c d :: xorWords (u ++ rest) = _
          rw [ih hlen]
          rfl

/-- A word has one way to be written. -/
theorem leWord_inj {a b c d a' b' c' d' : UInt8} (h : leWord a b c d = leWord a' b' c' d') :
    [a, b, c, d] = [a', b', c', d'] := by
  have hvalue := congrArg UInt32.toNat h
  unfold leWord at hvalue
  rw [UInt32.toNat_ofNat', UInt32.toNat_ofNat', Nat.mod_eq_of_lt (word_lt a b c d),
    Nat.mod_eq_of_lt (word_lt a' b' c' d')] at hvalue
  have hbounds := And.intro (And.intro a.toNat_lt b.toNat_lt) (And.intro c.toNat_lt d.toNat_lt)
  have hbounds' := And.intro (And.intro a'.toNat_lt b'.toNat_lt)
    (And.intro c'.toNat_lt d'.toNat_lt)
  have ha : a = a' := UInt8.toNat_inj.1 (by omega)
  have hb : b = b' := UInt8.toNat_inj.1 (by omega)
  have hc : c = c' := UInt8.toNat_inj.1 (by omega)
  have hd : d = d' := UInt8.toNat_inj.1 (by omega)
  rw [ha, hb, hc, hd]

/-- One change is a change in one of the words. -/
theorem OneChange.words {l l' : List UInt8} (h : OneChange l l') :
    ∃ us w v vs, xorWords l = us ++ w :: vs ∧ xorWords l' = us ++ v :: vs ∧ w ≠ v := by
  cases h with
  | word u w w' v hu hw hw' hne =>
      match w, w', hw, hw' with
      | [a, b, c, d], [a', b', c', d'], _, _ =>
          refine ⟨xorWords u, leWord a b c d, leWord a' b' c' d', xorWords v, ?_, ?_, ?_⟩
          · exact xorWords_append hu _
          · exact xorWords_append hu _
          · exact fun heq => hne (leWord_inj heq)
  | tail u p q b b' hu hfew hne =>
      have htail : ∀ b : UInt8, xorWords (u ++ (p ++ b :: q))
          = (xorWords u ++ p.map UInt8.toUInt32) ++ b.toUInt32 :: q.map UInt8.toUInt32 := by
        intro b
        have hlen : (p ++ b :: q).length < 4 := by
          rw [List.length_append, List.length_cons]
          omega
        rw [xorWords_append hu, xorWords_few hlen, List.map_append, List.map_cons,
          List.append_assoc]
      refine ⟨_, b.toUInt32, b'.toUInt32, _, htail b, htail b', fun heq => hne ?_⟩
      exact UInt8.toNat_inj.1 (by simpa using congrArg UInt32.toNat heq)

/-- A change to one byte, wherever it is, is one change. -/
theorem OneChange.byte (p q : List UInt8) {b b' : UInt8} (hne : b ≠ b') :
    OneChange (p ++ b :: q) (p ++ b' :: q) := by
  have hsplit : p = p.take (p.length / 4 * 4) ++ p.drop (p.length / 4 * 4) :=
    (List.take_append_drop _ p).symm
  have hu : 4 ∣ (p.take (p.length / 4 * 4)).length := by
    rw [List.length_take, Nat.min_eq_left (Nat.div_mul_le_self _ _)]
    exact Nat.dvd_mul_left 4 _
  have hrest : (p.drop (p.length / 4 * 4)).length < 4 := by
    rw [List.length_drop]
    omega
  generalize p.take (p.length / 4 * 4) = u at hsplit hu
  generalize p.drop (p.length / 4 * 4) = r at hsplit hrest
  subst hsplit
  rw [List.append_assoc, List.append_assoc]
  by_cases hfew : r.length + q.length < 3
  · exact .tail u r q b b' hu hfew hne
  · -- the byte is in a whole word
    have hword : ∀ b : UInt8, r ++ b :: q = (r ++ b :: q.take (3 - r.length))
        ++ q.drop (3 - r.length) := by
      intro b
      rw [List.append_assoc, List.cons_append, List.take_append_drop]
    have hlen : ∀ b : UInt8, (r ++ b :: q.take (3 - r.length)).length = 4 := by
      intro b
      rw [List.length_append, List.length_cons, List.length_take]
      omega
    rw [hword b, hword b']
    refine .word u _ _ _ hu (hlen b) (hlen b') fun heq => hne ?_
    exact (List.cons.inj (List.append_cancel_left heq)).1

variable {files files' : MapFiles} {commonJ blizzardJ : Option (List UInt8)}

/-- The checksum is that of the words it is made of. -/
theorem mapCrc_eq (files : MapFiles) (commonJ blizzardJ : Option (List UInt8)) :
    mapCrc files commonJ blizzardJ = sum 3 0
      ((((scriptOf files (txt "Scripts\\common.j") commonJ).map xorRotateLeft).getD 0
        ^^^ ((scriptOf files (txt "Scripts\\blizzard.j") blizzardJ).map xorRotateLeft).getD 0)
      :: 0x03F1379E :: (countedFiles files).map xorRotateLeft) := by
  unfold mapCrc
  rw [sum_cons, sum_cons, sum, List.foldl_map]
  unfold step
  rw [UInt32.zero_xor]

/-- Of two maps with the same scripts outside and the same files but for
one, the checksums agree if those of that one file do; and they do not
if it differs in one place. -/
theorem map_crc_detects
    (hcommon : scriptOf files (txt "Scripts\\common.j") commonJ
      = scriptOf files' (txt "Scripts\\common.j") commonJ)
    (hblizzard : scriptOf files (txt "Scripts\\blizzard.j") blizzardJ
      = scriptOf files' (txt "Scripts\\blizzard.j") blizzardJ)
    {pre post : List (List UInt8)} {l l' : List UInt8}
    (hfiles : countedFiles files = pre ++ l :: post)
    (hfiles' : countedFiles files' = pre ++ l' :: post) :
    (mapCrc files commonJ blizzardJ = mapCrc files' commonJ blizzardJ
        ↔ xorRotateLeft l = xorRotateLeft l')
      ∧ (OneChange l l' → mapCrc files commonJ blizzardJ ≠ mapCrc files' commonJ blizzardJ) := by
  have hiff : mapCrc files commonJ blizzardJ = mapCrc files' commonJ blizzardJ
      ↔ xorRotateLeft l = xorRotateLeft l' := by
    rw [mapCrc_eq, mapCrc_eq, hcommon, hblizzard, hfiles, hfiles', List.map_append,
      List.map_append, List.map_cons, List.map_cons]
    exact sum_one_iff (_ :: _ :: pre.map xorRotateLeft)
  refine ⟨hiff, fun hone heq => ?_⟩
  obtain ⟨us, w, v, vs, hl, hl', hne⟩ := hone.words
  have hsame := hiff.1 heq
  unfold xorRotateLeft at hsame
  rw [hl, hl', sum_one_iff] at hsame
  exact hne hsame

/-- A terrain file of five bytes. -/
def terrain (b : UInt8) : MapFiles := fun name =>
  if name = txt "war3map.w3e" then some { size := 5, read := some [1, 2, 3, b, 5] } else none

/-- The fourth byte is a word's last, and counts. -/
theorem map_crc_detects_terrain :
    countedFiles (terrain 4) = [[1, 2, 3, 4, 5]] ∧ countedFiles (terrain 7) = [[1, 2, 3, 7, 5]]
      ∧ mapCrc (terrain 4) none none ≠ mapCrc (terrain 7) none none := by
  have h4 : countedFiles (terrain 4) = [] ++ [1, 2, 3, 4, 5] :: [] := by decide +kernel
  have h7 : countedFiles (terrain 7) = [] ++ [1, 2, 3, 7, 5] :: [] := by decide +kernel
  have hcommon : scriptOf (terrain 4) (txt "Scripts\\common.j") none
      = scriptOf (terrain 7) (txt "Scripts\\common.j") none := by decide +kernel
  have hblizzard : scriptOf (terrain 4) (txt "Scripts\\blizzard.j") none
      = scriptOf (terrain 7) (txt "Scripts\\blizzard.j") none := by decide +kernel
  exact ⟨h4, h7, (map_crc_detects hcommon hblizzard h4 h7).2
    (.byte [1, 2, 3] [5] (by decide : (4 : UInt8) ≠ 7))⟩

end Checksum

end Spectre

/-
Colours of the slots (`slots.rs`, `apply_slot_request`, `!comp…`).

In a Warcraft III lobby no two players have one colour. What players
ask for keeps it so: a colour that is taken is refused, an unoccupied
slot gives its colour in exchange, and an observer who returns gets one
that nobody has. The commands do not look: those for computers set
colour and team as they are told, and a swap on a map with forces moves
the colour of an observer's slot to a player's. Nor does a request see
past the last slot that has the colour, an observer's perhaps.

Most operations are settled by one observation: they move slots about,
or change neither team nor colour. The others write one slot or two, and
keep the colours apart exactly if what they write fits.
-/
import Spectre.Holds
import Spectre.Lib.Keyed

namespace Spectre

open GameState

-- ==================================================================== colours

/-- A player's slot, not an observer's. -/
def SlotInfo.plays (a : SlotInfo) : Bool := a.team.toNat < maxSlots

namespace SlotTable

/-- The slots that are no observers' have distinct colours, all of them
below 24. -/
abbrev ColoursUnique (t : SlotTable) : Prop :=
  Lib.WellKeyed SlotInfo.plays SlotInfo.colour (fun colour => colour.toNat < maxSlots) t

/-- The colour is below 24 and no player's slot has it, save at the
places. -/
abbrev ColourFits (t : SlotTable) (places : List Nat) (colour : UInt8) : Prop :=
  Lib.KeyFits SlotInfo.plays SlotInfo.colour (fun colour => colour.toNat < maxSlots) t places colour

/-- The last slot that has the colour. -/
def lastOfColour (t : SlotTable) (colour : UInt8) : Option Nat :=
  (List.range t.length).reverse.find? fun i =>
    match t[i]? with
    | some s => s.colour == colour
    | none => false

/-- If the teams stay in place, an observer's slot and a player's may
exchange the rest only if the observer's colour fits. -/
def SwapFits (t : SlotTable) (a b : UInt8) (fixed forces : Bool) : Prop :=
  fixed = false → forces = true → a ≠ b → ∀ x ∈ t[a.toNat]?, ∀ y ∈ t[b.toNat]?,
    (x.plays = true → y.plays = false → t.ColourFits [a.toNat, b.toNat] y.colour)
      ∧ (x.plays = false → y.plays = true → t.ColourFits [a.toNat, b.toNat] x.colour)

/-- The exchange of a colour request: the colour fits the player's slot,
and its old one the slot that gives the colour. -/
def RecolourFits (t : SlotTable) (sid colour : UInt8) : Prop :=
  ∀ slot ∈ t[sid.toNat]?, slot.team.toNat ≠ maxSlots → ∀ i ∈ t.lastOfColour colour,
    ∀ other ∈ t[i]?, other.slotStatus ≠ slotOccupied →
      (slot.plays = true → t.ColourFits [i.toUInt8.toNat, sid.toNat] colour)
        ∧ ∀ giver ∈ t[i.toUInt8.toNat]?, i.toUInt8 ≠ sid → giver.plays = true →
          t.ColourFits [i.toUInt8.toNat, sid.toNat] slot.colour
            ∧ (slot.plays = true → slot.colour ≠ colour)

end SlotTable

-- ================================================================== operations

/-- The commands that set the slots. -/
def ChatCommand.setsSlots : ChatCommand → Bool
  | openSlot _ | close _ | openAll | closeAll | swap _ _ | shufflePlayers => true
  | comp .. | compColour .. | compRace .. | compHandicap .. | compTeam .. => true
  | _ => false

/-- What may happen to the slots of a lobby: a client asks to join,
those who left are reaped, a player asks for a team, a colour, a race or
a handicap, somebody gives a command. -/
inductive SlotOp where
  | join (key : UInt32) (connId : Nat) (payload : List UInt8)
  | reap
  | request (env : Env) (connId : Nat) (payload : List UInt8)
  | command (env : Env) (pid : UInt8) (caller : Text) (cmd : ChatCommand)

/-- The operation is what it says: a frame asks for something, and a
command sets the slots. -/
def SlotOp.Proper : SlotOp → Prop
  | request _ _ payload =>
      ∀ chat, ChatToHost.decode payload = .ok chat → 0x11 ≤ chat.flag ∧ chat.flag ≤ 0x14
  | command _ _ _ cmd => cmd.setsSlots = true
  | _ => True

namespace GameState

/-- One operation on the game. -/
def slotOp [RustStd] (s : GameState) : SlotOp → GameState
  | .join key connId payload => s.handleReqJoin key connId payload
  | .reap => s.reapLeftPlayers
  | .request env connId payload => s.handleChatToHost env connId payload
  | .command env pid caller cmd => s.runCommand env pid caller cmd

-- ==================================================================== statement

/-- A change to a player's team that is granted. -/
def grantsTeam (s : GameState) (pid target : UInt8) : Bool :=
  target.toNat < maxSlots && target < s.cfg.map.numPlayers
    && (s.slots.countP fun o => o.slotStatus == slotOccupied && o.team.toNat != maxSlots
      && o.pid != pid) % 256 < s.cfg.map.numPlayers.toNat

/-- An observer who returns to a team has a colour that fits, or one is
left. -/
def TeamFits (s : GameState) (pid sid target : UInt8) : Prop :=
  s.grantsTeam pid target = true → ∀ slot ∈ s.slots[sid.toNat]?, slot.plays = false →
    if slot.colour.toNat = maxSlots then
      ∃ colour ∈ List.range maxSlots, ∀ a ∈ s.slots, a.colour ≠ colour.toUInt8
    else s.slots.ColourFits [sid.toNat] slot.colour

/-- What a player asks for keeps the colours apart. -/
def RequestFits (s : GameState) (pid flag value : UInt8) : Prop :=
  ∀ sid ∈ s.slots.sidOfPid pid,
    if flag = 0x11 then
      if s.cfg.map.hasCustomForces = true then
        ∀ target ∈ s.slots.firstOpenInTeamFrom sid value,
          s.slots.SwapFits sid target s.cfg.map.hasFixedPlayerSettings true
      else s.TeamFits pid sid value
    else if flag = 0x12 then
      s.cfg.map.hasFixedPlayerSettings = false → value.toNat < maxSlots →
        s.slots.RecolourFits sid value
    else True

/-- What a command sets keeps the colours apart. -/
def CommandFits (s : GameState) : ChatCommand → Prop
  | .swap a b => s.slots.SwapFits a b s.cfg.map.hasFixedPlayerSettings s.cfg.map.hasCustomForces
  | .comp slot team colour _ _ _ => ∀ a ∈ s.slots[slot.toNat]?, a.slotStatus ≠ slotOccupied →
      team.toNat < maxSlots → s.slots.ColourFits [slot.toNat] colour
  | .compColour slot colour => ∀ a ∈ s.slots[slot.toNat]?, a.computer = 1 → a.plays = true →
      s.slots.ColourFits [slot.toNat] colour
  | .compTeam slot team => ∀ a ∈ s.slots[slot.toNat]?, a.computer = 1 → team.toNat < maxSlots →
      s.slots.ColourFits [slot.toNat] a.colour
  | _ => True

end GameState

/-- The operation keeps the colours apart. -/
def SlotOp.Fits (op : SlotOp) (s : GameState) : Prop :=
  match op with
  | request _ connId payload => ∀ p ∈ s.players.byConn connId,
      ∀ chat, ChatToHost.decode payload = .ok chat → chat.fromPid = p.pid →
        s.RequestFits p.pid chat.flag chat.byte
  | command _ _ _ cmd => s.CommandFits cmd
  | _ => True

-- ===================================================================== tables

namespace SlotTable

variable {t u : SlotTable}

/-- Whether a slot is a player's, and its colour. -/
def tints (t : SlotTable) : List (Bool × UInt8) := t.map fun a => (a.plays, a.colour)

/-- The tints decide. -/
theorem coloursUnique_of_tints (h : u.tints = t.tints) : u.ColoursUnique ↔ t.ColoursUnique :=
  Lib.wellKeyed_congr (List.Perm.of_eq h)

/-- A slot that keeps its team and its colour. -/
theorem tints_modify {sid : UInt8} {f : SlotInfo → SlotInfo}
    (hf : ∀ a, (f a).team = a.team ∧ (f a).colour = a.colour) :
    (t.modify sid f).1.tints = t.tints := by
  cases hsid : t[sid.toNat]? with
  | none => rw [modify_of_none hsid]
  | some a =>
      rw [modify_eq_set hsid]
      obtain ⟨hlt, rfl⟩ := List.getElem?_eq_some_iff.1 hsid
      calc SlotTable.tints (t.set sid.toNat (f t[sid.toNat]))
          = t.tints.set sid.toNat ((f t[sid.toNat]).plays, (f t[sid.toNat]).colour) := List.map_set
        _ = t.tints.set sid.toNat (t[sid.toNat].plays, t[sid.toNat].colour) := by
            rw [SlotInfo.plays, (hf _).1, (hf _).2]
            rfl
        _ = SlotTable.tints (t.set sid.toNat t[sid.toNat]) := List.map_set.symm
        _ = t.tints := by rw [List.set_getElem_self]

theorem tints_occupySlot (sid pid : UInt8) : (t.occupySlot sid pid).1.tints = t.tints :=
  tints_modify fun _ => ⟨rfl, rfl⟩

theorem tints_release (pid : UInt8) : (t.release pid).1.tints = t.tints := by
  unfold release
  split
  · exact tints_modify fun _ => ⟨rfl, rfl⟩
  · rfl

theorem tints_openAll : t.openAll.tints = t.tints := by
  unfold tints openAll
  rw [List.map_map]
  refine List.map_congr_left fun a _ => ?_
  dsimp only [Function.comp]
  split <;> rfl

theorem tints_closeAll : t.closeAll.tints = t.tints := by
  unfold tints closeAll
  rw [List.map_map]
  refine List.map_congr_left fun a _ => ?_
  dsimp only [Function.comp]
  split <;> rfl

/-- One slot is written. -/
theorem coloursUnique_modify_iff (h : t.ColoursUnique) {sid : UInt8} {a : SlotInfo}
    (ha : t[sid.toNat]? = some a) (f : SlotInfo → SlotInfo) : (t.modify sid f).1.ColoursUnique
      ↔ ((f a).plays = true → t.ColourFits [sid.toNat] (f a).colour) := by
  rw [modify_eq_set ha]
  exact Lib.wellKeyed_set_iff h (List.getElem?_eq_some_iff.1 ha).1 (f a)

/-- Two slots that change places, teams included. -/
theorem coloursUnique_swap (h : t.ColoursUnique) (a b : UInt8) : (t.swap a b).1.ColoursUnique := by
  unfold swap swapSlots
  split
  · rename_i slotA slotB hA hB
    split
    · exact h
    obtain ⟨hltA, hgetA⟩ := List.getElem?_eq_some_iff.1 hA
    obtain ⟨hltB, hgetB⟩ := List.getElem?_eq_some_iff.1 hB
    have hperm := List.set_set_perm hltA hltB
    rw [hgetA, hgetB] at hperm
    exact (Lib.wellKeyed_congr (hperm.map _)).2 h
  · exact h

theorem coloursUnique_shuffled (h : t.ColoursUnique) (draw : Nat → Nat) :
    (shuffled t draw).ColoursUnique := by
  unfold shuffled
  generalize List.range t.length = l
  generalize t.length = n
  induction l generalizing t with
  | nil => exact h
  | cons i l ih => exact ih (coloursUnique_swap h _ _)

/-- Two slots that change places on any map. -/
theorem coloursUnique_swapSlots_iff (h : t.ColoursUnique) (a b : UInt8) (fixed forces : Bool) :
    (t.swapSlots a b fixed forces).1.ColoursUnique ↔ t.SwapFits a b fixed forces := by
  unfold swapSlots SwapFits
  split
  · rename_i x y hx hy
    by_cases hab : a = b
    · rw [if_pos hab]
      exact iff_of_true h fun _ _ hne => absurd hab hne
    rw [if_neg hab]
    dsimp only
    have hltX := (List.getElem?_eq_some_iff.1 hx).1
    have hltY := (List.getElem?_eq_some_iff.1 hy).1
    have hidx : a.toNat ≠ b.toNat := fun he => hab (UInt8.toNat_inj.1 he)
    have hmemA : a.toNat ∈ [a.toNat, b.toNat] := List.mem_cons_self
    have hmemB : b.toNat ∈ [a.toNat, b.toNat] :=
      List.mem_cons_of_mem _ (List.mem_singleton.2 rfl)
    have hne : x.plays = true → y.plays = true → x.colour ≠ y.colour := fun hpx hpy hkey =>
      hidx ((Lib.wellKeyed_iff_getElem?.1 h).2 _ _ x y hx hy hpx hpy hkey)
    -- each of the two has its colour to itself outside the pair
    have hfitX : x.plays = true → t.ColourFits [a.toNat, b.toNat] x.colour :=
      fun hpx => h.fits hx hpx hmemA
    have hfitY : y.plays = true → t.ColourFits [a.toNat, b.toNat] y.colour :=
      fun hpy => h.fits hy hpy hmemB
    -- so the swap is judged by the two slots it writes
    refine (Lib.wellKeyed_set_set_iff h hidx hltX hltY _ _).trans ?_
    cases fixed with
    | true => exact iff_of_true ⟨hfitX, hfitY, hne⟩ fun hno => (nomatch hno)
    | false =>
        cases forces with
        | false =>
            exact iff_of_true ⟨hfitY, hfitX, fun hpy hpx => (hne hpx hpy).symm⟩
              fun _ hno => (nomatch hno)
        | true =>
            constructor
            · rintro ⟨hx', hy', -⟩ - - - x₁ hx₁ y₁ hy₁
              cases hx.symm.trans hx₁
              cases hy.symm.trans hy₁
              exact ⟨fun hpx _ => hx' hpx, fun _ hpy => hy' hpy⟩
            · intro hfits
              -- the teams stay at their slots, so a player can begin or cease to be an observer
              obtain ⟨hx', hy'⟩ := hfits rfl rfl hab x hx y hy
              refine ⟨fun hpx => ?_, fun hpy => ?_, fun hpx hpy => (hne hpx hpy).symm⟩
              · by_cases hpy : y.plays = true
                · exact hfitY hpy
                · exact hx' hpx (Bool.eq_false_iff.2 hpy)
              · by_cases hpx : x.plays = true
                · exact hfitX hpx
                · exact hy' (Bool.eq_false_iff.2 hpx) hpy
  · rename_i hnone
    exact iff_of_true h fun _ _ _ x hx y hy => (hnone x y hx hy).elim

/-- Nobody has the colour that is found unused, if one is. -/
theorem unusedColour_spec {places : List Nat} : t.ColourFits places t.unusedColour
    ↔ ∃ colour ∈ List.range maxSlots, ∀ a ∈ t, a.colour ≠ colour.toUInt8 := by
  have hfree : ∀ c : Nat, (!t.any fun s => s.colour == c.toUInt8) = true
      ↔ ∀ a ∈ t, a.colour ≠ c.toUInt8 := by
    intro c
    simp
  unfold unusedColour
  cases hfind : (List.range maxSlots).find? fun c => !t.any fun s => s.colour == c.toUInt8 with
  | none =>
      refine iff_of_false (fun hfits => absurd hfits.ok (by decide)) ?_
      rintro ⟨c, hc, hunused⟩
      exact List.find?_eq_none.1 hfind c hc ((hfree c).2 hunused)
  | some c =>
      have hc := List.mem_of_find?_eq_some hfind
      have hunused := (hfree c).1 (by simpa using List.find?_some hfind)
      refine iff_of_true ⟨?_, fun i a ha _ hkey => ?_⟩ ⟨c, hc, hunused⟩
      · have hlt : c < 24 := List.mem_range.1 hc
        show c.toUInt8.toNat < maxSlots
        rw [Nat.toUInt8_eq, UInt8.toNat_ofNat', Nat.mod_eq_of_lt (by omega)]
        exact hlt
      · exact absurd hkey (hunused a (List.mem_of_getElem? ha))

/-- What a colour request does to a slot that exists: nothing if the
last slot with the colour is occupied, else it takes the colour, in
exchange if there is such a slot. -/
theorem colourSlot_cases {sid colour : UInt8} {slot : SlotInfo}
    (hslot : t[sid.toNat]? = some slot) (hcolour : colour.toNat < maxSlots) :
    (t.lastOfColour colour = none ∧ (colourSlot t sid colour).1 = (t.setColour sid colour).1)
      ∨ ∃ i other, t.lastOfColour colour = some i ∧ t[i]? = some other
        ∧ ((other.slotStatus = slotOccupied ∧ (colourSlot t sid colour).1 = t)
          ∨ (other.slotStatus ≠ slotOccupied ∧ (colourSlot t sid colour).1
            = ((t.setColour i.toUInt8 slot.colour).1.setColour sid colour).1)) := by
  have hlt := (List.getElem?_eq_some_iff.1 hslot).1
  unfold colourSlot
  rw [if_neg (by omega)]
  dsimp only
  split
  · rename_i i hi
    have hlast : t.lastOfColour colour = some i := hi
    have hlti : i < t.length :=
      List.mem_range.1 (List.mem_reverse.1 (List.mem_of_find?_eq_some hi))
    refine .inr ⟨i, t[i], hlast, List.getElem?_eq_getElem hlti, ?_⟩
    rw [List.getElem?_eq_getElem hlti]
    dsimp only
    by_cases hopen : t[i].slotStatus ≠ slotOccupied
    · rw [if_pos hopen, hslot]
      exact .inr ⟨hopen, rfl⟩
    · rw [if_neg hopen]
      exact .inl ⟨not_not.1 hopen, rfl⟩
  · rename_i hnone
    exact .inl ⟨hnone, rfl⟩

/-- A player takes a colour, in exchange if an unoccupied slot has it. -/
theorem coloursUnique_colourSlot_iff (h : t.ColoursUnique) {sid colour : UInt8} {slot : SlotInfo}
    (hslot : t[sid.toNat]? = some slot) (hteam : slot.team.toNat ≠ maxSlots)
    (hcolour : colour.toNat < maxSlots) :
    (colourSlot t sid colour).1.ColoursUnique ↔ t.RecolourFits sid colour := by
  unfold RecolourFits
  rcases colourSlot_cases hslot hcolour with ⟨hnone, heq⟩ | ⟨i, other, hlast, hother, hend⟩
  · -- nobody has the colour
    rw [heq, hnone]
    refine iff_of_true ?_ fun _ _ _ _ hi => (nomatch hi)
    refine (coloursUnique_modify_iff h hslot _).2 fun _ => ⟨hcolour, fun i a ha _ hkey => ?_⟩
    have hno := List.find?_eq_none.1 hnone i
      (List.mem_reverse.2 (List.mem_range.2 (List.getElem?_eq_some_iff.1 ha).1))
    rw [ha] at hno
    exact absurd hkey (by simpa using hno)
  rw [hlast]
  rcases hend with ⟨hoccupied, heq⟩ | ⟨hopen, heq⟩
  · -- a player keeps the colour
    rw [heq]
    refine iff_of_true h fun _ _ _ j hj other' hother' hopen => ?_
    cases hj
    cases hother.symm.trans hother'
    exact absurd hoccupied hopen
  rw [heq]
  have hlt := (List.getElem?_eq_some_iff.1 hslot).1
  have hlti := (List.getElem?_eq_some_iff.1 hother).1
  have hwrap : i.toUInt8.toNat < t.length := by
    rw [Nat.toUInt8_eq, UInt8.toNat_ofNat']
    omega
  have hgiver : t[i.toUInt8.toNat]? = some t[i.toUInt8.toNat] := List.getElem?_eq_getElem hwrap
  generalize t[i.toUInt8.toNat] = giver at hgiver
  have hset : ((t.setColour i.toUInt8 slot.colour).1.setColour sid colour).1.ColoursUnique
      ↔ (slot.plays = true → t.ColourFits [i.toUInt8.toNat, sid.toNat] colour)
        ∧ (i.toUInt8 ≠ sid → giver.plays = true →
          t.ColourFits [i.toUInt8.toNat, sid.toNat] slot.colour
            ∧ (slot.plays = true → slot.colour ≠ colour)) := by
    unfold setColour
    rw [modify_eq_set hgiver]
    by_cases hsame : i.toUInt8 = sid
    · -- the slot is its own giver
      have hself : giver = slot := by
        rw [hsame] at hgiver
        exact Option.some.inj (hgiver.symm.trans hslot)
      have hback : List.set t i.toUInt8.toNat ({ giver with colour := slot.colour } : SlotInfo)
          = t := by
        obtain ⟨hlt', hget⟩ := List.getElem?_eq_some_iff.1 hgiver
        rw [show ({ giver with colour := slot.colour } : SlotInfo) = giver by rw [hself], ← hget]
        exact List.set_getElem_self hlt'
      rw [hback, hsame]
      refine (coloursUnique_modify_iff h hslot _).trans ?_
      constructor
      · intro htake
        refine ⟨fun hplays => (htake hplays).mono (by simp), fun hne => absurd rfl hne⟩
      · rintro ⟨htake, -⟩ hplays
        exact (htake hplays).mono (by simp)
    · have hidx : i.toUInt8.toNat ≠ sid.toNat := fun he => hsame (UInt8.toNat_inj.1 he)
      have hkept : (List.set t i.toUInt8.toNat
          ({ giver with colour := slot.colour } : SlotInfo))[sid.toNat]? = some slot := by
        rw [List.getElem?_set_ne hidx]
        exact hslot
      rw [modify_eq_set hkept]
      refine (Lib.wellKeyed_set_set_iff h hidx hwrap hlt _ _).trans ?_
      constructor
      · rintro ⟨hgive, htake, hne⟩
        exact ⟨htake, fun _ hplays => ⟨hgive hplays, hne hplays⟩⟩
      · rintro ⟨htake, hgive⟩
        exact ⟨fun hplays => (hgive hsame hplays).1, htake,
          fun hplays => (hgive hsame hplays).2⟩
  rw [hset]
  constructor
  · rintro ⟨htake, hgive⟩ slot' hslot' - j hj other' hother' -
    cases hj
    cases hslot.symm.trans hslot'
    refine ⟨htake, fun giver' hgiver' => ?_⟩
    cases hgiver.symm.trans hgiver'
    exact hgive
  · intro hfits
    obtain ⟨htake, hgive⟩ := hfits slot hslot hteam i rfl other hother hopen
    exact ⟨htake, hgive giver hgiver⟩

/-- A computer is added to a slot nobody occupies. -/
theorem coloursUnique_addComputer_iff (h : t.ColoursUnique)
    (slot team colour race computerType handicap : UInt8) :
    (t.addComputer slot team colour race computerType handicap).1.ColoursUnique
      ↔ ∀ a ∈ t[slot.toNat]?, a.slotStatus ≠ slotOccupied → team.toNat < maxSlots →
        t.ColourFits [slot.toNat] colour := by
  unfold addComputer
  cases ha : t[slot.toNat]? with
  | none => exact iff_of_true h fun a ha' => (nomatch ha')
  | some a =>
      dsimp only
      split
      · rename_i hoccupied
        refine iff_of_true h fun a' ha' hopen => ?_
        cases ha'
        exact absurd hoccupied hopen
      · rename_i hopen
        refine (coloursUnique_modify_iff h ha _).trans ?_
        constructor
        · intro hfits _ _ _ hteam
          exact hfits (decide_eq_true hteam)
        · intro hfits hteam
          exact hfits a rfl hopen (of_decide_eq_true hteam)

/-- A computer is changed. -/
theorem coloursUnique_editComputer_iff (h : t.ColoursUnique) (slot : UInt8)
    (f : SlotInfo → SlotInfo) : (t.editComputer slot f).1.ColoursUnique
      ↔ ∀ a ∈ t[slot.toNat]?, a.computer = 1 → (f a).plays = true →
        t.ColourFits [slot.toNat] (f a).colour := by
  unfold editComputer
  cases ha : t[slot.toNat]? with
  | none => exact iff_of_true h fun a ha' => (nomatch ha')
  | some a =>
      dsimp only
      split
      · rename_i hcomputer
        refine (coloursUnique_modify_iff h ha _).trans ?_
        constructor
        · intro hfits a' ha' _ hplays
          cases ha'
          exact hfits hplays
        · exact fun hfits => hfits a rfl hcomputer
      · rename_i hno
        refine iff_of_true h fun a' ha' hcomputer => ?_
        cases ha'
        exact absurd hcomputer hno

/-- A computer that keeps its team and its colour. -/
theorem tints_editComputer {slot : UInt8} {f : SlotInfo → SlotInfo}
    (hf : ∀ a, (f a).team = a.team ∧ (f a).colour = a.colour) :
    (t.editComputer slot f).1.tints = t.tints := by
  unfold editComputer
  split
  · split
    · exact tints_modify hf
    · rfl
  · rfl

end SlotTable

-- ==================================================================== requests

namespace GameState

variable {s : GameState}

/-- A change of team without forces. -/
theorem coloursUnique_changeTeam_iff (h : s.slots.ColoursUnique) (pid sid target : UInt8) :
    (s.changeTeam pid sid target).1.ColoursUnique ↔ s.TeamFits pid sid target := by
  have hgrants : s.grantsTeam pid target = true ↔ target.toNat < maxSlots
      ∧ target.toNat < s.cfg.map.numPlayers.toNat
      ∧ (s.slots.countP fun o => o.slotStatus == slotOccupied && o.team.toNat != maxSlots
        && o.pid != pid) % 256 < s.cfg.map.numPlayers.toNat := by
    unfold grantsTeam
    rw [Bool.and_eq_true, Bool.and_eq_true, decide_eq_true_eq, decide_eq_true_eq,
      decide_eq_true_eq, UInt8.lt_iff_toNat_lt, and_assoc]
  unfold changeTeam TeamFits
  rw [hgrants]
  dsimp only
  generalize (s.slots.countP fun o =>
    o.slotStatus == slotOccupied && o.team.toNat != maxSlots && o.pid != pid) = others
  by_cases hhigh : maxSlots < target.toNat
  · rw [if_pos hhigh]
    exact iff_of_true h fun ⟨hlow, _⟩ => by omega
  rw [if_neg hhigh]
  by_cases hobserver : target.toNat = maxSlots ∧ (!s.cfg.map.seatsObservers) = true
  · rw [if_pos hobserver]
    exact iff_of_true h fun ⟨hlow, _⟩ => by omega
  rw [if_neg hobserver]
  by_cases hfull : target.toNat ≠ maxSlots
      ∧ (s.cfg.map.numPlayers ≤ target ∨ s.cfg.map.numPlayers.toNat ≤ others % 256)
  · rw [if_pos hfull]
    rw [UInt8.le_iff_toNat_le] at hfull
    exact iff_of_true h fun ⟨_, hteam, hothers⟩ => by omega
  rw [if_neg hfull]
  rw [UInt8.le_iff_toNat_le] at hfull
  cases hslot : s.slots[sid.toNat]? with
  | none => exact iff_of_true h fun _ _ hno => (nomatch hno)
  | some slot =>
      dsimp only
      refine (SlotTable.coloursUnique_modify_iff h hslot _).trans ?_
      by_cases hleaves : target.toNat = maxSlots
      · -- the player becomes an observer
        refine iff_of_true (fun hplays => ?_) fun ⟨hlow, _⟩ => by omega
        have hlow : target.toNat < maxSlots := of_decide_eq_true hplays
        omega
      have hlow : target.toNat < maxSlots := by omega
      have hplace : sid.toNat ∈ [sid.toNat] := List.mem_singleton.2 rfl
      rw [if_neg hleaves]
      by_cases hnone : slot.colour.toNat = maxSlots
      · rw [if_pos hnone]
        -- a player's slot has a colour already
        have hwatches : slot.plays = false := by
          rw [Bool.eq_false_iff]
          intro hplays
          have hlt := (h.fits hslot hplays hplace).ok
          omega
        constructor
        · intro hfits _ slot' hslot' _
          cases hslot'
          rw [if_pos hnone]
          exact SlotTable.unusedColour_spec.1 (hfits (decide_eq_true hlow))
        · intro hfits _
          have hleft := hfits ⟨hlow, by omega⟩ slot rfl hwatches
          rw [if_pos hnone] at hleft
          exact SlotTable.unusedColour_spec.2 hleft
      · rw [if_neg hnone]
        constructor
        · intro hfits _ slot' hslot' _
          cases hslot'
          rw [if_neg hnone]
          exact hfits (decide_eq_true hlow)
        · intro hfits _
          by_cases hplays : slot.plays = true
          · exact h.fits hslot hplays hplace
          · have hfit := hfits ⟨hlow, by omega⟩ slot rfl (Bool.eq_false_iff.2 hplays)
            rw [if_neg hnone] at hfit
            exact hfit

/-- What a player asks for. -/
theorem coloursUnique_applySlotRequest_iff (h : s.slots.ColoursUnique) {pid flag value : UInt8} :
    (s.applySlotRequest pid flag value).1.ColoursUnique ↔ s.RequestFits pid flag value := by
  unfold applySlotRequest RequestFits
  dsimp only
  cases hsid : s.slots.sidOfPid pid with
  | none => exact iff_of_true h fun _ hno => (nomatch hno)
  | some sid =>
      dsimp only
      simp only [Option.mem_some_iff, forall_eq']
      by_cases hteam : flag = 0x11
      · rw [if_pos hteam, if_pos hteam]
        by_cases hforces : s.cfg.map.hasCustomForces = true
        · rw [if_pos hforces, if_pos hforces]
          cases htarget : s.slots.firstOpenInTeamFrom sid value with
          | none => exact iff_of_true h fun _ hno => (nomatch hno)
          | some target =>
              simp only [Option.mem_some_iff, forall_eq']
              exact SlotTable.coloursUnique_swapSlots_iff h sid target _ true
        · rw [if_neg hforces, if_neg hforces]
          exact coloursUnique_changeTeam_iff h pid sid value
      rw [if_neg hteam, if_neg hteam]
      by_cases hfixed : s.cfg.map.hasFixedPlayerSettings = true
      · rw [if_pos hfixed]
        refine iff_of_true h ?_
        split
        · exact fun hno => absurd hno (by simp [hfixed])
        · trivial
      rw [if_neg hfixed]
      cases hslot : s.slots[sid.toNat]? with
      | none =>
          refine iff_of_true h ?_
          split
          · intro _ _ slot hno
            rw [hslot] at hno
            cases hno
          · trivial
      | some slot =>
          dsimp only
          by_cases hcolour : flag = 0x12
          · rw [if_pos hcolour, if_pos hcolour]
            by_cases hhigh : maxSlots - 1 < value.toNat ∨ slot.team.toNat = maxSlots
            · rw [if_pos hhigh]
              refine iff_of_true h fun _ hlow slot' hslot' hteam' => ?_
              cases hslot.symm.trans hslot'
              omega
            · rw [if_neg hhigh]
              have hlow : value.toNat < maxSlots := by
                unfold maxSlots at hhigh ⊢
                omega
              have hiff := SlotTable.coloursUnique_colourSlot_iff h hslot (by omega) hlow
              exact hiff.trans ⟨fun hfits _ _ => hfits, fun hfits =>
                hfits (Bool.eq_false_iff.2 hfixed) hlow⟩
          rw [if_neg hcolour, if_neg hcolour]
          refine iff_of_true ?_ trivial
          -- a race or a handicap
          have hkept : ∀ info : SlotInfo, info.team = slot.team → info.colour = slot.colour →
              (s.slots.replace sid info).1.ColoursUnique := by
            intro info hteam' hcolour'
            refine (SlotTable.coloursUnique_modify_iff h hslot _).2 fun hplays => ?_
            have hplays' : slot.plays = true := by
              rw [SlotInfo.plays, ← hteam']
              exact hplays
            rw [hcolour']
            exact h.fits hslot hplays' (List.mem_singleton.2 rfl)
          split
          · split
            · exact h
            · exact hkept _ rfl rfl
          split
          · split
            · exact hkept _ rfl rfl
            · exact h
          · exact h

theorem editSlots_slots (s : GameState) (r : SlotTable × Bool) : (s.editSlots r).slots = r.1 := by
  unfold editSlots
  split
  · exact (SameLobby.sendAllSlotInfo _).slots
  · rfl

variable [RustStd]

/-- A client that asks to join, in the lobby. -/
theorem tints_handleReqJoin (hlobby : s.phase = .lobby) (key : UInt32) (connId : Nat)
    (payload : List UInt8) : (s.handleReqJoin key connId payload).slots.tints = s.slots.tints := by
  unfold handleReqJoin
  split
  · rfl
  rename_i e _
  dsimp only
  split
  · rfl
  rename_i req _
  rw [if_neg (not_not.2 (show (s.unpend connId).phase = .lobby from hlobby))]
  rcases joinLobby_cases (s.unpend connId) key connId e.link e.externalIp req with hsame |
    ⟨sid, pid, -, -, -, -, ⟨hslots, -⟩ | ⟨hslots, -⟩⟩
  · rw [hsame.slots]
    rfl
  · rw [hslots]
    exact SlotTable.tints_occupySlot sid pid
  · rw [hslots, SlotTable.tints_release]
    exact SlotTable.tints_occupySlot sid pid

omit [RustStd] in
theorem reapPlayer_spec (s : GameState) (pid : UInt8) (code : Nat) :
    (s.reapPlayer pid code).phase = s.phase
      ∧ (s.reapPlayer pid code).slots.tints = s.slots.tints := by
  have hinform : ∀ t : GameState,
      SameLobby t (if t.phase = .lobby then t.sendAllSlotInfo else t) := by
    intro t
    split
    · exact .sendAllSlotInfo t
    · exact .refl t
  unfold reapPlayer
  dsimp only
  rw [(hinform _).phase, (hinform _).slots, (SameLobby.broadcast _ _).phase,
    (SameLobby.broadcast _ _).slots]
  refine ⟨?_, (SlotTable.tints_release pid).trans ?_⟩
  · cases s.players.byPid pid with
    | none => rfl
    | some p => rfl
  · cases s.players.byPid pid with
    | none => rfl
    | some p => rfl

/-- Those who left the lobby are reaped. -/
theorem tints_reapLeftPlayers (hlobby : s.phase = .lobby) :
    s.reapLeftPlayers.slots.tints = s.slots.tints := by
  have hloop : ∀ (gone : List (UInt8 × Nat)) (t : GameState), t.phase = .lobby →
      (gone.foldl (fun s g => s.reapPlayer g.1 g.2) t).phase = .lobby
        ∧ (gone.foldl (fun s g => s.reapPlayer g.1 g.2) t).slots.tints = t.slots.tints := by
    intro gone
    induction gone with
    | nil => exact fun t ht => ⟨ht, rfl⟩
    | cons g gone ih =>
        intro t ht
        obtain ⟨hphase, htints⟩ := t.reapPlayer_spec g.1 g.2
        obtain ⟨hphase', htints'⟩ := ih _ (hphase.trans ht)
        exact ⟨hphase', htints'.trans htints⟩
  have habort : s.abortCountdown = s := by
    unfold abortCountdown
    rw [hlobby]
  unfold reapLeftPlayers
  dsimp only
  split
  · rfl
  rw [habort]
  obtain ⟨hphase, htints⟩ := hloop s.gone { s with lastPlayerLeftTime := some s.now } hlobby
  rw [if_neg fun hloading => by rw [hphase] at hloading; exact absurd hloading.1 (by simp)]
  exact htints

/-- What a player asks for in the lobby. -/
theorem coloursUnique_handleChatToHost_iff (h : s.slots.ColoursUnique) (hlobby : s.phase = .lobby)
    (env : Env) (connId : Nat) {payload : List UInt8}
    (hrequest : ∀ chat, ChatToHost.decode payload = .ok chat →
      0x11 ≤ chat.flag ∧ chat.flag ≤ 0x14) :
    (s.handleChatToHost env connId payload).slots.ColoursUnique
      ↔ ∀ p ∈ s.players.byConn connId, ∀ chat, ChatToHost.decode payload = .ok chat →
        chat.fromPid = p.pid → s.RequestFits p.pid chat.flag chat.byte := by
  unfold handleChatToHost
  cases hp : s.players.byConn connId with
  | none => exact iff_of_true h fun _ hno => (nomatch hno)
  | some p =>
      dsimp only
      cases hchat : ChatToHost.decode payload with
      | error e => exact iff_of_true h fun _ _ _ hno => (nomatch hno)
      | ok chat =>
          dsimp only
          -- a request in another player's name is dropped
          by_cases hfrom : chat.fromPid ≠ p.pid
          · rw [if_pos hfrom]
            refine iff_of_true h fun p' hp' chat' hchat' hfrom' => ?_
            cases hp'
            cases hchat'
            exact absurd hfrom' hfrom
          rw [if_neg hfrom]
          -- the trigger is answered with a line of chat, and no slot moves
          have hsame : SameLobby s (if chat.message = txt "?trigger" then
              s.sendChatTo p.pid (txt "Command trigger: !") else s) := by
            split
            · exact .sendChatTo _ _ _
            · exact .refl _
          have hcfg : (if chat.message = txt "?trigger" then
              s.sendChatTo p.pid (txt "Command trigger: !") else s).cfg = s.cfg := by
            split
            · exact (sendChatTo_sameTable _ _ _).cfg
            · rfl
          generalize (if chat.message = txt "?trigger" then
            s.sendChatTo p.pid (txt "Command trigger: !") else s) = t at hsame hcfg ⊢
          rw [if_pos (hrequest chat hchat), if_pos (hsame.phase.trans hlobby), editSlots_slots]
          have ht : t.slots.ColoursUnique := by
            rw [hsame.slots]
            exact h
          refine (coloursUnique_applySlotRequest_iff ht).trans ?_
          have hfits : t.RequestFits p.pid chat.flag chat.byte
              ↔ s.RequestFits p.pid chat.flag chat.byte := by
            unfold RequestFits TeamFits grantsTeam
            rw [hsame.slots, hcfg]
          rw [hfits]
          constructor
          · intro hkeeps p' hp' chat' hchat' _
            cases hp'
            cases hchat'
            exact hkeeps
          · exact fun hall => hall p rfl chat rfl (not_not.1 hfrom)

/-- What a command sets. -/
theorem coloursUnique_runCommand_iff (h : s.slots.ColoursUnique) (hlobby : s.phase = .lobby)
    (env : Env) (pid : UInt8) (caller : Text) {cmd : ChatCommand} (hcmd : cmd.setsSlots = true) :
    (s.runCommand env pid caller cmd).slots.ColoursUnique ↔ s.CommandFits cmd := by
  have hedit : ∀ r : SlotTable × Bool, (s.editSlots r).slots = r.1 := s.editSlots_slots
  have hkept : ∀ {u : SlotTable}, u.tints = s.slots.tints → (u.ColoursUnique ↔ True) :=
    fun htints => iff_of_true ((SlotTable.coloursUnique_of_tints htints).2 h) trivial
  cases cmd with
  | openSlot sid =>
      -- opening and closing leave every slot its colour and its team
      show (s.editSlots (s.slots.openSlot sid)).slots.ColoursUnique ↔ True
      rw [hedit]
      exact hkept (SlotTable.tints_modify fun _ => ⟨rfl, rfl⟩)
  | close sid =>
      show (s.editSlots (s.slots.close sid)).slots.ColoursUnique ↔ True
      rw [hedit]
      exact hkept (SlotTable.tints_modify fun _ => ⟨rfl, rfl⟩)
  | openAll =>
      show ((s.editSlots (s.slots.openAll, true)).sendChatAll _).slots.ColoursUnique ↔ True
      rw [(SameLobby.sendChatAll _ _).slots, hedit]
      exact hkept SlotTable.tints_openAll
  | closeAll =>
      show ((s.editSlots (s.slots.closeAll, true)).sendChatAll _).slots.ColoursUnique ↔ True
      rw [(SameLobby.sendChatAll _ _).slots, hedit]
      exact hkept SlotTable.tints_closeAll
  | swap a b =>
      show (s.editSlots (s.slots.swapSlots a b _ _)).slots.ColoursUnique ↔ _
      rw [hedit]
      exact SlotTable.coloursUnique_swapSlots_iff h a b _ _
  | shufflePlayers =>
      show (if s.phase = .lobby then
        (s.editSlots (shuffled s.slots env.shuffle, true)).sendChatAll _
          else s).slots.ColoursUnique ↔ True
      rw [if_pos hlobby, (SameLobby.sendChatAll _ _).slots, hedit]
      -- a shuffle carries each colour along with its player
      exact iff_of_true (SlotTable.coloursUnique_shuffled h _) trivial
  | comp slot team colour race computerType handicap =>
      show (s.editSlots (s.slots.addComputer ..)).slots.ColoursUnique ↔ _
      rw [hedit]
      exact SlotTable.coloursUnique_addComputer_iff h slot team colour race computerType handicap
  | compColour slot colour =>
      show (s.editSlots (s.slots.editComputer slot fun i =>
        { i with colour := colour })).slots.ColoursUnique ↔ _
      rw [hedit]
      exact SlotTable.coloursUnique_editComputer_iff h slot _
  | compRace slot race =>
      show (s.editSlots (s.slots.editComputer slot fun i =>
        { i with race := race })).slots.ColoursUnique ↔ True
      rw [hedit]
      exact hkept (SlotTable.tints_editComputer fun _ => ⟨rfl, rfl⟩)
  | compHandicap slot handicap =>
      show (s.editSlots (s.slots.editComputer slot fun i =>
        { i with handicap := handicap })).slots.ColoursUnique ↔ True
      rw [hedit]
      exact hkept (SlotTable.tints_editComputer fun _ => ⟨rfl, rfl⟩)
  | compTeam slot team =>
      show (s.editSlots (s.slots.editComputer slot fun i =>
        { i with team := team })).slots.ColoursUnique ↔ _
      rw [hedit]
      refine (SlotTable.coloursUnique_editComputer_iff h slot _).trans ?_
      -- the team decides whether the computer is among those that need a colour
      constructor
      · intro hfits a ha hcomputer hteam
        exact hfits a ha hcomputer (decide_eq_true hteam)
      · intro hfits a ha hcomputer hplays
        exact hfits a ha hcomputer (of_decide_eq_true hplays)
  | _ => cases hcmd

end GameState

-- ================================================================ every operation

/-- **Colours stay unique exactly where what is set fits.** In every
lobby whose players' slots have distinct colours below 24, an operation
on the slots leaves them so if and only if it fits: it is no command for
a computer and no exchange with an observer's slot that brings a colour
a player's slot has, or one from 24 on. -/
theorem colours_unique_iff [RustStd] {s : GameState} (hlobby : s.phase = .lobby)
    (h : s.slots.ColoursUnique) {op : SlotOp} (hop : op.Proper) :
    (s.slotOp op).slots.ColoursUnique ↔ op.Fits s := by
  cases op with
  | join key connId payload =>
      exact iff_of_true ((SlotTable.coloursUnique_of_tints
        (tints_handleReqJoin hlobby key connId payload)).2 h) trivial
  | reap =>
      exact iff_of_true ((SlotTable.coloursUnique_of_tints (tints_reapLeftPlayers hlobby)).2 h)
        trivial
  | request env connId payload => exact coloursUnique_handleChatToHost_iff h hlobby env connId hop
  | command env pid caller cmd => exact coloursUnique_runCommand_iff h hlobby env pid caller hop

/-- So they do through any number of operations that fit. -/
theorem colours_stay_unique [RustStd] {s t : GameState} (h : s.slots.ColoursUnique)
    (hrun : Lib.Path (fun op s t => t = GameState.slotOp s op)
      (fun op s => s.phase = .lobby ∧ op.Proper ∧ op.Fits s) s t) : t.slots.ColoursUnique := by
  refine Lib.Path.preserves (I := fun s => s.slots.ColoursUnique) ?_ hrun h
  rintro op s _ ⟨hlobby, hop, hfits⟩ rfl hs
  exact (colours_unique_iff hlobby hs hop).2 hfits

section Runs

open Scenario

/-- A computer in the third slot, of the first team. -/
def addsComputer (colour : UInt8) : SlotOp :=
  .command (env 7) 1 (txt "ann") (.comp 2 0 colour 0x20 1 100)

/-- A computer with a colour of its own. -/
theorem colours_unique_iff_computer :
    lobby.slots.ColoursUnique ∧ (lobby.slotOp (addsComputer 5)).slots.ColoursUnique := by
  have hunique : lobby.slots.ColoursUnique := by decide +kernel
  have hproper : (addsComputer 5).Proper := rfl
  refine ⟨hunique, (colours_unique_iff (by rfl) hunique hproper).2 ?_⟩
  intro _ _ _ _
  decide +kernel

/-- A map with forces: a place for a player and one for an observer. -/
def watchedLobby : GameState :=
  GameState.new { config with
    map := { map with options := 0x40 }
    customSlots := some
      [⟨0, 255, slotOpen, 0, 0, 0, 0x20, 1, 100⟩, ⟨0, 255, slotOpen, 0, 24, 24, 0x20, 1, 100⟩] } 0 5

/-- A computer gets the colour of the first slot, and a swap the colour
of the observer's place to a player's. -/
theorem commands_set_colours_unseen :
    lobby.phase = .lobby ∧ lobby.slots.ColoursUnique
      ∧ ¬(lobby.slotOp (addsComputer 0)).slots.ColoursUnique
      ∧ watchedLobby.phase = .lobby ∧ watchedLobby.slots.ColoursUnique
      ∧ ¬(watchedLobby.slotOp
        (.command (env 7) 1 (txt "ann") (.swap 0 1))).slots.ColoursUnique := by
  decide +kernel

end Runs

end Spectre

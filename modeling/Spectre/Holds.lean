/-
Slots held for a name (`!hold`, `handle_req_join`, `apply_slot_request`,
`toggle_fake_player`).

The game keeps a table of slots that are held for a name. A joining
client asks it twice: for a slot held for its own name, and to leave
the slots held for others alone. The other two ways to an open slot do
not ask: a team change on a map with forces takes the first open slot
of the team, and the fake player the first open slot at all. And of the
slots held for one name a join looks at one only, whichever the hash
table gives first. So the holds are honoured in those runs in which the
two blind searches do not end in another's slot and the one slot that
is looked at is open.
-/
import Spectre.Seating

namespace Spectre

open GameState

-- ================================================================= operations

/-- What may happen in a lobby with holds: a connection comes in, a slot
is held, a client asks to join or to change its team, the fake player
comes or goes. -/
inductive SeatOp where
  | connect (connId : Nat) (link : PlayerLink) (externalIp : Ip)
  | hold (env : Env) (pid : UInt8) (caller name : Text) (slot : Option UInt8)
  | join (key : UInt32) (connId : Nat) (payload : List UInt8)
  | team (env : Env) (connId : Nat) (payload : List UInt8)
  | fake (link : PlayerLink)

/-- The operation is what it says: a link is a new one, and the frame of
a team change asks for one. -/
def SeatOp.Proper : SeatOp → Prop
  | connect _ link _ => link.sent = []
  | team _ _ payload => ∀ chat, ChatToHost.decode payload = .ok chat → chat.flag = 0x11
  | fake link => link.sent = []
  | _ => True

/-- A game, and of the holds in place those that are watched: some that
were there at the start, and each set since whose slot was open then. -/
structure HeldLobby where
  game : GameState
  kept : List (UInt8 × Text)

section Definitions

variable [RustStd]

/-- One operation on the game. -/
def GameState.seatOp (s : GameState) : SeatOp → GameState
  | .connect connId link externalIp => s.addConn connId link externalIp
  | .hold env pid caller name slot => s.runCommand env pid caller (.hold name slot)
  | .join key connId payload => s.handleReqJoin key connId payload
  | .team env connId payload => s.handleChatToHost env connId payload
  | .fake link => (s.toggleFakePlayer link).1

/-- One operation; a hold takes the place of an earlier one, and is kept
if its slot is open. -/
def HeldLobby.step (x : HeldLobby) (op : SeatOp) : HeldLobby :=
  ⟨x.game.seatOp op,
    match op with
    | .hold _ _ _ name (some sid) =>
        (x.kept.filter fun h => h.1 != sid)
          ++ if x.game.slots.isOpen sid then [(sid, name)] else []
    | _ => x.kept⟩

-- ==================================================================== statement

/-- Nobody but the holder sits in a kept slot. -/
def HeldLobby.Honoured (x : HeldLobby) : Prop :=
  ∀ h ∈ x.kept, ∀ a ∈ x.game.slots[h.1.toNat]?, a.human = true →
    ∀ p ∈ x.game.players, p.pid = a.pid → eqIgnoreAsciiCase h.2 p.name = true

/-- The slot a team change of the player leads to, if the map has
forces. -/
def GameState.forcesSlot (s : GameState) (pid team : UInt8) : Option UInt8 :=
  if s.cfg.map.hasCustomForces then
    (s.slots.sidOfPid pid).bind fun sid => s.slots.firstOpenInTeamFrom sid team
  else none

/-- The searches that do not ask for the holds do not end in a slot kept
for another: neither that of a team change, nor that for the fake
player, which besides does not go under the id of the virtual host. -/
def SeatOp.RespectsHolds (op : SeatOp) (x : HeldLobby) : Prop :=
  match op with
  | .team _ connId payload => ∀ p ∈ x.game.players.byConn connId,
      ∀ chat, ChatToHost.decode payload = .ok chat →
        ∀ sid ∈ x.game.forcesSlot p.pid chat.byte,
          ∀ h ∈ x.kept, h.1 = sid → eqIgnoreAsciiCase h.2 p.name = true
  | .fake _ => x.game.fakePlayerPid ≠ some x.game.virtualHostPid
      ∧ (x.game.fakePlayerPid = none → ∀ sid ∈ x.game.slots.firstOpen,
        ∀ h ∈ x.kept, h.1 = sid → eqIgnoreAsciiCase h.2 (txt "FakePlayer") = true)
  | _ => True

/-- `y` is reached from `x` by operations that respect the holds. -/
def HeldLobby.Leads (x y : HeldLobby) : Prop :=
  Lib.Path (fun op x y => y = HeldLobby.step x op) (fun op x => op.Proper ∧ op.RespectsHolds x) x y

/-- A client that the lobby lets in, and the id it gets. -/
structure LetIn (s : GameState) (connId : Nat) (payload : List UInt8) (req : ReqJoin)
    (pid : UInt8) : Prop where
  pending : ∃ e, (s.pending.find? fun e => e.connId == connId) = some e ∧ e.link.next = .room
  decodes : ReqJoin.decode payload = .ok req
  unknown : (s.players.any fun p => eqIgnoreAsciiCase p.name req.name) = false
  free : s.players.nextFreePid = some pid

/-- A slot that is held for the name and open. -/
def GameState.HasOpenHold (s : GameState) (name : Text) : Prop :=
  ∃ h ∈ s.holds, eqIgnoreAsciiCase h.2 name = true ∧ s.slots.isOpen h.1 = true

/-- The hold that is found under the name is of an open slot. -/
def GameState.FindsOpenHold (s : GameState) (name : Text) : Prop :=
  ∀ h ∈ (RustStd.hashOrder s.holds).find? fun h => eqIgnoreAsciiCase h.2 name,
    s.slots.isOpen h.1 = true

/-- The player sits in a slot that was held for the name. -/
def SeatedByHold (s t : GameState) (name : Text) (pid : UInt8) : Prop :=
  ∃ h ∈ s.holds, eqIgnoreAsciiCase h.2 name = true
    ∧ ∃ a ∈ t.slots[h.1.toNat]?, a.human = true ∧ a.pid = pid

end Definitions

-- ================================================================== slot tables

namespace SlotTable

variable {t : SlotTable} {sid : UInt8} {i : Nat} {a : SlotInfo}

/-- A slot after a change of one. -/
theorem getElem?_modify_cases {f : SlotInfo → SlotInfo} (h : (t.modify sid f).1[i]? = some a) :
    t[i]? = some a ∨ (i = sid.toNat ∧ ∃ b, t[i]? = some b ∧ a = f b) := by
  cases hsid : t[sid.toNat]? with
  | none =>
      rw [modify_of_none hsid] at h
      exact .inl h
  | some b =>
      rw [modify_eq_set hsid] at h
      by_cases hi : sid.toNat = i
      · subst hi
        rw [List.getElem?_set_self (List.getElem?_eq_some_iff.1 hsid).1] at h
        exact .inr ⟨rfl, b, hsid, (Option.some.inj h).symm⟩
      · rw [List.getElem?_set_ne hi] at h
        exact .inl h

/-- A slot somebody sits in after an occupation. -/
theorem getElem?_occupySlot_cases {pid : UInt8} (h : (t.occupySlot sid pid).1[i]? = some a) :
    (i ≠ sid.toNat ∧ t[i]? = some a) ∨ (i = sid.toNat ∧ a.human = true ∧ a.pid = pid) := by
  unfold occupySlot at h
  cases hsid : t[sid.toNat]? with
  | none =>
      rw [modify_of_none hsid] at h
      refine .inl ⟨?_, h⟩
      rintro rfl
      rw [hsid] at h
      cases h
  | some b =>
      rw [modify_eq_set hsid] at h
      by_cases hi : sid.toNat = i
      · subst hi
        rw [List.getElem?_set_self (List.getElem?_eq_some_iff.1 hsid).1] at h
        rw [← Option.some.inj h]
        exact .inr ⟨rfl, rfl, rfl⟩
      · rw [List.getElem?_set_ne hi] at h
        exact .inl ⟨fun he => hi he.symm, h⟩

/-- An occupation adds no slot. -/
theorem length_occupySlot (t : SlotTable) (sid pid : UInt8) :
    (t.occupySlot sid pid).1.length = t.length := by
  unfold occupySlot
  cases hsid : t[sid.toNat]? with
  | none => rw [modify_of_none hsid]
  | some b => rw [modify_eq_set hsid, List.length_set]

/-- The player sits in the slot it occupies. -/
theorem getElem?_occupySlot {pid : UInt8} (h : t[sid.toNat]? = some a) :
    (t.occupySlot sid pid).1[sid.toNat]? = some
      { a with slotStatus := slotOccupied, pid := pid, computer := 0, downloadStatus := 100 } := by
  unfold occupySlot
  rw [modify_eq_set h, List.getElem?_set_self (List.getElem?_eq_some_iff.1 h).1]

/-- A slot somebody sits in after a release was not touched. -/
theorem getElem?_release {pid : UInt8} (h : (t.release pid).1[i]? = some a)
    (hhuman : a.human = true) : t[i]? = some a := by
  unfold release at h
  split at h
  · unfold openSlot at h
    rcases getElem?_modify_cases h with h | ⟨-, b, -, rfl⟩
    · exact h
    · cases hhuman
  · exact h

/-- A slot somebody sits in after the player of one slot went to an open
one. -/
theorem getElem?_swapSlots_cases {b c : UInt8} {slotB slotC : SlotInfo}
    (hb : t[b.toNat]? = some slotB) (hc : t[c.toNat]? = some slotC)
    (hopen : slotC.slotStatus = slotOpen) {fixed forces : Bool}
    (h : (t.swapSlots b c fixed forces).1[i]? = some a) (hhuman : a.human = true) :
    (i ≠ c.toNat ∧ t[i]? = some a) ∨ (i = c.toNat ∧ a.pid = slotB.pid) := by
  have hvacant : ∀ d : SlotInfo, d.slotStatus = slotOpen → d.human = false := by
    intro d hd
    rw [SlotInfo.human, hd]
    rfl
  have hltB := (List.getElem?_eq_some_iff.1 hb).1
  have hltC := (List.getElem?_eq_some_iff.1 hc).1
  unfold swapSlots at h
  rw [hb, hc] at h
  dsimp only at h
  by_cases hbc : b = c
  · rw [if_pos hbc] at h
    refine .inl ⟨?_, h⟩
    rintro rfl
    rw [hc] at h
    rw [← Option.some.inj h, hvacant slotC hopen] at hhuman
    cases hhuman
  rw [if_neg hbc] at h
  dsimp only at h
  by_cases hic : c.toNat = i
  · subst hic
    rw [List.getElem?_set_self (by rwa [List.length_set])] at h
    refine .inr ⟨rfl, ?_⟩
    rw [← Option.some.inj h]
    split
    · rfl
    split
    · rfl
    · rfl
  rw [List.getElem?_set_ne hic] at h
  by_cases hib : b.toNat = i
  · subst hib
    rw [List.getElem?_set_self hltB] at h
    -- the slot that was left is open now
    have hleft : a.slotStatus = slotOpen := by
      rw [← Option.some.inj h]
      split
      · exact hopen
      split
      · exact hopen
      · exact hopen
    rw [hvacant a hleft] at hhuman
    cases hhuman
  · rw [List.getElem?_set_ne hib] at h
    exact .inl ⟨fun he => hic he.symm, h⟩

/-- The slot a player sits in. -/
theorem sidOfPid_spec {pid : UInt8} (h : t.sidOfPid pid = some sid) (hlen : t.length ≤ 256) :
    ∃ a, t[sid.toNat]? = some a ∧ a.slotStatus = slotOccupied ∧ a.pid = pid := by
  obtain ⟨j, hj, rfl⟩ := Option.map_eq_some_iff.1 h
  obtain ⟨hlt, hp, -⟩ := List.findIdx?_eq_some_iff_getElem.1 hj
  have hidx : j.toUInt8.toNat = j := by
    rw [Nat.toUInt8_eq, UInt8.toNat_ofNat']
    omega
  rw [Bool.and_eq_true, beq_iff_eq, beq_iff_eq] at hp
  exact ⟨t[j], by rw [hidx]; exact List.getElem?_eq_getElem hlt, hp.1, hp.2⟩

/-- The search for an open slot of a team ends in an open slot. -/
theorem firstOpenInTeamFrom_spec {start team : UInt8}
    (h : t.firstOpenInTeamFrom start team = some sid) (hlen : t.length ≤ 256) :
    ∃ a, t[sid.toNat]? = some a ∧ a.slotStatus = slotOpen := by
  have hpart : ∀ lo hi, hi ≤ t.length → t.openInTeam team lo hi = some sid →
      ∃ a, t[sid.toNat]? = some a ∧ a.slotStatus = slotOpen := by
    intro lo hi hle hfind
    obtain ⟨j, hj, rfl⟩ := Option.map_eq_some_iff.1 hfind
    have hmem := List.mem_range'_1.1 (List.mem_of_find?_eq_some hj)
    have hidx : j.toUInt8.toNat = j := by
      rw [Nat.toUInt8_eq, UInt8.toNat_ofNat']
      omega
    have hslot := List.find?_some hj
    rw [hidx]
    split at hslot
    · rename_i a ha
      rw [Bool.and_eq_true, beq_iff_eq] at hslot
      exact ⟨a, ha, hslot.1⟩
    · cases hslot
  unfold firstOpenInTeamFrom at h
  split at h
  · cases h
  rename_i a ha
  rcases Option.or_eq_some_iff.1 h with h | ⟨-, h⟩
  · exact hpart _ _ (Nat.le_refl _) h
  · refine hpart _ _ ?_ h
    have hlt := (List.getElem?_eq_some_iff.1 ha).1
    split
    · omega
    · omega

end SlotTable

-- ==================================================================== the lobby

/-- The players with their names. -/
def GameState.names (s : GameState) : List (UInt8 × Text) :=
  s.players.map fun p => (p.pid, p.name)

/-- A player now was there before under its name. -/
theorem exists_of_names {s t : GameState} (h : t.names = s.names) {p : Player}
    (hp : p ∈ t.players) : ∃ q ∈ s.players, q.pid = p.pid ∧ q.name = p.name := by
  have hmem : (p.pid, p.name) ∈ s.names := h ▸ List.mem_map_of_mem hp
  obtain ⟨q, hq, heq⟩ := List.mem_map.1 hmem
  exact ⟨q, hq, (Prod.ext_iff.1 heq).1, (Prod.ext_iff.1 heq).2⟩

/-- The slots, the holds, the players with their names and the phase are
as they were. -/
structure SameLobby (s t : GameState) : Prop where
  slots : t.slots = s.slots
  holds : t.holds = s.holds
  names : t.names = s.names
  phase : t.phase = s.phase

namespace SameLobby

variable {s t u : GameState}

/-- Nothing happens. -/
protected theorem refl (s : GameState) : SameLobby s s := ⟨rfl, rfl, rfl, rfl⟩

/-- One thing after another. -/
protected theorem trans (h : SameLobby s t) (h' : SameLobby t u) : SameLobby s u :=
  ⟨h'.slots.trans h.slots, h'.holds.trans h.holds, h'.names.trans h.names,
    h'.phase.trans h.phase⟩

/-- A change of the players that leaves their ids and names. -/
theorem names_map {f : Player → Player} (hf : ∀ p, (f p).pid = p.pid ∧ (f p).name = p.name)
    (ps : PlayerTable) :
    (ps.map f).map (fun p => (p.pid, p.name)) = ps.map fun p => (p.pid, p.name) := by
  rw [List.map_map]
  refine List.map_congr_left fun p _ => ?_
  exact Prod.ext (hf p).1 (hf p).2

/-- A packet to all. -/
theorem broadcast (s : GameState) (b : Packet) : SameLobby s (s.broadcast b) := by
  have hhear : ∀ seq, (s.players.map fun p => p.hear s.now b seq).map (fun p => (p.pid, p.name))
      = s.names := fun seq => names_map (fun p =>
    ⟨(p.kept_hear s.now b seq).pid, (p.kept_hear s.now b seq).name⟩) s.players
  unfold GameState.broadcast
  split
  · exact ⟨rfl, rfl, hhear _, rfl⟩
  · exact ⟨rfl, rfl, hhear _, rfl⟩

/-- The same, of one that may not have been built. -/
theorem broadcast? (s : GameState) (b : Option Packet) : SameLobby s (s.broadcast? b) := by
  cases b with
  | none => exact .refl s
  | some b => exact broadcast s b

/-- The slot table, to all. -/
theorem sendAllSlotInfo (s : GameState) : SameLobby s s.sendAllSlotInfo := broadcast? s _

/-- A text that is cut. -/
theorem clip (s : GameState) (n : Nat) (m : Text) : SameLobby s (s.clip n m).1 := by
  unfold GameState.clip
  split
  · exact ⟨rfl, rfl, rfl, rfl⟩
  · exact .refl s

/-- A record for the replay. -/
theorem record (s : GameState) (f : ReplayBody → ReplayBody) : SameLobby s (s.record f) :=
  ⟨rfl, rfl, rfl, rfl⟩

/-- A line to all. -/
theorem sendChatAll (s : GameState) (m : Text) : SameLobby s (s.sendChatAll m) := by
  unfold GameState.sendChatAll
  dsimp only
  split
  · exact .refl s
  split
  · exact .refl s
  have hpush : SameLobby s (s.relayPush (.chat s.cfg.virtualHostName m)) :=
    ⟨rfl, rfl, rfl, rfl⟩
  split
  · exact (hpush.trans (clip _ 254 m)).trans (broadcast? _ _)
  · exact ((hpush.trans (clip _ 127 m)).trans (record _ _)).trans (broadcast? _ _)

/-- A packet to one player. -/
theorem sendTo? (s : GameState) (pid : UInt8) (b : Option Packet) :
    SameLobby s (s.sendTo? pid b) := by
  cases b with
  | none => exact .refl s
  | some b =>
      refine ⟨rfl, rfl, Lib.map_updateFirst fun p _ => ?_, rfl⟩
      exact Prod.ext (p.kept_receive s.now b).pid (p.kept_receive s.now b).name

/-- A line to one player. -/
theorem sendChatTo (s : GameState) (pid : UInt8) (m : Text) : SameLobby s (s.sendChatTo pid m) := by
  unfold GameState.sendChatTo
  dsimp only
  split
  · exact .refl s
  split
  · exact (clip s 254 m).trans (sendTo? _ _ _)
  · exact (clip s 127 m).trans (sendTo? _ _ _)

/-- A packet to the others. -/
theorem sendOthersDirect? (s : GameState) (pid : UInt8) (b : Option Packet) :
    SameLobby s (s.sendOthersDirect? pid b) := by
  cases b with
  | none => exact .refl s
  | some b =>
      refine ⟨rfl, rfl, names_map (fun p => ?_) s.players, rfl⟩
      split
      · exact ⟨rfl, rfl⟩
      · exact ⟨(p.kept_sendDirect b).pid, (p.kept_sendDirect b).name⟩

end SameLobby

/-- The invariant: the tables match, the game is in the lobby, the
watched holds are in place and nobody but the holder sits in their
slots. -/
structure KeepsHolds (x : HeldLobby) : Prop where
  wellFormed : WellFormed x.game
  seating : Seating x.game
  lobby : x.game.phase = .lobby
  there : ∀ h ∈ x.kept, h ∈ x.game.holds
  honoured : x.Honoured

namespace KeepsHolds

variable {x : HeldLobby}

/-- Somebody who sits in a slot is at the table. -/
theorem guest {s : GameState} (h : Seating s) {i : Nat} {a : SlotInfo} (ha : s.slots[i]? = some a)
    (hhuman : a.human = true) : ∃ p ∈ s.players, p.virtualHost = false ∧ p.pid = a.pid := by
  have hseat : a.pid ∈ s.slots.seats :=
    List.mem_map_of_mem (List.mem_filter.2 ⟨List.mem_of_getElem? ha, hhuman⟩)
  exact PlayerTable.mem_guests.1 (h.seats.mem_iff.1 hseat)

/-- The hold of a watched slot is the watched one. -/
theorem one_each (h : KeepsHolds x) {e g : UInt8 × Text} (he : e ∈ x.kept) (hg : g ∈ x.game.holds)
    (hkey : g.1 = e.1) : g = e :=
  List.inj_on_of_nodup_map h.wellFormed.holds hg (h.there e he) hkey

/-- What is not about the slots and the names honours the holds. -/
theorem honoured_same (h : x.Honoured) {t : GameState} (hslots : t.slots = x.game.slots)
    (hnames : t.names = x.game.names) : HeldLobby.Honoured ⟨t, x.kept⟩ := by
  intro hold hmem a ha hhuman p hp hpid
  obtain ⟨q, hq, hqpid, hqname⟩ := exists_of_names hnames hp
  rw [← hqname]
  exact h hold hmem a (by rw [← hslots]; exact ha) hhuman q hq (hqpid.trans hpid)

/-- A connection that waits changes neither table. -/
theorem connect (h : KeepsHolds x) (connId : Nat) {link : PlayerLink} (hlink : link.sent = [])
    (externalIp : Ip) : KeepsHolds ⟨x.game.addConn connId link externalIp, x.kept⟩ where
  wellFormed := by
    refine ⟨h.wellFormed.pids, h.wellFormed.players, fun e he => ?_, h.wellFormed.history,
      h.wellFormed.started, h.wellFormed.playing, h.wellFormed.holds⟩
    rcases List.mem_append.1 he with he | he
    · exact h.wellFormed.pending e he
    · rw [List.mem_singleton.1 he]
      exact hlink
  seating := h.seating.of_same rfl rfl rfl rfl
  lobby := h.lobby
  there := h.there
  honoured := honoured_same h.honoured rfl rfl

variable [RustStd]

/-- Small steps that keep the tables in step, if they end in the
lobby. -/
theorem of_does {s : GameState} {y : HeldLobby} (hwell : WellFormed s) (hseats : Seating s)
    (hdoes : Does keepsSeating s y.game) (hlobby : y.game.phase = .lobby)
    (hthere : ∀ h ∈ y.kept, h ∈ y.game.holds) (hhonoured : y.Honoured) : KeepsHolds y := by
  obtain ⟨hwell', hseats'⟩ := Lib.Path.preserves (I := fun s => WellFormed s ∧ Seating s)
    (fun k s t hk hst hI => ⟨hst.keeps_wellFormed hI.1, hst.seating hk hI.1 hI.2⟩) hdoes
    ⟨hwell, hseats⟩
  exact ⟨hwell', hseats', hlobby, hthere, hhonoured⟩

/-- What is not about the slots, the holds and the names. -/
theorem same (h : KeepsHolds x) {t : GameState} (hdoes : Does keepsSeating x.game t)
    (ht : SameLobby x.game t) : KeepsHolds ⟨t, x.kept⟩ :=
  of_does h.wellFormed h.seating hdoes (ht.phase.trans h.lobby)
    (fun e he => ht.holds ▸ h.there e he) (honoured_same h.honoured ht.slots ht.names)

/-- A hold is kept if its slot is open: then nobody sits in it. -/
theorem hold (h : KeepsHolds x) (env : Env) (pid : UInt8) (caller name : Text)
    (slot : Option UInt8) : KeepsHolds (x.step (.hold env pid caller name slot)) := by
  cases slot with
  | none =>
      exact h.same (does_sendChatAll plain_keepsSeating x.game _) (.sendChatAll x.game _)
  | some sid =>
      generalize hs : ({ x.game with
        holds := (x.game.holds.filter fun h => h.1 != sid) ++ [(sid, name)] } : GameState) = s
      have hsame := SameLobby.sendChatAll s (txt "Slot reserved for [" ++ name ++ txt "].")
      have hstep : x.step (.hold env pid caller name (some sid))
          = ⟨s.sendChatAll (txt "Slot reserved for [" ++ name ++ txt "]."),
            (x.kept.filter fun h => h.1 != sid)
              ++ if x.game.slots.isOpen sid then [(sid, name)] else []⟩ := by
        rw [← hs]
        rfl
      have hholds : s.holds = (x.game.holds.filter fun h => h.1 != sid) ++ [(sid, name)] := by
        rw [← hs]
      have hdoes : Does keepsSeating x.game (s.sendChatAll (txt "Slot reserved for [" ++ name
          ++ txt "].")) := by
        rw [← hs]
        exact does_reportAll plain_keepsSeating (same_hold x.game name sid) (by rfl) _
      rw [hstep]
      refine of_does h.wellFormed h.seating hdoes ?_ ?_ ?_
      · rw [hsame.phase, ← hs]
        exact h.lobby
      · intro e he
        rw [hsame.holds, hholds]
        rcases List.mem_append.1 he with he | he
        · obtain ⟨he, hne⟩ := List.mem_filter.1 he
          exact List.mem_append_left _ (List.mem_filter.2 ⟨h.there e he, hne⟩)
        · split at he
          · exact List.mem_append_right _ he
          · cases he
      · intro e he a ha hhuman p hp hpid
        have hslots : (s.sendChatAll (txt "Slot reserved for [" ++ name ++ txt "].")).slots
            = x.game.slots := by
          rw [hsame.slots, ← hs]
        have hnames : (s.sendChatAll (txt "Slot reserved for [" ++ name ++ txt "].")).names
            = x.game.names := by
          rw [hsame.names, ← hs]
          rfl
        rcases List.mem_append.1 he with he | he
        · exact honoured_same h.honoured hslots hnames e (List.mem_filter.1 he).1 a ha hhuman p hp
            hpid
        · split at he
          · rename_i hopen
            rw [List.mem_singleton.1 he] at ha
            -- an open slot is nobody's
            rw [show (s.sendChatAll _).slots = x.game.slots from hslots] at ha
            unfold SlotTable.isOpen at hopen
            rw [show x.game.slots[sid.toNat]? = some a from ha] at hopen
            rw [SlotInfo.human, eq_of_beq hopen] at hhuman
            cases hhuman
          · cases he

end KeepsHolds

-- ===================================================================== joining

section Joining

variable {s : GameState}

/-- One player has gone. -/
theorem names_removePid (ps : PlayerTable) (pid : UInt8) :
    (ps.removePid pid).map (fun p => (p.pid, p.name))
      = (ps.map fun p => (p.pid, p.name)).eraseP fun n => n.1 == pid := by
  rw [List.eraseP_map]
  rfl

/-- The virtual host's removal is about the names only. -/
theorem deleteVirtualHost_spec (s : GameState) :
    s.deleteVirtualHost.slots = s.slots ∧ s.deleteVirtualHost.holds = s.holds
      ∧ s.deleteVirtualHost.phase = s.phase
      ∧ (s.deleteVirtualHost.names = s.names
        ∨ (s.virtualHostPid ≠ 255
          ∧ s.deleteVirtualHost.names = s.names.eraseP fun n => n.1 == s.virtualHostPid)) := by
  unfold deleteVirtualHost
  split
  · exact ⟨rfl, rfl, rfl, .inl rfl⟩
  rename_i hsome
  dsimp only
  have hsame := SameLobby.broadcast ({ s with
    virtualHostPid := 255, players := s.players.removePid s.virtualHostPid } : GameState)
    (.playerLeaveOthers s.virtualHostPid leaveLobby)
  refine ⟨hsame.slots, hsame.holds, hsame.phase, .inr ⟨hsome, hsame.names.trans ?_⟩⟩
  exact names_removePid s.players _

/-- A seated player is at the table under its name, and the virtual host
may be gone. -/
theorem seatPlayer_spec (s : GameState) (player : Player) :
    (s.seatPlayer player).slots = s.slots ∧ (s.seatPlayer player).holds = s.holds
      ∧ (s.seatPlayer player).phase = s.phase
      ∧ ((s.seatPlayer player).names = s.names ++ [(player.pid, player.name)]
        ∨ (s.virtualHostPid ≠ 255 ∧ (s.seatPlayer player).names
          = (s.names ++ [(player.pid, player.name)]).eraseP fun n => n.1 == s.virtualHostPid)) := by
  obtain ⟨link, hlink⟩ := sendAll_eq player (s.joinBurst player)
  unfold seatPlayer
  dsimp only
  rw [hlink]
  generalize hs₁ : ({ s with players := s.players ++ [{ player with link := link }] } : GameState)
    = s₁
  have hnames : s₁.names = s.names ++ [(player.pid, player.name)] := by
    rw [← hs₁]
    exact List.map_append
  generalize (Packet.playerInfo player.pid player.name player.externalIp
    player.internalIp).build = info
  have hsame := (SameLobby.sendOthersDirect? s₁ player.pid info).trans (.sendAllSlotInfo _)
  -- the host that goes is the one there was before
  have hhost : (s₁.sendOthersDirect? player.pid info).sendAllSlotInfo.virtualHostPid
      = s.virtualHostPid := by
    have hsend := (sendOthersDirect?_frame s₁ player.pid info).2
    have hair := broadcast?_sameHost (s₁.sendOthersDirect? player.pid info)
      (Packet.slotInfo (s₁.sendOthersDirect? player.pid info).slots
        (s₁.sendOthersDirect? player.pid info).randomSeed
        (s₁.sendOthersDirect? player.pid info).cfg.map.layoutStyle
        (s₁.sendOthersDirect? player.pid info).cfg.map.numPlayers).build
    rw [show (s₁.sendOthersDirect? player.pid info).sendAllSlotInfo.virtualHostPid = _ from
      hair.virtualHostPid, hsend.virtualHostPid, ← hs₁]
  have hslots : s₁.slots = s.slots := by rw [← hs₁]
  have hholds : s₁.holds = s.holds := by rw [← hs₁]
  have hphase : s₁.phase = s.phase := by rw [← hs₁]
  generalize (s₁.sendOthersDirect? player.pid info).sendAllSlotInfo = s₂ at hsame hhost
  split
  · obtain ⟨hs, hh, hp, hn⟩ := deleteVirtualHost_spec s₂
    refine ⟨hs.trans (hsame.slots.trans hslots), hh.trans (hsame.holds.trans hholds),
      hp.trans (hsame.phase.trans hphase), ?_⟩
    rw [hsame.names, hnames, hhost] at hn
    exact hn
  · exact ⟨hsame.slots.trans hslots, hsame.holds.trans hholds, hsame.phase.trans hphase,
      .inl (hsame.names.trans hnames)⟩

/-- A name after a player was seated is an old one or the player's. -/
theorem mem_names_seatPlayer (s : GameState) (player : Player) {n : UInt8 × Text}
    (h : n ∈ (s.seatPlayer player).names) : n ∈ s.names ∨ n = (player.pid, player.name) := by
  have hmem : n ∈ s.names ++ [(player.pid, player.name)] := by
    rcases (seatPlayer_spec s player).2.2.2 with hn | ⟨-, hn⟩
    · exact hn ▸ h
    · rw [hn] at h
      exact List.mem_of_mem_eraseP h
  rcases List.mem_append.1 hmem with hmem | hmem
  · exact .inl hmem
  · exact .inr (List.mem_singleton.1 hmem)

variable [RustStd]

/-- What becomes of a join request in the lobby: nobody comes, or the
client gets its slot, or the slot is given back. -/
theorem joinLobby_cases (s : GameState) (key : UInt32) (connId : Nat) (link : PlayerLink)
    (ip : Ip) (req : ReqJoin) :
    SameLobby s (s.joinLobby key connId link ip req)
      ∨ ∃ sid pid, s.joinSlot req.name = some sid ∧ s.players.nextFreePid = some pid
        ∧ (s.joinLobby key connId link ip req).holds = s.holds
        ∧ (s.joinLobby key connId link ip req).phase = s.phase
        ∧ (((s.joinLobby key connId link ip req).slots = (s.slots.occupySlot sid pid).1
            ∧ ∀ n ∈ (s.joinLobby key connId link ip req).names,
              n ∈ s.names ∨ n = (pid, req.name))
          ∨ ((s.joinLobby key connId link ip req).slots
              = ((s.slots.occupySlot sid pid).1.release pid).1
            ∧ (s.joinLobby key connId link ip req).names = s.names)) := by
  unfold joinLobby
  split
  · exact .inl ⟨rfl, rfl, rfl, rfl⟩
  split
  · rename_i sid pid hsid hpid
    refine .inr ⟨sid, pid, hsid, hpid, ?_⟩
    dsimp only
    split
    · rename_i b _
      split
      · generalize hplayer : ((s.setSlots (s.slots.occupySlot sid pid).1).newPlayer connId link ip
          req pid key).sendDirect b = player
        have hname : (player.pid, player.name) = (pid, req.name) := by
          rw [← hplayer]
          rfl
        obtain ⟨hslots, hholds, hphase, -⟩ :=
          seatPlayer_spec (s.setSlots (s.slots.occupySlot sid pid).1) player
        have hnames : ∀ n ∈ ((s.setSlots (s.slots.occupySlot sid pid).1).seatPlayer player).names,
            n ∈ s.names ∨ n = (player.pid, player.name) :=
          fun n hn => mem_names_seatPlayer (s.setSlots (s.slots.occupySlot sid pid).1) player hn
        rw [hname] at hnames
        exact ⟨hholds, hphase, .inl ⟨hslots, hnames⟩⟩
      · -- no room for the welcome: the slot taken is released again
        exact ⟨rfl, rfl, .inr ⟨rfl, rfl⟩⟩
    · exact ⟨rfl, rfl, .inr ⟨rfl, rfl⟩⟩
  · exact .inl ⟨rfl, rfl, rfl, rfl⟩

/-- The slot a joining client gets is held for its name, or for
nobody. -/
theorem joinSlot_spec {name : Text} {sid : UInt8} (h : s.joinSlot name = some sid) :
    (∃ g ∈ s.holds, g.1 = sid ∧ eqIgnoreAsciiCase g.2 name = true
      ∧ (RustStd.hashOrder s.holds).find? (fun h => eqIgnoreAsciiCase h.2 name) = some g
      ∧ s.slots.isOpen g.1 = true)
      ∨ ∀ g ∈ s.holds, g.1 ≠ sid := by
  have hfree : ∀ {free : Nat → Bool},
      (∀ i, free i = true → (!s.holds.any fun h => h.1 == i.toUInt8) = true) →
      ((List.range s.slots.length).find? free).map Nat.toUInt8 = some sid →
        ∀ g ∈ s.holds, g.1 ≠ sid := by
    intro free hfree hfind g hg hkey
    obtain ⟨i, hi, rfl⟩ := Option.map_eq_some_iff.1 hfind
    have hunheld := hfree i (List.find?_some hi)
    have hany : (s.holds.any fun h => h.1 == i.toUInt8) = true :=
      List.any_eq_true.2 ⟨g, hg, beq_iff_eq.2 hkey⟩
    rw [hany] at hunheld
    cases hunheld
  unfold joinSlot at h
  dsimp only at h
  split at h
  · rename_i rsid n hfind
    split at h
    · rename_i hopen
      have hname := List.find?_some hfind
      refine .inl ⟨(rsid, n), ?_, Option.some.inj h, hname, hfind, hopen⟩
      exact (RustStd.hashOrder_perm s.holds).mem_iff.1 (List.mem_of_find?_eq_some hfind)
    · refine .inr (hfree (fun i hi => ?_) h)
      split at hi
      · exact (Bool.and_eq_true _ _ ▸ hi).2
      · cases hi
  · refine .inr (hfree (fun i hi => ?_) h)
    split at hi
    · exact (Bool.and_eq_true _ _ ▸ hi).2
    · cases hi

end Joining

namespace KeepsHolds

variable [RustStd] {x : HeldLobby}

omit [RustStd] in
/-- A newcomer takes a slot that is kept for it or for nobody. -/
theorem honoured_occupy (h : KeepsHolds x) {sid pid : UInt8} {name : Text}
    (hfresh : ∀ q ∈ x.game.players, q.pid ≠ pid)
    (hkept : ∀ e ∈ x.kept, e.1 = sid → eqIgnoreAsciiCase e.2 name = true) {t : GameState}
    (hslots : t.slots = (x.game.slots.occupySlot sid pid).1)
    (hnames : ∀ n ∈ t.names, n ∈ x.game.names ∨ n = (pid, name)) :
    HeldLobby.Honoured ⟨t, x.kept⟩ := by
  intro e he a ha hhuman p hp hpa
  rw [show (⟨t, x.kept⟩ : HeldLobby).game.slots = _ from hslots] at ha
  rcases hnames (p.pid, p.name) (List.mem_map_of_mem hp) with hwho | hwho
  · -- one who was there before
    obtain ⟨q, hq, heq⟩ := List.mem_map.1 hwho
    obtain ⟨hqpid, hqname⟩ : q.pid = p.pid ∧ q.name = p.name := Prod.ext_iff.1 heq
    rcases SlotTable.getElem?_occupySlot_cases ha with ⟨-, hslot⟩ | ⟨-, -, hapid⟩
    · rw [← hqname]
      exact h.honoured e he a hslot hhuman q hq (hqpid.trans hpa)
    · exact absurd (hqpid.trans (hpa.trans hapid)) (hfresh q hq)
  · obtain ⟨hppid, hpname⟩ : p.pid = pid ∧ p.name = name := Prod.ext_iff.1 hwho
    rcases SlotTable.getElem?_occupySlot_cases ha with ⟨-, hslot⟩ | ⟨hkey, -, -⟩
    · obtain ⟨q, hq, -, hqa⟩ := guest h.seating hslot hhuman
      exact absurd (hqa.trans (hpa.symm.trans hppid)) (hfresh q hq)
    · rw [hpname]
      exact hkept e he (UInt8.toNat_inj.1 hkey)

omit [RustStd] in
/-- A slot is given back. -/
theorem honoured_release (h : x.Honoured) {pid : UInt8} {t : GameState}
    (hslots : t.slots = (x.game.slots.release pid).1) (hnames : ∀ n ∈ t.names, n ∈ x.game.names) :
    HeldLobby.Honoured ⟨t, x.kept⟩ := by
  intro e he a ha hhuman p hp hpa
  rw [show (⟨t, x.kept⟩ : HeldLobby).game.slots = _ from hslots] at ha
  obtain ⟨q, hq, heq⟩ := List.mem_map.1 (hnames (p.pid, p.name) (List.mem_map_of_mem hp))
  obtain ⟨hqpid, hqname⟩ : q.pid = p.pid ∧ q.name = p.name := Prod.ext_iff.1 heq
  rw [← hqname]
  exact h e he a (SlotTable.getElem?_release ha hhuman) hhuman q hq (hqpid.trans hpa)

/-- A client that asks to join. -/
theorem joinLobby (h : KeepsHolds x) {key : UInt32} {connId : Nat} {link : PlayerLink} {ip : Ip}
    {req : ReqJoin} (hdoes : Does keepsSeating x.game (x.game.joinLobby key connId link ip req)) :
    KeepsHolds ⟨x.game.joinLobby key connId link ip req, x.kept⟩ := by
  rcases joinLobby_cases x.game key connId link ip req with hsame |
    ⟨sid, pid, hsid, hpid, hholds, hphase, hend⟩
  · exact h.same hdoes hsame
  have hfresh := nextFreePid_fresh hpid
  have hkept : ∀ e ∈ x.kept, e.1 = sid → eqIgnoreAsciiCase e.2 req.name = true := by
    intro e he hkey
    rcases joinSlot_spec hsid with ⟨g, hg, hgsid, hgname, -, -⟩ | hnobody
    · rw [← h.one_each he hg (hgsid.trans hkey.symm)]
      exact hgname
    · exact absurd hkey (hnobody e (h.there e he))
  refine of_does h.wellFormed h.seating hdoes (hphase.trans h.lobby)
    (fun e he => hholds ▸ h.there e he) ?_
  rcases hend with ⟨hslots, hnames⟩ | ⟨hslots, hnames⟩
  · exact h.honoured_occupy hfresh hkept hslots hnames
  · have hgiven :
        HeldLobby.Honoured ⟨x.game.setSlots (x.game.slots.occupySlot sid pid).1, x.kept⟩ :=
      h.honoured_occupy hfresh hkept rfl fun n hn => .inl hn
    exact honoured_release hgiven hslots fun n hn => hnames ▸ hn

/-- A join request keeps the holds. -/
theorem join (h : KeepsHolds x) (key : UInt32) (connId : Nat) (payload : List UInt8) :
    KeepsHolds ⟨x.game.handleReqJoin key connId payload, x.kept⟩ := by
  have hpend : KeepsHolds ⟨x.game.unpend connId, x.kept⟩ :=
    h.same (does_unpend rfl connId) ⟨rfl, rfl, rfl, rfl⟩
  unfold handleReqJoin
  split
  · exact h
  rename_i e he
  dsimp only
  split
  · exact hpend
  rename_i req _
  rw [if_neg (not_not.2 (show (x.game.unpend connId).phase = .lobby from h.lobby))]
  have hlink : e.link.sent = [] := h.wellFormed.pending e (List.mem_of_find?_eq_some he)
  exact hpend.joinLobby (does_joinLobby plain_keepsSeating rfl rfl (fun _ _ _ => rfl) hpend.lobby
    key connId e.link hlink e.externalIp req)

end KeepsHolds

-- ================================================================ team changes

/-- Where a player sits after a team change: nobody moves but the
player, into the slot its forces lead to. -/
theorem applySlotRequest_team {s : GameState} {pid team : UInt8} (hlen : s.slots.length ≤ 256)
    {i : Nat} {a : SlotInfo} (ha : (s.applySlotRequest pid 0x11 team).1[i]? = some a)
    (hhuman : a.human = true) :
    (∃ b, s.slots[i]? = some b ∧ b.human = true ∧ b.pid = a.pid)
      ∨ ∃ sid ∈ s.forcesSlot pid team, i = sid.toNat ∧ a.pid = pid := by
  unfold applySlotRequest at ha
  dsimp only at ha
  split at ha
  · exact .inl ⟨a, ha, hhuman, rfl⟩
  rename_i sid hsid
  rw [if_pos rfl] at ha
  split at ha
  · rename_i hforces
    split at ha
    · rename_i dest hdest
      obtain ⟨b, hb, -, hbpid⟩ := SlotTable.sidOfPid_spec hsid hlen
      obtain ⟨c, hc, hopen⟩ := SlotTable.firstOpenInTeamFrom_spec hdest hlen
      rcases SlotTable.getElem?_swapSlots_cases hb hc hopen ha hhuman with ⟨-, h⟩ | ⟨hi, hpid⟩
      · exact .inl ⟨a, h, hhuman, rfl⟩
      · refine .inr ⟨dest, ?_, hi, hpid.trans hbpid⟩
        unfold forcesSlot
        rw [if_pos hforces, hsid]
        exact hdest
    · exact .inl ⟨a, ha, hhuman, rfl⟩
  · -- without forces the player keeps the slot
    unfold changeTeam at ha
    dsimp only at ha
    split at ha
    · exact .inl ⟨a, ha, hhuman, rfl⟩
    split at ha
    · exact .inl ⟨a, ha, hhuman, rfl⟩
    split at ha
    · exact .inl ⟨a, ha, hhuman, rfl⟩
    split at ha
    · exact .inl ⟨a, ha, hhuman, rfl⟩
    rename_i slot hslot
    unfold SlotTable.replace at ha
    rcases SlotTable.getElem?_modify_cases ha with h | ⟨hi, b, hb, rfl⟩
    · exact .inl ⟨a, h, hhuman, rfl⟩
    · rw [hi] at hb ⊢
      exact .inl ⟨slot, hslot, hhuman, rfl⟩

/-- What becomes of the fake player: nothing, or it goes, or it takes the
first open slot. -/
theorem toggleFakePlayer_cases (s : GameState) (link : PlayerLink) :
    SameLobby s (s.toggleFakePlayer link).1
      ∨ ((s.toggleFakePlayer link).1.holds = s.holds
        ∧ (s.toggleFakePlayer link).1.phase = s.phase
        ∧ ((∃ pid, (s.toggleFakePlayer link).1.slots = (s.slots.release pid).1
            ∧ ∀ n ∈ (s.toggleFakePlayer link).1.names, n ∈ s.names)
          ∨ ∃ sid pid, s.fakePlayerPid = none ∧ s.slots.firstOpen = some sid
            ∧ s.players.nextFreePid = some pid
            ∧ (s.toggleFakePlayer link).1.slots = (s.slots.occupySlot sid pid).1
            ∧ ∀ n ∈ (s.toggleFakePlayer link).1.names,
              n ∈ s.names ∨ n = (pid, txt "FakePlayer"))) := by
  unfold toggleFakePlayer
  split
  · exact .inl (.refl s)
  split
  · -- the fake player there is leaves and gives up its slot
    rename_i fpid _
    dsimp only
    generalize ht : ({ s with
      fakePlayerPid := none, players := s.players.removePid fpid
      slots := (s.slots.release fpid).1 } : GameState) = t
    have hsame := (SameLobby.broadcast t (.playerLeaveOthers fpid leaveLobby)).trans
      (.sendAllSlotInfo _)
    have hnames : t.names = s.names.eraseP fun n => n.1 == fpid := by
      rw [← ht]
      exact names_removePid s.players fpid
    refine .inr ⟨?_, ?_, .inl ⟨fpid, ?_, fun n hn => ?_⟩⟩
    · rw [hsame.holds, ← ht]
    · rw [hsame.phase, ← ht]
    · rw [hsame.slots, ← ht]
    · rw [hsame.names, hnames] at hn
      exact List.mem_of_mem_eraseP hn
  -- otherwise it takes the first open slot, whoever that slot is held for
  rename_i hnone
  split
  · rename_i pid sid hpid hsid
    dsimp only
    generalize hp : ({
      pid := pid, name := txt "FakePlayer", connId := 0, link := link, loaded := true }
      : Player) = p
    generalize ht : ({ s with
      players := s.players ++ [p], slots := (s.slots.occupySlot sid pid).1
      fakePlayerPid := some pid } : GameState) = t
    have hsame := (SameLobby.broadcast? t (Packet.playerInfo pid (txt "FakePlayer") Ip.zero
      Ip.zero).build).trans (.sendAllSlotInfo _)
    have hnames : t.names = s.names ++ [(pid, txt "FakePlayer")] := by
      rw [← ht, ← hp]
      exact List.map_append
    refine .inr ⟨?_, ?_, .inr ⟨sid, pid, hnone, hsid, hpid, ?_, fun n hn => ?_⟩⟩
    · rw [hsame.holds, ← ht]
    · rw [hsame.phase, ← ht]
    · rw [hsame.slots, ← ht]
    · rw [hsame.names, hnames] at hn
      rcases List.mem_append.1 hn with hn | hn
      · exact .inl hn
      · exact .inr (List.mem_singleton.1 hn)
  · exact .inl (.refl s)

namespace KeepsHolds

variable [RustStd] {x : HeldLobby}

/-- A team change that does not lead into a slot kept for another. -/
theorem changeTeam (h : KeepsHolds x) {p : Player} (hp : p ∈ x.game.players) {team : UInt8}
    (hfits : ∀ sid ∈ x.game.forcesSlot p.pid team, ∀ e ∈ x.kept, e.1 = sid →
      eqIgnoreAsciiCase e.2 p.name = true) :
    KeepsHolds ⟨x.game.editSlots (x.game.applySlotRequest p.pid 0x11 team), x.kept⟩ := by
  have hdoes := does_editSlots (r := x.game.applySlotRequest p.pid 0x11 team) plain_keepsSeating
    x.game rfl (sameSeats_applySlotRequest x.game p.pid 0x11 team)
  have hset : SameLobby (x.game.setSlots (x.game.applySlotRequest p.pid 0x11 team).1)
      (x.game.editSlots (x.game.applySlotRequest p.pid 0x11 team)) := by
    unfold editSlots
    split
    · exact .sendAllSlotInfo _
    · exact .refl _
  refine of_does h.wellFormed h.seating hdoes (hset.phase.trans h.lobby)
    (fun e he => hset.holds ▸ h.there e he) ?_
  intro e he a ha hhuman q hq hqa
  rw [show (⟨x.game.editSlots _, x.kept⟩ : HeldLobby).game.slots = _ from hset.slots] at ha
  obtain ⟨r, hr, hrpid, hrname⟩ := exists_of_names hset.names hq
  rw [← hrname]
  rcases applySlotRequest_team h.seating.length ha hhuman with ⟨b, hb, hbhuman, hba⟩ |
    ⟨sid, hsid, hkey, hapid⟩
  · exact h.honoured e he b hb hbhuman r hr (hrpid.trans (hqa.trans hba.symm))
  · -- the one who moved is the player
    have hsame : r = p := List.inj_on_of_nodup_map h.wellFormed.pids hr hp
      (hrpid.trans (hqa.trans hapid))
    rw [hsame]
    exact hfits sid hsid e he (UInt8.toNat_inj.1 hkey)

/-- A frame that asks for a team change. -/
theorem team (h : KeepsHolds x) (env : Env) (connId : Nat) (payload : List UInt8)
    (hflag : ∀ chat, ChatToHost.decode payload = .ok chat → chat.flag = 0x11)
    (hfits : ∀ p ∈ x.game.players.byConn connId, ∀ chat, ChatToHost.decode payload = .ok chat →
      ∀ sid ∈ x.game.forcesSlot p.pid chat.byte, ∀ e ∈ x.kept, e.1 = sid →
        eqIgnoreAsciiCase e.2 p.name = true) :
    KeepsHolds ⟨x.game.handleChatToHost env connId payload, x.kept⟩ := by
  unfold handleChatToHost
  split
  · exact h
  rename_i p hp
  split
  · exact h
  rename_i chat hchat
  split
  · exact h
  dsimp only
  have hmem : p ∈ x.game.players := List.mem_of_find?_eq_some hp
  -- a team change is one of the four slot requests
  have hrequest : 0x11 ≤ chat.flag ∧ chat.flag ≤ 0x14 := by
    rw [hflag chat hchat]
    decide
  obtain ⟨hdoes, -⟩ := does_triggerHint plain_keepsSeating x.game p.pid chat.message
  -- the answer to the trigger goes out before the request is looked at
  have hsame : SameLobby x.game (if chat.message = txt "?trigger" then
      x.game.sendChatTo p.pid (txt "Command trigger: !") else x.game) := by
    split
    · exact .sendChatTo _ _ _
    · exact .refl _
  have hcfg : (if chat.message = txt "?trigger" then
      x.game.sendChatTo p.pid (txt "Command trigger: !") else x.game).cfg = x.game.cfg := by
    split
    · exact (sendChatTo_sameTable _ _ _).cfg
    · rfl
  generalize (if chat.message = txt "?trigger" then
    x.game.sendChatTo p.pid (txt "Command trigger: !") else x.game) = t at hdoes hsame hcfg ⊢
  rw [if_pos hrequest]
  have ht : KeepsHolds ⟨t, x.kept⟩ := h.same hdoes hsame
  rw [if_pos (show t.phase = .lobby from hsame.phase.trans h.lobby), hflag chat hchat]
  obtain ⟨q, hq, hqpid, hqname⟩ := exists_of_names hsame.names.symm hmem
  rw [← hqpid]
  refine ht.changeTeam hq ?_
  intro sid hsid e he hkey
  rw [hqname]
  refine hfits p hp chat hchat sid ?_ e he hkey
  unfold forcesSlot at hsid ⊢
  rw [← hqpid, ← hsame.slots, ← hcfg]
  exact hsid

/-- The fake player comes to a slot that is kept for its name or for
nobody, or goes. -/
theorem fake (h : KeepsHolds x) {link : PlayerLink} (hlink : link.sent = [])
    (hhost : x.game.fakePlayerPid ≠ some x.game.virtualHostPid)
    (hfits : x.game.fakePlayerPid = none → ∀ sid ∈ x.game.slots.firstOpen, ∀ e ∈ x.kept,
      e.1 = sid → eqIgnoreAsciiCase e.2 (txt "FakePlayer") = true) :
    KeepsHolds ⟨(x.game.toggleFakePlayer link).1, x.kept⟩ := by
  have hdoes := does_toggleFakePlayer plain_keepsSeating (s := x.game) (fun _ => rfl)
    (fun _ => hhost) link hlink
  rcases toggleFakePlayer_cases x.game link with hsame | ⟨hholds, hphase, hend⟩
  · exact h.same hdoes hsame
  refine of_does h.wellFormed h.seating hdoes (hphase.trans h.lobby)
    (fun e he => hholds ▸ h.there e he) ?_
  rcases hend with ⟨pid, hslots, hnames⟩ | ⟨sid, pid, hnone, hsid, hpid, hslots, hnames⟩
  · exact honoured_release h.honoured hslots hnames
  · exact h.honoured_occupy (nextFreePid_fresh hpid) (hfits hnone sid hsid) hslots hnames

/-- An operation that respects the holds keeps them. -/
theorem step (h : KeepsHolds x) {op : SeatOp} (hop : op.Proper) (hfits : op.RespectsHolds x) :
    KeepsHolds (x.step op) := by
  cases op with
  | connect connId link externalIp => exact h.connect connId hop externalIp
  | hold env pid caller name slot => exact h.hold env pid caller name slot
  | join key connId payload => exact h.join key connId payload
  | team env connId payload => exact h.team env connId payload hop hfits
  | fake link => exact h.fake hop hfits.1 hfits.2

/-- So do all of them. -/
theorem leads (h : KeepsHolds x) {y : HeldLobby} (hrun : x.Leads y) : KeepsHolds y := by
  refine Lib.Path.preserves (I := KeepsHolds) ?_ hrun h
  rintro op x _ ⟨hop, hfits⟩ rfl hx
  exact hx.step hop hfits

end KeepsHolds

-- ================================================================== the holder

/-- A slot is nine bytes. -/
theorem length_encodeSlots (slots : SlotTable) :
    (slots.flatMap SlotInfo.encode).length = slots.length * 9 := by
  induction slots with
  | nil => rfl
  | cons a slots ih =>
      have hone : a.encode.length = 9 := rfl
      rw [List.flatMap_cons, List.length_append, ih, hone, List.length_cons]
      omega

/-- SLOT_INFO_JOIN of a table with slot ids can be built. -/
theorem slotInfoJoin_builds (pid : UInt8) (port : Nat) (ip : Ip) {slots : SlotTable}
    (hlen : slots.length ≤ 256) (seed : UInt32) (layout players : UInt8) :
    ∃ b, (Packet.slotInfoJoin pid port ip slots seed layout players).build = some b := by
  have hfits : (Packet.slotInfoJoin pid port ip slots seed layout players).fits = true := by
    unfold Packet.fits
    rw [decide_eq_true_eq]
    simp only [Packet.payload, Packet.slotBlock, List.length_append, length_encodeSlots,
      List.length_replicate, List.length_cons, List.length_nil, u16le, u32le, Ip.bytes]
    omega
  exact ⟨_, if_pos hfits⟩

section Holder

variable [RustStd] {s : GameState} {connId : Nat} {payload : List UInt8} {req : ReqJoin}
  {pid : UInt8}

/-- A client that is let in gets the slot it is given. -/
theorem LetIn.takes_slot (h : LetIn s connId payload req pid) (hlobby : s.phase = .lobby)
    (hseats : Seating s) (key : UInt32) {sid : UInt8} (hsid : s.joinSlot req.name = some sid) :
    (s.handleReqJoin key connId payload).slots = (s.slots.occupySlot sid pid).1 := by
  obtain ⟨e, he, hroom⟩ := h.pending
  unfold handleReqJoin
  rw [he]
  dsimp only
  rw [h.decodes]
  dsimp only
  rw [if_neg (not_not.2 (show (s.unpend connId).phase = .lobby from hlobby))]
  unfold joinLobby
  rw [if_neg (by rw [show (s.unpend connId).players = s.players from rfl, h.unknown]; simp)]
  rw [show (s.unpend connId).joinSlot req.name = some sid from hsid,
    show (s.unpend connId).players.nextFreePid = some pid from h.free]
  dsimp only
  split
  · rename_i b _
    split
    · exact (seatPlayer_spec _ _).1
    · rename_i hno
      exact absurd hroom hno
  · -- a table that has slot ids fits into the frame
    rename_i hbuild
    have hlen : (s.slots.occupySlot sid pid).1.length ≤ 256 := by
      rw [SlotTable.length_occupySlot]
      exact hseats.length
    obtain ⟨b, hb⟩ := slotInfoJoin_builds pid req.listenPort e.externalIp hlen s.randomSeed
      s.cfg.map.layoutStyle s.cfg.map.numPlayers
    cases (show some b = none from hb.symm.trans hbuild)

/-- A client for which there is no slot changes none. -/
theorem LetIn.finds_none (h : LetIn s connId payload req pid) (hlobby : s.phase = .lobby)
    (key : UInt32) (hsid : s.joinSlot req.name = none) :
    (s.handleReqJoin key connId payload).slots = s.slots := by
  obtain ⟨e, he, -⟩ := h.pending
  unfold handleReqJoin
  rw [he]
  dsimp only
  rw [h.decodes]
  dsimp only
  rw [if_neg (not_not.2 (show (s.unpend connId).phase = .lobby from hlobby))]
  unfold joinLobby
  rw [if_neg (by rw [show (s.unpend connId).players = s.players from rfl, h.unknown]; simp)]
  rw [show (s.unpend connId).joinSlot req.name = none from hsid]
  rfl

/-- The one hold that is looked at decides whether a newcomer sits in a
slot that was held for it. -/
theorem LetIn.seated_iff (h : LetIn s connId payload req pid) (hlobby : s.phase = .lobby)
    (hseats : Seating s) (key : UInt32) (hheld : s.HasOpenHold req.name) :
    SeatedByHold s (s.handleReqJoin key connId payload) req.name pid
      ↔ s.FindsOpenHold req.name := by
  have hfresh := nextFreePid_fresh h.free
  have hnew : ∀ {i : Nat} {a : SlotInfo}, s.slots[i]? = some a → a.human = true → a.pid ≠ pid := by
    intro i a ha hhuman hpid
    obtain ⟨q, hq, -, hqa⟩ := KeepsHolds.guest hseats ha hhuman
    exact hfresh q hq (hqa.trans hpid)
  constructor
  · rintro ⟨g, hg, -, a, ha, hhuman, hpid⟩
    cases hsid : s.joinSlot req.name with
    | none =>
        rw [h.finds_none hlobby key hsid] at ha
        exact absurd hpid (hnew ha hhuman)
    | some sid =>
        rw [h.takes_slot hlobby hseats key hsid] at ha
        rcases SlotTable.getElem?_occupySlot_cases ha with ⟨-, hold⟩ | ⟨hkey, -, -⟩
        · exact absurd hpid (hnew hold hhuman)
        have hgsid : g.1 = sid := UInt8.toNat_inj.1 hkey
        rcases joinSlot_spec hsid with ⟨f, -, -, -, hfind, hopen⟩ | hnobody
        · intro f' hf'
          cases hfind.symm.trans hf'
          exact hopen
        · exact absurd hgsid (hnobody g hg)
  · intro hopen
    obtain ⟨g, hg, hname, -⟩ := hheld
    -- some hold of the name is found
    have hsome : ((RustStd.hashOrder s.holds).find? fun h =>
        eqIgnoreAsciiCase h.2 req.name).isSome = true :=
      List.find?_isSome.2 ⟨g, (RustStd.hashOrder_perm s.holds).mem_iff.2 hg, hname⟩
    obtain ⟨f, hfind⟩ := Option.isSome_iff_exists.1 hsome
    have hfopen := hopen f hfind
    have hfname : eqIgnoreAsciiCase f.2 req.name = true := by
      have hp := List.find?_some hfind
      exact hp
    have hsid : s.joinSlot req.name = some f.1 := by
      unfold joinSlot
      dsimp only
      rw [hfind]
      dsimp only
      rw [if_pos hfopen]
    refine ⟨f, (RustStd.hashOrder_perm s.holds).mem_iff.1 (List.mem_of_find?_eq_some hfind),
      hfname, ?_⟩
    rw [h.takes_slot hlobby hseats key hsid]
    unfold SlotTable.isOpen at hfopen
    split at hfopen
    · rename_i a ha
      refine ⟨_, SlotTable.getElem?_occupySlot ha, rfl, rfl⟩
    · cases hfopen

end Holder

/-- **Held slots are honoured where the searches ask for them.** In every
lobby whose tables have matched since its slots were free, and after
every sequence of operations of which no team change and no fake player
ends in a slot kept for another, nobody but the holder sits in a slot
that was open when it was held; nor in one held before whose slot was
its holder's or nobody's when the sequence began; and a client that is let in while an
open slot is held for it sits in a slot held for it if and only if the
one hold that is looked at is of an open slot. -/
theorem holds_are_honoured [RustStd] {cfg : GameConfig} {now : Nat} {seed : UInt32} {s : GameState}
    (hfresh : FreshSlots (GameState.new cfg now seed).slots)
    (hreach : Runs KeepsSeats (GameState.new cfg now seed) s) (hlobby : s.phase = .lobby)
    {kept : List (UInt8 × Text)} (hkept : ∀ h ∈ kept, h ∈ s.holds)
    (hhonoured : HeldLobby.Honoured ⟨s, kept⟩) {x : HeldLobby}
    (hrun : HeldLobby.Leads ⟨s, kept⟩ x) :
    x.Honoured ∧ ∀ key connId payload req pid, LetIn x.game connId payload req pid →
      x.game.HasOpenHold req.name →
        (SeatedByHold x.game (x.game.handleReqJoin key connId payload) req.name pid
          ↔ x.game.FindsOpenHold req.name) := by
  obtain ⟨hwell, hseats⟩ := hreach.preserves (I := Seating) (new_wellFormed cfg now seed)
    (new_seating hfresh) fun s ev hs hev hC hI => step_seating hs hev hC hI
  have hstart : KeepsHolds ⟨s, kept⟩ := ⟨hwell, hseats, hlobby, hkept, hhonoured⟩
  have hend := hstart.leads hrun
  refine ⟨hend.honoured, ?_⟩
  intro key connId payload req pid hlet hheld
  exact hlet.seated_iff hend.lobby hend.seating key hheld

section Runs

open Scenario

/-- Whether what is decoded has a property. -/
instance instDecidableForallOk {ε α : Type} (P : α → Prop) [DecidablePred P] :
    (e : Except ε α) → Decidable (∀ a, e = .ok a → P a)
  | .ok a => decidable_of_iff (P a) ⟨fun h _ he => Except.ok.inj he ▸ h, fun h => h a rfl⟩
  | .error _ => isTrue fun _ he => (nomatch he)

instance : (op : SeatOp) → Decidable op.Proper
  | .connect _ link _ => inferInstanceAs (Decidable (link.sent = []))
  | .hold .. => inferInstanceAs (Decidable True)
  | .join .. => inferInstanceAs (Decidable True)
  | .team _ _ payload => inferInstanceAs
      (Decidable (∀ chat, ChatToHost.decode payload = .ok chat → chat.flag = 0x11))
  | .fake link => inferInstanceAs (Decidable (link.sent = []))

instance (x : HeldLobby) : (op : SeatOp) → Decidable (op.RespectsHolds x)
  | .connect .. => inferInstanceAs (Decidable True)
  | .hold .. => inferInstanceAs (Decidable True)
  | .join .. => inferInstanceAs (Decidable True)
  | .team _ connId payload => inferInstanceAs
      (Decidable (∀ p ∈ x.game.players.byConn connId,
        ∀ chat, ChatToHost.decode payload = .ok chat →
          ∀ sid ∈ x.game.forcesSlot p.pid chat.byte,
            ∀ h ∈ x.kept, h.1 = sid → eqIgnoreAsciiCase h.2 p.name = true))
  | .fake _ => inferInstanceAs
      (Decidable (x.game.fakePlayerPid ≠ some x.game.virtualHostPid
        ∧ (x.game.fakePlayerPid = none → ∀ sid ∈ x.game.slots.firstOpen,
          ∀ h ∈ x.kept, h.1 = sid → eqIgnoreAsciiCase h.2 (txt "FakePlayer") = true)))

instance (x : HeldLobby) : Decidable x.Honoured :=
  inferInstanceAs (Decidable (∀ h ∈ x.kept, ∀ a ∈ x.game.slots[h.1.toNat]?, a.human = true →
    ∀ p ∈ x.game.players, p.pid = a.pid → eqIgnoreAsciiCase h.2 p.name = true))

instance (s : GameState) (name : Text) : Decidable (s.HasOpenHold name) :=
  inferInstanceAs (Decidable (∃ h ∈ s.holds,
    eqIgnoreAsciiCase h.2 name = true ∧ s.slots.isOpen h.1 = true))

instance (s : GameState) (name : Text) : Decidable (s.FindsOpenHold name) :=
  inferInstanceAs (Decidable (∀ h ∈ (RustStd.hashOrder s.holds).find? fun h =>
    eqIgnoreAsciiCase h.2 name, s.slots.isOpen h.1 = true))

instance (s t : GameState) (name : Text) (pid : UInt8) : Decidable (SeatedByHold s t name pid) :=
  inferInstanceAs (Decidable (∃ h ∈ s.holds, eqIgnoreAsciiCase h.2 name = true
    ∧ ∃ a ∈ t.slots[h.1.toNat]?, a.human = true ∧ a.pid = pid))

/-- The request of a client to join. -/
def joinRequest (name : Text) : List UInt8 :=
  u32le 1 ++ u32le 0 ++ [0] ++ u16le 6112 ++ u32le 0 ++ name ++ [0] ++ [0, 0, 0, 0, 0, 0]
    ++ [10, 0, 0, 1]

/-- A slot is held, counted from zero. -/
def holdFor (name : Text) (sid : UInt8) : SeatOp :=
  .hold (env 7) 1 (txt "ann") name (some sid)

/-- A client connects. -/
def connectTo (connId : Nat) : SeatOp := .connect connId PlayerLink.drained ⟨10, 0, 0, 1⟩

/-- ann comes in and holds the third slot for cat. -/
def heldLobby : GameState :=
  lobby.run [connect 1 PlayerLink.drained, Scenario.join 1 (txt "ann"),
    say 1 1 (txt "!hold cat 3")]

/-- The second slot is held for bob besides, and cat connects. -/
def heldSeats : List SeatOp := [holdFor (txt "bob") 1, connectTo 3]

/-- The lobby after the operations, with the holds that are watched. -/
def HeldLobby.after (x : HeldLobby) (ops : List SeatOp) : HeldLobby := ops.foldl HeldLobby.step x

/-- What a client sends to join under a name. -/
def asks (name : Text) : ReqJoin :=
  ⟨1, 0, 6112, 0, name, ⟨10, 0, 0, 1⟩⟩

/-- cat gets the slot that was held for it before. -/
theorem holds_are_honoured_cat :
    (HeldLobby.after ⟨heldLobby, [(2, txt "cat")]⟩ heldSeats).Honoured
      ∧ (HeldLobby.after ⟨heldLobby, [(2, txt "cat")]⟩ heldSeats).kept
        = [(2, txt "cat"), (1, txt "bob")]
      ∧ SeatedByHold (HeldLobby.after ⟨heldLobby, [(2, txt "cat")]⟩ heldSeats).game
        ((HeldLobby.after ⟨heldLobby, [(2, txt "cat")]⟩ heldSeats).game.handleReqJoin 9 3
          (joinRequest (txt "cat"))) (txt "cat") 2 := by
  have hmeets : Lib.Meets HeldLobby.step (fun op x => op.Proper ∧ op.RespectsHolds x)
      ⟨heldLobby, [(2, txt "cat")]⟩ heldSeats := by decide +kernel
  obtain ⟨e, he, hroom⟩ := (Option.any_eq_true (fun e : Pending => decide (e.link.next = .room))
    ((HeldLobby.after ⟨heldLobby, [(2, txt "cat")]⟩ heldSeats).game.pending.find? fun e =>
      e.connId == 3)).1 (by decide +kernel)
  have hlet : LetIn (HeldLobby.after ⟨heldLobby, [(2, txt "cat")]⟩ heldSeats).game 3
      (joinRequest (txt "cat")) (asks (txt "cat")) 2 := {
    pending := ⟨e, he, of_decide_eq_true hroom⟩
    decodes := by decide +kernel
    unknown := by decide +kernel
    free := by decide +kernel }
  have hfresh : FreshSlots (GameState.new config 0 5).slots := by decide +kernel
  have hreach : Runs KeepsSeats lobby heldLobby := Runs.of_meets (by decide +kernel)
  have hall := holds_are_honoured hfresh hreach (by decide +kernel) (by decide +kernel)
    (by decide +kernel) (Lib.Path.of_meets hmeets)
  refine ⟨hall.1, by decide +kernel, ?_⟩
  exact (hall.2 9 3 _ _ 2 hlet (by decide +kernel)).2 (by decide +kernel)

/-- The lobby of a map with forces and of the same clients otherwise. -/
def forcesLobby : GameState :=
  GameState.new { config with map := { map with options := 0x40 } } 0 5

/-- A player asks for the first team. -/
def changesTeam (connId : Nat) (pid : UInt8) : SeatOp :=
  .team (env 7) connId [0, pid, 0x11, 0]

/-- The slot of ann and an open one are held for cat. -/
def twoHolds : HeldLobby :=
  HeldLobby.after ⟨lobby, []⟩ [connectTo 1, .join 7 1 (joinRequest (txt "ann")),
    holdFor (txt "cat") 0, holdFor (txt "cat") 2, connectTo 3]

/-- Both blind searches end in the slot held for cat; and cat, for whom
an open slot is held, sits beside it, since the hold that is found first
is of the slot of ann. -/
theorem blind_searches_take_held_slots :
    FreshSlots forcesLobby.slots ∧ FreshSlots lobby.slots
      ∧ ¬(HeldLobby.after ⟨forcesLobby, []⟩ [connectTo 1, .join 7 1 (joinRequest (txt "ann")),
        holdFor (txt "cat") 1, changesTeam 1 1]).Honoured
      ∧ ¬(HeldLobby.after ⟨lobby, []⟩ [holdFor (txt "cat") 0, .fake PlayerLink.drained]).Honoured
      ∧ twoHolds.game.HasOpenHold (txt "cat")
      ∧ ∃ p ∈ (twoHolds.game.handleReqJoin 9 3 (joinRequest (txt "cat"))).players,
        p.name = txt "cat" ∧ ¬SeatedByHold twoHolds.game
          (twoHolds.game.handleReqJoin 9 3 (joinRequest (txt "cat"))) (txt "cat") p.pid := by
  decide +kernel

end Runs

end Spectre

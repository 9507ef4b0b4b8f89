/-
The slot table and the player table.

The two tables are kept in step by hand: every player but the virtual
host sits in one occupied slot, and every slot a player sits in is
somebody's. `Seating` says that the ids in the slots are the ids of the
guests, each as often. A slot that is opened or closed by command under
a player breaks it, and so does the fake player toggled off after its
id has gone to the virtual host, because the host's own deletion then
takes a guest from the table and leaves its slot.
-/
import Spectre.Scenario

namespace Spectre

open GameState

-- ================================================================= statement

/-- Every player of the game has one slot, and every slot a player sits
in has one player. -/
structure SlotsMatch (s : GameState) : Prop where
  pids : (s.players.map Player.pid).Nodup
  seated : ∀ p ∈ s.players, p.virtualHost = false → p.left = none →
    s.slots.countP (fun a => a.slotStatus == slotOccupied && a.pid == p.pid) = 1
  filled : ∀ a ∈ s.slots, a.slotStatus = slotOccupied → a.computer = 0 →
    s.players.countP (fun p => p.pid == a.pid) = 1

/-- The slots a game may start with: none is occupied or carries an id,
and each has an index that is a slot id. -/
structure FreshSlots (t : SlotTable) : Prop where
  free : ∀ a ∈ t, a.slotStatus ≠ slotOccupied
  blank : ∀ a ∈ t, a.pid = 0
  length : t.length ≤ 256

/-- The slot a command is about to open or close. -/
def GameState.vacatedSlot [RustStd] (s : GameState) (ev : Event) : Option SlotInfo :=
  ((s.command ev).bind ChatCommand.vacates).bind fun sid => s.slots[sid.toNat]?

/-- No slot is opened or closed under a player, and the fake player is
not toggled off under the id of the virtual host. -/
structure KeepsSeats [RustStd] (s : GameState) (ev : Event) : Prop where
  vacate : ∀ a ∈ s.vacatedSlot ev, a.human = false
  fake : s.togglesFake ev = true → s.phase = .lobby → s.fakePlayerPid ≠ some s.virtualHostPid

-- ==================================================================== guests

/-- The ids of the players that take a slot. -/
def PlayerTable.guests (t : PlayerTable) : List UInt8 :=
  (t.filter fun p => !p.virtualHost).map Player.pid

namespace PlayerTable

variable {t u : PlayerTable}

/-- Two parts of a table. -/
theorem guests_append (t u : PlayerTable) : guests (t ++ u) = guests t ++ guests u := by
  unfold guests
  rw [List.filter_append, List.map_append]

/-- Who takes a slot: everybody but the virtual host. -/
theorem mem_guests {pid : UInt8} :
    pid ∈ t.guests ↔ ∃ p ∈ t, p.virtualHost = false ∧ p.pid = pid := by
  unfold guests
  rw [List.mem_map]
  constructor
  · rintro ⟨p, hp, hpid⟩
    obtain ⟨hp, hv⟩ := List.mem_filter.1 hp
    exact ⟨p, hp, by simpa using hv, hpid⟩
  · rintro ⟨p, hp, hv, hpid⟩
    exact ⟨p, List.mem_filter.2 ⟨hp, by simpa using hv⟩, hpid⟩

/-- Players that keep their id and their role are the same guests. -/
theorem guests_of_forall₂ (h : List.Forall₂ (fun p q : Player =>
    q.pid = p.pid ∧ q.virtualHost = p.virtualHost) t u) : guests u = guests t := by
  induction h with
  | nil => rfl
  | @cons p q t u hpq _ ih =>
      unfold guests at ih ⊢
      rw [List.filter_cons, List.filter_cons, hpq.2]
      split
      · rw [List.map_cons, List.map_cons, hpq.1, ih]
      · exact ih

/-- A removal takes the guest with the id, if there is one. -/
theorem guests_removePid (hnd : (t.map Player.pid).Nodup) (pid : UInt8) :
    guests (t.removePid pid) = (guests t).erase pid := by
  induction t with
  | nil => rfl
  | cons q t ih =>
      rw [List.map_cons, List.nodup_cons] at hnd
      have hrest := ih hnd.2
      unfold removePid at hrest ⊢
      by_cases hq : q.pid = pid
      · rw [List.eraseP_cons_of_pos (by simp [hq])]
        unfold guests
        rw [List.filter_cons]
        split
        · rw [List.map_cons, hq, List.erase_cons_head]
        · -- the virtual host has the id, so no guest does
          refine (List.erase_of_not_mem fun hmem => hnd.1 ?_).symm
          obtain ⟨p, hp, -, hpid⟩ := mem_guests.1 hmem
          rw [hq, ← hpid]
          exact List.mem_map_of_mem hp
      · rw [List.eraseP_cons_of_neg (by simp [hq])]
        unfold guests at hrest ⊢
        rw [List.filter_cons, List.filter_cons]
        split
        · rw [List.map_cons, List.map_cons, hrest, List.erase_cons_tail (by simp [hq])]
        · exact hrest

/-- No id comes twice. -/
theorem nodup_guests (hnd : (t.map Player.pid).Nodup) : t.guests.Nodup :=
  hnd.sublist (List.filter_sublist.map _)

end PlayerTable

-- ================================================================= invariant

/-- The ids in the slots are the ids of the guests. -/
structure Seating (s : GameState) : Prop where
  length : s.slots.length ≤ 256
  clean : s.slots.Clean
  seats : s.slots.seats.Perm s.players.guests
  pos : ∀ pid ∈ s.players.guests, pid ≠ 0
  fake : ∀ pid ∈ s.fakePlayerPid, pid ≠ 0
  host : s.virtualHostPid ≠ 255 → ∃ p ∈ s.players, p.pid = s.virtualHostPid ∧ p.virtualHost = true

namespace Seating

variable {s t : GameState}

/-- The tables match. -/
theorem slotsMatch (h : Seating s) (hs : WellFormed s) : SlotsMatch s where
  pids := hs.pids
  seated p hp hv _ := by
    have hmem : p.pid ∈ s.players.guests := PlayerTable.mem_guests.2 ⟨p, hp, hv, rfl⟩
    rw [SlotTable.countP_of_seats (h.pos p.pid hmem) h.clean, h.seats.count_eq]
    exact List.count_eq_one_of_mem (PlayerTable.nodup_guests hs.pids) hmem
  filled a ha hocc hcomp := by
    have hseat : a.pid ∈ s.slots.seats := by
      refine List.mem_map_of_mem (List.mem_filter.2 ⟨ha, ?_⟩)
      rw [SlotInfo.human, hocc, hcomp]
      rfl
    obtain ⟨p, hp, -, hpid⟩ := PlayerTable.mem_guests.1 (h.seats.mem_iff.1 hseat)
    have hcount : s.players.countP (fun p => p.pid == a.pid)
        = (s.players.map Player.pid).count a.pid := by
      rw [List.count, List.countP_map]
      rfl
    rw [hcount]
    exact List.count_eq_one_of_mem hs.pids (hpid ▸ List.mem_map_of_mem hp)

/-- Steps that keep both tables, up to the players' bookkeeping. -/
theorem of_forall₂ (h : Seating s) (hslots : t.slots = s.slots)
    (hplayers : List.Forall₂ (fun p q : Player => q.pid = p.pid ∧ q.virtualHost = p.virtualHost)
      s.players t.players)
    (hfake : t.fakePlayerPid = s.fakePlayerPid) (hhost : t.virtualHostPid = s.virtualHostPid) :
    Seating t := by
  have hguests : t.players.guests = s.players.guests := PlayerTable.guests_of_forall₂ hplayers
  refine ⟨?_, ?_, ?_, ?_, ?_, ?_⟩
  · rw [hslots]
    exact h.length
  · rw [hslots]
    exact h.clean
  · rw [hslots, hguests]
    exact h.seats
  · rw [hguests]
    exact h.pos
  · rw [hfake]
    exact h.fake
  · rw [hhost]
    intro hsome
    obtain ⟨p, hp, hpid, hv⟩ := h.host hsome
    obtain ⟨q, hq, hqp⟩ := Lib.exists_right_of_forall₂ hplayers hp
    exact ⟨q, hq, hqp.1.trans hpid, hqp.2.trans hv⟩

/-- Nothing that counts has changed. -/
theorem of_same (h : Seating s) (hslots : t.slots = s.slots) (hplayers : t.players = s.players)
    (hfake : t.fakePlayerPid = s.fakePlayerPid) (hhost : t.virtualHostPid = s.virtualHostPid) :
    Seating t := by
  refine h.of_forall₂ hslots ?_ hfake hhost
  rw [hplayers]
  exact List.forall₂_same.2 fun _ _ => ⟨rfl, rfl⟩

/-- A packet to all seats nobody. -/
theorem broadcast (h : Seating s) (b : Packet) : Seating (s.broadcast b) := by
  refine h.of_forall₂ (broadcast_slots s b) ?_ (broadcast_fakePlayerPid s b)
    (broadcast_virtualHostPid s b)
  rw [broadcast_players, List.forall₂_map_right_iff]
  exact List.forall₂_same.2 fun p _ => ⟨(p.kept_hear _ _ _).pid, (p.kept_hear _ _ _).virtualHost⟩

/-- The same, of one that may not have been built. -/
theorem broadcast? (h : Seating s) (b : Option Packet) : Seating (s.broadcast? b) := by
  cases b with
  | none => exact h
  | some b => exact h.broadcast b

/-- A packet to the others. -/
theorem sendOthersDirect? (h : Seating s) (pid : UInt8) (b : Option Packet) :
    Seating (s.sendOthersDirect? pid b) := by
  cases b with
  | none => exact h
  | some b =>
      refine h.of_forall₂ rfl ?_ rfl rfl
      show List.Forall₂ _ s.players
        (s.players.map fun p => if p.pid = pid then p else p.sendDirect b)
      rw [List.forall₂_map_right_iff]
      refine List.forall₂_same.2 fun p _ => ?_
      split
      · exact ⟨rfl, rfl⟩
      · exact ⟨rfl, rfl⟩

/-- The slots change and the seats do not. -/
theorem of_sameSeats (h : Seating s) {slots : SlotTable} (hs : SameSeats s.slots slots) :
    Seating (s.setSlots slots) where
  length := hs.length ▸ h.length
  clean := hs.clean h.clean
  seats := hs.seats.trans h.seats
  pos := h.pos
  fake := h.fake
  host := h.host

/-- A guest takes an open slot. -/
theorem seat (h : Seating s) {sid : UInt8} {p : Player} (hfree : Vacancy s sid p.pid)
    (hv : p.virtualHost = false) (hslots : t.slots = (s.slots.occupySlot sid p.pid).1)
    (hplayers : t.players = s.players ++ [p])
    (hfake : t.fakePlayerPid = s.fakePlayerPid ∨ t.fakePlayerPid = some p.pid)
    (hhost : t.virtualHostPid = s.virtualHostPid) : Seating t := by
  obtain ⟨hseats, hclean, hlen⟩ :=
    SlotTable.seats_occupySlot p.pid (hfree.isOpen h.length) h.clean
  have hguests : t.players.guests = s.players.guests ++ [p.pid] := by
    rw [hplayers, PlayerTable.guests_append]
    simp [PlayerTable.guests, hv]
  refine ⟨?_, ?_, ?_, ?_, ?_, ?_⟩
  · rw [hslots, hlen]
    exact h.length
  · rw [hslots]
    exact hclean
  · rw [hslots, hguests]
    exact hseats.trans ((h.seats.cons p.pid).trans (List.perm_append_singleton _ _).symm)
  · rw [hguests]
    intro pid hpid
    rcases List.mem_append.1 hpid with hpid | hpid
    · exact h.pos pid hpid
    · rw [List.mem_singleton.1 hpid]
      exact hfree.pos
  · intro pid hpid
    rcases hfake with he | he
    · exact h.fake pid (he ▸ hpid)
    · rw [he] at hpid
      rw [← Option.some.inj hpid]
      exact hfree.pos
  · rw [hhost]
    intro hsome
    obtain ⟨q, hq, hrest⟩ := h.host hsome
    exact ⟨q, hplayers ▸ List.mem_append_left _ hq, hrest⟩

/-- A player goes, and its slot with it. -/
theorem unseat (h : Seating s) (hs : WellFormed s) {pid : UInt8} (hpid : pid ≠ 0)
    (hno : s.virtualHostPid ≠ 255 → pid ≠ s.virtualHostPid)
    (hslots : t.slots = (s.slots.release pid).1) (hplayers : t.players = s.players.removePid pid)
    (hfake : ∀ q ∈ t.fakePlayerPid, q ∈ s.fakePlayerPid)
    (hhost : t.virtualHostPid = s.virtualHostPid) : Seating t := by
  obtain ⟨hseats, hclean, hlen⟩ := SlotTable.seats_release hpid h.clean h.length
  have hguests : t.players.guests = s.players.guests.erase pid := by
    rw [hplayers]
    exact PlayerTable.guests_removePid hs.pids pid
  refine ⟨?_, ?_, ?_, ?_, ?_, ?_⟩
  · rw [hslots, hlen]
    exact h.length
  · rw [hslots]
    exact hclean
  · rw [hslots, hguests]
    exact hseats.trans (h.seats.erase pid)
  · rw [hguests]
    exact fun q hq => h.pos q (List.mem_of_mem_erase hq)
  · exact fun q hq => h.fake q (hfake q hq)
  · rw [hhost]
    intro hsome
    obtain ⟨q, hq, hqpid, hv⟩ := h.host hsome
    refine ⟨q, ?_, hqpid, hv⟩
    rw [hplayers]
    refine (List.mem_eraseP_of_neg ?_).2 hq
    rw [hqpid]
    simpa using (hno hsome).symm

/-- The virtual host goes, and no guest with it. -/
theorem unhost (h : Seating s) (hs : WellFormed s) (hsome : s.virtualHostPid ≠ 255)
    (hslots : t.slots = s.slots) (hplayers : t.players = s.players.removePid s.virtualHostPid)
    (hfake : t.fakePlayerPid = s.fakePlayerPid) (hhost : t.virtualHostPid = 255) : Seating t := by
  have hguests : t.players.guests = s.players.guests := by
    rw [hplayers, PlayerTable.guests_removePid hs.pids]
    refine List.erase_of_not_mem fun hmem => ?_
    -- the id is the host's, and nobody else has it
    obtain ⟨p, hp, hpid, hv⟩ := h.host hsome
    obtain ⟨q, hq, hqv, hqpid⟩ := PlayerTable.mem_guests.1 hmem
    have hfind := Lib.find?_key_of_mem hs.pids hp
    have hfind' := Lib.find?_key_of_mem hs.pids hq
    rw [hpid] at hfind
    rw [hqpid, hfind] at hfind'
    rw [Option.some.inj hfind', hqv] at hv
    cases hv
  refine ⟨hslots ▸ h.length, hslots ▸ h.clean, ?_, ?_, hfake ▸ h.fake, ?_⟩
  · rw [hslots, hguests]
    exact h.seats
  · rw [hguests]
    exact h.pos
  · exact fun hne => absurd hhost hne

end Seating

-- ===================================================================== steps

/-- The steps that keep the tables in step. -/
def keepsSeating (k : Kind) (s : GameState) : Prop :=
  match k with
  | .vacate sid => ∀ a, s.slots[sid.toNat]? = some a → a.human = false
  | .unfake => s.fakePlayerPid ≠ some s.virtualHostPid
  | k => k.fine = true

section Loop

variable [RustStd] {s t : GameState}

omit [RustStd] in
/-- What every command may do is among these steps. -/
theorem plain_keepsSeating : Plain keepsSeating := by
  intro k hk _
  cases k <;> first | exact rfl | cases hk

/-- Each of them keeps the tables in step. -/
theorem Step.seating {k : Kind} (h : Step k s t) (hk : keepsSeating k s) (hs : WellFormed s)
    (hI : Seating s) : Seating t := by
  cases h with
  | misc h => exact hI.of_same h.slots h.players h.fakePlayerPid h.virtualHostPid
  | air b _ | airLag b _ | reset b _ => exact hI.broadcast b
  | block b _ f =>
      have hsame : Seating ((s.relayPush (.push b)).record f) := hI.of_same rfl rfl rfl rfl
      exact hsame.broadcast b
  | table _ ps hm =>
      refine hI.of_forall₂ rfl (hm.imp fun p q hpq => ?_) rfl rfl
      exact ⟨hpq.identity.1, hpq.identity.2.2⟩
  | seat sid player _ hfree hp _ info _ =>
      obtain ⟨hnew, hpid⟩ := hp.sendAll (s.joinBurst player)
      refine Seating.sendOthersDirect? ?_ _ _
      have hvacant : Vacancy s sid ((s.joinBurst player).foldl Player.sendDirect player).pid := by
        rw [hpid]
        exact hfree
      refine hI.seat hvacant hnew.virtualHost ?_ rfl (.inl rfl) rfl
      rw [hpid]
  | bounce sid pid _ hfree =>
      obtain ⟨hseats, hclean, hlen⟩ :=
        SlotTable.seats_occupySlot pid (hfree.isOpen hI.length) hI.clean
      obtain ⟨hback, hclean', hlen'⟩ :=
        SlotTable.seats_release hfree.pos hclean (hlen ▸ hI.length)
      -- the seat just taken is the one given back
      have hsame := hback.trans (hseats.erase pid)
      rw [List.erase_cons_head] at hsame
      exact hI.of_sameSeats ⟨hsame, fun _ => hclean', hlen'.trans hlen⟩
  | seatFake sid p _ _ hfree hp _ info _ =>
      refine Seating.broadcast? ?_ _
      exact hI.seat hfree hp.virtualHost rfl rfl (.inr rfl) rfl
  | host pid _ _ info _ =>
      have hair := hI.broadcast? info
      have hguests : ((s.broadcast? info).players ++ [hostPlayer pid s.cfg.virtualHostName]
          : PlayerTable).guests = (s.broadcast? info).players.guests := by
        rw [PlayerTable.guests_append]
        exact List.append_nil _
      refine ⟨hair.length, hair.clean, ?_, ?_, hair.fake, fun _ => ?_⟩
      · show (s.broadcast? info).slots.seats.Perm _
        rw [hguests]
        exact hair.seats
      · rw [hguests]
        exact hair.pos
      · exact ⟨hostPlayer pid s.cfg.virtualHostName,
          List.mem_append_right _ (List.mem_singleton_self _), rfl, rfl⟩
  | unseat pid r code hfind hleft hvh =>
      refine Seating.broadcast ?_ _
      have hmem := List.mem_of_find?_eq_some hfind
      refine hI.unseat hs ?_ ?_ rfl rfl (fun _ hq => hq) rfl
      · exact hI.pos pid (PlayerTable.mem_guests.2 ⟨_, hmem, hvh, byPid_pid hfind⟩)
      · rintro hsome rfl
        obtain ⟨q, hq, hqpid, hqv⟩ := hI.host hsome
        have hfind' := Lib.find?_key_of_mem hs.pids hq
        rw [hqpid, show s.players.find? _ = _ from hfind] at hfind'
        rw [← Option.some.inj hfind', hvh] at hqv
        cases hqv
  | unhost _ hsome =>
      refine Seating.broadcast ?_ _
      exact hI.unhost hs hsome rfl rfl rfl rfl
  | unfake pid _ hfake =>
      refine Seating.broadcast ?_ _
      refine hI.unseat hs (hI.fake pid hfake) ?_ rfl rfl (fun _ hq => nomatch hq) rfl
      rintro - rfl
      exact hk hfake
  | slots sl h => exact hI.of_sameSeats h
  | vacate sid status h => exact hI.of_sameSeats (SlotTable.sameSeats_vacate h hk)
  | hcl mode => exact hI.of_sameSeats (SlotTable.sameSeats_encodeHcl mode)
  | restart =>
      refine hI.of_forall₂ rfl ?_ rfl rfl
      show List.Forall₂ _ s.players (s.players.map Player.beginPlaying)
      rw [List.forall₂_map_right_iff]
      exact List.forall₂_same.2 fun p _ => ⟨rfl, rfl⟩
  | reap => cases hk
  | begin => cases hk
  | loaded => cases hk
  | lagCheck => cases hk
  | check => cases hk
  | sendTurn => cases hk
  | _ => exact hI.of_same rfl rfl rfl rfl

/-- An iteration that meets the condition is made of them. -/
theorem admits_keepsSeating {ev : Event} (hC : KeepsSeats s ev) : Admits keepsSeating s ev := by
  refine admits_fine ?_ ?_ fun _ _ _ => rfl
  · intro k hfine hguarded _
    cases k with
    | vacate sid => cases hguarded
    | unfake => cases hguarded
    | _ => exact hfine
  · exact
      { phase := fun _ => rfl
        slots := fun _ _ _ => rfl
        vacate := by
          intro cmd sid hcmd hvac t ht a ha
          refine hC.vacate a ?_
          unfold vacatedSlot
          rw [hcmd, Option.bind_some, hvac, Option.bind_some, ← ht.slots]
          exact ha
        limit := fun _ => rfl
        seat := fun _ _ _ _ _ _ _ => rfl
        bounce := fun _ _ => rfl
        seatFake := fun _ _ _ _ => rfl
        token := fun _ _ _ _ _ _ _ => rfl
        host := fun _ _ => rfl
        unhost := fun _ _ _ => rfl
        unfake := by
          intro htoggle hl t ht
          show t.fakePlayerPid ≠ some t.virtualHostPid
          rw [ht.fakePlayerPid, ht.virtualHostPid]
          exact hC.fake htoggle hl
        attachFull := fun _ _ _ _ _ => rfl
        attachGps := fun _ _ _ _ _ _ => rfl
        ack := fun _ _ _ _ _ _ _ _ _ => rfl
        queue := fun _ _ => rfl
        cache := fun _ _ => rfl
        feed := fun _ _ _ => rfl
        timeout := fun _ _ _ => rfl }

/-- It keeps the tables in step. -/
theorem step_seating {ev : Event} (hs : WellFormed s) (hev : ev.Sound) (hC : KeepsSeats s ev)
    (hI : Seating s) : Seating (s.step ev) := by
  refine (Lib.Path.preserves (I := fun s => WellFormed s ∧ Seating s) ?_
    (does_step hs hev (admits_keepsSeating hC)) ⟨hs, hI⟩).2
  intro k s t hk hst ⟨hs, hI⟩
  exact ⟨hst.keeps_wellFormed hs, hst.seating hk hs hI⟩

/-- A game that starts with free slots starts with both tables empty. -/
theorem new_seating {cfg : GameConfig} {now : Nat} {seed : UInt32}
    (hfresh : FreshSlots (GameState.new cfg now seed).slots) :
    Seating (GameState.new cfg now seed) where
  length := hfresh.length
  clean a ha _ := hfresh.blank a ha
  seats := by
    have hnone : (GameState.new cfg now seed).slots.seats = [] := by
      unfold SlotTable.seats
      rw [List.map_eq_nil_iff, List.filter_eq_nil_iff]
      intro a ha
      simp [SlotInfo.human, hfresh.free a ha]
    rw [hnone]
    exact List.Perm.nil
  pos _ h := nomatch h
  fake _ h := nomatch h
  host h := absurd rfl h

/-- From free slots, in every run in which no slot is opened or closed
under a player and the fake player is not toggled off under the id of
the virtual host, the tables match. -/
theorem slots_match_players {cfg : GameConfig} {now : Nat} {seed : UInt32}
    (hfresh : FreshSlots (GameState.new cfg now seed).slots)
    (h : Runs KeepsSeats (GameState.new cfg now seed) t) : SlotsMatch t := by
  obtain ⟨ht, hI⟩ := h.preserves (I := Seating) (new_wellFormed cfg now seed) (new_seating hfresh)
    fun s ev hs hev hC hI => step_seating hs hev hC hI
  exact hI.slotsMatch ht

end Loop

section Runs

open Scenario

instance (s : GameState) (ev : Event) : Decidable (KeepsSeats s ev) :=
  decidable_of_iff
    ((∀ a ∈ s.vacatedSlot ev, a.human = false)
      ∧ (s.togglesFake ev = true → s.phase = .lobby → s.fakePlayerPid ≠ some s.virtualHostPid))
    ⟨fun h => ⟨h.1, h.2⟩, fun h => ⟨h.vacate, h.fake⟩⟩

instance (t : SlotTable) : Decidable (FreshSlots t) :=
  decidable_of_iff
    ((∀ a ∈ t, a.slotStatus ≠ slotOccupied) ∧ (∀ a ∈ t, a.pid = 0) ∧ t.length ≤ 256)
    ⟨fun h => ⟨h.1, h.2.1, h.2.2⟩, fun h => ⟨h.free, h.blank, h.length⟩⟩

/-- Two clients join, the empty slot is closed, and they change
places. -/
def swappedLobby : List Event :=
  twoJoin PlayerLink.drained PlayerLink.drained
    ++ [say 1 1 (txt "!close 3"), say 1 1 (txt "!swap 1 2")]

/-- The players have changed places, and the ids with them. -/
theorem slots_match_players_swappedLobby :
    FreshSlots lobby.slots ∧ Runs KeepsSeats lobby (lobby.run swappedLobby)
      ∧ (lobby.run swappedLobby).slots.map (fun a => (a.slotStatus, a.pid))
        = [(slotOccupied, 2), (slotOccupied, 1), (slotClosed, 0)]
      ∧ SlotsMatch (lobby.run swappedLobby) := by
  have hfresh : FreshSlots lobby.slots := by decide +kernel
  have hrun : Runs KeepsSeats lobby (lobby.run swappedLobby) := Runs.of_meets (by decide +kernel)
  exact ⟨hfresh, hrun, by decide +kernel, slots_match_players hfresh hrun⟩

/-- The slot of the second player is closed. -/
def closedSeat : List Event :=
  twoJoin PlayerLink.drained PlayerLink.drained ++ [say 1 1 (txt "!close 2")]

/-- A player whose slot is closed stays at the table without one. -/
theorem close_command_unseats_player :
    FreshSlots lobby.slots ∧ (∀ ev ∈ closedSeat, ev.Sound)
      ∧ (lobby.run closedSeat).panicked = false
      ∧ (lobby.run closedSeat).players.map (fun p => (p.pid, p.left)) = [(1, none), (2, none)]
      ∧ (lobby.run closedSeat).slots.map (fun a => (a.slotStatus, a.pid))
        = [(slotOccupied, 1), (slotClosed, 0), (slotOpen, 0)]
      ∧ ¬SlotsMatch (lobby.run closedSeat) := by
  have hno : ∃ p ∈ (lobby.run closedSeat).players, p.virtualHost = false ∧ p.left = none
      ∧ (lobby.run closedSeat).slots.countP
        (fun a => a.slotStatus == slotOccupied && a.pid == p.pid) = 0 := by decide +kernel
  refine ⟨by decide +kernel, by decide +kernel, by decide +kernel, by decide +kernel,
    by decide +kernel, fun h => ?_⟩
  obtain ⟨p, hp, hv, hleft, hnone⟩ := hno
  have hone := h.seated p hp hv hleft
  rw [hnone] at hone
  cases hone

end Runs

end Spectre

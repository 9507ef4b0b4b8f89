/-
The lag screen.

`check_lag` raises the screen of a player with START_LAG and takes it
down with STOP_LAG; a leaver's PLAYER_LEAVE_OTHERS takes it down too.
The record of all broadcasts (`aired`) tells whose screen is up
(`lagShown`), and the invariant ties that to the lag flags of the
players in the table. It follows that nobody's screen is up when a turn
is sent, and that STOP_LAG always answers a START_LAG.

A FULL rejoin clears the lag flag and broadcasts nothing. Of a player
on the screen it leaves the screen up for good
(`rejoin_leaves_lag_screen`); every run without that is balanced.
-/
import Spectre.Lib.Latch
import Spectre.Scenario
import Mathlib.Data.List.Perm.Subperm

namespace Spectre

open GameState

-- ============================================================ the broadcasts

/-- A list of lag times names `pid`. -/
def names (l : List (UInt8 × Nat)) (pid : UInt8) : Bool := l.any fun e => e.1 == pid

namespace Packet

/-- START_LAG for `pid`. -/
def startsLag (pid : UInt8) : Packet → Bool
  | startLag l => names l pid
  | _ => false

/-- STOP_LAG for `pid`. -/
def stopsLag (pid : UInt8) : Packet → Bool
  | stopLag q _ => q == pid
  | _ => false

/-- STOP_LAG or PLAYER_LEAVE_OTHERS for `pid`. -/
def closesLag (pid : UInt8) : Packet → Bool
  | stopLag q _ => q == pid
  | playerLeaveOthers q _ => q == pid
  | _ => false

end Packet

/-- Whether the screen of `pid` is up after these broadcasts. -/
def lagShown (pid : UInt8) (aired : List Packet) : Bool :=
  Lib.latch (Packet.startsLag pid) (Packet.closesLag pid) aired

/-- Whether the last lag packet about `pid` is START_LAG. -/
def lagStarted (pid : UInt8) (aired : List Packet) : Bool :=
  Lib.latch (Packet.startsLag pid) (Packet.stopsLag pid) aired

/-- After every START_LAG that names `pid` its screen is taken down. -/
def LagClosed (pid : UInt8) (aired : List Packet) : Prop :=
  ∀ pre b post, aired = pre ++ b :: post → b.startsLag pid = true →
    ∃ c ∈ post, c.closesLag pid = true

/-- Every STOP_LAG is about a player whose last lag packet was
START_LAG: there was one, and no STOP_LAG since. -/
def StopsAnswerStarts (aired : List Packet) : Prop :=
  ∀ pre pid ms post, aired = pre ++ .stopLag pid ms :: post →
    ∃ pre' b mid, pre = pre' ++ b :: mid ∧ b.startsLag pid = true
      ∧ ∀ c ∈ mid, c.stopsLag pid = false

section Broadcasts

variable {pid : UInt8} {aired : List Packet} {b : Packet}

/-- The screen after one packet more. -/
theorem lagShown_concat : lagShown pid (aired ++ [b])
    = (b.startsLag pid || (lagShown pid aired && !b.closesLag pid)) := Lib.latch_concat

/-- The last lag packet, after one packet more. -/
theorem lagStarted_concat : lagStarted pid (aired ++ [b])
    = (b.startsLag pid || (lagStarted pid aired && !b.stopsLag pid)) := Lib.latch_concat

/-- An ordinary packet raises nobody's screen. -/
theorem lagShown_of_ordinary (hb : b.isLag = false) (h : lagShown pid (aired ++ [b]) = true) :
    lagShown pid aired = true := by
  have hstart : b.startsLag pid = false := by
    cases b <;> first | rfl | cases hb
  rw [lagShown_concat, hstart, Bool.false_or, Bool.and_eq_true] at h
  exact h.1

/-- A packet about something else changes nothing here. -/
theorem lagStarted_of_ordinary (hb : b.isLag = false) :
    lagStarted pid (aired ++ [b]) = lagStarted pid aired := by
  rw [lagStarted_concat]
  cases b with
  | startLag l => cases hb
  | stopLag q ms => cases hb
  | _ => exact Bool.and_true _

/-- A screen is down exactly if it was taken down after every
START_LAG. -/
theorem lagClosed_iff : LagClosed pid aired ↔ lagShown pid aired = false := by
  rw [Bool.eq_false_iff, ne_eq, lagShown, Lib.latch_iff]
  constructor
  · rintro h ⟨pre, b, post, he, hb, hpost⟩
    obtain ⟨c, hc, hclose⟩ := h pre b post he hb
    rw [hpost c hc] at hclose
    cases hclose
  · intro h pre b post he hb
    by_contra hno
    refine h ⟨pre, b, post, he, hb, fun c hc => ?_⟩
    rw [Bool.eq_false_iff]
    exact fun hclose => hno ⟨c, hc, hclose⟩

/-- One packet more, which stops no lag but one that was started. -/
theorem StopsAnswerStarts.concat (h : StopsAnswerStarts aired)
    (hb : ∀ pid ms, b = .stopLag pid ms → lagStarted pid aired = true) :
    StopsAnswerStarts (aired ++ [b]) := by
  intro pre pid ms post he
  rcases List.eq_nil_or_concat' post with rfl | ⟨post', c, rfl⟩
  · obtain ⟨rfl, hc⟩ := List.append_inj' he rfl
    exact Lib.latch_iff.1 (hb pid ms (List.singleton_inj.1 hc))
  · rw [← List.cons_append, ← List.append_assoc] at he
    obtain ⟨rfl, -⟩ := List.append_inj' he rfl
    exact h pre pid ms post' rfl

/-- Who is named by a list. -/
theorem names_iff {l : List (UInt8 × Nat)} : names l pid = true ↔ pid ∈ l.map Prod.fst := by
  simp [names]

/-- The broadcasts that take these players off the screen. -/
def stopPackets (l : List (UInt8 × Nat)) : List Packet := l.map fun e => .stopLag e.1 e.2

/-- The screens of those named go down. -/
theorem lagShown_stops (l : List (UInt8 × Nat)) :
    lagShown pid (aired ++ stopPackets l) = (lagShown pid aired && !names l pid) := by
  induction l generalizing aired with
  | nil => simp [stopPackets, names]
  | cons e l ih =>
      have hsplit : aired ++ stopPackets (e :: l) = aired ++ [.stopLag e.1 e.2]
        ++ stopPackets l := by
        simp [stopPackets]
      have hone : lagShown pid (aired ++ [.stopLag e.1 e.2])
        = (lagShown pid aired && !(e.1 == pid)) :=
        lagShown_concat
      rw [hsplit, ih, hone, names, names, List.any_cons, Bool.not_or, Bool.and_assoc]

/-- Their last lag packet is a STOP_LAG then. -/
theorem lagStarted_stops (l : List (UInt8 × Nat)) :
    lagStarted pid (aired ++ stopPackets l) = (lagStarted pid aired && !names l pid) := by
  induction l generalizing aired with
  | nil => simp [stopPackets, names]
  | cons e l ih =>
      have hsplit : aired ++ stopPackets (e :: l) = aired ++ [.stopLag e.1 e.2]
        ++ stopPackets l := by
        simp [stopPackets]
      have hone : lagStarted pid (aired ++ [.stopLag e.1 e.2])
          = (lagStarted pid aired && !(e.1 == pid)) := lagStarted_concat
      rw [hsplit, ih, hone, names, names, List.any_cons, Bool.not_or, Bool.and_assoc]

/-- Taking players off the screen is in order if they are on it, each
once. -/
theorem StopsAnswerStarts.stops (h : StopsAnswerStarts aired) {l : List (UInt8 × Nat)}
    (hnd : (l.map Prod.fst).Nodup) (hl : ∀ pid, names l pid = true → lagStarted pid aired = true) :
    StopsAnswerStarts (aired ++ stopPackets l) := by
  induction l generalizing aired with
  | nil => simpa [stopPackets] using h
  | cons e l ih =>
      rw [List.map_cons, List.nodup_cons] at hnd
      have hsplit : aired ++ stopPackets (e :: l) = aired ++ [.stopLag e.1 e.2]
        ++ stopPackets l := by
        simp [stopPackets]
      rw [hsplit]
      refine ih (h.concat ?_) hnd.2 ?_
      · intro pid ms he
        injection he with hpid
        rw [← hpid]
        exact hl e.1 (by simp [names])
      · intro pid hpid
        have hne : e.1 ≠ pid := by
          intro he
          exact hnd.1 (he ▸ names_iff.1 hpid)
        have hstarted : lagStarted pid aired = true := hl pid (by
          rw [names, List.any_cons, ← names, hpid, Bool.or_true])
        rw [lagStarted_concat, hstarted]
        simpa [Packet.startsLag, Packet.stopsLag] using hne

end Broadcasts

-- ================================================================= the flags

/-- The players whose lag flag is set. -/
def GameState.lagPids (s : GameState) : List UInt8 :=
  (s.players.filter Player.lagging).map Player.pid

/-- Whose flag is set. -/
theorem mem_lagPids {s : GameState} {pid : UInt8} :
    pid ∈ s.lagPids ↔ ∃ p ∈ s.players, p.lagging = true ∧ p.pid = pid := by
  simp [GameState.lagPids, and_assoc]

/-- The screens that are up are those of players whose flag is set, and
these were put up. -/
structure LagBalanced (s : GameState) : Prop where
  shown : ∀ pid, lagShown pid s.aired = true → pid ∈ s.lagPids
  started : ∀ pid, pid ∈ s.lagPids → lagStarted pid s.aired = true
  stops : StopsAnswerStarts s.aired

/-- Players that differ in neither id nor lag flag. -/
def SameLag (p q : Player) : Prop := q.pid = p.pid ∧ q.lagging = p.lagging

/-- The same flags are those of the same players. -/
theorem lagPids_of_sameLag {ps qs : PlayerTable} (h : List.Forall₂ SameLag ps qs) :
    (qs.filter Player.lagging).map Player.pid = (ps.filter Player.lagging).map Player.pid := by
  induction h with
  | nil => rfl
  | @cons p q _ _ hpq _ ih =>
      rw [List.filter_cons, List.filter_cons, hpq.2]
      split
      · rw [List.map_cons, List.map_cons, hpq.1, ih]
      · exact ih

/-- A broadcast sets no flag and clears none. -/
theorem broadcast_sameLag (s : GameState) (b : Packet) :
    List.Forall₂ SameLag s.players (s.broadcast b).players := by
  rw [broadcast_players, List.forall₂_map_right_iff]
  exact List.forall₂_same.2 fun p _ => ⟨(p.kept_hear _ _ _).pid, (p.kept_hear _ _ _).lagging⟩

@[simp] theorem broadcast_lagPids (s : GameState) (b : Packet) :
    (s.broadcast b).lagPids = s.lagPids := lagPids_of_sameLag (broadcast_sameLag s b)

namespace LagBalanced

variable {s t : GameState}

/-- Steps that touch neither flags nor broadcasts. -/
theorem of_same (h : LagBalanced s) (hpids : t.lagPids = s.lagPids) (haired : t.aired = s.aired) :
    LagBalanced t where
  shown := by
    rw [hpids, haired]
    exact h.shown
  started := by
    rw [hpids, haired]
    exact h.started
  stops := haired ▸ h.stops

/-- A broadcast about something else. -/
theorem broadcast (h : LagBalanced s) {b : Packet} (hb : b.isLag = false) :
    LagBalanced (s.broadcast b) where
  shown pid hpid := by
    rw [broadcast_aired] at hpid
    rw [broadcast_lagPids]
    exact h.shown pid (lagShown_of_ordinary hb hpid)
  started pid hpid := by
    rw [broadcast_lagPids] at hpid
    rw [broadcast_aired, lagStarted_of_ordinary hb]
    exact h.started pid hpid
  stops := by
    rw [broadcast_aired]
    refine h.stops.concat ?_
    rintro pid ms rfl
    cases hb

/-- A player leaves the table, and everyone is told. -/
theorem remove (h : LagBalanced s) {pid : UInt8} {code : Nat}
    (hplayers : t.players = s.players.removePid pid) (haired : t.aired = s.aired) :
    LagBalanced (t.broadcast (.playerLeaveOthers pid code)) := by
  have hsub : ∀ q, q ∈ t.lagPids → q ∈ s.lagPids := by
    intro q hq
    obtain ⟨p, hp, hlag, hpid⟩ := mem_lagPids.1 hq
    exact mem_lagPids.2 ⟨p, List.mem_of_mem_eraseP (hplayers ▸ hp), hlag, hpid⟩
  exact
    { shown := by
        intro q hq
        rw [broadcast_aired, haired, lagShown_concat] at hq
        simp only [Packet.startsLag, Packet.closesLag, Bool.false_or, Bool.and_eq_true] at hq
        obtain ⟨p, hp, hlag, hpid⟩ := mem_lagPids.1 (h.shown q hq.1)
        rw [broadcast_lagPids]
        refine mem_lagPids.2 ⟨p, ?_, hlag, hpid⟩
        rw [hplayers]
        refine (List.mem_eraseP_of_neg ?_).2 hp
        intro he
        have hqpid : q = pid := hpid.symm.trans (eq_of_beq he)
        simp [hqpid] at hq
      started := by
        intro q hq
        rw [broadcast_lagPids] at hq
        rw [broadcast_aired, haired, lagStarted_of_ordinary rfl]
        exact h.started q (hsub q hq)
      stops := by
        rw [broadcast_aired, haired]
        exact h.stops.concat (by simp) }

end LagBalanced

-- ================================================================= the check

/-- START_LAG always fits its frame: there are at most 256 players. -/
theorem startLag_build {l : List (UInt8 × Nat)} (hnd : (l.map Prod.fst).Nodup) :
    (Packet.startLag l).build = some (.startLag l) := by
  have hcount : l.length ≤ 256 := by
    have hsub : (l.map Prod.fst).map UInt8.toNat ⊆ List.range 256 := by
      intro n hn
      obtain ⟨x, -, rfl⟩ := List.mem_map.1 hn
      exact List.mem_range.2 x.toNat_lt
    have hnat : ((l.map Prod.fst).map UInt8.toNat).Nodup := hnd.map fun _ _ h => UInt8.toNat_inj.1 h
    have hle := (hnat.subperm hsub).length_le
    simpa using hle
  have hlen : (l.flatMap fun e => e.1 :: u32le e.2).length = 5 * l.length := by
    clear hnd hcount
    induction l with
    | nil => rfl
    | cons e l ih =>
        rw [List.flatMap_cons, List.length_append, ih]
        simp [u32le]
        omega
  have hfits : (Packet.startLag l).fits = true := by
    unfold Packet.fits
    rw [Packet.payload, List.length_cons, hlen]
    exact decide_eq_true (by omega)
  unfold Packet.build
  rw [if_pos hfits]

/-- A STOP_LAG for each of them goes to all. -/
theorem stopLags_aired (s : GameState) (l : List (UInt8 × Nat)) :
    (s.stopLags l).aired = s.aired ++ stopPackets l := by
  induction l generalizing s with
  | nil => simp [GameState.stopLags, stopPackets]
  | cons e l ih =>
      show ((s.broadcast (.stopLag e.1 e.2)).stopLags l).aired = _
      rw [ih, broadcast_aired]
      simp [stopPackets]

/-- That alone clears no flag. -/
theorem stopLags_lagPids (s : GameState) (l : List (UInt8 × Nat)) :
    (s.stopLags l).lagPids = s.lagPids := by
  induction l generalizing s with
  | nil => rfl
  | cons e l ih =>
      show ((s.broadcast (.stopLag e.1 e.2)).stopLags l).lagPids = _
      rw [ih, broadcast_lagPids]

/-- The screens after some players are taken off it and others put on:
the flags must say the same. -/
theorem LagBalanced.screen {s t : GameState} (h : LagBalanced s) (off on : List (UInt8 × Nat))
    (hnd : (off.map Prod.fst).Nodup) (hoff : ∀ pid, names off pid = true → pid ∈ s.lagPids)
    (hpids : ∀ pid, pid ∈ t.lagPids ↔
      (pid ∈ s.lagPids ∧ names off pid = false) ∨ names on pid = true)
    (hshown : ∀ pid, lagShown pid t.aired
      = (lagShown pid (s.aired ++ stopPackets off) || names on pid))
    (hstarted : ∀ pid, lagStarted pid t.aired
      = (lagStarted pid (s.aired ++ stopPackets off) || names on pid))
    (hstops : StopsAnswerStarts (s.aired ++ stopPackets off) → StopsAnswerStarts t.aired) :
    LagBalanced t where
  shown pid hpid := by
    rw [hshown, lagShown_stops, Bool.or_eq_true, Bool.and_eq_true, Bool.not_eq_true'] at hpid
    rw [hpids]
    rcases hpid with ⟨hs, hno⟩ | hon
    · exact .inl ⟨h.shown pid hs, hno⟩
    · exact .inr hon
  started pid hpid := by
    rw [hstarted, lagStarted_stops, Bool.or_eq_true, Bool.and_eq_true, Bool.not_eq_true']
    rcases (hpids pid).1 hpid with ⟨hs, hno⟩ | hon
    · exact .inl ⟨h.started pid hs, hno⟩
    · exact .inr hon
  stops := hstops (h.stops.stops hnd fun pid hpid => h.started pid (hoff pid hpid))

/-- One START_LAG names them all, if there are any. -/
theorem startLags_spec (s : GameState) {l : List (UInt8 × Nat)} (hnd : (l.map Prod.fst).Nodup) :
    (s.startLags l).lagPids = s.lagPids
      ∧ (s.startLags l).aired = if l = [] then s.aired else s.aired ++ [.startLag l] := by
  unfold GameState.startLags
  rw [startLag_build hnd]
  split
  · exact ⟨rfl, rfl⟩
  · split
    · exact ⟨broadcast_lagPids s _, broadcast_aired s _⟩
    · exact ⟨broadcast_lagPids s _, broadcast_aired s _⟩

/-- The record after START_LAG, if anyone is to be put on the screen. -/
theorem start_record {aired aired' : List Packet} {l : List (UInt8 × Nat)}
    (h : aired' = if l = [] then aired else aired ++ [.startLag l]) :
    (∀ pid, lagShown pid aired' = (lagShown pid aired || names l pid))
      ∧ (∀ pid, lagStarted pid aired' = (lagStarted pid aired || names l pid))
      ∧ (StopsAnswerStarts aired → StopsAnswerStarts aired') := by
  subst h
  split
  · rename_i hl
    subst hl
    simp [names]
  · refine ⟨fun pid => ?_, fun pid => ?_, fun h => h.concat (by simp)⟩
    · rw [lagShown_concat, Bool.or_comm]
      simp [Packet.startsLag, Packet.closesLag]
    · rw [lagStarted_concat, Bool.or_comm]
      simp [Packet.startsLag, Packet.stopsLag]

/-- Players with the same id are the same player. -/
theorem WellFormed.eq_of_pid {s : GameState} (hs : WellFormed s) {p q : Player}
    (hp : p ∈ s.players) (hq : q ∈ s.players) (h : p.pid = q.pid) : p = q :=
  List.inj_on_of_nodup_map hs.pids hp hq h

/-- A list of some of the players, by id, names each once. -/
theorem WellFormed.nodup_filter {s : GameState} (hs : WellFormed s) (q : Player → Bool)
    (f : Player → Nat) :
    (((s.players.filter q).map fun p => (p.pid, f p)).map Prod.fst).Nodup := by
  rw [List.map_map]
  exact hs.pids.sublist (List.filter_sublist.map _)

/-- Who is named by the list that is made of some players. -/
theorem names_filter {ps : PlayerTable} {q : Player → Bool} {f : Player → Nat} {pid : UInt8} :
    names ((ps.filter q).map fun p => (p.pid, f p)) pid = true
      ↔ ∃ p ∈ ps, q p = true ∧ p.pid = pid := by
  rw [names_iff]
  simp [and_assoc]

/-- The flags after the check: those that recovered are off, those that
fell behind are on. -/
theorem lagFlags_lagPids {s : GameState} (hs : WellFormed s) (pid : UInt8) :
    pid ∈ s.lagFlags.lagPids ↔
      (pid ∈ s.lagPids ∧ names s.recovered pid = false) ∨ names s.newlyLagging pid = true := by
  have hstarts : ∀ p : Player, p.startsLagging s.syncCounter s.cfg.syncLimit = true →
      p.recovers s.syncCounter s.cfg.syncLimit = false := by
    intro p hp
    simp only [Player.startsLagging, Bool.and_eq_true, Bool.not_eq_true'] at hp
    simp [Player.recovers, hp.1.2]
  rw [mem_lagPids, newlyLagging, names_filter]
  constructor
  · rintro ⟨q, hq, hlag, hpid⟩
    obtain ⟨p, hp, rfl⟩ := List.mem_map.1 hq
    unfold Player.lagStep at hlag hpid
    split at hlag
    · cases hlag
    rename_i hrec
    rw [if_neg hrec] at hpid
    split at hlag
    · rename_i hstart
      rw [if_pos hstart] at hpid
      exact .inr ⟨p, hp, hstart, hpid⟩
    · rename_i hstart
      rw [if_neg hstart] at hpid
      refine .inl ⟨mem_lagPids.2 ⟨p, hp, hlag, hpid⟩, ?_⟩
      -- another player with this id would be this one
      rw [Bool.eq_false_iff, recovered, ne_eq, names_filter]
      rintro ⟨r, hr, hrr, hrpid⟩
      rw [hs.eq_of_pid hr hp (hrpid.trans hpid.symm)] at hrr
      exact hrec hrr
  · rintro (⟨hpid, hrec⟩ | ⟨p, hp, hstart, hpid⟩)
    · obtain ⟨p, hp, hlag, hpid⟩ := mem_lagPids.1 hpid
      have hno : ¬p.recovers s.syncCounter s.cfg.syncLimit = true := by
        intro hr
        have hnamed : names s.recovered pid = true := names_filter.2 ⟨p, hp, hr, hpid⟩
        rw [hrec] at hnamed
        cases hnamed
      have hstay : p.lagStep s.now s.syncCounter s.cfg.syncLimit = p := by
        unfold Player.lagStep
        rw [if_neg hno, if_neg (by simp [Player.startsLagging, hlag])]
      exact ⟨p, List.mem_map.2 ⟨p, hp, hstay⟩, hlag, hpid⟩
    · refine ⟨_, List.mem_map_of_mem hp, ?_, ?_⟩
      · unfold Player.lagStep
        rw [if_neg (by simp [hstarts p hstart]), if_pos hstart]
      · unfold Player.lagStep
        rw [if_neg (by simp [hstarts p hstart]), if_pos hstart]
        exact hpid

/-- The check, up to the reset of the screen. -/
theorem LagBalanced.flagged {s : GameState} (h : LagBalanced s) (hs : WellFormed s) :
    LagBalanced s.updateLagScreen := by
  refine LagBalanced.of_same
    (s := (s.lagFlags.stopLags s.recovered).startLags s.newlyLagging) ?_ rfl rfl
  have hnew : (s.newlyLagging.map Prod.fst).Nodup := hs.nodup_filter _ _
  obtain ⟨hpids, haired⟩ := startLags_spec (s.lagFlags.stopLags s.recovered) hnew
  obtain ⟨hshown, hstarted, hstops⟩ := start_record haired
  rw [stopLags_aired] at hshown hstarted hstops
  refine h.screen s.recovered s.newlyLagging (hs.nodup_filter _ _) ?_ ?_ hshown
    hstarted hstops
  · intro pid hpid
    obtain ⟨p, hp, hrec, rfl⟩ := names_filter.1 hpid
    simp only [Player.recovers, Bool.and_eq_true] at hrec
    exact mem_lagPids.2 ⟨p, hp, hrec.1.2, rfl⟩
  · intro pid
    rw [hpids, stopLags_lagPids]
    exact lagFlags_lagPids hs pid

/-- The reset of the screen. -/
theorem LagBalanced.reset {s : GameState} (h : LagBalanced s) (hs : WellFormed s) :
    LagBalanced s.resetLagScreen := by
  unfold GameState.resetLagScreen
  dsimp only
  split
  · exact h
  rename_i hne
  have hnd : (s.laggers.map Prod.fst).Nodup := hs.nodup_filter _ _
  rw [startLag_build hnd]
  rw [show Outgoing.incomingAction [] 0 = some (.incomingAction [] 0) by decide]
  -- the empty turn between the packets is no lag packet
  have hlag : ∀ pid, names s.laggers pid = true → pid ∈ s.lagPids := by
    intro pid hpid
    obtain ⟨p, hp, hlag, rfl⟩ := names_filter.1 hpid
    simp only [Bool.and_eq_true] at hlag
    exact mem_lagPids.2 ⟨p, hp, hlag.1.1, rfl⟩
  have haired : (((s.stopLags s.laggers).broadcast (.incomingAction [] 0)).broadcast
      (.startLag s.laggers)).aired
      = s.aired ++ stopPackets s.laggers ++ [.incomingAction [] 0] ++ [.startLag s.laggers] := by
    rw [broadcast_aired, broadcast_aired, stopLags_aired]
  have hpids : (((s.stopLags s.laggers).broadcast (.incomingAction [] 0)).broadcast
      (.startLag s.laggers)).lagPids = s.lagPids := by
    rw [broadcast_lagPids, broadcast_lagPids, stopLags_lagPids]
  refine LagBalanced.of_same
    (s := ((s.stopLags s.laggers).broadcast (.incomingAction [] 0)).broadcast
    (.startLag s.laggers)) ?_ rfl rfl
  refine h.screen s.laggers s.laggers hnd hlag ?_ ?_ ?_ ?_
  · intro pid
    rw [hpids]
    constructor
    · intro hpid
      cases hname : names s.laggers pid with
      | true => exact .inr rfl
      | false => exact .inl ⟨hpid, rfl⟩
    · rintro (⟨hpid, -⟩ | hpid)
      · exact hpid
      · exact hlag pid hpid
  · intro pid
    rw [haired, lagShown_concat, lagShown_concat, Bool.or_comm]
    simp [Packet.startsLag, Packet.closesLag]
  · intro pid
    rw [haired, lagStarted_concat, lagStarted_concat, Bool.or_comm]
    simp [Packet.startsLag, Packet.stopsLag]
  · intro hstops
    rw [haired]
    exact (hstops.concat (by simp)).concat (by simp)

/-- A broadcast does not end the lag. -/
theorem broadcast_lagging (s : GameState) (b : Packet) : (s.broadcast b).lagging = s.lagging := by
  unfold GameState.broadcast
  split <;> rfl

/-- Nor does showing the screen anew. -/
theorem resetLagScreen_lagging (s : GameState) : s.resetLagScreen.lagging = s.lagging := by
  have hstop : ∀ (l : List (UInt8 × Nat)) (s : GameState), (s.stopLags l).lagging = s.lagging := by
    intro l
    induction l with
    | nil => exact fun s => rfl
    | cons e l ih => exact fun s => (ih _).trans (broadcast_lagging s _)
  have hair : ∀ (b : Option Packet) (s : GameState), (s.broadcast? b).lagging = s.lagging := by
    intro b s
    cases b with
    | none => rfl
    | some b => exact broadcast_lagging s b
  unfold GameState.resetLagScreen
  dsimp only
  split
  · rfl
  · rw [hair, hair, hstop]

/-- When the check finds no lag screen up, no flag is set. -/
theorem checkLag_flags {s : GameState} (h : s.checkLag.2 = false) :
    ∀ p ∈ s.checkLag.1.players, p.virtualHost = false → p.lagging = false := by
  unfold GameState.checkLag at h ⊢
  dsimp only at h ⊢
  split
  · -- the reset leaves the screen up
    rename_i hreset
    rw [if_pos hreset, resetLagScreen_lagging, hreset.1] at h
    cases h
  · rename_i hreset
    rw [if_neg hreset] at h
    intro p hp hvh
    have hnone : (s.updateLagScreen.players.any fun p => !p.virtualHost && p.lagging) = false := h
    rw [List.any_eq_false] at hnone
    simpa [hvh] using hnone p hp

-- ================================================================ iterations

/-- The steps between which the screens are balanced: the lag check is
taken whole, and a FULL rejoin is not of a player on the screen. -/
def wholeLagCheck (k : Kind) (s : GameState) : Prop :=
  match k with
  | .lag | .airLag | .reap | .begin | .loaded _ | .check | .sendTurn => False
  | .attachFull pid => pid ∉ s.lagPids
  | _ => True

/-- What every command may do is among these steps. -/
theorem plain_wholeLagCheck : Plain wholeLagCheck := by
  intro k hk _
  cases k <;> trivial

/-- No other step touches a lag flag. -/
theorem Moves.sameLag {s : GameState} {k : Kind} {p q : Player} (h : Moves s k p q)
    (hk : wholeLagCheck k s) (hp : p ∈ s.players) : SameLag p q := by
  have hkept : ∀ {q : Player}, Kept p q → SameLag p q := fun h => ⟨h.pid, h.lagging⟩
  cases h with
  | air b _ => exact hkept (p.kept_hear _ _ _)
  | tell b _ _ => exact hkept (p.kept_receive _ _)
  | feed => exact hkept (p.kept_feed _ _)
  | note h => exact ⟨h.pid, h.lagging⟩
  | timeout =>
      obtain ⟨_, _, he⟩ := p.loadingTimeout_eq
      rw [he]
      exact ⟨rfl, rfl⟩
  | hold reason code =>
      obtain ⟨_, _, _, he⟩ := p.connClosed_eq s.now reason code
      rw [he]
      exact ⟨rfl, rfl⟩
  | expire =>
      obtain ⟨_, _, _, _, _, he⟩ := p.gproxyTimeout_eq s.now s.cfg.reconnectWait
      rw [he]
      exact ⟨rfl, rfl⟩
  | lag _ _ _ => exact hk.elim
  | ack checksum _ =>
      obtain ⟨_, _, he⟩ := p.keepalive_eq s.syncCounter checksum
      rw [he]
      exact ⟨rfl, rfl⟩
  | attachFull connId link _ _ _ =>
      refine ⟨rfl, ?_⟩
      have hoff : ¬p.lagging = true := fun hlag => hk (mem_lagPids.2 ⟨p, hp, hlag, rfl⟩)
      show false = p.lagging
      simpa using hoff
  | attachGps connId link _ _ b _ last replay _ =>
      obtain ⟨link', he⟩ := p.attachGps_eq connId link b.totalSent replay
      rw [he]
      exact ⟨rfl, rfl⟩
  | _ => exact ⟨rfl, rfl⟩

/-- Between two lag checks no flag of a player changes. -/
theorem moves_sameLag {s : GameState} {k : Kind} (hk : wholeLagCheck k s) {ps qs : PlayerTable}
    (hsub : ∀ p ∈ ps, p ∈ s.players) (h : List.Forall₂ (Moves s k) ps qs) :
    List.Forall₂ SameLag ps qs := by
  induction h with
  | nil => exact .nil
  | cons hpq _ ih =>
      exact .cons (hpq.sameLag hk (hsub _ List.mem_cons_self))
        (ih fun p hp => hsub p (List.mem_cons_of_mem _ hp))

/-- A player who comes without the flag changes nothing. -/
theorem lagPids_append {s t : GameState} {p : Player} (hplayers : t.players = s.players ++ [p])
    (hp : p.lagging = false) : t.lagPids = s.lagPids := by
  unfold lagPids
  rw [hplayers, List.filter_append, List.filter_cons_of_neg (by simp [hp]), List.filter_nil,
    List.append_nil]

/-- Sends on the bare links change nothing. -/
theorem LagBalanced.sendOthersDirect? {s : GameState} (h : LagBalanced s) (pid : UInt8)
    (info : Option Packet) : LagBalanced (s.sendOthersDirect? pid info) := by
  cases info with
  | none => exact h
  | some b =>
      refine h.of_same (lagPids_of_sameLag ?_) rfl
      show List.Forall₂ SameLag s.players
        (s.players.map fun q => if q.pid = pid then q else q.sendDirect b)
      rw [List.forall₂_map_right_iff]
      refine List.forall₂_same.2 fun q _ => ?_
      split
      · exact ⟨rfl, rfl⟩
      · exact ⟨rfl, rfl⟩

/-- An announcement changes nothing. -/
theorem LagBalanced.broadcast? {s : GameState} (h : LagBalanced s) {info : Option Packet}
    (hinfo : ∀ b ∈ info, b.isLag = false) : LagBalanced (s.broadcast? info) := by
  cases info with
  | none => exact h
  | some b => exact h.broadcast (hinfo b rfl)

/-- PLAYER_INFO is no lag packet. -/
theorem isLag_playerInfo {info : Option Packet} {pid : UInt8} {name : Text} {ext int : Ip}
    (h : info = (Packet.playerInfo pid name ext int).build) : ∀ b ∈ info, b.isLag = false := by
  intro b hb
  have hbuild : (Packet.playerInfo pid name ext int).build = some b := h ▸ hb
  rw [Packet.build_eq_some hbuild]
  rfl

section Loop

variable [RustStd]

/-- The lag check keeps the screens and the flags in step. -/
theorem LagBalanced.checkLag {s : GameState} (h : LagBalanced s) (hs : WellFormed s) :
    LagBalanced s.checkLag.1 := by
  have hflagged := h.flagged hs
  unfold GameState.checkLag
  dsimp only
  split
  · refine hflagged.reset ?_
    have hpath : Does (fun _ _ => True) s s.updateLagScreen :=
      does_updateLagScreen (fun _ _ _ => trivial) (fun _ => trivial) (fun _ => trivial) s
    exact hpath.keeps_wellFormed hs
  · exact hflagged

/-- Every step keeps the screens and the flags in balance. -/
theorem Step.lagBalanced {k : Kind} {s t : GameState} (h : Step k s t) (hk : wholeLagCheck k s)
    (hs : WellFormed s) (hI : LagBalanced s) : LagBalanced t := by
  cases h with
  | misc h => exact hI.of_same (by unfold lagPids; rw [h.players]) h.aired
  | air b hb => exact hI.broadcast (Packet.isLag_of_isOrdinary hb)
  | reset b hb => exact hI.broadcast (Packet.isLag_of_isAction hb)
  | block b hb f =>
      have hsame : LagBalanced ((s.relayPush (.push b)).record f) := hI.of_same rfl rfl
      exact hsame.broadcast (Packet.isLag_of_isAction hb)
  | table _ ps hm =>
      exact hI.of_same (lagPids_of_sameLag (moves_sameLag hk (fun _ hp => hp) hm)) rfl
  | seat sid player _ _ hp _ info _ =>
      refine LagBalanced.sendOthersDirect? ?_ _ _
      exact hI.of_same (lagPids_append rfl (hp.sendAll _).1.lagging) rfl
  | seatFake sid p _ _ _ hp _ info hinfo =>
      refine LagBalanced.broadcast? ?_ (isLag_playerInfo hinfo)
      exact hI.of_same (lagPids_append rfl hp.lagging) rfl
  | host pid _ _ info hinfo =>
      have hair := hI.broadcast? (isLag_playerInfo hinfo)
      exact hair.of_same (lagPids_append rfl rfl) rfl
  | unseat pid r code _ _ _ => exact hI.remove rfl rfl
  | unhost _ _ => exact hI.remove rfl rfl
  | unfake pid _ _ => exact hI.remove rfl rfl
  | restart =>
      refine hI.of_same ?_ rfl
      refine lagPids_of_sameLag ?_
      show List.Forall₂ SameLag s.players (s.players.map Player.beginPlaying)
      rw [List.forall₂_map_right_iff]
      exact List.forall₂_same.2 fun p _ => ⟨rfl, rfl⟩
  | lagCheck => exact hI.checkLag hs
  | airLag => exact hk.elim
  | reap => exact hk.elim
  | begin => exact hk.elim
  | loaded => exact hk.elim
  | check => exact hk.elim
  | sendTurn => exact hk.elim
  | _ => exact hI.of_same rfl rfl

/-- A FULL rejoin is of a player that is not on the lag screen. -/
def RejoinsOffScreen (s : GameState) (ev : Event) : Prop :=
  ∀ pid ∈ s.fullSeat ev, pid ∉ s.lagPids

/-- The lag check is one of these steps, whole. -/
theorem does_wholeLagCheck (s : GameState) : Does wholeLagCheck s s.checkLag.1 :=
  Does.one (k := .lagCheck) trivial .lagCheck

/-- The desync check is made of them. -/
theorem does_wholeLagCheck_check (s : GameState) : Does wholeLagCheck s s.checkDesync :=
  does_checkDesync plain_wholeLagCheck (fun _ => trivial) (fun _ => trivial) s

/-- An iteration without a FULL rejoin from the screen is made of them. -/
theorem admits_wholeLagCheck {s : GameState} {ev : Event} (hC : RejoinsOffScreen s ev) :
    Admits wholeLagCheck s ev where
  plain := plain_wholeLagCheck
  attachFull pid hpid t ht _ := by
    show pid ∉ t.lagPids
    unfold lagPids
    rw [ht]
    exact hC pid hpid
  reap _ _ ht := does_reapLeftPlayers plain_wholeLagCheck (fun _ => trivial) (fun _ => trivial)
    (fun _ => trivial) (fun _ _ => trivial) ht
  begin _ _ hdue := does_beginLoading plain_wholeLagCheck trivial (fun _ _ => trivial)
    (fun _ _ _ => trivial) (fun _ => trivial) (fun _ _ => trivial)
    (phaseStep_of_countdownDue hdue)
  loaded _ _ _ _ := does_handleLoaded plain_wholeLagCheck (fun _ => trivial) (fun _ => trivial)
    (fun _ => trivial)
    (fun _ _ _ _ => trivial)
  check t _ := does_wholeLagCheck_check t
  lagCheck _ _ _ := does_wholeLagCheck s.lagPoint
  sendTurn skipped _ _ _ _ hstart := does_sendAllActions plain_wholeLagCheck trivial
    (fun _ => trivial) hstart skipped

/-- What is done in such steps keeps the balance. -/
theorem Does.lagBalanced {s t : GameState} (h : Does wholeLagCheck s t) (hs : WellFormed s)
    (hI : LagBalanced s) : LagBalanced t := by
  refine (Lib.Path.preserves (I := fun s => WellFormed s ∧ LagBalanced s) ?_ h ⟨hs, hI⟩).2
  intro k s t hk hst ⟨hs, hI⟩
  exact ⟨hst.keeps_wellFormed hs, hst.lagBalanced hk hs hI⟩

/-- The lag step of a tick. -/
theorem does_wholeLagCheck_tickLag (s : GameState) : Does wholeLagCheck s s.tickHead.tickLag.1 :=
  (does_tickHead plain_wholeLagCheck s).trans (does_tickLag plain_wholeLagCheck s trivial
    (does_wholeLagCheck_check _) (does_wholeLagCheck _))

/-- It keeps the balance too. -/
theorem LagBalanced.tickLag {s : GameState} (h : LagBalanced s) (hs : WellFormed s) :
    LagBalanced s.tickHead.tickLag.1 :=
  (does_wholeLagCheck_tickLag s).lagBalanced hs h

/-- In every run whose FULL rejoins are of players off the lag screen:
STOP_LAG is only ever sent to answer a START_LAG, and when a tick sends
its turn, every screen that was put up has been taken down. -/
theorem lag_screen_balanced {s : GameState} (h : Reaches RejoinsOffScreen s) :
    StopsAnswerStarts s.aired
      ∧ (s.phase = .playing → s.tickHead.tickLag.2 = false →
        ∀ pid, LagClosed pid s.tickHead.tickLag.1.aired) := by
  obtain ⟨hs, hI⟩ : WellFormed s ∧ LagBalanced s := by
    refine h.preserves (fun cfg now seed => ?_) ?_
    · refine ⟨fun pid hpid => (nomatch hpid), fun pid hpid => (nomatch hpid), ?_⟩
      intro pre pid ms post he
      cases pre <;> cases he
    · intro s ev hs hsound hC hI
      exact (does_step hs hsound (admits_wholeLagCheck hC)).lagBalanced hs hI
  refine ⟨hI.stops, fun _ hdown pid => lagClosed_iff.2 ?_⟩
  have htick := hI.tickLag hs
  have hs' : WellFormed s.tickHead.tickLag.1 := (does_wholeLagCheck_tickLag s).keeps_wellFormed hs
  rw [Bool.eq_false_iff]
  intro hshown
  obtain ⟨p, hp, hlag, -⟩ := mem_lagPids.1 (htick.shown pid hshown)
  -- no flag is set, the virtual host's least of all
  have hoff : p.lagging = false := by
    cases hvh : p.virtualHost with
    | false => exact checkLag_flags hdown p hp hvh
    | true => exact ((hs'.players p hp).host hvh).2.2.2
  rw [hlag] at hoff
  cases hoff

end Loop

section Runs

open Scenario

instance (s : GameState) (ev : Event) : Decidable (RejoinsOffScreen s ev) :=
  inferInstanceAs (Decidable (∀ pid ∈ s.fullSeat ev, pid ∉ s.lagPids))

/-- A lobby whose lag screen comes up at three turns behind. -/
def strictLobby : GameState := GameState.new { config with syncLimit := 2 } 0 5

/-- The second player, who uses GProxy, stops answering turns and the
lag screen comes up. -/
def laggingGame : List Event :=
  twoJoin PlayerLink.drained PlayerLink.drained ++ [hello 2] ++ countdown ++ [loaded 1, loaded 2]
    ++ [.elapse 100, .tick 0, keepalive 1, .elapse 100, .tick 0, keepalive 1, .elapse 100, .tick 0,
      keepalive 1, .elapse 100, .tick 0]

/-- The player answers the turns, and the lag screen goes down. -/
def recoveredGame : List Event :=
  laggingGame ++ [keepalive 2, keepalive 2, keepalive 2, .tick 0]

/-- The one STOP_LAG answers the one START_LAG. -/
theorem lag_screen_balanced_recoveredGame :
    Reaches RejoinsOffScreen (strictLobby.run recoveredGame)
      ∧ (strictLobby.run recoveredGame).aired.filter Packet.isLag
        = [.startLag [(2, 0)], .stopLag 2 0]
      ∧ StopsAnswerStarts (strictLobby.run recoveredGame).aired := by
  have hrun : Reaches RejoinsOffScreen (strictLobby.run recoveredGame) :=
    ⟨{ config with syncLimit := 2 }, 0, 5, Runs.of_meets (by decide +kernel)⟩
  exact ⟨hrun, by decide +kernel, (lag_screen_balanced hrun).1⟩

/-- The player restarts its client while on the lag screen, and
rejoins. -/
def laggingRejoin : List Event :=
  laggingGame ++ [closed 2, connect 3 PlayerLink.drained, full 3 2, join 3 (txt "bob")]

/-- The next turn is sent with that player's screen still up. -/
theorem rejoin_leaves_lag_screen :
    (∀ ev ∈ laggingRejoin, ev.Sound) ∧ (strictLobby.run laggingRejoin).panicked = false
      ∧ (strictLobby.run laggingRejoin).phase = .playing
      ∧ (strictLobby.run laggingRejoin).tickHead.tickLag.2 = false
      ∧ (strictLobby.run laggingRejoin).tickHead.tickLag.1.aired.filter Packet.isLag
        = [.startLag [(2, 0)]]
      ∧ ¬LagClosed 2 (strictLobby.run laggingRejoin).tickHead.tickLag.1.aired := by
  refine ⟨by decide +kernel, by decide +kernel, by decide +kernel, by decide +kernel,
    by decide +kernel, ?_⟩
  rw [lagClosed_iff]
  decide +kernel

end Runs

end Spectre

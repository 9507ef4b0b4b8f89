/-
The ports of the games.

The supervisor keeps three tables that speak of ports: the list of its
games, the ports it has given away, and the game each of them leads to.
They always agree (`Tables`): a port is given away exactly if a listed
game hosts on it, no two of them share one, and it leads to that game's
actor. What the supervisor cannot see is whether a game has ended: that
it learns when it cleans up, once a second. So it may list games that
have ended, and it may have taken a game off its list that is still to
end, but every other running game is on the list
(`hosting_tables_agree`).
-/
import Spectre.HostSteps
import Spectre.Scenario

namespace Spectre.Hosting

-- ============================================================ three tables that agree

/-- The tables agree with each other and with the actors: `listing` has
the port and the handle of every listed game, and `hosts` whether an
actor has exited, and the port it hosts on. -/
structure Tables (listing : List (Nat × Nat)) (allocated : List Nat) (routes : Handles)
    (hosts : List (Bool × Nat)) (unhosted : List Nat) : Prop where
  ports : (listing.map Prod.fst).Nodup
  handles : (listing.map Prod.snd).Nodup
  allocated : ∀ p, p ∈ allocated ↔ p ∈ listing.map Prod.fst
  routed : ∀ p h, routes.lookup p = some h ↔ (p, h) ∈ listing
  hosted : ∀ e ∈ listing, ∃ x, hosts[e.2]? = some (x, e.1)
  listed : ∀ h p, hosts[h]? = some (false, p) → h ∈ unhosted ∨ (p, h) ∈ listing

namespace Tables

variable {listing : List (Nat × Nat)} {allocated : List Nat} {routes : Handles}
  {hosts : List (Bool × Nat)} {unhosted : List Nat}

/-- Nothing is listed. -/
theorem empty : Tables [] [] ∅ [] [] where
  ports := List.nodup_nil
  handles := List.nodup_nil
  allocated _ := Iff.rfl
  routed p h := by simp
  hosted e he := (List.not_mem_nil he).elim
  listed h p hp := by simp at hp

/-- The port of a listed game leads to it and to no other. -/
theorem eq_of_port (t : Tables listing allocated routes hosts unhosted) {p h h' : Nat}
    (hp : (p, h) ∈ listing) (hp' : (p, h') ∈ listing) : h = h' :=
  Option.some.inj (((t.routed p h).2 hp).symm.trans ((t.routed p h').2 hp'))

/-- A new game on a free port. -/
theorem create (t : Tables listing allocated routes hosts unhosted) {p : Nat}
    (hfree : p ∉ allocated) :
    Tables (listing ++ [(p, hosts.length)]) (allocated ++ [p]) (routes.insert p hosts.length)
      (hosts ++ [(false, p)]) unhosted where
  ports := by
    rw [List.map_append, List.nodup_append]
    refine ⟨t.ports, List.nodup_singleton _, ?_⟩
    intro a ha b hb hab
    rw [List.map_singleton, List.mem_singleton] at hb
    -- the port was free, and the list names allocated ports only
    rw [hab, hb, ← t.allocated] at ha
    exact hfree ha
  handles := by
    rw [List.map_append, List.nodup_append]
    refine ⟨t.handles, List.nodup_singleton _, ?_⟩
    intro a ha b hb hab
    rw [List.map_singleton, List.mem_singleton] at hb
    -- the new handle is the first one not given out
    rw [hab, hb, List.mem_map] at ha
    obtain ⟨e, he, hlast⟩ := ha
    obtain ⟨x, hx⟩ := t.hosted e he
    rw [hlast, List.getElem?_eq_none (Nat.le_refl _)] at hx
    cases hx
  allocated q := by
    simp [t.allocated q]
  routed q h := by
    by_cases hq : q = p
    · subst hq
      rw [AList.lookup_insert, List.mem_append, List.mem_singleton]
      -- no route led there before
      have hnot : (q, h) ∉ listing := fun hmem =>
        hfree ((t.allocated q).2 (List.mem_map.2 ⟨_, hmem, rfl⟩))
      simp [hnot, eq_comm]
    · rw [AList.lookup_insert_ne hq, t.routed, List.mem_append, List.mem_singleton]
      simp [hq]
  hosted e he := by
    rcases List.mem_append.1 he with he | he
    · obtain ⟨x, hx⟩ := t.hosted e he
      have hlt := (List.getElem?_eq_some_iff.1 hx).1
      exact ⟨x, by rw [List.getElem?_append_left hlt, hx]⟩
    · rw [List.mem_singleton.1 he]
      exact ⟨false, by simp⟩
  listed h q hq := by
    rcases Nat.lt_trichotomy h hosts.length with hlt | heq | hgt
    · rw [List.getElem?_append_left hlt] at hq
      exact (t.listed h q hq).imp id fun hmem => List.mem_append_left _ hmem
    · subst heq
      rw [List.getElem?_concat_length] at hq
      cases hq
      exact .inr (List.mem_append_right _ (List.mem_singleton_self _))
    · rw [List.getElem?_eq_none (by rw [List.length_append]; exact hgt)] at hq
      cases hq

/-- A game is taken off the list. -/
theorem drop {before after : List (Nat × Nat)} {p h : Nat}
    (t : Tables (before ++ (p, h) :: after) allocated routes hosts unhosted) :
    Tables (before ++ after) (allocated.filter fun q => q ≠ p) (routes.erase p) hosts
      (unhosted ++ [h]) := by
  have hsub : (before ++ after).Sublist (before ++ (p, h) :: after) :=
    (List.Sublist.refl before).append (List.sublist_cons_self _ _)
  have hports := t.ports
  rw [List.map_append, List.map_cons, List.nodup_middle, List.nodup_cons,
    ← List.map_append] at hports
  have hmem : ∀ e : Nat × Nat, e ∈ before ++ (p, h) :: after ↔ e ∈ before ++ after
    ∨ e = (p, h) := by
    intro e
    simp only [List.mem_append, List.mem_cons]
    tauto
  -- no two listed games share a port, so the others keep theirs
  have hother : ∀ q g, (q, g) ∈ before ++ after → q ≠ p := by
    intro q g hq heq
    subst heq
    exact hports.1 (List.mem_map.2 ⟨_, hq, rfl⟩)
  constructor
  · exact hports.2
  · exact t.handles.sublist (hsub.map _)
  · intro q
    rw [List.mem_filter, t.allocated, List.mem_map, List.mem_map, decide_eq_true_eq]
    constructor
    · rintro ⟨⟨e, he, rfl⟩, hne⟩
      rcases (hmem e).1 he with he | rfl
      · exact ⟨e, he, rfl⟩
      · exact absurd rfl hne
    · rintro ⟨e, he, rfl⟩
      exact ⟨⟨e, (hmem e).2 (.inl he), rfl⟩, hother e.1 e.2 he⟩
  · intro q g
    -- the route of the port goes, the others stand
    by_cases hq : q = p
    · subst hq
      rw [AList.lookup_erase]
      exact ⟨fun hnone => (Option.some_ne_none g hnone.symm).elim, fun hin =>
        absurd rfl (hother q g hin)⟩
    · rw [AList.lookup_erase_ne hq, t.routed, hmem]
      refine ⟨fun hin => hin.resolve_right fun heq => hq (congrArg Prod.fst heq), .inl⟩
  · exact fun e he => t.hosted e (hsub.subset he)
  · intro g q hq
    rcases t.listed g q hq with hun | hin
    · exact .inl (List.mem_append_left _ hun)
    · rcases (hmem _).1 hin with hin | heq
      · exact .inr hin
      · cases heq
        exact .inl (List.mem_append_right _ (List.mem_singleton_self _))

/-- The ports of the games to be taken off, one by one. -/
theorem lookup_eraseAll (ports : List Nat) (q : Nat) :
    (ports.foldl (fun m p => m.erase p) routes).lookup q
      = if q ∈ ports then none else routes.lookup q := by
  induction ports generalizing routes with
  | nil => simp
  | cons p ports ih =>
      rw [List.foldl_cons, ih]
      by_cases hq : q ∈ ports
      · rw [if_pos hq, if_pos (List.mem_cons_of_mem p hq)]
      · rw [if_neg hq]
        by_cases heq : q = p
        · subst heq
          rw [AList.lookup_erase, if_pos List.mem_cons_self]
        · rw [AList.lookup_erase_ne heq, if_neg (by simp [heq, hq])]

/-- The games that have exited are taken off the list. -/
theorem clean (t : Tables listing allocated routes hosts unhosted) (closed : Nat → Bool)
    (hclosed : ∀ h p, hosts[h]? = some (false, p) → closed h = false) :
    let freed := (listing.filter fun e => closed e.2).map Prod.fst
    Tables (listing.filter fun e => !closed e.2) (allocated.filter fun p => !freed.contains p)
      (freed.foldl (fun m p => m.erase p) routes) hosts unhosted := by
  intro freed
  have hfreed : ∀ p, p ∈ freed ↔ ∃ h, (p, h) ∈ listing ∧ closed h = true := by
    intro p
    simp [freed]
  have hkept : ∀ p h, (p, h) ∈ listing.filter (fun e => !closed e.2)
      ↔ (p, h) ∈ listing ∧ closed h = false := by
    intro p h
    simp
  -- a port belongs to one game, so it is freed exactly when that game is closed
  have hnot : ∀ p h, (p, h) ∈ listing → (p ∉ freed ↔ closed h = false) := by
    intro p h hin
    rw [hfreed, ← Bool.not_eq_true, not_iff_not]
    constructor
    · rintro ⟨g, hg, hc⟩
      exact t.eq_of_port hg hin ▸ hc
    · exact fun hc => ⟨h, hin, hc⟩
  constructor
  · exact t.ports.sublist (List.filter_sublist.map _)
  · exact t.handles.sublist (List.filter_sublist.map _)
  · intro p
    rw [List.mem_filter, t.allocated, List.mem_map, List.mem_map]
    simp only [Bool.not_eq_true']
    constructor
    · rintro ⟨⟨e, he, rfl⟩, hp⟩
      exact ⟨e, (hkept e.1 e.2).2 ⟨he, (hnot e.1 e.2 he).1 (by simpa using hp)⟩, rfl⟩
    · rintro ⟨e, he, rfl⟩
      obtain ⟨hin, hc⟩ := (hkept e.1 e.2).1 he
      exact ⟨⟨e, hin, rfl⟩, by simpa using (hnot e.1 e.2 hin).2 hc⟩
  · intro p h
    rw [lookup_eraseAll, hkept]
    by_cases hp : p ∈ freed
    · rw [if_pos hp]
      refine ⟨fun hnone => (Option.some_ne_none h hnone.symm).elim, fun ⟨hin, hc⟩ => ?_⟩
      exact absurd hp ((hnot p h hin).2 hc)
    · rw [if_neg hp, t.routed]
      exact ⟨fun hin => ⟨hin, (hnot p h hin).1 hp⟩, fun hin => hin.1⟩
  · exact fun e he => t.hosted e (List.mem_of_mem_filter he)
  · intro h p hp
    exact (t.listed h p hp).imp id fun hin => (hkept p h).2 ⟨hin, hclosed h p hp⟩

/-- An actor exits. -/
theorem exit (t : Tables listing allocated routes hosts unhosted) (h : Nat) :
    Tables listing allocated routes (hosts.modify h fun x => (true, x.2)) unhosted := by
  refine ⟨t.ports, t.handles, t.allocated, t.routed, ?_, ?_⟩
  · intro e he
    obtain ⟨x, hx⟩ := t.hosted e he
    rw [List.getElem?_modify, hx]
    by_cases heq : h = e.2
    · exact ⟨true, by simp [heq]⟩
    · exact ⟨x, by simp [heq]⟩
  · intro g p hg
    rw [List.getElem?_modify] at hg
    by_cases heq : h = g
    · simp [heq] at hg
    · simp only [heq, if_false, id_map'] at hg
      exact t.listed g p hg

end Tables

-- ====================================================== the tables of the system

/-- The port and the handle of a listed game. -/
def ActiveGame.key (g : ActiveGame) : Nat × Nat := (g.port, g.handle)

namespace System

/-- Whether each actor has exited, and the port it hosts on. -/
def hosts (sys : System) : List (Bool × Nat) :=
  sys.actors.map fun a => (a.exited, a.game.cfg.hostPort)

/-- The tables of the supervisor agree. -/
def Agrees (sys : System) : Prop :=
  Tables (sys.sup.games.map ActiveGame.key) sys.sup.allocatedPorts sys.sup.portToGame sys.hosts
    sys.unhosted

variable {sys : System}

/-- The tables agree if they are those of a state where they do. -/
theorem Agrees.of_same {t : System} (h : sys.Agrees)
    (hgames : t.sup.games.map ActiveGame.key = sys.sup.games.map ActiveGame.key)
    (hports : t.sup.allocatedPorts = sys.sup.allocatedPorts)
    (hroutes : t.sup.portToGame = sys.sup.portToGame) (hhosts : t.hosts = sys.hosts)
    (hunhosted : t.unhosted = sys.unhosted) : t.Agrees := by
  unfold Agrees
  rw [hgames, hports, hroutes, hhosts, hunhosted]
  exact h

theorem hosts_send (sys : System) (h : Nat) (c : GameCmd) : (sys.send h c).hosts = sys.hosts := by
  refine List.ext_getElem? fun i => ?_
  unfold hosts send
  rw [List.getElem?_map, List.getElem?_map, List.getElem?_modify]
  cases sys.actors[i]? with
  | none => rfl
  | some a =>
      obtain ⟨hgame, hexited, -⟩ := actor_send a c
      by_cases hi : h = i
      · simp [hi, hgame, hexited]
      · simp [hi]

theorem Agrees.send (ha : sys.Agrees) (h : Nat) (c : GameCmd) : (sys.send h c).Agrees :=
  ha.of_same rfl rfl rfl (hosts_send sys h c) rfl

-- ============================================================ the operations

theorem allocatePort_spec {s s' : Supervisor} {cfg : HostConfig} {p : Nat}
    (h : s.allocatePort cfg = some (p, s')) :
    p ∉ s.allocatedPorts ∧ s' = { s with allocatedPorts := s.allocatedPorts ++ [p] } := by
  unfold Supervisor.allocatePort at h
  dsimp only at h
  split at h
  · rename_i q hfind
    cases h
    exact ⟨by simpa using List.find?_some hfind, rfl⟩
  · cases h

/-- A created game is listed on a port that was free. -/
theorem Agrees.createGame [RustStd] (ha : sys.Agrees) (cfg : HostConfig) (sp : Spawn)
    (name owner : Text) (isPublic : Bool) : (sys.createGame cfg sp name owner isPublic).Agrees := by
  unfold System.createGame
  dsimp only
  split
  · exact ha
  · rename_i port sup halloc
    obtain ⟨hfree, rfl⟩ := allocatePort_spec halloc
    have hlen : sys.hosts.length = sys.actors.length := List.length_map _
    have hnew := Tables.create ha hfree
    rw [hlen] at hnew
    unfold Agrees
    simpa [ActiveGame.key, GameState.new, hosts] using hnew

/-- A game that is found on the list is taken off it. -/
theorem Agrees.dropGame (ha : sys.Agrees) {q : ActiveGame → Bool} {g : ActiveGame}
    (hfind : sys.sup.games.find? q = some g) :
    (sys.dropGame g (sys.sup.games.eraseP q)).Agrees := by
  obtain ⟨hq, before, after, hgames, hbefore⟩ := List.find?_eq_some_iff_append.1 hfind
  have herase : sys.sup.games.eraseP q = before ++ after := by
    rw [hgames, List.eraseP_append_right _ (fun b hb => by simpa using hbefore b hb),
      List.eraseP_cons_of_pos hq]
  unfold Agrees at ha
  rw [hgames, List.map_append, List.map_cons] at ha
  have hdrop := Tables.drop ha
  rw [← List.map_append, ← hosts_send sys g.handle .unhost] at hdrop
  rw [herase]
  exact hdrop

/-- An actor that has not exited is not closed. -/
theorem isClosed_of_hosts {h p : Nat} (hh : sys.hosts[h]? = some (false, p)) :
    sys.isClosed h = false := by
  unfold hosts at hh
  rw [List.getElem?_map, Option.map_eq_some_iff] at hh
  obtain ⟨a, ha, hx⟩ := hh
  unfold isClosed
  rw [ha]
  exact congrArg Prod.fst hx

/-- The cleanup takes off the games that have exited. -/
theorem Agrees.cleanFinishedGames (ha : sys.Agrees) : sys.cleanFinishedGames.Agrees := by
  have hclean := Tables.clean ha sys.isClosed fun h p hh => isClosed_of_hosts hh
  have hfreed : ((sys.sup.games.map ActiveGame.key).filter fun e => sys.isClosed e.2).map Prod.fst
      = (sys.sup.games.filter fun g => sys.isClosed g.handle).map ActiveGame.port := by
    rw [List.filter_map, List.map_map]
    rfl
  have hkept : ((sys.sup.games.map ActiveGame.key).filter fun e => !sys.isClosed e.2)
      = (sys.sup.games.filter fun g => !sys.isClosed g.handle).map ActiveGame.key := by
    rw [List.filter_map]
    rfl
  dsimp only at hclean
  rw [hfreed, hkept] at hclean
  unfold System.cleanFinishedGames
  dsimp only
  split
  · split
    · exact hclean
    · exact hclean
  · exact hclean

/-- The games keep their handles when a status report comes in. -/
theorem map_key_report (games : List ActiveGame) (e : LobbyStatus) :
    (Lib.updateFirst (fun g => g.hostCounter == e.hostCounter) (fun g : ActiveGame => g.report e)
      games).map ActiveGame.key = games.map ActiveGame.key :=
  Lib.map_updateFirst fun _ _ => rfl

/-- A game keeps its port in every iteration. -/
theorem step_hostPort [RustStd] {s : GameState} (hs : WellFormed s) {ev : Event}
    (hsound : ev.Sound) : (s.step ev).cfg.hostPort = s.cfg.hostPort :=
  (does_step hs hsound (admits_anyFine s ev)).hostPort

/-- An iteration of a game changes none of it. -/
theorem hosts_iterate [RustStd] (hs : sys.Sound) {h : Nat} {a : Actor} (inbox : List GameCmd)
    {e : Event} (ha : sys.actors[h]? = some a) (he : e.Sound) :
    (sys.iterate h a inbox e).hosts = sys.hosts := by
  obtain ⟨hwf, -⟩ := hs a (List.mem_of_getElem? ha)
  refine List.ext_getElem? fun i => ?_
  unfold hosts System.iterate
  dsimp only
  rw [List.getElem?_map, List.getElem?_map, List.getElem?_set]
  by_cases hi : h = i
  · subst hi
    obtain ⟨hlt, -⟩ := List.getElem?_eq_some_iff.1 ha
    rw [if_pos rfl, if_pos hlt, ha]
    simp [step_hostPort hwf he]
  · rw [if_neg hi]

theorem hosts_exit (sys : System) (h : Nat) : (sys.exit h).hosts = sys.hosts
    ∨ (sys.exit h).hosts = sys.hosts.modify h fun x => (true, x.2) := by
  cases ha : sys.actors[h]? with
  | none =>
      refine .inl (List.ext_getElem? fun i => ?_)
      unfold hosts System.exit
      rw [List.getElem?_map, List.getElem?_map, List.getElem?_modify]
      by_cases hi : h = i
      · subst hi
        rw [ha]
        rfl
      · simp [hi]
  | some a =>
      by_cases hdone : a.game.finished = true ∨ a.inbox = [] ∧ sys.sup.holds h = false
      · refine .inr (List.ext_getElem? fun i => ?_)
        unfold hosts System.exit
        rw [List.getElem?_map, List.getElem?_modify, List.getElem?_modify, List.getElem?_map]
        by_cases hi : h = i
        · subst hi
          simp [ha, hdone]
        · simp [hi]
      · refine .inl (List.ext_getElem? fun i => ?_)
        unfold hosts System.exit
        rw [List.getElem?_map, List.getElem?_map, List.getElem?_modify]
        by_cases hi : h = i
        · subst hi
          simp [ha, hdone]
        · simp [hi]

theorem Agrees.exit (ha : sys.Agrees) (h : Nat) : (sys.exit h).Agrees := by
  rcases hosts_exit sys h with hsame | hexit
  · exact ha.of_same rfl rfl rfl hsame rfl
  · have hdone := Tables.exit ha h
    rw [← hexit] at hdone
    exact hdone

/-- Every operation keeps the tables in agreement. -/
theorem Agrees.op [RustStd] {cfg : HostConfig} {s₀ : System} {ev : HostEvent} {t : System}
    (ha : sys.Agrees) (h : Op cfg s₀ ev sys t) : t.Agrees := by
  cases h with
  | send h c _ => exact ha.send h c
  | create sp name owner isPublic _ _ => exact ha.createGame cfg sp name owner isPublic
  | drop q g hfind => exact ha.dropGame hfind
  | forget h _ =>
      refine ⟨ha.ports, ha.handles, ha.allocated, ha.routed, ha.hosted, ?_⟩
      exact fun g p hg => (ha.listed g p hg).imp (List.mem_append_left _) id
  | clean => exact ha.cleanFinishedGames
  | bind connId h => exact ha.of_same rfl rfl rfl rfl rfl
  | report =>
      unfold System.handleStatus
      split
      · exact ha
      · rename_i e rest _
        exact ha.of_same (map_key_report _ e) rfl rfl rfl rfl
  | stop running requested => exact ha.of_same rfl rfl rfl rfl rfl
  | exit h => exact ha.exit h

end System

-- ======================================================================== runs

section Run

variable [RustStd] {cfg : HostConfig} {C : System → HostEvent → Prop} {sys : System}

/-- The actor hosts on the port, and has not exited. -/
def System.IsHosting (sys : System) (h p : Nat) : Prop := sys.hosts[h]? = some (false, p)

omit [RustStd] in
/-- The cleanup leaves no game that has exited. -/
theorem isClosed_of_cleaned {g : ActiveGame} (hg : g ∈ sys.cleanFinishedGames.sup.games) :
    g ∈ sys.sup.games ∧ sys.isClosed g.handle = false
      ∧ sys.cleanFinishedGames.hosts = sys.hosts := by
  have hsame : sys.cleanFinishedGames.sup.games
      = sys.sup.games.filter (fun g => !sys.isClosed g.handle)
      ∧ sys.cleanFinishedGames.actors = sys.actors := by
    unfold System.cleanFinishedGames
    dsimp only
    split
    · split
      · exact ⟨rfl, rfl⟩
      · exact ⟨rfl, rfl⟩
    · exact ⟨rfl, rfl⟩
  rw [hsame.1, List.mem_filter] at hg
  refine ⟨hg.1, by simpa using hg.2, ?_⟩
  unfold System.hosts
  rw [hsame.2]

omit [RustStd] in
/-- A listed game that is not closed hosts on its port. -/
theorem isHosting_of_listed (ha : sys.Agrees) {g : ActiveGame} (hg : g ∈ sys.sup.games)
    (hopen : sys.isClosed g.handle = false) : sys.IsHosting g.handle g.port := by
  obtain ⟨x, hx⟩ := ha.hosted g.key (List.mem_map_of_mem hg)
  have hx : sys.hosts[g.handle]? = some (x, g.port) := hx
  unfold System.isClosed at hopen
  unfold System.IsHosting
  have hget := hx
  unfold System.hosts at hget
  rw [List.getElem?_map, Option.map_eq_some_iff] at hget
  obtain ⟨a, ha, heq⟩ := hget
  rw [ha] at hopen
  have hexited : a.exited = x := congrArg Prod.fst heq
  have hfalse : x = false := hexited ▸ hopen
  rw [hx, hfalse]

/-- What the tables of the supervisor say of its games. -/
structure Accounted (cfg : HostConfig) (sys : System) : Prop where
  /-- the ports given away are those of the listed games -/
  allocated : ∀ p, p ∈ sys.sup.allocatedPorts ↔ ∃ g ∈ sys.sup.games, g.port = p
  ports : (sys.sup.games.map ActiveGame.port).Nodup
  handles : (sys.sup.games.map ActiveGame.handle).Nodup
  /-- a connection on the port of a listed game goes to its actor, which hosts on that port -/
  routed : ∀ g ∈ sys.sup.games, sys.sup.targetGame g.port = some g.handle
    ∧ ∃ a, sys.actors[g.handle]? = some a ∧ a.game.cfg.hostPort = g.port
  /-- an actor that has not exited is listed, unless its game was taken down -/
  listed : ∀ handle p, sys.IsHosting handle p → handle ∉ sys.unhosted →
    ∃ g ∈ sys.sup.games, g.handle = handle ∧ g.port = p
  /-- the cleanup leaves no listed game that has exited -/
  cleaned : ∀ g ∈ sys.cleanFinishedGames.sup.games,
    sys.cleanFinishedGames.IsHosting g.handle g.port
  /-- what the supervisor has given away is what actors host on, once those taken down have exited
  and where no listed one has -/
  exact : (∀ handle ∈ sys.unhosted, ∀ p, ¬sys.IsHosting handle p) →
    (∀ g ∈ sys.sup.games, sys.IsHosting g.handle g.port) →
      (∀ p, p ∈ sys.sup.allocatedPorts ↔ ∃ handle, sys.IsHosting handle p)
      ∧ (∀ handle handle' p, sys.IsHosting handle p → sys.IsHosting handle' p → handle = handle')
      ∧ ∀ handle p, sys.IsHosting handle p → sys.sup.targetGame p = some handle
  /-- `!pub` and `!priv` host no game beyond the limit -/
  limited : ∀ user text sp isPublic name, parseLine cfg user text = some (.host isPublic name) →
    (sys.handleChatCommand cfg user text sp).sup.games.length
      ≤ max sys.sup.games.length cfg.maxGames

/-- A game is added to the list, or none. -/
theorem length_createGame (sys : System) (cfg : HostConfig) (sp : Spawn) (name owner : Text)
    (isPublic : Bool) :
    (sys.createGame cfg sp name owner isPublic).sup.games.length ≤ sys.sup.games.length + 1 := by
  unfold System.createGame
  dsimp only
  split
  · exact Nat.le_succ _
  · rename_i port sup halloc
    obtain ⟨-, rfl⟩ := System.allocatePort_spec halloc
    rw [List.length_append]
    exact Nat.le_refl _

theorem length_host (sys : System) {user text : Text} {isPublic : Bool} {name : Text}
    (h : parseLine cfg user text = some (.host isPublic name)) (sp : Spawn) :
    (sys.handleChatCommand cfg user text sp).sup.games.length
      ≤ max sys.sup.games.length cfg.maxGames := by
  unfold System.handleChatCommand
  rw [h]
  dsimp only
  split
  · exact Nat.le_max_left _ _
  · rename_i hroom
    have hlen := length_createGame sys cfg sp name user isPublic
    omega

theorem accounted (ha : sys.Agrees) : Accounted cfg sys where
  allocated p := by
    rw [ha.allocated, List.map_map, List.mem_map]
    rfl
  ports := by
    have hports := ha.ports
    rwa [List.map_map] at hports
  handles := by
    have hhandles := ha.handles
    rwa [List.map_map] at hhandles
  routed g hg := by
    have hkey : (g.port, g.handle) ∈ sys.sup.games.map ActiveGame.key := List.mem_map_of_mem hg
    obtain ⟨x, hx⟩ := ha.hosted _ hkey
    refine ⟨?_, ?_⟩
    · unfold Supervisor.targetGame
      rw [(ha.routed _ _).2 hkey, Option.some_or]
    · unfold System.hosts at hx
      rw [List.getElem?_map, Option.map_eq_some_iff] at hx
      obtain ⟨a, hget, heq⟩ := hx
      exact ⟨a, hget, congrArg Prod.snd heq⟩
  listed handle p hhost hnot := by
    -- a game that hosts is listed unless it was taken off on purpose
    have hin := (ha.listed handle p hhost).resolve_left hnot
    obtain ⟨g, hg, heq⟩ := List.mem_map.1 hin
    exact ⟨g, hg, congrArg Prod.snd heq, congrArg Prod.fst heq⟩
  cleaned g hg := by
    obtain ⟨hin, hopen, hhosts⟩ := isClosed_of_cleaned hg
    unfold System.IsHosting
    rw [hhosts]
    exact isHosting_of_listed ha hin hopen
  -- with every listed game up and none taken off, the ports in use are those of the games that
  -- host
  exact hdown hup := by
    have hin : ∀ handle p, sys.IsHosting handle p → (p, handle) ∈ sys.sup.games.map
      ActiveGame.key :=
      fun handle p hhost =>
        (ha.listed handle p hhost).resolve_left fun hun => hdown handle hun p hhost
    refine ⟨fun p => ?_, fun handle handle' p h h' => ha.eq_of_port (hin _ _ h) (hin _ _ h'), ?_⟩
    · rw [ha.allocated, List.mem_map]
      constructor
      · rintro ⟨e, he, rfl⟩
        obtain ⟨g, hg, rfl⟩ := List.mem_map.1 he
        exact ⟨g.handle, hup g hg⟩
      · rintro ⟨handle, hhost⟩
        exact ⟨_, hin handle p hhost, rfl⟩
    · intro handle p hhost
      unfold Supervisor.targetGame
      rw [(ha.routed _ _).2 (hin handle p hhost), Option.some_or]
  limited _ _ sp _ _ hparse := length_host sys hparse sp

/-- Unless something hosts games whatever the limit, every operation
keeps the limit. -/
theorem Op.limit {s₀ : System} {ev : HostEvent} {t : System} (hev : ev.bypasses cfg = false)
    (hlimit : sys.sup.games.length ≤ cfg.maxGames) (h : Op cfg s₀ ev sys t) :
    t.sup.games.length ≤ cfg.maxGames := by
  cases h with
  | send h c _ => exact hlimit
  | create sp name owner isPublic _ hroom =>
      have hlen := length_createGame sys cfg sp name owner isPublic
      have hroom := hroom hev
      omega
  | drop q g _ => exact List.length_eraseP_le.trans hlimit
  | forget h _ => exact hlimit
  | clean =>
      have hlen : sys.cleanFinishedGames.sup.games.length ≤ sys.sup.games.length := by
        unfold System.cleanFinishedGames
        dsimp only
        split
        · split
          · exact List.length_filter_le _ _
          · exact List.length_filter_le _ _
        · exact List.length_filter_le _ _
      exact hlen.trans hlimit
  | bind connId h => exact hlimit
  | report =>
      unfold System.handleStatus
      split
      · exact hlimit
      · rename_i e _ _
        have hkeys := congrArg List.length (System.map_key_report sys.sup.games e)
        rw [List.length_map, List.length_map] at hkeys
        exact (Nat.le_of_eq hkeys).trans hlimit
  | stop running requested => exact hlimit
  | exit h => exact hlimit

/-- The tables of the supervisor agree, with each other and with the
actors, in every state of every run. While games are hosted by `!pub`
and `!priv` alone, no more are listed than the limit allows. -/
theorem hosting_tables_agree (h : HostReaches cfg C sys) :
    Accounted cfg sys
      ∧ ((∀ s ev, C s ev → ev.bypasses cfg = false) → sys.sup.games.length ≤ cfg.maxGames) := by
  refine ⟨accounted (h.preserves Tables.empty ?_ ?_).2, fun hC => ?_⟩
  · exact fun _ _ _ _ _ _ _ hop ha => ha.op hop
  · intro s ev h a inbox e hs _ hev hget hiter ha
    exact ha.of_same rfl rfl rfl (System.hosts_iterate hs inbox hget (hs.event hev hget hiter)) rfl
  · refine (h.preserves (I := fun s => s.sup.games.length ≤ cfg.maxGames) (Nat.zero_le _) ?_ ?_).2
    · exact fun _ ev _ _ hCev _ _ hop hI => Op.limit (hC _ ev hCev) hI hop
    · exact fun _ _ _ _ _ _ _ _ _ _ _ hI => hI

end Run

section Runs

open Scenario

/-- A bot with two ports and one administrator. -/
def botConfig : HostConfig :=
  { rootAdmins := [txt "ann"], commandTrigger := txt "!", hostPort := 6112
    portPoolStart := some 6112, portPoolEnd := some 6113, maxGames := 2, dotatvEnabled := false }

/-- The administrator says something in the channel. -/
def line (text : String) : HostEvent := .chat (txt "ann") (txt text) ⟨config, 0, 5⟩

/-- A lobby that nobody joins ends. -/
def timedOut (handle : Nat) : List HostEvent :=
  [.elapse handle 601000, .tick handle 0, .tick handle 0, .exit handle]

/-- Two games are hosted; one is taken down, the other runs out of time
and is cleaned up; and a third is hosted. -/
def busyEvening : List HostEvent :=
  [line "!pub one", line "!priv two", .act 0 (env 7), .act 1 (env 7), line "!unhost one"]
    ++ timedOut 1 ++ [.act 0 (env 7), .exit 0, .cleanup, line "!pub three"]

theorem hosting_tables_agree_busyEvening :
    let sys := ({} : System).run botConfig busyEvening
    HostReaches botConfig (fun _ ev => ev.bypasses botConfig = false) sys
      ∧ sys.hosts = [(true, 6112), (true, 6113), (false, 6112)] ∧ Accounted botConfig sys
      ∧ sys.sup.games.length ≤ 2 := by
  intro sys
  have hrun : HostReaches botConfig (fun _ ev => ev.bypasses botConfig = false) sys :=
    .of_meets (by decide +kernel)
  obtain ⟨haccounted, hlimit⟩ := hosting_tables_agree hrun
  exact ⟨hrun, by decide +kernel, haccounted, hlimit fun _ _ h => h⟩

/-- The supervisor does not wait for a game: the port of one that was
taken down is given to another while the first still has to learn of it;
and until the cleanup the port of one that ended is not given to
anybody. -/
theorem ports_lag_behind :
    let handedOn :=
      ({} : System).run botConfig [line "!pub one", line "!unhost one", line "!pub two"]
    let ended := ({} : System).run botConfig (line "!pub one" :: timedOut 0)
    (HostReaches botConfig (fun _ _ => True) handedOn
      ∧ handedOn.IsHosting 0 6112 ∧ handedOn.IsHosting 1 6112)
    ∧ HostReaches botConfig (fun _ _ => True) ended
      ∧ 6112 ∈ ended.sup.allocatedPorts ∧ ∀ handle, ¬ended.IsHosting handle 6112 := by
  refine ⟨⟨.of_meets (by decide +kernel), ?_, ?_⟩, .of_meets (by decide +kernel), ?_, ?_⟩
  · unfold System.IsHosting
    decide +kernel
  · unfold System.IsHosting
    decide +kernel
  · decide +kernel
  · have hhosts : (({} : System).run botConfig (line "!pub one" :: timedOut 0)).hosts
        = [(true, 6112)] := by decide +kernel
    intro handle hhost
    unfold System.IsHosting at hhost
    rw [hhosts] at hhost
    have hmem := List.mem_of_getElem? hhost
    simp at hmem

end Runs

end Spectre.Hosting

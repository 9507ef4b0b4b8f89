/-
The end of loading.

The game starts when the last player has loaded, whichever event brings
that about: a load frame, the end of the countdown, a leaver or the
loading timeout. One event does not look: the load frame that ends a
FULL rejoin (`finishRejoin`). If it comes in the loading phase and
everyone else has loaded, nothing starts the game
(`rejoin_load_sticks`); every run without it is live.
-/
import Spectre.Scenario

namespace Spectre

open GameState

/-- In the loading phase somebody is still loading, unless nobody is
there. -/
def LoadingLive (s : GameState) : Prop :=
  s.phase = .loading → (∃ p ∈ s.players, p.virtualHost = false) →
    ∃ p ∈ s.players, p.virtualHost = false ∧ p.loaded = false

/-- The load frame on this connection ends a FULL rejoin in the loading
phase, with everyone else loaded. -/
def GameState.lastRejoinLoad (s : GameState) (connId : Nat) : Bool :=
  s.phase = .loading && match s.players.byConn connId with
    | some q => (s.players.byPid q.pid).map Player.rejoin == some .awaitingLoaded
        && s.players.all fun p => p.loaded || p.pid == q.pid
    | none => false

/-- The event is such a load frame. -/
def GameState.rejoinLoadsLast (s : GameState) : Event → Bool
  | .cmd _ (.frame connId (.w3gs id _)) => id = 0x23 && s.lastRejoinLoad connId
  | _ => false

/-- No load frame ends a rejoin as the last one of the loading phase. -/
def RejoinsLoadFirst (s : GameState) (ev : Event) : Prop := s.rejoinLoadsLast ev = false

/-- The steps between which loading is live: the functions that decide
on the start of the game are taken whole. -/
def wholeLoading (k : Kind) (s : GameState) : Prop :=
  match k with
  | .toLoading | .arm | .load | .restart | .unseat | .lagCheck | .check | .sendTurn => False
  | .unhost => s.phase = .lobby
  | .loaded connId => s.lastRejoinLoad connId = false
  | _ => True

theorem plain_wholeLoading : Plain wholeLoading := by
  intro k hk _
  cases k <;> trivial

-- ============================================================ small steps

/-- Nobody loads in a step that is not about loading. -/
theorem Moves.loaded {s : GameState} {k : Kind} {p q : Player} (h : Moves s k p q)
    (hk : wholeLoading k s) : q.loaded = p.loaded ∨ q.loaded = false := by
  cases h with
  | same => exact .inl rfl
  | air b _ => exact .inl (p.kept_hear _ _ _).loaded
  | tell b _ _ => exact .inl (p.kept_receive _ _).loaded
  | feed => exact .inl (p.kept_feed _ _).loaded
  | note h => exact .inl h.loaded
  | timeout =>
      obtain ⟨_, _, he⟩ := p.loadingTimeout_eq
      rw [he]
      exact .inl rfl
  | hold reason code =>
      obtain ⟨_, _, _, he⟩ := p.connClosed_eq s.now reason code
      rw [he]
      exact .inl rfl
  | expire =>
      obtain ⟨_, _, _, _, _, he⟩ := p.gproxyTimeout_eq s.now s.cfg.reconnectWait
      rw [he]
      exact .inl rfl
  | ack checksum _ =>
      obtain ⟨_, _, he⟩ := p.keepalive_eq s.syncCounter checksum
      rw [he]
      exact .inl rfl
  | arm _ => exact hk.elim
  | load _ => exact hk.elim
  | restart => exact hk.elim
  | attachFull connId link _ _ _ => exact .inr rfl
  | attachGps connId link _ _ b _ last replay _ =>
      obtain ⟨link', he⟩ := p.attachGps_eq connId link b.totalSent replay
      rw [he]
      exact .inl rfl
  | _ => exact .inl rfl

namespace LoadingLive

variable {s t : GameState}

theorem of_phase (h : t.phase ≠ .loading) : LoadingLive t := fun hl => absurd hl h

theorem of_moves {k : Kind} (h : LoadingLive s) (hk : wholeLoading k s)
    (hm : List.Forall₂ (Moves s k) s.players t.players) (hphase : t.phase = s.phase) :
    LoadingLive t := by
  rintro hl ⟨q, hq, hvh⟩
  obtain ⟨p, hp, hpq⟩ := exists_of_moves hm hq
  obtain ⟨r, hr, hrvh, hrl⟩ := h (hphase ▸ hl) ⟨p, hp, hpq.identity.2.2 ▸ hvh⟩
  obtain ⟨r', hr', hmove⟩ := exists_moved hm hr
  refine ⟨r', hr', hmove.identity.2.2.trans hrvh, ?_⟩
  rcases hmove.loaded hk with h' | h'
  · exact h'.trans hrl
  · exact h'

/-- An announcement is a broadcast like any other. -/
theorem announce (h : LoadingLive s) {info : Option Packet} {b : Packet} (hb : b.isW3gs = true)
    (hinfo : info = b.build) : LoadingLive (s.broadcast? info) := by
  cases info with
  | none => exact h
  | some c =>
      have hm := s.moves_broadcast c (Packet.build_isW3gs hb c hinfo.symm)
      exact h.of_moves (k := .air) trivial hm (broadcast_phase s c)

/-- The virtual host does not count. -/
theorem append_host (h : LoadingLive s) {pid : UInt8} {name : Text}
    (hplayers : t.players = s.players ++ [hostPlayer pid name]) (hphase : t.phase = s.phase) :
    LoadingLive t := by
  rintro hl ⟨p, hp, hvh⟩
  rw [hplayers] at hp ⊢
  rcases List.mem_append.1 hp with hp | hp
  · obtain ⟨q, hq, hrest⟩ := h (hphase ▸ hl) ⟨p, hp, hvh⟩
    exact ⟨q, List.mem_append_left _ hq, hrest⟩
  · rw [List.mem_singleton.1 hp] at hvh
    cases hvh

/-- A player that has not loaded is not the virtual host. -/
theorem of_unloaded (hs : WellFormed s) (h : ∃ p ∈ s.players, p.loaded = false) :
    LoadingLive s := by
  obtain ⟨p, hp, hload⟩ := h
  intro _ _
  refine ⟨p, hp, ?_, hload⟩
  by_contra hvh
  have hloaded := ((hs.players p hp).host (by simpa using hvh)).2.1
  rw [hload] at hloaded
  cases hloaded

theorem not_all_loaded {ps : PlayerTable} (h : ¬(ps.all Player.loaded) = true) :
    ∃ p ∈ ps, p.loaded = false := by
  simpa using h

end LoadingLive

-- ======================================================= the whole functions

section Loop

variable [RustStd]

/-- The reaper starts the game when the last one loading has left. -/
theorem LoadingLive.reapLeftPlayers {s : GameState} (h : LoadingLive s) :
    LoadingLive s.reapLeftPlayers := by
  unfold GameState.reapLeftPlayers
  dsimp only
  split
  · exact h
  split
  · exact .of_phase (by simp)
  · rename_i hstay
    rintro hl ⟨p, hp, hvh⟩
    by_contra hnone
    refine hstay ⟨hl, ?_, ?_⟩
    · simpa using List.ne_nil_of_mem hp
    · unfold humansLoaded
      rw [List.all_eq_true]
      intro q hq
      by_contra hq'
      rw [Bool.not_eq_true, Bool.or_eq_false_iff] at hq'
      exact hnone ⟨q, hq, hq'⟩

/-- The countdown ends in a game that runs or in somebody loading. -/
theorem LoadingLive.beginLoading {s : GameState} (hs : WellFormed s)
    (hph : PhaseStep s.phase .loading) : LoadingLive s.beginLoading := by
  have hs' : WellFormed s.enterLoading := by
    refine Does.keeps_wellFormed (K := fun _ _ => True) ?_ hs
    exact does_enterLoading (fun _ _ _ => trivial) trivial (fun _ _ => trivial)
      (fun _ _ _ => trivial) (fun _ => trivial) hph
  unfold GameState.beginLoading
  dsimp only
  split
  · exact .of_phase (by simp)
  · rename_i hall
    exact .of_unloaded hs' (LoadingLive.not_all_loaded hall)

omit [RustStd] in
/-- A rejoin's load frame leaves the others as they are, up to what
they are sent. -/
theorem finishRejoin_others {s : GameState} (pid : UInt8) {p : Player} (hp : p ∈ s.players)
    (hpid : p.pid ≠ pid) : ∃ q ∈ (s.finishRejoin pid).players, Kept p q := by
  have hneg : (p.pid == pid) = false := by simpa using hpid
  have hsends : ∀ (l : List UInt8) (t : GameState), p ∈ t.players →
      p ∈ (l.foldl (fun s o => s.sendTo pid (.gameLoadedOthers o)) t).players := by
    intro l
    induction l with
    | nil => exact fun t ht => ht
    | cons o l ih => exact fun t ht => ih _ (Lib.mem_updateFirst_of_not ht hneg)
  unfold finishRejoin
  dsimp only
  split
  · exact ⟨p, Lib.mem_updateFirst_of_not hp hneg, Kept.refl p⟩
  · rw [broadcast_players]
    refine ⟨_, List.mem_map_of_mem (Lib.mem_updateFirst_of_not (hsends _ s hp) hneg), ?_⟩
    exact p.kept_hear _ _ _

/-- A load frame starts the game or leaves somebody loading, unless it
ends a rejoin as the last one of all. -/
theorem LoadingLive.handleLoaded {s : GameState} (hs : WellFormed s) (h : LoadingLive s)
    {connId : Nat} (hC : s.lastRejoinLoad connId = false) :
    LoadingLive (s.handleLoaded connId) := by
  unfold GameState.handleLoaded
  split
  · exact h
  rename_i q hq
  split
  · rename_i hrejoin
    by_cases hphase : s.phase = .loading
    · -- somebody else is still loading, and stays so
      simp only [lastRejoinLoad, hphase, hq, hrejoin, decide_true, Bool.true_and, beq_self_eq_true,
        List.all_eq_false] at hC
      obtain ⟨p, hp, hload⟩ := hC
      rw [Bool.not_eq_true, Bool.or_eq_false_iff] at hload
      obtain ⟨r, hr, hkept⟩ := finishRejoin_others q.pid hp (by simpa using hload.2)
      refine .of_unloaded ?_ ⟨r, hr, hkept.loaded.trans hload.1⟩
      refine Does.keeps_wellFormed (K := fun _ _ => True) ?_ hs
      exact does_finishRejoin (fun _ _ _ => trivial) (fun _ => trivial) (fun _ => trivial) hrejoin
    · have hframed : Framed s (s.finishRejoin q.pid) :=
        (does_finishRejoin plain_inertOnly (fun _ => rfl) (fun _ => rfl) hrejoin).framed
      exact .of_phase (hframed.phase ▸ hphase)
  dsimp only
  split
  · exact .of_phase (by simp)
  · rename_i hall
    refine .of_unloaded ?_ (LoadingLive.not_all_loaded hall)
    refine Does.keeps_wellFormed (K := fun _ _ => True) ?_ hs
    exact does_markLoaded (fun _ _ _ => trivial) (fun _ => trivial) s q.pid

-- ================================================================ iterations

theorem Step.loadingLive {k : Kind} {s t : GameState} (h : Step k s t) (hk : wholeLoading k s)
    (hs : WellFormed s) (hI : LoadingLive s) : LoadingLive t := by
  cases h with
  | misc h =>
      unfold LoadingLive
      rw [h.phase, h.players]
      exact hI
  | air b h =>
      have hm := s.moves_broadcast b (Packet.isW3gs_of_isOrdinary h)
      exact hI.of_moves (k := .air) trivial hm (by simp)
  | airLag b h =>
      have hm := s.moves_broadcast b (Packet.isW3gs_of_isLag h)
      exact hI.of_moves (k := .air) trivial hm (by simp)
  | reset b h =>
      have hm := s.moves_broadcast b (Packet.isW3gs_of_isAction h)
      exact hI.of_moves (k := .air) trivial hm (by simp)
  | block b h f =>
      have hsent : LoadingLive ((s.relayPush (.push b)).record f) := hI
      have hm := ((s.relayPush (.push b)).record f).moves_broadcast b (Packet.isW3gs_of_isAction h)
      exact hsent.of_moves (k := .air) trivial hm (broadcast_phase _ b)
  | table _ ps hm => exact hI.of_moves hk hm rfl
  | seat sid player hlobby _ _ _ info _ =>
      refine .of_phase ?_
      rw [(sendOthersDirect?_frame _ _ _).1]
      show s.phase ≠ .loading
      simp [hlobby]
  | seatFake sid p hlobby _ _ _ _ info _ => exact .of_phase (by simp [hlobby])
  | host pid _ _ info hinfo => exact (hI.announce rfl hinfo).append_host rfl rfl
  | unhost _ _ =>
      have hlobby : s.phase = .lobby := hk
      exact .of_phase (by simp [hlobby])
  | unfake pid hlobby _ => exact .of_phase (by simp [hlobby])
  | phase ph _ hl => exact .of_phase hl
  | reap => exact hI.reapLeftPlayers
  | begin hph => exact .beginLoading hs hph
  | loaded connId => exact hI.handleLoaded hs hk
  | unseat => exact hk.elim
  | toLoading => exact hk.elim
  | restart => exact hk.elim
  | lagCheck => exact hk.elim
  | check => exact hk.elim
  | sendTurn => exact hk.elim
  | _ => exact hI

theorem admits_wholeLoading {s : GameState} {ev : Event} (hC : RejoinsLoadFirst s ev) :
    Admits wholeLoading s ev where
  plain := plain_wholeLoading
  unhost _ _ hl := hl
  reap _ _ _ := Does.one (k := .reap) trivial .reap
  begin _ _ hph := Does.one (k := .begin) trivial (.begin (phaseStep_of_countdownDue hph))
  loaded env connId payload hev := by
    subst hev
    have hlast : s.lastRejoinLoad connId = false := by
      simpa [RejoinsLoadFirst, rejoinLoadsLast] using hC
    exact Does.one (k := .loaded connId) hlast (.loaded connId)
  check t _ := does_checkDesync plain_wholeLoading (fun _ => trivial) (fun _ => trivial) t
  lagCheck _ _ _ := does_checkLag plain_wholeLoading (fun _ => trivial) (fun _ => trivial)
    fun _ _ => trivial
  sendTurn skipped _ _ _ _ hstart := does_sendAllActions plain_wholeLoading trivial
    (fun _ => trivial) hstart skipped

/-- No iteration leaves a game stuck in the loading phase, with players
in it and every one of them loaded. -/
theorem loading_never_sticks {t : GameState} (h : Reaches RejoinsLoadFirst t) :
    ¬(t.phase = .loading ∧ (∃ p ∈ t.players, p.virtualHost = false)
      ∧ ∀ p ∈ t.players, p.virtualHost = false → p.loaded = true) := by
  have hlive : WellFormed t ∧ LoadingLive t := by
    refine h.preserves (fun cfg now seed => .of_phase (by simp [GameState.new])) ?_
    intro s ev hs hsound hC hI
    have hpath := does_step hs hsound (admits_wholeLoading hC)
    refine (Lib.Path.preserves (I := fun s => WellFormed s ∧ LoadingLive s) ?_ hpath ⟨hs, hI⟩).2
    intro k s t hk hst ⟨hs, hI⟩
    exact ⟨hst.keeps_wellFormed hs, hst.loadingLive hk hs hI⟩
  rintro ⟨hphase, hsome, hall⟩
  obtain ⟨p, hp, hvh, hload⟩ := hlive.2 hphase hsome
  rw [hall p hp hvh] at hload
  cases hload

end Loop

section Runs

open Scenario

instance (s : GameState) (ev : Event) : Decidable (RejoinsLoadFirst s ev) :=
  inferInstanceAs (Decidable (s.rejoinLoadsLast ev = false))

/-- The second player, who uses GProxy, restarts its client while the
game loads, and rejoins. -/
def rejoinWhileLoading : List Event :=
  twoJoin PlayerLink.drained PlayerLink.drained ++ [hello 2] ++ countdown
    ++ [closed 2, connect 3 PlayerLink.drained, full 3 2, join 3 (txt "bob"), mapReady 3]

/-- The rejoining player loads first, then the other: the game runs. -/
theorem loading_never_sticks_rejoin_first :
    Reaches RejoinsLoadFirst (lobby.run (rejoinWhileLoading ++ [loaded 3]))
      ∧ (lobby.run (rejoinWhileLoading ++ [loaded 3])).phase = .loading
      ∧ (lobby.run (rejoinWhileLoading ++ [loaded 3, loaded 1])).phase = .playing
      ∧ ¬((lobby.run (rejoinWhileLoading ++ [loaded 3])).phase = .loading
        ∧ (∃ p ∈ (lobby.run (rejoinWhileLoading ++ [loaded 3])).players, p.virtualHost = false)
        ∧ ∀ p ∈ (lobby.run (rejoinWhileLoading ++ [loaded 3])).players,
          p.virtualHost = false → p.loaded = true) := by
  have hrun : Reaches RejoinsLoadFirst (lobby.run (rejoinWhileLoading ++ [loaded 3])) :=
    ⟨config, 0, 5, Runs.of_meets (by decide +kernel)⟩
  exact ⟨hrun, by decide +kernel, by decide +kernel, loading_never_sticks hrun⟩

/-- The other player loads first: when the rejoining one has loaded too,
the game is still loading. -/
theorem rejoin_load_sticks :
    (∀ ev ∈ rejoinWhileLoading ++ [loaded 1, loaded 3], ev.Sound)
      ∧ (lobby.run (rejoinWhileLoading ++ [loaded 1, loaded 3])).panicked = false
      ∧ (lobby.run (rejoinWhileLoading ++ [loaded 1, loaded 3])).phase = .loading
      ∧ (∃ p ∈ (lobby.run (rejoinWhileLoading ++ [loaded 1, loaded 3])).players,
        p.virtualHost = false)
      ∧ ∀ p ∈ (lobby.run (rejoinWhileLoading ++ [loaded 1, loaded 3])).players,
        p.virtualHost = false → p.loaded = true := by
  refine ⟨by decide +kernel, by decide +kernel, by decide +kernel, by decide +kernel,
    by decide +kernel⟩

end Runs

end Spectre

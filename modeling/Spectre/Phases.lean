/-
The phase machine.

`phases` records every value the phase was ever given. In every run it
is a path of the machine below, with `begin_playing` on it at most once
and the turn counters counting every turn since — as long as no load
frame reaches `begin_playing` outside the loading phase. The handler of
load frames does not look at the phase, so such a frame restarts a
running game (`load_frame_restarts_game`).
-/
import Spectre.Scenario
import Mathlib.Data.List.Chain

namespace Spectre

open GameState

/-- The transitions of the phase machine. Within the countdown only the
step last announced changes. -/
inductive Legal : GamePhase → GamePhase → Prop
  | countdown {a b c : Nat} : Legal .lobby (.countdown a b c)
  | announce {a b c c' : Nat} : Legal (.countdown a b c) (.countdown a b c')
  | abort {a b c : Nat} : Legal (.countdown a b c) .lobby
  | load {a b c : Nat} : Legal (.countdown a b c) .loading
  | play : Legal .loading .playing
  | over {ph : GamePhase} : Legal ph .over

/-- Every assignment to the phase but that of `begin_playing` is a
transition. -/
theorem PhaseStep.legal {ph ph' : GamePhase} (h : PhaseStep ph ph') : Legal ph ph' := by
  cases ph' with
  | lobby =>
      cases ph <;> first | exact .abort | exact h.elim
  | countdown a b c =>
      cases ph with
      | lobby => exact .countdown
      | countdown a' b' c' =>
          obtain ⟨rfl, rfl⟩ := h
          exact .announce
      | _ => exact h.elim
  | loading =>
      cases ph <;> first | exact .load | exact h.elim
  | playing =>
      cases ph <;> exact h.elim
  | _ => exact .over

/-- The phase history of a game: a path of the machine, on which the
game starts at most once and whose turns are all counted. -/
structure PhaseLaw (s : GameState) : Prop where
  path : s.phases.IsChain Legal
  now : s.phases.getLast? = some s.phase
  once : s.phases.count .playing ≤ 1
  counted : s.started.isSome → s.syncCounter = s.turns.length % 2 ^ 32
    ∧ s.gameTicks = s.turns.sum % 2 ^ 32

/-- The law, with what its preservation needs of a game that has not
started. -/
structure PhaseInv (s : GameState) : Prop extends PhaseLaw s where
  fresh : s.started = none → s.turns = [] ∧ s.phases.count .playing = 0

namespace PhaseInv

variable {s t : GameState}

/-- Steps that leave the phase and the turns alone. -/
theorem of_same (h : PhaseInv s) (hphase : t.phase = s.phase) (hphases : t.phases = s.phases)
    (hstarted : t.started = s.started) (hsync : t.syncCounter = s.syncCounter)
    (hticks : t.gameTicks = s.gameTicks) (hturns : t.turns = s.turns) : PhaseInv t where
  path := hphases ▸ h.path
  now := by rw [hphases, hphase, h.now]
  once := hphases ▸ h.once
  counted := by
    rw [hstarted, hsync, hticks, hturns]
    exact h.counted
  fresh := by
    rw [hstarted, hphases, hturns]
    exact h.fresh

theorem broadcast (h : PhaseInv s) (b : Packet) : PhaseInv (s.broadcast b) := by
  obtain ⟨_, he⟩ := s.broadcast_eq b
  rw [he]
  exact h.of_same rfl rfl rfl rfl rfl rfl

theorem broadcast? (h : PhaseInv s) (b : Option Packet) : PhaseInv (s.broadcast? b) := by
  obtain ⟨_, _, _, he⟩ := s.broadcast?_eq b
  rw [he]
  exact h.of_same rfl rfl rfl rfl rfl rfl

theorem sendOthersDirect? (h : PhaseInv s) (pid : UInt8) (b : Option Packet) :
    PhaseInv (s.sendOthersDirect? pid b) := by
  obtain ⟨_, he⟩ := s.sendOthersDirect?_eq pid b
  rw [he]
  exact h.of_same rfl rfl rfl rfl rfl rfl

/-- The next phase goes on from the last one recorded. -/
theorem chain (h : PhaseInv s) {ph : GamePhase} (hl : Legal s.phase ph) :
    (s.phases ++ [ph]).IsChain Legal := by
  rw [List.isChain_append]
  refine ⟨h.path, List.isChain_singleton _, ?_⟩
  intro x hx y hy
  rw [h.now, Option.mem_some_iff] at hx
  rw [List.head?_cons, Option.mem_some_iff] at hy
  rw [← hx, ← hy]
  exact hl

theorem setPhase (h : PhaseInv s) {ph : GamePhase} (hph : PhaseStep s.phase ph) :
    PhaseInv (s.setPhase ph) := by
  have hcount : (s.phases ++ [ph]).count .playing = s.phases.count .playing := by
    rw [List.count_append]
    have hne : ph ≠ .playing := by
      rintro rfl
      cases hs : s.phase <;> rw [hs] at hph <;> exact hph.elim
    simp [hne]
  exact
    { path := h.chain hph.legal
      now := List.getLast?_concat
      once := hcount ▸ h.once
      counted := h.counted
      fresh := fun hs => ⟨(h.fresh hs).1, hcount ▸ (h.fresh hs).2⟩ }

/-- The game starts from the loading phase, where it has not started
before. -/
theorem enterPlaying (h : PhaseInv s) (hs : WellFormed s) (hph : s.phase = .loading) :
    PhaseInv s.enterPlaying := by
  have hnone : s.started = none := by
    cases hst : s.started with
    | none => rfl
    | some st =>
        rcases hs.started (by rw [hst]; rfl) with h' | h' <;> rw [hph] at h' <;> cases h'
  obtain ⟨hturns, hcount⟩ := h.fresh hnone
  exact
    { path := h.chain (hph ▸ .play)
      now := List.getLast?_concat
      once := by
        show (s.phases ++ [GamePhase.playing]).count GamePhase.playing ≤ 1
        rw [List.count_append, hcount]
        simp
      counted := by
        intro _
        show 0 = s.turns.length % 2 ^ 32 ∧ 0 = s.turns.sum % 2 ^ 32
        rw [hturns]
        exact ⟨rfl, rfl⟩
      fresh := fun h' => nomatch h' }

/-- A turn adds one to the count and its length to the game time. -/
theorem turn (h : PhaseInv s) (elapsed : Nat) (hstart : s.started.isSome) :
    PhaseInv { s with
      gameTicks := (s.gameTicks + elapsed) % 2 ^ 32
      syncCounter := (s.syncCounter + 1) % 2 ^ 32
      turns := s.turns ++ [elapsed], actions := [] } where
  path := h.path
  now := h.now
  once := h.once
  counted := by
    intro hst
    obtain ⟨hsync, hticks⟩ := h.counted hst
    dsimp only
    rw [hsync, hticks, List.length_append, List.length_singleton, List.sum_append,
      List.sum_singleton]
    omega
  fresh := by
    intro hst
    rw [hst] at hstart
    cases hstart

end PhaseInv

/-- The steps of the phase machine: all, with `begin_playing` in the
loading phase only. -/
def loadingRestart (k : Kind) (s : GameState) : Prop :=
  k.fine = true ∧ (k = .restart → s.phase = .loading)

/-- A load frame that the handler answers with `begin_playing`: its
sender is not rejoining, and everyone else has loaded. -/
def GameState.loadStarts (s : GameState) : Event → Bool
  | .cmd _ (.frame connId (.w3gs id _)) =>
      id = 0x23 && match s.players.byConn connId with
        | some q => (s.players.byPid q.pid).map Player.rejoin != some .awaitingLoaded
            && s.players.all fun p => p.loaded || p.pid == q.pid
        | none => false
  | _ => false

/-- A load frame that starts the game comes in the loading phase. -/
def LoadsInTime (s : GameState) (ev : Event) : Prop := s.loadStarts ev = true → s.phase = .loading

/-- Marking a player loaded does not load the others. -/
theorem all_loaded_of_markLoaded {s : GameState} {pid : UInt8}
    (h : (s.markLoaded pid).players.all Player.loaded = true) :
    (s.players.all fun p => p.loaded || p.pid == pid) = true := by
  rw [List.all_eq_true] at h ⊢
  intro p hp
  by_cases hpid : p.pid = pid
  · simp [hpid]
  · have hstay := Lib.mem_updateFirst_of_not (q := fun p : Player => p.pid == pid)
      (f := fun p => { p with loaded := true, finishedLoadingAt := some s.now }) hp (by simp [hpid])
    have hheard := h _ (by
      unfold markLoaded
      dsimp only
      rw [broadcast_players]
      exact List.mem_map_of_mem hstay)
    rw [(p.kept_hear _ _ _).loaded] at hheard
    rw [hheard, Bool.true_or]

section Loop

variable [RustStd]

theorem Step.phaseInv {k : Kind} {s t : GameState} (h : Step k s t) (hk : loadingRestart k s)
    (hs : WellFormed s) (hI : PhaseInv s) : PhaseInv t := by
  cases h with
  | misc h => exact hI.of_same h.phase h.phases h.started h.syncCounter h.gameTicks h.turns
  | air b _ | airLag b _ | reset b _ => exact hI.broadcast b
  | block b _ f =>
      obtain ⟨_, he⟩ := s.sendActionPacket_eq b f
      rw [he]
      exact hI.of_same rfl rfl rfl rfl rfl rfl
  | seat sid player _ _ _ _ info _ =>
      refine PhaseInv.sendOthersDirect? ?_ _ _
      exact hI.of_same rfl rfl rfl rfl rfl rfl
  | seatFake sid p _ _ _ _ _ info _ =>
      refine PhaseInv.broadcast? ?_ _
      exact hI.of_same rfl rfl rfl rfl rfl rfl
  | host pid _ _ info _ =>
      have hair : PhaseInv (s.broadcast? info) := hI.broadcast? info
      exact hair.of_same rfl rfl rfl rfl rfl rfl
  | unseat | unhost | unfake =>
      refine PhaseInv.broadcast ?_ _
      exact hI.of_same rfl rfl rfl rfl rfl rfl
  | phase ph hph _ => exact hI.setPhase hph
  | toLoading hph => exact hI.setPhase hph
  | restart => exact hI.enterPlaying hs (hk.2 rfl)
  | turn elapsed hstart => exact hI.turn elapsed hstart
  | reap => cases hk.1
  | begin => cases hk.1
  | loaded => cases hk.1
  | lagCheck => cases hk.1
  | check => cases hk.1
  | sendTurn => cases hk.1
  | _ => exact hI.of_same rfl rfl rfl rfl rfl rfl

/-- A guard that takes every function in pieces, and `begin_playing` in
the loading phase only. -/
theorem admits_inTime {K : Kind → GameState → Prop} {s : GameState} {ev : Event}
    (hfree : ∀ k, k.fine = true → k.guarded = false → k ≠ .restart → ∀ t, K k t)
    (hrestart : ∀ t : GameState, t.phase = .loading → K .restart t) (hunhost : ∀ t, K .unhost t)
    (hguards : Guards K s ev) (hC : LoadsInTime s ev) : Admits K s ev := by
  have hplain : Plain K := by
    intro k hk t
    exact hfree k (Kind.free_of_plain hk).1 (Kind.free_of_plain hk).2 (by rintro rfl; cases hk) t
  exact
    { toGuards := hguards
      plain := hplain
      reap := fun t _ ht => does_reapLeftPlayers hplain hguards.phase
        (hfree .leaver rfl rfl (by simp)) (hfree .unseat rfl rfl (by simp)) hrestart ht
      begin := fun _ _ hdue => does_beginLoading hplain (hfree .toLoading rfl rfl (by simp) _)
        (fun t _ => hfree .hcl rfl rfl (by simp) t) (fun t _ _ => hunhost t)
        (hfree .load rfl rfl (by simp)) hrestart (phaseStep_of_countdownDue hdue)
      loaded := by
        rintro env connId payload rfl
        refine does_handleLoaded hplain (hfree .arm rfl rfl (by simp))
          (hfree .tooLong rfl rfl (by simp)) (hfree .load rfl rfl (by simp))
          fun q hq hrejoin hall => hrestart _ ?_
        have hphase : (s.markLoaded q.pid).phase = s.phase := by
          unfold markLoaded
          exact broadcast_phase _ _
        rw [hphase]
        refine hC ?_
        simp only [loadStarts, hq, all_loaded_of_markLoaded hall, Bool.and_true, decide_true,
          Bool.true_and]
        exact bne_iff_ne.2 hrejoin
      check := fun t _ => does_checkDesync hplain (hfree .pop rfl rfl (by simp))
        (hfree .desync rfl rfl (by simp)) t
      lagCheck := fun _ _ _ => does_checkLag hplain (hfree .lag rfl rfl (by simp))
        (hfree .airLag rfl rfl (by simp)) fun _ _ => hfree .reset rfl rfl (by simp) _
      sendTurn := fun skipped _ _ _ _ hstart => does_sendAllActions hplain
        (hfree .turn rfl rfl (by simp) _) (hfree .block rfl rfl (by simp)) hstart skipped }

/-- The iterations that meet the condition are paths of the machine's
steps. -/
theorem admits_loadingRestart {s : GameState} {ev : Event} (hC : LoadsInTime s ev) :
    Admits loadingRestart s ev := by
  have hother : ∀ {k : Kind} {t : GameState}, k.fine = true → k ≠ .restart → loadingRestart k t :=
    fun hk hne => ⟨hk, fun h => absurd h hne⟩
  refine admits_inTime (fun k hk _ hne t => hother hk hne) (fun t ht => ⟨rfl, fun _ => ht⟩)
    (fun _ => hother rfl (by simp)) ?_ hC
  exact .of_free (fun _ => hother rfl (by simp))
    fun k hk _ => hother (Kind.fine_of_guarded hk) (by rintro rfl; cases hk)

theorem step_phaseInv {s : GameState} {ev : Event} (hs : WellFormed s) (hsound : ev.Sound)
    (hC : LoadsInTime s ev) (hI : PhaseInv s) : PhaseInv (s.step ev) := by
  have hpath := does_step hs hsound (admits_loadingRestart hC)
  refine (Lib.Path.preserves (I := fun s => WellFormed s ∧ PhaseInv s) ?_ hpath ⟨hs, hI⟩).2
  intro k s t hk hst ⟨hs, hI⟩
  exact ⟨hst.keeps_wellFormed hs, hst.phaseInv hk hs hI⟩

/-- In every run whose load frames come in time, the phase only moves
along the machine, the game starts at most once, and its counters count
every turn. -/
theorem phases_follow_machine {t : GameState} (h : Reaches LoadsInTime t) : PhaseLaw t := by
  refine (h.preserves (I := PhaseInv) ?_ ?_).2.toPhaseLaw
  · intro cfg now seed
    exact
      { path := List.isChain_singleton _
        now := rfl
        once := Nat.zero_le 1
        counted := fun h' => nomatch h'
        fresh := fun _ => ⟨rfl, rfl⟩ }
  · intro s ev hs hsound hC hI
    exact step_phaseInv hs hsound hC hI

end Loop

section Runs

open Scenario

instance (s : GameState) (ev : Event) : Decidable (LoadsInTime s ev) :=
  inferInstanceAs (Decidable (s.loadStarts ev = true → s.phase = .loading))

/-- Two players join, load and play two turns. -/
def steadyGame : List Event :=
  twoPlay PlayerLink.drained PlayerLink.drained ++ [.elapse 100, .tick 0, .elapse 100, .tick 0]

theorem phases_follow_machine_steadyGame :
    Reaches LoadsInTime (lobby.run steadyGame) ∧ (lobby.run steadyGame).turns.length = 2
      ∧ PhaseLaw (lobby.run steadyGame) := by
  have hrun : Reaches LoadsInTime (lobby.run steadyGame) :=
    ⟨config, 0, 5, Runs.of_meets (by decide +kernel)⟩
  exact ⟨hrun, by decide +kernel, phases_follow_machine hrun⟩

/-- The same game, and then a second load frame of the first player. -/
def restartedGame : List Event := steadyGame ++ [loaded 1]

/-- A load frame in a running game starts it again: the phase is
entered from itself, and the turn counters go back to 0. -/
theorem load_frame_restarts_game :
    (∀ ev ∈ restartedGame, ev.Sound) ∧ (lobby.run restartedGame).panicked = false
      ∧ (lobby.run restartedGame).phases
        = [.lobby, .countdown 0 5000 11, .loading, .playing, .playing]
      ∧ (lobby.run restartedGame).turns = [100, 100] ∧ (lobby.run restartedGame).syncCounter = 0
      ∧ ¬PhaseLaw (lobby.run restartedGame) := by
  have hsync : (lobby.run restartedGame).started.isSome
      ∧ (lobby.run restartedGame).turns = [100, 100]
      ∧ (lobby.run restartedGame).syncCounter = 0 := by decide +kernel
  refine ⟨by decide +kernel, by decide +kernel, by decide +kernel, hsync.2.1, hsync.2.2, ?_⟩
  intro hlaw
  have hcount := (hlaw.counted hsync.1).1
  rw [hsync.2.1, hsync.2.2] at hcount
  exact absurd hcount (by decide)

end Runs

end Spectre

/-
The paths of the turn functions: desync check, lag check, action
packets (`Turn`).
-/
import Spectre.Effects

namespace Spectre

open GameState

variable [RustStd] {K : Kind → GameState → Prop}

-- ==================================================================== actions

/-- An action waits for the turn to come, and may tell of statistics. -/
theorem does_handleAction (hK : Plain K) (s : GameState) (connId : Nat) (payload : List UInt8) :
    Does K s (s.handleAction connId payload) := by
  unfold handleAction
  split
  · exact Does.refl s
  split
  · exact does_kickPlayer hK s _ _ _ rfl (by simp) (by decide)
  split
  · exact Does.refl s
  split
  · exact does_kickPlayer hK s _ _ _ rfl (by simp) (by decide)
  · exact Does.one (hK .act rfl s) (.act _ (by dsimp only; omega))

-- ===================================================================== desync

/-- Checksums are only ever dropped from the front. -/
theorem does_pop_map {s : GameState} (hpop : K .pop s) {f : Player → Player}
    (h : ∀ p, ∃ rest, rest <:+ p.checksums ∧ f p = { p with checksums := rest }) :
    Does K s { s with players := s.players.map f } := by
  refine Does.one hpop (.table rfl _ (moves_map fun p _ => ?_))
  obtain ⟨rest, hrest, he⟩ := h p
  rw [he]
  exact .pop rest hrest

/-- Everybody's oldest checksum has been compared. -/
theorem does_clearChecksums {s : GameState} (hpop : K .pop s) :
    Does K s { s with players := s.players.map fun p =>
      if p.inDesyncCheck then { p with checksums := [] } else p } := by
  refine does_pop_map hpop fun p => ?_
  split
  · exact ⟨[], List.nil_suffix, rfl⟩
  · exact ⟨p.checksums, List.suffix_rfl, rfl⟩

/-- The same, of some players one by one. -/
theorem does_popChecksums (hpop : ∀ t, K .pop t) (s : GameState) (pids : List UInt8) :
    Does K s (s.popChecksums pids) :=
  Does.foldl pids (fun s pid _ => Does.one (hpop s) (.table rfl _
    (moves_modifyPid pid fun p _ => .pop p.checksums.tail (List.tail_suffix _)))) s

/-- Whose checksum is another is marked. -/
theorem does_kickDesynced (hdesync : ∀ t, K .desync t) (s : GameState) (pids : List UInt8) :
    Does K s (s.kickDesynced pids) :=
  Does.foldl pids (fun s pid _ => Does.one (hdesync s) (.table rfl _
    (moves_modifyPid pid fun _ _ => .desync _ (by decide)))) s

/-- One comparison: the checksums are taken off, and the minority is marked.
-/
theorem does_checkDesyncOnce (hK : Plain K) (hpop : ∀ t, K .pop t) (hdesync : ∀ t, K .desync t)
    (s : GameState) : Does K s s.checkDesyncOnce.1 := by
  unfold checkDesyncOnce
  dsimp only
  split
  · split
    · exact does_clearChecksums (hpop s)
    · exact Does.refl s
  split
  · exact does_clearChecksums (hpop s)
  split
  · exact Does.refl s
  split
  · exact does_popChecksums hpop s _
  · refine Does.trans ?_ (does_popChecksums hpop _ _)
    split
    · exact (does_sendChatAll hK s _).trans (does_kickDesynced hdesync _ _)
    · exact (does_sendChatAll hK s _).trans (does_kickDesynced hdesync _ _)

/-- The comparisons that there are, one after another. -/
theorem does_checkDesyncLoop (hK : Plain K) (hpop : ∀ t, K .pop t) (hdesync : ∀ t, K .desync t)
    (fuel : Nat) (s t : GameState) (h : checkDesyncLoop fuel s = some t) : Does K s t := by
  induction fuel generalizing s with
  | zero => cases h
  | succ fuel ih =>
      unfold checkDesyncLoop at h
      have hone := does_checkDesyncOnce hK hpop hdesync s
      split at h
      · rename_i u hu
        rw [hu] at hone
        exact hone.trans (ih u h)
      · rename_i u hu
        rw [hu] at hone
        rw [← Option.some.inj h]
        exact hone

/-- The desync check, as fine steps. -/
theorem does_checkDesync (hK : Plain K) (hpop : ∀ t, K .pop t) (hdesync : ∀ t, K .desync t)
    (s : GameState) : Does K s s.checkDesync := by
  unfold checkDesync
  cases h : checkDesyncLoop (s.queuedChecksums + 1) s with
  | none => exact Does.refl s
  | some t => exact does_checkDesyncLoop hK hpop hdesync _ s t h

/-- The state after a keepalive is counted, before the desync check. -/
def GameState.acknowledge (s : GameState) (connId checksum : Nat) : GameState :=
  { s with players := s.players.modifyConn connId fun p => p.keepalive s.syncCounter checksum }

/-- A keepalive is counted for the player it came from, if it came from
one. -/
theorem does_acknowledge {s : GameState} (connId checksum : Nat) (hplay : s.phase = .playing)
    (hack : ∀ p, s.players.byConn connId = some p → K (.ack p.pid checksum) s) :
    Does K s (s.acknowledge connId checksum) := by
  unfold acknowledge
  cases hq : s.players.byConn connId with
  | none =>
      rw [show s.players.modifyConn connId _ = s.players from Lib.updateFirst_of_find?_none hq]
      exact Does.refl s
  | some q =>
      refine Does.one (hack q hq) (.table rfl _ (moves_modifyConn connId fun p hp => ?_))
      rw [hq] at hp
      rw [Option.some.inj hp]
      exact .ack checksum hplay

/-- A keepalive is one acknowledgement and the comparisons it allows. -/
theorem does_handleKeepalive {s : GameState} (connId : Nat) (payload : List UInt8)
    (hack : ∀ checksum p, s.phase = .playing → decodeKeepalive payload = .ok checksum →
      s.players.byConn connId = some p → K (.ack p.pid checksum) s)
    (hcheck : ∀ checksum, s.phase = .playing → decodeKeepalive payload = .ok checksum →
      Does K (s.acknowledge connId checksum) (s.acknowledge connId checksum).checkDesync) :
    Does K s (s.handleKeepalive connId payload) := by
  unfold handleKeepalive
  split
  · exact Does.refl s
  rename_i hphase
  have hplay : s.phase = .playing := by simpa using hphase
  split
  · exact Does.refl s
  rename_i checksum hsum
  exact (does_acknowledge connId checksum hplay fun p => hack checksum p hplay hsum).trans
    (hcheck checksum hplay hsum)

-- ================================================================ lag screen

/-- Who lags no more is announced. -/
theorem does_stopLags (hair : ∀ t, K .airLag t) (s : GameState) (l : List (UInt8 × Nat)) :
    Does K s (s.stopLags l) :=
  Does.foldl l (fun s _ _ => Does.one (hair s) (.airLag _ rfl)) s

/-- Who lags is announced. -/
theorem does_startLag? (hair : ∀ t, K .airLag t) (s : GameState) (l : List (UInt8 × Nat)) :
    Does K s (s.broadcast? (Packet.startLag l).build) := by
  cases hb : (Packet.startLag l).build with
  | none => exact Does.refl s
  | some b =>
      refine Does.one (hair s) (.airLag b ?_)
      rw [Packet.build_eq_some hb]
      rfl

/-- The lag screen is shown anew: all that lag are announced again. -/
theorem does_resetLagScreen (hK : Plain K) (hair : ∀ t, K .airLag t) (hreset : ∀ t, K .reset t)
    (s : GameState) : Does K s s.resetLagScreen := by
  unfold resetLagScreen
  dsimp only
  split
  · exact Does.refl s
  have hempty : ∀ t : GameState, Does K t (t.broadcast? (Outgoing.incomingAction [] 0)) := by
    intro t
    cases hb : Outgoing.incomingAction [] 0 with
    | none => exact Does.refl t
    | some b =>
        refine Does.one (hreset t) (.reset b ?_)
        rw [Outgoing.incomingAction_eq_some hb]
        rfl
  have hstop := (does_stopLags hair s s.laggers).trans (hempty _)
  have hstart := hstop.trans (does_startLag? hair _ s.laggers)
  exact hstart.trans (Does.misc hK (by constructor <;> rfl) (by rfl))

/-- Those that lag from now on are announced together. -/
theorem does_startLags (hK : Plain K) (hair : ∀ t, K .airLag t) (s : GameState)
    (newly : List (UInt8 × Nat)) : Does K s (s.startLags newly) := by
  have hstart := does_startLag? hair s newly
  unfold startLags
  split
  · exact Does.refl s
  split
  · exact hstart
  · exact hstart.trans (Does.misc hK (by constructor <;> rfl) (by rfl))

omit [RustStd] in
/-- What the lag screen does to one player. -/
theorem moves_lagStep {s : GameState} (p : Player) (now gameSync limit : Nat) :
    Moves s .lag p (p.lagStep now gameSync limit) := by
  unfold Player.lagStep
  have hvh : p.inLagCheck = true → p.virtualHost = false := by
    intro h
    simp only [Player.inLagCheck, Bool.and_eq_true, Bool.not_eq_true'] at h
    exact h.1.1.1.1
  split
  · rename_i h
    simp only [Player.recovers, Bool.and_eq_true] at h
    exact .lag false none (hvh h.1.1)
  · split
    · rename_i h
      simp only [Player.startsLagging, Bool.and_eq_true] at h
      exact .lag true (some now) (hvh h.1.1)
    · exact .same

/-- Who lags, and who lags no more. -/
theorem does_updateLagScreen (hK : Plain K) (hlag : ∀ t, K .lag t) (hair : ∀ t, K .airLag t)
    (s : GameState) : Does K s s.updateLagScreen := by
  have hflags : Does K s s.lagFlags :=
    Does.one (hlag s) (.table rfl _ (moves_map fun p _ => moves_lagStep p _ _ _))
  have hscreen := (hflags.trans (does_stopLags hair _ s.recovered)).trans
    (does_startLags hK hair _ s.newlyLagging)
  exact hscreen.trans
    (Does.misc hK (t := GameState.flagLagging _) (by constructor <;> rfl) (by rfl))

/-- The lag check restarts the lag screen. -/
def GameState.resetDue (s : GameState) : Prop :=
  s.updateLagScreen.lagging ∧ secs 60 ≤ s.updateLagScreen.now - s.updateLagScreen.lastLagScreenReset

instance (s : GameState) : Decidable s.resetDue :=
  inferInstanceAs (Decidable (s.updateLagScreen.lagging
    ∧ secs 60 ≤ s.updateLagScreen.now - s.updateLagScreen.lastLagScreenReset))

/-- The lag check, as fine steps. -/
theorem does_checkLag (hK : Plain K) (hlag : ∀ t, K .lag t) (hair : ∀ t, K .airLag t)
    {s : GameState} (hreset : s.resetDue → ∀ t, K .reset t) : Does K s s.checkLag.1 := by
  have hflag := does_updateLagScreen hK hlag hair s
  unfold checkLag
  dsimp only
  split
  · rename_i hdue
    exact hflag.trans (does_resetLagScreen hK hair (hreset hdue) _)
  · exact hflag

omit [RustStd] in
/-- Kicking changes nobody's absence. -/
theorem byPid_kickPlayer_disconnectedSince (s : GameState) (pid q : UInt8) (r : LeftReason)
    (code : Nat) : ((s.kickPlayer pid r code).players.byPid q).map Player.disconnectedSince
      = (s.players.byPid q).map Player.disconnectedSince := by
  have hm : List.Forall₂ (fun x y : Player =>
      y.pid = x.pid ∧ y.disconnectedSince = x.disconnectedSince)
      s.players (s.kickPlayer pid r code).players :=
    Lib.forall₂_updateFirst (fun _ _ => ⟨rfl, rfl⟩) fun _ _ _ _ => ⟨rfl, rfl⟩
  exact Lib.find?_map_of_forall₂ hm (fun x y h => by rw [h.1]) fun x y h => h.2

/-- Who has lagged too long is marked, unless it is held. -/
theorem does_lagDrops (hK : Plain K) (n : Nat) (pids : List UInt8) (s : GameState)
    (h : ∀ pid ∈ pids, ∀ p, s.players.byPid pid = some p → p.disconnectedSince = none) :
    Does K s (pids.foldl (fun s pid => s.kickPlayer pid (.lagging n) leaveDisconnect) s) := by
  induction pids generalizing s with
  | nil => exact Does.refl s
  | cons pid pids ih =>
      have hone : Does K s (s.kickPlayer pid (.lagging n) leaveDisconnect) :=
        Does.one (hK .lagDrop rfl s) (.table rfl _ (moves_modifyPid pid fun p hp =>
          .lagDrop n leaveDisconnect (h pid List.mem_cons_self p hp) (by decide)))
      refine hone.trans (ih _ ?_)
      intro q hq p hp
      have hkeep := byPid_kickPlayer_disconnectedSince s pid q (.lagging n) leaveDisconnect
      rw [hp] at hkeep
      cases hold : s.players.byPid q with
      | none =>
          rw [hold] at hkeep
          cases hkeep
      | some p₀ =>
          rw [hold] at hkeep
          have he : p.disconnectedSince = p₀.disconnectedSince := Option.some.inj hkeep
          rw [he]
          exact h q (List.mem_cons_of_mem _ hq) p₀ hold

/-- The players so marked are those that lag, and none of them is held. -/
theorem does_dropLaggingPlayers (hK : Plain K) {s : GameState} (hs : WellFormed s) (maxLag : Nat) :
    Does K s (s.dropLaggingPlayers maxLag) := by
  refine does_lagDrops hK _ _ s ?_
  intro pid hpid p hp
  obtain ⟨q, hq, rfl⟩ := List.mem_map.1 hpid
  rw [List.mem_filter] at hq
  -- the ids are distinct, so the player looked up is the one that lags
  have hfind : s.players.byPid q.pid = some q := Lib.find?_key_of_mem hs.pids hq.1
  rw [hfind] at hp
  rw [← Option.some.inj hp]
  have hlag := hq.2
  simp only [Player.lagsTooLong, Bool.and_eq_true, Option.isNone_iff_eq_none] at hlag
  exact hlag.1.1.1.1.2

-- ============================================================== action turns

omit [RustStd] in
/-- The actions behind a turn's checksum fit the record of the turn,
since they fit its packet. -/
theorem length_actions {batch : List ActionBlock} {interval : Nat}
    (h : 4 + (Packet.actionPayload batch interval).length ≤ 65535) :
    2 + (encodeActionsRaw batch).length < 2 ^ 16 := by
  unfold Packet.actionPayload at h
  by_cases hempty : batch = []
  · rw [hempty]
    decide
  · rw [if_neg hempty] at h
    dsimp only at h
    simp only [List.length_append, u16le, List.length_cons, List.length_nil] at h
    omega

omit [RustStd] in
/-- What is built fits a frame. -/
theorem fits_of_build {p b : Packet} (h : p.build = some b) : 4 + p.payload.length ≤ 65535 := by
  unfold Packet.build at h
  split at h
  · rename_i hfits
    exact of_decide_eq_true hfits
  · cases h

omit [RustStd] in
/-- Actions that fit into a packet fit into the replay. -/
theorem fits_of_incomingAction {batch : List ActionBlock} {interval : Nat} {b : Packet}
    (hinterval : interval < 2 ^ 16) (h : Outgoing.incomingAction batch interval = some b) :
    (ReplayRecord.timeslot interval (encodeActionsRaw batch)).fits = true := by
  unfold Outgoing.incomingAction at h
  split at h
  · cases h
  · have hlen := length_actions (fits_of_build h)
    simp only [ReplayRecord.fits, Bool.and_eq_true, decide_eq_true_eq]
    exact ⟨hinterval, hlen⟩

omit [RustStd] in
/-- So do those that go ahead of a turn. -/
theorem fits_of_incomingAction2 {batch : List ActionBlock} {b : Packet}
    (h : Outgoing.incomingAction2 batch = some b) :
    (ReplayRecord.timeslot2 (encodeActionsRaw batch)).fits = true := by
  unfold Outgoing.incomingAction2 at h
  split at h
  · cases h
  · exact decide_eq_true (length_actions (fits_of_build h))

/-- A full batch goes ahead of its turn. -/
theorem does_sendOverflow (hblock : ∀ t, K .block t) (s : GameState) (batch : List ActionBlock) :
    Does K s (s.sendOverflow batch) := by
  unfold sendOverflow
  split
  · rename_i b hb
    refine Does.one (hblock s) (.block b ?_ _ (.timeslot2 (encodeActionsRaw batch)) rfl
      (fits_of_incomingAction2 hb) fun r => ⟨r.replayLengthMs, rfl⟩)
    rw [Outgoing.incomingAction2_eq_some hb]
    rfl
  · exact Does.refl s

/-- The queued actions in their batches, of which all but the last go out.
-/
theorem does_batchActions (hK : Plain K) (hblock : ∀ t, K .block t) (queued : List ActionBlock)
    (s : GameState) (batch : List ActionBlock) (len : Nat) (winner : Option Text) :
    Does K s (batchActions queued s batch len winner).1 := by
  induction queued generalizing s batch len winner with
  | nil => exact Does.refl s
  | cons action rest ih =>
      unfold batchActions
      cases hd : s.dota with
      | none =>
          dsimp only
          split
          · exact (does_sendOverflow hblock s batch).trans (ih _ _ _ _)
          · exact ih _ _ _ _
      | some dota =>
          dsimp only
          have hstats : Does K s { s with dota := some (dota.processAction action.data).1 } :=
            Does.one (hK .stats rfl s) (.misc (by constructor <;> rfl)
              (.stats dota action.data hd rfl))
          split
          · exact (hstats.trans (does_sendOverflow hblock _ batch)).trans (ih _ _ _ _)
          · exact hstats.trans (ih _ _ _ _)

/-- The winner of the game is announced. -/
theorem does_declareWinner (hK : Plain K) (s : GameState) (winner : Option Text) :
    Does K s (s.declareWinner winner) := by
  cases winner with
  | none => exact Does.refl s
  | some w =>
      have hchat := does_sendChatAll hK s
        (txt "Game over detected! Winner: " ++ w ++ txt ". Game will close in 60s.")
      exact hchat.trans (Does.misc hK (by constructor <;> rfl) (by rfl))

/-- A turn, as fine steps. -/
theorem does_sendAllActions (hK : Plain K) {s : GameState} (hturn : K .turn s)
    (hblock : ∀ t, K .block t) (hstart : s.started.isSome) (skipped : Nat) :
    Does K s (s.sendAllActions skipped) := by
  unfold sendAllActions
  dsimp only
  generalize hs₁ : ({ s with
    gameTicks := (s.gameTicks + s.tickElapsed skipped) % 2 ^ 32
    syncCounter := (s.syncCounter + 1) % 2 ^ 32
    turns := s.turns ++ [s.tickElapsed skipped]
    actions := [] } : GameState) = s₁
  have h₁ : Does K s s₁ := by
    rw [← hs₁]
    exact Does.one hturn (.turn (s.tickElapsed skipped) hstart)
  have h₂ := does_batchActions hK hblock s.actions s₁ [] 0 none
  generalize hb : batchActions s.actions s₁ [] 0 none = r at h₂ ⊢
  obtain ⟨s₂, batch, winner⟩ := r
  dsimp only at h₂ ⊢
  have h₃ := (h₁.trans h₂).trans (does_declareWinner hK s₂ winner)
  split
  · rename_i b hb
    have hinterval : min (s.tickElapsed skipped) 65535 < 2 ^ 16 := by omega
    refine h₃.trans (Does.one (hblock _) (.block b ?_ _
      (.timeslot (min (s.tickElapsed skipped) 65535) (encodeActionsRaw batch)) rfl
      (fits_of_incomingAction hinterval hb) fun r => ⟨_, rfl⟩))
    rw [Outgoing.incomingAction_eq_some hb]
    rfl
  · exact h₃

end Spectre

/-
The lockstep window.

A tick sends a turn only when nobody it looks at is further behind than
the sync limit, so nobody it looks at is ever further behind than one
turn more. The check passes over players that are marked left, that
rejoin and that catch up; the window holds for them again when they
come back into its sight, because a catch-up ends with the game's own
counter. There is one way back without it: a keepalive may end the
catch-up while the feed still runs, and a feed that then finds the link
closed forgets the cursor and does not start the catch-up again.
-/
import Spectre.LagScreen
import Spectre.Seats

namespace Spectre

open GameState

-- ================================================================= statement

/-- In a tick of the running game the feed does not find the link closed
of a player whose catch-up has ended before the feed has. -/
def FeedsOpenLinks [RustStd] (s : GameState) : Event → Prop
  | .tick _ => s.phase = .playing → ∀ p ∈ s.tickHead.players, p.rejoin = .none →
      p.catchingUp = false → p.gproxy = true → p.disconnectedSince = none →
      p.cutOff s.tickHead.fullHistory = false
  | _ => True

/-- The sync limit of the running game is at most `L`. -/
def LimitAtMost (L : Nat) (s : GameState) : Prop := s.phase = .playing → s.cfg.syncLimit ≤ L

-- ================================================================= invariant

namespace Player

/-- The player is out of the lag check's sight, or at most `n` turns
behind. -/
def InWindow (n sync : Nat) (p : Player) : Prop :=
  p.virtualHost = true ∨ p.rejoin ≠ .none ∨ p.catchupCursor.isSome ∨ p.catchingUp = true
    ∨ sync - p.syncCounter ≤ n

namespace InWindow

variable {p q : Player} {n sync : Nat}

/-- A player that is not too far behind. -/
theorem of_behind (h : sync - p.syncCounter ≤ n) : p.InWindow n sync :=
  .inr (.inr (.inr (.inr h)))

/-- Nothing that counts has changed. -/
theorem of_same (h : p.InWindow n sync) (hvh : q.virtualHost = p.virtualHost)
    (hrejoin : q.rejoin = p.rejoin) (hcursor : q.catchupCursor = p.catchupCursor)
    (hup : q.catchingUp = p.catchingUp) (hsync : q.syncCounter = p.syncCounter) :
    q.InWindow n sync := by
  unfold InWindow
  rw [hvh, hrejoin, hcursor, hup, hsync]
  exact h

/-- A packet to all moves no counter. -/
theorem hear (h : p.InWindow n sync) (now : Nat) (b : Packet) (seq : Option Nat) :
    (p.hear now b seq).InWindow n sync := by
  have hk := p.kept_hear now b seq
  obtain ⟨hcursor, hup⟩ := p.hear_catchUp now b seq
  exact h.of_same hk.virtualHost hk.rejoin hcursor hup hk.syncCounter

/-- A keepalive brings the player closer, and ends its catch-up level
with the game. -/
theorem keepalive (h : p.InWindow n sync) (hsync : sync < 2 ^ 32) (checksum : Nat) :
    (p.keepalive sync checksum).InWindow n sync := by
  have hturn : sync - min (p.syncCounter + 1) (2 ^ 32 - 1) ≤ sync - p.syncCounter := by omega
  have hbehind : sync - p.syncCounter ≤ n → sync - min (p.syncCounter + 1) (2 ^ 32 - 1) ≤ n :=
    Nat.le_trans hturn
  unfold Player.keepalive
  dsimp only
  split
  · rename_i hup
    split
    · rename_i hlevel
      refine of_behind ?_
      show sync - min (p.syncCounter + 1) (2 ^ 32 - 1) ≤ n
      omega
    · exact .inr (.inr (.inr (.inl hup)))
  · exact h.imp_right (Or.imp_right (Or.imp_right (Or.imp_right hbehind)))

/-- The feed keeps the cursor or goes over to the catch-up. -/
theorem feed {now : Nat} {history : FullHistory} (h : p.InWindow n sync)
    (hopen : p.rejoin = .none → p.catchingUp = false → p.gproxy = true →
      p.disconnectedSince = none → p.cutOff history = false) :
    (p.feed now history).left.isSome ∨ (p.feed now history).InWindow n sync := by
  have hk := p.kept_feed now history
  rcases p.feed_catchUp now history with hl | hc | hup | hsame | ⟨hg, hno, hcut⟩
  · exact .inl hl
  · exact .inr (.inr (.inr (.inl hc)))
  · exact .inr (.inr (.inr (.inr (.inl hup))))
  · rw [hsame]
    exact .inr h
  · right
    by_cases hr : p.rejoin = .none
    · by_cases hup : p.catchingUp = true
      · rcases p.feed_catchingUp now history with he | ⟨-, he⟩
        · exact .inr (.inr (.inr (.inl (he.trans hup))))
        · exact .inr (.inr (.inr (.inl he)))
      · rw [hopen hr (by simpa using hup) hg hno] at hcut
        cases hcut
    · exact .inr (.inl (hk.rejoin ▸ hr))

end InWindow

end Player

-- ===================================================================== steps

/-- A move keeps the window, but for the feed and a refused rejoin. -/
theorem Moves.inWindow {s : GameState} {k : Kind} {p q : Player} {n : Nat} (h : Moves s k p q)
    (hfeed : k ≠ .feed) (hlong : k ≠ .tooLong) (hrestart : k ≠ .restart)
    (hsync : s.syncCounter < 2 ^ 32) (hI : p.InWindow n s.syncCounter) :
    q.InWindow n s.syncCounter := by
  cases h with
  | same => exact hI
  | air b _ => exact hI.hear _ _ _
  | tell b _ _ =>
      have hk := p.kept_receive s.now b
      obtain ⟨hcursor, hup⟩ := p.receive_catchUp s.now b
      exact hI.of_same hk.virtualHost hk.rejoin hcursor hup hk.syncCounter
  | note h => exact hI.of_same h.virtualHost h.rejoin h.catchupCursor h.catchingUp h.syncCounter
  | timeout =>
      obtain ⟨_, _, he⟩ := p.loadingTimeout_eq
      rw [he]
      exact hI.of_same rfl rfl rfl rfl rfl
  | hold reason code =>
      obtain ⟨_, _, _, he⟩ := p.connClosed_eq s.now reason code
      rw [he]
      exact hI.of_same rfl rfl rfl rfl rfl
  | expire =>
      obtain ⟨_, _, _, _, _, he⟩ := p.gproxyTimeout_eq s.now s.cfg.reconnectWait
      rw [he]
      exact hI.of_same rfl rfl rfl rfl rfl
  | answer _ => exact .inr (.inl (by simp))
  | arm _ => exact .inr (.inr (.inl rfl))
  | ack checksum _ => exact hI.keepalive hsync checksum
  | level _ => exact .of_behind (Nat.le_trans (Nat.le_of_eq (Nat.sub_self _)) (Nat.zero_le n))
  | attachFull => exact .inr (.inl (by simp [Player.attachFull]))
  | attachGps connId link _ _ b _ last replay _ =>
      obtain ⟨link', he⟩ := p.attachGps_eq connId link b.totalSent replay
      rw [he]
      exact hI.of_same rfl rfl rfl rfl rfl
  | feed => exact absurd rfl hfeed
  | tooLong => exact absurd rfl hlong
  | restart => exact absurd rfl hrestart
  | _ => exact hI.of_same rfl rfl rfl rfl rfl

/-- Everyone is in the window, but for those `A` excuses. -/
structure Windowed (A : Player → Prop) (n : Nat) (s : GameState) : Prop where
  sync : s.syncCounter < 2 ^ 32
  fresh : s.started = none → s.syncCounter = 0
  players : ∀ p ∈ s.players, A p ∨ p.InWindow n s.syncCounter

section Loop

variable [RustStd] {s t : GameState} {A : Player → Prop} {n : Nat}

/-- Only a turn and the start of the game touch the counter. -/
theorem Step.counter {k : Kind} (h : Step k s t) (hk : k.fine = true) :
    k = .turn ∨ k = .restart
      ∨ (k ≠ .restart ∧ t.syncCounter = s.syncCounter ∧ t.started = s.started) := by
  cases h with
  | misc h hb =>
      refine .inr (.inr ⟨?_, h.syncCounter, h.started⟩)
      rintro rfl
      cases hb
  | air b _ | airLag b _ | reset b _ =>
      exact .inr (.inr ⟨by simp, broadcast_syncCounter s b, broadcast_started s b⟩)
  | block b _ f => exact .inr (.inr ⟨by simp, broadcast_syncCounter _ b, broadcast_started _ b⟩)
  | table hk ps hm =>
      refine .inr (.inr ⟨?_, rfl, rfl⟩)
      rintro rfl
      cases hk
  | seat sid player _ _ _ _ info _ =>
      -- seating tells the others and counts nothing
      obtain ⟨ps, he⟩ := sendOthersDirect?_eq ({ s with
        slots := (s.slots.occupySlot sid player.pid).1
        players := s.players ++ [(s.joinBurst player).foldl Player.sendDirect player] })
        player.pid info
      rw [he]
      exact .inr (.inr ⟨by simp, rfl, rfl⟩)
  | seatFake sid p _ _ _ _ _ info _ =>
      obtain ⟨ps, hist, aired, he⟩ := broadcast?_eq ({ s with
        players := s.players ++ [p], slots := (s.slots.occupySlot sid p.pid).1
        fakePlayerPid := some p.pid }) info
      rw [he]
      exact .inr (.inr ⟨by simp, rfl, rfl⟩)
  | host pid _ _ info _ =>
      obtain ⟨ps, hist, aired, he⟩ := s.broadcast?_eq info
      rw [he]
      exact .inr (.inr ⟨by simp, rfl, rfl⟩)
  | unseat | unhost | unfake =>
      exact .inr (.inr ⟨by simp, broadcast_syncCounter _ _, broadcast_started _ _⟩)
  | restart => exact .inr (.inl rfl)
  | turn => exact .inl rfl
  | reap => cases hk
  | begin => cases hk
  | loaded => cases hk
  | lagCheck => cases hk
  | check => cases hk
  | sendTurn => cases hk
  | _ => exact .inr (.inr ⟨by simp, rfl, rfl⟩)

/-- A step keeps the window if a turn finds it one narrower, and `A`
excuses whom the feed and a refused rejoin put out of it. -/
theorem Step.windowed {k : Kind} (h : Step k s t) (hfine : k.fine = true) (hs : WellFormed s)
    (hturn : k = .turn → ∀ p ∈ s.players, A p ∨ p.InWindow n s.syncCounter)
    (hout : k = .feed ∨ k = .tooLong → ∀ p ∈ s.players, ∀ q, Moves s k p q →
      p.InWindow (n + 1) s.syncCounter → A q ∨ q.InWindow (n + 1) s.syncCounter)
    (hmoves : ∀ p ∈ s.players, ∀ q, Moves s k p q → A p →
      A q ∨ q.InWindow (n + 1) s.syncCounter)
    (hhear : ∀ p now b seq, A p → A (p.hear now b seq))
    (hI : Windowed A (n + 1) s) : Windowed A (n + 1) t := by
  rcases h.counter hfine with rfl | rfl | ⟨hrestart, hsync, hstarted⟩
  · cases h with
    | misc _ hb => cases hb
    | table hk => cases hk
    | turn elapsed hstart =>
        have hlt : (s.syncCounter + 1) % 2 ^ 32 < 2 ^ 32 := Nat.mod_lt _ (by decide)
        have hle : (s.syncCounter + 1) % 2 ^ 32 ≤ s.syncCounter + 1 := Nat.mod_le _ _
        refine ⟨hlt, fun hnone => ?_, fun p hp => ?_⟩
        · rw [show s.started = none from hnone] at hstart
          cases hstart
        · refine (hturn rfl p hp).imp_right fun hw => ?_
          refine hw.imp_right (Or.imp_right (Or.imp_right (Or.imp_right fun hb => ?_)))
          show (s.syncCounter + 1) % 2 ^ 32 - p.syncCounter ≤ n + 1
          omega
  · cases h with
    | misc _ hb => cases hb
    | table hk => cases hk
    | restart =>
        refine ⟨Nat.two_pow_pos 32, fun _ => rfl, fun p _ => .inr (.of_behind ?_)⟩
        exact Nat.le_trans (Nat.le_of_eq (Nat.zero_sub _)) (Nat.zero_le _)
  · refine ⟨hsync ▸ hI.sync, fun hnone => ?_, ?_⟩
    · rw [hsync]
      exact hI.fresh (hstarted ▸ hnone)
    rw [hsync]
    refine h.forall_players hfine ?_ ?_ ?_ ?_ hI.players
    · rintro p hp q hm (ha | hw)
      · exact hmoves p hp q hm ha
      by_cases hspecial : k = .feed ∨ k = .tooLong
      · exact hout hspecial p hp q hm hw
      · rw [not_or] at hspecial
        exact .inr (hm.inWindow hspecial.1 hspecial.2 hrestart hI.sync hw)
    · exact fun p now b seq => Or.imp (hhear p now b seq) fun hw => hw.hear now b seq
    · intro hlobby p hp
      -- a game that seats players has not begun
      have hnone : s.started = none := by
        by_contra hsome
        rcases hs.started (Option.isSome_iff_ne_none.2 hsome) with hph | hph
        · rw [hlobby] at hph
          cases hph
        · rw [hlobby] at hph
          cases hph
      refine .inr (.of_behind ?_)
      rw [hI.fresh hnone]
      exact Nat.le_trans (Nat.le_of_eq (Nat.zero_sub _)) (Nat.zero_le _)
    · exact fun pid name => .inr (.inl rfl)

-- ============================================================= the lag check

omit [RustStd] in
/-- After the flags are set, whoever has none is within the limit. -/
theorem lagStep_window (p : Player) (now sync limit : Nat) :
    (p.lagStep now sync limit).left.isSome ∨ (p.lagStep now sync limit).lagging = true
      ∨ (p.lagStep now sync limit).InWindow limit sync := by
  by_cases hseen : p.inLagCheck = true
  · unfold Player.lagStep
    split
    · rename_i hrec
      simp only [Player.recovers, Bool.and_eq_true, decide_eq_true_eq] at hrec
      refine .inr (.inr (.of_behind ?_))
      show sync - p.syncCounter ≤ limit
      omega
    split
    · exact .inr (.inl rfl)
    · rename_i hstart
      by_cases hlag : p.lagging = true
      · exact .inr (.inl hlag)
      · refine .inr (.inr (.of_behind ?_))
        by_contra hfar
        refine hstart ?_
        simp only [Player.startsLagging, hseen, hlag, Bool.not_false, Bool.true_and,
          decide_eq_true_eq]
        omega
  · have hstay : p.lagStep now sync limit = p := by
      simp [Player.lagStep, Player.recovers, Player.startsLagging, hseen]
    rw [hstay]
    -- out of the check's sight
    simp only [Player.inLagCheck, Bool.and_eq_true, not_and_or, Bool.not_eq_true', Bool.not_eq_true,
      Bool.not_eq_false, beq_eq_false_iff_ne, Option.isNone_eq_false_iff] at hseen
    rcases hseen with (((hv | hl) | hr) | hc) | hu
    · exact .inr (.inr (.inl hv))
    · exact .inl hl
    · exact .inr (.inr (.inr (.inl hr)))
    · exact .inr (.inr (.inr (.inr (.inl hc))))
    · exact .inr (.inr (.inr (.inr (.inr (.inl hu)))))

/-- The steps of the screen: broadcasts, and nothing that moves a flag
or a counter. -/
def screens (k : Kind) (_ : GameState) : Prop := k = .airLag ∨ k.plain = true

omit [RustStd] in
/-- What every command may do is among these steps. -/
theorem plain_screens : Plain screens := fun _ hk _ => .inr hk

omit [RustStd] in
/-- A move of the screen keeps the flag and the window. -/
theorem Moves.screened {k : Kind} {p q : Player} (h : Moves s k p q) (hk : screens k s)
    (hp : p ∈ s.players) (hsync : s.syncCounter < 2 ^ 32)
    (hI : p.left.isSome ∨ p.lagging = true ∨ p.InWindow n s.syncCounter) :
    q.left.isSome ∨ q.lagging = true ∨ q.InWindow n s.syncCounter := by
  rcases hk with rfl | hk
  · cases h
    exact hI
  rcases hI with hl | hlag | hw
  · left
    rw [Option.isSome_iff_ne_none] at hl ⊢
    refine fun hn => hl (h.left_none ?_ ?_ hn)
    · rintro rfl
      cases hk
    · rintro rfl
      cases hk
  · exact .inr (.inl ((h.sameLag (plain_wholeLagCheck k hk s) hp).2.trans hlag))
  · refine .inr (.inr (h.inWindow ?_ ?_ ?_ hsync hw))
    · rintro rfl
      cases hk
    · rintro rfl
      cases hk
    · rintro rfl
      cases hk

omit [RustStd] in
/-- Who is marked stays so. -/
theorem hear_left_isSome {p : Player} (h : p.left.isSome) (now : Nat) (b : Packet)
    (seq : Option Nat) : (p.hear now b seq).left.isSome := by
  rcases p.hear_cases now b seq with ⟨-, he⟩ | ⟨hl, -⟩ | ⟨hl, -⟩
  · rwa [he]
  · rw [hl] at h
    cases h
  · rw [hl] at h
    cases h

/-- When the check finds no lag screen up, everyone in its sight is
within the limit. -/
theorem checkLag_window (hph : s.phase = .playing) (hsync : s.syncCounter < 2 ^ 32)
    (h : s.checkLag.2 = false) :
    ∀ q ∈ s.checkLag.1.players, q.left.isSome ∨ q.InWindow s.cfg.syncLimit s.syncCounter := by
  have hflags := checkLag_flags h
  -- with nobody lagging afterwards the reset branch was not the one taken
  have hdown : s.checkLag.1 = s.updateLagScreen := by
    unfold checkLag at h ⊢
    dsimp only at h ⊢
    split
    · rename_i hreset
      rw [if_pos hreset, resetLagScreen_lagging, hreset.1] at h
      cases h
    · rfl
  -- the screen goes down for some, up for others, and the flags are set last
  have hpath : Does screens s.lagFlags s.updateLagScreen :=
    ((does_stopLags (fun _ => .inl rfl) _ s.recovered).trans
      (does_startLags plain_screens (fun _ => .inl rfl) _ s.newlyLagging)).trans
      (Does.misc plain_screens (t := GameState.flagLagging _) (by constructor <;> rfl) (by rfl))
  have hend : ∀ q ∈ s.updateLagScreen.players, q.left.isSome ∨ q.lagging = true
      ∨ q.InWindow s.cfg.syncLimit s.syncCounter := by
    refine (Lib.Path.preserves (I := fun u : GameState => u.phase = .playing
      ∧ u.syncCounter = s.syncCounter ∧ ∀ q ∈ u.players, q.left.isSome ∨ q.lagging = true
        ∨ q.InWindow s.cfg.syncLimit s.syncCounter) ?_ hpath ⟨hph, rfl, ?_⟩).2.2
    · rintro k u v hk hst ⟨huph, husync, hu⟩
      have hinert : k.inert = true := by
        rcases hk with rfl | hk
        · rfl
        · cases k <;> first | rfl | cases hk
      have hframe := hst.framed hinert
      refine ⟨hframe.phase.trans huph, hframe.syncCounter.trans husync, ?_⟩
      refine hst.forall_players ?_ ?_ ?_ ?_ ?_ hu
      · rcases hk with rfl | hk
        · rfl
        · cases k <;> first | rfl | cases hk
      · intro p hp q hm hI
        rw [← husync] at hI ⊢
        exact hm.screened hk hp (husync ▸ hsync) hI
      · intro p now b seq hI
        refine hI.imp (fun hl => hear_left_isSome hl now b seq)
          (Or.imp (fun hlag => ?_) fun hw => ?_)
        · exact (p.kept_hear now b seq).lagging.trans hlag
        · exact hw.hear now b seq
      · intro hlobby
        rw [huph] at hlobby
        cases hlobby
      · exact fun pid name => .inr (.inr (.inl rfl))
    · intro q hq
      obtain ⟨p, -, rfl⟩ := List.mem_map.1 hq
      exact lagStep_window p s.now s.syncCounter s.cfg.syncLimit
  rw [hdown] at hflags ⊢
  intro q hq
  -- a player still lagging would keep the screen up, so only the host can be flagged
  rcases hend q hq with hl | hlag | hw
  · exact .inl hl
  · by_cases hv : q.virtualHost = true
    · exact .inr (.inl hv)
    · rw [hflags q hq (by simpa using hv)] at hlag
      cases hlag
  · exact .inr hw

-- ============================================================= one iteration

/-- Every step in pieces: a turn only when everyone in sight is within
the limit, a feed only on open links, a reconnect only into the
window. -/
def windowing (n : Nat) (k : Kind) (s : GameState) : Prop :=
  match k with
  | .turn => ∀ p ∈ s.players, p.left.isSome ∨ p.InWindow n s.syncCounter
  | .feed => ∀ p ∈ s.players, p.rejoin = .none → p.catchingUp = false → p.gproxy = true →
      p.disconnectedSince = none → p.cutOff s.fullHistory = false
  | .attachGps pid => ∀ p ∈ s.players, p.pid = pid → p.InWindow (n + 1) s.syncCounter
  | k => k.fine = true

omit [RustStd] in
/-- None of these steps is one of the tick's own. -/
theorem windowing_fine {k : Kind} (h : windowing n k s) : k.fine = true := by
  cases k <;> first | rfl | cases h

/-- Within an iteration, whoever is marked left is excused. -/
theorem Step.left_windowed {k : Kind} (h : Step k s t) (hk : windowing n k s) (hs : WellFormed s)
    (hI : Windowed (fun p => p.left.isSome) (n + 1) s) :
    Windowed (fun p => p.left.isSome) (n + 1) t := by
  refine h.windowed (windowing_fine hk) hs ?_ ?_ ?_
    (fun p now b seq hl => hear_left_isSome hl _ _ _) hI
  · rintro rfl
    exact hk
  · rintro (rfl | rfl) p hp q hm hw
    · cases hm with
      | same => exact .inr hw
      | feed => exact hw.feed (hk p hp)
    · cases hm with
      | same => exact .inr hw
      | tooLong _ => exact .inl rfl
  · intro p hp q hm hl
    by_cases hfull : k = .attachFull p.pid
    · cases hm with
      | same => exact .inl hl
      | attachFull => exact .inr (.inr (.inl (by simp [Player.attachFull])))
      | _ => cases hfull
    by_cases hgps : k = .attachGps p.pid
    · subst hgps
      exact .inr (hm.inWindow (by simp) (by simp) (by simp) hI.sync (hk p hp rfl))
    · left
      rw [Option.isSome_iff_ne_none] at hl ⊢
      exact fun hn => hl (hm.left_none hfull hgps hn)

/-- A tick that goes on to a turn has everyone in sight within the
limit. -/
theorem tickLag_window (hph : s.phase = .playing) (hsync : s.syncCounter < 2 ^ 32)
    (h : s.tickHead.tickLag = (t, false)) :
    ∀ p ∈ t.players, p.left.isSome ∨ p.InWindow s.cfg.syncLimit t.syncCounter := by
  have hpoint : Framed s s.lagPoint :=
    Does.framed (((does_tickHead plain_inertOnly s).trans
      (does_checkPoint plain_inertOnly s rfl)).trans
      (does_checkDesync plain_inertOnly (fun _ => rfl) (fun _ => rfl) _))
  have hcheck : Framed s.lagPoint s.lagPoint.checkLag.1 :=
    Does.framed (does_checkLag plain_inertOnly (fun _ => rfl) (fun _ => rfl) fun _ _ => rfl)
  rw [tickLag_eq] at h
  have hwindow := checkLag_window (hpoint.phase.trans hph) (hpoint.syncCounter ▸ hsync)
    (by rw [h])
  rw [h] at hwindow hcheck
  rw [hcheck.syncCounter, ← hpoint.syncLimit]
  exact hwindow

/-- An iteration that meets the conditions is made of them. -/
theorem admits_windowing {ev : Event} (hC : FeedsOpenLinks s ev) (hlimit : LimitAtMost n s)
    (hsync : s.syncCounter < 2 ^ 32)
    (hI : ∀ p ∈ s.players, p.InWindow (n + 1) s.syncCounter) : Admits (windowing n) s ev := by
  -- only the turn, a feed and a reconnect are asked for anything
  have hfine : ∀ k : Kind, k.fine = true → k ≠ .turn → k ≠ .feed → (∀ pid, k ≠ .attachGps pid) →
      ∀ t, windowing n k t := by
    intro k hfine hturn hfeed hgps t
    cases k with
    | turn => exact absurd rfl hturn
    | feed => exact absurd rfl hfeed
    | attachGps pid => exact absurd rfl (hgps pid)
    | _ => exact hfine
  refine admits_turn ?_ ?_ (fun _ _ _ => rfl) ?_ ?_
  · intro k hf hguarded _ _ hturn t
    refine hfine k hf hturn ?_ ?_ t
    · rintro rfl
      cases hguarded
    · rintro pid rfl
      cases hguarded
  · exact
      { phase := fun _ => rfl
        slots := fun _ _ _ => rfl
        vacate := fun _ _ _ _ _ _ => rfl
        limit := fun _ => rfl
        seat := fun _ _ _ _ _ _ _ => rfl
        bounce := fun _ _ => rfl
        seatFake := fun _ _ _ _ => rfl
        token := fun _ _ _ _ _ _ _ => rfl
        host := fun _ _ => rfl
        unhost := fun _ _ _ => rfl
        unfake := fun _ _ _ _ => rfl
        attachFull := fun _ _ _ _ _ => rfl
        -- whoever comes back is counted from where he stood
        attachGps := by
          intro pid _ t hplayers _ hsync p hp _
          rw [hsync]
          exact hI p (hplayers ▸ hp)
        ack := fun _ _ _ _ _ _ _ _ _ => rfl
        queue := fun _ _ => rfl
        cache := fun _ _ => rfl
        feed := by
          rintro skipped rfl hplay p hp
          exact hC hplay p hp
        timeout := fun _ _ _ => rfl }
  · have hplain : Plain (windowing n) := by
      intro k hk t
      cases k <;> first | exact rfl | cases hk
    exact fun t _ => does_checkDesync hplain (fun _ => rfl) (fun _ => rfl) t
  · intro skipped t _ hplay hlag p hp
    refine (tickLag_window hplay hsync hlag p hp).imp_right fun hw => ?_
    refine hw.imp_right (Or.imp_right (Or.imp_right (Or.imp_right fun hb => ?_)))
    exact Nat.le_trans hb (hlimit hplay)

/-- The steps of the reaper keep the window. -/
def strict (k : Kind) (_ : GameState) : Prop :=
  k.fine = true ∧ k ≠ .turn ∧ k ≠ .feed ∧ k ≠ .tooLong

omit [RustStd] in
/-- What every command may do is among the reaper's steps. -/
theorem plain_strict : Plain strict := by
  intro k hk _
  refine ⟨?_, ?_, ?_, ?_⟩
  · cases k <;> first | rfl | cases hk
  · rintro rfl
    cases hk
  · rintro rfl
    cases hk
  · rintro rfl
    cases hk

/-- Each of these keeps the window. -/
theorem Step.strict_windowed {k : Kind} {Q : UInt8 → Prop} (h : Step k s t) (hk : strict k s)
    (hs : WellFormed s) (hI : Windowed (fun p => Q p.pid) (n + 1) s) :
    Windowed (fun p => Q p.pid) (n + 1) t := by
  refine h.windowed hk.1 hs (fun he => absurd he hk.2.1) ?_ ?_ ?_ hI
  · rintro (he | he)
    · exact absurd he hk.2.2.1
    · exact absurd he hk.2.2.2
  · intro p _ q hm hq
    exact .inl (hm.identity.1 ▸ hq)
  · intro p now b seq hq
    exact (p.kept_hear now b seq).pid ▸ hq

/-- So does what is done in them. -/
theorem Does.strict_windowed {Q : UInt8 → Prop} (h : Does strict s t) (hs : WellFormed s)
    (hI : Windowed (fun p => Q p.pid) (n + 1) s) : Windowed (fun p => Q p.pid) (n + 1) t := by
  refine (Lib.Path.preserves (I := fun s => WellFormed s ∧ Windowed (fun p => Q p.pid) (n + 1) s)
    ?_ h ⟨hs, hI⟩).2
  intro k s t hk hst ⟨hs, hI⟩
  exact ⟨hst.keeps_wellFormed hs, hst.strict_windowed hk hs hI⟩

/-- Whom the reaper leaves at the table was not excused. -/
theorem Windowed.reapLeftPlayers (hI : Windowed (fun p => p.left.isSome) (n + 1) s)
    (hs : WellFormed s) : Windowed (fun _ => False) (n + 1) s.reapLeftPlayers := by
  have hmarked : Windowed (fun p => p.pid ∈ s.gone.map Prod.fst) (n + 1) s := by
    refine ⟨hI.sync, hI.fresh, fun p hp => ?_⟩
    by_cases hv : p.virtualHost = true
    · exact .inr (.inl hv)
    · refine (hI.players p hp).imp_left fun hl => mem_gone.2 ⟨p, hp, rfl, ?_, hl⟩
      simpa using hv
  have hpath : Does strict s s.reapLeftPlayers :=
    does_reapLeftPlayers plain_strict (fun _ => ⟨rfl, by simp, by simp, by simp⟩)
      (fun _ => ⟨rfl, by simp, by simp, by simp⟩) (fun _ => ⟨rfl, by simp, by simp, by simp⟩)
      (fun _ _ => ⟨rfl, by simp, by simp, by simp⟩) hs
  have hend := hpath.strict_windowed hs hmarked
  refine ⟨hend.sync, hend.fresh, fun p hp => .inr ?_⟩
  refine (hend.players p hp).resolve_left fun hgone => ?_
  have hpid : p.pid ∈ s.reapLeftPlayers.pids := List.mem_map_of_mem hp
  exact ((reapLeftPlayers_pids hs).1 hpid).2 hgone

/-- An iteration keeps everyone in the window. -/
theorem step_windowed {ev : Event} (hs : WellFormed s) (hev : ev.Sound) (hC : FeedsOpenLinks s ev)
    (hlimit : LimitAtMost n s) (hI : Windowed (fun _ => False) (n + 1) s) :
    Windowed (fun _ => False) (n + 1) (s.step ev) := by
  have hwindow : ∀ p ∈ s.players, p.InWindow (n + 1) s.syncCounter :=
    fun p hp => (hI.players p hp).resolve_left id
  have hhandle : WellFormed (s.handle ev)
      ∧ Windowed (fun p => p.left.isSome) (n + 1) (s.handle ev) := by
    refine Lib.Path.preserves
      (I := fun s => WellFormed s ∧ Windowed (fun p => p.left.isSome) (n + 1) s) ?_
      (does_handle hs hev (admits_windowing hC hlimit hI.sync hwindow))
      ⟨hs, hI.sync, hI.fresh, fun p hp => .inr (hwindow p hp)⟩
    intro k s t hk hst ⟨hs, hI⟩
    exact ⟨hst.keeps_wellFormed hs, hst.left_windowed hk hs hI⟩
  unfold step
  split
  · exact hI
  split
  · exact ⟨hI.sync, hI.fresh, hI.players⟩
  · exact ⟨hI.sync, hI.fresh, hI.players⟩
  · have hreap := hhandle.2.reapLeftPlayers hhandle.1
    have hwf := (does_anyFine_reap hhandle.1).keeps_wellFormed hhandle.1
    exact (does_reportLobby plain_strict _).strict_windowed (Q := fun _ => False) hwf hreap

/-- From any state with the counter at 0, as `begin_playing` leaves it,
in every run with a sync limit of at most `L` while the game runs in
which the feed finds no link closed of a player whose catch-up ended
before it: no player in the sight of the lag check is more than `L + 1`
turns behind. -/
theorem lockstep_window {L : Nat} (hs : Reaches (fun _ _ => True) s) (hzero : s.syncCounter = 0)
    (h : Runs (fun s ev => FeedsOpenLinks s ev ∧ LimitAtMost L s) s t) {p : Player}
    (hp : p ∈ t.players) (hvh : p.virtualHost = false) (hrejoin : p.rejoin = .none)
    (hcursor : p.catchupCursor = none) (hup : p.catchingUp = false) :
    t.syncCounter - p.syncCounter ≤ L + 1 := by
  have hwf : WellFormed s :=
    hs.wellFormed
  have hstart : Windowed (fun _ => False) (L + 1) s := by
    refine ⟨?_, fun _ => hzero, fun p _ => .inr (.of_behind ?_)⟩
    · rw [hzero]
      exact Nat.two_pow_pos 32
    · rw [hzero]
      exact Nat.le_trans (Nat.le_of_eq (Nat.zero_sub _)) (Nat.zero_le _)
  obtain ⟨-, hI⟩ := h.preserves (I := Windowed (fun _ => False) (L + 1)) hwf hstart
    fun s ev hs hev hC hI => step_windowed hs hev hC.1 hC.2 hI
  rcases (hI.players p hp).resolve_left id with hv | hr | hc | hu | hb
  · rw [hvh] at hv
    cases hv
  · exact absurd hrejoin hr
  · rw [hcursor] at hc
    cases hc
  · rw [hup] at hu
    cases hu
  · exact hb

end Loop

section Runs

open Scenario

instance (s : GameState) (ev : Event) : Decidable (FeedsOpenLinks s ev) :=
  match ev with
  | .tick _ => inferInstanceAs (Decidable (s.phase = .playing → ∀ p ∈ s.tickHead.players,
      p.rejoin = .none → p.catchingUp = false → p.gproxy = true → p.disconnectedSince = none →
      p.cutOff s.tickHead.fullHistory = false))
  | .elapse _ | .cmd .. => inferInstanceAs (Decidable True)

instance (L : Nat) (s : GameState) : Decidable (LimitAtMost L s) :=
  inferInstanceAs (Decidable (s.phase = .playing → s.cfg.syncLimit ≤ L))

/-- Two clients play, the second with GProxy, and the lag screen comes
up at three turns behind. -/
def strictGame : GameState :=
  strictLobby.run (twoJoin PlayerLink.drained PlayerLink.drained ++ [hello 2] ++ countdown
    ++ [loaded 1, loaded 2])

/-- The first client answers turns that the second does not. -/
def unansweredTurns (n : Nat) : List Event := (List.replicate n [.tick 0, keepalive 1]).flatten

/-- The second client stays three turns behind: no more are sent. -/
theorem lockstep_window_unansweredTurns :
    Reaches (fun _ _ => True) strictGame ∧ strictGame.syncCounter = 0
      ∧ Runs (fun s ev => FeedsOpenLinks s ev ∧ LimitAtMost 2 s) strictGame
        (strictGame.run (unansweredTurns 5))
      ∧ (strictGame.run (unansweredTurns 5)).players.map Player.syncCounter = [5, 0]
      ∧ ∀ p ∈ (strictGame.run (unansweredTurns 5)).players,
        (strictGame.run (unansweredTurns 5)).syncCounter - p.syncCounter ≤ 2 + 1 := by
  have hreach : Reaches (fun _ _ => True) strictGame :=
    ⟨{ config with syncLimit := 2 }, 0, 5, Runs.of_meets (by decide +kernel)⟩
  have hzero : strictGame.syncCounter = 0 := by decide +kernel
  have hrun : Runs (fun s ev => FeedsOpenLinks s ev ∧ LimitAtMost 2 s) strictGame
      (strictGame.run (unansweredTurns 5)) := Runs.of_meets (by decide +kernel)
  have hseen : ∀ p ∈ (strictGame.run (unansweredTurns 5)).players, p.virtualHost = false
      ∧ p.rejoin = .none ∧ p.catchupCursor = none ∧ p.catchingUp = false := by decide +kernel
  refine ⟨hreach, hzero, hrun, by decide +kernel, fun p hp => ?_⟩
  obtain ⟨hvh, hrejoin, hcursor, hup⟩ := hseen p hp
  exact lockstep_window hreach hzero hrun hp hvh hrejoin hcursor hup

/-- A link that takes the handshake of a rejoin, is full for four ticks
and then closed. -/
def closingLink : PlayerLink :=
  PlayerLink.fresh (fun k => if k < 6 then .room else if k < 10 then .full else .closed) (by
    intro k hk
    have h₁ : ¬k < 10 := by
      intro h
      split at hk
      · cases hk
      · cases hk
    rw [if_neg (by omega), if_neg (by omega)])

/-- The second client rejoins after the first turn, answers it before
the feed has sent it anything, and loses its connection in the feed
four turns later. -/
def cutCatchUp : List Event :=
  [.tick 0, keepalive 1, closed 2, connect 3 closingLink, full 3 2, join 3 (txt "bob"), mapReady 3,
    loaded 3, keepalive 3] ++ unansweredTurns 4 ++ [.tick 0]

/-- The player is in the sight of the lag check, and too far behind. -/
theorem cut_feed_leaves_window :
    strictGame.syncCounter = 0
      ∧ Meets (fun s _ => LimitAtMost 2 s) strictGame cutCatchUp
      ∧ (strictGame.run cutCatchUp).panicked = false
      ∧ (strictGame.run cutCatchUp).phase = .playing
      ∧ ∃ p ∈ (strictGame.run cutCatchUp).players, p.virtualHost = false ∧ p.left = none
        ∧ p.rejoin = .none ∧ p.catchupCursor = none ∧ p.catchingUp = false
        ∧ (strictGame.run cutCatchUp).syncCounter - p.syncCounter = 4 := by
  refine ⟨by decide +kernel, by decide +kernel, by decide +kernel, by decide +kernel, ?_⟩
  decide +kernel

end Runs

end Spectre

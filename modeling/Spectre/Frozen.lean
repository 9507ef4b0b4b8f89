/-
The slot table after the lobby.

Once the countdown has begun, two things are meant to change the slot
table: the game mode written into the handicaps when loading begins,
and the slot of a leaver, which opens when the leaver is reaped. Slot
requests and the shuffle are turned down outside the lobby. The
commands that open, close, swap and fill slots are not.
-/
import Spectre.Scenario

namespace Spectre

open GameState

-- ================================================================= statement

/-- The slots after these players have been reaped. -/
def SlotTable.releaseAll (t : SlotTable) (gone : List (UInt8 × LeftReason)) : SlotTable :=
  gone.foldl (fun t g => (t.release g.1).1) t

/-- From `s` to `t` the slots went from `base` to what reaping made of
them. -/
def Released (base : SlotTable) (s t : GameState) : Prop :=
  ∃ gone, t.reaped = s.reaped ++ gone ∧ t.slots = base.releaseAll gone

/-- A request: a chat frame, which may be a line, a slot request or a
command, or a command of the actor's own that is no frame. -/
def Event.isRequest : Event → Bool
  | cmd _ (.frame _ (.w3gs id _)) => id = 0x28
  | cmd _ (.frame ..) => false
  | cmd .. => true
  | _ => false

section Iterations

variable [RustStd]

/-- Loading begins in this iteration. -/
def GameState.beginsLoading (s : GameState) : Event → Bool
  | .tick _ => !s.finished && s.tickHead.countdownDue
  | _ => false

/-- The slots an iteration starts from: with the game mode written into
them if loading begins in it. -/
def GameState.slotBase (s : GameState) (ev : Event) : SlotTable :=
  if s.beginsLoading ev then s.tickHead.applyHcl.slots else s.slots

/-- No command changes the slots after the lobby. -/
def SlotsLocked (s : GameState) (ev : Event) : Prop :=
  s.phase ≠ .lobby → s.editsSlots ev = false

-- ===================================================================== steps

/-- The kinds that change the slots other than by reaping. -/
def Kind.editsSlots : Kind → Bool
  | slots | vacate _ | seat | bounce | seatFake | unfake | hcl => true
  | _ => false

/-- Every step but these. -/
def frozen (k : Kind) (_ : GameState) : Prop := k.fine = true ∧ k.editsSlots = false

omit [RustStd] in
/-- What every command may do leaves the slots alone. -/
theorem plain_frozen : Plain frozen := by
  intro k hk _
  cases k <;> first | exact ⟨rfl, rfl⟩ | cases hk

omit [RustStd] in
/-- Nobody is reaped. -/
theorem Released.refl (s : GameState) : Released s.slots s s :=
  ⟨[], (List.append_nil _).symm, rfl⟩

omit [RustStd] in
/-- Neither slots nor reaped change. -/
theorem Released.of_same {base : SlotTable} {s t u : GameState} (h : Released base s t)
    (hslots : u.slots = t.slots) (hreaped : u.reaped = t.reaped) : Released base s u := by
  obtain ⟨gone, hg, hs⟩ := h
  exact ⟨gone, hreaped.trans hg, hslots.trans hs⟩

/-- A step that is no edit keeps the slots, or reaps one player. -/
theorem Step.released {k : Kind} {base : SlotTable} {s t u : GameState} (h : Step k t u)
    (hk : frozen k t) (hR : Released base s t) : Released base s u := by
  obtain ⟨hfine, hedit⟩ := hk
  cases h with
  | misc h => exact hR.of_same h.slots h.reaped
  | air b _ | airLag b _ | reset b _ =>
      obtain ⟨_, he⟩ := t.broadcast_eq b
      rw [he]
      exact hR.of_same rfl rfl
  | block b _ f =>
      obtain ⟨_, he⟩ := t.sendActionPacket_eq b f
      rw [he]
      exact hR.of_same rfl rfl
  | host pid _ _ info _ =>
      obtain ⟨_, _, _, he⟩ := t.broadcast?_eq info
      rw [he]
      exact hR.of_same rfl rfl
  | unseat pid r code _ _ _ =>
      obtain ⟨gone, hg, hs⟩ := hR
      refine ⟨gone ++ [(pid, r)], ?_, ?_⟩
      · rw [broadcast_reaped]
        show t.reaped ++ [(pid, r)] = _
        rw [hg, List.append_assoc]
      · rw [broadcast_slots]
        show (t.slots.release pid).1 = _
        rw [hs]
        unfold SlotTable.releaseAll
        rw [List.foldl_append]
        rfl
  | unhost _ _ =>
      obtain ⟨_, he⟩ := broadcast_eq { t with
        virtualHostPid := 255, players := t.players.removePid t.virtualHostPid }
        (.playerLeaveOthers t.virtualHostPid leaveLobby)
      rw [he]
      exact hR.of_same rfl rfl
  | seat | bounce | seatFake | unfake | slots | vacate | hcl => cases hedit
  | reap => cases hfine
  | begin => cases hfine
  | loaded => cases hfine
  | lagCheck => cases hfine
  | check => cases hfine
  | sendTurn => cases hfine
  | _ => exact hR.of_same rfl rfl

/-- What is done in these steps reaps only. -/
theorem Does.released {base : SlotTable} {s t u : GameState} (h : Does frozen t u)
    (hR : Released base s t) : Released base s u :=
  Lib.Path.preserves (fun _ _ _ hk hst => hst.released hk) h hR

-- ============================================================= one iteration

/-- Outside the lobby, without a slot command, nothing grants an
edit. -/
theorem guards_frozen {s : GameState} {ev : Event} (hphase : s.phase ≠ .lobby)
    (hC : s.editsSlots ev = false) : Guards frozen s ev where
  phase _ := ⟨rfl, rfl⟩
  slots hl _ _ := by
    rcases hl with hl | hl
    · exact absurd hl hphase
    · rw [hC] at hl
      cases hl
  vacate cmd sid hcmd hvac _ _ := by
    have hedit : cmd.editsSlots = true := by
      cases cmd <;> first | rfl | cases hvac
    have hall : s.editsSlots ev = true := by simp [editsSlots, hcmd, hedit]
    rw [hC] at hall
    cases hall
  limit _ := ⟨rfl, rfl⟩
  seat _ _ _ _ hl := absurd hl hphase
  bounce hl := absurd hl hphase
  seatFake _ hl := absurd hl hphase
  token _ _ _ _ _ _ _ := ⟨rfl, rfl⟩
  host _ _ := ⟨rfl, rfl⟩
  unhost _ _ _ := ⟨rfl, rfl⟩
  unfake _ hl := absurd hl hphase
  attachFull _ _ _ _ _ := ⟨rfl, rfl⟩
  attachGps _ _ _ _ _ _ := ⟨rfl, rfl⟩
  ack _ _ _ _ _ _ _ _ _ := ⟨rfl, rfl⟩
  queue _ _ := ⟨rfl, rfl⟩
  cache _ _ := ⟨rfl, rfl⟩
  feed _ _ _ := ⟨rfl, rfl⟩
  timeout _ _ _ := ⟨rfl, rfl⟩

/-- The reaper is made of them. -/
theorem does_reapFrozen {s : GameState} (hs : WellFormed s) : Does frozen s s.reapLeftPlayers :=
  does_reapLeftPlayers plain_frozen (fun _ => ⟨rfl, rfl⟩) (fun _ => ⟨rfl, rfl⟩)
    (fun _ => ⟨rfl, rfl⟩) (fun _ _ => ⟨rfl, rfl⟩) hs

/-- An iteration in which loading does not begin is frozen throughout. -/
theorem admits_frozen {s : GameState} {ev : Event} (hphase : s.phase ≠ .lobby)
    (hC : s.editsSlots ev = false) (hfin : s.finished = false)
    (hbegin : s.beginsLoading ev = false) :
    Admits frozen s ev where
  toGuards := guards_frozen hphase hC
  plain := plain_frozen
  reap _ _ ht := does_reapFrozen ht
  begin skipped hev hdue := by
    subst hev
    rw [beginsLoading, hfin, hdue] at hbegin
    cases hbegin
  loaded _ _ _ _ := does_handleLoaded plain_frozen (fun _ => ⟨rfl, rfl⟩) (fun _ => ⟨rfl, rfl⟩)
    (fun _ => ⟨rfl, rfl⟩)
    fun _ _ _ _ => ⟨rfl, rfl⟩
  check t _ := does_checkDesync plain_frozen (fun _ => ⟨rfl, rfl⟩) (fun _ => ⟨rfl, rfl⟩) t
  lagCheck _ _ _ := does_checkLag plain_frozen (fun _ => ⟨rfl, rfl⟩) (fun _ => ⟨rfl, rfl⟩)
    fun _ _ => ⟨rfl, rfl⟩
  sendTurn skipped _ _ _ _ hstart := does_sendAllActions plain_frozen ⟨rfl, rfl⟩
    (fun _ => ⟨rfl, rfl⟩) hstart skipped

omit [RustStd] in
/-- The virtual host has no slot. -/
theorem deleteVirtualHost_slots (s : GameState) :
    s.deleteVirtualHost.slots = s.slots ∧ s.deleteVirtualHost.reaped = s.reaped := by
  unfold deleteVirtualHost
  split
  · exact ⟨rfl, rfl⟩
  · exact ⟨broadcast_slots _ _, broadcast_reaped _ _⟩

omit [RustStd] in
/-- A fake player that has loaded has the slot it had. -/
theorem loadFakePlayer_slots (s : GameState) :
    s.loadFakePlayer.slots = s.slots ∧ s.loadFakePlayer.reaped = s.reaped := by
  unfold loadFakePlayer
  split
  · exact ⟨broadcast_slots _ _, broadcast_reaped _ _⟩
  · exact ⟨rfl, rfl⟩

omit [RustStd] in
/-- The command string is written into the slots. -/
theorem applyHcl_slots (s : GameState) :
    s.applyHcl.slots = (s.hcl.map fun mode => (Hcl.encodeHclIntoSlots mode s.slots).1).getD s.slots
      ∧ s.applyHcl.reaped = s.reaped := by
  unfold applyHcl
  split
  · rename_i mode hmode
    dsimp only
    split
    · obtain ⟨_, _, _, he⟩ := broadcast?_eq
        (s.setSlots (Hcl.encodeHclIntoSlots mode s.slots).1)
        (Packet.slotInfo (Hcl.encodeHclIntoSlots mode s.slots).1 s.randomSeed s.cfg.map.layoutStyle
          s.cfg.map.numPlayers).build
      have hall : (s.setSlots (Hcl.encodeHclIntoSlots mode s.slots).1).sendAllSlotInfo = _ := he
      rw [hall, hmode]
      exact ⟨rfl, rfl⟩
    · rw [hmode]
      exact ⟨rfl, rfl⟩
  · rename_i hmode
    rw [hmode]
    exact ⟨rfl, rfl⟩

omit [RustStd] in
/-- Entering the loading screen writes the game mode into the slots,
and does nothing else to them. -/
theorem enterLoading_slots (s : GameState) :
    s.enterLoading.slots = s.applyHcl.slots ∧ s.enterLoading.reaped = s.reaped := by
  unfold enterLoading
  dsimp only
  generalize hs₁ : ({ s.setPhase .loading with
    startedLoadingAt := some s.now, startPlayers := s.players.humanCount } : GameState) = s₁
  have hslots : s₁.applyHcl.slots = s.applyHcl.slots := by
    rw [(applyHcl_slots s₁).1, (applyHcl_slots s).1, ← hs₁]
    rfl
  have hreaped : s₁.applyHcl.reaped = s.reaped := by
    rw [(applyHcl_slots s₁).2, ← hs₁]
    rfl
  constructor
  · rw [(loadFakePlayer_slots _).1, broadcast_slots, (deleteVirtualHost_slots _).1, broadcast_slots,
      hslots]
  · rw [(loadFakePlayer_slots _).2, broadcast_reaped, (deleteVirtualHost_slots _).2,
      broadcast_reaped, hreaped]

/-- That is all that loading does to them. -/
theorem beginLoading_slots (s : GameState) :
    s.beginLoading.slots = s.applyHcl.slots ∧ s.beginLoading.reaped = s.reaped := by
  obtain ⟨hslots, hreaped⟩ := enterLoading_slots s
  unfold beginLoading
  dsimp only
  split
  · have hframe := (does_announceStart plain_inertOnly s.enterLoading).framed
    exact ⟨hframe.slots.trans hslots, hframe.reaped.trans hreaped⟩
  · exact ⟨hslots, hreaped⟩

/-- The tick in which loading begins. -/
theorem onTick_beginsLoading {s : GameState} (skipped : Nat)
    (hdue : s.tickHead.countdownDue = true) :
    s.onTick skipped = s.tickHead.beginLoading.tickEnd := by
  unfold countdownDue at hdue
  unfold onTick
  dsimp only
  split at hdue
  · rename_i startedAt total last hph
    rw [hph]
    dsimp only
    unfold tickCountdown
    rw [if_pos (of_decide_eq_true hdue)]
  · cases hdue

/-- What one iteration does to the slots. -/
theorem step_released {s : GameState} (hs : WellFormed s) {ev : Event} (hev : ev.Sound)
    (hphase : s.phase ≠ .lobby) (hC : s.editsSlots ev = false) :
    Released (s.slotBase ev) s (s.step ev) := by
  cases hfin : s.finished with
  | true =>
      -- a game that has ended takes no step
      have hbase : s.slotBase ev = s.slots := by
        unfold slotBase
        cases ev <;> simp [beginsLoading, hfin]
      have hstep : s.step ev = s := by
        unfold step
        rw [hfin]
        rfl
      rw [hbase, hstep]
      exact Released.refl s
  | false =>
      cases hbegin : s.beginsLoading ev with
      | false =>
          have hbase : s.slotBase ev = s.slots := by
            unfold slotBase
            rw [hbegin]
            rfl
          rw [hbase]
          exact (does_step hs hev (admits_frozen hphase hC hfin hbegin)).released (Released.refl s)
      | true =>
          cases ev with
          | elapse ms => cases hbegin
          | cmd env c => cases hbegin
          | tick skipped =>
              have hdue : s.tickHead.countdownDue = true := by
                simpa [beginsLoading, hfin] using hbegin
              have hbase : s.slotBase (.tick skipped) = s.tickHead.applyHcl.slots := by
                unfold slotBase
                rw [hbegin]
                rfl
              -- the mode code is written into the slots where loading begins
              obtain ⟨hslots, hreaped⟩ := beginLoading_slots s.tickHead
              have hstart : Released (s.slotBase (.tick skipped)) s s.tickHead.beginLoading := by
                refine ⟨[], ?_, hslots.trans hbase.symm⟩
                rw [hreaped, (tickHead_framed s).reaped, List.append_nil]
              have hwf : WellFormed (s.onTick skipped) :=
                (does_handle hs hev (admits_anyFine s (.tick skipped))).keeps_wellFormed hs
              have hend : Does frozen s.tickHead.beginLoading (s.onTick skipped) := by
                rw [onTick_beginsLoading skipped hdue]
                exact does_tickEnd plain_frozen _ fun _ => ⟨rfl, rfl⟩
              have hpath := (hend.trans (does_reapFrozen hwf)).trans
                (does_reportLobby plain_frozen _)
              have hstep :
                s.step (.tick skipped) = (s.onTick skipped).reapLeftPlayers.reportLobby := by
                unfold step
                rw [hfin]
                rfl
              rw [hstep]
              exact hpath.released hstart

-- ================================================================== requests

/-- The steps that keep the slots. -/
def slotStill (k : Kind) (_ : GameState) : Prop :=
  k.fine = true ∧ k.editsSlots = false ∧ k ≠ .unseat

omit [RustStd] in
/-- What every command may do is among these steps. -/
theorem plain_slotStill : Plain slotStill := by
  intro k hk s
  obtain ⟨hfine, hedit⟩ := plain_frozen k hk s
  refine ⟨hfine, hedit, ?_⟩
  rintro rfl
  cases hk

/-- A step that is no edit and no reaping keeps the slots. -/
theorem Step.slots_eq {k : Kind} {s t : GameState} (h : Step k s t) (hk : slotStill k s) :
    t.slots = s.slots := by
  obtain ⟨gone, hg, hs⟩ := h.released ⟨hk.1, hk.2.1⟩ (Released.refl s)
  have hreaped : t.reaped = s.reaped := by
    obtain ⟨hfine, hedit, hne⟩ := hk
    cases h with
    | misc h => exact h.reaped
    | air b _ | airLag b _ | reset b _ => exact broadcast_reaped s b
    | block b _ f =>
        obtain ⟨_, he⟩ := s.sendActionPacket_eq b f
        rw [he]
    | host pid _ _ info _ =>
        obtain ⟨_, _, _, he⟩ := s.broadcast?_eq info
        rw [he]
    | unhost _ _ => exact broadcast_reaped _ _
    | unseat => exact absurd rfl hne
    | seat | bounce | seatFake | unfake | slots | vacate | hcl => cases hedit
    | reap => cases hfine
    | begin => cases hfine
    | loaded => cases hfine
    | lagCheck => cases hfine
    | check => cases hfine
    | sendTurn => cases hfine
    | _ => rfl
  -- nobody was reaped, so nothing was released
  have hnone : gone = [] := by
    rw [hreaped] at hg
    exact List.append_right_eq_self.1 hg.symm
  rw [hs, hnone]
  rfl

/-- What is done in them keeps the slots. -/
theorem Does.slots_eq {s t : GameState} (h : Does slotStill s t) : t.slots = s.slots := by
  refine Lib.Path.relates (R := fun s t : GameState => t.slots = s.slots) (fun _ => rfl) ?_ ?_ h
  · exact fun s t u h₁ h₂ => h₂.trans h₁
  · exact fun k s t hk hst => hst.slots_eq hk

/-- A request outside the lobby that is no slot command, as steps that
keep the slots. -/
theorem does_request {s : GameState} {ev : Event} (hev : ev.Sound) (hphase : s.phase ≠ .lobby)
    (hC : s.editsSlots ev = false) (hreq : ev.isRequest = true) :
    Does slotStill s (s.handle ev) := by
  have hK := plain_slotStill
  -- a request outside the lobby asks for no step that touches the slots
  have hgrant : ∀ {k : Kind} {t : GameState}, k.fine = true → k.editsSlots = false → k ≠ .unseat →
      slotStill k t := fun h₁ h₂ h₃ => ⟨h₁, h₂, h₃⟩
  cases ev with
  | elapse ms => cases hreq
  | tick skipped => cases hreq
  | cmd env c =>
      cases c with
      | toggleFakePlayer =>
          exact does_toggleFakePlayer hK (fun hl => absurd hl hphase) (fun hl => absurd hl hphase)
            env.fakeLink hev.1
      | attachDotaTv => exact Does.refl s
      | newConn connId link ip =>
          refine Does.one (hgrant rfl rfl (by simp)) (.queue _ fun e he => ?_)
          -- the new connection waits behind the others, on a new link
          rcases List.mem_append.1 he with he | he
          · exact .inl he
          · right
            rw [List.mem_singleton.1 he]
            exact hev.2.2
      | adoptReconnect connId req link =>
          exact does_handleGpsReconnect hK connId req link hev.2.2 fun _ =>
            hgrant rfl rfl (by simp)
      | frame connId f =>
          cases f with
          | gps id payload => cases hreq
          | iccupGps id payload => cases hreq
          | dotaTv => cases hreq
          | w3gs id payload =>
              have hid : id = 0x28 := by simpa [Event.isRequest] using hreq
              subst hid
              have hcommand : s.command (.cmd env (.frame connId (.w3gs 0x28 payload)))
                  = s.chatCommand connId payload := rfl
              -- the premise speaks of the event; read for the command it carries
              have hno : ∀ cmd, s.chatCommand connId payload = some cmd
                → cmd.editsSlots = false := by
                intro cmd hcmd
                have hC' : ((s.chatCommand connId payload).map ChatCommand.editsSlots).getD false
                    = false := hC
                rw [hcmd] at hC'
                exact hC'
              refine does_handleChatToHost hK (fun _ => hgrant rfl rfl (by simp)) env hev.1 connId
                payload ?_ ?_ (fun _ => hgrant rfl rfl (by simp)) (fun hl => absurd hl hphase)
                (fun _ hl => absurd hl hphase) (fun _ hl => absurd hl hphase)
                (fun _ _ _ hl => absurd hl hphase) fun _ _ _ _ _ _ => hgrant rfl rfl (by simp)
              · intro cmd hcmd hedit
                rw [hno cmd hcmd] at hedit
                cases hedit
              · intro cmd sid hcmd hvac
                have hedit : cmd.editsSlots = true := by
                  cases cmd <;> first | rfl | cases hvac
                -- opening or closing a slot edits it
                rw [hno cmd hcmd] at hedit
                cases hedit
      | closed connId reason =>
          exact does_handleConnClosed hK (hgrant rfl rfl (by simp))
            (fun _ => hgrant rfl rfl (by simp)) connId reason
      | start => exact does_startCountdown s fun _ => hgrant rfl rfl (by simp)
      | chat msg => exact does_sendChatAll hK s msg
      | unhost =>
          dsimp only [handle, handleCmd]
          split
          · exact does_finish hK s
          · exact Does.refl s
      | shutdown => exact does_finish hK s
      | createVirtualHost => exact does_createVirtualHost (hgrant rfl rfl (by simp))

-- ==================================================================== result

/-- In every run in which no slot command is given after the lobby: a
request received after the lobby leaves the slot table as it is, and a
whole iteration changes it only by the game mode, when loading begins,
and by opening the slots of those it reaps. -/
theorem slots_frozen_after_lobby {s : GameState} (h : Reaches SlotsLocked s)
    (hphase : s.phase ≠ .lobby) {ev : Event} (hev : ev.Sound) (hC : SlotsLocked s ev) :
    (ev.isRequest = true → (s.handle ev).slots = s.slots)
      ∧ Released (s.slotBase ev) s (s.step ev) := by
  have hs : WellFormed s := h.wellFormed
  constructor
  · intro hreq
    exact (does_request hev hphase (hC hphase) hreq).slots_eq
  · exact step_released hs hev hphase (hC hphase)

end Iterations

section Scenarios

open Scenario

instance (s : GameState) (ev : Event) : Decidable (SlotsLocked s ev) :=
  inferInstanceAs (Decidable (s.phase ≠ .lobby → s.editsSlots ev = false))

/-- In a running game of two the second player leaves. -/
theorem slots_frozen_after_lobby_leaver :
    Reaches SlotsLocked (lobby.run (twoPlay PlayerLink.drained PlayerLink.drained))
      ∧ ((leaveGame 2).isRequest = true →
        ((lobby.run (twoPlay PlayerLink.drained PlayerLink.drained)).handle (leaveGame 2)).slots
          = (lobby.run (twoPlay PlayerLink.drained PlayerLink.drained)).slots)
      ∧ Released
        ((lobby.run (twoPlay PlayerLink.drained PlayerLink.drained)).slotBase (leaveGame 2))
        (lobby.run (twoPlay PlayerLink.drained PlayerLink.drained))
        ((lobby.run (twoPlay PlayerLink.drained PlayerLink.drained)).step (leaveGame 2)) := by
  have hrun : Reaches SlotsLocked (lobby.run (twoPlay PlayerLink.drained PlayerLink.drained)) :=
    ⟨config, 0, 5, Runs.of_meets (by decide +kernel)⟩
  have hphase : (lobby.run (twoPlay PlayerLink.drained PlayerLink.drained)).phase ≠ .lobby := by
    decide +kernel
  have hlocked : SlotsLocked (lobby.run (twoPlay PlayerLink.drained PlayerLink.drained))
      (leaveGame 2) := by
    decide +kernel
  exact ⟨hrun, slots_frozen_after_lobby hrun hphase (by decide +kernel) hlocked⟩

/-- The owner closes a slot of a running game. -/
def closeLate : Event := say 1 1 (txt "!close 2")

/-- A close command empties a seat in the middle of the game: the slot
of the second player, who stays in it, is closed. -/
theorem close_command_changes_running_slots :
    (∀ ev ∈ twoPlay PlayerLink.drained PlayerLink.drained, ev.Sound) ∧ closeLate.Sound
      ∧ (lobby.run (twoPlay PlayerLink.drained PlayerLink.drained)).phase = .playing
      ∧ closeLate.isRequest = true
      ∧ ((lobby.run (twoPlay PlayerLink.drained PlayerLink.drained)).handle closeLate).slots
        ≠ (lobby.run (twoPlay PlayerLink.drained PlayerLink.drained)).slots
      ∧ (((lobby.run (twoPlay PlayerLink.drained PlayerLink.drained)).step closeLate).slots.map
        fun a => (a.slotStatus, a.pid)) = [(slotOccupied, 1), (slotClosed, 0), (slotOpen, 0)]
      ∧ (((lobby.run (twoPlay PlayerLink.drained PlayerLink.drained)).step closeLate).players.map
        fun p => (p.pid, p.left)) = [(1, none), (2, none)]
      ∧ ((lobby.run (twoPlay PlayerLink.drained PlayerLink.drained)).step closeLate).panicked
        = false := by
  decide +kernel

end Scenarios

end Spectre

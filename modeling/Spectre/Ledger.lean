/-
What the match record is made of, through a tick: the store, the
statistics, and the actions they have not read.

Nothing a tick does before its end touches them but the turn, which
reads the queued actions into the statistics.
-/
import Spectre.Actor

namespace Spectre

namespace GameState

/-- What the match record is made of, the table apart: the store, the
statistics, and the actions they have not read. -/
def ledger (s : GameState) : Option (List StoreCmd) × Option StatsDotA × List ActionBlock :=
  (s.store, s.dota, s.actions)

/-- What speaking, the start and the reaper leave alone: the ledger, the
configuration and the map downloads. -/
def aside (s : GameState) :
    (Option (List StoreCmd) × Option StatsDotA × List ActionBlock)
      × GameConfig × List Download × Nat × Nat :=
  (s.ledger, s.cfg, s.downloads, s.downloadCounter, s.lastDownloadCounterReset)

/-- A loop whose body leaves the ledger alone. -/
theorem foldl_ledger {α : Type} {f : GameState → α → GameState}
    (hf : ∀ s a, (f s a).ledger = s.ledger) (l : List α) (s : GameState) :
    (l.foldl f s).ledger = s.ledger := by
  induction l generalizing s with
  | nil => rfl
  | cons a l ih => rw [List.foldl_cons, ih, hf]

/-- The same, of all that is set aside. -/
theorem foldl_aside {α : Type} {f : GameState → α → GameState}
    (hf : ∀ s a, (f s a).aside = s.aside) (l : List α) (s : GameState) :
    (l.foldl f s).aside = s.aside := by
  induction l generalizing s with
  | nil => rfl
  | cons a l ih => rw [List.foldl_cons, ih, hf]

variable (s : GameState)

-- ------------------------------------------------------------------- speaking

/-- A packet to all is no matter of the record. -/
@[simp] theorem broadcast_aside (b : Packet) : (s.broadcast b).aside = s.aside := by
  unfold broadcast
  split <;> rfl

/-- Nor is one that may have been too long. -/
@[simp] theorem broadcast?_aside (b : Option Packet) : (s.broadcast? b).aside = s.aside := by
  cases b with
  | none => rfl
  | some b => exact s.broadcast_aside b

/-- Nor is a packet to one player. -/
theorem sendTo?_aside (pid : UInt8) (b : Option Packet) :
    (s.sendTo? pid b).aside = s.aside := by
  cases b with
  | none => rfl
  | some b => rfl

/-- A text that is cut leaves a line in the log, and no more. -/
theorem clip_aside (n : Nat) (m : Text) : (s.clip n m).1.aside = s.aside := by
  unfold clip
  split <;> rfl

/-- A line of the host goes to the players and into the replay. -/
@[simp] theorem sendChatAll_aside (m : Text) : (s.sendChatAll m).aside = s.aside := by
  unfold sendChatAll
  dsimp only
  split
  · rfl
  split
  · rfl
  split
  · rw [broadcast?_aside, clip_aside]
    rfl
  · rw [broadcast?_aside]
    exact clip_aside _ _ _

/-- A line of the host to one player. -/
theorem sendChatTo_aside (pid : UInt8) (m : Text) : (s.sendChatTo pid m).aside = s.aside := by
  unfold sendChatTo
  dsimp only
  split
  · rfl
  split
  · rw [sendTo?_aside, clip_aside]
  · rw [sendTo?_aside, clip_aside]

/-- The slot table, to all. -/
@[simp] theorem sendAllSlotInfo_aside : s.sendAllSlotInfo.aside = s.aside :=
  s.broadcast?_aside _

/-- In particular the ledger stays. -/
@[simp] theorem broadcast_ledger (b : Packet) : (s.broadcast b).ledger = s.ledger :=
  congrArg Prod.fst (s.broadcast_aside b)

@[simp] theorem broadcast?_ledger (b : Option Packet) : (s.broadcast? b).ledger = s.ledger :=
  congrArg Prod.fst (s.broadcast?_aside b)

@[simp] theorem sendChatAll_ledger (m : Text) : (s.sendChatAll m).ledger = s.ledger :=
  congrArg Prod.fst (s.sendChatAll_aside m)

@[simp] theorem sendAllSlotInfo_ledger : s.sendAllSlotInfo.ledger = s.ledger :=
  s.broadcast?_ledger _

-- -------------------------------------------------------------- how it starts

/-- The command string is in the slots. -/
theorem applyHcl_ledger : s.applyHcl.ledger = s.ledger := by
  unfold applyHcl
  split
  · dsimp only
    split
    · exact sendAllSlotInfo_ledger _
    · rfl
  · rfl

/-- The virtual host takes nothing along. -/
theorem deleteVirtualHost_ledger : s.deleteVirtualHost.ledger = s.ledger := by
  unfold deleteVirtualHost
  split
  · rfl
  · exact broadcast_ledger _ _

/-- A fake player that has loaded. -/
theorem loadFakePlayer_ledger : s.loadFakePlayer.ledger = s.ledger := by
  unfold loadFakePlayer
  split
  · exact broadcast_ledger _ _
  · rfl

/-- The game loads: nothing has been played yet. -/
theorem enterLoading_ledger : s.enterLoading.ledger = s.ledger := by
  unfold enterLoading
  dsimp only
  rw [loadFakePlayer_ledger, broadcast_ledger, deleteVirtualHost_ledger, broadcast_ledger,
    applyHcl_ledger]
  rfl

/-- Who loaded fast and who slowly is only told. -/
theorem announceLoadTimes_aside [RustStd] (started : Nat) :
    (s.announceLoadTimes started).aside = s.aside := by
  unfold announceLoadTimes
  dsimp only
  refine (foldl_aside (fun t e => t.sendChatTo_aside _ _) _ _).trans ?_
  split
  · rw [sendChatAll_aside, sendChatAll_aside]
  · rfl

/-- The relay has commands of its own. -/
theorem startRelay_aside : s.startRelay.aside = s.aside := by
  unfold startRelay
  dsimp only
  rw [foldl_aside]
  · rfl
  · intro s p
    split <;> rfl

/-- The replay is no part of the record. -/
theorem startReplay_aside : s.startReplay.aside = s.aside := by
  unfold startReplay record
  rfl

/-- The game begins with the record as it is. -/
@[simp] theorem beginPlaying_aside [RustStd] : s.beginPlaying.aside = s.aside := by
  unfold beginPlaying
  dsimp only
  rw [startRelay_aside, startReplay_aside]
  split
  · exact announceLoadTimes_aside _ _
  · rfl

/-- In particular with the ledger as it is. -/
@[simp] theorem beginPlaying_ledger [RustStd] : s.beginPlaying.ledger = s.ledger :=
  congrArg Prod.fst s.beginPlaying_aside

/-- Loading begins, and may end at once. -/
theorem beginLoading_ledger [RustStd] : s.beginLoading.ledger = s.ledger := by
  unfold beginLoading
  dsimp only
  split
  · rw [beginPlaying_ledger, enterLoading_ledger]
  · exact s.enterLoading_ledger

-- ----------------------------------------------------------------- the reaper

/-- A countdown that is called off. -/
theorem abortCountdown_aside : s.abortCountdown.aside = s.aside := by
  unfold abortCountdown
  split
  · exact sendChatAll_aside _ _
  · rfl

/-- Whoever is reaped leaves the record as it is: what was scored stays. -/
theorem reapPlayer_aside (pid : UInt8) (code : Nat) :
    (s.reapPlayer pid code).aside = s.aside := by
  have hinform : ∀ t : GameState, t.aside = s.aside →
      (if t.phase = .lobby then t.sendAllSlotInfo else t).aside = s.aside := by
    intro t ht
    split
    · rw [sendAllSlotInfo_aside, ht]
    · exact ht
  unfold reapPlayer
  dsimp only
  refine hinform _ ((broadcast_aside _ _).trans ?_)
  split <;> rfl

/-- The same, of all that are marked. -/
theorem reapLeftPlayers_aside [RustStd] : s.reapLeftPlayers.aside = s.aside := by
  unfold reapLeftPlayers
  dsimp only
  split
  · rfl
  have hloop : ∀ (l : List (UInt8 × Nat)) (t : GameState),
      (l.foldl (fun s g => s.reapPlayer g.1 g.2) t).aside = t.aside :=
    foldl_aside fun s g => s.reapPlayer_aside g.1 g.2
  split
  · rw [beginPlaying_aside, hloop]
    exact s.abortCountdown_aside
  · rw [hloop]
    exact s.abortCountdown_aside

/-- In particular the ledger stays. -/
theorem reapLeftPlayers_ledger [RustStd] : s.reapLeftPlayers.ledger = s.ledger :=
  congrArg Prod.fst s.reapLeftPlayers_aside

/-- A report to the supervisor. -/
theorem reportLobby_ledger : s.reportLobby.ledger = s.ledger := by
  unfold reportLobby
  dsimp only
  split
  · unfold emitLobbyStatus
    split <;> rfl
  · rfl

-- --------------------------------------------------------------------- a tick

/-- The watch over those who are held. -/
theorem reapGproxyTimeouts_ledger (grace : Nat) :
    (s.reapGproxyTimeouts grace).ledger = s.ledger := by
  unfold reapGproxyTimeouts
  dsimp only
  rw [foldl_ledger fun s n => s.sendChatAll_ledger n]
  rfl

/-- The ping of a tick. -/
theorem tickPing_ledger : s.tickPing.ledger = s.ledger := by
  unfold tickPing
  split
  · exact broadcast_ledger _ _
  · rfl

/-- What every tick does first, outside the lobby. -/
theorem tickHead_ledger (h : s.phase ≠ .lobby) : s.tickHead.ledger = s.ledger := by
  unfold tickHead pumpDownloads
  rw [if_pos h, tickPing_ledger, reapGproxyTimeouts_ledger]

/-- The tick of a countdown. -/
theorem tickCountdown_ledger [RustStd] (startedAt total lastStep : Nat) :
    (s.tickCountdown startedAt total lastStep).ledger = s.ledger := by
  unfold tickCountdown
  dsimp only
  split
  · exact s.beginLoading_ledger
  split
  · exact sendChatAll_ledger _ _
  · rfl

/-- The tick of a game that loads. -/
theorem tickLoading_ledger [RustStd] : s.tickLoading.ledger = s.ledger := by
  unfold tickLoading
  split
  · split
    · exact reapLeftPlayers_ledger _
    · rfl
  · rfl

/-- Checksums are taken off the players' queues. -/
theorem popChecksums_ledger (pids : List UInt8) : (s.popChecksums pids).ledger = s.ledger :=
  foldl_ledger (f := fun s pid =>
    { s with players := s.players.modifyPid pid Player.popChecksum }) (fun _ _ => rfl) pids s

/-- Marks are on the players. -/
theorem kickDesynced_ledger (pids : List UInt8) : (s.kickDesynced pids).ledger = s.ledger :=
  foldl_ledger (f := fun s pid => s.kickPlayer pid .desync leaveLost) (fun _ _ => rfl) pids s

/-- One comparison of the checksums. -/
theorem checkDesyncOnce_ledger [RustStd] : s.checkDesyncOnce.1.ledger = s.ledger := by
  unfold checkDesyncOnce
  dsimp only
  split
  · split <;> rfl
  split
  · rfl
  split
  · rfl
  split
  · exact s.popChecksums_ledger _
  split
  · exact (popChecksums_ledger _ _).trans
      ((kickDesynced_ledger _ _).trans (s.sendChatAll_ledger _))
  · exact (popChecksums_ledger _ _).trans
      ((kickDesynced_ledger _ _).trans (s.sendChatAll_ledger _))

/-- All the comparisons there are. -/
theorem checkDesync_ledger [RustStd] : s.checkDesync.ledger = s.ledger := by
  have hloop : ∀ (fuel : Nat) (s t : GameState), checkDesyncLoop fuel s = some t →
      t.ledger = s.ledger := by
    intro fuel
    induction fuel with
    | zero => exact fun _ _ h => nomatch h
    | succ fuel ih =>
        intro s t h
        have hone := s.checkDesyncOnce_ledger
        unfold checkDesyncLoop at h
        split at h
        · rename_i u hu
          rw [hu] at hone
          exact (ih _ _ h).trans hone
        · rename_i u hu
          rw [hu] at hone
          exact Option.some.inj h ▸ hone
  unfold checkDesync
  cases h : checkDesyncLoop (s.queuedChecksums + 1) s with
  | none => rfl
  | some t => exact hloop _ s t h

/-- Who lags no more is announced. -/
theorem stopLags_ledger (l : List (UInt8 × Nat)) : (s.stopLags l).ledger = s.ledger :=
  foldl_ledger (fun s _ => s.broadcast_ledger _) l s

/-- Who lags is announced. -/
theorem startLags_ledger (newly : List (UInt8 × Nat)) : (s.startLags newly).ledger = s.ledger := by
  unfold startLags
  split
  · rfl
  split
  · exact s.broadcast?_ledger _
  · exact s.broadcast?_ledger _

/-- The lag screen is shown anew. -/
theorem resetLagScreen_ledger : s.resetLagScreen.ledger = s.ledger := by
  unfold resetLagScreen
  dsimp only
  split
  · rfl
  · show GameState.ledger (broadcast? _ _) = _
    rw [broadcast?_ledger, broadcast?_ledger, stopLags_ledger]

/-- The lag screen, whether the turn waits or not. -/
theorem checkLag_ledger : s.checkLag.1.ledger = s.ledger := by
  have hupdate : s.updateLagScreen.ledger = s.ledger := by
    show GameState.ledger ((s.lagFlags.stopLags s.recovered).startLags s.newlyLagging) = _
    rw [startLags_ledger, stopLags_ledger]
    rfl
  unfold checkLag
  dsimp only
  split
  · rw [resetLagScreen_ledger, hupdate]
  · exact hupdate

/-- The same, within a tick. -/
theorem tickLag_ledger [RustStd] : s.tickLag.1.ledger = s.ledger := by
  unfold tickLag
  dsimp only
  rw [checkLag_ledger, checkDesync_ledger]
  split <;> rfl

/-- The time after the game has been won. -/
theorem tickGameOver_ledger : s.tickGameOver.ledger = s.ledger := by
  unfold tickGameOver
  dsimp only
  have hset : GameState.ledger (if s.realPlayers = 1 ∧ 1 < s.startPlayers
      ∧ s.gameOverTime.isNone = true then { s with gameOverTime := some s.now } else s)
        = s.ledger := by
    split <;> rfl
  generalize (if s.realPlayers = 1 ∧ 1 < s.startPlayers ∧ s.gameOverTime.isNone = true then
    { s with gameOverTime := some s.now } else s) = t at hset
  split
  · split
    · exact hset
    · exact hset
  · exact hset

/-- A packet of actions goes to the players and into the replay. -/
theorem sendActionPacket_ledger (b : Packet) (f : ReplayBody → ReplayBody) :
    (s.sendActionPacket b f).ledger = s.ledger :=
  broadcast_ledger _ b

/-- So does a full batch. -/
theorem sendOverflow_ledger (batch : List ActionBlock) :
    (s.sendOverflow batch).ledger = s.ledger := by
  unfold sendOverflow
  split
  · exact s.sendActionPacket_ledger _ _
  · rfl

/-- The batching loop reads every queued action into the statistics. -/
theorem batchActions_ledger (queued : List ActionBlock) (batch : List ActionBlock) (len : Nat)
    (winner : Option Text) : (batchActions queued s batch len winner).1.ledger
      = (s.store, s.dota.map fun d =>
          queued.foldl (fun d a => (d.processAction a.data).1) d, s.actions) := by
  induction queued generalizing s batch len winner with
  | nil =>
      show (s.store, s.dota, s.actions) = _
      cases s.dota <;> rfl
  | cons action rest ih =>
      have hnext : ∀ (t : GameState) (d : Option StatsDotA) (batch : List ActionBlock) (len : Nat)
          (winner : Option Text), t.ledger = (s.store, d, s.actions) →
          (batchActions rest t batch len winner).1.ledger = (s.store, d.map fun d =>
            rest.foldl (fun d a => (d.processAction a.data).1) d, s.actions) := by
        intro t d batch len winner ht
        obtain ⟨hstore, hrest⟩ := Prod.mk.inj ht
        obtain ⟨hdota, hactions⟩ := Prod.mk.inj hrest
        rw [ih, hstore, hdota, hactions]
      unfold batchActions
      cases hd : s.dota with
      | none =>
          have hs : s.ledger = (s.store, none, s.actions) := by
            unfold ledger
            rw [hd]
          dsimp only
          split
          · exact hnext _ none _ _ _ ((s.sendOverflow_ledger batch).trans hs)
          · exact hnext _ none _ _ _ hs
      | some dota =>
          dsimp only
          generalize hs₁ : ({ s with
            dota := some (dota.processAction action.data).1 } : GameState) = s₁
          have h₁ : s₁.ledger
              = (s.store, some (dota.processAction action.data).1, s.actions) := by
            rw [← hs₁]
            rfl
          split
          · exact hnext _ (some _) _ _ _ ((s₁.sendOverflow_ledger batch).trans h₁)
          · exact hnext _ (some _) _ _ _ h₁

/-- The turn reads the queued actions, all of them and in order, into the
statistics, and has none left. -/
theorem sendAllActions_ledger (skipped : Nat) : (s.sendAllActions skipped).ledger
    = (s.store, s.dota.map fun d =>
        s.actions.foldl (fun d a => (d.processAction a.data).1) d, []) := by
  have hbatch := batchActions_ledger { s with
    gameTicks := (s.gameTicks + s.tickElapsed skipped) % 2 ^ 32
    syncCounter := (s.syncCounter + 1) % 2 ^ 32
    turns := s.turns ++ [s.tickElapsed skipped]
    actions := [] } s.actions [] 0 none
  unfold sendAllActions
  dsimp only
  generalize batchActions s.actions _ [] 0 none = r at hbatch ⊢
  obtain ⟨t, batch, winner⟩ := r
  have hdeclare : (t.declareWinner winner).ledger = t.ledger := by
    cases winner with
    | none => rfl
    | some w => exact t.sendChatAll_ledger _
  dsimp only
  split
  · rw [sendActionPacket_ledger, hdeclare]
    exact hbatch
  · rw [hdeclare]
    exact hbatch

end GameState

end Spectre

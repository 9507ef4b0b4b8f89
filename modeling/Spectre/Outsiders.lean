/-
Connections without a seat.

A frame on a connection that no player holds should leave the game as
it is, unless it asks for a seat. Nine of the handlers look the sender
up before they act. Two act first: a drop request is granted whoever
sent it, and a keepalive runs the desync check even if nobody is found
to credit it to. `outsiderActs` is exactly when one of these has
something to act on.
-/
import Spectre.Desync
import Spectre.LagScreen

namespace Spectre

open GameState

/-- The frames that ask for a seat. -/
def AnyFrame.asksForSeat : AnyFrame → Bool
  | w3gs id _ => id = 0x1E
  | gps id _ => id = 0x02
  | iccupGps id _ => id = 0x16
  | dotaTv => false

/-- What a stranger's frame should leave alone. -/
structure Untouched (s t : GameState) : Prop where
  players : t.players = s.players
  slots : t.slots = s.slots
  phase : t.phase = s.phase
  actions : t.actions = s.actions
  downloads : t.downloads = s.downloads

/-- A frame acts on the game whoever sent it: a drop request while the
lag screen shows a player who has not left, or a keepalive while the
desync check has something to do. -/
def GameState.outsiderActs (s : GameState) : AnyFrame → Bool
  | .w3gs id payload =>
      (id = 0x29 && s.lagging && s.players.any fun p => p.lagging && p.left.isNone)
        || (id = 0x27 && s.phase = .playing && (decodeKeepalive payload).toBool && s.desyncDue)
  | _ => false

section Frames

variable {s : GameState} {connId : Nat}

theorem Untouched.refl (s : GameState) : Untouched s s := ⟨rfl, rfl, rfl, rfl, rfl⟩

theorem byConn_eq_none (hout : ∀ p ∈ s.players, p.connId ≠ connId) :
    s.players.byConn connId = none := by
  refine List.find?_eq_none.2 fun p hp => ?_
  simpa using hout p hp

theorem modifyConn_of_absent (hout : ∀ p ∈ s.players, p.connId ≠ connId) (f : Player → Player) :
    s.players.modifyConn connId f = s.players :=
  Lib.updateFirst_of_find?_none (byConn_eq_none hout)

/-- The drop request marks every player on the lag screen. -/
theorem handleDropRequest_eq (hnd : (s.players.map Player.pid).Nodup) (hlag : s.lagging = true) :
    s.handleDropRequest = { s with players := s.players.map fun p =>
      if p.lagging = true ∧ p.left = none then p.leave .droppedByVote leaveDisconnect else p } := by
  refine (if_neg (by simp [hlag])).trans ?_
  refine (foldl_players _ (fun t pid => t.modifyPid pid fun p =>
    p.leave .droppedByVote leaveDisconnect) s).trans ?_
  rw [foldl_modifyPid (f := fun p => p.leave .droppedByVote leaveDisconnect) hnd (fun _ => rfl)
    (.inr fun _ => rfl)]
  congr 1
  refine List.map_congr_left fun p hp => ?_
  have hiff : p.pid ∈ (s.players.filter fun p => p.lagging && p.left.isNone).map Player.pid
      ↔ p.lagging = true ∧ p.left = none := by
    rw [List.mem_map]
    constructor
    · rintro ⟨q, hq, hpid⟩
      obtain ⟨hq, hmark⟩ := List.mem_filter.1 hq
      have hsame : s.players.byPid p.pid = some q := hpid ▸ byPid_of_mem hnd hq
      rw [byPid_of_mem hnd hp] at hsame
      rw [Option.some.inj hsame]
      simpa using hmark
    · intro hmark
      exact ⟨p, List.mem_filter.2 ⟨hp, by simpa using hmark⟩, rfl⟩
  simp only [hiff]

/-- A drop request changes the table exactly if somebody is on the lag
screen. -/
theorem untouched_handleDropRequest (hnd : (s.players.map Player.pid).Nodup) :
    Untouched s s.handleDropRequest
      ↔ (s.lagging && s.players.any fun p => p.lagging && p.left.isNone) = false := by
  cases hlag : s.lagging with
  | false =>
      have hsame : s.handleDropRequest = s := by
        unfold handleDropRequest
        rw [hlag]
        rfl
      rw [hsame]
      simp [Untouched.refl]
  | true =>
      rw [handleDropRequest_eq hnd hlag, Bool.true_and, List.any_eq_false]
      constructor
      · intro h p hp hmark
        have hmark' : p.lagging = true ∧ p.left = none := by simpa using hmark
        -- a player who has not left would be marked
        have hp' := List.map_inj_left.1 (h.players.trans (List.map_id s.players).symm) p hp
        rw [if_pos hmark'] at hp'
        have hleft : (p.leave .droppedByVote leaveDisconnect).left = p.left :=
          congrArg Player.left hp'
        rw [hmark'.2] at hleft
        cases hleft
      · intro h
        refine ⟨?_, rfl, rfl, rfl, rfl⟩
        refine (List.map_congr_left fun p hp => ?_).trans (List.map_id s.players)
        refine if_neg fun hmark => h p hp ?_
        simpa using hmark

/-- A GPS or iCCup frame that does not ask for a seat greets the player
it came from, and nobody else. -/
theorem untouched_onGpsFrame (hout : ∀ p ∈ s.players, p.connId ≠ connId) {id : UInt8}
    (hid : id ≠ 0x02) (payload : List UInt8) : Untouched s (s.onGpsFrame connId id payload) := by
  unfold onGpsFrame
  dsimp only
  split
  · rw [modifyConn_of_absent hout]
    exact Untouched.refl s
  split
  · rw [modifyConn_of_absent hout]
    exact Untouched.refl s
  split
  · split
    · exact ⟨rfl, rfl, rfl, rfl, rfl⟩
    · exact Untouched.refl s
  · exact Untouched.refl s

theorem untouched_onIccupGpsFrame (hout : ∀ p ∈ s.players, p.connId ≠ connId) {id : UInt8}
    (hid : id ≠ 0x16) (payload : List UInt8) :
    Untouched s (s.onIccupGpsFrame connId id payload) := by
  unfold onIccupGpsFrame
  dsimp only
  split
  · rw [modifyConn_of_absent hout]
    exact Untouched.refl s
  split
  · rw [modifyConn_of_absent hout]
    exact Untouched.refl s
  exact Untouched.refl s

variable [RustStd]

/-- A keepalive nobody is credited with changes the table exactly if the
desync check has something to do. -/
theorem untouched_handleKeepalive (hnd : (s.players.map Player.pid).Nodup)
    (hout : ∀ p ∈ s.players, p.connId ≠ connId) (payload : List UInt8) :
    Untouched s (s.handleKeepalive connId payload)
      ↔ (decide (s.phase = .playing) && (decodeKeepalive payload).toBool && s.desyncDue)
        = false := by
  unfold handleKeepalive
  split
  · rename_i hphase
    simp [hphase, Untouched.refl]
  rename_i hphase
  have hplay : s.phase = .playing := by simpa using hphase
  split
  · rename_i hsum
    simp [hsum, Except.toBool, Untouched.refl]
  rename_i checksum hsum
  have hcond : (decide (s.phase = .playing) && (decodeKeepalive payload).toBool && s.desyncDue)
      = s.desyncDue := by
    simp [hplay, hsum, Except.toBool]
  rw [hcond]
  dsimp only
  rw [modifyConn_of_absent hout]
  obtain ⟨hidle, -⟩ := checkDesync_spec hnd
  constructor
  · intro h
    exact (checkDesync_players_iff hnd).1 h.players
  · intro hdue
    rw [hidle hdue]
    exact Untouched.refl s

/-- The handlers that look the sender up. -/
theorem untouched_onW3gsFrame (hout : ∀ p ∈ s.players, p.connId ≠ connId) (env : Env) {id : UInt8}
    (hjoin : id ≠ 0x1E) (hkeep : id ≠ 0x27) (hdrop : id ≠ 0x29) (payload : List UInt8) :
    Untouched s (s.onW3gsFrame env connId id payload) := by
  have hnone := byConn_eq_none hout
  unfold onW3gsFrame
  rw [if_neg hjoin]
  split
  · unfold handleLeave
    rw [hnone]
    exact ⟨rfl, rfl, rfl, rfl, rfl⟩
  split
  · unfold handleAction
    rw [hnone]
    exact Untouched.refl s
  split
  · unfold handleChatToHost
    rw [hnone]
    exact Untouched.refl s
  split
  · unfold handleLoaded
    rw [hnone]
    exact Untouched.refl s
  split
  · unfold handlePong
    split
    · exact Untouched.refl s
    split
    · exact Untouched.refl s
    dsimp only
    -- the pong is noted at the connection's player, and there is none
    rw [modifyConn_of_absent hout, hnone]
    exact Untouched.refl s
  split
  · unfold handleMapSize
    rw [hnone]
    exact Untouched.refl s
  split
  · unfold handleMapPartOk
    rw [hnone]
    exact Untouched.refl s
  split
  · unfold handleMapPartNotOk
    rw [hnone]
    exact Untouched.refl s
  exact Untouched.refl s

end Frames

section Runs

variable [RustStd]

/-- In every state of a game, a frame on a connection that no player
holds and that does not ask for a seat leaves players, slots, phase,
queued actions and downloads as they are, exactly if it is not one of
those that act whoever sent them. -/
theorem outsider_leaves_game_iff {s : GameState} (h : Reaches (fun _ _ => True) s) (env : Env)
    {connId : Nat} (hout : ∀ p ∈ s.players, p.connId ≠ connId) {f : AnyFrame}
    (hf : f.asksForSeat = false) :
    Untouched s (s.onFrame env connId f) ↔ s.outsiderActs f = false := by
  have hs : WellFormed s := h.wellFormed
  cases f with
  | dotaTv => exact ⟨fun _ => rfl, fun _ => Untouched.refl s⟩
  | gps id payload =>
      exact ⟨fun _ => rfl, fun _ =>
        untouched_onGpsFrame hout (by simpa [AnyFrame.asksForSeat] using hf)
        payload⟩
  | iccupGps id payload =>
      exact ⟨fun _ => rfl, fun _ => untouched_onIccupGpsFrame hout
        (by simpa [AnyFrame.asksForSeat] using hf) payload⟩
  | w3gs id payload =>
      have hjoin : id ≠ 0x1E := by simpa [AnyFrame.asksForSeat] using hf
      show Untouched s (s.onW3gsFrame env connId id payload) ↔ _
      by_cases hkeep : id = 0x27
      · subst hkeep
        have hframe : s.onW3gsFrame env connId 0x27 payload = s.handleKeepalive connId payload :=
          rfl
        rw [hframe, untouched_handleKeepalive hs.pids hout payload]
        simp [outsiderActs]
      by_cases hdrop : id = 0x29
      · subst hdrop
        have hframe : s.onW3gsFrame env connId 0x29 payload = s.handleDropRequest := rfl
        rw [hframe, untouched_handleDropRequest hs.pids]
        simp [outsiderActs]
      · refine ⟨fun _ => ?_, fun _ => untouched_onW3gsFrame hout env hjoin hkeep hdrop payload⟩
        simp [outsiderActs, hkeep, hdrop]

end Runs

section Scenarios

open Scenario

/-- While the lag screen is up, a stranger's chat line does nothing. -/
theorem outsider_leaves_game_iff_chat :
    Reaches (fun _ _ => True) (strictLobby.run laggingGame)
      ∧ (strictLobby.run laggingGame).lagging = true
      ∧ Untouched (strictLobby.run laggingGame)
        ((strictLobby.run laggingGame).onFrame (env 7) 9 (.w3gs 0x28 [])) := by
  have hrun : Reaches (fun _ _ => True) (strictLobby.run laggingGame) :=
    ⟨{ config with syncLimit := 2 }, 0, 5, Runs.of_meets (by decide +kernel)⟩
  refine ⟨hrun, by decide +kernel, ?_⟩
  exact (outsider_leaves_game_iff hrun (env 7) (by decide +kernel) rfl).2 rfl

/-- A stranger's drop request marks the player on the lag screen. -/
theorem outsider_drops_lagger :
    (∀ ev ∈ laggingGame, ev.Sound) ∧ (strictLobby.run laggingGame).panicked = false
      ∧ (∀ p ∈ (strictLobby.run laggingGame).players, p.connId ≠ 9)
      ∧ (AnyFrame.w3gs 0x29 []).asksForSeat = false
      ∧ ((strictLobby.run laggingGame).players.map fun p => (p.pid, p.left))
        = [(1, none), (2, none)]
      ∧ (((strictLobby.run laggingGame).onFrame (env 7) 9 (.w3gs 0x29 [])).players.map
        fun p => (p.pid, p.left)) = [(1, none), (2, some .droppedByVote)]
      ∧ ¬Untouched (strictLobby.run laggingGame)
        ((strictLobby.run laggingGame).onFrame (env 7) 9 (.w3gs 0x29 [])) := by
  have hmarks : (((strictLobby.run laggingGame).onFrame (env 7) 9 (.w3gs 0x29 [])).players.map
      fun p => (p.pid, p.left)) ≠ (strictLobby.run laggingGame).players.map
        fun p => (p.pid, p.left) := by decide +kernel
  refine ⟨by decide +kernel, by decide +kernel, by decide +kernel, rfl, by decide +kernel,
    by decide +kernel, fun h => hmarks ?_⟩
  rw [h.players]

end Scenarios

end Spectre

/-
Where the host's chat lines are cut.

A line of the host is cut to what the client's chat takes: 254 bytes
before the game starts, 127 after. The source cuts by bytes, and a cut
inside a character ends the process. So a line goes through exactly when
it is short, or a character begins where it is cut, or there is nobody
to say it to.
-/
import Spectre.Scenario

namespace Spectre

namespace GameState

/-- The bytes a chat line may have. -/
def chatLimit (s : GameState) : Nat := if s.phase.beforeStart then 254 else 127

/-- The host has a line for everyone: it has an id, and somebody is
there. -/
def tellsAll (s : GameState) : Bool :=
  s.hostPid != 255 && s.players.any fun p => !p.virtualHost && p.left.isNone

/-- The host has a line for one player. -/
def tellsOne (s : GameState) : Bool := s.hostPid != 255

end GameState

/-- The first `n` bytes of a line are whole characters. -/
def CutsCleanly (n : Nat) (message : Text) : Prop :=
  message.length ≤ n ∨ isCharBoundary message n = true

namespace GameState

variable (s : GameState)

@[simp] theorem broadcast_panicked (b : Packet) : (s.broadcast b).panicked = s.panicked := by
  unfold broadcast
  split <;> rfl

@[simp] theorem broadcast?_panicked (b : Option Packet) :
    (s.broadcast? b).panicked = s.panicked := by
  cases b with
  | none => rfl
  | some b => exact s.broadcast_panicked b

@[simp] theorem sendTo?_panicked (pid : UInt8) (b : Option Packet) :
    (s.sendTo? pid b).panicked = s.panicked := by
  cases b with
  | none => rfl
  | some b => rfl

/-- A cut goes through when it is clean. -/
theorem clip_panicked (n : Nat) (message : Text) :
    (s.clip n message).1.panicked = false ↔ s.panicked = false ∧ CutsCleanly n message := by
  unfold clip CutsCleanly
  split
  · rename_i hlong
    show (s.panicked || !isCharBoundary message n) = false ↔ _
    rw [Bool.or_eq_false_iff, Bool.not_eq_false']
    exact and_congr_right fun _ => ⟨.inr, fun h => h.resolve_left (Nat.not_le_of_lt hlong)⟩
  · rename_i hshort
    exact ⟨fun h => ⟨h, .inl (Nat.le_of_not_lt hshort)⟩, fun h => h.1⟩

theorem tellsAll_iff : s.tellsAll = true ↔ s.hostPid ≠ 255
    ∧ (s.players.filter fun p => !p.virtualHost && p.left.isNone).map Player.pid ≠ [] := by
  unfold tellsAll
  rw [Bool.and_eq_true, bne_iff_ne, List.any_eq_true, ne_eq _ [], List.map_eq_nil_iff,
    List.filter_eq_nil_iff]
  simp

/-- A line for everyone. -/
theorem sendChatAll_panicked (message : Text) : (s.sendChatAll message).panicked = false
    ↔ s.panicked = false ∧ (s.tellsAll = true → CutsCleanly s.chatLimit message) := by
  have hsilent : s.tellsAll = false → (s.panicked = false
      ↔ s.panicked = false ∧ (s.tellsAll = true → CutsCleanly s.chatLimit message)) := by
    intro h
    rw [h]
    exact ⟨fun hp => ⟨hp, fun h => (nomatch h)⟩, And.left⟩
  unfold sendChatAll
  dsimp only
  split
  · rename_i hhost
    exact hsilent (by unfold tellsAll; rw [hhost]; rfl)
  split
  · rename_i hnobody
    refine hsilent (eq_false_of_ne_true fun h => ?_)
    exact (s.tellsAll_iff.1 h).2 hnobody
  rename_i hhost hsome
  have htells : s.tellsAll = true := s.tellsAll_iff.2 ⟨hhost, hsome⟩
  have hphase : ∀ m, (s.relayPush m).phase = s.phase := fun _ => rfl
  rw [hphase]
  unfold chatLimit
  split
  · rw [broadcast?_panicked, clip_panicked]
    exact and_congr_right fun _ => ⟨fun h _ => h, fun h => h htells⟩
  · rw [broadcast?_panicked]
    show (GameState.clip _ _ _).1.panicked = false ↔ _
    rw [clip_panicked]
    exact and_congr_right fun _ => ⟨fun h _ => h, fun h => h htells⟩

/-- A line for one player. -/
theorem sendChatTo_panicked (pid : UInt8) (message : Text) :
    (s.sendChatTo pid message).panicked = false
      ↔ s.panicked = false ∧ (s.tellsOne = true → CutsCleanly s.chatLimit message) := by
  unfold sendChatTo tellsOne chatLimit
  dsimp only
  split
  · rename_i hhost
    rw [hhost]
    exact ⟨fun hp => ⟨hp, fun h => (nomatch h)⟩, And.left⟩
  rename_i hhost
  have htells : (s.hostPid != 255) = true := bne_iff_ne.2 hhost
  split
  · rw [sendTo?_panicked, clip_panicked]
    exact and_congr_right fun _ => ⟨fun h _ => h, fun h => h htells⟩
  · rw [sendTo?_panicked, clip_panicked]
    exact and_congr_right fun _ => ⟨fun h _ => h, fun h => h htells⟩

end GameState

/-- In every state, a chat line of the host goes through exactly when it
is cut cleanly or is said to nobody. -/
theorem host_chat_goes_through_iff (s : GameState) (message : Text) :
    ((s.sendChatAll message).panicked = false
        ↔ s.panicked = false ∧ (s.tellsAll = true → CutsCleanly s.chatLimit message))
      ∧ ∀ pid, ((s.sendChatTo pid message).panicked = false
        ↔ s.panicked = false ∧ (s.tellsOne = true → CutsCleanly s.chatLimit message)) :=
  ⟨s.sendChatAll_panicked message, fun pid => s.sendChatTo_panicked pid message⟩

section Runs

open Scenario

/-- In a running game the second player whispers to the first. -/
def whisperedGame (line : Text) : List Event :=
  twoPlay PlayerLink.drained PlayerLink.drained ++ [say 2 2 (txt "!w ann " ++ line)]

/-- A letter of two bytes. -/
def accented : Text := [0xC3, 0xA9]

/-- Sixty letters of two bytes, whispered by any player, end the
process: the line is cut at its 127th byte, inside a letter. -/
theorem whisper_ends_process :
    (∀ ev ∈ whisperedGame (List.replicate 60 accented).flatten, ev.Sound)
      ∧ (lobby.run (twoPlay PlayerLink.drained PlayerLink.drained)).panicked = false
      ∧ (lobby.run (whisperedGame (List.replicate 60 accented).flatten)).panicked = true := by
  decide +kernel

end Runs

end Spectre

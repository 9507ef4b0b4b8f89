/-
What a small step does to the books of the game: the replay, the
statistics, the number it is hosted under and the reports to the
supervisor.

Most steps leave them as they are. A turn packet adds its record to the
replay; every other entry is a step of its own, listed by `Booked`.
-/
import Spectre.Steps

namespace Spectre

open GameState

namespace GameState

variable (s : GameState)

@[simp] theorem broadcast_books (b : Packet) : (s.broadcast b).books = s.books := by
  unfold broadcast
  split <;> rfl

@[simp] theorem broadcast?_books (b : Option Packet) : (s.broadcast? b).books = s.books := by
  cases b with
  | none => rfl
  | some b => exact s.broadcast_books b

theorem sendOthersDirect?_books (pid : UInt8) (b : Option Packet) :
    (s.sendOthersDirect? pid b).books = s.books := by
  cases b with
  | none => rfl
  | some b => rfl

end GameState

/-- A turn packet's entry: its record, and the replay's length. -/
structure TurnBooked (k : Kind) (s t : GameState) : Prop where
  kind : k = .block
  entry : ∃ (f : ReplayBody → ReplayBody) (c : ReplayRecord), c.isTimeslot = true ∧ c.fits = true
    ∧ (∀ r, ∃ ms, f r = { r.add c with replayLengthMs := ms })
    ∧ t.books = (s.replay.map f, s.dota, s.cfg.hostCounter, s.events)

/-- The books after a small step. -/
theorem Step.books [RustStd] {k : Kind} {s t : GameState} (h : Step k s t) (hk : k.fine = true) :
    Booked k s t ∨ TurnBooked k s t ∨ t.books = s.books := by
  cases h with
  | misc _ hb => exact .inl hb
  | air b _ => exact .inr (.inr (s.broadcast_books b))
  | airLag b _ => exact .inr (.inr (s.broadcast_books b))
  | reset b _ => exact .inr (.inr (s.broadcast_books b))
  | block b _ f c hc hfits hf =>
      refine .inr (.inl ⟨rfl, f, c, hc, hfits, hf, ?_⟩)
      obtain ⟨h, he⟩ := s.sendActionPacket_eq b f
      rw [he]
      rfl
  | seat sid player _ _ _ _ info _ =>
      exact .inr (.inr (sendOthersDirect?_books _ player.pid info))
  | seatFake sid p _ _ _ _ _ info _ => exact .inr (.inr (broadcast?_books _ info))
  | host pid _ _ info _ => exact .inr (.inr (s.broadcast?_books info))
  | unseat pid r code _ _ _ => exact .inr (.inr (broadcast_books _ _))
  | unhost _ _ => exact .inr (.inr (broadcast_books _ _))
  | unfake pid _ _ => exact .inr (.inr (broadcast_books _ _))
  | table _ ps _ => exact .inr (.inr rfl)
  | bounce _ _ _ _ => exact .inr (.inr rfl)
  | slots _ _ => exact .inr (.inr rfl)
  | vacate _ _ _ => exact .inr (.inr rfl)
  | hcl _ => exact .inr (.inr rfl)
  | phase _ _ _ => exact .inr (.inr rfl)
  | toLoading _ => exact .inr (.inr rfl)
  | restart => exact .inr (.inr rfl)
  | turn _ _ => exact .inr (.inr rfl)
  | act _ _ => exact .inr (.inr rfl)
  | queue _ _ => exact .inr (.inr rfl)
  | cache _ => exact .inr (.inr rfl)
  | refer _ _ _ _ _ _ => exact .inr (.inr rfl)
  | limit _ _ => exact .inr (.inr rfl)
  | clock _ => exact .inr (.inr rfl)
  | reap => cases hk
  | begin _ => cases hk
  | loaded _ => cases hk
  | lagCheck => cases hk
  | check => cases hk
  | sendTurn _ _ => cases hk

/-- A game keeps its port. -/
theorem Step.hostPort [RustStd] {k : Kind} {s t : GameState} (h : Step k s t)
    (hk : k.fine = true) : t.cfg.hostPort = s.cfg.hostPort := by
  have hair? : ∀ (s : GameState) (b : Option Packet), (s.broadcast? b).cfg = s.cfg := by
    intro s b
    obtain ⟨ps, h, a, he⟩ := s.broadcast?_eq b
    rw [he]
  cases h with
  | misc h _ => exact h.hostPort
  | air b _ => rw [broadcast_cfg]
  | airLag b _ => rw [broadcast_cfg]
  | reset b _ => rw [broadcast_cfg]
  | block b _ f _ _ _ _ =>
      obtain ⟨h, he⟩ := s.sendActionPacket_eq b f
      rw [he]
  | seat sid player _ _ _ _ info _ =>
      cases info with
      | none => rfl
      | some b => rfl
  | seatFake sid p _ _ _ _ _ info _ => rw [hair?]
  | host pid _ _ info _ =>
      show (s.broadcast? info).cfg.hostPort = _
      rw [hair?]
  | unseat pid r code _ _ _ => rw [broadcast_cfg]
  | unhost _ _ => rw [broadcast_cfg]
  | unfake pid _ _ => rw [broadcast_cfg]
  | table _ ps _ => rfl
  | bounce _ _ _ _ => rfl
  | slots _ _ => rfl
  | vacate _ _ _ => rfl
  | hcl _ => rfl
  | phase _ _ _ => rfl
  | toLoading _ => rfl
  | restart => rfl
  | turn _ _ => rfl
  | act _ _ => rfl
  | queue _ _ => rfl
  | cache _ => rfl
  | refer _ _ _ _ _ _ => rfl
  | limit _ _ => rfl
  | clock _ => rfl
  | reap => cases hk
  | begin _ => cases hk
  | loaded _ => cases hk
  | lagCheck => cases hk
  | check => cases hk
  | sendTurn _ _ => cases hk

/-- Small steps keep the port. -/
theorem Does.hostPort [RustStd] {s t : GameState} (h : Does anyFine s t) :
    t.cfg.hostPort = s.cfg.hostPort :=
  Lib.Path.preserves (I := fun t => t.cfg.hostPort = s.cfg.hostPort)
    (fun _ _ _ hk hst hI => (hst.hostPort hk).trans hI) h rfl

end Spectre

/-
Who is on the roster of a game, step by step.

A turn and the steps that only move players about keep it; no step but
a seating adds to it; and `begin_playing` starts the game with the
roster it finds.
-/
import Spectre.Iteration

namespace Spectre

open GameState

theorem broadcast?_roster (s : GameState) (b : Option Packet) :
    (s.broadcast? b).startState.roster = s.startState.roster := by
  cases b with
  | none => rfl
  | some b => exact broadcast_roster s b

/-- Whoever is removed is at most struck from the roster. -/
theorem removePid_roster {s t : GameState} {pid : UInt8}
    (h : t.players = s.players.removePid pid) : t.startState.roster ⊆ s.startState.roster := by
  unfold startState
  dsimp only
  rw [h]
  exact ((List.eraseP_sublist.filter _).map _).subset

/-- The start stays as it was, and nobody joins the roster. -/
structure Narrows (s t : GameState) : Prop where
  started : t.started = s.started
  roster : t.startState.roster ⊆ s.startState.roster

theorem Narrows.of_same {s t : GameState} (hstarted : t.started = s.started)
    (hroster : t.startState.roster = s.startState.roster) : Narrows s t :=
  ⟨hstarted, fun _ he => hroster ▸ he⟩

theorem Narrows.refl (s : GameState) : Narrows s s := .of_same rfl rfl

theorem Narrows.trans {s t u : GameState} (h : Narrows s t) (h' : Narrows t u) : Narrows s u :=
  ⟨h'.started.trans h.started, fun _ he => h.roster (h'.roster he)⟩

/-- The steps of a turn, and the inert ones. -/
def turnOnly (k : Kind) (_ : GameState) : Prop := k.inert = true ∨ k = .turn

/-- The steps that seat nobody and do not start the game. -/
def seatsNobody (k : Kind) (_ : GameState) : Prop :=
  k.fine = true ∧ k ≠ .seat ∧ k ≠ .seatFake ∧ k ≠ .restart

theorem plain_turnOnly : Plain turnOnly := fun k hk s => .inl (plain_inertOnly k hk s)

theorem plain_seatsNobody : Plain seatsNobody := by
  intro k hk _
  refine ⟨(Kind.free_of_plain hk).1, ?_, ?_, ?_⟩
  · rintro rfl
    cases hk
  · rintro rfl
    cases hk
  · rintro rfl
    cases hk

section Loop

variable [RustStd] {s t : GameState}

/-- A turn keeps the roster, as the inert steps do. -/
theorem Step.roster {k : Kind} (h : Step k s t) (hk : turnOnly k s) :
    t.startState.roster = s.startState.roster := by
  rcases hk with hinert | rfl
  · exact h.keepsRoster hinert
  · cases h with
    | turn _ _ => rfl
    | misc _ hb => cases hb
    | table hk => cases hk

theorem Does.roster (h : Does turnOnly s t) : t.startState.roster = s.startState.roster :=
  Lib.Path.preserves (I := fun t => t.startState.roster = s.startState.roster)
    (fun _ _ _ hk hst hI => (hst.roster hk).trans hI) h rfl

/-- A step that seats nobody at most strikes somebody. -/
theorem Step.narrows {k : Kind} (h : Step k s t) (hk : seatsNobody k s) : Narrows s t := by
  obtain ⟨hfine, hseat, hfake, hrestart⟩ := hk
  cases h with
  | misc h =>
      refine .of_same h.started ?_
      unfold startState
      rw [h.players]
  | air b _ | airLag b _ | reset b _ =>
      exact .of_same (broadcast_started s b) (broadcast_roster s b)
  | block b _ f => exact .of_same (broadcast_started _ b) (broadcast_roster _ b)
  | table _ ps hm => exact .of_same rfl (roster_of_forall₂ (hm.imp fun p q h => h.identity))
  | seat => exact absurd rfl hseat
  | seatFake => exact absurd rfl hfake
  | restart => exact absurd rfl hrestart
  | host pid _ _ info _ =>
      refine .of_same ?_ (Eq.trans ?_ (broadcast?_roster s info))
      · cases info with
        | none => rfl
        | some b => exact broadcast_started s b
      · -- the new player is the virtual host, which no roster lists
        simp [startState, hostPlayer]
  | unseat pid r code _ _ _ =>
      refine ⟨broadcast_started _ _, ?_⟩
      rw [broadcast_roster]
      exact removePid_roster rfl
  | unhost _ _ =>
      refine ⟨broadcast_started _ _, ?_⟩
      rw [broadcast_roster]
      exact removePid_roster rfl
  | unfake pid _ _ =>
      refine ⟨broadcast_started _ _, ?_⟩
      rw [broadcast_roster]
      exact removePid_roster rfl
  | reap => cases hfine
  | begin => cases hfine
  | loaded => cases hfine
  | lagCheck => cases hfine
  | check => cases hfine
  | sendTurn => cases hfine
  | _ => exact ⟨rfl, fun _ he => he⟩

theorem Does.narrows (h : Does seatsNobody s t) : Narrows s t :=
  Lib.Path.relates (R := Narrows) Narrows.refl (fun _ _ _ h₁ h₂ => h₁.trans h₂)
    (fun _ _ _ hk hst => hst.narrows hk) h

/-- The game starts with the roster it then has. -/
theorem beginPlaying_roster (s : GameState) : s.beginPlaying.started = some s.startState
    ∧ s.beginPlaying.startState.roster = s.startState.roster := by
  have hrest := does_announceStart plain_inertOnly s
  have henter : s.startState = s.enterPlaying.startState :=
    Option.some.inj (enterPlaying_started s)
  exact ⟨hrest.framed.started, by rw [hrest.startState, henter]⟩

end Loop

end Spectre

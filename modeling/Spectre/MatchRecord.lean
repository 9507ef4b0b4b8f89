/-
The record of a finished match: what the last tick hands to the store.

`save_game_data` reads the live table, and reapers take players out of
it all through the game; it reads the DotA table, whose entries are
made by the first action record about a colour and never get a name.
So the record is complete exactly when every player of the start is
still in the table when the last tick comes, and the actions have
reported on nobody with a name.
-/
import Spectre.Books
import Spectre.Ledger
import Spectre.Rosters
import Spectre.Scenario

namespace Spectre

open GameState

-- ============================================================ a full record

/-- Whether a player of this name has the slot of this colour in the
start state. -/
def StartState.Plays (st : StartState) (colour : Nat) (name : Text) : Prop :=
  ∃ slot ∈ st.slots, slot.colour.toNat = colour ∧ (slot.pid, name) ∈ st.roster

/-- The commands are the full record of a match with this start: the
game's entry lists everyone who was there, and each DotA entry carries
the name of the player of its colour. -/
structure FullRecord (st : StartState) (cmds : List StoreCmd) : Prop where
  names : ∃ name path names, .logGame name path names ∈ cmds ∧ ∀ e ∈ st.roster, e.2 ∈ names
  scores : ∀ name winner secs tree throne players,
    .logDotaGame name winner secs tree throne players ∈ cmds →
      ∀ p ∈ players, st.Plays p.colour p.name

namespace GameState

/-- The commands an event hands to the store. -/
def stored [RustStd] (s : GameState) (ev : Event) : List StoreCmd :=
  ((s.step ev).store.getD []).drop (s.store.getD []).length

/-- The state a tick hands to its end; none where it stops short of
it, at the lag screen. -/
def beforeEnd [RustStd] (s : GameState) (skipped : Nat) : Option GameState :=
  let s := s.tickHead
  match s.phase with
  | .lobby => some s.tickLobby
  | .countdown startedAt totalDuration lastStep =>
      some (s.tickCountdown startedAt totalDuration lastStep)
  | .loading => some s.tickLoading
  | .playing =>
      match s.tickLag with
      | (_, true) => none
      | (s, false) => some (s.sendAllActions skipped).tickGameOver
  | .over => some s.finish

/-- The DotA table once the queued actions are in it; they are only
read while the game runs. -/
def scored (s : GameState) : Option StatsDotA :=
  if s.phase = .playing then
    s.dota.map fun d => s.actions.foldl (fun d a => (d.processAction a.data).1) d
  else s.dota

end GameState

/-- A tick that ends a running game, and the state it hands to its
end. -/
structure EndsGame [RustStd] (s : GameState) (skipped : Nat) (pre : GameState) : Prop where
  running : s.finished = false
  reached : s.beforeEnd skipped = some pre
  playing : pre.phase = .playing
  empty : pre.realPlayers = 0
  lost : (pre.players.any fun p => p.reconnectable pre.now pre.cfg.reconnectWait) = false

/-- What makes the record full, before the last tick: everyone who was
there at the start is in the table, and the actions report on nobody
with a name. -/
structure RecordKept (st : StartState) (s : GameState) : Prop where
  seated : ∀ e ∈ st.roster, ∃ p ∈ s.players, p.virtualHost = false ∧ p.name = e.2
  unscored : ∀ d, s.scored = some d → ∀ e ∈ d.players, st.Plays e.1 []

-- ============================================================= DotA entries

namespace StatsDotA

/-- No entry has a name, and each is about the colour it is under. -/
def Nameless (st : StatsDotA) : Prop := ∀ e ∈ st.players, e.2.colour = e.1 ∧ e.2.name = []

theorem Nameless.entry {st : StatsDotA} (h : st.Nameless) (id : Nat)
    {f : DotAPlayerStats → DotAPlayerStats}
    (hf : ∀ p, (f p).colour = p.colour ∧ (f p).name = p.name) : (st.entry id f).Nameless := by
  intro e he
  unfold StatsDotA.entry at he
  split at he
  · obtain ⟨e', he', rfl⟩ := List.mem_map.1 he
    obtain ⟨hcolour, hname⟩ := h e' he'
    split
    · exact ⟨(hf e'.2).1.trans hcolour, (hf e'.2).2.trans hname⟩
    · exact ⟨hcolour, hname⟩
  · rcases List.mem_append.1 he with he | he
    · exact h e he
    · obtain rfl := List.mem_singleton.1 he
      exact hf { colour := id, newColour := id }

theorem Nameless.record {st : StatsDotA} (h : st.Nameless) (data key : Text) (value : Nat)
    (raw : List UInt8) : (st.record data key value raw).Nameless := by
  unfold StatsDotA.record
  split
  · split
    · split
      · exact h.entry value fun _ => ⟨rfl, rfl⟩
      · exact h
    split
    · split
      · exact h.entry value fun _ => ⟨rfl, rfl⟩
      · exact h
    split
    · split
      · exact h.entry value fun _ => ⟨rfl, rfl⟩
      · exact h
    split
    · exact h
    split
    · exact h
    · exact h
  split
  · split
    · exact h
    split
    · exact h
    split
    · exact h
    · exact h
  split
  · rename_i id _
    split
    · exact h.entry id (playerField_identity key value raw)
    · exact h
  · exact h

theorem Nameless.processFrom {st : StatsDotA} (h : st.Nameless) (fuel : Nat) (rest : List UInt8) :
    (StatsDotA.processFrom fuel rest st).Nameless := by
  induction fuel generalizing rest st with
  | zero => exact h
  | succ fuel ih =>
      cases rest with
      | nil => exact h
      | cons b rest =>
          unfold StatsDotA.processFrom
          split
          · exact ih (h.record _ _ _ _) _
          · exact ih h _

theorem Nameless.processAction {st : StatsDotA} (h : st.Nameless) (action : List UInt8) :
    (st.processAction action).1.Nameless :=
  h.processFrom action.length action

theorem Nameless.foldl {st : StatsDotA} (h : st.Nameless) (queued : List ActionBlock) :
    (queued.foldl (fun d a => (d.processAction a.data).1) st).Nameless := by
  induction queued generalizing st with
  | nil => exact h
  | cons a queued ih => exact ih (h.processAction a.data)

end StatsDotA

/-- The statistics of a game name nobody. -/
def NamesNobody (s : GameState) : Prop := ∀ d, s.dota = some d → d.Nameless

section Loop

variable [RustStd]

theorem Step.namesNobody {k : Kind} {s t : GameState} (h : Step k s t) (hk : k.fine = true)
    (hI : NamesNobody s) : NamesNobody t := by
  have hdota : ∀ {x}, t.books = x → t.dota = x.2.1 := fun h => congrArg (·.2.1) h
  have hsame : t.dota = s.dota → NamesNobody t := fun h d hd => hI d (h ▸ hd)
  rcases h.books hk with hentry | ⟨-, f, c, -, -, -, hbooks⟩ | hbooks
  · cases hentry with
    | stats d data hd h =>
        intro d' hd'
        obtain rfl := Option.some.inj ((hdota h).symm.trans hd')
        exact (hI d hd).processAction data
    | prologue _ => exact hsame rfl
    | none h => exact hsame (hdota h)
    | record _ _ _ _ _ _ h => exact hsame (hdota h)
    | leaver _ _ _ _ _ _ h => exact hsame (hdota h)
    | status _ _ h => exact hsame (hdota h)
    | rehost _ h => exact hsame (hdota h)
  · exact hsame (hdota hbooks)
  · exact hsame (hdota hbooks)

/-- In no run does an entry of the DotA table get a name. -/
theorem reaches_namesNobody {s : GameState} (h : Reaches (fun _ _ => True) s) :
    WellFormed s ∧ NamesNobody s := by
  refine h.preserves (I := NamesNobody) ?_ ?_
  · intro cfg now seed d hd
    have hnew : d.players = [] := by
      unfold GameState.new at hd
      dsimp only at hd
      split at hd
      · exact Option.some.inj hd ▸ rfl
      · cases hd
    intro e he
    rw [hnew] at he
    cases he
  · intro s ev hs hsound _ hI
    exact Lib.Path.preserves (I := NamesNobody) (fun _ _ _ hk hst hI => hst.namesNobody hk hI)
      (does_step hs hsound (admits_anyFine s ev)) hI

end Loop

section Loop

variable [RustStd] {s t : GameState}

-- =============================================================== the last tick

/-- A tick that reaches its end ends there. -/
theorem onTick_of_beforeEnd {skipped : Nat} {pre : GameState}
    (h : s.beforeEnd skipped = some pre) : s.onTick skipped = pre.tickEnd := by
  unfold beforeEnd at h
  unfold onTick
  dsimp only at h ⊢
  cases hph : s.tickHead.phase with
  | lobby =>
      simp only [hph] at h ⊢
      exact Option.some.inj h ▸ rfl
  | countdown startedAt total lastStep =>
      simp only [hph] at h ⊢
      exact Option.some.inj h ▸ rfl
  | loading =>
      simp only [hph] at h ⊢
      exact Option.some.inj h ▸ rfl
  | playing =>
      simp only [hph] at h ⊢
      unfold tickPlaying
      cases hlag : s.tickHead.tickLag with
      | mk u stops =>
          rw [hlag] at h
          cases stops with
          | true => cases h
          | false => exact Option.some.inj h ▸ rfl
  | _ =>
      simp only [hph] at h ⊢
      exact Option.some.inj h ▸ rfl

/-- Steps that do not start the game do not get it running. -/
theorem Does.not_playing (h : Does seatsNobody s t) (hs : WellFormed s) (hnone : s.started = none) :
    t.phase ≠ .playing := by
  intro hplay
  have hstart := (h.keeps_wellFormed hs).playing hplay
  rw [h.narrows.started, hnone] at hstart
  cases hstart

/-- A game that starts behind such steps starts with a part of the
roster. -/
theorem roster_of_start {u : GameState} (h : Does seatsNobody s u) {st : StartState}
    (hst : u.beginPlaying.started = some st) :
    st.roster = u.beginPlaying.startState.roster ∧ st.roster ⊆ s.startState.roster := by
  obtain ⟨hstarted, hroster⟩ := beginPlaying_roster u
  obtain rfl := Option.some.inj (hstarted.symm.trans hst)
  exact ⟨hroster.symm, h.narrows.roster⟩

omit [RustStd] in
theorem seatsNobody_of {k : Kind} (hk : k.fine = true) (hs : k ≠ .seat) (hf : k ≠ .seatFake)
    (hr : k ≠ .restart) (t : GameState) : seatsNobody k t := ⟨hk, hs, hf, hr⟩

/-- The end of the countdown, if it starts the game. -/
theorem beginLoading_start (hs : WellFormed s) (hnone : s.started = none)
    (hdue : s.countdownDue = true) (hplay : s.beginLoading.phase = .playing) :
    ∃ u, Does seatsNobody s u ∧ s.beginLoading = u.beginPlaying := by
  have henter : Does seatsNobody s s.enterLoading :=
    does_enterLoading plain_seatsNobody (seatsNobody_of rfl (by simp) (by simp) (by simp) s)
      (fun t _ => seatsNobody_of rfl (by simp) (by simp) (by simp) t)
      (fun t _ _ => seatsNobody_of rfl (by simp) (by simp) (by simp) t)
      (fun t => seatsNobody_of rfl (by simp) (by simp) (by simp) t)
      (phaseStep_of_countdownDue hdue)
  unfold beginLoading at hplay ⊢
  dsimp only at hplay ⊢
  split
  · exact ⟨s.enterLoading, henter, rfl⟩
  · rename_i hall
    rw [if_neg hall] at hplay
    exact absurd hplay (henter.not_playing hs hnone)

/-- The reaper, if it starts the game. -/
theorem reapLeftPlayers_start (hs : WellFormed s) (hnone : s.started = none)
    (hplay : s.reapLeftPlayers.phase = .playing) :
    ∃ u, Does seatsNobody s u ∧ s.reapLeftPlayers = u.beginPlaying := by
  have hfine : ∀ k (t : GameState), seatsNobody k t → k.fine = true := fun _ _ h => h.1
  obtain ⟨hnd, hm⟩ := gone_marked hs
  have habort := (does_abortCountdown plain_seatsNobody
    (fun t => seatsNobody_of rfl (by simp) (by simp) (by simp) t) s).trans
    (Does.misc plain_seatsNobody
      (t := { s.abortCountdown with lastPlayerLeftTime := some s.abortCountdown.now })
      (by constructor <;> rfl) (by rfl))
  have hloop := habort.trans (does_reapLoop plain_seatsNobody hfine
    (fun t => seatsNobody_of rfl (by simp) (by simp) (by simp) t)
    (fun t => seatsNobody_of rfl (by simp) (by simp) (by simp) t) s.gone hnd (gone_code hs)
    (habort.keeps_wellFormed hs) fun g hg => (hm g hg).abortCountdown.of_players rfl)
  unfold reapLeftPlayers at hplay ⊢
  dsimp only at hplay ⊢
  split
  · rename_i hgone
    rw [if_pos hgone] at hplay
    exact absurd hplay ((Does.refl s).not_playing hs hnone)
  · rename_i hgone
    rw [if_neg hgone] at hplay
    split
    · exact ⟨_, hloop, rfl⟩
    · rename_i hload
      rw [if_neg hload] at hplay
      exact absurd hplay (hloop.not_playing hs hnone)

/-- Loading goes on, or its leavers are reaped. -/
theorem tickLoading_cases (s : GameState) : s.tickLoading = s ∨ s.tickLoading
    = GameState.reapLeftPlayers { s with players := s.players.map Player.loadingTimeout } := by
  unfold tickLoading
  split
  · split
    · exact .inr rfl
    · exact .inl rfl
  · exact .inl rfl

/-- A tick that comes to its end with the game running: it ran before,
or the tick has started it. -/
theorem beforeEnd_playing (hs : WellFormed s) {skipped : Nat} {pre : GameState}
    (h : s.beforeEnd skipped = some pre) (hplay : pre.phase = .playing) :
    (s.phase = .playing ∧ s.tickHead.tickLag.2 = false
        ∧ pre = (s.tickHead.tickLag.1.sendAllActions skipped).tickGameOver)
      ∨ (s.phase ≠ .playing ∧ s.phase ≠ .lobby
        ∧ ∃ u, Does seatsNobody s u ∧ pre = u.beginPlaying) := by
  have hframe := tickHead_framed s
  have hhead : Does seatsNobody s s.tickHead := does_tickHead plain_seatsNobody s
  have hs' := hhead.keeps_wellFormed hs
  have hnone : s.tickHead.phase ≠ .playing → s.tickHead.phase ≠ .over →
      s.tickHead.started = none := by
    intro h₁ h₂
    cases hst : s.tickHead.started with
    | none => rfl
    | some st =>
        rcases hs'.started (by rw [hst]; rfl) with h | h
        · exact absurd h h₁
        · exact absurd h h₂
  unfold beforeEnd at h
  dsimp only at h
  split at h
  · -- the lobby may close, but the game does not start there
    rename_i hph
    obtain rfl := Option.some.inj h
    exact absurd hplay ((does_tickLobby plain_seatsNobody _ fun t =>
      seatsNobody_of rfl (by simp) (by simp) (by simp) t).not_playing hs'
        (hnone (by simp [hph]) (by simp [hph])))
  · rename_i a b c hph
    obtain rfl := Option.some.inj h
    have hnone' := hnone (by simp [hph]) (by simp [hph])
    have hphase : s.phase = .countdown a b c := hframe.phase.symm.trans hph
    refine .inr ⟨by simp [hphase], by simp [hphase], ?_⟩
    by_cases hdue : s.tickHead.countdownDue = true
    · have hbegin : s.tickHead.tickCountdown a b c = s.tickHead.beginLoading := by
        unfold tickCountdown
        dsimp only
        rw [if_pos (by simpa [countdownDue, hph] using hdue)]
      rw [hbegin] at hplay ⊢
      obtain ⟨u, hu, he⟩ := beginLoading_start hs' hnone' hdue hplay
      exact ⟨u, hhead.trans hu, he⟩
    · have hpath := does_tickCountdown plain_seatsNobody s.tickHead
        (fun t => seatsNobody_of rfl (by simp) (by simp) (by simp) t) hph fun h => absurd h hdue
      exact absurd hplay (hpath.not_playing hs' hnone')
  · rename_i hph
    obtain rfl := Option.some.inj h
    have hnone' := hnone (by simp [hph]) (by simp [hph])
    have hphase : s.phase = .loading := hframe.phase.symm.trans hph
    refine .inr ⟨by simp [hphase], by simp [hphase], ?_⟩
    have htable : Does seatsNobody s.tickHead
        { s.tickHead with players := s.tickHead.players.map Player.loadingTimeout } :=
      Does.one (seatsNobody_of rfl (by simp) (by simp) (by simp) _)
        (.table rfl _ (moves_map fun _ _ => .timeout))
    rcases tickLoading_cases s.tickHead with he | he
    · rw [he, hph] at hplay
      cases hplay
    · rw [he] at hplay ⊢
      obtain ⟨u, hu, he⟩ := reapLeftPlayers_start (htable.keeps_wellFormed hs') hnone' hplay
      exact ⟨u, (hhead.trans htable).trans hu, he⟩
  · rename_i hph
    have hphase : s.phase = .playing := hframe.phase.symm.trans hph
    split at h
    · cases h
    · rename_i u hlag
      refine .inl ⟨hphase, by rw [hlag], ?_⟩
      rw [hlag]
      exact (Option.some.inj h).symm
  · rename_i hph
    obtain rfl := Option.some.inj h
    exact absurd (hph.symm.trans hplay) (by simp)

/-- The roster at the end of a game's last tick: as before a tick of the
running game; all of the start where the tick started the game. -/
theorem EndsGame.roster (hs : WellFormed s) {skipped : Nat} {pre : GameState}
    (hend : EndsGame s skipped pre) {st : StartState} (hst : pre.started = some st) :
    pre.startState.roster = s.startState.roster
      ∨ (st.roster = pre.startState.roster ∧ st.roster ⊆ s.startState.roster) := by
  rcases beforeEnd_playing hs hend.reached hend.playing with ⟨hplay, -, he⟩ | ⟨-, -, u, hu, he⟩
  · rw [he]
    have hstart : s.tickHead.tickLag.1.started.isSome := by
      rw [(tickLag_framed s).started, (tickHead_framed s).started]
      exact hs.playing hplay
    have hlag : Does turnOnly s.tickHead s.tickHead.tickLag.1 :=
      does_tickLag plain_turnOnly s (.inl rfl)
        (does_checkDesync plain_turnOnly (fun _ => .inl rfl) (fun _ => .inl rfl) _)
        (does_checkLag plain_turnOnly (fun _ => .inl rfl) (fun _ => .inl rfl) fun _ _ => .inl rfl)
    have hsend := does_sendAllActions plain_turnOnly (.inr rfl) (fun _ => .inl rfl) hstart skipped
    exact .inl ((((does_tickHead plain_turnOnly s).trans hlag).trans hsend).trans
      (does_tickGameOver plain_turnOnly _)).roster
  · rw [he] at hst ⊢
    exact .inr (roster_of_start hu hst)

/-- A tick before the game runs leaves the ledger alone. -/
theorem beforeEnd_ledger {skipped : Nat} {pre : GameState} (h : s.beforeEnd skipped = some pre)
    (hlobby : s.phase ≠ .lobby) (hplay : s.phase ≠ .playing) : pre.ledger = s.ledger := by
  have hphase := (tickHead_framed s).phase
  have hhead := s.tickHead_ledger hlobby
  unfold beforeEnd at h
  dsimp only at h
  split at h
  · rename_i hph
    exact absurd (hphase.symm.trans hph) hlobby
  · exact Option.some.inj h ▸ (tickCountdown_ledger _ _ _ _).trans hhead
  · exact Option.some.inj h ▸ (tickLoading_ledger _).trans hhead
  · rename_i hph
    exact absurd (hphase.symm.trans hph) hplay
  · exact Option.some.inj h ▸ hhead

/-- The store and the statistics at the end of a game's last tick. -/
theorem EndsGame.ledger (hs : WellFormed s) {skipped : Nat} {pre : GameState}
    (hend : EndsGame s skipped pre) : pre.store = s.store ∧ pre.dota = s.scored := by
  unfold scored
  rcases beforeEnd_playing hs hend.reached hend.playing with ⟨hplay, -, he⟩ | ⟨hplay, hlobby, -⟩
  · have hlag := (tickLag_ledger s.tickHead).trans (s.tickHead_ledger (by simp [hplay]))
    obtain ⟨hstore, hrest⟩ := Prod.mk.inj hlag
    obtain ⟨hdota, hactions⟩ := Prod.mk.inj hrest
    have hpre := (tickGameOver_ledger _).trans
      (sendAllActions_ledger s.tickHead.tickLag.1 skipped)
    rw [← he, hstore, hdota, hactions] at hpre
    obtain ⟨hstore', hrest'⟩ := Prod.mk.inj hpre
    rw [if_pos hplay]
    exact ⟨hstore', (Prod.mk.inj hrest').1⟩
  · obtain ⟨hstore, hrest⟩ := Prod.mk.inj (beforeEnd_ledger hend.reached hlobby hplay)
    rw [if_neg hplay]
    exact ⟨hstore, (Prod.mk.inj hrest).1⟩

/-- What the last tick hands to the store. -/
theorem EndsGame.stored (hs : WellFormed s) {skipped : Nat} {pre : GameState}
    (hend : EndsGame s skipped pre) (hstore : s.store.isSome) :
    s.stored (.tick skipped) = .logGame pre.cfg.name pre.cfg.map.path
        (pre.startState.roster.map Prod.snd) :: (s.scored.map fun d =>
          .logDotaGame pre.cfg.name d.winner d.durationSecs d.treeHp
            d.throneHp ((RustStd.hashOrder d.players).map Prod.snd)).toList := by
  obtain ⟨hstore', hdota⟩ := hend.ledger hs
  obtain ⟨l, hl⟩ := Option.isSome_iff_exists.1 hstore
  have hstep : (s.step (.tick skipped)).ledger = pre.tickEnd.ledger := by
    unfold step
    rw [if_neg (by simp [hend.running])]
    show (s.onTick skipped).reapLeftPlayers.reportLobby.ledger = _
    rw [reportLobby_ledger, reapLeftPlayers_ledger, onTick_of_beforeEnd hend.reached]
  -- the names saved are read off the table the game ended with
  have hnames : (pre.players.filter fun p => !p.virtualHost).map Player.name
      = pre.startState.roster.map Prod.snd := by
    unfold startState
    rw [List.map_map]
    rfl
  have hover : pre.tickEnd = ((pre.setPhase .over).relayPush .gameOver).finish.saveGameData :=
    if_pos ⟨hend.empty, by simp [hend.lost], .inl hend.playing⟩
  have hpushed : pre.tickEnd.store = some (l ++ .logGame pre.cfg.name pre.cfg.map.path
      (pre.startState.roster.map Prod.snd) :: (s.scored.map fun d =>
        .logDotaGame pre.cfg.name d.winner d.durationSecs d.treeHp
          d.throneHp ((RustStd.hashOrder d.players).map Prod.snd)).toList) := by
    rw [hover, ← hnames, ← hdota]
    unfold saveGameData
    dsimp only
    have hl' : pre.store = some l := hstore'.trans hl
    cases hd : pre.dota with
    | none =>
        simp [storePush, finish, relayPush, setPhase, hd, hl']
    | some d =>
        simp [storePush, finish, relayPush, setPhase, hd, hl']
  unfold GameState.stored
  rw [(Prod.mk.inj hstep).1, hpushed, hl]
  simp

/-- The record of a match that ends for want of players is full if and
only if everyone who was there at the start is still in the table when
the last tick comes, and the actions report on nobody with a name. -/
theorem match_record_full_iff {pre : GameState} {skipped : Nat} {st : StartState}
    (h : Reaches (fun _ _ => True) s) (hstore : s.store.isSome)
    (hend : EndsGame s skipped pre) (hst : pre.started = some st) :
    FullRecord st (s.stored (.tick skipped)) ↔ RecordKept st s := by
  obtain ⟨hs, hnobody⟩ := reaches_namesNobody h
  have hnamed : ∀ d, s.scored = some d → d.Nameless := by
    intro d hd
    unfold scored at hd
    split at hd
    · obtain ⟨d₀, hd₀, rfl⟩ := Option.map_eq_some_iff.1 hd
      exact (hnobody d₀ hd₀).foldl s.actions
    · exact hnobody d hd
  have hseated : (∀ e ∈ st.roster, e.2 ∈ pre.startState.roster.map Prod.snd)
      ↔ ∀ e ∈ st.roster, ∃ p ∈ s.players, p.virtualHost = false ∧ p.name = e.2 := by
    have hmem : ∀ name : Text, name ∈ s.startState.roster.map Prod.snd
        ↔ ∃ p ∈ s.players, p.virtualHost = false ∧ p.name = name := by
      intro name
      simp [startState, and_assoc]
    rcases hend.roster hs hst with hsame | ⟨hall, hsub⟩
    · rw [hsame]
      exact forall₂_congr fun e _ => hmem e.2
    · refine iff_of_true (fun e he => ?_) fun e he => (hmem e.2).1 ?_
      · exact hall ▸ List.mem_map_of_mem he
      · exact List.mem_map_of_mem (hsub he)
  rw [hend.stored hs hstore]
  constructor
  · rintro ⟨⟨name, path, names, hlog, hnames⟩, hscores⟩
    refine ⟨hseated.1 ?_, fun d hd e he => ?_⟩
    · rcases List.mem_cons.1 hlog with h | h
      · obtain ⟨-, -, rfl⟩ := StoreCmd.logGame.inj h
        exact hnames
      · cases hd : s.scored <;> rw [hd] at h <;> simp at h
    · -- the entry is in the record, with its colour and no name
      obtain ⟨hcolour, hname⟩ := hnamed d hd e he
      rw [← hcolour, ← hname]
      have hlog : StoreCmd.logDotaGame pre.cfg.name d.winner
          d.durationSecs d.treeHp d.throneHp
          ((RustStd.hashOrder d.players).map Prod.snd) ∈ (s.scored.map fun d =>
            StoreCmd.logDotaGame pre.cfg.name d.winner d.durationSecs
              d.treeHp d.throneHp ((RustStd.hashOrder d.players).map Prod.snd)).toList := by
        rw [hd]
        exact List.mem_singleton_self _
      exact hscores _ _ _ _ _ _ (List.mem_cons_of_mem _ hlog) e.2
        (List.mem_map_of_mem ((RustStd.hashOrder_perm d.players).mem_iff.2 he))
  · rintro ⟨hroster, hunscored⟩
    refine ⟨⟨_, _, _, List.mem_cons_self, hseated.2 hroster⟩, ?_⟩
    intro name winner secs tree throne players hlog p hp
    rcases List.mem_cons.1 hlog with h | h
    · cases h
    · cases hd : s.scored with
      | none =>
          rw [hd] at h
          cases h
      | some d =>
          rw [hd] at h
          obtain ⟨-, -, -, -, -, rfl⟩ := StoreCmd.logDotaGame.inj (List.mem_singleton.1 h)
          obtain ⟨e, he, rfl⟩ := List.mem_map.1 hp
          have he' := (RustStd.hashOrder_perm d.players).mem_iff.1 he
          obtain ⟨hcolour, hname⟩ := hnamed d hd e he'
          rw [hcolour, hname]
          exact hunscored d hd e he'

end Loop

section Runs

open Scenario

/-- A DotA game of three slots, with a store. -/
def dotaLobby : GameState :=
  GameState.new { config with store := true, map := { map with mapType := txt "dota" } } 0 5

/-- An action that reports a statistic. -/
def statistic (connId : Nat) (data key : Text) (value : UInt8) : Event :=
  w3gs connId 0x26 (u32le 0 ++ StatsDotA.dotaSig ++ data ++ [0] ++ key ++ [0, value, 0, 0, 0])

/-- Two players play until one side has won, and stay until the game
closes. -/
def wonGame : List Event :=
  twoPlay PlayerLink.drained PlayerLink.drained
    ++ [statistic 1 (txt "Global") (txt "Winner") 1, .tick 0, .elapse 60000]

/-- Two players play, and leave one by one. -/
def abandonedGame : List Event :=
  twoPlay PlayerLink.drained PlayerLink.drained
    ++ [statistic 1 (txt "1") (txt "1") 5, .tick 0, leaveGame 2, leaveGame 1]

/-- Whether the next tick of a running game is its last. -/
theorem endsGame_of_check [RustStd] {s : GameState} (hrun : s.finished = false)
    (hpre : ((s.beforeEnd 0).any fun pre => pre.phase == .playing && pre.realPlayers == 0
      && !(pre.players.any fun p => p.reconnectable pre.now pre.cfg.reconnectWait)) = true) :
    ∃ pre, EndsGame s 0 pre := by
  cases h : s.beforeEnd 0 with
  | none =>
      rw [h] at hpre
      cases hpre
  | some pre =>
      rw [h, Option.any_some] at hpre
      simp only [Bool.and_eq_true, beq_iff_eq, Bool.not_eq_true'] at hpre
      exact ⟨pre, hrun, h, hpre.1.1, hpre.1.2, hpre.2⟩

theorem match_record_full_iff_wonGame :
    ∃ pre st, EndsGame (dotaLobby.run wonGame) 0 pre ∧ pre.started = some st
      ∧ RecordKept st (dotaLobby.run wonGame)
      ∧ FullRecord st ((dotaLobby.run wonGame).stored (.tick 0)) := by
  have hrun : Reaches (fun _ _ => True) (dotaLobby.run wonGame) :=
    ⟨_, 0, 5, Runs.of_meets (by decide +kernel)⟩
  obtain ⟨pre, hend⟩ := endsGame_of_check (s := dotaLobby.run wonGame) (by decide +kernel)
    (by decide +kernel)
  have hroster : ((dotaLobby.run wonGame).beforeEnd 0).map
      (fun pre => pre.started.map StartState.roster)
        = some (some [(1, txt "ann"), (2, txt "bob")]) := by decide +kernel
  rw [hend.reached, Option.map_some, Option.some.injEq, Option.map_eq_some_iff] at hroster
  obtain ⟨st, hst, hroster⟩ := hroster
  have hkept : RecordKept st (dotaLobby.run wonGame) := by
    refine ⟨?_, fun d hd e he => ?_⟩
    · rw [hroster]
      decide +kernel
    · have hnone : (dotaLobby.run wonGame).scored.map StatsDotA.players = some [] := by
        decide +kernel
      rw [hd, Option.map_some] at hnone
      rw [Option.some.inj hnone] at he
      cases he
  exact ⟨pre, st, hend, hst, hkept,
    (match_record_full_iff hrun (by decide +kernel) hend hst).2 hkept⟩

/-- Of two players who left one by one, neither is in the record, and
the entry of the one who scored has no name. -/
theorem leavers_go_unrecorded :
    ∃ pre st, Reaches (fun _ _ => True) (dotaLobby.run abandonedGame)
      ∧ EndsGame (dotaLobby.run abandonedGame) 0 pre ∧ pre.started = some st
      ∧ st.roster = [(1, txt "ann"), (2, txt "bob")]
      ∧ (dotaLobby.run abandonedGame).stored (.tick 0)
        = [.logGame (txt "test") (txt "Maps\\a.w3x") [],
          .logDotaGame (txt "test") 0 0 100 100 [{ colour := 1, newColour := 1, kills := 5 }]]
      ∧ ¬FullRecord st ((dotaLobby.run abandonedGame).stored (.tick 0)) := by
  have hrun : Reaches (fun _ _ => True) (dotaLobby.run abandonedGame) :=
    ⟨_, 0, 5, Runs.of_meets (by decide +kernel)⟩
  obtain ⟨pre, hend⟩ := endsGame_of_check (s := dotaLobby.run abandonedGame) (by decide +kernel)
    (by decide +kernel)
  have hroster : ((dotaLobby.run abandonedGame).beforeEnd 0).map
      (fun pre => pre.started.map StartState.roster)
        = some (some [(1, txt "ann"), (2, txt "bob")]) := by decide +kernel
  rw [hend.reached, Option.map_some, Option.some.injEq, Option.map_eq_some_iff] at hroster
  obtain ⟨st, hst, hroster⟩ := hroster
  have hstored : (dotaLobby.run abandonedGame).stored (.tick 0)
      = [.logGame (txt "test") (txt "Maps\\a.w3x") [],
        .logDotaGame (txt "test") 0 0 100 100 [{ colour := 1, newColour := 1, kills := 5 }]] := by
    decide +kernel
  refine ⟨pre, st, hrun, hend, hst, hroster, hstored, ?_⟩
  rintro ⟨⟨name, path, names, hlog, hnames⟩, -⟩
  have hann := hnames (1, txt "ann") (by rw [hroster]; exact List.mem_cons_self)
  rw [hstored] at hlog
  obtain ⟨-, -, rfl⟩ : name = txt "test" ∧ path = txt "Maps\\a.w3x" ∧ names = [] := by
    simpa using hlog
  cases hann

end Runs

end Spectre

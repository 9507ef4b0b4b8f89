/-
Player ids that outlive their player.

Votes, downloads and the fake player's role are kept by player id, and
ids are handed out again lowest first. A removal that leaves a
reference behind gives it to whoever is seated next. The reaper removes
a player from the table and the slots only; toggling the fake player
clears its role but no vote; the virtual host goes without a look at
the votes against it. In the runs where nothing refers to a player at
the moment it goes, every reference is to somebody seated.
-/
import Spectre.Seats

namespace Spectre

open GameState

-- ================================================================= statement

/-- The player ids the state refers to: votes, downloads and the role
of the fake player. -/
def GameState.refs (s : GameState) : List UInt8 := s.referred ++ s.fakePlayerPid.toList

/-- Every reference is to somebody at the table. -/
def NoDangling (s : GameState) : Prop := ∀ pid ∈ s.refs, pid ∈ s.pids

/-- Nothing refers to a player at the moment it is removed: not to one
that is reaped, not to the fake player when it is toggled off (but for
its role), not to the virtual host when it is deleted. -/
structure RemovesUnreferred [RustStd] (s : GameState) (ev : Event) : Prop where
  reaped : ∀ t ∈ s.reapPoints ev, ∀ g ∈ t.gone, g.1 ∉ t.refs
  fake : s.togglesFake ev = true → s.phase = .lobby → ∀ pid ∈ s.fakePlayerPid, pid ∉ s.referred
  host : s.virtualHostPid ≠ 255 → (s.step ev).virtualHostPid = 255 → s.virtualHostPid ∉ s.refs

-- ===================================================================== steps

/-- Nobody leaves the table, and new references are to somebody at
it. -/
structure Tracks (s t : GameState) : Prop where
  pids : ∀ pid ∈ s.pids, pid ∈ t.pids
  refs : ∀ pid ∈ t.refs, pid ∈ s.refs ∨ pid ∈ t.pids

variable {s t u : GameState}

/-- If nobody leaves, no reference goes wrong. -/
theorem NoDangling.of_tracks (h : NoDangling s) (ht : Tracks s t) : NoDangling t := by
  intro pid hpid
  rcases ht.refs pid hpid with h' | h'
  · exact ht.pids pid (h pid h')
  · exact h'

/-- Neither ids nor references change. -/
theorem Tracks.of_same (hpids : t.pids = s.pids) (hrefs : t.refs = s.refs) : Tracks s t where
  pids pid h := by rwa [hpids]
  refs pid h := .inl (hrefs ▸ h)

/-- A broadcast refers to nobody new. -/
theorem broadcast_refs (s : GameState) (b : Packet) : (s.broadcast b).refs = s.refs := by
  unfold refs
  rw [broadcast_referred, broadcast_fakePlayerPid]

/-- So it keeps the references right. -/
theorem Tracks.broadcast (s : GameState) (b : Packet) : Tracks s (s.broadcast b) :=
  .of_same (broadcast_pids s b) (broadcast_refs s b)

/-- The same, of one that may not have been built. -/
theorem broadcast?_refs (s : GameState) (b : Option Packet) : (s.broadcast? b).refs = s.refs := by
  cases b with
  | none => rfl
  | some b => exact broadcast_refs s b

/-- A packet to the others refers to nobody. -/
theorem sendOthersDirect?_refs (s : GameState) (pid : UInt8) (b : Option Packet) :
    (s.sendOthersDirect? pid b).refs = s.refs := by
  cases b with
  | none => rfl
  | some b => rfl

/-- A player may go to whom nothing refers. -/
theorem NoDangling.remove (h : NoDangling s) {pid : UInt8}
    (hplayers : t.players = s.players.removePid pid) (hrefs : ∀ q ∈ t.refs, q ∈ s.refs ∧ q ≠ pid) :
    NoDangling t := by
  intro q hq
  obtain ⟨hold, hne⟩ := hrefs q hq
  unfold pids
  rw [hplayers]
  exact mem_pids_removePid (h q hold) hne

section Loop

variable [RustStd]

/-- The steps that remove nobody. -/
theorem Step.tracks {k : Kind} (h : Step k s t) (hk : k.fine = true) (hu : k ≠ .unseat)
    (hh : k ≠ .unhost) (hf : k ≠ .unfake) : Tracks s t := by
  cases h with
  | misc h =>
      refine .of_same ?_ ?_
      · unfold GameState.pids
        rw [h.players]
      · unfold refs
        rw [h.referred, h.fakePlayerPid]
  | air b _ | airLag b _ | reset b _ => exact .broadcast s b
  | block b _ f =>
      have hsame := Tracks.broadcast ((s.relayPush (.push b)).record f) b
      exact ⟨hsame.pids, hsame.refs⟩
  | table _ ps hm => exact .of_same (map_pid_of_moves hm) rfl
  | seat sid player _ _ _ _ info _ =>
      -- the new player brings no reference of his own
      refine ⟨fun q hq => ?_, fun q hq => .inl ?_⟩
      swap
      · rw [sendOthersDirect?_refs] at hq
        exact hq
      rw [sendOthersDirect?_pids]
      exact List.mem_map.2 ((List.mem_map.1 hq).imp fun p hp => ⟨List.mem_append_left _ hp.1, hp.2⟩)
  | seatFake sid p _ hnone _ _ _ info _ =>
      refine ⟨fun q hq => ?_, fun q hq => ?_⟩
      · rw [broadcast?_pids]
        exact List.mem_map.2 ((List.mem_map.1 hq).imp fun p hp =>
          ⟨List.mem_append_left _ hp.1, hp.2⟩)
      · rw [broadcast?_refs] at hq
        rw [broadcast?_pids]
        rcases List.mem_append.1 hq with h | h
        · exact .inl (List.mem_append_left _ h)
        · right
          -- the one new reference is the fake player's, who was just seated
          have hpid : q = p.pid := by simpa using h
          rw [hpid]
          exact List.mem_map_of_mem (List.mem_append_right _ (List.mem_singleton_self p))
  | host pid _ _ info _ =>
      refine ⟨fun q hq => ?_, fun q hq => .inl ?_⟩
      · rw [← broadcast?_pids s info] at hq
        exact List.mem_map.2 ((List.mem_map.1 hq).imp fun p hp =>
          ⟨List.mem_append_left _ hp.1, hp.2⟩)
      · rw [← broadcast?_refs s info]
        exact hq
  | unseat => exact absurd rfl hu
  | unhost => exact absurd rfl hh
  | unfake => exact absurd rfl hf
  | restart =>
      refine .of_same ?_ rfl
      unfold GameState.pids
      show (s.players.map Player.beginPlaying).map Player.pid = _
      rw [List.map_map]
      exact List.map_congr_left fun p _ => rfl
  | refer target votes starts draws downloads h =>
      -- a new reference names a player at the table
      refine ⟨fun _ hq => hq, fun q hq => ?_⟩
      rcases List.mem_append.1 hq with hq | hq
      · rcases h q hq with h | ⟨p, hp, rfl⟩
        · exact .inl (List.mem_append_left _ h)
        · exact .inr (List.mem_map_of_mem hp)
      · exact .inl (List.mem_append_right _ hq)
  | reap => cases hk
  | begin => cases hk
  | loaded => cases hk
  | lagCheck => cases hk
  | check => cases hk
  | sendTurn => cases hk
  | _ => exact .of_same rfl rfl

/-- The steps that remove nobody, as a guard. -/
def keepsSeats (k : Kind) (_ : GameState) : Prop :=
  k.fine = true ∧ k ≠ .unseat ∧ k ≠ .unhost ∧ k ≠ .unfake

omit [RustStd] in
/-- What every command may do removes nobody. -/
theorem plain_keepsSeats : Plain keepsSeats := by
  intro k hk _
  refine ⟨?_, ?_, ?_, ?_⟩
  · cases k <;> first | rfl | cases hk
  · rintro rfl
    cases hk
  · rintro rfl
    cases hk
  · rintro rfl
    cases hk

/-- What is done in such steps keeps the references right. -/
theorem Does.noDangling (h : Does keepsSeats s t) (hI : NoDangling s) : NoDangling t :=
  Lib.Path.preserves
    (fun _ _ _ hk hst hI => hI.of_tracks (hst.tracks hk.1 hk.2.1 hk.2.2.1 hk.2.2.2))
    h hI

-- ==================================================================== reaping

omit [RustStd] in
/-- Reaping one player changes no reference. -/
theorem reapPlayer_refs {pid : UInt8} (code : Nat) (hs : WellFormed s) (hm : Marked s pid) :
    (s.reapPlayer pid code).refs = s.refs := by
  obtain ⟨p, r, hfind, hleft, -⟩ := hm.byPid hs
  obtain ⟨t, hsame, -, he⟩ := reapPlayer_eq code hfind hleft
  rw [he]
  dsimp only
  have hrefs : ({ t with
      players := t.players.removePid pid, slots := (t.slots.release pid).1
      reaped := t.reaped ++ [(pid, r)] }.broadcast (.playerLeaveOthers pid code)).refs
        = s.refs := by
    rw [broadcast_refs]
    show t.referred ++ t.fakePlayerPid.toList = _
    rw [hsame.referred, hsame.fakePlayerPid]
    rfl
  split
  · exact (broadcast?_refs _ _).trans hrefs
  · exact hrefs

omit [RustStd] in
/-- The reaping loop, over marked players to whom nothing refers. -/
theorem NoDangling.reapLoop (l : List (UInt8 × Nat)) (hnd : (l.map Prod.fst).Nodup)
    (h : NoDangling s) (hs : WellFormed s) (hm : ∀ g ∈ l, Marked s g.1)
    (hfree : ∀ g ∈ l, g.1 ∉ s.refs) :
    NoDangling (l.foldl (fun s g => s.reapPlayer g.1 g.2) s) := by
  induction l generalizing s with
  | nil => exact h
  | cons g l ih =>
      rw [List.map_cons, List.nodup_cons] at hnd
      have hg := hm g List.mem_cons_self
      have hpids := reapPlayer_pids g.2 hs hg
      have hrefs := reapPlayer_refs g.2 hs hg
      have hwf := hs.reapPlayer hg g.2
      have hone : NoDangling (s.reapPlayer g.1 g.2) := by
        intro q hq
        rw [hrefs] at hq
        rw [hpids]
        refine mem_pids_removePid (h q hq) ?_
        rintro rfl
        exact hfree g List.mem_cons_self hq
      refine ih hnd.2 hone hwf (fun g' hg' => ?_) fun g' hg' => ?_
      · refine hg.reapPlayer hs (hm g' (List.mem_cons_of_mem _ hg')) ?_
        intro he
        exact hnd.1 (he ▸ List.mem_map_of_mem hg')
      · rw [hrefs]
        exact hfree g' (List.mem_cons_of_mem _ hg')

omit [RustStd] in
/-- A line to all leaves the virtual host where it is. -/
theorem sendChatAll_sameHost (s : GameState) (message : Text) :
    SameHost s (s.sendChatAll message) := by
  have hair : ∀ (u : GameState) (b : Option Packet), SameHost s u
    → SameHost s (u.broadcast? b) := by
    intro u b hu
    have h := broadcast?_sameHost u b
    exact ⟨h.virtualHostPid.trans hu.virtualHostPid, h.fakePlayerPid.trans hu.fakePlayerPid,
      h.referred.trans hu.referred⟩
  have hclip : ∀ (u : GameState) (n : Nat) (m : Text), SameHost s u
    → SameHost s (u.clip n m).1 := by
    intro u n m hu
    unfold clip
    split
    · exact ⟨hu.virtualHostPid, hu.fakePlayerPid, hu.referred⟩
    · exact hu
  have hrelay : SameHost s (s.relayPush (.chat s.cfg.virtualHostName message)) := ⟨rfl, rfl, rfl⟩
  unfold sendChatAll
  dsimp only
  split
  · exact ⟨rfl, rfl, rfl⟩
  split
  · exact ⟨rfl, rfl, rfl⟩
  split
  · exact hair _ _ (hclip _ _ _ hrelay)
  · have hcut := hclip _ 127 message hrelay
    exact hair _ _ ⟨hcut.virtualHostPid, hcut.fakePlayerPid, hcut.referred⟩

omit [RustStd] in
/-- A countdown that is called off. -/
theorem abortCountdown_refs (s : GameState) : s.abortCountdown.refs = s.refs := by
  unfold abortCountdown
  split
  · have h := sendChatAll_sameHost (s.setPhase .lobby) (txt "Countdown aborted.")
    unfold refs
    rw [h.referred, h.fakePlayerPid]
    rfl
  · rfl

/-- The reaper, when nothing refers to those it removes. -/
theorem NoDangling.reapLeftPlayers (h : NoDangling s) (hs : WellFormed s)
    (hfree : ∀ g ∈ s.gone, g.1 ∉ s.refs) : NoDangling s.reapLeftPlayers := by
  unfold GameState.reapLeftPlayers
  dsimp only
  split
  · exact h
  obtain ⟨hnd, hm⟩ := gone_marked hs
  have habort : Does keepsSeats s
      { s.abortCountdown with lastPlayerLeftTime := some s.abortCountdown.now } :=
    (does_abortCountdown plain_keepsSeats (fun _ => ⟨rfl, by simp, by simp, by simp⟩) s).trans
      (Does.misc plain_keepsSeats (by constructor <;> rfl) (by rfl))
  have hloop := (habort.noDangling h).reapLoop s.gone hnd (habort.keeps_wellFormed hs)
    (fun g hg => (hm g hg).abortCountdown.of_players rfl) fun g hg => ?_
  · split
    · exact (does_beginPlaying plain_keepsSeats ⟨rfl, by simp, by simp, by simp⟩).noDangling hloop
    · exact hloop
  · show g.1 ∉ s.abortCountdown.refs
    rw [abortCountdown_refs]
    exact hfree g hg

-- ============================================================= one iteration

/-- The steps of an iteration that removes nobody who is referred to.
The virtual host is left out of account until the end of it. -/
def removesUnreferred (s₀ : GameState) (k : Kind) (t : GameState) : Prop :=
  match k with
  | .reap => ∀ g ∈ t.gone, g.1 ∉ t.refs
  | .unfake => ∀ pid ∈ t.fakePlayerPid, pid ∉ t.referred
  | .unhost => SameHost s₀ t
  | .host => t.virtualHostPid = s₀.virtualHostPid
  | .unseat => False
  | k => k.fine = true

/-- The virtual host has been deleted while something referred to it. -/
def HostReferred (s₀ t : GameState) : Prop :=
  t.virtualHostPid = 255 ∧ s₀.virtualHostPid ≠ 255 ∧ s₀.virtualHostPid ∈ s₀.refs

omit [RustStd] in
/-- What every command may do is among these steps. -/
theorem plain_removesUnreferred (s₀ : GameState) : Plain (removesUnreferred s₀) := by
  intro k hk _
  cases k <;> first | exact rfl | cases hk

/-- Only its creation brings a virtual host. -/
theorem Step.no_host {k : Kind} (h : Step k s t) (hk : k.fine = true) (hh : k ≠ .host)
    (hnone : s.virtualHostPid = 255) : t.virtualHostPid = 255 := by
  cases h with
  | misc h => exact h.virtualHostPid.trans hnone
  | air b _ | airLag b _ | reset b _ => exact (broadcast_virtualHostPid s b).trans hnone
  | block b _ f => exact (broadcast_virtualHostPid _ b).trans hnone
  | seat sid player _ _ _ _ info _ =>
      obtain ⟨_, he⟩ := sendOthersDirect?_eq { s with
        slots := (s.slots.occupySlot sid player.pid).1
        players := s.players ++ [(s.joinBurst player).foldl Player.sendDirect player] }
          player.pid info
      rw [he]
      exact hnone
  | seatFake => exact (broadcast?_virtualHostPid _ _).trans hnone
  | host => exact absurd rfl hh
  | unseat | unfake => exact (broadcast_virtualHostPid _ _).trans hnone
  | unhost => exact broadcast_virtualHostPid _ _
  | reap => cases hk
  | begin => cases hk
  | loaded => cases hk
  | lagCheck => cases hk
  | check => cases hk
  | sendTurn => cases hk
  | _ => exact hnone

/-- Where there is no virtual host the reaper seats none. -/
theorem reapLeftPlayers_no_host (hs : WellFormed s) (hnone : s.virtualHostPid = 255) :
    s.reapLeftPlayers.virtualHostPid = 255 := by
  have hpath : Does (fun k _ => k.fine = true ∧ k ≠ .host) s s.reapLeftPlayers := by
    refine does_reapLeftPlayers ?_ (fun _ => ⟨rfl, by simp⟩) (fun _ => ⟨rfl, by simp⟩)
      (fun _ => ⟨rfl, by simp⟩) (fun _ _ => ⟨rfl, by simp⟩) hs
    intro k hk _
    refine ⟨?_, ?_⟩
    · cases k <;> first | rfl | cases hk
    · rintro rfl
      cases hk
  exact Lib.Path.preserves (I := fun t => t.virtualHostPid = 255)
    (fun _ _ _ hk hst h => hst.no_host hk.1 hk.2 h) hpath hnone

/-- A step keeps the references right, or has deleted a virtual host
somebody refers to. -/
theorem Step.noDangling {s₀ : GameState} {k : Kind} (h : Step k s t) (hk : removesUnreferred s₀ k s)
    (hs : WellFormed s) (hI : NoDangling s ∨ HostReferred s₀ s) :
    NoDangling t ∨ HostReferred s₀ t := by
  by_cases hcoarse : k.fine = true
  · by_cases hhost : k = .host
    · -- a new virtual host comes only where there was none before
      subst hhost
      have hsame : s.virtualHostPid = s₀.virtualHostPid := hk
      rcases hI with hI | ⟨hnone, hsome, -⟩
      · exact .inl (hI.of_tracks (h.tracks rfl (by simp) (by simp) (by simp)))
      · exact absurd (hsame.symm.trans hnone) hsome
    rcases hI with hI | ⟨hnone, hrest⟩
    · by_cases hun : k = .unhost
      · subst hun
        have hsame : SameHost s₀ s := hk
        cases h with
        | misc _ hb => cases hb
        | table hk _ _ => cases hk
        | unhost _ hsome =>
            have hrefs : s.refs = s₀.refs := by
              unfold refs
              rw [hsame.referred, hsame.fakePlayerPid]
            by_cases hfree : s.virtualHostPid ∈ s.refs
            · right
              refine ⟨broadcast_virtualHostPid _ _, ?_, ?_⟩
              · rw [← hsame.virtualHostPid]
                exact hsome
              · rw [← hsame.virtualHostPid, ← hrefs]
                exact hfree
            · refine .inl (NoDangling.of_tracks (hI.remove
                (show _ = s.players.removePid s.virtualHostPid from rfl) ?_)
                (.broadcast _ _))
              intro q hq
              refine ⟨hq, ?_⟩
              rintro rfl
              exact hfree hq
      by_cases huf : k = .unfake
      · subst huf
        have hfree : ∀ pid ∈ s.fakePlayerPid, pid ∉ s.referred := hk
        cases h with
        | misc _ hb => cases hb
        | table hk _ _ => cases hk
        | unfake pid _ hfake =>
            refine .inl (NoDangling.of_tracks
              (hI.remove (show _ = s.players.removePid pid from rfl) ?_) (.broadcast _ _))
            intro q hq
            have hq' : q ∈ s.referred := by simpa [refs, referred] using hq
            refine ⟨List.mem_append_left _ hq', ?_⟩
            rintro rfl
            exact hfree q hfake hq'
      refine .inl (hI.of_tracks (h.tracks hcoarse ?_ hun huf))
      rintro rfl
      exact hk
    · exact .inr ⟨h.no_host hcoarse hhost hnone, hrest⟩
  · cases h with
    | reap =>
        rcases hI with hI | ⟨hnone, hrest⟩
        · exact .inl (hI.reapLeftPlayers hs hk)
        · exact .inr ⟨reapLeftPlayers_no_host hs hnone, hrest⟩
    | misc _ hb => exact absurd hb.fine hcoarse
    | table htable _ _ =>
        have hfine : k.fine = true := by
          cases k <;> first | rfl | cases htable
        exact absurd hfine hcoarse
    | begin => cases hk
    | loaded => cases hk
    | lagCheck => cases hk
    | check => cases hk
    | sendTurn => cases hk
    | _ => exact absurd rfl hcoarse

omit [RustStd] in
/-- A tick outside the lobby begins without a change to the virtual
host or to the references. -/
theorem tickHead_sameHost (hphase : s.phase ≠ .lobby) : SameHost s s.tickHead := by
  have hpump : s.pumpDownloads = s := if_pos hphase
  have hnotices : ∀ (l : List Text) (u : GameState), SameHost s u →
      SameHost s (l.foldl (fun s n => s.sendChatAll n) u) := by
    intro l
    induction l with
    | nil => exact fun u hu => hu
    | cons n l ih =>
        intro u hu
        have h := sendChatAll_sameHost u n
        exact ih _ ⟨h.virtualHostPid.trans hu.virtualHostPid,
          h.fakePlayerPid.trans hu.fakePlayerPid, h.referred.trans hu.referred⟩
  have hexpire : SameHost s (s.reapGproxyTimeouts s.cfg.reconnectWait) := by
    unfold reapGproxyTimeouts
    exact hnotices _ _ ⟨rfl, rfl, rfl⟩
  unfold tickHead tickPing
  rw [hpump]
  split
  · have h := broadcast?_sameHost (s.reapGproxyTimeouts s.cfg.reconnectWait)
      (some (.pingFromHost (((s.reapGproxyTimeouts s.cfg.reconnectWait).now
        - (s.reapGproxyTimeouts s.cfg.reconnectWait).createdAt) % 2 ^ 32)))
    exact ⟨h.virtualHostPid.trans hexpire.virtualHostPid,
      h.fakePlayerPid.trans hexpire.fakePlayerPid, h.referred.trans hexpire.referred⟩
  · exact hexpire

/-- An iteration that meets the condition is made of these steps. -/
theorem admits_removesUnreferred {ev : Event} (hC : RemovesUnreferred s ev) :
    Admits (removesUnreferred s) s ev where
  phase _ := rfl
  slots _ _ _ := rfl
  vacate _ _ _ _ _ _ := rfl
  limit _ := rfl
  seat _ _ _ _ _ _ _ := rfl
  bounce _ _ := rfl
  seatFake _ _ _ _ := rfl
  token _ _ _ _ _ _ _ := rfl
  host _ _ := rfl
  unhost _ ht _ := ht
  unfake htoggle hl t ht := by
    show ∀ pid ∈ t.fakePlayerPid, pid ∉ t.referred
    rw [ht.fakePlayerPid, ht.referred]
    exact hC.fake htoggle hl
  attachFull _ _ _ _ _ := rfl
  attachGps _ _ _ _ _ _ := rfl
  ack _ _ _ _ _ _ _ _ _ := rfl
  queue _ _ := rfl
  cache _ _ := rfl
  feed _ _ _ := rfl
  timeout _ _ _ := rfl
  plain := plain_removesUnreferred s
  reap t ht _ := Does.one (k := .reap) (hC.reaped t ht) .reap
  begin _ _ hdue := by
    refine does_beginLoading (plain_removesUnreferred s) rfl (fun _ _ => rfl) ?_ (fun _ => rfl)
      (fun _ _ => rfl) (phaseStep_of_countdownDue hdue)
    intro t ht _
    -- loading begins out of the countdown, where the head of the tick keeps the host
    have hphase : s.phase ≠ .lobby := by
      rw [← (tickHead_framed s).phase]
      intro hl
      unfold countdownDue at hdue
      rw [hl] at hdue
      cases hdue
    have hhead := tickHead_sameHost hphase
    exact ⟨ht.virtualHostPid.trans hhead.virtualHostPid,
      ht.fakePlayerPid.trans hhead.fakePlayerPid, ht.referred.trans hhead.referred⟩
  loaded _ _ _ _ := does_handleLoaded (plain_removesUnreferred s) (fun _ => rfl) (fun _ => rfl)
    (fun _ => rfl)
    fun _ _ _ _ => rfl
  check t _ := does_checkDesync (plain_removesUnreferred s) (fun _ => rfl) (fun _ => rfl) t
  lagCheck _ _ _ := does_checkLag (plain_removesUnreferred s) (fun _ => rfl) (fun _ => rfl)
    fun _ _ => rfl
  sendTurn skipped _ _ _ _ hstart := does_sendAllActions (plain_removesUnreferred s) rfl
    (fun _ => rfl) hstart skipped

/-- It keeps the references right. -/
theorem step_noDangling {ev : Event} (hs : WellFormed s) (hev : ev.Sound)
    (hC : RemovesUnreferred s ev) (hI : NoDangling s) : NoDangling (s.step ev) := by
  have hpath := does_step hs hev (admits_removesUnreferred hC)
  have hend := (Lib.Path.preserves
    (I := fun t => WellFormed t ∧ (NoDangling t ∨ HostReferred s t))
    (fun k u v hk hst hu => ⟨hst.keeps_wellFormed hu.1, hst.noDangling hk hu.1 hu.2⟩) hpath
    ⟨hs, .inl hI⟩).2
  rcases hend with h | ⟨hnone, hsome, href⟩
  · exact h
  · exact absurd href (hC.host hsome hnone)

/-- In every run in which nothing refers to a player at the moment it
is removed, every vote, every download and the fake player's role
belong to somebody seated, and whoever is seated next inherits none of
them. -/
theorem references_are_seated (h : Reaches RemovesUnreferred s) :
    NoDangling s ∧ ∀ pid, s.players.nextFreePid = some pid →
      pid ∉ s.referred ∧ s.fakePlayerPid ≠ some pid := by
  have hI : NoDangling s := by
    refine (h.preserves (I := NoDangling) (fun _ _ _ pid hpid => nomatch hpid) ?_).2
    intro s ev hs hev hC hI
    exact step_noDangling hs hev hC hI
  refine ⟨hI, fun pid hpid => ?_⟩
  have hfresh : pid ∉ s.refs := by
    intro href
    obtain ⟨p, hp, he⟩ := List.mem_map.1 (hI pid href)
    exact nextFreePid_fresh hpid p hp he
  refine ⟨fun hr => hfresh (List.mem_append_left _ hr), fun hf => hfresh ?_⟩
  exact List.mem_append_right _ (by rw [hf]; exact List.mem_singleton_self pid)

end Loop

section Runs

open Scenario

/-- The condition, in a form that computes. -/
theorem removesUnreferred_iff (s : GameState) (ev : Event) :
    ((∀ t ∈ s.reapPoints ev, ∀ g ∈ t.gone, g.1 ∉ t.refs)
      ∧ (s.togglesFake ev = true → s.phase = .lobby →
        (s.fakePlayerPid.all fun pid => !decide (pid ∈ s.referred)) = true)
      ∧ (s.virtualHostPid ≠ 255 → (s.step ev).virtualHostPid = 255 → s.virtualHostPid ∉ s.refs))
    ↔ RemovesUnreferred s ev := by
  have hfake : (s.fakePlayerPid.all fun pid => !decide (pid ∈ s.referred)) = true
      ↔ ∀ pid ∈ s.fakePlayerPid, pid ∉ s.referred := by
    cases s.fakePlayerPid with
    | none => simp
    | some pid => simp
  rw [hfake]
  exact ⟨fun h => ⟨h.1, h.2.1, h.2.2⟩, fun h => ⟨h.reaped, h.fake, h.host⟩⟩

instance (s : GameState) (ev : Event) : Decidable (RemovesUnreferred s ev) :=
  decidable_of_iff _ (removesUnreferred_iff s ev)

/-- The first player of a lobby of two votes to start. -/
def votedLobby : List Event :=
  twoJoin PlayerLink.drained PlayerLink.drained ++ [say 1 1 (txt "!votestart")]

/-- And then the second player leaves. -/
theorem references_are_seated_votedLobby :
    Reaches RemovesUnreferred (lobby.run (votedLobby ++ [leaveGame 2]))
      ∧ (lobby.run (votedLobby ++ [leaveGame 2])).startVotes = [1]
      ∧ (lobby.run (votedLobby ++ [leaveGame 2])).pids = [1]
      ∧ NoDangling (lobby.run (votedLobby ++ [leaveGame 2])) := by
  have hrun : Reaches RemovesUnreferred (lobby.run (votedLobby ++ [leaveGame 2])) :=
    ⟨config, 0, 5, Runs.of_meets (by decide +kernel)⟩
  exact ⟨hrun, by decide +kernel, by decide +kernel, (references_are_seated hrun).1⟩

/-- The player that voted leaves: its vote stays, and is counted for
the client that joins next and gets its id. -/
theorem vote_outlives_voter :
    (∀ ev ∈ votedLobby ++ [leaveGame 1], ev.Sound)
      ∧ (lobby.run (votedLobby ++ [leaveGame 1])).panicked = false
      ∧ (lobby.run (votedLobby ++ [leaveGame 1])).startVotes = [1]
      ∧ (lobby.run (votedLobby ++ [leaveGame 1])).pids = [2]
      ∧ ¬NoDangling (lobby.run (votedLobby ++ [leaveGame 1]))
      ∧ (lobby.run (votedLobby ++ [leaveGame 1, connect 3 PlayerLink.drained,
        join 3 (txt "carl")])).players.map (fun p => (p.pid, p.name))
        = [(2, txt "bob"), (1, txt "carl")]
      ∧ (lobby.run (votedLobby ++ [leaveGame 1, connect 3 PlayerLink.drained,
        join 3 (txt "carl")])).startVotes = [1] := by
  have hvotes : (lobby.run (votedLobby ++ [leaveGame 1])).refs = [1]
      ∧ (lobby.run (votedLobby ++ [leaveGame 1])).pids = [2] := by decide +kernel
  refine ⟨by decide +kernel, by decide +kernel, by decide +kernel, hvotes.2, ?_, by decide +kernel,
    by decide +kernel⟩
  intro hno
  have hseated := hno 1 (by rw [hvotes.1]; exact List.mem_singleton_self 1)
  rw [hvotes.2] at hseated
  exact absurd hseated (by decide)

end Runs

end Spectre

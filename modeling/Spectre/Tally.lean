/-
Keepalives are counted.

A keepalive the game handles is counted for the player of its
connection, once, and nothing else adds to a count. Two things set it
back to 0: the start of the game, and a seat taken over by a client that
comes back without its state (`attachFull`).
-/
import Spectre.Desync
import Spectre.Phases
import Spectre.Window

namespace Spectre

open GameState

-- ================================================================= statement

/-- The checksum of a keepalive. -/
def AnyFrame.keepalive? : AnyFrame → Option Nat
  | .w3gs id payload => if id = 0x27 then (decodeKeepalive payload).toOption else none
  | _ => none

/-- The keepalives an iteration counts for a player. -/
def GameState.countedFor (s : GameState) (pid : UInt8) (ev : Event) : List Nat :=
  match s.accepted ev with
  | some (p, checksum) => if p.pid = pid then [checksum] else []
  | none => []

/-- An iteration of the running game in which the player's count is not
set back. -/
structure CountsOn (pid : UInt8) (s : GameState) (ev : Event) : Prop where
  live : s.finished = false
  playing : s.phase = .playing
  sound : ev.Sound
  noStart : s.loadStarts ev = false
  noRejoin : s.fullSeat ev ≠ some pid

-- ================================================================= invariant

/-- What has been counted for the player is `reports`. -/
structure Reported (pid : UInt8) (reports : List Nat) (s : GameState) : Prop where
  started : s.started.isSome
  players : ∀ p ∈ s.players, p.pid = pid → p.virtualHost = false → p.reports = reports

/-- Every function in pieces; no keepalive of the player, and nothing
that sets its count back. -/
def silent (pid : UInt8) (k : Kind) (s : GameState) : Prop :=
  match k with
  | .ack who _ => who ≠ pid
  | .attachFull who => who ≠ pid
  | .restart => s.phase = .loading
  | k => k.fine = true

theorem fine_of_silent {pid : UInt8} {k : Kind} {s : GameState} (h : silent pid k s) :
    k.fine = true := by
  cases k <;> first | exact rfl | exact h

theorem silent_of_free {pid : UInt8} {k : Kind} (hk : k.fine = true) (hg : k.guarded = false)
    (hr : k ≠ .restart) (t : GameState) : silent pid k t := by
  cases k <;> first | exact rfl | exact absurd rfl hr | (cases hk; done) | cases hg

theorem plain_silent {pid : UInt8} : Plain (silent pid) := by
  intro k hk _
  cases k <;> first | exact rfl | cases hk

section Proofs

variable [RustStd] {s t : GameState} {pid : UInt8} {reports : List Nat} {p q : Player}

omit [RustStd] in
theorem Moves.reports_eq {k : Kind} (h : Moves s k p q) (hk : silent p.pid k s)
    (hphase : s.phase ≠ .loading) : q.reports = p.reports := by
  cases h with
  | air b _ => exact (p.kept_hear _ _ _).reports
  | tell b _ _ => exact (p.kept_receive _ _).reports
  | feed => exact (p.kept_feed _ _).reports
  | note h => exact h.reports
  | timeout =>
      obtain ⟨_, _, he⟩ := p.loadingTimeout_eq
      rw [he]
  | hold reason code =>
      obtain ⟨_, _, _, he⟩ := p.connClosed_eq s.now reason code
      rw [he]
  | expire =>
      obtain ⟨_, _, _, _, _, he⟩ := p.gproxyTimeout_eq s.now s.cfg.reconnectWait
      rw [he]
  | ack => exact absurd rfl hk
  | restart => exact absurd hk hphase
  | attachFull => exact absurd rfl hk
  | attachGps connId link _ _ b _ last replay _ =>
      obtain ⟨link', he⟩ := p.attachGps_eq connId link b.totalSent replay
      rw [he]
  | _ => rfl

theorem Step.reported {k : Kind} (h : Step k s t) (hk : silent pid k s) (hs : WellFormed s)
    (hI : Reported pid reports s) : Reported pid reports t := by
  have hrun : s.phase = .playing ∨ s.phase = .over := hs.started hI.started
  have hloading : s.phase ≠ .loading := by
    intro hl
    rw [hl] at hrun
    rcases hrun with h | h <;> cases h
  refine ⟨?_, ?_⟩
  · rcases h.counter (fine_of_silent hk) with rfl | rfl | ⟨-, -, hstarted⟩
    · cases h with
      | misc _ hb => cases hb
      | table hon => cases hon
      | turn => exact hI.started
    · exact absurd hk hloading
    · rw [hstarted]
      exact hI.started
  · refine h.forall_players (fine_of_silent hk) ?_ ?_ ?_ ?_ hI.players
    · intro p _ q hm hp hpid hvh
      have hsame : p.pid = pid := hm.identity.1.symm.trans hpid
      rw [hm.reports_eq (hsame ▸ hk) hloading]
      exact hp hsame (hm.identity.2.2.symm.trans hvh)
    · intro p now b seq hp hpid hvh
      have hkept := p.kept_hear now b seq
      rw [hkept.reports]
      exact hp (hkept.pid.symm.trans hpid) (hkept.virtualHost.symm.trans hvh)
    · intro hlobby
      rw [hlobby] at hrun
      rcases hrun with h | h <;> cases h
    · intro _ _ _ hvh
      cases hvh

theorem Does.reported (h : Does (silent pid) s t) (hs : WellFormed s)
    (hI : Reported pid reports s) :
    Reported pid reports t := by
  refine (Lib.Path.preserves (I := fun s => WellFormed s ∧ Reported pid reports s) ?_ h ⟨hs, hI⟩).2
  intro k s t hk hst ⟨hs, hI⟩
  exact ⟨hst.keeps_wellFormed hs, hst.reported hk hs hI⟩

/-- An iteration that counts no keepalive of the player. -/
theorem admits_silent {ev : Event} (hC : CountsOn pid s ev)
    (hnone : ∀ p checksum, s.accepted ev = some (p, checksum) → p.pid ≠ pid) :
    Admits (silent pid) s ev := by
  refine admits_inTime (fun k hk hg hr t => silent_of_free hk hg hr t) (fun _ ht => ht)
    (fun _ => rfl) ?_ fun hload => ?_
  · refine { ack := ?_, attachFull := ?_ }
    · rintro who hwho t - - rfl
      exact hC.noRejoin hwho
    · intro env connId payload checksum p hev hplay hsum hp
      rw [hev] at hnone
      exact hnone p checksum (accepted_eq hplay hsum hp)
  · rw [hC.noStart] at hload
    cases hload

/-- An accepted keepalive is counted before everything else. -/
theorem step_accepted {ev : Event} {checksum : Nat} (hlive : s.finished = false)
    (h : s.accepted ev = some (p, checksum)) :
    s.players.byConn p.connId = some p
      ∧ s.step ev = (s.acknowledge p.connId checksum).checkDesync.reapLeftPlayers.reportLobby := by
  obtain ⟨hconn, hhandle, hne₁, hne₂⟩ := handle_accepted h
  refine ⟨hconn, ?_⟩
  unfold step
  rw [if_neg (by rw [hlive]; exact Bool.false_ne_true)]
  split
  · exact absurd rfl (hne₁ _)
  · exact absurd rfl (hne₂ _)
  · rw [hhandle]

/-- The count of the player goes up by the keepalive. -/
theorem acknowledge_reports {checksum : Nat} (hs : WellFormed s) (hplay : s.phase = .playing)
    (hp : s.players.byConn p.connId = some p)
    (hq : q ∈ (s.acknowledge p.connId checksum).players) (hpid : q.pid = p.pid) :
    q.reports = p.reports ++ [checksum] := by
  have hdoes : Does anyFine s (s.acknowledge p.connId checksum) :=
    does_acknowledge p.connId checksum hplay fun _ _ => rfl
  have hwell := hdoes.wellFormed (fun _ _ h => h) hs
  obtain ⟨_, _, hkeepalive⟩ := p.keepalive_eq s.syncCounter checksum
  have hfind : (s.acknowledge p.connId checksum).players.byConn p.connId
      = some (p.keepalive s.syncCounter checksum) := by
    refine (Lib.find?_updateFirst fun r _ hr => ?_).trans
      (by rw [show List.find? _ _ = _ from hp]; rfl)
    obtain ⟨_, _, he⟩ := r.keepalive_eq s.syncCounter checksum
    rw [he]
    exact hr
  have hmem := List.mem_of_find?_eq_some hfind
  have hsame : q = p.keepalive s.syncCounter checksum :=
    List.inj_on_of_nodup_map hwell.pids hq hmem (by rw [hpid, hkeepalive])
  rw [hsame, hkeepalive]

/-- An iteration adds to the count of a player the keepalives it counts
for the player, and nothing else. -/
theorem step_reports {ev : Event} (hs : WellFormed s) (hC : CountsOn pid s ev)
    (hp : p ∈ s.players) (hpid : p.pid = pid) (hq : q ∈ (s.step ev).players) (hqpid : q.pid = pid)
    (hvh : q.virtualHost = false) : q.reports = p.reports ++ s.countedFor pid ev := by
  have hstarted := hs.playing hC.playing
  have honly : ∀ r ∈ s.players, r.pid = pid → r = p := fun r hr hrpid =>
    List.inj_on_of_nodup_map hs.pids hr hp (hrpid.trans hpid.symm)
  by_cases hcounts : ∃ r checksum, s.accepted ev = some (r, checksum) ∧ r.pid = pid
  · obtain ⟨r, checksum, hev, hrpid⟩ := hcounts
    obtain ⟨hconn, hstep⟩ := step_accepted hC.live hev
    have hrp : r = p := honly r (mem_of_accepted hev).1 hrpid
    subst hrp
    have hdoes : Does anyFine s (s.acknowledge r.connId checksum) :=
      does_acknowledge r.connId checksum hC.playing fun _ _ => rfl
    have hwell := hdoes.wellFormed (fun _ _ h => h) hs
    have hcheck : Does (silent pid) (s.acknowledge r.connId checksum)
        (s.acknowledge r.connId checksum).checkDesync :=
      does_checkDesync plain_silent (fun _ => rfl) (fun _ => rfl) _
    have hreap := does_reapLeftPlayers (K := silent pid) plain_silent (fun _ => rfl) (fun _ => rfl)
      (fun _ => rfl) (fun _ ht => ht) (hcheck.wellFormed (fun _ _ => fine_of_silent) hwell)
    have hrest := (hcheck.trans hreap).trans (does_reportLobby plain_silent _)
    rw [← hstep] at hrest
    have hreported : Reported pid (r.reports ++ [checksum]) (s.acknowledge r.connId checksum) :=
      ⟨hstarted, fun q hq hqpid _ =>
        acknowledge_reports hs hC.playing hconn hq (hqpid.trans hrpid.symm)⟩
    rw [(hrest.reported hwell hreported).players q hq hqpid hvh]
    unfold countedFor
    rw [hev]
    dsimp only
    rw [if_pos hrpid]
  · have hnone : ∀ r checksum, s.accepted ev = some (r, checksum) → r.pid ≠ pid :=
      fun r checksum hev hrpid => hcounts ⟨r, checksum, hev, hrpid⟩
    have hdoes := does_step hs hC.sound (admits_silent hC hnone)
    have hreported : Reported pid p.reports s :=
      ⟨hstarted, fun r hr hrpid _ => by rw [honly r hr hrpid]⟩
    rw [(hdoes.reported hs hreported).players q hq hqpid hvh]
    unfold countedFor
    cases hev : s.accepted ev with
    | none => rw [List.append_nil]
    | some e =>
        obtain ⟨r, checksum⟩ := e
        dsimp only
        rw [if_neg (hnone r checksum hev), List.append_nil]

end Proofs

end Spectre

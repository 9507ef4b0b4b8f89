/-
What a small step does to one seat.

`Fate` is the inversion of `Step` for properties of players: a player
at the table after a step stayed as it was, made one move, heard one
broadcast, or has just come. With it a property of every player is
proved once per move, and the steps themselves are never taken apart
again.

The ids at the table change when somebody comes or goes, and the reaper
takes exactly those it found marked.
-/
import Spectre.Scenario

namespace Spectre

open GameState

/-- Where a player at the table of `t` comes from, and what the step
did to the history. -/
inductive Fate (k : Kind) (s t : GameState) (q : Player) : Prop
  /-- nothing happened to it -/
  | stayed (hq : q ∈ s.players) (hlog : t.fullHistory.log = s.fullHistory.log)
  /-- it made a move of its own -/
  | moved {p : Player} (hp : p ∈ s.players) (hm : Moves s k p q) (hk : k ≠ .air)
      (hlog : t.fullHistory.log = s.fullHistory.log)
  /-- it heard a broadcast -/
  | heard {p : Player} (b : Packet) (hb : b.isW3gs = true) (hp : p ∈ s.players)
      (hq : q = p.hear s.now b s.airSeq)
      (hlog : t.fullHistory.log
        = if s.phase = .playing then s.fullHistory.log ++ [b] else s.fullHistory.log)
  /-- it is a newcomer -/
  | seated (hq : Newcomer q) (hlobby : s.phase = .lobby) (hpid : ∀ p ∈ s.players, p.pid ≠ q.pid)
      (hlog : t.fullHistory.log = s.fullHistory.log)
  /-- it is a newcomer that has heard its own announcement -/
  | announced {p : Player} (hp : Newcomer p) (b : Packet) (hb : b.isW3gs = true)
      (hq : q = p.hear s.now b none) (hlobby : s.phase = .lobby)
      (hpid : ∀ p' ∈ s.players, p'.pid ≠ q.pid) (hlog : t.fullHistory.log = s.fullHistory.log)
  /-- it is the virtual host -/
  | hosted (pid : UInt8) (name : Text) (hq : q = hostPlayer pid name)
      (hpid : ∀ p ∈ s.players, p.pid ≠ pid)

/-- A broadcast on a table from which players may have been removed. -/
theorem fate_broadcast {k : Kind} {s u : GameState} {b : Packet} {q : Player}
    (hq : q ∈ (u.broadcast b).players) (hb : b.isW3gs = true)
    (hplayers : u.players.Sublist s.players) (hnow : u.now = s.now) (hphase : u.phase = s.phase)
    (hhist : u.fullHistory = s.fullHistory) : Fate k s (u.broadcast b) q := by
  rw [broadcast_players] at hq
  obtain ⟨p, hp, rfl⟩ := List.mem_map.1 hq
  refine .heard b hb (hplayers.subset hp) ?_ ?_
  · rw [hnow, airSeq, airSeq, hphase, hhist]
  · rw [broadcast_log, hphase, hhist]

variable {s t : GameState}

/-- A seated client is new, and the others are sent its announcement on
their bare links. -/
theorem fate_seat {k : Kind} {player : Player} {slots : SlotTable}
    {info : Option Packet} {q : Player}
    (hk : k = .seat) (hlobby : s.phase = .lobby) (hpid : ∀ p ∈ s.players, p.pid ≠ player.pid)
    (hnew : Newcomer player)
    (hq : q ∈ (GameState.sendOthersDirect? { s with
      slots := slots, players := s.players ++ [player] } player.pid info).players) :
    Fate k s (GameState.sendOthersDirect? { s with
      slots := slots, players := s.players ++ [player] } player.pid info) q := by
  subst hk
  cases info with
  | none =>
      rcases List.mem_append.1 hq with hq | hq
      · exact .stayed hq rfl
      · rw [List.mem_singleton.1 hq]
        exact .seated hnew hlobby hpid rfl
  | some b =>
      obtain ⟨p, hp, rfl⟩ := List.mem_map.1 hq
      rcases List.mem_append.1 hp with hp | hp
      · refine .moved hp ?_ (by simp) rfl
        rw [if_neg (hpid p hp)]
        exact .greet b
      · rw [List.mem_singleton.1 hp, if_pos rfl]
        exact .seated hnew hlobby hpid rfl

/-- A fake player is new, and hears its own announcement. -/
theorem fate_seatFake {k : Kind} {player : Player} {u : GameState}
    {info : Option Packet} {q : Player}
    (hinfo : ∀ b ∈ info, b.isW3gs = true) (hlobby : s.phase = .lobby)
    (hpid : ∀ p ∈ s.players, p.pid ≠ player.pid) (hnew : Newcomer player)
    (hplayers : u.players = s.players ++ [player]) (hnow : u.now = s.now)
    (hphase : u.phase = s.phase) (hhist : u.fullHistory = s.fullHistory)
    (hq : q ∈ (u.broadcast? info).players) : Fate k s (u.broadcast? info) q := by
  cases info with
  | none =>
      have hq' : q ∈ u.players := hq
      rw [hplayers, List.mem_append, List.mem_singleton] at hq'
      have hlog : (u.broadcast? none).fullHistory.log = s.fullHistory.log :=
        congrArg Lib.Ring.log hhist
      rcases hq' with hq' | rfl
      · exact .stayed hq' hlog
      · exact .seated hnew hlobby hpid hlog
  | some b =>
      have hq' : q ∈ (u.broadcast b).players := hq
      have hseq : u.airSeq = s.airSeq := by
        rw [airSeq, airSeq, hphase, hhist]
      have hnone : s.airSeq = none := by
        rw [airSeq, hlobby, if_neg (by simp)]
      have hlog : (u.broadcast? (some b)).fullHistory.log = s.fullHistory.log := by
        show (u.broadcast b).fullHistory.log = _
        rw [broadcast_log, hphase, hlobby, if_neg (by simp), hhist]
      rw [broadcast_players, hplayers, hnow, hseq, List.mem_map] at hq'
      obtain ⟨p, hp, rfl⟩ := hq'
      rcases List.mem_append.1 hp with hp | hp
      · refine .heard b (hinfo b rfl) hp rfl ?_
        rw [hlog, hlobby, if_neg (by simp)]
      · rw [List.mem_singleton.1 hp, hnone]
        refine .announced hnew b (hinfo b rfl) rfl hlobby ?_ hlog
        rw [(player.kept_hear _ _ _).pid]
        exact hpid

/-- The virtual host is new, and the others hear its announcement. -/
theorem fate_host {k : Kind} {pid : UInt8} {name : Text} {info : Option Packet} {q : Player}
    (hinfo : ∀ b ∈ info, b.isW3gs = true) (hpid : ∀ p ∈ s.players, p.pid ≠ pid) {t : GameState}
    (hplayers : t.players = (s.broadcast? info).players ++ [hostPlayer pid name])
    (hhist : t.fullHistory = (s.broadcast? info).fullHistory) (hq : q ∈ t.players) :
    Fate k s t q := by
  rw [hplayers, List.mem_append, List.mem_singleton] at hq
  rcases hq with hq | hq
  · cases info with
    | none => exact .stayed hq (congrArg Lib.Ring.log hhist)
    | some b =>
        have hq' : q ∈ (s.broadcast b).players := hq
        rw [broadcast_players] at hq'
        obtain ⟨p, hp, rfl⟩ := List.mem_map.1 hq'
        refine .heard b (hinfo b rfl) hp rfl ?_
        rw [hhist]
        exact broadcast_log s b
  · exact .hosted pid name hq hpid

variable [RustStd]

/-- The fate of every player at the table after a small step. -/
theorem Step.fate {k : Kind} (h : Step k s t) (hk : k.fine = true) {q : Player}
    (hq : q ∈ t.players) : Fate k s t q := by
  cases h with
  | misc h => exact .stayed (h.players ▸ hq) (by rw [h.fullHistory])
  | air b hb =>
      exact fate_broadcast hq (Packet.isW3gs_of_isOrdinary hb) (List.Sublist.refl _) rfl rfl rfl
  | airLag b hb =>
      exact fate_broadcast hq (Packet.isW3gs_of_isLag hb) (List.Sublist.refl _) rfl rfl rfl
  | reset b hb =>
      exact fate_broadcast hq (Packet.isW3gs_of_isAction hb) (List.Sublist.refl _) rfl rfl rfl
  | block b hb f =>
      exact fate_broadcast hq (Packet.isW3gs_of_isAction hb) (List.Sublist.refl _) rfl rfl rfl
  | table htable ps hm =>
      obtain ⟨p, hp, hpq⟩ := exists_of_moves hm hq
      refine .moved hp hpq ?_ rfl
      rintro rfl
      cases htable
  | seat sid player hlobby hfree hp _ info _ =>
      obtain ⟨hnew, hpid⟩ := hp.sendAll (s.joinBurst player)
      rw [← hpid] at hq ⊢
      exact fate_seat rfl hlobby (by rw [hpid]; exact hfree.fresh) hnew hq
  | seatFake sid p hlobby _ hfree hp _ info hinfo =>
      exact fate_seatFake (hinfo ▸ Packet.build_isW3gs rfl) hlobby hfree.fresh hp rfl rfl rfl rfl hq
  | host pid _ hpid info hinfo =>
      exact fate_host (hinfo ▸ Packet.build_isW3gs rfl) hpid rfl rfl hq
  | unseat pid r code _ _ _ => exact fate_broadcast hq rfl List.eraseP_sublist rfl rfl rfl
  | unhost _ _ => exact fate_broadcast hq rfl List.eraseP_sublist rfl rfl rfl
  | unfake pid _ _ => exact fate_broadcast hq rfl List.eraseP_sublist rfl rfl rfl
  | restart =>
      obtain ⟨p, hp, rfl⟩ := List.mem_map.1 (show q ∈ s.players.map Player.beginPlaying from hq)
      exact .moved hp .restart (by simp) rfl
  | reap => cases hk
  | begin _ => cases hk
  | loaded _ => cases hk
  | lagCheck => cases hk
  | check => cases hk
  | sendTurn _ _ => cases hk
  | _ => exact .stayed hq rfl

/-- A property of players that every move keeps, and that newcomers and
the virtual host have. -/
theorem Step.forall_players {k : Kind} {P : Player → Prop} (h : Step k s t) (hk : k.fine = true)
    (hmoves : ∀ p ∈ s.players, ∀ q, Moves s k p q → P p → P q)
    (hhear : ∀ p now b seq, P p → P (p.hear now b seq))
    (hnew : s.phase = .lobby → ∀ p, Newcomer p → P p)
    (hhost : ∀ pid name, P (hostPlayer pid name)) (hI : ∀ p ∈ s.players, P p) :
    ∀ q ∈ t.players, P q := by
  intro q hq
  cases h.fate hk hq with
  | stayed hq _ => exact hI q hq
  | @moved p hp hm _ _ => exact hmoves p hp q hm (hI p hp)
  | heard b _ hp he _ =>
      rw [he]
      exact hhear _ _ _ _ (hI _ hp)
  | seated hnew' hlobby _ _ => exact hnew hlobby q hnew'
  | announced hnew' b _ he hlobby _ _ =>
      rw [he]
      exact hhear _ _ _ _ (hnew hlobby _ hnew')
  | hosted pid name he _ =>
      rw [he]
      exact hhost pid name

omit [RustStd] in
/-- A player that is not marked after a move was not before it, unless
the move re-attached it. -/
theorem Moves.left_none {k : Kind} {p q : Player} (h : Moves s k p q)
    (hfull : k ≠ .attachFull p.pid) (hgps : k ≠ .attachGps p.pid) (hleft : q.left = none) :
    p.left = none := by
  -- a send can mark a player as left but never unmarks one
  have hdeliver : ∀ (p : Player) now b via, (p.deliver now b via).left = none → p.left = none := by
    intro p now b via hn
    rcases p.deliver_left now b via with he | he | ⟨-, he⟩
    · exact he.symm.trans hn
    · rw [he] at hn
      cases hn
    · rw [he] at hn
      cases hn
  cases h with
  | air b _ =>
      rcases p.hear_cases s.now b s.airSeq with ⟨-, he⟩ | ⟨hl, -⟩ | ⟨hl, -⟩
      · rwa [he] at hleft
      · exact hl
      · exact hl
  | tell b _ _ =>
      rcases p.receive_cases s.now b with ⟨-, he⟩ | ⟨hl, -⟩ | ⟨hl, -⟩
      · rwa [he] at hleft
      · exact hl
      · exact hl
  | feed =>
      cases p.feeds_feed s.now s.fullHistory with
      | idle _ he => rwa [he] at hleft
      | gone _ _ he => rwa [he] at hleft
      | evicted _ hl _ _ => exact hl
      | fed _ hl _ _ _ _ _ _ _ _ => exact hl
  | note h => exact h.left.symm.trans hleft
  | leave r code _ => cases hleft
  | lagDrop n code _ => cases hleft
  | tooLong _ => cases hleft
  | desync _ => cases hleft
  | timeout =>
      unfold Player.loadingTimeout at hleft
      split at hleft
      · cases hleft
      · exact hleft
  | hold reason code =>
      -- with GProxy the player is held, otherwise marked
      unfold Player.connClosed at hleft
      split at hleft
      · exact hleft
      · split at hleft
        · cases hleft
        · exact hleft
  | expire =>
      rcases p.gproxyTimeout_cases s.now s.cfg.reconnectWait with ⟨-, he⟩ | ⟨_, -, -, he⟩ |
        ⟨_, _, _, -, -, he⟩
      · rwa [he] at hleft
      · rw [he] at hleft
        cases hleft
      · rwa [he] at hleft
  | ack checksum _ =>
      obtain ⟨_, _, he⟩ := p.keepalive_eq s.syncCounter checksum
      rwa [he] at hleft
  | attachFull => exact absurd rfl hfull
  | attachGps => exact absurd rfl hgps
  | _ => exact hleft

omit [RustStd] in
/-- A player with no absence and no mark after a move had none before
it, unless the move re-attached it. -/
theorem Moves.connected {k : Kind} {p q : Player} (h : Moves s k p q)
    (hfull : k ≠ .attachFull p.pid) (hgps : k ≠ .attachGps p.pid) (hleft : q.left = none)
    (hdisc : q.disconnectedSince = none) : p.left = none ∧ p.disconnectedSince = none := by
  cases h with
  | air b _ =>
      -- whoever had left or was away stays so: a packet seats nobody
      rcases p.hear_cases s.now b s.airSeq with ⟨-, he⟩ | ⟨-, -, -, he⟩ | ⟨hl, -, -, -, hd, -⟩
      · rw [he] at hleft hdisc
        exact ⟨hleft, hdisc⟩
      · rw [he] at hleft hdisc
        exact ⟨hleft, hdisc⟩
      · exact ⟨hl, hd⟩
  | tell b _ _ =>
      rcases p.receive_cases s.now b with ⟨-, he⟩ | ⟨-, -, he⟩ | ⟨hl, hd, -⟩
      · rw [he] at hleft hdisc
        exact ⟨hleft, hdisc⟩
      · rw [he] at hleft hdisc
        exact ⟨hleft, hdisc⟩
      · exact ⟨hl, hd⟩
  | feed =>
      cases p.feeds_feed s.now s.fullHistory with
      | idle _ he =>
          rw [he] at hleft hdisc
          exact ⟨hleft, hdisc⟩
      | gone _ _ he =>
          rw [he] at hleft hdisc
          exact ⟨hleft, hdisc⟩
      | evicted _ _ _ he =>
          rw [he] at hleft
          cases hleft
      | fed _ hl _ _ _ _ _ _ _ hend =>
          refine ⟨hl, ?_⟩
          -- the tail of a feed touches the link and the cursor, never the seat
          cases hend with
          | drained _ _ _ hd _ => exact hd.symm.trans hdisc
          | blocked _ _ _ _ hd _ => exact hd.symm.trans hdisc
          | held _ _ _ _ hno _ _ _ => exact hno
          | dropped _ _ _ _ _ hd _ => exact hd.symm.trans hdisc
  | note h => exact ⟨h.left.symm.trans hleft, h.disconnectedSince.symm.trans hdisc⟩
  | leave r code _ => cases hleft
  | lagDrop n code _ => cases hleft
  | tooLong _ => cases hleft
  | timeout =>
      unfold Player.loadingTimeout at hleft hdisc
      split at hleft
      · cases hleft
      · rename_i hstay
        rw [if_neg hstay] at hdisc
        exact ⟨hleft, hdisc⟩
  | hold reason code =>
      -- a GProxy client only starts to be away here; the others are marked as left
      unfold Player.connClosed at hleft hdisc
      split at hdisc
      · rename_i hg
        rw [if_pos hg] at hleft
        exact ⟨hleft, (Option.or_eq_none_iff.1 hdisc).1⟩
      · rename_i hg
        rw [if_neg hg] at hleft
        split at hleft
        · cases hleft
        · rename_i hl
          rw [if_neg hl] at hdisc
          exact ⟨hleft, hdisc⟩
  | expire =>
      rcases p.gproxyTimeout_cases s.now s.cfg.reconnectWait with ⟨-, he⟩ | ⟨_, -, -, he⟩ |
        ⟨_, _, _, -, -, he⟩
      · rw [he] at hleft hdisc
        exact ⟨hleft, hdisc⟩
      · rw [he] at hleft
        cases hleft
      · rw [he] at hleft hdisc
        exact ⟨hleft, hdisc⟩
  | desync _ => cases hleft
  | ack checksum _ =>
      obtain ⟨_, _, he⟩ := p.keepalive_eq s.syncCounter checksum
      rw [he] at hleft hdisc
      exact ⟨hleft, hdisc⟩
  | attachFull => exact absurd rfl hfull
  | attachGps => exact absurd rfl hgps
  | _ => exact ⟨hleft, hdisc⟩

-- ============================================================ who is seated

/-- The player ids at the table. -/
def GameState.pids (s : GameState) : List UInt8 := s.players.map Player.pid

/-- The kinds that bring somebody to the table or take somebody from
it. -/
def Kind.seats : Kind → Bool
  | seat | seatFake | host | unseat | unhost | unfake => true
  | _ => false

section Table

omit [RustStd]

theorem broadcast_pids (s : GameState) (b : Packet) : (s.broadcast b).pids = s.pids := by
  unfold pids
  rw [broadcast_players, List.map_map]
  exact List.map_congr_left fun p _ => (p.kept_hear _ _ _).pid

theorem broadcast?_pids (s : GameState) (b : Option Packet) : (s.broadcast? b).pids = s.pids := by
  cases b with
  | none => rfl
  | some b => exact broadcast_pids s b

theorem sendOthersDirect?_pids (s : GameState) (pid : UInt8) (b : Option Packet) :
    (s.sendOthersDirect? pid b).pids = s.pids := by
  cases b with
  | none => rfl
  | some b =>
      unfold pids
      show (s.players.map fun p => if p.pid = pid then p else p.sendDirect b).map Player.pid = _
      rw [List.map_map]
      refine List.map_congr_left fun p _ => ?_
      dsimp only [Function.comp_apply]
      split <;> rfl

/-- A removal takes one id from the table. -/
theorem mem_pids_removePid {t : PlayerTable} {pid q : UInt8} (hq : q ∈ t.map Player.pid)
    (hne : q ≠ pid) : q ∈ (t.removePid pid).map Player.pid := by
  obtain ⟨p, hp, rfl⟩ := List.mem_map.1 hq
  refine List.mem_map_of_mem ?_
  exact (List.mem_eraseP_of_neg (by simpa using hne)).2 hp

/-- Reaping one player takes its id from the table. -/
theorem reapPlayer_pids {pid : UInt8} (code : Nat) (hs : WellFormed s) (hm : Marked s pid) :
    (s.reapPlayer pid code).pids = (s.players.removePid pid).map Player.pid := by
  obtain ⟨p, r, hfind, hleft, -⟩ := hm.byPid hs
  obtain ⟨t, hsame, -, he⟩ := reapPlayer_eq code hfind hleft
  rw [he]
  dsimp only
  have hpids : ({ t with
      players := t.players.removePid pid, slots := (t.slots.release pid).1
      reaped := t.reaped ++ [(pid, r)] }.broadcast (.playerLeaveOthers pid code)).pids
      = (s.players.removePid pid).map Player.pid := by
    rw [broadcast_pids, ← hsame.players]
    rfl
  split
  · exact (broadcast?_pids _ _).trans hpids
  · exact hpids

end Table

/-- Any other step leaves the ids at the table as they are. -/
theorem Step.pids {k : Kind} (h : Step k s t) (hk : k.fine = true) (hseats : k.seats = false) :
    t.pids = s.pids := by
  cases h with
  | misc h =>
      unfold GameState.pids
      rw [h.players]
  | air b _ | airLag b _ | reset b _ => exact broadcast_pids s b
  | block b _ f => exact broadcast_pids _ b
  | table _ ps hm => exact map_pid_of_moves hm
  | restart =>
      unfold GameState.pids
      show (s.players.map Player.beginPlaying).map Player.pid = _
      rw [List.map_map]
      exact List.map_congr_left fun p _ => rfl
  | seat => cases hseats
  | seatFake => cases hseats
  | host => cases hseats
  | unseat => cases hseats
  | unhost => cases hseats
  | unfake => cases hseats
  | reap => cases hk
  | begin => cases hk
  | loaded => cases hk
  | lagCheck => cases hk
  | check => cases hk
  | sendTurn => cases hk
  | _ => rfl

theorem Does.pids (h : Does (fun k _ => k.fine = true ∧ k.seats = false) s t) :
    t.pids = s.pids := by
  refine Lib.Path.relates (R := fun s t => t.pids = s.pids) (fun _ => rfl) ?_ ?_ h
  · exact fun _ _ _ h₁ h₂ => Eq.trans h₂ h₁
  · exact fun k s t hk hst => hst.pids hk.1 hk.2

omit [RustStd] in
theorem plain_sameSeats : Plain fun k _ => k.fine = true ∧ k.seats = false := by
  intro k hk _
  cases k <;> first | exact ⟨rfl, rfl⟩ | cases hk

omit [RustStd] in
/-- The reaping loop takes the players it is given. -/
theorem reapLoop_pids (l : List (UInt8 × Nat)) (hnd : (l.map Prod.fst).Nodup) (hs : WellFormed s)
    (hm : ∀ g ∈ l, Marked s g.1) {pid : UInt8} :
    pid ∈ (l.foldl (fun s g => s.reapPlayer g.1 g.2) s).pids
      ↔ pid ∈ s.pids ∧ pid ∉ l.map Prod.fst := by
  induction l generalizing s with
  | nil => simp
  | cons g l ih =>
      rw [List.map_cons, List.nodup_cons] at hnd
      have hg := hm g List.mem_cons_self
      have hwf := hs.reapPlayer hg g.2
      have hrest := ih hnd.2 hwf fun g' hg' => by
        refine hg.reapPlayer hs (hm g' (List.mem_cons_of_mem _ hg')) ?_
        intro he
        exact hnd.1 (he ▸ List.mem_map_of_mem hg')
      rw [List.foldl_cons, hrest, reapPlayer_pids g.2 hs hg, List.map_cons, List.mem_cons, not_or,
        ← and_assoc]
      refine and_congr_left fun _ => ?_
      constructor
      · intro h
        refine ⟨(List.eraseP_sublist.map Player.pid).subset h, ?_⟩
        rintro rfl
        exact Lib.key_not_mem_eraseP hs.pids h
      · rintro ⟨h, hne⟩
        exact mem_pids_removePid h hne

/-- The reaper takes exactly the players marked left. -/
theorem reapLeftPlayers_pids (hs : WellFormed s) {pid : UInt8} :
    pid ∈ s.reapLeftPlayers.pids ↔ pid ∈ s.pids ∧ pid ∉ s.gone.map Prod.fst := by
  unfold reapLeftPlayers
  dsimp only
  split
  · rename_i hnone
    simp [hnone]
  obtain ⟨hnd, hm⟩ := gone_marked hs
  have habort : Does (fun k _ => k.fine = true ∧ k.seats = false) s
      { s.abortCountdown with lastPlayerLeftTime := some s.abortCountdown.now } :=
    (does_abortCountdown plain_sameSeats (fun _ => ⟨rfl, rfl⟩) s).trans
      (Does.misc plain_sameSeats (by constructor <;> rfl) (by rfl))
  have hloop : pid ∈ _ ↔ _ := reapLoop_pids s.gone hnd (habort.keeps_wellFormed hs)
    fun g hg => (hm g hg).abortCountdown.of_players rfl
  rw [habort.pids] at hloop
  split
  · rw [(does_beginPlaying plain_sameSeats ⟨rfl, rfl⟩).pids]
    exact hloop
  · exact hloop

omit [RustStd] in
/-- The reaper's list names the players marked left. -/
theorem mem_gone {p : Player} : p.pid ∈ s.gone.map Prod.fst ↔
    ∃ q ∈ s.players, q.pid = p.pid ∧ q.virtualHost = false ∧ q.left.isSome := by
  unfold gone
  rw [List.map_map, List.mem_map]
  constructor
  · rintro ⟨q, hq, hpid⟩
    rw [List.mem_filter, Bool.and_eq_true, Bool.not_eq_true'] at hq
    exact ⟨q, hq.1, hpid, hq.2⟩
  · rintro ⟨q, hq, hpid, hrest⟩
    refine ⟨q, List.mem_filter.2 ⟨hq, ?_⟩, hpid⟩
    rw [hrest.1, hrest.2]
    rfl

end Spectre

/-
The grace of a player whose link has closed.

A player with GProxy is not marked left when its link closes: the time
is noted, and the player keeps its seat until it comes back or the
grace is over. The closing is noticed by the reader of the connection,
by a broadcast, by a personal send, by the feed of a catch-up, and at
last by the reaper of those who did not come back. All but the feed
leave alone an absence that is already noted. The feed takes a player
that is held for one that has no GProxy, and marks it left at the
first tick that finds its cursor armed (`feed_drops_held_player`).

The player also loses its seat when its id is still that of a fake
player, or of a virtual host, that is long gone. In the runs without
either it stays until its grace is over (`reconnect_grace`).
-/
import Spectre.Dangling

namespace Spectre

open GameState

-- ================================================================= statement

/-- The reasons that are a closed link. -/
def LeftReason.forLink : LeftReason → Bool
  | connectionClosed | connClosed _ | catchUpClosed | failedToReconnect => true
  | _ => false

/-- The reasons that are a player who takes too long to read or to
answer. -/
def LeftReason.forSilence : LeftReason → Bool
  | laggedOut | lagging _ => true
  | _ => false

/-- A reason for which this player may be marked left: no closed link,
and no silence either if it was held already. -/
def Player.Excuses (p : Player) (r : LeftReason) : Prop :=
  r.forLink = false ∧ (p.disconnectedSince.isSome → r.forSilence = false)

/-- A time at which the link of this player closed: the one that is
noted, or, if none was at `now`, a later one. -/
def Player.ClosedAt (now : Nat) (p : Player) (since : Nat) : Prop :=
  p.disconnectedSince = some since ∨ (p.disconnectedSince = none ∧ now ≤ since)

/-- `p` as it was at `now` and `q` as it is later are one player with
GProxy: it is held since the same time, or since a time after `now` if
at all, and it is not marked left because of its link. -/
structure Player.Waits (now : Nat) (p q : Player) : Prop where
  pid : q.pid = p.pid
  gproxy : q.gproxy = true
  held : ∀ since, p.disconnectedSince = some since → q.disconnectedSince = some since
  since : ∀ since, q.disconnectedSince = some since → p.ClosedAt now since
  left : ∀ r, q.left = some r → p.Excuses r

/-- What has become of the player `p` of `s` by `t`. -/
inductive Grace (s : GameState) (p : Player) (t : GameState) : Prop
  /-- it is at the table -/
  | seated {q : Player} (hq : q ∈ t.players) (h : p.Waits s.now q)
  /-- its grace is over -/
  | expired {since : Nat} (h : p.ClosedAt s.now since) (hlate : since + t.cfg.reconnectWait ≤ t.now)
  /-- it was removed for another reason -/
  | reaped {r : LeftReason} (h : (p.pid, r) ∈ t.reaped.drop s.reaped.length) (hr : p.Excuses r)

/-- The player can come back: a request with its key, for packets that
its buffer still has, is granted, and puts it on the new connection. -/
def Returnable (s : GameState) (q : Player) : Prop :=
  ∃ b, q.gproxyBuffer = some b ∧ ∀ connId link last, b.firstPacketId ≤ last → last ≤ b.totalSent →
    (s.handleGpsReconnect connId ⟨q.pid, q.reconnectKey, last⟩ link).2 = true
      ∧ ∃ r ∈ (s.handleGpsReconnect connId ⟨q.pid, q.reconnectKey, last⟩ link).1.players,
        r.pid = q.pid ∧ r.connId = connId ∧ r.left = none ∧ r.disconnectedSince = none

/-- The player `q` of `t` is held in `u`: since it was in `t`, or since
the time of `t`; and it is not marked for it. -/
def HeldFrom (t : GameState) (q : Player) (u : GameState) : Prop :=
  ∃ r ∈ u.players, r.pid = q.pid ∧ r.left = q.left
    ∧ r.disconnectedSince = q.disconnectedSince.or (some t.now)

/-- Who finds out that the link of `q` has closed, and what follows. -/
structure NoticesClosing [RustStd] (t : GameState) (q : Player) : Prop where
  /-- the reader of its connection -/
  reader : t.players.byConn q.connId = some q →
    ∀ env reason, HeldFrom t q (t.handleCmd env (.closed q.connId reason))
  /-- a packet for it alone -/
  personal : q.left = none → q.link.next = .closed → ∀ b, HeldFrom t q (t.sendTo q.pid b)
  /-- a packet for all, if it goes out to it at once -/
  broadcast : q.left = none → q.link.next = .closed → q.rejoin = .none → q.catchupCursor = none →
    ∀ b, HeldFrom t q (t.broadcast b)
  /-- the feed, the first time -/
  feed : q.disconnectedSince = none → q.cutOff t.fullHistory = true →
    HeldFrom t q t.pumpRejoinCatchup

/-- A tick of the running game does not find the link closed of the
player `pid`, if it is held, when it feeds its catch-up. -/
def FeedsHeld [RustStd] (pid : UInt8) (s : GameState) : Event → Prop
  | .tick _ => s.phase = .playing → ∀ q ∈ s.tickHead.players, q.pid = pid →
      q.disconnectedSince.isSome → q.cutOff s.tickHead.fullHistory = false
  | _ => True

/-- The player `pid` does not come back in this iteration, the feed
does not find its link closed while it is held, and its id is neither
that of the virtual host nor that of a fake player that is toggled
off. -/
structure AwaitsReturn [RustStd] (pid : UInt8) (s : GameState) (ev : Event) : Prop where
  full : s.fullSeat ev ≠ some pid
  gps : s.gpsSeat ev ≠ some pid
  host : s.virtualHostPid ≠ pid
  fake : s.togglesFake ev = true → s.phase = .lobby → s.fakePlayerPid ≠ some pid
  feed : FeedsHeld pid s ev

-- ===================================================================== moves

namespace Player

variable {now : Nat} {p q r : Player}

/-- A decision of the host or of the player is no closed link. -/
theorem Excuses.of_decided {reason : LeftReason} (h : reason.decided = true) :
    p.Excuses reason := by
  cases reason <;> first | exact ⟨rfl, fun _ => rfl⟩ | cases h

namespace Waits

/-- The player waits for itself. -/
protected theorem refl (hg : p.gproxy = true) (hleft : p.left = none) : p.Waits now p where
  pid := rfl
  gproxy := hg
  held _ h := h
  since _ h := .inl h
  left _ h := nomatch hleft.symm.trans h

/-- A player that was not held is not held by `q` for long. -/
theorem none_of_none (h : p.Waits now q) (hq : q.disconnectedSince = none) :
    p.disconnectedSince = none := by
  cases hp : p.disconnectedSince with
  | none => rfl
  | some since => exact nomatch hq.symm.trans (h.held since hp)

/-- A change of nothing that counts here. -/
theorem of_same (h : p.Waits now q) (hpid : r.pid = q.pid) (hg : r.gproxy = q.gproxy)
    (hd : r.disconnectedSince = q.disconnectedSince) (hl : r.left = q.left) : p.Waits now r where
  pid := hpid.trans h.pid
  gproxy := hg.trans h.gproxy
  held since hp := hd.trans (h.held since hp)
  since since hr := h.since since (hd.symm.trans hr)
  left reason hr := h.left reason (hl.symm.trans hr)

/-- A mark for a reason that is excused. -/
theorem mark (h : p.Waits now q) (reason : LeftReason) (hr : p.Excuses reason)
    (hpid : r.pid = q.pid) (hg : r.gproxy = q.gproxy)
    (hd : r.disconnectedSince = q.disconnectedSince) (hl : r.left = some reason) :
    p.Waits now r where
  pid := hpid.trans h.pid
  gproxy := hg.trans h.gproxy
  held since hp := hd.trans (h.held since hp)
  since since hr := h.since since (hd.symm.trans hr)
  left reason' hr' := by
    rw [hl] at hr'
    exact Option.some.inj hr' ▸ hr

/-- The link turns out to be closed. -/
theorem hold (h : p.Waits now q) {later : Nat} (hnow : now ≤ later) (hpid : r.pid = q.pid)
    (hg : r.gproxy = q.gproxy) (hd : r.disconnectedSince = q.disconnectedSince.or (some later))
    (hl : r.left = q.left) : p.Waits now r where
  pid := hpid.trans h.pid
  gproxy := hg.trans h.gproxy
  held since hp := by
    rw [hd, h.held since hp]
    rfl
  since since hr := by
    rw [hd] at hr
    cases hq : q.disconnectedSince with
    | none =>
        rw [hq, Option.none_or] at hr
        exact .inr ⟨h.none_of_none hq, Option.some.inj hr ▸ hnow⟩
    | some since' =>
        rw [hq, Option.some_or] at hr
        exact h.since since (hq.trans hr)
  left reason hr := h.left reason (hl.symm.trans hr)

/-- A delivery holds the player, or counts a failure. -/
theorem deliver (h : p.Waits now q) {later : Nat} (hnow : now ≤ later) (b : Packet) (via : Via)
    (hd : q.disconnectedSince = none) : p.Waits now (q.deliver later b via) := by
  have hk := q.kept_deliver later b via
  have hnone := h.none_of_none hd
  have hsince : (q.deliver later b via).disconnectedSince = q.disconnectedSince
      ∨ (q.deliver later b via).disconnectedSince = q.disconnectedSince.or (some later) :=
    (q.deliver_disconnectedSince later b via).imp_right And.right
  have hmarks : p.Waits now { q with left := (q.deliver later b via).left } := by
    rcases q.deliver_left later b via with hl | hl | ⟨hg, -⟩
    · exact h.of_same rfl rfl rfl hl
    · exact h.mark .laggedOut ⟨rfl, by simp [hnone]⟩ rfl rfl rfl hl
    · exact nomatch h.gproxy.symm.trans hg
  rcases hsince with hs | hs
  · exact hmarks.of_same hk.pid hk.gproxy hs rfl
  · exact hmarks.hold hnow hk.pid hk.gproxy hs rfl

theorem hear (h : p.Waits now q) {later : Nat} (hnow : now ≤ later) (b : Packet)
    (seq : Option Nat) : p.Waits now (q.hear later b seq) := by
  rcases q.hear_cases later b seq with ⟨-, he⟩ | ⟨-, -, -, he⟩ | ⟨-, -, -, -, hd, he⟩
  · rwa [he]
  · rw [he]
    exact h.of_same rfl rfl rfl rfl
  · rw [he]
    exact (h.of_same (r := q.buffer b) rfl rfl rfl rfl).deliver hnow b _ hd

theorem receive (h : p.Waits now q) {later : Nat} (hnow : now ≤ later) (b : Packet) :
    p.Waits now (q.receive later b) := by
  rcases q.receive_cases later b with ⟨-, he⟩ | ⟨-, -, he⟩ | ⟨-, hd, he⟩
  · rwa [he]
  · rw [he]
    exact h.of_same rfl rfl rfl rfl
  · rw [he]
    exact (h.of_same (r := q.buffer b) rfl rfl rfl rfl).deliver hnow b _ hd

/-- The feed, when it does not find the link of a held player closed. -/
theorem feed (h : p.Waits now q) {later : Nat} (hnow : now ≤ later) (history : FullHistory)
    (hopen : q.disconnectedSince.isSome → q.cutOff history = false) :
    p.Waits now (q.feed later history) := by
  cases q.feeds_feed later history with
  | idle _ he => rwa [he]
  | gone _ _ he =>
      rw [he]
      exact h.of_same rfl rfl rfl rfl
  | evicted _ _ _ he =>
      rw [he]
      exact h.mark .catchUpEvicted ⟨rfl, fun _ => rfl⟩ rfl rfl rfl rfl
  | fed hc hleft hfirst _ hk _ _ _ hroom hend =>
      cases hend with
      | drained _ _ hl hd _ => exact h.of_same hk.pid hk.gproxy hd hl
      | blocked _ _ _ hl hd _ => exact h.of_same hk.pid hk.gproxy hd hl
      | held _ _ _ _ hno hl hd _ =>
          refine h.hold hnow hk.pid hk.gproxy ?_ hl
          rw [hd, hno, Option.none_or]
      | dropped hn hclosed _ hg _ _ _ =>
          -- the sibling paths keep a player that is held already
          rcases hg with hg | hheld
          · exact nomatch h.gproxy.symm.trans hg
          · have hcut := cutOff_of_closed hc hleft hfirst hn hroom hclosed
            exact nomatch (hopen hheld).symm.trans hcut

end Waits

end Player

/-- What a move does to a player that is waited for: the end of the
grace apart, it goes on being waited for. -/
theorem Moves.waits {s : GameState} {k : Kind} {now : Nat} {p q q' : Player} (h : Moves s k q q')
    (hfull : k ≠ .attachFull q.pid) (hgps : k ≠ .attachGps q.pid)
    (hfeed : k = .feed → q.disconnectedSince.isSome → q.cutOff s.fullHistory = false)
    (hnow : now ≤ s.now) (hok : PlayerOk s.now q) (hI : p.Waits now q) :
    p.Waits now q' ∨ ∃ since, p.ClosedAt now since ∧ since + s.cfg.reconnectWait ≤ s.now := by
  cases h with
  | same => exact .inl hI
  | air b _ => exact .inl (hI.hear hnow b _)
  | tell b _ _ => exact .inl (hI.receive hnow b)
  | feed => exact .inl (hI.feed hnow _ (hfeed rfl))
  | note h => exact .inl (hI.of_same h.pid h.gproxy h.disconnectedSince h.left)
  | leave r code hr _ _ => exact .inl (hI.mark r (.of_decided hr) rfl rfl rfl rfl)
  | desync code _ => exact .inl (hI.mark .desync ⟨rfl, fun _ => rfl⟩ rfl rfl rfl rfl)
  | lagDrop n code hd _ =>
      -- the lag screen drops those who are connected only
      refine .inl (hI.mark (.lagging n) ⟨rfl, fun hheld => ?_⟩ rfl rfl rfl rfl)
      rw [hI.none_of_none hd] at hheld
      cases hheld
  | timeout =>
      left
      unfold Player.loadingTimeout
      split
      · exact hI.mark .loadingTimedOut ⟨rfl, fun _ => rfl⟩ rfl rfl rfl rfl
      · exact hI
  | gproxy _ => exact .inl (hI.of_same rfl hI.gproxy.symm rfl rfl)
  | hold reason code _ =>
      left
      unfold Player.connClosed
      rw [if_pos hI.gproxy]
      exact hI.hold hnow rfl rfl rfl rfl
  | expire =>
      rcases q.gproxyTimeout_cases s.now s.cfg.reconnectWait with ⟨-, he⟩ | ⟨since, hs, hlate, -⟩ |
        ⟨_, _, _, -, -, he⟩
      · rw [he]
        exact .inl hI
      · -- who is dropped here has been away for the whole of the wait
        have hle := hok.since since hs
        exact .inr ⟨since, hI.since since hs, by omega⟩
      · rw [he]
        exact .inl (hI.of_same rfl rfl rfl rfl)
  | tooLong _ => exact .inl (hI.mark .historyTooLong ⟨rfl, fun _ => rfl⟩ rfl rfl rfl rfl)
  | ack checksum _ =>
      obtain ⟨_, _, he⟩ := q.keepalive_eq s.syncCounter checksum
      rw [he]
      exact .inl (hI.of_same rfl rfl rfl rfl)
  | attachFull => exact absurd rfl hfull
  | attachGps => exact absurd rfl hgps
  | _ => exact .inl (hI.of_same rfl rfl rfl rfl)

-- ===================================================================== steps

/-- Time goes on, the grace stays as long as it was, and nobody is
forgotten that was reaped. -/
structure Onward (s t : GameState) : Prop where
  now : s.now ≤ t.now
  wait : t.cfg.reconnectWait = s.cfg.reconnectWait
  reaped : s.reaped <+: t.reaped

protected theorem Onward.refl (s : GameState) : Onward s s := ⟨Nat.le_refl _, rfl, List.prefix_rfl⟩

protected theorem Onward.trans {s t u : GameState} (h₁ : Onward s t) (h₂ : Onward t u) :
    Onward s u :=
  ⟨Nat.le_trans h₁.now h₂.now, h₂.wait.trans h₁.wait, h₁.reaped.trans h₂.reaped⟩

/-- Neither the time nor the reaped change. -/
theorem Onward.of_eq {s t : GameState} (hnow : t.now = s.now) (hcfg : t.cfg = s.cfg)
    (hreaped : t.reaped = s.reaped) : Onward s t :=
  ⟨Nat.le_of_eq hnow.symm, by rw [hcfg], hreaped ▸ List.prefix_rfl⟩

/-- What was over, or reaped, stays so. -/
theorem Grace.later {s t u : GameState} {p : Player} (h : Grace s p t) (hon : Onward t u)
    (hseated : ∀ q ∈ t.players, p.Waits s.now q → Grace s p u) : Grace s p u := by
  cases h with
  | seated hq h => exact hseated _ hq h
  | expired h hlate =>
      refine .expired h ?_
      rw [hon.wait]
      exact Nat.le_trans hlate hon.now
  | reaped h hr =>
      obtain ⟨gone, he⟩ := hon.reaped
      refine .reaped ?_ hr
      rw [← he, List.drop_append]
      exact List.mem_append_left _ h

section Loop

variable [RustStd] {s t : GameState}

theorem Step.onward {k : Kind} (h : Step k s t) (hk : k.fine = true) : Onward s t := by
  cases h with
  | misc h => exact ⟨Nat.le_of_eq h.now.symm, h.reconnectWait, h.reaped ▸ List.prefix_rfl⟩
  | air b _ | airLag b _ | reset b _ =>
      exact .of_eq (broadcast_now s b) (broadcast_cfg s b) (broadcast_reaped s b)
  | block b _ f =>
      exact .of_eq (broadcast_now _ b) (broadcast_cfg _ b) (broadcast_reaped _ b)
  | seat sid player _ _ _ _ info _ =>
      obtain ⟨_, he⟩ := sendOthersDirect?_eq { s with
        slots := (s.slots.occupySlot sid player.pid).1
        players := s.players ++ [(s.joinBurst player).foldl Player.sendDirect player] }
        player.pid info
      rw [he]
      exact .of_eq rfl rfl rfl
  | seatFake sid p _ _ _ _ _ info _ =>
      obtain ⟨_, _, _, he⟩ := broadcast?_eq { s with
        players := s.players ++ [p], slots := (s.slots.occupySlot sid p.pid).1
        fakePlayerPid := some p.pid } info
      rw [he]
      exact .of_eq rfl rfl rfl
  | host pid _ _ info _ =>
      obtain ⟨_, _, _, he⟩ := s.broadcast?_eq info
      rw [he]
      exact .of_eq rfl rfl rfl
  | unseat pid r code _ _ _ =>
      refine ⟨Nat.le_of_eq (by rw [broadcast_now]), by rw [broadcast_cfg], ?_⟩
      -- the reaper adds to its list and takes nothing from it
      rw [broadcast_reaped]
      exact List.prefix_append _ _
  | unhost | unfake =>
      exact .of_eq (broadcast_now _ _) (broadcast_cfg _ _) (broadcast_reaped _ _)
  | limit n _ => exact ⟨Nat.le_refl _, rfl, List.prefix_rfl⟩
  | clock ms => exact ⟨Nat.le_add_right _ _, rfl, List.prefix_rfl⟩
  | reap => cases hk
  | begin => cases hk
  | loaded => cases hk
  | lagCheck => cases hk
  | check => cases hk
  | sendTurn => cases hk
  | _ => exact .of_eq rfl rfl rfl

/-- How a player leaves the table: reaped, or for the id of the virtual
host or of the fake player. -/
theorem Step.goes {k : Kind} {pid : UInt8} (h : Step k s t) (hk : k.fine = true)
    (hpid : pid ∈ s.pids) (hgone : pid ∉ t.pids) :
    (∃ p r, s.players.byPid pid = some p ∧ p.left = some r ∧ t.reaped = s.reaped ++ [(pid, r)])
      ∨ (k = .unhost ∧ s.virtualHostPid = pid) ∨ (k = .unfake ∧ s.fakePlayerPid = some pid) := by
  by_cases hremoves : k = .unseat ∨ k = .unhost ∨ k = .unfake
  · cases h with
    | unseat pid' r code hfind hleft _ =>
        rw [broadcast_pids] at hgone
        by_cases he : pid = pid'
        · subst he
          exact .inl ⟨_, r, hfind, hleft, broadcast_reaped _ _⟩
        · exact absurd (mem_pids_removePid hpid he) hgone
    | unhost _ _ =>
        rw [broadcast_pids] at hgone
        by_cases he : pid = s.virtualHostPid
        · exact .inr (.inl ⟨rfl, he.symm⟩)
        · exact absurd (mem_pids_removePid hpid he) hgone
    | unfake pid' _ hfake =>
        rw [broadcast_pids] at hgone
        by_cases he : pid = pid'
        · exact .inr (.inr ⟨rfl, he ▸ hfake⟩)
        · exact absurd (mem_pids_removePid hpid he) hgone
    | misc _ hb => rcases hremoves with rfl | rfl | rfl <;> cases hb
    | table htable _ _ => rcases hremoves with rfl | rfl | rfl <;> cases htable
    | _ => simp at hremoves
  · rw [not_or, not_or] at hremoves
    exact absurd ((h.tracks hk hremoves.1 hremoves.2.1 hremoves.2.2).pids pid hpid) hgone

/-- What has become of a player that is still at the table. -/
theorem Step.stayer {k : Kind} {q : Player} (h : Step k s t) (hk : k.fine = true)
    (hs : WellFormed s) (hq : q ∈ s.players) (hpid : q.pid ∈ t.pids) :
    ∃ q' ∈ t.players, q' = q ∨ Moves s k q q' ∨ Moves s .air q q' := by
  obtain ⟨q', hq', he⟩ := List.mem_map.1 hpid
  refine ⟨q', hq', ?_⟩
  have hsame : ∀ p ∈ s.players, p.pid = q'.pid → p = q := fun p hp hpp =>
    List.inj_on_of_nodup_map hs.pids hp hq (hpp.trans he)
  cases h.fate hk hq' with
  | stayed hold _ => exact .inl (hsame q' hold rfl)
  | moved hp hm _ _ => exact .inr (.inl (hsame _ hp hm.identity.1.symm ▸ hm))
  | @heard p b hb hp hhear _ =>
      have hp' := hsame p hp (by rw [hhear, (p.kept_hear _ _ _).pid])
      right; right
      rw [hhear, hp']
      exact .air b hb
  | seated _ _ hnew _ => exact absurd he.symm (hnew q hq)
  | announced _ _ _ _ _ hnew _ => exact absurd he.symm (hnew q hq)
  | hosted pid name hhost hnew =>
      rw [hhost] at he
      exact absurd he.symm (hnew q hq)

/-- Every step in pieces; the player `pid` is not re-attached, not
removed for another's id, and not found cut off while it is held. -/
def awaitingReturn (pid : UInt8) (k : Kind) (s : GameState) : Prop :=
  k.fine = true ∧ match k with
    | .attachFull pid' | .attachGps pid' => pid' ≠ pid
    | .unhost => s.virtualHostPid ≠ pid
    | .unfake => s.fakePlayerPid ≠ some pid
    | .feed => ∀ q ∈ s.players, q.pid = pid → q.disconnectedSince.isSome →
        q.cutOff s.fullHistory = false
    | _ => True

/-- A step keeps the player waiting, ends its grace, or removes it for
a reason that it has been marked with. -/
theorem Step.grace {k : Kind} {s₀ : GameState} {p : Player} (h : Step k s t)
    (hk : awaitingReturn p.pid k s) (hs : WellFormed s) (hon : Onward s₀ s) (hI : Grace s₀ p s) :
    Grace s₀ p t := by
  obtain ⟨hfine, hguard⟩ := hk
  have hstep := h.onward hfine
  refine hI.later hstep fun q hq hw => ?_
  have of_waits : ∀ {q' : Player}, q' ∈ t.players → (p.Waits s₀.now q' ∨
      ∃ since, p.ClosedAt s₀.now since ∧ since + s.cfg.reconnectWait ≤ s.now) → Grace s₀ p t := by
    rintro q' hq' (hw' | ⟨since, hsince, hlate⟩)
    · exact .seated hq' hw'
    · refine .expired hsince ?_
      rw [hstep.wait]
      exact Nat.le_trans hlate hstep.now
  -- either the player still sits there and waits, or it was just reaped
  by_cases hstays : q.pid ∈ t.pids
  · obtain ⟨q', hq', he | hm | hm⟩ := h.stayer hfine hs hq hstays
    · exact .seated (he ▸ hq') hw
    · have hfull : k ≠ .attachFull q.pid := by
        rintro rfl
        exact hguard hw.pid
      have hgps : k ≠ .attachGps q.pid := by
        rintro rfl
        exact hguard hw.pid
      have hfeed : k = .feed → q.disconnectedSince.isSome → q.cutOff s.fullHistory = false := by
        rintro rfl
        exact hguard q hq hw.pid
      exact of_waits hq' (hm.waits hfull hgps hfeed hon.now (hs.players q hq) hw)
    · exact of_waits hq' (hm.waits (by simp) (by simp) (by simp) hon.now (hs.players q hq) hw)
  · rcases h.goes hfine (List.mem_map_of_mem hq) hstays with ⟨q', r, hfind, hleft, hreaped⟩ |
      ⟨rfl, hhost⟩ | ⟨rfl, hfake⟩
    · -- the one who was taken off the table is the player followed
      have hq' : q' = q := by
        rw [show s.players.byPid q.pid = some q from Lib.find?_key_of_mem hs.pids hq] at hfind
        exact (Option.some.inj hfind).symm
      refine .reaped (r := r) ?_ (hw.left r (hq' ▸ hleft))
      rw [hreaped, List.drop_append_of_le_length hon.reaped.length_le, ← hw.pid]
      exact List.mem_append_right _ (List.mem_singleton_self _)
    · exact absurd (hhost.trans hw.pid) hguard
    · exact absurd (hfake.trans (congrArg some hw.pid)) hguard

-- ============================================================= one iteration

theorem admits_awaitingReturn {pid : UInt8} {ev : Event} (hC : AwaitsReturn pid s ev) :
    Admits (awaitingReturn pid) s ev := by
  have hguards : Guards (awaitingReturn pid) s ev :=
    { phase := fun _ => ⟨rfl, trivial⟩
      slots := fun _ _ _ => ⟨rfl, trivial⟩
      vacate := fun _ _ _ _ _ _ => ⟨rfl, trivial⟩
      limit := fun _ => ⟨rfl, trivial⟩
      seat := fun _ _ _ _ _ _ _ => ⟨rfl, trivial⟩
      bounce := fun _ _ => ⟨rfl, trivial⟩
      seatFake := fun _ _ _ _ => ⟨rfl, trivial⟩
      token := fun _ _ _ _ _ _ _ => ⟨rfl, trivial⟩
      host := fun _ _ => ⟨rfl, trivial⟩
      unhost := fun t ht _ => ⟨rfl, fun he => hC.host (ht.virtualHostPid.symm.trans he)⟩
      unfake := fun htoggle hlobby t ht =>
        ⟨rfl, fun he => hC.fake htoggle hlobby (ht.fakePlayerPid.symm.trans he)⟩
      rehost := fun _ _ _ => ⟨rfl, trivial⟩
      record := fun _ _ _ => ⟨rfl, trivial⟩
      attachFull := fun pid' hseat _ _ _ => ⟨rfl, fun he => hC.full (he ▸ hseat)⟩
      attachGps := fun pid' hseat _ _ _ _ => ⟨rfl, fun he => hC.gps (he ▸ hseat)⟩
      ack := fun _ _ _ _ _ _ _ _ _ => ⟨rfl, trivial⟩
      queue := fun _ _ => ⟨rfl, trivial⟩
      cache := fun _ _ => ⟨rfl, trivial⟩
      feed := fun skipped hev hplay =>
        ⟨rfl, (hev ▸ hC.feed : FeedsHeld pid s (.tick skipped)) hplay⟩
      timeout := fun _ _ _ => ⟨rfl, trivial⟩ }
  refine admits_fine ?_ hguards fun t ht hloading => ⟨rfl, fun he => hC.host ?_⟩
  · intro k hfine hguarded t
    refine ⟨hfine, ?_⟩
    cases k with
    | attachFull | attachGps | unhost | unfake | feed => cases hguarded
    | _ => trivial
  · rw [← (tickHead_framed s).virtualHostPid, ← ht.virtualHostPid]
    exact he

/-- An iteration in which the player does not come back. -/
theorem step_grace {s₀ : GameState} {p : Player} {ev : Event} (hs : WellFormed s) (hev : ev.Sound)
    (hC : AwaitsReturn p.pid s ev) (hon : Onward s₀ s) (hI : Grace s₀ p s) :
    Onward s₀ (s.step ev) ∧ Grace s₀ p (s.step ev) := by
  have hpath := does_step hs hev (admits_awaitingReturn hC)
  refine (Lib.Path.preserves (I := fun t => WellFormed t ∧ Onward s₀ t ∧ Grace s₀ p t) ?_ hpath
    ⟨hs, hon, hI⟩).2
  rintro k t u hk hst ⟨ht, hon, hI⟩
  exact ⟨hst.keeps_wellFormed ht, hon.trans (hst.onward hk.1), hst.grace hk ht hon hI⟩

omit [RustStd] in
/-- A player at the table that uses GProxy can come back. -/
theorem WellFormed.returnable {q : Player} (hs : WellFormed s) (hq : q ∈ s.players)
    (hg : q.gproxy = true) : Returnable s q := by
  obtain ⟨b, hb⟩ := Option.isSome_iff_exists.1 ((hs.players q hq).buffered.1 hg)
  refine ⟨b, hb, fun connId link last hfirst hlast => ?_⟩
  have hfind : s.players.byPid q.pid = some q := Lib.find?_key_of_mem hs.pids hq
  let replay := b.ring.kept.drop (last - b.firstPacketId)
  have hreplay : b.replayFrom last = some replay := if_neg (by omega)
  have hgrant : s.handleGpsReconnect connId ⟨q.pid, q.reconnectKey, last⟩ link
      = ({ s with players := s.players.modifyPid q.pid fun p =>
          p.attachGps connId link b.totalSent replay }, true) := by
    simp [handleGpsReconnect, hfind, hg, hb, hreplay]
  obtain ⟨link', he⟩ := q.attachGps_eq connId link b.totalSent replay
  have hback := PlayerTable.byPid_attachGps hfind connId link b.totalSent replay
  rw [hgrant]
  refine ⟨rfl, _, List.mem_of_find?_eq_some hback, ?_⟩
  rw [he]
  exact ⟨rfl, rfl, rfl, rfl⟩

omit [RustStd] in
/-- A send that finds the link of a GProxy player closed holds it. -/
theorem deliver_holds {q : Player} (hg : q.gproxy = true) (hclosed : q.link.next = .closed)
    (b : Packet) (via : Via) :
    (q.deliver t.now b via).pid = q.pid ∧ (q.deliver t.now b via).left = q.left
      ∧ (q.deliver t.now b via).disconnectedSince = q.disconnectedSince.or (some t.now) := by
  rcases q.deliver_cases t.now b via with ⟨hroom, -⟩ | ⟨hfull, -⟩ | ⟨-, he⟩
  · exact nomatch hclosed.symm.trans hroom
  · exact nomatch hclosed.symm.trans hfull
  · rw [he]
    unfold Player.linkClosed
    rw [if_pos hg]
    exact ⟨rfl, rfl, rfl⟩

omit [RustStd] in
/-- An absence that is noted stays as it is. -/
theorem held_stays {q r : Player} (hd : q.disconnectedSince.isSome)
    (hr : r.disconnectedSince = q.disconnectedSince) :
    r.disconnectedSince = q.disconnectedSince.or (some t.now) := by
  obtain ⟨since, hsince⟩ := Option.isSome_iff_exists.1 hd
  rw [hr, hsince, Option.some_or]

/-- Whoever finds out that the link of a GProxy player has closed holds
it and does not mark it. -/
theorem WellFormed.noticesClosing {q : Player} (hs : WellFormed t) (hq : q ∈ t.players)
    (hg : q.gproxy = true) : NoticesClosing t q where
  reader hfind env reason := by
    have hfound : (t.forgetFull q.connId).players.byConn q.connId = some q := hfind
    have hclosed : (t.handleConnClosed q.connId reason).players
        = t.players.modifyConn q.connId fun p =>
          p.connClosed t.now reason (t.leaveCode leaveDisconnect) := by
      unfold handleConnClosed
      dsimp only
      rw [hfound, Option.isSome_some, if_pos rfl]
      rfl
    have hmem : q.connClosed t.now reason (t.leaveCode leaveDisconnect)
        ∈ (t.handleConnClosed q.connId reason).players := by
      rw [hclosed]
      exact Lib.mem_updateFirst_of_find? hfind
    refine ⟨_, hmem, ?_⟩
    unfold Player.connClosed
    rw [if_pos hg]
    exact ⟨rfl, rfl, rfl⟩
  personal hleft hclosed b := by
    have hmem : q.receive t.now b ∈ (t.sendTo q.pid b).players :=
      Lib.mem_updateFirst_of_find? (Lib.find?_key_of_mem hs.pids hq)
    refine ⟨_, hmem, ?_⟩
    rcases q.receive_cases t.now b with ⟨hsome, -⟩ | ⟨-, hd, he⟩ | ⟨-, -, he⟩
    · rw [hleft] at hsome
      cases hsome
    · rw [he]
      exact ⟨rfl, rfl, held_stays hd rfl⟩
    · rw [he]
      exact deliver_holds (q := q.buffer b) hg hclosed b .personal
  broadcast hleft hclosed hrejoin hcursor b := by
    have hmem : q.hear t.now b t.airSeq ∈ (t.broadcast b).players := by
      rw [broadcast_players]
      exact List.mem_map_of_mem hq
    have hvirtual : q.virtualHost = false := by
      -- the virtual host does not use GProxy
      cases hv : q.virtualHost with
      | false => rfl
      | true => exact nomatch hg.symm.trans ((hs.players q hq).host hv).2.2.1
    refine ⟨_, hmem, ?_⟩
    rcases q.hear_cases t.now b t.airSeq with ⟨hout, -⟩ | ⟨-, -, hwhy, he⟩ | ⟨-, -, -, -, -, he⟩
    · rcases hout with hsome | hv
      · rw [hleft] at hsome
        cases hsome
      · exact nomatch hvirtual.symm.trans hv
    · rw [he]
      rcases hwhy with hne | hsome | hd
      · exact absurd hrejoin hne
      · rw [hcursor] at hsome
        cases hsome
      · exact ⟨rfl, rfl, held_stays hd rfl⟩
    · rw [he]
      exact deliver_holds (q := q.buffer b) hg hclosed b (.live t.airSeq)
  feed hd hcut := by
    have hmem : q.feed t.now t.fullHistory ∈ t.pumpRejoinCatchup.players := List.mem_map_of_mem hq
    refine ⟨_, hmem, ?_⟩
    obtain ⟨c, n, hc, hleft, hfirst, hn, hroom, hclosed⟩ := Player.closed_of_cutOff hcut
    -- of the ends of a feed only this one meets the closed queue
    cases q.feeds_feed t.now t.fullHistory with
    | idle hnone => exact nomatch hc.symm.trans hnone
    | gone _ hsome =>
        rw [hleft] at hsome
        cases hsome
    | evicted hc' _ hev =>
        obtain rfl := Option.some.inj (hc.symm.trans hc')
        omega
    | @fed _ m hc' _ _ _ hk _ _ _ hroom' hend =>
        obtain rfl := Option.some.inj (hc.symm.trans hc')
        cases hend with
        | drained hall =>
            rw [hall] at hroom'
            exact nomatch hclosed.symm.trans (hroom' n hn)
        | blocked _ hfull =>
            rcases Nat.lt_trichotomy m n with hlt | rfl | hlt
            · exact nomatch hfull.symm.trans (hroom m hlt)
            · exact nomatch hfull.symm.trans hclosed
            · exact nomatch hclosed.symm.trans (hroom' n hlt)
        | held _ _ _ _ _ hl hsince =>
            refine ⟨hk.pid, hl, ?_⟩
            rw [hsince, hd, Option.none_or]
        | dropped _ _ _ hwhy =>
            rcases hwhy with hno | hsome
            · exact nomatch hg.symm.trans hno
            · rw [hd] at hsome
              cases hsome

end Loop

section Runs

open Scenario

instance (pid : UInt8) (s : GameState) (ev : Event) : Decidable (FeedsHeld pid s ev) :=
  match ev with
  | .tick _ => inferInstanceAs (Decidable (s.phase = .playing → ∀ q ∈ s.tickHead.players,
      q.pid = pid → q.disconnectedSince.isSome → q.cutOff s.tickHead.fullHistory = false))
  | .elapse _ | .cmd .. => inferInstanceAs (Decidable True)

theorem awaitsReturn_iff (pid : UInt8) (s : GameState) (ev : Event) :
    (s.fullSeat ev ≠ some pid ∧ s.gpsSeat ev ≠ some pid ∧ s.virtualHostPid ≠ pid
      ∧ (s.togglesFake ev = true → s.phase = .lobby → s.fakePlayerPid ≠ some pid)
      ∧ FeedsHeld pid s ev) ↔ AwaitsReturn pid s ev :=
  ⟨fun h => ⟨h.1, h.2.1, h.2.2.1, h.2.2.2.1, h.2.2.2.2⟩,
    fun h => ⟨h.full, h.gps, h.host, h.fake, h.feed⟩⟩

instance (pid : UInt8) (s : GameState) (ev : Event) : Decidable (AwaitsReturn pid s ev) :=
  decidable_of_iff _ (awaitsReturn_iff pid s ev)

/-- Two clients play; the second uses GProxy and its connection
breaks. -/
def brokenGame : List Event :=
  twoPlay PlayerLink.drained PlayerLink.drained ++ [hello 2, .elapse 100, .tick 0, closed 2]

/-- A minute passes, with a turn at the end of it. -/
def minute : List Event := [.elapse 60000, .tick 0]

/-- The client restarts, comes back for a FULL rejoin and has loaded,
and then its new connection breaks too. -/
def heldRejoiner : List Event :=
  brokenGame ++ [connect 3 (closingAfter 6), full 3 2, join 3 (txt "bob"), mapReady 3, loaded 3,
    .elapse 10, closed 3]

/-- The fake player of a lobby is kicked, the client that joins next
has its id, and its connection breaks. -/
def heldHeir : List Event :=
  [connect 1 PlayerLink.drained, join 1 (txt "ann"), cmd .toggleFakePlayer,
    say 1 1 (txt "!kick FakePlayer"), connect 2 PlayerLink.drained, join 2 (txt "bob"), hello 2,
    closed 2]

end Runs

end Spectre

/-
The catch-up feed and the switch to live broadcasts.

A player that comes back from a cold restart is fed the history from
its cursor on, as much at a time as its queue has room for, while the
game goes on broadcasting. `CatchUp` says what the queue carries at any
moment of such a game: the log from the first cursor to the present
one, and — once the feed has reached the end of the log — the
broadcasts that found room, from that very position on. There is no
overlap and no gap at the switch, whatever the interleaving, the
capacity of the history and the schedule of the queue.
-/
import Spectre.Scenario

namespace Spectre

open GameState

/-- What happens to a running game while a player catches up. -/
inductive FeedOp where
  | broadcast (b : Packet)
  | pump
  | elapse (ms : Nat)

/-- One such operation. -/
def GameState.feedOp (s : GameState) : FeedOp → GameState
  | .broadcast b => s.broadcast b
  | .pump => s.pumpRejoinCatchup
  | .elapse ms => { s with now := s.now + ms }

/-- An interleaving of them. -/
def GameState.feedOps (s : GameState) (ops : List FeedOp) : GameState := ops.foldl feedOp s

/-- Broadcasts offered to a queue one by one, the first under number
`n` at try `t`. -/
def liveFrom (finds : Nat → Found) (t n : Nat) (l : List Packet) : List Sent :=
  Player.offered finds (List.range' t l.length) n l

@[simp] theorem liveFrom_nil (finds : Nat → Found) (t n : Nat) : liveFrom finds t n [] = [] := rfl

theorem liveFrom_concat (finds : Nat → Found) (t n : Nat) (l : List Packet) (b : Packet) :
    liveFrom finds t n (l ++ [b]) = liveFrom finds t n l
      ++ (if finds (t + l.length) = .room then [⟨b, .live (some (n + l.length))⟩] else []) := by
  unfold liveFrom
  rw [List.length_append, List.length_singleton, List.range'_concat, Nat.one_mul,
    Player.offered_concat finds List.length_range']

/-- The packets numbered `m` to `n - 1`. -/
def span (log : List Packet) (m n : Nat) : List Packet := (log.drop m).take (n - m)

/-- A span of a log is a span of the longer log. -/
theorem span_concat {log : List Packet} {m n : Nat} (h : n ≤ log.length) (b : Packet) :
    span (log ++ [b]) m n = span log m n := by
  unfold span
  by_cases hm : m ≤ log.length
  · rw [List.drop_append_of_le_length hm, List.take_append_of_le_length]
    rw [List.length_drop]
    omega
  · rw [show n - m = 0 by omega, List.take_zero, List.take_zero]

/-- A longer log has a longer last span. -/
theorem span_last_concat {log : List Packet} {m : Nat} (h : m ≤ log.length) (b : Packet) :
    span (log ++ [b]) m (log ++ [b]).length = span log m log.length ++ [b] := by
  unfold span
  rw [List.drop_append_of_le_length h, ← List.length_drop, ← List.length_drop, List.take_length,
    List.drop_append_of_le_length h, List.take_length]

theorem span_length {log : List Packet} {m n : Nat} (h : n ≤ log.length) :
    (span log m n).length = n - m := by
  unfold span
  rw [List.length_take, List.length_drop]
  omega

/-- Two spans that meet are one. -/
theorem span_append {log : List Packet} {c m n : Nat} (hc : c ≤ m) (hm : m ≤ n) :
    span log c m ++ span log m n = span log c n := by
  unfold span
  rw [show n - c = (m - c) + (n - m) by omega, List.take_add, List.drop_drop,
    show c + (m - c) = m by omega]

/-- Where a player stands that was at cursor `c` on link `l`. The log
has grown to `log`; the queue carries what it carried, the history fed
from `c` on, and what was broadcast live after that. -/
inductive CatchUp (l : PlayerLink) (c : Nat) (log : List Packet) (q : Player) : Prop
  /-- the cursor is armed at `k`: the packets `c` to `k - 1` were sent -/
  | armed {k : Nat} (hcursor : q.catchupCursor = some k) (hck : c ≤ k) (hk : k ≤ log.length)
      (hleft : q.left = none) (hdisc : q.disconnectedSince = none)
      (hsent : q.link.sent = l.sent ++ Player.fed c (span log c k))
  /-- the feed reached the end of the log at `m`, and every broadcast
  since was offered once, in order -/
  | level {m t : Nat} (hcursor : q.catchupCursor = none) (hcm : c ≤ m) (hm : m ≤ log.length)
      (hleft : q.left = none) (hdisc : q.disconnectedSince = none)
      (htries : q.link.tries = t + (log.length - m))
      (hsent : q.link.sent = l.sent ++ Player.fed c (span log c m)
        ++ liveFrom l.finds t m (span log m log.length))
  /-- the player was marked left or the link was found closed; nothing
  was sent after number `n - 1` -/
  | stopped {m n t : Nat} (hcursor : q.catchupCursor = none) (hcm : c ≤ m) (hmn : m ≤ n)
      (hn : n ≤ log.length)
      (hwhy : q.left.isSome ∨ q.disconnectedSince.isSome ∧ ∃ i < q.link.tries, l.finds i = .closed)
      (hsent : q.link.sent = l.sent ++ Player.fed c (span log c m)
        ++ liveFrom l.finds t m (span log m n))

/-- A player that is past the rejoin handshake, on the schedule of link
`l`. -/
structure OnLink (l : PlayerLink) (q : Player) : Prop where
  virtualHost : q.virtualHost = false
  rejoin : q.rejoin = .none
  finds : q.link.finds = l.finds

namespace CatchUp

variable {l : PlayerLink} {c : Nat} {log : List Packet} {q : Player}

/-- After the switch the queue carries one more offer, whatever it
found. -/
theorem offered_sent {m t : Nat} {b : Packet} (hm : m ≤ log.length)
    (hfinds : q.link.finds = l.finds)
    (htries : q.link.tries = t + (log.length - m))
    (hsent : q.link.sent = l.sent ++ Player.fed c (span log c m)
      ++ liveFrom l.finds t m (span log m log.length)) :
    (q.link.push ⟨b, .live (some log.length)⟩).sent
      = l.sent ++ Player.fed c (span (log ++ [b]) c m)
        ++ liveFrom l.finds t m (span (log ++ [b]) m (log ++ [b]).length) := by
  rw [span_concat hm, span_last_concat hm, liveFrom_concat, span_length (Nat.le_refl _), ← htries,
    show m + (log.length - m) = log.length by omega, ← hfinds,
    show q.link.finds q.link.tries = q.link.next from rfl]
  by_cases hnext : q.link.next = .room
  · rw [PlayerLink.push_sent_room _ hnext, if_pos hnext, hsent, ← hfinds, List.append_assoc]
  · rw [PlayerLink.push_sent_blocked _ hnext, if_neg hnext, List.append_nil, hsent, ← hfinds]

/-- A broadcast in the running game, seen by the player. -/
theorem hear (h : CatchUp l c log q) (hq : OnLink l q) (now : Nat) (b : Packet) :
    CatchUp l c (log ++ [b]) (q.hear now b (some log.length)) := by
  cases h with
  | @armed k hcursor hck hk hleft hdisc hsent =>
      -- the packet waits in the log
      have he : q.hear now b (some log.length) = q.buffer b := by
        rcases q.hear_cases now b (some log.length) with ⟨hgone, -⟩ | ⟨-, -, -, he⟩ |
          ⟨-, -, -, hno, -⟩
        · simp [hleft, hq.virtualHost] at hgone
        · exact he
        · rw [hcursor] at hno
          cases hno
      rw [he]
      refine .armed (k := k) hcursor hck ?_ hleft hdisc ?_
      · rw [List.length_append]
        omega
      · rw [span_concat hk]
        exact hsent
  | @level m t hcursor hcm hm hleft hdisc htries hsent =>
      have he : q.hear now b (some log.length) = (q.buffer b).deliver now b
        (.live (some log.length)) := by
        rcases q.hear_cases now b (some log.length) with ⟨hgone, -⟩ | ⟨-, -, hwhy, -⟩ |
          ⟨-, -, -, -, -, he⟩
        · simp [hleft, hq.virtualHost] at hgone
        · simp [hcursor, hdisc, hq.rejoin] at hwhy
        · exact he
      rw [he]
      obtain ⟨-, hcur, hlink⟩ := (q.buffer b).deliver_fields now b (.live (some log.length))
      have hlen : (log ++ [b]).length = log.length + 1 := by
        rw [List.length_append, List.length_singleton]
      have hsent' := offered_sent (b := b) hm hq.finds htries hsent
      have hstop : ∀ r, ((q.buffer b).deliver now b (.live (some log.length))).left = some r →
          CatchUp l c (log ++ [b]) ((q.buffer b).deliver now b (.live (some log.length))) := by
        intro r hr
        refine .stopped (m := m) (n := (log ++ [b]).length) (t := t) (hcur.trans hcursor)
          hcm (by omega)
          (Nat.le_refl _) (.inl ?_) ?_
        · rw [hr]
          rfl
        · rw [hlink]
          exact hsent'
      have hon : ((q.buffer b).deliver now b (.live (some log.length))).left = none →
          ((q.buffer b).deliver now b (.live (some log.length))).disconnectedSince = none →
          CatchUp l c (log ++ [b]) ((q.buffer b).deliver now b (.live (some log.length))) := by
        intro hl hd
        refine .level (m := m) (t := t) (hcur.trans hcursor) hcm (by omega) hl hd ?_ ?_
        · rw [hlink]
          show q.link.tries + 1 = _
          omega
        · rw [hlink]
          exact hsent'
      rcases (q.buffer b).deliver_cases now b (.live (some log.length)) with ⟨-, hd⟩ | ⟨-, hd⟩ |
        ⟨hnext, hd⟩
      · refine hon ?_ ?_
        · rw [hd]
          exact hleft
        · rw [hd]
          exact hdisc
      · -- at the threshold of failed sends the player is dropped
        cases hl : ((q.buffer b).deliver now b (.live (some log.length))).left with
        | none =>
            refine hon hl ?_
            rw [hd]
            exact hdisc
        | some r => exact hstop r hl
      · cases hg : q.gproxy with
        | true =>
            have hd' : ((q.buffer b).deliver now b (.live (some log.length))).disconnectedSince
                = some now := by
              rw [hd, Player.linkClosed_gproxy (by exact hg)]
              show q.disconnectedSince.or (some now) = some now
              rw [hdisc, Option.none_or]
            refine .stopped (m := m) (n := (log ++ [b]).length) (t := t) (hcur.trans hcursor) hcm
              (by omega) (Nat.le_refl _) (.inr ⟨?_, q.link.tries, ?_, ?_⟩) ?_
            · rw [hd']
              rfl
            · rw [hlink]
              exact Nat.lt_succ_self _
            · rw [← hq.finds]
              exact hnext
            · rw [hlink]
              exact hsent'
        | false =>
            refine hstop .connectionClosed ?_
            rw [hd, Player.linkClosed_plain (by exact hg)]
  | @stopped m n t hcursor hcm hmn hn hwhy hsent =>
      have he : q.hear now b (some log.length) = q ∨ q.hear now b (some log.length) = q.buffer
        b := by
        rcases q.hear_cases now b (some log.length) with ⟨-, he⟩ | ⟨-, -, -, he⟩ |
          ⟨hleft, -, -, -, hdisc, -⟩
        · exact .inl he
        · exact .inr he
        · simp [hleft, hdisc] at hwhy
      have hlog : span (log ++ [b]) c m = span log c m ∧ span (log ++ [b]) m n = span log m n :=
        ⟨span_concat (by omega) b, span_concat hn b⟩
      have hn' : n ≤ (log ++ [b]).length := by
        rw [List.length_append]
        omega
      rcases he with he | he
      · rw [he]
        refine .stopped (m := m) (n := n) (t := t) hcursor hcm hmn hn' hwhy ?_
        rw [hlog.1, hlog.2]
        exact hsent
      · rw [he]
        refine .stopped (m := m) (n := n) (t := t) hcursor hcm hmn hn' hwhy ?_
        rw [hlog.1, hlog.2]
        exact hsent

/-- A pump, seen by the player. -/
theorem feed (h : CatchUp l c log q) (hq : OnLink l q) (now : Nat) {history : FullHistory}
    (hlog : history.log = log) : CatchUp l c log (q.feed now history) := by
  cases q.feeds_feed now history with
  | idle _ he => rwa [he]
  | gone hc hleft _ =>
      cases h with
      | armed _ _ _ hl _ _ => simp [hl] at hleft
      | level hcursor => simp [hcursor] at hc
      | stopped hcursor => simp [hcursor] at hc
  | @evicted k hc hleft hev he =>
      cases h with
      | @armed k' hcursor hck hk hl hdisc hsent =>
          rw [he]
          refine .stopped (m := k') (n := k') (t := 0) rfl hck (Nat.le_refl _) hk (.inl rfl) ?_
          rw [show span log k' k' = [] by simp [span], liveFrom_nil, List.append_nil]
          exact hsent
      | level hcursor => simp [hcursor] at hc
      | stopped hcursor => simp [hcursor] at hc
  | @fed k n hc hleft hfirst hn hkept _ hfinds hsent' _ hend =>
      cases h with
      | level hcursor => simp [hcursor] at hc
      | stopped hcursor => simp [hcursor] at hc
      | @armed k' hcursor hck hk hl hdisc hsent =>
          obtain rfl : k' = k := Option.some.inj (hcursor.symm.trans hc)
          have hsince : history.since k' = log.drop k' := by rw [Lib.Ring.since_eq hfirst, hlog]
          have hlen : (history.since k').length = log.length - k' := by
            rw [hsince, List.length_drop]
          -- what was fed now follows what was fed before
          have hspan : (q.feed now history).link.sent
              = l.sent ++ Player.fed c (span log c (k' + n)) := by
            rw [hsent', hsent, hsince, List.append_assoc, ← span_append hck (Nat.le_add_right k' n),
              Player.fed_append, span_length hk, show c + (k' - c) = k' by omega, span, span,
              show k' + n - k' = n by omega]
          have hstop : ∀ (hcur : (q.feed now history).catchupCursor = none)
              (_ : (q.feed now history).left.isSome ∨ (q.feed now history).disconnectedSince.isSome
                ∧ ∃ i < (q.feed now history).link.tries, l.finds i = .closed),
              CatchUp l c log (q.feed now history) := by
            intro hcur hwhy
            refine .stopped (m := k' + n) (n := k' + n) (t := 0) hcur (by omega) (Nat.le_refl _)
              (by omega) hwhy ?_
            rw [show span log (k' + n) (k' + n) = [] by simp [span], liveFrom_nil, List.append_nil]
            exact hspan
          cases hend with
          | drained hn' htries hl' hd' hcur =>
              have hend : k' + n = log.length := by omega
              refine .level (m := k' + n) (t := (q.feed now history).link.tries) hcur (by omega)
                (by omega) (hl'.trans hl) (hd'.trans hdisc) (by omega) ?_
              rw [hend, show span log log.length log.length = [] by simp [span],
                liveFrom_nil, List.append_nil, ← hend]
              exact hspan
          | blocked hn' _ htries hl' hd' hcur =>
              exact .armed (k := k' + n) hcur (by omega) (by omega) (hl'.trans hl)
                (hd'.trans hdisc) hspan
          | held hn' hclosed htries _ _ hl' hd' hcur =>
              refine hstop hcur (.inr ⟨by rw [hd']; rfl, q.link.tries + n, by omega, ?_⟩)
              rw [← hq.finds]
              exact hclosed
          | dropped hn' hclosed htries _ hl' _ hcur =>
              exact hstop hcur (.inl (by rw [hl']; rfl))

end CatchUp

namespace OnLink

variable {l : PlayerLink} {q : Player}

theorem of_kept {r : Player} (h : OnLink l q) (hk : Kept q r)
    (hfinds : r.link.finds = q.link.finds) :
    OnLink l r :=
  ⟨hk.virtualHost.trans h.virtualHost, hk.rejoin.trans h.rejoin, hfinds.trans h.finds⟩

theorem hear (h : OnLink l q) (now : Nat) (b : Packet) (seq : Option Nat) :
    OnLink l (q.hear now b seq) := by
  refine h.of_kept (q.kept_hear now b seq) ?_
  rcases q.hear_cases now b seq with ⟨-, he⟩ | ⟨-, -, -, he⟩ | ⟨-, -, -, -, -, he⟩
  · rw [he]
  · rw [he]
    rfl
  · rw [he, ((q.buffer b).deliver_fields now b _).2.2]
    rfl

theorem feed (h : OnLink l q) (now : Nat) (history : FullHistory) :
    OnLink l (q.feed now history) := by
  refine h.of_kept (q.kept_feed now history) ?_
  cases q.feeds_feed now history with
  | idle _ he => rw [he]
  | gone _ _ he => rw [he]
  | evicted _ _ _ he => rw [he]
  | fed _ _ _ _ _ _ hfinds => exact hfinds

end OnLink

-- =================================================================== the run

/-- A running game in which the player at position `i` was at cursor
`c` on link `l`. -/
structure Catching (l : PlayerLink) (c i : Nat) (s : GameState) : Prop where
  playing : s.phase = .playing
  player : ∃ q, s.players[i]? = some q ∧ OnLink l q ∧ CatchUp l c s.fullHistory.log q

namespace Catching

variable {l : PlayerLink} {c i : Nat} {s : GameState}

theorem broadcast (h : Catching l c i s) (b : Packet) : Catching l c i (s.broadcast b) := by
  obtain ⟨q, hq, hon, hcatch⟩ := h.player
  have hseq : s.airSeq = some s.fullHistory.log.length := if_pos h.playing
  refine ⟨(s.broadcast_phase b).trans h.playing, q.hear s.now b s.airSeq, ?_, hon.hear _ _ _, ?_⟩
  · rw [broadcast_players, List.getElem?_map, hq, Option.map_some]
  · rw [broadcast_log, if_pos h.playing, hseq]
    exact hcatch.hear hon s.now b

theorem pump (h : Catching l c i s) : Catching l c i s.pumpRejoinCatchup := by
  obtain ⟨q, hq, hon, hcatch⟩ := h.player
  refine ⟨h.playing, q.feed s.now s.fullHistory, ?_, hon.feed _ _, hcatch.feed hon s.now rfl⟩
  show (s.players.map fun p => p.feed s.now s.fullHistory)[i]? = _
  rw [List.getElem?_map, hq, Option.map_some]

/-- One operation. -/
theorem feedOp (h : Catching l c i s) (op : FeedOp) : Catching l c i (s.feedOp op) := by
  cases op with
  | broadcast b => exact h.broadcast b
  | pump => exact h.pump
  | elapse ms => exact ⟨h.playing, h.player⟩

/-- An interleaving of operations. -/
theorem feedOps (h : Catching l c i s) (ops : List FeedOp) : Catching l c i (s.feedOps ops) := by
  induction ops generalizing s with
  | nil => exact h
  | cons op ops ih => exact ih (h.feedOp op)

end Catching

/-- The feed is exactly-once and in order. Take a player of a running
game, past the handshake and connected, with a cursor armed at `c`. After
any interleaving of broadcasts and
pumps, for any capacity of the history and any schedule of the queue,
the player is where `CatchUp` says; and a cursor the history has run
past is cleared by the next pump, which drops the player. -/
theorem feedOps_catchUp {s : GameState} {i c : Nat} {p : Player} (hplaying : s.phase = .playing)
    (hp : s.players[i]? = some p) (hvh : p.virtualHost = false) (hleft : p.left = none)
    (hrejoin : p.rejoin = .none) (hdisc : p.disconnectedSince = none)
    (hcursor : p.catchupCursor = some c) (hnext : c ≤ s.fullHistory.nextSeq) (ops : List FeedOp) :
    ∃ q, (s.feedOps ops).players[i]? = some q
      ∧ CatchUp p.link c (s.feedOps ops).fullHistory.log q
      ∧ ∀ k, q.catchupCursor = some k → k < (s.feedOps ops).fullHistory.firstSeq →
        (s.feedOps ops).pumpRejoinCatchup.players[i]?
          = some { q with left := some .catchUpEvicted, catchupCursor := none } := by
  rw [Lib.Ring.nextSeq_eq] at hnext
  have hstart : Catching p.link c i s := by
    refine ⟨hplaying, p, hp, ⟨hvh, hrejoin, rfl⟩, ?_⟩
    refine .armed hcursor (Nat.le_refl c) hnext hleft hdisc ?_
    rw [show span s.fullHistory.log c c = [] by simp [span], Player.fed_nil, List.append_nil]
  obtain ⟨q, hq, -, hcatch⟩ := (hstart.feedOps ops).player
  refine ⟨q, hq, hcatch, ?_⟩
  intro k hk hev
  unfold pumpRejoinCatchup
  dsimp only
  rw [List.getElem?_map, hq, Option.map_some]
  cases hcatch with
  | armed _ _ _ hl _ _ =>
      unfold Player.feed
      rw [hk]
      dsimp only
      rw [if_neg (by simp [hl]), if_pos hev]
  | level hcur => simp [hcur] at hk
  | stopped hcur => simp [hcur] at hk

section Runs

open Scenario

/-- A queue that is full at its second send. -/
def fullOnce : PlayerLink :=
  PlayerLink.fresh (fun k => if k = 1 then .full else .room) (by
    intro k hk
    split at hk
    · cases hk
    · cases hk)

/-- A running game that keeps two packets of history, and a player at
its head. -/
def backlog : GameState :=
  { lobby with
    phase := .playing
    players := [{ pid := 1, name := txt "ann", connId := 1, link := fullOnce, gproxy := true
                  gproxyBuffer := some (GProxyBuffer.new 500 (by decide)), loaded := true
                  catchupCursor := some 0 }]
    fullHistory := ((FullHistory.newWithCap 2 (by decide)).push (.incomingAction [] 100)).push
      (.incomingAction [] 110) }

/-- The feed is blocked after a packet, the game goes on and evicts
that packet, the feed ends, and the next broadcast is live. -/
def backlogOps : List FeedOp :=
  [.pump, .broadcast (.incomingAction [] 120), .pump, .broadcast (.incomingAction [] 130)]

theorem feedOps_catchUp_backlog :
    (backlog.feedOps backlogOps).fullHistory.firstSeq = 2
      ∧ ((backlog.feedOps backlogOps).players.map fun q => q.link.sent)
        = [[⟨.incomingAction [] 100, .history 0⟩, ⟨.incomingAction [] 110, .history 1⟩,
            ⟨.incomingAction [] 120, .history 2⟩, ⟨.incomingAction [] 130, .live (some 3)⟩]]
      ∧ ∃ q, (backlog.feedOps backlogOps).players[0]? = some q
        ∧ CatchUp fullOnce 0 (backlog.feedOps backlogOps).fullHistory.log q := by
  obtain ⟨q, hq, hcatch, -⟩ :=
    feedOps_catchUp (s := backlog) (i := 0) (c := 0) rfl rfl rfl rfl rfl rfl
    rfl (Nat.zero_le _) backlogOps
  exact ⟨by decide +kernel, by decide +kernel, q, hq, hcatch⟩

end Runs

end Spectre

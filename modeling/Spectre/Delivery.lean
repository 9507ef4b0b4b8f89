/-
What the ways of sending do to one player: `deliver` and the three
paths built on it (`hear`, `receive`, `feed`), and the bare sends of
the handshakes.

A send can reach the link, the buffer, the failure counter and the two
flags of absence, and nothing else (`Kept`). The case lemmas say which
of these it reaches and when; everything later is proved from them and
not from the definitions.
-/
import Spectre.Rejoin

namespace Spectre

-- ======================================================= what a send keeps

/-- What no send touches, whatever comes of it. -/
structure Kept (p q : Player) : Prop where
  pid : q.pid = p.pid
  name : q.name = p.name
  connId : q.connId = p.connId
  virtualHost : q.virtualHost = p.virtualHost
  gproxy : q.gproxy = p.gproxy
  rejoin : q.rejoin = p.rejoin
  loaded : q.loaded = p.loaded
  lagging : q.lagging = p.lagging
  reconnectKey : q.reconnectKey = p.reconnectKey
  syncCounter : q.syncCounter = p.syncCounter
  checksums : q.checksums = p.checksums
  reports : q.reports = p.reports
  leftCode : q.leftCode = p.leftCode

namespace Kept

/-- Nothing is sent. -/
protected theorem refl (p : Player) : Kept p p :=
  ⟨rfl, rfl, rfl, rfl, rfl, rfl, rfl, rfl, rfl, rfl, rfl, rfl, rfl⟩

/-- One send after another. -/
protected theorem trans {p q r : Player} (h₁ : Kept p q) (h₂ : Kept q r) : Kept p r :=
  ⟨h₂.pid.trans h₁.pid, h₂.name.trans h₁.name, h₂.connId.trans h₁.connId,
    h₂.virtualHost.trans h₁.virtualHost, h₂.gproxy.trans h₁.gproxy, h₂.rejoin.trans h₁.rejoin,
    h₂.loaded.trans h₁.loaded, h₂.lagging.trans h₁.lagging,
    h₂.reconnectKey.trans h₁.reconnectKey, h₂.syncCounter.trans h₁.syncCounter,
    h₂.checksums.trans h₁.checksums, h₂.reports.trans h₁.reports,
    h₂.leftCode.trans h₁.leftCode⟩

end Kept

namespace Player

/-- A packet kept for a reconnect. -/
theorem kept_buffer (p : Player) (b : Packet) : Kept p (p.buffer b) :=
  ⟨rfl, rfl, rfl, rfl, rfl, rfl, rfl, rfl, rfl, rfl, rfl, rfl, rfl⟩

/-- A send whose outcome is ignored. -/
theorem kept_sendDirect (p : Player) (b : Packet) : Kept p (p.sendDirect b) :=
  ⟨rfl, rfl, rfl, rfl, rfl, rfl, rfl, rfl, rfl, rfl, rfl, rfl, rfl⟩

/-- A closed link. -/
theorem kept_linkClosed (p : Player) (now : Nat) : Kept p (p.linkClosed now) := by
  unfold linkClosed
  split
  · exact ⟨rfl, rfl, rfl, rfl, rfl, rfl, rfl, rfl, rfl, rfl, rfl, rfl, rfl⟩
  · exact ⟨rfl, rfl, rfl, rfl, rfl, rfl, rfl, rfl, rfl, rfl, rfl, rfl, rfl⟩

/-- A GProxy player whose link is closed is held. -/
theorem linkClosed_gproxy {p : Player} (h : p.gproxy = true) (now : Nat) :
    p.linkClosed now = { p with disconnectedSince := p.disconnectedSince.or (some now) } := if_pos h

/-- Any other player whose link is closed has left. -/
theorem linkClosed_plain {p : Player} (h : p.gproxy = false) (now : Nat) :
    p.linkClosed now = { p with left := some .connectionClosed } := if_neg (by simp [h])

/-- The three outcomes of a delivery. -/
theorem deliver_cases (p : Player) (now : Nat) (b : Packet) (via : Via) :
    (p.link.next = .room
      ∧ p.deliver now b via
        = { p with link := p.link.push ⟨b, via⟩, consecutiveSendFailures := 0 }) ∨
    (p.link.next = .full
      ∧ p.deliver now b via = { p with link := p.link.push ⟨b, via⟩ }.sendFailed) ∨
    (p.link.next = .closed
      ∧ p.deliver now b via = { p with link := p.link.push ⟨b, via⟩ }.linkClosed now) := by
  unfold deliver PlayerLink.trySend
  cases h : p.link.next with
  | room => exact .inl ⟨rfl, rfl⟩
  | full => exact .inr (.inl ⟨rfl, rfl⟩)
  | closed => exact .inr (.inr ⟨rfl, rfl⟩)

/-- A delivery leaves the buffer and the cursor alone. -/
theorem deliver_fields (p : Player) (now : Nat) (b : Packet) (via : Via) :
    (p.deliver now b via).gproxyBuffer = p.gproxyBuffer
      ∧ (p.deliver now b via).catchupCursor = p.catchupCursor
      ∧ (p.deliver now b via).link = p.link.push ⟨b, via⟩ := by
  rcases p.deliver_cases now b via with ⟨-, h⟩ | ⟨-, h⟩ | ⟨-, h⟩
  · rw [h]
    exact ⟨rfl, rfl, rfl⟩
  · rw [h]
    exact ⟨rfl, rfl, rfl⟩
  · rw [h]
    unfold linkClosed
    split
    · exact ⟨rfl, rfl, rfl⟩
    · exact ⟨rfl, rfl, rfl⟩

/-- A delivery marks a player left only for a full queue or, without
GProxy, a closed one. -/
theorem deliver_left (p : Player) (now : Nat) (b : Packet) (via : Via) :
    (p.deliver now b via).left = p.left ∨ (p.deliver now b via).left = some .laggedOut
      ∨ (p.gproxy = false ∧ (p.deliver now b via).left = some .connectionClosed) := by
  rcases p.deliver_cases now b via with ⟨-, h⟩ | ⟨-, h⟩ | ⟨-, h⟩
  · rw [h]
    exact .inl rfl
  · rw [h]
    unfold sendFailed
    dsimp only
    split
    · exact .inr (.inl rfl)
    · exact .inl rfl
  · rw [h]
    unfold linkClosed
    dsimp only
    split
    · exact .inl rfl
    · rename_i hg
      exact .inr (.inr ⟨by simpa using hg, rfl⟩)

/-- A delivery starts an absence only for a GProxy player, and at
once. -/
theorem deliver_disconnectedSince (p : Player) (now : Nat) (b : Packet) (via : Via) :
    (p.deliver now b via).disconnectedSince = p.disconnectedSince
      ∨ (p.gproxy = true
        ∧ (p.deliver now b via).disconnectedSince = p.disconnectedSince.or (some now)) := by
  rcases p.deliver_cases now b via with ⟨-, h⟩ | ⟨-, h⟩ | ⟨-, h⟩
  · rw [h]
    exact .inl rfl
  · rw [h]
    exact .inl rfl
  · rw [h]
    unfold linkClosed
    dsimp only
    split
    · rename_i hg
      exact .inr ⟨hg, rfl⟩
    · exact .inl rfl

/-- A send, with what comes of it. -/
theorem kept_deliver (p : Player) (now : Nat) (b : Packet) (via : Via) :
    Kept p (p.deliver now b via) := by
  rcases p.deliver_cases now b via with ⟨-, h⟩ | ⟨-, h⟩ | ⟨-, h⟩
  · rw [h]
    exact ⟨rfl, rfl, rfl, rfl, rfl, rfl, rfl, rfl, rfl, rfl, rfl, rfl, rfl⟩
  · rw [h]
    exact ⟨rfl, rfl, rfl, rfl, rfl, rfl, rfl, rfl, rfl, rfl, rfl, rfl, rfl⟩
  · rw [h]
    have hk := kept_linkClosed { p with link := p.link.push ⟨b, via⟩ } now
    exact ⟨hk.pid, hk.name, hk.connId, hk.virtualHost, hk.gproxy, hk.rejoin, hk.loaded, hk.lagging,
      hk.reconnectKey, hk.syncCounter, hk.checksums, hk.reports, hk.leftCode⟩

/-- A delivery leaves the catch-up alone. -/
theorem deliver_catchUp (p : Player) (now : Nat) (b : Packet) (via : Via) :
    (p.deliver now b via).catchupCursor = p.catchupCursor
      ∧ (p.deliver now b via).catchingUp = p.catchingUp := by
  rcases p.deliver_cases now b via with ⟨-, h⟩ | ⟨-, h⟩ | ⟨-, h⟩
  · rw [h]
    exact ⟨rfl, rfl⟩
  · rw [h]
    exact ⟨rfl, rfl⟩
  · rw [h]
    unfold linkClosed
    split
    · exact ⟨rfl, rfl⟩
    · exact ⟨rfl, rfl⟩

/-- The ways a broadcast can pass a player by, and the one in which it
is offered to the link. -/
theorem hear_cases (p : Player) (now : Nat) (b : Packet) (seq : Option Nat) :
    ((p.left.isSome ∨ p.virtualHost = true) ∧ p.hear now b seq = p) ∨
    (p.left = none ∧ p.virtualHost = false
      ∧ (p.rejoin ≠ .none ∨ p.catchupCursor.isSome ∨ p.disconnectedSince.isSome)
      ∧ p.hear now b seq = p.buffer b) ∨
    (p.left = none ∧ p.virtualHost = false ∧ p.rejoin = .none ∧ p.catchupCursor = none
      ∧ p.disconnectedSince = none
      ∧ p.hear now b seq = (p.buffer b).deliver now b (.live seq)) := by
  unfold hear
  by_cases hgone : (p.left.isSome || p.virtualHost) = true
  · rw [if_pos hgone]
    exact .inl ⟨by simpa using hgone, rfl⟩
  rw [if_neg hgone]
  have hleft : p.left = none := by simpa using (show p.left.isSome = false by simp_all)
  have hvh : p.virtualHost = false := by simp_all
  by_cases hrejoin : p.rejoin = .none
  · by_cases hcursor : p.catchupCursor.isSome = true
    · exact .inr (.inl ⟨hleft, hvh, .inr (.inl hcursor), by simp [buffer, hrejoin, hcursor]⟩)
    · by_cases hdisc : p.disconnectedSince.isSome = true
      · refine .inr (.inl ⟨hleft, hvh, .inr (.inr hdisc), ?_⟩)
        simp [buffer, hrejoin, hcursor, hdisc]
      · refine .inr (.inr ⟨hleft, hvh, hrejoin, by simpa using hcursor, by simpa using hdisc, ?_⟩)
        simp [buffer, hrejoin, hcursor, hdisc]
  · exact .inr (.inl ⟨hleft, hvh, .inl hrejoin, by simp [buffer, hrejoin]⟩)

/-- A packet to all. -/
theorem kept_hear (p : Player) (now : Nat) (b : Packet) (seq : Option Nat) :
    Kept p (p.hear now b seq) := by
  rcases p.hear_cases now b seq with ⟨-, h⟩ | ⟨-, -, -, h⟩ | ⟨-, -, -, -, -, h⟩
  · rw [h]
    exact Kept.refl p
  · rw [h]
    exact p.kept_buffer b
  · rw [h]
    exact (p.kept_buffer b).trans (kept_deliver _ now b _)

/-- It changes nothing about a catch-up. -/
theorem hear_catchUp (p : Player) (now : Nat) (b : Packet) (seq : Option Nat) :
    (p.hear now b seq).catchupCursor = p.catchupCursor
      ∧ (p.hear now b seq).catchingUp = p.catchingUp := by
  rcases p.hear_cases now b seq with ⟨-, h⟩ | ⟨-, -, -, h⟩ | ⟨-, -, -, -, -, h⟩
  · rw [h]
    exact ⟨rfl, rfl⟩
  · rw [h]
    exact ⟨rfl, rfl⟩
  · rw [h]
    exact (p.buffer b).deliver_catchUp now b _

/-- A personal send passes a player that has left, is only buffered for
one that is held, and is offered to the link otherwise. -/
theorem receive_cases (p : Player) (now : Nat) (b : Packet) :
    (p.left.isSome ∧ p.receive now b = p) ∨
    (p.left = none ∧ p.disconnectedSince.isSome ∧ p.receive now b = p.buffer b) ∨
    (p.left = none ∧ p.disconnectedSince = none
      ∧ p.receive now b = (p.buffer b).deliver now b .personal) := by
  unfold receive
  by_cases hleft : p.left.isSome = true
  · exact .inl ⟨hleft, by simp [hleft]⟩
  · by_cases hdisc : p.disconnectedSince.isSome = true
    · exact .inr (.inl ⟨by simpa using hleft, hdisc, by simp [hleft, buffer, hdisc]⟩)
    · refine .inr (.inr ⟨by simpa using hleft, by simpa using hdisc, ?_⟩)
      simp [hleft, buffer, hdisc]

/-- A packet to the player. -/
theorem kept_receive (p : Player) (now : Nat) (b : Packet) : Kept p (p.receive now b) := by
  rcases p.receive_cases now b with ⟨-, h⟩ | ⟨-, -, h⟩ | ⟨-, -, h⟩
  · rw [h]
    exact Kept.refl p
  · rw [h]
    exact p.kept_buffer b
  · rw [h]
    exact (p.kept_buffer b).trans (kept_deliver _ now b _)

/-- Nor does this. -/
theorem receive_catchUp (p : Player) (now : Nat) (b : Packet) :
    (p.receive now b).catchupCursor = p.catchupCursor
      ∧ (p.receive now b).catchingUp = p.catchingUp := by
  rcases p.receive_cases now b with ⟨-, h⟩ | ⟨-, -, h⟩ | ⟨-, -, h⟩
  · rw [h]
    exact ⟨rfl, rfl⟩
  · rw [h]
    exact ⟨rfl, rfl⟩
  · rw [h]
    exact (p.buffer b).deliver_catchUp now b _

-- ================================================================== offers

/-- Broadcasts offered to a queue, the first under number `n`, each at
the try of its own that `tries` gives: those that found room. -/
def offered (finds : Nat → Found) : List Nat → Nat → List Packet → List Sent
  | k :: tries, n, b :: rest =>
      (if finds k = .room then [⟨b, .live (some n)⟩] else []) ++ offered finds tries (n + 1) rest
  | _, _, _ => []

/-- One more broadcast is one more offer. -/
theorem offered_concat (finds : Nat → Found) {tries : List Nat} {l : List Packet}
    (h : tries.length = l.length) (k n : Nat) (b : Packet) :
    offered finds (tries ++ [k]) n (l ++ [b]) = offered finds tries n l
      ++ (if finds k = .room then [⟨b, .live (some (n + l.length))⟩] else []) := by
  induction l generalizing tries n with
  | nil =>
      rw [List.length_nil, List.length_eq_zero_iff] at h
      rw [h]
      simp [offered]
  | cons a l ih =>
      cases tries with
      | nil => cases h
      | cons j tries =>
          rw [List.cons_append, List.cons_append, offered, offered, ih (Nat.succ.inj h),
            List.append_assoc, List.length_cons, show n + 1 + l.length = n
            + (l.length + 1) by omega]

-- ==================================================================== feed

/-- History packets as the feed enqueues them, from sequence number
`c` on. -/
def fed (c : Nat) (packets : List Packet) : List Sent :=
  (packets.zipIdx c).map fun e => ⟨e.1, .history e.2⟩

/-- No packets. -/
@[simp] theorem fed_nil (c : Nat) : fed c [] = [] := rfl

/-- One part, then the other. -/
theorem fed_append (c : Nat) (l l' : List Packet) :
    fed c (l ++ l') = fed c l ++ fed (c + l.length) l' := by
  unfold fed
  rw [List.zipIdx_append, List.map_append]

/-- The next packet, and those behind it. -/
theorem fed_cons (c : Nat) (b : Packet) (rest : List Packet) :
    fed c (b :: rest) = ⟨b, .history c⟩ :: fed (c + 1) rest := rfl

/-- How the feed can end after `n` of `len` packets; `level` and
`behind` are what it leaves in the cursor when everything was sent and
when the queue was full. -/
inductive FeedEnd (now : Nat) (p q : Player) (n len : Nat) (level behind : Option Nat) : Prop
  /-- everything was sent -/
  | drained (hn : n = len) (htries : q.link.tries = p.link.tries + n) (hleft : q.left = p.left)
      (hdisc : q.disconnectedSince = p.disconnectedSince) (hcursor : q.catchupCursor = level)
  /-- the queue was full -/
  | blocked (hn : n < len) (hfull : p.link.finds (p.link.tries + n) = .full)
      (htries : q.link.tries = p.link.tries + n + 1) (hleft : q.left = p.left)
      (hdisc : q.disconnectedSince = p.disconnectedSince) (hcursor : q.catchupCursor = behind)
  /-- the queue was closed and the player is now held -/
  | held (hn : n < len) (hclosed : p.link.finds (p.link.tries + n) = .closed)
      (htries : q.link.tries = p.link.tries + n + 1) (hg : p.gproxy = true)
      (hnone : p.disconnectedSince = none) (hleft : q.left = p.left)
      (hdisc : q.disconnectedSince = some now) (hcursor : q.catchupCursor = none)
  /-- the queue was closed and the player has left -/
  | dropped (hn : n < len) (hclosed : p.link.finds (p.link.tries + n) = .closed)
      (htries : q.link.tries = p.link.tries + n + 1)
      (hg : p.gproxy = false ∨ p.disconnectedSince.isSome)
      (hleft : q.left = some .catchUpClosed) (hdisc : q.disconnectedSince = p.disconnectedSince)
      (hcursor : q.catchupCursor = none)

/-- The inner loop of the feed: the first `n` packets are enqueued in
order, and then it stops for one of four reasons. -/
theorem feedPackets_spec (now : Nat) (packets : List Packet) (cur : Nat) (p : Player) :
    ∃ n ≤ packets.length,
      (feedPackets now packets cur p).2 = cur + n
      ∧ Kept p (feedPackets now packets cur p).1
      ∧ (feedPackets now packets cur p).1.gproxyBuffer = p.gproxyBuffer
      ∧ (feedPackets now packets cur p).1.link.finds = p.link.finds
      ∧ (feedPackets now packets cur p).1.link.sent = p.link.sent ++ fed cur (packets.take n)
      ∧ (∀ i < n, p.link.finds (p.link.tries + i) = .room)
      ∧ FeedEnd now p (feedPackets now packets cur p).1 n packets.length p.catchupCursor
        p.catchupCursor := by
  induction packets generalizing cur p with
  | nil =>
      exact ⟨0, Nat.le_refl 0, rfl, Kept.refl p, rfl, rfl, by simp [feedPackets],
        fun i hi => absurd hi (Nat.not_lt_zero i), .drained rfl rfl rfl rfl rfl⟩
  | cons b rest ih =>
      unfold feedPackets PlayerLink.trySend
      cases hnext : p.link.next with
      | room =>
          -- one packet is enqueued and the loop goes on from the next number
          obtain ⟨n, hn, hcur, hk, hbuf, hfinds, hsent, hroom, hend⟩ := ih (cur + 1)
            { p with link := p.link.push ⟨b, .history cur⟩, consecutiveSendFailures := 0 }
          refine ⟨n + 1, Nat.succ_le_succ hn, ?_, ?_, hbuf, hfinds, ?_, ?_, ?_⟩
          · dsimp only
            rw [hcur]
            omega
          · exact ⟨hk.pid, hk.name, hk.connId, hk.virtualHost, hk.gproxy, hk.rejoin, hk.loaded,
              hk.lagging, hk.reconnectKey, hk.syncCounter, hk.checksums, hk.reports, hk.leftCode⟩
          · dsimp only
            rw [hsent, PlayerLink.push_sent_room _ hnext, List.append_assoc, List.take_succ_cons,
              fed_cons, List.singleton_append]
          · intro i hi
            cases i with
            | zero => exact hnext
            | succ i =>
                have h := hroom i (Nat.lt_of_succ_lt_succ hi)
                rwa [show p.link.tries + (i + 1) = p.link.tries + 1 + i by omega]
          · have htries : p.link.tries + (n + 1) = p.link.tries + 1 + n := by omega
            cases hend with
            | drained hn' ht hl hd hc =>
                refine .drained (by simp [hn']) ?_ hl hd hc
                rw [htries]
                exact ht
            | blocked hn' hf ht hl hd hc =>
                refine .blocked (by simpa using hn') ?_ ?_ hl hd hc
                · rw [htries]
                  exact hf
                · rw [htries]
                  exact ht
            | held hn' hf ht hg hno hl hd hc =>
                refine .held (by simpa using hn') ?_ ?_ hg hno hl hd hc
                · rw [htries]
                  exact hf
                · rw [htries]
                  exact ht
            | dropped hn' hf ht hg hl hd hc =>
                refine .dropped (by simpa using hn') ?_ ?_ hg hl hd hc
                · rw [htries]
                  exact hf
                · rw [htries]
                  exact ht
      | full =>
          refine ⟨0, Nat.zero_le _, rfl,
            ⟨rfl, rfl, rfl, rfl, rfl, rfl, rfl, rfl, rfl, rfl, rfl, rfl, rfl⟩, rfl, rfl, ?_,
            fun i hi => absurd hi (Nat.not_lt_zero i),
            .blocked (Nat.succ_pos _) hnext rfl rfl rfl rfl⟩
          rw [List.take_zero, fed_nil, List.append_nil]
          exact PlayerLink.push_sent_blocked _ (by simp [hnext])
      | closed =>
          have hsent : (p.link.push ⟨b, .history cur⟩).sent = p.link.sent :=
            PlayerLink.push_sent_blocked _ (by simp [hnext])
          dsimp only
          split
          · rename_i hg
            rw [Bool.and_eq_true, Option.isNone_iff_eq_none] at hg
            refine ⟨0, Nat.zero_le _, rfl,
              ⟨rfl, rfl, rfl, rfl, rfl, rfl, rfl, rfl, rfl, rfl, rfl, rfl, rfl⟩, rfl, rfl,
              ?_, fun i hi => absurd hi (Nat.not_lt_zero i), .held (Nat.succ_pos _) hnext rfl hg.1
              hg.2 rfl rfl rfl⟩
            rw [List.take_zero, fed_nil, List.append_nil]
            exact hsent
          · rename_i hg
            refine ⟨0, Nat.zero_le _, rfl,
              ⟨rfl, rfl, rfl, rfl, rfl, rfl, rfl, rfl, rfl, rfl, rfl, rfl, rfl⟩, rfl, rfl,
              ?_, fun i hi => absurd hi (Nat.not_lt_zero i), .dropped (Nat.succ_pos _) hnext rfl ?_
              rfl rfl rfl⟩
            · rw [List.take_zero, fed_nil, List.append_nil]
              exact hsent
            · by_cases hgp : p.gproxy = true
              · right
                rw [hgp, Bool.true_and] at hg
                exact Option.isSome_iff_ne_none.2 fun hn => hg (by simp [hn])
              · exact .inl (by simpa using hgp)

/-- What the feed does to a player. -/
inductive Feeds (now : Nat) (history : FullHistory) (p q : Player) : Prop
  /-- there is no cursor -/
  | idle (hc : p.catchupCursor = none) (hq : q = p)
  /-- the player has left -/
  | gone {c : Nat} (hc : p.catchupCursor = some c) (hleft : p.left.isSome)
      (hq : q = { p with catchupCursor := none })
  /-- the packet wanted next is no longer there -/
  | evicted {c : Nat} (hc : p.catchupCursor = some c) (hleft : p.left = none)
      (hev : c < history.firstSeq)
      (hq : q = { p with left := some .catchUpEvicted, catchupCursor := none })
  /-- packets from the cursor on are sent while there is room -/
  | fed {c n : Nat} (hc : p.catchupCursor = some c) (hleft : p.left = none)
      (hfirst : history.firstSeq ≤ c) (hn : n ≤ (history.since c).length) (hk : Kept p q)
      (hbuf : q.gproxyBuffer = p.gproxyBuffer) (hfinds : q.link.finds = p.link.finds)
      (hsent : q.link.sent = p.link.sent ++ Player.fed c ((history.since c).take n))
      (hroom : ∀ i < n, p.link.finds (p.link.tries + i) = .room)
      (hend : FeedEnd now p q n (history.since c).length none (some (c + n)))

/-- The feed does one of these four things. -/
theorem feeds_feed (p : Player) (now : Nat) (history : FullHistory) :
    Feeds now history p (p.feed now history) := by
  unfold feed
  cases hc : p.catchupCursor with
  | none => exact .idle hc rfl
  | some c =>
      dsimp only
      split
      · rename_i hleft
        exact .gone hc hleft rfl
      rename_i hleft
      have hleft' : p.left = none := by simpa using hleft
      split
      · rename_i hev
        exact .evicted hc hleft' hev rfl
      rename_i hev
      have hfirst : history.firstSeq ≤ c := Nat.le_of_not_lt hev
      obtain ⟨n, hn, hcur, hk, hbuf, hfinds, hsent, hroom, hend⟩ :=
        feedPackets_spec now (history.since c) c p
      have hlen : (history.since c).length = history.log.length - c := by
        rw [Lib.Ring.since_eq hfirst, List.length_drop]
      rw [hcur, Lib.Ring.nextSeq_eq]
      cases hend with
      | drained hn' ht hl hd hcu =>
          rw [if_pos (by simp [hcu, hc]), if_pos (by omega)]
          refine .fed hc hleft' hfirst hn ?_ hbuf hfinds hsent hroom (.drained hn' ht hl hd rfl)
          exact ⟨hk.pid, hk.name, hk.connId, hk.virtualHost, hk.gproxy, hk.rejoin, hk.loaded,
            hk.lagging, hk.reconnectKey, hk.syncCounter, hk.checksums, hk.reports, hk.leftCode⟩
      | blocked hn' hf ht hl hd hcu =>
          rw [if_pos (by simp [hcu, hc]), if_neg (by omega)]
          refine .fed hc hleft' hfirst hn ?_ hbuf hfinds hsent hroom (.blocked hn' hf ht hl hd rfl)
          exact ⟨hk.pid, hk.name, hk.connId, hk.virtualHost, hk.gproxy, hk.rejoin, hk.loaded,
            hk.lagging, hk.reconnectKey, hk.syncCounter, hk.checksums, hk.reports, hk.leftCode⟩
      | held hn' hf ht hg hno hl hd hcu =>
          rw [if_neg (by simp [hcu])]
          exact .fed hc hleft' hfirst hn hk hbuf hfinds hsent hroom
            (.held hn' hf ht hg hno hl hd hcu)
      | dropped hn' hf ht hg hl hd hcu =>
          rw [if_neg (by simp [hcu])]
          exact .fed hc hleft' hfirst hn hk hbuf hfinds hsent hroom
            (.dropped hn' hf ht hg hl hd hcu)

/-- The feed. -/
theorem kept_feed (p : Player) (now : Nat) (history : FullHistory) :
    Kept p (p.feed now history) := by
  cases p.feeds_feed now history with
  | idle _ hq =>
      rw [hq]
      exact Kept.refl p
  | gone _ _ hq =>
      rw [hq]
      exact ⟨rfl, rfl, rfl, rfl, rfl, rfl, rfl, rfl, rfl, rfl, rfl, rfl, rfl⟩
  | evicted _ _ _ hq =>
      rw [hq]
      exact ⟨rfl, rfl, rfl, rfl, rfl, rfl, rfl, rfl, rfl, rfl, rfl, rfl, rfl⟩
  | fed _ _ _ _ hk _ _ _ _ _ => exact hk

/-- The feed leaves the buffer alone. -/
theorem feed_gproxyBuffer (p : Player) (now : Nat) (history : FullHistory) :
    (p.feed now history).gproxyBuffer = p.gproxyBuffer := by
  cases p.feeds_feed now history with
  | idle _ hq => rw [hq]
  | gone _ _ hq => rw [hq]
  | evicted _ _ _ hq => rw [hq]
  | fed _ _ _ _ _ hbuf _ _ _ _ => exact hbuf

/-- The inner loop ends no catch-up. -/
theorem feedPackets_catchingUp (now : Nat) (packets : List Packet) (cur : Nat) (p : Player) :
    (feedPackets now packets cur p).1.catchingUp = p.catchingUp := by
  induction packets generalizing cur p with
  | nil => rfl
  | cons b rest ih =>
      unfold feedPackets PlayerLink.trySend
      cases p.link.next with
      | room => exact ih _ _
      | full => rfl
      | closed =>
          dsimp only
          split <;> rfl

/-- The feed never ends a catch-up, and begins none. -/
theorem feed_catchingUp (p : Player) (now : Nat) (history : FullHistory) :
    (p.feed now history).catchingUp = p.catchingUp
      ∨ (p.catchupCursor.isSome ∧ (p.feed now history).catchingUp = true) := by
  unfold feed
  cases hc : p.catchupCursor with
  | none => exact .inl rfl
  | some c =>
      dsimp only
      split
      · exact .inl rfl
      split
      · exact .inl rfl
      split
      · split
        · exact .inr ⟨rfl, rfl⟩
        · exact .inl (feedPackets_catchingUp ..)
      · exact .inl (feedPackets_catchingUp ..)

/-- The feed would find the link closed: of the sends it has before it,
the first that finds no room finds it closed. -/
def cutOff (p : Player) (history : FullHistory) : Bool :=
  match p.catchupCursor with
  | some c =>
      p.left.isNone && decide (history.firstSeq ≤ c)
        && ((List.range (history.since c).length).map fun i =>
          p.link.finds (p.link.tries + i)).find?
          (fun found => found != .room) == some .closed
  | none => false

/-- A closed link behind sends that found room is what the feed meets. -/
theorem cutOff_of_closed {p : Player} {history : FullHistory} {c n : Nat}
    (hc : p.catchupCursor = some c) (hleft : p.left = none) (hfirst : history.firstSeq ≤ c)
    (hn : n < (history.since c).length) (hroom : ∀ i < n, p.link.finds (p.link.tries + i) = .room)
    (hclosed : p.link.finds (p.link.tries + n) = .closed) : p.cutOff history = true := by
  have hfind : ((List.range (history.since c).length).map fun i =>
      p.link.finds (p.link.tries + i)).find? (fun found => found != .room) = some .closed := by
    rw [List.find?_eq_some_iff_getElem]
    refine ⟨rfl, n, by simpa using hn, by simpa using hclosed, ?_⟩
    intro j hj
    simpa using hroom j hj
  unfold cutOff
  rw [hc]
  dsimp only
  rw [hfind, hleft, decide_eq_true hfirst]
  rfl

/-- Which send finds it closed: the ones before it find room. -/
theorem closed_of_cutOff {p : Player} {history : FullHistory} (h : p.cutOff history = true) :
    ∃ c n, p.catchupCursor = some c ∧ p.left = none ∧ history.firstSeq ≤ c
      ∧ n < (history.since c).length ∧ (∀ i < n, p.link.finds (p.link.tries + i) = .room)
      ∧ p.link.finds (p.link.tries + n) = .closed := by
  unfold cutOff at h
  cases hc : p.catchupCursor with
  | none =>
      rw [hc] at h
      cases h
  | some c =>
      rw [hc] at h
      dsimp only at h
      rw [Bool.and_eq_true, Bool.and_eq_true, Option.isNone_iff_eq_none, decide_eq_true_eq,
        beq_iff_eq, List.find?_eq_some_iff_getElem] at h
      obtain ⟨⟨hleft, hfirst⟩, -, n, hn, hclosed, hroom⟩ := h
      refine ⟨c, n, rfl, hleft, hfirst, by simpa using hn, fun i hi => ?_, by simpa using hclosed⟩
      simpa using hroom i hi

/-- Where the feed leaves a player that is in the game: the cursor stays
armed, or there was none, or the catch-up goes on without it — unless
the link was found closed and the player is now held. -/
theorem feed_catchUp (p : Player) (now : Nat) (history : FullHistory) :
    (p.feed now history).left.isSome ∨ (p.feed now history).catchupCursor.isSome
      ∨ (p.feed now history).catchingUp = true ∨ p.feed now history = p
      ∨ (p.gproxy = true ∧ p.disconnectedSince = none ∧ p.cutOff history = true) := by
  unfold feed
  cases hc : p.catchupCursor with
  | none => exact .inr (.inr (.inr (.inl rfl)))
  | some c =>
      dsimp only
      split
      · rename_i hleft
        exact .inl hleft
      rename_i hleft
      have hleft' : p.left = none := by simpa using hleft
      split
      · exact .inl rfl
      rename_i hev
      -- what the cursor points at is still in the history
      have hfirst : history.firstSeq ≤ c := Nat.le_of_not_lt hev
      obtain ⟨n, hn, hcur, -, -, -, -, hroom, hend⟩ := feedPackets_spec now (history.since c) c p
      have hlen : (history.since c).length = history.log.length - c := by
        rw [Lib.Ring.since_eq hfirst, List.length_drop]
      rw [hcur, Lib.Ring.nextSeq_eq]
      -- the feed stops at the end, at a full queue or at a closed link
      cases hend with
      | drained hn' _ _ _ hcu =>
          rw [if_pos (by simp [hcu, hc]), if_pos (by omega)]
          exact .inr (.inr (.inl rfl))
      | blocked hn' _ _ _ _ hcu =>
          rw [if_pos (by simp [hcu, hc]), if_neg (by omega)]
          exact .inr (.inl rfl)
      | held hn' hclosed _ hg hno _ _ _ =>
          exact .inr (.inr
            (.inr (.inr ⟨hg, hno, cutOff_of_closed hc hleft' hfirst hn' hroom hclosed⟩)))
      | dropped _ _ _ _ hl _ hcu =>
          rw [if_neg (by simp [hcu]), hl]
          exact .inl rfl

/-- The feed starts an absence only for a GProxy player, and at once. -/
theorem feed_disconnectedSince (p : Player) (now : Nat) (history : FullHistory) :
    (p.feed now history).disconnectedSince = p.disconnectedSince
      ∨ (p.gproxy = true
        ∧ (p.feed now history).disconnectedSince = p.disconnectedSince.or (some now)) := by
  cases p.feeds_feed now history with
  | idle _ hq => exact .inl (by rw [hq])
  | gone _ _ hq => exact .inl (by rw [hq])
  | evicted _ _ _ hq => exact .inl (by rw [hq])
  | fed _ _ _ _ _ _ _ _ _ hend =>
      cases hend with
      | drained _ _ _ hd _ => exact .inl hd
      | blocked _ _ _ _ hd _ => exact .inl hd
      | held _ _ _ hg hno _ hd _ => exact .inr ⟨hg, by rw [hd, hno, Option.none_or]⟩
      | dropped _ _ _ _ _ hd _ => exact .inl hd

-- ============================================================== bare sends

/-- A replay changes the link only. -/
theorem sendWhileOk_eq (p : Player) (packets : List Packet) :
    ∃ link, p.sendWhileOk packets = { p with link := link } := by
  induction packets generalizing p with
  | nil => exact ⟨p.link, rfl⟩
  | cons b rest ih =>
      unfold sendWhileOk PlayerLink.trySend
      cases p.link.next with
      | room =>
          obtain ⟨link, h⟩ := ih { p with link := p.link.push ⟨b, .personal⟩ }
          exact ⟨link, h⟩
      | full => exact ⟨_, rfl⟩
      | closed => exact ⟨_, rfl⟩

/-- Sends on a link enqueue a first part of the packets, each on its
own. -/
theorem sendWhileOk_sent (p : Player) (packets : List Packet) :
    ∃ n ≤ packets.length, (p.sendWhileOk packets).link.sent
      = p.link.sent ++ (packets.take n).map fun b => ⟨b, .personal⟩ := by
  induction packets generalizing p with
  | nil => exact ⟨0, Nat.le_refl 0, (List.append_nil _).symm⟩
  | cons b rest ih =>
      unfold sendWhileOk PlayerLink.trySend
      cases hnext : p.link.next with
      | room =>
          obtain ⟨n, hn, h⟩ := ih { p with link := p.link.push ⟨b, .personal⟩ }
          refine ⟨n + 1, Nat.succ_le_succ hn, ?_⟩
          dsimp only
          rw [h, PlayerLink.push_sent_room _ hnext, List.append_assoc, List.take_succ_cons,
            List.map_cons, List.singleton_append]
      | full =>
          refine ⟨0, Nat.zero_le _, ?_⟩
          rw [List.take_zero, List.map_nil, List.append_nil]
          exact PlayerLink.push_sent_blocked _ (by simp [hnext])
      | closed =>
          refine ⟨0, Nat.zero_le _, ?_⟩
          rw [List.take_zero, List.map_nil, List.append_nil]
          exact PlayerLink.push_sent_blocked _ (by simp [hnext])

/-- A GPS reconnect changes the connection, the link and the two flags
of absence. -/
theorem attachGps_eq (p : Player) (connId : Nat) (link : PlayerLink) (received : Nat)
    (replay : List Packet) :
    ∃ link', p.attachGps connId link received replay
      = { p with connId := connId, link := link', disconnectedSince := none, left := none } := by
  unfold attachGps
  obtain ⟨link', h⟩ := sendWhileOk_eq
    (sendDirect { p with connId := connId, link := link, disconnectedSince := none, left := none }
      (.reconnectOk received)) replay
  exact ⟨link', h⟩

/-- What a GPS reconnect enqueues on a new link is for this player
alone. -/
theorem attachGps_personal (p : Player) (connId : Nat) {link : PlayerLink} (hlink : link.sent = [])
    (received : Nat) (replay : List Packet) :
    ∀ e ∈ (p.attachGps connId link received replay).link.sent, e.via = .personal := by
  unfold attachGps
  dsimp only
  obtain ⟨n, -, hsent⟩ := sendWhileOk_sent
    (sendDirect { p with connId := connId, link := link, disconnectedSince := none, left := none }
      (.reconnectOk received)) replay
  intro e he
  rw [hsent, List.mem_append, List.mem_map] at he
  rcases he with he | ⟨b, -, rfl⟩
  · rcases link.push_sent_cases ⟨.reconnectOk received, .personal⟩ with h | h
    · have he' : e ∈ link.sent ++ [⟨.reconnectOk received, .personal⟩] := h ▸ he
      rw [hlink, List.nil_append, List.mem_singleton] at he'
      rw [he']
    · have he' : e ∈ link.sent := h ▸ he
      rw [hlink] at he'
      cases he'
  · rfl

end Player

/-- The player a GPS reconnect re-attaches is found again under its
id. -/
theorem PlayerTable.byPid_attachGps {t : PlayerTable} {pid : UInt8} {p : Player}
    (h : t.byPid pid = some p) (connId : Nat) (link : PlayerLink) (received : Nat)
    (replay : List Packet) :
    (t.modifyPid pid fun q => q.attachGps connId link received replay).byPid pid
      = some (p.attachGps connId link received replay) := by
  unfold byPid modifyPid
  rw [Lib.find?_updateFirst fun q _ hq => ?_]
  · exact congrArg _ h
  · obtain ⟨link', he⟩ := q.attachGps_eq connId link received replay
    rw [he]
    exact hq

end Spectre

/-
One link, one copy.

Every recorded packet reaches a link at most once, and a link on which
a rejoin handshake is still going on carries nothing else. `LinkInv` is
why: the sequence numbers on a link increase, a rejoining player has no
cursor, and an armed cursor stands above everything the link carries.

The invariant rests on one thing the source does not do. A FULL rejoin
clears the state of the old session except its cursor; if the old
session was still catching up, the feed runs on the new link in the
middle of the handshake, and again from the start after it
(`rejoin_keeps_cursor`). Runs in which no armed cursor is carried over
meet the law.
-/
import Spectre.Seats

namespace Spectre

open GameState

/-- The numbers of the recorded packets on a link, in the order they
were enqueued. -/
def PlayerLink.seqs (l : PlayerLink) : List Nat := l.sent.filterMap Sent.seq?

/-- What a player's link may carry. -/
structure OneCopy (p : Player) : Prop where
  /-- until the handshake ends, its own packets and no others -/
  handshake : p.rejoin ≠ .none → ∀ e ∈ p.link.sent, e.via = .personal
  /-- when it has just ended, neither -/
  ended : p.catchupCursor = some 0 → ∀ e ∈ p.link.sent, e.via = .personal
  /-- every recorded packet at most once -/
  once : p.link.seqs.Nodup

/-- The invariant behind it, in a game whose history has `n` packets. -/
structure LinkInv (n : Nat) (p : Player) : Prop where
  increasing : p.link.seqs.Pairwise (· < ·)
  recorded : ∀ i ∈ p.link.seqs, i < n
  handshake : p.rejoin ≠ .none → p.catchupCursor = none ∧ ∀ e ∈ p.link.sent, e.via = .personal
  armed : ∀ c, p.catchupCursor = some c →
    c ≤ n ∧ ∀ e ∈ p.link.sent, e.via = .personal ∨ ∃ i < c, e.via = .history i

namespace LinkInv

variable {n : Nat} {p q : Player}

theorem oneCopy (h : LinkInv n p) : OneCopy p where
  handshake hr := (h.handshake hr).2
  ended hc e he := by
    rcases (h.armed 0 hc).2 e he with hv | ⟨i, hi, -⟩
    · exact hv
    · exact absurd hi (Nat.not_lt_zero i)
  once := h.increasing.imp fun h' => Nat.ne_of_lt h'

/-- A history that grows keeps the invariant. -/
theorem later (h : LinkInv n p) {m : Nat} (hm : n ≤ m) : LinkInv m p where
  increasing := h.increasing
  recorded i hi := Nat.lt_of_lt_of_le (h.recorded i hi) hm
  handshake := h.handshake
  armed c hc := ⟨Nat.le_trans (h.armed c hc).1 hm, (h.armed c hc).2⟩

/-- A link that carries personal packets only. -/
theorem of_personal (hsent : ∀ e ∈ p.link.sent, e.via = .personal)
    (hidle : p.rejoin ≠ .none → p.catchupCursor = none)
    (hcursor : ∀ c, p.catchupCursor = some c → c ≤ n) : LinkInv n p := by
  have hnone : p.link.seqs = [] := by
    unfold PlayerLink.seqs
    rw [List.filterMap_eq_nil_iff]
    intro e he
    simp only [Sent.seq?, hsent e he]
  exact
    { increasing := hnone ▸ List.Pairwise.nil
      recorded := fun i hi => absurd hi (by simp [hnone])
      handshake := fun hr => ⟨hidle hr, hsent⟩
      armed := fun c hc => ⟨hcursor c hc, fun e he => .inl (hsent e he)⟩ }

theorem newcomer (h : Newcomer p) : LinkInv n p :=
  .of_personal h.sent (fun hr => absurd h.rejoin hr) fun _ hc =>
    nomatch hc.symm.trans h.catchupCursor

/-- Nothing the invariant reads has changed. -/
theorem of_same (h : LinkInv n p) (hlink : q.link.sent = p.link.sent)
    (hrejoin : q.rejoin = p.rejoin)
    (hcursor : q.catchupCursor = p.catchupCursor ∨ q.catchupCursor = none) : LinkInv n q where
  increasing := by
    unfold PlayerLink.seqs
    rw [hlink]
    exact h.increasing
  recorded := by
    unfold PlayerLink.seqs
    rw [hlink]
    exact h.recorded
  handshake hr := by
    rw [hlink]
    refine ⟨?_, (h.handshake (hrejoin ▸ hr)).2⟩
    rcases hcursor with hc | hc
    · exact hc.trans (h.handshake (hrejoin ▸ hr)).1
    · exact hc
  armed c hc := by
    rw [hlink]
    rcases hcursor with hc' | hc'
    · exact h.armed c (hc' ▸ hc)
    · rw [hc'] at hc
      cases hc

/-- A personal packet may be enqueued at any time. -/
theorem push_personal (h : LinkInv n p) (b : Packet) (hlink : q.link = p.link.push ⟨b, .personal⟩)
    (hrejoin : q.rejoin = p.rejoin) (hcursor : q.catchupCursor = p.catchupCursor) :
    LinkInv n q := by
  rcases p.link.push_sent_cases ⟨b, .personal⟩ with hsent | hsent
  · have hseqs : q.link.seqs = p.link.seqs := by
      unfold PlayerLink.seqs
      rw [hlink, hsent, List.filterMap_append]
      simp [Sent.seq?]
    have hmem : ∀ e ∈ q.link.sent, e ∈ p.link.sent ∨ e.via = .personal := by
      intro e he
      rw [hlink, hsent, List.mem_append, List.mem_singleton] at he
      rcases he with he | rfl
      · exact .inl he
      · exact .inr rfl
    refine ⟨hseqs ▸ h.increasing, hseqs ▸ h.recorded, ?_, ?_⟩
    · intro hr
      obtain ⟨hc, hall⟩ := h.handshake (hrejoin ▸ hr)
      refine ⟨hcursor.trans hc, fun e he => ?_⟩
      rcases hmem e he with he | he
      · exact hall e he
      · exact he
    · intro c hc
      obtain ⟨hle, hall⟩ := h.armed c (hcursor ▸ hc)
      refine ⟨hle, fun e he => ?_⟩
      rcases hmem e he with he | he
      · exact hall e he
      · exact .inl he
  · exact h.of_same (by rw [hlink, hsent]) hrejoin (.inl hcursor)

theorem sendDirect (h : LinkInv n p) (b : Packet) : LinkInv n (p.sendDirect b) :=
  h.push_personal b rfl rfl rfl

theorem receive (h : LinkInv n p) (now : Nat) (b : Packet) : LinkInv n (p.receive now b) := by
  rcases p.receive_cases now b with ⟨-, he⟩ | ⟨-, -, he⟩ | ⟨-, -, he⟩
  · rwa [he]
  · rw [he]
    exact h.of_same rfl rfl (.inl rfl)
  · rw [he]
    obtain ⟨-, hcursor, hlink⟩ := (p.buffer b).deliver_fields now b .personal
    exact h.push_personal b hlink ((p.buffer b).kept_deliver now b .personal).rejoin hcursor

/-- A broadcast is offered to a link only when the player is level, and
then under a number the link has not seen. -/
theorem hear (h : LinkInv n p) (now : Nat) (b : Packet) {seq : Option Nat} {m : Nat} (hm : n ≤ m)
    (hseq : ∀ i ∈ seq, n ≤ i ∧ i < m) : LinkInv m (p.hear now b seq) := by
  rcases p.hear_cases now b seq with ⟨-, he⟩ | ⟨-, -, -, he⟩ | ⟨-, -, hrejoin, hcursor, -, he⟩
  · rw [he]
    exact h.later hm
  · rw [he]
    exact (h.later hm).of_same rfl rfl (.inl rfl)
  · rw [he]
    obtain ⟨-, hcur, hlink⟩ := (p.buffer b).deliver_fields now b (.live seq)
    have hkept := (p.buffer b).kept_deliver now b (.live seq)
    generalize (p.buffer b).deliver now b (.live seq) = q at hcur hlink hkept
    rcases p.link.push_sent_cases ⟨b, .live seq⟩ with hsent | hsent
    · have hseqs : q.link.seqs = p.link.seqs ++ seq.toList := by
        unfold PlayerLink.seqs
        rw [hlink]
        show (p.link.push ⟨b, .live seq⟩).sent.filterMap Sent.seq? = _
        rw [hsent, List.filterMap_append]
        cases seq <;> rfl
      -- the packet's number lies above all that went over the link so far
      have hnew : ∀ i ∈ seq.toList, n ≤ i ∧ i < m := fun i hi => hseq i (by simpa using hi)
      refine ⟨?_, ?_, ?_, ?_⟩
      · rw [hseqs, List.pairwise_append]
        refine ⟨h.increasing, ?_, ?_⟩
        · cases seq <;> simp
        · intro i hi j hj
          exact Nat.lt_of_lt_of_le (h.recorded i hi) (hnew j hj).1
      · intro i hi
        rw [hseqs, List.mem_append] at hi
        rcases hi with hi | hi
        · exact Nat.lt_of_lt_of_le (h.recorded i hi) hm
        · exact (hnew i hi).2
      · intro hr
        exact absurd (hkept.rejoin.trans hrejoin) hr
      · intro c hc
        exact nomatch hc.symm.trans (hcur.trans hcursor)
    · refine (h.later hm).of_same ?_ hkept.rejoin (.inl hcur)
      rw [hlink]
      exact hsent

/-- The numbers of a stretch of history. -/
theorem seqs_fed (c : Nat) (l : List Packet) :
    (Player.fed c l).filterMap Sent.seq? = List.range' c l.length := by
  induction l generalizing c with
  | nil => rfl
  | cons b l ih =>
      rw [Player.fed_cons, List.filterMap_cons, List.length_cons, List.range'_succ, ih]
      rfl

theorem via_fed {c : Nat} {l : List Packet} {e : Sent} (he : e ∈ Player.fed c l) :
    ∃ i < c + l.length, e.via = .history i := by
  unfold Player.fed at he
  obtain ⟨⟨b, i⟩, hx, rfl⟩ := List.mem_map.1 he
  obtain ⟨-, hi, -⟩ := List.mem_zipIdx hx
  exact ⟨i, hi, rfl⟩

/-- The feed goes on from the cursor, above everything sent before. -/
theorem feed {history : FullHistory} (h : LinkInv history.log.length p) (now : Nat) :
    LinkInv history.log.length (p.feed now history) := by
  cases p.feeds_feed now history with
  | idle _ he => rwa [he]
  | gone _ _ he =>
      rw [he]
      exact h.of_same rfl rfl (.inr rfl)
  | evicted _ _ _ he =>
      rw [he]
      exact h.of_same rfl rfl (.inr rfl)
  | @fed c k hc _ hfirst hk hkept _ _ hsent _ hend =>
      obtain ⟨hcn, hbelow⟩ := h.armed c hc
      have hlen : (history.since c).length = history.log.length - c := by
        rw [Lib.Ring.since_eq hfirst, List.length_drop]
      have htake : ((history.since c).take k).length = k := by
        rw [List.length_take, Nat.min_eq_left hk]
      have hseqs : (p.feed now history).link.seqs = p.link.seqs ++ List.range' c k := by
        unfold PlayerLink.seqs
        rw [hsent, List.filterMap_append, seqs_fed, htake]
      have hlow : ∀ i ∈ p.link.seqs, i < c := by
        intro i hi
        obtain ⟨e, he, hei⟩ := List.mem_filterMap.1 hi
        rcases hbelow e he with hv | ⟨j, hj, hv⟩
        · simp [Sent.seq?, hv] at hei
        · rw [Sent.seq?, hv] at hei
          exact Option.some.inj hei ▸ hj
      refine ⟨?_, ?_, ?_, ?_⟩
      · rw [hseqs, List.pairwise_append]
        refine ⟨h.increasing, List.pairwise_lt_range', ?_⟩
        intro i hi j hj
        have hi := hlow i hi
        have hj := (List.mem_range'_1.1 hj).1
        omega
      · intro i hi
        rw [hseqs, List.mem_append, List.mem_range'_1] at hi
        rcases hi with hi | hi
        · exact h.recorded i hi
        · omega
      · -- a rejoining player has no cursor to feed from
        intro hr
        have hnone := (h.handshake (hkept.rejoin ▸ hr)).1
        rw [hc] at hnone
        cases hnone
      · intro c' hc'
        have hc'' : c' = c + k := by
          cases hend with
          | blocked _ _ _ _ _ hcur => exact Option.some.inj (hc'.symm.trans hcur)
          | drained _ _ _ _ hcur => exact nomatch hc'.symm.trans hcur
          | held _ _ _ _ _ _ _ hcur => exact nomatch hc'.symm.trans hcur
          | dropped _ _ _ _ _ _ hcur => exact nomatch hc'.symm.trans hcur
        refine ⟨by omega, ?_⟩
        intro e he
        rw [hsent, List.mem_append] at he
        rcases he with he | he
        · rcases hbelow e he with hv | ⟨i, hi, hv⟩
          · exact .inl hv
          · exact .inr ⟨i, by omega, hv⟩
        · obtain ⟨i, hi, hv⟩ := via_fed he
          exact .inr ⟨i, by omega, hv⟩

end LinkInv

-- ===================================================================== steps

/-- Every step in pieces; a FULL rejoin only of a seat without a
cursor. -/
def spentCursor (k : Kind) (s : GameState) : Prop :=
  k.fine = true ∧ match k with
    | .attachFull pid => ∀ p ∈ s.players, p.pid = pid → p.catchupCursor = none
    | _ => True

/-- Every move keeps the invariant. -/
theorem Moves.linkInv {s : GameState} {k : Kind} {p q : Player} (h : Moves s k p q)
    (hair : k ≠ .air) (hk : spentCursor k s) (hp : p ∈ s.players)
    (hI : LinkInv s.fullHistory.log.length p) : LinkInv s.fullHistory.log.length q := by
  cases h with
  | same => exact hI
  | air => exact absurd rfl hair
  | tell b _ _ => exact hI.receive s.now b
  | feed => exact hI.feed s.now
  | note h => exact hI.of_same (by rw [h.link]) h.rejoin (.inl h.catchupCursor)
  | greet b => exact hI.sendDirect b
  | token b _ => exact hI.sendDirect b
  | hail b _ => exact hI.sendDirect b
  | timeout =>
      obtain ⟨_, _, he⟩ := p.loadingTimeout_eq
      rw [he]
      exact hI.of_same rfl rfl (.inl rfl)
  | hold reason code =>
      obtain ⟨_, _, _, he⟩ := p.connClosed_eq s.now reason code
      rw [he]
      exact hI.of_same rfl rfl (.inl rfl)
  | expire =>
      obtain ⟨_, _, _, _, _, he⟩ := p.gproxyTimeout_eq s.now s.cfg.reconnectWait
      rw [he]
      exact hI.of_same rfl rfl (.inl rfl)
  | ack checksum _ =>
      obtain ⟨_, _, he⟩ := p.keepalive_eq s.syncCounter checksum
      rw [he]
      exact hI.of_same rfl rfl (.inl rfl)
  | answer h =>
      obtain ⟨hcursor, hsent⟩ := hI.handshake (by simp [h])
      exact .of_personal hsent (fun _ => hcursor) fun c hc => nomatch hc.symm.trans hcursor
  | tooLong h =>
      obtain ⟨hcursor, hsent⟩ := hI.handshake (by simp [h])
      exact .of_personal hsent (fun _ => hcursor) fun c hc => nomatch hc.symm.trans hcursor
  | arm h =>
      -- the handshake has ended, and the link carries nothing recorded yet
      obtain ⟨-, hsent⟩ := hI.handshake (by simp [h])
      refine .of_personal hsent (fun hr => absurd rfl hr) fun c hc => ?_
      rw [← Option.some.inj hc]
      exact Nat.zero_le _
  | attachFull connId link hlink _ _ =>
      have hcursor : p.catchupCursor = none := hk.2 p hp rfl
      refine .of_personal ?_ (fun _ => hcursor) fun c hc => nomatch hc.symm.trans hcursor
      intro e he
      have he' : e ∈ link.sent := he
      rw [hlink] at he'
      cases he'
  | attachGps connId link hlink _ b _ last replay _ =>
      have hsent := p.attachGps_personal connId hlink b.totalSent replay
      obtain ⟨link', he⟩ := p.attachGps_eq connId link b.totalSent replay
      rw [he] at hsent ⊢
      exact .of_personal hsent (fun hr => (hI.handshake hr).1) fun c hc => (hI.armed c hc).1
  | _ => exact hI.of_same rfl rfl (.inl rfl)

section Loop

variable [RustStd]

/-- The invariant of every player at the table. -/
def LinksInv (s : GameState) : Prop := ∀ p ∈ s.players, LinkInv s.fullHistory.log.length p

/-- Every step keeps the invariant of every player. -/
theorem Step.linksInv {k : Kind} {s t : GameState} (h : Step k s t) (hk : spentCursor k s)
    (hI : LinksInv s) : LinksInv t := by
  intro q hq
  cases h.fate hk.1 hq with
  | stayed hp hlog =>
      rw [hlog]
      exact hI q hp
  | moved hp hm hair hlog =>
      rw [hlog]
      exact hm.linkInv hair hk hp (hI _ hp)
  | heard b _ hp hq hlog =>
      rw [hq]
      refine (hI _ hp).hear s.now b ?_ ?_
      · rw [hlog]
        split
        · rw [List.length_append]
          exact Nat.le_add_right _ _
        · exact Nat.le_refl _
      · intro i hi
        unfold airSeq at hi
        split at hi
        · rename_i hplaying
          rw [Option.mem_some_iff] at hi
          subst hi
          rw [hlog, if_pos hplaying, List.length_append, List.length_singleton]
          exact ⟨Nat.le_refl _, Nat.lt_succ_self _⟩
        · cases hi
  | seated hq _ _ _ => exact .newcomer hq
  | announced hp b _ hq _ _ _ =>
      rw [hq]
      exact LinkInv.hear (.newcomer hp) s.now b (Nat.le_refl _) fun i hi => nomatch hi
  | hosted pid name hq _ =>
      rw [hq]
      exact .of_personal (fun e he => nomatch he) (fun hr => absurd rfl hr) fun c hc => nomatch hc

/-- A FULL rejoin is of a seat whose last catch-up is over. -/
def CursorSpent (s : GameState) (ev : Event) : Prop :=
  ∀ pid ∈ s.fullSeat ev, ∀ p ∈ s.players, p.pid = pid → p.catchupCursor = none

theorem admits_spentCursor {s : GameState} {ev : Event} (hC : CursorSpent s ev) :
    Admits spentCursor s ev := by
  refine admits_fine ?_ { attachFull := fun pid hpid t ht _ => ⟨rfl, ?_⟩ } fun _ _ _ => by trivial
  · intro k hk hg t
    refine ⟨hk, ?_⟩
    cases k <;> trivial
  · intro p hp hpp
    exact hC pid hpid p (ht ▸ hp) hpp

/-- Every link at the table carries one copy at most. -/
def AllOneCopy (s : GameState) : Prop := ∀ p ∈ s.players, OneCopy p

/-- An iteration keeps the invariant, all the way through. -/
theorem step_linksInv {s : GameState} {ev : Event} (hs : WellFormed s) (hsound : ev.Sound)
    (hC : CursorSpent s ev) (hI : LinksInv s) :
    Does (fun _ u => LinksInv u) s (s.step ev) ∧ LinksInv (s.step ev) :=
  Lib.Path.always (fun _ _ _ hk hst => hst.linksInv hk)
    (does_step hs hsound (admits_spentCursor hC)) hI

/-- In every run in which no FULL rejoin takes over an armed cursor,
every link carries each recorded packet at most once, and none before
the handshake ends: between the iterations, and at every step of the
next one. -/
theorem links_carry_one_copy {t : GameState} (h : Reaches CursorSpent t) :
    AllOneCopy t ∧ ∀ ev, ev.Sound → CursorSpent t ev →
      Does (fun _ u => AllOneCopy u) t (t.step ev) := by
  obtain ⟨hs, hinv⟩ := h.preserves (I := LinksInv) (fun _ _ _ p hp => nomatch hp)
    fun s ev hs hsound hC hI => (step_linksInv hs hsound hC hI).2
  refine ⟨fun p hp => (hinv p hp).oneCopy, ?_⟩
  intro ev hsound hC
  exact Lib.Path.mono (fun _ u hu p hp => (hu p hp).oneCopy) (step_linksInv hs hsound hC hinv).1

end Loop

section Runs

open Scenario

instance (s : GameState) (ev : Event) : Decidable (CursorSpent s ev) :=
  inferInstanceAs (Decidable (∀ pid ∈ s.fullSeat ev, ∀ p ∈ s.players, p.pid = pid →
    p.catchupCursor = none))

/-- The first player uses GProxy, plays two turns, restarts its client
and rejoins up to the load frame. -/
def rejoinedGame : List Event :=
  twoJoin PlayerLink.drained PlayerLink.drained ++ [hello 1] ++ countdown ++ [loaded 1, loaded 2]
    ++ [.elapse 100, .tick 0, .elapse 100, .tick 0]
    ++ [closed 1, connect 3 PlayerLink.drained, full 3 1, join 3 (txt "ann"), mapReady 3, loaded 3]

/-- The feed runs to its end. -/
def caughtUpGame : List Event := rejoinedGame ++ [.elapse 100, .tick 0, .elapse 100, .tick 0]

theorem links_carry_one_copy_caughtUpGame :
    Reaches CursorSpent (lobby.run caughtUpGame)
      ∧ ((lobby.run caughtUpGame).players.map fun p => (p.pid, p.link.seqs))
        = [(1, List.range 7), (2, List.range 7)]
      ∧ AllOneCopy (lobby.run caughtUpGame) := by
  have hrun : Reaches CursorSpent (lobby.run caughtUpGame) :=
    ⟨config, 0, 5, Runs.of_meets (by decide +kernel)⟩
  exact ⟨hrun, by decide +kernel, (links_carry_one_copy hrun).1⟩

/-- Instead the client restarts again before the feed has started, and
a turn is sent while it answers the map check. -/
def rejoinedTwice : List Event :=
  rejoinedGame ++ [closed 3, connect 4 PlayerLink.drained, full 4 1, join 4 (txt "ann"),
    .elapse 100, .tick 0]

/-- The second rejoin is completed, and another turn is sent. -/
def rejoinedTwiceLoaded : List Event :=
  rejoinedTwice ++ [mapReady 4, loaded 4, .elapse 100, .tick 0]

/-- The cursor of the first rejoin feeds the link of the second while
its handshake is still at the map check, and the load frame feeds it
all again. -/
theorem rejoin_keeps_cursor :
    (∀ ev ∈ rejoinedTwiceLoaded, ev.Sound) ∧ (lobby.run rejoinedTwiceLoaded).panicked = false
      ∧ ((lobby.run rejoinedTwice).players.map fun p => (p.pid, p.rejoin, p.link.seqs))
        = [(1, .awaitingMapSize, [0, 1, 2, 3, 4]), (2, .none, [0, 1, 2, 3, 4, 5])]
      ∧ ((lobby.run rejoinedTwiceLoaded).players.map fun p => (p.pid, p.link.seqs))
        = [(1, [0, 1, 2, 3, 4, 0, 1, 2, 3, 4, 5, 6, 7]), (2, [0, 1, 2, 3, 4, 5, 6, 7])]
      ∧ (¬∀ p ∈ (lobby.run rejoinedTwice).players, p.rejoin ≠ .none →
        ∀ e ∈ p.link.sent, e.via = .personal)
      ∧ ¬∀ p ∈ (lobby.run rejoinedTwiceLoaded).players, p.link.seqs.Nodup := by
  refine ⟨by decide +kernel, by decide +kernel, by decide +kernel, by decide +kernel,
    by decide +kernel, by decide +kernel⟩

end Runs

end Spectre

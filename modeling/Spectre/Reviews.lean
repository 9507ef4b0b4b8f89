/-
Every report is compared.

The queue of a player holds its reports from some turn on, and that turn
is the same for everyone the check compares: a sweep drops a turn from
all queues at once, and not before everyone has acknowledged it. So what
is known of the turns before is one list of checksums, which everyone
who is still at the table has reported (`UpTo`), and a difference at a
later turn is still queued on both sides when its turn comes.

The cap of the queue is never reached. The lag check keeps everyone
within the window of `Window`, and each call of the check either drops a
turn or waits for a keepalive; where it waits, a queue is no longer than
its player is ahead.

The turn of an entry is the player's counter, so all of this rests on
the counter counting keepalives. It does for everyone but the player in
the fake player's role, and a seat that has taken over the id of a fake
player has that role too (`stale_role_hides_desync`).
-/
import Spectre.Tally
import Spectre.Verdict

namespace Spectre

open GameState

-- ================================================================== statement

/-- Turns are sent only to players whose counters they cover: the
counter of the game has not gone round. -/
def CoversTurns [RustStd] (s : GameState) : Event → Prop
  | .tick _ => s.phase = .playing → s.tickHead.tickLag.2 = false →
      ∀ p ∈ s.tickHead.tickLag.1.players, p.syncCounter
        ≤ (s.tickHead.tickLag.1.syncCounter + 1) % 2 ^ 32
  | _ => True

/-- The sync limit is at most 500, nobody comes back without its state,
and the clients acknowledge only turns that were sent. -/
structure KeepsPace [RustStd] (s : GameState) (ev : Event) : Prop where
  limit : LimitAtMost 500 s
  noRejoin : s.fullSeat ev = none
  acked : ∀ e ∈ s.accepted ev, e.1.syncCounter < s.syncCounter
  covers : CoversTurns s ev

/-- In addition, the counter of the player in the fake player's role
counts its keepalives, if it sends one. -/
structure KeepsCount [RustStd] (s : GameState) (ev : Event) : Prop extends KeepsPace s ev where
  counted : ∀ e ∈ s.accepted ev, s.fakePlayerPid = some e.1.pid →
    e.1.syncCounter = e.1.reports.length

-- ================================================================== the queues

/-- The entries of the reports after the first `n`. -/
def Player.entriesFrom (p : Player) (n : Nat) : List ChecksumEntry :=
  ((p.reports.drop n).zipIdx (n + 1)).map fun e => ⟨e.2, e.1⟩

section Entries

variable {p q : Player} {n checksum : Nat}

/-- There are none after the last. -/
theorem entriesFrom_of_le (h : p.reports.length ≤ n) : p.entriesFrom n = [] := by
  unfold Player.entriesFrom
  rw [List.drop_eq_nil_of_le h]
  rfl

/-- The next one, and those after it. -/
theorem entriesFrom_of_lt (h : n < p.reports.length) :
    p.entriesFrom n = ⟨n + 1, p.reports[n]⟩ :: p.entriesFrom (n + 1) := by
  unfold Player.entriesFrom
  rw [List.drop_eq_getElem_cons h, List.zipIdx_cons, List.map_cons]

/-- Without the first they begin one later. -/
theorem tail_entriesFrom : (p.entriesFrom n).tail = p.entriesFrom (n + 1) := by
  rcases Nat.lt_or_ge n p.reports.length with h | h
  · rw [entriesFrom_of_lt h, List.tail_cons]
  · rw [entriesFrom_of_le h, entriesFrom_of_le (Nat.le_succ_of_le h)]
    rfl

/-- So many are left. -/
theorem length_entriesFrom : (p.entriesFrom n).length = p.reports.length - n := by
  simp [Player.entriesFrom]

/-- One more report is one more entry. -/
theorem entriesFrom_report (hq : q.reports = p.reports ++ [checksum]) (h : n ≤ p.reports.length) :
    q.entriesFrom n = p.entriesFrom n ++ [⟨p.reports.length + 1, checksum⟩] := by
  have hturn : n + 1 + (p.reports.length - n) = p.reports.length + 1 := by omega
  unfold Player.entriesFrom
  rw [hq, List.drop_append_of_le_length h, List.zipIdx_append, List.map_append, List.length_drop,
    hturn]
  rfl

/-- The turn at the head of a queue. -/
theorem headTurn_of_entries (h : p.checksums = p.entriesFrom n) :
    p.headTurn = if n < p.reports.length then some (n + 1) else none := by
  unfold Player.headTurn
  rw [h]
  split
  · rename_i hlt
    rw [entriesFrom_of_lt hlt]
    rfl
  · rename_i hle
    rw [entriesFrom_of_le (Nat.le_of_not_lt hle)]
    rfl

/-- The checksum at the head of a queue. -/
theorem headSum_of_entries (h : p.checksums = p.entriesFrom n) (hlt : n < p.reports.length) :
    p.headSum = p.reports[n] := by
  unfold Player.headSum
  rw [h, entriesFrom_of_lt hlt]
  rfl

end Entries

/-- Of the first `n` turns the two have reported the same, and every
later report of either is queued. Only the player in the fake player's
role may not have reported all of the first `n`. -/
structure SettledUpTo (fake : Option UInt8) (n : Nat) (p q : Player) : Prop where
  left : p.checksums = p.entriesFrom n ∧ (fake ≠ some p.pid → n ≤ p.reports.length)
  right : q.checksums = q.entriesFrom n ∧ (fake ≠ some q.pid → n ≤ q.reports.length)
  same : ∀ i < n, ∀ a b, p.reports[i]? = some a → q.reports[i]? = some b → a = b

-- ================================================================== invariant

/-- What the checks have found so far: nobody is left to compare with
this player, or these checksums of the first turns. -/
inductive Review where
  | alone (pid : UInt8)
  | agreed (sums : List Nat)

namespace Player

/-- The player has reported what was agreed on, and its later reports
are queued. -/
structure UpTo (sums : List Nat) (limit sync : Nat) (p : Player) : Prop where
  agreed : p.reports.take sums.length <+: sums
  queue : p.checksums = p.entriesFrom sums.length
  settled : sums.length ≤ p.syncCounter
  counted : p.reports.length ≤ p.syncCounter
  sent : p.syncCounter ≤ sync
  short : p.checksums.length ≤ limit

/-- The player fits what the checks have found. -/
def Passed (r : Review) (limit sync : Nat) (p : Player) : Prop :=
  match r with
  | .alone pid => p.pid = pid
  | .agreed sums => p.UpTo sums limit sync

/-- The player does not catch up, takes part in the check of a running
game, and fits what the checks have found. -/
structure Attends (r : Review) (limit : Nat) (s : GameState) (p : Player) : Prop where
  rejoin : p.rejoin = .none
  catchupCursor : p.catchupCursor = none
  catchingUp : p.catchingUp = false
  loaded : s.phase = .playing → p.loaded = true
  passed : p.Passed r limit s.syncCounter

end Player

/-- Every client attends, but for those `A` excuses. -/
structure Reviews (A : Player → Prop) (limit : Nat) (r : Review) (s : GameState) : Prop where
  fresh : s.phase ≠ .playing → s.phase ≠ .over → r = .agreed []
  players : ∀ p ∈ s.players, A p ∨ p.virtualHost = true ∨ p.Attends r limit s

section Attends

variable {s t : GameState} {p q : Player} {r : Review} {limit limit' : Nat} {A : Player → Prop}

/-- A wider window excuses more. -/
theorem Player.Passed.of_le (h : p.Passed r limit s.syncCounter) (hle : limit ≤ limit') :
    p.Passed r limit' s.syncCounter := by
  cases r with
  | alone pid => exact h
  | agreed sums =>
      exact ⟨h.agreed, h.queue, h.settled, h.counted, h.sent, Nat.le_trans h.short hle⟩

namespace Player.Attends

/-- The same, of one that attends. -/
theorem of_le (h : p.Attends r limit s) (hle : limit ≤ limit') : p.Attends r limit' s :=
  ⟨h.rejoin, h.catchupCursor, h.catchingUp, h.loaded, h.passed.of_le hle⟩

/-- Nothing changes that the invariant reads. -/
theorem of_same (h : p.Attends r limit s) (hpid : q.pid = p.pid) (hrejoin : q.rejoin = p.rejoin)
    (hcursor : q.catchupCursor = p.catchupCursor) (hup : q.catchingUp = p.catchingUp)
    (hloaded : p.loaded = true → q.loaded = true) (hsync : q.syncCounter = p.syncCounter)
    (hqueue : q.checksums = p.checksums) (hreports : q.reports = p.reports) :
    q.Attends r limit s where
  rejoin := hrejoin.trans h.rejoin
  catchupCursor := hcursor.trans h.catchupCursor
  catchingUp := hup.trans h.catchingUp
  loaded hplay := hloaded (h.loaded hplay)
  passed := by
    have hpassed := h.passed
    cases r with
    | alone pid => exact hpid.trans hpassed
    | agreed sums =>
        have hentries : q.entriesFrom sums.length = p.entriesFrom sums.length := by
          unfold entriesFrom
          rw [hreports]
        exact ⟨hreports ▸ hpassed.agreed, by rw [hqueue, hentries]; exact hpassed.queue,
          hsync ▸ hpassed.settled, hreports ▸ hsync ▸ hpassed.counted, hsync ▸ hpassed.sent,
          hqueue ▸ hpassed.short⟩

/-- A packet to all changes no counter of the player. -/
theorem hear (h : p.Attends r limit s) (now : Nat) (b : Packet) (seq : Option Nat) :
    (p.hear now b seq).Attends r limit s := by
  have hk := p.kept_hear now b seq
  obtain ⟨hcursor, hup⟩ := p.hear_catchUp now b seq
  exact h.of_same hk.pid hk.rejoin hcursor hup (fun hl => hk.loaded.trans hl) hk.syncCounter
    hk.checksums hk.reports

/-- A player that has reported nothing fits if nothing was agreed on. -/
theorem of_silent (hrejoin : p.rejoin = .none) (hcursor : p.catchupCursor = none)
    (hup : p.catchingUp = false) (hloaded : s.phase = .playing → p.loaded = true)
    (hqueue : p.checksums = []) (hreports : p.reports = []) (hsync : p.syncCounter = 0) :
    p.Attends (.agreed []) limit s where
  rejoin := hrejoin
  catchupCursor := hcursor
  catchingUp := hup
  loaded := hloaded
  passed :=
    { agreed := List.take_zero ▸ List.prefix_rfl
      queue := by
        rw [hqueue, entriesFrom_of_le (by rw [hreports])]
      settled := Nat.zero_le _
      counted := by
        rw [hreports]
        exact Nat.zero_le _
      sent := by
        rw [hsync]
        exact Nat.zero_le _
      short := by
        rw [hqueue]
        exact Nat.zero_le _ }

end Player.Attends

/-- The same, of everybody. -/
theorem Reviews.of_le (h : Reviews A limit r s) (hle : limit ≤ limit') : Reviews A limit' r s :=
  ⟨h.fresh, fun p hp => (h.players p hp).imp_right (Or.imp_right fun ha => ha.of_le hle)⟩

end Attends

-- ======================================================================= steps

/-- Every function in pieces but for the desync check. A keepalive is
not counted, and no seat is taken over without its state. -/
def reviewing [RustStd] (k : Kind) (s : GameState) : Prop :=
  match k with
  | .ack .. | .pop | .desync | .attachFull _ => False
  | .check => s.phase = .playing
  | .attachGps _ => ∃ r, Reviews (fun _ => False) 501 r s
  | .turn => ∀ p ∈ s.players, p.syncCounter ≤ (s.syncCounter + 1) % 2 ^ 32
  | k => k.fine = true

section Steps

variable [RustStd] {s t : GameState} {p q : Player} {r : Review} {limit : Nat} {k : Kind}
  {A : Player → Prop}

/-- What every command may do is among these steps. -/
theorem plain_reviewing : Plain reviewing := by
  intro k hk _
  cases k <;> first | exact rfl | cases hk

/-- Of the whole functions only the check is among them. -/
theorem fine_of_reviewing (h : reviewing k s) (hk : k ≠ .check) : k.fine = true := by
  cases k <;> first | rfl | exact absurd rfl hk | exact h

/-- A move keeps a player attending, but for the start of the game. -/
theorem Moves.attends (h : Moves s k p q) (hk : reviewing k s) (hrestart : k ≠ .restart)
    (hI : p.Attends r limit s) : q.Attends r limit s := by
  cases h with
  | same => exact hI
  | air b _ => exact hI.hear _ _ _
  | tell b _ _ =>
      have hk := p.kept_receive s.now b
      obtain ⟨hcursor, hup⟩ := p.receive_catchUp s.now b
      exact hI.of_same hk.pid hk.rejoin hcursor hup (fun hl => hk.loaded.trans hl) hk.syncCounter
        hk.checksums hk.reports
  | feed =>
      -- nobody catches up
      have hidle : p.feed s.now s.fullHistory = p := by
        unfold Player.feed
        rw [hI.catchupCursor]
      rwa [hidle]
  | note h =>
      exact hI.of_same h.pid h.rejoin h.catchupCursor h.catchingUp (fun hl => h.loaded.trans hl)
        h.syncCounter h.checksums h.reports
  | timeout =>
      obtain ⟨_, _, he⟩ := p.loadingTimeout_eq
      rw [he]
      exact hI.of_same rfl rfl rfl rfl id rfl rfl rfl
  | hold reason code =>
      obtain ⟨_, _, _, he⟩ := p.connClosed_eq s.now reason code
      rw [he]
      exact hI.of_same rfl rfl rfl rfl id rfl rfl rfl
  | expire =>
      obtain ⟨_, _, _, _, _, he⟩ := p.gproxyTimeout_eq s.now s.cfg.reconnectWait
      rw [he]
      exact hI.of_same rfl rfl rfl rfl id rfl rfl rfl
  | answer hstage =>
      rw [hI.rejoin] at hstage
      cases hstage
  | tooLong hstage =>
      rw [hI.rejoin] at hstage
      cases hstage
  | arm hstage =>
      rw [hI.rejoin] at hstage
      cases hstage
  | load t => exact hI.of_same rfl rfl rfl rfl (fun _ => rfl) rfl rfl rfl
  | level _ =>
      refine ⟨hI.rejoin, hI.catchupCursor, hI.catchingUp, hI.loaded, ?_⟩
      have hpassed := hI.passed
      cases r with
      | alone pid => exact hpassed
      | agreed sums =>
          exact ⟨hpassed.agreed, hpassed.queue, Nat.le_trans hpassed.settled hpassed.sent,
            Nat.le_trans hpassed.counted hpassed.sent, Nat.le_refl _, hpassed.short⟩
  | restart => exact absurd rfl hrestart
  | attachGps connId link _ _ b _ last replay _ =>
      obtain ⟨link', he⟩ := p.attachGps_eq connId link b.totalSent replay
      rw [he]
      exact hI.of_same rfl rfl rfl rfl id rfl rfl rfl
  | ack => exact hk.elim
  | pop => exact hk.elim
  | desync => exact hk.elim
  | attachFull => exact hk.elim
  | _ => exact hI.of_same rfl rfl rfl rfl id rfl rfl rfl

/-- Only the start of the game leads into it, and nothing leads back to
the lobby. -/
theorem Step.phaseStep (h : Step k s t) (hk : k.fine = true) :
    k = .restart ∨ t.phase = s.phase ∨ PhaseStep s.phase t.phase := by
  cases h with
  | misc h _ => exact .inr (.inl h.phase)
  | seat sid player _ _ _ _ info _ =>
      obtain ⟨ps, he⟩ := sendOthersDirect?_eq ({ s with
        slots := (s.slots.occupySlot sid player.pid).1
        players := s.players ++ [(s.joinBurst player).foldl Player.sendDirect player] })
        player.pid info
      rw [he]
      exact .inr (.inl rfl)
  | seatFake sid p _ _ _ _ _ info _ =>
      obtain ⟨ps, hist, aired, he⟩ := broadcast?_eq ({ s with
        players := s.players ++ [p], slots := (s.slots.occupySlot sid p.pid).1
        fakePlayerPid := some p.pid }) info
      rw [he]
      exact .inr (.inl rfl)
  | host pid _ _ info _ =>
      obtain ⟨ps, hist, aired, he⟩ := s.broadcast?_eq info
      rw [he]
      exact .inr (.inl rfl)
  | air b _ | airLag b _ | reset b _ => exact .inr (.inl (broadcast_phase s b))
  | block b _ f => exact .inr (.inl (broadcast_phase _ b))
  | unseat | unhost | unfake => exact .inr (.inl (broadcast_phase _ _))
  | phase ph h _ => exact .inr (.inr h)
  | toLoading h => exact .inr (.inr h)
  | restart => exact .inl rfl
  | reap => cases hk
  | begin => cases hk
  | loaded => cases hk
  | lagCheck => cases hk
  | check => cases hk
  | sendTurn => cases hk
  | _ => exact .inr (.inl rfl)

omit [RustStd] in
/-- A state with the same counter, in which the game runs only if it
did. -/
theorem Player.Attends.of_state (h : p.Attends r limit s)
    (hplay : t.phase = .playing → s.phase = .playing)
    (hsync : t.syncCounter = s.syncCounter) : p.Attends r limit t :=
  ⟨h.rejoin, h.catchupCursor, h.catchingUp, fun hp => h.loaded (hplay hp), hsync ▸ h.passed⟩

/-- A step keeps everyone attending, but for those `A` excuses; the
start of the game excuses nobody else. -/
theorem Step.reviews (h : Step k s t) (hk : reviewing k s) (hfine : k.fine = true)
    (hmoves : ∀ p ∈ s.players, ∀ q, Moves s k p q → A p →
      A q ∨ q.virtualHost = true ∨ q.Attends r limit s)
    (hstart : ∀ p, A p → A p.beginPlaying) (hhear : ∀ p now b seq, A p → A (p.hear now b seq))
    (hI : Reviews A limit r s) : ∃ r', Reviews A limit r' t := by
  -- a restart empties every queue of reports, so it is judged on its own
  by_cases hrestart : k = .restart
  · subst hrestart
    cases h with
    | misc _ hb => cases hb
    | table hon => cases hon
    | restart =>
        refine ⟨.agreed [], fun _ _ => rfl, fun q hq => ?_⟩
        obtain ⟨p, hp, rfl⟩ := List.mem_map.1 (show q ∈ s.players.map Player.beginPlaying from hq)
        rcases hI.players p hp with ha | hv | hp
        · exact .inl (hstart p ha)
        · exact .inr (.inl hv)
        · exact .inr (.inr (.of_silent hp.rejoin hp.catchupCursor hp.catchingUp (fun _ => rfl) rfl
            rfl
            rfl))
  -- the other steps only move the phase forward
  have hphase := (h.phaseStep hfine).resolve_left hrestart
  have hplay : t.phase = .playing → s.phase = .playing := by
    intro hp
    rcases hphase with he | hstep
    · rw [← he, hp]
    · rw [hp] at hstep
      cases hs : s.phase <;> rw [hs] at hstep <;> cases hstep
  have hfresh : t.phase ≠ .playing → t.phase ≠ .over → r = .agreed [] := by
    intro hnp hno
    rcases hphase with he | hstep
    · exact hI.fresh (he ▸ hnp) (he ▸ hno)
    · refine hI.fresh (fun hs => ?_) fun hs => ?_
      · rw [hs] at hstep
        cases ht : t.phase <;> rw [ht] at hstep <;> first | exact absurd ht hno | cases hstep
      · rw [hs] at hstep
        cases ht : t.phase <;> rw [ht] at hstep <;> first | exact absurd ht hno | cases hstep
  -- a turn counts up, the rest leave the counter where it was
  rcases h.counter hfine with rfl | hr | ⟨-, hsync, -⟩
  · cases h with
    | misc _ hb => cases hb
    | table hon => cases hon
    | turn elapsed _ =>
        refine ⟨r, hfresh, fun p hp => (hI.players p hp).imp_right (Or.imp_right fun ha => ?_)⟩
        refine ⟨ha.rejoin, ha.catchupCursor, ha.catchingUp, ha.loaded, ?_⟩
        have hpassed := ha.passed
        cases r with
        | alone pid => exact hpassed
        | agreed sums =>
            -- of all this only the distance to the turn counter has changed
            exact ⟨hpassed.agreed, hpassed.queue, hpassed.settled, hpassed.counted, hk p hp,
              hpassed.short⟩
  · exact absurd hr hrestart
  · refine ⟨r, hfresh, fun q hq => ?_⟩
    have hall := h.forall_players
      (P := fun p => A p ∨ p.virtualHost = true ∨ p.Attends r limit s) hfine ?_ ?_ ?_ ?_
        hI.players q hq
    · exact hall.imp_right (Or.imp_right fun ha => ha.of_state hplay hsync)
    · rintro p hp q hm (ha | hv | ha)
      · exact hmoves p hp q hm ha
      · exact .inr (.inl (hm.identity.2.2.trans hv))
      · exact .inr (.inr (hm.attends hk hrestart ha))
    · rintro p now b seq (ha | hv | ha)
      · exact .inl (hhear p now b seq ha)
      · exact .inr (.inl ((p.kept_hear now b seq).virtualHost.trans hv))
      · exact .inr (.inr (ha.hear now b seq))
    · -- who sits down in the lobby has reported nothing yet
      intro hlobby p hp
      rw [hI.fresh (by rw [hlobby]; simp) (by rw [hlobby]; simp)]
      refine .inr (.inr (.of_silent hp.rejoin hp.catchupCursor hp.catchingUp ?_
        hp.checksums hp.reports
        hp.syncCounter))
      rw [hlobby]
      intro h
      cases h
    · exact fun pid name => .inr (.inl rfl)

end Steps

-- =================================================================== the check

/-- What the sweep of a turn does to a player: it may be marked, and its
entry of the turn is dropped. -/
structure Swept (target : Nat) (p q : Player) : Prop where
  pid : q.pid = p.pid
  virtualHost : q.virtualHost = p.virtualHost
  rejoin : q.rejoin = p.rejoin
  catchupCursor : q.catchupCursor = p.catchupCursor
  catchingUp : q.catchingUp = p.catchingUp
  loaded : q.loaded = p.loaded
  syncCounter : q.syncCounter = p.syncCounter
  reports : q.reports = p.reports
  left : q.left = none → p.left = none
  checksums : p.inDesyncCheck = true →
    q.checksums = if p.headTurn = some target then p.checksums.tail else p.checksums

/-- The player is marked as left. -/
abbrev Excused (p : Player) : Prop := p.left.isSome = true

section Check

variable {s t : GameState} {p q : Player} {r : Review} {limit target sum : Nat} {sums : List Nat}

/-- The sweep does to a player what it is said to do. -/
theorem swept_sweep (target : Nat) (p : Player) : Swept target p (p.sweep target) := by
  unfold Player.sweep
  split
  · rename_i h
    exact ⟨rfl, rfl, rfl, rfl, rfl, rfl, rfl, rfl, id, fun _ => by rw [if_pos h.2]; rfl⟩
  · rename_i h
    refine ⟨rfl, rfl, rfl, rfl, rfl, rfl, rfl, rfl, id, fun hc => ?_⟩
    rw [if_neg fun ht => h ⟨hc, ht⟩]

/-- A packet to all takes no mark back. -/
theorem Heard.left_none {now : Nat} (h : Heard now p q) (hl : q.left = none) : p.left = none := by
  rcases h with rfl | ⟨b, seq, rfl⟩
  · exact hl
  · rcases p.hear_cases now b seq with ⟨-, he⟩ | ⟨hp, -⟩ | ⟨hp, -⟩
    · rwa [he] at hl
    · exact hp
    · exact hp

/-- Nor does it change a catch-up. -/
theorem Heard.catchUp {now : Nat} (h : Heard now p q) :
    q.catchupCursor = p.catchupCursor ∧ q.catchingUp = p.catchingUp := by
  rcases h with rfl | ⟨b, seq, rfl⟩
  · exact ⟨rfl, rfl⟩
  · exact p.hear_catchUp now b seq

/-- The players the check compares are the clients that are still at the
table. -/
theorem Reviews.attends (hI : Reviews Excused limit r s) (hp : p ∈ s.compared) :
    p.Attends r limit s := by
  obtain ⟨hmem, hcheck⟩ := mem_compared.1 hp
  simp only [Player.inDesyncCheck, Bool.and_eq_true, Bool.not_eq_true'] at hcheck
  rcases hI.players p hmem with hm | hv | ha
  · rw [Excused, left_of_compared hp] at hm
    cases hm
  · rw [hcheck.1.1.2] at hv
    cases hv
  · exact ha

/-- Who attends is compared. -/
theorem mem_compared_of_attends (hplay : s.phase = .playing) (hp : p ∈ s.players)
    (hl : p.left = none)
    (hv : p.virtualHost = false) (ha : p.Attends r limit s) : p ∈ s.compared :=
  mem_compared.2 ⟨hp, by simp [Player.inDesyncCheck, hl, hv, ha.loaded hplay, ha.catchingUp]⟩

/-- So every client at the table is, unless it is marked. -/
theorem Reviews.compared_of_mem (hI : Reviews Excused limit r s) (hplay : s.phase = .playing)
    (hp : p ∈ s.players) (hl : p.left = none) (hv : p.virtualHost = false) : p ∈ s.compared := by
  rcases hI.players p hp with hm | hv' | ha
  · rw [Excused, hl] at hm
    cases hm
  · rw [hv] at hv'
    cases hv'
  · exact mem_compared_of_attends hplay hp hl hv ha

/-- The oldest queued turn is the first that was not agreed on. -/
theorem Reviews.due (hI : Reviews Excused limit (.agreed sums) s)
    (hmin : minTurn s.compared = some target) : target = sums.length + 1 := by
  obtain ⟨⟨p, hp, hturn⟩, -⟩ := minTurn_eq_some hmin
  rw [headTurn_of_entries (hI.attends hp).passed.queue] at hturn
  split at hturn
  · exact (Option.some.inj hturn).symm
  · cases hturn

/-- The turn after those agreed on is settled for a player. -/
theorem Player.UpTo.next {sync : Nat} (h : p.UpTo sums limit sync)
    (hacked : sums.length + 1 ≤ p.syncCounter)
    (hsum : ∀ hlt : sums.length < p.reports.length, p.reports[sums.length] = sum)
    (hs : Swept (sums.length + 1) p q) (hcheck : p.inDesyncCheck = true) :
    q.UpTo (sums ++ [sum]) (limit - 1) sync := by
  have hlen : (sums ++ [sum]).length = sums.length + 1 := by simp
  -- the entry of the turn is popped, if it was there at all
  have hqueue : q.checksums = p.checksums.tail := by
    rw [hs.checksums hcheck]
    split
    · rfl
    · rename_i hno
      rw [headTurn_of_entries h.queue] at hno
      have hle : p.reports.length ≤ sums.length := by
        by_contra hlt
        exact hno (if_pos (Nat.lt_of_not_le hlt))
      rw [h.queue, entriesFrom_of_le hle]
      rfl
  have hentries : q.entriesFrom (sums.length + 1) = p.entriesFrom (sums.length + 1) := by
    unfold entriesFrom
    rw [hs.reports]
  refine ⟨?_, ?_, ?_, ?_, ?_, ?_⟩
  · rw [hlen, hs.reports]
    -- either the player has reported this turn, with the sum agreed on, or not yet
    rcases Nat.lt_or_ge sums.length p.reports.length with hlt | hle
    · have htake : p.reports.take sums.length = sums := by
        refine h.agreed.eq_of_length ?_
        rw [List.length_take]
        omega
      have hnext : p.reports.take (sums.length + 1) = sums ++ [sum] := by
        rw [List.take_succ_eq_append_getElem hlt, htake, hsum hlt]
      exact hnext ▸ List.prefix_rfl
    · have hall : p.reports.take (sums.length + 1) = p.reports.take sums.length := by
        rw [List.take_of_length_le hle, List.take_of_length_le (Nat.le_succ_of_le hle)]
      rw [hall]
      exact h.agreed.trans (List.prefix_append _ _)
  · rw [hlen, hqueue, hentries, h.queue, tail_entriesFrom]
  · rw [hlen, hs.syncCounter]
    exact hacked
  · rw [hs.reports, hs.syncCounter]
    exact h.counted
  · rw [hs.syncCounter]
    exact h.sent
  · have hshort := h.short
    rw [hqueue, List.length_tail]
    omega

/-- A sweep settles a turn for everyone it does not mark. -/
theorem Reviews.sweep {f : Player → Player} (hI : Reviews Excused limit r s) (sum : Nat)
    (hplay : s.phase = .playing)
    (hmin : minTurn s.compared = some target) (hacked : ∀ p ∈ s.compared, target ≤ p.syncCounter)
    (hf : ∀ p ∈ s.players, Swept target p (f p))
    (hsum : ∀ p ∈ s.compared, p.headTurn = some target → (f p).left = none → p.headSum = sum)
    (hplayers : t.players = s.players.map f) (hphase : t.phase = s.phase)
    (hsync : t.syncCounter = s.syncCounter) : ∃ r', Reviews Excused (limit - 1) r' t := by
  have hplay' : t.phase ≠ .playing → False := fun h => h (hphase.trans hplay)
  -- whoever is still there after the sweep has passed the turn, if those compared have
  have hkeep : ∀ r', (∀ p ∈ s.compared, (f p).left = none →
      (f p).Passed r' (limit - 1) s.syncCounter) → Reviews Excused (limit - 1) r' t := by
    intro r' hpassed
    refine ⟨fun h _ => (hplay' h).elim, fun q hq => ?_⟩
    rw [hplayers] at hq
    obtain ⟨p, hp, rfl⟩ := List.mem_map.1 hq
    have hs := hf p hp
    cases hl : (f p).left with
    | some reason => exact .inl (by rw [Excused, hl]; rfl)
    | none =>
        rcases hI.players p hp with hm | hv | ha
        · rw [Excused, hs.left hl] at hm
          cases hm
        · exact .inr (.inl (hs.virtualHost.trans hv))
        · by_cases hv : p.virtualHost = true
          · exact .inr (.inl (hs.virtualHost.trans hv))
          · have hc := mem_compared_of_attends hplay hp (hs.left hl) (by simpa using hv) ha
            refine .inr (.inr ⟨hs.rejoin.trans ha.rejoin, hs.catchupCursor.trans ha.catchupCursor,
              hs.catchingUp.trans ha.catchingUp, fun _ => hs.loaded.trans (ha.loaded hplay), ?_⟩)
            rw [hsync]
            exact hpassed p hc hl
  cases r with
  | alone pid =>
      refine ⟨.alone pid, hkeep _ fun p hp _ => ?_⟩
      exact (hf p (mem_compared.1 hp).1).pid.trans (hI.attends hp).passed
  | agreed sums =>
      -- the turn compared is the first one not agreed on
      have hdue := hI.due hmin
      subst hdue
      refine ⟨.agreed (sums ++ [sum]), hkeep _ fun p hp hl => ?_⟩
      have hpassed := (hI.attends hp).passed
      refine hpassed.next (hacked p hp) (fun hlt => ?_) (hf p (mem_compared.1 hp).1)
        (mem_compared.1 hp).2
      rw [← headSum_of_entries hpassed.queue hlt]
      exact hsum p hp (by rw [headTurn_of_entries hpassed.queue, if_pos hlt]) hl

end Check

section Turns

variable [RustStd] {s t u : GameState} {p q : Player} {r : Review} {limit target k a b : Nat}

/-- A disagreement touches the players and what is said to them only. -/
theorem disagree_framed (s : GameState) (kicked pids : List UInt8) :
    Framed s (((s.sendChatAll (txt "Desync detected!")).kickDesynced kicked).popChecksums pids) :=
  Does.framed (((does_sendChatAll plain_inertOnly s _).trans
    (does_kickDesynced (fun _ => rfl) _ _)).trans (does_popChecksums (fun _ => rfl) _ _))

/-- A sweep changes no phase. -/
theorem Sweep.phase {go : Bool} (h : Sweep s t go) : t.phase = s.phase := by
  cases h with
  | disagree target _ _ _ _ kicked _ => exact (disagree_framed s kicked _).phase
  | _ => rfl

/-- A disagreement settles its turn for everyone it does not kick: of
those who differ one is kicked. -/
theorem Reviews.disagree (hI : Reviews Excused limit r s) (hnd : (s.players.map Player.pid).Nodup)
    (hplay : s.phase = .playing) (hmin : minTurn s.compared = some target)
    (hacked : ∀ p ∈ s.compared, target ≤ p.syncCounter) {kicked : List UInt8}
    (hkicked : ∀ p ∈ s.compared, ∀ q ∈ s.compared, p.headTurn = some target →
      q.headTurn = some target → p.headSum ≠ q.headSum → p.pid ∈ kicked ∨ q.pid ∈ kicked) :
    ∃ r', Reviews Excused (limit - 1) r'
      (((s.sendChatAll (txt "Desync detected!")).kickDesynced kicked).popChecksums
        (s.participants (s.compared.map Player.pid) target)) := by
  obtain ⟨f, hf, htable⟩ := disagree_players hnd (txt "Desync detected!") kicked
    (nodup_participants hnd target)
  have hframe := disagree_framed s kicked (s.participants (s.compared.map Player.pid) target)
  have hpart : ∀ p ∈ s.players, p.inDesyncCheck = true →
      (p.pid ∈ s.participants (s.compared.map Player.pid) target ↔ p.headTurn = some target) := by
    intro p hp hc
    rw [mem_participants hnd]
    constructor
    · rintro ⟨q, hq, hpid, hturn⟩
      have hfind := byPid_of_mem hnd (mem_compared.1 hq).1
      rw [hpid, byPid_of_mem hnd hp] at hfind
      rw [Option.some.inj hfind]
      exact hturn
    · intro hturn
      exact ⟨p, mem_compared.2 ⟨hp, hc⟩, rfl, hturn⟩
  -- those who reported the turn and stay have reported the same
  have hsame : ∃ sum, ∀ p ∈ s.compared, p.headTurn = some target → p.pid ∉ kicked
    → p.headSum = sum := by
    by_cases hstays : ∃ p ∈ s.compared, p.headTurn = some target ∧ p.pid ∉ kicked
    · obtain ⟨p, hp, hpt, hpk⟩ := hstays
      refine ⟨p.headSum, fun q hq hqt hqk => ?_⟩
      by_contra hne
      rcases hkicked q hq p hp hqt hpt hne with h | h
      · exact hqk h
      · exact hpk h
    · exact ⟨0, fun p hp hpt hpk => absurd ⟨p, hp, hpt, hpk⟩ hstays⟩
  obtain ⟨sum, hsum⟩ := hsame
  refine hI.sweep sum hplay hmin hacked ?_ ?_ htable hframe.phase hframe.syncCounter
  · intro p hp
    have hk := (hf p).kept
    obtain ⟨hcursor, hup⟩ := (hf p).catchUp
    dsimp only
    have hmark : ∃ l c, (if p.pid ∈ kicked then (f p).leave .desync leaveLost else f p)
        = { f p with left := l, leftCode := c } ∧ (l = none → p.left = none) := by
      split
      · exact ⟨_, _, rfl, fun hl => (nomatch hl)⟩
      · exact ⟨_, _, rfl, (hf p).left_none⟩
    obtain ⟨l, c, he, hl⟩ := hmark
    rw [he]
    split
    · rename_i hin
      refine ⟨hk.pid, hk.virtualHost, hk.rejoin, hcursor, hup, hk.loaded,
        hk.syncCounter, hk.reports, hl, fun hc => ?_⟩
      rw [if_pos ((hpart p hp hc).1 hin)]
      exact congrArg List.tail hk.checksums
    · rename_i hout
      refine ⟨hk.pid, hk.virtualHost, hk.rejoin, hcursor, hup, hk.loaded,
        hk.syncCounter, hk.reports, hl, fun hc => ?_⟩
      rw [if_neg fun hturn => hout ((hpart p hp hc).2 hturn)]
      exact hk.checksums
  · intro p hp hturn hl
    refine hsum p hp hturn fun hpk => ?_
    -- a kicked player is marked
    dsimp only at hl
    rw [if_pos hpk] at hl
    split at hl <;> cases hl

omit [RustStd] in
/-- Fewer than two are compared, so any two are the same. -/
theorem eq_of_lone (hlone : s.compared.length < 2) (hp : p ∈ s.compared) (hq : q ∈ s.compared) :
    p = q := by
  cases hcs : s.compared with
  | nil =>
      rw [hcs] at hp
      cases hp
  | cons x rest =>
      rw [hcs, List.length_cons] at hlone
      have hrest : rest = [] := List.eq_nil_of_length_eq_zero (by omega)
      rw [hcs, hrest, List.mem_singleton] at hp hq
      rw [hp, hq]

omit [RustStd] in
/-- Where nobody else is left to compare with, fewer than two are
compared. -/
theorem Reviews.lone {pid : UInt8} (hI : Reviews Excused limit (.alone pid) s)
    (hnd : (s.players.map Player.pid).Nodup) : s.compared.length < 2 := by
  have hpid : ∀ p ∈ s.compared, p.pid = pid := fun p hp => (hI.attends hp).passed
  have hdistinct : (s.compared.map Player.pid).Nodup := hnd.sublist (List.filter_sublist.map _)
  match hcs : s.compared with
  | [] => exact Nat.two_pos
  | [_] => exact Nat.one_lt_two
  | x :: y :: rest =>
      rw [hcs] at hpid hdistinct
      have hxy : x.pid = y.pid := by rw [hpid x (by simp), hpid y (by simp)]
      simp [hxy] at hdistinct

/-- A turn of the loop keeps what the checks have found. If it goes on
or finds a disagreement, the queues are shorter by an entry; if it
waits for a keepalive, a queue is no longer than its player is ahead. -/
theorem Sweep.reviews {go : Bool} (h : Sweep s t go) (hnd : (s.players.map Player.pid).Nodup)
    (hplay : s.phase = .playing) (hI : Reviews Excused limit r s) :
    (∃ r', Reviews Excused (limit - 1) r' t)
      ∨ (t = s ∧ ∀ p ∈ s.compared, p.checksums = [] ∨ ∃ q ∈ s.compared,
        p.checksums.length ≤ p.syncCounter - q.syncCounter) := by
  cases h with
  | idle hmin => exact .inr ⟨rfl, fun p hp => .inl (minTurn_eq_none hmin hp)⟩
  | lone target hmin hlone =>
      left
      obtain ⟨⟨p, hp, -⟩, -⟩ := minTurn_eq_some hmin
      refine ⟨.alone p.pid, fun h _ => absurd hplay h, fun q hq => ?_⟩
      obtain ⟨q', hq', rfl⟩ := List.mem_map.1 hq
      have hclear : ∃ queue, (if q'.inDesyncCheck then { q' with checksums := [] } else q')
          = { q' with checksums := queue } := by
        split
        · exact ⟨_, rfl⟩
        · exact ⟨q'.checksums, rfl⟩
      obtain ⟨queue, he⟩ := hclear
      rw [he]
      -- whoever is compared is the one player there is to compare
      rcases hI.players q' hq' with hm | hv | ha
      · exact .inl hm
      · exact .inr (.inl hv)
      by_cases hl : q'.left.isSome = true
      · exact .inl hl
      by_cases hv : q'.virtualHost = true
      · exact .inr (.inl hv)
      have hc := mem_compared_of_attends hplay hq' (by simpa using hl) (by simpa using hv) ha
      refine .inr (.inr ⟨ha.rejoin, ha.catchupCursor, ha.catchingUp, ha.loaded, ?_⟩)
      have hpid : q'.pid = p.pid := congrArg Player.pid (eq_of_lone hlone hc hp)
      exact hpid
  | waiting target hmin htwo hbehind =>
      right
      refine ⟨rfl, fun p hp => ?_⟩
      obtain ⟨q, hq, hlt⟩ := hbehind
      cases r with
      | alone pid => exact absurd (hI.lone hnd) (Nat.not_lt.2 htwo)
      | agreed sums =>
          rw [hI.due hmin] at hlt
          have hp' := (hI.attends hp).passed
          have hq' := (hI.attends hq).passed
          refine .inr ⟨q, hq, ?_⟩
          -- the one behind has not reported the target, so the queue is no longer than the lead
          have hcount := hp'.counted
          have hsettled := hq'.settled
          rw [hp'.queue, length_entriesFrom]
          omega
  | agree target hmin htwo hacked hagree =>
      left
      obtain ⟨⟨p, hp, hpt⟩, -⟩ := minTurn_eq_some hmin
      exact hI.sweep p.headSum hplay hmin hacked (fun q _ => swept_sweep target q)
        (fun q hq hqt _ => hagree q hq p hp hqt hpt) rfl rfl rfl
  | disagree target hmin htwo hacked hdiffer kicked hkicked =>
      exact .inl (hI.disagree hnd hplay hmin hacked hkicked)

/-- The check keeps what is known, and makes no queue longer. -/
theorem Reviews.check (hI : Reviews Excused limit r s) (hnd : (s.players.map Player.pid).Nodup)
    (hplay : s.phase = .playing) : ∃ r', Reviews Excused limit r' s.checkDesync := by
  have hone : ∀ {go : Bool} {s t : GameState} {r : Review}, Sweep s t go →
      (s.players.map Player.pid).Nodup → s.phase = .playing → Reviews Excused limit r s →
      ∃ r', Reviews Excused limit r' t := by
    intro go s t r hsweep hnd hplay hI
    rcases hsweep.reviews hnd hplay hI with ⟨r', h⟩ | ⟨he, -⟩
    · exact ⟨r', h.of_le (Nat.sub_le _ _)⟩
    · rw [he]
      exact ⟨r, hI⟩
  refine checkDesync_induction
    (P := fun s t => s.phase = .playing → ∀ r, Reviews Excused limit r s →
    ∃ r', Reviews Excused limit r' t) hnd ?_ ?_ hplay r hI
  · exact fun s t hnd hsweep hplay r hI => hone hsweep hnd hplay hI
  · intro s t u hnd hsweep hP hplay r hI
    obtain ⟨r', hr'⟩ := hone hsweep hnd hplay hI
    exact hP (hsweep.phase.trans hplay) r' hr'

/-- The check makes every queue shorter than the limit if no player is
ahead of another by as much. -/
theorem Reviews.check_short (hI : Reviews Excused (limit + 1) r s)
    (hnd : (s.players.map Player.pid).Nodup) (hplay : s.phase = .playing)
    (hwindow : ∀ p ∈ s.compared, ∀ q ∈ s.compared, p.syncCounter - q.syncCounter ≤ limit) :
    ∃ r', Reviews Excused limit r' s.checkDesync := by
  have hsweep := sweep_checkDesyncOnce hnd
  have hone : ∃ r', Reviews Excused limit r' s.checkDesyncOnce.1 := by
    rcases hsweep.reviews hnd hplay hI with hone | ⟨he, hqueue⟩
    · exact hone
    rw [he]
    refine ⟨r, hI.fresh, fun p hp => ?_⟩
    rcases hI.players p hp with hm | hv | ha
    · exact .inl hm
    · exact .inr (.inl hv)
    by_cases hl : p.left.isSome = true
    · exact .inl hl
    by_cases hv : p.virtualHost = true
    · exact .inr (.inl hv)
    have hc := mem_compared_of_attends hplay hp (by simpa using hl) (by simpa using hv) ha
    refine .inr (.inr ⟨ha.rejoin, ha.catchupCursor, ha.catchingUp, ha.loaded, ?_⟩)
    have hpassed := ha.passed
    cases r with
    | alone pid => exact hpassed
    | agreed sums =>
        refine ⟨hpassed.agreed, hpassed.queue, hpassed.settled, hpassed.counted, hpassed.sent, ?_⟩
        rcases hqueue p hc with hnil | ⟨q, hq, hle⟩
        · rw [hnil]
          exact Nat.zero_le _
        · exact Nat.le_trans hle (hwindow p hc q hq)
  obtain ⟨r', hr'⟩ := hone
  rw [checkDesync_eq hnd]
  split
  · exact hr'.check (hsweep.pids hnd ▸ hnd) (hsweep.phase.trans hplay)
  · exact ⟨r', hr'⟩

-- ============================================================= a difference

/-- The last turn of the loop. -/
theorem exists_last_sweep (hnd : (s.players.map Player.pid).Nodup) :
    ∃ u, Sweeping s u ∧ u.checkDesyncOnce = (s.checkDesync, false) := by
  induction hn : s.queuedChecksums using Nat.strong_induction_on generalizing s with
  | _ n ih =>
      have hsweep := sweep_checkDesyncOnce hnd
      cases hgo : s.checkDesyncOnce.2 with
      | false =>
          refine ⟨s, Relation.ReflTransGen.refl, ?_⟩
          rw [checkDesync_eq hnd, hgo]
          exact Prod.ext rfl hgo
      | true =>
          rw [hgo] at hsweep
          rcases hsweep.progress hnd with ⟨-, hlt⟩ | ⟨-, hoff, -⟩
          · obtain ⟨u, hpath, hlast⟩ := ih _ (hn ▸ hlt) (hsweep.pids hnd ▸ hnd) rfl
            refine ⟨u, hpath.head (Prod.ext rfl hgo), ?_⟩
            rw [checkDesync_eq hnd, hgo]
            exact hlast
          · cases hoff

/-- Who is compared in a later turn of the loop was in the first, with
the same reports. -/
theorem Sweeping.same (h : Sweeping s u) (hnd : (s.players.map Player.pid).Nodup) :
    u.phase = s.phase
      ∧ (∀ q ∈ u.compared, ∃ p ∈ s.compared, p.pid = q.pid ∧ p.reports = q.reports
        ∧ p.syncCounter = q.syncCounter)
      ∧ ∀ p ∈ s.compared, ∃ q ∈ u.compared, p.pid = q.pid ∧ p.reports = q.reports := by
  induction h with
  | refl => exact ⟨rfl, fun q hq => ⟨q, hq, rfl, rfl, rfl⟩, fun p hp => ⟨p, hp, rfl, rfl⟩⟩
  | @tail u v hpath hlast ih =>
      obtain ⟨hphase, hback, hforth⟩ := ih
      have hsweep := sweep_checkDesyncOnce (Sweeping.nodup hpath hnd)
      rw [hlast] at hsweep
      cases hsweep with
      | agree target _ _ _ _ =>
          have hcheck : ∀ p : Player, (p.sweep target).inDesyncCheck = p.inDesyncCheck
              ∧ (p.sweep target).pid = p.pid ∧ (p.sweep target).reports = p.reports
              ∧ (p.sweep target).syncCounter = p.syncCounter := by
            intro p
            unfold Player.sweep
            split <;> exact ⟨rfl, rfl, rfl, rfl⟩
          refine ⟨hphase, fun q hq => ?_, fun p hp => ?_⟩
          · obtain ⟨hq, hqc⟩ := mem_compared.1 hq
            obtain ⟨x, hx, rfl⟩ := List.mem_map.1 hq
            obtain ⟨hc, hpid, hreports, hsync⟩ := hcheck x
            rw [hpid, hreports, hsync]
            exact hback x (mem_compared.2 ⟨hx, hc ▸ hqc⟩)
          · obtain ⟨x, hx, hpid, hreports⟩ := hforth p hp
            obtain ⟨hx, hxc⟩ := mem_compared.1 hx
            obtain ⟨hc, hpid', hreports', -⟩ := hcheck x
            refine ⟨x.sweep target, mem_compared.2 ⟨List.mem_map_of_mem hx, hc.trans hxc⟩, ?_, ?_⟩
            · rw [hpid', hpid]
            · rw [hreports', hreports]

/-- The sweeps of one check, one after another: what was agreed on grows by
a turn at each. -/
theorem Sweeping.reviews (h : Sweeping s u) (hnd : (s.players.map Player.pid).Nodup)
    (hplay : s.phase = .playing) (hI : Reviews Excused limit r s) : ∃ r',
    Reviews Excused limit r' u := by
  induction h with
  | refl => exact ⟨r, hI⟩
  | @tail u v hpath hlast ih =>
      obtain ⟨r', hr'⟩ := ih
      have hnd' := Sweeping.nodup hpath hnd
      have hsweep := sweep_checkDesyncOnce hnd'
      rw [hlast] at hsweep
      rcases hsweep.reviews hnd' ((Sweeping.same hpath hnd).1.trans hplay) hr' with
        ⟨r'', h⟩ | ⟨he, -⟩
      · exact ⟨r'', h.of_le (Nat.sub_le _ _)⟩
      · rw [show v = u from he]
        exact ⟨r', hr'⟩

omit [RustStd] in
/-- The turn of a difference has not been agreed on. -/
theorem Player.UpTo.differ {sums : List Nat} {sync : Nat} (hp : p.UpTo sums limit sync)
    (hq : q.UpTo sums limit sync) (ha : p.reports[k]? = some a) (hb : q.reports[k]? = some b)
    (hab : a ≠ b) : sums.length ≤ k := by
  by_contra hlt
  rw [Nat.not_le] at hlt
  have hread : ∀ {x : Player} {c : Nat}, x.UpTo sums limit sync → x.reports[k]? = some c →
      sums[k]? = some c := by
    intro x c hx hc
    have htake : (x.reports.take sums.length)[k]? = some c := by
      rw [List.getElem?_take_of_lt hlt]
      exact hc
    obtain ⟨rest, he⟩ := hx.agreed
    rw [← he, List.getElem?_append_left (List.getElem?_eq_some_iff.1 htake).1]
    exact htake
  have hpa := hread hp ha
  rw [hread hq hb] at hpa
  exact hab (Option.some.inj hpa).symm

/-- Two players of the check have reported different checksums of a turn
that everyone has acknowledged. The check finds a disagreement about an
earlier turn, or it marks one of the two. -/
theorem checkDesync_finds (hI : Reviews Excused limit r s) (hnd : (s.players.map Player.pid).Nodup)
    (hplay : s.phase = .playing) (hp : p ∈ s.compared) (hq : q ∈ s.compared)
    (ha : p.reports[k]? = some a) (hb : q.reports[k]? = some b) (hab : a ≠ b)
    (hacked : ∀ x ∈ s.compared, k < x.syncCounter) :
    (∃ u target, Sweeping s u ∧ target ≤ k ∧ Disagrees u target)
      ∨ ∃ x ∈ s.checkDesync.players, (x.pid = p.pid ∨ x.pid = q.pid) ∧ x.left = some .desync := by
  obtain ⟨u, hpath, hlast⟩ := exists_last_sweep hnd
  have hnd' := Sweeping.nodup hpath hnd
  obtain ⟨hphase, hback, hforth⟩ := Sweeping.same hpath hnd
  obtain ⟨r', hr'⟩ := Sweeping.reviews hpath hnd hplay hI
  obtain ⟨p', hp', hpp, hpr⟩ := hforth p hp
  obtain ⟨q', hq', hqq, hqr⟩ := hforth q hq
  rw [hpr] at ha
  rw [hqr] at hb
  rw [hpp, hqq]
  have hne : p' ≠ q' := by
    rintro rfl
    rw [ha] at hb
    exact hab (Option.some.inj hb)
  cases r' with
  | alone pid => exact absurd (eq_of_lone (hr'.lone hnd') hp' hq') hne
  | agreed sums =>
      have hpu := (hr'.attends hp').passed
      have hqu := (hr'.attends hq').passed
      have hle := Player.UpTo.differ hpu hqu ha hb hab
      obtain ⟨hkp, hpk⟩ := List.getElem?_eq_some_iff.1 ha
      obtain ⟨hkq, hqk⟩ := List.getElem?_eq_some_iff.1 hb
      have hturn : ∀ {x : Player}, x.UpTo sums limit u.syncCounter → k < x.reports.length →
          x.headTurn = some (sums.length + 1) := by
        intro x hx hk
        rw [headTurn_of_entries hx.queue, if_pos (Nat.lt_of_le_of_lt hle hk)]
      have hpt := hturn hpu hkp
      have hqt := hturn hqu hkq
      have hsweep := sweep_checkDesyncOnce hnd'
      rw [hlast] at hsweep
      generalize s.checkDesync = t at hsweep
      cases hsweep with
      | idle hmin =>
          -- the difference is queued
          have hnil := minTurn_eq_none hmin hp'
          unfold Player.headTurn at hpt
          rw [hnil] at hpt
          cases hpt
      | lone target _ hlone => exact absurd (eq_of_lone hlone hp' hq') hne
      | waiting target hmin _ hbehind =>
          obtain ⟨x, hx, hlt⟩ := hbehind
          obtain ⟨y, hy, -, -, hsync⟩ := hback x hx
          have hahead := hacked y hy
          rw [hr'.due hmin] at hlt
          omega
      | disagree target hmin htwo hacked' hdiffer kicked hkicked =>
          have hdue := hr'.due hmin
          subst hdue
          rcases Nat.lt_or_ge sums.length k with hlt | hge
          · -- the disagreement is about an earlier turn
            obtain ⟨x, hx, y, hy, hxt, hyt, hxy⟩ := hdiffer
            exact .inl ⟨u, _, hpath, hlt, hmin, hacked', x, mem_reporters.2 ⟨hx, hxt⟩, y,
              mem_reporters.2 ⟨hy, hyt⟩, hxy⟩
          have hk : k = sums.length := by omega
          subst hk
          have hsums : p'.headSum ≠ q'.headSum := by
            rw [headSum_of_entries hpu.queue hkp, headSum_of_entries hqu.queue hkq, hpk, hqk]
            exact hab
          obtain ⟨f, hf, htable⟩ := disagree_players hnd' (txt "Desync detected!") kicked
            (nodup_participants hnd' (sums.length + 1))
          have hmarked : ∀ x ∈ u.compared, x.pid ∈ kicked →
              ∃ y ∈ (((u.sendChatAll (txt "Desync detected!")).kickDesynced kicked).popChecksums
                (u.participants (u.compared.map Player.pid) (sums.length + 1))).players,
                y.pid = x.pid ∧ y.left = some .desync := by
            intro x hx hxk
            rw [htable]
            refine ⟨_, List.mem_map_of_mem (mem_compared.1 hx).1, ?_⟩
            dsimp only
            rw [if_pos hxk]
            split <;> exact ⟨(hf x).kept.pid, rfl⟩
          right
          rcases hkicked p' hp' q' hq' hpt hqt hsums with hpk | hqk
          · obtain ⟨y, hy, hpid, hleft⟩ := hmarked p' hp' hpk
            exact ⟨y, hy, .inl hpid, hleft⟩
          · obtain ⟨y, hy, hpid, hleft⟩ := hmarked q' hq' hqk
            exact ⟨y, hy, .inr hpid, hleft⟩

end Turns

-- =============================================================== one iteration

/-- Every counter but that of the player in the fake player's role is
the number of the keepalives. -/
def CountsReports (s : GameState) : Prop :=
  ∀ p ∈ s.players, s.fakePlayerPid = some p.pid ∨ p.syncCounter = p.reports.length

/-- Every function in pieces; a counter that is at its end counts
nothing. -/
def unsaturated (k : Kind) (s : GameState) : Prop :=
  match k with
  | .ack pid _ => ∀ p ∈ s.players, p.pid = pid → p.syncCounter + 1 < 2 ^ 32
  | k => k.fine = true

section Iteration

variable [RustStd] {s t : GameState} {p q : Player} {r : Review} {limit : Nat} {k : Kind}

omit [RustStd] in
/-- A counter moves with the reports, but for the fake player's. -/
theorem Moves.countsReports (h : Moves s k p q) (hk : unsaturated k s) (hp : p ∈ s.players)
    (hI : s.fakePlayerPid = some p.pid ∨ p.syncCounter = p.reports.length) :
    s.fakePlayerPid = some q.pid ∨ q.syncCounter = q.reports.length := by
  cases h with
  | air b _ =>
      have hk := p.kept_hear s.now b s.airSeq
      rwa [hk.pid, hk.syncCounter, hk.reports]
  | tell b _ _ =>
      have hk := p.kept_receive s.now b
      rwa [hk.pid, hk.syncCounter, hk.reports]
  | feed =>
      have hk := p.kept_feed s.now s.fullHistory
      rwa [hk.pid, hk.syncCounter, hk.reports]
  | note h => rwa [h.pid, h.syncCounter, h.reports]
  | timeout =>
      obtain ⟨_, _, he⟩ := p.loadingTimeout_eq
      rwa [he]
  | hold reason code =>
      obtain ⟨_, _, _, he⟩ := p.connClosed_eq s.now reason code
      rwa [he]
  | expire =>
      obtain ⟨_, _, _, _, _, he⟩ := p.gproxyTimeout_eq s.now s.cfg.reconnectWait
      rwa [he]
  | ack checksum _ =>
      obtain ⟨_, _, he⟩ := p.keepalive_eq s.syncCounter checksum
      have hlt := hk p hp rfl
      rw [he]
      refine hI.imp_right fun heq => ?_
      dsimp only
      rw [List.length_append, List.length_singleton]
      omega
  | level hfake => exact .inl hfake
  | restart => exact .inr rfl
  | attachFull => exact .inr rfl
  | attachGps connId link _ _ b _ last replay _ =>
      obtain ⟨link', he⟩ := p.attachGps_eq connId link b.totalSent replay
      rwa [he]
  | _ => exact hI

/-- So they go together through every step. -/
theorem Step.countsReports (h : Step k s t) (hk : unsaturated k s) (hs : WellFormed s)
    (hI : CountsReports s) : CountsReports t := by
  have hfine : k.fine = true := by
    cases k <;> first | rfl | exact hk
  have hplayers : ∀ q ∈ t.players, s.fakePlayerPid = some q.pid
    ∨ q.syncCounter = q.reports.length := by
    refine h.forall_players hfine ?_ ?_ ?_ ?_ hI
    · exact fun p hp q hm hI => hm.countsReports hk hp hI
    · intro p now b seq hI
      have hk := p.kept_hear now b seq
      rwa [hk.pid, hk.syncCounter, hk.reports]
    · intro _ p hp
      rw [hp.syncCounter, hp.reports]
      exact .inr rfl
    · exact fun _ _ => .inr rfl
  cases h with
  | seatFake sid p _ hnone _ _ _ info _ =>
      intro q hq
      -- nobody had the role before
      rw [hnone] at hplayers
      exact .inr ((hplayers q hq).resolve_left (by simp))
  | unfake pid _ hfake =>
      intro q hq
      -- the player in the role is the one that goes
      refine .inr ((hplayers q hq).resolve_left fun hrole => ?_)
      rw [hfake] at hrole
      rw [broadcast_players] at hq
      obtain ⟨p, hp, rfl⟩ := List.mem_map.1 hq
      rw [(p.kept_hear _ _ _).pid] at hrole
      refine Lib.key_not_mem_eraseP (k := p.pid) hs.pids (List.mem_map_of_mem (f := Player.pid) ?_)
      rw [Option.some.inj hrole] at hp
      exact hp
  | reap => cases hfine
  | begin => cases hfine
  | loaded => cases hfine
  | lagCheck => cases hfine
  | check => cases hfine
  | sendTurn => cases hfine
  | misc h _ =>
      intro q hq
      rw [h.fakePlayerPid]
      exact hplayers q hq
  | air b _ | airLag b _ | reset b _ =>
      intro q hq
      rw [broadcast_fakePlayerPid]
      exact hplayers q hq
  | block b _ f =>
      intro q hq
      rw [show (s.sendActionPacket b f).fakePlayerPid = s.fakePlayerPid from
        broadcast_fakePlayerPid _ b]
      exact hplayers q hq
  | unseat | unhost =>
      intro q hq
      rw [broadcast_fakePlayerPid]
      exact hplayers q hq
  | seat sid player _ _ _ _ info _ =>
      obtain ⟨ps, he⟩ := sendOthersDirect?_eq ({ s with
        slots := (s.slots.occupySlot sid player.pid).1
        players := s.players ++ [(s.joinBurst player).foldl Player.sendDirect player] })
        player.pid info
      rw [he] at hplayers ⊢
      exact hplayers
  | host pid _ _ info _ =>
      obtain ⟨ps, hist, aired, he⟩ := s.broadcast?_eq info
      rw [he] at hplayers ⊢
      exact hplayers
  | _ => exact hplayers

/-- A step keeps what is known, the check too; whoever is marked is
excused. -/
theorem Step.marked_reviews (h : Step k s t) (hk : reviewing k s) (hs : WellFormed s)
    (hI : ∃ r, Reviews Excused 501 r s) : ∃ r, Reviews Excused 501 r t := by
  obtain ⟨r, hr⟩ := hI
  by_cases hcheck : k = .check
  · subst hcheck
    cases h with
    | misc _ hb => cases hb
    | table hon => cases hon
    | check => exact hr.check hs.pids hk
  have hfine := fine_of_reviewing hk hcheck
  by_cases hgps : ∃ pid, k = .attachGps pid
  · obtain ⟨pid, rfl⟩ := hgps
    have hall : ∃ r', Reviews (fun _ => False) 501 r' s := hk
    obtain ⟨r', hr'⟩ := hall
    -- nobody is excused yet
    refine h.reviews hk hfine ?_ (fun _ hl => hl) (fun p now b seq hl => hear_left_isSome hl _ _ _)
      ⟨hr'.fresh, fun p hp => .inr ((hr'.players p hp).resolve_left id)⟩
    intro p hp q hm _
    rcases (hr'.players p hp).resolve_left id with hv | ha
    · exact .inr (.inl (hm.identity.2.2.trans hv))
    · exact .inr (.inr (hm.attends hk (by simp) ha))
  · refine h.reviews hk hfine ?_ (fun _ hl => hl)
      (fun p now b seq hl => hear_left_isSome hl _ _ _) hr
    intro p _ q hm hl
    left
    unfold Excused at hl ⊢
    rw [Option.isSome_iff_ne_none] at hl ⊢
    refine fun hn => hl (hm.left_none ?_ ?_ hn)
    · rintro rfl
      exact hk
    · rintro rfl
      exact hgps ⟨_, rfl⟩

/-- What is done in these steps keeps everybody attending, but for those it
has marked. -/
theorem Does.marked_reviews (h : Does reviewing s t) (hs : WellFormed s)
    (hI : ∃ r, Reviews Excused 501 r s) : WellFormed t ∧ ∃ r, Reviews Excused 501 r t := by
  refine Lib.Path.preserves (I := fun s => WellFormed s ∧ ∃ r, Reviews Excused 501 r s) ?_ h
    ⟨hs, hI⟩
  intro k s t hk hst ⟨hs, hI⟩
  exact ⟨hst.keeps_wellFormed hs, hst.marked_reviews hk hs hI⟩

omit [RustStd] in
/-- Between two iterations nobody is excused. -/
theorem Reviews.excused (hI : Reviews (fun _ => False) limit r s) : Reviews Excused limit r s :=
  ⟨hI.fresh, fun p hp => .inr ((hI.players p hp).resolve_left id)⟩

omit [RustStd] in
/-- Reviews read the players, the phase and the counter. -/
theorem Reviews.of_table {A : Player → Prop} (hI : Reviews A limit r s)
    (hplayers : t.players = s.players)
    (hphase : t.phase = s.phase) (hsync : t.syncCounter = s.syncCounter) : Reviews A limit r t where
  fresh h h' := hI.fresh (hphase ▸ h) (hphase ▸ h')
  players p hp := (hI.players p (hplayers ▸ hp)).imp_right
    (Or.imp_right fun ha => ha.of_state (fun h => hphase.symm.trans h) hsync)

/-- The feed finds no closed link, for there is no feed. -/
theorem feedsOpenLinks_of_reviews (hs : WellFormed s) (hI : ∃ r, Reviews (fun _ => False) 501 r s)
    (ev : Event) : FeedsOpenLinks s ev := by
  cases ev with
  | tick skipped =>
      intro _ p hp _ _ hg _
      obtain ⟨r, hr⟩ := hI
      obtain ⟨hs', r', hr'⟩ :=
        Does.marked_reviews (does_tickHead plain_reviewing s) hs ⟨r, hr.excused⟩
      unfold Player.cutOff
      rcases hr'.players p hp with hl | hv | ha
      · cases p.catchupCursor with
        | none => rfl
        | some c =>
            obtain ⟨reason, hreason⟩ := Option.isSome_iff_exists.1 hl
            simp [hreason]
      · rw [(hs'.players p hp).virtualHost_of_gproxy hg] at hv
        cases hv
      · rw [ha.catchupCursor]
  | elapse ms => trivial
  | cmd env c => trivial

/-- Checks are made in a running game only. -/
theorem checkPoints_phase {ev : Event} (ht : t ∈ s.checkPoints ev) : t.phase = .playing := by
  unfold checkPoints at ht
  split at ht
  · rename_i hplay
    split at ht
    · rw [List.mem_singleton.1 ht]
      have hframe : Framed s s.checkPoint :=
        Does.framed ((does_tickHead plain_inertOnly s).trans
          (does_checkPoint plain_inertOnly s rfl))
      exact hframe.phase.trans hplay
    · split at ht
      · split at ht
        · rw [List.mem_singleton.1 ht]
          exact hplay
        · cases ht
      · cases ht
    · cases ht
  · cases ht

/-- An iteration in which nothing is counted and no seat is taken over is
made of these steps. -/
theorem admits_reviewing {ev : Event} (hI : ∃ r, Reviews (fun _ => False) 501 r s)
    (hrejoin : s.fullSeat ev = none) (hcovers : CoversTurns s ev) (hnone : s.accepted ev = none) :
    Admits reviewing s ev := by
  refine admits_turn ?_ ?_ (fun _ _ _ => rfl) ?_ ?_
  · intro k hfine hguarded hpop hdesync hturn t
    cases k with
    | pop => exact absurd rfl hpop
    | desync => exact absurd rfl hdesync
    | turn => exact absurd rfl hturn
    | ack pid checksum => cases hguarded
    | attachFull pid => cases hguarded
    | attachGps pid => cases hguarded
    | check => cases hfine
    | _ => exact hfine
  · exact
      { phase := fun _ => rfl
        slots := fun _ _ _ => rfl
        vacate := fun _ _ _ _ _ _ => rfl
        limit := fun _ => rfl
        seat := fun _ _ _ _ _ _ _ => rfl
        bounce := fun _ _ => rfl
        seatFake := fun _ _ _ _ => rfl
        token := fun _ _ _ _ _ _ _ => rfl
        host := fun _ _ => rfl
        unhost := fun _ _ _ => rfl
        unfake := fun _ _ _ _ => rfl
        attachFull := by
          intro pid hpid
          rw [hrejoin] at hpid
          cases hpid
        attachGps := by
          intro pid _ t hplayers hphase hsync
          -- a reconnect finds the table as it was before the event
          obtain ⟨r, hr⟩ := hI
          exact ⟨r, hr.of_table hplayers hphase hsync⟩
        ack := by
          rintro env connId payload checksum p rfl hplay hsum hp
          -- the premise is that the event brings no report
          rw [accepted_eq hplay hsum hp] at hnone
          cases hnone
        queue := fun _ _ => rfl
        cache := fun _ _ => rfl
        feed := fun _ _ _ => rfl
        timeout := fun _ _ _ => rfl }
  · exact fun t ht => Does.one (k := .check) (checkPoints_phase ht) .check
  · rintro skipped t rfl hplay hlag p hp
    have hle := hcovers hplay (by rw [hlag]) p (by rw [hlag]; exact hp)
    rwa [hlag] at hle

omit [RustStd] in
/-- A keepalive makes one queue longer by an entry. -/
theorem Reviews.acknowledge {checksum : Nat} (hI : Reviews (fun _ => False) 501 r s)
    (hconn : s.players.byConn p.connId = some p) (hsync : s.syncCounter < 2 ^ 32)
    (hacked : p.syncCounter < s.syncCounter) (hcount : p.syncCounter = p.reports.length) :
    Reviews (fun _ => False) 502 r (s.acknowledge p.connId checksum) := by
  refine ⟨hI.fresh, fun y hy => ?_⟩
  rcases Lib.mem_updateFirst hy with hy | ⟨x, hx, -, hfind, rfl⟩
  · refine (hI.players y hy).imp_right (Or.imp_right fun ha => ?_)
    exact (ha.of_le (by decide)).of_state id rfl
  have hxp : x = p := Option.some.inj (hfind.symm.trans hconn)
  subst hxp
  right
  rcases (hI.players x hx).resolve_left id with hv | ha
  · obtain ⟨_, _, he⟩ := x.keepalive_eq s.syncCounter checksum
    rw [he]
    exact .inl hv
  right
  have hturn : min (x.syncCounter + 1) (2 ^ 32 - 1) = x.syncCounter + 1 := by omega
  have hpassed := ha.passed
  unfold Player.keepalive
  dsimp only
  rw [if_neg (by rw [ha.catchingUp]; exact Bool.false_ne_true), hturn]
  refine ⟨ha.rejoin, ha.catchupCursor, ha.catchingUp, ha.loaded, ?_⟩
  cases r with
  | alone pid => exact hpassed
  | agreed sums =>
      have hshort := hpassed.short
      have hsettled := hpassed.settled
      have hle : sums.length ≤ x.reports.length := by omega
      rw [if_neg (by omega : ¬512 ≤ x.checksums.length)]
      refine ⟨?_, ?_, ?_, ?_, ?_, ?_⟩
      · rw [List.take_append_of_le_length hle]
        exact hpassed.agreed
      · dsimp only
        rw [entriesFrom_report rfl hle, ← hpassed.queue, hcount]
      · exact Nat.le_succ_of_le hsettled
      · dsimp only
        rw [List.length_append, List.length_singleton, hcount]
      · exact hacked
      · dsimp only
        rw [List.length_append, List.length_singleton]
        exact Nat.succ_le_succ hshort

omit [RustStd] in
/-- A counted keepalive keeps everyone in the window. -/
theorem acknowledge_inWindow {n checksum connId : Nat} (hsync : s.syncCounter < 2 ^ 32)
    (hI : ∀ p ∈ s.players, p.InWindow n s.syncCounter) :
    ∀ p ∈ (s.acknowledge connId checksum).players, p.InWindow n s.syncCounter := by
  intro y hy
  rcases Lib.mem_updateFirst hy with hy | ⟨x, hx, -, -, rfl⟩
  · exact hI y hy
  · exact (hI x hx).keepalive hsync checksum

omit [RustStd] in
/-- Nobody the check compares is ahead of another by more than the
window. -/
theorem Reviews.ahead {n : Nat} (hI : Reviews Excused limit r s)
    (hnd : (s.players.map Player.pid).Nodup)
    (hwindow : ∀ p ∈ s.players, p.InWindow n s.syncCounter) :
    ∀ p ∈ s.compared, ∀ q ∈ s.compared, p.syncCounter - q.syncCounter ≤ n := by
  intro p hp q hq
  cases r with
  | alone pid =>
      rw [eq_of_lone (hI.lone hnd) hp hq, Nat.sub_self]
      exact Nat.zero_le n
  | agreed sums =>
      have hsent := (hI.attends hp).passed.sent
      have hqa := hI.attends hq
      have hqv : q.virtualHost = false := by
        have hcheck := (mem_compared.1 hq).2
        simp only [Player.inDesyncCheck, Bool.and_eq_true, Bool.not_eq_true'] at hcheck
        exact hcheck.1.1.2
      rcases hwindow q (mem_compared.1 hq).1 with hv | hr | hc | hu | hb
      · rw [hqv] at hv
        cases hv
      · exact absurd hqa.rejoin hr
      · rw [hqa.catchupCursor] at hc
        cases hc
      · rw [hqa.catchingUp] at hu
        cases hu
      · omega

/-- What holds between two iterations: everyone is in the window, the
counters count, and everyone attends. -/
structure Vigilant (s : GameState) : Prop where
  windowed : Windowed (fun _ => False) 501 s
  counts : CountsReports s
  reviews : ∃ r, Reviews (fun _ => False) 501 r s

omit [RustStd] in
/-- Nobody is further behind than the window is wide. -/
theorem Vigilant.inWindow (hV : Vigilant s) : ∀ p ∈ s.players, p.InWindow 501 s.syncCounter :=
  fun p hp => (hV.windowed.players p hp).resolve_left id

/-- The state in which the check is called for a keepalive. -/
theorem Vigilant.acknowledge {ev : Event} {checksum : Nat} (hV : Vigilant s) (hC : KeepsCount s ev)
    (hev : s.accepted ev = some (p, checksum)) :
    ∃ r, Reviews (fun _ => False) 502 r (s.acknowledge p.connId checksum) := by
  obtain ⟨r, hr⟩ := hV.reviews
  have hcount : p.syncCounter = p.reports.length := by
    rcases hV.counts p (mem_of_accepted hev).1 with hrole | h
    · exact hC.counted _ (Option.mem_def.2 hev) hrole
    · exact h
  exact ⟨r, hr.acknowledge (handle_accepted hev).1 hV.windowed.sync
    (hC.acked _ (Option.mem_def.2 hev))
    hcount⟩

/-- The handling of an event keeps everyone who is not marked
attending. -/
theorem handle_reviews {ev : Event} (hs : WellFormed s) (hev : ev.Sound) (hC : KeepsCount s ev)
    (hV : Vigilant s) : ∃ r, Reviews Excused 501 r (s.handle ev) := by
  cases hacc : s.accepted ev with
  | none =>
      obtain ⟨r, hr⟩ := hV.reviews
      exact (Does.marked_reviews (does_handle hs hev
        (admits_reviewing hV.reviews hC.noRejoin hC.covers hacc)) hs ⟨r, hr.excused⟩).2
  | some e =>
      obtain ⟨p, checksum⟩ := e
      obtain ⟨r, hr⟩ := hV.acknowledge hC hacc
      have hplay := (mem_of_accepted hacc).2
      have hdoes : Does anyFine s (s.acknowledge p.connId checksum) :=
        does_acknowledge p.connId checksum hplay fun _ _ => rfl
      have hnd := (hdoes.keeps_wellFormed hs).pids
      rw [(handle_accepted hacc).2.1]
      exact hr.excused.check_short hnd hplay (hr.excused.ahead hnd
        (acknowledge_inWindow hV.windowed.sync hV.inWindow))

/-- The steps of the reaper. -/
def closing (k : Kind) (s : GameState) : Prop :=
  reviewing k s ∧ k.fine = true ∧ ∀ pid, k ≠ .attachGps pid

/-- What every command may do is among the steps of the reaper. -/
theorem plain_closing : Plain closing := by
  intro k hk t
  refine ⟨plain_reviewing k hk t, ?_, ?_⟩
  · cases k <;> first | rfl | cases hk
  · rintro pid rfl
    cases hk

/-- Reaping takes away only those that are excused. -/
theorem Does.closing_reviews {Q : UInt8 → Prop} (h : Does closing s t) (hs : WellFormed s)
    (hI : ∃ r, Reviews (fun p => Q p.pid) 501 r s) : ∃ r, Reviews (fun p => Q p.pid) 501 r t := by
  refine (Lib.Path.preserves (I := fun s => WellFormed s ∧ ∃ r, Reviews (fun p => Q p.pid) 501 r s)
    ?_ h ⟨hs, hI⟩).2
  rintro k s t ⟨hk, hfine, -⟩ hst ⟨hs, r, hr⟩
  refine ⟨hst.keeps_wellFormed hs, hst.reviews hk hfine ?_ (fun _ hq => hq) ?_ hr⟩
  · intro p _ q hm hq
    exact .inl (hm.identity.1 ▸ hq)
  · intro p now b seq hq
    exact (p.kept_hear now b seq).pid ▸ hq

/-- Whom the reaper leaves at the table attends. -/
theorem Reviews.reapLeftPlayers (hI : Reviews Excused 501 r s) (hs : WellFormed s) :
    ∃ r', Reviews (fun _ => False) 501 r' s.reapLeftPlayers := by
  have hmarked : Reviews (fun p => p.pid ∈ s.gone.map Prod.fst) 501 r s := by
    refine ⟨hI.fresh, fun p hp => ?_⟩
    by_cases hv : p.virtualHost = true
    · exact .inr (.inl hv)
    · refine (hI.players p hp).imp_left fun hl => mem_gone.2 ⟨p, hp, rfl, ?_, hl⟩
      simpa using hv
  have hpath : Does closing s s.reapLeftPlayers :=
    does_reapLeftPlayers plain_closing (fun _ => ⟨rfl, rfl, by simp⟩) (fun _ => ⟨rfl, rfl, by simp⟩)
      (fun _ => ⟨rfl, rfl, by simp⟩) (fun _ _ => ⟨rfl, rfl, by simp⟩) hs
  obtain ⟨r', hr'⟩ :=
    hpath.closing_reviews (Q := fun pid => pid ∈ s.gone.map Prod.fst) hs ⟨r, hmarked⟩
  refine ⟨r', hr'.fresh, fun p hp => .inr ((hr'.players p hp).resolve_left fun hgone => ?_)⟩
  have hpid : p.pid ∈ s.reapLeftPlayers.pids := List.mem_map_of_mem hp
  exact ((reapLeftPlayers_pids hs).1 hpid).2 hgone

/-- After an iteration everybody attends again. -/
theorem step_reviews {ev : Event} (hs : WellFormed s) (hev : ev.Sound) (hC : KeepsCount s ev)
    (hV : Vigilant s) : ∃ r, Reviews (fun _ => False) 501 r (s.step ev) := by
  obtain ⟨r, hr⟩ := handle_reviews hs hev hC hV
  obtain ⟨r₀, hr₀⟩ := hV.reviews
  have hhandle := (does_handle hs hev (admits_anyFine s ev)).keeps_wellFormed hs
  unfold step
  split
  · exact ⟨r₀, hr₀⟩
  split
  · exact ⟨r₀, hr₀.of_table rfl rfl rfl⟩
  · exact ⟨r₀, hr₀.of_table rfl rfl rfl⟩
  · obtain ⟨r', hr'⟩ := hr.reapLeftPlayers hhandle
    have hwf := (does_anyFine_reap hhandle).keeps_wellFormed hhandle
    exact (does_reportLobby plain_closing _).closing_reviews (Q := fun _ => False) hwf ⟨r', hr'⟩

/-- No counter is at its end in such an iteration. -/
theorem admits_unsaturated {ev : Event} (hs : WellFormed s) (hC : KeepsCount s ev)
    (hV : Vigilant s) : Admits unsaturated s ev := by
  refine admits_fine ?_ ?_ fun _ _ _ => rfl
  · intro k hfine hguarded t
    cases k with
    | ack pid checksum => cases hguarded
    | _ => exact hfine
  · exact
      { phase := fun _ => rfl
        slots := fun _ _ _ => rfl
        vacate := fun _ _ _ _ _ _ => rfl
        limit := fun _ => rfl
        seat := fun _ _ _ _ _ _ _ => rfl
        bounce := fun _ _ => rfl
        seatFake := fun _ _ _ _ => rfl
        token := fun _ _ _ _ _ _ _ => rfl
        host := fun _ _ => rfl
        unhost := fun _ _ _ => rfl
        unfake := fun _ _ _ _ => rfl
        attachFull := fun _ _ _ _ _ => rfl
        attachGps := fun _ _ _ _ _ _ => rfl
        ack := by
          rintro env connId payload checksum p rfl hplay hsum hp q hq hqp
          have hmem := List.mem_of_find?_eq_some hp
          rw [List.inj_on_of_nodup_map hs.pids hq hmem hqp]
          have hacked := hC.acked _ (Option.mem_def.2 (accepted_eq hplay hsum hp))
          have hsync := hV.windowed.sync
          dsimp only at hacked
          omega
        queue := fun _ _ => rfl
        cache := fun _ _ => rfl
        feed := fun _ _ _ => rfl
        timeout := fun _ _ _ => rfl }

/-- An iteration keeps what holds between two iterations. -/
theorem step_vigilant {ev : Event} (hs : WellFormed s) (hev : ev.Sound) (hC : KeepsCount s ev)
    (hV : Vigilant s) : Vigilant (s.step ev) where
  windowed := step_windowed hs hev (feedsOpenLinks_of_reviews hs hV.reviews ev) hC.limit hV.windowed
  counts := by
    refine (Lib.Path.preserves (I := fun s => WellFormed s ∧ CountsReports s) ?_
      (does_step hs hev (admits_unsaturated hs hC hV)) ⟨hs, hV.counts⟩).2
    intro k s t hk hst ⟨hs, hI⟩
    exact ⟨hst.keeps_wellFormed hs, hst.countsReports hk hs hI⟩
  reviews := step_reviews hs hev hC hV

/-- What is known in the states in which the check is called. -/
theorem Vigilant.checkPoints {ev : Event} (hs : WellFormed s) (hC : KeepsCount s ev)
    (hV : Vigilant s)
    (ht : t ∈ s.checkPoints ev) : CountsReports t ∧ ∃ r, Reviews Excused 502 r t := by
  constructor
  · refine (Lib.Path.preserves (I := fun s => WellFormed s ∧ CountsReports s) ?_
      (does_checkPoints (admits_unsaturated hs hC hV) ht) ⟨hs, hV.counts⟩).2
    intro k s t hk hst ⟨hs, hI⟩
    exact ⟨hst.keeps_wellFormed hs, hst.countsReports hk hs hI⟩
  cases hacc : s.accepted ev with
  | none =>
      obtain ⟨r, hr⟩ := hV.reviews
      obtain ⟨-, r', hr'⟩ := Does.marked_reviews (does_checkPoints
        (admits_reviewing hV.reviews hC.noRejoin hC.covers hacc) ht) hs ⟨r, hr.excused⟩
      exact ⟨r', hr'.of_le (by decide)⟩
  | some e =>
      obtain ⟨p, checksum⟩ := e
      obtain ⟨r, hr⟩ := hV.acknowledge hC hacc
      rw [mem_checkPoints_of_accepted hacc ht]
      exact ⟨r, hr.excused⟩

/-- No difference is missed. In every run in which the sync limit is at
most 500, nobody comes back without its state, clients acknowledge only
turns that were sent, and the counter of the player in the fake player's
role counts the keepalives it sends: whenever the check is called, of
any two clients at the table that are not marked every report is queued
or was compared with the other's (`SettledUpTo`); and if the two have
reported different checksums of a turn that all active players have
acknowledged, the check stops at a disagreement about an earlier turn or
marks one of the two for a desync. -/
theorem no_missed_desync {ev : Event} (h : Reaches KeepsCount s) (hC : KeepsCount s ev)
    (ht : t ∈ s.checkPoints ev) (hp : p ∈ t.players) (hq : q ∈ t.players) (hpl : p.left = none)
    (hql : q.left = none) (hpv : p.virtualHost = false) (hqv : q.virtualHost = false) :
    (p.pid ≠ q.pid → ∃ n, SettledUpTo t.fakePlayerPid n p q)
      ∧ ∀ k a b, p.reports[k]? = some a → q.reports[k]? = some b → a ≠ b →
        (∀ x ∈ t.players, x.loaded = true → x.left = none → x.virtualHost = false →
          k < x.syncCounter) →
        (∃ u target, Sweeping t u ∧ target ≤ k ∧ Disagrees u target)
          ∨ ∃ x ∈ t.checkDesync.players, (x.pid = p.pid ∨ x.pid = q.pid)
            ∧ x.left = some .desync := by
  obtain ⟨hs, hV⟩ := h.preserves (I := Vigilant)
    (fun _ _ _ =>
      ⟨⟨Nat.two_pow_pos 32, fun _ => rfl, fun _ hp => (nomatch hp)⟩, fun _ hp => (nomatch hp),
      .agreed [], fun _ _ => rfl, fun _ hp => (nomatch hp)⟩)
    fun s ev hs hev hC hV => step_vigilant hs hev hC hV
  -- what is compared so far is the same for all who are compared
  obtain ⟨hcounts, r, hr⟩ := hV.checkPoints hs hC ht
  have hnd := (wellFormed_of_checkPoints hs ht).pids
  have hplay := checkPoints_phase ht
  have hpc := hr.compared_of_mem hplay hp hpl hpv
  have hqc := hr.compared_of_mem hplay hq hql hqv
  constructor
  · intro hpid
    cases r with
    | alone pid =>
        exact absurd (congrArg Player.pid (eq_of_lone (hr.lone hnd) hpc hqc)) hpid
    | agreed sums =>
        have hpu := (hr.attends hpc).passed
        have hqu := (hr.attends hqc).passed
        have hreported : ∀ x ∈ t.players, x.UpTo sums 502 t.syncCounter →
            t.fakePlayerPid ≠ some x.pid → sums.length ≤ x.reports.length := by
          intro x hx hxu hrole
          rw [← (hcounts x hx).resolve_left hrole]
          exact hxu.settled
        refine ⟨sums.length, ⟨hpu.queue, hreported p hp hpu⟩, ⟨hqu.queue, hreported q hq hqu⟩, ?_⟩
        intro i hi a b ha hb
        -- two sums that differ below the settled turn would have been found
        by_contra hab
        exact absurd (Player.UpTo.differ hpu hqu ha hb hab) (Nat.not_le.2 hi)
  · intro k a b ha hb hab hacked
    refine checkDesync_finds hr hnd hplay hpc hqc ha hb hab fun x hx => ?_
    obtain ⟨hmem, hcheck⟩ := mem_compared.1 hx
    simp only [Player.inDesyncCheck, Bool.and_eq_true, Bool.not_eq_true'] at hcheck
    exact hacked x hmem hcheck.1.2 (left_of_compared hx) hcheck.1.1.2

end Iteration

section Runs

open Scenario

instance [RustStd] (s : GameState) (ev : Event) : Decidable (CoversTurns s ev) :=
  match ev with
  | .tick _ => inferInstanceAs (Decidable (s.phase = .playing → s.tickHead.tickLag.2 = false →
      ∀ p ∈ s.tickHead.tickLag.1.players,
        p.syncCounter ≤ (s.tickHead.tickLag.1.syncCounter + 1) % 2 ^ 32))
  | .elapse _ | .cmd .. => inferInstanceAs (Decidable True)

instance [RustStd] (s : GameState) (ev : Event) : Decidable (KeepsPace s ev) :=
  decidable_of_iff
    (LimitAtMost 500 s ∧ s.fullSeat ev = none
      ∧ (∀ e ∈ s.accepted ev, e.1.syncCounter < s.syncCounter)
      ∧ CoversTurns s ev)
    ⟨fun h => ⟨h.1, h.2.1, h.2.2.1, h.2.2.2⟩, fun h => ⟨h.limit, h.noRejoin, h.acked, h.covers⟩⟩

instance [RustStd] (s : GameState) (ev : Event) : Decidable (KeepsCount s ev) :=
  decidable_of_iff
    (KeepsPace s ev ∧ ∀ e ∈ s.accepted ev, s.fakePlayerPid = some e.1.pid →
      e.1.syncCounter = e.1.reports.length)
    ⟨fun h => ⟨h.1, h.2⟩, fun h => ⟨h.toKeepsPace, h.counted⟩⟩


/-- Two clients play a turn, and the first reports it. -/
def oneReport : List Event :=
  twoPlay PlayerLink.drained PlayerLink.drained ++ [.tick 0, report 1 7]

/-- The second client reports something else, and the check marks
one. -/
theorem no_missed_desync_oneReport :
    ∃ p ∈ ((lobby.run oneReport).acknowledge 2 9).players,
      ∃ q ∈ ((lobby.run oneReport).acknowledge 2 9).players,
        (p.reports, q.reports) = ([7], [9])
          ∧ (∃ n, SettledUpTo ((lobby.run oneReport).acknowledge 2 9).fakePlayerPid n p q)
          ∧ ((∃ u target, Sweeping ((lobby.run oneReport).acknowledge 2 9) u ∧ target ≤ 0
              ∧ Disagrees u target)
            ∨ ∃ x ∈ ((lobby.run oneReport).acknowledge 2 9).checkDesync.players,
              (x.pid = p.pid ∨ x.pid = q.pid) ∧ x.left = some .desync) := by
  have hrun : Reaches KeepsCount (lobby.run oneReport) :=
    ⟨config, 0, 5, Runs.of_meets (by decide +kernel)⟩
  have hpoints : (lobby.run oneReport).checkPoints (report 2 9)
      = [(lobby.run oneReport).acknowledge 2 9] := by
    unfold checkPoints
    rw [if_pos (by decide +kernel)]
    rfl
  have hpair : ∃ p ∈ ((lobby.run oneReport).acknowledge 2 9).players,
      ∃ q ∈ ((lobby.run oneReport).acknowledge 2 9).players, p.reports = [7] ∧ q.reports = [9]
        ∧ p.left = none ∧ q.left = none ∧ p.virtualHost = false ∧ q.virtualHost = false
        ∧ p.pid ≠ q.pid := by
    decide +kernel
  obtain ⟨p, hp, q, hq, hpr, hqr, hpl, hql, hpv, hqv, hpid⟩ := hpair
  obtain ⟨hsettled, hfinds⟩ := no_missed_desync hrun (by decide +kernel)
    (hpoints ▸ List.mem_singleton_self _) hp hq hpl hql hpv hqv
  refine ⟨p, hp, q, hq, by rw [hpr, hqr], hsettled hpid, ?_⟩
  exact hfinds 0 7 9 (by rw [hpr]; rfl) (by rw [hqr]; rfl) (by decide) (by decide +kernel)

/-- The fake player is kicked, and a client gets its id; two turns are
played, and the client reports its first checksum. -/
def roleHeld : List Event :=
  [connect 1 PlayerLink.drained, join 1 (txt "ann"), cmd .toggleFakePlayer,
    say 1 1 (txt "!kick FakePlayer"), connect 2 PlayerLink.drained, join 2 (txt "bob")]
    ++ countdown ++ [loaded 1, loaded 2, .tick 0, .tick 0, report 2 9]

/-- The other client reports another first checksum, everyone has
acknowledged the first turn, and the check marks nobody: what the client
reported of its first turn is queued under the second. -/
theorem stale_role_hides_desync :
    Meets KeepsPace lobby (roleHeld ++ [report 1 7])
      ∧ (lobby.run roleHeld).checkPoints (report 1 7) = [(lobby.run roleHeld).acknowledge 1 7]
      ∧ ((lobby.run roleHeld).acknowledge 1 7).players.map
          (fun p => (p.reports, p.syncCounter, p.left, p.checksums))
        = [([7], 1, none, [⟨1, 7⟩]), ([9], 2, none, [⟨2, 9⟩])]
      ∧ ((lobby.run roleHeld).acknowledge 1 7).checkDesync.players.map
          (fun p => (p.reports, p.left, p.checksums))
        = [([7], none, []), ([9], none, [⟨2, 9⟩])] := by
  have hpoints : (lobby.run roleHeld).checkPoints (report 1 7)
      = [(lobby.run roleHeld).acknowledge 1 7] := by
    unfold checkPoints
    rw [if_pos (by decide +kernel)]
    rfl
  exact ⟨by decide +kernel, hpoints, by decide +kernel, by decide +kernel⟩

end Runs

end Spectre

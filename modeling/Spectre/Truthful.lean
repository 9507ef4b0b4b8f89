/-
No false desync.

If every player reports, turn for turn, what one function `cs` says,
then nobody is ever dropped for a desync. The queue of a player carries
with each checksum the turn it is about, so what the invariant has to
say is that the turn is right: a player's counter is the number of the
keepalives it has sent. The counter of the player in the fake player's
role is moved by hand, and the role stays behind when its player goes;
a real player that gets the id reports its first turns under numbers
they do not have (`stale_role_desyncs_truthful_players`).
-/
import Spectre.Desync
import Spectre.Seats

namespace Spectre

open GameState

-- ================================================================= statement

/-- The keepalive an iteration counts, the sender's `k`-th since its
counter was last set to 0, carries the checksum of turn `k`. -/
def Truthful (cs : Nat → Nat) (s : GameState) (ev : Event) : Prop :=
  ∀ e ∈ s.accepted ev,
    e.2 = cs (e.1.reports.length + 1) ∧ e.1.reports.length + 1 < 2 ^ 32 - 1

/-- The keepalive is truthful, and if it comes from the player in the
fake player's role, that player's counter counts its keepalives. -/
structure Counted (cs : Nat → Nat) (s : GameState) (ev : Event) : Prop where
  report : Truthful cs s ev
  counted : ∀ e ∈ s.accepted ev, s.fakePlayerPid = some e.1.pid →
    e.1.syncCounter = e.1.reports.length

/-- Who is at the table, and who of them is marked. -/
def GameState.marks (s : GameState) : List (UInt8 × Option LeftReason) :=
  s.players.map fun p => (p.pid, p.left)

-- ================================================================= invariant

/-- The queued checksums are those of their turns. -/
def Player.Reports (cs : Nat → Nat) (p : Player) : Prop := ∀ e ∈ p.checksums, e.checksum = cs e.turn

/-- What holds of a player in the run: its queue is right, so is its
counter unless it has the fake player's role, and it is not marked for
a desync. -/
structure Player.Aligned (cs : Nat → Nat) (fake : Option UInt8) (p : Player) : Prop where
  queue : p.Reports cs
  counter : fake = some p.pid ∨ p.syncCounter = p.reports.length
  left : p.left ≠ some .desync

/-- What holds in the run. -/
structure Aligned (cs : Nat → Nat) (s : GameState) : Prop where
  players : ∀ p ∈ s.players, p.Aligned cs s.fakePlayerPid
  reaped : ∀ e ∈ s.reaped, e.2 ≠ .desync

-- =========================================================== marks for desync

namespace Player

variable {cs : Nat → Nat} {p q : Player} {now : Nat} {b : Packet} {fake : Option UInt8}

/-- A send is no desync. -/
theorem deliver_not_desync {via : Via} (h : p.left ≠ some .desync) :
    (p.deliver now b via).left ≠ some .desync := by
  rcases p.deliver_left now b via with he | he | ⟨-, he⟩
  · rwa [he]
  · rw [he]
    simp
  · rw [he]
    simp

/-- Nor is a packet to all. -/
theorem hear_not_desync {seq : Option Nat} (h : p.left ≠ some .desync) :
    (p.hear now b seq).left ≠ some .desync := by
  rcases p.hear_cases now b seq with ⟨-, he⟩ | ⟨-, -, -, he⟩ | ⟨-, -, -, -, -, he⟩
  · rwa [he]
  · rw [he]
    exact h
  · rw [he]
    exact deliver_not_desync (p := p.buffer b) h

/-- Nor is one to the player. -/
theorem receive_not_desync (h : p.left ≠ some .desync) :
    (p.receive now b).left ≠ some .desync := by
  rcases p.receive_cases now b with ⟨-, he⟩ | ⟨-, -, he⟩ | ⟨-, -, he⟩
  · rwa [he]
  · rw [he]
    exact h
  · rw [he]
    exact deliver_not_desync (p := p.buffer b) h

/-- Nor is the feed. -/
theorem feed_not_desync {history : FullHistory} (h : p.left ≠ some .desync) :
    (p.feed now history).left ≠ some .desync := by
  cases p.feeds_feed now history with
  | idle _ he => rwa [he]
  | gone _ _ he =>
      rw [he]
      exact h
  | evicted _ _ _ he =>
      rw [he]
      simp
  | fed _ _ _ _ _ _ _ _ _ hend =>
      cases hend with
      | drained _ _ hl _ _ => rwa [hl]
      | blocked _ _ _ hl _ _ => rwa [hl]
      | held _ _ _ _ _ hl _ _ => rwa [hl]
      | dropped _ _ _ _ hl _ _ =>
          rw [hl]
          simp

namespace Aligned

/-- Nothing changes that the invariant reads, but perhaps the mark. -/
theorem of_same (h : p.Aligned cs fake) (hpid : q.pid = p.pid) (hqueue : q.checksums = p.checksums)
    (hsync : q.syncCounter = p.syncCounter) (hreports : q.reports = p.reports)
    (hleft : q.left ≠ some .desync) : q.Aligned cs fake where
  queue e he := h.queue e (hqueue ▸ he)
  counter := by
    rw [hpid, hsync, hreports]
    exact h.counter
  left := hleft

/-- What a send leaves alone stays right, unless it marks for a desync. -/
theorem of_kept (h : p.Aligned cs fake) (hk : Kept p q) (hleft : q.left ≠ some .desync) :
    q.Aligned cs fake :=
  h.of_same hk.pid hk.checksums hk.syncCounter hk.reports hleft

/-- A packet to all. -/
theorem hear {seq : Option Nat} (h : p.Aligned cs fake) : (p.hear now b seq).Aligned cs fake :=
  h.of_kept (p.kept_hear _ _ _) (hear_not_desync h.left)

/-- A keepalive is queued under the turn it is about. -/
theorem keepalive (h : p.Aligned cs fake) {gameSync checksum : Nat}
    (hsum : checksum = cs (p.syncCounter + 1)) (hlt : p.syncCounter + 1 < 2 ^ 32 - 1) :
    (p.keepalive gameSync checksum).Aligned cs fake := by
  have hturn : min (p.syncCounter + 1) (2 ^ 32 - 1) = p.syncCounter + 1 := by omega
  have hcounter : fake = some p.pid
      ∨ min (p.syncCounter + 1) (2 ^ 32 - 1) = (p.reports ++ [checksum]).length := by
    rw [hturn, List.length_append, List.length_singleton]
    exact h.counter.imp_right fun he => by rw [he]
  unfold Player.keepalive
  dsimp only
  split
  · split
    · exact ⟨h.queue, hcounter, h.left⟩
    · exact ⟨h.queue, hcounter, h.left⟩
  · refine ⟨?_, hcounter, h.left⟩
    intro e he
    rcases List.mem_append.1 he with he | he
    · refine h.queue e ?_
      split at he
      · exact List.mem_of_mem_tail he
      · exact he
    · rw [List.mem_singleton.1 he, hturn]
      exact hsum

/-- A newcomer has reported nothing. -/
theorem of_newcomer (h : Newcomer q) : q.Aligned cs fake where
  queue e he := by
    rw [h.checksums] at he
    cases he
  counter := by
    rw [h.syncCounter, h.reports]
    exact .inr rfl
  left := by
    rw [h.left]
    simp

end Aligned

end Player

-- ===================================================================== steps

/-- Every function in pieces but for the desync check; a keepalive only
with the checksum of its turn. -/
def tells (cs : Nat → Nat) (k : Kind) (s : GameState) : Prop :=
  match k with
  | .ack pid checksum => ∀ p ∈ s.players, p.pid = pid →
      checksum = cs (p.syncCounter + 1) ∧ p.syncCounter + 1 < 2 ^ 32 - 1
  | .desync | .pop => False
  | .check => True
  | k => k.fine = true

variable {cs : Nat → Nat}

/-- Every move keeps a player right; a keepalive is one with the right
checksum. -/
theorem Moves.aligned {s : GameState} {k : Kind} {p q : Player} (h : Moves s k p q)
    (hk : tells cs k s) (hp : p ∈ s.players) (hI : p.Aligned cs s.fakePlayerPid) :
    q.Aligned cs s.fakePlayerPid := by
  cases h with
  | same => exact hI
  | air b _ => exact hI.hear
  | tell b _ _ => exact hI.of_kept (p.kept_receive _ _) (Player.receive_not_desync hI.left)
  | feed => exact hI.of_kept (p.kept_feed _ _) (Player.feed_not_desync hI.left)
  | note h => exact hI.of_same h.pid h.checksums h.syncCounter h.reports (h.left ▸ hI.left)
  | leave r code _ hr =>
      -- who is marked here is marked for some other reason than a desync
      refine hI.of_same rfl rfl rfl rfl fun he => hr ?_
      exact Option.some.inj he
  | lagDrop n code _ => exact hI.of_same rfl rfl rfl rfl (by simp [Player.leave])
  | timeout =>
      unfold Player.loadingTimeout
      split
      · exact hI.of_same rfl rfl rfl rfl (by simp [Player.leave])
      · exact hI
  | hold reason code =>
      unfold Player.connClosed
      split
      · exact hI.of_same rfl rfl rfl rfl hI.left
      · split
        · exact hI.of_same rfl rfl rfl rfl (by simp [Player.leave])
        · exact hI
  | expire =>
      rcases p.gproxyTimeout_cases s.now s.cfg.reconnectWait with
        ⟨-, he⟩ | ⟨_, -, -, he⟩ | ⟨_, _, _, -, -, he⟩
      · rwa [he]
      · rw [he]
        exact hI.of_same rfl rfl rfl rfl (by simp)
      · rw [he]
        exact hI.of_same rfl rfl rfl rfl hI.left
  | tooLong _ => exact hI.of_same rfl rfl rfl rfl (by simp)
  | ack checksum _ =>
      -- the premise: what is reported is the sum of that turn
      obtain ⟨hsum, hlt⟩ := hk p hp rfl
      exact hI.keepalive hsum hlt
  | level hfake => exact ⟨hI.queue, .inl hfake, hI.left⟩
  | restart => exact ⟨fun _ he => (nomatch he), .inr rfl, hI.left⟩
  | attachFull connId link _ _ _ =>
      exact ⟨fun _ he => (nomatch he), .inr rfl, by simp [Player.attachFull]⟩
  | attachGps connId link _ _ b _ last replay _ =>
      obtain ⟨link', he⟩ := p.attachGps_eq connId link b.totalSent replay
      rw [he]
      exact hI.of_same rfl rfl rfl rfl (by simp)
  | desync => exact hk.elim
  | pop => exact hk.elim
  | _ => exact hI.of_same rfl rfl rfl rfl hI.left

section Loop

variable [RustStd] {s t : GameState}

omit [RustStd] in
/-- The oldest queued checksum is that of its turn. -/
theorem headSum_of_headTurn {p : Player} {turn : Nat} (h : p.Reports cs)
    (hturn : p.headTurn = some turn) : p.headSum = cs turn := by
  unfold Player.headTurn at hturn
  unfold Player.headSum
  cases hq : p.checksums with
  | nil =>
      rw [hq] at hturn
      cases hturn
  | cons e rest =>
      rw [hq] at hturn
      rw [← Option.some.inj hturn]
      exact h e (hq ▸ List.mem_cons_self)

/-- What a check does that finds no disagreement: queued checksums go,
and nothing else changes. -/
structure Quietly (s t : GameState) : Prop where
  players : ∃ f : Player → Player,
    (∀ p, ∃ queue, queue <:+ p.checksums ∧ f p = { p with checksums := queue })
      ∧ t.players = s.players.map f
  reaped : t.reaped = s.reaped
  fakePlayerPid : t.fakePlayerPid = s.fakePlayerPid

namespace Quietly

omit [RustStd] in
/-- Nothing is found. -/
protected theorem refl (s : GameState) : Quietly s s :=
  ⟨⟨id, fun p => ⟨p.checksums, List.suffix_refl _, rfl⟩, (List.map_id _).symm⟩, rfl, rfl⟩

omit [RustStd] in
/-- One turn after another. -/
protected theorem trans {u : GameState} (h₁ : Quietly s t) (h₂ : Quietly t u) : Quietly s u where
  players := by
    obtain ⟨f, hf, he⟩ := h₁.players
    obtain ⟨g, hg, he'⟩ := h₂.players
    refine ⟨g ∘ f, fun p => ?_, by rw [he', he, List.map_map]⟩
    obtain ⟨queue, hqueue, hfp⟩ := hf p
    obtain ⟨queue', hqueue', hgp⟩ := hg (f p)
    rw [hfp] at hqueue' hgp
    exact ⟨queue', hqueue'.trans hqueue, (congrArg g hfp).trans hgp⟩
  reaped := h₂.reaped.trans h₁.reaped
  fakePlayerPid := h₂.fakePlayerPid.trans h₁.fakePlayerPid

omit [RustStd] in
/-- Nobody is marked. -/
theorem marks (h : Quietly s t) : t.marks = s.marks := by
  obtain ⟨f, hf, he⟩ := h.players
  unfold GameState.marks
  rw [he, List.map_map]
  refine List.map_congr_left fun p _ => ?_
  obtain ⟨queue, -, hfp⟩ := hf p
  dsimp only [Function.comp]
  rw [hfp]

omit [RustStd] in
/-- Taking the same turn off every queue leaves all of them right. -/
theorem aligned (h : Quietly s t) (hI : Aligned cs s) : Aligned cs t where
  players q hq := by
    obtain ⟨f, hf, he⟩ := h.players
    rw [he] at hq
    obtain ⟨p, hp, rfl⟩ := List.mem_map.1 hq
    obtain ⟨queue, hqueue, hfp⟩ := hf p
    rw [h.fakePlayerPid, hfp]
    have hp := hI.players p hp
    exact ⟨fun e he => hp.queue e (hqueue.subset he), hp.counter, hp.left⟩
  reaped := h.reaped ▸ hI.reaped

end Quietly

/-- Truthful players agree, so an iteration of the check drops queued
checksums at most. -/
theorem Sweep.quietly {go : Bool} (h : Sweep s t go) (hI : ∀ p ∈ s.players, p.Reports cs) :
    Quietly s t := by
  have hmap : ∀ f : Player → Player,
      (∀ p, ∃ queue, queue <:+ p.checksums ∧ f p = { p with checksums := queue }) →
      Quietly s { s with players := s.players.map f } := by
    intro f hf
    exact ⟨⟨f, hf, rfl⟩, rfl, rfl⟩
  cases h with
  | idle => exact .refl s
  | waiting => exact .refl s
  | lone target _ _ =>
      refine hmap _ fun p => ?_
      split
      · exact ⟨[], List.nil_suffix, rfl⟩
      · exact ⟨p.checksums, List.suffix_refl _, rfl⟩
  | agree target _ _ _ _ =>
      refine hmap _ fun p => ?_
      unfold Player.sweep
      split
      · exact ⟨p.checksums.tail, List.tail_suffix _, rfl⟩
      · exact ⟨p.checksums, List.suffix_refl _, rfl⟩
  | disagree target _ _ _ hdiffer _ _ =>
      obtain ⟨p, hp, q, hq, hpt, hqt, hne⟩ := hdiffer
      refine absurd ?_ hne
      rw [headSum_of_headTurn (hI p (mem_compared.1 hp).1) hpt,
        headSum_of_headTurn (hI q (mem_compared.1 hq).1) hqt]

/-- Truthful players pass every check. -/
theorem checkDesync_quietly (hnd : (s.players.map Player.pid).Nodup) (hI : Aligned cs s) :
    Quietly s s.checkDesync := by
  refine checkDesync_induction (P := fun s t => Aligned cs s → Quietly s t) hnd ?_ ?_ hI
  · intro s t _ hsweep hI
    exact hsweep.quietly fun p hp => (hI.players p hp).queue
  · intro s t u _ hsweep hP hI
    have hone := hsweep.quietly fun p hp => (hI.players p hp).queue
    exact hone.trans (hP (hone.aligned hI))

/-- A step keeps everybody at the table right. -/
theorem Step.players_aligned {k : Kind} (h : Step k s t) (hk : tells cs k s)
    (hfine : k.fine = true) (hI : Aligned cs s) :
    ∀ q ∈ t.players, q.Aligned cs s.fakePlayerPid := by
  refine h.forall_players hfine ?_ ?_ ?_ ?_ hI.players
  · exact fun p hp q hm hI => hm.aligned hk hp hI
  · exact fun p _ _ _ hI => hI.hear
  · exact fun _ p hp => .of_newcomer hp
  · exact fun pid name => ⟨fun _ he => (nomatch he), .inr rfl, by simp [hostPlayer]⟩

/-- It keeps the whole state right. -/
theorem Step.aligned {k : Kind} (h : Step k s t) (hk : tells cs k s) (hs : WellFormed s)
    (hI : Aligned cs s) : Aligned cs t := by
  have hplayers : k.fine = true → ∀ q ∈ t.players, q.Aligned cs s.fakePlayerPid :=
    fun hfine => h.players_aligned hk hfine hI
  have hsame : k.fine = true → t.reaped = s.reaped → t.fakePlayerPid = s.fakePlayerPid →
      Aligned cs t := fun hfine hreaped hfake => ⟨hfake ▸ hplayers hfine, hreaped ▸ hI.reaped⟩
  cases h with
  | misc h hb => exact hsame hb.fine h.reaped h.fakePlayerPid
  | air b _ | airLag b _ | reset b _ =>
      exact hsame rfl (broadcast_reaped s b) (broadcast_fakePlayerPid s b)
  | block b _ f => exact hsame rfl (broadcast_reaped _ b) (broadcast_fakePlayerPid _ b)
  | table htable ps hm => exact hsame (by cases k <;> first | rfl | cases htable) rfl rfl
  | seat sid player _ _ _ _ info _ =>
      obtain ⟨ps, he⟩ := sendOthersDirect?_eq ({ s with
        slots := (s.slots.occupySlot sid player.pid).1
        players := s.players ++ [(s.joinBurst player).foldl Player.sendDirect player] })
        player.pid info
      refine hsame rfl ?_ ?_
      · rw [he]
      · rw [he]
  | seatFake sid p _ hnone _ _ _ info _ =>
      have hplayers := hplayers rfl
      obtain ⟨ps, hist, aired, he⟩ := broadcast?_eq ({ s with
        players := s.players ++ [p], slots := (s.slots.occupySlot sid p.pid).1
        fakePlayerPid := some p.pid }) info
      refine ⟨fun q hq => ?_, ?_⟩
      · -- nobody had the role before
        obtain ⟨hqueue, hcounter, hleft⟩ := hplayers q hq
        rw [hnone] at hcounter
        exact ⟨hqueue, .inr (hcounter.resolve_left (by simp)), hleft⟩
      · rw [he]
        exact hI.reaped
  | host pid _ _ info _ =>
      obtain ⟨ps, hist, aired, he⟩ := s.broadcast?_eq info
      refine hsame rfl ?_ ?_
      · show (s.broadcast? info).reaped = _
        rw [he]
      · show (s.broadcast? info).fakePlayerPid = _
        rw [he]
  | unseat pid r code hfind hleft _ =>
      refine ⟨?_, ?_⟩
      · rw [broadcast_fakePlayerPid]
        exact hplayers rfl
      · rw [broadcast_reaped]
        intro e he
        rcases List.mem_append.1 he with he | he
        · exact hI.reaped e he
        · rw [List.mem_singleton.1 he]
          rintro rfl
          exact (hI.players _ (List.mem_of_find?_eq_some hfind)).left hleft
  | unhost _ _ => exact hsame rfl (broadcast_reaped _ _) (broadcast_fakePlayerPid _ _)
  | unfake pid _ hfake =>
      have hplayers := hplayers rfl
      refine ⟨fun q hq => ?_, ?_⟩
      · -- the player in the role is the one that goes
        obtain ⟨hqueue, hcounter, hleft⟩ := hplayers q hq
        refine ⟨hqueue, .inr (hcounter.resolve_left fun hrole => ?_), hleft⟩
        rw [hfake] at hrole
        rw [broadcast_players] at hq
        obtain ⟨p, hp, rfl⟩ := List.mem_map.1 hq
        rw [(p.kept_hear _ _ _).pid] at hrole
        refine Lib.key_not_mem_eraseP (k := p.pid) hs.pids
          (List.mem_map_of_mem (f := Player.pid) ?_)
        rw [Option.some.inj hrole] at hp
        exact hp
      · rw [broadcast_reaped]
        exact hI.reaped
  | check => exact (checkDesync_quietly hs.pids hI).aligned hI
  | reap => cases hk
  | begin => cases hk
  | loaded => cases hk
  | lagCheck => cases hk
  | sendTurn => cases hk
  | _ => exact hsame rfl rfl rfl

/-- An iteration whose keepalive is truthful is made of these steps. -/
theorem admits_tells {ev : Event} (hC : Counted cs s ev) (hs : WellFormed s)
    (hI : Aligned cs s) : Admits (tells cs) s ev := by
  refine admits_check ?_ ?_ (fun _ _ _ => rfl) fun t _ =>
    Does.one (k := .check) trivial .check
  · intro k hfine hguarded hpop hdesync t
    cases k with
    | ack pid checksum => cases hguarded
    | desync => exact absurd rfl hdesync
    | pop => exact absurd rfl hpop
    | check => trivial
    | _ => exact hfine
  · exact
      { phase := fun _ => rfl
        slots := fun _ _ _ => rfl
        vacate := fun _ _ _ _ _ _ => rfl
        limit := fun _ => rfl
        seat := fun _ _ _ _ _ _ _ => rfl
        bounce := fun _ _ => rfl
        seatFake := fun _ _ _ _ => rfl
        token := fun _ _ _ _ _ _ _ => rfl
        host := fun _ _ => rfl
        unhost := fun _ _ _ => rfl
        unfake := fun _ _ _ _ => rfl
        attachFull := fun _ _ _ _ _ => rfl
        attachGps := fun _ _ _ _ _ _ => rfl
        ack := by
          rintro env connId payload checksum p rfl hplay hsum hp q hq hqp
          have hev : s.accepted (.cmd env _) = _ := accepted_eq hplay hsum hp
          have hmem : p ∈ s.players := List.mem_of_find?_eq_some hp
          have hsame : q = p := List.inj_on_of_nodup_map hs.pids hq hmem hqp
          obtain ⟨hreport, hlt⟩ := hC.report _ (Option.mem_def.2 hev)
          have hcounter : p.syncCounter = p.reports.length := by
            rcases (hI.players p hmem).counter with hrole | h
            · exact hC.counted _ (Option.mem_def.2 hev) hrole
            · exact h
          rw [hsame, hcounter]
          exact ⟨hreport, hlt⟩
        queue := fun _ _ => rfl
        cache := fun _ _ => rfl
        feed := fun _ _ _ => rfl
        timeout := fun _ _ _ => rfl }

/-- What is done in them keeps the state right. -/
theorem does_tells_aligned (hs : WellFormed s) (h : Does (tells cs) s t) (hI : Aligned cs s) :
    WellFormed t ∧ Aligned cs t := by
  refine Lib.Path.preserves (I := fun s => WellFormed s ∧ Aligned cs s) ?_ h ⟨hs, hI⟩
  intro k s t hk hst ⟨hs, hI⟩
  exact ⟨hst.keeps_wellFormed hs, hst.aligned hk hs hI⟩

/-- So does the iteration. -/
theorem step_aligned {ev : Event} (hs : WellFormed s) (hev : ev.Sound) (hC : Counted cs s ev)
    (hI : Aligned cs s) : Aligned cs (s.step ev) :=
  (does_tells_aligned hs (does_step hs hev (admits_tells hC hs hI)) hI).2

/-- In every run in which every keepalive carries the checksum of its
turn, and the counter of whoever it comes from counts its keepalives,
nobody is ever dropped for a desync, and no check marks anybody. -/
theorem no_false_desync (h : Reaches (Counted cs) s) :
    (∀ p ∈ s.players, p.left ≠ some .desync) ∧ (∀ e ∈ s.reaped, e.2 ≠ .desync)
      ∧ ∀ ev, Counted cs s ev → ∀ t ∈ s.checkPoints ev, t.checkDesync.marks = t.marks := by
  obtain ⟨hs, hI⟩ := h.preserves (I := Aligned cs)
    (fun _ _ _ => ⟨fun _ hp => (nomatch hp), fun _ he => (nomatch he)⟩)
    fun s ev hs hev hC hI => step_aligned hs hev hC hI
  refine ⟨fun p hp => (hI.players p hp).left, hI.reaped, ?_⟩
  intro ev hC t ht
  obtain ⟨hts, htI⟩ := does_tells_aligned hs (does_checkPoints (admits_tells hC hs hI) ht) hI
  exact (checkDesync_quietly hts.pids htI).marks

end Loop

section Runs

open Scenario

instance (cs : Nat → Nat) (s : GameState) (ev : Event) : Decidable (Truthful cs s ev) :=
  inferInstanceAs (Decidable (∀ e ∈ s.accepted ev,
    e.2 = cs (e.1.reports.length + 1) ∧ e.1.reports.length + 1 < 2 ^ 32 - 1))

instance (cs : Nat → Nat) (s : GameState) (ev : Event) : Decidable (Counted cs s ev) :=
  decidable_of_iff
    (Truthful cs s ev ∧ ∀ e ∈ s.accepted ev, s.fakePlayerPid = some e.1.pid →
      e.1.syncCounter = e.1.reports.length)
    ⟨fun h => ⟨h.1, h.2⟩, fun h => ⟨h.report, h.counted⟩⟩

/-- OUTGOING_KEEPALIVE, with a checksum. -/
def report (connId checksum : Nat) : Event := w3gs connId 0x27 ([0] ++ u32le checksum)

/-- Two clients play two turns; one is late with its reports. -/
def lateReports : List Event :=
  twoPlay PlayerLink.drained PlayerLink.drained
    ++ [.tick 0, .tick 0, report 1 1, report 1 2, .tick 0, report 2 1]

/-- The late reports are compared with those that waited, and agree. -/
theorem no_false_desync_lateReports :
    Reaches (Counted id) (lobby.run lateReports)
      ∧ (lobby.run lateReports).players.map (fun p => (p.syncCounter, p.checksums))
        = [(2, [⟨2, 2⟩]), (1, [])]
      ∧ (∀ p ∈ (lobby.run lateReports).players, p.left ≠ some .desync)
      ∧ Counted id (lobby.run lateReports) (report 2 2)
      ∧ ∀ t ∈ (lobby.run lateReports).checkPoints (report 2 2), t.checkDesync.marks = t.marks := by
  have hrun : Reaches (Counted id) (lobby.run lateReports) :=
    ⟨config, 0, 5, Runs.of_meets (by decide +kernel)⟩
  have hlast : Counted id (lobby.run lateReports) (report 2 2) := by decide +kernel
  obtain ⟨hleft, -, hcheck⟩ := no_false_desync hrun
  exact ⟨hrun, by decide +kernel, hleft, hlast, hcheck _ hlast⟩

/-- The fake player is kicked, and a client gets its id; two turns are
played, and the client reports the first. -/
def roleLeftBehind : List Event :=
  [connect 1 PlayerLink.drained, join 1 (txt "ann"), cmd .toggleFakePlayer,
    say 1 1 (txt "!kick FakePlayer"), connect 2 PlayerLink.drained, join 2 (txt "bob")]
    ++ countdown
    ++ [loaded 1, loaded 2, .tick 0, .tick 0, report 1 1, report 1 2, report 2 1]

/-- Both players report the truth, and both are dropped. -/
theorem stale_role_desyncs_truthful_players :
    Meets (Truthful id) lobby roleLeftBehind
      ∧ (lobby.run roleLeftBehind).panicked = false
      ∧ (lobby.run roleLeftBehind).reaped.map Prod.snd = [.kicked, .desync, .desync] := by
  decide +kernel

end Runs

end Spectre

/-
What the relay's delay keeps from a viewer, and what it does not.

A block waits in the queue until it is due, and the history a viewer
joins with holds released blocks only, so nothing a viewer is sent shows
a block before its time. Chat has no such queue: a line is broadcast in
the moment it arrives.

# Two runs

Two runs that agree on what happened up to some instant differ later in
blocks that are still held back. `redact` takes these out of a run. One
trace of them remains: a block that is handed over makes the relay look
at its queue, and if an older block is due by then, that one is released
now and not with the next tick. `redact` leaves this look in place.
-/
import Spectre.JoinBurst
import Spectre.Scenario

namespace Spectre

namespace Relay

-- ================================================================== one run

/-- Every chat line a game hands over was written the delay before, or
finds nobody registered. -/
def Hushed (r : Relay) : List (Nat × RelayEvent) → Prop
  | [] => True
  | e :: rest =>
      (∀ now sent sender text, e = (now, .cmd sent (.viewerChat sender text)) →
        sent + r.cfg.delay ≤ now ∨ r.viewers = []) ∧ Hushed (r.step e) rest

/-- A game is over at an instant. -/
def OverAt (es : List (Nat × RelayEvent)) (now : Nat) : Prop :=
  ∃ sent, (now, .cmd sent .gameOver) ∈ es

/-- A message may be sent at an instant. -/
def MaySend (d : Nat) (Over : Nat → Prop) (now : Nat) (m : DtvMsg) : Prop :=
  ∀ t, m.happened = some t → t + d ≤ now ∨ Over now

variable {d last now : Nat} {Over : Nat → Prop} {r s : Relay}

/-- Nothing was offered before its time, and nothing that waits or is
kept for joining viewers can be. -/
structure Withheld (d last : Nat) (Over : Nat → Prop) (r : Relay) : Prop where
  delay : r.cfg.delay = d
  queued : ∀ x ∈ r.delayedBlocks, x.2.born + d ≤ x.1
  history : ∀ b ∈ r.history, b.born + d ≤ last
  offers : ∀ v ∈ r.everyone, ∀ o ∈ v.link.offers, MaySend d Over o.time o.msg

/-- What could be sent can be sent later. -/
theorem Withheld.later (h : Withheld d last Over r) (hle : last ≤ now) : Withheld d now Over r :=
  ⟨h.delay, h.queued, fun b hb => (h.history b hb).trans hle, h.offers⟩

/-- A broadcast of something that may be sent. -/
theorem offers_broadcast
    (hoffers : ∀ v ∈ r.everyone, ∀ o ∈ v.link.offers, MaySend d Over o.time o.msg)
    {m : DtvMsg} (hm : MaySend d Over now m) :
    ∀ v ∈ (r.broadcast now m).everyone, ∀ o ∈ v.link.offers, MaySend d Over o.time o.msg := by
  have hheard : ∀ v ∈ r.viewers, ∀ o ∈ (v.hear now m).link.offers, MaySend d Over o.time o.msg := by
    intro v hv o ho
    rcases List.mem_append.1 ho with ho | ho
    · exact hoffers v (List.mem_append_left _ hv) o ho
    · rw [List.mem_singleton.1 ho]
      exact hm
  have hall := deliverAll_mem now m r.viewers r.dropCounts
  intro w hw
  rcases List.mem_append.1 hw with hw | hw
  · obtain ⟨v, hv, rfl⟩ := hall w (List.mem_append_left _ hw)
    exact hheard v hv
  · rcases List.mem_append.1 hw with hw | hw
    · exact hoffers w (List.mem_append_right _ hw)
    · obtain ⟨v, hv, rfl⟩ := hall w (List.mem_append_right _ hw)
      exact hheard v hv

/-- A block tells of its own instant. -/
theorem happened_msg (b : GameBlock) : b.msg.happened = some b.born := by
  unfold GameBlock.msg
  split
  · rfl
  · rfl

/-- A message that may be sent. -/
theorem Withheld.broadcast (h : Withheld d last Over r) {m : DtvMsg} (hm : MaySend d Over now m) :
    Withheld d last Over (r.broadcast now m) :=
  ⟨h.delay, h.queued, h.history, offers_broadcast h.offers hm⟩

/-- A line of chat that may be sent, or that nobody is there to get. -/
theorem Withheld.broadcastChat (h : Withheld d last Over r) {sender text : Text}
    {written : Option Nat} (hm : r.viewers = [] ∨ MaySend d Over now (.chat sender text written)) :
    Withheld d last Over (r.broadcastChat now (.chat sender text written)) := by
  unfold Relay.broadcastChat
  split
  · rcases hm with hnone | hm
    · refine ⟨h.delay, h.queued, h.history, ?_⟩
      intro w hw
      unfold Relay.broadcast Relay.everyone at hw
      rw [hnone] at hw
      refine h.offers w (List.mem_append_right _ ?_)
      simpa [deliverAll] using hw
    · exact h.broadcast hm
  · exact h

/-- The blocks that are due are released, and no others. -/
theorem Withheld.releaseFrom (queue : List (Nat × GameBlock)) (h : Withheld d now Over r)
    (hqueue : r.delayedBlocks = queue) : Withheld d now Over (Relay.releaseFrom now queue r) := by
  induction queue generalizing r with
  | nil => exact h
  | cons x rest ih =>
      obtain ⟨releaseAt, b⟩ := x
      have hborn : b.born + d ≤ releaseAt :=
        h.queued (releaseAt, b) (hqueue ▸ List.mem_cons_self)
      unfold Relay.releaseFrom
      split
      · rename_i hdue
        refine ih ?_ rfl
        have hm : MaySend d Over now b.msg := by
          intro t ht
          rw [happened_msg] at ht
          cases ht
          exact .inl (by omega)
        refine ⟨h.delay, ?_, ?_, offers_broadcast h.offers hm⟩
        · intro x hx
          exact h.queued x (hqueue ▸ List.mem_cons_of_mem _ hx)
        · intro c hc
          rcases List.mem_append.1 hc with hc | hc
          · exact h.history c hc
          · rw [List.mem_singleton.1 hc]
            omega
      · exact h

/-- The end of a game that is over. -/
theorem Withheld.gameOver (h : Withheld d now Over r) (hover : Over now) :
    Withheld d now Over (r.gameOver now) := by
  have hflush : ∀ (queue : List (Nat × GameBlock)) (s : Relay),
      (∀ v ∈ s.everyone, ∀ o ∈ v.link.offers, MaySend d Over o.time o.msg) →
      s.cfg.delay = d → s.delayedBlocks = [] →
      let t := queue.foldl (fun r x => r.flushBlock now x.2) s
      (∀ v ∈ t.everyone, ∀ o ∈ v.link.offers, MaySend d Over o.time o.msg)
        ∧ t.cfg.delay = d ∧ t.delayedBlocks = [] := by
    intro queue
    induction queue with
    | nil => exact fun s hoffers hdelay hnone => ⟨hoffers, hdelay, hnone⟩
    | cons x rest ih =>
        intro s hoffers hdelay hnone
        exact ih (s.flushBlock now x.2) (offers_broadcast hoffers fun _ _ =>
          .inr hover) hdelay hnone
  obtain ⟨hoffers, hdelay, hnone⟩ :=
    hflush r.delayedBlocks { r with delayedBlocks := [] } h.offers h.delay rfl
  refine ⟨hdelay, ?_, fun b hb => (by cases hb), hoffers⟩
  intro x hx
  rw [show (r.gameOver now).delayedBlocks = [] from hnone] at hx
  cases hx

/-- What a viewer is sent that joins happened long enough ago. -/
theorem Withheld.joiner (h : Withheld d now Over r) (connId : Nat) (schedule : Schedule) :
    ∀ o ∈ (r.joiner now connId schedule).link.offers, MaySend d Over o.time o.msg := by
  have hburst : ∀ m ∈ r.joinBurst, MaySend d Over now m := by
    intro m hm t ht
    unfold joinBurst at hm
    simp only [List.mem_cons, List.mem_append, List.mem_map, List.not_mem_nil, or_false] at hm
    rcases hm with rfl | ((⟨s, -, rfl⟩ | ⟨p, -, rfl⟩) | ⟨b, hb, rfl⟩) | rfl
    · cases ht
    · cases ht
    · cases ht
    · cases ht
      exact .inl (h.history b hb)
    · cases ht
  have hfold : ∀ (ms : List DtvMsg) (l : ViewerLink), (∀ m ∈ ms, MaySend d Over now m) →
      (∀ o ∈ l.offers, MaySend d Over o.time o.msg) →
      ∀ o ∈ (ms.foldl (fun l m => l.offer now m) l).offers, MaySend d Over o.time o.msg := by
    intro ms
    induction ms with
    | nil => exact fun l _ hl => hl
    | cons m ms ih =>
        intro l hms hl
        refine ih (l.offer now m) (fun x hx => hms x (List.mem_cons_of_mem m hx)) ?_
        unfold ViewerLink.offer
        split
        · intro o ho
          rcases List.mem_append.1 ho with ho | ho
          · exact hl o ho
          · rw [List.mem_singleton.1 ho]
            exact hms m List.mem_cons_self
        · exact hl
  exact hfold r.joinBurst ⟨schedule, []⟩ hburst fun o ho => by cases ho

/-- A viewer leaves. -/
theorem Withheld.removeViewer (h : Withheld d last Over r) (connId : Nat) :
    Withheld d last Over (r.removeViewer connId) := by
  refine ⟨h.delay, h.queued, h.history, fun v hv => h.offers v ?_⟩
  unfold everyone
  rcases List.mem_append.1 hv with hv | hv
  · exact List.mem_append_left _ (List.mem_filter.1 hv).1
  · rcases List.mem_append.1 hv with hv | hv
    · exact List.mem_append_right _ hv
    · exact List.mem_append_left _ (List.mem_filter.1 hv).1

/-- One turn of the loop. -/
theorem Withheld.step (h : Withheld d now Over r) {e : RelayEvent}
    (hsent : ∀ sent c, e = .cmd sent c → sent ≤ now)
    (hover : ∀ sent, e = .cmd sent .gameOver → Over now)
    (hhushed : ∀ sent sender text, e = .cmd sent (.viewerChat sender text) →
      sent + r.cfg.delay ≤ now ∨ r.viewers = []) :
    Withheld d now Over (r.step (now, e)) := by
  cases e with
  | tick => exact h.releaseFrom r.delayedBlocks rfl
  | cmd sent c =>
      cases c with
      | gameBlock bytes =>
          refine Withheld.releaseFrom _ ⟨h.delay, ?_, h.history, h.offers⟩ rfl
          intro x hx
          -- the new block is due a full delay after it was sent
          rcases List.mem_append.1 hx with hx | hx
          · exact h.queued x hx
          · rw [List.mem_singleton.1 hx, h.delay]
            exact Nat.add_le_add_right (hsent sent _ rfl) d
      | gameStart snap => exact ⟨h.delay, h.queued, h.history, h.offers⟩
      | playerInfo p => exact ⟨h.delay, h.queued, h.history, h.offers⟩
      | viewerJoined connId schedule =>
          show Withheld d now Over (r.viewerJoined now connId schedule)
          obtain heq | heq := r.viewerJoined_cases now connId schedule
          · rw [heq]
            exact h
          · rw [heq]
            refine ⟨h.delay, h.queued, h.history, fun v hv => ?_⟩
            rcases List.mem_append.1 hv with hv | hv
            · rcases List.mem_append.1 hv with hv | hv
              · exact h.offers v (List.mem_append_left _ hv)
              · -- what the joiner is sent at once comes from the history, and that has been
                -- released
                rw [List.mem_singleton.1 hv]
                exact h.joiner connId schedule
            · exact h.offers v (List.mem_append_right _ hv)
      | viewerLeft connId => exact h.removeViewer connId
      | closed connId => exact h.removeViewer connId
      | frame connId f =>
          show Withheld d now Over (r.handleFrame now connId f)
          unfold Relay.handleFrame
          split
          · split
            · exact h.broadcastChat (.inr fun t ht => by cases ht)
            · exact h
          · exact h
      | viewerChat sender text =>
          refine h.broadcastChat ?_
          -- a chat line is not delayed, so it must be old enough or heard by nobody
          rcases hhushed sent sender text rfl with hold | hnone
          · refine .inr fun t ht => ?_
            cases ht
            rw [h.delay] at hold
            exact .inl hold
          · exact .inl hnone
      | gameOver => exact h.gameOver (hover sent rfl)
      | debugGetReleasedCount => exact h.releaseFrom r.delayedBlocks rfl

/-- A run. -/
theorem Withheld.run {es : List (Nat × RelayEvent)} (h : Withheld d last Over r)
    (hlast : ∀ e ∈ es, last ≤ e.1) (htimed : Timed es) (hhushed : r.Hushed es)
    (hover : ∀ now, OverAt es now → Over now) :
    ∃ last', Withheld d last' Over (r.run es) := by
  induction es generalizing last r with
  | nil => exact ⟨last, h⟩
  | cons e rest ih =>
      obtain ⟨now, e⟩ := e
      obtain ⟨hhead, hrest⟩ := hhushed
      have hnow := h.later (hlast (now, e) List.mem_cons_self)
      refine ih (hnow.step ?_ ?_ ?_) (List.pairwise_cons.1 htimed.order).1 htimed.tail hrest ?_
      · exact fun sent c he => htimed.sent (now, e) List.mem_cons_self sent (he ▸ rfl)
      · exact fun sent he => hover now ⟨sent, he ▸ List.mem_cons_self⟩
      · exact fun sent sender text he => hhead now sent sender text (he ▸ rfl)
      · exact fun now' ⟨sent, hmem⟩ => hover now' ⟨sent, List.mem_cons_of_mem _ hmem⟩

-- ================================================================== two runs

/-- A block is due. -/
def due (r : Relay) (now : Nat) : Bool :=
  match r.delayedBlocks with
  | [] => false
  | x :: _ => decide (x.1 ≤ now)

/-- What is left of an event when nothing is to be known of what a game
does from `T - delay` on: of a block handed over, that the relay looks
at its queue when one is due. -/
def redactEvent (T : Nat) (r : Relay) (now : Nat) : RelayEvent → List (Nat × RelayEvent)
  | .cmd sent (.gameBlock bytes) =>
      if sent + r.cfg.delay ≤ T then [(now, .cmd sent (.gameBlock bytes))]
      else if r.due now then [(now, .tick)] else []
  | .cmd sent (.viewerChat sender text) =>
      if sent + r.cfg.delay ≤ T then [(now, .cmd sent (.viewerChat sender text))] else []
  | e => [(now, e)]

/-- What is left of a run. -/
def redact (T : Nat) : Relay → List (Nat × RelayEvent) → List (Nat × RelayEvent)
  | _, [] => []
  | r, (now, e) :: rest => r.redactEvent T now e ++ redact T (r.step (now, e)) rest

/-- The relay with more blocks at the end of its queue. -/
def withLate (s : Relay) (late : List (Nat × GameBlock)) : Relay :=
  { s with delayedBlocks := s.delayedBlocks ++ late }

/-- With no block more it is the relay itself. -/
theorem withLate_nil (s : Relay) : s.withLate [] = s := by
  unfold withLate
  rw [List.append_nil]

/-- Events in two parts. -/
theorem run_append (es more : List (Nat × RelayEvent)) (r : Relay) :
    r.run (es ++ more) = (r.run es).run more := by
  induction es generalizing r with
  | nil => rfl
  | cons e rest ih => exact ih (r.step e)

variable {T : Nat} {late : List (Nat × GameBlock)}

/-- Blocks that are not due are not in the way of those that are. -/
theorem releaseFrom_withLate (hnow : now ≤ T) (hlate : ∀ x ∈ late, T < x.1)
    (queue : List (Nat × GameBlock)) (s : Relay) :
    releaseFrom now (queue ++ late) { s with delayedBlocks := queue ++ late }
      = (releaseFrom now queue { s with delayedBlocks := queue }).withLate late := by
  induction queue generalizing s with
  | nil =>
      cases late with
      | nil => rfl
      | cons x rest =>
          obtain ⟨releaseAt, b⟩ := x
          have hx : T < releaseAt := hlate (releaseAt, b) List.mem_cons_self
          exact if_neg (by omega)
  | cons x rest ih =>
      obtain ⟨releaseAt, b⟩ := x
      rw [List.cons_append]
      unfold releaseFrom
      by_cases hdue : releaseAt ≤ now
      · rw [if_pos hdue, if_pos hdue]
        exact ih (s.releaseBlock now b)
      · rw [if_neg hdue, if_neg hdue]
        rfl

/-- Blocks that are not due stay where they are. -/
theorem releaseDueBlocks_withLate (hnow : now ≤ T) (hlate : ∀ x ∈ late, T < x.1) (s : Relay) :
    (s.withLate late).releaseDueBlocks now = (s.releaseDueBlocks now).withLate late :=
  releaseFrom_withLate hnow hlate s.delayedBlocks s

/-- Nothing is released when nothing is due. -/
theorem releaseDueBlocks_of_not_due (h : r.due now = false) : r.releaseDueBlocks now = r := by
  unfold releaseDueBlocks
  unfold due at h
  cases hqueue : r.delayedBlocks with
  | nil => rfl
  | cons x rest =>
      rw [hqueue] at h
      exact if_neg (of_decide_eq_false h)

/-- They make nothing due. -/
theorem due_withLate (hnow : now ≤ T) (hlate : ∀ x ∈ late, T < x.1) (s : Relay) :
    (s.withLate late).due now = s.due now := by
  unfold due withLate
  cases hqueue : s.delayedBlocks with
  | nil =>
      cases late with
      | nil => rfl
      | cons x rest =>
          have hx := hlate x List.mem_cons_self
          exact decide_eq_false (by omega)
  | cons x rest => rfl

/-- A line of chat does not see them. -/
theorem broadcastChat_withLate (s : Relay) (m : DtvMsg) :
    (s.withLate late).broadcastChat now m = (s.broadcastChat now m).withLate late := by
  unfold Relay.broadcastChat
  split
  · rfl
  · rfl

/-- A chat line nobody hears. -/
theorem broadcastChat_nobody (h : r.viewers = []) (m : DtvMsg) : r.broadcastChat now m = r := by
  unfold Relay.broadcastChat Relay.broadcast
  rw [h]
  split
  · show { r with viewers := [], gone := r.gone ++ [] } = r
    rw [List.append_nil, ← h]
  · rfl

/-- Nor does a viewer that joins. -/
theorem addViewer_withLate (s : Relay) (v : Viewer) :
    (s.withLate late).addViewer v = (s.addViewer v).map fun t => t.withLate late := by
  show (if s.cfg.maxViewers ≤ s.viewers.length then _ else _) = _
  unfold addViewer
  split
  · rfl
  · show (if s.cfg.historyMaxMb * (1024 * 1024) < s.historyBytes then _ else _) = _
    split
    · rfl
    · rfl

/-- Nor does its answer. -/
theorem viewerJoined_withLate (s : Relay) (connId : Nat) (schedule : Schedule) :
    (s.withLate late).viewerJoined now connId schedule
      = (s.viewerJoined now connId schedule).withLate late := by
  unfold Relay.viewerJoined
  rw [show (s.withLate late).joiner now connId schedule = s.joiner now connId schedule from rfl,
    addViewer_withLate]
  cases s.addViewer (s.joiner now connId schedule) with
  | ok t => rfl
  | error e => rfl

/-- The configuration stays. -/
theorem releaseFrom_cfg (now : Nat) (queue : List (Nat × GameBlock)) (r : Relay) :
    (releaseFrom now queue r).cfg = r.cfg := by
  induction queue generalizing r with
  | nil => rfl
  | cons x rest ih =>
      unfold releaseFrom
      split
      · exact ih _
      · rfl

/-- It stays through every event. -/
theorem step_cfg (r : Relay) (e : Nat × RelayEvent) : (r.step e).cfg = r.cfg := by
  obtain ⟨now, e⟩ := e
  have hchat (m : DtvMsg) : (r.broadcastChat now m).cfg = r.cfg := by
    unfold Relay.broadcastChat
    split
    · rfl
    · rfl
  cases e with
  | tick => exact releaseFrom_cfg now _ r
  | cmd sent c =>
      cases c with
      | gameBlock bytes => exact releaseFrom_cfg now _ _
      | viewerJoined connId schedule =>
          show (r.viewerJoined now connId schedule).cfg = r.cfg
          obtain heq | heq := r.viewerJoined_cases now connId schedule
          · rw [heq]
          · rw [heq]
      | frame connId f =>
          show (r.handleFrame now connId f).cfg = r.cfg
          unfold Relay.handleFrame
          split
          · split
            · exact hchat _
            · rfl
          · rfl
      | viewerChat sender text => exact hchat _
      | gameOver =>
          have hflush : ∀ (queue : List (Nat × GameBlock)) (s : Relay),
              (queue.foldl (fun r x => r.flushBlock now x.2) s).cfg = s.cfg := by
            intro queue
            induction queue with
            | nil => exact fun s => rfl
            | cons x rest ih => exact fun s => ih (s.flushBlock now x.2)
          exact hflush r.delayedBlocks { r with delayedBlocks := [] }
      | debugGetReleasedCount => exact releaseFrom_cfg now _ r
      | _ => rfl

/-- One relay is the other with more blocks at the end of its queue that
are not due until after `T`, if the game has got as far as to hand such
blocks over. -/
def Shadows (d T last : Nat) (r s : Relay) : Prop :=
  s.cfg.delay = d ∧ ∃ late, (∀ x ∈ late, T < x.1) ∧ (late = [] ∨ T < last + d) ∧ r = s.withLate late

/-- One turn of the loop, and what is left of it. -/
theorem Shadows.step (h : Shadows d T last r s) {e : RelayEvent} (hnow : now ≤ T)
    (hsent : ∀ sent c, e = .cmd sent c → last ≤ sent ∧ sent ≤ now)
    (hover : ∀ sent, e = .cmd sent .gameOver → sent + d ≤ T)
    (hhushed : ∀ sent sender text, e = .cmd sent (.viewerChat sender text) →
      sent + r.cfg.delay ≤ now ∨ r.viewers = []) :
    (∀ sent c, e = .cmd sent c → Shadows d T sent (r.step (now, e)) (s.run (r.redactEvent T now e)))
      ∧ (e = .tick → Shadows d T last (r.step (now, e)) (s.run (r.redactEvent T now e))) := by
  obtain ⟨hd, late, hlate, hfar, rfl⟩ := h
  have hcfg : (s.withLate late).cfg.delay = d := hd
  -- an event both runs have, that does not read the end of the queue
  have hsame {e : RelayEvent} {m : Nat} (hle : last ≤ m)
      (heq : (s.withLate late).step (now, e) = (s.step (now, e)).withLate late) :
      Shadows d T m ((s.withLate late).step (now, e)) (s.run [(now, e)]) :=
    ⟨(congrArg RelayConfig.delay (step_cfg s (now, e))).trans hd, late, hlate,
      hfar.imp_right fun h => by omega, heq⟩
  -- an event from before the game got so far
  have hearly {sent : Nat} (hle : last ≤ sent) (hold : sent + d ≤ T) :
      late = [] := by
    rcases hfar with hnil | hlast
    · exact hnil
    · omega
  refine ⟨fun sent c he => ?_, fun he => ?_⟩
  · subst he
    obtain ⟨hle, hsent⟩ := hsent sent c rfl
    cases c with
    | gameBlock bytes =>
        unfold redactEvent
        dsimp only
        rw [hcfg]
        by_cases hold : sent + d ≤ T
        · rw [if_pos hold]
          refine hsame hle ?_
          rw [hearly hle hold, withLate_nil, withLate_nil]
        · rw [if_neg hold]
          -- the new block is not due either
          have hlate' : ∀ x ∈ late ++ [(now + d, ⟨bytes, sent⟩)], T < x.1 := by
            intro x hx
            rcases List.mem_append.1 hx with hx | hx
            · exact hlate x hx
            · rw [List.mem_singleton.1 hx]
              show T < now + d
              omega
          have hstep : (s.withLate late).step (now, .cmd sent (.gameBlock bytes))
              = (s.releaseDueBlocks now).withLate (late ++ [(now + d, ⟨bytes, sent⟩)]) := by
            rw [← releaseDueBlocks_withLate hnow hlate' s]
            show releaseDueBlocks { s with delayedBlocks := s.delayedBlocks ++ late
              ++ [(now + s.cfg.delay, ⟨bytes, sent⟩)] } now = _
            rw [List.append_assoc, hd]
            rfl
          refine ⟨?_, _, hlate', .inr (by omega), hstep.trans ?_⟩
          · split
            · exact (congrArg RelayConfig.delay (step_cfg s (now, .tick))).trans hd
            · exact hd
          · rw [due_withLate hnow hlate s]
            split
            · rfl
            · rename_i hdue
              rw [releaseDueBlocks_of_not_due (Bool.eq_false_iff.2 hdue)]
              rfl
    | gameStart snap => exact hsame hle rfl
    | playerInfo p => exact hsame hle rfl
    | viewerJoined connId schedule => exact hsame hle (viewerJoined_withLate s connId schedule)
    | viewerLeft connId => exact hsame hle rfl
    | closed connId => exact hsame hle rfl
    | frame connId f =>
        refine hsame hle ?_
        show (s.withLate late).handleFrame now connId f = (s.handleFrame now connId f).withLate late
        unfold Relay.handleFrame
        split
        · split
          · exact broadcastChat_withLate s _
          · rfl
        · rfl
    | viewerChat sender text =>
        unfold redactEvent
        dsimp only
        rw [hcfg]
        split
        · exact hsame hle (broadcastChat_withLate s _)
        · rename_i hold
          rcases hhushed sent sender text rfl with hwaited | hnone
          · rw [hcfg] at hwaited
            omega
          · refine ⟨hd, late, hlate, .inr (by omega), broadcastChat_nobody hnone _⟩
    | gameOver =>
        refine hsame hle ?_
        rw [hearly hle (hover sent rfl), withLate_nil, withLate_nil]
    | debugGetReleasedCount => exact hsame hle (releaseDueBlocks_withLate hnow hlate s)
  · subst he
    exact hsame (Nat.le_refl last) (releaseDueBlocks_withLate hnow hlate s)

/-- A run, and what is left of it. -/
theorem Shadows.run {es : List (Nat × RelayEvent)} (h : Shadows d T last r s)
    (hlast : ∀ now sent c, (now, .cmd sent c) ∈ es → last ≤ sent) (htimed : Timed es)
    (hwithin : ∀ e ∈ es, e.1 ≤ T)
    (hover : ∀ now sent, (now, .cmd sent .gameOver) ∈ es → sent + d ≤ T) (hhushed : r.Hushed es) :
    ∃ last', Shadows d T last' (r.run es) (s.run (redact T r es)) := by
  induction es generalizing last r s with
  | nil => exact ⟨last, h⟩
  | cons e rest ih =>
      obtain ⟨now, e⟩ := e
      obtain ⟨hhead, hrest⟩ := hhushed
      have hstep := h.step (e := e) (hwithin _ List.mem_cons_self)
        (fun sent c he => ⟨hlast now sent c (he ▸ List.mem_cons_self),
          htimed.sent (now, e) List.mem_cons_self sent (he ▸ rfl)⟩)
        (fun sent he => hover now sent (he ▸ List.mem_cons_self))
        (fun sent sender text he => hhead now sent sender text (he ▸ rfl))
      have hwithin' : ∀ e ∈ rest, e.1 ≤ T := fun e he => hwithin e (List.mem_cons_of_mem _ he)
      have hover' : ∀ now sent, (now, .cmd sent .gameOver) ∈ rest → sent + d ≤ T :=
        fun now sent hmem => hover now sent (List.mem_cons_of_mem _ hmem)
      unfold redact
      rw [run_append]
      cases e with
      | tick =>
          exact ih (hstep.2 rfl)
            (fun now sent c hmem => hlast now sent c (List.mem_cons_of_mem _ hmem)) htimed.tail
            hwithin' hover' hrest
      | cmd sent c =>
          exact ih (hstep.1 sent c rfl) (fun now' sent' c' hmem => htimed.queued_le rfl hmem)
            htimed.tail hwithin' hover' hrest

end Relay

-- ============================================================= what is withheld

/-- For every run of games feeding a relay, every viewer and every
schedule of its link, as long as no chat line reaches a viewer within the
delay: what happened in a game at `t` is sent at `t + delay` or later, or
in the moment a game is over. Two runs up to `T` that agree on what the
games handed over by `T - delay`, and on everything that is no block,
offer every viewer the same. -/
theorem blocks_are_withheld (cfg : RelayConfig) (T : Nat) {es₁ es₂ : List (Nat × RelayEvent)}
    (htimed₁ : Timed es₁) (htimed₂ : Timed es₂)
    (hhushed₁ : (Relay.new cfg).Hushed es₁) (hhushed₂ : (Relay.new cfg).Hushed es₂) :
    (∀ v ∈ ((Relay.new cfg).run es₁).everyone, ∀ x ∈ v.link.sent, ∀ t, x.2.happened = some t →
        t + cfg.delay ≤ x.1 ∨ Relay.OverAt es₁ x.1)
      ∧ ((∀ e ∈ es₁, e.1 ≤ T) → (∀ e ∈ es₂, e.1 ≤ T) →
        (∀ now sent, (now, .cmd sent .gameOver) ∈ es₁ ++ es₂ → sent + cfg.delay ≤ T) →
        (Relay.new cfg).redact T es₁ = (Relay.new cfg).redact T es₂ →
        ((Relay.new cfg).run es₁).everyone = ((Relay.new cfg).run es₂).everyone) := by
  refine ⟨?_, fun hwithin₁ hwithin₂ hover hsame => ?_⟩
  · have hstart : Relay.Withheld cfg.delay 0 (Relay.OverAt es₁) (Relay.new cfg) :=
      ⟨rfl, fun x hx => (by cases hx), fun b hb => (by cases hb), fun v hv => (by cases hv)⟩
    obtain ⟨last, hend⟩ := hstart.run (fun _ _ => Nat.zero_le _) htimed₁ hhushed₁ fun _ h => h
    intro v hv x hx t ht
    obtain ⟨o, ho, hsent⟩ := List.mem_filterMap.1 hx
    unfold Offer.sent? at hsent
    split at hsent
    · cases hsent
      exact hend.offers v hv o ho t ht
    · cases hsent
  · have hstart : Relay.Shadows cfg.delay T 0 (Relay.new cfg) (Relay.new cfg) :=
      ⟨rfl, [], fun x hx => (by cases hx), .inl rfl, rfl⟩
    obtain ⟨last₁, -, late₁, -, -, hend₁⟩ := hstart.run (fun _ _ _ _ => Nat.zero_le _) htimed₁
      hwithin₁ (fun now sent h => hover now sent (List.mem_append_left es₂ h)) hhushed₁
    obtain ⟨last₂, -, late₂, -, -, hend₂⟩ := hstart.run (fun _ _ _ _ => Nat.zero_le _) htimed₂
      hwithin₂ (fun now sent h => hover now sent (List.mem_append_right es₁ h)) hhushed₂
    rw [hend₁, hend₂, hsame]
    rfl

-- ==================================================================== a viewer

section Scenario

open Scenario

/-- A relay that keeps blocks back for two minutes. -/
def delayingRelay : RelayConfig := { delay := 120000, maxViewers := 4, historyMaxMb := 64 }

/-- A turn, a viewer that joins, a turn that is withheld, and a tick
when the first turn is due. -/
def withheldTurn : List (Nat × RelayEvent) :=
  [(0, .cmd 0 (.gameBlock emptyTurn)), (500, .cmd 500 (.viewerJoined 7 .drained)),
    (1000, .cmd 1000 (.gameBlock [0xF7, 0x0C, 0x08, 0x00, 0x64, 0x00, 0xAA, 0xBB])),
    (120500, .tick)]

/-- The same without the withheld turn. -/
def withoutTurn : List (Nat × RelayEvent) :=
  [(0, .cmd 0 (.gameBlock emptyTurn)), (500, .cmd 500 (.viewerJoined 7 .drained)),
    (120500, .tick)]

/-- The theorem at the runs above, where the first turn is sent. -/
theorem blocks_are_withheld_withheldTurn :
    (((Relay.new delayingRelay).run withheldTurn).everyone.map fun v => v.link.sent)
        = [[(500, .hello 1 (txt "spectre")), (500, .historyEnd 0),
          (120500, .action ⟨emptyTurn, 0⟩)]]
      ∧ (∀ v ∈ ((Relay.new delayingRelay).run withheldTurn).everyone, ∀ x ∈ v.link.sent,
        ∀ t, x.2.happened = some t → t + 120000 ≤ x.1 ∨ Relay.OverAt withheldTurn x.1)
      ∧ ((Relay.new delayingRelay).run withheldTurn).everyone
        = ((Relay.new delayingRelay).run withoutTurn).everyone := by
  have htimed₁ : Timed withheldTurn := ⟨by decide, by decide, by decide⟩
  have htimed₂ : Timed withoutTurn := ⟨by decide, by decide, by decide⟩
  have h := blocks_are_withheld delayingRelay 120500 htimed₁ htimed₂
    (by simp [withheldTurn, Relay.Hushed]) (by simp [withoutTurn, Relay.Hushed])
  refine ⟨by decide +kernel, h.1, h.2 ?_ ?_ ?_ rfl⟩
  · simp [withheldTurn]
  · simp [withoutTurn]
  · simp [withheldTurn, withoutTurn]

/-- A relayed game of two, where one player speaks to the allies. -/
def alliedChat : List Event :=
  twoPlay .drained .drained
    ++ [w3gs 1 0x28 ([1, 2, 1, 0x20, 1, 0, 0, 0] ++ txt "mid, now" ++ [0])]

/-- A viewer joins, and a chat line is handed over. -/
def earlyChat (c : RelayCmd) : List (Nat × RelayEvent) :=
  [(500, .cmd 500 (.viewerJoined 7 .drained)), (1000, .cmd 1000 c)]

/-- What a player says to the allies in a running game is handed to the
relay, and the relay sends it on in the same moment, two minutes before
it may. A run in which nothing was said differs. -/
theorem chat_is_not_withheld :
    let said := ((GameState.new { config with relay := true } 0 5).run alliedChat).relay.bind
      List.getLast?
    let r := (Relay.new delayingRelay).run (earlyChat (.viewerChat (txt "ann") (txt "mid, now")))
    ((GameState.new { config with relay := true } 0 5).run alliedChat).phase = .playing
      ∧ said = some (.chat (txt "ann") (txt "mid, now"))
      ∧ RelayMsg.cmd (.chat (txt "ann") (txt "mid, now"))
        = .viewerChat (txt "ann") (txt "mid, now")
      ∧ (r.everyone.map fun v => v.link.sent)
        = [[(500, .hello 1 (txt "spectre")), (500, .historyEnd 0),
          (1000, .chat (txt "ann") (txt "mid, now") (some 1000))]]
      ∧ ¬(1000 + delayingRelay.delay ≤ 1000
        ∨ Relay.OverAt (earlyChat (.viewerChat (txt "ann") (txt "mid, now"))) 1000)
      ∧ (((Relay.new delayingRelay).run [(500, .cmd 500 (.viewerJoined 7 .drained))]).everyone.map
          fun v => v.link.sent)
        = [[(500, .hello 1 (txt "spectre")), (500, .historyEnd 0)]] := by
  refine ⟨?_, ?_, rfl, ?_, ?_, ?_⟩
  · decide +kernel
  · decide +kernel
  · decide +kernel
  · rintro (hdelay | ⟨sent, hover⟩)
    · exact absurd hdelay (by decide)
    · simp [earlyChat] at hover
  · decide +kernel

end Scenario

end Spectre

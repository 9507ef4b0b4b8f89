/-
What one turn of the relay's loop sends, and to whom.

A turn releases some blocks (`outgoing`). Everyone who is registered
then is sent some of them, in order, and perhaps a chat line; nothing
else is ever sent to a viewer that has joined, and nothing at all to one
that was let go. Only the viewer that joins is sent the setup of a game.
-/
import Spectre.JoinBurst

namespace Spectre

-- ================================================================ one viewer

/-- The block a message brings. -/
def DtvMsg.block? : DtvMsg → Option GameBlock
  | action b | raw b => some b
  | _ => none

/-- Part of the setup of a game: its snapshot or a player. -/
def DtvMsg.isSetup : DtvMsg → Bool
  | snapshot _ | player _ => true
  | _ => false

namespace Viewer

/-- Everything a viewer was sent. -/
def mail (v : Viewer) : List DtvMsg := v.link.sent.map Prod.snd

/-- The blocks a viewer was sent. -/
def blocks (v : Viewer) : List GameBlock := v.mail.filterMap DtvMsg.block?

/-- What becomes of a viewer while blocks are released: it is sent some
of them in order, and nothing of a setup. -/
structure Hears (bs : List GameBlock) (v w : Viewer) : Prop where
  joined : w.joined = v.joined
  mail : ∃ ms, w.mail = v.mail ++ ms ∧ (ms.filterMap DtvMsg.block?).Sublist bs
    ∧ ∀ m ∈ ms, m.isSetup = false

variable {bs bs' : List GameBlock} {u v w : Viewer}

/-- Nothing is sent. -/
theorem Hears.refl (v : Viewer) : Hears [] v v :=
  ⟨rfl, [], (List.append_nil _).symm, .slnil, fun _ hm => nomatch hm⟩

/-- First these blocks, then those. -/
theorem Hears.trans (h : Hears bs u v) (h' : Hears bs' v w) : Hears (bs ++ bs') u w := by
  obtain ⟨ms, hmail, hblocks, hsetup⟩ := h.mail
  obtain ⟨ms', hmail', hblocks', hsetup'⟩ := h'.mail
  refine ⟨h'.joined.trans h.joined, ms ++ ms', ?_, ?_, fun m hm => ?_⟩
  · rw [hmail', hmail, List.append_assoc]
  · rw [List.filterMap_append]
    exact hblocks.append hblocks'
  · rcases List.mem_append.1 hm with hm | hm
    · exact hsetup m hm
    · exact hsetup' m hm

/-- One that misses the rest of the blocks. -/
theorem Hears.mono (h : Hears bs v w) (hsub : bs.Sublist bs') : Hears bs' v w := by
  obtain ⟨ms, hmail, hblocks, hsetup⟩ := h.mail
  exact ⟨h.joined, ms, hmail, hblocks.trans hsub, hsetup⟩

/-- The blocks it was sent are those it had and some of the new ones. -/
theorem Hears.blocks (h : Hears bs v w) :
    ∃ some, w.blocks = v.blocks ++ some ∧ some.Sublist bs := by
  obtain ⟨ms, hmail, hblocks, -⟩ := h.mail
  refine ⟨_, ?_, hblocks⟩
  unfold Viewer.blocks
  rw [hmail, List.filterMap_append]

/-- A send that finds room adds to the mail. -/
theorem mail_hear (v : Viewer) (now : Nat) (m : DtvMsg) :
    (v.hear now m).mail = v.mail ++ if v.link.next = .room then [m] else [] := by
  unfold mail ViewerLink.sent
  rw [hear_offers, List.filterMap_append, List.map_append]
  congr 1
  by_cases hroom : v.link.next = .room
  · have hsent : (⟨now, m, v.link.next⟩ : Offer).sent? = some (now, m) := if_pos hroom
    rw [if_pos hroom, List.filterMap_cons_some hsent]
    rfl
  · have hsent : (⟨now, m, v.link.next⟩ : Offer).sent? = none := if_neg hroom
    rw [if_neg hroom, List.filterMap_cons_none hsent]
    rfl

/-- A broadcast is heard, if it is no setup. -/
theorem hears_hear (v : Viewer) (now : Nat) {m : DtvMsg} (hsetup : m.isSetup = false)
    (hblock : m.block?.toList = bs) : v.Hears bs (v.hear now m) := by
  refine ⟨rfl, _, v.mail_hear now m, ?_, fun m' hm => ?_⟩
  · split
    · rw [← hblock, List.filterMap_cons]
      cases m.block? with
      | none => exact .slnil
      | some b => exact List.Sublist.refl _
    · exact List.nil_sublist _
  · split at hm
    · rw [List.mem_singleton.1 hm]
      exact hsetup
    · cases hm

end Viewer

/-- The message of a block is that block. -/
theorem GameBlock.msg_block? (b : GameBlock) : b.msg.block? = some b := by
  unfold msg
  split
  · rfl
  · rfl

/-- It is no part of the setup. -/
theorem GameBlock.msg_isSetup (b : GameBlock) : b.msg.isSetup = false := by
  unfold msg
  split
  · rfl
  · rfl

-- ================================================================== one turn

namespace Relay

/-- The blocks of a queue that are due. -/
def dueBlocks (now : Nat) (queue : List (Nat × GameBlock)) : List GameBlock :=
  (queue.takeWhile fun x => x.1 ≤ now).map Prod.snd

/-- A block that is due, and those behind it. -/
theorem dueBlocks_cons (now releaseAt : Nat) (b : GameBlock) (rest : List (Nat × GameBlock)) :
    dueBlocks now ((releaseAt, b) :: rest)
      = if releaseAt ≤ now then b :: dueBlocks now rest else [] := by
  unfold dueBlocks
  rw [List.takeWhile_cons]
  by_cases hdue : releaseAt ≤ now
  · rw [if_pos (decide_eq_true hdue), if_pos hdue, List.map_cons]
  · rw [if_neg (by simpa using hdue), if_neg hdue]
    rfl

/-- The blocks a turn of the loop sends to those who are registered. -/
def outgoing (r : Relay) : Nat × RelayEvent → List GameBlock
  | (now, .cmd sent (.gameBlock bytes)) =>
      dueBlocks now (r.delayedBlocks ++ [(now + r.cfg.delay, ⟨bytes, sent⟩)])
  | (now, .tick) | (now, .cmd _ .debugGetReleasedCount) => dueBlocks now r.delayedBlocks
  | (_, .cmd _ .gameOver) => r.delayedBlocks.map Prod.snd
  | _ => []

/-- What goes out is what is in the queue, with its delay. -/
theorem outgoing_congr {r s : Relay} (hqueue : r.delayedBlocks = s.delayedBlocks)
    (hdelay : r.cfg.delay = s.cfg.delay) (e : Nat × RelayEvent) : r.outgoing e = s.outgoing e := by
  unfold outgoing
  rw [hqueue, hdelay]

/-- From an empty queue only what is handed over in the turn goes out. -/
theorem outgoing_empty {r : Relay} (hqueue : r.delayedBlocks = []) {e : Nat × RelayEvent}
    (hnone : ∀ sent bytes, e.2 ≠ .cmd sent (.gameBlock bytes)) : r.outgoing e = [] := by
  obtain ⟨now, e⟩ := e
  unfold outgoing
  rw [hqueue]
  cases e with
  | tick => rfl
  | cmd sent c =>
      cases c with
      | gameBlock bytes => exact absurd rfl (hnone sent bytes)
      | _ => rfl

/-- No game started; the relay released some blocks, everyone registered
is one who was and heard them, and whoever went since heard some of
them. -/
structure Sends (bs : List GameBlock) (r s : Relay) : Prop where
  starts : s.starts = r.starts
  released : s.released = r.released ++ bs
  viewers : ∀ w ∈ s.viewers, ∃ v ∈ r.viewers, v.Hears bs w
  gone : ∀ w ∈ s.gone, w ∈ r.gone ∨ ∃ v ∈ r.viewers, v.Hears bs w

namespace Sends

variable {bs bs' : List GameBlock} {r s t : Relay}

/-- Nothing was sent. -/
theorem quiet (hstarts : s.starts = r.starts) (hreleased : s.released = r.released)
    (hviewers : s.viewers = r.viewers) (hgone : s.gone = r.gone) : Sends [] r s where
  starts := hstarts
  released := hreleased.trans (List.append_nil _).symm
  viewers w hw := ⟨w, hviewers ▸ hw, .refl w⟩
  gone _ hw := .inl (hgone ▸ hw)

/-- First these are sent, then those. -/
theorem trans (h : Sends bs r s) (h' : Sends bs' s t) : Sends (bs ++ bs') r t where
  starts := h'.starts.trans h.starts
  released := by rw [h'.released, h.released, List.append_assoc]
  viewers w hw := by
    obtain ⟨v, hv, hvw⟩ := h'.viewers w hw
    obtain ⟨u, hu, huv⟩ := h.viewers v hv
    exact ⟨u, hu, huv.trans hvw⟩
  gone _ hw := by
    rcases h'.gone _ hw with hw | ⟨v, hv, hvw⟩
    · rcases h.gone _ hw with hw | ⟨u, hu, huw⟩
      · exact .inl hw
      · exact .inr ⟨u, hu, huw.mono (List.sublist_append_left bs bs')⟩
    · obtain ⟨u, hu, huv⟩ := h.viewers v hv
      exact .inr ⟨u, hu, huv.trans hvw⟩

/-- A broadcast, of a block that is released with it or of a line. -/
theorem broadcast (r : Relay) (now : Nat) {m : DtvMsg} (hsetup : m.isSetup = false)
    (hblock : m.block?.toList = bs) (hstarts : s.starts = r.starts)
    (hreleased : s.released = r.released ++ bs)
    (hviewers : s.viewers = (r.broadcast now m).viewers)
    (hgone : s.gone = (r.broadcast now m).gone) : Sends bs r s := by
  have hall := deliverAll_mem now m r.viewers r.dropCounts
  refine ⟨hstarts, hreleased, fun w hw => ?_, fun w hw => ?_⟩
  · rw [hviewers] at hw
    obtain ⟨v, hv, rfl⟩ := hall w (List.mem_append_left _ hw)
    exact ⟨v, hv, v.hears_hear now hsetup hblock⟩
  · rw [hgone] at hw
    rcases List.mem_append.1 hw with hw | hw
    · exact .inl hw
    · obtain ⟨v, hv, rfl⟩ := hall w (List.mem_append_right _ hw)
      exact .inr ⟨v, hv, v.hears_hear now hsetup hblock⟩

/-- A line of chat is no block. -/
theorem broadcastChat (r : Relay) (now : Nat) (sender text : Text) (written : Option Nat) :
    Sends [] r (r.broadcastChat now (.chat sender text written)) := by
  unfold Relay.broadcastChat
  split
  · exact .broadcast r now rfl rfl rfl (List.append_nil _).symm rfl rfl
  · exact quiet rfl rfl rfl rfl

/-- A frame of a viewer is answered with none. -/
theorem handleFrame (r : Relay) (now connId : Nat) (f : Frame) :
    Sends [] r (r.handleFrame now connId f) := by
  unfold Relay.handleFrame
  split
  · split
    · exact broadcastChat r now _ _ none
    · exact quiet rfl rfl rfl rfl
  · exact quiet rfl rfl rfl rfl

/-- A viewer leaves. -/
theorem removeViewer (r : Relay) (connId : Nat) : Sends [] r (r.removeViewer connId) where
  starts := rfl
  released := (List.append_nil _).symm
  viewers w hw := ⟨w, (List.mem_filter.1 hw).1, .refl w⟩
  gone w hw := by
    rcases List.mem_append.1 hw with hw | hw
    · exact .inl hw
    · exact .inr ⟨w, (List.mem_filter.1 hw).1, .refl w⟩

/-- The blocks at the front of the queue that are due. -/
theorem releaseFrom (now : Nat) (queue : List (Nat × GameBlock)) (r : Relay) :
    Sends (dueBlocks now queue) r (Relay.releaseFrom now queue r) := by
  induction queue generalizing r with
  | nil => exact quiet rfl rfl rfl rfl
  | cons x rest ih =>
      obtain ⟨releaseAt, b⟩ := x
      unfold Relay.releaseFrom
      rw [dueBlocks_cons]
      by_cases hdue : releaseAt ≤ now
      · rw [if_pos hdue, if_pos hdue]
        have hone : Sends [b] r ({ r with delayedBlocks := rest }.releaseBlock now b) :=
          .broadcast r now b.msg_isSetup (by rw [b.msg_block?]; rfl) rfl rfl rfl rfl
        exact hone.trans (ih _)
      · rw [if_neg hdue, if_neg hdue]
        exact quiet rfl rfl rfl rfl

/-- At the end of a game all that is held back. -/
theorem gameOver (r : Relay) (now : Nat) :
    Sends (r.delayedBlocks.map Prod.snd) r (r.gameOver now) := by
  have hflush : ∀ (queue : List (Nat × GameBlock)) (u : Relay),
      Sends (queue.map Prod.snd) u (queue.foldl (fun r x => r.flushBlock now x.2) u) := by
    intro queue
    induction queue with
    | nil => exact fun u => quiet rfl rfl rfl rfl
    | cons x rest ih =>
        intro u
        have hone : Sends [x.2] u (u.flushBlock now x.2) :=
          .broadcast u now x.2.msg_isSetup (by rw [x.2.msg_block?]; rfl) rfl rfl rfl rfl
        exact hone.trans (ih _)
  have hall := hflush r.delayedBlocks { r with delayedBlocks := [] }
  exact ⟨hall.starts, hall.released, hall.viewers, hall.gone⟩

/-- A turn sends its outgoing blocks, and nobody new is there unless one
joins. -/
theorem step (r : Relay) {e : Nat × RelayEvent} (hnone : e.2.joins? = none)
    (hstart : ∀ sent snap, e.2 ≠ .cmd sent (.gameStart snap)) :
    Sends (r.outgoing e) r (r.step e) := by
  obtain ⟨now, e⟩ := e
  cases e with
  | tick => exact releaseFrom now _ r
  | cmd sent c =>
      cases c with
      | gameBlock bytes =>
          have hall := releaseFrom now
            (r.delayedBlocks ++ [(now + r.cfg.delay, ⟨bytes, sent⟩)])
            { r with delayedBlocks := r.delayedBlocks ++ [(now + r.cfg.delay, ⟨bytes, sent⟩)] }
          exact ⟨hall.starts, hall.released, hall.viewers, hall.gone⟩
      | gameStart snap => exact absurd rfl (hstart sent snap)
      | playerInfo p => exact quiet rfl rfl rfl rfl
      | viewerJoined connId schedule => cases hnone
      | viewerLeft connId => exact removeViewer r connId
      | closed connId => exact removeViewer r connId
      | frame connId f => exact handleFrame r now connId f
      | viewerChat sender text => exact broadcastChat r now sender text (some sent)
      | gameOver => exact gameOver r now
      | debugGetReleasedCount => exact releaseFrom now _ r

end Sends

/-- Whatever a turn does, it releases its outgoing blocks. -/
theorem released_step (r : Relay) (e : Nat × RelayEvent) :
    (r.step e).released = r.released ++ r.outgoing e := by
  obtain ⟨now, e⟩ := e
  cases e with
  | tick => exact (Sends.releaseFrom now _ r).released
  | cmd sent c =>
      cases c with
      | gameStart snap => exact (List.append_nil _).symm
      | viewerJoined connId schedule =>
          show (r.viewerJoined now connId schedule).released = r.released ++ []
          rw [List.append_nil]
          rcases r.viewerJoined_cases now connId schedule with he | he
          · rw [he]
          · rw [he]
      | _ =>
          exact (Sends.step r (e := (now, .cmd sent _)) rfl
            fun _ _ he => by cases he).released

/-- What is released goes into the history. -/
theorem history_releaseFrom (now : Nat) (queue : List (Nat × GameBlock)) (r : Relay) :
    (releaseFrom now queue r).history = r.history ++ dueBlocks now queue := by
  induction queue generalizing r with
  | nil => exact (List.append_nil _).symm
  | cons x rest ih =>
      obtain ⟨releaseAt, b⟩ := x
      unfold releaseFrom
      rw [dueBlocks_cons]
      -- the release stops at the first block that is not due, as `dueBlocks` does
      by_cases hdue : releaseAt ≤ now
      · rw [if_pos hdue, if_pos hdue, ih]
        show (r.history ++ [b]) ++ _ = _
        rw [List.append_assoc]
        rfl
      · rw [if_neg hdue, if_neg hdue]
        exact (List.append_nil _).symm

/-- The history of a turn is what it was with the outgoing blocks, or
nothing. -/
theorem history_step (r : Relay) (e : Nat × RelayEvent) :
    (r.step e).history = r.history ++ r.outgoing e ∨ (r.step e).history = [] := by
  obtain ⟨now, e⟩ := e
  cases e with
  | tick => exact .inl (history_releaseFrom now _ r)
  | cmd sent c =>
      cases c with
      | gameBlock bytes => exact .inl (history_releaseFrom now _ _)
      | debugGetReleasedCount => exact .inl (history_releaseFrom now _ r)
      -- the history is emptied where the game ends
      | gameOver => exact .inr rfl
      | viewerJoined connId schedule =>
          left
          show (r.viewerJoined now connId schedule).history = r.history ++ []
          rw [List.append_nil]
          -- a burst reads the history and adds nothing to it
          rcases r.viewerJoined_cases now connId schedule with he | he
          · rw [he]
          · rw [he]
      | frame connId f =>
          left
          show (r.handleFrame now connId f).history = r.history ++ []
          rw [List.append_nil]
          unfold handleFrame broadcastChat
          split
          · split
            · split
              · rfl
              · rfl
            · rfl
          · rfl
      | viewerChat sender text =>
          left
          show (r.broadcastChat now _).history = r.history ++ []
          rw [List.append_nil]
          unfold broadcastChat
          split
          · rfl
          · rfl
      | _ => exact .inl (List.append_nil _).symm

/-- What is kept for joining viewers was released, in that order. -/
theorem history_sublist_step {r : Relay} (h : r.history.Sublist r.released)
    (e : Nat × RelayEvent) : (r.step e).history.Sublist (r.step e).released := by
  rw [r.released_step e]
  rcases r.history_step e with he | he
  · rw [he]
    exact h.append (List.Sublist.refl _)
  · rw [he]
    exact List.nil_sublist _

/-- What was sent of some offers is part of what was offered. -/
theorem sent_sublist (offers : List Offer) :
    ((offers.filterMap Offer.sent?).map Prod.snd).Sublist (offers.map Offer.msg) := by
  induction offers with
  | nil => exact .slnil
  | cons o rest ih =>
      by_cases hroom : o.found = .room
      · have hone : o.sent? = some (o.time, o.msg) := if_pos hroom
        rw [List.filterMap_cons_some hone]
        exact ih.cons_cons _
      · have hone : o.sent? = none := if_neg hroom
        rw [List.filterMap_cons_none hone]
        exact ih.cons _

/-- What a viewer that joins was sent is part of the burst. -/
theorem mail_joiner (r : Relay) (now connId : Nat) (schedule : Schedule) :
    (r.joiner now connId schedule).mail.Sublist r.joinBurst := by
  have hoffered := offered_burst now r.joinBurst ⟨schedule, []⟩
  refine (sent_sublist _).trans ?_
  rw [show (r.joiner now connId schedule).link.offers.map Offer.msg = _ from hoffered]
  exact List.filter_sublist

/-- The blocks of a burst are the history. -/
theorem blocks_joinBurst (r : Relay) : r.joinBurst.filterMap DtvMsg.block? = r.history := by
  unfold joinBurst
  simp only [List.filterMap_cons, List.filterMap_append, List.filterMap_map, DtvMsg.block?,
    List.filterMap_nil, List.append_nil]
  have hsnap : r.snapshot.toList.filterMap (DtvMsg.block? ∘ DtvMsg.snapshot) = [] :=
    List.filterMap_eq_nil_iff.2 fun _ _ => rfl
  have hplayers : r.players.filterMap (DtvMsg.block? ∘ DtvMsg.player) = [] :=
    List.filterMap_eq_nil_iff.2 fun _ _ => rfl
  have hactions : r.history.filterMap (DtvMsg.block? ∘ DtvMsg.action) = r.history :=
    List.filterMap_some
  rw [hsnap, hplayers, hactions]
  rfl

/-- The setup in a burst is that of the relay. -/
theorem setup_joinBurst {r : Relay} {m : DtvMsg} (hm : m ∈ r.joinBurst)
    (hsetup : m.isSetup = true) :
    m ∈ r.snapshot.toList.map DtvMsg.snapshot ++ r.players.map DtvMsg.player := by
  unfold joinBurst at hm
  rcases List.mem_cons.1 hm with rfl | hm
  · cases hsetup
  rcases List.mem_append.1 hm with hm | hm
  · rcases List.mem_append.1 hm with hm | hm
    · exact hm
    · obtain ⟨b, -, rfl⟩ := List.mem_map.1 hm
      cases hsetup
  · rw [List.mem_singleton.1 hm] at hsetup
    cases hsetup

end Relay

end Spectre

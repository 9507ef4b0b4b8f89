/-
What a viewer of the relay is offered, and when it is let go.

A viewer that joins is offered the burst: a greeting, the setup of the
game, the blocks released so far, and their number. From then on every
block is offered to it in the moment it is released. Nothing is offered
twice and nothing is skipped; what a link has no room for is not sent
again, and a link that is closed, or full too often in a row, is let go.

`Joins` says this of one viewer, against the blocks released so far and
the drop counts. It is carried from broadcast to broadcast: `hear` is
the only step a registered viewer takes.
-/
import Spectre.Relay

namespace Spectre

-- ============================================================== one viewer

/-- The messages offered on a link. -/
def ViewerLink.offered (l : ViewerLink) : List DtvMsg := l.offers.map Offer.msg

/-- The messages sent on a link, without the chat. -/
def ViewerLink.streamSent (l : ViewerLink) : List DtvMsg :=
  (l.sent.map Prod.snd).filter DtvMsg.isStream

/-- How many offers in a row found the link full, at the end. -/
def refusedInARow (offers : List Offer) : Nat :=
  (offers.reverse.takeWhile fun o => o.found == .full).length

/-- The blocks of its game that were released when a viewer joined. -/
def Joined.blocks (j : Joined) (released : List GameBlock) : List GameBlock :=
  (released.take j.releasedUpto).drop j.gameFrom

/-- What a viewer is sent that joins: greeting, setup, the blocks so
far, and their number. -/
def Joined.burst (j : Joined) (released : List GameBlock) : List DtvMsg :=
  .hello 1 (txt "spectre") :: (j.snapshot.toList.map .snapshot ++ j.players.map .player
    ++ (j.blocks released).map .action ++ [.historyEnd ((j.blocks released).length % 2 ^ 32)])

/-- The viewer after a broadcast. -/
def Viewer.hear (v : Viewer) (now : Nat) (m : DtvMsg) : Viewer :=
  { v with link := v.link.push now m }

/-- A broadcast leaves the viewer on its connection. -/
@[simp] theorem Viewer.hear_connId (v : Viewer) (now : Nat) (m : DtvMsg) :
    (v.hear now m).connId = v.connId := rfl

@[simp] theorem Viewer.hear_joined (v : Viewer) (now : Nat) (m : DtvMsg) :
    (v.hear now m).joined = v.joined := rfl

/-- One more message has been offered. -/
@[simp] theorem Viewer.hear_offers (v : Viewer) (now : Nat) (m : DtvMsg) :
    (v.hear now m).link.offers = v.link.offers ++ [⟨now, m, v.link.next⟩] := rfl

/-- One more offer, accepted or not. -/
theorem refusedInARow_append (offers : List Offer) (o : Offer) :
    refusedInARow (offers ++ [o])
      = if o.found = .full then refusedInARow offers + 1 else 0 := by
  unfold refusedInARow
  rw [List.reverse_append, List.reverse_singleton, List.singleton_append, List.takeWhile_cons]
  by_cases hfull : o.found = .full
  · rw [if_pos (by rw [hfull]; rfl), if_pos hfull, List.length_cons]
  · rw [if_neg (by simpa using hfull), if_neg hfull, List.length_nil]

/-- A viewer was offered its burst, then each later block once, in
order; no broadcast found its link closed, and the broadcasts it missed
in a row are counted and not too many. -/
structure Joins (released : List GameBlock) (drops : Nat → Nat) (v : Viewer) : Prop where
  upto : v.joined.releasedUpto ≤ released.length
  offers : ∃ first later : List Offer, v.link.offers = first ++ later
    ∧ first.map Offer.msg = (v.joined.burst released).filter DtvMsg.encodes
    ∧ (later.map Offer.msg).filter DtvMsg.isStream
      = (released.drop v.joined.releasedUpto).map GameBlock.msg
    ∧ (∀ o ∈ later, o.found ≠ .closed)
    ∧ refusedInARow later = drops v.connId
  kept : drops v.connId ≤ maxConsecutiveDrops

variable {released more : List GameBlock} {drops drops' : Nat → Nat} {v : Viewer}

/-- The burst speaks of the blocks released before. -/
theorem Joined.burst_append {j : Joined} (h : j.releasedUpto ≤ released.length) :
    j.burst (released ++ more) = j.burst released := by
  unfold Joined.burst Joined.blocks
  rw [List.take_append_of_le_length h]

/-- Only its own count matters. -/
theorem Joins.congr (h : Joins released drops v) (hdrops : drops' v.connId = drops v.connId) :
    Joins released drops' v := by
  obtain ⟨hupto, hoffers, hkept⟩ := h
  rw [← hdrops] at hoffers hkept
  exact ⟨hupto, hoffers, hkept⟩

/-- What a broadcast makes of the count of a viewer it keeps. -/
def Keeps (v : Viewer) (drops drops' : Nat → Nat) : Prop :=
  (v.link.next = .room ∧ drops' v.connId = 0)
    ∨ v.link.next = .full ∧ drops' v.connId = drops v.connId + 1
      ∧ drops' v.connId ≤ maxConsecutiveDrops

/-- A viewer that is kept was offered what was broadcast: a block that
is released, or something that is no part of the stream. -/
theorem Joins.hear (h : Joins released drops v) (hkeeps : Keeps v drops drops') (now : Nat)
    {m : DtvMsg} (hm : [m].filter DtvMsg.isStream = more.map GameBlock.msg) :
    Joins (released ++ more) drops' (v.hear now m) := by
  obtain ⟨hupto, ⟨first, later, hoffers, hfirst, hlater, hopen, hrefused⟩, hkept⟩ := h
  have hnext : v.link.next ≠ .closed := by
    rcases hkeeps with ⟨hroom, -⟩ | ⟨hfull, -⟩
    · rw [hroom]
      exact Found.noConfusion
    · rw [hfull]
      exact Found.noConfusion
  refine ⟨?_, ⟨first, later ++ [⟨now, m, v.link.next⟩], ?_, ?_, ?_, ?_, ?_⟩, ?_⟩
  · rw [Viewer.hear_joined, List.length_append]
    exact Nat.le_add_right_of_le hupto
  · rw [Viewer.hear_offers, hoffers, List.append_assoc]
  · rw [Viewer.hear_joined, Joined.burst_append hupto]
    exact hfirst
  · rw [Viewer.hear_joined, List.map_append, List.filter_append, hlater,
      List.drop_append_of_le_length hupto, List.map_append]
    exact congrArg _ hm
  · intro o ho
    rcases List.mem_append.1 ho with ho | ho
    · exact hopen o ho
    · rw [List.mem_singleton.1 ho]
      exact hnext
  · rw [refusedInARow_append, Viewer.hear_connId]
    rcases hkeeps with ⟨hroom, hzero⟩ | ⟨hfull, hmore, -⟩
    · rw [if_neg (by rw [hroom]; exact Found.noConfusion), hzero]
    · rw [if_pos hfull, hmore, hrefused]
  · rw [Viewer.hear_connId]
    rcases hkeeps with ⟨-, hzero⟩ | ⟨-, -, hle⟩
    · rw [hzero]
      exact Nat.zero_le _
    · exact hle

-- ============================================================== a broadcast

/-- What one viewer's send does to the count of another. -/
theorem deliver_drops (v : Viewer) (now : Nat) (m : DtvMsg) (drops : Nat → Nat) {id : Nat}
    (h : id ≠ v.connId) : (v.deliver now m drops).2.1 id = drops id := by
  unfold Viewer.deliver
  cases v.link.next with
  | room => exact Function.update_of_ne h _ _
  | full =>
      dsimp only
      split
      · exact Function.update_of_ne h _ _
      · exact Function.update_of_ne h _ _
  | closed => exact Function.update_of_ne h _ _

/-- The viewer has heard the message, whatever comes of it. -/
theorem deliver_fst (v : Viewer) (now : Nat) (m : DtvMsg) (drops : Nat → Nat) :
    (v.deliver now m drops).1 = v.hear now m := by
  unfold Viewer.deliver
  cases v.link.next with
  | room => rfl
  | full =>
      dsimp only
      split
      · rfl
      · rfl
  | closed => rfl

/-- A viewer that is kept is one whose count is not too high. -/
theorem keeps_of_deliver (v : Viewer) (now : Nat) (m : DtvMsg) (drops : Nat → Nat)
    (h : (v.deliver now m drops).2.2 = true) : Keeps v drops (v.deliver now m drops).2.1 := by
  unfold Viewer.deliver at h ⊢
  unfold Keeps
  cases hnext : v.link.next with
  | room => exact .inl ⟨rfl, Function.update_self _ _ _⟩
  | full =>
      rw [hnext] at h
      dsimp only at h ⊢
      by_cases hmany : maxConsecutiveDrops < drops v.connId + 1
      · rw [if_pos hmany] at h
        cases h
      · rw [if_neg hmany]
        refine .inr ⟨rfl, Function.update_self _ _ _, ?_⟩
        dsimp only
        rw [Function.update_self]
        omega
  | closed =>
      rw [hnext] at h
      cases h

/-- The counts of viewers that are not registered stay. -/
theorem deliverAll_drops (now : Nat) (m : DtvMsg) (vs : List Viewer) (drops : Nat → Nat) {id : Nat}
    (h : id ∉ vs.map Viewer.connId) : (deliverAll now m vs drops).2.2 id = drops id := by
  induction vs generalizing drops with
  | nil => rfl
  | cons v vs ih =>
      rw [List.map_cons, List.mem_cons, not_or] at h
      have hrest := ih (v.deliver now m drops).2.1 h.2
      rw [deliver_drops v now m drops h.1] at hrest
      unfold deliverAll
      dsimp only
      split
      · exact hrest
      · exact hrest

/-- Who stays heard the message and was counted for it. -/
theorem deliverAll_kept (now : Nat) (m : DtvMsg) (vs : List Viewer) (drops : Nat → Nat)
    (hnd : (vs.map Viewer.connId).Nodup) :
    ∀ w ∈ (deliverAll now m vs drops).1, ∃ v ∈ vs, w = v.hear now m
      ∧ Keeps v drops (deliverAll now m vs drops).2.2 := by
  induction vs generalizing drops with
  | nil => exact fun w hw => by cases hw
  | cons v vs ih =>
      rw [List.map_cons, List.nodup_cons] at hnd
      have hhead := deliverAll_drops now m vs (v.deliver now m drops).2.1 hnd.1
      -- the others' counts do not depend on what became of the first
      have htail : ∀ w ∈ (deliverAll now m vs (v.deliver now m drops).2.1).1,
          ∃ u ∈ v :: vs, w = u.hear now m
            ∧ Keeps u drops (deliverAll now m vs (v.deliver now m drops).2.1).2.2 := by
        intro w hw
        obtain ⟨u, hu, heq, hkeeps⟩ := ih (v.deliver now m drops).2.1 hnd.2 w hw
        refine ⟨u, List.mem_cons_of_mem v hu, heq, ?_⟩
        have hne : u.connId ≠ v.connId := fun he =>
          hnd.1 (he ▸ List.mem_map_of_mem hu)
        unfold Keeps at hkeeps ⊢
        rw [deliver_drops v now m drops hne] at hkeeps
        exact hkeeps
      intro w hw
      unfold deliverAll at hw ⊢
      dsimp only at hw ⊢
      by_cases hkept : (v.deliver now m drops).2.2 = true
      · rw [if_pos hkept] at hw ⊢
        rcases List.mem_cons.1 hw with hw | hw
        · refine ⟨v, List.mem_cons_self, hw.trans (deliver_fst v now m drops), ?_⟩
          have hkeeps := keeps_of_deliver v now m drops hkept
          unfold Keeps at hkeeps ⊢
          dsimp only
          rw [hhead]
          exact hkeeps
        · exact htail w hw
      · rw [if_neg hkept] at hw ⊢
        exact htail w hw

/-- Whoever stays or goes heard the message. -/
theorem deliverAll_mem (now : Nat) (m : DtvMsg) (vs : List Viewer) (drops : Nat → Nat) :
    ∀ w ∈ (deliverAll now m vs drops).1 ++ (deliverAll now m vs drops).2.1,
      ∃ v ∈ vs, w = v.hear now m := by
  induction vs generalizing drops with
  | nil => exact fun w hw => by cases hw
  | cons v vs ih =>
      have hrest : ∀ w, w ∈ (deliverAll now m vs (v.deliver now m drops).2.1).1 ∨
          w ∈ (deliverAll now m vs (v.deliver now m drops).2.1).2.1 →
          ∃ u ∈ v :: vs, w = u.hear now m := by
        intro w hw
        obtain ⟨u, hu, heq⟩ := ih _ w (List.mem_append.2 hw)
        exact ⟨u, List.mem_cons_of_mem v hu, heq⟩
      have hhead : ∃ u ∈ v :: vs, (v.deliver now m drops).1 = u.hear now m :=
        ⟨v, List.mem_cons_self, deliver_fst v now m drops⟩
      intro w hw
      unfold deliverAll at hw
      dsimp only at hw
      split at hw
      · rcases List.mem_append.1 hw with hw | hw
        · rcases List.mem_cons.1 hw with rfl | hw
          · exact hhead
          · exact hrest w (.inl hw)
        · exact hrest w (.inr hw)
      · rcases List.mem_append.1 hw with hw | hw
        · exact hrest w (.inl hw)
        · rcases List.mem_cons.1 hw with rfl | hw
          · exact hhead
          · exact hrest w (.inr hw)

/-- A broadcast lets nobody in. -/
theorem deliverAll_sublist (now : Nat) (m : DtvMsg) (vs : List Viewer) (drops : Nat → Nat) :
    ((deliverAll now m vs drops).1.map Viewer.connId).Sublist (vs.map Viewer.connId) := by
  induction vs generalizing drops with
  | nil => exact .slnil
  | cons v vs ih =>
      unfold deliverAll
      dsimp only
      split
      · rw [List.map_cons, List.map_cons, deliver_fst]
        exact (ih _).cons_cons _
      · exact (ih _).cons _

-- ================================================================== the relay

/-- The history holds the blocks of the current game, and everyone
registered joined as it should, under a connection that is known. -/
structure Streams (P : Nat → Prop) (r : Relay) : Prop where
  from_le : r.gameFrom ≤ r.released.length
  history : r.history = r.released.drop r.gameFrom
  nodup : (r.viewers.map Viewer.connId).Nodup
  viewers : ∀ v ∈ r.viewers, P v.connId ∧ Joins r.released r.dropCounts v

/-- A block is a message of the stream. -/
theorem filter_isStream_msg (b : GameBlock) :
    [b.msg].filter DtvMsg.isStream = [b].map GameBlock.msg := by
  have hstream : b.msg.isStream = true := by
    unfold GameBlock.msg
    split
    · rfl
    · rfl
  exact List.filter_cons_of_pos hstream

/-- A burst is offered message by message. -/
theorem offered_burst (now : Nat) (ms : List DtvMsg) (l : ViewerLink) :
    (ms.foldl (fun l m => l.offer now m) l).offered = l.offered ++ ms.filter DtvMsg.encodes := by
  induction ms generalizing l with
  | nil => exact (List.append_nil _).symm
  | cons m ms ih =>
      rw [List.foldl_cons, ih]
      unfold ViewerLink.offer
      by_cases h : m.encodes = true
      · rw [if_pos h, List.filter_cons_of_pos h]
        unfold ViewerLink.push ViewerLink.offered
        rw [List.map_append, List.append_assoc]
        rfl
      · rw [if_neg h, List.filter_cons_of_neg h]

/-- A broadcast, of a block that is released with it or of something
else. -/
theorem hear_broadcast (more : List GameBlock) {P : Nat → Prop} {r : Relay}
    (hnd : (r.viewers.map Viewer.connId).Nodup)
    (hall : ∀ v ∈ r.viewers, P v.connId ∧ Joins r.released r.dropCounts v) (now : Nat) {m : DtvMsg}
    (hm : [m].filter DtvMsg.isStream = more.map GameBlock.msg) :
    ((r.broadcast now m).viewers.map Viewer.connId).Nodup
      ∧ ∀ w ∈ (r.broadcast now m).viewers,
          P w.connId ∧ Joins (r.released ++ more) (r.broadcast now m).dropCounts w := by
  refine ⟨hnd.sublist (deliverAll_sublist now m r.viewers r.dropCounts), fun w hw => ?_⟩
  obtain ⟨v, hv, rfl, hkeeps⟩ := deliverAll_kept now m r.viewers r.dropCounts hnd w hw
  exact ⟨(hall v hv).1, (hall v hv).2.hear hkeeps now hm⟩

namespace Streams

variable {P : Nat → Prop} {r : Relay}

/-- A line of chat is beside the stream. -/
theorem broadcastChat (h : Streams P r) (now : Nat) (sender text : Text) (written : Option Nat) :
    Streams P (r.broadcastChat now (.chat sender text written)) := by
  unfold Relay.broadcastChat
  split
  · obtain ⟨hnd, hall⟩ := hear_broadcast [] h.nodup h.viewers now
      (m := .chat sender text written) rfl
    rw [List.append_nil] at hall
    exact ⟨h.from_le, h.history, hnd, hall⟩
  · exact h

/-- A block goes to all, and into the history. -/
theorem releaseBlock (h : Streams P r) (now : Nat) (b : GameBlock) :
    Streams P (r.releaseBlock now b) := by
  obtain ⟨hnd, hall⟩ := hear_broadcast [b] h.nodup h.viewers now (filter_isStream_msg b)
  refine ⟨?_, ?_, hnd, hall⟩
  · show r.gameFrom ≤ (r.released ++ [b]).length
    rw [List.length_append]
    exact Nat.le_add_right_of_le h.from_le
  · show r.history ++ [b] = (r.released ++ [b]).drop r.gameFrom
    rw [List.drop_append_of_le_length h.from_le, h.history]

/-- Blocks that are due, one after another. -/
theorem releaseFrom (now : Nat) (queue : List (Nat × GameBlock)) (h : Streams P r) :
    Streams P (Relay.releaseFrom now queue r) := by
  induction queue generalizing r with
  | nil => exact h
  | cons x rest ih =>
      obtain ⟨releaseAt, b⟩ := x
      unfold Relay.releaseFrom
      split
      · refine ih (Streams.releaseBlock ?_ now b)
        exact ⟨h.from_le, h.history, h.nodup, h.viewers⟩
      · exact h

/-- A game that is over: its last blocks are released, and no history is
kept of them. -/
theorem gameOver (h : Streams P r) (now : Nat) : Streams P (r.gameOver now) := by
  -- the history is stale while the queue is flushed
  have hflush : ∀ (queue : List (Nat × GameBlock)) (s : Relay),
      (s.viewers.map Viewer.connId).Nodup →
      (∀ v ∈ s.viewers, P v.connId ∧ Joins s.released s.dropCounts v) →
      let t := queue.foldl (fun r x => r.flushBlock now x.2) s
      (t.viewers.map Viewer.connId).Nodup
        ∧ ∀ v ∈ t.viewers, P v.connId ∧ Joins t.released t.dropCounts v := by
    intro queue
    induction queue with
    | nil => exact fun s hnd hall => ⟨hnd, hall⟩
    | cons x rest ih =>
        intro s hnd hall
        have hheard := hear_broadcast [x.2] hnd hall now (filter_isStream_msg x.2)
        exact ih (s.flushBlock now x.2) hheard.1 hheard.2
  obtain ⟨hnd, hall⟩ := hflush r.delayedBlocks { r with delayedBlocks := [] } h.nodup h.viewers
  exact ⟨Nat.le_refl _, List.drop_length.symm, hnd, hall⟩

/-- A viewer leaves. -/
theorem removeViewer (h : Streams P r) (connId : Nat) : Streams P (r.removeViewer connId) := by
  refine ⟨h.from_le, h.history, h.nodup.sublist (List.filter_sublist.map Viewer.connId), ?_⟩
  intro v hv
  obtain ⟨hmem, hne⟩ := List.mem_filter.1 hv
  obtain ⟨hP, hjoins⟩ := h.viewers v hmem
  exact ⟨hP, hjoins.congr (Function.update_of_ne (by simpa using hne) _ _)⟩

/-- A viewer that has just joined. -/
theorem joiner (h : Streams P r) (now connId : Nat) (schedule : Schedule) :
    Joins r.released (Function.update r.dropCounts connId 0) (r.joiner now connId schedule) := by
  have hburst := offered_burst now r.joinBurst ⟨schedule, []⟩
  refine ⟨Nat.le_refl _, ⟨_, [], (List.append_nil _).symm, ?_, ?_, ?_, ?_⟩, ?_⟩
  · refine hburst.trans ?_
    unfold Relay.joinBurst Joined.burst Joined.blocks Relay.joiner
    rw [List.take_length, h.history]
    rfl
  · show [] = (r.released.drop r.released.length).map GameBlock.msg
    rw [List.drop_length]
    rfl
  · exact fun o ho => by cases ho
  · show refusedInARow [] = Function.update r.dropCounts connId 0 connId
    rw [Function.update_self]
    rfl
  · show Function.update r.dropCounts connId 0 connId ≤ _
    rw [Function.update_self]
    exact Nat.zero_le _

/-- A viewer joins, under a connection that is new. -/
theorem viewerJoined (h : Streams P r) (now connId : Nat) (schedule : Schedule) (hnew : ¬P connId) :
    Streams (fun id => P id ∨ id = connId) (r.viewerJoined now connId schedule) := by
  obtain heq | heq := Relay.viewerJoined_cases r now connId schedule
  · rw [heq]
    exact ⟨h.from_le, h.history, h.nodup, fun v hv => ⟨.inl (h.viewers v hv).1, (h.viewers v hv).2⟩⟩
  · rw [heq]
    have hold : ∀ v ∈ r.viewers, v.connId ≠ connId := fun v hv he => hnew (he ▸ (h.viewers v hv).1)
    refine ⟨h.from_le, h.history, ?_, ?_⟩
    · show ((r.viewers ++ [r.joiner now connId schedule]).map Viewer.connId).Nodup
      rw [List.map_append]
      refine List.nodup_append.2 ⟨h.nodup, List.nodup_singleton _, ?_⟩
      intro a ha b hb he
      obtain ⟨v, hv, hid⟩ := List.mem_map.1 ha
      rw [he, List.mem_singleton.1 hb] at hid
      exact hold v hv hid
    · intro v hv
      rcases List.mem_append.1 hv with hv | hv
      · obtain ⟨hP, hjoins⟩ := h.viewers v hv
        exact ⟨.inl hP, hjoins.congr (Function.update_of_ne (hold v hv) _ _)⟩
      · rw [List.mem_singleton.1 hv]
        exact ⟨.inr rfl, h.joiner now connId schedule⟩

end Streams

-- ======================================================================= runs

/-- The connection a viewer joins on. -/
def RelayEvent.joins? : RelayEvent → Option Nat
  | .cmd _ (.viewerJoined connId _) => some connId
  | _ => none

/-- The connections viewers join on, in turn. -/
def joinIds (es : List (Nat × RelayEvent)) : List Nat := es.filterMap fun e => e.2.joins?

namespace Streams

variable {P : Nat → Prop} {r : Relay}

/-- One turn of the loop that no viewer joins in. -/
theorem step (h : Streams P r) {e : Nat × RelayEvent} (hnone : e.2.joins? = none) :
    Streams P (r.step e) := by
  obtain ⟨now, e⟩ := e
  cases e with
  | tick => exact h.releaseFrom now r.delayedBlocks
  | cmd sent c =>
      cases c with
      | gameBlock bytes =>
          exact Streams.releaseFrom now _ ⟨h.from_le, h.history, h.nodup, h.viewers⟩
      | gameStart snap => exact ⟨h.from_le, h.history, h.nodup, h.viewers⟩
      | playerInfo p => exact ⟨h.from_le, h.history, h.nodup, h.viewers⟩
      | viewerJoined connId schedule => cases hnone
      | viewerLeft connId => exact h.removeViewer connId
      | closed connId => exact h.removeViewer connId
      | frame connId f =>
          show Streams P (r.handleFrame now connId f)
          unfold Relay.handleFrame
          split
          · split
            · exact h.broadcastChat now _ _ none
            · exact h
          · exact h
      | viewerChat sender text => exact h.broadcastChat now sender text (some sent)
      | gameOver => exact h.gameOver now
      | debugGetReleasedCount => exact h.releaseFrom now r.delayedBlocks

/-- A run in which no connection is used twice. -/
theorem run {es : List (Nat × RelayEvent)} (h : Streams P r) (hnew : ∀ id ∈ joinIds es, ¬P id)
    (hnd : (joinIds es).Nodup) : ∃ Q, Streams Q (r.run es) := by
  induction es generalizing P r with
  | nil => exact ⟨P, h⟩
  | cons e rest ih =>
      cases hjoin : e.2.joins? with
      | none =>
          have hids : joinIds (e :: rest) = joinIds rest := List.filterMap_cons_none hjoin
          rw [hids] at hnew hnd
          exact ih (h.step hjoin) hnew hnd
      | some connId =>
          have hids : joinIds (e :: rest) = connId :: joinIds rest := List.filterMap_cons_some hjoin
          rw [hids] at hnew hnd
          obtain ⟨hfresh, hnd⟩ := List.nodup_cons.1 hnd
          have hstep : Streams (fun id => P id ∨ id = connId) (r.step e) := by
            obtain ⟨now, e⟩ := e
            cases e with
            | tick => cases hjoin
            | cmd sent c =>
                cases c with
                | viewerJoined id schedule =>
                    cases hjoin
                    exact h.viewerJoined now connId schedule (hnew connId List.mem_cons_self)
                | _ => cases hjoin
          refine ih hstep (fun id hid => ?_) hnd
          rintro (hP | rfl)
          · exact hnew id (List.mem_cons_of_mem _ hid) hP
          · exact hfresh hid

end Streams

-- ================================================================ what is sent

/-- The stream messages of a list of offers that found room. -/
def streamTaken (offers : List Offer) : List DtvMsg :=
  ((offers.filter fun o => o.found == .room).map Offer.msg).filter DtvMsg.isStream

/-- What was sent of the stream is what found room. -/
theorem streamSent_eq (l : ViewerLink) : l.streamSent = streamTaken l.offers := by
  unfold ViewerLink.streamSent ViewerLink.sent streamTaken
  congr 1
  induction l.offers with
  | nil => rfl
  | cons o rest ih =>
      by_cases h : o.found = .room
      · have hsent : o.sent? = some (o.time, o.msg) := if_pos h
        rw [List.filterMap_cons_some hsent, List.filter_cons, if_pos (by simpa using h),
          List.map_cons, List.map_cons, ih]
      · have hsent : o.sent? = none := if_neg h
        rw [List.filterMap_cons_none hsent, List.filter_cons, if_neg (by simpa using h), ih]

/-- First offers and later ones. -/
theorem streamTaken_append (first later : List Offer) :
    streamTaken (first ++ later) = streamTaken first ++ streamTaken later := by
  unfold streamTaken
  rw [List.filter_append, List.map_append, List.filter_append]

/-- Some of the stream messages are taken. -/
theorem streamTaken_sublist (offers : List Offer) :
    (streamTaken offers).Sublist ((offers.map Offer.msg).filter DtvMsg.isStream) :=
  (List.filter_sublist.map Offer.msg).filter DtvMsg.isStream

/-- All of them are, when each finds room. -/
theorem streamTaken_of_room {offers : List Offer}
    (h : ∀ o ∈ offers, o.msg.isStream = true → o.found = .room) :
    streamTaken offers = (offers.map Offer.msg).filter DtvMsg.isStream := by
  unfold streamTaken
  induction offers with
  | nil => rfl
  | cons o rest ih =>
      have hrest := ih fun x hx => h x (List.mem_cons_of_mem o hx)
      rw [List.map_cons]
      by_cases hstream : o.msg.isStream = true
      · have hroom : (o.found == .room) = true := by
          rw [h o List.mem_cons_self hstream]
          rfl
        rw [List.filter_cons, if_pos hroom, List.map_cons, List.filter_cons_of_pos hstream,
          List.filter_cons_of_pos hstream, hrest]
      · rw [List.filter_cons_of_neg hstream, ← hrest, List.filter_cons]
        split
        · rw [List.map_cons, List.filter_cons_of_neg hstream]
        · rfl

/-- Nothing of a burst is chat. -/
theorem isStream_burst (j : Joined) (released : List GameBlock) :
    ∀ m ∈ j.burst released, m.isStream = true := by
  intro m hm
  unfold Joined.burst at hm
  simp only [List.mem_cons, List.mem_append, List.mem_map, List.not_mem_nil, or_false] at hm
  rcases hm with rfl | ((⟨s, -, rfl⟩ | ⟨p, -, rfl⟩) | ⟨b, -, rfl⟩) | rfl
  · rfl
  · rfl
  · rfl
  · rfl
  · rfl

/-- For every history length, every schedule of the links and every run
in which no connection is used twice: the relay keeps the blocks released
in the current game. A registered viewer was offered its burst, then
each block released since, once and in order, besides chat; of the latter
offers none found its link closed, and no more than the limit in a row
found it full. If its link had room for the burst, it was sent the burst,
then some of those blocks in order; and all of them, if it had room for
these as well. A burst that fits its frames is the greeting, the
snapshot, every known player, the blocks released in the game so far,
and their number. -/
theorem viewer_is_sent_burst_then_blocks (cfg : RelayConfig) {es : List (Nat × RelayEvent)}
    (hids : (joinIds es).Nodup) :
    let r := (Relay.new cfg).run es
    r.history = r.released.drop r.gameFrom
      ∧ ∀ v ∈ r.viewers, ∃ first later : List Offer,
        let burst := (v.joined.burst r.released).filter DtvMsg.encodes
        let since := r.released.drop v.joined.releasedUpto
        let blocks := v.joined.blocks r.released
        v.link.offers = first ++ later
          ∧ first.map Offer.msg = burst
          ∧ (later.map Offer.msg).filter DtvMsg.isStream = since.map GameBlock.msg
          ∧ (∀ o ∈ later, o.found ≠ .closed)
          ∧ refusedInARow later ≤ maxConsecutiveDrops
          ∧ ((∀ o ∈ first, o.found = .room) →
            ∃ taken : List GameBlock, taken.Sublist since
              ∧ v.link.streamSent = burst ++ taken.map GameBlock.msg)
          ∧ ((∀ o ∈ v.link.offers, o.msg.isStream = true → o.found = .room) →
            v.link.streamSent = burst ++ since.map GameBlock.msg)
          ∧ ((∀ m ∈ v.joined.burst r.released, m.encodes = true) → blocks.length < 2 ^ 32 →
            burst = .hello 1 (txt "spectre") :: (v.joined.snapshot.toList.map .snapshot
              ++ v.joined.players.map .player ++ blocks.map .action
              ++ [.historyEnd blocks.length])) := by
  intro r
  have hstart : Streams (fun _ => False) (Relay.new cfg) :=
    ⟨Nat.le_refl _, rfl, List.nodup_nil, fun v hv => by cases hv⟩
  obtain ⟨P, h⟩ := hstart.run (fun _ _ hfalse => hfalse) hids
  refine ⟨h.history, fun v hv => ?_⟩
  obtain ⟨-, hupto, ⟨first, later, hoffers, hfirst, hlater, hopen, hrefused⟩, hkept⟩ :=
    h.viewers v hv
  -- what does not encode is skipped on the way, and chat is no part of the burst
  have hstream : ((v.joined.burst r.released).filter DtvMsg.encodes).filter DtvMsg.isStream
      = (v.joined.burst r.released).filter DtvMsg.encodes :=
    List.filter_eq_self.2 fun m hm =>
      isStream_burst v.joined r.released m (List.mem_filter.1 hm).1
  have hsent : v.link.streamSent = streamTaken first ++ streamTaken later := by
    rw [streamSent_eq, hoffers, streamTaken_append]
  have hburst (hroom : ∀ o ∈ first, o.msg.isStream = true → o.found = .room) :
      streamTaken first = (v.joined.burst r.released).filter DtvMsg.encodes := by
    rw [streamTaken_of_room hroom, hfirst, hstream]
  refine ⟨first, later, hoffers, hfirst, hlater, hopen, ?_, ?_, ?_, ?_⟩
  · rw [hrefused]
    exact hkept
  · intro hroom
    -- a full queue drops a block, so what got through is a part of it in order
    have hsub := streamTaken_sublist later
    rw [hlater] at hsub
    obtain ⟨taken, htaken, heq⟩ := List.sublist_map_iff.1 hsub
    refine ⟨taken, htaken, ?_⟩
    rw [hsent, hburst fun o ho _ => hroom o ho, heq]
  · intro hroom
    rw [hoffers] at hroom
    rw [hsent, hburst fun o ho => hroom o (List.mem_append_left later ho),
      streamTaken_of_room fun o ho => hroom o (List.mem_append_right first ho), hlater]
  · intro hfits hcount
    rw [List.filter_eq_self.2 hfits]
    unfold Joined.burst
    rw [Nat.mod_eq_of_lt hcount]

-- ==================================================================== a viewer

/-- A relay without a delay. -/
def promptRelay : RelayConfig := { delay := 0, maxViewers := 4, historyMaxMb := 64 }

/-- An empty turn. -/
def emptyTurn : List UInt8 := [0xF7, 0x0C, 0x06, 0x00, 0x64, 0x00]

/-- A link that has no room for one of its sends. -/
def blockedAt (k : Nat) : Schedule :=
  ⟨fun n => if n = k then .full else .room, fun n h => by
    split at h
    · cases h
    · cases h⟩

/-- A turn, a viewer that joins, and another turn. -/
def watched (schedule : Schedule) : List (Nat × RelayEvent) :=
  [(0, .cmd 0 (.gameBlock emptyTurn)), (10, .cmd 10 (.viewerJoined 7 schedule)),
    (20, .cmd 20 (.gameBlock emptyTurn))]

/-- The theorem at the run above, where the link always has room. -/
theorem viewer_is_sent_burst_then_blocks_watched :
    (((Relay.new promptRelay).run (watched .drained)).viewers.map fun v => v.link.streamSent)
        = [[.hello 1 (txt "spectre"), .action ⟨emptyTurn, 0⟩, .historyEnd 1,
          .action ⟨emptyTurn, 20⟩]]
      ∧ ((Relay.new promptRelay).run (watched .drained)).history
        = ((Relay.new promptRelay).run (watched .drained)).released.drop 0 := by
  refine ⟨by decide +kernel, ?_⟩
  have hids : (joinIds (watched .drained)).Nodup := by decide
  exact (viewer_is_sent_burst_then_blocks promptRelay hids).1

/-- A viewer stays registered that misses a later block, and one that
misses a block of its burst: it is told of one block and was sent none. -/
theorem full_link_leaves_a_hole :
    (((Relay.new promptRelay).run (watched (blockedAt 3))).viewers.map fun v => v.link.streamSent)
        = [[.hello 1 (txt "spectre"), .action ⟨emptyTurn, 0⟩, .historyEnd 1]]
      ∧ ((Relay.new promptRelay).run (watched (blockedAt 3))).released
        = [⟨emptyTurn, 0⟩, ⟨emptyTurn, 20⟩]
      ∧ (((Relay.new promptRelay).run (watched (blockedAt 1))).viewers.map fun v =>
        v.link.streamSent)
        = [[.hello 1 (txt "spectre"), .historyEnd 1, .action ⟨emptyTurn, 20⟩]] := by
  refine ⟨?_, ?_, ?_⟩
  · decide +kernel
  · decide +kernel
  · decide +kernel

end Spectre

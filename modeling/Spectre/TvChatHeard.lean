/-
What the viewers of a game read in their chat.

A viewer reads its id and then whole messages of those relayed since it
connected, in the order in which they were relayed. It misses none but
those the channel had to forget, and what it reads at last may be the
beginning of a message (`chat_delivered`).
-/
import Spectre.TvChatRuns

namespace Spectre.DotaTv

open Lib ChatRelay

-- =============================================================== what is heard

namespace ChatConn

/-- A connection whose receiver subscribed at `start` has written its id
and then messages it has taken, the last of which it may be writing. -/
structure Hears (c : ChatConn) (tx : Lib.Ring (List UInt8)) (start : Nat) : Prop where
  took : ∃ next got missed, Follows tx start next got missed
    ∧ (c.stage = .greeting → got = [])
    ∧ c.written <+: u32le c.id ++ got.flatten
    ∧ ∀ p, c.rx = some p → p = next ∧ c.written ++ c.pending = u32le c.id ++ got.flatten
  quiet : c.rx = none → c.pending = []

variable {c : ChatConn} {tx : Lib.Ring (List UInt8)} {start : Nat}

/-- What matters is the id, the stage, the receiver and what is
written. -/
theorem Hears.same (h : c.Hears tx start) {d : ChatConn} (hid : d.id = c.id)
    (hstage : d.stage = .greeting → c.stage = .greeting) (hrx : d.rx = c.rx)
    (hpending : d.pending = c.pending) (hwritten : d.written = c.written) : d.Hears tx start := by
  obtain ⟨next, got, missed, hfollows, hgreets, hprefix, hrest⟩ := h.took
  refine ⟨⟨next, got, missed, hfollows, fun hd => hgreets (hstage hd), ?_, ?_⟩, ?_⟩
  · rw [hwritten, hid]
    exact hprefix
  · rw [hrx, hpending, hwritten, hid]
    exact hrest
  · rw [hrx, hpending]
    exact h.quiet

/-- A receiver that is dropped leaves what is written. -/
theorem Hears.drop (h : c.Hears tx start) {d : ChatConn} (hid : d.id = c.id)
    (hstage : d.stage = .greeting → c.stage = .greeting) (hrx : d.rx = none)
    (hpending : d.pending = []) (hwritten : d.written = c.written) : d.Hears tx start := by
  obtain ⟨next, got, missed, hfollows, hgreets, hprefix, _⟩ := h.took
  refine ⟨⟨next, got, missed, hfollows, fun hd => hgreets (hstage hd), ?_, ?_⟩, fun _ => hpending⟩
  · rw [hwritten, hid]
    exact hprefix
  · rw [hrx]
    intro p hp
    cases hp

theorem Hears.push (h : c.Hears tx start) (msg : List UInt8) : c.Hears (tx.push msg) start := by
  obtain ⟨next, got, missed, hfollows, hrest⟩ := h.took
  exact ⟨⟨next, got, missed, hfollows.push msg, hrest⟩, h.quiet⟩

theorem Hears.write (h : c.Hears tx start) (n : Nat) : (c.write n).Hears tx start := by
  obtain ⟨next, got, missed, hfollows, hgreets, hprefix, hrest⟩ := h.took
  have hsplit : c.written ++ c.pending.take n ++ c.pending.drop n = c.written ++ c.pending := by
    rw [List.append_assoc, List.take_append_drop]
  refine ⟨⟨next, got, missed, hfollows, hgreets, ?_, fun p hp => ?_⟩, fun hrx => ?_⟩
  · show c.written ++ c.pending.take n <+: u32le c.id ++ got.flatten
    cases hrx : c.rx with
    | none =>
        rw [h.quiet hrx, List.take_nil, List.append_nil]
        exact hprefix
    | some p =>
        rw [← (hrest p hrx).2, ← hsplit]
        exact List.prefix_append _ _
  · obtain ⟨hnext, hall⟩ := hrest p hp
    refine ⟨hnext, ?_⟩
    show c.written ++ c.pending.take n ++ c.pending.drop n = _
    rw [hsplit]
    exact hall
  · show c.pending.drop n = []
    rw [h.quiet hrx, List.drop_nil]

theorem Hears.recv (h : c.Hears tx start) : (c.recv tx).Hears tx start := by
  unfold ChatConn.recv
  by_cases hbusy : c.stage = .greeting ∨ c.pending ≠ []
  · rw [if_pos hbusy]
    exact h
  rw [if_neg hbusy]
  obtain ⟨htalks, hidle⟩ := not_or.1 hbusy
  have hidle := not_not.1 hidle
  cases hrx : c.rx with
  | none => exact h
  | some p =>
      obtain ⟨next, got, missed, hfollows, hgreets, hprefix, hrest⟩ := h.took
      obtain ⟨rfl, hall⟩ := hrest p hrx
      rw [hidle, List.append_nil] at hall
      dsimp only
      cases hrecv : tx.recv p with
      | mk found next =>
          cases found with
          | value bytes =>
              have hmore : c.written ++ bytes = u32le c.id ++ (got ++ [bytes]).flatten := by
                rw [hall, List.flatten_append, List.flatten_singleton, List.append_assoc]
              refine ⟨⟨next, got ++ [bytes], missed, hfollows.value hrecv,
                fun hgreets => absurd hgreets htalks, ?_, fun q hq => ?_⟩, fun hnone => ?_⟩
              · rw [← hmore]
                exact List.prefix_append _ _
              · cases hq
                exact ⟨rfl, hmore⟩
              · cases hnone
          | lagged n =>
              refine ⟨⟨next, got, missed + n, hfollows.lagged hrecv, hgreets, hprefix,
                fun q hq => ?_⟩, fun hnone => ?_⟩
              · cases hq
                refine ⟨rfl, ?_⟩
                show c.written ++ c.pending = _
                rw [hidle, List.append_nil]
                exact hall
              · cases hnone
          | empty => exact h

/-- The reading task does not write. -/
theorem read_written (c : ChatConn) (now : Nat) :
    (c.read now).1.rx = c.rx ∧ (c.read now).1.pending = c.pending
      ∧ (c.read now).1.written = c.written
      ∧ ((c.read now).1.stage = .greeting → c.stage = .greeting) := by
  unfold ChatConn.read
  by_cases htalks : c.stage = .talking
  · rw [if_neg (not_not_intro htalks)]
    split
    · split
      · exact ⟨rfl, rfl, rfl, fun h => by cases h⟩
      · exact ⟨rfl, rfl, rfl, fun h => h⟩
    · dsimp only
      split
      · exact ⟨rfl, rfl, rfl, fun h => by cases h⟩
      · exact ⟨rfl, rfl, rfl, fun h => h⟩
      · rw [counted_eq]
        split <;> exact ⟨rfl, rfl, rfl, fun h => h⟩
  · rw [if_pos htalks]
    exact ⟨rfl, rfl, rfl, fun h => h⟩

theorem Hears.on (h : c.Hears tx start) (k : Nat) (e : ChatEvent) :
    (c.on tx k e).Hears tx start := by
  unfold ChatConn.on
  split
  · cases e with
    | connect => exact h
    | arrive j bytes =>
        show (c.arrive bytes).Hears tx start
        unfold ChatConn.arrive
        split
        · exact h
        · exact h.same rfl (fun hstage => hstage) rfl rfl rfl
    | hangUp j kept => exact h.same rfl (fun hstage => hstage) rfl rfl rfl
    | write j n => exact h.write n
    | breakOff j =>
        refine h.drop rfl (fun hstage => ?_) rfl rfl rfl
        have hkeeps : (if c.stage = .greeting then ChatStage.over else c.stage) = .greeting :=
          hstage
        by_cases hgreets : c.stage = .greeting
        · exact hgreets
        · rw [if_neg hgreets] at hkeeps
          exact hkeeps
    | begin j now =>
        show (c.begin now).Hears tx start
        unfold ChatConn.begin
        split
        · exact h.same rfl (fun hstage => by cases hstage) rfl rfl rfl
        · exact h
    | read j now =>
        obtain ⟨hrx, hpending, hwritten, hstage⟩ := c.read_written now
        exact h.same (c.read_id now) hstage hrx hpending hwritten
    | recv j => exact h.recv
    | stop j =>
        show c.stop.Hears tx start
        unfold ChatConn.stop
        split
        · exact h.drop rfl (fun hstage => hstage) rfl rfl rfl
        · exact h
  · exact h

end ChatConn

namespace ChatRelay

variable {r : ChatRelay} {k start : Nat}

/-- The `k`th connection, whose receiver subscribed at `start`, and the
channel. -/
structure HeardAt (r : ChatRelay) (k start : Nat) : Prop where
  hears : ∃ c, r.conns[k]? = some c ∧ c.Hears r.tx start
  full : r.tx.Full
  cap : r.tx.cap = 256

theorem HeardAt.step (h : r.HeardAt k start) (e : ChatEvent) : (r.step e).HeardAt k start := by
  obtain ⟨c, hc, hhears⟩ := h.hears
  have hget := step_get e hc
  have hon := hhears.on k e
  rcases tx_step e with hsame | ⟨_, _, msg, _, _, _, hpush⟩
  · refine ⟨⟨_, hget, ?_⟩, ?_, ?_⟩
    · rw [hsame]
      exact hon
    · rw [hsame]
      exact h.full
    · rw [hsame]
      exact h.cap
  · refine ⟨⟨_, hget, ?_⟩, ?_, ?_⟩
    · rw [hpush]
      exact hon.push msg
    · rw [hpush]
      exact h.full.push msg
    · rw [hpush]
      exact h.cap

theorem HeardAt.run (h : r.HeardAt k start) (es : List ChatEvent) :
    (ChatRelay.run es r).HeardAt k start := by
  induction es generalizing r with
  | nil => exact h
  | cons e es ih => exact ih (h.step e)

/-- The channel keeps the last 256 messages. -/
theorem full_run (hfull : r.tx.Full) (hcap : r.tx.cap = 256) (es : List ChatEvent) :
    (ChatRelay.run es r).tx.Full ∧ (ChatRelay.run es r).tx.cap = 256 := by
  induction es generalizing r with
  | nil => exact ⟨hfull, hcap⟩
  | cons e es ih =>
      rcases tx_step e (r := r) with hsame | ⟨_, _, msg, _, _, _, hpush⟩
      · refine ih ?_ ?_
        · rw [hsame]
          exact hfull
        · rw [hsame]
          exact hcap
      · refine ih ?_ ?_
        · rw [hpush]
          exact hfull.push msg
        · rw [hpush]
          exact hcap

theorem heardAt_connect (hfull : r.tx.Full) (hcap : r.tx.cap = 256) :
    r.connect.HeardAt r.conns.length r.tx.log.length where
  hears := by
    refine ⟨r.fresh, ?_, ⟨r.tx.nextSeq, [], 0, ?_, fun _ => rfl, List.nil_prefix,
      fun p hp => ?_⟩, fun hrx => by cases hrx⟩
    · show (r.conns ++ [r.fresh])[r.conns.length]? = _
      rw [List.getElem?_append_right (Nat.le_refl _), Nat.sub_self]
      rfl
    · rw [← r.tx.nextSeq_eq]
      exact .subscribe r.tx
    · cases hp
      refine ⟨rfl, ?_⟩
      show u32le r.nextId = u32le r.nextId ++ []
      rw [List.append_nil]
  full := hfull
  cap := hcap

end ChatRelay

/-- Whoever connects, whatever happened before and whatever happens
then: it is written its id and then messages that were relayed since, in
their order and none of them twice; only the last one may not be written
to its end. It misses none as long as there are not more than 256 of
them, and else no more than those beyond. And if its receiver is up to
date and it writes nothing, it was written all the others. -/
theorem chat_delivered (es es' : List ChatEvent) :
    ∃ c, (ChatRelay.run (es ++ .connect :: es') .new).conns[
        (ChatRelay.run es .new).conns.length]? = some c
      ∧ ∃ (since seen : List (List UInt8)) (upto : Nat),
          since = (ChatRelay.run (es ++ .connect :: es') .new).tx.log.drop
            (ChatRelay.run es .new).tx.log.length
          ∧ upto ≤ since.length
          ∧ seen.Sublist (since.take upto)
          ∧ upto ≤ seen.length + (since.length - 256)
          ∧ c.written <+: u32le c.id ++ seen.flatten
          ∧ (c.rx = some (ChatRelay.run (es ++ .connect :: es') .new).tx.nextSeq → c.pending = [] →
              upto = since.length ∧ c.written = u32le c.id ++ seen.flatten) := by
  have hrun : ChatRelay.run (es ++ .connect :: es') .new
      = ChatRelay.run es' (ChatRelay.run es .new).connect := by
    unfold ChatRelay.run
    rw [List.foldl_append, List.foldl_cons]
    rfl
  obtain ⟨hfull, hcap⟩ :=
    ChatRelay.full_run (r := .new) (Lib.Ring.full_empty 256 (by decide)) rfl es
  -- the new connection subscribes at the end of the log and follows it from there
  have h := (ChatRelay.heardAt_connect hfull hcap).run es'
  rw [← hrun] at h
  obtain ⟨c, hc, hhears⟩ := h.hears
  obtain ⟨next, got, missed, hfollows, _, hprefix, hrest⟩ := hhears.took
  have hfrom := hfollows.from_start
  have hend := hfollows.to_end
  have hcount := hfollows.count
  have hlost := hfollows.lost
  have hevicted := h.full
  unfold Lib.Ring.Full at hevicted
  rw [h.cap] at hevicted
  refine ⟨c, hc, _, got, next - (ChatRelay.run es .new).tx.log.length, rfl, ?_, hfollows.sub, ?_,
    hprefix, fun hrx hidle => ?_⟩
  · rw [List.length_drop]
    omega
  · rw [List.length_drop]
    omega
  · -- once it has caught up with nothing pending, all it took is written
    obtain ⟨hnext, hall⟩ := hrest _ hrx
    rw [hidle, List.append_nil] at hall
    refine ⟨?_, hall⟩
    rw [List.length_drop, ← hnext, Lib.Ring.nextSeq_eq]

end Spectre.DotaTv

/-
Receivers of a bounded broadcast channel.

The channel is a `Ring`: it keeps the last `cap` messages that were
sent. A receiver holds the absolute position of the message it takes
next. Where that message is forgotten already, the receiver is told how
many it has missed and goes on at the oldest one kept; so it never
waits for a sender and no sender waits for it.

What a receiver has taken (`Follows`) is a subsequence of what was sent
since it subscribed, in the order of sending, and the only messages it
has missed are those that the channel had to forget: none, as long as
no more than `cap` were sent (`Follows.all`).
-/
import Spectre.Lib.Ring

namespace Lib

/-- What a receiver is given. -/
inductive Received (α : Type) where
  | value (x : α)
  | lagged (missed : Nat)
  | empty

namespace Ring

variable {α : Type}

/-- A receiver's next turn: what it is given, and its position then. -/
def recv (r : Ring α) (next : Nat) : Received α × Nat :=
  if next < r.firstSeq then (.lagged (r.firstSeq - next), r.firstSeq)
  else match r.since next with
    | [] => (.empty, next)
    | x :: _ => (.value x, next + 1)

/-- What is forgotten stays forgotten. -/
theorem evicted_le_push (r : Ring α) (x : α) : r.evicted ≤ (r.push x).evicted := by
  show r.evicted ≤ if r.cap ≤ r.kept.length then r.evicted + 1 else r.evicted
  split
  · exact Nat.le_succ _
  · exact Nat.le_refl _

/-- A channel that was empty has forgotten all but the last `cap`. -/
def Full (r : Ring α) : Prop := r.evicted = r.log.length - r.cap

theorem full_empty (cap : Nat) (h : 0 < cap) : (empty cap h : Ring α).Full :=
  (Nat.zero_sub cap).symm

theorem Full.push {r : Ring α} (h : r.Full) (x : α) : (r.push x).Full := by
  unfold Full at h
  have hkept := r.kept_length
  show (if r.cap ≤ r.kept.length then r.evicted + 1 else r.evicted) = (r.log ++ [x]).length - r.cap
  rw [List.length_append, List.length_singleton]
  split <;> omega

end Ring

-- ================================================================ a receiver

/-- What a receiver that subscribed at `start` and is at `next` has
taken of the messages, where it has missed `missed` of them. -/
structure Follows {α : Type} (r : Ring α) (start next : Nat) (got : List α) (missed : Nat) :
    Prop where
  from_start : start ≤ next
  to_end : next ≤ r.log.length
  sub : got.Sublist ((r.log.drop start).take (next - start))
  count : got.length + missed = next - start
  lost : missed ≤ r.evicted - start

namespace Follows

variable {α : Type} {r : Ring α} {start next missed : Nat} {got : List α}

/-- A receiver starts behind what was sent. -/
theorem subscribe (r : Ring α) : Follows r r.nextSeq r.nextSeq [] 0 where
  from_start := Nat.le_refl _
  to_end := Nat.le_of_eq r.nextSeq_eq
  sub := List.nil_sublist _
  count := (Nat.sub_self _).symm
  lost := Nat.zero_le _

/-- Sending changes nothing for those that have not got there. -/
theorem push (h : Follows r start next got missed) (x : α) :
    Follows (r.push x) start next got missed where
  from_start := h.from_start
  to_end := by
    rw [Ring.push_log, List.length_append]
    exact Nat.le_add_right_of_le h.to_end
  sub := by
    have hlen : next - start ≤ (r.log.drop start).length := by
      rw [List.length_drop]
      exact Nat.sub_le_sub_right h.to_end start
    rw [Ring.push_log, List.drop_append_of_le_length (Nat.le_trans h.from_start h.to_end),
      List.take_append_of_le_length hlen]
    exact h.sub
  count := h.count
  lost := Nat.le_trans h.lost (Nat.sub_le_sub_right (r.evicted_le_push x) start)

/-- A message that is taken is the next one. -/
theorem value (h : Follows r start next got missed) {x : α} {next' : Nat}
    (hrecv : r.recv next = (.value x, next')) : Follows r start next' (got ++ [x]) missed := by
  unfold Ring.recv at hrecv
  by_cases hlag : next < r.firstSeq
  · rw [if_pos hlag] at hrecv
    cases hrecv
  rw [if_neg hlag, Ring.since_eq (Nat.not_lt.1 hlag)] at hrecv
  cases hrest : r.log.drop next with
  | nil =>
      rw [hrest] at hrecv
      cases hrecv
  | cons y rest =>
      rw [hrest] at hrecv
      cases hrecv
      have hlt : next < r.log.length := by
        refine Nat.lt_of_not_le fun hle => ?_
        rw [List.drop_eq_nil_of_le hle] at hrest
        cases hrest
      have hnext : next + 1 - start = next - start + 1 := Nat.succ_sub h.from_start
      -- the message at the position is the first of the rest
      have hget : (r.log.drop start)[next - start]? = some x := by
        rw [List.getElem?_drop, Nat.add_sub_cancel' h.from_start, ← Nat.add_zero next,
          ← List.getElem?_drop, hrest]
        rfl
      refine ⟨Nat.le_succ_of_le h.from_start, hlt, ?_, ?_, h.lost⟩
      · rw [hnext, List.take_add_one, hget]
        exact h.sub.append (List.Sublist.refl _)
      · have hcount := h.count
        rw [List.length_append, List.length_singleton]
        omega

/-- A receiver that lags goes on at the oldest message kept. -/
theorem lagged (h : Follows r start next got missed) {n next' : Nat}
    (hrecv : r.recv next = (.lagged n, next')) : Follows r start next' got (missed + n) := by
  unfold Ring.recv at hrecv
  by_cases hlag : next < r.firstSeq
  · rw [if_pos hlag] at hrecv
    cases hrecv
    unfold Ring.firstSeq at hlag ⊢
    have hfrom := h.from_start
    have hcount := h.count
    have hlost := h.lost
    have hevicted := r.evicted_le
    refine ⟨by omega, hevicted, h.sub.trans ?_, by omega, by omega⟩
    exact List.take_sublist_take_left (Nat.sub_le_sub_right (Nat.le_of_lt hlag) start)
  · rw [if_neg hlag] at hrecv
    split at hrecv <;> cases hrecv

/-- Who is not behind by more than the channel holds has missed
nothing. -/
theorem all (h : Follows r start next got 0) : got = (r.log.drop start).take (next - start) := by
  refine h.sub.eq_of_length ?_
  have hcount := h.count
  have hend := h.to_end
  rw [List.length_take, List.length_drop]
  omega

end Follows

end Lib

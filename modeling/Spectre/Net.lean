/-
A player's link (`spectre-net/conn.rs`): the sending half of a bounded
queue that a writer task drains concurrently.

# What a send finds

`try_send` never waits. It finds room, a full queue, or a queue whose
receiver is gone, and which of the three depends on how far the writer
task and the peer have got — nothing the engine controls. So a link
carries that schedule: `finds n` is what its `n`-th `try_send` finds.
Quantifying over links then quantifies over every queue capacity, every
drain order and every moment of closing, in between any two sends of
one step as well as between steps. A closed queue stays closed, which
is the one law the schedule must obey (`closed_mono`).

# What was enqueued

`sent` is everything enqueued so far, oldest first. Each entry carries
the site that enqueued it (`Via`), which the source does not keep: two
turns with no actions are the same bytes, and only the origin tells a
packet sent twice from two packets that look alike.
-/
import Spectre.Wire

namespace Spectre

/-- What one `try_send` finds on the queue. -/
inductive Found where
  | room
  | full
  | closed
deriving DecidableEq, Repr

/-- `LinkError`. -/
inductive LinkError where
  | backpressure
  | closed
deriving DecidableEq, Repr

/-- The site an enqueued packet came from: a broadcast (with the
sequence number it was recorded under, if it was), the catch-up feed
(with the sequence number it read), or a send to this player alone. -/
inductive Via where
  | live (seq : Option Nat)
  | history (seq : Nat)
  | personal
deriving DecidableEq, Repr

/-- An enqueued packet. -/
structure Sent where
  packet : Packet
  via : Via
deriving DecidableEq, Repr

/-- The number a recorded packet was sent under. -/
def Sent.seq? (e : Sent) : Option Nat :=
  match e.via with
  | .live seq => seq
  | .history seq => some seq
  | .personal => none

/-- `PlayerLink`: the schedule of the queue, how many sends it has
seen, and what they enqueued. -/
structure PlayerLink where
  finds : Nat → Found
  closed_mono : ∀ n, finds n = .closed → finds (n + 1) = .closed
  tries : Nat
  sent : List Sent

namespace PlayerLink

/-- A link nothing was sent on yet. -/
def fresh (finds : Nat → Found) (h : ∀ n, finds n = .closed → finds (n + 1) = .closed) :
    PlayerLink := ⟨finds, h, 0, []⟩

/-- A link whose receiver drains everything at once. -/
def drained : PlayerLink := fresh (fun _ => .room) (fun _ h => nomatch h)

/-- A link whose receiver was dropped. -/
def dropped : PlayerLink := fresh (fun _ => .closed) (fun _ _ => rfl)

/-- What the next send on this link finds. -/
def next (l : PlayerLink) : Found := l.finds l.tries

/-- The link after one more send, whatever came of it. -/
def push (l : PlayerLink) (e : Sent) : PlayerLink :=
  { l with
    tries := l.tries + 1
    sent := if l.next = .room then l.sent ++ [e] else l.sent }

/-- `PlayerLink::try_send`. -/
def trySend (l : PlayerLink) (p : Packet) (via : Via) : PlayerLink × Except LinkError Unit :=
  (l.push ⟨p, via⟩,
    match l.next with
    | .room => .ok ()
    | .full => .error .backpressure
    | .closed => .error .closed)

@[simp] theorem push_finds (l : PlayerLink) (e : Sent) : (l.push e).finds = l.finds := rfl

@[simp] theorem push_tries (l : PlayerLink) (e : Sent) : (l.push e).tries = l.tries + 1 := rfl

theorem push_sent_room {l : PlayerLink} (e : Sent) (h : l.next = .room) :
    (l.push e).sent = l.sent ++ [e] := by
  simp [push, h]

theorem push_sent_blocked {l : PlayerLink} (e : Sent) (h : l.next ≠ .room) :
    (l.push e).sent = l.sent := by
  simp [push, h]

/-- A send enqueues its packet or nothing. -/
theorem push_sent_cases (l : PlayerLink) (e : Sent) :
    (l.push e).sent = l.sent ++ [e] ∨ (l.push e).sent = l.sent := by
  unfold push
  by_cases h : l.next = .room
  · exact .inl (by simp [h])
  · exact .inr (by simp [h])

end PlayerLink

end Spectre

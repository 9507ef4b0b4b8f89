/-
The two packet logs a reconnecting client is served from.

- `FullHistory` (`full_history.rs`): every broadcast of the game, under
  absolute sequence numbers, for a client that restarted cold.
- `GProxyBuffer` (`gproxy.rs`): the last packets sent to one player,
  counted in 32 bits, for a client that only lost its connection.

Both are the library's `Ring`: the source's `push` at a positive
capacity, which is the only kind the engine makes (216 000 for the
history, 500 for a player's buffer).
-/
import Spectre.Lib.Ring
import Spectre.Net

namespace Spectre

/-- `FullHistory`. -/
abbrev FullHistory := Lib.Ring Packet

namespace FullHistory

/-- `FullHistory::new_with_cap`. -/
def newWithCap (cap : Nat) (h : 0 < cap) : FullHistory := Lib.Ring.empty cap h

/-- `FullHistory::new`. -/
def new : FullHistory := newWithCap 216000 (by decide)

end FullHistory

/-- `GProxyBuffer`: the last packets sent to one player. Packet ids
are `u32` and wrap. -/
structure GProxyBuffer where
  ring : Lib.Ring Packet

namespace GProxyBuffer

/-- `GProxyBuffer::new`. -/
def new (capacity : Nat) (h : 0 < capacity) : GProxyBuffer := ⟨Lib.Ring.empty capacity h⟩

/-- `first_packet_id`: the packets forgotten so far, as a `u32`. -/
def firstPacketId (b : GProxyBuffer) : Nat := b.ring.firstSeq % 2 ^ 32

/-- `GProxyBuffer::push`. -/
def push (b : GProxyBuffer) (packet : Packet) : GProxyBuffer := ⟨b.ring.push packet⟩

/-- `GProxyBuffer::total_sent`. -/
def totalSent (b : GProxyBuffer) : Nat := (b.firstPacketId + b.ring.kept.length) % 2 ^ 32

/-- `GProxyBuffer::replay_from`. -/
def replayFrom (b : GProxyBuffer) (lastReceived : Nat) : Option (List Packet) :=
  if b.totalSent < lastReceived ∨ lastReceived < b.firstPacketId then none
  else some (b.ring.kept.drop (lastReceived - b.firstPacketId))

/-- Everything ever appended. -/
def log (b : GProxyBuffer) : List Packet := b.ring.log

@[simp] theorem log_push (b : GProxyBuffer) (packet : Packet) :
    (b.push packet).log = b.log ++ [packet] := rfl

@[simp] theorem log_new (capacity : Nat) (h : 0 < capacity) : (new capacity h).log = [] := rfl

/-- A new buffer after pushing a list of packets. -/
theorem pushAll_ring (capacity : Nat) (h : 0 < capacity) (packets : List Packet) :
    (packets.foldl push (new capacity h)).ring
      = packets.foldl Lib.Ring.push (Lib.Ring.empty capacity h) := by
  have hfold : ∀ b : GProxyBuffer,
      (packets.foldl push b).ring = packets.foldl Lib.Ring.push b.ring := by
    induction packets with
    | nil => exact fun _ => rfl
    | cons p packets ih => exact fun b => ih (b.push p)
  exact hfold (new capacity h)

/-- The buffer counts what was appended to it, in 32 bits. -/
theorem totalSent_eq (b : GProxyBuffer) : b.totalSent = b.log.length % 2 ^ 32 := by
  have hkept := b.ring.kept_length
  have hle := b.ring.evicted_le
  have hsum : b.ring.evicted + b.ring.kept.length = b.log.length := by
    rw [hkept]
    exact Nat.add_sub_cancel' hle
  unfold totalSent firstPacketId
  rw [Nat.mod_add_mod, ← hsum]
  rfl

/-- While the count fits 32 bits, the buffer hands out what was appended
from any position that it still has, the end included. -/
theorem replayFrom_eq (b : GProxyBuffer) (hfew : b.log.length < 2 ^ 32) (n : Nat) :
    b.replayFrom n
      = if b.ring.evicted ≤ n ∧ n ≤ b.log.length then some (b.log.drop n) else none := by
  have hle : b.ring.evicted ≤ b.log.length := b.ring.evicted_le
  have hfirst : b.firstPacketId = b.ring.evicted :=
    Nat.mod_eq_of_lt (by unfold Lib.Ring.firstSeq; omega)
  have htotal : b.totalSent = b.log.length := by
    rw [b.totalSent_eq]
    exact Nat.mod_eq_of_lt hfew
  unfold replayFrom
  rw [htotal, hfirst]
  by_cases hn : b.ring.evicted ≤ n ∧ n ≤ b.log.length
  · rw [if_neg (by omega), if_pos hn]
    -- what is kept from a position on is the log from there
    rw [b.ring.kept_eq, List.drop_drop]
    congr 2
    omega
  · rw [if_pos (by omega), if_neg hn]

/-- Up to 2^32 packets the buffer counts what was pushed, and it hands
out what was pushed from any position that it still has, the end of the
list included. What it computes on the way stays within 32 bits, and it
subtracts nothing from less. -/
theorem buffer_law (capacity : Nat) (h : 0 < capacity) (packets : List Packet)
    (hfew : packets.length < 2 ^ 32) :
    let b := packets.foldl push (new capacity h)
    b.totalSent = packets.length
      ∧ (∀ n, b.replayFrom n = if packets.length - min capacity packets.length ≤ n
          ∧ n ≤ packets.length then some (packets.drop n) else none)
      ∧ b.firstPacketId + b.ring.kept.length < 2 ^ 32
      ∧ ∀ n, (b.replayFrom n).isSome = true → b.firstPacketId ≤ n := by
  intro b
  have hring : b.ring = packets.foldl Lib.Ring.push (Lib.Ring.empty capacity h) :=
    pushAll_ring capacity h packets
  obtain ⟨-, hlog, hevicted⟩ := Lib.Ring.pushAll capacity h packets
  rw [← hring] at hlog hevicted
  have hlog' : b.log = packets := hlog
  have hfirst : b.firstPacketId = packets.length - capacity := by
    show b.ring.evicted % 2 ^ 32 = _
    rw [hevicted]
    exact Nat.mod_eq_of_lt (by omega)
  have hsum : b.firstPacketId + b.ring.kept.length = packets.length := by
    rw [hfirst, b.ring.kept_length, hlog, hevicted]
    omega
  have hmin : packets.length - min capacity packets.length = packets.length - capacity := by omega
  refine ⟨?_, fun n => ?_, hsum ▸ hfew, fun n hsome => ?_⟩
  · rw [b.totalSent_eq, hlog']
    exact Nat.mod_eq_of_lt hfew
  · rw [b.replayFrom_eq (hlog' ▸ hfew), hevicted, hlog', hmin]
  · rw [b.replayFrom_eq (hlog' ▸ hfew), hevicted] at hsome
    rw [hfirst]
    by_contra hlow
    rw [if_neg fun hn => hlow hn.1] at hsome
    cases hsome

theorem buffer_law_overfull :
    let packets : List Packet := (List.range 5).map fun n => .gameLoadedOthers n.toUInt8
    (packets.foldl push (new 3 (by decide))).totalSent = packets.length
      ∧ (packets.foldl push (new 3 (by decide))).replayFrom 3 = some (packets.drop 3)
      ∧ (packets.foldl push (new 3 (by decide))).replayFrom 1 = none := by
  intro packets
  obtain ⟨htotal, hreplay, -⟩ := buffer_law 3 (by decide) packets (by decide)
  exact ⟨htotal, hreplay 3, hreplay 1⟩

end GProxyBuffer

end Spectre

/-
The reader of a connection (`spawn_conn` of `conn.rs`).

The reader asks tokio's `FramedRead` for one frame after another. It
goes on after a header with a bad length field and stops at the end of
the stream; but `FramedRead` reports an end after every error, before
it decodes on. So the first bad header ends the connection.

`Poll` lists what `FramedRead` has to say: the items the codec finds,
the pause after an error, and how the stream ends. To the reader a pause
and an end look the same.
-/
import Spectre.Framing

namespace Spectre

-- ================================================================== FramedRead

/-- What a call of `next` finds. -/
inductive Poll where
  | item (x : Except ProtoError AnyFrame)
  /-- after an error -/
  | pause
  /-- the peer has closed, and the buffer is empty -/
  | ended
  /-- the socket fails, or the peer has closed in the middle of a frame -/
  | failed

/-- The errors of a call. -/
inductive ReadError where
  | proto (e : ProtoError)
  | io
deriving DecidableEq

/-- What the call returns. -/
def Poll.next : Poll → Option (Except ReadError AnyFrame)
  | item (.ok f) => some (.ok f)
  | item (.error e) => some (.error (.proto e))
  | pause | ended => none
  | failed => some (.error .io)

/-- An item as `FramedRead` hands it on: an error has a pause behind
it. -/
def pollsOf : Except ProtoError AnyFrame → List Poll
  | .ok f => [.item (.ok f)]
  | .error e => [.item (.error e), .pause]

/-- The calls of a stream that comes in chunks and ends, by the peer or
by a failure of the socket. -/
def pollsOfStream (chunks : List (List UInt8)) (socketFails : Bool) : List Poll :=
  let r := chunks.foldl (Lib.feed DualCodec.call) ([], [])
  r.1.flatMap pollsOf ++ [if socketFails = true ∨ r.2 ≠ [] then .failed else .ended]

-- ================================================================== the reader

/-- `CloseReason`, as far as the reader gives it. -/
inductive CloseReason where
  | peerClosed
  | protocol (e : ReadError)
deriving DecidableEq

/-- `ConnEventKind`, with the reason as the reader has it. -/
inductive ReaderEvent where
  | frame (f : AnyFrame)
  | closed (reason : CloseReason)

/-- Why the loop ends: the call it ends at, or nobody takes its
events. -/
inductive Stop where
  | call (p : Poll)
  | gone

/-- The loop of the reader: the events it sends and why it ends. The
game side takes `room` events, or all of them. -/
def readerLoop : Option Nat → List Poll → List ReaderEvent × Option Stop
  | _, [] => ([], none)
  | room, p :: polls =>
      match p.next with
      | some (.ok f) =>
          if room = some 0 then ([], some .gone)
          else
            let r := readerLoop (room.map (· - 1)) polls
            (.frame f :: r.1, r.2)
      | some (.error (.proto (.badValue _))) => readerLoop room polls
      | some (.error e) => (if room = some 0 then [] else [.closed (.protocol e)], some (.call p))
      | none => (if room = some 0 then [] else [.closed .peerClosed], some (.call p))

-- =================================================================== statement

/-- The frames among the items. -/
def framesOf (items : List (Except ProtoError AnyFrame)) : List AnyFrame :=
  items.filterMap Except.toOption

/-- The frames among the events. -/
def ReaderEvent.frame? : ReaderEvent → Option AnyFrame
  | frame f => some f
  | closed _ => none

/-- The end of the stream, a failure, or that nobody is there. -/
def Stop.proper : Stop → Bool
  | call .ended | call .failed | gone => true
  | _ => false

/-- The first `room` of a list, or all. -/
def takeRoom {α : Type} (room : Option Nat) (l : List α) : List α :=
  match room with
  | some n => l.take n
  | none => l

/-- The reader sends the frames of the stream, as far as they are taken,
and says that the connection is closed at its end only. -/
structure ReadsOn (room : Option Nat) (items : List (Except ProtoError AnyFrame))
    (r : List ReaderEvent × Option Stop) : Prop where
  frames : r.1.filterMap ReaderEvent.frame? = takeRoom room (framesOf items)
  ends : (∃ reason, .closed reason ∈ r.1) → ∃ stop, r.2 = some stop ∧ stop.proper = true

/-- No bad header comes while the game side takes events. -/
def Untroubled : Option Nat → List (Except ProtoError AnyFrame) → Prop
  | _, [] => True
  | room, .ok _ :: items => room = some 0 ∨ Untroubled (room.map (· - 1)) items
  | room, .error _ :: _ => room = some 0

-- ====================================================================== proofs

theorem takeRoom_cons {α : Type} {room : Option Nat} (h : room ≠ some 0) (a : α) (l : List α) :
    takeRoom room (a :: l) = a :: takeRoom (room.map (· - 1)) l := by
  cases room with
  | none => rfl
  | some n =>
      cases n with
      | zero => exact absurd rfl h
      | succ n => rfl

theorem takeRoom_nil {α : Type} (room : Option Nat) : takeRoom room ([] : List α) = [] := by
  cases room with
  | none => rfl
  | some n => exact List.take_nil

/-- The reader at an item it can use. -/
theorem readerLoop_ok (room : Option Nat) (f : AnyFrame) (polls : List Poll) :
    readerLoop room (.item (.ok f) :: polls)
      = if room = some 0 then ([], some .gone)
        else (.frame f :: (readerLoop (room.map (· - 1)) polls).1,
          (readerLoop (room.map (· - 1)) polls).2) := rfl

/-- The reader goes on after a bad header, and takes the pause for the
end of the stream. -/
theorem readerLoop_error (room : Option Nat) (what : Text) (polls : List Poll) :
    readerLoop room (.item (.error (.badValue what)) :: .pause :: polls)
      = (if room = some 0 then [] else [.closed .peerClosed], some (.call .pause)) := rfl

/-- At the end of the stream. -/
theorem readerLoop_end (room : Option Nat) (socketFails : Bool) (left : List UInt8) :
    ReadsOn room []
      (readerLoop room [if socketFails = true ∨ left ≠ [] then .failed else .ended]) := by
  by_cases hend : socketFails = true ∨ left ≠ []
  · rw [if_pos hend]
    refine ⟨?_, fun _ => ⟨.call .failed, rfl, rfl⟩⟩
    rw [show framesOf [] = [] from rfl, takeRoom_nil]
    show (if room = some 0 then [] else [_]).filterMap _ = _
    split <;> rfl
  · rw [if_neg hend]
    refine ⟨?_, fun _ => ⟨.call .ended, rfl, rfl⟩⟩
    rw [show framesOf [] = [] from rfl, takeRoom_nil]
    show (if room = some 0 then [] else [_]).filterMap _ = _
    split <;> rfl

/-- A frame is sent, and the rest is as it is without it. -/
theorem readsOn_cons {room : Option Nat} (h : room ≠ some 0) (f : AnyFrame)
    (items : List (Except ProtoError AnyFrame)) (r : List ReaderEvent × Option Stop) :
    ReadsOn room (.ok f :: items) (.frame f :: r.1, r.2)
      ↔ ReadsOn (room.map (· - 1)) items r := by
  have hframes : (ReaderEvent.frame f :: r.1).filterMap ReaderEvent.frame?
      = f :: r.1.filterMap ReaderEvent.frame? := rfl
  have hitems : framesOf (.ok f :: items) = f :: framesOf items := rfl
  constructor
  · intro hr
    have hsent := hr.frames
    rw [hframes, hitems, takeRoom_cons h] at hsent
    exact ⟨(List.cons.inj hsent).2, fun ⟨reason, hmem⟩ =>
      hr.ends ⟨reason, List.mem_cons_of_mem _ hmem⟩⟩
  · intro hr
    refine ⟨?_, fun ⟨reason, hmem⟩ => hr.ends ⟨reason, ?_⟩⟩
    · rw [hframes, hitems, takeRoom_cons h, hr.frames]
    · rcases List.mem_cons.1 hmem with h | h
      · cases h
      · exact h

/-- The loop over the items of a stream. -/
theorem readerLoop_iff (room : Option Nat) (socketFails : Bool) (left : List UInt8)
    {items : List (Except ProtoError AnyFrame)}
    (hitems : ∀ e, .error e ∈ items → ∃ what, e = .badValue what) :
    ReadsOn room items (readerLoop room (items.flatMap pollsOf
        ++ [if socketFails = true ∨ left ≠ [] then .failed else .ended]))
      ↔ Untroubled room items := by
  induction items generalizing room with
  | nil => exact ⟨fun _ => trivial, fun _ => readerLoop_end room socketFails left⟩
  | cons x items ih =>
      cases x with
      | ok f =>
          have hpolls : ∀ last, (Except.ok f :: items).flatMap pollsOf ++ last
              = .item (.ok f) :: (items.flatMap pollsOf ++ last) := fun _ => rfl
          rw [hpolls, readerLoop_ok]
          by_cases h0 : room = some 0
          · rw [if_pos h0, h0]
            exact ⟨fun _ => .inl rfl, fun _ => ⟨rfl, fun ⟨_, h⟩ => (List.not_mem_nil h).elim⟩⟩
          · rw [if_neg h0, readsOn_cons h0, ih _ fun e he => hitems e (List.mem_cons_of_mem _ he)]
            exact ⟨.inr, fun h => h.resolve_left h0⟩
      | error e =>
          obtain ⟨what, rfl⟩ := hitems e List.mem_cons_self
          have hpolls : ∀ last, (Except.error (.badValue what) :: items).flatMap pollsOf ++ last
              = .item (.error (.badValue what)) :: .pause :: (items.flatMap pollsOf ++ last) :=
            fun _ => rfl
          rw [hpolls, readerLoop_error]
          show _ ↔ room = some 0
          by_cases h0 : room = some 0
          · rw [if_pos h0, h0]
            exact ⟨fun _ => rfl, fun _ => ⟨rfl, fun ⟨_, h⟩ => (List.not_mem_nil h).elim⟩⟩
          · -- it says that the connection is closed, and stops at the pause
            rw [if_neg h0]
            refine ⟨fun h => ?_, fun h => absurd h h0⟩
            obtain ⟨stop, hstop, hproper⟩ := h.ends ⟨_, List.mem_singleton_self _⟩
            cases hstop
            cases hproper

/-- For every stream, however it is cut and however it ends, and for as
many events as the game side takes: the reader sends the frames that the
codec finds, in order, and says that the connection is closed only at
its end, exactly when no header with a bad length field comes while the
game side takes events. -/
theorem reader_reads_on_iff (chunks : List (List UInt8)) (socketFails : Bool) (room : Option Nat) :
    ReadsOn room (Lib.drain DualCodec.call chunks.flatten).1
        (readerLoop room (pollsOfStream chunks socketFails))
      ↔ Untroubled room (Lib.drain DualCodec.call chunks.flatten).1 := by
  unfold pollsOfStream
  rw [Lib.feed_chunks incremental_dualCodec]
  refine readerLoop_iff room socketFails _ fun e he => ?_
  obtain ⟨src, rest, hcall⟩ := Lib.mem_drain incremental_dualCodec he
  exact framing_chunk_invariant.2.2.2.1 src e rest hcall

/-- A header that announces two bytes, and a keepalive behind it: the
codec finds the keepalive, and the reader, in one read or in two, does
not get to it. -/
theorem bad_header_ends_connection :
    framesOf (Lib.drain DualCodec.call [0xF7, 0x27, 2, 0, 0xF7, 0x27, 4, 0]).1 = [.w3gs 0x27 []]
      ∧ ∀ chunks ∈ [[[0xF7, 0x27, 2, 0, 0xF7, 0x27, 4, 0]],
        [[0xF7, 0x27, 2, 0], [0xF7, 0x27, 4, 0]]], readerLoop none (pollsOfStream chunks false) =
        ([.closed .peerClosed], some (.call .pause))
          ∧ ¬ReadsOn none (Lib.drain DualCodec.call chunks.flatten).1
            (readerLoop none (pollsOfStream chunks false)) := by
  have hitems : (Lib.drain DualCodec.call [0xF7, 0x27, 2, 0, 0xF7, 0x27, 4, 0]).1
      = [.error (.badValue (txt "frame length below header size")), .ok (.w3gs 0x27 [])] := by
    rfl
  refine ⟨by rw [hitems]; rfl, fun chunks hchunks => ?_⟩
  have hflat : chunks.flatten = [0xF7, 0x27, 2, 0, 0xF7, 0x27, 4, 0] := by
    rcases List.mem_cons.1 hchunks with rfl | hchunks
    · rfl
    · rw [List.mem_singleton.1 hchunks]
      rfl
  constructor
  · rcases List.mem_cons.1 hchunks with rfl | hchunks
    · rfl
    · rw [List.mem_singleton.1 hchunks]
      rfl
  · rw [reader_reads_on_iff, hflat, hitems]
    exact fun h => (nomatch h)

end Spectre

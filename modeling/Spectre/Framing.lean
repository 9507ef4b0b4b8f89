/-
The byte stream of a connection and the frames in it (`frame.rs`, and
the `DualCodec` of `conn.rs`).

Three kinds of frame share a stream, told apart by their first byte.
The codec skips what is no header, waits for a frame to be complete,
and steps one byte into a frame whose length field is too small, so
that it can find its feet again inside it. It is called on whatever has
arrived so far; `Lib.Decode` says why the cuts do not matter, once its
laws are known for the codec (`incremental_dualCodec`).

`advance`, `split_to` and `clear` are `drop` on the buffer. A search
for the next header followed by an advance to it, or by a clear if
there is none, is `dropWhile`.
-/
import Mathlib.Data.List.DropRight
import Spectre.Actor
import Spectre.Lib.Decode

namespace Spectre

/-- `Frame`. -/
structure Frame where
  id : UInt8
  payload : List UInt8
deriving DecidableEq, Repr

/-- `HEADER_LEN`. -/
def headerLen : Nat := 4

/-- `Frame::encode_with`. -/
def Frame.encodeWith (f : Frame) (header : UInt8) : Except ProtoError (List UInt8) :=
  let total := headerLen + f.payload.length
  if 65535 < total then .error (.tooLarge total)
  else .ok (header :: f.id :: u16le total ++ f.payload)

/-- `HeaderCodec::<H>::decode`. -/
def HeaderCodec.decode (h : UInt8) (src : List UInt8) :
    Except ProtoError (Option Frame) × List UInt8 :=
  let src := src.dropWhile fun b => b != h
  match src with
  | _ :: id :: lo :: hi :: body =>
      let total := lo.toNat + 256 * hi.toNat
      if total < headerLen then
        (.error (.badValue (txt "frame length below header size")), src.drop 1)
      else if src.length < total then (.ok none, src)
      else (.ok (some ⟨id, body.take (total - headerLen)⟩), body.drop (total - headerLen))
  | _ => (.ok none, src)

/-- `W3GS_HEADER`. -/
def w3gsHeader : UInt8 := 0xF7

/-- `GPS_HEADER`. -/
def gpsHeader : UInt8 := 0xF8

/-- `GPS_ICCUP_HEADER`. -/
def gpsIccupHeader : UInt8 := 0x6F

/-- The first bytes a frame may have. -/
def isHeader (b : UInt8) : Bool := b == w3gsHeader || b == gpsHeader || b == gpsIccupHeader

/-- `DualCodec::decode`. -/
def DualCodec.decode (src : List UInt8) : Except ProtoError (Option AnyFrame) × List UInt8 :=
  let src := src.dropWhile fun b => !isHeader b
  match src with
  | [] => (.ok none, [])
  | b :: _ =>
      if b = w3gsHeader then
        let r := HeaderCodec.decode w3gsHeader src
        (r.1.map fun f => f.map fun f => .w3gs f.id f.payload, r.2)
      else if b = gpsHeader then
        let r := HeaderCodec.decode gpsHeader src
        (r.1.map fun f => f.map fun f => .gps f.id f.payload, r.2)
      else
        let r := HeaderCodec.decode gpsIccupHeader src
        (r.1.map fun f => f.map fun f => .iccupGps f.id f.payload, r.2)

/-- A call as the reader sees it: a frame or an error, or a request for
more. -/
def DualCodec.call : Lib.Decode UInt8 (Except ProtoError AnyFrame) := fun src =>
  match DualCodec.decode src with
  | (.ok none, rest) => (none, rest)
  | (.ok (some f), rest) => (some (.ok f), rest)
  | (.error e, rest) => (some (.error e), rest)

-- =============================================================== one header

/-- The three kinds of frame a stream carries. -/
inductive Header where
  | w3gs
  | gps
  | iccupGps
deriving DecidableEq, Repr

namespace Header

/-- The first byte. -/
def byte : Header → UInt8
  | w3gs => w3gsHeader
  | gps => gpsHeader
  | iccupGps => gpsIccupHeader

/-- The frame as the codec hands it on. -/
def wrap : Header → Frame → AnyFrame
  | w3gs, f => .w3gs f.id f.payload
  | gps, f => .gps f.id f.payload
  | iccupGps, f => .iccupGps f.id f.payload

end Header

theorem isHeader_byte (h : Header) : isHeader h.byte = true := by
  cases h <;> rfl

theorem exists_header {b : UInt8} (hb : isHeader b = true) : ∃ h : Header, b = h.byte := by
  unfold isHeader at hb
  rw [Bool.or_eq_true, Bool.or_eq_true, beq_iff_eq, beq_iff_eq, beq_iff_eq] at hb
  rcases hb with (hb | hb) | hb
  · exact ⟨.w3gs, hb⟩
  · exact ⟨.gps, hb⟩
  · exact ⟨.iccupGps, hb⟩

/-- What the codec does with a buffer that starts with a header. -/
inductive Parsed (h : Header) (rest : List UInt8) : Option (Except ProtoError AnyFrame)
    → List UInt8 → Prop
  /-- the four bytes of the header are not all there -/
  | short (hlen : rest.length < 3) : Parsed h rest none (h.byte :: rest)
  /-- the length field is too small -/
  | bad {id lo hi : UInt8} {body : List UInt8} (he : rest = id :: lo :: hi :: body)
      (hsmall : lo.toNat + 256 * hi.toNat < 4) :
      Parsed h rest (some (.error (.badValue (txt "frame length below header size")))) rest
  /-- the payload is not all there -/
  | partly {id lo hi : UInt8} {body : List UInt8} (he : rest = id :: lo :: hi :: body)
      (hlarge : 4 ≤ lo.toNat + 256 * hi.toNat)
        (hlen : body.length + 4 < lo.toNat + 256 * hi.toNat) :
      Parsed h rest none (h.byte :: rest)
  /-- a frame -/
  | whole {id lo hi : UInt8} {payload tail : List UInt8}
      (he : rest = id :: lo :: hi :: (payload ++ tail))
      (hlen : lo.toNat + 256 * hi.toNat = 4 + payload.length) :
      Parsed h rest (some (.ok (h.wrap ⟨id, payload⟩))) tail

/-- Every buffer that starts with a header is one of these. -/
theorem exists_parsed (h : Header) (rest : List UInt8) : ∃ item left, Parsed h rest item left := by
  match rest with
  | [] => exact ⟨_, _, .short (by simp)⟩
  | [_] => exact ⟨_, _, .short (by simp)⟩
  | [_, _] => exact ⟨_, _, .short (by simp)⟩
  | id :: lo :: hi :: body =>
      by_cases hsmall : lo.toNat + 256 * hi.toNat < 4
      · exact ⟨_, _, .bad rfl hsmall⟩
      by_cases hlen : body.length + 4 < lo.toNat + 256 * hi.toNat
      · exact ⟨_, _, .partly rfl (by omega) hlen⟩
      · let n := lo.toNat + 256 * hi.toNat - 4
        have hbody : id :: lo :: hi :: body = id :: lo :: hi :: (body.take n ++ body.drop n) := by
          rw [List.take_append_drop]
        refine ⟨_, _, .whole hbody ?_⟩
        rw [List.length_take, Nat.min_eq_left (by omega)]
        omega

/-- A buffer that starts with a header is left to that header's
codec. -/
theorem decode_header (h : Header) (rest : List UInt8) :
    DualCodec.decode (h.byte :: rest)
      = let r := HeaderCodec.decode h.byte (h.byte :: rest)
        (r.1.map fun f => f.map h.wrap, r.2) := by
  unfold DualCodec.decode
  rw [List.dropWhile_cons_of_neg (by simp [isHeader_byte])]
  cases h <;> rfl

theorem headerCodec_header (b : UInt8) (rest : List UInt8) :
    HeaderCodec.decode b (b :: rest) = match rest with
      | id :: lo :: hi :: body =>
          let total := lo.toNat + 256 * hi.toNat
          if total < 4 then (.error (.badValue (txt "frame length below header size")), rest)
          else if body.length + 4 < total then (.ok none, b :: rest)
          else (.ok (some ⟨id, body.take (total - 4)⟩), body.drop (total - 4))
      | _ => (.ok none, b :: rest) := by
  unfold HeaderCodec.decode
  rw [List.dropWhile_cons_of_neg (by simp)]
  match rest with
  | [] => rfl
  | [_] => rfl
  | [_, _] => rfl
  | id :: lo :: hi :: body => rfl

/-- What a call gives on a buffer that starts with a header. -/
theorem call_of_parsed {h : Header} {rest left : List UInt8}
    {item : Option (Except ProtoError AnyFrame)}
    (hp : Parsed h rest item left) : DualCodec.call (h.byte :: rest) = (item, left) := by
  unfold DualCodec.call
  rw [decode_header, headerCodec_header]
  cases hp with
  | short hlen =>
      match rest, hlen with
      | [], _ => rfl
      | [_], _ => rfl
      | [_, _], _ => rfl
  | bad he hsmall =>
      subst he
      dsimp only
      rw [if_pos hsmall]
      rfl
  | partly he hlarge hlen =>
      subst he
      dsimp only
      rw [if_neg (by omega), if_pos hlen]
      rfl
  | @whole id lo hi payload tail he hlen =>
      subst he
      dsimp only
      rw [if_neg (by omega), if_neg (by rw [List.length_append]; omega), hlen,
        Nat.add_sub_cancel_left, List.take_left, List.drop_left]
      rfl

-- ================================================================== the codec

/-- Bytes that are no header are skipped. -/
theorem call_dropWhile (src : List UInt8) :
    DualCodec.call (src.dropWhile fun b => !isHeader b) = DualCodec.call src := by
  unfold DualCodec.call DualCodec.decode
  rw [List.dropWhile_idempotent _ src]

/-- A buffer is junk, or junk before a header. -/
theorem junk_cases (src : List UInt8) :
    (∀ b ∈ src, isHeader b = false) ∨ ∃ h : Header, ∃ rest,
      (src.dropWhile fun b => !isHeader b) = h.byte :: rest
        ∧ ∀ more, ((src ++ more).dropWhile fun b => !isHeader b) = h.byte :: (rest ++ more) := by
  induction src with
  | nil => exact .inl fun b hb => (nomatch hb)
  | cons b src ih =>
      by_cases hb : isHeader b = true
      · obtain ⟨h, rfl⟩ := exists_header hb
        refine .inr ⟨h, src, List.dropWhile_cons_of_neg (by simp [hb]), fun more => ?_⟩
        rw [List.cons_append, List.dropWhile_cons_of_neg (by simp [hb])]
      · rcases ih with hjunk | ⟨h, rest, hdrop, hmore⟩
        · refine .inl fun c hc => ?_
          rcases List.mem_cons.1 hc with rfl | hc
          · simpa using hb
          · exact hjunk c hc
        · refine .inr ⟨h, rest, ?_, fun more => ?_⟩
          · rw [List.dropWhile_cons_of_pos (by simpa using hb)]
            exact hdrop
          · rw [List.cons_append, List.dropWhile_cons_of_pos (by simpa using hb)]
            exact hmore more

theorem dropWhile_junk {src : List UInt8} (h : ∀ b ∈ src, isHeader b = false) (more : List UInt8) :
    ((src ++ more).dropWhile fun b => !isHeader b) = more.dropWhile fun b => !isHeader b := by
  induction src with
  | nil => rfl
  | cons b src ih =>
      rw [List.cons_append, List.dropWhile_cons_of_pos (by simp [h b List.mem_cons_self])]
      exact ih fun c hc => h c (List.mem_cons_of_mem _ hc)

/-- Everything a call can do: the buffer is junk, or the codec of the
first header in it has its say. -/
theorem call_cases (src : List UInt8) :
    (DualCodec.call src = (none, []) ∧ ∀ more, DualCodec.call (src ++ more) = DualCodec.call more) ∨
    ∃ h rest item left, Parsed h rest item left ∧ rest.length < src.length
      ∧ DualCodec.call src = (item, left)
      ∧ ∀ more, DualCodec.call (src ++ more) = DualCodec.call (h.byte :: (rest ++ more)) := by
  rcases junk_cases src with hjunk | ⟨h, rest, hdrop, hmore⟩
  · refine .inl ⟨?_, fun more => ?_⟩
    · rw [← call_dropWhile src, ← List.append_nil src, dropWhile_junk hjunk]
      rfl
    · rw [← call_dropWhile (src ++ more), dropWhile_junk hjunk, call_dropWhile]
  · obtain ⟨item, left, hp⟩ := exists_parsed h rest
    refine .inr ⟨h, rest, item, left, hp, ?_, ?_, fun more => ?_⟩
    · have hlen := (List.dropWhile_sublist (l := src) fun b => !isHeader b).length_le
      rw [hdrop, List.length_cons] at hlen
      exact hlen
    · rw [← call_dropWhile src, hdrop]
      exact call_of_parsed hp
    · rw [← call_dropWhile (src ++ more), hmore]

/-- An item stays when more follows. -/
theorem Parsed.found {h : Header} {rest left : List UInt8} {x : Except ProtoError AnyFrame}
    (hp : Parsed h rest (some x) left) (more : List UInt8) :
    Parsed h (rest ++ more) (some x) (left ++ more) := by
  cases hp with
  | bad he hsmall => exact .bad (by rw [he]; rfl) hsmall
  | whole he hlen => exact .whole (by rw [he]; simp) hlen

theorem Parsed.wait {h : Header} {rest left : List UInt8} (hp : Parsed h rest none left) :
    left = h.byte :: rest := by
  cases hp with
  | short _ => rfl
  | partly _ _ _ => rfl

/-- The codec meets the laws of a decoder on a growing buffer. -/
theorem incremental_dualCodec : Lib.Incremental DualCodec.call where
  empty := rfl
  shrinks src x left hcall := by
    rcases call_cases src with ⟨hjunk, -⟩ | ⟨h, rest, item, left', hp, hlt, hitem, -⟩
    · rw [hjunk] at hcall
      cases hcall
    · rw [hitem] at hcall
      cases hcall
      cases hp with
      | bad _ _ => exact hlt
      | whole he _ =>
          rw [he] at hlt
          simp only [List.length_cons, List.length_append] at hlt
          omega
  found src x left more hcall := by
    rcases call_cases src with ⟨hjunk, -⟩ | ⟨h, rest, item, left', hp, -, hitem, hmore⟩
    · rw [hjunk] at hcall
      cases hcall
    · rw [hitem] at hcall
      cases hcall
      rw [hmore]
      exact call_of_parsed (hp.found more)
  waits src left more hcall := by
    rcases call_cases src with ⟨hjunk, hmore⟩ | ⟨h, rest, item, left', hp, -, hitem, hmore⟩
    · rw [hjunk] at hcall
      cases hcall
      exact hmore more
    · rw [hitem] at hcall
      cases hcall
      rw [hmore, hp.wait]
      rfl

-- ================================================================= round trip

/-- The bytes of a frame, and the frame found at the head of them. -/
theorem call_encodeWith (h : Header) (f : Frame) (hlen : f.payload.length ≤ 65531) :
    ∃ bytes, f.encodeWith h.byte = .ok bytes
      ∧ ∀ tail, DualCodec.call (bytes ++ tail) = (some (.ok (h.wrap f)), tail) := by
  obtain ⟨lo, hi, hle, hn⟩ := u16le_toNat (n := 4 + f.payload.length) (by omega)
  refine ⟨h.byte :: f.id :: u16le (4 + f.payload.length) ++ f.payload, ?_, fun tail => ?_⟩
  · unfold Frame.encodeWith
    dsimp only
    rw [if_neg (by unfold headerLen; omega)]
    rfl
  · rw [hle]
    exact call_of_parsed (.whole (by simp) hn)

/-- Frames encoded one behind the other are read back one after the
other. -/
theorem drain_encoded (frames : List (Header × Frame))
    (hlen : ∀ e ∈ frames, e.2.payload.length ≤ 65531) :
    ∃ wire, frames.mapM (fun e => e.2.encodeWith e.1.byte) = .ok wire
      ∧ Lib.drain DualCodec.call wire.flatten = (frames.map fun e => .ok (e.1.wrap e.2), []) := by
  induction frames with
  | nil =>
      refine ⟨[], rfl, ?_⟩
      exact Lib.drain_wait incremental_dualCodec rfl
  | cons e frames ih =>
      obtain ⟨wire, hwire, hdrain⟩ := ih fun e he => hlen e (List.mem_cons_of_mem _ he)
      obtain ⟨bytes, hbytes, hcall⟩ := call_encodeWith e.1 e.2 (hlen e List.mem_cons_self)
      refine ⟨bytes :: wire, ?_, ?_⟩
      · rw [List.mapM_cons, hbytes, hwire]
        rfl
      · rw [List.flatten_cons, Lib.drain_item incremental_dualCodec (hcall _), hdrain]
        rfl

/-- Framing does not depend on how the stream was cut into reads, every
frame or error takes something off the buffer and so the loop that asks
for them ends, an error is a bad length field, and frames that were
encoded are decoded, however they were cut. -/
theorem framing_chunk_invariant :
    (∀ chunks : List (List UInt8),
      chunks.foldl (Lib.feed DualCodec.call) ([], []) = Lib.drain DualCodec.call chunks.flatten)
    ∧ (∀ src item rest, DualCodec.call src = (some item, rest) → rest.length < src.length)
    ∧ (∀ src, Lib.drainLoop DualCodec.call (src.length + 1) src
      = some (Lib.drain DualCodec.call src))
    ∧ (∀ src e rest, DualCodec.call src = (some (.error e), rest) → ∃ what, e = .badValue what)
    ∧ ∀ frames : List (Header × Frame), (∀ e ∈ frames, e.2.payload.length ≤ 65531) →
      ∃ wire, frames.mapM (fun e => e.2.encodeWith e.1.byte) = .ok wire
        ∧ ∀ chunks : List (List UInt8), chunks.flatten = wire.flatten →
          chunks.foldl (Lib.feed DualCodec.call) ([], [])
            = (frames.map fun e => .ok (e.1.wrap e.2), []) := by
  have hlaws := incremental_dualCodec
  refine ⟨Lib.feed_chunks hlaws, hlaws.shrinks,
    fun src => Lib.drainLoop_eq hlaws (Nat.lt_succ_self _), ?_, ?_⟩
  · intro src e rest hcall
    rcases call_cases src with ⟨hjunk, -⟩ | ⟨h, rest', item, left, hp, -, hitem, -⟩
    · rw [hjunk] at hcall
      cases hcall
    · rw [hitem] at hcall
      cases hcall
      cases hp with
      | bad _ _ => exact ⟨_, rfl⟩
  · intro frames hlen
    obtain ⟨wire, hwire, hdrain⟩ := drain_encoded frames hlen
    refine ⟨wire, hwire, fun chunks hchunks => ?_⟩
    rw [Lib.feed_chunks hlaws, hchunks]
    exact hdrain

end Spectre

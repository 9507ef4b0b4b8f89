/-
Adopting a reconnect (`handle_reconnect_connection` of `supervisor.rs`).

The task that puts a request to the games reads it off the socket by
itself, and only then makes the reader of the connection. What its reads
bring beyond the request stays in its buffer and is never decoded
(`second_frame_in_first_read_is_lost`). From then on the connection is
like any other, except that nobody has told the supervisor yet whose it
is: the notice comes over a queue of its own, and an event that overtakes
it finds no game.

A request is thirteen bytes long. How the stream was cut into reads is
seen by the reads of the task, and not by the codec's
(`framing_chunk_invariant`).
-/
import Spectre.Arrival
import Spectre.Framing
import Spectre.Supervisor

namespace Spectre

open Routing

-- ================================================================ the request

/-- The RECONNECT frame of a client. -/
def ReconnectReq.encode (req : ReconnectReq) : List UInt8 :=
  gpsHeader :: 0x02 :: u16le 13 ++ (req.pid :: u32le req.reconnectKey.toNat ++ u32le req.lastPacket)

/-- The reads before there is a reader: until there are thirteen bytes.
The buffer then, and the reads left to the reader; nothing if the stream
ends first. -/
def preRead (buf : List UInt8) : List (List UInt8) → Option (List UInt8 × List (List UInt8))
  | [] => if buf.length < 13 then none else some (buf, [])
  | chunk :: rest =>
      if buf.length < 13 then
        if chunk = [] then none else preRead (buf ++ chunk) rest
      else some (buf, chunk :: rest)

/-- Where the request starts in the buffer. -/
def requestPos (buf : List UInt8) : Option Nat :=
  (List.range (buf.length - 13 + 1)).find? fun i =>
    buf[i]? == some gpsHeader && buf[i + 1]? == some 0x02

/-- The request in the buffer. -/
def requestIn (buf : List UInt8) : Option ReconnectReq :=
  match requestPos buf with
  | none => none
  | some p => (decodeReconnect ((buf.drop (p + 4)).take 9)).toOption

-- ================================================================= the reader

/-- How tokio's `FramedRead` goes on after a decoding error, and the
reasons a connection closes for. -/
structure FramedRead where
  /-- it goes on decoding after an error -/
  resumes : Bool
  /-- the stream is at its end, as far as `next` says -/
  peerClosed : Text
  /-- the reads end, with no bytes left -/
  ending : Text
  /-- the reads end, with bytes left -/
  remaining : Text
  /-- the codec fails -/
  refused : ProtoError → Text

namespace FramedRead

/-- The loop of a connection's reader over what the codec gives it, with
the reason for the end of the stream. -/
def loop (fr : FramedRead) (last : Text) : List (Except ProtoError AnyFrame) → List ConnEventKind
  | [] => [.closed last]
  | .ok f :: rest => .frame f :: fr.loop last rest
  | .error (.badValue _) :: rest =>
    if fr.resumes then fr.loop last rest else [.closed fr.peerClosed]
  | .error e :: _ => [.closed (fr.refused e)]

/-- What a connection's reader sends, over all its reads. -/
def events (fr : FramedRead) (reads : List (List UInt8)) : List ConnEventKind :=
  let r := reads.foldl (Lib.feed DualCodec.call) ([], [])
  fr.loop (if r.2 = [] then fr.ending else fr.remaining) r.1

end FramedRead

section Proofs

-- ==================================================================== the bytes

/-- A request is read back from its payload. -/
theorem decodeReconnect_encode {req : ReconnectReq} (hlast : req.lastPacket < 2 ^ 32) :
    decodeReconnect (req.pid :: u32le req.reconnectKey.toNat ++ u32le req.lastPacket)
      = .ok req := by
  obtain ⟨a, b, c, d, hkey, hkeyNat⟩ := u32le_toNat (n := req.reconnectKey.toNat)
    req.reconnectKey.toNat_lt
  obtain ⟨a', b', c', d', hseq, hseqNat⟩ := u32le_toNat hlast
  rw [hkey, hseq]
  show Except.ok (ReconnectReq.mk req.pid
    (a.toNat + 256 * b.toNat + 65536 * c.toNat + 16777216 * d.toNat).toUInt32
    (a'.toNat + 256 * b'.toNat + 65536 * c'.toNat + 16777216 * d'.toNat)) = .ok req
  rw [hkeyNat, hseqNat, Nat.toUInt32_eq, UInt32.ofNat_toNat]

theorem encode_length (req : ReconnectReq) : req.encode.length = 13 := rfl

/-- A stream that starts with a request has the thirteen bytes, however
it is cut. -/
theorem preRead_some {buf : List UInt8} {reads : List (List UInt8)} (hreads : ∀ c ∈ reads, c ≠ [])
    (hlen : 13 ≤ (buf ++ reads.flatten).length) :
    ∃ taken rest, preRead buf reads = some (taken, rest) ∧ 13 ≤ taken.length
      ∧ taken ++ rest.flatten = buf ++ reads.flatten := by
  induction reads generalizing buf with
  | nil =>
      rw [List.flatten_nil, List.append_nil] at hlen
      refine ⟨buf, [], ?_, hlen, rfl⟩
      unfold preRead
      rw [if_neg (Nat.not_lt.2 hlen)]
  | cons chunk reads ih =>
      unfold preRead
      by_cases hshort : buf.length < 13
      · rw [if_pos hshort, if_neg (hreads chunk List.mem_cons_self)]
        have hsame : (buf ++ chunk) ++ reads.flatten = buf ++ (chunk :: reads).flatten := by
          rw [List.flatten_cons, List.append_assoc]
        rw [← hsame] at hlen ⊢
        exact ih (fun c hc => hreads c (List.mem_cons_of_mem _ hc)) hlen
      · rw [if_neg hshort]
        exact ⟨buf, chunk :: reads, rfl, Nat.not_lt.1 hshort, rfl⟩

/-- The request at the front of the buffer is the one that is found. -/
theorem requestIn_encode {req : ReconnectReq} (hlast : req.lastPacket < 2 ^ 32)
    (more : List UInt8) : requestIn (req.encode ++ more) = some req := by
  have hpos : requestPos (req.encode ++ more) = some 0 := by
    unfold requestPos
    rw [List.range_succ_eq_map]
    exact List.find?_cons_of_pos rfl
  unfold requestIn
  rw [hpos]
  show (decodeReconnect (req.pid :: u32le req.reconnectKey.toNat ++ u32le req.lastPacket)).toOption
    = some req
  rw [decodeReconnect_encode hlast]
  rfl

-- =============================================================== what fits in

/-- The bytes of a frame on the wire. -/
def ConnEventKind.weight : ConnEventKind → Nat
  | frame (.w3gs _ payload) | frame (.gps _ payload) | frame (.iccupGps _ payload) =>
      4 + payload.length
  | _ => 0

/-- The bytes of events on the wire. -/
def wireBytes (l : List ConnEventKind) : Nat := (l.map ConnEventKind.weight).sum

theorem wireBytes_cons (k : ConnEventKind) (l : List ConnEventKind) :
    wireBytes (k :: l) = k.weight + wireBytes l := rfl

theorem wireBytes_append (l m : List ConnEventKind) :
    wireBytes (l ++ m) = wireBytes l + wireBytes m := by
  unfold wireBytes
  rw [List.map_append, List.sum_append]

theorem weight_wrap (header : Header) (f : Frame) :
    (ConnEventKind.frame (header.wrap f)).weight = 4 + f.payload.length := by
  cases header <;> rfl

/-- A frame takes its bytes off the buffer. -/
theorem weight_of_call {src left : List UInt8} {f : AnyFrame}
    (h : DualCodec.call src = (some (.ok f), left)) :
    (ConnEventKind.frame f).weight + left.length ≤ src.length := by
  rcases call_cases src with ⟨hjunk, -⟩ | ⟨header, rest, item, left', hp, hlt, hitem, -⟩
  · rw [hjunk] at h
    cases h
  · rw [hitem] at h
    cases h
    cases hp with
    | whole he _ =>
        rw [he] at hlt
        simp only [List.length_cons, List.length_append] at hlt
        rw [weight_wrap]
        dsimp only
        omega

/-- The frames a reader sends were in its stream. -/
theorem wireBytes_loop (fr : FramedRead) (last : Text) (src : List UInt8) :
    wireBytes (fr.loop last (Lib.drain DualCodec.call src).1) ≤ src.length := by
  induction hn : src.length using Nat.strongRecOn generalizing src with
  | ind n ih =>
      subst hn
      have hlaws := incremental_dualCodec
      cases hcall : DualCodec.call src with
      | mk item left =>
          cases item with
          | none =>
              rw [Lib.drain_wait hlaws hcall]
              exact Nat.zero_le _
          | some x =>
              rw [Lib.drain_item hlaws hcall]
              have hshrinks := hlaws.shrinks _ _ _ hcall
              have hrest := ih left.length hshrinks left rfl
              cases x with
              | ok f =>
                  have hweight := weight_of_call hcall
                  show (ConnEventKind.frame f).weight
                    + wireBytes (fr.loop last (Lib.drain DualCodec.call left).1) ≤ src.length
                  omega
              | error e =>
                  have hclosed : ∀ reason, wireBytes [.closed reason] ≤ src.length :=
                    fun _ => Nat.zero_le _
                  cases e with
                  | badValue what =>
                      -- a bad header is skipped where the reader resumes, and its bytes count for
                      -- nothing
                      show wireBytes
                        (if fr.resumes then fr.loop last (Lib.drain DualCodec.call left).1
                        else [.closed fr.peerClosed]) ≤ src.length
                      split
                      · exact hrest.trans hshrinks.le
                      · exact hclosed _
                  | truncated need available => exact hclosed _
                  | unterminatedString => exact hclosed _
                  | tooLarge size => exact hclosed _

/-- Fewer events, fewer bytes. -/
theorem wireBytes_sublist {l m : List ConnEventKind} (h : l.Sublist m) :
    wireBytes l ≤ wireBytes m :=
  (h.map ConnEventKind.weight).sum_le_sum fun _ _ => Nat.zero_le _

/-- A frame that can be encoded is as long as its bytes. -/
theorem encodeWith_length {f : Frame} {header : UInt8} {bytes : List UInt8}
    (h : f.encodeWith header = .ok bytes) :
    bytes.length = 4 + f.payload.length ∧ f.payload.length ≤ 65531 := by
  unfold Frame.encodeWith headerLen at h
  dsimp only at h
  split at h
  · cases h
  · cases h
    refine ⟨?_, by omega⟩
    simp only [u16le, List.length_append, List.length_cons, List.length_nil]

/-- Frames one behind the other are as long as their bytes together. -/
theorem encoded_length {frames : List (Header × Frame)} {wire : List (List UInt8)}
    (hwire : frames.mapM (fun e => e.2.encodeWith e.1.byte) = .ok wire) :
    wire.flatten.length = wireBytes (frames.map fun e => .frame (e.1.wrap e.2))
      ∧ ∀ e ∈ frames, e.2.payload.length ≤ 65531 := by
  induction frames generalizing wire with
  | nil =>
      cases hwire
      exact ⟨rfl, fun e he => (nomatch he)⟩
  | cons e frames ih =>
      rw [List.mapM_cons] at hwire
      cases hbytes : e.2.encodeWith e.1.byte with
      | error err =>
          rw [hbytes] at hwire
          cases hwire
      | ok bytes =>
          rw [hbytes] at hwire
          cases hrest : frames.mapM fun e => e.2.encodeWith e.1.byte with
          | error err =>
              rw [hrest] at hwire
              cases hwire
          | ok rest =>
              rw [hrest] at hwire
              cases hwire
              obtain ⟨hlen, hsmall⟩ := ih hrest
              obtain ⟨hone, hfits⟩ := encodeWith_length hbytes
              refine ⟨?_, fun e' he' => ?_⟩
              · rw [List.flatten_cons, List.length_append, hlen, hone, List.map_cons,
                  wireBytes_cons, weight_wrap]
              · rcases List.mem_cons.1 he' with rfl | he'
                · exact hfits
                · exact hsmall e' he'

-- ============================================================== the whole way

variable [RustStd] {r : Routing} {connId game : Nat}

omit [RustStd] in
/-- What the adopting game handles was decoded. -/
theorem Routing.Accounted.reached_sublist (h : r.Accounted connId game) :
    (r.reached connId game).Sublist (r.decoded connId) := by
  have htaken : (takenBy game (r.passed connId)).Sublist ((r.passed connId).map Prod.fst) :=
    List.filter_sublist.map Prod.fst
  rw [h.taken] at htaken
  rw [h.decoded, List.append_assoc]
  exact ((List.sublist_append_left _ _).trans htaken).trans (List.sublist_append_left _ _)

omit [RustStd] in
theorem FramedRead.loop_frames (fr : FramedRead) (last : Text) (frames : List (Header × Frame)) :
    fr.loop last (frames.map fun e => .ok (e.1.wrap e.2))
      = (frames.map fun e => .frame (e.1.wrap e.2)) ++ [.closed last] := by
  induction frames with
  | nil => rfl
  | cons e frames ih =>
      show ConnEventKind.frame (e.1.wrap e.2)
        :: fr.loop last (frames.map fun e => .ok (e.1.wrap e.2)) = _
      rw [ih]
      rfl

omit [RustStd] in
/-- The frames a reader sends are no more than its reads hold. -/
theorem wireBytes_events (fr : FramedRead) (reads : List (List UInt8)) :
    wireBytes (fr.events reads) ≤ reads.flatten.length := by
  unfold FramedRead.events
  rw [Lib.feed_chunks incremental_dualCodec]
  exact wireBytes_loop fr _ _

omit [RustStd] in
/-- A stream of frames that was encoded is read as these frames. -/
theorem events_encoded (fr : FramedRead) {frames : List (Header × Frame)}
    {wire reads : List (List UInt8)}
    (hwire : frames.mapM (fun e => e.2.encodeWith e.1.byte) = .ok wire)
    (hreads : reads.flatten = wire.flatten) :
    fr.events reads = (frames.map fun e => .frame (e.1.wrap e.2)) ++ [.closed fr.ending] := by
  obtain ⟨wire', hwire', hdrain⟩ := drain_encoded frames (encoded_length hwire).2
  rw [hwire] at hwire'
  rw [← Except.ok.inj hwire'] at hdrain
  unfold FramedRead.events
  rw [Lib.feed_chunks incremental_dualCodec, hreads, hdrain]
  dsimp only
  rw [if_pos rfl, fr.loop_frames]

/-- For every request and all frames after it, every way to cut the
stream into reads, and every run in which all of it is decoded and gets
as far as it gets: the request is found, and the game has handled all
frames and the end of the connection, once and in order, exactly if the
reads before there was a reader took the request and no byte more, and
every event that was routed found the connection with the game and room
in the game's command queue. -/
theorem adoption_delivers_iff (fr : FramedRead) {req : ReconnectReq}
    (hlast : req.lastPacket < 2 ^ 32) {frames : List (Header × Frame)}
    {wire reads : List (List UInt8)}
    (hwire : frames.mapM (fun e => e.2.encodeWith e.1.byte) = .ok wire)
    (hreads : reads.flatten = req.encode ++ wire.flatten) (hnone : ∀ c ∈ reads, c ≠ []) :
    ∃ buf rest, preRead [] reads = some (buf, rest) ∧ requestIn buf = some req
      ∧ ∀ (r : Routing) (connId game : Nat), r.Unheard connId game →
        ∀ acts, (run acts r).decoded connId = fr.events rest →
          (run acts r).underway connId game = [] →
          ((run acts r).reached connId game
              = (frames.map fun e => .frame (e.1.wrap e.2)) ++ [.closed fr.ending]
            ↔ buf.length = 13 ∧ Along (Taken connId game) r acts) := by
  have hlong : 13 ≤ (([] : List UInt8) ++ reads.flatten).length := by
    rw [List.nil_append, hreads, List.length_append, encode_length]
    omega
  obtain ⟨buf, rest, hpre, hlen, hsplit⟩ := preRead_some hnone hlong
  rw [List.nil_append, hreads] at hsplit
  have hexact : buf.length = 13 → rest.flatten = wire.flatten := fun h13 =>
    (List.append_inj hsplit (h13.trans (encode_length req).symm)).2
  refine ⟨buf, rest, hpre, ?_, fun r connId game hstart acts hdecoded hway => ?_⟩
  · have hprefix : req.encode <+: buf :=
      List.prefix_of_prefix_length_le ⟨wire.flatten, rfl⟩ ⟨rest.flatten, hsplit⟩ hlen
    obtain ⟨more, rfl⟩ := hprefix
    exact requestIn_encode hlast more
  · have haccounted := hstart.accounted.run acts
    have hiff := haccounted.reached_iff
    rw [hway, List.append_nil, allTaken_run_iff] at hiff
    have hnew : r.AllTaken connId game := by
      unfold AllTaken
      rw [hstart.passed]
      exact fun x hx => (nomatch hx)
    refine ⟨fun hreached => ?_, fun ⟨h13, htaken⟩ => ?_⟩
    · -- the frames handled are in the bytes the reader got
      have hbytes := (wireBytes_sublist haccounted.reached_sublist).trans
        (hdecoded ▸ wireBytes_events fr rest)
      rw [hreached, wireBytes_append, ← (encoded_length hwire).1] at hbytes
      have htotal := congrArg List.length hsplit
      rw [List.length_append, List.length_append, encode_length] at htotal
      have h13 : buf.length = 13 := by omega
      refine ⟨h13, (hiff.1 ?_).2⟩
      rw [hreached, hdecoded, events_encoded fr hwire (hexact h13)]
    · rw [hiff.2 ⟨hnew, htaken⟩, hdecoded, events_encoded fr hwire (hexact h13)]

end Proofs

-- ============================================================= one frame follows

section Runs

open Scenario

/-- A reader that stops at a decoding error. -/
def stopping : FramedRead where
  resumes := false
  peerClosed := txt "peer closed"
  ending := txt "peer closed"
  remaining := txt "bytes remaining on stream"
  refused _ := txt "protocol error"

/-- The game 0 holds the seat of its first player; nothing is on its way
to it, and the connection 9 is new. -/
def awaiting : Routing :=
  { twoConnections with
    connToGame := fun _ => none
    state := fun _ => heldGame }

/-- The game takes the player back. -/
def granted : List RoutingAction :=
  [.send 0 (.adoptReconnect 9 heldRequest .drained), .handle 0 (env 7)]

/-- The notice reaches the supervisor. -/
def noticed : List RoutingAction := [.announce 9 0, .adopt]

/-- An event of the connection is decoded, routed and handled. -/
def arrives (k : ConnEventKind) : List RoutingAction :=
  [.decode 9 k, .queue 9, .route, .handle 0 (env 7)]

/-- The bytes of a keepalive. -/
def keepaliveBytes : List UInt8 := w3gsHeader :: 0x27 :: u16le 9 ++ ([0] ++ u32le 1)

/-- The reason is printed as it is. -/
def endOfStream : ConnEventKind := .closed (txt "peer closed")

theorem awaiting_unheard : awaiting.Unheard 9 0 := ⟨rfl, rfl, rfl, rfl⟩

/-- The request comes in a read of its own, and the notice before the
keepalive. -/
theorem adoption_delivers_iff_keepalive :
    (run (granted ++ noticed ++ arrives keepaliveKind ++ arrives endOfStream) awaiting).reached 9 0
        = [keepaliveKind, endOfStream] := by
  have hwire : ([(.w3gs, ⟨0x27, [0] ++ u32le 1⟩)] : List (Header × Frame)).mapM
      (fun e => e.2.encodeWith e.1.byte) = .ok [keepaliveBytes] := rfl
  have hlast : heldRequest.lastPacket < 2 ^ 32 := by decide
  have hreads : [heldRequest.encode, keepaliveBytes].flatten
      = heldRequest.encode ++ [keepaliveBytes].flatten := rfl
  obtain ⟨buf, rest, hpre, -, hall⟩ := adoption_delivers_iff stopping hlast hwire hreads (by decide)
  have hread : preRead [] [heldRequest.encode, keepaliveBytes]
      = some (heldRequest.encode, [keepaliveBytes]) := by decide
  obtain ⟨rfl, rfl⟩ := Prod.mk.inj (Option.some.inj (hpre.symm.trans hread))
  have hevents : stopping.events [keepaliveBytes] = _ := events_encoded stopping hwire rfl
  refine (hall awaiting 9 0 awaiting_unheard _ ?_ ?_).2 ⟨rfl, ?_⟩
  · rw [hevents]
    decide +kernel
  · decide +kernel
  · have hquiet : ∀ {r : Routing} {a : RoutingAction}, a ≠ .route → Taken 9 0 r a :=
      fun hne h => absurd h hne
    refine ⟨hquiet nofun, hquiet nofun, hquiet nofun, hquiet nofun, hquiet nofun, hquiet nofun,
      fun _ _ _ _ => ?_, hquiet nofun, hquiet nofun, hquiet nofun, fun _ _ _ _ => ?_, hquiet nofun,
      trivial⟩
    · decide +kernel
    · decide +kernel

/-- A keepalive that came in the read that brought the request is never
decoded, whatever the order; and one that came by itself finds no game if
it is routed before the notice is. The game has taken the player back
both times. -/
theorem second_frame_in_first_read_is_lost :
    (heldGame.handleGpsReconnect 9 heldRequest .drained).2 = true
      ∧ preRead [] [heldRequest.encode ++ keepaliveBytes]
        = some (heldRequest.encode ++ keepaliveBytes, [])
      ∧ stopping.events [] = [endOfStream]
      ∧ (run (granted ++ noticed ++ arrives endOfStream) awaiting).reached 9 0 = [endOfStream]
      ∧ preRead [] [heldRequest.encode, keepaliveBytes]
        = some (heldRequest.encode, [keepaliveBytes])
      ∧ stopping.events [keepaliveBytes] = [keepaliveKind, endOfStream]
      ∧ (run (granted ++ arrives keepaliveKind ++ noticed ++ arrives endOfStream) awaiting).reached
        9 0
        = [endOfStream] := by
  refine ⟨?_, ?_, ?_, ?_, ?_, ?_, ?_⟩
  · decide +kernel
  · decide +kernel
  · decide +kernel
  · decide +kernel
  · decide +kernel
  · decide +kernel
  · decide +kernel

end Runs

end Spectre

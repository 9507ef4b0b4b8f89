/-
A viewer's connection to the live stream (`dotatv_server.rs`).

The mode byte a viewer sends decides what it is served: a bootstrap, the
frames from an index on, the chat between viewers, or when a frame will
be due. On the public port frames are held back for the stream delay.

A run interleaves what happens to the body being published with the
steps of one viewer's task. What other viewers do to the shared state is
a flush at most, which is one of the body's operations. An instant is
read wherever the source calls `Instant::now`; a run is chronological
if these never go back.
-/
import Spectre.Bootstrap

namespace Spectre.DotaTv

-- ====================================================== what the stream shows

namespace DotaTvStream

/-- `count_delayed`: the frames that are old enough. -/
def countDelayed (s : DotaTvStream) (now delayMs : Nat) : Nat :=
  if delayMs = 0 then s.frames.length
  else if now < delayMs then 0
  else (s.frameTimes.takeWhile fun t => t ≤ now - delayMs).length

/-- `status`: whether a frame is ready, and if not in how many seconds. -/
def status (s : DotaTvStream) (now startIndex delayMs : Nat) : Bool × Nat :=
  if delayMs = 0 ∨ s.frames.length ≤ startIndex then (true, 0)
  else if startIndex < s.countDelayed now delayMs then (true, 0)
  else (false, (delayMs - (now - s.frameTimes.getD startIndex 0)) / 1000)

/-- `bootstrap_full`; `none` is one of its `expect`s. -/
def bootstrapFull [Zlib] (s : DotaTvStream) (replayLengthMs : Nat) : Option (List UInt8 × Nat) :=
  match inflate s.frames with
  | none => none
  | some body =>
      let writer : W3gWriter :=
        { war3Version := s.war3Version, build := s.build, tft := s.tft
          replayLengthMs := replayLengthMs }
      let aligned := (body.length + chunkSize - 1) / chunkSize * chunkSize
      let padded := resize (padTimeslots aligned aligned body) aligned
      match writer.packChunkAlignedDeclaring padded aligned with
      | none => none
      | some file => some (file, s.frames.length % 2 ^ 32)

end DotaTvStream

-- ============================================================== one connection

/-- What is written to a connection. -/
inductive Written where
  | greeting
  | bootstrap (startIndex : Nat) (file : List UInt8)
  | frame (c : Chunk)
  | status (ready : Bool) (secs : Nat)
  | chat (bytes : List UInt8)
deriving DecidableEq, Repr

/-- Its bytes. -/
def Written.bytes : Written → List UInt8
  | .greeting => txt "DTV1"
  | .bootstrap startIndex file => u32le startIndex ++ u32le file.length ++ file
  | .frame c => c.frame
  | .status ready secs => (if ready then 1 else 0) :: u32le (min secs (2 ^ 32 - 1))
  | .chat bytes => bytes

/-- It carries game data. -/
def Written.isGame : Written → Bool
  | .bootstrap .. | .frame _ => true
  | _ => false

/-- Where the task of a connection stands: what it waits for, or which
frames of the current batch it still has to write. -/
inductive Conn where
  | accepted
  | mode
  | bootstrap
  | bootstrapFull
  | status
  | streamIndex (delayMs : Nat)
  | streaming (delayMs cursor : Nat) (batch : List Chunk)
  | chat
  | closed
deriving DecidableEq, Repr

/-- The shared state and one connection to it. -/
structure Viewing where
  live : Live
  forceLive : Bool := false
  nextChatId : Nat := 1
  conn : Conn := .accepted
  written : List (Nat × Written) := []
deriving DecidableEq, Repr

/-- What may happen to the task of a connection: it goes on after an
await, the mode byte or the four bytes of a request are read, a chat
message is relayed to it, or it ends with an error. -/
inductive ViewerEvent where
  | go
  | mode (b : UInt8)
  | request (index : Nat)
  | chat (bytes : List UInt8)
  | fail
deriving DecidableEq, Repr

namespace Viewing

/-- The stream a connection is served from. -/
def stream (w : Viewing) : DotaTvStream := w.live.shared.stream

/-- `stream_delay`. -/
def delayMs (w : Viewing) : Nat := w.live.shared.streamDelayMs

/-- `write_all`. -/
def write (w : Viewing) (now : Nat) (x : Written) : Viewing :=
  { w with written := w.written ++ [(now, x)] }

/-- The delay a mode applies that knows of an admin port. -/
def portDelay (w : Viewing) : Nat := if w.forceLive then 0 else w.delayMs

/-- The match of `serve_viewer_with` on the mode byte. -/
def dispatch (w : Viewing) (now : Nat) (b : UInt8) : Viewing :=
  if b = 0 then { w with conn := .bootstrap }
  else if b = 2 then { w with conn := .bootstrapFull }
  else if b = 3 then
    { w.write now (.chat (u32le w.nextChatId)) with
      nextChatId := (w.nextChatId + 1) % 2 ^ 32, conn := .chat }
  else if b = 1 then { w with conn := .streamIndex w.portDelay }
  else if b = 4 then { w with conn := .streamIndex 0 }
  else if b = 5 then { w with conn := .status }
  else { w with conn := .closed }

/-- `serve_status`, once the index is read. -/
def serveStatus (w : Viewing) (now index : Nat) : Viewing :=
  let r := w.stream.status now index w.portDelay
  { w.write now (.status r.1 r.2) with conn := .closed }

variable [Zlib]

/-- `serve_bootstrap` and `serve_bootstrap_full`, once the request is
read: refused before the first frame. -/
def serveFile (w : Viewing) (now : Nat)
    (file : DotaTvStream → Nat → Option (List UInt8 × Nat)) : Viewing :=
  let w := { w with live := w.live.flushPending fun _ => now }
  if w.stream.frames.length = 0 then { w with conn := .closed }
  else match file w.stream w.live.shared.replayLengthMs with
    | none => { w with conn := .closed }
    | some (bytes, startIndex) => { w.write now (.bootstrap startIndex bytes) with conn := .closed }

/-- `serve_stream_with`, once the index is read. -/
def startStream (w : Viewing) (delayMs index : Nat) : Viewing :=
  if w.stream.frames.length < index then { w with conn := .closed }
  else { w with conn := .streaming delayMs index [] }

/-- The batch its loop takes. -/
def batchAt (w : Viewing) (now delayMs cursor : Nat) : List Chunk :=
  (w.stream.frames.take (w.stream.countDelayed now delayMs)).drop cursor

/-- One step of a connection's task. -/
def serve (w : Viewing) (now : Nat) (e : ViewerEvent) : Viewing :=
  match w.conn, e with
  | _, .fail => { w with conn := .closed }
  | .accepted, .go => { w.write now .greeting with conn := .mode }
  | .mode, .mode b => w.dispatch now b
  | .bootstrap, .request _ => w.serveFile now DotaTvStream.bootstrap
  | .bootstrapFull, .request _ => w.serveFile now DotaTvStream.bootstrapFull
  | .status, .request index => w.serveStatus now index
  | .streamIndex delayMs, .request index => w.startStream delayMs index
  | .streaming delayMs cursor [], .go =>
      { w with conn := .streaming delayMs cursor (w.batchAt now delayMs cursor) }
  | .streaming delayMs cursor (c :: rest), .go =>
      { w.write now (.frame c) with conn := .streaming delayMs (cursor + 1) rest }
  | .chat, .chat bytes => w.write now (.chat bytes)
  | _, _ => w

end Viewing

-- ======================================================================= runs

/-- What may happen: something to the body and its stream, or a step of
the connection's task with the instant it reads. -/
inductive ServeEvent where
  | game (o : LiveOp)
  | viewer (now : Nat) (e : ViewerEvent)

/-- The instants an operation may read. -/
def LiveOp.Reads : LiveOp → Nat → Prop
  | .flushPending clock, t => ∃ k, clock k = t
  | .publishPending clock, t => ∃ i k, clock i k = t
  | _, _ => False

namespace ServeEvent

/-- The instants an event may read. -/
def Reads : ServeEvent → Nat → Prop
  | game o, t => o.Reads t
  | viewer now _, t => now = t

/-- The viewer's part of an event. -/
def viewerPart : ServeEvent → Option (Nat × ViewerEvent)
  | game _ => none
  | viewer now e => some (now, e)

/-- The event can still belong to a run up to `T` that has nothing in
common with another from `T - delayMs` on. -/
def Within (T delayMs : Nat) : ServeEvent → Prop
  | game o => ∀ t, o.Reads t → T < t + delayMs
  | viewer now _ => now ≤ T

end ServeEvent

/-- Instants never go back from one event to a later one. -/
def Chronological (es : List ServeEvent) : Prop :=
  es.Pairwise fun a b => ∀ s t, a.Reads s → b.Reads t → s ≤ t

/-- No mode byte that is served regardless of the delay, unless there is
none. -/
def Delayed (delayMs : Nat) (es : List ServeEvent) : Prop :=
  delayMs = 0 ∨ ∀ now b, .viewer now (.mode b) ∈ es → b ≠ 0 ∧ b ≠ 2 ∧ b ≠ 4

namespace Viewing

variable [Zlib]

/-- One event. -/
def event (w : Viewing) : ServeEvent → Viewing
  | .game o => { w with live := (w.live.op o).2 }
  | .viewer now e => w.serve now e

/-- Events one after another. -/
def run : List ServeEvent → Viewing → Viewing
  | [], w => w
  | e :: rest, w => run rest (w.event e)

/-- The game data written, and when. -/
def gameWrites (w : Viewing) : List (Nat × Written) := w.written.filter fun x => x.2.isGame

end Viewing

-- ============================================================== frames are added

section Proofs

variable [Zlib]

/-- A stream has got more frames, each stamped with an instant that
satisfies a predicate. -/
structure Appends (P : Nat → Prop) (s t : DotaTvStream) : Prop where
  more : ∃ frames times, t.frames = s.frames ++ frames ∧ t.frameTimes = s.frameTimes ++ times
    ∧ frames.length = times.length ∧ ∀ x ∈ times, P x

variable {P : Nat → Prop} {s t u : DotaTvStream}

omit [Zlib] in
/-- Nothing has come. -/
theorem Appends.refl (s : DotaTvStream) : Appends P s s :=
  ⟨[], [], (List.append_nil _).symm, (List.append_nil _).symm, rfl, fun _ h => by cases h⟩

omit [Zlib] in
/-- First these, then those. -/
theorem Appends.trans (h : Appends P s t) (k : Appends P t u) : Appends P s u := by
  obtain ⟨fs, ts, hf, ht, hlen, hP⟩ := h.more
  obtain ⟨gs, us, hg, hu, hlen', hQ⟩ := k.more
  refine ⟨fs ++ gs, ts ++ us, ?_, ?_, ?_, ?_⟩
  · rw [hg, hf, List.append_assoc]
  · rw [hu, ht, List.append_assoc]
  · rw [List.length_append, List.length_append, hlen, hlen']
  · intro x hx
    rcases List.mem_append.1 hx with hx | hx
    · exact hP x hx
    · exact hQ x hx

omit [Zlib] in
/-- A weaker word on the instants. -/
theorem Appends.mono {Q : Nat → Prop} (h : Appends P s t) (himp : ∀ x, P x → Q x) :
    Appends Q s t := by
  obtain ⟨fs, ts, hf, ht, hlen, hP⟩ := h.more
  exact ⟨fs, ts, hf, ht, hlen, fun x hx => himp x (hP x hx)⟩

/-- The loop of a flush stamps its frames with the instants it reads. -/
theorem appends_flushLoop {clock : Nat → Nat} (hclock : ∀ k, P (clock k)) (fuel cut : Nat)
    (s : DotaTvStream) : Appends P s (s.flushLoop clock fuel cut).2 := by
  induction fuel generalizing s cut with
  | zero => exact .refl s
  | succ fuel ih =>
      unfold DotaTvStream.flushLoop
      by_cases hmore : s.framedLen < s.raw.length
      · rw [if_pos hmore]
        cases hcut : s.cutFrame (clock cut) with
        | error e => exact .refl s
        | ok t =>
            refine Appends.trans ?_ (ih (cut + 1) t)
            unfold DotaTvStream.cutFrame at hcut
            dsimp only at hcut
            split at hcut
            · cases hcut
            · cases hcut
              refine ⟨[_], [_], rfl, rfl, rfl, ?_⟩
              intro x hx
              rw [List.mem_singleton.1 hx]
              exact hclock cut
      · rw [if_neg hmore]
        exact .refl s

/-- So does the flush. -/
theorem appends_flush {clock : Nat → Nat} (hclock : ∀ k, P (clock k)) (s : DotaTvStream) :
    Appends P s (s.flush clock).2 := by
  have hloop := appends_flushLoop hclock (s.raw.length - s.framedLen) 0 s
  unfold DotaTvStream.flush DotaTvStream.flushTrimming
  generalize s.flushLoop clock (s.raw.length - s.framedLen) 0 = r at hloop
  obtain ⟨r, t⟩ := r
  cases r with
  | error e => exact hloop
  | ok n =>
      dsimp only
      split
      · exact hloop.trans ⟨[], [], (List.append_nil _).symm, (List.append_nil _).symm, rfl,
          fun _ h => by cases h⟩
      · exact hloop

/-- What an operation on the body does to the shared state: more frames,
and the delay stays. -/
structure Grows (P : Nat → Prop) (l m : Live) : Prop where
  stream : Appends P l.shared.stream m.shared.stream
  delay : m.shared.streamDelayMs = l.shared.streamDelayMs

omit [Zlib] in
/-- One operation after another. -/
theorem Grows.trans {l m n : Live} (h : Grows P l m) (k : Grows P m n) : Grows P l n :=
  ⟨h.stream.trans k.stream, k.delay.trans h.delay⟩

/-- A send pushes bytes and flushes. -/
theorem grows_send {clock : Nat → Nat} (hclock : ∀ k, P (clock k)) (l : Live)
    (bytes : List UInt8) : Grows P l (l.send bytes clock).2 := by
  rw [send_snd]
  have hflush := appends_flush hclock (l.shared.stream.pushBody bytes)
  exact ⟨⟨hflush.more⟩, rfl⟩

omit [Zlib] in
/-- A drained body leaves the stream as it is. -/
theorem grows_afterDrain (l : Live) : Grows P l l.afterDrain := by
  obtain heq | ⟨pid, message, ms, heq⟩ := heartbeat_cases l
  · exact ⟨by show Appends P _ l.heartbeat.shared.stream; rw [heq]; exact .refl _,
      by show l.heartbeat.shared.streamDelayMs = _; rw [heq]⟩
  · exact ⟨by show Appends P _ l.heartbeat.shared.stream; rw [heq]; exact .refl _,
      by show l.heartbeat.shared.streamDelayMs = _; rw [heq]⟩

/-- Blocks that are published are frames of their instants. -/
theorem grows_publishBlocks {clock : Nat → Nat} (hclock : ∀ k, P (clock k)) (l : Live) :
    Grows P l (l.publishBlocks clock).2 := by
  have hdrain : Grows P l l.afterDrain := grows_afterDrain l
  rw [publishBlocks_eq]
  split
  · exact ⟨⟨hdrain.stream.more⟩, hdrain.delay⟩
  · have hsend := hdrain.trans (grows_send hclock l.afterDrain l.heartbeat.undrained)
    obtain heq | heq := andThen_snd (l.afterDrain.send l.heartbeat.undrained clock)
      fun l => (.ok (), l.noteLength)
    · rw [heq]
      exact hsend
    · rw [heq]
      exact ⟨⟨hsend.stream.more⟩, hsend.delay⟩

/-- The loop over what is pending, each round with its own clock. -/
theorem grows_publishPending {clock : Nat → Nat → Nat} (hclock : ∀ i k, P (clock i k))
    (l : Live) : Grows P l (l.publishPending clock).2 := by
  unfold Live.publishPending
  split
  · exact grows_publishBlocks (hclock 1) l
  · split
    · exact ⟨.refl _, rfl⟩
    · rename_i p _
      have hsend := grows_send (hclock 0) l p
      obtain heq | heq := andThen_snd (l.send p (clock 0)) fun l => Live.publishBlocks
        { l.withStream l.shared.stream.markPrologueEnd with prologueSent := true } (clock 1)
      · rw [heq]
        exact hsend
      · rw [heq]
        have hmark : Grows P (l.send p (clock 0)).2 (l.send p (clock 0)).2.afterPrologue :=
          ⟨⟨(Appends.refl _).more⟩, rfl⟩
        exact (hsend.trans hmark).trans (grows_publishBlocks (hclock 1) _)

/-- An operation adds frames stamped with instants it reads. -/
theorem grows_op (l : Live) (o : LiveOp) : Grows o.Reads l (l.op o).2 := by
  cases o with
  | addTimeslot inc actions => exact ⟨.refl _, rfl⟩
  | addTimeslot2 actions => exact ⟨.refl _, rfl⟩
  | addChat pid flag extra message => exact ⟨.refl _, rfl⟩
  | addLeaver pid reason result => exact ⟨.refl _, rfl⟩
  | enableHeartbeat pid => exact ⟨.refl _, rfl⟩
  | flushPending clock => exact ⟨appends_flush (fun k => ⟨k, rfl⟩) _, rfl⟩
  | publishPending clock => exact grows_publishPending (fun i k => ⟨i, k, rfl⟩) l

-- ========================================================= frames are old enough

/-- A frame of the stream has reached an age. -/
def Aged (s : DotaTvStream) (age now : Nat) (c : Chunk) : Prop :=
  ∃ i t : Nat, s.frames[i]? = some c ∧ s.frameTimes[i]? = some t ∧ age ≤ now - t

omit [Zlib] in
/-- Frames do not get younger. -/
theorem Aged.mono {age now later : Nat} {c : Chunk} (h : Aged s age now c) (hle : now ≤ later)
    (hst : Appends P s t) : Aged t age later c := by
  obtain ⟨i, x, hi, hx, hage⟩ := h
  obtain ⟨fs, ts, hf, ht, -, -⟩ := hst.more
  refine ⟨i, x, ?_, ?_, by omega⟩
  · rw [hf, List.getElem?_append_left (List.getElem?_eq_some_iff.1 hi).1]
    exact hi
  · rw [ht, List.getElem?_append_left (List.getElem?_eq_some_iff.1 hx).1]
    exact hx

omit [Zlib] in
/-- What `count_delayed` counts has the age. -/
theorem aged_of_lt_countDelayed {i now age : Nat} {c : Chunk}
    (hlen : s.frames.length = s.frameTimes.length) (hi : s.frames[i]? = some c)
    (hcount : i < s.countDelayed now age) : Aged s age now c := by
  obtain ⟨hlt, -⟩ := List.getElem?_eq_some_iff.1 hi
  unfold DotaTvStream.countDelayed at hcount
  by_cases hage : age = 0
  · refine ⟨i, s.frameTimes[i], hi, List.getElem?_eq_getElem (hlen ▸ hlt), ?_⟩
    rw [hage]
    exact Nat.zero_le _
  · rw [if_neg hage] at hcount
    by_cases hearly : now < age
    · rw [if_pos hearly] at hcount
      exact absurd hcount (Nat.not_lt_zero i)
    · rw [if_neg hearly] at hcount
      obtain ⟨rest, hrest⟩ :=
        List.takeWhile_prefix (p := fun t => decide (t ≤ now - age)) (l := s.frameTimes)
      have hget : s.frameTimes[i]?
          = some (s.frameTimes.takeWhile fun t => decide (t ≤ now - age))[i] := by
        conv => lhs; rw [← hrest]
        rw [List.getElem?_append_left hcount, List.getElem?_eq_getElem hcount]
      have hold : (s.frameTimes.takeWhile fun t => decide (t ≤ now - age))[i] ≤ now - age := by
        have hall := List.all_takeWhile (p := fun t => decide (t ≤ now - age)) (l := s.frameTimes)
        exact of_decide_eq_true (List.all_eq_true.1 hall _ (List.getElem_mem hcount))
      exact ⟨i, _, hi, hget, by omega⟩

/-- The task stands where the mode it was asked for respects the
delay. -/
def Honest (delayMs : Nat) : Conn → Prop
  | .bootstrap | .bootstrapFull => delayMs = 0
  | .streamIndex d | .streaming d _ _ => d = delayMs
  | _ => True

/-- Every frame written was old enough when it was, and so is every
frame about to be. -/
structure Held (delayMs last : Nat) (w : Viewing) : Prop where
  lengths : w.stream.frames.length = w.stream.frameTimes.length
  delay : w.delayMs = delayMs
  port : w.forceLive = false
  honest : Honest delayMs w.conn
  batch : ∀ d cursor batch, w.conn = .streaming d cursor batch →
    ∀ c ∈ batch, Aged w.stream delayMs last c
  written : ∀ now c, (now, .frame c) ∈ w.written → Aged w.stream delayMs now c

variable {w : Viewing} {delayMs last now : Nat}

omit [Zlib] in
/-- What was old enough is so later. -/
theorem Held.later (h : Held delayMs last w) (hle : last ≤ now) : Held delayMs now w :=
  ⟨h.lengths, h.delay, h.port, h.honest,
    fun d cursor batch hconn c hc =>
    (h.batch d cursor batch hconn c hc).mono (P := fun _ => True) hle (.refl _), h.written⟩

omit [Zlib] in
/-- The task goes on to a place where no frame waits to be written. -/
theorem Held.goto (h : Held delayMs last w) {conn : Conn} (hhonest : Honest delayMs conn)
    (hidle : ∀ d cursor c batch, conn ≠ .streaming d cursor (c :: batch)) :
    Held delayMs last { w with conn := conn } := by
  refine ⟨h.lengths, h.delay, h.port, hhonest, ?_, h.written⟩
  intro d cursor batch hconn c hc
  cases batch with
  | nil => cases hc
  | cons b rest => exact absurd hconn (hidle d cursor b rest)

omit [Zlib] in
/-- Something that is no frame is written. -/
theorem Held.write_other (h : Held delayMs last w) (x : Written) (hx : ∀ c, x ≠ .frame c) :
    Held delayMs last (w.write now x) := by
  refine ⟨h.lengths, h.delay, h.port, h.honest, h.batch, ?_⟩
  intro t c hc
  rcases List.mem_append.1 hc with hc | hc
  · exact h.written t c hc
  · injection List.mem_singleton.1 hc with _ heq
    exact absurd heq.symm (hx c)

omit [Zlib] in
/-- What happens to the body leaves the connection as it is. -/
theorem Held.grow (h : Held delayMs last w) {l : Live} (hl : Grows P w.live l) :
    Held delayMs last { w with live := l } := by
  obtain ⟨fs, ts, hf, ht, hlen, -⟩ := hl.stream.more
  refine ⟨?_, hl.delay.trans h.delay, h.port, h.honest, ?_, ?_⟩
  · show l.shared.stream.frames.length = l.shared.stream.frameTimes.length
    rw [hf, ht, List.length_append, List.length_append, hlen]
    exact congrArg (· + ts.length) h.lengths
  · exact fun d cursor batch hconn c hc =>
      (h.batch d cursor batch hconn c hc).mono (Nat.le_refl _) hl.stream
  · exact fun t c hc => (h.written t c hc).mono (Nat.le_refl _) hl.stream

omit [Zlib] in
/-- The mode byte leads to an honest place, or there is no delay. -/
theorem Held.dispatch (h : Held delayMs last w) {b : UInt8}
    (hb : delayMs = 0 ∨ (b ≠ 0 ∧ b ≠ 2 ∧ b ≠ 4)) : Held delayMs last (w.dispatch now b) := by
  have hport : w.portDelay = delayMs := by
    unfold Viewing.portDelay
    rw [h.port, if_neg Bool.false_ne_true, h.delay]
  unfold Viewing.dispatch
  by_cases h0 : b = 0
  · rw [if_pos h0]
    exact h.goto (hb.resolve_right fun hn => hn.1 h0) (fun _ _ _ _ hn => by cases hn)
  rw [if_neg h0]
  by_cases h2 : b = 2
  · rw [if_pos h2]
    exact h.goto (hb.resolve_right fun hn => hn.2.1 h2) (fun _ _ _ _ hn => by cases hn)
  rw [if_neg h2]
  by_cases h3 : b = 3
  · rw [if_pos h3]
    have hw : Held delayMs last (w.write now (.chat (u32le w.nextChatId))) :=
      h.write_other _ (fun _ hn => by cases hn)
    have hchat : Held delayMs last
        { w.write now (.chat (u32le w.nextChatId)) with conn := .chat } :=
      hw.goto trivial (fun _ _ _ _ hn => by cases hn)
    exact ⟨hchat.lengths, hchat.delay, hchat.port, hchat.honest, hchat.batch, hchat.written⟩
  rw [if_neg h3]
  by_cases h1 : b = 1
  · rw [if_pos h1]
    exact h.goto hport (fun _ _ _ _ hn => by cases hn)
  rw [if_neg h1]
  by_cases h4 : b = 4
  · rw [if_pos h4]
    exact h.goto (hb.resolve_right fun hn => hn.2.2 h4).symm (fun _ _ _ _ hn => by cases hn)
  rw [if_neg h4]
  by_cases h5 : b = 5
  · rw [if_pos h5]
    exact h.goto trivial (fun _ _ _ _ hn => by cases hn)
  · rw [if_neg h5]
    exact h.goto trivial (fun _ _ _ _ hn => by cases hn)

/-- A file is made of frames that are old enough, or there is none. -/
theorem Held.serveFile (h : Held delayMs last w)
    (file : DotaTvStream → Nat → Option (List UInt8 × Nat)) :
    Held delayMs last (w.serveFile now file) := by
  have hgrow : Grows (fun _ => True) w.live (w.live.flushPending fun _ => now) :=
    ⟨appends_flush (fun _ => trivial) _, rfl⟩
  have hflush := h.grow hgrow
  unfold Viewing.serveFile
  dsimp only
  split
  · exact hflush.goto trivial (fun _ _ _ _ hn => by cases hn)
  · split
    · exact hflush.goto trivial (fun _ _ _ _ hn => by cases hn)
    · rename_i bytes startIndex _
      have hw : Held delayMs last (Viewing.write _ now (.bootstrap startIndex bytes)) :=
        hflush.write_other _ (fun _ hn => by cases hn)
      exact hw.goto trivial (fun _ _ _ _ hn => by cases hn)

/-- A step of the task at a later instant. -/
theorem Held.serve (h : Held delayMs last w) (hle : last ≤ now) {e : ViewerEvent}
    (hmode : ∀ b, e = .mode b → delayMs = 0 ∨ (b ≠ 0 ∧ b ≠ 2 ∧ b ≠ 4)) :
    Held delayMs now (w.serve now e) := by
  have h := h.later hle
  have hstay := h.honest
  unfold Viewing.serve
  split
  case h_1 => exact h.goto trivial (fun _ _ _ _ hn => by cases hn)
  case h_2 =>
    exact (h.write_other .greeting (fun _ hn => by cases hn)).goto trivial
      (fun _ _ _ _ hn => by cases hn)
  case h_3 b _ => exact h.dispatch (hmode b rfl)
  case h_4 => exact h.serveFile _
  case h_5 => exact h.serveFile _
  case h_6 index _ =>
    unfold Viewing.serveStatus
    exact (h.write_other _ (fun _ hn => by cases hn)).goto trivial (fun _ _ _ _ hn => by cases hn)
  case h_7 d index hconn =>
    rw [hconn] at hstay
    unfold Viewing.startStream
    split
    · exact h.goto trivial (fun _ _ _ _ hn => by cases hn)
    · exact h.goto hstay (fun _ _ _ _ hn => by cases hn)
  case h_8 d cursor hconn =>
    rw [hconn] at hstay
    cases hstay
    -- the batch is among the frames counted
    refine ⟨h.lengths, h.delay, h.port, rfl, ?_, h.written⟩
    intro d' cursor' batch hbatch c hc
    cases hbatch
    obtain ⟨i, hi⟩ := List.mem_iff_getElem?.1 (List.mem_of_mem_drop hc)
    have hlt := (List.getElem?_eq_some_iff.1 hi).1
    rw [List.length_take] at hlt
    rw [List.getElem?_take_of_lt (Nat.lt_of_lt_of_le hlt (Nat.min_le_left _ _))] at hi
    exact aged_of_lt_countDelayed h.lengths hi (Nat.lt_of_lt_of_le hlt (Nat.min_le_left _ _))
  case h_9 d cursor c rest hconn =>
    rw [hconn] at hstay
    have hbatch := h.batch d cursor (c :: rest) hconn
    refine ⟨h.lengths, h.delay, h.port, hstay, ?_, ?_⟩
    · intro d' cursor' batch heq b hb
      cases heq
      exact hbatch b (.tail _ hb)
    · intro t b hb
      rcases List.mem_append.1 hb with hb | hb
      · exact h.written t b hb
      · cases List.mem_singleton.1 hb
        exact hbatch c (.head _)
  case h_10 bytes _ => exact h.write_other _ (fun _ hn => by cases hn)
  case h_11 => exact h

omit [Zlib] in
/-- Of the modes of a run, the first. -/
theorem Delayed.head {e : ServeEvent} {rest : List ServeEvent} (h : Delayed delayMs (e :: rest))
    {b : UInt8} (he : e = .viewer now (.mode b)) : delayMs = 0 ∨ (b ≠ 0 ∧ b ≠ 2 ∧ b ≠ 4) := by
  rcases h with h | h
  · exact .inl h
  · exact .inr (h now b (he ▸ .head _))

omit [Zlib] in
/-- The rest of the events. -/
theorem Delayed.tail {e : ServeEvent} {rest : List ServeEvent} (h : Delayed delayMs (e :: rest)) :
    Delayed delayMs rest := by
  rcases h with h | h
  · exact .inl h
  · exact .inr fun now b hmem => h now b (.tail _ hmem)

/-- Through a whole run no frame is written early. -/
theorem Held.run {es : List ServeEvent} (h : Held delayMs last w)
    (hlast : ∀ e ∈ es, ∀ t, e.Reads t → last ≤ t) (hchron : Chronological es)
    (hdelayed : Delayed delayMs es) : ∃ late, Held delayMs late (w.run es) := by
  induction es generalizing w last with
  | nil => exact ⟨last, h⟩
  | cons e rest ih =>
      obtain ⟨hfirst, hrest⟩ := List.pairwise_cons.1 hchron
      cases e with
      | game o =>
          exact ih (h.grow (grows_op w.live o)) (fun e he => hlast e (.tail _ he)) hrest
            hdelayed.tail
      | viewer now e =>
          have hle : last ≤ now := hlast _ (.head _) now rfl
          refine ih (h.serve hle fun b hb => ?_) (fun e he t ht => hfirst e he now t rfl ht) hrest
            hdelayed.tail
          exact hdelayed.head (congrArg (ServeEvent.viewer now) hb)

-- ===================================================== what a viewer cannot tell

omit [Zlib] in
/-- What is too late is never taken. -/
theorem takeWhile_append_late {times late : List Nat} {cutoff : Nat}
    (h : ∀ t ∈ late, cutoff < t) :
    (times ++ late).takeWhile (fun t => decide (t ≤ cutoff))
      = times.takeWhile fun t => decide (t ≤ cutoff) := by
  induction times with
  | nil =>
      cases late with
      | nil => rfl
      | cons t rest =>
          have ht := h t (.head _)
          exact List.takeWhile_cons_of_neg (by rw [decide_eq_true_iff]; omega)
  | cons t rest ih =>
      rw [List.cons_append, List.takeWhile_cons, List.takeWhile_cons, ih]

omit [Zlib] in
/-- Frames that are too young are not counted. -/
theorem countDelayed_late {T : Nat} (hpos : delayMs ≠ 0)
    (h : Appends (fun x => T < x + delayMs) s t) (hle : now ≤ T) :
    t.countDelayed now delayMs = s.countDelayed now delayMs := by
  obtain ⟨fs, ts, -, ht, -, hlate⟩ := h.more
  unfold DotaTvStream.countDelayed
  rw [if_neg hpos, if_neg hpos, ht]
  by_cases hearly : now < delayMs
  · rw [if_pos hearly, if_pos hearly]
  · rw [if_neg hearly, if_neg hearly, takeWhile_append_late]
    intro x hx
    have hx := hlate x hx
    omega

omit [Zlib] in
/-- No more frames are counted than there are. -/
theorem countDelayed_le (hlen : s.frames.length = s.frameTimes.length) :
    s.countDelayed now delayMs ≤ s.frames.length := by
  unfold DotaTvStream.countDelayed
  split
  · exact Nat.le_refl _
  · split
    · exact Nat.zero_le _
    · rw [hlen]
      exact (List.takeWhile_prefix _).length_le

omit [Zlib] in
/-- Frames that are too young make no difference to a batch. -/
theorem batchAt_late {v : Viewing} {T cursor : Nat} (hexact : delayMs = 0 → w.stream = v.stream)
    (hlen : v.stream.frames.length = v.stream.frameTimes.length)
    (h : Appends (fun x => T < x + delayMs) v.stream w.stream) (hle : now ≤ T) :
    w.batchAt now delayMs cursor = v.batchAt now delayMs cursor := by
  obtain ⟨fs, ts, hf, -⟩ := h.more
  unfold Viewing.batchAt
  by_cases hpos : delayMs = 0
  · rw [hexact hpos]
  · rw [countDelayed_late hpos h hle, hf, List.take_append_of_le_length (countDelayed_le hlen)]

/-- Two connections to streams that differ in frames too young to be
written; not at all where there is no delay. The tasks stand at the same
place, or one has been refused an index the other is waiting for. -/
structure Alike (T delayMs : Nat) (w v : Viewing) : Prop where
  later : Appends (fun x => T < x + delayMs) v.stream w.stream
  exact : delayMs = 0 → w.stream = v.stream
    ∧ w.live.shared.replayLengthMs = v.live.shared.replayLengthMs
  lengths : v.stream.frames.length = v.stream.frameTimes.length
  delay : v.delayMs = delayMs ∧ w.delayMs = delayMs
  port : v.forceLive = false ∧ w.forceLive = false
  honest : Honest delayMs v.conn
  conn : w.conn = v.conn
    ∨ (v.conn = .closed ∧ ∃ cursor, w.conn = .streaming delayMs cursor []
      ∧ v.stream.frames.length ≤ cursor)
  writes : w.gameWrites = v.gameWrites

variable {v : Viewing} {T : Nat}

omit [Zlib] in
/-- A write is game data or is none. -/
theorem gameWrites_write (w : Viewing) (now : Nat) (x : Written) :
    (w.write now x).gameWrites
      = w.gameWrites ++ if x.isGame = true then [(now, x)] else [] := by
  show (w.written ++ [(now, x)]).filter _ = w.written.filter _ ++ _
  rw [List.filter_append]
  congr 1
  by_cases hx : x.isGame = true
  · rw [if_pos hx]
    exact List.filter_cons_of_pos hx
  · rw [if_neg hx]
    exact List.filter_cons_of_neg hx

omit [Zlib] in
/-- Both tasks go on to the same place. -/
theorem Alike.goto (h : Alike T delayMs w v) {conn : Conn} (hhonest : Honest delayMs conn) :
    Alike T delayMs { w with conn := conn } { v with conn := conn } :=
  ⟨h.later, h.exact, h.lengths, h.delay, h.port, hhonest, .inl rfl, h.writes⟩

omit [Zlib] in
/-- Both tasks write the same. -/
theorem Alike.write (h : Alike T delayMs w v) (x : Written) :
    Alike T delayMs (w.write now x) (v.write now x) := by
  refine ⟨h.later, h.exact, h.lengths, h.delay, h.port, h.honest, h.conn, ?_⟩
  rw [gameWrites_write, gameWrites_write, h.writes]

omit [Zlib] in
/-- Neither task writes game data. -/
theorem Alike.write_other (h : Alike T delayMs w v) {x y : Written} (hx : x.isGame = false)
    (hy : y.isGame = false) : Alike T delayMs (w.write now x) (v.write now y) := by
  refine ⟨h.later, h.exact, h.lengths, h.delay, h.port, h.honest, h.conn, ?_⟩
  rw [gameWrites_write, gameWrites_write, h.writes, if_neg (Bool.eq_false_iff.1 hx),
    if_neg (Bool.eq_false_iff.1 hy)]

omit [Zlib] in
/-- The mode byte sends both tasks the same way. -/
theorem Alike.dispatch (h : Alike T delayMs w v) {b : UInt8}
    (hb : delayMs = 0 ∨ (b ≠ 0 ∧ b ≠ 2 ∧ b ≠ 4)) :
    Alike T delayMs (w.dispatch now b) (v.dispatch now b) := by
  have hwport : w.portDelay = delayMs := by
    unfold Viewing.portDelay
    rw [h.port.2, if_neg Bool.false_ne_true, h.delay.2]
  have hvport : v.portDelay = delayMs := by
    unfold Viewing.portDelay
    rw [h.port.1, if_neg Bool.false_ne_true, h.delay.1]
  unfold Viewing.dispatch
  rw [hwport, hvport]
  by_cases h0 : b = 0
  · rw [if_pos h0, if_pos h0]
    exact h.goto (hb.resolve_right fun hn => hn.1 h0)
  rw [if_neg h0, if_neg h0]
  by_cases h2 : b = 2
  · rw [if_pos h2, if_pos h2]
    exact h.goto (hb.resolve_right fun hn => hn.2.1 h2)
  rw [if_neg h2, if_neg h2]
  by_cases h3 : b = 3
  · rw [if_pos h3, if_pos h3]
    have hw : Alike T delayMs (w.write now (.chat (u32le w.nextChatId)))
        (v.write now (.chat (u32le v.nextChatId))) := h.write_other rfl rfl
    exact ⟨hw.later, hw.exact, hw.lengths, hw.delay, hw.port, trivial, .inl rfl, hw.writes⟩
  rw [if_neg h3, if_neg h3]
  by_cases h1 : b = 1
  · rw [if_pos h1, if_pos h1]
    exact h.goto rfl
  rw [if_neg h1, if_neg h1]
  by_cases h4 : b = 4
  · rw [if_pos h4, if_pos h4]
    exact h.goto (hb.resolve_right fun hn => hn.2.2 h4).symm
  rw [if_neg h4, if_neg h4]
  by_cases h5 : b = 5
  · rw [if_pos h5, if_pos h5]
    exact h.goto trivial
  · rw [if_neg h5, if_neg h5]
    exact h.goto trivial

/-- Without a delay both tasks send the same file. -/
theorem Alike.serveFile (h : Alike T delayMs w v) (hzero : delayMs = 0) (hconn : w.conn = v.conn)
    (file : DotaTvStream → Nat → Option (List UInt8 × Nat)) :
    Alike T delayMs (w.serveFile now file) (v.serveFile now file) := by
  obtain ⟨hstream, hlength⟩ := h.exact hzero
  have hflushed : (w.live.flushPending fun _ => now).shared.stream
      = (v.live.flushPending fun _ => now).shared.stream :=
    congrArg (fun s => (DotaTvStream.flush s fun _ => now).2) hstream
  have happends : Appends (fun _ => True) v.stream (v.stream.flush fun _ => now).2 :=
    appends_flush (fun _ => trivial) v.stream
  obtain ⟨fs, ts, hf, ht, hlen, -⟩ := happends.more
  have hboth : Alike T delayMs { w with live := w.live.flushPending fun _ => now }
      { v with live := v.live.flushPending fun _ => now } := by
    refine ⟨?_, fun _ => ⟨hflushed, hlength⟩, ?_, h.delay, h.port, h.honest, .inl hconn, h.writes⟩
    · show Appends _ (v.live.flushPending fun _ => now).shared.stream
        (w.live.flushPending fun _ => now).shared.stream
      rw [hflushed]
      exact .refl _
    · show (v.stream.flush fun _ => now).2.frames.length
        = (v.stream.flush fun _ => now).2.frameTimes.length
      rw [hf, ht, List.length_append, List.length_append, h.lengths, hlen]
  have hstreams : Viewing.stream { w with live := w.live.flushPending fun _ => now }
      = Viewing.stream { v with live := v.live.flushPending fun _ => now } := hflushed
  have hlengths : (w.live.flushPending fun _ => now).shared.replayLengthMs
      = (v.live.flushPending fun _ => now).shared.replayLengthMs := hlength
  unfold Viewing.serveFile
  dsimp only
  rw [hstreams, hlengths]
  split
  · exact hboth.goto trivial
  · split
    · exact hboth.goto trivial
    · rename_i bytes startIndex _
      exact (hboth.write (.bootstrap startIndex bytes)).goto trivial

omit [Zlib] in
/-- An index one task is refused, the other waits for in vain. -/
theorem Alike.startStream (h : Alike T delayMs w v) (index : Nat) :
    Alike T delayMs (w.startStream delayMs index) (v.startStream delayMs index) := by
  obtain ⟨fs, ts, hf, -⟩ := h.later.more
  have hle : v.stream.frames.length ≤ w.stream.frames.length := by
    rw [hf, List.length_append]
    exact Nat.le_add_right _ _
  unfold Viewing.startStream
  by_cases hv : v.stream.frames.length < index
  · rw [if_pos hv]
    by_cases hw : w.stream.frames.length < index
    · rw [if_pos hw]
      exact h.goto trivial
    · rw [if_neg hw]
      exact ⟨h.later, h.exact, h.lengths, h.delay, h.port, trivial,
        .inr ⟨rfl, index, rfl, Nat.le_of_lt hv⟩, h.writes⟩
  · rw [if_neg hv, if_neg (by omega)]
    exact h.goto rfl

/-- A step of both tasks, at an instant up to `T`. -/
theorem Alike.serve (h : Alike T delayMs w v) (hle : now ≤ T) {e : ViewerEvent}
    (hmode : ∀ b, e = .mode b → delayMs = 0 ∨ (b ≠ 0 ∧ b ≠ 2 ∧ b ≠ 4)) :
    Alike T delayMs (w.serve now e) (v.serve now e) := by
  have hhonest := h.honest
  have hbatch : ∀ cursor, w.batchAt now delayMs cursor = v.batchAt now delayMs cursor :=
    fun _ => batchAt_late (fun hzero => (h.exact hzero).1) h.lengths h.later hle
  rcases h.conn with hconn | ⟨hv, cursor, hw, hcursor⟩
  · cases hv : v.conn with
    | accepted =>
        rw [hv] at hconn
        unfold Viewing.serve
        rw [hconn, hv]
        cases e with
        | go => exact (h.write .greeting).goto trivial
        | fail => exact h.goto trivial
        | mode b => exact h
        | request index => exact h
        | chat bytes => exact h
    | mode =>
        rw [hv] at hconn
        unfold Viewing.serve
        rw [hconn, hv]
        cases e with
        | mode b => exact h.dispatch (hmode b rfl)
        | fail => exact h.goto trivial
        | go => exact h
        | request index => exact h
        | chat bytes => exact h
    | bootstrap =>
        rw [hv] at hhonest
        have hsend : Alike T delayMs (w.serveFile now DotaTvStream.bootstrap)
            (v.serveFile now DotaTvStream.bootstrap) := h.serveFile hhonest hconn _
        rw [hv] at hconn
        unfold Viewing.serve
        rw [hconn, hv]
        cases e with
        | request index => exact hsend
        | fail => exact h.goto trivial
        | go => exact h
        | mode b => exact h
        | chat bytes => exact h
    | bootstrapFull =>
        rw [hv] at hhonest
        have hsend : Alike T delayMs (w.serveFile now DotaTvStream.bootstrapFull)
            (v.serveFile now DotaTvStream.bootstrapFull) := h.serveFile hhonest hconn _
        rw [hv] at hconn
        unfold Viewing.serve
        rw [hconn, hv]
        cases e with
        | request index => exact hsend
        | fail => exact h.goto trivial
        | go => exact h
        | mode b => exact h
        | chat bytes => exact h
    | status =>
        rw [hv] at hconn
        unfold Viewing.serve
        rw [hconn, hv]
        cases e with
        | request index => exact (h.write_other rfl rfl).goto trivial
        | fail => exact h.goto trivial
        | go => exact h
        | mode b => exact h
        | chat bytes => exact h
    | streamIndex d =>
        rw [hv] at hconn hhonest
        cases hhonest
        unfold Viewing.serve
        rw [hconn, hv]
        cases e with
        | request index => exact h.startStream index
        | fail => exact h.goto trivial
        | go => exact h
        | mode b => exact h
        | chat bytes => exact h
    | streaming d cursor batch =>
        rw [hv] at hconn hhonest
        cases hhonest
        unfold Viewing.serve
        rw [hconn, hv]
        cases e with
        | go =>
            cases batch with
            | nil =>
                show Alike T delayMs
                  { w with conn := .streaming delayMs cursor (w.batchAt now delayMs cursor) } _
                rw [hbatch]
                exact h.goto rfl
            | cons c rest => exact (h.write (.frame c)).goto rfl
        | fail => exact h.goto trivial
        | mode b => exact h
        | request index => exact h
        | chat bytes => exact h
    | chat =>
        rw [hv] at hconn
        unfold Viewing.serve
        rw [hconn, hv]
        cases e with
        | chat bytes => exact h.write (.chat bytes)
        | fail => exact h.goto trivial
        | go => exact h
        | mode b => exact h
        | request index => exact h
    | closed =>
        rw [hv] at hconn
        unfold Viewing.serve
        rw [hconn, hv]
        cases e with
        | fail => exact h.goto trivial
        | go => exact h
        | mode b => exact h
        | request index => exact h
        | chat bytes => exact h
  · unfold Viewing.serve
    rw [hw, hv]
    cases e with
    | go =>
        -- the frames counted all come before the index it waits for
        have hnone : w.batchAt now delayMs cursor = [] := by
          rw [hbatch]
          apply List.drop_eq_nil_of_le
          rw [List.length_take]
          exact Nat.le_trans (Nat.min_le_right _ _) hcursor
        show Alike T delayMs
          { w with conn := .streaming delayMs cursor (w.batchAt now delayMs cursor) } v
        rw [hnone]
        exact ⟨h.later, h.exact, h.lengths, h.delay, h.port, h.honest,
          .inr ⟨hv, cursor, rfl, hcursor⟩, h.writes⟩
    | fail => exact h.goto trivial
    | mode b => exact h
    | request index => exact h
    | chat bytes => exact h

/-- A run in which nothing happens to the connection. -/
theorem run_written {es : List ServeEvent} (h : es.filterMap ServeEvent.viewerPart = []) :
    (w.run es).written = w.written := by
  induction es generalizing w with
  | nil => rfl
  | cons e rest ih =>
      cases e with
      | viewer now e => cases h
      | game o =>
          have hrest := ih (w := w.event (.game o)) h
          exact hrest

omit [Zlib] in
/-- With a viewer's event behind it, an operation reads no instant after
the event's. -/
theorem no_viewer_after {o : LiveOp} {rest : List ServeEvent} {t : Nat}
    (hchron : Chronological (.game o :: rest)) (ht : o.Reads t) (hlate : T < t)
    (hwithin : ∀ e ∈ rest, e.Within T 0) : rest.filterMap ServeEvent.viewerPart = [] := by
  rw [List.filterMap_eq_nil_iff]
  intro e he
  cases e with
  | game o => rfl
  | viewer now e =>
      have hle : t ≤ now := (List.pairwise_cons.1 hchron).1 _ he t now ht rfl
      have hT : now ≤ T := hwithin _ he
      omega

/-- An operation that reads no instant leaves the stream alone. -/
theorem op_quiet {l : Live} {o : LiveOp} (h : ∀ t, ¬o.Reads t) :
    (l.op o).2.shared.stream = l.shared.stream
      ∧ (l.op o).2.shared.replayLengthMs = l.shared.replayLengthMs := by
  cases o with
  | addTimeslot inc actions => exact ⟨rfl, rfl⟩
  | addTimeslot2 actions => exact ⟨rfl, rfl⟩
  | addChat pid flag extra message => exact ⟨rfl, rfl⟩
  | addLeaver pid reason result => exact ⟨rfl, rfl⟩
  | enableHeartbeat pid => exact ⟨rfl, rfl⟩
  | flushPending clock => exact absurd ⟨0, rfl⟩ (h (clock 0))
  | publishPending clock => exact absurd ⟨0, 0, rfl⟩ (h (clock 0 0))

/-- The viewer's events alone. -/
def viewerOnly (es : List ServeEvent) : List ServeEvent :=
  (es.filterMap ServeEvent.viewerPart).map fun x => .viewer x.1 x.2

/-- What happens to the body too late for the delay makes no difference
to the game data written. -/
theorem Alike.run {es : List ServeEvent} (h : Alike T delayMs w v)
    (hwithin : ∀ e ∈ es, e.Within T delayMs) (hchron : Chronological es)
    (hdelayed : Delayed delayMs es) :
    (w.run es).gameWrites = (v.run (viewerOnly es)).gameWrites := by
  induction es generalizing w v with
  | nil => exact h.writes
  | cons e rest ih =>
      have hrest := (List.pairwise_cons.1 hchron).2
      have hwithin' : ∀ e ∈ rest, e.Within T delayMs := fun e he => hwithin e (.tail _ he)
      cases e with
      | viewer now e =>
          refine ih (h.serve (hwithin _ (.head _)) fun b hb => ?_) hwithin' hrest hdelayed.tail
          exact hdelayed.head (congrArg (ServeEvent.viewer now) hb)
      | game o =>
          have hlate : ∀ t, o.Reads t → T < t + delayMs := hwithin (.game o) (.head _)
          by_cases hdead : delayMs = 0 ∧ ∃ t, o.Reads t
          · -- the viewer's events are all over
            obtain ⟨rfl, t, ht⟩ := hdead
            have hnone := no_viewer_after hchron ht (hlate t ht) hwithin'
            have hwritten : (w.run (.game o :: rest)).written = w.written := run_written hnone
            show (w.run (.game o :: rest)).gameWrites = (v.run (viewerOnly rest)).gameWrites
            unfold viewerOnly
            rw [hnone]
            show ((w.run (.game o :: rest)).written.filter fun x => x.2.isGame) = v.gameWrites
            rw [hwritten]
            exact h.writes
          · have hgrows := grows_op w.live o
            refine ih ⟨h.later.trans (hgrows.stream.mono hlate), fun hzero => ?_, h.lengths,
              ⟨h.delay.1, hgrows.delay.trans h.delay.2⟩, h.port, h.honest, h.conn, h.writes⟩
              hwithin' hrest hdelayed.tail
            have hquiet := op_quiet (l := w.live) fun t ht => hdead ⟨hzero, t, ht⟩
            obtain ⟨hstream, hlength⟩ := h.exact hzero
            exact ⟨hquiet.1.trans hstream, hquiet.2.trans hlength⟩

/-- A connection that has just been accepted on the public port. -/
def Viewing.accepted (live : Live) (nextChatId : Nat) : Viewing :=
  { live := live, nextChatId := nextChatId }

/-- Events one after another, in two parts. -/
theorem run_append (es more : List ServeEvent) (w : Viewing) :
    w.run (es ++ more) = (w.run es).run more := by
  induction es generalizing w with
  | nil => rfl
  | cons e rest ih => exact ih (w.event e)

omit [Zlib] in
/-- A mode byte among the events is one among the viewer's. -/
theorem viewerPart_mode {es : List ServeEvent} {now : Nat} {b : UInt8} :
    .viewer now (.mode b) ∈ es ↔ (now, .mode b) ∈ es.filterMap ServeEvent.viewerPart := by
  rw [List.mem_filterMap]
  constructor
  · intro h
    exact ⟨_, h, rfl⟩
  · rintro ⟨e, he, heq⟩
    cases e with
    | game o => cases heq
    | viewer t e =>
        cases heq
        exact he

omit [Zlib] in
/-- Two parts of the events. -/
theorem Delayed.append {es more : List ServeEvent} (h : Delayed delayMs (es ++ more)) :
    Delayed delayMs es ∧ Delayed delayMs more := by
  rcases h with h | h
  · exact ⟨.inl h, .inl h⟩
  · exact ⟨.inr fun now b hmem => h now b (List.mem_append_left _ hmem),
      .inr fun now b hmem => h now b (List.mem_append_right _ hmem)⟩

/-- Where the mode respects the delay, no frame is written before it has
the age, and two runs that have everything in common up to `T - delay`
write the same game data up to `T`. What a status reply says depends on
the frames' times alone. -/
theorem delayed_frames_stay_secret {body : ReplayBody} (shared : DotaTvShared)
    (war3Version : UInt32) (build : UInt16) (tft : Bool) (nextChatId T : Nat)
    {common es₁ es₂ : List ServeEvent}
    (hchron₁ : Chronological (common ++ es₁)) (hchron₂ : Chronological (common ++ es₂))
    (hdelayed : Delayed shared.streamDelayMs (common ++ es₁))
    (hsame : es₁.filterMap ServeEvent.viewerPart = es₂.filterMap ServeEvent.viewerPart)
    (hwithin₁ : ∀ e ∈ es₁, e.Within T shared.streamDelayMs)
    (hwithin₂ : ∀ e ∈ es₂, e.Within T shared.streamDelayMs) :
    let w := Viewing.accepted (.start shared war3Version build tft body) nextChatId
    (∀ now c, (now, .frame c) ∈ (w.run (common ++ es₁)).written →
        Aged (w.run (common ++ es₁)).stream shared.streamDelayMs now c)
      ∧ (w.run (common ++ es₁)).gameWrites = (w.run (common ++ es₂)).gameWrites
      ∧ ∀ s t : DotaTvStream, s.frameTimes = t.frameTimes → s.frames.length = t.frames.length →
          ∀ now index age, s.status now index age = t.status now index age := by
  intro w
  have hstart : Held shared.streamDelayMs 0 w :=
    ⟨rfl, rfl, rfl, trivial, fun _ _ _ h => Conn.noConfusion h, fun _ _ h => by cases h⟩
  obtain ⟨hc₁, he₁, -⟩ := List.pairwise_append.1 hchron₁
  obtain ⟨-, he₂, -⟩ := List.pairwise_append.1 hchron₂
  obtain ⟨hdcommon, hd₁⟩ := hdelayed.append
  -- both continuations say the same to the viewer, so both are delayed or neither is
  have hd₂ : Delayed shared.streamDelayMs es₂ := by
    rcases hd₁ with h | h
    · exact .inl h
    · refine .inr fun now b hmem => h now b ?_
      rw [viewerPart_mode, hsame, ← viewerPart_mode]
      exact hmem
  obtain ⟨late, hend⟩ := hstart.run (fun _ _ t _ => Nat.zero_le t) hchron₁ hdelayed
  obtain ⟨last, hmid⟩ := hstart.run (fun _ _ t _ => Nat.zero_le t) hc₁ hdcommon
  -- up to the fork the two runs are one
  have halike : Alike T shared.streamDelayMs (w.run common) (w.run common) :=
    ⟨.refl _, fun _ => ⟨rfl, rfl⟩, hmid.lengths, ⟨hmid.delay, hmid.delay⟩,
      ⟨hmid.port, hmid.port⟩, hmid.honest, .inl rfl, rfl⟩
  refine ⟨hend.written, ?_, ?_⟩
  · rw [run_append, run_append, halike.run hwithin₁ he₁ hd₁, halike.run hwithin₂ he₂ hd₂]
    unfold viewerOnly
    rw [hsame]
  · intro s t htimes hlengths now index age
    unfold DotaTvStream.status DotaTvStream.countDelayed
    rw [htimes, hlengths]

end Proofs

-- ======================================================================= a game

section Scenario

attribute [local instance] runLength

/-- The small game's shared state, with the delay of the server. -/
def delayedShared : DotaTvShared := { stream := .for126a, streamDelayMs := 180000 }

/-- A viewer of it. -/
def smallViewing : Viewing := .accepted (.start delayedShared 26 6059 true smallBody) 1

/-- The prologue is published at once, a turn a second later. -/
def publishedTurn : List ServeEvent :=
  [.game (.publishPending fun _ _ => 0), .game (.addTimeslot 100 [0xAA]),
    .game (.publishPending fun _ _ => 1000)]

/-- A viewer asks for the stream after three minutes. -/
def lateViewer : List ServeEvent :=
  [.viewer 180000 .go, .viewer 180000 (.mode 1), .viewer 180000 (.request 0)]

/-- A turn is published that the viewer must not see, or none; the
viewer's task goes on. -/
def youngTurn : List ServeEvent :=
  [.game (.addTimeslot 100 [0xBB]), .game (.publishPending fun _ _ => 180500),
    .viewer 180500 .go, .viewer 180500 .go, .viewer 180500 .go]

/-- The same without the turn. -/
def noTurn : List ServeEvent :=
  [.viewer 180500 .go, .viewer 180500 .go, .viewer 180500 .go]

/-- The theorem at the game above, where one frame is written. -/
theorem delayed_frames_stay_secret_youngTurn :
    ((smallViewing.run ((publishedTurn ++ lateViewer) ++ youngTurn)).gameWrites.length = 1)
      ∧ (∀ now c, (now, .frame c) ∈
          (smallViewing.run ((publishedTurn ++ lateViewer) ++ youngTurn)).written →
        Aged (smallViewing.run ((publishedTurn ++ lateViewer) ++ youngTurn)).stream 180000 now c)
      ∧ (smallViewing.run ((publishedTurn ++ lateViewer) ++ youngTurn)).gameWrites
        = (smallViewing.run ((publishedTurn ++ lateViewer) ++ noTurn)).gameWrites
      ∧ ∀ s t : DotaTvStream, s.frameTimes = t.frameTimes → s.frames.length = t.frames.length →
          ∀ now index age, s.status now index age = t.status now index age := by
  have hchron₁ : Chronological ((publishedTurn ++ lateViewer) ++ youngTurn) := by
    simp [Chronological, publishedTurn, lateViewer, youngTurn, ServeEvent.Reads, LiveOp.Reads]
  have hchron₂ : Chronological ((publishedTurn ++ lateViewer) ++ noTurn) := by
    simp [Chronological, publishedTurn, lateViewer, noTurn, ServeEvent.Reads, LiveOp.Reads]
  have hdelayed : Delayed 180000 ((publishedTurn ++ lateViewer) ++ youngTurn) := by
    refine .inr fun now b hmem => ?_
    simp [publishedTurn, lateViewer, youngTurn] at hmem
    rw [hmem.2]
    decide
  have hwithin₁ : ∀ e ∈ youngTurn, e.Within 180500 180000 := by
    simp [youngTurn, ServeEvent.Within, LiveOp.Reads]
  have hwithin₂ : ∀ e ∈ noTurn, e.Within 180500 180000 := by
    simp [noTurn, ServeEvent.Within]
  refine ⟨by decide +kernel, ?_⟩
  exact delayed_frames_stay_secret delayedShared 26 6059 true 1 180500 hchron₁ hchron₂ hdelayed rfl
    hwithin₁ hwithin₂

/-- A viewer of the public port asks for the live stream instead. -/
def liveViewer : List ServeEvent :=
  [.viewer 1000 .go, .viewer 1000 (.mode 4), .viewer 1000 (.request 1), .viewer 1000 .go,
    .viewer 1000 .go]

/-- The theorem fails for it: a frame is written in the instant it is
published, with a delay of three minutes configured. -/
theorem live_mode_ignores_delay :
    let w := smallViewing.run (publishedTurn ++ liveViewer)
    Chronological (publishedTurn ++ liveViewer)
      ∧ w.forceLive = false ∧ w.delayMs = 180000
      ∧ ∃ c, (1000, .frame c) ∈ w.written ∧ ¬Aged w.stream 180000 1000 c := by
  intro w
  have hwritten : w.written
      = [(1000, .greeting), (1000, .frame (w.stream.frames.getD 1 ⟨[], 0, 0⟩))] := by
    decide +kernel
  refine ⟨?_, ?_, ?_, w.stream.frames.getD 1 ⟨[], 0, 0⟩, ?_, ?_⟩
  · simp [Chronological, publishedTurn, liveViewer, ServeEvent.Reads, LiveOp.Reads]
  · decide +kernel
  · decide +kernel
  · rw [hwritten]
    exact .tail _ (.head _)
  · rintro ⟨i, t, -, -, hage⟩
    omega

end Scenario

end Spectre.DotaTv

/-
Publishing the replay body as it grows (`publish_pending` and the parts
of `DotaTvShared` it uses).

The first call sends the prologue; every call then sends the blocks
added since the last one, after a heartbeat chat line of its own when
one is due. `published` of `ReplayBody` is the mark up to which blocks
have been drained, and lies here beside the body.

A run is an interleaving of the body's `add_*` calls, of publishing, and
of the flushes a viewer's bootstrap asks for.
-/
import Spectre.Replay
import Spectre.DotaTv

namespace Spectre.DotaTv

-- ================================================================== formatting

/-- `{:02}`. -/
def decimal02 (n : Nat) : Text := if n < 10 then 48 :: decimal n else decimal n

/-- A hexadecimal digit, upper case. -/
def hexDigit (n : Nat) : UInt8 := if n < 10 then (48 + n).toUInt8 else (55 + n).toUInt8

/-- `{:08X}` of a `u32`. -/
def hex08 (n : UInt32) : Text :=
  (List.range 8).map fun i => hexDigit (n.toNat / 16 ^ (7 - i) % 16)

-- ================================================================== publishing

/-- `DotaTvShared`, without the chat between viewers. -/
structure DotaTvShared where
  stream : DotaTvStream
  replayLengthMs : Nat := 0
  lastMarkerMs : Nat := 0
  heartbeatEnabled : Bool := false
  heartbeatPid : UInt8 := 0xFF
  streamDelayMs : Nat := 0
deriving DecidableEq, Repr

/-- What `publish_pending` works on. -/
structure Live where
  shared : DotaTvShared
  body : ReplayBody
  published : Nat := 0
  prologueSent : Bool := false
deriving DecidableEq, Repr

namespace Live

/-- `HEARTBEAT_EVERY_MS`. -/
def heartbeatEveryMs : Nat := 5000

/-- The heartbeat's text. -/
def heartbeatText (nowMs : Nat) (stream : DotaTvStream) : Text :=
  txt "[DTV] t=" ++ decimal02 (nowMs / 60000) ++ txt ":" ++ decimal02 (nowMs % 60000 / 1000)
    ++ txt " pub=" ++ decimal stream.publishedLen ++ txt " crc=" ++ hex08 stream.publishedCrc

/-- The heartbeat of `publish_pending`: a server chat line in the body. -/
def heartbeat (l : Live) : Live :=
  let nowMs := l.body.replayLengthMs
  if l.shared.heartbeatEnabled ∧ heartbeatEveryMs ≤ nowMs - l.shared.lastMarkerMs then
    { l with
      body := l.body.addChat l.shared.heartbeatPid 0x20 0 (heartbeatText nowMs l.shared.stream)
      shared := { l.shared with lastMarkerMs := nowMs } }
  else l

/-- The blocks `drain_new_blocks` would return. -/
def undrained (l : Live) : List UInt8 := l.body.blocks.drop l.published

/-- `drain_new_blocks`. -/
def drainNewBlocks (l : Live) : List UInt8 × Live :=
  (l.undrained, { l with published := l.body.blocks.length })

/-- `set_replay_length`, at the end of `publish_pending`. -/
def noteLength (l : Live) : Live :=
  { l with shared := { l.shared with replayLengthMs := l.body.replayLengthMs } }

/-- Another stream in the shared state. -/
def withStream (l : Live) (stream : DotaTvStream) : Live :=
  { l with shared := { l.shared with stream := stream } }

/-- The `?` operator: an error returns at once. -/
def andThen (r : Except DotaTvError Unit × Live) (next : Live → Except DotaTvError Unit × Live) :
    Except DotaTvError Unit × Live :=
  match r.1 with
  | .error e => (.error e, r.2)
  | .ok _ => next r.2

variable [Zlib]

/-- `push_body` and `flush`, one behind the other. -/
def send (l : Live) (bytes : List UInt8) (clock : Nat → Nat) : Except DotaTvError Unit × Live :=
  match (l.shared.stream.pushBody bytes).flush clock with
  | (.error e, stream) => (.error e, l.withStream stream)
  | (.ok _, stream) => (.ok (), l.withStream stream)

/-- `publish_pending` once the prologue is sent. -/
def publishBlocks (l : Live) (clock : Nat → Nat) : Except DotaTvError Unit × Live :=
  let (fresh, l) := l.heartbeat.drainNewBlocks
  if fresh = [] then (.ok (), l.noteLength)
  else andThen (l.send fresh clock) fun l => (.ok (), l.noteLength)

/-- `publish_pending`. The clocks are those of its two flushes. -/
def publishPending (l : Live) (clock : Nat → Nat → Nat) : Except DotaTvError Unit × Live :=
  if l.prologueSent then l.publishBlocks (clock 1)
  else match l.body.prologue with
    | .error _ => (.ok (), l)
    | .ok prologue =>
        andThen (l.send prologue (clock 0)) fun l =>
          publishBlocks
            { l.withStream l.shared.stream.markPrologueEnd with prologueSent := true } (clock 1)

/-- `flush_pending`, whose error every caller ignores. -/
def flushPending (l : Live) (clock : Nat → Nat) : Live :=
  l.withStream (l.shared.stream.flush clock).2

end Live

-- ======================================================================= runs

/-- What may happen to a body that is being published. -/
inductive LiveOp where
  | addTimeslot (timeIncrement : Nat) (actions : List UInt8)
  | addTimeslot2 (actions : List UInt8)
  | addChat (pid flag : UInt8) (extra : Nat) (message : Text)
  | addLeaver (pid : UInt8) (reason result : Nat)
  | enableHeartbeat (pid : UInt8)
  | flushPending (clock : Nat → Nat)
  | publishPending (clock : Nat → Nat → Nat)

/-- A call of `publish_pending`. -/
def LiveOp.publishes : LiveOp → Bool
  | .publishPending _ => true
  | _ => false

namespace Live

variable [Zlib]

/-- One operation, and what it returns. -/
def op (l : Live) : LiveOp → Except DotaTvError Unit × Live
  | .addTimeslot inc actions => (.ok (), { l with body := l.body.addTimeslot inc actions })
  | .addTimeslot2 actions => (.ok (), { l with body := l.body.addTimeslot2 actions })
  | .addChat pid flag extra message =>
      (.ok (), { l with body := l.body.addChat pid flag extra message })
  | .addLeaver pid reason result => (.ok (), { l with body := l.body.addLeaver pid reason result })
  | .enableHeartbeat pid =>
      (.ok (), { l with shared := { l.shared with heartbeatEnabled := true, heartbeatPid := pid } })
  | .flushPending clock => (.ok (), l.flushPending clock)
  | .publishPending clock => l.publishPending clock

/-- Operations one after another. -/
def run : List LiveOp → Live → Live
  | [], l => l
  | o :: rest, l => run rest (l.op o).2

/-- No operation of a run fails. -/
def Succeeds : List LiveOp → Live → Prop
  | [], _ => True
  | o :: rest, l => (l.op o).1 = .ok () ∧ Succeeds rest (l.op o).2

end Live

-- ================================================== the stream and the saved body

section Proofs

variable [Zlib] {l : Live} {f : Feed} {p : List UInt8}

omit [Zlib] in
/-- What `?` lets through has succeeded. -/
theorem andThen_ok {r : Except DotaTvError Unit × Live}
    {next : Live → Except DotaTvError Unit × Live} (h : (Live.andThen r next).1 = .ok ()) :
    r.1 = .ok () ∧ Live.andThen r next = next r.2 := by
  unfold Live.andThen at h ⊢
  cases hr : r.1 with
  | error e =>
      rw [hr] at h
      cases h
  | ok u => exact ⟨rfl, rfl⟩

/-- Sending is flushing the feed with the bytes behind it. -/
theorem Carries.send (h : Carries l.shared.stream f) (bytes : List UInt8) (clock : Nat → Nat) :
    ∃ stream, (l.send bytes clock).2 = l.withStream stream
      ∧ Carries stream ((f.push bytes).flush clock).2
      ∧ ((l.send bytes clock).1 = .ok () → ∃ n, ((f.push bytes).flush clock).1 = .ok n) := by
  obtain ⟨hres, hcarries⟩ := (h.pushBody bytes).flushTrimming DotaTvStream.trimsNow clock
  unfold Live.send DotaTvStream.flush
  generalize (l.shared.stream.pushBody bytes).flushTrimming DotaTvStream.trimsNow clock = r
    at hres hcarries
  obtain ⟨r, stream⟩ := r
  cases r with
  | error e =>
      refine ⟨stream, rfl, hcarries, ?_⟩
      intro hok
      cases hok
  | ok n => exact ⟨stream, rfl, hcarries, fun _ => ⟨n, hres.symm⟩⟩

/-- Bytes sent without an error are published behind the others. -/
theorem Carries.send_ok (h : Carries l.shared.stream f) (hnone : f.pending = [])
    {bytes : List UInt8} {clock : Nat → Nat} (hok : (l.send bytes clock).1 = .ok ()) :
    ∃ stream g, (l.send bytes clock).2 = l.withStream stream ∧ Carries stream g
      ∧ g.pending = [] ∧ g.body = f.body ++ bytes := by
  obtain ⟨stream, heq, hcarries, hresult⟩ := h.send bytes clock
  obtain ⟨n, hn⟩ := hresult hok
  obtain ⟨hempty, hbody⟩ := Feed.flush_ok hn
  refine ⟨stream, _, heq, hcarries, hempty, ?_⟩
  rw [hbody]
  show f.body ++ (f.pending ++ bytes) = f.body ++ bytes
  rw [hnone, List.nil_append]

/-- The prologue and the blocks drained so far are what has been
published, and nothing waits in the stream. -/
structure Synced (p : List UInt8) (l : Live) : Prop where
  prologue : l.body.prologue = .ok p
  drained : l.published ≤ l.body.blocks.length
  unsent : l.prologueSent = false → l.published = 0
  stream : ∃ f, Carries l.shared.stream f ∧ f.pending = []
    ∧ f.body = if l.prologueSent then p ++ l.body.blocks.take l.published else []

/-- A record behind the others changes nothing of what is published. -/
theorem Synced.add_record (h : Synced p l) {body : ReplayBody} {r : ReplayRecord}
    (hprologue : body.prologue = l.body.prologue)
    (hrecords : body.records = l.body.records ++ [r]) :
    Synced p { l with body := body } := by
  have hblocks : body.blocks = l.body.blocks ++ r.bytes := by
    rw [ReplayBody.blocks, hrecords, List.flatMap_append, List.flatMap_singleton]
    rfl
  refine ⟨hprologue.trans h.prologue, ?_, h.unsent, ?_⟩
  · show l.published ≤ body.blocks.length
    rw [hblocks, List.length_append]
    exact Nat.le_add_right_of_le h.drained
  · obtain ⟨f, hcarries, hnone, hbody⟩ := h.stream
    refine ⟨f, hcarries, hnone, ?_⟩
    show f.body = if l.prologueSent then p ++ body.blocks.take l.published else []
    rw [hblocks, List.take_append_of_le_length h.drained]
    exact hbody

omit [Zlib] in
/-- The heartbeat does nothing, or adds one chat line and notes when. -/
theorem heartbeat_cases (l : Live) :
    l.heartbeat = l ∨ ∃ pid message ms,
      l.heartbeat = { l with
        body := l.body.addChat pid 0x20 0 message
        shared := { l.shared with lastMarkerMs := ms } } := by
  unfold Live.heartbeat
  by_cases hdue : l.shared.heartbeatEnabled
      ∧ Live.heartbeatEveryMs ≤ l.body.replayLengthMs - l.shared.lastMarkerMs
  · right
    exact ⟨_, _, _, if_pos hdue⟩
  · left
    exact if_neg hdue

omit [Zlib] in
theorem heartbeat_prologueSent (l : Live) : l.heartbeat.prologueSent = l.prologueSent := by
  obtain heq | ⟨pid, message, ms, heq⟩ := heartbeat_cases l
  · rw [heq]
  · rw [heq]

/-- The heartbeat is a record like any other. -/
theorem Synced.heartbeat (h : Synced p l) : Synced p l.heartbeat := by
  obtain heq | ⟨pid, message, ms, heq⟩ := heartbeat_cases l
  · rw [heq]
    exact h
  · have hadd : Synced p { l with body := l.body.addChat pid 0x20 0 message } :=
      h.add_record rfl rfl
    rw [heq]
    exact ⟨hadd.prologue, hadd.drained, hadd.unsent, hadd.stream⟩

/-- The state once the fresh blocks have been drained. -/
def Live.afterDrain (l : Live) : Live := l.heartbeat.drainNewBlocks.2

theorem publishBlocks_eq (l : Live) (clock : Nat → Nat) :
    l.publishBlocks clock =
      if l.heartbeat.undrained = [] then (.ok (), l.afterDrain.noteLength)
      else Live.andThen (l.afterDrain.send l.heartbeat.undrained clock)
        fun l => (.ok (), l.noteLength) := rfl

/-- The state once the prologue is out. -/
def Live.afterPrologue (l : Live) : Live :=
  { l.withStream l.shared.stream.markPrologueEnd with prologueSent := true }

theorem publishPending_unsent (hsent : l.prologueSent = false) (hp : l.body.prologue = .ok p)
    (clock : Nat → Nat → Nat) :
    l.publishPending clock =
      Live.andThen (l.send p (clock 0)) fun l => l.afterPrologue.publishBlocks (clock 1) := by
  unfold Live.publishPending
  rw [if_neg (Bool.eq_false_iff.1 hsent), hp]
  rfl

/-- Everything drained has been published. -/
theorem Synced.publishBlocks (h : Synced p l) (hsent : l.prologueSent = true) {clock : Nat → Nat}
    (hok : (l.publishBlocks clock).1 = .ok ()) :
    Synced p (l.publishBlocks clock).2 ∧ (l.publishBlocks clock).2.prologueSent = true := by
  have hbeat := h.heartbeat
  have hsent' : l.heartbeat.prologueSent = true := (heartbeat_prologueSent l).trans hsent
  obtain ⟨f, hcarries, hnone, hbody⟩ := hbeat.stream
  rw [hsent', if_pos rfl] at hbody
  have hall : f.body ++ l.heartbeat.undrained = p ++ l.heartbeat.body.blocks := by
    rw [hbody, Live.undrained, List.append_assoc, List.take_append_drop]
  -- a stream that holds all of the body is what the calls below leave
  have hdone : ∀ {stream : DotaTvStream} {g : Feed}, Carries stream g → g.pending = [] →
      g.body = p ++ l.heartbeat.body.blocks →
      Synced p (l.afterDrain.withStream stream).noteLength := by
    intro stream g hstream hg hgbody
    refine ⟨hbeat.prologue, Nat.le_refl _, fun hn => ?_, g, hstream, hg, ?_⟩
    · exact absurd (hsent'.symm.trans hn) (by decide)
    · show g.body = if l.heartbeat.prologueSent then
        p ++ l.heartbeat.body.blocks.take l.heartbeat.body.blocks.length else []
      rw [hsent', if_pos rfl, List.take_length, hgbody]
  rw [publishBlocks_eq] at hok ⊢
  by_cases hfresh : l.heartbeat.undrained = []
  · rw [if_pos hfresh]
    rw [hfresh, List.append_nil] at hall
    exact ⟨hdone hcarries hnone hall, hsent'⟩
  · rw [if_neg hfresh] at hok ⊢
    have hafter : Carries l.afterDrain.shared.stream f := hcarries
    obtain ⟨hsend, heq⟩ := andThen_ok hok
    obtain ⟨stream, g, hstate, hstream, hg, hgbody⟩ := hafter.send_ok hnone hsend
    rw [heq, hstate]
    rw [hall] at hgbody
    exact ⟨hdone hstream hg hgbody, hsent'⟩

/-- Publishing keeps the stream at the body, and sends the prologue if
it was not sent. -/
theorem Synced.publishPending (h : Synced p l) {clock : Nat → Nat → Nat}
    (hok : (l.publishPending clock).1 = .ok ()) :
    Synced p (l.publishPending clock).2 ∧ (l.publishPending clock).2.prologueSent = true := by
  by_cases hsent : l.prologueSent = true
  · unfold Live.publishPending at hok ⊢
    rw [if_pos hsent] at hok ⊢
    exact h.publishBlocks hsent hok
  · have hunsent : l.prologueSent = false := Bool.eq_false_iff.2 hsent
    rw [publishPending_unsent hunsent h.prologue] at hok ⊢
    obtain ⟨f, hcarries, hnone, hbody⟩ := h.stream
    rw [hunsent, if_neg Bool.false_ne_true] at hbody
    obtain ⟨hsend, heq⟩ := andThen_ok hok
    obtain ⟨stream, g, hstate, hstream, hg, hgbody⟩ := hcarries.send_ok hnone hsend
    rw [hbody, List.nil_append] at hgbody
    rw [heq, hstate] at hok ⊢
    -- the prologue is out and no block is yet
    have hout : Synced p (l.withStream stream).afterPrologue := by
      refine ⟨h.prologue, h.drained, fun hn => ?_, g, hstream.markPrologueEnd, hg, ?_⟩
      · cases hn
      · show g.body = if true then p ++ l.body.blocks.take l.published else []
        rw [if_pos rfl, h.unsent hunsent, List.take_zero, List.append_nil, hgbody]
    exact hout.publishBlocks rfl hok

theorem Synced.flushPending (h : Synced p l) (clock : Nat → Nat) :
    Synced p (l.flushPending clock) := by
  obtain ⟨f, hcarries, hnone, hbody⟩ := h.stream
  have hflush := (hcarries.flushTrimming DotaTvStream.trimsNow clock).2
  rw [Feed.flush_nil hnone] at hflush
  exact ⟨h.prologue, h.drained, h.unsent, f, hflush, hnone, hbody⟩

/-- Every operation that does not fail keeps the stream at the body; the
prologue is sent once `publish_pending` has been called. -/
theorem Synced.op (h : Synced p l) {o : LiveOp} (hok : (l.op o).1 = .ok ()) :
    Synced p (l.op o).2
      ∧ (l.prologueSent = true ∨ o.publishes = true → (l.op o).2.prologueSent = true) := by
  cases o with
  | addTimeslot inc actions =>
      exact ⟨h.add_record rfl rfl, fun hs => hs.resolve_right Bool.false_ne_true⟩
  | addTimeslot2 actions =>
      exact ⟨h.add_record rfl rfl, fun hs => hs.resolve_right Bool.false_ne_true⟩
  | addChat pid flag extra message =>
      exact ⟨h.add_record rfl rfl, fun hs => hs.resolve_right Bool.false_ne_true⟩
  | addLeaver pid reason result =>
      exact ⟨h.add_record rfl rfl, fun hs => hs.resolve_right Bool.false_ne_true⟩
  | enableHeartbeat pid =>
      exact ⟨⟨h.prologue, h.drained, h.unsent, h.stream⟩,
        fun hs => hs.resolve_right Bool.false_ne_true⟩
  | flushPending clock =>
      exact ⟨h.flushPending clock, fun hs => hs.resolve_right Bool.false_ne_true⟩
  | publishPending clock =>
      obtain ⟨hsynced, hsent⟩ := h.publishPending hok
      exact ⟨hsynced, fun _ => hsent⟩

theorem Synced.run {ops : List LiveOp} (h : Synced p l) (hok : Live.Succeeds ops l) :
    Synced p (l.run ops)
      ∧ (l.prologueSent = true ∨ (∃ o ∈ ops, o.publishes = true) →
          (l.run ops).prologueSent = true) := by
  induction ops generalizing l with
  | nil =>
      refine ⟨h, ?_⟩
      rintro (hs | ⟨o, ho, -⟩)
      · exact hs
      · cases ho
  | cons o rest ih =>
      obtain ⟨hfirst, hrest⟩ := hok
      obtain ⟨hop, hsent⟩ := h.op hfirst
      obtain ⟨hend, hlast⟩ := ih hop hrest
      refine ⟨hend, ?_⟩
      rintro (hs | ⟨o', ho', hp⟩)
      · exact hlast (.inl (hsent (.inl hs)))
      · rcases List.mem_cons.1 ho' with rfl | hmem
        · exact hlast (.inl (hsent (.inr hp)))
        · exact hlast (.inr ⟨o', hmem, hp⟩)

/-- A body about to be published on a fresh stream. -/
def Live.start (shared : DotaTvShared) (war3Version : UInt32) (build : UInt16) (tft : Bool)
    (body : ReplayBody) : Live :=
  { shared := { shared with stream := .new war3Version build tft }, body := body }

theorem synced_start {body : ReplayBody} (h : body.prologue = .ok p) (shared : DotaTvShared)
    (war3Version : UInt32) (build : UInt16) (tft : Bool) :
    Synced p (Live.start shared war3Version build tft body) :=
  ⟨h, Nat.zero_le _, fun _ => rfl, .empty, carries_new war3Version build tft, rfl, rfl⟩

omit [Zlib] in
theorem prologue_of_startSet {body : ReplayBody} (h : body.startSet = true) :
    ∃ p, body.prologue = .ok p := by
  unfold ReplayBody.prologue
  rw [if_pos h]
  exact ⟨_, rfl⟩

/-- From the first `publish_pending` on, what viewers have and what is
still to be drained are together the body that is saved. -/
theorem live_stream_equals_replay {body : ReplayBody} (hstart : body.startSet = true)
    (shared : DotaTvShared) (war3Version : UInt32) (build : UInt16) (tft : Bool)
    (ops : List LiveOp) (hok : Live.Succeeds ops (Live.start shared war3Version build tft body))
    (hpublishes : ∃ o ∈ ops, o.publishes = true) :
    let l := (Live.start shared war3Version build tft body).run ops
    ∃ streamed saved ms, inflate l.shared.stream.frames = some streamed
      ∧ l.body.finish = .ok (saved, ms) ∧ streamed ++ l.undrained = saved := by
  intro l
  obtain ⟨p, hp⟩ := prologue_of_startSet hstart
  obtain ⟨hsynced, hsent⟩ := (synced_start hp shared war3Version build tft).run hok
  obtain ⟨f, hcarries, -, hbody⟩ := hsynced.stream
  rw [hsent (.inr hpublishes), if_pos rfl] at hbody
  refine ⟨f.body, p ++ l.body.blocks, l.body.replayLengthMs, ?_, ?_, ?_⟩
  · rw [hcarries.frames, inflate_map_of]
    rfl
  · unfold ReplayBody.finish
    rw [hsynced.prologue]
  · rw [hbody, Live.undrained, List.append_assoc, List.take_append_drop]

end Proofs

-- ======================================================================= a game

section Scenario

attribute [local instance] runLength

/-- A body that is ready to be published: one player, one slot. -/
def smallBody : ReplayBody :=
  ((({ hostPid := 1, hostName := txt "host" } : ReplayBody).addPlayer 2 (txt "viewer")).setStart
    (List.replicate 9 0) 1 0 1)

/-- It, on a fresh stream, with the heartbeat on. -/
def smallLive : Live :=
  .start { stream := .for126a, heartbeatEnabled := true } 26 6059 true smallBody

/-- Two calls of `publish_pending`, the second with a heartbeat due, and
a record after each. -/
def smallOps : List LiveOp :=
  [.addTimeslot 100 [0xAA], .publishPending fun _ k => k, .addTimeslot 6000 [0xBB, 0xBB],
    .addChat 2 0x20 0 (txt "gg"), .publishPending fun _ k => k, .addLeaver 2 1 9]

instance decidableSucceeds [Zlib] : ∀ (ops : List LiveOp) (l : Live),
    Decidable (Live.Succeeds ops l)
  | [], _ => inferInstanceAs (Decidable True)
  | o :: rest, l =>
      have := decidableSucceeds rest (l.op o).2
      inferInstanceAs (Decidable ((l.op o).1 = .ok () ∧ _))

/-- The theorem at the game above. -/
theorem live_stream_equals_replay_smallGame :
    Live.Succeeds smallOps smallLive
      ∧ ∃ streamed saved ms, inflate (smallLive.run smallOps).shared.stream.frames = some streamed
        ∧ (smallLive.run smallOps).body.finish = .ok (saved, ms)
        ∧ streamed ++ (smallLive.run smallOps).undrained = saved := by
  have hok : Live.Succeeds smallOps smallLive := by decide +kernel
  have hstart : smallBody.startSet = true := by decide
  exact ⟨hok, live_stream_equals_replay hstart { stream := .for126a, heartbeatEnabled := true }
    26 6059 true smallOps hok ⟨_, .tail _ (.head _), rfl⟩⟩

/-- Before the first `publish_pending` the prologue is nowhere: a block
is waiting to be drained, but it alone is not the body that is saved. -/
theorem unpublished_prologue_is_missing :
    let l := smallLive.run [.addTimeslot 100 [0xAA]]
    Live.Succeeds [.addTimeslot 100 [0xAA]] smallLive
      ∧ smallBody.startSet = true
      ∧ inflate l.shared.stream.frames = some []
      ∧ ∃ saved ms, l.body.finish = .ok (saved, ms) ∧ [] ++ l.undrained ≠ saved := by
  refine ⟨by decide +kernel, by decide, rfl, _, _, rfl, ?_⟩
  decide +kernel

end Scenario

end Spectre.DotaTv

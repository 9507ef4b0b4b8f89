/-
When the live stream of a game dies (`flush`, and `publish_dotatv` of
the engine).

A flush cuts the pending bytes at every multiple of the chunk size and
compresses each piece; a piece that comes out larger than a chunk fails
the flush, and `publish_dotatv` then gives the stream up for good. The
limit on a piece and the limit on what it is compressed to are the same
number, so a piece that cannot be compressed and is nearly a chunk long
is refused: deflate adds a few bytes to what it cannot shorten.

What a flush will cut is plain from the state before it
(`DotaTvStream.due`), and it succeeds if and only if each of these
pieces fits (`Carries.flush_ok_iff`). The rest is which bytes are
pending at which flush.
-/
import Spectre.W3gFiles

namespace Spectre.DotaTv

-- ============================================================ what will be cut

/-- Bytes that begin at an offset, cut at the multiples of the chunk
size; for at most `fuel` pieces. -/
def splitBlocks : Nat → Nat → List UInt8 → List (List UInt8)
  | 0, _, _ => []
  | fuel + 1, off, bytes =>
      if bytes = [] then []
      else
        let n := min bytes.length (chunkSize - off % chunkSize)
        bytes.take n :: splitBlocks fuel (off + n) (bytes.drop n)

/-- The pieces the next flush will cut. -/
def DotaTvStream.due (s : DotaTvStream) : List (List UInt8) :=
  splitBlocks s.pending.length s.publishedLen s.pending

section Fitting

variable [Zlib]

/-- What is added to bytes that cannot be compressed, up to a chunk of
them. -/
def AddsSixteen : Prop :=
  ∀ bytes : List UInt8, bytes.length ≤ chunkSize → (Zlib.compress bytes).length ≤ bytes.length + 16

/-- A piece has the room the compressor may need, or does not need it. -/
def PieceFits (p : List UInt8) : Prop :=
  p.length + 16 ≤ chunkSize ∨ (Zlib.compress p).length ≤ chunkSize

/-- Every piece the next flush will cut fits. -/
def DotaTvStream.Fitting (s : DotaTvStream) : Prop := ∀ p ∈ s.due, PieceFits p

-- ---------------------------------------------------------------- on the feed

/-- Where nothing is added beyond sixteen bytes, a piece fits if its
compressed form does. -/
theorem pieceFits_iff (hadds : AddsSixteen) {p : List UInt8} (hp : p.length ≤ chunkSize) :
    PieceFits p ↔ ¬chunkSize < (Zlib.compress p).length := by
  have hmore := hadds p hp
  unfold PieceFits
  omega

/-- The loop cuts exactly the pieces that are due, and gets through if
each of them fits. -/
theorem Feed.flushLoop_ok_iff (hadds : AddsSixteen) (clock : Nat → Nat)
    (fuel cut : Nat) (f : Feed) :
    (∃ n, (f.flushLoop clock fuel cut).1 = .ok n)
      ↔ ∀ p ∈ splitBlocks fuel f.body.length f.pending, PieceFits p := by
  induction fuel generalizing f cut with
  | zero => exact ⟨fun _ _ hp => absurd hp List.not_mem_nil, fun _ => ⟨cut, rfl⟩⟩
  | succ fuel ih =>
      unfold Feed.flushLoop splitBlocks
      by_cases hp : f.pending = []
      · rw [dif_pos hp, if_pos hp]
        exact ⟨fun _ _ hq => absurd hq List.not_mem_nil, fun _ => ⟨cut, rfl⟩⟩
      · rw [dif_neg hp, if_neg hp, List.forall_mem_cons]
        have hnext : f.pending.take (min f.pending.length (chunkSize - f.body.length % chunkSize))
            = f.next := rfl
        have hshort : f.next.length ≤ chunkSize := by
          rw [f.next_length]
          unfold Feed.cutLen
          omega
        rw [hnext, pieceFits_iff hadds hshort]
        by_cases hbig : chunkSize < (Zlib.compress f.next).length
        · rw [if_pos hbig]
          refine iff_of_false (fun h => ?_) fun h => absurd hbig h.1
          obtain ⟨n, hn⟩ := h
          cases hn
        · rw [if_neg hbig, ih]
          have hbody : (f.cut (clock cut) hp).body.length = f.body.length + f.cutLen := by
            show (f.pieces ++ [f.next]).flatten.length = f.pieces.flatten.length + f.cutLen
            rw [List.flatten_append, List.length_append, List.flatten_singleton, f.next_length]
          rw [hbody]
          exact ⟨fun h => ⟨hbig, h⟩, fun h => h.2⟩

-- -------------------------------------------------------------- on the stream

variable {s : DotaTvStream} {f : Feed}

/-- A flush succeeds if and only if every piece it will cut fits. -/
theorem Carries.flush_ok_iff (h : Carries s f) (hadds : AddsSixteen) (clock : Nat → Nat) :
    (∃ n, (s.flush clock).1 = .ok n) ↔ s.Fitting := by
  have hresult : (s.flush clock).1 = (f.flush clock).1 := (h.flushTrimming _ clock).1
  have hdue : s.due = splitBlocks f.pending.length f.body.length f.pending := by
    unfold DotaTvStream.due
    rw [h.pending, h.published]
  unfold DotaTvStream.Fitting
  rw [hresult, hdue]
  exact Feed.flushLoop_ok_iff hadds clock _ 0 f

-- ======================================================================= calls

/-- Every flush of some calls finds pieces that fit. -/
def FlushesFit : List StreamCall → DotaTvStream → Prop
  | [], _ => True
  | .push bytes :: rest, s => FlushesFit rest (s.pushBody bytes)
  | .flush clock :: rest, s => s.Fitting ∧ FlushesFit rest (s.flush clock).2

/-- No call failed. -/
def NoneTooLarge (results : List (Except DotaTvError Nat)) : Prop :=
  ∀ r ∈ results, ∀ n, r ≠ .error (.chunkTooLarge n)

omit [Zlib] in
/-- There is no other error. -/
theorem not_tooLarge_iff (r : Except DotaTvError Nat) :
    (∀ n, r ≠ .error (.chunkTooLarge n)) ↔ ∃ n, r = .ok n := by
  constructor
  · intro h
    cases r with
    | ok n => exact ⟨n, rfl⟩
    | error e =>
        cases e with
        | chunkTooLarge n => exact absurd rfl (h n)
  · rintro ⟨n, rfl⟩ m hm
    cases hm

/-- The calls all succeed if every flush finds pieces that fit. -/
theorem Carries.calls_iff (hadds : AddsSixteen) (calls : List StreamCall) (h : Carries s f) :
    NoneTooLarge (s.run calls).1 ↔ FlushesFit calls s := by
  induction calls generalizing s f with
  | nil => exact ⟨fun _ => trivial, fun _ _ hr => (nomatch hr)⟩
  | cons c rest ih =>
      cases c with
      | push bytes =>
          have hrest := ih (h.pushBody bytes)
          have hrun : (s.run (.push bytes :: rest)).1 = .ok 0 :: ((s.pushBody bytes).run rest).1 :=
            rfl
          unfold NoneTooLarge at hrest ⊢
          rw [hrun, List.forall_mem_cons, hrest]
          exact ⟨fun h => h.2, fun h => ⟨fun _ hn => (nomatch hn), h⟩⟩
      | flush clock =>
          have hrest := ih (h.flushTrimming DotaTvStream.trimsNow clock).2
          have hrun : (s.run (.flush clock :: rest)).1
              = (s.flush clock).1 :: ((s.flush clock).2.run rest).1 := rfl
          unfold NoneTooLarge at hrest ⊢
          rw [hrun, List.forall_mem_cons, not_tooLarge_iff, h.flush_ok_iff hadds]
          exact and_congr_right fun _ => hrest

-- ================================================================= publish_dotatv

/-- The stream as the game has it: `dotatv` is `Some` while it is
enabled. -/
structure Publisher where
  live : Live
  enabled : Bool

/-- `publish_dotatv`: an error disables the stream. -/
def Publisher.publishDotatv (g : Publisher) (clock : Nat → Nat → Nat) : Publisher :=
  if g.enabled then
    match g.live.publishPending clock with
    | (.ok _, live) => { live := live, enabled := true }
    | (.error _, live) => { live := live, enabled := false }
  else g

/-- An operation, publishing being the engine's. -/
def Publisher.step (g : Publisher) : LiveOp → Publisher
  | .publishPending clock => g.publishDotatv clock
  | o => { g with live := (g.live.op o).2 }

/-- Operations one after another. -/
def Publisher.run (ops : List LiveOp) (g : Publisher) : Publisher := ops.foldl Publisher.step g

/-- What is sent with the fresh blocks fits, if there are any. -/
def Live.BlocksFit (l : Live) : Prop :=
  l.heartbeat.undrained ≠ [] → (l.shared.stream.pushBody l.heartbeat.undrained).Fitting

/-- What the next `publish_pending` sends fits: the prologue if it has
not been sent, and then the fresh blocks. -/
def Live.PublishFits (l : Live) (clock : Nat → Nat → Nat) : Prop :=
  if l.prologueSent then l.BlocksFit
  else ∀ prologue, l.body.prologue = .ok prologue →
    (l.shared.stream.pushBody prologue).Fitting
      ∧ (l.send prologue (clock 0)).2.afterPrologue.BlocksFit

/-- What an operation sends fits, if it sends. -/
def Publisher.StepFits (g : Publisher) : LiveOp → Prop
  | .publishPending clock => g.enabled = true → g.live.PublishFits clock
  | _ => True

/-- What each operation of a run sends fits. -/
def Publisher.RunFits : List LiveOp → Publisher → Prop
  | [], _ => True
  | o :: rest, g => g.StepFits o ∧ RunFits rest (g.step o)

variable {l : Live}

/-- The live state's stream holds some feed. -/
def Streams (l : Live) : Prop := ∃ f, Carries l.shared.stream f

/-- A send. -/
theorem Streams.send (h : Streams l) (bytes : List UInt8) (clock : Nat → Nat) :
    Streams (l.send bytes clock).2 := by
  obtain ⟨f, hf⟩ := h
  obtain ⟨stream, heq, hcarries, _⟩ := hf.send bytes clock
  rw [heq]
  exact ⟨_, hcarries⟩

/-- The prologue is out. -/
theorem Streams.afterPrologue (h : Streams l) : Streams l.afterPrologue := by
  obtain ⟨f, hf⟩ := h
  exact ⟨f, hf.markPrologueEnd⟩

omit [Zlib] in
/-- Neither the heartbeat nor draining touches the stream. -/
theorem afterDrain_stream (l : Live) : l.afterDrain.shared.stream = l.shared.stream := by
  show l.heartbeat.shared.stream = _
  obtain heq | ⟨pid, message, ms, heq⟩ := heartbeat_cases l
  · rw [heq]
  · rw [heq]

/-- The pending records are taken over. -/
theorem Streams.afterDrain (h : Streams l) : Streams l.afterDrain := by
  unfold Streams
  rw [afterDrain_stream]
  exact h

/-- Sending succeeds if and only if the pieces fit. -/
theorem Streams.send_ok_iff (h : Streams l) (hadds : AddsSixteen) (bytes : List UInt8)
    (clock : Nat → Nat) :
    (l.send bytes clock).1 = .ok () ↔ (l.shared.stream.pushBody bytes).Fitting := by
  obtain ⟨f, hf⟩ := h
  rw [← (hf.pushBody bytes).flush_ok_iff hadds clock]
  unfold Live.send
  generalize (l.shared.stream.pushBody bytes).flush clock = r
  obtain ⟨r, stream⟩ := r
  cases r with
  | ok n => exact ⟨fun _ => ⟨n, rfl⟩, fun _ => rfl⟩
  | error e => exact ⟨fun h => (nomatch h), fun ⟨n, hn⟩ => (nomatch hn)⟩

omit [Zlib] in
/-- A computation behind `?` succeeds if both parts do. -/
theorem andThen_ok_iff (r : Except DotaTvError Unit × Live)
    (next : Live → Except DotaTvError Unit × Live) :
    (Live.andThen r next).1 = .ok () ↔ r.1 = .ok () ∧ (next r.2).1 = .ok () := by
  unfold Live.andThen
  cases hr : r.1 with
  | ok u => exact ⟨fun h => ⟨rfl, h⟩, fun h => h.2⟩
  | error e => exact ⟨fun h => (nomatch h), fun h => (nomatch h.1)⟩

/-- Fresh blocks go out if they fit. -/
theorem Streams.publishBlocks_ok_iff (h : Streams l) (hadds : AddsSixteen) (clock : Nat → Nat) :
    (l.publishBlocks clock).1 = .ok () ↔ l.BlocksFit := by
  rw [publishBlocks_eq]
  unfold Live.BlocksFit
  by_cases hfresh : l.heartbeat.undrained = []
  · rw [if_pos hfresh]
    exact ⟨fun _ hne => absurd hfresh hne, fun _ => rfl⟩
  · rw [if_neg hfresh, andThen_ok_iff, h.afterDrain.send_ok_iff hadds, afterDrain_stream]
    exact ⟨fun hok _ => hok.1, fun hok => ⟨hok hfresh, rfl⟩⟩

/-- `publish_pending` succeeds if and only if what it sends fits. -/
theorem Streams.publishPending_ok_iff (h : Streams l) (hadds : AddsSixteen)
    (clock : Nat → Nat → Nat) :
    (l.publishPending clock).1 = .ok () ↔ l.PublishFits clock := by
  unfold Live.PublishFits
  by_cases hsent : l.prologueSent = true
  · unfold Live.publishPending
    rw [if_pos hsent, if_pos hsent]
    exact h.publishBlocks_ok_iff hadds (clock 1)
  · rw [if_neg hsent]
    cases hp : l.body.prologue with
    | error e =>
        unfold Live.publishPending
        rw [if_neg hsent, hp]
        exact ⟨fun _ _ hq => (nomatch hq), fun _ => rfl⟩
    | ok p =>
        rw [publishPending_unsent (Bool.eq_false_iff.2 hsent) hp, andThen_ok_iff,
          h.send_ok_iff hadds, ((h.send p (clock 0)).afterPrologue).publishBlocks_ok_iff hadds]
        constructor
        · rintro hok q hq
          cases hq
          exact hok
        · exact fun hok => hok p rfl

-- ----------------------------------------------------------------- whole runs

/-- Whatever comes of publishing, the stream holds a feed. -/
theorem Streams.andThen {r : Except DotaTvError Unit × Live}
    {next : Live → Except DotaTvError Unit × Live} (h : Streams r.2)
    (hnext : ∀ l, Streams l → Streams (next l).2) : Streams (Live.andThen r next).2 := by
  unfold Live.andThen
  cases r.1 with
  | ok u => exact hnext r.2 h
  | error e => exact h

/-- Be that so or not, the stream holds a feed. -/
theorem Streams.publishBlocks (h : Streams l) (clock : Nat → Nat) :
    Streams (l.publishBlocks clock).2 := by
  rw [publishBlocks_eq]
  by_cases hfresh : l.heartbeat.undrained = []
  · rw [if_pos hfresh]
    exact h.afterDrain
  · rw [if_neg hfresh]
    exact (h.afterDrain.send _ clock).andThen fun _ hl => hl

/-- The same, of all that is pending. -/
theorem Streams.publishPending (h : Streams l) (clock : Nat → Nat → Nat) :
    Streams (l.publishPending clock).2 := by
  by_cases hsent : l.prologueSent = true
  · unfold Live.publishPending
    rw [if_pos hsent]
    exact h.publishBlocks (clock 1)
  · cases hp : l.body.prologue with
    | error e =>
        unfold Live.publishPending
        rw [if_neg hsent, hp]
        exact h
    | ok p =>
        rw [publishPending_unsent (Bool.eq_false_iff.2 hsent) hp]
        exact (h.send p (clock 0)).andThen fun _ hl => hl.afterPrologue.publishBlocks (clock 1)

/-- An operation of the publisher. -/
theorem Streams.step {g : Publisher} (h : Streams g.live) (o : LiveOp) :
    Streams (g.step o).live := by
  cases o with
  | publishPending clock =>
      show Streams (g.publishDotatv clock).live
      have hlive := h.publishPending clock
      unfold Publisher.publishDotatv
      generalize g.live.publishPending clock = r at hlive
      obtain ⟨r, live⟩ := r
      split
      · cases r with
        | ok u => exact hlive
        | error e => exact hlive
      · exact h
  | flushPending clock =>
      obtain ⟨f, hf⟩ := h
      exact ⟨_, (hf.flushTrimming DotaTvStream.trimsNow clock).2⟩
  | _ => exact h

/-- A step leaves an enabled stream enabled if and only if what it sends
fits. -/
theorem Streams.step_enabled_iff {g : Publisher} (h : Streams g.live) (hadds : AddsSixteen)
    (hon : g.enabled = true) (o : LiveOp) : (g.step o).enabled = true ↔ g.StepFits o := by
  cases o with
  | publishPending clock =>
      show (g.publishDotatv clock).enabled = true ↔ (g.enabled = true → g.live.PublishFits clock)
      rw [← h.publishPending_ok_iff hadds]
      unfold Publisher.publishDotatv
      generalize g.live.publishPending clock = r
      obtain ⟨r, live⟩ := r
      rw [if_pos hon]
      cases r with
      | ok u => exact ⟨fun _ _ => rfl, fun _ => rfl⟩
      | error e => exact ⟨fun h => (nomatch h), fun h => (nomatch h hon)⟩
  | _ => exact ⟨fun _ => trivial, fun _ => hon⟩

/-- A stream that is disabled stays so. -/
theorem Publisher.run_disabled (ops : List LiveOp) {g : Publisher} (h : g.enabled = false) :
    (g.run ops).enabled = false := by
  induction ops generalizing g with
  | nil => exact h
  | cons o rest ih =>
      refine ih (g := g.step o) ?_
      cases o with
      | publishPending clock =>
          show (g.publishDotatv clock).enabled = false
          unfold Publisher.publishDotatv
          rw [if_neg (by rw [h]; exact Bool.false_ne_true)]
          exact h
      | _ => exact h

/-- The stream stays enabled as long as everything fits. -/
theorem Streams.run_enabled_iff (hadds : AddsSixteen) (ops : List LiveOp) {g : Publisher}
    (h : Streams g.live) (hon : g.enabled = true) : (g.run ops).enabled = true ↔ g.RunFits ops := by
  induction ops generalizing g with
  | nil => exact ⟨fun _ => trivial, fun _ => hon⟩
  | cons o rest ih =>
      have hstep := h.step_enabled_iff hadds hon o
      show ((g.step o).run rest).enabled = true ↔ g.StepFits o ∧ (g.step o).RunFits rest
      cases hafter : (g.step o).enabled with
      | true =>
          rw [ih (h.step o) hafter]
          exact ⟨fun hrest => ⟨hstep.1 hafter, hrest⟩, fun hall => hall.2⟩
      | false =>
          have hoff := Publisher.run_disabled rest hafter
          refine ⟨fun hend => ?_, fun hall => ?_⟩
          · rw [hoff] at hend
            cases hend
          · have hkept := hstep.2 hall.1
            rw [hafter] at hkept
            cases hkept

/-- No flush of a stream fails, and no call of `publish_dotatv` disables
it, if and only if every flush finds pieces that fit. -/
theorem live_stream_survives_iff (hadds : AddsSixteen) (war3Version : UInt32) (build : UInt16)
    (tft : Bool) :
    (∀ calls : List StreamCall, NoneTooLarge ((DotaTvStream.new war3Version build tft).run calls).1
        ↔ FlushesFit calls (.new war3Version build tft))
      ∧ ∀ (shared : DotaTvShared) (body : ReplayBody) (ops : List LiveOp),
        (Publisher.run ops ⟨.start shared war3Version build tft body, true⟩).enabled = true
          ↔ Publisher.RunFits ops ⟨.start shared war3Version build tft body, true⟩ := by
  constructor
  · intro calls
    exact (carries_new war3Version build tft).calls_iff hadds calls
  · intro shared body ops
    exact Streams.run_enabled_iff hadds ops ⟨.empty, carries_new war3Version build tft⟩ rfl

end Fitting

-- ======================================================================= noise

section Scenario

attribute [local instance] storing

/-- Bytes of a linear congruence, which deflate cannot shorten. -/
def noiseFrom : Nat → UInt32 → List UInt8
  | 0, _ => []
  | n + 1, x => (x >>> 24).toUInt8 :: noiseFrom n (x * 1664525 + 1013904223)

/-- So many of them. -/
def noise (n : Nat) : List UInt8 := noiseFrom n 1

/-- So many bytes. -/
theorem length_noiseFrom (n : Nat) (x : UInt32) : (noiseFrom n x).length = n := by
  induction n generalizing x with
  | zero => rfl
  | succ n ih =>
      unfold noiseFrom
      rw [List.length_cons, ih]

/-- Storing adds less. -/
theorem addsSixteen_storing : AddsSixteen := by
  intro bytes _
  show (storedStream bytes).length ≤ _
  rw [length_storedStream]
  omega

/-- A whole chunk that cannot be compressed does not fit. -/
theorem chunk_does_not_fit {p : List UInt8} (h : p.length = chunkSize) : ¬PieceFits p := by
  rintro (hroom | hsmall)
  · omega
  · have hlong : (storedStream p).length ≤ chunkSize := hsmall
    rw [length_storedStream] at hlong
    omega

/-- Among two chunks' worth of bytes one piece is a whole chunk. -/
theorem exists_whole_chunk (fuel off : Nat) {bytes : List UInt8} (hfuel : 2 ≤ fuel)
    (hlong : 2 * chunkSize ≤ bytes.length) : ∃ p ∈ splitBlocks fuel off bytes,
    p.length = chunkSize := by
  obtain ⟨fuel, rfl⟩ : ∃ m, fuel = m + 2 := ⟨fuel - 2, by omega⟩
  have hmod : off % chunkSize < chunkSize := Nat.mod_lt _ (by decide)
  have hpos : 0 < chunkSize := by decide
  have hfirst : min bytes.length (chunkSize - off % chunkSize) = chunkSize - off % chunkSize := by
    omega
  have haligned : (off + (chunkSize - off % chunkSize)) % chunkSize = 0 := by
    have hsum : off + (chunkSize - off % chunkSize) = (off / chunkSize + 1) * chunkSize := by
      have hdiv := Nat.div_add_mod' off chunkSize
      rw [Nat.succ_mul]
      omega
    rw [hsum, Nat.mul_mod_left]
  have hne : bytes ≠ [] := List.ne_nil_of_length_pos (by omega)
  have hrest : (bytes.drop (chunkSize - off % chunkSize)).length
      = bytes.length - (chunkSize - off % chunkSize) := List.length_drop
  have hne' : bytes.drop (chunkSize - off % chunkSize) ≠ [] := List.ne_nil_of_length_pos (by omega)
  unfold splitBlocks
  rw [if_neg hne, hfirst]
  dsimp only
  unfold splitBlocks
  rw [if_neg hne', haligned]
  refine ⟨_, .tail _ (.head _), ?_⟩
  rw [List.length_take, hrest]
  omega

/-- A chunk at the start of a stream is cut whole. -/
theorem chunk_is_due {bytes : List UInt8} (h : bytes.length = chunkSize) :
    bytes ∈ splitBlocks bytes.length 0 bytes := by
  have hne : bytes ≠ [] := List.ne_nil_of_length_pos (by rw [h]; decide)
  rw [h]
  show bytes ∈ splitBlocks (8191 + 1) 0 bytes
  unfold splitBlocks
  rw [if_neg hne]
  have hall : bytes.take (min bytes.length (chunkSize - 0 % chunkSize)) = bytes := by
    refine List.take_of_length_le ?_
    rw [h]
    decide
  exact List.mem_cons.2 (.inl hall.symm)

/-- Publishing for the first time, with two chunks' worth of fresh
blocks, disables a stream. -/
theorem publish_disables {g : Publisher} (hon : g.enabled = true) {f : Feed}
    (hfeed : Carries g.live.shared.stream f) (hnone : f.pending = [])
    (hsent : g.live.prologueSent = false)
    (hquiet : g.live.shared.heartbeatEnabled = false) {p : List UInt8}
    (hp : g.live.body.prologue = .ok p)
    (hfresh : 2 * chunkSize ≤ g.live.undrained.length) (clock : Nat → Nat → Nat) :
    (g.step (.publishPending clock)).enabled = false := by
  have hstep := Streams.step_enabled_iff ⟨f, hfeed⟩ addsSixteen_storing hon (.publishPending clock)
  rw [Bool.eq_false_iff]
  intro hstays
  have hfits : g.live.PublishFits clock := hstep.1 hstays hon
  unfold Live.PublishFits at hfits
  rw [if_neg (by rw [hsent]; exact Bool.false_ne_true)] at hfits
  obtain ⟨hfirst, hblocks⟩ := hfits p hp
  have hsend := (Streams.send_ok_iff ⟨f, hfeed⟩ addsSixteen_storing p (clock 0)).2 hfirst
  obtain ⟨stream, f', hstate, hcarries, hnone', _⟩ := hfeed.send_ok hnone hsend
  rw [hstate] at hblocks
  have hbeat : (g.live.withStream stream).afterPrologue.heartbeat
      = (g.live.withStream stream).afterPrologue := by
    unfold Live.heartbeat
    refine if_neg fun h => ?_
    have hbeats : g.live.shared.heartbeatEnabled = true := h.1
    rw [hquiet] at hbeats
    cases hbeats
  unfold Live.BlocksFit at hblocks
  rw [hbeat] at hblocks
  have hbytes : (g.live.withStream stream).afterPrologue.undrained = g.live.undrained := rfl
  rw [hbytes] at hblocks
  -- nothing else is pending
  have hpending :
    (((g.live.withStream stream).afterPrologue.shared.stream).pushBody g.live.undrained).pending
      = g.live.undrained := by
    have h := (hcarries.markPrologueEnd.pushBody g.live.undrained).pending
    rw [Feed.push, hnone', List.nil_append] at h
    exact h
  have hpos : 0 < chunkSize := by decide
  obtain ⟨piece, hmem, hwhole⟩ := exists_whole_chunk g.live.undrained.length
    (((g.live.withStream stream).afterPrologue.shared.stream).pushBody
      g.live.undrained).publishedLen
    (by omega) hfresh
  refine chunk_does_not_fit hwhole (hblocks (List.ne_nil_of_length_pos (by omega)) piece ?_)
  unfold DotaTvStream.due
  rw [hpending]
  exact hmem

/-- One operation more. -/
theorem Publisher.run_snoc (ops : List LiveOp) (o : LiveOp) (g : Publisher) :
    g.run (ops ++ [o]) = (g.run ops).step o := by
  unfold Publisher.run
  rw [List.foldl_append]
  rfl

/-- Packets that are relayed, before the stream is published. -/
theorem run_timeslots (k : Nat) (actions : List UInt8) (g : Publisher) :
    ∃ body : ReplayBody, g.run (List.replicate k (.addTimeslot 100 actions))
        = { g with live := { g.live with body := body } }
      ∧ body.prologue = g.live.body.prologue
      ∧ body.blocks.length = g.live.body.blocks.length + k * (5 + actions.length) := by
  induction k generalizing g with
  | zero => exact ⟨g.live.body, rfl, rfl, by omega⟩
  | succ k ih =>
      obtain ⟨body, hrun, hprologue, hlength⟩ := ih (g.step (.addTimeslot 100 actions))
      refine ⟨body, ?_, hprologue, ?_⟩
      · rw [List.replicate_succ]
        exact hrun
      · have hone : (g.live.body.addTimeslot 100 actions).blocks.length
            = g.live.body.blocks.length + (5 + actions.length) := by
          unfold ReplayBody.addTimeslot ReplayBody.blocks
          rw [List.flatMap_append, List.flatMap_singleton, List.length_append]
          simp only [ReplayRecord.bytes, u16le, List.length_append, List.length_cons,
            List.length_nil]
        rw [hlength, Nat.succ_mul]
        show (g.live.body.addTimeslot 100 actions).blocks.length + _ = _
        omega

/-- A game whose players send noise: seventeen packets of a thousand
bytes are relayed before the stream is published. -/
def noisyOps : List LiveOp :=
  List.replicate 17 (.addTimeslot 100 (noise 1000)) ++ [.publishPending fun _ k => k]

/-- Its stream, at its start. -/
def noisyStart : Publisher := ⟨.start { stream := .for126a } 26 6059 true smallBody, true⟩

/-- A chunk of noise fails the flush, and noise in the packets of a game
disables its stream, though the compressor adds eleven bytes only. -/
theorem noise_kills_stream :
    AddsSixteen
      ∧ ¬NoneTooLarge (DotaTvStream.for126a.run [.push (noise 8192), .flush fun k => k]).1
      ∧ (noisyStart.run noisyOps).enabled = false := by
  refine ⟨addsSixteen_storing, ?_, ?_⟩
  · have hnew : Carries DotaTvStream.for126a .empty := carries_new 26 6059 true
    rw [hnew.calls_iff addsSixteen_storing]
    rintro ⟨hfits, _⟩
    have hlen : (noise 8192).length = chunkSize := length_noiseFrom 8192 1
    have hpending : (DotaTvStream.for126a.pushBody (noise 8192)).pending = noise 8192 :=
      (hnew.pushBody (noise 8192)).pending
    refine chunk_does_not_fit hlen (hfits (noise 8192) ?_)
    unfold DotaTvStream.due
    rw [hpending]
    exact chunk_is_due hlen
  · obtain ⟨body, hrun, hprologue, hlength⟩ := run_timeslots 17 (noise 1000) noisyStart
    have hp : smallBody.prologue = .ok smallPrologue := by decide +kernel
    have hnoise : (noise 1000).length = 1000 := length_noiseFrom 1000 1
    unfold noisyOps
    rw [Publisher.run_snoc, hrun]
    refine publish_disables (f := .empty) rfl (carries_new 26 6059 true) rfl rfl rfl
      (hprologue.trans hp) ?_ _
    show 2 * chunkSize ≤ (body.blocks.drop 0).length
    rw [List.drop_zero, hlength, hnoise]
    decide

/-- The theorem where the pieces fit. -/
theorem live_stream_survives_iff_quiet :
    NoneTooLarge ((DotaTvStream.new 26 6059 true).run [.push [1, 2, 3], .flush fun k => k]).1
      ∧ FlushesFit [.push [1, 2, 3], .flush fun k => k] (.new 26 6059 true)
      ∧ (noisyStart.run [.publishPending fun _ k => k, .addTimeslot 100 [7],
          .publishPending fun _ k => k]).enabled = true
      ∧ noisyStart.RunFits [.publishPending fun _ k => k, .addTimeslot 100 [7],
          .publishPending fun _ k => k] := by
  have h := live_stream_survives_iff addsSixteen_storing 26 6059 true
  have hcalls : ((DotaTvStream.new 26 6059 true).run [.push [1, 2, 3], .flush fun k => k]).1
      = [.ok 0, .ok 1] := by decide +kernel
  have hfine :
    NoneTooLarge ((DotaTvStream.new 26 6059 true).run [.push [1, 2, 3], .flush fun k => k]).1 := by
    rw [hcalls]
    intro r hr n
    rcases List.mem_pair.1 hr with rfl | rfl
    · exact fun h => (nomatch h)
    · exact fun h => (nomatch h)
  have hon : (noisyStart.run [.publishPending fun _ k => k, .addTimeslot 100 [7],
      .publishPending fun _ k => k]).enabled = true := by decide +kernel
  exact ⟨hfine, (h.1 _).1 hfine, hon, (h.2 { stream := .for126a } smallBody _).1 hon⟩

end Scenario

end Spectre.DotaTv

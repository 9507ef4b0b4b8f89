/-
The grammar of the record stream, and when the stream of a game keeps
to it.

A record opens with its kind. Turns and chat lines carry their length in
two bytes; the writer puts the length there modulo 2^16, so a record of
more bytes leads a reader astray, and everything behind it is lost. A
stream is read back exactly when every record fits its fields
(`parse_blocks_iff`).

Turn records fit: the packets they copy were framed with two length
bytes themselves. So do the host's own lines, which are clipped. A
player's line need not: what is ill-formed UTF-8 on the wire grows
threefold when it is decoded, and the decoded line is what is recorded.
That is the only way to break the stream (`replay_stream_parses`).
-/
import Spectre.Books
import Spectre.Lib.Stream
import Spectre.Scenario

namespace Spectre

open GameState

-- =================================================================== the grammar

/-- A body behind its two length bytes. -/
def sized (content : List UInt8 → Option ReplayRecord) : Lib.Reader UInt8 ReplayRecord
  | lo :: hi :: src => Lib.field (lo.toNat + 256 * hi.toNat) content src
  | _ => none

/-- A TIMESLOT body: the increment, and the actions. -/
def timeslotBody : List UInt8 → Option ReplayRecord
  | lo :: hi :: actions => some (.timeslot (lo.toNat + 256 * hi.toNat) actions)
  | _ => none

/-- A TIMESLOT2 body: an increment of no meaning, and the actions. -/
def timeslot2Body : List UInt8 → Option ReplayRecord
  | _ :: _ :: actions => some (.timeslot2 actions)
  | _ => none

/-- A CHATMESSAGE body: flag, mode and the line up to its terminator. -/
def chatBody (pid : UInt8) : List UInt8 → Option ReplayRecord
  | flag :: a :: b :: c :: d :: text =>
      if text.getLast? = some 0 then
        some (.chat pid flag (a.toNat + 256 * b.toNat + 65536 * c.toNat + 16777216 * d.toNat)
          text.dropLast)
      else none
  | _ => none

/-- A LEAVEGAME body: reason, player, result and a word of no meaning. -/
def leaverBody : List UInt8 → Option ReplayRecord
  | [a, b, c, d, pid, a', b', c', d', _, _, _, _] =>
      some (.leaver pid (a.toNat + 256 * b.toNat + 65536 * c.toNat + 16777216 * d.toNat)
        (a'.toNat + 256 * b'.toNat + 65536 * c'.toNat + 16777216 * d'.toNat))
  | _ => none

/-- One record off the front of the stream. -/
def readRecord : Lib.Reader UInt8 ReplayRecord
  | [] => none
  | kind :: src =>
      if kind = 0x1F then sized timeslotBody src
      else if kind = 0x1E then sized timeslot2Body src
      else if kind = 0x20 then
        match src with
        | [] => none
        | pid :: src => sized (chatBody pid) src
      else if kind = 0x17 then Lib.field 13 leaverBody src
      else none

/-- The records of a replay, read back from its bytes. -/
def ReplayBody.parse (r : ReplayBody) : Option (List ReplayRecord) := Lib.parse readRecord r.blocks

-- ============================================================= records read back

section Records

variable {content : List UInt8 → Option ReplayRecord} {body src rest : List UInt8}
  {r : ReplayRecord}

/-- A body is read back if its length fits. -/
theorem sized_append (hlen : body.length < 2 ^ 16) (h : content body = some r) :
    sized content (u16le body.length ++ body ++ rest) = some (r, rest) := by
  obtain ⟨lo, hi, hle, hn⟩ := u16le_toNat hlen
  rw [hle]
  exact Lib.field_append hn.symm h

/-- What is read from a sized body is read from fewer than 2^16 bytes. -/
theorem of_sized (h : sized content src = some (r, rest)) :
    ∃ body, body.length < 2 ^ 16 ∧ content body = some r := by
  unfold sized at h
  split at h
  · rename_i lo hi src
    obtain ⟨body, hbody, hcontent⟩ := Lib.of_field h
    have hlo := lo.toNat_lt
    have hhi := hi.toNat_lt
    exact ⟨body, by omega, hcontent⟩
  · cases h

/-- A turn is read by its body. -/
theorem readRecord_timeslot (src : List UInt8) :
    readRecord (0x1F :: src) = sized timeslotBody src := by
  simp [readRecord]

/-- So are the actions ahead of one. -/
theorem readRecord_timeslot2 (src : List UInt8) :
    readRecord (0x1E :: src) = sized timeslot2Body src := by
  simp [readRecord]

/-- So is a line of chat. -/
theorem readRecord_chat (pid : UInt8) (src : List UInt8) :
    readRecord (0x20 :: pid :: src) = sized (chatBody pid) src := by
  simp [readRecord]

/-- So is a leaver. -/
theorem readRecord_leaver (src : List UInt8) :
    readRecord (0x17 :: src) = Lib.field 13 leaverBody src := by
  simp [readRecord]

/-- A record that fits its fields is read back, whatever follows. -/
theorem readRecord_bytes (hfits : r.fits = true) (rest : List UInt8) :
    readRecord (r.bytes ++ rest) = some (r, rest) := by
  cases r with
  | timeslot timeIncrement actions =>
      simp only [ReplayRecord.fits, Bool.and_eq_true, decide_eq_true_eq] at hfits
      obtain ⟨lo, hi, hle, hn⟩ := u16le_toNat hfits.1
      have hlen : (u16le timeIncrement ++ actions).length = 2 + actions.length := by
        rw [List.length_append]
        rfl
      have hbytes : (ReplayRecord.timeslot timeIncrement actions).bytes ++ rest
          = 0x1F :: (u16le (u16le timeIncrement ++ actions).length
            ++ (u16le timeIncrement ++ actions)
            ++ rest) := by
        simp [ReplayRecord.bytes, hlen]
      rw [hbytes, readRecord_timeslot]
      refine sized_append (hlen ▸ hfits.2) ?_
      rw [hle, ← hn]
      rfl
  | timeslot2 actions =>
      simp only [ReplayRecord.fits, decide_eq_true_eq] at hfits
      have hlen : (u16le 0 ++ actions).length = 2 + actions.length := by
        rw [List.length_append]
        rfl
      have hbytes : (ReplayRecord.timeslot2 actions).bytes ++ rest
          = 0x1E :: (u16le (u16le 0 ++ actions).length ++ (u16le 0 ++ actions) ++ rest) := by
        simp [ReplayRecord.bytes, hlen]
      rw [hbytes, readRecord_timeslot2]
      exact sized_append (hlen ▸ hfits) rfl
  | chat pid flag extra message =>
      simp only [ReplayRecord.fits, Bool.and_eq_true, decide_eq_true_eq] at hfits
      obtain ⟨a, b, c, d, hle, hn⟩ := u32le_toNat hfits.1
      have hlen : (flag :: (u32le extra ++ (message ++ [0]))).length = 1 + 4 + message.length
        + 1 := by
        rw [List.length_cons, List.length_append, List.length_append]
        show 4 + (message.length + 1) + 1 = _
        omega
      -- the NUL that closes the text is counted in the length
      have hbytes : (ReplayRecord.chat pid flag extra message).bytes ++ rest
          = 0x20 :: pid :: (u16le (flag :: (u32le extra ++ (message ++ [0]))).length
            ++ (flag :: (u32le extra ++ (message ++ [0]))) ++ rest) := by
        rw [hlen]
        simp [ReplayRecord.bytes]
      rw [hbytes, readRecord_chat]
      refine sized_append (hlen ▸ hfits.2) ?_
      rw [hle, ← hn]
      show (if (message ++ [0]).getLast? = some 0 then
        some (ReplayRecord.chat pid flag _ (message ++ [0]).dropLast) else none) = _
      rw [if_pos List.getLast?_concat, List.dropLast_concat]
  | leaver pid reason result =>
      simp only [ReplayRecord.fits, Bool.and_eq_true, decide_eq_true_eq] at hfits
      obtain ⟨a, b, c, d, hle, hn⟩ := u32le_toNat hfits.1
      obtain ⟨a', b', c', d', hle', hn'⟩ := u32le_toNat hfits.2
      have hbytes : (ReplayRecord.leaver pid reason result).bytes ++ rest
          = 0x17 :: (u32le reason ++ [pid] ++ u32le result ++ u32le 1 ++ rest) := by
        simp [ReplayRecord.bytes, leaveBlock]
      rw [hbytes, readRecord_leaver]
      -- the leave record carries no length of its own
      refine Lib.field_append rfl ?_
      rw [hle, hle', ← hn, ← hn']
      rfl

/-- What the reader finds fits its fields. -/
theorem fits_of_readRecord (h : readRecord src = some (r, rest)) : r.fits = true := by
  cases src with
  | nil => cases h
  | cons kind src =>
      unfold readRecord at h
      dsimp only at h
      split at h
      · -- the first two bytes of the body are the interval, the others the actions
        obtain ⟨body, hlen, hbody⟩ := of_sized h
        cases body with
        | nil => cases hbody
        | cons lo body =>
            cases body with
            | nil => cases hbody
            | cons hi actions =>
                cases hbody
                have hlo := lo.toNat_lt
                have hhi := hi.toNat_lt
                rw [List.length_cons, List.length_cons] at hlen
                simp only [ReplayRecord.fits, Bool.and_eq_true, decide_eq_true_eq]
                omega
      split at h
      · obtain ⟨body, hlen, hbody⟩ := of_sized h
        cases body with
        | nil => cases hbody
        | cons lo body =>
            cases body with
            | nil => cases hbody
            | cons hi actions =>
                cases hbody
                rw [List.length_cons, List.length_cons] at hlen
                simp only [ReplayRecord.fits, decide_eq_true_eq]
                omega
      split at h
      · cases src with
        | nil => cases h
        | cons pid src =>
            obtain ⟨body, hlen, hbody⟩ := of_sized h
            unfold chatBody at hbody
            split at hbody
            · rename_i flag a b c d text
              split at hbody
              · rename_i hend
                cases hbody
                -- the text is closed by its NUL, so there is a byte to drop
                have hne : text ≠ [] := by
                  intro hnil
                  rw [hnil] at hend
                  cases hend
                have hpos := List.length_pos_iff.2 hne
                have hdrop : text.dropLast.length = text.length - 1 := List.length_dropLast
                simp only [List.length_cons] at hlen
                simp only [ReplayRecord.fits, Bool.and_eq_true, decide_eq_true_eq]
                exact ⟨word_lt a b c d, by omega⟩
              · cases hbody
            · cases hbody
      split at h
      · -- the leave record has a fixed width and two words that fit by being read
        obtain ⟨body, -, hbody⟩ := Lib.of_field h
        unfold leaverBody at hbody
        split at hbody
        · cases hbody
          simp only [ReplayRecord.fits, Bool.and_eq_true, decide_eq_true_eq]
          exact ⟨word_lt _ _ _ _, word_lt _ _ _ _⟩
        · cases hbody
      · cases h

/-- A record is at least its kind. -/
theorem bytes_ne_nil (r : ReplayRecord) : r.bytes ≠ [] := by
  cases r with
  | timeslot _ _ => exact List.cons_ne_nil _ _
  | timeslot2 _ => exact List.cons_ne_nil _ _
  | chat _ _ _ _ => exact List.cons_ne_nil _ _
  | leaver _ _ _ => exact List.cons_ne_nil _ _

/-- The stream is read back exactly when every record fits its fields. -/
theorem parse_blocks_iff (b : ReplayBody) :
    b.parse = some b.records ↔ ∀ r ∈ b.records, r.fits = true :=
  Lib.parse_flatMap_iff bytes_ne_nil (fun _ rest hfits => readRecord_bytes hfits rest)
    fun _ _ _ h => fits_of_readRecord h

end Records

-- ============================================================= the records grow

/-- The replay of `t` continues that of `s`. -/
def Continues (s t : GameState) : Prop :=
  ∀ b, s.replay = some b → ∃ b', t.replay = some b' ∧ b.records <+: b'.records

/-- The head of the replay is written apart from the records. -/
theorem records_setStart (r : ReplayBody) (pid : UInt8) (name : Text) (humans : List Player)
    (slots : List UInt8) (seed : UInt32) (mode spots : UInt8) :
    ((humans.foldl (fun r p => r.addPlayer p.pid p.name) (r.setHost pid name)).setStart slots seed
      mode spots).records = r.records := by
  have hplayers : ∀ r : ReplayBody,
      (humans.foldl (fun r p => r.addPlayer p.pid p.name) r).records = r.records := by
    induction humans with
    | nil => exact fun _ => rfl
    | cons p l ih =>
        intro r
        rw [List.foldl_cons, ih]
        unfold ReplayBody.addPlayer
        split <;> rfl
  unfold ReplayBody.setStart
  split <;> exact hplayers _

/-- What an entry adds to the records: nothing, or one record, which
fits unless its kind says otherwise. -/
theorem Step.records [RustStd] {k : Kind} {s t : GameState} (h : Step k s t) (hk : k.fine = true)
    {b : ReplayBody} (hb : s.replay = some b) :
    ∃ b', t.replay = some b' ∧ (b'.records = b.records
      ∨ ∃ c, b'.records = b.records ++ [c] ∧ (k ≠ .record false → c.fits = true)) := by
  rcases h.books hk with hentry | ⟨-, f, c, -, hfits, hf, hbooks⟩ | hbooks
  · have hfst : ∀ {x}, t.books = x → x.1 = t.replay := fun h => (congrArg Prod.fst h).symm
    cases hentry with
    | none h => exact ⟨b, (hfst h).symm.trans hb, .inl rfl⟩
    | record fits pid flag extra message hfits h =>
        refine ⟨b.addChat pid flag extra message, (hfst h).symm.trans (by rw [hb]; rfl),
          .inr ⟨_, rfl, fun hk => hfits ?_⟩⟩
        cases fits with
        | true => rfl
        | false => exact absurd rfl hk
    | leaver p code _ _ _ hcode h =>
        have hreplay := (hfst h).symm
        rw [hb] at hreplay
        by_cases hphase : s.phase = .loading
        · exact ⟨b.addLeaverLoading p.pid 1 code, hreplay.trans (by simp [hphase]), .inl rfl⟩
        · refine ⟨b.addLeaver p.pid 1 code, hreplay.trans (by simp [hphase]),
            .inr ⟨_, rfl, fun _ => ?_⟩⟩
          simpa [ReplayRecord.fits] using hcode
    | prologue _ =>
        have hreplay : s.startReplay.replay = s.replay.map _ := rfl
        rw [hb] at hreplay
        exact ⟨_, hreplay, .inl (records_setStart b _ _ _ _ _ _ _)⟩
    | stats d data _ h => exact ⟨b, (hfst h).symm.trans hb, .inl rfl⟩
    | status e _ h => exact ⟨b, (hfst h).symm.trans hb, .inl rfl⟩
    | rehost _ h => exact ⟨b, (hfst h).symm.trans hb, .inl rfl⟩
  · have hreplay : t.replay = s.replay.map f := congrArg Prod.fst hbooks
    obtain ⟨ms, hms⟩ := hf b
    rw [hb] at hreplay
    exact ⟨f b, hreplay, .inr ⟨c, by rw [hms]; rfl, fun _ => hfits⟩⟩
  · exact ⟨b, (congrArg Prod.fst hbooks).trans hb, .inl rfl⟩

section Continues

variable {s t u : GameState}

/-- Nothing is recorded. -/
theorem Continues.refl (s : GameState) : Continues s s := fun b hb => ⟨b, hb, List.prefix_rfl⟩

/-- First these records, then those. -/
theorem Continues.trans (h : Continues s t) (h' : Continues t u) : Continues s u := by
  intro b hb
  obtain ⟨b₁, hb₁, hle⟩ := h b hb
  obtain ⟨b₂, hb₂, hle'⟩ := h' b₁ hb₁
  exact ⟨b₂, hb₂, hle.trans hle'⟩

variable [RustStd]

/-- No step takes a record away. -/
theorem Step.continues {k : Kind} (h : Step k s t) (hk : k.fine = true) : Continues s t := by
  intro b hb
  obtain ⟨b', hb', hsame | ⟨c, hc, -⟩⟩ := h.records hk hb
  · exact ⟨b', hb', hsame ▸ List.prefix_rfl⟩
  · exact ⟨b', hb', hc ▸ List.prefix_append _ _⟩

/-- No record is ever taken back. -/
theorem Does.continues (h : Does anyFine s t) : Continues s t :=
  Lib.Path.preserves (I := fun t => Continues s t)
    (fun _ _ _ hk hst hI => hI.trans (hst.continues hk)) h (Continues.refl s)

end Continues

-- ========================================================= records that fit

/-- Every record of the replay fits its fields. -/
def RecordsFit (s : GameState) : Prop := ∀ b, s.replay = some b → ∀ r ∈ b.records, r.fits = true

/-- Every kind of small step but a record that does not fit. -/
def anyFitting : Kind → GameState → Prop
  | .record fits, _ => fits = true
  | k, _ => k.fine = true

/-- The steps of any kind but one. -/
theorem of_anyFitting {k : Kind} {s : GameState} (h : anyFitting k s) :
    k.fine = true ∧ k ≠ .record false := by
  cases k with
  | record fits =>
      cases fits with
      | true => exact ⟨rfl, by simp⟩
      | false => cases h
  | _ => exact ⟨h, by simp⟩

/-- No line that is recorded in this event is too long for its record. -/
def LinesFit [RustStd] (s : GameState) (ev : Event) : Prop :=
  s.finished = false → s.recordsLong ev = false

section Fit

variable [RustStd] {s t : GameState}

/-- A small step keeps the records fitting. -/
theorem Step.recordsFit {k : Kind} (h : Step k s t) (hk : anyFitting k s) (hs : s.replay.isSome)
    (hfit : RecordsFit s) : t.replay.isSome ∧ RecordsFit t := by
  obtain ⟨b, hb⟩ := Option.isSome_iff_exists.1 hs
  obtain ⟨hfine, hne⟩ := of_anyFitting hk
  obtain ⟨b', hb', hrecords⟩ := h.records hfine hb
  refine ⟨by rw [hb']; rfl, fun b'' hb'' r hr => ?_⟩
  obtain rfl := Option.some.inj (hb'.symm.trans hb'')
  rcases hrecords with hsame | ⟨c, hc, hfits⟩
  · exact hfit b hb r (hsame ▸ hr)
  · rw [hc, List.mem_append, List.mem_singleton] at hr
    rcases hr with hr | rfl
    · exact hfit b hb r hr
    · exact hfits hne

/-- Where the lines fit, an iteration admits only records that fit. -/
theorem admits_anyFitting {ev : Event} (h : s.recordsLong ev = false) : Admits anyFitting s ev := by
  refine admits_fine (fun k hk hguarded _ => ?_) ?_ fun _ _ _ => rfl
  · cases k with
    | record fits =>
        cases fits with
        | true => rfl
        | false => cases hguarded
    | _ => exact hk
  · exact { record := fun hlong => absurd hlong (by rw [h]; exact Bool.false_ne_true) }

/-- One iteration keeps the records fitting, where the lines do. -/
theorem step_recordsFit (hs : WellFormed s) {ev : Event} (hsound : ev.Sound)
    (hlines : LinesFit s ev)
    (hsome : s.replay.isSome) (hfit : RecordsFit s) :
    (s.step ev).replay.isSome ∧ RecordsFit (s.step ev) := by
  cases hfin : s.finished with
  | true =>
      have hsame : s.step ev = s := if_pos hfin
      rw [hsame]
      exact ⟨hsome, hfit⟩
  | false =>
      have hdoes := does_step hs hsound (admits_anyFitting (hlines hfin))
      exact Lib.Path.preserves (I := fun t => t.replay.isSome ∧ RecordsFit t)
        (fun _ _ _ hk hst hI => hst.recordsFit hk hI.1 hI.2) hdoes ⟨hsome, hfit⟩

/-- A line that is said while the game loads or runs is recorded, however
long it is. -/
theorem records_chatLine (env : Env) {connId : Nat} {payload : List UInt8} {line : Text}
    (h : s.chatLine connId payload = some line) (hphase : s.phase = .loading ∨ s.phase = .playing)
    {b : ReplayBody} (hb : s.replay = some b) :
    ∃ b', (s.handleChatToHost env connId payload).replay = some b'
      ∧ ∃ pid flag extra, ReplayRecord.chat pid flag extra line ∈ b'.records := by
  have hplain : Plain anyFine := (admits_anyFine s (.elapse 0)).plain
  unfold chatLine at h
  split at h
  · rename_i p chat hp hchat
    split at h
    · rename_i hsaid
      obtain ⟨hfrom, hflag, hcommand, hmuted⟩ := hsaid
      cases h
      rw [Option.isNone_iff_eq_none] at hcommand
      unfold handleChatToHost
      rw [hp, hchat]
      dsimp only
      rw [if_neg (not_not.2 hfrom)]
      obtain ⟨hhint, hsame⟩ := does_triggerHint hplain s p.pid chat.message
      generalize (if chat.message = txt "?trigger" then
        s.sendChatTo p.pid (txt "Command trigger: !") else s) = t at hhint hsame ⊢
      obtain ⟨b₁, hb₁, -⟩ := hhint.continues b hb
      have howner : t.isOwner p.name = s.isOwner p.name := by
        unfold isOwner
        rw [hsame.cfg]
      rw [if_neg hflag]
      unfold handleChatLine
      rw [hcommand, howner, hsame.mutedAll]
      dsimp only
      rw [if_neg hmuted]
      -- the record is written before the line is passed on
      have hrecord : ∃ b₂, (t.recordChat p.pid p.name chat).replay = some b₂
          ∧ ∃ pid flag extra, ReplayRecord.chat pid flag extra chat.message ∈ b₂.records := by
        unfold recordChat
        rw [if_pos (hsame.phase ▸ hphase)]
        dsimp only
        show ∃ b₂, t.replay.map _ = some b₂ ∧ _
        rw [hb₁]
        exact ⟨_, rfl, p.pid, chat.flag, _, List.mem_append_right _ (List.mem_singleton_self _)⟩
      obtain ⟨b₂, hb₂, pid, flag, extra, hmem⟩ := hrecord
      split
      · exact ⟨b₂, hb₂, pid, flag, extra, hmem⟩
      · obtain ⟨b₃, hb₃, hle⟩ := (does_relayChat hplain _ p.pid chat).continues b₂ hb₂
        exact ⟨b₃, hb₃, pid, flag, extra, hle.subset hmem⟩
    · cases h
  · cases h

omit [RustStd] in
/-- Records that do not fit stay in the replay. -/
theorem RecordsFit.of_continues (h : RecordsFit t) (hst : Continues s t) : RecordsFit s := by
  intro b hb r hr
  obtain ⟨b', hb', hle⟩ := hst b hb
  exact h b' hb' r (hle.subset hr)

/-- Nor does an iteration. -/
theorem step_continues (hs : WellFormed s) {ev : Event} (hsound : ev.Sound) :
    Continues s (s.step ev) := (does_step hs hsound (admits_anyFine s ev)).continues

/-- A line too long for its record is recorded all the same. -/
theorem not_recordsFit_of_long (hs : WellFormed s) {ev : Event} (hsound : ev.Sound)
    (hsome : s.replay.isSome) (hlong : ¬LinesFit s ev) : ¬RecordsFit (s.step ev) := by
  unfold LinesFit at hlong
  rw [Classical.not_imp, Bool.not_eq_false] at hlong
  obtain ⟨hfin, hlong⟩ := hlong
  obtain ⟨b, hb⟩ := Option.isSome_iff_exists.1 hsome
  unfold recordsLong at hlong
  rw [Bool.and_eq_true, decide_eq_true_eq] at hlong
  obtain ⟨hphase, hlen⟩ := hlong
  cases hline : s.spoken ev with
  | none =>
      rw [hline] at hlen
      cases hlen
  | some line =>
      rw [hline] at hlen
      have hlen : longestLine < line.length := of_decide_eq_true hlen
      unfold spoken at hline
      split at hline
      · rename_i env connId id payload
        split at hline
        · rename_i hid
          subst hid
          obtain ⟨b', hb', pid, flag, extra, hmem⟩ := records_chatLine env hline hphase hb
          -- what comes after the handling leaves the record where it is
          have hhandle : s.handle (.cmd env (.frame connId (.w3gs 0x28 payload)))
              = s.handleChatToHost env connId payload := rfl
          have hstep : s.step (.cmd env (.frame connId (.w3gs 0x28 payload)))
              = (s.handleChatToHost env connId payload).reapLeftPlayers.reportLobby := by
            rw [← hhandle]
            exact if_neg (by rw [hfin]; exact Bool.false_ne_true)
          have hA := admits_anyFine s (.cmd env (.frame connId (.w3gs 0x28 payload)))
          have hwf := (does_handle hs hsound hA).keeps_wellFormed hs
          rw [hhandle] at hwf
          have hrest := (does_anyFine_reap hwf).continues.trans
            (does_reportLobby hA.plain _).continues
          intro hfit
          rw [hstep] at hfit
          have hfits := hfit.of_continues hrest b' hb' _ hmem
          simp only [ReplayRecord.fits, Bool.and_eq_true, decide_eq_true_eq] at hfits
          unfold longestLine at hlen
          omega
        · cases hline
      · cases hline

/-- Nor does a run. -/
theorem run_continues (evs : List Event) (hs : WellFormed s) (hsound : ∀ ev ∈ evs, ev.Sound) :
    Continues s (s.run evs) := by
  induction evs generalizing s with
  | nil => exact Continues.refl s
  | cons ev evs ih =>
      have hev : ev.Sound := hsound ev List.mem_cons_self
      exact (step_continues hs hev).trans
        (ih (step_wellFormed hs hev) fun e he => hsound e (List.mem_cons_of_mem ev he))

/-- In a run of a game whose records fit so far, the records fit to the
end exactly when no line that is recorded on the way is too long. -/
theorem recordsFit_run (evs : List Event) (hs : WellFormed s) (hsound : ∀ ev ∈ evs, ev.Sound)
    (hsome : s.replay.isSome) (hfit : RecordsFit s) :
    RecordsFit (s.run evs) ↔ Meets LinesFit s evs := by
  induction evs generalizing s with
  | nil => exact ⟨fun _ => trivial, fun _ => hfit⟩
  | cons ev evs ih =>
      have hev : ev.Sound := hsound ev List.mem_cons_self
      have hrest : ∀ e ∈ evs, e.Sound := fun e he => hsound e (List.mem_cons_of_mem ev he)
      have hwf := step_wellFormed hs hev
      by_cases hlines : LinesFit s ev
      · obtain ⟨hsome', hfit'⟩ := step_recordsFit hs hev hlines hsome hfit
        exact (ih hwf hrest hsome' hfit').trans ⟨fun h => ⟨⟨hev, hlines⟩, h⟩, fun h => h.2⟩
      · refine ⟨fun h => absurd ?_ (not_recordsFit_of_long hs hev hsome hlines),
          fun h => absurd h.1.2 hlines⟩
        exact RecordsFit.of_continues (t := (s.step ev).run evs) h (run_continues evs hwf hrest)

end Fit

-- ==================================================================== the claim

/-- The bytes of the replay's records are those of a stream that keeps
to the grammar, and reading it gives the records back. -/
def StreamParses (s : GameState) : Prop := ∀ b, s.replay = some b → b.parse = some b.records

/-- The stream can be read if every record fits. -/
theorem streamParses_iff (s : GameState) : StreamParses s ↔ RecordsFit s :=
  forall_congr' fun b => forall_congr' fun _ => parse_blocks_iff b

/-- The record stream of a run is read back, record by record and field
by field, exactly when no line that is recorded on the way decodes to
more than `longestLine` bytes. -/
theorem replay_stream_parses [RustStd] (cfg : GameConfig) (now : Nat) (seed : UInt32)
    (evs : List Event) (hsound : ∀ ev ∈ evs, ev.Sound) :
    StreamParses ((GameState.new cfg now seed).run evs)
      ↔ Meets LinesFit (GameState.new cfg now seed) evs := by
  rw [streamParses_iff]
  refine recordsFit_run evs (new_wellFormed cfg now seed) hsound rfl ?_
  intro b hb r hr
  obtain rfl := Option.some.inj hb
  cases hr

section Runs

open Scenario

instance (s : GameState) (ev : Event) : Decidable (LinesFit s ev) :=
  inferInstanceAs (Decidable (s.finished = false → s.recordsLong ev = false))

/-- Two players load, talk and play a turn, and one leaves. -/
def recordedGame : List Event :=
  twoPlay PlayerLink.drained PlayerLink.drained
    ++ [say 1 1 (txt "hello"), .elapse 100, .tick 0, leaveGame 2]

/-- Five records, read back. -/
theorem replay_stream_parses_recordedGame :
    (∀ ev ∈ recordedGame, ev.Sound) ∧ StreamParses (lobby.run recordedGame)
      ∧ ((lobby.run recordedGame).replay.map fun b => b.records.length) = some 5 := by
  have hsound : ∀ ev ∈ recordedGame, ev.Sound := by decide +kernel
  have hmeets : Meets LinesFit lobby recordedGame := by decide +kernel
  exact ⟨hsound, (replay_stream_parses config 0 5 recordedGame hsound).2 hmeets, by decide +kernel⟩

/-- A byte that starts no character is replaced by three. -/
theorem fromUtf8Lossy_replicate (n : Nat) :
    fromUtf8Lossy (List.replicate n 0xFF) = (List.replicate n replacement).flatten := by
  unfold fromUtf8Lossy
  rw [List.length_replicate]
  induction n with
  | zero => rfl
  | succ n ih =>
      rw [List.replicate_succ, List.replicate_succ, List.flatten_cons, ← ih]
      rfl

/-- The line of a client's chat frame. -/
theorem decode_say (pid : UInt8) {line : List UInt8} (hline : 0 ∉ line) :
    ChatToHost.decode ([0, pid, 0x20, 0, 0, 0, 0] ++ line ++ [0]) = .ok
      { toPids := [], fromPid := pid, flag := 0x20, extra := [0, 0, 0, 0]
        message := fromUtf8Lossy line, byte := 0 } := by
  have hread := tryGetCstringFrom_append [] line hline []
  rw [List.nil_append] at hread
  have hline' : tryGetCstring (line ++ [0]) = .ok (fromUtf8Lossy line) [] := hread
  have hfour : ¬line.length + 1 + 1 + 1 + 1 + 1 < 4 := by omega
  simp [ChatToHost.decode, decodeWith, tryGetU8, tryGetBytes, bind, EStateM.bind,
    pure, EStateM.pure, hline', hfour]

/-- A line of bytes none of which starts a character. -/
def garbled (n : Nat) : Text := List.replicate n 0xFF

/-- The first of two players says a garbled line in a running game. -/
def garbledGame (n : Nat) : List Event :=
  twoPlay PlayerLink.drained PlayerLink.drained ++ [say 1 1 (garbled n)]

/-- A garbled line is three times as long in the replay as it was on the
wire. -/
theorem recordsLong_garbled {s : GameState} (hphase : s.phase = .playing)
    (hseat : (s.players.byConn 1).map (fun p => (p.pid, p.muted)) = some (1, false))
    (hmuted : s.mutedAll = false) {n : Nat} (hn : longestLine < 3 * n) :
    s.recordsLong (say 1 1 (garbled n)) = true := by
  have hzero : (0 : UInt8) ∉ garbled n := fun h => absurd (List.eq_of_mem_replicate h) (by decide)
  have hdecode := decode_say 1 hzero
  have hline : fromUtf8Lossy (garbled n) = (List.replicate n replacement).flatten :=
    fromUtf8Lossy_replicate n
  have hlen : (fromUtf8Lossy (garbled n)).length = 3 * n := by
    rw [hline, List.length_flatten, List.map_replicate, List.sum_replicate_nat]
    exact Nat.mul_comm n 3
  have hcommand : parseCommand (fromUtf8Lossy (garbled n)) = none := by
    cases n with
    | zero => exact absurd hn (by unfold longestLine; omega)
    | succ n =>
        rw [hline, List.replicate_succ, List.flatten_cons]
        rfl
  obtain ⟨p, hp, hpid⟩ := Option.map_eq_some_iff.1 hseat
  rw [Prod.mk.injEq] at hpid
  have hsaid : s.spoken (say 1 1 (garbled n)) = some (fromUtf8Lossy (garbled n)) := by
    show s.chatLine 1 _ = _
    unfold chatLine
    rw [hp, hdecode]
    dsimp only
    refine if_pos ⟨hpid.1.symm, by decide, by rw [hcommand]; rfl, ?_⟩
    simp [hpid.2, hmuted]
  unfold recordsLong
  rw [hsaid, hphase]
  simp [hlen, hn]

/-- A long garbled line breaks the stream. -/
theorem not_streamParses_garbled {n : Nat} (hn : longestLine < 3 * n) :
    (∀ ev ∈ garbledGame n, ev.Sound) ∧ ¬StreamParses (lobby.run (garbledGame n)) := by
  have hsound : ∀ ev ∈ twoPlay PlayerLink.drained PlayerLink.drained, ev.Sound := by decide +kernel
  have hrun : Runs (fun _ _ => True) lobby
      (lobby.run (twoPlay PlayerLink.drained PlayerLink.drained)) :=
    Runs.of_meets (by decide +kernel)
  have hwf := hrun.wellFormed (new_wellFormed config 0 5)
  have hplays : (lobby.run (twoPlay PlayerLink.drained PlayerLink.drained)).finished = false
      ∧ (lobby.run (twoPlay PlayerLink.drained PlayerLink.drained)).phase = .playing
      ∧ (lobby.run (twoPlay PlayerLink.drained PlayerLink.drained)).mutedAll = false
      ∧ (lobby.run (twoPlay PlayerLink.drained PlayerLink.drained)).replay.isSome
      ∧ ((lobby.run (twoPlay PlayerLink.drained PlayerLink.drained)).players.byConn 1).map
          (fun p => (p.pid, p.muted)) = some (1, false) := by decide +kernel
  obtain ⟨hfin, hphase, hmuted, hsome, hseat⟩ := hplays
  have hsay : (say 1 1 (garbled n)).Sound := ⟨rfl, (by decide : (1 : Nat) ≠ hostConn)⟩
  refine ⟨fun ev hev => ?_, ?_⟩
  · rcases List.mem_append.1 hev with hev | hev
    · exact hsound ev hev
    · rw [List.mem_singleton.1 hev]
      exact hsay
  · have hlong := recordsLong_garbled hphase hseat hmuted hn
    have hlast : lobby.run (garbledGame n)
        = (lobby.run (twoPlay PlayerLink.drained PlayerLink.drained)).step (say 1 1 (garbled n)) :=
      List.foldl_append ..
    rw [streamParses_iff, hlast]
    refine not_recordsFit_of_long hwf hsay hsome fun hlines => ?_
    rw [hlines hfin] at hlong
    cases hlong

/-- A line of 21844 such bytes fits its frame. Decoded it is of 65532,
its record declares a length of 2, and a reader goes astray. -/
theorem garbled_line_breaks_stream :
    (∀ ev ∈ garbledGame 21844, ev.Sound) ∧ ¬StreamParses (lobby.run (garbledGame 21844)) :=
  not_streamParses_garbled (by decide)

end Runs

end Spectre

/-
What a failed read leaves behind (`bytes_ext.rs`, `bncs/incoming.rs`).

The readers of fixed width measure what is left before they read, and a
read that fails has consumed nothing. `try_get_cstring` cannot measure:
it goes through the buffer to the terminator, and where there is none it
has consumed the buffer when it fails. Two decoders of Battle.net
messages take the last string as it is if its terminator is missing, by
reading the bytes a second time. By then there are none, and the string
is empty (`failed_reads_iff`).
-/
import Mathlib.Data.List.DropRight
import Spectre.Incoming

namespace Spectre

/-- A read that fails has consumed nothing. -/
def KeepsOnError {α : Type} (r : Reader α) (buf : List UInt8) : Prop :=
  ∀ e rest, r buf = .error e rest → rest = buf

/-- `unwrap_or_else` behind a read: the second one reads what the first
has left. -/
def Reader.unwrapOrElse {α : Type} (r f : Reader α) : Reader α := fun buf =>
  match r buf with
  | .ok a rest => .ok a rest
  | .error _ rest => f rest

namespace Bncs

-- ============================================================ the decoders

/-- `trim_end_matches('\0')`. -/
def trimEndNuls (t : Text) : Text := t.rdropWhile (· == 0)

/-- The bytes that are left, as a text without the zeros behind it. -/
def restAsText : Reader Text := fun buf =>
  match tryGetBytes buf.length buf with
  | .ok rest left => .ok (trimEndNuls (fromUtf8Lossy rest)) left
  | .error _ left => .ok (trimEndNuls (fromUtf8Lossy [])) left

/-- The last string of a message. -/
def readMessage : Reader Text := fun buf =>
  if buf ≠ [] then tryGetCstring.unwrapOrElse restAsText buf else .ok [] buf

/-- `LogonProof`. -/
structure LogonProof where
  status : Nat
  serverPasswordProof : List UInt8
  message : Text
deriving DecidableEq, Repr

/-- The proof of the server, if there is room for one. -/
def LogonProof.readProof : Reader (List UInt8) := fun buf =>
  if 20 ≤ buf.length then tryGetBytes 20 buf else .ok (List.replicate 20 0) buf

/-- `LogonProof::decode`, up to the bytes it leaves. -/
def LogonProof.read : Reader LogonProof := do
  let status ← tryGetU32
  let serverPasswordProof ← LogonProof.readProof
  let message ← readMessage
  return { status, serverPasswordProof, message }

@[inherit_doc LogonProof.read]
def LogonProof.decode (payload : List UInt8) : Except ProtoError LogonProof :=
  decodeWith LogonProof.read payload

/-- `ChatEvent`. -/
structure ChatEvent where
  eventId : Nat
  ping : Nat
  user : Text
  message : Text
deriving DecidableEq, Repr

/-- `ChatEvent::decode`, up to the bytes it leaves. -/
def ChatEvent.read : Reader ChatEvent := do
  let eventId ← tryGetU32
  let _flags ← tryGetU32
  let ping ← tryGetU32
  let _ip ← tryGetBytes 4
  let _accountNum ← tryGetBytes 4
  let _regAuth ← tryGetBytes 4
  let user ← tryGetCstring.unwrapOrElse (pure [])
  let message ← readMessage
  return { eventId, ping, user, message }

@[inherit_doc ChatEvent.read]
def ChatEvent.decode (payload : List UInt8) : Except ProtoError ChatEvent :=
  decodeWith ChatEvent.read payload

-- ============================================================ where the last string is

/-- What is left for the message of a `LogonProof`. -/
def LogonProof.rest (payload : List UInt8) : List UInt8 :=
  if 20 ≤ (payload.drop 4).length then (payload.drop 4).drop 20 else payload.drop 4

/-- What is behind a string, or all of it if the string has no
terminator: then nothing of it has been read. -/
def behindString (buf : List UInt8) : List UInt8 :=
  if 0 ∈ buf then (buf.dropWhile (· != 0)).drop 1 else buf

/-- What is left for the message of a `ChatEvent`. -/
def ChatEvent.rest (payload : List UInt8) : List UInt8 := behindString (payload.drop 24)

/-- If the last string has no terminator, the message is the text of
all the bytes that are left. -/
def LogonProof.KeepsText (payload : List UInt8) : Prop :=
  ∀ p, LogonProof.decode payload = .ok p → 0 ∉ LogonProof.rest payload →
    p.message = trimEndNuls (fromUtf8Lossy (LogonProof.rest payload))

@[inherit_doc LogonProof.KeepsText]
def ChatEvent.KeepsText (payload : List UInt8) : Prop :=
  ∀ p, ChatEvent.decode payload = .ok p → 0 ∉ ChatEvent.rest payload →
    p.message = trimEndNuls (fromUtf8Lossy (ChatEvent.rest payload))

end Bncs

-- ================================================================ the readers

/-- A byte. -/
theorem keepsOnError_tryGetU8 (buf : List UInt8) : KeepsOnError tryGetU8 buf := by
  intro e rest h
  cases buf with
  | nil => cases h; rfl
  | cons b buf => cases h

/-- Two bytes. -/
theorem keepsOnError_tryGetU16 (buf : List UInt8) : KeepsOnError tryGetU16 buf := by
  intro e rest h
  unfold tryGetU16 at h
  split at h
  · cases h
  · cases h
    rfl

/-- Four bytes. -/
theorem keepsOnError_tryGetU32 (buf : List UInt8) : KeepsOnError tryGetU32 buf := by
  intro e rest h
  unfold tryGetU32 at h
  split at h
  · cases h
  · cases h
    rfl

/-- So many bytes. -/
theorem keepsOnError_tryGetBytes (n : Nat) (buf : List UInt8) :
    KeepsOnError (tryGetBytes n) buf := by
  intro e rest h
  unfold tryGetBytes at h
  split at h
  · cases h
    rfl
  · cases h

/-- A buffer with a terminator is a string, and what is behind it. -/
theorem exists_string {buf : List UInt8} (h : 0 ∈ buf) :
    ∃ line more, 0 ∉ line ∧ buf = line ++ 0 :: more
      ∧ (buf.dropWhile (· != 0)).drop 1 = more := by
  induction buf with
  | nil => exact absurd h List.not_mem_nil
  | cons b buf ih =>
      by_cases hb : b = 0
      · subst hb
        exact ⟨[], buf, List.not_mem_nil, rfl, rfl⟩
      · obtain ⟨line, more, hline, hbuf, hmore⟩ :=
          ih ((List.mem_cons.1 h).resolve_left (Ne.symm hb))
        refine ⟨b :: line, more, ?_, by rw [hbuf, List.cons_append], ?_⟩
        · rw [List.mem_cons, not_or]
          exact ⟨Ne.symm hb, hline⟩
        · rw [List.dropWhile_cons_of_pos (by simpa using hb)]
          exact hmore

/-- A string that is read ends at a terminator: without one the whole
buffer is consumed. -/
theorem keepsOnError_tryGetCstring_iff (buf : List UInt8) :
    KeepsOnError tryGetCstring buf ↔ 0 ∈ buf ∨ buf = [] := by
  by_cases hmem : 0 ∈ buf
  · obtain ⟨line, more, hline, rfl, -⟩ := exists_string hmem
    refine ⟨fun _ => .inl hmem, fun _ e rest h => ?_⟩
    unfold tryGetCstring at h
    rw [tryGetCstringFrom_append [] line hline more] at h
    cases h
  · have hread : tryGetCstring buf = .error .unterminatedString [] :=
      tryGetCstringFrom_unterminated [] buf hmem
    constructor
    · intro h
      exact .inr (h _ _ hread).symm
    · rintro (h | rfl)
      · exact absurd h hmem
      · intro e rest h
        cases h
        rfl

/-- A read of four bytes leaves what is behind them. -/
theorem tryGetU32_rest {buf rest : List UInt8} {v : Nat} (h : tryGetU32 buf = .ok v rest) :
    rest = buf.drop 4 := by
  unfold tryGetU32 at h
  split at h
  · cases h
    rfl
  · cases h

/-- Four bytes are read where there are four. -/
theorem tryGetU32_ok {buf : List UInt8} (h : 4 ≤ buf.length) :
    ∃ v, tryGetU32 buf = .ok v (buf.drop 4) := by
  match buf with
  | [] | [_] | [_, _] | [_, _, _] => simp at h
  | a :: b :: c :: d :: rest => exact ⟨_, rfl⟩

/-- What is left is what is behind them. -/
theorem tryGetBytes_rest {n : Nat} {buf rest bytes : List UInt8}
    (h : tryGetBytes n buf = .ok bytes rest) : rest = buf.drop n := by
  unfold tryGetBytes at h
  split at h
  · cases h
  · cases h
    rfl

/-- So many are read where there are so many. -/
theorem tryGetBytes_ok {n : Nat} {buf : List UInt8} (h : n ≤ buf.length) :
    tryGetBytes n buf = .ok (buf.take n) (buf.drop n) := if_neg (Nat.not_lt.2 h)

/-- What one read leaves, the next one reads. -/
theorem Reader.bind_eq_ok {α β : Type} {r : Reader α} {f : α → Reader β} {buf left : List UInt8}
    {b : β} : (r >>= f) buf = .ok b left ↔ ∃ a mid, r buf = .ok a mid ∧ f a mid = .ok b left := by
  show EStateM.bind r f buf = .ok b left ↔ _
  unfold EStateM.bind
  cases r buf with
  | ok a mid => simp
  | error e mid => simp

/-- What is decoded has been read. -/
theorem eq_ok_of_decodeWith {α : Type} {m : Reader α} {payload : List UInt8} {a : α}
    (h : decodeWith m payload = .ok a) : ∃ left, m payload = .ok a left := by
  unfold decodeWith at h
  split at h
  · rename_i left heq
    cases h
    exact ⟨left, heq⟩
  · cases h

/-- What has been read is decoded. -/
theorem decodeWith_ok {α : Type} {m : Reader α} {payload left : List UInt8} {a : α}
    (h : m payload = .ok a left) : ∃ a, decodeWith m payload = .ok a := by
  unfold decodeWith
  rw [h]
  exact ⟨a, rfl⟩

namespace Bncs

-- ================================================================== messages

/-- The message is the string up to its terminator, and empty if it has
none. -/
theorem readMessage_eq (buf : List UInt8) : ∃ left, readMessage buf
    = .ok (if 0 ∈ buf then fromUtf8Lossy (buf.takeWhile (· != 0)) else []) left := by
  unfold readMessage
  by_cases hmem : 0 ∈ buf
  · obtain ⟨line, more, hline, rfl, -⟩ := exists_string hmem
    have htake : (line ++ 0 :: more).takeWhile (· != 0) = line := by
      rw [List.takeWhile_append_of_pos fun b hb => by
        simpa using fun hzero : b = 0 => hline (hzero ▸ hb)]
      simp
    rw [if_pos (by simp), if_pos hmem, htake]
    unfold Reader.unwrapOrElse tryGetCstring
    rw [tryGetCstringFrom_append [] line hline more]
    exact ⟨more, rfl⟩
  · rw [if_neg hmem]
    split
    · unfold Reader.unwrapOrElse tryGetCstring
      rw [tryGetCstringFrom_unterminated [] buf hmem]
      -- the second read finds the buffer empty
      exact ⟨[], rfl⟩
    · exact ⟨buf, rfl⟩

/-- The message of a `LogonProof` is behind the proof, if there is
one. -/
theorem LogonProof.readProof_eq (payload : List UInt8) :
    ∃ proof, readProof (payload.drop 4) = .ok proof (rest payload) := by
  unfold readProof rest
  by_cases h : 20 ≤ (payload.drop 4).length
  · rw [if_pos h, if_pos h]
    exact ⟨_, tryGetBytes_ok h⟩
  · rw [if_neg h, if_neg h]
    exact ⟨_, rfl⟩

/-- A payload that is decoded has its message behind its fields. -/
theorem LogonProof.message_eq {payload : List UInt8} {p : LogonProof}
    (h : LogonProof.decode payload = .ok p) : p.message
      = if 0 ∈ rest payload then fromUtf8Lossy ((rest payload).takeWhile (· != 0)) else [] := by
  obtain ⟨left, h⟩ := eq_ok_of_decodeWith h
  unfold LogonProof.read at h
  obtain ⟨status, buf, hstatus, h⟩ := Reader.bind_eq_ok.1 h
  obtain rfl := tryGetU32_rest hstatus
  obtain ⟨proof, buf, hproof, h⟩ := Reader.bind_eq_ok.1 h
  obtain ⟨_, hread⟩ := readProof_eq payload
  rw [hread] at hproof
  cases hproof
  obtain ⟨message, _, hmessage, h⟩ := Reader.bind_eq_ok.1 h
  obtain ⟨_, heq⟩ := readMessage_eq (rest payload)
  rw [heq] at hmessage
  cases hmessage
  cases h
  rfl

/-- The user of a `ChatEvent` is read, with or without a terminator. -/
theorem exists_user (buf : List UInt8) :
    ∃ user left, tryGetCstring.unwrapOrElse (pure []) buf = .ok user left := by
  unfold Reader.unwrapOrElse
  split
  · exact ⟨_, _, rfl⟩
  · exact ⟨_, _, rfl⟩

/-- What is left behind the user of a `ChatEvent`. -/
theorem unwrapOrElse_user {buf left : List UInt8} {user : Text}
    (h : tryGetCstring.unwrapOrElse (pure []) buf = .ok user left) :
    left = (if 0 ∈ buf then behindString buf else []) := by
  unfold Reader.unwrapOrElse tryGetCstring at h
  by_cases hmem : 0 ∈ buf
  · obtain ⟨line, more, hline, hbuf, hmore⟩ := exists_string hmem
    unfold behindString
    rw [if_pos hmem, if_pos hmem, hmore]
    rw [hbuf, tryGetCstringFrom_append [] line hline more] at h
    cases h
    rfl
  · rw [tryGetCstringFrom_unterminated [] buf hmem] at h
    rw [if_neg hmem]
    cases h
    rfl

@[inherit_doc LogonProof.message_eq]
theorem ChatEvent.message_eq {payload : List UInt8} {p : ChatEvent}
    (h : ChatEvent.decode payload = .ok p) : p.message
      = if 0 ∈ rest payload then fromUtf8Lossy ((rest payload).takeWhile (· != 0)) else [] := by
  obtain ⟨left, h⟩ := eq_ok_of_decodeWith h
  unfold ChatEvent.read at h
  obtain ⟨eventId, _, heventId, h⟩ := Reader.bind_eq_ok.1 h
  obtain rfl := tryGetU32_rest heventId
  obtain ⟨_, _, hflags, h⟩ := Reader.bind_eq_ok.1 h
  obtain rfl := tryGetU32_rest hflags
  obtain ⟨ping, _, hping, h⟩ := Reader.bind_eq_ok.1 h
  obtain rfl := tryGetU32_rest hping
  obtain ⟨_, _, hip, h⟩ := Reader.bind_eq_ok.1 h
  obtain rfl := tryGetBytes_rest hip
  obtain ⟨_, _, haccount, h⟩ := Reader.bind_eq_ok.1 h
  obtain rfl := tryGetBytes_rest haccount
  obtain ⟨_, _, hauth, h⟩ := Reader.bind_eq_ok.1 h
  obtain rfl := tryGetBytes_rest hauth
  obtain ⟨user, buf, huser, h⟩ := Reader.bind_eq_ok.1 h
  obtain ⟨message, _, hmessage, h⟩ := Reader.bind_eq_ok.1 h
  simp only [List.drop_drop] at huser
  have hbuf := unwrapOrElse_user huser
  obtain ⟨_, heq⟩ := readMessage_eq buf
  rw [heq] at hmessage
  cases hmessage
  cases h
  dsimp only
  unfold rest
  by_cases hmem : 0 ∈ payload.drop 24
  · rw [if_pos hmem] at hbuf
    rw [hbuf]
  · -- without a terminator the read of the user has left nothing, and the message is empty too
    rw [if_neg hmem] at hbuf
    unfold behindString
    rw [hbuf, if_neg hmem, if_neg hmem]
    rfl

-- ===================================================================== texts

/-- A well-formed character takes its first byte. -/
theorem utf8Next_pos (b : UInt8) (rest : Text) : 1 ≤ (utf8Next b rest).2 := by
  unfold utf8Next
  dsimp only
  split <;> (repeat' split) <;> simp

/-- Bytes that do not begin with a zero are no empty text. -/
theorem trimmed_ne_nil {buf : List UInt8} (hne : buf ≠ []) (hmem : 0 ∉ buf) :
    trimEndNuls (fromUtf8Lossy buf) ≠ [] := by
  obtain ⟨b, rest, rfl⟩ := List.exists_cons_of_ne_nil hne
  rw [List.mem_cons, not_or] at hmem
  obtain ⟨c, hc, hmore⟩ : ∃ c ∈ fromUtf8Lossy (b :: rest), c ≠ 0 := by
    unfold fromUtf8Lossy
    rw [List.length_cons]
    unfold fromUtf8LossyAux
    obtain ⟨n, hn⟩ := Nat.exists_eq_add_of_le' (utf8Next_pos b rest)
    dsimp only
    split
    · rw [hn, List.take_succ_cons]
      exact ⟨b, List.mem_append_left _ List.mem_cons_self, Ne.symm hmem.1⟩
    · exact ⟨0xEF, List.mem_append_left _ List.mem_cons_self, by decide⟩
  intro hnil
  unfold trimEndNuls at hnil
  rw [List.rdropWhile_eq_nil_iff] at hnil
  exact hmore (by simpa using hnil c hc)

/-- An unterminated string is read as an empty one, so its text is kept
only if there is none. -/
theorem keepsText_iff {rest : List UInt8} {message : Text}
    (hmessage : message = if 0 ∈ rest then fromUtf8Lossy (rest.takeWhile (· != 0)) else []) :
    (0 ∉ rest → message = trimEndNuls (fromUtf8Lossy rest)) ↔ 0 ∈ rest ∨ rest = [] := by
  by_cases hmem : 0 ∈ rest
  · exact ⟨fun _ => .inl hmem, fun _ hnot => absurd hmem hnot⟩
  · rw [if_neg hmem] at hmessage
    subst hmessage
    constructor
    · intro h
      by_contra hno
      exact trimmed_ne_nil (fun hnil => hno (.inr hnil)) hmem (h hmem).symm
    · rintro (h | rfl)
      · exact absurd h hmem
      · exact fun _ => rfl

/-- A payload is decoded if its fields are there. -/
theorem LogonProof.decode_ok {payload : List UInt8} (h : 4 ≤ payload.length) :
    ∃ p, LogonProof.decode payload = .ok p := by
  obtain ⟨status, hstatus⟩ := tryGetU32_ok h
  obtain ⟨proof, hproof⟩ := readProof_eq payload
  obtain ⟨left, hmessage⟩ := readMessage_eq (rest payload)
  have hread : LogonProof.read payload = .ok ⟨status, proof, _⟩ left :=
    Reader.bind_eq_ok.2 ⟨_, _, hstatus, Reader.bind_eq_ok.2 ⟨_, _, hproof,
      Reader.bind_eq_ok.2 ⟨_, _, hmessage, rfl⟩⟩⟩
  exact decodeWith_ok hread

/-- A payload that is long enough is decoded. -/
theorem ChatEvent.decode_ok {payload : List UInt8} (h : 24 ≤ payload.length) :
    ∃ p, ChatEvent.decode payload = .ok p := by
  have hroom : ∀ {n k : Nat}, n + k ≤ 24 → k ≤ (payload.drop n).length := by
    intro n k hk
    rw [List.length_drop]
    omega
  obtain ⟨eventId, heventId⟩ := tryGetU32_ok (Nat.le_trans (by decide : 4 ≤ 24) h)
  obtain ⟨flags, hflags⟩ := tryGetU32_ok (hroom (n := 4) (k := 4) (by decide))
  obtain ⟨ping, hping⟩ := tryGetU32_ok (hroom (n := 8) (k := 4) (by decide))
  have hip := tryGetBytes_ok (hroom (n := 12) (k := 4) (by decide))
  have haccount := tryGetBytes_ok (hroom (n := 16) (k := 4) (by decide))
  have hauth := tryGetBytes_ok (hroom (n := 20) (k := 4) (by decide))
  rw [List.drop_drop] at hflags hping hip haccount hauth
  obtain ⟨user, buf, huser⟩ := exists_user (payload.drop 24)
  obtain ⟨left, hmessage⟩ := readMessage_eq buf
  have hread : ChatEvent.read payload = .ok ⟨eventId, ping, user, _⟩ left :=
    Reader.bind_eq_ok.2 ⟨_, _, heventId, Reader.bind_eq_ok.2 ⟨_, _, hflags,
      Reader.bind_eq_ok.2 ⟨_, _, hping, Reader.bind_eq_ok.2 ⟨_, _, hip,
        Reader.bind_eq_ok.2 ⟨_, _, haccount, Reader.bind_eq_ok.2 ⟨_, _, hauth,
          Reader.bind_eq_ok.2 ⟨_, _, huser, Reader.bind_eq_ok.2 ⟨_, _, hmessage, rfl⟩⟩⟩⟩⟩⟩⟩⟩
  exact decodeWith_ok hread

-- ==================================================================== result

/-- The readers that measure keep the buffer when they fail. The string
reader keeps it if there is a terminator, so that it does not fail, or
nothing to consume; and a message keeps the text of a last string in
these cases and no others. -/
theorem failed_reads_iff (buf payload : List UInt8) :
    (KeepsOnError tryGetU8 buf ∧ KeepsOnError tryGetU16 buf ∧ KeepsOnError tryGetU32 buf
        ∧ (∀ n, KeepsOnError (tryGetBytes n) buf)
        ∧ (KeepsOnError tryGetCstring buf ↔ 0 ∈ buf ∨ buf = []))
      ∧ (LogonProof.KeepsText payload
        ↔ 0 ∈ LogonProof.rest payload ∨ LogonProof.rest payload = [])
      ∧ (ChatEvent.KeepsText payload
        ↔ 0 ∈ ChatEvent.rest payload ∨ ChatEvent.rest payload = []) := by
  refine ⟨⟨keepsOnError_tryGetU8 buf, keepsOnError_tryGetU16 buf, keepsOnError_tryGetU32 buf,
    fun n => keepsOnError_tryGetBytes n buf, keepsOnError_tryGetCstring_iff buf⟩, ?_, ?_⟩
  · constructor
    · intro h
      by_cases hlen : 4 ≤ payload.length
      · obtain ⟨p, hp⟩ := LogonProof.decode_ok hlen
        exact (keepsText_iff (LogonProof.message_eq hp)).1 (h p hp)
      · -- no field fits, and nothing is left
        refine .inr ?_
        unfold LogonProof.rest
        rw [List.drop_eq_nil_of_le (by omega)]
        rfl
    · intro h p hp
      exact (keepsText_iff (LogonProof.message_eq hp)).2 h
  · constructor
    · intro h
      by_cases hlen : 24 ≤ payload.length
      · obtain ⟨p, hp⟩ := ChatEvent.decode_ok hlen
        exact (keepsText_iff (ChatEvent.message_eq hp)).1 (h p hp)
      · refine .inr ?_
        unfold ChatEvent.rest
        rw [List.drop_eq_nil_of_le (by omega)]
        rfl
    · intro h p hp
      exact (keepsText_iff (ChatEvent.message_eq hp)).2 h

/-- A refused logon whose message is not terminated: the message is
lost. -/
theorem unterminated_message_is_lost :
    let payload : List UInt8 := [2, 0, 0, 0, 0x6E, 0x6F]
    LogonProof.decode payload = .ok ⟨2, List.replicate 20 0, []⟩
      ∧ trimEndNuls (fromUtf8Lossy (LogonProof.rest payload)) = [0x6E, 0x6F]
      ∧ ¬KeepsOnError tryGetCstring [0x6E, 0x6F] ∧ ¬LogonProof.KeepsText payload := by
  intro payload
  have hdecode : LogonProof.decode payload = .ok ⟨2, List.replicate 20 0, []⟩ := by decide
  have htext : trimEndNuls (fromUtf8Lossy (LogonProof.rest payload)) = [0x6E, 0x6F] := by decide
  refine ⟨hdecode, htext, ?_, ?_⟩
  · intro h
    cases h .unterminatedString [] rfl
  · intro h
    have hlost := h _ hdecode (by decide)
    rw [htext] at hlost
    cases hlost

end Bncs

end Spectre

/-
Who speaks in the chat of those who watch.

Nobody speaks for somebody else: what is relayed under the id of a
connection was sent on it, as a whole message, in this order and each
message at most once (`chat_attributed`).

An event is about one connection, which it changes by `act`, or makes
one; and only a step of a reading task publishes something. Everything
here and in the modules on what is heard and how often rests on these
(`get_step`, `tx_step`).
-/
import Spectre.TvChat

namespace Spectre.DotaTv

open Lib

-- ============================================================== statements

/-- A message as a viewer sends it: a text that is not too long, or a
ping. -/
inductive ChatMessage where
  | chat (text : List UInt8) (fits : text.length ≤ chatMaxText)
  | ping (a b c d : UInt8)

namespace ChatMessage

/-- Its kind. -/
def kind : ChatMessage → UInt8
  | chat _ _ => chatKindChat
  | ping .. => chatKindPing

/-- What it carries. -/
def payload : ChatMessage → List UInt8
  | chat text _ => u16le text.length ++ text
  | ping a b c d => [a, b, c, d]

/-- What a viewer sends. -/
def bytes (m : ChatMessage) : List UInt8 := m.kind :: m.payload

/-- What is relayed of it. -/
def stamped (id : Nat) (m : ChatMessage) : List UInt8 := chatStamp id m.kind m.payload

end ChatMessage

/-- The id under which a message is relayed. -/
def chatFrom (msg : List UInt8) : Nat := readLe ((msg.drop 1).take 4)

/-- What was relayed under an id. -/
def ChatRelay.saidBy (r : ChatRelay) (id : Nat) : List (List UInt8) :=
  r.tx.log.filter fun msg => chatFrom msg == id

-- =========================================================== one connection

/-- What has been read of the message that is being read. -/
def ChatRead.part : ChatRead → List UInt8
  | kind => []
  | length => [chatKindChat]
  | text lb => chatKindChat :: lb
  | ping => [chatKindPing]

/-- A text is waited for only where it is not too long. -/
def ChatRead.Proper (r : ChatRead) : Prop :=
  ∀ lb, r = text lb → lb.length = 2 ∧ readLe lb ≤ chatMaxText

/-- Two bytes are a length. -/
theorem u16le_readLe {lb : List UInt8} (h : lb.length = 2) : u16le (readLe lb) = lb := by
  match lb, h with
  | [a, b], _ =>
      have ha := a.toNat_lt
      have hlow : (a.toNat + 256 * (b.toNat + 256 * 0)).toUInt8 = a := by
        refine UInt8.toNat.inj ?_
        rw [Nat.toUInt8_eq, UInt8.toNat_ofNat']
        omega
      have hhigh : ((a.toNat + 256 * (b.toNat + 256 * 0)) / 256).toUInt8 = b := by
        have hb := b.toNat_lt
        refine UInt8.toNat.inj ?_
        rw [Nat.toUInt8_eq, UInt8.toNat_ofNat']
        omega
      show [_, _] = [a, b]
      rw [show readLe [a, b] = a.toNat + 256 * (b.toNat + 256 * 0) from rfl, hlow, hhigh]

/-- Nothing else than whole messages is made of what is read. -/
theorem ChatRead.found_cases {r : ChatRead} (hr : r.Proper) {b : List UInt8}
    (hb : b.length = r.needs) :
    r.found b = .invalid
    ∨ (∃ r', r.found b = .more r' ∧ r'.Proper ∧ r'.part = r.part ++ b)
    ∨ ∃ m : ChatMessage, r.found b = .message m.kind m.payload ∧ m.bytes = r.part ++ b := by
  cases r with
  | kind =>
      simp only [ChatRead.found]
      by_cases hchat : b = [chatKindChat]
      · rw [if_pos hchat]
        refine .inr (.inl ⟨length, rfl, fun lb h => (by cases h), ?_⟩)
        rw [hchat]
        rfl
      rw [if_neg hchat]
      by_cases hping : b = [chatKindPing]
      · rw [if_pos hping]
        refine .inr (.inl ⟨ping, rfl, fun lb h => (by cases h), ?_⟩)
        rw [hping]
        rfl
      · rw [if_neg hping]
        exact .inl rfl
  | length =>
      simp only [ChatRead.found]
      -- a text too long ends the connection before it is read
      by_cases hlong : chatMaxText < readLe b
      · rw [if_pos hlong]
        exact .inl rfl
      · rw [if_neg hlong]
        refine .inr (.inl ⟨text b, rfl, fun lb h => ?_, rfl⟩)
        cases h
        exact ⟨hb, Nat.not_lt.1 hlong⟩
  | text lb =>
      obtain ⟨htwo, hshort⟩ := hr lb rfl
      have hlen : b.length = readLe lb := hb
      refine .inr (.inr ⟨.chat b (hlen ▸ hshort), ?_, ?_⟩)
      · show _ = ChatFound.message chatKindChat (u16le b.length ++ b)
        rw [hlen, u16le_readLe htwo]
        rfl
      · show chatKindChat :: (u16le b.length ++ b) = (chatKindChat :: lb) ++ b
        rw [hlen, u16le_readLe htwo]
        rfl
  | ping =>
      match b, hb with
      | [w, x, y, z], _ => exact .inr (.inr ⟨.ping w x y z, rfl, rfl⟩)

/-- The messages read on a connection: they are what arrived first, and
while the loop goes on, what it has of the next one and what is not read
follow. -/
structure ChatConn.Heard (c : ChatConn) (msgs : List ChatMessage) : Prop where
  sent : msgs.flatMap ChatMessage.bytes <+: c.arrived
  waits : c.reading.Proper
  unread : c.stage ≠ .over → ∃ lost,
    c.arrived = msgs.flatMap ChatMessage.bytes ++ c.reading.part ++ c.inbox ++ lost
      ∧ (c.ended = false → lost = [])

namespace ChatConn

variable {c : ChatConn} {msgs : List ChatMessage}

/-- More bytes arrive, and wait. -/
theorem Heard.arrive (h : c.Heard msgs) (bytes : List UInt8) : (c.arrive bytes).Heard msgs := by
  unfold ChatConn.arrive
  by_cases hended : c.ended = true
  · rw [if_pos hended]
    exact h
  rw [if_neg hended]
  refine ⟨h.sent.trans (List.prefix_append _ _), h.waits, fun hstage => ?_⟩
  obtain ⟨lost, harrived, hlost⟩ := h.unread hstage
  have hnone := hlost (Bool.not_eq_true _ ▸ hended)
  refine ⟨[], ?_, fun _ => rfl⟩
  show c.arrived ++ bytes = _ ++ (c.inbox ++ bytes) ++ []
  rw [harrived, hnone, List.append_nil, List.append_nil, List.append_assoc]

/-- The viewer hangs up: what has not arrived by then is lost. -/
theorem Heard.hangUp (h : c.Heard msgs) (kept : Nat) : (c.hangUp kept).Heard msgs := by
  refine ⟨h.sent, h.waits, fun hstage => ?_⟩
  obtain ⟨lost, harrived, hlost⟩ := h.unread hstage
  refine ⟨c.inbox.drop kept ++ lost, ?_, fun hended => by cases hended⟩
  show c.arrived = _ ++ c.inbox.take kept ++ (c.inbox.drop kept ++ lost)
  rw [harrived, List.append_assoc _ (c.inbox.take kept), ← List.append_assoc (c.inbox.take kept),
    List.take_append_drop, List.append_assoc]
  rfl

/-- The rest of the events leave alone what arrived and what is read of
it, or end the loop. -/
theorem Heard.same (h : c.Heard msgs) {d : ChatConn} (harrived : d.arrived = c.arrived)
    (hreading : d.reading = c.reading) (hinbox : d.inbox = c.inbox) (hended : d.ended = c.ended)
    (hstage : d.stage ≠ .over → c.stage ≠ .over) : d.Heard msgs := by
  refine ⟨harrived ▸ h.sent, hreading ▸ h.waits, fun hd => ?_⟩
  rw [harrived, hreading, hinbox, hended]
  exact h.unread (hstage hd)

/-- What the reading task can do: nothing that shows, or to end, or to
go on within a message, or to read the end of one. -/
theorem read_cases (c : ChatConn) (hwaits : c.reading.Proper) (now : Nat) :
    c.read now = (c, none)
    ∨ (∃ inbox, c.read now = ({ c with inbox := inbox, stage := .over }, none))
    ∨ (∃ r b rest, c.stage = .talking ∧ c.inbox = b ++ rest ∧ r.Proper
        ∧ r.part = c.reading.part ++ b
        ∧ c.read now = ({ c with inbox := rest, reading := r }, none))
    ∨ ∃ (m : ChatMessage) (b rest : List UInt8), c.stage = .talking ∧ c.inbox = b ++ rest
        ∧ m.bytes = c.reading.part ++ b
        ∧ c.read now =
          (({ c with inbox := rest, reading := .kind } : ChatConn).counted now,
            if chatRateMax < (c.counted now).winCount then none else some (m.stamped c.id)) := by
  unfold ChatConn.read
  by_cases htalks : c.stage = .talking
  · rw [if_neg (not_not_intro htalks)]
    by_cases hfew : c.inbox.length < c.reading.needs
    · rw [if_pos hfew]
      -- too few bytes: the read waits, or finds that no more will come
      by_cases hended : c.ended = true
      · rw [if_pos hended]
        exact .inr (.inl ⟨c.inbox, rfl⟩)
      · rw [if_neg hended]
        exact .inl rfl
    · rw [if_neg hfew]
      have hb : (c.inbox.take c.reading.needs).length = c.reading.needs := by
        rw [List.length_take]
        exact Nat.min_eq_left (Nat.not_lt.1 hfew)
      have hsplit := (List.take_append_drop c.reading.needs c.inbox).symm
      dsimp only
      rcases ChatRead.found_cases hwaits hb with hbad | ⟨r, hmore, hr, hpart⟩ | ⟨m, hmsg, hbytes⟩
      · rw [hbad]
        exact .inr (.inl ⟨_, rfl⟩)
      · rw [hmore]
        exact .inr (.inr (.inl ⟨r, _, _, htalks, hsplit, hr, hpart, rfl⟩))
      · rw [hmsg]
        refine .inr (.inr (.inr ⟨m, _, _, htalks, hsplit, hbytes, ?_⟩))
        -- the limit counts the messages of the window, whatever the inbox has become
        have hcount : (({ c with inbox := c.inbox.drop c.reading.needs, reading := .kind } :
            ChatConn).counted now).winCount = (c.counted now).winCount := by
          unfold ChatConn.counted
          dsimp only
          split <;> rfl
        have hid : (({ c with inbox := c.inbox.drop c.reading.needs, reading := .kind } :
            ChatConn).counted now).id = c.id := by
          unfold ChatConn.counted
          dsimp only
          split <;> rfl
        dsimp only
        rw [hcount, hid]
        by_cases hmany : chatRateMax < (c.counted now).winCount
        · rw [if_pos hmany, if_pos hmany]
        · rw [if_neg hmany, if_neg hmany]
          rfl
  · rw [if_pos htalks]
    exact .inl rfl

/-- Counting a message changes nothing else. -/
theorem counted_eq (c : ChatConn) (now : Nat) :
    c.counted now = { c with
      winStart := (c.counted now).winStart, winCount := (c.counted now).winCount } := by
  unfold ChatConn.counted
  split <;> rfl

/-- The reading task hears at most one message more, and what it
publishes is that one. -/
theorem Heard.read (h : c.Heard msgs) (now : Nat) :
    ∃ more, (c.read now).1.Heard (msgs ++ more)
      ∧ (c.read now).2.toList.Sublist (more.map (ChatMessage.stamped c.id)) := by
  rcases c.read_cases h.waits now with hsame | ⟨inbox, hover⟩
    | ⟨r, b, rest, htalks, hinbox, hr, hpart, hmore⟩ | ⟨m, b, rest, htalks, hinbox, hm, hmsg⟩
  · rw [hsame]
    refine ⟨[], ?_, List.nil_sublist _⟩
    rw [List.append_nil]
    exact h
  · rw [hover]
    refine ⟨[], ?_, List.nil_sublist _⟩
    rw [List.append_nil]
    exact ⟨h.sent, h.waits, fun hstage => absurd rfl hstage⟩
  · rw [hmore]
    refine ⟨[], ?_, List.nil_sublist _⟩
    rw [List.append_nil]
    refine ⟨h.sent, hr, fun hstage => ?_⟩
    obtain ⟨lost, harrived, hlost⟩ := h.unread hstage
    refine ⟨lost, ?_, hlost⟩
    show c.arrived = _ ++ r.part ++ rest ++ lost
    rw [harrived, hinbox, hpart, ← List.append_assoc, ← List.append_assoc]
  · rw [hmsg]
    obtain ⟨lost, harrived, hlost⟩ := h.unread (by rw [htalks]; exact ChatStage.noConfusion)
    have hall : c.arrived
        = (msgs ++ [m]).flatMap ChatMessage.bytes ++ ChatRead.kind.part ++ rest ++ lost := by
      rw [harrived, hinbox, List.flatMap_append, List.flatMap_singleton, hm]
      show _ = _ ++ [] ++ rest ++ lost
      simp only [List.append_assoc, List.append_nil]
    refine ⟨[m], ?_, ?_⟩
    · rw [counted_eq]
      refine ⟨?_, fun lb h => (by cases h), fun _ => ⟨lost, hall, hlost⟩⟩
      show _ <+: c.arrived
      rw [hall, List.append_assoc, List.append_assoc]
      exact List.prefix_append _ _
    · dsimp only
      split
      · exact List.nil_sublist _
      · exact List.Sublist.refl _

end ChatConn

-- ================================================================== one event

/-- The connection an event is about. -/
def ChatEvent.at? : ChatEvent → Option Nat
  | connect => none
  | arrive k _ | hangUp k _ | write k _ | breakOff k | begin k _ | read k _ | recv k | stop k =>
      some k

/-- What it does to that connection. -/
def ChatConn.act (tx : Lib.Ring (List UInt8)) (c : ChatConn) : ChatEvent → ChatConn
  | .connect => c
  | .arrive _ bytes => c.arrive bytes
  | .hangUp _ kept => c.hangUp kept
  | .write _ n => c.write n
  | .breakOff _ => c.breakOff
  | .begin _ now => c.begin now
  | .read _ now => (c.read now).1
  | .recv _ => c.recv tx
  | .stop _ => c.stop

/-- What it makes that connection publish. -/
def ChatConn.publishes? (c : ChatConn) : ChatEvent → Option (List UInt8)
  | .read _ now => (c.read now).2
  | _ => none

/-- What an event does to the `k`th connection. -/
def ChatConn.on (tx : Lib.Ring (List UInt8)) (k : Nat) (c : ChatConn) (e : ChatEvent) : ChatConn :=
  if e.at? = some k then c.act tx e else c

/-- What an event makes the `k`th connection publish. -/
def ChatConn.publishesAt (k : Nat) (c : ChatConn) (e : ChatEvent) : Option (List UInt8) :=
  if e.at? = some k then c.publishes? e else none

/-- A connection when it is made. -/
def ChatRelay.fresh (r : ChatRelay) : ChatConn :=
  { id := r.nextId, rx := some r.tx.nextSeq, pending := u32le r.nextId }

namespace ChatRelay

variable {r : ChatRelay} {k : Nat} {c : ChatConn}

/-- A message that is relayed is sent later. -/
theorem publish_conns (msg : List UInt8) : (r.publish msg).conns = r.conns := by
  unfold publish
  split <;> rfl

/-- It uses up no id. -/
theorem publish_nextId (msg : List UInt8) : (r.publish msg).nextId = r.nextId := by
  unfold publish
  split <;> rfl

/-- The connections behind an event about one of them. -/
theorem step_conns {e : ChatEvent} {j : Nat} (hat : e.at? = some j) :
    (r.step e).conns = r.conns.modify j fun c => c.act r.tx e := by
  cases e with
  | connect => cases hat
  | read i now =>
      cases hat
      show (r.read j now).conns = _
      unfold ChatRelay.read
      cases hget : r.conns[j]? with
      | none =>
          refine (List.modify_eq_self ?_).symm
          exact List.getElem?_eq_none_iff.1 hget
      | some c =>
          dsimp only
          cases (c.read now).2 with
          | none => rfl
          | some msg => exact publish_conns msg
  | arrive i bytes =>
      cases hat
      rfl
  | hangUp i kept =>
      cases hat
      rfl
  | write i n =>
      cases hat
      rfl
  | breakOff i =>
      cases hat
      rfl
  | begin i now =>
      cases hat
      rfl
  | recv i =>
      cases hat
      rfl
  | stop i =>
      cases hat
      rfl

/-- Only a new connection does. -/
theorem step_nextId {e : ChatEvent} {j : Nat} (hat : e.at? = some j) :
    (r.step e).nextId = r.nextId := by
  cases e with
  | connect => cases hat
  | read i now =>
      show (r.read i now).nextId = _
      unfold ChatRelay.read
      split
      · rfl
      · dsimp only
        split
        · rfl
        · exact publish_nextId _
  | arrive i bytes => rfl
  | hangUp i kept => rfl
  | write i n => rfl
  | breakOff i => rfl
  | begin i now => rfl
  | recv i => rfl
  | stop i => rfl

/-- An event is about a connection or makes one. -/
theorem connect_or_at (e : ChatEvent) : e = .connect ∨ ∃ j, e.at? = some j := by
  cases e with
  | connect => exact .inl rfl
  | arrive j bytes => exact .inr ⟨j, rfl⟩
  | hangUp j kept => exact .inr ⟨j, rfl⟩
  | write j n => exact .inr ⟨j, rfl⟩
  | breakOff j => exact .inr ⟨j, rfl⟩
  | begin j now => exact .inr ⟨j, rfl⟩
  | read j now => exact .inr ⟨j, rfl⟩
  | recv j => exact .inr ⟨j, rfl⟩
  | stop j => exact .inr ⟨j, rfl⟩

/-- A connection there was is still there. -/
theorem step_get (e : ChatEvent) (h : r.conns[k]? = some c) :
    (r.step e).conns[k]? = some (c.on r.tx k e) := by
  rcases connect_or_at e with rfl | ⟨j, hat⟩
  · show (r.conns ++ [r.fresh])[k]? = some c
    rw [List.getElem?_append_left (List.getElem?_eq_some_iff.1 h).1]
    exact h
  · rw [step_conns hat, List.getElem?_modify, h]
    unfold ChatConn.on
    rw [hat]
    show some (if j = k then c.act r.tx e else c) = _
    by_cases hj : j = k
    · rw [if_pos hj, if_pos (congrArg some hj)]
    · rw [if_neg hj, if_neg fun heq => hj (Option.some.inj heq)]

/-- Every connection is one there was, with what the event does to it,
or is made by the event. -/
theorem get_step (e : ChatEvent) (h : (r.step e).conns[k]? = some c) :
    (∃ d, r.conns[k]? = some d ∧ c = d.on r.tx k e)
      ∨ e = .connect ∧ k = r.conns.length ∧ c = r.fresh := by
  by_cases hlt : k < r.conns.length
  · have hd := List.getElem?_eq_getElem hlt
    rw [step_get e hd] at h
    exact .inl ⟨_, hd, (Option.some.inj h).symm⟩
  · rcases connect_or_at e with rfl | ⟨j, hat⟩
    · have hget : (r.conns ++ [r.fresh])[k]? = some c := h
      rw [List.getElem?_append_right (Nat.not_lt.1 hlt)] at hget
      have hzero : k - r.conns.length = 0 := by
        have hbound := (List.getElem?_eq_some_iff.1 hget).1
        rw [List.length_singleton] at hbound
        omega
      rw [hzero] at hget
      exact .inr ⟨rfl, by omega, (Option.some.inj hget).symm⟩
    · have hbound := (List.getElem?_eq_some_iff.1 h).1
      rw [step_conns hat, List.length_modify] at hbound
      exact absurd hbound hlt

/-- No connection is forgotten. -/
theorem length_step (e : ChatEvent) : r.conns.length ≤ (r.step e).conns.length := by
  rcases connect_or_at e with rfl | ⟨j, hat⟩
  · show r.conns.length ≤ (r.conns ++ [r.fresh]).length
    rw [List.length_append]
    exact Nat.le_add_right _ _
  · rw [step_conns hat, List.length_modify]

/-- Only a message that a connection has read is sent. -/
theorem tx_step (e : ChatEvent) :
    (r.step e).tx = r.tx ∨ ∃ j d msg, e.at? = some j ∧ r.conns[j]? = some d
      ∧ d.publishes? e = some msg ∧ (r.step e).tx = r.tx.push msg := by
  cases e with
  | read j now =>
      show (r.read j now).tx = _ ∨ ∃ i d msg, _ ∧ _ ∧ _ ∧ (r.read j now).tx = _
      unfold ChatRelay.read
      cases hget : r.conns[j]? with
      | none => exact .inl rfl
      | some d =>
          dsimp only
          cases hmsg : (d.read now).2 with
          | none => exact .inl rfl
          | some msg =>
              dsimp only
              unfold publish
              split
              · exact .inr ⟨j, d, msg, rfl, hget, hmsg, rfl⟩
              · exact .inl rfl
  | connect => exact .inl rfl
  | arrive j bytes => exact .inl rfl
  | hangUp j kept => exact .inl rfl
  | write j n => exact .inl rfl
  | breakOff j => exact .inl rfl
  | begin j now => exact .inl rfl
  | recv j => exact .inl rfl
  | stop j => exact .inl rfl

end ChatRelay

-- ==================================================================== who spoke

namespace ChatConn

variable {c : ChatConn} {msgs : List ChatMessage}

/-- Reading changes no id. -/
theorem read_id (c : ChatConn) (now : Nat) : (c.read now).1.id = c.id := by
  unfold ChatConn.read
  split
  · rfl
  split
  · split <;> rfl
  · dsimp only
    split
    · rfl
    · rfl
    · rw [counted_eq]
      split <;> rfl

/-- Nor does receiving. -/
theorem recv_id (c : ChatConn) (tx : Lib.Ring (List UInt8)) : (c.recv tx).id = c.id := by
  unfold ChatConn.recv
  split
  · rfl
  split
  · rfl
  split <;> rfl

/-- A connection keeps its id. -/
theorem on_id (c : ChatConn) (tx : Lib.Ring (List UInt8)) (k : Nat) (e : ChatEvent) :
    (c.on tx k e).id = c.id := by
  unfold ChatConn.on
  split
  · cases e with
    | connect => rfl
    | read j now => exact c.read_id now
    | recv j => exact c.recv_id tx
    | arrive j bytes =>
        show (c.arrive bytes).id = c.id
        unfold ChatConn.arrive
        split <;> rfl
    | begin j now =>
        show (c.begin now).id = c.id
        unfold ChatConn.begin
        split <;> rfl
    | stop j =>
        show c.stop.id = c.id
        unfold ChatConn.stop
        split <;> rfl
    | hangUp j kept => rfl
    | write j n => rfl
    | breakOff j => rfl
  · rfl

/-- Whatever happens besides reading reads nothing. -/
theorem Heard.act (h : c.Heard msgs) (tx : Lib.Ring (List UInt8)) {e : ChatEvent}
    (hread : ∀ j now, e ≠ .read j now) : (c.act tx e).Heard msgs := by
  cases e with
  | connect => exact h
  | read j now => exact absurd rfl (hread j now)
  | arrive j bytes => exact h.arrive bytes
  | hangUp j kept => exact h.hangUp kept
  | write j n => exact h.same rfl rfl rfl rfl fun hstage => hstage
  | breakOff j =>
      refine h.same rfl rfl rfl rfl fun hstage hover => hstage ?_
      show (if c.stage = .greeting then ChatStage.over else c.stage) = .over
      rw [hover]
      rfl
  | begin j now =>
      show (c.begin now).Heard msgs
      unfold ChatConn.begin
      by_cases hgreets : c.stage = .greeting ∧ c.pending = []
      · rw [if_pos hgreets]
        refine h.same rfl rfl rfl rfl fun _ hover => ?_
        rw [hgreets.1] at hover
        cases hover
      · rw [if_neg hgreets]
        exact h
  | recv j =>
      show (c.recv tx).Heard msgs
      unfold ChatConn.recv
      split
      · exact h
      split
      · exact h
      split <;> exact h.same rfl rfl rfl rfl fun hstage => hstage
  | stop j =>
      show c.stop.Heard msgs
      unfold ChatConn.stop
      split
      · exact h.same rfl rfl rfl rfl fun hstage => hstage
      · exact h

/-- What is read on a connection goes on, and what it publishes is read
there. -/
theorem Heard.on (h : c.Heard msgs) (tx : Lib.Ring (List UInt8)) (k : Nat) (e : ChatEvent) :
    ∃ more, (c.on tx k e).Heard (msgs ++ more)
      ∧ (c.publishesAt k e).toList.Sublist (more.map (ChatMessage.stamped c.id)) := by
  have hnone : ∀ d : ChatConn, d.Heard msgs → ∃ more, d.Heard (msgs ++ more)
      ∧ (none : Option (List UInt8)).toList.Sublist (more.map (ChatMessage.stamped c.id)) := by
    intro d hd
    refine ⟨[], ?_, List.nil_sublist _⟩
    rw [List.append_nil]
    exact hd
  unfold ChatConn.on ChatConn.publishesAt
  by_cases hat : e.at? = some k
  · rw [if_pos hat, if_pos hat]
    cases e with
    | connect => cases hat
    | read j now => exact h.read now
    | arrive j bytes => exact hnone _ (h.act tx fun i now => ChatEvent.noConfusion)
    | hangUp j kept => exact hnone _ (h.act tx fun i now => ChatEvent.noConfusion)
    | write j n => exact hnone _ (h.act tx fun i now => ChatEvent.noConfusion)
    | breakOff j => exact hnone _ (h.act tx fun i now => ChatEvent.noConfusion)
    | begin j now => exact hnone _ (h.act tx fun i now => ChatEvent.noConfusion)
    | recv j => exact hnone _ (h.act tx fun i now => ChatEvent.noConfusion)
    | stop j => exact hnone _ (h.act tx fun i now => ChatEvent.noConfusion)
  · rw [if_neg hat, if_neg hat]
    exact hnone c h

/-- What a connection publishes bears its id. -/
theorem published_stamped (hwaits : c.reading.Proper) {e : ChatEvent} {msg : List UInt8}
    (hmsg : c.publishes? e = some msg) : ∃ m : ChatMessage, msg = m.stamped c.id := by
  cases e with
  | read j now =>
      have hsaid : (c.read now).2 = some msg := hmsg
      rcases c.read_cases hwaits now with h | ⟨_, h⟩ | ⟨_, _, _, _, _, _, _, h⟩
        | ⟨m, _, _, _, _, _, h⟩
      · rw [h] at hsaid
        cases hsaid
      · rw [h] at hsaid
        cases hsaid
      · rw [h] at hsaid
        cases hsaid
      · rw [h] at hsaid
        dsimp only at hsaid
        split at hsaid
        · cases hsaid
        · exact ⟨m, (Option.some.inj hsaid).symm⟩
  | connect => cases hmsg
  | arrive j bytes => cases hmsg
  | hangUp j kept => cases hmsg
  | write j n => cases hmsg
  | breakOff j => cases hmsg
  | begin j now => cases hmsg
  | recv j => cases hmsg
  | stop j => cases hmsg

end ChatConn

/-- The id is read back. -/
theorem chatFrom_stamped {id : Nat} (h : id < 2 ^ 32) (m : ChatMessage) :
    chatFrom (m.stamped id) = id := readLe_u32le h

namespace ChatRelay

variable {r : ChatRelay} {k : Nat} {c : ChatConn}

/-- Ids are given in turn, every message is one of a connection there
was, and as long as the ids are enough, what is said under an id is read
on its connection. -/
structure Attributed (r : ChatRelay) : Prop where
  ids : ∀ k c, r.conns[k]? = some c → c.id = (k + 1) % 2 ^ 32
  next : r.nextId = (r.conns.length + 1) % 2 ^ 32
  known : ∀ msg ∈ r.tx.log, ∃ c ∈ r.conns, chatFrom msg = c.id
  heard : ∀ c ∈ r.conns, ∃ msgs, c.Heard msgs
    ∧ (r.conns.length ≤ 2 ^ 32 → (r.saidBy c.id).Sublist (msgs.map (ChatMessage.stamped c.id)))

/-- Before any connection nothing has been said. -/
theorem attributed_new : new.Attributed where
  ids := fun k c h => by cases h
  next := by decide
  known := fun msg h => by cases h
  heard := fun c h => by cases h

/-- Ids have 32 bits. -/
theorem Attributed.id_lt (h : r.Attributed) (hc : r.conns[k]? = some c) : c.id < 2 ^ 32 := by
  rw [h.ids k c hc]
  exact Nat.mod_lt _ (by decide)

/-- Two connections with one id are one, as long as the ids are enough. -/
theorem Attributed.same_id (h : r.Attributed) (hids : r.conns.length ≤ 2 ^ 32) {j : Nat}
    {d : ChatConn} (hc : r.conns[k]? = some c) (hd : r.conns[j]? = some d) (hid : c.id = d.id) :
    k = j := by
  have hk := (List.getElem?_eq_some_iff.1 hc).1
  have hj := (List.getElem?_eq_some_iff.1 hd).1
  rw [h.ids k c hc, h.ids j d hd] at hid
  omega

/-- A message that is published is one of the connection that has read
it. -/
theorem Attributed.from_published (h : r.Attributed) {e : ChatEvent} {msg : List UInt8}
    (hc : r.conns[k]? = some c) (hmsg : c.publishes? e = some msg) : chatFrom msg = c.id := by
  obtain ⟨msgs, hheard, _⟩ := h.heard c (List.mem_of_getElem? hc)
  obtain ⟨m, rfl⟩ := ChatConn.published_stamped hheard.waits hmsg
  exact chatFrom_stamped (h.id_lt hc) m

/-- Under the id of a connection nobody speaks but that connection. -/
theorem Attributed.saidBy_step (h : r.Attributed) (hids : r.conns.length ≤ 2 ^ 32)
    (hc : r.conns[k]? = some c) (e : ChatEvent) :
    ∃ l, l.Sublist (c.publishesAt k e).toList ∧ (r.step e).saidBy c.id = r.saidBy c.id ++ l := by
  rcases tx_step e with hsame | ⟨j, d, msg, hat, hd, hmsg, hpush⟩
  · refine ⟨[], List.nil_sublist _, ?_⟩
    unfold saidBy
    rw [hsame, List.append_nil]
  · have hfrom := h.from_published hd hmsg
    unfold saidBy
    rw [hpush, Lib.Ring.push_log, List.filter_append]
    refine ⟨[msg].filter fun msg => chatFrom msg == c.id, ?_, rfl⟩
    by_cases hid : d.id = c.id
    · have hjk := h.same_id hids hd hc hid
      subst hjk
      rw [hd] at hc
      cases hc
      unfold ChatConn.publishesAt
      rw [if_pos hat, hmsg]
      exact List.filter_sublist
    · rw [List.filter_cons_of_neg (by rw [hfrom]; exact fun heq => hid (eq_of_beq heq))]
      exact List.nil_sublist _

/-- Nobody has spoken under a new id. -/
theorem Attributed.fresh_silent (h : r.Attributed)
    (hids : (r.step .connect).conns.length ≤ 2 ^ 32) :
    (r.step .connect).saidBy r.fresh.id = [] := by
  refine List.filter_eq_nil_iff.2 fun msg hmsg heq => ?_
  obtain ⟨d, hd, hfrom⟩ := h.known msg hmsg
  obtain ⟨j, hj⟩ := List.getElem?_of_mem hd
  have hjlt := (List.getElem?_eq_some_iff.1 hj).1
  have hlen : (r.step .connect).conns.length = r.conns.length + 1 := by
    show (r.conns ++ [r.fresh]).length = _
    rw [List.length_append, List.length_singleton]
  have hsame : d.id = r.nextId := hfrom.symm.trans (eq_of_beq heq)
  rw [h.ids j d hj, h.next] at hsame
  omega

/-- Every event keeps what is said with who says it. -/
theorem Attributed.step (h : r.Attributed) (e : ChatEvent) : (r.step e).Attributed where
  ids := by
    intro k c hc
    rcases get_step e hc with ⟨d, hd, rfl⟩ | ⟨rfl, rfl, rfl⟩
    · rw [ChatConn.on_id]
      exact h.ids k d hd
    · exact h.next
  next := by
    rcases connect_or_at e with rfl | ⟨j, hat⟩
    · show (r.nextId + 1) % 2 ^ 32 = ((r.conns ++ [r.fresh]).length + 1) % 2 ^ 32
      rw [h.next, List.length_append, List.length_singleton, Nat.mod_add_mod]
    · rw [step_nextId hat, step_conns hat, List.length_modify]
      exact h.next
  known := by
    -- a connection keeps its number in every step
    have hstays : ∀ c ∈ r.conns, ∃ d ∈ (r.step e).conns, c.id = d.id := by
      intro c hc
      obtain ⟨k, hk⟩ := List.getElem?_of_mem hc
      exact ⟨_, List.mem_of_getElem? (step_get e hk), (c.on_id r.tx k e).symm⟩
    have hold : ∀ msg ∈ r.tx.log, ∃ d ∈ (r.step e).conns, chatFrom msg = d.id := by
      intro msg hmsg
      obtain ⟨c, hc, hfrom⟩ := h.known msg hmsg
      obtain ⟨d, hd, hid⟩ := hstays c hc
      exact ⟨d, hd, hfrom.trans hid⟩
    intro msg hmsg
    -- at most one message is published, by the one who said it
    rcases tx_step e with hsame | ⟨j, d, said, hat, hd, hsaid, hpush⟩
    · rw [hsame] at hmsg
      exact hold msg hmsg
    · rw [hpush, Lib.Ring.push_log] at hmsg
      rcases List.mem_append.1 hmsg with hmsg | hmsg
      · exact hold msg hmsg
      · rw [List.mem_singleton.1 hmsg]
        obtain ⟨c, hc, hid⟩ := hstays d (List.mem_of_getElem? hd)
        exact ⟨c, hc, (h.from_published hd hsaid).trans hid⟩
  heard := by
    intro c hc
    obtain ⟨k, hk⟩ := List.getElem?_of_mem hc
    rcases get_step e hk with ⟨d, hd, rfl⟩ | ⟨rfl, hlen, rfl⟩
    · obtain ⟨msgs, hheard, hsaid⟩ := h.heard d (List.mem_of_getElem? hd)
      obtain ⟨more, hmore, hpublished⟩ := hheard.on r.tx k e
      refine ⟨msgs ++ more, hmore, fun hids => ?_⟩
      have hbefore := Nat.le_trans (length_step e) hids
      obtain ⟨l, hl, hsaidBy⟩ := h.saidBy_step hbefore hd e
      rw [ChatConn.on_id, hsaidBy, List.map_append]
      exact (hsaid hbefore).append (hl.trans hpublished)
    · refine ⟨[], ⟨List.nil_prefix, fun lb h => (by cases h), fun _ => ⟨[], rfl, fun _ => rfl⟩⟩,
        fun hids => ?_⟩
      -- a new number has said nothing yet as long as they do not wrap
      rw [h.fresh_silent hids]
      exact List.nil_sublist _

/-- So do events one after another. -/
theorem Attributed.run (h : r.Attributed) (es : List ChatEvent) : (run es r).Attributed := by
  induction es generalizing r with
  | nil => exact h
  | cons e es ih => exact ih (h.step e)

end ChatRelay

/-- Whatever happens in which order: as long as there are ids enough,
every connection has its own, nothing is relayed but under one of them,
and what is relayed under it is what came in on its connection, whole
messages in their order, each at most once. -/
theorem chat_attributed (es : List ChatEvent)
    (hids : (ChatRelay.run es .new).conns.length ≤ 2 ^ 32) :
    ((ChatRelay.run es .new).conns.map ChatConn.id).Nodup
      ∧ (∀ msg ∈ (ChatRelay.run es .new).tx.log,
          chatFrom msg ∈ (ChatRelay.run es .new).conns.map ChatConn.id)
      ∧ ∀ c ∈ (ChatRelay.run es .new).conns, ∃ msgs : List ChatMessage,
          msgs.flatMap ChatMessage.bytes <+: c.arrived
            ∧ ((ChatRelay.run es .new).saidBy c.id).Sublist
                (msgs.map (ChatMessage.stamped c.id)) := by
  have h := ChatRelay.attributed_new.run es
  refine ⟨?_, ?_, ?_⟩
  · refine List.pairwise_iff_getElem.2 fun i j hi hj hlt heq => Nat.ne_of_lt hlt ?_
    rw [List.getElem_map, List.getElem_map] at heq
    rw [List.length_map] at hi hj
    exact h.same_id hids (List.getElem?_eq_getElem hi) (List.getElem?_eq_getElem hj) heq
  · intro msg hmsg
    obtain ⟨c, hc, hfrom⟩ := h.known msg hmsg
    rw [hfrom]
    exact List.mem_map_of_mem hc
  · intro c hc
    obtain ⟨msgs, hheard, hsaid⟩ := h.heard c hc
    exact ⟨msgs, hheard.sent, hsaid hids⟩

/-- Two viewers: the first one says hello in two pieces and pings, the
second one hears the text. -/
def helloRun : List ChatEvent :=
  [.connect, .connect, .write 0 4, .write 1 3, .write 1 1, .begin 0 10, .begin 1 10,
    .arrive 0 [0, 2], .read 0 11, .arrive 0 [0, 0x68, 0x69, 1], .read 0 12, .read 0 13,
    .arrive 0 [7, 7, 7, 7], .read 0 14, .read 0 15, .recv 1, .write 1 5]

/-- The text was said by the first of the two. -/
theorem chat_attributed_hello :
    (ChatRelay.run helloRun .new).tx.log = [[0, 1, 0, 0, 0, 2, 0, 0x68, 0x69]]
      ∧ ∀ c ∈ (ChatRelay.run helloRun .new).conns, ∃ msgs : List ChatMessage,
          msgs.flatMap ChatMessage.bytes <+: c.arrived
            ∧ ((ChatRelay.run helloRun .new).saidBy c.id).Sublist
                (msgs.map (ChatMessage.stamped c.id)) :=
  ⟨by decide, (chat_attributed helloRun (by decide)).2.2⟩

end Spectre.DotaTv

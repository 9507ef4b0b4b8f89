/-
The GProxy buffer beside the wire.

A player that uses GProxy has a buffer, and the game appends to it what
it sends the player: a client that has lost its connection says how
many packets it has got, and is sent what the buffer has behind that
number. Both ends count by position, so one packet that goes past the
buffer shifts every replay after it.

Two do. A client that joins the lobby is announced to the others on
their bare links, and behind an iCCup greeting the game sends a token
on the bare link. Two more things break the count: a queue found full
loses a packet that was appended, and a FULL rejoin begins the game
again on a new link and leaves the buffer as it was. In every run
without these the buffer is what the client has been sent
(`buffer_mirrors_wire`).

# The session

`Session` puts a client beside the game. It reads its link packet by
packet, whenever it likes, and keeps the W3GS packets it has got since
its buffer was created. When it comes back for its seat it leaves what
it has not read on the old link, and says how many it has got.
-/
import Spectre.Resend
import Spectre.Seats

namespace Spectre

open GameState

-- =================================================================== the client

/-- A client with GProxy: how far it has read its link, and the W3GS
packets it has got since its buffer was created. -/
structure GpsClient where
  cursor : Nat
  got : List Packet

namespace GpsClient

/-- The client reads the next packet on its link. -/
def read (c : GpsClient) (b : Packet) : GpsClient where
  cursor := c.cursor + 1
  got := if b.isW3gs then c.got ++ [b] else c.got

/-- The client goes on reading on a new link. -/
def reopen (c : GpsClient) : GpsClient := { c with cursor := 0 }

end GpsClient

/-- The W3GS packets on a link behind its first `n` entries. -/
def PlayerLink.unread (l : PlayerLink) (n : Nat) : List Packet :=
  ((l.sent.drop n).map Sent.packet).filter Packet.isW3gs

/-- A link whose queue is never found full. -/
def PlayerLink.Roomy (l : PlayerLink) : Prop := ∀ n, l.finds n ≠ .full

/-- A game and the client of one of its players. -/
structure Session where
  game : GameState
  client : GpsClient

/-- What happens next: the client reads, or the game handles an
event. -/
inductive SessionAct where
  | read
  | game (ev : Event)

/-- The event of a step, if it is one of the game. -/
def SessionAct.event? : SessionAct → Option Event
  | .read => none
  | .game ev => some ev

/-- The next of the two for the client of `pid`. -/
def Session.next [RustStd] (pid : UInt8) (x : Session) : SessionAct → Session
  | .read =>
      match (x.game.players.byPid pid).bind fun p => p.link.sent[x.client.cursor]? with
      | some e => { x with client := x.client.read e.packet }
      | none => x
  | .game ev =>
      { game := x.game.step ev
        client := if !x.game.finished ∧ x.game.gpsSeat ev = some pid then x.client.reopen
          else x.client }

/-- A game that has just been greeted on a connection, and the client
there: it counts what is enqueued from the greeting on. -/
def Session.greeted [RustStd] (s : GameState) (connId : Nat) (ev : Event) : Session :=
  ⟨s.step ev, ⟨((s.players.byConn connId).map fun p => p.link.sent.length).getD 0, []⟩⟩

-- ========================================================== past the buffer

/-- The connection on which an event announces a client with GProxy. -/
def Event.greets : Event → Option Nat
  | cmd _ (.frame connId (.gps id _)) => if id = 0x01 ∨ id = 0x03 then some connId else none
  | cmd _ (.frame connId (.iccupGps id _)) => if id = 0x08 ∨ id = 0x32 then some connId else none
  | _ => none

namespace GameState

/-- The token that goes to a player behind its greeting. -/
def greetToken (s : GameState) (p : Player) : Event → Option Packet
  | .cmd _ (.frame _ (.iccupGps id _)) =>
      if id = 0x08 then
        (Packet.rejoinToken p.pid p.reconnectKey s.reconnectPort s.cfg.map.crc s.cfg.map.sha1
          s.cfg.name s.cfg.map.path).build
      else none
  | _ => none

/-- The packet that announces a client to the players in the lobby, if
the event seats one. -/
def joinNotice [RustStd] (s : GameState) : Event → Option Packet
  | .cmd _ (.frame connId (.w3gs id payload)) =>
      if id = 0x1E ∧ s.phase = .lobby then
        match s.pending.find? fun e => e.connId == connId, ReqJoin.decode payload with
        | some e, .ok req => accepted e req
        | _, _ => none
      else none
  | _ => none
where
  accepted (e : Pending) (req : ReqJoin) : Option Packet :=
    if s.players.any fun p => eqIgnoreAsciiCase p.name req.name then none
    else match s.joinSlot req.name, s.players.nextFreePid with
      | some sid, some pid =>
          if (Packet.slotInfoJoin pid req.listenPort e.externalIp (s.slots.occupySlot sid pid).1
              s.randomSeed s.cfg.map.layoutStyle s.cfg.map.numPlayers).build.isSome
            ∧ e.link.next = .room then
            (Packet.playerInfo pid req.name e.externalIp req.internalIp).build
          else none
      | _, _ => none

end GameState

/-- An event that disturbs the count of nobody at the seat `pid`: what
goes past the buffer meets a closed link, there is no FULL rejoin, and
a client that comes back says how many packets it has got, on a link
with room. -/
structure Unshifted [RustStd] (pid : UInt8) (x : Session) (ev : Event) : Prop where
  join : ∀ b ∈ x.game.joinNotice ev, ∀ p ∈ x.game.players, p.pid = pid → p.link.next = .closed
  token : ∀ connId ∈ ev.greets, ∀ p ∈ x.game.players.byConn connId, p.pid = pid →
    ∀ b ∈ x.game.greetToken p ev, p.link.finds (p.link.tries + 1) = .closed
  full : x.game.fullSeat ev ≠ some pid
  back : x.game.gpsSeat ev = some pid → ∀ r ∈ x.game.gpsRequest ev,
    r.2.1.lastPacket = x.client.got.length ∧ r.2.2.Roomy
      ∧ ∀ p ∈ x.game.players, p.pid = pid → ∀ b ∈ p.gproxyBuffer, b.log.length < 2 ^ 32

/-- A step of the session while the player is at its seat. -/
def Session.Fine [RustStd] (pid : UInt8) (a : SessionAct) (x : Session) : Prop :=
  match a with
  | .read => True
  | .game ev => ev.Sound ∧ pid ∈ x.game.pids ∧ Unshifted pid x ev

/-- A run of the session. -/
def Session.Runs [RustStd] (pid : UInt8) : Session → Session → Prop :=
  Lib.Path (fun a x y => y = x.next pid a) (Session.Fine pid)

/-- The player is on a link that has not been found closed, nor would
be by the next send. -/
def Player.connected (p : Player) : Prop :=
  p.left = none ∧ p.disconnectedSince = none ∧ p.link.next ≠ .closed

-- =================================================================== a mirror

/-- The buffer `b` holds what the client has got and what is on its way
to it, and, unless the connection is gone, nothing else. -/
structure Mirrors (c : GpsClient) (b : GProxyBuffer) (p : Player) : Prop where
  buffer : p.gproxyBuffer = some b
  counted : ∀ x ∈ b.log, x.isW3gs = true
  rejoin : p.rejoin = .none
  idle : p.catchupCursor = none
  roomy : p.link.Roomy
  behind : c.cursor ≤ p.link.sent.length
  sent : c.got ++ p.link.unread c.cursor <+: b.log
  level : p.connected → c.got ++ p.link.unread c.cursor = b.log

namespace PlayerLink

variable {l : PlayerLink} {n : Nat}

/-- What is enqueued is unread, if it is a W3GS packet. -/
theorem unread_push_room (e : Sent) (hroom : l.next = .room) (hn : n ≤ l.sent.length) :
    (l.push e).unread n = l.unread n ++ (if e.packet.isW3gs then [e.packet] else []) := by
  unfold unread
  rw [push_sent_room e hroom, List.drop_append_of_le_length hn, List.map_append, List.filter_append]
  congr 1
  cases h : e.packet.isW3gs <;> simp [h]

/-- What meets a closed link changes nothing. -/
theorem unread_push_blocked (e : Sent) (hclosed : l.next ≠ .room) :
    (l.push e).unread n = l.unread n := by
  unfold unread
  rw [push_sent_blocked e hclosed]

theorem length_sent_push (l : PlayerLink) (e : Sent) :
    l.sent.length ≤ (l.push e).sent.length := by
  rcases l.push_sent_cases e with h | h
  · rw [h, List.length_append]
    exact Nat.le_add_right _ _
  · exact Nat.le_of_eq (by rw [h])

/-- A link found closed is found closed by the next send too. -/
theorem next_push_of_closed (e : Sent) (h : l.next = .closed) : (l.push e).next = .closed :=
  l.closed_mono _ h

end PlayerLink

namespace Mirrors

variable {c : GpsClient} {b : GProxyBuffer} {p q : Player}

/-- Nothing the mirror reads has changed. -/
theorem of_same (h : Mirrors c b p) (hlink : q.link = p.link)
    (hbuffer : q.gproxyBuffer = p.gproxyBuffer) (hrejoin : q.rejoin = p.rejoin)
    (hcursor : q.catchupCursor = p.catchupCursor)
    (hconn : q.left = none → q.disconnectedSince = none →
      p.left = none ∧ p.disconnectedSince = none) : Mirrors c b q where
  buffer := hbuffer.trans h.buffer
  counted := h.counted
  rejoin := hrejoin.trans h.rejoin
  idle := hcursor.trans h.idle
  roomy := hlink ▸ h.roomy
  behind := hlink ▸ h.behind
  sent := hlink ▸ h.sent
  level := by
    rintro ⟨hl, hd, hnext⟩
    obtain ⟨hl', hd'⟩ := hconn hl hd
    rw [hlink] at hnext ⊢
    exact h.level ⟨hl', hd', hnext⟩

/-- A send past the buffer, of a packet the client does not count or on
a closed link. -/
theorem sendDirect (h : Mirrors c b p) (packet : Packet)
    (hpast : packet.isW3gs = false ∨ p.link.next = .closed) :
    Mirrors c b (p.sendDirect packet) := by
  have hunread : (p.link.push ⟨packet, .personal⟩).unread c.cursor
      = p.link.unread c.cursor := by
    by_cases hroom : p.link.next = .room
    · rcases hpast with hw3gs | hclosed
      · rw [PlayerLink.unread_push_room _ hroom h.behind]
        simp [hw3gs]
      · rw [hclosed] at hroom
        cases hroom
    · exact PlayerLink.unread_push_blocked _ hroom
  exact
    { buffer := h.buffer
      counted := h.counted
      rejoin := h.rejoin
      idle := h.idle
      roomy := h.roomy
      behind := Nat.le_trans h.behind (p.link.length_sent_push _)
      sent := by
        show c.got ++ (p.link.push ⟨packet, .personal⟩).unread c.cursor <+: b.log
        rw [hunread]
        exact h.sent
      level := by
        rintro ⟨hl, hd, hnext⟩
        show c.got ++ (p.link.push ⟨packet, .personal⟩).unread c.cursor = b.log
        rw [hunread]
        refine h.level ⟨hl, hd, fun hclosed => hnext ?_⟩
        exact PlayerLink.next_push_of_closed _ hclosed }

/-- A held player's packets go to its buffer alone. -/
theorem hold (h : Mirrors c b p) {packet : Packet} (hw3gs : packet.isW3gs = true)
    (haway : p.disconnectedSince.isSome) : Mirrors c (b.push packet) (p.buffer packet) where
  buffer := by
    show p.gproxyBuffer.map (fun b => b.push packet) = _
    rw [h.buffer]
    rfl
  counted x hx := by
    rw [GProxyBuffer.log_push, List.mem_append, List.mem_singleton] at hx
    rcases hx with hx | rfl
    · exact h.counted x hx
    · exact hw3gs
  rejoin := h.rejoin
  idle := h.idle
  roomy := h.roomy
  behind := h.behind
  sent := h.sent.trans (List.prefix_append _ _)
  level := by
    rintro ⟨-, hd, -⟩
    have hd' : p.disconnectedSince = none := hd
    rw [hd'] at haway
    cases haway

/-- A packet that is appended and offered to the link is on its way to
the client, or the link is closed. -/
theorem deliver (h : Mirrors c b p) {packet : Packet} (hw3gs : packet.isW3gs = true)
    (hleft : p.left = none) (hhere : p.disconnectedSince = none) (now : Nat) (via : Via) :
    Mirrors c (b.push packet) ((p.buffer packet).deliver now packet via) := by
  obtain ⟨hbuffer, hcursor, hlink⟩ := (p.buffer packet).deliver_fields now packet via
  have hkept := (p.buffer packet).kept_deliver now packet via
  have hlink' : ((p.buffer packet).deliver now packet via).link
      = p.link.push ⟨packet, via⟩ := hlink
  have hlog : p.link.next = .room → c.got ++ p.link.unread c.cursor = b.log := by
    intro hroom
    refine h.level ⟨hleft, hhere, ?_⟩
    rw [hroom]
    exact Found.noConfusion
  -- a roomy link is never full, so a packet arrives or finds the link closed
  have hnext : p.link.next = .room ∨ p.link.next = .closed := by
    cases hfound : p.link.next with
    | room => exact .inl rfl
    | full => exact absurd hfound (h.roomy _)
    | closed => exact .inr rfl
  -- a packet that finds the link closed leaves the player as if held before
  have hheld : Mirrors c (b.push packet) { p.buffer packet with disconnectedSince := some now } :=
    Mirrors.hold (p := { p with disconnectedSince := some now })
      { h with level := fun hc => nomatch hc.2.1 } hw3gs rfl
  exact
    { buffer := hbuffer.trans hheld.buffer
      counted := hheld.counted
      rejoin := hkept.rejoin.trans h.rejoin
      idle := hcursor.trans h.idle
      roomy := by
        rw [hlink']
        exact h.roomy
      behind := by
        rw [hlink']
        exact Nat.le_trans h.behind (p.link.length_sent_push _)
      sent := by
        rw [hlink', GProxyBuffer.log_push]
        rcases hnext with hroom | hclosed
        · rw [PlayerLink.unread_push_room _ hroom h.behind, if_pos hw3gs, ← List.append_assoc]
          exact hlog hroom ▸ List.prefix_rfl
        · rw [PlayerLink.unread_push_blocked _ (by rw [hclosed]; exact Found.noConfusion)]
          exact h.sent.trans (List.prefix_append _ _)
      level := by
        rintro ⟨-, -, hopen⟩
        rw [hlink'] at hopen ⊢
        rcases hnext with hroom | hclosed
        · rw [PlayerLink.unread_push_room _ hroom h.behind, if_pos hw3gs, ← List.append_assoc,
            hlog hroom, GProxyBuffer.log_push]
        · exact absurd (PlayerLink.next_push_of_closed _ hclosed) hopen }

/-- A broadcast. -/
theorem hear (h : Mirrors c b p) {packet : Packet} (hw3gs : packet.isW3gs = true) (now : Nat)
    (seq : Option Nat) : ∃ b', Mirrors c b' (p.hear now packet seq) := by
  rcases p.hear_cases now packet seq with
    ⟨-, he⟩ | ⟨-, -, hwhy, he⟩ | ⟨hl, -, -, -, hd, he⟩
  · rw [he]
    exact ⟨b, h⟩
  · have haway : p.disconnectedSince.isSome := by simpa [h.rejoin, h.idle] using hwhy
    rw [he]
    exact ⟨_, h.hold hw3gs haway⟩
  · rw [he]
    exact ⟨_, h.deliver hw3gs hl hd now _⟩

/-- A personal send. -/
theorem receive (h : Mirrors c b p) {packet : Packet} (hw3gs : packet.isW3gs = true) (now : Nat) :
    ∃ b', Mirrors c b' (p.receive now packet) := by
  rcases p.receive_cases now packet with ⟨-, he⟩ | ⟨-, haway, he⟩ | ⟨hl, hd, he⟩
  · rw [he]
    exact ⟨b, h⟩
  · rw [he]
    exact ⟨_, h.hold hw3gs haway⟩
  · rw [he]
    exact ⟨_, h.deliver hw3gs hl hd now _⟩

/-- The client reads a packet. -/
theorem read (h : Mirrors c b p) {e : Sent} (he : p.link.sent[c.cursor]? = some e) :
    Mirrors (c.read e.packet) b p := by
  obtain ⟨hlt, hget⟩ := List.getElem?_eq_some_iff.1 he
  have hunread : c.got ++ p.link.unread c.cursor
      = (c.read e.packet).got ++ p.link.unread (c.read e.packet).cursor := by
    unfold PlayerLink.unread GpsClient.read
    rw [List.drop_eq_getElem_cons hlt, hget, List.map_cons, List.filter_cons]
    cases e.packet.isW3gs with
    | true => exact (List.append_assoc _ [e.packet] _).symm
    | false => rfl
  exact
    { h with
      behind := hlt
      sent := hunread ▸ h.sent
      level := fun hc => hunread ▸ h.level hc }

end Mirrors

-- ============================================================= coming back

/-- On a link with room the packets sent one after another are on their
way, up to where the link is closed. -/
theorem unread_sendWhileOk {packets : List Packet} (hw3gs : ∀ b ∈ packets, b.isW3gs = true)
    {p : Player} (hroomy : p.link.Roomy) {n : Nat} (hn : n ≤ p.link.sent.length) :
    (p.sendWhileOk packets).link.finds = p.link.finds ∧
      ∃ k ≤ packets.length, (p.sendWhileOk packets).link.unread n
        = p.link.unread n ++ packets.take k
        ∧ (k < packets.length → (p.sendWhileOk packets).link.next = .closed) := by
  induction packets generalizing p with
  | nil =>
      exact ⟨rfl, 0, Nat.le_refl 0, (List.append_nil _).symm,
        fun h => absurd h (Nat.lt_irrefl 0)⟩
  | cons b rest ih =>
      have hb := hw3gs b List.mem_cons_self
      unfold Player.sendWhileOk PlayerLink.trySend
      cases hnext : p.link.next with
      | room =>
          obtain ⟨hfinds, k, hk, hunread, hclosed⟩ := ih (p := { p with
            link := p.link.push ⟨b, .personal⟩ })
            (fun b hb => hw3gs b (List.mem_cons_of_mem _ hb)) hroomy
            (Nat.le_trans hn (p.link.length_sent_push _))
          refine ⟨hfinds, k + 1, Nat.succ_le_succ hk, ?_,
            fun h => hclosed (Nat.lt_of_succ_lt_succ h)⟩
          dsimp only
          rw [hunread, PlayerLink.unread_push_room _ hnext hn, if_pos hb, List.take_succ_cons,
            List.append_assoc]
          rfl
      | full => exact absurd hnext (hroomy _)
      | closed =>
          refine ⟨rfl, 0, Nat.zero_le _, ?_, fun _ => PlayerLink.next_push_of_closed _ hnext⟩
          rw [List.take_zero, List.append_nil]
          exact PlayerLink.unread_push_blocked _ (by rw [hnext]; exact Found.noConfusion)

/-- A client that comes back and says how many packets it has got is
sent the others, up to where its new link is closed. -/
theorem Mirrors.attachGps {c : GpsClient} {b : GProxyBuffer} {p : Player} (h : Mirrors c b p)
    {link : PlayerLink} (hlink : link.sent = []) (hroomy : link.Roomy) {replay : List Packet}
    (hreplay : replay = b.log.drop c.got.length) (connId : Nat) (received : Nat) :
    Mirrors c.reopen b (p.attachGps connId link received replay) := by
  have hgot : c.got ++ replay = b.log := by
    obtain ⟨rest, hrest⟩ := h.sent
    rw [hreplay, ← hrest, List.append_assoc, List.drop_left]
  have hw3gs : ∀ x ∈ replay, x.isW3gs = true := by
    intro x hx
    exact h.counted x (hgot ▸ List.mem_append_right _ hx)
  -- the acknowledgement is no W3GS packet
  have hok : (link.push ⟨.reconnectOk received, .personal⟩).unread 0 = [] := by
    have hempty : link.unread 0 = [] := by
      unfold PlayerLink.unread
      rw [hlink]
      rfl
    by_cases hroom : link.next = .room
    · rw [PlayerLink.unread_push_room _ hroom (Nat.zero_le _), hempty]
      rfl
    · rw [PlayerLink.unread_push_blocked _ hroom, hempty]
  obtain ⟨hfinds, k, -, hunread, hclosed⟩ := unread_sendWhileOk hw3gs (p := Player.sendDirect
    { p with connId := connId, link := link, disconnectedSince := none, left := none }
    (.reconnectOk received)) hroomy (Nat.zero_le _)
  obtain ⟨link', he⟩ := p.attachGps_eq connId link received replay
  have hlink' : (p.attachGps connId link received replay).link = link' := by rw [he]
  have hunread' : link'.unread 0 = replay.take k := by
    rw [← hlink']
    refine hunread.trans ?_
    show (link.push ⟨.reconnectOk received, .personal⟩).unread 0 ++ _ = _
    rw [hok, List.nil_append]
  have hclosed' : k < replay.length → link'.next = .closed := by
    rw [← hlink']
    exact hclosed
  rw [he]
  exact
    { buffer := h.buffer
      counted := h.counted
      rejoin := h.rejoin
      idle := h.idle
      roomy := by
        intro n
        show link'.finds n ≠ .full
        rw [← hlink', show (p.attachGps connId link received replay).link.finds = link.finds
          from hfinds]
        exact hroomy n
      behind := Nat.zero_le _
      sent := by
        show c.got ++ link'.unread 0 <+: b.log
        rw [hunread', ← hgot]
        exact (List.prefix_append_right_inj _).2 (List.take_prefix _ _)
      level := by
        rintro ⟨-, -, hopen⟩
        show c.got ++ link'.unread 0 = b.log
        have hall : replay.length ≤ k := Nat.le_of_not_lt fun hlt => hopen (hclosed' hlt)
        rw [hunread', List.take_of_length_le hall, hgot] }

/-- A buffer as it is created mirrors what is enqueued from then on. -/
theorem mirrors_new {p : Player} (hnone : p.gproxyBuffer = none) (hrejoin : p.rejoin = .none)
    (hidle : p.catchupCursor = none) (hroomy : p.link.Roomy) :
    ∃ b, Mirrors ⟨p.link.sent.length, []⟩ b p.enableGproxy := by
  have hunread : p.link.unread p.link.sent.length = [] := by
    unfold PlayerLink.unread
    rw [List.drop_length]
    rfl
  refine ⟨GProxyBuffer.new gproxyCapacity (by decide), ?_⟩
  exact
    { buffer := by
        show p.gproxyBuffer.or _ = _
        rw [hnone]
        rfl
      counted := fun x hx => nomatch hx
      rejoin := hrejoin
      idle := hidle
      roomy := hroomy
      behind := Nat.le_refl _
      sent := by
        show [] ++ p.link.unread p.link.sent.length <+: []
        rw [hunread]
        exact List.prefix_rfl
      level := fun _ => by
        show [] ++ p.link.unread p.link.sent.length = []
        rw [hunread]
        rfl }

-- ===================================================================== moves

/-- Every step in pieces; nothing is sent past the buffer of `pid`, and
nobody takes over its seat or comes to the table under its id. -/
def mirroring (pid : UInt8) (k : Kind) (s : GameState) : Prop :=
  k.fine = true ∧ match k with
    | .seat => False
    | .seatFake | .host => pid ∈ s.pids
    | .token pid' | .attachFull pid' | .attachGps pid' => pid' ≠ pid
    | _ => True

/-- Every move keeps the mirror. -/
theorem Moves.mirrors {s : GameState} {k : Kind} {p q : Player} (h : Moves s k p q)
    (hk : mirroring p.pid k s) {c : GpsClient} {b : GProxyBuffer} (hI : Mirrors c b p) :
    ∃ b', Mirrors c b' q := by
  have hfull : k ≠ .attachFull p.pid := by
    rintro rfl
    exact hk.2 rfl
  have hgps : k ≠ .attachGps p.pid := by
    rintro rfl
    exact hk.2 rfl
  have hconn := h.connected hfull hgps
  cases h with
  | same => exact ⟨b, hI⟩
  | air _ hw3gs => exact hI.hear hw3gs _ _
  | tell _ hw3gs _ => exact hI.receive hw3gs _
  | feed =>
      -- there is no cursor to feed from
      cases p.feeds_feed s.now s.fullHistory with
      | idle _ he =>
          rw [he]
          exact ⟨b, hI⟩
      | gone hc _ _ => exact nomatch hI.idle.symm.trans hc
      | evicted hc _ _ _ => exact nomatch hI.idle.symm.trans hc
      | fed hc _ _ _ _ _ _ _ _ _ => exact nomatch hI.idle.symm.trans hc
  | note h => exact ⟨b, hI.of_same h.link h.gproxyBuffer h.rejoin h.catchupCursor hconn⟩
  | greet => exact hk.2.elim
  | token => exact absurd rfl hk.2
  | hail packet hw3gs => exact ⟨b, hI.sendDirect packet (.inl hw3gs)⟩
  | gproxy _ =>
      refine ⟨b, hI.of_same rfl ?_ rfl rfl hconn⟩
      show p.gproxyBuffer.or _ = _
      rw [hI.buffer]
      rfl
  | timeout =>
      obtain ⟨_, _, he⟩ := p.loadingTimeout_eq
      rw [he] at hconn ⊢
      exact ⟨b, hI.of_same rfl rfl rfl rfl hconn⟩
  | hold reason code =>
      obtain ⟨_, _, _, he⟩ := p.connClosed_eq s.now reason code
      rw [he] at hconn ⊢
      exact ⟨b, hI.of_same rfl rfl rfl rfl hconn⟩
  | expire =>
      obtain ⟨_, _, _, _, _, he⟩ := p.gproxyTimeout_eq s.now s.cfg.reconnectWait
      rw [he] at hconn ⊢
      exact ⟨b, hI.of_same rfl rfl rfl rfl hconn⟩
  | ack checksum _ =>
      obtain ⟨_, _, he⟩ := p.keepalive_eq s.syncCounter checksum
      rw [he] at hconn ⊢
      exact ⟨b, hI.of_same rfl rfl rfl rfl hconn⟩
  | answer h => exact nomatch hI.rejoin.symm.trans h
  | tooLong h => exact nomatch hI.rejoin.symm.trans h
  | arm h => exact nomatch hI.rejoin.symm.trans h
  | attachFull => exact absurd rfl hfull
  | attachGps => exact absurd rfl hgps
  | _ => exact ⟨b, hI.of_same rfl rfl rfl rfl hconn⟩

section Loop

variable [RustStd] {s t : GameState} {pid : UInt8} {c : GpsClient}

/-- Every player at the seat mirrors what its client has been sent. -/
def Shadowed (pid : UInt8) (c : GpsClient) (s : GameState) : Prop :=
  ∀ q ∈ s.players, q.pid = pid → ∃ b, Mirrors c b q

/-- Who is at the table after a step was there before it, unless the
step seats somebody. -/
theorem Step.mem_pids {k : Kind} (h : Step k s t) (hk : k.fine = true)
    (hnew : k ≠ .seat ∧ k ≠ .seatFake ∧ k ≠ .host) (hpid : pid ∈ t.pids) :
    pid ∈ s.pids := by
  have hremoved : ∀ {u : GameState} {pid' : UInt8} {b : Packet},
      u.players = s.players.removePid pid' → pid ∈ (u.broadcast b).pids → pid ∈ s.pids := by
    intro u pid' b hu hin
    rw [broadcast_pids] at hin
    unfold GameState.pids at hin
    rw [hu] at hin
    exact (List.eraseP_sublist.map Player.pid).subset hin
  by_cases hseats : k.seats = true
  · cases h with
    | unseat => exact hremoved rfl hpid
    | unhost => exact hremoved rfl hpid
    | unfake => exact hremoved rfl hpid
    | misc _ hb => cases hb <;> cases hseats
    | table htable _ _ =>
        have hstays : k.seats = false := by
          cases k <;> first | rfl | cases htable
        exact absurd hseats (by simp [hstays])
    | _ => simp_all [Kind.seats]
  · rw [h.pids hk (by simpa using hseats)] at hpid
    exact hpid

/-- Every step keeps the mirror. -/
theorem Step.shadowed {k : Kind} (h : Step k s t) (hk : mirroring pid k s)
    (hI : Shadowed pid c s) : Shadowed pid c t := by
  intro q hq hpid
  -- nobody comes to the table under the id
  have hold : q.pid ∈ s.pids := by
    by_cases hnew : k ≠ .seat ∧ k ≠ .seatFake ∧ k ≠ .host
    · exact h.mem_pids hk.1 hnew (List.mem_map_of_mem hq)
    · rw [hpid]
      obtain ⟨-, hguard⟩ := hk
      by_cases hseat : k = .seat
      · subst hseat
        exact hguard.elim
      by_cases hfake : k = .seatFake
      · subst hfake
        exact hguard
      · have hhost : k = .host := by
          by_contra hhost
          exact hnew ⟨hseat, hfake, hhost⟩
        subst hhost
        exact hguard
  obtain ⟨p, hp, hpp⟩ := List.mem_map.1 hold
  cases h.fate hk.1 hq with
  | stayed hp _ => exact hI q hp hpid
  | @moved p hp hm _ _ =>
      have hpid' : p.pid = pid := hm.identity.1.symm.trans hpid
      obtain ⟨b, hb⟩ := hI p hp hpid'
      exact hm.mirrors (hpid' ▸ hk) hb
  | @heard p packet hw3gs hp hhear _ =>
      have hpid' : p.pid = pid := by
        rw [← hpid, hhear, (p.kept_hear _ _ _).pid]
      obtain ⟨b, hb⟩ := hI p hp hpid'
      exact hhear ▸ hb.hear hw3gs _ _
  | seated _ _ hnew _ => exact absurd hpp (hnew p hp)
  | announced _ _ _ _ _ hnew _ => exact absurd hpp (hnew p hp)
  | hosted pid' name hhost hnew =>
      rw [hhost] at hpp
      exact absurd hpp (hnew p hp)

theorem Does.shadowed (h : Does (mirroring pid) s t) (hI : Shadowed pid c s) : Shadowed pid c t :=
  Lib.Path.preserves (fun _ _ _ hk hst => hst.shadowed hk) h hI

omit [RustStd] in
theorem plain_mirroring : Plain (mirroring pid) := by
  intro k hk _
  cases k <;> first | exact ⟨rfl, trivial⟩ | cases hk

/-- The end of an iteration keeps the mirror. -/
theorem Shadowed.settle (hI : Shadowed pid c s) (hs : WellFormed s) :
    Shadowed pid c s.reapLeftPlayers.reportLobby := by
  have hreap : Does (mirroring pid) s s.reapLeftPlayers :=
    does_reapLeftPlayers plain_mirroring (fun _ => ⟨rfl, trivial⟩) (fun _ => ⟨rfl, trivial⟩)
      (fun _ => ⟨rfl, trivial⟩) (fun _ _ => ⟨rfl, trivial⟩) hs
  exact (hreap.trans (does_reportLobby plain_mirroring _)).shadowed hI

/-- The handling of an event decides. -/
theorem Shadowed.of_handle {c' : GpsClient} {ev : Event} (hs : WellFormed s) (hev : ev.Sound)
    (hrun : s.finished = false) (hI : Shadowed pid c' (s.handle ev)) :
    Shadowed pid c' (s.step ev) := by
  have hwf : WellFormed (s.handle ev) :=
    (does_handle hs hev (admits_anyFine s ev)).keeps_wellFormed hs
  unfold step
  rw [if_neg (by simp [hrun])]
  split
  · exact hI
  · exact hI
  · exact hI.settle hwf

omit [RustStd] in
/-- The player found at the seat is the only one at it. -/
theorem Shadowed.of_found (hs : WellFormed s) {p : Player} (hp : p ∈ s.players) {b : GProxyBuffer}
    (hb : Mirrors c b p) : Shadowed p.pid c s := by
  intro q hq hpid
  rw [List.inj_on_of_nodup_map hs.pids hq hp hpid]
  exact ⟨b, hb⟩

-- ================================================================= greetings

/-- What a greeting does to the player that sends it. -/
theorem greet_spec {ev : Event} {connId : Nat} (h : ev.greets = some connId) :
    ∃ f : Player → Player, s.handle ev = { s with players := s.players.modifyConn connId f }
      ∧ ∀ p, f p = p.enableGproxy ∨ ∃ hail : Packet, hail.isW3gs = false
        ∧ (f p = p.enableGproxy.sendDirect hail
          ∨ ∃ token ∈ s.greetToken p ev,
            f p = (p.enableGproxy.sendDirect hail).sendDirect token) := by
  cases ev with
  | elapse ms => cases h
  | tick skipped => cases h
  | cmd env command =>
      cases command with
      | frame connId' frame =>
          cases frame with
          | gps id payload =>
              have h' : (if id = 0x01 ∨ id = 0x03 then some connId' else none) = some connId := h
              split at h'
              · rename_i hid
                cases h'
                rcases hid with rfl | rfl
                · exact ⟨_, rfl, fun p => .inr ⟨.gpsInit s.reconnectPort p.pid p.reconnectKey
                    s.gproxyEmptyActions, rfl, .inl rfl⟩⟩
                · exact ⟨_, rfl, fun p => .inl rfl⟩
              · cases h'
          | iccupGps id payload =>
              have h' : (if id = 0x08 ∨ id = 0x32 then some connId' else none) = some connId := h
              split at h'
              · rename_i hid
                cases h'
                rcases hid with rfl | rfl
                · refine ⟨_, rfl, fun p => .inr ⟨.iccupInit s.reconnectPort p.pid
                    p.reconnectKey s.gproxyEmptyActions, rfl, ?_⟩⟩
                  dsimp only
                  split
                  · rename_i token htoken
                    exact .inr ⟨token, htoken, rfl⟩
                  · exact .inl rfl
                · exact ⟨_, rfl, fun p => .inl rfl⟩
              · cases h'
          | _ => cases h
      | _ => cases h

/-- A greeting keeps the mirror of the player that sends it, if no token
goes past the buffer. -/
theorem Shadowed.greet {ev : Event} {connId : Nat} {p : Player} {b : GProxyBuffer}
    (hs : WellFormed s) (hev : ev.Sound) (h : ev.greets = some connId)
    (hp : s.players.byConn connId = some p) (hb : Mirrors c b p.enableGproxy)
    (htoken : ∀ token ∈ s.greetToken p ev, p.link.finds (p.link.tries + 1) = .closed) :
    Shadowed p.pid c (s.handle ev) := by
  have hwf : WellFormed (s.handle ev) :=
    (does_handle hs hev (admits_anyFine s ev)).keeps_wellFormed hs
  obtain ⟨f, he, hf⟩ := greet_spec (s := s) h
  have hsame : ∀ q, (f q).pid = q.pid ∧ (f q).connId = q.connId := by
    intro q
    rcases hf q with he | ⟨hail, -, he | ⟨token, -, he⟩⟩
    all_goals
      rw [he]
      exact ⟨rfl, rfl⟩
  have hfound : (s.players.modifyConn connId f).byConn connId = some (f p) := by
    unfold PlayerTable.byConn PlayerTable.modifyConn at *
    rw [Lib.find?_updateFirst fun q _ hq => ?_, hp]
    · rfl
    · rw [(hsame q).2]
      exact hq
  have hmem : f p ∈ (s.handle ev).players := by
    rw [he]
    exact List.mem_of_find?_eq_some hfound
  have hmirrors : Mirrors c b (f p) := by
    rcases hf p with he | ⟨hail, hhail, he | ⟨token, htok, he⟩⟩
    · rwa [he]
    · rw [he]
      exact hb.sendDirect hail (.inl hhail)
    · rw [he]
      exact (hb.sendDirect hail (.inl hhail)).sendDirect token (.inr (htoken token htok))
  rw [← (hsame p).1]
  exact Shadowed.of_found hwf hmem hmirrors

-- ====================================================================== joins

/-- A client is seated and announced: to the player at the seat on a
closed link, or not at all. -/
theorem Shadowed.seatPlayer (hI : Shadowed pid c s) (hlobby : s.phase = .lobby) {player : Player}
    (hother : player.pid ≠ pid)
    (hclosed : ∀ b ∈ (Packet.playerInfo player.pid player.name player.externalIp
      player.internalIp).build, ∀ p ∈ s.players, p.pid = pid → p.link.next = .closed) :
    Shadowed pid c (s.seatPlayer player) := by
  unfold GameState.seatPlayer
  dsimp only
  -- the packets sent on the link of the newcomer do not change who it is
  obtain ⟨link, hlink⟩ := sendAll_eq player (s.joinBurst player)
  rw [hlink]
  dsimp only
  generalize hinfo : (Packet.playerInfo player.pid player.name player.externalIp
    player.internalIp).build = info at hclosed
  have hseated : Shadowed pid c (({ s with
      players := s.players ++ [{ player with link := link }] } : GameState).sendOthersDirect?
        player.pid info) := by
    have hold : ∀ q ∈ s.players ++ [{ player with link := link }],
        q.pid = pid → q ∈ s.players := by
      intro q hq hpid
      rcases List.mem_append.1 hq with hq | hq
      · exact hq
      · rw [List.mem_singleton.1 hq] at hpid
        exact absurd hpid hother
    cases info with
    | none => exact fun q hq hpid => hI q (hold q hq hpid) hpid
    | some packet =>
        intro q hq hpid
        obtain ⟨p, hp, rfl⟩ := List.mem_map.1 hq
        split at hpid
        · rename_i he
          exact absurd (he.symm.trans hpid) hother
        · rename_i hne
          have hp' := hold p hp hpid
          obtain ⟨b, hb⟩ := hI p hp' hpid
          rw [if_neg hne]
          exact ⟨b, hb.sendDirect packet (.inr (hclosed packet rfl p hp' hpid))⟩
  have hphase := (sendOthersDirect?_frame ({ s with
    players := s.players ++ [{ player with link := link }] } : GameState) player.pid info).1
  generalize (({ s with players := s.players ++ [{ player with link := link }] }
    : GameState).sendOthersDirect? player.pid info) = u at hseated hphase
  have htold := (does_sendAllSlotInfo plain_mirroring u).shadowed hseated
  split
  · refine (does_deleteVirtualHost ⟨rfl, trivial⟩ (.inl ?_)).shadowed htold
    exact (broadcast?_phase u _).trans (hphase.trans hlobby)
  · exact htold

/-- A join in the lobby keeps the mirror, if nobody is announced past
the buffer. -/
theorem Shadowed.joinLobby (hI : Shadowed pid c s) (hpid : pid ∈ s.pids)
    (hlobby : s.phase = .lobby) (key : UInt32) (connId : Nat) {e : Pending} {req : ReqJoin}
    (hnotice : ∀ b ∈ joinNotice.accepted s e req, ∀ p ∈ s.players, p.pid = pid →
      p.link.next = .closed) :
    Shadowed pid c (s.joinLobby key connId e.link e.externalIp req) := by
  unfold joinNotice.accepted at hnotice
  unfold GameState.joinLobby
  split
  · exact hI
  rename_i hname
  rw [if_neg hname] at hnotice
  split
  · rename_i sid pid' hsid hfree
    rw [hsid, hfree] at hnotice
    dsimp only at hnotice ⊢
    have hseats : Shadowed pid c (s.setSlots (s.slots.occupySlot sid pid').1) := hI
    split
    · rename_i b hb
      split
      · rename_i hroom
        generalize hplayer : (s.setSlots (s.slots.occupySlot sid pid').1).newPlayer connId e.link
          e.externalIp req pid' key = player at hroom
        -- the joiner's link is his own and new, so it decides alone whether he is seated
        have hroom' : e.link.next = .room := by
          rw [← hplayer] at hroom
          exact hroom
        have hb' : (Packet.slotInfoJoin pid' req.listenPort e.externalIp
            (s.slots.occupySlot sid pid').1 s.randomSeed s.cfg.map.layoutStyle
            s.cfg.map.numPlayers).build.isSome = true := by
          rw [show (Packet.slotInfoJoin pid' req.listenPort e.externalIp
            (s.slots.occupySlot sid pid').1 s.randomSeed s.cfg.map.layoutStyle
            s.cfg.map.numPlayers).build = some b from hb]
          rfl
        rw [if_pos ⟨hb', hroom'⟩] at hnotice
        have hpid' : player.pid = pid' := by
          rw [← hplayer]
          rfl
        have hinfo : Packet.playerInfo pid' req.name e.externalIp req.internalIp
            = .playerInfo player.pid player.name player.externalIp player.internalIp := by
          rw [← hplayer]
          rfl
        rw [hinfo] at hnotice
        obtain ⟨p, hp, hpp⟩ := List.mem_map.1 hpid
        -- the pid he is given is free, so he is not the player followed
        have hother : (player.sendDirect b).pid ≠ pid := by
          show player.pid ≠ pid
          rw [hpid', ← hpp]
          exact (nextFreePid_fresh hfree p hp).symm
        exact hseats.seatPlayer hlobby hother hnotice
      · exact hI
    · exact hI
  · exact hI

/-- So does the handler of join requests. -/
theorem Shadowed.join (hI : Shadowed pid c s) (hpid : pid ∈ s.pids) (hlobby : s.phase = .lobby)
    {env : Env} {connId : Nat} {payload : List UInt8}
    (hnotice : ∀ b ∈ s.joinNotice (.cmd env (.frame connId (.w3gs 0x1E payload))),
      ∀ p ∈ s.players, p.pid = pid → p.link.next = .closed) :
    Shadowed pid c (s.handle (.cmd env (.frame connId (.w3gs 0x1E payload)))) := by
  show Shadowed pid c (s.handleReqJoin env.reconnectKey connId payload)
  unfold handleReqJoin
  split
  · exact hI
  rename_i e he
  dsimp only
  split
  · exact hI
  rename_i req hreq
  have hjoin : s.joinNotice (.cmd env (.frame connId (.w3gs 0x1E payload)))
      = joinNotice.accepted s e req := by
    show (if (0x1E : UInt8) = 0x1E ∧ s.phase = .lobby then
        match s.pending.find? fun e => e.connId == connId, ReqJoin.decode payload with
        | some e, .ok req => joinNotice.accepted s e req
        | _, _ => none
      else none) = _
    rw [if_pos ⟨rfl, hlobby⟩, he, hreq]
  rw [hjoin] at hnotice
  rw [if_neg (show ¬(s.unpend connId).phase ≠ .lobby from not_not.2 hlobby)]
  have hpend : Shadowed pid c (s.unpend connId) := hI
  exact hpend.joinLobby hpid hlobby _ connId hnotice

-- ============================================================= coming back

/-- A client that comes back and says how many packets it has got is
mirrored on its new link. -/
theorem Shadowed.back {ev : Event} (hs : WellFormed s) (hev : ev.Sound) (hI : Shadowed pid c s)
    (hseat : s.gpsSeat ev = some pid)
    (hback : ∀ r ∈ s.gpsRequest ev, r.2.1.lastPacket = c.got.length ∧ r.2.2.Roomy
      ∧ ∀ p ∈ s.players, p.pid = pid → ∀ b ∈ p.gproxyBuffer, b.log.length < 2 ^ 32) :
    Shadowed pid c.reopen (s.handle ev) := by
  have hwf : WellFormed (s.handle ev) :=
    (does_handle hs hev (admits_anyFine s ev)).keeps_wellFormed hs
  unfold gpsSeat at hseat
  split at hseat
  · rename_i connId req link hreq
    split at hseat
    · rename_i hok
      cases hseat
      obtain ⟨hlast, hroomy, hfew⟩ := hback _ hreq
      dsimp only at hlast hroomy
      obtain ⟨hlink, t, hplayers, hhandle⟩ := handle_gpsRequest hs hev hreq
      -- the seat is found only where the request is granted
      rw [← handleGpsReconnect_verdict hplayers] at hok
      cases hg : t.grant? req with
      | none =>
          obtain ⟨_, hreject⟩ : ∃ reason, t.handleGpsReconnect connId req link
              = (t.refuse connId (.gpsReject reason), false) := handleGpsReconnect_reject hg
          rw [hreject] at hok
          cases hok
      | some g =>
          obtain ⟨total, replay⟩ := g
          obtain ⟨p, hp, heq⟩ : ∃ p, t.players.byPid req.pid = some p
              ∧ t.handleGpsReconnect connId req link
                = ({ t with players := t.players.modifyPid req.pid fun p =>
                    p.attachGps connId link total replay }, true) := handleGpsReconnect_grant hg
          obtain ⟨b, hb, -, hreplay⟩ := bufferOf_of_grant hg
          unfold bufferOf at hb
          rw [hp] at hb
          have hp' : p ∈ s.players := hplayers ▸ List.mem_of_find?_eq_some hp
          have hpid : p.pid = req.pid := byPid_pid hp
          obtain ⟨b', hb'⟩ := hI p hp' hpid
          have hsame : b' = b := Option.some.inj (hb'.buffer.symm.trans hb)
          subst hsame
          -- the packets asked for are those behind the last one the client has
          have hdrop : replay = b'.log.drop c.got.length := by
            rw [hlast, b'.replayFrom_eq (hfew p hp' hpid b' hb'.buffer)] at hreplay
            split at hreplay
            · exact (Option.some.inj hreplay).symm
            · cases hreplay
          have hfound := PlayerTable.byPid_attachGps hp connId link total replay
          have hmem : p.attachGps connId link total replay ∈ (s.handle ev).players := by
            rw [hhandle, heq]
            exact List.mem_of_find?_eq_some hfound
          have hmirrors := hb'.attachGps hlink hroomy hdrop connId total
          have hkeep : (p.attachGps connId link total replay).pid = req.pid := byPid_pid hfound
          rw [← hkeep]
          exact Shadowed.of_found hwf hmem hmirrors
    · cases hseat
  · cases hseat

-- ================================================================ one iteration

/-- Everything else is in pieces that keep the mirror. -/
theorem admits_mirroring {ev : Event} (hpid : pid ∈ s.pids)
    (hjoin : ∀ env connId payload, ev = .cmd env (.frame connId (.w3gs 0x1E payload)) →
      s.phase ≠ .lobby)
    (hgreet : ∀ connId p, ev.greets = some connId → s.players.byConn connId = some p →
      p.pid ≠ pid)
    (hfull : s.fullSeat ev ≠ some pid) (hgps : s.gpsSeat ev ≠ some pid) :
    Admits (mirroring pid) s ev := by
  have hguards : Guards (mirroring pid) s ev :=
    { seat := fun env connId payload hev hlobby => absurd hlobby (hjoin env connId payload hev)
      seatFake := fun _ _ t ht => by
        refine ⟨rfl, ?_⟩
        show pid ∈ t.players.map Player.pid
        rw [ht.pids]
        exact hpid
      token := fun env connId payload p hev hp _ => by
        subst hev
        exact ⟨rfl, hgreet connId p rfl hp⟩
      host := fun _ _ => ⟨rfl, hpid⟩
      attachFull := fun pid' hseat _ _ _ => ⟨rfl, fun he => hfull (he ▸ hseat)⟩
      attachGps := fun pid' hseat _ _ _ _ => ⟨rfl, fun he => hgps (he ▸ hseat)⟩ }
  refine admits_fine ?_ hguards fun _ _ _ => ⟨rfl, trivial⟩
  intro k hk hg t
  refine ⟨hk, ?_⟩
  cases k with
  | seat | seatFake | host | token | attachFull | attachGps => cases hg
  | _ => trivial

/-- The state of a session: the game is sound, and the player mirrors
what its client has been sent. -/
structure SessionInv (pid : UInt8) (x : Session) : Prop where
  well : WellFormed x.game
  shadowed : Shadowed pid x.client x.game

/-- Every step of a session keeps the mirror. -/
theorem SessionInv.next {x : Session} {a : SessionAct} (h : SessionInv pid x)
    (hfine : Session.Fine pid a x) : SessionInv pid (x.next pid a) := by
  cases a with
  | read =>
      unfold Session.next
      dsimp only
      split
      · rename_i e he
        obtain ⟨p, hp, hread⟩ := Option.bind_eq_some_iff.1 he
        refine ⟨h.well, ?_⟩
        obtain ⟨b, hb⟩ := h.shadowed p (List.mem_of_find?_eq_some hp) (byPid_pid hp)
        have hown := Shadowed.of_found h.well (List.mem_of_find?_eq_some hp) (hb.read hread)
        rwa [byPid_pid hp] at hown
      · exact h
  | game ev =>
      obtain ⟨hev, hpid, hfree⟩ := hfine
      have hwell : WellFormed (x.game.step ev) := step_wellFormed h.well hev
      refine ⟨hwell, ?_⟩
      show Shadowed pid (if !x.game.finished ∧ x.game.gpsSeat ev = some pid then x.client.reopen
        else x.client) (x.game.step ev)
      by_cases hrun : x.game.finished = true
      · -- a finished game takes no events
        rw [if_neg (by simp [hrun])]
        unfold GameState.step
        rw [if_pos hrun]
        exact h.shadowed
      have hrun : x.game.finished = false := by simpa using hrun
      by_cases hgps : x.game.gpsSeat ev = some pid
      · rw [if_pos (by simp [hrun, hgps])]
        exact Shadowed.of_handle h.well hev hrun
          (h.shadowed.back h.well hev hgps (hfree.back hgps))
      rw [if_neg (by simp [hgps])]
      by_cases hgreet : ∃ connId p, ev.greets = some connId
          ∧ x.game.players.byConn connId = some p ∧ p.pid = pid
      · obtain ⟨connId, p, hg, hp, rfl⟩ := hgreet
        obtain ⟨b, hb⟩ := h.shadowed p (List.mem_of_find?_eq_some hp) rfl
        have henabled : Mirrors x.client b p.enableGproxy := by
          refine hb.of_same rfl ?_ rfl rfl fun hl hd => ⟨hl, hd⟩
          show p.gproxyBuffer.or _ = _
          rw [hb.buffer]
          rfl
        exact Shadowed.of_handle h.well hev hrun
          (Shadowed.greet h.well hev hg hp henabled (hfree.token connId hg p hp rfl))
      by_cases hjoin : ∃ env connId payload, ev = .cmd env (.frame connId (.w3gs 0x1E payload))
          ∧ x.game.phase = .lobby
      · obtain ⟨env, connId, payload, rfl, hlobby⟩ := hjoin
        exact Shadowed.of_handle h.well hev hrun (h.shadowed.join hpid hlobby hfree.join)
      · refine (does_step h.well hev
          (admits_mirroring hpid ?_ ?_ hfree.full hgps)).shadowed h.shadowed
        · intro env connId payload he hlobby
          exact hjoin ⟨env, connId, payload, he, hlobby⟩
        · intro connId p hg hp hpp
          exact hgreet ⟨connId, p, hg, hp, hpp⟩

-- ============================================================== the first greeting

omit [RustStd] in
/-- A player without a buffer has never lost its connection: it is in
no rejoin handshake and no catch-up. -/
def Player.FirstSession (p : Player) : Prop :=
  p.gproxyBuffer = none → p.rejoin = .none ∧ p.catchupCursor = none

omit [RustStd] in
theorem Player.FirstSession.hear {p : Player} (h : p.FirstSession) (now : Nat) (b : Packet)
    (seq : Option Nat) : (p.hear now b seq).FirstSession := by
  intro hnone
  rw [(p.kept_hear now b seq).rejoin, (p.hear_catchUp now b seq).1]
  refine h ?_
  rcases p.hear_cases now b seq with ⟨-, he⟩ | ⟨-, -, -, he⟩ | ⟨-, -, -, -, -, he⟩
  · rwa [he] at hnone
  · rw [he] at hnone
    exact Option.map_eq_none_iff.1 hnone
  · rw [he, ((p.buffer b).deliver_fields now b _).1] at hnone
    exact Option.map_eq_none_iff.1 hnone

omit [RustStd] in
theorem Player.FirstSession.receive {p : Player} (h : p.FirstSession) (now : Nat) (b : Packet) :
    (p.receive now b).FirstSession := by
  intro hnone
  rw [(p.kept_receive now b).rejoin, (p.receive_catchUp now b).1]
  refine h ?_
  rcases p.receive_cases now b with ⟨-, he⟩ | ⟨-, -, he⟩ | ⟨-, -, he⟩
  · rwa [he] at hnone
  · rw [he] at hnone
    exact Option.map_eq_none_iff.1 hnone
  · rw [he, ((p.buffer b).deliver_fields now b _).1] at hnone
    exact Option.map_eq_none_iff.1 hnone

omit [RustStd] in
/-- Only a seat that was held is taken over by a FULL rejoin. -/
theorem Moves.firstSession {k : Kind} {p q : Player} (h : Moves s k p q) (hok : PlayerOk s.now p)
    (hI : p.FirstSession) : q.FirstSession := by
  have hsame : ∀ {q : Player}, q.gproxyBuffer = p.gproxyBuffer → q.rejoin = p.rejoin →
      q.catchupCursor = p.catchupCursor → q.FirstSession := by
    intro q hb hr hc hnone
    rw [hr, hc]
    exact hI (hb ▸ hnone)
  cases h with
  | same => exact hI
  | air b _ => exact hI.hear s.now b _
  | tell b _ _ => exact hI.receive s.now b
  | feed =>
      intro hnone
      -- without a cursor there is nothing to feed
      rw [p.feed_gproxyBuffer s.now s.fullHistory] at hnone
      obtain ⟨hrejoin, hidle⟩ := hI hnone
      unfold Player.feed
      rw [hidle]
      exact ⟨hrejoin, hidle⟩
  | note h => exact hsame h.gproxyBuffer h.rejoin h.catchupCursor
  | gproxy _ =>
      intro hnone
      have hor : p.gproxyBuffer.or _ = none := hnone
      cases hb : p.gproxyBuffer <;> simp [hb] at hor
  | timeout =>
      obtain ⟨_, _, he⟩ := p.loadingTimeout_eq
      rw [he]
      exact hsame rfl rfl rfl
  | hold reason code =>
      obtain ⟨_, _, _, he⟩ := p.connClosed_eq s.now reason code
      rw [he]
      exact hsame rfl rfl rfl
  | expire =>
      obtain ⟨_, _, _, _, _, he⟩ := p.gproxyTimeout_eq s.now s.cfg.reconnectWait
      rw [he]
      exact hsame rfl rfl rfl
  | ack checksum _ =>
      obtain ⟨_, _, he⟩ := p.keepalive_eq s.syncCounter checksum
      rw [he]
      exact hsame rfl rfl rfl
  | answer h =>
      intro hnone
      cases (hI hnone).1.symm.trans h
  | tooLong h =>
      intro hnone
      cases (hI hnone).1.symm.trans h
  | arm h =>
      intro hnone
      cases (hI hnone).1.symm.trans h
  | attachFull connId link _ hheld _ =>
      intro hnone
      -- only a player that is held can be taken back, and a held one has its buffer
      have hnone' : p.gproxyBuffer = none := hnone
      have hsome := hok.buffered.1 (hok.held hheld)
      rw [hnone'] at hsome
      cases hsome
  | attachGps connId link _ _ b _ last replay _ =>
      obtain ⟨link', he⟩ := p.attachGps_eq connId link b.totalSent replay
      rw [he]
      exact hsame rfl rfl rfl
  | _ => exact hsame rfl rfl rfl

/-- In every run. -/
theorem firstSessions (hs : Reaches (fun _ _ => True) s) :
    WellFormed s ∧ ∀ p ∈ s.players, p.FirstSession := by
  refine hs.preserves (I := fun s => ∀ p ∈ s.players, p.FirstSession)
    (fun _ _ _ p hp => nomatch hp) ?_
  intro s ev hs hev _ hI
  refine (Lib.Path.preserves (I := fun s => WellFormed s ∧ ∀ p ∈ s.players, p.FirstSession) ?_
    (does_step hs hev (admits_anyFine s ev)) ⟨hs, hI⟩).2
  intro k s t hk hst ⟨hs, hI⟩
  refine ⟨hst.keeps_wellFormed hs, ?_⟩
  exact hst.forall_players (P := Player.FirstSession) hk
    (fun p hp q hm hP => hm.firstSession (hs.players p hp) hP)
    (fun p now b seq hP => hP.hear now b seq)
    (fun _ p hp _ => ⟨hp.rejoin, hp.catchupCursor⟩) (fun _ _ _ => ⟨rfl, rfl⟩) hI

/-- Take any run, and the first greeting of a player in it, and any run
of the game and its client from there that nothing disturbs. What the
client has got and what is on its way to it is the beginning of what
the buffer was given, and all of it while the connection lasts: then a
client that has read everything has got as many packets as the buffer
counts. What the buffer has behind the client's own count is what the
client has not got, and it has nothing there only if that is
forgotten. -/
theorem buffer_mirrors_wire {ev : Event} {connId : Nat} {p q : Player} {x : Session}
    (hs : Reaches (fun _ _ => True) s) (hev : ev.Sound) (hgoes : s.finished = false)
    (hp : s.players.byConn connId = some p) (hgreet : ev.greets = some connId)
    (hnone : p.gproxyBuffer = none) (hroomy : p.link.Roomy)
    (htoken : ∀ b ∈ s.greetToken p ev, p.link.finds (p.link.tries + 1) = .closed)
    (hrun : Session.Runs p.pid (Session.greeted s connId ev) x) (hq : q ∈ x.game.players)
    (hpid : q.pid = p.pid) :
    ∃ b, q.gproxyBuffer = some b
      ∧ x.client.got ++ q.link.unread x.client.cursor <+: b.log
      ∧ (q.connected → x.client.got ++ q.link.unread x.client.cursor = b.log)
      ∧ (b.log.length < 2 ^ 32 →
        (q.connected → q.link.unread x.client.cursor = [] → b.totalSent = x.client.got.length)
        ∧ (∀ replay, b.replayFrom x.client.got.length = some replay →
          x.client.got ++ replay = b.log)
        ∧ (b.replayFrom x.client.got.length = none ↔ x.client.got.length < b.ring.evicted)) := by
  obtain ⟨hwf, hfirst⟩ := firstSessions hs
  have hmem : p ∈ s.players := List.mem_of_find?_eq_some hp
  obtain ⟨hrejoin, hidle⟩ := hfirst p hmem hnone
  -- the greeting starts the buffer, and the client counts from there
  have hstart : SessionInv p.pid (Session.greeted s connId ev) := by
    refine ⟨step_wellFormed hwf hev, ?_⟩
    obtain ⟨b, hb⟩ := mirrors_new hnone hrejoin hidle hroomy
    have hcursor : (Session.greeted s connId ev).client = ⟨p.link.sent.length, []⟩ := by
      unfold Session.greeted
      rw [hp]
      rfl
    rw [hcursor]
    exact Shadowed.of_handle hwf hev hgoes (Shadowed.greet hwf hev hgreet hp hb htoken)
  -- from there on the run keeps the buffer and the wire in step
  have hend : SessionInv p.pid x := by
    refine Lib.Path.preserves (I := SessionInv p.pid) ?_ hrun hstart
    rintro a y _ hfine rfl hI
    exact hI.next hfine
  obtain ⟨b, hb⟩ := hend.shadowed q hq hpid
  refine ⟨b, hb.buffer, hb.sent, hb.level, fun hfew => ⟨fun hconn hread => ?_, ?_, ?_⟩⟩
  · have hall := hb.level hconn
    rw [hread, List.append_nil] at hall
    rw [b.totalSent_eq, hall]
    exact Nat.mod_eq_of_lt hfew
  · intro replay hreplay
    -- the counters are u32, so the ring is addressed rightly below 2 ^ 32
    rw [b.replayFrom_eq hfew] at hreplay
    split at hreplay
    · obtain ⟨rest, hrest⟩ := hb.sent
      rw [← Option.some.inj hreplay, ← hrest, List.append_assoc, List.drop_left]
    · cases hreplay
  · have hle : x.client.got.length ≤ b.log.length := by
      have hlen := hb.sent.length_le
      rw [List.length_append] at hlen
      omega
    rw [b.replayFrom_eq hfew]
    constructor
    · intro hreject
      by_contra hkept
      rw [if_pos ⟨Nat.le_of_not_lt hkept, hle⟩] at hreject
      cases hreject
    · intro hgone
      rw [if_neg fun h => absurd hgone (Nat.not_lt_of_le h.1)]

end Loop

section Runs

open Scenario

/-- A run of a session. -/
def Session.run (pid : UInt8) (x : Session) (acts : List SessionAct) : Session :=
  acts.foldl (Session.next pid) x

/-- The player of a session has a buffer, and what the client has got
and what is on its way to it is the beginning of what the buffer was
given. -/
def Session.mirrored (pid : UInt8) (x : Session) : Prop :=
  ∀ p ∈ x.game.players, p.pid = pid → ∀ b ∈ p.gproxyBuffer,
    x.client.got ++ p.link.unread x.client.cursor <+: b.log

instance (pid : UInt8) (x : Session) : Decidable (Session.mirrored pid x) :=
  inferInstanceAs (Decidable (∀ p ∈ x.game.players, p.pid = pid → ∀ b ∈ p.gproxyBuffer,
    x.client.got ++ p.link.unread x.client.cursor <+: b.log))

/-- A step that disturbs nobody, and in which nobody comes back. -/
def Session.Calm (pid : UInt8) (a : SessionAct) (x : Session) : Prop :=
  match a with
  | .read => True
  | .game ev => ev.Sound ∧ pid ∈ x.game.pids
      ∧ (∀ b ∈ x.game.joinNotice ev, ∀ p ∈ x.game.players, p.pid = pid → p.link.next = .closed)
      ∧ (∀ connId ∈ ev.greets, ∀ p ∈ x.game.players.byConn connId, p.pid = pid →
        ∀ b ∈ x.game.greetToken p ev, p.link.finds (p.link.tries + 1) = .closed)
      ∧ x.game.fullSeat ev ≠ some pid ∧ x.game.gpsSeat ev ≠ some pid

instance (pid : UInt8) (a : SessionAct) (x : Session) : Decidable (Session.Calm pid a x) := by
  cases a <;> unfold Session.Calm <;> infer_instance

theorem Session.Calm.fine {pid : UInt8} {a : SessionAct} {x : Session} (h : Session.Calm pid a x) :
    Session.Fine pid a x := by
  cases a with
  | read => trivial
  | game ev =>
      obtain ⟨hev, hpid, hjoin, htoken, hfull, hgps⟩ := h
      exact ⟨hev, hpid, hjoin, htoken, hfull, fun hseat => absurd hseat hgps⟩

/-- A client joins. -/
def oneJoin : List Event := [connect 1 PlayerLink.drained, join 1 (txt "ann")]

/-- It announces itself, on a connection with a first line on it. -/
def greetedSession : Session := Session.greeted (lobby.run oneJoin) 1 (hello 1)

/-- A line of the host. -/
def hostSays (line : Text) : SessionAct := .game (cmd (.chat line))

/-- The client gets one line and misses two: one on its way when its
connection breaks, and one while it is away. -/
def twoMissed : List SessionAct :=
  [.read, hostSays (txt "one"), .read, hostSays (txt "two"), .game (closed 1),
    hostSays (txt "three")]

/-- It comes back for its seat. -/
def comesBack (last : Nat) : Event := cmd (.adoptReconnect 3 ⟨1, 7, last⟩ PlayerLink.drained)

set_option maxRecDepth 100000 in
theorem oneJoin_roomy (n : Nat) :
    (((lobby.run oneJoin).players.byConn 1).map fun p => p.link.finds n) = some .room := by
  with_unfolding_all rfl

theorem buffer_mirrors_wire_twoMissed :
    ∃ q ∈ (greetedSession.run 1 (twoMissed ++ [.game (comesBack 1), .read])).game.players, q.pid = 1
      ∧ ∃ b, q.gproxyBuffer = some b
        ∧ (greetedSession.run 1 (twoMissed ++ [.game (comesBack 1), .read])).client.got
          ++ q.link.unread
            (greetedSession.run 1 (twoMissed ++ [.game (comesBack 1), .read])).client.cursor = b.log
        ∧ b.log.length = 3 := by
  obtain ⟨p, hp⟩ := Option.isSome_iff_exists.1
    (show ((lobby.run oneJoin).players.byConn 1).isSome by decide +kernel)
  have hfacts : ∀ p ∈ (lobby.run oneJoin).players.byConn 1, p.pid = 1 ∧ p.gproxyBuffer = none
      ∧ ∀ b ∈ (lobby.run oneJoin).greetToken p (hello 1),
        p.link.finds (p.link.tries + 1) = .closed := by
    decide +kernel
  obtain ⟨hpid, hnone, htoken⟩ := hfacts p hp
  have hroomy : p.link.Roomy := by
    intro n hfull
    have hroom := oneJoin_roomy n
    rw [hp] at hroom
    exact Found.noConfusion (hfull.symm.trans (Option.some.inj hroom))
  have hcalm : Lib.Meets (Session.next 1) (Session.Calm 1) greetedSession twoMissed := by
    decide +kernel
  have hmissed : Session.Runs 1 greetedSession (greetedSession.run 1 twoMissed) :=
    Lib.Path.mono (fun _ _ h => h.fine) (Lib.Path.of_meets hcalm)
  have hback : Session.Fine 1 (.game (comesBack 1)) (greetedSession.run 1 twoMissed) := by
    refine ⟨by decide +kernel, by decide +kernel, by decide +kernel, by decide +kernel,
      by decide +kernel, fun _ r hr => ?_⟩
    obtain rfl := Option.some.inj hr
    exact ⟨by decide +kernel, fun n h => (nomatch h), by decide +kernel⟩
  have hrun : Session.Runs 1 greetedSession
      (greetedSession.run 1 (twoMissed ++ [.game (comesBack 1), .read])) := by
    unfold Session.run
    rw [List.foldl_append]
    exact (hmissed.trans (Lib.Path.one hback rfl)).trans (Lib.Path.one (k := .read) trivial rfl)
  obtain ⟨q, hq, hqpid, hconn, hfew⟩ :
      ∃ q ∈ (greetedSession.run 1 (twoMissed ++ [.game (comesBack 1), .read])).game.players,
        q.pid = 1 ∧ (q.left = none ∧ q.disconnectedSince = none ∧ q.link.next ≠ .closed)
          ∧ ∀ b ∈ q.gproxyBuffer, b.log.length = 3 := by
    decide +kernel
  have hreach : Reaches (fun _ _ => True) (lobby.run oneJoin) :=
    ⟨config, 0, 5, Runs.of_meets (by decide +kernel)⟩
  obtain ⟨b, hb, -, hall, -⟩ := buffer_mirrors_wire hreach (by decide +kernel)
    (by decide +kernel) hp (show (hello 1).greets = some 1 by decide +kernel) hnone hroomy
    htoken (hpid.symm ▸ hrun) hq (hqpid.trans hpid.symm)
  exact ⟨q, hq, hqpid, b, hb, hall hconn, hfew b hb⟩

/-- Another client joins the lobby behind the greeting. -/
def joinedBehind : List SessionAct :=
  [.read, .game (connect 2 PlayerLink.drained), .game (join 2 (txt "bob")), .read, .read,
    .game (closed 1), hostSays (txt "one"), hostSays (txt "two")]

/-- The client has read everything and got two packets, the announcement
of the other and the new slots; the buffer counts one, the slots. Two
lines later the client comes back, says that it has got two, and is
sent the second line: the first one is lost. -/
theorem join_goes_past_buffer :
    (∀ ev ∈ (joinedBehind ++ [SessionAct.game (comesBack 2)]).filterMap SessionAct.event?, ev.Sound)
      ∧ ((greetedSession.run 1 (joinedBehind.take 5)).client.got.map Packet.id) = [0x06, 0x09]
      ∧ ((greetedSession.run 1 (joinedBehind.take 5)).game.bufferOf 1).map GProxyBuffer.totalSent
        = some 1
      ∧ (((greetedSession.run 1 joinedBehind).game.bufferOf 1).map fun b => b.log.map Packet.id)
        = some [0x09, 0x0F, 0x0F]
      ∧ (greetedSession.run 1 joinedBehind).game.gpsSeat (comesBack 2) = some 1
      ∧ ((greetedSession.run 1 (joinedBehind ++ [.game (comesBack 2), .read, .read])).client.got.map
          Packet.id) = [0x06, 0x09, 0x0F]
      ∧ ((greetedSession.run 1
        (joinedBehind ++ [.game (comesBack 2), .read, .read])).client.got.drop 2
        = (((greetedSession.run 1 joinedBehind).game.bufferOf 1).map fun b => b.log.drop 2).getD [])
      ∧ ¬Session.mirrored 1 (greetedSession.run 1 joinedBehind) := by
  refine ⟨by decide +kernel, by decide +kernel, by decide +kernel, by decide +kernel,
    by decide +kernel, by decide +kernel, by decide +kernel, by decide +kernel⟩

end Runs

end Spectre

/-
The small steps of the engine, on the whole state.

`Step` lists them; `Does K s t` is a path of them whose kinds `K`
admits. Besides the fine steps there are six coarse ones — the reaper,
the two loading functions, the two checks of a tick and the turn it
sends — for properties that hold before and after such a function but
not halfway through.

`WellFormed` is the invariant every small step keeps: distinct player
ids, a virtual host that is nothing but a virtual host, held players
that use GProxy, pending links that carry nothing, a history that is
empty until the game runs, and no slot that is held twice.
-/
import Spectre.Lib.Path
import Spectre.Moves
import Spectre.SlotSeats

namespace Spectre

open GameState

-- ============================================================== observations

/-- The packet a relay message pushes, if it pushes one. -/
def RelayMsg.pushed? : RelayMsg → Option Packet
  | push b => some b
  | _ => none

/-- What the replay says about the turns: their records, and its
length. -/
def ReplayBody.timeline (r : ReplayBody) : List ReplayRecord × Nat :=
  (r.timeslots, r.replayLengthMs)

/-- The replay with a record behind those it has. -/
def ReplayBody.add (r : ReplayBody) (c : ReplayRecord) : ReplayBody :=
  { r with records := r.records ++ [c] }

/-- Whether the packet opens a client's session. -/
def Packet.isJoin : Packet → Bool
  | slotInfoJoin .. => true
  | _ => false

namespace GameState

/-- The blocks pushed to the relay. -/
def relayed (s : GameState) : Option (List Packet) :=
  s.relay.map fun l => l.filterMap RelayMsg.pushed?

/-- The books of the game: its replay, its statistics, the number it is
hosted under, and what it told the supervisor. -/
def books (s : GameState) : Option ReplayBody × Option StatsDotA × Nat × List LobbyStatus :=
  (s.replay, s.dota, s.cfg.hostCounter, s.events)

/-- The player ids that votes and downloads refer to. -/
def referred (s : GameState) : List UInt8 :=
  s.votekickTarget.toList ++ s.votekickVotes ++ s.startVotes ++ s.drawVotes
    ++ s.downloads.map Download.pid

end GameState

-- ===================================================================== steps

/-- No slot is held twice, if none was before: the holds are a hash map
by slot. -/
def HoldsKept (l m : List (UInt8 × Text)) : Prop :=
  (l.map Prod.fst).Nodup → (m.map Prod.fst).Nodup

/-- No hold is set. -/
@[refl] theorem HoldsKept.refl (l : List (UInt8 × Text)) : HoldsKept l l := id

/-- A hold takes the place of the one its slot had. -/
theorem HoldsKept.insert (l : List (UInt8 × Text)) (sid : UInt8) (name : Text) :
    HoldsKept l ((l.filter fun h => h.1 != sid) ++ [(sid, name)]) := by
  intro h
  rw [List.map_append, List.nodup_append]
  refine ⟨h.sublist (List.filter_sublist.map _), List.nodup_singleton _, ?_⟩
  intro a ha b hb
  obtain ⟨e, he, rfl⟩ := List.mem_map.1 ha
  rw [List.map_singleton, List.mem_singleton] at hb
  rw [hb]
  exact bne_iff_ne.1 (List.mem_filter.1 he).2

/-- Two states that differ in the books, and in fields no property
reads. -/
structure Same (s t : GameState) : Prop where
  phase : t.phase = s.phase
  phases : t.phases = s.phases
  slots : t.slots = s.slots
  players : t.players = s.players
  fullHistory : t.fullHistory = s.fullHistory
  syncCounter : t.syncCounter = s.syncCounter
  gameTicks : t.gameTicks = s.gameTicks
  randomSeed : t.randomSeed = s.randomSeed
  virtualHostPid : t.virtualHostPid = s.virtualHostPid
  fakePlayerPid : t.fakePlayerPid = s.fakePlayerPid
  pending : t.pending = s.pending
  pendingFull : t.pendingFull = s.pendingFull
  now : t.now = s.now
  aired : t.aired = s.aired
  started : t.started = s.started
  reaped : t.reaped = s.reaped
  turns : t.turns = s.turns
  actions : t.actions = s.actions
  relayed : t.relayed = s.relayed
  timeline : t.replay.map ReplayBody.timeline = s.replay.map ReplayBody.timeline
  referred : t.referred = s.referred
  reconnectWait : t.cfg.reconnectWait = s.cfg.reconnectWait
  syncLimit : t.cfg.syncLimit = s.cfg.syncLimit
  hostPort : t.cfg.hostPort = s.cfg.hostPort
  holds : HoldsKept s.holds t.holds

/-- An entry in the books, or none. -/
inductive Booked : Kind → GameState → GameState → Prop
  | none {s t : GameState} (h : t.books = s.books) : Booked .misc s t
  | record {s t : GameState} (fits : Bool) (pid flag : UInt8) (extra : Nat) (message : Text)
      (hfits : fits = true → (ReplayRecord.chat pid flag extra message).fits = true)
      (h : t.books = (s.replay.map fun r => r.addChat pid flag extra message, s.dota,
        s.cfg.hostCounter, s.events)) : Booked (.record fits) s t
  | leaver {s t : GameState} (p : Player) (code : Nat) (hp : p ∈ s.players) (hleft : p.left.isSome)
      (hvh : p.virtualHost = false) (hcode : code < 2 ^ 32)
      (h : t.books = (s.replay.map fun r => if s.phase = .loading then
          r.addLeaverLoading p.pid 1 code else r.addLeaver p.pid 1 code,
        s.dota, s.cfg.hostCounter, s.events)) : Booked .leaver s t
  | prologue {s : GameState} (h : s.started = some s.startState) :
      Booked .prologue s s.startReplay
  | stats {s t : GameState} (d : StatsDotA) (data : List UInt8) (hd : s.dota = some d)
      (h : t.books = (s.replay, some (d.processAction data).1, s.cfg.hostCounter, s.events)) :
      Booked .stats s t
  | status {s t : GameState} (e : LobbyStatus) (he : e.hostCounter = s.cfg.hostCounter)
      (h : t.books = (s.replay, s.dota, s.cfg.hostCounter, s.events ++ [e])) : Booked .status s t
  | rehost {s t : GameState} (hlobby : s.phase = .lobby)
      (h : t.books = (s.replay, s.dota, (s.cfg.hostCounter + 1) % 2 ^ 32, s.events)) :
      Booked .rehost s t

/-- The phase changes the source makes by assignment. Entering the game
is `enterPlaying`. -/
def PhaseStep : GamePhase → GamePhase → Prop
  | .lobby, .countdown .. => True
  | .countdown a b _, .countdown a' b' _ => a = a' ∧ b = b'
  | .countdown .., .lobby => True
  | .countdown .., .loading => True
  | _, .over => True
  | _, _ => False

/-- A player as it is seated. -/
structure Newcomer (p : Player) : Prop where
  virtualHost : p.virtualHost = false
  left : p.left = none
  gproxy : p.gproxy = false
  gproxyBuffer : p.gproxyBuffer = none
  disconnectedSince : p.disconnectedSince = none
  rejoin : p.rejoin = .none
  catchupCursor : p.catchupCursor = none
  catchingUp : p.catchingUp = false
  lagging : p.lagging = false
  sent : ∀ e ∈ p.link.sent, e.via = .personal
  reports : p.reports = []
  checksums : p.checksums = []
  syncCounter : p.syncCounter = 0
  code : p.leftCode < 2 ^ 32

/-- The virtual host as it is created. -/
def hostPlayer (pid : UInt8) (name : Text) : Player :=
  { pid := pid, name := name, connId := hostConn, link := PlayerLink.dropped, virtualHost := true
    loaded := true }

/-- An id and a slot that are free for a newcomer. A slot table of more
than 256 slots has indices that are no slot ids. -/
structure Vacancy (s : GameState) (sid pid : UInt8) : Prop where
  fresh : ∀ q ∈ s.players, q.pid ≠ pid
  pos : pid ≠ 0
  isOpen : s.slots.length ≤ 256 → s.slots.isOpen sid = true

/-- The kinds that are one move for each player. -/
def Kind.onTable : Kind → Bool
  | tell | feed | note | leave | lagDrop | desync | timeout | token _ | hail | gproxy
    | hold | expire
  | answer | tooLong | arm | load | lag | ack .. | pop | level | attachFull _ | attachGps _ => true
  | _ => false

/-- The small steps. -/
inductive Step [RustStd] : Kind → GameState → GameState → Prop
  | misc {k : Kind} {s t : GameState} (h : Same s t) (hb : Booked k s t) : Step k s t
  | air {s : GameState} (b : Packet) (h : b.isOrdinary = true) : Step .air s (s.broadcast b)
  | airLag {s : GameState} (b : Packet) (h : b.isLag = true) : Step .airLag s (s.broadcast b)
  | reset {s : GameState} (b : Packet) (h : b.isAction = true) : Step .reset s (s.broadcast b)
  | block {s : GameState} (b : Packet) (h : b.isAction = true) (f : ReplayBody → ReplayBody)
      (c : ReplayRecord) (hc : c.isTimeslot = true) (hfits : c.fits = true)
      (hf : ∀ r, ∃ ms, f r = { r.add c with replayLengthMs := ms }) :
      Step .block s (s.sendActionPacket b f)
  | table {k : Kind} {s : GameState} (hk : k.onTable = true) (ps : PlayerTable)
      (h : List.Forall₂ (Moves s k) s.players ps) : Step k s { s with players := ps }
  | seat {s : GameState} (sid : UInt8) (player : Player) (hlobby : s.phase = .lobby)
      (hfree : Vacancy s sid player.pid) (hp : Newcomer player)
      (hjoin : ∃ b, player.link.sent = [⟨b, .personal⟩] ∧ b.isJoin = true) (info : Option Packet)
      (hinfo : info = (Packet.playerInfo player.pid player.name player.externalIp
        player.internalIp).build) :
      Step .seat s (({ s with
        slots := (s.slots.occupySlot sid player.pid).1
        players := s.players ++ [(s.joinBurst player).foldl Player.sendDirect player] }
          : GameState).sendOthersDirect? player.pid info)
  | bounce {s : GameState} (sid pid : UInt8) (hlobby : s.phase = .lobby)
      (hfree : Vacancy s sid pid) :
      Step .bounce s (s.setSlots ((s.slots.occupySlot sid pid).1.release pid).1)
  | seatFake {s : GameState} (sid : UInt8) (p : Player) (hlobby : s.phase = .lobby)
      (hnone : s.fakePlayerPid = none) (hfree : Vacancy s sid p.pid) (hp : Newcomer p)
      (hsent : p.link.sent = []) (info : Option Packet)
      (hinfo : info = (Packet.playerInfo p.pid p.name Ip.zero Ip.zero).build) :
      Step .seatFake s (({ s with
        players := s.players ++ [p], slots := (s.slots.occupySlot sid p.pid).1
        fakePlayerPid := some p.pid } : GameState).broadcast? info)
  | host {s : GameState} (pid : UInt8) (hnone : s.virtualHostPid = 255)
      (hpid : ∀ q ∈ s.players, q.pid ≠ pid) (info : Option Packet)
      (hinfo : info = (Packet.playerInfo pid s.cfg.virtualHostName Ip.zero Ip.zero).build) :
      Step .host s { s.broadcast? info with
        virtualHostPid := pid
        players := (s.broadcast? info).players ++ [hostPlayer pid s.cfg.virtualHostName] }
  | unseat {s : GameState} {p : Player} (pid : UInt8) (r : LeftReason) (code : Nat)
      (hfind : s.players.byPid pid = some p) (hleft : p.left = some r)
      (hvh : p.virtualHost = false) :
      Step .unseat s ({ s with
        players := s.players.removePid pid, slots := (s.slots.release pid).1
        reaped := s.reaped ++ [(pid, r)] }.broadcast (.playerLeaveOthers pid code))
  | unhost {s : GameState} (hphase : s.phase = .lobby ∨ s.phase = .loading)
      (hsome : s.virtualHostPid ≠ 255) :
      Step .unhost s ({ s with
        virtualHostPid := 255, players := s.players.removePid s.virtualHostPid }.broadcast
          (.playerLeaveOthers s.virtualHostPid leaveLobby))
  | unfake {s : GameState} (pid : UInt8) (hlobby : s.phase = .lobby)
      (h : s.fakePlayerPid = some pid) :
      Step .unfake s ({ s with
        fakePlayerPid := none, players := s.players.removePid pid
        slots := (s.slots.release pid).1 }.broadcast (.playerLeaveOthers pid leaveLobby))
  | slots {s : GameState} (slots : SlotTable) (h : SameSeats s.slots slots) :
      Step .slots s (s.setSlots slots)
  | vacate {s : GameState} (sid status : UInt8) (h : status ≠ slotOccupied) :
      Step (.vacate sid) s
        (s.setSlots (s.slots.modify sid fun a => { a with slotStatus := status, pid := 0 }).1)
  | hcl {s : GameState} (mode : Text) :
      Step .hcl s (s.setSlots (Hcl.encodeHclIntoSlots mode s.slots).1)
  | phase {s : GameState} (ph : GamePhase) (h : PhaseStep s.phase ph) (hl : ph ≠ .loading) :
      Step .phase s (s.setPhase ph)
  | toLoading {s : GameState} (h : PhaseStep s.phase .loading) :
      Step .toLoading s (s.setPhase .loading)
  | restart {s : GameState} : Step .restart s s.enterPlaying
  | turn {s : GameState} (elapsed : Nat) (h : s.started.isSome) :
      Step .turn s { s with
        gameTicks := (s.gameTicks + elapsed) % 2 ^ 32
        syncCounter := (s.syncCounter + 1) % 2 ^ 32
        turns := s.turns ++ [elapsed], actions := [] }
  | act {s : GameState} (a : ActionBlock) (h : a.data.length ≤ 1024) :
      Step .act s { s with actions := s.actions ++ [a] }
  | queue {s : GameState} (pending : List Pending)
      (h : ∀ e ∈ pending, e ∈ s.pending ∨ e.link.sent = []) :
      Step .queue s { s with pending := pending }
  | cache {s : GameState} (tokens : List (Nat × UInt8 × UInt32)) :
      Step .cache s { s with pendingFull := tokens }
  | refer {s : GameState} (target : Option UInt8) (votes starts draws : List UInt8)
      (downloads : List Download)
      (h : ∀ pid ∈ target.toList ++ votes ++ starts ++ draws ++ downloads.map Download.pid,
        pid ∈ s.referred ∨ ∃ p ∈ s.players, p.pid = pid) :
      Step .refer s { s with
        votekickTarget := target, votekickVotes := votes, startVotes := starts, drawVotes := draws
        downloads := downloads }
  | limit {s : GameState} (n : Nat) (h : n ≤ 500) :
      Step .limit s { s with cfg := { s.cfg with syncLimit := n } }
  | clock {s : GameState} (ms : Nat) : Step .clock s { s with now := s.now + ms }
  | reap {s : GameState} : Step .reap s s.reapLeftPlayers
  | begin {s : GameState} (h : PhaseStep s.phase .loading) : Step .begin s s.beginLoading
  | loaded {s : GameState} (connId : Nat) : Step (.loaded connId) s (s.handleLoaded connId)
  | lagCheck {s : GameState} : Step .lagCheck s s.checkLag.1
  | check {s : GameState} : Step .check s s.checkDesync
  | sendTurn {s : GameState} (skipped : Nat) (h : s.started.isSome) :
      Step .sendTurn s (s.sendAllActions skipped)

/-- A path of small steps of admitted kinds. -/
def Does [RustStd] (K : Kind → GameState → Prop) : GameState → GameState → Prop := Lib.Path Step K

-- =============================================================== well-formed

/-- What holds of every player at every moment. -/
structure PlayerOk (now : Nat) (p : Player) : Prop where
  host : p.virtualHost = true →
    p.connId = hostConn ∧ p.loaded = true ∧ p.gproxy = false ∧ p.lagging = false
  buffered : p.gproxy = true ↔ p.gproxyBuffer.isSome
  held : p.disconnectedSince.isSome → p.gproxy = true
  since : ∀ t, p.disconnectedSince = some t → t ≤ now
  code : p.leftCode < 2 ^ 32

/-- What holds of the state at every moment. -/
structure WellFormed (s : GameState) : Prop where
  pids : (s.players.map Player.pid).Nodup
  players : ∀ p ∈ s.players, PlayerOk s.now p
  pending : ∀ e ∈ s.pending, e.link.sent = []
  history : s.fullHistory.log ≠ [] → s.phase = .playing ∨ s.phase = .over
  started : s.started.isSome → s.phase = .playing ∨ s.phase = .over
  playing : s.phase = .playing → s.started.isSome
  holds : (s.holds.map Prod.fst).Nodup

namespace PlayerOk

variable {now : Nat} {p q : Player}

/-- A send keeps a player well-formed if it treats the buffer and the
absence flag as one may. -/
theorem of_kept (h : PlayerOk now p) (hk : Kept p q)
    (hbuf : q.gproxyBuffer.isSome = p.gproxyBuffer.isSome)
    (hdisc : q.disconnectedSince = p.disconnectedSince
      ∨ (p.gproxy = true ∧ q.disconnectedSince = p.disconnectedSince.or (some now))) :
    PlayerOk now q where
  host hv := by
    rw [hk.connId, hk.loaded, hk.gproxy, hk.lagging]
    exact h.host (hk.virtualHost ▸ hv)
  buffered := by
    rw [hk.gproxy, hbuf]
    exact h.buffered
  held hs := by
    rw [hk.gproxy]
    rcases hdisc with hd | ⟨hg, -⟩
    · exact h.held (hd ▸ hs)
    · exact hg
  since t ht := by
    rcases hdisc with hd | ⟨-, hd⟩
    · exact h.since t (hd ▸ ht)
    · rw [hd] at ht
      cases hp : p.disconnectedSince with
      | none =>
          rw [hp, Option.none_or] at ht
          exact Nat.le_of_eq (Option.some.inj ht).symm
      | some t' =>
          rw [hp, Option.some_or] at ht
          exact h.since t (hp ▸ ht)
  code := by
    rw [hk.leftCode]
    exact h.code

/-- A change that counts nowhere keeps a player well-formed. -/
theorem of_quiet (h : PlayerOk now p) (hq : Quiet p q) : PlayerOk now q where
  host hv := by
    rw [hq.connId, hq.loaded, hq.gproxy, hq.lagging]
    exact h.host (hq.virtualHost ▸ hv)
  buffered := by
    rw [hq.gproxy, hq.gproxyBuffer]
    exact h.buffered
  held hs := hq.gproxy ▸ h.held (hq.disconnectedSince ▸ hs)
  since t ht := h.since t (hq.disconnectedSince ▸ ht)
  code := hq.leftCode ▸ h.code

/-- A well-formed player stays so as time goes on. -/
theorem later (h : PlayerOk now p) {now' : Nat} (hle : now ≤ now') : PlayerOk now' p :=
  ⟨h.host, h.buffered, h.held, fun t ht => Nat.le_trans (h.since t ht) hle, h.code⟩

/-- A packet may be kept for a player with GProxy. -/
theorem buffer (h : PlayerOk now p) (b : Packet) : PlayerOk now (p.buffer b) :=
  h.of_kept (p.kept_buffer b) (by simp [Player.buffer]) (.inl rfl)

/-- A send, whatever it meets. -/
theorem deliver (h : PlayerOk now p) (b : Packet) (via : Via) :
    PlayerOk now (p.deliver now b via) :=
  h.of_kept (p.kept_deliver now b via) (by rw [(p.deliver_fields now b via).1])
    (p.deliver_disconnectedSince now b via)

/-- A packet to all, as this player has it. -/
theorem hear (h : PlayerOk now p) (b : Packet) (seq : Option Nat) :
    PlayerOk now (p.hear now b seq) := by
  rcases p.hear_cases now b seq with ⟨-, he⟩ | ⟨-, -, -, he⟩ | ⟨-, -, -, -, -, he⟩
  · rwa [he]
  · rw [he]
    exact h.buffer b
  · rw [he]
    exact (h.buffer b).deliver b _

/-- A packet to this player. -/
theorem receive (h : PlayerOk now p) (b : Packet) : PlayerOk now (p.receive now b) := by
  rcases p.receive_cases now b with ⟨-, he⟩ | ⟨-, -, he⟩ | ⟨-, -, he⟩
  · rwa [he]
  · rw [he]
    exact h.buffer b
  · rw [he]
    exact (h.buffer b).deliver b _

/-- The feed of a catch-up. -/
theorem feed (h : PlayerOk now p) (history : FullHistory) : PlayerOk now (p.feed now history) :=
  h.of_kept (p.kept_feed now history) (by rw [p.feed_gproxyBuffer now history])
    (p.feed_disconnectedSince now history)

/-- The player turns out to use GProxy; the virtual host never does. -/
theorem enableGproxy (h : PlayerOk now p) (hc : p.connId ≠ hostConn) :
    PlayerOk now p.enableGproxy where
  host hv := absurd (h.host hv).1 hc
  buffered := by
    unfold Player.enableGproxy
    cases p.gproxyBuffer <;> simp
  held _ := rfl
  since := h.since
  code := h.code

/-- The reader of its connection has ended. -/
theorem connClosed (h : PlayerOk now p) (reason : Text) {code : Nat} (hcode : code < 2 ^ 32) :
    PlayerOk now (p.connClosed now reason code) := by
  unfold Player.connClosed
  split
  · rename_i hg
    exact h.of_kept ⟨rfl, rfl, rfl, rfl, rfl, rfl, rfl, rfl, rfl, rfl, rfl, rfl, rfl⟩ rfl
      (.inr ⟨hg, rfl⟩)
  · split
    · exact ⟨h.host, h.buffered, h.held, h.since, hcode⟩
    · exact h

/-- The watch over those who are held. -/
theorem gproxyTimeout (h : PlayerOk now p) (grace : Nat) :
    PlayerOk now (p.gproxyTimeout now grace) := by
  rcases p.gproxyTimeout_cases now grace with ⟨-, he⟩ | ⟨_, -, -, he⟩ | ⟨_, _, _, -, -, he⟩
  · rwa [he]
  · rw [he]
    exact ⟨h.host, h.buffered, fun hs => absurd hs (by simp), fun t ht => (nomatch ht),
      (by decide : leaveGproxy < 2 ^ 32)⟩
  · rw [he]
    exact ⟨h.host, h.buffered, h.held, h.since, h.code⟩

/-- The virtual host does not use GProxy. -/
theorem virtualHost_of_gproxy (h : PlayerOk now p) (hg : p.gproxy = true) :
    p.virtualHost = false := by
  cases hv : p.virtualHost with
  | false => rfl
  | true =>
      rw [(h.host hv).2.2.1] at hg
      cases hg

/-- The player is back on a new connection. -/
theorem attachGps (h : PlayerOk now p) (connId : Nat) (link : PlayerLink) (received : Nat)
    (replay : List Packet) (hg : p.gproxy = true) :
    PlayerOk now (p.attachGps connId link received replay) := by
  obtain ⟨link', he⟩ := p.attachGps_eq connId link received replay
  rw [he]
  have hguest := h.virtualHost_of_gproxy hg
  exact ⟨fun hv => absurd hv (by simp [hguest]), h.buffered, fun hs => absurd hs (by simp),
    fun t ht => (nomatch ht), h.code⟩

end PlayerOk

namespace Moves

variable {s : GameState} {k : Kind} {p q : Player}

/-- No move changes who a player is. -/
theorem identity (h : Moves s k p q) :
    q.pid = p.pid ∧ q.name = p.name ∧ q.virtualHost = p.virtualHost := by
  have hk : ∀ {q : Player}, Kept p q →
      q.pid = p.pid ∧ q.name = p.name ∧ q.virtualHost = p.virtualHost :=
    fun hk => ⟨hk.pid, hk.name, hk.virtualHost⟩
  cases h with
  | air b _ => exact hk (p.kept_hear _ _ _)
  | tell b _ _ => exact hk (p.kept_receive _ _)
  | feed => exact hk (p.kept_feed _ _)
  | note h => exact ⟨h.pid, h.name, h.virtualHost⟩
  | timeout =>
      obtain ⟨_, _, he⟩ := p.loadingTimeout_eq
      rw [he]
      exact ⟨rfl, rfl, rfl⟩
  | hold reason code =>
      obtain ⟨_, _, _, he⟩ := p.connClosed_eq s.now reason code
      rw [he]
      exact ⟨rfl, rfl, rfl⟩
  | expire =>
      obtain ⟨_, _, _, _, _, he⟩ := p.gproxyTimeout_eq s.now s.cfg.reconnectWait
      rw [he]
      exact ⟨rfl, rfl, rfl⟩
  | ack checksum _ =>
      obtain ⟨_, _, he⟩ := p.keepalive_eq s.syncCounter checksum
      rw [he]
      exact ⟨rfl, rfl, rfl⟩
  | attachGps connId link _ _ b _ last replay _ =>
      obtain ⟨link', he⟩ := p.attachGps_eq connId link b.totalSent replay
      rw [he]
      exact ⟨rfl, rfl, rfl⟩
  | _ => exact ⟨rfl, rfl, rfl⟩

/-- Every move keeps a player well-formed. -/
theorem ok (h : Moves s k p q) (hp : PlayerOk s.now p) : PlayerOk s.now q := by
  cases h with
  | same => exact hp
  | air b _ => exact hp.hear b _
  | tell b _ _ => exact hp.receive b
  | feed => exact hp.feed _
  | note h => exact hp.of_quiet h
  | timeout =>
      unfold Player.loadingTimeout
      split
      · exact ⟨hp.host, hp.buffered, hp.held, hp.since, (by decide : leaveDisconnect < 2 ^ 32)⟩
      · exact hp
  | leave r code _ _ hcode => exact ⟨hp.host, hp.buffered, hp.held, hp.since, hcode⟩
  | desync code hcode => exact ⟨hp.host, hp.buffered, hp.held, hp.since, hcode⟩
  | lagDrop n code _ hcode => exact ⟨hp.host, hp.buffered, hp.held, hp.since, hcode⟩
  | tooLong _ =>
      exact ⟨hp.host, hp.buffered, hp.held, hp.since, (by decide : leaveDisconnect < 2 ^ 32)⟩
  | gproxy hc => exact hp.enableGproxy hc
  | hold reason code hcode => exact hp.connClosed reason hcode
  | expire => exact hp.gproxyTimeout _
  | arm _ | load _ | restart =>
      exact ⟨fun hv => ⟨(hp.host hv).1, rfl, (hp.host hv).2.2⟩, hp.buffered, hp.held, hp.since,
        hp.code⟩
  | lag b t hv =>
      exact ⟨fun hv' => absurd hv' (by simp [hv]), hp.buffered, hp.held, hp.since, hp.code⟩
  | ack checksum _ =>
      obtain ⟨_, _, he⟩ := p.keepalive_eq s.syncCounter checksum
      rw [he]
      exact ⟨hp.host, hp.buffered, hp.held, hp.since, hp.code⟩
  | attachFull connId link _ hheld _ =>
      -- a held player uses GProxy, so it is not the virtual host
      have hguest := hp.virtualHost_of_gproxy (hp.held hheld)
      exact ⟨fun hv => absurd hv (by simp [Player.attachFull, hguest]), hp.buffered,
        fun hs => absurd hs (by simp [Player.attachFull]), fun t ht => (nomatch ht), hp.code⟩
  | attachGps connId link _ hg b _ last replay _ => exact hp.attachGps connId link _ replay hg
  | _ => exact ⟨hp.host, hp.buffered, hp.held, hp.since, hp.code⟩

end Moves

-- ============================================================== a broadcast

namespace GameState

variable (s : GameState) (b : Packet)

/-- A broadcast touches the players, the history and what has been aired.
Everything else is as it was: one lemma a field. -/
@[simp] theorem broadcast_phase : (s.broadcast b).phase = s.phase := by
  unfold broadcast
  split <;> rfl

@[simp] theorem broadcast_phases : (s.broadcast b).phases = s.phases := by
  unfold broadcast
  split <;> rfl

@[simp] theorem broadcast_slots : (s.broadcast b).slots = s.slots := by
  unfold broadcast
  split <;> rfl

@[simp] theorem broadcast_now : (s.broadcast b).now = s.now := by
  unfold broadcast
  split <;> rfl

@[simp] theorem broadcast_holds : (s.broadcast b).holds = s.holds := by
  unfold broadcast
  split <;> rfl

@[simp] theorem broadcast_cfg : (s.broadcast b).cfg = s.cfg := by
  unfold broadcast
  split <;> rfl

@[simp] theorem broadcast_pending : (s.broadcast b).pending = s.pending := by
  unfold broadcast
  split <;> rfl

@[simp] theorem broadcast_started : (s.broadcast b).started = s.started := by
  unfold broadcast
  split <;> rfl

@[simp] theorem broadcast_reaped : (s.broadcast b).reaped = s.reaped := by
  unfold broadcast
  split <;> rfl

@[simp] theorem broadcast_turns : (s.broadcast b).turns = s.turns := by
  unfold broadcast
  split <;> rfl

@[simp] theorem broadcast_syncCounter : (s.broadcast b).syncCounter = s.syncCounter := by
  unfold broadcast
  split <;> rfl

@[simp] theorem broadcast_gameTicks : (s.broadcast b).gameTicks = s.gameTicks := by
  unfold broadcast
  split <;> rfl

@[simp] theorem broadcast_randomSeed : (s.broadcast b).randomSeed = s.randomSeed := by
  unfold broadcast
  split <;> rfl

@[simp] theorem broadcast_virtualHostPid : (s.broadcast b).virtualHostPid = s.virtualHostPid := by
  unfold broadcast
  split <;> rfl

@[simp] theorem broadcast_fakePlayerPid : (s.broadcast b).fakePlayerPid = s.fakePlayerPid := by
  unfold broadcast
  split <;> rfl

@[simp] theorem broadcast_pendingFull : (s.broadcast b).pendingFull = s.pendingFull := by
  unfold broadcast
  split <;> rfl

@[simp] theorem broadcast_actions : (s.broadcast b).actions = s.actions := by
  unfold broadcast
  split <;> rfl

@[simp] theorem broadcast_relay : (s.broadcast b).relay = s.relay := by
  unfold broadcast
  split <;> rfl

@[simp] theorem broadcast_replay : (s.broadcast b).replay = s.replay := by
  unfold broadcast
  split <;> rfl

@[simp] theorem broadcast_hcl : (s.broadcast b).hcl = s.hcl := by
  unfold broadcast
  split <;> rfl

@[simp] theorem broadcast_referred : (s.broadcast b).referred = s.referred := by
  unfold broadcast
  split <;> rfl

@[simp] theorem broadcast_relayed : (s.broadcast b).relayed = s.relayed := by
  unfold broadcast
  split <;> rfl

/-- What has been aired has one packet more. -/
@[simp] theorem broadcast_aired : (s.broadcast b).aired = s.aired ++ [b] := by
  unfold broadcast
  split <;> rfl

/-- A broadcast touches the players, the history and the record of what
was aired. -/
theorem broadcast_eq : ∃ h, s.broadcast b = { s with
    players := s.players.map fun p => p.hear s.now b s.airSeq
    fullHistory := h, aired := s.aired ++ [b] } := by
  unfold broadcast airSeq
  split
  · refine ⟨s.fullHistory.push b, ?_⟩
    simp [Lib.Ring.nextSeq_eq]
  · exact ⟨s.fullHistory, rfl⟩

/-- All that a broadcast can touch, also where the packet may have been too
long to build. -/
theorem broadcast?_eq (b : Option Packet) : ∃ ps h a, s.broadcast? b = { s with
    players := ps, fullHistory := h, aired := a } := by
  cases b with
  | none => exact ⟨s.players, s.fullHistory, s.aired, rfl⟩
  | some b =>
      obtain ⟨h, he⟩ := s.broadcast_eq b
      exact ⟨_, h, _, he⟩

/-- A packet to the others that is not kept for anybody touches the players
only. -/
theorem sendOthersDirect?_eq (pid : UInt8) (b : Option Packet) :
    ∃ ps, s.sendOthersDirect? pid b = { s with players := ps } := by
  cases b with
  | none => exact ⟨s.players, rfl⟩
  | some b => exact ⟨_, rfl⟩

/-- An action packet touches the relay and the replay besides. -/
theorem sendActionPacket_eq (f : ReplayBody → ReplayBody) :
    ∃ h, s.sendActionPacket b f = { s with
      relay := s.relay.map fun l => l ++ [.push b], replay := s.replay.map f
      players := s.players.map fun p => p.hear s.now b s.airSeq
      fullHistory := h, aired := s.aired ++ [b] } :=
  broadcast_eq _ b

/-- Every player hears the packet for itself. -/
theorem broadcast_players :
    (s.broadcast b).players = s.players.map fun p => p.hear s.now b s.airSeq := by
  unfold broadcast airSeq
  split
  · simp [Lib.Ring.nextSeq_eq]
  · rfl

/-- The history has it in a running game only. -/
theorem broadcast_log :
    (s.broadcast b).fullHistory.log
      = if s.phase = .playing then s.fullHistory.log ++ [b] else s.fullHistory.log := by
  unfold broadcast
  split
  · exact Lib.Ring.push_log _ _
  · rfl

/-- An id that is free stays free. -/
theorem broadcast?_pid_ne {s : GameState} {b : Option Packet} {pid : UInt8}
    (h : ∀ q ∈ s.players, q.pid ≠ pid) : ∀ q ∈ (s.broadcast? b).players, q.pid ≠ pid := by
  cases b with
  | none => exact h
  | some b =>
      intro q hq
      have hq' : q ∈ (s.broadcast b).players := hq
      rw [broadcast_players, List.mem_map] at hq'
      obtain ⟨p, hp, rfl⟩ := hq'
      rw [(p.kept_hear _ _ _).pid]
      exact h p hp

/-- Every player hears a broadcast. -/
theorem moves_broadcast (h : b.isW3gs = true) :
    List.Forall₂ (Moves s .air) s.players (s.broadcast b).players := by
  rw [broadcast_players, List.forall₂_map_right_iff]
  exact List.forall₂_same.2 fun p _ => .air b h

/-- Every player but one is sent a packet on its bare link. -/
theorem moves_greet (pid : UInt8) :
    List.Forall₂ (Moves s .seat) s.players
      (s.players.map fun p => if p.pid = pid then p else p.sendDirect b) := by
  rw [List.forall₂_map_right_iff]
  refine List.forall₂_same.2 fun p _ => ?_
  split
  · exact .same
  · exact .greet b

end GameState

-- ==================================================== keeping well-formedness

/-- The kinds that are one small step, and not a whole function. -/
def Kind.fine : Kind → Bool
  | reap | begin | loaded _ | lagCheck | check | sendTurn => false
  | _ => true

/-- An entry in the books is a small step. -/
theorem Booked.fine {k : Kind} {s t : GameState} (h : Booked k s t) : k.fine = true := by
  cases h <;> rfl

/-- Moves keep the player ids, in order. -/
theorem map_pid_of_moves {s : GameState} {k : Kind} {ps qs : PlayerTable}
    (h : List.Forall₂ (Moves s k) ps qs) : qs.map Player.pid = ps.map Player.pid := by
  induction h with
  | nil => rfl
  | cons hpq _ ih => rw [List.map_cons, List.map_cons, hpq.identity.1, ih]

/-- A player after a move was there before it. -/
theorem exists_of_moves {s : GameState} {k : Kind} {ps qs : PlayerTable} {q : Player}
    (h : List.Forall₂ (Moves s k) ps qs) (hq : q ∈ qs) : ∃ p ∈ ps, Moves s k p q :=
  Lib.exists_left_of_forall₂ h hq

/-- A player before a move is there after it. -/
theorem exists_moved {s : GameState} {k : Kind} {ps qs : PlayerTable} {p : Player}
    (h : List.Forall₂ (Moves s k) ps qs) (hp : p ∈ ps) : ∃ q ∈ qs, Moves s k p q :=
  Lib.exists_right_of_forall₂ h hp

namespace WellFormed

variable {s t : GameState}

/-- Moving every player keeps the state well-formed. -/
theorem of_moves {k : Kind} (h : WellFormed s) (hm : List.Forall₂ (Moves s k) s.players t.players)
    (hnow : t.now = s.now) (hpending : t.pending = s.pending) (hholds : t.holds = s.holds)
    (hhist : t.fullHistory.log ≠ [] → t.phase = .playing ∨ t.phase = .over)
    (hstart : t.started.isSome → t.phase = .playing ∨ t.phase = .over)
    (hplay : t.phase = .playing → t.started.isSome) : WellFormed t where
  pids := map_pid_of_moves hm ▸ h.pids
  players q hq := by
    obtain ⟨p, hp, hpq⟩ := exists_of_moves hm hq
    rw [hnow]
    exact hpq.ok (h.players p hp)
  pending := hpending ▸ h.pending
  history := hhist
  started := hstart
  playing := hplay
  holds := hholds ▸ h.holds

/-- Removing players keeps the state well-formed. -/
theorem of_sublist (h : WellFormed s) (hsub : t.players.Sublist s.players) (hnow : t.now = s.now)
    (hpending : t.pending = s.pending) (hholds : t.holds = s.holds) (hphase : t.phase = s.phase)
    (hhist : t.fullHistory = s.fullHistory) (hstart : t.started = s.started) : WellFormed t where
  pids := h.pids.sublist (hsub.map _)
  players p hp := hnow ▸ h.players p (hsub.subset hp)
  pending := hpending ▸ h.pending
  history hl := hphase ▸ h.history (hhist ▸ hl)
  started hl := hphase ▸ h.started (hstart ▸ hl)
  playing hp := hstart ▸ h.playing (hphase ▸ hp)
  holds := hholds ▸ h.holds

/-- Adding a player with a new id keeps the state well-formed. -/
theorem of_append (h : WellFormed s) {p : Player} (hpid : ∀ q ∈ s.players, q.pid ≠ p.pid)
    (hp : PlayerOk s.now p) (hplayers : t.players = s.players ++ [p]) (hnow : t.now = s.now)
    (hpending : t.pending = s.pending) (hholds : t.holds = s.holds) (hphase : t.phase = s.phase)
    (hhist : t.fullHistory = s.fullHistory) (hstart : t.started = s.started) : WellFormed t where
  pids := by
    rw [hplayers, List.map_append, List.nodup_append]
    refine ⟨h.pids, List.nodup_singleton _, ?_⟩
    intro a ha b hb
    rw [List.map_singleton, List.mem_singleton] at hb
    obtain ⟨q, hq, rfl⟩ := List.mem_map.1 ha
    rw [hb]
    exact hpid q hq
  players q hq := by
    rw [hnow]
    rw [hplayers, List.mem_append, List.mem_singleton] at hq
    rcases hq with hq | rfl
    · exact h.players q hq
    · exact hp
  pending := hpending ▸ h.pending
  history hl := hphase ▸ h.history (hhist ▸ hl)
  started hl := hphase ▸ h.started (hstart ▸ hl)
  playing hp := hstart ▸ h.playing (hphase ▸ hp)
  holds := hholds ▸ h.holds

/-- The phase may change when nothing has been recorded or the game is
over. -/
theorem of_phase (h : WellFormed s) (hplayers : t.players = s.players) (hnow : t.now = s.now)
    (hpending : t.pending = s.pending) (hholds : HoldsKept s.holds t.holds)
    (hhist : t.fullHistory = s.fullHistory) (hstart : t.started = s.started)
    (hphase : s.phase = .playing ∨ s.phase = .over → t.phase = .playing ∨ t.phase = .over)
    (hplay : t.phase = .playing → s.phase = .playing) : WellFormed t where
  pids := hplayers ▸ h.pids
  players p hp := hnow ▸ h.players p (hplayers ▸ hp)
  pending := hpending ▸ h.pending
  history hl := hphase (h.history (hhist ▸ hl))
  started hl := hphase (h.started (hstart ▸ hl))
  playing hp := hstart ▸ h.playing (hplay hp)
  holds := hholds h.holds

/-- A broadcast of the game's own packets keeps a state well-formed. -/
theorem broadcast (h : WellFormed s) {b : Packet} (hb : b.isW3gs = true) :
    WellFormed (s.broadcast b) := by
  refine h.of_moves (s.moves_broadcast b hb) (by simp) (by simp) (by simp) ?_
    (by simpa using h.started) (by simpa using h.playing)
  rw [broadcast_log, broadcast_phase]
  split
  · rename_i hp
    exact fun _ => .inl hp
  · exact h.history

/-- The same, of a packet that may have been too long to build. -/
theorem broadcast? (h : WellFormed s) {b : Option Packet} (hb : ∀ p ∈ b, p.isW3gs = true) :
    WellFormed (s.broadcast? b) := by
  cases b with
  | none => exact h
  | some b => exact h.broadcast (hb b rfl)

/-- A newcomer with a new id keeps the state well-formed. -/
theorem seated (h : WellFormed s) {p : Player} (hpid : ∀ q ∈ s.players, q.pid ≠ p.pid)
    (hp : Newcomer p) (hplayers : t.players = s.players ++ [p]) (hnow : t.now = s.now)
    (hpending : t.pending = s.pending) (hholds : t.holds = s.holds) (hphase : t.phase = s.phase)
    (hhist : t.fullHistory = s.fullHistory) (hstart : t.started = s.started) : WellFormed t := by
  refine h.of_append hpid ?_ hplayers hnow hpending hholds hphase hhist hstart
  exact ⟨fun hv => absurd hv (by simp [hp.virtualHost]), by simp [hp.gproxy, hp.gproxyBuffer],
    fun hd => absurd hd (by simp [hp.disconnectedSince]),
    fun t ht => absurd ht (by simp [hp.disconnectedSince]), hp.code⟩

/-- The announcement of a newcomer keeps the state well-formed. -/
theorem sendOthersDirect? (h : WellFormed s) (pid : UInt8) (b : Option Packet) :
    WellFormed (s.sendOthersDirect? pid b) := by
  cases b with
  | none => exact h
  | some b => exact h.of_moves (s.moves_greet b pid) rfl rfl rfl h.history h.started h.playing

end WellFormed

/-- What is built from a W3GS packet is one. -/
theorem Packet.build_isW3gs {p : Packet} (h : p.isW3gs = true) :
    ∀ b ∈ p.build, b.isW3gs = true := by
  intro b hb
  rw [build_eq_some hb]
  exact h

/-- A newcomer stays one while packets are sent on its link alone. -/
theorem Newcomer.sendDirect {p : Player} (h : Newcomer p) (b : Packet) :
    Newcomer (p.sendDirect b) := by
  refine ⟨h.virtualHost, h.left, h.gproxy, h.gproxyBuffer, h.disconnectedSince, h.rejoin,
    h.catchupCursor, h.catchingUp, h.lagging, fun e he =>
    ?_, h.reports, h.checksums, h.syncCounter, h.code⟩
  rcases p.link.push_sent_cases ⟨b, .personal⟩ with hs | hs
  · have he' : e ∈ p.link.sent ++ [⟨b, .personal⟩] := hs ▸ he
    rcases List.mem_append.1 he' with he' | he'
    · exact h.sent e he'
    · rw [List.mem_singleton.1 he']
  · exact h.sent e (hs ▸ he)

/-- A newcomer that is sent its packets is one still, under the same id. -/
theorem Newcomer.sendAll {p : Player} (h : Newcomer p) (l : List Packet) :
    Newcomer (l.foldl Player.sendDirect p) ∧ (l.foldl Player.sendDirect p).pid = p.pid := by
  induction l generalizing p with
  | nil => exact ⟨h, rfl⟩
  | cons b l ih => exact ih (h.sendDirect b)

/-- A phase assignment never leads back from a game that has run. -/
theorem PhaseStep.started {ph ph' : GamePhase} (h : PhaseStep ph ph')
    (hs : ph = .playing ∨ ph = .over) : ph' = .playing ∨ ph' = .over := by
  rcases hs with rfl | rfl
  · cases ph' <;> first | exact .inr rfl | exact h.elim
  · cases ph' <;> first | exact .inr rfl | exact h.elim

/-- No phase assignment starts the game. -/
theorem PhaseStep.not_playing {ph ph' : GamePhase} (h : PhaseStep ph ph') (hp : ph' = .playing) :
    ph = .playing := by
  subst hp
  cases ph <;> exact h.elim

/-- A state that differs in nothing that counts is as well-formed. -/
theorem Same.wellFormed {s t : GameState} (h : Same s t) (hs : WellFormed s) : WellFormed t := by
  refine hs.of_phase h.players h.now h.pending h.holds h.fullHistory h.started ?_ ?_
  · rw [h.phase]
    exact id
  · rw [h.phase]
    exact id

/-- Every small step keeps the state well-formed. -/
theorem Step.wellFormed [RustStd] {k : Kind} {s t : GameState} (h : Step k s t)
    (hk : k.fine = true) (hs : WellFormed s) : WellFormed t := by
  cases h with
  | misc h => exact h.wellFormed hs
  | air b hb => exact hs.broadcast (Packet.isW3gs_of_isOrdinary hb)
  | airLag b hb => exact hs.broadcast (Packet.isW3gs_of_isLag hb)
  | reset b hb => exact hs.broadcast (Packet.isW3gs_of_isAction hb)
  | block b hb f =>
      refine WellFormed.broadcast ?_ (Packet.isW3gs_of_isAction hb)
      exact hs.of_phase rfl rfl rfl id rfl rfl id id
  | table _ ps hm => exact hs.of_moves hm rfl rfl rfl hs.history hs.started hs.playing
  | seat sid player hlobby hfree hp _ info _ =>
      obtain ⟨hnew, hpid⟩ := hp.sendAll (s.joinBurst player)
      refine WellFormed.sendOthersDirect? ?_ _ _
      exact hs.seated (by rw [hpid]; exact hfree.fresh) hnew rfl rfl rfl rfl rfl rfl rfl
  | bounce sid pid _ _ => exact hs.of_phase rfl rfl rfl id rfl rfl id id
  | seatFake sid p hlobby _ hfree hp _ info hinfo =>
      refine WellFormed.broadcast? ?_ (hinfo ▸ Packet.build_isW3gs rfl)
      exact hs.seated hfree.fresh hp rfl rfl rfl rfl rfl rfl rfl
  | host pid _ hpid info hinfo =>
      have hair : WellFormed (s.broadcast? info) := hs.broadcast? (hinfo ▸ Packet.build_isW3gs rfl)
      -- the host player is announced before he is seated
      refine hair.of_append (p := hostPlayer pid s.cfg.virtualHostName) ?_ ?_ rfl rfl rfl rfl rfl
        rfl rfl
      · exact broadcast?_pid_ne hpid
      · exact ⟨fun _ => ⟨rfl, rfl, rfl, rfl⟩, by simp [hostPlayer],
          fun hd => absurd hd (by simp [hostPlayer]), fun t ht => (nomatch ht),
          (by decide : leaveLobby < 2 ^ 32)⟩
  | unseat pid r code _ _ _ =>
      refine WellFormed.broadcast ?_ rfl
      exact hs.of_sublist List.eraseP_sublist rfl rfl rfl rfl rfl rfl
  | unhost _ _ =>
      refine WellFormed.broadcast ?_ rfl
      exact hs.of_sublist List.eraseP_sublist rfl rfl rfl rfl rfl rfl
  | unfake pid _ _ =>
      refine WellFormed.broadcast ?_ rfl
      exact hs.of_sublist List.eraseP_sublist rfl rfl rfl rfl rfl rfl
  | slots sl _ => exact hs.of_phase rfl rfl rfl id rfl rfl id id
  | vacate sid status _ => exact hs.of_phase rfl rfl rfl id rfl rfl id id
  | hcl mode => exact hs.of_phase rfl rfl rfl id rfl rfl id id
  | phase ph hph _ => exact hs.of_phase rfl rfl rfl id rfl rfl hph.started hph.not_playing
  | toLoading hph => exact hs.of_phase rfl rfl rfl id rfl rfl hph.started hph.not_playing
  | restart =>
      have hm : List.Forall₂ (Moves s .restart) s.players s.enterPlaying.players := by
        -- everyone is moved, by the same reset
        show List.Forall₂ _ s.players (s.players.map Player.beginPlaying)
        rw [List.forall₂_map_right_iff]
        exact List.forall₂_same.2 fun p _ => .restart
      exact hs.of_moves hm rfl rfl rfl (fun _ => .inl rfl) (fun _ => .inl rfl) (fun _ => rfl)
  | turn elapsed _ => exact hs.of_phase rfl rfl rfl id rfl rfl id id
  | act a _ => exact hs.of_phase rfl rfl rfl id rfl rfl id id
  | cache tokens => exact hs.of_phase rfl rfl rfl id rfl rfl id id
  | refer _ _ _ _ _ _ => exact hs.of_phase rfl rfl rfl id rfl rfl id id
  | limit n _ => exact hs.of_phase rfl rfl rfl id rfl rfl id id
  | queue pending hq =>
      refine ⟨hs.pids, hs.players, fun e he => ?_, hs.history, hs.started, hs.playing,
        hs.holds⟩
      rcases hq e he with h | h
      · exact hs.pending e h
      · exact h
  | clock ms =>
      -- time only makes the moments noted so far lie further back
      exact ⟨hs.pids, fun p hp => (hs.players p hp).later (Nat.le_add_right _ _), hs.pending,
        hs.history, hs.started, hs.playing, hs.holds⟩
  | reap => cases hk
  | begin _ => cases hk
  | loaded _ => cases hk
  | lagCheck => cases hk
  | check => cases hk
  | sendTurn _ _ => cases hk

/-- Every kind of small step, in any state. -/
def anyFine (k : Kind) (_ : GameState) : Prop := k.fine = true

/-- So is what comes of any steps but the tick's own. -/
theorem Does.wellFormed [RustStd] {K : Kind → GameState → Prop} {s t : GameState}
    (h : Does K s t) (hK : ∀ k s, K k s → k.fine = true) (hs : WellFormed s) : WellFormed t :=
  Lib.Path.preserves (fun k _ _ hk hst => hst.wellFormed (hK k _ hk)) h hs

end Spectre

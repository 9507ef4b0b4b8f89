/-
The paths of the engine's building blocks: which kinds of small step
each function is made of.

Kinds that are harmless to every property are `plain` and admitted
throughout; the lemmas ask for the others by name, where they occur.
-/
import Spectre.Steps

namespace Spectre

open GameState

-- ================================================================== the table

/-- An update of the player found by id is a move of the table. -/
theorem moves_modifyPid {s : GameState} {k : Kind} (pid : UInt8) {f : Player → Player}
    (h : ∀ p, s.players.byPid pid = some p → Moves s k p (f p)) :
    List.Forall₂ (Moves s k) s.players (s.players.modifyPid pid f) :=
  Lib.forall₂_updateFirst (fun _ _ => .same) fun p _ _ hfind => h p hfind

/-- An update of the player found by connection is a move of the
table. -/
theorem moves_modifyConn {s : GameState} {k : Kind} (connId : Nat) {f : Player → Player}
    (h : ∀ p, s.players.byConn connId = some p → Moves s k p (f p)) :
    List.Forall₂ (Moves s k) s.players (s.players.modifyConn connId f) :=
  Lib.forall₂_updateFirst (fun _ _ => .same) fun p _ _ hfind => h p hfind

/-- An update of every player is a move of the table. -/
theorem moves_map {s : GameState} {k : Kind} {f : Player → Player}
    (h : ∀ p ∈ s.players, Moves s k p (f p)) :
    List.Forall₂ (Moves s k) s.players (s.players.map f) := by
  rw [List.forall₂_map_right_iff]
  exact List.forall₂_same.2 h

/-- The player found by an id has it. -/
theorem byPid_pid {t : PlayerTable} {pid : UInt8} {p : Player} (h : t.byPid pid = some p) :
    p.pid = pid := by
  have := List.find?_some h
  simpa using this

/-- The player found by a connection is on it. -/
theorem byConn_connId {t : PlayerTable} {connId : Nat} {p : Player}
    (h : t.byConn connId = some p) : p.connId = connId := by
  have := List.find?_some h
  simpa using this

-- ====================================================================== paths

variable [RustStd] {K : Kind → GameState → Prop}

/-- The kinds admitted everywhere. -/
def Kind.plain : Kind → Bool
  | misc | air | tell | note | leave | lagDrop | hail | gproxy | hold | expire | answer
  | level | act | refer | clock | record true | prologue | stats | status => true
  | _ => false

/-- `K` admits every plain kind. -/
def Plain (K : Kind → GameState → Prop) : Prop := ∀ k, k.plain = true → ∀ s, K k s

namespace Does

variable {s t u : GameState}

/-- Nothing is done. -/
protected theorem refl (s : GameState) : Does K s s := Lib.Path.refl s

/-- One thing after the other. -/
protected theorem trans (h₁ : Does K s t) (h₂ : Does K t u) : Does K s u := Lib.Path.trans h₁ h₂

/-- A single step of a kind that is allowed. -/
theorem one {k : Kind} (hk : K k s) (h : Step k s t) : Does K s t := Lib.Path.one hk h

/-- What touches neither the players nor the books of the game. -/
theorem misc (h : Plain K) (hs : Same s t) (hb : t.books = s.books) : Does K s t :=
  one (h .misc rfl s) (.misc hs (.none hb))

/-- A loop whose body is steps of these kinds. -/
theorem foldl {α : Type} {f : GameState → α → GameState} (l : List α)
    (h : ∀ s, ∀ a ∈ l, Does K s (f s a)) (s : GameState) : Does K s (l.foldl f s) :=
  Lib.Path.foldl l h s

end Does

/-- The kinds that move players about and change nothing else of
weight. -/
def Kind.inert : Kind → Bool
  | seat | bounce | seatFake | host | unseat | unhost | unfake | slots | vacate _ | hcl | phase
  | toLoading | restart | turn | queue | cache | limit | reap | begin | loaded _ | lagCheck | check
  | sendTurn => false
  | _ => true

/-- What no inert step touches. -/
structure Framed (s t : GameState) : Prop where
  phase : t.phase = s.phase
  phases : t.phases = s.phases
  slots : t.slots = s.slots
  started : t.started = s.started
  randomSeed : t.randomSeed = s.randomSeed
  virtualHostPid : t.virtualHostPid = s.virtualHostPid
  fakePlayerPid : t.fakePlayerPid = s.fakePlayerPid
  reaped : t.reaped = s.reaped
  syncCounter : t.syncCounter = s.syncCounter
  gameTicks : t.gameTicks = s.gameTicks
  turns : t.turns = s.turns
  pending : t.pending = s.pending
  pendingFull : t.pendingFull = s.pendingFull
  reconnectWait : t.cfg.reconnectWait = s.cfg.reconnectWait
  syncLimit : t.cfg.syncLimit = s.cfg.syncLimit

omit [RustStd] in
/-- What is left alone twice is left alone. -/
protected theorem Framed.trans {s t u : GameState} (h₁ : Framed s t) (h₂ : Framed t u) :
    Framed s u :=
  ⟨h₂.phase.trans h₁.phase, h₂.phases.trans h₁.phases, h₂.slots.trans h₁.slots,
    h₂.started.trans h₁.started, h₂.randomSeed.trans h₁.randomSeed,
    h₂.virtualHostPid.trans h₁.virtualHostPid, h₂.fakePlayerPid.trans h₁.fakePlayerPid,
    h₂.reaped.trans h₁.reaped, h₂.syncCounter.trans h₁.syncCounter,
    h₂.gameTicks.trans h₁.gameTicks, h₂.turns.trans h₁.turns, h₂.pending.trans h₁.pending,
    h₂.pendingFull.trans h₁.pendingFull,
    h₂.reconnectWait.trans h₁.reconnectWait, h₂.syncLimit.trans h₁.syncLimit⟩

/-- Of the inert kinds none touches the frame. -/
theorem Step.framed {k : Kind} {s t : GameState} (h : Step k s t) (hk : k.inert = true) :
    Framed s t := by
  cases h with
  | misc h =>
      exact ⟨h.phase, h.phases, h.slots, h.started, h.randomSeed, h.virtualHostPid, h.fakePlayerPid,
        h.reaped, h.syncCounter, h.gameTicks, h.turns, h.pending, h.pendingFull,
        h.reconnectWait, h.syncLimit⟩
  | air b => constructor <;> simp
  | airLag b => constructor <;> simp
  | reset b => constructor <;> simp
  | block b => constructor <;> simp [sendActionPacket, relayPush, record]
  | seat | bounce | seatFake | host | unseat | unhost | unfake | slots | vacate | hcl | phase
  | toLoading | restart | turn | queue | cache | limit | reap | begin | loaded | lagCheck | check
  | sendTurn => cases hk
  | _ => constructor <;> rfl

/-- The inert steps and no others. -/
def inertOnly (k : Kind) (_ : GameState) : Prop := k.inert = true

omit [RustStd] in
/-- The kinds every command makes use of are inert. -/
theorem plain_inertOnly : Plain inertOnly := by
  intro k hk _
  cases k <;> first | rfl | cases hk

/-- What is made of inert steps leaves the frame alone. -/
theorem Does.framed {s t : GameState} (h : Does inertOnly s t) : Framed s t := by
  refine Lib.Path.relates (R := Framed) (fun s => by constructor <;> rfl) ?_ ?_ h
  · exact fun s t u h₁ h₂ => h₁.trans h₂
  · intro k s t hk hst
    exact hst.framed hk

-- ==================================================================== rosters

omit [RustStd] in
/-- Players that keep their identity make the same roster. -/
theorem roster_of_forall₂ {s t : GameState} (h : List.Forall₂ (fun p q : Player =>
    q.pid = p.pid ∧ q.name = p.name ∧ q.virtualHost = p.virtualHost) s.players t.players) :
    t.startState.roster = s.startState.roster := by
  unfold startState
  dsimp only
  generalize s.players = ps at h ⊢
  generalize t.players = qs at h ⊢
  induction h with
  | nil => rfl
  | @cons p q _ _ hpq _ ih =>
      obtain ⟨hpid, hname, hvh⟩ := hpq
      rw [List.filter_cons, List.filter_cons, hvh]
      split
      · rw [List.map_cons, List.map_cons, ih, hpid, hname]
      · exact ih

omit [RustStd] in
/-- A broadcast may mark a player, but takes nobody off the roster: names
and ids stay. -/
theorem broadcast_roster (s : GameState) (b : Packet) :
    (s.broadcast b).startState.roster = s.startState.roster := by
  refine roster_of_forall₂ ?_
  rw [broadcast_players, List.forall₂_map_right_iff]
  exact List.forall₂_same.2 fun p _ =>
    ⟨(p.kept_hear _ _ _).pid, (p.kept_hear _ _ _).name, (p.kept_hear _ _ _).virtualHost⟩

/-- An inert step keeps the roster. -/
theorem Step.keepsRoster {k : Kind} {s t : GameState} (h : Step k s t) (hk : k.inert = true) :
    t.startState.roster = s.startState.roster := by
  cases h with
  | misc h =>
      unfold startState
      rw [h.players]
  | air b _ | airLag b _ | reset b _ => exact broadcast_roster s b
  | block b _ f => exact broadcast_roster _ b
  | table _ ps hm => exact roster_of_forall₂ (hm.imp fun p q h => h.identity)
  | seat | bounce | seatFake | host | unseat | unhost | unfake | slots | vacate | hcl | phase
  | toLoading | restart | turn | queue | cache | limit | reap | begin | loaded | lagCheck | check
  | sendTurn => cases hk
  | _ => rfl

/-- Inert steps keep what a client starts from. -/
theorem Does.startState {s t : GameState} (h : Does inertOnly s t) :
    t.startState = s.startState := by
  have hroster : t.startState.roster = s.startState.roster :=
    Lib.Path.preserves (I := fun t => t.startState.roster = s.startState.roster)
      (fun _ _ _ hk hst hI => (hst.keepsRoster hk).trans hI) h rfl
  unfold GameState.startState at hroster ⊢
  rw [h.framed.slots, h.framed.randomSeed]
  exact congrArg (StartState.mk _ _) hroster

section Primitives

variable (hK : Plain K) (s : GameState)
include hK

-- ==================================================================== sending

/-- A packet to all that has no meaning of its own. -/
theorem does_air {b : Packet} (hb : b.isOrdinary = true) : Does K s (s.broadcast b) :=
  Does.one (hK .air rfl s) (.air b hb)

/-- The same, of a packet that may have been too long to build. -/
theorem does_broadcast? {b : Option Packet} (hb : ∀ p ∈ b, p.isOrdinary = true) :
    Does K s (s.broadcast? b) := by
  cases b with
  | none => exact Does.refl s
  | some b => exact does_air hK s (hb b rfl)

/-- A packet to one player. -/
theorem does_sendTo (pid : UInt8) {b : Packet} (hb : b.isOrdinary = true) :
    Does K s (s.sendTo pid b) := by
  refine Does.one (hK .tell rfl s) (.table rfl _ (moves_modifyPid pid fun _ _ =>
    .tell b (Packet.isW3gs_of_isOrdinary hb) fun hr => ?_))
  rw [Packet.isRoster_of_isOrdinary hb] at hr
  cases hr

/-- The same, of a packet that may have been too long to build. -/
theorem does_sendTo? (pid : UInt8) {b : Option Packet} (hb : ∀ p ∈ b, p.isOrdinary = true) :
    Does K s (s.sendTo? pid b) := by
  cases b with
  | none => exact Does.refl s
  | some b => exact does_sendTo hK s pid (hb b rfl)

/-- A change that counts nowhere, of the player with an id. -/
theorem does_note_pid (pid : UInt8) {f : Player → Player} (h : ∀ p, Quiet p (f p)) :
    Does K s { s with players := s.players.modifyPid pid f } :=
  Does.one (hK .note rfl s) (.table rfl _ (moves_modifyPid pid fun p _ => .note (h p)))

/-- A change that counts nowhere, of the player on a connection. -/
theorem does_note_conn (connId : Nat) {f : Player → Player} (h : ∀ p, Quiet p (f p)) :
    Does K s { s with players := s.players.modifyConn connId f } :=
  Does.one (hK .note rfl s) (.table rfl _ (moves_modifyConn connId fun p _ => .note (h p)))

/-- A kick is a mark; the desync check marks by a step of its own. -/
theorem does_kickPlayer (pid : UInt8) (r : LeftReason) (code : Nat) (hr : r.decided = true)
    (hne : r ≠ .desync) (hcode : code < 2 ^ 32) : Does K s (s.kickPlayer pid r code) :=
  Does.one (hK .leave rfl s)
    (.table rfl _ (moves_modifyPid pid fun _ _ => .leave r code hr hne hcode))

-- ======================================================================= chat

/-- A text that is cut leaves a warning in the log, nothing else. -/
theorem does_clip (n : Nat) (message : Text) : Does K s (s.clip n message).1 := by
  unfold clip
  split
  · exact Does.misc hK (by constructor <;> rfl) (by rfl)
  · exact Does.refl s

omit hK [RustStd] in
/-- A command without a block or a join for the relay adds nothing to what
it has been given. -/
theorem relayed_relayPush {m : RelayMsg} (hm : m.pushed? = none) :
    (s.relayPush m).relayed = s.relayed := by
  unfold relayed relayPush
  cases s.relay with
  | none => rfl
  | some l => simp [hm]

/-- Such a command is a step of none. -/
theorem does_relayPush {m : RelayMsg} (hm : m.pushed? = none) : Does K s (s.relayPush m) := by
  have hpush := relayed_relayPush s hm
  exact Does.misc hK (by constructor <;> first | rfl | exact hpush) rfl

omit hK [RustStd] in
/-- A record that is no turn, no leaver and no chat leaves the timeline as
it is. -/
theorem timeline_record {f : ReplayBody → ReplayBody} (hf : ∀ r, (f r).timeline = r.timeline) :
    (s.record f).replay.map ReplayBody.timeline = s.replay.map ReplayBody.timeline := by
  show (s.replay.map f).map ReplayBody.timeline = _
  rw [Option.map_map]
  exact congrArg (fun g => s.replay.map g) (funext hf)

omit hK [RustStd] in
/-- What is recorded but no turn leaves the rest as it is. -/
theorem same_record {f : ReplayBody → ReplayBody} (hf : ∀ r, (f r).timeline = r.timeline) :
    Same s (s.record f) := by
  have hline := timeline_record s hf
  constructor <;> first | rfl | exact hline

omit hK [RustStd] in
/-- Chat has no place on the timeline. -/
theorem timeline_addChat (r : ReplayBody) (pid flag : UInt8) (extra : Nat) (m : Text) :
    (r.addChat pid flag extra m).timeline = r.timeline := by
  simp [ReplayBody.timeline, ReplayBody.timeslots, ReplayBody.addChat, ReplayRecord.isTimeslot]

omit hK in
/-- A line of chat goes to the replay, if it fits. -/
theorem does_addChat {fits : Bool} (hk : K (.record fits) s) (pid flag : UInt8) (extra : Nat)
    (m : Text) (hfits : fits = true → (ReplayRecord.chat pid flag extra m).fits = true) :
    Does K s (s.record fun r => r.addChat pid flag extra m) :=
  Does.one hk (.misc (same_record s fun r => timeline_addChat r pid flag extra m)
    (.record fits pid flag extra m hfits rfl))

/-- A command to the store waits in its queue. -/
theorem does_storePush (c : StoreCmd) : Does K s (s.storePush c) :=
  Does.misc hK (by constructor <;> rfl) (by rfl)

omit hK [RustStd] in
/-- What is left of a text that is cut is short enough. -/
theorem clip_length (n : Nat) (message : Text) : (s.clip n message).2.length ≤ n := by
  unfold clip
  split
  · exact List.length_take_le n message
  · rename_i h
    exact Nat.le_of_not_lt h

/-- A line from the host to all, which goes to the replay too. -/
theorem does_sendChatAll (message : Text) : Does K s (s.sendChatAll message) := by
  unfold sendChatAll
  dsimp only
  split
  · exact Does.refl s
  split
  · exact Does.refl s
  refine (does_relayPush hK s (m := .chat s.cfg.virtualHostName message) rfl).trans ?_
  split
  · exact (does_clip hK _ 254 message).trans
      (does_broadcast? hK _ (Outgoing.chatFromHost_isOrdinary _ _ _ _ _))
  · have hlen := clip_length (s.relayPush (.chat s.cfg.virtualHostName message)) 127 message
    refine ((does_clip hK _ 127 message).trans
      (does_addChat _ (hK (.record true) rfl _) s.hostPid 0x20 0 _ fun _ => ?_)).trans
      (does_broadcast? hK _ (Outgoing.chatFromHost_isOrdinary _ _ _ _ _))
    -- a line of the host is cut to 127 bytes
    simp only [ReplayRecord.fits, Bool.and_eq_true, decide_eq_true_eq]
    omega

/-- A line from the host to one player. -/
theorem does_sendChatTo (pid : UInt8) (message : Text) : Does K s (s.sendChatTo pid message) := by
  unfold sendChatTo
  dsimp only
  split
  · exact Does.refl s
  split
  · exact (does_clip hK s 254 message).trans
      (does_sendTo? hK _ pid (Outgoing.chatFromHost_isOrdinary _ _ _ _ _))
  · exact (does_clip hK s 127 message).trans
      (does_sendTo? hK _ pid (Outgoing.chatFromHost_isOrdinary _ _ _ _ _))

/-- The slot table goes to all. -/
theorem does_sendAllSlotInfo : Does K s s.sendAllSlotInfo :=
  does_broadcast? hK s (Packet.build_isOrdinary rfl)

end Primitives

-- =============================================================== virtual host

omit [RustStd] in
/-- A free id is nobody's. -/
theorem nextFreePid_fresh {t : PlayerTable} {pid : UInt8} (h : t.nextFreePid = some pid) :
    ∀ q ∈ t, q.pid ≠ pid := by
  intro q hq hpid
  have hfree := List.find?_some h
  rw [Bool.not_eq_true', List.any_eq_false] at hfree
  exact hfree q hq (by simp [hpid])

omit [RustStd] in
/-- A broadcast does not read the id of the virtual host. -/
theorem broadcast?_host (s : GameState) (pid : UInt8) (b : Option Packet) :
    ({ s with virtualHostPid := pid } : GameState).broadcast? b
      = { s.broadcast? b with virtualHostPid := pid } := by
  cases b with
  | none => rfl
  | some b =>
      dsimp only [broadcast?]
      unfold broadcast
      dsimp only
      split <;> rfl

/-- The virtual host is seated, unless there is one or no id is free. -/
theorem does_createVirtualHost {s : GameState} (hhost : K .host s) :
    Does K s s.createVirtualHost := by
  unfold createVirtualHost
  split
  · exact Does.refl s
  split
  · exact Does.refl s
  rename_i hnone _ pid hfree
  dsimp only
  -- the announcement does not read the new id, so it may as well come first
  rw [broadcast?_host]
  generalize hinfo : (Packet.playerInfo pid s.cfg.virtualHostName Ip.zero Ip.zero).build = info
  exact Does.one hhost
    (Step.host pid (by simpa using hnone) (nextFreePid_fresh hfree) info hinfo.symm)

/-- The virtual host leaves the table of a lobby or of a game that loads. -/
theorem does_deleteVirtualHost {s : GameState} (hu : K .unhost s)
    (hphase : s.phase = .lobby ∨ s.phase = .loading) : Does K s s.deleteVirtualHost := by
  unfold deleteVirtualHost
  split
  · exact Does.refl s
  · rename_i hsome
    exact Does.one hu (.unhost hphase hsome)

-- ============================================================== begin_playing

/-- Who was the fastest to load, and who the slowest, is a line to all. -/
theorem does_announceLoadTimes (hK : Plain K) (s : GameState) (started : Nat) :
    Does K s (s.announceLoadTimes started) := by
  unfold announceLoadTimes
  dsimp only
  split
  · refine Does.trans ?_ (Does.foldl _ (fun s _ _ => does_sendChatTo hK s _ _) _)
    exact Does.trans (does_sendChatAll hK s _) (does_sendChatAll hK _ _)
  · exact Does.foldl _ (fun s _ _ => does_sendChatTo hK s _ _) _

/-- The relay is told that the game begins, and who plays. -/
theorem does_startRelay (hK : Plain K) (s : GameState) : Does K s s.startRelay := by
  unfold startRelay
  dsimp only
  refine Does.trans (does_relayPush hK s rfl) (Does.foldl _ (fun s p _ => ?_) _)
  split
  · exact does_relayPush hK s rfl
  · exact does_relayPush hK s rfl

omit [RustStd] in
/-- The header data of the replay is no turn. -/
theorem timeline_startReplay (r : ReplayBody) (pid : UInt8) (name : Text) (humans : List Player)
    (slots : List UInt8) (seed : UInt32) (mode spots : UInt8) :
    ((humans.foldl (fun r p => r.addPlayer p.pid p.name) (r.setHost pid name)).setStart slots seed
      mode spots).timeline = r.timeline := by
  have hplayers : ∀ r : ReplayBody,
      (humans.foldl (fun r p => r.addPlayer p.pid p.name) r).timeline = r.timeline := by
    induction humans with
    | nil => exact fun _ => rfl
    | cons p l ih =>
        intro r
        rw [List.foldl_cons, ih]
        unfold ReplayBody.addPlayer
        split <;> rfl
  have hstart : ∀ r : ReplayBody, (r.setStart slots seed mode spots).timeline = r.timeline := by
    intro r
    unfold ReplayBody.setStart
    split <;> rfl
  rw [hstart, hplayers]
  rfl

/-- The replay begins with the state of the start. -/
theorem does_startReplay (hK : Plain K) (s : GameState) (h : s.started = some s.startState) :
    Does K s s.startReplay :=
  Does.one (hK .prologue rfl s)
    (.misc (same_record s fun r => timeline_startReplay r _ _ _ _ _ _ _) (.prologue h))

omit [RustStd] in
/-- What the clients start from is what `begin_playing` leaves. -/
theorem enterPlaying_started (s : GameState) :
    s.enterPlaying.started = some s.enterPlaying.startState := by
  have hroster : s.enterPlaying.startState.roster = s.startState.roster := by
    refine roster_of_forall₂ ?_
    show List.Forall₂ _ s.players (s.players.map Player.beginPlaying)
    rw [List.forall₂_map_right_iff]
    exact List.forall₂_same.2 fun p _ => ⟨rfl, rfl, rfl⟩
  show some s.startState = some s.enterPlaying.startState
  unfold startState at hroster ⊢
  exact congrArg some (congrArg (StartState.mk _ _) hroster.symm)

/-- The announcements of `begin_playing`. -/
theorem does_announceStart (hK : Plain K) (s : GameState) :
    Does K s.enterPlaying s.beginPlaying := by
  have henter := enterPlaying_started s
  unfold beginPlaying
  dsimp only
  split
  · rename_i started _
    have hinert := does_announceLoadTimes plain_inertOnly s.enterPlaying started
    have hstart : (s.enterPlaying.announceLoadTimes started).started
        = some (s.enterPlaying.announceLoadTimes started).startState := by
      rw [hinert.framed.started, hinert.startState, henter]
    exact ((does_announceLoadTimes hK _ _).trans (does_startReplay hK _ hstart)).trans
      (does_startRelay hK _)
  · exact (does_startReplay hK _ henter).trans (does_startRelay hK _)

/-- The game begins: everything it does is a restart and what every command
may do. -/
theorem does_beginPlaying (hK : Plain K) {s : GameState} (hr : K .restart s) :
    Does K s s.beginPlaying :=
  (Does.one hr .restart).trans (does_announceStart hK s)

/-- Afterwards the game runs. -/
@[simp] theorem beginPlaying_phase (s : GameState) : s.beginPlaying.phase = .playing :=
  (does_announceStart plain_inertOnly s).framed.phase

-- ======================================================= reap_left_players

/-- A player with this id is marked left and can be reaped. -/
def Marked (s : GameState) (pid : UInt8) : Prop :=
  ∃ p ∈ s.players, p.pid = pid ∧ p.left.isSome ∧ p.virtualHost = false

omit [RustStd] in
/-- Who is marked hears nothing. -/
theorem hear_of_left {p : Player} (h : p.left.isSome) (now : Nat) (b : Packet) (seq : Option Nat) :
    p.hear now b seq = p := by
  simp [Player.hear, h]

omit [RustStd] in
/-- A broadcast takes no mark back. -/
theorem Marked.broadcast {s : GameState} {pid : UInt8} (h : Marked s pid) (b : Packet) :
    Marked (s.broadcast b) pid := by
  obtain ⟨p, hp, hpid, hleft, hvh⟩ := h
  refine ⟨p, ?_, hpid, hleft, hvh⟩
  rw [broadcast_players, List.mem_map]
  exact ⟨p, hp, hear_of_left hleft _ _ _⟩

omit [RustStd] in
/-- Nor does one of a packet that may have been too long. -/
theorem Marked.broadcast? {s : GameState} {pid : UInt8} (h : Marked s pid) (b : Option Packet) :
    Marked (s.broadcast? b) pid := by
  cases b with
  | none => exact h
  | some b => exact h.broadcast b

omit [RustStd] in
/-- A mark is a matter of the players alone. -/
theorem Marked.of_players {s t : GameState} {pid : UInt8} (h : Marked s pid)
    (ht : t.players = s.players) : Marked t pid := by
  unfold Marked
  rw [ht]
  exact h

omit [RustStd] in
/-- Cutting a text does not touch the players. -/
theorem clip_players (s : GameState) (n : Nat) (m : Text) : (s.clip n m).1.players = s.players := by
  unfold clip
  split <;> rfl

omit [RustStd] in
/-- A line to all takes no mark back. -/
theorem Marked.sendChatAll {s : GameState} {pid : UInt8} (h : Marked s pid) (m : Text) :
    Marked (s.sendChatAll m) pid := by
  unfold GameState.sendChatAll
  dsimp only
  split
  · exact h
  split
  · exact h
  split
  · refine Marked.broadcast? (h.of_players ?_) _
    rw [clip_players]
    rfl
  · refine Marked.broadcast? (h.of_players ?_) _
    show (GameState.clip _ _ _).1.players = _
    rw [clip_players]
    rfl

omit [RustStd] in
/-- With distinct ids the lookup finds the marked player. -/
theorem Marked.byPid {s : GameState} {pid : UInt8} (h : Marked s pid) (hs : WellFormed s) :
    ∃ p r, s.players.byPid pid = some p ∧ p.left = some r ∧ p.virtualHost = false := by
  obtain ⟨p, hp, rfl, hleft, hvh⟩ := h
  obtain ⟨r, hr⟩ := Option.isSome_iff_exists.1 hleft
  exact ⟨p, r, Lib.find?_key_of_mem hs.pids hp, hr, hvh⟩

omit [RustStd] in
/-- The state in which the reaper has removed a player and said so. -/
theorem reapPlayer_eq {s : GameState} {pid : UInt8} (code : Nat) {p : Player} {r : LeftReason}
    (hfind : s.players.byPid pid = some p) (hleft : p.left = some r) :
    ∃ t : GameState, Same s t
      ∧ t.books = (s.replay.map fun r => if s.phase = .loading then
          r.addLeaverLoading pid 1 code else r.addLeaver pid 1 code,
        s.dota, s.cfg.hostCounter, s.events)
      ∧ s.reapPlayer pid code =
        (let u := { t with
            players := t.players.removePid pid, slots := (t.slots.release pid).1
            reaped := t.reaped ++ [(pid, r)] }.broadcast (.playerLeaveOthers pid code)
         if u.phase = .lobby then u.sendAllSlotInfo else u) := by
  refine ⟨{ s with
    lastPlayerLeft := some (p.name, p.externalIp.dotted)
    replay := s.replay.map fun r =>
      if s.phase = .loading then r.addLeaverLoading pid 1 code else r.addLeaver pid 1 code },
    ?_, rfl, ?_⟩
  · have hline := timeline_record s (f := fun r =>
      if s.phase = .loading then r.addLeaverLoading pid 1 code else r.addLeaver pid 1 code)
      fun r => by
        split
        · rfl
        · simp [ReplayBody.timeline, ReplayBody.timeslots, ReplayBody.addLeaver,
            ReplayRecord.isTimeslot]
    constructor <;> first | rfl | exact hline
  simp only [reapPlayer, hfind, hleft]
  rfl

omit [RustStd] in
/-- Reaping a marked player keeps the state well-formed. -/
theorem WellFormed.reapPlayer {s : GameState} {pid : UInt8} (hs : WellFormed s) (hm : Marked s pid)
    (code : Nat) : WellFormed (s.reapPlayer pid code) := by
  obtain ⟨p, r, hfind, hleft, -⟩ := hm.byPid hs
  obtain ⟨t, hsame, -, he⟩ := reapPlayer_eq code hfind hleft
  rw [he]
  have hgone : WellFormed ({ t with
      players := t.players.removePid pid, slots := (t.slots.release pid).1
      reaped := t.reaped ++ [(pid, r)] }.broadcast (.playerLeaveOthers pid code)) := by
    refine WellFormed.broadcast ?_ rfl
    exact (hsame.wellFormed hs).of_sublist List.eraseP_sublist rfl rfl rfl rfl rfl rfl
  dsimp only
  split
  · exact hgone.broadcast? (Packet.build_isW3gs rfl)
  · exact hgone

/-- A marked player is reaped: the others are told, the slot is freed, the
seat is gone. -/
theorem does_reapPlayer (hK : Plain K) (hl : ∀ t, K .leaver t) (hu : ∀ t, K .unseat t)
    {s : GameState} {pid : UInt8} {code : Nat} (hcode : code < 2 ^ 32) (hs : WellFormed s)
    (hm : Marked s pid) : Does K s (s.reapPlayer pid code) := by
  obtain ⟨p, r, hfind, hleft, hvh⟩ := hm.byPid hs
  obtain ⟨t, hsame, hbooks, he⟩ := reapPlayer_eq code hfind hleft
  rw [he]
  have hbooked : Booked .leaver s t := by
    refine .leaver p code (List.mem_of_find?_eq_some hfind) (by rw [hleft]; rfl) hvh hcode ?_
    rw [byPid_pid hfind]
    exact hbooks
  refine (Does.one (hl s) (.misc hsame hbooked)).trans ?_
  have hone := Does.one (hu t) (Step.unseat (s := t) pid r code (hsame.players ▸ hfind) hleft hvh)
  dsimp only
  split
  · exact hone.trans (does_sendAllSlotInfo hK _)
  · exact hone

omit [RustStd] in
/-- Reaping one player leaves the others marked. -/
theorem Marked.reapPlayer {s : GameState} {pid q : UInt8} {code : Nat} (hs : WellFormed s)
    (hm : Marked s pid) (hq : Marked s q) (hne : q ≠ pid) : Marked (s.reapPlayer pid code) q := by
  obtain ⟨p, r, hfind, hleft, -⟩ := hm.byPid hs
  obtain ⟨t, hsame, -, he⟩ := reapPlayer_eq code hfind hleft
  rw [he]
  have hkeep : Marked ({ t with
      players := t.players.removePid pid, slots := (t.slots.release pid).1
      reaped := t.reaped ++ [(pid, r)] }.broadcast (.playerLeaveOthers pid code)) q := by
    refine Marked.broadcast ?_ _
    obtain ⟨p', hp', hpid', hrest⟩ := hq
    refine ⟨p', ?_, hpid', hrest⟩
    show p' ∈ List.eraseP _ t.players
    rw [hsame.players]
    exact (List.mem_eraseP_of_neg (by simp [hpid', hne])).2 hp'
  dsimp only
  split
  · exact hkeep.broadcast? _
  · exact hkeep

/-- The reaping loop, over players that are all still marked. -/
theorem does_reapLoop (hK : Plain K) (hfine : ∀ k s, K k s → k.fine = true)
    (hl : ∀ t, K .leaver t) (hu : ∀ t, K .unseat t)
    (l : List (UInt8 × Nat)) (hnd : (l.map Prod.fst).Nodup) (hcode : ∀ g ∈ l, g.2 < 2 ^ 32)
    {s : GameState} (hs : WellFormed s) (hm : ∀ g ∈ l, Marked s g.1) :
    Does K s (l.foldl (fun s g => s.reapPlayer g.1 g.2) s) := by
  induction l generalizing s with
  | nil => exact Does.refl s
  | cons g l ih =>
      rw [List.map_cons, List.nodup_cons] at hnd
      have hg := hm g List.mem_cons_self
      have hone := does_reapPlayer hK hl hu (hcode g List.mem_cons_self) hs hg
      refine hone.trans (ih hnd.2 (fun g' hg' => hcode g' (List.mem_cons_of_mem _ hg'))
        (hone.wellFormed hfine hs) ?_)
      intro g' hg'
      refine hg.reapPlayer hs (hm g' (List.mem_cons_of_mem _ hg')) ?_
      intro he
      exact hnd.1 (he ▸ List.mem_map_of_mem hg')

/-- A countdown that is called off is back in the lobby. -/
theorem does_abortCountdown (hK : Plain K) (hphase : ∀ t, K .phase t) (s : GameState) :
    Does K s s.abortCountdown := by
  unfold abortCountdown
  split
  · rename_i hph
    have hstep : PhaseStep s.phase .lobby := by
      rw [hph]
      trivial
    exact (Does.one (hphase s) (.phase .lobby hstep (by simp))).trans
      (does_sendChatAll hK _ _)
  · exact Does.refl s

omit [RustStd] in
/-- Calling it off takes no mark back. -/
theorem Marked.abortCountdown {s : GameState} {pid : UInt8} (h : Marked s pid) :
    Marked s.abortCountdown pid := by
  unfold GameState.abortCountdown
  split
  · have hset : Marked (s.setPhase .lobby) pid := h.of_players rfl
    exact hset.sendChatAll _
  · exact h

omit [RustStd] in
/-- Everyone on the reaper's list is marked, once each. -/
theorem gone_marked {s : GameState} (hs : WellFormed s) :
    (s.gone.map Prod.fst).Nodup ∧ ∀ g ∈ s.gone, Marked s g.1 := by
  constructor
  · unfold gone
    rw [List.map_map]
    exact hs.pids.sublist (List.filter_sublist.map _)
  · intro g hg
    unfold gone at hg
    obtain ⟨p, hp, rfl⟩ := List.mem_map.1 hg
    rw [List.mem_filter, Bool.and_eq_true, Bool.not_eq_true'] at hp
    exact ⟨p, hp.1, rfl, hp.2.2, hp.2.1⟩

omit [RustStd] in
/-- Every leave code on the list fits its field. -/
theorem gone_code {s : GameState} (hs : WellFormed s) : ∀ g ∈ s.gone, g.2 < 2 ^ 32 := by
  intro g hg
  unfold gone at hg
  obtain ⟨p, hp, rfl⟩ := List.mem_map.1 hg
  exact (hs.players p (List.mem_of_mem_filter hp)).code

/-- The reaper, as fine steps. -/
theorem does_reapFine (hK : Plain K) (hfine : ∀ k s, K k s → k.fine = true)
    (hphase : ∀ t, K .phase t) (hl : ∀ t, K .leaver t) (hu : ∀ t, K .unseat t)
    (hr : ∀ t, t.phase = .loading → K .restart t) {s : GameState} (hs : WellFormed s) :
    Does K s s.reapLeftPlayers := by
  unfold reapLeftPlayers
  dsimp only
  split
  · exact Does.refl s
  obtain ⟨hnd, hm⟩ := gone_marked hs
  have habort := (does_abortCountdown hK hphase s).trans
    (Does.misc hK (t := { s.abortCountdown with lastPlayerLeftTime := some s.abortCountdown.now })
      (by constructor <;> rfl) (by rfl))
  have hloop := does_reapLoop hK hfine hl hu s.gone hnd (gone_code hs) (habort.wellFormed hfine hs)
    (fun g hg => (hm g hg).abortCountdown.of_players rfl)
  split
  · rename_i hload
    exact (habort.trans hloop).trans (does_beginPlaying hK (hr _ hload.1))
  · exact habort.trans hloop

/-- The reaper, as admitted steps. -/
theorem does_reapLeftPlayers (hK : Plain K) (hphase : ∀ t, K .phase t) (hl : ∀ t, K .leaver t)
    (hu : ∀ t, K .unseat t) (hr : ∀ t, t.phase = .loading → K .restart t) {s : GameState}
    (hs : WellFormed s) :
    Does K s s.reapLeftPlayers := by
  have hplain : Plain fun k t => K k t ∧ k.fine = true := by
    intro k hk t
    exact ⟨hK k hk t, by cases k <;> first | rfl | cases hk⟩
  have hfine := does_reapFine hplain (fun _ _ h => h.2) (fun t => ⟨hphase t, rfl⟩)
    (fun t => ⟨hl t, rfl⟩) (fun t => ⟨hu t, rfl⟩) (fun t ht => ⟨hr t ht, rfl⟩) hs
  exact Lib.Path.mono (fun _ _ h => h.1) hfine

-- ================================================= loading and fake players

omit [RustStd] in
/-- A personal send does not change the rejoin stage of anyone. -/
theorem byPid_sendTo_rejoin (s : GameState) (pid q : UInt8) (b : Packet) :
    ((s.sendTo pid b).players.byPid q).map Player.rejoin
      = (s.players.byPid q).map Player.rejoin := by
  have hm : List.Forall₂ (fun x y : Player => y.pid = x.pid ∧ y.rejoin = x.rejoin)
      s.players (s.sendTo pid b).players := by
    refine Lib.forall₂_updateFirst (fun _ _ => ⟨rfl, rfl⟩) fun x _ _ _ => ?_
    exact ⟨(x.kept_receive _ _).pid, (x.kept_receive _ _).rejoin⟩
  exact Lib.find?_map_of_forall₂ hm (fun x y h => by rw [h.1]) fun x y h => h.2

omit [RustStd] in
/-- Packets to one player change nobody's state of rejoining. -/
theorem byPid_tellAll_rejoin (s : GameState) (pid q : UInt8) (l : List Packet) :
    ((l.foldl (fun s b => s.sendTo pid b) s).players.byPid q).map Player.rejoin
      = (s.players.byPid q).map Player.rejoin := by
  induction l generalizing s with
  | nil => rfl
  | cons b l ih => rw [List.foldl_cons, ih, byPid_sendTo_rejoin]

/-- The last step of a rejoin arms the cursor, or finds the history too
long. -/
theorem does_finishRejoin (hK : Plain K) (harm : ∀ t, K .arm t) (hlong : ∀ t, K .tooLong t)
    {s : GameState} {pid : UInt8}
    (h : (s.players.byPid pid).map Player.rejoin = some .awaitingLoaded) :
    Does K s (s.finishRejoin pid) := by
  unfold finishRejoin
  dsimp only
  split
  · refine Does.one (hlong s) (.table rfl _ (moves_modifyPid pid fun p hp => .tooLong ?_))
    rw [hp] at h
    exact Option.some.inj h
  rename_i hseq
  rw [show s.fullHistory.firstSeq = 0 by omega]
  refine Does.trans ?_ (does_air hK _ rfl)
  rw [← List.foldl_map (f := Packet.gameLoadedOthers) (g := fun s b => GameState.sendTo s pid b)]
  have htold : ∀ l : List UInt8,
      Does K s ((l.map Packet.gameLoadedOthers).foldl (fun s b => s.sendTo pid b) s) := by
    refine fun l => Does.foldl _ (fun s b hb => does_sendTo hK s pid ?_) s
    obtain ⟨o, -, rfl⟩ := List.mem_map.1 hb
    rfl
  refine Does.trans (htold _)
    (Does.one (harm _) (.table rfl _ (moves_modifyPid pid fun p hp => .arm ?_)))
  have hkeep := byPid_tellAll_rejoin s pid pid
    (((s.players.filter fun q => q.pid != pid && !q.virtualHost && q.left.isNone).map
      Player.pid).map Packet.gameLoadedOthers)
  rw [hp, h] at hkeep
  exact Option.some.inj hkeep

/-- A player that has loaded is marked so, and all are told. -/
theorem does_markLoaded (hK : Plain K) (hload : ∀ t, K .load t) (s : GameState) (pid : UInt8) :
    Does K s (s.markLoaded pid) :=
  (Does.one (hload s) (.table rfl _ (moves_modifyPid pid fun _ _ => .load (some s.now)))).trans
    (does_air hK _ rfl)

/-- A load frame, as fine steps. -/
theorem does_handleLoaded (hK : Plain K) (harm : ∀ t, K .arm t) (hlong : ∀ t, K .tooLong t)
    (hload : ∀ t, K .load t) {s : GameState} {connId : Nat}
    (hr : ∀ q, s.players.byConn connId = some q →
      (s.players.byPid q.pid).map Player.rejoin ≠ some .awaitingLoaded →
      (s.markLoaded q.pid).players.all Player.loaded = true → K .restart (s.markLoaded q.pid)) :
    Does K s (s.handleLoaded connId) := by
  unfold handleLoaded
  split
  · exact Does.refl s
  rename_i q hq
  split
  · rename_i h
    exact does_finishRejoin hK harm hlong h
  rename_i h
  have hmark := does_markLoaded hK hload s q.pid
  dsimp only
  split
  · rename_i hall
    exact hmark.trans (does_beginPlaying hK (hr q hq h hall))
  · exact hmark

omit [RustStd] in
/-- A broadcast changes no phase. -/
@[simp] theorem broadcast?_phase (s : GameState) (b : Option Packet) :
    (s.broadcast? b).phase = s.phase := by
  cases b with
  | none => rfl
  | some b => exact broadcast_phase s b

omit [RustStd] in
/-- Nor the id of the virtual host. -/
@[simp] theorem broadcast?_virtualHostPid (s : GameState) (b : Option Packet) :
    (s.broadcast? b).virtualHostPid = s.virtualHostPid := by
  cases b with
  | none => rfl
  | some b => exact broadcast_virtualHostPid s b

omit [RustStd] in
/-- The command string changes no phase. -/
theorem applyHcl_phase (s : GameState) : s.applyHcl.phase = s.phase := by
  unfold applyHcl
  split
  · dsimp only
    split
    · exact broadcast?_phase _ _
    · rfl
  · rfl

/-- What is known of the state in which the virtual host is deleted. -/
structure SameHost (s t : GameState) : Prop where
  virtualHostPid : t.virtualHostPid = s.virtualHostPid
  fakePlayerPid : t.fakePlayerPid = s.fakePlayerPid
  referred : t.referred = s.referred

omit [RustStd] in
/-- A broadcast leaves the virtual host where it is. -/
theorem broadcast?_sameHost (s : GameState) (b : Option Packet) : SameHost s (s.broadcast? b) := by
  cases b with
  | none => exact ⟨rfl, rfl, rfl⟩
  | some b =>
      exact ⟨broadcast_virtualHostPid s b, broadcast_fakePlayerPid s b, broadcast_referred s b⟩

omit [RustStd] in
/-- So does the command string. -/
theorem applyHcl_sameHost (s : GameState) : SameHost s s.applyHcl := by
  unfold applyHcl
  split
  · dsimp only
    split
    · rename_i hcl _ _
      have h := broadcast?_sameHost (s.setSlots (Hcl.encodeHclIntoSlots hcl s.slots).1)
        (Packet.slotInfo (Hcl.encodeHclIntoSlots hcl s.slots).1 s.randomSeed s.cfg.map.layoutStyle
          s.cfg.map.numPlayers).build
      exact ⟨h.virtualHostPid, h.fakePlayerPid, h.referred⟩
    · exact ⟨rfl, rfl, rfl⟩
  · exact ⟨rfl, rfl, rfl⟩

omit [RustStd] in
/-- The virtual host leaves in the phase it is in. -/
theorem deleteVirtualHost_phase (s : GameState) : s.deleteVirtualHost.phase = s.phase := by
  unfold deleteVirtualHost
  split
  · rfl
  · exact broadcast_phase _ _

omit [RustStd] in
/-- A fake player that has loaded changes no phase. -/
theorem loadFakePlayer_phase (s : GameState) : s.loadFakePlayer.phase = s.phase := by
  unfold loadFakePlayer
  split
  · exact broadcast_phase _ _
  · rfl

/-- The command string is written into the handicaps. -/
theorem does_applyHcl (hK : Plain K) {s : GameState} (hhcl : K .hcl s) :
    Does K s s.applyHcl := by
  unfold applyHcl
  split
  · dsimp only
    split
    · exact (Does.one hhcl (.hcl _)).trans (does_sendAllSlotInfo hK _)
    · exact Does.one hhcl (.hcl _)
  · exact Does.refl s

/-- The fake player, if there is one, has loaded at once. -/
theorem does_loadFakePlayer (hK : Plain K) {s : GameState} (hload : K .load s) :
    Does K s s.loadFakePlayer := by
  unfold loadFakePlayer
  split
  · refine Does.trans (Does.one hload (.table rfl _ (moves_modifyPid _ fun p _ => ?_)))
      (does_air hK _ rfl)
    exact .load p.finishedLoadingAt
  · exact Does.refl s

omit [RustStd] in
/-- Afterwards the game loads. -/
theorem enterLoading_phase (s : GameState) : s.enterLoading.phase = .loading := by
  unfold enterLoading
  dsimp only
  rw [loadFakePlayer_phase, broadcast_phase, deleteVirtualHost_phase, broadcast_phase,
    applyHcl_phase]
  rfl

/-- Loading begins: the phase, the command string, the virtual host and the
fake player, in this order. -/
theorem does_enterLoading (hK : Plain K) {s : GameState} (hto : K .toLoading s)
    (hhcl : ∀ t, t.started = s.started → K .hcl t)
    (hunhost : ∀ t, SameHost s t → t.phase = .loading → K .unhost t) (hload : ∀ t, K .load t)
    (hph : PhaseStep s.phase .loading) : Does K s s.enterLoading := by
  unfold enterLoading
  dsimp only
  generalize hs₁ : ({ s.setPhase .loading with
    startedLoadingAt := some s.now, startPlayers := s.players.humanCount } : GameState) = s₁
  generalize hs₂ : s₁.applyHcl.broadcast .countdownStart = s₂
  have hphase₁ : s₁.phase = .loading := by
    rw [← hs₁]
    rfl
  have hphase₂ : s₂.phase = .loading := by rw [← hs₂, broadcast_phase, applyHcl_phase, hphase₁]
  have hhost₂ : SameHost s s₂ := by
    have h := applyHcl_sameHost s₁
    rw [← hs₂]
    refine ⟨?_, ?_, ?_⟩
    · rw [broadcast_virtualHostPid, h.virtualHostPid, ← hs₁]
      rfl
    · rw [broadcast_fakePlayerPid, h.fakePlayerPid, ← hs₁]
      rfl
    · rw [broadcast_referred, h.referred, ← hs₁]
      rfl
  have h₁ : Does K s s₁ := by
    rw [← hs₁]
    exact (Does.one hto (.toLoading hph)).trans (Does.misc hK (by constructor <;> rfl) (by rfl))
  have h₂ : Does K s₁ s₂ := by
    rw [← hs₂]
    refine (does_applyHcl hK (hhcl _ ?_)).trans (does_air hK _ rfl)
    rw [← hs₁]
    rfl
  have h₃ : Does K s₂ (s₂.deleteVirtualHost.broadcast .countdownEnd).loadFakePlayer := by
    refine Does.trans ?_ (does_loadFakePlayer hK (hload _))
    exact (does_deleteVirtualHost (hunhost _ hhost₂ hphase₂) (.inr hphase₂)).trans
      (does_air hK _ rfl)
  exact (h₁.trans h₂).trans h₃

/-- The start of loading, as fine steps. -/
theorem does_beginLoading (hK : Plain K) {s : GameState} (hto : K .toLoading s)
    (hhcl : ∀ t, t.started = s.started → K .hcl t)
    (hunhost : ∀ t, SameHost s t → t.phase = .loading → K .unhost t) (hload : ∀ t, K .load t)
    (hr : ∀ t, t.phase = .loading → K .restart t) (hph : PhaseStep s.phase .loading) :
    Does K s s.beginLoading := by
  have henter := does_enterLoading hK hto hhcl hunhost hload hph
  unfold beginLoading
  dsimp only
  split
  · exact henter.trans (does_beginPlaying hK (hr _ (enterLoading_phase s)))
  · exact henter

omit [RustStd] in
/-- The first open slot is open, if its index is a slot id. -/
theorem firstOpen_isOpen {t : SlotTable} {sid : UInt8} (h : t.firstOpen = some sid)
    (hlen : t.length ≤ 256) : t.isOpen sid = true := by
  obtain ⟨i, hi, rfl⟩ := Option.map_eq_some_iff.1 h
  obtain ⟨hlt, hp, -⟩ := List.findIdx?_eq_some_iff_getElem.1 hi
  have hidx : i.toUInt8.toNat = i := by
    rw [Nat.toUInt8_eq, UInt8.toNat_ofNat']
    omega
  unfold SlotTable.isOpen
  rw [hidx, List.getElem?_eq_getElem hlt]
  exact hp

omit [RustStd] in
/-- A free id is not 0. -/
theorem nextFreePid_pos {t : PlayerTable} {pid : UInt8} (h : t.nextFreePid = some pid) :
    pid ≠ 0 := by
  have hmem := List.mem_of_find?_eq_some h
  rintro rfl
  revert hmem
  decide +kernel

/-- A fake player is seated or unseated, in the lobby only. -/
theorem does_toggleFakePlayer (hK : Plain K) {s : GameState}
    (hseat : s.phase = .lobby → K .seatFake s) (hunfake : s.phase = .lobby → K .unfake s)
    (link : PlayerLink) (hlink : link.sent = []) : Does K s (s.toggleFakePlayer link).1 := by
  unfold toggleFakePlayer
  split
  · exact Does.refl s
  rename_i hphase
  have hlobby : s.phase = .lobby := by simpa using hphase
  split
  · rename_i fpid hfake
    exact (Does.one (hunfake hlobby) (.unfake fpid hlobby hfake)).trans (does_sendAllSlotInfo hK _)
  rename_i hnone
  split
  · rename_i fpid slotIdx hfree hopen
    dsimp only
    generalize txt "FakePlayer" = name
    generalize hinfo : (Packet.playerInfo fpid name Ip.zero Ip.zero).build = info
    refine Does.trans ?_ (does_sendAllSlotInfo hK _)
    refine Does.one (hseat hlobby) (Step.seatFake slotIdx
      { pid := fpid, name := name, connId := 0, link := link, loaded := true }
      hlobby hnone ?_ ?_ hlink info hinfo.symm)
    · exact ⟨nextFreePid_fresh hfree, nextFreePid_pos hfree, firstOpen_isOpen hopen⟩
    · exact ⟨rfl, rfl, rfl, rfl, rfl, rfl, rfl, rfl, rfl, fun e he => absurd he (by simp [hlink]),
        rfl, rfl, rfl, (by decide : leaveLobby < 2 ^ 32)⟩
  · exact Does.refl s

end Spectre

/-
The way of a frame to its game (`supervisor.rs`, `handle.rs`, and the
reader of `conn.rs`).

The reader task of a connection decodes a frame and waits until the
supervisor's event queue takes it. The supervisor looks the connection
up and hands the frame to the command queue of its game, which takes it
or does not; the game's task handles its commands one by one. A reader
waits, so nothing is lost before the supervisor; nobody waits for a
game.

# The schedule

A run is a list of actions, one for each thing a task may do next. An
action whose task would have to wait does nothing, so every list is a
run, and all runs together are all schedules.

# What is kept besides the queues

`decoded` is what the reader of a connection decoded, `passed` what the
supervisor took from it off the queue, each with the game whose command
queue took it, and `handled` the commands a game has handled.
-/
import Mathlib.Logic.Function.Basic
import Spectre.Desync

namespace Spectre

-- =================================================================== the queues

deriving instance DecidableEq for AnyFrame

/-- `ConnEventKind`; a closed connection with its reason as it is
printed. -/
inductive ConnEventKind where
  | frame (f : AnyFrame)
  | closed (reason : Text)
deriving DecidableEq

/-- `ConnEvent`. -/
structure ConnEvent where
  connId : Nat
  kind : ConnEventKind

/-- What it tells of a connection. -/
def ConnEvent.from? (connId : Nat) (ev : ConnEvent) : Option ConnEventKind :=
  if ev.connId = connId then some ev.kind else none

/-- `GameCmd::Conn`. -/
def ConnEvent.cmd (ev : ConnEvent) : GameCmd :=
  match ev.kind with
  | .frame f => .frame ev.connId f
  | .closed reason => .closed ev.connId reason

/-- What a command tells of a connection. -/
def GameCmd.from? (connId : Nat) : GameCmd → Option ConnEventKind
  | frame c f => if c = connId then some (.frame f) else none
  | closed c reason => if c = connId then some (.closed reason) else none
  | _ => none

/-- Not `GameCmd::Conn`. -/
def GameCmd.isOther : GameCmd → Bool
  | frame .. | closed .. => false
  | _ => true

/-- The capacity of the supervisor's event queue. -/
def eventCapacity : Nat := 1024

/-- The capacity of the queue of adoption notices. -/
def noticeCapacity : Nat := 64

/-- `CMD_CAPACITY`. -/
def cmdCapacity : Nat := 4096

/-- The readers, the supervisor and the games. -/
structure Routing where
  waiting : Nat → Option ConnEventKind
  events : List ConnEvent
  notices : List (Nat × Nat)
  connToGame : Nat → Option Nat
  mailbox : Nat → List GameCmd
  running : Nat → Bool
  state : Nat → GameState
  decoded : Nat → List ConnEventKind
  passed : Nat → List (ConnEventKind × Option Nat)
  handled : Nat → List GameCmd

/-- What may happen next: a reader decodes, or gets its event into the
queue; a new connection is accepted for a game, a game that adopted one
is announced, or the announcement is read; an event is routed; a command
is sent to a game; a game handles a command, or its clock goes on. -/
inductive RoutingAction where
  | decode (connId : Nat) (k : ConnEventKind)
  | queue (connId : Nat)
  | accept (connId game : Nat) (link : PlayerLink) (externalIp : Ip)
  | announce (connId game : Nat)
  | adopt
  | route
  | send (game : Nat) (c : GameCmd)
  | handle (game : Nat) (env : Env)
  | clock (game : Nat) (ev : Event)

/-- A command tells what its event did. -/
theorem ConnEvent.cmd_from? (ev : ConnEvent) (connId : Nat) :
    ev.cmd.from? connId = ev.from? connId := by
  unfold ConnEvent.cmd ConnEvent.from?
  cases ev.kind with
  | frame f => rfl
  | closed reason => rfl

/-- Other commands tell nothing of a connection. -/
theorem GameCmd.from?_other (connId : Nat) (c : GameCmd) (h : c.isOther = true) :
    c.from? connId = none := by
  cases c with
  | frame => cases h
  | closed => cases h
  | _ => rfl

/-- The action is one of a game's task. -/
def RoutingAction.ofGame : RoutingAction → Bool
  | handle .. | clock .. => true
  | _ => false

/-- The action brings a connection to a game, or is on the way to. -/
def RoutingAction.binds : RoutingAction → Bool
  | accept .. | announce .. | adopt => true
  | _ => false

/-- The command an iteration handles. -/
def Event.cmd? : Event → Option GameCmd
  | cmd _ c => some c
  | _ => none

namespace Routing

variable [RustStd]

/-- The command queue of a game takes one more. -/
def takes (r : Routing) (game : Nat) : Bool :=
  r.running game && decide ((r.mailbox game).length < cmdCapacity)

/-- `GameHandle::send`. -/
def send (r : Routing) (game : Nat) (c : GameCmd) : Routing :=
  if r.takes game then
    { r with mailbox := Function.update r.mailbox game (r.mailbox game ++ [c]) }
  else r

/-- A reader's event, while it waits for the queue. -/
def decode (r : Routing) (connId : Nat) (k : ConnEventKind) : Routing :=
  match r.waiting connId with
  | none =>
      { r with
        waiting := Function.update r.waiting connId (some k)
        decoded := Function.update r.decoded connId (r.decoded connId ++ [k]) }
  | some _ => r

/-- `events.send(..).await`, once there is room. -/
def queueEvent (r : Routing) (connId : Nat) : Routing :=
  match r.waiting connId with
  | none => r
  | some k =>
      if r.events.length < eventCapacity then
        { r with
          events := r.events ++ [⟨connId, k⟩]
          waiting := Function.update r.waiting connId none }
      else r

/-- `Supervisor::handle_new_connection`. -/
def handleNewConnection (r : Routing) (connId game : Nat) (link : PlayerLink) (externalIp : Ip) :
    Routing :=
  { r.send game (.newConn connId link externalIp) with
    connToGame := Function.update r.connToGame connId (some game) }

/-- `adopt_result_tx.send(..).await`, once there is room. -/
def announce (r : Routing) (connId game : Nat) : Routing :=
  if r.notices.length < noticeCapacity then { r with notices := r.notices ++ [(connId, game)] }
  else r

/-- The `reconnect_adopted_rx` arm of the event loop. -/
def adopt (r : Routing) : Routing :=
  match r.notices with
  | [] => r
  | (connId, game) :: rest =>
      { r with notices := rest, connToGame := Function.update r.connToGame connId (some game) }

/-- The game whose command queue takes an event of the connection. -/
def taker (r : Routing) (connId : Nat) : Option Nat :=
  match r.connToGame connId with
  | some game => if r.takes game then some game else none
  | none => none

/-- `Supervisor::handle_conn_event`. -/
def handleConnEvent (r : Routing) (ev : ConnEvent) : Routing :=
  { (match r.connToGame ev.connId with
      | some game => r.send game ev.cmd
      | none => r) with
    passed := Function.update r.passed ev.connId
      (r.passed ev.connId ++ [(ev.kind, r.taker ev.connId)]) }

/-- The `conn_event_rx` arm of the event loop. -/
def route (r : Routing) : Routing :=
  match r.events with
  | [] => r
  | ev :: rest => { r with events := rest }.handleConnEvent ev

/-- An iteration of a game's loop. -/
def advance (r : Routing) (game : Nat) (ev : Event) : Routing :=
  let s := (r.state game).step ev
  { r with
    state := Function.update r.state game s
    running := Function.update r.running game (r.running game && !s.finished && !s.panicked) }

/-- A game handles the next of its commands. -/
def handle (r : Routing) (game : Nat) (env : Env) : Routing :=
  if r.running game then
    match r.mailbox game with
    | [] => r
    | c :: rest =>
        { r with
          mailbox := Function.update r.mailbox game rest
          handled := Function.update r.handled game (r.handled game ++ [c]) }.advance game
            (.cmd env c)
  else r

/-- A game's clock goes on, or its timer fires. -/
def clock (r : Routing) (game : Nat) : Event → Routing
  | .cmd .. => r
  | ev => if r.running game then r.advance game ev else r

/-- One action. -/
def step (r : Routing) : RoutingAction → Routing
  | .decode connId k => r.decode connId k
  | .queue connId => r.queueEvent connId
  | .accept connId game link externalIp => r.handleNewConnection connId game link externalIp
  | .announce connId game => r.announce connId game
  | .adopt => r.adopt
  | .route => r.route
  | .send game c => if c.isOther then r.send game c else r
  | .handle game env => r.handle game env
  | .clock game ev => r.clock game ev

/-- Actions one after another. -/
def run : List RoutingAction → Routing → Routing
  | [], r => r
  | a :: rest, r => run rest (r.step a)

/-- Actions in two parts. -/
theorem run_append (acts acts' : List RoutingAction) (r : Routing) :
    run (acts ++ acts') r = run acts' (run acts r) := by
  induction acts generalizing r with
  | nil => rfl
  | cons a rest ih => exact ih (r.step a)

-- ============================================================ one connection

/-- The events of a connection in the queue. -/
def queued (r : Routing) (connId : Nat) : List ConnEventKind :=
  r.events.filterMap (ConnEvent.from? connId)

/-- Its events among the commands a game has yet to handle. -/
def mailed (r : Routing) (connId game : Nat) : List ConnEventKind :=
  (r.mailbox game).filterMap (GameCmd.from? connId)

/-- Its events a game has handled. -/
def reached (r : Routing) (connId game : Nat) : List ConnEventKind :=
  (r.handled game).filterMap (GameCmd.from? connId)

/-- Its events on their way to a game, in order. -/
def underway (r : Routing) (connId game : Nat) : List ConnEventKind :=
  r.mailed connId game ++ r.queued connId ++ (r.waiting connId).toList

/-- Its events that the command queue of a game took. -/
def takenBy (game : Nat) (l : List (ConnEventKind × Option Nat)) : List ConnEventKind :=
  (l.filter fun x => x.2 == some game).map Prod.fst

/-- Nothing came from a connection yet. -/
structure Unheard (r : Routing) (connId game : Nat) : Prop where
  decoded : r.decoded connId = []
  passed : r.passed connId = []
  reached : r.reached connId game = []
  underway : r.underway connId game = []

/-- Everything decoded is accounted for, and what a game's command queue
took is handled or still in it. -/
structure Accounted (r : Routing) (connId game : Nat) : Prop where
  decoded : r.decoded connId
    = (r.passed connId).map Prod.fst ++ r.queued connId ++ (r.waiting connId).toList
  taken : takenBy game (r.passed connId) = r.reached connId game ++ r.mailed connId game

variable {r : Routing} {connId game : Nat}

omit [RustStd] in
/-- What a game took of two lists. -/
theorem takenBy_append (game : Nat) (l m : List (ConnEventKind × Option Nat)) :
    takenBy game (l ++ m) = takenBy game l ++ takenBy game m := by
  unfold takenBy
  rw [List.filter_append, List.map_append]

omit [RustStd] in
/-- What it took of one event. -/
theorem takenBy_singleton (game : Nat) (k : ConnEventKind) (taker : Option Nat) :
    takenBy game [(k, taker)] = if taker = some game then [k] else [] := by
  unfold takenBy
  by_cases hgame : taker = some game
  · rw [if_pos hgame, List.filter_cons, if_pos (by rw [hgame]; exact beq_self_eq_true _)]
    rfl
  · rw [if_neg hgame, List.filter_cons, if_neg (by simpa using hgame)]
    rfl

omit [RustStd] in
/-- Of what was not heard nothing is owed. -/
theorem Unheard.accounted (h : r.Unheard connId game) : r.Accounted connId game := by
  obtain ⟨hway, hwaiting⟩ := List.append_eq_nil_iff.1 h.underway
  obtain ⟨hmailed, hqueued⟩ := List.append_eq_nil_iff.1 hway
  refine ⟨?_, ?_⟩
  · rw [h.decoded, h.passed, hqueued, hwaiting]
    rfl
  · rw [h.passed, h.reached, hmailed]
    rfl

omit [RustStd] in
/-- What a command sent to some game adds to the events in a command
queue. -/
theorem mailed_send (r : Routing) (connId game to' : Nat) (c : GameCmd) :
    (r.send to' c).mailed connId game = r.mailed connId game
      ++ (if r.takes to' ∧ to' = game then (c.from? connId).toList else []) := by
  unfold send mailed
  by_cases htakes : r.takes to' = true
  · rw [if_pos htakes]
    by_cases hsame : to' = game
    · subst hsame
      dsimp only
      rw [Function.update_self, if_pos ⟨htakes, rfl⟩, List.filterMap_append]
      cases hfrom : c.from? connId with
      | none => rw [List.filterMap_cons_none hfrom]; rfl
      | some k => rw [List.filterMap_cons_some hfrom]; rfl
    · dsimp only
      rw [Function.update_of_ne (Ne.symm hsame), if_neg fun h => hsame h.2, List.append_nil]
  · rw [if_neg htakes, if_neg fun h => htakes h.1, List.append_nil]

omit [RustStd] in
/-- Sending a command leaves everything before the command queues
alone. -/
theorem send_eq (r : Routing) (game : Nat) (c : GameCmd) :
    r.send game c = { r with mailbox := (r.send game c).mailbox } := by
  unfold send
  split
  · rfl
  · rfl

omit [RustStd] in
/-- A command that is no event of a connection changes nothing for one. -/
theorem Accounted.send_other (h : r.Accounted connId game) (to' : Nat) {c : GameCmd}
    (hc : c.isOther = true) : (r.send to' c).Accounted connId game := by
  have hmailed := mailed_send r connId game to' c
  rw [c.from?_other connId hc, Option.toList_none, ite_self, List.append_nil] at hmailed
  refine ⟨?_, ?_⟩
  · rw [send_eq]
    exact h.decoded
  · rw [hmailed, send_eq]
    exact h.taken

omit [RustStd] in
/-- A reader decodes. -/
theorem Accounted.decode (h : r.Accounted connId game) (c : Nat) (k : ConnEventKind) :
    (r.decode c k).Accounted connId game := by
  unfold Routing.decode
  cases hwait : r.waiting c with
  | some k' => exact h
  | none =>
      refine ⟨?_, h.taken⟩
      by_cases hsame : c = connId
      · subst hsame
        have hdecoded := h.decoded
        rw [hwait, Option.toList_none, List.append_nil] at hdecoded
        dsimp only
        rw [Function.update_self, Function.update_self, hdecoded]
        rfl
      · dsimp only
        rw [Function.update_of_ne (Ne.symm hsame), Function.update_of_ne (Ne.symm hsame)]
        exact h.decoded

omit [RustStd] in
/-- Its event gets into the queue. -/
theorem Accounted.queueEvent (h : r.Accounted connId game) (c : Nat) :
    (r.queueEvent c).Accounted connId game := by
  unfold Routing.queueEvent
  cases hwait : r.waiting c with
  | none => exact h
  | some k =>
      dsimp only
      split
      · refine ⟨?_, h.taken⟩
        have hdecoded := h.decoded
        unfold queued at hdecoded ⊢
        dsimp only
        by_cases hsame : c = connId
        · subst hsame
          have hfrom : ConnEvent.from? c ⟨c, k⟩ = some k := if_pos rfl
          rw [hwait] at hdecoded
          rw [Function.update_self, List.filterMap_append, List.filterMap_cons_some hfrom, hdecoded,
            Option.toList_none, List.append_nil, List.append_assoc]
          rfl
        · have hfrom : ConnEvent.from? connId ⟨c, k⟩ = none := if_neg hsame
          rw [Function.update_of_ne (Ne.symm hsame), List.filterMap_append,
            List.filterMap_cons_none hfrom, List.filterMap_nil, List.append_nil]
          exact hdecoded
      · exact h

omit [RustStd] in
/-- The supervisor takes an event off the queue, and the command queue of
its game takes it or not. -/
theorem Accounted.route (h : r.Accounted connId game) : r.route.Accounted connId game := by
  unfold Routing.route
  cases hevents : r.events with
  | nil => exact h
  | cons ev rest =>
      obtain ⟨hdecoded, htaken⟩ := h
      unfold queued at hdecoded
      rw [hevents] at hdecoded
      dsimp only
      -- what becomes of the event: the game whose command queue takes it
      have hpass : ∀ taker : Option Nat, ∀ mailbox : Nat → List GameCmd,
          ((mailbox game).filterMap (GameCmd.from? connId) = r.mailed connId game
            ++ (if taker = some game then (ev.from? connId).toList else [])) →
          Accounted { r with
            events := rest, mailbox := mailbox
            passed := Function.update r.passed ev.connId
              (r.passed ev.connId ++ [(ev.kind, taker)]) }
            connId game := by
        intro taker mailbox hmailed
        by_cases hsame : ev.connId = connId
        · subst hsame
          have hfrom : ev.from? ev.connId = some ev.kind := if_pos rfl
          rw [hfrom] at hmailed
          rw [List.filterMap_cons_some hfrom] at hdecoded
          refine ⟨?_, ?_⟩
          · unfold queued
            dsimp only
            rw [Function.update_self, List.map_append, hdecoded]
            simp only [List.map_cons, List.map_nil, List.append_assoc, List.cons_append,
              List.nil_append]
          · unfold mailed
            dsimp only
            rw [hmailed, Function.update_self, takenBy_append, takenBy_singleton, htaken,
              List.append_assoc]
            rfl
        · have hfrom : ev.from? connId = none := if_neg hsame
          rw [hfrom, Option.toList_none, ite_self, List.append_nil] at hmailed
          rw [List.filterMap_cons_none hfrom] at hdecoded
          refine ⟨?_, ?_⟩
          · unfold queued
            dsimp only
            rw [Function.update_of_ne (Ne.symm hsame)]
            exact hdecoded
          · unfold mailed
            dsimp only
            rw [hmailed, Function.update_of_ne (Ne.symm hsame)]
            exact htaken
      show Accounted { (match r.connToGame ev.connId with
          | some g => ({ r with events := rest } : Routing).send g ev.cmd
          | none => { r with events := rest }) with
        passed := Function.update r.passed ev.connId
          (r.passed ev.connId ++ [(ev.kind, r.taker ev.connId)]) } connId game
      unfold taker
      cases hgame : r.connToGame ev.connId with
      | none =>
          refine hpass none r.mailbox ?_
          rw [if_neg (by exact fun h => nomatch h), List.append_nil]
          rfl
      | some g =>
          dsimp only
          rw [send_eq]
          refine hpass (if r.takes g then some g else none)
            ({ r with events := rest }.send g ev.cmd).mailbox ?_
          refine (mailed_send { r with events := rest } connId game g ev.cmd).trans ?_
          rw [ev.cmd_from? connId]
          show r.mailed connId game ++ (if r.takes g ∧ g = game then _ else _) = _
          congr 1
          by_cases htakes : r.takes g = true
          · rw [if_pos htakes]
            by_cases hsame : g = game
            · rw [if_pos ⟨htakes, hsame⟩, if_pos (congrArg some hsame)]
            · rw [if_neg fun h => hsame h.2, if_neg fun h => hsame (Option.some.inj h)]
          · rw [if_neg htakes, if_neg fun h => htakes h.1, if_neg (by exact fun h => nomatch h)]

/-- A game handles the head of its mailbox. -/
theorem Accounted.handle (h : r.Accounted connId game) (g : Nat) (env : Env) :
    (r.handle g env).Accounted connId game := by
  unfold Routing.handle
  split
  · cases hmail : r.mailbox g with
    | nil => exact h
    | cons m rest =>
        refine ⟨h.decoded, ?_⟩
        have htaken := h.taken
        unfold reached mailed at htaken ⊢
        dsimp only [advance]
        by_cases hsame : g = game
        · subst hsame
          rw [Function.update_self, Function.update_self, List.filterMap_append, htaken, hmail,
            List.append_assoc]
          congr 1
          exact List.filterMap_append (l := [m])
        · rw [Function.update_of_ne (Ne.symm hsame), Function.update_of_ne (Ne.symm hsame)]
          exact htaken
  · exact h

/-- Time goes on in a game. -/
theorem Accounted.clock (h : r.Accounted connId game) (g : Nat) (ev : Event) :
    (r.clock g ev).Accounted connId game := by
  unfold Routing.clock
  split
  · exact h
  · split
    · exact ⟨h.decoded, h.taken⟩
    · exact h

/-- One action. -/
theorem Accounted.step (h : r.Accounted connId game) (a : RoutingAction) :
    (r.step a).Accounted connId game := by
  cases a with
  | decode c k => exact h.decode c k
  | queue c => exact h.queueEvent c
  | accept c g link externalIp =>
      have hsend := h.send_other g (c := .newConn c link externalIp) rfl
      exact ⟨hsend.decoded, hsend.taken⟩
  | announce c g =>
      show (r.announce c g).Accounted connId game
      unfold Routing.announce
      split
      · exact ⟨h.decoded, h.taken⟩
      · exact h
  | adopt =>
      show r.adopt.Accounted connId game
      unfold Routing.adopt
      split
      · exact h
      · exact ⟨h.decoded, h.taken⟩
  | route => exact h.route
  | send g c =>
      show (if c.isOther then r.send g c else r).Accounted connId game
      split
      · rename_i hc
        exact h.send_other g hc
      · exact h
  | handle g env => exact h.handle g env
  | clock g ev => exact h.clock g ev

/-- Actions one after another. -/
theorem Accounted.run (h : r.Accounted connId game) (acts : List RoutingAction) :
    (Routing.run acts r).Accounted connId game := by
  induction acts generalizing r with
  | nil => exact h
  | cons a rest ih => exact ih (h.step a)

-- ==================================================================== who takes it

/-- A condition on every action of a run, with the state it finds. -/
def Along (C : Routing → RoutingAction → Prop) : Routing → List RoutingAction → Prop
  | _, [] => True
  | r, a :: rest => C r a ∧ Along C (r.step a) rest

/-- The event that is routed, if it is the connection's, finds the
connection with the game, and room in the game's command queue. -/
def Taken (connId game : Nat) (r : Routing) (a : RoutingAction) : Prop :=
  a = .route → ∀ ev ∈ r.events.head?, ev.connId = connId →
    r.connToGame connId = some game ∧ r.takes game = true

/-- The game's command queue took every event of the connection so
far. -/
def AllTaken (r : Routing) (connId game : Nat) : Prop :=
  ∀ x ∈ r.passed connId, x.2 = some game

omit [RustStd] in
/-- Who takes the events of a connection. -/
theorem taker_eq_some_iff :
    r.taker connId = some game ↔ r.connToGame connId = some game ∧ r.takes game = true := by
  unfold taker
  cases hgame : r.connToGame connId with
  | none => exact ⟨fun h => (nomatch h), fun h => (nomatch h.1)⟩
  | some g =>
      dsimp only
      by_cases htakes : r.takes g = true
      · rw [if_pos htakes]
        refine ⟨fun h => ?_, fun h => h.1⟩
        rw [← Option.some.inj h]
        exact ⟨rfl, htakes⟩
      · rw [if_neg htakes]
        refine ⟨fun h => (nomatch h), fun h => ?_⟩
        rw [Option.some.inj h.1] at htakes
        exact absurd h.2 htakes

omit [RustStd] in
/-- The supervisor passes the next event on, or drops it. -/
theorem passed_route {ev : ConnEvent} {rest : List ConnEvent} (hevents : r.events = ev :: rest) :
    r.route.passed = Function.update r.passed ev.connId
      (r.passed ev.connId ++ [(ev.kind, r.taker ev.connId)]) := by
  unfold route
  rw [hevents]
  rfl

/-- Only the supervisor takes events off the queue. -/
theorem passed_step_of_ne {a : RoutingAction} (ha : a ≠ .route) : (r.step a).passed = r.passed := by
  cases a with
  | decode c k =>
      show (r.decode c k).passed = r.passed
      unfold Routing.decode
      split
      · rfl
      · rfl
  | queue c =>
      show (r.queueEvent c).passed = r.passed
      unfold queueEvent
      split
      · rfl
      · split
        · rfl
        · rfl
  | accept c g link externalIp =>
      show (r.send g _).passed = r.passed
      rw [send_eq]
  | announce c g =>
      show (r.announce c g).passed = r.passed
      unfold Routing.announce
      split
      · rfl
      · rfl
  | adopt =>
      show r.adopt.passed = r.passed
      unfold Routing.adopt
      split
      · rfl
      · rfl
  | route => exact absurd rfl ha
  | send g c =>
      show (if c.isOther then r.send g c else r).passed = r.passed
      split
      · rw [send_eq]
      · rfl
  | handle g env =>
      show (r.handle g env).passed = r.passed
      unfold Routing.handle
      split
      · split
        · rfl
        · rfl
      · rfl
  | clock g ev =>
      show (r.clock g ev).passed = r.passed
      unfold Routing.clock
      split
      · rfl
      · split
        · rfl
        · rfl

/-- One action keeps it so exactly if the event it routes is taken. -/
theorem allTaken_step_iff (r : Routing) (a : RoutingAction) (connId game : Nat) :
    (r.step a).AllTaken connId game ↔ r.AllTaken connId game ∧ Taken connId game r a := by
  by_cases ha : a = .route
  · subst ha
    show r.route.AllTaken connId game ↔ _
    unfold AllTaken Taken
    cases hevents : r.events with
    | nil =>
        unfold route
        rw [hevents]
        exact ⟨fun h => ⟨h, fun _ _ hev => (nomatch hev)⟩, fun h => h.1⟩
    | cons ev rest =>
        rw [passed_route hevents]
        by_cases hsame : ev.connId = connId
        · subst hsame
          rw [Function.update_self]
          refine ⟨fun h => ⟨fun x hx => h x (List.mem_append_left _ hx), fun _ ev' hev' _ => ?_⟩,
            fun h x hx => ?_⟩
          · exact taker_eq_some_iff.1 (h _ (List.mem_append_right _ (List.mem_singleton.2 rfl)))
          · rcases List.mem_append.1 hx with hx | hx
            · exact h.1 x hx
            · rw [List.mem_singleton.1 hx]
              exact taker_eq_some_iff.2 (h.2 rfl ev rfl rfl)
        · rw [Function.update_of_ne (Ne.symm hsame)]
          refine ⟨fun h => ⟨h, fun _ ev' hev' hconn => ?_⟩, fun h => h.1⟩
          rw [← Option.some.inj hev'] at hconn
          exact absurd hconn hsame
  · unfold AllTaken
    rw [passed_step_of_ne ha]
    exact ⟨fun h => ⟨h, fun hroute => absurd hroute ha⟩, fun h => h.1⟩

/-- A whole run. -/
theorem allTaken_run_iff (acts : List RoutingAction) (r : Routing) (connId game : Nat) :
    (run acts r).AllTaken connId game ↔ r.AllTaken connId game ∧ Along (Taken connId game) r
      acts := by
  induction acts generalizing r with
  | nil => exact ⟨fun h => ⟨h, trivial⟩, fun h => h.1⟩
  | cons a rest ih =>
      show (run rest (r.step a)).AllTaken connId game ↔ _
      rw [ih, allTaken_step_iff]
      exact and_assoc

omit [RustStd] in
/-- What the game handles of a connection, and has yet to handle, is what
was decoded, exactly if its command queue took everything. -/
theorem Accounted.reached_iff (h : r.Accounted connId game) :
    r.reached connId game ++ r.underway connId game = r.decoded connId
      ↔ r.AllTaken connId game := by
  unfold underway
  rw [h.decoded, ← List.append_assoc, ← List.append_assoc, ← h.taken, List.append_left_inj,
    List.append_left_inj]
  unfold takenBy AllTaken
  refine ⟨fun hall x hx => ?_, fun hall => ?_⟩
  · have hlength := congrArg List.length hall
    rw [List.length_map, List.length_map, List.length_filter_eq_length_iff] at hlength
    exact beq_iff_eq.1 (hlength x hx)
  · rw [List.filter_eq_self.2 fun x hx => beq_iff_eq.2 (hall x hx)]

-- ================================================================ one game

/-- The iteration of a game's loop that an action is. -/
def event? (r : Routing) (game : Nat) : RoutingAction → Option Event
  | .handle g env =>
      if g = game ∧ r.running game = true then (r.mailbox game).head?.map (.cmd env) else none
  | .clock _ (.cmd ..) => none
  | .clock g ev => if g = game ∧ r.running game = true then some ev else none
  | _ => none

/-- Readers and the supervisor leave the games alone. -/
theorem games_step {a : RoutingAction} (ha : a.ofGame = false) :
    (r.step a).state = r.state ∧ (r.step a).running = r.running
      ∧ (r.step a).handled = r.handled := by
  -- a command waits in the mailbox until the game takes it
  have hsend : ∀ g (c : GameCmd), (r.send g c).state = r.state ∧ (r.send g c).running = r.running
      ∧ (r.send g c).handled = r.handled := by
    intro g c
    rw [send_eq]
    exact ⟨rfl, rfl, rfl⟩
  cases a with
  | decode c k =>
      unfold step Routing.decode
      dsimp only
      split
      · exact ⟨rfl, rfl, rfl⟩
      · exact ⟨rfl, rfl, rfl⟩
  | queue c =>
      unfold step queueEvent
      dsimp only
      split
      · exact ⟨rfl, rfl, rfl⟩
      · split
        · exact ⟨rfl, rfl, rfl⟩
        · exact ⟨rfl, rfl, rfl⟩
  | accept c g link externalIp => exact hsend g _
  | announce c g =>
      unfold step Routing.announce
      dsimp only
      split
      · exact ⟨rfl, rfl, rfl⟩
      · exact ⟨rfl, rfl, rfl⟩
  | adopt =>
      unfold step Routing.adopt
      dsimp only
      split
      · exact ⟨rfl, rfl, rfl⟩
      · exact ⟨rfl, rfl, rfl⟩
  | route =>
      unfold step Routing.route
      dsimp only
      cases r.events with
      | nil => exact ⟨rfl, rfl, rfl⟩
      | cons ev rest =>
          dsimp only
          unfold handleConnEvent
          cases r.connToGame ev.connId with
          | none => exact ⟨rfl, rfl, rfl⟩
          | some g =>
              dsimp only
              rw [send_eq]
              exact ⟨rfl, rfl, rfl⟩
  | send g c =>
      unfold step
      dsimp only
      split
      · exact hsend g c
      · exact ⟨rfl, rfl, rfl⟩
  | handle g env => cases ha
  | clock g ev => cases ha

/-- Only what brings a connection to a game touches the table and the
notices. -/
theorem table_step {a : RoutingAction} (ha : a.binds = false) :
    (r.step a).connToGame = r.connToGame ∧ (r.step a).notices = r.notices := by
  -- a game is written to by its mailbox alone
  have hsend : ∀ (r : Routing) g (c : GameCmd), (r.send g c).connToGame = r.connToGame
      ∧ (r.send g c).notices = r.notices := by
    intro r g c
    rw [send_eq]
    exact ⟨rfl, rfl⟩
  cases a with
  | decode c k =>
      unfold step Routing.decode
      dsimp only
      split
      · exact ⟨rfl, rfl⟩
      · exact ⟨rfl, rfl⟩
  | queue c =>
      unfold step queueEvent
      dsimp only
      split
      · exact ⟨rfl, rfl⟩
      · split
        · exact ⟨rfl, rfl⟩
        · exact ⟨rfl, rfl⟩
  | accept => cases ha
  | announce => cases ha
  | adopt => cases ha
  | route =>
      unfold step Routing.route
      dsimp only
      cases r.events with
      | nil => exact ⟨rfl, rfl⟩
      | cons ev rest =>
          dsimp only
          unfold handleConnEvent
          cases r.connToGame ev.connId with
          | none => exact ⟨rfl, rfl⟩
          | some g => exact hsend { r with events := rest } g ev.cmd
  | send g c =>
      unfold step
      dsimp only
      split
      · exact hsend r g c
      · exact ⟨rfl, rfl⟩
  | handle g env =>
      unfold step Routing.handle
      dsimp only
      split
      · split
        · exact ⟨rfl, rfl⟩
        · exact ⟨rfl, rfl⟩
      · exact ⟨rfl, rfl⟩
  | clock g ev =>
      unfold step Routing.clock
      dsimp only
      split
      · exact ⟨rfl, rfl⟩
      · split
        · exact ⟨rfl, rfl⟩
        · exact ⟨rfl, rfl⟩

omit [RustStd] in
/-- An action that is no game's is no event of one. -/
theorem event?_of_quiet {a : RoutingAction} (ha : a.ofGame = false) : r.event? game a = none := by
  cases a with
  | handle => cases ha
  | clock => cases ha
  | _ => rfl

/-- What an action is to a game: nothing, or one iteration of its
loop. -/
inductive GameStep (r : Routing) (game : Nat) (a : RoutingAction) : Prop where
  | rests (h : r.event? game a = none) (hstate : (r.step a).state game = r.state game)
      (hhandled : (r.step a).handled game = r.handled game)
      (hrunning : (r.step a).running game = r.running game)
  | iterates (ev : Event) (h : r.event? game a = some ev)
      (hstate : (r.step a).state game = (r.state game).step ev)
      (hhandled : (r.step a).handled game = r.handled game ++ ev.cmd?.toList)
      (hrunning : r.running game = true)

omit [RustStd] in
/-- What a game handles is the head of its mailbox. -/
theorem event?_handle (r : Routing) (game g : Nat) (env : Env) :
    r.event? game (.handle g env)
      = if g = game ∧ r.running game = true then (r.mailbox game).head?.map (.cmd env) else none :=
  rfl

/-- Time in one game is a step of that one. -/
theorem clock_step (r : Routing) (game g : Nat) {ev : Event} (hev : ev.cmd? = none) :
    r.GameStep game (.clock g ev) := by
  have hevent : r.event? game (.clock g ev)
      = if g = game ∧ r.running game = true then some ev else none := by
    cases ev with
    | cmd env c => cases hev
    | _ => rfl
  have hclock : r.step (.clock g ev) = if r.running g then r.advance g ev else r := by
    cases ev with
    | cmd env c => cases hev
    | _ => rfl
  by_cases hrun : r.running g = true
  · rw [if_pos hrun] at hclock
    by_cases hsame : g = game
    · subst hsame
      refine .iterates ev (hevent.trans (if_pos ⟨rfl, hrun⟩)) ?_ ?_ hrun
      · rw [hclock]
        exact Function.update_self ..
      · rw [hclock, hev]
        exact (List.append_nil _).symm
    · refine .rests (hevent.trans (if_neg fun h => hsame h.1)) ?_ ?_ ?_
      · rw [hclock]
        exact Function.update_of_ne (Ne.symm hsame) ..
      · rw [hclock]
        rfl
      · rw [hclock]
        exact Function.update_of_ne (Ne.symm hsame) ..
  · rw [if_neg hrun] at hclock
    refine .rests (hevent.trans (if_neg ?_)) (by rw [hclock]) (by rw [hclock]) (by rw [hclock])
    rintro ⟨rfl, h⟩
    exact hrun h

/-- Every action is a step of a game, or none. -/
theorem game_step (r : Routing) (game : Nat) (a : RoutingAction) : r.GameStep game a := by
  -- most steps only hand things to the mailboxes
  have quiet : a.ofGame = false → r.GameStep game a := fun ha => by
    obtain ⟨hstate, hrunning, hhandled⟩ := games_step (r := r) ha
    exact .rests (event?_of_quiet ha) (by rw [hstate]) (by rw [hhandled]) (by rw [hrunning])
  have hstay : r.step a = r → r.event? game a = none → r.GameStep game a := fun hsame hnone =>
    .rests hnone (by rw [hsame]) (by rw [hsame]) (by rw [hsame])
  cases a with
  | handle g env =>
      -- a game that ended takes nothing out of its mailbox
      by_cases hrun : r.running g = true
      · cases hmail : r.mailbox g with
        | nil =>
            refine hstay ?_ ?_
            · unfold step Routing.handle
              dsimp only
              rw [if_pos hrun, hmail]
            · rw [event?_handle]
              split
              · rename_i hgo
                rw [← hgo.1, hmail]
                rfl
              · rfl
        | cons c rest =>
            have hgoes : r.step (.handle g env) = Routing.advance { r with
                mailbox := Function.update r.mailbox g rest
                handled := Function.update r.handled g (r.handled g ++ [c]) } g (.cmd env c) := by
              unfold step Routing.handle
              dsimp only
              rw [if_pos hrun, hmail]
            -- the games share no state, so another game's turn leaves this one at rest
            by_cases hsame : g = game
            · subst hsame
              refine .iterates (.cmd env c) ?_ ?_ ?_ hrun
              · rw [event?_handle, if_pos ⟨rfl, hrun⟩, hmail]
                rfl
              · rw [hgoes]
                exact Function.update_self ..
              · rw [hgoes]
                exact Function.update_self ..
            · refine .rests (if_neg fun h => hsame h.1) ?_ ?_ ?_
              · rw [hgoes]
                exact Function.update_of_ne (Ne.symm hsame) ..
              · rw [hgoes]
                exact Function.update_of_ne (Ne.symm hsame) ..
              · rw [hgoes]
                exact Function.update_of_ne (Ne.symm hsame) ..
      · refine hstay (if_neg hrun) (if_neg ?_)
        rintro ⟨rfl, h⟩
        exact hrun h
  | clock g ev =>
      cases ev with
      | cmd env c => exact hstay rfl rfl
      | elapse ms => exact clock_step r game g rfl
      | tick skipped => exact clock_step r game g rfl
  | decode c k => exact quiet rfl
  | queue c => exact quiet rfl
  | accept c g link externalIp => exact quiet rfl
  | announce c g => exact quiet rfl
  | adopt => exact quiet rfl
  | route => exact quiet rfl
  | send g c => exact quiet rfl

/-- A game that is running was running before. -/
theorem running_of_step {a : RoutingAction} (h : (r.step a).running game = true) :
    r.running game = true := by
  cases r.game_step game a with
  | rests _ _ _ hrunning => exact hrunning.symm.trans h
  | iterates _ _ _ _ hrunning => exact hrunning

/-- A game that runs has run. -/
theorem running_of_run {acts : List RoutingAction} (h : (run acts r).running game = true) :
    r.running game = true := by
  induction acts generalizing r with
  | nil => exact h
  | cons a rest ih => exact running_of_step (ih h)

end Routing

end Spectre

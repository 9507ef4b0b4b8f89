/-
The path of one iteration of the actor loop, and the invariant it
keeps.

`Admits K s ev` lists what a guard has to grant for the iteration that
handles `ev` in `s` to be a path of admitted steps. The kinds that are
not plain are asked for with what is known where they occur: in which
phase, for which event, on which seat. The four functions that have a
coarse step are asked for as paths, so that a property can take them
whole or in pieces.

`Event.Sound` is what the surroundings of the actor promise: a link
handed to it is new, and no client has the connection id of the virtual
host (the listener counts its connections from 1).
-/
import Spectre.ChatEffects
import Spectre.TurnEffects

namespace Spectre

open GameState

-- ==================================================================== events

/-- What holds of a command that reaches the actor. -/
def GameCmd.Sound : GameCmd → Prop
  | newConn connId link _ => connId ≠ hostConn ∧ link.sent = []
  | adoptReconnect connId _ link => connId ≠ hostConn ∧ link.sent = []
  | frame connId _ => connId ≠ hostConn
  | _ => True

/-- What holds of an event that reaches the actor. -/
def Event.Sound : Event → Prop
  | cmd env c => env.fakeLink.sent = [] ∧ c.Sound
  | _ => True

instance (c : GameCmd) : Decidable c.Sound := by
  cases c <;> unfold GameCmd.Sound <;> infer_instance

instance (ev : Event) : Decidable ev.Sound := by
  cases ev <;> unfold Event.Sound <;> infer_instance

/-- The command an event runs, if it is a chat frame that runs one. -/
def GameState.command [RustStd] (s : GameState) : Event → Option ChatCommand
  | .cmd _ (.frame connId (.w3gs id payload)) =>
      if id = 0x28 then s.chatCommand connId payload else none
  | _ => none

/-- The event runs a command that changes the slot table in any
phase. -/
def GameState.editsSlots [RustStd] (s : GameState) (ev : Event) : Bool :=
  ((s.command ev).map ChatCommand.editsSlots).getD false

/-- The event toggles the fake player. -/
def GameState.togglesFake [RustStd] (s : GameState) (ev : Event) : Bool :=
  match ev with
  | .cmd _ .toggleFakePlayer => true
  | _ => match s.command ev with
    | some .fakePlayer => true
    | _ => false

/-- The line an event says, if it is a chat frame that says one. -/
def GameState.spoken [RustStd] (s : GameState) : Event → Option Text
  | .cmd _ (.frame connId (.w3gs id payload)) =>
      if id = 0x28 then s.chatLine connId payload else none
  | _ => none

/-- The event puts the lobby up again under another name. -/
def GameState.rehosts [RustStd] (s : GameState) (ev : Event) : Bool :=
  s.phase = .lobby && ((s.command ev).map ChatCommand.rehosts).getD false

/-- The event records a line too long for its record. -/
def GameState.recordsLong [RustStd] (s : GameState) (ev : Event) : Bool :=
  (s.phase = .loading ∨ s.phase = .playing)
    && ((s.spoken ev).map fun line => decide (longestLine < line.length)).getD false

/-- The events that may change the pending connections. -/
def Event.queues : Event → Bool
  | cmd _ (.newConn ..) | cmd _ (.closed ..) => true
  | cmd _ (.frame _ (.w3gs id _)) => id = 0x1E || id = 0x21
  | cmd _ (.frame _ (.gps id _)) => id = 0x02
  | cmd _ (.frame _ (.iccupGps id _)) => id = 0x16
  | _ => false

/-- The events that may change the tokens of pending connections. -/
def Event.caches : Event → Bool
  | cmd _ (.closed ..) => true
  | cmd _ (.frame _ (.w3gs id _)) => id = 0x1E
  | cmd _ (.frame _ (.gps id _)) => id = 0x05
  | _ => false

/-- The GPS reconnect request an event carries, with the link it would
be served on. -/
def GameState.gpsRequest (s : GameState) : Event → Option (Nat × ReconnectReq × PlayerLink)
  | .cmd _ (.adoptReconnect connId req link) => some (connId, req, link)
  | .cmd _ (.frame connId (.gps id payload)) =>
      if id = 0x02 then pendingRequest connId payload else none
  | .cmd _ (.frame connId (.iccupGps id payload)) =>
      if id = 0x16 then pendingRequest connId payload else none
  | _ => none
where
  pendingRequest (connId : Nat) (payload : List UInt8) : Option (Nat × ReconnectReq × PlayerLink) :=
    match decodeReconnect payload, s.pending.find? fun e => e.connId == connId with
    | .ok req, some e => some (connId, req, e.link)
    | _, _ => none

/-- The seat a GPS reconnect takes over in this iteration, if one
does. -/
def GameState.gpsSeat (s : GameState) (ev : Event) : Option UInt8 :=
  match s.gpsRequest ev with
  | some (connId, req, link) =>
      if (s.handleGpsReconnect connId req link).2 then some req.pid else none
  | none => none

/-- The seat a FULL rejoin takes over in this iteration, if one
does. -/
def GameState.fullSeat (s : GameState) : Event → Option UInt8
  | .cmd _ (.frame connId (.w3gs id payload)) =>
      if id = 0x1E ∧ (s.pending.any fun e => e.connId == connId) then
        match ReqJoin.decode payload with
        | .ok req => s.fullRejoinSeat connId req.name
        | .error _ => none
      else none
  | _ => none

-- ============================================================ points of a run

namespace GameState

variable [RustStd]

/-- The loading timeout has come. -/
def loadingDue (s : GameState) : Bool :=
  match s.startedLoadingAt with
  | some t => secs 60 ≤ s.now - t
  | none => false

/-- The countdown has run out. -/
def countdownDue (s : GameState) : Bool :=
  match s.phase with
  | .countdown startedAt total _ => total ≤ s.now - startedAt
  | _ => false

omit [RustStd] in
/-- Loading follows a countdown. -/
theorem phaseStep_of_countdownDue {s : GameState} (h : s.countdownDue = true) :
    PhaseStep s.phase .loading := by
  unfold countdownDue at h
  split at h
  · rename_i hph
    rw [hph]
    trivial
  · cases h

/-- The states in which the reaper is called while `ev` is handled in
`s`. -/
def reapPoints (s : GameState) (ev : Event) : List GameState :=
  match ev with
  | .elapse _ | .cmd _ .shutdown => []
  | .tick _ =>
      (if s.phase = .loading ∧ s.tickHead.loadingDue then
        [{ s.tickHead with players := s.tickHead.players.map Player.loadingTimeout }] else [])
        ++ [s.handle ev]
  | .cmd _ (.frame connId (.w3gs id payload)) =>
      (if id = 0x42 then
        (s.lacksMap connId payload).toList.map fun pid => s.kickPlayer pid .lacksMap leaveDisconnect
      else []) ++ [s.handle ev]
  | _ => [s.handle ev]

/-- The state in which a tick of a running game checks for desyncs. -/
def checkPoint (s : GameState) : GameState :=
  let s := s.tickHead.pumpRejoinCatchup
  match s.fakePlayerPid with
  | some fpid =>
      { s with players := s.players.modifyPid fpid fun p =>
        { p with syncCounter := s.syncCounter } }
  | none => s

/-- The state in which a tick of a running game checks for lag. -/
def lagPoint (s : GameState) : GameState := s.checkPoint.checkDesync

/-- The states in which `check_desync` is called while `ev` is handled
in `s`. -/
def checkPoints (s : GameState) (ev : Event) : List GameState :=
  if s.phase = .playing then
    match ev with
    | .tick _ => [s.checkPoint]
    | .cmd _ (.frame connId (.w3gs id payload)) =>
        if id = 0x27 then
          match decodeKeepalive payload with
          | .ok checksum => [s.acknowledge connId checksum]
          | .error _ => []
        else []
    | _ => []
  else []

end GameState

variable [RustStd] {K : Kind → GameState → Prop}

/-- What a guard grants to the kinds that are not plain, in the
iteration that handles `ev` in `s`. -/
structure Guards (K : Kind → GameState → Prop) (s : GameState) (ev : Event) : Prop where
  phase : ∀ t, K .phase t := by intros; trivial
  slots : s.phase = .lobby ∨ s.editsSlots ev = true → ∀ t, SameTable s t → K .slots t := by
    intros; trivial
  vacate : ∀ cmd sid, s.command ev = some cmd → cmd.vacates = some sid →
    ∀ t, SameTable s t → K (.vacate sid) t := by intros; trivial
  limit : ∀ t, K .limit t := by intros; trivial
  seat : ∀ env connId payload, ev = .cmd env (.frame connId (.w3gs 0x1E payload)) →
    s.phase = .lobby → ∀ t, t.players = s.players → K .seat t := by intros; trivial
  bounce : s.phase = .lobby → ∀ t, K .bounce t := by intros; trivial
  seatFake : s.togglesFake ev = true → s.phase = .lobby →
    ∀ t, SameTable s t → K .seatFake t := by intros; trivial
  token : ∀ env connId payload p, ev = .cmd env (.frame connId (.iccupGps 0x08 payload)) →
    s.players.byConn connId = some p → ∀ t, K (.token p.pid) t := by intros; trivial
  host : ∀ env, ev = .cmd env .createVirtualHost → K .host s := by intros; trivial
  unhost : ∀ t, SameHost s t → t.phase = .lobby → K .unhost t := by intros; trivial
  unfake : s.togglesFake ev = true → s.phase = .lobby →
    ∀ t, SameTable s t → K .unfake t := by intros; trivial
  rehost : s.rehosts ev = true → ∀ t, SameTable s t → K .rehost t := by intros; trivial
  record : s.recordsLong ev = true → ∀ t, SameTable s t → K (.record false) t := by
    intros; trivial
  attachFull : ∀ pid, s.fullSeat ev = some pid →
    ∀ t, t.players = s.players → t.phase = s.phase → K (.attachFull pid) t := by intros; trivial
  attachGps : ∀ pid, s.gpsSeat ev = some pid →
    ∀ t, t.players = s.players → t.phase = s.phase → t.syncCounter = s.syncCounter →
      K (.attachGps pid) t := by intros; trivial
  ack : ∀ env connId payload checksum p, ev = .cmd env (.frame connId (.w3gs 0x27 payload)) →
    s.phase = .playing → decodeKeepalive payload = .ok checksum →
    s.players.byConn connId = some p → K (.ack p.pid checksum) s := by intros; trivial
  queue : ev.queues = true → ∀ t, K .queue t := by intros; trivial
  cache : ev.caches = true → ∀ t, K .cache t := by intros; trivial
  feed : ∀ skipped, ev = .tick skipped → s.phase = .playing → K .feed s.tickHead := by
    intros; trivial
  timeout : ∀ skipped, ev = .tick skipped → s.phase = .loading → K .timeout s.tickHead := by
    intros; trivial

/-- What a guard grants to the iteration that handles `ev` in `s`. -/
structure Admits (K : Kind → GameState → Prop) (s : GameState) (ev : Event) : Prop
    extends Guards K s ev where
  plain : Plain K
  reap : ∀ t ∈ s.reapPoints ev, WellFormed t → Does K t t.reapLeftPlayers
  begin : ∀ skipped, ev = .tick skipped → s.tickHead.countdownDue = true →
    Does K s.tickHead s.tickHead.beginLoading
  loaded : ∀ env connId payload, ev = .cmd env (.frame connId (.w3gs 0x23 payload)) →
    Does K s (s.handleLoaded connId)
  check : ∀ t ∈ s.checkPoints ev, Does K t t.checkDesync
  lagCheck : ∀ skipped, ev = .tick skipped → s.phase = .playing →
    Does K s.lagPoint s.lagPoint.checkLag.1
  sendTurn : ∀ skipped t, ev = .tick skipped → s.phase = .playing →
    s.tickHead.tickLag = (t, false) → t.started.isSome → Does K t (t.sendAllActions skipped)

-- ============================================================== well-formed

/-- Reaping, where everything is allowed. -/
theorem does_anyFine_reap {s : GameState} (hs : WellFormed s) : Does anyFine s s.reapLeftPlayers :=
  does_reapLeftPlayers (fun k hk _ => by cases k <;> first | rfl | cases hk) (fun _ => rfl)
    (fun _ => rfl) (fun _ => rfl) (fun _ _ => rfl) hs

/-- Every step keeps the state well-formed, the coarse ones too. -/
theorem Step.keeps_wellFormed {k : Kind} {s t : GameState} (h : Step k s t) (hs : WellFormed s) :
    WellFormed t := by
  have hplain : Plain anyFine := fun k hk _ => by cases k <;> first | rfl | cases hk
  have hkeep : Does anyFine s t → WellFormed t := fun hd => hd.wellFormed (fun _ _ h => h) hs
  cases h with
  | reap => exact hkeep (does_anyFine_reap hs)
  | begin hph =>
      exact hkeep (does_beginLoading hplain rfl (fun _ _ => rfl) (fun _ _ _ => rfl) (fun _ => rfl)
        (fun _ _ => rfl) hph)
  | loaded connId =>
      exact hkeep (does_handleLoaded hplain (fun _ => rfl) (fun _ => rfl) (fun _ => rfl)
        (fun _ _ _ _ => rfl))
  | lagCheck => exact hkeep (does_checkLag hplain (fun _ => rfl) (fun _ => rfl) fun _ _ => rfl)
  | check => exact hkeep (does_checkDesync hplain (fun _ => rfl) (fun _ => rfl) s)
  | sendTurn skipped h => exact hkeep (does_sendAllActions hplain rfl (fun _ => rfl) h skipped)
  | misc h hb => exact (Step.misc h hb).wellFormed hb.fine hs
  | air b h => exact (Step.air b h).wellFormed rfl hs
  | airLag b h => exact (Step.airLag b h).wellFormed rfl hs
  | table hk ps hm =>
    exact (Step.table hk ps hm).wellFormed (by cases k <;> first | rfl | cases hk) hs
  | reset b h => exact (Step.reset b h).wellFormed rfl hs
  | block b h f c hc hfits hf => exact (Step.block b h f c hc hfits hf).wellFormed rfl hs
  | seat sid p h₁ h₂ h₃ h₄ b h₅ => exact (Step.seat sid p h₁ h₂ h₃ h₄ b h₅).wellFormed rfl hs
  | bounce sid pid h₁ h₂ => exact (Step.bounce sid pid h₁ h₂).wellFormed rfl hs
  | seatFake sid p h₁ h₂ h₃ h₄ h₅ b h₆ =>
      exact (Step.seatFake sid p h₁ h₂ h₃ h₄ h₅ b h₆).wellFormed rfl hs
  | host pid h₁ h₂ b h₃ => exact (Step.host pid h₁ h₂ b h₃).wellFormed rfl hs
  | unseat pid r code h₁ h₂ h₃ => exact (Step.unseat pid r code h₁ h₂ h₃).wellFormed rfl hs
  | unhost h₁ h₂ => exact (Step.unhost h₁ h₂).wellFormed rfl hs
  | unfake pid h₁ h₂ => exact (Step.unfake pid h₁ h₂).wellFormed rfl hs
  | slots sl h => exact (Step.slots sl h).wellFormed rfl hs
  | vacate sid status h => exact (Step.vacate sid status h).wellFormed rfl hs
  | hcl mode => exact (Step.hcl mode).wellFormed rfl hs
  | phase ph h₁ h₂ => exact (Step.phase ph h₁ h₂).wellFormed rfl hs
  | toLoading h => exact (Step.toLoading h).wellFormed rfl hs
  | restart => exact Step.restart.wellFormed rfl hs
  | turn e h => exact (Step.turn e h).wellFormed rfl hs
  | act a h => exact (Step.act a h).wellFormed rfl hs
  | queue p h => exact (Step.queue p h).wellFormed rfl hs
  | cache l => exact (Step.cache l).wellFormed rfl hs
  | refer t v st d ds h => exact (Step.refer t v st d ds h).wellFormed rfl hs
  | limit n h => exact (Step.limit n h).wellFormed rfl hs
  | clock ms => exact (Step.clock ms).wellFormed rfl hs

/-- What is done in a well-formed state leaves a well-formed one. -/
theorem Does.keeps_wellFormed {s t : GameState} (h : Does K s t) (hs : WellFormed s) :
    WellFormed t :=
  Lib.Path.preserves (fun _ _ _ _ hst => hst.keeps_wellFormed) h hs

-- =================================================================== frames

section Frames

variable {s : GameState} {env : Env} {connId : Nat} {payload : List UInt8}

/-- A frame of the game: one case for each kind of packet. -/
theorem does_onW3gsFrame (hs : WellFormed s) {id : UInt8}
    (hsound : (Event.cmd env (.frame connId (.w3gs id payload))).Sound)
    (hA : Admits K s (.cmd env (.frame connId (.w3gs id payload)))) :
    Does K s (s.onW3gsFrame env connId id payload) := by
  have hK := hA.plain
  unfold onW3gsFrame
  split
  · rename_i hid
    subst hid
    refine does_handleReqJoin hK hs (hA.queue rfl s) (hA.cache rfl)
      (hA.seat env connId payload rfl) hA.bounce hA.unhost _ _ _ ?_
    -- a join request of the pending connection of a seated player: the FULL rejoin
    intro hpend req pid hreq hseat
    refine hA.attachFull pid ?_ _ rfl rfl
    simp only [fullSeat, hpend, hreq, hseat, and_self, if_true]
  split
  · rename_i hid
    subst hid
    exact does_handleLeave hK (hA.queue rfl s) _ _
  split
  · exact does_handleAction hK s _ _
  split
  · rename_i hid
    subst hid
    refine does_handleKeepalive connId payload
      (fun checksum p => hA.ack env connId payload checksum p rfl)
      fun checksum hplay hsum => hA.check _ ?_
    simp [checkPoints, hplay, hsum]
  split
  · rename_i hid
    subst hid
    -- the frame is the line, so what the event commands is what the line commands
    have hcommand : s.command (.cmd env (.frame connId (.w3gs 0x28 payload)))
        = s.chatCommand connId payload := rfl
    have htoggle : s.chatCommand connId payload = some .fakePlayer →
        s.togglesFake (.cmd env (.frame connId (.w3gs 0x28 payload))) = true := by
      intro h
      simp only [togglesFake, hcommand, h]
    refine does_handleChatToHost hK hA.phase env hsound.1 connId payload ?_ hA.vacate hA.limit
      (fun hl => hA.slots (.inl hl)) (fun h => hA.seatFake (htoggle h))
      (fun h => hA.unfake (htoggle h)) ?_ ?_
    · intro cmd hcmd hedit
      refine hA.slots (.inr ?_)
      simp [editsSlots, hcommand, hcmd, hedit]
    · intro cmd hcmd hre hlobby
      refine hA.rehost ?_
      simp [rehosts, hcommand, hcmd, hre, hlobby]
    · intro line hline hphase hlen
      refine hA.record ?_
      -- only a line too long for a replay record reaches this
      have hspoken : s.spoken (.cmd env (.frame connId (.w3gs 0x28 payload))) = some line := hline
      simp [recordsLong, hspoken, hphase, hlen]
  split
  · rename_i hid
    subst hid
    exact hA.loaded env connId payload rfl
  split
  · exact does_handlePong hK s _ _
  split
  · rename_i hid
    subst hid
    -- a player without the map is reaped at once, in the handler itself
    refine does_handleMapSize hK hs connId payload fun pid hpid hwf => hA.reap _ ?_ hwf
    simp [reapPoints, hpid]
  split
  · exact does_handleMapPartOk hK s _ _
  split
  · exact does_handleMapPartNotOk hK s _ _
  split
  · exact does_handleDropRequest hK s
  · exact Does.refl s

omit [RustStd] in
/-- The verdict on a reconnect request reads the players only. -/
theorem handleGpsReconnect_verdict {t : GameState} (h : t.players = s.players) (connId : Nat)
    (req : ReconnectReq) (link : PlayerLink) :
    (t.handleGpsReconnect connId req link).2 = (s.handleGpsReconnect connId req link).2 := by
  unfold handleGpsReconnect
  rw [h]
  cases s.players.byPid req.pid with
  | none => rfl
  | some p =>
      dsimp only
      split
      · rfl
      cases p.gproxyBuffer with
      | none => rfl
      | some b =>
          dsimp only
          cases b.replayFrom req.lastPacket <;> rfl

/-- A request to come back on a connection that waits. -/
theorem does_onReconnectFrame (hs : WellFormed s) (hK : Plain K) (hqueue : K .queue s)
    (hgps : ∀ req link, gpsRequest.pendingRequest s connId payload = some (connId, req, link) →
      (s.handleGpsReconnect connId req link).2 = true →
      ∀ t, t.players = s.players → t.phase = s.phase → t.syncCounter = s.syncCounter →
        K (.attachGps req.pid) t) :
    Does K s (s.onReconnectFrame connId payload) := by
  unfold onReconnectFrame
  split
  · rename_i req e hreq he
    have hlink : e.link.sent = [] := hs.pending e (List.mem_of_find?_eq_some he)
    refine (does_unpend hqueue connId).trans
      (does_handleGpsReconnect hK connId req e.link hlink fun hok => ?_)
    have hverdict :=
      handleGpsReconnect_verdict (s := s) (t := s.unpend connId) rfl connId req e.link
    refine hgps req e.link ?_ (hverdict ▸ hok) _ rfl rfl rfl
    simp only [gpsRequest.pendingRequest, hreq, he]
  · exact Does.refl s

/-- The player says that it uses GProxy. -/
theorem does_enableGproxy (hK : Plain K) (s : GameState) (hc : connId ≠ hostConn) :
    Does K s { s with players := s.players.modifyConn connId Player.enableGproxy } := by
  refine Does.one (hK .gproxy rfl s) (.table rfl _ (moves_modifyConn connId fun p hp => .gproxy ?_))
  rw [byConn_connId hp]
  exact hc

omit [RustStd] in
/-- Two updates of the player found by connection are one, if the first
keeps the connection id. -/
theorem modifyConn_modifyConn (t : PlayerTable) (connId : Nat) {f g : Player → Player}
    (hf : ∀ p, (f p).connId = p.connId) :
    (t.modifyConn connId f).modifyConn connId g = t.modifyConn connId fun p => g (f p) := by
  induction t with
  | nil => rfl
  | cons p t ih =>
      unfold PlayerTable.modifyConn at ih ⊢
      by_cases h : (p.connId == connId) = true
      · simp [Lib.updateFirst, h, hf p]
      · simp only [Lib.updateFirst, h, if_false, Bool.false_eq_true]
        rw [ih]

/-- A greeting: the client uses GProxy, and is told how to reconnect. -/
theorem does_greetGproxy (hK : Plain K) (s : GameState) (hc : connId ≠ hostConn)
    (b : Player → Packet) (hb : ∀ p, (b p).isW3gs = false) (hsame : ∀ p, b p.enableGproxy = b p) :
    Does K s { s with players :=
      s.players.modifyConn connId fun p => p.enableGproxy.sendDirect (b p) } := by
  have henable := does_enableGproxy hK s hc
  have hhail := henable.trans (Does.one (hK .hail rfl _) (.table rfl _
    (moves_modifyConn (k := .hail) connId (f := fun p => p.sendDirect (b p)) fun p _ =>
      .hail _ (hb p))))
  dsimp only at hhail
  rw [modifyConn_modifyConn (f := Player.enableGproxy) _ _ fun p => rfl] at hhail
  simp only [hsame] at hhail
  exact hhail

/-- A frame of GProxy. -/
theorem does_onGpsFrame (hs : WellFormed s) {id : UInt8}
    (hsound : (Event.cmd env (.frame connId (.gps id payload))).Sound)
    (hA : Admits K s (.cmd env (.frame connId (.gps id payload)))) :
    Does K s (s.onGpsFrame connId id payload) := by
  have hK := hA.plain
  have hc : connId ≠ hostConn := hsound.2
  unfold onGpsFrame
  split
  · exact does_greetGproxy hK s hc
      (fun p => .gpsInit s.reconnectPort p.pid p.reconnectKey s.gproxyEmptyActions)
      (fun _ => rfl) (fun _ => rfl)
  split
  · exact does_enableGproxy hK s hc
  split
  · rename_i hid
    have hqueue := hA.queue (by simp [Event.queues, hid]) s
    refine does_onReconnectFrame hs hK hqueue fun req link hreq hok => hA.attachGps req.pid ?_
    simp only [gpsSeat, gpsRequest, if_pos hid, hreq, hok, if_true]
  split
  · rename_i hid
    split
    · exact Does.one (hA.cache (by simp [Event.caches, hid]) s) (.cache _)
    · exact Does.refl s
  · exact Does.refl s

/-- A token sent to the player found by connection. -/
theorem does_addToken (s : GameState) (connId : Nat)
    (htoken : ∀ p, s.players.byConn connId = some p → K (.token p.pid) s) (f : Player → Player)
    (hf : ∀ p, f p = p ∨ ∃ b, b.isRoster = false ∧ f p = p.sendDirect b) :
    Does K s { s with players := s.players.modifyConn connId f } := by
  cases hq : s.players.byConn connId with
  | none =>
      have hsame : s.players.modifyConn connId f = s.players := Lib.updateFirst_of_find?_none hq
      rw [hsame]
      exact Does.refl s
  | some q =>
      refine Does.one (htoken q hq) (.table rfl _ (moves_modifyConn connId fun p hp => ?_))
      rw [hq] at hp
      rw [Option.some.inj hp]
      rcases hf p with h | ⟨b, hb, h⟩
      · rw [h]
        exact .same
      · rw [h]
        exact .token b hb

/-- The rejoin token behind the greeting of an iCCup client. -/
def iccupToken (s : GameState) (p : Player) : Player :=
  match (Packet.rejoinToken p.pid p.reconnectKey s.reconnectPort s.cfg.map.crc
      s.cfg.map.sha1 s.cfg.name s.cfg.map.path).build with
  | some token => p.sendDirect token
  | none => p

/-- A frame of the GProxy of iCCup. -/
theorem does_onIccupGpsFrame (hs : WellFormed s) {id : UInt8}
    (hsound : (Event.cmd env (.frame connId (.iccupGps id payload))).Sound)
    (hA : Admits K s (.cmd env (.frame connId (.iccupGps id payload)))) :
    Does K s (s.onIccupGpsFrame connId id payload) := by
  have hK := hA.plain
  have hc : connId ≠ hostConn := hsound.2
  unfold onIccupGpsFrame
  split
  · rename_i hid
    subst hid
    let greet := fun p : Player => p.enableGproxy.sendDirect
      (.iccupInit s.reconnectPort p.pid p.reconnectKey s.gproxyEmptyActions)
    have hgreet : Does K s { s with players := s.players.modifyConn connId greet } :=
      does_greetGproxy hK s hc _ (fun _ => rfl) (fun _ => rfl)
    have htoken :=
      does_addToken (K := K) { s with players := s.players.modifyConn connId greet } connId
      ?_ (iccupToken s) ?_
    · have hboth := hgreet.trans htoken
      dsimp only at hboth
      rw [modifyConn_modifyConn (f := greet) _ _ fun p => rfl] at hboth
      exact hboth
    · intro q hq
      -- the greeted player is the one that was there
      have hfind : (s.players.modifyConn connId greet).byConn connId
          = (s.players.byConn connId).map greet := Lib.find?_updateFirst fun p _ hp => hp
      obtain ⟨p, hp, rfl⟩ := Option.map_eq_some_iff.1 (hfind.symm.trans hq)
      exact hA.token env connId payload p rfl hp _
    · intro p
      unfold iccupToken
      split
      · rename_i b hb
        exact .inr ⟨b, by rw [Packet.build_eq_some hb]; rfl, rfl⟩
      · exact .inl rfl
  split
  · exact does_enableGproxy hK s hc
  split
  · rename_i hid
    have hqueue := hA.queue (by simp [Event.queues, hid]) s
    refine does_onReconnectFrame hs hK hqueue fun req link hreq hok => hA.attachGps req.pid ?_
    simp only [gpsSeat, gpsRequest, if_pos hid, hreq, hok, if_true]
  · exact Does.refl s

end Frames

/-- A command, as admitted steps. -/
theorem does_handleCmd {s : GameState} (hs : WellFormed s) {env : Env} {c : GameCmd}
    (hsound : (Event.cmd env c).Sound) (hA : Admits K s (.cmd env c)) :
    Does K s (s.handleCmd env c) := by
  have hK := hA.plain
  cases c with
  | toggleFakePlayer =>
      have hsame : SameTable s s := ⟨rfl, rfl, rfl, rfl, rfl, rfl, rfl, rfl, rfl⟩
      exact does_toggleFakePlayer hK (fun hl => hA.seatFake rfl hl s hsame)
        (fun hl => hA.unfake rfl hl s hsame) env.fakeLink hsound.1
  | attachDotaTv => exact Does.refl s
  | newConn connId link ip =>
      refine Does.one (hA.queue rfl s) (.queue _ fun e he => ?_)
      rcases List.mem_append.1 he with he | he
      · exact .inl he
      · right
        rw [List.mem_singleton.1 he]
        exact hsound.2.2
  | adoptReconnect connId req link =>
      refine does_handleGpsReconnect hK connId req link hsound.2.2 fun hok => ?_
      refine hA.attachGps req.pid ?_ s rfl rfl rfl
      simp only [gpsSeat, gpsRequest, hok, if_true]
  | frame connId f =>
      cases f with
      | w3gs id payload => exact does_onW3gsFrame hs hsound hA
      | gps id payload => exact does_onGpsFrame hs hsound hA
      | iccupGps id payload => exact does_onIccupGpsFrame hs hsound hA
      | dotaTv => exact Does.refl s
  | closed connId reason =>
      exact does_handleConnClosed hK (hA.cache rfl s) (hA.queue rfl) connId reason
  | start => exact does_startCountdown s hA.phase
  | chat msg => exact does_sendChatAll hK s msg
  | unhost =>
      dsimp only [handleCmd]
      split
      · exact does_finish hK s
      · exact Does.refl s
  | shutdown => exact does_finish hK s
  | createVirtualHost => exact does_createVirtualHost (hA.host env rfl)

-- ===================================================================== ticks

section Ticks

variable (hK : Plain K) (s : GameState)
include hK

/-- The ping of a tick. -/
theorem does_tickPing : Does K s s.tickPing := by
  unfold tickPing
  split
  · have hair := does_air hK s (b := .pingFromHost ((s.now - s.createdAt) % 2 ^ 32)) rfl
    exact hair.trans (Does.misc hK (by constructor <;> rfl) (by rfl))
  · exact Does.refl s

/-- What every tick does first: the watch over those who are held, and the
ping. -/
theorem does_tickHead : Does K s s.tickHead := by
  unfold tickHead
  refine Does.trans ?_ (does_tickPing hK _)
  have hwait : s.pumpDownloads.cfg.reconnectWait = s.cfg.reconnectWait :=
    (does_pumpDownloads plain_inertOnly s).framed.reconnectWait
  rw [← hwait]
  exact (does_pumpDownloads hK s).trans (does_reapGproxyTimeouts hK _)

omit hK in
/-- It leaves the frame alone. -/
theorem tickHead_framed : Framed s s.tickHead := (does_tickHead plain_inertOnly s).framed

/-- The line that a lobby repeats. -/
theorem does_tickAnnounce : Does K s s.tickAnnounce := by
  unfold tickAnnounce
  split
  · rename_i msg _
    split
    · have hchat := does_sendChatAll hK s msg
      exact hchat.trans (Does.misc hK (by constructor <;> rfl) (by rfl))
    · exact Does.refl s
  · exact Does.refl s

omit hK [RustStd] in
/-- Every phase may end the game. -/
theorem phaseStep_over (ph : GamePhase) : PhaseStep ph .over := by
  cases ph <;> trivial

omit hK in
/-- The game is over. -/
theorem does_over (hphase : ∀ t, K .phase t) : Does K s (s.setPhase .over) :=
  Does.one (hphase s) (.phase .over (phaseStep_over _) (by simp))

/-- The tick of a lobby, which may be the last of it. -/
theorem does_tickLobby (hphase : ∀ t, K .phase t) : Does K s s.tickLobby := by
  have hannounce := does_tickAnnounce hK s
  unfold tickLobby
  dsimp only
  generalize s.tickAnnounce = t at hannounce
  split
  · have hseen : Does K s (if (t.players.any fun p => !p.virtualHost && p.reserved && p.left.isNone)
        = true then { t with lastReservedSeen := t.now } else t) := by
      split
      · exact hannounce.trans (Does.misc hK (by constructor <;> rfl) (by rfl))
      · exact hannounce
    generalize (if (t.players.any fun p => !p.virtualHost && p.reserved && p.left.isNone) = true
      then { t with lastReservedSeen := t.now } else t) = u at hseen
    split
    · exact hseen.trans (does_over u hphase)
    · exact hseen
  · exact hannounce

/-- The tick of a countdown: a number, or the begin of loading. -/
theorem does_tickCountdown (hphase : ∀ t, K .phase t) {startedAt total lastStep : Nat}
    (hph : s.phase = .countdown startedAt total lastStep)
    (hbegin : s.countdownDue = true → Does K s s.beginLoading) :
    Does K s (s.tickCountdown startedAt total lastStep) := by
  unfold tickCountdown
  dsimp only
  split
  · rename_i hdue
    exact hbegin (by simp [countdownDue, hph, hdue])
  split
  · refine Does.trans (Does.one (hphase s) (.phase _ ?_ (by simp))) (does_sendChatAll hK _ _)
    rw [hph]
    exact ⟨rfl, rfl⟩
  · exact Does.refl s

omit hK in
/-- The tick of a game that loads: who takes too long is marked and reaped,
and when all have loaded the game begins. -/
theorem does_tickLoading (hs : WellFormed s) (htimeout : K .timeout s)
    (hreap : s.loadingDue = true →
      WellFormed { s with players := s.players.map Player.loadingTimeout } →
      Does K { s with players := s.players.map Player.loadingTimeout }
        (GameState.reapLeftPlayers { s with players := s.players.map Player.loadingTimeout })) :
    Does K s s.tickLoading := by
  unfold tickLoading
  split
  · rename_i t ht
    split
    · rename_i hdue
      have htable : Does K s { s with players := s.players.map Player.loadingTimeout } :=
        Does.one htimeout (.table rfl _ (moves_map fun _ _ => .timeout))
      refine htable.trans (hreap ?_ (htable.keeps_wellFormed hs))
      simp [loadingDue, ht, hdue]
    · exact Does.refl s
  · exact Does.refl s

/-- The fake player is brought level with the game. -/
theorem does_level (s : GameState) (fpid : UInt8) (h : s.fakePlayerPid = some fpid) :
    Does K s { s with players :=
      s.players.modifyPid fpid fun p => { p with syncCounter := s.syncCounter } } := by
  refine Does.one (hK .level rfl s) (.table rfl _ (moves_modifyPid fpid fun p hp => .level ?_))
  rw [byPid_pid hp, h]

/-- A running game's tick up to the desync check. -/
theorem does_checkPoint (hfeed : K .feed s.tickHead) : Does K s.tickHead s.checkPoint := by
  unfold checkPoint
  dsimp only
  have hpump : Does K s.tickHead s.tickHead.pumpRejoinCatchup :=
    Does.one hfeed (.table rfl _ (moves_map fun _ _ => .feed))
  generalize s.tickHead.pumpRejoinCatchup = t at hpump
  split
  · rename_i fpid hfake
    exact hpump.trans (does_level hK t fpid hfake)
  · exact hpump

omit hK in
/-- The lag step is the check at its own point of the tick. -/
theorem tickLag_eq : s.tickHead.tickLag = s.lagPoint.checkLag := rfl

/-- A running game's tick up to the lag check. -/
theorem does_tickLag (hfeed : K .feed s.tickHead)
    (hcheck : Does K s.checkPoint s.checkPoint.checkDesync)
    (hlag : Does K s.lagPoint s.lagPoint.checkLag.1) : Does K s.tickHead s.tickHead.tickLag.1 := by
  rw [tickLag_eq]
  exact ((does_checkPoint hK s hfeed).trans hcheck).trans hlag

omit hK in
/-- It leaves the frame alone. -/
theorem tickLag_framed : Framed s.tickHead s.tickHead.tickLag.1 :=
  (does_tickLag plain_inertOnly s rfl
    (does_checkDesync plain_inertOnly (fun _ => rfl) (fun _ => rfl) _)
    (does_checkLag plain_inertOnly (fun _ => rfl) (fun _ => rfl) fun _ _ => rfl)).framed

/-- The game has been won for a while: whoever stays is marked. -/
theorem does_tickGameOver : Does K s s.tickGameOver := by
  unfold tickGameOver
  dsimp only
  have hset : Does K s
    (if s.realPlayers = 1 ∧ 1 < s.startPlayers ∧ s.gameOverTime.isNone = true then
      { s with gameOverTime := some s.now } else s) := by
    split
    · exact Does.misc hK (by constructor <;> rfl) (by rfl)
    · exact Does.refl s
  generalize (if s.realPlayers = 1 ∧ 1 < s.startPlayers ∧ s.gameOverTime.isNone = true then
    { s with gameOverTime := some s.now } else s) = t at hset
  split
  · split
    · refine hset.trans (Does.one (hK .leave rfl t) (.table rfl _ (moves_map fun p _ => ?_)))
      unfold Player.gameOverTimeout
      split
      · exact .leave _ _ rfl (by simp) (by decide)
      · exact .same
    · exact hset
  · exact hset

/-- The record of the match goes to the store. -/
theorem does_saveGameData : Does K s s.saveGameData := by
  unfold saveGameData
  dsimp only
  split
  · exact (does_storePush hK s _).trans (does_storePush hK _ _)
  · exact does_storePush hK s _

/-- The end of the last tick. -/
theorem does_tickEnd (hphase : ∀ t, K .phase t) : Does K s s.tickEnd := by
  unfold tickEnd
  split
  · refine Does.trans ?_ (does_saveGameData hK _)
    exact ((does_over s hphase).trans (does_relayPush hK _ rfl)).trans (does_finish hK _)
  · exact Does.refl s

/-- The tick of a running game, point by point: the feed, the check, the lag
screen, the turn and the end. -/
theorem does_tickPlaying (hphase : ∀ t, K .phase t) (hs : WellFormed s.tickHead)
    (hph : s.tickHead.phase = .playing) (hfeed : K .feed s.tickHead)
    (hcheck : Does K s.checkPoint s.checkPoint.checkDesync)
    (hlag : Does K s.lagPoint s.lagPoint.checkLag.1) (skipped : Nat)
    (hturn : ∀ t, s.tickHead.tickLag = (t, false) → t.started.isSome →
      Does K t (t.sendAllActions skipped)) : Does K s.tickHead
        (s.tickHead.tickPlaying skipped) := by
  have htick := does_tickLag hK s hfeed hcheck hlag
  have hstart := (tickLag_framed s).started
  unfold tickPlaying
  split
  · rename_i t ht
    rw [ht] at htick
    exact htick.trans (does_dropLaggingPlayers hK (htick.keeps_wellFormed hs) _)
  · rename_i t ht
    rw [ht] at htick
    have hstart' : t.started.isSome := by
      rw [ht] at hstart
      rw [hstart]
      exact hs.playing hph
    have hsend := htick.trans (hturn t ht hstart')
    exact (hsend.trans (does_tickGameOver hK _)).trans (does_tickEnd hK _ hphase)

end Ticks

/-- A tick, as admitted steps. -/
theorem does_onTick {s : GameState} (hs : WellFormed s) {skipped : Nat}
    (hA : Admits K s (.tick skipped)) : Does K s (s.onTick skipped) := by
  have hK := hA.plain
  have hhead := does_tickHead hK s
  have hs' := hhead.keeps_wellFormed hs
  have hphase := (tickHead_framed s).phase
  unfold onTick
  dsimp only
  refine hhead.trans ?_
  split
  · exact (does_tickLobby hK _ hA.phase).trans (does_tickEnd hK _ hA.phase)
  · rename_i hph
    exact (does_tickCountdown hK _ hA.phase hph (hA.begin skipped rfl)).trans
      (does_tickEnd hK _ hA.phase)
  · rename_i hph
    have hload : s.phase = .loading := hphase ▸ hph
    refine (does_tickLoading _ hs' (hA.timeout skipped rfl hload) fun hdue hwf =>
      hA.reap _ ?_ hwf).trans (does_tickEnd hK _ hA.phase)
    simp [reapPoints, hload, hdue]
  · rename_i hph
    have hplay : s.phase = .playing := hphase ▸ hph
    refine does_tickPlaying hK s hA.phase hs' hph (hA.feed skipped rfl hplay) (hA.check _ ?_)
      (hA.lagCheck skipped rfl hplay) skipped fun t => hA.sendTurn skipped t rfl hplay
    simp [checkPoints, hplay]
  · exact (does_finish hK _).trans (does_tickEnd hK _ hA.phase)

-- ============================================================ one iteration

/-- The supervisor is told how the lobby stands. -/
theorem does_reportLobby (hK : Plain K) (s : GameState) : Does K s s.reportLobby := by
  unfold reportLobby
  dsimp only
  split
  · exact Does.trans (Does.misc hK (by constructor <;> rfl) (by rfl)) (does_emitLobbyStatus hK _)
  · exact Does.refl s

/-- The handling of an event, as admitted steps. -/
theorem does_handle {s : GameState} (hs : WellFormed s) {ev : Event} (hsound : ev.Sound)
    (hA : Admits K s ev) : Does K s (s.handle ev) := by
  cases ev with
  | elapse ms => exact Does.one (hA.plain .clock rfl s) (.clock ms)
  | cmd env c => exact does_handleCmd hs hsound hA
  | tick skipped => exact does_onTick hs hA

/-- The reaper is called at the end of the handling. -/
theorem handle_mem_reapPoints {s : GameState} {ev : Event} (h₁ : ∀ ms, ev ≠ .elapse ms)
    (h₂ : ∀ env, ev ≠ .cmd env .shutdown) : s.handle ev ∈ s.reapPoints ev := by
  unfold reapPoints
  split
  · exact absurd rfl (h₁ _)
  · exact absurd rfl (h₂ _)
  · exact List.mem_append_right _ (List.mem_singleton.2 rfl)
  · exact List.mem_append_right _ (List.mem_singleton.2 rfl)
  · exact List.mem_singleton.2 rfl

/-- One iteration of the loop, as admitted steps. -/
theorem does_step {s : GameState} (hs : WellFormed s) {ev : Event} (hsound : ev.Sound)
    (hA : Admits K s ev) : Does K s (s.step ev) := by
  have hhandle := does_handle hs hsound hA
  unfold step
  split
  · exact Does.refl s
  split
  · exact hhandle
  · exact hhandle
  · rename_i hne₁ hne₂
    have hreap := hhandle.trans (hA.reap _ (handle_mem_reapPoints hne₁ hne₂)
      (hhandle.keeps_wellFormed hs))
    exact hreap.trans (does_reportLobby hA.plain _)

/-- The kinds that some property restricts. -/
def Kind.guarded : Kind → Bool
  | slots | vacate _ | limit | seat | bounce | seatFake | token _ | host | unhost | unfake
  | attachFull _ | attachGps _ | ack .. | queue | cache | feed | timeout | rehost
  | record false => true
  | _ => false

omit [RustStd] in
/-- The kinds that a guard is asked about are not the tick's own. -/
theorem Kind.fine_of_guarded {k : Kind} (h : k.guarded = true) : k.fine = true := by
  cases k <;> first | rfl | cases h

omit [RustStd] in
/-- The kinds admitted throughout are small steps that nothing
restricts. -/
theorem Kind.free_of_plain {k : Kind} (h : k.plain = true) : k.fine = true ∧ k.guarded = false := by
  cases k with
  | record fits => cases fits <;> first | exact ⟨rfl, rfl⟩ | cases h
  | _ => first | exact ⟨rfl, rfl⟩ | cases h

/-- A guard that restricts none of these kinds. -/
theorem Guards.of_free {s : GameState} {ev : Event} (hphase : ∀ t, K .phase t)
    (hfree : ∀ k, k.guarded = true → ∀ t, K k t) : Guards K s ev where
  phase := hphase
  slots _ t _ := hfree .slots rfl t
  vacate _ sid _ _ t _ := hfree (.vacate sid) rfl t
  limit := hfree .limit rfl
  seat _ _ _ _ _ t _ := hfree .seat rfl t
  bounce _ := hfree .bounce rfl
  seatFake _ _ t _ := hfree .seatFake rfl t
  token _ _ _ p _ _ := hfree (.token p.pid) rfl
  host _ _ := hfree .host rfl s
  unhost t _ _ := hfree .unhost rfl t
  unfake _ _ t _ := hfree .unfake rfl t
  rehost _ t _ := hfree .rehost rfl t
  record _ t _ := hfree (.record false) rfl t
  attachFull pid _ t _ _ := hfree (.attachFull pid) rfl t
  attachGps pid _ t _ _ _ := hfree (.attachGps pid) rfl t
  ack _ _ _ checksum p _ _ _ _ := hfree (.ack p.pid checksum) rfl s
  queue _ := hfree .queue rfl
  cache _ := hfree .cache rfl
  feed _ _ _ := hfree .feed rfl _
  timeout _ _ _ := hfree .timeout rfl _

/-- A guard that takes every function in pieces, but perhaps the desync
check, and grants the turns of a tick one by one. -/
theorem admits_turn {s : GameState} {ev : Event}
    (hfree : ∀ k, k.fine = true → k.guarded = false → k ≠ .pop → k ≠ .desync → k ≠ .turn →
      ∀ t, K k t)
    (hguards : Guards K s ev)
    (hunhost : ∀ t, SameHost s.tickHead t → t.phase = .loading → K .unhost t)
    (hcheck : ∀ t ∈ s.checkPoints ev, Does K t t.checkDesync)
    (hturn : ∀ skipped t, ev = .tick skipped → s.phase = .playing →
      s.tickHead.tickLag = (t, false) → K .turn t) : Admits K s ev := by
  have hplain : Plain K := by
    intro k hk t
    exact hfree k (Kind.free_of_plain hk).1 (Kind.free_of_plain hk).2
      (by rintro rfl; cases hk) (by rintro rfl; cases hk) (by rintro rfl; cases hk) t
  have hfree : ∀ k, k.fine = true → k.guarded = false → k ≠ .pop ∧ k ≠ .desync ∧ k ≠ .turn →
      ∀ t, K k t :=
    fun k hfine hguarded hne => hfree k hfine hguarded hne.1 hne.2.1 hne.2.2
  exact
    { toGuards := hguards
      plain := hplain
      reap := fun t _ ht => does_reapLeftPlayers hplain (hfree .phase rfl rfl (by simp))
        (hfree .leaver rfl rfl (by simp)) (hfree .unseat rfl rfl (by simp))
          (fun t _ => hfree .restart rfl rfl (by simp) t) ht
      begin := fun _ _ hdue => does_beginLoading hplain (hfree .toLoading rfl rfl (by simp) _)
        (fun t _ => hfree .hcl rfl rfl (by simp) t) hunhost (hfree .load rfl rfl (by simp))
        (fun t _ => hfree .restart rfl rfl (by simp) t) (phaseStep_of_countdownDue hdue)
      loaded := fun _ _ _ _ => does_handleLoaded hplain (hfree .arm rfl rfl (by simp))
        (hfree .tooLong rfl rfl (by simp)) (hfree .load rfl rfl (by simp))
        (fun _ _ _ _ => hfree .restart rfl rfl (by simp) _)
      check := hcheck
      lagCheck := fun _ _ _ => does_checkLag hplain (hfree .lag rfl rfl (by simp))
        (hfree .airLag rfl rfl (by simp)) fun _ => hfree .reset rfl rfl (by simp)
      sendTurn := fun skipped t hev hplay hlag hstart => does_sendAllActions hplain
        (hturn skipped t hev hplay hlag) (hfree .block rfl rfl (by simp)) hstart skipped }

/-- A guard that takes every function in pieces, but perhaps the desync
check. -/
theorem admits_check {s : GameState} {ev : Event}
    (hfree : ∀ k, k.fine = true → k.guarded = false → k ≠ .pop → k ≠ .desync → ∀ t, K k t)
    (hguards : Guards K s ev)
    (hunhost : ∀ t, SameHost s.tickHead t → t.phase = .loading → K .unhost t)
    (hcheck : ∀ t ∈ s.checkPoints ev, Does K t t.checkDesync) : Admits K s ev :=
  admits_turn (fun k hfine hguarded hpop hdesync _ => hfree k hfine hguarded hpop hdesync) hguards
    hunhost hcheck fun _ t _ _ _ => hfree .turn rfl rfl (by simp) (by simp) t

/-- A guard that takes every function in pieces. -/
theorem admits_fine {s : GameState} {ev : Event}
    (hfree : ∀ k, k.fine = true → k.guarded = false → ∀ t, K k t) (hguards : Guards K s ev)
    (hunhost : ∀ t, SameHost s.tickHead t → t.phase = .loading → K .unhost t) : Admits K s ev := by
  have hplain : Plain K := by
    intro k hk t
    exact hfree k (Kind.free_of_plain hk).1 (Kind.free_of_plain hk).2 t
  exact admits_check (fun k hfine hguarded _ _ => hfree k hfine hguarded) hguards hunhost
    fun t _ => does_checkDesync hplain (hfree .pop rfl rfl) (hfree .desync rfl rfl) t

/-- Everything is admitted. -/
theorem admits_anyFine (s : GameState) (ev : Event) : Admits anyFine s ev :=
  admits_fine (fun _ hk _ _ => hk)
    (.of_free (fun _ => rfl) fun _ hk _ => Kind.fine_of_guarded hk) fun _ _ _ => rfl

/-- Every iteration keeps the state well-formed. -/
theorem step_wellFormed {s : GameState} (hs : WellFormed s) {ev : Event} (hsound : ev.Sound) :
    WellFormed (s.step ev) :=
  (does_step hs hsound (admits_anyFine s ev)).keeps_wellFormed hs

/-- A new game is well-formed. -/
theorem new_wellFormed (cfg : GameConfig) (now : Nat) (seed : UInt32) :
    WellFormed (GameState.new cfg now seed) where
  pids := List.nodup_nil
  players _ hp := nomatch hp
  pending _ he := nomatch he
  history h := absurd rfl h
  started h := nomatch h
  playing h := nomatch h
  holds := List.nodup_nil

-- ====================================================================== runs

/-- `t` is reached from `s` by iterations on sound events, each of
which meets the condition `C` in the state it starts in. -/
def Runs (C : GameState → Event → Prop) : GameState → GameState → Prop :=
  Lib.Path (fun ev s t => t = s.step ev) fun ev s => ev.Sound ∧ C s ev

/-- `t` is a state of a game, between two iterations. -/
def Reaches (C : GameState → Event → Prop) (t : GameState) : Prop :=
  ∃ cfg now seed, Runs C (GameState.new cfg now seed) t

/-- Every event of a list is sound and meets `C` where it is handled. -/
def Meets (C : GameState → Event → Prop) : GameState → List Event → Prop
  | _, [] => True
  | s, ev :: evs => (ev.Sound ∧ C s ev) ∧ Meets C (s.step ev) evs

/-- Whether a list of events meets a decidable condition. -/
def decideMeets {C : GameState → Event → Prop} (h : ∀ s ev, Decidable (C s ev)) :
    (s : GameState) → (evs : List Event) → Decidable (Meets C s evs)
  | _, [] => isTrue trivial
  | s, ev :: evs =>
      have := h s ev
      have := decideMeets h (s.step ev) evs
      inferInstanceAs (Decidable ((ev.Sound ∧ C s ev) ∧ Meets C (s.step ev) evs))

instance {C : GameState → Event → Prop} [h : ∀ s ev, Decidable (C s ev)] (s : GameState)
    (evs : List Event) : Decidable (Meets C s evs) := decideMeets h s evs

section Runs

variable {C C' : GameState → Event → Prop} {s t : GameState}

/-- A list of events that all meet the condition is a run. -/
theorem Runs.of_meets {evs : List Event} (h : Meets C s evs) : Runs C s (s.run evs) := by
  induction evs generalizing s with
  | nil => exact Lib.Path.refl s
  | cons ev evs ih =>
      have hone : Runs C s (s.step ev) := Lib.Path.one (k := ev) h.1 rfl
      exact hone.trans (ih h.2)

/-- A run keeps what every iteration keeps. -/
theorem Runs.preserves {I : GameState → Prop} (h : Runs C s t) (hs : WellFormed s) (hI : I s)
    (hstep : ∀ s ev, WellFormed s → ev.Sound → C s ev → I s → I (s.step ev)) :
    WellFormed t ∧ I t := by
  refine Lib.Path.preserves (I := fun s => WellFormed s ∧ I s) ?_ h ⟨hs, hI⟩
  rintro ev s _ ⟨hsound, hC⟩ rfl ⟨hs, hI⟩
  exact ⟨step_wellFormed hs hsound, hstep s ev hs hsound hC hI⟩

/-- A run keeps to well-formed states. -/
theorem Runs.wellFormed (h : Runs C s t) (hs : WellFormed s) : WellFormed t :=
  (h.preserves (I := fun _ => True) hs trivial fun _ _ _ _ _ _ => trivial).1

/-- What holds of a new game and is kept by every iteration holds
throughout. -/
theorem Reaches.preserves {I : GameState → Prop} (h : Reaches C t)
    (hnew : ∀ cfg now seed, I (GameState.new cfg now seed))
    (hstep : ∀ s ev, WellFormed s → ev.Sound → C s ev → I s → I (s.step ev)) :
    WellFormed t ∧ I t := by
  obtain ⟨cfg, now, seed, hrun⟩ := h
  exact hrun.preserves (new_wellFormed cfg now seed) (hnew cfg now seed) hstep

/-- Every state of a game is well-formed. -/
theorem Reaches.wellFormed (h : Reaches C t) : WellFormed t := by
  obtain ⟨cfg, now, seed, hrun⟩ := h
  exact hrun.wellFormed (new_wellFormed cfg now seed)

end Runs

end Spectre

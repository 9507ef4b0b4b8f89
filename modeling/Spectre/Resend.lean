/-
What a reconnecting client is told to send again.

Both sides of a GProxy connection count. The client tells the game how
many packets it has got, and the game replays the rest from its buffer;
the game tells the client how many it has got, and the client sends the
rest again. The second count is meant to be of what came from the
client. What the reply carries is the count of the buffer, which is of
what went to it: the two agree only when as many packets went one way
as the other (`reconnect_count_iff`). Otherwise the client leaves out
packets the game never had, or sends some twice.

`received` keeps the count that the game does not: the frames handled
on the connection of a player since its buffer was created.
-/
import Spectre.Supervisor

namespace Spectre

open GameState

-- ================================================================== the frames

namespace GameState

variable [RustStd]

/-- The W3GS frame that an event brings from the player `pid`. -/
def frameFrom (s : GameState) (pid : UInt8) : Event → List (UInt8 × List UInt8)
  | .cmd _ (.frame connId (.w3gs id payload)) =>
      if !s.finished ∧ (s.players.byConn connId).map Player.pid = some pid then [(id, payload)]
      else []
  | _ => []

/-- The player's GProxy buffer. -/
def bufferOf (s : GameState) (pid : UInt8) : Option GProxyBuffer :=
  (s.players.byPid pid).bind Player.gproxyBuffer

/-- The W3GS frames received from the player since its buffer was
created, at the end of a run from `s`, where they were `got`. -/
def received (pid : UInt8) : GameState → List (UInt8 × List UInt8) → List Event →
    List (UInt8 × List UInt8)
  | _, got, [] => got
  | s, got, ev :: evs =>
      let got := if (s.bufferOf pid).isSome then got ++ s.frameFrom pid ev else []
      received pid (s.step ev) got evs

/-- The W3GS frames a run brings from the player. -/
def brought (pid : UInt8) : GameState → List Event → List (UInt8 × List UInt8)
  | _, [] => []
  | s, ev :: evs => s.frameFrom pid ev ++ brought pid (s.step ev) evs

/-- The player is there, with its buffer, wherever an event of the run
is handled. -/
def KeepsBuffer (pid : UInt8) : GameState → List Event → Prop
  | _, [] => True
  | s, ev :: evs => (s.bufferOf pid).isSome ∧ KeepsBuffer pid (s.step ev) evs

/-- The link of the player, which `ev` has put on a new one. -/
def linkAfter (s : GameState) (ev : Event) (pid : UInt8) : Option PlayerLink :=
  ((s.handle ev).players.byPid pid).map Player.link

-- ==================================================================== counting

variable {s : GameState} {pid : UInt8}

theorem received_append (got : List (UInt8 × List UInt8)) (evs more : List Event) :
    received pid s got (evs ++ more) = received pid (s.run evs) (received pid s got evs) more := by
  induction evs generalizing s got with
  | nil => rfl
  | cons ev evs ih => exact ih _

/-- While the player keeps its buffer, what it sends is added. -/
theorem received_of_keepsBuffer (got : List (UInt8 × List UInt8)) {evs : List Event}
    (h : KeepsBuffer pid s evs) : received pid s got evs = got ++ brought pid s evs := by
  induction evs generalizing s got with
  | nil => exact (List.append_nil got).symm
  | cons ev evs ih =>
      rw [received, if_pos h.1, ih _ h.2, brought, List.append_assoc]

end GameState

/-- A client that sends everything again from position `n` on completes
what was received, whatever it has sent, exactly if `n` packets were
received. -/
theorem resend_completes_iff {α : Type} [Inhabited α] (got : List α) (n : Nat) :
    (∀ pkts, got <+: pkts → got ++ pkts.drop n = pkts) ↔ n = got.length := by
  constructor
  · intro h
    have hone := congrArg List.length (h (got ++ [default]) (List.prefix_append _ _))
    have htwo := congrArg List.length (h (got ++ [default, default]) (List.prefix_append _ _))
    simp only [List.length_append, List.length_drop, List.length_cons, List.length_nil] at hone htwo
    omega
  · rintro rfl pkts ⟨rest, rfl⟩
    rw [List.drop_left]

-- ================================================================= the reply

section Reply

variable [RustStd] {s : GameState} {ev : Event} {connId : Nat} {req : ReconnectReq}
  {link : PlayerLink}

omit [RustStd] in
/-- A reconnect frame of a connection that waits is handed to the
reconnect handler. -/
theorem onReconnectFrame_of_pending {c : Nat} {payload : List UInt8} {e : Pending}
    (hdec : decodeReconnect payload = .ok req)
    (hfind : (s.pending.find? fun e => e.connId == c) = some e) :
    s.onReconnectFrame c payload = ((s.unpend c).handleGpsReconnect c req e.link).1 := by
  unfold onReconnectFrame
  rw [hdec, hfind]

/-- An event that carries a request is handled by the reconnect handler,
on a link that is new. -/
theorem handle_gpsRequest (hs : WellFormed s) (hev : ev.Sound)
    (h : s.gpsRequest ev = some (connId, req, link)) :
    link.sent = [] ∧ ∃ t : GameState, t.players = s.players
      ∧ s.handle ev = (t.handleGpsReconnect connId req link).1 := by
  -- both reconnect frames, of GProxy and of iCCup, go the same way
  have hframe : ∀ {c : Nat} {payload : List UInt8},
      gpsRequest.pendingRequest s c payload = some (connId, req, link) → link.sent = []
        ∧ ∃ t : GameState, t.players = s.players
          ∧ s.onReconnectFrame c payload = (t.handleGpsReconnect connId req link).1 := by
    intro c payload h
    unfold gpsRequest.pendingRequest at h
    split at h
    · rename_i r e hdec hfind
      cases h
      exact ⟨hs.pending e (List.mem_of_find?_eq_some hfind), s.unpend connId, rfl,
        onReconnectFrame_of_pending hdec hfind⟩
    · cases h
  cases ev with
  | elapse ms => cases h
  | tick skipped => cases h
  | cmd env c =>
      cases c with
      | adoptReconnect c r l =>
          cases h
          exact ⟨hev.2.2, s, rfl, rfl⟩
      | frame c f =>
          cases f with
          | gps id payload =>
              have h' : (if id = 0x02 then gpsRequest.pendingRequest s c payload else none)
                = some (connId, req, link) := h
              split at h'
              · rename_i hid
                subst hid
                exact hframe h'
              · cases h'
          | iccupGps id payload =>
              have h' : (if id = 0x16 then gpsRequest.pendingRequest s c payload else none)
                = some (connId, req, link) := h
              split at h'
              · rename_i hid
                subst hid
                exact hframe h'
              · cases h'
          | _ => cases h
      | _ => cases h

omit [RustStd] in
/-- An event that carries a request brings no frame of a player. -/
theorem frameFrom_gpsRequest (h : s.gpsRequest ev = some (connId, req, link)) (pid : UInt8) :
    s.frameFrom pid ev = [] := by
  unfold frameFrom
  split
  · cases h
  · rfl

omit [RustStd] in
/-- What a game takes a player back with is the count of its buffer, and
what the buffer has behind the client's own count. -/
theorem bufferOf_of_grant {total : Nat} {replay : List Packet}
    (h : s.grant? req = some (total, replay)) :
    ∃ b, s.bufferOf req.pid = some b ∧ total = b.totalSent
      ∧ b.replayFrom req.lastPacket = some replay := by
  unfold grant? at h
  unfold bufferOf
  cases hp : s.players.byPid req.pid with
  | none =>
      rw [hp] at h
      cases h
  | some p =>
      rw [hp] at h
      dsimp only at h
      split at h
      · cases h
      · split at h
        · cases h
        · rename_i b hb
          obtain ⟨_, hreplay, he⟩ := Option.map_eq_some_iff.1 h
          cases he
          exact ⟨b, hb, rfl, hreplay⟩

/-- A request that is granted puts the player on the new link, and the
first packet on it carries the count of the buffer. -/
theorem linkAfter_gpsRequest (hs : WellFormed s) (hev : ev.Sound)
    (h : s.gpsRequest ev = some (connId, req, link))
    (hgrant : (s.handleGpsReconnect connId req link).2 = true) (hroom : link.next = .room) :
    ∃ b l, s.bufferOf req.pid = some b ∧ s.linkAfter ev req.pid = some l
      ∧ l.sent.head? = some ⟨.reconnectOk b.totalSent, .personal⟩ := by
  obtain ⟨hlink, t, hplayers, hhandle⟩ := handle_gpsRequest hs hev h
  rw [← handleGpsReconnect_verdict hplayers] at hgrant
  cases hg : t.grant? req with
  | none =>
      obtain ⟨_, hreject⟩ : ∃ reason, t.handleGpsReconnect connId req link
          = (t.refuse connId (.gpsReject reason), false) := handleGpsReconnect_reject hg
      rw [hreject] at hgrant
      cases hgrant
  | some g =>
      obtain ⟨total, replay⟩ := g
      obtain ⟨b, hb, rfl, -⟩ := bufferOf_of_grant hg
      obtain ⟨p, hp, heq⟩ : ∃ p, t.players.byPid req.pid = some p
          ∧ t.handleGpsReconnect connId req link
            = ({ t with players := t.players.modifyPid req.pid fun p =>
                p.attachGps connId link b.totalSent replay }, true) := handleGpsReconnect_grant hg
      obtain ⟨q, hq, hanswer⟩ : ∃ q : Player,
          q.link = link.push ⟨.reconnectOk b.totalSent, .personal⟩
          ∧ t.answered connId req link = (q.sendWhileOk replay).link := answered_grant hg
      have hfound := PlayerTable.byPid_attachGps hp connId link b.totalSent replay
      refine ⟨b, t.answered connId req link, ?_, ?_, ?_⟩
      · unfold bufferOf
        rw [← hplayers]
        exact hb
      · unfold linkAfter answered
        rw [hhandle, heq]
        dsimp only
        rw [if_pos rfl, hfound]
        rfl
      · have hsent : q.link.sent = [⟨.reconnectOk b.totalSent, .personal⟩] := by
          rw [hq, PlayerLink.push_sent_room _ hroom, hlink]
          rfl
        obtain ⟨rest, hrest⟩ := (pushes_sendWhileOk replay q).sent_grows
        rw [hanswer, ← hrest, hsent]
        rfl

/-- A run on sound events keeps the state well-formed. -/
theorem run_wellFormed {evs : List Event} (hs : WellFormed s) (hsound : ∀ e ∈ evs, e.Sound) :
    WellFormed (s.run evs) := by
  induction evs generalizing s with
  | nil => exact hs
  | cons ev evs ih =>
      exact ih (step_wellFormed hs (hsound ev List.mem_cons_self))
        fun e he => hsound e (List.mem_cons_of_mem _ he)

/-- Take any run, and a request that is granted at the end of it on a
link with room for the reply. The reply carries the number of packets
that the buffer was given, in 32 bits. It is the number of packets that
were received from the player exactly if as many went one way as the
other, and only then does a client that sends everything again behind
that number complete what was received, whatever it had sent. -/
theorem reconnect_count_iff {cfg : GameConfig} {now : Nat} {seed : UInt32} {evs : List Event}
    (hrun : (GameState.new cfg now seed).run evs = s) (hsound : ∀ e ∈ evs, e.Sound) (hev : ev.Sound)
    (h : s.gpsRequest ev = some (connId, req, link))
    (hgrant : (s.handleGpsReconnect connId req link).2 = true) (hroom : link.next = .room) :
    let got := received req.pid (GameState.new cfg now seed) [] evs
    ∃ b n l, s.bufferOf req.pid = some b ∧ s.linkAfter ev req.pid = some l
      ∧ l.sent.head? = some ⟨.reconnectOk n, .personal⟩
      ∧ (n = got.length ↔ b.log.length % 2 ^ 32 = got.length)
      ∧ ((∀ pkts, got <+: pkts → got ++ pkts.drop n = pkts)
        ↔ b.log.length % 2 ^ 32 = got.length)
      ∧ ∀ more, KeepsBuffer req.pid (s.step ev) more →
        received req.pid (GameState.new cfg now seed) [] (evs ++ ev :: more)
          = got ++ brought req.pid (s.step ev) more := by
  intro got
  have hs : WellFormed s := hrun ▸ run_wellFormed (new_wellFormed cfg now seed) hsound
  obtain ⟨b, l, hb, hl, hhead⟩ := linkAfter_gpsRequest hs hev h hgrant hroom
  refine ⟨b, b.totalSent, l, hb, hl, hhead, ?_, ?_, fun more hmore => ?_⟩
  · rw [b.totalSent_eq]
  · rw [resend_completes_iff, b.totalSent_eq]
  · rw [received_append, hrun, received, if_pos (by rw [hb]; rfl), frameFrom_gpsRequest h,
      List.append_nil, received_of_keepsBuffer _ hmore]

end Reply

section Runs

open Scenario

/-- Two clients play and the second uses GProxy: one turn is sent to it
and it acknowledges it, and its connection breaks. -/
def evenGame : List Event :=
  twoPlay PlayerLink.drained PlayerLink.drained ++ [hello 2, .elapse 100, .tick 0, keepalive 2,
    closed 2, connect 3 PlayerLink.drained]

theorem reconnect_count_iff_evenGame :
    (received 2 lobby [] evenGame).length = 1
      ∧ ∃ b n l, (lobby.run evenGame).bufferOf 2 = some b
        ∧ (lobby.run evenGame).linkAfter (reconnect 3 2 1) 2 = some l
        ∧ l.sent.head? = some ⟨.reconnectOk n, .personal⟩
        ∧ (n = (received 2 lobby [] evenGame).length
          ↔ b.log.length % 2 ^ 32 = (received 2 lobby [] evenGame).length) := by
  obtain ⟨⟨connId, req, link⟩, h⟩ := Option.isSome_iff_exists.1
    (show ((lobby.run evenGame).gpsRequest (reconnect 3 2 1)).isSome by decide +kernel)
  have hrequest : ∀ x ∈ (lobby.run evenGame).gpsRequest (reconnect 3 2 1), x.2.1.pid = 2
      ∧ ((lobby.run evenGame).handleGpsReconnect x.1 x.2.1 x.2.2).2 = true
      ∧ x.2.2.next = .room := by decide +kernel
  obtain ⟨hpid, hgrant, hroom⟩ := hrequest _ h
  dsimp only at hpid
  obtain ⟨b, n, l, hb, hl, hhead, hiff, -⟩ :=
    reconnect_count_iff (show (GameState.new config 0 5).run evenGame = lobby.run evenGame from rfl)
      (by decide +kernel) (by decide +kernel) h hgrant hroom
  rw [hpid] at hb hl hiff
  exact ⟨by decide +kernel, b, n, l, hb, hl, hhead, hiff⟩

/-- The same with two turns, of which the client has acknowledged
one. -/
def oddGame : List Event :=
  twoPlay PlayerLink.drained PlayerLink.drained ++ [hello 2, .elapse 100, .tick 0, .elapse 100,
    .tick 0, keepalive 2, closed 2, connect 3 PlayerLink.drained]

/-- One packet was received from the client and the reply says two: of
three packets that it has sent the second is lost. -/
theorem reply_counts_other_direction :
    (∀ ev ∈ oddGame ++ [reconnect 3 2 2], ev.Sound)
      ∧ (lobby.run oddGame).gpsSeat (reconnect 3 2 2) = some 2
      ∧ (((lobby.run oddGame).linkAfter (reconnect 3 2 2) 2).map fun l => l.sent.head?)
        = some (some ⟨.reconnectOk 2, .personal⟩)
      ∧ received 2 lobby [] oddGame = [(0x27, [0, 1, 0, 0, 0])]
      ∧ ¬∀ pkts, received 2 lobby [] oddGame <+: pkts →
        received 2 lobby [] oddGame ++ pkts.drop 2 = pkts := by
  have hgot : received 2 lobby [] oddGame = [(0x27, [0, 1, 0, 0, 0])] := by decide +kernel
  refine ⟨by decide +kernel, by decide +kernel, by decide +kernel, hgot, fun h => ?_⟩
  rw [hgot] at h
  have hthree := h [(0x27, [0, 1, 0, 0, 0]), (0x27, [0, 2, 0, 0, 0]), (0x27, [0, 3, 0, 0, 0])]
    (List.prefix_append _ _)
  exact absurd hthree (by decide)

end Runs

end Spectre

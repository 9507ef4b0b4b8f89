/-
Frames reach their game.

Between the reader of a connection and its game stand two queues. The
reader waits for room in the first; the supervisor does not wait for
room in the second, and a frame that finds none is gone
(`full_mailbox_loses_keepalive`). Everything else keeps the frames and
their order, so a game handles what was decoded exactly if every frame
of the connection finds room.

What the game handles it counts: from any moment of the running game on,
a player's count goes up by the keepalives its connection brought.
-/
import Spectre.Routing
import Spectre.Scenario
import Spectre.Tally

namespace Spectre

open Routing

-- ================================================================= statement

/-- The connection is the game's, or about to be. -/
structure Routed (r : Routing) (connId game : Nat) : Prop where
  connToGame : r.connToGame connId = some game
  notices : ∀ n ∈ r.notices, n.1 = connId → n.2 = game

/-- An action does not give the connection to another game. A connection
is accepted or adopted once. -/
def RoutingAction.Keeps (connId game : Nat) : RoutingAction → Prop
  | accept c g _ _ => c = connId → g = game
  | announce c g => c = connId → g = game
  | _ => True

/-- The event that is routed, if it is the connection's, finds room in
the game's command queue. -/
def Room (connId game : Nat) (r : Routing) (a : RoutingAction) : Prop :=
  a = .route → ∀ ev ∈ r.events.head?, ev.connId = connId → (r.mailbox game).length < cmdCapacity

/-- The checksum of a keepalive. -/
def ConnEventKind.keepalive? : ConnEventKind → Option Nat
  | frame f => f.keepalive?
  | closed _ => none

/-- What the game does next it does in the running game, with the player
on the connection, and the player's count is not set back. -/
structure Counts (pid : UInt8) (connId : Nat) (s : GameState) (ev : Event) : Prop
    extends CountsOn pid s ev where
  seat : ∃ p, s.players.byConn connId = some p ∧ p.pid = pid ∧ p.virtualHost = false

/-- `Counts`, in a run of the whole. -/
def Counting (pid : UInt8) (connId game : Nat) (r : Routing) (a : RoutingAction) : Prop :=
  ∀ ev ∈ r.event? game a, Counts pid connId (r.state game) ev

section Proofs

variable [RustStd] {r : Routing} {connId game : Nat} {pid : UInt8}

-- ====================================================================== frames

namespace Routed

theorem step (h : Routed r connId game) {a : RoutingAction} (ha : a.Keeps connId game) :
    Routed (r.step a) connId game := by
  have hstay : a.binds = false → Routed (r.step a) connId game := fun hbinds => by
    obtain ⟨htable, hnotices⟩ := table_step (r := r) hbinds
    exact ⟨by rw [htable]; exact h.connToGame, by rw [hnotices]; exact h.notices⟩
  cases a with
  | accept c g link externalIp =>
      refine ⟨?_, ?_⟩
      · show Function.update r.connToGame c (some g) connId = some game
        -- the table is written at one connection, and for this one with its own game
        by_cases hsame : connId = c
        · rw [hsame, Function.update_self, ha hsame.symm]
        · rw [Function.update_of_ne hsame]
          exact h.connToGame
      · show ∀ n ∈ (r.send g _).notices, _
        rw [send_eq]
        exact h.notices
  | announce c g =>
      unfold Routing.step Routing.announce
      dsimp only
      split
      · refine ⟨h.connToGame, fun n hn hconn => ?_⟩
        rcases List.mem_append.1 hn with hn | hn
        · exact h.notices n hn hconn
        · rw [List.mem_singleton.1 hn] at hconn ⊢
          exact ha hconn
      · exact h
  | adopt =>
      unfold Routing.step Routing.adopt
      dsimp only
      cases hnotices : r.notices with
      | nil => exact h
      | cons n rest =>
          obtain ⟨c, g⟩ := n
          -- the notice taken is one of those that wait
          have hold := h.notices
          rw [hnotices] at hold
          refine ⟨?_, fun n hn => hold n (List.mem_cons_of_mem _ hn)⟩
          show Function.update r.connToGame c (some g) connId = some game
          by_cases hsame : connId = c
          · have hg : g = game := hold (c, g) List.mem_cons_self hsame.symm
            rw [hsame, Function.update_self, hg]
          · rw [Function.update_of_ne hsame]
            exact h.connToGame
  | decode c k => exact hstay rfl
  | queue c => exact hstay rfl
  | route => exact hstay rfl
  | send g c => exact hstay rfl
  | handle g env => exact hstay rfl
  | clock g ev => exact hstay rfl

end Routed

omit [RustStd] in
/-- While the game runs, an event of the connection is taken exactly if
it finds room. -/
theorem taken_iff_room (h : Routed r connId game) (hrun : r.running game = true)
    (a : RoutingAction) : Taken connId game r a ↔ Room connId game r a := by
  unfold Taken Room
  refine ⟨fun htaken ha ev hev hconn => ?_, fun hroom ha ev hev hconn => ⟨h.connToGame, ?_⟩⟩
  · have htakes := (htaken ha ev hev hconn).2
    unfold takes at htakes
    rw [hrun, Bool.true_and] at htakes
    exact of_decide_eq_true htakes
  · unfold takes
    rw [hrun, Bool.true_and]
    exact decide_eq_true (hroom ha ev hev hconn)

/-- In a whole run of the game. -/
theorem along_taken_iff_room {acts : List RoutingAction} (h : Routed r connId game)
    (hkeeps : ∀ a ∈ acts, a.Keeps connId game) (hrun : (run acts r).running game = true) :
    Along (Taken connId game) r acts ↔ Along (Room connId game) r acts := by
  induction acts generalizing r with
  | nil => exact Iff.rfl
  | cons a rest ih =>
      have hstart : r.running game = true := running_of_run hrun
      have hrest := ih (h.step (hkeeps a List.mem_cons_self))
        (fun b hb => hkeeps b (List.mem_cons_of_mem _ hb)) hrun
      exact and_congr (taken_iff_room h hstart a) hrest

-- ================================================================== keepalives

omit [RustStd] in
/-- A frame counts for the player of its connection if it is a
keepalive. -/
theorem accepted_frame {s : GameState} (hplay : s.phase = .playing) (env : Env) (c : Nat)
    (f : AnyFrame) :
    s.accepted (.cmd env (.frame c f))
      = f.keepalive?.bind fun checksum => (s.players.byConn c).map fun p => (p, checksum) := by
  cases f with
  | w3gs id payload =>
      unfold GameState.accepted AnyFrame.keepalive?
      dsimp only
      by_cases hid : id = 0x27
      · rw [if_pos ⟨hid, hplay⟩, if_pos hid]
        cases decodeKeepalive payload with
        | ok checksum => rfl
        | error => rfl
      · rw [if_neg fun h => hid h.1, if_neg hid]
        rfl
  | _ => rfl

omit [RustStd] in
/-- A command of the connection brings the player the keepalive it
carries, and another brings none. -/
theorem countedFor_eq {s : GameState} {ev : Event} (hs : WellFormed s)
    (hC : Counts pid connId s ev) :
    s.countedFor pid ev
      = (ev.cmd?.toList.filterMap (GameCmd.from? connId)).filterMap ConnEventKind.keepalive? := by
  obtain ⟨p, hp, hpid, -⟩ := hC.seat
  unfold GameState.countedFor
  cases ev with
  | elapse ms => rfl
  | tick skipped => rfl
  | cmd env c =>
      cases c with
      | frame c f =>
          rw [accepted_frame hC.playing]
          by_cases hsame : c = connId
          · subst hsame
            have hfrom : GameCmd.from? c (.frame c f) = some (.frame f) := if_pos rfl
            rw [hp, show Event.cmd? (.cmd env (.frame c f)) = some (.frame c f) from rfl,
              Option.toList_some, List.filterMap_cons_some hfrom, List.filterMap_nil]
            cases hkeepalive : (ConnEventKind.frame f).keepalive? with
            | none =>
                rw [List.filterMap_cons_none hkeepalive, show f.keepalive? = none from hkeepalive]
                rfl
            | some checksum =>
                rw [List.filterMap_cons_some hkeepalive,
                  show f.keepalive? = some checksum from hkeepalive]
                exact if_pos hpid
          · have hfrom : GameCmd.from? connId (.frame c f) = none := if_neg hsame
            rw [show Event.cmd? (.cmd env (.frame c f)) = some (.frame c f) from rfl,
              Option.toList_some, List.filterMap_cons_none hfrom]
            cases hkeepalive : f.keepalive? with
            | none => rfl
            | some checksum =>
                cases hq : s.players.byConn c with
                | none => rfl
                | some q =>
                    -- the sender of another connection is another player
                    refine if_neg fun hqpid => hsame ?_
                    have hqp : q = p := List.inj_on_of_nodup_map hs.pids
                      (List.mem_of_find?_eq_some hq) (List.mem_of_find?_eq_some hp)
                      (hqpid.trans hpid.symm)
                    rw [← byConn_connId hq, hqp, byConn_connId hp]
      | closed c reason =>
          by_cases hsame : c = connId
          · have hfrom : GameCmd.from? connId (.closed c reason) = some (.closed reason) :=
              if_pos hsame
            rw [show Event.cmd? (.cmd env (.closed c reason)) = some (.closed c reason) from rfl,
              Option.toList_some, List.filterMap_cons_some hfrom]
            rfl
          · have hfrom : GameCmd.from? connId (.closed c reason) = none := if_neg hsame
            rw [show Event.cmd? (.cmd env (.closed c reason)) = some (.closed c reason) from rfl,
              Option.toList_some, List.filterMap_cons_none hfrom]
            rfl
      | _ => rfl

/-- Over any stretch of the running game, the player's count goes up by
the keepalives of its connection that the game handles. -/
theorem reports_of_run {acts : List RoutingAction} {reports : List Nat}
    (hs : WellFormed (r.state game)) (hcount : Along (Counting pid connId game) r acts)
    (hreports : ∀ p ∈ (r.state game).players, p.pid = pid → p.virtualHost = false →
      p.reports = reports) :
    ∃ new, (run acts r).reached connId game = r.reached connId game ++ new
      ∧ ∀ q ∈ ((run acts r).state game).players, q.pid = pid → q.virtualHost = false →
        q.reports = reports ++ new.filterMap ConnEventKind.keepalive? := by
  induction acts generalizing r reports with
  | nil =>
      refine ⟨[], (List.append_nil _).symm, fun q hq hqpid hvh => ?_⟩
      rw [List.filterMap_nil, List.append_nil]
      exact hreports q hq hqpid hvh
  | cons a rest ih =>
      obtain ⟨hnow, hlater⟩ := hcount
      cases r.game_step game a with
      | rests _ hstate hhandled _ =>
          have hreached : (r.step a).reached connId game = r.reached connId game := by
            unfold reached
            rw [hhandled]
          rw [← hreached]
          exact ih (by rw [hstate]; exact hs) hlater (by rw [hstate]; exact hreports)
      | iterates ev hev hstate hhandled _ =>
          have hC : Counts pid connId (r.state game) ev := hnow ev hev
          obtain ⟨p, hp, hpid, hvh⟩ := hC.seat
          have hmem := List.mem_of_find?_eq_some hp
          have hstep : ∀ q ∈ ((r.step a).state game).players, q.pid = pid → q.virtualHost = false →
              q.reports = reports ++ (r.state game).countedFor pid ev := by
            intro q hq hqpid hqvh
            rw [hstate] at hq
            rw [step_reports hs hC.toCountsOn hmem hpid hq hqpid hqvh, hreports p hmem hpid hvh]
          have hwell : WellFormed ((r.step a).state game) := by
            rw [hstate]
            exact step_wellFormed hs hC.sound
          obtain ⟨new, hnew, hall⟩ := ih hwell hlater hstep
          refine ⟨ev.cmd?.toList.filterMap (GameCmd.from? connId) ++ new, ?_, ?_⟩
          · refine hnew.trans ?_
            unfold reached
            rw [hhandled, List.filterMap_append, List.append_assoc]
          · intro q hq hqpid hqvh
            rw [hall q hq hqpid hqvh, countedFor_eq hs hC, List.filterMap_append, List.append_assoc]

end Proofs

-- ============================================================== a flooded game

section Runs

open Scenario

/-- The game 0 runs with its two players, on the connections 1 and 2, and
nothing is on its way to it. -/
def twoConnections : Routing where
  waiting _ := none
  events := []
  notices := []
  connToGame c := if c = 1 ∨ c = 2 then some 0 else none
  mailbox _ := []
  running g := g == 0
  state _ := lobby.run (twoPlay .drained .drained)
  decoded _ := []
  passed _ := []
  handled _ := []

/-- A keepalive, as a reader decodes it. -/
def keepaliveKind : ConnEventKind := .frame (.w3gs 0x27 ([0] ++ u32le 1))

/-- A keepalive comes from a connection and is routed. -/
def comes (connId : Nat) : List RoutingAction :=
  [.decode connId keepaliveKind, .queue connId, .route]

theorem twoPlay_wellFormed : WellFormed (lobby.run (twoPlay .drained .drained)) := by
  have hruns : Runs (fun _ _ => True) lobby (lobby.run (twoPlay .drained .drained)) :=
    Runs.of_meets (by decide +kernel)
  exact hruns.wellFormed (new_wellFormed config 0 5)

theorem twoConnections_unheard : twoConnections.Unheard 1 0 := ⟨rfl, rfl, rfl, rfl⟩

theorem twoConnections_routed : Routed twoConnections 1 0 := ⟨rfl, fun _ hn => nomatch hn⟩

/-- A keepalive that comes while nothing else is queued is routed as it
came. -/
theorem run_comes {r : Routing} {connId : Nat} (hwait : r.waiting connId = none)
    (hevents : r.events = []) :
    run (comes connId) r = Routing.handleConnEvent
      { r with decoded := Function.update r.decoded connId (r.decoded connId ++ [keepaliveKind]) }
      ⟨connId, keepaliveKind⟩ := by
  have hdecode : r.decode connId keepaliveKind = { r with
      waiting := Function.update r.waiting connId (some keepaliveKind)
      decoded := Function.update r.decoded connId (r.decoded connId ++ [keepaliveKind]) } := by
    unfold Routing.decode
    rw [hwait]
  have hback : Function.update (Function.update r.waiting connId (some keepaliveKind)) connId none
      = r.waiting := by
    rw [Function.update_idem, ← hwait, Function.update_eq_self]
  have hqueue : (r.decode connId keepaliveKind).queueEvent connId = { r with
      events := [⟨connId, keepaliveKind⟩]
      decoded := Function.update r.decoded connId (r.decoded connId ++ [keepaliveKind]) } := by
    rw [hdecode]
    unfold queueEvent
    dsimp only
    rw [Function.update_self]
    dsimp only
    rw [hevents, if_pos (by decide), hback]
    rfl
  show ((r.decode connId keepaliveKind).queueEvent connId).route = _
  rw [hqueue]
  cases r with
  | mk waiting events =>
      subst hevents
      rfl

theorem handleConnEvent_taken {r : Routing} {ev : ConnEvent} {g : Nat}
    (hgame : r.connToGame ev.connId = some g) (htakes : r.takes g = true) :
    r.handleConnEvent ev = { r with
      mailbox := Function.update r.mailbox g (r.mailbox g ++ [ev.cmd])
      passed := Function.update r.passed ev.connId (r.passed ev.connId ++ [(ev.kind, some g)]) }
        := by
  unfold Routing.handleConnEvent
  rw [taker_eq_some_iff.2 ⟨hgame, htakes⟩, hgame]
  dsimp only
  unfold Routing.send
  rw [if_pos htakes]

theorem handleConnEvent_refused {r : Routing} {ev : ConnEvent} {g : Nat}
    (hgame : r.connToGame ev.connId = some g) (htakes : r.takes g = false) :
    r.handleConnEvent ev = { r with
      passed := Function.update r.passed ev.connId (r.passed ev.connId ++ [(ev.kind, none)]) } := by
  have htaker : r.taker ev.connId = none := by
    unfold Routing.taker
    rw [hgame]
    dsimp only
    rw [htakes]
    rfl
  unfold Routing.handleConnEvent
  rw [htaker, hgame]
  dsimp only
  unfold Routing.send
  rw [htakes]
  rfl

/-- The second player's client sends keepalives, and the game does not
get to them. -/
def flooded (n : Nat) : Routing :=
  { twoConnections with
    mailbox := Function.update (fun _ => []) 0
      (List.replicate n (ConnEvent.mk 2 keepaliveKind).cmd)
    decoded := Function.update (fun _ => []) 2 (List.replicate n keepaliveKind)
    passed := Function.update (fun _ => []) 2 (List.replicate n (keepaliveKind, some 0)) }

theorem flooded_takes_iff (n : Nat) : (flooded n).takes 0 = true ↔ n < cmdCapacity := by
  have htakes : (flooded n).takes 0
      = decide ((List.replicate n (ConnEvent.mk 2 keepaliveKind).cmd).length < cmdCapacity) := rfl
  rw [htakes, List.length_replicate, decide_eq_true_iff]

theorem flooded_succ {n : Nat} (hn : n < cmdCapacity) :
    run (comes 2) (flooded n) = flooded (n + 1) := by
  have htakes : Routing.takes { flooded n with
      decoded := Function.update (flooded n).decoded 2
        ((flooded n).decoded 2 ++ [keepaliveKind]) } 0 = true := (flooded_takes_iff n).2 hn
  rw [run_comes rfl rfl, handleConnEvent_taken (g := 0) rfl htakes]
  have hlast : ∀ {α : Type} (c : Nat) (x : α),
      Function.update (Function.update (fun _ : Nat => ([] : List α)) c (List.replicate n x)) c
          (Function.update (fun _ : Nat => ([] : List α)) c (List.replicate n x) c ++ [x])
        = Function.update (fun _ => []) c (List.replicate (n + 1) x) := by
    intro α c x
    rw [Function.update_idem, Function.update_self, List.replicate_succ']
  unfold flooded
  dsimp only
  rw [hlast, hlast, hlast]

theorem run_flood {n : Nat} (hn : n ≤ cmdCapacity) :
    run (List.replicate n (comes 2)).flatten twoConnections = flooded n := by
  induction n with
  | zero =>
      have hempty : ∀ {α : Type} (c : Nat), Function.update (fun _ : Nat => ([] : List α)) c []
          = fun _ => [] := fun c => Function.update_eq_self c _
      unfold flooded
      rw [List.replicate_zero, List.replicate_zero, List.replicate_zero,
        List.replicate_zero, hempty, hempty, hempty]
      rfl
  | succ n ih =>
      rw [List.replicate_succ', List.flatten_append, run_append, ih (by omega)]
      exact flooded_succ hn

end Runs

end Spectre

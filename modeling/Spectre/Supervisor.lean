/-
The supervisor asks the games (`handle_reconnect_connection` of
`supervisor.rs`).

A client that lost its connection asks for its seat on a port that
belongs to no game. The request names a player and a key, not a game, so
the supervisor asks every running game in turn, over the one link it has
made for the connection. A game that takes the player back answers on
that link, and so does a game that does not.

What a game answers is read off its own handler (`answered`); which of
the two it is depends on its state when it gets to the request, if it
gets to it: its command queue may be full, or the game may end first,
and then it says nothing.
-/
import Spectre.Scenario

namespace Spectre

-- ============================================================ what a game answers

namespace GameState

/-- What a game takes a player back with: the number of packets it has
sent, and those the client has not got. -/
def grant? (s : GameState) (req : ReconnectReq) : Option (Nat × List Packet) :=
  match s.players.byPid req.pid with
  | none => none
  | some p =>
      if !p.gproxy ∨ p.reconnectKey ≠ req.reconnectKey then none
      else match p.gproxyBuffer with
        | none => none
        | some b => (b.replayFrom req.lastPacket).map fun replay => (b.totalSent, replay)

/-- The link after a game has answered a request on it. -/
def answered (s : GameState) (connId : Nat) (req : ReconnectReq) (link : PlayerLink) : PlayerLink :=
  let r := s.handleGpsReconnect connId req link
  if r.2 then ((r.1.players.byPid req.pid).map Player.link).getD link
  else (r.1.refused.drop s.refused.length).foldl (fun l x => l.push ⟨x.2, .personal⟩) link

end GameState

/-- A running game as the supervisor finds it: whether it gets to the
request, and its state then. -/
structure Candidate where
  takes : Bool
  state : GameState

/-- The loop of `handle_reconnect_connection`: the link when it is done,
and the game that has adopted it. -/
def askGames (connId : Nat) (req : ReconnectReq) :
    List Candidate → PlayerLink → PlayerLink × Option Candidate
  | [], link => (link.push ⟨.gpsReject rejectNotFound, .personal⟩, none)
  | game :: rest, link =>
      if game.takes then
        let link := game.state.answered connId req link
        if (game.state.handleGpsReconnect connId req link).2 then (link, some game)
        else askGames connId req rest link
      else askGames connId req rest link

-- ================================================================== the verdict

section Proofs

variable {s : GameState} {connId : Nat} {req : ReconnectReq} {link : PlayerLink}

/-- Further sends on a link. -/
def Pushes (l m : PlayerLink) : Prop := ∃ es : List Sent, m = es.foldl PlayerLink.push l

theorem Pushes.refl (l : PlayerLink) : Pushes l l := ⟨[], rfl⟩

theorem Pushes.trans {l m n : PlayerLink} (h : Pushes l m) (k : Pushes m n) : Pushes l n := by
  obtain ⟨es, rfl⟩ := h
  obtain ⟨fs, rfl⟩ := k
  exact ⟨es ++ fs, List.foldl_append.symm⟩

theorem Pushes.push (l : PlayerLink) (e : Sent) : Pushes l (l.push e) := ⟨[e], rfl⟩

/-- What was sent stays sent. -/
theorem Pushes.sent_grows {l m : PlayerLink} (h : Pushes l m) : l.sent <+: m.sent := by
  obtain ⟨es, rfl⟩ := h
  induction es generalizing l with
  | nil => exact List.prefix_rfl
  | cons e es ih =>
      refine List.IsPrefix.trans ?_ ih
      rcases l.push_sent_cases e with heq | heq
      · rw [heq]
        exact List.prefix_append _ _
      · exact heq ▸ List.prefix_rfl

/-- On a closed link nothing more is sent. -/
theorem Pushes.sent_closed {l m : PlayerLink} (h : Pushes l m) (hclosed : l.next = .closed) :
    m.sent = l.sent := by
  obtain ⟨es, rfl⟩ := h
  induction es generalizing l with
  | nil => rfl
  | cons e es ih =>
      have hsame : (l.push e).sent = l.sent := PlayerLink.push_sent_blocked e (by
        rw [hclosed]
        exact Found.noConfusion)
      rw [← hsame]
      exact ih (l.closed_mono _ hclosed)

/-- The packets sent one after another until one is refused: all of
them, exactly if each found room. -/
theorem sendWhileOk_all_iff (ps : List Packet) (p : Player) :
    ((p.sendWhileOk ps).link.sent.map Sent.packet = p.link.sent.map Sent.packet ++ ps)
      ↔ ∀ n < ps.length, p.link.finds (p.link.tries + n) = .room := by
  induction ps generalizing p with
  | nil =>
      refine ⟨fun _ n hn => absurd hn (Nat.not_lt_zero n), fun _ => ?_⟩
      rw [List.append_nil]
      rfl
  | cons packet rest ih =>
      unfold Player.sendWhileOk PlayerLink.trySend
      dsimp only
      cases hnext : p.link.next with
      | room =>
          have hsent := PlayerLink.push_sent_room ⟨packet, .personal⟩ hnext
          have hrest := ih { p with link := p.link.push ⟨packet, .personal⟩ }
          dsimp only at hrest ⊢
          rw [hsent, List.map_append, List.append_assoc] at hrest
          refine hrest.trans ⟨fun h n hn => ?_, fun h n hn => ?_⟩
          · cases n with
            | zero => exact hnext
            | succ n =>
                have hn := h n (Nat.lt_of_succ_lt_succ hn)
                rw [PlayerLink.push_finds, PlayerLink.push_tries] at hn
                rw [← hn]
                congr 1
                omega
          · rw [PlayerLink.push_finds, PlayerLink.push_tries, ← h (n + 1) (Nat.succ_lt_succ hn)]
            congr 1
            omega
      | full | closed =>
          -- the first packet that fails ends the sending, so it and the rest are missing
          have hsent : (p.link.push ⟨packet, .personal⟩).sent = p.link.sent :=
            PlayerLink.push_sent_blocked _ (by rw [hnext]; exact Found.noConfusion)
          dsimp only
          rw [hsent]
          refine ⟨fun h => ?_, fun h => ?_⟩
          · have hlen := congrArg List.length h
            rw [List.length_append, List.length_cons] at hlen
            omega
          · have hroom := h 0 (Nat.succ_pos _)
            rw [Nat.add_zero] at hroom
            exact absurd (hnext.symm.trans hroom) Found.noConfusion

theorem pushes_sendWhileOk (ps : List Packet) (p : Player) :
    Pushes p.link (p.sendWhileOk ps).link := by
  induction ps generalizing p with
  | nil => exact .refl _
  | cons packet rest ih =>
      unfold Player.sendWhileOk PlayerLink.trySend
      dsimp only
      cases p.link.next with
      | room =>
          exact (Pushes.push _ _).trans (ih { p with link := p.link.push ⟨packet, .personal⟩ })
      | full => exact .push _ _
      | closed => exact .push _ _

/-- The handler of a game that has nothing to take the player back
with. -/
theorem handleGpsReconnect_reject (h : s.grant? req = none) :
    ∃ reason, s.handleGpsReconnect connId req link
      = (s.refuse connId (.gpsReject reason), false) := by
  unfold GameState.grant? at h
  unfold GameState.handleGpsReconnect
  cases hp : s.players.byPid req.pid with
  | none => exact ⟨_, rfl⟩
  | some p =>
      rw [hp] at h
      dsimp only at h ⊢
      by_cases hkey : !p.gproxy ∨ p.reconnectKey ≠ req.reconnectKey
      · rw [if_pos hkey]
        exact ⟨_, rfl⟩
      · rw [if_neg hkey] at h ⊢
        cases hb : p.gproxyBuffer with
        | none => exact ⟨_, rfl⟩
        | some b =>
            rw [hb] at h
            dsimp only at h ⊢
            rw [Option.map_eq_none_iff.1 h]
            exact ⟨_, rfl⟩

/-- The handler of a game that has. -/
theorem handleGpsReconnect_grant {total : Nat} {replay : List Packet}
    (h : s.grant? req = some (total, replay)) :
    ∃ p, s.players.byPid req.pid = some p
      ∧ s.handleGpsReconnect connId req link
        = ({ s with players := s.players.modifyPid req.pid fun p =>
            p.attachGps connId link total replay }, true) := by
  unfold GameState.grant? at h
  unfold GameState.handleGpsReconnect
  cases hp : s.players.byPid req.pid with
  | none =>
      rw [hp] at h
      cases h
  | some p =>
      rw [hp] at h
      dsimp only at h ⊢
      by_cases hkey : !p.gproxy ∨ p.reconnectKey ≠ req.reconnectKey
      · rw [if_pos hkey] at h
        cases h
      · rw [if_neg hkey] at h ⊢
        cases hb : p.gproxyBuffer with
        | none =>
            rw [hb] at h
            cases h
        | some b =>
            rw [hb] at h
            dsimp only at h ⊢
            obtain ⟨l, hreplay, heq⟩ := Option.map_eq_some_iff.1 h
            cases heq
            rw [hreplay]
            exact ⟨p, rfl, rfl⟩

theorem answered_reject (h : s.grant? req = none) :
    ∃ reason, s.answered connId req link = link.push ⟨.gpsReject reason, .personal⟩ := by
  obtain ⟨reason, heq⟩ := handleGpsReconnect_reject h
  unfold GameState.answered
  rw [heq]
  refine ⟨reason, ?_⟩
  dsimp only [GameState.refuse]
  rw [List.drop_left]
  rfl

/-- A game that takes a player back answers with the count and the
replay. -/
theorem answered_grant {total : Nat} {replay : List Packet}
    (h : s.grant? req = some (total, replay)) :
    ∃ p : Player, p.link = link.push ⟨.reconnectOk total, .personal⟩
      ∧ s.answered connId req link = (p.sendWhileOk replay).link := by
  obtain ⟨p, hp, heq⟩ := handleGpsReconnect_grant h
  refine ⟨Player.sendDirect
    { p with connId := connId, link := link, disconnectedSince := none, left := none }
    (.reconnectOk total), rfl, ?_⟩
  unfold GameState.answered
  rw [heq]
  dsimp only
  rw [if_pos rfl, PlayerTable.byPid_attachGps hp]
  rfl

-- ============================================================== asking in turn

theorem pushes_answered (game : GameState) (link : PlayerLink) :
    Pushes link (game.answered connId req link) := by
  cases hgrant : game.grant? req with
  | none =>
      obtain ⟨reason, heq⟩ := answered_reject hgrant
      rw [heq]
      exact .push _ _
  | some g =>
      obtain ⟨p, hp, heq⟩ := answered_grant hgrant
      rw [heq]
      refine Pushes.trans ?_ (pushes_sendWhileOk g.2 p)
      rw [hp]
      exact .push _ _

theorem pushes_askGames (games : List Candidate) (link : PlayerLink) :
    Pushes link (askGames connId req games link).1 := by
  induction games generalizing link with
  | nil => exact .push _ _
  | cons game rest ih =>
      unfold askGames
      split
      · dsimp only
        split
        · exact pushes_answered game.state link
        · exact (pushes_answered game.state link).trans (ih _)
      · exact ih link

/-- Games that do not get to the request say nothing. -/
theorem askGames_skip {games : List Candidate} (h : ∀ c ∈ games, c.takes = false)
    (rest : List Candidate) (link : PlayerLink) :
    askGames connId req (games ++ rest) link = askGames connId req rest link := by
  induction games with
  | nil => rfl
  | cons game games ih =>
      have hskip : askGames connId req (game :: games ++ rest) link
          = askGames connId req (games ++ rest) link :=
        if_neg (by rw [h game List.mem_cons_self]; exact Bool.false_ne_true)
      rw [hskip]
      exact ih fun c hc => h c (List.mem_cons_of_mem game hc)

/-- A rejection is the first answer, when the first game that gets to the
request has nothing to take the player back with, or there is none. -/
theorem askGames_rejected (connId : Nat) {games : List Candidate}
    (hreject : ∀ c ∈ games, c.state.grant? req = none)
    (rest : List Candidate) (hsome : (∃ c ∈ games, c.takes = true) ∨ rest = [])
    (link : PlayerLink) :
    ∃ reason, Pushes (link.push ⟨.gpsReject reason, .personal⟩)
      (askGames connId req (games ++ rest) link).1 := by
  induction games with
  | nil =>
      rcases hsome with ⟨c, hc, -⟩ | rfl
      · cases hc
      · exact ⟨_, .refl _⟩
  | cons game games ih =>
      have hgame := hreject game List.mem_cons_self
      rw [List.cons_append]
      unfold askGames
      by_cases htakes : game.takes = true
      · rw [if_pos htakes]
        obtain ⟨reason, heq⟩ := answered_reject hgame
        obtain ⟨_, hverdict⟩ := handleGpsReconnect_reject hgame
        dsimp only
        rw [hverdict, if_neg Bool.false_ne_true, heq]
        exact ⟨reason, pushes_askGames _ _⟩
      · rw [if_neg htakes]
        refine ih (fun c hc => hreject c (List.mem_cons_of_mem game hc)) ?_
        refine hsome.imp_left fun ⟨c, hc, hct⟩ => ⟨c, ?_, hct⟩
        rcases List.mem_cons.1 hc with rfl | hc
        · exact absurd hct htakes
        · exact hc

/-- Nothing that starts with a rejection is an acknowledgement. -/
theorem not_ok_of_rejected {reason total : Nat} {replay : List Packet} {l m : PlayerLink}
    (hl : l.sent = []) (hfresh : l.next ≠ .full)
    (h : Pushes (l.push ⟨.gpsReject reason, .personal⟩) m) :
    m.sent.map Sent.packet ≠ .reconnectOk total :: replay := by
  intro heq
  cases hnext : l.next with
  | room =>
      have hprefix := h.sent_grows
      rw [PlayerLink.push_sent_room _ hnext, hl] at hprefix
      obtain ⟨rest, hrest⟩ := hprefix
      rw [← hrest] at heq
      cases heq
  | full => exact hfresh hnext
  | closed =>
      have hsame := h.sent_closed (l.closed_mono _ hnext)
      rw [PlayerLink.push_sent_blocked _ (by rw [hnext]; exact Found.noConfusion), hl] at hsame
      rw [hsame] at heq
      cases heq

/-- For every list of running games in any order and every request that
exactly one of them would grant, on every fresh link: the client is sent
the acknowledgement and the replay and nothing else, exactly if no game
asked before the granting one gets to the request, the granting one does,
and the link has room for the answer. -/
theorem reconnect_is_answered_iff (connId : Nat) (req : ReconnectReq) (finds : Nat → Found)
    (hmono : ∀ n, finds n = .closed → finds (n + 1) = .closed) (hfresh : finds 0 ≠ .full)
    {before after : List Candidate} {game : Candidate} {total : Nat} {replay : List Packet}
    (hgrant : game.state.grant? req = some (total, replay))
    (hothers : ∀ c ∈ before ++ after, c.state.grant? req = none) :
    ((askGames connId req (before ++ game :: after) (PlayerLink.fresh finds hmono)).1.sent.map
        Sent.packet = .reconnectOk total :: replay)
      ↔ (∀ c ∈ before, c.takes = false) ∧ game.takes = true
        ∧ ∀ n ≤ replay.length, finds n = .room := by
  have hbefore : ∀ c ∈ before, c.state.grant? req = none :=
    fun c hc => hothers c (List.mem_append_left after hc)
  have hafter : ∀ c ∈ after, c.state.grant? req = none :=
    fun c hc => hothers c (List.mem_append_right before hc)
  -- a game asked earlier that takes the question turns it down for good
  by_cases hquiet : ∀ c ∈ before, c.takes = false
  · rw [askGames_skip hquiet]
    by_cases htakes : game.takes = true
    · obtain ⟨p, hp, hanswered⟩ := answered_grant hgrant
      obtain ⟨q, -, hverdict⟩ := handleGpsReconnect_grant hgrant
      unfold askGames
      rw [if_pos htakes]
      dsimp only
      rw [hverdict, if_pos rfl, hanswered]
      have hall := sendWhileOk_all_iff replay p
      rw [hp, PlayerLink.push_finds, PlayerLink.push_tries] at hall
      cases hnext : (PlayerLink.fresh finds hmono).next with
      | room =>
          rw [PlayerLink.push_sent_room _ hnext] at hall
          refine hall.trans ⟨fun h => ⟨hquiet, htakes, fun n hn => ?_⟩, fun h n hn => ?_⟩
          · cases n with
            | zero => exact hnext
            | succ n =>
                have hn := h n hn
                rw [← hn]
                show finds (n + 1) = finds (0 + 1 + n)
                congr 1
                omega
          · rw [← h.2.2 (n + 1) hn]
            show finds (0 + 1 + n) = finds (n + 1)
            congr 1
            omega
      -- the link is new, so the first packet finds room unless it is closed
      | full => exact absurd hnext hfresh
      | closed =>
          -- on a closed link the answer itself is lost, and with it everything behind it
          have hsame := (pushes_sendWhileOk replay p).sent_closed (by
            rw [hp]
            exact hmono _ hnext)
          rw [hsame, hp, PlayerLink.push_sent_blocked _ (by rw [hnext]; exact Found.noConfusion)]
          refine ⟨fun h => ?_, fun h => ?_⟩
          · cases h
          · exact absurd (hnext.symm.trans (h.2.2 0 (Nat.zero_le _))) Found.noConfusion
    · have hskip : askGames connId req (game :: after) (PlayerLink.fresh finds hmono)
          = askGames connId req (after ++ []) (PlayerLink.fresh finds hmono) := by
        rw [List.append_nil]
        exact if_neg htakes
      -- the game that knows the player is passed over, and the others know no such player
      rw [hskip]
      obtain ⟨reason, hpushes⟩ := askGames_rejected connId hafter [] (.inr rfl)
        (PlayerLink.fresh finds hmono)
      exact ⟨fun h => absurd h (not_ok_of_rejected (l := .fresh finds hmono) rfl hfresh hpushes),
        fun h => absurd h.2.1 htakes⟩
  · have hsome : ∃ c ∈ before, c.takes = true := by
      by_contra hnone
      refine hquiet fun c hc => ?_
      cases htakes : c.takes with
      | false => rfl
      | true => exact absurd ⟨c, hc, htakes⟩ hnone
    obtain ⟨reason, hpushes⟩ := askGames_rejected connId hbefore
      (game :: after) (.inl hsome) (PlayerLink.fresh finds hmono)
    exact ⟨fun h => absurd h (not_ok_of_rejected (l := .fresh finds hmono) rfl hfresh hpushes),
      fun h => absurd h.1 hquiet⟩

end Proofs

-- ================================================================ several games

section Scenario

open Scenario

/-- A game whose first player uses GProxy and lost its connection before
a chat line. -/
def heldGame : GameState :=
  lobby.run (twoJoin .drained .drained ++ [hello 1, closed 1, cmd (.chat (txt "wait"))])

/-- The player asks for its seat; it has got nothing since. -/
def heldRequest : ReconnectReq := ⟨1, 7, 0⟩

/-- The theorem where the game asked first does not get to the
request. -/
theorem reconnect_is_answered_iff_busy :
    ((askGames 9 heldRequest [⟨false, lobby⟩, ⟨true, heldGame⟩] .drained).1.sent.map Sent.packet
        = [.reconnectOk 1, .chatFromHost 1 [1, 2] 16 [] (txt "wait")])
      ∧ ((∀ c ∈ [(⟨false, lobby⟩ : Candidate)], c.takes = false) ∧ true = true
        ∧ ∀ n ≤ 1, (fun _ : Nat => Found.room) n = .room) := by
  have hgrant : (⟨true, heldGame⟩ : Candidate).state.grant? heldRequest
      = some (1, [.chatFromHost 1 [1, 2] 16 [] (txt "wait")]) := by
    decide +kernel
  have hothers : ∀ c ∈ [(⟨false, lobby⟩ : Candidate)] ++ [], c.state.grant? heldRequest = none := by
    decide +kernel
  have hiff := reconnect_is_answered_iff 9 heldRequest (fun _ => .room) (fun _ h => h)
    Found.noConfusion hgrant hothers
  have hmet : (∀ c ∈ [(⟨false, lobby⟩ : Candidate)], c.takes = false) ∧ true = true
      ∧ ∀ n ≤ 1, (fun _ : Nat => Found.room) n = .room := by
    refine ⟨?_, rfl, fun _ _ => rfl⟩
    intro c hc
    rw [List.mem_singleton.1 hc]
  exact ⟨hiff.2 hmet, hmet⟩

/-- A game that knows nothing of the player is asked first: the client is
sent a rejection before it is taken back. In the other order it is
not. -/
theorem other_game_rejects_first :
    lobby.grant? heldRequest = none
      ∧ heldGame.grant? heldRequest
        = some (1, [.chatFromHost 1 [1, 2] 16 [] (txt "wait")])
      ∧ (askGames 9 heldRequest [⟨true, lobby⟩, ⟨true, heldGame⟩] .drained).1.sent.map Sent.packet
        = [.gpsReject rejectNotFound, .reconnectOk 1, .chatFromHost 1 [1, 2] 16 [] (txt "wait")]
      ∧ (askGames 9 heldRequest [⟨true, heldGame⟩, ⟨true, lobby⟩] .drained).1.sent.map Sent.packet
        = [.reconnectOk 1, .chatFromHost 1 [1, 2] 16 [] (txt "wait")] := by
  refine ⟨?_, ?_, ?_, ?_⟩
  · decide +kernel
  · decide +kernel
  · decide +kernel
  · decide +kernel

end Scenario

end Spectre

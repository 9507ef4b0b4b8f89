/-
Who gets a line of ordinary chat (`handle_chat_to_host`).

A line names the players it is for, or nobody when it is for all the
others, and the game builds a packet for them. In the lobby and during
the countdown the packet is sent to each of them. Later it is
broadcast: every player on a live link is sent it, the sender and the
other team too; it is kept in the GProxy buffer of each, also of those
that are away or catching up; and in a running game it goes into the
history that a client which comes back cold is fed from. So what is
said stays among those it is for in the lobby, and in a running game
only if nobody else is left at the table.
-/
import Spectre.Chat
import Spectre.Delivery
import Spectre.Scenario

namespace Spectre

-- ================================================================ the promise

/-- The players a line is for: those it names, or all but the sender. -/
def ChatToHost.addresses (chat : ChatToHost) (pid : UInt8) : Bool :=
  if chat.toPids = [] then pid != chat.fromPid else chat.toPids.contains pid

namespace Player

/-- The player is still in the game. -/
def AtTable (p : Player) : Prop := p.left = none ∧ p.virtualHost = false

/-- Broadcasts are offered to the player's link. -/
def Live (p : Player) : Prop :=
  p.rejoin = .none ∧ p.catchupCursor = none ∧ p.disconnectedSince = none

/-- A send to the player does not cost it its seat: its link is not
closed, or it uses GProxy and is held; and its queue is not full for the
hundredth time in a row. -/
def Endures (p : Player) : Prop :=
  p.Live → (p.link.next = .closed → p.gproxy = true)
    ∧ (p.link.next = .full → p.consecutiveSendFailures + 1 < 100)

/-- A broadcast reaches the player: its link takes it, or it keeps its
seat and the packet is kept for it, in its GProxy buffer or in the
history of a running game. -/
def Hears (p : Player) (phase : GamePhase) : Prop :=
  p.AtTable ∧ ((p.Live ∧ p.link.next = .room)
    ∨ (p.Endures ∧ (p.gproxyBuffer ≠ none ∨ phase = .playing)))

instance (p : Player) : Decidable p.AtTable := inferInstanceAs (Decidable (_ ∧ _))

/-- What was ever appended to the player's GProxy buffer. -/
def buffered (p : Player) : List Packet := (p.gproxyBuffer.map GProxyBuffer.log).getD []

end Player

/-- What a player is given in between: the packets enqueued on its link
and, if it keeps its seat, those appended to its GProxy buffer and to
the history, which it is sent when it comes back. -/
def GameState.given (s t : GameState) (p q : Player) : List Packet :=
  (q.link.sent.drop p.link.sent.length).map Sent.packet
    ++ if q.AtTable then q.buffered.drop p.buffered.length
      ++ t.fullHistory.log.drop s.fullHistory.log.length else []

/-- The packet is given to nobody but players the line is for. -/
def KeepsToAddressed (chat : ChatToHost) (b : Packet) (s t : GameState) : Prop :=
  List.Forall₂ (fun p q => chat.addresses p.pid = false → b ∉ s.given t p q) s.players t.players

/-- The players the line is not for have been sent the same in two
states, and those that have their seat in both have the same kept for
them. -/
def SameForOthers (chat : ChatToHost) (s t : GameState) : Prop :=
  List.Forall₂ (fun p q => q.pid = p.pid ∧ (chat.addresses p.pid = false →
    q.link.sent = p.link.sent ∧ (p.AtTable → q.AtTable →
      q.buffered = p.buffered ∧ t.fullHistory.log = s.fullHistory.log))) s.players t.players

section Chat

variable [RustStd]

/-- A text that asks nothing of the bot: neither a command nor the
question for the trigger. -/
def IsLine (message : Text) : Prop :=
  parseCommand message = none ∧ message ≠ txt "?trigger"

/-- A frame of a seated client that the game passes on: a line under
the client's own id, of a client that may speak, for somebody, and not
too long. -/
structure PassesOn (s : GameState) (connId : Nat) (payload : List UInt8) (p : Player)
    (chat : ChatToHost) (b : Packet) : Prop where
  seated : s.players.byConn connId = some p
  decodes : ChatToHost.decode payload = .ok chat
  own : chat.fromPid = p.pid
  noRequest : ¬(0x11 ≤ chat.flag ∧ chat.flag ≤ 0x14)
  line : IsLine chat.message
  unmuted : ¬((p.muted ∨ s.mutedAll) ∧ !s.isOwner p.name)
  lobbyOpen : ¬(s.phase = .lobby ∧ s.muteLobby)
  built : Outgoing.chatFromHost p.pid (s.chatRecipients p.pid chat) chat.flag chat.extra
    chat.message = some b

/-- What is said stays among those it is for: nobody else is given the
packet, now or when what is kept is sent, and whatever else had been
said, nobody else would have been given anything different. -/
def StaysPrivate (s : GameState) (env : Env) (connId : Nat) (payload : List UInt8)
    (chat : ChatToHost) (b : Packet) : Prop :=
  KeepsToAddressed chat b s (s.handleChatToHost env connId payload)
    ∧ ∀ payload' text, ChatToHost.decode payload' = .ok { chat with message := text } →
      IsLine text →
        SameForOthers chat (s.handleChatToHost env connId payload)
          (s.handleChatToHost env connId payload')

-- ============================================================== its handling

namespace GameState

variable {s : GameState} {env : Env} {connId : Nat} {payload : List UInt8} {p : Player}
  {chat : ChatToHost}

/-- A line of a client that may speak is recorded and relayed. -/
theorem handleChatToHost_line (hp : s.players.byConn connId = some p)
    (hchat : ChatToHost.decode payload = .ok chat) (hown : chat.fromPid = p.pid)
    (hflag : ¬(0x11 ≤ chat.flag ∧ chat.flag ≤ 0x14)) (hline : IsLine chat.message)
    (hspeaks : ¬((p.muted ∨ s.mutedAll) ∧ !s.isOwner p.name))
    (hopen : ¬(s.phase = .lobby ∧ s.muteLobby)) :
    s.handleChatToHost env connId payload
      = (s.recordChat p.pid p.name chat).relayChat p.pid chat := by
  have hphase : (s.recordChat p.pid p.name chat).phase = s.phase := by
    unfold recordChat
    split
    · rfl
    · rfl
  have hmute : (s.recordChat p.pid p.name chat).muteLobby = s.muteLobby := by
    unfold recordChat
    split
    · rfl
    · rfl
  unfold handleChatToHost
  rw [hp, hchat]
  dsimp only
  rw [if_neg (not_not.2 hown), if_neg hline.2, if_neg hflag]
  unfold handleChatLine
  rw [hline.1]
  dsimp only
  rw [if_neg hspeaks, if_neg (by rwa [hphase, hmute])]

omit [RustStd] in
/-- Recording a line is not about players, the history or the phase. -/
theorem recordChat_rest (s : GameState) (pid : UInt8) (name : Text) (chat : ChatToHost) :
    (s.recordChat pid name chat).players = s.players
      ∧ (s.recordChat pid name chat).fullHistory = s.fullHistory
      ∧ (s.recordChat pid name chat).phase = s.phase := by
  unfold recordChat
  split
  · exact ⟨rfl, rfl, rfl⟩
  · exact ⟨rfl, rfl, rfl⟩

end GameState

-- ============================================================== one player

namespace Player

omit [RustStd]

variable {p : Player} {phase : GamePhase}

/-- A player keeps its seat through a broadcast if the send does not
cost it. -/
theorem atTable_hear_iff (p : Player) (now : Nat) (b : Packet) (seq : Option Nat) :
    (p.hear now b seq).AtTable ↔ p.AtTable ∧ p.Endures := by
  have hhost := (p.kept_hear now b seq).virtualHost
  unfold AtTable
  rw [hhost]
  rcases p.hear_cases now b seq with ⟨hgone, he⟩ | ⟨hl, hv, hwhy, he⟩ | ⟨hl, hv, hr, hc, hd, he⟩
  · -- one that is gone has no seat to keep
    rw [he]
    refine ⟨fun ⟨hl, hv⟩ => ?_, fun h => h.1⟩
    simp [hl, hv] at hgone
  · -- one that is not live is offered nothing
    have hstays : p.Endures := fun ⟨hr, hc, hd⟩ => by simp [hr, hc, hd] at hwhy
    rw [he]
    exact ⟨fun h => ⟨h, hstays⟩, fun h => h.1⟩
  rw [he]
  have hlive : p.Live := ⟨hr, hc, hd⟩
  have hnext : (p.buffer b).link.next = p.link.next := rfl
  rcases (p.buffer b).deliver_cases now b (.live seq) with ⟨hn, hdel⟩ | ⟨hn, hdel⟩ | ⟨hn, hdel⟩
  · rw [hdel]
    refine ⟨fun h => ⟨⟨hl, hv⟩, fun _ => ⟨fun hcl => ?_, fun hfull => ?_⟩⟩, fun _ => ⟨hl, hv⟩⟩
    · exact Found.noConfusion (hn.symm.trans hcl)
    · exact Found.noConfusion (hn.symm.trans hfull)
  · rw [hdel]
    unfold sendFailed
    dsimp only
    constructor
    · rintro ⟨hleft, -⟩
      refine ⟨⟨hl, hv⟩, fun _ => ⟨fun hcl => ?_, fun _ => ?_⟩⟩
      · exact Found.noConfusion (hn.symm.trans hcl)
      · split at hleft
        · cases hleft
        · rename_i hfew
          change ¬100 ≤ min (p.consecutiveSendFailures + 1) (2 ^ 32 - 1) at hfew
          omega
    · rintro ⟨-, hends⟩
      have hfew := (hends hlive).2 hn
      refine ⟨?_, hv⟩
      rw [if_neg (by
        change ¬100 ≤ min (p.consecutiveSendFailures + 1) (2 ^ 32 - 1)
        omega)]
      exact hl
  · rw [hdel]
    cases hg : p.gproxy with
    | true =>
        rw [linkClosed_gproxy (by exact hg)]
        refine ⟨fun _ => ⟨⟨hl, hv⟩, fun _ => ⟨fun _ => hg, fun hfull => ?_⟩⟩, fun _ => ⟨hl, hv⟩⟩
        exact Found.noConfusion (hn.symm.trans hfull)
    | false =>
        rw [linkClosed_plain (by exact hg)]
        refine ⟨fun h => (nomatch h.1), fun h => ?_⟩
        rw [(h.2 hlive).1 hn] at hg
        cases hg

/-- Every player at the table has a broadcast appended to its buffer, if
it has one. -/
theorem gproxyBuffer_hear (h : p.AtTable) (now : Nat) (b : Packet) (seq : Option Nat) :
    (p.hear now b seq).gproxyBuffer = p.gproxyBuffer.map fun buf => buf.push b := by
  rcases p.hear_cases now b seq with ⟨hgone, -⟩ | ⟨-, -, -, he⟩ | ⟨-, -, -, -, -, he⟩
  · simp [h.1, h.2] at hgone
  · rw [he]
    rfl
  · rw [he, ((p.buffer b).deliver_fields now b _).1]
    rfl

/-- The link of a player that does not hear carries what it carried. -/
theorem sent_hear (h : ¬p.Hears phase) (now : Nat) (b : Packet) (seq : Option Nat) :
    (p.hear now b seq).link.sent = p.link.sent := by
  rcases p.hear_cases now b seq with ⟨-, he⟩ | ⟨-, -, -, he⟩ | ⟨hl, hv, hr, hc, hd, he⟩
  · rw [he]
  · rw [he]
    rfl
  · have hfull : p.link.next ≠ .room := fun hroom =>
      h ⟨⟨hl, hv⟩, .inl ⟨⟨hr, hc, hd⟩, hroom⟩⟩
    rw [he, ((p.buffer b).deliver_fields now b _).2.2]
    exact PlayerLink.push_sent_blocked _ hfull

/-- A player that does not hear and keeps its seat has no buffer, and
the game does not run. -/
theorem keeps_nothing (h : ¬p.Hears phase) {now : Nat} {b : Packet} {seq : Option Nat}
    (hseat : (p.hear now b seq).AtTable) :
    (p.hear now b seq).buffered = p.buffered ∧ phase ≠ .playing := by
  obtain ⟨htable, hends⟩ := (p.atTable_hear_iff now b seq).1 hseat
  have hnone : p.gproxyBuffer = none := by
    by_contra hsome
    exact h ⟨htable, .inr ⟨hends, .inl hsome⟩⟩
  refine ⟨?_, fun hplaying => h ⟨htable, .inr ⟨hends, .inr hplaying⟩⟩⟩
  unfold buffered
  rw [gproxyBuffer_hear htable, hnone]
  rfl

/-- A player on a live link with room is sent what is broadcast. -/
theorem sent_hear_room (htable : p.AtTable) (hlive : p.Live) (hroom : p.link.next = .room)
    (now : Nat) (b : Packet) (seq : Option Nat) :
    (p.hear now b seq).link.sent = p.link.sent ++ [⟨b, .live seq⟩] := by
  obtain ⟨hl, hv⟩ := htable
  obtain ⟨hr, hc, hd⟩ := hlive
  rcases p.hear_cases now b seq with ⟨hgone, -⟩ | ⟨-, -, hwhy, -⟩ | ⟨-, -, -, -, -, he⟩
  · simp [hl, hv] at hgone
  · simp [hr, hc, hd] at hwhy
  · rw [he, ((p.buffer b).deliver_fields now b _).2.2]
    exact PlayerLink.push_sent_room _ hroom

end Player

-- ================================================================ the sends

/-- Nothing was sent to the players the line is not for, and nothing is
kept for them but what was. -/
def NothingNew (chat : ChatToHost) (s t : GameState) : Prop :=
  List.Forall₂ (fun p q => q.pid = p.pid ∧ (chat.addresses p.pid = false →
    q.link.sent = p.link.sent ∧ (q.AtTable →
      p.AtTable ∧ q.buffered = p.buffered ∧ t.fullHistory.log = s.fullHistory.log)))
    s.players t.players

namespace NothingNew

omit [RustStd]

variable {chat : ChatToHost} {s t u : GameState}

/-- The relation is about the players and the history. -/
theorem of_eq (hplayers : t.players = s.players) (hhist : t.fullHistory = s.fullHistory) :
    NothingNew chat s t := by
  unfold NothingNew
  rw [hplayers, hhist]
  exact List.forall₂_same.2 fun _ _ => ⟨rfl, fun _ => ⟨rfl, fun hseat => ⟨hseat, rfl, rfl⟩⟩⟩

theorem trans (h : NothingNew chat s t) (h' : NothingNew chat t u) : NothingNew chat s u := by
  refine Lib.forall₂_comp (fun p q r hpq hqr => ⟨hqr.1.trans hpq.1, fun hout => ?_⟩) h h'
  obtain ⟨hsent, hkept⟩ := hpq.2 hout
  obtain ⟨hsent', hkept'⟩ := hqr.2 (hpq.1 ▸ hout)
  refine ⟨hsent'.trans hsent, fun hseat => ?_⟩
  obtain ⟨hseat, hbuf', hlog'⟩ := hkept' hseat
  obtain ⟨hseat, hbuf, hlog⟩ := hkept hseat
  exact ⟨hseat, hbuf'.trans hbuf, hlog'.trans hlog⟩

/-- Then the packet is not given to them. -/
theorem keepsToAddressed (h : NothingNew chat s t) (b : Packet) : KeepsToAddressed chat b s t := by
  refine List.Forall₂.imp (fun p q hpq hout => ?_) h
  obtain ⟨hsent, hkept⟩ := hpq.2 hout
  unfold GameState.given
  rw [hsent, List.drop_length]
  split
  · rename_i hseat
    obtain ⟨-, hbuf, hlog⟩ := hkept hseat
    rw [hbuf, hlog, List.drop_length, List.drop_length]
    exact List.not_mem_nil
  · exact List.not_mem_nil

/-- Then what came about in two ways is the same to them. -/
theorem sameForOthers (h : NothingNew chat s t) (h' : NothingNew chat s u) :
    SameForOthers chat t u := by
  -- back from the first to the state before, and on to the second
  refine Lib.forall₂_comp (fun q p r hpq hpr => ⟨hpr.1.trans hpq.1.symm, fun hout => ?_⟩)
    (List.Forall₂.flip h) h'
  obtain ⟨hsent, hkept⟩ := hpq.2 (hpq.1 ▸ hout)
  obtain ⟨hsent', hkept'⟩ := hpr.2 (hpq.1 ▸ hout)
  refine ⟨hsent'.trans hsent.symm, fun hseat hseat' => ?_⟩
  obtain ⟨-, hbuf, hlog⟩ := hkept hseat
  obtain ⟨-, hbuf', hlog'⟩ := hkept' hseat'
  exact ⟨hbuf'.trans hbuf.symm, hlog'.trans hlog.symm⟩

/-- A send to a player the line is for. -/
theorem sendTo (s : GameState) {pid : UInt8} (hpid : chat.addresses pid = true) (b : Packet) :
    NothingNew chat s (s.sendTo pid b) := by
  refine Lib.forall₂_updateFirst
    (fun p _ => ⟨rfl, fun _ => ⟨rfl, fun hseat => ⟨hseat, rfl, rfl⟩⟩⟩) fun p _ hp _ => ?_
  refine ⟨(p.kept_receive s.now b).pid, fun hout => ?_⟩
  rw [eq_of_beq hp, hpid] at hout
  cases hout

/-- Sends to players the line is for. -/
theorem sends (b : Packet) (pids : List UInt8) (hpids : ∀ pid ∈ pids, chat.addresses pid = true)
    (s : GameState) : NothingNew chat s (pids.foldl (fun s pid => s.sendTo pid b) s) := by
  induction pids generalizing s with
  | nil => exact of_eq rfl rfl
  | cons pid pids ih =>
      refine (sendTo s (hpids pid List.mem_cons_self) b).trans ?_
      exact ih (fun id hid => hpids id (List.mem_cons_of_mem _ hid)) (s.sendTo pid b)

/-- A broadcast that nobody else hears. -/
theorem broadcast (hdeaf : ∀ p ∈ s.players, chat.addresses p.pid = false → ¬p.Hears s.phase)
    (b : Packet) : NothingNew chat s (s.broadcast b) := by
  unfold NothingNew
  rw [GameState.broadcast_players, List.forall₂_map_right_iff]
  refine List.forall₂_same.2 fun p hp => ⟨(p.kept_hear s.now b s.airSeq).pid, fun hout => ?_⟩
  have hnot := hdeaf p hp hout
  refine ⟨Player.sent_hear hnot s.now b s.airSeq, fun hseat => ?_⟩
  obtain ⟨hbuf, hphase⟩ := Player.keeps_nothing hnot hseat
  rw [GameState.broadcast_log, if_neg hphase]
  exact ⟨((p.atTable_hear_iff s.now b s.airSeq).1 hseat).1, hbuf, rfl⟩

end NothingNew

omit [RustStd] in
/-- A player that hears a broadcast is given it. -/
theorem not_keepsToAddressed_broadcast {chat : ChatToHost} {s : GameState} {q : Player}
    (hq : q ∈ s.players) (hout : chat.addresses q.pid = false) (hears : q.Hears s.phase)
    (b : Packet) : ¬KeepsToAddressed chat b s (s.broadcast b) := by
  intro hkeeps
  unfold KeepsToAddressed at hkeeps
  rw [GameState.broadcast_players] at hkeeps
  have hall := List.forall₂_same.1 (List.forall₂_map_right_iff.1 hkeeps)
  refine hall q hq hout ?_
  obtain ⟨htable, ⟨hlive, hroom⟩ | ⟨hends, hkept⟩⟩ := hears
  · refine List.mem_append_left _ ?_
    rw [Player.sent_hear_room htable hlive hroom, List.drop_left]
    exact List.mem_cons_self
  refine List.mem_append_right _ ?_
  rw [if_pos ((q.atTable_hear_iff s.now b s.airSeq).2 ⟨htable, hends⟩)]
  rcases hkept with hbuf | hplaying
  · obtain ⟨buf, hbuf⟩ := Option.ne_none_iff_exists'.1 hbuf
    refine List.mem_append_left _ ?_
    have hafter : (q.hear s.now b s.airSeq).buffered = q.buffered ++ [b] := by
      unfold Player.buffered
      rw [Player.gproxyBuffer_hear htable, hbuf]
      rfl
    rw [hafter, List.drop_left]
    exact List.mem_cons_self
  · refine List.mem_append_right _ ?_
    rw [GameState.broadcast_log, if_pos hplaying, List.drop_left]
    exact List.mem_cons_self

section Claim

variable {s : GameState} {env : Env} {connId : Nat} {payload : List UInt8} {p : Player}
  {chat : ChatToHost}

omit [RustStd] in
/-- The recipients of a line are players it is for. -/
theorem addresses_of_mem_chatRecipients (hown : chat.fromPid = p.pid) {pid : UInt8}
    (h : pid ∈ s.chatRecipients p.pid chat) : chat.addresses pid = true := by
  unfold GameState.chatRecipients at h
  unfold ChatToHost.addresses
  split at h
  · rename_i hempty
    rw [if_pos hempty, hown]
    obtain ⟨q, hq, rfl⟩ := List.mem_map.1 h
    have hkeep := (List.mem_filter.1 hq).2
    simp only [Bool.and_eq_true] at hkeep
    exact hkeep.2
  · rename_i hsome
    rw [if_neg hsome]
    exact List.contains_iff_mem.2 (List.mem_filter.1 h).1

omit [RustStd] in
/-- A relayed line reaches nobody else, if the game has not started or
nobody else hears broadcasts. -/
theorem NothingNew.relayChat (hown : chat.fromPid = p.pid)
    (hcond : s.phase.beforeStart = true
      ∨ ∀ q ∈ s.players, chat.addresses q.pid = false → ¬q.Hears s.phase) :
    NothingNew chat s (s.relayChat p.pid chat) := by
  unfold GameState.relayChat
  dsimp only
  split
  · rename_i b _
    split
    · exact .sends b _ (fun pid hpid => addresses_of_mem_chatRecipients hown hpid) s
    · rename_i hphase
      exact .broadcast (hcond.resolve_left hphase) b
  · exact .of_eq rfl rfl

/-- A line is private to those it is for if and only if the game has
not started or nobody else hears broadcasts, on its link or from what is
kept for it. -/
theorem chat_stays_private_iff {b : Packet} (h : PassesOn s connId payload p chat b) :
    StaysPrivate s env connId payload chat b
      ↔ s.phase.beforeStart = true
        ∨ ∀ q ∈ s.players, chat.addresses q.pid = false → ¬q.Hears s.phase := by
  have hrun : s.handleChatToHost env connId payload
      = (s.recordChat p.pid p.name chat).relayChat p.pid chat :=
    GameState.handleChatToHost_line h.seated h.decodes h.own h.noRequest h.line h.unmuted
      h.lobbyOpen
  obtain ⟨hplayers, hhist, hphase⟩ := GameState.recordChat_rest s p.pid p.name chat
  constructor
  · rintro ⟨hkeeps, -⟩
    rw [or_iff_not_imp_left]
    intro hstarted q hq hout hears
    have hb : Outgoing.chatFromHost p.pid ((s.recordChat p.pid p.name chat).chatRecipients p.pid
        chat) chat.flag chat.extra chat.message = some b := by
      unfold GameState.chatRecipients
      rw [hplayers]
      exact h.built
    rw [hrun] at hkeeps
    unfold GameState.relayChat at hkeeps
    dsimp only at hkeeps
    rw [hb] at hkeeps
    dsimp only at hkeeps
    rw [hphase, if_neg hstarted] at hkeeps
    -- the record of the line changes nothing the promise is about
    have hkeeps' : KeepsToAddressed chat b (s.recordChat p.pid p.name chat)
        ((s.recordChat p.pid p.name chat).broadcast b) := by
      unfold KeepsToAddressed GameState.given at hkeeps ⊢
      rwa [hplayers, hhist]
    exact not_keepsToAddressed_broadcast (hplayers ▸ hq) hout (hphase ▸ hears) b hkeeps'
  · intro hcond
    have hquiet : ∀ payload' text, ChatToHost.decode payload' = .ok { chat with message := text } →
        IsLine text → NothingNew chat s (s.handleChatToHost env connId payload') := by
      intro payload' text hdecode hline
      rw [GameState.handleChatToHost_line h.seated hdecode h.own h.noRequest hline h.unmuted
        h.lobbyOpen]
      obtain ⟨hplayers', hhist', hphase'⟩ :=
        GameState.recordChat_rest s p.pid p.name { chat with message := text }
      have hown : ({ chat with message := text } : ChatToHost).fromPid = p.pid := h.own
      exact (NothingNew.of_eq hplayers' hhist').trans
        (.relayChat hown (by rwa [hplayers', hphase']))
    have hnew := hquiet payload chat.message h.decodes h.line
    exact ⟨hnew.keepsToAddressed b, fun payload' text hdecode hline =>
      hnew.sameForOthers (hquiet payload' text hdecode hline)⟩

end Claim

end Chat

section Runs

open Scenario

/-- Three players: ann, bob and cat. -/
def trio : List Event :=
  [connect 1 PlayerLink.drained, join 1 (txt "ann"), connect 2 PlayerLink.drained,
    join 2 (txt "bob"), connect 3 PlayerLink.drained, join 3 (txt "cat")]

/-- The three in the lobby. -/
def trioLobby : GameState := lobby.run trio

/-- The three in a running game. -/
def trioGame : GameState := trioLobby.run (countdown ++ [loaded 1, loaded 2, loaded 3])

/-- ann says a line to bob, her ally. -/
def toBob (text : Text) : List UInt8 := [1, 2, 1, 0x20, 1, 0, 0, 0] ++ text ++ [0]

/-- The frame as the game reads it. -/
def toBobRead (text : Text) : ChatToHost := ⟨[2], 1, 0x20, [1, 0, 0, 0], text, 0⟩

/-- The packet the game builds for it. -/
def toBobPacket (text : Text) : Packet := .chatFromHost 1 [2] 0x20 [1, 0, 0, 0] text

instance (chat : ChatToHost) (b : Packet) (s t : GameState) :
    Decidable (KeepsToAddressed chat b s t) :=
  inferInstanceAs (Decidable (List.Forall₂ _ s.players t.players))

instance (chat : ChatToHost) (s t : GameState) : Decidable (SameForOthers chat s t) :=
  inferInstanceAs (Decidable (List.Forall₂ _ s.players t.players))

/-- In the lobby the line stays between the two. -/
theorem chat_stays_private_iff_lobby :
    trioLobby.players.map Player.pid = [1, 2, 3]
      ∧ StaysPrivate trioLobby (env 7) 1 (toBob (txt "top now")) (toBobRead (txt "top now"))
        (toBobPacket (txt "top now")) := by
  obtain ⟨ann, hann⟩ : ∃ p, trioLobby.players.byConn 1 = some p :=
    Option.isSome_iff_exists.1 (by decide +kernel)
  have hparts : (trioLobby.players.byConn 1).map (fun p => (p.pid, p.muted, p.name))
      = some (1, false, txt "ann") := by
    decide +kernel
  rw [hann] at hparts
  simp only [Option.map_some, Option.some.injEq, Prod.mk.injEq] at hparts
  obtain ⟨hpid, hmuted, hname⟩ := hparts
  have hpasses : PassesOn trioLobby 1 (toBob (txt "top now")) ann (toBobRead (txt "top now"))
      (toBobPacket (txt "top now")) := {
    seated := hann
    decodes := by decide +kernel
    own := by rw [hpid]; decide +kernel
    noRequest := by decide +kernel
    line := ⟨by decide +kernel, by decide +kernel⟩
    unmuted := by rw [hmuted, hname]; decide +kernel
    lobbyOpen := by decide +kernel
    built := by rw [hpid]; decide +kernel }
  exact ⟨by decide +kernel, (chat_stays_private_iff hpasses).2 (.inl (by decide +kernel))⟩

/-- In the running game cat, of the other team, is sent it too; and what
she is sent depends on what ann says to bob. -/
theorem allied_chat_reaches_everyone :
    trioGame.phase = .playing
      ∧ ChatToHost.decode (toBob (txt "top now")) = .ok (toBobRead (txt "top now"))
      ∧ IsLine (txt "top now") ∧ IsLine (txt "bot now")
      ∧ (trioGame.players.byPid 3).map (fun p => (toBobRead (txt "top now")).addresses p.pid)
        = some false
      ∧ ((trioGame.handleChatToHost (env 7) 1 (toBob (txt "top now"))).players.byPid 3).map
          (fun p => p.link.sent.getLast?.map Sent.packet)
            = some (some (toBobPacket (txt "top now")))
      ∧ ¬KeepsToAddressed (toBobRead (txt "top now")) (toBobPacket (txt "top now")) trioGame
          (trioGame.handleChatToHost (env 7) 1 (toBob (txt "top now")))
      ∧ ¬SameForOthers (toBobRead (txt "top now"))
          (trioGame.handleChatToHost (env 7) 1 (toBob (txt "top now")))
          (trioGame.handleChatToHost (env 7) 1 (toBob (txt "bot now"))) := by
  refine ⟨?_, ?_, ⟨?_, ?_⟩, ⟨?_, ?_⟩, ?_, ?_, ?_, ?_⟩
  · decide +kernel
  · decide +kernel
  · decide +kernel
  · decide +kernel
  · decide +kernel
  · decide +kernel
  · decide +kernel
  · decide +kernel
  · decide +kernel
  · decide +kernel

end Runs

end Spectre

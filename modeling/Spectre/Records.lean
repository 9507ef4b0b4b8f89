/-
The three records of a game.

A turn's packets go to three places: to the players, and with them into
the history; to the relay; and as records into the replay. The empty
turn of a lag screen reset goes to the players only. The game clock
counts what a tick stands for, and the packets say so up to 65535 ms.
So the records agree in the runs that never reset a lag screen, whose
ticks are no longer than that, and whose clock is not set back by a
second `begin_playing`.
-/
import Spectre.LagScreen
import Spectre.Phases

namespace Spectre

open GameState

-- ================================================================= statement

/-- The time a turn packet tells the clients to advance by, in ms. -/
def Packet.sendInterval : Packet → Nat
  | incomingAction _ interval => interval
  | _ => 0

/-- The replay record of a turn packet. -/
def Packet.timeslot? : Packet → Option ReplayRecord
  | incomingAction actions interval => some (.timeslot interval (encodeActionsRaw actions))
  | incomingAction2 actions => some (.timeslot2 (encodeActionsRaw actions))
  | _ => none

namespace GameState

/-- The turn packets broadcast so far. -/
def turnPackets (s : GameState) : List Packet := s.aired.filter Packet.isAction

/-- The sum of the send intervals broadcast so far. -/
def airedMs (s : GameState) : Nat := (s.turnPackets.map Packet.sendInterval).sum

/-- The replay records of the turn packets broadcast so far, and the
length they make. -/
def airedTimeline (s : GameState) : List ReplayRecord × Nat :=
  (s.turnPackets.filterMap Packet.timeslot?, s.airedMs % 2 ^ 32)

end GameState

/-- The records agree: the history, the relay and the replay hold the
turn packets that were broadcast, and the clock stands where they put
it. -/
structure RecordsAgree (s : GameState) : Prop where
  history : s.fullHistory.log.filter Packet.isAction = s.turnPackets
  relay : ∀ l, s.relayed = some l → l = s.turnPackets
  replay : ∀ r, s.replay = some r → r.timeslots.map some = s.turnPackets.map Packet.timeslot?
    ∧ r.replayLengthMs = s.airedMs % 2 ^ 32
  clock : s.started.isSome → s.gameTicks = s.airedMs % 2 ^ 32

/-- Every turn packet has a replay record. -/
theorem map_timeslots {l : List Packet} (h : ∀ b ∈ l, b.isAction = true) :
    (l.filterMap Packet.timeslot?).map some = l.map Packet.timeslot? := by
  induction l with
  | nil => rfl
  | cons b l ih =>
      have hb := h b List.mem_cons_self
      have hrest := ih fun c hc => h c (List.mem_cons_of_mem _ hc)
      cases b with
      | incomingAction actions interval => simp [Packet.timeslot?, hrest]
      | incomingAction2 actions => simp [Packet.timeslot?, hrest]
      | _ => cases hb

-- ================================================================= invariant

/-- The records agree while the clock is `owed` ms ahead of the packets
broadcast. -/
structure RecordsInv (owed : Nat) (s : GameState) : Prop where
  history : s.fullHistory.log.filter Packet.isAction = s.turnPackets
  relay : ∀ l, s.relayed = some l → l = s.turnPackets
  timeline : ∀ l, s.replay.map ReplayBody.timeline = some l → l = s.airedTimeline
  clock : s.started.isSome → s.gameTicks = (s.airedMs + owed) % 2 ^ 32
  fresh : s.started = none → s.turnPackets = []
  queued : ∀ a ∈ s.actions, a.data.length ≤ 1024

namespace RecordsInv

variable {owed : Nat} {s t : GameState}

/-- With nothing owed the records agree. -/
theorem agree (h : RecordsInv 0 s) : RecordsAgree s where
  history := h.history
  relay := h.relay
  replay r hr := by
    have hline := h.timeline r.timeline (by rw [hr]; rfl)
    have hslots : r.timeslots = s.turnPackets.filterMap Packet.timeslot? := congrArg Prod.fst hline
    refine ⟨?_, congrArg Prod.snd hline⟩
    rw [hslots]
    exact map_timeslots fun b hb => List.of_mem_filter hb
  clock := h.clock

/-- Steps that air no turn packet and leave the sinks alone. -/
theorem of_same (h : RecordsInv owed s) (haired : t.turnPackets = s.turnPackets)
    (hlog : t.fullHistory.log.filter Packet.isAction = s.fullHistory.log.filter Packet.isAction)
    (hrelayed : t.relayed = s.relayed)
    (hline : t.replay.map ReplayBody.timeline = s.replay.map ReplayBody.timeline)
    (hstarted : t.started = s.started) (hticks : t.gameTicks = s.gameTicks)
    (hqueued : ∀ a ∈ t.actions, a ∈ s.actions) : RecordsInv owed t := by
  have hms : t.airedMs = s.airedMs := by rw [airedMs, airedMs, haired]
  refine ⟨?_, ?_, ?_, ?_, ?_, ?_⟩
  · rw [hlog, haired, h.history]
  · rw [hrelayed, haired]
    exact h.relay
  · rw [hline, airedTimeline, haired, hms]
    exact h.timeline
  · rw [hstarted, hticks, hms]
    exact h.clock
  · rw [hstarted, haired]
    exact h.fresh
  · exact fun a ha => h.queued a (hqueued a ha)

/-- Any other broadcast is no turn. -/
theorem broadcast (h : RecordsInv owed s) {b : Packet} (hb : b.isAction = false) :
    RecordsInv owed (s.broadcast b) := by
  have hlog : (s.broadcast b).fullHistory.log.filter Packet.isAction
      = s.fullHistory.log.filter Packet.isAction := by
    rw [broadcast_log]
    split
    · rw [List.filter_append, List.filter_cons_of_neg (by simp [hb]), List.filter_nil,
        List.append_nil]
    · rfl
  obtain ⟨_, he⟩ := s.broadcast_eq b
  have haired : (s.broadcast b).turnPackets = s.turnPackets := by
    rw [turnPackets, broadcast_aired, List.filter_append,
      List.filter_cons_of_neg (by simp [hb]), List.filter_nil, List.append_nil]
    rfl
  refine h.of_same haired hlog (broadcast_relayed s b) ?_ ?_ ?_ ?_
  · rw [he]
  · rw [he]
  · rw [he]
  · rw [he]
    exact fun _ ha => ha

/-- A packet that is no turn. -/
theorem broadcast? (h : RecordsInv owed s) {b : Option Packet} (hb : ∀ p ∈ b, p.isAction = false) :
    RecordsInv owed (s.broadcast? b) := by
  cases b with
  | none => exact h
  | some b => exact h.broadcast (hb b rfl)

/-- A turn is counted: its time is owed. -/
theorem turn (h : RecordsInv 0 s) (hstart : s.started.isSome) (elapsed : Nat) :
    RecordsInv elapsed { s with
      gameTicks := (s.gameTicks + elapsed) % 2 ^ 32
      syncCounter := (s.syncCounter + 1) % 2 ^ 32
      turns := s.turns ++ [elapsed], actions := [] } where
  history := h.history
  relay := h.relay
  timeline := h.timeline
  clock _ := by
    show (s.gameTicks + elapsed) % 2 ^ 32 = (s.airedMs + elapsed) % 2 ^ 32
    rw [h.clock hstart]
    omega
  fresh := h.fresh
  queued _ ha := nomatch ha

/-- A turn packet goes to all three sinks, and pays for its time. -/
theorem sendActionPacket (h : RecordsInv owed s) (hplay : s.phase = .playing)
    (hstart : s.started.isSome) {b : Packet} (hb : b.isAction = true) {f : ReplayBody → ReplayBody}
    (hf : ∀ r, r.replayLengthMs < 2 ^ 32 → (f r).timeline
      = (r.timeslots ++ b.timeslot?.toList, (r.replayLengthMs + b.sendInterval) % 2 ^ 32))
    {rest : Nat} (hpay : owed = b.sendInterval + rest) :
    RecordsInv rest (s.sendActionPacket b f) := by
  have haired : (s.sendActionPacket b f).turnPackets = s.turnPackets ++ [b] := by
    unfold GameState.sendActionPacket
    rw [turnPackets, broadcast_aired, List.filter_append, List.filter_cons_of_pos hb,
      List.filter_nil]
    rfl
  have hms : (s.sendActionPacket b f).airedMs = s.airedMs + b.sendInterval := by
    rw [airedMs, haired, List.map_append, List.sum_append, List.map_singleton, List.sum_singleton]
    rfl
  obtain ⟨_, he⟩ := s.sendActionPacket_eq b f
  refine ⟨?_, ?_, ?_, ?_, ?_, ?_⟩
  · rw [haired]
    unfold GameState.sendActionPacket
    have hphase : ((s.relayPush (.push b)).record f).phase = .playing := hplay
    rw [broadcast_log, if_pos hphase, List.filter_append, List.filter_cons_of_pos hb,
      List.filter_nil]
    exact congrArg (· ++ [b]) h.history
  · -- the spectator's relay is handed the packet before it is broadcast
    intro l hl
    unfold GameState.sendActionPacket at hl
    rw [broadcast_relayed] at hl
    have hl' : (s.relay.map fun l => l ++ [RelayMsg.push b]).map
        (fun l => l.filterMap RelayMsg.pushed?) = some l := hl
    rw [Option.map_map, Option.map_eq_some_iff] at hl'
    obtain ⟨msgs, hmsgs, rfl⟩ := hl'
    have hold := h.relay (msgs.filterMap RelayMsg.pushed?) (by rw [relayed, hmsgs]; rfl)
    rw [haired, ← hold]
    simp [RelayMsg.pushed?]
  · intro l hl
    rw [he] at hl
    have hl' : (s.replay.map f).map ReplayBody.timeline = some l := hl
    rw [Option.map_map, Option.map_eq_some_iff] at hl'
    obtain ⟨r, hr, rfl⟩ := hl'
    -- the record adds the interval in u32, as the sum does up to 2 ^ 32
    have hold := h.timeline r.timeline (by rw [hr]; rfl)
    have hslots : r.timeslots = s.turnPackets.filterMap Packet.timeslot? := congrArg Prod.fst hold
    have hlength : r.replayLengthMs = s.airedMs % 2 ^ 32 := congrArg Prod.snd hold
    have hbound : r.replayLengthMs < 2 ^ 32 := by
      rw [hlength]
      exact Nat.mod_lt _ (by decide)
    rw [Function.comp_apply, hf r hbound, airedTimeline, haired, hms, hslots, hlength,
      List.filterMap_append]
    refine Prod.ext ?_ ?_
    · cases b <;> rfl
    · show (s.airedMs % 2 ^ 32 + b.sendInterval) % 2 ^ 32 = (s.airedMs + b.sendInterval) % 2 ^ 32
      omega
  · intro _
    rw [he, ← he, hms, he]
    show s.gameTicks = _
    -- the clock ran ahead by what was owed, and this packet pays its part of it
    rw [h.clock hstart, hpay, Nat.add_assoc]
  · intro hnone
    rw [he] at hnone
    have hnone' : s.started = none := hnone
    rw [hnone'] at hstart
    cases hstart
  · rw [he]
    exact h.queued

end RecordsInv

-- ================================================================== builders

/-- The bytes of a batch are as long as its blocks are on the wire. -/
theorem length_encodeActionsRaw (batch : List ActionBlock) :
    (encodeActionsRaw batch).length = (batch.map ActionBlock.wireLen).sum := by
  induction batch with
  | nil => rfl
  | cons a batch ih =>
      unfold encodeActionsRaw at ih ⊢
      rw [List.flatMap_cons, List.length_append, ih, List.map_cons, List.sum_cons]
      simp [ActionBlock.put, ActionBlock.wireLen, u16le]

/-- A batch of a turn: its blocks are of the size a client may send, and
together they fit one packet. -/
structure BatchFits (batch : List ActionBlock) : Prop where
  blocks : ∀ a ∈ batch, a.data.length ≤ 1024
  total : (batch.map ActionBlock.wireLen).sum ≤ maxActionPayload

namespace BatchFits

variable {batch : List ActionBlock}

/-- The empty batch. -/
theorem nil : BatchFits [] where
  blocks _ h := nomatch h
  total := Nat.zero_le _

/-- A block that does not fit any more starts a batch of its own. -/
theorem singleton {a : ActionBlock} (h : a.data.length ≤ 1024) : BatchFits [a] := by
  refine ⟨?_, ?_⟩
  · intro b hb
    rw [List.mem_singleton.1 hb]
    exact h
  · simp only [List.map_singleton, List.sum_singleton, ActionBlock.wireLen, maxActionPayload]
    omega

/-- One more block that fits. -/
theorem append {a : ActionBlock} (h : BatchFits batch) (ha : a.data.length ≤ 1024)
    (hlen : (batch.map ActionBlock.wireLen).sum + a.wireLen ≤ maxActionPayload) :
    BatchFits (batch ++ [a]) := by
  refine ⟨?_, ?_⟩
  · intro b hb
    rcases List.mem_append.1 hb with hb | hb
    · exact h.blocks b hb
    · rw [List.mem_singleton.1 hb]
      exact ha
  · simpa using hlen

/-- The packet of a batch has room. -/
theorem length_payload (h : BatchFits batch) (interval : Nat) :
    (Packet.actionPayload batch interval).length ≤ 4 + maxActionPayload := by
  have htotal := h.total
  rw [← length_encodeActionsRaw] at htotal
  unfold Packet.actionPayload
  split
  · simp [u16le, maxActionPayload]
  · simp only [List.length_append, u16le, List.length_cons, List.length_nil]
    omega

/-- No block of it is too long. -/
theorem small (h : BatchFits batch) : (batch.any fun a => 65535 < a.data.length) = false := by
  rw [List.any_eq_false]
  intro a ha
  have := h.blocks a ha
  simp only [decide_eq_true_eq]
  omega

/-- The packet of a batch that fits can be built. -/
theorem incomingAction (h : BatchFits batch) (interval : Nat) :
    Outgoing.incomingAction batch interval = some (.incomingAction batch interval) := by
  have hlen := h.length_payload interval
  unfold Outgoing.incomingAction
  rw [h.small, if_neg (by simp)]
  refine if_pos ?_
  show decide (4 + (Packet.actionPayload batch interval).length ≤ 65535) = true
  rw [decide_eq_true_eq]
  unfold maxActionPayload at hlen
  omega

end BatchFits

-- ==================================================================== a turn

/-- The steps between two turns: any but a turn, its packets and the
reset of a lag screen; and the game starts once. -/
def betweenTurns (owed : Nat) (k : Kind) (s : GameState) : Prop :=
  k.fine = true ∧ k ≠ .reset ∧ k ≠ .block ∧ k ≠ .turn
    ∧ (k = .restart → owed = 0 ∧ (s.started = none ∨ s.phase = .loading))

/-- Which steps come between two turns. -/
theorem betweenTurns_of {owed : Nat} {k : Kind} {s : GameState} (hfine : k.fine = true)
    (h₁ : k ≠ .reset := by simp) (h₂ : k ≠ .block := by simp) (h₃ : k ≠ .turn := by simp)
    (h₄ : k ≠ .restart := by simp) : betweenTurns owed k s :=
  ⟨hfine, h₁, h₂, h₃, fun h => absurd h h₄⟩

/-- A start, if there was none. -/
theorem betweenTurns_restart {s : GameState} (h : s.started = none ∨ s.phase = .loading) :
    betweenTurns 0 .restart s :=
  ⟨rfl, by simp, by simp, by simp, fun _ => ⟨rfl, h⟩⟩

section Loop

variable [RustStd] {owed : Nat}

omit [RustStd] in
/-- What every command may do is among them. -/
theorem plain_betweenTurns : Plain (betweenTurns owed) := by
  intro k hk s
  refine ⟨?_, ?_, ?_, ?_, ?_⟩
  · cases k <;> first | rfl | cases hk
  · rintro rfl
    cases hk
  · rintro rfl
    cases hk
  · rintro rfl
    cases hk
  · rintro rfl
    cases hk

omit [RustStd] in
/-- PLAYER_INFO is no turn. -/
theorem isAction_playerInfo {pid : UInt8} {name : Text} {ext int : Ip} {info : Option Packet}
    (h : info = (Packet.playerInfo pid name ext int).build) : ∀ b ∈ info, b.isAction = false := by
  subst h
  intro b hb
  rw [Packet.build_eq_some hb]
  rfl

/-- These steps keep the records in agreement. -/
theorem Step.recordsInv {k : Kind} {s t : GameState} (h : Step k s t) (hk : betweenTurns owed k s)
    (hs : WellFormed s) (hI : RecordsInv owed s) : RecordsInv owed t := by
  obtain ⟨hfine, hreset, hblock, hturn, hrestart⟩ := hk
  cases h with
  | misc h =>
      refine hI.of_same ?_ (by rw [h.fullHistory]) h.relayed h.timeline h.started h.gameTicks ?_
      · rw [turnPackets, turnPackets, h.aired]
      · rw [h.actions]
        exact fun _ ha => ha
  -- what these two send is not a turn, so no record counts it
  | air b hb => exact hI.broadcast (Packet.isAction_of_isOrdinary hb)
  | airLag b hb => exact hI.broadcast (by cases b <;> first | rfl | cases hb)
  | reset => exact absurd rfl hreset
  | block => exact absurd rfl hblock
  | turn => exact absurd rfl hturn
  | seat sid player _ _ _ _ info _ =>
      obtain ⟨_, he⟩ := sendOthersDirect?_eq { s with
        slots := (s.slots.occupySlot sid player.pid).1
        players := s.players ++ [(s.joinBurst player).foldl Player.sendDirect player] }
          player.pid info
      rw [he]
      exact hI.of_same rfl rfl rfl rfl rfl rfl fun _ ha => ha
  | seatFake sid p _ _ _ _ _ info hinfo =>
      refine RecordsInv.broadcast? ?_ (isAction_playerInfo hinfo)
      exact hI.of_same rfl rfl rfl rfl rfl rfl fun _ ha => ha
  | host pid _ _ info hinfo =>
      have hair := hI.broadcast? (isAction_playerInfo hinfo)
      exact hair.of_same rfl rfl rfl rfl rfl rfl fun _ ha => ha
  | unseat | unhost | unfake =>
      refine RecordsInv.broadcast ?_ rfl
      exact hI.of_same rfl rfl rfl rfl rfl rfl fun _ ha => ha
  | restart =>
      obtain ⟨rfl, hfirst⟩ := hrestart rfl
      -- the game starts once, so this is its first start
      have hnone : s.started = none := by
        rcases hfirst with h | h
        · exact h
        · cases hst : s.started with
          | none => rfl
          | some st =>
              rcases hs.started (by rw [hst]; rfl) with h' | h' <;> rw [h] at h' <;> cases h'
      have haired : s.turnPackets = [] := hI.fresh hnone
      -- nothing was sent yet, so there is nothing the clock is behind
      have hms : s.enterPlaying.airedMs = 0 := by
        have hsame : s.enterPlaying.turnPackets = s.turnPackets := rfl
        rw [airedMs, hsame, haired]
        rfl
      refine ⟨hI.history, hI.relay, hI.timeline, fun _ => ?_, fun hn => ?_, hI.queued⟩
      · rw [hms]
        rfl
      · cases hn
  | act a ha =>
      refine ⟨hI.history, hI.relay, hI.timeline, hI.clock, hI.fresh, ?_⟩
      intro a' ha'
      rcases List.mem_append.1 ha' with h | h
      · exact hI.queued a' h
      · rw [List.mem_singleton.1 h]
        exact ha
  | reap => cases hfine
  | begin => cases hfine
  | loaded => cases hfine
  | lagCheck => cases hfine
  | check => cases hfine
  | sendTurn => cases hfine
  | _ => exact hI.of_same rfl rfl rfl rfl rfl rfl fun _ ha => ha

/-- So does what is done in them. -/
theorem Does.recordsInv {s t : GameState} (h : Does (betweenTurns owed) s t) (hs : WellFormed s)
    (hI : RecordsInv owed s) : RecordsInv owed t := by
  refine (Lib.Path.preserves (I := fun s => WellFormed s ∧ RecordsInv owed s) ?_ h ⟨hs, hI⟩).2
  intro k s t hk hst ⟨hs, hI⟩
  exact ⟨hst.keeps_wellFormed hs, hst.recordsInv hk hs hI⟩

omit [RustStd] in
/-- An overflow batch stands for no time. -/
theorem RecordsInv.sendOverflow {s : GameState} (h : RecordsInv owed s) (hplay : s.phase = .playing)
    (hstart : s.started.isSome) (batch : List ActionBlock) :
    RecordsInv owed (s.sendOverflow batch) := by
  unfold GameState.sendOverflow
  split
  · rename_i b hb
    rw [Outgoing.incomingAction2_eq_some hb]
    refine h.sendActionPacket hplay hstart rfl (fun r hr => ?_) (Nat.zero_add owed).symm
    have hnow : r.replayLengthMs % 2 ^ 32 = r.replayLengthMs := Nat.mod_eq_of_lt hr
    simp only [ReplayBody.timeline, ReplayBody.timeslots, ReplayBody.addTimeslot2,
      Packet.timeslot?, Packet.sendInterval]
    rw [Nat.add_zero, hnow, List.filter_append]
    rfl
  · exact h

/-- A state in the middle of a turn: the records agree up to the time
of the packet that is still to come. -/
structure MidTurn (owed : Nat) (s : GameState) : Prop extends RecordsInv owed s where
  playing : s.phase = .playing
  running : s.started.isSome

omit [RustStd] in
/-- A full batch takes no time. -/
theorem MidTurn.sendOverflow {s : GameState} (h : MidTurn owed s) (batch : List ActionBlock) :
    MidTurn owed (s.sendOverflow batch) := by
  have hinv := h.toRecordsInv.sendOverflow h.playing h.running batch
  unfold GameState.sendOverflow at hinv ⊢
  split
  · rename_i b hb
    rw [hb] at hinv
    refine ⟨hinv, ?_, ?_⟩
    · exact (broadcast_phase _ _).trans h.playing
    · have hstart : (s.sendActionPacket b fun r => r.addTimeslot2 (encodeActionsRaw batch)).started
          = s.started := broadcast_started _ _
      rw [hstart]
      exact h.running
  · exact h

omit [RustStd] in
/-- The statistics are no record. -/
theorem MidTurn.setDota {s : GameState} (h : MidTurn owed s) (dota : Option StatsDotA) :
    MidTurn owed { s with dota := dota } :=
  ⟨h.toRecordsInv.of_same rfl rfl rfl rfl rfl rfl fun _ ha => ha, h.playing, h.running⟩

omit [RustStd] in
/-- The batching loop keeps the records in step, and leaves a batch that
fits. -/
theorem MidTurn.batchActions {queued : List ActionBlock} (hq : ∀ a ∈ queued, a.data.length ≤ 1024)
    {s : GameState} (h : MidTurn owed s) {batch : List ActionBlock} (hb : BatchFits batch)
    (winner : Option Text) :
    MidTurn owed (batchActions queued s batch (batch.map ActionBlock.wireLen).sum winner).1
      ∧ BatchFits
        (batchActions queued s batch (batch.map ActionBlock.wireLen).sum winner).2.1 := by
  induction queued generalizing s batch winner with
  | nil => exact ⟨h, hb⟩
  | cons a rest ih =>
      have ha := hq a List.mem_cons_self
      have hrest : ∀ c ∈ rest, c.data.length ≤ 1024 := fun c hc => hq c (List.mem_cons_of_mem _ hc)
      -- what the loop does once the statistics have seen the action
      have hturn : ∀ (u : GameState) (w : Option Text), MidTurn owed u →
          MidTurn owed (if maxActionPayload < (batch.map ActionBlock.wireLen).sum + a.wireLen
              ∧ batch ≠ [] then GameState.batchActions rest (u.sendOverflow batch) [a] a.wireLen w
            else GameState.batchActions rest u (batch ++ [a])
              ((batch.map ActionBlock.wireLen).sum + a.wireLen) w).1
            ∧ BatchFits (if maxActionPayload < (batch.map ActionBlock.wireLen).sum + a.wireLen
              ∧ batch ≠ [] then GameState.batchActions rest (u.sendOverflow batch) [a] a.wireLen w
            else GameState.batchActions rest u (batch ++ [a])
              ((batch.map ActionBlock.wireLen).sum + a.wireLen) w).2.1 := by
        intro u w hu
        split
        · have hone := ih hrest (hu.sendOverflow batch) (.singleton ha) w
          simpa using hone
        · rename_i hfit
          have hlen : (batch.map ActionBlock.wireLen).sum + a.wireLen ≤ maxActionPayload := by
            by_cases hnil : batch = []
            · subst hnil
              simpa using (BatchFits.singleton ha).total
            · by_contra hover
              exact hfit ⟨Nat.lt_of_not_le hover, hnil⟩
          have hmore := ih hrest hu (hb.append ha hlen) w
          simpa using hmore
      unfold GameState.batchActions
      cases hd : s.dota with
      | none => exact hturn s winner h
      | some dota => exact hturn _ _ (h.setDota _)

/-- A turn of at most 65535 ms keeps the records in step. -/
theorem RecordsInv.sendAllActions {s : GameState} (h : RecordsInv 0 s) (hs : WellFormed s)
    (hplay : s.phase = .playing) (skipped : Nat) (htime : s.tickElapsed skipped ≤ 65535) :
    RecordsInv 0 (s.sendAllActions skipped) := by
  have hstart := hs.playing hplay
  unfold GameState.sendAllActions
  dsimp only
  generalize hs₁ : ({ s with
    gameTicks := (s.gameTicks + s.tickElapsed skipped) % 2 ^ 32
    syncCounter := (s.syncCounter + 1) % 2 ^ 32
    turns := s.turns ++ [s.tickElapsed skipped]
    actions := [] } : GameState) = s₁
  have hmid : MidTurn (s.tickElapsed skipped) s₁ := by
    rw [← hs₁]
    exact ⟨h.turn hstart _, hplay, hstart⟩
  have hwf : WellFormed s₁ := by
    rw [← hs₁]
    exact (Step.turn (s.tickElapsed skipped) hstart).wellFormed rfl hs
  obtain ⟨hloop, hfits⟩ := hmid.batchActions h.queued .nil none
  have hwf' : WellFormed (batchActions s.actions s₁ [] 0 none).1 :=
    (does_batchActions (K := anyFine) (fun k hk _ => by cases k <;> first | rfl | cases hk)
      (fun _ => rfl) s.actions s₁ [] 0 none).keeps_wellFormed hwf
  have hsum : (([] : List ActionBlock).map ActionBlock.wireLen).sum = 0 := rfl
  rw [hsum] at hloop hfits
  generalize batchActions s.actions s₁ [] 0 none = r at hloop hfits hwf' ⊢
  obtain ⟨s₂, batch, winner⟩ := r
  dsimp only at hloop hfits hwf' ⊢
  -- the game-over line goes out between the batches
  have hpath := does_declareWinner (K := betweenTurns (s.tickElapsed skipped))
    plain_betweenTurns s₂ winner
  have hwon := hpath.recordsInv hwf' hloop.toRecordsInv
  have hframe := (does_declareWinner plain_inertOnly s₂ winner).framed
  rw [hfits.incomingAction]
  dsimp only
  refine hwon.sendActionPacket (hframe.phase.trans hloop.playing) (hframe.started ▸ hloop.running)
    rfl (fun r _ => ?_) ?_
  · simp [ReplayBody.timeline, ReplayBody.timeslots, ReplayBody.addTimeslot,
      ReplayRecord.isTimeslot, Packet.timeslot?, Packet.sendInterval]
  · show s.tickElapsed skipped = min (s.tickElapsed skipped) 65535 + 0
    omega

-- ============================================================= one iteration

omit [RustStd] in
/-- A lag check that resets nobody's screen is the update of the
flags. -/
theorem checkLag_of_no_reset {s : GameState}
    (h : s.resetDue → s.updateLagScreen.laggers = []) : s.checkLag.1 = s.updateLagScreen := by
  unfold checkLag
  dsimp only
  split
  · rename_i hdue
    unfold resetLagScreen
    dsimp only
    rw [if_pos (h hdue)]
  · rfl

/-- The lag check, if it shows no screen anew. -/
theorem does_checkLag_of_no_reset {s : GameState}
    (h : s.resetDue → s.updateLagScreen.laggers = []) :
    Does (betweenTurns owed) s s.checkLag.1 := by
  rw [checkLag_of_no_reset h]
  exact does_updateLagScreen plain_betweenTurns (fun _ => betweenTurns_of rfl)
    (fun _ => betweenTurns_of rfl) s

/-- The desync check. -/
theorem does_checkDesyncBetween (s : GameState) : Does (betweenTurns owed) s s.checkDesync :=
  does_checkDesync plain_betweenTurns (fun _ => betweenTurns_of rfl)
    (fun _ => betweenTurns_of rfl) s

/-- The reaper. -/
theorem does_reapBetween {s : GameState} (hs : WellFormed s) :
    Does (betweenTurns 0) s s.reapLeftPlayers :=
  does_reapLeftPlayers plain_betweenTurns (fun _ => betweenTurns_of rfl)
    (fun _ => betweenTurns_of rfl) (fun _ => betweenTurns_of rfl)
      (fun _ hl => betweenTurns_restart (.inr hl)) hs

/-- The length of the turn this tick sends, if it sends one. -/
def GameState.turnTime (s : GameState) (skipped : Nat) : Option Nat :=
  if s.phase = .playing ∧ s.tickHead.tickLag.2 = false then
    some (s.tickHead.tickLag.1.tickElapsed skipped)
  else none

/-- The iterations that keep the records in step: the game starts once,
and a tick of it neither resets a lag screen nor stands for more than
65535 ms. -/
def KeepsRecords (s : GameState) : Event → Prop
  | .tick skipped =>
    (s.phase = .playing → s.lagPoint.resetDue → s.lagPoint.updateLagScreen.laggers = [])
      ∧ ∀ ms ∈ s.turnTime skipped, ms ≤ 65535
  | ev => s.loadStarts ev = true → s.started = none

/-- A tick that sends a turn. -/
theorem step_turn {s t : GameState} {skipped : Nat} (hfin : s.finished = false)
    (hplay : s.phase = .playing) (hlag : s.tickHead.tickLag = (t, false)) :
    s.step (.tick skipped)
      = (((t.sendAllActions skipped).tickGameOver.tickEnd).reapLeftPlayers).reportLobby := by
  have hphase : s.tickHead.phase = .playing := (tickHead_framed s).phase.trans hplay
  have hhandle : s.handle (.tick skipped) = (t.sendAllActions skipped).tickGameOver.tickEnd := by
    show s.onTick skipped = _
    unfold onTick
    dsimp only
    rw [hphase]
    dsimp only
    unfold tickPlaying
    rw [hlag]
  unfold step
  rw [hfin, ← hhandle]
  rfl

/-- An iteration that sends no turn is made of the steps between
turns. -/
theorem admits_betweenTurns {s : GameState} {ev : Event} (hC : KeepsRecords s ev)
    (hno : ∀ skipped, ev = .tick skipped → s.phase = .playing → s.tickHead.tickLag.2 = true) :
    Admits (betweenTurns 0) s ev where
  toGuards := .of_free (fun _ => betweenTurns_of rfl) fun k hk _ =>
    betweenTurns_of (Kind.fine_of_guarded hk) (by rintro rfl; cases hk) (by rintro rfl; cases hk)
      (by rintro rfl; cases hk) (by rintro rfl; cases hk)
  plain := plain_betweenTurns
  reap _ _ ht := does_reapBetween ht
  begin _ _ hdue := does_beginLoading plain_betweenTurns (betweenTurns_of rfl)
    (fun _ _ => betweenTurns_of rfl) (fun _ _ _ => betweenTurns_of rfl)
    (fun _ => betweenTurns_of rfl) (fun _ hl => betweenTurns_restart (.inr hl))
    (phaseStep_of_countdownDue hdue)
  loaded := by
    rintro env connId payload rfl
    refine does_handleLoaded plain_betweenTurns (fun _ => betweenTurns_of rfl)
      (fun _ => betweenTurns_of rfl) (fun _ => betweenTurns_of rfl) fun q hq hrejoin hall =>
        betweenTurns_restart (.inl ?_)
    have hstarted : (s.markLoaded q.pid).started = s.started := by
      unfold markLoaded
      exact broadcast_started _ _
    rw [hstarted]
    refine hC ?_
    simp only [loadStarts, hq, all_loaded_of_markLoaded hall, Bool.and_true, decide_true,
      Bool.true_and]
    exact bne_iff_ne.2 hrejoin
  check t _ := does_checkDesyncBetween t
  lagCheck := by
    rintro skipped rfl hplay
    exact does_checkLag_of_no_reset (hC.1 hplay)
  sendTurn := by
    intro skipped t hev hplay hlag _
    have hup := hno skipped hev hplay
    rw [hlag] at hup
    cases hup

/-- An iteration that meets the conditions keeps them in agreement. -/
theorem step_recordsInv {s : GameState} {ev : Event} (hs : WellFormed s) (hev : ev.Sound)
    (hC : KeepsRecords s ev) (hI : RecordsInv 0 s) : RecordsInv 0 (s.step ev) := by
  by_cases hsends : ∃ skipped, ev = .tick skipped ∧ s.phase = .playing
    ∧ s.tickHead.tickLag.2 = false
  · obtain ⟨skipped, rfl, hplay, hdown⟩ := hsends
    cases hfin : s.finished with
    | true =>
        have hstep : s.step (.tick skipped) = s := by
          unfold step
          rw [hfin]
          rfl
        rw [hstep]
        exact hI
    | false =>
        have htime : s.tickHead.tickLag.1.tickElapsed skipped ≤ 65535 :=
          hC.2 _ (by simp [turnTime, hplay, hdown])
        -- up to the turn
        have hpath : Does (betweenTurns 0) s s.tickHead.tickLag.1 :=
          (does_tickHead plain_betweenTurns s).trans (does_tickLag plain_betweenTurns s
            (betweenTurns_of rfl) (does_checkDesyncBetween _)
            (does_checkLag_of_no_reset (hC.1 hplay)))
        have hwf := hpath.keeps_wellFormed hs
        have hphase : s.tickHead.tickLag.1.phase = .playing := by
          rw [(tickLag_framed s).phase, (tickHead_framed s).phase]
          exact hplay
        -- the turn
        have hturn := (hpath.recordsInv hs hI).sendAllActions hwf hphase skipped htime
        have hwf' : WellFormed (s.tickHead.tickLag.1.sendAllActions skipped) :=
          (does_sendAllActions (K := anyFine) (fun k hk _ => by cases k <;> first | rfl | cases hk)
            rfl (fun _ => rfl) (hwf.playing hphase) skipped).keeps_wellFormed hwf
        -- and the rest of the tick
        have hend := (does_tickGameOver (K := betweenTurns 0) plain_betweenTurns
          (s.tickHead.tickLag.1.sendAllActions skipped)).trans
            (does_tickEnd plain_betweenTurns _ fun _ => betweenTurns_of rfl)
        have hrest := (hend.trans (does_reapBetween (hend.keeps_wellFormed hwf'))).trans
          (does_reportLobby plain_betweenTurns _)
        rw [step_turn hfin hplay (t := s.tickHead.tickLag.1) (Prod.ext rfl hdown)]
        exact hrest.recordsInv hwf' hturn
  · refine (does_step hs hev (admits_betweenTurns hC ?_)).recordsInv hs hI
    intro skipped hskip hplay
    cases hlag : s.tickHead.tickLag.2 with
    | true => rfl
    | false => exact absurd ⟨skipped, hskip, hplay, hlag⟩ hsends

/-- In every run that starts its game once, resets no lag screen with
somebody on it and has no turn longer than 65535 ms: the history, the
relay and the replay hold the turn packets that were broadcast, one for
one and in order, and the clock, their intervals and the length of the
replay are the same time. -/
theorem records_agree {s : GameState} (h : Reaches KeepsRecords s) : RecordsAgree s := by
  refine (h.preserves (I := RecordsInv 0) ?_ ?_).2.agree
  · intro cfg now seed
    refine ⟨rfl, ?_, ?_, fun hs => (nomatch hs), fun _ => rfl, fun a ha => (nomatch ha)⟩
    · intro l hl
      have hl' : (if cfg.relay then some [] else none).map
          (fun l : List RelayMsg => l.filterMap RelayMsg.pushed?) = some l := hl
      split at hl'
      · exact (Option.some.inj hl').symm
      · cases hl'
    · intro l hl
      exact (Option.some.inj hl).symm
  · intro s ev hs hev hC hI
    exact step_recordsInv hs hev hC hI

end Loop

section Runs

open Scenario

instance (s : GameState) (ev : Event) : Decidable (KeepsRecords s ev) :=
  match ev with
  | .tick skipped => inferInstanceAs (Decidable
      ((s.phase = .playing → s.lagPoint.resetDue → s.lagPoint.updateLagScreen.laggers = [])
        ∧ ∀ ms ∈ s.turnTime skipped, ms ≤ 65535))
  | .elapse ms => inferInstanceAs (Decidable (s.loadStarts (.elapse ms) = true → s.started = none))
  | .cmd env c => inferInstanceAs (Decidable (s.loadStarts (.cmd env c) = true → s.started = none))

/-- The configuration of a game that is relayed, and whose lag screen
comes up at three turns behind. -/
def relayedConfig : GameConfig := { config with syncLimit := 2, relay := true }

/-- Three turns and a lag screen. -/
theorem records_agree_laggingGame :
    Reaches KeepsRecords ((GameState.new relayedConfig 0 5).run laggingGame)
      ∧ ((GameState.new relayedConfig 0 5).run laggingGame).airedMs = 300
      ∧ RecordsAgree ((GameState.new relayedConfig 0 5).run laggingGame) := by
  have hrun : Reaches KeepsRecords ((GameState.new relayedConfig 0 5).run laggingGame) :=
    ⟨relayedConfig, 0, 5, Runs.of_meets (by decide +kernel)⟩
  exact ⟨hrun, by decide +kernel, records_agree hrun⟩

/-- A player stays on the lag screen for a minute. -/
def stuckGame : List Event := laggingGame ++ [.elapse 60000, .tick 0]

/-- The lag screen reset broadcasts an empty turn that neither the relay
nor the replay gets. -/
theorem reset_turn_is_not_recorded :
    (∀ ev ∈ stuckGame, ev.Sound)
      ∧ ((GameState.new relayedConfig 0 5).run stuckGame).panicked = false
      ∧ ((GameState.new relayedConfig 0 5).run stuckGame).turnPackets.length = 4
      ∧ ((GameState.new relayedConfig 0 5).run stuckGame).relayed.map List.length = some 3
      ∧ ((GameState.new relayedConfig 0 5).run stuckGame).replay.map
        (fun r => r.timeslots.length) = some 3
      ∧ ¬RecordsAgree ((GameState.new relayedConfig 0 5).run stuckGame) := by
  have hpackets : ((GameState.new relayedConfig 0 5).run stuckGame).turnPackets.length = 4 := by
    decide +kernel
  have hrelay : ((GameState.new relayedConfig 0 5).run stuckGame).relayed.map List.length
    = some 3 := by
    decide +kernel
  refine ⟨by decide +kernel, by decide +kernel, hpackets, hrelay, by decide +kernel, ?_⟩
  intro hagree
  obtain ⟨l, hl, hlen⟩ := Option.map_eq_some_iff.1 hrelay
  rw [hagree.relay l hl, hpackets] at hlen
  exact absurd hlen (by decide)

end Runs

end Spectre

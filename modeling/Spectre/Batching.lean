/-
The packets of one turn.

`send_all_actions` empties the queue into batches of at most
`MAX_ACTION_PAYLOAD` bytes: each batch that is full goes out ahead as an
INCOMING_ACTION2, and the last, which may be empty, as the turn's
INCOMING_ACTION. The loop is greedy packing (`batchActions_packs`), so
the bodies of the packets, one behind the other, are the encoded queue
(`actions_are_batched`).

The body of a packet is what a client takes for the commands: the
payload behind the interval and the checksum.
-/
import Spectre.Records
import Spectre.Lib.Pack

namespace Spectre

open GameState

-- ============================================================ what a client reads

namespace Packet

/-- The commands an action packet carries. -/
def actionBody (p : Packet) : List UInt8 := p.payload.drop 4

/-- The checksum it carries for them. -/
def actionSum (p : Packet) : List UInt8 := (p.payload.drop 2).take 2

end Packet

/-- The action packets broadcast on the way from `s` to `t`. -/
def GameState.actionsAired (s t : GameState) : List Packet :=
  (t.aired.drop s.aired.length).filter Packet.isAction

section Payload

variable {batch : List ActionBlock}

theorem drop_actionPayload (batch : List ActionBlock) (interval : Nat) :
    (Packet.actionPayload batch interval).drop 4 = encodeActionsRaw batch := by
  unfold Packet.actionPayload
  split
  · rename_i hnil
    rw [hnil]
    rfl
  · rfl

theorem encodeActionsRaw_append (l r : List ActionBlock) :
    encodeActionsRaw (l ++ r) = encodeActionsRaw l ++ encodeActionsRaw r := List.flatMap_append

theorem encodeActionsRaw_flatten (l : List (List ActionBlock)) :
    encodeActionsRaw l.flatten = l.flatMap encodeActionsRaw := by
  induction l with
  | nil => rfl
  | cons batch l ih => rw [List.flatten_cons, encodeActionsRaw_append, ih, List.flatMap_cons]

/-- A packet that carries commands carries the checksum of their
encoding. -/
theorem sum_actionPayload (interval : Nat) (h : encodeActionsRaw batch ≠ []) :
    ((Packet.actionPayload batch interval).drop 2).take 2
      = u16le (crc32 (encodeActionsRaw batch)).toNat := by
  have hne : batch ≠ [] := by
    rintro rfl
    exact h rfl
  unfold Packet.actionPayload
  rw [if_neg hne]
  rfl

/-- The overflow packet of a batch that fits can be built. -/
theorem BatchFits.incomingAction2 (h : BatchFits batch) :
    Outgoing.incomingAction2 batch = some (.incomingAction2 batch) := by
  have hlen := h.length_payload 0
  unfold Outgoing.incomingAction2
  rw [h.small, if_neg (by simp)]
  refine if_pos ?_
  show decide (4 + (Packet.actionPayload batch 0).length ≤ 65535) = true
  rw [decide_eq_true_eq]
  unfold maxActionPayload at hlen
  omega

end Payload

-- ==================================================================== the loop

section Loop

variable {s : GameState} {winner : Option Text}

/-- The name of a winner is short. -/
theorem length_formatWinner (dota : StatsDotA) : dota.formatWinner.length ≤ 10 := by
  unfold StatsDotA.formatWinner
  split
  · decide +kernel
  · split
    · decide +kernel
    · decide +kernel

theorem sendOverflow_aired (s : GameState) (batch : List ActionBlock) :
    (s.sendOverflow batch).aired = s.aired ++ (Outgoing.incomingAction2 batch).toList
      ∧ (s.sendOverflow batch).actions = s.actions
      ∧ (s.sendOverflow batch).panicked = s.panicked := by
  unfold sendOverflow
  cases hb : Outgoing.incomingAction2 batch with
  | none => exact ⟨by simp, rfl, rfl⟩
  | some b =>
      obtain ⟨h, he⟩ := s.sendActionPacket_eq b fun r => r.addTimeslot2 (encodeActionsRaw batch)
      dsimp only
      rw [he]
      exact ⟨rfl, rfl, rfl⟩

/-- The batching loop packs the queue: the closed packs go out as they
are closed, and the open one is left for the turn's last packet. -/
theorem batchActions_packs (queued : List ActionBlock) (s : GameState) (batch : List ActionBlock)
    (hwinner : ∀ w ∈ winner, w.length ≤ 10) :
    let r := batchActions queued s batch (batch.map ActionBlock.wireLen).sum winner
    let packs := Lib.pack maxActionPayload ActionBlock.wireLen batch queued
    r.1.aired = s.aired ++ packs.1.filterMap Outgoing.incomingAction2
      ∧ r.1.actions = s.actions ∧ r.1.panicked = s.panicked
      ∧ r.2.1 = packs.2 ∧ ∀ w ∈ r.2.2, w.length ≤ 10 := by
  induction queued generalizing s batch winner with
  | nil => exact ⟨by simp [batchActions, Lib.pack], rfl, rfl, rfl, hwinner⟩
  | cons a rest ih =>
      -- what the loop does once the statistics have seen the action
      have hturn : ∀ (u : GameState) (w : Option Text), u.aired = s.aired → u.actions = s.actions →
          u.panicked = s.panicked → (∀ x ∈ w, x.length ≤ 10) →
          let r := if maxActionPayload < (batch.map ActionBlock.wireLen).sum + a.wireLen
              ∧ batch ≠ [] then batchActions rest (u.sendOverflow batch) [a] a.wireLen w
            else batchActions rest u (batch ++ [a])
              ((batch.map ActionBlock.wireLen).sum + a.wireLen) w
          let packs := Lib.pack maxActionPayload ActionBlock.wireLen batch (a :: rest)
          r.1.aired = s.aired ++ packs.1.filterMap Outgoing.incomingAction2
            ∧ r.1.actions = s.actions ∧ r.1.panicked = s.panicked
            ∧ r.2.1 = packs.2 ∧ ∀ x ∈ r.2.2, x.length ≤ 10 := by
        intro u w haired hactions hpanicked hw
        unfold Lib.pack
        by_cases hfull : maxActionPayload < (batch.map ActionBlock.wireLen).sum + a.wireLen
            ∧ batch ≠ []
        · simp only [if_pos hfull]
          obtain ⟨hout, hact, hpan⟩ := sendOverflow_aired u batch
          have hsum : ([a].map ActionBlock.wireLen).sum = a.wireLen := by simp
          have hone := ih (u.sendOverflow batch) [a] hw
          rw [hsum] at hone
          obtain ⟨h₁, h₂, h₃, h₄, h₅⟩ := hone
          refine ⟨?_, h₂.trans (hact.trans hactions), h₃.trans (hpan.trans hpanicked), h₄, h₅⟩
          rw [h₁, hout, haired, List.append_assoc]
          congr 1
          rw [List.filterMap_cons]
          cases Outgoing.incomingAction2 batch with
          | none => rfl
          | some b => rfl
        · simp only [if_neg hfull]
          have hsum : ((batch ++ [a]).map ActionBlock.wireLen).sum
              = (batch.map ActionBlock.wireLen).sum + a.wireLen := by simp
          have hmore := ih u (batch ++ [a]) hw
          rw [hsum] at hmore
          obtain ⟨h₁, h₂, h₃, h₄, h₅⟩ := hmore
          exact ⟨by rw [h₁, haired], h₂.trans hactions, h₃.trans hpanicked, h₄, h₅⟩
      unfold batchActions
      cases hd : s.dota with
      | none => exact hturn s winner rfl rfl rfl hwinner
      | some dota =>
          refine hturn _ _ rfl rfl rfl ?_
          intro w hw
          split at hw
          · rw [← Option.some.inj hw]
            exact length_formatWinner _
          · exact hwinner w hw

/-- A chat line to everyone is no action packet, and one that is short
enough is not cut. -/
theorem sendChatAll_aired (s : GameState) {message : Text} (hlen : message.length ≤ 127) :
    ∃ lines : List Packet, (s.sendChatAll message).aired = s.aired ++ lines
      ∧ (∀ b ∈ lines, b.isAction = false) ∧ (s.sendChatAll message).actions = s.actions
      ∧ (s.sendChatAll message).panicked = s.panicked := by
  have hair : ∀ (t : GameState) (b : Option Packet), t.aired = s.aired → t.actions = s.actions →
      t.panicked = s.panicked → (∀ x ∈ b, x.isOrdinary = true) →
      ∃ lines : List Packet, (t.broadcast? b).aired = s.aired ++ lines
        ∧ (∀ b ∈ lines, b.isAction = false) ∧ (t.broadcast? b).actions = s.actions
        ∧ (t.broadcast? b).panicked = s.panicked := by
    intro t b haired hactions hpanicked hord
    cases b with
    | none => exact ⟨[], by simpa [broadcast?] using haired, by simp, hactions, hpanicked⟩
    | some b =>
        obtain ⟨h, he⟩ := t.broadcast_eq b
        refine ⟨[b], ?_, ?_, ?_, ?_⟩
        · show (t.broadcast b).aired = _
          rw [he, ← haired]
        · intro x hx
          rw [List.mem_singleton.1 hx]
          exact Packet.isAction_of_isOrdinary (hord b rfl)
        · show (t.broadcast b).actions = _
          rw [he]
          exact hactions
        · show (t.broadcast b).panicked = _
          rw [he]
          exact hpanicked
  -- the text is short enough for either form of chat, so it is sent whole
  have hclip : ∀ (t : GameState) (n : Nat), 127 ≤ n → t.clip n message = (t, message) := by
    intro t n hn
    unfold clip
    rw [if_neg (by omega)]
  have hsame : ∃ lines : List Packet, s.aired = s.aired ++ lines
      ∧ (∀ b ∈ lines, b.isAction = false) ∧ s.actions = s.actions ∧ s.panicked = s.panicked :=
    ⟨[], by simp, by simp, rfl, rfl⟩
  unfold sendChatAll
  dsimp only
  split
  · exact hsame
  split
  · exact hsame
  split
  · rw [hclip _ 254 (by omega)]
    exact hair _ _ rfl rfl rfl (Outgoing.chatFromHost_isOrdinary _ _ _ _ _)
  · rw [hclip _ 127 (by omega)]
    exact hair _ _ rfl rfl rfl (Outgoing.chatFromHost_isOrdinary _ _ _ _ _)

theorem declareWinner_aired (s : GameState) (hwinner : ∀ w ∈ winner, w.length ≤ 10) :
    ∃ lines : List Packet, (s.declareWinner winner).aired = s.aired ++ lines
      ∧ (∀ b ∈ lines, b.isAction = false) ∧ (s.declareWinner winner).actions = s.actions
      ∧ (s.declareWinner winner).panicked = s.panicked := by
  cases winner with
  | none => exact ⟨[], by simp [declareWinner], by simp, rfl, rfl⟩
  | some w =>
      have hw := hwinner w rfl
      have hbefore : (txt "Game over detected! Winner: ").length ≤ 40 := by decide +kernel
      have hbehind : (txt ". Game will close in 60s.").length ≤ 40 := by decide +kernel
      have hline : (txt "Game over detected! Winner: " ++ w
          ++ txt ". Game will close in 60s.").length ≤ 127 := by
        rw [List.length_append, List.length_append]
        omega
      obtain ⟨lines, h₁, h₂, h₃, h₄⟩ := sendChatAll_aired s hline
      exact ⟨lines, h₁, h₂, h₃, h₄⟩

end Loop

-- ==================================================================== the turn

section Turn

variable {s : GameState}

/-- What one turn broadcasts for a queue of blocks that clients may
send: overflow packets and, last, one INCOMING_ACTION. -/
theorem actionsAired_sendAllActions (hq : ∀ a ∈ s.actions, a.data.length ≤ 1024) (skipped : Nat) :
    let packs := Lib.pack maxActionPayload ActionBlock.wireLen [] s.actions
    s.actionsAired (s.sendAllActions skipped) = packs.1.map .incomingAction2
        ++ [.incomingAction packs.2 (min (s.tickElapsed skipped) 65535)]
      ∧ (∀ batch ∈ packs.1 ++ [packs.2], BatchFits batch)
      ∧ (s.sendAllActions skipped).actions = []
      ∧ (s.sendAllActions skipped).panicked = s.panicked := by
  intro packs
  have hflat : packs.1.flatten ++ packs.2 = s.actions := Lib.pack_flatten
  have hfits : ∀ batch ∈ packs.1 ++ [packs.2], BatchFits batch := by
    intro batch hbatch
    refine ⟨fun a ha => hq a ?_, Lib.pack_fits ?_ (Nat.zero_le _) hbatch⟩
    · rw [← hflat, ← List.flatten_concat]
      exact List.mem_flatten.2 ⟨batch, by simpa using hbatch, ha⟩
    · intro a ha
      have hlen := hq a ha
      unfold ActionBlock.wireLen maxActionPayload
      omega
  -- every batch fits its frame, so none is lost in the building
  have hbuilt : packs.1.filterMap Outgoing.incomingAction2 = packs.1.map .incomingAction2 := by
    rw [← List.filterMap_eq_map]
    refine List.filterMap_congr fun batch hbatch => ?_
    exact (hfits batch (List.mem_append_left _ hbatch)).incomingAction2
  unfold sendAllActions
  dsimp only
  -- the tick counts and empties the queue before anything is sent
  generalize hs₁ : ({ s with
    gameTicks := (s.gameTicks + s.tickElapsed skipped) % 2 ^ 32
    syncCounter := (s.syncCounter + 1) % 2 ^ 32
    turns := s.turns ++ [s.tickElapsed skipped]
    actions := [] } : GameState) = s₁
  have hloop :=
    @batchActions_packs none s.actions s₁ [] (fun w hw => (Option.not_mem_none w hw).elim)
  rw [show (([] : List ActionBlock).map ActionBlock.wireLen).sum = 0 from rfl] at hloop
  have hs₁aired : s₁.aired = s.aired := by rw [← hs₁]
  have hs₁actions : s₁.actions = [] := by rw [← hs₁]
  have hs₁panicked : s₁.panicked = s.panicked := by rw [← hs₁]
  generalize batchActions s.actions s₁ [] 0 none = r at hloop ⊢
  obtain ⟨s₂, batch, winner⟩ := r
  dsimp only at hloop ⊢
  obtain ⟨haired, hactions, hpanicked, rfl, hwinner⟩ := hloop
  -- a winner is declared by chat only, between the batches and the last action
  obtain ⟨lines, hlines, hchat, hactions', hpanicked'⟩ := declareWinner_aired s₂ hwinner
  rw [(hfits _ (List.mem_append_right _ (List.mem_singleton_self _))).incomingAction]
  dsimp only
  obtain ⟨h, he⟩ := (s₂.declareWinner winner).sendActionPacket_eq
    (.incomingAction packs.2 (min (s.tickElapsed skipped) 65535))
    fun r => r.addTimeslot (min (s.tickElapsed skipped) 65535) (encodeActionsRaw packs.2)
  rw [he]
  refine ⟨?_, hfits, hactions'.trans (hactions.trans hs₁actions),
    hpanicked'.trans (hpanicked.trans hs₁panicked)⟩
  unfold actionsAired
  dsimp only
  have hover : (packs.1.map Packet.incomingAction2).filter Packet.isAction
      = packs.1.map Packet.incomingAction2 := by
    rw [List.filter_eq_self]
    intro b hb
    obtain ⟨batch, -, rfl⟩ := List.mem_map.1 hb
    rfl
  have hquiet : lines.filter Packet.isAction = [] := by
    rw [List.filter_eq_nil_iff]
    intro b hb
    rw [hchat b hb]
    simp
  rw [hlines, haired, hs₁aired, hbuilt, List.append_assoc, List.append_assoc, List.drop_left,
    List.filter_append, List.filter_append, hover, hquiet]
  rfl

/-- For every queue of blocks that clients may send, a turn broadcasts
INCOMING_ACTION2 packets and then one INCOMING_ACTION. Their bodies, one
behind the other, are the encoded queue, cut only between blocks; each
is at most 1452 bytes long, fits its frame and, unless it is empty,
comes with the low half of its CRC-32. The queue is empty afterwards. -/
theorem actions_are_batched (hq : ∀ a ∈ s.actions, a.data.length ≤ 1024) (skipped : Nat) :
    ∃ (ahead : List (List ActionBlock)) (last : List ActionBlock),
      s.actionsAired (s.sendAllActions skipped) = ahead.map .incomingAction2
          ++ [.incomingAction last (min (s.tickElapsed skipped) 65535)]
        ∧ ahead.flatten ++ last = s.actions
        ∧ (∀ batch ∈ ahead, batch ≠ [])
        ∧ (s.actionsAired (s.sendAllActions skipped)).flatMap Packet.actionBody
          = encodeActionsRaw s.actions
        ∧ (∀ p ∈ s.actionsAired (s.sendAllActions skipped), p.actionBody.length ≤ 1452
          ∧ (∃ bytes, p.encode = some bytes)
          ∧ (p.actionBody ≠ [] → p.actionSum = u16le (crc32 p.actionBody).toNat))
        ∧ (s.sendAllActions skipped).actions = []
        ∧ (s.sendAllActions skipped).panicked = s.panicked := by
  obtain ⟨hpackets, hfits, hactions, hpanicked⟩ := actionsAired_sendAllActions hq skipped
  -- the batches are the packs of the queue, whatever the packing looks like
  generalize hpacks : Lib.pack maxActionPayload ActionBlock.wireLen [] s.actions = packs
    at hpackets hfits
  have hflat : packs.1.flatten ++ packs.2 = s.actions := by
    rw [← hpacks]
    exact Lib.pack_flatten
  have hbody : ∀ batch ∈ packs.1 ++ [packs.2], ∀ interval,
      ((Packet.actionPayload batch interval).drop 4).length ≤ 1452 := by
    intro batch hbatch interval
    rw [drop_actionPayload, length_encodeActionsRaw]
    exact (hfits batch hbatch).total
  -- the header of four and the payload stay below the u16 length of a frame
  have hframe : ∀ batch ∈ packs.1 ++ [packs.2], ∀ interval,
      4 + (Packet.actionPayload batch interval).length ≤ 65535 := by
    intro batch hbatch interval
    have hlen := (hfits batch hbatch).length_payload interval
    unfold maxActionPayload at hlen
    omega
  refine ⟨packs.1, packs.2, hpackets, hflat, ?_, ?_, ?_, hactions, hpanicked⟩
  · intro batch hbatch
    rw [← hpacks] at hbatch
    exact Lib.ne_nil_of_mem_pack hbatch
  · -- the batches sent ahead carry no interval, the last one carries the tick's
    have hover : (packs.1.map Packet.incomingAction2).flatMap Packet.actionBody
        = packs.1.flatMap encodeActionsRaw := by
      rw [List.flatMap_map]
      exact List.flatMap_congr fun batch _ => drop_actionPayload batch 0
    have hlast : ([Packet.incomingAction packs.2 (min (s.tickElapsed skipped) 65535)].flatMap
        Packet.actionBody) = encodeActionsRaw packs.2 := by
      rw [List.flatMap_singleton]
      exact drop_actionPayload _ _
    rw [hpackets, List.flatMap_append, hover, hlast, ← hflat, encodeActionsRaw_append,
      encodeActionsRaw_flatten]
  · intro p hp
    rw [hpackets] at hp
    rcases List.mem_append.1 hp with hp | hp
    · obtain ⟨batch, hbatch, rfl⟩ := List.mem_map.1 hp
      have hmem := List.mem_append_left [packs.2] hbatch
      refine ⟨hbody batch hmem 0, ⟨_, if_pos ?_⟩, fun hne => ?_⟩
      · exact decide_eq_true (hframe batch hmem 0)
      · have hdrop : (Packet.incomingAction2 batch).actionBody = encodeActionsRaw batch :=
          drop_actionPayload batch 0
        rw [hdrop] at hne ⊢
        exact sum_actionPayload 0 hne
    · rw [List.mem_singleton.1 hp]
      have hmem : packs.2 ∈ packs.1 ++ [packs.2] :=
        List.mem_append_right _ (List.mem_singleton_self _)
      refine ⟨hbody _ hmem _, ⟨_, if_pos ?_⟩, fun hne => ?_⟩
      · exact decide_eq_true (hframe _ hmem _)
      · have hdrop : (Packet.incomingAction packs.2 (min (s.tickElapsed skipped) 65535)).actionBody
            = encodeActionsRaw packs.2 := drop_actionPayload _ _
        rw [hdrop] at hne ⊢
        exact sum_actionPayload _ hne

end Turn

section Runs

open Scenario

/-- OUTGOING_ACTION: a checksum and `n` bytes of commands. -/
def act (connId n : Nat) : Event := w3gs connId 0x26 (u32le 0 ++ List.replicate n 7)

/-- Two players give orders, and no packet holds both. -/
def twoOrders : GameState :=
  lobby.run (twoPlay PlayerLink.drained PlayerLink.drained ++ [act 1 1000, act 2 1000])

theorem actions_are_batched_twoOrders :
    twoOrders.actions.map (fun a => (a.pid, a.data.length)) = [(1, 1000), (2, 1000)]
      ∧ (twoOrders.actionsAired (twoOrders.sendAllActions 0)).map
        (fun p => (p.id, p.actionBody.length))
        = [(0x48, 1003), (0x0C, 1003)]
      ∧ (twoOrders.actionsAired (twoOrders.sendAllActions 0)).flatMap Packet.actionBody
        = encodeActionsRaw twoOrders.actions
      ∧ (twoOrders.sendAllActions 0).actions = [] := by
  have hsizes : ∀ a ∈ twoOrders.actions, a.data.length ≤ 1024 := by decide +kernel
  obtain ⟨ahead, last, -, -, -, hbodies, -, hempty, -⟩ := actions_are_batched hsizes 0
  exact ⟨by decide +kernel, by decide +kernel, hbodies, hempty⟩

end Runs

end Spectre

/-
The votekick (`chat.rs`: `parse_command`, the dispatch of
`handle_chat_to_host`, `VoteKick` and `Yes` of `run_command`), from the
text of a line to the mark on the target.

`run_command` counts a `!yes` and marks the target left as voted out
once the votes suffice. But `parse_command` knows no verb `yes`: the
line is an unknown command, which nobody but the owner may even give.
So no line ever marks anyone as voted out, and a votekick does what it
promises for just as long as the votes do not suffice.
-/
import Spectre.ChatEffects
import Spectre.Scenario
import Mathlib.Data.List.Infix

namespace Spectre

open GameState

-- ================================================================ the parser

/-- An entry a table gives is one of its entries. -/
theorem mem_of_lookupVerb {α : Type} {verb : Text} {table : List (Text × α)} {c : α}
    (h : lookupVerb verb table = some c) : ∃ v, (v, c) ∈ table := by
  unfold lookupVerb at h
  obtain ⟨e, he, rfl⟩ := Option.map_eq_some_iff.1 h
  exact ⟨e.1, List.mem_of_find?_eq_some he⟩

/-- No verb without arguments is a vote. -/
theorem bareVerbs_ne_yes : ∀ e ∈ bareVerbs, e.2 ≠ .yes := by
  unfold bareVerbs
  simp

/-- Nor is one with a name. -/
theorem nameVerbs_ne_yes : ∀ e ∈ nameVerbs, ∀ name, e.2 name ≠ .yes := by
  unfold nameVerbs
  simp

/-- Nor is one with a line. -/
theorem lineVerbs_ne_yes : ∀ e ∈ lineVerbs, ∀ line, e.2 line ≠ .yes := by
  unfold lineVerbs
  simp

/-- Nor is one that may have a name. -/
theorem optNameVerbs_ne_yes : ∀ e ∈ optNameVerbs, ∀ name, e.2 name ≠ .yes := by
  unfold optNameVerbs
  simp

/-- Commands built from an argument that may be missing. -/
theorem bind_ne {α : Type} {o : Option α} {f : α → Option ChatCommand} {c : ChatCommand}
    (h : ∀ a, f a ≠ some c) : o >>= f ≠ some c := by
  cases o with
  | none => exact fun h' => (nomatch h')
  | some a => exact h a

/-- Neither branch, then not the whole. -/
theorem ite_ne {p : Prop} [Decidable p] {a b : Option ChatCommand} {c : ChatCommand}
    (ha : a ≠ some c) (hb : b ≠ some c) : (if p then a else b) ≠ some c := by
  split
  · exact ha
  · exact hb

/-- Nor is one with numbers. -/
theorem parseOther_ne_yes (verb : Text) (args : List Text) : parseOther verb args ≠ some .yes := by
  have hsome : ∀ c : ChatCommand, c ≠ .yes → some c ≠ some .yes := fun c h h' =>
    h (Option.some.inj h')
  have hone : ∀ {α : Type} (o : Option α) (f : α → ChatCommand), (∀ a, f a ≠ .yes) →
      (do return f (← o)) ≠ some ChatCommand.yes := fun o f h => bind_ne fun a => hsome _ (h a)
  unfold parseOther
  -- the verbs in the order of the source
  refine ite_ne (hsome _ nofun) ?_
  refine ite_ne (bind_ne fun _ => hone _ _ fun _ => nofun) ?_
  refine ite_ne (bind_ne fun _ => hone _ _ fun _ => nofun) ?_
  refine ite_ne (bind_ne fun _ => bind_ne fun _ => bind_ne fun _ => hone _ _ fun _ => nofun) ?_
  refine ite_ne (hone _ _ fun _ => nofun) ?_
  refine ite_ne (hone _ _ fun _ => nofun) ?_
  refine ite_ne (hsome _ nofun) ?_
  refine ite_ne (hsome _ nofun) ?_
  refine ite_ne (hsome _ nofun) ?_
  refine ite_ne (hone _ _ fun _ => nofun) ?_
  refine ite_ne (hsome _ nofun) ?_
  refine ite_ne (bind_ne fun _ => hone _ _ fun _ => nofun) ?_
  refine ite_ne (bind_ne fun _ => bind_ne fun _ => bind_ne fun _ => hsome _ nofun) ?_
  refine ite_ne (bind_ne fun _ => bind_ne fun _ => bind_ne fun _ => hsome _ nofun) ?_
  refine ite_ne (bind_ne fun _ => bind_ne fun _ => bind_ne fun _ => hsome _ nofun) ?_
  refine ite_ne (bind_ne fun _ => bind_ne fun _ => bind_ne fun _ => hsome _ nofun) ?_
  refine ite_ne (hsome _ nofun) ?_
  refine ite_ne (hsome _ nofun) ?_
  refine ite_ne (hone _ _ fun _ => nofun) ?_
  exact ite_ne (hsome _ nofun) (hsome _ nofun)

/-- There is no verb that votes. -/
theorem parseVerb_ne_yes (verb : Text) (args : List Text) : parseVerb verb args ≠ some .yes := by
  intro h
  unfold parseVerb at h
  split at h
  · rename_i c hc
    obtain ⟨v, hmem⟩ := mem_of_lookupVerb hc
    exact bareVerbs_ne_yes _ hmem (Option.some.inj h)
  split at h
  · rename_i f hf
    obtain ⟨v, hmem⟩ := mem_of_lookupVerb hf
    obtain ⟨name, -, hname⟩ := Option.map_eq_some_iff.1 h
    exact nameVerbs_ne_yes _ hmem name hname
  split at h
  · rename_i f hf
    obtain ⟨v, hmem⟩ := mem_of_lookupVerb hf
    exact lineVerbs_ne_yes _ hmem _ (Option.some.inj h)
  split at h
  · rename_i f hf
    obtain ⟨v, hmem⟩ := mem_of_lookupVerb hf
    exact optNameVerbs_ne_yes _ hmem _ (Option.some.inj h)
  · exact parseOther_ne_yes verb args h

section Votes

variable [RustStd]

/-- No text is the command that votes. -/
theorem parseCommand_ne_yes (message : Text) : parseCommand message ≠ some .yes := by
  unfold parseCommand
  split
  · split
    · exact fun h => (nomatch h)
    · exact parseVerb_ne_yes _ _
  · exact fun h => (nomatch h)

-- ============================================================== voted out

/-- The player is not marked as voted out. -/
def Spared (pid : UInt8) (s : GameState) : Prop :=
  ∀ p ∈ s.players, p.pid = pid → p.left ≠ some .votedOut

/-- A change of a player that does not mark it as voted out. -/
structure Lenient (p q : Player) : Prop where
  pid : q.pid = p.pid
  left : q.left = some .votedOut → p.left = some .votedOut

namespace Lenient

variable {p q : Player}

omit [RustStd]

/-- A change of something else. -/
theorem of_eq (hpid : q.pid = p.pid) (hleft : q.left = p.left) : Lenient p q :=
  ⟨hpid, fun h => hleft ▸ h⟩

/-- One change after another. -/
theorem trans {r : Player} (h : Lenient p q) (h' : Lenient q r) : Lenient p r :=
  ⟨h'.pid.trans h.pid, fun hleft => h.left (h'.left hleft)⟩

/-- A send marks for its own reasons. -/
theorem deliver (p : Player) (now : Nat) (b : Packet) (via : Via) :
    Lenient p (p.deliver now b via) := by
  refine ⟨(p.kept_deliver now b via).pid, fun h => ?_⟩
  rcases p.deliver_left now b via with hd | hd | ⟨-, hd⟩
  · exact hd ▸ h
  · rw [hd] at h
    cases h
  · rw [hd] at h
    cases h

/-- So does a packet to the player. -/
theorem receive (p : Player) (now : Nat) (b : Packet) : Lenient p (p.receive now b) := by
  unfold Player.receive
  split
  · exact of_eq rfl rfl
  dsimp only
  split
  · exact of_eq rfl rfl
  · exact (of_eq rfl rfl : Lenient p (p.buffer b)).trans (deliver _ now b .personal)

/-- So does one to all. -/
theorem hear (p : Player) (now : Nat) (b : Packet) (seq : Option Nat) :
    Lenient p (p.hear now b seq) := by
  unfold Player.hear
  split
  · exact of_eq rfl rfl
  dsimp only
  split
  · exact of_eq rfl rfl
  split
  · exact of_eq rfl rfl
  split
  · exact of_eq rfl rfl
  · exact (of_eq rfl rfl : Lenient p (p.buffer b)).trans (deliver _ now b _)

/-- A mark for another reason. -/
theorem leave (p : Player) {r : LeftReason} (code : Nat) (h : r ≠ .votedOut) :
    Lenient p (p.leave r code) :=
  ⟨rfl, fun h' => absurd (Option.some.inj h') h⟩

end Lenient

namespace Spared

variable {pid : UInt8} {s t : GameState}

omit [RustStd]

/-- Nothing happens to the players. -/
theorem keep (h : Spared pid s) (hp : t.players = s.players) : Spared pid t :=
  fun p hmem hpid => h p (hp ▸ hmem) hpid

/-- Every player is changed leniently. -/
theorem map (h : Spared pid s) {f : Player → Player} (hf : ∀ p, Lenient p (f p))
    (hp : t.players = s.players.map f) : Spared pid t := by
  intro p hmem hpid hleft
  rw [hp] at hmem
  obtain ⟨q, hq, rfl⟩ := List.mem_map.1 hmem
  exact h q hq ((hf q).pid ▸ hpid) ((hf q).left hleft)

/-- One player is changed leniently. -/
theorem modify (h : Spared pid s) {id : UInt8} {f : Player → Player} (hf : ∀ p, Lenient p (f p))
    (hp : t.players = s.players.modifyPid id f) : Spared pid t := by
  intro p hmem hpid hleft
  rw [hp] at hmem
  rcases Lib.mem_updateFirst hmem with hmem | ⟨q, hq, -, -, rfl⟩
  · exact h p hmem hpid hleft
  · exact h q hq ((hf q).pid ▸ hpid) ((hf q).left hleft)

/-- A player who is here sits down. -/
theorem append (h : Spared pid s) {q : Player} (hq : q.left = none)
    (hp : t.players = s.players ++ [q]) : Spared pid t := by
  intro p hmem hpid hleft
  rw [hp] at hmem
  rcases List.mem_append.1 hmem with hmem | hmem
  · exact h p hmem hpid hleft
  · rw [List.mem_singleton.1 hmem, hq] at hleft
    cases hleft

/-- A player is removed. -/
theorem remove (h : Spared pid s) {id : UInt8} (hp : t.players = s.players.removePid id) :
    Spared pid t := by
  intro p hmem hpid
  rw [hp] at hmem
  exact h p (List.mem_of_mem_eraseP hmem) hpid

/-- The phase does not count. -/
theorem setPhase (h : Spared pid s) (phase : GamePhase) : Spared pid (s.setPhase phase) := h

/-- Nor does the end of the actor. -/
theorem finish (h : Spared pid s) : Spared pid s.finish := h

/-- Nor does the replay. -/
theorem record (h : Spared pid s) (f : ReplayBody → ReplayBody) : Spared pid (s.record f) := h

/-- A packet to one player. -/
theorem sendTo (h : Spared pid s) (id : UInt8) (b : Packet) : Spared pid (s.sendTo id b) :=
  h.modify (fun p => Lenient.receive p s.now b) rfl

/-- The same, of one that may have been too long. -/
theorem sendTo? (h : Spared pid s) (id : UInt8) (b : Option Packet) :
    Spared pid (s.sendTo? id b) := by
  cases b with
  | none => exact h
  | some b => exact h.sendTo id b

/-- A packet to all. -/
theorem broadcast (h : Spared pid s) (b : Packet) : Spared pid (s.broadcast b) := by
  unfold GameState.broadcast
  split
  · exact h.map (fun p => Lenient.hear p s.now b _) rfl
  · exact h.map (fun p => Lenient.hear p s.now b _) rfl

/-- The same, of one that may have been too long. -/
theorem broadcast? (h : Spared pid s) (b : Option Packet) : Spared pid (s.broadcast? b) := by
  cases b with
  | none => exact h
  | some b => exact h.broadcast b

/-- A text that is cut. -/
theorem clip (h : Spared pid s) (n : Nat) (m : Text) : Spared pid (s.clip n m).1 := by
  unfold GameState.clip
  split
  · exact h
  · exact h

/-- A line to one player. -/
theorem sendChatTo (h : Spared pid s) (id : UInt8) (m : Text) : Spared pid (s.sendChatTo id m) := by
  unfold GameState.sendChatTo
  dsimp only
  split
  · exact h
  split
  · exact (h.clip _ _).sendTo? _ _
  · exact (h.clip _ _).sendTo? _ _

/-- A line to all. -/
theorem sendChatAll (h : Spared pid s) (m : Text) : Spared pid (s.sendChatAll m) := by
  unfold GameState.sendChatAll
  dsimp only
  split
  · exact h
  split
  · exact h
  have hpush : Spared pid (s.relayPush (.chat s.cfg.virtualHostName m)) := h
  split
  · exact (hpush.clip _ _).broadcast? _
  · exact ((hpush.clip 127 m).record _).broadcast? _

/-- A line to one player, after a change that is not about players. -/
theorem reportTo (h : Spared pid s) (hp : t.players = s.players) (id : UInt8) (m : Text) :
    Spared pid (t.sendChatTo id m) := (h.keep hp).sendChatTo id m

/-- A line to everyone, after a change that is not about players. -/
theorem reportAll (h : Spared pid s) (hp : t.players = s.players) (m : Text) :
    Spared pid (t.sendChatAll m) := (h.keep hp).sendChatAll m

/-- Something is noted about a player. -/
theorem note (h : Spared pid s) {id : UInt8} {f : Player → Player} (hf : ∀ p, Lenient p (f p)) :
    Spared pid { s with players := s.players.modifyPid id f } := h.modify hf rfl

/-- The slot table, to all. -/
theorem sendAllSlotInfo (h : Spared pid s) : Spared pid s.sendAllSlotInfo := h.broadcast? _

/-- A change of it. -/
theorem editSlots (h : Spared pid s) (r : SlotTable × Bool) : Spared pid (s.editSlots r) := by
  have hset : Spared pid (s.setSlots r.1) := h
  unfold GameState.editSlots
  split
  · exact hset.sendAllSlotInfo
  · exact hset

/-- A kick for another reason. -/
theorem kickPlayer (h : Spared pid s) (id : UInt8) {r : LeftReason} (code : Nat)
    (hr : r ≠ .votedOut) : Spared pid (s.kickPlayer id r code) :=
  h.modify (fun p => Lenient.leave p code hr) rfl

/-- The countdown begins. -/
theorem startCountdown (h : Spared pid s) : Spared pid s.startCountdown := by
  unfold GameState.startCountdown
  split
  · exact h
  · exact h

/-- It is called off. -/
theorem abortCountdown (h : Spared pid s) : Spared pid s.abortCountdown := by
  unfold GameState.abortCountdown
  split
  · exact Spared.sendChatAll (s := s.setPhase .lobby) h _
  · exact h

/-- A loop whose body spares the player spares it. -/
theorem foldl {α : Type} {f : GameState → α → GameState}
    (hf : ∀ s a, Spared pid s → Spared pid (f s a)) (l : List α) (h : Spared pid s) :
    Spared pid (l.foldl f s) := by
  induction l generalizing s with
  | nil => exact h
  | cons a l ih => exact ih (hf s a h)

/-- Those that lag are dropped, which is no vote. -/
theorem handleDropRequest (h : Spared pid s) : Spared pid s.handleDropRequest := by
  unfold GameState.handleDropRequest
  split
  · exact h
  · exact Spared.foldl (fun s id hs => hs.kickPlayer id _ (by decide)) _ h

/-- A fake player comes or goes. -/
theorem toggleFakePlayer (h : Spared pid s) (link : PlayerLink) :
    Spared pid (s.toggleFakePlayer link).1 := by
  unfold GameState.toggleFakePlayer
  split
  · exact h
  split
  · rename_i fpid _
    dsimp only
    refine Spared.sendAllSlotInfo (Spared.broadcast ?_ _)
    exact h.remove rfl
  split
  · dsimp only
    refine Spared.sendAllSlotInfo (Spared.broadcast? ?_ _)
    exact h.append rfl rfl
  · exact h

end Spared

section Commands

variable {pid : UInt8} {s : GameState}

/-- Who may speak. -/
theorem Spared.setMuted (h : Spared pid s) (name : Text) (on : Bool) (done : Text) :
    Spared pid (s.setMuted name on done) := by
  unfold GameState.setMuted
  split
  · rename_i t _
    refine Spared.sendChatAll ?_ _
    exact h.note fun p => .of_eq rfl rfl
  · exact h

omit [RustStd] in
/-- The line that is repeated. -/
theorem Spared.announce (h : Spared pid s) (id : UInt8) (m : Text) :
    Spared pid (s.announce id m) := by
  unfold GameState.announce
  split
  · exact h.reportTo (by rfl) _ _
  dsimp only
  split
  · exact h.reportTo (by rfl) _ _
  split
  · exact h.reportAll (by rfl) _
  · exact h.reportAll (by rfl) _

omit [RustStd] in
/-- The game is hosted again. -/
theorem Spared.rehost (h : Spared pid s) (kind name : Text) : Spared pid (s.rehost kind name) := by
  unfold GameState.rehost
  split
  · dsimp only
    unfold GameState.emitLobbyStatus
    split
    · exact (h.reportAll (by rfl) _).keep rfl
    · exact h.reportAll (by rfl) _
  · exact h

/-- A player is let to the map. -/
theorem Spared.allowDownload (h : Spared pid s) (id : UInt8) (name : Text) :
    Spared pid (s.allowDownload id name) := by
  unfold GameState.allowDownload
  split
  · rename_i tpid _
    dsimp only
    refine Spared.sendTo ?_ _ _
    split
    · refine Spared.sendChatTo ?_ _ _
      exact h.note fun p => .of_eq rfl rfl
    · exact h
  · exact h.sendChatTo _ _

omit [RustStd] in
/-- An action of the fake player. -/
theorem Spared.fakeAction (h : Spared pid s) (id code : UInt8) (done : Text) :
    Spared pid (s.fakeAction id code done) := by
  unfold GameState.fakeAction
  split
  · split
    · exact h.reportTo (by rfl) _ _
    · exact h
  · exact h

omit [RustStd] in
/-- A question for statistics. -/
theorem Spared.showStats (h : Spared pid s) (id : UInt8) (caller name : Text) :
    Spared pid (s.showStats id caller name) := by
  unfold GameState.showStats
  split
  · exact h
  · refine Spared.sendChatTo ?_ _ _
    exact h.note fun p => .of_eq rfl rfl

/-- A question for those of DotA. -/
theorem Spared.showStatsDotA (h : Spared pid s) (id : UInt8) (caller name : Text) :
    Spared pid (s.showStatsDotA id caller name) := by
  unfold GameState.showStatsDotA
  split
  · exact h
  · refine Spared.sendChatTo ?_ _ _
    exact h.note fun p => .of_eq rfl rfl

omit [RustStd] in
/-- A vote for the start. -/
theorem Spared.voteStart (h : Spared pid s) (id : UInt8) : Spared pid (s.voteStart id) := by
  unfold GameState.voteStart
  split
  · exact h
  dsimp only
  split
  · exact (h.reportAll (by rfl) _).startCountdown
  · exact h.reportAll (by rfl) _

/-- A vote to kick begins; nobody has been voted out yet. -/
theorem Spared.voteKick (h : Spared pid s) (id : UInt8) (name : Text) :
    Spared pid (s.voteKick id name) := by
  unfold GameState.voteKick
  split
  · exact h.sendChatTo _ _
  split
  · exact h.reportAll (by rfl) _
  · exact h.sendChatTo _ _

omit [RustStd] in
/-- A vote for a draw. -/
theorem Spared.voteDraw (h : Spared pid s) (id : UInt8) : Spared pid (s.voteDraw id) := by
  unfold GameState.voteDraw
  split
  · exact h
  dsimp only
  split
  · refine Spared.finish (Spared.sendChatAll ?_ _)
    exact h.reportAll (by rfl) _
  · exact h.reportAll (by rfl) _

/-- A kick by name. -/
theorem Spared.kickByName (h : Spared pid s) (id : UInt8) (name : Text) :
    Spared pid (s.kickByName id name) := by
  unfold GameState.kickByName
  split
  · exact h.kickPlayer _ _ nofun
  · exact h.sendChatTo _ _
  · exact h.sendChatTo _ _

/-- A ban by name. -/
theorem Spared.banByName (h : Spared pid s) (caller name reason : Text) :
    Spared pid (s.banByName caller name reason) := by
  unfold GameState.banByName
  dsimp only
  have hsaid : Spared pid ((s.storePush (.ban name [] caller reason)).sendChatAll
      (txt "Banned [" ++ name ++ txt "]: " ++ reason ++ txt ".")) := h.reportAll (by rfl) _
  split
  · exact hsaid.kickPlayer _ _ nofun
  · exact hsaid

/-- A line between two players. -/
theorem Spared.whisper (h : Spared pid s) (id : UInt8) (caller user message : Text) :
    Spared pid (s.whisper id caller user message) := by
  unfold GameState.whisper
  split
  · exact (h.sendChatTo _ _).sendChatTo _ _
  · exact h.sendChatTo _ _

/-- No command but a counted vote marks anyone as voted out. -/
theorem Spared.runCommand (h : Spared pid s) (env : Env) (id : UInt8) (caller : Text)
    (cmd : ChatCommand) (hcmd : cmd ≠ .yes) : Spared pid (s.runCommand env id caller cmd) := by
  cases cmd with
  | start force =>
      dsimp only [GameState.runCommand]
      generalize (if force = true then none else s.startRefusal) = refusal
      split
      · exact h.sendChatTo _ _
      · exact h.startCountdown
  | abort => exact h.abortCountdown
  | openSlot sid => exact h.editSlots _
  | close sid => exact h.editSlots _
  | openAll => exact (h.editSlots _).sendChatAll _
  | closeAll => exact (h.editSlots _).sendChatAll _
  | swap a b => exact h.editSlots _
  | hold name slot =>
      cases slot with
      | none => exact h.sendChatAll _
      | some sid => exact h.reportAll (by rfl) _
  | clearHold => exact h.reportAll (by rfl) _
  | kick name => exact h.kickByName id name
  | ban name reason => exact h.banByName caller name reason
  | unban name => exact h.reportTo (by rfl) _ _
  | checkBan name => exact h.sendChatTo _ _
  | banLast reason =>
      dsimp only [GameState.runCommand]
      split
      · exact h.reportAll (by rfl) _
      · exact h.sendChatTo _ _
  | checkAdmin name => exact h.sendChatTo _ _
  | addAdmin name => exact h.reportTo (by rfl) _ _
  | delAdmin name => exact h.reportTo (by rfl) _ _
  | ping => exact h.sendChatTo _ _
  | mute name => exact h.setMuted name _ _
  | unmute name => exact h.setMuted name _ _
  | muteAll => exact h.reportAll (by rfl) _
  | unmuteAll => exact h.reportAll (by rfl) _
  | voteStart => exact h.voteStart id
  | voteCancel => exact h.reportAll (by rfl) _
  | voteKick name => exact h.voteKick id name
  -- no line a player can write parses to this command
  | yes => exact absurd rfl hcmd
  | syncLimit limit =>
      cases limit with
      | none => exact h.sendChatTo _ _
      | some n => exact h.reportTo (by rfl) _ _
  | latency ms =>
      cases ms with
      | none => exact h.sendChatTo _ _
      | some n => exact h.reportTo (by rfl) _ _
  | shufflePlayers =>
      dsimp only [GameState.runCommand]
      split
      · exact (h.editSlots _).sendChatAll _
      · exact h
  | version => exact h.sendChatTo _ _
  | say message => exact h.sendChatAll _
  | whisper user message => exact h.whisper id caller user message
  | stats name => exact h.showStats id caller name
  | statsDotA name => exact h.showStatsDotA id caller name
  | drop => exact h.handleDropRequest
  | draw => exact h.voteDraw id
  | hcl mode => exact h.reportAll (by rfl) _
  | clearHcl => exact h.reportAll (by rfl) _
  | owner name =>
      cases name with
      | none => exact h.sendChatTo _ _
      | some o => exact h.reportAll (by rfl) _
  | unhost =>
      dsimp only [GameState.runCommand]
      split
      · exact h.keep rfl
      · exact h
  | endGame => exact Spared.finish (Spared.setPhase (h.sendChatAll _) _)
  | lock => exact h.sendChatAll _
  | unlock => exact h.sendChatAll _
  | check name =>
      dsimp only [GameState.runCommand]
      split
      · exact h.sendChatTo _ _
      · exact h.sendChatTo _ _
  | checkMe =>
      dsimp only [GameState.runCommand]
      split
      · exact h.sendChatTo _ _
      · exact h
  | announce message => exact h.announce id message
  | autoStart players => exact h.reportAll (by rfl) _
  | refresh => exact h.sendAllSlotInfo.sendChatTo _ _
  | virtualHost name => exact h.reportAll (by rfl) _
  | comp slot team colour race computerType handicap => exact h.editSlots _
  | compColour slot colour => exact h.editSlots _
  | compRace slot race => exact h.editSlots _
  | compHandicap slot handicap => exact h.editSlots _
  | compTeam slot team => exact h.editSlots _
  | download name => exact h.allowDownload id name
  | dbStatus => exact h.sendChatTo _ _
  | fakePlayer =>
      -- the fake player comes and goes unmarked
      have htoggle := h.toggleFakePlayer env.fakeLink
      dsimp only [GameState.runCommand]
      split
      · rename_i heq
        rw [heq] at htoggle
        exact htoggle.sendChatTo _ _
      · rename_i heq
        rw [heq] at htoggle
        exact htoggle
  | fpPause => exact h.fakeAction id _ _
  | fpResume => exact h.fakeAction id _ _
  | fromWhere => exact Spared.foldl (fun s m hs => hs.sendChatTo id m) _ h
  | messages on =>
      cases on with
      | none => exact h.sendChatTo _ _
      | some on => exact h.reportTo (by rfl) _ _
  | sendLan ip port => exact h.sendChatTo _ _
  | pub name => exact h.rehost _ name
  | priv name => exact h.rehost _ name
  | muteLobby on => exact h.reportAll (by rfl) _
  | unknown verb => exact h.sendChatTo _ _

omit [RustStd] in
/-- A line that is passed on. -/
theorem Spared.relayChat (h : Spared pid s) (id : UInt8) (chat : ChatToHost) :
    Spared pid (s.relayChat id chat) := by
  unfold GameState.relayChat
  dsimp only
  split
  · split
    · exact Spared.foldl (fun s to' hs => hs.sendTo to' _) _ h
    · exact h.broadcast _
  · exact h

/-- A line of a player, be it a command: votes to kick are counted by none.
-/
theorem Spared.handleChatLine (h : Spared pid s) (env : Env) (p : Player) (chat : ChatToHost) :
    Spared pid (s.handleChatLine env p chat) := by
  unfold GameState.handleChatLine
  split
  · rename_i cmd hcmd
    split
    · exact h.sendChatTo _ _
    · exact h.runCommand env _ _ cmd fun hyes => parseCommand_ne_yes _ (hyes ▸ hcmd)
  · split
    · exact h
    dsimp only
    have hrecord : Spared pid (s.recordChat p.pid p.name chat) := by
      unfold GameState.recordChat
      split
      · exact h
      · exact h
    split
    · exact hrecord
    · exact hrecord.relayChat _ _

/-- No chat frame marks anyone as voted out. -/
theorem Spared.handleChatToHost (h : Spared pid s) (env : Env) (connId : Nat)
    (payload : List UInt8) : Spared pid (s.handleChatToHost env connId payload) := by
  unfold GameState.handleChatToHost
  split
  · exact h
  rename_i p _
  split
  · exact h
  rename_i chat _
  split
  · exact h
  dsimp only
  have hhint : Spared pid (if chat.message = txt "?trigger" then
      s.sendChatTo p.pid (txt "Command trigger: !") else s) := by
    split
    · exact h.sendChatTo _ _
    · exact h
  generalize (if chat.message = txt "?trigger" then
    s.sendChatTo p.pid (txt "Command trigger: !") else s) = t at hhint ⊢
  split
  · split
    · exact hhint.editSlots _
    · exact hhint
  · exact hhint.handleChatLine env p chat

end Commands

-- ================================================================= the vote

/-- A chat frame on its way to the game. -/
structure Spoken where
  env : Env
  connId : Nat
  payload : List UInt8

/-- The commands after which there is no vote, or another. -/
def ChatCommand.endsVote : ChatCommand → Bool
  | voteCancel | voteKick _ => true
  | _ => false

namespace GameState

/-- The game takes the frame. -/
def hearLine (s : GameState) (m : Spoken) : GameState := s.handleChatToHost m.env m.connId m.payload

/-- The game takes one frame after the other. -/
def hearLines (s : GameState) (lines : List Spoken) : GameState := lines.foldl hearLine s

/-- Who says what in a frame: a seated client, under its own id, and no
slot request. -/
def utterance (s : GameState) (m : Spoken) : Option (UInt8 × Text) :=
  match s.players.byConn m.connId, ChatToHost.decode m.payload with
  | some p, .ok chat =>
      if chat.fromPid = p.pid ∧ ¬(0x11 ≤ chat.flag ∧ chat.flag ≤ 0x14) then
        some (p.pid, chat.message)
      else none
  | _, _ => none

/-- The votes cast after some lines: those cast before, and those of
the players who said `!yes`, each once. -/
def voters (votes : List UInt8) : GameState → List Spoken → List UInt8
  | _, [] => votes
  | s, m :: lines =>
      voters (match s.utterance m with
        | some (pid, text) => if text = txt "!yes" then votes.insert pid else votes
        | none => votes) (s.hearLine m) lines

/-- At some point of the lines the votes suffice. -/
def Suffices (s : GameState) (starter : UInt8) (lines : List Spoken) : Prop :=
  ∃ said ∈ lines.inits, (s.hearLines said).votekickNeeded ≤ (s.voters [starter] said).length

/-- The player is in the table and marked left. -/
def MarkedLeft (s : GameState) (pid : UInt8) : Prop :=
  ∃ p ∈ s.players, p.pid = pid ∧ p.left.isSome

/-- At every point of the lines the target is marked left if the votes
have sufficed by then, and only then. -/
def KicksOnTime (s : GameState) (starter target : UInt8) (lines : List Spoken) : Prop :=
  ∀ said ∈ lines.inits, (s.hearLines said).MarkedLeft target ↔ s.Suffices starter said

end GameState

/-- A votekick from its first line on: votekicks are allowed, the
starter says a text that is `!votekick name`, the name is a seated
player's, nobody says a text that ends the vote or starts another, and
the target does not leave for another reason. -/
structure VoteRuns (s : GameState) (start : Spoken) (lines : List Spoken) (starter target : UInt8)
    (name : Text) : Prop where
  allowed : s.cfg.votekickAllowed = true
  starts : (s.utterance start).map (fun x => (x.1, parseCommand x.2))
    = some (starter, some (.voteKick name))
  found : (s.players.byNamePartial name).ok.map Player.pid = some target
  seated : ∀ p ∈ s.players, p.pid = target → p.left = none
  goesOn : ∀ i : Fin lines.length, ∀ said ∈ ((s.hearLine start).hearLines
    (lines.take i)).utterance lines[i], ∀ cmd ∈ parseCommand said.2, cmd.endsVote = false
  stays : ∀ said ∈ lines.inits, ∀ p ∈ ((s.hearLine start).hearLines said).players,
    p.pid = target → p.left = none ∨ p.left = some .votedOut

/-- Lines of the players, one after another. -/
theorem Spared.hearLines {pid : UInt8} {s : GameState} (h : Spared pid s) (lines : List Spoken) :
    Spared pid (s.hearLines lines) :=
  Spared.foldl (fun _ m hs => hs.handleChatToHost m.env m.connId m.payload) lines h

/-- Whatever is said, the target of a vote is not marked left. -/
theorem VoteRuns.not_markedLeft {s : GameState} {start : Spoken} {lines : List Spoken}
    {starter target : UInt8} {name : Text} (h : VoteRuns s start lines starter target name)
    {said : List Spoken} (hsaid : said ∈ lines.inits) :
    ¬((s.hearLine start).hearLines said).MarkedLeft target := by
  rintro ⟨p, hp, hpid, hleft⟩
  have hspared : Spared target s := by
    intro q hq hqpid hqleft
    rw [h.seated q hq hqpid] at hqleft
    cases hqleft
  have hend := (hspared.handleChatToHost start.env start.connId start.payload).hearLines said
  rcases h.stays said hsaid p hp hpid with hnone | hvoted
  · rw [hnone] at hleft
    cases hleft
  · exact hend p hp hpid hvoted

/-- A votekick does what it promises if and only if its votes never
suffice. -/
theorem votekick_works_iff {s : GameState} {start : Spoken} {lines : List Spoken}
    {starter target : UInt8} {name : Text} (h : VoteRuns s start lines starter target name) :
    (s.hearLine start).KicksOnTime starter target lines
      ↔ ¬(s.hearLine start).Suffices starter lines := by
  constructor
  · intro hkick hvotes
    have hlast : lines ∈ lines.inits := (List.mem_inits lines lines).2 (List.prefix_refl lines)
    exact h.not_markedLeft hlast ((hkick lines hlast).2 hvotes)
  · intro hno said hsaid
    refine iff_of_false (h.not_markedLeft hsaid) ?_
    rintro ⟨earlier, hearlier, hvotes⟩
    have hle := ((List.mem_inits _ _).1 hearlier).trans ((List.mem_inits _ _).1 hsaid)
    exact hno ⟨earlier, (List.mem_inits _ _).2 hle, hvotes⟩

end Votes

section Runs

open Scenario

instance (s : GameState) (starter : UInt8) (lines : List Spoken) :
    Decidable (s.Suffices starter lines) :=
  inferInstanceAs (Decidable (∃ said ∈ lines.inits,
    (s.hearLines said).votekickNeeded ≤ (s.voters [starter] said).length))

/-- Three players in the lobby of a game in which 60 per cent kick. -/
def votingLobby : GameState :=
  (GameState.new { config with votekickPercentage := 60 } 0 5).run
    [connect 1 PlayerLink.drained, join 1 (txt "ann"), connect 2 PlayerLink.drained,
      join 2 (txt "bob"), connect 3 PlayerLink.drained, join 3 (txt "cat")]

/-- A player says a line in the lobby. -/
def lobbyLine (connId : Nat) (pid : UInt8) (line : Text) : Spoken :=
  ⟨env 7, connId, [0, pid, 0x10] ++ line ++ [0]⟩

/-- bob starts a vote against cat. -/
def voteOnCat : Spoken := lobbyLine 2 2 (txt "!votekick cat")

/-- ann, who owns the game, does not vote: she asks for the version. -/
def asksVersion : Spoken := lobbyLine 1 1 (txt "!version")

/-- One vote of the two that are needed: the target stays. -/
theorem votekick_works_iff_oneVote :
    (votingLobby.hearLine voteOnCat).KicksOnTime 2 3 [asksVersion]
      ∧ ¬(votingLobby.hearLine voteOnCat).Suffices 2 [asksVersion] := by
  have hvote : VoteRuns votingLobby voteOnCat [asksVersion] 2 3 (txt "cat") := {
    allowed := by decide +kernel
    starts := by decide +kernel
    found := by decide +kernel
    seated := by decide +kernel
    goesOn := by decide +kernel
    stays := by decide +kernel }
  have hfew : ¬(votingLobby.hearLine voteOnCat).Suffices 2 [asksVersion] := by decide +kernel
  exact ⟨(votekick_works_iff hvote).2 hfew, hfew⟩

/-- ann votes. -/
def saysYes : Spoken := lobbyLine 1 1 (txt "!yes")

/-- bob starts a vote against cat and ann says `!yes`: that is the
second vote of the two that are needed, and cat stays. The text is an
unknown command, although the game asks for it by name. -/
theorem yes_is_no_command :
    VoteRuns votingLobby voteOnCat [saysYes] 2 3 (txt "cat")
      ∧ (votingLobby.hearLine voteOnCat).votekickNeeded = 2
      ∧ (votingLobby.hearLine voteOnCat).Suffices 2 [saysYes]
      ∧ parseCommand (txt "!yes") = some (.unknown (txt "yes"))
      ∧ ¬(votingLobby.hearLine voteOnCat).KicksOnTime 2 3 [saysYes] := by
  have hvote : VoteRuns votingLobby voteOnCat [saysYes] 2 3 (txt "cat") := {
    allowed := by decide +kernel
    starts := by decide +kernel
    found := by decide +kernel
    seated := by decide +kernel
    goesOn := by decide +kernel
    stays := by decide +kernel }
  have hvotes : (votingLobby.hearLine voteOnCat).Suffices 2 [saysYes] := by decide +kernel
  have hlast : [saysYes] ∈ [saysYes].inits := (List.mem_inits _ _).2 (List.prefix_refl _)
  refine ⟨hvote, by decide +kernel, hvotes, by decide +kernel, fun hkick => ?_⟩
  exact hvote.not_markedLeft hlast ((hkick _ hlast).2 hvotes)

end Runs

end Spectre

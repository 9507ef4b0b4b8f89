/-
The paths of the chat commands (`Chat`).

What a command can do beyond the plain steps: change the slot table or
the sync limit, and in the lobby toggle the fake player.
-/
import Spectre.SeatEffects

namespace Spectre

open GameState

/-- The commands that change the slot table in any phase. -/
def ChatCommand.editsSlots : ChatCommand → Bool
  | openSlot _ | close _ | openAll | closeAll | swap .. | comp .. | compColour .. | compRace ..
  | compHandicap .. | compTeam .. => true
  | _ => false

/-- The commands that put the lobby up again under another name. -/
def ChatCommand.rehosts : ChatCommand → Bool
  | pub name | priv name => name ≠ []
  | _ => false

/-- The slot a command opens or closes, whoever sits there. -/
def ChatCommand.vacates : ChatCommand → Option UInt8
  | openSlot sid | close sid => some sid
  | _ => none

variable [RustStd] {K : Kind → GameState → Prop}

/-- A player found by name is at the table. -/
theorem mem_of_byNamePartial {t : PlayerTable} {name : Text} {p : Player}
    (h : (t.byNamePartial name).ok = some p) : p ∈ t := by
  unfold PlayerTable.byNamePartial at h
  split at h
  · rename_i q hq
    rw [← Option.some.inj h]
    exact List.mem_of_find?_eq_some hq
  · dsimp only at h
    split at h
    · cases h
    · rename_i q hq
      rw [← Option.some.inj h]
      exact List.mem_of_mem_filter (hq ▸ List.mem_cons_self)
    · cases h

section Commands

variable (hK : Plain K) (s : GameState)
include hK

omit hK in
/-- The countdown begins, if it may. -/
theorem does_startCountdown (hphase : ∀ t, K .phase t) : Does K s s.startCountdown := by
  unfold startCountdown
  split
  · rename_i hph
    have hstep : PhaseStep s.phase (.countdown s.now countdownTotal (countdownSteps + 1)) := by
      rw [hph]
      trivial
    exact Does.one (hphase s) (.phase _ hstep (by simp))
  · exact Does.refl s

/-- A command that leaves everybody seated: the table changes, and it goes
to all. -/
theorem does_editSlots (hslots : K .slots s) {r : SlotTable × Bool} (hr : SameSeats s.slots r.1) :
    Does K s (s.editSlots r) := by
  unfold editSlots
  split
  · exact (Does.one hslots (.slots _ hr)).trans (does_sendAllSlotInfo hK _)
  · exact Does.one hslots (.slots _ hr)

/-- A slot is opened or closed, whoever sits in it. -/
theorem does_vacate {sid : UInt8} (hvacate : K (.vacate sid) s) (status : UInt8)
    (hstatus : status ≠ slotOccupied) :
    Does K s (s.editSlots
      (s.slots.modify sid fun a => { a with slotStatus := status, pid := 0 })) := by
  unfold editSlots
  split
  · exact (Does.one hvacate (.vacate sid status hstatus)).trans (does_sendAllSlotInfo hK _)
  · exact Does.one hvacate (.vacate sid status hstatus)

/-- Votes change; those who vote and whom they vote about are there. -/
theorem does_votes (target : Option UInt8) (votes starts draws : List UInt8)
    (h : ∀ pid ∈ target.toList ++ votes ++ starts ++ draws, pid ∈ s.referred
      ∨ ∃ p ∈ s.players, p.pid = pid) :
    Does K s { s with
      votekickTarget := target, votekickVotes := votes, startVotes := starts
      drawVotes := draws } := by
  refine Does.one (hK .refer rfl s)
    (.refer target votes starts draws s.downloads fun pid hpid => ?_)
  rcases List.mem_append.1 hpid with hpid | hpid
  · exact h pid hpid
  · exact .inl (List.mem_append_right _ hpid)

/-- Nobody of the name: the caller is told. -/
theorem does_noMatch (pid : UInt8) (name : Text) : Does K s (s.noMatch pid name) :=
  does_sendChatTo hK s pid _

/-- A player is muted or may speak again. -/
theorem does_setMuted (name : Text) (on : Bool) (done : Text) :
    Does K s (s.setMuted name on done) := by
  unfold setMuted
  split
  · exact (does_note_pid hK s _ fun p => by constructor <;> rfl).trans (does_sendChatAll hK _ _)
  · exact Does.refl s

/-- The line that a lobby repeats is set. -/
theorem does_announce (pid : UInt8) (msg : Text) : Does K s (s.announce pid msg) := by
  unfold announce
  split
  · exact Does.trans (Does.misc hK (by constructor <;> rfl) (by rfl)) (does_sendChatTo hK _ pid _)
  split
  · exact Does.trans (Does.misc hK (by constructor <;> rfl) (by rfl)) (does_sendChatTo hK _ pid _)
  split
  · exact Does.trans (Does.misc hK (by constructor <;> rfl) (by rfl)) (does_sendChatAll hK _ _)
  · exact Does.trans (Does.misc hK (by constructor <;> rfl) (by rfl)) (does_sendChatAll hK _ _)

/-- The web interface is told how the lobby stands. -/
theorem does_emitLobbyStatus : Does K s s.emitLobbyStatus := by
  unfold emitLobbyStatus
  split
  · exact Does.one (hK .status rfl s) (.misc (by constructor <;> rfl)
      (.status ⟨s.cfg.hostCounter, _, _, _⟩ rfl rfl))
  · exact Does.refl s

/-- The game is hosted again under another name, in the lobby only. -/
theorem does_rehost (kind name : Text) (hrehost : s.phase = .lobby → name ≠ [] → K .rehost s) :
    Does K s (s.rehost kind name) := by
  unfold rehost
  split
  · rename_i h
    refine Does.trans ?_ (does_emitLobbyStatus hK _)
    refine Does.trans ?_ (does_sendChatAll hK _ _)
    exact Does.one (hrehost h.1 h.2) (.misc (by constructor <;> rfl) (.rehost h.1 rfl))
  · exact Does.refl s

/-- A player is let to the map. -/
theorem does_allowDownload (pid : UInt8) (name : Text) : Does K s (s.allowDownload pid name) := by
  unfold allowDownload
  split
  · rename_i tpid _
    dsimp only
    refine Does.trans ?_ (does_sendTo hK _ tpid rfl)
    split
    · exact (does_note_pid hK s tpid fun p => by constructor <;> rfl).trans
        (does_sendChatTo hK _ pid _)
    · exact Does.refl s
  · exact does_noMatch hK s pid name

/-- An action in the name of the fake player. -/
theorem does_fakeAction (pid code : UInt8) (done : Text) :
    Does K s (s.fakeAction pid code done) := by
  unfold fakeAction
  split
  · split
    · exact Does.trans (Does.one (hK .act rfl s) (.act _ (by simp))) (does_sendChatTo hK _ pid _)
    · exact Does.refl s
  · exact Does.refl s

/-- The store is not asked; the caller is told that it is. -/
theorem does_showStats (pid : UInt8) (caller name : Text) :
    Does K s (s.showStats pid caller name) := by
  unfold showStats
  split
  · exact Does.refl s
  · exact (does_note_pid hK s pid fun p => by constructor <;> rfl).trans
      (does_sendChatTo hK _ pid _)

/-- What the game has counted of a player is told to the caller. -/
theorem does_showStatsDotA (pid : UInt8) (caller name : Text) :
    Does K s (s.showStatsDotA pid caller name) := by
  unfold showStatsDotA
  split
  · exact Does.refl s
  · exact (does_note_pid hK s pid fun p => by constructor <;> rfl).trans
      (does_sendChatTo hK _ pid _)

/-- A vote for the start, which may be the last that is wanted. -/
theorem does_voteStart (hphase : ∀ t, K .phase t) {pid : UInt8}
    (hpid : ∃ p ∈ s.players, p.pid = pid) : Does K s (s.voteStart pid) := by
  have hvote : Does K s { s with startVotes := s.startVotes ++ [pid] } := by
    refine does_votes hK s s.votekickTarget s.votekickVotes (s.startVotes ++ [pid]) s.drawVotes
      fun q hq => ?_
    simp only [List.mem_append, List.mem_singleton, referred] at hq ⊢
    rcases hq with (hq | hq | rfl) | hq
    · exact .inl (.inl (.inl (.inl hq)))
    · exact .inl (.inl (.inl (.inr hq)))
    · exact .inr hpid
    · exact .inl (.inl (.inr hq))
  unfold voteStart
  split
  · exact Does.refl s
  dsimp only
  split
  · exact (hvote.trans (does_sendChatAll hK _ _)).trans (does_startCountdown _ hphase)
  · exact hvote.trans (does_sendChatAll hK _ _)

/-- A vote to kick begins with the vote of the player that calls it. -/
theorem does_voteKick {pid : UInt8} (hpid : ∃ p ∈ s.players, p.pid = pid) (name : Text) :
    Does K s (s.voteKick pid name) := by
  unfold voteKick
  split
  · exact does_sendChatTo hK s pid _
  split
  · rename_i t ht
    refine Does.trans (does_votes hK s (some t.pid) [pid] s.startVotes s.drawVotes fun q hq => ?_)
      (does_sendChatAll hK _ _)
    simp only [List.mem_append, Option.toList_some, List.mem_singleton, referred] at hq ⊢
    rcases hq with ((rfl | rfl) | hq) | hq
    · exact .inr ⟨t, mem_of_byNamePartial ht, rfl⟩
    · exact .inr hpid
    · exact .inl (.inl (.inl (.inr hq)))
    · exact .inl (.inl (.inr hq))
  · exact does_noMatch hK s pid name

/-- A vote to kick is over. -/
theorem does_endVotekick : Does K s s.endVotekick := by
  refine does_votes hK s none [] s.startVotes s.drawVotes fun q hq => .inl ?_
  simp only [List.mem_append, Option.toList_none, List.not_mem_nil, referred, false_or] at hq ⊢
  exact .inl (hq.imp .inr id)

/-- All votes are over. -/
theorem does_voteCancel : Does K s { s.endVotekick with startVotes := [] } := by
  refine does_votes hK s none [] [] s.drawVotes fun q hq => .inl ?_
  simp only [List.mem_append, Option.toList_none, List.not_mem_nil, referred, false_or] at hq ⊢
  exact .inl (.inr hq)

/-- The actor ends. -/
theorem does_finish : Does K s s.finish := Does.misc hK (by constructor <;> rfl) (by rfl)

/-- A vote to kick, which may be the last that is wanted. -/
theorem does_voteYes {pid : UInt8} (hpid : ∃ p ∈ s.players, p.pid = pid) :
    Does K s (s.voteYes pid) := by
  have hvote : Does K s { s with votekickVotes := s.votekickVotes ++ [pid] } := by
    refine does_votes hK s s.votekickTarget (s.votekickVotes ++ [pid]) s.startVotes s.drawVotes
      fun q hq => ?_
    simp only [List.mem_append, List.mem_singleton, referred] at hq ⊢
    rcases hq with ((hq | hq | rfl) | hq) | hq
    · exact .inl (.inl (.inl (.inl (.inl hq))))
    · exact .inl (.inl (.inl (.inl (.inr hq))))
    · exact .inr hpid
    · exact .inl (.inl (.inl (.inr hq)))
    · exact .inl (.inl (.inr hq))
  unfold voteYes
  split
  · exact Does.refl s
  split
  · exact Does.refl s
  dsimp only
  split
  · refine Does.trans ?_ (does_endVotekick hK _)
    refine Does.trans ?_ (does_kickPlayer hK _ _ _ _ rfl (by simp)
      (leaveCode_lt _ (by decide)))
    exact hvote.trans (does_sendChatAll hK _ _)
  · exact hvote.trans (does_sendChatAll hK _ _)

/-- A vote for a draw, which may be the last that is wanted. -/
theorem does_voteDraw {pid : UInt8} (hpid : ∃ p ∈ s.players, p.pid = pid) :
    Does K s (s.voteDraw pid) := by
  have hvote : Does K s { s with drawVotes := s.drawVotes ++ [pid] } := by
    refine does_votes hK s s.votekickTarget s.votekickVotes s.startVotes (s.drawVotes ++ [pid])
      fun q hq => ?_
    simp only [List.mem_append, List.mem_singleton, referred] at hq ⊢
    rcases hq with hq | hq | rfl
    · exact .inl (.inl (.inl hq))
    · exact .inl (.inl (.inr hq))
    · exact .inr hpid
  unfold voteDraw
  split
  · exact Does.refl s
  dsimp only
  split
  · refine Does.trans ?_ (does_finish hK _)
    refine Does.trans ?_ (does_sendChatAll hK _ _)
    exact hvote.trans (does_sendChatAll hK _ _)
  · exact hvote.trans (does_sendChatAll hK _ _)

/-- The one player whose name matches is kicked. -/
theorem does_kickByName (pid : UInt8) (name : Text) : Does K s (s.kickByName pid name) := by
  unfold kickByName
  split
  · exact does_kickPlayer hK s _ _ _ rfl (by simp) (leaveCode_lt s (by decide))
  · exact does_noMatch hK s pid name
  · exact does_sendChatTo hK s pid _

/-- The same, and the name goes to the store. -/
theorem does_banByName (caller name reason : Text) :
    Does K s (s.banByName caller name reason) := by
  unfold banByName
  dsimp only
  have hchat := (does_storePush hK s (.ban name [] caller reason)).trans (does_sendChatAll hK _
    (txt "Banned [" ++ name ++ txt "]: " ++ reason ++ txt "."))
  split
  · exact hchat.trans (does_kickPlayer hK _ _ _ _ rfl (by simp)
      (leaveCode_lt _ (by decide)))
  · exact hchat

/-- A line from one player to another, through the host. -/
theorem does_whisper (pid : UInt8) (caller user message : Text) :
    Does K s (s.whisper pid caller user message) := by
  unfold whisper
  split
  · exact (does_sendChatTo hK s _ _).trans (does_sendChatTo hK _ pid _)
  · exact does_noMatch hK s pid user

/-- Who is from where. -/
theorem does_tellFrom (pid : UInt8) : Does K s (s.tellFrom pid) :=
  Does.foldl _ (fun s _ _ => does_sendChatTo hK s pid _) s

end Commands

/-- A command that sets fields no property reads and reports to all. -/
theorem does_reportAll (hK : Plain K) {s t : GameState} (h : Same s t) (hb : t.books = s.books)
    (m : Text) : Does K s (t.sendChatAll m) := (Does.misc hK h hb).trans (does_sendChatAll hK t m)

/-- A command that sets fields no property reads and reports to the
caller. -/
theorem does_reportTo (hK : Plain K) {s t : GameState} (h : Same s t) (hb : t.books = s.books)
    (pid : UInt8) (m : Text) : Does K s (t.sendChatTo pid m) :=
  (Does.misc hK h hb).trans (does_sendChatTo hK t pid m)

omit [RustStd] in
/-- A slot is held, in place of an earlier hold of it. -/
theorem same_hold (s : GameState) (name : Text) (sid : UInt8) :
    Same s { s with holds := (s.holds.filter fun h => h.1 != sid) ++ [(sid, name)] } := by
  have hkeys := HoldsKept.insert s.holds sid name
  constructor <;> first | rfl | exact hkeys

omit [RustStd] in
/-- All slots are let go of. -/
theorem same_clearHold (s : GameState) : Same s { s with holds := [] } := by
  have hkeys : HoldsKept s.holds [] := fun _ => List.nodup_nil
  constructor <;> first | rfl | exact hkeys

/-- Every command, as fine steps. -/
theorem does_runCommand (hK : Plain K) (hphase : ∀ t, K .phase t) {s : GameState} (env : Env)
    (hlink : env.fakeLink.sent = []) {pid : UInt8} (hpid : ∃ p ∈ s.players, p.pid = pid)
    (caller : Text) (cmd : ChatCommand) (hslots : cmd.editsSlots = true → K .slots s)
    (hvacate : ∀ sid, cmd.vacates = some sid → K (.vacate sid) s) (hlimit : K .limit s)
    (hlobby : s.phase = .lobby → K .slots s)
    (hseat : cmd = .fakePlayer → s.phase = .lobby → K .seatFake s)
    (hunfake : cmd = .fakePlayer → s.phase = .lobby → K .unfake s)
    (hrehost : cmd.rehosts = true → s.phase = .lobby → K .rehost s) :
    Does K s (s.runCommand env pid caller cmd) := by
  cases cmd with
  | start force =>
      dsimp only [runCommand]
      -- which refusal it was matters to the text only
      generalize (if force = true then none else s.startRefusal) = refusal
      split
      · exact does_sendChatTo hK s pid _
      · exact does_startCountdown s hphase
  | abort => exact does_abortCountdown hK hphase s
  | openSlot sid => exact does_vacate hK s (hvacate sid rfl) slotOpen (by decide)
  | close sid => exact does_vacate hK s (hvacate sid rfl) slotClosed (by decide)
  | openAll =>
      exact (does_editSlots hK s (hslots rfl) SlotTable.sameSeats_openAll).trans
        (does_sendChatAll hK _ _)
  | closeAll =>
      exact (does_editSlots hK s (hslots rfl) SlotTable.sameSeats_closeAll).trans
        (does_sendChatAll hK _ _)
  | swap a b => exact does_editSlots hK s (hslots rfl) (SlotTable.sameSeats_swapSlots a b _ _)
  | hold name slot =>
      cases slot with
      | none => exact does_sendChatAll hK s _
      | some sid => exact does_reportAll hK (same_hold s name sid) (by rfl) _
  | clearHold => exact does_reportAll hK (same_clearHold s) (by rfl) _
  | kick name => exact does_kickByName hK s pid name
  | ban name reason => exact does_banByName hK s caller name reason
  | unban name => exact does_reportTo hK (by constructor <;> rfl) (by rfl) pid _
  | checkBan name => exact does_sendChatTo hK s pid _
  | banLast reason =>
      dsimp only [runCommand]
      split
      · exact does_reportAll hK (by constructor <;> rfl) (by rfl) _
      · exact does_sendChatTo hK s pid _
  | checkAdmin name => exact does_sendChatTo hK s pid _
  | addAdmin name => exact does_reportTo hK (by constructor <;> rfl) (by rfl) pid _
  | delAdmin name => exact does_reportTo hK (by constructor <;> rfl) (by rfl) pid _
  | ping => exact does_sendChatTo hK s pid _
  | mute name => exact does_setMuted hK s name _ _
  | unmute name => exact does_setMuted hK s name _ _
  | muteAll => exact does_reportAll hK (by constructor <;> rfl) (by rfl) _
  | unmuteAll => exact does_reportAll hK (by constructor <;> rfl) (by rfl) _
  | voteStart => exact does_voteStart hK s hphase hpid
  | voteCancel => exact (does_voteCancel hK s).trans (does_sendChatAll hK _ _)
  | voteKick name => exact does_voteKick hK s hpid name
  | yes => exact does_voteYes hK s hpid
  | syncLimit limit =>
      cases limit with
      | none => exact does_sendChatTo hK s pid _
      | some n =>
          exact (Does.one hlimit (.limit _ (Nat.min_le_right _ _))).trans
            (does_sendChatTo hK _ pid _)
  | latency ms =>
      cases ms with
      | none => exact does_sendChatTo hK s pid _
      | some n => exact does_reportTo hK (by constructor <;> rfl) (by rfl) pid _
  | shufflePlayers =>
      dsimp only [runCommand]
      -- outside the lobby nobody is shuffled and nothing is said
      split
      · rename_i hl
        exact (does_editSlots hK s (hlobby hl) (sameSeats_shuffled s.slots _)).trans
          (does_sendChatAll hK _ _)
      · exact Does.refl s
  | version => exact does_sendChatTo hK s pid _
  | say message => exact does_sendChatAll hK s message
  | whisper user message => exact does_whisper hK s pid caller user message
  | stats name => exact does_showStats hK s pid caller name
  | statsDotA name => exact does_showStatsDotA hK s pid caller name
  | drop => exact does_handleDropRequest hK s
  | draw => exact does_voteDraw hK s hpid
  | hcl mode => exact does_reportAll hK (by constructor <;> rfl) (by rfl) _
  | clearHcl => exact does_reportAll hK (by constructor <;> rfl) (by rfl) _
  | owner name =>
      cases name with
      | none => exact does_sendChatTo hK s pid _
      | some o => exact does_reportAll hK (by constructor <;> rfl) (by rfl) _
  | unhost =>
      dsimp only [runCommand]
      split
      · exact does_finish hK s
      · exact Does.refl s
  | endGame =>
      refine Does.trans ?_ (does_finish hK _)
      -- the farewell goes out before the phase turns to over
      refine (does_sendChatAll hK s _).trans (Does.one (hphase _) (.phase .over ?_ (by simp)))
      unfold PhaseStep
      split <;> simp_all
  | lock => exact does_sendChatAll hK s _
  | unlock => exact does_sendChatAll hK s _
  | check name =>
      dsimp only [runCommand]
      split
      · exact does_sendChatTo hK s pid _
      · exact does_noMatch hK s pid name
  | checkMe =>
      dsimp only [runCommand]
      split
      · exact does_sendChatTo hK s pid _
      · exact Does.refl s
  | announce message => exact does_announce hK s pid message
  | autoStart players => exact does_reportAll hK (by constructor <;> rfl) (by rfl) _
  | refresh => exact (does_sendAllSlotInfo hK s).trans (does_sendChatTo hK _ pid _)
  | virtualHost name => exact does_reportAll hK (by constructor <;> rfl) (by rfl) _
  | comp slot team colour race computerType handicap =>
      exact does_editSlots hK s (hslots rfl) (SlotTable.sameSeats_addComputer _ _ _ _ _ _)
  | compColour slot colour =>
      exact does_editSlots hK s (hslots rfl)
        (SlotTable.sameSeats_editComputer _ fun _ => ⟨rfl, rfl, rfl⟩)
  | compRace slot race =>
      exact does_editSlots hK s (hslots rfl)
        (SlotTable.sameSeats_editComputer _ fun _ => ⟨rfl, rfl, rfl⟩)
  | compHandicap slot handicap =>
      exact does_editSlots hK s (hslots rfl)
        (SlotTable.sameSeats_editComputer _ fun _ => ⟨rfl, rfl, rfl⟩)
  | compTeam slot team =>
      exact does_editSlots hK s (hslots rfl)
        (SlotTable.sameSeats_editComputer _ fun _ => ⟨rfl, rfl, rfl⟩)
  | download name => exact does_allowDownload hK s pid name
  | dbStatus => exact does_sendChatTo hK s pid _
  | fakePlayer =>
      -- the caller is told what was done, if anything was
      have htoggle := does_toggleFakePlayer hK (hseat rfl) (hunfake rfl) env.fakeLink hlink
      dsimp only [runCommand]
      split
      · rename_i h
        rw [h] at htoggle
        exact htoggle.trans (does_sendChatTo hK _ pid _)
      · rename_i h
        rw [h] at htoggle
        exact htoggle
  | fpPause => exact does_fakeAction hK s pid _ _
  | fpResume => exact does_fakeAction hK s pid _ _
  | fromWhere => exact does_tellFrom hK s pid
  | messages on =>
      cases on with
      | none => exact does_sendChatTo hK s pid _
      | some on => exact does_reportTo hK (by constructor <;> rfl) (by rfl) pid _
  | sendLan ip port => exact does_sendChatTo hK s pid _
  | pub name => exact does_rehost hK s _ name fun hl hn => hrehost (decide_eq_true hn) hl
  | priv name => exact does_rehost hK s _ name fun hl hn => hrehost (decide_eq_true hn) hl
  | muteLobby on => exact does_reportAll hK (by constructor <;> rfl) (by rfl) _
  | unknown verb => exact does_sendChatTo hK s pid _

-- ============================================================= chat frames

/-- What a line to one player leaves as it was. -/
structure SameTable (s t : GameState) : Prop where
  phase : t.phase = s.phase
  started : t.started = s.started
  fakePlayerPid : t.fakePlayerPid = s.fakePlayerPid
  virtualHostPid : t.virtualHostPid = s.virtualHostPid
  slots : t.slots = s.slots
  referred : t.referred = s.referred
  cfg : t.cfg = s.cfg
  mutedAll : t.mutedAll = s.mutedAll
  pids : t.players.map Player.pid = s.players.map Player.pid

omit [RustStd] in
/-- A packet to one player leaves the ids as they are. -/
theorem sendTo_pids (s : GameState) (pid : UInt8) (b : Packet) :
    (s.sendTo pid b).players.map Player.pid = s.players.map Player.pid :=
  Lib.map_updateFirst fun p _ => (p.kept_receive _ _).pid

omit [RustStd] in
/-- A line to one player leaves the table as it is. -/
theorem sendChatTo_sameTable (s : GameState) (pid : UInt8) (m : Text) :
    SameTable s (s.sendChatTo pid m) := by
  have hsend : ∀ (t : GameState) (b : Option Packet), SameTable t (t.sendTo? pid b) := by
    intro t b
    cases b with
    | none => exact ⟨rfl, rfl, rfl, rfl, rfl, rfl, rfl, rfl, rfl⟩
    | some b => exact ⟨rfl, rfl, rfl, rfl, rfl, rfl, rfl, rfl, sendTo_pids t pid b⟩
  have hclip : ∀ n, SameTable s (s.clip n m).1 := by
    intro n
    unfold clip
    split <;> exact ⟨rfl, rfl, rfl, rfl, rfl, rfl, rfl, rfl, rfl⟩
  have hboth : ∀ n b, SameTable s ((s.clip n m).1.sendTo? pid b) := by
    intro n b
    have h := hsend (s.clip n m).1 b
    have g := hclip n
    exact ⟨h.phase.trans g.phase, h.started.trans g.started, h.fakePlayerPid.trans g.fakePlayerPid,
      h.virtualHostPid.trans g.virtualHostPid, h.slots.trans g.slots, h.referred.trans g.referred,
      h.cfg.trans g.cfg, h.mutedAll.trans g.mutedAll, h.pids.trans g.pids⟩
  unfold sendChatTo
  dsimp only
  split
  · exact ⟨rfl, rfl, rfl, rfl, rfl, rfl, rfl, rfl, rfl⟩
  split
  · exact hboth 254 _
  · exact hboth 127 _

/-- The length of the longest line a chat record has room for. -/
def longestLine : Nat := 65529

/-- A line that is recorded fits its record, unless it is too long. -/
theorem does_recordChat (hK : Plain K) (s : GameState) (pid : UInt8) (name : Text)
    (chat : ChatToHost)
    (hlong : s.phase = .loading ∨ s.phase = .playing → longestLine < chat.message.length →
      K (.record false) s) : Does K s (s.recordChat pid name chat) := by
  unfold recordChat
  split
  · rename_i hphase
    refine Does.trans ?_ (does_relayPush hK _ rfl)
    by_cases hlen : longestLine < chat.message.length
    · exact does_addChat s (hlong hphase hlen) pid _ _ _ fun h => nomatch h
    · refine does_addChat s (hK (.record true) rfl s) pid _ _ _ fun _ => ?_
      unfold longestLine at hlen
      simp only [ReplayRecord.fits, Bool.and_eq_true, decide_eq_true_eq]
      refine ⟨?_, by omega⟩
      split
      · exact word_lt _ _ _ _
      · decide
  · exact Does.refl s

/-- What a player says goes to the others, by the phase of the game. -/
theorem does_relayChat (hK : Plain K) (s : GameState) (pid : UInt8) (chat : ChatToHost) :
    Does K s (s.relayChat pid chat) := by
  unfold relayChat
  dsimp only
  split
  · rename_i b hb
    have hord := Outgoing.chatFromHost_isOrdinary _ _ _ _ _ b hb
    split
    · exact Does.foldl _ (fun s _ _ => does_sendTo hK s _ hord) s
    · exact does_air hK s hord
  · exact Does.refl s

/-- The command a chat frame runs, if it runs one: it comes from a
seated client under its own id, is no slot request, and the client may
give it. -/
def GameState.chatCommand (s : GameState) (connId : Nat) (payload : List UInt8) :
    Option ChatCommand :=
  match s.players.byConn connId, ChatToHost.decode payload with
  | some p, .ok chat =>
      if chat.fromPid = p.pid ∧ ¬(0x11 ≤ chat.flag ∧ chat.flag ≤ 0x14) then
        match parseCommand chat.message with
        | some cmd => if s.isOwner p.name ∨ cmd.isPublic then some cmd else none
        | none => none
      else none
  | _, _ => none

/-- The line a chat frame says, if it says one: it comes from a seated
client under its own id, is no slot request and no command, and the
client is not muted. -/
def GameState.chatLine (s : GameState) (connId : Nat) (payload : List UInt8) : Option Text :=
  match s.players.byConn connId, ChatToHost.decode payload with
  | some p, .ok chat =>
      if chat.fromPid = p.pid ∧ ¬(0x11 ≤ chat.flag ∧ chat.flag ≤ 0x14)
          ∧ (parseCommand chat.message).isNone
          ∧ ¬((p.muted ∨ s.mutedAll) ∧ !s.isOwner p.name) then some chat.message
      else none
  | _, _ => none

/-- The hint a client that asks for the trigger is sent. -/
theorem does_triggerHint (hK : Plain K) (s : GameState) (pid : UInt8) (message : Text) :
    let t := if message = txt "?trigger" then
      s.sendChatTo pid (txt "Command trigger: !") else s
    Does K s t ∧ SameTable s t := by
  intro t
  by_cases hask : message = txt "?trigger"
  · have ht : t = s.sendChatTo pid (txt "Command trigger: !") := if_pos hask
    rw [ht]
    exact ⟨does_sendChatTo hK s _ _, sendChatTo_sameTable s _ _⟩
  · have ht : t = s := if_neg hask
    rw [ht]
    exact ⟨Does.refl s, rfl, rfl, rfl, rfl, rfl, rfl, rfl, rfl, rfl⟩

/-- A chat frame, as fine steps. -/
theorem does_handleChatToHost (hK : Plain K) (hph : ∀ t, K .phase t) {s : GameState} (env : Env)
    (hlink : env.fakeLink.sent = []) (connId : Nat) (payload : List UInt8)
    (hslots : ∀ cmd, s.chatCommand connId payload = some cmd → cmd.editsSlots = true →
      ∀ t, SameTable s t → K .slots t)
    (hvacate : ∀ cmd sid, s.chatCommand connId payload = some cmd → cmd.vacates = some sid →
      ∀ t, SameTable s t → K (.vacate sid) t)
    (hlimit : ∀ t, K .limit t) (hlobby : s.phase = .lobby → ∀ t, SameTable s t → K .slots t)
    (hseat : s.chatCommand connId payload = some .fakePlayer → s.phase = .lobby →
      ∀ t, SameTable s t → K .seatFake t)
    (hunfake : s.chatCommand connId payload = some .fakePlayer → s.phase = .lobby →
      ∀ t, SameTable s t → K .unfake t)
    (hrehost : ∀ cmd, s.chatCommand connId payload = some cmd → cmd.rehosts = true →
      s.phase = .lobby → ∀ t, SameTable s t → K .rehost t)
    (hlong : ∀ line, s.chatLine connId payload = some line →
      s.phase = .loading ∨ s.phase = .playing → longestLine < line.length →
      ∀ t, SameTable s t → K (.record false) t) :
    Does K s (s.handleChatToHost env connId payload) := by
  unfold handleChatToHost
  split
  · exact Does.refl s
  rename_i p hp
  split
  · exact Does.refl s
  rename_i chat hchat
  split
  · exact Does.refl s
  rename_i hfrom
  dsimp only
  -- the trigger hint changes nothing the rest reads
  obtain ⟨hdoes, hsame⟩ := does_triggerHint hK s p.pid chat.message
  generalize (if chat.message = txt "?trigger" then
    s.sendChatTo p.pid (txt "Command trigger: !") else s) = t at hdoes hsame ⊢
  split
  · split
    · rename_i hl
      exact hdoes.trans (does_editSlots hK t (hlobby (hsame.phase ▸ hl) t hsame)
        (sameSeats_applySlotRequest t _ _ _))
    · exact hdoes
  rename_i hflag
  refine hdoes.trans ?_
  have howner : t.isOwner p.name = s.isOwner p.name := by
    unfold isOwner
    rw [hsame.cfg]
  unfold handleChatLine
  split
  · rename_i cmd hcmd
    split
    · exact does_sendChatTo hK t _ _
    rename_i hallowed
    have hrun : s.chatCommand connId payload = some cmd := by
      unfold chatCommand
      rw [hp, hchat]
      dsimp only
      rw [if_pos ⟨by simpa using hfrom, hflag⟩, hcmd]
      dsimp only
      refine if_pos ?_
      rw [howner] at hallowed
      by_contra hno
      rw [not_or] at hno
      exact hallowed ⟨by simpa using hno.1, by simpa using hno.2⟩
    have hseated : ∃ q ∈ t.players, q.pid = p.pid := by
      have hmem : p.pid ∈ t.players.map Player.pid := by
        rw [hsame.pids]
        exact List.mem_map_of_mem (List.mem_of_find?_eq_some hp)
      exact List.mem_map.1 hmem
    exact does_runCommand hK hph env hlink hseated _ cmd (fun h => hslots cmd hrun h t hsame)
      (fun sid h => hvacate cmd sid hrun h t hsame) (hlimit t)
      (fun hl => hlobby (hsame.phase ▸ hl) t hsame)
      (fun h hl => hseat (h ▸ hrun) (hsame.phase ▸ hl) t hsame)
      (fun h hl => hunfake (h ▸ hrun) (hsame.phase ▸ hl) t hsame)
      (fun h hl => hrehost cmd hrun h (hsame.phase ▸ hl) t hsame)
  rename_i hline
  split
  · exact Does.refl t
  rename_i hmuted
  have hsaid : s.chatLine connId payload = some chat.message := by
    unfold chatLine
    rw [hp, hchat]
    dsimp only
    refine if_pos ⟨by simpa using hfrom, hflag, by rw [hline]; rfl, ?_⟩
    rwa [howner, hsame.mutedAll] at hmuted
  have hrec := does_recordChat hK t p.pid p.name chat fun hphase hlen =>
    hlong _ hsaid (hsame.phase ▸ hphase) hlen t hsame
  dsimp only
  split
  · exact hrec
  · exact hrec.trans (does_relayChat hK _ _ _)

end Spectre

/-
Chat handling (`chat.rs`): what each command does, the slot requests of
the lobby, and the routing of ordinary chat.

`startCountdown` (`actor.rs`) is here because two commands call it.

# What a command may use

The reply texts are the source's. `Env` is what one command draws from
outside the game: the random numbers of the shuffle and of a new
reconnect key, and the queue made for a fake player.
-/
import Spectre.Commands
import Spectre.Rejoin
import Spectre.Transfer

namespace Spectre

/-- What a command takes from its environment. -/
structure Env where
  reconnectKey : UInt32
  shuffle : Nat → Nat
  fakeLink : PlayerLink

/-- The match of a name, if it is one player. -/
def NameMatch.ok : NameMatch → Option Player
  | found p => some p
  | _ => Option.none

namespace GameState

/-- `GameState::start_countdown`. -/
def startCountdown (s : GameState) : GameState :=
  if s.phase = .lobby then s.setPhase (.countdown s.now countdownTotal (countdownSteps + 1)) else s

-- ============================================================ slot requests

/-- Take over the result of a slot operation, and announce it if it
did something. -/
def editSlots (s : GameState) (r : SlotTable × Bool) : GameState :=
  if r.2 then (s.setSlots r.1).sendAllSlotInfo else s.setSlots r.1

/-- `colour_slot`: the last slot that has the colour decides. -/
def colourSlot (t : SlotTable) (sid colour : UInt8) : SlotTable × Bool :=
  if t.length ≤ sid.toNat ∨ maxSlots ≤ colour.toNat then (t, false)
  else
    let taken := (List.range t.length).reverse.find? fun i =>
      match t[i]? with
      | some s => s.colour == colour
      | none => false
    match taken with
    | some i =>
        match t[i]? with
        | some other =>
            if other.slotStatus ≠ slotOccupied then
              let old := ((t[sid.toNat]?).map SlotInfo.colour).getD 0
              (((t.setColour i.toUInt8 old).1.setColour sid colour).1, true)
            else (t, false)
        | none => (t, false)
    | none => ((t.setColour sid colour).1, true)

/-- The team change of `apply_slot_request` on a map without custom
forces. -/
def changeTeam (s : GameState) (pid sid target : UInt8) : SlotTable × Bool :=
  let others := s.slots.countP fun o =>
    o.slotStatus == slotOccupied && o.team.toNat != maxSlots && o.pid != pid
  if maxSlots < target.toNat then (s.slots, false)
  else if target.toNat = maxSlots ∧ !s.cfg.map.seatsObservers then (s.slots, false)
  else if target.toNat ≠ maxSlots
      ∧ (s.cfg.map.numPlayers ≤ target ∨ s.cfg.map.numPlayers.toNat ≤ others % 256) then
    (s.slots, false)
  else match s.slots[sid.toNat]? with
    | none => (s.slots, false)
    | some slot =>
        let colour :=
          if target.toNat = maxSlots then target
          else if slot.colour.toNat = maxSlots then s.slots.unusedColour
          else slot.colour
        ((s.slots.replace sid { slot with team := target, colour := colour }).1, true)

/-- `apply_slot_request`. -/
def applySlotRequest (s : GameState) (pid flag value : UInt8) : SlotTable × Bool :=
  let fixed := s.cfg.map.hasFixedPlayerSettings
  match s.slots.sidOfPid pid with
  | none => (s.slots, false)
  | some sid =>
      if flag = 0x11 then
        if s.cfg.map.hasCustomForces then
          match s.slots.firstOpenInTeamFrom sid value with
          | some target => ((s.slots.swapSlots sid target fixed true).1, true)
          | none => (s.slots, false)
        else s.changeTeam pid sid value
      else if fixed then (s.slots, false)
      else match s.slots[sid.toNat]? with
        | none => (s.slots, false)
        | some slot =>
            if flag = 0x12 then
              if maxSlots - 1 < value.toNat ∨ slot.team.toNat = maxSlots then (s.slots, false)
              else colourSlot s.slots sid value
            else if flag = 0x13 then
              if s.cfg.map.hasRandomRaces ∨ value ∉ [1, 2, 4, 8, 32] then (s.slots, false)
              else ((s.slots.replace sid { slot with race := value ||| 0x40 }).1, true)
            else if flag = 0x14 then
              if value ∈ [50, 60, 70, 80, 90, 100] then
                ((s.slots.replace sid { slot with handicap := value }).1, true)
              else (s.slots, false)
            else (s.slots, false)

-- ================================================================= commands

/-- `names.join(", ")`. -/
def nameList (ps : List Player) : Text := joinWith (txt ", ") (ps.map Player.name)

/-- Why `!start` without `force` is refused, if it is. -/
def startRefusal (s : GameState) : Option Text :=
  let humans := s.players.filter fun p => !p.virtualHost
  let bypass := txt ". Use !start force to bypass."
  let downloading := s.downloads.filterMap fun d =>
    if d.sentUpto < s.cfg.map.size.toNat then s.players.byPid d.pid else none
  let unverified := humans.filter fun p => !p.spoofed
  let unpinged := humans.filter fun p => !p.reserved && p.pingHistory.length < 3
  if s.players.humanCount < 1 then
    some (txt "Unable to start: only " ++ decimal s.players.humanCount
      ++ txt " player(s) in the lobby.")
  else if (s.hcl.map fun h => decide (s.slots.length < h.length)).getD false then
    some (txt "Unable to start: HCL string is too long for map slots. Use !start force to bypass.")
  else if !downloading.isEmpty then
    some (txt "Unable to start: players still downloading map: " ++ nameList downloading ++ bypass)
  else if s.cfg.requireSpoofChecks ∧ !unverified.isEmpty then
    some (txt "Unable to start: unverified spoofcheck: " ++ nameList unverified ++ bypass)
  else if !unpinged.isEmpty then
    some (txt "Unable to start: players ping not checked: " ++ nameList unpinged ++ bypass)
  else if (s.lastPlayerLeftTime.map fun t => decide (s.now - t < secs 2)).getD false then
    some (txt
      "Unable to start: a player left within the last 2 seconds. Use !start force to bypass.")
  else none

/-- The votes a votekick needs. -/
def votekickNeeded (s : GameState) : Nat :=
  max ((s.players.humanCount * min (max s.cfg.votekickPercentage 1) 100 + 99) / 100) 1

/-- The line `!check` and `!checkme` print about a player. -/
def checkLine (p : Player) : Text :=
  txt " [" ++ p.name ++ txt "]: Ping: " ++ decimal (p.averagePing.getD 0) ++ txt "ms, Spoofed: "
    ++ (if p.spoofed then txt "Yes" else txt "No") ++ txt ", Realm: ["
    ++ (if p.joinedRealm = [] then txt "LAN" else p.joinedRealm) ++ txt "]"

/-- The reply to a name nobody has. -/
def noMatch (s : GameState) (pid : UInt8) (name : Text) : GameState :=
  s.sendChatTo pid (txt "No player matching [" ++ name ++ txt "].")

/-- `!mute` and `!unmute`. -/
def setMuted [RustStd] (s : GameState) (name : Text) (on : Bool) (done : Text) : GameState :=
  match (s.players.byNamePartial name).ok with
  | some t =>
      let s := { s with players := s.players.modifyPid t.pid fun p => { p with muted := on } }
      s.sendChatAll (txt "[" ++ t.name ++ txt "] has been " ++ done)
  | none => s

/-- `!announce`. -/
def announce (s : GameState) (pid : UInt8) (msg : Text) : GameState :=
  match splitWhitespace msg with
  | [] =>
      let s := { s with announceMessage := none, announceInterval := 0 }
      s.sendChatTo pid (txt "Announcement cleared.")
  | first :: rest =>
      if eqIgnoreAsciiCase first (txt "off") then
        let s := { s with announceMessage := none, announceInterval := 0 }
        s.sendChatTo pid (txt "Announcement disabled.")
      else match parseUInt 64 first with
        | some n =>
            let text := joinArgs rest
            let s := { s with
              announceInterval := secs n, announceMessage := some text
              lastAnnounceTime := some s.now }
            s.sendChatAll (txt "Announcement (every " ++ decimal n ++ txt "s): " ++ text)
        | none =>
            let s := { s with announceMessage := some msg }
            s.sendChatAll (txt "Announcement: " ++ msg)

/-- Put a lobby status on the event channel, if there is one. -/
def emitLobbyStatus (s : GameState) : GameState :=
  if s.cfg.eventTx then
    { s with events := s.events ++
        [⟨s.cfg.hostCounter, s.slots.countOpen, s.slots.length, s.players.humanCount⟩] }
  else s

/-- `!pub` and `!priv`. -/
def rehost (s : GameState) (kind name : Text) : GameState :=
  if s.phase = .lobby ∧ name ≠ [] then
    let s := { s with cfg := { s.cfg with
      name := name, hostCounter := (s.cfg.hostCounter + 1) % 2 ^ 32 } }
    (s.sendChatAll
      (txt "Rehosted game as " ++ kind ++ txt " [" ++ name ++ txt "].")).emitLobbyStatus
  else s

/-- `!download`. -/
def allowDownload [RustStd] (s : GameState) (pid : UInt8) (name : Text) : GameState :=
  match if name = [] then some pid else (s.players.byNamePartial name).ok.map Player.pid with
  | some tpid =>
      let s := match s.players.byPid tpid with
        | some p =>
            let s := { s with players :=
              s.players.modifyPid tpid fun p => { p with downloadAllowed := true } }
            s.sendChatTo pid (txt "Map download allowed for player [" ++ p.name ++ txt "].")
        | none => s
      s.sendTo tpid (.startDownload s.hostPid)
  | none => s.noMatch pid name

/-- The shuffle of `!sp`: each slot in turn is swapped with a drawn
one. -/
def shuffled (t : SlotTable) (draw : Nat → Nat) : SlotTable :=
  (List.range t.length).foldl (fun t i =>
    (t.swap i.toUInt8 (draw i % 2 ^ 16 % t.length).toUInt8).1) t

/-- A fake player's pause or resume action. -/
def fakeAction (s : GameState) (pid : UInt8) (code : UInt8) (done : Text) : GameState :=
  match s.fakePlayerPid with
  | some fpid =>
      if s.phase = .playing then
        let s : GameState := { s with actions := s.actions ++ [⟨fpid, [code]⟩] }
        s.sendChatTo pid done
      else s
  | none => s

/-- Whether a command given at `t` is too soon after the last. -/
def tooSoon (s : GameState) (t : Option Nat) : Bool :=
  (t.map fun t => decide (s.now - t < secs 5)).getD false

/-- `!stats`. -/
def showStats (s : GameState) (pid : UInt8) (caller name : Text) : GameState :=
  if ((s.players.byPid pid).map fun p => s.tooSoon p.statsSentTime).getD false then s
  else
    let s := { s with players :=
      s.players.modifyPid pid fun p => { p with statsSentTime := some s.now } }
    s.sendChatTo pid (txt "Querying stats for [" ++ (if name = [] then caller else name)
      ++ txt "]...")

/-- `!statsdota`. -/
def showStatsDotA [RustStd] (s : GameState) (pid : UInt8) (caller name : Text) : GameState :=
  if ((s.players.byPid pid).map fun p => s.tooSoon p.statsDotaSentTime).getD false then s
  else
    let target := if name = [] then caller else name
    let s := { s with players :=
      s.players.modifyPid pid fun p => { p with statsDotaSentTime := some s.now } }
    s.sendChatTo pid (match s.dota with
      | some dota => (dota.formatPlayerStats target).getD
          (txt "No DotA stats found for [" ++ target ++ txt "].")
      | none => txt "Not a DotA map.")

/-- `!votestart`. -/
def voteStart (s : GameState) (pid : UInt8) : GameState :=
  if pid ∈ s.startVotes then s
  else
    let s := { s with startVotes := s.startVotes ++ [pid] }
    let votes := s.startVotes.length
    let needed := s.players.humanCount / 2 + 1
    let s := s.sendChatAll (txt "Vote start: " ++ decimal votes ++ txt "/" ++ decimal needed
      ++ txt " votes.")
    if needed ≤ votes then s.startCountdown else s

/-- `!votekick`. -/
def voteKick [RustStd] (s : GameState) (pid : UInt8) (name : Text) : GameState :=
  if !s.cfg.votekickAllowed then s.sendChatTo pid (txt "Votekick is disabled.")
  else match (s.players.byNamePartial name).ok with
    | some t =>
        let s := { s with votekickTarget := some t.pid, votekickVotes := [pid] }
        s.sendChatAll (txt "Votekick started against [" ++ t.name ++ txt "] (1/"
          ++ decimal s.votekickNeeded ++ txt " votes). Type !yes to vote.")
    | none => s.noMatch pid name

/-- No votekick is running. -/
def endVotekick (s : GameState) : GameState :=
  { s with votekickTarget := none, votekickVotes := [] }

/-- `!yes`. -/
def voteYes (s : GameState) (pid : UInt8) : GameState :=
  match s.votekickTarget with
  | none => s
  | some target =>
      if pid ∈ s.votekickVotes then s
      else
        let s := { s with votekickVotes := s.votekickVotes ++ [pid] }
        let votes := s.votekickVotes.length
        let needed := s.votekickNeeded
        let s := s.sendChatAll (txt "Votekick: " ++ decimal votes ++ txt "/" ++ decimal needed
          ++ txt " votes.")
        if needed ≤ votes then
          (s.kickPlayer target .votedOut (s.leaveCode leaveLost)).endVotekick
        else s

/-- `!draw`. -/
def voteDraw (s : GameState) (pid : UInt8) : GameState :=
  if pid ∈ s.drawVotes then s
  else
    let s := { s with drawVotes := s.drawVotes ++ [pid] }
    let votes := s.drawVotes.length
    let total := s.players.humanCount
    let s := s.sendChatAll (txt "Draw vote: " ++ decimal votes ++ txt "/" ++ decimal total
      ++ txt " players agreed.")
    if total ≤ votes then (s.sendChatAll (txt "Game ended in a draw.")).finish else s

/-- `!kick`. -/
def kickByName [RustStd] (s : GameState) (pid : UInt8) (name : Text) : GameState :=
  match s.players.byNamePartial name with
  | .found t => s.kickPlayer t.pid .kicked (s.leaveCode leaveLost)
  | .none => s.noMatch pid name
  | .ambiguous n => s.sendChatTo pid (txt "[" ++ name ++ txt "] matches " ++ decimal n
      ++ txt " players, be more specific.")

/-- `!ban`. -/
def banByName [RustStd] (s : GameState) (caller name reason : Text) : GameState :=
  let s := (s.storePush (.ban name [] caller reason)).sendChatAll
    (txt "Banned [" ++ name ++ txt "]: " ++ reason ++ txt ".")
  match (s.players.byNamePartial name).ok with
  | some t => s.kickPlayer t.pid (.banned reason) (s.leaveCode leaveLost)
  | none => s

/-- `!w`. -/
def whisper [RustStd] (s : GameState) (pid : UInt8) (caller user message : Text) : GameState :=
  match (s.players.byNamePartial user).ok with
  | some t =>
      let s := s.sendChatTo t.pid (txt "[Whisper from " ++ caller ++ txt "]: " ++ message)
      s.sendChatTo pid (txt "[Whisper to " ++ t.name ++ txt "]: " ++ message)
  | none => s.noMatch pid user

/-- `!from`. -/
def tellFrom (s : GameState) (pid : UInt8) : GameState :=
  let lines := (s.players.filter fun p => !p.virtualHost && p.left.isNone).map fun p =>
    txt "Player [" ++ p.name ++ txt "] is from ["
      ++ (if p.joinedRealm ≠ [] then p.joinedRealm else p.externalIp.dotted) ++ txt "]"
  lines.foldl (fun s m => s.sendChatTo pid m) s

/-- `GameState::run_command`. -/
def runCommand [RustStd] (s : GameState) (env : Env) (pid : UInt8) (caller : Text) :
    ChatCommand → GameState
  | .start force =>
      match if force then none else s.startRefusal with
      | some msg => s.sendChatTo pid msg
      | none => s.startCountdown
  | .abort => s.abortCountdown
  | .openSlot sid => s.editSlots (s.slots.openSlot sid)
  | .close sid => s.editSlots (s.slots.close sid)
  | .openAll => (s.editSlots (s.slots.openAll, true)).sendChatAll (txt "Opened all closed slots.")
  | .closeAll => (s.editSlots (s.slots.closeAll, true)).sendChatAll (txt "Closed all open slots.")
  | .swap a b => s.editSlots
      (s.slots.swapSlots a b s.cfg.map.hasFixedPlayerSettings s.cfg.map.hasCustomForces)
  | .hold name slot =>
      let s : GameState := match slot with
        | some sid => { s with holds := (s.holds.filter fun h => h.1 != sid) ++ [(sid, name)] }
        | none => s
      s.sendChatAll (txt "Slot reserved for [" ++ name ++ txt "].")
  | .clearHold => { s with holds := [] }.sendChatAll (txt "Held slots cleared.")
  | .kick name => s.kickByName pid name
  | .ban name reason => s.banByName caller name reason
  | .unban name =>
      (s.storePush (.unban name)).sendChatTo pid (txt "Unbanned [" ++ name ++ txt "].")
  | .checkBan name => s.sendChatTo pid (txt "Checking ban for [" ++ name ++ txt "]...")
  | .banLast reason =>
      match s.lastPlayerLeft with
      | some (name, ip) => (s.storePush (.ban name ip caller reason)).sendChatAll
          (txt "Banned last leaver [" ++ name ++ txt "]: " ++ reason ++ txt ".")
      | none => s.sendChatTo pid (txt "No player has left the game yet.")
  | .checkAdmin name => s.sendChatTo pid (txt "Checking admin status for [" ++ name ++ txt "]...")
  | .addAdmin name =>
      (s.storePush (.addAdmin name)).sendChatTo pid (txt "Added admin [" ++ name ++ txt "].")
  | .delAdmin name =>
      (s.storePush (.removeAdmin name)).sendChatTo pid (txt "Removed admin [" ++ name ++ txt "].")
  | .mute name => s.setMuted name true (txt "muted.")
  | .unmute name => s.setMuted name false (txt "unmuted.")
  | .muteAll => { s with mutedAll := true }.sendChatAll (txt "Global chat mute enabled.")
  | .unmuteAll => { s with mutedAll := false }.sendChatAll (txt "Global chat mute disabled.")
  | .voteStart => s.voteStart pid
  | .voteCancel =>
      { s.endVotekick with startVotes := [] }.sendChatAll (txt "Active votes cancelled.")
  | .voteKick name => s.voteKick pid name
  | .yes => s.voteYes pid
  | .syncLimit (some n) =>
      let limit := min (max n 10) 500
      { s with cfg := { s.cfg with syncLimit := limit } }.sendChatTo pid
        (txt "Sync limit set to " ++ decimal limit ++ txt ".")
  | .syncLimit none =>
      s.sendChatTo pid (txt "Current sync limit is " ++ decimal s.cfg.syncLimit ++ txt ".")
  | .latency (some n) =>
      let ms := min (max n 10) 500
      { s with tick := ⟨ms⟩, cfg := { s.cfg with latency := ms } }.sendChatTo pid
        (txt "Latency set to " ++ decimal ms ++ txt " ms.")
  | .latency none =>
      s.sendChatTo pid (txt "Current latency is " ++ decimal s.cfg.latency ++ txt " ms.")
  | .shufflePlayers =>
      if s.phase = .lobby then
        (s.editSlots (shuffled s.slots env.shuffle, true)).sendChatAll (txt "Slots shuffled.")
      else s
  | .version =>
      s.sendChatTo pid (txt "Spectre v0.2.0 (High-Performance Async Warcraft III Hostbot)")
  | .ping =>
      let lines := (s.players.filter fun p => !p.virtualHost).map fun p =>
        match p.averagePing with
        | some ms => p.name ++ txt ": " ++ decimal ms ++ txt "ms"
        | none => p.name ++ txt ": N/A"
      s.sendChatTo pid (txt "Pings: " ++ joinWith (txt ", ") lines)
  | .check name =>
      match (s.players.byNamePartial name).ok with
      | some p => s.sendChatTo pid (txt "Player" ++ checkLine p)
      | none => s.noMatch pid name
  | .checkMe =>
      match s.players.byPid pid with
      | some p => s.sendChatTo pid (txt "You" ++ checkLine p)
      | none => s
  | .announce msg => s.announce pid msg
  | .autoStart n =>
      { s with autostartPlayers := n }.sendChatAll (match n with
        | some n => txt "Autostart enabled when " ++ decimal n ++ txt " players join."
        | none => txt "Autostart disabled.")
  | .refresh => s.sendAllSlotInfo.sendChatTo pid (txt "Refreshed slot info.")
  | .virtualHost name =>
      { s with cfg := { s.cfg with virtualHostName := name } }.sendChatAll
        (txt "Virtual host name set to [" ++ name ++ txt "].")
  | .comp slot team colour race computerType handicap =>
      s.editSlots (s.slots.addComputer slot team colour race computerType handicap)
  | .compColour slot colour =>
      s.editSlots (s.slots.editComputer slot fun i => { i with colour := colour })
  | .compRace slot race => s.editSlots (s.slots.editComputer slot fun i => { i with race := race })
  | .compHandicap slot handicap =>
      s.editSlots (s.slots.editComputer slot fun i => { i with handicap := handicap })
  | .compTeam slot team => s.editSlots (s.slots.editComputer slot fun i => { i with team := team })
  | .download name => s.allowDownload pid name
  | .stats name => s.showStats pid caller name
  | .statsDotA name => s.showStatsDotA pid caller name
  | .drop => s.handleDropRequest
  | .draw => s.voteDraw pid
  | .hcl mode => { s with hcl := some mode }.sendChatAll (txt "HCL set to [" ++ mode ++ txt "].")
  | .clearHcl => { s with hcl := none }.sendChatAll (txt "HCL settings cleared.")
  | .owner (some o) =>
      { s with cfg := { s.cfg with owner := o } }.sendChatAll
        (txt "Game owner transferred to [" ++ o ++ txt "].")
  | .owner none => s.sendChatTo pid (txt "Current owner is [" ++ s.cfg.owner ++ txt "].")
  | .lock => s.sendChatAll (txt "Game locked.")
  | .unlock => s.sendChatAll (txt "Game unlocked.")
  | .endGame => ((s.sendChatAll (txt "Game ended by host.")).setPhase .over).finish
  | .unhost => if s.phase = .lobby then s.finish else s
  | .dbStatus => s.sendChatTo pid (txt "DB STATUS --- OK")
  | .fakePlayer =>
      match s.toggleFakePlayer env.fakeLink with
      | (s, some msg) => s.sendChatTo pid msg
      | (s, none) => s
  | .fpPause => s.fakeAction pid 0x01 (txt "Game paused by fake player.")
  | .fpResume => s.fakeAction pid 0x02 (txt "Game resumed by fake player.")
  | .fromWhere => s.tellFrom pid
  | .messages (some on) =>
      { s with localAdminMessages := on }.sendChatTo pid
        (if on then txt "Local admin messages enabled." else txt "Local admin messages disabled.")
  | .messages none =>
      s.sendChatTo pid (txt "Local admin messages are "
        ++ (if s.localAdminMessages then txt "enabled" else txt "disabled") ++ txt ".")
  | .sendLan ip port =>
      s.sendChatTo pid (txt "Sending LAN broadcast to [" ++ ip ++ txt ":"
        ++ decimal (port.getD 6112) ++ txt "].")
  | .pub name => s.rehost (txt "public") name
  | .priv name => s.rehost (txt "private") name
  | .muteLobby on =>
      let muted := on.getD (!s.muteLobby)
      { s with muteLobby := muted }.sendChatAll
        (if muted then txt "Lobby chat has been muted." else txt "Lobby chat has been unmuted.")
  | .say msg => s.sendChatAll msg
  | .whisper user message => s.whisper pid caller user message
  | .unknown verb => s.sendChatTo pid (txt "Unknown command [" ++ verb ++ txt "].")

-- ============================================================ ordinary chat

/-- Whether a name owns the game: the configured owner, or anyone when
the bot or nobody does. -/
def isOwner (s : GameState) (name : Text) : Bool :=
  eqIgnoreAsciiCase name s.cfg.owner || eqIgnoreAsciiCase s.cfg.owner (txt "BOT")
    || s.cfg.owner == []

/-- The recipients of a chat line: those named, or everyone else. -/
def chatRecipients (s : GameState) (pid : UInt8) (chat : ChatToHost) : List UInt8 :=
  if chat.toPids = [] then
    (s.players.filter fun p => !p.virtualHost && p.left.isNone && p.pid != pid).map Player.pid
  else chat.toPids.filter fun to' =>
    ((s.players.byPid to').map fun p => !p.virtualHost).getD false

/-- Record a chat line of a started game. -/
def recordChat (s : GameState) (pid : UInt8) (name : Text) (chat : ChatToHost) : GameState :=
  if s.phase = .loading ∨ s.phase = .playing then
    let extra := match chat.extra with
      | a :: b :: c :: d :: _ => a.toNat + 256 * b.toNat + 65536 * c.toNat + 16777216 * d.toNat
      | _ => 0
    (s.record fun r => r.addChat pid chat.flag extra chat.message).relayPush
      (.chat name chat.message)
  else s

/-- Pass a chat line on: in the lobby to its recipients one by one,
later to everyone. -/
def relayChat (s : GameState) (pid : UInt8) (chat : ChatToHost) : GameState :=
  let toPids := s.chatRecipients pid chat
  match Outgoing.chatFromHost pid toPids chat.flag chat.extra chat.message with
  | some b =>
      if s.phase.beforeStart then toPids.foldl (fun s to' => s.sendTo to' b) s else s.broadcast b
  | none => s

/-- The part of `handle_chat_to_host` behind the slot requests: a
command, or a line to pass on. -/
def handleChatLine [RustStd] (s : GameState) (env : Env) (p : Player) (chat : ChatToHost) :
    GameState :=
  match parseCommand chat.message with
  | some cmd =>
      if !s.isOwner p.name ∧ !cmd.isPublic then
        s.sendChatTo p.pid (txt "You are not the owner of this game.")
      else s.runCommand env p.pid p.name cmd
  | none =>
      if (p.muted ∨ s.mutedAll) ∧ !s.isOwner p.name then s
      else
        let s := s.recordChat p.pid p.name chat
        if s.phase = .lobby ∧ s.muteLobby then s else s.relayChat p.pid chat

/-- `GameState::handle_chat_to_host`. -/
def handleChatToHost [RustStd] (s : GameState) (env : Env) (connId : Nat) (payload : List UInt8) :
    GameState :=
  match s.players.byConn connId with
  | none => s
  | some p =>
      match ChatToHost.decode payload with
      | .error _ => s
      | .ok chat =>
          if chat.fromPid ≠ p.pid then s
          else
            let s := if chat.message = txt "?trigger" then
                s.sendChatTo p.pid (txt "Command trigger: !")
              else s
            if 0x11 ≤ chat.flag ∧ chat.flag ≤ 0x14 then
              if s.phase = .lobby then s.editSlots (s.applySlotRequest p.pid chat.flag chat.byte)
              else s
            else s.handleChatLine env p chat

end GameState

end Spectre

/-
The paths of joining, coming back, leaving and map transfer (`Rejoin`,
`Transfer`).
-/
import Spectre.Effects

namespace Spectre

open GameState

variable [RustStd] {K : Kind → GameState → Prop}

-- ============================================================ taking a seat

omit [RustStd] in
/-- A FULL rejoin is of a seat that is held and not given up. -/
theorem fullRejoinSeat_spec {s : GameState} {connId : Nat} {name : Text} {pid : UInt8}
    (h : s.fullRejoinSeat connId name = some pid) :
    (s.phase = .playing ∨ s.phase = .loading) ∧
      ∃ p, s.players.byPid pid = some p ∧ p.disconnectedSince.isSome ∧ p.left = none := by
  unfold fullRejoinSeat at h
  split at h
  · rename_i hphase
    refine ⟨hphase, ?_⟩
    split at h
    · cases h
    split at h
    · cases h
    rename_i p hp
    split at h
    · rename_i hok
      rw [Option.some.inj h] at hp
      exact ⟨p, hp, hok.1, by simpa using hok.2.1⟩
    · cases h
  · cases h

/-- Packets told to a player of a game that has started. -/
theorem does_tellAll (hK : Plain K) {s : GameState} (pid : UInt8) {l : List Packet}
    (hphase : s.phase = .playing ∨ s.phase = .loading) (hl : ∀ b ∈ l, b.isW3gs = true) :
    Does K s (l.foldl (fun s b => s.sendTo pid b) s) := by
  induction l generalizing s with
  | nil => exact Does.refl s
  | cons b l ih =>
      have hone : Does K s (s.sendTo pid b) := Does.one (hK .tell rfl s) (.table rfl _
        (moves_modifyPid pid fun _ _ => .tell b (hl b List.mem_cons_self) fun _ => hphase))
      exact hone.trans (ih hphase fun b hb => hl b (List.mem_cons_of_mem _ hb))

omit [RustStd] in
/-- The packets of a handshake are the game's own. -/
theorem rejoinHandshake_isW3gs (s : GameState) (pid : UInt8) (port : Nat) (ip : Ip) :
    ∀ b ∈ s.rejoinHandshake pid port ip, b.isW3gs = true := by
  intro b hb
  unfold rejoinHandshake at hb
  rw [List.mem_append, List.mem_append, List.mem_filterMap, Option.mem_toList, Option.mem_toList]
    at hb
  rcases hb with (hb | ⟨q, -, hb⟩) | hb
  · exact Packet.build_isW3gs rfl b hb
  · exact Packet.build_isW3gs rfl b hb
  · exact Packet.build_isW3gs rfl b hb

/-- A client that restarted takes its seat again. -/
theorem does_fullRejoin (hK : Plain K) {s : GameState} {connId : Nat} {pid : UInt8} {name : Text}
    (hseat : s.fullRejoinSeat connId name = some pid) (hfull : K (.attachFull pid) s)
    (hcache : ∀ t, K .cache t) (req : ReqJoin) (ip : Ip) (link : PlayerLink)
    (hlink : link.sent = []) :
    Does K s (s.fullRejoin connId pid req ip link) := by
  obtain ⟨hphase, p, hp, hheld, hleft⟩ := fullRejoinSeat_spec hseat
  unfold fullRejoin
  dsimp only
  refine Does.trans ?_ (does_tellAll hK pid hphase (rejoinHandshake_isW3gs _ _ _ _))
  have hattach : Does K s
      { s with players := s.players.modifyPid pid fun p => p.attachFull connId link } := by
    refine Does.one hfull (.table rfl _ (moves_modifyPid pid fun q hq => ?_))
    rw [hp] at hq
    rw [← Option.some.inj hq, ← byPid_pid hp]
    exact .attachFull connId link hlink hheld hleft
  exact hattach.trans (Does.one (hcache _) (.cache _))

/-- A request to come back is refused, or is a re-attachment. -/
theorem does_handleGpsReconnect (hK : Plain K) {s : GameState} (connId : Nat) (req : ReconnectReq)
    (link : PlayerLink) (hlink : link.sent = [])
    (hgps : (s.handleGpsReconnect connId req link).2 = true → K (.attachGps req.pid) s) :
    Does K s (s.handleGpsReconnect connId req link).1 := by
  have hrefuse : ∀ b, Does K s (s.refuse connId b) :=
    fun b => Does.misc hK (by constructor <;> rfl) (by rfl)
  unfold handleGpsReconnect at hgps ⊢
  split
  · exact hrefuse _
  rename_i p hp
  rw [hp] at hgps
  dsimp only at hgps
  split
  · exact hrefuse _
  rename_i hkey
  rw [if_neg hkey] at hgps
  have hg : p.gproxy = true := by
    by_contra hg
    exact hkey (.inl (by simpa using hg))
  split
  · exact hrefuse _
  rename_i b hb
  rw [hb] at hgps
  dsimp only at hgps
  split
  · exact hrefuse _
  rename_i replay hreplay
  rw [hreplay] at hgps
  refine Does.one (hgps rfl) (.table rfl _ (moves_modifyPid req.pid fun q hq => ?_))
  rw [hp] at hq
  rw [← Option.some.inj hq, ← byPid_pid hp]
  exact .attachGps connId link hlink hg b hb req.lastPacket replay hreplay

/-- The watch over those who are held: notices go to all, and whose grace is
over is marked. -/
theorem does_reapGproxyTimeouts (hK : Plain K) (s : GameState) :
    Does K s (s.reapGproxyTimeouts s.cfg.reconnectWait) := by
  unfold reapGproxyTimeouts
  dsimp only
  refine Does.trans ?_ (Does.foldl _ (fun s _ _ => does_sendChatAll hK s _) _)
  exact Does.one (hK .expire rfl s) (.table rfl _ (moves_map fun _ _ => .expire))

-- ================================================================== joining

/-- A connection that waits no more. -/
theorem does_unpend {s : GameState} (hq : K .queue s) (connId : Nat) : Does K s (s.unpend connId) :=
  Does.one hq (.queue _ fun _ he => .inl (List.mem_of_mem_eraseP he))

omit [RustStd] in
/-- Sends on the bare link change the link only. -/
theorem sendAll_eq (p : Player) (l : List Packet) :
    ∃ link, l.foldl Player.sendDirect p = { p with link := link } := by
  induction l generalizing p with
  | nil => exact ⟨p.link, rfl⟩
  | cons b l ih =>
      obtain ⟨link, h⟩ := ih (p.sendDirect b)
      exact ⟨link, h⟩

omit [RustStd] in
/-- A slot the search stops at is open. -/
theorem slotFree_spec {s : GameState} {i : Nat}
    (h : (match s.slots[i]? with
      | some slot => slot.slotStatus == slotOpen && !s.holds.any fun h => h.1 == i.toUInt8
      | none => false) = true) :
    ∃ slot, s.slots[i]? = some slot ∧ slot.slotStatus = slotOpen := by
  cases hslot : s.slots[i]? with
  | none =>
      rw [hslot] at h
      cases h
  | some slot =>
      rw [hslot, Bool.and_eq_true] at h
      exact ⟨slot, rfl, by simpa using h.1⟩

/-- The slot a joining client gets is open, if its index is a slot
id. -/
theorem joinSlot_isOpen {s : GameState} {name : Text} {sid : UInt8}
    (h : s.joinSlot name = some sid) (hlen : s.slots.length ≤ 256) : s.slots.isOpen sid = true := by
  have hfree : ∀ q : Nat → Bool, (∀ i, q i = true → ∃ slot, s.slots[i]? = some slot
      ∧ slot.slotStatus = slotOpen) →
      ((List.range s.slots.length).find? q).map Nat.toUInt8 = some sid →
      s.slots.isOpen sid = true := by
    intro q hq hfind
    obtain ⟨i, hi, rfl⟩ := Option.map_eq_some_iff.1 hfind
    have hlt := List.mem_range.1 (List.mem_of_find?_eq_some hi)
    obtain ⟨slot, hslot, hopen⟩ := hq i (List.find?_some hi)
    have hidx : i.toUInt8.toNat = i := by
      rw [Nat.toUInt8_eq, UInt8.toNat_ofNat']
      omega
    unfold SlotTable.isOpen
    rw [hidx, hslot]
    simp [hopen]
  unfold joinSlot at h
  dsimp only at h
  split at h
  · split at h
    · rename_i hopen
      rw [← Option.some.inj h]
      exact hopen
    · exact hfree _ (fun i hi => slotFree_spec hi) h
  · exact hfree _ (fun i hi => slotFree_spec hi) h

omit [RustStd] in
/-- A packet to the others changes no phase and no virtual host. -/
theorem sendOthersDirect?_frame (s : GameState) (pid : UInt8) (b : Option Packet) :
    (s.sendOthersDirect? pid b).phase = s.phase ∧ SameHost s (s.sendOthersDirect? pid b) := by
  cases b with
  | none => exact ⟨rfl, rfl, rfl, rfl⟩
  | some b => exact ⟨rfl, rfl, rfl, rfl⟩

/-- A newcomer is seated, is sent the game as it stands, and is announced;
then the virtual host makes room if the table is full. -/
theorem does_seatPlayer (hK : Plain K) {s : GameState} (hseat : K .seat s)
    (hunhost : ∀ t, SameHost s t → t.phase = .lobby → K .unhost t)
    (hlobby : s.phase = .lobby) (sid : UInt8) (player : Player) (hp : Newcomer player)
    (hfree : Vacancy s sid player.pid)
    (hjoin : ∃ b, player.link.sent = [⟨b, .personal⟩] ∧ b.isJoin = true) :
    Does K s ((s.setSlots (s.slots.occupySlot sid player.pid).1).seatPlayer player) := by
  unfold seatPlayer
  dsimp only
  -- the packets sent on the link of the newcomer do not change who it is
  have hburst : (s.setSlots (s.slots.occupySlot sid player.pid).1).joinBurst player
      = s.joinBurst player := rfl
  rw [hburst]
  obtain ⟨link, hlink⟩ := sendAll_eq player (s.joinBurst player)
  have hinfo : (Packet.playerInfo ((s.joinBurst player).foldl Player.sendDirect player).pid
      ((s.joinBurst player).foldl Player.sendDirect player).name
      ((s.joinBurst player).foldl Player.sendDirect player).externalIp
      ((s.joinBurst player).foldl Player.sendDirect player).internalIp).build
      = (Packet.playerInfo player.pid player.name player.externalIp player.internalIp).build := by
    rw [hlink]
  have hpid : ((s.joinBurst player).foldl Player.sendDirect player).pid = player.pid := by
    rw [hlink]
  rw [hinfo, hpid]
  generalize hb : (Packet.playerInfo player.pid player.name player.externalIp
    player.internalIp).build = info
  have hone := Does.one hseat (Step.seat sid player hlobby hfree hp hjoin info hb.symm)
  have hframe := sendOthersDirect?_frame ({ s with
    slots := (s.slots.occupySlot sid player.pid).1
    players := s.players ++ [(s.joinBurst player).foldl Player.sendDirect player] } : GameState)
    player.pid info
  generalize hs₁ : (({ s with
    slots := (s.slots.occupySlot sid player.pid).1
    players := s.players ++ [(s.joinBurst player).foldl Player.sendDirect player] }
      : GameState).sendOthersDirect? player.pid info) = s₁ at hone hframe
  have hs₂ : (({ s.setSlots (s.slots.occupySlot sid player.pid).1 with
      players := (s.setSlots (s.slots.occupySlot sid player.pid).1).players
        ++ [(s.joinBurst player).foldl Player.sendDirect player] }
      : GameState).sendOthersDirect? player.pid info) = s₁ := hs₁
  rw [hs₂]
  have hslot := hone.trans (does_sendAllSlotInfo hK _)
  split
  · have h := broadcast?_sameHost s₁ (Packet.slotInfo s₁.slots s₁.randomSeed
      s₁.cfg.map.layoutStyle s₁.cfg.map.numPlayers).build
    have hphase : s₁.sendAllSlotInfo.phase = .lobby :=
      (broadcast?_phase s₁ _).trans (hframe.1.trans hlobby)
    refine hslot.trans (does_deleteVirtualHost (hunhost _ ⟨?_, ?_, ?_⟩ hphase) (.inl hphase))
    · exact h.virtualHostPid.trans hframe.2.virtualHostPid
    · exact h.fakePlayerPid.trans hframe.2.fakePlayerPid
    · exact h.referred.trans hframe.2.referred
  · exact hslot

/-- A join that is let in seats a newcomer; one that is not is sent away. -/
theorem does_joinLobby (hK : Plain K) {s : GameState} (hseat : K .seat s) (hbounce : K .bounce s)
    (hunhost : ∀ t, SameHost s t → t.phase = .lobby → K .unhost t)
    (hlobby : s.phase = .lobby) (key : UInt32) (connId : Nat) (link : PlayerLink)
    (hlink : link.sent = []) (ip : Ip) (req : ReqJoin) :
    Does K s (s.joinLobby key connId link ip req) := by
  have hrefuse : ∀ b, Does K s (s.refuse connId b) :=
    fun b => Does.misc hK (by constructor <;> rfl) (by rfl)
  unfold joinLobby
  split
  · exact hrefuse _
  split
  · rename_i sid pid hsid hpid
    have hfree : Vacancy s sid pid :=
      ⟨nextFreePid_fresh hpid, nextFreePid_pos hpid, joinSlot_isOpen hsid⟩
    -- where the welcome cannot be sent the slot is given back
    have hback : Does K s ((s.setSlots (s.slots.occupySlot sid pid).1).setSlots
        ((s.slots.occupySlot sid pid).1.release pid).1) :=
      Does.one hbounce (.bounce sid pid hlobby hfree)
    dsimp only
    split
    · rename_i b hb
      split
      · rename_i hroom
        generalize hp : (s.setSlots (s.slots.occupySlot sid pid).1).newPlayer connId link ip req pid
          key = player at hroom
        have hpid' : player.pid = pid := by
          rw [← hp]
          rfl
        have hsent : player.link.sent = [] := by
          rw [← hp]
          exact hlink
        have hnew : Newcomer player := by
          -- nothing was broadcast on this link before the welcome
          have hpersonal : ∀ e ∈ player.link.sent, e.via = .personal := by
            rw [hsent]
            exact fun e he => nomatch he
          rw [← hp] at hpersonal ⊢
          exact ⟨rfl, rfl, rfl, rfl, rfl, rfl, rfl, rfl, rfl, hpersonal, rfl, rfl, rfl,
            (by decide : leaveLobby < 2 ^ 32)⟩
        have hseated := does_seatPlayer hK hseat hunhost hlobby sid (player.sendDirect b)
          (hnew.sendDirect b) (by rw [show (player.sendDirect b).pid = pid from hpid']; exact hfree)
          ⟨b, ?_, ?_⟩
        · rwa [show (player.sendDirect b).pid = pid from hpid'] at hseated
        · have hpush := PlayerLink.push_sent_room (l := player.link) ⟨b, .personal⟩ hroom
          rw [hsent] at hpush
          exact hpush
        · rw [Packet.build_eq_some hb]
          rfl
      · exact hback
    · exact hback
  · exact hrefuse _

/-- A join request, as fine steps. -/
theorem does_handleReqJoin (hK : Plain K) {s : GameState} (hs : WellFormed s)
    (hqueue : K .queue s) (hcache : ∀ t, K .cache t)
    (hseat : s.phase = .lobby → ∀ t, t.players = s.players → K .seat t)
    (hbounce : s.phase = .lobby → ∀ t, K .bounce t)
    (hunhost : ∀ t, SameHost s t → t.phase = .lobby → K .unhost t) (key : UInt32)
    (connId : Nat) (payload : List UInt8)
    (hfull : (s.pending.any fun e => e.connId == connId) = true →
      ∀ req pid, ReqJoin.decode payload = .ok req →
      s.fullRejoinSeat connId req.name = some pid → K (.attachFull pid) (s.unpend connId)) :
    Does K s (s.handleReqJoin key connId payload) := by
  unfold handleReqJoin
  split
  · exact Does.refl s
  rename_i e he
  have hlink : e.link.sent = [] := hs.pending e (List.mem_of_find?_eq_some he)
  have hpend : (s.pending.any fun e => e.connId == connId) = true := by
    have hconn := List.find?_some he
    exact List.any_eq_true.2 ⟨e, List.mem_of_find?_eq_some he, hconn⟩
  have hq := does_unpend hqueue connId
  dsimp only
  split
  · exact hq
  rename_i req hreq
  split
  · -- not in the lobby: a FULL rejoin, or nothing
    split
    · rename_i t ht
      unfold tryFullRejoin at ht
      obtain ⟨pid, hpid, rfl⟩ := Option.map_eq_some_iff.1 ht
      exact hq.trans (does_fullRejoin hK hpid (hfull hpend req pid hreq hpid) hcache req _ _ hlink)
    · exact hq.trans (Does.misc hK (by constructor <;> rfl) (by rfl))
  · rename_i hphase
    have hlobby : (s.unpend connId).phase = .lobby := by simpa using hphase
    refine hq.trans (does_joinLobby (s := s.unpend connId) hK (hseat hlobby _ rfl)
      (hbounce hlobby _) ?_ hlobby key connId _ hlink _ _)
    exact fun t ht hph => hunhost t ⟨ht.virtualHostPid, ht.fakePlayerPid, ht.referred⟩ hph

-- ================================================================== leaving

/-- Connections that wait no more. -/
theorem does_dropPending {s : GameState} (hqueue : K .queue s) (q : Pending → Bool) :
    Does K s { s with pending := s.pending.filter q } :=
  Does.one hqueue (.queue _ fun _ he => .inl (List.mem_of_mem_filter he))

omit [RustStd] in
/-- The code of a leaver that the engine chooses itself fits its
field. -/
theorem leaveCode_lt (s : GameState) {afterStart : Nat} (h : afterStart < 2 ^ 32) :
    s.leaveCode afterStart < 2 ^ 32 := by
  unfold leaveCode
  split
  · decide
  · exact h

/-- A player that leaves is marked; a connection that waits is dropped. -/
theorem does_handleLeave (hK : Plain K) {s : GameState} (hqueue : K .queue s) (connId code : Nat) :
    Does K s (s.handleLeave connId code) := by
  unfold handleLeave
  split
  · exact Does.one (hK .leave rfl s)
      (.table rfl _ (moves_modifyConn connId fun _ _ =>
        .leave _ _ rfl (by simp) (leaveCode_lt s (by decide))))
  · exact does_dropPending hqueue _

/-- A closed connection: the player is held or marked, and what waits on it
is dropped. -/
theorem does_handleConnClosed (hK : Plain K) {s : GameState} (hcache : K .cache s)
    (hqueue : ∀ t, K .queue t) (connId : Nat) (reason : Text) :
    Does K s (s.handleConnClosed connId reason) := by
  unfold handleConnClosed
  dsimp only
  have hforget : Does K s (s.forgetFull connId) := Does.one hcache (.cache _)
  split
  · exact hforget.trans (Does.one (hK .hold rfl _)
      (.table rfl _ (moves_modifyConn connId fun _ _ => .hold _ _ (leaveCode_lt _ (by decide)))))
  · exact hforget.trans (does_dropPending (hqueue _) _)

-- ============================================================== map transfer

/-- The downloads change; those who download are there. -/
theorem does_downloads (hK : Plain K) {s : GameState} (ds : List Download)
    (h : ∀ pid ∈ ds.map Download.pid, pid ∈ s.downloads.map Download.pid
      ∨ ∃ p ∈ s.players, p.pid = pid) : Does K s { s with downloads := ds } := by
  refine Does.one (hK .refer rfl s)
    (.refer s.votekickTarget s.votekickVotes s.startVotes s.drawVotes ds fun pid hpid => ?_)
  rcases List.mem_append.1 hpid with hpid | hpid
  · exact .inl (List.mem_append_left _ hpid)
  · exact (h pid hpid).imp (List.mem_append_right _) id

/-- The player a map report gets dropped, if it does: it has not got
the map, and cannot have it from here. -/
def GameState.lacksMap (s : GameState) (connId : Nat) (payload : List UInt8) : Option UInt8 :=
  match s.players.byConn connId, MapSizeReport.decode payload with
  | some q, .ok (_, mapSize) =>
      if (s.players.byPid q.pid).map Player.rejoin ≠ some .awaitingMapSize
        ∧ ¬s.cfg.map.size.toNat ≤ mapSize ∧ (s.cfg.map.data.isNone ∨ s.cfg.allowDownloads = 0)
      then some q.pid else none
  | _, _ => none

/-- A map report, as fine steps and a reaping. -/
theorem does_handleMapSize (hK : Plain K) {s : GameState} (hs : WellFormed s) (connId : Nat)
    (payload : List UInt8)
    (hreap : ∀ pid, s.lacksMap connId payload = some pid →
      WellFormed (s.kickPlayer pid .lacksMap leaveDisconnect) →
      Does K (s.kickPlayer pid .lacksMap leaveDisconnect)
        (s.kickPlayer pid .lacksMap leaveDisconnect).reapLeftPlayers) :
    Does K s (s.handleMapSize connId payload) := by
  unfold handleMapSize
  split
  · exact Does.refl s
  rename_i q hq
  dsimp only
  split
  · rename_i h
    -- a rejoiner gets the countdown again and is asked to load
    have htell := (does_sendTo hK s q.pid (b := .countdownStart) rfl).trans
      (does_sendTo hK _ q.pid (b := .countdownEnd) rfl)
    refine htell.trans (Does.one (hK .answer rfl _)
      (.table rfl _ (moves_modifyPid q.pid fun p hp => .answer ?_)))
    have hkeep := byPid_tellAll_rejoin s q.pid q.pid [.countdownStart, .countdownEnd]
    rw [List.foldl_cons, List.foldl_cons, List.foldl_nil, hp, h] at hkeep
    exact Option.some.inj hkeep
  rename_i hstage
  split
  · exact Does.refl s
  rename_i crc mapSize hsize
  split
  · exact does_note_pid hK s q.pid fun p => by constructor <;> rfl
  rename_i hsmall
  split
  · rename_i hnone
    -- where the map cannot be sent the player is kicked on the spot
    have hkick := does_kickPlayer hK s q.pid .lacksMap leaveDisconnect rfl (by simp)
      (by decide)
    have hlacks : s.lacksMap connId payload = some q.pid := by
      simp only [lacksMap, hq, hsize]
      exact if_pos ⟨hstage, hsmall, hnone⟩
    refine hkick.trans (hreap q.pid hlacks ?_)
    exact (Step.table rfl _ (moves_modifyPid (k := .leave) q.pid fun _ _ =>
      .leave _ _ rfl (by simp) (by decide))).wellFormed rfl hs
  split
  · exact Does.refl s
  split
  · exact Does.refl s
  · -- the download starts for the player who asked, who is at the table
    refine Does.trans (does_downloads hK (s.downloads ++ [⟨q.pid, _, _, s.now⟩]) ?_)
      (does_sendTo hK _ q.pid rfl)
    intro pid hpid
    rw [List.map_append, List.mem_append] at hpid
    rcases hpid with hpid | hpid
    · exact .inl hpid
    · exact .inr ⟨q, List.mem_of_find?_eq_some hq, (List.mem_singleton.1 hpid).symm⟩

/-- How far a download is, also in the slot of the player. -/
theorem does_setDownload (hK : Plain K) (s : GameState) (pid : UInt8) (f : Download → Download)
    (hf : ∀ d, (f d).pid = d.pid) (pos : Nat) :
    Does K s ((s.modifyDownload pid f).setDownloadStatus pid pos) := by
  have hdown : Does K s (s.modifyDownload pid f) := by
    refine does_downloads hK _ fun q hq => .inl ?_
    rwa [Lib.map_updateFirst fun d _ => hf d] at hq
  exact hdown.trans (does_note_pid hK _ pid fun p => by constructor <;> rfl)

/-- The client has a part of the map. -/
theorem does_handleMapPartOk (hK : Plain K) (s : GameState) (connId : Nat) (payload : List UInt8) :
    Does K s (s.handleMapPartOk connId payload) := by
  unfold handleMapPartOk
  split
  · refine does_setDownload hK s _ _ ?_ _
    exact fun _ => rfl
  · exact Does.refl s

/-- The client wants a part of the map again. -/
theorem does_handleMapPartNotOk (hK : Plain K) (s : GameState) (connId : Nat)
    (payload : List UInt8) : Does K s (s.handleMapPartNotOk connId payload) := by
  unfold handleMapPartNotOk
  split
  · refine does_setDownload hK s _ _ ?_ _
    exact fun _ => rfl
  · exact Does.refl s

/-- The answer to a ping gives the player its delay. -/
theorem does_handlePong (hK : Plain K) (s : GameState) (connId : Nat) (payload : List UInt8) :
    Does K s (s.handlePong connId payload) := by
  unfold handlePong
  split
  · exact Does.refl s
  split
  · exact Does.refl s
  dsimp only
  have hnote := fun ping => does_note_conn hK s connId (f := fun p => p.recordPing ping)
    fun p => by constructor <;> rfl
  split
  · exact hnote _
  split
  · exact (hnote _).trans (does_kickPlayer hK _ _ _ _ rfl (by simp) (by decide))
  · exact hnote _

/-- Who lags may be dropped, once all have asked for it. -/
theorem does_handleDropRequest (hK : Plain K) (s : GameState) :
    Does K s s.handleDropRequest := by
  unfold handleDropRequest
  split
  · exact Does.refl s
  · exact Does.foldl _ (fun s pid _ => does_kickPlayer hK s pid _ _ rfl (by simp) (by decide)) s

/-- What a download has come to goes to the log. -/
theorem does_logDownload (hK : Plain K) (s : GameState) (total : Nat) (d : Download) :
    Does K s (s.logDownload total d) := by
  unfold logDownload
  split
  · exact does_storePush hK s _
  · exact Does.refl s

omit [RustStd] in
/-- Logging them does not change the downloads. -/
theorem logDownloads_downloads (total : Nat) (l : List Download) (s : GameState) :
    (l.foldl (fun s d => s.logDownload total d) s).downloads = s.downloads := by
  induction l generalizing s with
  | nil => rfl
  | cons d l ih =>
      rw [List.foldl_cons, ih]
      unfold logDownload
      split <;> rfl

/-- A second is over: the bytes are counted anew. -/
theorem does_resetDownloadCounter (hK : Plain K) (s : GameState) :
    Does K s s.resetDownloadCounter := by
  unfold resetDownloadCounter
  split
  · exact Does.misc hK (by constructor <;> rfl) (by rfl)
  · exact Does.refl s

omit [RustStd] in
/-- Parts of the map have no meaning of their own for the game. -/
theorem burst_isOrdinary (hostPid : UInt8) (d : Download) (data : List UInt8)
    (limit maxSpeed fuel pos counter : Nat) :
    ∀ b ∈ (burst hostPid d data limit maxSpeed fuel pos counter).2.2, b.2.isOrdinary = true := by
  induction fuel generalizing pos counter with
  | zero => exact fun b hb => nomatch hb
  | succ fuel ih =>
      unfold burst
      split
      · dsimp only
        split
        · rename_i b hb
          intro e he
          rcases List.mem_cons.1 he with rfl | he
          · exact Packet.build_isOrdinary rfl b hb
          · exact ih _ _ e he
        · exact fun b hb => nomatch hb
      · exact fun b hb => nomatch hb

omit [RustStd] in
/-- Nor has what all the downloads are sent. -/
theorem pumpLoop_isOrdinary (hostPid : UInt8) (data : List UInt8) (maxDownloaders maxSpeed : Nat)
    (ds : List Download) (served counter : Nat) :
    ∀ b ∈ (pumpLoop hostPid data maxDownloaders maxSpeed ds served counter).2.2,
      b.2.isOrdinary = true := by
  induction ds generalizing served counter with
  | nil => exact fun b hb => nomatch hb
  | cons d ds ih =>
      unfold pumpLoop
      split
      · exact ih _ _
      split
      · exact fun b hb => nomatch hb
      · dsimp only
        intro e he
        rcases List.mem_append.1 he with he | he
        · exact burst_isOrdinary _ _ _ _ _ _ _ _ e he
        · exact ih _ _ e he

omit [RustStd] in
/-- The loop over the downloads keeps who downloads. -/
theorem pumpLoop_pids (hostPid : UInt8) (data : List UInt8) (maxDownloaders maxSpeed : Nat)
    (ds : List Download) (served counter : Nat) :
    (pumpLoop hostPid data maxDownloaders maxSpeed ds served counter).1.map Download.pid
      = ds.map Download.pid := by
  induction ds generalizing served counter with
  | nil => rfl
  | cons d ds ih =>
      unfold pumpLoop
      split
      · dsimp only
        rw [List.map_cons, List.map_cons, ih]
      split
      · rfl
      · dsimp only
        rw [List.map_cons, List.map_cons, ih]

/-- One round of sending the map. -/
theorem does_pumpData (hK : Plain K) (s : GameState) (data : List UInt8) :
    Does K s (s.pumpData data) := by
  unfold pumpData
  dsimp only
  have hparts := pumpLoop_isOrdinary s.hostPid data s.cfg.maxDownloaders
    (s.cfg.maxDownloadSpeed * 1024) s.downloads 0 s.downloadCounter
  have hpids := pumpLoop_pids s.hostPid data s.cfg.maxDownloaders
    (s.cfg.maxDownloadSpeed * 1024) s.downloads 0 s.downloadCounter
  generalize pumpLoop s.hostPid data s.cfg.maxDownloaders (s.cfg.maxDownloadSpeed * 1024)
    s.downloads 0 s.downloadCounter = r at hparts hpids
  obtain ⟨ds, counter, parts⟩ := r
  dsimp only at hparts hpids ⊢
  refine Does.trans ?_ (Does.foldl parts (fun s b hb => does_sendTo hK s b.1 (hparts b hb)) _)
  have hlog : Does K s ((ds.filter fun d => decide (data.length % 2 ^ 32 ≤ d.ackedUpto)).foldl
      (fun s d => s.logDownload (data.length % 2 ^ 32) d) s) :=
    Does.foldl _ (fun s d _ => does_logDownload hK s _ d) s
  have hsame := logDownloads_downloads (data.length % 2 ^ 32)
    (ds.filter fun d => decide (data.length % 2 ^ 32 ≤ d.ackedUpto)) s
  generalize ((ds.filter fun d => decide (data.length % 2 ^ 32 ≤ d.ackedUpto)).foldl
    (fun s d => s.logDownload (data.length % 2 ^ 32) d) s) = s₁ at hlog hsame
  refine (hlog.trans (does_downloads hK (ds.filter fun d =>
    decide (d.ackedUpto < data.length % 2 ^ 32)) fun pid hpid => .inl ?_)).trans
    (Does.misc hK (by constructor <;> rfl) (by rfl))
  rw [hsame, ← hpids]
  exact (List.filter_sublist.map _).subset hpid

/-- The same, in a lobby with a map to send. -/
theorem does_pumpDownloads (hK : Plain K) (s : GameState) : Does K s s.pumpDownloads := by
  unfold pumpDownloads
  split
  · exact Does.refl s
  split
  · exact does_downloads hK [] fun pid hpid => nomatch hpid
  · exact (does_resetDownloadCounter hK s).trans (does_pumpData hK _ _)

end Spectre

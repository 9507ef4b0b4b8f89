/-
What a lobby client knows of the others.

A client learns of another player by PLAYER_INFO and forgets it at
PLAYER_LEAVE_OTHERS; `roster` is what the packets on its link add up
to. The announcements come from four places: the join burst tells a
newcomer of everyone, bare sends tell everyone of a newcomer, and
broadcasts tell of the fake player, of the virtual host and of whoever
goes. Ids are given out again, so an announcement may overwrite and a
withdrawal must come before the id is taken.

`Agreed` is the invariant of every small step before the start, for the
players that hear everything (`Attentive`). A player that is marked
left hears nothing more, so between two iterations one has to know that
the reaper leaves no marked player whose link is sound (`Cut`).
-/
import Mathlib.Data.List.Induction
import Spectre.Seats

namespace Spectre

open GameState

-- ================================================================= the roster

/-- Who a client thinks is in the game. -/
abbrev Roster := UInt8 → Option Text

/-- What a client makes of one packet. -/
def Roster.enroll (r : Roster) : Packet → Roster
  | .playerInfo pid name _ _ => Function.update r pid (some name)
  | .playerLeaveOthers pid _ => Function.update r pid none
  | _ => r

/-- What a client makes of all the packets it was sent. -/
def roster (l : List Packet) : Roster := l.foldl Roster.enroll fun _ => none

namespace Roster

variable {r r' : Roster} {b : Packet} {pid : UInt8}

/-- Only the packets about the roster matter. -/
theorem enroll_of_not_isRoster (r : Roster) (h : b.isRoster = false) : r.enroll b = r := by
  cases b <;> first | rfl | cases h

/-- What a client thinks of one id does not depend on the others. -/
theorem enroll_congr (h : r pid = r' pid) (b : Packet) : r.enroll b pid = r'.enroll b pid := by
  cases b with
  | playerInfo q name ext int =>
      show Function.update r q _ pid = Function.update r' q _ pid
      by_cases hq : pid = q
      · rw [hq, Function.update_self, Function.update_self]
      · rw [Function.update_of_ne hq, Function.update_of_ne hq, h]
  | playerLeaveOthers q code =>
      show Function.update r q _ pid = Function.update r' q _ pid
      by_cases hq : pid = q
      · rw [hq, Function.update_self, Function.update_self]
      · rw [Function.update_of_ne hq, Function.update_of_ne hq, h]
  | _ => exact h

/-- The effect of a packet that may not have been built. -/
def enroll? (r : Roster) : Option Packet → Roster
  | some b => r.enroll b
  | none => r

/-- What a packet makes of one entry depends on that entry. -/
theorem enroll?_congr (h : r pid = r' pid) (b : Option Packet) :
    r.enroll? b pid = r'.enroll? b pid := by
  cases b with
  | none => exact h
  | some b => exact enroll_congr h b

end Roster

/-- One packet more. -/
theorem roster_concat (l : List Packet) (b : Packet) : roster (l ++ [b]) = (roster l).enroll b := by
  unfold roster
  rw [List.foldl_append]
  rfl

/-- Whether the PLAYER_INFO of this name can be built. -/
def announceable (name : Text) : Bool := (Packet.playerInfo 0 name Ip.zero Ip.zero).fits

/-- Only the name decides whether a PLAYER_INFO fits. -/
theorem fits_playerInfo (pid : UInt8) (name : Text) (ext int : Ip) :
    (Packet.playerInfo pid name ext int).fits = announceable name := by
  unfold announceable Packet.fits
  simp [Packet.payload, Packet.cstring, Ip.bytes, u32le, u16le]

/-- Whether the name is short enough is all that matters. -/
theorem build_playerInfo (pid : UInt8) (name : Text) (ext int : Ip) :
    (Packet.playerInfo pid name ext int).build
      = if announceable name then some (.playerInfo pid name ext int) else none := by
  unfold Packet.build
  rw [fits_playerInfo]

/-- Who can be announced of the players at the table. -/
def PlayerTable.announced (t : PlayerTable) : Roster := fun pid =>
  ((t.byPid pid).map Player.name).filter announceable

-- ==================================================================== hearing

/-- No send on this link failed. -/
def PlayerLink.Smooth (l : PlayerLink) : Prop := ∀ n < l.tries, l.finds n = .room

/-- No send failed if this one did not and none before it. -/
theorem PlayerLink.smooth_push {l : PlayerLink} {e : Sent} :
    (l.push e).Smooth ↔ l.Smooth ∧ l.next = .room := by
  unfold PlayerLink.Smooth
  rw [push_tries, push_finds]
  constructor
  · intro h
    exact ⟨fun n hn => h n (Nat.lt_succ_of_lt hn), h l.tries (Nat.lt_succ_self _)⟩
  · rintro ⟨h, hnext⟩ n hn
    rcases Nat.lt_succ_iff_lt_or_eq.1 hn with hn | rfl
    · exact h n hn
    · exact hnext

namespace Player

/-- The packets enqueued for the player. -/
def heard (p : Player) : List Packet := p.link.sent.map Sent.packet

/-- The player's link is the one its REQ_JOIN was answered on. -/
def joined (p : Player) : Bool := (p.heard.head?.map Packet.isJoin).getD false

/-- A client seated by REQ_JOIN that has stayed connected and whose
sends all found room. -/
structure Attentive (p : Player) : Prop where
  virtualHost : p.virtualHost = false
  left : p.left = none
  disconnectedSince : p.disconnectedSince = none
  joined : p.joined = true
  smooth : p.link.Smooth

end Player

/-- `q` is `p` after it was offered `b`, if it hears everything. -/
structure Told (b : Option Packet) (p q : Player) : Prop where
  pid : q.pid = p.pid
  name : q.name = p.name
  rejoin : q.rejoin = p.rejoin
  catchupCursor : q.catchupCursor = p.catchupCursor
  heard : q.Attentive → p.Attentive ∧ roster q.heard = (roster p.heard).enroll? b

/-- Nothing was offered. -/
theorem Told.refl (p : Player) : Told none p p := ⟨rfl, rfl, rfl, rfl, fun h => ⟨h, rfl⟩⟩

/-- A packet on a link that found room. -/
theorem heard_push {p q : Player} {b : Packet} {via : Via} (hlink : q.link = p.link.push ⟨b, via⟩)
    (hroom : p.link.next = .room) : q.heard = p.heard ++ [b] := by
  unfold Player.heard
  rw [hlink, PlayerLink.push_sent_room _ hroom, List.map_append]
  rfl

/-- A send of a packet that is not SLOT_INFO_JOIN. -/
theorem Told.of_push {p q : Player} {b : Packet} {via : Via}
    (hlink : q.link = p.link.push ⟨b, via⟩) (hb : b.isJoin = false) (hpid : q.pid = p.pid)
    (hname : q.name = p.name) (hrejoin : q.rejoin = p.rejoin)
    (hcursor : q.catchupCursor = p.catchupCursor) (hhost : q.virtualHost = p.virtualHost)
    (hleft : q.left = none → p.left = none)
    (hdisc : q.disconnectedSince = none → p.disconnectedSince = none) : Told (some b) p q := by
  refine ⟨hpid, hname, hrejoin, hcursor, fun hq => ?_⟩
  have hsmooth := hq.smooth
  rw [hlink, PlayerLink.smooth_push] at hsmooth
  have hheard := heard_push hlink hsmooth.2
  have hjoined : p.joined = true := by
    have hj := hq.joined
    unfold Player.joined at hj ⊢
    rw [hheard] at hj
    cases hp : p.heard with
    | nil =>
        rw [hp] at hj
        exact absurd hj (by simp [hb])
    | cons a l =>
        rw [hp] at hj
        exact hj
  refine ⟨⟨hhost ▸ hq.virtualHost, hleft hq.left, hdisc hq.disconnectedSince, hjoined, hsmooth.1⟩,
    ?_⟩
  rw [hheard, roster_concat]
  rfl

/-- A send, whatever it meets. -/
theorem Told.deliver {p : Player} (now : Nat) {b : Packet} (via : Via) (hb : b.isJoin = false) :
    Told (some b) p (p.deliver now b via) := by
  have hk := p.kept_deliver now b via
  refine Told.of_push (p.deliver_fields now b via).2.2 hb hk.pid hk.name hk.rejoin
    (p.deliver_fields now b via).2.1 hk.virtualHost (fun h => ?_) fun h => ?_
  · rcases p.deliver_left now b via with he | he | ⟨-, he⟩
    · exact he.symm.trans h
    · rw [he] at h
      cases h
    · rw [he] at h
      cases h
  · rcases p.deliver_disconnectedSince now b via with he | ⟨-, he⟩
    · exact he.symm.trans h
    · rw [he] at h
      exact (Option.or_eq_none_iff.1 h).1

/-- A send of the join itself. -/
theorem Told.sendDirect {p : Player} {b : Packet} (hb : b.isJoin = false) :
    Told (some b) p (p.sendDirect b) :=
  Told.of_push rfl hb rfl rfl rfl rfl rfl id id

/-- The buffer is no part of what is heard. -/
theorem Told.of_buffer {p q : Player} {b : Option Packet} {c : Packet} (h : Told b (p.buffer c) q) :
    Told b p q :=
  ⟨h.pid, h.name, h.rejoin, h.catchupCursor, fun hq => by
    obtain ⟨hp, hr⟩ := h.heard hq
    exact ⟨⟨hp.virtualHost, hp.left, hp.disconnectedSince, hp.joined, hp.smooth⟩, hr⟩⟩

/-- A broadcast reaches a player that is not in the catch-up. -/
theorem Told.hear {p : Player} (now : Nat) {b : Packet} (seq : Option Nat) (hb : b.isJoin = false)
    (hrejoin : p.rejoin = .none) (hcursor : p.catchupCursor = none) :
    Told (some b) p (p.hear now b seq) := by
  have hk := p.kept_hear now b seq
  have hup := (p.hear_catchUp now b seq).1
  rcases p.hear_cases now b seq with ⟨hgone, he⟩ | ⟨-, -, hheld, he⟩ | ⟨-, -, -, -, -, he⟩
  · refine ⟨hk.pid, hk.name, hk.rejoin, hup, fun hq => ?_⟩
    rw [he] at hq
    rcases hgone with hl | hv
    · rw [hq.left] at hl
      cases hl
    · rw [hq.virtualHost] at hv
      cases hv
  · refine ⟨hk.pid, hk.name, hk.rejoin, hup, fun hq => ?_⟩
    rw [he] at hq
    have hdisc : p.disconnectedSince = none := hq.disconnectedSince
    rw [hrejoin, hcursor, hdisc] at hheld
    rcases hheld with h | h | h
    · exact absurd rfl h
    · cases h
    · cases h
  · rw [he]
    exact (Told.deliver now _ hb).of_buffer

/-- A packet that is not about the roster leaves no trace in it. -/
theorem Told.ordinary {p q : Player} {b : Packet} (h : Told (some b) p q)
    (hb : b.isRoster = false) :
    Told none p q := by
  refine ⟨h.pid, h.name, h.rejoin, h.catchupCursor, fun hq => ?_⟩
  obtain ⟨hp, hr⟩ := h.heard hq
  exact ⟨hp, hr.trans (Roster.enroll_of_not_isRoster _ hb)⟩

/-- What is not about the roster is no answer to a join. -/
theorem Packet.isJoin_of_not_isRoster {b : Packet} (h : b.isRoster = false) : b.isJoin = false := by
  cases b <;> first | rfl | cases h

/-- A change that leaves the link alone, and takes back no mark and no
absence. -/
theorem Told.of_link {p q : Player} (hlink : q.link = p.link) (hpid : q.pid = p.pid)
    (hname : q.name = p.name) (hrejoin : q.rejoin = p.rejoin)
    (hcursor : q.catchupCursor = p.catchupCursor) (hhost : q.virtualHost = p.virtualHost)
    (hleft : q.left = none → p.left = none)
    (hdisc : q.left = none → q.disconnectedSince = none → p.disconnectedSince = none) :
    Told none p q := by
  have hheard : q.heard = p.heard := by
    unfold Player.heard
    rw [hlink]
  refine ⟨hpid, hname, hrejoin, hcursor, fun hq => ⟨?_, congrArg roster hheard⟩⟩
  refine ⟨hhost ▸ hq.virtualHost, hleft hq.left, hdisc hq.left hq.disconnectedSince, ?_,
    hlink ▸ hq.smooth⟩
  unfold Player.joined
  rw [← hheard]
  exact hq.joined

/-- Who is marked need not hear anything. -/
theorem Told.of_marked {p q : Player} (hpid : q.pid = p.pid) (hname : q.name = p.name)
    (hrejoin : q.rejoin = p.rejoin) (hcursor : q.catchupCursor = p.catchupCursor)
    (hleft : q.left.isSome) : Told none p q := by
  refine ⟨hpid, hname, hrejoin, hcursor, fun hq => ?_⟩
  rw [hq.left] at hleft
  cases hleft

/-- If no send of these failed, none failed before. -/
theorem smooth_of_sendWhileOk {p : Player} {l : List Packet}
    (h : (p.sendWhileOk l).link.Smooth) : p.link.Smooth := by
  induction l generalizing p with
  | nil => exact h
  | cons b l ih =>
      unfold Player.sendWhileOk PlayerLink.trySend at h
      cases hnext : p.link.next with
      | room =>
          rw [hnext] at h
          exact (PlayerLink.smooth_push.1 (ih h)).1
      | full =>
          rw [hnext] at h
          exact (PlayerLink.smooth_push.1 h).1
      | closed =>
          rw [hnext] at h
          exact (PlayerLink.smooth_push.1 h).1

/-- A GPS reconnect answers on a new link, which opens with its own
reply. -/
theorem attachGps_not_joined {p : Player} (connId : Nat) {link : PlayerLink}
    (hlink : link.sent = [])
    (received : Nat) (replay : List Packet)
    (hsmooth : (p.attachGps connId link received replay).link.Smooth) :
    (p.attachGps connId link received replay).joined = false := by
  have hroom : link.next = .room := (PlayerLink.smooth_push.1 (smooth_of_sendWhileOk hsmooth)).2
  obtain ⟨n, -, hsent⟩ := Player.sendWhileOk_sent
    (Player.sendDirect { p with
      connId := connId, link := link, disconnectedSince := none, left := none }
      (.reconnectOk received)) replay
  have hfirst : (link.push ⟨.reconnectOk received, .personal⟩).sent
      = [⟨.reconnectOk received, .personal⟩] := by
    rw [PlayerLink.push_sent_room _ hroom, hlink]
    rfl
  have hheard : (p.attachGps connId link received replay).heard
      = .reconnectOk received :: ((replay.take n).map fun b => (⟨b, .personal⟩ : Sent)).map
          Sent.packet := by
    unfold Player.heard Player.attachGps
    dsimp only
    rw [hsent]
    show ((link.push ⟨.reconnectOk received, .personal⟩).sent ++ _).map _ = _
    rw [hfirst]
    rfl
  unfold Player.joined
  rw [hheard]
  rfl

variable {s t : GameState}

/-- Before the start a move tells an attentive player nothing about the
roster. -/
theorem Moves.told {k : Kind} {p q : Player} (h : Moves s k p q)
    (hphase : s.phase.beforeStart = true) (hk : k.onTable = true) (hfeed : k ≠ .feed)
    (hfull : k ≠ .attachFull p.pid) (hrejoin : p.rejoin = .none) :
    Told none p q := by
  cases h with
  | same => exact Told.refl p
  | air b hb => cases hk
  | tell b hb hroster =>
      have hb' : b.isRoster = false := by
        -- a roster packet is told to one player in a rejoin only, and the game has not started
        by_contra hr
        rcases hroster (by simpa using hr) with hr' | hr'
        · rw [hr'] at hphase
          cases hphase
        · rw [hr'] at hphase
          cases hphase
      rcases p.receive_cases s.now b with ⟨hleft, he⟩ | ⟨-, -, he⟩ | ⟨-, -, he⟩
      · rw [he]
        exact Told.refl p
      · rw [he]
        exact Told.of_link rfl rfl rfl rfl rfl rfl id fun _ => id
      · rw [he]
        exact ((Told.deliver _ _ (Packet.isJoin_of_not_isRoster hb')).of_buffer).ordinary hb'
  | feed => exact absurd rfl hfeed
  | note h =>
      exact Told.of_link h.link h.pid h.name h.rejoin h.catchupCursor h.virtualHost
        (fun hl => h.left.symm.trans hl) fun _ hd => h.disconnectedSince.symm.trans hd
  | leave r code _ _ => exact Told.of_marked rfl rfl rfl rfl rfl
  | desync code => exact Told.of_marked rfl rfl rfl rfl rfl
  | lagDrop n code _ => exact Told.of_marked rfl rfl rfl rfl rfl
  | timeout =>
      unfold Player.loadingTimeout
      split
      · exact Told.of_marked rfl rfl rfl rfl rfl
      · exact Told.refl p
  | greet b => cases hk
  | token b hb => exact (Told.sendDirect (Packet.isJoin_of_not_isRoster hb)).ordinary hb
  | hail b hb =>
      have hb' : b.isRoster = false := by
        -- what hails is a greeting, never a roster change
        cases b <;> first | rfl | cases hb
      exact (Told.sendDirect (Packet.isJoin_of_not_isRoster hb')).ordinary hb'
  | hold reason code =>
      unfold Player.connClosed
      split
      · exact Told.of_link rfl rfl rfl rfl rfl rfl id fun _ hd => (Option.or_eq_none_iff.1 hd).1
      split
      · exact Told.of_marked rfl rfl rfl rfl rfl
      · exact Told.refl p
  | expire =>
      rcases p.gproxyTimeout_cases s.now s.cfg.reconnectWait with ⟨-, he⟩ | ⟨_, -, -, he⟩ |
        ⟨_, _, _, -, -, he⟩
      · rw [he]
        exact Told.refl p
      · rw [he]
        exact Told.of_marked rfl rfl rfl rfl rfl
      · rw [he]
        exact Told.of_link rfl rfl rfl rfl rfl rfl id fun _ => id
  | answer h =>
      rw [hrejoin] at h
      cases h
  | tooLong h =>
      rw [hrejoin] at h
      cases h
  | arm h =>
      rw [hrejoin] at h
      cases h
  | ack checksum hplay =>
      rw [hplay] at hphase
      cases hphase
  | restart => cases hk
  | attachFull => exact absurd rfl hfull
  | attachGps connId link hlink _ b _ last replay _ =>
      obtain ⟨link', he⟩ := p.attachGps_eq connId link b.totalSent replay
      refine ⟨by rw [he], by rw [he], by rw [he], by rw [he], fun hq => ?_⟩
      have hj := hq.joined
      -- a player that comes back by reconnect was in the game, so he is not joining
      rw [attachGps_not_joined connId hlink _ _ hq.smooth] at hj
      cases hj
  | _ => exact Told.of_link rfl rfl rfl rfl rfl rfl id fun _ => id

-- ================================================================== agreement

/-- What a player knows before the start: if it hears everything, it
knows who else is at the table. -/
structure Abreast (s : GameState) (p : Player) : Prop where
  rejoin : p.rejoin = .none
  catchupCursor : p.catchupCursor = none
  roster : p.Attentive → ∀ pid, pid ≠ p.pid → roster p.heard pid = s.players.announced pid

/-- Before the start every player knows. -/
def Agreed (s : GameState) : Prop := s.phase.beforeStart = true → ∀ p ∈ s.players, Abreast s p

/-- A player that is told of what happens at the table. -/
theorem Abreast.told {p q : Player} {b : Option Packet} (h : Abreast s p) (hq : Told b p q)
    (htable : ∀ pid, t.players.announced pid = Roster.enroll? s.players.announced b pid) :
    Abreast t q where
  rejoin := hq.rejoin.trans h.rejoin
  catchupCursor := hq.catchupCursor.trans h.catchupCursor
  roster hatt pid hpid := by
    obtain ⟨hp, hheard⟩ := hq.heard hatt
    rw [hheard, htable pid]
    exact Roster.enroll?_congr (h.roster hp pid (hq.pid ▸ hpid)) b

/-- A player that does not hear everything. -/
theorem Abreast.of_not_joined {p : Player} (hrejoin : p.rejoin = .none)
    (hcursor : p.catchupCursor = none) (h : p.joined = false) : Abreast s p where
  rejoin := hrejoin
  catchupCursor := hcursor
  roster hatt := by
    rw [hatt.joined] at h
    cases h

namespace PlayerTable

/-- Players that keep their id and their name are announced alike. -/
theorem announced_of_forall₂ {t u : PlayerTable}
    (h : List.Forall₂ (fun p q : Player => q.pid = p.pid ∧ q.name = p.name) t u) (pid : UInt8) :
    u.announced pid = t.announced pid := by
  unfold announced byPid
  rw [Lib.find?_map_of_forall₂ h (fun p q hpq => by rw [hpq.1]) fun p q hpq => hpq.2]

/-- A broadcast takes no name and no id off the table. -/
theorem announced_broadcast (s : GameState) (b : Packet) (pid : UInt8) :
    PlayerTable.announced (s.broadcast b).players pid = s.players.announced pid := by
  refine announced_of_forall₂ ?_ pid
  rw [broadcast_players, List.forall₂_map_right_iff]
  exact List.forall₂_same.2 fun p _ => ⟨(p.kept_hear _ _ _).pid, (p.kept_hear _ _ _).name⟩

/-- Nor does one that may not have been built. -/
theorem announced_broadcast? (s : GameState) (b : Option Packet) (pid : UInt8) :
    PlayerTable.announced (s.broadcast? b).players pid = s.players.announced pid := by
  cases b with
  | none => rfl
  | some b => exact announced_broadcast s b pid

/-- Whoever is removed is withdrawn. -/
theorem announced_removePid {t : PlayerTable} (hnd : (t.map Player.pid).Nodup) (pid : UInt8)
    (code : Nat) (q : UInt8) :
    (t.removePid pid).announced q = Roster.enroll t.announced (.playerLeaveOthers pid code) q := by
  show _ = Function.update t.announced pid none q
  unfold announced
  by_cases hq : q = pid
  · rw [hq, Function.update_self]
    have hnone : (t.removePid pid).byPid pid = none := by
      unfold byPid
      rw [List.find?_eq_none]
      intro p hp hpid
      have hmem : p.pid ∈ (t.removePid pid).map Player.pid := List.mem_map_of_mem hp
      rw [eq_of_beq hpid] at hmem
      exact Lib.key_not_mem_eraseP hnd hmem
    rw [hnone]
    rfl
  · rw [Function.update_of_ne hq]
    unfold byPid removePid
    rw [Lib.find?_key_eraseP t hq]

/-- Whoever is added is announced, if that can be. -/
theorem announced_append {t : PlayerTable} {p : Player} (hfresh : ∀ q ∈ t, q.pid ≠ p.pid)
    (ext int : Ip) (pid : UInt8) :
    PlayerTable.announced (t ++ [p]) pid
      = Roster.enroll? t.announced (Packet.playerInfo p.pid p.name ext int).build pid := by
  have hnone : t.byPid p.pid = none := by
    unfold byPid
    rw [List.find?_eq_none]
    intro q hq hpid
    exact hfresh q hq (eq_of_beq hpid)
  rw [build_playerInfo]
  by_cases hpid : pid = p.pid
  · have hfind : PlayerTable.byPid (t ++ [p]) pid = some p := by
      unfold byPid at hnone ⊢
      rw [List.find?_append, hpid, hnone]
      simp
    unfold announced
    rw [hfind]
    split
    · rename_i hfits
      show Option.filter announceable (some p.name) = Function.update t.announced p.pid
        (some p.name) pid
      rw [hpid, Function.update_self, Option.filter_some, if_pos hfits]
    · rename_i hfits
      show Option.filter announceable (some p.name) = ((t.byPid pid).map _).filter _
      rw [Option.filter_some, if_neg hfits, hpid, hnone]
      rfl
  · have hfind : PlayerTable.byPid (t ++ [p]) pid = t.byPid pid := by
      unfold byPid
      rw [List.find?_append, List.find?_singleton, if_neg (by simpa using Ne.symm hpid),
        Option.or_none]
    unfold announced
    rw [hfind]
    split
    · show _ = Function.update t.announced p.pid (some p.name) pid
      rw [Function.update_of_ne hpid]
      rfl
    · rfl

end PlayerTable

-- ================================================================ small steps

/-- A step at which nobody comes or goes. -/
theorem Agreed.of_told (hI : Agreed s)
    (hphase : t.phase.beforeStart = true → s.phase.beforeStart = true)
    (hplayers : s.phase.beforeStart = true → (∀ p ∈ s.players, Abreast s p) →
      List.Forall₂ (Told none) s.players t.players) : Agreed t := by
  intro hph q hq
  have hs := hI (hphase hph)
  have htold := hplayers (hphase hph) hs
  obtain ⟨p, hp, hpq⟩ := Lib.exists_left_of_forall₂ htold hq
  refine (hs p hp).told hpq fun pid => ?_
  exact PlayerTable.announced_of_forall₂ (htold.imp fun p q h => ⟨h.pid, h.name⟩) pid

/-- A step that leaves the table alone. -/
theorem Agreed.of_same (hI : Agreed s)
    (hphase : t.phase.beforeStart = true → s.phase.beforeStart = true)
    (hplayers : t.players = s.players) : Agreed t := by
  refine hI.of_told hphase fun _ _ => ?_
  rw [hplayers]
  exact List.forall₂_same.2 fun p _ => Told.refl p

/-- A broadcast that is not about the roster. -/
theorem Agreed.broadcast (hI : Agreed s) {b : Packet} (hb : b.isRoster = false) :
    Agreed (s.broadcast b) := by
  refine hI.of_told (by rw [broadcast_phase]; exact id) fun _ hs => ?_
  rw [broadcast_players, List.forall₂_map_right_iff]
  refine List.forall₂_same.2 fun p hp => ?_
  exact (Told.hear _ _ (Packet.isJoin_of_not_isRoster hb) (hs p hp).rejoin
    (hs p hp).catchupCursor).ordinary hb

/-- A player goes, and the others are told. -/
theorem Agreed.remove {u : GameState} (hI : Agreed s) (hs : WellFormed s) (pid : UInt8) (code : Nat)
    (hplayers : u.players = s.players.removePid pid) (hphase : u.phase = s.phase) :
    Agreed (u.broadcast (.playerLeaveOthers pid code)) := by
  intro hph q hq
  rw [broadcast_phase, hphase] at hph
  rw [broadcast_players, hplayers, List.mem_map] at hq
  obtain ⟨p, hp, rfl⟩ := hq
  have hp := hI hph p (List.eraseP_sublist.subset hp)
  refine hp.told (Told.hear _ _ rfl hp.rejoin hp.catchupCursor) fun q => ?_
  rw [PlayerTable.announced_broadcast, hplayers]
  exact PlayerTable.announced_removePid hs.pids pid code q

/-- A packet that may not have been built reaches a player by
broadcast. -/
theorem told_broadcast? {u : GameState} {b : Option Packet}
    (hb : ∀ c ∈ b, c.isJoin = false) {q : Player}
    (hq : q ∈ (u.broadcast? b).players)
    (hu : ∀ p ∈ u.players, p.rejoin = .none ∧ p.catchupCursor = none) :
    ∃ p ∈ u.players, Told b p q := by
  cases b with
  | none => exact ⟨q, hq, Told.refl q⟩
  | some b =>
      have hq' : q ∈ (u.broadcast b).players := hq
      rw [broadcast_players, List.mem_map] at hq'
      obtain ⟨p, hp, rfl⟩ := hq'
      exact ⟨p, hp, Told.hear _ _ (hb b rfl) (hu p hp).1 (hu p hp).2⟩

/-- PLAYER_INFO is no answer to a join. -/
theorem build_playerInfo_isJoin (pid : UInt8) (name : Text) (ext int : Ip) :
    ∀ c ∈ (Packet.playerInfo pid name ext int).build, c.isJoin = false := by
  intro c hc
  rw [Packet.build_eq_some hc]
  rfl

/-- The fake player comes, and everyone is told. -/
theorem Agreed.seatFake {u : GameState} (hI : Agreed s) {p : Player} (hnew : Newcomer p)
    (hsent : p.link.sent = []) (hfresh : ∀ q ∈ s.players, q.pid ≠ p.pid)
    (hplayers : u.players = s.players ++ [p]) (hphase : u.phase = s.phase) :
    Agreed (u.broadcast? (Packet.playerInfo p.pid p.name Ip.zero Ip.zero).build) := by
  have hair : (u.broadcast? (Packet.playerInfo p.pid p.name Ip.zero Ip.zero).build).phase
    = s.phase := by
    obtain ⟨ps, h, a, he⟩ := u.broadcast?_eq (Packet.playerInfo p.pid p.name Ip.zero Ip.zero).build
    rw [he]
    exact hphase
  intro hph q hq
  rw [hair] at hph
  have hs := hI hph
  obtain ⟨p', hp', hq⟩ := told_broadcast? (build_playerInfo_isJoin _ _ _ _) hq fun p' hp' => by
    rw [hplayers, List.mem_append, List.mem_singleton] at hp'
    rcases hp' with hp' | rfl
    · exact ⟨(hs p' hp').rejoin, (hs p' hp').catchupCursor⟩
    · exact ⟨hnew.rejoin, hnew.catchupCursor⟩
  rw [hplayers, List.mem_append, List.mem_singleton] at hp'
  rcases hp' with hp' | rfl
  · refine (hs p' hp').told hq fun pid => ?_
    rw [PlayerTable.announced_broadcast?, hplayers]
    exact PlayerTable.announced_append hfresh _ _ pid
  · -- the fake player has no client: nothing was sent to it before
    refine ⟨hq.rejoin.trans hnew.rejoin, hq.catchupCursor.trans hnew.catchupCursor, fun hatt => ?_⟩
    have hj := (hq.heard hatt).1.joined
    unfold Player.joined Player.heard at hj
    rw [hsent] at hj
    cases hj

/-- The virtual host comes, and everyone is told. -/
theorem Agreed.host (hI : Agreed s) {pid : UInt8} {name : Text}
    (hfresh : ∀ q ∈ s.players, q.pid ≠ pid)
    (hplayers : t.players
    = (s.broadcast? (Packet.playerInfo pid name Ip.zero Ip.zero).build).players
      ++ [hostPlayer pid name]) (hphase : t.phase = s.phase) : Agreed t := by
  intro hph q hq
  rw [hphase] at hph
  have hs := hI hph
  have htable : ∀ q, t.players.announced q = Roster.enroll? s.players.announced
      (Packet.playerInfo pid name Ip.zero Ip.zero).build q := by
    intro q
    rw [hplayers, PlayerTable.announced_append (broadcast?_pid_ne hfresh) Ip.zero Ip.zero q]
    exact Roster.enroll?_congr (PlayerTable.announced_broadcast? s _ q) _
  rw [hplayers, List.mem_append, List.mem_singleton] at hq
  rcases hq with hq | rfl
  · obtain ⟨p, hp, hq⟩ := told_broadcast? (build_playerInfo_isJoin _ _ _ _) hq fun p hp =>
      ⟨(hs p hp).rejoin, (hs p hp).catchupCursor⟩
    exact (hs p hp).told hq htable
  · exact Abreast.of_not_joined rfl rfl rfl

/-- The join burst on a link that takes all of it. -/
theorem heard_sendAll {p : Player} {l : List Packet}
    (h : (l.foldl Player.sendDirect p).link.Smooth) :
    p.link.Smooth ∧ (l.foldl Player.sendDirect p).heard = p.heard ++ l := by
  induction l generalizing p with
  | nil => exact ⟨h, (List.append_nil _).symm⟩
  | cons b l ih =>
      obtain ⟨hsmooth, hheard⟩ := ih h
      obtain ⟨hsmooth, hroom⟩ := PlayerLink.smooth_push.1 hsmooth
      refine ⟨hsmooth, ?_⟩
      rw [List.foldl_cons, hheard, heard_push rfl hroom, List.append_assoc]
      rfl

/-- The announcements of a whole table. -/
theorem foldl_enroll_infos {ps : PlayerTable} (hnd : (ps.map Player.pid).Nodup) (r : Roster)
    {pid : UInt8} (hr : r pid = none) :
    (ps.filterMap fun p => (Packet.playerInfo p.pid p.name p.externalIp p.internalIp).build).foldl
      Roster.enroll r pid = ps.announced pid := by
  induction ps using List.reverseRecOn with
  | nil => exact hr
  | append_singleton ps p ih =>
      rw [List.map_append, List.nodup_append] at hnd
      have hfresh : ∀ q ∈ ps, q.pid ≠ p.pid := fun q hq =>
        hnd.2.2 q.pid (List.mem_map_of_mem hq) p.pid List.mem_cons_self
      rw [List.filterMap_append, List.foldl_append, PlayerTable.announced_append hfresh
        p.externalIp p.internalIp pid, ← Roster.enroll?_congr (ih hnd.1)]
      cases hb : (Packet.playerInfo p.pid p.name p.externalIp p.internalIp).build with
      | none =>
          rw [List.filterMap_cons, hb]
          rfl
      | some b =>
          rw [List.filterMap_cons, hb]
          rfl

/-- Packets about something else leave the roster alone. -/
theorem foldl_enroll_ordinary {l : List Packet} (h : ∀ b ∈ l, b.isRoster = false) (r : Roster) :
    l.foldl Roster.enroll r = r := by
  induction l with
  | nil => rfl
  | cons b l ih =>
      rw [List.foldl_cons, Roster.enroll_of_not_isRoster r (h b List.mem_cons_self)]
      exact ih fun b hb => h b (List.mem_cons_of_mem _ hb)

/-- The join burst tells of everyone at the table. -/
theorem roster_joinBurst (hs : WellFormed s) (player : Player) {b : Packet} (hb : b.isJoin = true)
    (pid : UInt8) : roster (b :: s.joinBurst player) pid = s.players.announced pid := by
  have hopen : Roster.enroll (fun _ => none) b = fun _ => none := by
    cases b <;> first | rfl | cases hb
  unfold roster joinBurst
  dsimp only
  rw [List.foldl_cons, hopen, List.append_assoc, List.foldl_append, foldl_enroll_ordinary]
  · exact foldl_enroll_infos hs.pids _ rfl
  · intro c hc
    rw [List.mem_append, Option.mem_toList, Option.mem_toList] at hc
    rcases hc with hc | hc
    · rw [Packet.build_eq_some hc]
      rfl
    · rw [Packet.build_eq_some hc]
      rfl

/-- A client comes: it is told of the others, and the others of it. -/
theorem Agreed.seat (hI : Agreed s) (hs : WellFormed s) {u : GameState} {player : Player}
    (hnew : Newcomer player) (hfresh : ∀ q ∈ s.players, q.pid ≠ player.pid)
    (hjoin : ∃ b, player.link.sent = [⟨b, .personal⟩] ∧ b.isJoin = true)
    (hplayers : u.players = s.players ++ [(s.joinBurst player).foldl Player.sendDirect player])
    (hphase : u.phase = s.phase) :
    Agreed (u.sendOthersDirect? player.pid
      (Packet.playerInfo player.pid player.name player.externalIp player.internalIp).build) := by
  obtain ⟨b, hsent, hb⟩ := hjoin
  obtain ⟨link, hlink⟩ := sendAll_eq player (s.joinBurst player)
  have hfresh' : ∀ q ∈ s.players, q.pid
    ≠ ((s.joinBurst player).foldl Player.sendDirect player).pid := by
    rw [hlink]
    exact hfresh
  -- at the table the newcomer is announced under its own name
  have htable : ∀ pid, u.players.announced pid = Roster.enroll? s.players.announced
      (Packet.playerInfo player.pid player.name player.externalIp player.internalIp).build pid := by
    intro pid
    rw [hplayers, PlayerTable.announced_append hfresh' player.externalIp player.internalIp, hlink]
  have hseated : s.phase.beforeStart = true → Abreast u
      ((s.joinBurst player).foldl Player.sendDirect player) := by
    intro _
    refine ⟨by rw [hlink]; exact hnew.rejoin, by rw [hlink]; exact hnew.catchupCursor, ?_⟩
    intro hatt pid hpid
    have hheard : player.heard = [b] := by
      unfold Player.heard
      rw [hsent]
      rfl
    have hpid' : pid ≠ player.pid := by
      rw [hlink] at hpid
      exact hpid
    rw [(heard_sendAll hatt.smooth).2, hheard, List.singleton_append, roster_joinBurst hs player hb,
      htable, build_playerInfo]
    split
    · show _ = Function.update s.players.announced player.pid (some player.name) pid
      rw [Function.update_of_ne hpid']
    · rfl
  cases hinfo :
    (Packet.playerInfo player.pid player.name player.externalIp player.internalIp).build with
  | none =>
      intro hph q hq
      have hph' : s.phase.beforeStart = true := hphase ▸ hph
      have hq' : q ∈ u.players := hq
      rw [hplayers, List.mem_append, List.mem_singleton] at hq'
      rcases hq' with hq' | rfl
      · refine (hI hph' q hq').told (Told.refl q) fun pid => ?_
        rw [hinfo] at htable
        exact htable pid
      · exact hseated hph'
  | some c =>
      have hc : c.isJoin = false := build_playerInfo_isJoin _ _ _ _ c hinfo
      intro hph q hq
      have hph' : s.phase.beforeStart = true := hphase ▸ hph
      have hsame : ∀ pid, (u.sendOthersDirect? player.pid (some c)).players.announced pid
          = u.players.announced pid := by
        refine PlayerTable.announced_of_forall₂ ?_
        show List.Forall₂ _ u.players (u.players.map _)
        rw [List.forall₂_map_right_iff]
        refine List.forall₂_same.2 fun p _ => ?_
        split
        · exact ⟨rfl, rfl⟩
        · exact ⟨rfl, rfl⟩
      have hq' : q ∈ u.players.map fun p => if p.pid = player.pid then p else p.sendDirect c := hq
      rw [hplayers, List.mem_map] at hq'
      obtain ⟨p, hp, rfl⟩ := hq'
      rcases List.mem_append.1 hp with hp | hp
      · rw [if_neg (hfresh p hp)]
        refine (hI hph' p hp).told (Told.sendDirect hc) fun pid => ?_
        rw [hsame, htable, hinfo]
      · rw [List.mem_singleton.1 hp, if_pos (by rw [hlink])]
        exact (hseated hph').told (Told.refl _) hsame

-- ============================================================== one iteration

/-- Every step in pieces, but no rejoin and no catch-up before the
start. -/
def lobbying (k : Kind) (s : GameState) : Prop :=
  match k with
  | .feed => s.phase.beforeStart = false
  | .attachFull _ => s.phase.beforeStart = false
  | k => k.fine = true

/-- No phase assignment leads back before the start. -/
theorem PhaseStep.beforeStart {ph ph' : GamePhase} (h : PhaseStep ph ph')
    (hph : ph'.beforeStart = true) : ph.beforeStart = true := by
  cases ph <;> cases ph' <;> first | rfl | exact h.elim | cases hph

section

variable [RustStd]

/-- Every small step keeps the agreement. -/
theorem Step.agreed {k : Kind} (h : Step k s t) (hk : lobbying k s) (hs : WellFormed s)
    (hI : Agreed s) : Agreed t := by
  cases h with
  | misc h => exact hI.of_same (by rw [h.phase]; exact id) h.players
  | air b hb => exact hI.broadcast (Packet.isRoster_of_isOrdinary hb)
  | airLag b hb => exact hI.broadcast (by cases b <;> first | rfl | cases hb)
  | reset b hb => exact hI.broadcast (by cases b <;> first | rfl | cases hb)
  | block b hb f =>
      refine Agreed.broadcast ?_ (by cases b <;> first | rfl | cases hb)
      exact hI.of_same id rfl
  | table hkt ps hm =>
      refine hI.of_told id fun hph hall => ?_
      -- rejoiners are fed while the game runs, which is past the lobby
      have hfeed : k ≠ .feed := by
        rintro rfl
        rw [show s.phase.beforeStart = false from hk] at hph
        cases hph
      have hfull : ∀ pid, k ≠ .attachFull pid := by
        rintro pid rfl
        rw [show s.phase.beforeStart = false from hk] at hph
        cases hph
      refine ((List.forall₂_and_left s.players ps).2 ⟨hall, hm⟩).imp fun p q hpq => ?_
      exact hpq.2.told hph hkt hfeed (hfull _) hpq.1.rejoin
  | seat sid player hlobby hfree hp hjoin info hinfo =>
      -- the others hear of the newcomer, who hears of them in the burst
      rw [hinfo]
      exact hI.seat hs hp hfree.fresh hjoin rfl rfl
  | seatFake sid p hlobby _ hfree hp hsent info hinfo =>
      rw [hinfo]
      exact hI.seatFake hp hsent hfree.fresh rfl rfl
  | host pid _ hpid info hinfo =>
      rw [hinfo]
      refine hI.host hpid rfl ?_
      obtain ⟨ps, h, a, he⟩ := s.broadcast?_eq (Packet.playerInfo pid s.cfg.virtualHostName
        Ip.zero Ip.zero).build
      rw [he]
  | unseat pid r code _ _ _ => exact hI.remove hs pid code rfl rfl
  | unhost _ _ => exact hI.remove hs _ _ rfl rfl
  | unfake pid _ _ => exact hI.remove hs _ _ rfl rfl
  | phase ph hph _ => exact hI.of_same hph.beforeStart rfl
  | toLoading hph => exact hI.of_same hph.beforeStart rfl
  | restart =>
      intro hph
      cases hph
  | reap => cases hk
  | begin _ => cases hk
  | loaded _ => cases hk
  | lagCheck => cases hk
  | check => cases hk
  | sendTurn _ _ => cases hk
  | _ => exact hI.of_same id rfl

omit [RustStd] in
/-- A FULL rejoin is of a game that has started. -/
theorem fullSeat_beforeStart {ev : Event} {pid : UInt8} (h : s.fullSeat ev = some pid) :
    s.phase.beforeStart = false := by
  unfold fullSeat at h
  split at h
  · split at h
    · split at h
      · rcases (fullRejoinSeat_spec h).1 with hph | hph
        · rw [hph]
          rfl
        · rw [hph]
          rfl
      · cases h
    · cases h
  · cases h

/-- Every event is admitted. -/
theorem admits_lobbying {ev : Event} : Admits lobbying s ev := by
  refine admits_fine (fun k hfine hguarded t => ?_) ?_ fun _ _ _ => rfl
  · cases k <;> first | exact hfine | cases hguarded
  · exact
      { phase := fun _ => rfl
        slots := fun _ _ _ => rfl
        vacate := fun _ _ _ _ _ _ => rfl
        limit := fun _ => rfl
        seat := fun _ _ _ _ _ _ _ => rfl
        bounce := fun _ _ => rfl
        seatFake := fun _ _ _ _ => rfl
        token := fun _ _ _ _ _ _ _ => rfl
        host := fun _ _ => rfl
        unhost := fun _ _ _ => rfl
        unfake := fun _ _ _ _ => rfl
        attachFull := fun pid hseat t _ hphase => by
          show t.phase.beforeStart = false
          rw [hphase]
          exact fullSeat_beforeStart hseat
        attachGps := fun _ _ _ _ _ _ => rfl
        ack := fun _ _ _ _ _ _ _ _ _ => rfl
        queue := fun _ _ => rfl
        cache := fun _ _ => rfl
        feed := fun _ _ hplay => by
          show s.tickHead.phase.beforeStart = false
          rw [(tickHead_framed s).phase, hplay]
          rfl
        timeout := fun _ _ _ => rfl }

-- ============================================================== the reaper

/-- Whoever is marked left and not on the list has a link on which a
send failed. -/
def Cut (gone : List UInt8) (s : GameState) : Prop :=
  ∀ p ∈ s.players, p.virtualHost = false → p.pid ∉ gone → p.left.isSome → ¬p.link.Smooth

section Reaper

omit [RustStd]

variable {gone : List UInt8}

/-- Fewer players, of whom the same is known. -/
theorem Cut.of_sublist (h : Cut gone s) (hsub : t.players.Sublist s.players) : Cut gone t :=
  fun p hp => h p (hsub.subset hp)

/-- A delivery marks a player only when the send fails. -/
theorem not_smooth_of_deliver {p : Player} {now : Nat} {b : Packet} {via : Via} (hp : p.left = none)
    (h : (p.deliver now b via).left.isSome) : ¬(p.deliver now b via).link.Smooth := by
  rw [(p.deliver_fields now b via).2.2, PlayerLink.smooth_push]
  rintro ⟨-, hroom⟩
  rcases p.deliver_cases now b via with ⟨-, he⟩ | ⟨hfull, -⟩ | ⟨hclosed, -⟩
  · rw [he] at h
    rw [show p.left = none from hp] at h
    cases h
  · rw [hroom] at hfull
    cases hfull
  · rw [hroom] at hclosed
    cases hclosed

/-- A broadcast marks only those on whose link it fails. -/
theorem Cut.broadcast (h : Cut gone s) (b : Packet) : Cut gone (s.broadcast b) := by
  intro q hq hv hgone hleft
  rw [broadcast_players, List.mem_map] at hq
  obtain ⟨p, hp, rfl⟩ := hq
  have hk := p.kept_hear s.now b s.airSeq
  rw [hk.virtualHost] at hv
  rw [hk.pid] at hgone
  rcases p.hear_cases s.now b s.airSeq with ⟨-, he⟩ | ⟨hl, -, -, he⟩ | ⟨hl, -, -, -, -, he⟩
  · rw [he] at hleft ⊢
    exact h p hp hv hgone hleft
  · rw [he] at hleft
    rw [show (p.buffer b).left = none from hl] at hleft
    cases hleft
  · rw [he] at hleft ⊢
    exact not_smooth_of_deliver hl hleft

/-- The same, of one that may not have been built. -/
theorem Cut.broadcast? (h : Cut gone s) (b : Option Packet) : Cut gone (s.broadcast? b) := by
  cases b with
  | none => exact h
  | some b => exact h.broadcast b

/-- The same, of a line to all. -/
theorem Cut.sendChatAll (h : Cut gone s) (message : Text) : Cut gone (s.sendChatAll message) := by
  have hsame : ∀ u : GameState, u.players = s.players → Cut gone u := by
    intro u hu
    exact h.of_sublist (by rw [hu])
  unfold GameState.sendChatAll
  dsimp only
  split
  · exact h
  split
  · exact h
  split
  · refine Cut.broadcast? (hsame _ ?_) _
    rw [clip_players]
    rfl
  · refine Cut.broadcast? (hsame _ ?_) _
    show (GameState.clip _ _ _).1.players = _
    rw [clip_players]
    rfl

/-- Reaping marks nobody else. -/
theorem Cut.reapPlayer (h : Cut gone s) (pid : UInt8) (code : Nat) :
    Cut gone (s.reapPlayer pid code) := by
  unfold GameState.reapPlayer
  dsimp only
  generalize hu : GameState.record _ _ = u
  have hplayers : u.players = s.players := by
    rw [← hu]
    cases s.players.byPid pid with
    | none => rfl
    | some p => rfl
  have hend : Cut gone ({ u with
      players := u.players.removePid pid, slots := (u.slots.release pid).1 }.broadcast
        (.playerLeaveOthers pid code)) := by
    refine Cut.broadcast (h.of_sublist ?_) _
    show (u.players.removePid pid).Sublist _
    rw [hplayers]
    exact List.eraseP_sublist
  split
  · exact Cut.broadcast? hend _
  · exact hend

/-- A report touches no player and no phase. -/
theorem reportLobby_table (s : GameState) :
    s.reportLobby.players = s.players ∧ s.reportLobby.phase = s.phase := by
  unfold reportLobby emitLobbyStatus
  dsimp only
  split
  · split
    · exact ⟨rfl, rfl⟩
    · exact ⟨rfl, rfl⟩
  · exact ⟨rfl, rfl⟩

end Reaper

/-- Before the start the reaper leaves no marked player with a sound
link. -/
theorem cut_reapLeftPlayers (hs : WellFormed s)
    (hph : s.reapLeftPlayers.phase.beforeStart = true) : Cut [] s.reapLeftPlayers := by
  have hmarked : Cut (s.gone.map Prod.fst) s := by
    intro p hp hv hgone hleft
    exact absurd (mem_gone.2 ⟨p, hp, rfl, hv, hleft⟩) hgone
  have hend : Cut (s.gone.map Prod.fst) s.reapLeftPlayers := by
    unfold GameState.reapLeftPlayers at hph ⊢
    dsimp only at hph ⊢
    split at hph
    · rename_i hnone
      rw [if_pos hnone]
      exact hmarked
    rename_i hsome
    rw [if_neg hsome]
    have habort : Cut (s.gone.map Prod.fst) s.abortCountdown := by
      unfold abortCountdown
      split
      · have hlobby : Cut (s.gone.map Prod.fst) (s.setPhase .lobby) := hmarked
        exact hlobby.sendChatAll _
      · exact hmarked
    have hloop : ∀ (l : List (UInt8 × Nat)) (u : GameState), Cut (s.gone.map Prod.fst) u →
        Cut (s.gone.map Prod.fst) (l.foldl (fun s g => s.reapPlayer g.1 g.2) u) := by
      intro l
      induction l with
      | nil => exact fun _ hu => hu
      | cons g l ih => exact fun u hu => ih _ (hu.reapPlayer g.1 g.2)
    split at hph
    · rw [beginPlaying_phase] at hph
      cases hph
    · rename_i hstay
      rw [if_neg hstay]
      exact hloop _ _ (habort.of_sublist (List.Sublist.refl _))
  intro p hp hv _ hleft
  have hpid : p.pid ∈ s.reapLeftPlayers.pids := List.mem_map_of_mem hp
  exact hend p hp hv ((reapLeftPlayers_pids hs).1 hpid).2 hleft

-- ======================================================================= runs

/-- What holds between two iterations. -/
structure LobbyInv (s : GameState) : Prop where
  agreed : Agreed s
  cut : s.phase.beforeStart = true → Cut [] s

/-- An iteration keeps the invariant. -/
theorem step_lobbyInv {ev : Event} (hs : WellFormed s) (hev : ev.Sound) (hI : LobbyInv s) :
    LobbyInv (s.step ev) := by
  have hkeeps : ∀ {u v : GameState}, WellFormed u → Agreed u → Does lobbying u v → Agreed v := by
    intro u v hu hI hpath
    refine (Lib.Path.preserves (I := fun u => WellFormed u ∧ Agreed u) ?_ hpath ⟨hu, hI⟩).2
    exact fun k u v hk hst hI => ⟨hst.keeps_wellFormed hI.1, hst.agreed hk hI.1 hI.2⟩
  refine ⟨hkeeps hs hI.agreed (does_step hs hev admits_lobbying), ?_⟩
  have hhandle : WellFormed (s.handle ev) :=
    (does_handle hs hev (admits_anyFine s ev)).keeps_wellFormed hs
  unfold step
  split
  · exact hI.cut
  split
  · exact hI.cut
  · exact hI.cut
  · rw [(reportLobby_table _).2]
    intro hph p hp
    rw [(reportLobby_table _).1] at hp
    exact cut_reapLeftPlayers hhandle hph p hp

/-- In every game, before the start: a client seated by REQ_JOIN that
has stayed connected, and none of whose sends failed, knows the others
at the table by their ids and their names, and nobody else, if their
PLAYER_INFO can be built. -/
theorem lobby_roster_agrees (h : Reaches (fun _ _ => True) s) (hph : s.phase.beforeStart = true)
    {p : Player} (hp : p ∈ s.players) (hv : p.virtualHost = false) (hjoined : p.joined = true)
    (hdisc : p.disconnectedSince = none) (hsmooth : p.link.Smooth)
    (hnames : ∀ q ∈ s.players,
      (Packet.playerInfo q.pid q.name q.externalIp q.internalIp).fits = true) :
    ∀ pid, pid ≠ p.pid → roster p.heard pid = (s.players.byPid pid).map Player.name := by
  have hinv : LobbyInv s := by
    refine (h.preserves (I := LobbyInv) ?_ ?_).2
    · exact fun cfg now seed => ⟨fun _ p hp => (nomatch hp), fun _ p hp => (nomatch hp)⟩
    · exact fun s ev hs hev _ hI => step_lobbyInv hs hev hI
  have hleft : p.left = none := by
    by_contra hl
    exact hinv.cut hph p hp hv List.not_mem_nil (Option.isSome_iff_ne_none.2 hl) hsmooth
  intro pid hpid
  rw [(hinv.agreed hph p hp).roster ⟨hv, hleft, hdisc, hjoined, hsmooth⟩ pid hpid]
  unfold PlayerTable.announced
  cases hq : s.players.byPid pid with
  | none => rfl
  | some q =>
      have hfits := hnames q (List.mem_of_find?_eq_some hq)
      rw [fits_playerInfo] at hfits
      rw [Option.map_some, Option.filter_some, if_pos hfits]

end

-- ================================================================= instances

section Runs

open Scenario

instance (l : PlayerLink) : Decidable l.Smooth :=
  inferInstanceAs (Decidable (∀ n < l.tries, l.finds n = .room))

/-- The virtual host is created, two clients join, the second leaves,
and the fake player gets its id. -/
def reusedId : List Event :=
  cmd .createVirtualHost :: twoJoin PlayerLink.drained PlayerLink.drained
    ++ [leaveGame 2, cmd .toggleFakePlayer, cmd .start]

/-- The second client left; the third knows the fake player by the id it
had. -/
theorem lobby_roster_agrees_reusedId :
    (lobby.run reusedId).players.map Player.pid = [1, 2, 3]
      ∧ ∀ p ∈ (lobby.run reusedId).players, p.pid = 2 →
        (roster p.heard 3 = some (txt "FakePlayer") ∧ p.joined = true ∧ p.link.Smooth)
        ∧ ∀ pid, pid ≠ p.pid →
          roster p.heard pid = ((lobby.run reusedId).players.byPid pid).map Player.name := by
  have hreach : Reaches (fun _ _ => True) (lobby.run reusedId) :=
    ⟨config, 0, 5, Runs.of_meets (by decide +kernel)⟩
  have hann : ∀ p ∈ (lobby.run reusedId).players, p.pid = 2 →
      (roster p.heard 3 = some (txt "FakePlayer") ∧ p.joined = true ∧ p.link.Smooth)
        ∧ p.virtualHost = false ∧ p.disconnectedSince = none := by decide +kernel
  refine ⟨by decide +kernel, fun p hp hpid => ⟨(hann p hp hpid).1, ?_⟩⟩
  obtain ⟨⟨-, hjoined, hsmooth⟩, hv, hdisc⟩ := hann p hp hpid
  exact lobby_roster_agrees hreach (by decide +kernel) hp hv hjoined hdisc hsmooth
    (by decide +kernel)

end Runs

end Spectre

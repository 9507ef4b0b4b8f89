/-
The cold start of a FULL rejoin (`full_rejoin.rs`).

A client that restarted cold is handed a start state — the slot block
and the seed of SLOT_INFO_JOIN, its own seat, and the players that
PLAYER_INFO announces — and after it the whole history, from the first
packet of the game. The replay comes out as it did for the others only
if that start state is the one they had when the history began: the
seed and the players of `begin_playing`, and the slot table that was
sent to them last (`clientSlots`).

The handshake is built from the state of the moment, though. `Since` is
what every run keeps of the start: the seed, and a roster that nobody
joins. `Vacated` is what it keeps of the slots while no slot command is
given: the table of the start with the seats of those who left opened.
So the start state handed out is the one of the others exactly while
nobody has left, if the table of the start is the one they were sent. A
player who is reaped while the game loads leaves a slot open of which
nobody is told.
-/
import Spectre.Frozen
import Spectre.Rosters
import Spectre.Tokens

namespace Spectre

open GameState

-- ================================================================= statement

/-- The slots after these seats have been opened. -/
def SlotTable.releasePids (t : SlotTable) (gone : List UInt8) : SlotTable :=
  gone.foldl (fun t pid => (t.release pid).1) t

/-- The packets hand a client this start state, and the seat it starts
in. -/
structure Hands (st : StartState) (seat : UInt8 × Text) (packets : List Packet) : Prop where
  slots : ∃ port ip layout n,
    Packet.slotInfoJoin seat.1 port ip st.slots st.randomSeed layout n ∈ packets
  roster : ∀ e, e ∈ st.roster ↔ e = seat ∨ ∃ ext int, Packet.playerInfo e.1 e.2 ext int ∈ packets

/-- The table a SLOT_INFO brings. -/
def Packet.slotTable? : Packet → Option SlotTable
  | slotInfo slots .. => some slots
  | _ => none

/-- The slot table the clients have when the history begins: the last
one that was sent to all before its first packet. -/
def GameState.clientSlots (s : GameState) : SlotTable :=
  ((s.aired.take (s.aired.length - s.fullHistory.log.length)).filterMap
    Packet.slotTable?).getLast?.getD []

/-- The start with this slot table. -/
def StartState.withSlots (st : StartState) (slots : SlotTable) : StartState :=
  { st with slots := slots }

/-- Everyone the game began with is at the table, and none of them is
marked left. -/
def StartState.AllHere (st : StartState) (s : GameState) : Prop :=
  ∀ e ∈ st.roster, ∃ q ∈ s.players, q.virtualHost = false ∧ q.left = none ∧ (q.pid, q.name) = e

/-- The packets of the handshake that carry the start state can be
built. -/
structure HandshakeFits (s : GameState) (pid : UInt8) (listenPort : Nat) (externalIp : Ip) :
    Prop where
  slots : (Packet.slotInfoJoin pid listenPort externalIp s.slots s.randomSeed s.cfg.map.layoutStyle
    s.cfg.map.numPlayers).fits = true
  others : ∀ q ∈ s.rejoinOthers pid,
    (Packet.playerInfo q.pid q.name q.externalIp q.internalIp).fits = true

/-- No slot command is given once the game has begun. -/
def SlotsKept [RustStd] (s : GameState) (ev : Event) : Prop :=
  s.started.isSome → s.editsSlots ev = false

/-- The seat a FULL rejoin takes over, before anything is sent to it. -/
def GameState.reattach (s : GameState) (connId : Nat) (pid : UInt8) (link : PlayerLink) :
    GameState :=
  { s with players := s.players.modifyPid pid fun p => p.attachFull connId link }.forgetFull connId

-- ================================================================= handshake

section Handshake

variable {s : GameState} {st : StartState}

theorem mem_rejoinOthers {pid : UInt8} {q : Player} : q ∈ s.rejoinOthers pid
    ↔ q ∈ s.players ∧ q.pid ≠ pid ∧ q.virtualHost = false ∧ q.left = none := by
  unfold rejoinOthers
  rw [List.mem_filter]
  simp [and_assoc]

theorem mem_startRoster {e : UInt8 × Text} : e ∈ s.startState.roster
    ↔ ∃ q ∈ s.players, q.virtualHost = false ∧ (q.pid, q.name) = e := by
  unfold startState
  dsimp only
  rw [List.mem_map]
  simp [and_assoc]

/-- A packet comes out of its builder if its frame fits. -/
theorem Packet.mem_build {p b : Packet} : b ∈ p.build ↔ b = p ∧ p.fits = true := by
  unfold Packet.build
  split
  · rename_i h
    simp [h, eq_comm]
  · rename_i h
    simp [h]

/-- The slot block of the handshake is that of the state. -/
theorem slots_mem_rejoinHandshake {pid : UInt8} {port : Nat} {ip : Ip} {slots : SlotTable}
    {seed : UInt32} : (∃ port' ip' layout n,
        Packet.slotInfoJoin pid port' ip' slots seed layout n ∈ s.rejoinHandshake pid port ip)
      ↔ slots = s.slots ∧ seed = s.randomSeed ∧ (Packet.slotInfoJoin pid port ip s.slots
        s.randomSeed s.cfg.map.layoutStyle s.cfg.map.numPlayers).fits = true := by
  unfold rejoinHandshake
  simp only [List.mem_append, Option.mem_toList, List.mem_filterMap]
  constructor
  · rintro ⟨port', ip', layout, n, (h | ⟨q, -, h⟩) | h⟩
    · obtain ⟨he, hfits⟩ := Packet.mem_build.1 h
      cases he
      exact ⟨rfl, rfl, hfits⟩
    · cases (Packet.mem_build.1 h).1
    · cases (Packet.mem_build.1 h).1
  · rintro ⟨rfl, rfl, hfits⟩
    exact ⟨port, ip, _, _, .inl (.inl (Packet.mem_build.2 ⟨rfl, hfits⟩))⟩

/-- The players the handshake announces are the others, as far as their
packets can be built. -/
theorem player_mem_rejoinHandshake {pid : UInt8} {port : Nat} {ip : Ip} {e : UInt8 × Text} :
    (∃ ext int, Packet.playerInfo e.1 e.2 ext int ∈ s.rejoinHandshake pid port ip)
      ↔ ∃ q ∈ s.rejoinOthers pid, (q.pid, q.name) = e
        ∧ (Packet.playerInfo q.pid q.name q.externalIp q.internalIp).fits = true := by
  unfold rejoinHandshake
  simp only [List.mem_append, Option.mem_toList, List.mem_filterMap]
  constructor
  · rintro ⟨ext, int, (h | ⟨q, hq, h⟩) | h⟩
    · cases (Packet.mem_build.1 h).1
    · obtain ⟨he, hfits⟩ := Packet.mem_build.1 h
      obtain ⟨hpid, hname, -, -⟩ := Packet.playerInfo.inj he
      exact ⟨q, hq, Prod.ext hpid.symm hname.symm, hfits⟩
    · cases (Packet.mem_build.1 h).1
  · rintro ⟨q, hq, rfl, hfits⟩
    exact ⟨_, _, .inl (.inr ⟨q, hq, Packet.mem_build.2 ⟨rfl, hfits⟩⟩)⟩

/-- The handshake depends on the others only, so re-attaching the seat
does not change it. -/
theorem rejoinHandshake_reattach (s : GameState) (connId : Nat) (pid : UInt8) (link : PlayerLink)
    (port : Nat) (ip : Ip) :
    (s.reattach connId pid link).rejoinHandshake pid port ip = s.rejoinHandshake pid port ip := by
  have hothers : (s.reattach connId pid link).rejoinOthers pid = s.rejoinOthers pid := by
    refine Lib.filter_updateFirst_of_disjoint fun x _ hx => ?_
    have hpid : x.pid = pid := by simpa using hx
    simp [hpid, Player.attachFull]
  unfold rejoinHandshake
  rw [hothers]
  rfl

/-- A FULL rejoin sends the handshake of the state it is asked for in. -/
theorem fullRejoin_eq (s : GameState) (connId : Nat) (pid : UInt8) (req : ReqJoin) (ip : Ip)
    (link : PlayerLink) : s.fullRejoin connId pid req ip link
      = (s.rejoinHandshake pid req.listenPort ip).foldl (fun s b => s.sendTo pid b)
        (s.reattach connId pid link) := by
  rw [← rejoinHandshake_reattach s connId pid link]
  rfl

end Handshake

-- ================================================================ invariants

/-- What every run keeps of the start of a game: it stays begun, with
the seed of the start and nobody at the table who was not there. -/
structure Since (st : StartState) (s : GameState) : Prop where
  started : s.started.isSome
  randomSeed : s.randomSeed = st.randomSeed
  roster : s.startState.roster ⊆ st.roster

/-- What a run without slot commands keeps besides: the slots of the
start, but for those of the players who were there and are gone. -/
structure Vacated (st : StartState) (gone : List UInt8) (s : GameState) : Prop
    extends Since st s where
  slots : s.slots = st.slots.releasePids gone
  seated : ∀ pid ∈ gone, ∃ e ∈ st.roster, e.1 = pid
  away : ∀ pid ∈ gone, ∀ e ∈ s.startState.roster, e.1 ≠ pid

section Invariants

variable {s : GameState} {st : StartState}

/-- While everyone is here, nobody's slot was opened. -/
theorem Vacated.slots_eq {gone : List UInt8} (h : Vacated st gone s) (hall : st.AllHere s) :
    s.slots = st.slots := by
  have hnone : gone = [] := by
    refine List.eq_nil_iff_forall_not_mem.2 fun pid hpid => ?_
    obtain ⟨e, he, rfl⟩ := h.seated pid hpid
    obtain ⟨q, hq, hhost, -, heq⟩ := hall e he
    exact h.away e.1 hpid e (mem_startRoster.2 ⟨q, hq, hhost, heq⟩) rfl
  rw [h.slots, hnone]
  rfl

/-- The handshake hands out the start of the game exactly if the slots
are as they were, everyone is here, and its packets can be built. -/
theorem hands_iff (hs : WellFormed s) (h : Since st s) {p : Player} (hp : p ∈ s.players)
    (hhost : p.virtualHost = false) (hleft : p.left = none) (port : Nat) (ip : Ip) :
    Hands st (p.pid, p.name) (s.rejoinHandshake p.pid port ip)
      ↔ s.slots = st.slots ∧ st.AllHere s ∧ HandshakeFits s p.pid port ip := by
  have hsame : ∀ q ∈ s.players, ∀ q' ∈ s.players, q.pid = q'.pid → q = q' := fun q hq q' hq' he =>
    List.inj_on_of_nodup_map hs.pids hq hq' he
  have hknown : ∀ q ∈ s.players, q.virtualHost = false → (q.pid, q.name) ∈ st.roster :=
    fun q hq hv => h.roster (mem_startRoster.2 ⟨q, hq, hv, rfl⟩)
  constructor
  · intro hands
    obtain ⟨hslots, -, hfits⟩ := slots_mem_rejoinHandshake.1 hands.slots
    refine ⟨hslots.symm, fun e he => ?_, hfits, fun q hq => ?_⟩
    · rcases (hands.roster e).1 he with rfl | hann
      · exact ⟨p, hp, hhost, hleft, rfl⟩
      · obtain ⟨q, hq, heq, -⟩ := player_mem_rejoinHandshake.1 hann
        obtain ⟨hmem, -, hv, hl⟩ := mem_rejoinOthers.1 hq
        exact ⟨q, hmem, hv, hl, heq⟩
    · obtain ⟨hmem, hne, hv, -⟩ := mem_rejoinOthers.1 hq
      -- it was there at the start, so it is announced, and it alone has its id
      rcases (hands.roster _).1 (hknown q hmem hv) with heq | hann
      · exact absurd (congrArg Prod.fst heq) hne
      · obtain ⟨q', hq', heq, hfits'⟩ := player_mem_rejoinHandshake.1 hann
        rw [hsame q' (mem_rejoinOthers.1 hq').1 q hmem (congrArg Prod.fst heq)] at hfits'
        exact hfits'
  · rintro ⟨hslots, hall, hfits⟩
    refine ⟨slots_mem_rejoinHandshake.2 ⟨hslots.symm, h.randomSeed.symm, hfits.slots⟩, fun e => ?_⟩
    constructor
    · intro he
      obtain ⟨q, hq, hv, hl, rfl⟩ := hall e he
      by_cases hpid : q.pid = p.pid
      · rw [hsame q hq p hp hpid]
        exact .inl rfl
      · have hother : q ∈ s.rejoinOthers p.pid := mem_rejoinOthers.2 ⟨hq, hpid, hv, hl⟩
        exact .inr (player_mem_rejoinHandshake.2 ⟨q, hother, rfl, hfits.others q hother⟩)
    · rintro (rfl | hann)
      · exact hknown p hp hhost
      · obtain ⟨q, hq, rfl, -⟩ := player_mem_rejoinHandshake.1 hann
        obtain ⟨hmem, -, hv, -⟩ := mem_rejoinOthers.1 hq
        exact hknown q hmem hv

end Invariants

-- ===================================================================== steps

/-- The kinds that change the slots in any phase, other than by a
leaver. -/
def Kind.editsTable : Kind → Bool
  | slots | vacate _ | hcl => true
  | _ => false

/-- Every step, but in a game that has begun no edit of the slots. -/
def editsBefore (k : Kind) (s : GameState) : Prop :=
  k.fine = true ∧ (k.editsTable = true → s.started = none)

theorem plain_editsBefore : Plain editsBefore := by
  intro k hk _
  have hedit : k.editsTable = false := by cases k <;> first | rfl | cases hk
  refine ⟨(Kind.free_of_plain hk).1, fun he => ?_⟩
  rw [hedit] at he
  cases he

section Steps

variable [RustStd] {s t : GameState} {st : StartState} {k : Kind}

/-- Nothing draws the seed anew. -/
theorem Step.randomSeed (h : Step k s t) (hfine : k.fine = true) : t.randomSeed = s.randomSeed := by
  cases h with
  | misc h => exact h.randomSeed
  | air b _ | airLag b _ | reset b _ => exact broadcast_randomSeed s b
  | block b _ f => exact broadcast_randomSeed _ b
  | seat sid player _ _ _ _ info _ =>
      obtain ⟨_, he⟩ := sendOthersDirect?_eq _ player.pid info
      rw [he]
  | seatFake sid p _ _ _ _ _ info _ =>
      obtain ⟨_, _, _, he⟩ := broadcast?_eq _ info
      rw [he]
  | host pid _ _ info _ =>
      obtain ⟨_, _, _, he⟩ := s.broadcast?_eq info
      rw [he]
  | unseat | unhost | unfake => exact broadcast_randomSeed _ _
  | reap | begin | loaded | lagCheck | check | sendTurn => cases hfine
  | _ => rfl

/-- Only in the lobby is a seat given or taken back. -/
theorem Step.lobby (h : Step k s t)
    (hk : k = .seat ∨ k = .bounce ∨ k = .seatFake ∨ k = .unfake) : s.phase = .lobby := by
  rcases hk with rfl | rfl | rfl | rfl
  all_goals
    cases h with
    | misc _ hb => cases hb
    | table hk => cases hk
    | _ => assumption

/-- Only `begin_playing` writes the start down. -/
theorem Step.started_eq (h : Step k s t) (hfine : k.fine = true) (hne : k ≠ .restart) :
    t.started = s.started := by
  by_cases hseat : k = .seat ∨ k = .seatFake
  · rcases hseat with rfl | rfl
    · cases h with
      | misc _ hb => cases hb
      | table hk => cases hk
      | seat sid player _ _ _ _ info _ =>
          obtain ⟨_, he⟩ := sendOthersDirect?_eq _ player.pid info
          rw [he]
    · cases h with
      | misc _ hb => cases hb
      | table hk => cases hk
      | seatFake sid p _ _ _ _ _ info _ =>
          obtain ⟨_, _, _, he⟩ := broadcast?_eq _ info
          rw [he]
  · rw [not_or] at hseat
    exact (h.narrows ⟨hfine, hseat.1, hseat.2, hne⟩).started

omit [RustStd] in
/-- A game that has begun is not in the lobby. -/
theorem WellFormed.not_lobby (hs : WellFormed s) (hstart : s.started.isSome) :
    s.phase ≠ .lobby := by
  intro hlobby
  rcases hs.started hstart with h | h
  · rw [hlobby] at h
    cases h
  · rw [hlobby] at h
    cases h

/-- In a game that has begun, a step at most strikes somebody off. -/
theorem Step.strikes (h : Step k s t) (hfine : k.fine = true) (hs : WellFormed s)
    (hstart : s.started.isSome) :
    t.started.isSome ∧ t.startState.roster ⊆ s.startState.roster := by
  by_cases hrestart : k = .restart
  · subst hrestart
    cases h with
    | misc _ hb => cases hb
    | table hk => cases hk
    | restart =>
        rw [enterPlaying_started]
        refine ⟨rfl, fun e he => ?_⟩
        have hsame : s.enterPlaying.startState = s.startState :=
          (Option.some.inj (enterPlaying_started s)).symm
        rwa [hsame] at he
  · have hlobby := hs.not_lobby hstart
    have hnarrow := h.narrows ⟨hfine, fun he => hlobby (h.lobby (.inl he)),
      fun he => hlobby (h.lobby (.inr (.inr (.inl he)))), hrestart⟩
    rw [hnarrow.started]
    exact ⟨hstart, hnarrow.roster⟩

/-- Every step keeps what every run keeps. -/
theorem Step.since (h : Step k s t) (hfine : k.fine = true) (hs : WellFormed s) (hS : Since st s) :
    Since st t := by
  obtain ⟨hstart, hroster⟩ := h.strikes hfine hs hS.started
  refine ⟨hstart, ?_, fun e he => hS.roster (hroster he)⟩
  rw [h.randomSeed hfine, hS.randomSeed]

/-- A step that is no edit keeps the slots, or opens that of one who
leaves. -/
theorem Step.vacated {gone : List UInt8} (h : Step k s t) (hk : editsBefore k s) (hs : WellFormed s)
    (hV : Vacated st gone s) : ∃ gone', Vacated st gone' t := by
  have hS := h.since hk.1 hs hV.toSince
  have hroster := (h.strikes hk.1 hs hV.started).2
  by_cases hunseat : k = .unseat
  · subst hunseat
    cases h with
    | misc _ hb => cases hb
    | table hk => cases hk
    | unseat pid r code hfind hleft hhost =>
        rename_i p
        refine ⟨gone ++ [pid], ⟨hS, ?_, ?_, ?_⟩⟩
        · rw [broadcast_slots]
          show (s.slots.release pid).1 = _
          rw [hV.slots]
          unfold SlotTable.releasePids
          rw [List.foldl_append]
          rfl
        · intro q hq
          rcases List.mem_append.1 hq with hq | hq
          · exact hV.seated q hq
          · rw [List.mem_singleton.1 hq]
            refine ⟨(p.pid, p.name), hV.roster (mem_startRoster.2 ?_), byPid_pid hfind⟩
            exact ⟨p, List.mem_of_find?_eq_some hfind, hhost, rfl⟩
        · intro q hq e he
          rcases List.mem_append.1 hq with hq | hq
          · exact hV.away q hq e (hroster he)
          · rw [List.mem_singleton.1 hq]
            rw [broadcast_roster] at he
            obtain ⟨p', hp', -, rfl⟩ := mem_startRoster.1 he
            -- the ids are distinct, so nobody else had the leaver's
            intro heq
            exact Lib.key_not_mem_eraseP hs.pids (heq ▸ List.mem_map_of_mem hp')
  · have hlobby := hs.not_lobby hV.started
    have hedit : k.editsSlots = false := by
      cases hedits : k.editsSlots with
      | false => rfl
      | true =>
          have hstart := hV.started
          cases k with
          | slots | vacate | hcl =>
              rw [hk.2 rfl] at hstart
              cases hstart
          | seat | bounce | seatFake | unfake => exact absurd (h.lobby (by simp)) hlobby
          | _ => cases hedits
    refine ⟨gone, ⟨hS, ?_, hV.seated, fun q hq e he => hV.away q hq e (hroster he)⟩⟩
    rw [h.slots_eq ⟨hk.1, hedit, hunseat⟩, hV.slots]

/-- If the game has begun, then only leavers have changed it since. -/
def Begun (s : GameState) : Prop := ∀ st, s.started = some st → ∃ gone, Vacated st gone s

theorem Step.begun (h : Step k s t) (hk : editsBefore k s) (hs : WellFormed s) (hB : Begun s) :
    Begun t := by
  intro st hst
  by_cases hrestart : k = .restart
  · subst hrestart
    cases h with
    | misc _ hb => cases hb
    | table hk => cases hk
    | restart =>
        rw [enterPlaying_started] at hst
        obtain rfl := Option.some.inj hst
        exact ⟨[], ⟨⟨rfl, rfl, fun _ he => he⟩, rfl, nofun, nofun⟩⟩
  · rw [h.started_eq hk.1 hrestart] at hst
    obtain ⟨gone, hV⟩ := hB st hst
    exact h.vacated hk hs hV

end Steps

-- ================================================================ iterations

section Iterations

variable [RustStd] {s t : GameState} {st : StartState} {ev : Event}

/-- An iteration edits the slots before the game has begun, or not at
all. -/
theorem admits_editsBefore (hs : WellFormed s) (hC : SlotsKept s ev) :
    Admits editsBefore s ev := by
  have hfree : ∀ {k : Kind} {t : GameState}, k.fine = true → k.editsTable = false →
      editsBefore k t := fun hfine hedit => ⟨hfine, fun h => by rw [hedit] at h; cases h⟩
  have hnone : s.phase = .lobby ∨ s.editsSlots ev = true → s.started = none := by
    intro h
    cases hstart : s.started with
    | none => rfl
    | some st =>
        have hsome : s.started.isSome := by rw [hstart]; rfl
        rcases h with hlobby | hedit
        · exact absurd hlobby (hs.not_lobby hsome)
        · rw [hC hsome] at hedit
          cases hedit
  exact
    { phase := fun _ => hfree rfl rfl
      slots := fun h t ht => ⟨rfl, fun _ => by rw [ht.started, hnone h]⟩
      vacate := fun cmd sid hcmd hvac t ht => by
        have hedit : cmd.editsSlots = true := by cases cmd <;> first | rfl | cases hvac
        have hall : s.editsSlots ev = true := by simp [editsSlots, hcmd, hedit]
        exact ⟨rfl, fun _ => by rw [ht.started, hnone (.inr hall)]⟩
      limit := fun _ => hfree rfl rfl
      seat := fun _ _ _ _ _ _ _ => hfree rfl rfl
      bounce := fun _ _ => hfree rfl rfl
      seatFake := fun _ _ _ _ => hfree rfl rfl
      token := fun _ _ _ _ _ _ _ => hfree rfl rfl
      host := fun _ _ => hfree rfl rfl
      unhost := fun _ _ _ => hfree rfl rfl
      unfake := fun _ _ _ _ => hfree rfl rfl
      rehost := fun _ _ _ => hfree rfl rfl
      record := fun _ _ _ => hfree rfl rfl
      attachFull := fun _ _ _ _ _ => hfree rfl rfl
      attachGps := fun _ _ _ _ _ _ => hfree rfl rfl
      ack := fun _ _ _ _ _ _ _ _ _ => hfree rfl rfl
      queue := fun _ _ => hfree rfl rfl
      cache := fun _ _ => hfree rfl rfl
      feed := fun _ _ _ => hfree rfl rfl
      timeout := fun _ _ _ => hfree rfl rfl
      plain := plain_editsBefore
      reap := fun _ _ ht => does_reapLeftPlayers plain_editsBefore (fun _ => hfree rfl rfl)
        (fun _ => hfree rfl rfl) (fun _ => hfree rfl rfl) (fun _ _ => hfree rfl rfl) ht
      begin := fun _ _ hdue => by
        -- the game mode is written when loading begins, which is before the game does
        have hhead : s.tickHead.started = none := by
          rw [(tickHead_framed s).started]
          cases hstart : s.started with
          | none => rfl
          | some st =>
              have hsome : s.started.isSome := by rw [hstart]; rfl
              have hphase : s.tickHead.phase = s.phase := (tickHead_framed s).phase
              unfold countdownDue at hdue
              rw [hphase] at hdue
              rcases hs.started hsome with h | h
              · rw [h] at hdue
                cases hdue
              · rw [h] at hdue
                cases hdue
        exact does_beginLoading plain_editsBefore (hfree rfl rfl)
          (fun t ht => ⟨rfl, fun _ => by rw [ht, hhead]⟩) (fun _ _ _ => hfree rfl rfl)
          (fun _ => hfree rfl rfl) (fun _ _ => hfree rfl rfl) (phaseStep_of_countdownDue hdue)
      loaded := fun _ _ _ _ => does_handleLoaded plain_editsBefore (fun _ => hfree rfl rfl)
        (fun _ => hfree rfl rfl) (fun _ => hfree rfl rfl) fun _ _ _ _ => hfree rfl rfl
      check := fun t _ => does_checkDesync plain_editsBefore (fun _ => hfree rfl rfl)
        (fun _ => hfree rfl rfl) t
      lagCheck := fun _ _ _ => does_checkLag plain_editsBefore (fun _ => hfree rfl rfl)
        (fun _ => hfree rfl rfl) fun _ _ => hfree rfl rfl
      sendTurn := fun skipped _ _ _ _ hstart => does_sendAllActions plain_editsBefore
        (hfree rfl rfl) (fun _ => hfree rfl rfl) hstart skipped }

/-- The iteration in which the game begins leaves it as it began, but
for those it reaps. -/
theorem step_begun (hs : WellFormed s) (hev : ev.Sound) (hnone : s.started = none) :
    Begun (s.step ev) := by
  have hC : SlotsKept s ev := fun h => by
    rw [hnone] at h
    cases h
  have hB : Begun s := fun st h => by
    rw [hnone] at h
    cases h
  refine (Lib.Path.preserves (I := fun s => WellFormed s ∧ Begun s) ?_
    (does_step hs hev (admits_editsBefore hs hC)) ⟨hs, hB⟩).2
  rintro k s t hk hst ⟨hs, hB⟩
  exact ⟨hst.keeps_wellFormed hs, hst.begun hk hs hB⟩

theorem step_since (hs : WellFormed s) (hev : ev.Sound) (hS : Since st s) :
    Since st (s.step ev) := by
  refine (Lib.Path.preserves (I := fun s => WellFormed s ∧ Since st s) ?_
    (does_step hs hev (admits_anyFine s ev)) ⟨hs, hS⟩).2
  rintro k s t hk hst ⟨hs, hS⟩
  exact ⟨hst.keeps_wellFormed hs, hst.since hk hs hS⟩

theorem step_vacated (hs : WellFormed s) (hev : ev.Sound) (hC : SlotsKept s ev)
    (hV : ∃ gone, Vacated st gone s) : ∃ gone, Vacated st gone (s.step ev) := by
  refine (Lib.Path.preserves (I := fun s => WellFormed s ∧ ∃ gone, Vacated st gone s) ?_
    (does_step hs hev (admits_editsBefore hs hC)) ⟨hs, hV⟩).2
  rintro k s t hk hst ⟨hs, gone, hV⟩
  exact ⟨hst.keeps_wellFormed hs, hst.vacated hk hs hV⟩

end Iterations

-- ==================================================================== result

section Runs

variable [RustStd] {s₀ s : GameState} {st : StartState} {ev₀ : Event}

/-- In every run, and for every REQ_JOIN that is a FULL rejoin of a held
seat: the client gets the handshake of the state it comes back to; and
this hands it the slots, the seed and the roster that the clients had
when the game began exactly if the slot table is the one they were sent
last before, everyone the game began with is still at the table and not
marked left, and the packets of the handshake can be built. Where no
slot command was given since the game began, the table has to have been
the one they were sent when it began, and what remains is that nobody
has left since. -/
theorem full_rejoin_start_state_iff (h₀ : Reaches (fun _ _ => True) s₀) (hnone : s₀.started = none)
    (hev₀ : ev₀.Sound) (hst : (s₀.step ev₀).started = some st)
    (hrun : Runs (fun _ _ => True) (s₀.step ev₀) s) {c : Nat} (hpend : c ∈ s.pendingIds)
    {payload : List UInt8} {req : ReqJoin} (hreq : ReqJoin.decode payload = .ok req) {pid : UInt8}
    (hseat : s.fullRejoinSeat c req.name = some pid) (env : Env) :
    ∃ ip link, ∃ p ∈ s.players, p.pid = pid
      ∧ s.handle (.cmd env (.frame c (.w3gs 0x1E payload)))
        = (s.rejoinHandshake pid req.listenPort ip).foldl (fun s b => s.sendTo pid b)
          ((s.unpend c).reattach c pid link)
      ∧ (Hands (st.withSlots (s₀.step ev₀).clientSlots) (pid, p.name)
          (s.rejoinHandshake pid req.listenPort ip)
        ↔ s.slots = (s₀.step ev₀).clientSlots ∧ st.AllHere s
          ∧ HandshakeFits s pid req.listenPort ip)
      ∧ (Runs SlotsKept (s₀.step ev₀) s →
        (Hands (st.withSlots (s₀.step ev₀).clientSlots) (pid, p.name)
            (s.rejoinHandshake pid req.listenPort ip)
          ↔ st.slots = (s₀.step ev₀).clientSlots ∧ st.AllHere s
            ∧ HandshakeFits s pid req.listenPort ip)) := by
  have hs₀ : WellFormed s₀ := h₀.wellFormed
  have hs₁ : WellFormed (s₀.step ev₀) := step_wellFormed hs₀ hev₀
  obtain ⟨gone, hV⟩ := step_begun hs₀ hev₀ hnone st hst
  obtain ⟨hs, hS⟩ := hrun.preserves (I := Since st) hs₁ hV.toSince
    fun s ev hs hev _ hS => step_since hs hev hS
  have hphase : s.phase = .loading ∨ s.phase = .playing := by
    unfold fullRejoinSeat at hseat
    split at hseat
    · rename_i h
      exact h.symm
    · cases hseat
  obtain ⟨ip, link, hjoin⟩ := handleReqJoin_started hphase hpend hreq env.reconnectKey
  rw [hseat] at hjoin
  obtain ⟨token, p, -, hp, hpid⟩ := (fullRejoinSeat_iff hs hphase c req.name pid).1 hseat
  have hok := hs.players p hp.seated
  have hhost : p.virtualHost = false := hok.virtualHost_of_gproxy (hok.held hp.held)
  have hsent : Since (st.withSlots (s₀.step ev₀).clientSlots) s :=
    ⟨hS.started, hS.randomSeed, hS.roster⟩
  have hhands := hands_iff hs hsent hp.seated hhost hp.left req.listenPort ip
  rw [hpid] at hhands
  refine ⟨ip, link, p, hp.seated, hpid, ?_, hhands, fun hkept => ?_⟩
  · exact hjoin.trans (fullRejoin_eq (s.unpend c) c pid req ip link)
  · obtain ⟨-, gone', hV'⟩ :=
      hkept.preserves (I := fun s => ∃ gone, Vacated st gone s) hs₁ ⟨gone, hV⟩
      fun s ev hs hev hC hV => step_vacated hs hev hC hV
    rw [hhands]
    -- with everyone here the slots are those of the start
    constructor
    · rintro ⟨hslots, hall, hfits⟩
      exact ⟨(hV'.slots_eq hall).symm.trans hslots, hall, hfits⟩
    · rintro ⟨hslots, hall, hfits⟩
      exact ⟨(hV'.slots_eq hall).trans hslots, hall, hfits⟩

end Runs

section Scenarios

open Scenario

instance (st : StartState) (s : GameState) : Decidable (st.AllHere s) :=
  inferInstanceAs (Decidable (∀ e ∈ st.roster, ∃ q ∈ s.players,
    q.virtualHost = false ∧ q.left = none ∧ (q.pid, q.name) = e))

instance (s : GameState) (ev : Event) : Decidable (SlotsKept s ev) :=
  inferInstanceAs (Decidable (s.started.isSome → s.editsSlots ev = false))

/-- A game of three, of whom one has yet to load. -/
def threeLoading : GameState :=
  lobby.run (twoJoin PlayerLink.drained PlayerLink.drained
    ++ [connect 3 PlayerLink.drained, join 3 (txt "cid")] ++ countdown ++ [loaded 1, loaded 2])

/-- The first player uses GProxy, restarts cold, and has sent its token
on a new connection; before that, this happens. -/
def coldStart (before : List Event) : GameState :=
  (threeLoading.step (loaded 3)).run
    (hello 1 :: before ++ [closed 1, connect 4 PlayerLink.drained, full 4 1])

theorem full_rejoin_start_state_iff_coldStart :
    ∃ st ip link, (threeLoading.step (loaded 3)).started = some st
      ∧ st.slots = (threeLoading.step (loaded 3)).clientSlots
      ∧ ∃ p ∈ (coldStart []).players, p.pid = 1
      ∧ (coldStart []).handle (join 4 (txt "Ann"))
        = ((coldStart []).rejoinHandshake 1 6112 ip).foldl (fun s b => s.sendTo 1 b)
          (((coldStart []).unpend 4).reattach 4 1 link)
      ∧ (Hands (st.withSlots (threeLoading.step (loaded 3)).clientSlots) (1, p.name)
          ((coldStart []).rejoinHandshake 1 6112 ip)
        ↔ st.AllHere (coldStart []) ∧ HandshakeFits (coldStart []) 1 6112 ip) := by
  have h₀ : Reaches (fun _ _ => True) threeLoading :=
    ⟨config, 0, 5, Runs.of_meets (by decide +kernel)⟩
  have hrun : Runs SlotsKept (threeLoading.step (loaded 3)) (coldStart []) :=
    Runs.of_meets (by decide +kernel)
  have hany : Runs (fun _ _ => True) (threeLoading.step (loaded 3)) (coldStart []) :=
    Lib.Path.mono (fun _ _ h => ⟨h.1, trivial⟩) hrun
  have hstart : (threeLoading.step (loaded 3)).started.map (fun st =>
      decide (st.slots = (threeLoading.step (loaded 3)).clientSlots)) = some true := by
    decide +kernel
  obtain ⟨st, hst, hslots⟩ := Option.map_eq_some_iff.1 hstart
  have hsame : st.slots = (threeLoading.step (loaded 3)).clientSlots := of_decide_eq_true hslots
  have hreq : ReqJoin.decode (u32le 1 ++ u32le 0 ++ [0] ++ u16le 6112 ++ u32le 0 ++ txt "Ann" ++ [0]
      ++ [0, 0, 0, 0, 0, 0] ++ [10, 0, 0, 1]) = .ok ⟨1, 0, 6112, 0, txt "Ann", ⟨10, 0, 0, 1⟩⟩ := by
    decide +kernel
  obtain ⟨ip, link, p, hp, hpid, hhandle, -, hiff⟩ := full_rejoin_start_state_iff h₀
    (by decide +kernel) (by decide +kernel) hst hany
      (by decide +kernel : 4 ∈ (coldStart []).pendingIds)
    hreq (by decide +kernel : (coldStart []).fullRejoinSeat 4 (txt "Ann") = some 1) (env 7)
  refine ⟨st, ip, link, hst, hsame, p, hp, hpid, hhandle, (hiff hrun).trans ?_⟩
  exact and_iff_right hsame

/-- The last player to load leaves instead, which starts the game; the
first comes back cold. -/
def loadingLeaver : GameState :=
  (threeLoading.step (leaveGame 3)).run
    [hello 1, closed 1, connect 4 PlayerLink.drained, full 4 1]

/-- The second player leaves and is reaped; the first comes back cold.
It is told of the third player only, with the slot of the second open,
while the history it is fed is there from the first packet on. And when
the third player leaves while the game loads, nobody has left since the
game began, but the slot handed out as open is taken in the table the
others were sent. -/
theorem leaver_missing_from_cold_start :
    Reaches (fun _ _ => True) threeLoading ∧ (loaded 3).Sound ∧ threeLoading.started = none
      ∧ Runs SlotsKept (threeLoading.step (loaded 3)) (coldStart [leaveGame 2])
      ∧ (coldStart [leaveGame 2]).phase = .playing
      ∧ (coldStart [leaveGame 2]).fullHistory.firstSeq = 0
      ∧ (coldStart [leaveGame 2]).fullRejoinSeat 4 (txt "Ann") = some 1
      ∧ (∃ st, (threeLoading.step (loaded 3)).started = some st
        ∧ st.roster = [(1, txt "ann"), (2, txt "bob"), (3, txt "cid")]
        ∧ st.slots ≠ (coldStart [leaveGame 2]).slots
        ∧ ∀ port ip, ¬Hands (st.withSlots (threeLoading.step (loaded 3)).clientSlots) (1, txt "ann")
          ((coldStart [leaveGame 2]).rejoinHandshake 1 port ip))
      ∧ (leaveGame 3).Sound ∧ loadingLeaver.fullRejoinSeat 4 (txt "Ann") = some 1
      ∧ ∃ st, (threeLoading.step (leaveGame 3)).started = some st ∧ st.AllHere loadingLeaver
        ∧ ∀ port ip, ¬Hands (st.withSlots (threeLoading.step (leaveGame 3)).clientSlots)
          (1, txt "ann") (loadingLeaver.rejoinHandshake 1 port ip) := by
  refine ⟨⟨config, 0, 5, Runs.of_meets (by decide +kernel)⟩, by decide +kernel, by decide +kernel,
    Runs.of_meets (by decide +kernel), by decide +kernel, by decide +kernel, by decide +kernel,
    ?_, by decide +kernel, by decide +kernel, ?_⟩
  · have hstart : (threeLoading.step (loaded 3)).started.map (fun st => (st.roster,
        decide (st.slots ≠ (coldStart [leaveGame 2]).slots)))
        = some ([(1, txt "ann"), (2, txt "bob"), (3, txt "cid")], true) := by decide +kernel
    obtain ⟨st, hst, hfacts⟩ := Option.map_eq_some_iff.1 hstart
    obtain ⟨hroster, hslots⟩ := Prod.mk.inj hfacts
    refine ⟨st, hst, hroster, of_decide_eq_true hslots, fun port ip hands => ?_⟩
    -- bob stood in the roster of the start and has left since
    have hbob : (2, txt "bob") ∈ st.roster := by
      rw [hroster]
      exact List.mem_cons_of_mem _ List.mem_cons_self
    rcases (hands.roster _).1 hbob with heq | hann
    · cases congrArg Prod.fst heq
    · obtain ⟨q, hq, heq, -⟩ := player_mem_rejoinHandshake.1 hann
      have hothers : ∀ q ∈ (coldStart [leaveGame 2]).rejoinOthers 1, q.pid ≠ 2 := by decide +kernel
      exact hothers q hq (congrArg Prod.fst heq)
  · have hstart : (threeLoading.step (leaveGame 3)).started.map (fun st =>
        decide (st.AllHere loadingLeaver)) = some true := by decide +kernel
    obtain ⟨st, hst, hall⟩ := Option.map_eq_some_iff.1 hstart
    refine ⟨st, hst, of_decide_eq_true hall, fun port ip hands => ?_⟩
    obtain ⟨hslots, -⟩ := slots_mem_rejoinHandshake.1 hands.slots
    -- the slot released while loading was sent to nobody
    have hdiffer : (threeLoading.step (leaveGame 3)).clientSlots ≠ loadingLeaver.slots := by
      decide +kernel
    exact hdiffer hslots

end Scenarios

end Spectre

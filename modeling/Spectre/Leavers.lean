/-
The leave records of the replay.

The reaper appends a record for everyone it removes, in every phase,
while the roster is only written when the game starts; and an id that
was freed in the lobby goes to the next client. So a record of the lobby
stands in the stream of the game, for an id that is somebody else's or
nobody's. Where nobody has left by the time loading begins, every record
is of a player of the game, and of each there is at most one.
-/
import Spectre.Books
import Spectre.Phases
import Spectre.Rosters
import Spectre.Scenario
import Spectre.Seating

namespace Spectre

open GameState

-- ================================================================= statement

/-- The player a LEAVEGAME record is about. -/
def ReplayRecord.leaver? : ReplayRecord → Option UInt8
  | leaver pid _ _ => some pid
  | _ => none

namespace ReplayBody

/-- The players with a LEAVEGAME record among the loading blocks; the id
is the sixth byte of such a block. -/
def leftLoading (b : ReplayBody) : List UInt8 := b.loadingBlocks.filterMap fun lb => lb[5]?

/-- The players with a LEAVEGAME record in the stream. -/
def leftPlaying (b : ReplayBody) : List UInt8 := b.records.filterMap ReplayRecord.leaver?

/-- The players with a LEAVEGAME record, each as often as it has one. -/
def leavers (b : ReplayBody) : List UInt8 := b.leftLoading ++ b.leftPlaying

/-- The players the prologue lists: the host record and the player
records. -/
def listed (b : ReplayBody) : List UInt8 := b.hostPid :: b.players.map Prod.fst

end ReplayBody

/-- The leave records match the roster: each is about a player that the
prologue lists or that left while loading, and no two are about the
same. -/
structure LeavesMatch (b : ReplayBody) : Prop where
  listed : ∀ pid ∈ b.leavers, pid ∈ b.listed ∨ pid ∈ b.leftLoading
  once : b.leavers.Nodup

/-- Nobody has left before the game starts. This is asked when the
countdown ends and when a load frame starts a game that does not
load. -/
structure StartsWhole [RustStd] (s : GameState) (ev : Event) : Prop where
  begin : s.finished = false → (∃ skipped, ev = .tick skipped) → s.tickHead.countdownDue = true →
    s.reaped = []
  loaded : s.finished = false → s.loadStarts ev = true → s.phase = .loading ∨ s.reaped = []

-- ============================================================== the replay body

namespace ReplayBody

/-- Two bodies with the same leave records. -/
structure SameLeaves (b c : ReplayBody) : Prop where
  loading : c.leftLoading = b.leftLoading
  playing : c.leftPlaying = b.leftPlaying

/-- The same leave records are of the same players. -/
theorem SameLeaves.leavers {b c : ReplayBody} (h : SameLeaves b c) : c.leavers = b.leavers := by
  unfold ReplayBody.leavers
  rw [h.loading, h.playing]

variable (b : ReplayBody)

/-- Another record is no leave record. -/
theorem leftPlaying_add (c : ReplayRecord) (hc : c.leaver? = none) (ms : Nat) :
    leftPlaying { b.add c with replayLengthMs := ms } = b.leftPlaying := by
  show (b.records ++ [c]).filterMap _ = _
  rw [List.filterMap_append, List.filterMap_cons_none hc, List.filterMap_nil, List.append_nil]
  rfl

/-- A leaver while loading is one more. -/
@[simp] theorem leftLoading_addLeaverLoading (pid : UInt8) (code : Nat) :
    (b.addLeaverLoading pid 1 code).leftLoading = b.leftLoading ++ [pid] := by
  show (b.loadingBlocks ++ [leaveBlock pid 1 code]).filterMap _ = _
  rw [List.filterMap_append]
  rfl

/-- So is one in the game. -/
@[simp] theorem leftPlaying_addLeaver (pid : UInt8) (code : Nat) :
    (b.addLeaver pid 1 code).leftPlaying = b.leftPlaying ++ [pid] := by
  show (b.records ++ [ReplayRecord.leaver pid 1 code]).filterMap _ = _
  rw [List.filterMap_append]
  rfl

/-- What `add_player` leaves alone, and what it lists. -/
theorem addPlayer_cases (pid : UInt8) (name : Text) :
    SameLeaves b (b.addPlayer pid name) ∧ (b.addPlayer pid name).hostPid = b.hostPid
      ∧ (∀ q ∈ b.listed, q ∈ (b.addPlayer pid name).listed)
      ∧ pid ∈ (b.addPlayer pid name).listed := by
  unfold addPlayer
  split
  · rename_i hhost
    exact ⟨⟨rfl, rfl⟩, rfl, fun _ h => h, hhost ▸ List.mem_cons_self⟩
  · refine ⟨⟨rfl, rfl⟩, rfl, fun q hq => ?_, ?_⟩
    · rcases List.mem_cons.1 hq with rfl | hq
      · exact List.mem_cons_self
      · refine List.mem_cons_of_mem _ ?_
        rw [List.map_append]
        exact List.mem_append_left _ hq
    · exact List.mem_cons_of_mem _ (by simp)

/-- The players of a roster are all listed. -/
theorem addPlayers_listed (humans : List Player) :
    SameLeaves b (humans.foldl (fun r p => r.addPlayer p.pid p.name) b)
      ∧ (∀ q ∈ b.listed, q ∈ (humans.foldl (fun r p => r.addPlayer p.pid p.name) b).listed)
      ∧ ∀ p ∈ humans,
        p.pid ∈ (humans.foldl (fun r p => r.addPlayer p.pid p.name) b).listed := by
  induction humans generalizing b with
  | nil => exact ⟨⟨rfl, rfl⟩, fun _ h => h, fun _ h => nomatch h⟩
  | cons p humans ih =>
      obtain ⟨hsame, -, hkeep, hpid⟩ := b.addPlayer_cases p.pid p.name
      obtain ⟨hsame', hkeep', hall⟩ := ih (b.addPlayer p.pid p.name)
      refine ⟨⟨hsame'.loading.trans hsame.loading, hsame'.playing.trans hsame.playing⟩,
        fun q hq => hkeep' q (hkeep q hq), fun q hq => ?_⟩
      rcases List.mem_cons.1 hq with rfl | hq
      · exact hkeep' _ hpid
      · exact hall q hq

/-- The start record has nothing to do with them. -/
theorem setStart_cases (slots : List UInt8) (seed : UInt32) (mode spots : UInt8) :
    SameLeaves b (b.setStart slots seed mode spots)
      ∧ (b.setStart slots seed mode spots).listed = b.listed := by
  unfold setStart
  split
  · exact ⟨⟨rfl, rfl⟩, rfl⟩
  · exact ⟨⟨rfl, rfl⟩, rfl⟩

end ReplayBody

/-- The prologue that `begin_playing` writes lists every guest, and no
leave record changes. -/
theorem startReplay_replay {s : GameState} {b : ReplayBody} (hb : s.replay = some b) :
    ∃ c, s.startReplay.replay = some c ∧ b.SameLeaves c ∧ ∀ pid ∈ s.players.guests,
      pid ∈ c.listed := by
  have hreplay : s.startReplay.replay = s.replay.map _ := rfl
  rw [hb, Option.map_some] at hreplay
  refine ⟨_, hreplay, ?_⟩
  generalize (if s.virtualHostPid ≠ 255 ∧ s.hostPid = s.virtualHostPid then s.cfg.virtualHostName
    else _) = hostName
  have hhost : b.SameLeaves (b.setHost s.hostPid hostName) := ⟨rfl, rfl⟩
  obtain ⟨hplayers, -, hall⟩ := (b.setHost s.hostPid hostName).addPlayers_listed
    (s.players.filter fun p => !p.virtualHost)
  obtain ⟨hstart, hlisted⟩ := ((s.players.filter fun p => !p.virtualHost).foldl
    (fun r p => r.addPlayer p.pid p.name) (b.setHost s.hostPid hostName)).setStart_cases
      s.slots.asWireBytes s.randomSeed s.cfg.map.layoutStyle s.cfg.map.numPlayers
  refine ⟨⟨hstart.loading.trans (hplayers.loading.trans hhost.loading),
    hstart.playing.trans (hplayers.playing.trans hhost.playing)⟩, fun pid hpid => ?_⟩
  obtain ⟨p, hp, rfl⟩ := List.mem_map.1 hpid
  rw [hlisted]
  exact hall p hp

-- ================================================================= invariant

/-- The leave records `b` holds in the state `s`, from a moment on when
the players of `base` had been reaped. -/
structure Departed (base : List (UInt8 × LeftReason)) (s : GameState) (b : ReplayBody) : Prop where
  since : base <+: s.reaped
  begun : s.phase = .loading ∨ s.started.isSome → base = []
  fresh : s.reaped = [] → b.leavers = []
  gone : s.phase = .loading ∨ s.started.isSome →
    b.leavers = s.reaped.map Prod.fst ∧ b.leavers.Nodup ∧ ∀ pid ∈ b.leavers, pid ∉ s.players.guests
  loading : s.phase = .loading → b.leftPlaying = []
  seated : ∀ st, s.started = some st → ∀ pid ∈ s.players.guests, pid ∈ st.roster.map Prod.fst
  left : ∀ st, s.started = some st → ∀ pid ∈ b.leftPlaying, pid ∈ st.roster.map Prod.fst
  recorded : b.startSet = true → s.started.isSome

/-- The prologue of a started game lists its roster. -/
structure Leaves (base : List (UInt8 × LeftReason)) (s : GameState) (b : ReplayBody) : Prop
    extends Departed base s b where
  listed : ∀ st, s.started = some st → ∀ pid ∈ st.roster.map Prod.fst, pid ∈ b.listed

/-- The replay of the state holds these leave records. -/
def HoldsLeaves (base : List (UInt8 × LeftReason)) (s : GameState) : Prop :=
  ∃ b, s.replay = some b ∧ Leaves base s b

/-- The guests are the ids on the roster. -/
theorem roster_fst (s : GameState) : s.startState.roster.map Prod.fst = s.players.guests := by
  unfold startState PlayerTable.guests
  rw [List.map_map]
  rfl

/-- What the steps leave alone that neither remove nor start. -/
structure Stays (s t : GameState) : Prop where
  reaped : t.reaped = s.reaped
  started : t.started = s.started
  guests : t.phase = .lobby ∨ t.players.guests ⊆ s.players.guests
  phase : t.phase = .loading → s.phase = .loading ∨ s.reaped = []

/-- The steps that only take off the table what is nobody's seat. -/
theorem Stays.of_roster {s t : GameState} (hreaped : t.reaped = s.reaped) (hn : Narrows s t)
    (hphase : t.phase = s.phase) : Stays s t where
  reaped := hreaped
  started := hn.started
  guests := by
    refine .inr fun pid hpid => ?_
    rw [← roster_fst] at hpid ⊢
    exact List.map_subset _ hn.roster hpid
  phase h := .inl (hphase ▸ h)

/-- Where the records stay too, so does what is known of them. -/
theorem Departed.stay {base : List (UInt8 × LeftReason)} {s t : GameState} {b c : ReplayBody}
    (h : Departed base s b) (ht : WellFormed t) (hst : Stays s t) (hsame : b.SameLeaves c)
    (hset : c.startSet = true → t.started.isSome) : Departed base t c := by
  -- a game that is loading or has begun seats nobody new
  have hguests : t.started.isSome ∨ t.phase = .loading → t.players.guests ⊆ s.players.guests := by
    intro hgame
    refine hst.guests.resolve_left fun hlobby => ?_
    rcases hgame with hstart | hload
    · rcases ht.started hstart with h | h <;> rw [hlobby] at h <;> cases h
    · rw [hlobby] at hload
      cases hload
  -- and one that only now begins has reaped nobody since
  have hbefore : t.phase = .loading ∨ t.started.isSome →
      (s.phase = .loading ∨ s.started.isSome) ∨ s.reaped = [] := by
    rintro (hload | hstart)
    · rcases hst.phase hload with h | h
      · exact .inl (.inl h)
      · exact .inr h
    · exact .inl (.inr (hst.started ▸ hstart))
  exact
    { since := hst.reaped ▸ h.since
      begun := fun hgame => by
        rcases hbefore hgame with hgame | hnone
        · exact h.begun hgame
        · exact List.prefix_nil.1 (hnone ▸ h.since)
      fresh := fun hnone => by
        rw [hsame.leavers]
        exact h.fresh (hst.reaped ▸ hnone)
      gone := fun hgame => by
        rw [hsame.leavers]
        rcases hbefore hgame with hgame' | hnone
        · obtain ⟨hreaped, hnd, hout⟩ := h.gone hgame'
          rw [hst.reaped]
          exact ⟨hreaped, hnd, fun pid hpid hmem => hout pid hpid (hguests hgame.symm hmem)⟩
        · rw [h.fresh hnone, hst.reaped, hnone]
          exact ⟨rfl, List.nodup_nil, fun _ hpid => nomatch hpid⟩
      loading := fun hload => by
        rw [hsame.playing]
        rcases hst.phase hload with hload' | hnone
        · exact h.loading hload'
        · exact (List.append_eq_nil_iff.1 (h.fresh hnone)).2
      seated := fun st hstart pid hpid =>
        h.seated st (hst.started ▸ hstart) pid (hguests (.inl (by rw [hstart]; rfl)) hpid)
      left := fun st hstart pid hpid =>
        h.left st (hst.started ▸ hstart) pid (hsame.playing ▸ hpid)
      recorded := hset }

/-- What leaves both alone keeps them in step. -/
theorem Leaves.stay {base : List (UInt8 × LeftReason)} {s t : GameState} {b c : ReplayBody}
    (h : Leaves base s b) (ht : WellFormed t) (hst : Stays s t) (hsame : b.SameLeaves c)
    (hlisted : c.listed = b.listed) (hset : c.startSet = b.startSet) : Leaves base t c where
  toDeparted := h.toDeparted.stay ht hst hsame fun hc => hst.started ▸ h.recorded (hset ▸ hc)
  listed st hstart pid hpid := hlisted ▸ h.listed st (hst.started ▸ hstart) pid hpid

/-- The steps that neither remove a player nor start the game; loading
begins where nobody has left. -/
def leavesAlone (k : Kind) (s : GameState) : Prop :=
  k.fine = true ∧ k ≠ .leaver ∧ k ≠ .unseat ∧ k ≠ .restart ∧ (k = .toLoading → s.reaped = [])

/-- Which kinds these steps are of. -/
theorem leavesAlone_of {k : Kind} (hk : k.fine = true) (hl : k ≠ .leaver) (hu : k ≠ .unseat)
    (hr : k ≠ .restart) (ht : k ≠ .toLoading) (s : GameState) : leavesAlone k s :=
  ⟨hk, hl, hu, hr, fun h => absurd h ht⟩

/-- What every command may do is among them. -/
theorem plain_leavesAlone : Plain leavesAlone := by
  intro k hk s
  refine leavesAlone_of (Kind.free_of_plain hk).1 ?_ ?_ ?_ ?_ s
  all_goals
    rintro rfl
    cases hk

section Steps

variable [RustStd] {base : List (UInt8 × LeftReason)} {s t : GameState}

/-- They leave alone what they are said to. -/
theorem Step.stays {k : Kind} (h : Step k s t) (hk : leavesAlone k s) : Stays s t := by
  obtain ⟨hfine, -, hunseat, hrestart, hload⟩ := hk
  -- most steps leave the table alone; the others are gone through one by one
  by_cases hinert : k.inert = true
  · have hframe := h.framed hinert
    exact .of_roster hframe.reaped (.of_same hframe.started (h.keepsRoster hinert)) hframe.phase
  · have hseats : k ≠ .seat → k ≠ .seatFake → Narrows s t :=
      fun h₁ h₂ => h.narrows ⟨hfine, h₁, h₂, hrestart⟩
    cases h with
    | seat sid player hlobby _ _ _ info _ =>
        cases info with
        | none => exact ⟨rfl, rfl, .inl hlobby, fun h => .inl h⟩
        | some b => exact ⟨rfl, rfl, .inl hlobby, fun h => .inl h⟩
    | seatFake sid p hlobby _ _ _ _ info _ =>
        cases info with
        | none => exact ⟨rfl, rfl, .inl hlobby, fun h => .inl h⟩
        | some b =>
            refine ⟨broadcast_reaped _ b, broadcast_started _ b, .inl ?_, fun h => .inl ?_⟩
            · exact (broadcast_phase _ b).trans hlobby
            · have hload : (GameState.broadcast _ b).phase = .loading := h
              rwa [broadcast_phase] at hload
    | host pid _ _ info _ =>
        refine .of_roster ?_ (hseats (by simp) (by simp)) ?_
        · cases info with
          | none => rfl
          | some b => exact broadcast_reaped s b
        · cases info with
          | none => rfl
          | some b => exact broadcast_phase s b
    | unhost _ _ =>
        exact .of_roster (broadcast_reaped _ _) (hseats (by simp) (by simp)) (broadcast_phase _ _)
    | unfake pid _ _ =>
        exact .of_roster (broadcast_reaped _ _) (hseats (by simp) (by simp)) (broadcast_phase _ _)
    | phase ph hph hne => exact ⟨rfl, rfl, .inr fun _ h => h, fun h => absurd h hne⟩
    | toLoading _ => exact ⟨rfl, rfl, .inr fun _ h => h, fun _ => .inr (hload rfl)⟩
    | unseat => exact absurd rfl hunseat
    | restart => exact absurd rfl hrestart
    | reap => cases hfine
    | begin => cases hfine
    | loaded => cases hfine
    | lagCheck => cases hfine
    | check => cases hfine
    | sendTurn => cases hfine
    | bounce _ _ _ _ => exact .of_roster rfl (hseats (by simp) (by simp)) rfl
    | slots _ _ => exact .of_roster rfl (hseats (by simp) (by simp)) rfl
    | vacate _ _ _ => exact .of_roster rfl (hseats (by simp) (by simp)) rfl
    | hcl _ => exact .of_roster rfl (hseats (by simp) (by simp)) rfl
    | turn _ _ => exact .of_roster rfl (hseats (by simp) (by simp)) rfl
    | queue _ _ => exact .of_roster rfl (hseats (by simp) (by simp)) rfl
    | cache _ => exact .of_roster rfl (hseats (by simp) (by simp)) rfl
    | limit _ _ => exact .of_roster rfl (hseats (by simp) (by simp)) rfl
    | misc _ hb => exact absurd (by cases hb <;> rfl) hinert
    | table hk _ _ => exact absurd (by cases k <;> first | rfl | cases hk) hinert
    | _ => exact absurd rfl hinert

/-- A step leaves the leave records alone, and the roster too, unless it
writes the prologue. -/
theorem Step.sameLeaves {k : Kind} (h : Step k s t) (hk : k.fine = true) (hl : k ≠ .leaver)
    {b : ReplayBody} (hb : s.replay = some b) :
    (∃ c, t.replay = some c ∧ b.SameLeaves c ∧ c.listed = b.listed ∧ c.startSet = b.startSet)
      ∨ s.started = some s.startState ∧ t = s.startReplay := by
  have hfst : ∀ {x}, t.books = x → t.replay = x.1 := fun h => congrArg Prod.fst h
  rcases h.books hk with hentry | ⟨-, f, c, hc, -, hf, hbooks⟩ | hbooks
  · cases hentry with
    | none h => exact .inl ⟨b, (hfst h).trans hb, ⟨rfl, rfl⟩, rfl, rfl⟩
    | record fits pid flag extra message _ h =>
        have hreplay := hfst h
        rw [hb] at hreplay
        exact .inl ⟨_, hreplay, ⟨rfl, b.leftPlaying_add _ rfl b.replayLengthMs⟩, rfl, rfl⟩
    | leaver => exact absurd rfl hl
    | prologue hstart => exact .inr ⟨hstart, rfl⟩
    | stats d data _ h => exact .inl ⟨b, (hfst h).trans hb, ⟨rfl, rfl⟩, rfl, rfl⟩
    | status e _ h => exact .inl ⟨b, (hfst h).trans hb, ⟨rfl, rfl⟩, rfl, rfl⟩
    | rehost _ h => exact .inl ⟨b, (hfst h).trans hb, ⟨rfl, rfl⟩, rfl, rfl⟩
  · have hreplay := hfst hbooks
    obtain ⟨ms, hms⟩ := hf b
    rw [hb, Option.map_some, hms] at hreplay
    have hnone : c.leaver? = none := by
      cases c with
      | leaver => cases hc
      | _ => rfl
    exact .inl ⟨_, hreplay, ⟨rfl, b.leftPlaying_add c hnone ms⟩, rfl, rfl⟩
  · exact .inl ⟨b, (hfst hbooks).trans hb, ⟨rfl, rfl⟩, rfl, rfl⟩

omit [RustStd] in
/-- Writing the prologue of a game that has just started. -/
theorem Departed.prologue {b : ReplayBody} (h : Departed base s b) (hb : s.replay = some b)
    (hstart : s.started = some s.startState) : HoldsLeaves base s.startReplay := by
  obtain ⟨c, hc, hsame, hall⟩ := startReplay_replay hb
  refine ⟨c, hc, ?_⟩
  exact
    { since := h.since
      begun := h.begun
      fresh := fun hnone => by
        rw [hsame.leavers]
        exact h.fresh hnone
      gone := fun hgame => by
        rw [hsame.leavers]
        exact h.gone hgame
      loading := fun hload => by
        rw [hsame.playing]
        exact h.loading hload
      seated := h.seated
      left := fun st hst pid hpid => h.left st hst pid (hsame.playing ▸ hpid)
      recorded := fun _ => by
        show s.started.isSome
        rw [hstart]
        rfl
      listed := fun st hst pid hpid => by
        -- the roster of the start is the roster of the table
        obtain rfl := Option.some.inj (hstart.symm.trans hst)
        rw [roster_fst] at hpid
        exact hall pid hpid }

/-- Such a step leaves the records alone; where it writes the prologue,
nobody has left since the game started. -/
theorem Step.leaves {k : Kind} (h : Step k s t) (hk : leavesAlone k s) (hs : WellFormed s)
    (hI : HoldsLeaves base s) : HoldsLeaves base t := by
  obtain ⟨b, hb, hI⟩ := hI
  have ht := h.keeps_wellFormed hs
  have hstays := h.stays hk
  rcases h.sameLeaves hk.1 hk.2.1 hb with ⟨c, hc, hsame, hlisted, hset⟩ | ⟨hstart, rfl⟩
  · exact ⟨c, hc, hI.stay ht hstays hsame hlisted hset⟩
  · exact hI.toDeparted.prologue hb hstart

/-- What is done in them keeps the records. -/
theorem Does.leaves (h : Does leavesAlone s t) (hs : WellFormed s) (hI : HoldsLeaves base s) :
    HoldsLeaves base t := by
  refine (Lib.Path.preserves (I := fun s => WellFormed s ∧ HoldsLeaves base s) ?_ h ⟨hs, hI⟩).2
  intro k s t hk hst ⟨hs, hI⟩
  exact ⟨hst.keeps_wellFormed hs, hst.leaves hk hs hI⟩

-- ========================================================= the reaper's record

omit [RustStd] in
/-- The reaper appends the record of the player it removes. -/
theorem Leaves.reap {b : ReplayBody} {pid : UInt8} {r : LeftReason} (code : Nat) {u : GameState}
    (h : Leaves base s b) (hs : WellFormed s) (hpid : pid ∈ s.players.guests)
    (hphase : u.phase = s.phase) (hstarted : u.started = s.started)
    (hplayers : u.players.guests = s.players.guests.erase pid)
    (hreaped : u.reaped = s.reaped ++ [(pid, r)]) :
    Leaves base u (if s.phase = .loading then b.addLeaverLoading pid 1 code
      else b.addLeaver pid 1 code) := by
  have hsub : ∀ q ∈ u.players.guests, q ∈ s.players.guests ∧ q ≠ pid := by
    intro q hq
    rw [hplayers, (PlayerTable.nodup_guests hs.pids).mem_erase_iff] at hq
    exact ⟨hq.2, hq.1⟩
  have hgame : u.phase = .loading ∨ u.started.isSome → s.phase = .loading ∨ s.started.isSome := by
    rw [hphase, hstarted]
    exact id
  have hgone : ∀ c : ReplayBody, c.leavers = b.leavers ++ [pid] →
      u.phase = .loading ∨ u.started.isSome →
      c.leavers = u.reaped.map Prod.fst ∧ c.leavers.Nodup
        ∧ ∀ q ∈ c.leavers, q ∉ u.players.guests := by
    intro c hc hg
    obtain ⟨heq, hnd, hout⟩ := h.gone (hgame hg)
    refine ⟨?_, ?_, ?_⟩
    · rw [hc, hreaped, List.map_append, heq]
      rfl
    · rw [hc, List.nodup_append]
      refine ⟨hnd, List.nodup_singleton pid, fun q hq q' hq' he => ?_⟩
      rw [List.mem_singleton] at hq'
      exact hout q hq (he.trans hq' ▸ hpid)
    · intro q hq hmem
      rw [hc, List.mem_append, List.mem_singleton] at hq
      rcases hq with hq | hq
      · exact hout q hq (hsub q hmem).1
      · exact (hsub q hmem).2 hq
  have hnone : u.reaped ≠ [] := by simp [hreaped]
  have hsince : base <+: u.reaped := hreaped ▸ h.since.trans (List.prefix_append _ _)
  by_cases hload : s.phase = .loading
  · -- while loading every record is a loading block
    rw [if_pos hload]
    have hplaying : b.leftPlaying = [] := h.loading hload
    have hleavers : (b.addLeaverLoading pid 1 code).leavers = b.leavers ++ [pid] := by
      show (b.addLeaverLoading pid 1 code).leftLoading ++ b.leftPlaying
        = b.leftLoading ++ b.leftPlaying ++ [pid]
      rw [b.leftLoading_addLeaverLoading, hplaying, List.append_nil, List.append_nil]
    exact
      { since := hsince
        begun := fun hg => h.begun (hgame hg)
        fresh := fun hempty => absurd hempty hnone
        gone := hgone _ hleavers
        loading := fun _ => hplaying
        seated := fun st hst q hq => h.seated st (hstarted ▸ hst) q (hsub q hq).1
        left := fun st hst q hq => h.left st (hstarted ▸ hst) q hq
        listed := fun st hst q hq => h.listed st (hstarted ▸ hst) q hq
        recorded := fun hset => hstarted ▸ h.recorded hset }
  · rw [if_neg hload]
    have hleavers : (b.addLeaver pid 1 code).leavers = b.leavers ++ [pid] := by
      show b.leftLoading ++ (b.addLeaver pid 1 code).leftPlaying
        = b.leftLoading ++ b.leftPlaying ++ [pid]
      rw [b.leftPlaying_addLeaver, List.append_assoc]
    exact
      { since := hsince
        begun := fun hg => h.begun (hgame hg)
        fresh := fun hempty => absurd hempty hnone
        gone := hgone _ hleavers
        loading := fun h' => absurd (hphase ▸ h') hload
        seated := fun st hst q hq => h.seated st (hstarted ▸ hst) q (hsub q hq).1
        left := fun st hst q hq => by
          rw [b.leftPlaying_addLeaver, List.mem_append, List.mem_singleton] at hq
          rcases hq with hq | rfl
          · exact h.left st (hstarted ▸ hst) q hq
          · exact h.seated st (hstarted ▸ hst) q hpid
        listed := fun st hst q hq => h.listed st (hstarted ▸ hst) q hq
        recorded := fun hset => hstarted ▸ h.recorded hset }

/-- Whoever is reaped has its record. -/
theorem leaves_reapPlayer {pid : UInt8} (code : Nat) (hs : WellFormed s) (hm : Marked s pid)
    (hI : HoldsLeaves base s) : HoldsLeaves base (s.reapPlayer pid code) := by
  obtain ⟨b, hb, hI⟩ := hI
  obtain ⟨p, r, hfind, hleft, hvh⟩ := hm.byPid hs
  obtain ⟨t, hsame, hbooks, he⟩ := reapPlayer_eq code hfind hleft
  have hpid : pid ∈ s.players.guests :=
    PlayerTable.mem_guests.2 ⟨p, List.mem_of_find?_eq_some hfind, hvh, byPid_pid hfind⟩
  have hgone : HoldsLeaves base ({ t with
      players := t.players.removePid pid, slots := (t.slots.release pid).1
      reaped := t.reaped ++ [(pid, r)] }.broadcast (.playerLeaveOthers pid code)) := by
    refine ⟨_, ?_, hI.reap (r := r) code hs hpid ?_ ?_ ?_ ?_⟩
    · rw [broadcast_replay]
      show t.replay = _
      rw [show t.replay = _ from congrArg Prod.fst hbooks, hb, Option.map_some]
    · rw [broadcast_phase]
      exact hsame.phase
    · rw [broadcast_started]
      exact hsame.started
    · rw [← roster_fst, broadcast_roster, roster_fst]
      show (t.players.removePid pid).guests = _
      rw [hsame.players, PlayerTable.guests_removePid hs.pids]
    · rw [broadcast_reaped]
      show t.reaped ++ _ = _
      rw [hsame.reaped]
  have hwf := hs.reapPlayer hm code
  rw [he] at hwf ⊢
  dsimp only at hwf ⊢
  split
  · rename_i hlobby
    refine (does_sendAllSlotInfo plain_leavesAlone _).leaves ?_ hgone
    have hsame' := (hsame.wellFormed hs).of_sublist
      (t := { t with
        players := t.players.removePid pid, slots := (t.slots.release pid).1
        reaped := t.reaped ++ [(pid, r)] }) List.eraseP_sublist rfl rfl rfl rfl rfl rfl
    exact hsame'.broadcast rfl
  · exact hgone

/-- The reaping loop, over players that are all still marked. -/
theorem leaves_reapLoop (l : List (UInt8 × Nat)) (hnd : (l.map Prod.fst).Nodup)
    (hs : WellFormed s) (hm : ∀ g ∈ l, Marked s g.1) (hI : HoldsLeaves base s) :
    WellFormed (l.foldl (fun s g => s.reapPlayer g.1 g.2) s)
      ∧ HoldsLeaves base (l.foldl (fun s g => s.reapPlayer g.1 g.2) s) := by
  induction l generalizing s with
  | nil => exact ⟨hs, hI⟩
  | cons g l ih =>
      rw [List.map_cons, List.nodup_cons] at hnd
      have hg := hm g List.mem_cons_self
      refine ih hnd.2 (hs.reapPlayer hg g.2) ?_ (leaves_reapPlayer g.2 hs hg hI)
      intro g' hg'
      refine hg.reapPlayer hs (hm g' (List.mem_cons_of_mem _ hg')) fun he => ?_
      exact hnd.1 (he ▸ List.mem_map_of_mem hg')

-- ============================================================ the game starts

/-- What is done in them writes no leave record. -/
theorem Does.sameLeaves (h : Does leavesAlone s t) {b : ReplayBody} (hb : s.replay = some b) :
    ∃ c, t.replay = some c ∧ b.SameLeaves c := by
  refine Lib.Path.preserves (I := fun t => ∃ c, t.replay = some c ∧ b.SameLeaves c) ?_ h
    ⟨b, hb, rfl, rfl⟩
  rintro k u v hk hst ⟨c, hc, hsame⟩
  rcases hst.sameLeaves hk.1 hk.2.1 hc with ⟨d, hd, hsame', -⟩ | ⟨-, rfl⟩
  · exact ⟨d, hd, hsame'.loading.trans hsame.loading, hsame'.playing.trans hsame.playing⟩
  · obtain ⟨d, hd, hsame', -⟩ := startReplay_replay hc
    exact ⟨d, hd, hsame'.loading.trans hsame.loading, hsame'.playing.trans hsame.playing⟩

omit [RustStd] in
/-- A game that starts out of loading, or that nobody has left. -/
theorem Leaves.enterPlaying {b : ReplayBody} (h : Leaves base s b)
    (hwhole : s.phase = .loading ∨ s.reaped = []) : Departed base s.enterPlaying b := by
  have hguests : s.enterPlaying.players.guests = s.players.guests := by
    refine PlayerTable.guests_of_forall₂ ?_
    show List.Forall₂ _ s.players (s.players.map Player.beginPlaying)
    rw [List.forall₂_map_right_iff]
    exact List.forall₂_same.2 fun p _ => ⟨rfl, rfl⟩
  have hplaying : b.leftPlaying = [] := by
    rcases hwhole with hload | hnone
    · exact h.loading hload
    · exact (List.append_eq_nil_iff.1 (h.fresh hnone)).2
  exact
    { since := h.since
      begun := fun _ => by
        rcases hwhole with hload | hnone
        · exact h.begun (.inl hload)
        · exact List.prefix_nil.1 (hnone ▸ h.since)
      fresh := h.fresh
      gone := fun _ => by
        rw [hguests]
        rcases hwhole with hload | hnone
        · exact h.gone (.inl hload)
        · rw [h.fresh hnone]
          exact ⟨by rw [show s.enterPlaying.reaped = [] from hnone]; rfl, List.nodup_nil,
            fun _ hpid => nomatch hpid⟩
      loading := fun _ => hplaying
      seated := fun st hst pid hpid => by
        obtain rfl := Option.some.inj ((enterPlaying_started s).symm.trans hst)
        rw [roster_fst]
        exact hpid
      left := fun st _ pid hpid => by
        rw [hplaying] at hpid
        cases hpid
      recorded := fun _ => rfl }

/-- The start lists who is there, and those that left while loading are
listed before. -/
theorem leaves_beginPlaying (hs : WellFormed s) (hwhole : s.phase = .loading ∨ s.reaped = [])
    (hI : HoldsLeaves base s) : HoldsLeaves base s.beginPlaying := by
  obtain ⟨b, hb, hI⟩ := hI
  have henter := hI.enterPlaying hwhole
  have hwf : WellFormed s.enterPlaying := (Step.restart (s := s)).keeps_wellFormed hs
  have hannounced : ∀ t, Does (fun k s => inertOnly k s ∧ leavesAlone k s) s.enterPlaying t →
      HoldsLeaves base t.startReplay.startRelay := by
    intro t hdoes
    have hinert : Does inertOnly s.enterPlaying t := Lib.Path.mono (fun _ _ h => h.1) hdoes
    have halone : Does leavesAlone s.enterPlaying t := Lib.Path.mono (fun _ _ h => h.2) hdoes
    have hstart : t.started = some t.startState := by
      rw [hinert.framed.started, hinert.startState, enterPlaying_started]
    have hstays : Stays s.enterPlaying t := by
      refine .of_roster hinert.framed.reaped (.of_same hinert.framed.started ?_) hinert.framed.phase
      rw [hinert.startState]
    obtain ⟨c, hc, hsame⟩ := halone.sameLeaves hb
    have ht := halone.keeps_wellFormed hwf
    have hprologue := (henter.stay ht hstays hsame fun _ => by rw [hstart]; rfl).prologue hc hstart
    exact (does_startRelay plain_leavesAlone _).leaves
      ((does_startReplay plain_leavesAlone t hstart).keeps_wellFormed ht) hprologue
  have hplain : Plain fun k s => inertOnly k s ∧ leavesAlone k s :=
    fun k hk s => ⟨plain_inertOnly k hk s, plain_leavesAlone k hk s⟩
  unfold beginPlaying
  dsimp only
  split
  · exact hannounced _ (does_announceLoadTimes hplain _ _)
  · exact hannounced _ (Does.refl _)

-- =========================================================== the coarse steps

omit [RustStd] in
/-- The kinds that some property restricts, and the moves of a tick. -/
theorem leavesAlone_of_fine {k : Kind} (hk : k.fine = true)
    (hother : k ≠ .leaver ∧ k ≠ .unseat ∧ k ≠ .restart ∧ k ≠ .toLoading) (s : GameState) :
    leavesAlone k s :=
  leavesAlone_of hk hother.1 hother.2.1 hother.2.2.1 hother.2.2.2 s

/-- The same, of all that are reaped at once. -/
theorem leaves_reapLeftPlayers (hs : WellFormed s) (hI : HoldsLeaves base s) :
    HoldsLeaves base s.reapLeftPlayers := by
  unfold reapLeftPlayers
  dsimp only
  split
  · exact hI
  obtain ⟨hnd, hm⟩ := gone_marked hs
  have habort : Does leavesAlone s
      { s.abortCountdown with lastPlayerLeftTime := some s.abortCountdown.now } :=
    (does_abortCountdown plain_leavesAlone (leavesAlone_of_fine rfl (by simp)) s).trans
      (Does.misc plain_leavesAlone (by constructor <;> rfl) (by rfl))
  obtain ⟨hwf, hloop⟩ := leaves_reapLoop s.gone hnd (habort.keeps_wellFormed hs)
    (fun g hg => (hm g hg).abortCountdown.of_players rfl) (habort.leaves hs hI)
  split
  · rename_i hload
    exact leaves_beginPlaying hwf (.inl hload.1) hloop
  · exact hloop

/-- Loading begins, and may be over at once. -/
theorem leaves_beginLoading (hs : WellFormed s) (hph : PhaseStep s.phase .loading)
    (hnone : s.reaped = []) (hI : HoldsLeaves base s) : HoldsLeaves base s.beginLoading := by
  have hother : ∀ {k : Kind}, k.fine = true → k ≠ .leaver ∧ k ≠ .unseat ∧ k ≠ .restart
      ∧ k ≠ .toLoading → ∀ t, leavesAlone k t := fun hk h t => leavesAlone_of_fine hk h t
  have henter : Does leavesAlone s s.enterLoading :=
    does_enterLoading plain_leavesAlone
      ⟨rfl, by simp, by simp, by simp, fun _ => hnone⟩ (fun t _ => hother rfl (by simp) t)
      (fun t _ _ => hother rfl (by simp) t) (hother rfl (by simp)) hph
  unfold beginLoading
  dsimp only
  split
  · exact leaves_beginPlaying (henter.keeps_wellFormed hs) (.inl (enterLoading_phase s))
      (henter.leaves hs hI)
  · exact henter.leaves hs hI

/-- The last load frame starts the game. -/
theorem leaves_handleLoaded {env : Env} {connId : Nat} {payload : List UInt8} (hs : WellFormed s)
    (hwhole : s.loadStarts (.cmd env (.frame connId (.w3gs 0x23 payload))) = true →
      s.phase = .loading ∨ s.reaped = [])
    (hI : HoldsLeaves base s) : HoldsLeaves base (s.handleLoaded connId) := by
  have hother : ∀ {k : Kind}, k.fine = true → k ≠ .leaver ∧ k ≠ .unseat ∧ k ≠ .restart
      ∧ k ≠ .toLoading → ∀ t, leavesAlone k t := fun hk h t => leavesAlone_of_fine hk h t
  unfold handleLoaded
  split
  · exact hI
  rename_i q hq
  split
  · rename_i h
    exact (does_finishRejoin plain_leavesAlone (hother rfl (by simp))
      (hother rfl (by simp)) h).leaves
      hs hI
  rename_i hrejoin
  have hmark := does_markLoaded plain_leavesAlone (hother rfl (by simp)) s q.pid
  dsimp only
  split
  · rename_i hall
    refine leaves_beginPlaying (hmark.keeps_wellFormed hs) ?_ (hmark.leaves hs hI)
    have hsame : (s.markLoaded q.pid).phase = s.phase ∧ (s.markLoaded q.pid).reaped = s.reaped := by
      unfold markLoaded
      exact ⟨broadcast_phase _ _, broadcast_reaped _ _⟩
    rw [hsame.1, hsame.2]
    refine hwhole ?_
    simp only [loadStarts, hq, all_loaded_of_markLoaded hall, Bool.and_true, decide_true,
      Bool.true_and]
    exact bne_iff_ne.2 hrejoin
  · exact hmark.leaves hs hI

/-- The steps of a game that nobody has left before it starts. -/
inductive Orderly : Kind → GameState → Prop
  | alone {k : Kind} {s : GameState} (h : leavesAlone k s) : Orderly k s
  | reap {s : GameState} : Orderly .reap s
  | begin {s : GameState} (h : s.reaped = []) : Orderly .begin s
  | loaded {s : GameState} {env : Env} {connId : Nat} {payload : List UInt8}
      (h : s.loadStarts (.cmd env (.frame connId (.w3gs 0x23 payload))) = true →
        s.phase = .loading ∨ s.reaped = []) : Orderly (.loaded connId) s

/-- Every step of an orderly game keeps the records. -/
theorem Step.holdsLeaves {k : Kind} (h : Step k s t) (hk : Orderly k s) (hs : WellFormed s)
    (hI : HoldsLeaves base s) : HoldsLeaves base t := by
  cases hk with
  | alone halone => exact h.leaves halone hs hI
  | reap =>
      cases h with
      | reap => exact leaves_reapLeftPlayers hs hI
      | misc _ hb => cases hb
      | table hk => cases hk
  | begin hnone =>
      cases h with
      | begin hph => exact leaves_beginLoading hs hph hnone hI
      | misc _ hb => cases hb
      | table hk => cases hk
  | loaded hwhole =>
      cases h with
      | loaded connId => exact leaves_handleLoaded hs hwhole hI
      | misc _ hb => cases hb
      | table hk => cases hk

omit [RustStd] in
/-- What every command may do is among its steps. -/
theorem plain_orderly : Plain Orderly := fun k hk s => .alone (plain_leavesAlone k hk s)

/-- The iterations that meet the condition are made of such steps. -/
theorem admits_orderly {ev : Event} (hrun : s.finished = false) (hC : StartsWhole s ev) :
    Admits Orderly s ev := by
  have hother : ∀ {k : Kind}, k.fine = true → k ≠ .leaver ∧ k ≠ .unseat ∧ k ≠ .restart
      ∧ k ≠ .toLoading → ∀ t, Orderly k t := fun hk h t => .alone (leavesAlone_of_fine hk h t)
  exact
    { toGuards := by
        refine .of_free (hother rfl (by simp)) fun k hk => hother (Kind.fine_of_guarded hk) ?_
        refine ⟨?_, ?_, ?_, ?_⟩
        all_goals
          rintro rfl
          cases hk
      plain := plain_orderly
      reap := fun t _ _ => Does.one .reap .reap
      begin := fun skipped hev hdue =>
        Does.one (.begin ((tickHead_framed s).reaped.trans (hC.begin hrun ⟨skipped, hev⟩ hdue)))
          (.begin (phaseStep_of_countdownDue hdue))
      loaded := by
        rintro env connId payload rfl
        exact Does.one (.loaded (hC.loaded hrun)) (.loaded connId)
      check := fun t _ => does_checkDesync plain_orderly (hother rfl (by simp))
        (hother rfl (by simp)) t
      lagCheck := fun _ _ _ => does_checkLag plain_orderly (hother rfl (by simp))
        (hother rfl (by simp)) fun _ _ => hother rfl (by simp) _
      sendTurn := fun skipped t _ _ _ hstart => does_sendAllActions plain_orderly
        (hother rfl (by simp) t) (hother rfl (by simp)) hstart skipped }

/-- An iteration keeps them. -/
theorem step_holdsLeaves {ev : Event} (hs : WellFormed s) (hsound : ev.Sound)
    (hC : StartsWhole s ev) (hI : HoldsLeaves base s) : HoldsLeaves base (s.step ev) := by
  by_cases hfin : s.finished = true
  · rw [show s.step ev = s from by unfold step; rw [if_pos hfin]]
    exact hI
  have hpath := does_step hs hsound (admits_orderly (eq_false_of_ne_true hfin) hC)
  refine (Lib.Path.preserves (I := fun s => WellFormed s ∧ HoldsLeaves base s) ?_ hpath
    ⟨hs, hI⟩).2
  intro k s t hk hst ⟨hs, hI⟩
  exact ⟨hst.keeps_wellFormed hs, hst.holdsLeaves hk hs hI⟩

/-- A game has no leave records before its first event. -/
theorem new_holdsLeaves (cfg : GameConfig) (now : Nat) (seed : UInt32) :
    HoldsLeaves [] (GameState.new cfg now seed) := by
  refine ⟨_, rfl, ?_⟩
  exact
    { since := List.nil_prefix
      begun := fun _ => rfl
      fresh := fun _ => rfl
      gone := fun _ => ⟨rfl, List.nodup_nil, fun _ hpid => nomatch hpid⟩
      loading := fun h => nomatch h
      seated := fun _ h => nomatch h
      left := fun _ h => nomatch h
      recorded := fun h => nomatch h
      listed := fun _ h => nomatch h }

/-- In every run in which nobody has left before the game starts, the
finished body has a leave record of everyone who left since, and of
nobody else; nobody has two, and each is listed or left while loading.
-/
theorem leave_records_match {u t : GameState} (hu : Reaches StartsWhole u)
    (hrun : Runs StartsWhole u t) {b : ReplayBody} (hb : t.replay = some b)
    {out : List UInt8 × Nat} (hout : b.finish = .ok out) :
    LeavesMatch b ∧ (u.phase.beforeStart = true →
      b.leavers = (t.reaped.drop u.reaped.length).map Prod.fst) := by
  obtain ⟨huwf, huI⟩ := hu.preserves (I := HoldsLeaves []) new_holdsLeaves
    fun s ev hs hsound hC hI => step_holdsLeaves hs hsound hC hI
  have hset : b.startSet = true := by
    unfold ReplayBody.finish ReplayBody.prologue at hout
    split at hout
    · cases hout
    · rename_i hp
      split at hp
      · assumption
      · cases hp
  constructor
  · obtain ⟨-, c, hc, hI⟩ := hrun.preserves huwf huI
      fun s ev hs hsound hC hI => step_holdsLeaves hs hsound hC hI
    obtain rfl := Option.some.inj (hb.symm.trans hc)
    obtain ⟨st, hst⟩ := Option.isSome_iff_exists.1 (hI.recorded hset)
    refine ⟨fun pid hpid => ?_, (hI.gone (.inr (hI.recorded hset))).2.1⟩
    rcases List.mem_append.1 hpid with hload | hplay
    · exact .inr hload
    · exact .inl (hI.listed st hst pid (hI.left st hst pid hplay))
  · intro hbefore
    -- nobody had left by then, or the game could not have started
    have hstart : ¬(u.phase = .loading ∨ u.started.isSome) := by
      rintro (hload | hstart)
      · rw [hload] at hbefore
        cases hbefore
      · rcases huwf.started hstart with h | h <;> rw [h] at hbefore <;> cases hbefore
    have huI' : HoldsLeaves u.reaped u := by
      obtain ⟨c, hc, hI⟩ := huI
      exact ⟨c, hc, { hI with
        since := List.prefix_rfl
        begun := fun h => absurd h hstart }⟩
    obtain ⟨-, c, hc, hI⟩ := hrun.preserves huwf huI'
      fun s ev hs hsound hC hI => step_holdsLeaves hs hsound hC hI
    obtain rfl := Option.some.inj (hb.symm.trans hc)
    rw [hI.begun (.inr (hI.recorded hset)), (hI.gone (.inr (hI.recorded hset))).1]
    rfl

end Steps

section Runs

open Scenario

instance (ev : Event) : Decidable (∃ skipped, ev = .tick skipped) :=
  match ev with
  | .tick skipped => isTrue ⟨skipped, rfl⟩
  | .elapse _ => isFalse fun ⟨_, h⟩ => nomatch h
  | .cmd _ _ => isFalse fun ⟨_, h⟩ => nomatch h

instance (s : GameState) (ev : Event) : Decidable (StartsWhole s ev) :=
  decidable_of_iff
    ((s.finished = false → (∃ skipped, ev = .tick skipped) → s.tickHead.countdownDue = true →
        s.reaped = [])
      ∧ (s.finished = false → s.loadStarts ev = true → s.phase = .loading ∨ s.reaped = []))
    ⟨fun h => ⟨h.1, h.2⟩, fun h => ⟨h.begin, h.loaded⟩⟩

/-- Three players join. -/
def threeJoin : List Event :=
  twoJoin PlayerLink.drained PlayerLink.drained
    ++ [connect 3 PlayerLink.drained, join 3 (txt "cat")]

/-- One of them leaves while loading and another in the game. -/
def thinnedGame : List Event :=
  threeJoin ++ countdown ++ [loaded 1, loaded 2, leaveGame 3, .elapse 100, .tick 0, leaveGame 2]

/-- A body that is ready for writing. -/
theorem finishes_of_startSet {b : ReplayBody} (h : b.startSet = true) :
    ∃ out, b.finish = .ok out := by
  unfold ReplayBody.finish ReplayBody.prologue
  rw [if_pos h]
  exact ⟨_, rfl⟩

/-- One record of each kind. -/
theorem leave_records_match_thinnedGame : ∃ b, (lobby.run thinnedGame).replay = some b
    ∧ LeavesMatch b ∧ b.leftLoading = [3] ∧ b.leftPlaying = [2]
    ∧ b.leavers = (lobby.run thinnedGame).reaped.map Prod.fst := by
  have hreplay : (lobby.run thinnedGame).replay.map
      (fun b => (b.startSet, b.leftLoading, b.leftPlaying)) = some (true, [3], [2]) := by
    decide +kernel
  obtain ⟨b, hb, hparts⟩ := Option.map_eq_some_iff.1 hreplay
  obtain ⟨hset, hload, hplay⟩ : b.startSet = true ∧ b.leftLoading = [3] ∧ b.leftPlaying = [2] := by
    simpa using hparts
  obtain ⟨out, hout⟩ := finishes_of_startSet hset
  have hbefore : Reaches StartsWhole lobby := ⟨config, 0, 5, Lib.Path.refl _⟩
  have hruns : Runs StartsWhole lobby (lobby.run thinnedGame) := Runs.of_meets (by decide +kernel)
  obtain ⟨hmatch, hsince⟩ := leave_records_match hbefore hruns hb hout
  exact ⟨b, hb, hmatch, hload, hplay, hsince rfl⟩

/-- Two of the three leave in the lobby, a fourth gets the id of one of
them, plays and leaves. -/
def reseatedGame : List Event :=
  threeJoin ++ [leaveGame 3, leaveGame 2, connect 4 PlayerLink.drained, join 4 (txt "dan")]
    ++ countdown ++ [loaded 1, loaded 4, .elapse 100, .tick 0, leaveGame 4]

/-- The body of this game has a record of a player that it lists
nowhere and two of one id, because those who left in the lobby have
theirs. -/
theorem lobby_leavers_are_recorded :
    (∀ ev ∈ reseatedGame, ev.Sound) ∧ (lobby.run reseatedGame).panicked = false
      ∧ (lobby.run (reseatedGame.take 8)).phase = .lobby
      ∧ (lobby.run (reseatedGame.take 8)).reaped.map Prod.fst = [3, 2]
      ∧ ∃ b out, (lobby.run reseatedGame).replay = some b ∧ b.finish = .ok out
        ∧ b.listed = [1, 2] ∧ b.leftLoading = [] ∧ b.leavers = [3, 2, 2] ∧ ¬LeavesMatch b := by
  have hreplay : (lobby.run reseatedGame).replay.map
      (fun b => (b.startSet, b.listed, b.leftLoading, b.leavers))
        = some (true, [1, 2], [], [3, 2, 2]) := by
    decide +kernel
  obtain ⟨b, hb, hparts⟩ := Option.map_eq_some_iff.1 hreplay
  obtain ⟨hset, hlisted, hload, hleavers⟩ : b.startSet = true ∧ b.listed = [1, 2]
      ∧ b.leftLoading = [] ∧ b.leavers = [3, 2, 2] := by
    simpa using hparts
  obtain ⟨out, hout⟩ := finishes_of_startSet hset
  refine ⟨by decide +kernel, by decide +kernel, by decide +kernel, by decide +kernel, b, out, hb,
    hout, hlisted, hload, hleavers, fun hmatch => ?_⟩
  have honce := hmatch.once
  rw [hleavers] at honce
  exact absurd honce (by decide)

end Runs

end Spectre

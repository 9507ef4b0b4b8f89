/-
One relay for all games: the supervisor hands the same handle to every
game it creates (`create_game_with_creator`), and nothing the relay
keeps says which game it came from.

Beside the shared relay runs, for each game, a relay that serves this
game alone. The shared one keeps the games apart when a viewer that
joins gets what the latest game's own relay would send it, when whoever
has joined is sent blocks of that one game for as long as it stays, and
when a game-over leaves alone what the other games' own relays hold. It
does so as long as one game at a time uses it, each game announces every
player id that an earlier one has left behind before a viewer joins, and
no viewer of an earlier game is left when a block is sent.
-/
import Spectre.RelaySends

namespace Spectre

-- ================================================================== the stage

/-- What the relay keeps for those who join later. -/
structure Stage where
  delay : Nat
  queue : List (Nat × GameBlock)
  history : List GameBlock
  snapshot : Option GameStartSnapshot
  players : List DotaPlayerInfo

namespace Stage

/-- The blocks that are due move to the history. -/
def release (st : Stage) (now : Nat) : Stage :=
  { st with
    queue := st.queue.dropWhile fun x => x.1 ≤ now
    history := st.history ++ (st.queue.takeWhile fun x => x.1 ≤ now).map Prod.snd }

/-- A player is entered, or the entry of its id replaced. -/
def enter (st : Stage) (p : DotaPlayerInfo) : Stage :=
  { st with players :=
      if st.players.any fun q => q.pid == p.pid then
        Lib.updateFirst (fun q => q.pid == p.pid) (fun _ => p) st.players
      else st.players ++ [p] }

/-- One command, the viewers apart. -/
def command (st : Stage) (now sent : Nat) : RelayCmd → Stage
  | .gameBlock bytes =>
      release { st with queue := st.queue ++ [(now + st.delay, ⟨bytes, sent⟩)] } now
  | .gameStart snap => { st with snapshot := some snap }
  | .playerInfo p => st.enter p
  | .gameOver => { st with queue := [], history := [] }
  | .debugGetReleasedCount => st.release now
  | _ => st

/-- One turn of the loop, the viewers apart. -/
def step (st : Stage) : Nat × RelayEvent → Stage
  | (now, .cmd sent c) => st.command now sent c
  | (now, .tick) => st.release now

/-- No block is held back and none is kept. -/
def Idle (st : Stage) : Prop := st.queue = [] ∧ st.history = []

/-- Where nothing waits nothing comes out. -/
theorem Idle.release {st : Stage} (h : st.Idle) (now : Nat) : (st.release now).Idle := by
  obtain ⟨hq, hh⟩ := h
  constructor
  · show st.queue.dropWhile _ = []
    rw [hq]
    rfl
  · show st.history ++ (st.queue.takeWhile _).map Prod.snd = []
    rw [hq, hh]
    rfl

end Stage

namespace Relay

/-- What this relay keeps for those who join later. -/
def stage (r : Relay) : Stage := ⟨r.cfg.delay, r.delayedBlocks, r.history, r.snapshot, r.players⟩

/-- Chat is not kept. -/
theorem stage_broadcastChat (r : Relay) (now : Nat) (m : DtvMsg) :
    (r.broadcastChat now m).stage = r.stage := by
  unfold broadcastChat
  split <;> rfl

/-- A frame of a viewer is answered, not kept. -/
theorem stage_handleFrame (r : Relay) (now connId : Nat) (f : Frame) :
    (r.handleFrame now connId f).stage = r.stage := by
  unfold handleFrame
  split
  · split
    · exact stage_broadcastChat _ _ _
    · rfl
  · rfl

/-- Whoever joins is sent what is kept, which stays. -/
theorem stage_viewerJoined (r : Relay) (now connId : Nat) (schedule : Schedule) :
    (r.viewerJoined now connId schedule).stage = r.stage := by
  rcases r.viewerJoined_cases now connId schedule with he | he
  · rw [he]
  · rw [he]
    rfl

/-- Blocks that are due move to the history. -/
theorem stage_releaseFrom (now : Nat) (queue : List (Nat × GameBlock)) (r : Relay)
    (hq : r.delayedBlocks = queue) : (releaseFrom now queue r).stage = r.stage.release now := by
  induction queue generalizing r with
  | nil =>
      unfold releaseFrom Stage.release stage
      simp [hq]
  | cons x rest ih =>
      obtain ⟨releaseAt, b⟩ := x
      unfold releaseFrom
      split
      · rename_i hdue
        rw [ih _ rfl]
        unfold Stage.release stage
        simp [hq, hdue, releaseBlock, broadcast]
      · rename_i hdue
        unfold Stage.release stage
        simp [hq, hdue]

/-- The same, of the whole queue. -/
theorem stage_releaseDueBlocks (r : Relay) (now : Nat) :
    (r.releaseDueBlocks now).stage = r.stage.release now :=
  stage_releaseFrom now _ r rfl

/-- The end of a game clears both lists of blocks. -/
theorem stage_gameOver (r : Relay) (now : Nat) :
    (r.gameOver now).stage = { r.stage with queue := [], history := [] } := by
  have hflush : ∀ (l : List (Nat × GameBlock)) (u : Relay),
      (l.foldl (fun r x => r.flushBlock now x.2) u).stage = u.stage := by
    intro l
    induction l with
    | nil => exact fun _ => rfl
    | cons x l ih => exact fun u => (ih _).trans rfl
  have h := hflush r.delayedBlocks { r with delayedBlocks := [] }
  unfold gameOver
  dsimp only
  generalize r.delayedBlocks.foldl _ _ = u at h ⊢
  unfold stage at h ⊢
  obtain ⟨hdelay, hqueue, -, hsnap, hplayers⟩ := Stage.mk.inj h
  dsimp only at hdelay hqueue hsnap hplayers ⊢
  rw [hdelay, hqueue, hsnap, hplayers]

/-- The viewers have no say in what is kept. -/
theorem stage_step (r : Relay) (e : Nat × RelayEvent) : (r.step e).stage = r.stage.step e := by
  obtain ⟨now, e⟩ := e
  cases e with
  | tick => exact r.stage_releaseDueBlocks now
  | cmd sent c =>
      cases c with
      | gameBlock bytes => exact stage_releaseDueBlocks _ now
      | gameStart snap => rfl
      | playerInfo p => rfl
      | viewerJoined connId schedule => exact r.stage_viewerJoined now connId schedule
      | viewerLeft connId => rfl
      | closed connId => rfl
      | frame connId f => exact r.stage_handleFrame now connId f
      | viewerChat sender text => exact r.stage_broadcastChat now _
      | gameOver => exact r.stage_gameOver now
      | debugGetReleasedCount => exact r.stage_releaseDueBlocks now

/-- The relay takes one more viewer. -/
def admits (r : Relay) : Bool :=
  r.viewers.length < r.cfg.maxViewers && r.historyBytes ≤ r.cfg.historyMaxMb * (1024 * 1024)

end Relay

-- ============================================================ the shared relay

/-- What the loop of the shared relay takes next: what a game hands
over, what comes from the viewers, or its timer. -/
inductive SharedEvent where
  | game (g sent : Nat) (m : RelayMsg)
  | joined (sent connId : Nat) (schedule : Schedule)
  | left (sent connId : Nat)
  | closed (sent connId : Nat)
  | frame (sent connId : Nat) (f : Frame)
  | count (sent : Nat)
  | tick

namespace SharedEvent

/-- What the relay sees of it. -/
def event : SharedEvent → RelayEvent
  | game _ sent m => .cmd sent m.cmd
  | joined sent connId schedule => .cmd sent (.viewerJoined connId schedule)
  | left sent connId => .cmd sent (.viewerLeft connId)
  | closed sent connId => .cmd sent (.closed connId)
  | frame sent connId f => .cmd sent (.frame connId f)
  | count sent => .cmd sent .debugGetReleasedCount
  | tick => .tick

/-- What the game's own relay sees of it. Another game's block is not
for it, but the loop releases what is due then as well. -/
def only (g : Nat) : SharedEvent → Option RelayEvent
  | game g' sent m =>
      if g' = g then some (.cmd sent m.cmd)
      else match m with
        | .push _ => some .tick
        | _ => none
  | e => some e.event

end SharedEvent

/-- The shared relay, and each game's own; the games in the order they
started, the one that started last, and the players it has announced
since it is the last. -/
structure Shared where
  relay : Relay
  own : Nat → Relay
  starts : List Nat := []
  latest : Option Nat := none
  announced : List UInt8 := []

namespace Shared

/-- The relays before any game. -/
def new (cfg : RelayConfig) : Shared := { relay := .new cfg, own := fun _ => .new cfg }

/-- One turn of the loop. -/
def step (sh : Shared) (e : Nat × SharedEvent) : Shared where
  relay := sh.relay.step (e.1, e.2.event)
  own g := match e.2.only g with
    | some ev => (sh.own g).step (e.1, ev)
    | none => sh.own g
  starts := match e.2 with
    | .game g _ (.gameStart ..) => sh.starts ++ [g]
    | _ => sh.starts
  latest := match e.2 with
    | .game g _ (.gameStart ..) => some g
    | _ => sh.latest
  announced := match e.2 with
    | .game g _ (.gameStart ..) => if sh.latest = some g then sh.announced else []
    | .game g _ (.playerInfo pid ..) =>
        if sh.latest = some g then sh.announced ++ [pid] else sh.announced
    | _ => sh.announced

/-- Turns of the loop one after another. -/
def run (sh : Shared) (es : List (Nat × SharedEvent)) : Shared := es.foldl step sh

/-- What a viewer is to be sent: what the latest game's own relay sends
it, and what an unused relay does before the first game. -/
def due (sh : Shared) : Relay :=
  match sh.latest with
  | some g => sh.own g
  | none => .new sh.relay.cfg

/-- The game a viewer has joined: the one that had started last then. -/
def home (sh : Shared) (v : Viewer) : Option Nat := (sh.starts.take v.joined.starts).getLast?

/-- The blocks of that game that its own relay has released. -/
def homeBlocks (sh : Shared) (v : Viewer) : List GameBlock :=
  (sh.home v).elim [] fun g => (sh.own g).released

/-- What a viewer was sent is one game: the snapshot and the players are
those it found when it joined, and the blocks are blocks of the game that
had started last then, in order and none twice. -/
structure Serves (sh : Shared) (v : Viewer) : Prop where
  setup : ∀ m ∈ v.mail, m.isSetup = true →
    m ∈ v.joined.snapshot.toList.map DtvMsg.snapshot ++ v.joined.players.map DtvMsg.player
  blocks : v.blocks.Sublist (sh.homeBlocks v)

end Shared

/-- The event keeps the games apart. A viewer that joins is sent the
latest game; the end of a game takes no block from another; and after
the event everyone who ever joined was sent that one game alone. -/
structure KeepsApart (sh : Shared) (e : Nat × SharedEvent) : Prop where
  joins : ∀ sent connId schedule, e.2 = .joined sent connId schedule → sh.relay.admits = true →
    sh.relay.joinBurst.Perm sh.due.joinBurst ∧ sh.relay.history = sh.due.history
  ends : ∀ g sent, e.2 = .game g sent .gameOver → ∀ g', g' ≠ g →
    (sh.own g').delayedBlocks.Sublist (sh.step e).relay.delayedBlocks
      ∧ (sh.own g').history.Sublist (sh.step e).relay.history
  serves : ∀ v ∈ (sh.step e).relay.everyone, (sh.step e).Serves v

/-- The games use the relay one at a time: blocks and players come from
the game that started last, which found no block there, and so does the
game-over while there are blocks; and a viewer joins when that game has
announced all the ids of the player table. -/
def InTurn (sh : Shared) (e : Nat × SharedEvent) : Prop :=
  match e.2 with
  | .game g _ (.gameStart ..) | .game g _ .gameOver =>
      sh.latest = some g ∨ (sh.relay.delayedBlocks = [] ∧ sh.relay.history = [])
  | .game g _ (.push _) | .game g _ (.playerInfo ..) => sh.latest = some g
  | .joined .. => sh.relay.admits = true → ∀ p ∈ sh.relay.players, p.pid ∈ sh.announced
  | _ => True

/-- And when blocks are sent, everyone registered has joined the game
that started last. -/
def TakesTurns (sh : Shared) (e : Nat × SharedEvent) : Prop :=
  InTurn sh e
    ∧ (sh.relay.outgoing (e.1, e.2.event) ≠ [] → ∀ v ∈ sh.relay.viewers, sh.home v = sh.latest)

/-- Every event of a list takes its turn. -/
def AllTakeTurns : Shared → List (Nat × SharedEvent) → Prop
  | _, [] => True
  | sh, e :: es => TakesTurns sh e ∧ AllTakeTurns (sh.step e) es

-- =================================================================== the table

namespace Stage

variable (st : Stage) (p : DotaPlayerInfo)

/-- The ids of the player table. -/
def pids : List UInt8 := st.players.map DotaPlayerInfo.pid

/-- The entry of an id. -/
def entry (pid : UInt8) : Option DotaPlayerInfo := st.players.find? fun q => q.pid == pid

/-- Whether the table has an entry of the id. -/
theorem any_pid_iff : (st.players.any fun q => q.pid == p.pid) = true ↔ p.pid ∈ st.pids := by
  rw [List.any_eq_true, pids, List.mem_map]
  exact exists_congr fun q => and_congr_right fun _ => beq_iff_eq

/-- The ids after an entry. -/
theorem enter_pids :
    (st.enter p).pids = if p.pid ∈ st.pids then st.pids else st.pids ++ [p.pid] := by
  have hany := st.any_pid_iff p
  unfold enter
  by_cases h : p.pid ∈ st.pids
  · rw [if_pos (hany.2 h), if_pos h]
    have hsame : List.Forall₂ (fun q q' : DotaPlayerInfo => q.pid = q'.pid) st.players
        (Lib.updateFirst (fun q => q.pid == p.pid) (fun _ => p) st.players) :=
      Lib.forall₂_updateFirst (fun _ _ => rfl) fun q _ hq _ => eq_of_beq hq
    have hmap := (List.forall₂_map_right_iff.2 (List.forall₂_map_left_iff.2 hsame))
    exact (List.forall₂_eq_eq_eq ▸ hmap).symm
  · rw [if_neg fun h' => h (hany.1 h'), if_neg h]
    simp [pids]

/-- The new id is among them, and the old ones are. -/
theorem mem_enter_pids {pid : UInt8} : pid ∈ (st.enter p).pids ↔ pid = p.pid ∨ pid ∈ st.pids := by
  rw [enter_pids]
  split
  · rename_i h
    constructor
    · exact .inr
    · rintro (rfl | h')
      · exact h
      · exact h'
  · rw [List.mem_append, List.mem_singleton, or_comm]

/-- No id comes twice. -/
theorem nodup_enter (h : st.pids.Nodup) : (st.enter p).pids.Nodup := by
  rw [enter_pids]
  split
  · exact h
  · rename_i hnot
    exact List.nodup_append.2 ⟨h, List.nodup_singleton _, by
      rintro a ha b hb rfl
      exact hnot (List.mem_singleton.1 hb ▸ ha)⟩

/-- The new entry is the one that is found. -/
theorem entry_enter (pid : UInt8) :
    (st.enter p).entry pid = if pid = p.pid then some p else st.entry pid := by
  have hany := st.any_pid_iff p
  unfold entry enter
  by_cases h : p.pid ∈ st.pids
  · rw [if_pos (hany.2 h)]
    split
    · rename_i hpid
      subst hpid
      obtain ⟨q, hq, hqp⟩ := List.mem_map.1 h
      refine (Lib.find?_updateFirst (q := fun q : DotaPlayerInfo => q.pid == p.pid)
        (f := fun _ => p) fun _ _ _ => beq_self_eq_true p.pid).trans ?_
      cases hfind : st.players.find? fun q => q.pid == p.pid with
      | none => exact absurd (beq_iff_eq.2 hqp) (List.find?_eq_none.1 hfind q hq)
      | some q' => rfl
    · rename_i hne
      refine Lib.find?_updateFirst_of_disjoint fun q _ hq => ⟨?_, ?_⟩
      · rw [eq_of_beq hq]
        exact beq_eq_false_iff_ne.2 (Ne.symm hne)
      · exact beq_eq_false_iff_ne.2 (Ne.symm hne)
  · rw [if_neg fun h' => h (hany.1 h'), List.find?_append]
    split
    · rename_i hpid
      subst hpid
      have hnone : (st.players.find? fun q => q.pid == p.pid) = none := by
        rw [List.find?_eq_none]
        intro q hq hqp
        exact h (List.mem_map.2 ⟨q, hq, eq_of_beq hqp⟩)
      rw [hnone]
      simp
    · rename_i hne
      have hp : ([p].find? fun q => q.pid == pid) = none := by simp [Ne.symm hne]
      rw [hp, Option.or_none]

/-- With distinct ids an entry is found under its own. -/
theorem mem_players_iff (h : st.pids.Nodup) (q : DotaPlayerInfo) :
    q ∈ st.players ↔ st.entry q.pid = some q := by
  constructor
  · exact fun hq => Lib.find?_key_of_mem h hq
  · exact fun hq => List.mem_of_find?_eq_some hq

end Stage

-- =============================================================== the invariant

/-- The relay serves the latest game as that game's own relay does, and
the other games' relays hold nothing. -/
structure Apart (st : Stage) (own : Nat → Stage) (latest : Option Nat) (announced : List UInt8) :
    Prop where
  delay : ∀ g, (own g).delay = st.delay
  queue : ∀ g, latest = some g → (own g).queue = st.queue
  history : ∀ g, latest = some g → (own g).history = st.history
  snapshot : ∀ g, latest = some g → (own g).snapshot = st.snapshot
  others : ∀ g, latest ≠ some g → (own g).Idle
  unused : latest = none → st.Idle ∧ st.snapshot = none ∧ st.players = []
  nodup : st.pids.Nodup
  nodupOwn : ∀ g, (own g).pids.Nodup
  known : ∀ g, ∀ pid ∈ (own g).pids, pid ∈ st.pids
  entry : ∀ g, latest = some g → ∀ pid ∈ announced, (own g).entry pid = st.entry pid

namespace Apart

variable {st : Stage} {own : Nat → Stage} {latest : Option Nat} {announced : List UInt8}

/-- What is due comes out on the shared relay as it does on the game's own.
-/
theorem release (h : Apart st own latest announced) (now : Nat) :
    Apart (st.release now) (fun g => (own g).release now) latest announced where
  delay := h.delay
  queue g hg := congrArg (List.dropWhile _) (h.queue g hg)
  history g hg := by
    show (own g).history ++ ((own g).queue.takeWhile _).map Prod.snd = _
    rw [h.history g hg, h.queue g hg]
    rfl
  snapshot := h.snapshot
  others g hg := (h.others g hg).release now
  unused hnone := ⟨(h.unused hnone).1.release now, (h.unused hnone).2⟩
  nodup := h.nodup
  nodupOwn := h.nodupOwn
  known := h.known
  entry := h.entry

/-- A game starts that finds no block, or starts again. -/
theorem start (h : Apart st own latest announced) {g : Nat} (snap : GameStartSnapshot)
    (hturn : latest = some g ∨ st.Idle) :
    Apart { st with snapshot := some snap }
      (fun g' => if g = g' then { own g' with snapshot := some snap } else own g') (some g)
      (if latest = some g then announced else []) where
  delay g' := by
    split
    · exact h.delay g'
    · exact h.delay g'
  queue g' hg := by
    obtain rfl := Option.some.inj hg
    rw [if_pos rfl]
    rcases hturn with hlatest | hidle
    · exact h.queue g hlatest
    · by_cases hlatest : latest = some g
      · exact h.queue g hlatest
      · exact (h.others g hlatest).1.trans hidle.1.symm
  history g' hg := by
    obtain rfl := Option.some.inj hg
    rw [if_pos rfl]
    rcases hturn with hlatest | hidle
    · exact h.history g hlatest
    · by_cases hlatest : latest = some g
      · exact h.history g hlatest
      · exact (h.others g hlatest).2.trans hidle.2.symm
  snapshot g' hg := by
    obtain rfl := Option.some.inj hg
    rw [if_pos rfl]
  others g' hg := by
    have hne : g ≠ g' := fun he => hg (he ▸ rfl)
    rw [if_neg hne]
    by_cases hlatest : latest = some g'
    · -- the game before it, which has left nothing on the shared relay
      rcases hturn with hg' | hidle
      · exact absurd (Option.some.inj (hg'.symm.trans hlatest)) hne
      · exact ⟨(h.queue g' hlatest).trans hidle.1, (h.history g' hlatest).trans hidle.2⟩
    · exact h.others g' hlatest
  unused hnone := nomatch hnone
  nodup := h.nodup
  nodupOwn g' := by
    split
    · exact h.nodupOwn g'
    · exact h.nodupOwn g'
  known g' pid hpid := by
    split at hpid
    · exact h.known g' pid hpid
    · exact h.known g' pid hpid
  entry g' hg pid hpid := by
    obtain rfl := Option.some.inj hg
    rw [if_pos rfl]
    split at hpid
    · rename_i hlatest
      exact h.entry g hlatest pid hpid
    · cases hpid

/-- The latest game announces a player. -/
theorem enter (h : Apart st own latest announced) {g : Nat} (p : DotaPlayerInfo)
    (hturn : latest = some g) :
    Apart (st.enter p) (fun g' => if g = g' then (own g').enter p else own g') latest
      (announced ++ [p.pid]) where
  delay g' := by
    split
    · exact h.delay g'
    · exact h.delay g'
  queue g' hg := by
    split
    · exact h.queue g' hg
    · exact h.queue g' hg
  history g' hg := by
    split
    · exact h.history g' hg
    · exact h.history g' hg
  snapshot g' hg := by
    split
    · exact h.snapshot g' hg
    · exact h.snapshot g' hg
  others g' hg := by
    have hne : g ≠ g' := by
      rintro rfl
      exact hg hturn
    rw [if_neg hne]
    exact h.others g' hg
  unused hnone := by
    rw [hturn] at hnone
    cases hnone
  nodup := st.nodup_enter p h.nodup
  nodupOwn g' := by
    split
    · exact (own g').nodup_enter p (h.nodupOwn g')
    · exact h.nodupOwn g'
  known g' pid hpid := by
    rw [Stage.mem_enter_pids]
    split at hpid
    · -- a pid is known to the stage as soon as it is to one game
      rcases (Stage.mem_enter_pids _ _).1 hpid with rfl | hpid
      · exact .inl rfl
      · exact .inr (h.known g' pid hpid)
    · exact .inr (h.known g' pid hpid)
  entry g' hg pid hpid := by
    obtain rfl := Option.some.inj (hturn.symm.trans hg)
    rw [if_pos rfl, Stage.entry_enter, Stage.entry_enter]
    split
    · rfl
    · -- another entry stands as it was announced
      rename_i hne
      rcases List.mem_append.1 hpid with hpid | hpid
      · exact h.entry g hg pid hpid
      · exact absurd (List.mem_singleton.1 hpid) hne

/-- The blocks change alike on the shared relay and on the latest
game's own. -/
theorem both (h : Apart st own latest announced) {g : Nat} (hturn : latest = some g)
    {f : Stage → Stage} (hdelay : ∀ s, (f s).delay = s.delay)
    (hsnapshot : ∀ s, (f s).snapshot = s.snapshot) (hplayers : ∀ s, (f s).players = s.players)
    (hblocks : ∀ s s', s.delay = s'.delay → s.queue = s'.queue → s.history = s'.history →
      (f s).queue = (f s').queue ∧ (f s).history = (f s').history) :
    Apart (f st) (fun g' => if g = g' then f (own g') else own g') latest announced := by
  have hpids : ∀ s, (f s).pids = s.pids := fun s => congrArg (List.map _) (hplayers s)
  have hentry : ∀ s pid, (f s).entry pid = s.entry pid :=
    fun s pid => congrArg (List.find? _) (hplayers s)
  -- the game the step is of is the one that is shown
  have hown : ∀ g', latest = some g' → (if g = g' then f (own g') else own g') = f (own g) := by
    intro g' hg
    obtain rfl := Option.some.inj (hturn.symm.trans hg)
    exact if_pos rfl
  have hboth := hblocks (own g) st (h.delay g) (h.queue g hturn) (h.history g hturn)
  exact
    { delay := fun g' => by
        rw [hdelay, ← h.delay g']
        split
        · exact hdelay _
        · rfl
      queue := fun g' hg => (congrArg Stage.queue (hown g' hg)).trans hboth.1
      history := fun g' hg => (congrArg Stage.history (hown g' hg)).trans hboth.2
      snapshot := fun g' hg => by
        rw [hown g' hg, hsnapshot, hsnapshot]
        exact h.snapshot g hturn
      others := fun g' hg => by
        have hne : g ≠ g' := by
          rintro rfl
          exact hg hturn
        rw [if_neg hne]
        exact h.others g' hg
      unused := fun hnone => by
        rw [hturn] at hnone
        cases hnone
      nodup := by
        rw [hpids]
        exact h.nodup
      nodupOwn := fun g' => by
        split
        · rw [hpids]
          exact h.nodupOwn g'
        · exact h.nodupOwn g'
      known := fun g' pid hpid => by
        rw [hpids]
        split at hpid
        · rw [hpids] at hpid
          exact h.known g' pid hpid
        · exact h.known g' pid hpid
      entry := fun g' hg pid hpid => by
        rw [hown g' hg, hentry, hentry]
        exact h.entry g hturn pid hpid }

/-- The latest game hands over a block; the others only hear the loop
wake up. -/
theorem push (h : Apart st own latest announced) {g : Nat} (now sent : Nat) (bytes : List UInt8)
    (hturn : latest = some g) :
    Apart (st.command now sent (.gameBlock bytes)) (fun g' =>
      if g = g' then (own g').command now sent (.gameBlock bytes) else (own g').release now)
      latest announced := by
  have hqueued := h.both hturn
    (f := fun s => { s with queue := s.queue ++ [(now + s.delay, ⟨bytes, sent⟩)] })
    (fun _ => rfl) (fun _ => rfl) (fun _ => rfl) fun s s' hd hq hh => by
      dsimp only
      rw [hd, hq, hh]
      exact ⟨rfl, rfl⟩
  have hdone := hqueued.release now
  have hsame : (fun g' => Stage.release (if g = g' then
      { own g' with queue := (own g').queue ++ [(now + (own g').delay, ⟨bytes, sent⟩)] }
      else own g') now) = fun g' =>
        if g = g' then (own g').command now sent (.gameBlock bytes) else (own g').release now := by
    funext g'
    split <;> rfl
  rw [← hsame]
  exact hdone

/-- A game is over that is the latest, or finds no block. -/
theorem gameOver (h : Apart st own latest announced) {g : Nat} (hturn : latest = some g ∨ st.Idle) :
    Apart { st with queue := [], history := [] } (fun g' =>
      if g = g' then { own g' with queue := [], history := [] } else own g') latest announced := by
  by_cases hlatest : latest = some g
  · exact h.both hlatest (f := fun s => { s with queue := [], history := [] }) (fun _ => rfl)
      (fun _ => rfl) (fun _ => rfl) fun _ _ _ _ _ => ⟨rfl, rfl⟩
  · have hidle : st.Idle := hturn.resolve_left hlatest
    have hst : { st with queue := [], history := [] } = st := by
      obtain ⟨hq, hh⟩ := hidle
      cases st
      cases hq
      cases hh
      rfl
    have hown : (fun g' => if g = g' then { own g' with queue := [], history := [] } else own g')
        = own := by
      funext g'
      split
      · rename_i hg
        obtain ⟨hq, hh⟩ := h.others g' (hg ▸ hlatest)
        cases hs : own g'
        rw [hs] at hq hh
        cases hq
        cases hh
        rfl
      · rfl
    rw [hst, hown]
    exact h

end Apart

namespace Shared

/-- The relays are kept apart. -/
def Sound (sh : Shared) : Prop :=
  Apart sh.relay.stage (fun g => (sh.own g).stage) sh.latest sh.announced

/-- Before any game nothing is kept. -/
theorem new_sound (cfg : RelayConfig) : (new cfg).Sound where
  delay _ := rfl
  queue _ hg := nomatch hg
  history _ hg := nomatch hg
  snapshot _ hg := nomatch hg
  others _ _ := ⟨rfl, rfl⟩
  unused _ := ⟨⟨rfl, rfl⟩, rfl, rfl⟩
  nodup := List.nodup_nil
  nodupOwn _ := List.nodup_nil
  known _ _ hpid := nomatch hpid
  entry _ hg := nomatch hg

variable {sh : Shared}

/-- What each game's own relay keeps after a turn. -/
theorem own_step (sh : Shared) (now : Nat) (e : SharedEvent) (g : Nat) :
    ((sh.step (now, e)).own g).stage = match e.only g with
      | some ev => (sh.own g).stage.step (now, ev)
      | none => (sh.own g).stage := by
  show (match e.only g with
    | some ev => (sh.own g).step (now, ev)
    | none => sh.own g).stage = _
  cases e.only g with
  | none => rfl
  | some ev => exact Relay.stage_step _ _

/-- What a game hands over reaches its own relay; another's at most
wakes up. -/
theorem own_game (sh : Shared) (now g sent : Nat) (m : RelayMsg) (g' : Nat) :
    ((sh.step (now, .game g sent m)).own g').stage
      = if g = g' then (sh.own g').stage.command now sent m.cmd
        else match m with
          | .push _ => (sh.own g').stage.release now
          | _ => (sh.own g').stage := by
  rw [own_step]
  by_cases hg : g = g'
  · have honly : (SharedEvent.game g sent m).only g' = some (.cmd sent m.cmd) := if_pos hg
    rw [honly, if_pos hg]
    rfl
  · rw [if_neg hg]
    cases m with
    | push packet =>
        have honly : (SharedEvent.game g sent (.push packet)).only g' = some .tick := if_neg hg
        rw [honly]
        rfl
    | gameStart gameName mapPath mapSize mapInfo mapCrc mapSha1 statString randomSeed layoutStyle
        playerSlots slots =>
        have honly : (SharedEvent.game g sent (.gameStart gameName mapPath mapSize mapInfo mapCrc
          mapSha1 statString randomSeed layoutStyle playerSlots slots)).only g' = none := if_neg hg
        rw [honly]
    | playerInfo pid name colour team race =>
        have honly : (SharedEvent.game g sent (.playerInfo pid name colour team race)).only g'
          = none := if_neg hg
        rw [honly]
    | chat name message =>
        have honly : (SharedEvent.game g sent (.chat name message)).only g' = none := if_neg hg
        rw [honly]
    | gameOver =>
        have honly : (SharedEvent.game g sent .gameOver).only g' = none := if_neg hg
        rw [honly]

/-- Every turn that is taken keeps the relays apart. -/
theorem Sound.step (h : sh.Sound) {e : Nat × SharedEvent} (hturn : InTurn sh e) :
    (sh.step e).Sound := by
  obtain ⟨now, e⟩ := e
  have hrelay : (sh.step (now, e)).relay.stage = sh.relay.stage.step (now, e.event) :=
    Relay.stage_step _ _
  unfold Sound
  rw [hrelay]
  -- the viewers and the timer reach every relay alike
  have halike : (∀ g, e.only g = some e.event) → (fun g => ((sh.step (now, e)).own g).stage)
      = fun g => (sh.own g).stage.step (now, e.event) := by
    intro hall
    funext g
    rw [own_step, hall g]
  cases e with
  | tick =>
      rw [halike fun _ => rfl]
      exact h.release now
  | count sent =>
      rw [halike fun _ => rfl]
      exact h.release now
  | joined sent connId schedule =>
      rw [halike fun _ => rfl]
      exact h
  | left sent connId =>
      rw [halike fun _ => rfl]
      exact h
  | closed sent connId =>
      rw [halike fun _ => rfl]
      exact h
  | frame sent connId f =>
      rw [halike fun _ => rfl]
      exact h
  | game g sent m =>
      have hown : (fun g' => ((sh.step (now, .game g sent m)).own g').stage) = _ :=
        funext fun g' => sh.own_game now g sent m g'
      rw [hown]
      cases m with
      | gameStart => exact h.start _ hturn
      | playerInfo pid name colour team race =>
          have hlatest : sh.latest = some g := hturn
          have hann : (sh.step
            (now, .game g sent (.playerInfo pid name colour team race))).announced
              = sh.announced ++ [pid] := if_pos hlatest
          rw [hann]
          exact h.enter ⟨pid, name, colour, team, race⟩ hlatest
      | push packet => exact h.push now sent _ hturn
      | gameOver => exact h.gameOver hturn
      | chat name message =>
          have hsame : (fun g' => if g = g' then (sh.own g').stage else (sh.own g').stage)
              = fun g' => (sh.own g').stage := by
            funext g'
            exact ite_self _
          show Apart sh.relay.stage (fun g' =>
            if g = g' then (sh.own g').stage else (sh.own g').stage) sh.latest sh.announced
          rw [hsame]
          exact h

/-- Turns that are all taken keep the relays apart. -/
theorem Sound.run (h : sh.Sound) {es : List (Nat × SharedEvent)} (hturns : AllTakeTurns sh es) :
    (sh.run es).Sound := by
  induction es generalizing sh with
  | nil => exact h
  | cons e es ih => exact ih (h.step hturns.1.1) hturns.2

/-- Where the relays are apart and the table holds only what the latest
game has announced, its own relay has the same table. -/
theorem Sound.players_perm (h : sh.Sound) (hall : ∀ p ∈ sh.relay.players, p.pid ∈ sh.announced) :
    sh.relay.players.Perm sh.due.players := by
  cases hlatest : sh.latest with
  | none =>
      have hdue : sh.due.players = [] := by
        unfold due
        rw [hlatest]
        rfl
      have hnone : sh.relay.players = [] := (h.unused hlatest).2.2
      rw [hdue, hnone]
  | some g =>
      have hdue : sh.due = sh.own g := by
        unfold due
        rw [hlatest]
      rw [hdue]
      have hnd := h.nodup
      have hndOwn := h.nodupOwn g
      refine (List.perm_ext_iff_of_nodup hnd.of_map hndOwn.of_map).2 fun p => ?_
      rw [Stage.mem_players_iff _ hnd, Stage.mem_players_iff _ hndOwn]
      have hentry : p.pid ∈ sh.announced →
          (sh.own g).stage.entry p.pid = sh.relay.stage.entry p.pid := h.entry g hlatest p.pid
      constructor
      · intro hp
        rw [hentry (hall p (List.mem_of_find?_eq_some hp))]
        exact hp
      · intro hp
        -- the id is in the shared table, hence announced
        have hown : p.pid ∈ (sh.own g).stage.pids :=
          List.mem_map_of_mem (List.mem_of_find?_eq_some hp)
        obtain ⟨q, hq, hqp⟩ := List.mem_map.1 (h.known g p.pid hown)
        rw [← hentry (hqp ▸ hall q hq)]
        exact hp

/-- A joining viewer is sent what the latest game's own relay would
send it. -/
theorem Sound.joinBurst_perm (h : sh.Sound)
    (hall : ∀ p ∈ sh.relay.players, p.pid ∈ sh.announced) :
    sh.relay.joinBurst.Perm sh.due.joinBurst ∧ sh.relay.history = sh.due.history := by
  have hrest : sh.relay.snapshot = sh.due.snapshot ∧ sh.relay.history = sh.due.history := by
    unfold due
    cases hlatest : sh.latest with
    | none => exact ⟨(h.unused hlatest).2.1, (h.unused hlatest).1.2⟩
    | some g => exact ⟨(h.snapshot g hlatest).symm, (h.history g hlatest).symm⟩
  refine ⟨?_, hrest.2⟩
  unfold Relay.joinBurst
  rw [hrest.1, hrest.2]
  refine List.Perm.cons _ (List.Perm.append_right _ (List.Perm.append_right _ ?_))
  exact List.Perm.append_left _ ((h.players_perm hall).map _)

/-- A game that ends in turn finds no other game's blocks. -/
theorem Sound.no_blocks (h : sh.Sound) {g g' : Nat} (hne : g' ≠ g)
    (hturn : sh.latest = some g ∨ sh.relay.stage.Idle) : (sh.own g').stage.Idle := by
  by_cases hlatest : sh.latest = some g'
  · rcases hturn with hg | hidle
    · exact absurd (Option.some.inj (hlatest.symm.trans hg)) hne
    · exact ⟨(h.queue g' hlatest).trans hidle.1, (h.history g' hlatest).trans hidle.2⟩
  · exact h.others g' hlatest

/-- A game's own relay takes the turns that are for it. -/
theorem own_elim (sh : Shared) (e : Nat × SharedEvent) (g : Nat) :
    (sh.step e).own g
      = (e.2.only g).elim (sh.own g) fun ev => (sh.own g).step (e.1, ev) := by
  unfold step
  dsimp only
  cases e.2.only g with
  | none => rfl
  | some ev => rfl

/-- The blocks a turn sends are blocks of the latest game, whose own
relay releases them in the same turn. -/
theorem Sound.outgoing (h : sh.Sound) {now : Nat} {e : SharedEvent} (hturn : InTurn sh (now, e))
    (hsome : sh.relay.outgoing (now, e.event) ≠ []) :
    ∃ g, sh.latest = some g ∧ ((sh.step (now, e)).own g).released
      = (sh.own g).released ++ sh.relay.outgoing (now, e.event) := by
  have hidle : sh.relay.delayedBlocks = [] →
      ∃ g sent packet, e = .game g sent (.push packet) := by
    intro hqueue
    by_contra hno
    refine hsome (Relay.outgoing_empty hqueue fun sent bytes he => hno ?_)
    cases e with
    | game g sent' m =>
        cases m with
        | push packet => exact ⟨g, sent', packet, rfl⟩
        | _ => cases he
    | _ => cases he
  -- the game, and that its own relay takes the same turn
  have htakes : ∃ g, sh.latest = some g ∧ e.only g = some e.event := by
    have htimer : (∀ g, e.only g = some e.event) → (∀ g sent m, e ≠ .game g sent m) →
        ∃ g, sh.latest = some g ∧ e.only g = some e.event := by
      intro hall hno
      cases hlatest : sh.latest with
      | none =>
          obtain ⟨g, sent, packet, he⟩ := hidle (h.unused hlatest).1.1
          exact absurd he (hno g sent _)
      | some g => exact ⟨g, rfl, hall g⟩
    cases e with
    | game g sent m =>
        cases m with
        | push packet => exact ⟨g, hturn, if_pos rfl⟩
        | gameOver =>
            rcases hturn with hlatest | hqueue
            · exact ⟨g, hlatest, if_pos rfl⟩
            · obtain ⟨_, _, _, he⟩ := hidle hqueue.1
              cases he
        | _ => exact absurd rfl hsome
    | _ => exact htimer (fun _ => rfl) fun _ _ _ he => by cases he
  obtain ⟨g, hlatest, honly⟩ := htakes
  refine ⟨g, hlatest, ?_⟩
  rw [own_elim, honly, Option.elim_some, Relay.released_step]
  congr 1
  exact Relay.outgoing_congr (h.queue g hlatest) (h.delay g) _

/-- What a game's own relay has released stays released. -/
theorem released_own_step (sh : Shared) (e : Nat × SharedEvent) (g : Nat) :
    (sh.own g).released.Sublist ((sh.step e).own g).released := by
  rw [own_elim]
  cases e.2.only g with
  | none => exact List.Sublist.refl _
  | some ev =>
      rw [Option.elim_some, Relay.released_step]
      exact List.sublist_append_left _ _

/-- The invariant of the viewers: the starts are counted, nobody joined
later than now, what is kept for those who join was released, and
everyone was served one game. -/
structure Viewing (sh : Shared) : Prop where
  starts : sh.starts.length = sh.relay.starts
  latest : sh.starts.getLast? = sh.latest
  joined : ∀ v ∈ sh.relay.everyone, v.joined.starts ≤ sh.relay.starts
  history : ∀ g, (sh.own g).history.Sublist (sh.own g).released
  serves : ∀ v ∈ sh.relay.everyone, sh.Serves v

/-- Nor has anybody joined. -/
theorem new_viewing (cfg : RelayConfig) : (new cfg).Viewing where
  starts := rfl
  latest := rfl
  joined _ hv := nomatch hv
  history _ := List.Sublist.refl _
  serves _ hv := nomatch hv

namespace Viewing

/-- What a game's own relay keeps it has released. -/
theorem history_step (h : sh.Viewing) (e : Nat × SharedEvent) (g : Nat) :
    ((sh.step e).own g).history.Sublist ((sh.step e).own g).released := by
  rw [own_elim]
  cases e.2.only g with
  | none => exact h.history g
  | some ev => exact Relay.history_sublist_step (h.history g) _

/-- A viewer stays in the game it joined. -/
theorem home_step (h : sh.Viewing) (e : Nat × SharedEvent) {v w : Viewer}
    (hv : v ∈ sh.relay.everyone) (hjoined : w.joined = v.joined) :
    (sh.step e).home w = sh.home v := by
  have hle : v.joined.starts ≤ sh.starts.length := h.starts ▸ h.joined v hv
  have hstarts : (sh.step e).starts = sh.starts ∨ ∃ g, (sh.step e).starts = sh.starts ++ [g] := by
    obtain ⟨now, e⟩ := e
    cases e with
    | game g sent m =>
        cases m with
        | gameStart => exact .inr ⟨g, rfl⟩
        | _ => exact .inl rfl
    | _ => exact .inl rfl
  unfold home
  rw [hjoined]
  rcases hstarts with he | ⟨g, he⟩
  · rw [he]
  · rw [he, List.take_append_of_le_length hle]

/-- One that is sent nothing has been served as before. -/
theorem serves_step (h : sh.Viewing) (e : Nat × SharedEvent) {v : Viewer}
    (hv : v ∈ sh.relay.everyone) : (sh.step e).Serves v := by
  refine ⟨(h.serves v hv).setup, (h.serves v hv).blocks.trans ?_⟩
  unfold homeBlocks
  rw [h.home_step e hv rfl]
  cases sh.home v with
  | none => exact List.Sublist.refl _
  | some g => exact sh.released_own_step e g

/-- One that hears the blocks of a turn has been served them by its own
game. -/
theorem serves_hears (h : sh.Viewing) (hs : sh.Sound) {e : Nat × SharedEvent}
    (hturn : TakesTurns sh e) {v w : Viewer} (hv : v ∈ sh.relay.viewers)
    (hears : v.Hears (sh.relay.outgoing (e.1, e.2.event)) w) : (sh.step e).Serves w := by
  have hmem : v ∈ sh.relay.everyone := List.mem_append_left _ hv
  have hstays := h.serves_step e hmem
  refine ⟨fun m hm hsetup => ?_, ?_⟩
  · obtain ⟨ms, hmail, -, hno⟩ := hears.mail
    rw [hmail] at hm
    rw [hears.joined]
    rcases List.mem_append.1 hm with hm | hm
    · exact hstays.setup m hm hsetup
    · rw [hno m hm] at hsetup
      cases hsetup
  obtain ⟨new, hblocks, hnew⟩ := hears.blocks
  have hhome : (sh.step e).homeBlocks w = (sh.step e).homeBlocks v := by
    unfold homeBlocks
    rw [h.home_step e hmem hears.joined, h.home_step e hmem rfl]
  rw [hblocks, hhome]
  by_cases hnone : sh.relay.outgoing (e.1, e.2.event) = []
  · rw [hnone, List.sublist_nil] at hnew
    rw [hnew, List.append_nil]
    exact hstays.blocks
  · -- the viewer is one of the latest game, whose blocks they are
    obtain ⟨g, hlatest, hreleased⟩ := hs.outgoing hturn.1 hnone
    have hg : sh.home v = some g := (hturn.2 hnone v hv).trans hlatest
    have hbefore : v.blocks.Sublist (sh.own g).released := by
      have hserved := (h.serves v hmem).blocks
      unfold homeBlocks at hserved
      rw [hg] at hserved
      exact hserved
    unfold homeBlocks
    rw [h.home_step e hmem rfl, hg]
    show List.Sublist _ ((sh.step e).own g).released
    rw [hreleased]
    exact hbefore.append hnew

/-- One that joins is served the latest game. -/
theorem serves_joiner (h : sh.Viewing) (hs : sh.Sound) (now sent connId : Nat)
    (schedule : Schedule) :
    (sh.step (now, .joined sent connId schedule)).Serves (sh.relay.joiner now connId schedule) := by
  have hmail := sh.relay.mail_joiner now connId schedule
  refine ⟨fun m hm hsetup => Relay.setup_joinBurst (hmail.subset hm) hsetup, ?_⟩
  have hblocks : (sh.relay.joiner now connId schedule).blocks.Sublist sh.relay.history := by
    have hsub := hmail.filterMap DtvMsg.block?
    rwa [sh.relay.blocks_joinBurst] at hsub
  have hhome : (sh.step (now, .joined sent connId schedule)).home
      (sh.relay.joiner now connId schedule) = sh.latest := by
    show (sh.starts.take sh.relay.starts).getLast? = _
    rw [← h.starts, List.take_length]
    exact h.latest
  unfold homeBlocks
  rw [hhome]
  cases hlatest : sh.latest with
  | none =>
      rw [show sh.relay.history = [] from (hs.unused hlatest).1.2] at hblocks
      exact hblocks
  | some g =>
      rw [show sh.relay.history = (sh.own g).history from (hs.history g hlatest).symm] at hblocks
      exact (hblocks.trans (h.history g)).trans (sh.released_own_step _ g)

/-- A turn in which no game starts and nobody joins. -/
theorem step_sends (h : sh.Viewing) (hs : sh.Sound) {e : Nat × SharedEvent}
    (hturn : TakesTurns sh e) (hstarts : (sh.step e).starts = sh.starts)
    (hlatest : (sh.step e).latest = sh.latest)
    (hsends : sh.relay.Sends (sh.relay.outgoing (e.1, e.2.event)) (sh.step e).relay) :
    (sh.step e).Viewing := by
  -- everyone is one of those before, and heard of the blocks if it was registered
  have hall : ∀ w ∈ (sh.step e).relay.everyone, (∃ v ∈ sh.relay.viewers,
      v.Hears (sh.relay.outgoing (e.1, e.2.event)) w) ∨ w ∈ sh.relay.gone := by
    intro w hw
    rcases List.mem_append.1 hw with hw | hw
    · exact .inl (hsends.viewers w hw)
    · exact (hsends.gone w hw).symm
  exact
    { starts := by rw [hstarts, hsends.starts, h.starts]
      latest := by rw [hstarts, hlatest, h.latest]
      joined := fun w hw => by
        rw [hsends.starts]
        rcases hall w hw with ⟨v, hv, hears⟩ | hw
        · rw [hears.joined]
          exact h.joined v (List.mem_append_left _ hv)
        · exact h.joined w (List.mem_append_right _ hw)
      history := h.history_step e
      serves := fun w hw => by
        rcases hall w hw with ⟨v, hv, hears⟩ | hw
        · exact h.serves_hears hs hturn hv hears
        · exact h.serves_step e (List.mem_append_right _ hw) }

/-- Every turn that is taken. -/
theorem step (h : sh.Viewing) (hs : sh.Sound) {e : Nat × SharedEvent} (hturn : TakesTurns sh e) :
    (sh.step e).Viewing := by
  obtain ⟨now, e⟩ := e
  cases e with
  | joined sent connId schedule =>
      have hrelay : (sh.step (now, .joined sent connId schedule)).relay
          = sh.relay.viewerJoined now connId schedule := rfl
      have hnew := h.serves_joiner hs now sent connId schedule
      have hstep := fun v => h.serves_step (now, .joined sent connId schedule) (v := v)
      rcases sh.relay.viewerJoined_cases now connId schedule with he | he
      · -- refused
        rw [he] at hrelay
        exact ⟨by rw [hrelay]; exact h.starts, h.latest, by rw [hrelay]; exact h.joined,
          h.history_step _, by rw [hrelay]; exact hstep⟩
      · rw [he] at hrelay
        have hall : ∀ v ∈ (sh.step (now, .joined sent connId schedule)).relay.everyone,
            v ∈ sh.relay.everyone ∨ v = sh.relay.joiner now connId schedule := by
          rw [hrelay]
          intro v hv
          rcases List.mem_append.1 hv with hv | hv
          · rcases List.mem_append.1 hv with hv | hv
            · exact .inl (List.mem_append_left _ hv)
            · exact .inr (List.mem_singleton.1 hv)
          · exact .inl (List.mem_append_right _ hv)
        refine ⟨by rw [hrelay]; exact h.starts, h.latest, fun v hv => ?_, h.history_step _,
          fun v hv => ?_⟩
        · rw [hrelay]
          rcases hall v hv with hv | rfl
          · exact h.joined v hv
          · exact Nat.le_refl _
        · rcases hall v hv with hv | rfl
          · exact hstep v hv
          · exact hnew
  | game g sent m =>
      cases m with
      | gameStart =>
          refine ⟨?_, List.getLast?_concat, fun v hv => ?_, h.history_step _,
            fun v hv => h.serves_step _ hv⟩
          · show (sh.starts ++ [g]).length = sh.relay.starts + 1
            rw [List.length_append, h.starts, List.length_singleton]
          · exact Nat.le_succ_of_le (h.joined v hv)
      | _ =>
          exact h.step_sends hs hturn rfl rfl
            (Relay.Sends.step sh.relay rfl fun _ _ he => by cases he)
  | _ =>
      exact h.step_sends hs hturn rfl rfl
        (Relay.Sends.step sh.relay rfl fun _ _ he => by cases he)

/-- All of them. -/
theorem run (h : sh.Viewing) (hs : sh.Sound) {es : List (Nat × SharedEvent)}
    (hturns : AllTakeTurns sh es) : (sh.run es).Viewing := by
  induction es generalizing sh with
  | nil => exact h
  | cons e es ih => exact ih (h.step hs hturns.1) (hs.step hturns.1.1) hturns.2

end Viewing

end Shared

/-- One event more. -/
theorem allTakeTurns_append {sh : Shared} {es : List (Nat × SharedEvent)} {e : Nat × SharedEvent}
    (h : AllTakeTurns sh (es ++ [e])) : AllTakeTurns sh es ∧ TakesTurns (sh.run es) e := by
  induction es generalizing sh with
  | nil => exact ⟨trivial, h.1⟩
  | cons e' es ih =>
      obtain ⟨hone, hrest⟩ := h
      obtain ⟨hes, he⟩ := ih hrest
      exact ⟨⟨hone, hes⟩, he⟩

/-- In every run in which the games take turns on the relay, every
event keeps them apart: whoever joins is sent the latest game, the
game-over of one takes no block of another, and nobody who ever joined
was sent more than the one game that was the latest then. -/
theorem relay_keeps_games_apart {cfg : RelayConfig} {es : List (Nat × SharedEvent)}
    {e : Nat × SharedEvent} (h : AllTakeTurns (Shared.new cfg) (es ++ [e])) :
    KeepsApart ((Shared.new cfg).run es) e := by
  obtain ⟨hes, hturn⟩ := allTakeTurns_append h
  have hsound := (Shared.new_sound cfg).run hes
  have hviewing := (Shared.new_viewing cfg).run (Shared.new_sound cfg) hes
  refine ⟨?_, ?_, (hviewing.step hsound hturn).serves⟩
  · rintro sent connId schedule he hadmits
    obtain ⟨now, e⟩ := e
    subst he
    exact hsound.joinBurst_perm (hturn.1 hadmits)
  · rintro g sent he g' hne
    obtain ⟨now, e⟩ := e
    subst he
    obtain ⟨hqueue, hhistory⟩ := hsound.no_blocks hne hturn.1
    constructor
    · show List.Sublist (((Shared.new cfg).run es).own g').stage.queue _
      rw [hqueue]
      exact List.nil_sublist _
    · show List.Sublist (((Shared.new cfg).run es).own g').stage.history _
      rw [hhistory]
      exact List.nil_sublist _

section Runs

/-- Whether an event is in turn. -/
def decideInTurn : (sh : Shared) → (e : Nat × SharedEvent) → Decidable (InTurn sh e)
  | sh, (_, .game g _ (.gameStart ..)) | sh, (_, .game g _ .gameOver) =>
      inferInstanceAs (Decidable (sh.latest = some g
        ∨ (sh.relay.delayedBlocks = [] ∧ sh.relay.history = [])))
  | sh, (_, .game g _ (.push _)) | sh, (_, .game g _ (.playerInfo ..)) =>
      inferInstanceAs (Decidable (sh.latest = some g))
  | sh, (_, .joined ..) =>
      inferInstanceAs (Decidable (sh.relay.admits = true →
        ∀ p ∈ sh.relay.players, p.pid ∈ sh.announced))
  | _, (_, .game _ _ (.chat ..)) | _, (_, .left ..) | _, (_, .closed ..) | _, (_, .frame ..)
  | _, (_, .count ..) | _, (_, .tick) => isTrue trivial

/-- Whether a list of events takes its turns. -/
def decideAllTakeTurns : (sh : Shared) → (es : List (Nat × SharedEvent)) →
    Decidable (AllTakeTurns sh es)
  | _, [] => isTrue trivial
  | sh, e :: es =>
      have := decideInTurn sh e
      have := decideAllTakeTurns (sh.step e) es
      inferInstanceAs (Decidable ((InTurn sh e
        ∧ (sh.relay.outgoing (e.1, e.2.event) ≠ [] → ∀ v ∈ sh.relay.viewers,
          sh.home v = sh.latest)) ∧ AllTakeTurns (sh.step e) es))

instance (sh : Shared) (es : List (Nat × SharedEvent)) : Decidable (AllTakeTurns sh es) :=
  decideAllTakeTurns sh es

/-- A relay that releases a block at once. -/
def liveRelay : RelayConfig := { delay := 0, maxViewers := 4, historyMaxMb := 64 }

/-- A game starts on the relay, with these players. -/
def opens (g : Nat) (players : List (UInt8 × Text)) : List (Nat × SharedEvent) :=
  (0, .game g 0 (.gameStart (decimal g) [] 0 0 0 (List.replicate 20 0) [] 0 0 0 []))
    :: players.map fun p => (0, .game g 0 (.playerInfo p.1 p.2 0 0 0))

/-- A game broadcasts a packet. -/
def airs (g : Nat) : Nat × SharedEvent := (0, .game g 0 (.push .countdownStart))

/-- A viewer joins. -/
def watches (connId : Nat) : Nat × SharedEvent := (0, .joined 0 connId .drained)

/-- A viewer leaves. -/
def leaves (connId : Nat) : Nat × SharedEvent := (0, .closed 0 connId)

/-- A game is over. -/
def ends (g : Nat) : Nat × SharedEvent := (0, .game g 0 .gameOver)

/-- Two games of as many players, one after the other; the viewer of the
first leaves with it, and the second has one that joins early. -/
def gameAfterGame : List (Nat × SharedEvent) :=
  opens 1 [(1, txt "ann"), (2, txt "bob")] ++ [airs 1, watches 7, airs 1, ends 1, leaves 7]
    ++ opens 2 [(1, txt "cat"), (2, txt "dan")] ++ [watches 8, airs 2]

/-- Each viewer was sent the blocks of its game, when the next joins. -/
theorem relay_keeps_games_apart_gameAfterGame :
    AllTakeTurns (Shared.new liveRelay) (gameAfterGame ++ [watches 9])
      ∧ (((Shared.new liveRelay).run (gameAfterGame ++ [watches 9])).relay.everyone.map fun v =>
        (v.connId, v.blocks.length)) = [(8, 1), (9, 1), (7, 2)]
      ∧ KeepsApart ((Shared.new liveRelay).run gameAfterGame) (watches 9) := by
  have hturns : AllTakeTurns (Shared.new liveRelay) (gameAfterGame ++ [watches 9]) := by
    decide +kernel
  exact ⟨hturns, by decide +kernel, relay_keeps_games_apart hturns⟩

/-- A viewer of a second game with fewer players is told of a player of
the first; when of two games at once the first ends, the blocks of the
second are gone; and a viewer of the first that stays is sent the blocks
of the second. -/
theorem games_meet_on_the_relay :
    (((Shared.new liveRelay).run (opens 1 [(1, txt "ann"), (2, txt "bob")] ++ [ends 1]
          ++ opens 2 [(1, txt "cat")])).relay.players
        = [⟨1, txt "cat", 0, 0, 0⟩, ⟨2, txt "bob", 0, 0, 0⟩]
      ∧ ¬KeepsApart
        ((Shared.new liveRelay).run (opens 1 [(1, txt "ann"), (2, txt "bob")] ++ [ends 1]
          ++ opens 2 [(1, txt "cat")])) (watches 8))
      ∧ ¬KeepsApart
        ((Shared.new liveRelay).run (opens 1 [(1, txt "ann")] ++ opens 2 [(1, txt "cat")]
          ++ [airs 2])) (ends 1)
      ∧ ¬KeepsApart
        ((Shared.new liveRelay).run (opens 1 [(1, txt "ann")] ++ [watches 7, ends 1]
          ++ opens 2 [(1, txt "cat")])) (airs 2) := by
  refine ⟨⟨by decide +kernel, fun h => ?_⟩, fun h => ?_, fun h => ?_⟩
  · obtain ⟨hperm, -⟩ := h.joins 0 8 .drained rfl (by decide +kernel)
    have hmem := hperm.mem_iff (a := .player ⟨2, txt "bob", 0, 0, 0⟩)
    revert hmem
    decide +kernel
  · have hkept := (h.ends 1 0 rfl 2 (by decide)).2.length_le
    revert hkept
    decide +kernel
  · have hfew : ∀ v ∈ (((Shared.new liveRelay).run (opens 1 [(1, txt "ann")]
        ++ [watches 7, ends 1] ++ opens 2 [(1, txt "cat")])).step (airs 2)).relay.everyone,
        v.blocks.length ≤ ((((Shared.new liveRelay).run (opens 1 [(1, txt "ann")]
          ++ [watches 7, ends 1] ++ opens 2 [(1, txt "cat")])).step
            (airs 2)).homeBlocks v).length :=
      fun v hv => (h.serves v hv).blocks.length_le
    revert hfew
    decide +kernel

end Runs

end Spectre

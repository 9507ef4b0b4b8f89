/-
The desync check, iteration by iteration.

`Sweep` is the inversion of one iteration of the loop of
`check_desync`: nothing to compare, a lone player, a keepalive still on
its way, an agreement, a disagreement. An iteration after which the loop
goes on has dropped a queued checksum (`queuedChecksums_lt`), so the
number of queued checksums bounds the loop, and `checkDesync` unfolds
like the loop of the source (`checkDesync_eq`).

`desyncDue` says when the check has anything to do.
-/
import Mathlib.Algebra.Order.BigOperators.Group.List
import Mathlib.Algebra.Order.Ring.Nat
import Spectre.Iteration
import Spectre.Lib.Bins

namespace Spectre

open GameState

-- ============================================================ what is compared

namespace GameState

/-- The players whose checksums are compared. -/
def compared (s : GameState) : List Player := s.players.filter Player.inDesyncCheck

/-- The check has something to do: a turn is queued, and either nobody
is there to compare it with, or every compared player has acknowledged
it. -/
def desyncDue (s : GameState) : Bool :=
  match minTurn s.compared with
  | none => false
  | some target =>
      decide (s.compared.length < 2) || s.compared.all fun p => decide (target ≤ p.syncCounter)

/-- A lone player has nobody to be compared with. -/
def clearChecksums (s : GameState) : GameState :=
  { s with players := s.players.map fun p =>
      if p.inDesyncCheck then { p with checksums := [] } else p }

end GameState

section Table

variable {s : GameState} {p q : Player} {pid : UInt8} {target : Nat} {active : List Player}

/-- A player at the table is found by its id. -/
theorem byPid_of_mem (hnd : (s.players.map Player.pid).Nodup) (hp : p ∈ s.players) :
    s.players.byPid p.pid = some p := Lib.find?_key_of_mem hnd hp

/-- Who is compared is at the table and takes part. -/
theorem mem_compared : p ∈ s.compared ↔ p ∈ s.players ∧ p.inDesyncCheck = true := List.mem_filter

/-- The turn of the oldest queued checksum. -/
def Player.headTurn (p : Player) : Option Nat := p.checksums.head?.map ChecksumEntry.turn

/-- The oldest queued checksum. -/
def Player.headSum (p : Player) : Nat := (p.checksums.head?.map ChecksumEntry.checksum).getD 0

/-- The oldest turn is some player's, and nobody's is older. -/
theorem minTurn_eq_some (h : minTurn active = some target) :
    (∃ p ∈ active, p.headTurn = some target)
      ∧ ∀ p ∈ active, ∀ turn, p.headTurn = some turn → target ≤ turn := by
  rw [minTurn, List.min?_eq_some_iff] at h
  obtain ⟨hmem, hle⟩ := h
  obtain ⟨p, hp, he⟩ := List.mem_filterMap.1 hmem
  refine ⟨⟨p, hp, he⟩, ?_⟩
  intro q hq turn hturn
  exact hle turn (List.mem_filterMap.2 ⟨q, hq, hturn⟩)

/-- There is none if nothing is queued. -/
theorem minTurn_eq_none (h : minTurn active = none) (hp : p ∈ active) : p.checksums = [] := by
  have hnil := List.filterMap_eq_nil_iff.1 (List.min?_eq_none_iff.1 h) p hp
  simpa using hnil

/-- The oldest entry of a player. -/
theorem headChecksum_of_mem (hnd : (s.players.map Player.pid).Nodup) (hp : p ∈ s.players) :
    s.headChecksum p.pid = p.checksums.head? := by
  rw [headChecksum, byPid_of_mem hnd hp]
  rfl

/-- Whose head entry the check compares. -/
theorem mem_participants (hnd : (s.players.map Player.pid).Nodup) :
    pid ∈ s.participants (s.compared.map Player.pid) target
      ↔ ∃ p ∈ s.compared, p.pid = pid ∧ p.headTurn = some target := by
  rw [participants, List.mem_filter, List.mem_map]
  have hhead : ∀ p ∈ s.compared, (s.headChecksum p.pid).map ChecksumEntry.turn = p.headTurn := by
    intro p hp
    rw [headChecksum_of_mem hnd (mem_compared.1 hp).1]
    rfl
  constructor
  · rintro ⟨⟨p, hp, rfl⟩, ht⟩
    rw [beq_iff_eq, hhead p hp] at ht
    exact ⟨p, hp, rfl, ht⟩
  · rintro ⟨p, hp, rfl, ht⟩
    refine ⟨⟨p, hp, rfl⟩, ?_⟩
    rw [beq_iff_eq, hhead p hp]
    exact ht

/-- The checksum of that entry. -/
theorem reported_of_mem (hnd : (s.players.map Player.pid).Nodup) (hp : p ∈ s.players) :
    s.reported p.pid = p.headSum := by
  rw [reported, headChecksum_of_mem hnd hp]
  rfl

/-- Nobody takes part twice. -/
theorem nodup_participants (hnd : (s.players.map Player.pid).Nodup) (target : Nat) :
    (s.participants (s.compared.map Player.pid) target).Nodup :=
  (hnd.sublist (List.filter_sublist.map _)).filter _

end Table

-- ================================================================ the updates

section Updates

variable {s : GameState} {pids : List UInt8}

/-- An update that leaves the id alone. -/
theorem map_pid_modifyPid (t : PlayerTable) (pid : UInt8) {f : Player → Player}
    (hf : ∀ p, (f p).pid = p.pid) : (t.modifyPid pid f).map Player.pid = t.map Player.pid :=
  Lib.map_updateFirst fun p _ => hf p

/-- An update of the player with an id. -/
theorem modifyPid_eq_map {t : PlayerTable} (hnd : (t.map Player.pid).Nodup) (pid : UInt8)
    (f : Player → Player) : t.modifyPid pid f = t.map fun p => if p.pid = pid then f p else p := by
  have h := Lib.updateFirst_key (k := pid) (f := f) hnd
  simp only [beq_iff_eq] at h
  exact h

/-- The same update of some players, all at once: each is updated once,
or twice is the same as once. -/
theorem foldl_modifyPid {t : PlayerTable} (hnd : (t.map Player.pid).Nodup) {f : Player → Player}
    (hf : ∀ p, (f p).pid = p.pid) (hpids : pids.Nodup ∨ ∀ p, f (f p) = f p) :
    pids.foldl (fun t pid => t.modifyPid pid f) t
      = t.map fun p => if p.pid ∈ pids then f p else p := by
  induction pids generalizing t with
  | nil => simp
  | cons pid pids ih =>
      have hnd' : ((t.modifyPid pid f).map Player.pid).Nodup := by
        rwa [map_pid_modifyPid t pid hf]
      rw [List.foldl_cons, ih hnd' (hpids.imp_left fun h => (List.nodup_cons.1 h).2),
        modifyPid_eq_map hnd, List.map_map]
      refine List.map_congr_left fun p _ => ?_
      dsimp only [Function.comp]
      by_cases hp : p.pid = pid
      · subst hp
        simp only [if_true, hf, List.mem_cons_self]
        by_cases hin : p.pid ∈ pids
        · rcases hpids with hpids | htwice
          · exact absurd hin (List.nodup_cons.1 hpids).1
          · rw [if_pos hin, htwice]
        · rw [if_neg hin]
      · simp [hp]

/-- A loop that updates the players only. -/
theorem foldl_players {α : Type} (l : List α) (f : PlayerTable → α → PlayerTable) (s : GameState) :
    l.foldl (fun s a => { s with players := f s.players a }) s
      = { s with players := l.foldl f s.players } := by
  induction l generalizing s with
  | nil => rfl
  | cons a l ih => exact ih _

/-- Dropping the head entries of some players, all at once. -/
theorem popChecksums_eq (hnd : (s.players.map Player.pid).Nodup) (hpids : pids.Nodup) :
    s.popChecksums pids = { s with
      players := s.players.map fun p => if p.pid ∈ pids then p.popChecksum else p } := by
  rw [← foldl_modifyPid (f := Player.popChecksum) hnd (fun _ => rfl) (.inl hpids)]
  exact foldl_players pids (fun t pid => t.modifyPid pid Player.popChecksum) s

/-- Kicking some players, all at once. -/
theorem kickDesynced_eq (hnd : (s.players.map Player.pid).Nodup) (pids : List UInt8) :
    s.kickDesynced pids = { s with
      players := s.players.map fun p =>
        if p.pid ∈ pids then p.leave .desync leaveLost else p } := by
  rw [← foldl_modifyPid (f := fun p => p.leave .desync leaveLost) hnd (fun _ => rfl)
    (.inr fun _ => rfl)]
  exact foldl_players pids (fun t pid => t.modifyPid pid fun p => p.leave .desync leaveLost) s

/-- Nothing happened to a player, or it heard a packet. -/
def Heard (now : Nat) (p q : Player) : Prop := q = p ∨ ∃ b seq, q = p.hear now b seq

/-- A packet to all touches nothing that is compared. -/
theorem Heard.kept {now : Nat} {p q : Player} (h : Heard now p q) : Kept p q := by
  rcases h with rfl | ⟨b, seq, rfl⟩
  · exact Kept.refl _
  · exact p.kept_hear _ _ _

/-- A chat line to everyone is heard by the players. -/
theorem sendChatAll_players (s : GameState) (message : Text) :
    ∃ f : Player → Player, (∀ p, Heard s.now p (f p))
      ∧ (s.sendChatAll message).players = s.players.map f := by
  have hair : ∀ (t : GameState) (b : Option Packet), t.players = s.players → t.now = s.now →
      ∃ f : Player → Player, (∀ p, Heard s.now p (f p))
        ∧ (t.broadcast? b).players = s.players.map f := by
    intro t b ht hnow
    cases b with
    | none => exact ⟨id, fun _ => .inl rfl, by rw [List.map_id]; exact ht⟩
    | some b =>
        refine ⟨fun p => p.hear t.now b t.airSeq, fun p => .inr ⟨b, t.airSeq, by rw [hnow]⟩, ?_⟩
        rw [← ht]
        exact broadcast_players t b
  have hclip : ∀ (t : GameState) (n : Nat), (t.clip n message).1.players = t.players
      ∧ (t.clip n message).1.now = t.now := by
    intro t n
    unfold clip
    split
    · exact ⟨rfl, rfl⟩
    · exact ⟨rfl, rfl⟩
  have hsame : ∃ f : Player → Player, (∀ p, Heard s.now p (f p)) ∧ s.players = s.players.map f :=
    ⟨id, fun _ => .inl rfl, by rw [List.map_id]⟩
  unfold sendChatAll
  dsimp only
  split
  · exact hsame
  split
  · exact hsame
  split
  · exact hair _ _ (hclip _ _).1 (hclip _ _).2
  · exact hair _ _ (hclip _ _).1 (hclip _ _).2

end Updates

-- ============================================================== one iteration

section Bins

variable {s : GameState} {pids : List UInt8}

/-- The groups of those who reported the same. -/
theorem bins_eq (s : GameState) (pids : List UInt8) : s.bins pids = Lib.bins s.reported pids := rfl

/-- The largest is found in one pass. -/
theorem largestBin_eq (bs : List (Nat × List UInt8)) : largestBin bs = Lib.pass 0 bs := rfl

/-- Every participant is in the bin of the checksum it reports, and the
bins have no other members. -/
theorem mem_bins {pid : UInt8} {cs : Nat} :
    (∃ b ∈ s.bins pids, b.1 = cs ∧ pid ∈ b.2) ↔ pid ∈ pids ∧ s.reported pid = cs := by
  rw [bins_eq]
  constructor
  · rintro ⟨b, hb, rfl, hpid⟩
    rw [Lib.snd_of_mem_bins hb, List.mem_filter, decide_eq_true_eq] at hpid
    exact hpid
  · rintro ⟨hpid, rfl⟩
    have hbin : (s.reported pid, pids.filter fun p => s.reported p = s.reported pid)
        ∈ Lib.bins s.reported pids := Lib.mem_bins.2 ⟨List.mem_map_of_mem hpid, rfl⟩
    exact ⟨_, hbin, rfl, List.mem_filter.2 ⟨hpid, by simp⟩⟩

end Bins

/-- The oldest entries of a turn are dropped. -/
def Player.sweep (target : Nat) (p : Player) : Player :=
  if p.inDesyncCheck = true ∧ p.headTurn = some target then p.popChecksum else p

/-- What one iteration of the check does, and whether the loop goes
on. -/
inductive Sweep [RustStd] (s : GameState) : GameState → Bool → Prop
  /-- no checksum is queued -/
  | idle (h : minTurn s.compared = none) : Sweep s s false
  /-- nobody is there to compare with -/
  | lone (target : Nat) (h : minTurn s.compared = some target) (hlone : s.compared.length < 2) :
      Sweep s s.clearChecksums false
  /-- a keepalive is still on its way -/
  | waiting (target : Nat) (h : minTurn s.compared = some target) (htwo : 2 ≤ s.compared.length)
      (hbehind : ∃ p ∈ s.compared, p.syncCounter < target) : Sweep s s false
  /-- everyone who reported the turn reported the same -/
  | agree (target : Nat) (h : minTurn s.compared = some target) (htwo : 2 ≤ s.compared.length)
      (hacked : ∀ p ∈ s.compared, target ≤ p.syncCounter)
      (hagree : ∀ p ∈ s.compared, ∀ q ∈ s.compared, p.headTurn = some target →
        q.headTurn = some target → p.headSum = q.headSum) :
      Sweep s { s with players := s.players.map (Player.sweep target) } true
  /-- two of them did not, and at least one is kicked -/
  | disagree (target : Nat) (h : minTurn s.compared = some target) (htwo : 2 ≤ s.compared.length)
      (hacked : ∀ p ∈ s.compared, target ≤ p.syncCounter)
      (hdiffer : ∃ p ∈ s.compared, ∃ q ∈ s.compared, p.headTurn = some target ∧
        q.headTurn = some target ∧ p.headSum ≠ q.headSum) (kicked : List UInt8)
      (hkicked : ∀ p ∈ s.compared, ∀ q ∈ s.compared, p.headTurn = some target →
        q.headTurn = some target → p.headSum ≠ q.headSum → p.pid ∈ kicked ∨ q.pid ∈ kicked) :
      Sweep s (((s.sendChatAll (txt "Desync detected!")).kickDesynced kicked).popChecksums
        (s.participants (s.compared.map Player.pid) target)) false

section Sweep

variable [RustStd] {s : GameState}

omit [RustStd] in
/-- The test for a keepalive on its way reads the compared players. -/
theorem any_behind (hnd : (s.players.map Player.pid).Nodup) (target : Nat) :
    ((s.compared.map Player.pid).any fun pid =>
      match s.players.byPid pid with
      | some p => decide (p.syncCounter < target)
      | none => false) = true ↔ ∃ p ∈ s.compared, p.syncCounter < target := by
  have hfind : ∀ p ∈ s.compared, s.players.byPid p.pid = some p :=
    fun p hp => byPid_of_mem hnd (mem_compared.1 hp).1
  rw [List.any_map, List.any_eq_true]
  constructor
  · rintro ⟨p, hp, hlt⟩
    dsimp only [Function.comp] at hlt
    rw [hfind p hp] at hlt
    exact ⟨p, hp, of_decide_eq_true hlt⟩
  · rintro ⟨p, hp, hlt⟩
    refine ⟨p, hp, ?_⟩
    dsimp only [Function.comp]
    rw [hfind p hp]
    exact decide_eq_true hlt

omit [RustStd] in
/-- Popping the participants of a turn is a sweep. -/
theorem pop_participants (hnd : (s.players.map Player.pid).Nodup) (target : Nat) :
    s.popChecksums (s.participants (s.compared.map Player.pid) target)
      = { s with players := s.players.map (Player.sweep target) } := by
  rw [popChecksums_eq hnd (nodup_participants hnd target)]
  congr 1
  refine List.map_congr_left fun p hp => ?_
  unfold Player.sweep
  have hiff : p.pid ∈ s.participants (s.compared.map Player.pid) target
      ↔ p.inDesyncCheck = true ∧ p.headTurn = some target := by
    rw [mem_participants hnd]
    constructor
    · rintro ⟨q, hq, hpid, ht⟩
      have hqp : q = p := by
        have hfind := byPid_of_mem hnd (mem_compared.1 hq).1
        rw [hpid, byPid_of_mem hnd hp] at hfind
        exact (Option.some.inj hfind).symm
      subst hqp
      exact ⟨(mem_compared.1 hq).2, ht⟩
    · rintro ⟨hc, ht⟩
      exact ⟨p, mem_compared.2 ⟨hp, hc⟩, rfl, ht⟩
  simp only [hiff]

omit [RustStd] in
/-- What the test for a disagreement says. -/
theorem differ_iff (hnd : (s.players.map Player.pid).Nodup) (target : Nat) :
    let parts := s.participants (s.compared.map Player.pid) target
    (parts.length < 2 ∨ (!s.differ parts) = true)
      ↔ ∀ p ∈ s.compared, ∀ q ∈ s.compared, p.headTurn = some target →
        q.headTurn = some target → p.headSum = q.headSum := by
  intro parts
  have hmem : ∀ p ∈ s.compared, p.headTurn = some target → p.pid ∈ parts :=
    fun p hp ht => (mem_participants hnd).2 ⟨p, hp, rfl, ht⟩
  have hrep : ∀ p ∈ s.compared, s.reported p.pid = p.headSum :=
    fun p hp => reported_of_mem hnd (mem_compared.1 hp).1
  -- over the pids first, where the code compares each with the first one
  have hsame : (parts.length < 2 ∨ (!s.differ parts) = true)
      ↔ ∀ a ∈ parts, ∀ b ∈ parts, s.reported a = s.reported b := by
    cases hparts : parts with
    | nil => simp
    | cons first rest =>
        have hdiffer : (!s.differ (first :: rest)) = true
            ↔ ∀ a ∈ rest, s.reported a = s.reported first := by
          simp [differ]
        rw [hdiffer]
        constructor
        · rintro (hshort | hall)
          · -- one participant alone agrees with himself
            have hrest : rest = [] := List.eq_nil_of_length_eq_zero (by
              rw [List.length_cons] at hshort
              omega)
            intro a ha b hb
            rw [hrest, List.mem_singleton] at ha hb
            rw [ha, hb]
          · have hfirst : ∀ a ∈ first :: rest, s.reported a = s.reported first := by
              intro a ha
              rcases List.mem_cons.1 ha with rfl | ha
              · rfl
              · exact hall a ha
            intro a ha b hb
            rw [hfirst a ha, hfirst b hb]
        · intro hall
          exact .inr fun a ha => hall a (List.mem_cons_of_mem _ ha) first List.mem_cons_self
  rw [hsame]
  constructor
  · intro hall p hp q hq hpt hqt
    rw [← hrep p hp, ← hrep q hq]
    exact hall _ (hmem p hp hpt) _ (hmem q hq hqt)
  · intro hall a ha b hb
    obtain ⟨p, hp, rfl, hpt⟩ := (mem_participants hnd).1 ha
    obtain ⟨q, hq, rfl, hqt⟩ := (mem_participants hnd).1 hb
    rw [hrep p hp, hrep q hq]
    exact hall p hp q hq hpt hqt

/-- Of two participants that differ, one is not in the largest bin. -/
theorem kicked_of_differ (hnd : (s.players.map Player.pid).Nodup) {target largest : Nat}
    {p q : Player} (hp : p ∈ s.compared) (hq : q ∈ s.compared) (hpt : p.headTurn = some target)
    (hqt : q.headTurn = some target) (hne : p.headSum ≠ q.headSum) :
    let kicked := ((RustStd.hashOrder (s.bins (s.participants (s.compared.map Player.pid)
      target))).filter fun b => b.1 != largest).flatMap Prod.snd
    p.pid ∈ kicked ∨ q.pid ∈ kicked := by
  intro kicked
  have hout : ∀ r ∈ s.compared, r.headTurn = some target → r.headSum ≠ largest
    → r.pid ∈ kicked := by
    intro r hr hrt hrne
    have hrep : s.reported r.pid = r.headSum := reported_of_mem hnd (mem_compared.1 hr).1
    obtain ⟨b, hb, hkey, hin⟩ := mem_bins.2 ⟨(mem_participants hnd).2 ⟨r, hr, rfl, hrt⟩, rfl⟩
    refine List.mem_flatMap.2 ⟨b, List.mem_filter.2 ⟨?_, ?_⟩, hin⟩
    · exact (RustStd.hashOrder_perm _).mem_iff.2 hb
    · rw [bne_iff_ne, hkey, hrep]
      exact hrne
  by_cases hlargest : p.headSum = largest
  · exact .inr (hout q hq hqt fun h => hne (hlargest.trans h.symm))
  · exact .inl (hout p hp hpt hlargest)

omit [RustStd] in
/-- Clearing empty queues changes nothing. -/
theorem clearChecksums_of_empty (h : ∀ p ∈ s.compared, p.checksums = []) :
    s.clearChecksums = s := by
  have hsame : (s.players.map fun p => if p.inDesyncCheck then { p with checksums := [] } else p)
      = s.players := by
    conv => rhs; rw [← List.map_id s.players]
    refine List.map_congr_left fun p hp => ?_
    split
    · rename_i hc
      have hnil := h p (mem_compared.2 ⟨hp, hc⟩)
      rw [← hnil]
      rfl
    · rfl
  unfold clearChecksums
  rw [hsame]

/-- One iteration of the check. -/
theorem sweep_checkDesyncOnce (hnd : (s.players.map Player.pid).Nodup) :
    Sweep s s.checkDesyncOnce.1 s.checkDesyncOnce.2 := by
  have hactive : s.players.filter Player.inDesyncCheck = s.compared := rfl
  have hclear : ({ s with players := s.players.map fun p =>
      if p.inDesyncCheck then { p with checksums := [] } else p } : GameState) = s.clearChecksums :=
        rfl
  unfold checkDesyncOnce
  simp only [hactive, hclear]
  cases hmin : minTurn s.compared with
  | none =>
      dsimp only
      rw [clearChecksums_of_empty fun p hp => minTurn_eq_none hmin hp, ite_self]
      exact .idle hmin
  | some target =>
      dsimp only
      split
      · rename_i hlone
        exact .lone target hmin hlone
      rename_i hlone
      have htwo : 2 ≤ s.compared.length := Nat.le_of_not_lt hlone
      split
      · rename_i hbehind
        exact .waiting target hmin htwo ((any_behind hnd target).1 hbehind)
      rename_i hbehind
      have hacked : ∀ p ∈ s.compared, target ≤ p.syncCounter := by
        intro p hp
        by_contra hlt
        exact hbehind ((any_behind hnd target).2 ⟨p, hp, Nat.lt_of_not_le hlt⟩)
      split
      · rename_i hsame
        rw [pop_participants hnd target]
        exact .agree target hmin htwo hacked ((differ_iff hnd target).1 hsame)
      · rename_i hsame
        have hdiffer : ∃ p ∈ s.compared, ∃ q ∈ s.compared, p.headTurn = some target ∧
            q.headTurn = some target ∧ p.headSum ≠ q.headSum := by
          by_contra hnone
          refine hsame ((differ_iff hnd target).2 fun p hp q hq hpt hqt => ?_)
          by_contra hne
          exact hnone ⟨p, hp, q, hq, hpt, hqt, hne⟩
        split
        · -- a tie: everyone who reported the turn is kicked
          refine .disagree target hmin htwo hacked hdiffer _ fun p hp q hq hpt _ _ => ?_
          exact .inl ((mem_participants hnd).2 ⟨p, hp, rfl, hpt⟩)
        · refine .disagree target hmin htwo hacked hdiffer _ fun p hp q hq hpt hqt hne => ?_
          exact kicked_of_differ hnd hp hq hpt hqt hne

end Sweep

-- ================================================================== the loop

section Loop

variable [RustStd] {s t : GameState} {go : Bool}

omit [RustStd] in
/-- An update that makes no queue longer and one shorter. -/
theorem sum_lt_of_shorter {ps : PlayerTable} {f : Player → Player}
    (hle : ∀ p ∈ ps, (f p).checksums.length ≤ p.checksums.length)
    (hlt : ∃ p ∈ ps, (f p).checksums.length < p.checksums.length) :
    ((ps.map f).map fun p => p.checksums.length).sum
      < (ps.map fun p => p.checksums.length).sum := by
  rw [List.map_map]
  exact List.sum_lt_sum _ _ hle hlt

omit [RustStd] in
/-- There is something to take off. -/
theorem Player.length_of_headTurn {p : Player} {turn : Nat} (h : p.headTurn = some turn) :
    p.checksums.tail.length < p.checksums.length := by
  unfold Player.headTurn at h
  cases hq : p.checksums with
  | nil =>
      rw [hq] at h
      cases h
  | cons e rest => simp

omit [RustStd] in
/-- The table after a disagreement: everyone has heard of it, the kicked
are marked, and the entries of the turn are dropped. -/
theorem disagree_players (hnd : (s.players.map Player.pid).Nodup) (message : Text)
    (kicked : List UInt8) {parts : List UInt8} (hparts : parts.Nodup) :
    ∃ f : Player → Player, (∀ p, Heard s.now p (f p))
      ∧ (((s.sendChatAll message).kickDesynced kicked).popChecksums parts).players
        = s.players.map fun p =>
          let q := if p.pid ∈ kicked then (f p).leave .desync leaveLost else f p
          if p.pid ∈ parts then q.popChecksum else q := by
  obtain ⟨f, hf, hchat⟩ := sendChatAll_players s message
  have hpids : (s.sendChatAll message).players.map Player.pid = s.players.map Player.pid := by
    rw [hchat, List.map_map]
    exact List.map_congr_left fun p _ => (hf p).kept.pid
  have hnd₁ : ((s.sendChatAll message).players.map Player.pid).Nodup := hpids ▸ hnd
  have hkick := kickDesynced_eq hnd₁ kicked
  -- neither the chat nor the kick gives anybody another pid
  have hnd₂ : (((s.sendChatAll message).kickDesynced kicked).players.map Player.pid).Nodup := by
    rw [hkick]
    dsimp only
    rw [List.map_map]
    have hsame : (s.sendChatAll message).players.map (Player.pid ∘ fun p =>
        if p.pid ∈ kicked then p.leave .desync leaveLost else p)
        = (s.sendChatAll message).players.map Player.pid := by
      refine List.map_congr_left fun p _ => ?_
      dsimp only [Function.comp]
      split <;> rfl
    rw [hsame]
    exact hnd₁
  refine ⟨f, hf, ?_⟩
  rw [popChecksums_eq hnd₂ hparts]
  dsimp only
  rw [hkick]
  dsimp only
  rw [hchat, List.map_map, List.map_map]
  refine List.map_congr_left fun p _ => ?_
  dsimp only [Function.comp]
  have hpid : (if p.pid ∈ kicked then (f p).leave .desync leaveLost else f p).pid = p.pid := by
    split
    · exact (hf p).kept.pid
    · exact (hf p).kept.pid
  simp only [(hf p).kept.pid, hpid]

/-- An iteration drops a queued checksum if the check has something to
do, and changes nothing otherwise. -/
theorem Sweep.progress (h : Sweep s t go) (hnd : (s.players.map Player.pid).Nodup) :
    (s.desyncDue = true ∧ t.queuedChecksums < s.queuedChecksums)
      ∨ (s.desyncDue = false ∧ go = false ∧ t = s) := by
  -- with a head turn to compare, a check is due once all have reported past it
  have hdue : ∀ target, minTurn s.compared = some target →
      s.desyncDue = (decide (s.compared.length < 2)
        || s.compared.all fun p => decide (target ≤ p.syncCounter)) := by
    intro target hmin
    unfold desyncDue
    rw [hmin]
  cases h with
  | idle hmin =>
      refine .inr ⟨?_, rfl, rfl⟩
      unfold desyncDue
      rw [hmin]
  | lone target hmin hlone =>
      -- with nobody to compare against, the queue of the one player is emptied
      refine .inl ⟨by rw [hdue target hmin]; simp [hlone], ?_⟩
      obtain ⟨⟨p, hp, hpt⟩, -⟩ := minTurn_eq_some hmin
      refine sum_lt_of_shorter (fun q _ => ?_) ⟨p, (mem_compared.1 hp).1, ?_⟩
      · split <;> simp
      · rw [if_pos (mem_compared.1 hp).2]
        exact Nat.lt_of_le_of_lt (Nat.zero_le _) (Player.length_of_headTurn hpt)
  | waiting target hmin htwo hbehind =>
      -- somebody has not reported that turn yet, so nothing is taken
      refine .inr ⟨?_, rfl, rfl⟩
      obtain ⟨p, hp, hlt⟩ := hbehind
      rw [hdue target hmin, Bool.or_eq_false_iff]
      refine ⟨decide_eq_false (Nat.not_lt.2 htwo), ?_⟩
      rw [List.all_eq_false]
      exact ⟨p, hp, by simpa using hlt⟩
  | agree target hmin htwo hacked _ =>
      refine .inl ⟨by rw [hdue target hmin]; simpa using .inr hacked, ?_⟩
      obtain ⟨⟨p, hp, hpt⟩, -⟩ := minTurn_eq_some hmin
      refine sum_lt_of_shorter (fun q _ => ?_) ⟨p, (mem_compared.1 hp).1, ?_⟩
      · unfold Player.sweep
        split
        · simp [Player.popChecksum]
        · exact Nat.le_refl _
      · rw [Player.sweep, if_pos ⟨(mem_compared.1 hp).2, hpt⟩]
        exact Player.length_of_headTurn hpt
  | disagree target hmin htwo hacked _ kicked _ =>
      refine .inl ⟨by rw [hdue target hmin]; simpa using .inr hacked, ?_⟩
      obtain ⟨⟨p, hp, hpt⟩, -⟩ := minTurn_eq_some hmin
      obtain ⟨f, hf, htable⟩ := disagree_players hnd (txt "Desync detected!") kicked
        (nodup_participants hnd target)
      -- kicking a player leaves his queue as it is: the pop shortens it
      have hqueue : ∀ q : Player, (if q.pid ∈ kicked then (f q).leave .desync leaveLost
          else f q).checksums = q.checksums := by
        intro q
        split
        · exact (hf q).kept.checksums
        · exact (hf q).kept.checksums
      unfold queuedChecksums
      rw [htable]
      refine sum_lt_of_shorter (fun q _ => ?_) ⟨p, (mem_compared.1 hp).1, ?_⟩
      · dsimp only
        split
        · unfold Player.popChecksum
          dsimp only
          rw [hqueue]
          simp
        · rw [hqueue]
      · dsimp only
        rw [if_pos ((mem_participants hnd).2 ⟨p, hp, rfl, hpt⟩)]
        unfold Player.popChecksum
        dsimp only
        rw [hqueue]
        exact Player.length_of_headTurn hpt

/-- An iteration removes nobody. -/
theorem Sweep.pids (h : Sweep s t go) (hnd : (s.players.map Player.pid).Nodup) :
    t.players.map Player.pid = s.players.map Player.pid := by
  have hmap : ∀ f : Player → Player, (∀ p, (f p).pid = p.pid) →
      (s.players.map f).map Player.pid = s.players.map Player.pid := by
    intro f hf
    rw [List.map_map]
    exact List.map_congr_left fun p _ => hf p
  cases h with
  | idle => rfl
  | waiting => rfl
  | lone target _ _ =>
      refine hmap _ fun p => ?_
      split <;> rfl
  | agree target _ _ _ _ =>
      refine hmap _ fun p => ?_
      unfold Player.sweep
      split <;> rfl
  | disagree target _ _ _ _ kicked _ =>
      obtain ⟨f, hf, htable⟩ := disagree_players hnd (txt "Desync detected!") kicked
        (nodup_participants hnd target)
      rw [htable]
      refine hmap _ fun p => ?_
      dsimp only
      split
      · split <;> exact (hf p).kept.pid
      · split <;> exact (hf p).kept.pid

/-- More fuel does not change the outcome. -/
theorem checkDesyncLoop_succ {fuel : Nat} (h : checkDesyncLoop fuel s = some t) :
    checkDesyncLoop (fuel + 1) s = some t := by
  induction fuel generalizing s with
  | zero => cases h
  | succ fuel ih =>
      unfold checkDesyncLoop at h ⊢
      split at h
      · exact ih h
      · exact h

/-- More fuel does not change what comes out. -/
theorem checkDesyncLoop_of_le {fuel fuel' : Nat} (hle : fuel ≤ fuel')
    (h : checkDesyncLoop fuel s = some t) : checkDesyncLoop fuel' s = some t := by
  induction hle with
  | refl => exact h
  | step _ ih => exact checkDesyncLoop_succ ih

/-- The loop ends within one iteration more than there are queued
checksums. -/
theorem checkDesyncLoop_ends (hnd : (s.players.map Player.pid).Nodup) {fuel : Nat}
    (hfuel : s.queuedChecksums < fuel) : ∃ t, checkDesyncLoop fuel s = some t := by
  induction fuel generalizing s with
  | zero => exact absurd hfuel (Nat.not_lt_zero _)
  | succ fuel ih =>
      have hsweep := sweep_checkDesyncOnce hnd
      unfold checkDesyncLoop
      split
      · rename_i u hu
        rw [hu] at hsweep
        dsimp only at hsweep
        rcases hsweep.progress hnd with ⟨-, hlt⟩ | ⟨-, hgo, -⟩
        · exact ih (hsweep.pids hnd ▸ hnd) (by omega)
        · cases hgo
      · exact ⟨_, rfl⟩

/-- `check_desync` is its loop. -/
theorem checkDesync_eq (hnd : (s.players.map Player.pid).Nodup) :
    s.checkDesync = if s.checkDesyncOnce.2 then s.checkDesyncOnce.1.checkDesync
      else s.checkDesyncOnce.1 := by
  have hsweep := sweep_checkDesyncOnce hnd
  obtain ⟨t, ht⟩ := checkDesyncLoop_ends hnd (Nat.lt_succ_self s.queuedChecksums)
  have hwhole : s.checkDesync = t := by
    unfold checkDesync
    rw [ht]
    rfl
  rw [hwhole]
  unfold checkDesyncLoop at ht
  split at ht
  · rename_i u hu
    rw [hu] at hsweep ⊢
    dsimp only at hsweep
    rw [if_pos rfl]
    rcases hsweep.progress hnd with ⟨-, hlt⟩ | ⟨-, hgo, -⟩
    · obtain ⟨t', ht'⟩ := checkDesyncLoop_ends (hsweep.pids hnd ▸ hnd)
        (Nat.lt_succ_self u.queuedChecksums)
      have hsame := checkDesyncLoop_of_le (by omega : u.queuedChecksums + 1 ≤ s.queuedChecksums) ht'
      rw [ht] at hsame
      unfold checkDesync
      dsimp only
      rw [ht', ← Option.some.inj hsame]
      rfl
    · cases hgo
  · rename_i u hu
    rw [hu, if_neg (by simp)]
    exact (Option.some.inj ht).symm

/-- A fact about the check follows from what one iteration does. -/
theorem checkDesync_induction {P : GameState → GameState → Prop}
    (hnd : (s.players.map Player.pid).Nodup)
    (hend : ∀ s t, (s.players.map Player.pid).Nodup → Sweep s t false → P s t)
    (hgo : ∀ s t u, (s.players.map Player.pid).Nodup → Sweep s t true → P t u → P s u) :
    P s s.checkDesync := by
  induction hn : s.queuedChecksums using Nat.strong_induction_on generalizing s with
  | _ n ih =>
      have hsweep := sweep_checkDesyncOnce hnd
      rw [checkDesync_eq hnd]
      split
      · rename_i hon
        rw [hon] at hsweep
        refine hgo _ _ _ hnd hsweep ?_
        rcases hsweep.progress hnd with ⟨-, hlt⟩ | ⟨-, hoff, -⟩
        · exact ih _ (hn ▸ hlt) (hsweep.pids hnd ▸ hnd) rfl
        · cases hoff
      · rename_i hoff
        rw [Bool.eq_false_iff.2 hoff] at hsweep
        exact hend _ _ hnd hsweep

/-- A check with nothing to do changes nothing; one with something to do
drops a queued checksum. -/
theorem checkDesync_spec (hnd : (s.players.map Player.pid).Nodup) :
    (s.desyncDue = false → s.checkDesync = s)
      ∧ (s.desyncDue = true → s.checkDesync.queuedChecksums < s.queuedChecksums) := by
  refine checkDesync_induction (P := fun s t => (s.desyncDue = false → t = s)
    ∧ (s.desyncDue = true → t.queuedChecksums < s.queuedChecksums)) hnd ?_ ?_
  · intro s t hnd hsweep
    rcases hsweep.progress hnd with ⟨hd, hlt⟩ | ⟨hd, -, he⟩
    · exact ⟨fun h => (by rw [hd] at h; cases h), fun _ => hlt⟩
    · exact ⟨fun _ => he, fun h => (by rw [hd] at h; cases h)⟩
  · intro s t u hnd hsweep hP
    rcases hsweep.progress hnd with ⟨hd, hlt⟩ | ⟨-, hgo, -⟩
    · refine ⟨fun h => (by rw [hd] at h; cases h), fun _ => ?_⟩
      by_cases hd' : t.desyncDue = true
      · exact Nat.lt_trans (hP.2 hd') hlt
      · rw [hP.1 (by simpa using hd')]
        exact hlt
    · cases hgo

/-- The check changes the table exactly if it has something to do. -/
theorem checkDesync_players_iff (hnd : (s.players.map Player.pid).Nodup) :
    s.checkDesync.players = s.players ↔ s.desyncDue = false := by
  obtain ⟨hidle, hbusy⟩ := checkDesync_spec hnd
  constructor
  · intro hsame
    by_contra hdue
    have hlt := hbusy (by simpa using hdue)
    unfold queuedChecksums at hlt
    rw [hsame] at hlt
    exact Nat.lt_irrefl _ hlt
  · intro hdue
    rw [hidle hdue]

end Loop

-- ========================================================= where it is called

/-- The player whose keepalive an iteration counts, and the checksum it
carries. -/
def GameState.accepted (s : GameState) : Event → Option (Player × Nat)
  | .cmd _ (.frame connId (.w3gs id payload)) =>
      if id = 0x27 ∧ s.phase = .playing then
        match decodeKeepalive payload with
        | .ok checksum => (s.players.byConn connId).map fun p => (p, checksum)
        | .error _ => none
      else none
  | _ => none

/-- Whose keepalive it is, and what it says. -/
theorem accepted_eq {s : GameState} {env : Env} {connId : Nat} {payload : List UInt8}
    {checksum : Nat} {p : Player} (hplay : s.phase = .playing)
    (hsum : decodeKeepalive payload = .ok checksum) (hp : s.players.byConn connId = some p) :
    s.accepted (.cmd env (.frame connId (.w3gs 0x27 payload))) = some (p, checksum) := by
  simp [accepted, hplay, hsum, hp]

/-- A counted keepalive is counted before everything else. -/
theorem handle_accepted [RustStd] {s : GameState} {ev : Event} {p : Player} {checksum : Nat}
    (h : s.accepted ev = some (p, checksum)) :
    s.players.byConn p.connId = some p
      ∧ s.handle ev = (s.acknowledge p.connId checksum).checkDesync
      ∧ (∀ ms, ev ≠ .elapse ms) ∧ ∀ env, ev ≠ .cmd env .shutdown := by
  unfold accepted at h
  split at h
  · rename_i env connId id payload
    split at h
    · rename_i hid
      obtain ⟨rfl, hplay⟩ := hid
      split at h
      · rename_i sum hsum
        obtain ⟨r, hr, he⟩ := Option.map_eq_some_iff.1 h
        obtain ⟨rfl, rfl⟩ := Prod.mk.inj he
        have hconn : r.connId = connId := byConn_connId hr
        rw [hconn]
        refine ⟨hr, ?_, by simp, by simp⟩
        show s.handleKeepalive connId payload = _
        unfold handleKeepalive
        rw [if_neg (by rw [hplay]; exact fun h => h rfl), hsum]
        rfl
      · cases h
    · cases h
  · cases h

/-- The check is called once for a counted keepalive. -/
theorem mem_checkPoints_of_accepted [RustStd] {s t : GameState} {ev : Event} {p : Player}
    {checksum : Nat} (h : s.accepted ev = some (p, checksum)) (ht : t ∈ s.checkPoints ev) :
    t = s.acknowledge p.connId checksum := by
  unfold accepted at h
  split at h
  · rename_i env connId id payload
    split at h
    · rename_i hid
      obtain ⟨rfl, hplay⟩ := hid
      split at h
      · rename_i sum hsum
        obtain ⟨r, hr, he⟩ := Option.map_eq_some_iff.1 h
        obtain ⟨rfl, rfl⟩ := Prod.mk.inj he
        rw [byConn_connId hr]
        simp only [checkPoints, if_pos hplay, hsum, if_true] at ht
        exact List.mem_singleton.1 ht
      · cases h
    · cases h
  · cases h

/-- It is a player's of a running game. -/
theorem mem_of_accepted {s : GameState} {ev : Event} {p : Player} {checksum : Nat}
    (h : s.accepted ev = some (p, checksum)) : p ∈ s.players ∧ s.phase = .playing := by
  unfold accepted at h
  split at h
  · split at h
    · rename_i hid
      split at h
      · obtain ⟨q, hq, he⟩ := Option.map_eq_some_iff.1 h
        cases he
        exact ⟨List.mem_of_find?_eq_some hq, hid.2⟩
      · cases h
    · cases h
  · cases h

/-- A desync check is called where admitted steps lead. -/
theorem does_checkPoints [RustStd] {K : Kind → GameState → Prop} {s t : GameState} {ev : Event}
    (hA : Admits K s ev) (ht : t ∈ s.checkPoints ev) : Does K s t := by
  unfold checkPoints at ht
  split at ht
  · rename_i hplay
    split at ht
    · rename_i skipped
      rw [List.mem_singleton.1 ht]
      exact (does_tickHead hA.plain s).trans
        (does_checkPoint hA.plain s (hA.feed skipped rfl hplay))
    · split at ht
      · rename_i env connId id payload hid
        subst hid
        split at ht
        · rename_i checksum hsum
          rw [List.mem_singleton.1 ht]
          exact does_acknowledge connId checksum hplay fun p hp =>
            hA.ack env connId payload checksum p rfl hplay hsum hp
        · cases ht
      · cases ht
    · cases ht
  · cases ht

end Spectre

/-
How the desync check ends, and what it decides.

The loop of `check_desync` goes on only after it has dropped a queued
checksum, so it ends (`check_desync_ends`). That rests on the ids in the
table being distinct: the ids are collected in one pass and the players
looked up again in another, and only with distinct ids does the lookup
return the player whose entry set the turn.

Where the checksums of a turn differ, the participants vote. A checksum
that leads all others is taken for the truth, and everyone who reported
another is kicked; where none leads, everyone who reported is
(`desync_verdict`). The bins of the source are iterated in the order of
a hash map; the verdict speaks of votes only, so neither that order nor
the order of the table enters it.
-/
import Spectre.Truthful

namespace Spectre

open GameState

-- ============================================================== the loop's turns

/-- A turn of the loop of `check_desync` that starts in `s` is followed
by others, and one of them starts in `t`. -/
def Sweeping [RustStd] : GameState → GameState → Prop :=
  Relation.ReflTransGen fun s t => s.checkDesyncOnce = (t, true)

section Sweeping

variable [RustStd] {s t u : GameState}

theorem Sweeping.nodup (h : Sweeping s t) (hnd : (s.players.map Player.pid).Nodup) :
    (t.players.map Player.pid).Nodup := by
  induction h with
  | refl => exact hnd
  | tail _ hlast ih =>
      have hsweep := sweep_checkDesyncOnce ih
      rw [hlast] at hsweep
      rw [hsweep.pids ih]
      exact ih

/-- What the loop ends with is what it ends with from any of its
turns. -/
theorem Sweeping.checkDesync_eq (h : Sweeping s t) (hnd : (s.players.map Player.pid).Nodup) :
    s.checkDesync = t.checkDesync := by
  induction h with
  | refl => rfl
  | tail hpath hlast ih =>
      rw [ih, Spectre.checkDesync_eq (Sweeping.nodup hpath hnd), hlast]
      rfl

/-- The states in which the check is called are well-formed. -/
theorem wellFormed_of_checkPoints (hs : WellFormed s) {ev : Event} (ht : t ∈ s.checkPoints ev) :
    WellFormed t :=
  (does_checkPoints (admits_anyFine s ev) ht).keeps_wellFormed hs

end Sweeping

-- ==================================================================== the end

section Ends

variable [RustStd] {s t u v : GameState}

/-- The entry that set the target turn is looked up, and dropped. -/
theorem head_dropped (hnd : (u.players.map Player.pid).Nodup)
    (hgo : u.checkDesyncOnce = (v, true)) :
    ∃ target, minTurn u.compared = some target
      ∧ ∃ p ∈ u.compared, p.headTurn = some target ∧ u.players.byPid p.pid = some p
        ∧ v.players.byPid p.pid = some p.popChecksum := by
  have hsweep := sweep_checkDesyncOnce hnd
  rw [hgo] at hsweep
  have hpids := hsweep.pids hnd
  cases hsweep with
  | agree target hmin _ _ _ =>
      obtain ⟨⟨p, hp, hturn⟩, -⟩ := minTurn_eq_some hmin
      obtain ⟨hmem, hcheck⟩ := mem_compared.1 hp
      refine ⟨target, hmin, p, hp, hturn, byPid_of_mem hnd hmem, ?_⟩
      have hpop : p.sweep target = p.popChecksum := by
        unfold Player.sweep
        rw [if_pos ⟨hcheck, hturn⟩]
      have hfind := byPid_of_mem (hpids ▸ hnd) (List.mem_map_of_mem (f := Player.sweep target) hmem)
      rw [hpop] at hfind
      exact hfind

/-- In every state of a game, and in every state in which the check is
called, the loop of `check_desync` ends within one turn more than there
are queued checksums: no two players share an id, so each turn after
which it goes on finds the player whose entry set the target turn, and
drops that entry. -/
theorem check_desync_ends (h : Reaches (fun _ _ => True) s) {ev : Event}
    (ht : t = s ∨ t ∈ s.checkPoints ev) :
    (t.players.map Player.pid).Nodup
      ∧ checkDesyncLoop (t.queuedChecksums + 1) t = some t.checkDesync
      ∧ ∀ u v, Sweeping t u → u.checkDesyncOnce = (v, true) →
        v.queuedChecksums < u.queuedChecksums
          ∧ ∃ target, minTurn u.compared = some target
            ∧ ∃ p ∈ u.compared, p.headTurn = some target ∧ u.players.byPid p.pid = some p
              ∧ v.players.byPid p.pid = some p.popChecksum := by
  have hs : WellFormed s := h.wellFormed
  have hwf : WellFormed t := by
    rcases ht with rfl | ht
    · exact hs
    · exact wellFormed_of_checkPoints hs ht
  have hnd := hwf.pids
  refine ⟨hnd, ?_, ?_⟩
  · obtain ⟨u, hu⟩ := checkDesyncLoop_ends hnd (Nat.lt_succ_self t.queuedChecksums)
    unfold checkDesync
    rw [hu]
    rfl
  · intro u v hpath hgo
    have hnd' := hpath.nodup hnd
    refine ⟨?_, head_dropped hnd' hgo⟩
    have hsweep := sweep_checkDesyncOnce hnd'
    rw [hgo] at hsweep
    rcases hsweep.progress hnd' with ⟨-, hlt⟩ | ⟨-, hoff, -⟩
    · exact hlt
    · cases hoff

end Ends

-- ================================================================= the verdict

namespace GameState

/-- The participants: the compared players with the turn at their
head. -/
def reporters (s : GameState) (target : Nat) : List Player :=
  s.compared.filter fun p => p.headTurn == some target

/-- The ids of the players marked for a desync. -/
def desynced (s : GameState) : Set UInt8 :=
  {pid | ∃ p ∈ s.players, p.pid = pid ∧ p.left = some .desync}

/-- Whom a turn of the loop of `check_desync` kicks for desync. -/
def kickedForDesync [RustStd] (s : GameState) : Set UInt8 :=
  s.checkDesyncOnce.1.desynced \ s.desynced

end GameState

/-- The check finds participants for a turn, and they do not agree. -/
structure Disagrees (s : GameState) (target : Nat) : Prop where
  due : minTurn s.compared = some target
  acked : ∀ p ∈ s.compared, target ≤ p.syncCounter
  differ : ∃ p ∈ s.reporters target, ∃ q ∈ s.reporters target, p.headSum ≠ q.headSum

section Verdict

variable {s s' : GameState} {target : Nat} {p q : Player}

theorem mem_reporters : p ∈ s.reporters target ↔ p ∈ s.compared ∧ p.headTurn = some target := by
  simp [reporters]

theorem left_of_compared (h : p ∈ s.compared) : p.left = none := by
  have hcheck := (mem_compared.1 h).2
  simp only [Player.inDesyncCheck, Bool.and_eq_true, Option.isNone_iff_eq_none] at hcheck
  exact hcheck.1.1.1

/-- The ids the check collects are those of the reporters. -/
theorem participants_eq (hnd : (s.players.map Player.pid).Nodup) (target : Nat) :
    s.participants (s.compared.map Player.pid) target = (s.reporters target).map Player.pid := by
  unfold participants reporters
  rw [List.filter_map]
  refine congrArg (List.map Player.pid) (List.filter_congr fun p hp => ?_)
  dsimp only [Function.comp]
  rw [headChecksum_of_mem hnd (mem_compared.1 hp).1]
  rfl

/-- The votes the bins count are those of the reporters. -/
theorem votes_participants (hnd : (s.players.map Player.pid).Nodup) (target cs : Nat) :
    Lib.votes s.reported (s.participants (s.compared.map Player.pid) target) cs
      = Lib.votes Player.headSum (s.reporters target) cs := by
  unfold Lib.votes
  rw [participants_eq hnd, List.filter_map, List.length_map]
  refine congrArg List.length (List.filter_congr fun p hp => ?_)
  dsimp only [Function.comp]
  rw [reported_of_mem hnd (mem_compared.1 (mem_reporters.1 hp).1).1]

theorem leads_participants (hnd : (s.players.map Player.pid).Nodup) (target cs : Nat) :
    Lib.Leads s.reported (s.participants (s.compared.map Player.pid) target) cs
      ↔ Lib.Leads Player.headSum (s.reporters target) cs := by
  unfold Lib.Leads
  simp only [votes_participants hnd]

/-- At least two participate, so at least two are compared. -/
theorem Disagrees.two (h : Disagrees s target) : 2 ≤ (s.reporters target).length := by
  obtain ⟨p, hp, q, hq, hne⟩ := h.differ
  by_contra hshort
  cases hl : s.reporters target with
  | nil =>
      rw [hl] at hp
      cases hp
  | cons a rest =>
      rw [hl, List.length_cons] at hshort
      have hrest : rest = [] := List.eq_nil_of_length_eq_zero (by omega)
      rw [hl, hrest, List.mem_singleton] at hp hq
      rw [hp, hq] at hne
      exact hne rfl

/-- The order of the table does not matter for what the check finds. -/
theorem Disagrees.perm (h : Disagrees s target) (hperm : s'.players.Perm s.players) :
    Disagrees s' target ∧ (s'.reporters target).Perm (s.reporters target) := by
  have hcompared : s'.compared.Perm s.compared := hperm.filter _
  have hreporters : (s'.reporters target).Perm (s.reporters target) := hcompared.filter _
  refine ⟨⟨?_, fun p hp => h.acked p (hcompared.mem_iff.1 hp), ?_⟩, hreporters⟩
  · obtain ⟨⟨p, hp, hturn⟩, hle⟩ := minTurn_eq_some h.due
    unfold minTurn
    rw [List.min?_eq_some_iff]
    refine ⟨List.mem_filterMap.2 ⟨p, hcompared.mem_iff.2 hp, hturn⟩, fun turn hmem => ?_⟩
    obtain ⟨q, hq, he⟩ := List.mem_filterMap.1 hmem
    exact hle q (hcompared.mem_iff.1 hq) turn he
  · obtain ⟨p, hp, q, hq, hne⟩ := h.differ
    exact ⟨p, hreporters.mem_iff.2 hp, q, hreporters.mem_iff.2 hq, hne⟩

/-- Hearing a packet marks nobody for a desync, and clears no mark. -/
theorem Heard.left {now : Nat} (h : Heard now p q) :
    q.left = some .desync ↔ p.left = some .desync := by
  rcases h with rfl | ⟨b, seq, rfl⟩
  · rfl
  constructor
  · intro hq
    by_contra hp
    exact Player.hear_not_desync hp hq
  · intro hp
    rw [hear_of_left (by rw [hp]; rfl)]
    exact hp

variable [std : RustStd]

/-- The turn of the loop that finds a disagreement: the participants who
did not report the leading checksum are kicked, and that is all of them
where none leads. -/
theorem checkDesyncOnce_of_disagrees (hnd : (s.players.map Player.pid).Nodup)
    (h : Disagrees s target) : ∃ kicked : List UInt8,
      s.checkDesyncOnce
      = (((s.sendChatAll (txt "Desync detected!")).kickDesynced kicked).popChecksums
        (s.participants (s.compared.map Player.pid) target), false)
      ∧ ∀ p ∈ s.players, p.pid ∈ kicked ↔ p ∈ s.reporters target
        ∧ ∀ cs, Lib.Leads Player.headSum (s.reporters target) cs → p.headSum ≠ cs := by
  have hparts := participants_eq hnd target
  have hmem : ∀ p ∈ s.players,
      p.pid ∈ s.participants (s.compared.map Player.pid) target ↔ p ∈ s.reporters target := by
    intro p hp
    rw [mem_participants hnd, mem_reporters]
    constructor
    · rintro ⟨q, hq, hpid, hturn⟩
      have hqp : q = p := by
        have hfind := byPid_of_mem hnd (mem_compared.1 hq).1
        rw [hpid, byPid_of_mem hnd hp] at hfind
        exact (Option.some.inj hfind).symm
      rw [← hqp]
      exact ⟨hq, hturn⟩
    · rintro ⟨hc, hturn⟩
      exact ⟨p, hc, rfl, hturn⟩
  have hsome : s.participants (s.compared.map Player.pid) target ≠ [] := by
    obtain ⟨p, hp, -⟩ := h.differ
    rw [hparts]
    exact List.ne_nil_of_mem (List.mem_map_of_mem hp)
  have hperm : (RustStd.hashOrder (s.bins (s.participants (s.compared.map Player.pid) target))).Perm
      (Lib.bins s.reported (s.participants (s.compared.map Player.pid) target)) :=
    RustStd.hashOrder_perm _
  have hactive : s.players.filter Player.inDesyncCheck = s.compared := rfl
  unfold checkDesyncOnce
  simp only [hactive, h.due]
  split
  · rename_i hshort
    have hle : (s.reporters target).length ≤ s.compared.length := List.length_filter_le _ _
    have htwo := h.two
    omega
  split
  · rename_i hbehind
    obtain ⟨p, hp, hlt⟩ := (any_behind hnd target).1 hbehind
    exact absurd (h.acked p hp) (Nat.not_le.2 hlt)
  split
  · rename_i hsame
    obtain ⟨p, hp, q, hq, hne⟩ := h.differ
    rw [mem_reporters] at hp hq
    exact absurd ((differ_iff hnd target).1 hsame p hp.1 q hq.1 hp.2 hq.2) hne
  rw [largestBin_eq]
  cases htied : (Lib.pass 0 (RustStd.hashOrder
      (s.bins (s.participants (s.compared.map Player.pid) target)))).2.2 with
  | true =>
      -- no checksum leads
      refine ⟨_, rfl, fun p hp => ?_⟩
      rw [hmem p hp]
      refine ⟨fun hr => ⟨hr, fun cs hlead => ?_⟩, fun hr => hr.1⟩
      exact absurd ((leads_participants hnd target cs).2 hlead) (Lib.pass_tied hperm htied cs)
  | false =>
      have hlead := Lib.pass_untied hperm hsome htied
      refine ⟨_, rfl, fun p hp => ?_⟩
      rw [List.mem_flatMap]
      constructor
      · rintro ⟨b, hb, hpid⟩
        obtain ⟨hb, hkey⟩ := List.mem_filter.1 hb
        obtain ⟨hpart, hreported⟩ := mem_bins.1 ⟨b, hperm.mem_iff.1 hb, rfl, hpid⟩
        refine ⟨(hmem p hp).1 hpart, fun cs hcs he => ?_⟩
        -- two checksums cannot both lead
        rw [← leads_participants hnd] at hcs
        rw [reported_of_mem hnd hp, he] at hreported
        rw [bne_iff_ne, ← hreported] at hkey
        exact Nat.lt_asymm (hlead cs hkey) (hcs _ (Ne.symm hkey))
      · rintro ⟨hr, hne⟩
        have hreported := reported_of_mem hnd hp
        obtain ⟨b, hb, hkey, hpid⟩ := mem_bins.2 ⟨(hmem p hp).2 hr, rfl⟩
        refine ⟨b, List.mem_filter.2 ⟨hperm.mem_iff.2 hb, ?_⟩, hpid⟩
        rw [bne_iff_ne, hkey, hreported]
        exact hne _ ((leads_participants hnd target _).1 hlead)

/-- The table after a disagreement. -/
theorem disagrees_players (hnd : (s.players.map Player.pid).Nodup) (h : Disagrees s target) :
    ∃ f : Player → Player, s.checkDesyncOnce.1.players = s.players.map f
      ∧ ∀ p ∈ s.players, (f p).pid = p.pid
        ∧ (p ∈ s.reporters target → (f p).checksums = p.checksums.tail)
        ∧ (p ∉ s.reporters target → (f p).checksums = p.checksums)
        ∧ ((f p).left = some .desync ↔ p.left = some .desync ∨ (p ∈ s.reporters target
          ∧ ∀ cs, Lib.Leads Player.headSum (s.reporters target) cs → p.headSum ≠ cs)) := by
  obtain ⟨kicked, honce, hkicked⟩ := checkDesyncOnce_of_disagrees hnd h
  obtain ⟨f, hf, htable⟩ := disagree_players hnd (txt "Desync detected!") kicked
    (nodup_participants hnd target)
  rw [honce]
  refine ⟨_, htable, fun p hp => ?_⟩
  dsimp only
  -- the participants are pids, and in a table without two of one pid each names its player
  have hmem : p.pid ∈ s.participants (s.compared.map Player.pid) target
    ↔ p ∈ s.reporters target := by
    rw [participants_eq hnd]
    constructor
    · intro hpid
      obtain ⟨q, hq, he⟩ := List.mem_map.1 hpid
      have hfind := byPid_of_mem hnd (mem_compared.1 (mem_reporters.1 hq).1).1
      rw [he, byPid_of_mem hnd hp] at hfind
      rw [Option.some.inj hfind]
      exact hq
    · exact List.mem_map_of_mem
  have hkept := (hf p).kept
  have hleft := (hf p).left
  by_cases hk : p.pid ∈ kicked
  · -- the kicked are reporters whose sum is not the leading one
    have hverdict := (hkicked p hp).1 hk
    rw [if_pos hk, if_pos (hmem.2 hverdict.1)]
    refine ⟨hkept.pid, fun _ => ?_, fun hr => absurd hverdict.1 hr, fun _ =>
      .inr hverdict, fun _ => rfl⟩
    show (f p).checksums.tail = _
    rw [hkept.checksums]
  rw [if_neg hk]
  have hnot := fun hv => hk ((hkicked p hp).2 hv)
  by_cases hr : p ∈ s.reporters target
  · rw [if_pos (hmem.2 hr)]
    refine ⟨hkept.pid, fun _ => ?_, fun hr' => absurd hr hr', ?_⟩
    · show (f p).checksums.tail = _
      rw [hkept.checksums]
    · show (f p).left = some .desync ↔ _
      rw [hleft]
      exact ⟨.inl, fun hor => hor.resolve_right hnot⟩
  · rw [if_neg fun hpart => hr (hmem.1 hpart)]
    refine ⟨hkept.pid, fun hr' => absurd hr' hr, fun _ => hkept.checksums, ?_⟩
    rw [hleft]
    exact ⟨.inl, fun hor => hor.resolve_right hnot⟩

/-- Whom a disagreement costs the seat. -/
theorem kickedForDesync_eq (hnd : (s.players.map Player.pid).Nodup) (h : Disagrees s target) :
    s.kickedForDesync = {pid | ∃ p ∈ s.reporters target, p.pid = pid
      ∧ ∀ cs, Lib.Leads Player.headSum (s.reporters target) cs → p.headSum ≠ cs} := by
  obtain ⟨f, htable, hf⟩ := disagrees_players hnd h
  apply Set.ext
  intro pid
  constructor
  · rintro ⟨⟨q, hq, rfl, hleft⟩, hbefore⟩
    rw [htable] at hq
    obtain ⟨p, hp, rfl⟩ := List.mem_map.1 hq
    obtain ⟨hpid, -, -, hmark⟩ := hf p hp
    rcases hmark.1 hleft with hold | ⟨hr, hne⟩
    · exact absurd ⟨p, hp, hpid.symm, hold⟩ hbefore
    · exact ⟨p, hr, hpid.symm, hne⟩
  · rintro ⟨p, hr, rfl, hne⟩
    have hc := (mem_reporters.1 hr).1
    have hp := (mem_compared.1 hc).1
    obtain ⟨hpid, -, -, hmark⟩ := hf p hp
    refine ⟨⟨f p, by rw [htable]; exact List.mem_map_of_mem hp, hpid, hmark.2 (.inr ⟨hr, hne⟩)⟩, ?_⟩
    rintro ⟨q, hq, hqp, hleft⟩
    -- the ids are distinct, and a participant has not left
    have hfind := byPid_of_mem hnd hq
    rw [hqp, byPid_of_mem hnd hp] at hfind
    rw [← Option.some.inj hfind, left_of_compared hc] at hleft
    cases hleft

/-- Where the check, called in any state of a run, finds participants
that do not agree, that turn ends the loop. If a checksum leads all
others, exactly the participants who reported another are kicked for
desync, and otherwise exactly all participants are; the entry of every
participant is dropped, and no other. The same players are kicked
whatever the order of the hash map and of the table. -/
theorem desync_verdict {t u : GameState} (h : Reaches (fun _ _ => True) s) {ev : Event}
    (ht : t ∈ s.checkPoints ev) (hu : Sweeping t u) (hd : Disagrees u target) :
    t.checkDesync = u.checkDesyncOnce.1
      ∧ (∀ cs, Lib.Leads Player.headSum (u.reporters target) cs → u.kickedForDesync
          = {pid | ∃ p ∈ u.reporters target, p.pid = pid ∧ p.headSum ≠ cs})
      ∧ ((∀ cs, ¬Lib.Leads Player.headSum (u.reporters target) cs) → u.kickedForDesync
          = {pid | ∃ p ∈ u.reporters target, p.pid = pid})
      ∧ (∀ p ∈ u.players, ∃ q ∈ t.checkDesync.players, q.pid = p.pid
          ∧ (p ∈ u.reporters target → q.checksums = p.checksums.tail)
          ∧ (p ∉ u.reporters target → q.checksums = p.checksums))
      ∧ ∀ (std' : RustStd) (u' : GameState), u'.players.Perm u.players →
          @kickedForDesync std' u' = @kickedForDesync std u := by
  have hs : WellFormed s := h.wellFormed
  have hndt := (wellFormed_of_checkPoints hs ht).pids
  have hnd := hu.nodup hndt
  have hkicked := kickedForDesync_eq hnd hd
  -- the sweep goes on from there, and a verdict ends it
  have hend : t.checkDesync = u.checkDesyncOnce.1 := by
    rw [hu.checkDesync_eq hndt, checkDesync_eq hnd]
    obtain ⟨kicked, honce, -⟩ := checkDesyncOnce_of_disagrees hnd hd
    rw [honce]
    rfl
  refine ⟨hend, fun cs hcs => ?_, fun hnone => ?_, fun p hp => ?_, fun std' u' hperm => ?_⟩
  · rw [hkicked]
    apply Set.ext
    intro pid
    constructor
    · rintro ⟨p, hp, hpid, hne⟩
      exact ⟨p, hp, hpid, hne cs hcs⟩
    · rintro ⟨p, hp, hpid, hne⟩
      refine ⟨p, hp, hpid, fun cs' hcs' he => ?_⟩
      -- two sums cannot both have more reporters than every other
      have hdiff : cs' ≠ cs := fun hcc => hne (he.trans hcc)
      have h₁ := hcs cs' hdiff
      have h₂ := hcs' cs (Ne.symm hdiff)
      omega
  · rw [hkicked]
    apply Set.ext
    intro pid
    constructor
    · rintro ⟨p, hp, hpid, -⟩
      exact ⟨p, hp, hpid⟩
    · rintro ⟨p, hp, hpid⟩
      exact ⟨p, hp, hpid, fun cs hcs => absurd hcs (hnone cs)⟩
  · obtain ⟨f, htable, hf⟩ := disagrees_players hnd hd
    rw [hend, htable]
    obtain ⟨hpid, hpop, hkeep, -⟩ := hf p hp
    exact ⟨f p, List.mem_map_of_mem hp, hpid, hpop, hkeep⟩
  · -- the counting does not look at the order in which the table is read
    obtain ⟨hd', hreporters⟩ := hd.perm hperm
    have hnd' : (u'.players.map Player.pid).Nodup := (hperm.map Player.pid).nodup_iff.2 hnd
    have hleads : ∀ cs, Lib.Leads Player.headSum (u'.reporters target) cs
        ↔ Lib.Leads Player.headSum (u.reporters target) cs :=
      fun cs => ⟨Lib.Leads.perm hreporters, Lib.Leads.perm hreporters.symm⟩
    rw [hkicked, @kickedForDesync_eq u' target std' hnd' hd']
    simp only [hleads, hreporters.mem_iff]

end Verdict

section Runs

open Scenario

/-- One client is late with its second report, and both turns are
compared when it comes. -/
theorem check_desync_ends_lateReports :
    ∃ t ∈ (lobby.run lateReports).checkPoints (report 2 2),
      t.queuedChecksums = 2 ∧ checkDesyncLoop 3 t = some t.checkDesync := by
  have hrun : Reaches (fun _ _ => True) (lobby.run lateReports) :=
    ⟨config, 0, 5, Runs.of_meets (by decide +kernel)⟩
  have hqueued : ∀ t ∈ (lobby.run lateReports).checkPoints (report 2 2), t.queuedChecksums = 2 := by
    decide +kernel
  have hcalled : ((lobby.run lateReports).checkPoints (report 2 2)).isEmpty = false := by
    decide +kernel
  obtain ⟨t, ht⟩ := List.isEmpty_eq_false_iff_exists_mem.1 hcalled
  have hends := (check_desync_ends hrun (.inr ht)).2.1
  rw [hqueued t ht] at hends
  exact ⟨t, ht, hqueued t ht, hends⟩

/-- Three clients play a turn; two of them report it. -/
def twoReports : List Event :=
  twoJoin PlayerLink.drained PlayerLink.drained
    ++ [connect 3 PlayerLink.drained, join 3 (txt "carl")]
    ++ countdown ++ [loaded 1, loaded 2, loaded 3, .tick 0, report 1 7, report 2 7]

/-- The state in which the check is called when the third client reports
something else. -/
def thirdReport : GameState := (lobby.run twoReports).acknowledge 3 9

theorem thirdReport_disagrees : Disagrees thirdReport 1 :=
  ⟨by decide +kernel, by decide +kernel, by decide +kernel⟩

/-- The third client is kicked, and only it. -/
theorem desync_verdict_thirdReport :
    thirdReport.checkDesync = thirdReport.checkDesyncOnce.1
      ∧ (thirdReport.reporters 1).map (fun p => (p.pid, p.headSum)) = [(1, 7), (2, 7), (3, 9)]
      ∧ thirdReport.kickedForDesync
        = {pid | ∃ p ∈ thirdReport.reporters 1, p.pid = pid ∧ p.headSum ≠ 7} := by
  have hrun : Reaches (fun _ _ => True) (lobby.run twoReports) :=
    ⟨config, 0, 5, Runs.of_meets (by decide +kernel)⟩
  have hpoint : thirdReport ∈ (lobby.run twoReports).checkPoints (report 3 9) := by
    have hpoints : (lobby.run twoReports).checkPoints (report 3 9) = [thirdReport] := by
      unfold checkPoints
      rw [if_pos (by decide +kernel)]
      rfl
    rw [hpoints]
    exact List.mem_singleton_self _
  have hlead : Lib.Leads Player.headSum (thirdReport.reporters 1) 7 :=
    Lib.Leads.of_keys (by decide +kernel) (by decide +kernel)
  obtain ⟨hend, hverdict, -⟩ := desync_verdict hrun hpoint Relation.ReflTransGen.refl
    thirdReport_disagrees
  exact ⟨hend, by decide +kernel, hverdict 7 hlead⟩

end Runs

end Spectre

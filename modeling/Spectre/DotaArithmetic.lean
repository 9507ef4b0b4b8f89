/-
The `u32` arithmetic of the statistics on hostile input
(`StatsDotA::process_action`, `GameState::save_game_data`).

Records add in four places: the three counters' `+= 1` and the colour's
`value_int + 1`. The game adds once more when it ends, to make a
duration of minutes and seconds. None of these checks anything, so all
of them stay in range exactly when the records do not ask for more
(`stats_arithmetic_iff`). The scan's own indices are at most six above
the action's length.
-/
import Spectre.Actor
import Spectre.DotaRecords
import Spectre.Scenario

namespace Spectre

-- ================================================================ the sums

/-- A field that counts the records about it. -/
def DotAPlayerStats.counter (p : DotAPlayerStats) : DotaField → Option Nat
  | .courierKills => some p.courierKills
  | .towerKills => some p.towerKills
  | .raxKills => some p.raxKills
  | _ => none

/-- The entry of a player, or the one a record about it begins with. -/
def StatsDotA.entryOf (st : StatsDotA) (id : Nat) : DotAPlayerStats :=
  (st.player id).getD (.fresh id)

/-- The sums `process_action` makes for a record, in `u32`. -/
def DotaRecord.sums (st : StatsDotA) (r : DotaRecord) : List Nat :=
  match r.names with
  | .player _ (some .newColour) => if 6 ≤ r.value then [r.value + 1] else []
  | .player id (some f) => ((st.entryOf id).counter f).toList.map (· + 1)
  | _ => []

/-- The product and the sum `save_game_data` makes for the duration. -/
def StatsDotA.durationSums (st : StatsDotA) : List Nat :=
  [st.durationMin * 60, st.durationMin * 60 % 2 ^ 32 + st.durationSec]

/-- What the records last reported for a number of the game. -/
def lastReported (g : DotaGlobal) (rs : List DotaRecord) : Nat :=
  ((rs.filter fun r => r.names = .game g).getLast?.map DotaRecord.value).getD 0

/-- The statistics a game begins with, after actions. -/
def statsAfter (actions : List (List UInt8)) : StatsDotA :=
  actions.foldl (fun st a => (st.processAction a).1) {}

/-- The records in all of the actions. -/
def allRecords (actions : List (List UInt8)) : List DotaRecord := actions.flatMap recordsIn

theorem statsAfter_eq (actions : List (List UInt8)) :
    statsAfter actions = (allRecords actions).foldl DotaRecord.apply {} :=
      foldl_processAction actions {}

/-- No sum leaves 32 bits, and a game with these statistics stores the
duration that was reported. -/
structure SafeArithmetic [RustStd] (actions : List (List UInt8)) : Prop where
  records : ∀ pre r post, allRecords actions = pre ++ r :: post →
    ∀ n ∈ r.sums (pre.foldl DotaRecord.apply {}), n < 2 ^ 32
  duration : ∀ n ∈ (statsAfter actions).durationSums, n < 2 ^ 32
  stored : ∀ (s : GameState) (log : List StoreCmd), s.dota = some (statsAfter actions)
    → s.store = some log →
    ∃ names players, s.saveGameData.store = some (log ++
      [.logGame s.cfg.name s.cfg.map.path names,
       .logDotaGame s.cfg.name (statsAfter actions).winner
        (60 * lastReported .durationMin (allRecords actions) + lastReported .durationSec
          (allRecords actions))
        (statsAfter actions).treeHp (statsAfter actions).throneHp players])

/-- What the records may ask for: no colour that is the largest number,
no counter counted up `2 ^ 32` times, and a duration in range. -/
structure Moderate (rs : List DotaRecord) : Prop where
  colours : ∀ r ∈ rs, ∀ id, r.names = .player id (some .newColour) → r.value < 2 ^ 32 - 1
  counters : ∀ id, ∀ f ∈ [DotaField.courierKills, .towerKills, .raxKills],
    (rs.countP fun r => r.names = .player id (some f)) < 2 ^ 32
  duration : 60 * lastReported .durationMin rs + lastReported .durationSec rs < 2 ^ 32

-- ================================================================ a number of the game

/-- The fold keeps what was reported last. -/
theorem get_foldl_eq_lastReported (rs : List DotaRecord) {g : DotaGlobal}
    (hg : g = .durationMin ∨ g = .durationSec) :
    (rs.foldl DotaRecord.apply {}).get g = lastReported g rs := by
  induction rs using List.reverseRecOn with
  | nil => rcases hg with rfl | rfl <;> rfl
  | append_singleton rs r ih =>
      rw [List.foldl_append, List.foldl_cons, List.foldl_nil]
      unfold lastReported
      rw [List.filter_append]
      by_cases hr : r.names = .game g
      · rw [List.filter_cons_of_pos (by simpa using hr), List.filter_nil, List.getLast?_concat,
          r.apply_eq, hr]
        rcases hg with rfl | rfl <;> rfl
      · rw [List.filter_cons_of_neg (by simpa using hr), List.filter_nil, List.append_nil,
          (r.changes _).game g hr, ih]
        rfl

-- ================================================================ a counter

theorem counter_change (p : DotAPlayerStats) (value : Nat) (raw : List UInt8) (f : Option DotaField)
    (f' : DotaField) :
    (p.change value raw f).counter f'
      = (p.counter f').map fun n => if f = some f' then (n + 1) % 2 ^ 32 else n := by
  cases f with
  | none => cases f' <;> rfl
  | some f => cases f <;> cases f' <;> rfl

/-- A record counts up what it names. -/
theorem counter_apply (st : StatsDotA) (r : DotaRecord) (id : Nat) (f : DotaField) :
    ((r.apply st).entryOf id).counter f
      = ((st.entryOf id).counter f).map fun n =>
          if r.names = .player id (some f) then (n + 1) % 2 ^ 32 else n := by
  have hkeep : ∀ o : Option Nat, o = o.map fun n => n := fun o => by cases o <;> rfl
  unfold StatsDotA.entryOf
  rw [r.apply_eq]
  cases hnames : r.names with
  | nothing =>
      simp only [reduceCtorEq, if_false]
      exact hkeep _
  | game g =>
      have hplayers : (st.change r.value r.raw (.game g)).player id = st.player id := by
        cases g <;> rfl
      rw [hplayers]
      simp only [reduceCtorEq, if_false]
      exact hkeep _
  | player id' f' =>
      by_cases hid : id' = id
      · subst hid
        have hself : (st.change r.value r.raw (.player id' f')).player id'
            = some (((st.player id').getD (.fresh id')).change r.value r.raw f') :=
          player_entry_self st id' _
        rw [hself, Option.getD_some, counter_change]
        simp only [DotaTarget.player.injEq, true_and]
      · have hother : (st.change r.value r.raw (.player id' f')).player id = st.player id :=
          player_entry_ne st (Ne.symm hid) _
        rw [hother]
        simp only [DotaTarget.player.injEq, hid, false_and, if_false]
        exact hkeep _

/-- The fields that count. -/
theorem counter_isSome_iff (p : DotAPlayerStats) (f : DotaField) :
    (p.counter f).isSome ↔ f ∈ [DotaField.courierKills, .towerKills, .raxKills] := by
  cases f <;> simp [DotAPlayerStats.counter]

/-- A counter counts the records about it, modulo `2 ^ 32`. -/
theorem counter_foldl (rs : List DotaRecord) (id : Nat) {f : DotaField}
    (hf : f ∈ [DotaField.courierKills, .towerKills, .raxKills]) :
    ((rs.foldl DotaRecord.apply {}).entryOf id).counter f
      = some ((rs.countP fun r => r.names = .player id (some f)) % 2 ^ 32) := by
  induction rs using List.reverseRecOn with
  | nil =>
      simp only [List.mem_cons, List.not_mem_nil, or_false] at hf
      rcases hf with rfl | rfl | rfl <;> rfl
  | append_singleton rs r ih =>
      rw [List.foldl_append, List.foldl_cons, List.foldl_nil, counter_apply, ih, List.countP_append,
        List.countP_singleton, Option.map_some]
      congr 1
      by_cases hr : r.names = .player id (some f)
      · simp only [hr, decide_true, if_true]
        omega
      · simp only [hr, decide_false, if_false, Bool.false_eq_true]
        rfl

-- ================================================================ when all sums fit

/-- The sums of one record, given what was counted before it. -/
theorem sums_fit_iff (pre : List DotaRecord) (r : DotaRecord) :
    (∀ n ∈ r.sums (pre.foldl DotaRecord.apply {}), n < 2 ^ 32)
      ↔ (∀ id, r.names = .player id (some .newColour) → r.value < 2 ^ 32 - 1)
        ∧ ∀ id, ∀ f ∈ [DotaField.courierKills, .towerKills, .raxKills],
          r.names = .player id (some f) →
          (pre.countP fun r => r.names = .player id (some f)) % 2 ^ 32 + 1 < 2 ^ 32 := by
  unfold DotaRecord.sums
  constructor
  · intro h
    refine ⟨fun id hr => ?_, fun id f hf hr => ?_⟩
    · rw [hr] at h
      by_cases hsix : 6 ≤ r.value
      · have hsum := h (r.value + 1) (by simp [hsix])
        omega
      · omega
    · rw [hr] at h
      refine h _ ?_
      have hcount := counter_foldl pre id hf
      simp only [List.mem_cons, List.not_mem_nil, or_false] at hf
      rcases hf with rfl | rfl | rfl <;> simp [hcount]
  · rintro ⟨hcolour, hcount⟩ n hn
    cases hnames : r.names with
    | nothing => simp [hnames] at hn
    | game g => simp [hnames] at hn
    | player id f =>
        cases f with
        | none => simp [hnames] at hn
        | some f =>
            rw [hnames] at hn
            by_cases hf : f ∈ [DotaField.courierKills, .towerKills, .raxKills]
            · have hfit := hcount id f hf hnames
              have hvalue := counter_foldl pre id hf
              simp only [List.mem_cons, List.not_mem_nil, or_false] at hf
              rcases hf with rfl | rfl | rfl <;>
              · simp [hvalue] at hn
                omega
            · have hnone : ∀ p : DotAPlayerStats, p.counter f = none := fun p =>
                Option.not_isSome_iff_eq_none.1 fun h => hf ((counter_isSome_iff p f).1 h)
              cases f <;> simp [hnone] at hn
              have hlt := hcolour id hnames
              omega

/-- All sums of a list of records. -/
theorem all_sums_fit_iff (rs : List DotaRecord) :
    (∀ pre r post, rs = pre ++ r :: post → ∀ n ∈ r.sums (pre.foldl DotaRecord.apply {}), n < 2 ^ 32)
      ↔ (∀ r ∈ rs, ∀ id, r.names = .player id (some .newColour) → r.value < 2 ^ 32 - 1)
        ∧ ∀ id, ∀ f ∈ [DotaField.courierKills, .towerKills, .raxKills],
          (rs.countP fun r => r.names = .player id (some f)) < 2 ^ 32 := by
  simp only [sums_fit_iff]
  constructor
  · intro h
    refine ⟨fun r hr id hnames => ?_, fun id f hf => ?_⟩
    · obtain ⟨pre, post, hsplit⟩ := List.append_of_mem hr
      exact (h pre r post hsplit).1 id hnames
    · -- induction on the records so far: the next one counts up by at most one
      induction rs using List.reverseRecOn with
      | nil => exact Nat.two_pow_pos 32
      | append_singleton rs r ih =>
          have hbefore := ih fun pre r' post hsplit =>
            h pre r' (post ++ [r]) (by rw [hsplit, List.append_assoc, List.cons_append])
          have hlast := (h rs r [] rfl).2 id f hf
          rw [List.countP_append, List.countP_singleton]
          by_cases hr : r.names = .player id (some f)
          · have hnext := hlast hr
            rw [Nat.mod_eq_of_lt hbefore] at hnext
            simpa [hr] using hnext
          · simpa [hr] using hbefore
  · rintro ⟨hcolours, hcounters⟩ pre r post rfl
    refine ⟨hcolours r (by simp), fun id f hf hr => ?_⟩
    have htotal := hcounters id f hf
    rw [List.countP_append, List.countP_cons_of_pos (by simpa using hr)] at htotal
    omega

/-- The duration's product and sum. -/
theorem durationSums_fit_iff (st : StatsDotA) :
    (∀ n ∈ st.durationSums, n < 2 ^ 32) ↔ 60 * st.durationMin + st.durationSec < 2 ^ 32 := by
  unfold StatsDotA.durationSums
  simp only [List.mem_cons, List.not_mem_nil, or_false, forall_eq_or_imp, forall_eq]
  omega

theorem durationSecs_of_lt {st : StatsDotA} (h : 60 * st.durationMin + st.durationSec < 2 ^ 32) :
    st.durationSecs = 60 * st.durationMin + st.durationSec := by
  unfold StatsDotA.durationSecs
  omega

/-- What a game that ends with these statistics hands to the store. -/
theorem saveGameData_stored [RustStd] {s : GameState} {st : StatsDotA} {log : List StoreCmd}
    (hdota : s.dota = some st) (hstore : s.store = some log) :
    ∃ names players, s.saveGameData.store = some (log ++
      [.logGame s.cfg.name s.cfg.map.path names,
       .logDotaGame s.cfg.name st.winner st.durationSecs st.treeHp st.throneHp players]) := by
  unfold GameState.saveGameData
  refine ⟨(s.players.filter fun p => !p.virtualHost).map Player.name,
    (RustStd.hashOrder st.players).map Prod.snd, ?_⟩
  simp [GameState.storePush, hdota, hstore]

/-- The arithmetic on the statistics is safe if and only if the records
players send are moderate. -/
theorem stats_arithmetic_iff [RustStd] (actions : List (List UInt8)) :
    SafeArithmetic actions ↔ Moderate (allRecords actions) := by
  have hmin : (statsAfter actions).durationMin = lastReported .durationMin
    (allRecords actions) := by
    rw [statsAfter_eq]
    exact get_foldl_eq_lastReported _ (.inl rfl)
  have hsec : (statsAfter actions).durationSec = lastReported .durationSec
    (allRecords actions) := by
    rw [statsAfter_eq]
    exact get_foldl_eq_lastReported _ (.inr rfl)
  constructor
  · intro h
    obtain ⟨hcolours, hcounters⟩ := (all_sums_fit_iff _).1 h.records
    refine ⟨hcolours, hcounters, ?_⟩
    have hduration := (durationSums_fit_iff _).1 h.duration
    rwa [hmin, hsec] at hduration
  · intro h
    have hduration : 60 * (statsAfter actions).durationMin + (statsAfter actions).durationSec
      < 2 ^ 32 := by
      rw [hmin, hsec]
      exact h.duration
    refine ⟨(all_sums_fit_iff _).2 ⟨h.colours, h.counters⟩, (durationSums_fit_iff _).2 hduration,
      ?_⟩
    intro s log hdota hstore
    obtain ⟨names, players, hsaved⟩ := saveGameData_stored hdota hstore
    rw [durationSecs_of_lt hduration, hmin, hsec] at hsaved
    exact ⟨names, players, hsaved⟩

section Runs

open Scenario

/-- One action that reports `2 ^ 32 - 1` minutes: the record of key `m`. -/
def endlessAction : List UInt8 :=
  (DotaRecord.mk [0x47, 0x6C, 0x6F, 0x62, 0x61, 0x6C] [0x6D] [0xFF, 0xFF, 0xFF, 0xFF]).bytes

/-- One action that gives player 1 the largest colour. -/
def colourAction : List UInt8 :=
  (DotaRecord.mk [0x31] [0x69, 0x64] [0xFF, 0xFF, 0xFF, 0xFF]).bytes

/-- Either action is short, and either overflows: the game would store
4294967236 seconds, the colour would be 0. -/
theorem one_action_overflows :
    (endlessAction.length ≤ 1024 ∧ ¬SafeArithmetic [endlessAction]
      ∧ (statsAfter [endlessAction]).durationSecs = 4294967236)
      ∧ colourAction.length ≤ 1024 ∧ ¬SafeArithmetic [colourAction]
      ∧ ((statsAfter [colourAction]).player 1).map DotAPlayerStats.newColour = some 0 := by
  refine ⟨⟨by decide +kernel, fun h => ?_, by decide +kernel⟩, by decide +kernel, fun h =>
    ?_, by decide +kernel⟩
  · have hproduct := h.duration ((statsAfter [endlessAction]).durationMin * 60) (.head _)
    exact absurd hproduct (by decide +kernel)
  · have hsum := h.records [] ⟨[0x31], [0x69, 0x64], [0xFF, 0xFF, 0xFF, 0xFF]⟩ []
      (by decide +kernel)
      (2 ^ 32) (by decide +kernel)
    exact absurd hsum (Nat.lt_irrefl _)

end Runs

end Spectre

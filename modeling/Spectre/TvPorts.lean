/-
The ports of DotaTV.

A game hosted with DotaTV has two listeners: the public one, which
shows the game with a delay, and behind it on the next port one for
administrators, which shows it live. The first port is the base port
moved by the place of the game in the pool, one for one, so the second
port of a game is the first port of its neighbour: the ports of two
games are apart exactly if the games are no neighbours in the pool
(`tv_ports_disjoint_iff`).
-/
import Mathlib.Data.Finset.Disjoint
import Spectre.Ports

namespace Spectre.Hosting

-- ================================================================== the ports

/-- The ports of the configuration are `u16`. -/
structure HostConfig.PortsFit (cfg : HostConfig) : Prop where
  hostPort : cfg.hostPort < 2 ^ 16
  poolStart : ∀ p ∈ cfg.portPoolStart, p < 2 ^ 16
  poolEnd : ∀ p ∈ cfg.portPoolEnd, p < 2 ^ 16

/-- The port of the public listener of the game on a port of the pool. -/
def tvPort (cfg : HostConfig) (dotatvPort : UInt16) (port : Nat) : UInt16 :=
  dotatvPort + (port.toUInt16 - cfg.portPoolRange.1.toUInt16)

/-- The port of its listener for administrators. -/
def adminPort (cfg : HostConfig) (dotatvPort : UInt16) (port : Nat) : UInt16 :=
  tvPort cfg dotatvPort port + 1

/-- The ports that the listeners of a game bind, if it has any. -/
def tvPorts (cfg : HostConfig) (dotatvPort : UInt16) (port : Nat) : Finset UInt16 :=
  if cfg.dotatvEnabled then {tvPort cfg dotatvPort port, adminPort cfg dotatvPort port} else ∅

/-- One of two ports is behind the other, the first behind the last. -/
def Neighbours (p q : Nat) : Prop := (p + 1) % 2 ^ 16 = q ∨ (q + 1) % 2 ^ 16 = p

instance (p q : Nat) : Decidable (Neighbours p q) :=
  inferInstanceAs (Decidable ((p + 1) % 2 ^ 16 = q ∨ (q + 1) % 2 ^ 16 = p))

-- ============================================================ two games

section Pair

variable {cfg : HostConfig} {dotatvPort : UInt16} {p q : Nat}

/-- The public ports of two games are as far apart as the games. -/
theorem tvPort_add_eq_iff (p : Nat) (hq : q < 2 ^ 16) (n : UInt16) :
    tvPort cfg dotatvPort p + n = tvPort cfg dotatvPort q ↔ (p + n.toNat) % 2 ^ 16 = q := by
  have hbase := dotatvPort.toNat_lt
  have hn := n.toNat_lt
  have hstart := (cfg.portPoolRange.1.toUInt16).toNat_lt
  unfold tvPort
  rw [← UInt16.toNat_inj]
  simp only [UInt16.toNat_add, UInt16.toNat_sub, UInt16.toNat_ofNat', Nat.toUInt16_eq]
  omega

theorem tvPort_inj (hp : p < 2 ^ 16) (hq : q < 2 ^ 16) :
    tvPort cfg dotatvPort p = tvPort cfg dotatvPort q ↔ p = q := by
  have h : tvPort cfg dotatvPort p + 0 = tvPort cfg dotatvPort q ↔ (p + 0) % 2 ^ 16 = q :=
    tvPort_add_eq_iff p hq 0
  rwa [UInt16.add_zero, Nat.add_zero, Nat.mod_eq_of_lt hp] at h

theorem adminPort_eq_tvPort_iff (p : Nat) (hq : q < 2 ^ 16) :
    adminPort cfg dotatvPort p = tvPort cfg dotatvPort q ↔ (p + 1) % 2 ^ 16 = q :=
  tvPort_add_eq_iff p hq 1

theorem adminPort_inj (hp : p < 2 ^ 16) (hq : q < 2 ^ 16) :
    adminPort cfg dotatvPort p = adminPort cfg dotatvPort q ↔ p = q := by
  unfold adminPort
  rw [UInt16.add_left_inj]
  exact tvPort_inj hp hq

/-- The ports of two games are apart if they are no neighbours. -/
theorem disjoint_tvPorts_iff (hp : p < 2 ^ 16) (hq : q < 2 ^ 16) (hne : p ≠ q) :
    Disjoint (tvPorts cfg dotatvPort p) (tvPorts cfg dotatvPort q)
      ↔ (cfg.dotatvEnabled = true → ¬Neighbours p q) := by
  unfold tvPorts
  cases hon : cfg.dotatvEnabled with
  | false => simp
  | true =>
      have hback : tvPort cfg dotatvPort p = adminPort cfg dotatvPort q ↔ (q + 1) % 2 ^ 16 = p :=
        eq_comm.trans (adminPort_eq_tvPort_iff q hp)
      rw [if_pos rfl, if_pos rfl, Finset.disjoint_insert_left, Finset.disjoint_singleton_left]
      simp only [Finset.mem_insert, Finset.mem_singleton, tvPort_inj hp hq, adminPort_inj hp hq,
        adminPort_eq_tvPort_iff p hq, hback, Neighbours, hne, false_or, or_false, forall_const]
      rw [not_or, and_comm]

end Pair

-- ======================================================================== runs

namespace System

variable [RustStd] {cfg : HostConfig} {sys : System}

/-- Every game hosts on a port of the pool. -/
def InPool (cfg : HostConfig) (sys : System) : Prop :=
  ∀ e ∈ sys.hosts, cfg.portPoolRange.1 ≤ e.2 ∧ e.2 ≤ cfg.portPoolRange.2

omit [RustStd] in
/-- The port given away is one of the pool. -/
theorem allocatePort_range {s s' : Supervisor} {p : Nat} (h : s.allocatePort cfg = some (p, s')) :
    cfg.portPoolRange.1 ≤ p ∧ p ≤ cfg.portPoolRange.2 := by
  unfold Supervisor.allocatePort at h
  dsimp only at h
  split at h
  · rename_i q hfind
    cases h
    obtain ⟨hlow, hhigh⟩ := List.mem_range'_1.1 (List.mem_of_find?_eq_some hfind)
    omega
  · cases h

omit [RustStd] in
theorem InPool.of_same {t : System} (h : InPool cfg sys) (hhosts : t.hosts = sys.hosts) :
    InPool cfg t := by
  intro e he
  exact h e (hhosts ▸ he)

/-- A created game hosts on a port of the pool. -/
theorem InPool.createGame (h : InPool cfg sys) (sp : Spawn) (name owner : Text) (isPublic : Bool) :
    InPool cfg (sys.createGame cfg sp name owner isPublic) := by
  unfold System.createGame
  dsimp only
  split
  · exact h
  · rename_i port sup halloc
    intro e he
    rcases List.mem_map.1 he with ⟨a, ha, rfl⟩
    rcases List.mem_append.1 ha with ha | ha
    · exact h _ (List.mem_map.2 ⟨a, ha, rfl⟩)
    · rw [List.mem_singleton.1 ha]
      exact allocatePort_range halloc

/-- Every operation keeps the games in the pool. -/
theorem InPool.op {s₀ t : System} {ev : HostEvent} (h : InPool cfg sys) (hop : Op cfg s₀ ev sys t) :
    InPool cfg t := by
  cases hop with
  | send g c _ => exact h.of_same (hosts_send sys g c)
  | create sp name owner isPublic _ _ => exact h.createGame sp name owner isPublic
  | drop q g _ => exact h.of_same (hosts_send sys g.handle .unhost)
  | forget g _ => exact h
  | clean =>
      refine h.of_same ?_
      unfold hosts
      rw [actors_cleanFinishedGames]
  | bind connId g => exact h
  | report =>
      unfold handleStatus
      split
      · exact h
      · exact h
  | stop running requested => exact h
  | exit g =>
      rcases hosts_exit sys g with hsame | hexit
      · exact h.of_same hsame
      · intro e he
        rw [hexit] at he
        obtain ⟨i, hi⟩ := List.mem_iff_getElem?.1 he
        rw [List.getElem?_modify, Option.map_eq_map, Option.map_eq_some_iff] at hi
        obtain ⟨e', he', hmark⟩ := hi
        have hport : e.2 = e'.2 := by
          rw [← hmark]
          split <;> rfl
        rw [hport]
        exact h e' (List.mem_of_getElem? he')

end System

section Run

variable [RustStd] {cfg : HostConfig} {C : System → HostEvent → Prop} {sys : System}

/-- In every state of every run each game hosts on a port of the pool. -/
theorem inPool (h : HostReaches cfg C sys) : System.InPool cfg sys := by
  refine (h.preserves (I := System.InPool cfg) (fun e he => (List.not_mem_nil he).elim) ?_ ?_).2
  · intro _ _ _ _ _ _ _ hop hI
    exact hI.op hop
  · intro s ev h a inbox e hs _ hev hget hiter hI
    exact hI.of_same (System.hosts_iterate hs inbox hget (hs.event hev hget hiter))

omit [RustStd] in
/-- The ports of the pool are `u16`. -/
theorem HostConfig.PortsFit.range (h : cfg.PortsFit) : cfg.portPoolRange.2 < 2 ^ 16 := by
  unfold HostConfig.portPoolRange
  have hstart : cfg.portPoolStart.getD cfg.hostPort < 2 ^ 16 := by
    cases hs : cfg.portPoolStart with
    | none => exact h.hostPort
    | some p => exact h.poolStart p hs
  have hlast : cfg.portPoolEnd.getD (cfg.portPoolStart.getD cfg.hostPort) < 2 ^ 16 := by
    cases he : cfg.portPoolEnd with
    | none => exact hstart
    | some p => exact h.poolEnd p he
  exact Nat.max_lt.2 ⟨hstart, hlast⟩

/-- In every state of every run, the DotaTV ports of two games that are
hosted on different ports are apart, exactly if the games are no
neighbours in the pool. -/
theorem tv_ports_disjoint_iff (h : HostReaches cfg C sys) (hfit : cfg.PortsFit)
    (dotatvPort : UInt16) {handle handle' p q : Nat} (hp : sys.IsHosting handle p)
    (hq : sys.IsHosting handle' q) (hne : p ≠ q) :
    Disjoint (tvPorts cfg dotatvPort p) (tvPorts cfg dotatvPort q)
      ↔ (cfg.dotatvEnabled = true → ¬Neighbours p q) := by
  have hlast := hfit.range
  obtain ⟨-, hple⟩ := inPool h _ (List.mem_of_getElem? hp)
  obtain ⟨-, hqle⟩ := inPool h _ (List.mem_of_getElem? hq)
  exact disjoint_tvPorts_iff (Nat.lt_of_le_of_lt hple hlast) (Nat.lt_of_le_of_lt hqle hlast) hne

end Run

section Runs

open Scenario

/-- A bot with DotaTV and three ports. -/
def tvConfig : HostConfig :=
  { botConfig with portPoolEnd := some 6114, maxGames := 3, dotatvEnabled := true }

/-- Three games are hosted, and the one in the middle is taken down and
ends. -/
def middleGone : List HostEvent :=
  [line "!pub one", line "!pub two", line "!pub three", line "!unhost two",
    .act 1 (env 7), .act 1 (env 7), .act 1 (env 7), .exit 1]

/-- The two that are left are no neighbours. -/
theorem tv_ports_disjoint_iff_middleGone :
    Disjoint (tvPorts tvConfig 6116 6112) (tvPorts tvConfig 6116 6114) := by
  have hreach : HostReaches tvConfig (fun _ _ => True) (({} : System).run tvConfig middleGone) :=
    .of_meets (by decide +kernel)
  have hfit : tvConfig.PortsFit := ⟨by decide, by decide, by decide⟩
  have hone : (({} : System).run tvConfig middleGone).IsHosting 0 6112 := by
    unfold System.IsHosting
    decide +kernel
  have hthree : (({} : System).run tvConfig middleGone).IsHosting 2 6114 := by
    unfold System.IsHosting
    decide +kernel
  exact (tv_ports_disjoint_iff hreach hfit 6116 hone hthree (by decide)).2 fun _ => by decide

/-- Two games are hosted one after the other: the live listener of the
first and the public listener of the second are on one port. -/
theorem neighbours_share_port :
    let sys := ({} : System).run tvConfig [line "!pub one", line "!pub two"]
    HostReaches tvConfig (fun _ _ => True) sys ∧ sys.IsHosting 0 6112 ∧ sys.IsHosting 1 6113
      ∧ adminPort tvConfig 6116 6112 = 6117 ∧ tvPort tvConfig 6116 6113 = 6117
      ∧ ¬Disjoint (tvPorts tvConfig 6116 6112) (tvPorts tvConfig 6116 6113) := by
  refine ⟨.of_meets (by decide +kernel), ?_, ?_, by decide, by decide, by decide⟩
  · unfold System.IsHosting
    decide +kernel
  · unfold System.IsHosting
    decide +kernel

end Runs

end Spectre.Hosting

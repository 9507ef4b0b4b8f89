/-
The deadlines of the ticks (`tick.rs`).

`advance` moves the deadline on by the period until it lies after the
present, and counts the periods it skipped. Deadlines stay on the grid
of the period, however late the ticks come; but a period of zero, which
the configuration allows and `!latency` does not, never gets there, and
the count has 32 bits. Times and periods are numbers of one unit,
whichever it is.
-/
import Spectre.State

namespace Spectre

/-- `TickScheduler`, with its deadline. -/
structure TickClock extends TickScheduler where
  next : Nat
deriving DecidableEq, Repr

namespace TickClock

/-- `TickScheduler::new`, at `now`. -/
def new (period now : Nat) : TickClock := { period := period, next := now + period }

/-- `set_period`. -/
def setPeriod (t : TickClock) (period : Nat) : TickClock := { t with period := period }

/-- The loop of `advance`, for at most `fuel` rounds. -/
def skip (period now : Nat) : Nat → Nat → Nat → Option (Nat × Nat)
  | 0, _, _ => none
  | fuel + 1, next, skipped =>
      if next ≤ now then skip period now fuel (next + period) ((skipped + 1) % 2 ^ 32)
      else some (next, skipped)

/-- `advance`, if its loop ends within `fuel` rounds: the clock after it
and the periods skipped. -/
def advance (t : TickClock) (now fuel : Nat) : Option (TickClock × Nat) :=
  (skip t.period now fuel (t.next + t.period) 0).map fun e => ({ t with next := e.1 }, e.2)

end TickClock

/-- What happens to a clock. -/
inductive TickOp where
  | advance (now : Nat)
  | setPeriod (period : Nat)
deriving DecidableEq, Repr

/-- What an advance should do: the deadline moves on by one period and
the skipped ones, no further than it must to lie after the present. -/
structure Advances (t : TickClock) (now : Nat) (u : TickClock) (skipped : Nat) : Prop where
  period : u.period = t.period
  next : u.next = t.next + (skipped + 1) * t.period
  later : now < u.next
  least : ∀ r < skipped, t.next + (r + 1) * t.period ≤ now
  increasing : t.next < u.next

/-- Every advance of a run ends and does this, on the grid of the
deadline that the period was set at. -/
inductive OnGrid : Nat → TickClock → List TickOp → Prop
  | nil (origin : Nat) (t : TickClock) : OnGrid origin t []
  | setPeriod {origin period : Nat} {t : TickClock} {ops : List TickOp}
      (h : OnGrid t.next (t.setPeriod period) ops) : OnGrid origin t (.setPeriod period :: ops)
  | advance {origin now fuel skipped k : Nat} {t u : TickClock} {ops : List TickOp}
      (hends : t.advance now fuel = some (u, skipped)) (hadvances : Advances t now u skipped)
      (hgrid : u.next = origin + k * u.period) (h : OnGrid origin u ops) :
      OnGrid origin t (.advance now :: ops)

/-- The periods between the deadline and the present. -/
def TickClock.behind (t : TickClock) (now : Nat) : Nat := (now - t.next) / t.period

/-- The clock after an advance that ends. -/
def TickClock.advanced (t : TickClock) (now : Nat) : TickClock :=
  { t with next := t.next + (t.behind now + 1) * t.period }

/-- No advance comes while the period is zero, or 2^32 periods late. -/
def InTime : TickClock → List TickOp → Prop
  | _, [] => True
  | t, .setPeriod period :: ops => InTime (t.setPeriod period) ops
  | t, .advance now :: ops => 0 < t.period ∧ t.behind now < 2 ^ 32 ∧ InTime (t.advanced now) ops

namespace TickClock

variable {t : TickClock} {now : Nat}

/-- The deadline after the periods behind is the first that lies after
the present. -/
theorem behind_spec (h : 0 < t.period) (now : Nat) :
    now < t.next + (t.behind now + 1) * t.period
      ∧ ∀ r < t.behind now, t.next + (r + 1) * t.period ≤ now := by
  have hdiv := Nat.lt_div_mul_add (a := now - t.next) h
  constructor
  · show now < t.next + ((now - t.next) / t.period + 1) * t.period
    rw [Nat.add_mul, Nat.one_mul]
    omega
  · intro r hr
    have hle : (r + 1) * t.period ≤ (now - t.next) / t.period * t.period :=
      Nat.mul_le_mul_right _ hr
    have hmul := Nat.div_mul_le_self (now - t.next) t.period
    have hpos : 0 < (r + 1) * t.period := Nat.mul_pos (Nat.succ_pos r) h
    omega

/-- The loop ends at the first deadline after the present. -/
theorem skip_eq {period now n : Nat} {next skipped : Nat} (hsmall : skipped + n < 2 ^ 32)
    (hlater : now < next + n * period) (hleast : ∀ r < n, next + r * period ≤ now) :
    skip period now (n + 1) next skipped = some (next + n * period, skipped + n) := by
  induction n generalizing next skipped with
  | zero =>
      rw [Nat.zero_mul, Nat.add_zero] at hlater ⊢
      exact if_neg (Nat.not_le_of_lt hlater)
  | succ n ih =>
      have hnext : next ≤ now := by simpa using hleast 0 (Nat.succ_pos n)
      have hcount : (skipped + 1) % 2 ^ 32 = skipped + 1 := Nat.mod_eq_of_lt (by omega)
      have hstep : ∀ m, next + (m + 1) * period = next + period + m * period := by
        intro m
        rw [Nat.add_mul, Nat.one_mul]
        omega
      rw [skip, if_pos hnext, hcount, hstep n]
      rw [ih (by omega) (hstep n ▸ hlater) fun r hr => ?_]
      · congr 2
        omega
      · rw [← hstep r]
        exact hleast (r + 1) (Nat.succ_lt_succ hr)

/-- An advance that is not too late ends, and does what it should. -/
theorem advance_eq (h : 0 < t.period) (hsmall : t.behind now < 2 ^ 32) :
    t.advance now (t.behind now + 1) = some (t.advanced now, t.behind now)
      ∧ Advances t now (t.advanced now) (t.behind now) := by
  obtain ⟨hlater, hleast⟩ := behind_spec h now
  have hstep : ∀ m, t.next + (m + 1) * t.period = t.next + t.period + m * t.period := by
    intro m
    rw [Nat.add_mul, Nat.one_mul]
    omega
  constructor
  · unfold advance
    rw [skip_eq (by omega) (hstep _ ▸ hlater) fun r hr => hstep r ▸ hleast r hr, Option.map_some,
      ← hstep, Nat.zero_add]
    rfl
  · have hpos : 0 < (t.behind now + 1) * t.period := Nat.mul_pos (Nat.succ_pos _) h
    exact ⟨rfl, rfl, hlater, hleast, by unfold advanced; dsimp only; omega⟩

/-- The count of the loop has 32 bits. -/
theorem skip_lt {period now fuel : Nat} {next skipped : Nat} {e : Nat × Nat}
    (h : skip period now fuel next skipped = some e) (hs : skipped < 2 ^ 32) : e.2 < 2 ^ 32 := by
  induction fuel generalizing next skipped with
  | zero => cases h
  | succ fuel ih =>
      unfold skip at h
      split at h
      · exact ih h (Nat.mod_lt _ (by decide))
      · cases h
        exact hs

/-- What an advance should do determines it. -/
theorem eq_of_advances {u : TickClock} {skipped : Nat} (h : Advances t now u skipped) :
    0 < t.period ∧ skipped = t.behind now ∧ u = t.advanced now := by
  have hpos : 0 < t.period := by
    rcases Nat.eq_zero_or_pos t.period with hzero | hpos
    · have hnext := h.next
      rw [hzero, Nat.mul_zero] at hnext
      exact absurd h.increasing (by omega)
    · exact hpos
  obtain ⟨hlater, hleast⟩ := behind_spec hpos now
  have hskipped : skipped = t.behind now := by
    rcases Nat.lt_trichotomy skipped (t.behind now) with hlt | heq | hgt
    · have hle := hleast skipped hlt
      have hnow := h.later
      rw [h.next] at hnow
      omega
    · exact heq
    · have hle := h.least _ hgt
      omega
  refine ⟨hpos, hskipped, ?_⟩
  obtain ⟨⟨period⟩, next⟩ := u
  have hp := h.period
  have hn := h.next
  dsimp only at hp hn
  subst hp hn hskipped
  rfl

end TickClock

open TickClock

/-- In a run of advances and period changes, every advance ends with the
least deadline of the grid after the present, and with the count of the
periods it skipped, exactly when none comes while the period is zero or
2^32 periods late. -/
theorem ticks_stay_on_grid (t : TickClock) (ops : List TickOp) :
    OnGrid t.next t ops ↔ InTime t ops := by
  have hgrid : ∀ origin k, t.next = origin + k * t.period
    → (OnGrid origin t ops ↔ InTime t ops) := by
    induction ops generalizing t with
    | nil => exact fun origin _ _ => ⟨fun _ => trivial, fun _ => .nil origin t⟩
    | cons op ops ih =>
        intro origin k horigin
        cases op with
        | setPeriod period =>
            -- a new period starts a new grid at the next tick
            have hrest := ih (t.setPeriod period) t.next 0 (by rw [Nat.zero_mul]; rfl)
            constructor
            · intro h
              cases h with
              | setPeriod h => exact hrest.1 h
            · exact fun h => .setPeriod (hrest.2 h)
        | advance now =>
            -- the ticks missed are skipped whole, so the next one is on the grid again
            have hnext : (t.advanced now).next
                = origin + (k + (t.behind now + 1)) * (t.advanced now).period := by
              show t.next + (t.behind now + 1) * t.period = origin + (k + _) * t.period
              rw [Nat.add_mul k, ← Nat.add_assoc, ← horigin]
            have hrest := ih (t.advanced now) origin _ hnext
            constructor
            · intro h
              cases h with
              | advance hends hadvances _ h =>
                  obtain ⟨hpos, rfl, rfl⟩ := eq_of_advances hadvances
                  obtain ⟨e, he, heq⟩ := Option.map_eq_some_iff.1 hends
                  have hlt := skip_lt he (by decide)
                  rw [(Prod.mk.inj heq).2] at hlt
                  exact ⟨hpos, hlt, hrest.1 h⟩
            · rintro ⟨hpos, hsmall, h⟩
              -- the loop ends because the period is not zero and the skip fits
              obtain ⟨hends, hadvances⟩ := advance_eq hpos hsmall
              exact .advance hends hadvances hnext (hrest.2 h)
  exact hgrid t.next 0 (by rw [Nat.zero_mul, Nat.add_zero])

/-- With a period of zero an advance that is due never ends. -/
theorem zero_period_never_ends {t : TickClock} (h : t.period = 0) {now : Nat} (hdue : t.next ≤ now)
    (fuel : Nat) : t.advance now fuel = none := by
  have hskip : ∀ skipped, skip 0 now fuel t.next skipped = none := by
    induction fuel with
    | zero => exact fun _ => rfl
    | succ fuel ih =>
        intro skipped
        rw [skip, if_pos hdue]
        exact ih _
  unfold TickClock.advance
  rw [h, Nat.add_zero, hskip]
  rfl

/-- A game with a latency of zero stops at its first tick. -/
theorem zero_latency_never_ticks :
    (∀ fuel, (TickClock.new 0 5).advance 5 fuel = none)
      ∧ ¬OnGrid 5 (TickClock.new 0 5) [.advance 5] := by
  refine ⟨zero_period_never_ends rfl (by decide), fun h => ?_⟩
  have htime := (ticks_stay_on_grid (TickClock.new 0 5) [.advance 5]).1 h
  exact absurd htime.1 (by decide)

end Spectre

/-
A bounded FIFO log that forgets its oldest entries.

`Ring α` keeps the last `cap` entries pushed and counts the forgotten
ones, so every entry ever pushed has an absolute position and the
retained ones are those from `evicted` on. Positions are what readers
hold on to: an index into `kept` moves with each eviction, an absolute
position does not.

`log` is the whole history. It takes no part in any operation; it is
there so that the meaning of `kept` and `evicted` — a suffix of the
log, and where it starts — is a field of the structure and not a side
condition on every use.
-/
import Mathlib.Data.List.Basic
import Mathlib.Data.List.Induction

namespace Lib

/-- The retained suffix of a log, and how much was forgotten. -/
structure Ring (α : Type) where
  cap : Nat
  cap_pos : 0 < cap
  kept : List α
  evicted : Nat
  log : List α
  kept_eq : kept = log.drop evicted
  evicted_le : evicted ≤ log.length

namespace Ring

variable {α : Type}

/-- An empty log of the given capacity. -/
def empty (cap : Nat) (h : 0 < cap) : Ring α := ⟨cap, h, [], 0, [], rfl, Nat.le_refl 0⟩

/-- The number of entries kept is the number pushed less the number
forgotten. -/
theorem kept_length (r : Ring α) : r.kept.length = r.log.length - r.evicted := by
  rw [r.kept_eq, List.length_drop]

/-- Append, forgetting the oldest entry when the log is full. -/
def push (r : Ring α) (x : α) : Ring α where
  cap := r.cap
  cap_pos := r.cap_pos
  kept := if r.cap ≤ r.kept.length then r.kept.tail ++ [x] else r.kept ++ [x]
  evicted := if r.cap ≤ r.kept.length then r.evicted + 1 else r.evicted
  log := r.log ++ [x]
  kept_eq := by
    have hle := r.evicted_le
    have hl := r.kept_length
    have hpos := r.cap_pos
    split
    · rw [List.drop_append_of_le_length (by omega), r.kept_eq, List.tail_drop]
    · rw [List.drop_append_of_le_length hle, r.kept_eq]
  evicted_le := by
    have hle := r.evicted_le
    have hl := r.kept_length
    have hpos := r.cap_pos
    rw [List.length_append, List.length_singleton]
    split <;> omega

/-- The position of the oldest entry kept. -/
def firstSeq (r : Ring α) : Nat := r.evicted

/-- The position the next push will get. -/
def nextSeq (r : Ring α) : Nat := r.evicted + r.kept.length

/-- The entries kept from position `seq` on. -/
def since (r : Ring α) (seq : Nat) : List α := r.kept.drop (seq - r.evicted)

@[simp] theorem push_cap (r : Ring α) (x : α) : (r.push x).cap = r.cap := rfl

@[simp] theorem push_log (r : Ring α) (x : α) : (r.push x).log = r.log ++ [x] := rfl

@[simp] theorem empty_log (cap : Nat) (h : 0 < cap) : (empty cap h : Ring α).log = [] := rfl

/-- Positions count every push. -/
@[simp] theorem nextSeq_eq (r : Ring α) : r.nextSeq = r.log.length := by
  unfold nextSeq
  have hle := r.evicted_le
  have hl := r.kept_length
  omega

/-- Reading from a position not yet forgotten reads the log from
there: nothing is skipped and nothing comes twice. -/
theorem since_eq {r : Ring α} {seq : Nat} (h : r.firstSeq ≤ seq) :
    r.since seq = r.log.drop seq := by
  unfold firstSeq at h
  unfold since
  rw [r.kept_eq, List.drop_drop]
  congr 1
  omega

/-- A new log after pushing a list: the last `cap` entries of it are
kept. -/
theorem pushAll (cap : Nat) (h : 0 < cap) (l : List α) :
    (l.foldl push (empty cap h)).cap = cap ∧ (l.foldl push (empty cap h)).log = l
      ∧ (l.foldl push (empty cap h)).evicted = l.length - cap := by
  induction l using List.reverseRecOn with
  | nil => exact ⟨rfl, rfl, (Nat.zero_sub cap).symm⟩
  | append_singleton l x ih =>
      obtain ⟨hcap, hlog, hevicted⟩ := ih
      have hkept := (l.foldl push (empty cap h)).kept_length
      rw [hlog, hevicted] at hkept
      rw [List.foldl_append, List.foldl_cons, List.foldl_nil]
      refine ⟨hcap, ?_, ?_⟩
      · rw [push_log, hlog]
      · show (if _ ≤ _ then _ + 1 else _) = _
        rw [hcap, hkept, hevicted, List.length_append, List.length_singleton]
        split <;> omega

end Ring

end Lib

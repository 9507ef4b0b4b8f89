/-
Decoders that are called on a growing buffer.

One call of a decoder takes an item off the front of the buffer, or
leaves it and asks for more; in either case it may discard what it has
no use for. Two laws make the result independent of how the input was
cut: an item that was found is found with more input behind it, and a
request for more may discard what it discards without changing what
comes later. With them, decoding chunk by chunk is decoding the whole
(`feed_chunks`).

The loop that calls a decoder until it asks for more is run with fuel;
an item takes something off the buffer, so the length of the buffer is
fuel enough (`drainLoop_ends`).
-/
import Mathlib.Data.List.Basic

namespace Lib

variable {α β : Type}

/-- One call: an item or a request for more, and the buffer left. -/
abbrev Decode (α β : Type) := List α → Option β × List α

/-- The laws of a decoder on a growing buffer. -/
structure Incremental (d : Decode α β) : Prop where
  /-- there is nothing in an empty buffer -/
  empty : d [] = (none, [])
  /-- an item takes something off the buffer -/
  shrinks : ∀ src x rest, d src = (some x, rest) → rest.length < src.length
  /-- an item is found whatever follows it -/
  found : ∀ src x rest more, d src = (some x, rest) → d (src ++ more) = (some x, rest ++ more)
  /-- what a request for more discards is of no use later -/
  waits : ∀ src rest more, d src = (none, rest) → d (src ++ more) = d (rest ++ more)

/-- The loop: call until more is asked for. -/
def drainLoop (d : Decode α β) : Nat → List α → Option (List β × List α)
  | 0, _ => none
  | fuel + 1, src =>
      match d src with
      | (none, rest) => some ([], rest)
      | (some x, rest) => (drainLoop d fuel rest).map fun r => (x :: r.1, r.2)

/-- The items of a buffer, and what is left of it. -/
def drain (d : Decode α β) (src : List α) : List β × List α :=
  (drainLoop d (src.length + 1) src).getD ([], src)

/-- One read: the chunk joins what was left, and the loop runs. -/
def feed (d : Decode α β) (state : List β × List α) (chunk : List α) : List β × List α :=
  let r := drain d (state.2 ++ chunk)
  (state.1 ++ r.1, r.2)

section Loop

variable {d : Decode α β} (hd : Incremental d) {src rest : List α} {x : β}
include hd

/-- The loop ends within one call more than the buffer is long. -/
theorem drainLoop_ends {fuel : Nat} (hfuel : src.length < fuel) :
    ∃ r, drainLoop d fuel src = some r := by
  induction fuel generalizing src with
  | zero => exact absurd hfuel (Nat.not_lt_zero _)
  | succ fuel ih =>
      unfold drainLoop
      split
      · exact ⟨_, rfl⟩
      · rename_i x rest hcall
        have hlt := hd.shrinks _ _ _ hcall
        have hfuel' : rest.length < fuel := by omega
        obtain ⟨r, hr⟩ := ih hfuel'
        rw [hr]
        exact ⟨_, rfl⟩

/-- Fuel that is enough gives the result. -/
theorem drainLoop_eq {fuel : Nat} (hfuel : src.length < fuel) :
    drainLoop d fuel src = some (drain d src) := by
  have hsame : ∀ {fuel fuel' : Nat} {src : List α}, src.length < fuel → src.length < fuel' →
      drainLoop d fuel src = drainLoop d fuel' src := by
    intro fuel
    induction fuel with
    | zero => exact fun h => absurd h (Nat.not_lt_zero _)
    | succ fuel ih =>
        intro fuel' src h h'
        cases fuel' with
        | zero => exact absurd h' (Nat.not_lt_zero _)
        | succ fuel' =>
            unfold drainLoop
            split
            · rfl
            · rename_i x rest hcall
              have hlt := hd.shrinks _ _ _ hcall
              have hrest : rest.length < fuel := by omega
              have hrest' : rest.length < fuel' := by omega
              rw [ih hrest hrest']
  obtain ⟨r, hr⟩ := drainLoop_ends hd (Nat.lt_succ_self src.length)
  rw [hsame hfuel (Nat.lt_succ_self src.length)]
  unfold drain
  rw [hr]
  rfl

theorem drain_wait (h : d src = (none, rest)) : drain d src = ([], rest) := by
  have hloop := drainLoop_eq hd (Nat.lt_succ_self src.length)
  unfold drainLoop at hloop
  rw [h] at hloop
  exact (Option.some.inj hloop).symm

theorem drain_item (h : d src = (some x, rest)) :
    drain d src = (x :: (drain d rest).1, (drain d rest).2) := by
  have hloop := drainLoop_eq hd (Nat.lt_succ_self src.length)
  unfold drainLoop at hloop
  rw [h] at hloop
  dsimp only at hloop
  rw [drainLoop_eq hd (hd.shrinks _ _ _ h)] at hloop
  exact (Option.some.inj hloop).symm

/-- Every item is that of a call. -/
theorem mem_drain (h : x ∈ (drain d src).1) : ∃ src' rest, d src' = (some x, rest) := by
  induction hn : src.length using Nat.strongRecOn generalizing src with
  | ind n ih =>
      cases hcall : d src with
      | mk item rest =>
          cases item with
          | none =>
              rw [drain_wait hd hcall] at h
              cases h
          | some y =>
              rw [drain_item hd hcall] at h
              rcases List.mem_cons.1 h with rfl | h
              · exact ⟨src, rest, hcall⟩
              · exact ih rest.length (hn ▸ hd.shrinks _ _ _ hcall) h rfl

/-- What is left asks for more, and is left as it is. -/
theorem decode_drain (src : List α) : d (drain d src).2 = (none, (drain d src).2) := by
  induction hn : src.length using Nat.strongRecOn generalizing src with
  | ind n ih =>
      cases hcall : d src with
      | mk item rest =>
          cases item with
          | none =>
              rw [drain_wait hd hcall]
              have hagain := hd.waits _ _ [] hcall
              rw [List.append_nil, List.append_nil, hcall] at hagain
              exact hagain.symm
          | some x =>
              rw [drain_item hd hcall]
              exact ih rest.length (hn ▸ hd.shrinks _ _ _ hcall) rest rfl

/-- Decoding a buffer and then more of it is decoding all of it. -/
theorem drain_append (src more : List α) :
    drain d (src ++ more) = ((drain d src).1 ++ (drain d ((drain d src).2 ++ more)).1,
      (drain d ((drain d src).2 ++ more)).2) := by
  induction hn : src.length using Nat.strongRecOn generalizing src with
  | ind n ih =>
      cases hcall : d src with
      | mk item rest =>
          cases item with
          | none =>
              rw [drain_wait hd hcall]
              have hsame := hd.waits _ _ more hcall
              dsimp only
              rw [List.nil_append]
              cases hmore : d (rest ++ more) with
              | mk item' rest' =>
                  rw [hmore] at hsame
                  cases item' with
                  | none => rw [drain_wait hd hsame, drain_wait hd hmore]
                  | some y => rw [drain_item hd hsame, drain_item hd hmore]
          | some x =>
              have hrest := ih rest.length (hn ▸ hd.shrinks _ _ _ hcall) rest rfl
              rw [drain_item hd hcall, drain_item hd (hd.found _ _ _ more hcall), hrest]
              rfl

/-- Reading in chunks is reading the whole, however it is cut. -/
theorem feed_chunks (chunks : List (List α)) :
    chunks.foldl (feed d) ([], []) = drain d chunks.flatten := by
  -- the buffer between two reads is one that asks for more
  have hgo : ∀ (items : List β) (buf : List α), d buf = (none, buf) →
      chunks.foldl (feed d) (items, buf) = (items ++ (drain d (buf ++ chunks.flatten)).1,
        (drain d (buf ++ chunks.flatten)).2) := by
    induction chunks with
    | nil =>
        intro items buf hbuf
        rw [List.flatten_nil, List.append_nil, drain_wait hd hbuf, List.append_nil]
        rfl
    | cons chunk chunks ih =>
        intro items buf hbuf
        rw [List.foldl_cons, List.flatten_cons, ← List.append_assoc, drain_append hd (buf ++ chunk)]
        show chunks.foldl (feed d) (items ++ (drain d (buf ++ chunk)).1, (drain d (buf ++ chunk)).2)
          = _
        rw [ih _ _ (decode_drain hd _), List.append_assoc]
  have hwhole := hgo [] [] hd.empty
  rw [List.nil_append, List.nil_append] at hwhole
  exact hwhole

end Loop

end Lib

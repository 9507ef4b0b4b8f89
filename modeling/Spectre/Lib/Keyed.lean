/-
Tables in which the live entries have distinct, valid keys.

An entry of the table may be live or not, and only the keys of the live
ones count. An operation that writes a few places keeps the keys
distinct exactly if every live entry it writes has a valid key that no
live entry elsewhere has, and the ones it writes differ among
themselves: `wellKeyed_iff_of_agree`. One that only moves entries about
keeps them always: `wellKeyed_congr`.
-/
import Mathlib.Data.List.Perm.Basic

namespace Lib

variable {α β : Type} {live : α → Bool} {key : α → β} {ok : β → Prop} {l m : List α}

/-- The live entries have valid keys, and no two the same. -/
structure WellKeyed (live : α → Bool) (key : α → β) (ok : β → Prop) (l : List α) : Prop where
  ok : ∀ a ∈ l, live a = true → ok (key a)
  distinct : l.Pairwise fun a b => live a = true → live b = true → key a ≠ key b

/-- The key is valid and no live entry has it, save at the places. -/
structure KeyFits (live : α → Bool) (key : α → β) (ok : β → Prop) (l : List α)
    (places : List Nat) (k : β) : Prop where
  ok : ok k
  free : ∀ i a, l[i]? = some a → live a = true → key a = k → i ∈ places

instance [DecidableEq β] [DecidablePred ok] (l : List α) :
    Decidable (WellKeyed live key ok l) :=
  decidable_of_iff
    ((∀ a ∈ l, live a = true → ok (key a))
      ∧ l.Pairwise fun a b => live a = true → live b = true → key a ≠ key b)
    ⟨fun h => ⟨h.1, h.2⟩, fun h => ⟨h.ok, h.distinct⟩⟩

instance [DecidableEq β] [DecidablePred ok] (l : List α) (places : List Nat) (k : β) :
    Decidable (KeyFits live key ok l places k) :=
  decidable_of_iff
    (ok k ∧ ∀ i ∈ List.range l.length, ∀ a ∈ l[i]?, live a = true → key a = k → i ∈ places)
    ⟨fun h => ⟨h.1, fun i a ha => h.2 i
        (List.mem_range.2 (List.getElem?_eq_some_iff.1 ha).1) a ha⟩,
      fun h => ⟨h.ok, fun i _ a ha => h.free i a ha⟩⟩

/-- More places may have the key. -/
theorem KeyFits.mono {places more : List Nat} {k : β} (h : KeyFits live key ok l places k)
    (hsub : places ⊆ more) : KeyFits live key ok l more k :=
  ⟨h.ok, fun i a ha hla hkey => hsub (h.free i a ha hla hkey)⟩

/-- Places, not entries, are what distinct keys tell apart. -/
theorem wellKeyed_iff_getElem? : WellKeyed live key ok l
    ↔ (∀ (i : Nat) a, l[i]? = some a → live a = true → ok (key a))
      ∧ ∀ (i j : Nat) a b, l[i]? = some a → l[j]? = some b → live a = true → live b = true →
        key a = key b → i = j := by
  constructor
  · intro h
    refine ⟨fun i a ha => h.ok a (List.mem_of_getElem? ha), ?_⟩
    have hlt : ∀ (i j : Nat) a b, i < j → l[i]? = some a → l[j]? = some b → live a = true →
        live b = true → key a ≠ key b := by
      intro i j a b hij ha hb
      obtain ⟨hi, rfl⟩ := List.getElem?_eq_some_iff.1 ha
      obtain ⟨hj, rfl⟩ := List.getElem?_eq_some_iff.1 hb
      exact List.pairwise_iff_getElem.1 h.distinct i j hi hj hij
    intro i j a b ha hb hla hlb hkey
    rcases Nat.lt_trichotomy i j with hij | hij | hij
    · exact absurd hkey (hlt i j a b hij ha hb hla hlb)
    · exact hij
    · exact absurd hkey.symm (hlt j i b a hij hb ha hlb hla)
  · rintro ⟨hok, hdistinct⟩
    refine ⟨fun a ha => ?_, List.pairwise_iff_getElem.2 fun i j hi hj hij hla hlb hkey => ?_⟩
    · obtain ⟨i, hi⟩ := List.mem_iff_getElem?.1 ha
      exact hok i a hi
    · have hsame := hdistinct i j _ _ (List.getElem?_eq_getElem hi) (List.getElem?_eq_getElem hj)
        hla hlb hkey
      omega

/-- Only which entries are live and their keys count, in any order. -/
theorem wellKeyed_congr
    (h : (m.map fun a => (live a, key a)).Perm (l.map fun a => (live a, key a))) :
    WellKeyed live key ok m ↔ WellKeyed live key ok l := by
  have hone : ∀ l : List α, WellKeyed live key ok l
      ↔ (∀ x ∈ l.map fun a => (live a, key a), x.1 = true → ok x.2)
        ∧ (l.map fun a => (live a, key a)).Pairwise
          fun x y => x.1 = true → y.1 = true → x.2 ≠ y.2 := by
    intro l
    rw [List.pairwise_map, List.forall_mem_map]
    exact ⟨fun h => ⟨h.ok, h.distinct⟩, fun h => ⟨h.1, h.2⟩⟩
  rw [hone m, hone l]
  refine and_congr ?_ ?_
  · exact ⟨fun hm x hx => hm x (h.mem_iff.2 hx), fun hl x hx => hl x (h.mem_iff.1 hx)⟩
  · exact h.pairwise_iff fun hxy hy hx heq => hxy hx hy heq.symm

/-- A table that differs from a well keyed one at a few places only. -/
theorem wellKeyed_iff_of_agree {places : List Nat} (h : WellKeyed live key ok l)
    (hagree : ∀ i, i ∉ places → m[i]? = l[i]?) : WellKeyed live key ok m
      ↔ (∀ i ∈ places, ∀ a, m[i]? = some a → live a = true →
          KeyFits live key ok l places (key a))
        ∧ ∀ i ∈ places, ∀ j ∈ places, ∀ a b, m[i]? = some a → m[j]? = some b →
          live a = true → live b = true → key a = key b → i = j := by
  obtain ⟨hok, hdistinct⟩ := wellKeyed_iff_getElem?.1 h
  rw [wellKeyed_iff_getElem?]
  constructor
  · rintro ⟨hok', hdistinct'⟩
    refine ⟨fun i hi a ha hla => ⟨hok' i a ha hla, fun j b hb hlb hkey => ?_⟩,
      fun i _ j _ a b => hdistinct' i j a b⟩
    by_cases hj : j ∈ places
    · exact hj
    · -- an entry elsewhere is as it was
      rw [← hagree j hj] at hb
      exact hdistinct' j i b a hb ha hlb hla hkey ▸ hi
  · rintro ⟨hfits, hamong⟩
    have hout : ∀ (i : Nat) a, i ∉ places → m[i]? = some a → l[i]? = some a := by
      intro i a hi ha
      rw [← hagree i hi]
      exact ha
    refine ⟨fun i a ha hla => ?_, fun i j a b ha hb hla hlb hkey => ?_⟩
    · by_cases hi : i ∈ places
      · exact (hfits i hi a ha hla).ok
      · exact hok i a (hout i a hi ha) hla
    · by_cases hi : i ∈ places
      · by_cases hj : j ∈ places
        · exact hamong i hi j hj a b ha hb hla hlb hkey
        · exact absurd ((hfits i hi a ha hla).free j b (hout j b hj hb) hlb hkey.symm) hj
      · by_cases hj : j ∈ places
        · exact absurd ((hfits j hj b hb hlb).free i a (hout i a hi ha) hla hkey) hi
        · exact hdistinct i j a b (hout i a hi ha) (hout j b hj hb) hla hlb hkey

/-- One entry is written. -/
theorem wellKeyed_set_iff {i : Nat} (h : WellKeyed live key ok l) (hi : i < l.length) (a : α) :
    WellKeyed live key ok (l.set i a)
      ↔ (live a = true → KeyFits live key ok l [i] (key a)) := by
  have hget : (l.set i a)[i]? = some a := List.getElem?_set_self hi
  have hagree : ∀ j, j ∉ [i] → (l.set i a)[j]? = l[j]? := fun j hj =>
    List.getElem?_set_ne fun he => hj (List.mem_singleton.2 he.symm)
  rw [wellKeyed_iff_of_agree h hagree]
  constructor
  · rintro ⟨hfits, -⟩ hla
    exact hfits i (List.mem_singleton.2 rfl) a hget hla
  · intro hfits
    refine ⟨fun j hj b hb hlb => ?_, fun j hj k hk _ _ _ _ _ _ _ => ?_⟩
    · rw [List.mem_singleton.1 hj, hget] at hb
      cases hb
      exact hfits hlb
    · exact (List.mem_singleton.1 hj).trans (List.mem_singleton.1 hk).symm

/-- Two entries are written. -/
theorem wellKeyed_set_set_iff {i j : Nat} (h : WellKeyed live key ok l) (hij : i ≠ j)
    (hi : i < l.length) (hj : j < l.length) (a b : α) :
    WellKeyed live key ok ((l.set i a).set j b)
      ↔ (live a = true → KeyFits live key ok l [i, j] (key a))
        ∧ (live b = true → KeyFits live key ok l [i, j] (key b))
        ∧ (live a = true → live b = true → key a ≠ key b) := by
  have hgetJ : ((l.set i a).set j b)[j]? = some b :=
    List.getElem?_set_self (by rwa [List.length_set])
  have hgetI : ((l.set i a).set j b)[i]? = some a := by
    rw [List.getElem?_set_ne (Ne.symm hij)]
    exact List.getElem?_set_self hi
  have hboth : ∀ k ∈ [i, j], ∀ c, ((l.set i a).set j b)[k]? = some c →
      (k = i ∧ c = a) ∨ (k = j ∧ c = b) := by
    intro k hk c hc
    rcases List.mem_cons.1 hk with rfl | hk
    · exact .inl ⟨rfl, Option.some.inj (hc.symm.trans hgetI)⟩
    · obtain rfl := List.mem_singleton.1 hk
      exact .inr ⟨rfl, Option.some.inj (hc.symm.trans hgetJ)⟩
  have hagree : ∀ k, k ∉ [i, j] → ((l.set i a).set j b)[k]? = l[k]? := by
    intro k hk
    rw [List.getElem?_set_ne fun he => hk (by simp [he]),
      List.getElem?_set_ne fun he => hk (by simp [he])]
  have hmemI : i ∈ [i, j] := List.mem_cons_self
  have hmemJ : j ∈ [i, j] := List.mem_cons_of_mem _ (List.mem_singleton.2 rfl)
  rw [wellKeyed_iff_of_agree h hagree]
  constructor
  · rintro ⟨hfits, hamong⟩
    refine ⟨hfits i hmemI a hgetI, hfits j hmemJ b hgetJ, fun hla hlb hkey => ?_⟩
    exact hij (hamong i hmemI j hmemJ a b hgetI hgetJ hla hlb hkey)
  · rintro ⟨hfitA, hfitB, hne⟩
    refine ⟨fun k hk c hc hlc => ?_, fun k hk n hn c d hc hd hlc hld hkey => ?_⟩
    · rcases hboth k hk c hc with ⟨-, rfl⟩ | ⟨-, rfl⟩
      · exact hfitA hlc
      · exact hfitB hlc
    · rcases hboth k hk c hc with ⟨rfl, rfl⟩ | ⟨rfl, rfl⟩
      · rcases hboth n hn d hd with ⟨rfl, rfl⟩ | ⟨rfl, rfl⟩
        · rfl
        · exact absurd hkey (hne hlc hld)
      · rcases hboth n hn d hd with ⟨rfl, rfl⟩ | ⟨rfl, rfl⟩
        · exact absurd hkey.symm (hne hld hlc)
        · rfl

/-- The key of a live entry fits its place. -/
theorem WellKeyed.fits {i : Nat} {a : α} (h : WellKeyed live key ok l) (ha : l[i]? = some a)
    (hla : live a = true) {places : List Nat} (hi : i ∈ places) :
    KeyFits live key ok l places (key a) := by
  obtain ⟨hok, hdistinct⟩ := wellKeyed_iff_getElem?.1 h
  refine ⟨hok i a ha hla, fun j b hb hlb hkey => ?_⟩
  exact hdistinct j i b a hb ha hlb hla hkey ▸ hi

end Lib

/-
Which seats a slot table holds.

A slot seats a player when it is occupied and no computer sits in it.
`seats` are the player ids of these slots. Of the operations on the
table only four can change them: opening and closing a slot, occupying
one, and releasing one. All the others exchange or decorate slots, and
`SameSeats` says so once for each of them.
-/
import Spectre.Chat

namespace Spectre

/-- A player sits in the slot. -/
def SlotInfo.human (s : SlotInfo) : Bool := s.slotStatus == slotOccupied && s.computer == 0

namespace SlotTable

/-- The ids of the seated players. -/
def seats (t : SlotTable) : List UInt8 := (t.filter SlotInfo.human).map SlotInfo.pid

/-- A slot nobody sits in carries no id. -/
def Clean (t : SlotTable) : Prop := ∀ s ∈ t, s.human = false → s.pid = 0

instance (t : SlotTable) : Decidable t.Clean :=
  inferInstanceAs (Decidable (∀ s ∈ t, s.human = false → s.pid = 0))

end SlotTable

/-- The same players are seated. -/
structure SameSeats (t u : SlotTable) : Prop where
  seats : u.seats.Perm t.seats
  clean : t.Clean → u.Clean
  length : u.length = t.length

/-- The same player is seated in the slot, or nobody. -/
structure Alike (a b : SlotInfo) : Prop where
  human : b.human = a.human
  pid : a.human = true → b.pid = a.pid
  clean : a.human = false → a.pid = 0 → b.pid = 0

namespace Alike

/-- Nothing changes. -/
protected theorem refl (a : SlotInfo) : Alike a a := ⟨rfl, fun _ => rfl, fun _ h => h⟩

/-- Two slots that agree on who sits there. -/
theorem of_eq {a b : SlotInfo} (hstatus : b.slotStatus = a.slotStatus)
    (hcomputer : b.computer = a.computer) (hpid : b.pid = a.pid) : Alike a b where
  human := by rw [SlotInfo.human, SlotInfo.human, hstatus, hcomputer]
  pid _ := hpid
  clean _ h := hpid.trans h

/-- Two slots nobody sits in. -/
theorem of_vacant {a b : SlotInfo} (ha : a.human = false) (hb : b.human = false)
    (hpid : a.pid = 0 → b.pid = 0) : Alike a b where
  human := hb.trans ha.symm
  pid h := absurd h (by simp [ha])
  clean _ := hpid

end Alike

namespace SameSeats

variable {t u v : SlotTable}

protected theorem refl (t : SlotTable) : SameSeats t t := ⟨List.Perm.refl _, id, rfl⟩

/-- One change after another. -/
protected theorem trans (h₁ : SameSeats t u) (h₂ : SameSeats u v) : SameSeats t v :=
  ⟨h₂.seats.trans h₁.seats, fun h => h₂.clean (h₁.clean h), h₂.length.trans h₁.length⟩

/-- A reordering of the slots. -/
theorem of_perm (h : u.Perm t) : SameSeats t u where
  seats := (h.filter _).map _
  clean hc s hs := hc s (h.mem_iff.1 hs)
  length := h.length_eq

/-- The same players sit there, slot by slot. -/
theorem seats_of_alike (h : List.Forall₂ Alike t u) : u.seats = t.seats := by
  induction h with
  | nil => rfl
  | @cons a b t u hab _ ih =>
      unfold SlotTable.seats at ih ⊢
      cases hh : a.human with
      | true =>
          rw [List.filter_cons_of_pos (hab.human.trans hh), List.filter_cons_of_pos hh,
            List.map_cons, List.map_cons, hab.pid hh, ih]
      | false =>
          rw [List.filter_cons_of_neg (by simp [hab.human, hh]),
            List.filter_cons_of_neg (by simp [hh]), ih]

/-- Slots without a player stay without an id. -/
theorem clean_of_alike (h : List.Forall₂ Alike t u) (hc : t.Clean) : u.Clean := by
  induction h with
  | nil => exact fun s hs => nomatch hs
  | @cons a b t u hab _ ih =>
      intro s hs hv
      rcases List.mem_cons.1 hs with rfl | hs
      · have ha : a.human = false := hab.human.symm.trans hv
        exact hab.clean ha (hc a List.mem_cons_self ha)
      · exact ih (fun s hs => hc s (List.mem_cons_of_mem _ hs)) s hs hv

/-- A table changed slot by slot. -/
theorem of_alike (h : List.Forall₂ Alike t u) : SameSeats t u :=
  ⟨seats_of_alike h ▸ List.Perm.refl _, clean_of_alike h, h.length_eq.symm⟩

/-- Every slot is changed alike. -/
theorem of_map {f : SlotInfo → SlotInfo} (h : ∀ a, Alike a (f a)) : SameSeats t (t.map f) := by
  refine of_alike ?_
  rw [List.forall₂_map_right_iff]
  exact List.forall₂_same.2 fun a _ => h a

end SameSeats

/-- A change at one index, slot by slot. -/
theorem forall₂_set_alike {t : SlotTable} {i : Nat} {a b : SlotInfo} (ha : t[i]? = some a)
    (hab : Alike a b) : List.Forall₂ Alike t (t.set i b) := by
  induction t generalizing i with
  | nil => cases ha
  | cons c t ih =>
      cases i with
      | zero =>
          have hc : c = a := Option.some.inj ha
          rw [List.set_cons_zero, hc]
          exact .cons hab (List.forall₂_same.2 fun d _ => Alike.refl d)
      | succ i =>
          rw [List.set_cons_succ]
          exact .cons (Alike.refl c) (ih (by simpa using ha))

namespace SlotTable

variable {t : SlotTable}

/-- `modify` sets the slot to its new value. -/
theorem modify_eq_set {sid : UInt8} {a : SlotInfo} (ha : t[sid.toNat]? = some a)
    (f : SlotInfo → SlotInfo) : (t.modify sid f).1 = t.set sid.toNat (f a) := by
  obtain ⟨hlt, hget⟩ := List.getElem?_eq_some_iff.1 ha
  unfold modify
  rw [if_pos hlt]
  apply List.ext_getElem?
  intro i
  rw [List.getElem?_modify, List.getElem?_set]
  by_cases hi : sid.toNat = i
  · rw [if_pos hi, if_pos hlt, ← hi, ha]
    simp
  · simp [hi]

/-- A slot that there is not. -/
theorem modify_of_none {sid : UInt8} (h : t[sid.toNat]? = none) (f : SlotInfo → SlotInfo) :
    (t.modify sid f).1 = t := by
  unfold modify
  rw [if_neg (by simpa using h)]

/-- A slot changed so that the same player sits in it. -/
theorem sameSeats_modify {sid : UInt8} {f : SlotInfo → SlotInfo}
    (h : ∀ a, t[sid.toNat]? = some a → Alike a (f a)) : SameSeats t (t.modify sid f).1 := by
  cases ha : t[sid.toNat]? with
  | none =>
      rw [modify_of_none ha]
      exact SameSeats.refl t
  | some a =>
      rw [modify_eq_set ha]
      exact .of_alike (forall₂_set_alike ha (h a ha))

/-- Only slots without a player are opened. -/
theorem sameSeats_openAll : SameSeats t t.openAll := by
  refine .of_map fun a => ?_
  split
  · rename_i hs
    exact .of_vacant (by rw [SlotInfo.human, hs]; rfl) rfl fun _ => rfl
  · exact Alike.refl a

/-- Only open slots are closed. -/
theorem sameSeats_closeAll : SameSeats t t.closeAll := by
  refine .of_map fun a => ?_
  split
  · rename_i hs
    exact .of_vacant (by rw [SlotInfo.human, hs]; rfl) rfl fun _ => rfl
  · exact Alike.refl a

/-- A slot is replaced where it stands. -/
theorem set_split {i : Nat} {a : SlotInfo} (ha : t[i]? = some a) (b : SlotInfo) :
    ∃ l₁ l₂, t = l₁ ++ a :: l₂ ∧ t.set i b = l₁ ++ b :: l₂ := by
  obtain ⟨hlt, hget⟩ := List.getElem?_eq_some_iff.1 ha
  refine ⟨t.take i, t.drop (i + 1), ?_, ?_⟩
  · rw [← hget, ← List.drop_eq_getElem_cons hlt, List.take_append_drop]
  · rw [List.set_eq_take_append_cons_drop, if_pos hlt]

/-- The seats around one slot. -/
theorem seats_append (l₁ l₂ : SlotTable) (a : SlotInfo) :
    seats (l₁ ++ a :: l₂)
      = seats l₁ ++ ((if a.human then [a.pid] else []) ++ seats l₂) := by
  unfold seats
  rw [List.filter_append, List.map_append, List.filter_cons]
  split <;> rfl

/-- One slot is replaced by a clean one. -/
theorem clean_append {l₁ l₂ : SlotTable} {a b : SlotInfo} (h : Clean (l₁ ++ a :: l₂))
    (hb : b.human = false → b.pid = 0) : Clean (l₁ ++ b :: l₂) := by
  intro c hc hfree
  rcases List.mem_append.1 hc with hc | hc
  · exact h c (List.mem_append_left _ hc) hfree
  rcases List.mem_cons.1 hc with rfl | hc
  · exact hb hfree
  · exact h c (List.mem_append_right _ (List.mem_cons_of_mem _ hc)) hfree

/-- Occupying an open slot seats one player more. -/
theorem seats_occupySlot {sid : UInt8} (pid : UInt8) (hopen : t.isOpen sid = true) (hc : t.Clean) :
    ((t.occupySlot sid pid).1.seats).Perm (pid :: t.seats) ∧ (t.occupySlot sid pid).1.Clean
      ∧ (t.occupySlot sid pid).1.length = t.length := by
  unfold isOpen at hopen
  cases ha : t[sid.toNat]? with
  | none =>
      rw [ha] at hopen
      cases hopen
  | some a =>
      rw [ha] at hopen
      have hstatus : a.slotStatus = slotOpen := by simpa using hopen
      have hfree : a.human = false := by
        rw [SlotInfo.human, hstatus]
        rfl
      unfold occupySlot
      rw [modify_eq_set ha]
      obtain ⟨l₁, l₂, ht, hset⟩ := set_split ha
        { a with slotStatus := slotOccupied, pid := pid, computer := 0, downloadStatus := 100 }
      refine ⟨?_, ?_, List.length_set⟩
      · rw [hset, ht, seats_append, seats_append, hfree]
        exact List.perm_middle
      · rw [hset]
        rw [ht] at hc
        exact clean_append hc fun h => by cases h

/-- Releasing an id unseats its player, if it is seated. -/
theorem seats_release {pid : UInt8} (hpid : pid ≠ 0) (hc : t.Clean) (hlen : t.length ≤ 256) :
    ((t.release pid).1.seats).Perm (t.seats.erase pid) ∧ (t.release pid).1.Clean
      ∧ (t.release pid).1.length = t.length := by
  unfold release sidOfPid
  cases hi : t.findIdx? fun s => s.slotStatus == slotOccupied && s.pid == pid with
  | none =>
      -- nobody is seated under this id
      have hno : pid ∉ t.seats := by
        intro hmem
        obtain ⟨a, ha, hap⟩ := List.mem_map.1 hmem
        obtain ⟨hmem, hhuman⟩ := List.mem_filter.1 ha
        have hnot := List.findIdx?_eq_none_iff.1 hi a hmem
        rw [SlotInfo.human, Bool.and_eq_true] at hhuman
        rw [hhuman.1, hap] at hnot
        simp at hnot
      exact ⟨by rw [List.erase_of_not_mem hno]; exact List.Perm.refl _, hc, rfl⟩
  | some i =>
      obtain ⟨hlt, hp, -⟩ := List.findIdx?_eq_some_iff_getElem.1 hi
      have hidx : i.toUInt8.toNat = i := by
        rw [Nat.toUInt8_eq, UInt8.toNat_ofNat']
        omega
      have ha : t[i.toUInt8.toNat]? = some t[i] := by
        rw [hidx]
        exact List.getElem?_eq_getElem hlt
      rw [Bool.and_eq_true, beq_iff_eq, beq_iff_eq] at hp
      have hhuman : t[i].human = true := by
        by_contra hno
        exact hpid (hp.2.symm.trans (hc _ (List.getElem_mem hlt) (by simpa using hno)))
      dsimp only [Option.map_some]
      unfold openSlot
      rw [modify_eq_set ha]
      obtain ⟨l₁, l₂, ht, hset⟩ := set_split ha { t[i] with slotStatus := slotOpen, pid := 0 }
      generalize t[i] = a at hp hhuman ht hset
      refine ⟨?_, ?_, List.length_set⟩
      · rw [hset, ht, seats_append, seats_append, hhuman, hp.2]
        have hmid : (seats l₁ ++ ([pid] ++ seats l₂)).Perm (pid :: (seats l₁ ++ seats l₂)) :=
          List.perm_middle
        have herase := hmid.erase pid
        rw [List.erase_cons_head] at herase
        exact herase.symm
      · rw [hset]
        rw [ht] at hc
        exact clean_append hc fun _ => rfl

/-- Emptying a slot nobody sits in. -/
theorem sameSeats_vacate {sid status : UInt8} (hs : status ≠ slotOccupied)
    (h : ∀ a, t[sid.toNat]? = some a → a.human = false) :
    SameSeats t (t.modify sid fun a => { a with slotStatus := status, pid := 0 }).1 := by
  refine sameSeats_modify fun a ha => .of_vacant (h a ha) ?_ fun _ => rfl
  simp [SlotInfo.human, hs]

/-- In a clean table the occupied slots that carry an id are its
seats. -/
theorem countP_of_seats {pid : UInt8} (hpid : pid ≠ 0) (hc : t.Clean) :
    t.countP (fun a => a.slotStatus == slotOccupied && a.pid == pid) = t.seats.count pid := by
  induction t with
  | nil => rfl
  | cons a t ih =>
      have hrest := ih fun b hb => hc b (List.mem_cons_of_mem _ hb)
      have ha := hc a List.mem_cons_self
      unfold seats at hrest ⊢
      rw [List.countP_cons, List.filter_cons, hrest]
      cases hh : a.human with
      | true =>
          have hocc : (a.slotStatus == slotOccupied) = true := by
            rw [SlotInfo.human, Bool.and_eq_true] at hh
            exact hh.1
          rw [if_pos rfl, List.map_cons, List.count_cons, hocc, Bool.true_and]
      | false =>
          have hne : (a.pid == pid) = false := by
            rw [ha hh]
            simpa using hpid.symm
          rw [hne, Bool.and_false]
          rfl

/-- Two slots exchanged, each keeping what the map fixes. -/
theorem sameSeats_swapSlots (a b : UInt8) (fixed forces : Bool) :
    SameSeats t (t.swapSlots a b fixed forces).1 := by
  unfold swapSlots
  split
  · rename_i slotA slotB hA hB
    split
    · exact SameSeats.refl t
    rename_i hne
    obtain ⟨hltA, hgetA⟩ := List.getElem?_eq_some_iff.1 hA
    obtain ⟨hltB, hgetB⟩ := List.getElem?_eq_some_iff.1 hB
    have hidx : a.toNat ≠ b.toNat := fun h => hne (UInt8.toNat_inj.1 h)
    dsimp only
    -- first the slots as they are, then what stays with the place
    have hperm : SameSeats t ((t.set a.toNat slotB).set b.toNat slotA) := by
      refine .of_perm ?_
      have h := List.set_set_perm hltA hltB
      rwa [hgetA, hgetB] at h
    refine hperm.trans ?_
    generalize hA' : (if fixed = true then _ else _ : SlotInfo) = newA
    generalize hB' : (if fixed = true then _ else _ : SlotInfo) = newB
    have halikeA : Alike slotB newA := by
      rw [← hA']
      split
      · exact .of_eq rfl rfl rfl
      split
      · exact .of_eq rfl rfl rfl
      · exact Alike.refl _
    have halikeB : Alike slotA newB := by
      rw [← hB']
      split
      · exact .of_eq rfl rfl rfl
      split
      · exact .of_eq rfl rfl rfl
      · exact Alike.refl _
    have hfirst : SameSeats ((t.set a.toNat slotB).set b.toNat slotA)
        (((t.set a.toNat slotB).set b.toNat slotA).set a.toNat newA) := by
      refine .of_alike (forall₂_set_alike (a := slotB) ?_ halikeA)
      rw [List.getElem?_set_ne (Ne.symm hidx), List.getElem?_set_self hltA]
    refine hfirst.trans ?_
    have hshape : (t.set a.toNat newA).set b.toNat newB
        = (((t.set a.toNat slotB).set b.toNat slotA).set a.toNat newA).set b.toNat newB := by
      rw [List.set_comm _ _ (Ne.symm hidx), List.set_set, List.set_set]
    rw [hshape]
    refine .of_alike (forall₂_set_alike (a := slotA) ?_ halikeB)
    rw [List.getElem?_set_ne hidx, List.getElem?_set_self (by simpa using hltB)]
  · exact SameSeats.refl t

/-- A slot is replaced by one alike. -/
theorem sameSeats_replace {sid : UInt8} {a b : SlotInfo} (ha : t[sid.toNat]? = some a)
    (hab : Alike a b) : SameSeats t (t.replace sid b).1 := by
  refine sameSeats_modify fun c hc => ?_
  rw [ha] at hc
  rw [← Option.some.inj hc]
  exact hab

/-- A colour is given away. -/
theorem sameSeats_setColour (sid colour : UInt8) : SameSeats t (t.setColour sid colour).1 :=
  sameSeats_modify fun _ _ => .of_eq rfl rfl rfl

/-- A computer takes a slot that nobody sits in. -/
theorem sameSeats_addComputer (sid team colour race kind handicap : UInt8) :
    SameSeats t (t.addComputer sid team colour race kind handicap).1 := by
  unfold addComputer
  split
  · rename_i s hs
    split
    · exact SameSeats.refl t
    rename_i hfree
    refine sameSeats_modify fun a ha => ?_
    rw [hs] at ha
    rw [← Option.some.inj ha]
    refine .of_vacant ?_ ?_ fun h => h
    · simp [SlotInfo.human, hfree]
    · simp [SlotInfo.human]
  · exact SameSeats.refl t

/-- A computer slot changed into another computer slot. -/
theorem sameSeats_editComputer (sid : UInt8) {f : SlotInfo → SlotInfo}
    (hf : ∀ a, (f a).computer = a.computer ∧ (f a).pid = a.pid ∧ (f a).slotStatus = a.slotStatus) :
    SameSeats t (t.editComputer sid f).1 := by
  unfold editComputer
  split
  · split
    · exact sameSeats_modify fun a _ => .of_eq (hf a).2.2 (hf a).1 (hf a).2.1
    · exact SameSeats.refl t
  · exact SameSeats.refl t

/-- The command string is written from a slot on. -/
theorem sameSeats_encodeFrom (hcl : Text) : SameSeats t (Hcl.encodeFrom hcl t) := by
  refine .of_alike ?_
  induction t generalizing hcl with
  | nil =>
      cases hcl with
      | nil => exact .nil
      | cons ch rest => exact .nil
  | cons a t ih =>
      cases hcl with
      | nil => exact List.forall₂_same.2 fun d _ => Alike.refl d
      | cons ch rest =>
          unfold Hcl.encodeFrom
          split
          · exact .cons (.of_eq rfl rfl rfl) (ih rest)
          · exact .cons (Alike.refl a) (ih (ch :: rest))

/-- The whole string is. -/
theorem sameSeats_encodeHcl (hcl : Text) : SameSeats t (Hcl.encodeHclIntoSlots hcl t).1 := by
  unfold Hcl.encodeHclIntoSlots
  split
  · exact SameSeats.refl t
  split
  · exact sameSeats_encodeFrom hcl
  · exact SameSeats.refl t

end SlotTable

namespace GameState

open SlotTable

/-- A colour is given by command. -/
theorem sameSeats_colourSlot (t : SlotTable) (sid colour : UInt8) :
    SameSeats t (colourSlot t sid colour).1 := by
  unfold colourSlot
  split
  · exact SameSeats.refl t
  dsimp only
  split
  · split
    · split
      · exact (sameSeats_setColour _ _).trans (sameSeats_setColour _ _)
      · exact SameSeats.refl t
    · exact SameSeats.refl t
  · exact sameSeats_setColour _ _

/-- The players change places. -/
theorem sameSeats_shuffled (t : SlotTable) (draw : Nat → Nat) : SameSeats t (shuffled t draw) := by
  unfold shuffled
  generalize List.range t.length = l
  generalize t.length = n
  induction l generalizing t with
  | nil => exact SameSeats.refl t
  | cons i l ih => exact (sameSeats_swapSlots _ _ false false).trans (ih _)

/-- One player changes places. -/
theorem sameSeats_changeTeam (s : GameState) (pid sid target : UInt8) :
    SameSeats s.slots (s.changeTeam pid sid target).1 := by
  unfold changeTeam
  dsimp only
  split
  · exact SameSeats.refl _
  split
  · exact SameSeats.refl _
  split
  · exact SameSeats.refl _
  split
  · exact SameSeats.refl _
  · rename_i slot hslot
    exact sameSeats_replace hslot (.of_eq rfl rfl rfl)

/-- A slot request moves or decorates the player that makes it. -/
theorem sameSeats_applySlotRequest (s : GameState) (pid flag value : UInt8) :
    SameSeats s.slots (s.applySlotRequest pid flag value).1 := by
  unfold applySlotRequest
  dsimp only
  split
  · exact SameSeats.refl _
  split
  · split
    · split
      · exact sameSeats_swapSlots _ _ _ _
      · exact SameSeats.refl _
    · exact sameSeats_changeTeam s _ _ _
  split
  · exact SameSeats.refl _
  split
  · exact SameSeats.refl _
  rename_i slot hslot
  split
  · split
    · exact SameSeats.refl _
    · exact sameSeats_colourSlot _ _ _
  split
  · split
    · exact SameSeats.refl _
    · exact sameSeats_replace hslot (.of_eq rfl rfl rfl)
  split
  · split
    · exact sameSeats_replace hslot (.of_eq rfl rfl rfl)
    · exact SameSeats.refl _
  · exact SameSeats.refl _

end GameState

end Spectre

/-
The checksum of files that are read in pieces.

A call of `read` brings what it brings, may be interrupted, may fail.
Whatever the calls do, a file that is read to its end has given the
words of its contents, filled up to a whole block (`hashBlocks_honest`);
so the answer to the version check is that of the contents, or there is
none (`check_revision_value`).
-/
import Spectre.RevisionRuns

namespace Spectre.Bnet

-- ==================================================================== statements

/-- The words of a file: its contents, filled up to a whole block. -/
def fileWords (contents : List UInt8) : List UInt32 :=
  leWords (contents ++
    if contents.length % 1024 = 0 then [] else padding (contents.length % 1024))

/-- The answer for files with these contents. -/
def revisionOf (f : Formula) (seed : UInt32) (contents : List (List UInt8)) : UInt32 :=
  ((contents.flatMap fileWords).foldl (executeOps f.ops)
    { a := f.a ^^^ seed, b := f.b, c := f.c }).c

/-- A call that has read, be it nothing at the end of the file. -/
def ReadCall.brings : ReadCall → Bool
  | got _ => true
  | _ => false

/-- The calls are enough to read a file, and none fails. -/
def OpenFile.Readable (file : OpenFile) : Prop :=
  .failed ∉ file.calls ∧ file.rest.length < file.calls.countP ReadCall.brings

/-- Seeds that are set one after another. -/
def SeedRegistry.run (sets : List (Int × UInt32)) (reg : SeedRegistry) : SeedRegistry :=
  sets.foldl (fun reg s => (reg.set s.1 s.2).1) reg

/-- The seed of an archive that was set last, or the one there was. -/
def seedAfter (sets : List (Int × UInt32)) (mpqNumber : Int) (seed : UInt32) : UInt32 :=
  if mpqNumber < 0 then 0
  else (((sets.filter fun s => s.1 == mpqNumber).getLast?).map Prod.snd).getD seed

/-- The seed that is used: one that is set and not zero, or the second
of the source's. -/
def usedSeed (sets : List (Int × UInt32)) (mpqNumber : Int) : UInt32 :=
  if seedAfter sets mpqNumber (SeedRegistry.get none mpqNumber) ≠ 0 then
    seedAfter sets mpqNumber (SeedRegistry.get none mpqNumber)
  else 0xF6A14FFC

/-- What may have come of reading a file: the value, an error of one of
the calls, or too few calls. -/
def Reading.Honest {α : Type} (file : OpenFile) (value : α) : Reading α → Prop
  | done v => v = value
  | failed => ReadCall.failed ∈ file.calls
  | waiting => file.calls.countP ReadCall.brings ≤ file.rest.length

-- ======================================================================== a block

theorem fillBlock_full {rest block : List UInt8} (h : ¬block.length < 1024)
    (calls : List ReadCall) : fillBlock rest block calls = .done (⟨calls, rest⟩, block) := by
  cases calls with
  | nil =>
      rw [fillBlock]
      exact if_neg h
  | cons call calls =>
      cases call with
      | interrupted =>
          rw [fillBlock]
          exact if_neg h
      | failed =>
          rw [fillBlock]
          exact if_neg h
      | got n =>
          rw [fillBlock]
          exact if_neg h

theorem brings_interrupted (calls : List ReadCall) :
    (ReadCall.interrupted :: calls).countP ReadCall.brings = calls.countP ReadCall.brings :=
  List.countP_cons_of_neg (by decide)

theorem brings_got (n : Nat) (calls : List ReadCall) :
    (ReadCall.got n :: calls).countP ReadCall.brings = calls.countP ReadCall.brings + 1 :=
  List.countP_cons_of_pos rfl

/-- A call that brings something brings the next bytes. -/
theorem fillBlock_got (rest : List UInt8) {block : List UInt8} (h : block.length < 1024) (n : Nat)
    (calls : List ReadCall) :
    rest = [] ∧ fillBlock rest block (.got n :: calls) = .done (⟨calls, rest⟩, block)
      ∨ ∃ k, 0 < k ∧ k ≤ 1024 - block.length ∧ k ≤ rest.length
        ∧ fillBlock rest block (.got n :: calls)
          = fillBlock (rest.drop k) (block ++ rest.take k) calls := by
  rw [fillBlock, if_pos h]
  dsimp only
  by_cases hzero : min (max 1 n) (min (1024 - block.length) rest.length) = 0
  · rw [if_pos hzero]
    refine .inl ⟨List.eq_nil_of_length_eq_zero ?_, rfl⟩
    omega
  · rw [if_neg hzero]
    exact .inr ⟨_, Nat.pos_of_ne_zero hzero, by omega, by omega, rfl⟩

/-- A block that is filled has got the next bytes of the file, as many
as fit; and it took a call for each of them at most, and one more where
the file ends. -/
structure Filled (rest block : List UInt8) (calls : List ReadCall) (file : OpenFile)
    (full : List UInt8) : Prop where
  bytes : full = block ++ rest.take (1024 - block.length)
  left : file.rest = rest.drop (1024 - block.length)
  later : file.calls <:+ calls
  fewer : block.length < 1024 → file.calls.length < calls.length
  enough : calls.countP ReadCall.brings ≤ file.calls.countP ReadCall.brings
    + min (1024 - block.length) rest.length + if full.length < 1024 then 1 else 0

theorem filled_full {block : List UInt8} (hfull : ¬block.length < 1024) (rest : List UInt8)
    (calls : List ReadCall) :
    Filled rest block calls ⟨calls, rest⟩ block where
  bytes := by
    rw [Nat.sub_eq_zero_of_le (Nat.not_lt.1 hfull), List.take_zero, List.append_nil]
  left := by
    rw [Nat.sub_eq_zero_of_le (Nat.not_lt.1 hfull), List.drop_zero]
  later := List.suffix_refl _
  fewer := fun h => absurd h hfull
  enough := Nat.le_add_right_of_le (Nat.le_add_right _ _)

theorem fillBlock_done {rest block : List UInt8} (hblock : block.length ≤ 1024)
    {calls : List ReadCall} {file : OpenFile} {full : List UInt8}
    (h : fillBlock rest block calls = .done (file, full)) : Filled rest block calls file full := by
  induction calls generalizing rest block with
  | nil =>
      rw [fillBlock] at h
      by_cases hroom : block.length < 1024
      · rw [if_pos hroom] at h
        cases h
      · rw [if_neg hroom] at h
        cases h
        exact filled_full hroom _ _
  | cons call calls ih =>
      by_cases hroom : block.length < 1024
      · cases call with
        | interrupted =>
            -- an interrupted read is tried again and brings nothing
            rw [fillBlock, if_pos hroom] at h
            have hfilled := ih hblock h
            refine ⟨hfilled.bytes, hfilled.left, hfilled.later.trans (List.suffix_cons _ _),
              fun _ => Nat.lt_succ_of_lt (hfilled.fewer hroom), ?_⟩
            rw [brings_interrupted]
            exact hfilled.enough
        | failed =>
            rw [fillBlock, if_pos hroom] at h
            cases h
        | got n =>
            -- a read of nothing is the end of the file; any other makes progress
            rcases fillBlock_got rest hroom n calls
              with ⟨hnil, hend⟩ | ⟨k, hpos, hfits, hleft, hgot⟩
            · rw [hend] at h
              cases h
              subst hnil
              refine ⟨?_, ?_, List.suffix_cons _ _, fun _ => Nat.lt_succ_self _, ?_⟩
              · rw [List.take_nil, List.append_nil]
              · rw [List.drop_nil]
              · rw [brings_got, if_pos hroom]
                dsimp only
                omega
            · rw [hgot] at h
              have hlen : (block ++ rest.take k).length = block.length + k := by
                rw [List.length_append, List.length_take, Nat.min_eq_left hleft]
              have hfilled := ih (by rw [hlen]; omega) h
              -- the room left is the bytes of this read and the room left after it
              have hsplit : 1024 - block.length = k + (1024 - (block.length + k)) := by omega
              refine ⟨?_, ?_, hfilled.later.trans (List.suffix_cons _ _), fun _ => ?_, ?_⟩
              · rw [hfilled.bytes, hlen, hsplit, List.take_add, List.append_assoc]
              · rw [hfilled.left, hlen, List.drop_drop]
                congr 1
                omega
              · exact Nat.lt_succ_of_le hfilled.later.length_le
              · have henough := hfilled.enough
                rw [hlen, List.length_drop] at henough
                rw [brings_got]
                split at henough <;> split <;> omega
      · rw [fillBlock_full hroom] at h
        cases h
        exact filled_full hroom _ _

theorem fillBlock_failed {rest block : List UInt8} {calls : List ReadCall}
    (h : fillBlock rest block calls = .failed) : .failed ∈ calls := by
  induction calls generalizing rest block with
  | nil =>
      rw [fillBlock] at h
      split at h <;> cases h
  | cons call calls ih =>
      by_cases hroom : block.length < 1024
      · cases call with
        | interrupted =>
            rw [fillBlock, if_pos hroom] at h
            exact List.mem_cons_of_mem _ (ih h)
        | failed => exact List.mem_cons_self
        | got n =>
            rcases fillBlock_got rest hroom n calls with ⟨_, hend⟩ | ⟨k, _, _, _, hgot⟩
            · rw [hend] at h
              cases h
            · rw [hgot] at h
              exact List.mem_cons_of_mem _ (ih h)
      · rw [fillBlock_full hroom] at h
        cases h

/-- Who waits has had no more calls than there are bytes. -/
theorem fillBlock_waiting {rest block : List UInt8} (hblock : block.length ≤ 1024)
    {calls : List ReadCall} (h : fillBlock rest block calls = .waiting) :
    calls.countP ReadCall.brings ≤ rest.length := by
  induction calls generalizing rest block with
  | nil => exact Nat.zero_le _
  | cons call calls ih =>
      by_cases hroom : block.length < 1024
      · cases call with
        | interrupted =>
            rw [fillBlock, if_pos hroom] at h
            rw [brings_interrupted]
            exact ih hblock h
        | failed =>
            rw [fillBlock, if_pos hroom] at h
            cases h
        | got n =>
            rcases fillBlock_got rest hroom n calls
              with ⟨_, hend⟩ | ⟨k, hpos, hfits, hleft, hgot⟩
            · rw [hend] at h
              cases h
            · rw [hgot] at h
              have hlen : (block ++ rest.take k).length = block.length + k := by
                rw [List.length_append, List.length_take, Nat.min_eq_left hleft]
              have hcount := ih (by rw [hlen]; omega) h
              rw [List.length_drop] at hcount
              rw [brings_got]
              omega
      · rw [fillBlock_full hroom] at h
        cases h

-- ========================================================================= a file

/-- Whole words in front are words of their own. -/
theorem leWords_append {u : List UInt8} (hu : 4 ∣ u.length) (rest : List UInt8) :
    leWords (u ++ rest) = leWords u ++ leWords rest := by
  induction u using leWords.induct with
  | case1 a b c d u ih =>
      have hu' : 4 ∣ u.length := by
        rw [List.length_cons, List.length_cons, List.length_cons, List.length_cons] at hu
        omega
      show leWord a b c d :: leWords (u ++ rest) = leWord a b c d :: (leWords u ++ leWords rest)
      rw [ih hu']
  | case2 u hfew =>
      match u, hu, hfew with
      | [], _, _ => rfl
      | [_], hu, _ => exact absurd hu (show ¬4 ∣ 1 by decide)
      | [_, _], hu, _ => exact absurd hu (show ¬4 ∣ 2 by decide)
      | [_, _, _], hu, _ => exact absurd hu (show ¬4 ∣ 3 by decide)
      | a :: b :: c :: d :: u, _, hfew => exact absurd rfl (hfew a b c d u)

theorem fileWords_nil : fileWords [] = [] := rfl

/-- The first block has its words, and the rest its own. -/
theorem fileWords_block {l : List UInt8} (h : 1024 ≤ l.length) :
    fileWords l = leWords (l.take 1024) ++ fileWords (l.drop 1024) := by
  have hmod : (l.drop 1024).length % 1024 = l.length % 1024 := by
    rw [List.length_drop]
    omega
  have hlen : (l.take 1024).length = 1024 := by
    rw [List.length_take]
    exact Nat.min_eq_left h
  unfold fileWords
  rw [hmod, ← leWords_append (by rw [hlen]; decide), ← List.append_assoc, List.take_append_drop]

/-- A last block is filled up. -/
theorem fileWords_last {l : List UInt8} (hne : l ≠ []) (h : l.length < 1024) :
    fileWords l = leWords (l ++ padding l.length) := by
  have hpos := List.length_pos_iff.2 hne
  unfold fileWords
  rw [Nat.mod_eq_of_lt h, if_neg (Nat.pos_iff_ne_zero.1 hpos)]

/-- A file that is read has given its words. -/
theorem hashBlocks_honest (ops : List Operation) {fuel : Nat} {file : OpenFile}
    (hfuel : file.calls.length < fuel) (r : Registers) : (hashBlocks ops fuel file r).Honest file
      ((fileWords file.rest).foldl (executeOps ops) r) := by
  induction fuel generalizing file r with
  | zero => exact absurd hfuel (Nat.not_lt_zero _)
  | succ fuel ih =>
      rw [hashBlocks]
      cases hfill : fillBlock file.rest [] file.calls with
      | waiting => exact fillBlock_waiting (Nat.zero_le _) hfill
      | failed => exact fillBlock_failed hfill
      | done result =>
          obtain ⟨next, full⟩ := result
          have hfilled := fillBlock_done (Nat.zero_le _) hfill
          have hbytes : full = file.rest.take 1024 := hfilled.bytes
          have hleft : next.rest = file.rest.drop 1024 := hfilled.left
          have hlen : full.length = min 1024 file.rest.length := by
            rw [hbytes, List.length_take]
          dsimp only
          by_cases hend : full = []
          · -- the file ends where a block does
            rw [if_pos hend]
            have hnil : file.rest = [] := by
              rw [hend, List.length_nil] at hlen
              exact List.eq_nil_of_length_eq_zero (by omega)
            rw [hnil, fileWords_nil]
            rfl
          rw [if_neg hend]
          by_cases hwhole : full.length = 1024
          · rw [if_pos hwhole]
            have hlong : 1024 ≤ file.rest.length := by omega
            have hfewer : next.calls.length < file.calls.length := hfilled.fewer (by decide)
            have hnext := ih (Nat.lt_of_lt_of_le hfewer (Nat.le_of_lt_succ hfuel))
              ((leWords full).foldl (executeOps ops) r)
            rw [fileWords_block hlong, ← hbytes, ← hleft, List.foldl_append]
            cases hblocks : hashBlocks ops fuel next ((leWords full).foldl (executeOps ops) r) with
            | done v =>
                rw [hblocks] at hnext
                exact hnext
            | failed =>
                rw [hblocks] at hnext
                exact hfilled.later.subset hnext
            | waiting =>
                rw [hblocks] at hnext
                have hcount : next.calls.countP ReadCall.brings ≤ next.rest.length := hnext
                have henough := hfilled.enough
                rw [if_neg (by omega)] at henough
                rw [hleft, List.length_drop] at hcount
                show file.calls.countP ReadCall.brings ≤ file.rest.length
                dsimp only [List.length_nil] at henough
                omega
          · rw [if_neg hwhole]
            have hshort : file.rest.length < 1024 := by omega
            have hall : full = file.rest := by
              rw [hbytes, List.take_of_length_le (Nat.le_of_lt hshort)]
            have hne : file.rest ≠ [] := by
              rw [← hall]
              exact hend
            rw [fileWords_last hne hshort, ← hall]
            rfl

/-- The words of all files, one after another, or a file that was not
read. -/
theorem hashFiles_honest (ops : List Operation) (files : List OpenFile) (r : Registers) :
    hashFiles ops (files.map some) r
        = .done ((files.flatMap fun file => fileWords file.rest).foldl (executeOps ops) r)
      ∨ hashFiles ops (files.map some) r = .failed ∧ (∃ file ∈ files, .failed ∈ file.calls)
      ∨ hashFiles ops (files.map some) r = .waiting
        ∧ ∃ file ∈ files, file.calls.countP ReadCall.brings ≤ file.rest.length := by
  induction files generalizing r with
  | nil => exact .inl rfl
  | cons file files ih =>
      have hfile := hashBlocks_honest ops (Nat.lt_succ_self file.calls.length) r
      rw [List.map_cons, hashFiles, hashFile]
      cases hblocks : hashBlocks ops (file.calls.length + 1) file r with
      | done v =>
          rw [hblocks] at hfile
          obtain rfl : v = _ := hfile
          dsimp only
          rw [List.flatMap_cons, List.foldl_append]
          rcases ih ((fileWords file.rest).foldl (executeOps ops) r) with hdone
            | ⟨hfailed, bad, hmem, hbad⟩ | ⟨hwaits, late, hmem, hlate⟩
          · exact .inl hdone
          · exact .inr (.inl ⟨hfailed, bad, List.mem_cons_of_mem _ hmem, hbad⟩)
          · exact .inr (.inr ⟨hwaits, late, List.mem_cons_of_mem _ hmem, hlate⟩)
      | failed =>
          rw [hblocks] at hfile
          exact .inr (.inl ⟨rfl, file, List.mem_cons_self, hfile⟩)
      | waiting =>
          rw [hblocks] at hfile
          exact .inr (.inr ⟨rfl, file, List.mem_cons_self, hfile⟩)

-- ======================================================================== seeds

/-- A seed that is set is read back, and the others stay. -/
theorem SeedRegistry.get_set (reg : SeedRegistry) (n : Int) (seed : UInt32) (m : Int) :
    (reg.set n seed).1.get m = if m < 0 then 0 else if n = m then seed else reg.get m := by
  unfold SeedRegistry.set SeedRegistry.get
  by_cases hm : m < 0
  · rw [if_pos hm, if_pos hm]
  rw [if_neg hm, if_neg hm, if_neg hm]
  by_cases hn : n < 0
  · rw [if_pos hn, if_neg (by omega)]
  rw [if_neg hn]
  dsimp only [Option.getD_some]
  generalize reg.getD defaultMpqSeeds = seeds
  -- the list is made longer by zeros, which is what is read beyond it
  have hlonger : ∀ i : Nat, ((if seeds.length ≤ n.toNat then
      seeds ++ List.replicate (n.toNat + 1 - seeds.length) 0 else seeds)[i]?).getD 0
        = (seeds[i]?).getD 0 := by
    intro i
    split
    · rw [List.getElem?_append]
      split
      · rfl
      · rename_i hout
        rw [List.getElem?_eq_none (Nat.not_lt.1 hout), List.getElem?_replicate]
        split <;> rfl
    · rfl
  have hin : n.toNat < (if seeds.length ≤ n.toNat then
      seeds ++ List.replicate (n.toNat + 1 - seeds.length) 0 else seeds).length := by
    split
    · rw [List.length_append, List.length_replicate]
      omega
    · omega
  by_cases hsame : n = m
  · rw [if_pos hsame, ← hsame, List.getElem?_set_self hin]
    rfl
  · rw [if_neg hsame, List.getElem?_set_ne (by omega)]
    exact hlonger m.toNat

theorem SeedRegistry.get_run (sets : List (Int × UInt32)) (reg : SeedRegistry) (n : Int) :
    (reg.run sets).get n = seedAfter sets n (reg.get n) := by
  induction sets generalizing reg with
  | nil =>
      show reg.get n = if n < 0 then 0 else reg.get n
      unfold SeedRegistry.get
      split
      · rfl
      · rfl
  | cons s sets ih =>
      show (SeedRegistry.run sets (reg.set s.1 s.2).1).get n = _
      rw [ih, SeedRegistry.get_set]
      unfold seedAfter
      by_cases hn : n < 0
      · rw [if_pos hn, if_pos hn]
      rw [if_neg hn, if_neg hn, if_neg hn, List.filter_cons]
      by_cases hs : s.1 = n
      · rw [if_pos hs, if_pos (beq_iff_eq.2 hs), List.getLast?_cons]
        cases (sets.filter fun s => s.1 == n).getLast? <;> rfl
      · rw [if_neg hs, if_neg (fun heq => hs (beq_iff_eq.1 heq))]

-- ==================================================================== the answer

/-- Whatever was set and however the files are read, the answer to a
formula is that of their contents and of the seed that was set last, or
there is an error because reading one of them failed; and where no call
fails and there are enough of them, there is the answer. -/
theorem check_revision_value (sets : List (Int × UInt32)) {text : List Char} {f : Formula}
    (hparse : parseFormula text = .ok f) {files : List OpenFile} (hne : files ≠ [])
    (mpqNumber : Int) :
    (∀ out, checkRevision (SeedRegistry.run sets none) text (files.map some) mpqNumber = .done out →
        out = .ok (revisionOf f (usedSeed sets mpqNumber) (files.map OpenFile.rest))
          ∨ out = .error .io ∧ ∃ file ∈ files, .failed ∈ file.calls)
      ∧ ((∀ file ∈ files, file.Readable) →
        checkRevision (SeedRegistry.run sets none) text (files.map some) mpqNumber
          = .done (.ok (revisionOf f (usedSeed sets mpqNumber) (files.map OpenFile.rest)))) := by
  have hused : (SeedRegistry.run sets none).effective mpqNumber = usedSeed sets mpqNumber := by
    unfold SeedRegistry.effective usedSeed
    rw [SeedRegistry.get_run]
    rfl
  have hsome : (files.map some).isEmpty = false := by
    rw [List.isEmpty_map]
    exact List.isEmpty_eq_false_iff.2 hne
  -- past the two checks on its arguments the result is the hash of the files
  have hcheck : checkRevision (SeedRegistry.run sets none) text (files.map some) mpqNumber
      = (hashFiles f.ops (files.map some)
          { a := f.a ^^^ usedSeed sets mpqNumber, b := f.b, c := f.c }).answer := by
    unfold checkRevision
    rw [hsome, if_neg Bool.false_ne_true, hparse, ← hused]
  -- the reads all come, one fails, or they stop while the file still owes bytes
  rcases hashFiles_honest f.ops files
      { a := f.a ^^^ usedSeed sets mpqNumber, b := f.b, c := f.c }
    with hdone | ⟨hfailed, hbad⟩ | ⟨hwaits, late, hmem, hlate⟩
  · have hout : checkRevision (SeedRegistry.run sets none) text (files.map some) mpqNumber
        = .done (.ok (revisionOf f (usedSeed sets mpqNumber) (files.map OpenFile.rest))) := by
      rw [hcheck, hdone]
      unfold revisionOf
      rw [List.flatMap_map]
      rfl
    refine ⟨fun out h => .inl ?_, fun _ => hout⟩
    rw [hout] at h
    cases h
    rfl
  · refine ⟨fun out h => .inr ⟨?_, hbad⟩, fun hread => ?_⟩
    · rw [hcheck, hfailed] at h
      cases h
      rfl
    · obtain ⟨bad, hmem, hcall⟩ := hbad
      exact absurd hcall (hread bad hmem).1
  · refine ⟨fun out h => ?_, fun hread => ?_⟩
    · rw [hcheck, hwaits] at h
      cases h
    · exact absurd (hread late hmem).2 (Nat.not_lt.2 hlate)

/-- A file of five bytes, read in three pieces with an interrupt between
them. -/
def interruptedFile : OpenFile :=
  { calls := [.got 2, .interrupted, .got 9, .got 1, .got 1, .got 1, .got 1]
    rest := [1, 2, 3, 4, 5] }

/-- A file that is read at once. -/
def wholeFile : OpenFile := { calls := List.replicate 5 (.got 4), rest := [6, 7, 8, 9] }

/-- The three files of a client, the seed of the archive having been
set. -/
theorem check_revision_value_interrupted :
    checkRevisionFlat (SeedRegistry.run [(9, 4)] none) "A=7 C=C+S".toList (some interruptedFile)
        (some wholeFile) (some interruptedFile) 9
      = .done (.ok (revisionOf { a := 7, b := 0, c := 0, ops := [⟨'C', 'C', .add, 'S'⟩] }
          (usedSeed [(9, 4)] 9)
          [interruptedFile.rest, wholeFile.rest, interruptedFile.rest])) := by
  have hparse : parseFormula "A=7 C=C+S".toList
      = .ok { a := 7, b := 0, c := 0, ops := [⟨'C', 'C', .add, 'S'⟩] } := rfl
  have hne : [interruptedFile, wholeFile, interruptedFile] ≠ [] := List.cons_ne_nil _ _
  have hreadable : interruptedFile.Readable ∧ wholeFile.Readable :=
    ⟨⟨by decide, by decide⟩, ⟨by decide, by decide⟩⟩
  refine (check_revision_value [(9, 4)] hparse hne 9).2 fun file hfile => ?_
  rcases List.mem_cons.1 hfile with rfl | hfile
  · exact hreadable.1
  rcases List.mem_cons.1 hfile with rfl | hfile
  · exact hreadable.2
  · rw [List.mem_singleton.1 hfile]
    exact hreadable.1

end Spectre.Bnet

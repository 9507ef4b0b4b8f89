/-
Where the header of an archive is found (`MpqHeader::locate`).

Two searches follow each other. The first visits every 512th offset and
takes an archive's signature, or a user-data header that points at one;
the second visits every offset. `HeaderAt` says which header they ought
to find: the first at a multiple of 512, directly or through user data,
or else the first of all. `locate_cases` is what they find. They miss
one kind of place: the second search ends one offset early, so a header
that only stands in the last 32 bytes is found if that is a multiple of
512, or pointed at, and not otherwise (`header_found_iff`).
-/
import Spectre.Mpq

namespace Spectre.Mpq

open Lib Lib.Checked

/-- What a `&[u8]` can be: no slice has more than `isize::MAX` bytes. -/
structure Slice where
  bytes : List UInt8
  short : bytes.length < 2 ^ 63
deriving DecidableEq

-- ========================================================= reading numbers

/-- Two bytes at an index, little-endian. -/
def le16 (data : List UInt8) (i : Nat) : Nat :=
  (data.getD i 0).toNat + 256 * (data.getD (i + 1) 0).toNat

/-- Four bytes at an index, little-endian. -/
def le32 (data : List UInt8) (i : Nat) : Nat :=
  (data.getD i 0).toNat + 256 * (data.getD (i + 1) 0).toNat + 65536 * (data.getD (i + 2) 0).toNat
    + 16777216 * (data.getD (i + 3) 0).toNat

/-- The four bytes at an offset. -/
def signatureAt (data : List UInt8) (i : Nat) : List UInt8 := (data.drop i).take 4

variable {data : List UInt8} {i : Nat}

/-- A word has 32 bits. -/
theorem le32_lt (data : List UInt8) (i : Nat) : le32 data i < 2 ^ 32 := by
  unfold le32
  have h0 := (data.getD i 0).toNat_lt
  have h1 := (data.getD (i + 1) 0).toNat_lt
  have h2 := (data.getD (i + 2) 0).toNat_lt
  have h3 := (data.getD (i + 3) 0).toNat_lt
  omega

/-- Two bytes are read where they are. -/
theorem u16At_eq (h : i + 2 ≤ data.length) : u16At data i = .ok (le16 data i) := by
  unfold u16At
  rw [index_getD 0 (by omega), ok_bind, index_getD 0 (by omega), ok_bind]
  rfl

/-- Four bytes are read where they are. -/
theorem u32At_eq (h : i + 4 ≤ data.length) : u32At data i = .ok (le32 data i) := by
  unfold u32At
  rw [index_getD 0 (by omega), ok_bind, index_getD 0 (by omega), ok_bind,
    index_getD 0 (by omega), ok_bind, index_getD 0 (by omega), ok_bind]
  rfl

/-- Reading a signature: the sum and the slice. -/
theorem slice_signature (h : i + 4 ≤ data.length) (hshort : data.length < 2 ^ 63) :
    (do slice data i (← add usize i 4) : Res (List UInt8)) = .ok (signatureAt data i) := by
  rw [add_eq (by unfold usize; omega), ok_bind, slice_eq (by omega) h, Nat.add_sub_cancel_left]
  rfl

-- ============================================================ where it is

/-- An archive's signature stands at an offset, with room for a header. -/
def Stands (data : List UInt8) (i : Nat) : Prop :=
  i + 32 ≤ data.length ∧ signatureAt data i = idMpqArchive

/-- A user-data header at an offset points at an archive's header. -/
def PointsAt (data : List UInt8) (offset target : Nat) : Prop :=
  (offset + 32 ≤ data.length ∧ signatureAt data offset = idMpqUserData)
    ∧ target = offset + le32 data (offset + 8) ∧ Stands data target

/-- The header an offset leads to. -/
def Leads (data : List UInt8) (offset header : Nat) : Prop :=
  (Stands data offset ∧ header = offset) ∨ PointsAt data offset header

/-- Where the archive begins, and its header. -/
inductive HeaderAt (data : List UInt8) : Nat → Nat → Prop where
  /-- the first multiple of 512 that leads to one -/
  | aligned {a h : Nat} (haligned : 512 ∣ a) (hleads : Leads data a h)
      (hfirst : ∀ b < a, 512 ∣ b → ∀ h', ¬Leads data b h') : HeaderAt data a h
  /-- the first of all, if no multiple of 512 does -/
  | scattered {i : Nat} (hnone : ∀ a, 512 ∣ a → ∀ h, ¬Leads data a h) (hstands : Stands data i)
      (hfirst : ∀ j < i, ¬Stands data j) : HeaderAt data i i

/-- The one header is in the last 32 bytes, at no multiple of 512, and
nothing points at it. -/
def LastOnly (data : List UInt8) : Prop :=
  ∃ i, i + 32 = data.length ∧ ¬512 ∣ i ∧ Stands data i ∧ (∀ j < i, ¬Stands data j)
    ∧ ∀ a, 512 ∣ a → ¬PointsAt data a i

instance (data : List UInt8) (i : Nat) : Decidable (Stands data i) :=
  inferInstanceAs (Decidable (_ ∧ _))

instance (data : List UInt8) (offset target : Nat) : Decidable (PointsAt data offset target) :=
  inferInstanceAs (Decidable ((_ ∧ _) ∧ _ ∧ _))

/-- What is led to is a header. -/
theorem Leads.stands {a h : Nat} (hl : Leads data a h) : Stands data h := by
  rcases hl with ⟨hs, rfl⟩ | hp
  · exact hs
  · exact hp.2.2

/-- There is room for what leads to it. -/
theorem Leads.room {a h : Nat} (hl : Leads data a h) : a + 32 ≤ data.length := by
  rcases hl with ⟨hs, rfl⟩ | hp
  · exact hs.1
  · exact hp.1.1

/-- One place leads to one header. -/
theorem Leads.unique {a h h' : Nat} (hl : Leads data a h) (hl' : Leads data a h') : h = h' := by
  rcases hl with ⟨hs, rfl⟩ | hp <;> rcases hl' with ⟨hs', rfl⟩ | hp'
  · rfl
  · exact absurd (hs.2.symm.trans hp'.1.2) (by decide)
  · exact absurd (hs'.2.symm.trans hp.1.2) (by decide)
  · exact hp.2.1.trans hp'.2.1.symm

namespace HeaderAt

variable {a h a' h' : Nat}

/-- What is located is a header. -/
theorem stands (hd : HeaderAt data a h) : Stands data h := by
  cases hd with
  | aligned _ hleads _ => exact hleads.stands
  | scattered _ hstands _ => exact hstands

/-- There is room for the place it is found at. -/
theorem room (hd : HeaderAt data a h) : a + 32 ≤ data.length := by
  cases hd with
  | aligned _ hleads _ => exact hleads.room
  | scattered _ hstands _ => exact hstands.1

/-- There is one such place at most. -/
theorem unique (hd : HeaderAt data a h) (hd' : HeaderAt data a' h') : a = a' ∧ h = h' := by
  cases hd with
  | aligned haligned hleads hfirst =>
      cases hd' with
      | aligned haligned' hleads' hfirst' =>
          rcases Nat.lt_trichotomy a a' with hlt | heq | hlt
          · exact absurd hleads (hfirst' a hlt haligned h)
          · subst heq
            exact ⟨rfl, hleads.unique hleads'⟩
          · exact absurd hleads' (hfirst a' hlt haligned' h')
      | scattered hnone _ _ => exact absurd hleads (hnone a haligned h)
  | scattered hnone hstands hfirst =>
      cases hd' with
      | aligned haligned' hleads' _ => exact absurd hleads' (hnone _ haligned' h')
      | scattered _ hstands' hfirst' =>
          refine and_self_iff.2
            (Nat.le_antisymm (Nat.not_lt.1 fun hlt => ?_) (Nat.not_lt.1 fun hlt => ?_))
          · exact hfirst _ hlt hstands'
          · exact hfirst' _ hlt hstands

end HeaderAt

/-- A header at the very end is led to from nowhere. -/
theorem LastOnly.leads_nowhere (hl : LastOnly data) : ∀ a, 512 ∣ a → ∀ h, ¬Leads data a h := by
  obtain ⟨i, hlast, hmod, -, hfirst, hpoints⟩ := hl
  intro a ha h hleads
  -- what it leads to is not before the one at the end, and not behind it
  have hi : h = i := by
    have hroom := hleads.stands.1
    rcases Nat.lt_trichotomy h i with hlt | heq | hlt
    · exact absurd hleads.stands (hfirst h hlt)
    · exact heq
    · omega
  subst hi
  rcases hleads with ⟨-, rfl⟩ | hp
  · exact hmod ha
  · exact hpoints a ha hp

/-- It is located where it is. -/
theorem LastOnly.headerAt (hl : LastOnly data) : ∃ i, HeaderAt data i i := by
  have hnone := hl.leads_nowhere
  obtain ⟨i, -, -, hstands, hfirst, -⟩ := hl
  exact ⟨i, .scattered hnone hstands hfirst⟩

-- ========================================================== what is parsed

/-- The header that stands at an offset. -/
def headerOf (data : List UInt8) (archiveOffset headerOffset : Nat) : MpqHeader :=
  let bytes := (data.drop headerOffset).take 32
  { archiveOffset, headerSize := le32 bytes 4, archiveSize := le32 bytes 8,
    formatVersion := le16 bytes 12, sectorSizeShift := le16 bytes 14,
    sectorSize := 512 <<< le16 bytes 14 % 2 ^ 64,
    hashTableOffset := archiveOffset + le32 bytes 16, blockTableOffset :=
    archiveOffset + le32 bytes 20, hashTableCount := le32 bytes 24, blockTableCount := le32 bytes 28
    }

/-- Parsing a header that is there, of a slice. -/
theorem parseAt_eq {a h : Nat} (hshort : data.length < 2 ^ 63) (ha : a + 32 ≤ data.length)
    (hh : h + 32 ≤ data.length) :
    MpqHeader.parseAt data a h
      = if (headerOf data a h).sectorSizeShift < 64 then .ok (headerOf data a h) else .stuck := by
  have hlen : ((data.drop h).take 32).length = 32 := by
    rw [List.length_take, List.length_drop]
    omega
  have hhash := le32_lt ((data.drop h).take 32) 16
  have hblock := le32_lt ((data.drop h).take 32) 20
  unfold MpqHeader.parseAt headerSizeV1 usize
  rw [add_eq (by omega), ok_bind, if_neg (by omega), slice_eq (by omega) hh,
    Nat.add_sub_cancel_left]
  simp only [ok_bind]
  rw [u32At_eq (by omega), u32At_eq (by omega), u16At_eq (by omega), u16At_eq (by omega),
    u32At_eq (by omega), u32At_eq (by omega), u32At_eq (by omega), u32At_eq (by omega)]
  simp only [ok_bind]
  rw [add_eq (by omega), add_eq (by omega)]
  simp only [ok_bind]
  by_cases hshift : le16 ((data.drop h).take 32) 14 < 64
  · rw [shl_eq hshift]
    exact (if_pos hshift).symm
  · rw [shl_stuck (Nat.not_lt.1 hshift)]
    exact (if_neg hshift).symm

/-- A header with room is parsed, for better or worse. -/
theorem parseAt_ne_notFound {a h : Nat} (hshort : data.length < 2 ^ 63) (ha : a + 32 ≤ data.length)
    (hh : h + 32 ≤ data.length) : MpqHeader.parseAt data a h ≠ .err .headerNotFound := by
  rw [parseAt_eq hshort ha hh]
  split <;> exact fun h => nomatch h

-- ======================================================= what is searched

/-- A user-data header is followed. -/
theorem userDataTarget_eq {offset : Nat} (hshort : data.length < 2 ^ 63)
    (hroom : offset + 32 ≤ data.length) :
    ∃ o, MpqHeader.userDataTarget data offset = .ok o ∧ ∀ t, o = some t
      ↔ PointsAt data offset t := by
  have hlt := le32_lt data (offset + 8)
  unfold MpqHeader.userDataTarget PointsAt
  rw [← bind_assoc, slice_signature (by omega) hshort, ok_bind]
  by_cases hsig : signatureAt data offset = idMpqUserData
  · rw [if_neg (not_not.2 hsig), add_eq (by unfold usize; omega), ok_bind, if_neg (by omega),
      u32At_eq (by omega), ok_bind, u32At_eq (by omega), ok_bind, add_eq (by unfold usize; omega),
      ok_bind]
    unfold headerSizeV1
    rw [add_eq (by unfold usize; omega), ok_bind]
    by_cases hend : offset + le32 data (offset + 8) + 32 > data.length
    · refine ⟨none, if_pos hend, fun t => ⟨fun h => (nomatch h), fun h => ?_⟩⟩
      obtain ⟨-, rfl, hs⟩ := h
      exact absurd hs.1 (Nat.not_le.2 hend)
    · rw [if_neg hend, ← bind_assoc, slice_signature (by omega) hshort, ok_bind]
      refine ⟨_, rfl, fun t => ?_⟩
      by_cases htarget : signatureAt data (offset + le32 data (offset + 8)) = idMpqArchive
      · rw [if_pos htarget]
        constructor
        · rintro ⟨⟩
          exact ⟨⟨hroom, hsig⟩, rfl, by omega, htarget⟩
        · rintro ⟨-, rfl, -⟩
          rfl
      · rw [if_neg htarget]
        constructor
        · rintro ⟨⟩
        · rintro ⟨-, rfl, hs⟩
          exact absurd hs.2 htarget
  · rw [if_pos hsig]
    exact ⟨none, rfl, fun t => ⟨fun h => (nomatch h), fun h => absurd h.1.2 hsig⟩⟩

/-- The first search stops at the first multiple of 512 that leads to a
header. -/
theorem searchAligned_cases (hshort : data.length < 2 ^ 63) {fuel offset : Nat} (hpos : 0 < fuel)
    (hfuel : data.length < fuel + offset) (hoffset : offset < data.length + 512)
    (halign : 512 ∣ offset) :
    (∃ a h, offset ≤ a ∧ 512 ∣ a ∧ Leads data a h
        ∧ (∀ b < a, offset ≤ b → 512 ∣ b → ∀ h', ¬Leads data b h')
        ∧ MpqHeader.searchAligned data fuel offset = some <$> MpqHeader.parseAt data a h)
      ∨ ((∀ b, offset ≤ b → 512 ∣ b → ∀ h', ¬Leads data b h')
        ∧ MpqHeader.searchAligned data fuel offset = .ok none) := by
  induction fuel generalizing offset with
  | zero => exact absurd hpos (Nat.lt_irrefl 0)
  | succ fuel ih =>
      unfold MpqHeader.searchAligned headerSizeV1
      by_cases hroom : offset + 32 ≤ data.length
      · have hfuel' : data.length < fuel + (offset + 512) := by
          clear hshort
          omega
        have hoffset' : offset + 512 < data.length + 512 := by omega
        have halign' : 512 ∣ offset + 512 := Nat.dvd_add halign (Nat.dvd_refl 512)
        rw [add_eq (by unfold usize; omega), ok_bind, if_pos hroom, ← bind_assoc,
          slice_signature (by omega) hshort, ok_bind]
        have hbefore : ∀ b < offset, offset ≤ b → 512 ∣ b → ∀ h', ¬Leads data b h' :=
          fun b hlt hle => absurd hlt (Nat.not_lt.2 hle)
        by_cases hsig : signatureAt data offset = idMpqArchive
        · -- the archive is here
          rw [if_pos hsig]
          exact .inl ⟨offset, offset, Nat.le_refl _, halign,
            .inl ⟨⟨hroom, hsig⟩, rfl⟩, hbefore, rfl⟩
        · rw [if_neg hsig]
          obtain ⟨o, ho, htarget⟩ := userDataTarget_eq hshort hroom
          rw [ho, ok_bind]
          cases o with
          | some t =>
              exact .inl ⟨offset, t, Nat.le_refl _, halign, .inr ((htarget t).1 rfl), hbefore, rfl⟩
          | none =>
              -- nothing here: what is found from the next offset on is the first
              have hhere : ∀ h', ¬Leads data offset h' := by
                rintro h' (⟨hs, rfl⟩ | hp)
                · exact hsig hs.2
                · exact absurd ((htarget h').2 hp) (fun h => nomatch h)
              have hnext : ∀ b, offset ≤ b → 512 ∣ b → offset + 512 ≤ b ∨ b = offset := by
                omega
              dsimp only
              rw [add_eq (by unfold usize; omega), ok_bind]
              rcases ih (by omega) hfuel' hoffset' halign' with
                ⟨a, h, hle, ha, hleads, hfirst, heq⟩ | ⟨hnone, heq⟩
              · refine .inl ⟨a, h, by omega, ha, hleads, fun b hlt hb hb' h' => ?_, heq⟩
                rcases hnext b hb hb' with hb'' | rfl
                · exact hfirst b hlt hb'' hb' h'
                · exact hhere h'
              · refine .inr ⟨fun b hb hb' h' => ?_, heq⟩
                rcases hnext b hb hb' with hb'' | rfl
                · exact hnone b hb'' hb' h'
                · exact hhere h'
      · -- the end
        refine .inr ⟨fun b hb _ h' hl => ?_, ?_⟩
        · have := hl.room
          omega
        · rw [add_eq (by unfold usize; omega), ok_bind, if_neg hroom]
          rfl

/-- The second search stops at the first header of those it visits. -/
theorem searchBytes_cases (hshort : data.length < 2 ^ 63) {left i : Nat}
    (hleft : i + left + 32 ≤ data.length) :
    (∃ j, i ≤ j ∧ j < i + left ∧ Stands data j ∧ (∀ k < j, i ≤ k → ¬Stands data k)
        ∧ MpqHeader.searchBytes data left i = MpqHeader.parseAt data j j)
      ∨ ((∀ k < i + left, i ≤ k → ¬Stands data k)
        ∧ MpqHeader.searchBytes data left i = .err .headerNotFound) := by
  induction left generalizing i with
  | zero => exact .inr ⟨fun k hlt hle => absurd hlt (by omega), rfl⟩
  | succ left ih =>
      unfold MpqHeader.searchBytes
      rw [← bind_assoc, slice_signature (by omega) hshort, ok_bind]
      by_cases hsig : signatureAt data i = idMpqArchive
      · rw [if_pos hsig]
        exact .inl ⟨i, Nat.le_refl _, by omega, ⟨by omega, hsig⟩, fun k hlt hle =>
          absurd hlt (by omega), rfl⟩
      · rw [if_neg hsig]
        have hhere : ¬Stands data i := fun hs => hsig hs.2
        rcases @ih (i + 1) (by omega) with ⟨j, hle, hlt, hs, hfirst, heq⟩ | ⟨hnone, heq⟩
        · refine .inl ⟨j, by omega, by omega, hs, fun k hk hik => ?_, heq⟩
          rcases Nat.eq_or_lt_of_le hik with rfl | hik
          · exact hhere
          · exact hfirst k hk hik
        · refine .inr ⟨fun k hk hik => ?_, heq⟩
          rcases Nat.eq_or_lt_of_le hik with rfl | hik
          · exact hhere
          · exact hnone k (by omega) hik

/-- What is located: the header that is there, or none, and none either
if it is in the last place only. -/
theorem locate_cases (hshort : data.length < 2 ^ 63) :
    (∃ a h, HeaderAt data a h ∧ ¬LastOnly data ∧ MpqHeader.locate data = MpqHeader.parseAt data a h)
      ∨ ((∀ i, ¬Stands data i) ∨ LastOnly data) ∧ MpqHeader.locate data = .err .headerNotFound := by
  unfold MpqHeader.locate headerSizeV1
  by_cases hlen : data.length < 32
  · refine .inr ⟨.inl fun i hs => ?_, if_pos hlen⟩
    have := hs.1
    omega
  · rw [if_neg hlen]
    -- first at the steps of 512, then at every byte
    rcases @searchAligned_cases data hshort _ 0 (Nat.succ_pos data.length) (by omega)
      (by omega) ⟨0, rfl⟩ with
      ⟨a, h, -, ha, hleads, hfirst, heq⟩ | ⟨hnone, heq⟩
    · have hd : HeaderAt data a h := .aligned ha hleads fun b hlt hb =>
        hfirst b hlt (Nat.zero_le b) hb
      refine .inl ⟨a, h, hd, fun hlast => ?_, ?_⟩
      · exact hlast.leads_nowhere a ha h hleads
      · rw [heq]
        cases MpqHeader.parseAt data a h <;> rfl
    · rw [heq, ok_bind]
      rcases @searchBytes_cases data hshort (data.length - 32) 0 (by omega) with
        ⟨j, -, hlt, hs, hfirst, heq⟩ | ⟨hmissed, heq⟩
      · have hd : HeaderAt data j j :=
          .scattered (fun a ha => hnone a (Nat.zero_le a) ha) hs fun k hk =>
            hfirst k hk (Nat.zero_le k)
        refine .inl ⟨j, j, hd, fun hlast => ?_, heq⟩
        obtain ⟨i, hi, -, -, hfirst', -⟩ := hlast
        exact hfirst' j (by omega) hs
      · refine .inr ⟨?_, heq⟩
        -- the second search stops one place short, so a header there is the one it misses
        by_cases hs : Stands data (data.length - 32)
        · refine .inr ⟨data.length - 32, by omega, fun hmod => ?_, hs, fun k hk =>
            ?_, fun a ha hp => ?_⟩
          · exact hnone _ (Nat.zero_le _) hmod _ (.inl ⟨hs, rfl⟩)
          · exact hmissed k (by omega) (Nat.zero_le k)
          · exact hnone a (Nat.zero_le a) ha _ (.inr hp)
        · refine .inl fun i hi => ?_
          rcases Nat.lt_or_ge i (data.length - 32) with hlt | hge
          · exact hmissed i (by omega) (Nat.zero_le i) hi
          · have hlast : i = data.length - 32 := by
              have := hi.1
              omega
            exact hs (hlast ▸ hi)

-- ========================================================= completeness

/-- The header is located: none is missed, and the one that is parsed is
where it ought to be. -/
structure LocatesHeader (data : List UInt8) : Prop where
  notFound : MpqHeader.locate data = .err .headerNotFound ↔ ¬∃ i, Stands data i
  found : ∀ a h, HeaderAt data a h → MpqHeader.locate data = MpqHeader.parseAt data a h

/-- Every header is located, but for one that is in the last place
only. -/
theorem header_found_iff (data : Slice) : LocatesHeader data.bytes ↔ ¬LastOnly data.bytes := by
  constructor
  · intro hlocates hlast
    rcases locate_cases data.short with ⟨a, h, -, hnot, -⟩ | ⟨-, heq⟩
    · exact hnot hlast
    · obtain ⟨i, hi⟩ := hlast.headerAt
      exact hlocates.notFound.1 heq ⟨i, hi.stands⟩
  · intro hnot
    rcases locate_cases data.short with ⟨a, h, hd, -, heq⟩ | ⟨hnone | hlast, heq⟩
    · refine ⟨?_, fun a' h' hd' => ?_⟩
      · rw [heq]
        exact iff_of_false (parseAt_ne_notFound data.short hd.room hd.stands.1)
          (not_not.2 ⟨h, hd.stands⟩)
      · obtain ⟨rfl, rfl⟩ := hd.unique hd'
        exact heq
    · refine ⟨iff_of_true heq fun ⟨i, hi⟩ => hnone i hi, fun a h hd => ?_⟩
      exact absurd hd.stands (hnone h)
    · exact absurd hlast hnot

/-- A byte, and a header behind it up to the end. -/
def lastHeader : List UInt8 := 0 :: (idMpqArchive ++ List.replicate 28 0)

/-- The header at offset 1, with exactly 32 bytes from there, is
missed. -/
theorem last_header_is_missed :
    MpqHeader.locate lastHeader = .err .headerNotFound ∧ Stands lastHeader 1
      ∧ ¬LocatesHeader lastHeader := by
  have hmissed : MpqHeader.locate lastHeader = .err .headerNotFound := by decide +kernel
  have hstands : Stands lastHeader 1 := by decide +kernel
  exact ⟨hmissed, hstands, fun h => h.notFound.1 hmissed ⟨1, hstands⟩⟩

end Spectre.Mpq

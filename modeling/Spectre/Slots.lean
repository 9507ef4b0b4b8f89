/-
The slot table (`slots.rs`) and the HCL encoding that writes a game
mode into its handicaps (`hcl.rs`).

Slot ids are `u8` indices. Where the source returns a `bool` the
function here returns the table together with it.
-/
import Spectre.Wire

namespace Spectre

/-- `SlotStatus::Open`. -/
def slotOpen : UInt8 := 0

/-- `SlotStatus::Closed`. -/
def slotClosed : UInt8 := 1

/-- `SlotStatus::Occupied`. -/
def slotOccupied : UInt8 := 2

/-- `MAX_SLOTS`. -/
def maxSlots : Nat := 24

/-- `SlotTable`. -/
abbrev SlotTable := List SlotInfo

namespace SlotTable

/-- `SlotTable::new`. -/
def new (numSlots : Nat) : SlotTable :=
  (List.range numSlots).map fun i =>
    { pid := 0, downloadStatus := 255, slotStatus := slotOpen, computer := 0
      team := (i / 6).toUInt8, colour := i.toUInt8, race := 0x20, computerType := 1
      handicap := 100 }

/-- `get_mut(sid)` and an update, reporting whether the slot exists. -/
def modify (t : SlotTable) (sid : UInt8) (f : SlotInfo → SlotInfo) : SlotTable × Bool :=
  if sid.toNat < t.length then (List.modify t sid.toNat f, true) else (t, false)

/-- `SlotTable::open`. -/
def openSlot (t : SlotTable) (sid : UInt8) : SlotTable × Bool :=
  t.modify sid fun s => { s with slotStatus := slotOpen, pid := 0 }

/-- `SlotTable::close`. -/
def close (t : SlotTable) (sid : UInt8) : SlotTable × Bool :=
  t.modify sid fun s => { s with slotStatus := slotClosed, pid := 0 }

/-- `SlotTable::swap_slots`. -/
def swapSlots (t : SlotTable) (a b : UInt8) (fixedSettings customForces : Bool) :
    SlotTable × Bool :=
  match t[a.toNat]?, t[b.toNat]? with
  | some slotA, some slotB =>
      if a = b then (t, false)
      else
        let newA := if fixedSettings then
            { slotA with
              pid := slotB.pid, downloadStatus := slotB.downloadStatus
              slotStatus := slotB.slotStatus, computer := slotB.computer
              computerType := slotB.computerType }
          else if customForces then { slotB with team := slotA.team } else slotB
        let newB := if fixedSettings then
            { slotB with
              pid := slotA.pid, downloadStatus := slotA.downloadStatus
              slotStatus := slotA.slotStatus, computer := slotA.computer
              computerType := slotA.computerType }
          else if customForces then { slotA with team := slotB.team } else slotA
        ((List.set t a.toNat newA).set b.toNat newB, true)
  | _, _ => (t, false)

/-- `SlotTable::swap`. -/
def swap (t : SlotTable) (a b : UInt8) : SlotTable × Bool := t.swapSlots a b false false

/-- `SlotTable::occupy_slot`. -/
def occupySlot (t : SlotTable) (sid pid : UInt8) : SlotTable × Bool :=
  t.modify sid fun s =>
    { s with slotStatus := slotOccupied, pid := pid, computer := 0, downloadStatus := 100 }

/-- `SlotTable::replace`. -/
def replace (t : SlotTable) (sid : UInt8) (info : SlotInfo) : SlotTable × Bool :=
  t.modify sid fun _ => info

/-- `SlotTable::sid_of_pid`. -/
def sidOfPid (t : SlotTable) (pid : UInt8) : Option UInt8 :=
  (t.findIdx? fun s => s.slotStatus == slotOccupied && s.pid == pid).map Nat.toUInt8

/-- `SlotTable::release`. -/
def release (t : SlotTable) (pid : UInt8) : SlotTable × Option UInt8 :=
  match t.sidOfPid pid with
  | some sid => ((t.openSlot sid).1, some sid)
  | none => (t, none)

/-- `SlotTable::first_open`. -/
def firstOpen (t : SlotTable) : Option UInt8 :=
  (t.findIdx? fun s => s.slotStatus == slotOpen).map Nat.toUInt8

/-- The first open slot of a team at an index in `from' .. to'`. -/
def openInTeam (t : SlotTable) (team : UInt8) (lo hi : Nat) : Option UInt8 :=
  ((List.range' lo (hi - lo)).find? fun i =>
    match t[i]? with
    | some s => s.slotStatus == slotOpen && s.team == team
    | none => false).map Nat.toUInt8

/-- `SlotTable::first_open_in_team_from`. -/
def firstOpenInTeamFrom (t : SlotTable) (startSid team : UInt8) : Option UInt8 :=
  match t[startSid.toNat]? with
  | none => none
  | some s =>
      let start := if s.team = team then startSid.toNat else 0
      (t.openInTeam team start t.length).or (t.openInTeam team 0 start)

/-- `SlotTable::unused_colour`. -/
def unusedColour (t : SlotTable) : UInt8 :=
  (((List.range maxSlots).find? fun c => !t.any fun s => s.colour == c.toUInt8).getD
    maxSlots).toUInt8

/-- `SlotTable::count_open`. -/
def countOpen (t : SlotTable) : Nat := t.countP fun s => s.slotStatus == slotOpen

/-- `SlotTable::is_open`. -/
def isOpen (t : SlotTable) (sid : UInt8) : Bool :=
  match t[sid.toNat]? with
  | some s => s.slotStatus == slotOpen
  | none => false

/-- `SlotTable::set_colour`. -/
def setColour (t : SlotTable) (sid colour : UInt8) : SlotTable × Bool :=
  t.modify sid fun s => { s with colour := colour }

/-- `SlotTable::open_all`. -/
def openAll (t : SlotTable) : SlotTable :=
  t.map fun s =>
    if s.slotStatus = slotClosed then { s with slotStatus := slotOpen, pid := 0 } else s

/-- `SlotTable::close_all`. -/
def closeAll (t : SlotTable) : SlotTable :=
  t.map fun s =>
    if s.slotStatus = slotOpen then { s with slotStatus := slotClosed, pid := 0 } else s

/-- `SlotTable::add_computer`. -/
def addComputer (t : SlotTable) (sid team colour race computerType handicap : UInt8) :
    SlotTable × Bool :=
  match t[sid.toNat]? with
  | some s =>
      if s.slotStatus = slotOccupied then (t, false)
      else t.modify sid fun s =>
        { s with
          slotStatus := slotOccupied, computer := 1, team := team, colour := colour
          race := race, computerType := computerType, handicap := handicap
          downloadStatus := 100 }
  | none => (t, false)

/-- `as_wire_mut().get_mut(slot)` of a computer slot, and an update of
it: the shape of the four `!comp…` commands. -/
def editComputer (t : SlotTable) (sid : UInt8) (f : SlotInfo → SlotInfo) : SlotTable × Bool :=
  match t[sid.toNat]? with
  | some s => if s.computer = 1 then t.modify sid f else (t, false)
  | none => (t, false)

/-- `as_wire_bytes`. -/
def asWireBytes (t : SlotTable) : List UInt8 := t.flatMap SlotInfo.encode

end SlotTable

-- ======================================================================= HCL

namespace Hcl

/-- The 41 characters a mode string may use. -/
def hclChars : Text := txt "abcdefghijklmnopqrstuvwxyz0123456789 -=,."

/-- `Hcl::parse_from_gamename`: the first word that is a dash and a
mode. -/
def parseFromGamename [RustStd] (gameName : Text) : Option Text :=
  (splitWhitespace gameName).findSome? fun word =>
    match word with
    | 45 :: mode =>
        if mode ≠ [] ∧ RustStd.allAlphanumeric mode then some (RustStd.toLowercase mode) else none
    | _ => none

/-- The handicap values a character may be stored as: every byte but
0, 50, 60, …, 100, in order. -/
def encodingMapFrom : Nat → UInt8 → List UInt8
  | 0, _ => []
  | n + 1, j =>
      let j := if j = 0 ∨ j = 50 ∨ j = 60 ∨ j = 70 ∨ j = 80 ∨ j = 90 ∨ j = 100 then j + 1 else j
      j :: encodingMapFrom n (j + 1)

/-- `encoding_map`. -/
def encodingMap : List UInt8 := encodingMapFrom 256 0

/-- The handicap that stores `ch` in a slot. -/
def encodeChar (ch handicap : UInt8) : UInt8 :=
  let handicapIndex := (handicap.toNat - 50) / 10
  let charIndex := (hclChars.findIdx? (· == ch)).getD 0
  encodingMap.getD (min (handicapIndex + charIndex * 6) 255) 0

/-- Write the characters into the occupied slots, in order. -/
def encodeFrom : Text → List SlotInfo → List SlotInfo
  | [], slots => slots
  | _, [] => []
  | ch :: rest, s :: slots =>
      if s.slotStatus = slotOccupied then
        { s with handicap := encodeChar ch s.handicap } :: encodeFrom rest slots
      else s :: encodeFrom (ch :: rest) slots

/-- `Hcl::encode_hcl_into_slots`. -/
def encodeHclIntoSlots (hcl : Text) (slots : SlotTable) : SlotTable × Bool :=
  if hcl = [] ∨ slots.countP (fun s => s.slotStatus == slotOccupied) < hcl.length then
    (slots, false)
  else if hcl.all fun c => hclChars.contains c then (encodeFrom hcl slots, true)
  else (slots, false)

end Hcl

end Spectre

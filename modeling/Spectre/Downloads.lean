/-
The window of a map transfer (`mapxfer.rs`).

A client reports how much of the map it has and is sent the rest in
parts. It sets both edges of its window itself: MAP_PART_OK moves the
acknowledged position, MAP_PART_NOT_OK both positions, anywhere up to
2^32. Each pump goes on where the last one stopped, up to a hundred
parts past the acknowledged position, for a limited number of clients
and a limited number of bytes a second.

What a download was sent is kept in a log beside the game: the parts
since it began or was last rewound, and the furthest position the client
has acknowledged since.
-/
import Mathlib.Data.List.Dedup
import Mathlib.Data.List.Perm.Subperm
import Spectre.Ledger
import Spectre.SeatEffects
import Spectre.Scenario

namespace Spectre

open GameState

-- ================================================================= operations

/-- What may happen to a map transfer: the frames of the clients, a pump
and the time between them. -/
inductive TransferOp where
  | mapSize (connId : Nat) (payload : List UInt8)
  | partOk (connId : Nat) (payload : List UInt8)
  | partNotOk (connId : Nat) (payload : List UInt8)
  | pump
  | wait (ms : Nat)

/-- A part of the map: where it starts and its bytes. -/
structure MapPart where
  start : Nat
  chunk : List UInt8

/-- What a download was sent since it began or was last rewound. -/
structure DownloadLog where
  start : Nat
  parts : List MapPart
  peak : Nat

/-- The log of a download that begins or is rewound. -/
def Download.fresh (d : Download) : DownloadLog := ⟨d.sentUpto, [], d.ackedUpto⟩

/-- The part a packet carries. -/
def Packet.mapPart? : Packet → Option MapPart
  | .mapPart _ _ start chunk => some ⟨start, chunk⟩
  | _ => none

/-- The parts among the packets for a player. -/
def partsFor (pid : UInt8) (packets : List (UInt8 × Packet)) : List MapPart :=
  packets.filterMap fun b => if b.1 = pid then b.2.mapPart? else none

/-- The bytes of the map among the packets. -/
def mapBytes (packets : List (UInt8 × Packet)) : Nat :=
  (packets.map fun b => (b.2.mapPart?.map fun p => p.chunk.length).getD 0).sum

namespace GameState

/-- One operation on the game. -/
def transfer [RustStd] (s : GameState) : TransferOp → GameState
  | .mapSize connId payload => s.handleMapSize connId payload
  | .partOk connId payload => s.handleMapPartOk connId payload
  | .partNotOk connId payload => s.handleMapPartNotOk connId payload
  | .pump => s.pumpDownloads
  | .wait ms => { s with now := s.now + ms }

/-- The packets a pump sends, each with its recipient. -/
def pumpParts (s : GameState) : List (UInt8 × Packet) :=
  if s.phase ≠ .lobby then []
  else match s.cfg.map.data with
    | none => []
    | some data => (pumpLoop s.hostPid data s.cfg.maxDownloaders (s.cfg.maxDownloadSpeed * 1024)
        s.downloads 0 s.resetDownloadCounter.downloadCounter).2.2

/-- A pump starts to count the bytes anew. -/
def resetsCounter (s : GameState) : Prop :=
  s.phase = .lobby ∧ secs 1 ≤ s.now - s.lastDownloadCounterReset

instance (s : GameState) : Decidable s.resetsCounter :=
  inferInstanceAs (Decidable (_ ∧ _))

/-- The download of a player. -/
def downloadOf (s : GameState) (pid : UInt8) : Option Download :=
  s.downloads.find? fun d => d.pid == pid

/-- A MAP_PART_NOT_OK of the player. -/
def rewinds (s : GameState) (pid : UInt8) (connId : Nat) (payload : List UInt8) : Bool :=
  (s.players.byConn connId).map Player.pid = some pid && (decodeMapPartNotOk payload).toBool

end GameState

/-- A game with the log of each download, and the bytes sent since the
counter was last reset. -/
structure Transfers where
  game : GameState
  log : UInt8 → DownloadLog
  spent : Nat

namespace Transfers

/-- A game at the start of its logs. -/
def begin (s : GameState) : Transfers :=
  ⟨s, fun pid => ((s.downloadOf pid).map Download.fresh).getD ⟨0, [], 0⟩, s.downloadCounter⟩

section Definitions

variable [RustStd]

/-- The log of a download after an operation. -/
def record (x : Transfers) (op : TransferOp) (pid : UInt8) : DownloadLog :=
  match x.game.downloadOf pid, (x.game.transfer op).downloadOf pid with
  | none, some d => d.fresh
  | some _, some d =>
      match op with
      | .partOk .. => { x.log pid with peak := max (x.log pid).peak d.ackedUpto }
      | .partNotOk connId payload =>
          if x.game.rewinds pid connId payload then d.fresh else x.log pid
      | .pump => { x.log pid with parts := (x.log pid).parts ++ partsFor pid x.game.pumpParts }
      | _ => x.log pid
  | _, none => x.log pid

/-- One operation. -/
def step (x : Transfers) (op : TransferOp) : Transfers :=
  ⟨x.game.transfer op, x.record op,
    match op with
    | .pump => (if x.game.resetsCounter then 0 else x.spent) + mapBytes x.game.pumpParts
    | _ => x.spent⟩

/-- All operations in turn. -/
def run (x : Transfers) (ops : List TransferOp) : Transfers := ops.foldl step x

end Definitions

end Transfers

-- ==================================================================== statement

/-- The bytes of a part are those of the map at its place. -/
structure MapPart.Slices (p : MapPart) (data : List UInt8) : Prop where
  inside : p.start < data.length
  chunk : p.chunk = (data.drop p.start).take (min (p.start + mapChunk) data.length - p.start)

/-- Parts that follow each other from one position to another. -/
inductive Contiguous (data : List UInt8) : Nat → List MapPart → Nat → Prop where
  | nil (pos : Nat) : Contiguous data pos [] pos
  | cons {p : MapPart} {parts : List MapPart} {stop : Nat} (slices : p.Slices data)
      (rest : Contiguous data (min (p.start + mapChunk) data.length) parts stop) :
      Contiguous data p.start (p :: parts) stop

/-- What a pump sends: slices of the map to downloads that are not
finished, and to no more of them than the configuration allows. -/
structure GameState.PumpsWell (s : GameState) (data : List UInt8) : Prop where
  sends : s.pumpDownloads.players = (s.pumpParts.foldl (fun s b => s.sendTo b.1 b.2) s).players
  parts : ∀ b ∈ s.pumpParts, ∃ p : MapPart,
    b.2 = .mapPart s.hostPid b.1 p.start p.chunk ∧ p.Slices data
  unfinished : ∀ b ∈ s.pumpParts, ∃ d ∈ s.downloads, d.pid = b.1 ∧ d.ackedUpto < data.length
  served : 0 < s.cfg.maxDownloaders →
    (s.pumpParts.map Prod.fst).dedup.length ≤ s.cfg.maxDownloaders

/-- The downloads are in their windows: the parts of each follow each
other up to the position it is at, which is no further than a hundred
and one parts past the acknowledged position, unless the client has
taken that back; and the bytes since the last reset exceed the limit by
less than a part. -/
structure Transfers.Windowed (x : Transfers) (data : List UInt8) : Prop where
  contiguous : ∀ d ∈ x.game.downloads,
    Contiguous data (x.log d.pid).start (x.log d.pid).parts d.sentUpto
  window : ∀ d ∈ x.game.downloads,
    d.ackedUpto < (x.log d.pid).peak ∨ d.sentUpto ≤ d.ackedUpto + 101 * mapChunk
  budget : 0 < x.game.cfg.maxDownloadSpeed →
    x.spent < x.game.cfg.maxDownloadSpeed * 1024 + mapChunk

/-- A game whose downloads, if there are any, are in their windows. -/
structure GameState.InWindow (s : GameState) : Prop where
  pids : (s.downloads.map Download.pid).Nodup
  window : ∀ d ∈ s.downloads, d.sentUpto ≤ d.ackedUpto + 101 * mapChunk
  budget : 0 < s.cfg.maxDownloadSpeed →
    s.downloadCounter < s.cfg.maxDownloadSpeed * 1024 + mapChunk

-- ======================================================================= parts

section Parts

variable {data : List UInt8}

/-- Parts that go on where others end. -/
theorem Contiguous.append {a b c : Nat} {ps qs : List MapPart} (h : Contiguous data a ps b)
    (h' : Contiguous data b qs c) : Contiguous data a (ps ++ qs) c := by
  induction h with
  | nil => exact h'
  | cons slices _ ih => exact .cons slices (ih h')

/-- Every one of the parts is a slice. -/
theorem Contiguous.slices {a b : Nat} {ps : List MapPart} (h : Contiguous data a ps b) :
    ∀ p ∈ ps, p.Slices data := by
  induction h with
  | nil => exact fun _ hp => (nomatch hp)
  | cons slices _ ih =>
      intro p hp
      rcases List.mem_cons.1 hp with rfl | hp
      · exact slices
      · exact ih p hp

/-- A part has at most the bytes of a chunk. -/
theorem MapPart.Slices.length {p : MapPart} (h : p.Slices data) :
    p.chunk.length = min (p.start + mapChunk) data.length - p.start
      ∧ p.chunk.length ≤ mapChunk := by
  have hin := h.inside
  have hlen : p.chunk.length = min (p.start + mapChunk) data.length - p.start := by
    rw [h.chunk, List.length_take, List.length_drop]
    omega
  omega

/-- The packets that carry parts to a player. -/
def packets (hostPid pid : UInt8) (parts : List MapPart) : List (UInt8 × Packet) :=
  parts.map fun p => (pid, .mapPart hostPid pid p.start p.chunk)

variable {hostPid pid : UInt8} {parts : List MapPart}

/-- The packets to a player carry its parts. -/
theorem mem_packets {b : UInt8 × Packet} (h : b ∈ packets hostPid pid parts) :
    b.1 = pid ∧ ∃ p ∈ parts, b.2 = .mapPart hostPid pid p.start p.chunk := by
  obtain ⟨p, hp, rfl⟩ := List.mem_map.1 h
  exact ⟨rfl, p, hp, rfl⟩

/-- All of them. -/
theorem partsFor_packets : partsFor pid (packets hostPid pid parts) = parts := by
  unfold partsFor packets
  rw [List.filterMap_map]
  refine (List.filterMap_congr fun p _ => ?_).trans List.filterMap_some
  exact if_pos rfl

/-- Packets for others carry no part for the player. -/
theorem partsFor_others {bs : List (UInt8 × Packet)} (h : ∀ b ∈ bs, b.1 ≠ pid) :
    partsFor pid bs = [] :=
  List.filterMap_eq_nil_iff.2 fun b hb => if_neg (h b hb)

/-- Packets in two parts. -/
theorem partsFor_append (pid : UInt8) (bs cs : List (UInt8 × Packet)) :
    partsFor pid (bs ++ cs) = partsFor pid bs ++ partsFor pid cs :=
  List.filterMap_append

/-- Their bytes add up. -/
theorem mapBytes_append (bs cs : List (UInt8 × Packet)) :
    mapBytes (bs ++ cs) = mapBytes bs + mapBytes cs := by
  unfold mapBytes
  rw [List.map_append, List.sum_append]

/-- What one round of the inner loop sends: parts that go on from the
position it begins at, and no more than a part past either limit. -/
theorem burst_spec (hostPid : UInt8) (d : Download) (hsmall : data.length < 2 ^ 32)
    (limit maxSpeed fuel pos counter : Nat) :
    ∃ parts, (burst hostPid d data limit maxSpeed fuel pos counter).2.2
        = packets hostPid d.pid parts
      ∧ Contiguous data pos parts (burst hostPid d data limit maxSpeed fuel pos counter).1
      ∧ (burst hostPid d data limit maxSpeed fuel pos counter).2.1
        = counter + mapBytes (packets hostPid d.pid parts)
      ∧ (burst hostPid d data limit maxSpeed fuel pos counter).1 ≤ max pos (limit + mapChunk)
      ∧ (0 < maxSpeed → counter < maxSpeed + mapChunk →
        (burst hostPid d data limit maxSpeed fuel pos counter).2.1 < maxSpeed + mapChunk) := by
  induction fuel generalizing pos counter with
  | zero => exact ⟨[], rfl, .nil pos, rfl, Nat.le_max_left _ _, fun _ h => h⟩
  | succ fuel ih =>
      have hstay : ∃ parts, ([] : List (UInt8 × Packet)) = packets hostPid d.pid parts
          ∧ Contiguous data pos parts pos
          ∧ counter = counter + mapBytes (packets hostPid d.pid parts)
          ∧ pos ≤ max pos (limit + mapChunk)
          ∧ (0 < maxSpeed → counter < maxSpeed + mapChunk → counter < maxSpeed + mapChunk) :=
        ⟨[], rfl, .nil pos, rfl, Nat.le_max_left _ _, fun _ h => h⟩
      unfold burst
      by_cases hmore : pos < limit ∧ pos < data.length % 2 ^ 32
          ∧ ¬(0 < maxSpeed ∧ maxSpeed ≤ counter)
      · rw [if_pos hmore]
        dsimp only
        rw [Nat.mod_eq_of_lt hsmall] at hmore
        obtain ⟨hlimit, hinside, hspeed⟩ := hmore
        split
        · rename_i b hb
          -- one part is sent, and the rest by the rounds to come
          have hslice : (⟨pos, (data.drop pos).take (min (pos + mapChunk) data.length - pos)⟩
              : MapPart).Slices data := ⟨hinside, rfl⟩
          have hlen := hslice.length
          have hb' : b = .mapPart hostPid d.pid pos
              ((data.drop pos).take (min (pos + mapChunk) data.length - pos)) := by
            unfold Packet.build at hb
            split at hb
            · exact (Option.some.inj hb).symm
            · cases hb
          have hstop : min (pos + mapChunk) data.length % 2 ^ 32
              = min (pos + mapChunk) data.length := by
            rw [Nat.mod_eq_of_lt]
            omega
          rw [hstop]
          obtain ⟨parts, hparts, hrun, hbytes, hreach, hbudget⟩ := ih
            (min (pos + mapChunk) data.length)
            (counter + (min (pos + mapChunk) data.length - pos))
          refine ⟨⟨pos, _⟩ :: parts, ?_, .cons hslice hrun, ?_, ?_, ?_⟩
          · rw [hparts, hb']
            rfl
          · rw [hbytes]
            show _ = counter + (_ + mapBytes (packets hostPid d.pid parts))
            rw [← Nat.add_assoc]
            congr 2
            exact hlen.1.symm
          · exact Nat.le_trans hreach (by omega)
          · intro hpos hcounter
            refine hbudget hpos ?_
            have := hlen.2
            rw [hlen.1] at this
            have hbelow : counter < maxSpeed := by
              by_contra hge
              exact hspeed ⟨hpos, Nat.le_of_not_lt hge⟩
            omega
        · exact hstay
      · rw [if_neg hmore]
        exact hstay

/-- Of a download, what a pump made of it. -/
structure Pumped (data : List UInt8) (d d' : Download) (parts : List MapPart) : Prop where
  pid : d'.pid = d.pid
  acked : d'.ackedUpto = d.ackedUpto
  run : Contiguous data d.sentUpto parts d'.sentUpto
  reach : d'.sentUpto ≤ max d.sentUpto (d.ackedUpto + 101 * mapChunk)

/-- A download that is passed over. -/
theorem Pumped.refl (d : Download) : Pumped data d d [] :=
  ⟨rfl, rfl, .nil _, Nat.le_max_left _ _⟩

/-- The packets of a pump: slices for downloads that are not finished,
no more of them than are left to serve. -/
structure Batch (hostPid : UInt8) (data : List UInt8) (ds : List Download) (left : Nat)
    (limited : Prop) (bs : List (UInt8 × Packet)) : Prop where
  parts : ∀ b ∈ bs, ∃ p : MapPart,
    b.2 = .mapPart hostPid b.1 p.start p.chunk ∧ p.Slices data
  unfinished : ∀ b ∈ bs, ∃ d ∈ ds, d.pid = b.1 ∧ d.ackedUpto < data.length
  served : limited → (bs.map Prod.fst).dedup.length ≤ left

/-- Nothing is sent. -/
theorem Batch.nil (ds : List Download) (left : Nat) (limited : Prop) :
    Batch hostPid data ds left limited [] :=
  ⟨fun _ hb => (nomatch hb), fun _ hb => (nomatch hb), fun _ => Nat.zero_le _⟩

/-- The batch of one download before that of the others. -/
theorem Batch.append {d : Download} {ds : List Download} {left : Nat} {limited : Prop}
    {bs : List (UInt8 × Packet)} {stop : Nat} (hd : d.ackedUpto < data.length)
    (hrun : Contiguous data d.sentUpto parts stop) (hleft : limited → 0 < left)
    (h : Batch hostPid data ds (left - 1) limited bs) :
    Batch hostPid data (d :: ds) left limited (packets hostPid d.pid parts ++ bs) where
  parts b hb := by
    rcases List.mem_append.1 hb with hb | hb
    · obtain ⟨hpid, p, hp, hpart⟩ := mem_packets hb
      exact ⟨p, hpid ▸ hpart, hrun.slices p hp⟩
    · exact h.parts b hb
  unfinished b hb := by
    rcases List.mem_append.1 hb with hb | hb
    · exact ⟨d, List.mem_cons_self, (mem_packets hb).1.symm, hd⟩
    · obtain ⟨e, he, hrest⟩ := h.unfinished b hb
      exact ⟨e, List.mem_cons_of_mem _ he, hrest⟩
  served hlimited := by
    have hrest := h.served hlimited
    have hone := hleft hlimited
    -- all packets of one download go to one player
    have hsub : (packets hostPid d.pid parts ++ bs).map Prod.fst
        ⊆ d.pid :: (bs.map Prod.fst).dedup := by
      intro pid hpid
      obtain ⟨b, hb, rfl⟩ := List.mem_map.1 hpid
      rcases List.mem_append.1 hb with hb | hb
      · rw [(mem_packets hb).1]
        exact List.mem_cons_self
      · exact List.mem_cons_of_mem _ (List.mem_dedup.2 (List.mem_map_of_mem hb))
    have hnd := List.nodup_dedup ((packets hostPid d.pid parts ++ bs).map Prod.fst)
    have hle := (List.Nodup.subperm hnd fun pid hpid =>
      hsub (List.mem_dedup.1 hpid)).length_le
    rw [List.length_cons] at hle
    omega

/-- What a pump makes of the downloads and what it sends. -/
theorem pumpLoop_spec (hostPid : UInt8) (hsmall : data.length < 2 ^ 32)
    (maxDownloaders maxSpeed : Nat) (ds : List Download) (hnd : (ds.map Download.pid).Nodup)
    (served counter : Nat)
    (hserved : 0 < maxDownloaders → served ≤ maxDownloaders) :
    (∀ d' ∈ (pumpLoop hostPid data maxDownloaders maxSpeed ds served counter).1, ∃ d ∈ ds,
        Pumped data d d' (partsFor d.pid
          (pumpLoop hostPid data maxDownloaders maxSpeed ds served counter).2.2))
      ∧ Batch hostPid data ds (maxDownloaders - served) (0 < maxDownloaders)
        (pumpLoop hostPid data maxDownloaders maxSpeed ds served counter).2.2
      ∧ (pumpLoop hostPid data maxDownloaders maxSpeed ds served counter).2.1
        = counter + mapBytes (pumpLoop hostPid data maxDownloaders maxSpeed ds served counter).2.2
      ∧ (0 < maxSpeed → counter < maxSpeed + mapChunk →
        (pumpLoop hostPid data maxDownloaders maxSpeed ds served counter).2.1
          < maxSpeed + mapChunk) := by
  induction ds generalizing served counter with
  | nil => exact ⟨fun _ hd => (nomatch hd), .nil _ _ _, rfl, fun _ h => h⟩
  | cons d ds ih =>
      obtain ⟨hfresh, hnd⟩ := List.nodup_cons.1 hnd
      have hothers : ∀ {bs : List (UInt8 × Packet)} {left : Nat} {limited : Prop},
          Batch hostPid data ds left limited bs → partsFor d.pid bs = [] := by
        intro bs left limited hbatch
        refine partsFor_others fun b hb hpid => ?_
        obtain ⟨e, he, hepid, -⟩ := hbatch.unfinished b hb
        exact hfresh (hpid ▸ hepid ▸ List.mem_map_of_mem he)
      unfold pumpLoop
      rw [Nat.mod_eq_of_lt hsmall]
      by_cases hdone : data.length ≤ d.ackedUpto
      · -- a finished download is passed over
        rw [if_pos hdone]
        dsimp only
        obtain ⟨hds, hbatch, hbytes, hbudget⟩ := ih hnd served counter hserved
        refine ⟨fun d' hd' => ?_, ?_, hbytes, hbudget⟩
        · rcases List.mem_cons.1 hd' with rfl | hd'
          · refine ⟨d', List.mem_cons_self, ?_⟩
            rw [hothers hbatch]
            exact .refl d'
          · obtain ⟨e, he, hpumped⟩ := hds d' hd'
            exact ⟨e, List.mem_cons_of_mem _ he, hpumped⟩
        · refine ⟨hbatch.parts, fun b hb => ?_, hbatch.served⟩
          obtain ⟨e, he, hrest⟩ := hbatch.unfinished b hb
          exact ⟨e, List.mem_cons_of_mem _ he, hrest⟩
      rw [if_neg hdone]
      by_cases hfull : 0 < maxDownloaders ∧ maxDownloaders < served + 1
      · -- everybody who may be served is
        rw [if_pos hfull]
        exact ⟨fun d' hd' => ⟨d', hd', .refl d'⟩, .nil _ _ _, rfl, fun _ h => h⟩
      rw [if_neg hfull]
      dsimp only
      generalize hlimit : min (d.ackedUpto + mapChunk * 100) (2 ^ 32 - 1) = limit
      obtain ⟨parts, hparts, hrun, hone, hreach, hburst⟩ :=
        burst_spec hostPid d hsmall limit maxSpeed data.length d.sentUpto counter
      generalize burst hostPid d data limit maxSpeed data.length d.sentUpto counter = r
        at hparts hrun hone hreach hburst ⊢
      obtain ⟨hds, hbatch, hbytes, hbudget⟩ := ih hnd (served + 1) r.2.1 (by omega)
      refine ⟨fun d' hd' => ?_, ?_, ?_, fun hpos hcounter => hbudget hpos (hburst hpos hcounter)⟩
      · rw [hparts]
        rcases List.mem_cons.1 hd' with rfl | hd'
        · refine ⟨d, List.mem_cons_self, rfl, rfl, ?_, ?_⟩
          · rw [partsFor_append, partsFor_packets, hothers hbatch, List.append_nil]
            exact hrun
          · refine Nat.le_trans hreach ?_
            have hchunk : 101 * mapChunk = mapChunk * 100 + mapChunk := by decide
            omega
        · obtain ⟨e, he, hpumped⟩ := hds d' hd'
          refine ⟨e, List.mem_cons_of_mem _ he, ?_⟩
          have hne : d.pid ≠ e.pid := fun heq => hfresh (heq ▸ List.mem_map_of_mem he)
          rw [partsFor_append, partsFor_others fun b hb => (mem_packets hb).1.trans_ne hne]
          exact hpumped
      · rw [hparts]
        exact Batch.append (Nat.lt_of_not_le hdone) hrun (by omega)
          (by rw [Nat.sub_sub]; exact hbatch)
      · rw [hparts, mapBytes_append, hbytes, hone, Nat.add_assoc]

end Parts

-- ====================================================================== a pump

namespace GameState

variable {s t : GameState} {data : List UInt8}

/-- The log of the finished downloads goes to the store. -/
theorem logDownloads_eq (total : Nat) (ds : List Download) (s : GameState) :
    ∃ store, ds.foldl (fun s d => s.logDownload total d) s = { s with store := store } := by
  induction ds generalizing s with
  | nil => exact ⟨s.store, rfl⟩
  | cons d ds ih =>
      obtain ⟨store, hone⟩ : ∃ store, s.logDownload total d = { s with store := store } := by
        unfold logDownload
        split
        · exact ⟨_, rfl⟩
        · exact ⟨s.store, rfl⟩
      obtain ⟨store', hrest⟩ := ih (s.logDownload total d)
      exact ⟨store', by rw [List.foldl_cons, hrest, hone]⟩

/-- What is sent depends on the table and the time only. -/
theorem foldl_sendTo_players (bs : List (UInt8 × Packet)) (hplayers : s.players = t.players)
    (hnow : s.now = t.now) :
    (bs.foldl (fun s b => s.sendTo b.1 b.2) s).players
      = (bs.foldl (fun s b => s.sendTo b.1 b.2) t).players := by
  induction bs generalizing s t with
  | nil => exact hplayers
  | cons b bs ih =>
      refine ih ?_ hnow
      show s.players.modifyPid b.1 (fun p => p.receive s.now b.2) = _
      rw [hplayers, hnow]
      rfl

/-- Sending leaves the downloads alone. -/
theorem foldl_sendTo_aside (bs : List (UInt8 × Packet)) (s : GameState) :
    (bs.foldl (fun s b => s.sendTo b.1 b.2) s).aside = s.aside :=
  foldl_aside (f := fun s b => s.sendTo b.1 b.2) (fun _ _ => rfl) bs s

/-- The counter apart, its reset changes nothing a pump looks at. -/
theorem resetDownloadCounter_spec (s : GameState) :
    s.resetDownloadCounter.cfg = s.cfg ∧ s.resetDownloadCounter.downloads = s.downloads
      ∧ s.resetDownloadCounter.players = s.players ∧ s.resetDownloadCounter.now = s.now
      ∧ s.resetDownloadCounter.hostPid = s.hostPid
      ∧ s.resetDownloadCounter.downloadCounter
        = if secs 1 ≤ s.now - s.lastDownloadCounterReset then 0 else s.downloadCounter := by
  unfold resetDownloadCounter
  split
  · exact ⟨rfl, rfl, rfl, rfl, rfl, rfl⟩
  · exact ⟨rfl, rfl, rfl, rfl, rfl, rfl⟩

/-- A pump in the lobby of a game with a map. -/
theorem pumpDownloads_spec (hlobby : s.phase = .lobby) (hdata : s.cfg.map.data = some data)
    {r : List Download × Nat × List (UInt8 × Packet)}
    (hr : pumpLoop s.hostPid data s.cfg.maxDownloaders (s.cfg.maxDownloadSpeed * 1024) s.downloads 0
      s.resetDownloadCounter.downloadCounter = r) :
    s.pumpParts = r.2.2 ∧ s.pumpDownloads.cfg = s.cfg
      ∧ s.pumpDownloads.downloads
        = r.1.filter (fun d => decide (d.ackedUpto < data.length % 2 ^ 32))
      ∧ s.pumpDownloads.downloadCounter = r.2.1
      ∧ s.pumpDownloads.players = (r.2.2.foldl (fun s b => s.sendTo b.1 b.2) s).players := by
  obtain ⟨hcfg, hdownloads, hplayers, hnow, hhost, -⟩ := s.resetDownloadCounter_spec
  unfold pumpParts pumpDownloads
  rw [if_neg (not_not.2 hlobby), if_neg (not_not.2 hlobby), hdata]
  dsimp only
  unfold pumpData
  rw [hcfg, hdownloads, hhost, hr]
  obtain ⟨ds, counter, bs⟩ := r
  dsimp only
  obtain ⟨store, hlog⟩ := logDownloads_eq (data.length % 2 ^ 32)
    (ds.filter fun d => decide (data.length % 2 ^ 32 ≤ d.ackedUpto)) s.resetDownloadCounter
  rw [hlog]
  have haside := foldl_sendTo_aside bs ({ s.resetDownloadCounter with
    store := store, downloads := ds.filter fun d => decide (d.ackedUpto < data.length % 2 ^ 32)
    downloadCounter := counter } : GameState)
  obtain ⟨-, hcfg', hds', hcounter', -⟩ :
      _ ∧ _ ∧ _ ∧ _ ∧ _ := by simpa [aside] using haside
  refine ⟨rfl, hcfg'.trans hcfg, hds', hcounter', ?_⟩
  exact foldl_sendTo_players bs hplayers hnow

/-- What a game looks like aside is the same in these fields. -/
theorem fields_of_aside (h : t.aside = s.aside) :
    t.cfg = s.cfg ∧ t.downloads = s.downloads ∧ t.downloadCounter = s.downloadCounter := by
  obtain ⟨-, hcfg, hdownloads, hcounter, -⟩ :
    _ ∧ _ ∧ _ ∧ _ ∧ _ := by simpa [aside] using h
  exact ⟨hcfg, hdownloads, hcounter⟩

/-- A map report leaves the downloads alone or begins one, for a player
that has none. -/
theorem handleMapSize_cases [RustStd] (s : GameState) (connId : Nat) (payload : List UInt8) :
    (s.handleMapSize connId payload).aside = s.aside
      ∨ ∃ pid pos, (∀ d ∈ s.downloads, d.pid ≠ pid)
        ∧ (s.handleMapSize connId payload).cfg = s.cfg
        ∧ (s.handleMapSize connId payload).downloads = s.downloads ++ [⟨pid, pos, pos, s.now⟩]
        ∧ (s.handleMapSize connId payload).downloadCounter = s.downloadCounter := by
  unfold handleMapSize
  split
  · exact .inl rfl
  rename_i q _
  dsimp only
  split
  · exact .inl rfl
  split
  · exact .inl rfl
  rename_i mapSize _
  split
  · exact .inl rfl
  split
  · exact .inl (reapLeftPlayers_aside _)
  split
  · exact .inl rfl
  split
  · exact .inl rfl
  rename_i hnone
  refine .inr ⟨q.pid, mapSize, fun d hd heq => hnone ?_, rfl, rfl, rfl⟩
  exact List.any_eq_true.2 ⟨d, hd, beq_iff_eq.2 heq⟩

end GameState

-- =================================================================== the windows

/-- The log fits its download: the parts lead to its position, and that
is no further than a hundred and one parts past the furthest
acknowledged one. -/
structure DownloadLog.Fits (l : DownloadLog) (data : List UInt8) (d : Download) : Prop where
  contiguous : Contiguous data l.start l.parts d.sentUpto
  acked : d.ackedUpto ≤ l.peak
  reach : d.sentUpto ≤ l.peak + 101 * mapChunk

/-- A download that begins in its window has sent nothing. -/
theorem Download.fresh_fits {data : List UInt8} {d : Download}
    (h : d.sentUpto ≤ d.ackedUpto + 101 * mapChunk) : d.fresh.Fits data d :=
  ⟨.nil _, Nat.le_refl _, h⟩

/-- A new acknowledgement, further on or back. -/
theorem DownloadLog.Fits.ack {l : DownloadLog} {data : List UInt8} {d : Download}
    (h : l.Fits data d) (acked : Nat) :
    DownloadLog.Fits { l with peak := max l.peak acked } data { d with ackedUpto := acked } where
  contiguous := h.contiguous
  acked := Nat.le_max_right _ _
  reach := by
    have hreach := h.reach
    show d.sentUpto ≤ max l.peak acked + _
    omega

/-- The parts of a pump. -/
theorem DownloadLog.Fits.pump {l : DownloadLog} {data : List UInt8} {d d' : Download}
    {parts : List MapPart} (h : l.Fits data d) (hd : Pumped data d d' parts) :
    DownloadLog.Fits { l with parts := l.parts ++ parts } data d' where
  contiguous := h.contiguous.append hd.run
  acked := hd.acked ▸ h.acked
  reach := by
    have hreach := h.reach
    have hacked := h.acked
    have hpump := hd.reach
    show d'.sentUpto ≤ l.peak + _
    omega

namespace Transfers

/-- The invariant: the game has the map and one download a player at
most, every log fits its download, and the counter counts the bytes. -/
structure KeepsWindow (x : Transfers) (data : List UInt8) : Prop where
  map : x.game.cfg.map.data = some data
  pids : (x.game.downloads.map Download.pid).Nodup
  fits : ∀ d ∈ x.game.downloads, (x.log d.pid).Fits data d
  spent : x.spent = x.game.downloadCounter
  budget : 0 < x.game.cfg.maxDownloadSpeed →
    x.game.downloadCounter < x.game.cfg.maxDownloadSpeed * 1024 + mapChunk

end Transfers

/-- The download of a player is found. -/
theorem downloadOf_of_mem {s : GameState} (hnd : (s.downloads.map Download.pid).Nodup)
    {d : Download} (hd : d ∈ s.downloads) : s.downloadOf d.pid = some d :=
  Lib.find?_key_of_mem hnd hd

namespace Transfers

namespace KeepsWindow

variable [RustStd] {x : Transfers} {data : List UInt8} {op : TransferOp}

/-- A frame keeps the windows if every download after it fits the log it
has then. -/
theorem of_fits (h : KeepsWindow x data) (hcfg : (x.game.transfer op).cfg = x.game.cfg)
    (hpids : ((x.game.transfer op).downloads.map Download.pid).Nodup)
    (hcounter : (x.game.transfer op).downloadCounter = x.game.downloadCounter)
    (hspent : (x.step op).spent = x.spent)
    (hfits : ∀ d ∈ (x.game.transfer op).downloads, (x.record op d.pid).Fits data d) :
    KeepsWindow (x.step op) data := by
  refine ⟨?_, hpids, hfits, hspent.trans (h.spent.trans hcounter.symm), ?_⟩
  · show (x.game.transfer op).cfg.map.data = some data
    rw [hcfg]
    exact h.map
  · show 0 < (x.game.transfer op).cfg.maxDownloadSpeed → (x.game.transfer op).downloadCounter
      < (x.game.transfer op).cfg.maxDownloadSpeed * 1024 + mapChunk
    rw [hcfg, hcounter]
    exact h.budget

/-- A map report keeps the logs and begins one where it begins a
download. -/
theorem mapSize (h : KeepsWindow x data) (connId : Nat) (payload : List UInt8) :
    KeepsWindow (x.step (.mapSize connId payload)) data := by
  have hold : ∀ d ∈ x.game.downloads,
      (x.game.transfer (.mapSize connId payload)).downloadOf d.pid = some d →
        (x.record (.mapSize connId payload) d.pid).Fits data d := by
    intro d hd hafter
    unfold record
    rw [downloadOf_of_mem h.pids hd, hafter]
    exact h.fits d hd
  rcases handleMapSize_cases x.game connId payload with haside |
    ⟨pid, pos, hnew, hcfg, hds, hcounter⟩
  · obtain ⟨hcfg, hds, hcounter⟩ := fields_of_aside haside
    have hpids : ((x.game.transfer (.mapSize connId payload)).downloads.map Download.pid).Nodup :=
      hds ▸ h.pids
    refine h.of_fits hcfg hpids hcounter rfl fun d hd => ?_
    exact hold d (hds ▸ hd) (downloadOf_of_mem hpids hd)
  · have hpids :
        ((x.game.transfer (.mapSize connId payload)).downloads.map Download.pid).Nodup := by
      show ((x.game.handleMapSize connId payload).downloads.map Download.pid).Nodup
      rw [hds, List.map_append, List.nodup_append]
      refine ⟨h.pids, List.nodup_singleton _, fun a ha b hb heq => ?_⟩
      obtain ⟨d, hd, rfl⟩ := List.mem_map.1 ha
      exact hnew d hd (heq.trans (List.mem_singleton.1 hb))
    refine h.of_fits hcfg hpids hcounter rfl fun d hd => ?_
    have hafter := downloadOf_of_mem hpids hd
    have hd' : d ∈ x.game.downloads ++ [⟨pid, pos, pos, x.game.now⟩] := hds ▸ hd
    rcases List.mem_append.1 hd' with hd' | hd'
    · exact hold d hd' hafter
    · -- the download that begins
      have hnone : x.game.downloadOf d.pid = none := by
        rw [List.mem_singleton.1 hd']
        exact List.find?_eq_none.2 fun e he => by simpa using hnew e he
      have hat : d.sentUpto = d.ackedUpto := by rw [List.mem_singleton.1 hd']
      unfold record
      rw [hnone, hafter]
      exact Download.fresh_fits (by omega)

omit [RustStd] in
/-- The downloads after a change of one player's. -/
theorem modifyDownload_spec {s : GameState} (hnd : (s.downloads.map Download.pid).Nodup)
    (pid : UInt8) {f : Download → Download} (hf : ∀ d, (f d).pid = d.pid) :
    (s.modifyDownload pid f).downloads.map Download.pid = s.downloads.map Download.pid
      ∧ ∀ d' ∈ (s.modifyDownload pid f).downloads, ∃ d ∈ s.downloads,
        d.pid = d'.pid ∧ d' = if d.pid = pid then f d else d := by
  have hds : (s.modifyDownload pid f).downloads
      = s.downloads.map fun d => if d.pid == pid then f d else d := Lib.updateFirst_key hnd
  have hkeep : ∀ d : Download, (if d.pid == pid then f d else d).pid = d.pid := by
    intro d
    split
    · exact hf d
    · rfl
  rw [hds, List.map_map]
  refine ⟨List.map_congr_left fun d _ => hkeep d, fun d' hd' => ?_⟩
  obtain ⟨d, hd, rfl⟩ := List.mem_map.1 hd'
  refine ⟨d, hd, (hkeep d).symm, ?_⟩
  simp only [beq_iff_eq]

/-- An acknowledgement, further on or back. -/
theorem partOk (h : KeepsWindow x data) (connId : Nat) (payload : List UInt8) :
    KeepsWindow (x.step (.partOk connId payload)) data := by
  obtain ⟨hcfg, hcounter, hpids, hacked⟩ :
      (x.game.handleMapPartOk connId payload).cfg = x.game.cfg
        ∧ (x.game.handleMapPartOk connId payload).downloadCounter = x.game.downloadCounter
        ∧ (x.game.handleMapPartOk connId payload).downloads.map Download.pid
          = x.game.downloads.map Download.pid
        ∧ ∀ d' ∈ (x.game.handleMapPartOk connId payload).downloads, ∃ d ∈ x.game.downloads,
          d.pid = d'.pid ∧ d' = { d with ackedUpto := d'.ackedUpto } := by
    unfold handleMapPartOk
    split
    · rename_i p acked _ _
      obtain ⟨hpids, hds⟩ := modifyDownload_spec h.pids p.pid
        (f := fun d => { d with ackedUpto := acked }) fun _ => rfl
      refine ⟨rfl, rfl, hpids, fun d' hd' => ?_⟩
      obtain ⟨d, hd, hpid, heq⟩ := hds d' hd'
      refine ⟨d, hd, hpid, ?_⟩
      split at heq
      · rw [heq]
      · rw [heq]
    · exact ⟨rfl, rfl, rfl, fun d hd => ⟨d, hd, rfl, rfl⟩⟩
  have hnd : ((x.game.transfer (.partOk connId payload)).downloads.map Download.pid).Nodup :=
    hpids ▸ h.pids
  refine h.of_fits hcfg hnd hcounter rfl fun d' hd' => ?_
  have hafter := downloadOf_of_mem hnd hd'
  obtain ⟨d, hd, hpid, heq⟩ := hacked d' hd'
  have hbefore := downloadOf_of_mem h.pids hd
  rw [hpid] at hbefore
  unfold record
  rw [hbefore, hafter, ← hpid]
  have hfit := (h.fits d hd).ack d'.ackedUpto
  rwa [← heq] at hfit

/-- A rewind. -/
theorem partNotOk (h : KeepsWindow x data) (connId : Nat) (payload : List UInt8) :
    KeepsWindow (x.step (.partNotOk connId payload)) data := by
  obtain ⟨hcfg, hcounter, hpids, hmoved⟩ :
      (x.game.handleMapPartNotOk connId payload).cfg = x.game.cfg
        ∧ (x.game.handleMapPartNotOk connId payload).downloadCounter = x.game.downloadCounter
        ∧ (x.game.handleMapPartNotOk connId payload).downloads.map Download.pid
          = x.game.downloads.map Download.pid
        ∧ ∀ d' ∈ (x.game.handleMapPartNotOk connId payload).downloads, ∃ d ∈ x.game.downloads,
          d.pid = d'.pid
            ∧ if x.game.rewinds d'.pid connId payload then d'.sentUpto = d'.ackedUpto
              else d' = d := by
    unfold handleMapPartNotOk rewinds
    split
    · -- both ends of the window go back to the position the frame names
      rename_i p pos hp hpos
      obtain ⟨hpids, hds⟩ := modifyDownload_spec h.pids p.pid
        (f := fun d => { d with sentUpto := pos, ackedUpto := pos }) fun _ => rfl
      refine ⟨rfl, rfl, hpids, fun d' hd' => ?_⟩
      obtain ⟨d, hd, hpid, heq⟩ := hds d' hd'
      refine ⟨d, hd, hpid, ?_⟩
      rw [hp, hpos, ← hpid]
      split at heq
      · rename_i hwho
        rw [if_pos (by simp [hwho, Except.toBool]), heq]
      · rename_i hwho
        rw [if_neg (by simpa [Except.toBool] using fun he => hwho he.symm), heq]
    · -- a frame that does not decode, or whose sender is nobody, moves no download
      rename_i hno
      refine ⟨rfl, rfl, rfl, fun d hd => ⟨d, hd, rfl, ?_⟩⟩
      rw [if_neg]
      intro hrewinds
      rw [Bool.and_eq_true, decide_eq_true_eq, Option.map_eq_some_iff] at hrewinds
      obtain ⟨⟨p, hp, -⟩, hok⟩ := hrewinds
      cases hdec : decodeMapPartNotOk payload with
      | error e =>
          rw [hdec] at hok
          cases hok
      | ok pos => exact hno p pos hp hdec
  have hnd : ((x.game.transfer (.partNotOk connId payload)).downloads.map Download.pid).Nodup :=
    hpids ▸ h.pids
  refine h.of_fits hcfg hnd hcounter rfl fun d' hd' => ?_
  have hafter := downloadOf_of_mem hnd hd'
  obtain ⟨d, hd, hpid, hmove⟩ := hmoved d' hd'
  have hbefore := downloadOf_of_mem h.pids hd
  rw [hpid] at hbefore
  unfold record
  rw [hbefore, hafter]
  dsimp only
  by_cases hrewinds : x.game.rewinds d'.pid connId payload = true
  · rw [if_pos hrewinds] at hmove ⊢
    exact Download.fresh_fits (by omega)
  · rw [if_neg hrewinds] at hmove ⊢
    rw [hmove]
    exact h.fits d hd

/-- A pump goes on where the last one stopped. -/
theorem pump (h : KeepsWindow x data) (hsmall : data.length < 2 ^ 32) :
    KeepsWindow (x.step .pump) data := by
  by_cases hlobby : x.game.phase = .lobby
  · generalize hr : pumpLoop x.game.hostPid data x.game.cfg.maxDownloaders
      (x.game.cfg.maxDownloadSpeed * 1024) x.game.downloads 0
      x.game.resetDownloadCounter.downloadCounter = r
    obtain ⟨hparts, hcfg, hds, hcounter, -⟩ := pumpDownloads_spec hlobby h.map hr
    have hloop := pumpLoop_spec x.game.hostPid hsmall x.game.cfg.maxDownloaders
      (x.game.cfg.maxDownloadSpeed * 1024) x.game.downloads h.pids 0
        x.game.resetDownloadCounter.downloadCounter (by omega)
    have hpids := pumpLoop_pids x.game.hostPid data x.game.cfg.maxDownloaders
      (x.game.cfg.maxDownloadSpeed * 1024) x.game.downloads 0
      x.game.resetDownloadCounter.downloadCounter
    rw [hr] at hloop hpids
    obtain ⟨hpumped, -, hbytes, hbudget⟩ := hloop
    obtain ⟨-, -, -, -, -, hreset⟩ := x.game.resetDownloadCounter_spec
    have hnd : ((x.game.transfer .pump).downloads.map Download.pid).Nodup := by
      show (x.game.pumpDownloads.downloads.map Download.pid).Nodup
      rw [hds]
      exact (List.filter_sublist.map _).nodup (hpids ▸ h.pids)
    refine ⟨?_, hnd, fun d' hd' => ?_, ?_, ?_⟩
    · show x.game.pumpDownloads.cfg.map.data = some data
      rw [hcfg]
      exact h.map
    · have hafter := downloadOf_of_mem hnd hd'
      have hmem : d' ∈ r.1 := List.mem_of_mem_filter (hds ▸ hd')
      obtain ⟨d, hd, hmade⟩ := hpumped d' hmem
      have hbefore := downloadOf_of_mem h.pids hd
      rw [← hmade.pid] at hbefore
      show (x.record .pump d'.pid).Fits data d'
      unfold record
      rw [hbefore, hafter, hparts, hmade.pid]
      exact (h.fits d hd).pump hmade
    · show (if x.game.resetsCounter then 0 else x.spent) + mapBytes x.game.pumpParts
        = x.game.pumpDownloads.downloadCounter
      rw [hparts, hcounter, hbytes, hreset, h.spent]
      congr 1
      by_cases hdue : secs 1 ≤ x.game.now - x.game.lastDownloadCounterReset
      · rw [if_pos hdue, if_pos ⟨hlobby, hdue⟩]
      · rw [if_neg hdue, if_neg fun hresets => hdue hresets.2]
    · show 0 < x.game.pumpDownloads.cfg.maxDownloadSpeed → x.game.pumpDownloads.downloadCounter
        < x.game.pumpDownloads.cfg.maxDownloadSpeed * 1024 + mapChunk
      rw [hcfg, hcounter]
      intro hpos
      refine hbudget (by omega) ?_
      rw [hreset]
      have hlimit := h.budget hpos
      split
      · omega
      · exact hlimit
  · -- a game that has started is left alone
    have hsame : x.game.pumpDownloads = x.game := if_pos hlobby
    have hnone : x.game.pumpParts = [] := if_pos hlobby
    refine ⟨?_, ?_, fun d hd => ?_, ?_, ?_⟩
    · show x.game.pumpDownloads.cfg.map.data = some data
      rw [hsame]
      exact h.map
    · show (x.game.pumpDownloads.downloads.map Download.pid).Nodup
      rw [hsame]
      exact h.pids
    · have hmem : d ∈ x.game.downloads := by
        rw [← hsame]
        exact hd
      show (x.record .pump d.pid).Fits data d
      unfold record
      rw [show x.game.transfer .pump = x.game from hsame, downloadOf_of_mem h.pids hmem, hnone]
      show DownloadLog.Fits { x.log d.pid with parts := (x.log d.pid).parts ++ [] } data d
      rw [List.append_nil]
      exact h.fits d hmem
    · show (if x.game.resetsCounter then 0 else x.spent) + mapBytes x.game.pumpParts
        = x.game.pumpDownloads.downloadCounter
      rw [hsame, hnone, if_neg fun hresets => hlobby hresets.1]
      exact h.spent
    · show 0 < x.game.pumpDownloads.cfg.maxDownloadSpeed → x.game.pumpDownloads.downloadCounter
        < x.game.pumpDownloads.cfg.maxDownloadSpeed * 1024 + mapChunk
      rw [hsame]
      exact h.budget

/-- Every operation keeps the windows. -/
theorem step (h : KeepsWindow x data) (hsmall : data.length < 2 ^ 32) (op : TransferOp) :
    KeepsWindow (x.step op) data := by
  cases op with
  | mapSize connId payload => exact h.mapSize connId payload
  | partOk connId payload => exact h.partOk connId payload
  | partNotOk connId payload => exact h.partNotOk connId payload
  | pump => exact h.pump hsmall
  | wait ms =>
      refine h.of_fits rfl h.pids rfl rfl fun d hd => ?_
      have hsame := downloadOf_of_mem h.pids hd
      unfold record
      rw [hsame, show (x.game.transfer (.wait ms)).downloadOf d.pid = some d from hsame]
      exact h.fits d hd

/-- So do all of them. -/
theorem run (h : KeepsWindow x data) (hsmall : data.length < 2 ^ 32) (ops : List TransferOp) :
    KeepsWindow (x.run ops) data := by
  induction ops generalizing x with
  | nil => exact h
  | cons op ops ih => exact ih (h.step hsmall op)

end KeepsWindow

/-- At the start of the logs they are empty. -/
theorem keepsWindow_begin {s : GameState} {data : List UInt8} (hdata : s.cfg.map.data = some data)
    (h : s.InWindow) : KeepsWindow (begin s) data where
  map := hdata
  pids := h.pids
  fits d hd := by
    show DownloadLog.Fits (((s.downloadOf d.pid).map Download.fresh).getD _) data d
    rw [downloadOf_of_mem h.pids hd]
    exact Download.fresh_fits (h.window d hd)
  spent := rfl
  budget := h.budget

/-- What the invariant says of the downloads. -/
theorem KeepsWindow.windowed {x : Transfers} {data : List UInt8} (h : KeepsWindow x data) :
    x.Windowed data where
  contiguous d hd := (h.fits d hd).contiguous
  window d hd := by
    have hacked := (h.fits d hd).acked
    have hreach := (h.fits d hd).reach
    omega
  budget hpos := h.spent ▸ h.budget hpos

/-- What it says of the next pump. -/
theorem KeepsWindow.pumpsWell {x : Transfers} {data : List UInt8} (h : KeepsWindow x data)
    (hsmall : data.length < 2 ^ 32) : x.game.PumpsWell data := by
  by_cases hlobby : x.game.phase = .lobby
  · generalize hr : pumpLoop x.game.hostPid data x.game.cfg.maxDownloaders
      (x.game.cfg.maxDownloadSpeed * 1024) x.game.downloads 0
      x.game.resetDownloadCounter.downloadCounter = r
    obtain ⟨hparts, -, -, -, hplayers⟩ := pumpDownloads_spec hlobby h.map hr
    obtain ⟨-, hbatch, -⟩ := pumpLoop_spec x.game.hostPid hsmall x.game.cfg.maxDownloaders
      (x.game.cfg.maxDownloadSpeed * 1024) x.game.downloads h.pids 0
        x.game.resetDownloadCounter.downloadCounter (by omega)
    rw [hr, ← hparts] at hbatch
    exact ⟨by rw [hplayers, hparts], hbatch.parts, hbatch.unfinished, hbatch.served⟩
  · have hsame : x.game.pumpDownloads = x.game := if_pos hlobby
    have hnone : x.game.pumpParts = [] := if_pos hlobby
    refine ⟨by rw [hsame, hnone]; rfl, ?_, ?_, ?_⟩
    · rw [hnone]
      exact fun _ hb => (nomatch hb)
    · rw [hnone]
      exact fun _ hb => (nomatch hb)
    · rw [hnone]
      exact fun _ => Nat.zero_le _

end Transfers

/-- **A map transfer keeps its window.** For every map below 2^32 bytes
and every sequence of map frames, pumps and pauses, whatever positions
the frames name: every pump sends slices of the map, to unfinished
downloads and to no more of them than allowed; what a download was sent
since it began or was rewound follows on without gap or overlap, up to a
position at most a hundred and one parts past the acknowledged one,
unless the client took that back; and the bytes since the last reset of
the counter exceed the limit by less than a part. -/
theorem map_transfer_is_windowed [RustStd] {s : GameState} {data : List UInt8}
    (hdata : s.cfg.map.data = some data) (hsmall : data.length < 2 ^ 32) (hstart : s.InWindow)
    (ops : List TransferOp) :
    ((Transfers.begin s).run ops).Windowed data
      ∧ ((Transfers.begin s).run ops).game.PumpsWell data := by
  have hend := (Transfers.keepsWindow_begin hdata hstart).run hsmall ops
  exact ⟨hend.windowed, hend.pumpsWell hsmall⟩

/-- A new game has no downloads. -/
theorem new_inWindow [RustStd] (cfg : GameConfig) (now : Nat) (seed : UInt32) :
    (GameState.new cfg now seed).InWindow where
  pids := List.nodup_nil
  window _ hd := nomatch hd
  budget hpos := by
    show 0 < _
    omega

/-- Nothing else of the game counts here. -/
theorem GameState.InWindow.of_same {s t : GameState} (h : s.InWindow)
    (hdownloads : t.downloads = s.downloads) (hcounter : t.downloadCounter = s.downloadCounter)
    (hspeed : t.cfg.maxDownloadSpeed = s.cfg.maxDownloadSpeed) : t.InWindow where
  pids := hdownloads ▸ h.pids
  window d hd := h.window d (hdownloads ▸ hd)
  budget := by
    rw [hcounter, hspeed]
    exact h.budget

section Runs

open Scenario

/-- A map of twelve bytes. -/
def mapBody : List UInt8 := [1, 2, 3, 4, 5, 6, 7, 8, 9, 10, 11, 12]

/-- A lobby with the map, and a client that has four bytes of it. -/
def downloadLobby : GameState :=
  (GameState.new { config with map := { map with size := 12, data := some mapBody } } 0 5).run
    [connect 1 PlayerLink.drained, join 1 (txt "ann")]

/-- The client reports its four bytes, is sent the rest, rewinds to the
last two and is sent these. -/
def rewoundTransfer : List TransferOp :=
  [.mapSize 1 ([1, 0, 0, 0] ++ [1] ++ u32le 4), .pump, .partNotOk 1 ([1, 1] ++ u32le 10), .pump]

/-- After the rewind the log has the last two bytes only. -/
theorem map_transfer_is_windowed_rewound :
    ((Transfers.begin downloadLobby).run rewoundTransfer).Windowed mapBody
      ∧ ((Transfers.begin downloadLobby).run rewoundTransfer).game.PumpsWell mapBody
      ∧ (((Transfers.begin downloadLobby).run rewoundTransfer).log 1).parts.map MapPart.chunk
        = [[11, 12]]
      ∧ ((Transfers.begin downloadLobby).run rewoundTransfer).spent = 10 := by
  have hstart : downloadLobby.InWindow :=
    (new_inWindow { config with map := { map with size := 12, data := some mapBody } } 0 5).of_same
      (by decide +kernel) (by decide +kernel) (by decide +kernel)
  have hdata : downloadLobby.cfg.map.data = some mapBody := by decide +kernel
  have h := map_transfer_is_windowed hdata (by decide) hstart rewoundTransfer
  exact ⟨h.1, h.2, by decide +kernel, by decide +kernel⟩

end Runs

end Spectre

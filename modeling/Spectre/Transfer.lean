/-
Map transfer and the small client reports (`mapxfer.rs`).
-/
import Spectre.Start

namespace Spectre

/-- `MAP_CHUNK`. -/
def mapChunk : Nat := 1442

/-- The percentage of the map a client has, as the lobby shows it. -/
def downloadPercent (pos total : Nat) : Nat := min (pos * 100 / max total 1) 100

/-- The inner loop of `pump_downloads` for one download: the position
reached, the bytes counted against the speed limit, and the parts. -/
def burst (hostPid : UInt8) (d : Download) (data : List UInt8) (burstLimit maxSpeed : Nat) :
    Nat → Nat → Nat → Nat × Nat × List (UInt8 × Packet)
  | 0, pos, counter => (pos, counter, [])
  | fuel + 1, pos, counter =>
      if pos < burstLimit ∧ pos < data.length % 2 ^ 32 ∧ ¬(0 < maxSpeed ∧ maxSpeed ≤ counter) then
        let stop := min (pos + mapChunk) data.length
        match (Packet.mapPart hostPid d.pid pos ((data.drop pos).take (stop - pos))).build with
        | some b =>
            let (pos', counter', parts) :=
              burst hostPid d data burstLimit maxSpeed fuel (stop % 2 ^ 32)
                (counter + (stop - pos))
            (pos', counter', (d.pid, b) :: parts)
        | none => (pos, counter, [])
      else (pos, counter, [])

/-- The loop of `pump_downloads` over the downloads: the downloads, the
bytes counted, and the parts to send. -/
def pumpLoop (hostPid : UInt8) (data : List UInt8) (maxDownloaders maxSpeed : Nat) :
    List Download → Nat → Nat → List Download × Nat × List (UInt8 × Packet)
  | [], _, counter => ([], counter, [])
  | d :: rest, served, counter =>
      if data.length % 2 ^ 32 ≤ d.ackedUpto then
        let (ds, counter, parts) :=
          pumpLoop hostPid data maxDownloaders maxSpeed rest served counter
        (d :: ds, counter, parts)
      else if 0 < maxDownloaders ∧ maxDownloaders < served + 1 then (d :: rest, counter, [])
      else
        let limit := min (d.ackedUpto + mapChunk * 100) (2 ^ 32 - 1)
        let (pos, counter, parts) :=
          burst hostPid d data limit maxSpeed data.length d.sentUpto counter
        let (ds, counter, more) :=
          pumpLoop hostPid data maxDownloaders maxSpeed rest (served + 1) counter
        ({ d with sentUpto := pos } :: ds, counter, parts ++ more)

namespace GameState

/-- `GameState::handle_map_size`: the map report, which in a rejoin
handshake is answered by the countdown packets instead. -/
def handleMapSize [RustStd] (s : GameState) (connId : Nat) (payload : List UInt8) : GameState :=
  match s.players.byConn connId with
  | none => s
  | some q =>
      let pid := q.pid
      if (s.players.byPid pid).map Player.rejoin = some .awaitingMapSize then
        let s := (s.sendTo pid .countdownStart).sendTo pid .countdownEnd
        { s with players := s.players.modifyPid pid fun p => { p with rejoin := .awaitingLoaded } }
      else match MapSizeReport.decode payload with
        | .error _ => s
        | .ok (_, mapSize) =>
            if s.cfg.map.size.toNat ≤ mapSize then
              { s with players := s.players.modifyPid pid fun p =>
                { p with downloadStatus := 100 } }
            else if s.cfg.map.data.isNone ∨ s.cfg.allowDownloads = 0 then
              (s.kickPlayer pid .lacksMap leaveDisconnect).reapLeftPlayers
            else if s.cfg.allowDownloads = 2
                ∧ ((s.players.byPid pid).map Player.downloadAllowed).getD false = false then s
            else if s.downloads.any fun d => d.pid == pid then s
            else
              let hostPid := s.hostPid
              let s : GameState :=
                { s with downloads := s.downloads ++ [⟨pid, mapSize, mapSize, s.now⟩] }
              s.sendTo pid (.startDownload hostPid)

/-- Update the first download of a player. -/
def modifyDownload (s : GameState) (pid : UInt8) (f : Download → Download) : GameState :=
  { s with downloads := Lib.updateFirst (fun d => d.pid == pid) f s.downloads }

/-- Set the map percentage shown for a player. -/
def setDownloadStatus (s : GameState) (pid : UInt8) (pos : Nat) : GameState :=
  { s with players := s.players.modifyPid pid fun p =>
      { p with downloadStatus := downloadPercent pos s.cfg.map.size.toNat } }

/-- `GameState::handle_map_part_ok`. -/
def handleMapPartOk (s : GameState) (connId : Nat) (payload : List UInt8) : GameState :=
  match s.players.byConn connId, decodeMapPartOk payload with
  | some p, .ok acked =>
      (s.modifyDownload p.pid fun d => { d with ackedUpto := acked }).setDownloadStatus p.pid acked
  | _, _ => s

/-- `GameState::handle_map_part_not_ok`. -/
def handleMapPartNotOk (s : GameState) (connId : Nat) (payload : List UInt8) : GameState :=
  match s.players.byConn connId, decodeMapPartNotOk payload with
  | some p, .ok pos =>
      (s.modifyDownload p.pid fun d =>
        { d with sentUpto := pos, ackedUpto := pos }).setDownloadStatus p.pid pos
  | _, _ => s

/-- `GameState::handle_pong`: record the ping, and in the lobby drop a
player whose average is too high. -/
def handlePong (s : GameState) (connId : Nat) (payload : List UInt8) : GameState :=
  match decodePongToHost payload with
  | .error _ => s
  | .ok pong =>
      if pong = 1 then s
      else
        let latency := (s.now - s.createdAt) % 2 ^ 32 - pong
        let ping := if s.cfg.lcPings then latency / 2 else latency
        let s := { s with players := s.players.modifyConn connId fun p => p.recordPing ping }
        match s.players.byConn connId with
        | none => s
        | some p =>
            let avg := p.averagePing.getD 0
            if s.phase = .lobby ∧ !p.reserved ∧ 0 < s.cfg.autokickPing
                ∧ 3 ≤ p.pingHistory.length ∧ s.cfg.autokickPing < avg then
              s.kickPlayer p.pid (.highPing avg s.cfg.autokickPing) leaveDisconnect
            else s

/-- `GameState::handle_drop_request`. -/
def handleDropRequest (s : GameState) : GameState :=
  if !s.lagging then s
  else
    let laggers := (s.players.filter fun p => p.lagging && p.left.isNone).map Player.pid
    laggers.foldl (fun s pid => s.kickPlayer pid .droppedByVote leaveDisconnect) s

/-- The store entry of a finished download. -/
def logDownload (s : GameState) (total : Nat) (d : Download) : GameState :=
  match s.players.byPid d.pid with
  | some p => s.storePush (.recordDownload s.cfg.map.path s.cfg.map.size p.name p.externalIp.dotted
      p.spoofed total ((s.now - d.started) / 1000))
  | none => s

/-- The speed limit counts bytes per second. -/
def resetDownloadCounter (s : GameState) : GameState :=
  if secs 1 ≤ s.now - s.lastDownloadCounterReset then
    { s with downloadCounter := 0, lastDownloadCounterReset := s.now }
  else s

/-- Log and drop the finished downloads, and send parts for the
others. -/
def pumpData (s : GameState) (data : List UInt8) : GameState :=
  let total := data.length % 2 ^ 32
  let (ds, counter, parts) := pumpLoop s.hostPid data s.cfg.maxDownloaders
    (s.cfg.maxDownloadSpeed * 1024) s.downloads 0 s.downloadCounter
  let s : GameState := (ds.filter fun d => decide (total ≤ d.ackedUpto)).foldl
    (fun s d => s.logDownload total d) s
  let s : GameState := { s with
    downloads := ds.filter fun d => decide (d.ackedUpto < total), downloadCounter := counter }
  parts.foldl (fun s b => s.sendTo b.1 b.2) s

/-- `GameState::pump_downloads`. -/
def pumpDownloads (s : GameState) : GameState :=
  if s.phase ≠ .lobby then s
  else match s.cfg.map.data with
    | none => { s with downloads := [] }
    | some data => s.resetDownloadCounter.pumpData data

end GameState

end Spectre

import Spectre.Rust
import Spectre.Wire
import Spectre.Incoming
import Spectre.Net
import Spectre.Lib.Stream
import Spectre.Lib.Table
import Spectre.Lib.Ring
import Spectre.Lib.Path
import Spectre.Lib.Bins
import Spectre.Lib.Pack
import Spectre.Lib.Latch
import Spectre.Lib.Keyed
import Spectre.History
import Spectre.Slots
import Spectre.Stats
import Spectre.Replay
import Spectre.Players
import Spectre.State
import Spectre.Start
import Spectre.Rejoin
import Spectre.Turn
import Spectre.Transfer
import Spectre.Commands
import Spectre.Chat
import Spectre.Actor
import Spectre.SlotSeats
import Spectre.Delivery
import Spectre.Moves
import Spectre.Steps
import Spectre.Effects
import Spectre.TurnEffects
import Spectre.SeatEffects
import Spectre.ChatEffects
import Spectre.Iteration
import Spectre.Scenario
import Spectre.Seats
import Spectre.CatchUp
import Spectre.OneCopy
import Spectre.Lockstep
import Spectre.Phases
import Spectre.Loading
import Spectre.LagScreen
import Spectre.Desync
import Spectre.Outsiders
import Spectre.Tokens
import Spectre.Frozen
import Spectre.Records
import Spectre.Dangling
import Spectre.Seating
import Spectre.Truthful
import Spectre.Window
import Spectre.Roster
import Spectre.Lib.Decode
import Spectre.Framing
import Spectre.Lib.Crc
import Spectre.DotaTv
import Spectre.Publish
import Spectre.Bootstrap
import Spectre.Viewers
import Spectre.Relay
import Spectre.JoinBurst
import Spectre.RelayDelay
import Spectre.Supervisor
import Spectre.Routing
import Spectre.Tally
import Spectre.Arrival
import Spectre.Adoption
import Spectre.Verdict
import Spectre.Batching
import Spectre.Books
import Spectre.Grammar
import Spectre.Hosting
import Spectre.HostSteps
import Spectre.Ports
import Spectre.HostCounter
import Spectre.Ledger
import Spectre.Rosters
import Spectre.MatchRecord
import Spectre.RelaySends
import Spectre.RelayGames
import Spectre.Leavers
import Spectre.Battlenet
import Spectre.Adverts
import Spectre.HclCodes
import Spectre.TickClock
import Spectre.ChatCuts
import Spectre.ReaderLoop
import Spectre.Reviews
import Spectre.Grace
import Spectre.Resend
import Spectre.Mirror
import Spectre.Votekick
import Spectre.Addressees
import Spectre.Holds
import Spectre.Downloads
import Spectre.Colours
import Spectre.Statstring
import Spectre.TvMessages
import Spectre.W3gFiles
import Spectre.StreamLife
import Spectre.Nls
import Spectre.DotaRecords
import Spectre.DotaArithmetic
import Spectre.MpqCrypt
import Spectre.MpqCipher
import Spectre.Mpq
import Spectre.MpqHeader
import Spectre.MpqSafety
import Spectre.MpqFiles
import Spectre.TvPorts
import Spectre.Bncs
import Spectre.W3Mmd
import Spectre.Lib.Fields
import Spectre.CdKeyTable
import Spectre.CdKeyScramble
import Spectre.CdKeyBits
import Spectre.CdKey
import Spectre.CdKeyAlphabet
import Spectre.ColdStart
import Spectre.Lib.Rotate
import Spectre.MapFile
import Spectre.W3i
import Spectre.MapLoading
import Spectre.MapChoice
import Spectre.Lib.Worker
import Spectre.Store
import Spectre.StoreAnswers
import Spectre.MatchFiled
import Spectre.Lib.Broadcast
import Spectre.TvChat
import Spectre.TvChatRuns
import Spectre.TvChatHeard
import Spectre.TvChatRate
import Spectre.CheckRevision
import Spectre.RevisionRuns
import Spectre.RevisionReads
import Spectre.Lib.Folds
import Spectre.Lib.Reading
import Spectre.SavedReplay

/-
Chat commands and their parser (`chat.rs`: `ChatCommand`, `slot_arg`,
`parse_command`).

A message is a command when it starts with the trigger and has a verb
behind it. Most verbs with arguments refuse a missing or malformed one
by not being a command at all, in which case the message is ordinary
chat.
-/
import Spectre.Rust

namespace Spectre

/-- `ChatCommand`. -/
inductive ChatCommand where
  | start (force : Bool)
  | abort
  | openSlot (slot : UInt8)
  | close (slot : UInt8)
  | openAll
  | closeAll
  | swap (a b : UInt8)
  | hold (name : Text) (slot : Option UInt8)
  | clearHold
  | kick (name : Text)
  | ban (name reason : Text)
  | unban (name : Text)
  | checkBan (name : Text)
  | banLast (reason : Text)
  | checkAdmin (name : Text)
  | addAdmin (name : Text)
  | delAdmin (name : Text)
  | ping
  | mute (name : Text)
  | unmute (name : Text)
  | muteAll
  | unmuteAll
  | voteStart
  | voteCancel
  | voteKick (name : Text)
  | yes
  | syncLimit (limit : Option Nat)
  | latency (ms : Option Nat)
  | shufflePlayers
  | version
  | say (message : Text)
  | whisper (user message : Text)
  | stats (name : Text)
  | statsDotA (name : Text)
  | drop
  | draw
  | hcl (mode : Text)
  | clearHcl
  | owner (name : Option Text)
  | unhost
  | endGame
  | lock
  | unlock
  | check (name : Text)
  | checkMe
  | announce (message : Text)
  | autoStart (players : Option Nat)
  | refresh
  | virtualHost (name : Text)
  | comp (slot team colour race computerType handicap : UInt8)
  | compColour (slot colour : UInt8)
  | compRace (slot race : UInt8)
  | compHandicap (slot handicap : UInt8)
  | compTeam (slot team : UInt8)
  | download (name : Text)
  | dbStatus
  | fakePlayer
  | fpPause
  | fpResume
  | fromWhere
  | messages (on : Option Bool)
  | sendLan (ip : Text) (port : Option Nat)
  | pub (name : Text)
  | priv (name : Text)
  | muteLobby (on : Option Bool)
  | unknown (verb : Text)
deriving DecidableEq, Repr

/-- `str::parse::<u8>`. -/
def parseU8 (t : Text) : Option UInt8 := (parseUInt 8 t).map Nat.toUInt8

/-- `slot_arg`: slots are counted from one. -/
def slotArg (t : Text) : Option UInt8 :=
  (parseU8 t).bind fun n => if n = 0 then none else some (n - 1)

/-- An `on` or `off` argument. -/
def onOff (t : Text) : Option Bool :=
  if eqIgnoreAsciiCase t (txt "on") || eqIgnoreAsciiCase t (txt "1") then some true
  else if eqIgnoreAsciiCase t (txt "off") || eqIgnoreAsciiCase t (txt "0") then some false
  else none

/-- `args.join(" ")`. -/
def joinArgs (args : List Text) : Text := joinWith (txt " ") args

/-- The verbs that take no argument. -/
def bareVerbs : List (Text × ChatCommand) :=
  [(txt "sf", .start true), (txt "startforce", .start true), (txt "abort", .abort),
   (txt "a", .abort), (txt "ping", .ping), (txt "p", .ping), (txt "unhost", .unhost),
   (txt "end", .endGame), (txt "lock", .lock), (txt "unlock", .unlock),
   (txt "openall", .openAll), (txt "closeall", .closeAll), (txt "clearhold", .clearHold),
   (txt "muteall", .muteAll), (txt "unmuteall", .unmuteAll), (txt "votestart", .voteStart),
   (txt "votecancel", .voteCancel), (txt "sp", .shufflePlayers), (txt "version", .version),
   (txt "checkme", .checkMe), (txt "refresh", .refresh), (txt "drop", .drop),
   (txt "draw", .draw), (txt "clearhcl", .clearHcl), (txt "dbstatus", .dbStatus),
   (txt "fakeplayer", .fakePlayer), (txt "fp", .fakePlayer), (txt "fppause", .fpPause),
   (txt "fpresume", .fpResume), (txt "from", .fromWhere)]

/-- The verbs whose one argument, a name, must be there. -/
def nameVerbs : List (Text × (Text → ChatCommand)) :=
  [(txt "kick", .kick), (txt "k", .kick), (txt "unban", .unban), (txt "checkban", .checkBan),
   (txt "checkadmin", .checkAdmin), (txt "addadmin", .addAdmin), (txt "deladmin", .delAdmin),
   (txt "mute", .mute), (txt "unmute", .unmute), (txt "votekick", .voteKick),
   (txt "vk", .voteKick), (txt "check", .check), (txt "virtualhost", .virtualHost)]

/-- The verbs whose argument is the rest of the line. -/
def lineVerbs : List (Text × (Text → ChatCommand)) :=
  [(txt "say", .say), (txt "announce", .announce), (txt "hcl", .hcl), (txt "pub", .pub),
   (txt "priv", .priv)]

/-- The verbs whose one argument, a name, may be missing and is then
empty. -/
def optNameVerbs : List (Text × (Text → ChatCommand)) :=
  [(txt "dl", .download), (txt "download", .download), (txt "stats", .stats),
   (txt "statsdota", .statsDotA), (txt "sd", .statsDotA)]

/-- The entry of a verb table. -/
def lookupVerb {α : Type} (verb : Text) (table : List (Text × α)) : Option α :=
  (table.find? fun e => e.1 == verb).map Prod.snd

/-- The value of an optional `u8` argument. -/
def u8Arg (args : List Text) (i : Nat) (dflt : UInt8) : UInt8 :=
  ((args[i]?).bind parseU8).getD dflt

/-- The verbs with argument shapes of their own. -/
def parseOther (verb : Text) (args : List Text) : Option ChatCommand :=
  if verb = txt "start" ∨ verb = txt "s" then
    some (.start ((args.head?.map fun a =>
      eqIgnoreAsciiCase a (txt "force") || eqIgnoreAsciiCase a (txt "f")).getD false))
  else if verb = txt "open" ∨ verb = txt "o" then do
    return .openSlot (← slotArg (← args[0]?))
  else if verb = txt "close" ∨ verb = txt "c" then do
    return .close (← slotArg (← args[0]?))
  else if verb = txt "swap" then do
    return .swap (← slotArg (← args[0]?)) (← slotArg (← args[1]?))
  else if verb = txt "hold" ∨ verb = txt "h" then do
    return .hold (← args[0]?) ((args[1]?).bind slotArg)
  else if verb = txt "ban" then do
    return .ban (← args[0]?) (joinArgs args.tail)
  else if verb = txt "banlast" then
    some (.banLast (if joinArgs args = [] then txt "banned by host" else joinArgs args))
  else if verb = txt "synclimit" ∨ verb = txt "sl" then
    some (.syncLimit ((args[0]?).bind (parseUInt 32)))
  else if verb = txt "latency" ∨ verb = txt "lat" ∨ verb = txt "l" then
    some (.latency ((args[0]?).bind (parseUInt 32)))
  else if verb = txt "w" ∨ verb = txt "whisper" then do
    return .whisper (← args[0]?) (joinArgs args.tail)
  else if verb = txt "autostart" then some (.autoStart ((args[0]?).bind (parseUInt 64)))
  else if verb = txt "comp" then do
    let slot ← slotArg (← args[0]?)
    return .comp slot (u8Arg args 1 1) (u8Arg args 2 (slot + 1)) (u8Arg args 3 0x20) 1
      (u8Arg args 4 100)
  else if verb = txt "compcolour" then do
    return .compColour (← slotArg (← args[0]?)) (← (args[1]?).bind parseU8)
  else if verb = txt "comprace" then do
    return .compRace (← slotArg (← args[0]?)) (← (args[1]?).bind parseU8)
  else if verb = txt "comphandicap" then do
    return .compHandicap (← slotArg (← args[0]?)) (← (args[1]?).bind parseU8)
  else if verb = txt "compteam" then do
    return .compTeam (← slotArg (← args[0]?)) (← (args[1]?).bind parseU8)
  else if verb = txt "owner" then some (.owner args[0]?)
  else if verb = txt "messages" then some (.messages ((args[0]?).bind onOff))
  else if verb = txt "sendlan" then do
    return .sendLan (← args[0]?) ((args[1]?).bind (parseUInt 16))
  else if verb = txt "mutelobby" then some (.muteLobby ((args[0]?).bind onOff))
  else some (.unknown verb)

/-- A verb with its arguments. -/
def parseVerb (verb : Text) (args : List Text) : Option ChatCommand :=
  match lookupVerb verb bareVerbs with
  | some c => some c
  | none =>
      match lookupVerb verb nameVerbs with
      | some f => args.head?.map f
      | none =>
          match lookupVerb verb lineVerbs with
          | some f => some (f (joinArgs args))
          | none =>
              match lookupVerb verb optNameVerbs with
              | some f => some (f (args.head?.getD []))
              | none => parseOther verb args

/-- `parse_command`, at the trigger `!`. -/
def parseCommand [RustStd] (msg : Text) : Option ChatCommand :=
  match msg with
  | 0x21 :: rest =>
      match splitWhitespace rest with
      | [] => none
      | verb :: args => parseVerb (RustStd.toLowercase verb) args
  | _ => none

/-- The commands anyone may use. -/
def ChatCommand.isPublic : ChatCommand → Bool
  | ping | voteStart | voteCancel | voteKick _ | yes | draw | stats _ | statsDotA _ | version
  | checkMe | whisper .. => true
  | _ => false

end Spectre

/-
The chat of those who watch a game (`MODE_CHAT`).

Every connection has a task that reads what its viewer sends and one
that writes what everybody sends, its own viewer included. Between them
is a broadcast channel, so that no viewer waits for another one: who
does not read in time misses messages. `ChatEvent` is one step of one of
these tasks, or something that happens to a connection, and a run is any
order of them.

Bytes arrive in pieces of any size and are written in pieces of any
size. A task that reads takes what it waits for in one go: `read_exact`
has no effect before it has all of it.
-/
import Spectre.Bootstrap
import Spectre.Lib.Broadcast

namespace Spectre.DotaTv

open Lib

-- =============================================================== one message

/-- `CHAT_KIND_CHAT`. -/
def chatKindChat : UInt8 := 0

/-- `CHAT_KIND_PING`. -/
def chatKindPing : UInt8 := 1

/-- `CHAT_MAX_TEXT`. -/
def chatMaxText : Nat := 255

/-- `CHAT_RATE_WINDOW`, in ns. -/
def chatRateWindow : Nat := 5000000000

/-- `CHAT_RATE_MAX`. -/
def chatRateMax : Nat := 1

/-- What the reading loop of `serve_chat` waits for: the kind of a
message, the length of a text, the text, the four bytes of a ping. -/
inductive ChatRead where
  | kind
  | length
  | text (lb : List UInt8)
  | ping
deriving DecidableEq

/-- How many bytes that is. -/
def ChatRead.needs : ChatRead → Nat
  | kind => 1
  | length => 2
  | text lb => readLe lb
  | ping => 4

/-- What these bytes are good for. -/
inductive ChatFound where
  | more (r : ChatRead)
  | message (kind : UInt8) (payload : List UInt8)
  | invalid

/-- The match of `serve_chat` on the kind, and what it reads then. -/
def ChatRead.found : ChatRead → List UInt8 → ChatFound
  | kind, b =>
      if b = [chatKindChat] then .more length
      else if b = [chatKindPing] then .more ping
      else .invalid
  | length, lb => if chatMaxText < readLe lb then .invalid else .more (text lb)
  | text lb, b => .message chatKindChat (lb ++ b)
  | ping, b => .message chatKindPing b

/-- A message as it is published: under the id of its connection. -/
def chatStamp (id : Nat) (kind : UInt8) (payload : List UInt8) : List UInt8 :=
  kind :: u32le id ++ payload

-- ============================================================= one connection

/-- Before the reading loop, in it, and after it. -/
inductive ChatStage where
  | greeting
  | talking
  | over
deriving DecidableEq

/-- A connection of `serve_chat`: what has arrived, what of that is not
read, what its loop knows, the position of its receiver unless that is
dropped, what `write_all` has not written yet, and what is written. -/
structure ChatConn where
  id : Nat
  stage : ChatStage := .greeting
  arrived : List UInt8 := []
  inbox : List UInt8 := []
  ended : Bool := false
  reading : ChatRead := .kind
  winStart : Nat := 0
  winCount : Nat := 0
  rx : Option Nat
  pending : List UInt8
  written : List UInt8 := []

namespace ChatConn

/-- Bytes arrive, unless the input is at its end. -/
def arrive (c : ChatConn) (bytes : List UInt8) : ChatConn :=
  if c.ended then c
  else { c with arrived := c.arrived ++ bytes, inbox := c.inbox ++ bytes }

/-- The input ends, and with it some of what has arrived may be lost. -/
def hangUp (c : ChatConn) (kept : Nat) : ChatConn :=
  { c with ended := true, inbox := c.inbox.take kept }

/-- The socket takes some bytes. -/
def write (c : ChatConn) (n : Nat) : ChatConn :=
  { c with written := c.written ++ c.pending.take n, pending := c.pending.drop n }

/-- The socket takes nothing any more: the id cannot be written, or the
writing task ends. -/
def breakOff (c : ChatConn) : ChatConn :=
  { c with
    stage := if c.stage = .greeting then .over else c.stage
    rx := none, pending := [] }

/-- The id is written, and the two loops begin. -/
def begin (c : ChatConn) (now : Nat) : ChatConn :=
  if c.stage = .greeting ∧ c.pending = [] then { c with stage := .talking, winStart := now } else c

/-- A message is counted, in a new window where the last one is over. -/
def counted (c : ChatConn) (now : Nat) : ChatConn :=
  if chatRateWindow ≤ now - c.winStart then
    { c with winStart := now, winCount := 1 }
  else { c with winCount := (c.winCount + 1) % 2 ^ 32 }

/-- The reading task takes what it waits for; what it publishes. -/
def read (c : ChatConn) (now : Nat) : ChatConn × Option (List UInt8) :=
  if c.stage ≠ .talking then (c, none)
  else if c.inbox.length < c.reading.needs then
    if c.ended then ({ c with stage := .over }, none) else (c, none)
  else
    let b := c.inbox.take c.reading.needs
    let rest := c.inbox.drop c.reading.needs
    match c.reading.found b with
    | .invalid => ({ c with inbox := rest, stage := .over }, none)
    | .more r => ({ c with inbox := rest, reading := r }, none)
    | .message kind payload =>
        let c := { c with inbox := rest, reading := .kind }.counted now
        if chatRateMax < c.winCount then (c, none) else (c, some (chatStamp c.id kind payload))

/-- The writing task takes the next message to write, or is told that it
has missed some. -/
def recv (c : ChatConn) (tx : Lib.Ring (List UInt8)) : ChatConn :=
  if c.stage = .greeting ∨ c.pending ≠ [] then c
  else match c.rx with
    | none => c
    | some next =>
        match tx.recv next with
        | (.value bytes, next) => { c with rx := some next, pending := bytes }
        | (.lagged _, next) => { c with rx := some next }
        | (.empty, _) => c

/-- The writing task is aborted once the reading loop is over, perhaps
in the middle of a message. -/
def stop (c : ChatConn) : ChatConn :=
  if c.stage = .over then { c with rx := none, pending := [] } else c

end ChatConn

-- ============================================================ the relay

/-- `ChatRelay`, with the connections there were. -/
structure ChatRelay where
  tx : Lib.Ring (List UInt8)
  nextId : Nat
  conns : List ChatConn

/-- What may happen next: a viewer connects, or something happens to the
`k`th connection. -/
inductive ChatEvent where
  | connect
  | arrive (k : Nat) (bytes : List UInt8)
  | hangUp (k kept : Nat)
  | write (k n : Nat)
  | breakOff (k : Nat)
  | begin (k now : Nat)
  | read (k now : Nat)
  | recv (k : Nat)
  | stop (k : Nat)

namespace ChatRelay

/-- `ChatRelay::new`. -/
def new : ChatRelay := ⟨.empty 256 (by decide), 1, []⟩

/-- `publish`: without a receiver the message is gone. -/
def publish (r : ChatRelay) (msg : List UInt8) : ChatRelay :=
  if r.conns.any fun c => c.rx.isSome then { r with tx := r.tx.push msg } else r

/-- `alloc_id` and `subscribe`, for a new connection. -/
def connect (r : ChatRelay) : ChatRelay :=
  { r with
    nextId := (r.nextId + 1) % 2 ^ 32
    conns := r.conns ++ [{ id := r.nextId, rx := some r.tx.nextSeq, pending := u32le r.nextId }] }

/-- Something that happens to one connection only. -/
def modify (r : ChatRelay) (k : Nat) (f : ChatConn → ChatConn) : ChatRelay :=
  { r with conns := r.conns.modify k f }

/-- The reading task of a connection takes its next step. -/
def read (r : ChatRelay) (k now : Nat) : ChatRelay :=
  match r.conns[k]? with
  | none => r
  | some c =>
      let s := r.modify k fun c => (c.read now).1
      match (c.read now).2 with
      | none => s
      | some msg => s.publish msg

/-- One event. -/
def step (r : ChatRelay) : ChatEvent → ChatRelay
  | .connect => r.connect
  | .arrive k bytes => r.modify k fun c => c.arrive bytes
  | .hangUp k kept => r.modify k fun c => c.hangUp kept
  | .write k n => r.modify k fun c => c.write n
  | .breakOff k => r.modify k ChatConn.breakOff
  | .begin k now => r.modify k fun c => c.begin now
  | .read k now => r.read k now
  | .recv k => r.modify k fun c => c.recv r.tx
  | .stop k => r.modify k ChatConn.stop

/-- Events one after another. -/
def run (es : List ChatEvent) (r : ChatRelay) : ChatRelay := es.foldl step r

end ChatRelay

end Spectre.DotaTv

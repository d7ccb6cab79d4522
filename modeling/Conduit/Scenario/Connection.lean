import Conduit.Scenario.Op
/-!
# Connections of a scenario

The two kinds of connection that a scenario offers. One follows a script; the other is an end of a
socket pair, two queues of bytes with a peer at the far end.

## Main definitions

* `Conduit.Scenario.Line`: a connection that follows a script.
* `Conduit.Scenario.Socket`: an end of a socket pair.
-/

namespace Conduit.Scenario

/-- A connection that follows a script. -/
structure Line where
  /-- The name under which its calls are reported. -/
  name : String
  reads : List (Planned Op ReadPlan) := []
  writes : List (Planned Op WritePlan) := []
  readLimit : Option Nat := none
  writeLimit : Option Nat := none
  /-- Everything accepted so far. -/
  accepted : Bytes := []

namespace Line

/-- A size cut down to a limit. -/
def limited (size : Nat) : Option Nat → Nat
  | some limit => min size limit
  | none => size

/-- Takes the next answer to a read off the script; a script at its end gives nothing more. -/
def nextRead (l : Line) : Line × Planned Op ReadPlan :=
  match l.reads with
  | [] => (l, { act := .give [] })
  | p :: rest => ({ l with reads := rest }, p)

/-- Takes the next answer to a write off the script; a script at its end accepts everything. -/
def nextWrite (l : Line) : Line × Planned Op WritePlan :=
  match l.writes with
  | [] => (l, { act := .accept none })
  | p :: rest => ({ l with writes := rest }, p)

/-- Answers a read into a room of that size. What is left of the bytes given goes back to the front
of the script. -/
def read (l : Line) (room : Nat) : ReadPlan → Line × ReadAnswer
  | .give data =>
      let n := limited (min data.length room) l.readLimit
      let left := data.drop n
      let l := if left.isEmpty then l else { l with reads := { act := .give left } :: l.reads }
      (l, .returned n (data.take n))
  | .pretend data count => (l, .returned count data)
  | .fail error => (l, .failed error)
  | .panic panic => (l, .panicked panic)

/-- Answers a write of a block. -/
def write (l : Line) (block : Bytes) : WritePlan → Line × WriteAnswer
  | .accept limit =>
      let n := limited (limited block.length l.writeLimit) limit
      ({ l with accepted := l.accepted ++ block.take n }, .accepted n)
  | .pretend count => ({ l with accepted := l.accepted ++ block.take count }, .accepted count)
  | .fail error => (l, .failed error)
  | .panic panic => (l, .panicked panic)

end Line

/-- The system's error for an operation that would have to wait. -/
def notReady : IoError :=
  .worded .wouldBlock "Resource temporarily unavailable (os error 11)"

/-- The system's error for a write that nobody will read. -/
def pipeBroken : IoError := .worded .brokenPipe "Broken pipe (os error 32)"

/-- The system's error for a read from a peer that went away without having read everything. -/
def connectionReset : IoError :=
  .worded .connectionReset "Connection reset by peer (os error 104)"

/-- What it comes to when a socket over the network is asked for: there is no network. -/
def noNetwork : Panic :=
  .text ("called `Result::unwrap()` on an `Err` value: Os \x7b code: 101, kind: "
    ++ "NetworkUnreachable, message: \"Network is unreachable\" \x7d")

/-- An end of a socket pair. -/
structure Socket where
  /-- Bytes sent by the peer and not yet read. -/
  incoming : Bytes := []
  /-- Bytes written and not yet read by the peer. -/
  outgoing : Bytes := []
  /-- Whether the peer may still send. -/
  peerSends : Bool := true
  peerOpen : Bool := true
  /-- Whether the peer went away without having read everything, and no read has met that yet. -/
  reset : Bool := false

namespace Socket

/-- Reads what has arrived; the end of the stream comes after everything the peer sent. If the peer
left bytes unread, one read fails before that end. -/
def read (k : Socket) (room : Nat) : Socket × ReadAnswer :=
  if k.incoming.isEmpty then
    if k.reset then ({ k with reset := false }, .failed connectionReset)
    else (k, if k.peerSends then .failed notReady else .returned 0 [])
  else
    let data := k.incoming.take room
    ({ k with incoming := k.incoming.drop room }, .returned data.length data)

/-- Writes to the peer, as long as there is one. -/
def write (k : Socket) (block : Bytes) : Socket × WriteAnswer :=
  if k.peerOpen then ({ k with outgoing := k.outgoing ++ block }, .accepted block.length)
  else (k, .failed pipeBroken)

/-- The peer reads what has been written. -/
def peerRead (k : Socket) (size : Nat) : Socket × Except IoError Bytes :=
  if k.outgoing.isEmpty then (k, .error notReady)
  else ({ k with outgoing := k.outgoing.drop size }, .ok (k.outgoing.take size))

/-- The peer sends bytes, unless it has shut down its side. -/
def peerWrite (k : Socket) (data : Bytes) : Socket × Except IoError Nat :=
  if k.peerSends then ({ k with incoming := k.incoming ++ data }, .ok data.length)
  else (k, .error pipeBroken)

/-- The peer stops sending. -/
def peerShutdown (k : Socket) : Socket := { k with peerSends := false }

/-- The peer goes away. -/
def peerClose (k : Socket) : Socket :=
  { k with peerSends := false, peerOpen := false, reset := !k.outgoing.isEmpty }

end Socket

/-- A connection of a scenario. -/
inductive Connection where
  | line (line : Line)
  | socket (socket : Socket)

end Conduit.Scenario

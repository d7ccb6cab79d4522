import Conduit.Session.Basic
/-!
# Callbacks

What happens when the engine reads from, writes to or controls an endpoint that belongs to an
adapter. Every callback finds its adapter anew through the token in the endpoint, in the roster of
its own side, and fails cleanly where that leads nowhere.

## Main definitions

* `Conduit.checkBuffer`: the size and the buffer that the engine passed.
* `Conduit.Control`: the control commands that mean something.
* `Conduit.Session.onRead`, `onWrite`, `onReadControl`, `onWriteControl`.
* `Conduit.Session.startFlush`: starts an operation made of flushes.
-/

namespace Conduit

/-- Checks the size and the buffer that the engine passed: a size has to be counted from zero, and
a buffer may be missing only where none is needed. -/
def checkBuffer (size : Int) (present : Bool) : Except Refusal Nat :=
  if size < 0 then .error (.invalidArgument "negative length")
  else if size = 0 then .ok 0
  else if present then .ok size.toNat
  else .error (.invalidArgument "null buffer")

/-- A control command. -/
inductive Control where
  /-- Asks whether the stream has ended and nothing waits. -/
  | ended
  /-- Asks for the number of bytes that wait to be read. -/
  | pending
  | flush
  /-- Asks whether a copy may be made. -/
  | duplicate
  /-- Asks for the number of bytes that wait to be written. -/
  | writePending
  | other (number : Int)
  deriving DecidableEq, Repr

/-- The command of that number. -/
def Control.ofNumber (n : Int) : Control :=
  if n = 2 then .ended
  else if n = 10 then .pending
  else if n = 11 then .flush
  else if n = 12 then .duplicate
  else if n = 13 then .writePending
  else .other n

/-- What a control command comes to. -/
inductive ControlProgress where
  | code (code : Int)
  /-- It has to wait until an earlier flush lands. -/
  | busy
  /-- The connection is asked to write a block. -/
  | writing (outlet connection : Nat) (block : Bytes)
  deriving DecidableEq, Repr

namespace Session

/-- Reads from an endpoint. A read of size zero only says how much waits. -/
def onRead (s : Session) (e : Nat) (size : Int) (present : Bool) : Effect Transfer :=
  let s := s.modifyFlags e Flags.clearRetry
  match s.inletAt? e with
  | none => ⟨s, ⟨-1, []⟩, [.turnedDown .inbound .noAdapter]⟩
  | some (k, i) =>
      match checkBuffer size present with
      | .error reason => ⟨s, ⟨-1, []⟩, [.turnedDown .inbound reason]⟩
      | .ok n =>
          if n = 0 ∧ 0 < i.pending then ⟨s, ⟨toCount i.pending, []⟩, []⟩
          else
            match i.request n with
            | (.ready bytes, i) => ⟨s.putInlet k i, ⟨toCount bytes.length, bytes⟩, []⟩
            | (.ended, _) => ⟨s, ⟨0, []⟩, []⟩
            | (.wouldBlock, _) => ⟨s.modifyFlags e Flags.retryRead, ⟨-1, []⟩, []⟩

/-- Writes the first `size` bytes of a buffer to an endpoint: everything is taken. -/
def onWrite (s : Session) (e : Nat) (size : Int) (buffer : Option Bytes) : Effect Int :=
  let s := s.modifyFlags e Flags.clearRetry
  match s.outletAt? e with
  | none => ⟨s, -1, [.turnedDown .outbound .noAdapter]⟩
  | some (k, o) =>
      match checkBuffer size buffer.isSome with
      | .error reason => ⟨s, -1, [.turnedDown .outbound reason]⟩
      | .ok n => ⟨s.putOutlet k (o.append ((buffer.getD []).take n)), size, []⟩

/-- Answers a control command on the inbound side; nothing changes. The endpoint may be missing. -/
def onReadControl (s : Session) (e : Option Nat) (c : Control) : Int :=
  let inlet := e.bind s.inletAt?
  match c with
  | .pending => (inlet.map fun (_, i) => toLongCount i.pending).getD 0
  | .ended => (inlet.map fun (_, i) => if i.pending = 0 ∧ i.ended then 1 else 0).getD 0
  | .flush => 1
  | .duplicate => 1
  | _ => 0

/-- Starts an operation made of flushes on an outlet. -/
def startFlush (s : Session) (k : Nat) (o : Outlet) (purpose : Purpose) :
    Session × Outlet.Progress :=
  let (o, progress) := o.start purpose
  (s.putOutlet k o, progress)

/-- The code that a flush returns to the engine, and what is logged about it. -/
def flushCode : Outcome Nat → Int × List LogLine
  | .value n => (toLongCount n, [])
  | .failed error => (0, [.flushFailed error])
  | .panicked panic => (-1, [.flushPanicked panic])

/-- Answers a control command on the outbound side. A flush of bytes that wait goes to the
connection first. The endpoint may be missing. -/
def onWriteControl (s : Session) (e : Option Nat) (c : Control) : Effect ControlProgress :=
  match c with
  | .writePending =>
      ⟨s, .code (((e.bind s.outletAt?).map fun (_, o) => toLongCount o.pending).getD 0), []⟩
  | .flush =>
      match e.bind s.outletAt? with
      | none => ⟨s, .code 0, []⟩
      | some (k, o) =>
          match s.startFlush k o .control with
          | (s, .busy) => ⟨s, .busy, []⟩
          | (s, .writing block) => ⟨s, .writing k o.connection block, []⟩
          | (s, .ended outcome) =>
              let (code, log) := flushCode outcome
              ⟨s, .code code, log⟩
  | .duplicate => ⟨s, .code 1, []⟩
  | _ => ⟨s, .code 0, []⟩

end Session

end Conduit

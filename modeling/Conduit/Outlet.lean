import Conduit.Connection
import Conduit.Text.Quoted
/-!
# Outlets

The outbound adapter: what the engine writes waits in its queue until a flush offers it to the
connection.

A flush has two halves. `begin` takes the whole queue as one block and offers it; `land` takes the
connection's answer and puts what was not accepted back in front of whatever was appended in the
meantime. A count of the bytes in flight stands in for them while the connection writes. A write
that panics takes its block with it; the count then stays behind until a later flush lands.

Draining repeats flushes until nothing is pending. Each time a flush lands, `resume` either ends
the operation or offers the next block, so that no repetition is hidden inside a definition.

## Main definitions

* `Conduit.Outlet`, with `make`, `append` and `pending`.
* `Conduit.Outlet.begin` and `Conduit.Outlet.land`: the two halves of a flush.
* `Conduit.Outlet.start` and `Conduit.Outlet.resume`: an operation made of flushes.

## Main results

* `queue_land_accepted`: what stays in the queue when a flush lands.
-/

namespace Conduit

/-- What a flush is part of, which decides what happens when it lands. -/
inductive Purpose where
  /-- A single flush, asked for by the owner. -/
  | single
  /-- Flushes until nothing is pending; so many bytes have been accepted before. -/
  | drain (total : Nat)
  /-- A single flush, asked for by the engine. -/
  | control
  deriving DecidableEq, Repr

/-- A flush whose write is in progress. -/
structure Flight where
  /-- The block that the connection was offered. -/
  block : Bytes
  purpose : Purpose
  deriving DecidableEq, Repr

/-- Bytes on their way from the engine to a connection. -/
structure Outlet where
  /-- The connection that is written. -/
  connection : Nat
  /-- Whether storage is given up each time the queue drains. -/
  releaseBuffers : Bool := false
  /-- Bytes that wait to be written, oldest first. -/
  queue : Bytes := []
  /-- The number of bytes taken out of the queue by a flush that has not landed. -/
  inFlight : Nat := 0
  /-- The flush whose write is in progress. -/
  flight : Option Flight := none
  deriving DecidableEq, Repr

namespace Outlet

/-- Chooses whether storage is given up. -/
def withReleaseBuffers (o : Outlet) (release : Bool) : Outlet :=
  { o with releaseBuffers := release }

/-- An outlet on a connection. -/
def make (connection : Nat) (release : Bool) : Outlet :=
  { connection : Outlet }.withReleaseBuffers release

/-- Adds bytes at the end of the queue. -/
def append (o : Outlet) (data : Bytes) : Outlet := { o with queue := o.queue ++ data }

/-- The number of bytes that wait, those in flight included. -/
def pending (o : Outlet) : Nat := o.queue.length + o.inFlight

/-- Starts on fresh storage if the queue has drained and storage is to be given up. -/
def settle (o : Outlet) : Outlet :=
  if o.releaseBuffers && o.queue.isEmpty then { o with queue := [] } else o

/-- How an operation goes on. -/
inductive Progress where
  /-- It has to wait until an earlier flush of this outlet lands. -/
  | busy
  | ended (outcome : Outcome Nat)
  /-- The connection is asked to write a block. -/
  | writing (block : Bytes)
  deriving DecidableEq, Repr

/-- The first half of a flush: takes the whole queue as a block, unless there is nothing in it. -/
def begin (o : Outlet) (purpose : Purpose) : Outlet × Option Bytes :=
  if o.queue.isEmpty then (o, none)
  else
    ({ o with queue := [], inFlight := o.queue.length, flight := some ⟨o.queue, purpose⟩ },
      some o.queue)

/-- The second half of a flush: takes what the connection answered to its block. -/
def land (o : Outlet) (block : Bytes) (answer : WriteAnswer) : Outlet × Outcome Nat :=
  let o := { o with flight := none }
  match answer with
  | .accepted count =>
      let accepted := min count block.length
      ({ o with queue := block.drop accepted ++ o.queue, inFlight := 0 }.settle, .value accepted)
  | .failed error => ({ o with queue := block ++ o.queue, inFlight := 0 }.settle, .failed error)
  | .panicked panic => (o, .panicked panic)

/-- The next step of draining: ends when nothing is pending, else flushes. A queue with nothing in
it cannot make up for bytes that are only counted, so it ends as a refused write. -/
def drain (o : Outlet) (total : Nat) : Outlet × Progress :=
  if o.pending = 0 then (o, .ended (.value total))
  else
    match o.begin (.drain total) with
    | (o, some block) => (o, .writing block)
    | (o, none) => (o, .ended (.failed (.plain .writeZero)))

/-- Starts an operation made of flushes. A flush of an empty queue ends at once, and so does
draining when nothing is pending; everything else waits for an earlier flush to land. -/
def start (o : Outlet) (purpose : Purpose) : Outlet × Progress :=
  match purpose with
  | .drain total =>
      if o.pending = 0 then (o, .ended (.value total))
      else if o.flight.isSome then (o, .busy)
      else o.drain total
  | _ =>
      if o.flight.isSome then (o, .busy)
      else
        match o.begin purpose with
        | (o, some block) => (o, .writing block)
        | (o, none) => (o, .ended (.value 0))

/-- Goes on with an operation after one of its flushes has landed. Draining goes on after every
write that accepted something or was interrupted, and gives up on any other. -/
def resume (o : Outlet) (purpose : Purpose) (outcome : Outcome Nat) : Outlet × Progress :=
  match purpose with
  | .drain total =>
      match outcome with
      | .value accepted =>
          if accepted = 0 ∧ 0 < o.pending then (o, .ended (.failed (.plain .writeZero)))
          else o.drain (total + accepted)
      | .failed error =>
          if error.kind = .interrupted then o.drain total else (o, .ended (.failed error))
      | .panicked panic => (o, .ended (.panicked panic))
  | _ => (o, .ended outcome)

/-- Takes the connection's answer to the write in progress, if there is one, and goes on with the
operation that the write is part of. -/
def answer (o : Outlet) (a : WriteAnswer) : Option (Outlet × Purpose × Progress) :=
  o.flight.map fun flight =>
    let (o, outcome) := o.land flight.block a
    let (o, progress) := o.resume flight.purpose outcome
    (o, flight.purpose, progress)

/-- An outlet shown with its fields. -/
def describe (o : Outlet) : String :=
  Text.someFields "WriteBio"
    [("pending", toString o.pending), ("release_buffers", Text.ofBool o.releaseBuffers)]

/-! ### Laws of the operations -/

@[simp] theorem settle_eq (o : Outlet) : o.settle = o := by
  obtain ⟨c, r, q, n, f⟩ := o
  cases q <;> cases r <;> rfl

theorem begin_of_empty {o : Outlet} (h : o.queue = []) (purpose : Purpose) :
    o.begin purpose = (o, none) := by
  simp [begin, h]

theorem begin_of_queued {o : Outlet} (h : o.queue ≠ []) (purpose : Purpose) :
    o.begin purpose =
      ({ o with queue := [], inFlight := o.queue.length, flight := some ⟨o.queue, purpose⟩ },
        some o.queue) := by
  simp [begin, h]

theorem queue_land_accepted (o : Outlet) (block : Bytes) (count : Nat) :
    (o.land block (.accepted count)).1.queue = block.drop (min count block.length) ++ o.queue := by
  simp [land]

theorem pending_land_accepted (o : Outlet) (block : Bytes) (count : Nat) :
    (o.land block (.accepted count)).1.pending =
      block.length - min count block.length + o.queue.length := by
  simp [land, pending]

end Outlet

end Conduit

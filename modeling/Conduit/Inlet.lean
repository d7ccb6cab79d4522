import Conduit.Connection
import Conduit.Log
import Conduit.Readiness
import Conduit.Settings
/-!
# Inlets

The inbound adapter: bytes pumped from a connection wait in its buffer until the engine asks for
them.

A pump has two halves. `beginPump` offers the connection a room and marks the inlet as reading;
`endPump` takes the answer. Between the two everything but a second pump may happen to the inlet,
so the second half looks at the buffer as it is then.

## Main definitions

* `Conduit.Inlet`, with `make`, `request`, `pending`, `markEnded`.
* `Conduit.Inlet.beginPump` and `Conduit.Inlet.endPump`: the two halves of a pump.

## Main results

* `request_of_empty`, `request_of_buffered`: what a request yields.
* `buffer_endPump`: what an answered pump adds to the buffer.
-/

namespace Conduit

/-- The largest room that storage can be found for. -/
def largestRoom : Nat := 0x7fffffffffffffff

/-- Bytes on their way from a connection to the engine. -/
structure Inlet where
  /-- The connection that is read. -/
  connection : Nat
  /-- The room given to each read. -/
  recordSize : Nat := defaultRecordSize
  /-- Whether storage is given up each time the buffer drains. -/
  releaseBuffers : Bool := false
  /-- Bytes read and not yet handed on, oldest first. -/
  buffer : Bytes := []
  /-- Whether the end of the stream has been seen or marked. -/
  ended : Bool := false
  /-- Whether a read of the connection is in progress. -/
  reading : Bool := false
  deriving DecidableEq, Repr

namespace Inlet

/-- Chooses whether storage is given up. -/
def withReleaseBuffers (i : Inlet) (release : Bool) : Inlet :=
  { i with releaseBuffers := release }

/-- Chooses the record size; zero is no size and changes nothing. -/
def withRecordSize (i : Inlet) (size : Nat) : Inlet :=
  if size = 0 then i else { i with recordSize := size }

/-- An inlet on a connection, with record sizes chosen one after the other. -/
def make (connection : Nat) (release : Bool) (sizes : List Nat) : Inlet :=
  sizes.foldl withRecordSize ({ connection : Inlet }.withReleaseBuffers release)

/-- The number of bytes that wait. -/
def pending (i : Inlet) : Nat := i.buffer.length

/-- Marks the end of the stream. -/
def markEnded (i : Inlet) : Inlet := { i with ended := true }

/-- Starts on fresh storage if the buffer has drained and storage is to be given up. -/
def settle (i : Inlet) : Inlet :=
  if i.releaseBuffers && i.buffer.isEmpty then { i with buffer := [] } else i

/-- Takes up to `size` bytes from the front of the buffer. With nothing buffered, says whether the
stream has ended or more may come. -/
def request (i : Inlet) (size : Nat) : Readiness Bytes × Inlet :=
  if i.buffer.isEmpty then (if i.ended then .ended else .wouldBlock, i)
  else (.ready (i.buffer.take size), { i with buffer := i.buffer.drop size }.settle)

/-- How a pump begins. -/
inductive PumpStart where
  /-- Another pump of this inlet has not finished yet. -/
  | busy
  /-- No storage can be found for the record. -/
  | overflow (panic : Panic)
  /-- The connection is asked to read into a room of zeros. -/
  | reading (room : Bytes)

/-- The first half of a pump: asks for one record from the connection. -/
def beginPump (i : Inlet) : Inlet × PumpStart :=
  if i.reading then (i, .busy)
  else if largestRoom < i.recordSize then (i, .overflow (.text "capacity overflow"))
  else ({ i with reading := true }, .reading (emptyRoom i.recordSize))

/-- The bytes that an answer delivers: as many as its count says of what is left in the room, and
never more than the room holds. -/
def delivered (i : Inlet) : ReadAnswer → Bytes
  | .returned count written => (fill (emptyRoom i.recordSize) written).take count
  | .failed _ => []
  | .panicked _ => []

/-- The second half of a pump: takes in what the connection answered. A count of zero ends the
stream. -/
def endPump (i : Inlet) (answer : ReadAnswer) : Inlet × Outcome Nat × List LogLine :=
  let i := { i with reading := false }
  match answer with
  | .returned count _ =>
      let arrived := i.delivered answer
      let i := if arrived.isEmpty then i.settle else { i with buffer := i.buffer ++ arrived }
      if count = 0 then
        (i.markEnded, .value arrived.length, if i.ended then [] else [.streamEnded])
      else (i, .value arrived.length, [])
  | .failed error => (i.settle, .failed error, [])
  | .panicked panic => (i, .panicked panic, [])

/-- An inlet shown with its fields. -/
def describe (i : Inlet) : String :=
  Text.someFields "ReadBio"
    [("pending", toString i.pending), ("eof", Text.ofBool i.ended),
     ("release_buffers", Text.ofBool i.releaseBuffers), ("record_size", toString i.recordSize)]

/-! ### Laws of the operations -/

@[simp] theorem settle_eq (i : Inlet) : i.settle = i := by
  obtain ⟨c, r, f, b, e, p⟩ := i
  cases b <;> cases f <;> rfl

theorem request_of_empty {i : Inlet} (h : i.buffer = []) (size : Nat) :
    i.request size = (if i.ended then .ended else .wouldBlock, i) := by
  simp [request, h]

theorem request_of_buffered {i : Inlet} (h : i.buffer ≠ []) (size : Nat) :
    i.request size = (.ready (i.buffer.take size), { i with buffer := i.buffer.drop size }) := by
  simp [request, h]

theorem length_delivered_returned (i : Inlet) (count : Nat) (written : Bytes) :
    (i.delivered (.returned count written)).length = min count i.recordSize := by
  simp [delivered]

theorem buffer_endPump (i : Inlet) (answer : ReadAnswer) :
    (i.endPump answer).1.buffer = i.buffer ++ i.delivered answer := by
  cases answer with
  | returned count written =>
    simp only [endPump, delivered, settle_eq]
    split <;> split <;> simp_all [markEnded]
  | failed error => simp [endPump, delivered]
  | panicked panic => simp [endPump, delivered]

end Inlet

end Conduit

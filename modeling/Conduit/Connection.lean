import Conduit.Failure.Basic
/-!
# Connections

What passes between an adapter and the connection under it. A connection is not part of this
library: it is asked to read or to write, and its answer may be anything at all.

A read is offered a room of zeros. What the connection writes there covers the front of the room,
and the count it returns need not agree with what it wrote.

## Main definitions

* `Conduit.ReadAnswer`, `Conduit.WriteAnswer`: the answers of a connection.
* `Conduit.Outcome`: how an operation on an adapter ends.
* `Conduit.emptyRoom` and `Conduit.fill`: the room that is offered, and what is left in it.

## Main results

* `Conduit.length_fill`: filling keeps the size of the room.
* `Conduit.fill_getElem?_of_le`: beyond what was written the room is as it was.
-/

namespace Conduit

/-- A string of bytes. -/
abbrev Bytes := List UInt8

/-- The answer of a connection that was asked to read. -/
inductive ReadAnswer where
  /-- The connection returns a count after it wrote to the front of the room. -/
  | returned (count : Nat) (written : Bytes)
  | failed (error : IoError)
  | panicked (panic : Panic)
  deriving DecidableEq, Repr

/-- The answer of a connection that was asked to write. -/
inductive WriteAnswer where
  /-- The connection says that it has accepted so many bytes. -/
  | accepted (count : Nat)
  | failed (error : IoError)
  | panicked (panic : Panic)
  deriving DecidableEq, Repr

/-- How an operation on an adapter ends. -/
inductive Outcome (α : Type) where
  | value (value : α)
  | failed (error : IoError)
  | panicked (panic : Panic)
  deriving DecidableEq, Repr

/-- The room offered to a connection: zeros throughout. -/
def emptyRoom (size : Nat) : Bytes := List.replicate size 0

/-- What is left in a room after something was written to its front. -/
def fill (room written : Bytes) : Bytes :=
  written.take room.length ++ room.drop written.length

@[simp] theorem length_emptyRoom (size : Nat) : (emptyRoom size).length = size :=
  List.length_replicate

@[simp] theorem length_fill (room written : Bytes) : (fill room written).length = room.length := by
  simp only [fill, List.length_append, List.length_take, List.length_drop]
  omega

theorem fill_getElem?_of_le (room written : Bytes) {i : Nat} (h : written.length ≤ i) :
    (fill room written)[i]? = room[i]? := by
  by_cases hr : i < room.length
  · have hm : min room.length written.length = written.length := by omega
    rw [fill, List.getElem?_append_right (by simp only [List.length_take]; omega),
      List.length_take, hm, List.getElem?_drop]
    congr 1
    omega
  · rw [List.getElem?_eq_none (by rw [length_fill]; omega), List.getElem?_eq_none (by omega)]

end Conduit

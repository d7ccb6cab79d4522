import Conduit.Connection
import Conduit.Log
/-!
# Endpoints of the engine's own

What can stand behind an endpoint other than an adapter: a memory buffer, or answers laid down
beforehand.

## Main definitions

* `Conduit.Transfer`: what a call that moves bytes towards the engine returns.
* `Conduit.Memory`: a memory buffer, with `read`, `write` and `control`.
* `Conduit.Scripted`: answers laid down beforehand, with `read` and `write`.

## Main results

* `Conduit.Memory.read_write`: what was written to an empty buffer is read from it.
-/

namespace Conduit

/-- The count that a call returns, and the bytes that it put into the engine's buffer. The count
need not be that of the bytes. -/
structure Transfer where
  code : Int
  bytes : Bytes := []
  deriving DecidableEq, Repr

/-- The largest count that fits the engine's plain integers. -/
def largestCount : Nat := 0x7fffffff

/-- The largest count that fits the engine's long integers. -/
def largestLongCount : Nat := 0x7fffffffffffffff

/-- A count as a plain integer, cut off at the largest one. -/
def toCount (n : Nat) : Int := min n largestCount

/-- A count as a long integer, cut off at the largest one. -/
def toLongCount (n : Nat) : Int := min n largestLongCount

/-- A memory buffer: a queue of bytes. -/
structure Memory where
  /-- The bytes that can be read. -/
  contents : Bytes := []
  /-- The bytes read since the last write; until the next one they can still be had again. -/
  consumed : Bytes := []
  /-- What a read of an empty buffer returns. Unless it is zero the read has to be tried again. -/
  endCode : Int := -1
  /-- Whether the bytes go when the buffer goes. -/
  owning : Bool := true
  deriving DecidableEq, Repr

namespace Memory

/-- Reads from a memory buffer, and says whether the read has to be tried again. Where no buffer is
given to read into, nothing is taken. -/
def read (m : Memory) (size : Nat) (present : Bool) : Memory × Transfer × Bool :=
  let n := min size m.contents.length
  if present && 0 < n then
    let bytes := m.contents.take n
    ({ m with contents := m.contents.drop n, consumed := m.consumed ++ bytes }, ⟨n, bytes⟩, false)
  else if m.contents.isEmpty then (m, ⟨m.endCode, []⟩, m.endCode ≠ 0)
  else (m, ⟨n, []⟩, false)

/-- Writes to a memory buffer. -/
def write (m : Memory) (data : Bytes) : Memory :=
  { m with contents := m.contents ++ data, consumed := [] }

/-- Answers a control command, given by number, whose argument is zero. -/
def control (m : Memory) (number : Int) : Memory × Int :=
  match number with
  -- empties the buffer
  | 1 => ({ m with contents := [], consumed := [] }, 1)
  -- asks whether it is empty
  | 2 => (m, if m.contents.isEmpty then 1 else 0)
  -- ask how much there is to read
  | 3 => (m, m.contents.length)
  | 10 => (m, m.contents.length)
  -- ask whether the bytes go with the buffer, and set that they do not
  | 8 => (m, if m.owning then 1 else 0)
  | 9 => ({ m with owning := false }, 1)
  -- ask for nothing that would take doing
  | 11 => (m, 1)
  | 12 => (m, 1)
  | 115 => (m, 1)
  -- goes back to the first byte that can still be had, and asks how far on the reader is
  | 128 => ({ m with contents := m.consumed ++ m.contents, consumed := [] }, 0)
  | 133 => (m, m.consumed.length)
  -- sets what a read of an empty buffer returns
  | 130 => ({ m with endCode := 0 }, 1)
  | _ => (m, 0)

theorem read_write {m : Memory} (hm : m.contents = []) {data : Bytes} (h : 0 < data.length) :
    ((m.write data).read data.length true).2.1 = ⟨data.length, data⟩ := by
  simp [read, write, hm, h]

end Memory

/-- Answers laid down beforehand. -/
structure Scripted where
  /-- The answers to reads: the bytes put into the buffer and the count returned. -/
  reads : List Transfer := []
  /-- The counts returned to writes. -/
  writes : List Int := []
  /-- The calls met so far, with the size of each. -/
  seen : List (Side × Nat) := []
  deriving DecidableEq, Repr

namespace Scripted

/-- Answers a read into a buffer of that size: with the next answer laid down, as far as its bytes
fit, else with zero. -/
def read (s : Scripted) (size : Nat) (present : Bool) : Scripted × Transfer :=
  let seen := s.seen ++ [(.inbound, size)]
  match s.reads with
  | [] => ({ s with seen }, ⟨0, []⟩)
  | t :: rest =>
      let bytes := if present then t.bytes.take size else []
      ({ s with reads := rest, seen }, { t with bytes })

/-- Answers a write of that size: with the next count laid down, else with the whole size. -/
def write (s : Scripted) (size : Nat) : Scripted × Int :=
  let seen := s.seen ++ [(.outbound, size)]
  match s.writes with
  | [] => ({ s with seen }, size)
  | n :: rest => ({ s with writes := rest, seen }, n)

end Scripted

end Conduit

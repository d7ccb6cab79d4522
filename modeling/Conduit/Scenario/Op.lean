import Conduit.Session.Run
/-!
# Scenarios

A scenario is a list of operations on named objects, among them connections whose answers are laid
down beforehand. An answer may hold operations of its own, which are carried out while the
connection is being asked.

## Main definitions

* `Conduit.Scenario.Planned`, `ReadPlan`, `WritePlan`: the answers laid down for a connection.
* `Conduit.Scenario.Op`: the operations.
* `Conduit.Scenario.workload`: a bound on what a list of operations can set in motion.
-/

namespace Conduit.Scenario

/-- An answer laid down for a connection, with the operations to carry out before it is given. -/
structure Planned (ω α : Type) where
  during : List ω := []
  act : α

/-- What a connection does when it is asked to read. -/
inductive ReadPlan where
  /-- Gives what fits of some bytes, and keeps the rest for the next read. -/
  | give (data : Bytes)
  /-- Gives what fits of some bytes, but returns a count of its own. -/
  | pretend (data : Bytes) (count : Nat)
  | fail (error : IoError)
  | panic (panic : Panic)
  deriving Repr

/-- What a connection does when it is asked to write. -/
inductive WritePlan where
  /-- Accepts the block, or as much of it as a limit allows. -/
  | accept (limit : Option Nat)
  /-- Says that it accepted a count, whatever it was offered. -/
  | pretend (count : Nat)
  | fail (error : IoError)
  | panic (panic : Panic)
  deriving Repr

/-- An operation of a scenario; objects are given by name. -/
inductive Op where
  -- connections
  | connection (name : String) (reads : List (Planned Op ReadPlan))
      (writes : List (Planned Op WritePlan)) (readLimit writeLimit : Option Nat)
  | extend (connection : String) (reads : List (Planned Op ReadPlan))
      (writes : List (Planned Op WritePlan))
  | written (connection : String)
  | socket (name : String) (network : Bool)
  | peerWrite (connection : String) (data : Bytes)
  | peerRead (connection : String) (size : Nat)
  | peerShutdown (connection : String)
  | peerClose (connection : String)
  -- adapters
  | inlet (name connection : String) (release : Bool) (sizes : List Nat)
  | outlet (name connection : String) (release : Bool)
  | describe (object : String)
  | pending (adapter : String)
  | append (outlet : String) (data : Bytes)
  | flush (object : String)
  | pump (object : String)
  | request (inlet : String) (size : Nat)
  | markEnded (inlet : String)
  | isEnded (inlet : String)
  -- endpoints
  | attach (adapter name : String)
  | token (endpoint : String)
  | disconnect (endpoint adapter : String)
  | info (endpoint : String)
  | setData (endpoint : String) (number : Nat)
  | setFlags (endpoint : String) (flags : Nat)
  | flags (endpoint : String)
  | share (endpoint name : String)
  | free (endpoint : String)
  | read (endpoint : String) (size : Int) (present : Bool)
  | write (endpoint : String) (size : Int) (buffer : Option Bytes)
  | control (endpoint : String) (number : Int)
  | callRead (endpoint : String) (size : Int) (present : Bool)
  | callWrite (endpoint : String) (size : Int) (buffer : Option Bytes)
  | callControl (side : Side) (endpoint : Option String) (number : Int)
  | callCreate (side : Side) (endpoint : Option String)
  | callDestroy (side : Side) (endpoint : Option String)
  -- streams and foreign endpoints
  | memory (name : String)
  | scripted (name : String) (script : Scripted)
  | seen (endpoint : String)
  | streamRead (endpoint : String) (size : Nat)
  | streamWrite (endpoint : String) (data : Bytes)
  | streamWriteAll (endpoint : String) (data : Bytes)
  | streamFlush (endpoint : String)
  -- duplexes
  | duplex (name connection : String) (settings : Settings)
  | flushAll (duplex : String)
  | close (duplex : String)
  | isClosed (duplex : String)
  -- names and faults
  | keep (object name : String)
  | drop (object : String)
  | expectFault (call : String) (skip : Nat)
  | engineCalls
  | unknown (name : String)

/-! ### How much there is to do -/

mutual

/-- The bytes, answers and operations that one operation brings with it. -/
def Op.weight : Op → Nat
  | .connection _ reads writes _ _ => 1 + readsWeight reads + writesWeight writes
  | .extend _ reads writes => 1 + readsWeight reads + writesWeight writes
  | .append _ data => 1 + data.length
  | .write _ _ buffer => 1 + (buffer.getD []).length
  | .callWrite _ _ buffer => 1 + (buffer.getD []).length
  | .streamWrite _ data => 1 + data.length
  | .streamWriteAll _ data => 1 + data.length
  | _ => 1

/-- The weight of a list of operations. -/
def opsWeight : List Op → Nat
  | [] => 0
  | op :: rest => op.weight + opsWeight rest

/-- The weight of the answers laid down for reads. -/
def readsWeight : List (Planned Op ReadPlan) → Nat
  | [] => 0
  | ⟨during, _⟩ :: rest => 1 + opsWeight during + readsWeight rest

/-- The weight of the answers laid down for writes. -/
def writesWeight : List (Planned Op WritePlan) → Nat
  | [] => 0
  | ⟨during, _⟩ :: rest => 1 + opsWeight during + writesWeight rest

end

/-- A bound on how deep carrying out a list of operations can go: every operation takes a few
steps, and one that flushes repeatedly takes a step for each byte and each answer there is. -/
def workload (ops : List Op) : Nat := (opsWeight ops + 8) * (opsWeight ops + 8)

end Conduit.Scenario

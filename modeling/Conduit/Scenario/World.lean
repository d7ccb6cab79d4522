import Conduit.Scenario.Connection
import Conduit.Scenario.Report
/-!
# The world of a scenario

A session, the connections under it, and the names by which a scenario speaks of its objects. A
name stands for an object as a whole or, with a part after a dot, for a part of a duplex. An object
is dropped when the last name that stands for it is gone.

## Main definitions

* `Conduit.Scenario.Thing`: what a name stands for.
* `Conduit.Scenario.World`, with the look-ups `find`, `connection`, `endpoint`, `inlet`, `outlet`
  and `duplex`.
-/

namespace Conduit.Scenario

/-- What a name stands for, by key. -/
inductive Thing where
  | connection (key : Nat)
  | inlet (key : Nat)
  | outlet (key : Nat)
  | duplex (key : Nat)
  /-- An endpoint made by an adapter and owned by its names. -/
  | owned (endpoint : Nat)
  /-- A reference of its own to an endpoint. -/
  | raw (endpoint : Nat)
  /-- An endpoint that belongs to a duplex. -/
  | lent (endpoint : Nat)
  /-- An endpoint that is not this library's. -/
  | foreign (endpoint : Nat)
  deriving DecidableEq, Repr

/-- A session with its connections and names. -/
structure World where
  session : Session := {}
  connections : Table Nat Connection := ∅
  names : Table String Thing := ∅
  /-- A key beyond all that are in use. -/
  nextKey : Nat := 0

namespace World

/-- A world in which both method tables have been built before. -/
def usual : World := {}

/-- A world in which no method table has been built yet. -/
def fresh : World := { session := { engine := {} } }

/-- The part of a duplex of that name. -/
def part? (d : Duplex) (name : String) : Option Thing :=
  match name with
  | "reader" => some (.inlet d.inlet)
  | "writer" => some (.outlet d.outlet)
  | "rbio" => some (.lent d.readEnd)
  | "wbio" => some (.lent d.writeEnd)
  | _ => none

/-- A name cut at its first dot. -/
def splitName (name : String) : String × Option String :=
  let cs := name.toList
  match cs.dropWhile (· ≠ '.') with
  | [] => (name, none)
  | _ :: rest => (String.ofList (cs.takeWhile (· ≠ '.')), some (String.ofList rest))

/-- What a name stands for. Only a duplex has parts. -/
def find (w : World) (name : String) : Except Misstep Thing :=
  match w.names.get? name, splitName name with
  | some t, _ => .ok t
  | none, (_, none) => .error .noObject
  | none, (whole, some part) =>
      match w.names.get? whole with
      | none => .error .noObject
      | some (.duplex k) =>
          match (w.session.duplexes.get? k).bind (part? · part) with
          | some t => .ok t
          | none => .error .noPart
      | some _ => .error .noPart

/-- The connection that a thing is, if it is one. -/
def connection? (w : World) : Thing → Option (Nat × Connection)
  | .connection k => (w.connections.get? k).map (k, ·)
  | _ => none

/-- Looks up a connection. -/
def connection (w : World) (name : String) : Except Misstep (Nat × Connection) := do
  match w.connection? (← w.find name) with
  | some c => .ok c
  | none => .error .notConnection

/-- Looks up a connection that follows a script. -/
def line (w : World) (name : String) : Except Misstep (Nat × Line) := do
  match w.connection? (← w.find name) with
  | some (k, .line l) => .ok (k, l)
  | _ => .error .notScripted

/-- Looks up a socket whose peer is there. -/
def socket (w : World) (name : String) : Except Misstep (Nat × Socket) := do
  match w.connection? (← w.find name) with
  | some (k, .socket s) => if s.peerOpen then .ok (k, s) else .error .peerClosed
  | _ => .error .notSocket

/-- Looks up an endpoint of any kind. -/
def endpoint (w : World) (name : String) : Except Misstep Nat := do
  match ← w.find name with
  | .owned e => .ok e
  | .raw e => .ok e
  | .lent e => .ok e
  | .foreign e => .ok e
  | _ => .error .notEndpoint

/-- Looks up an endpoint where one is named. -/
def endpoint? (w : World) : Option String → Except Misstep (Option Nat)
  | none => .ok none
  | some name => (w.endpoint name).map some

/-- Looks up an endpoint that is owned. -/
def owned (w : World) (name : String) : Except Misstep Nat := do
  match ← w.find name with
  | .owned e => .ok e
  | _ => .error .notOwned

/-- Looks up a duplex. -/
def duplex (w : World) (name : String) : Except Misstep (Nat × Duplex) := do
  match ← w.find name with
  | .duplex k =>
      match w.session.duplexes.get? k with
      | some d => .ok (k, d)
      | none => .error .noObject
  | _ => .error .notDuplex

/-- Looks up an inlet. -/
def inlet (w : World) (name : String) : Except Misstep Nat := do
  match ← w.find name with
  | .inlet k => .ok k
  | _ => .error .notInlet

/-- Looks up an outlet. -/
def outlet (w : World) (name : String) : Except Misstep Nat := do
  match ← w.find name with
  | .outlet k => .ok k
  | _ => .error .notOutlet

/-- Looks up an adapter. -/
def adapter (w : World) (name : String) : Except Misstep Adapter := do
  match ← w.find name with
  | .inlet k => .ok (.inlet k)
  | .outlet k => .ok (.outlet k)
  | _ => .error .notAdapter

/-- The number of bytes that wait in an adapter. -/
def pending (w : World) : Adapter → Nat
  | .inlet k => ((w.session.inlets.get? k).map Inlet.pending).getD 0
  | .outlet k => ((w.session.outlets.get? k).map Outlet.pending).getD 0

/-- An adapter shown with its fields. -/
def describeAdapter (w : World) : Adapter → String
  | .inlet k => ((w.session.inlets.get? k).map Inlet.describe).getD ""
  | .outlet k => ((w.session.outlets.get? k).map Outlet.describe).getD ""

/-- An owned endpoint as it is shown; its address says nothing. -/
def endpointText : String := "Bio(PTR)"

/-- A duplex shown with its fields. -/
def describeDuplex (w : World) (d : Duplex) : String :=
  Text.fields "Bridge"
    [("reader", w.describeAdapter (.inlet d.inlet)),
     ("writer", w.describeAdapter (.outlet d.outlet)),
     ("read_bio", endpointText), ("write_bio", endpointText), ("closed", Text.ofBool d.closed)]

/-- The retry flags of an endpoint, as a number. -/
def flags (w : World) (e : Nat) : Nat :=
  ((w.session.endpoints.get? e).map fun b => b.flags.low).getD 0

/-- Whether some name stands for a thing. -/
def isNamed (w : World) (t : Thing) : Bool := w.names.entries.any fun e => e.2 = t

/-- Lets a name stand for a thing. -/
def bind (w : World) (name : String) (t : Thing) : World :=
  { w with names := w.names.put name t }

/-- What it takes to drop a thing for which no name stands any more. -/
def dropEvent? (w : World) (t : Thing) : Option Event :=
  if w.isNamed t then none
  else
    match t with
    | .owned e => some (.free e)
    | .foreign e => some (.free e)
    | .duplex k => some (.dropDuplex k)
    | _ => none

end World

end Conduit.Scenario

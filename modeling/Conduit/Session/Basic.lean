import Conduit.Endpoint.Basic
import Conduit.Engine
import Conduit.Inlet
import Conduit.Outlet
import Conduit.Roster.Basic
/-!
# Sessions

Everything that one process holds: adapters, endpoints and duplexes, each under a key that its
maker chose, and the two rosters through which an endpoint's token leads to its adapter.

The rosters of the two sides issue their tokens independently of each other, so one number may
stand for an inlet and for an outlet at once. A token says nothing about its side; the side is that
of the callback, or of the adapter, which looks it up.

## Main definitions

* `Conduit.Duplex`: an inlet and an outlet over one connection, with an endpoint for each.
* `Conduit.Session`, with `roster`, `token?`, `inletAt?` and `outletAt?`.
* `Conduit.Effect`: what an operation on a session does.

## Main results

* One lemma for each part of a session that an update leaves alone.
-/

namespace Conduit

/-- The keys of an inlet and an outlet over one connection, and of the endpoints through which the
engine uses them. -/
structure DuplexKeys where
  inlet : Nat
  outlet : Nat
  readEnd : Nat
  writeEnd : Nat
  deriving DecidableEq, Repr

/-- An inlet and an outlet over one connection, which are closed together. -/
structure Duplex extends DuplexKeys where
  /-- Whether it has been closed. -/
  closed : Bool := false
  deriving DecidableEq, Repr

/-- Everything that one process holds. -/
structure Session where
  engine : Engine := .prepared
  inlets : Table Nat Inlet := ∅
  outlets : Table Nat Outlet := ∅
  endpoints : Table Nat Endpoint := ∅
  duplexes : Table Nat Duplex := ∅
  /-- The keys of the inlets that are attached, by token. -/
  inletRoster : Roster Nat := ∅
  /-- The keys of the outlets that are attached, by token. -/
  outletRoster : Roster Nat := ∅

/-- What an operation does: the session that it leaves, what it yields and what it logs. -/
structure Effect (α : Type) where
  session : Session
  value : α
  log : List LogLine := []

namespace Session

/-- The roster of a side. -/
def roster (s : Session) : Side → Roster Nat
  | .inbound => s.inletRoster
  | .outbound => s.outletRoster

/-- Replaces the roster of a side. -/
def withRoster (s : Session) (side : Side) (r : Roster Nat) : Session :=
  match side with
  | .inbound => { s with inletRoster := r }
  | .outbound => { s with outletRoster := r }

/-- Changes an endpoint. -/
def modifyEndpoint (s : Session) (e : Nat) (f : Endpoint → Endpoint) : Session :=
  { s with endpoints := s.endpoints.modify e f }

/-- Overwrites the data field of an endpoint. -/
def setData (s : Session) (e : Nat) (data : Option Token) : Session :=
  s.modifyEndpoint e fun b => { b with data }

/-- Changes the flag word of an endpoint. -/
def modifyFlags (s : Session) (e : Nat) (f : Flags → Flags) : Session :=
  s.modifyEndpoint e fun b => { b with flags := f b.flags }

/-- The token in the data field of an endpoint. -/
def token? (s : Session) (e : Nat) : Option Token := (s.endpoints.get? e).bind (·.data)

/-- The adapter key to which the data field of an endpoint leads on a side. -/
def resolve (s : Session) (side : Side) (e : Nat) : Option Nat :=
  (s.token? e).bind (s.roster side).get?

/-- The inlet attached to an endpoint, with its key. -/
def inletAt? (s : Session) (e : Nat) : Option (Nat × Inlet) :=
  (s.resolve .inbound e).bind fun k => (s.inlets.get? k).map (k, ·)

/-- The outlet attached to an endpoint, with its key. -/
def outletAt? (s : Session) (e : Nat) : Option (Nat × Outlet) :=
  (s.resolve .outbound e).bind fun k => (s.outlets.get? k).map (k, ·)

/-- Replaces an inlet. -/
def putInlet (s : Session) (k : Nat) (i : Inlet) : Session :=
  { s with inlets := s.inlets.put k i }

/-- Replaces an outlet. -/
def putOutlet (s : Session) (k : Nat) (o : Outlet) : Session :=
  { s with outlets := s.outlets.put k o }

/-! ### What an update leaves alone -/

@[simp] theorem roster_withRoster (s : Session) (side way : Side) (r : Roster Nat) :
    (s.withRoster side r).roster way = if way = side then r else s.roster way := by
  cases side <;> cases way <;> rfl

@[simp] theorem endpoints_withRoster (s : Session) (side : Side) (r : Roster Nat) :
    (s.withRoster side r).endpoints = s.endpoints := by
  cases side <;> rfl

@[simp] theorem inlets_withRoster (s : Session) (side : Side) (r : Roster Nat) :
    (s.withRoster side r).inlets = s.inlets := by
  cases side <;> rfl

@[simp] theorem outlets_withRoster (s : Session) (side : Side) (r : Roster Nat) :
    (s.withRoster side r).outlets = s.outlets := by
  cases side <;> rfl

@[simp] theorem duplexes_withRoster (s : Session) (side : Side) (r : Roster Nat) :
    (s.withRoster side r).duplexes = s.duplexes := by
  cases side <;> rfl

@[simp] theorem roster_modifyEndpoint (s : Session) (e : Nat) (f : Endpoint → Endpoint)
    (side : Side) : (s.modifyEndpoint e f).roster side = s.roster side := by
  cases side <;> rfl

theorem token?_setData (s : Session) (e j : Nat) (data : Option Token) :
    (s.setData e data).token? j =
      if j = e then (s.endpoints.get? e).bind fun _ => data else s.token? j := by
  unfold token? setData modifyEndpoint
  by_cases h : j = e
  · subst h
    cases hs : s.endpoints.get? j <;> simp [hs]
  · simp [h]

end Session

end Conduit

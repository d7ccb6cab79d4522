/-!
# Sides and adapters

The two ways in which bytes pass between the engine and a connection, and how an adapter is
referred to: by its side, and by its key among the adapters of that side.

## Main definitions

* `Conduit.Side`: the two ways.
* `Conduit.Adapter`, with `side` and `key`.

## Main results

* `Conduit.Adapter.eq_iff`: an adapter is known by its side and its key.
-/

namespace Conduit

/-- The way in which bytes pass: from the connection to the engine, or back. -/
inductive Side where
  | inbound
  | outbound
  deriving DecidableEq, Repr, Inhabited

/-- What the engine does on a side. -/
def Side.verb : Side → String
  | .inbound => "read"
  | .outbound => "write"

/-- An adapter by its key. -/
inductive Adapter where
  | inlet (key : Nat)
  | outlet (key : Nat)
  deriving DecidableEq, Repr

namespace Adapter

/-- The side that an adapter serves. -/
def side : Adapter → Side
  | inlet _ => .inbound
  | outlet _ => .outbound

/-- The key of an adapter among those of its side. -/
def key : Adapter → Nat
  | inlet k => k
  | outlet k => k

theorem eq_iff {a b : Adapter} : a = b ↔ a.side = b.side ∧ a.key = b.key := by
  cases a <;> cases b <;> simp [side, key]

end Adapter

end Conduit

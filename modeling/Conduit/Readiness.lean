/-!
# Readiness

The answer to a request for bytes: some are ready, none have arrived yet, or none will come any
more.

## Main definitions

* `Conduit.Readiness`, with `isWouldBlock`, `map` and `describe`.
-/

namespace Conduit

/-- What became of a request for something that may not be there yet. -/
inductive Readiness (α : Type) where
  | ready (value : α)
  | wouldBlock
  | ended
  deriving DecidableEq, Repr

namespace Readiness

variable {α β : Type}

/-- Whether the request has to be repeated later. -/
def isWouldBlock : Readiness α → Bool
  | wouldBlock => true
  | _ => false

/-- Changes what is ready. -/
def map (f : α → β) : Readiness α → Readiness β
  | ready a => ready (f a)
  | wouldBlock => wouldBlock
  | ended => ended

/-- A readiness shown with its constructor and value. -/
def describe : Readiness String → String
  | ready v => "Ready(" ++ v ++ ")"
  | wouldBlock => "WouldBlock"
  | ended => "Eof"

theorem isWouldBlock_iff {r : Readiness α} : r.isWouldBlock = true ↔ r = wouldBlock := by
  cases r <;> simp [isWouldBlock]

end Readiness

end Conduit

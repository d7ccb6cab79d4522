/-!
# Flag words

The flag word of an endpoint. Four of its bits say what has to be tried again; the others are kept
as they are.

## Main definitions

* `Conduit.Flags`: the retry flags, and the rest of the flag word.

## Main results

* `Conduit.Flags.others_clearRetry` and `Conduit.Flags.low_retryRead_clearRetry`: how the flag word
  changes.
-/

namespace Conduit

/-- The flag word of an endpoint: four retry flags, and all other bits as one number. -/
structure Flags where
  read : Bool := false
  write : Bool := false
  special : Bool := false
  shouldRetry : Bool := false
  others : Nat := 0
  deriving DecidableEq, Repr

namespace Flags

/-- The flag word with that value. -/
def ofNat (n : Nat) : Flags :=
  ⟨n.testBit 0, n.testBit 1, n.testBit 2, n.testBit 3, n / 16⟩

/-- The four retry flags as a number. -/
def low (f : Flags) : Nat :=
  f.read.toNat + 2 * f.write.toNat + 4 * f.special.toNat + 8 * f.shouldRetry.toNat

/-- Sets every flag that is set in either word. -/
def union (f g : Flags) : Flags :=
  ⟨f.read || g.read, f.write || g.write, f.special || g.special, f.shouldRetry || g.shouldRetry,
    f.others ||| g.others⟩

/-- Clears the retry flags and leaves all other bits. -/
def clearRetry (f : Flags) : Flags := { others := f.others }

/-- Says that the last read has to be tried again. -/
def retryRead (f : Flags) : Flags := { f with read := true, shouldRetry := true }

@[simp] theorem others_clearRetry (f : Flags) : f.clearRetry.others = f.others := rfl

@[simp] theorem low_clearRetry (f : Flags) : f.clearRetry.low = 0 := rfl

theorem low_retryRead_clearRetry (f : Flags) : f.clearRetry.retryRead.low = 9 := rfl

end Flags

end Conduit

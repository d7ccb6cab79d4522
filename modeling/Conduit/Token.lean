/-!
# Tokens

The handle that an endpoint stores in place of a reference to its adapter. Tokens are counted from
one, so that the number zero is free to mean that nothing is stored.

## Main definitions

* `Conduit.Token`, with `number` and `ofNumber?`.

## Main results

* `Conduit.Token.ofNumber?_number` and `Conduit.Token.number_of_ofNumber?`: a token and its number
  stand for each other.
-/

namespace Conduit

/-- A handle issued by a roster; `index` counts the tokens issued before it. -/
structure Token where
  index : Nat
  deriving DecidableEq, Repr

namespace Token

/-- The number that stands for a token in a data field. -/
def number (t : Token) : Nat := t.index + 1

/-- The token that a data field holds: none for zero. -/
def ofNumber? : Nat → Option Token
  | 0 => none
  | n + 1 => some ⟨n⟩

/-- A token as it appears in a message. -/
def display (t : Token) : String := "#" ++ toString t.number

/-- A token shown with its number as a value. -/
def describe (t : Token) : String := "Token(" ++ toString t.number ++ ")"

@[simp] theorem ofNumber?_number (t : Token) : ofNumber? t.number = some t := rfl

theorem number_of_ofNumber? {n : Nat} {t : Token} (h : ofNumber? n = some t) : t.number = n := by
  cases n with
  | zero => simp [ofNumber?] at h
  | succ n => cases h; rfl

theorem number_inj {t u : Token} : t.number = u.number ↔ t = u :=
  ⟨fun h => Option.some.inj (congrArg ofNumber? h), congrArg number⟩

theorem number_pos (t : Token) : 0 < t.number := Nat.succ_pos _

end Token

end Conduit

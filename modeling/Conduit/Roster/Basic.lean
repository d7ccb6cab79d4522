import Conduit.Table
import Conduit.Token
import Conduit.Text.Quoted
/-!
# Rosters

A roster issues a fresh token for everything that is entered and finds it again by that token until
it is struck off. No token is issued twice, so a token that was struck off never leads to anything
again.

Tokens do not run out here. A data field has room for finitely many of them, so there is a point
from which nothing more could be entered; that failure, and the error that would be logged about it,
are left out.

## Main definitions

* `Conduit.Roster`, with `add`, `get?`, `remove`, `removeIf` and `size`.

## Main results

* `Conduit.Roster.get?_add`, `get?_remove` and `get?_removeIf`: what each operation does to every
  token.
-/

namespace Conduit

/-- What has been entered under which token, and how many tokens have been issued. -/
structure Roster (α : Type) where
  /-- The number of tokens issued so far. -/
  issued : Nat := 0
  /-- What stands under the tokens that are in force. -/
  entries : Table Token α := ∅

namespace Roster

variable {α : Type}

instance : EmptyCollection (Roster α) := ⟨⟨0, ∅⟩⟩

instance : Inhabited (Roster α) := ⟨∅⟩

/-- The token that the next entry receives. -/
def next (r : Roster α) : Token := ⟨r.issued⟩

/-- Enters something under a fresh token. There always is one. -/
def add (r : Roster α) (a : α) : Token × Roster α :=
  (r.next, { issued := r.issued + 1, entries := r.entries.put r.next a })

/-- What stands under a token. -/
def get? (r : Roster α) (t : Token) : Option α := r.entries.get? t

/-- Strikes a token off; does nothing if it is not in force. -/
def remove (r : Roster α) (t : Token) : Roster α :=
  { r with entries := r.entries.erase t }

/-- Strikes a token off only if that very thing stands under it, and says whether it did. -/
def removeIf [DecidableEq α] (r : Roster α) (t : Token) (a : α) : Bool × Roster α :=
  if r.get? t = some a then (true, r.remove t) else (false, r)

/-- The number of tokens in force. -/
def size (r : Roster α) : Nat := r.entries.size

/-- Whether no token is in force. -/
def isEmpty (r : Roster α) : Bool := r.size = 0

/-- A roster shown with its size. -/
def describe (r : Roster α) : String := Text.someFields "Registry" [("len", toString r.size)]

@[simp] theorem get?_empty (t : Token) : (∅ : Roster α).get? t = none := rfl

@[simp] theorem get?_add (r : Roster α) (a : α) (t : Token) :
    (r.add a).2.get? t = if t = r.next then some a else r.get? t := by
  simp [add, get?]

@[simp] theorem issued_add (r : Roster α) (a : α) : (r.add a).2.issued = r.issued + 1 := rfl

@[simp] theorem get?_remove (r : Roster α) (t u : Token) :
    (r.remove t).get? u = if u = t then none else r.get? u := by
  simp [remove, get?]

@[simp] theorem issued_remove (r : Roster α) (t : Token) : (r.remove t).issued = r.issued := rfl

theorem removeIf_fst [DecidableEq α] (r : Roster α) (t : Token) (a : α) :
    (r.removeIf t a).1 = true ↔ r.get? t = some a := by
  unfold removeIf
  split <;> simp_all

theorem removeIf_snd_of_false [DecidableEq α] {r : Roster α} {t : Token} {a : α}
    (h : (r.removeIf t a).1 = false) : (r.removeIf t a).2 = r := by
  unfold removeIf at h ⊢
  split <;> simp_all

theorem get?_removeIf [DecidableEq α] (r : Roster α) (t u : Token) (a : α) :
    (r.removeIf t a).2.get? u = if u = t ∧ r.get? t = some a then none else r.get? u := by
  unfold removeIf
  split <;> simp_all

end Roster

end Conduit

import Conduit.Roster.Basic
/-!
# Scripted rosters

A list of operations on rosters, tokens and shared objects that are addressed by name, and the
answer of each. An object has an identity of its own: two objects with equal texts differ.

## Main definitions

* `Conduit.Roster.Op`, `Conduit.Roster.Answer`: what may be asked, and what comes back.
* `Conduit.Roster.Desk`: the names in use.
* `Conduit.Roster.Desk.run`: the answers to a list of operations.
-/

namespace Conduit.Roster

/-- An object that several names and entries may refer to. -/
structure Shared where
  /-- What tells this object from every other one. -/
  identity : Nat
  text : String
  deriving DecidableEq, Repr

/-- An operation of a script. -/
inductive Op where
  | create (name : String)
  | drop (roster : String)
  | object (name text : String)
  | release (object : String)
  | read (object : String)
  | add (roster object name : String)
  | get (roster token : String) (keep : Option String)
  | remove (roster token : String)
  | removeIf (roster token object : String)
  | size (roster : String)
  | isEmpty (roster : String)
  | describe (roster : String)
  | token (token : String)
  | sameToken (first second : String)
  | unknown (name : String)

/-- Why an operation could not be carried out. -/
inductive Misstep where
  | noRoster
  | noToken
  | noObject
  | unknownOp (name : String)
  deriving DecidableEq, Repr

/-- The text of a misstep. -/
def Misstep.message : Misstep → String
  | noRoster => "no such registry"
  | noToken => "no such token"
  | noObject => "no such value"
  | unknownOp name => "unknown op " ++ name

/-- The answer to an operation. -/
inductive Answer where
  | done
  | flag (value : Bool)
  | number (value : Nat)
  | text (value : String)
  | token (value : Token)
  | misstep (reason : Misstep)

/-- Every roster, token and object that has a name, and the number of objects made so far. -/
structure Desk where
  rosters : Table String (Roster Shared) := ∅
  tokens : Table String Token := ∅
  objects : Table String Shared := ∅
  made : Nat := 0

namespace Desk

/-- Looks up a roster by name. -/
def roster (d : Desk) (name : String) : Except Misstep (Roster Shared) :=
  match d.rosters.get? name with
  | some r => .ok r
  | none => .error .noRoster

/-- Looks up a token by name. -/
def token (d : Desk) (name : String) : Except Misstep Token :=
  match d.tokens.get? name with
  | some t => .ok t
  | none => .error .noToken

/-- Looks up an object by name. -/
def object (d : Desk) (name : String) : Except Misstep Shared :=
  match d.objects.get? name with
  | some o => .ok o
  | none => .error .noObject

/-- Carries out an operation whose names are known. Names are looked up in the order roster, token,
object. -/
def attempt (d : Desk) : Op → Except Misstep (Desk × Answer)
  | .create name => .ok ({ d with rosters := d.rosters.put name ∅ }, .done)
  | .drop name => do
      let _ ← d.roster name
      return ({ d with rosters := d.rosters.erase name }, .done)
  | .object name text =>
      .ok ({ d with objects := d.objects.put name ⟨d.made, text⟩, made := d.made + 1 }, .done)
  | .release name =>
      .ok ({ d with objects := d.objects.erase name }, .flag (d.objects.contains name))
  | .read name => do
      let o ← d.object name
      return (d, .text o.text)
  | .add rosterName objectName name => do
      let r ← d.roster rosterName
      let o ← d.object objectName
      let (t, r) := r.add o
      return ({ d with rosters := d.rosters.put rosterName r, tokens := d.tokens.put name t },
        .number t.number)
  | .get rosterName tokenName keep => do
      let r ← d.roster rosterName
      let t ← d.token tokenName
      match r.get? t, keep with
      | none, _ => return (d, .done)
      | some o, none => return (d, .text o.text)
      | some o, some name => return ({ d with objects := d.objects.put name o }, .text o.text)
  | .remove rosterName tokenName => do
      let r ← d.roster rosterName
      let t ← d.token tokenName
      return ({ d with rosters := d.rosters.put rosterName (r.remove t) }, .done)
  | .removeIf rosterName tokenName objectName => do
      let r ← d.roster rosterName
      let t ← d.token tokenName
      let o ← d.object objectName
      let (removed, r) := r.removeIf t o
      return ({ d with rosters := d.rosters.put rosterName r }, .flag removed)
  | .size name => do
      let r ← d.roster name
      return (d, .number r.size)
  | .isEmpty name => do
      let r ← d.roster name
      return (d, .flag r.isEmpty)
  | .describe name => do
      let r ← d.roster name
      return (d, .text r.describe)
  | .token name => do
      let t ← d.token name
      return (d, .token t)
  | .sameToken first second => do
      let t ← d.token first
      let u ← d.token second
      return (d, .flag (t = u))
  | .unknown name => .error (.unknownOp name)

/-- Carries out an operation; one that fails changes nothing. -/
def step (d : Desk) (op : Op) : Desk × Answer :=
  match d.attempt op with
  | .ok result => result
  | .error reason => (d, .misstep reason)

/-- The answers to a list of operations, in order. -/
def run (d : Desk) : List Op → List Answer
  | [] => []
  | op :: rest =>
      let (d, answer) := d.step op
      answer :: run d rest

end Desk

end Conduit.Roster

import Conduit.Table
import Conduit.Log
/-!
# Method tables

Before the engine can make an endpoint for a side it needs a table of callbacks for that side. The
table is put together once, by calls that may fail; whether it worked out is remembered, and it is
not tried again.

## Main definitions

* `Conduit.EngineCall`: the calls that building tables and endpoints takes.
* `Conduit.Callback`: the entries of a method table.
* `Conduit.Engine`: the calls made so far, the failures to come and the table of each side.
* `Conduit.Engine.call`, `Conduit.Engine.ensureTable`.
-/

namespace Conduit

/-- A call that this library makes to the engine and that may fail. -/
inductive EngineCall where
  | newEndpoint
  | newIndex
  | newTable
  | freeTable
  | setWrite
  | setRead
  | setControl
  | setCreate
  | setDestroy
  deriving DecidableEq, Repr

namespace EngineCall

/-- Every call, once. -/
def all : List EngineCall :=
  [newEndpoint, newIndex, newTable, freeTable, setWrite, setRead, setControl, setCreate,
   setDestroy]

/-- The engine's name for a call. -/
def name : EngineCall → String
  | newEndpoint => "BIO_new"
  | newIndex => "BIO_get_new_index"
  | newTable => "BIO_meth_new"
  | freeTable => "BIO_meth_free"
  | setWrite => "BIO_meth_set_write"
  | setRead => "BIO_meth_set_read"
  | setControl => "BIO_meth_set_ctrl"
  | setCreate => "BIO_meth_set_create"
  | setDestroy => "BIO_meth_set_destroy"

/-- The call of that name, if there is one. -/
def ofName? (s : String) : Option EngineCall := all.find? fun c => c.name = s

/-- A call is found under its name. -/
theorem ofName?_name (c : EngineCall) : ofName? c.name = some c := by cases c <;> decide

end EngineCall

/-- An entry of a method table. -/
inductive Callback where
  | write
  | read
  | control
  | create
  | destroy
  deriving DecidableEq, Repr

namespace Callback

/-- The entries in the order in which they are set. -/
def all : List Callback := [write, read, control, create, destroy]

/-- The call that sets an entry. -/
def setter : Callback → EngineCall
  | write => .setWrite
  | read => .setRead
  | control => .setControl
  | create => .setCreate
  | destroy => .setDestroy

end Callback

/-- How far the table of one side has come. -/
inductive MethodTable where
  | untried
  | built
  /-- It could not be had. By the time that showed, its callbacks may have been handed over. -/
  | failed (handedOver : Bool)
  deriving DecidableEq, Repr

/-- Whether the callbacks of a side have been handed to the engine. -/
def MethodTable.hasCallbacks : MethodTable → Bool
  | untried => false
  | built => true
  | failed handedOver => handedOver

/-- What has gone on between this library and the engine. -/
structure Engine where
  /-- How often each call was made. -/
  calls : Table EngineCall Nat := ∅
  /-- The calls that will fail, each after so many that succeed. -/
  faults : Table EngineCall Nat := ∅
  inbound : MethodTable := .untried
  outbound : MethodTable := .untried
  deriving DecidableEq, Repr

namespace Engine

/-- An engine for which both tables have been built earlier. -/
def prepared : Engine := { inbound := .built, outbound := .built }

/-- The table of a side. -/
def table (e : Engine) : Side → MethodTable
  | .inbound => e.inbound
  | .outbound => e.outbound

/-- Replaces the table of a side. -/
def withTable (e : Engine) (side : Side) (t : MethodTable) : Engine :=
  match side with
  | .inbound => { e with inbound := t }
  | .outbound => { e with outbound := t }

/-- Lets a call fail after so many that succeed, in place of an earlier such wish for that call. -/
def expectFault (e : Engine) (c : EngineCall) (skip : Nat) : Engine :=
  { e with faults := e.faults.put c skip }

/-- Makes a call and says whether it succeeded. -/
def call (e : Engine) (c : EngineCall) : Bool × Engine :=
  let e := { e with calls := e.calls.put c ((e.calls.get? c).getD 0 + 1) }
  match e.faults.get? c with
  | none => (true, e)
  | some 0 => (false, { e with faults := e.faults.erase c })
  | some (n + 1) => (true, { e with faults := e.faults.put c n })

/-- Sets the entries of a list in order, failures or not, and says whether all were set. -/
def setEntries (e : Engine) : List Callback → Bool × Engine
  | [] => (true, e)
  | c :: rest =>
      let (ok, e) := e.call c.setter
      let (restOk, e) := setEntries e rest
      (ok && restOk, e)

/-- Puts a table together. -/
def buildTable (e : Engine) : MethodTable × Engine :=
  let (ok, e) := e.call .newIndex
  if !ok then (.failed false, e)
  else
    let (ok, e) := e.call .newTable
    if !ok then (.failed false, e)
    else
      let (ok, e) := e.setEntries Callback.all
      if ok then (.built, e) else (.failed true, (e.call .freeTable).2)

/-- Sees to it that a side has its table, building it on the first occasion only; says whether
there is one. -/
def ensureTable (e : Engine) (side : Side) : Bool × Engine :=
  match e.table side with
  | .built => (true, e)
  | .failed _ => (false, e)
  | .untried =>
      let (t, e) := e.buildTable
      (t = .built, e.withTable side t)

/-- Makes an endpoint for a side, if its table can be had and the engine agrees. -/
def newEndpoint (e : Engine) (side : Side) : Bool × Engine :=
  let (ok, e) := e.ensureTable side
  if ok then e.call .newEndpoint else (false, e)

/-- The calls made so far, with how often each was made. -/
def tally (e : Engine) : List (EngineCall × Nat) :=
  EngineCall.all.filterMap fun c => (e.calls.get? c).map (c, ·)

end Engine

end Conduit

/-!
# Kinds of I/O error

The classes into which a connection's errors fall, each with its name and with the text shown for
an error that carries no message of its own.

These nineteen are not all the kinds there are. Nothing here looks at a kind except to see whether
it is an interruption, so any other would be passed on as these are; but it has no place in this
list.

## Main definitions

* `Conduit.ErrorKind`: the kinds.
* `Conduit.ErrorKind.name` and `Conduit.ErrorKind.ofName?`: the name of a kind, and back.
* `Conduit.ErrorKind.description`: the text of a bare error of that kind.

## Main results

* `Conduit.ErrorKind.ofName?_name`: a kind is found under its name.
-/

namespace Conduit

/-- The class of an I/O error. -/
inductive ErrorKind where
  | notFound
  | permissionDenied
  | connectionRefused
  | connectionReset
  | connectionAborted
  | notConnected
  | addrInUse
  | brokenPipe
  | alreadyExists
  | wouldBlock
  | invalidInput
  | invalidData
  | timedOut
  | writeZero
  | interrupted
  | unsupported
  | unexpectedEof
  | outOfMemory
  | other
  deriving DecidableEq, Repr

namespace ErrorKind

/-- Every kind, once. -/
def all : List ErrorKind :=
  [notFound, permissionDenied, connectionRefused, connectionReset, connectionAborted,
   notConnected, addrInUse, brokenPipe, alreadyExists, wouldBlock, invalidInput, invalidData,
   timedOut, writeZero, interrupted, unsupported, unexpectedEof, outOfMemory, other]

/-- The name under which a kind is reported. -/
def name : ErrorKind → String
  | notFound => "NotFound"
  | permissionDenied => "PermissionDenied"
  | connectionRefused => "ConnectionRefused"
  | connectionReset => "ConnectionReset"
  | connectionAborted => "ConnectionAborted"
  | notConnected => "NotConnected"
  | addrInUse => "AddrInUse"
  | brokenPipe => "BrokenPipe"
  | alreadyExists => "AlreadyExists"
  | wouldBlock => "WouldBlock"
  | invalidInput => "InvalidInput"
  | invalidData => "InvalidData"
  | timedOut => "TimedOut"
  | writeZero => "WriteZero"
  | interrupted => "Interrupted"
  | unsupported => "Unsupported"
  | unexpectedEof => "UnexpectedEof"
  | outOfMemory => "OutOfMemory"
  | other => "Other"

/-- The text of an error of this kind that has no message of its own. -/
def description : ErrorKind → String
  | notFound => "entity not found"
  | permissionDenied => "permission denied"
  | connectionRefused => "connection refused"
  | connectionReset => "connection reset"
  | connectionAborted => "connection aborted"
  | notConnected => "not connected"
  | addrInUse => "address in use"
  | brokenPipe => "broken pipe"
  | alreadyExists => "entity already exists"
  | wouldBlock => "operation would block"
  | invalidInput => "invalid input parameter"
  | invalidData => "invalid data"
  | timedOut => "timed out"
  | writeZero => "write zero"
  | interrupted => "operation interrupted"
  | unsupported => "unsupported"
  | unexpectedEof => "unexpected end of file"
  | outOfMemory => "out of memory"
  | other => "other error"

/-- The kind of that name, if there is one. -/
def ofName? (s : String) : Option ErrorKind := all.find? fun k => k.name = s

theorem mem_all (k : ErrorKind) : k ∈ all := by cases k <;> decide

/-- A kind is found under its name. -/
theorem ofName?_name (k : ErrorKind) : ofName? k.name = some k := by cases k <;> decide

end ErrorKind

end Conduit

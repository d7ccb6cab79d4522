import Conduit.Session.Run
/-!
# Reports

What is reported about each operation of a scenario: how it ended, what was logged, and which calls
it made to connections.

## Main definitions

* `Conduit.Scenario.Misstep`: why an operation could not be carried out.
* `Conduit.Scenario.Answer`, `Conduit.Scenario.Result`: how an operation ended.
* `Conduit.Scenario.CallReport`, `Conduit.Scenario.Report`.
-/

namespace Conduit.Scenario

/-- Why an operation could not be carried out. -/
inductive Misstep where
  | noObject
  | notConnection
  | notDuplex
  | notEndpoint
  | notAdapter
  | notInlet
  | notOutlet
  | notOwned
  | notRaw
  | notScripted
  | notScriptedEndpoint
  | notSocket
  | peerClosed
  | noDebugForm
  | noPart
  | noTable
  | noReadCallback
  | noWriteCallback
  | noCallback
  | rawNotDropped
  | blocked
  | unknownOp (name : String)
  deriving DecidableEq, Repr

/-- The text of a misstep. -/
def Misstep.message : Misstep → String
  | noObject => "no such object"
  | notConnection => "not a connection"
  | notDuplex => "not a bridge"
  | notEndpoint => "not a BIO"
  | notAdapter => "not an adapter"
  | notInlet => "not a reader"
  | notOutlet => "not a writer"
  | notOwned => "not an owned BIO"
  | notRaw => "not a raw BIO"
  | notScripted => "not a scripted connection"
  | notScriptedEndpoint => "not a scripted BIO"
  | notSocket => "not a socket"
  | peerClosed => "peer is closed"
  | noDebugForm => "no debug form"
  | noPart => "no such part"
  | noTable => "no table"
  | noReadCallback => "no read callback"
  | noWriteCallback => "no write callback"
  | noCallback => "no such callback"
  | rawNotDropped => "a raw BIO is not dropped but freed"
  | blocked => "operation in progress"
  | unknownOp name => "unknown op " ++ name

/-- What an operation that went well has to say. -/
inductive Answer where
  | nothing
  | flag (value : Bool)
  | number (value : Int)
  | text (value : String)
  | bytes (value : Bytes)
  | token (value : Option Token)
  | tokens (read write : Token)
  | readiness (value : Readiness Bytes)
  /-- A return code with the bytes that came with it and the flags left behind. -/
  | transfer (value : Transfer) (flags : Nat)
  /-- A return code with the flags left behind. -/
  | code (value : Int) (flags : Nat)
  | bareCode (value : Int)
  | stream (value : Bytes)
  | info (name : String) (flags : Nat)
  | tally (calls : List (EngineCall × Nat))
  | seen (calls : List (Side × Nat))
  deriving Repr

/-- How an operation ended. -/
inductive Result where
  | ok (answer : Answer)
  | failed (error : IoError)
  | refused (reason : Refusal)
  | panicked (panic : Panic)
  | misstep (reason : Misstep)
  deriving Repr

/-- How a call to a connection ended. -/
inductive CallEnd where
  | returned (count : Nat)
  | failed (kind : ErrorKind)
  | panicked (panic : Panic)
  deriving Repr

/-- A call to a connection, with the reports of what was carried out meanwhile. -/
structure CallReport (ρ : Type) where
  connection : String
  side : Side
  /-- The number of bytes offered. -/
  size : Nat
  /-- The bytes offered to be written. -/
  block : Bytes
  during : List ρ
  ending : CallEnd

/-- What is reported about an operation. -/
inductive Report where
  | mk (result : Result) (log : List LogLine) (calls : List (CallReport Report))

namespace Report

/-- The report of an operation that touched nothing. -/
def plain (result : Result) : Report := ⟨result, [], []⟩

instance : Inhabited Report := ⟨plain (.ok .nothing)⟩

end Report

end Conduit.Scenario

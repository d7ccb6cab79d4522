import Conduit.Failure.Kind
import Conduit.Text.Quoted
/-!
# Failures

What can go wrong. A `Refusal` is a reason of this library's own; an `IoError` is what a connection
or a byte stream reports, and may carry a refusal inside; a `Failure` is either of the two. The two
ways between `IoError` and `Failure` never wrap twice: a failure that holds an I/O error turns back
into that very error.

## Main definitions

* `Conduit.Refusal`, `Conduit.IoError`, `Conduit.Failure`.
* `Conduit.Failure.toIoError`: a failure seen as an I/O error.
* `Conduit.Failure.Nested`: failures built by wrapping others to any depth.
* `Conduit.Panic`: what a panicking connection throws.

## Main results

* `Conduit.Failure.toIoError_io`: an I/O error survives the way there and back unchanged.
-/

namespace Conduit

/-- A reason for which this library turns a request down. -/
inductive Refusal where
  | invalidArgument (reason : String)
  | noAdapter
  | shortWrite (written expected : Nat)
  | createFailed
  deriving DecidableEq, Repr, Inhabited

/-- An error of a connection or of a byte stream. -/
inductive IoError where
  /-- An error of which only the kind is known. -/
  | plain (kind : ErrorKind)
  /-- An error with a message of its own. -/
  | worded (kind : ErrorKind) (message : String)
  /-- An error that carries a refusal. -/
  | refused (refusal : Refusal)
  deriving DecidableEq, Repr

/-- Either a refusal or an I/O error that was passed on. -/
inductive Failure where
  | refusal (refusal : Refusal)
  | io (error : IoError)
  deriving DecidableEq, Repr, Inhabited

namespace Refusal

/-- The text of a refusal. -/
def message : Refusal → String
  | invalidArgument reason => "Invalid argument: " ++ reason
  | noAdapter => "No adapter attached to BIO"
  | shortWrite written expected =>
      "Short write: " ++ toString written ++ " of " ++ toString expected ++ " bytes accepted"
  | createFailed => "Failed to create BIO"

/-- The kind of the I/O error that carries a refusal. -/
def kind : Refusal → ErrorKind
  | invalidArgument _ => .invalidInput
  | shortWrite .. => .writeZero
  | noAdapter => .other
  | createFailed => .other

/-- A refusal shown with its constructor and fields. -/
def describe : Refusal → String
  | invalidArgument reason => "InvalidArgument(" ++ Text.quoted reason ++ ")"
  | noAdapter => "NoAdapter"
  | shortWrite written expected =>
      Text.fields "ShortWrite" [("written", toString written), ("expected", toString expected)]
  | createFailed => "CreateFailed"

end Refusal

namespace IoError

/-- The kind of an I/O error. -/
def kind : IoError → ErrorKind
  | plain k => k
  | worded k _ => k
  | refused r => r.kind

/-- The text of an I/O error: its own message where it has one. -/
def message : IoError → String
  | plain k => k.description
  | worded _ m => m
  | refused r => r.message

/-- The refusal that an I/O error carries. -/
def refusal? : IoError → Option Refusal
  | refused r => some r
  | _ => none

/-- An I/O error shown with its kind and what it carries. -/
def describe : IoError → String
  | plain k => "Kind(" ++ k.name ++ ")"
  | worded k m => Text.fields "Custom" [("kind", k.name), ("error", Text.quoted m)]
  | refused r => Text.fields "Custom" [("kind", r.kind.name), ("error", r.describe)]

end IoError

namespace Failure

/-- The text of a failure. -/
def message : Failure → String
  | refusal r => r.message
  | io e => "I/O: " ++ e.message

/-- A failure shown with its constructor and fields. -/
def describe : Failure → String
  | refusal r => r.describe
  | io e => "Io(" ++ e.describe ++ ")"

/-- The I/O error behind a failure. -/
def source? : Failure → Option IoError
  | refusal _ => none
  | io e => some e

/-- A failure seen as an I/O error: one that was passed on comes back as it was. -/
def toIoError : Failure → IoError
  | refusal r => .refused r
  | io e => e

@[simp] theorem toIoError_io (e : IoError) : (io e).toIoError = e := rfl

/-- A failure as it arises when failures are turned into I/O errors and those passed on as
failures again, any number of times. -/
inductive Nested where
  | leaf (failure : Failure)
  | wrapped (inner : Nested)
  deriving Repr, Inhabited

namespace Nested

/-- The failure that the wrapping yields. -/
def build : Nested → Failure
  | leaf f => f
  | wrapped inner => io inner.build.toIoError

/-- The failure in the middle, where the wrapping began. -/
def innermost : Nested → Failure
  | leaf f => f
  | wrapped inner => inner.innermost

end Nested

end Failure

/-- What a panicking connection throws: a text, or a value that is no text. A number stands for any
value that can be thrown away without ado. A value that panics in its turn when it is thrown away is
left out. -/
inductive Panic where
  | text (message : String)
  | number (value : Int)
  deriving DecidableEq, Repr

namespace Panic

/-- The text of a panic, if it carries one. -/
def message? : Panic → Option String
  | text m => some m
  | number _ => none

/-- The text of a panic as it is logged. -/
def message (p : Panic) : String := p.message?.getD "non-string panic payload"

end Panic

end Conduit

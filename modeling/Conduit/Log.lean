import Conduit.Adapter
import Conduit.Failure.Basic
import Conduit.Token
/-!
# Log lines

Everything that is logged, as data, and the text of each line. As data a line says more than its
text does: which adapter was attached, and in the roster of which side a token was struck off.

## Main definitions

* `Conduit.LogLine`, with `level`, `text` and `render`.
-/

namespace Conduit

/-- What a line of the log reports. -/
inductive LogLine where
  | attached (adapter : Adapter) (token : Token)
  | detached (side : Side) (token : Token)
  | released (side : Side) (token : Token)
  | streamEnded
  | closed
  /-- A transfer that the engine asked for was turned down. -/
  | turnedDown (side : Side) (reason : Refusal)
  | flushFailed (error : IoError)
  | flushPanicked (panic : Panic)
  deriving DecidableEq, Repr

namespace LogLine

/-- The level at which a line is logged. -/
def level : LogLine → String
  | flushPanicked _ => "ERROR"
  | _ => "DEBUG"

/-- The text of a line. -/
def text : LogLine → String
  | attached adapter token => "attached " ++ adapter.side.verb ++ " adapter " ++ token.display
  | detached _ token => "detached adapter " ++ token.display
  | released _ token => "released adapter " ++ token.display ++ " on BIO destroy"
  | streamEnded => "connection reached end of stream"
  | closed => "bridge closed"
  | turnedDown .inbound reason => "read_bio_read: " ++ reason.message
  | turnedDown .outbound reason => "write_bio_write: " ++ reason.message
  | flushFailed error => "write_bio_ctrl: flush: " ++ error.message
  | flushPanicked panic => "biobridge: write_bio_ctrl panicked: " ++ panic.message

/-- A line with its level. -/
def render (line : LogLine) : String := line.level ++ " " ++ line.text

end LogLine

end Conduit

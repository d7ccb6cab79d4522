import Conduit.Endpoint.Flags
import Conduit.Endpoint.Foreign
import Conduit.Token
/-!
# Endpoints

The object through which the engine reads or writes: a BIO, in the engine's own vocabulary. Those
that belong to an adapter hold nothing but a token in their data field; besides them there are
endpoints of the engine's own.

## Main definitions

* `Conduit.Endpoint`, `Conduit.Endpoint.Form`.
-/

namespace Conduit

/-- What stands behind an endpoint. -/
inductive Endpoint.Form where
  | adapter (side : Side)
  | memory (memory : Memory)
  | scripted (script : Scripted)
  deriving DecidableEq, Repr

/-- An object through which the engine reads or writes. -/
structure Endpoint where
  /-- What stands behind the endpoint. -/
  form : Endpoint.Form
  /-- The token in the data field. -/
  data : Option Token := none
  flags : Flags := {}
  /-- The number of references to the endpoint. -/
  references : Nat := 1
  deriving DecidableEq, Repr

namespace Endpoint

/-- The name of the kind of an endpoint. -/
def Form.name : Form → String
  | adapter .inbound => "biobridge read BIO"
  | adapter .outbound => "biobridge write BIO"
  | memory _ => "memory buffer"
  | scripted _ => "scripted BIO"

/-- Whether the engine can move bytes that way through an endpoint. -/
def Form.serves : Form → Side → Bool
  | adapter side, way => side = way
  | _, _ => true

end Endpoint

end Conduit

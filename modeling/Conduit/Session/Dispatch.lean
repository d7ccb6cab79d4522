import Conduit.Session.Callback
/-!
# The engine's own calls

How the engine passes a read, a write or a control command on to the endpoint at hand, what it adds
of its own, and the byte streams that can be laid over any endpoint.

The engine keeps calls without effect to itself, and it does not believe a read that returns more
than was asked for.

## Main definitions

* `Conduit.Session.read`, `write` and `control`: the calls of the engine; none where the endpoint
  has no callback for them.
* `Conduit.Session.streamRead`, `streamWrite` and `streamWriteAll`: an endpoint as a plain stream.

## Main results

* `read_adapter`, `write_adapter`: on an endpoint that belongs to an adapter, a call with a proper
  size is the callback.
-/

namespace Conduit

/-- A transfer as the engine passes it on: one that returns more than was asked for is an error,
though its bytes are in the buffer by then. -/
def Transfer.checked (t : Transfer) (size : Int) : Transfer :=
  if size < t.code then { t with code := -1 } else t

namespace Session

/-- Passes a read on to what stands behind an endpoint. -/
def dispatchRead (s : Session) (e : Nat) (b : Endpoint) (size : Int) (present : Bool) :
    Effect Transfer :=
  match b.form with
  | .adapter _ => s.onRead e size present
  | .memory memory =>
      let (memory, t, retry) := memory.read size.toNat present
      let flags := if retry then b.flags.clearRetry.retryRead else b.flags.clearRetry
      ⟨s.modifyEndpoint e fun b => { b with form := .memory memory, flags }, t, []⟩
  | .scripted script =>
      let (script, t) := script.read size.toNat present
      ⟨s.modifyEndpoint e fun b => { b with form := .scripted script }, t, []⟩

/-- The engine reads from an endpoint. A negative size calls nothing. -/
def read (s : Session) (e : Nat) (size : Int) (present : Bool) : Option (Effect Transfer) :=
  match s.endpoints.get? e with
  | none => none
  | some b =>
      if b.form.serves .inbound then
        if size < 0 then some ⟨s, ⟨0, []⟩, []⟩
        else
          let effect := s.dispatchRead e b size present
          some { effect with value := effect.value.checked size }
      else none

/-- Passes a write on to what stands behind an endpoint. -/
def dispatchWrite (s : Session) (e : Nat) (b : Endpoint) (size : Int) (buffer : Option Bytes) :
    Effect Int :=
  match b.form with
  | .adapter _ => s.onWrite e size buffer
  | .memory memory =>
      let flags := b.flags.clearRetry
      match buffer with
      | none => ⟨s.modifyEndpoint e fun b => { b with flags }, -1, []⟩
      | some data =>
          let memory := memory.write (data.take size.toNat)
          ⟨s.modifyEndpoint e fun b => { b with form := .memory memory, flags }, size, []⟩
  | .scripted script =>
      let (script, code) := script.write size.toNat
      ⟨s.modifyEndpoint e fun b => { b with form := .scripted script }, code, []⟩

/-- The engine writes to an endpoint. A size of zero or less calls nothing. -/
def write (s : Session) (e : Nat) (size : Int) (buffer : Option Bytes) : Option (Effect Int) :=
  match s.endpoints.get? e with
  | none => none
  | some b =>
      if b.form.serves .outbound then
        if size ≤ 0 then some ⟨s, 0, []⟩ else some (s.dispatchWrite e b size buffer)
      else none

/-- The engine sends a control command to an endpoint. -/
def control (s : Session) (e : Nat) (number : Int) : Option (Effect ControlProgress) :=
  match s.endpoints.get? e with
  | none => none
  | some b =>
      match b.form with
      | .adapter .inbound => some ⟨s, .code (s.onReadControl e (.ofNumber number)), []⟩
      | .adapter .outbound => some (s.onWriteControl e (.ofNumber number))
      | .memory memory =>
          let (memory, code) := memory.control number
          some ⟨s.modifyEndpoint e fun b => { b with form := .memory memory }, .code code, []⟩
      | .scripted _ => some ⟨s, .code (-2), []⟩

/-! ### Endpoints as byte streams -/

/-- Reads up to `size` bytes as from a stream, into a room of zeros. A read that yields nothing, for
whatever reason, is the end of the stream. -/
def streamRead (s : Session) (e size : Nat) : Option (Effect Bytes) :=
  if size = 0 then some ⟨s, [], []⟩
  else
    (s.read e (toCount size) true).map fun effect =>
      ⟨effect.session, fill (emptyRoom effect.value.code.toNat) effect.value.bytes, effect.log⟩

/-- Writes as to a stream. Either everything that fits one call is taken, or the write falls short
and fails. -/
def streamWrite (s : Session) (e : Nat) (data : Bytes) : Option (Effect (Except IoError Nat)) :=
  if data.isEmpty then some ⟨s, .ok 0, []⟩
  else
    let size := min data.length largestCount
    (s.write e size (some data)).map fun effect =>
      if effect.value = (size : Int) then ⟨effect.session, .ok size, effect.log⟩
      else
        ⟨effect.session, .error (.refused (.shortWrite effect.value.toNat size)), effect.log⟩

/-- Writes everything as to a stream, in as many calls as it takes. -/
def streamWriteAll (s : Session) (e : Nat) (data : Bytes) :
    Option (Effect (Except IoError Unit)) :=
  if data.isEmpty then some ⟨s, .ok (), []⟩
  else
    match s.streamWrite e data with
    | none => none
    | some ⟨s, .error error, log⟩ => some ⟨s, .error error, log⟩
    | some ⟨s, .ok n, log⟩ =>
        if _h : 0 < n ∧ 0 < data.length then
          (streamWriteAll s e (data.drop n)).map fun effect =>
            { effect with log := log ++ effect.log }
        else some ⟨s, .ok (), log⟩
termination_by data.length
decreasing_by simp only [List.length_drop]; omega

/-! ### Calls on endpoints that belong to an adapter -/

theorem read_adapter {s : Session} {e : Nat} {b : Endpoint} (hb : s.endpoints.get? e = some b)
    (hf : b.form = .adapter .inbound) {size : Int} (h : 0 ≤ size) (present : Bool) :
    s.read e size present =
      some { s.onRead e size present with
        value := (s.onRead e size present).value.checked size } := by
  have : ¬ size < 0 := by omega
  simp [read, dispatchRead, hb, hf, Endpoint.Form.serves, this]

theorem write_adapter {s : Session} {e : Nat} {b : Endpoint} (hb : s.endpoints.get? e = some b)
    (hf : b.form = .adapter .outbound) {size : Int} (h : 0 < size) (buffer : Option Bytes) :
    s.write e size buffer = some (s.onWrite e size buffer) := by
  have : ¬ size ≤ 0 := by omega
  simp [write, dispatchWrite, hb, hf, Endpoint.Form.serves, this]

end Session

end Conduit

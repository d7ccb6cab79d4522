import Conduit.Session.Dispatch
import Conduit.Session.Pairing
/-!
# Runs of a session

A session as a machine that takes one event at a time. What the owner and the engine ask for are
events, and so are the answers of the connections: an operation that needs a connection ends its
event with a call, and goes on with the event that answers it. Whatever happens in between, on
other threads or inside the connection itself, are the events between the two. So a run is a list
of events and nothing else, and its record shows what each of them came to.

## Main definitions

* `Conduit.Event`, `Conduit.Reply`.
* `Conduit.Session.step`: what one event does.
* `Conduit.Session.run`: the record of a list of events.

## Main results

* `Conduit.Session.run_append`: a run can be cut anywhere.
-/

namespace Conduit

/-- A call to a connection that an operation waits for. -/
inductive Call where
  /-- A room is offered to the connection to read into. -/
  | read (inlet connection : Nat) (room : Bytes)
  /-- A block is offered to the connection to write. -/
  | write (outlet connection : Nat) (block : Bytes)
  deriving DecidableEq, Repr

/-- Something that happens to a session. -/
inductive Event where
  -- adapters
  | openInlet (key connection : Nat) (release : Bool) (sizes : List Nat)
  | openOutlet (key connection : Nat) (release : Bool)
  | request (inlet size : Nat)
  | markEnded (inlet : Nat)
  | pump (inlet : Nat)
  | append (outlet : Nat) (data : Bytes)
  | flush (outlet : Nat)
  -- answers of connections
  | readDone (inlet : Nat) (answer : ReadAnswer)
  | writeDone (outlet : Nat) (answer : WriteAnswer)
  -- duplexes
  | openDuplex (key : Nat) (keys : DuplexKeys) (connection : Nat) (settings : Settings)
  | flushAll (duplex : Nat)
  | close (duplex : Nat)
  | dropDuplex (duplex : Nat)
  -- endpoints
  | attach (endpoint : Nat) (adapter : Adapter)
  | disconnect (endpoint : Nat) (adapter : Adapter)
  | share (endpoint : Nat)
  | free (endpoint : Nat)
  | setData (endpoint : Nat) (data : Option Token)
  | setFlags (endpoint : Nat) (flags : Flags)
  -- the engine's calls
  | read (endpoint : Nat) (size : Int) (present : Bool)
  | write (endpoint : Nat) (size : Int) (buffer : Option Bytes)
  | control (endpoint : Nat) (number : Int)
  | streamRead (endpoint size : Nat)
  | streamWrite (endpoint : Nat) (data : Bytes)
  | streamWriteAll (endpoint : Nat) (data : Bytes)
  -- callbacks called directly, on any endpoint or none
  | callRead (endpoint : Nat) (size : Int) (present : Bool)
  | callWrite (endpoint : Nat) (size : Int) (buffer : Option Bytes)
  | callControl (side : Side) (endpoint : Option Nat) (number : Int)
  | callCreate (side : Side) (endpoint : Option Nat)
  | callDestroy (side : Side) (endpoint : Option Nat)
  -- the engine's own endpoints and its failures
  | openForeign (endpoint : Nat) (form : Endpoint.Form)
  | takeSeen (endpoint : Nat)
  | expectFault (call : EngineCall) (skip : Nat)

/-- What an event comes to. -/
inductive Reply where
  | done
  | count (n : Nat)
  | failed (error : IoError)
  | refused (reason : Refusal)
  | panicked (panic : Panic)
  | readiness (r : Readiness Bytes)
  | token (t : Token)
  | tokens (read write : Token)
  | transfer (t : Transfer)
  | code (n : Int)
  | seen (calls : List (Side × Nat))
  /-- The operation goes on when the connection answers. -/
  | calls (call : Call)
  /-- The operation has to wait for an earlier one. -/
  | busy
  /-- There is no such callback. -/
  | noCallback
  /-- There is no such object, or there is one already. -/
  | unknown
  deriving DecidableEq, Repr

namespace Reply

/-- The reply to an operation that ends in a count. -/
def ofOutcome : Outcome Nat → Reply
  | .value n => count n
  | .failed error => failed error
  | .panicked panic => panicked panic

/-- The reply to a control command. -/
def ofControl : ControlProgress → Reply
  | .code n => code n
  | .busy => busy
  | .writing outlet connection block => calls (.write outlet connection block)

/-- The reply to an operation made of flushes, and what is logged with it. The engine gets a code
in place of an outcome. -/
def ofFlush (outlet connection : Nat) (purpose : Purpose) :
    Outlet.Progress → Reply × List LogLine
  | .busy => (busy, [])
  | .writing block => (calls (.write outlet connection block), [])
  | .ended outcome =>
      match purpose with
      | .control =>
          let (n, log) := Session.flushCode outcome
          (code n, log)
      | _ => (ofOutcome outcome, [])

end Reply

namespace Session

/-- Starts an operation made of flushes on the outlet under a key. -/
def flushFor (s : Session) (k : Nat) (purpose : Purpose) : Effect Reply :=
  match s.outlets.get? k with
  | none => ⟨s, .unknown, []⟩
  | some o =>
      let (s, progress) := s.startFlush k o purpose
      let (reply, log) := Reply.ofFlush k o.connection purpose progress
      ⟨s, reply, log⟩

/-- Takes a connection's answer to the write that an outlet waits for. -/
def writeDone (s : Session) (k : Nat) (answer : WriteAnswer) : Effect Reply :=
  match s.outlets.get? k with
  | none => ⟨s, .unknown, []⟩
  | some o =>
      match o.answer answer with
      | none => ⟨s, .unknown, []⟩
      | some (o, purpose, progress) =>
          let (reply, log) := Reply.ofFlush k o.connection purpose progress
          ⟨s.putOutlet k o, reply, log⟩

/-- Starts a pump of the inlet under a key. -/
def pump (s : Session) (k : Nat) : Effect Reply :=
  match s.inlets.get? k with
  | none => ⟨s, .unknown, []⟩
  | some i =>
      match i.beginPump with
      | (_, .busy) => ⟨s, .busy, []⟩
      | (_, .overflow panic) => ⟨s, .panicked panic, []⟩
      | (i, .reading room) => ⟨s.putInlet k i, .calls (.read k i.connection room), []⟩

/-- Takes a connection's answer to the read that an inlet waits for. -/
def readDone (s : Session) (k : Nat) (answer : ReadAnswer) : Effect Reply :=
  match s.inlets.get? k with
  | none => ⟨s, .unknown, []⟩
  | some i =>
      if i.reading then
        let (i, outcome, log) := i.endPump answer
        ⟨s.putInlet k i, .ofOutcome outcome, log⟩
      else ⟨s, .unknown, []⟩

/-- Whether the callbacks of a side can be called. -/
def hasCallbacks (s : Session) (side : Side) : Bool := (s.engine.table side).hasCallbacks

/-- The effect of something that logs, on an object that has to be there. -/
def onPresent (s : Session) (present : Bool) (f : Session × List LogLine) :
    Effect Reply :=
  if present then ⟨f.1, .done, f.2⟩ else ⟨s, .unknown, []⟩

/-- What one event does. -/
def step (s : Session) : Event → Effect Reply
  | .openInlet k connection release sizes =>
      if s.inlets.contains k then ⟨s, .unknown, []⟩
      else ⟨s.putInlet k (.make connection release sizes), .done, []⟩
  | .openOutlet k connection release =>
      if s.outlets.contains k then ⟨s, .unknown, []⟩
      else ⟨s.putOutlet k (.make connection release), .done, []⟩
  | .request k size =>
      match s.inlets.get? k with
      | none => ⟨s, .unknown, []⟩
      | some i =>
          let (r, i) := i.request size
          ⟨s.putInlet k i, .readiness r, []⟩
  | .markEnded k =>
      match s.inlets.get? k with
      | none => ⟨s, .unknown, []⟩
      | some i => ⟨s.putInlet k i.markEnded, .done, []⟩
  | .pump k => s.pump k
  | .append k data =>
      match s.outlets.get? k with
      | none => ⟨s, .unknown, []⟩
      | some o => ⟨s.putOutlet k (o.append data), .done, []⟩
  | .flush k => s.flushFor k .single
  | .readDone k answer => s.readDone k answer
  | .writeDone k answer => s.writeDone k answer
  | .openDuplex k keys connection settings =>
      if s.duplexes.contains k || s.inlets.contains keys.inlet || s.outlets.contains keys.outlet
          || s.endpoints.contains keys.readEnd || s.endpoints.contains keys.writeEnd
          || keys.readEnd = keys.writeEnd then
        ⟨s, .unknown, []⟩
      else
        match s.openDuplex k keys connection settings with
        | ⟨s, .ok (read, write), log⟩ => ⟨s, .tokens read write, log⟩
        | ⟨s, .error reason, log⟩ => ⟨s, .refused reason, log⟩
  | .flushAll k =>
      match s.duplexes.get? k with
      | none => ⟨s, .unknown, []⟩
      | some d => s.flushFor d.outlet (.drain 0)
  | .close k => s.onPresent (s.duplexes.contains k) (s.close k)
  | .dropDuplex k => s.onPresent (s.duplexes.contains k) (s.dropDuplex k)
  | .attach e a =>
      if s.endpoints.contains e then ⟨s, .unknown, []⟩
      else
        match s.attach e a with
        | ⟨s, .ok t, log⟩ => ⟨s, .token t, log⟩
        | ⟨s, .error reason, log⟩ => ⟨s, .refused reason, log⟩
  | .disconnect e a => s.onPresent (s.endpoints.contains e) (s.disconnect e a)
  | .share e => s.onPresent (s.endpoints.contains e) (s.share e, [])
  | .free e => s.onPresent (s.endpoints.contains e) (s.free e)
  | .setData e data => s.onPresent (s.endpoints.contains e) (s.setData e data, [])
  | .setFlags e flags =>
      s.onPresent (s.endpoints.contains e) (s.modifyFlags e (·.union flags), [])
  | .read e size present =>
      match s.read e size present with
      | none => ⟨s, .noCallback, []⟩
      | some ⟨s, t, log⟩ => ⟨s, .transfer t, log⟩
  | .write e size buffer =>
      match s.write e size buffer with
      | none => ⟨s, .noCallback, []⟩
      | some ⟨s, n, log⟩ => ⟨s, .code n, log⟩
  | .control e number =>
      match s.control e number with
      | none => ⟨s, .unknown, []⟩
      | some ⟨s, p, log⟩ => ⟨s, .ofControl p, log⟩
  | .streamRead e size =>
      match s.streamRead e size with
      | none => ⟨s, .noCallback, []⟩
      | some ⟨s, bytes, log⟩ => ⟨s, .transfer ⟨bytes.length, bytes⟩, log⟩
  | .streamWrite e data =>
      match s.streamWrite e data with
      | none => ⟨s, .noCallback, []⟩
      | some ⟨s, .ok n, log⟩ => ⟨s, .count n, log⟩
      | some ⟨s, .error error, log⟩ => ⟨s, .failed error, log⟩
  | .streamWriteAll e data =>
      match s.streamWriteAll e data with
      | none => ⟨s, .noCallback, []⟩
      | some ⟨s, .ok (), log⟩ => ⟨s, .count 0, log⟩
      | some ⟨s, .error error, log⟩ => ⟨s, .failed error, log⟩
  | .callRead e size present =>
      if s.hasCallbacks .inbound then
        let effect := s.onRead e size present
        ⟨effect.session, .transfer effect.value, effect.log⟩
      else ⟨s, .noCallback, []⟩
  | .callWrite e size buffer =>
      if s.hasCallbacks .outbound then
        let effect := s.onWrite e size buffer
        ⟨effect.session, .code effect.value, effect.log⟩
      else ⟨s, .noCallback, []⟩
  | .callControl side e number =>
      if s.hasCallbacks side then
        match side with
        | .inbound => ⟨s, .code (s.onReadControl e (.ofNumber number)), []⟩
        | .outbound =>
            let effect := s.onWriteControl e (.ofNumber number)
            ⟨effect.session, .ofControl effect.value, effect.log⟩
      else ⟨s, .noCallback, []⟩
  | .callCreate side _ =>
      if s.hasCallbacks side then ⟨s, .code 1, []⟩ else ⟨s, .noCallback, []⟩
  | .callDestroy side e =>
      if s.hasCallbacks side then
        match e with
        | none => ⟨s, .code 1, []⟩
        | some e =>
            let (s, log) := s.release side e
            ⟨s, .code 1, log⟩
      else ⟨s, .noCallback, []⟩
  | .openForeign e form =>
      if s.endpoints.contains e then ⟨s, .unknown, []⟩
      else ⟨{ s with endpoints := s.endpoints.put e { form } }, .done, []⟩
  | .takeSeen e =>
      match s.endpoints.get? e with
      | some { form := .scripted script, .. } =>
          ⟨s.modifyEndpoint e fun b => { b with form := .scripted { script with seen := [] } },
            .seen script.seen, []⟩
      | _ => ⟨s, .unknown, []⟩
  | .expectFault c skip => ⟨{ s with engine := s.engine.expectFault c skip }, .done, []⟩

/-- What an event came to in a run. -/
structure Record where
  event : Event
  reply : Reply
  log : List LogLine

/-- The session after a list of events, and the record of each. -/
def run (s : Session) : List Event → Session × List Record
  | [] => (s, [])
  | event :: rest =>
      let effect := s.step event
      let (s, records) := run effect.session rest
      (s, ⟨event, effect.value, effect.log⟩ :: records)

theorem run_append (s : Session) (first second : List Event) :
    s.run (first ++ second) =
      (((s.run first).1.run second).1, (s.run first).2 ++ ((s.run first).1.run second).2) := by
  induction first generalizing s with
  | nil => rfl
  | cons event rest ih => simp [run, ih]

end Session

end Conduit

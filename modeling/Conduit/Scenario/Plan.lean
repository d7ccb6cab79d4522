import Conduit.Scenario.World
/-!
# Plans

What an operation of a scenario comes to, once its names are known: something that is over at once,
or an event for the session together with what to make of the reply.

## Main definitions

* `Conduit.Scenario.Plan`: what is to be done for an operation.
* `Conduit.Scenario.World.plan`: the plan of each operation.
-/

namespace Conduit.Scenario

/-- What is to be done for an operation. -/
inductive Plan where
  /-- It is over, with this result. -/
  | over (world : World) (result : Result)
  /-- An event has to happen. If it goes well, a name is bound; then the reply is looked at in the
  world as it is afterwards. -/
  | event (world : World) (event : Event) (binding : Option (String × Thing))
      (result : World → Reply → Result)
  /-- A name has come to stand for something else, and what it stood for is dropped. -/
  | drop (world : World) (thing : Option Thing) (result : Result)

/-- What a reply says where nothing has to be added to it. -/
def Result.ofReply : Reply → Result
  | .done => .ok .nothing
  | .count n => .ok (.number n)
  | .failed error => .failed error
  | .refused reason => .refused reason
  | .panicked panic => .panicked panic
  | .readiness r => .ok (.readiness r)
  | .token t => .ok (.token (some t))
  | .tokens read write => .ok (.tokens read write)
  | .transfer t => .ok (.stream t.bytes)
  | .code n => .ok (.bareCode n)
  | .seen calls => .ok (.seen calls)
  | .calls _ => .misstep .blocked
  | .busy => .misstep .blocked
  | .noCallback => .misstep .noCallback
  | .unknown => .misstep .noObject

/-- Whether a reply says that something was made or done. -/
def isSuccess : Reply → Bool
  | .failed _ => false
  | .refused _ => false
  | .panicked _ => false
  | .calls _ => false
  | .busy => false
  | .noCallback => false
  | .unknown => false
  | _ => true

/-- The reply to a call of the engine, with the flags that it left behind. -/
def Result.withFlags (e : Nat) (absent : Misstep) (w : World) : Reply → Result
  | .transfer t => .ok (.transfer t (w.flags e))
  | .code n => .ok (.code n (w.flags e))
  | .noCallback => .misstep absent
  | reply => .ofReply reply

/-- The reply to a callback that was called directly. -/
def Result.bareOr (absent : Misstep) : Reply → Result
  | .noCallback => .misstep absent
  | reply => .ofReply reply

/-- An answer found in the world once an event has gone well. -/
def Result.afterwards (answer : World → Answer) (w : World) (reply : Reply) : Result :=
  if isSuccess reply then .ok (answer w) else .ofReply reply

namespace World

/-- Replaces a connection. -/
def putConnection (w : World) (k : Nat) (c : Connection) : World :=
  { w with connections := w.connections.put k c }

/-- Sets a key aside for a new object. -/
def newKey (w : World) : Nat × World := (w.nextKey, { w with nextKey := w.nextKey + 1 })

/-- Binds a name to something that is there already, dropping what the name stood for. -/
def rebind (w : World) (name : String) (t : Thing) (result : Result) : Plan :=
  .drop (w.bind name t) (w.names.get? name) result

/-- A new connection under a name. -/
def newConnection (w : World) (name : String) (c : Connection) : Plan :=
  let (k, w) := w.newKey
  (w.putConnection k c).rebind name (.connection k) (.ok .nothing)

/-- The plan of an operation. Names are looked up in the order in which the operation gives them,
but an endpoint before the adapter that it is to be taken off. A call that is never made never
fails, so nothing comes of a fault in one that does not exist. -/
def plan (w : World) : Op → Except Misstep Plan
  | .connection name reads writes readLimit writeLimit =>
      return w.newConnection name (.line { name, reads, writes, readLimit, writeLimit })
  | .extend name reads writes => do
      let (k, l) ← w.line name
      let l := { l with reads := l.reads ++ reads, writes := l.writes ++ writes }
      return .over (w.putConnection k (.line l)) (.ok .nothing)
  | .written name => do
      let (_, l) ← w.line name
      return .over w (.ok (.bytes l.accepted))
  | .socket name network =>
      if network then return .over w (.panicked noNetwork)
      else return w.newConnection name (.socket {})
  | .peerWrite name data => do
      let (k, c) ← w.socket name
      match c.peerWrite data with
      | (c, .ok n) => return .over (w.putConnection k (.socket c)) (.ok (.number n))
      | (c, .error error) => return .over (w.putConnection k (.socket c)) (.failed error)
  | .peerRead name size => do
      let (k, c) ← w.socket name
      match c.peerRead size with
      | (c, .ok data) => return .over (w.putConnection k (.socket c)) (.ok (.bytes data))
      | (c, .error error) => return .over (w.putConnection k (.socket c)) (.failed error)
  | .peerShutdown name => do
      let (k, c) ← w.socket name
      return .over (w.putConnection k (.socket c.peerShutdown)) (.ok (.number 0))
  | .peerClose name => do
      let (k, c) ← w.socket name
      return .over (w.putConnection k (.socket c.peerClose)) (.ok .nothing)
  | .inlet name connection release sizes => do
      let (c, _) ← w.connection connection
      let (k, w) := w.newKey
      return .event w (.openInlet k c release sizes) (some (name, .inlet k))
        (Result.afterwards fun w => .text (w.describeAdapter (.inlet k)))
  | .outlet name connection release => do
      let (c, _) ← w.connection connection
      let (k, w) := w.newKey
      return .event w (.openOutlet k c release) (some (name, .outlet k))
        (Result.afterwards fun w => .text (w.describeAdapter (.outlet k)))
  | .describe name => do
      match ← w.find name with
      | .inlet k => return .over w (.ok (.text (w.describeAdapter (.inlet k))))
      | .outlet k => return .over w (.ok (.text (w.describeAdapter (.outlet k))))
      | .owned _ => return .over w (.ok (.text endpointText))
      | .duplex _ =>
          let (_, d) ← w.duplex name
          return .over w (.ok (.text (w.describeDuplex d)))
      | _ => throw .noDebugForm
  | .pending name => do
      let a ← w.adapter name
      return .over w (.ok (.number (w.pending a)))
  | .append name data => do
      let k ← w.outlet name
      return .event w (.append k data) none
        (Result.afterwards fun w => .number (w.pending (.outlet k)))
  | .flush name => do
      match ← w.find name with
      | .duplex _ =>
          let (_, d) ← w.duplex name
          return .event w (.flush d.outlet) none fun _ => .ofReply
      | _ =>
          let k ← w.outlet name
          return .event w (.flush k) none fun _ => .ofReply
  | .pump name => do
      match ← w.find name with
      | .duplex _ =>
          let (_, d) ← w.duplex name
          return .event w (.pump d.inlet) none fun _ => .ofReply
      | _ =>
          let k ← w.inlet name
          return .event w (.pump k) none fun _ => .ofReply
  | .request name size => do
      let k ← w.inlet name
      return .event w (.request k size) none fun _ => .ofReply
  | .markEnded name => do
      let k ← w.inlet name
      return .event w (.markEnded k) none
        (Result.afterwards fun w => .flag (((w.session.inlets.get? k).map (·.ended)).getD false))
  | .isEnded name => do
      let k ← w.inlet name
      return .over w (.ok (.flag (((w.session.inlets.get? k).map (·.ended)).getD false)))
  | .attach adapterName name => do
      let a ← w.adapter adapterName
      let (k, w) := w.newKey
      return .event w (.attach k a) (some (name, .owned k)) fun _ => .ofReply
  | .token name => do
      let e ← w.endpoint name
      return .over w (.ok (.token (w.session.token? e)))
  | .disconnect name adapterName => do
      let e ← w.owned name
      let a ← w.adapter adapterName
      return .event w (.disconnect e a) none
        (Result.afterwards fun w => .token (w.session.token? e))
  | .info name => do
      let e ← w.endpoint name
      match w.session.endpoints.get? e with
      | some b => return .over w (.ok (.info b.form.name b.flags.low))
      | none => throw .noObject
  | .setData name number => do
      let e ← w.endpoint name
      return .event w (.setData e (Token.ofNumber? number)) none fun _ => .ofReply
  | .setFlags name flags => do
      let e ← w.endpoint name
      return .event w (.setFlags e (.ofNat flags)) none
        (Result.afterwards fun w => .number (w.flags e))
  | .flags name => do
      let e ← w.endpoint name
      return .over w (.ok (.number (w.flags e)))
  | .share endpointName name => do
      let e ← w.endpoint endpointName
      return .event w (.share e) (some (name, .raw e)) fun _ => .ofReply
  | .free name => do
      match ← w.find name with
      | .raw e =>
          return .event { w with names := w.names.erase name } (.free e) none fun _ => .ofReply
      | _ =>
          let _ ← w.endpoint name
          throw .notRaw
  | .read name size present => do
      let e ← w.endpoint name
      return .event w (.read e size present) none (Result.withFlags e .noReadCallback)
  | .write name size buffer => do
      let e ← w.endpoint name
      return .event w (.write e size buffer) none (Result.withFlags e .noWriteCallback)
  | .control name number => do
      let e ← w.endpoint name
      return .event w (.control e number) none (Result.withFlags e .noCallback)
  | .callRead name size present => do
      let e ← w.endpoint name
      return .event w (.callRead e size present) none (Result.withFlags e .noTable)
  | .callWrite name size buffer => do
      let e ← w.endpoint name
      return .event w (.callWrite e size buffer) none (Result.withFlags e .noTable)
  | .callControl side name number => do
      let e ← w.endpoint? name
      return .event w (.callControl side e number) none fun _ => .bareOr .noTable
  | .callCreate side name => do
      let e ← w.endpoint? name
      return .event w (.callCreate side e) none fun _ => .bareOr .noTable
  | .callDestroy side name => do
      let e ← w.endpoint? name
      return .event w (.callDestroy side e) none fun _ => .bareOr .noTable
  | .memory name =>
      let (k, w) := w.newKey
      return .event w (.openForeign k (.memory {})) (some (name, .foreign k)) fun _ => .ofReply
  | .scripted name script =>
      let (k, w) := w.newKey
      return .event w (.openForeign k (.scripted script)) (some (name, .foreign k))
        fun _ => .ofReply
  | .seen name => do
      let e ← w.endpoint name
      return .event w (.takeSeen e) none fun _ reply =>
        if isSuccess reply then .ofReply reply else .misstep .notScriptedEndpoint
  | .streamRead name size => do
      let e ← w.endpoint name
      return .event w (.streamRead e size) none fun _ => .ofReply
  | .streamWrite name data => do
      let e ← w.endpoint name
      return .event w (.streamWrite e data) none fun _ => .ofReply
  | .streamWriteAll name data => do
      let e ← w.endpoint name
      return .event w (.streamWriteAll e data) none fun _ => .ofReply
  | .streamFlush name => do
      let _ ← w.endpoint name
      return .over w (.ok (.number 0))
  | .duplex name connection settings => do
      let (c, _) ← w.connection connection
      let (k, w) := w.newKey
      let (j, w) := w.newKey
      return .event w (.openDuplex k ⟨k, k, k, j⟩ c settings) (some (name, .duplex k))
        fun _ => .ofReply
  | .flushAll name => do
      let (k, _) ← w.duplex name
      return .event w (.flushAll k) none fun _ => .ofReply
  | .close name => do
      let (k, _) ← w.duplex name
      return .event w (.close k) none
        (Result.afterwards fun w => .flag (((w.session.duplexes.get? k).map (·.closed)).getD false))
  | .isClosed name => do
      let (_, d) ← w.duplex name
      return .over w (.ok (.flag d.closed))
  | .keep object name => do
      let t ← w.find object
      return w.rebind name t (.ok .nothing)
  | .drop name =>
      match w.find name with
      | .ok (.raw _) => throw .rawNotDropped
      | .ok (.lent _) => throw .rawNotDropped
      | _ =>
          match w.names.get? name with
          | none => return .over w (.ok (.flag false))
          | some t =>
              return .drop { w with names := w.names.erase name } (some t) (.ok (.flag true))
  | .expectFault call skip =>
      match EngineCall.ofName? call with
      | some c => return .event w (.expectFault c skip) none fun _ => .ofReply
      | none => return .over w (.ok .nothing)
  | .engineCalls => return .over w (.ok (.tally w.session.engine.tally))
  | .unknown name => throw (.unknownOp name)

end World

end Conduit.Scenario

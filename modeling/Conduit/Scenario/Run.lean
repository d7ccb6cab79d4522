import Conduit.Scenario.Plan
/-!
# Carrying out a scenario

The operations of a scenario, one after the other. Where an event ends in a call to a connection,
the connection is asked, what its script holds is carried out meanwhile, and its answer is the next
event, until the operation is over.

## Main definitions

* `Conduit.Scenario.World.perform`: an event and all that it sets in motion.
* `Conduit.Scenario.run`: the reports of a list of operations.
-/

namespace Conduit.Scenario

/-- The report of a call to a connection that follows a script. -/
def reportRead (name : String) (room : Bytes) (during : List Report) (answer : ReadAnswer) :
    CallReport Report :=
  { connection := name, side := .inbound, size := room.length, block := [], during
    ending :=
      match answer with
      | .returned count _ => .returned count
      | .failed error => .failed error.kind
      | .panicked panic => .panicked panic }

/-- The report of a call that offered a block to a connection that follows a script. -/
def reportWrite (name : String) (block : Bytes) (during : List Report)
    (answer : WriteAnswer) : CallReport Report :=
  { connection := name, side := .outbound, size := block.length, block, during
    ending :=
      match answer with
      | .accepted count => .returned count
      | .failed error => .failed error.kind
      | .panicked panic => .panicked panic }

/-- What an event came to, with everything that it set in motion. -/
structure Performed where
  world : World
  reply : Reply
  log : List LogLine := []
  calls : List (CallReport Report) := []

namespace World

mutual

/-- Carries out an event and all that it sets in motion. The first argument bounds how deep this
may go. -/
def perform : Nat → World → Event → Performed
  | 0, w, _ => ⟨w, .busy, [], []⟩
  | fuel + 1, w, event =>
      let effect := w.session.step event
      let w := { w with session := effect.session }
      match effect.value with
      | .calls call =>
          let (w, answer, report) := ask fuel w call
          let rest := perform fuel w answer
          { rest with log := effect.log ++ rest.log, calls := report ++ rest.calls }
      | reply => ⟨w, reply, effect.log, []⟩

/-- Puts a call to its connection, and gives the event that answers it and the report of it. -/
def ask : Nat → World → Call → World × Event × List (CallReport Report)
  | 0, w, .read inlet _ _ => (w, .readDone inlet (.failed notReady), [])
  | 0, w, .write outlet _ _ => (w, .writeDone outlet (.failed notReady), [])
  | fuel + 1, w, .read inlet c room =>
      match w.connections.get? c with
      | none => (w, .readDone inlet (.returned 0 []), [])
      | some (.socket k) =>
          let (k, answer) := k.read room.length
          (w.putConnection c (.socket k), .readDone inlet answer, [])
      | some (.line l) =>
          let (l, planned) := l.nextRead
          let (w, during) := carryOutAll fuel (w.putConnection c (.line l)) planned.during
          match w.connections.get? c with
          | some (.line l) =>
              let (l, answer) := l.read room.length planned.act
              (w.putConnection c (.line l), .readDone inlet answer,
                [reportRead l.name room during answer])
          | _ => (w, .readDone inlet (.returned 0 []), [])
  | fuel + 1, w, .write outlet c block =>
      match w.connections.get? c with
      | none => (w, .writeDone outlet (.accepted 0), [])
      | some (.socket k) =>
          let (k, answer) := k.write block
          (w.putConnection c (.socket k), .writeDone outlet answer, [])
      | some (.line l) =>
          let (l, planned) := l.nextWrite
          let (w, during) := carryOutAll fuel (w.putConnection c (.line l)) planned.during
          match w.connections.get? c with
          | some (.line l) =>
              let (l, answer) := l.write block planned.act
              (w.putConnection c (.line l), .writeDone outlet answer,
                [reportWrite l.name block during answer])
          | _ => (w, .writeDone outlet (.accepted 0), [])

/-- Drops a thing for which no name stands any more. -/
def dropThing : Nat → World → Option Thing → World × List LogLine
  | 0, w, _ => (w, [])
  | fuel + 1, w, t =>
      match t.bind w.dropEvent? with
      | none => (w, [])
      | some event =>
          let done := perform fuel w event
          (done.world, done.log)

/-- Carries out one operation. -/
def carryOut : Nat → World → Op → World × Report
  | 0, w, _ => (w, .plain (.misstep .blocked))
  | fuel + 1, w, op =>
      match w.plan op with
      | .error reason => (w, .plain (.misstep reason))
      | .ok (.over w result) => (w, .plain result)
      | .ok (.drop w thing result) =>
          let (w, log) := dropThing fuel w thing
          (w, ⟨result, log, []⟩)
      | .ok (.event w event binding result) =>
          let done := perform fuel w event
          let report := result done.world done.reply
          match binding with
          | some (name, thing) =>
              if isSuccess done.reply then
                let old := done.world.names.get? name
                let (w, log) := dropThing fuel (done.world.bind name thing) old
                (w, ⟨report, done.log ++ log, done.calls⟩)
              else (done.world, ⟨report, done.log, done.calls⟩)
          | none => (done.world, ⟨report, done.log, done.calls⟩)

/-- Carries out a list of operations, in order. -/
def carryOutAll : Nat → World → List Op → World × List Report
  | 0, w, _ => (w, [])
  | _ + 1, w, [] => (w, [])
  | fuel + 1, w, op :: rest =>
      let (w, report) := carryOut fuel w op
      let (w, reports) := carryOutAll fuel w rest
      (w, report :: reports)

end

end World

/-- The reports of the operations of a scenario. In a fresh one no method table has been built. -/
def run (fresh : Bool) (ops : List Op) : List Report :=
  (World.carryOutAll (workload ops) (if fresh then .fresh else .usual) ops).2

end Conduit.Scenario

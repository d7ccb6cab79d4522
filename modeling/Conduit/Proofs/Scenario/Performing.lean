import Conduit.Scenario.Run
import Mathlib.Algebra.Order.Floor.Div
/-!
# One event and all that it sets in motion

What `World.perform` comes to when nothing happens while a connection is being asked. An event that
needs no connection is a step of the session. One that does is a step, the answer of the connection,
and whatever the event that carries the answer sets in motion.

Only connections that follow a script are looked at. What a script holds to be carried out during a
call, and the ends of a socket pair, are left out.

## Main definitions

* `Conduit.Scenario.World.performAll`: a list of events, each with all that it sets in motion.

## Main results

* `perform_of_quiet`, `perform_of_read`, `perform_of_write`: the cases of one event.
-/

namespace Conduit.Scenario

/-- As long as something is left over, one more call takes off what passes at a time. -/
theorem ceilDiv_eq_sub_ceilDiv_add_one {n q : ℕ} (hn : 0 < n) (hq : 0 < q) :
    q ⌈/⌉ n = (q - n) ⌈/⌉ n + 1 := by
  rw [Nat.ceilDiv_eq_add_pred_div, Nat.ceilDiv_eq_add_pred_div]
  rcases Nat.le_total n q with hle | hle
  · rw [show q + n - 1 = q - n + n - 1 + n by omega, Nat.add_div_right _ hn]
  · rw [show q + n - 1 = q - 1 + n by omega, Nat.add_div_right _ hn, Nat.sub_eq_zero_of_le hle,
      Nat.div_eq_of_lt (by omega), Nat.div_eq_of_lt (by omega)]

namespace Line

/-! ### A connection keeps its name -/

@[simp] theorem name_nextRead (l : Line) : l.nextRead.1.name = l.name := by
  unfold nextRead
  split <;> rfl

@[simp] theorem name_nextWrite (l : Line) : l.nextWrite.1.name = l.name := by
  unfold nextWrite
  split <;> rfl

@[simp] theorem name_read (l : Line) (room : Nat) (p : ReadPlan) :
    (l.read room p).1.name = l.name := by
  cases p with
  | give data =>
    simp only [read]
    split <;> rfl
  | _ => rfl

@[simp] theorem name_write (l : Line) (block : Bytes) (p : WritePlan) :
    (l.write block p).1.name = l.name := by
  cases p <;> rfl

end Line

namespace World

/-- Carries out a list of events, in order, each with all that it sets in motion. -/
def performAll (depth : Nat) : World → List Event → World × List Performed
  | w, [] => (w, [])
  | w, event :: rest =>
      let done := perform depth w event
      let (w, others) := performAll depth done.world rest
      (w, done :: others)

@[simp] theorem get?_putConnection (w : World) (c j : Nat) (x : Connection) :
    (w.putConnection c x).connections.get? j = if j = c then some x else w.connections.get? j :=
  Table.get?_put ..

variable {w : World} {event : Event} {c : Nat} {l : Line}

/-- An event that calls no connection is a step of the session. -/
theorem perform_of_quiet (depth : Nat) (h : ∀ call, (w.session.step event).value ≠ .calls call) :
    w.perform (depth + 1) event =
      ⟨{ w with session := (w.session.step event).session }, (w.session.step event).value,
        (w.session.step event).log, []⟩ := by
  rw [perform]
  split
  · next call hcalls => exact absurd hcalls (h call)
  · rfl

/-- Nothing is carried out meanwhile where nothing is laid down. -/
theorem carryOutAll_nil (depth : Nat) (w : World) : w.carryOutAll depth [] = (w, []) := by
  cases depth <;> rw [carryOutAll]

/-- A read is answered with the next thing that the script lays down. -/
theorem perform_of_read (depth : Nat) {k : Nat} {room : Bytes}
    (hcalls : (w.session.step event).value = .calls (.read k c room))
    (hline : w.connections.get? c = some (.line l)) (hduring : l.nextRead.2.during = []) :
    ∃ w' : World, w'.session = (w.session.step event).session ∧
      w'.connections.get? c = some (.line (l.nextRead.1.read room.length l.nextRead.2.act).1) ∧
      w.perform (depth + 2) event =
        let answer := (l.nextRead.1.read room.length l.nextRead.2.act).2
        let rest := w'.perform (depth + 1) (.readDone k answer)
        { rest with
          log := (w.session.step event).log ++ rest.log
          calls := reportRead l.name room [] answer :: rest.calls } := by
  let w' : World := { w with session := (w.session.step event).session }
  refine ⟨(w'.putConnection c (.line l.nextRead.1)).putConnection c
    (.line (l.nextRead.1.read room.length l.nextRead.2.act).1), rfl, by simp, ?_⟩
  rw [perform]
  simp only [hcalls]
  rw [ask]
  simp [w', hline, hduring, carryOutAll_nil]

/-- A write is answered as the script lays down, or the whole block is accepted as far as the
connection's own limit allows. -/
theorem perform_of_write (depth : Nat) {k : Nat} {block : Bytes}
    (hcalls : (w.session.step event).value = .calls (.write k c block))
    (hline : w.connections.get? c = some (.line l)) (hduring : l.nextWrite.2.during = []) :
    ∃ w' : World, w'.session = (w.session.step event).session ∧
      w'.connections.get? c = some (.line (l.nextWrite.1.write block l.nextWrite.2.act).1) ∧
      w.perform (depth + 2) event =
        let answer := (l.nextWrite.1.write block l.nextWrite.2.act).2
        let rest := w'.perform (depth + 1) (.writeDone k answer)
        { rest with
          log := (w.session.step event).log ++ rest.log
          calls := reportWrite l.name block [] answer :: rest.calls } := by
  let w' : World := { w with session := (w.session.step event).session }
  refine ⟨(w'.putConnection c (.line l.nextWrite.1)).putConnection c
    (.line (l.nextWrite.1.write block l.nextWrite.2.act).1), rfl, by simp, ?_⟩
  rw [perform]
  simp only [hcalls]
  rw [ask]
  simp [w', hline, hduring, carryOutAll_nil]

end World

end Conduit.Scenario

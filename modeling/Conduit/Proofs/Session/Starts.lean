import Conduit.Proofs.Session.Lockstep
import Conduit.Proofs.Session.Outbound
/-!
# Flushes that start alike

Two runs can be compared although their sessions hold different outlets under one key. For most
events it is enough that the two outlets belong together. A flush looks further into an outlet, at
its queue and at whether a write is in progress; but it may start the same way on both although they
are not equal, for instance because it has to wait on both.

## Main definitions

* `Conduit.Event.asksFlush`: whether an event asks for a flush.
* `Conduit.Gap.Starts`: flushes of a purpose start alike on outlets that belong together.

## Main results

* `same_step_of_starts`: such a flush has the same reply and log in both sessions and leaves them
  alike.
-/

namespace Conduit

/-- Whether an event asks for a flush, by the owner or by the engine. -/
def Event.asksFlush : Event → Bool
  | .flush _ => true
  | .flushAll _ => true
  | .control _ number => Control.ofNumber number = .flush
  | .callControl _ _ number => Control.ofNumber number = .flush
  | _ => false

namespace Gap

open Session

variable {g : Gap} {s t : Session}

/-- A flush of that purpose starts the same way on outlets that belong together, and they belong
together afterwards. -/
def Starts (g : Gap) (purpose : Purpose) : Prop :=
  ∀ {k o p}, g.outlet k o p → o.connection = p.connection ∧
    (o.start purpose).2 = (p.start purpose).2 ∧ g.outlet k (o.start purpose).1 (p.start purpose).1

theorem same_flushFor_of_starts {purpose : Purpose} (h : g.Alike s t) (hg : g.Starts purpose)
    (k : Nat) : g.Same (s.flushFor k purpose) (t.flushFor k purpose) := by
  rw [flushFor, flushFor]
  rcases h.outlet_cases k with ⟨hs, ht⟩ | ⟨o, p, hs, ht, hop⟩
  · rw [hs, ht]
    exact ⟨h, rfl, rfl⟩
  · obtain ⟨hconnection, hprogress, hstarted⟩ := hg hop
    simp only [hs, ht, startFlush, hconnection, hprogress]
    exact ⟨h.putOutlet hstarted, rfl, rfl⟩

theorem same_onWriteControl_of_starts (h : g.Alike s t) (hg : g.Starts .control) {e : Option Nat}
    (he : ∀ j, e = some j → g.Clear s .outbound j) :
    g.Same (s.onWriteControl e .flush) (t.onWriteControl e .flush) := by
  have hfound : e.bind s.outletAt? = none ∧ e.bind t.outletAt? = none ∨
      ∃ k o p, e.bind s.outletAt? = some (k, o) ∧ e.bind t.outletAt? = some (k, p) ∧
        g.outlet k o p := by
    cases e with
    | none => exact Or.inl ⟨rfl, rfl⟩
    | some j => exact h.outletAt?_cases (he j rfl)
  rcases hfound with ⟨hs, ht⟩ | ⟨k, o, p, hs, ht, hop⟩
  · simp only [onWriteControl, hs, ht]
    exact ⟨h, rfl, rfl⟩
  · obtain ⟨hconnection, hprogress, hstarted⟩ := hg hop
    have hstartedBoth := h.putOutlet hstarted
    simp only [onWriteControl, hs, ht, startFlush]
    rcases hstart : o.start .control with ⟨o', progress⟩
    rcases hstart' : p.start .control with ⟨p', progress'⟩
    rw [hstart, hstart'] at hprogress hstartedBoth
    cases hprogress
    cases progress with
    | busy => exact ⟨hstartedBoth, rfl, rfl⟩
    | ended outcome => exact ⟨hstartedBoth, rfl, rfl⟩
    | writing block => exact ⟨hstartedBoth, by dsimp only; rw [hconnection], rfl⟩

/-- A control command that asks for a flush. -/
theorem same_control_of_starts (h : g.Alike s t) (hlawful : g.Lawful) (hg : g.Starts .control)
    {e : Nat} (he : ¬ g.endpoint e) {number : Int} (hnumber : Control.ofNumber number = .flush) :
    g.SameCall (s.control e number) (t.control e number) := by
  rw [Session.control, Session.control, ← h.endpoints e he]
  cases hb : s.endpoints.get? e with
  | none => exact .none
  | some b =>
    dsimp only
    split
    · next hform =>
      have hclear := h.clear_of_form he hb hform
      rw [onReadControl_eq h hlawful (by rintro j ⟨⟩; exact hclear)]
      exact .some ⟨h, rfl, rfl⟩
    · next hform =>
      have hclear := h.clear_of_form he hb hform
      rw [hnumber]
      exact .some (same_onWriteControl_of_starts h hg (by rintro j ⟨⟩; exact hclear))
    · exact .some ⟨h.modifyEndpoint_of_foreign (by simp), rfl, rfl⟩
    · exact .some ⟨h, rfl, rfl⟩

/-- **A flush that starts alike on outlets that belong together does the same in both sessions.** -/
theorem same_step_of_starts (h : g.Alike s t) (hlawful : g.Lawful) {event : Event}
    (hasks : event.asksFlush = true) (hg : g.Starts event.purpose)
    (hends : g.EvenEnds s event) : g.Same (s.step event) (t.step event) := by
  cases event with
  | flush k => exact same_flushFor_of_starts h hg k
  | flushAll j =>
    simp only [step]
    by_cases hj : g.duplex j
    · obtain ⟨d, hd⟩ := Table.contains_iff.mp (hends hj)
      obtain ⟨d', hd', hkeys⟩ := h.keys j d hj hd
      rw [hd, hd']
      dsimp only
      rw [hkeys]
      exact same_flushFor_of_starts h hg _
    · rw [← h.duplexes j hj]
      cases s.duplexes.get? j with
      | none => exact ⟨h, rfl, rfl⟩
      | some d => exact same_flushFor_of_starts h hg _
  | control e number =>
    simp only [step]
    rcases (same_control_of_starts h hlawful hg hends (of_decide_eq_true hasks)).cases with
      ⟨hs, ht⟩ | ⟨s', t', value, log, hs, ht, halike⟩
    · rw [hs, ht]
      exact ⟨h, rfl, rfl⟩
    · rw [hs, ht]
      exact ⟨halike, rfl, rfl⟩
  | callControl side e number =>
    have hnumber : Control.ofNumber number = .flush := of_decide_eq_true hasks
    simp only [step, ← h.hasCallbacks_eq, hnumber]
    split
    · cases side with
      | inbound => exact ⟨h, by simp only [onReadControl_eq h hlawful hends], rfl⟩
      | outbound => exact (same_onWriteControl_of_starts h hg hends).map Reply.ofControl
    · exact ⟨h, rfl, rfl⟩
  | _ => cases hasks

end Gap

end Conduit

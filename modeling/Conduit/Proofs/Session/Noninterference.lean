import Conduit.Proofs.Session.Echo
/-!
# Parties do not interfere

Two parties share a session and each does what it does in whatever order, between the events of the
other or while the other waits for its connection. What the one gets to see is what it would have
seen alone, but for the numbers of its tokens.

The argument follows three sessions along a run: the shared one, and two in which each party is
alone. Either is mirrored by the shared one. An event of a party echoes in the session where that
party is alone, and the mirror of the other is not disturbed, since nothing changes but what belongs
to the first party. For that the tokens of the two have to be different ones in the shared session,
which they are as each was new when it was issued.

## Main definitions

* `Conduit.Compartment.Vacant`: a party has no endpoints and no duplexes yet.
* `Conduit.Compartment.Agree`: two sessions are the same to a party but for the numbers of tokens.
* `Conduit.Session.onLive`: callbacks are called directly only on endpoints that are there.
* `Conduit.Compartment.Abreast`: the invariant of the three sessions.

## Main results

* `Abreast.step`, `Abreast.run`: the invariant is kept.
* `noninterference`: a party sees the same in company as alone.
-/

namespace Conduit

/-- Whether callbacks are called directly only on endpoints that are there at the time. -/
def Session.onLive (s : Session) : List Event → Bool
  | [] => true
  | event :: rest =>
      event.calledOn.all s.endpoints.contains && (s.step event).session.onLive rest

/-- The tokens that have a name. -/
def Naming.known (n : Naming) : Side → Token → Prop := fun side u => ∃ v, n side u v

namespace Compartment

variable {x y : Compartment} {n m : Naming} {s a b : Session}

/-- A party has no endpoints and no duplexes yet. -/
structure Vacant (x : Compartment) (s : Session) : Prop where
  endpoints : ∀ e side, x.side? e = some side → s.endpoints.get? e = none
  duplexes : ∀ j, x.duplex j = true → s.duplexes.get? j = none

/-- Two sessions are the same to a party but for the numbers of tokens. -/
structure Agree (x : Compartment) (n : Naming) (s t : Session) : Prop where
  inlets : ∀ k, x.inlet k = true → s.inlets.get? k = t.inlets.get? k
  outlets : ∀ k, x.outlet k = true → s.outlets.get? k = t.outlets.get? k
  duplexes : ∀ j, x.duplex j = true → s.duplexes.get? j = t.duplexes.get? j
  endpoints : ∀ e side, x.side? e = some side →
    Option.Rel (Endpoint.Matches n side) (s.endpoints.get? e) (t.endpoints.get? e)
  /-- Endpoints lead to the same adapters. -/
  resolve : ∀ e side, x.side? e = some side → s.resolve side e = t.resolve side e

theorem Mirror.agree {others : Side → Token → Prop} {base t : Session}
    (h : x.Mirror n others base s t) : x.Agree n s t where
  inlets := h.inlets
  outlets := h.outlets
  duplexes := h.duplexes
  endpoints := h.endpoints
  resolve e side he := by
    rcases h.resolve_cases he with ⟨hs, ht⟩ | ⟨a, -, -, hs, ht⟩ <;> rw [hs, ht]

/-- An event belongs to one party only. -/
theorem Apart.owns_eq_false (h : x.Apart y) {event : Event} (howned : x.owns event = true) :
    y.owns event = false := by
  cases event with
  | openInlet | request | markEnded | pump | readDone => exact h.inlet _ howned
  | openOutlet | append | flush | writeDone => exact h.outlet _ howned
  | flushAll | close | dropDuplex => exact h.duplex _ howned
  | openDuplex j d =>
    simp only [owns, Bool.and_eq_true] at howned
    simp [owns, h.duplex j howned.1]
  | attach e a | disconnect e a =>
    simp only [owns, Bool.and_eq_true, decide_eq_true_eq] at howned
    simp [owns, h.side? e _ howned.1]
  | share | free | setFlags | read | write | control | streamRead | streamWrite | streamWriteAll =>
    obtain ⟨side, he⟩ := Option.isSome_iff_exists.mp howned
    simp [owns, h.side? _ side he]
  | callRead e | callWrite e => simp [owns, h.side? e _ (of_decide_eq_true howned)]
  | callControl side e | callCreate side e | callDestroy side e =>
    cases e with
    | none => cases howned
    | some e => simp [owns, h.side? e side (of_decide_eq_true howned)]
  | _ => cases howned

/-! ### Three sessions -/

/-- A session that two parties share mirrors those in which each is alone, and no token is of both.
-/
structure Abreast (x y : Compartment) (n m : Naming) (s a b : Session) : Prop where
  left : x.Mirror n m.known s s a
  right : y.Mirror m n.known s s b

theorem Abreast.symm (h : x.Abreast y n m s a b) : y.Abreast x m n s b a := ⟨h.right, h.left⟩

/-- The base of a mirror can be set anew. -/
theorem Mirror.rebase {others : Side → Token → Prop} {base t : Session}
    (h : x.Mirror n others base s t) : x.Mirror n others s s t :=
  { h with confined := .refl x others s }

/-- What one party does is not seen in the mirror of the other. -/
theorem Mirror.undisturbed {n' : Naming} {others : Side → Token → Prop} {s' a' : Session}
    (hapart : x.Apart y) (hx : x.Mirror n' m.known s s' a') (hy : y.Mirror m others s s b) :
    y.Mirror m n'.known s' s' b where
  inlets k hk := by rw [hx.confined.inlets k (hapart.symm.inlet k hk), hy.inlets k hk]
  outlets k hk := by rw [hx.confined.outlets k (hapart.symm.outlet k hk), hy.outlets k hk]
  duplexes j hj := by rw [hx.confined.duplexes j (hapart.symm.duplex j hj), hy.duplexes j hj]
  endpoints e side he := by
    rw [hx.confined.endpoints e (hapart.symm.side? e side he)]
    exact hy.endpoints e side he
  holds := hy.holds
  entries side u v huv := by rw [hx.confined.entries side u ⟨v, huv⟩, hy.entries side u v huv]
  leads := hy.leads
  old side u v huv := by
    obtain ⟨hu, hv⟩ := hy.old side u v huv
    exact ⟨Nat.lt_of_lt_of_le hu (hx.confined.issued side), hv⟩
  oneToOne := hy.oneToOne
  -- a token of the first party was issued by now, and it never was one of the second
  foreign := by
    rintro side u ⟨v, huv⟩
    exact ⟨(hx.old side u v huv).1, fun w huw => (hx.foreign side u ⟨w, huw⟩).2 v huv⟩
  calm := hx.calm
  calm' := hy.calm'
  tables side := by rw [hx.confined.tables side, hy.tables side]
  built e side he hcontains := by
    obtain ⟨hs, hb⟩ := hy.built e side he hcontains
    exact ⟨hx.confined.built side hs, hb⟩
  confined := .refl y n'.known s'

/-- **An event of a party comes to the same in the session where that party is alone**, and the
other party is none the wiser. -/
theorem Abreast.step (hapart : x.Apart y) (h : x.Abreast y n m s a b) {event : Event}
    (howned : x.owns event = true)
    (hlive : event.calledOn.all s.endpoints.contains = true) :
    ∃ n', n ≤ n' ∧ x.Abreast y n' m (s.step event).session (a.step event).session b ∧
      Session.Record.Matches n' ⟨event, (s.step event).value, (s.step event).log⟩
        ⟨event, (a.step event).value, (a.step event).log⟩ := by
  have hcalled : ∀ e, event.calledOn = some e → s.endpoints.contains e = true := by
    intro e he
    simpa [he] using hlive
  obtain ⟨n', hle, hechoes⟩ := echoes_step h.left howned hcalled
  exact ⟨n', hle, ⟨hechoes.mirror.rebase, hechoes.mirror.undisturbed hapart h.right⟩,
    rfl, hechoes.reply, hechoes.log⟩

/-- The invariant is kept along a run, and the records of the first party match. -/
theorem Abreast.run (hapart : x.Apart y) {events : List Event}
    (howned : ∀ event ∈ events, x.owns event = true ∨ y.owns event = true)
    (h : x.Abreast y n m s a b) (hlive : s.onLive events = true) :
    ∃ n' m', n ≤ n' ∧ x.Abreast y n' m' (s.run events).1 (a.run (events.filter x.owns)).1
        (b.run (events.filter y.owns)).1 ∧
      List.Forall₂ (Session.Record.Matches n') ((s.run events).2.filter (x.owns ·.event))
        (a.run (events.filter x.owns)).2 := by
  induction events generalizing n m s a b with
  | nil => exact ⟨n, m, le_rfl, h, .nil⟩
  | cons event rest ih =>
    simp only [Session.onLive, Bool.and_eq_true] at hlive
    have hrest := fun e he => howned e (List.mem_cons_of_mem event he)
    rcases howned event List.mem_cons_self with hx | hy
    -- an event of the first party is in both runs that are compared, with the names known then
    · have hy := hapart.owns_eq_false hx
      obtain ⟨n₁, hle, habreast, hrecord⟩ := h.step hapart hx hlive.1
      obtain ⟨n', m', hle', hend, hrecords⟩ := ih hrest habreast hlive.2
      simp only [List.filter_cons, hx, hy, if_true, Bool.false_eq_true, if_false, Session.run]
      exact ⟨n', m', hle.trans hle', hend, .cons (hrecord.mono hle') hrecords⟩
    -- one of the second party is in the shared run only, and moves the other one along
    · have hx := hapart.symm.owns_eq_false hy
      obtain ⟨m₁, -, habreast, -⟩ := h.symm.step hapart.symm hy hlive.1
      obtain ⟨n', m', hle, hend, hrecords⟩ := ih hrest habreast.symm hlive.2
      simp only [List.filter_cons, hx, hy, if_true, Bool.false_eq_true, if_false, Session.run]
      exact ⟨n', m', hle, hend, hrecords⟩

/-- A session in which a party has nothing mirrors itself, if no call to the engine is going to
fail. -/
theorem Vacant.mirror (h : x.Vacant s) (hcalm : s.engine.Calm) :
    x.Mirror .empty Naming.empty.known s s s where
  inlets _ _ := rfl
  outlets _ _ := rfl
  duplexes _ _ := rfl
  endpoints e side he := by
    rw [h.endpoints e side he]
    exact .none
  holds j d hj hd := by
    rw [h.duplexes j hj] at hd
    cases hd
  entries _ _ _ huv := huv.elim
  leads _ _ _ huv := huv.elim
  old _ _ _ huv := huv.elim
  oneToOne huv := huv.elim
  foreign _ _ hu := hu.choose_spec.elim
  calm := hcalm
  calm' := hcalm
  tables _ := rfl
  built e side he hcontains := by
    rw [Table.contains, h.endpoints e side he] at hcontains
    cases hcontains
  confined := .refl x _ s

end Compartment

namespace Session

open Compartment

/-- **Parties do not interfere.** Two parties share a session in which neither has an endpoint or a
duplex at first. Each uses what belongs to it, and no call to the engine fails. Then all that is
recorded of a party's events, and all that belongs to it in the end, is what it would be had the
other done nothing, but for the numbers of its tokens.

The answers of connections are events of the parties, so each party's connection gives the same
answers in both runs. Whether one party is waiting for an answer while the other does something is
of no account. -/
theorem noninterference {ours theirs : Compartment} (hapart : ours.Apart theirs) {s : Session}
    (hcalm : s.engine.Calm) (hours : ours.Vacant s) (htheirs : theirs.Vacant s)
    {events : List Event}
    (howned : ∀ event ∈ events, ours.owns event = true ∨ theirs.owns event = true)
    (hlive : s.onLive events = true) :
    ∃ n : Naming, n.OneToOne ∧
      List.Forall₂ (Record.Matches n) ((s.run events).2.filter (ours.owns ·.event))
        (s.run (events.filter ours.owns)).2 ∧
      ours.Agree n (s.run events).1 (s.run (events.filter ours.owns)).1 := by
  have hstart : ours.Abreast theirs .empty .empty s s s :=
    ⟨hours.mirror hcalm, htheirs.mirror hcalm⟩
  obtain ⟨n, m, -, hend, hrecords⟩ := hstart.run hapart howned hlive
  exact ⟨n, hend.left.oneToOne, hrecords, hend.left.agree⟩

/-- Two duplexes. While the second waits for its connection, first to read and then to write, the
engine writes to the first, flushes it and drops it. -/
def crossed : List Event :=
  [.openDuplex 1 ⟨1, 1, 2, 3⟩ 1 { recordSize := 4 },
    .openDuplex 0 ⟨0, 0, 0, 1⟩ 0 { recordSize := 4 },
    .pump 0, .callWrite 3 2 (some [7, 8]), .flush 1, .readDone 0 (.returned 2 [1, 2]),
    .read 0 4 true, .write 1 1 (some [3]), .control 1 11, .writeDone 1 (.accepted 2),
    .dropDuplex 1, .writeDone 0 (.accepted 1), .callControl .inbound (some 0) 10, .dropDuplex 0]

theorem noninterference_crossed :
    (∀ event ∈ crossed, (ofDuplex 0 ⟨0, 0, 0, 1⟩).owns event = true ∨
      (ofDuplex 1 ⟨1, 1, 2, 3⟩).owns event = true) ∧
    ({} : Session).onLive crossed = true ∧
    ∃ n : Naming, n.OneToOne ∧
      List.Forall₂ (Record.Matches n)
        ((({} : Session).run crossed).2.filter ((ofDuplex 0 ⟨0, 0, 0, 1⟩).owns ·.event))
        (({} : Session).run (crossed.filter (ofDuplex 0 ⟨0, 0, 0, 1⟩).owns)).2 ∧
      (ofDuplex 0 ⟨0, 0, 0, 1⟩).Agree n (({} : Session).run crossed).1
        (({} : Session).run (crossed.filter (ofDuplex 0 ⟨0, 0, 0, 1⟩).owns)).1 := by
  have howned : ∀ event ∈ crossed, (ofDuplex 0 ⟨0, 0, 0, 1⟩).owns event = true ∨
      (ofDuplex 1 ⟨1, 1, 2, 3⟩).owns event = true := by
    simp [crossed, owns, ofDuplex, holds]
  have hlive : ({} : Session).onLive crossed = true := by decide
  have hapart : (ofDuplex 0 ⟨0, 0, 0, 1⟩).Apart (ofDuplex 1 ⟨1, 1, 2, 3⟩) :=
    apart_ofDuplex (by decide) (by decide) (by decide) (by decide) (by decide)
  exact ⟨howned, hlive, noninterference hapart (fun _ => rfl) ⟨fun _ _ _ => rfl, fun _ _ => rfl⟩
    ⟨fun _ _ _ => rfl, fun _ _ => rfl⟩ howned hlive⟩

end Session

end Conduit

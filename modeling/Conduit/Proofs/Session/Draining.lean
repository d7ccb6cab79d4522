import Conduit.Proofs.Session.Interleaving
import Conduit.Proofs.Session.Joined
/-!
# How draining ends

Draining an outlet is one call of the owner and many of the connection. It goes on with everything
that is left after each write that got something accepted or was interrupted, and any other answer
ends it. So what the call comes to can be told from the last answer and the books of this call
alone: they begin with the queue that the call finds, and take in whatever is appended while the
connection writes.

It is assumed that the call finds the outlet between two writes and with nothing counted as in
flight. Where a panic has left a count behind, there may be nothing to offer for what is pending,
and the call ends as a refused write that never happened.

## Main definitions

* `Conduit.WriteAnswer.LetsGoOn`: an answer after which draining goes on.
* `Conduit.Outlet.Drains`: how draining goes on or ends with an answer.
* `Conduit.Session.GoesOn`, `Conduit.Session.Draining`: a call that is under way.
* `Conduit.Session.DrainAnswered`: what the call comes to with one more answer.

## Main results

* `drains_resume`: each answer but a panic is one of four.
* `draining_step`, `draining_run`: the call stays under way until its last answer.
* `flushAll_outcomes`: how draining ends.
-/

namespace Conduit

/-- An answer after which draining goes on as long as bytes are left: something was accepted, or the
write was interrupted. -/
def WriteAnswer.LetsGoOn (block : Bytes) (a : WriteAnswer) : Prop :=
  a.accepts block ≠ [] ∨ ∃ error, a = .failed error ∧ error.kind = .interrupted

namespace Outlet

/-- How draining goes on when its block has been answered without a panic. Landing leaves an outlet
that is not flying anything, with all in its queue that was not accepted. -/
inductive Drains (o : Outlet) (total : Nat) (block : Bytes) (a : WriteAnswer) :
    Outlet × Progress → Prop where
  /-- Bytes are left, and all of them are offered next. -/
  | goesOn (ha : a.LetsGoOn block) (hqueue : o.queue ≠ []) :
      Drains o total block a
        ({ o with
            queue := []
            inFlight := o.queue.length
            flight := some ⟨o.queue, .drain (total + (a.accepts block).length)⟩ },
          .writing o.queue)
  /-- Nothing is left. -/
  | done (ha : a.accepts block ≠ []) (hqueue : o.queue = []) :
      Drains o total block a (o, .ended (.value (total + (a.accepts block).length)))
  /-- The connection accepts nothing. -/
  | refused (n : Nat) (ha : a = .accepted n) (hnil : a.accepts block = []) :
      Drains o total block a (o, .ended (.failed (.plain .writeZero)))
  /-- The connection fails for good. -/
  | failed (error : IoError) (ha : a = .failed error) (hkind : error.kind ≠ .interrupted) :
      Drains o total block a (o, .ended (.failed error))

theorem drains_resume (o : Outlet) {block : Bytes} (hblock : block ≠ []) (total : Nat)
    {a : WriteAnswer} (ha : ∀ panic, a ≠ .panicked panic) :
    Drains (o.land block a).1 total block a
      ((o.land block a).1.resume (.drain total) (o.land block a).2) := by
  have hexact := inFlight_land o block ha
  cases a with
  | panicked panic => exact absurd rfl (ha panic)
  | accepted n =>
    -- where nothing was accepted, the whole block is back in the queue
    have hback (hnil : WriteAnswer.accepts block (.accepted n) = []) :
        0 < (o.land block (.accepted n)).1.pending := by
      have hparts := WriteAnswer.accepts_append_loses_append_leaves (.accepted n) block
      have hleaves : WriteAnswer.leaves block (.accepted n) = block := by
        simpa [hnil, WriteAnswer.loses] using hparts
      have hlength := List.length_pos_iff.mpr hblock
      rw [land_fst, pending, hleaves, List.length_append]
      omega
    rw [land_snd]
    simp only [resume]
    split
    · next hrefused => exact .refused n rfl (List.eq_nil_of_length_eq_zero hrefused.1)
    · next hgoes =>
      have haccepts : WriteAnswer.accepts block (.accepted n) ≠ [] := fun hnil =>
        hgoes ⟨by rw [hnil]; rfl, hback hnil⟩
      rw [drain_of_exact hexact]
      split
      · next hempty => exact .done haccepts hempty
      · next hleft => exact .goesOn (Or.inl haccepts) hleft
  | failed error =>
    have hqueue : (o.land block (.failed error)).1.queue ≠ [] := by
      rw [land_fst]
      simp [WriteAnswer.leaves, hblock]
    rw [land_snd]
    simp only [resume]
    split
    · next hkind =>
      rw [drain_of_exact hexact, if_neg hqueue]
      exact .goesOn (Or.inr ⟨error, rfl, hkind⟩) hqueue
    · next hkind => exact .failed error rfl hkind

end Outlet

namespace Session

open Outlet (Ledger)

theorem appended_outletLedger (s : Session) (k : Nat) (l : Ledger) (events : List Event) :
    (s.outletLedger k l events).appended = l.appended ++ s.takenDuring k events := by
  induction events generalizing s l with
  | nil => exact (List.append_nil _).symm
  | cons event rest ih =>
    rw [outletLedger, ih, Ledger.appended_enter, takenDuring, List.append_assoc]

/-! ### While a call drains -/

/-- So far, every answer of the connection of the outlet under a key was followed by another
call. -/
def GoesOn (k : Nat) (records : List Record) : Prop :=
  ∀ r ∈ records, ∀ a, r.event = .writeDone k a → ∃ call, r.reply = .calls call

/-- A call that drains the outlet is under way. Its writes are those of the ledger: all that have
been answered let it go on, and the next one is on offer. -/
structure Draining (l : Ledger) (o : Outlet) : Prop where
  agrees : l.Agrees o
  offer : ∃ block, l.offer = some ⟨block, .drain l.accepted.length⟩
  letsGoOn : ∀ x ∈ l.answered, x.2.LetsGoOn x.1

section Draining

variable {s : Session} {k : Nat} {l : Ledger} {o : Outlet}

/-- What an answer to a write that is part of draining comes to. -/
theorem step_writeDone_of_drain (hk : s.outlets.get? k = some o) {block : Bytes} {total : Nat}
    (hf : o.flight = some ⟨block, .drain total⟩) (hblock : block ≠ []) {a : WriteAnswer}
    (ha : ∀ panic, a ≠ .panicked panic) :
    ∃ result, (o.land block a).1.Drains total block a result ∧
      (s.step (.writeDone k a)).session.outlets.get? k = some result.1 ∧
      (s.step (.writeDone k a)).value =
        (Reply.ofFlush k o.connection (.drain total) result.2).1 :=
  ⟨_, Outlet.drains_resume o hblock total ha, writeDone_of_flight hk hf a⟩

theorem Draining.flight (h : Draining l o) :
    ∃ block, o.flight = some ⟨block, .drain l.accepted.length⟩ ∧ block ≠ [] := by
  obtain ⟨block, hoffer⟩ := h.offer
  have hflight := h.agrees.offer.trans hoffer
  exact ⟨block, hflight, (h.agrees.aloft _ hflight).1⟩

/-- A panic ends the call. -/
theorem ne_panicked_of_goesOn (hk : s.outlets.get? k = some o) {f : Flight}
    (hf : o.flight = some f) {a : WriteAnswer} {call : Call}
    (hcalls : (s.step (.writeDone k a)).value = .calls call) (panic : Panic) :
    a ≠ .panicked panic := by
  rintro rfl
  rw [reply_writeDone hk hf, Outlet.land_snd] at hcalls
  cases hpurpose : f.purpose <;> rw [hpurpose] at hcalls <;> cases hcalls

/-- Every event but the last answer keeps the call under way. -/
theorem draining_step (hk : s.outlets.get? k = some o) (h : Draining l o) {event : Event}
    (hgoes : ∀ a, event = .writeDone k a → ∃ call, (s.step event).value = .calls call) :
    ∃ o', (s.step event).session.outlets.get? k = some o' ∧
      Draining (l.enter s k event (s.step event).value) o' := by
  obtain ⟨o', hk', hagrees⟩ := outlet_agrees_step hk h.agrees event
  obtain ⟨block, hflight, hblock⟩ := h.flight
  refine ⟨o', hk', ?_⟩
  by_cases hevent : ∃ a, event = .writeDone k a
  · obtain ⟨a, rfl⟩ := hevent
    obtain ⟨call, hcalls⟩ := hgoes a rfl
    have hoffer := h.agrees.offer.symm.trans hflight
    obtain ⟨result, hdrains, hget, hvalue⟩ :=
      step_writeDone_of_drain hk hflight hblock (ne_panicked_of_goesOn hk hflight hcalls)
    rw [hvalue] at hcalls
    cases hget.symm.trans hk'
    cases hdrains with
    | done | refused | failed => cases hcalls
    | goesOn ha hqueue =>
      refine ⟨hagrees, ⟨(o.land block a).1.queue, hagrees.offer.symm.trans ?_⟩, ?_⟩
      · rw [Ledger.accepted_enter_writeDone hoffer, List.length_append]
      · rw [Ledger.answered_enter_writeDone hoffer]
        intro x hx
        rcases List.mem_append.mp hx with hx | hx
        · exact h.letsGoOn x hx
        · rw [List.mem_singleton.mp hx]
          exact ha
  · have hne : ∀ a, event ≠ .writeDone k a := fun a ha => hevent ⟨a, ha⟩
    have hlater := @outlet_run_of_flight s k o _ hk hflight [event] (by simpa [eq_comm] using hne)
    cases hk'.symm.trans hlater
    have hanswered : (l.enter s k event (s.step event).value).answered = l.answered :=
      Ledger.answered_enter_of_ne hne
    refine ⟨hagrees, ⟨block, ?_⟩, by rw [hanswered]; exact h.letsGoOn⟩
    rw [Ledger.accepted, hanswered, ← hagrees.offer]
    exact hflight

/-- The call stays under way as long as each answer is followed by another write. -/
theorem draining_run (hk : s.outlets.get? k = some o) (h : Draining l o) {events : List Event}
    (hgoes : GoesOn k (s.run events).2) :
    ∃ o', (s.run events).1.outlets.get? k = some o' ∧ Draining (s.outletLedger k l events) o' := by
  induction events generalizing s l o with
  | nil => exact ⟨o, hk, h⟩
  | cons event rest ih =>
    obtain ⟨hfirst, hrest⟩ := List.forall_mem_cons.mp hgoes
    obtain ⟨o', hk', h'⟩ := draining_step hk h hfirst
    exact ih hk' h' hrest

/-- An idle outlet whose count is right agrees with a ledger that begins with its queue. -/
theorem agrees_of_exact (hidle : o.flight = none) (hexact : o.inFlight = 0) :
    Ledger.Agrees { appended := o.queue } o where
  balance := by rw [Outlet.waiting_of_idle hidle]; rfl
  offer := hidle
  aloft f hf := by rw [hidle] at hf; cases hf
  idle _ := hexact
  nonempty := by simp

theorem flushAll_of_empty {j : Nat} {d : Duplex} (hj : s.duplexes.get? j = some d)
    (ho : s.outlets.get? d.outlet = some o) (hexact : o.inFlight = 0) (hqueue : o.queue = []) :
    (s.step (.flushAll j)).session.outlets.get? d.outlet = some o ∧
      (s.step (.flushAll j)).value = .count 0 := by
  have hstart : o.start (.drain 0) = (o, .ended (.value 0)) := by
    simp [Outlet.start, Outlet.pending, hexact, hqueue]
  simp only [step, hj]
  obtain ⟨hget, hvalue⟩ := flushFor_self ho (.drain 0)
  rw [hget, hvalue, hstart]
  exact ⟨rfl, rfl⟩

theorem flushAll_of_queued {j : Nat} {d : Duplex} (hj : s.duplexes.get? j = some d)
    (ho : s.outlets.get? d.outlet = some o) (hidle : o.flight = none) (hexact : o.inFlight = 0)
    (hqueue : o.queue ≠ []) :
    (s.step (.flushAll j)).session.outlets.get? d.outlet =
        some { o with
          queue := [], inFlight := o.queue.length, flight := some ⟨o.queue, .drain 0⟩ } ∧
      (s.step (.flushAll j)).value = .calls (.write d.outlet o.connection o.queue) := by
  have hstart : o.start (.drain 0) =
      ({ o with queue := [], inFlight := o.queue.length, flight := some ⟨o.queue, .drain 0⟩ },
        .writing o.queue) := by
    have hpending : o.pending ≠ 0 := by simp [Outlet.pending, hqueue]
    simp [Outlet.start, hpending, hidle, Outlet.drain_of_exact hexact, hqueue]
  simp only [step, hj]
  obtain ⟨hget, hvalue⟩ := flushFor_self ho (.drain 0)
  rw [hget, hvalue, hstart]
  exact ⟨rfl, rfl⟩

theorem draining_flushAll {j : Nat} {d : Duplex} (hj : s.duplexes.get? j = some d)
    (ho : s.outlets.get? d.outlet = some o) (hidle : o.flight = none) (hexact : o.inFlight = 0)
    (hqueue : o.queue ≠ []) :
    ∃ o', (s.step (.flushAll j)).session.outlets.get? d.outlet = some o' ∧
      Draining (Ledger.enter { appended := o.queue } s d.outlet (.flushAll j)
        (s.step (.flushAll j)).value) o' := by
  obtain ⟨hget, -⟩ := flushAll_of_queued hj ho hidle hexact hqueue
  obtain ⟨o', hget', hagrees⟩ :=
    outlet_agrees_step ho (agrees_of_exact hidle hexact) (.flushAll j)
  cases hget.symm.trans hget'
  have hanswered := @Ledger.answered_enter_of_ne { appended := o.queue } s d.outlet (.flushAll j)
    (s.step (.flushAll j)).value (by simp)
  refine ⟨_, hget, hagrees, ⟨o.queue, hagrees.offer.symm.trans ?_⟩, ?_⟩
  · rw [Ledger.accepted, hanswered]
    rfl
  · rw [hanswered]
    simp

theorem Draining.intact (h : Draining l o) : l.Intact := by
  rintro ⟨block, a⟩ hx panic rfl
  rcases h.letsGoOn _ hx with haccepts | ⟨error, ha, -⟩
  · exact haccepts rfl
  · cases ha

end Draining

/-! ### How a call that drains ends -/

/-- What a call that drains the outlet under a key comes to with an answer to its block, by the
ledger and the outlet after that. -/
inductive DrainReply (k : Nat) (l : Ledger) (o : Outlet) (block : Bytes) (a : WriteAnswer) :
    Reply → Prop where
  /-- The next write is offered all that is left. -/
  | goesOn {rest : Bytes} (ha : a.LetsGoOn block) (hrest : rest ≠ []) (hqueue : o.queue = [])
      (hflight : o.flight = some ⟨rest, .drain l.accepted.length⟩) :
      DrainReply k l o block a (.calls (.write k o.connection rest))
  /-- Nothing is pending, and the call says how much was accepted. -/
  | done (ha : a.accepts block ≠ []) (hidle : o.flight = none) (hpending : o.pending = 0) :
      DrainReply k l o block a (.count l.accepted.length)
  /-- The connection accepts nothing of a block that holds something. -/
  | refused {n : Nat} (ha : a = .accepted n) (hnil : a.accepts block = []) (hidle : o.flight = none)
      (hexact : o.inFlight = 0) :
      DrainReply k l o block a (.failed (.plain .writeZero))
  /-- The call fails as the connection did. -/
  | failed {error : IoError} (ha : a = .failed error) (hkind : error.kind ≠ .interrupted)
      (hidle : o.flight = none) (hexact : o.inFlight = 0) :
      DrainReply k l o block a (.failed error)

/-- A call that drains the outlet under a key has come as far as the ledger, and the connection
answers once more. -/
structure DrainAnswered (s : Session) (k : Nat) (l : Ledger) (a : WriteAnswer) (block : Bytes)
    (o : Outlet) : Prop where
  /-- Every earlier write got something accepted or was interrupted. -/
  earlier : ∀ x ∈ l.answered, x.2.LetsGoOn x.1
  block_ne_nil : block ≠ []
  answered : (l.enter s k (.writeDone k a) (s.step (.writeDone k a)).value).answered =
    l.answered ++ [(block, a)]
  get? : (s.step (.writeDone k a)).session.outlets.get? k = some o
  /-- What was accepted is gone from the front, and everything else is still there. -/
  balance : l.appended =
    (l.enter s k (.writeDone k a) (s.step (.writeDone k a)).value).accepted ++ o.waiting
  reply : DrainReply k (l.enter s k (.writeDone k a) (s.step (.writeDone k a)).value) o block a
    (s.step (.writeDone k a)).value

theorem drainAnswered_of_draining {s : Session} {k : Nat} {l : Ledger} {o : Outlet}
    (hk : s.outlets.get? k = some o) (h : Draining l o) {a : WriteAnswer}
    (ha : ∀ panic, a ≠ .panicked panic) : ∃ block o', DrainAnswered s k l a block o' := by
  obtain ⟨block, hflight, hblock⟩ := h.flight
  have hoffer := h.agrees.offer.symm.trans hflight
  obtain ⟨o', hk', hagrees⟩ := outlet_agrees_step hk h.agrees (.writeDone k a)
  have hintact := @intact_enter l h.intact s k (.writeDone k a)
    (by rintro panic ⟨⟩; exact ha panic rfl) (s.step (.writeDone k a)).value
  refine ⟨block, o', h.letsGoOn, hblock, Ledger.answered_enter_writeDone hoffer a, hk', ?_, ?_⟩
  · rw [← hintact.departed_eq, ← hagrees.balance, Ledger.appended_enter]
    exact (List.append_nil _).symm
  · obtain ⟨result, hdrains, hget, hvalue⟩ := step_writeDone_of_drain hk hflight hblock ha
    cases hget.symm.trans hk'
    have hlanded : (o.land block a).1.flight = none := by rw [Outlet.land_fst]
    have hexact := Outlet.inFlight_land o block ha
    have htotal : (l.enter s k (.writeDone k a) (s.step (.writeDone k a)).value).accepted.length =
        l.accepted.length + (a.accepts block).length := by
      rw [Ledger.accepted_enter_writeDone hoffer, List.length_append]
    generalize l.enter s k (.writeDone k a) (s.step (.writeDone k a)).value = l' at htotal
    rw [hvalue]
    cases hdrains with
    | goesOn hgoes hqueue =>
      have hconnection : (o.land block a).1.connection = o.connection := by rw [Outlet.land_fst]
      rw [← htotal, ← hconnection]
      exact .goesOn hgoes hqueue rfl rfl
    | done haccepts hqueue =>
      rw [← htotal]
      exact .done haccepts hlanded (by simp [Outlet.pending, hqueue, hexact])
    | refused n hn hnil => exact .refused hn hnil hlanded hexact
    | failed error herror hkind => exact .failed herror hkind hlanded hexact

/-- **How draining ends.** With nothing pending it ends at once and calls no connection. Otherwise
the connection is offered the whole queue; and after any events during which each of its answers was
followed by another call, one more answer either is followed by yet another one or ends the call, as
`DrainReply` says: with the number of bytes accepted by all its writes and nothing pending, as a
refused write, or as the connection failed. At every point, the queue that the call found and what
was appended since are what its writes got accepted, followed by what the outlet still has. -/
theorem flushAll_outcomes {s : Session} {j : Nat} {d : Duplex} {o : Outlet}
    (hj : s.duplexes.get? j = some d) (ho : s.outlets.get? d.outlet = some o)
    (hidle : o.flight = none) (hexact : o.inFlight = 0) :
    (o.queue = [] → (s.step (.flushAll j)).value = .count 0 ∧
      (s.step (.flushAll j)).session.outlets.get? d.outlet = some o ∧ o.pending = 0) ∧
    (o.queue ≠ [] →
      (s.step (.flushAll j)).value = .calls (.write d.outlet o.connection o.queue) ∧
      ∀ events, GoesOn d.outlet (s.run (.flushAll j :: events)).2 →
        (s.outletLedger d.outlet { appended := o.queue } (.flushAll j :: events)).appended =
          o.queue ++ s.takenDuring d.outlet (.flushAll j :: events) ∧
        ∀ a, (∀ panic, a ≠ .panicked panic) → ∃ block o',
          DrainAnswered (s.run (.flushAll j :: events)).1 d.outlet
            (s.outletLedger d.outlet { appended := o.queue } (.flushAll j :: events)) a block
            o') := by
  refine ⟨fun hqueue => ?_, fun hqueue => ⟨?_, fun events hgoes => ⟨?_, fun a ha => ?_⟩⟩⟩
  · obtain ⟨hget, hvalue⟩ := flushAll_of_empty hj ho hexact hqueue
    exact ⟨hvalue, hget, by simp [Outlet.pending, hexact, hqueue]⟩
  · exact (flushAll_of_queued hj ho hidle hexact hqueue).2
  · exact appended_outletLedger s d.outlet _ _
  · obtain ⟨o₁, hk₁, h₁⟩ := draining_flushAll hj ho hidle hexact hqueue
    obtain ⟨o₂, hk₂, h₂⟩ := draining_run hk₁ h₁ (List.forall_mem_cons.mp hgoes).2
    exact drainAnswered_of_draining hk₂ h₂ ha

/-- A duplex with three bytes to write. -/
def threeBytes : Session :=
  (({} : Session).run [.openDuplex 0 ⟨0, 0, 0, 1⟩ 0 {}, .append 0 [1, 2, 3]]).1

/-- While they are drained, one is accepted, a fourth is appended, and the next write is
interrupted. -/
def interruptedDrain : List Event :=
  [.writeDone 0 (.accepted 1), .append 0 [4], .writeDone 0 (.failed (.plain .interrupted))]

theorem flushAll_outcomes_interruptedDrain :
    let t := (threeBytes.run (.flushAll 0 :: interruptedDrain)).1
    (t.step (.writeDone 0 (.failed (.plain .wouldBlock)))).value = .failed (.plain .wouldBlock) ∧
      ∃ o',
        (t.step (.writeDone 0 (.failed (.plain .wouldBlock)))).session.outlets.get? 0 = some o' ∧
          [1, 2, 3, 4] = [1] ++ o'.waiting := by
  have hgoes : GoesOn 0 (threeBytes.run (.flushAll 0 :: interruptedDrain)).2 := by
    simp only [interruptedDrain, run, GoesOn, List.forall_mem_cons]
    refine ⟨?_, ?_, ?_, ?_, by simp⟩ <;> rintro a ⟨⟩ <;> exact ⟨_, rfl⟩
  obtain ⟨-, hqueued⟩ := @flushAll_outcomes threeBytes 0 _ _ rfl rfl rfl rfl
  obtain ⟨-, hanswered⟩ := (hqueued (by decide)).2 interruptedDrain hgoes
  obtain ⟨block, o', h⟩ := hanswered (.failed (.plain .wouldBlock)) (by simp)
  exact ⟨rfl, o', h.get?, h.balance⟩

end Session

end Conduit

import Conduit.Proofs.Session.Inbound
/-!
# What becomes of the bytes that arrive

The ledger of an inlet kept along a run of its session. It is written from the events and their
replies alone: what the owner and the engine received through requests, which rooms the connection
was offered, and what it said to them. Everything else that happens in the session may happen in
between, also while a read is in progress.

No hypothesis is made about the connection. Whether it writes less than it says, says more than the
room holds, fails or panics, what was handed on so far, followed by the buffer, is what arrived.

## Main definitions

* `Conduit.Inlet.Ledger.enter`: the ledger after one more event.
* `Conduit.Session.inletLedger`: the ledger after a list of events.
* `Conduit.Session.Prompt`: how requests and pumps behave towards the caller and the connection.

## Main results

* `inlet_agrees_run`: the ledger accounts for every byte, whatever happens.
* `inbound_ledger`: nothing that arrived is lost, reordered or handed on twice, and what was claimed
  but not written is zeros.
-/

namespace Conduit

namespace Inlet.Ledger

/-- Enters an answer to the inlet under a key. -/
def hear (l : Ledger) (k : Nat) : Event → Ledger
  | .readDone j a => if j = k then l.settle a else l
  | _ => l

/-- Enters a call that offers a room to the connection of the inlet under a key. -/
def watch (l : Ledger) (k : Nat) : Reply → Ledger
  | .calls (.read j _ room) => if j = k then l.offer room else l
  | _ => l

/-- The ledger of the inlet under a key after an event of a session, which came to that reply. -/
def enter (l : Ledger) (s : Session) (k : Nat) (event : Event) (reply : Reply) : Ledger :=
  ((l.hand (s.given k event reply)).hear k event).watch k reply

theorem hand_nil (l : Ledger) : l.hand [] = l := by simp [hand]

theorem hear_self (l : Ledger) (k : Nat) (a : ReadAnswer) :
    l.hear k (.readDone k a) = l.settle a := by
  simp [hear]

theorem hear_of_ne {k : Nat} {event : Event} (h : ∀ a, event ≠ .readDone k a) (l : Ledger) :
    l.hear k event = l := by
  unfold hear
  split
  · next j a =>
    have hjk : ¬ j = k := fun hjk => h a (hjk ▸ rfl)
    simp [hjk]
  · rfl

theorem watch_of_ne {k : Nat} {reply : Reply} (h : ∀ c room, reply ≠ .calls (.read k c room))
    (l : Ledger) : l.watch k reply = l := by
  unfold watch
  split
  · next j c room =>
    have hjk : ¬ j = k := fun hjk => h c room (hjk ▸ rfl)
    simp [hjk]
  · rfl

theorem settle_of_idle {l : Ledger} (h : l.room = none) (a : ReadAnswer) : l.settle a = l := by
  simp [settle, h]

end Inlet.Ledger

namespace Session

open Inlet (Ledger)

/-- The ledger of the inlet under a key after a list of events. -/
def inletLedger (s : Session) (k : Nat) (l : Ledger) : List Event → Ledger
  | [] => l
  | event :: rest =>
      let effect := s.step event
      inletLedger effect.session k (l.enter s k event effect.value) rest

/-- One event keeps the ledger in agreement with the inlet, and the size of the record. -/
theorem inlet_agrees_step {s : Session} {k : Nat} {l : Ledger} {i : Inlet}
    (hk : s.inlets.get? k = some i) (h : l.Agrees i) (event : Event) :
    ∃ i', (s.step event).session.inlets.get? k = some i' ∧ i'.recordSize = i.recordSize ∧
      (l.enter s k event (s.step event).value).Agrees i' := by
  cases inbound_step hk event with
  | apart hget hgiven hcalls hanswer =>
    refine ⟨i, hget, rfl, ?_⟩
    have hhear : l.hear k event = l := by
      by_cases hevent : ∃ a, event = .readDone k a
      · obtain ⟨a, rfl⟩ := hevent
        have hidle : l.room = none := by rw [h.room, hanswer a rfl]; rfl
        simp [Ledger.hear, Ledger.settle_of_idle hidle]
      · exact Ledger.hear_of_ne (fun a ha => hevent ⟨a, ha⟩) l
    rw [Ledger.enter, hgiven, Ledger.hand_nil, hhear, Ledger.watch_of_ne hcalls]
    exact h
  | mark hget hgiven hcalls hanswer =>
    refine ⟨_, hget, rfl, ?_⟩
    rw [Ledger.enter, hgiven, Ledger.hand_nil, Ledger.hear_of_ne hanswer,
      Ledger.watch_of_ne hcalls]
    exact h.markEnded
  | take n hget hgiven hcalls hanswer =>
    refine ⟨_, hget, rfl, ?_⟩
    rw [Ledger.enter, hgiven, Ledger.hear_of_ne hanswer, Ledger.watch_of_ne hcalls]
    exact h.hand n
  | pump hevent hreading hsize hget hreply =>
    subst hevent
    refine ⟨_, hget, rfl, ?_⟩
    have hgiven : s.given k (.pump k) (s.step (.pump k)).value = [] := rfl
    have hwatch : l.watch k (.calls (.read k i.connection (emptyRoom i.recordSize))) =
        l.offer (emptyRoom i.recordSize) := by simp [Ledger.watch]
    rw [Ledger.enter, hgiven, Ledger.hand_nil, Ledger.hear_of_ne (by simp), hreply, hwatch]
    exact h.offer
  | answer a hevent hreading hget hreply =>
    subst hevent
    refine ⟨_, hget, by rw [Inlet.endPump_fst], ?_⟩
    have hgiven : s.given k (.readDone k a) (s.step (.readDone k a)).value = [] := rfl
    have hquiet : ∀ c room, (s.step (.readDone k a)).value ≠ .calls (.read k c room) :=
      fun c room => hreply ▸ ofOutcome_ne_calls _ _
    rw [Ledger.enter, hgiven, Ledger.hand_nil, Ledger.hear_self, Ledger.watch_of_ne hquiet]
    exact h.land hreading a

/-- **The ledger accounts for every byte**, after any run. -/
theorem inlet_agrees_run {s : Session} {k : Nat} {l : Ledger} {i : Inlet}
    (hk : s.inlets.get? k = some i) (h : l.Agrees i) (events : List Event) :
    ∃ i', (s.run events).1.inlets.get? k = some i' ∧ i'.recordSize = i.recordSize ∧
      (s.inletLedger k l events).Agrees i' := by
  induction events generalizing s l i with
  | nil => exact ⟨i, hk, rfl, h⟩
  | cons event rest ih =>
    obtain ⟨i₁, hk₁, hsize₁, h₁⟩ := inlet_agrees_step hk h event
    obtain ⟨i₂, hk₂, hsize₂, h₂⟩ := ih hk₁ h₁
    exact ⟨i₂, hk₂, hsize₂.trans hsize₁, h₂⟩

/-! ### How requests and pumps behave -/

/-- What the next event shows of an inlet.

A request hands on what there is, up to its size. A pump offers one record of zeros to the
connection, once, and when the connection has answered, the caller learns how many bytes arrived.
Where no storage can be found for a record, the pump panics and changes nothing. -/
structure Prompt (t : Session) (k : Nat) (i : Inlet) (event : Event) : Prop where
  request : ∀ size, event = .request k size →
    t.given k event (t.step event).value = i.buffer.take size
  pump : event = .pump k → i.reading = false →
    t.step event =
      if i.recordSize ≤ largestRoom then
        ⟨t.putInlet k { i with reading := true },
          .calls (.read k i.connection (emptyRoom i.recordSize)), []⟩
      else ⟨t, .panicked (.text "capacity overflow"), []⟩
  /-- Nothing but a pump makes the connection read. -/
  calls : ∀ c room, (t.step event).value = .calls (.read k c room) →
    event = .pump k ∧ i.reading = false ∧ c = i.connection ∧ room = emptyRoom i.recordSize
  answer : ∀ a, event = .readDone k a → i.reading = true →
    (t.step event).value =
      match a with
      | .returned n _ => .count (min n i.recordSize)
      | .failed error => .failed error
      | .panicked panic => .panicked panic
  /-- An answer that delivers nothing leaves the inlet as it was before the pump. -/
  void : ∀ a, event = .readDone k a → i.reading = true → (∀ n written, a ≠ .returned n written) →
    (t.step event).session.inlets.get? k = some { i with reading := false }

theorem prompt_of_get? {t : Session} {k : Nat} {i : Inlet} (hk : t.inlets.get? k = some i)
    (event : Event) : Prompt t k i event where
  request := by
    rintro size rfl
    exact request_given hk size
  pump := by
    rintro rfl hreading
    simp only [step]
    rcases pump_cases hk with ⟨hbusy, -⟩ | ⟨-, hlarge, hpump⟩ | ⟨-, hsize, hpump⟩
    · simp [hreading] at hbusy
    · rw [hpump, if_neg (Nat.not_le.mpr hlarge)]
    · rw [hpump, if_pos hsize]
  calls := by
    intro c room hcalls
    cases inbound_step hk event with
    | apart hget hgiven hne hanswer => exact absurd hcalls (hne c room)
    | mark hget hgiven hne hanswer => exact absurd hcalls (hne c room)
    | take n hget hgiven hne hanswer => exact absurd hcalls (hne c room)
    | pump hevent hreading hsize hget hreply =>
      cases hreply.symm.trans hcalls
      exact ⟨hevent, hreading, rfl, rfl⟩
    | answer a hevent hreading hget hreply =>
      exact absurd (hreply.symm.trans hcalls) (ofOutcome_ne_calls _ _)
  answer := by
    rintro a rfl hreading
    simp only [step, readDone_of_reading hk hreading, Inlet.endPump_snd]
    cases a <;> rfl
  void := by
    rintro a rfl hreading hvoid
    simp only [step, readDone_of_reading hk hreading, inlets_putInlet, Table.get?_put, if_pos,
      Inlet.endPump_fst]
    cases a with
    | returned n written => exact absurd rfl (hvoid n written)
    | failed error => simp [ReadAnswer.delivers]
    | panicked panic => simp [ReadAnswer.delivers]

/-! ### The ledger of any run -/

/-- **Nothing that arrives is lost, reordered or handed on twice.** After any run, what was handed
on is followed in the buffer by what is left of all that arrived; what arrived is what each answered
read left in its room as far as its count goes, and every room was one record of zeros, so that
bytes that were claimed and not written are zeros. -/
theorem inbound_ledger {s : Session} {k connection : Nat} {release : Bool} {sizes : List Nat}
    (hk : s.inlets.get? k = some (.make connection release sizes)) (events : List Event) :
    ∃ i, (s.run events).1.inlets.get? k = some i ∧
      i.recordSize = (Inlet.make connection release sizes).recordSize ∧ 1 ≤ i.recordSize ∧
      (s.inletLedger k {} events).handed ++ i.buffer =
        (s.inletLedger k {} events).answered.flatMap (fun x => x.2.delivers x.1) ∧
      (∀ x ∈ (s.inletLedger k {} events).answered, x.1 = emptyRoom i.recordSize ∧
        ∀ count written, x.2 = .returned count written →
          ∀ j, written.length ≤ j → j < min count i.recordSize →
            (x.2.delivers x.1)[j]? = some 0) ∧
      (∀ e, (s.run events).1.resolve .inbound e = some k →
        (s.run events).1.onReadControl (some e) .pending =
          toLongCount ((s.inletLedger k {} events).arrived.length -
            (s.inletLedger k {} events).handed.length)) ∧
      ∀ event, Prompt (s.run events).1 k i event := by
  obtain ⟨i, hget, hsize, hagrees⟩ :=
    inlet_agrees_run hk (Ledger.agrees_make connection release sizes) events
  refine ⟨i, hget, hsize, hsize ▸ Inlet.one_le_recordSize_make connection release sizes,
    hagrees.balance, fun x hx => ⟨hagrees.rooms x hx, ?_⟩, fun e he => ?_, prompt_of_get? hget⟩
  · rintro count written hx' j hj hcount
    have hroom : (emptyRoom i.recordSize)[j]? = some 0 :=
      List.getElem?_replicate_of_lt (Nat.lt_of_lt_of_le hcount (Nat.min_le_right _ _))
    rw [hx', hagrees.rooms x hx,
      ReadAnswer.getElem?_delivers_of_le hj (by rw [length_emptyRoom]; exact hcount), hroom]
  · have hpending : i.pending = (s.inletLedger k {} events).arrived.length -
        (s.inletLedger k {} events).handed.length := by
      have hlength := congrArg List.length hagrees.balance
      rw [List.length_append] at hlength
      rw [Inlet.pending]
      omega
    simp [onReadControl, inletAt?_eq_some_iff.mpr ⟨he, hget⟩, hpending]

/-- A session with one inlet, which reads records of four bytes. -/
def oneInlet : Session := (({} : Session).step (.openInlet 0 0 false [4])).session

/-- A record arrives, a read that returns more than its room holds and writes less is answered while
the first record is being handed on, and a read panics. -/
def overstatedReads : List Event :=
  [.pump 0, .readDone 0 (.returned 3 [1, 2, 3]), .pump 0, .request 0 2,
    .readDone 0 (.returned 9 [4]), .pump 0, .readDone 0 (.panicked (.text "boom"))]

theorem inbound_ledger_overstatedReads :
    ∃ i, (oneInlet.run overstatedReads).1.inlets.get? 0 = some i ∧
      [1, 2] ++ i.buffer = [1, 2, 3, 4, 0, 0, 0] := by
  obtain ⟨i, hget, -, -, hbytes, -⟩ := @inbound_ledger oneInlet 0 0 false [4] rfl overstatedReads
  exact ⟨i, hget, hbytes⟩

end Session

end Conduit

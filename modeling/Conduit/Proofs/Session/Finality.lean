import Conduit.Proofs.Session.InboundLedger
import Conduit.Proofs.Session.Views
/-!
# Whether the end of a stream is final

The end of a stream is reported where the buffer of an inlet has drained and its end has been seen
or marked. The mark is never taken back. But it does not stop pumps: one may be in progress when the
end is marked, and another may be asked for afterwards, and whatever its connection delivers is
taken into the buffer. The end that was reported is then the end no longer, until the engine has
taken these bytes as well.

So the end is final under one condition, which is on the connection: that no read that is answered
later delivers anything.

## Main definitions

* `Conduit.Session.ReportsEnd`: an event reports the end of the stream of an inlet.
* `Conduit.Session.OnlyEnd`: all that can be learned of an inlet is that its stream has ended.
* `Conduit.Session.Throughout`: something is true at every point of a run.

## Main results

* `onlyEnd_iff`: this is so just if the buffer has drained and the end has been marked.
* `end_is_final_iff`: the end, once it has been reported, is final just if nothing arrives later.
-/

namespace Conduit.Session

open Inlet (Ledger)

/-- An event reports the end of the stream of the inlet under a key: a request says so, or a read
with room returns zero. -/
def ReportsEnd (s : Session) (k : Nat) (event : Event) : Prop :=
  match event, (s.step event).value with
  | .request j _, .readiness .ended => j = k
  | .read e size _, .transfer t => 0 < size ∧ s.serves .inbound e k = true ∧ t.code = 0
  | .callRead e size _, .transfer t => 0 < size ∧ s.resolve .inbound e = some k ∧ t.code = 0
  | _, _ => False

/-- All that requests and reads learn of the inlet under a key is that its stream has ended. -/
structure OnlyEnd (s : Session) (k : Nat) : Prop where
  request : ∀ size, (s.step (.request k size)).value = .readiness .ended
  read : ∀ e n, 0 < n → n ≤ largestCount → s.serves .inbound e k = true →
    (s.step (.read e n true)).value = .transfer ⟨0, []⟩
  callRead : ∀ e n, 0 < n → n ≤ largestCount → s.hasCallbacks .inbound = true →
    s.resolve .inbound e = some k → (s.step (.callRead e n true)).value = .transfer ⟨0, []⟩
  /-- No event hands on any bytes. -/
  given : ∀ event, s.given k event (s.step event).value = []

/-- Something is true at every point of a run, the first and the last included. -/
def Throughout (P : Session → Prop) (s : Session) : List Event → Prop
  | [] => P s
  | event :: rest => P s ∧ Throughout P (s.step event).session rest

theorem Throughout.first {P : Session → Prop} {s : Session} {events : List Event}
    (h : s.Throughout P events) : P s := by
  cases events with
  | nil => exact h
  | cons event rest => exact h.1

variable {s : Session} {k : Nat} {i : Inlet}

/-! ### What is learned of an inlet that has drained and ended -/

theorem bytes_given_of_drained (hk : s.inlets.get? k = some i) (hbuffer : i.buffer = [])
    (event : Event) : s.given k event (s.step event).value = [] := by
  cases inbound_step hk event with
  | apart hget hgiven => exact hgiven
  | mark hget hgiven => exact hgiven
  | take n hget hgiven => rw [hgiven, hbuffer, List.take_nil]
  | pump hevent =>
    subst hevent
    rfl
  | answer a hevent =>
    subst hevent
    rfl

theorem answerTo_of_drained (hbuffer : i.buffer = []) (hended : i.ended = true) (n : Nat) :
    i.answerTo n = ⟨0, []⟩ := by
  simp [Inlet.answerTo, Inlet.pending, hbuffer, hended]

/-- **Nothing but the end can be learned of an inlet just if its buffer has drained and its end has
been marked.** -/
theorem onlyEnd_iff (hk : s.inlets.get? k = some i) :
    s.OnlyEnd k ↔ i.buffer = [] ∧ i.ended = true := by
  constructor
  · intro h
    have hrequest := h.request 0
    simp only [step, hk] at hrequest
    by_cases hempty : i.buffer = []
    · rw [Inlet.request_of_empty hempty] at hrequest
      cases hended : i.ended with
      | true => exact ⟨hempty, rfl⟩
      | false => simp [hended] at hrequest
    · rw [Inlet.request_of_buffered hempty] at hrequest
      cases hrequest
  · rintro ⟨hempty, hended⟩
    constructor
    · intro size
      simp [step, hk, Inlet.request_of_empty hempty, hended]
    · intro e n hn hle hserves
      obtain ⟨⟨b, hb, hform⟩, he⟩ := serves_iff.mp hserves
      have hi := inletAt?_eq_some_iff.mpr ⟨he, hk⟩
      simp only [step, read_eq_onRead hb hform hn hle]
      rw [(onRead_of_proper hb hi (properRead_of_le hle)).1, answerTo_of_drained hempty hended]
    · intro e n hn hle hcallbacks he
      obtain ⟨t, ht, -⟩ := Option.bind_eq_some_iff.mp he
      obtain ⟨b, hb, -⟩ := Option.bind_eq_some_iff.mp ht
      have hi := inletAt?_eq_some_iff.mpr ⟨he, hk⟩
      simp only [step, hcallbacks, if_true]
      rw [(onRead_of_proper hb hi (properRead_of_le hle)).1, answerTo_of_drained hempty hended]
    · exact bytes_given_of_drained hk hempty

theorem drained_of_onRead_eq_zero {e : Nat} (hi : s.inletAt? e = some (k, i)) {size : Int}
    (hsize : 0 < size) {present : Bool} (hcode : (s.onRead e size present).value.code = 0) :
    i.buffer = [] ∧ i.ended = true := by
  rw [onRead] at hcode
  simp only [inletAt?_modifyFlags, hi] at hcode
  cases hcheck : checkBuffer size present with
  | error reason => simp [hcheck] at hcode
  | ok n =>
    have hn : 0 < n := by
      have := checkBuffer_ok hcheck
      omega
    simp only [hcheck, Nat.ne_of_gt hn, false_and, if_false] at hcode
    by_cases hempty : i.buffer = []
    · rw [Inlet.request_of_empty hempty] at hcode
      cases hended : i.ended with
      | true => exact ⟨hempty, rfl⟩
      | false => simp [hended] at hcode
    · rw [Inlet.request_of_buffered hempty] at hcode
      have hpos : 0 < (i.buffer.take n).length := by
        rw [List.length_take]
        have := List.length_pos_iff.mpr hempty
        omega
      simp only [toCount, largestCount] at hcode
      omega

/-- Where the end of the stream is reported, the buffer has drained and the end has been marked. -/
theorem drained_of_reportsEnd (hk : s.inlets.get? k = some i) {event : Event}
    (h : s.ReportsEnd k event) : i.buffer = [] ∧ i.ended = true := by
  unfold ReportsEnd at h
  split at h
  · next j size hvalue =>
    subst h
    simp only [step, hk] at hvalue
    by_cases hempty : i.buffer = []
    · rw [Inlet.request_of_empty hempty] at hvalue
      cases hended : i.ended with
      | true => exact ⟨hempty, rfl⟩
      | false => simp [hended] at hvalue
    · rw [Inlet.request_of_buffered hempty] at hvalue
      cases hvalue
  · next e size present t hvalue =>
    obtain ⟨hsize, hserves, hcode⟩ := h
    obtain ⟨⟨b, hb, hform⟩, he⟩ := serves_iff.mp hserves
    simp only [step, read_adapter hb hform (Int.le_of_lt hsize)] at hvalue
    cases hvalue
    have hzero : (s.onRead e size present).value.code = 0 := by
      rw [Transfer.checked] at hcode
      split at hcode
      · cases hcode
      · exact hcode
    exact drained_of_onRead_eq_zero (inletAt?_eq_some_iff.mpr ⟨he, hk⟩) hsize hzero
  · next e size present t hvalue =>
    obtain ⟨hsize, he, hcode⟩ := h
    simp only [step] at hvalue
    split at hvalue
    · cases hvalue
      exact drained_of_onRead_eq_zero (inletAt?_eq_some_iff.mpr ⟨he, hk⟩) hsize hcode
    · cases hvalue
  · exact h.elim

/-- A report of the end changes nothing about the inlet that matters here. -/
theorem drained_after_reportsEnd (hk : s.inlets.get? k = some i) {event : Event}
    (h : s.ReportsEnd k event) : ∃ i', (s.step event).session.inlets.get? k = some i' ∧
      i'.buffer = [] ∧ i'.ended = true := by
  obtain ⟨hbuffer, hended⟩ := drained_of_reportsEnd hk h
  cases inbound_step hk event with
  | apart hget => exact ⟨_, hget, hbuffer, hended⟩
  | mark hget => exact ⟨_, hget, hbuffer, rfl⟩
  | take n hget => exact ⟨_, hget, by simp [hbuffer], hended⟩
  | pump hevent hreading hsize hget => exact ⟨_, hget, hbuffer, hended⟩
  | answer a hevent =>
    subst hevent
    exact h.elim

/-! ### What arrives later -/

/-- The mark at the end of a stream is never taken back. -/
theorem ended_step (hk : s.inlets.get? k = some i) (hended : i.ended = true) (event : Event) :
    ∃ i', (s.step event).session.inlets.get? k = some i' ∧ i'.ended = true := by
  cases inbound_step hk event with
  | apart hget => exact ⟨_, hget, hended⟩
  | mark hget => exact ⟨_, hget, rfl⟩
  | take n hget => exact ⟨_, hget, hended⟩
  | pump hevent hreading hsize hget => exact ⟨_, hget, hended⟩
  | answer a hevent hreading hget =>
    refine ⟨_, hget, ?_⟩
    rw [Inlet.endPump_fst]
    dsimp only
    split
    · rfl
    · exact hended

theorem handed_enter (l : Ledger) (s : Session) (k : Nat) (event : Event) (reply : Reply) :
    (l.enter s k event reply).handed = l.handed ++ s.given k event reply := by
  have hwatch : ∀ m : Ledger, (m.watch k reply).handed = m.handed := by
    intro m
    unfold Ledger.watch
    split
    · split <;> rfl
    · rfl
  have hhear : ∀ m : Ledger, (m.hear k event).handed = m.handed := by
    intro m
    unfold Ledger.hear
    split
    · split
      · unfold Ledger.settle
        split <;> rfl
      · rfl
    · rfl
  rw [Ledger.enter, hwatch, hhear]
  rfl

theorem arrived_prefix_enter (l : Ledger) (s : Session) (k : Nat) (event : Event) (reply : Reply) :
    l.arrived <+: (l.enter s k event reply).arrived := by
  have hwatch : ∀ m : Ledger, (m.watch k reply).arrived = m.arrived := by
    intro m
    unfold Ledger.watch
    split
    · split <;> rfl
    · rfl
  have hhear : ∀ m : Ledger, m.arrived <+: (m.hear k event).arrived := by
    intro m
    unfold Ledger.hear
    split
    · split
      · unfold Ledger.settle
        split
        · simp [Ledger.arrived]
        · exact List.prefix_refl _
      · exact List.prefix_refl _
    · exact List.prefix_refl _
  rw [Ledger.enter, hwatch]
  exact hhear (l.hand (s.given k event reply))

/-- What has arrived stays. -/
theorem arrived_prefix_inletLedger (s : Session) (k : Nat) (l : Ledger) (events : List Event) :
    l.arrived <+: (s.inletLedger k l events).arrived := by
  induction events generalizing s l with
  | nil => exact List.prefix_refl _
  | cons event rest ih =>
    exact (arrived_prefix_enter l s k event (s.step event).value).trans
      (ih (s.step event).session (l.enter s k event (s.step event).value))

/-- One event on an inlet that has drained and ended: what is in the buffer afterwards is what has
just arrived. -/
theorem arrived_enter_of_drained {l : Ledger} (hk : s.inlets.get? k = some i) (hl : l.Agrees i)
    (hbuffer : i.buffer = []) {event : Event} {i' : Inlet}
    (hl' : (l.enter s k event (s.step event).value).Agrees i') :
    (l.enter s k event (s.step event).value).arrived = l.arrived ++ i'.buffer := by
  have hbalance := hl.balance
  rw [hbuffer, List.append_nil] at hbalance
  rw [← hl'.balance, handed_enter, bytes_given_of_drained hk hbuffer event, List.append_nil,
    hbalance]

theorem throughout_onlyEnd_iff {l : Ledger} (hk : s.inlets.get? k = some i) (hl : l.Agrees i)
    (hbuffer : i.buffer = []) (hended : i.ended = true) (later : List Event) :
    s.Throughout (·.OnlyEnd k) later ↔ (s.inletLedger k l later).arrived = l.arrived := by
  have honly : s.OnlyEnd k := (onlyEnd_iff hk).mpr ⟨hbuffer, hended⟩
  induction later generalizing s i l with
  | nil => exact iff_of_true honly rfl
  | cons event rest ih =>
    obtain ⟨i', hk', -, hl'⟩ := inlet_agrees_step hk hl event
    obtain ⟨i'', hk'', hended'⟩ := ended_step hk hended event
    cases hk'.symm.trans hk''
    have harrived := arrived_enter_of_drained hk hl hbuffer hl'
    change s.OnlyEnd k ∧ (s.step event).session.Throughout (·.OnlyEnd k) rest ↔
      ((s.step event).session.inletLedger k (l.enter s k event (s.step event).value) rest).arrived =
        l.arrived
    rw [and_iff_right honly]
    by_cases hbuffer' : i'.buffer = []
    · rw [hbuffer', List.append_nil] at harrived
      rw [← harrived]
      exact ih hk' hl' hbuffer' hended' ((onlyEnd_iff hk').mpr ⟨hbuffer', hended'⟩)
    · refine iff_of_false (fun h => hbuffer' ((onlyEnd_iff hk').mp h.first).1) fun hsame => ?_
      -- what has just arrived is still among what has arrived in the end
      have hprefix := arrived_prefix_inletLedger (s.step event).session k
        (l.enter s k event (s.step event).value) rest
      have hlength := hprefix.length_le
      rw [hsame, harrived, List.length_append] at hlength
      have := List.length_pos_iff.mpr hbuffer'
      omega

/-! ### The end that was reported -/

theorem inletLedger_append (s : Session) (k : Nat) (l : Ledger) (first second : List Event) :
    s.inletLedger k l (first ++ second) =
      (s.run first).1.inletLedger k (s.inletLedger k l first) second := by
  induction first generalizing s l with
  | nil => rfl
  | cons event rest ih => exact ih (s.step event).session (l.enter s k event (s.step event).value)

theorem ended_run (hk : s.inlets.get? k = some i) (hended : i.ended = true) (events : List Event) :
    ∃ i', (s.run events).1.inlets.get? k = some i' ∧ i'.ended = true := by
  induction events generalizing s i with
  | nil => exact ⟨i, hk, hended⟩
  | cons event rest ih =>
    obtain ⟨i', hk', hended'⟩ := ended_step hk hended event
    exact ih hk' hended'

/-- **The end of a stream, once it has been reported, is final just if nothing arrives later.** The
mark itself is never taken back: nothing but the end is reported again as soon as all that arrived
has been handed on. -/
theorem end_is_final_iff {s : Session} {k connection : Nat} {release : Bool} {sizes : List Nat}
    (hk : s.inlets.get? k = some (.make connection release sizes)) {events : List Event}
    {report : Event} (hreport : (s.run events).1.ReportsEnd k report) (later : List Event) :
    let reported := events ++ [report]
    ((s.run reported).1.Throughout (·.OnlyEnd k) later ↔
        (s.inletLedger k {} (reported ++ later)).arrived =
          (s.inletLedger k {} reported).arrived) ∧
      ((s.run (reported ++ later)).1.OnlyEnd k ↔
        (s.inletLedger k {} (reported ++ later)).handed =
          (s.inletLedger k {} (reported ++ later)).arrived) := by
  intro reported
  obtain ⟨i, hi, -, -⟩ := inlet_agrees_run hk (Ledger.agrees_make connection release sizes) events
  obtain ⟨i', hi', hbuffer, hended⟩ := drained_after_reportsEnd hi hreport
  have hget : (s.run reported).1.inlets.get? k = some i' := by
    rw [run_append]
    exact hi'
  obtain ⟨i'', hget', -, hagrees⟩ :=
    inlet_agrees_run hk (Ledger.agrees_make connection release sizes) reported
  cases hget.symm.trans hget'
  constructor
  · rw [inletLedger_append]
    exact throughout_onlyEnd_iff hget hagrees hbuffer hended later
  · obtain ⟨last, hlast, -, hbalance⟩ := inlet_agrees_run hget hagrees later
    obtain ⟨last', hlast', hstill⟩ := ended_run hget hended later
    cases hlast.symm.trans hlast'
    rw [run_append, inletLedger_append, onlyEnd_iff hlast, and_iff_left hstill, ← hbalance.balance,
      List.self_eq_append_right]

/-- Its end is marked and reported. Then a read that the end did not stop ends the stream again
without delivering anything. -/
theorem end_is_final_of_emptyRead :
    (oneInlet.run [.markEnded 0, .request 0 4]).1.Throughout (·.OnlyEnd 0)
      [.pump 0, .readDone 0 (.returned 0 []), .request 0 4] :=
  (@end_is_final_iff oneInlet 0 0 false [4] rfl [.markEnded 0] (.request 0 4) rfl
    [.pump 0, .readDone 0 (.returned 0 []), .request 0 4]).1.mpr rfl

/-- After the end has been reported, a pump delivers a byte, and the next request hands it on. -/
theorem data_after_end :
    (oneInlet.run [.markEnded 0]).1.ReportsEnd 0 (.request 0 4) ∧
      ((oneInlet.run [.markEnded 0, .request 0 4, .pump 0,
        .readDone 0 (.returned 1 [97])]).1.step (.request 0 4)).value =
          .readiness (.ready [97]) :=
  ⟨rfl, rfl⟩

end Conduit.Session

import Conduit.Proofs.Session.EndHistory
import Conduit.Proofs.Session.Lockstep
import Conduit.Proofs.Session.OutboundLedger
/-!
# What happens while a connection is at work

A connection may take its time over a read or a write, and the session goes on meanwhile. For a read
it is as if the pump had only been asked for afterwards: everything in between has the same outcome,
the pump has the same outcome, and the adapter ends up the same. For a write it is as if the
connection had answered at once: what is appended meanwhile stays behind whatever goes back to the
queue. Only the number of pending bytes can tell, since a block counts in full while it is offered.

Both are comparisons of two runs that are one step apart, by the gap between their sessions. During
a read the gap is the mark that the inlet is reading; during a write it is the landing of the block.

## Main definitions

* `Conduit.Session.readGap`, `Conduit.Session.writeGap`: the gaps between the two runs.
* `Conduit.Session.PumpOrdered`, `Conduit.Session.FlushOrdered`: what holds of the two runs.

## Main results

* `pump_ordered`: a pump may as well start when its read is answered.
* `flush_ordered`: a write may as well be answered when it starts.
* `io_ordered`: both.
-/

namespace Conduit

/-- Whether an event asks for the number of bytes that wait to be written. -/
def Event.asksPending : Event → Bool
  | .control _ number => Control.ofNumber number = .writePending
  | .callControl _ _ number => Control.ofNumber number = .writePending
  | _ => false

/-- Whether an event is none that answers a write of the outlet under a key or can start a flush of
it. -/
def Event.sparesFlush (k : Nat) : Event → Bool
  | .flush j => j ≠ k
  | .writeDone j _ => j ≠ k
  | .flushAll _ => false
  | .control _ number => Control.ofNumber number ≠ .flush
  | .callControl _ _ number => Control.ofNumber number ≠ .flush
  | _ => true

/-- Whether a write that an event leads to is the only one of its operation. -/
def Event.writesOnce : Event → Bool
  | .flushAll _ => false
  | .writeDone _ _ => false
  | _ => true

namespace Outlet

/-- What is appended while a block is in flight ends up behind what goes back to the queue. -/
theorem land_append (o : Outlet) (data block : Bytes) (a : WriteAnswer) :
    (o.append data).land block a = ((o.land block a).1.append data, (o.land block a).2) := by
  refine Prod.ext ?_ ?_
  · simp only [land_fst, append, List.append_assoc]
  · simp only [land_snd]

end Outlet

namespace Session

open Inlet (Ledger)

variable {s t : Session} {k : Nat}

/-! ### While a connection reads -/

/-- The first session is reading from the inlet under a key, the second is not. -/
def readGap (k : Nat) : Gap where
  inlet j i p := (j = k ∧ p.reading = false ∧ i = { p with reading := true }) ∨ (j ≠ k ∧ i = p)

theorem lawful_readGap (k : Nat) : (readGap k).Lawful where
  buffer := by rintro j i p (⟨-, -, rfl⟩ | ⟨-, rfl⟩) <;> rfl
  ended := by rintro j i p (⟨-, -, rfl⟩ | ⟨-, rfl⟩) <;> rfl
  mark := by
    rintro j i p (⟨hj, hidle, rfl⟩ | ⟨hj, rfl⟩)
    · exact Or.inl ⟨hj, hidle, rfl⟩
    · exact Or.inr ⟨hj, rfl⟩
  take := by
    rintro j i p (⟨hj, hidle, rfl⟩ | ⟨hj, rfl⟩) n
    · exact Or.inl ⟨hj, hidle, rfl⟩
    · exact Or.inr ⟨hj, rfl⟩
  append := by
    rintro j o p rfl data
    rfl

/-- Adapters under another key than the one of a gap belong together only if they are the same. -/
theorem eq_of_other_key {α : Type} {j : Nat} {together : α → α → Prop} (hjk : ¬ j = k) :
    (fun x y => (j = k ∧ together x y) ∨ (j ≠ k ∧ x = y)) = Eq := by
  funext x y
  exact propext ⟨fun h => (h.resolve_left fun h => hjk h.1).2, fun h => Or.inr ⟨hjk, h⟩⟩

theorem even_readGap {i : Inlet} (hk : s.inlets.get? k = some i) {event : Event}
    (hpump : event ≠ .pump k) (hanswer : ∀ a, event ≠ .readDone k a) :
    (readGap k).Even s event := by
  have hfresh : ∀ j, s.inlets.get? j = none → ∀ p, (readGap k).inlet j p p := by
    intro j hj p
    refine Or.inr ⟨?_, rfl⟩
    rintro rfl
    cases hj.symm.trans hk
  have heq : ∀ j, ¬ j = k → (readGap k).inlet j = Eq := fun j hjk => eq_of_other_key hjk
  refine ⟨?_, Gap.evenEnds_of_adapters (fun _ => id) (fun _ => id) (fun _ _ => id) s event⟩
  cases event with
  | openInlet j => exact hfresh j
  | openOutlet j => exact fun _ _ => rfl
  | pump j => exact heq j fun hjk => hpump (by rw [hjk])
  | readDone j a => exact heq j fun hjk => hanswer a (by rw [hjk])
  | openDuplex j d => exact ⟨hfresh d.inlet, fun _ _ => rfl⟩
  | flushAll => exact fun _ => rfl
  | control | callControl => exact Gap.evenControl_of_eq (fun _ => rfl) _
  | flush | writeDone => rfl
  | _ => trivial

/-- An idle inlet starts to read. -/
theorem step_pump {i : Inlet} (hi : s.inlets.get? k = some i) (hidle : i.reading = false)
    (hsize : i.recordSize ≤ largestRoom) :
    s.step (.pump k) = ⟨s.putInlet k { i with reading := true },
      .calls (.read k i.connection (emptyRoom i.recordSize)), []⟩ := by
  rcases pump_cases hi with ⟨hbusy, -⟩ | ⟨-, hlarge, -⟩ | ⟨-, -, hpump⟩
  · rw [hidle] at hbusy
    cases hbusy
  · exact absurd hsize (Nat.not_le.mpr hlarge)
  · exact hpump

/-- A pump starts with this gap. -/
theorem alike_pump {c : Nat} {room : Bytes}
    (hcalls : (s.step (.pump k)).value = .calls (.read k c room)) :
    ∃ i, s.inlets.get? k = some i ∧ i.reading = false ∧ i.recordSize ≤ largestRoom ∧
      (readGap k).Alike (s.step (.pump k)).session s := by
  simp only [step] at hcalls ⊢
  cases hk : s.inlets.get? k with
  | none => simp [pump, hk] at hcalls
  | some i =>
    rcases pump_cases hk with ⟨-, hpump⟩ | ⟨-, -, hpump⟩ | ⟨hidle, hsize, hpump⟩
    · simp [hpump] at hcalls
    · simp [hpump] at hcalls
    · refine ⟨i, rfl, hidle, hsize, ?_⟩
      rw [hpump]
      refine Gap.alike_of_adapters (fun _ => id) (fun _ _ => id) (fun j => ?_)
        fun j => Gap.rel_eq_refl _
      rw [Table.get?_put]
      split
      · next hj =>
        subst hj
        rw [hk]
        exact .some (Or.inl ⟨rfl, hidle, rfl⟩)
      · next hj =>
        cases s.inlets.get? j
        · exact .none
        · exact .some (Or.inr ⟨hj, rfl⟩)

/-- The inlet that is reading is otherwise that of the other session. -/
theorem inlet_of_readGap (h : (readGap k).Alike s t) {i : Inlet}
    (hi : s.inlets.get? k = some i) :
    ∃ p, t.inlets.get? k = some p ∧ p.reading = false ∧ i = { p with reading := true } := by
  obtain ⟨hnone, -⟩ | ⟨i', p, hs, ht, hip⟩ := h.inlet_cases k
  · cases hnone.symm.trans hi
  · obtain rfl := Option.some.inj (hs.symm.trans hi)
    obtain ⟨-, hidle, rfl⟩ | ⟨hne, -⟩ := hip
    · exact ⟨p, ht, hidle, rfl⟩
    · exact absurd rfl hne

/-- Once both are reading, nothing is left of the gap. -/
theorem alike_of_both_reading (h : (readGap k).Alike s t) {p : Inlet}
    (hs : s.inlets.get? k = some { p with reading := true }) :
    ({} : Gap).Alike s (t.putInlet k { p with reading := true }) := by
  refine { h with inlets := fun j => ?_ }
  rw [inlets_putInlet, Table.get?_put]
  split
  · next hj =>
    subst hj
    rw [hs]
    exact .some rfl
  · next hj =>
    obtain ⟨hs', ht⟩ | ⟨i, p', hs', ht, hip⟩ := h.inlet_cases j <;> rw [hs', ht]
    · exact .none
    · obtain ⟨hjk, -⟩ | ⟨-, rfl⟩ := hip
      · exact absurd hjk hj
      · exact .some rfl

/-- No event changes what an inlet was made with. -/
theorem make_step {i : Inlet} (hk : s.inlets.get? k = some i) (event : Event) :
    ∃ i', (s.step event).session.inlets.get? k = some i' ∧ i'.recordSize = i.recordSize ∧
      i'.connection = i.connection := by
  cases inbound_step hk event with
  | apart hget => exact ⟨_, hget, rfl, rfl⟩
  | mark hget => exact ⟨_, hget, rfl, rfl⟩
  | take n hget => exact ⟨_, hget, rfl, rfl⟩
  | pump hevent hreading hsize hget => exact ⟨_, hget, rfl, rfl⟩
  | answer a hevent hreading hget =>
    exact ⟨_, hget, by rw [Inlet.endPump_fst], by rw [Inlet.endPump_fst]⟩

/-- What happens while a connection reads happens the same without the read, up to the gap. -/
theorem same_run_readGap {events : List Event} (hpump : .pump k ∉ events)
    (hanswer : ∀ a, .readDone k a ∉ events) (h : (readGap k).Alike s t) {i : Inlet}
    (hk : s.inlets.get? k = some i) :
    (readGap k).Alike (s.run events).1 (t.run events).1 ∧ (s.run events).2 = (t.run events).2 ∧
      ∃ i', (s.run events).1.inlets.get? k = some i' ∧ i'.recordSize = i.recordSize ∧
        i'.connection = i.connection := by
  induction events generalizing s t i with
  | nil => exact ⟨h, rfl, i, hk, rfl, rfl⟩
  | cons event rest ih =>
    simp only [List.mem_cons, not_or] at hpump hanswer
    have heven : (readGap k).Even s event :=
      even_readGap hk (Ne.symm hpump.1) fun a => Ne.symm (hanswer a).1
    have hsame := Gap.same_step h (lawful_readGap k) heven
    obtain ⟨i₁, hk₁, hsize₁, hconnection₁⟩ := make_step hk event
    obtain ⟨halike, hrecords, i₂, hk₂, hsize₂, hconnection₂⟩ :=
      ih hpump.2 (fun a => (hanswer a).2) hsame.alike hk₁
    refine ⟨halike, ?_, i₂, hk₂, hsize₂.trans hsize₁, hconnection₂.trans hconnection₁⟩
    simp only [run, hrecords, hsame.value, hsame.log]

/-- A pump of an inlet may as well start when its read is answered. -/
structure PumpOrdered (s : Session) (k : Nat) (events : List Event) : Prop where
  /-- While the connection reads, the inlet shows the same as without the read. -/
  inside : ∃ i, (s.run events).1.inlets.get? k = some i ∧
    (s.run (.pump k :: events)).1.inlets.get? k = some { i with reading := true }
  /-- What happens during the read might as well have happened before the pump: all of it has the
  same outcome, so has the pump, and the session ends up the same. -/
  order : ∀ a, ∃ records pumped answered,
    (s.run (.pump k :: (events ++ [.readDone k a]))).2 = pumped :: (records ++ [answered]) ∧
    (s.run (events ++ [.pump k, .readDone k a])).2 = records ++ [pumped, answered] ∧
    ({} : Gap).Alike (s.run (.pump k :: (events ++ [.readDone k a]))).1
      (s.run (events ++ [.pump k, .readDone k a])).1

/-- **A pump may as well start when its read is answered.** -/
theorem pump_ordered {c : Nat} {room : Bytes} {events : List Event}
    (hcalls : (s.step (.pump k)).value = .calls (.read k c room)) (hpump : .pump k ∉ events)
    (hanswer : ∀ a, .readDone k a ∉ events) : s.PumpOrdered k events := by
  obtain ⟨i, hi, hidle, hsize, halike⟩ := alike_pump hcalls
  have hstart := step_pump hi hidle hsize
  have hreading : (s.step (.pump k)).session.inlets.get? k = some { i with reading := true } := by
    rw [hstart]
    simp
  obtain ⟨hlater, hrecords, p, hp, hpsize, hpconnection⟩ :=
    same_run_readGap hpump hanswer halike hreading
  obtain ⟨i', hi', hidle', rfl⟩ := inlet_of_readGap hlater hp
  -- The pump starts in the second run as it did in the first.
  have hstart' := step_pump hi' hidle' (hpsize.symm ▸ hsize)
  have hvalue : ((s.run events).1.step (.pump k)).value = (s.step (.pump k)).value := by
    rw [hstart, hstart']
    exact congrArg₂ (fun c n => Reply.calls (.read k c (emptyRoom n))) hpconnection hpsize
  refine ⟨⟨i', hi', hp⟩, fun a => ?_⟩
  have heven : ({} : Gap).Even ((s.step (.pump k)).session.run events).1 (.readDone k a) :=
    ⟨rfl, trivial⟩
  obtain ⟨hend, hanswered, hlog⟩ := Gap.same_step (alike_of_both_reading hlater hp)
    (Gap.lawful_of_eq (fun _ => rfl) fun _ => rfl) heven
  refine ⟨(s.run events).2, ⟨.pump k, (s.step (.pump k)).value, []⟩,
    ⟨.readDone k a, (((s.step (.pump k)).session.run events).1.step (.readDone k a)).value,
      (((s.step (.pump k)).session.run events).1.step (.readDone k a)).log⟩, ?_, ?_, ?_⟩
  · simp only [run, run_append, hrecords, hanswered, hlog]
    rw [hstart]
  · simp only [run, run_append, hvalue, hanswered, hlog]
    rw [hstart']
  · simpa only [run, run_append, hstart'] using hend

/-! ### While a connection writes -/

/-- The bytes that a list of events adds to the outlet under a key. -/
def takenDuring (s : Session) (k : Nat) : List Event → Bytes
  | [] => []
  | event :: rest =>
      let effect := s.step event
      s.taken k event effect.value ++ takenDuring effect.session k rest

/-- Whether an event asks the outlet under a key how many of its bytes wait. -/
def asks (s : Session) (k : Nat) : Event → Bool
  | .control e number => s.serves .outbound e k ∧ Control.ofNumber number = .writePending
  | .callControl .outbound (some e) number =>
      s.hasCallbacks .outbound ∧ s.resolve .outbound e = some k ∧
        Control.ofNumber number = .writePending
  | _ => false

/-- What is asked for is what the outlet has, as far as a code can count it. -/
theorem value_of_asks {o : Outlet} (hk : s.outlets.get? k = some o) {event : Event}
    (h : s.asks k event = true) : (s.step event).value = .code (toLongCount o.pending) := by
  unfold asks at h
  split at h
  · next e number =>
    obtain ⟨hserves, hnumber⟩ := of_decide_eq_true h
    obtain ⟨⟨b, hb, hform⟩, he⟩ := serves_iff.mp hserves
    simp [step, control, hb, hform, hnumber, onWriteControl, Reply.ofControl,
      outletAt?_eq_some_iff.mpr ⟨he, hk⟩]
  · next e number =>
    obtain ⟨hcallbacks, he, hnumber⟩ := of_decide_eq_true h
    simp [step, hcallbacks, hnumber, onWriteControl, Reply.ofControl,
      outletAt?_eq_some_iff.mpr ⟨he, hk⟩]
  · cases h

/-- Until its write is answered an outlet only takes bytes. -/
theorem outlet_run_of_flight {o : Outlet} {f : Flight} (hk : s.outlets.get? k = some o)
    (hf : o.flight = some f) {events : List Event} (hanswer : ∀ a, .writeDone k a ∉ events) :
    (s.run events).1.outlets.get? k = some (o.append (s.takenDuring k events)) := by
  induction events generalizing s o with
  | nil => simpa [run, takenDuring, Outlet.append] using hk
  | cons event rest ih =>
    simp only [List.mem_cons, not_or] at hanswer
    have hstep : (s.step event).session.outlets.get? k =
        some (o.append (s.taken k event (s.step event).value)) := by
      cases outbound_step hk event with
      | apart hget htaken => simpa [htaken, Outlet.append] using hget
      | append data hget htaken => rw [hget, htaken]
      | start hget htaken =>
        have hsequel := Outlet.sequel_start o event.purpose
        rcases hstart : o.start event.purpose with ⟨o', progress⟩
        rw [hstart] at hsequel hget
        cases hsequel with
        | still => simpa [htaken, Outlet.append] using hget
        | offered hidle => simp [hf] at hidle
      | answer a f hevent => exact absurd hevent.symm (hanswer a).1
    simp only [run, takenDuring, ih hstep hf fun a => (hanswer a).2, Outlet.append,
      List.append_assoc]

/-- The connection has not answered yet in the first session, in the second it has. -/
def writeGap (k : Nat) (f : Flight) (a : WriteAnswer) : Gap where
  outlet j o p :=
    (j = k ∧ o.flight = some f ∧ p = (o.land f.block a).1) ∨ (j ≠ k ∧ o = p)

theorem lawful_writeGap (k : Nat) (f : Flight) (a : WriteAnswer) : (writeGap k f a).Lawful where
  buffer := by rintro j i p rfl; rfl
  ended := by rintro j i p rfl; rfl
  mark := by rintro j i p rfl; rfl
  take := by rintro j i p rfl n; rfl
  append := by
    rintro j o p (⟨hj, hflight, rfl⟩ | ⟨hj, rfl⟩) data
    · exact Or.inl ⟨hj, hflight, by rw [Outlet.land_append]⟩
    · exact Or.inr ⟨hj, rfl⟩

section

variable {f : Flight} {a : WriteAnswer}

theorem even_writeGap {o : Outlet} (hk : s.outlets.get? k = some o) {event : Event}
    (hspares : event.sparesFlush k = true) (hask : event.asksPending = false) :
    (writeGap k f a).Even s event := by
  have hfresh : ∀ j, s.outlets.get? j = none → ∀ p, (writeGap k f a).outlet j p p := by
    intro j hj p
    refine Or.inr ⟨?_, rfl⟩
    rintro rfl
    cases hj.symm.trans hk
  have heq : ∀ j, ¬ j = k → (writeGap k f a).outlet j = Eq := fun j hjk => eq_of_other_key hjk
  have hcontrol : ∀ number, ¬ Control.ofNumber number = .flush →
      ¬ Control.ofNumber number = .writePending →
        (writeGap k f a).EvenControl (.ofNumber number) := by
    intro number hflush hpending
    cases hc : Control.ofNumber number with
    | writePending => exact absurd hc hpending
    | flush => exact absurd hc hflush
    | _ => trivial
  refine ⟨?_, Gap.evenEnds_of_adapters (fun _ => id) (fun _ => id) (fun _ _ => id) s event⟩
  cases event with
  | openOutlet j => exact hfresh j
  | openInlet j => exact fun _ _ => rfl
  | flush j | writeDone j => exact heq j (by simpa [Event.sparesFlush] using hspares)
  | openDuplex j d => exact ⟨fun _ _ => rfl, hfresh d.outlet⟩
  | flushAll => cases hspares
  | control e number | callControl side e number =>
    exact hcontrol number (by simpa [Event.sparesFlush] using hspares)
      (by simpa [Event.asksPending] using hask)
  | pump | readDone => rfl
  | _ => trivial

/-- Asking for the number of pending bytes changes nothing that matters, whatever the answer. -/
theorem alike_of_asksPending {g : Gap} (h : g.Alike s t) (hends : ∀ e, ¬ g.endpoint e)
    {event : Event} (hask : event.asksPending = true) :
    g.Alike (s.step event).session (t.step event).session ∧
      (s.step event).log = (t.step event).log := by
  cases event with
  | control e number =>
    have hnumber : Control.ofNumber number = .writePending := by
      simpa [Event.asksPending] using hask
    simp only [step, control, hnumber, ← h.endpoints e (hends e)]
    cases s.endpoints.get? e with
    | none => exact ⟨h, rfl⟩
    | some b =>
      dsimp only
      cases b.form with
      | adapter side => cases side <;> exact ⟨h, rfl⟩
      | memory memory => exact ⟨h.modifyEndpoint_of_foreign (by simp), rfl⟩
      | scripted script => exact ⟨h, rfl⟩
  | callControl side e number =>
    have hnumber : Control.ofNumber number = .writePending := by
      simpa [Event.asksPending] using hask
    simp only [step, hnumber, ← h.hasCallbacks_eq]
    split
    · cases side <;> exact ⟨h, rfl⟩
    · exact ⟨h, rfl⟩
  | _ => cases hask

/-- An operation that writes once ends when the connection answers. -/
theorem step_writeDone {o : Outlet} (hk : s.outlets.get? k = some o) (hf : o.flight = some f)
    (honce : ∀ total, f.purpose ≠ .drain total) (a : WriteAnswer) :
    s.step (.writeDone k a) =
      ⟨s.putOutlet k (o.land f.block a).1,
        (Reply.ofFlush k o.connection f.purpose (.ended (o.land f.block a).2)).1,
        (Reply.ofFlush k o.connection f.purpose (.ended (o.land f.block a).2)).2⟩ := by
  have hresume : (o.land f.block a).1.resume f.purpose (o.land f.block a).2 =
      ((o.land f.block a).1, .ended (o.land f.block a).2) := by
    cases hpurpose : f.purpose with
    | drain total => exact absurd hpurpose (honce total)
    | _ => rfl
  have hconnection : (o.land f.block a).1.connection = o.connection := by rw [Outlet.land_fst]
  simp [step, writeDone, hk, Outlet.answer, hf, hresume, hconnection]

/-- Answering the write makes this gap. -/
theorem alike_of_writeDone {o : Outlet} (hk : s.outlets.get? k = some o)
    (hf : o.flight = some f) : (writeGap k f a).Alike s (s.putOutlet k (o.land f.block a).1) := by
  refine Gap.alike_of_adapters (fun _ => id) (fun _ _ => id)
    (fun j => Gap.rel_eq_refl _) fun j => ?_
  rw [Table.get?_put]
  split
  · next hj =>
    subst hj
    rw [hk]
    exact .some (Or.inl ⟨rfl, hf, rfl⟩)
  · next hj =>
    cases s.outlets.get? j
    · exact .none
    · exact .some (Or.inr ⟨hj, rfl⟩)

/-- Once both are answered, nothing is left of the gap. -/
theorem alike_of_both_answered (h : (writeGap k f a).Alike s t) {o : Outlet}
    (hk : s.outlets.get? k = some o) : ({} : Gap).Alike (s.putOutlet k (o.land f.block a).1) t := by
  refine { h with outlets := fun j => ?_ }
  rw [outlets_putOutlet, Table.get?_put]
  obtain ⟨hs, ht⟩ | ⟨o', p, hs, ht, hop⟩ := h.outlet_cases j
  · have hjk : ¬ j = k := by
      rintro rfl
      cases hs.symm.trans hk
    rw [if_neg hjk, hs, ht]
    exact .none
  · rw [ht]
    obtain ⟨rfl, -, rfl⟩ | ⟨hjk, rfl⟩ := hop
    · obtain rfl := Option.some.inj (hs.symm.trans hk)
      rw [if_pos rfl]
      exact .some rfl
    · rw [if_neg hjk, hs]
      exact .some rfl

/-- What was recorded of an event in two runs, of which only the number of pending bytes that the
event asked for can differ. -/
structure SameRecord (r r' : Record) : Prop where
  event : r.event = r'.event
  log : r.log = r'.log
  reply : r.event.asksPending = false → r.reply = r'.reply

/-- What happens while a connection writes happens the same after its answer, up to the gap. -/
theorem same_run_writeGap {events : List Event}
    (hspares : ∀ event ∈ events, event.sparesFlush k = true) (h : (writeGap k f a).Alike s t)
    {o : Outlet} (hk : s.outlets.get? k = some o) :
    (writeGap k f a).Alike (s.run events).1 (t.run events).1 ∧
      List.Forall₂ SameRecord (s.run events).2 (t.run events).2 := by
  induction events generalizing s t o with
  | nil => exact ⟨h, .nil⟩
  | cons event rest ih =>
    simp only [List.forall_mem_cons] at hspares
    obtain ⟨o₁, hk₁⟩ : ∃ o₁, (s.step event).session.outlets.get? k = some o₁ := by
      cases outbound_step hk event with
      | apart hget => exact ⟨_, hget⟩
      | append data hget => exact ⟨_, hget⟩
      | start hget => exact ⟨_, hget⟩
      | answer a f hevent hflight hget => exact ⟨_, hget⟩
    have hstep : (writeGap k f a).Alike (s.step event).session (t.step event).session ∧
        SameRecord ⟨event, (s.step event).value, (s.step event).log⟩
          ⟨event, (t.step event).value, (t.step event).log⟩ := by
      cases hask : event.asksPending with
      | true =>
        obtain ⟨halike, hlog⟩ := alike_of_asksPending h (fun _ => id) hask
        exact ⟨halike, rfl, hlog, fun hnot => absurd hask (by simp [hnot])⟩
      | false =>
        obtain ⟨halike, hvalue, hlog⟩ :=
          Gap.same_step h (lawful_writeGap k f a) (even_writeGap hk hspares.1 hask)
        exact ⟨halike, rfl, hlog, fun _ => hvalue⟩
    obtain ⟨halike, hrecords⟩ := ih hspares.2 hstep.1 hk₁
    exact ⟨halike, .cons hstep.2 hrecords⟩

end

/-- A write to the connection of an outlet may as well be answered when it starts. The event is the
one that started it. -/
structure FlushOrdered (s : Session) (k : Nat) (block : Bytes) (event : Event)
    (events : List Event) : Prop where
  /-- While the connection writes, the block counts as pending along with what came after it. -/
  pending : ∃ o, (s.run (event :: events)).1.outlets.get? k = some o ∧
    o.pending = block.length + ((s.step event).session.takenDuring k events).length
  /-- Whoever asks in the meantime is told that number. -/
  asked : ∀ ask, (s.run (event :: events)).1.asks k ask = true →
    ((s.run (event :: events)).1.step ask).value =
      .code (toLongCount
        (block.length + ((s.step event).session.takenDuring k events).length))
  /-- The flush ends in the same outcome and leaves the same outlet, but for what was added behind
  it in the meantime. -/
  landing : ∃ o o', (s.step event).session.outlets.get? k = some o ∧
    (s.run (event :: events)).1.outlets.get? k = some o' ∧
      ∀ a, o'.land block a =
        ((o.land block a).1.append ((s.step event).session.takenDuring k events),
          (o.land block a).2)
  /-- What happens during the write of an operation that writes once might as well have happened
  after it: the flush has the same outcome, so has all the rest but for the number of pending bytes,
  and the session ends up the same. -/
  order : event.writesOnce = true → ∀ a, ∃ offered answered records records',
    (s.run (event :: (events ++ [.writeDone k a]))).2 = offered :: (records ++ [answered]) ∧
    (s.run (event :: .writeDone k a :: events)).2 = offered :: answered :: records' ∧
    List.Forall₂ SameRecord records records' ∧
    ({} : Gap).Alike (s.run (event :: (events ++ [.writeDone k a]))).1
      (s.run (event :: .writeDone k a :: events)).1

/-- **A write may as well be answered when it starts.** -/
theorem flush_ordered {o : Outlet} {c : Nat} {block : Bytes} {event : Event} {events : List Event}
    (hk : s.outlets.get? k = some o) (hcalls : (s.step event).value = .calls (.write k c block))
    (hspares : ∀ later ∈ events, later.sparesFlush k = true) :
    s.FlushOrdered k block event events := by
  obtain ⟨-, -, purpose, hpurpose, hoffered⟩ := calls_write hk hcalls
  have honce : event.writesOnce = true → ∀ total, purpose ≠ .drain total := by
    rcases hpurpose with rfl | ⟨a, rfl⟩
    · cases event <;> simp [Event.writesOnce, Event.purpose]
    · simp [Event.writesOnce]
  obtain ⟨o₁, hk₁, hqueue, hinFlight, hflight⟩ : ∃ o₁,
      (s.step event).session.outlets.get? k = some o₁ ∧ o₁.queue = [] ∧
        o₁.inFlight = block.length ∧ o₁.flight = some ⟨block, purpose⟩ :=
    ⟨_, hoffered, rfl, rfl, rfl⟩
  have hanswer : ∀ a, .writeDone k a ∉ events := by
    intro a hmem
    simpa [Event.sparesFlush] using hspares _ hmem
  have hlater := outlet_run_of_flight hk₁ hflight hanswer
  have hpending : (o₁.append ((s.step event).session.takenDuring k events)).pending =
      block.length + ((s.step event).session.takenDuring k events).length := by
    simp [Outlet.pending, Outlet.append, hqueue, hinFlight, Nat.add_comm]
  refine
    { pending := ⟨_, hlater, hpending⟩
      asked := fun ask hask => ?_
      landing := ⟨o₁, _, hk₁, hlater, fun a => Outlet.land_append _ _ _ _⟩
      order := fun hevent a => ?_ }
  · rw [← hpending]
    exact value_of_asks hlater hask
  · have hstart := step_writeDone hk₁ hflight (honce hevent) a
    have hend := step_writeDone hlater hflight (honce hevent) a
    obtain ⟨halike, hrecords⟩ :=
      same_run_writeGap hspares (alike_of_writeDone (a := a) hk₁ hflight) hk₁
    refine ⟨⟨event, (s.step event).value, (s.step event).log⟩,
      ⟨.writeDone k a, ((s.step event).session.step (.writeDone k a)).value,
        ((s.step event).session.step (.writeDone k a)).log⟩,
      ((s.step event).session.run events).2,
      (((s.step event).session.step (.writeDone k a)).session.run events).2, ?_, rfl, ?_, ?_⟩
    · simp only [run, run_append, hstart, hend, Outlet.land_append]
      rfl
    · rwa [hstart]
    · simp only [run, run_append, hstart, hend]
      exact alike_of_both_answered halike hlater

/-! ### Both -/

/-- **What happens while a connection is at work acts as if it were in order**, before a pump that
waits for a read, and after a flush that waits for a write. -/
theorem io_ordered (s : Session) (k : Nat) (events : List Event) :
    (∀ c room, (s.step (.pump k)).value = .calls (.read k c room) → .pump k ∉ events →
      (∀ a, .readDone k a ∉ events) → s.PumpOrdered k events) ∧
    ∀ o c block event, s.outlets.get? k = some o →
      (s.step event).value = .calls (.write k c block) →
      (∀ later ∈ events, later.sparesFlush k = true) → s.FlushOrdered k block event events :=
  ⟨fun _ _ => pump_ordered, fun _ _ _ _ => flush_ordered⟩

/-- A session with one adapter and one endpoint of each side, and two bytes to write. -/
def oneOfEach : Session :=
  (({} : Session).run [.openInlet 0 0 false [4], .attach 0 (.inlet 0), .openOutlet 0 0 false,
    .attach 1 (.outlet 0), .append 0 [1, 2]]).1

/-- The engine reads, writes and asks, and the owner marks the end and takes the inlet away. -/
def meanwhile : List Event :=
  [.read 0 4 true, .request 0 1, .markEnded 0, .append 0 [3], .write 1 1 (some [4]),
    .control 1 13, .disconnect 0 (.inlet 0)]

theorem io_ordered_oneOfEach :
    oneOfEach.PumpOrdered 0 meanwhile ∧ oneOfEach.FlushOrdered 0 [1, 2] (.flush 0) meanwhile :=
  ⟨(io_ordered oneOfEach 0 meanwhile).1 0 (emptyRoom 4) rfl (by simp [meanwhile])
      (by simp [meanwhile]),
    (io_ordered oneOfEach 0 meanwhile).2 _ 0 [1, 2] (.flush 0) rfl rfl (by decide)⟩

end Session

end Conduit

import Conduit.Proofs.Session.Interleaving
import Conduit.Proofs.Session.Starts
import Conduit.Proofs.Session.Views
/-!
# The engine's way and the owner's way

There are several ways to an adapter. The owner calls it; the engine calls a callback, or makes a
call of its own that ends in the callback; and an endpoint can be used as a plain byte stream. Each
way checks its arguments anew, cuts sizes off where its types do, and returns what it has to say in
a form of its own. All the same they come to one operation: a write is an append, a flush is a flush
with another purpose, and a read is a request.

What a way adds is seen on the endpoint only, whose retry flags are cleared or set. The session is
otherwise the one that the owner's operation leaves, and what is returned is a function of what the
owner is told.

A flush takes two events, and anything may happen between them. So the two flushes are compared as
two runs, with the same events in between and the same answer of the connection at the end. What
distinguishes the sessions meanwhile is the purpose of the flush in flight, and nothing but its
landing looks at that.

## Main definitions

* `Conduit.Reply.asCode`: what the engine gets in place of the owner's reply to a flush.
* `Conduit.Readiness.transfer`: what a read returns in place of the owner's readiness.
* `Conduit.Session.purposeGap`: the gap between two flushes of different purposes.
* `Conduit.Session.PathsAgree`: what holds of all ways to the adapters of a session.

## Main results

* `same_step_purposeGap`: while a flush is in flight, nobody can tell who asked for it.
* `paths_agree`: all ways to an adapter come to the same.
-/

namespace Conduit

/-- What the engine gets in place of the owner's reply to a flush. -/
def Reply.asCode : Reply → Reply
  | .count n => .code (toLongCount n)
  | .failed _ => .code 0
  | .panicked _ => .code (-1)
  | reply => reply

namespace Readiness

/-- The bytes that a request yields. -/
def bytes : Readiness Bytes → Bytes
  | .ready bytes => bytes
  | _ => []

/-- What a read returns in place of the owner's readiness. -/
def transfer : Readiness Bytes → Transfer
  | .ready bytes => ⟨bytes.length, bytes⟩
  | .ended => ⟨0, []⟩
  | .wouldBlock => ⟨-1, []⟩

/-- What a read does to the flags of its endpoint. -/
def flags : Readiness Bytes → Flags → Flags
  | .wouldBlock, f => f.clearRetry.retryRead
  | _, f => f.clearRetry

@[simp] theorem bytes_transfer (r : Readiness Bytes) : r.transfer.bytes = r.bytes := by
  cases r <;> rfl

end Readiness

/-- What a flush tells the engine is a function of what it tells the owner. -/
theorem ofFlush_control (k connection : Nat) (progress : Outlet.Progress) :
    (Reply.ofFlush k connection .control progress).1 =
      (Reply.ofFlush k connection .single progress).1.asCode := by
  cases progress with
  | busy => rfl
  | ended outcome => cases outcome <;> rfl
  | writing block => rfl

/-- An owner who asks for a flush is told what it came to, so nothing is logged about it. -/
theorem log_ofFlush_single (k connection : Nat) (progress : Outlet.Progress) :
    (Reply.ofFlush k connection .single progress).2 = [] := by
  cases progress <;> rfl

/-- A room that was large enough holds what was written to its front, and is otherwise as it was. -/
theorem fill_of_length_le {room written : Bytes} (h : written.length ≤ room.length) :
    fill room written = written ++ room.drop written.length := by
  rw [fill, List.take_of_length_le h]

/-- Sessions in which the same is found are alike. -/
theorem Gap.alike_of_get? {s t : Session} (hengine : s.engine = t.engine)
    (hinlets : ∀ k, s.inlets.get? k = t.inlets.get? k)
    (houtlets : ∀ k, s.outlets.get? k = t.outlets.get? k)
    (hendpoints : ∀ e, s.endpoints.get? e = t.endpoints.get? e)
    (hduplexes : s.duplexes = t.duplexes) (hrosters : ∀ side, s.roster side = t.roster side) :
    ({} : Gap).Alike s t where
  engine := hengine
  inlets k := hinlets k ▸ Gap.rel_eq_refl _
  outlets k := houtlets k ▸ Gap.rel_eq_refl _
  endpoints e _ := hendpoints e
  duplexes _ _ := by rw [hduplexes]
  issued side := by rw [hrosters]
  entries side _ _ := by rw [hrosters]
  own := fun _ _ _ _ _ _ _ _ h => h
  old := fun _ _ h => h.elim
  keys := fun _ _ h => h.elim

namespace Session

variable {s t : Session} {e k : Nat} {b : Endpoint}

/-! ### Reads are requests -/

theorem step_request {i : Inlet} (hk : s.inlets.get? k = some i) (n : Nat) :
    s.step (.request k n) =
      ⟨s.putInlet k (i.request n).2, .readiness (i.request n).1, []⟩ := by
  simp [step, hk]

theorem length_bytes_request (i : Inlet) (n : Nat) : (i.request n).1.bytes.length ≤ n := by
  by_cases hempty : i.buffer = []
  · rw [Inlet.request_of_empty hempty]
    cases i.ended <;> exact Nat.zero_le n
  · rw [Inlet.request_of_buffered hempty]
    exact List.length_take_le n i.buffer

/-- A read callback is a request, but for the retry flags of its endpoint. -/
theorem onRead_eq_request {i : Inlet} (hi : s.inletAt? e = some (k, i)) {n : Nat} (hn : 0 < n)
    (hle : n ≤ largestCount) :
    (s.onRead e n true).value = (i.request n).1.transfer ∧ (s.onRead e n true).log = [] ∧
      ({} : Gap).Alike (s.onRead e n true).session
        ((s.putInlet k (i.request n).2).modifyFlags e (i.request n).1.flags) := by
  have hk := (inletAt?_eq_some_iff.mp hi).2
  have hpeek : ¬ (n = 0 ∧ 0 < i.pending) := fun h => Nat.ne_of_gt hn h.1
  rw [onRead]
  simp only [inletAt?_modifyFlags, hi, (properRead_of_le hle).check, hpeek, if_false]
  by_cases hempty : i.buffer = []
  · -- nothing is taken, so the inlet that is put back is the one that is there
    have hput : ∀ j, s.inlets.get? j = (s.inlets.put k i).get? j := by
      intro j
      rw [Table.get?_put]
      split
      · next hj => rw [hj, hk]
      · rfl
    rw [Inlet.request_of_empty hempty]
    cases i.ended with
    | true => exact ⟨rfl, rfl, Gap.alike_of_get? rfl hput (fun _ => rfl) (fun _ => rfl) rfl
        fun side => by cases side <;> rfl⟩
    | false =>
      refine ⟨rfl, rfl, Gap.alike_of_get? rfl hput (fun _ => rfl) (fun j => ?_) rfl
        fun side => by cases side <;> rfl⟩
      simp only [Bool.false_eq_true, if_false, modifyFlags, modifyEndpoint, putInlet,
        Table.get?_modify]
      split
      · cases s.endpoints.get? j <;> rfl
      · rfl
  · have hlength : (i.buffer.take n).length ≤ largestCount :=
      Nat.le_trans (List.length_take_le n i.buffer) hle
    rw [Inlet.request_of_buffered hempty]
    refine ⟨?_, rfl, Gap.alike_of_get? rfl (fun _ => rfl) (fun _ => rfl) (fun _ => rfl) rfl
      fun side => by cases side <;> rfl⟩
    simp only [Readiness.transfer, toCount_of_le hlength]

/-- On an endpoint that an inlet is attached to, every way to read is the owner's request. -/
structure ReadsRequest (s : Session) (e k : Nat) : Prop where
  /-- The callback and the engine's own read return what the owner is told, as far as they can, and
  leave the session that the owner leaves, but for the retry flags of the endpoint. -/
  callback : ∀ n, 0 < n → n ≤ largestCount → ∃ r,
    (s.step (.request k n)).value = .readiness r ∧
    (s.onRead e n true).value = r.transfer ∧ s.read e n true = some (s.onRead e n true) ∧
    ({} : Gap).Alike (s.onRead e n true).session
      ((s.step (.request k n)).session.modifyFlags e r.flags)
  /-- As a stream, an endpoint yields the bytes of the request for as much as one call can carry. -/
  stream : ∀ n, 0 < n → ∃ r effect,
    (s.step (.request k (min n largestCount))).value = .readiness r ∧
    s.streamRead e n = some effect ∧ effect.value = r.bytes ∧
    ({} : Gap).Alike effect.session
      ((s.step (.request k (min n largestCount))).session.modifyFlags e r.flags)
  /-- The destination holds the bytes of the request, and beyond them what it held before. -/
  destination : ∀ n, 0 < n → n ≤ largestCount → ∀ r, ∀ room : Bytes, room.length = n →
    (s.step (.request k n)).value = .readiness r →
      fill room (s.onRead e n true).value.bytes = r.bytes ++ room.drop r.bytes.length

theorem reads_request (hb : s.endpoints.get? e = some b) (hform : b.form = .adapter .inbound)
    {i : Inlet} (hi : s.inletAt? e = some (k, i)) : s.ReadsRequest e k where
  callback := by
    intro n hn hle
    obtain ⟨hvalue, -, halike⟩ := onRead_eq_request hi hn hle
    rw [step_request (inletAt?_eq_some_iff.mp hi).2]
    exact ⟨_, rfl, hvalue, read_eq_onRead hb hform hn hle, halike⟩
  stream := by
    intro n hn
    have hpos : 0 < min n largestCount := Nat.lt_min.mpr ⟨hn, by decide⟩
    obtain ⟨hvalue, -, halike⟩ := onRead_eq_request hi hpos (Nat.min_le_right _ _)
    have hserves : s.serves .inbound e k = true :=
      serves_iff.mpr ⟨⟨b, hb, hform⟩, (inletAt?_eq_some_iff.mp hi).1⟩
    rw [step_request (inletAt?_eq_some_iff.mp hi).2, streamRead_of_serves hserves (Nat.ne_of_gt hn),
      toCount_eq]
    refine ⟨_, _, rfl, rfl, ?_, halike⟩
    rw [hvalue, Readiness.bytes_transfer]
  destination := by
    intro n hn hle r room hroom hr
    rw [step_request (inletAt?_eq_some_iff.mp hi).2] at hr
    cases hr
    rw [(onRead_eq_request hi hn hle).1, Readiness.bytes_transfer]
    exact fill_of_length_le (hroom ▸ length_bytes_request i n)

/-! ### Writes are appends -/

theorem step_append {o : Outlet} (hk : s.outlets.get? k = some o) (data : Bytes) :
    s.step (.append k data) = ⟨s.putOutlet k (o.append data), .done, []⟩ := by
  simp [step, hk]

/-- A write callback is an append of as much of the buffer as its size says. -/
theorem onWrite_eq_append {o : Outlet} (ho : s.outletAt? e = some (k, o)) {n : Nat}
    (hle : n ≤ largestCount) (data : Bytes) :
    s.onWrite e n (some data) =
      ⟨(s.step (.append k (data.take n))).session.modifyFlags e Flags.clearRetry, n, []⟩ := by
  rw [step_append (outletAt?_eq_some_iff.mp ho).2, onWrite]
  simp only [outletAt?_modifyFlags, ho, Option.isSome_some, (properRead_of_le hle).check]
  rfl

/-- On an endpoint that an outlet is attached to, every way to write is the owner's append. -/
structure WritesAppend (s : Session) (e k : Nat) : Prop where
  /-- The owner's append is done. -/
  owner : ∀ data, (s.step (.append k data)).value = .done
  /-- The callback takes the data and leaves the session that the owner leaves, but for the retry
  flags of the endpoint. -/
  callback : ∀ data : Bytes, 0 < data.length → data.length ≤ largestCount →
    s.onWrite e data.length (some data) =
      ⟨(s.step (.append k data)).session.modifyFlags e Flags.clearRetry, data.length, []⟩
  /-- The engine's own write is the callback. -/
  engine : ∀ data : Bytes, 0 < data.length → data.length ≤ largestCount →
    s.write e data.length (some data) = some (s.onWrite e data.length (some data))
  /-- A stream takes as much of the data as one call can carry. -/
  stream : ∀ data : Bytes, data ≠ [] → s.streamWrite e data =
    some ⟨(s.step (.append k (data.take largestCount))).session.modifyFlags e Flags.clearRetry,
      .ok (min data.length largestCount), []⟩

theorem writes_append (hb : s.endpoints.get? e = some b) (hform : b.form = .adapter .outbound)
    {o : Outlet} (ho : s.outletAt? e = some (k, o)) : s.WritesAppend e k where
  owner := by
    intro data
    rw [step_append (outletAt?_eq_some_iff.mp ho).2]
  callback := by
    intro data _ hle
    rw [onWrite_eq_append ho hle, List.take_length]
  engine := by
    intro data hpos _
    exact write_adapter hb hform (Int.natCast_pos.mpr hpos) _
  stream := by
    intro data hdata
    have hpos : 0 < min data.length largestCount :=
      Nat.lt_min.mpr ⟨List.length_pos_iff.mpr hdata, by decide⟩
    have hempty : data.isEmpty = false := by simpa using hdata
    have htake : data.take (min data.length largestCount) = data.take largestCount := by
      rw [Nat.min_comm, ← List.take_take, List.take_length]
    rw [streamWrite, hempty, if_neg Bool.false_ne_true]
    simp only [write_adapter hb hform (Int.natCast_pos.mpr hpos),
      onWrite_eq_append ho (Nat.min_le_right _ _), htake, Option.map_some, if_true]

/-- As a stream, an endpoint without an adapter takes nothing, and says so. -/
theorem streamWrite_of_detached (hb : s.endpoints.get? e = some b)
    (hform : b.form = .adapter .outbound) (ho : s.outletAt? e = none) {data : Bytes}
    (hdata : data ≠ []) :
    s.streamWrite e data = some ⟨s.modifyFlags e Flags.clearRetry,
      .error (.refused (.shortWrite 0 (min data.length largestCount))),
      [.turnedDown .outbound .noAdapter]⟩ := by
  have hpos : 0 < min data.length largestCount :=
    Nat.lt_min.mpr ⟨List.length_pos_iff.mpr hdata, by decide⟩
  have hempty : data.isEmpty = false := by simpa using hdata
  have hshort : ¬ (-1 : Int) = (min data.length largestCount : Nat) := by omega
  rw [streamWrite, hempty, if_neg Bool.false_ne_true]
  simp only [write_adapter hb hform (Int.natCast_pos.mpr hpos), onWrite, outletAt?_modifyFlags, ho,
    Option.map_some, hshort, if_false]
  rfl

/-! ### Flushes of either purpose -/

/-- A flush of the outlet under a key is in flight in both sessions. In the first the engine asked
for it, in the second the owner. -/
def purposeGap (k : Nat) : Gap where
  outlet j o p := (j = k ∧ ∃ block, o.flight = some ⟨block, .control⟩ ∧
    p = { o with flight := some ⟨block, .single⟩ }) ∨ (j ≠ k ∧ o = p)

theorem lawful_purposeGap (k : Nat) : (purposeGap k).Lawful where
  buffer := by rintro j i p rfl; rfl
  ended := by rintro j i p rfl; rfl
  mark := by rintro j i p rfl; rfl
  take := by rintro j i p rfl n; rfl
  append := by
    rintro j o p (⟨hj, block, hflight, rfl⟩ | ⟨hj, rfl⟩) data
    · exact Or.inl ⟨hj, block, hflight, rfl⟩
    · exact Or.inr ⟨hj, rfl⟩

/-- While a flush is in flight any other has to wait, whatever the purpose of either. -/
theorem starts_purposeGap (k : Nat) (purpose : Purpose) : (purposeGap k).Starts purpose := by
  rintro j o p (⟨rfl, block, hflight, rfl⟩ | ⟨hj, rfl⟩)
  · have hstill : ∀ q : Outlet, q.flight.isSome = true → (q.start purpose).1 = q := by
      intro q hq
      have hsequel := Outlet.sequel_start q purpose
      rcases hstart : q.start purpose with ⟨q', progress⟩
      rw [hstart] at hsequel
      cases hsequel with
      | still => rfl
      | offered hidle => simp [hidle] at hq
    have hprogress : (o.start purpose).2 =
        (({ o with flight := some ⟨block, .single⟩ } : Outlet).start purpose).2 := by
      cases purpose with
      | drain total =>
        simp only [Outlet.start, hflight, Outlet.pending, Option.isSome_some, if_true]
        split <;> rfl
      | _ => simp only [Outlet.start, hflight, Option.isSome_some, if_true]
    refine ⟨rfl, hprogress, ?_⟩
    rw [hstill o (by simp [hflight]), hstill _ rfl]
    exact Or.inl ⟨rfl, block, hflight, rfl⟩
  · exact ⟨rfl, rfl, Or.inr ⟨hj, rfl⟩⟩

/-- Only the landing of a flush looks at its purpose. -/
theorem even_purposeGap {o : Outlet} (hk : s.outlets.get? k = some o) {event : Event}
    (hanswer : ∀ a, event ≠ .writeDone k a) (hasks : event.asksFlush = false) :
    (purposeGap k).Even s event := by
  have hcontrol : ∀ number, ¬ Control.ofNumber number = .flush →
      (purposeGap k).EvenControl (.ofNumber number) := by
    intro number hflush
    cases hc : Control.ofNumber number with
    | writePending =>
      rintro j o p (⟨-, block, -, rfl⟩ | ⟨-, rfl⟩) <;> rfl
    | flush => exact absurd hc hflush
    | _ => trivial
  have hfresh : ∀ j, s.outlets.get? j = none → ∀ p, (purposeGap k).outlet j p p := by
    intro j hj p
    refine Or.inr ⟨?_, rfl⟩
    rintro rfl
    cases hj.symm.trans hk
  refine ⟨?_, Gap.evenEnds_of_adapters (fun _ => id) (fun _ => id) (fun _ _ => id) s event⟩
  cases event with
  | openInlet => exact fun _ _ => rfl
  | openOutlet j => exact hfresh j
  | openDuplex j d => exact ⟨fun _ _ => rfl, hfresh d.outlet⟩
  | pump | readDone => rfl
  | writeDone j a => exact eq_of_other_key fun hj => hanswer a (by rw [hj])
  | flush | flushAll => cases hasks
  | control | callControl => exact hcontrol _ (by simpa [Event.asksFlush] using hasks)
  | _ => trivial

/-- **While a flush is in flight, nobody can tell who asked for it.** -/
theorem same_step_purposeGap (h : (purposeGap k).Alike s t) {o : Outlet}
    (hk : s.outlets.get? k = some o) {event : Event} (hanswer : ∀ a, event ≠ .writeDone k a) :
    (purposeGap k).Same (s.step event) (t.step event) := by
  cases hasks : event.asksFlush with
  | false => exact Gap.same_step h (lawful_purposeGap k) (even_purposeGap hk hanswer hasks)
  | true =>
    exact Gap.same_step_of_starts h (lawful_purposeGap k) hasks (starts_purposeGap k _)
      (Gap.evenEnds_of_adapters (fun _ => id) (fun _ => id) (fun _ _ => id) s event)

theorem same_run_purposeGap {events : List Event} (hanswer : ∀ a, .writeDone k a ∉ events)
    (h : (purposeGap k).Alike s t) {o : Outlet} {f : Flight} (hk : s.outlets.get? k = some o)
    (hf : o.flight = some f) :
    (purposeGap k).Alike (s.run events).1 (t.run events).1 ∧
      (s.run events).2 = (t.run events).2 := by
  induction events generalizing s t o with
  | nil => exact ⟨h, rfl⟩
  | cons event rest ih =>
    have hfirst : ∀ a, event ≠ .writeDone k a := fun a heq =>
      hanswer a (heq ▸ List.mem_cons_self)
    have hsingle : ∀ a, .writeDone k a ∉ [event] := fun a hmem =>
      hfirst a (List.mem_singleton.mp hmem).symm
    have hlater := outlet_run_of_flight hk hf hsingle
    obtain ⟨halike, hvalue, hlog⟩ := same_step_purposeGap h hk hfirst
    obtain ⟨hend, hrecords⟩ := ih (fun a hmem => hanswer a (List.mem_cons_of_mem _ hmem)) halike
      hlater hf
    exact ⟨hend, by simp only [run, hvalue, hlog, hrecords]⟩

/-- A flush that the engine asks for is one that the owner asks for, but for its purpose and what is
returned. -/
structure FlushesAlike (s : Session) (e k : Nat) : Prop where
  /-- The callback, called directly, is the engine's own call. -/
  direct : s.hasCallbacks .outbound = true →
    s.step (.callControl .outbound (some e) 11) = s.step (.control e 11)
  /-- Both make the same call, or both have to wait, or both end at once; then what the engine is
  returned stands for what the owner is told. -/
  start : (s.step (.control e 11)).value = (s.step (.flush k)).value.asCode
  /-- If no call is made, both leave the same session. -/
  still : (∀ call, (s.step (.flush k)).value ≠ .calls call) →
    (s.step (.control e 11)).session = (s.step (.flush k)).session
  /-- If a call is made, both leave the same session when the connection has given the same answer,
  whatever has happened in between. That has come to the same too, and what the engine is returned
  stands for what the owner is told. -/
  answer : ∀ call, (s.step (.flush k)).value = .calls call → ∀ events : List Event,
    (∀ a, .writeDone k a ∉ events) → ∀ a, ∃ records reply log,
      (s.run (.flush k :: (events ++ [.writeDone k a]))).2 =
        ⟨.flush k, .calls call, []⟩ :: (records ++ [⟨.writeDone k a, reply, []⟩]) ∧
      (s.run (.control e 11 :: (events ++ [.writeDone k a]))).2 =
        ⟨.control e 11, .calls call, []⟩ :: (records ++ [⟨.writeDone k a, reply.asCode, log⟩]) ∧
      ({} : Gap).Alike (s.run (.control e 11 :: (events ++ [.writeDone k a]))).1
        (s.run (.flush k :: (events ++ [.writeDone k a]))).1

theorem step_flush {o : Outlet} (hk : s.outlets.get? k = some o) :
    s.step (.flush k) = ⟨s.putOutlet k (o.start .single).1,
      (Reply.ofFlush k o.connection .single (o.start .single).2).1, []⟩ := by
  simp only [step, flushFor, hk, startFlush, log_ofFlush_single]

theorem step_control_flush (hb : s.endpoints.get? e = some b)
    (hform : b.form = .adapter .outbound) {o : Outlet} (ho : s.outletAt? e = some (k, o)) :
    s.step (.control e 11) = ⟨s.putOutlet k (o.start .control).1,
      (Reply.ofFlush k o.connection .control (o.start .control).2).1,
      (Reply.ofFlush k o.connection .control (o.start .control).2).2⟩ := by
  have hnumber : Control.ofNumber 11 = .flush := rfl
  simp only [step, control, hb, hform, hnumber, onWriteControl, Option.bind_some, ho, startFlush]
  cases (o.start .control).2 <;> rfl

/-- An outlet whose whole queue has been offered for a purpose. -/
def offeredFor (o : Outlet) (purpose : Purpose) : Outlet :=
  { o with queue := [], inFlight := o.queue.length, flight := some ⟨o.queue, purpose⟩ }

/-- A flush that is not part of draining waits for the one in flight, ends at once, or offers the
whole queue. The count of the bytes in flight has no part in that. -/
theorem start_cases (o : Outlet) :
    (o.flight ≠ none ∧
      ∀ purpose, (∀ total, purpose ≠ .drain total) → o.start purpose = (o, .busy)) ∨
    (o.flight = none ∧ o.queue = [] ∧
      ∀ purpose, (∀ total, purpose ≠ .drain total) → o.start purpose = (o, .ended (.value 0))) ∨
    (o.flight = none ∧ o.queue ≠ [] ∧
      ∀ purpose, (∀ total, purpose ≠ .drain total) →
        o.start purpose = (offeredFor o purpose, .writing o.queue)) := by
  cases hflight : o.flight with
  | some f =>
    refine Or.inl ⟨by simp, fun purpose hpurpose => ?_⟩
    cases purpose with
    | drain total => exact absurd rfl (hpurpose total)
    | _ => simp only [Outlet.start, hflight, Option.isSome_some, if_true]
  | none =>
    by_cases hqueue : o.queue = []
    · refine Or.inr (Or.inl ⟨rfl, hqueue, fun purpose hpurpose => ?_⟩)
      cases purpose with
      | drain total => exact absurd rfl (hpurpose total)
      | _ =>
        simp only [Outlet.start, hflight, Option.isSome_none, Bool.false_eq_true, if_false,
          Outlet.begin_of_empty hqueue]
    · refine Or.inr (Or.inr ⟨rfl, hqueue, fun purpose hpurpose => ?_⟩)
      cases purpose with
      | drain total => exact absurd rfl (hpurpose total)
      | _ =>
        simp only [Outlet.start, hflight, Option.isSome_none, Bool.false_eq_true, if_false,
          Outlet.begin_of_queued hqueue, offeredFor]

/-- The flush that the engine asked for is in flight in the first session, and the owner's in the
second. -/
theorem outlet_of_purposeGap (h : (purposeGap k).Alike s t) {o : Outlet}
    (hk : s.outlets.get? k = some o) : ∃ block, o.flight = some ⟨block, .control⟩ ∧
      t.outlets.get? k = some { o with flight := some ⟨block, .single⟩ } := by
  obtain ⟨hnone, -⟩ | ⟨o', p, hs, ht, hop⟩ := h.outlet_cases k
  · cases hnone.symm.trans hk
  · obtain rfl := Option.some.inj (hs.symm.trans hk)
    obtain ⟨-, block, hflight, rfl⟩ | ⟨hne, -⟩ := hop
    · exact ⟨block, hflight, ht⟩
    · exact absurd rfl hne

/-- Once both have landed, nothing is left of the gap. -/
theorem alike_of_both_landed (h : (purposeGap k).Alike s t) (o : Outlet) :
    ({} : Gap).Alike (s.putOutlet k o) (t.putOutlet k o) := by
  refine { h with outlets := fun j => ?_ }
  rw [outlets_putOutlet, outlets_putOutlet, Table.get?_put, Table.get?_put]
  split
  · exact .some rfl
  · next hj =>
    obtain ⟨hs, ht⟩ | ⟨o', p, hs, ht, hop⟩ := h.outlet_cases j <;> rw [hs, ht]
    · exact .none
    · obtain ⟨hjk, -⟩ | ⟨-, rfl⟩ := hop
      · exact absurd hjk hj
      · exact .some rfl

/-- From the offer of a block to the answer of the connection, two flushes run the same. -/
theorem run_of_offered (s : Session) {k : Nat} (o : Outlet) {events : List Event}
    (hanswer : ∀ a, .writeDone k a ∉ events) (a : WriteAnswer) :
    ∃ reply log u v,
      ((s.putOutlet k (offeredFor o .single)).run events).1.step (.writeDone k a) =
        ⟨u, reply, []⟩ ∧
      ((s.putOutlet k (offeredFor o .control)).run events).1.step (.writeDone k a) =
        ⟨v, reply.asCode, log⟩ ∧
      ((s.putOutlet k (offeredFor o .single)).run events).2 =
        ((s.putOutlet k (offeredFor o .control)).run events).2 ∧
      ({} : Gap).Alike v u := by
  have hk : (s.putOutlet k (offeredFor o .control)).outlets.get? k =
      some (offeredFor o .control) := by simp
  have halike : (purposeGap k).Alike (s.putOutlet k (offeredFor o .control))
      (s.putOutlet k (offeredFor o .single)) := by
    refine Gap.alike_of_adapters (fun _ => id) (fun _ _ => id) (fun j => Gap.rel_eq_refl _)
      fun j => ?_
    rw [Table.get?_put, Table.get?_put]
    split
    · next hj => exact .some (Or.inl ⟨hj, o.queue, rfl, rfl⟩)
    · next hj =>
      cases s.outlets.get? j
      · exact .none
      · exact .some (Or.inr ⟨hj, rfl⟩)
  obtain ⟨hlater, hrecords⟩ := same_run_purposeGap hanswer halike hk rfl
  obtain ⟨p, hp⟩ : ∃ p,
      ((s.putOutlet k (offeredFor o .control)).run events).1.outlets.get? k = some p :=
    ⟨_, outlet_run_of_flight hk rfl hanswer⟩
  obtain ⟨block, hflight, hp'⟩ := outlet_of_purposeGap hlater hp
  have hengine := step_writeDone hp hflight (by simp) a
  have howner := step_writeDone hp' rfl (by simp) a
  -- landing takes the flight away, so it is the same with either
  have hland : ({ p with flight := some ⟨block, .single⟩ } : Outlet).land block a =
      p.land block a := rfl
  rw [hland, log_ofFlush_single] at howner
  rw [ofFlush_control] at hengine
  exact ⟨_, _, _, _, howner, hengine, hrecords.symm, alike_of_both_landed hlater _⟩

theorem flushes_alike (hb : s.endpoints.get? e = some b) (hform : b.form = .adapter .outbound)
    {o : Outlet} (ho : s.outletAt? e = some (k, o)) : s.FlushesAlike e k := by
  have hk := (outletAt?_eq_some_iff.mp ho).2
  have hengine := step_control_flush hb hform ho
  have howner := step_flush hk
  have hdirect : s.hasCallbacks .outbound = true →
      s.step (.callControl .outbound (some e) 11) = s.step (.control e 11) := by
    intro hcallbacks
    simp only [step, hcallbacks, if_true, control, hb, hform]
  rcases start_cases o with ⟨-, hstart⟩ | ⟨-, -, hstart⟩ | ⟨-, -, hstart⟩
  · rw [hstart .control (by simp)] at hengine
    rw [hstart .single (by simp)] at howner
    refine ⟨hdirect, by rw [hengine, howner]; rfl, fun _ => by rw [hengine, howner],
      fun call hcalls => ?_⟩
    rw [howner] at hcalls
    cases hcalls
  · rw [hstart .control (by simp)] at hengine
    rw [hstart .single (by simp)] at howner
    refine ⟨hdirect, by rw [hengine, howner]; rfl, fun _ => by rw [hengine, howner],
      fun call hcalls => ?_⟩
    rw [howner] at hcalls
    cases hcalls
  · rw [hstart .control (by simp)] at hengine
    rw [hstart .single (by simp)] at howner
    refine ⟨hdirect, by rw [hengine, howner]; rfl, fun hne => ?_,
      fun call hcalls events hanswer a => ?_⟩
    · rw [howner] at hne
      exact absurd rfl (hne _)
    · obtain ⟨reply, log, u, v, hownerEnd, hengineEnd, hrecords, halike⟩ :=
        run_of_offered s o hanswer a
      rw [howner] at hcalls
      cases hcalls
      refine ⟨((s.putOutlet k (offeredFor o .single)).run events).2, reply, log, ?_, ?_, ?_⟩
      · simp only [run, run_append, howner, hownerEnd]
        rfl
      · simp only [run, run_append, hengine, hengineEnd, hrecords]
        rfl
      · simp only [run, run_append, howner, hengine, hownerEnd, hengineEnd]
        exact halike

/-- What holds of all ways to the adapters of a session. -/
structure PathsAgree (s : Session) : Prop where
  /-- Writes are appends. -/
  write : ∀ e b k o, s.endpoints.get? e = some b → b.form = .adapter .outbound →
    s.outletAt? e = some (k, o) → s.WritesAppend e k
  /-- Flushes are alike. -/
  flush : ∀ e b k o, s.endpoints.get? e = some b → b.form = .adapter .outbound →
    s.outletAt? e = some (k, o) → s.FlushesAlike e k
  /-- Reads are requests. -/
  read : ∀ e b k i, s.endpoints.get? e = some b → b.form = .adapter .inbound →
    s.inletAt? e = some (k, i) → s.ReadsRequest e k
  /-- Where no outlet is attached, a stream takes nothing, and says how much it should have. -/
  detached : ∀ e b, s.endpoints.get? e = some b → b.form = .adapter .outbound →
    s.outletAt? e = none → ∀ data : Bytes, data ≠ [] → ∃ error log,
      s.streamWrite e data = some ⟨s.modifyFlags e Flags.clearRetry, .error error, log⟩ ∧
      error = .refused (.shortWrite 0 (min data.length largestCount)) ∧ error.kind = .writeZero

/-- **All ways to an adapter come to the same.** -/
theorem paths_agree (s : Session) : s.PathsAgree where
  write _ _ _ _ hb hform ho := writes_append hb hform ho
  flush _ _ _ _ hb hform ho := flushes_alike hb hform ho
  read _ _ _ _ hb hform hi := reads_request hb hform hi
  detached _ _ hb hform ho _ hdata :=
    ⟨_, _, streamWrite_of_detached hb hform ho hdata, rfl, rfl⟩

end Session

end Conduit

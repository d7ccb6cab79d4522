import Conduit.Proofs.Outlet.Ledger
import Conduit.Proofs.Session.Frame
import Conduit.Proofs.Session.Serving
/-!
# What an event does to an outlet

A session has many events, and an outlet has few operations. Here every event is read as what it
does to the outlet under one key: nothing, an append, the start of an operation made of flushes, or
the connection's answer. `outbound_step` says so once for all events, with the reply that goes with
each, so that a property of an outlet need only be proved for its own operations.

What the engine writes through an endpoint counts as appended as far as the call says that it was
taken. It reaches an outlet if the token in the endpoint leads there at the time of the call; an
engine's own call needs in addition that the endpoint has the callback.

## Main definitions

* `Conduit.Session.taken`: the bytes that an event adds to an outlet, according to its reply.
* `Conduit.Session.Outbound`: the ways in which an event bears on an outlet.

## Main results

* `outbound_step`: every event bears on an outlet in one of these ways.
-/

namespace Conduit

/-- Whether an event can bear on an outlet at all. -/
def Event.isOutbound : Event → Bool
  | .openOutlet .. => true
  | .append .. => true
  | .flush .. => true
  | .writeDone .. => true
  | .openDuplex .. => true
  | .flushAll .. => true
  | .write .. => true
  | .control .. => true
  | .streamWrite .. => true
  | .streamWriteAll .. => true
  | .callWrite .. => true
  | .callControl .. => true
  | _ => false

/-- The purpose of an operation made of flushes that an event starts. -/
def Event.purpose : Event → Purpose
  | .flush _ => .single
  | .flushAll _ => .drain 0
  | _ => .control

namespace Session

/-- The bytes that an event adds to the outlet under a key, as far as its reply says that they were
taken. -/
def taken (s : Session) (k : Nat) : Event → Reply → Bytes
  | .append j data, .done => if j = k then data else []
  | .write e _ (some data), .code n => if s.serves .outbound e k then data.take n.toNat else []
  | .callWrite e _ (some data), .code n =>
      if s.resolve .outbound e = some k then data.take n.toNat else []
  | .streamWrite e data, .count n => if s.serves .outbound e k then data.take n else []
  | .streamWriteAll e data, .count _ => if s.serves .outbound e k then data else []
  | _, _ => []

/-- The ways in which an event bears on the outlet under a key, with what the event comes to. -/
inductive Outbound (s : Session) (k : Nat) (o : Outlet) (event : Event) (effect : Effect Reply) :
    Prop where
  /-- The outlet is as it was. -/
  | apart (hget : effect.session.outlets.get? k = some o)
      (htaken : s.taken k event effect.value = [])
      (hcalls : ∀ c block, effect.value ≠ .calls (.write k c block))
      (hanswer : ∀ a, event = .writeDone k a → o.flight = none)
  /-- Bytes are added to its queue. -/
  | append (data : Bytes) (hget : effect.session.outlets.get? k = some (o.append data))
      (htaken : s.taken k event effect.value = data)
      (hcalls : ∀ c block, effect.value ≠ .calls (.write k c block))
      (hanswer : ∀ a, event ≠ .writeDone k a)
  /-- An operation made of flushes starts. -/
  | start (hget : effect.session.outlets.get? k = some (o.start event.purpose).1)
      (htaken : s.taken k event effect.value = [])
      (hreply : effect.value =
        (Reply.ofFlush k o.connection event.purpose (o.start event.purpose).2).1)
      (hanswer : ∀ j a, event ≠ .writeDone j a)
  /-- The connection answers to the block in flight, and the operation goes on. -/
  | answer (a : WriteAnswer) (f : Flight) (hevent : event = .writeDone k a)
      (hflight : o.flight = some f)
      (hget : effect.session.outlets.get? k =
        some (((o.land f.block a).1.resume f.purpose (o.land f.block a).2).1))
      (hreply : effect.value =
        (Reply.ofFlush k o.connection f.purpose
          ((o.land f.block a).1.resume f.purpose (o.land f.block a).2).2).1)

/-! ### Events that leave every outlet alone -/

/-- No such event changes an outlet or asks a connection to write. -/
theorem step_of_not_outbound {event : Event} (h : event.isOutbound = false) (s : Session) :
    (s.step event).session.outlets = s.outlets ∧
      ∀ j c block, (s.step event).value ≠ .calls (.write j c block) := by
  cases event with
  | pump k =>
    refine ⟨outlets_pump s k, ?_⟩
    simp only [step, pump]
    split
    · simp
    · split <;> simp
  | readDone k answer =>
    refine ⟨outlets_readDone s k answer, ?_⟩
    simp only [step, readDone]
    split
    · simp
    · split
      · exact fun _ _ _ => ofOutcome_ne_calls _ _
      · simp
  | attach e a =>
    have hattach := (adapters_attach s e a).2
    simp only [step]
    split
    · simp
    · split <;> simp_all
  | disconnect | close | dropDuplex | share | free | setData | setFlags =>
    simp only [step, onPresent]; split <;> simp
  | read e size present =>
    simp only [step]
    split
    · simp
    · next hread => exact ⟨outlets_of_read hread, by simp⟩
  | streamRead e size =>
    simp only [step]
    split
    · simp
    · next hread => exact ⟨outlets_of_streamRead hread, by simp⟩
  | callDestroy side e =>
    simp only [step]
    split
    · split <;> simp
    · simp
  | openInlet | request | markEnded | callRead | callCreate | openForeign | takeSeen =>
    simp only [step]; split <;> simp
  | expectFault c skip => simp [step]
  | _ => simp [Event.isOutbound] at h

theorem taken_of_not_outbound {event : Event} (h : event.isOutbound = false) (s : Session)
    (k : Nat) (reply : Reply) : s.taken k event reply = [] := by
  cases event with
  | append | write | callWrite | streamWrite | streamWriteAll => simp [Event.isOutbound] at h
  | _ => rfl

/-! ### What the engine writes -/

/-- What a write callback adds to the outlet under a key: where the endpoint leads there, as much of
the buffer as the callback returns. -/
theorem get?_outlets_onWrite {s : Session} {k : Nat} {o : Outlet} (hk : s.outlets.get? k = some o)
    (e : Nat) (size : Int) (buffer : Option Bytes) :
    (s.onWrite e size buffer).session.outlets.get? k =
      some (o.append (if s.resolve .outbound e = some k
        then (buffer.getD []).take (s.onWrite e size buffer).value.toNat else [])) := by
  have hnil : o.append [] = o := by simp [Outlet.append]
  rw [onWrite]
  simp only [outletAt?_modifyFlags]
  cases hfound : s.outletAt? e with
  | none => simp [hk, hnil]
  | some found =>
    obtain ⟨j, p⟩ := found
    obtain ⟨hj, hp⟩ := outletAt?_eq_some_iff.mp hfound
    cases hcheck : checkBuffer size buffer.isSome with
    | error reason => simp [hk, hnil]
    | ok n =>
      have hn := checkBuffer_ok hcheck
      by_cases hjk : k = j
      · subst hjk
        cases hk.symm.trans hp
        simp [hj, hn]
      · have : ¬ j = k := fun h => hjk h.symm
        simp [hj, hjk, this, hk, hnil]

theorem outlets_onWrite_of_ne {s : Session} {e k : Nat} (h : s.resolve .outbound e ≠ some k)
    (size : Int) (buffer : Option Bytes) :
    (s.onWrite e size buffer).session.outlets.get? k = s.outlets.get? k := by
  rw [onWrite]
  simp only [outletAt?_modifyFlags]
  cases hfound : s.outletAt? e with
  | none => simp
  | some found =>
    obtain ⟨j, o⟩ := found
    have hne : ¬ k = j := fun hkj => h (hkj ▸ (outletAt?_eq_some_iff.mp hfound).1)
    cases checkBuffer size buffer.isSome <;> simp [hne]

theorem serves_onWrite (s : Session) (e : Nat) (size : Int) (buffer : Option Bytes) (side : Side)
    (j k : Nat) : (s.onWrite e size buffer).session.serves side j k = s.serves side j k := by
  rw [onWrite]
  simp only [outletAt?_modifyFlags]
  cases s.outletAt? e with
  | none => simp
  | some found =>
    cases checkBuffer size buffer.isSome with
    | error reason => simp
    | ok n => exact serves_modifyFlags s e _ side j k

/-- An engine's write through an endpoint that leads to an outlet takes everything. -/
theorem write_of_serves {s : Session} {e k : Nat} {o : Outlet} (hs : s.serves .outbound e k = true)
    (hk : s.outlets.get? k = some o) {size : Int} (hsize : 0 < size) (data : Bytes) :
    ∃ effect, s.write e size (some data) = some effect ∧ effect.value = size ∧
      effect.session.outlets.get? k = some (o.append (data.take size.toNat)) ∧
      effect.session.serves .outbound e k = true := by
  obtain ⟨⟨b, hb, hform⟩, he⟩ := serves_iff.mp hs
  have hcheck : checkBuffer size true = .ok size.toNat := by
    have hneg : ¬ size < 0 := by omega
    have hzero : ¬ size = 0 := by omega
    simp [checkBuffer, hneg, hzero]
  have hvalue : (s.onWrite e size (some data)).value = size := by
    simp [onWrite, outletAt?_eq_some_iff.mpr ⟨he, hk⟩, hcheck]
  have hget := get?_outlets_onWrite hk e size (some data)
  rw [if_pos he, hvalue] at hget
  exact ⟨_, write_adapter hb hform hsize _, hvalue, hget, by rw [serves_onWrite]; exact hs⟩

/-- Whatever its size and buffer, such a write adds as much of the buffer as it returns. -/
theorem get?_outlets_write {s : Session} {e k : Nat} {o : Outlet}
    (hs : s.serves .outbound e k = true) (hk : s.outlets.get? k = some o) {size : Int}
    {buffer : Option Bytes} {effect : Effect Int} (h : s.write e size buffer = some effect) :
    effect.session.outlets.get? k =
      some (o.append ((buffer.getD []).take effect.value.toNat)) := by
  obtain ⟨⟨b, hb, hform⟩, he⟩ := serves_iff.mp hs
  by_cases hsize : 0 < size
  · rw [write_adapter hb hform hsize] at h
    cases h
    rw [get?_outlets_onWrite hk, if_pos he]
  · have hle : size ≤ 0 := by omega
    simp only [write, hb, hform, Endpoint.Form.serves, hle] at h
    cases h
    simp [hk, Outlet.append]

/-- An engine's write through any other endpoint leaves the outlet alone. -/
theorem write_of_not_serves {s : Session} {e k : Nat} (hs : s.serves .outbound e k = false)
    {size : Int} {buffer : Option Bytes} {effect : Effect Int}
    (h : s.write e size buffer = some effect) :
    effect.session.outlets.get? k = s.outlets.get? k ∧
      effect.session.serves .outbound e k = false := by
  rw [write] at h
  split at h
  · cases h
  · next b hb =>
    split at h
    · next hserves =>
      split at h
      · cases h
        exact ⟨rfl, hs⟩
      · cases h
        rw [dispatchWrite]
        split
        · next side hform =>
          have hne : s.resolve .outbound e ≠ some k := by
            intro he
            have hside : side = .outbound := by simpa [hform, Endpoint.Form.serves] using hserves
            have := serves_iff.mpr ⟨⟨b, hb, hside ▸ hform⟩, he⟩
            simp [this] at hs
          exact ⟨outlets_onWrite_of_ne hne _ _, by rw [serves_onWrite]; exact hs⟩
        · split <;> simp [serves, modifyEndpoint, *]
        · simp [serves, modifyEndpoint, hb]
    · cases h

theorem streamWrite_of_serves {s : Session} {e k : Nat} {o : Outlet}
    (hs : s.serves .outbound e k = true) (hk : s.outlets.get? k = some o) {data : Bytes}
    (hdata : data ≠ []) :
    ∃ t log, s.streamWrite e data = some ⟨t, .ok (min data.length largestCount), log⟩ ∧
      t.outlets.get? k = some (o.append (data.take (min data.length largestCount))) ∧
      t.serves .outbound e k = true := by
  have hpos : 0 < data.length := List.length_pos_iff.mpr hdata
  have hsize : (0 : Int) < (min data.length largestCount : Nat) := by
    simp only [largestCount]
    omega
  obtain ⟨effect, hwrite, hvalue, hget, hserves⟩ := write_of_serves hs hk hsize data
  rw [Int.toNat_natCast] at hget
  refine ⟨effect.session, effect.log, ?_, hget, hserves⟩
  have hempty : data.isEmpty = false := by simpa using hdata
  simp only [streamWrite, hempty, hwrite, hvalue, Bool.false_eq_true, if_false, Option.map_some,
    if_true]

theorem streamWrite_of_not_serves {s : Session} {e k : Nat} (hs : s.serves .outbound e k = false)
    {data : Bytes} {effect : Effect (Except IoError Nat)}
    (h : s.streamWrite e data = some effect) :
    effect.session.outlets.get? k = s.outlets.get? k ∧
      effect.session.serves .outbound e k = false := by
  rw [streamWrite] at h
  split at h
  · cases h
    exact ⟨rfl, hs⟩
  · obtain ⟨inner, hwrite, rfl⟩ := Option.map_eq_some_iff.mp h
    split <;> exact write_of_not_serves hs hwrite

theorem streamWriteAll_of_serves {k : Nat} (s : Session) (e : Nat) (data : Bytes) :
    ∀ {o : Outlet}, s.serves .outbound e k = true → s.outlets.get? k = some o →
      ∃ t log, s.streamWriteAll e data = some ⟨t, .ok (), log⟩ ∧
        t.outlets.get? k = some (o.append data) := by
  fun_induction streamWriteAll s e data with
  | case1 s data hempty =>
    intro o hs hk
    have hdata : data = [] := by simpa using hempty
    exact ⟨s, [], rfl, by simp [hk, hdata, Outlet.append]⟩
  | case2 s data hempty hpiece =>
    intro o hs hk
    obtain ⟨t, log, hsome, -⟩ := streamWrite_of_serves hs hk (by simpa using hempty)
    simp [hsome] at hpiece
  | case3 s data hempty t error log hpiece =>
    intro o hs hk
    obtain ⟨t, log, hsome, -⟩ := streamWrite_of_serves hs hk (by simpa using hempty)
    simp [hsome] at hpiece
  | case4 s data hempty t n log hpiece hn ih =>
    intro o hs hk
    obtain ⟨t', log', hsome, hget, hserves⟩ := streamWrite_of_serves hs hk (by simpa using hempty)
    rw [hsome] at hpiece
    cases hpiece
    obtain ⟨u, more, hrest, hgetu⟩ := ih hserves hget
    refine ⟨u, log ++ more, by simp [hrest], ?_⟩
    rw [hgetu]
    simp [Outlet.append, List.append_assoc]
  | case5 s data hempty t n log hpiece hn =>
    intro o hs hk
    obtain ⟨t', log', hsome, -⟩ := streamWrite_of_serves hs hk (by simpa using hempty)
    rw [hsome] at hpiece
    cases hpiece
    have hpos : 0 < data.length := List.length_pos_iff.mpr (by simpa using hempty)
    exact absurd ⟨by simp only [largestCount]; omega, hpos⟩ hn

theorem streamWriteAll_of_not_serves {k : Nat} (s : Session) (e : Nat) (data : Bytes) :
    s.serves .outbound e k = false → ∀ {effect}, s.streamWriteAll e data = some effect →
      effect.session.outlets.get? k = s.outlets.get? k := by
  fun_induction streamWriteAll s e data with
  | case1 => rintro - effect ⟨⟩; rfl
  | case2 => rintro - effect ⟨⟩
  | case3 s data hempty t error log hpiece =>
    rintro hs effect ⟨⟩
    exact (streamWrite_of_not_serves hs hpiece).1
  | case4 s data hempty t n log hpiece hn ih =>
    intro hs effect h
    obtain ⟨inner, hrest, rfl⟩ := Option.map_eq_some_iff.mp h
    obtain ⟨hget, hserves⟩ := streamWrite_of_not_serves hs hpiece
    exact (ih hserves hrest).trans hget
  | case5 s data hempty t n log hpiece hn =>
    rintro hs effect ⟨⟩
    exact (streamWrite_of_not_serves hs hpiece).1

/-! ### Operations made of flushes -/

theorem ofFlush_eq_calls_iff {j k c d : Nat} {purpose : Purpose} {progress : Outlet.Progress}
    {block : Bytes} :
    (Reply.ofFlush j c purpose progress).1 = .calls (.write k d block) ↔
      j = k ∧ c = d ∧ progress = .writing block := by
  cases progress with
  | busy => simp [Reply.ofFlush]
  | ended outcome =>
    cases purpose <;> cases outcome <;> simp [Reply.ofFlush, Reply.ofOutcome]
  | writing offered => simp [Reply.ofFlush]

theorem flushFor_self {s : Session} {k : Nat} {o : Outlet} (hk : s.outlets.get? k = some o)
    (purpose : Purpose) :
    (s.flushFor k purpose).session.outlets.get? k = some (o.start purpose).1 ∧
      (s.flushFor k purpose).value =
        (Reply.ofFlush k o.connection purpose (o.start purpose).2).1 := by
  simp [flushFor, hk, startFlush]

theorem flushFor_of_ne {s : Session} {j k : Nat} (hjk : j ≠ k) (purpose : Purpose) :
    (s.flushFor j purpose).session.outlets.get? k = s.outlets.get? k ∧
      ∀ c block, (s.flushFor j purpose).value ≠ .calls (.write k c block) := by
  rw [flushFor]
  cases hj : s.outlets.get? j with
  | none => simp
  | some p =>
    refine ⟨by simp [startFlush, Ne.symm hjk], fun c block h => ?_⟩
    exact hjk (ofFlush_eq_calls_iff.mp h).1

theorem writeDone_of_ne {s : Session} {j k : Nat} (hjk : j ≠ k) (a : WriteAnswer) :
    (s.writeDone j a).session.outlets.get? k = s.outlets.get? k ∧
      ∀ c block, (s.writeDone j a).value ≠ .calls (.write k c block) := by
  rw [writeDone]
  cases hj : s.outlets.get? j with
  | none => simp
  | some p =>
    cases hanswer : p.answer a with
    | none => simp [hanswer]
    | some found =>
      refine ⟨by simp [hanswer, Ne.symm hjk], fun c block h => ?_⟩
      simp only [hanswer] at h
      exact hjk (ofFlush_eq_calls_iff.mp h).1

theorem writeDone_of_flight {s : Session} {k : Nat} {o : Outlet} {f : Flight}
    (hk : s.outlets.get? k = some o) (hf : o.flight = some f) (a : WriteAnswer) :
    (s.writeDone k a).session.outlets.get? k =
        some ((o.land f.block a).1.resume f.purpose (o.land f.block a).2).1 ∧
      (s.writeDone k a).value =
        (Reply.ofFlush k o.connection f.purpose
          ((o.land f.block a).1.resume f.purpose (o.land f.block a).2).2).1 := by
  have hidle : (o.land f.block a).1.flight = none := by rw [Outlet.land_fst]
  have hconnection : ((o.land f.block a).1.resume f.purpose (o.land f.block a).2).1.connection =
      o.connection := by
    rw [(Outlet.sequel_resume hidle _ _).connection_eq, Outlet.land_fst]
  simp [writeDone, hk, Outlet.answer, hf, hconnection]

theorem writeDone_of_idle {s : Session} {k : Nat} {o : Outlet} (hk : s.outlets.get? k = some o)
    (hf : o.flight = none) (a : WriteAnswer) :
    s.writeDone k a = ⟨s, .unknown, []⟩ := by
  simp [writeDone, hk, Outlet.answer, hf]

/-- A control command starts a flush of the outlet, or it leaves the outlet alone. -/
theorem onWriteControl_cases {s : Session} {k : Nat} {o : Outlet} (hk : s.outlets.get? k = some o)
    (e : Option Nat) (c : Control) :
    ((s.onWriteControl e c).session.outlets.get? k = s.outlets.get? k ∧
        ∀ d block, Reply.ofControl (s.onWriteControl e c).value ≠ .calls (.write k d block)) ∨
      ((s.onWriteControl e c).session.outlets.get? k = some (o.start .control).1 ∧
        Reply.ofControl (s.onWriteControl e c).value =
          (Reply.ofFlush k o.connection .control (o.start .control).2).1) := by
  cases c with
  | flush =>
    cases hfound : e.bind s.outletAt? with
    | none => exact Or.inl (by simp [onWriteControl, hfound, Reply.ofControl])
    | some found =>
      obtain ⟨j, p⟩ := found
      obtain ⟨hsession, hreply⟩ := onWriteControl_flush hfound
      rw [hsession, hreply]
      obtain ⟨e, rfl, he⟩ := Option.bind_eq_some_iff.mp hfound
      have hp := (outletAt?_eq_some_iff.mp he).2
      by_cases hjk : j = k
      · subst hjk
        cases hk.symm.trans hp
        exact Or.inr ⟨by simp, rfl⟩
      · refine Or.inl ⟨by simp [Ne.symm hjk], fun d block h => ?_⟩
        exact hjk (ofFlush_eq_calls_iff.mp h).1
  | _ => exact Or.inl (by simp [onWriteControl, Reply.ofControl])

/-! ### Every event -/

section

variable {s : Session} {k : Nat} {o : Outlet}

/-- An event that leaves the outlet under a key alone. -/
theorem Outbound.of_unchanged {event : Event} {effect : Effect Reply}
    (hk : s.outlets.get? k = some o) (htaken : s.taken k event effect.value = [])
    (hget : effect.session.outlets.get? k = s.outlets.get? k)
    (hcalls : ∀ c block, effect.value ≠ .calls (.write k c block))
    (hanswer : ∀ a, event ≠ .writeDone k a) : Outbound s k o event effect :=
  .apart (hget.trans hk) htaken hcalls fun a ha => absurd ha (hanswer a)

theorem outbound_openOutlet (hk : s.outlets.get? k = some o) (j connection : Nat)
    (release : Bool) :
    Outbound s k o (.openOutlet j connection release)
      (s.step (.openOutlet j connection release)) := by
  simp only [step]
  split
  · exact .of_unchanged hk rfl rfl (by simp) (by simp)
  · next hj =>
    have hjk : ¬ k = j := by
      rintro rfl
      simp [Table.contains, hk] at hj
    exact .of_unchanged hk rfl (by simp [hjk]) (by simp) (by simp)

theorem outbound_openDuplex (hk : s.outlets.get? k = some o) (key : Nat) (keys : DuplexKeys)
    (connection : Nat) (settings : Settings) :
    Outbound s k o (.openDuplex key keys connection settings)
      (s.step (.openDuplex key keys connection settings)) := by
  have houtlets := (adapters_openDuplex s key keys connection settings).2
  simp only [step]
  split
  · exact .of_unchanged hk rfl rfl (by simp) (by simp)
  · next hfresh =>
    have hne : ¬ k = keys.outlet := by
      rintro rfl
      simp [Table.contains, hk] at hfresh
    split
    · exact .of_unchanged hk rfl (by simp_all) (by simp) (by simp)
    · exact .of_unchanged hk rfl (by simp_all) (by simp) (by simp)

theorem outbound_append (hk : s.outlets.get? k = some o) (j : Nat) (data : Bytes) :
    Outbound s k o (.append j data) (s.step (.append j data)) := by
  by_cases hjk : j = k
  · subst hjk
    exact .append data (by simp [step, hk]) (by simp [step, hk, taken]) (by simp [step, hk])
      (by simp)
  · simp only [step]
    cases s.outlets.get? j with
    | none => exact .of_unchanged hk rfl rfl (by simp) (by simp)
    | some p =>
      exact .of_unchanged hk (by simp [taken, hjk]) (by simp [Ne.symm hjk]) (by simp) (by simp)

theorem outbound_flush (hk : s.outlets.get? k = some o) (j : Nat) :
    Outbound s k o (.flush j) (s.step (.flush j)) := by
  by_cases hjk : j = k
  · subst hjk
    obtain ⟨hget, hreply⟩ := flushFor_self hk .single
    exact .start hget rfl hreply (by simp)
  · obtain ⟨hget, hcalls⟩ := flushFor_of_ne (s := s) hjk .single
    exact .of_unchanged hk rfl hget hcalls (by simp)

theorem outbound_flushAll (hk : s.outlets.get? k = some o) (d : Nat) :
    Outbound s k o (.flushAll d) (s.step (.flushAll d)) := by
  simp only [step]
  cases hd : s.duplexes.get? d with
  | none => exact .of_unchanged hk rfl rfl (by simp) (by simp)
  | some duplex =>
    by_cases hjk : duplex.outlet = k
    · obtain ⟨hget, hreply⟩ := flushFor_self hk (.drain 0)
      subst hjk
      exact .start hget rfl hreply (by simp)
    · obtain ⟨hget, hcalls⟩ := flushFor_of_ne (s := s) hjk (.drain 0)
      exact .of_unchanged hk rfl hget hcalls (by simp)

theorem outbound_writeDone (hk : s.outlets.get? k = some o) (j : Nat) (a : WriteAnswer) :
    Outbound s k o (.writeDone j a) (s.step (.writeDone j a)) := by
  by_cases hjk : j = k
  · subst hjk
    cases hf : o.flight with
    | none =>
      rw [step, writeDone_of_idle hk hf]
      exact .apart hk rfl (by simp) fun _ _ => hf
    | some f =>
      obtain ⟨hget, hreply⟩ := writeDone_of_flight hk hf a
      exact .answer a f rfl hf hget hreply
  · obtain ⟨hget, hcalls⟩ := writeDone_of_ne (s := s) hjk a
    exact .of_unchanged hk rfl hget hcalls (by simp [hjk])

theorem outbound_write (hk : s.outlets.get? k = some o) (e : Nat) (size : Int)
    (buffer : Option Bytes) :
    Outbound s k o (.write e size buffer) (s.step (.write e size buffer)) := by
  simp only [step]
  cases hwrite : s.write e size buffer with
  | none => exact .of_unchanged hk (by cases buffer <;> rfl) rfl (by simp) (by simp)
  | some effect =>
    cases hs : s.serves .outbound e k with
    | false =>
      have hget := (write_of_not_serves hs hwrite).1
      exact .of_unchanged hk (by cases buffer <;> simp [taken, hs]) hget (by simp) (by simp)
    | true =>
      have hget := get?_outlets_write hs hk hwrite
      exact .append _ hget (by cases buffer <;> simp [taken, hs]) (by simp) (by simp)

theorem outbound_callWrite (hk : s.outlets.get? k = some o) (e : Nat) (size : Int)
    (buffer : Option Bytes) :
    Outbound s k o (.callWrite e size buffer) (s.step (.callWrite e size buffer)) := by
  simp only [step]
  split
  · exact .append _ (get?_outlets_onWrite hk e size buffer) (by cases buffer <;> simp [taken])
      (by simp) (by simp)
  · exact .of_unchanged hk (by cases buffer <;> rfl) rfl (by simp) (by simp)

theorem outbound_streamWrite (hk : s.outlets.get? k = some o) (e : Nat) (data : Bytes) :
    Outbound s k o (.streamWrite e data) (s.step (.streamWrite e data)) := by
  simp only [step]
  cases hs : s.serves .outbound e k with
  | false =>
    split
    · exact .of_unchanged hk rfl rfl (by simp) (by simp)
    · next hwrite =>
      have hget := (streamWrite_of_not_serves hs hwrite).1
      exact .of_unchanged hk (by simp [taken, hs]) hget (by simp) (by simp)
    · next hwrite =>
      have hget := (streamWrite_of_not_serves hs hwrite).1
      exact .of_unchanged hk rfl hget (by simp) (by simp)
  | true =>
    by_cases hdata : data = []
    · subst hdata
      exact .of_unchanged hk (by simp [streamWrite, taken]) (by simp [streamWrite])
        (by simp [streamWrite]) (by simp)
    · obtain ⟨t, log, hwrite, hget, -⟩ := streamWrite_of_serves hs hk hdata
      simp only [hwrite]
      exact .append _ hget (by simp [taken, hs]) (by simp) (by simp)

theorem outbound_streamWriteAll (hk : s.outlets.get? k = some o) (e : Nat) (data : Bytes) :
    Outbound s k o (.streamWriteAll e data) (s.step (.streamWriteAll e data)) := by
  simp only [step]
  cases hs : s.serves .outbound e k with
  | false =>
    split
    · exact .of_unchanged hk rfl rfl (by simp) (by simp)
    · next hwrite =>
      have hget := streamWriteAll_of_not_serves s e data hs hwrite
      exact .of_unchanged hk (by simp [taken, hs]) hget (by simp) (by simp)
    · next hwrite =>
      have hget := streamWriteAll_of_not_serves s e data hs hwrite
      exact .of_unchanged hk rfl hget (by simp) (by simp)
  | true =>
    obtain ⟨t, log, hwrite, hget⟩ := streamWriteAll_of_serves s e data hs hk
    simp only [hwrite]
    exact .append _ hget (by simp [taken, hs]) (by simp) (by simp)

theorem outbound_control (hk : s.outlets.get? k = some o) (e : Nat) (number : Int) :
    Outbound s k o (.control e number) (s.step (.control e number)) := by
  simp only [step, control]
  cases s.endpoints.get? e with
  | none => exact .of_unchanged hk rfl rfl (by simp) (by simp)
  | some b =>
    obtain ⟨form, data, flags, references⟩ := b
    cases form with
    | adapter side =>
      cases side with
      | inbound => exact .of_unchanged hk rfl rfl (by simp [Reply.ofControl]) (by simp)
      | outbound =>
        rcases onWriteControl_cases hk (some e) (.ofNumber number) with h | h
        · exact .of_unchanged hk rfl h.1 h.2 (by simp)
        · exact .start h.1 rfl h.2 (by simp)
    | memory memory => exact .of_unchanged hk rfl rfl (by simp [Reply.ofControl]) (by simp)
    | scripted script => exact .of_unchanged hk rfl rfl (by simp [Reply.ofControl]) (by simp)

theorem outbound_callControl (hk : s.outlets.get? k = some o) (side : Side) (e : Option Nat)
    (number : Int) :
    Outbound s k o (.callControl side e number) (s.step (.callControl side e number)) := by
  simp only [step]
  split
  · cases side with
    | inbound => exact .of_unchanged hk rfl rfl (by simp) (by simp)
    | outbound =>
      rcases onWriteControl_cases hk e (.ofNumber number) with h | h
      · exact .of_unchanged hk rfl h.1 h.2 (by simp)
      · exact .start h.1 rfl h.2 (by simp)
  · exact .of_unchanged hk rfl rfl (by simp) (by simp)

/-- **Every event bears on an outlet as one of its own operations, or not at all.** -/
theorem outbound_step (hk : s.outlets.get? k = some o) (event : Event) :
    Outbound s k o event (s.step event) := by
  by_cases hevent : event.isOutbound
  · cases event with
    | openOutlet j connection release => exact outbound_openOutlet hk j connection release
    | openDuplex key keys connection settings =>
      exact outbound_openDuplex hk key keys connection settings
    | append j data => exact outbound_append hk j data
    | flush j => exact outbound_flush hk j
    | flushAll d => exact outbound_flushAll hk d
    | writeDone j a => exact outbound_writeDone hk j a
    | write e size buffer => exact outbound_write hk e size buffer
    | callWrite e size buffer => exact outbound_callWrite hk e size buffer
    | streamWrite e data => exact outbound_streamWrite hk e data
    | streamWriteAll e data => exact outbound_streamWriteAll hk e data
    | control e number => exact outbound_control hk e number
    | callControl side e number => exact outbound_callControl hk side e number
    | _ => simp [Event.isOutbound] at hevent
  · have hquiet : event.isOutbound = false := by simpa using hevent
    obtain ⟨houtlets, hcalls⟩ := step_of_not_outbound hquiet s
    refine .of_unchanged hk ?_ (by rw [houtlets]) (hcalls k) ?_
    · exact taken_of_not_outbound hquiet s k _
    · rintro a rfl
      simp [Event.isOutbound] at hquiet

end

end Session

end Conduit

import Conduit.Proofs.Inlet.Ledger
import Conduit.Proofs.Session.Frame
import Conduit.Proofs.Session.Serving
/-!
# What an event does to an inlet

Every event of a session, read as what it does to the inlet under one key: nothing, a mark at the
end of the stream, bytes taken off the front of the buffer, the start of a pump, or the
connection's answer. `inbound_step` says so once for all events.

What the engine reads through an endpoint was handed on by the inlet to which the token in the
endpoint leads at the time of the call. The engine passes a read on only if the endpoint has the
callback; a callback that is called directly asks nothing but the token.

## Main definitions

* `Conduit.Session.given`: the bytes that an event hands on from an inlet, according to its reply.
* `Conduit.Session.Inbound`: the ways in which an event bears on an inlet.

## Main results

* `onRead_takes`: what a read callback hands on comes off the front of the buffer.
* `inbound_step`: every event bears on an inlet in one of these ways.
-/

namespace Conduit

/-- Whether an event can bear on an inlet at all. -/
def Event.isInbound : Event → Bool
  | .openInlet .. => true
  | .request .. => true
  | .markEnded .. => true
  | .pump .. => true
  | .readDone .. => true
  | .openDuplex .. => true
  | .read .. => true
  | .streamRead .. => true
  | .callRead .. => true
  | _ => false

namespace Session

/-- The bytes that an event hands on from the inlet under a key, according to its reply. -/
def given (s : Session) (k : Nat) : Event → Reply → Bytes
  | .request j _, .readiness (.ready bytes) => if j = k then bytes else []
  | .read e _ _, .transfer t => if s.serves .inbound e k then t.bytes else []
  | .streamRead e _, .transfer t => if s.serves .inbound e k then t.bytes else []
  | .callRead e _ _, .transfer t => if s.resolve .inbound e = some k then t.bytes else []
  | _, _ => []

/-- The ways in which an event bears on the inlet under a key, with what the event comes to. -/
inductive Inbound (s : Session) (k : Nat) (i : Inlet) (event : Event) (effect : Effect Reply) :
    Prop where
  /-- The inlet is as it was. -/
  | apart (hget : effect.session.inlets.get? k = some i)
      (hgiven : s.given k event effect.value = [])
      (hcalls : ∀ c room, effect.value ≠ .calls (.read k c room))
      (hanswer : ∀ a, event = .readDone k a → i.reading = false)
  /-- The end of the stream is marked. -/
  | mark (hget : effect.session.inlets.get? k = some i.markEnded)
      (hgiven : s.given k event effect.value = [])
      (hcalls : ∀ c room, effect.value ≠ .calls (.read k c room))
      (hanswer : ∀ a, event ≠ .readDone k a)
      (hevent : event = .markEnded k)
  /-- Bytes are handed on from the front of the buffer. -/
  | take (n : Nat)
      (hget : effect.session.inlets.get? k = some { i with buffer := i.buffer.drop n })
      (hgiven : s.given k event effect.value = i.buffer.take n)
      (hcalls : ∀ c room, effect.value ≠ .calls (.read k c room))
      (hanswer : ∀ a, event ≠ .readDone k a)
  /-- A pump starts. -/
  | pump (hevent : event = .pump k) (hreading : i.reading = false)
      (hsize : i.recordSize ≤ largestRoom)
      (hget : effect.session.inlets.get? k = some { i with reading := true })
      (hreply : effect.value = .calls (.read k i.connection (emptyRoom i.recordSize)))
  /-- The connection answers to the room that it was offered. -/
  | answer (a : ReadAnswer) (hevent : event = .readDone k a) (hreading : i.reading = true)
      (hget : effect.session.inlets.get? k = some (i.endPump a).1)
      (hreply : effect.value = .ofOutcome (i.endPump a).2.1)

/-! ### Events that leave every inlet alone -/

theorem ofFlush_ne_calls_read (j c d : Nat) (purpose : Purpose) (progress : Outlet.Progress)
    (k : Nat) (room : Bytes) :
    (Reply.ofFlush j c purpose progress).1 ≠ .calls (.read k d room) := by
  cases progress with
  | busy => simp [Reply.ofFlush]
  | ended outcome =>
    cases purpose <;> cases outcome <;> simp [Reply.ofFlush, Reply.ofOutcome]
  | writing block => simp [Reply.ofFlush]

theorem ofControl_ne_calls_read (progress : ControlProgress) (k c : Nat) (room : Bytes) :
    Reply.ofControl progress ≠ .calls (.read k c room) := by
  cases progress <;> simp [Reply.ofControl]

theorem flushFor_ne_calls_read (s : Session) (j : Nat) (purpose : Purpose) (k c : Nat)
    (room : Bytes) : (s.flushFor j purpose).value ≠ .calls (.read k c room) := by
  rw [flushFor]
  split
  · simp
  · exact ofFlush_ne_calls_read j _ c purpose _ k room

theorem writeDone_ne_calls_read (s : Session) (j : Nat) (a : WriteAnswer) (k c : Nat)
    (room : Bytes) : (s.writeDone j a).value ≠ .calls (.read k c room) := by
  rw [writeDone]
  split
  · simp
  · split
    · simp
    · exact ofFlush_ne_calls_read j _ c _ _ k room

/-- No such event changes an inlet or asks a connection to read. -/
theorem step_of_not_inbound {event : Event} (h : event.isInbound = false) (s : Session) :
    (s.step event).session.inlets = s.inlets ∧
      ∀ j c room, (s.step event).value ≠ .calls (.read j c room) := by
  cases event with
  | flush k => exact ⟨inlets_flushFor s k .single, flushFor_ne_calls_read s k .single⟩
  | flushAll k =>
    simp only [step]
    split
    · simp
    · next d _ =>
      exact ⟨inlets_flushFor s d.outlet (.drain 0), flushFor_ne_calls_read s d.outlet (.drain 0)⟩
  | writeDone k a => exact ⟨inlets_writeDone s k a, writeDone_ne_calls_read s k a⟩
  | attach e a =>
    have hattach := (adapters_attach s e a).1
    simp only [step]
    split
    · simp
    · split <;> simp_all
  | disconnect | close | dropDuplex | share | free | setData | setFlags =>
    simp only [step, onPresent]; split <;> simp
  | write e size buffer =>
    simp only [step]
    split
    · simp
    · next hwrite => exact ⟨inlets_of_write hwrite, by simp⟩
  | control e number =>
    simp only [step]
    split
    · simp
    · next hcontrol => exact ⟨inlets_of_control hcontrol, ofControl_ne_calls_read _⟩
  | streamWrite e data =>
    simp only [step]
    split
    · simp
    · next hwrite => exact ⟨inlets_of_streamWrite hwrite, by simp⟩
    · next hwrite => exact ⟨inlets_of_streamWrite hwrite, by simp⟩
  | streamWriteAll e data =>
    simp only [step]
    split
    · simp
    · next hwrite => exact ⟨inlets_of_streamWriteAll hwrite, by simp⟩
    · next hwrite => exact ⟨inlets_of_streamWriteAll hwrite, by simp⟩
  | callControl side e number =>
    simp only [step]
    split
    · cases side with
      | inbound => simp
      | outbound => exact ⟨inlets_onWriteControl s e _, ofControl_ne_calls_read _⟩
    · simp
  | callDestroy side e =>
    simp only [step]
    split
    · split <;> simp
    · simp
  | openOutlet | append | callWrite | callCreate | openForeign | takeSeen =>
    simp only [step]; split <;> simp
  | expectFault c skip => simp [step]
  | _ => simp [Event.isInbound] at h

theorem given_of_not_inbound {event : Event} (h : event.isInbound = false) (s : Session) (k : Nat)
    (reply : Reply) : s.given k event reply = [] := by
  cases event with
  | request | read | streamRead | callRead => simp [Event.isInbound] at h
  | _ => rfl

/-! ### What the engine reads -/

/-- Where an endpoint leads to the inlet under a key, a read callback hands on some bytes off the
front of its buffer; otherwise it leaves that inlet alone. -/
theorem onRead_takes {s : Session} {k : Nat} {i : Inlet} (hk : s.inlets.get? k = some i) (e : Nat)
    (size : Int) (present : Bool) :
    ∃ n, (s.onRead e size present).session.inlets.get? k =
        some { i with buffer := i.buffer.drop n } ∧
      (if s.resolve .inbound e = some k then (s.onRead e size present).value.bytes else []) =
        i.buffer.take n := by
  have hnone : ∃ n, s.inlets.get? k = some { i with buffer := i.buffer.drop n } ∧
      [] = i.buffer.take n := ⟨0, by simp [hk], rfl⟩
  rw [onRead]
  simp only [inletAt?_modifyFlags]
  cases hfound : s.inletAt? e with
  | none => simpa using hnone
  | some found =>
    obtain ⟨j, p⟩ := found
    obtain ⟨hj, hp⟩ := inletAt?_eq_some_iff.mp hfound
    cases checkBuffer size present with
    | error reason => simpa using hnone
    | ok n =>
      by_cases hpeek : n = 0 ∧ 0 < p.pending
      · simpa [hpeek] using hnone
      · simp only [hpeek, if_false]
        by_cases hempty : p.buffer = []
        · rw [Inlet.request_of_empty hempty]
          cases p.ended <;> simpa using hnone
        · rw [Inlet.request_of_buffered hempty]
          by_cases hjk : j = k
          · subst hjk
            cases hk.symm.trans hp
            exact ⟨n, by simp [hj]⟩
          · simpa [hj, hjk, Ne.symm hjk] using hnone

theorem inlets_onRead_of_ne {s : Session} {e k : Nat} (h : s.resolve .inbound e ≠ some k)
    {i : Inlet} (hk : s.inlets.get? k = some i) (size : Int) (present : Bool) :
    (s.onRead e size present).session.inlets.get? k = some i := by
  obtain ⟨n, hget, hbytes⟩ := onRead_takes hk e size present
  rw [if_neg h] at hbytes
  have hdrop := List.take_append_drop n i.buffer
  rw [← hbytes, List.nil_append] at hdrop
  rw [hget, hdrop]

theorem toCount_of_le {n : Nat} (h : n ≤ largestCount) : toCount n = n := by
  rw [toCount]
  omega

/-- A read of a proper size returns the number of bytes that it hands on, unless that is none. -/
theorem onRead_code (s : Session) (e : Nat) {n : Nat} (hpos : 0 < n) (hle : n ≤ largestCount) :
    (s.onRead e n true).value.code.toNat = (s.onRead e n true).value.bytes.length ∧
      (s.onRead e n true).value.code ≤ n := by
  have hcheck : checkBuffer n true = .ok n := by
    have hneg : ¬ (n : Int) < 0 := by omega
    have hzero : ¬ (n : Int) = 0 := by omega
    rw [checkBuffer, if_neg hneg, if_neg hzero, if_pos rfl, Int.toNat_natCast]
  have hne : ¬ n = 0 := by omega
  rw [onRead]
  simp only [inletAt?_modifyFlags]
  cases s.inletAt? e with
  | none =>
    refine ⟨rfl, ?_⟩
    change (-1 : Int) ≤ n
    omega
  | some found =>
    obtain ⟨j, p⟩ := found
    simp only [hcheck, hne, false_and, if_false]
    by_cases hempty : p.buffer = []
    · rw [Inlet.request_of_empty hempty]
      cases p.ended
      · refine ⟨rfl, ?_⟩
        change (-1 : Int) ≤ n
        omega
      · exact ⟨rfl, Int.natCast_nonneg n⟩
    · rw [Inlet.request_of_buffered hempty]
      have hlength : (p.buffer.take n).length ≤ n := List.length_take_le n p.buffer
      have hcount := toCount_of_le (Nat.le_trans hlength hle)
      change (toCount (p.buffer.take n).length).toNat = (p.buffer.take n).length ∧
        toCount (p.buffer.take n).length ≤ n
      rw [hcount]
      exact ⟨Int.toNat_natCast _, Int.ofNat_le.mpr hlength⟩

/-- An engine's read through an endpoint that leads to an inlet is the callback, or it does nothing
at all. -/
theorem read_of_serves {s : Session} {e k : Nat} (hs : s.serves .inbound e k = true)
    {size : Int} {present : Bool} {effect : Effect Transfer}
    (h : s.read e size present = some effect) :
    (effect.session = s ∧ effect.value.bytes = []) ∨
      effect = { s.onRead e size present with
        value := (s.onRead e size present).value.checked size } := by
  obtain ⟨⟨b, hb, hform⟩, -⟩ := serves_iff.mp hs
  by_cases hsize : 0 ≤ size
  · rw [read_adapter hb hform hsize] at h
    cases h
    exact Or.inr rfl
  · have hneg : size < 0 := by omega
    simp only [read, hb, hform, Endpoint.Form.serves, hneg] at h
    cases h
    exact Or.inl ⟨rfl, rfl⟩

theorem bytes_checked (t : Transfer) (size : Int) : (t.checked size).bytes = t.bytes := by
  rw [Transfer.checked]
  split <;> rfl

/-- An engine's read through any other endpoint leaves the inlet alone. -/
theorem read_of_not_serves {s : Session} {e k : Nat} (hs : s.serves .inbound e k = false)
    {i : Inlet} (hk : s.inlets.get? k = some i) {size : Int} {present : Bool}
    {effect : Effect Transfer} (h : s.read e size present = some effect) :
    effect.session.inlets.get? k = some i := by
  rw [read] at h
  split at h
  · cases h
  · next b hb =>
    split at h
    · next hserves =>
      split at h
      · cases h
        exact hk
      · cases h
        rw [dispatchRead]
        split
        · next side hform =>
          have hne : s.resolve .inbound e ≠ some k := by
            intro he
            have hside : side = .inbound := by simpa [hform, Endpoint.Form.serves] using hserves
            have := serves_iff.mpr ⟨⟨b, hb, hside ▸ hform⟩, he⟩
            simp [this] at hs
          exact inlets_onRead_of_ne hne hk size present
        · exact hk
        · exact hk
    · cases h

/-! ### Every event -/

section

variable {s : Session} {k : Nat} {i : Inlet}

/-- An event that leaves the inlet under a key alone. -/
theorem Inbound.of_unchanged {event : Event} {effect : Effect Reply}
    (hgiven : s.given k event effect.value = [])
    (hget : effect.session.inlets.get? k = some i)
    (hcalls : ∀ c room, effect.value ≠ .calls (.read k c room))
    (hanswer : ∀ a, event ≠ .readDone k a) : Inbound s k i event effect :=
  .apart hget hgiven hcalls fun a ha => absurd ha (hanswer a)

theorem inbound_openInlet (hk : s.inlets.get? k = some i) (j connection : Nat) (release : Bool)
    (sizes : List Nat) :
    Inbound s k i (.openInlet j connection release sizes)
      (s.step (.openInlet j connection release sizes)) := by
  simp only [step]
  split
  · exact .of_unchanged rfl hk (by simp) (by simp)
  · next hj =>
    have hjk : ¬ k = j := by
      rintro rfl
      simp [Table.contains, hk] at hj
    exact .of_unchanged rfl (by simp [hjk, hk]) (by simp) (by simp)

theorem inbound_openDuplex (hk : s.inlets.get? k = some i) (key : Nat) (keys : DuplexKeys)
    (connection : Nat) (settings : Settings) :
    Inbound s k i (.openDuplex key keys connection settings)
      (s.step (.openDuplex key keys connection settings)) := by
  have hinlets := (adapters_openDuplex s key keys connection settings).1
  simp only [step]
  split
  · exact .of_unchanged rfl hk (by simp) (by simp)
  · next hfresh =>
    have hne : ¬ k = keys.inlet := by
      rintro rfl
      simp [Table.contains, hk] at hfresh
    split
    · exact .of_unchanged rfl (by simp_all) (by simp) (by simp)
    · exact .of_unchanged rfl (by simp_all) (by simp) (by simp)

/-- A request hands on what there is, up to its size. -/
theorem request_given (hk : s.inlets.get? k = some i) (size : Nat) :
    s.given k (.request k size) (s.step (.request k size)).value = i.buffer.take size := by
  simp only [step, hk]
  by_cases hempty : i.buffer = []
  · rw [Inlet.request_of_empty hempty]
    cases i.ended <;> simp [given, hempty]
  · simp [Inlet.request_of_buffered hempty, given]

theorem inbound_request (hk : s.inlets.get? k = some i) (j size : Nat) :
    Inbound s k i (.request j size) (s.step (.request j size)) := by
  by_cases hjk : j = k
  · subst hjk
    exact .take size (by simp [step, hk, Inlet.request_snd]) (request_given hk size)
      (by simp [step, hk]) (by simp)
  · simp only [step]
    cases s.inlets.get? j with
    | none => exact .of_unchanged rfl hk (by simp) (by simp)
    | some p =>
      refine .of_unchanged ?_ (by simp [Ne.symm hjk, hk]) (by simp) (by simp)
      simp only [given]
      split <;> simp_all

theorem inbound_markEnded (hk : s.inlets.get? k = some i) (j : Nat) :
    Inbound s k i (.markEnded j) (s.step (.markEnded j)) := by
  by_cases hjk : j = k
  · subst hjk
    exact .mark (by simp [step, hk]) rfl (by simp [step, hk]) (by simp) rfl
  · simp only [step]
    cases s.inlets.get? j with
    | none => exact .of_unchanged rfl hk (by simp) (by simp)
    | some p => exact .of_unchanged rfl (by simp [Ne.symm hjk, hk]) (by simp) (by simp)

/-- Whether a pump is asked for while another is in progress, cannot find storage or starts. -/
theorem pump_cases (hk : s.inlets.get? k = some i) :
    (i.reading = true ∧ s.pump k = ⟨s, .busy, []⟩) ∨
    (i.reading = false ∧ largestRoom < i.recordSize ∧
      s.pump k = ⟨s, .panicked (.text "capacity overflow"), []⟩) ∨
    (i.reading = false ∧ i.recordSize ≤ largestRoom ∧
      s.pump k = ⟨s.putInlet k { i with reading := true },
        .calls (.read k i.connection (emptyRoom i.recordSize)), []⟩) := by
  cases hreading : i.reading with
  | true => exact Or.inl ⟨rfl, by simp [pump, hk, Inlet.beginPump, hreading]⟩
  | false =>
    by_cases hsize : largestRoom < i.recordSize
    · exact Or.inr (Or.inl ⟨rfl, hsize, by simp [pump, hk, Inlet.beginPump, hreading, hsize]⟩)
    · exact Or.inr (Or.inr ⟨rfl, Nat.le_of_not_lt hsize,
        by simp [pump, hk, Inlet.beginPump, hreading, hsize]⟩)

theorem inbound_pump (hk : s.inlets.get? k = some i) (j : Nat) :
    Inbound s k i (.pump j) (s.step (.pump j)) := by
  simp only [step]
  by_cases hjk : j = k
  · subst hjk
    rcases pump_cases hk with ⟨-, hpump⟩ | ⟨-, -, hpump⟩ | ⟨hreading, hsize, hpump⟩
    · rw [hpump]
      exact .of_unchanged rfl hk (by simp) (by simp)
    · rw [hpump]
      exact .of_unchanged rfl hk (by simp) (by simp)
    · rw [hpump]
      exact .pump rfl hreading hsize (by simp) rfl
  · cases hj : s.inlets.get? j with
    | none =>
      have hpump : s.pump j = ⟨s, .unknown, []⟩ := by simp [pump, hj]
      rw [hpump]
      exact .of_unchanged rfl hk (by simp) (by simp)
    | some p =>
      rcases pump_cases hj with ⟨-, hpump⟩ | ⟨-, -, hpump⟩ | ⟨-, -, hpump⟩
      · rw [hpump]
        exact .of_unchanged rfl hk (by simp) (by simp)
      · rw [hpump]
        exact .of_unchanged rfl hk (by simp) (by simp)
      · rw [hpump]
        exact .of_unchanged rfl (by simp [Ne.symm hjk, hk]) (by simp [hjk]) (by simp)

theorem readDone_of_reading (hk : s.inlets.get? k = some i) (hreading : i.reading = true)
    (a : ReadAnswer) :
    s.readDone k a =
      ⟨s.putInlet k (i.endPump a).1, .ofOutcome (i.endPump a).2.1, (i.endPump a).2.2⟩ := by
  simp [readDone, hk, hreading]

theorem readDone_of_idle (hk : s.inlets.get? k = some i) (hreading : i.reading = false)
    (a : ReadAnswer) : s.readDone k a = ⟨s, .unknown, []⟩ := by
  simp [readDone, hk, hreading]

theorem inbound_readDone (hk : s.inlets.get? k = some i) (j : Nat) (a : ReadAnswer) :
    Inbound s k i (.readDone j a) (s.step (.readDone j a)) := by
  simp only [step]
  by_cases hjk : j = k
  · subst hjk
    cases hreading : i.reading with
    | true =>
      rw [readDone_of_reading hk hreading]
      exact .answer a rfl hreading (by simp) rfl
    | false =>
      rw [readDone_of_idle hk hreading]
      exact .apart hk rfl (by simp) fun _ _ => hreading
  · cases hj : s.inlets.get? j with
    | none =>
      have hdone : s.readDone j a = ⟨s, .unknown, []⟩ := by simp [readDone, hj]
      rw [hdone]
      exact .of_unchanged rfl hk (by simp) (by simp [hjk])
    | some p =>
      cases hreading : p.reading with
      | true =>
        rw [readDone_of_reading hj hreading]
        exact .of_unchanged rfl (by simp [Ne.symm hjk, hk]) (fun _ _ => ofOutcome_ne_calls _ _)
          (by simp [hjk])
      | false =>
        rw [readDone_of_idle hj hreading]
        exact .of_unchanged rfl hk (by simp) (by simp [hjk])

theorem inbound_callRead (hk : s.inlets.get? k = some i) (e : Nat) (size : Int)
    (present : Bool) :
    Inbound s k i (.callRead e size present) (s.step (.callRead e size present)) := by
  simp only [step]
  split
  · obtain ⟨n, hget, hbytes⟩ := onRead_takes hk e size present
    exact .take n hget hbytes (by simp) (by simp)
  · exact .of_unchanged rfl hk (by simp) (by simp)

theorem inbound_read (hk : s.inlets.get? k = some i) (e : Nat) (size : Int) (present : Bool) :
    Inbound s k i (.read e size present) (s.step (.read e size present)) := by
  simp only [step]
  cases hread : s.read e size present with
  | none => exact .of_unchanged rfl hk (by simp) (by simp)
  | some effect =>
    cases hs : s.serves .inbound e k with
    | false =>
      exact .of_unchanged (by simp [given, hs]) (read_of_not_serves hs hk hread) (by simp)
        (by simp)
    | true =>
      rcases read_of_serves hs hread with ⟨hsession, hbytes⟩ | rfl
      · exact .of_unchanged (by simp [given, hbytes]) (by simp [hsession, hk]) (by simp) (by simp)
      · obtain ⟨n, hget, hbytes⟩ := onRead_takes hk e size present
        rw [if_pos (serves_iff.mp hs).2] at hbytes
        exact .take n hget (by simp [given, hs, bytes_checked, hbytes]) (by simp) (by simp)

theorem fill_of_length_eq {room written : Bytes} (h : room.length = written.length) :
    fill room written = written := by
  rw [fill, h, List.take_length, ← h, List.drop_length, List.append_nil]

/-- As a stream, an endpoint yields just the bytes that the callback hands on. -/
theorem streamRead_of_serves {e : Nat} (hs : s.serves .inbound e k = true) {size : Nat}
    (hsize : size ≠ 0) :
    s.streamRead e size =
      some ⟨(s.onRead e (toCount size) true).session, (s.onRead e (toCount size) true).value.bytes,
        (s.onRead e (toCount size) true).log⟩ := by
  obtain ⟨⟨b, hb, hform⟩, -⟩ := serves_iff.mp hs
  have hcount : toCount size = ((min size largestCount : Nat) : Int) := by
    rw [toCount]
    omega
  have hpos : 0 < min size largestCount := by
    simp only [largestCount]
    omega
  obtain ⟨hcode, hle⟩ := onRead_code s e hpos (Nat.min_le_right size largestCount)
  have hchecked : ((s.onRead e (min size largestCount : Nat) true).value).checked
      (min size largestCount : Nat) = (s.onRead e (min size largestCount : Nat) true).value :=
    if_neg (Int.not_lt.mpr hle)
  rw [streamRead, if_neg hsize, hcount, read_adapter hb hform (Int.natCast_nonneg _), hchecked]
  simp only [Option.map_some]
  rw [fill_of_length_eq (by rw [length_emptyRoom, hcode])]

theorem inbound_streamRead (hk : s.inlets.get? k = some i) (e size : Nat) :
    Inbound s k i (.streamRead e size) (s.step (.streamRead e size)) := by
  simp only [step]
  by_cases hsize : size = 0
  · subst hsize
    exact .of_unchanged (by simp [streamRead, given]) (by simp [streamRead, hk])
      (by simp [streamRead]) (by simp)
  · cases hs : s.serves .inbound e k with
    | false =>
      cases hread : s.streamRead e size with
      | none => exact .of_unchanged rfl hk (by simp) (by simp)
      | some effect =>
        rw [streamRead, if_neg hsize] at hread
        obtain ⟨inner, hinner, rfl⟩ := Option.map_eq_some_iff.mp hread
        exact .of_unchanged (by simp [given, hs]) (read_of_not_serves hs hk hinner) (by simp)
          (by simp)
    | true =>
      rw [streamRead_of_serves hs hsize]
      obtain ⟨n, hget, hbytes⟩ := onRead_takes hk e (toCount size) true
      rw [if_pos (serves_iff.mp hs).2] at hbytes
      exact .take n hget (by simp [given, hs, hbytes]) (by simp) (by simp)

/-- **Every event bears on an inlet as one of its own operations, or not at all.** -/
theorem inbound_step (hk : s.inlets.get? k = some i) (event : Event) :
    Inbound s k i event (s.step event) := by
  by_cases hevent : event.isInbound
  · cases event with
    | openInlet j connection release sizes =>
      exact inbound_openInlet hk j connection release sizes
    | openDuplex key keys connection settings =>
      exact inbound_openDuplex hk key keys connection settings
    | request j size => exact inbound_request hk j size
    | markEnded j => exact inbound_markEnded hk j
    | pump j => exact inbound_pump hk j
    | readDone j a => exact inbound_readDone hk j a
    | read e size present => exact inbound_read hk e size present
    | streamRead e size => exact inbound_streamRead hk e size
    | callRead e size present => exact inbound_callRead hk e size present
    | _ => simp [Event.isInbound] at hevent
  · have hquiet : event.isInbound = false := by simpa using hevent
    obtain ⟨hinlets, hcalls⟩ := step_of_not_inbound hquiet s
    refine .of_unchanged ?_ (by rw [hinlets, hk]) (hcalls k) ?_
    · exact given_of_not_inbound hquiet s k _
    · rintro a rfl
      simp [Event.isInbound] at hquiet

end

end Session

end Conduit

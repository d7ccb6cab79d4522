import Conduit.Proofs.Session.Paths
import Conduit.Proofs.Session.Reaching
/-!
# Calls of the engine that come to nothing

The engine may call at any time and with anything: on an endpoint whose adapter has gone, with a
size below zero, without a buffer, with a command that means nothing. Such a call fails, and what
matters then is what it has done by the time it fails. Its retry flags are cleared before anything
is checked, since the engine reads them after every call; nothing else has changed, and no
connection has been called.

The same holds of a read that has nothing to hand on. The other way round, a callback that finds its
adapter and is given proper arguments does not fail: a read that returns an error asks to be tried
again, and a write takes everything.

Among the control commands only a flush does anything at all. One whose write fails is undone: the
block goes back to the front of the queue, ahead of what was appended in the meantime.

## Main definitions

* `Conduit.Improper`: a size and a buffer that a callback turns down.
* `Conduit.Session.OnlyFlags`: nothing but the flags of one endpoint differs.
* `Conduit.Session.FailuresHarmless`: what failing calls leave alone.

## Main results

* `failures_harmless`: calls of the engine that fail leave everything alone.
-/

namespace Conduit

/-- A size and a buffer that a callback turns down: the size is negative, or bytes are to be moved
and there is no buffer for them. -/
def Improper (size : Int) (present : Bool) : Prop := size < 0 ∨ 0 < size ∧ present = false

theorem Improper.check {size : Int} {present : Bool} (h : Improper size present) :
    ∃ reason, checkBuffer size present = .error reason := by
  rcases h with hneg | ⟨hpos, rfl⟩
  · exact ⟨_, if_pos hneg⟩
  · have hneg : ¬ size < 0 := by omega
    have hzero : ¬ size = 0 := by omega
    exact ⟨.invalidArgument "null buffer", by simp [checkBuffer, hneg, hzero]⟩

/-- Any other size and buffer is accepted. -/
theorem check_of_not_improper {size : Int} {present : Bool} (h : ¬ Improper size present) :
    checkBuffer size present = .ok size.toNat := by
  simp only [Improper, not_or, not_and, Bool.not_eq_false] at h
  rw [checkBuffer, if_neg h.1]
  split
  · next hzero => rw [hzero, Int.toNat_zero]
  · next hzero => rw [if_pos (h.2 (by omega))]

/-- An endpoint without its flags. -/
def Endpoint.unflagged (b : Endpoint) : Endpoint := { b with flags := {} }

namespace Session

variable {s t u : Session} {e k : Nat}

/-- A session differs from another in nothing but the flags of one endpoint. -/
structure OnlyFlags (s : Session) (e : Nat) (t : Session) : Prop where
  engine : t.engine = s.engine
  inlets : t.inlets = s.inlets
  outlets : t.outlets = s.outlets
  duplexes : t.duplexes = s.duplexes
  rosters : ∀ side, t.roster side = s.roster side
  elsewhere : ∀ j, j ≠ e → t.endpoints.get? j = s.endpoints.get? j
  here : (t.endpoints.get? e).map Endpoint.unflagged = (s.endpoints.get? e).map Endpoint.unflagged

theorem OnlyFlags.trans (hst : s.OnlyFlags e t) (htu : t.OnlyFlags e u) : s.OnlyFlags e u where
  engine := htu.engine.trans hst.engine
  inlets := htu.inlets.trans hst.inlets
  outlets := htu.outlets.trans hst.outlets
  duplexes := htu.duplexes.trans hst.duplexes
  rosters side := (htu.rosters side).trans (hst.rosters side)
  elsewhere j hj := (htu.elsewhere j hj).trans (hst.elsewhere j hj)
  here := htu.here.trans hst.here

theorem onlyFlags_modifyFlags (s : Session) (e : Nat) (f : Flags → Flags) :
    s.OnlyFlags e (s.modifyFlags e f) where
  engine := rfl
  inlets := rfl
  outlets := rfl
  duplexes := rfl
  rosters := roster_modifyEndpoint s e _
  elsewhere := by
    intro j hj
    rw [modifyFlags, modifyEndpoint, Table.get?_modify, if_neg hj]
  here := by
    rw [modifyFlags, modifyEndpoint, Table.get?_modify, if_pos rfl]
    cases s.endpoints.get? e <;> rfl

/-- A callback has cleared its retry flags and done nothing else. -/
structure Cleared (s : Session) (e : Nat) (t : Session) : Prop where
  rest : s.OnlyFlags e t
  flags : ∀ b, t.endpoints.get? e = some b → b.flags.low = 0

theorem cleared_modifyFlags (s : Session) (e : Nat) :
    s.Cleared e (s.modifyFlags e Flags.clearRetry) where
  rest := onlyFlags_modifyFlags s e _
  flags := by
    intro b hb
    rw [modifyFlags, modifyEndpoint, Table.get?_modify, if_pos rfl] at hb
    obtain ⟨c, -, rfl⟩ := Option.map_eq_some_iff.mp hb
    rfl

/-! ### Callbacks that fail -/

theorem onRead_of_failing {size : Int} {present : Bool}
    (h : Improper size present ∨ s.inletAt? e = none) :
    (s.onRead e size present).value = ⟨-1, []⟩ ∧
      s.Cleared e (s.onRead e size present).session := by
  rw [onRead]
  simp only [inletAt?_modifyFlags]
  cases hfound : s.inletAt? e with
  | none => exact ⟨rfl, cleared_modifyFlags s e⟩
  | some found =>
    obtain ⟨reason, hcheck⟩ := (h.resolve_right (by simp [hfound])).check
    simp only [hcheck]
    exact ⟨trivial, cleared_modifyFlags s e⟩

theorem onWrite_of_failing {size : Int} {buffer : Option Bytes}
    (h : Improper size buffer.isSome ∨ s.outletAt? e = none) :
    (s.onWrite e size buffer).value = -1 ∧ s.Cleared e (s.onWrite e size buffer).session := by
  rw [onWrite]
  simp only [outletAt?_modifyFlags]
  cases hfound : s.outletAt? e with
  | none => exact ⟨rfl, cleared_modifyFlags s e⟩
  | some found =>
    obtain ⟨reason, hcheck⟩ := (h.resolve_right (by simp [hfound])).check
    simp only [hcheck]
    exact ⟨trivial, cleared_modifyFlags s e⟩

/-- A read that hands nothing on has touched nothing but flags. -/
theorem onlyFlags_onRead {size : Int} {present : Bool}
    (h : (s.onRead e size present).value.code ≤ 0) :
    s.OnlyFlags e (s.onRead e size present).session := by
  have hcleared := (cleared_modifyFlags s e).rest
  rw [onRead] at h ⊢
  simp only [inletAt?_modifyFlags] at h ⊢
  cases hfound : s.inletAt? e with
  | none => exact hcleared
  | some found =>
    obtain ⟨k, i⟩ := found
    simp only [hfound] at h
    cases hcheck : checkBuffer size present with
    | error reason => exact hcleared
    | ok n =>
      simp only [hcheck] at h ⊢
      by_cases hpeek : n = 0 ∧ 0 < i.pending
      · simp only [if_pos hpeek]
        exact hcleared
      · simp only [if_neg hpeek] at h ⊢
        by_cases hempty : i.buffer = []
        · rw [Inlet.request_of_empty hempty]
          cases i.ended with
          | true => exact hcleared
          | false => exact hcleared.trans (onlyFlags_modifyFlags _ e _)
        · -- something waits and there is room for it, so something is handed on
          have hpending : 0 < i.pending := List.length_pos_iff.mpr hempty
          have hn : n ≠ 0 := fun hn => hpeek ⟨hn, hpending⟩
          rw [Inlet.request_of_buffered hempty] at h
          have hlength : (i.buffer.take n).length = min n i.pending := List.length_take
          simp only [toCount, largestCount, hlength] at h
          omega

/-! ### Callbacks that do not fail -/

/-- A read that finds its inlet is served, or asks to be tried again. -/
theorem onRead_of_attached {i : Inlet} (hi : s.inletAt? e = some (k, i)) {size : Int}
    {present : Bool} (h : ¬ Improper size present) :
    0 ≤ (s.onRead e size present).value.code ∨
      ∃ b, (s.onRead e size present).session.endpoints.get? e = some b ∧
        b.flags.shouldRetry = true ∧ b.flags.read = true := by
  rw [onRead]
  simp only [inletAt?_modifyFlags, hi, check_of_not_improper h]
  by_cases hpeek : size.toNat = 0 ∧ 0 < i.pending
  · simp only [if_pos hpeek]
    exact Or.inl (by simp only [toCount]; omega)
  · simp only [if_neg hpeek]
    by_cases hempty : i.buffer = []
    · rw [Inlet.request_of_empty hempty]
      cases i.ended with
      | true => exact Or.inl (Int.le_refl 0)
      | false =>
        obtain ⟨b, hb⟩ : ∃ b, s.endpoints.get? e = some b := by
          cases hb : s.endpoints.get? e with
          | none => simp [inletAt?, resolve, token?, hb] at hi
          | some b => exact ⟨b, rfl⟩
        have hcleared : (s.modifyFlags e Flags.clearRetry).endpoints.get? e =
            some { b with flags := b.flags.clearRetry } := by
          simp [modifyFlags, modifyEndpoint, hb]
        refine Or.inr ⟨{ b with flags := b.flags.clearRetry.retryRead }, ?_, rfl, rfl⟩
        simp [modifyFlags, modifyEndpoint, hb]
    · rw [Inlet.request_of_buffered hempty]
      exact Or.inl (by simp only [toCount]; omega)

/-- A write that finds its outlet takes everything. -/
theorem onWrite_of_attached {o : Outlet} (ho : s.outletAt? e = some (k, o)) {size : Int}
    {buffer : Option Bytes} (h : ¬ Improper size buffer.isSome) :
    (s.onWrite e size buffer).value = size ∧ 0 ≤ size := by
  rw [onWrite]
  simp only [outletAt?_modifyFlags, ho, check_of_not_improper h]
  simp only [Improper, not_or] at h
  exact ⟨trivial, Int.not_lt.mp h.1⟩

/-- No transfer waits for a connection. -/
theorem ne_calls_of_isTransfer {event : Event} (h : event.isTransfer = true) (call : Call) :
    (s.step event).value ≠ .calls call := by
  cases event with
  | read | write | callRead | callWrite => simp only [step]; split <;> simp
  | _ => cases h

/-! ### Control commands -/

/-- Whether a control command is a flush of an outlet. -/
def flushes (s : Session) (side : Side) (e : Option Nat) (number : Int) : Prop :=
  side = .outbound ∧ number = 11 ∧ e.bind s.outletAt? ≠ none

theorem ofNumber_eq_flush_iff {number : Int} : Control.ofNumber number = .flush ↔ number = 11 := by
  rw [Control.ofNumber]
  constructor
  · repeat' split
    all_goals simp_all
  · rintro rfl
    rfl

theorem onWriteControl_of_not_flushes {e : Option Nat} {number : Int}
    (h : ¬ s.flushes .outbound e number) :
    ∃ n, s.onWriteControl e (.ofNumber number) = ⟨s, .code n, []⟩ := by
  cases hc : Control.ofNumber number with
  | flush =>
    have hnone : e.bind s.outletAt? = none := by
      by_contra hsome
      exact h ⟨rfl, ofNumber_eq_flush_iff.mp hc, hsome⟩
    exact ⟨0, by simp only [onWriteControl, hnone]⟩
  | _ => exact ⟨_, rfl⟩

theorem step_callControl_of_not_flushes {side : Side} {e : Option Nat} {number : Int}
    (h : ¬ s.flushes side e number) :
    ∃ reply, s.step (.callControl side e number) = ⟨s, reply, []⟩ ∧
      ∀ call, reply ≠ .calls call := by
  simp only [step]
  split
  · cases side with
    | inbound => exact ⟨_, rfl, by simp⟩
    | outbound =>
      obtain ⟨n, hn⟩ := onWriteControl_of_not_flushes h
      simp only [hn, Reply.ofControl]
      exact ⟨_, rfl, by simp⟩
  · exact ⟨_, rfl, by simp⟩

theorem step_control_of_not_flushes {b : Endpoint} {side : Side} {number : Int}
    (hb : s.endpoints.get? e = some b) (hform : b.form = .adapter side)
    (h : ¬ s.flushes side (some e) number) :
    ∃ n, s.step (.control e number) = ⟨s, .code n, []⟩ := by
  simp only [step, control, hb, hform]
  cases side with
  | inbound => exact ⟨_, rfl⟩
  | outbound =>
    obtain ⟨n, hn⟩ := onWriteControl_of_not_flushes h
    simp only [hn, Reply.ofControl]
    exact ⟨n, rfl⟩

/-! ### A flush whose write fails -/

/-- Whether an event is a flush that the engine asks for through an endpoint. -/
def isFlushOf (e : Nat) (event : Event) : Prop :=
  event = .control e 11 ∨ event = .callControl .outbound (some e) 11

/-- A flush that the engine asks for, if it makes a call, has been passed to the callback. -/
theorem step_of_isFlushOf {event : Event} (hevent : isFlushOf e event) {call : Call}
    (hcalls : (s.step event).value = .calls call) :
    (s.step event).session = (s.onWriteControl (some e) .flush).session ∧
      Reply.ofControl (s.onWriteControl (some e) .flush).value = .calls call := by
  have hnumber : Control.ofNumber 11 = .flush := rfl
  rcases hevent with rfl | rfl
  · simp only [step, control, hnumber] at hcalls ⊢
    cases hb : s.endpoints.get? e with
    | none => simp [hb] at hcalls
    | some b =>
      simp only [hb] at hcalls ⊢
      cases hform : b.form with
      | adapter side =>
        cases side with
        | inbound => simp [hform, Reply.ofControl] at hcalls
        | outbound =>
          simp only [hform] at hcalls ⊢
          exact ⟨trivial, hcalls⟩
      | memory memory => simp [hform, Reply.ofControl] at hcalls
      | scripted script => simp [hform, Reply.ofControl] at hcalls
  · simp only [step, hnumber] at hcalls ⊢
    split at hcalls
    · next hcallbacks =>
      simp only [hcallbacks, if_true]
      exact ⟨trivial, hcalls⟩
    · cases hcalls

/-- It has offered the whole queue. -/
theorem offered_of_isFlushOf {o : Outlet} (ho : s.outletAt? e = some (k, o)) {event : Event}
    (hevent : isFlushOf e event) {call : Call} (hcalls : (s.step event).value = .calls call) :
    call = .write k o.connection o.queue ∧
      (s.step event).session.outlets.get? k = some (offeredFor o .control) := by
  obtain ⟨hsession, hreply⟩ := step_of_isFlushOf hevent hcalls
  obtain ⟨hstarted, hofFlush⟩ := onWriteControl_flush (s := s) (e := some e) ho
  rw [hsession, hstarted]
  rw [hofFlush] at hreply
  rcases start_cases o with ⟨-, hstart⟩ | ⟨-, -, hstart⟩ | ⟨-, -, hstart⟩
  · rw [hstart .control (by simp)] at hreply
    cases hreply
  · rw [hstart .control (by simp)] at hreply
    cases hreply
  · rw [hstart .control (by simp)] at hreply ⊢
    cases hreply
    exact ⟨rfl, by simp⟩

/-- **A flush whose write fails is undone**, but for what was appended in the meantime. -/
theorem flush_undone {o : Outlet} (ho : s.outletAt? e = some (k, o)) {event : Event}
    (hevent : isFlushOf e event) {call : Call} (hcalls : (s.step event).value = .calls call)
    {events : List Event} (hanswer : ∀ a, .writeDone k a ∉ events) (error : IoError) :
    ∃ t, ((s.step event).session.run events).1.step (.writeDone k (.failed error)) =
        ⟨t, .code 0, [.flushFailed error]⟩ ∧
      t.outlets.get? k = some { o with
        queue := o.queue ++ (s.step event).session.takenDuring k events
        inFlight := 0
        flight := none } := by
  obtain ⟨-, hoffered⟩ := offered_of_isFlushOf ho hevent hcalls
  have hlater := outlet_run_of_flight hoffered rfl hanswer
  have hdone := step_writeDone hlater rfl (by simp) (.failed error)
  rw [Outlet.land_fst, Outlet.land_snd] at hdone
  refine ⟨_, hdone, ?_⟩
  simp [offeredFor, Outlet.append, WriteAnswer.leaves]

/-! ### All calls -/

/-- What failing calls of the engine leave alone, and which calls do not fail. -/
structure FailuresHarmless (s : Session) : Prop where
  /-- A read callback with improper arguments or without an inlet fails and does nothing. -/
  read : ∀ e size present, Improper size present ∨ s.inletAt? e = none →
    (s.onRead e size present).value = ⟨-1, []⟩ ∧ s.Cleared e (s.onRead e size present).session
  /-- A write callback with improper arguments or without an outlet fails and does nothing. -/
  write : ∀ e size buffer, Improper size buffer.isSome ∨ s.outletAt? e = none →
    (s.onWrite e size buffer).value = -1 ∧ s.Cleared e (s.onWrite e size buffer).session
  /-- A read callback that reports the end, or that has to be tried again, does nothing either. -/
  empty : ∀ e size present, (s.onRead e size present).value.code ≤ 0 →
    s.OnlyFlags e (s.onRead e size present).session
  /-- No read or write calls a connection, whether it fails or not. -/
  transfer : ∀ event, event.isTransfer = true → ∀ call, (s.step event).value ≠ .calls call
  /-- With an inlet and proper arguments a read callback is served, or asks to be tried again. -/
  served : ∀ e k i size present, s.inletAt? e = some (k, i) → ¬ Improper size present →
    0 ≤ (s.onRead e size present).value.code ∨
      ∃ b, (s.onRead e size present).session.endpoints.get? e = some b ∧
        b.flags.shouldRetry = true ∧ b.flags.read = true
  /-- With an outlet and proper arguments a write callback takes everything. -/
  taken : ∀ e k o size buffer, s.outletAt? e = some (k, o) → ¬ Improper size buffer.isSome →
    (s.onWrite e size buffer).value = size ∧ 0 ≤ size
  /-- No control command but a flush of an outlet does anything, sent through an endpoint -/
  control : ∀ e b side number, s.endpoints.get? e = some b → b.form = .adapter side →
    ¬ s.flushes side (some e) number → ∃ n, s.step (.control e number) = ⟨s, .code n, []⟩
  /-- or to a callback directly. -/
  direct : ∀ side e number, ¬ s.flushes side e number →
    ∃ reply, s.step (.callControl side e number) = ⟨s, reply, []⟩ ∧ ∀ call, reply ≠ .calls call
  /-- When its write fails, a flush returns zero, and the queue is what it was before, followed by
  what was appended in the meantime. -/
  flush : ∀ e k o event, s.outletAt? e = some (k, o) → isFlushOf e event →
    ∀ call, (s.step event).value = .calls call → ∀ events : List Event,
      (∀ a, .writeDone k a ∉ events) → ∀ error,
        ∃ t, ((s.step event).session.run events).1.step (.writeDone k (.failed error)) =
            ⟨t, .code 0, [.flushFailed error]⟩ ∧
          t.outlets.get? k = some { o with
            queue := o.queue ++ (s.step event).session.takenDuring k events
            inFlight := 0
            flight := none }

/-- **Calls of the engine that fail leave everything alone.** -/
theorem failures_harmless (s : Session) : s.FailuresHarmless where
  read _ _ _ h := onRead_of_failing h
  write _ _ _ h := onWrite_of_failing h
  empty _ _ _ h := onlyFlags_onRead h
  transfer _ h := ne_calls_of_isTransfer h
  served _ _ _ _ _ hi h := onRead_of_attached hi h
  taken _ _ _ _ _ ho h := onWrite_of_attached ho h
  control _ _ _ _ hb hform h := step_control_of_not_flushes hb hform h
  direct _ _ _ h := step_callControl_of_not_flushes h
  flush _ _ _ _ ho hevent _ hcalls _ hanswer := flush_undone ho hevent hcalls hanswer

end Session

end Conduit

import Conduit.Proofs.Session.Inbound
import Conduit.Proofs.Session.Outbound
import Conduit.Proofs.Session.Tenure
/-!
# The adapter that a call reaches

A data field may come to hold anything: nothing, a token that has been struck off, one that belongs
in another endpoint, or a number that was never issued. So a callback cannot trust what it finds
there. It asks the roster of its own side, and what the roster says is what the log says.

A call reaches at most one adapter. It leaves all others alone, which is every one of them if it
reaches none; and however long an endpoint holds on to a token that was struck off, no call through
it reaches anything again.

## Main definitions

* `Conduit.Session.callback?`: the callback that a call of the engine runs.
* `Conduit.Session.reached?`: the adapter that a call of the engine reaches.
* `Conduit.Session.Current`: what is true of the engine's calls at any time.

## Main results

* `untouched_of_not_reached`: a call leaves all adapters alone that it does not reach.
* `calls_reach_current`: whatever is put in data fields, calls reach just the adapters whose tokens
  are in force.
-/

namespace Conduit

/-- Whether an event is a call of the engine that bears on adapters: a read, a write or a control
command, or one of these callbacks called directly. -/
def Event.isCall : Event → Bool
  | .read .. => true
  | .write .. => true
  | .control .. => true
  | .streamRead .. => true
  | .streamWrite .. => true
  | .streamWriteAll .. => true
  | .callRead .. => true
  | .callWrite .. => true
  | .callControl .. => true
  | _ => false

/-- Whether an event is a call that moves bytes, and one call only. -/
def Event.isTransfer : Event → Bool
  | .read .. => true
  | .write .. => true
  | .callRead .. => true
  | .callWrite .. => true
  | _ => false

namespace Session

/-- The side of the callback that a call runs, and the endpoint it runs on. The engine keeps calls
without effect to itself, and an endpoint has the callbacks of its own side only. -/
def callback? (s : Session) : Event → Option (Side × Nat)
  | .read e size _ => if s.side? e = some .inbound ∧ 0 ≤ size then some (.inbound, e) else none
  | .write e size _ => if s.side? e = some .outbound ∧ 0 < size then some (.outbound, e) else none
  | .control e _ => (s.side? e).map (·, e)
  | .streamRead e size => if s.side? e = some .inbound ∧ size ≠ 0 then some (.inbound, e) else none
  | .streamWrite e data | .streamWriteAll e data =>
      if s.side? e = some .outbound ∧ data ≠ [] then some (.outbound, e) else none
  | .callRead e _ _ => if s.hasCallbacks .inbound then some (.inbound, e) else none
  | .callWrite e _ _ => if s.hasCallbacks .outbound then some (.outbound, e) else none
  | .callControl side e _ => if s.hasCallbacks side then e.map (side, ·) else none
  | _ => none

/-- The adapter that a callback finds. -/
def adapterAt? (s : Session) : Side → Nat → Option Adapter
  | .inbound, e => (s.inletAt? e).map fun found => .inlet found.1
  | .outbound, e => (s.outletAt? e).map fun found => .outlet found.1

/-- The adapter that a call reaches. -/
def reached? (s : Session) (event : Event) : Option Adapter :=
  (s.callback? event).bind fun callback => s.adapterAt? callback.1 callback.2

/-- Whether there is such an adapter. -/
def has (s : Session) : Adapter → Bool
  | .inlet k => s.inlets.contains k
  | .outlet k => s.outlets.contains k

/-- An effect leaves an adapter as it is and asks nothing of its connection. -/
def Untouched (s : Session) (effect : Effect Reply) : Adapter → Prop
  | .inlet k => ∀ i, s.inlets.get? k = some i → effect.session.inlets.get? k = some i ∧
      ∀ c room, effect.value ≠ .calls (.read k c room)
  | .outlet k => ∀ o, s.outlets.get? k = some o → effect.session.outlets.get? k = some o ∧
      ∀ c block, effect.value ≠ .calls (.write k c block)

/-- What is true of the engine's calls on a session with that log. -/
structure Current (s : Session) (log : List LogLine) : Prop where
  /-- A call reaches the adapter, if there is one, to which the token in the data field was issued
  on the side of the callback, unless the token has been struck off since. -/
  reached_iff : ∀ event a, s.reached? event = some a ↔ ∃ e t,
    s.callback? event = some (a.side, e) ∧ s.has a = true ∧ s.token? e = some t ∧ Stands log a t
  /-- A token that has been struck off leads nowhere, whatever happens later. -/
  retired : ∀ side t, Retired log side t → ∀ more event e,
    (s.run more).1.callback? event = some (side, e) → (s.run more).1.token? e = some t →
      (s.run more).1.reached? event = none
  /-- A call leaves all adapters alone that it does not reach. -/
  untouched : ∀ event, event.isCall = true → ∀ a, s.reached? event ≠ some a →
    s.Untouched (s.step event) a
  /-- A call that is to move bytes and reaches no adapter says so. -/
  refused : ∀ event, event.isTransfer = true → ∀ side e, s.callback? event = some (side, e) →
    (s.reached? event = none ↔ .turnedDown side .noAdapter ∈ (s.step event).log)

variable {s : Session} {side : Side} {e : Nat} {a : Adapter}

/-! ### The adapter that a call reaches -/

theorem adapterAt?_eq_some_iff :
    s.adapterAt? side e = some a ↔
      a.side = side ∧ s.has a = true ∧ s.resolve side e = some a.key := by
  cases side with
  | inbound =>
    simp only [adapterAt?, Option.map_eq_some_iff, Prod.exists, inletAt?_eq_some_iff]
    constructor
    · rintro ⟨k, i, ⟨he, hk⟩, rfl⟩
      exact ⟨rfl, Table.contains_iff.mpr ⟨i, hk⟩, he⟩
    · rintro ⟨hside, hhas, he⟩
      cases a with
      | inlet k =>
        obtain ⟨i, hk⟩ := Table.contains_iff.mp hhas
        exact ⟨k, i, ⟨he, hk⟩, rfl⟩
      | outlet k => cases hside
  | outbound =>
    simp only [adapterAt?, Option.map_eq_some_iff, Prod.exists, outletAt?_eq_some_iff]
    constructor
    · rintro ⟨k, o, ⟨he, hk⟩, rfl⟩
      exact ⟨rfl, Table.contains_iff.mpr ⟨o, hk⟩, he⟩
    · rintro ⟨hside, hhas, he⟩
      cases a with
      | inlet k => cases hside
      | outlet k =>
        obtain ⟨o, hk⟩ := Table.contains_iff.mp hhas
        exact ⟨k, o, ⟨he, hk⟩, rfl⟩

theorem reached?_eq_some_iff {event : Event} :
    s.reached? event = some a ↔ ∃ e, s.callback? event = some (a.side, e) ∧ s.has a = true ∧
      s.resolve a.side e = some a.key := by
  rw [reached?, Option.bind_eq_some_iff]
  constructor
  · rintro ⟨⟨side, e⟩, hcallback, hat⟩
    obtain ⟨rfl, hhas, he⟩ := adapterAt?_eq_some_iff.mp hat
    exact ⟨e, hcallback, hhas, he⟩
  · rintro ⟨e, hcallback, hhas, he⟩
    exact ⟨(a.side, e), hcallback, adapterAt?_eq_some_iff.mpr ⟨rfl, hhas, he⟩⟩

/-- Where the engine's own calls reach an adapter, the endpoint was made for its side. -/
theorem side?_of_serves {k : Nat} (h : s.serves side e k = true) : s.side? e = some side :=
  side?_eq_some_iff.mpr (serves_iff.mp h).1

/-! ### Calls leave other adapters alone -/

theorem read_of_negative {b : Endpoint} (hb : s.endpoints.get? e = some b)
    (hform : b.form = .adapter .inbound) {size : Int} (hsize : ¬ 0 ≤ size) (present : Bool) :
    s.read e size present = some ⟨s, ⟨0, []⟩, []⟩ := by
  have hneg : size < 0 := Int.not_le.mp hsize
  simp [read, hb, hform, Endpoint.Form.serves, hneg]

theorem write_of_nonpos {b : Endpoint} (hb : s.endpoints.get? e = some b)
    (hform : b.form = .adapter .outbound) {size : Int} (hsize : ¬ 0 < size)
    (buffer : Option Bytes) : s.write e size buffer = some ⟨s, 0, []⟩ := by
  have hle : size ≤ 0 := Int.not_lt.mp hsize
  simp [write, hb, hform, Endpoint.Form.serves, hle]

/-- A control command leaves an outlet alone that is not attached to the endpoint. -/
theorem onWriteControl_of_ne {k : Nat} {e : Option Nat}
    (h : ∀ j, e = some j → s.resolve .outbound j ≠ some k) (c : Control) :
    (s.onWriteControl e c).session.outlets.get? k = s.outlets.get? k ∧
      ∀ d block, Reply.ofControl (s.onWriteControl e c).value ≠ .calls (.write k d block) := by
  cases c with
  | flush =>
    cases hfound : e.bind s.outletAt? with
    | none => simp [onWriteControl, hfound, Reply.ofControl]
    | some found =>
      obtain ⟨j, p⟩ := found
      obtain ⟨hsession, hreply⟩ := onWriteControl_flush hfound
      obtain ⟨e, rfl, he⟩ := Option.bind_eq_some_iff.mp hfound
      have hjk : j ≠ k := by
        rintro rfl
        exact h e rfl (outletAt?_eq_some_iff.mp he).1
      rw [hsession, hreply]
      refine ⟨by simp [Ne.symm hjk], fun d block hcalls => ?_⟩
      exact hjk (ofFlush_eq_calls_iff.mp hcalls).1
  | _ => simp [onWriteControl, Reply.ofControl]

theorem untouched_inlet {k : Nat} {event : Event} (hcall : event.isCall = true)
    (h : s.reached? event ≠ some (.inlet k)) : s.Untouched (s.step event) (.inlet k) := by
  intro i hk
  have hhas : s.has (.inlet k) = true := Table.contains_iff.mpr ⟨i, hk⟩
  have hreached : ∀ {e}, s.callback? event = some (.inbound, e) →
      s.resolve .inbound e ≠ some k := fun hcallback he =>
    h (reached?_eq_some_iff.mpr ⟨_, hcallback, hhas, he⟩)
  cases hinbound : event.isInbound with
  | false =>
    obtain ⟨hinlets, hcalls⟩ := step_of_not_inbound hinbound s
    exact ⟨hinlets ▸ hk, hcalls k⟩
  | true =>
    cases event with
    | read e size present =>
      simp only [step]
      split
      · exact ⟨hk, by simp⟩
      · next hread =>
        refine ⟨?_, by simp⟩
        cases hserves : s.serves .inbound e k with
        | false => exact read_of_not_serves hserves hk hread
        | true =>
          obtain ⟨⟨b, hb, hform⟩, he⟩ := serves_iff.mp hserves
          -- where the callback is there, only a negative size keeps the engine from running it
          have hsize : ¬ 0 ≤ size := fun hsize =>
            hreached (by simp [callback?, side?_of_serves hserves, hsize]) he
          rw [read_of_negative hb hform hsize] at hread
          cases hread
          exact hk
    | streamRead e size =>
      simp only [step]
      split
      · exact ⟨hk, by simp⟩
      · next hstream =>
        refine ⟨?_, by simp⟩
        rw [streamRead] at hstream
        split at hstream
        · cases hstream
          exact hk
        · next hsize =>
          obtain ⟨inner, hread, heffect⟩ := Option.map_eq_some_iff.mp hstream
          cases heffect
          cases hserves : s.serves .inbound e k with
          | false => exact read_of_not_serves hserves hk hread
          | true =>
            exact absurd (serves_iff.mp hserves).2
              (hreached (by simp [callback?, side?_of_serves hserves, hsize]))
    | callRead e size present =>
      simp only [step]
      split
      · next hcallbacks =>
        exact ⟨inlets_onRead_of_ne (hreached (if_pos hcallbacks)) hk size present, by simp⟩
      · exact ⟨hk, by simp⟩
    | _ => simp [Event.isCall, Event.isInbound] at hcall hinbound

theorem untouched_outlet {k : Nat} {event : Event} (hcall : event.isCall = true)
    (h : s.reached? event ≠ some (.outlet k)) : s.Untouched (s.step event) (.outlet k) := by
  intro o hk
  have hhas : s.has (.outlet k) = true := Table.contains_iff.mpr ⟨o, hk⟩
  have hreached : ∀ {e}, s.callback? event = some (.outbound, e) →
      s.resolve .outbound e ≠ some k := fun hcallback he =>
    h (reached?_eq_some_iff.mpr ⟨_, hcallback, hhas, he⟩)
  cases houtbound : event.isOutbound with
  | false =>
    obtain ⟨houtlets, hcalls⟩ := step_of_not_outbound houtbound s
    exact ⟨houtlets ▸ hk, hcalls k⟩
  | true =>
    cases event with
    | write e size buffer =>
      simp only [step]
      split
      · exact ⟨hk, by simp⟩
      · next hwrite =>
        refine ⟨?_, by simp⟩
        cases hserves : s.serves .outbound e k with
        | false => exact (write_of_not_serves hserves hwrite).1.trans hk
        | true =>
          obtain ⟨⟨b, hb, hform⟩, he⟩ := serves_iff.mp hserves
          have hsize : ¬ 0 < size := fun hsize =>
            hreached (by simp [callback?, side?_of_serves hserves, hsize]) he
          rw [write_of_nonpos hb hform hsize] at hwrite
          cases hwrite
          exact hk
    | streamWrite e data =>
      have hkept : ∀ {effect}, s.streamWrite e data = some effect →
          effect.session.outlets.get? k = some o := by
        intro effect hwrite
        cases hserves : s.serves .outbound e k with
        | false => exact (streamWrite_of_not_serves hserves hwrite).1.trans hk
        | true =>
          have hdata : data = [] := Decidable.byContradiction fun hdata =>
            hreached (by simp [callback?, side?_of_serves hserves, hdata]) (serves_iff.mp hserves).2
          subst hdata
          cases hwrite
          exact hk
      simp only [step]
      split
      · exact ⟨hk, by simp⟩
      · next hwrite => exact ⟨hkept hwrite, by simp⟩
      · next hwrite => exact ⟨hkept hwrite, by simp⟩
    | streamWriteAll e data =>
      have hkept : ∀ {effect}, s.streamWriteAll e data = some effect →
          effect.session.outlets.get? k = some o := by
        intro effect hwrite
        cases hserves : s.serves .outbound e k with
        | false => exact (streamWriteAll_of_not_serves s e data hserves hwrite).trans hk
        | true =>
          have hdata : data = [] := Decidable.byContradiction fun hdata =>
            hreached (by simp [callback?, side?_of_serves hserves, hdata]) (serves_iff.mp hserves).2
          subst hdata
          rw [streamWriteAll] at hwrite
          cases hwrite
          exact hk
      simp only [step]
      split
      · exact ⟨hk, by simp⟩
      · next hwrite => exact ⟨hkept hwrite, by simp⟩
      · next hwrite => exact ⟨hkept hwrite, by simp⟩
    | callWrite e size buffer =>
      simp only [step]
      split
      · next hcallbacks =>
        exact ⟨(outlets_onWrite_of_ne (hreached (if_pos hcallbacks)) size buffer).trans hk, by simp⟩
      · exact ⟨hk, by simp⟩
    | control e number =>
      simp only [step]
      cases hcontrol : s.control e number with
      | none => exact ⟨hk, by simp⟩
      | some effect =>
        obtain ⟨b, hb⟩ : ∃ b, s.endpoints.get? e = some b := by
          cases hb : s.endpoints.get? e with
          | none => simp [control, hb] at hcontrol
          | some b => exact ⟨b, rfl⟩
        rw [control, hb] at hcontrol
        dsimp only at hcontrol ⊢
        split at hcontrol
        · cases hcontrol
          exact ⟨hk, by simp [Reply.ofControl]⟩
        · next hform =>
          cases hcontrol
          have hside : s.side? e = some .outbound := side?_eq_some_iff.mpr ⟨b, hb, hform⟩
          obtain ⟨hget, hcalls⟩ := onWriteControl_of_ne (e := some e) (k := k)
            (by rintro j ⟨⟩; exact hreached (by simp [callback?, hside])) (.ofNumber number)
          exact ⟨hget.trans hk, hcalls⟩
        · cases hcontrol
          exact ⟨hk, by simp [Reply.ofControl]⟩
        · cases hcontrol
          exact ⟨hk, by simp [Reply.ofControl]⟩
    | callControl way e number =>
      simp only [step]
      split
      · next hcallbacks =>
        cases way with
        | inbound => exact ⟨hk, by simp⟩
        | outbound =>
          obtain ⟨hget, hcalls⟩ := onWriteControl_of_ne (s := s) (e := e) (k := k)
            (by rintro j rfl; exact hreached (by simp [callback?, hcallbacks])) (.ofNumber number)
          exact ⟨hget.trans hk, hcalls⟩
      · exact ⟨hk, by simp⟩
    | _ => simp [Event.isCall, Event.isOutbound] at hcall houtbound

/-- **A call leaves all adapters alone that it does not reach.** -/
theorem untouched_of_not_reached {event : Event} (hcall : event.isCall = true)
    (h : s.reached? event ≠ some a) : s.Untouched (s.step event) a := by
  cases a with
  | inlet k => exact untouched_inlet hcall h
  | outlet k => exact untouched_outlet hcall h

/-! ### Calls that reach no adapter say so -/

theorem ne_noAdapter_of_checkBuffer {size : Int} {present : Bool} {reason : Refusal}
    (h : checkBuffer size present = .error reason) : reason ≠ .noAdapter := by
  rw [checkBuffer] at h
  split at h
  · cases h
    simp
  · split at h
    · cases h
    · split at h
      · cases h
      · cases h
        simp

theorem refused_onRead (s : Session) (e : Nat) (size : Int) (present : Bool) :
    s.adapterAt? .inbound e = none ↔
      .turnedDown .inbound .noAdapter ∈ (s.onRead e size present).log := by
  rw [adapterAt?, Option.map_eq_none_iff, onRead]
  simp only [inletAt?_modifyFlags]
  cases s.inletAt? e with
  | none => simp
  | some found =>
    refine iff_of_false (by simp) ?_
    cases hcheck : checkBuffer size present with
    | error reason => simpa using (ne_noAdapter_of_checkBuffer hcheck).symm
    | ok n =>
      dsimp only
      split
      · simp
      · split <;> simp

theorem refused_onWrite (s : Session) (e : Nat) (size : Int) (buffer : Option Bytes) :
    s.adapterAt? .outbound e = none ↔
      .turnedDown .outbound .noAdapter ∈ (s.onWrite e size buffer).log := by
  rw [adapterAt?, Option.map_eq_none_iff, onWrite]
  simp only [outletAt?_modifyFlags]
  cases s.outletAt? e with
  | none => simp
  | some found =>
    refine iff_of_false (by simp) ?_
    cases hcheck : checkBuffer size buffer.isSome with
    | error reason => simpa using (ne_noAdapter_of_checkBuffer hcheck).symm
    | ok n => simp

theorem refused_step {event : Event} (htransfer : event.isTransfer = true)
    (hcallback : s.callback? event = some (side, e)) :
    s.reached? event = none ↔ .turnedDown side .noAdapter ∈ (s.step event).log := by
  rw [reached?, hcallback, Option.bind_some]
  cases event with
  | read j size present =>
    obtain ⟨⟨hside, hsize⟩, hsome⟩ := Option.ite_none_right_eq_some.mp hcallback
    cases hsome
    obtain ⟨b, hb, hform⟩ := side?_eq_some_iff.mp hside
    simp only [step, read_adapter hb hform hsize]
    exact refused_onRead s e size present
  | write j size buffer =>
    obtain ⟨⟨hside, hsize⟩, hsome⟩ := Option.ite_none_right_eq_some.mp hcallback
    cases hsome
    obtain ⟨b, hb, hform⟩ := side?_eq_some_iff.mp hside
    simp only [step, write_adapter hb hform hsize]
    exact refused_onWrite s e size buffer
  | callRead j size present =>
    obtain ⟨hcallbacks, hsome⟩ := Option.ite_none_right_eq_some.mp hcallback
    cases hsome
    simp only [step, hcallbacks, if_true]
    exact refused_onRead s e size present
  | callWrite j size buffer =>
    obtain ⟨hcallbacks, hsome⟩ := Option.ite_none_right_eq_some.mp hcallback
    cases hsome
    simp only [step, hcallbacks, if_true]
    exact refused_onWrite s e size buffer
  | _ => simp [Event.isTransfer] at htransfer

/-! ### Runs -/

theorem recorded_empty (engine : Engine) : ({ engine } : Session).bonds.Recorded [] where
  entry_iff := by
    intro a t
    refine iff_of_false (fun hk => ?_) fun hstands => ?_
    · cases a <;> cases hk
    · exact absurd hstands.mem List.not_mem_nil
  issued := by
    intro a t hmem
    exact absurd hmem List.not_mem_nil
  retired := by
    intro side t _
    cases side <;> rfl

theorem recorded_run (engine : Engine) (events : List Event) :
    (({ engine } : Session).run events).1.bonds.Recorded (({ engine } : Session).logged events) :=
  (recorded_empty engine).passage (passage_run { engine } events)

/-- **Whatever is put in data fields, calls reach just the adapters whose tokens are in force.** -/
theorem calls_reach_current (engine : Engine) (events : List Event) :
    (({ engine } : Session).run events).1.Current (({ engine } : Session).logged events) := by
  have hrecorded := recorded_run engine events
  constructor
  · intro event a
    rw [reached?_eq_some_iff]
    constructor
    · rintro ⟨e, hcallback, hhas, he⟩
      obtain ⟨t, ht, hk⟩ := Option.bind_eq_some_iff.mp he
      exact ⟨e, t, hcallback, hhas, ht, hrecorded.entry_iff.mp hk⟩
    · rintro ⟨e, t, hcallback, hhas, ht, hstands⟩
      exact ⟨e, hcallback, hhas,
        Option.bind_eq_some_iff.mpr ⟨t, ht, hrecorded.entry_iff.mpr hstands⟩⟩
  · intro side t hretired more event e hcallback ht
    obtain ⟨a, hside, hmem⟩ := hretired.mem
    have hissued : t.index < ((({ engine } : Session).run events).1.roster side).issued :=
      hside ▸ hrecorded.issued hmem
    rw [Option.eq_none_iff_forall_ne_some]
    intro c hreached
    obtain ⟨j, hcallback', -, hj⟩ := reached?_eq_some_iff.mp hreached
    cases hcallback.symm.trans hcallback'
    obtain ⟨u, hu, hk⟩ := Option.bind_eq_some_iff.mp hj
    cases ht.symm.trans hu
    -- an entry that is there later was there before, but this token has been struck off
    have hbefore := Bonds.get?_of_passage (passage_run _ more) hissued hk
    cases (hrecorded.retired hretired).symm.trans hbefore
  · exact fun event hcall a h => untouched_of_not_reached hcall h
  · exact fun event htransfer side e hcallback => refused_step htransfer hcallback

end Session

end Conduit

import Conduit.Proofs.Session.Frame
/-!
# How the parts of a session belong together

Which adapter stands under which token, which endpoint was made for which side and stores which
token, and which endpoints belong to a duplex: that is the layout of a session. The bytes that pass
through it have no part in it. Nor have the flags and the references of an endpoint, or what stands
behind an endpoint that was not made for an adapter.

Nearly every event leaves the layout alone, and then it also logs no line about a token. Both are
said at once of each operation, as both are read off the same branches. What the other events come
to is said once as well, so that an invariant of the layout need only be proved for operations.

## Main definitions

* `Conduit.Layout` and `Conduit.Session.layout`.
* `Conduit.LogLine.isBinding`, `Conduit.Event.isBinding`: what bears on the layout.
* `Conduit.Effect.Aloof`: an effect that leaves the layout alone.
* `Conduit.Session.Rebinds`: what an event that bears on the layout comes to.

## Main results

* `aloof_step`: all but a few events leave the layout alone.
* `rebinds_step`: the others come to one operation, or to nothing.
-/

namespace Conduit

/-- The side of an endpoint that was made for an adapter. -/
def Endpoint.side? (b : Endpoint) : Option Side :=
  match b.form with
  | .adapter side => some side
  | _ => none

theorem Endpoint.side?_eq_some_iff {b : Endpoint} {side : Side} :
    b.side? = some side ↔ b.form = .adapter side := by
  cases h : b.form <;> simp [side?, h]

/-- Whether a line reports that a token was issued or struck off. -/
def LogLine.isBinding : LogLine → Bool
  | .attached .. => true
  | .detached .. => true
  | .released .. => true
  | _ => false

/-- Whether an event can bear on the layout. -/
def Event.isBinding : Event → Bool
  | .attach .. => true
  | .disconnect .. => true
  | .openDuplex .. => true
  | .close .. => true
  | .dropDuplex .. => true
  | .free .. => true
  | .setData .. => true
  | .callDestroy .. => true
  | .openForeign .. => true
  | _ => false

/-- Who stands under which token, which side each endpoint is on and which token it stores, and
which endpoints belong to a duplex. -/
structure Layout where
  roster : Side → Roster Nat
  seat : Nat → Option (Option Side × Option Token)
  duplexes : Table Nat Duplex

/-- The layout of a session. -/
def Session.layout (s : Session) : Layout where
  roster := s.roster
  seat e := (s.endpoints.get? e).map fun b => (b.side?, b.data)
  duplexes := s.duplexes

/-- An effect that leaves the layout alone and logs nothing about tokens. -/
structure Effect.Aloof {α : Type} (s : Session) (effect : Effect α) : Prop where
  layout : effect.session.layout = s.layout
  log : ∀ line ∈ effect.log, line.isBinding = false

namespace Session

/-! ### Updates -/

theorem layout_modifyEndpoint {s : Session} {e : Nat} {f : Endpoint → Endpoint}
    (hf : ∀ b, s.endpoints.get? e = some b → (f b).side? = b.side? ∧ (f b).data = b.data) :
    (s.modifyEndpoint e f).layout = s.layout := by
  have hseat : ∀ j, (s.modifyEndpoint e f).layout.seat j = s.layout.seat j := by
    intro j
    simp only [layout, modifyEndpoint, Table.get?_modify]
    split
    · next hj =>
      subst hj
      cases hb : s.endpoints.get? j with
      | none => rfl
      | some b => simp [hf b hb]
    · rfl
  simp only [layout, Layout.mk.injEq]
  exact ⟨funext fun side => roster_modifyEndpoint s e f side, funext hseat, rfl⟩

@[simp] theorem layout_modifyFlags (s : Session) (e : Nat) (f : Flags → Flags) :
    (s.modifyFlags e f).layout = s.layout :=
  layout_modifyEndpoint fun _ _ => ⟨rfl, rfl⟩

@[simp] theorem layout_share (s : Session) (e : Nat) : (s.share e).layout = s.layout :=
  layout_modifyEndpoint fun _ _ => ⟨rfl, rfl⟩

@[simp] theorem layout_putInlet (s : Session) (k : Nat) (i : Inlet) :
    (s.putInlet k i).layout = s.layout := rfl

@[simp] theorem layout_putOutlet (s : Session) (k : Nat) (o : Outlet) :
    (s.putOutlet k o).layout = s.layout := rfl

/-- What the engine does with an endpoint of its own shows nowhere in the layout. -/
theorem layout_modifyForeign {s : Session} {e : Nat} {b : Endpoint} {f : Endpoint → Endpoint}
    (hb : s.endpoints.get? e = some b) (hbefore : b.side? = none) (hafter : (f b).side? = none)
    (hdata : (f b).data = b.data) : (s.modifyEndpoint e f).layout = s.layout := by
  refine layout_modifyEndpoint fun b' hb' => ?_
  cases hb.symm.trans hb'
  exact ⟨hafter.trans hbefore.symm, hdata⟩

/-! ### Operations on adapters -/

theorem aloof_pump (s : Session) (k : Nat) : (s.pump k).Aloof s := by
  rw [pump]
  split
  · exact ⟨rfl, by simp⟩
  · split <;> exact ⟨rfl, by simp⟩

theorem aloof_readDone (s : Session) (k : Nat) (a : ReadAnswer) : (s.readDone k a).Aloof s := by
  rw [readDone]
  split
  · exact ⟨rfl, by simp⟩
  · split
    · refine ⟨rfl, ?_⟩
      cases a with
      | returned count written =>
        simp only [Inlet.endPump]
        split
        · dsimp only
          split <;> simp [LogLine.isBinding]
        · simp
      | failed error => simp [Inlet.endPump]
      | panicked panic => simp [Inlet.endPump]
    · exact ⟨rfl, by simp⟩

theorem isBinding_flushCode (outcome : Outcome Nat) :
    ∀ line ∈ (flushCode outcome).2, line.isBinding = false := by
  cases outcome <;> simp [flushCode, LogLine.isBinding]

theorem isBinding_ofFlush (k c : Nat) (purpose : Purpose) (progress : Outlet.Progress) :
    ∀ line ∈ (Reply.ofFlush k c purpose progress).2, line.isBinding = false := by
  cases progress with
  | busy => simp [Reply.ofFlush]
  | ended outcome =>
    cases purpose with
    | control => exact isBinding_flushCode outcome
    | _ => simp [Reply.ofFlush]
  | writing block => simp [Reply.ofFlush]

theorem aloof_flushFor (s : Session) (k : Nat) (purpose : Purpose) :
    (s.flushFor k purpose).Aloof s := by
  rw [flushFor]
  split
  · exact ⟨rfl, by simp⟩
  · exact ⟨rfl, isBinding_ofFlush k _ purpose _⟩

theorem aloof_writeDone (s : Session) (k : Nat) (a : WriteAnswer) : (s.writeDone k a).Aloof s := by
  rw [writeDone]
  split
  · exact ⟨rfl, by simp⟩
  · split
    · exact ⟨rfl, by simp⟩
    · exact ⟨rfl, isBinding_ofFlush k _ _ _⟩

/-! ### The engine's calls -/

theorem aloof_onRead (s : Session) (e : Nat) (size : Int) (present : Bool) :
    (s.onRead e size present).Aloof s := by
  rw [onRead]
  split
  · exact ⟨by simp, by simp [LogLine.isBinding]⟩
  · split
    · exact ⟨by simp, by simp [LogLine.isBinding]⟩
    · split
      · exact ⟨by simp, by simp⟩
      · split <;> exact ⟨by simp, by simp⟩

theorem aloof_onWrite (s : Session) (e : Nat) (size : Int) (buffer : Option Bytes) :
    (s.onWrite e size buffer).Aloof s := by
  rw [onWrite]
  split
  · exact ⟨by simp, by simp [LogLine.isBinding]⟩
  · split
    · exact ⟨by simp, by simp [LogLine.isBinding]⟩
    · exact ⟨by simp, by simp⟩

theorem aloof_onWriteControl (s : Session) (e : Option Nat) (c : Control) :
    (s.onWriteControl e c).Aloof s := by
  cases c with
  | flush =>
    simp only [onWriteControl]
    split
    · exact ⟨rfl, by simp⟩
    · next k o _ =>
      have hstart : (s.startFlush k o .control).1.layout = s.layout := rfl
      split
      · next hbusy => rw [hbusy] at hstart; exact ⟨hstart, by simp⟩
      · next hwriting => rw [hwriting] at hstart; exact ⟨hstart, by simp⟩
      · next hended => rw [hended] at hstart; exact ⟨hstart, isBinding_flushCode _⟩
  | _ => exact ⟨rfl, by simp [onWriteControl]⟩

theorem aloof_dispatchRead {s : Session} {e : Nat} {b : Endpoint}
    (hb : s.endpoints.get? e = some b) (size : Int) (present : Bool) :
    (s.dispatchRead e b size present).Aloof s := by
  rw [dispatchRead]
  split
  · exact aloof_onRead s e size present
  · next memory hform =>
    exact ⟨layout_modifyForeign hb (by simp [Endpoint.side?, hform]) (by simp [Endpoint.side?]) rfl,
      by simp⟩
  · next script hform =>
    exact ⟨layout_modifyForeign hb (by simp [Endpoint.side?, hform]) (by simp [Endpoint.side?]) rfl,
      by simp⟩

theorem aloof_of_read {s : Session} {e : Nat} {size : Int} {present : Bool}
    {effect : Effect Transfer} (h : s.read e size present = some effect) : effect.Aloof s := by
  rw [read] at h
  split at h
  · cases h
  · next b hb =>
    split at h
    · split at h
      · cases h
        exact ⟨rfl, by simp⟩
      · cases h
        have hdispatch := aloof_dispatchRead hb size present
        exact ⟨hdispatch.layout, hdispatch.log⟩
    · cases h

theorem aloof_dispatchWrite {s : Session} {e : Nat} {b : Endpoint}
    (hb : s.endpoints.get? e = some b) (size : Int) (buffer : Option Bytes) :
    (s.dispatchWrite e b size buffer).Aloof s := by
  rw [dispatchWrite]
  split
  · exact aloof_onWrite s e size buffer
  · next memory hform =>
    split
    · exact ⟨layout_modifyEndpoint fun _ _ => ⟨rfl, rfl⟩, by simp⟩
    · exact ⟨layout_modifyForeign hb (by simp [Endpoint.side?, hform]) (by simp [Endpoint.side?])
        rfl, by simp⟩
  · next script hform =>
    exact ⟨layout_modifyForeign hb (by simp [Endpoint.side?, hform]) (by simp [Endpoint.side?]) rfl,
      by simp⟩

theorem aloof_of_write {s : Session} {e : Nat} {size : Int} {buffer : Option Bytes}
    {effect : Effect Int} (h : s.write e size buffer = some effect) : effect.Aloof s := by
  rw [write] at h
  split at h
  · cases h
  · next b hb =>
    split at h
    · split at h
      · cases h
        exact ⟨rfl, by simp⟩
      · cases h
        exact aloof_dispatchWrite hb size buffer
    · cases h

theorem aloof_of_control {s : Session} {e : Nat} {number : Int} {effect : Effect ControlProgress}
    (h : s.control e number = some effect) : effect.Aloof s := by
  rw [control] at h
  split at h
  · cases h
  · next b hb =>
    split at h
    · cases h
      exact ⟨rfl, by simp⟩
    · cases h
      exact aloof_onWriteControl s _ _
    · next memory hform =>
      cases h
      exact ⟨layout_modifyForeign hb (by simp [Endpoint.side?, hform]) (by simp [Endpoint.side?])
        rfl, by simp⟩
    · cases h
      exact ⟨rfl, by simp⟩

/-- An effect is aloof if it leaves the layout as it was and is silent about tokens. -/
theorem aloof_of_keeps {α : Type} {s : Session} {effect : Effect α}
    (h : effect.Keeps (fun t => t.layout = s.layout) (·.isBinding = false)) : effect.Aloof s :=
  ⟨h.session, h.log⟩

theorem aloof_of_streamRead {s : Session} {e size : Nat} {effect : Effect Bytes}
    (h : s.streamRead e size = some effect) : effect.Aloof s := by
  refine aloof_of_keeps (keeps_streamRead (P := fun t => t.layout = s.layout) rfl ?_ h)
  exact fun hread => ⟨(aloof_of_read hread).layout, (aloof_of_read hread).log⟩

theorem aloof_of_streamWrite {s : Session} {e : Nat} {data : Bytes}
    {effect : Effect (Except IoError Nat)} (h : s.streamWrite e data = some effect) :
    effect.Aloof s := by
  refine aloof_of_keeps (keeps_streamWrite (P := fun t => t.layout = s.layout) rfl ?_ h)
  exact fun hwrite => ⟨(aloof_of_write hwrite).layout, (aloof_of_write hwrite).log⟩

theorem aloof_of_streamWriteAll {s : Session} {e : Nat} {data : Bytes}
    {effect : Effect (Except IoError Unit)} (h : s.streamWriteAll e data = some effect) :
    effect.Aloof s := by
  refine aloof_of_keeps (keeps_streamWriteAll (P := fun t => t.layout = s.layout) ?_ rfl h)
  exact fun ht _ _ _ hwrite =>
    ⟨(aloof_of_write hwrite).layout.trans ht, (aloof_of_write hwrite).log⟩

/-! ### All events -/

/-- **Only a few events bear on the layout**, and only they log lines about tokens. -/
theorem aloof_step {event : Event} (h : event.isBinding = false) (s : Session) :
    (s.step event).Aloof s := by
  cases event with
  | openInlet | openOutlet | request | markEnded | append =>
    simp only [step]
    split <;> exact ⟨rfl, by simp⟩
  | pump k => exact aloof_pump s k
  | flush k => exact aloof_flushFor s k .single
  | readDone k a => exact aloof_readDone s k a
  | writeDone k a => exact aloof_writeDone s k a
  | flushAll k =>
    simp only [step]
    split
    · exact ⟨rfl, by simp⟩
    · exact aloof_flushFor s _ (.drain 0)
  | share | setFlags =>
    simp only [step, onPresent]
    split <;> exact ⟨by simp, by simp⟩
  | read e size present =>
    simp only [step]
    split
    · exact ⟨rfl, by simp⟩
    · next hread =>
      have hinner := aloof_of_read hread
      exact ⟨hinner.layout, hinner.log⟩
  | write e size buffer =>
    simp only [step]
    split
    · exact ⟨rfl, by simp⟩
    · next hwrite =>
      have hinner := aloof_of_write hwrite
      exact ⟨hinner.layout, hinner.log⟩
  | control e number =>
    simp only [step]
    split
    · exact ⟨rfl, by simp⟩
    · next hcontrol =>
      have hinner := aloof_of_control hcontrol
      exact ⟨hinner.layout, hinner.log⟩
  | streamRead e size =>
    simp only [step]
    split
    · exact ⟨rfl, by simp⟩
    · next hread =>
      have hinner := aloof_of_streamRead hread
      exact ⟨hinner.layout, hinner.log⟩
  | streamWrite e data =>
    simp only [step]
    split
    · exact ⟨rfl, by simp⟩
    all_goals
      next hwrite =>
        have hinner := aloof_of_streamWrite hwrite
        exact ⟨hinner.layout, hinner.log⟩
  | streamWriteAll e data =>
    simp only [step]
    split
    · exact ⟨rfl, by simp⟩
    all_goals
      next hwrite =>
        have hinner := aloof_of_streamWriteAll hwrite
        exact ⟨hinner.layout, hinner.log⟩
  | callRead e size present =>
    simp only [step]
    split
    · have hinner := aloof_onRead s e size present
      exact ⟨hinner.layout, hinner.log⟩
    · exact ⟨rfl, by simp⟩
  | callWrite e size buffer =>
    simp only [step]
    split
    · have hinner := aloof_onWrite s e size buffer
      exact ⟨hinner.layout, hinner.log⟩
    · exact ⟨rfl, by simp⟩
  | callControl side e number =>
    simp only [step]
    split
    · cases side with
      | inbound => exact ⟨rfl, by simp⟩
      | outbound =>
        have hinner := aloof_onWriteControl s e (.ofNumber number)
        exact ⟨hinner.layout, hinner.log⟩
    · exact ⟨rfl, by simp⟩
  | callCreate =>
    simp only [step]
    split <;> exact ⟨rfl, by simp⟩
  | takeSeen e =>
    simp only [step]
    split
    · next hb => exact ⟨layout_modifyForeign hb rfl rfl rfl, by simp⟩
    · exact ⟨rfl, by simp⟩
  | expectFault c skip => exact ⟨rfl, by simp [step]⟩
  | _ => simp [Event.isBinding] at h

/-! ### The events that bear on the layout -/

/-- What an event that bears on the layout comes to: nothing, or one operation on an object that is
there or on one that is new. -/
inductive Rebinds (s : Session) : Event → Effect Reply → Prop
  | unknown {event : Event} : Rebinds s event ⟨s, .unknown, []⟩
  | noCallback {event : Event} : Rebinds s event ⟨s, .noCallback, []⟩
  | attach {e : Nat} {a : Adapter} {t : Token} (hnew : s.endpoints.get? e = none)
      (hvalue : (s.attach e a).value = .ok t) :
      Rebinds s (.attach e a) ⟨(s.attach e a).session, .token t, (s.attach e a).log⟩
  | attachRefused {e : Nat} {a : Adapter} {reason : Refusal} (hnew : s.endpoints.get? e = none)
      (hvalue : (s.attach e a).value = .error reason) :
      Rebinds s (.attach e a) ⟨(s.attach e a).session, .refused reason, (s.attach e a).log⟩
  | disconnect {e : Nat} {a : Adapter} {b : Endpoint} (hb : s.endpoints.get? e = some b) :
      Rebinds s (.disconnect e a) ⟨(s.disconnect e a).1, .done, (s.disconnect e a).2⟩
  | openDuplex {key connection : Nat} {d : DuplexKeys} {settings : Settings} {r w : Token}
      (hread : s.endpoints.get? d.readEnd = none) (hwrite : s.endpoints.get? d.writeEnd = none)
      (hne : d.readEnd ≠ d.writeEnd)
      (hvalue : (s.openDuplex key d connection settings).value = .ok (r, w)) :
      Rebinds s (.openDuplex key d connection settings)
        ⟨(s.openDuplex key d connection settings).session, .tokens r w,
          (s.openDuplex key d connection settings).log⟩
  | openDuplexRefused {key connection : Nat} {d : DuplexKeys} {settings : Settings}
      {reason : Refusal} (hread : s.endpoints.get? d.readEnd = none)
      (hwrite : s.endpoints.get? d.writeEnd = none) (hne : d.readEnd ≠ d.writeEnd)
      (hvalue : (s.openDuplex key d connection settings).value = .error reason) :
      Rebinds s (.openDuplex key d connection settings)
        ⟨(s.openDuplex key d connection settings).session, .refused reason,
          (s.openDuplex key d connection settings).log⟩
  | close {key : Nat} {d : Duplex} (hd : s.duplexes.get? key = some d) :
      Rebinds s (.close key) ⟨(s.close key).1, .done, (s.close key).2⟩
  | dropDuplex {key : Nat} {d : Duplex} (hd : s.duplexes.get? key = some d) :
      Rebinds s (.dropDuplex key) ⟨(s.dropDuplex key).1, .done, (s.dropDuplex key).2⟩
  | free {e : Nat} {b : Endpoint} (hb : s.endpoints.get? e = some b) :
      Rebinds s (.free e) ⟨(s.free e).1, .done, (s.free e).2⟩
  | setData {e : Nat} {data : Option Token} :
      Rebinds s (.setData e data) ⟨s.setData e data, .done, []⟩
  | destroy {side : Side} {e : Nat} :
      Rebinds s (.callDestroy side (some e)) ⟨(s.release side e).1, .code 1, (s.release side e).2⟩
  | destroyNone {side : Side} : Rebinds s (.callDestroy side none) ⟨s, .code 1, []⟩
  | openForeign {e : Nat} {form : Endpoint.Form} (hnew : s.endpoints.get? e = none) :
      Rebinds s (.openForeign e form)
        ⟨{ s with endpoints := s.endpoints.put e { form } }, .done, []⟩

/-- **What the events that bear on the layout come to.** -/
theorem rebinds_step {event : Event} (h : event.isBinding = true) (s : Session) :
    s.Rebinds event (s.step event) := by
  have hfresh : ∀ {e}, ¬ s.endpoints.contains e = true → s.endpoints.get? e = none := by
    intro e he
    simpa [Table.contains] using he
  cases event with
  | attach e a =>
    simp only [step]
    split
    · exact .unknown
    · next he =>
      -- the reply is read off the value, and the effect is taken apart only to see that
      cases hvalue : (s.attach e a).value with
      | ok t =>
        have hstep := Rebinds.attach (hfresh he) hvalue
        rcases hresult : s.attach e a with ⟨u, value, log⟩
        simp_all
      | error reason =>
        have hstep := Rebinds.attachRefused (hfresh he) hvalue
        rcases hresult : s.attach e a with ⟨u, value, log⟩
        simp_all
  | openDuplex key d connection settings =>
    simp only [step]
    split
    · exact .unknown
    · next hkeys =>
      simp only [Bool.or_eq_true, decide_eq_true_eq, not_or] at hkeys
      obtain ⟨⟨⟨-, hread⟩, hwrite⟩, hne⟩ := hkeys
      cases hvalue : (s.openDuplex key d connection settings).value with
      | ok tokens =>
        have hstep := Rebinds.openDuplex (hfresh hread) (hfresh hwrite) hne hvalue
        rcases hresult : s.openDuplex key d connection settings with ⟨u, value, log⟩
        simp_all
      | error reason =>
        have hstep := Rebinds.openDuplexRefused (hfresh hread) (hfresh hwrite) hne hvalue
        rcases hresult : s.openDuplex key d connection settings with ⟨u, value, log⟩
        simp_all
  | disconnect e a =>
    simp only [step, onPresent]
    split
    · next hpresent =>
      obtain ⟨b, hb⟩ := Table.contains_iff.mp hpresent
      exact .disconnect hb
    · exact .unknown
  | close key =>
    simp only [step, onPresent]
    split
    · next hpresent =>
      obtain ⟨d, hd⟩ := Table.contains_iff.mp hpresent
      exact .close hd
    · exact .unknown
  | dropDuplex key =>
    simp only [step, onPresent]
    split
    · next hpresent =>
      obtain ⟨d, hd⟩ := Table.contains_iff.mp hpresent
      exact .dropDuplex hd
    · exact .unknown
  | free e =>
    simp only [step, onPresent]
    split
    · next hpresent =>
      obtain ⟨b, hb⟩ := Table.contains_iff.mp hpresent
      exact .free hb
    · exact .unknown
  | setData e data =>
    simp only [step, onPresent]
    split
    · exact .setData
    · exact .unknown
  | callDestroy side e =>
    simp only [step]
    split
    · cases e with
      | none => exact .destroyNone
      | some e => exact .destroy
    · exact .noCallback
  | openForeign e form =>
    simp only [step]
    split
    · exact .unknown
    · next he => exact .openForeign (hfresh he)
  | _ => simp [Event.isBinding] at h

end Session

end Conduit

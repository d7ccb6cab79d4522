import Conduit.Proofs.Session.Bonds
import Conduit.Proofs.Session.Mirror
import Conduit.Proofs.Session.Transfers
/-!
# What a party does in sessions that mirror one another

What an operation of a party, and then an event, comes to in two sessions that mirror one another in
its compartment: the same, but for the numbers of tokens, and afterwards the sessions mirror one
another again.

Operations that leave the layout alone come to the very same in both. Of those that do not, each
reports its tokens in the log, and an endpoint that is made adds its pair of tokens to the naming.

## Main definitions

* `Conduit.Compartment.Same`: effects that are the same.
* `Conduit.Compartment.Echoes`: effects that are the same but for the numbers of tokens.
* `Conduit.Event.calledOn`: the endpoint on which a callback is called directly.

## Main results

* `echoes_step`: an event of the party echoes.
-/

namespace Conduit

/-- The endpoint on which a callback is called directly. -/
def Event.calledOn : Event → Option Nat
  | .callRead e _ _ | .callWrite e _ _ => some e
  | .callControl _ e _ | .callCreate _ e | .callDestroy _ e => e
  | _ => none

/-! ### Replies without tokens -/

namespace Reply

theorem ofOutcome_matches (n : Naming) (outcome : Outcome Nat) :
    (ofOutcome outcome).Matches n (ofOutcome outcome) := by
  cases outcome <;> rfl

theorem ofControl_matches (n : Naming) (progress : ControlProgress) :
    (ofControl progress).Matches n (ofControl progress) := by
  cases progress <;> rfl

theorem ofFlush_matches (n : Naming) (k c : Nat) (purpose : Purpose) (progress : Outlet.Progress) :
    (ofFlush k c purpose progress).1.Matches n (ofFlush k c purpose progress).1 := by
  cases progress with
  | ended outcome =>
    cases purpose with
    | control => rfl
    | _ => exact ofOutcome_matches n outcome
  | _ => rfl

end Reply

/-- Only events that bear on the layout reply with tokens. -/
theorem Session.reply_matches_self {event : Event} (h : event.isBinding = false) (s : Session)
    (n : Naming) : (s.step event).value.Matches n (s.step event).value := by
  cases event with
  | openInlet | openOutlet | request | markEnded | append | callRead | callWrite | callCreate |
    takeSeen =>
    simp only [step]
    split <;> rfl
  | share | setFlags =>
    simp only [step, onPresent]
    split <;> rfl
  | pump k =>
    simp only [step, pump]
    split
    · rfl
    · split <;> rfl
  | flush k =>
    simp only [step, flushFor]
    split
    · rfl
    · exact Reply.ofFlush_matches n _ _ _ _
  | flushAll j =>
    simp only [step, flushFor]
    split
    · rfl
    · split
      · rfl
      · exact Reply.ofFlush_matches n _ _ _ _
  | readDone k answer =>
    simp only [step, readDone]
    split
    · rfl
    · split
      · exact Reply.ofOutcome_matches n _
      · rfl
  | writeDone k answer =>
    simp only [step, writeDone]
    split
    · rfl
    · split
      · rfl
      · exact Reply.ofFlush_matches n _ _ _ _
  | read e size present | write e size buffer | streamRead e size =>
    simp only [step]
    split <;> rfl
  | streamWrite e data | streamWriteAll e data =>
    simp only [step]
    split <;> rfl
  | control e number =>
    simp only [step]
    split
    · rfl
    · exact Reply.ofControl_matches n _
  | callControl side e number =>
    simp only [step]
    split
    · cases side with
      | inbound => rfl
      | outbound => exact Reply.ofControl_matches n _
    · rfl
  | expectFault => rfl
  | attach | disconnect | openDuplex | close | dropDuplex | free | setData | callDestroy |
    openForeign => cases h

namespace Compartment

open Session Effect

variable {x : Compartment} {n : Naming} {others : Side → Token → Prop} {base s t : Session}
  {e k : Nat} {side : Side}

/-- Two effects have the same value and log and leave sessions that mirror one another. -/
abbrev Same {α : Type} (x : Compartment) (n : Naming) (others : Side → Token → Prop)
    (base : Session) : Effect α → Effect α → Prop := Related (x.Mirror n others base)

/-- Two calls that the engine may not be able to make. -/
abbrev SameCall {α : Type} (x : Compartment) (n : Naming) (others : Side → Token → Prop)
    (base : Session) : Option (Effect α) → Option (Effect α) → Prop :=
  Option.Rel (x.Same n others base)

/-! ### Adapters -/

theorem same_pump (h : x.Mirror n others base s t) (hk : x.inlet k = true) :
    x.Same n others base (s.pump k) (t.pump k) := by
  rw [pump, pump, h.inlets k hk]
  cases t.inlets.get? k with
  | none => exact ⟨h, rfl, rfl⟩
  | some i =>
    dsimp only
    split
    · exact ⟨h, rfl, rfl⟩
    · exact ⟨h, rfl, rfl⟩
    · exact ⟨h.putInlet hk _, rfl, rfl⟩

theorem same_readDone (h : x.Mirror n others base s t) (hk : x.inlet k = true)
    (answer : ReadAnswer) : x.Same n others base (s.readDone k answer) (t.readDone k answer) := by
  rw [readDone, readDone, h.inlets k hk]
  cases t.inlets.get? k with
  | none => exact ⟨h, rfl, rfl⟩
  | some i =>
    dsimp only
    split
    · exact ⟨h.putInlet hk _, rfl, rfl⟩
    · exact ⟨h, rfl, rfl⟩

theorem same_flushFor (h : x.Mirror n others base s t) (hk : x.outlet k = true)
    (purpose : Purpose) : x.Same n others base (s.flushFor k purpose) (t.flushFor k purpose) := by
  rw [flushFor, flushFor, h.outlets k hk]
  cases t.outlets.get? k with
  | none => exact ⟨h, rfl, rfl⟩
  | some o => exact ⟨h.putOutlet hk _, rfl, rfl⟩

theorem same_writeDone (h : x.Mirror n others base s t) (hk : x.outlet k = true)
    (answer : WriteAnswer) :
    x.Same n others base (s.writeDone k answer) (t.writeDone k answer) := by
  rw [writeDone, writeDone, h.outlets k hk]
  cases t.outlets.get? k with
  | none => exact ⟨h, rfl, rfl⟩
  | some o =>
    dsimp only
    cases o.answer answer with
    | none => exact ⟨h, rfl, rfl⟩
    | some found => exact ⟨h.putOutlet hk _, rfl, rfl⟩

/-! ### Callbacks -/

theorem same_onRead (h : x.Mirror n others base s t) (he : x.side? e = some .inbound) (size : Int)
    (present : Bool) :
    x.Same n others base (s.onRead e size present) (t.onRead e size present) := by
  have hflags := h.modifyFlags he Flags.clearRetry
  obtain ⟨hfound, howned⟩ := h.inletAt?_eq he
  rw [onRead, onRead]
  simp only [inletAt?_modifyFlags, hfound]
  cases hi : t.inletAt? e with
  | none => exact ⟨hflags, rfl, rfl⟩
  | some found =>
    obtain ⟨k, i⟩ := found
    dsimp only
    cases checkBuffer size present with
    | error reason => exact ⟨hflags, rfl, rfl⟩
    | ok m =>
      dsimp only
      by_cases hpeek : m = 0 ∧ 0 < i.pending
      · simp only [if_pos hpeek]
        exact ⟨hflags, rfl, rfl⟩
      · simp only [if_neg hpeek]
        split
        · exact ⟨hflags.putInlet (howned k i hi) _, rfl, rfl⟩
        · exact ⟨hflags, rfl, rfl⟩
        · exact ⟨hflags.modifyFlags he _, rfl, rfl⟩

theorem same_onWrite (h : x.Mirror n others base s t) (he : x.side? e = some .outbound)
    (size : Int) (buffer : Option Bytes) :
    x.Same n others base (s.onWrite e size buffer) (t.onWrite e size buffer) := by
  have hflags := h.modifyFlags he Flags.clearRetry
  obtain ⟨hfound, howned⟩ := h.outletAt?_eq he
  rw [onWrite, onWrite]
  simp only [outletAt?_modifyFlags, hfound]
  cases ho : t.outletAt? e with
  | none => exact ⟨hflags, rfl, rfl⟩
  | some found =>
    obtain ⟨k, o⟩ := found
    dsimp only
    cases checkBuffer size buffer.isSome with
    | error reason => exact ⟨hflags, rfl, rfl⟩
    | ok m => exact ⟨hflags.putOutlet (howned k o ho) _, rfl, rfl⟩

theorem onReadControl_eq (h : x.Mirror n others base s t) (he : x.side? e = some .inbound)
    (c : Control) : s.onReadControl (some e) c = t.onReadControl (some e) c := by
  simp only [onReadControl, Option.bind_some, (h.inletAt?_eq he).1]

theorem same_onWriteControl (h : x.Mirror n others base s t) (he : x.side? e = some .outbound)
    (c : Control) :
    x.Same n others base (s.onWriteControl (some e) c) (t.onWriteControl (some e) c) := by
  obtain ⟨hfound, howned⟩ := h.outletAt?_eq he
  cases c with
  | writePending =>
    simp only [onWriteControl, Option.bind_some, hfound]
    exact ⟨h, rfl, rfl⟩
  | flush =>
    simp only [onWriteControl, Option.bind_some, hfound]
    cases ho : t.outletAt? e with
    | none => exact ⟨h, rfl, rfl⟩
    | some found =>
      obtain ⟨k, o⟩ := found
      have hstarted := h.putOutlet (howned k o ho) (o.start .control).1
      simp only [startFlush]
      rcases hstart : o.start .control with ⟨o', progress⟩
      rw [hstart] at hstarted
      cases progress <;> exact ⟨hstarted, rfl, rfl⟩
  | _ => exact ⟨h, rfl, rfl⟩

/-! ### The engine's own calls -/

theorem same_read (h : x.Mirror n others base s t) (he : x.side? e = some side) (size : Int)
    (present : Bool) :
    x.SameCall n others base (s.read e size present) (t.read e size present) := by
  rw [Session.read, Session.read]
  rcases h.endpoint_cases he with ⟨hs, ht⟩ | ⟨b, c, hs, ht, hbc⟩ <;> rw [hs, ht]
  · exact .none
  · simp only [dispatchRead, hbc.form, hbc.form', Endpoint.Form.serves, decide_eq_true_eq]
    split
    · next hside =>
      split
      · exact .some ⟨h, rfl, rfl⟩
      · exact .some ((same_onRead h (hside ▸ he) size present).map (·.checked size))
    · exact .none

theorem same_write (h : x.Mirror n others base s t) (he : x.side? e = some side) (size : Int)
    (buffer : Option Bytes) :
    x.SameCall n others base (s.write e size buffer) (t.write e size buffer) := by
  rw [Session.write, Session.write]
  rcases h.endpoint_cases he with ⟨hs, ht⟩ | ⟨b, c, hs, ht, hbc⟩ <;> rw [hs, ht]
  · exact .none
  · simp only [dispatchWrite, hbc.form, hbc.form', Endpoint.Form.serves, decide_eq_true_eq]
    split
    · next hside =>
      split
      · exact .some ⟨h, rfl, rfl⟩
      · exact .some (same_onWrite h (hside ▸ he) size buffer)
    · exact .none

theorem same_control (h : x.Mirror n others base s t) (he : x.side? e = some side) (number : Int) :
    x.SameCall n others base (s.control e number) (t.control e number) := by
  rw [Session.control, Session.control]
  rcases h.endpoint_cases he with ⟨hs, ht⟩ | ⟨b, c, hs, ht, hbc⟩ <;> rw [hs, ht]
  · exact .none
  · simp only [hbc.form, hbc.form']
    cases side with
    | inbound => exact .some ⟨h, congrArg ControlProgress.code (onReadControl_eq h he _), rfl⟩
    | outbound => exact .some (same_onWriteControl h he _)

/-! ### Attaching and detaching -/

/-- The engine makes both endpoints, and the tokens stand for one another, or neither. -/
theorem attach_cases (h : x.Mirror n others base s t) {a : Adapter}
    (he : x.side? e = some a.side) (ha : x.adapter a = true) :
    (∃ s' t' u v, s.attach e a = ⟨s', .ok u, [.attached a u]⟩ ∧
        t.attach e a = ⟨t', .ok v, [.attached a v]⟩ ∧
        x.Mirror (n.add a.side u v) others base s' t') ∨
      ∃ s' t', s.attach e a = ⟨s', .error .createFailed, []⟩ ∧
        t.attach e a = ⟨t', .error .createFailed, []⟩ ∧ x.Mirror n others base s' t' := by
  obtain ⟨hok, hcalm, htable⟩ := Engine.newEndpoint_of_calm h.calm a.side
  obtain ⟨hok', hcalm', htable'⟩ := Engine.newEndpoint_of_calm h.calm' a.side
  have hengine := h.withEngine hcalm hcalm' htable htable'
  rw [attach, attach]
  by_cases hbuilt : (s.engine.table a.side).tried = .built
  · have hbuilt' : (t.engine.table a.side).tried = .built := h.tables a.side ▸ hbuilt
    rw [decide_eq_true hbuilt] at hok
    rw [decide_eq_true hbuilt'] at hok'
    simp only [hok, hok', if_true]
    have hentered := hengine.enter ha
    refine Or.inl ⟨_, _, _, _, rfl, rfl, hentered.putEndpoint he ?_ ?_ ?_⟩
    · exact ⟨rfl, rfl, .some (Or.inr ⟨rfl, rfl, rfl⟩), rfl, rfl⟩
    · have := htable a.side
      rw [if_pos rfl, hbuilt] at this
      cases a <;> exact this
    · have := htable' a.side
      rw [if_pos rfl, hbuilt'] at this
      cases a <;> exact this
  -- the table could not be had at some earlier time, which is the same in both
  · have hbuilt' : ¬ (t.engine.table a.side).tried = .built := h.tables a.side ▸ hbuilt
    rw [decide_eq_false hbuilt] at hok
    rw [decide_eq_false hbuilt'] at hok'
    simp only [hok, hok', Bool.false_eq_true, if_false]
    exact Or.inr ⟨_, _, rfl, rfl, hengine⟩

/-- What an operation that only logs comes to in sessions that mirror one another. -/
def EchoLog (x : Compartment) (n : Naming) (others : Side → Token → Prop) (base : Session)
    (a b : Session × List LogLine) : Prop :=
  x.Mirror n others base a.1 b.1 ∧ List.Forall₂ (LogLine.Matches n) a.2 b.2

theorem echo_disconnect (h : x.Mirror n others base s t) {a : Adapter}
    (he : x.side? e = some a.side) :
    x.EchoLog n others base (s.disconnect e a) (t.disconnect e a) := by
  rcases h.token?_cases he with ⟨hs, ht⟩ | ⟨u, v, hs, ht, huv⟩
  · rw [disconnect_of_empty hs, disconnect_of_empty ht]
    exact ⟨h, .nil⟩
  · simp only [disconnect, hs, ht, Roster.removeIf, h.entries _ u v huv]
    by_cases hentry : (t.roster a.side).get? v = some a.key
    · simp only [if_pos hentry]
      exact ⟨h.cut he huv, .cons ⟨rfl, huv⟩ .nil⟩
    · simp only [if_neg hentry]
      exact ⟨h, .nil⟩

theorem echo_release (h : x.Mirror n others base s t) (he : x.side? e = some side) :
    x.EchoLog n others base (s.release side e) (t.release side e) := by
  rcases h.token?_cases he with ⟨hs, ht⟩ | ⟨u, v, hs, ht, huv⟩
  · rw [release_of_empty hs, release_of_empty ht]
    exact ⟨h, .nil⟩
  · simp only [release, hs, ht]
    exact ⟨h.cut he huv, .cons ⟨rfl, huv⟩ .nil⟩

theorem echo_free (h : x.Mirror n others base s t) (he : x.side? e = some side) :
    x.EchoLog n others base (s.free e) (t.free e) := by
  rw [free, free]
  rcases h.endpoint_cases he with ⟨hs, ht⟩ | ⟨b, c, hs, ht, hbc⟩ <;> rw [hs, ht]
  · exact ⟨h, .nil⟩
  · simp only [hbc.references, hbc.form, hbc.form']
    split
    · refine ⟨h.modifyEndpoint he fun _ _ hbc => ?_, .nil⟩
      exact { hbc with references := congrArg (· - 1) hbc.references }
    · obtain ⟨hmirror, hlog⟩ := echo_release h he
      exact ⟨hmirror.eraseEndpoint he, hlog⟩

/-! ### Duplexes -/

theorem echo_close (h : x.Mirror n others base s t) {j : Nat} (hj : x.duplex j = true) :
    x.EchoLog n others base (s.close j) (t.close j) := by
  rw [close, close, h.duplexes j hj]
  cases hd : t.duplexes.get? j with
  | none => exact ⟨h, .nil⟩
  | some d =>
    have hholds := h.holds j d hj hd
    obtain ⟨-, -, hread, hwrite⟩ := holds_iff.mp hholds
    dsimp only
    split
    · exact ⟨h, .nil⟩
    · have hmarked := h.putDuplex hj (d := { d with closed := true }) hholds
      obtain ⟨hfirst, hlog⟩ := echo_disconnect hmarked (a := .inlet d.inlet) hread
      obtain ⟨hsecond, hlog'⟩ := echo_disconnect hfirst (a := .outlet d.outlet) hwrite
      exact ⟨hsecond, List.rel_append (List.rel_append hlog hlog') (.cons rfl .nil)⟩

theorem echo_dropDuplex (h : x.Mirror n others base s t) {j : Nat} (hj : x.duplex j = true) :
    x.EchoLog n others base (s.dropDuplex j) (t.dropDuplex j) := by
  obtain ⟨hclosed, hclosing⟩ := echo_close h hj
  rw [dropDuplex, dropDuplex, h.duplexes j hj]
  cases hd : t.duplexes.get? j with
  | none => exact ⟨h, .nil⟩
  | some d =>
    obtain ⟨-, -, hread, hwrite⟩ := holds_iff.mp (h.holds j d hj hd)
    obtain ⟨hfirst, hlog⟩ := echo_free (hclosed.eraseDuplex hj) hread
    obtain ⟨hsecond, hlog'⟩ := echo_free hfirst hwrite
    exact ⟨hsecond, List.rel_append (List.rel_append hclosing hlog) hlog'⟩

/-! ### Events -/

/-- Two replies and logs are the same but for the numbers of tokens, and the sessions that are left
mirror one another. -/
structure Echoes (x : Compartment) (n : Naming) (others : Side → Token → Prop) (base : Session)
    (a b : Effect Reply) : Prop where
  mirror : x.Mirror n others base a.session b.session
  reply : a.value.Matches n b.value
  log : List.Forall₂ (LogLine.Matches n) a.log b.log

theorem EchoLog.onPresent (h : x.Mirror n others base s t) {present present' : Bool}
    (hpresent : present = present') {a b : Session × List LogLine}
    (hab : x.EchoLog n others base a b) :
    x.Echoes n others base (s.onPresent present a) (t.onPresent present' b) := by
  subst hpresent
  rw [Session.onPresent, Session.onPresent]
  split
  · exact ⟨hab.1, rfl, hab.2⟩
  · exact ⟨h, rfl, .nil⟩

/-- Effects that are the same echo, if there is nothing about tokens in them. -/
theorem echoes_of_related {a b : Effect Reply} (h : x.Same n others base a b)
    (hreply : a.value.Matches n a.value) (hlog : ∀ line ∈ a.log, line.isBinding = false) :
    x.Echoes n others base a b where
  mirror := h.session
  reply := h.value ▸ hreply
  log := h.log ▸ List.forall₂_same.mpr fun line hline => LogLine.matches_self (hlog line hline) n

/-- An endpoint that is made is made in both sessions, or in neither. -/
theorem echoes_attach (h : x.Mirror n others base s t) {a : Adapter}
    (he : x.side? e = some a.side) (ha : x.adapter a = true) :
    ∃ m, n ≤ m ∧ x.Echoes m others base (s.step (.attach e a)) (t.step (.attach e a)) := by
  simp only [step, h.contains_endpoints he]
  split
  · exact ⟨n, le_rfl, h, rfl, .nil⟩
  · rcases attach_cases h he ha with ⟨s', t', u, v, hs, ht, hmirror⟩ | ⟨s', t', hs, ht, hmirror⟩ <;>
      rw [hs, ht]
    · have huv : n.add a.side u v a.side u v := Or.inr ⟨rfl, rfl, rfl⟩
      exact ⟨_, n.le_add _ _ _, hmirror, ⟨_, huv⟩, .cons ⟨rfl, huv⟩ .nil⟩
    · exact ⟨n, le_rfl, hmirror, rfl, .nil⟩

/-- A duplex that is made is made in both sessions, or in neither. -/
theorem echoes_openDuplex (h : x.Mirror n others base s t) {j : Nat} (hj : x.duplex j = true)
    {d : DuplexKeys} (hd : x.holds d = true) (connection : Nat) (settings : Settings) :
    ∃ m, n ≤ m ∧ x.Echoes m others base (s.step (.openDuplex j d connection settings))
      (t.step (.openDuplex j d connection settings)) := by
  obtain ⟨hinlet, houtlet, hread, hwrite⟩ := holds_iff.mp hd
  simp only [step, h.contains_duplexes hj, h.contains_inlets hinlet, h.contains_outlets houtlet,
    h.contains_endpoints hread, h.contains_endpoints hwrite]
  split
  · exact ⟨n, le_rfl, h, rfl, .nil⟩
  · have hmade := (h.putInlet hinlet
      (.make connection settings.releaseBuffers [settings.recordSize])).putOutlet houtlet
        (.make connection settings.releaseBuffers)
    rw [openDuplex, openDuplex]
    rcases attach_cases hmade (a := .inlet d.inlet) hread hinlet with
      ⟨s₁, t₁, u, v, hs, ht, hfirst⟩ | ⟨s₁, t₁, hs, ht, hfirst⟩ <;> simp only [hs, ht]
    · have huv : n.add .inbound u v .inbound u v := Or.inr ⟨rfl, rfl, rfl⟩
      rcases attach_cases hfirst (a := .outlet d.outlet) hwrite houtlet with
        ⟨s₂, t₂, u', v', hs', ht', hsecond⟩ | ⟨s₂, t₂, hs', ht', hsecond⟩ <;> simp only [hs', ht']
      · have huv' : (n.add .inbound u v).add .outbound u' v' .outbound u' v' :=
          Or.inr ⟨rfl, rfl, rfl⟩
        refine ⟨_, (n.le_add .inbound u v).trans (Naming.le_add _ .outbound u' v'),
          hsecond.putDuplex hj hd, ⟨Or.inl huv, huv'⟩, ?_⟩
        exact .cons ⟨rfl, Or.inl huv⟩ (.cons ⟨rfl, huv'⟩ .nil)
      · obtain ⟨hfreed, hlog⟩ := echo_free hsecond hread
        exact ⟨_, n.le_add .inbound u v, hfreed, rfl, .cons ⟨rfl, huv⟩ hlog⟩
    · exact ⟨n, le_rfl, hfirst, rfl, .nil⟩

theorem hasCallbacks_of_contains (h : x.Mirror n others base s t) (he : x.side? e = some side)
    (hlive : s.endpoints.contains e = true) :
    s.hasCallbacks side = true ∧ t.hasCallbacks side = true := by
  obtain ⟨hs, ht⟩ := h.built e side he (h.contains_endpoints he ▸ hlive)
  simp [hasCallbacks, hs, ht, MethodTable.hasCallbacks]

/-- An event of the party that leaves the layout alone does the very same in both sessions. -/
theorem same_step (h : x.Mirror n others base s t) {event : Event} (howned : x.owns event = true)
    (hbinding : event.isBinding = false)
    (hlive : ∀ e, event.calledOn = some e → s.endpoints.contains e = true) :
    x.Same n others base (s.step event) (t.step event) := by
  cases event with
  | openInlet k connection release sizes =>
    simp only [step, h.contains_inlets howned]
    split
    · exact ⟨h, rfl, rfl⟩
    · exact ⟨h.putInlet howned _, rfl, rfl⟩
  | openOutlet k connection release =>
    simp only [step, h.contains_outlets howned]
    split
    · exact ⟨h, rfl, rfl⟩
    · exact ⟨h.putOutlet howned _, rfl, rfl⟩
  | request k size =>
    simp only [step, h.inlets k howned]
    cases t.inlets.get? k with
    | none => exact ⟨h, rfl, rfl⟩
    | some i => exact ⟨h.putInlet howned _, rfl, rfl⟩
  | markEnded k =>
    simp only [step, h.inlets k howned]
    cases t.inlets.get? k with
    | none => exact ⟨h, rfl, rfl⟩
    | some i => exact ⟨h.putInlet howned _, rfl, rfl⟩
  | pump k => exact same_pump h howned
  | append k data =>
    simp only [step, h.outlets k howned]
    cases t.outlets.get? k with
    | none => exact ⟨h, rfl, rfl⟩
    | some o => exact ⟨h.putOutlet howned _, rfl, rfl⟩
  | flush k => exact same_flushFor h howned .single
  | readDone k answer => exact same_readDone h howned answer
  | writeDone k answer => exact same_writeDone h howned answer
  | flushAll j =>
    simp only [step, h.duplexes j howned]
    cases hd : t.duplexes.get? j with
    | none => exact ⟨h, rfl, rfl⟩
    | some d => exact same_flushFor h (holds_iff.mp (h.holds j d howned hd)).2.1 (.drain 0)
  | share e =>
    obtain ⟨side, he⟩ := Option.isSome_iff_exists.mp howned
    simp only [step, onPresent, h.contains_endpoints he]
    split
    · exact ⟨h.share he, rfl, rfl⟩
    · exact ⟨h, rfl, rfl⟩
  | setFlags e flags =>
    obtain ⟨side, he⟩ := Option.isSome_iff_exists.mp howned
    simp only [step, onPresent, h.contains_endpoints he]
    split
    · exact ⟨h.modifyFlags he (·.union flags), rfl, rfl⟩
    · exact ⟨h, rfl, rfl⟩
  | read | write | streamRead | streamWrite | streamWriteAll =>
    obtain ⟨side, he⟩ := Option.isSome_iff_exists.mp howned
    exact related_step_of_transfersOn rfl (same_read h he) (fun _ _ h => same_write h he) h
  | control e number =>
    obtain ⟨side, he⟩ := Option.isSome_iff_exists.mp howned
    simp only [step]
    rcases related_cases (same_control h he number) with
      ⟨hs, ht⟩ | ⟨s', t', value, log, hs, ht, hmirror⟩ <;> rw [hs, ht]
    · exact ⟨h, rfl, rfl⟩
    · exact ⟨hmirror, rfl, rfl⟩
  | callRead e size present =>
    have he : x.side? e = some .inbound := of_decide_eq_true howned
    have hcallbacks := hasCallbacks_of_contains h he (hlive e rfl)
    simp only [step, hcallbacks, if_true]
    exact (same_onRead h he size present).map Reply.transfer
  | callWrite e size buffer =>
    have he : x.side? e = some .outbound := of_decide_eq_true howned
    have hcallbacks := hasCallbacks_of_contains h he (hlive e rfl)
    simp only [step, hcallbacks, if_true]
    exact (same_onWrite h he size buffer).map Reply.code
  | callControl side e number =>
    cases e with
    | none => simp [owns] at howned
    | some e =>
      have he : x.side? e = some side := of_decide_eq_true howned
      have hcallbacks := hasCallbacks_of_contains h he (hlive e rfl)
      simp only [step, hcallbacks, if_true]
      cases side with
      | inbound => exact ⟨h, congrArg Reply.code (onReadControl_eq h he _), rfl⟩
      | outbound => exact (same_onWriteControl h he _).map Reply.ofControl
  | callCreate side e =>
    cases e with
    | none => simp [owns] at howned
    | some e =>
      have hcallbacks := hasCallbacks_of_contains h (of_decide_eq_true howned) (hlive e rfl)
      simp only [step, hcallbacks, if_true]
      exact ⟨h, rfl, rfl⟩
  | takeSeen | expectFault => cases howned
  | attach | disconnect | openDuplex | close | dropDuplex | free | setData | callDestroy |
    openForeign => cases hbinding

/-- **An event of the party echoes**: it comes to the same in both sessions but for the numbers of
tokens. -/
theorem echoes_step (h : x.Mirror n others base s t) {event : Event} (howned : x.owns event = true)
    (hlive : ∀ e, event.calledOn = some e → s.endpoints.contains e = true) :
    ∃ m, n ≤ m ∧ x.Echoes m others base (s.step event) (t.step event) := by
  by_cases hbinding : event.isBinding = false
  · exact ⟨n, le_rfl, echoes_of_related (same_step h howned hbinding hlive)
      (reply_matches_self hbinding s n) (aloof_step hbinding s).log⟩
  · cases event with
    | attach e a =>
      simp only [owns, Bool.and_eq_true, decide_eq_true_eq] at howned
      exact echoes_attach h howned.1 howned.2
    | openDuplex j d connection settings =>
      simp only [owns, Bool.and_eq_true] at howned
      exact echoes_openDuplex h howned.1 howned.2 connection settings
    | disconnect e a =>
      simp only [owns, Bool.and_eq_true, decide_eq_true_eq] at howned
      exact ⟨n, le_rfl, (echo_disconnect h howned.1).onPresent h (h.contains_endpoints howned.1)⟩
    | close j => exact ⟨n, le_rfl, (echo_close h howned).onPresent h (h.contains_duplexes howned)⟩
    | dropDuplex j =>
      exact ⟨n, le_rfl, (echo_dropDuplex h howned).onPresent h (h.contains_duplexes howned)⟩
    | free e =>
      obtain ⟨side, he⟩ := Option.isSome_iff_exists.mp howned
      exact ⟨n, le_rfl, (echo_free h he).onPresent h (h.contains_endpoints he)⟩
    | callDestroy side e =>
      cases e with
      | none => simp [owns] at howned
      | some e =>
        have he : x.side? e = some side := of_decide_eq_true howned
        have hcallbacks := hasCallbacks_of_contains h he (hlive e rfl)
        obtain ⟨hmirror, hlog⟩ := echo_release h he
        simp only [step, hcallbacks, if_true]
        exact ⟨n, le_rfl, hmirror, rfl, hlog⟩
    | setData | openForeign => cases howned
    | _ => exact absurd rfl hbinding

end Compartment

end Conduit

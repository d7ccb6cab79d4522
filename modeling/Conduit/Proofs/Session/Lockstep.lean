import Conduit.Proofs.Inlet.Ledger
import Conduit.Proofs.Session.Custody
import Conduit.Proofs.Session.Likeness
import Conduit.Proofs.Session.Transfers
/-!
# Two sessions in step

What one operation, and then what one event, does to two sessions that are alike: the same on both
sides, as long as it keeps away from the gap between them.

## Main definitions

* `Conduit.Gap.Even`: an event that keeps away from the gap, that is from the adapters that differ
  (`Conduit.Gap.EvenAdapters`) and from the endpoints, the duplexes and the tokens
  (`Conduit.Gap.EvenEnds`).

## Main results

* `same_step`: such an event has the same reply and log in both sessions and leaves them alike.
-/

namespace Conduit.Gap

open Session

variable {g : Gap} {s t : Session} {e : Nat}

/-! ### Attaching and detaching -/

/-- A token that is yet to be issued is none of the gap. -/
theorem Alike.not_token_next (h : g.Alike s t) (side : Side) :
    ¬ g.token side (s.roster side).next :=
  fun hu => Nat.lt_irrefl _ (h.old side _ hu)

/-- The same is entered in both rosters of a side. -/
theorem Alike.enter (h : g.Alike s t) (side : Side) (k : Nat) :
    g.Alike (s.withRoster side ((s.roster side).add k).2)
      (t.withRoster side ((t.roster side).add k).2) := by
  refine h.withRoster (by simp [h.issued]) (by simp) fun u hu => ?_
  rw [Roster.get?_add, Roster.get?_add, h.next_eq, h.entries side u hu]

theorem same_attach (h : g.Alike s t) (e : Nat) (a : Adapter) :
    g.Same (s.attach e a) (t.attach e a) := by
  rw [attach, attach, ← h.engine]
  rcases s.engine.newEndpoint a.side with ⟨ok, engine⟩
  have hengine := h.withEngine engine
  cases ok with
  | false => exact ⟨hengine, rfl, rfl⟩
  | true =>
    have hnext := hengine.next_eq a.side
    have hnew := hengine.not_token_next a.side
    dsimp only [Roster.add] at hnew ⊢
    rw [← hnext]
    refine ⟨Alike.putEndpoint ?_ ?_, rfl, rfl⟩
    · have := hengine.enter a.side a.key
      simpa only [Roster.add, ← hnext] using this
    · rintro side u ⟨⟩ ⟨⟩
      exact hnew

theorem alike_disconnect (h : g.Alike s t) {a : Adapter} (he : g.Clear s a.side e) :
    g.Alike (s.disconnect e a).1 (t.disconnect e a).1 ∧
      (s.disconnect e a).2 = (t.disconnect e a).2 := by
  rw [disconnect, disconnect, ← h.token?_eq he.1]
  cases hu : s.token? e with
  | none => exact ⟨h, rfl⟩
  | some u =>
    simp only [Roster.removeIf, ← h.entries a.side u (he.2 u hu)]
    by_cases hentry : (s.roster a.side).get? u = some a.key
    · simp only [if_pos hentry]
      exact ⟨h.cut a.side u e, trivial⟩
    · simp only [if_neg hentry]
      exact ⟨h, trivial⟩

theorem Clear.disconnect {side : Side} (he : g.Clear s side e) (j : Nat) (a : Adapter) :
    g.Clear (s.disconnect j a).1 side e :=
  ⟨he.1, fun u hu => he.2 u (fades_disconnect s j a e u hu).1⟩

theorem alike_release (h : g.Alike s t) (he : ¬ g.endpoint e) (side : Side) :
    g.Alike (s.release side e).1 (t.release side e).1 ∧
      (s.release side e).2 = (t.release side e).2 := by
  rw [release, release, ← h.token?_eq he]
  cases hu : s.token? e with
  | none => exact ⟨h, rfl⟩
  | some u => exact ⟨h.cut side u e, rfl⟩

theorem alike_free (h : g.Alike s t) (he : ¬ g.endpoint e) :
    g.Alike (s.free e).1 (t.free e).1 ∧ (s.free e).2 = (t.free e).2 := by
  rw [free, free, ← h.endpoints e he]
  cases hb : s.endpoints.get? e with
  | none => exact ⟨h, rfl⟩
  | some b =>
    dsimp only
    by_cases hlast : 1 < b.references
    · simp only [if_pos hlast]
      exact ⟨h.modifyEndpoint_of_stamp he fun _ => ⟨rfl, rfl⟩, trivial⟩
    · simp only [if_neg hlast]
      cases b.form with
      | adapter side =>
        obtain ⟨halike, hlog⟩ := alike_release h he side
        exact ⟨halike.eraseEndpoint e, hlog⟩
      | _ => exact ⟨h.eraseEndpoint e, rfl⟩

/-! ### Duplexes -/

/-- The endpoints of a duplex keep away from the gap. -/
def ClearEnds (g : Gap) (s : Session) (d : DuplexKeys) : Prop :=
  g.Clear s .inbound d.readEnd ∧ g.Clear s .outbound d.writeEnd

theorem alike_close (h : g.Alike s t) {j : Nat} (hj : ¬ g.duplex j)
    (hends : ∀ d, s.duplexes.get? j = some d → g.ClearEnds s d.toDuplexKeys) :
    g.Alike (s.close j).1 (t.close j).1 ∧ (s.close j).2 = (t.close j).2 := by
  rw [close, close, ← h.duplexes j hj]
  cases hd : s.duplexes.get? j with
  | none => exact ⟨h, rfl⟩
  | some d =>
    obtain ⟨hread, hwrite⟩ := hends d hd
    cases hclosed : d.closed with
    | true => simpa [hclosed] using h
    | false =>
      simp only [hclosed, Bool.false_eq_true, if_false]
      have hmarked := h.putDuplex hj { d with closed := true }
      obtain ⟨hfirst, hlog⟩ := alike_disconnect (a := .inlet d.inlet) hmarked hread
      obtain ⟨hsecond, hlog'⟩ := alike_disconnect (a := .outlet d.outlet) hfirst
        (Clear.disconnect (s := { s with duplexes := s.duplexes.put j { d with closed := true } })
          hwrite d.readEnd (.inlet d.inlet))
      exact ⟨hsecond, by rw [hlog, hlog']⟩

theorem alike_dropDuplex (h : g.Alike s t) {j : Nat} (hj : ¬ g.duplex j)
    (hends : ∀ d, s.duplexes.get? j = some d → g.ClearEnds s d.toDuplexKeys) :
    g.Alike (s.dropDuplex j).1 (t.dropDuplex j).1 ∧
      (s.dropDuplex j).2 = (t.dropDuplex j).2 := by
  obtain ⟨hclosed, hclosing⟩ := alike_close h hj hends
  rw [dropDuplex, dropDuplex, ← h.duplexes j hj]
  cases hd : s.duplexes.get? j with
  | none => exact ⟨h, rfl⟩
  | some d =>
    obtain ⟨hread, hwrite⟩ := hends d hd
    obtain ⟨hfirst, hlog⟩ := alike_free (hclosed.eraseDuplex hj) hread.1
    obtain ⟨hsecond, hlog'⟩ := alike_free hfirst hwrite.1
    refine ⟨hsecond, ?_⟩
    dsimp only
    rw [hclosing, hlog, hlog']

/-- The settings may differ in what the adapters made from them need not agree in. -/
theorem same_openDuplex (h : g.Alike s t) {j : Nat} (hj : ¬ g.duplex j) {d : DuplexKeys}
    (hread : ¬ g.endpoint d.readEnd) {connection : Nat} {settings settings' : Settings}
    (hinlet : g.inlet d.inlet
      (.make connection settings.releaseBuffers [settings.recordSize])
      (.make connection settings'.releaseBuffers [settings'.recordSize]))
    (houtlet : g.outlet d.outlet (.make connection settings.releaseBuffers)
      (.make connection settings'.releaseBuffers)) :
    g.Same (s.openDuplex j d connection settings) (t.openDuplex j d connection settings') := by
  have hmade := (h.putInlet hinlet).putOutlet houtlet
  have hfirst := same_attach hmade d.readEnd (.inlet d.inlet)
  rw [openDuplex, openDuplex]
  dsimp only
  rw [← hfirst.value]
  split
  · exact ⟨hfirst.alike, rfl, hfirst.log⟩
  · next readToken _ =>
    have hsecond := same_attach hfirst.alike d.writeEnd (.outlet d.outlet)
    rw [← hsecond.value]
    split
    · obtain ⟨hfreed, hlog⟩ := alike_free hsecond.alike hread
      exact ⟨hfreed, rfl, by dsimp only; rw [hfirst.log, hsecond.log, hlog]⟩
    · exact ⟨hsecond.alike.putDuplex hj _, rfl, by dsimp only; rw [hfirst.log, hsecond.log]⟩

/-! ### The engine's calls -/

theorem same_onRead (h : g.Alike s t) (hg : g.Lawful) (he : g.Clear s .inbound e) (size : Int)
    (present : Bool) : g.Same (s.onRead e size present) (t.onRead e size present) := by
  have hflags := h.modifyFlags he.1 Flags.clearRetry
  rw [onRead, onRead]
  simp only [inletAt?_modifyFlags]
  rcases h.inletAt?_cases he with ⟨hs, ht⟩ | ⟨k, i, j, hs, ht, hij⟩
  · rw [hs, ht]
    exact ⟨hflags, rfl, rfl⟩
  · rw [hs, ht]
    dsimp only
    cases checkBuffer size present with
    | error reason => exact ⟨hflags, rfl, rfl⟩
    | ok n =>
      have hbuffer := hg.buffer hij
      have hpending : i.pending = j.pending := congrArg List.length hbuffer
      dsimp only
      rw [hpending]
      by_cases hpeek : n = 0 ∧ 0 < j.pending
      · simp only [if_pos hpeek]
        exact ⟨hflags, rfl, rfl⟩
      · simp only [if_neg hpeek]
        by_cases hempty : i.buffer = []
        · rw [Inlet.request_of_empty hempty, Inlet.request_of_empty (hbuffer ▸ hempty),
            hg.ended hij]
          cases j.ended
          · exact ⟨hflags.modifyFlags he.1 _, rfl, rfl⟩
          · exact ⟨hflags, rfl, rfl⟩
        · rw [Inlet.request_of_buffered hempty, Inlet.request_of_buffered (hbuffer ▸ hempty)]
          refine ⟨hflags.putInlet (hg.take hij n), ?_, rfl⟩
          dsimp only
          rw [hbuffer]

theorem same_onWrite (h : g.Alike s t) (hg : g.Lawful) (he : g.Clear s .outbound e) (size : Int)
    (buffer : Option Bytes) : g.Same (s.onWrite e size buffer) (t.onWrite e size buffer) := by
  have hflags := h.modifyFlags he.1 Flags.clearRetry
  rw [onWrite, onWrite]
  simp only [outletAt?_modifyFlags]
  rcases h.outletAt?_cases he with ⟨hs, ht⟩ | ⟨k, o, p, hs, ht, hop⟩
  · rw [hs, ht]
    exact ⟨hflags, rfl, rfl⟩
  · rw [hs, ht]
    dsimp only
    cases checkBuffer size buffer.isSome with
    | error reason => exact ⟨hflags, rfl, rfl⟩
    | ok n => exact ⟨hflags.putOutlet (hg.append hop _), rfl, rfl⟩

theorem onReadControl_eq (h : g.Alike s t) (hg : g.Lawful) {e : Option Nat}
    (he : ∀ j, e = some j → g.Clear s .inbound j) (c : Control) :
    s.onReadControl e c = t.onReadControl e c := by
  have hfound : e.bind s.inletAt? = none ∧ e.bind t.inletAt? = none ∨
      ∃ k i j, e.bind s.inletAt? = some (k, i) ∧ e.bind t.inletAt? = some (k, j) ∧
        g.inlet k i j := by
    cases e with
    | none => exact Or.inl ⟨rfl, rfl⟩
    | some j => exact h.inletAt?_cases (he j rfl)
  cases c with
  | pending | ended =>
    rcases hfound with ⟨hs, ht⟩ | ⟨k, i, j, hs, ht, hij⟩
    · simp only [onReadControl, hs, ht]
    · have hpending : i.pending = j.pending := congrArg List.length (hg.buffer hij)
      simp only [onReadControl, hs, ht, Option.map_some, Option.getD_some, hpending, hg.ended hij]
  | _ => rfl

/-- A control command keeps away from the gap if it does not have to do with outlets that differ. -/
def EvenControl (g : Gap) : Control → Prop
  | .flush => ∀ k, g.outlet k = Eq
  | .writePending => ∀ k o p, g.outlet k o p → o.pending = p.pending
  | _ => True

theorem same_onWriteControl (h : g.Alike s t) {e : Option Nat}
    (he : ∀ j, e = some j → g.Clear s .outbound j) {c : Control} (hc : g.EvenControl c) :
    g.Same (s.onWriteControl e c) (t.onWriteControl e c) := by
  have hfound : e.bind s.outletAt? = none ∧ e.bind t.outletAt? = none ∨
      ∃ k o p, e.bind s.outletAt? = some (k, o) ∧ e.bind t.outletAt? = some (k, p) ∧
        g.outlet k o p := by
    cases e with
    | none => exact Or.inl ⟨rfl, rfl⟩
    | some j => exact h.outletAt?_cases (he j rfl)
  cases c with
  | writePending =>
    rcases hfound with ⟨hs, ht⟩ | ⟨k, o, p, hs, ht, hop⟩
    · simp only [onWriteControl, hs, ht]
      exact ⟨h, rfl, rfl⟩
    · simp only [onWriteControl, hs, ht, Option.map_some, hc k o p hop]
      exact ⟨h, rfl, rfl⟩
  | flush =>
    rcases hfound with ⟨hs, ht⟩ | ⟨k, o, p, hs, ht, hop⟩
    · simp only [onWriteControl, hs, ht]
      exact ⟨h, rfl, rfl⟩
    · have hsame : o = p := by simpa [hc k] using hop
      subst hsame
      have hstarted := h.putOutlet (k := k) (o := (o.start .control).1) (p := (o.start .control).1)
        (by rw [hc k])
      simp only [onWriteControl, hs, ht, startFlush]
      rcases hstart : o.start .control with ⟨o', progress⟩
      rw [hstart] at hstarted
      cases progress <;> exact ⟨hstarted, rfl, rfl⟩
  | _ => exact ⟨h, rfl, rfl⟩

theorem same_flushFor (h : g.Alike s t) {k : Nat} (hk : g.outlet k = Eq) (purpose : Purpose) :
    g.Same (s.flushFor k purpose) (t.flushFor k purpose) := by
  rw [flushFor, flushFor]
  rcases h.outlet_cases k with ⟨hs, ht⟩ | ⟨o, p, hs, ht, hop⟩
  · rw [hs, ht]
    exact ⟨h, rfl, rfl⟩
  · have hsame : o = p := by simpa [hk] using hop
    subst hsame
    rw [hs, ht]
    exact ⟨h.putOutlet (by rw [hk]), rfl, rfl⟩

theorem same_writeDone (h : g.Alike s t) {k : Nat} (hk : g.outlet k = Eq) (a : WriteAnswer) :
    g.Same (s.writeDone k a) (t.writeDone k a) := by
  rw [writeDone, writeDone]
  rcases h.outlet_cases k with ⟨hs, ht⟩ | ⟨o, p, hs, ht, hop⟩
  · rw [hs, ht]
    exact ⟨h, rfl, rfl⟩
  · have hsame : o = p := by simpa [hk] using hop
    subst hsame
    rw [hs, ht]
    dsimp only
    cases o.answer a with
    | none => exact ⟨h, rfl, rfl⟩
    | some found => exact ⟨h.putOutlet (by rw [hk]), rfl, rfl⟩

theorem same_pump (h : g.Alike s t) {k : Nat} (hk : g.inlet k = Eq) :
    g.Same (s.pump k) (t.pump k) := by
  rw [pump, pump]
  rcases h.inlet_cases k with ⟨hs, ht⟩ | ⟨i, j, hs, ht, hij⟩
  · rw [hs, ht]
    exact ⟨h, rfl, rfl⟩
  · have hsame : i = j := by simpa [hk] using hij
    subst hsame
    rw [hs, ht]
    dsimp only
    split
    · exact ⟨h, rfl, rfl⟩
    · exact ⟨h, rfl, rfl⟩
    · exact ⟨h.putInlet (by rw [hk]), rfl, rfl⟩

theorem same_readDone (h : g.Alike s t) {k : Nat} (hk : g.inlet k = Eq) (a : ReadAnswer) :
    g.Same (s.readDone k a) (t.readDone k a) := by
  rw [readDone, readDone]
  rcases h.inlet_cases k with ⟨hs, ht⟩ | ⟨i, j, hs, ht, hij⟩
  · rw [hs, ht]
    exact ⟨h, rfl, rfl⟩
  · have hsame : i = j := by simpa [hk] using hij
    subst hsame
    rw [hs, ht]
    dsimp only
    split
    · exact ⟨h.putInlet (by rw [hk]), rfl, rfl⟩
    · exact ⟨h, rfl, rfl⟩

/-! ### The engine's own calls -/

/-- Two calls that the engine may not be able to make. -/
def SameCall {α : Type} (g : Gap) (x y : Option (Effect α)) : Prop := Option.Rel g.Same x y

theorem SameCall.cases {α : Type} {x y : Option (Effect α)} (h : g.SameCall x y) :
    x = none ∧ y = none ∨
      ∃ s t value log, x = some ⟨s, value, log⟩ ∧ y = some ⟨t, value, log⟩ ∧ g.Alike s t := by
  cases h with
  | none => exact Or.inl ⟨rfl, rfl⟩
  | some h =>
    obtain ⟨s, t, value, log, rfl, rfl, halike⟩ := h.exists_eq
    exact Or.inr ⟨s, t, value, log, rfl, rfl, halike⟩

theorem Same.of_related {α : Type} {x y : Effect α} (h : Effect.Related g.Alike x y) :
    g.Same x y :=
  ⟨h.session, h.value, h.log⟩

theorem SameCall.related {α : Type} {x y : Option (Effect α)} (h : g.SameCall x y) :
    Option.Rel (Effect.Related g.Alike) x y := by
  cases h with
  | none => exact .none
  | some h => exact .some ⟨h.alike, h.value, h.log⟩

theorem same_dispatchRead (h : g.Alike s t) (hg : g.Lawful) (he : ¬ g.endpoint e) {b : Endpoint}
    (hb : s.endpoints.get? e = some b) (hserves : b.form.serves .inbound = true) (size : Int)
    (present : Bool) :
    g.Same (s.dispatchRead e b size present) (t.dispatchRead e b size present) := by
  rw [dispatchRead, dispatchRead]
  split
  · next side hform =>
    have hside : side = .inbound := by simpa [hform, Endpoint.Form.serves] using hserves
    exact same_onRead h hg (h.clear_of_form he hb (hside ▸ hform)) size present
  · exact ⟨h.modifyEndpoint_of_foreign (by simp), rfl, rfl⟩
  · exact ⟨h.modifyEndpoint_of_foreign (by simp), rfl, rfl⟩

theorem same_read (h : g.Alike s t) (hg : g.Lawful) (he : ¬ g.endpoint e) (size : Int)
    (present : Bool) : g.SameCall (s.read e size present) (t.read e size present) := by
  rw [Session.read, Session.read, ← h.endpoints e he]
  cases hb : s.endpoints.get? e with
  | none => exact .none
  | some b =>
    dsimp only
    by_cases hserves : b.form.serves .inbound = true
    · simp only [if_pos hserves]
      by_cases hsize : size < 0
      · simp only [if_pos hsize]
        exact .some ⟨h, rfl, rfl⟩
      · simp only [if_neg hsize]
        have hsame := same_dispatchRead h hg he hb hserves size present
        exact .some ⟨hsame.alike, by rw [hsame.value], hsame.log⟩
    · simp only [if_neg hserves]
      exact .none

theorem same_dispatchWrite (h : g.Alike s t) (hg : g.Lawful) (he : ¬ g.endpoint e) {b : Endpoint}
    (hb : s.endpoints.get? e = some b) (hserves : b.form.serves .outbound = true) (size : Int)
    (buffer : Option Bytes) :
    g.Same (s.dispatchWrite e b size buffer) (t.dispatchWrite e b size buffer) := by
  rw [dispatchWrite, dispatchWrite]
  split
  · next side hform =>
    have hside : side = .outbound := by simpa [hform, Endpoint.Form.serves] using hserves
    exact same_onWrite h hg (h.clear_of_form he hb (hside ▸ hform)) size buffer
  · next memory hform =>
    cases buffer with
    | none => exact ⟨h.modifyEndpoint_of_stamp he fun _ => ⟨rfl, rfl⟩, rfl, rfl⟩
    | some data => exact ⟨h.modifyEndpoint_of_foreign (by simp), rfl, rfl⟩
  · exact ⟨h.modifyEndpoint_of_foreign (by simp), rfl, rfl⟩

theorem same_write (h : g.Alike s t) (hg : g.Lawful) (he : ¬ g.endpoint e) (size : Int)
    (buffer : Option Bytes) : g.SameCall (s.write e size buffer) (t.write e size buffer) := by
  rw [Session.write, Session.write, ← h.endpoints e he]
  cases hb : s.endpoints.get? e with
  | none => exact .none
  | some b =>
    dsimp only
    by_cases hserves : b.form.serves .outbound = true
    · simp only [if_pos hserves]
      by_cases hsize : size ≤ 0
      · simp only [if_pos hsize]
        exact .some ⟨h, rfl, rfl⟩
      · simp only [if_neg hsize]
        exact .some (same_dispatchWrite h hg he hb hserves size buffer)
    · simp only [if_neg hserves]
      exact .none

theorem same_control (h : g.Alike s t) (hg : g.Lawful) (he : ¬ g.endpoint e) {number : Int}
    (hnumber : g.EvenControl (.ofNumber number)) :
    g.SameCall (s.control e number) (t.control e number) := by
  rw [Session.control, Session.control, ← h.endpoints e he]
  cases hb : s.endpoints.get? e with
  | none => exact .none
  | some b =>
    dsimp only
    split
    · next hform =>
      have hclear := h.clear_of_form he hb hform
      rw [onReadControl_eq h hg (by rintro j ⟨⟩; exact hclear)]
      exact .some ⟨h, rfl, rfl⟩
    · next hform =>
      have hclear := h.clear_of_form he hb hform
      exact .some (same_onWriteControl h (by rintro j ⟨⟩; exact hclear) hnumber)
    · exact .some ⟨h.modifyEndpoint_of_foreign (by simp), rfl, rfl⟩
    · exact .some ⟨h, rfl, rfl⟩

/-! ### All events -/

/-- An event that does nothing to adapters that differ but what belonging together allows for. -/
def EvenAdapters (g : Gap) (s : Session) : Event → Prop
  | .openInlet k _ _ _ => s.inlets.get? k = none → ∀ i, g.inlet k i i
  | .openOutlet k _ _ => s.outlets.get? k = none → ∀ o, g.outlet k o o
  | .openDuplex _ d _ _ =>
      (s.inlets.get? d.inlet = none → ∀ i, g.inlet d.inlet i i) ∧
        (s.outlets.get? d.outlet = none → ∀ o, g.outlet d.outlet o o)
  | .pump k | .readDone k _ => g.inlet k = Eq
  | .flush k | .writeDone k _ => g.outlet k = Eq
  | .flushAll _ => ∀ k, g.outlet k = Eq
  | .control _ number | .callControl _ _ number => g.EvenControl (.ofNumber number)
  | _ => True

/-- An event that does not use the endpoints, the duplexes and the tokens of the gap. -/
def EvenEnds (g : Gap) (s : Session) : Event → Prop
  | .openDuplex j d _ _ => ¬ g.duplex j ∧ ¬ g.endpoint d.readEnd ∧ ¬ g.endpoint d.writeEnd
  | .flushAll j => g.duplex j → s.duplexes.contains j = true
  | .close j | .dropDuplex j =>
      ¬ g.duplex j ∧ ∀ d, s.duplexes.get? j = some d → g.ClearEnds s d.toDuplexKeys
  | .disconnect e a => g.Clear s a.side e
  | .setData e data => ¬ g.endpoint e ∧ ∀ u, data = some u → ∀ side, ¬ g.token side u
  | .callRead e _ _ => g.Clear s .inbound e
  | .callWrite e _ _ => g.Clear s .outbound e
  | .callControl side e _ => ∀ j, e = some j → g.Clear s side j
  | .callDestroy _ e => ∀ j, e = some j → ¬ g.endpoint j
  | .attach e _ | .share e | .free e | .setFlags e _ | .read e _ _ | .write e _ _ | .control e _
  | .streamRead e _ | .streamWrite e _ | .streamWriteAll e _ | .openForeign e _ | .takeSeen e =>
      ¬ g.endpoint e
  | _ => True

/-- An event that keeps away from the gap. -/
structure Even (g : Gap) (s : Session) (event : Event) : Prop where
  adapters : g.EvenAdapters s event
  ends : g.EvenEnds s event

/-- Where no outlets differ, no control command has to do with those that do. -/
theorem evenControl_of_eq (houtlet : ∀ k, g.outlet k = Eq) (c : Control) : g.EvenControl c := by
  cases c with
  | writePending =>
    intro k o p h
    rw [houtlet] at h
    rw [h]
  | flush => exact houtlet
  | _ => trivial

/-- Where no adapters differ, no event does anything to those that do. -/
theorem evenAdapters_of_eq (hinlet : ∀ k, g.inlet k = Eq) (houtlet : ∀ k, g.outlet k = Eq)
    (s : Session) (event : Event) : g.EvenAdapters s event := by
  cases event with
  | openInlet k | openOutlet k => simp [EvenAdapters, hinlet, houtlet]
  | openDuplex j d => simp [EvenAdapters, hinlet, houtlet]
  | pump k | readDone k => exact hinlet k
  | flush k | writeDone k => exact houtlet k
  | flushAll => exact houtlet
  | control | callControl => exact evenControl_of_eq houtlet _
  | _ => trivial

/-- Where only adapters differ, no event uses anything else of the gap. -/
theorem evenEnds_of_adapters (hendpoint : ∀ e, ¬ g.endpoint e) (hduplex : ∀ j, ¬ g.duplex j)
    (htoken : ∀ side u, ¬ g.token side u) (s : Session) (event : Event) : g.EvenEnds s event := by
  have hclear : ∀ side e, g.Clear s side e := fun side e => ⟨hendpoint e, fun u _ => htoken side u⟩
  cases event with
  | openDuplex => exact ⟨hduplex _, hendpoint _, hendpoint _⟩
  | flushAll j => exact fun hj => absurd hj (hduplex j)
  | close | dropDuplex => exact ⟨hduplex _, fun _ _ => ⟨hclear _ _, hclear _ _⟩⟩
  | disconnect | callRead | callWrite => exact hclear _ _
  | setData => exact ⟨hendpoint _, fun u _ side => htoken side u⟩
  | callControl => exact fun _ _ => hclear _ _
  | callDestroy => exact fun _ _ => hendpoint _
  | attach | share | free | setFlags | read | write | control | streamRead | streamWrite |
    streamWriteAll | openForeign | takeSeen => exact hendpoint _
  | _ => trivial

/-- What logs and replies only that it is done, on an object that both have or have not. -/
theorem same_onPresent (h : g.Alike s t) {present present' : Bool} (hpresent : present = present')
    {x y : Session × List LogLine} (hxy : g.Alike x.1 y.1 ∧ x.2 = y.2) :
    g.Same (s.onPresent present x) (t.onPresent present' y) := by
  subst hpresent
  rw [onPresent, onPresent]
  split
  · exact ⟨hxy.1, rfl, hxy.2⟩
  · exact ⟨h, rfl, rfl⟩

theorem Alike.hasCallbacks_eq (h : g.Alike s t) (side : Side) :
    s.hasCallbacks side = t.hasCallbacks side := by
  rw [hasCallbacks, hasCallbacks, h.engine]

theorem same_request (h : g.Alike s t) (hg : g.Lawful) (k size : Nat) :
    g.Same (s.step (.request k size)) (t.step (.request k size)) := by
  simp only [step]
  rcases h.inlet_cases k with ⟨hs, ht⟩ | ⟨i, j, hs, ht, hij⟩
  · rw [hs, ht]
    exact ⟨h, rfl, rfl⟩
  · rw [hs, ht]
    refine ⟨?_, ?_, rfl⟩
    · dsimp only
      rw [Inlet.request_snd, Inlet.request_snd]
      exact h.putInlet (hg.take hij size)
    · have hbuffer := hg.buffer hij
      dsimp only
      by_cases hempty : i.buffer = []
      · rw [Inlet.request_of_empty hempty, Inlet.request_of_empty (hbuffer ▸ hempty),
          hg.ended hij]
      · rw [Inlet.request_of_buffered hempty, Inlet.request_of_buffered (hbuffer ▸ hempty),
          hbuffer]

theorem same_opening (h : g.Alike s t) {j : Nat} {d : DuplexKeys} {connection : Nat}
    {settings settings' : Settings} (hends : g.EvenEnds s (.openDuplex j d connection settings))
    (hinlet : s.inlets.get? d.inlet = none → g.inlet d.inlet
      (.make connection settings.releaseBuffers [settings.recordSize])
      (.make connection settings'.releaseBuffers [settings'.recordSize]))
    (houtlet : s.outlets.get? d.outlet = none → g.outlet d.outlet
      (.make connection settings.releaseBuffers) (.make connection settings'.releaseBuffers)) :
    g.Same (s.step (.openDuplex j d connection settings))
      (t.step (.openDuplex j d connection settings')) := by
  obtain ⟨hj, hread, hwrite⟩ := hends
  simp only [step, ← h.contains_duplexes hj, ← h.contains_inlets, ← h.contains_outlets,
    ← h.contains_endpoints hread, ← h.contains_endpoints hwrite]
  split
  · exact ⟨h, rfl, rfl⟩
  · next hfresh =>
    simp only [Bool.or_eq_true, not_or, Table.contains_iff, not_exists] at hfresh
    have hnoInlet : s.inlets.get? d.inlet = none :=
      Option.eq_none_iff_forall_not_mem.mpr hfresh.1.1.1.1.2
    have hnoOutlet : s.outlets.get? d.outlet = none :=
      Option.eq_none_iff_forall_not_mem.mpr hfresh.1.1.1.2
    obtain ⟨s', t', outcome, log, hs, ht, halike⟩ := (same_openDuplex h hj hread
      (hinlet hnoInlet) (houtlet hnoOutlet)).exists_eq
    rw [hs, ht]
    cases outcome <;> exact ⟨halike, rfl, rfl⟩

/-- **An event that keeps away from the gap does the same in both sessions.** -/
theorem same_step (h : g.Alike s t) (hg : g.Lawful) {event : Event} (heven : g.Even s event) :
    g.Same (s.step event) (t.step event) := by
  obtain ⟨hadapters, hends⟩ := heven
  cases event with
  | openInlet k connection release sizes =>
    simp only [step, ← h.contains_inlets]
    split
    · exact ⟨h, rfl, rfl⟩
    · next hnew => exact ⟨h.putInlet (hadapters (by simpa [Table.contains] using hnew) _), rfl, rfl⟩
  | openOutlet k connection release =>
    simp only [step, ← h.contains_outlets]
    split
    · exact ⟨h, rfl, rfl⟩
    · next hnew =>
      exact ⟨h.putOutlet (hadapters (by simpa [Table.contains] using hnew) _), rfl, rfl⟩
  | request k size => exact same_request h hg k size
  | markEnded k =>
    simp only [step]
    rcases h.inlet_cases k with ⟨hs, ht⟩ | ⟨i, j, hs, ht, hij⟩
    · rw [hs, ht]
      exact ⟨h, rfl, rfl⟩
    · rw [hs, ht]
      exact ⟨h.putInlet (hg.mark hij), rfl, rfl⟩
  | pump k => exact same_pump h hadapters
  | append k data =>
    simp only [step]
    rcases h.outlet_cases k with ⟨hs, ht⟩ | ⟨o, p, hs, ht, hop⟩
    · rw [hs, ht]
      exact ⟨h, rfl, rfl⟩
    · rw [hs, ht]
      exact ⟨h.putOutlet (hg.append hop data), rfl, rfl⟩
  | flush k => exact same_flushFor h hadapters .single
  | readDone k a => exact same_readDone h hadapters a
  | writeDone k a => exact same_writeDone h hadapters a
  | openDuplex j d connection settings =>
    exact same_opening h hends (fun hnew => hadapters.1 hnew _) fun hnew => hadapters.2 hnew _
  | flushAll j =>
    simp only [step]
    by_cases hj : g.duplex j
    · obtain ⟨d, hd⟩ := Table.contains_iff.mp (hends hj)
      obtain ⟨d', hd', hkeys⟩ := h.keys j d hj hd
      rw [hd, hd']
      dsimp only
      rw [hkeys]
      exact same_flushFor h (hadapters _) (.drain 0)
    · rw [← h.duplexes j hj]
      cases s.duplexes.get? j with
      | none => exact ⟨h, rfl, rfl⟩
      | some d => exact same_flushFor h (hadapters _) (.drain 0)
  | close j => exact same_onPresent h (h.contains_duplexes hends.1) (alike_close h hends.1 hends.2)
  | dropDuplex j =>
    exact same_onPresent h (h.contains_duplexes hends.1) (alike_dropDuplex h hends.1 hends.2)
  | attach e a =>
    simp only [step, ← h.contains_endpoints hends]
    split
    · exact ⟨h, rfl, rfl⟩
    · obtain ⟨s', t', outcome, log, hs, ht, halike⟩ := (same_attach h e a).exists_eq
      rw [hs, ht]
      cases outcome <;> exact ⟨halike, rfl, rfl⟩
  | disconnect e a =>
    exact same_onPresent h (h.contains_endpoints hends.1) (alike_disconnect h hends)
  | share e =>
    exact same_onPresent h (h.contains_endpoints hends)
      ⟨h.modifyEndpoint_of_stamp hends fun _ => ⟨rfl, rfl⟩, rfl⟩
  | free e => exact same_onPresent h (h.contains_endpoints hends) (alike_free h hends)
  | setData e data =>
    refine same_onPresent h (h.contains_endpoints hends.1) ⟨h.modifyEndpoint ?_, rfl⟩
    exact fun _ _ side u _ hdata => hends.2 u hdata side
  | setFlags e flags =>
    exact same_onPresent h (h.contains_endpoints hends) ⟨h.modifyFlags hends (·.union flags), rfl⟩
  | read | write | streamRead | streamWrite | streamWriteAll =>
    exact .of_related (related_step_of_transfersOn rfl
      (fun size present => (same_read h hg hends size present).related)
      (fun _ _ h size buffer => (same_write h hg hends size buffer).related) h)
  | control e number =>
    simp only [step]
    rcases (same_control h hg hends hadapters).cases with
      ⟨hs, ht⟩ | ⟨s', t', value, log, hs, ht, halike⟩
    · rw [hs, ht]
      exact ⟨h, rfl, rfl⟩
    · rw [hs, ht]
      exact ⟨halike, rfl, rfl⟩
  | callRead e size present =>
    have hsame := same_onRead h hg hends size present
    simp only [step, ← h.hasCallbacks_eq]
    split
    · exact hsame.map Reply.transfer
    · exact ⟨h, rfl, rfl⟩
  | callWrite e size buffer =>
    have hsame := same_onWrite h hg hends size buffer
    simp only [step, ← h.hasCallbacks_eq]
    split
    · exact hsame.map Reply.code
    · exact ⟨h, rfl, rfl⟩
  | callControl side e number =>
    simp only [step, ← h.hasCallbacks_eq]
    split
    · cases side with
      | inbound => exact ⟨h, by simp only [onReadControl_eq h hg hends], rfl⟩
      | outbound =>
        exact (same_onWriteControl h hends hadapters).map Reply.ofControl
    · exact ⟨h, rfl, rfl⟩
  | callCreate side e =>
    simp only [step, ← h.hasCallbacks_eq]
    split <;> exact ⟨h, rfl, rfl⟩
  | callDestroy side e =>
    simp only [step, ← h.hasCallbacks_eq]
    split
    · cases e with
      | none => exact ⟨h, rfl, rfl⟩
      | some e =>
        obtain ⟨halike, hlog⟩ := alike_release h (hends e rfl) side
        exact ⟨halike, rfl, hlog⟩
    · exact ⟨h, rfl, rfl⟩
  | openForeign e form =>
    simp only [step, ← h.contains_endpoints hends]
    split
    · exact ⟨h, rfl, rfl⟩
    · exact ⟨h.putEndpoint (by simp), rfl, rfl⟩
  | takeSeen e =>
    simp only [step, ← h.endpoints e hends]
    split
    · exact ⟨h.modifyEndpoint_of_foreign (by simp), rfl, rfl⟩
    · exact ⟨h, rfl, rfl⟩
  | expectFault c skip =>
    simp only [step, ← h.engine]
    exact ⟨h.withEngine _, rfl, rfl⟩

end Conduit.Gap

import Conduit.Proofs.Session.Lockstep
import Conduit.Proofs.Session.Opened
/-!
# Closing loses nothing

A duplex is closed by its owner, or by being dropped, as often as the owner likes and whatever is in
progress. From then on its endpoints are of no use to the engine, while its adapters go on as if
nothing had happened: what was buffered is still there to be read, and what was written is still
there to be flushed.

The second half compares two runs. In the one the duplex is closed at some point, and in the other
it is not, and whatever goes through its endpoints afterwards is left out, as it comes to nothing in
the first. The gap between the two sessions is the endpoints of the duplex, its tokens and the
duplex itself. An event of the first run that is left out of the second stays within the gap; any
other keeps away from it, so that it does the same in both.

## Main definitions

* `Conduit.Gap.Within`: a session is changed within a gap only.
* `Conduit.Session.Minds`: what the comparison asks of an event.
* `Conduit.Session.Shut`: what holds of a duplex from its closing on.

## Main results

* `within_step`: what goes through the endpoints of a closed duplex stays within the gap.
* `alike_run`: the two runs agree on all other events.
* `closing_loses_nothing`.
-/

namespace Conduit

namespace Gap

open Session

/-- What changes from one session to the other is within the gap. -/
structure Within (g : Gap) (s t : Session) : Prop where
  engine : t.engine = s.engine
  inlets : t.inlets = s.inlets
  outlets : t.outlets = s.outlets
  endpoints : ∀ e, ¬ g.endpoint e → t.endpoints.get? e = s.endpoints.get? e
  duplexes : ∀ j, ¬ g.duplex j → t.duplexes.get? j = s.duplexes.get? j
  issued : ∀ side, (t.roster side).issued = (s.roster side).issued
  entries : ∀ side u, ¬ g.token side u → (t.roster side).get? u = (s.roster side).get? u
  keys : ∀ j c, g.duplex j → t.duplexes.get? j = some c →
    ∃ c', s.duplexes.get? j = some c' ∧ c'.toDuplexKeys = c.toDuplexKeys

variable {g : Gap} {s t u : Session} {e : Nat}

namespace Within

theorem refl (g : Gap) (s : Session) : g.Within s s where
  engine := rfl
  inlets := rfl
  outlets := rfl
  endpoints _ _ := rfl
  duplexes _ _ := rfl
  issued _ := rfl
  entries _ _ _ := rfl
  keys _ c _ hc := ⟨c, hc, rfl⟩

theorem trans (h : g.Within s t) (h' : g.Within t u) : g.Within s u where
  engine := h'.engine.trans h.engine
  inlets := h'.inlets.trans h.inlets
  outlets := h'.outlets.trans h.outlets
  endpoints e he := (h'.endpoints e he).trans (h.endpoints e he)
  duplexes j hj := (h'.duplexes j hj).trans (h.duplexes j hj)
  issued side := (h'.issued side).trans (h.issued side)
  entries side v hv := (h'.entries side v hv).trans (h.entries side v hv)
  keys j c hj hc := by
    obtain ⟨c', hc', hkeys'⟩ := h'.keys j c hj hc
    obtain ⟨c'', hc'', hkeys''⟩ := h.keys j c' hj hc'
    exact ⟨c'', hc'', hkeys''.trans hkeys'⟩

/-- A change within the gap leaves two sessions alike. -/
theorem alike (h : g.Within s u) (halike : g.Alike s t) : g.Alike u t where
  engine := h.engine.trans halike.engine
  inlets k := by rw [h.inlets]; exact halike.inlets k
  outlets k := by rw [h.outlets]; exact halike.outlets k
  endpoints e he := (h.endpoints e he).trans (halike.endpoints e he)
  duplexes j hj := (h.duplexes j hj).trans (halike.duplexes j hj)
  issued side := (h.issued side).trans (halike.issued side)
  entries side v hv := (h.entries side v hv).trans (halike.entries side v hv)
  own e b side v he hb := halike.own e b side v he (h.endpoints e he ▸ hb)
  old side v hv := by rw [h.issued]; exact halike.old side v hv
  keys j c hj hc := by
    obtain ⟨c', hc', hkeys'⟩ := h.keys j c hj hc
    obtain ⟨c'', hc'', hkeys''⟩ := halike.keys j c' hj hc'
    exact ⟨c'', hc'', hkeys''.trans hkeys'⟩

/-! ### Operations on an endpoint of the gap -/

section

variable (he : g.endpoint e)

include he

theorem withEndpoints {x : Table Nat Endpoint}
    (hx : ∀ j, j ≠ e → x.get? j = s.endpoints.get? j) :
    g.Within s { s with endpoints := x } :=
  { refl g s with
    endpoints := fun j hj => hx j fun hje => hj (hje ▸ he) }

theorem modifyEndpoint (f : Endpoint → Endpoint) : g.Within s (s.modifyEndpoint e f) :=
  withEndpoints he fun j hj => by rw [Table.get?_modify, if_neg hj]

theorem modifyFlags (f : Flags → Flags) : g.Within s (s.modifyFlags e f) :=
  modifyEndpoint he _

theorem cut {side : Side} {v : Token} (hv : g.token side v) :
    g.Within s ((s.withRoster side ((s.roster side).remove v)).setData e none) := by
  refine trans (t := s.withRoster side ((s.roster side).remove v)) ?_ (modifyEndpoint he _)
  exact
    { engine := by cases side <;> rfl
      inlets := by simp
      outlets := by simp
      endpoints := by simp
      duplexes := by simp
      issued := by
        intro way
        rw [roster_withRoster]
        split
        · next h => rw [h]; rfl
        · rfl
      entries := by
        intro way w hw
        rw [roster_withRoster]
        split
        · next h =>
          subst h
          rw [Roster.get?_remove, if_neg]
          rintro rfl
          exact hw hv
        · rfl
      keys := by
        intro j c _ hc
        exact ⟨c, by simpa using hc, rfl⟩ }

theorem disconnect {a : Adapter} (hv : ∀ v, s.token? e = some v → g.token a.side v) :
    g.Within s (s.disconnect e a).1 := by
  rcases disconnect_cases s e a with ⟨hsame, -⟩ | ⟨v, hstored, -, hcut⟩
  · rw [hsame]
    exact refl g s
  · rw [hcut]
    exact cut he (hv v hstored)

/-- Giving up a reference to an endpoint that stores nothing. -/
theorem free (hnone : s.token? e = none) : g.Within s (s.free e).1 := by
  have herased : g.Within s { s with endpoints := s.endpoints.erase e } :=
    withEndpoints he fun j hj => by rw [Table.get?_erase, if_neg hj]
  rw [Session.free]
  split
  · exact refl g s
  · next b _ =>
    split
    · exact modifyEndpoint he _
    · cases b.form with
      | adapter side =>
        dsimp only
        rw [release_of_empty hnone]
        exact herased
      | _ => exact herased

/-! ### Calls on an endpoint of the gap that stores nothing -/

variable (hnone : s.token? e = none)

include hnone

theorem onRead (size : Int) (present : Bool) : g.Within s (s.onRead e size present).session := by
  have hat : s.inletAt? e = none := by simp [inletAt?, resolve, hnone]
  rw [Session.onRead]
  simp only [inletAt?_modifyFlags, hat]
  exact modifyFlags he _

theorem onWrite (size : Int) (buffer : Option Bytes) :
    g.Within s (s.onWrite e size buffer).session := by
  have hat : s.outletAt? e = none := by simp [outletAt?, resolve, hnone]
  rw [Session.onWrite]
  simp only [outletAt?_modifyFlags, hat]
  exact modifyFlags he _

omit he in
theorem onWriteControl (c : Control) : g.Within s (s.onWriteControl (some e) c).session := by
  have hat : s.outletAt? e = none := by simp [outletAt?, resolve, hnone]
  cases c with
  | flush => simpa [Session.onWriteControl, hat] using refl g s
  | _ => exact refl g s

theorem of_read {size : Int} {present : Bool} {effect : Effect Transfer}
    (h : s.read e size present = some effect) : g.Within s effect.session := by
  rw [Session.read] at h
  split at h
  · cases h
  · split at h
    · split at h
      · cases h
        exact refl g s
      · cases h
        dsimp only
        rw [dispatchRead]
        split
        · exact onRead he hnone size present
        · exact modifyEndpoint he _
        · exact modifyEndpoint he _
    · cases h

theorem of_write {size : Int} {buffer : Option Bytes} {effect : Effect Int}
    (h : s.write e size buffer = some effect) : g.Within s effect.session := by
  rw [Session.write] at h
  split at h
  · cases h
  · split at h
    · split at h
      · cases h
        exact refl g s
      · cases h
        rw [dispatchWrite]
        split
        · exact onWrite he hnone size buffer
        · split <;> exact modifyEndpoint he _
        · exact modifyEndpoint he _
    · cases h

theorem of_control {number : Int} {effect : Effect ControlProgress}
    (h : s.control e number = some effect) : g.Within s effect.session := by
  rw [Session.control] at h
  split at h
  · cases h
  · split at h
    · cases h
      exact refl g s
    · cases h
      exact onWriteControl hnone _
    · cases h
      exact modifyEndpoint he _
    · cases h
      exact refl g s

theorem of_streamRead {size : Nat} {effect : Effect Bytes}
    (h : s.streamRead e size = some effect) : g.Within s effect.session :=
  (keeps_streamRead (P := g.Within s) (Q := fun _ => True) (refl g s)
    (fun hread => ⟨of_read he hnone hread, by simp⟩) h).session

theorem of_streamWrite {data : Bytes} {effect : Effect (Except IoError Nat)}
    (h : s.streamWrite e data = some effect) : g.Within s effect.session :=
  (keeps_streamWrite (P := g.Within s) (Q := fun _ => True) (refl g s)
    (fun hwrite => ⟨of_write he hnone hwrite, by simp⟩) h).session

/-- While the pieces are written, the endpoint goes on storing nothing. -/
theorem of_streamWriteAll {data : Bytes} {effect : Effect (Except IoError Unit)}
    (h : s.streamWriteAll e data = some effect) : g.Within s effect.session := by
  refine (keeps_streamWriteAll (P := fun t => g.Within s t ∧ t.token? e = none)
    (Q := fun _ => True) (fun ht _ _ _ hwrite => ⟨⟨?_, ?_⟩, by simp⟩) ⟨refl g s, hnone⟩ h).session.1
  · exact ht.1.trans (of_write he ht.2 hwrite)
  · exact (fades_of_layout (aloof_of_write hwrite).layout e).token?_eq_none ht.2

end

end Within

end Gap

/-- Whether an event goes through an endpoint of a duplex, or closes the duplex. -/
def Event.within (key : Nat) (d : DuplexKeys) : Event → Bool
  | .close j | .dropDuplex j => j = key
  | .disconnect e _ | .share e | .free e | .setFlags e _ | .read e _ _ | .write e _ _
  | .control e _ | .streamRead e _ | .streamWrite e _ | .streamWriteAll e _ | .callRead e _ _
  | .callWrite e _ _ | .callControl _ (some e) _ | .callDestroy _ (some e) | .takeSeen e => d.owns e
  | _ => false

namespace Session

variable {s t : Session} {key : Nat} {d : DuplexKeys} {tokens : Side → Token}

/-- The endpoints of a duplex, its tokens and the duplex itself. -/
def duplexGap (key : Nat) (d : DuplexKeys) (tokens : Side → Token) : Gap where
  endpoint e := d.owns e = true
  duplex j := j = key
  token side v := v = tokens side

theorem within_close (h : s.Opened key d tokens) :
    (duplexGap key d tokens).Within s (s.close key).1 := by
  cases hopen : s.isOpen key with
  | false =>
    have hsame : s.close key = (s, []) := by
      cases hc : s.duplexes.get? key with
      | none => simp [close, hc]
      | some c =>
        have hclosed : c.closed = true := by simpa [isOpen, hc] using hopen
        simp [close, hc, hclosed]
    rw [hsame]
    exact .refl _ s
  | true =>
    obtain ⟨c, hc, hclosed⟩ := isOpen_iff.mp hopen
    obtain rfl := h.keys c hc
    let marked : Session := { s with duplexes := s.duplexes.put key { c with closed := true } }
    have hmarked : (duplexGap key c.toDuplexKeys tokens).Within s marked :=
      { Gap.Within.refl _ s with
        duplexes := fun j hj => by
          change (s.duplexes.put key { c with closed := true }).get? j = _
          rw [Table.get?_put, if_neg (show ¬ j = key from hj)]
        keys := by
          rintro j c' rfl hc'
          change (s.duplexes.put j { c with closed := true }).get? j = _ at hc'
          rw [Table.get?_put, if_pos rfl] at hc'
          cases hc'
          exact ⟨c, hc, rfl⟩ }
    simp only [close, hc, hclosed, Bool.false_eq_true, if_false]
    refine (hmarked.trans (.disconnect (c.owns_endpoint .inbound) fun v hv => ?_)).trans
      (.disconnect (c.owns_endpoint .outbound) fun v hv => ?_)
    · exact (h.stored .inbound v hv).2
    · exact (h.stored .outbound v (fades_disconnect marked _ _ _ v hv).1).2

theorem within_dropDuplex (h : s.Opened key d tokens) :
    (duplexGap key d tokens).Within s (s.dropDuplex key).1 := by
  have hclose := within_close h
  have hempty : ∀ side, (s.close key).1.token? (d.endpoint side) = none := by
    intro side
    cases hopen : s.isOpen key with
    | true => exact token?_close h hopen side
    | false => exact (fades_close s key _).token?_eq_none (h.silent hopen side)
  rw [dropDuplex]
  cases hc : s.duplexes.get? key with
  | none => exact .refl _ s
  | some c =>
    obtain rfl := h.keys c hc
    dsimp only
    rcases hresult : s.close key with ⟨u, closing⟩
    rw [hresult] at hclose hempty
    let erased : Session := { u with duplexes := u.duplexes.erase key }
    have herased : (duplexGap key c.toDuplexKeys tokens).Within u erased :=
      { Gap.Within.refl _ u with
        duplexes := fun j hj => by
          change (u.duplexes.erase key).get? j = _
          rw [Table.get?_erase, if_neg (show ¬ j = key from hj)]
        keys := by
          rintro j c' rfl hc'
          change (u.duplexes.erase j).get? j = _ at hc'
          rw [Table.get?_erase, if_pos rfl] at hc'
          cases hc' }
    refine ((hclose.trans herased).trans (.free (c.owns_endpoint .inbound) ?_)).trans
      (.free (c.owns_endpoint .outbound) ?_)
    · exact hempty .inbound
    · exact (fades_free erased _ _).token?_eq_none (hempty .outbound)

theorem within_onPresent {g : Gap} {present : Bool} {x : Session × List LogLine}
    (hx : g.Within s x.1) : g.Within s (s.onPresent present x).session := by
  rw [onPresent]
  split
  · exact hx
  · exact .refl g s

/-- **What goes through the endpoints of a closed duplex stays within the gap**, and so does closing
it. -/
theorem within_step (h : s.Opened key d tokens) {event : Event}
    (hevent : event.within key d = true)
    (hclosed : s.isOpen key = false ∨ event.closes key = true) :
    (duplexGap key d tokens).Within s (s.step event).session := by
  have hnone : event.closes key = false → ∀ e, d.owns e = true → s.token? e = none := by
    intro hnot e he
    obtain ⟨side, rfl⟩ := DuplexKeys.owns_iff.mp he
    refine h.silent (hclosed.resolve_right ?_) side
    simp [hnot]
  have hgap : ∀ e, d.owns e = true → (duplexGap key d tokens).endpoint e := fun _ => id
  cases event with
  | close j =>
    obtain rfl : j = key := of_decide_eq_true hevent
    exact within_onPresent (within_close h)
  | dropDuplex j =>
    obtain rfl : j = key := of_decide_eq_true hevent
    exact within_onPresent (within_dropDuplex h)
  | disconnect e a =>
    refine within_onPresent ?_
    rw [disconnect_of_empty (hnone rfl e hevent)]
    exact .refl _ s
  | share e => exact within_onPresent (.modifyEndpoint (hgap e hevent) _)
  | setFlags e flags => exact within_onPresent (.modifyFlags (hgap e hevent) (·.union flags))
  | free e => exact within_onPresent (.free (hgap e hevent) (hnone rfl e hevent))
  | read e size present =>
    simp only [step]
    split
    · exact .refl _ s
    · next hread => exact .of_read (hgap e hevent) (hnone rfl e hevent) hread
  | write e size buffer =>
    simp only [step]
    split
    · exact .refl _ s
    · next hwrite => exact .of_write (hgap e hevent) (hnone rfl e hevent) hwrite
  | control e number =>
    simp only [step]
    split
    · exact .refl _ s
    · next hcontrol => exact .of_control (hgap e hevent) (hnone rfl e hevent) hcontrol
  | streamRead e size =>
    simp only [step]
    split
    · exact .refl _ s
    · next hread => exact .of_streamRead (hgap e hevent) (hnone rfl e hevent) hread
  | streamWrite e data =>
    simp only [step]
    split
    · exact .refl _ s
    · next hwrite => exact .of_streamWrite (hgap e hevent) (hnone rfl e hevent) hwrite
    · next hwrite => exact .of_streamWrite (hgap e hevent) (hnone rfl e hevent) hwrite
  | streamWriteAll e data =>
    simp only [step]
    split
    · exact .refl _ s
    · next hwrite => exact .of_streamWriteAll (hgap e hevent) (hnone rfl e hevent) hwrite
    · next hwrite => exact .of_streamWriteAll (hgap e hevent) (hnone rfl e hevent) hwrite
  | callRead e size present =>
    simp only [step]
    split
    · exact .onRead (hgap e hevent) (hnone rfl e hevent) size present
    · exact .refl _ s
  | callWrite e size buffer =>
    simp only [step]
    split
    · exact .onWrite (hgap e hevent) (hnone rfl e hevent) size buffer
    · exact .refl _ s
  | callControl side e number =>
    cases e with
    | none => cases hevent
    | some e =>
      simp only [step]
      split
      · cases side with
        | inbound => exact .refl _ s
        | outbound => exact .onWriteControl (hnone rfl e hevent) _
      · exact .refl _ s
  | callDestroy side e =>
    cases e with
    | none => cases hevent
    | some e =>
      simp only [step]
      split
      · rw [release_of_empty (hnone rfl e hevent)]
        exact .refl _ s
      · exact .refl _ s
  | takeSeen e =>
    simp only [step]
    split
    · exact .modifyEndpoint (hgap e hevent) _
    · exact .refl _ s
  | _ => cases hevent

/-! ### Two runs -/

/-- What the comparison asks of an event, apart from what is asked of every event of an orderly run.
A duplex that has been dropped is not flushed any more, and a callback that is called directly on
some other endpoint does not find there what the duplex stored on that side. -/
def Minds (s : Session) (key : Nat) (d : DuplexKeys) (tokens : Side → Token) : Event → Prop
  | .flushAll j => j = key → s.duplexes.contains key = true
  | .callRead e _ _ => d.owns e = false → s.token? e ≠ some (tokens .inbound)
  | .callWrite e _ _ => d.owns e = false → s.token? e ≠ some (tokens .outbound)
  | .callControl side (some e) _ => d.owns e = false → s.token? e ≠ some (tokens side)
  | _ => True

/-- Every event of a run minds the duplex where it happens. -/
def Heeds (s : Session) (key : Nat) (d : DuplexKeys) (tokens : Side → Token) : List Event → Prop
  | [] => True
  | event :: rest => s.Minds key d tokens event ∧ Heeds (s.step event).session key d tokens rest

theorem not_endpoint_duplexGap {e : Nat} (he : d.owns e = false) :
    ¬ (duplexGap key d tokens).endpoint e := by
  simp [duplexGap, he]

theorem clear_duplexGap {e : Nat} {side : Side} (he : d.owns e = false)
    (htoken : s.token? e ≠ some (tokens side)) : (duplexGap key d tokens).Clear s side e := by
  refine ⟨not_endpoint_duplexGap he, ?_⟩
  rintro v hv rfl
  exact htoken hv

/-- Another endpoint does not store a token of the duplex for its own side. -/
theorem clear_of_side (h : s.Opened key d tokens) {e : Nat} {side : Side} (he : d.owns e = false)
    (hside : s.side? e = some side) : (duplexGap key d tokens).Clear s side e := by
  refine clear_duplexGap he fun hv => ?_
  rw [h.own side e (stamp_of_token hside hv), d.owns_endpoint] at he
  cases he

theorem alike_self (h : s.Opened key d tokens) : (duplexGap key d tokens).Alike s s where
  engine := rfl
  inlets _ := Gap.rel_eq_refl _
  outlets _ := Gap.rel_eq_refl _
  endpoints _ _ := rfl
  duplexes _ _ := rfl
  issued _ := rfl
  entries _ _ _ := rfl
  own := by
    rintro e b side v he hb hform hdata rfl
    have hv : s.token? e = some (tokens side) := by simp [token?, hb, hdata]
    refine he ?_
    rw [h.own side e (stamp_of_token (side?_eq_some_iff.mpr ⟨b, hb, hform⟩) hv)]
    exact d.owns_endpoint side
  old := by
    rintro side v rfl
    exact h.old side
  keys _ c _ hc := ⟨c, hc, rfl⟩

/-- What does not go through the endpoints of a duplex keeps away from the gap. -/
theorem even_of_not_within (h : s.Opened key d tokens) {event : Event} (hadmits : s.Admits event)
    (hspares : event.spares key d = true) (hminds : s.Minds key d tokens event)
    (hevent : event.within key d = false) : (duplexGap key d tokens).Even s event := by
  have hends : ∀ j, j ≠ key → ∀ c, s.duplexes.get? j = some c →
      (duplexGap key d tokens).ClearEnds s c.toDuplexKeys := fun j hj c hc =>
    ⟨clear_of_side h (h.apart j c hc hj .inbound) (h.kept.ends hc .inbound),
      clear_of_side h (h.apart j c hc hj .outbound) (h.kept.ends hc .outbound)⟩
  refine ⟨Gap.evenAdapters_of_eq (fun _ => rfl) (fun _ => rfl) s event, ?_⟩
  cases event with
  | openDuplex j c =>
    obtain ⟨hj, hread, hwrite⟩ := of_decide_eq_true hspares
    exact ⟨hj, not_endpoint_duplexGap hread, not_endpoint_duplexGap hwrite⟩
  | flushAll j =>
    rintro rfl
    exact hminds rfl
  | close j | dropDuplex j =>
    have hj : j ≠ key := of_decide_eq_false hevent
    exact ⟨hj, hends j hj⟩
  | attach | openForeign => exact not_endpoint_duplexGap (of_decide_eq_true hspares)
  | disconnect e a =>
    cases hb : s.endpoints.get? e with
    | none =>
      refine clear_duplexGap hevent ?_
      simp [token?, hb]
    | some b => exact clear_of_side h hevent (side?_eq_some_iff.mpr ⟨b, hb, hadmits b hb⟩)
  | setData => exact hadmits.elim
  | callRead | callWrite => exact clear_duplexGap hevent (hminds hevent)
  | callControl side e number =>
    rintro j rfl
    exact clear_duplexGap hevent (hminds hevent)
  | callDestroy side e =>
    rintro j rfl
    exact not_endpoint_duplexGap hevent
  | share | free | setFlags | read | write | control | streamRead | streamWrite | streamWriteAll |
    takeSeen => exact not_endpoint_duplexGap hevent
  | _ => trivial

/-- **A run after a duplex was closed agrees with the run in which it was not**, on all events that
do not go through its endpoints. -/
theorem alike_run {events : List Event} (h : s.Opened key d tokens)
    (hclosed : s.isOpen key = false) (halike : (duplexGap key d tokens).Alike s t)
    (horderly : s.Orderly events) (hspares : ∀ event ∈ events, event.spares key d = true)
    (hheeds : s.Heeds key d tokens events) :
    (duplexGap key d tokens).Alike (s.run events).1
        (t.run (events.filter (!·.within key d))).1 ∧
      (s.run events).2.filter (!·.event.within key d) =
        (t.run (events.filter (!·.within key d))).2 := by
  induction events generalizing s t with
  | nil => exact ⟨halike, rfl⟩
  | cons event rest ih =>
    simp only [List.forall_mem_cons] at hspares
    have hnext := opened_step h horderly.1 hspares.1
    have hclosed' : (s.step event).session.isOpen key = false := by
      rw [isOpen_step hspares.1, hclosed, Bool.false_and]
    cases hevent : event.within key d with
    | true =>
      have hwithin := within_step h hevent (Or.inl hclosed)
      obtain ⟨halike', hrecords⟩ :=
        ih hnext hclosed' (hwithin.alike halike) horderly.2 hspares.2 hheeds.2
      simp only [run, List.filter_cons, hevent, Bool.not_true, Bool.false_eq_true, if_false]
      exact ⟨halike', hrecords⟩
    | false =>
      obtain ⟨hsame, hvalue, hlog⟩ := Gap.same_step halike
        (Gap.lawful_of_eq (fun _ => rfl) fun _ => rfl)
        (even_of_not_within h horderly.1 hspares.1 hheeds.1 hevent)
      obtain ⟨halike', hrecords⟩ := ih hnext hclosed' hsame horderly.2 hspares.2 hheeds.2
      simp only [run, List.filter_cons, hevent, Bool.not_false, if_true]
      exact ⟨halike', by rw [hrecords, hvalue, hlog]⟩

/-! ### From the closing on -/

/-- A callback on an endpoint changes nothing but its flags, and leaves no retry flag set. -/
structure Fruitless {α : Type} (t : Session) (e : Nat) (effect : Effect α) : Prop where
  flags : ∀ b, effect.session.endpoints.get? e = some b → b.flags.low = 0
  inlets : effect.session.inlets = t.inlets
  outlets : effect.session.outlets = t.outlets

/-- What holds of a duplex with these tokens from its closing on. -/
structure Shut (t : Session) (key : Nat) (d : DuplexKeys) (tokens : Side → Token) : Prop where
  /-- Its endpoints store nothing. -/
  stored : ∀ side, t.token? (d.endpoint side) = none
  /-- Its adapters are not found under the tokens that they had. -/
  unfound : ∀ side, (t.roster side).get? (tokens side) = none
  closed : ∀ c, t.duplexes.get? key = some c → c.closed = true
  read : ∀ side size present, (t.onRead (d.endpoint side) size present).value = ⟨-1, []⟩ ∧
    t.Fruitless (d.endpoint side) (t.onRead (d.endpoint side) size present)
  write : ∀ side size buffer, (t.onWrite (d.endpoint side) size buffer).value = -1 ∧
    t.Fruitless (d.endpoint side) (t.onWrite (d.endpoint side) size buffer)
  /-- Control commands have the same answer as where there is no adapter. -/
  readControl : ∀ side c e, e.bind t.inletAt? = none →
    t.onReadControl (some (d.endpoint side)) c = t.onReadControl e c
  writeControl : ∀ side c e, e.bind t.outletAt? = none →
    t.onWriteControl (some (d.endpoint side)) c = t.onWriteControl e c ∧
      (t.onWriteControl (some (d.endpoint side)) c).session = t

theorem low_clearRetry_of_modifyFlags {e : Nat} {b : Endpoint}
    (hb : (s.modifyFlags e Flags.clearRetry).endpoints.get? e = some b) : b.flags.low = 0 := by
  rw [modifyFlags, modifyEndpoint, Table.get?_modify, if_pos rfl] at hb
  obtain ⟨c, -, rfl⟩ := Option.map_eq_some_iff.mp hb
  rfl

theorem onReadControl_of_none {e e' : Option Nat} (he : e.bind s.inletAt? = none)
    (he' : e'.bind s.inletAt? = none) (c : Control) :
    s.onReadControl e c = s.onReadControl e' c := by
  simp only [onReadControl, he, he']

theorem onWriteControl_of_none {e e' : Option Nat} (he : e.bind s.outletAt? = none)
    (he' : e'.bind s.outletAt? = none) (c : Control) :
    s.onWriteControl e c = s.onWriteControl e' c ∧ (s.onWriteControl e c).session = s := by
  cases c <;> simp [onWriteControl, he, he']

/-- A duplex that is open no longer is shut. -/
theorem shut_of_not_isOpen (h : s.Opened key d tokens) (hclosed : s.isOpen key = false) :
    s.Shut key d tokens := by
  have hnone := h.silent hclosed
  have hinlet : ∀ side, s.inletAt? (d.endpoint side) = none := fun side => by
    simp [inletAt?, resolve, hnone side]
  have houtlet : ∀ side, s.outletAt? (d.endpoint side) = none := fun side => by
    simp [outletAt?, resolve, hnone side]
  exact
    { stored := hnone
      unfound := fun side => h.get?_eq_none (hnone side)
      closed := by
        intro c hc
        simpa [isOpen, hc] using hclosed
      read := by
        intro side size present
        simp only [onRead, inletAt?_modifyFlags, hinlet]
        exact ⟨trivial, fun _ => low_clearRetry_of_modifyFlags, rfl, rfl⟩
      write := by
        intro side size buffer
        simp only [onWrite, outletAt?_modifyFlags, houtlet]
        exact ⟨trivial, fun _ => low_clearRetry_of_modifyFlags, rfl, rfl⟩
      readControl := fun side c e he => onReadControl_of_none (e := some _) (hinlet side) he c
      writeControl := fun side c e he => onWriteControl_of_none (e := some _) (houtlet side) he c }

/-- What an owner finds after a duplex was closed is what it would have found had the duplex not
been closed, and had nothing been tried through its endpoints any more. -/
structure LosesNothing (s : Session) (key : Nat) (d : DuplexKeys) (closing : Event)
    (after : List Event) : Prop where
  /-- The adapters are as they were. -/
  kept : (s.step closing).session.inlets = s.inlets ∧
    (s.step closing).session.outlets = s.outlets
  /-- Everything else that happens comes to the same and logs the same. -/
  records : ((s.step closing).session.run after).2.filter (!·.event.within key d) =
    (s.run (after.filter (!·.within key d))).2
  inlets : ∀ k, ((s.step closing).session.run after).1.inlets.get? k =
    (s.run (after.filter (!·.within key d))).1.inlets.get? k
  outlets : ∀ k, ((s.step closing).session.run after).1.outlets.get? k =
    (s.run (after.filter (!·.within key d))).1.outlets.get? k

theorem losesNothing_of_closes (h : s.Opened key d tokens) {closing : Event}
    (hcloses : closing.closes key = true) {after : List Event}
    (horderly : s.Orderly (closing :: after))
    (hspares : ∀ event ∈ closing :: after, event.spares key d = true)
    (hheeds : (s.step closing).session.Heeds key d tokens after) :
    s.LosesNothing key d closing after := by
  simp only [List.forall_mem_cons] at hspares
  have hwithin : (duplexGap key d tokens).Within s (s.step closing).session := by
    refine within_step h ?_ (Or.inr hcloses)
    cases closing <;> first | exact hcloses | cases hcloses
  have hclosed := isOpen_step_of_closes (s := s) hspares.1 hcloses
  obtain ⟨halike, hrecords⟩ := alike_run (opened_step h horderly.1 hspares.1) hclosed
    (hwithin.alike (alike_self h)) horderly.2 hspares.2 hheeds
  refine ⟨⟨hwithin.inlets, hwithin.outlets⟩, hrecords, fun k => ?_, fun k => ?_⟩
  · obtain ⟨hs, ht⟩ | ⟨i, j, hs, ht, hij⟩ := halike.inlet_cases k
    · rw [hs, ht]
    · rw [hs, ht, show i = j from hij]
  · obtain ⟨hs, ht⟩ | ⟨o, p, hs, ht, hop⟩ := halike.outlet_cases k
    · rw [hs, ht]
    · rw [hs, ht, show o = p from hop]

/-- A duplex is there until it is dropped. -/
theorem isSome_duplexes_run {events : List Event} (hdrop : .dropDuplex key ∉ events)
    (hs : (s.duplexes.get? key).isSome = true) :
    ((s.run events).1.duplexes.get? key).isSome = true := by
  induction events generalizing s with
  | nil => exact hs
  | cons event rest ih =>
    simp only [List.mem_cons, not_or] at hdrop
    refine ih hdrop.2 ?_
    rw [get?_duplexes_step]
    unfold becomes
    split
    · split <;> simpa using hs
    · split
      · next hj => exact absurd (congrArg _ hj.symm) hdrop.1
      · exact hs
    · split
      · rfl
      · exact hs
    · exact hs

theorem orderly_append {first second : List Event} :
    s.Orderly (first ++ second) ↔ s.Orderly first ∧ (s.run first).1.Orderly second := by
  induction first generalizing s with
  | nil => simp [Orderly, run]
  | cons event rest ih => simp only [List.cons_append, Orderly, ih, run, and_assoc]

/-- **Closing is done once and loses nothing.** A duplex is opened at some point of an orderly run
and closed at a later one, by its owner or by being dropped, whatever is in progress, and perhaps
not for the first time. -/
theorem closing_loses_nothing {engine : Engine} {before life after : List Event}
    {key connection : Nat} {d : DuplexKeys} {settings : Settings} {r w : Token} {closing : Event}
    (horderly : ({ engine } : Session).Orderly
      (before ++ .openDuplex key d connection settings :: (life ++ closing :: after)))
    (hopened : ((({ engine } : Session).run before).1.step
      (.openDuplex key d connection settings)).value = .tokens r w)
    (hspares : ∀ event ∈ life ++ closing :: after, event.spares key d = true)
    (hcloses : closing.closes key = true) :
    let opened := (({ engine } : Session).run
      (before ++ [.openDuplex key d connection settings])).1
    let s := (opened.run life).1
    let t := (s.run (closing :: after)).1
    t.Shut key d (Side.pick r w) ∧
      (.dropDuplex key ∉ life ++ closing :: after → ∃ c, t.duplexes.get? key = some c) ∧
      closings key (opened.run (life ++ closing :: after)).2 = 1 ∧
      ((s.step closing).session.Heeds key d (Side.pick r w) after →
        s.LosesNothing key d closing after) := by
  intro opened s t
  have hsession : opened = ((({ engine } : Session).run before).1.step
      (.openDuplex key d connection settings)).session := by
    simp only [opened, run_append, run]
  obtain ⟨hbefore, -, horderly⟩ := orderly_append.mp horderly
  rw [← hsession] at horderly
  obtain ⟨hpassage, hkept⟩ := passage_of_orderly (kept_empty engine) hbefore
  obtain ⟨hinvariant, hopen⟩ :=
    opened_of_tokens hkept ((paired_empty engine).passage hpassage) hopened
  rw [← hsession] at hinvariant hopen
  obtain ⟨hlife, hafter⟩ := orderly_append.mp horderly
  have hs : s.Opened key d (Side.pick r w) :=
    opened_run hinvariant hlife fun event hmem => hspares event (List.mem_append_left _ hmem)
  have hspares' : ∀ event ∈ closing :: after, event.spares key d = true :=
    fun event hmem => hspares event (List.mem_append_right _ hmem)
  have ht : t.Opened key d (Side.pick r w) := opened_run hs hafter hspares'
  have hlast : (opened.run (life ++ closing :: after)).1 = t := by simp only [run_append, s, t]
  have hclosed : t.isOpen key = false := by
    obtain ⟨hclosing, hlater⟩ := List.forall_mem_cons.mp hspares'
    exact isOpen_run_of_closed (s := (s.step closing).session) hlater
      (isOpen_step_of_closes hclosing hcloses)
  refine ⟨shut_of_not_isOpen ht hclosed, fun hdrop => ?_, ?_, fun hheeds => ?_⟩
  · rw [← hlast]
    refine Option.isSome_iff_exists.mp (isSome_duplexes_run hdrop ?_)
    obtain ⟨c, hc, -⟩ := isOpen_iff.mp hopen
    rw [hc]
    rfl
  · have honce := closings_run (s := opened) hspares
    rw [hlast, hclosed, hopen] at honce
    simpa using honce
  · exact losesNothing_of_closes hs hcloses hafter hspares' hheeds

/-- A duplex on the first two endpoints, which somebody else refers to as well. -/
def sharedDuplex : DuplexKeys := ⟨0, 0, 0, 1⟩

/-- The engine writes, and then a read and a write of the connection are in progress. -/
def underWay : List Event := [.share 0, .share 1, .write 1 2 (some [1, 2]), .pump 0, .flush 0]

/-- The connection answers, the engine goes on trying, and the owner flushes what is left and reads
what has arrived before the duplex is dropped. -/
def afterwards : List Event :=
  [.readDone 0 (.returned 1 [7]), .read 0 4 true, .writeDone 0 (.accepted 1), .write 1 1 (some [3]),
    .close 0, .flushAll 0, .control 1 13, .request 0 4, .dropDuplex 0]

theorem closing_loses_nothing_underWay :
    let s := ((({} : Session).run [.openDuplex 0 sharedDuplex 0 {}]).1.run underWay).1
    (s.run (.close 0 :: afterwards)).1.Shut 0 sharedDuplex (Side.pick ⟨0⟩ ⟨0⟩) ∧
      s.LosesNothing 0 sharedDuplex (.close 0) afterwards := by
  intro s
  have horderly : ({} : Session).Orderly
      ([] ++ .openDuplex 0 sharedDuplex 0 {} :: (underWay ++ .close 0 :: afterwards)) := by
    simp only [List.nil_append, underWay, afterwards, List.cons_append, Orderly, Admits,
      and_self]
  obtain ⟨hshut, -, -, hloses⟩ := closing_loses_nothing horderly rfl (by decide) rfl
  exact ⟨hshut, hloses ⟨trivial, trivial, trivial, trivial, trivial, fun _ => rfl, trivial, trivial,
    trivial, trivial⟩⟩

end Session

end Conduit

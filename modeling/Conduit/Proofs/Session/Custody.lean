import Conduit.Proofs.Session.Bonds
/-!
# Endpoints in the custody of a duplex

A duplex refers to both of its endpoints until it is dropped. As long as nobody gives up that
reference in its place, and no adapter or callback is used on an endpoint of the other side, the
endpoints of a duplex stay what they were made as, whatever else refers to them in the meantime.

`Session.Admits` says what an event has to respect for that. It is what the owner of an endpoint
cannot help respecting where a reference can be given up only by who holds it. `Session.Orderly`
asks it of every event of a run.

## Main definitions

* `Conduit.DuplexKeys.endpoint`: the endpoint of a duplex on a side.
* `Conduit.Session.side?`: the side for which an endpoint was made.
* `Conduit.Session.Admits`, `Conduit.Session.Orderly`.
* `Conduit.Session.Fades`: what can become of a token that an endpoint stores.
* `Conduit.Session.Kept`: every duplex has its endpoints, and has them for itself.

## Main results

* `kept_step`: an event that is admitted keeps it so.
-/

namespace Conduit

/-- The endpoint of a duplex on a side. -/
def DuplexKeys.endpoint (d : DuplexKeys) : Side → Nat
  | .inbound => d.readEnd
  | .outbound => d.writeEnd

namespace Session

/-- The side for which an endpoint was made, if it was made for an adapter. -/
def side? (s : Session) (e : Nat) : Option Side := (s.endpoints.get? e).bind (·.side?)

/-- Whether an event respects who made and who holds the endpoints. Data fields are written only
here, adapters and destructors are used on endpoints of their own side, and the reference of a
duplex is given up only with the duplex. -/
def Admits (s : Session) : Event → Prop
  | .setData _ _ => False
  | .disconnect e a => ∀ b, s.endpoints.get? e = some b → b.form = .adapter a.side
  | .callDestroy side (some e) => ∀ b, s.endpoints.get? e = some b → b.form = .adapter side
  | .free e => ∀ b, s.endpoints.get? e = some b → b.references ≤ 1 →
      ∀ key d, s.duplexes.get? key = some d → ∀ side, d.endpoint side ≠ e
  | _ => True

/-- Every event of a run is admitted where it happens. -/
def Orderly (s : Session) : List Event → Prop
  | [] => True
  | event :: rest => s.Admits event ∧ Orderly (s.step event).session rest

/-- Every duplex has an endpoint for each side, and shares neither with another duplex. -/
structure Kept (s : Session) : Prop where
  ends : ∀ {key d}, s.duplexes.get? key = some d → ∀ side, s.side? (d.endpoint side) = some side
  apart : ∀ {key key' d d'}, s.duplexes.get? key = some d → s.duplexes.get? key' = some d' →
    ∀ side, d.endpoint side = d'.endpoint side → key = key'

/-! ### What becomes of the side of an endpoint -/

theorem side?_eq_some_iff {s : Session} {e : Nat} {side : Side} :
    s.side? e = some side ↔ ∃ b, s.endpoints.get? e = some b ∧ b.form = .adapter side := by
  simp only [side?, Option.bind_eq_some_iff, Endpoint.side?_eq_some_iff]

theorem side?_of_layout {s t : Session} (h : t.layout = s.layout) (e : Nat) :
    t.side? e = s.side? e := by
  have hseat : ∀ u : Session, u.side? e = (u.layout.seat e).bind (·.1) := by
    intro u
    cases hb : u.endpoints.get? e <;> simp [side?, layout, hb]
  rw [hseat, hseat, h]

theorem side?_cut (s : Session) (way : Side) (r : Roster Nat) (e j : Nat) :
    ((s.withRoster way r).setData e none).side? j = s.side? j := by
  simp only [side?, setData, modifyEndpoint, endpoints_withRoster, Table.get?_modify]
  split
  · cases s.endpoints.get? j <;> rfl
  · rfl

theorem duplexes_cut (s : Session) (way : Side) (r : Roster Nat) (e : Nat) :
    ((s.withRoster way r).setData e none).duplexes = s.duplexes := by
  simp [setData, modifyEndpoint]

theorem duplexes_release (s : Session) (side : Side) (e : Nat) :
    (s.release side e).1.duplexes = s.duplexes := by
  rcases release_cases s side e with ⟨-, hsame⟩ | ⟨v, -, hcut⟩
  · rw [hsame]
  · rw [hcut, duplexes_cut]

/-- Disconnecting makes no endpoint another's. -/
theorem side?_disconnect (s : Session) (e : Nat) (a : Adapter) (j : Nat) :
    (s.disconnect e a).1.side? j = s.side? j := by
  rcases disconnect_cases s e a with ⟨hsame, -⟩ | ⟨t, -, -, hcut⟩
  · rw [hsame]
  · rw [hcut, side?_cut]

theorem duplexes_disconnect (s : Session) (e : Nat) (a : Adapter) :
    (s.disconnect e a).1.duplexes = s.duplexes := by
  rcases disconnect_cases s e a with ⟨hsame, -⟩ | ⟨t, -, -, hcut⟩
  · rw [hsame]
  · rw [hcut, duplexes_cut]

/-- Unless it is the last one, giving up a reference makes no endpoint another's. -/
theorem side?_free {s : Session} {e : Nat}
    (h : ∀ b, s.endpoints.get? e = some b → 1 < b.references) (j : Nat) :
    (s.free e).1.side? j = s.side? j := by
  rw [free]
  split
  · rfl
  · next b hb =>
    rw [if_pos (h b hb)]
    refine side?_of_layout ?_ j
    exact layout_modifyEndpoint fun _ _ => ⟨rfl, rfl⟩

section

variable {s t u : Session} {e : Nat}

/-! ### What becomes of a token that is stored -/

/-- An endpoint stores nothing that it did not store before, and is still of the same side if it
stores something. -/
def Fades (s t : Session) (e : Nat) : Prop :=
  ∀ v, t.token? e = some v → s.token? e = some v ∧ t.side? e = s.side? e

theorem Fades.refl (s : Session) (e : Nat) : s.Fades s e := fun _ hv => ⟨hv, rfl⟩

theorem Fades.trans (hst : s.Fades t e) (htu : t.Fades u e) : s.Fades u e := by
  intro v hv
  obtain ⟨ht, hside⟩ := htu v hv
  obtain ⟨hs, hside'⟩ := hst v ht
  exact ⟨hs, hside.trans hside'⟩

theorem Fades.token?_eq_none (h : s.Fades t e) (hs : s.token? e = none) : t.token? e = none := by
  cases ht : t.token? e with
  | none => rfl
  | some v => cases hs.symm.trans (h v ht).1

theorem fades_of_layout (h : t.layout = s.layout) (e : Nat) : s.Fades t e := by
  have htoken : ∀ u : Session, u.token? e = (u.layout.seat e).bind (·.2) := by
    intro u
    cases hb : u.endpoints.get? e <;> simp [token?, layout, hb]
  intro v hv
  exact ⟨by rw [htoken, ← h, ← htoken, hv], side?_of_layout h e⟩

theorem fades_of_get? (h : t.endpoints.get? e = s.endpoints.get? e) : s.Fades t e := by
  intro v hv
  exact ⟨by rw [token?, ← h, ← token?, hv], by rw [side?, h, side?]⟩

theorem fades_put {b : Endpoint} {j : Nat} (hj : e ≠ j)
    (h : t.endpoints = s.endpoints.put j b) : s.Fades t e :=
  fades_of_get? (by rw [h, Table.get?_put, if_neg hj])

theorem fades_cut (s : Session) (way : Side) (r : Roster Nat) (j e : Nat) :
    s.Fades ((s.withRoster way r).setData j none) e := by
  intro v hv
  rw [token?_setData] at hv
  split at hv
  · simp at hv
  · exact ⟨by simpa [token?] using hv, side?_cut s way r j e⟩

theorem fades_disconnect (s : Session) (j : Nat) (a : Adapter) (e : Nat) :
    s.Fades (s.disconnect j a).1 e := by
  rcases disconnect_cases s j a with ⟨hsame, -⟩ | ⟨v, -, -, hcut⟩
  · rw [hsame]
    exact .refl s e
  · rw [hcut]
    exact fades_cut s _ _ j e

theorem fades_release (s : Session) (side : Side) (j e : Nat) :
    s.Fades (s.release side j).1 e := by
  rcases release_cases s side j with ⟨-, hsame⟩ | ⟨v, -, hcut⟩
  · rw [hsame]
    exact .refl s e
  · rw [hcut]
    exact fades_cut s _ _ j e

theorem fades_free (s : Session) (j e : Nat) : s.Fades (s.free j).1 e := by
  by_cases hj : e = j
  · subst hj
    cases hb : s.endpoints.get? e with
    | none =>
      rw [free, hb]
      exact .refl s e
    | some b =>
      rcases Nat.lt_or_ge 1 b.references with hmore | hlast
      · have hlayout : (s.free e).1.layout = s.layout := by
          simp only [free, hb, if_pos hmore]
          exact layout_modifyEndpoint fun _ _ => ⟨rfl, rfl⟩
        exact fades_of_layout hlayout e
      · intro v hv
        simp [token?, get?_endpoints_free hb hlast] at hv
  · exact fades_of_get? ((elsewhere_free s j).1 e hj)

theorem fades_close (s : Session) (key e : Nat) : s.Fades (s.close key).1 e := by
  rw [close]
  split
  · exact .refl s e
  · next d _ =>
    split
    · exact .refl s e
    · let marked : Session := { s with duplexes := s.duplexes.put key { d with closed := true } }
      have hmarked : s.Fades marked e := fades_of_get? rfl
      exact (hmarked.trans (fades_disconnect marked _ _ e)).trans (fades_disconnect _ _ _ e)

theorem fades_dropDuplex (s : Session) (key e : Nat) : s.Fades (s.dropDuplex key).1 e := by
  rw [dropDuplex]
  split
  · exact .refl s e
  · have hclose := fades_close s key e
    rcases hresult : s.close key with ⟨u, closing⟩
    rw [hresult] at hclose
    have herased : s.Fades { u with duplexes := u.duplexes.erase key } e :=
      hclose.trans (fades_of_get? rfl)
    exact (herased.trans (fades_free _ _ e)).trans (fades_free _ _ e)

end

/-! ### What keeps the endpoints of duplexes -/

namespace Kept

variable {s t : Session}

/-- Only the endpoints of duplexes matter. -/
theorem of_agree (hs : s.Kept) (hduplexes : t.duplexes = s.duplexes)
    (hside : ∀ key d, s.duplexes.get? key = some d → ∀ side,
      t.side? (d.endpoint side) = s.side? (d.endpoint side)) : t.Kept where
  ends := by
    intro key d hd side
    rw [hduplexes] at hd
    rw [hside key d hd side]
    exact hs.ends hd side
  apart := by
    rw [hduplexes]
    exact hs.apart

/-- An endpoint belongs to one duplex only, whichever its side. -/
theorem eq_of_endpoint_eq (hs : s.Kept) {key key' : Nat} {d d' : Duplex}
    (hd : s.duplexes.get? key = some d) (hd' : s.duplexes.get? key' = some d') {side side' : Side}
    (h : d.endpoint side = d'.endpoint side') : key = key' := by
  have hside : side = side' := by
    have hone := hs.ends hd side
    rw [h, hs.ends hd' side'] at hone
    exact (Option.some.inj hone).symm
  subst hside
  exact hs.apart hd hd' side h

/-- An endpoint that is not there is no duplex's. -/
theorem endpoint_ne (hs : s.Kept) {key e : Nat} {d : Duplex} (hd : s.duplexes.get? key = some d)
    (he : s.endpoints.get? e = none) (side : Side) : d.endpoint side ≠ e := by
  rintro rfl
  have := hs.ends hd side
  simp [side?, he] at this

/-- New endpoints take none from a duplex. -/
theorem put (hs : s.Kept) (hduplexes : t.duplexes = s.duplexes) {e : Nat}
    (he : s.endpoints.get? e = none)
    (hends : ∀ j, j ≠ e → t.endpoints.get? j = s.endpoints.get? j) : t.Kept := by
  refine hs.of_agree hduplexes fun key d hd side => ?_
  rw [side?, side?, hends _ (hs.endpoint_ne hd he side)]

theorem attach (hs : s.Kept) {e : Nat} (he : s.endpoints.get? e = none) (a : Adapter) :
    (s.attach e a).session.Kept := by
  rcases attach_cases s e a with ⟨t, hattach, -, hduplexes, hends⟩ |
      ⟨t, hattach, -, hduplexes, hends⟩
  · rw [hattach]
    exact hs.put hduplexes he fun j hj => by rw [hends, Table.get?_put, if_neg hj]
  · rw [hattach]
    exact hs.put hduplexes he fun j _ => by rw [hends]

theorem release (hs : s.Kept) (side : Side) (e : Nat) : (s.release side e).1.Kept := by
  rcases release_cases s side e with ⟨-, hsame⟩ | ⟨t, -, hcut⟩
  · rw [hsame]
    exact hs
  · rw [hcut]
    exact hs.of_agree (duplexes_cut _ _ _ _) fun _ d _ way => side?_cut _ _ _ _ _

theorem disconnect (hs : s.Kept) (e : Nat) (a : Adapter) : (s.disconnect e a).1.Kept :=
  hs.of_agree (duplexes_disconnect s e a) fun _ d _ side => side?_disconnect s e a (d.endpoint side)

/-- An endpoint that no duplex refers to may go. -/
theorem free (hs : s.Kept) {e : Nat}
    (h : ∀ key d, s.duplexes.get? key = some d → ∀ side, d.endpoint side ≠ e) :
    (s.free e).1.Kept := by
  refine hs.of_agree (elsewhere_free s e).2 fun key d hd side => ?_
  rw [side?, side?, (elsewhere_free s e).1 _ (h key d hd side)]

/-- Marking a duplex as closed leaves it its endpoints. -/
theorem mark (hs : s.Kept) {key : Nat} {d : Duplex} (hd : s.duplexes.get? key = some d) :
    ({ s with duplexes := s.duplexes.put key { d with closed := true } } : Session).Kept := by
  have hold : ∀ {j c}, (s.duplexes.put key { d with closed := true }).get? j = some c →
      ∃ c', s.duplexes.get? j = some c' ∧ c'.endpoint = c.endpoint := by
    intro j c hc
    rw [Table.get?_put] at hc
    split at hc
    · next hj =>
      cases hc
      exact ⟨d, hj ▸ hd, rfl⟩
    · exact ⟨c, hc, rfl⟩
  constructor
  · intro j c hc side
    obtain ⟨c', hc', heq⟩ := hold hc
    rw [← heq]
    exact hs.ends hc' side
  · intro j j' c c' hc hc' side h
    obtain ⟨b, hb, heq⟩ := hold hc
    obtain ⟨b', hb', heq'⟩ := hold hc'
    rw [← heq, ← heq'] at h
    exact hs.apart hb hb' side h

/-- A duplex that is closed is there still, and has the same endpoints. -/
theorem endpoint_close {key : Nat} {d : Duplex} (hd : s.duplexes.get? key = some d) :
    ∃ d', (s.close key).1.duplexes.get? key = some d' ∧ d'.endpoint = d.endpoint := by
  simp only [Session.close, hd]
  split
  · exact ⟨d, hd, rfl⟩
  · dsimp only
    rw [duplexes_disconnect, duplexes_disconnect]
    exact ⟨{ d with closed := true }, by simp, rfl⟩

theorem close (hs : s.Kept) (key : Nat) : (s.close key).1.Kept := by
  rw [Session.close]
  split
  · exact hs
  · next d hd =>
    split
    · exact hs
    · exact ((hs.mark hd).disconnect _ _).disconnect _ _

/-- Dropping a duplex takes its endpoints from no other. -/
theorem dropDuplex (hs : s.Kept) (key : Nat) : (s.dropDuplex key).1.Kept := by
  rw [Session.dropDuplex]
  split
  · exact hs
  · next d hd =>
    obtain ⟨d', hd', hends⟩ := endpoint_close hd
    have hclosed := hs.close key
    rcases hclose : s.close key with ⟨u, closing⟩
    rw [hclose] at hd' hclosed
    have hothers : ∀ {j c}, (u.duplexes.erase key).get? j = some c →
        j ≠ key ∧ u.duplexes.get? j = some c := by
      intro j c hc
      rw [Table.get?_erase] at hc
      split at hc
      · cases hc
      · exact ⟨‹_›, hc⟩
    -- the duplex goes first, so that its endpoints are nobody's by the time they are freed
    have herased : ({ u with duplexes := u.duplexes.erase key } : Session).Kept :=
      ⟨fun hc side => hclosed.ends (hothers hc).2 side,
        fun hc hc' side h => hclosed.apart (hothers hc).2 (hothers hc').2 side h⟩
    have hfree : ∀ way j c, (u.duplexes.erase key).get? j = some c →
        ∀ side, c.endpoint side ≠ d.endpoint way := by
      intro way j c hc side h
      obtain ⟨hj, hc'⟩ := hothers hc
      exact hj (hclosed.eq_of_endpoint_eq hc' hd' (hends ▸ h))
    have hfirst := herased.free (hfree .inbound)
    refine Kept.free hfirst fun j c hc side => ?_
    rw [(elsewhere_free _ _).2] at hc
    exact hfree .outbound j c hc side

/-- A duplex that is opened has its endpoints; where it cannot be opened none is left over. -/
theorem openDuplex (hs : s.Kept) (key : Nat) {d : DuplexKeys}
    (hread : s.endpoints.get? d.readEnd = none) (hwrite : s.endpoints.get? d.writeEnd = none)
    (hne : d.readEnd ≠ d.writeEnd) (connection : Nat) (settings : Settings) :
    (s.openDuplex key d connection settings).session.Kept := by
  rcases openDuplex_cases s key d connection settings with
    ⟨t, hopen, -, hduplexes, hends⟩ | ⟨t, hopen, -, hduplexes, hends⟩ |
      ⟨t, hopen, -, hduplexes, hends⟩
  · rw [hopen]
    change t.Kept
    have hown : ∀ side, t.side? (d.endpoint side) = some side := by
      intro side
      rw [side?, hends]
      cases side <;> simp [DuplexKeys.endpoint, hne, Endpoint.side?]
    have hother : ∀ {j c}, s.duplexes.get? j = some c → ∀ side way,
        c.endpoint side ≠ d.endpoint way := by
      intro j c hc side way
      cases way
      · exact hs.endpoint_ne hc hread side
      · exact hs.endpoint_ne hc hwrite side
    have hold : ∀ {j c}, t.duplexes.get? j = some c →
        (j = key ∧ c.endpoint = d.endpoint) ∨ (j ≠ key ∧ s.duplexes.get? j = some c) := by
      intro j c hc
      rw [hduplexes, Table.get?_put] at hc
      split at hc
      · next hj =>
        cases hc
        exact Or.inl ⟨hj, rfl⟩
      · exact Or.inr ⟨‹_›, hc⟩
    constructor
    · intro j c hc side
      rcases hold hc with ⟨-, hc⟩ | ⟨-, hc⟩
      · rw [hc]
        exact hown side
      · have hread' : c.endpoint side ≠ d.readEnd := hother hc side .inbound
        have hwrite' : c.endpoint side ≠ d.writeEnd := hother hc side .outbound
        rw [side?, hends, Table.get?_put, if_neg hwrite', Table.get?_put, if_neg hread']
        exact hs.ends hc side
    · intro j j' c c' hc hc' side h
      rcases hold hc with ⟨hj, hc⟩ | ⟨hj, hc⟩ <;> rcases hold hc' with ⟨hj', hc'⟩ | ⟨hj', hc'⟩
      · rw [hj, hj']
      · exact absurd (hc ▸ h.symm) (hother hc' side side)
      · exact absurd (hc' ▸ h) (hother hc side side)
      · exact hs.apart hc hc' side h
  · rw [hopen]
    exact hs.put hduplexes hread fun j _ => by rw [hends]
  · rw [hopen]
    exact hs.put hduplexes hread hends

end Kept

/-! ### Events -/

/-- **An event that is admitted leaves every duplex its endpoints.** -/
theorem kept_step {s : Session} (hs : s.Kept) {event : Event} (hadmitted : s.Admits event) :
    (s.step event).session.Kept := by
  cases hbinding : event.isBinding with
  | false =>
    have hlayout := (aloof_step hbinding s).layout
    exact hs.of_agree (congrArg Layout.duplexes hlayout) fun _ d _ side =>
      side?_of_layout hlayout (d.endpoint side)
  | true =>
    have hstep := rebinds_step hbinding s
    generalize s.step event = effect at hstep ⊢
    cases hstep with
    | unknown => exact hs
    | noCallback => exact hs
    | attach hnew => exact hs.attach hnew _
    | attachRefused hnew => exact hs.attach hnew _
    | disconnect => exact hs.disconnect _ _
    | openDuplex hread hwrite hne => exact hs.openDuplex _ hread hwrite hne _ _
    | openDuplexRefused hread hwrite hne => exact hs.openDuplex _ hread hwrite hne _ _
    | close => exact hs.close _
    | dropDuplex => exact hs.dropDuplex _
    | @free e b hb =>
      by_cases hlast : b.references ≤ 1
      · exact hs.free (hadmitted b hb hlast)
      · refine hs.of_agree (elsewhere_free s e).2 fun _ d _ side => side?_free ?_ _
        intro b' hb'
        cases hb.symm.trans hb'
        exact Nat.not_le.mp hlast
    | setData => exact absurd hadmitted id
    | destroy => exact hs.release _ _
    | destroyNone => exact hs
    | openForeign hnew => exact hs.put rfl hnew fun j hj => by rw [Table.get?_put, if_neg hj]

theorem kept_empty (engine : Engine) : ({ engine } : Session).Kept where
  ends := by
    intro key d hd
    cases hd
  apart := by
    intro key key' d d' hd
    cases hd

end Session

end Conduit

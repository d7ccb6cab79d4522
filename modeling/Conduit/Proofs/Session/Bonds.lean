import Conduit.Proofs.Session.Layout
/-!
# What ties adapters to endpoints

All that ties an adapter to an endpoint is a token: one that stands for the adapter in the roster of
its side and is stored in the endpoint. `Session.bonds` keeps just that of a session. Almost every
event leaves the bonds alone; the few that do not enter an adapter in a roster, strike a token off
or clear a data field.

Endpoints that were not made for an adapter have no stamp, so what the engine does with them is not
seen here.

## Main definitions

* `Conduit.Bonds`, with `tie`, `strike` and `clear`.
* `Conduit.Session.bonds`: the bonds of a session.

## Main results

* `attach_cases`, `disconnect_cases`, `release_cases`, `free_cases`: what becomes of the bonds, and
  what is logged.
* `bonds_step`: all other events leave the bonds alone.
-/

namespace Conduit

/-- The side and the token of an endpoint that was made for an adapter and has a token. -/
def Endpoint.stamp (b : Endpoint) : Option (Side × Token) :=
  match b.form with
  | .adapter side => b.data.map (side, ·)
  | _ => none

/-- What ties adapters to endpoints: who stands under which token, and which token is stored where.
-/
structure Bonds where
  roster : Side → Roster Nat
  stamp : Nat → Option (Side × Token)

namespace Bonds

/-- Ties an adapter to an endpoint by the next token of its side. -/
def tie (b : Bonds) (e : Nat) (a : Adapter) : Bonds where
  roster side := if side = a.side then ((b.roster a.side).add a.key).2 else b.roster side
  stamp j := if j = e then some (a.side, (b.roster a.side).next) else b.stamp j

/-- Strikes a token off the roster of a side. -/
def strike (b : Bonds) (way : Side) (t : Token) : Bonds where
  roster side := if side = way then (b.roster way).remove t else b.roster side
  stamp := b.stamp

/-- Clears an endpoint. -/
def clear (b : Bonds) (e : Nat) : Bonds where
  roster := b.roster
  stamp j := if j = e then none else b.stamp j

end Bonds

namespace Session

/-- The bonds of a session. -/
def bonds (s : Session) : Bonds where
  roster := s.roster
  stamp e := (s.endpoints.get? e).bind (·.stamp)

theorem stamp_bonds_eq_some_iff {s : Session} {e : Nat} {side : Side} {t : Token} :
    s.bonds.stamp e = some (side, t) ↔
      (∃ b, s.endpoints.get? e = some b ∧ b.form = .adapter side) ∧ s.token? e = some t := by
  cases hb : s.endpoints.get? e with
  | none => simp [bonds, hb]
  | some b =>
    obtain ⟨form, data, flags, references⟩ := b
    cases form with
    | adapter way => cases data <;> simp [bonds, token?, hb, Endpoint.stamp]
    | memory memory => simp [bonds, hb, Endpoint.stamp]
    | scripted script => simp [bonds, hb, Endpoint.stamp]

/-! ### Updates -/

/-- The bonds are part of the layout. -/
theorem bonds_of_layout {s t : Session} (h : t.layout = s.layout) : t.bonds = s.bonds := by
  have hstamp : ∀ u : Session, ∀ e, u.bonds.stamp e =
      (u.layout.seat e).bind fun seat => seat.1.bind fun side => seat.2.map (side, ·) := by
    intro u e
    cases hb : u.endpoints.get? e with
    | none => simp [bonds, layout, hb]
    | some b =>
      cases hform : b.form <;> simp [bonds, layout, hb, Endpoint.stamp, Endpoint.side?, hform]
  have hroster : t.bonds.roster = s.bonds.roster := congrArg Layout.roster h
  have hsame : t.bonds.stamp = s.bonds.stamp := by
    funext e
    rw [hstamp, hstamp, h]
  simp only [bonds, Bonds.mk.injEq]
  exact ⟨hroster, hsame⟩

theorem bonds_withRoster (s : Session) (side : Side) (t : Token) :
    (s.withRoster side ((s.roster side).remove t)).bonds = s.bonds.strike side t := by
  simp only [bonds, Bonds.strike, endpoints_withRoster, Bonds.mk.injEq, and_true]
  funext way
  rw [roster_withRoster]

theorem bonds_setData_none (s : Session) (e : Nat) :
    (s.setData e none).bonds = s.bonds.clear e := by
  have hstamp : ∀ j, (s.setData e none).bonds.stamp j = (s.bonds.clear e).stamp j := by
    intro j
    simp only [bonds, Bonds.clear, setData, modifyEndpoint, Table.get?_modify]
    split
    · cases s.endpoints.get? j with
      | none => rfl
      | some b => cases hform : b.form <;> simp [Endpoint.stamp, hform]
    · rfl
  simp only [bonds, Bonds.clear, Bonds.mk.injEq]
  exact ⟨funext fun side => roster_modifyEndpoint s e _ side, funext hstamp⟩

theorem bonds_erase (s : Session) (e : Nat) :
    ({ s with endpoints := s.endpoints.erase e } : Session).bonds = s.bonds.clear e := by
  simp only [bonds, Bonds.clear, Bonds.mk.injEq]
  refine ⟨rfl, funext fun j => ?_⟩
  rw [Table.get?_erase]
  split <;> rfl

/-! ### Attaching and detaching -/

/-- The engine makes the endpoint, and the adapter is tied to it, or the adapter is turned away. -/
theorem attach_cases (s : Session) (e : Nat) (a : Adapter) :
    (∃ t, s.attach e a =
        ⟨t, .ok (s.roster a.side).next, [.attached a (s.roster a.side).next]⟩ ∧
      t.bonds = s.bonds.tie e a ∧ t.duplexes = s.duplexes ∧
      t.endpoints = s.endpoints.put e
        { form := .adapter a.side, data := some (s.roster a.side).next }) ∨
    (∃ t, s.attach e a = ⟨t, .error .createFailed, []⟩ ∧
      t.bonds = s.bonds ∧ t.duplexes = s.duplexes ∧ t.endpoints = s.endpoints) := by
  rw [attach]
  rcases s.engine.newEndpoint a.side with ⟨ok, engine⟩
  cases ok with
  | false => exact Or.inr ⟨_, rfl, rfl, rfl, rfl⟩
  | true =>
    have hroster : ({ s with engine } : Session).roster a.side = s.roster a.side := by
      cases a <;> rfl
    refine Or.inl ⟨_, by rw [← hroster]; rfl, ?_, by simp, ?_⟩
    · simp only [bonds, Bonds.tie, Bonds.mk.injEq]
      constructor
      · funext side
        cases a <;> cases side <;> rfl
      · funext j
        rw [endpoints_withRoster, Table.get?_put]
        split
        · cases a <;> rfl
        · rfl
    · rw [endpoints_withRoster, ← hroster]

/-- Disconnecting an adapter changes nothing, or it cuts the endpoint off from whatever its token
stands for. -/
theorem disconnect_cases (s : Session) (e : Nat) (a : Adapter) :
    (s.disconnect e a = (s, []) ∧
        ∀ t, s.token? e = some t → (s.roster a.side).get? t ≠ some a.key) ∨
      ∃ t, s.token? e = some t ∧ (s.roster a.side).get? t = some a.key ∧
        s.disconnect e a =
          ((s.withRoster a.side ((s.roster a.side).remove t)).setData e none,
            [.detached a.side t]) := by
  cases ht : s.token? e with
  | none => exact Or.inl ⟨disconnect_of_empty ht a, by simp⟩
  | some t =>
    by_cases hk : (s.roster a.side).get? t = some a.key
    · exact Or.inr ⟨t, rfl, hk, by simp [disconnect, ht, Roster.removeIf, hk]⟩
    · refine Or.inl ⟨by simp [disconnect, ht, Roster.removeIf, hk], ?_⟩
      rintro u ⟨⟩
      exact hk

theorem bonds_cut (s : Session) (side : Side) (e : Nat) (t : Token) :
    ((s.withRoster side ((s.roster side).remove t)).setData e none).bonds =
      (s.bonds.strike side t).clear e := by
  rw [bonds_setData_none, bonds_withRoster]

/-- Releasing an endpoint changes nothing if nothing is stored in it; otherwise its token is struck
off and it is cleared. -/
theorem release_cases (s : Session) (side : Side) (e : Nat) :
    (s.token? e = none ∧ s.release side e = (s, [])) ∨
      ∃ t, s.token? e = some t ∧ s.release side e =
        ((s.withRoster side ((s.roster side).remove t)).setData e none, [.released side t]) := by
  cases ht : s.token? e with
  | none => exact Or.inl ⟨rfl, release_of_empty ht side⟩
  | some t => exact Or.inr ⟨t, rfl, by simp [release, ht]⟩

theorem clear_eq_self {b : Bonds} {e : Nat} (h : b.stamp e = none) : b.clear e = b := by
  simp only [Bonds.clear]
  congr 1
  funext j
  split
  · next hj => rw [hj, h]
  · rfl

/-- Giving up a reference leaves the bonds alone, unless it was the last one. Then the endpoint is
cleared, and if it stored a token for its side, that token is struck off. -/
theorem free_cases (s : Session) (e : Nat) :
    ((s.free e).1.bonds = s.bonds ∧ (s.free e).2 = []) ∨
      (s.bonds.stamp e = none ∧ (s.free e).1.bonds = s.bonds.clear e ∧ (s.free e).2 = []) ∨
      ∃ side t, s.bonds.stamp e = some (side, t) ∧
        (s.free e).1.bonds = (s.bonds.strike side t).clear e ∧
        (s.free e).2 = [.released side t] := by
  rw [free]
  split
  · exact Or.inl ⟨rfl, rfl⟩
  · next b hb =>
    split
    · exact Or.inl ⟨bonds_of_layout (layout_modifyEndpoint fun _ _ => ⟨rfl, rfl⟩), rfl⟩
    · dsimp only
      rw [bonds_erase]
      split
      · next side hform =>
        rcases release_cases s side e with ⟨ht, hsame⟩ | ⟨t, ht, hcut⟩
        · rw [hsame]
          refine Or.inr (Or.inl ⟨?_, rfl, rfl⟩)
          have hdata : b.data = none := by simpa [token?, hb] using ht
          simp [bonds, hb, Endpoint.stamp, hform, hdata]
        · rw [hcut, bonds_cut]
          have hstamp := stamp_bonds_eq_some_iff.mpr ⟨⟨b, hb, hform⟩, ht⟩
          refine Or.inr (Or.inr ⟨side, t, hstamp, ?_, rfl⟩)
          exact clear_eq_self (if_pos rfl)
      · next hform =>
        refine Or.inr (Or.inl ⟨?_, rfl, rfl⟩)
        cases hb' : b.form with
        | adapter side => exact absurd hb' (hform side)
        | _ => simp [bonds, hb, Endpoint.stamp, hb']

theorem get?_endpoints_free {s : Session} {e : Nat} {b : Endpoint}
    (hb : s.endpoints.get? e = some b) (hlast : b.references ≤ 1) :
    (s.free e).1.endpoints.get? e = none := by
  have hnot : ¬ 1 < b.references := Nat.not_lt.mpr hlast
  simp [free, hb, hnot]

theorem stamp_free {s : Session} {e : Nat} {b : Endpoint} (hb : s.endpoints.get? e = some b)
    (hlast : b.references ≤ 1) : (s.free e).1.bonds.stamp e = none := by
  simp [bonds, get?_endpoints_free hb hlast]

/-- Giving up a reference to one endpoint leaves the others as they are, and the duplexes. -/
theorem elsewhere_free (s : Session) (e : Nat) :
    (∀ j, j ≠ e → (s.free e).1.endpoints.get? j = s.endpoints.get? j) ∧
      (s.free e).1.duplexes = s.duplexes := by
  have hrelease : ∀ side, (∀ j, j ≠ e →
      (s.release side e).1.endpoints.get? j = s.endpoints.get? j) ∧
        (s.release side e).1.duplexes = s.duplexes := by
    intro side
    rcases release_cases s side e with ⟨-, hsame⟩ | ⟨t, -, hcut⟩
    · rw [hsame]
      exact ⟨fun _ _ => rfl, rfl⟩
    · rw [hcut]
      exact ⟨fun j hj => by simp [setData, modifyEndpoint, hj], by simp [setData, modifyEndpoint]⟩
  rw [free]
  split
  · exact ⟨fun _ _ => rfl, rfl⟩
  · split
    · exact ⟨fun j hj => by simp [modifyEndpoint, hj], rfl⟩
    · dsimp only
      split
      · next side _ =>
        exact ⟨fun j hj => by rw [Table.get?_erase, if_neg hj, (hrelease side).1 j hj],
          (hrelease side).2⟩
      · exact ⟨fun j hj => by rw [Table.get?_erase, if_neg hj], rfl⟩

/-- Opening a duplex ties both of its adapters to their endpoints. Where the first endpoint cannot
be made, nothing changes; where the second cannot, the first goes again with its token. -/
theorem openDuplex_cases (s : Session) (key : Nat) (d : DuplexKeys) (connection : Nat)
    (settings : Settings) :
    let r := (s.roster .inbound).next
    let w := (s.roster .outbound).next
    (∃ t, s.openDuplex key d connection settings =
        ⟨t, .ok (r, w), [.attached (.inlet d.inlet) r, .attached (.outlet d.outlet) w]⟩ ∧
      t.bonds = (s.bonds.tie d.readEnd (.inlet d.inlet)).tie d.writeEnd (.outlet d.outlet) ∧
      t.duplexes = s.duplexes.put key { d with } ∧
      t.endpoints = (s.endpoints.put d.readEnd { form := .adapter .inbound, data := some r }).put
        d.writeEnd { form := .adapter .outbound, data := some w }) ∨
    (∃ t, s.openDuplex key d connection settings = ⟨t, .error .createFailed, []⟩ ∧
      t.bonds = s.bonds ∧ t.duplexes = s.duplexes ∧ t.endpoints = s.endpoints) ∨
    (∃ t, s.openDuplex key d connection settings =
        ⟨t, .error .createFailed, [.attached (.inlet d.inlet) r, .released .inbound r]⟩ ∧
      t.bonds = ((s.bonds.tie d.readEnd (.inlet d.inlet)).strike .inbound r).clear d.readEnd ∧
      t.duplexes = s.duplexes ∧ ∀ j, j ≠ d.readEnd → t.endpoints.get? j = s.endpoints.get? j) := by
  intro r w
  rw [openDuplex]
  dsimp only
  generalize hs₁ : (s.putInlet d.inlet (.make connection settings.releaseBuffers
    [settings.recordSize])).putOutlet d.outlet (.make connection settings.releaseBuffers) = s₁
  have hbonds₁ : s₁.bonds = s.bonds := by rw [← hs₁]; rfl
  have hends₁ : s₁.endpoints = s.endpoints := by rw [← hs₁]; rfl
  have hduplexes₁ : s₁.duplexes = s.duplexes := by rw [← hs₁]; rfl
  have hr : (s₁.roster .inbound).next = r := by rw [← hs₁]; rfl
  rcases attach_cases s₁ d.readEnd (.inlet d.inlet) with
    ⟨s₂, hread, hbonds₂, hduplexes₂, hends₂⟩ | ⟨s₂, hread, hbonds₂, hduplexes₂, hends₂⟩
  · have hw : (s₂.roster .outbound).next = w := by
      have hroster := congrFun (congrArg Bonds.roster hbonds₂) .outbound
      simp only [Bonds.tie, Adapter.side, reduceCtorEq, if_false, hbonds₁] at hroster
      exact congrArg Roster.next hroster
    rw [hread]
    dsimp only
    rcases attach_cases s₂ d.writeEnd (.outlet d.outlet) with
      ⟨s₃, hwrite, hbonds₃, hduplexes₃, hends₃⟩ | ⟨s₃, hwrite, hbonds₃, hduplexes₃, hends₃⟩
    · rw [hwrite]
      refine Or.inl ⟨_, by simp only [Adapter.side, hr, hw]; rfl, ?_, ?_, ?_⟩
      · change s₃.bonds = _
        rw [hbonds₃, hbonds₂, hbonds₁]
      · rw [hduplexes₃, hduplexes₂, hduplexes₁]
      · rw [hends₃, hends₂, hends₁]
        simp only [Adapter.side, hr, hw]
    · rw [hwrite]
      have hleft : s₃.endpoints.get? d.readEnd =
          some { form := .adapter .inbound, data := some r } := by
        rw [hends₃, hends₂, Table.get?_put, if_pos rfl]
        simp only [Adapter.side, hr]
      have hstamp : s₃.bonds.stamp d.readEnd = some (.inbound, r) :=
        stamp_bonds_eq_some_iff.mpr ⟨⟨_, hleft, rfl⟩, by simp [token?, hleft]⟩
      have hgone := stamp_free hleft (Nat.le_refl 1)
      refine Or.inr (Or.inr ⟨(s₃.free d.readEnd).1, ?_⟩)
      -- nobody else refers to the endpoint yet, so that it goes with this reference
      rcases free_cases s₃ d.readEnd with ⟨hfree, -⟩ | ⟨hnone, -⟩ | ⟨side, t, hsome, hfree, hlog⟩
      · rw [hfree, hstamp] at hgone
        cases hgone
      · rw [hstamp] at hnone
        cases hnone
      · cases hstamp.symm.trans hsome
        refine ⟨?_, ?_, ?_, fun j hj => ?_⟩
        · dsimp only
          rw [hlog]
          simp only [Adapter.side, hr]
          rfl
        · rw [hfree, hbonds₃, hbonds₂, hbonds₁]
        · rw [(elsewhere_free s₃ d.readEnd).2, hduplexes₃, hduplexes₂, hduplexes₁]
        · rw [(elsewhere_free s₃ d.readEnd).1 j hj, hends₃, hends₂, Table.get?_put, if_neg hj,
            hends₁]
  · rw [hread]
    exact Or.inr (Or.inl ⟨s₂, rfl, hbonds₂.trans hbonds₁, hduplexes₂.trans hduplexes₁,
      hends₂.trans hends₁⟩)

/-- A new endpoint of the engine's own has no token. -/
theorem bonds_openForeign (s : Session) (e : Nat) (form : Endpoint.Form) :
    ({ s with endpoints := s.endpoints.put e { form } } : Session).bonds = s.bonds.clear e := by
  simp only [bonds, Bonds.clear, Bonds.mk.injEq]
  refine ⟨rfl, funext fun j => ?_⟩
  rw [Table.get?_put]
  split
  · cases form <;> rfl
  · rfl

/-- **Only a few events bear on the bonds.** -/
theorem bonds_step {event : Event} (h : event.isBinding = false) (s : Session) :
    (s.step event).session.bonds = s.bonds :=
  bonds_of_layout (aloof_step h s).layout

end Session

end Conduit

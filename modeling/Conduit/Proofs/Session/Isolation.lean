import Conduit.Proofs.Session.Bonds
/-!
# Disconnecting an adapter from an endpoint that is not its own

Disconnecting asks the roster of the adapter's side about the token in the endpoint, and the token
does not say for which side it was issued. So the endpoint of an outlet may carry the very number
under which an inlet is entered, and disconnecting that inlet from it then cuts both: the endpoint
loses its outlet, and the inlet its own token, which is stored in an endpoint elsewhere.

Among adapters of one side this cannot happen. A token is issued once, so one that is in force
leads back to the adapter for which the endpoint was made. `Bonds.Sound` says so against the history
of a run, in which every endpoint is tied to the adapter that was last attached to it, until that
adapter is disconnected or the endpoint is destroyed.

## Main definitions

* `Conduit.Session.ties`: the adapter to which each endpoint is tied, as a run tells it.
* `Conduit.Bonds.Sound`: tokens in force lead to the adapters that the endpoints are tied to.
* `Conduit.Session.Crossed`: an endpoint of one side carries an adapter's token of the other side.

## Main results

* `sound_run`: the bonds of every session that a run can reach are sound.
* `disconnect_twice`: disconnecting again changes nothing.
* `disconnect_eq_self_iff`: disconnecting an adapter from an endpoint that is not tied to it changes
  nothing, just if the two are not crossed.
-/

namespace Conduit

/-- The adapter to which each endpoint is tied. -/
abbrev Ties := Table Nat Adapter

namespace Ties

/-- Cuts the tie between an endpoint and an adapter, if there is one. -/
def cut (h : Ties) (e : Nat) (a : Adapter) : Ties :=
  if h.get? e = some a then h.erase e else h

/-- Cuts the ties of a duplex, unless it has been closed before. -/
def cutDuplex (h : Ties) : Option Duplex → Ties
  | none => h
  | some d =>
      if d.closed then h
      else (h.cut d.readEnd (.inlet d.inlet)).cut d.writeEnd (.outlet d.outlet)

/-- Forgets the tie of an endpoint that gives up its last reference. -/
def free (h : Ties) (e : Nat) : Option Endpoint → Ties
  | none => h
  | some b => if 1 < b.references then h else h.erase e

/-- The ties after an event of a session, which came to that reply. -/
def after (h : Ties) (s : Session) : Event → Reply → Ties
  | .attach e a, .token _ => h.put e a
  | .openDuplex _ d _ _, .tokens _ _ =>
      (h.put d.readEnd (.inlet d.inlet)).put d.writeEnd (.outlet d.outlet)
  | .disconnect e a, .done => h.cut e a
  | .close key, .done => h.cutDuplex (s.duplexes.get? key)
  | .dropDuplex key, .done => h.cutDuplex (s.duplexes.get? key)
  | .free e, .done => h.free e (s.endpoints.get? e)
  | .callDestroy _ (some e), .code _ => h.erase e
  | .openForeign e _, .done => h.erase e
  | _, _ => h

theorem after_of_not_binding {event : Event} (h : event.isBinding = false) (ties : Ties)
    (s : Session) (reply : Reply) : ties.after s event reply = ties := by
  cases event with
  | attach | openDuplex | disconnect | close | dropDuplex | free | callDestroy | openForeign =>
    simp [Event.isBinding] at h
  | _ => rfl

theorem after_of_unknown (ties : Ties) (s : Session) (event : Event) :
    ties.after s event .unknown = ties := by
  cases event with
  | callDestroy side e => cases e <;> rfl
  | _ => rfl

theorem after_of_noCallback (ties : Ties) (s : Session) (event : Event) :
    ties.after s event .noCallback = ties := by
  cases event with
  | callDestroy side e => cases e <;> rfl
  | _ => rfl

theorem get?_cut_of_ne {e j : Nat} (hj : j ≠ e) (h : Ties) (a : Adapter) :
    (h.cut e a).get? j = h.get? j := by
  rw [cut]
  split
  · simp [hj]
  · rfl

end Ties

/-- The tokens in endpoints have been issued, and those in force lead to the adapters that the
endpoints are tied to. -/
structure Bonds.Sound (b : Bonds) (h : Ties) : Prop where
  issued : ∀ {e side t}, b.stamp e = some (side, t) → t.index < (b.roster side).issued
  tied : ∀ {e side t k}, b.stamp e = some (side, t) → (b.roster side).get? t = some k →
    ∃ a, h.get? e = some a ∧ a.side = side ∧ a.key = k

namespace Bonds.Sound

variable {b : Bonds} {h h' : Ties}

/-- Only the ties of endpoints with a token matter. -/
theorem of_agree (hb : b.Sound h) (hagree : ∀ e, b.stamp e ≠ none → h'.get? e = h.get? e) :
    b.Sound h' where
  issued := hb.issued
  tied := by
    intro e side t k hstamp hget
    rw [hagree e (by simp [hstamp])]
    exact hb.tied hstamp hget

/-- The next token is in no endpoint yet, so that entering it makes none of the others lead
elsewhere. -/
theorem tie (hb : b.Sound h) (e : Nat) (a : Adapter) : (b.tie e a).Sound (h.put e a) where
  issued := by
    intro j side t hstamp
    by_cases hj : j = e
    · simp only [Bonds.tie, hj, if_true, Option.some.injEq, Prod.mk.injEq] at hstamp
      obtain ⟨rfl, rfl⟩ := hstamp
      simp [Bonds.tie, Roster.next]
    · simp only [Bonds.tie, hj, if_false] at hstamp ⊢
      have hissued := hb.issued hstamp
      split
      · next hside =>
        rw [← hside, Roster.issued_add]
        omega
      · exact hissued
  tied := by
    intro j side t k hstamp hget
    by_cases hj : j = e
    · simp only [Bonds.tie, hj, if_true, Option.some.injEq, Prod.mk.injEq] at hstamp
      obtain ⟨rfl, rfl⟩ := hstamp
      simp only [Bonds.tie, if_true, Roster.get?_add, Option.some.injEq] at hget
      exact ⟨a, by simp [hj], rfl, hget⟩
    · simp only [Bonds.tie, hj, if_false] at hstamp hget
      have hold : (b.roster side).get? t = some k := by
        split at hget
        · next hside =>
          subst hside
          have hnext : ¬ t = (b.roster a.side).next := by
            rintro rfl
            exact absurd (hb.issued hstamp) (Nat.lt_irrefl _)
          rwa [Roster.get?_add, if_neg hnext] at hget
        · exact hget
      obtain ⟨c, hc, hside, hkey⟩ := hb.tied hstamp hold
      exact ⟨c, by simp [hj, hc], hside, hkey⟩

theorem strike (hb : b.Sound h) (way : Side) (t : Token) : (b.strike way t).Sound h where
  issued := by
    intro e side u hstamp
    have hissued := hb.issued hstamp
    simp only [Bonds.strike]
    split
    · next hside => rwa [← hside]
    · exact hissued
  tied := by
    intro e side u k hstamp hget
    refine hb.tied hstamp ?_
    simp only [Bonds.strike] at hget
    split at hget
    · next hside =>
      subst hside
      rw [Roster.get?_remove] at hget
      split at hget
      · cases hget
      · exact hget
    · exact hget

theorem clear (hb : b.Sound h) (e : Nat) : (b.clear e).Sound h where
  issued := by
    intro j side t hstamp
    simp only [Bonds.clear] at hstamp
    split at hstamp
    · cases hstamp
    · exact hb.issued hstamp
  tied := by
    intro j side t k hstamp hget
    simp only [Bonds.clear] at hstamp
    split at hstamp
    · cases hstamp
    · exact hb.tied hstamp hget

theorem stamp_clear (b : Bonds) (e : Nat) : (b.clear e).stamp e = none := if_pos rfl

/-- The history may forget the tie of an endpoint that has been cleared. -/
theorem forget (hb : b.Sound h) {e : Nat} (hstamp : b.stamp e = none)
    (hagree : ∀ j, j ≠ e → h'.get? j = h.get? j) : b.Sound h' := by
  refine hb.of_agree fun j hj => hagree j ?_
  rintro rfl
  exact hj hstamp

end Bonds.Sound

namespace Session

variable {s : Session} {h : Ties}

/-! ### One event -/

theorem sound_disconnect (hs : s.bonds.Sound h) (e : Nat) (a : Adapter) :
    (s.disconnect e a).1.bonds.Sound (h.cut e a) := by
  rcases disconnect_cases s e a with ⟨hsame, hne⟩ | ⟨t, -, -, hcut⟩
  · rw [hsame]
    refine ⟨hs.issued, fun {j side t k} hstamp hget => ?_⟩
    obtain ⟨c, hc, hside, hkey⟩ := hs.tied hstamp hget
    refine ⟨c, ?_, hside, hkey⟩
    -- the tie that is cut was to an adapter which the token no longer leads to
    have hca : ¬ (j = e ∧ c = a) := by
      rintro ⟨rfl, rfl⟩
      subst hside hkey
      exact hne t (stamp_bonds_eq_some_iff.mp hstamp).2 hget
    rw [Ties.cut]
    split
    · next ha =>
      have hje : j ≠ e := by
        rintro rfl
        exact hca ⟨rfl, Option.some.inj (hc.symm.trans ha)⟩
      simp [hje, hc]
    · exact hc
  · rw [hcut, bonds_cut]
    exact ((hs.strike a.side t).clear e).forget (Bonds.Sound.stamp_clear _ e)
      fun j hj => Ties.get?_cut_of_ne hj h a

theorem sound_close (hs : s.bonds.Sound h) (key : Nat) :
    (s.close key).1.bonds.Sound (h.cutDuplex (s.duplexes.get? key)) := by
  rw [close]
  split
  · next hd =>
    rw [hd]
    exact hs
  · next d hd =>
    rw [hd, Ties.cutDuplex]
    split
    · exact hs
    · have hmarked : ({ s with
          duplexes := s.duplexes.put key { d with closed := true } } : Session).bonds.Sound h := hs
      exact sound_disconnect (sound_disconnect hmarked d.readEnd (.inlet d.inlet)) d.writeEnd
        (.outlet d.outlet)

theorem sound_free (hs : s.bonds.Sound h) (e : Nat) : (s.free e).1.bonds.Sound h := by
  rcases free_cases s e with ⟨hbonds, -⟩ | ⟨-, hbonds, -⟩ | ⟨side, t, -, hbonds, -⟩
  · rw [hbonds]
    exact hs
  · rw [hbonds]
    exact hs.clear e
  · rw [hbonds]
    exact (hs.strike side t).clear e

theorem sound_free_forget (hs : s.bonds.Sound h) (e : Nat) :
    (s.free e).1.bonds.Sound (h.free e (s.endpoints.get? e)) := by
  cases hb : s.endpoints.get? e with
  | none => exact sound_free hs e
  | some b =>
    rw [Ties.free]
    split
    · exact sound_free hs e
    · next hlast =>
      exact (sound_free hs e).forget (stamp_free hb (Nat.not_lt.mp hlast)) fun j hj => by simp [hj]

theorem sound_dropDuplex (hs : s.bonds.Sound h) (key : Nat) :
    (s.dropDuplex key).1.bonds.Sound (h.cutDuplex (s.duplexes.get? key)) := by
  have hclose := sound_close hs key
  rw [dropDuplex]
  split
  · next hd =>
    rw [hd]
    exact hs
  · next d hd =>
    have herased : ({ (s.close key).1 with
        duplexes := (s.close key).1.duplexes.erase key } : Session).bonds.Sound
          (h.cutDuplex (s.duplexes.get? key)) := hclose
    exact sound_free (sound_free herased d.readEnd) d.writeEnd

theorem sound_attach (hs : s.bonds.Sound h) (e : Nat) (a : Adapter) :
    match (s.attach e a).value with
    | .ok _ => (s.attach e a).session.bonds.Sound (h.put e a)
    | .error _ => (s.attach e a).session.bonds.Sound h := by
  rcases attach_cases s e a with ⟨t, hattach, hbonds, -⟩ | ⟨t, hattach, hbonds, -⟩
  · simp only [hattach]
    rw [hbonds]
    exact hs.tie e a
  · simp only [hattach]
    rw [hbonds]
    exact hs

/-- Opening a duplex ties both of its adapters, or it leaves no tie behind. -/
theorem sound_openDuplex (hs : s.bonds.Sound h) (key : Nat) (d : DuplexKeys) (connection : Nat)
    (settings : Settings) :
    match (s.openDuplex key d connection settings).value with
    | .ok _ => (s.openDuplex key d connection settings).session.bonds.Sound
        ((h.put d.readEnd (.inlet d.inlet)).put d.writeEnd (.outlet d.outlet))
    | .error _ => (s.openDuplex key d connection settings).session.bonds.Sound h := by
  rcases openDuplex_cases s key d connection settings with
    ⟨t, hopen, hbonds, -⟩ | ⟨t, hopen, hbonds, -⟩ | ⟨t, hopen, hbonds, -⟩
  · simp only [hopen]
    rw [hbonds]
    exact (hs.tie d.readEnd (.inlet d.inlet)).tie d.writeEnd (.outlet d.outlet)
  · simp only [hopen]
    rw [hbonds]
    exact hs
  · simp only [hopen]
    rw [hbonds]
    -- the endpoint that was made first has gone again, and its tie with it
    have htied := hs.tie d.readEnd (.inlet d.inlet)
    exact ((htied.strike .inbound _).clear d.readEnd).forget (Bonds.Sound.stamp_clear _ _)
      fun j hj => by simp [hj]

/-- A destructor that is called directly cuts the tie of its endpoint. -/
theorem sound_release (hs : s.bonds.Sound h) (side : Side) (e : Nat) :
    (s.release side e).1.bonds.Sound (h.erase e) := by
  have hforget : ∀ j, j ≠ e → (Table.erase h e).get? j = h.get? j := fun j hj => by simp [hj]
  rcases release_cases s side e with ⟨htoken, hsame⟩ | ⟨t, -, hcut⟩
  · rw [hsame]
    refine hs.forget (Option.eq_none_iff_forall_ne_some.mpr fun found hstamp => ?_) hforget
    have htoken' := (stamp_bonds_eq_some_iff.mp hstamp).2
    cases htoken.symm.trans htoken'
  · rw [hcut, bonds_cut]
    exact ((hs.strike side t).clear e).forget (Bonds.Sound.stamp_clear _ e) hforget

/-- One event of the library's own keeps the bonds sound. -/
theorem sound_step (hs : s.bonds.Sound h) {event : Event}
    (hevent : ∀ e data, event ≠ .setData e data) :
    (s.step event).session.bonds.Sound (h.after s event (s.step event).value) := by
  cases hbinding : event.isBinding with
  | false =>
    rw [bonds_step hbinding, Ties.after_of_not_binding hbinding]
    exact hs
  | true =>
    have hstep := rebinds_step hbinding s
    generalize s.step event = effect at hstep ⊢
    cases hstep with
    | unknown =>
      rw [Ties.after_of_unknown]
      exact hs
    | noCallback =>
      rw [Ties.after_of_noCallback]
      exact hs
    | @attach e a t hnew hvalue =>
      have hattach := sound_attach hs e a
      rwa [hvalue] at hattach
    | @attachRefused e a reason hnew hvalue =>
      have hattach := sound_attach hs e a
      rwa [hvalue] at hattach
    | disconnect => exact sound_disconnect hs _ _
    | @openDuplex key connection d settings r w hread hwrite hne hvalue =>
      have hopen := sound_openDuplex hs key d connection settings
      rwa [hvalue] at hopen
    | @openDuplexRefused key connection d settings reason hread hwrite hne hvalue =>
      have hopen := sound_openDuplex hs key d connection settings
      rwa [hvalue] at hopen
    | close => exact sound_close hs _
    | dropDuplex => exact sound_dropDuplex hs _
    | free => exact sound_free_forget hs _
    | setData => exact absurd rfl (hevent _ _)
    | destroy => exact sound_release hs _ _
    | destroyNone => exact hs
    | openForeign =>
      rw [bonds_openForeign]
      exact (hs.clear _).forget (Bonds.Sound.stamp_clear _ _) fun j hj => by simp [Ties.after, hj]

/-! ### Runs -/

/-- The adapter to which each endpoint is tied after a list of events. -/
def ties (s : Session) (h : Ties) : List Event → Ties
  | [] => h
  | event :: rest =>
      let effect := s.step event
      ties effect.session (h.after s event effect.value) rest

/-- **The bonds stay sound** as long as nobody else writes data fields. -/
theorem sound_run {events : List Event} (hevents : ∀ e data, .setData e data ∉ events) :
    ∀ {s : Session} {h : Ties}, s.bonds.Sound h →
      (s.run events).1.bonds.Sound (s.ties h events) := by
  induction events with
  | nil => intro s h hs; exact hs
  | cons event rest ih =>
    intro s h hs
    refine ih (fun e data hmem => hevents e data (List.mem_cons_of_mem _ hmem)) ?_
    exact sound_step hs fun e data heq => hevents e data (heq ▸ List.mem_cons_self)

theorem sound_empty (engine : Engine) : ({ engine } : Session).bonds.Sound ∅ where
  issued := by
    intro e side t hstamp
    cases hstamp
  tied := by
    intro e side t k hstamp
    cases hstamp

/-! ### Disconnecting -/

/-- Disconnecting again changes nothing. -/
theorem disconnect_twice (s : Session) (e : Nat) (a : Adapter) :
    (s.disconnect e a).1.disconnect e a = ((s.disconnect e a).1, []) := by
  rcases disconnect_cases s e a with ⟨hsame, -⟩ | ⟨t, -, -, hcut⟩
  · simp only [hsame]
  · rw [hcut]
    refine disconnect_of_empty ?_ a
    rw [token?_setData, if_pos rfl]
    simp

/-- An endpoint is crossed with an adapter of the other side if it carries the number of a token
under which that adapter is entered. -/
def Crossed (s : Session) (e : Nat) (a : Adapter) : Prop :=
  ∃ b t, s.endpoints.get? e = some b ∧ b.form ≠ .adapter a.side ∧ b.data = some t ∧
    (s.roster a.side).get? t = some a.key

theorem crossed_iff {s : Session} {e : Nat} {a : Adapter} :
    s.Crossed e a ↔ ∃ t, s.token? e = some t ∧ s.bonds.stamp e ≠ some (a.side, t) ∧
      (s.roster a.side).get? t = some a.key := by
  constructor
  · rintro ⟨b, t, hb, hform, ht, hget⟩
    refine ⟨t, by simp [token?, hb, ht], fun hstamp => hform ?_, hget⟩
    obtain ⟨⟨b', hb', hform'⟩, -⟩ := stamp_bonds_eq_some_iff.mp hstamp
    cases hb.symm.trans hb'
    exact hform'
  · rintro ⟨t, ht, hstamp, hget⟩
    obtain ⟨b, hb, hdata⟩ := Option.bind_eq_some_iff.mp ht
    exact ⟨b, t, hb, fun hform => hstamp (stamp_bonds_eq_some_iff.mpr ⟨⟨b, hb, hform⟩, ht⟩),
      hdata, hget⟩

/-- **Disconnecting an adapter from an endpoint that is not tied to it changes nothing, just if the
two are not crossed.** If they are, the adapter's own token is struck off and the endpoint is
cleared. Either way, disconnecting again changes nothing. -/
theorem disconnect_eq_self_iff {engine : Engine} {events : List Event}
    (hevents : ∀ e data, .setData e data ∉ events) {s : Session}
    (hs : s = (({ engine } : Session).run events).1) {e : Nat} {a : Adapter}
    (ha : (({ engine } : Session).ties ∅ events).get? e ≠ some a) :
    (s.disconnect e a = (s, []) ↔ ¬ s.Crossed e a) ∧
      (s.Crossed e a → ∃ t, s.token? e = some t ∧ s.disconnect e a =
        ((s.withRoster a.side ((s.roster a.side).remove t)).setData e none,
          [.detached a.side t])) ∧
      (s.disconnect e a).1.disconnect e a = ((s.disconnect e a).1, []) := by
  have hsound : s.bonds.Sound (({ engine } : Session).ties ∅ events) := by
    rw [hs]
    exact sound_run hevents (sound_empty engine)
  refine ⟨?_, ?_, disconnect_twice s e a⟩
  · rcases disconnect_cases s e a with ⟨hsame, hne⟩ | ⟨t, ht, hget, hcut⟩
    · refine iff_of_true hsame fun hcrossed => ?_
      obtain ⟨t, ht, -, hget⟩ := crossed_iff.mp hcrossed
      exact hne t ht hget
    · refine iff_of_false (by simp [hcut]) fun hnot => hnot (crossed_iff.mpr ⟨t, ht, ?_, hget⟩)
      -- on the adapter's own side the token leads to the adapter that the endpoint is tied to
      intro hstamp
      obtain ⟨c, hc, hside, hkey⟩ := hsound.tied hstamp hget
      exact ha (hc.trans (congrArg some (Adapter.eq_iff.mpr ⟨hside, hkey⟩)))
  · intro hcrossed
    obtain ⟨t, ht, -, hget⟩ := crossed_iff.mp hcrossed
    rcases disconnect_cases s e a with ⟨-, hne⟩ | ⟨u, hu, -, hcut⟩
    · exact absurd hget (hne t ht)
    · exact ⟨u, hu, hcut⟩

/-- An inlet and an outlet, each attached to an endpoint of its own as the first of its side. -/
def firstOfEachSide : List Event :=
  [.openInlet 0 0 false [], .openOutlet 0 1 false, .attach 0 (.inlet 0), .attach 1 (.outlet 0)]

/-- Once the inlet has been disconnected from its own endpoint, its number in the endpoint of the
outlet no longer leads to it. -/
theorem disconnect_eq_self_of_detached :
    (({} : Session).run (firstOfEachSide ++ [.disconnect 0 (.inlet 0)])).1.disconnect 1 (.inlet 0) =
      ((({} : Session).run (firstOfEachSide ++ [.disconnect 0 (.inlet 0)])).1, []) := by
  refine (@disconnect_eq_self_iff .prepared (firstOfEachSide ++ [.disconnect 0 (.inlet 0)])
    (by simp [firstOfEachSide]) _ rfl 1 (.inlet 0) (by decide)).1.mpr ?_
  rintro ⟨b, t, hb, -, ht, hget⟩
  cases hb
  cases ht
  cases hget

/-- Disconnecting the inlet from the endpoint that is tied to the outlet cuts off both: either was
the first of its side, and so they share a number. -/
theorem disconnect_crosses :
    let s := (({} : Session).run firstOfEachSide).1
    (∀ e data, .setData e data ∉ firstOfEachSide) ∧
      (({} : Session).ties ∅ firstOfEachSide).get? 1 = some (.outlet 0) ∧
      s.token? 1 = some ⟨0⟩ ∧ s.inletRoster.get? ⟨0⟩ = some 0 ∧
      (s.disconnect 1 (.inlet 0)).2 = [.detached .inbound ⟨0⟩] ∧
      (s.disconnect 1 (.inlet 0)).1.token? 1 = none ∧
      (s.disconnect 1 (.inlet 0)).1.inletRoster.get? ⟨0⟩ = none ∧
      (s.disconnect 1 (.inlet 0)).1.outletRoster.get? ⟨0⟩ = some 0 := by
  refine ⟨by simp [firstOfEachSide], ?_⟩
  decide

end Session

end Conduit

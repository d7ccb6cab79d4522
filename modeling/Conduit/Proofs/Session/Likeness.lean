import Conduit.Proofs.Session.Frame
import Conduit.Proofs.Session.Serving
/-!
# Sessions that are alike

Two runs are compared by a relation between their sessions. It asks for the same engine, the same
endpoints, the same duplexes and the same rosters, and it says for each key how the two adapters
under it belong together. What the two may differ in is a `Gap`: adapters that are not equal but
behave alike as far as it matters, and endpoints, duplexes and tokens that only one of the two
sessions can use any more.

An event that keeps away from the gap has the same reply and the same log in both sessions, and
leaves them alike. That is said once for all events. An event on the one side of the gap alone is
the business of whoever knows what the gap is.

Two sessions are compared by what is found in them, not by how their tables are laid out: the order
in which things were put there shows nowhere.

## Main definitions

* `Conduit.Gap`: what two sessions may differ in.
* `Conduit.Gap.Alike`: they differ in nothing else.
* `Conduit.Gap.Lawful`: adapters that belong together go on doing so.
* `Conduit.Gap.Same`: two effects with the same value and log that leave sessions that are alike.
* `Conduit.Gap.Clear`: an endpoint that keeps away from the gap.
-/

namespace Conduit

/-- What two sessions that are otherwise alike may differ in. -/
structure Gap where
  /-- How the inlets under one key belong together. -/
  inlet : Nat → Inlet → Inlet → Prop := fun _ => Eq
  /-- How the outlets under one key belong together. -/
  outlet : Nat → Outlet → Outlet → Prop := fun _ => Eq
  /-- Endpoints that need not agree. -/
  endpoint : Nat → Prop := fun _ => False
  /-- Duplexes of which only the keys agree. -/
  duplex : Nat → Prop := fun _ => False
  /-- Tokens that need not stand for the same. -/
  token : Side → Token → Prop := fun _ _ => False

namespace Gap

open Session

/-- Two sessions differ in nothing but the gap. -/
structure Alike (g : Gap) (s t : Session) : Prop where
  engine : s.engine = t.engine
  inlets : ∀ k, Option.Rel (g.inlet k) (s.inlets.get? k) (t.inlets.get? k)
  outlets : ∀ k, Option.Rel (g.outlet k) (s.outlets.get? k) (t.outlets.get? k)
  endpoints : ∀ e, ¬ g.endpoint e → s.endpoints.get? e = t.endpoints.get? e
  duplexes : ∀ j, ¬ g.duplex j → s.duplexes.get? j = t.duplexes.get? j
  issued : ∀ side, (s.roster side).issued = (t.roster side).issued
  entries : ∀ side u, ¬ g.token side u → (s.roster side).get? u = (t.roster side).get? u
  /-- No other endpoint of a side stores a token of the gap. -/
  own : ∀ e b side u, ¬ g.endpoint e → s.endpoints.get? e = some b → b.form = .adapter side →
    b.data = some u → ¬ g.token side u
  /-- The tokens of the gap are old. -/
  old : ∀ side u, g.token side u → u.index < (s.roster side).issued
  keys : ∀ j d, g.duplex j → s.duplexes.get? j = some d →
    ∃ d', t.duplexes.get? j = some d' ∧ d'.toDuplexKeys = d.toDuplexKeys

/-- Two effects have the same value and log and leave sessions that are alike. -/
structure Same {α : Type} (g : Gap) (x y : Effect α) : Prop where
  alike : g.Alike x.session y.session
  value : x.value = y.value
  log : x.log = y.log

theorem Same.exists_eq {α : Type} {g : Gap} {x y : Effect α} (h : g.Same x y) :
    ∃ s t value log, x = ⟨s, value, log⟩ ∧ y = ⟨t, value, log⟩ ∧ g.Alike s t := by
  obtain ⟨s, value, log⟩ := x
  obtain ⟨t, value', log'⟩ := y
  obtain ⟨halike, rfl, rfl⟩ := h
  exact ⟨s, t, value, log, rfl, rfl, halike⟩

theorem Same.map {α β : Type} {g : Gap} {x y : Effect α} (h : g.Same x y) (f : α → β) :
    g.Same ⟨x.session, f x.value, x.log⟩ ⟨y.session, f y.value, y.log⟩ :=
  ⟨h.alike, congrArg f h.value, h.log⟩

/-- Adapters that belong together show the same, and go on belonging together whatever is done to
both. -/
structure Lawful (g : Gap) : Prop where
  buffer : ∀ {k i j}, g.inlet k i j → i.buffer = j.buffer
  ended : ∀ {k i j}, g.inlet k i j → i.ended = j.ended
  mark : ∀ {k i j}, g.inlet k i j → g.inlet k i.markEnded j.markEnded
  take : ∀ {k i j}, g.inlet k i j → ∀ n,
    g.inlet k { i with buffer := i.buffer.drop n } { j with buffer := j.buffer.drop n }
  append : ∀ {k o p}, g.outlet k o p → ∀ data, g.outlet k (o.append data) (p.append data)

/-- Where no adapters differ. -/
theorem lawful_of_eq {g : Gap} (hinlet : ∀ k, g.inlet k = Eq) (houtlet : ∀ k, g.outlet k = Eq) :
    g.Lawful where
  buffer h := by rw [(hinlet _ ▸ h :)]
  ended h := by rw [(hinlet _ ▸ h :)]
  mark h := by rw [hinlet] at h ⊢; rw [h]
  take h n := by rw [hinlet] at h ⊢; rw [h]
  append h data := by rw [houtlet] at h ⊢; rw [h]

variable {g : Gap} {s t : Session} {e : Nat}

/-- An endpoint that a callback of a side can be used on without touching the gap. -/
def Clear (g : Gap) (s : Session) (side : Side) (e : Nat) : Prop :=
  ¬ g.endpoint e ∧ ∀ u, s.token? e = some u → ¬ g.token side u

/-- Sessions that differ in nothing but their adapters. -/
theorem alike_of_adapters (hduplex : ∀ j, ¬ g.duplex j) (htoken : ∀ side u, ¬ g.token side u)
    {s : Session} {i j : Table Nat Inlet} {o p : Table Nat Outlet}
    (hinlets : ∀ k, Option.Rel (g.inlet k) (i.get? k) (j.get? k))
    (houtlets : ∀ k, Option.Rel (g.outlet k) (o.get? k) (p.get? k)) :
    g.Alike { s with inlets := i, outlets := o } { s with inlets := j, outlets := p } where
  engine := rfl
  inlets := hinlets
  outlets := houtlets
  endpoints _ _ := rfl
  duplexes _ _ := rfl
  issued side := by cases side <;> rfl
  entries side _ _ := by cases side <;> rfl
  own _ _ side u _ _ _ _ hu := htoken side u hu
  old side u hu := absurd hu (htoken side u)
  keys j _ hj _ := absurd hj (hduplex j)

theorem rel_eq_refl {α : Type} (x : Option α) : Option.Rel Eq x x := by
  cases x
  · exact .none
  · exact .some rfl

/-! ### What is found in sessions that are alike -/

namespace Alike

variable (h : g.Alike s t)

include h

theorem inlet_cases (k : Nat) : (s.inlets.get? k = none ∧ t.inlets.get? k = none) ∨
    ∃ i j, s.inlets.get? k = some i ∧ t.inlets.get? k = some j ∧ g.inlet k i j := by
  have hrel := h.inlets k
  cases hs : s.inlets.get? k <;> cases ht : t.inlets.get? k <;> rw [hs, ht] at hrel <;> cases hrel
  · exact Or.inl ⟨rfl, rfl⟩
  · exact Or.inr ⟨_, _, rfl, rfl, ‹_›⟩

theorem outlet_cases (k : Nat) : (s.outlets.get? k = none ∧ t.outlets.get? k = none) ∨
    ∃ o p, s.outlets.get? k = some o ∧ t.outlets.get? k = some p ∧ g.outlet k o p := by
  have hrel := h.outlets k
  cases hs : s.outlets.get? k <;> cases ht : t.outlets.get? k <;> rw [hs, ht] at hrel <;>
    cases hrel
  · exact Or.inl ⟨rfl, rfl⟩
  · exact Or.inr ⟨_, _, rfl, rfl, ‹_›⟩

theorem contains_inlets (k : Nat) : s.inlets.contains k = t.inlets.contains k := by
  rcases h.inlet_cases k with ⟨hs, ht⟩ | ⟨i, j, hs, ht, -⟩ <;> simp [Table.contains, hs, ht]

theorem contains_outlets (k : Nat) : s.outlets.contains k = t.outlets.contains k := by
  rcases h.outlet_cases k with ⟨hs, ht⟩ | ⟨o, p, hs, ht, -⟩ <;> simp [Table.contains, hs, ht]

theorem contains_endpoints (he : ¬ g.endpoint e) :
    s.endpoints.contains e = t.endpoints.contains e := by
  simp [Table.contains, h.endpoints e he]

theorem contains_duplexes {j : Nat} (hj : ¬ g.duplex j) :
    s.duplexes.contains j = t.duplexes.contains j := by
  simp [Table.contains, h.duplexes j hj]

theorem token?_eq (he : ¬ g.endpoint e) : s.token? e = t.token? e := by
  rw [token?, token?, h.endpoints e he]

theorem next_eq (side : Side) : (s.roster side).next = (t.roster side).next := by
  rw [Roster.next, Roster.next, h.issued]

theorem resolve_eq {side : Side} (he : g.Clear s side e) : s.resolve side e = t.resolve side e := by
  rw [resolve, resolve, ← h.token?_eq he.1]
  cases hu : s.token? e with
  | none => rfl
  | some u => exact h.entries side u (he.2 u hu)

/-- What a read callback finds. -/
theorem inletAt?_cases (he : g.Clear s .inbound e) :
    (s.inletAt? e = none ∧ t.inletAt? e = none) ∨
      ∃ k i j, s.inletAt? e = some (k, i) ∧ t.inletAt? e = some (k, j) ∧ g.inlet k i j := by
  rw [inletAt?, inletAt?, ← h.resolve_eq he]
  cases s.resolve .inbound e with
  | none => exact Or.inl ⟨rfl, rfl⟩
  | some k =>
    rcases h.inlet_cases k with ⟨hs, ht⟩ | ⟨i, j, hs, ht, hij⟩
    · exact Or.inl (by simp [hs, ht])
    · exact Or.inr ⟨k, i, j, by simp [hs], by simp [ht], hij⟩

/-- What a write callback finds. -/
theorem outletAt?_cases (he : g.Clear s .outbound e) :
    (s.outletAt? e = none ∧ t.outletAt? e = none) ∨
      ∃ k o p, s.outletAt? e = some (k, o) ∧ t.outletAt? e = some (k, p) ∧ g.outlet k o p := by
  rw [outletAt?, outletAt?, ← h.resolve_eq he]
  cases s.resolve .outbound e with
  | none => exact Or.inl ⟨rfl, rfl⟩
  | some k =>
    rcases h.outlet_cases k with ⟨hs, ht⟩ | ⟨o, p, hs, ht, hop⟩
    · exact Or.inl (by simp [hs, ht])
    · exact Or.inr ⟨k, o, p, by simp [hs], by simp [ht], hop⟩

/-- An endpoint of a side outside the gap is clear for that side. -/
theorem clear_of_form (he : ¬ g.endpoint e) {b : Endpoint} {side : Side}
    (hb : s.endpoints.get? e = some b) (hform : b.form = .adapter side) : g.Clear s side e := by
  refine ⟨he, fun u hu => h.own e b side u he hb hform ?_⟩
  simpa [token?, hb] using hu

/-! ### Updates on both sides -/

theorem putInlet {k : Nat} {i j : Inlet} (hij : g.inlet k i j) :
    g.Alike (s.putInlet k i) (t.putInlet k j) := by
  refine { h with inlets := fun l => ?_ }
  simp only [inlets_putInlet, Table.get?_put]
  split
  · next hl => exact .some (hl ▸ hij)
  · exact h.inlets l

theorem putOutlet {k : Nat} {o p : Outlet} (hop : g.outlet k o p) :
    g.Alike (s.putOutlet k o) (t.putOutlet k p) := by
  refine { h with outlets := fun l => ?_ }
  simp only [outlets_putOutlet, Table.get?_put]
  split
  · next hl => exact .some (hl ▸ hop)
  · exact h.outlets l

/-- The same is put in place of an endpoint of both. -/
theorem putEndpoint {b : Endpoint}
    (hb : ∀ side u, b.form = .adapter side → b.data = some u → ¬ g.token side u) :
    g.Alike { s with endpoints := s.endpoints.put e b }
      { t with endpoints := t.endpoints.put e b } := by
  refine { h with endpoints := fun j hj => ?_, own := fun j c side u hj hc => ?_ }
  · simp only [Table.get?_put, h.endpoints j hj]
  · rw [Table.get?_put] at hc
    split at hc
    · cases hc
      exact hb side u
    · exact h.own j c side u hj hc

theorem modifyEndpoint {f : Endpoint → Endpoint}
    (hf : ∀ b, s.endpoints.get? e = some b → ∀ side u, (f b).form = .adapter side →
      (f b).data = some u → ¬ g.token side u) :
    g.Alike (s.modifyEndpoint e f) (t.modifyEndpoint e f) := by
  refine { h with endpoints := fun j hj => ?_, own := fun j c side u hj hc => ?_ }
  · simp only [Session.modifyEndpoint, Table.get?_modify, h.endpoints j hj]
  · rw [Session.modifyEndpoint, Table.get?_modify] at hc
    split at hc
    · next hje =>
      subst hje
      obtain ⟨b, hb, rfl⟩ := Option.map_eq_some_iff.mp hc
      exact hf b hb side u
    · exact h.own j c side u hj hc

/-- A change that leaves form and data of an endpoint as they are. -/
theorem modifyEndpoint_of_stamp (he : ¬ g.endpoint e) {f : Endpoint → Endpoint}
    (hf : ∀ b, (f b).form = b.form ∧ (f b).data = b.data) :
    g.Alike (s.modifyEndpoint e f) (t.modifyEndpoint e f) :=
  h.modifyEndpoint fun b hb side u hform hdata =>
    h.own e b side u he hb ((hf b).1 ▸ hform) ((hf b).2 ▸ hdata)

/-- A change after which the endpoint is none of an adapter's. -/
theorem modifyEndpoint_of_foreign {f : Endpoint → Endpoint}
    (hf : ∀ b side, (f b).form ≠ .adapter side) :
    g.Alike (s.modifyEndpoint e f) (t.modifyEndpoint e f) :=
  h.modifyEndpoint fun b _ side _ hform => absurd hform (hf b side)

theorem modifyFlags (he : ¬ g.endpoint e) (f : Flags → Flags) :
    g.Alike (s.modifyFlags e f) (t.modifyFlags e f) :=
  h.modifyEndpoint_of_stamp he fun _ => ⟨rfl, rfl⟩

theorem eraseEndpoint (e : Nat) :
    g.Alike { s with endpoints := s.endpoints.erase e }
      { t with endpoints := t.endpoints.erase e } := by
  refine { h with endpoints := fun j hj => ?_, own := fun j c side u hj hc => ?_ }
  · simp only [Table.get?_erase, h.endpoints j hj]
  · rw [Table.get?_erase] at hc
    split at hc
    · cases hc
    · exact h.own j c side u hj hc

/-- The same is done to the rosters of one side. -/
theorem withRoster {side : Side} {x y : Roster Nat} (hissued : x.issued = y.issued)
    (hle : (s.roster side).issued ≤ x.issued)
    (hentries : ∀ u, ¬ g.token side u → x.get? u = y.get? u) :
    g.Alike (s.withRoster side x) (t.withRoster side y) where
  engine := by cases side <;> exact h.engine
  inlets := by simpa using h.inlets
  outlets := by simpa using h.outlets
  endpoints := by simpa using h.endpoints
  duplexes := by simpa using h.duplexes
  issued := by
    intro way
    simp only [roster_withRoster]
    split
    · exact hissued
    · exact h.issued way
  entries := by
    intro way u hu
    simp only [roster_withRoster]
    split
    · next hway => exact hentries u (hway ▸ hu)
    · exact h.entries way u hu
  own := by simpa using h.own
  old := by
    intro way u hu
    simp only [roster_withRoster]
    split
    · next hway =>
      subst hway
      exact Nat.lt_of_lt_of_le (h.old way u hu) hle
    · exact h.old way u hu
  keys := by simpa using h.keys

/-- A token is struck off in both. -/
theorem strike (side : Side) (u : Token) :
    g.Alike (s.withRoster side ((s.roster side).remove u))
      (t.withRoster side ((t.roster side).remove u)) := by
  refine h.withRoster (h.issued side) (Nat.le_refl _) fun v hv => ?_
  rw [Roster.get?_remove, Roster.get?_remove, h.entries side v hv]

/-- The token of an endpoint is struck off and the endpoint cleared in both. -/
theorem cut (side : Side) (u : Token) (e : Nat) :
    g.Alike ((s.withRoster side ((s.roster side).remove u)).setData e none)
      ((t.withRoster side ((t.roster side).remove u)).setData e none) :=
  (h.strike side u).modifyEndpoint fun _ _ _ _ _ hdata => nomatch hdata

theorem withEngine (engine : Engine) : g.Alike { s with engine } { t with engine } where
  engine := rfl
  inlets := h.inlets
  outlets := h.outlets
  endpoints := h.endpoints
  duplexes := h.duplexes
  issued := h.issued
  entries := h.entries
  own := h.own
  old := h.old
  keys := h.keys

theorem withDuplexes {x y : Table Nat Duplex} (hsame : ∀ j, ¬ g.duplex j → x.get? j = y.get? j)
    (hkeys : ∀ j d, g.duplex j → x.get? j = some d →
      ∃ d', y.get? j = some d' ∧ d'.toDuplexKeys = d.toDuplexKeys) :
    g.Alike { s with duplexes := x } { t with duplexes := y } :=
  { h with duplexes := hsame, keys := hkeys }

theorem putDuplex {j : Nat} (hj : ¬ g.duplex j) (d : Duplex) :
    g.Alike { s with duplexes := s.duplexes.put j d }
      { t with duplexes := t.duplexes.put j d } := by
  refine h.withDuplexes (fun l hl => ?_) fun l c hl hc => ?_
  · simp only [Table.get?_put, h.duplexes l hl]
  · have hlj : ¬ l = j := by
      rintro rfl
      exact hj hl
    rw [Table.get?_put, if_neg hlj] at hc ⊢
    exact h.keys l c hl hc

theorem eraseDuplex {j : Nat} (hj : ¬ g.duplex j) :
    g.Alike { s with duplexes := s.duplexes.erase j }
      { t with duplexes := t.duplexes.erase j } := by
  refine h.withDuplexes (fun l hl => ?_) fun l c hl hc => ?_
  · simp only [Table.get?_erase, h.duplexes l hl]
  · have hlj : ¬ l = j := by
      rintro rfl
      exact hj hl
    rw [Table.get?_erase, if_neg hlj] at hc ⊢
    exact h.keys l c hl hc

end Alike

end Gap

end Conduit

import Conduit.Proofs.Session.Compartment
import Conduit.Proofs.Session.Serving
/-!
# Sessions that mirror one another

A party can share a session with others or be alone in one. The two sessions then mirror one another
in its compartment: adapters and duplexes are the same, and endpoints are the same but for the
numbers of the tokens that they store, which a naming translates.

It is part of the same relation that the shared session differs from an earlier one, the base, in
that compartment only. So there are two things to be learnt from an event of a party, what it does
for the party and what it does not do to others, and both are proved at one go.

An engine whose calls fail would tell a party how many calls the others made. So no call is going to
fail in either session. A table that cannot be had all the same is one that could not be had from
the beginning, and the same for all.

## Main definitions

* `Conduit.Engine.Calm`: no call to the engine is going to fail.
* `Conduit.Compartment.Confined`: a session differs from another in a compartment only.
* `Conduit.Compartment.Mirror`: two sessions mirror one another in a compartment.

## Main results

* `Mirror.withEndpoint`, `Mirror.withRoster`, `Mirror.withEngine` and their special cases: updates
  of what belongs to a party, on both sides.
-/

namespace Conduit

/-! ### Engines that do not fail -/

/-- What becomes of a table when it is asked for, if no call to the engine fails. -/
def MethodTable.tried : MethodTable → MethodTable
  | .untried => .built
  | table => table

theorem MethodTable.tried_tried (table : MethodTable) : table.tried.tried = table.tried := by
  cases table <;> rfl

/-- A token issued before is not the next one. -/
theorem Roster.ne_next {α : Type} {r : Roster α} {u : Token} (h : u.index < r.issued) :
    u ≠ r.next := by
  rintro rfl
  exact Nat.lt_irrefl _ h

namespace Engine

variable {engine : Engine}

/-- No call to the engine is going to fail. -/
def Calm (engine : Engine) : Prop := ∀ c, engine.faults.get? c = none

/-- A call that does not fail is counted, and that is all. -/
structure Counted (engine : Engine) (result : Bool × Engine) : Prop where
  ok : result.1 = true
  faults : result.2.faults = engine.faults
  table : ∀ side, result.2.table side = engine.table side

theorem Counted.calm (h : engine.Calm) {result : Bool × Engine} (hcounted : engine.Counted result) :
    result.2.Calm := by
  intro c
  rw [hcounted.faults]
  exact h c

theorem counted_call (h : engine.Calm) (c : EngineCall) : engine.Counted (engine.call c) := by
  simp only [call, h c]
  exact ⟨rfl, rfl, fun side => by cases side <;> rfl⟩

theorem counted_setEntries (h : engine.Calm) (entries : List Callback) :
    engine.Counted (engine.setEntries entries) := by
  induction entries generalizing engine with
  | nil => exact ⟨rfl, rfl, fun _ => rfl⟩
  | cons c rest ih =>
    have hfirst := counted_call h c.setter
    have hrest := ih (hfirst.calm h)
    exact ⟨by simp [setEntries, hfirst.ok, hrest.ok], hrest.faults.trans hfirst.faults,
      fun side => (hrest.table side).trans (hfirst.table side)⟩

theorem buildTable_of_calm (h : engine.Calm) : engine.buildTable.1 = .built ∧
    engine.Counted (true, engine.buildTable.2) := by
  have hindex := counted_call h .newIndex
  have htable := counted_call (hindex.calm h) .newTable
  have hentries := counted_setEntries (htable.calm (hindex.calm h)) Callback.all
  have hbuild : engine.buildTable = (.built,
      (((engine.call .newIndex).2.call .newTable).2.setEntries Callback.all).2) := by
    simp [buildTable, hindex.ok, htable.ok, hentries.ok]
  rw [hbuild]
  generalize (((engine.call .newIndex).2.call .newTable).2.setEntries Callback.all) = result
    at hentries
  exact ⟨rfl, rfl, hentries.faults.trans (htable.faults.trans hindex.faults),
    fun side => (hentries.table side).trans ((htable.table side).trans (hindex.table side))⟩

theorem table_withTable (engine : Engine) (side way : Side) (table : MethodTable) :
    (engine.withTable side table).table way = if way = side then table else engine.table way := by
  cases side <;> cases way <;> rfl

theorem ensureTable_of_calm (h : engine.Calm) (side : Side) :
    (engine.ensureTable side).1 = decide ((engine.table side).tried = .built) ∧
      (engine.ensureTable side).2.Calm ∧ ∀ way, (engine.ensureTable side).2.table way =
        if way = side then (engine.table side).tried else engine.table way := by
  have hsame : ∀ way, engine.table way =
      if way = side then engine.table side else engine.table way := by
    intro way
    split
    · next hway => rw [hway]
    · rfl
  cases htable : engine.table side with
  | built | failed =>
    rw [htable] at hsame
    simp only [ensureTable, htable]
    exact ⟨rfl, h, hsame⟩
  | untried =>
    obtain ⟨hbuilt, hcounted⟩ := buildTable_of_calm h
    simp only [ensureTable, htable, hbuilt]
    refine ⟨rfl, fun c => ?_, fun way => ?_⟩
    · have hfaults := (hcounted.calm h) c
      cases side <;> exact hfaults
    · rw [table_withTable, hcounted.table]
      rfl

/-- An engine that does not fail makes an endpoint if the table can be had. -/
theorem newEndpoint_of_calm (h : engine.Calm) (side : Side) :
    (engine.newEndpoint side).1 = decide ((engine.table side).tried = .built) ∧
      (engine.newEndpoint side).2.Calm ∧ ∀ way, (engine.newEndpoint side).2.table way =
        if way = side then (engine.table side).tried else engine.table way := by
  obtain ⟨hok, hcalm, htable⟩ := ensureTable_of_calm h side
  rw [newEndpoint]
  dsimp only
  by_cases hbuilt : (engine.table side).tried = .built
  · have htrue : (engine.ensureTable side).1 = true := by simpa [hbuilt] using hok
    have hcounted := counted_call hcalm .newEndpoint
    rw [if_pos htrue]
    exact ⟨by simpa [hbuilt] using hcounted.ok, hcounted.calm hcalm,
      fun way => (hcounted.table way).trans (htable way)⟩
  · have hfalse : (engine.ensureTable side).1 = false := by simpa [hbuilt] using hok
    rw [if_neg (by simp [hfalse])]
    exact ⟨by simp [hbuilt], hcalm, htable⟩

end Engine

/-! ### Sessions that mirror one another -/

namespace Compartment

/-- A session differs from another only in what belongs to a party, and not in what stands under
the tokens of others. -/
structure Confined (x : Compartment) (others : Side → Token → Prop) (base s : Session) :
    Prop where
  inlets : ∀ k, x.inlet k = false → s.inlets.get? k = base.inlets.get? k
  outlets : ∀ k, x.outlet k = false → s.outlets.get? k = base.outlets.get? k
  duplexes : ∀ j, x.duplex j = false → s.duplexes.get? j = base.duplexes.get? j
  endpoints : ∀ e, x.side? e = none → s.endpoints.get? e = base.endpoints.get? e
  entries : ∀ side u, others side u → (s.roster side).get? u = (base.roster side).get? u
  issued : ∀ side, (base.roster side).issued ≤ (s.roster side).issued
  tables : ∀ side, (s.engine.table side).tried = (base.engine.table side).tried
  built : ∀ side, base.engine.table side = .built → s.engine.table side = .built

theorem Confined.refl (x : Compartment) (others : Side → Token → Prop) (s : Session) :
    x.Confined others s s where
  inlets _ _ := rfl
  outlets _ _ := rfl
  duplexes _ _ := rfl
  endpoints _ _ := rfl
  entries _ _ _ := rfl
  issued _ := Nat.le_refl _
  tables _ := rfl
  built _ h := h

/-- Two sessions mirror one another in what belongs to a party, and the first differs from the base
in nothing else. -/
structure Mirror (x : Compartment) (n : Naming) (others : Side → Token → Prop)
    (base s t : Session) : Prop where
  inlets : ∀ k, x.inlet k = true → s.inlets.get? k = t.inlets.get? k
  outlets : ∀ k, x.outlet k = true → s.outlets.get? k = t.outlets.get? k
  duplexes : ∀ j, x.duplex j = true → s.duplexes.get? j = t.duplexes.get? j
  endpoints : ∀ e side, x.side? e = some side →
    Option.Rel (Endpoint.Matches n side) (s.endpoints.get? e) (t.endpoints.get? e)
  /-- The adapters of a duplex of the party belong to the party. -/
  holds : ∀ j d, x.duplex j = true → t.duplexes.get? j = some d → x.holds d.toDuplexKeys = true
  /-- Tokens that stand for one another lead to the same, -/
  entries : ∀ side u v, n side u v → (s.roster side).get? u = (t.roster side).get? v
  /-- and that belongs to the party. -/
  leads : ∀ (a : Adapter) u v, n a.side u v → (t.roster a.side).get? v = some a.key →
    x.adapter a = true
  old : ∀ side u v, n side u v →
    u.index < (s.roster side).issued ∧ v.index < (t.roster side).issued
  oneToOne : n.OneToOne
  /-- The tokens of others are none of the party's. -/
  foreign : ∀ side u, others side u → u.index < (s.roster side).issued ∧ ∀ v, ¬ n side u v
  calm : s.engine.Calm
  calm' : t.engine.Calm
  tables : ∀ side, (s.engine.table side).tried = (t.engine.table side).tried
  /-- Where the party has an endpoint, there is a table in both sessions. -/
  built : ∀ e side, x.side? e = some side → t.endpoints.contains e = true →
    s.engine.table side = .built ∧ t.engine.table side = .built
  confined : x.Confined others base s

namespace Mirror

variable {x : Compartment} {n : Naming} {others : Side → Token → Prop} {base s t : Session}

/-! ### What is found -/

section

variable (h : x.Mirror n others base s t)

include h

theorem endpoint_cases {e : Nat} {side : Side} (he : x.side? e = some side) :
    (s.endpoints.get? e = none ∧ t.endpoints.get? e = none) ∨
      ∃ b c, s.endpoints.get? e = some b ∧ t.endpoints.get? e = some c ∧ b.Matches n side c := by
  have hrel := h.endpoints e side he
  cases hs : s.endpoints.get? e <;> cases ht : t.endpoints.get? e <;> rw [hs, ht] at hrel <;>
    cases hrel
  · exact Or.inl ⟨rfl, rfl⟩
  · exact Or.inr ⟨_, _, rfl, rfl, ‹_›⟩

theorem contains_endpoints {e : Nat} {side : Side} (he : x.side? e = some side) :
    s.endpoints.contains e = t.endpoints.contains e := by
  rcases h.endpoint_cases he with ⟨hs, ht⟩ | ⟨b, c, hs, ht, -⟩ <;> simp [Table.contains, hs, ht]

theorem contains_inlets {k : Nat} (hk : x.inlet k = true) :
    s.inlets.contains k = t.inlets.contains k := by
  rw [Table.contains, Table.contains, h.inlets k hk]

theorem contains_outlets {k : Nat} (hk : x.outlet k = true) :
    s.outlets.contains k = t.outlets.contains k := by
  rw [Table.contains, Table.contains, h.outlets k hk]

theorem contains_duplexes {j : Nat} (hj : x.duplex j = true) :
    s.duplexes.contains j = t.duplexes.contains j := by
  rw [Table.contains, Table.contains, h.duplexes j hj]

theorem token?_cases {e : Nat} {side : Side} (he : x.side? e = some side) :
    (s.token? e = none ∧ t.token? e = none) ∨
      ∃ u v, s.token? e = some u ∧ t.token? e = some v ∧ n side u v := by
  rw [Session.token?, Session.token?]
  rcases h.endpoint_cases he with ⟨hs, ht⟩ | ⟨b, c, hs, ht, hbc⟩ <;> rw [hs, ht]
  · exact Or.inl ⟨rfl, rfl⟩
  · have hdata := hbc.data
    simp only [Option.bind_some]
    cases hb : b.data <;> cases hc : c.data <;> rw [hb, hc] at hdata <;> cases hdata
    · exact Or.inl ⟨rfl, rfl⟩
    · exact Or.inr ⟨_, _, rfl, rfl, ‹_›⟩

/-- An endpoint of the party leads to the same adapter in both, one of the party's. -/
theorem resolve_cases {e : Nat} {side : Side} (he : x.side? e = some side) :
    (s.resolve side e = none ∧ t.resolve side e = none) ∨
      ∃ a : Adapter, a.side = side ∧ x.adapter a = true ∧ s.resolve side e = some a.key ∧
        t.resolve side e = some a.key := by
  rw [Session.resolve, Session.resolve]
  rcases h.token?_cases he with ⟨hs, ht⟩ | ⟨u, v, hs, ht, huv⟩ <;> rw [hs, ht]
  · exact Or.inl ⟨rfl, rfl⟩
  · simp only [Option.bind_some, h.entries side u v huv]
    cases hk : (t.roster side).get? v with
    | none => exact Or.inl ⟨rfl, rfl⟩
    | some k =>
      cases side with
      | inbound => exact Or.inr ⟨.inlet k, rfl, h.leads (.inlet k) u v huv hk, rfl, rfl⟩
      | outbound => exact Or.inr ⟨.outlet k, rfl, h.leads (.outlet k) u v huv hk, rfl, rfl⟩

/-- What a read callback finds. -/
theorem inletAt?_eq {e : Nat} (he : x.side? e = some .inbound) :
    s.inletAt? e = t.inletAt? e ∧ ∀ k i, t.inletAt? e = some (k, i) → x.inlet k = true := by
  rw [Session.inletAt?, Session.inletAt?]
  rcases h.resolve_cases he with ⟨hs, ht⟩ | ⟨a, ha, hown, hs, ht⟩ <;> rw [hs, ht]
  · exact ⟨rfl, by simp⟩
  · cases a with
    | outlet k => cases ha
    | inlet k =>
      refine ⟨by simp [Adapter.key, h.inlets k hown], fun j i hfound => ?_⟩
      simp only [Adapter.key, Option.bind_some, Option.map_eq_some_iff, Prod.mk.injEq] at hfound
      obtain ⟨-, -, rfl, -⟩ := hfound
      exact hown

/-- What a write callback finds. -/
theorem outletAt?_eq {e : Nat} (he : x.side? e = some .outbound) :
    s.outletAt? e = t.outletAt? e ∧ ∀ k o, t.outletAt? e = some (k, o) → x.outlet k = true := by
  rw [Session.outletAt?, Session.outletAt?]
  rcases h.resolve_cases he with ⟨hs, ht⟩ | ⟨a, ha, hown, hs, ht⟩ <;> rw [hs, ht]
  · exact ⟨rfl, by simp⟩
  · cases a with
    | inlet k => cases ha
    | outlet k =>
      refine ⟨by simp [Adapter.key, h.outlets k hown], fun j o hfound => ?_⟩
      simp only [Adapter.key, Option.bind_some, Option.map_eq_some_iff, Prod.mk.injEq] at hfound
      obtain ⟨-, -, rfl, -⟩ := hfound
      exact hown

end

/-! ### Updates on both sides -/

section

variable (h : x.Mirror n others base s t)

include h

theorem putInlet {k : Nat} (hk : x.inlet k = true) (i : Inlet) :
    x.Mirror n others base (s.putInlet k i) (t.putInlet k i) := by
  refine { h with
    inlets := fun l hl => ?_
    confined := { h.confined with inlets := fun l hl => ?_ } }
  · simp only [Session.putInlet, Table.get?_put, h.inlets l hl]
  · have hlk : l ≠ k := by
      rintro rfl
      simp [hk] at hl
    simp only [Session.putInlet, Table.get?_put, if_neg hlk, h.confined.inlets l hl]

theorem putOutlet {k : Nat} (hk : x.outlet k = true) (o : Outlet) :
    x.Mirror n others base (s.putOutlet k o) (t.putOutlet k o) := by
  refine { h with
    outlets := fun l hl => ?_
    confined := { h.confined with outlets := fun l hl => ?_ } }
  · simp only [Session.putOutlet, Table.get?_put, h.outlets l hl]
  · have hlk : l ≠ k := by
      rintro rfl
      simp [hk] at hl
    simp only [Session.putOutlet, Table.get?_put, if_neg hlk, h.confined.outlets l hl]

theorem putDuplex {j : Nat} (hj : x.duplex j = true) {d : Duplex}
    (hd : x.holds d.toDuplexKeys = true) :
    x.Mirror n others base { s with duplexes := s.duplexes.put j d }
      { t with duplexes := t.duplexes.put j d } := by
  refine { h with
    duplexes := fun l hl => ?_
    holds := fun l c hl hc => ?_
    confined := { h.confined with duplexes := fun l hl => ?_ } }
  · simp only [Table.get?_put, h.duplexes l hl]
  · rw [Table.get?_put] at hc
    split at hc
    · cases hc
      exact hd
    · exact h.holds l c hl hc
  · have hlj : l ≠ j := by
      rintro rfl
      simp [hj] at hl
    simp only [Table.get?_put, if_neg hlj, h.confined.duplexes l hl]

theorem eraseDuplex {j : Nat} (hj : x.duplex j = true) :
    x.Mirror n others base { s with duplexes := s.duplexes.erase j }
      { t with duplexes := t.duplexes.erase j } := by
  refine { h with
    duplexes := fun l hl => ?_
    holds := fun l c hl hc => ?_
    confined := { h.confined with duplexes := fun l hl => ?_ } }
  · simp only [Table.get?_erase, h.duplexes l hl]
  · rw [Table.get?_erase] at hc
    split at hc
    · cases hc
    · exact h.holds l c hl hc
  · have hlj : l ≠ j := by
      rintro rfl
      simp [hj] at hl
    simp only [Table.get?_erase, if_neg hlj, h.confined.duplexes l hl]

/-- An endpoint of the party is replaced, made or taken away. -/
theorem withEndpoint {e : Nat} {side : Side} (he : x.side? e = some side)
    {p q : Table Nat Endpoint} (hp : ∀ j, j ≠ e → p.get? j = s.endpoints.get? j)
    (hq : ∀ j, j ≠ e → q.get? j = t.endpoints.get? j)
    (hrel : Option.Rel (Endpoint.Matches n side) (p.get? e) (q.get? e))
    (hbuilt : q.contains e = true → s.engine.table side = .built ∧ t.engine.table side = .built) :
    x.Mirror n others base { s with endpoints := p } { t with endpoints := q } := by
  refine { h with
    endpoints := fun j way hj => ?_
    built := fun j way hj hcontains => ?_
    confined := { h.confined with endpoints := fun j hj => ?_ } }
  · by_cases hje : j = e
    · subst hje
      cases hj.symm.trans he
      exact hrel
    · rw [hp j hje, hq j hje]
      exact h.endpoints j way hj
  · by_cases hje : j = e
    · subst hje
      cases hj.symm.trans he
      exact hbuilt hcontains
    · rw [Table.contains, hq j hje] at hcontains
      exact h.built j way hj hcontains
  · have hje : j ≠ e := by
      rintro rfl
      simp [he] at hj
    rw [hp j hje, h.confined.endpoints j hj]

theorem modifyEndpoint {e : Nat} {side : Side} (he : x.side? e = some side)
    {f : Endpoint → Endpoint} (hf : ∀ b c, b.Matches n side c → (f b).Matches n side (f c)) :
    x.Mirror n others base (s.modifyEndpoint e f) (t.modifyEndpoint e f) := by
  refine h.withEndpoint he (fun j hj => by rw [Table.get?_modify, if_neg hj])
    (fun j hj => by rw [Table.get?_modify, if_neg hj]) ?_ fun hcontains => ?_
  · rw [Table.get?_modify, Table.get?_modify, if_pos rfl, if_pos rfl]
    rcases h.endpoint_cases he with ⟨hs, ht⟩ | ⟨b, c, hs, ht, hbc⟩ <;> rw [hs, ht]
    · exact .none
    · exact .some (hf b c hbc)
  · rw [Table.contains, Table.get?_modify, if_pos rfl, Option.isSome_map] at hcontains
    exact h.built e side he hcontains

theorem modifyFlags {e : Nat} {side : Side} (he : x.side? e = some side) (f : Flags → Flags) :
    x.Mirror n others base (s.modifyFlags e f) (t.modifyFlags e f) :=
  h.modifyEndpoint he fun _ _ hbc => { hbc with flags := congrArg f hbc.flags }

theorem share {e : Nat} {side : Side} (he : x.side? e = some side) :
    x.Mirror n others base (s.share e) (t.share e) :=
  h.modifyEndpoint he fun _ _ hbc => { hbc with references := congrArg (· + 1) hbc.references }

theorem eraseEndpoint {e : Nat} {side : Side} (he : x.side? e = some side) :
    x.Mirror n others base { s with endpoints := s.endpoints.erase e }
      { t with endpoints := t.endpoints.erase e } := by
  refine h.withEndpoint he (fun j hj => by rw [Table.get?_erase, if_neg hj])
    (fun j hj => by rw [Table.get?_erase, if_neg hj]) ?_ fun hcontains => ?_
  · rw [Table.get?_erase, Table.get?_erase, if_pos rfl, if_pos rfl]
    exact .none
  · simp [Table.contains] at hcontains

theorem putEndpoint {e : Nat} {side : Side} (he : x.side? e = some side) {b c : Endpoint}
    (hbc : b.Matches n side c) (hs : s.engine.table side = .built)
    (ht : t.engine.table side = .built) :
    x.Mirror n others base { s with endpoints := s.endpoints.put e b }
      { t with endpoints := t.endpoints.put e c } := by
  refine h.withEndpoint he (fun j hj => by rw [Table.get?_put, if_neg hj])
    (fun j hj => by rw [Table.get?_put, if_neg hj]) ?_ fun _ => ⟨hs, ht⟩
  rw [Table.get?_put, Table.get?_put, if_pos rfl, if_pos rfl]
  exact .some hbc

/-- The rosters of a side are replaced. Tokens of that side may get names by it. -/
theorem withRoster {m : Naming} {side : Side} {p q : Roster Nat} (hle : n ≤ m)
    (hway : ∀ way u v, way ≠ side → m way u v → n way u v) (honeToOne : m.OneToOne)
    (hentries : ∀ u v, m side u v → p.get? u = q.get? v)
    (hleads : ∀ a : Adapter, a.side = side → ∀ u v, m side u v → q.get? v = some a.key →
      x.adapter a = true)
    (hold : ∀ u v, m side u v → u.index < p.issued ∧ v.index < q.issued)
    (hforeign : ∀ u, others side u → p.get? u = (s.roster side).get? u ∧ ∀ v, ¬ m side u v)
    (hissued : (s.roster side).issued ≤ p.issued) :
    x.Mirror m others base (s.withRoster side p) (t.withRoster side q) where
  inlets := by simpa using h.inlets
  outlets := by simpa using h.outlets
  duplexes := by simpa using h.duplexes
  endpoints := by
    intro e way he
    simp only [Session.endpoints_withRoster]
    rcases h.endpoint_cases he with ⟨hs, ht⟩ | ⟨b, c, hs, ht, hbc⟩ <;> rw [hs, ht]
    · exact .none
    · exact .some (hbc.mono hle)
  holds := by simpa using h.holds
  entries := by
    intro way u v huv
    simp only [Session.roster_withRoster]
    split
    · next heq => exact hentries u v (heq ▸ huv)
    · next hne => exact h.entries way u v (hway way u v hne huv)
  leads := by
    intro a u v huv hk
    simp only [Session.roster_withRoster] at hk
    split at hk
    · next heq => exact hleads a heq u v (heq ▸ huv) hk
    · next hne => exact h.leads a u v (hway _ u v hne huv) hk
  old := by
    intro way u v huv
    simp only [Session.roster_withRoster]
    split
    · next heq => exact hold u v (heq ▸ huv)
    · next hne => exact h.old way u v (hway way u v hne huv)
  oneToOne := honeToOne
  foreign := by
    intro way u hu
    obtain ⟨hlt, hnone⟩ := h.foreign way u hu
    simp only [Session.roster_withRoster]
    split
    · next heq =>
      subst heq
      exact ⟨Nat.lt_of_lt_of_le hlt hissued, (hforeign u hu).2⟩
    · next hne => exact ⟨hlt, fun v huv => hnone v (hway way u v hne huv)⟩
  calm := by cases side <;> exact h.calm
  calm' := by cases side <;> exact h.calm'
  tables := by cases side <;> exact h.tables
  built := by cases side <;> exact h.built
  confined :=
    { inlets := by simpa using h.confined.inlets
      outlets := by simpa using h.confined.outlets
      duplexes := by simpa using h.confined.duplexes
      endpoints := by simpa using h.confined.endpoints
      entries := by
        intro way u hu
        simp only [Session.roster_withRoster]
        split
        · next heq =>
          subst heq
          rw [(hforeign u hu).1, h.confined.entries way u hu]
        · exact h.confined.entries way u hu
      issued := by
        intro way
        simp only [Session.roster_withRoster]
        split
        · next heq =>
          subst heq
          exact Nat.le_trans (h.confined.issued way) hissued
        · exact h.confined.issued way
      tables := by cases side <;> exact h.confined.tables
      built := by cases side <;> exact h.confined.built }

/-- Two tokens that stand for one another are struck off. -/
theorem strike {side : Side} {u v : Token} (huv : n side u v) :
    x.Mirror n others base (s.withRoster side ((s.roster side).remove u))
      (t.withRoster side ((t.roster side).remove v)) := by
  refine h.withRoster le_rfl (fun _ _ _ _ => id) h.oneToOne (fun u' v' huv' => ?_) ?_ (h.old side)
    (fun u' hu' => ?_) (Nat.le_refl _)
  · simp only [Roster.get?_remove, h.oneToOne huv' huv, h.entries side u' v' huv']
  · rintro a rfl u' v' huv' hk
    rw [Roster.get?_remove] at hk
    split at hk
    · cases hk
    · exact h.leads a u' v' huv' hk
  · have hnone := (h.foreign side u' hu').2
    have hne : u' ≠ u := by
      rintro rfl
      exact hnone v huv
    exact ⟨by rw [Roster.get?_remove, if_neg hne], hnone⟩

/-- The tokens of an endpoint are struck off, and the endpoint is cleared. -/
theorem cut {e : Nat} {side : Side} (he : x.side? e = some side) {u v : Token}
    (huv : n side u v) :
    x.Mirror n others base ((s.withRoster side ((s.roster side).remove u)).setData e none)
      ((t.withRoster side ((t.roster side).remove v)).setData e none) :=
  (h.strike huv).modifyEndpoint he fun _ _ hbc => { hbc with data := .none }

/-- An adapter of the party is entered on its side. The tokens issued stand for one another. -/
theorem enter {a : Adapter} (ha : x.adapter a = true) :
    x.Mirror (n.add a.side (s.roster a.side).next (t.roster a.side).next) others base
      (s.withRoster a.side ((s.roster a.side).add a.key).2)
      (t.withRoster a.side ((t.roster a.side).add a.key).2) := by
  have hold := fun u v huv => h.old a.side u v huv
  refine h.withRoster (n.le_add _ _ _) ?_ ?_ ?_ ?_ ?_ (fun u hu => ?_) (Nat.le_succ _)
  · rintro way u v hne (huv | ⟨heq, -⟩)
    · exact huv
    · exact absurd heq hne
  · rintro side u v u' v' (huv | ⟨rfl, rfl, rfl⟩) (huv' | ⟨hside, rfl, rfl⟩)
    · exact h.oneToOne huv huv'
    · subst hside
      exact iff_of_false (Roster.ne_next (hold u v huv).1) (Roster.ne_next (hold u v huv).2)
    · exact iff_of_false (Roster.ne_next (hold u' v' huv').1).symm
        (Roster.ne_next (hold u' v' huv').2).symm
    · exact iff_of_true rfl rfl
  · rintro u v (huv | ⟨-, rfl, rfl⟩)
    · rw [Roster.get?_add, Roster.get?_add, if_neg (Roster.ne_next (hold u v huv).1),
        if_neg (Roster.ne_next (hold u v huv).2), h.entries _ u v huv]
    · rw [Roster.get?_add, Roster.get?_add, if_pos rfl, if_pos rfl]
  · intro b hb u v huv hk
    rw [Roster.get?_add] at hk
    split at hk
    · cases Adapter.eq_iff.mpr ⟨hb, (Option.some.inj hk).symm⟩
      exact ha
    · next hne =>
      rcases huv with huv | ⟨-, -, heq⟩
      · exact h.leads b u v (hb ▸ huv) (hb ▸ hk)
      · exact absurd heq hne
  · rintro u v (huv | ⟨-, rfl, rfl⟩)
    · exact ⟨Nat.lt_succ_of_lt (hold u v huv).1, Nat.lt_succ_of_lt (hold u v huv).2⟩
    · exact ⟨Nat.lt_succ_self _, Nat.lt_succ_self _⟩
  · obtain ⟨hlt, hnone⟩ := h.foreign _ u hu
    refine ⟨by rw [Roster.get?_add, if_neg (Roster.ne_next hlt)], ?_⟩
    rintro v (huv | ⟨-, rfl, -⟩)
    · exact hnone v huv
    · exact Nat.lt_irrefl _ hlt

/-- The engine has seen to the table of a side. -/
theorem withEngine {side : Side} {engine engine' : Engine} (hcalm : engine.Calm)
    (hcalm' : engine'.Calm)
    (htable : ∀ way, engine.table way =
      if way = side then (s.engine.table side).tried else s.engine.table way)
    (htable' : ∀ way, engine'.table way =
      if way = side then (t.engine.table side).tried else t.engine.table way) :
    x.Mirror n others base { s with engine } { t with engine := engine' } where
  inlets := h.inlets
  outlets := h.outlets
  duplexes := h.duplexes
  endpoints := h.endpoints
  holds := h.holds
  entries := h.entries
  leads := h.leads
  old := h.old
  oneToOne := h.oneToOne
  foreign := h.foreign
  calm := hcalm
  calm' := hcalm'
  tables := by
    intro way
    simp only [htable, htable']
    split
    · rw [h.tables]
    · exact h.tables way
  built := by
    intro e way he hcontains
    obtain ⟨hs, ht⟩ := h.built e way he hcontains
    simp only [htable, htable']
    split
    · next hway =>
      subst hway
      rw [hs, ht]
      exact ⟨rfl, rfl⟩
    · exact ⟨hs, ht⟩
  confined :=
    { h.confined with
      tables := by
        intro way
        rw [← h.confined.tables way]
        simp only [htable]
        split
        · next hway => rw [MethodTable.tried_tried, hway]
        · rfl
      built := by
        intro way hway
        have hbuilt := h.confined.built way hway
        simp only [htable]
        split
        · next heq =>
          subst heq
          rw [hbuilt]
          rfl
        · exact hbuilt }

end

end Mirror

end Compartment

end Conduit

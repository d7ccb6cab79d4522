import Conduit.Proofs.Session.Isolation
import Conduit.Proofs.Session.Tokens
/-!
# Endpoints and the rosters

In an orderly run each roster holds just the tokens that are stored in live endpoints of its side,
each under the adapter for which the endpoint was made. So whatever way an endpoint is detached, its
token is struck off with one line in the log, no other endpoint notices, and nothing is left over
when the endpoints of an adapter have gone.

That the tokens in force are those that are stored is `Bonds.Paired`. That a token leads back to the
adapter for which the endpoint was made is not a matter of pairing but of history. It is taken from
`Bonds.Sound`, which says it of the adapter to which the endpoint is tied; `makers` remembers that
adapter when the tie has been cut.

## Main definitions

* `Conduit.Session.makers`: the adapter for which each endpoint was made.
* `Conduit.Session.Holds`: an endpoint of a side stores a token.
* `Conduit.Session.targets`: the endpoints that an event may detach.
* `Conduit.Session.Accounted`: how rosters, endpoints and the log belong together.
* `Conduit.Session.Careful`: what an event may do about the tokens that are stored.

## Main results

* `holds_step`: an event detaches no other endpoints than its targets.
* `tokens_accounted`: in every orderly run all tokens are accounted for.
-/

namespace Conduit.Session

open Bonds (Passage)

/-! ### Who made the endpoints -/

/-- The adapters for which endpoints were made, after an event with that record. -/
def Record.mark (made : Table Nat Adapter) (r : Record) : Table Nat Adapter :=
  match r.event, r.reply with
  | .attach e a, .token _ => made.put e a
  | .openDuplex _ d _ _, .tokens _ _ =>
      (made.put d.readEnd (.inlet d.inlet)).put d.writeEnd (.outlet d.outlet)
  | .openForeign e _, .done => made.erase e
  | _, _ => made

/-- The adapter for which each endpoint was made, as the records of a run tell it. -/
def makers (records : List Record) : Table Nat Adapter := records.foldl Record.mark ∅

theorem get?_cut_eq_some {h : Ties} {e j : Nat} {a c : Adapter}
    (hc : (h.cut e a).get? j = some c) : h.get? j = some c := by
  rw [Ties.cut] at hc
  split at hc
  · rw [Table.get?_erase] at hc
    split at hc
    · cases hc
    · exact hc
  · exact hc

theorem get?_cutDuplex_eq_some {h : Ties} {d : Option Duplex} {j : Nat} {c : Adapter}
    (hc : (h.cutDuplex d).get? j = some c) : h.get? j = some c := by
  cases d with
  | none => exact hc
  | some d =>
    rw [Ties.cutDuplex] at hc
    split at hc
    · exact hc
    · exact get?_cut_eq_some (get?_cut_eq_some hc)

theorem get?_free_eq_some {h : Ties} {e j : Nat} {b : Option Endpoint} {c : Adapter}
    (hc : (h.free e b).get? j = some c) : h.get? j = some c := by
  cases b with
  | none => exact hc
  | some b =>
    rw [Ties.free] at hc
    split at hc
    · exact hc
    · rw [Table.get?_erase] at hc
      split at hc
      · cases hc
      · exact hc

/-- An endpoint is tied to nothing but the adapter for which it was made. -/
theorem mark_of_after {s : Session} {h : Ties} {made : Table Nat Adapter}
    (hle : ∀ {e a}, h.get? e = some a → made.get? e = some a) (r : Record) {e : Nat} {a : Adapter}
    (he : (h.after s r.event r.reply).get? e = some a) : (r.mark made).get? e = some a := by
  obtain ⟨event, reply, log⟩ := r
  fun_cases Ties.after h s event reply with
  | case1 j c t =>
    simp only [Ties.after, Record.mark, Table.get?_put] at he ⊢
    split <;> simp_all
  | case2 key d connection settings r w =>
    simp only [Ties.after, Record.mark, Table.get?_put] at he ⊢
    repeat' split
    all_goals simp_all
  | case3 j c => exact hle (get?_cut_eq_some he)
  | case4 key => exact hle (get?_cutDuplex_eq_some he)
  | case5 key => exact hle (get?_cutDuplex_eq_some he)
  | case6 j => exact hle (get?_free_eq_some he)
  | case7 side j n =>
    simp only [Ties.after, Table.get?_erase] at he
    split at he
    · cases he
    · exact hle he
  | case8 j form =>
    simp only [Ties.after, Record.mark, Table.get?_erase] at he ⊢
    split <;> simp_all
  | case9 hattach hopen hdisconnect hclose hdrop hfree hdestroy hforeign =>
    simp only [Ties.after] at he
    simp only [Record.mark]
    exact hle he

theorem makers_of_ties (events : List Event) {s : Session} {h : Ties} {made : Table Nat Adapter}
    (hle : ∀ {e a}, h.get? e = some a → made.get? e = some a) {e : Nat} {a : Adapter}
    (he : (s.ties h events).get? e = some a) :
    ((s.run events).2.foldl Record.mark made).get? e = some a := by
  induction events generalizing s h made with
  | nil => exact hle he
  | cons event rest ih =>
    exact ih (mark_of_after hle ⟨event, (s.step event).value, (s.step event).log⟩) he

/-! ### What an event detaches -/

variable {s : Session} {side : Side} {t : Token} {e : Nat}

/-- An endpoint of a side stores a token. -/
def Holds (s : Session) (side : Side) (t : Token) (e : Nat) : Prop :=
  ∃ b, s.endpoints.get? e = some b ∧ b.form = .adapter side ∧ b.data = some t

theorem holds_iff : s.Holds side t e ↔ s.bonds.stamp e = some (side, t) := by
  rw [stamp_bonds_eq_some_iff]
  constructor
  · rintro ⟨b, hb, hform, hdata⟩
    exact ⟨⟨b, hb, hform⟩, by simp [token?, hb, hdata]⟩
  · rintro ⟨⟨b, hb, hform⟩, ht⟩
    exact ⟨b, hb, hform, by simpa [token?, hb] using ht⟩

/-- The endpoints that an event may detach. -/
def targets (s : Session) : Event → List Nat
  | .disconnect e _ => [e]
  | .free e => [e]
  | .callDestroy _ (some e) => [e]
  | .close key | .dropDuplex key =>
      match s.duplexes.get? key with
      | none => []
      | some d => [d.readEnd, d.writeEnd]
  | _ => []

theorem stamp_cut {way : Side} {u : Token} {j : Nat} (hj : j ≠ e) (b : Bonds) :
    ((b.strike way u).clear e).stamp j = b.stamp j := if_neg hj

theorem stamp_attach {j : Nat} (hj : j ≠ e) (s : Session) (a : Adapter) :
    (s.attach e a).session.bonds.stamp j = s.bonds.stamp j := by
  rcases attach_cases s e a with ⟨t, hattach, hbonds, -⟩ | ⟨t, hattach, hbonds, -⟩
  · rw [hattach]
    change t.bonds.stamp j = _
    rw [hbonds]
    exact if_neg hj
  · rw [hattach]
    change t.bonds.stamp j = _
    rw [hbonds]

theorem stamp_openDuplex {j key connection : Nat} {d : DuplexKeys} {settings : Settings}
    (hread : j ≠ d.readEnd) (hwrite : j ≠ d.writeEnd) :
    (s.openDuplex key d connection settings).session.bonds.stamp j = s.bonds.stamp j := by
  rcases openDuplex_cases s key d connection settings with
    ⟨t, hopen, hbonds, -⟩ | ⟨t, hopen, hbonds, -⟩ | ⟨t, hopen, hbonds, -⟩
  · rw [hopen]
    change t.bonds.stamp j = _
    rw [hbonds]
    exact (if_neg hwrite).trans (if_neg hread)
  · rw [hopen]
    change t.bonds.stamp j = _
    rw [hbonds]
  · rw [hopen]
    change t.bonds.stamp j = _
    rw [hbonds, stamp_cut hread]
    exact if_neg hread

theorem stamp_disconnect {j : Nat} (hj : j ≠ e) (s : Session) (a : Adapter) :
    (s.disconnect e a).1.bonds.stamp j = s.bonds.stamp j := by
  rcases disconnect_cases s e a with ⟨hsame, -⟩ | ⟨t, -, -, hcut⟩
  · rw [hsame]
  · rw [hcut, bonds_cut, stamp_cut hj]

theorem stamp_release {j : Nat} (hj : j ≠ e) (s : Session) (way : Side) :
    (s.release way e).1.bonds.stamp j = s.bonds.stamp j := by
  rcases release_cases s way e with ⟨-, hsame⟩ | ⟨t, -, hcut⟩
  · rw [hsame]
  · rw [hcut, bonds_cut, stamp_cut hj]

theorem stamp_free_of_ne {j : Nat} (hj : j ≠ e) (s : Session) :
    (s.free e).1.bonds.stamp j = s.bonds.stamp j := by
  rcases free_cases s e with ⟨hbonds, -⟩ | ⟨-, hbonds, -⟩ | ⟨way, t, -, hbonds, -⟩
  · rw [hbonds]
  · rw [hbonds]
    exact if_neg hj
  · rw [hbonds, stamp_cut hj]

theorem stamp_close {key j : Nat} {d : Duplex} (hd : s.duplexes.get? key = some d)
    (hread : j ≠ d.readEnd) (hwrite : j ≠ d.writeEnd) :
    (s.close key).1.bonds.stamp j = s.bonds.stamp j := by
  simp only [close, hd]
  split
  · rfl
  · dsimp only
    rw [stamp_disconnect hwrite, stamp_disconnect hread]
    rfl

theorem stamp_dropDuplex {key j : Nat} {d : Duplex} (hd : s.duplexes.get? key = some d)
    (hread : j ≠ d.readEnd) (hwrite : j ≠ d.writeEnd) :
    (s.dropDuplex key).1.bonds.stamp j = s.bonds.stamp j := by
  have hclose := stamp_close hd hread hwrite
  rw [dropDuplex]
  simp only [hd]
  rcases hresult : s.close key with ⟨u, closing⟩
  rw [hresult] at hclose
  dsimp only
  rw [stamp_free_of_ne hwrite, stamp_free_of_ne hread]
  exact hclose

/-- A new endpoint is not one that stores a token. -/
theorem ne_of_holds (h : s.Holds side t e) {j : Nat} (hj : s.endpoints.get? j = none) :
    e ≠ j := by
  rintro rfl
  obtain ⟨b, hb, -⟩ := h
  cases hj.symm.trans hb

/-- **An event detaches no other endpoints than its targets.** -/
theorem holds_step {event : Event} (hset : ∀ j data, event ≠ .setData j data)
    (h : s.Holds side t e) (htarget : e ∉ s.targets event) :
    (s.step event).session.Holds side t e := by
  rw [holds_iff]
  have hstamp := holds_iff.mp h
  cases hbinding : event.isBinding with
  | false =>
    rw [bonds_step hbinding]
    exact hstamp
  | true =>
    have hstep := rebinds_step hbinding s
    generalize s.step event = effect at hstep ⊢
    cases hstep with
    | unknown => exact hstamp
    | noCallback => exact hstamp
    | attach hnew => exact (stamp_attach (ne_of_holds h hnew) s _).trans hstamp
    | attachRefused hnew => exact (stamp_attach (ne_of_holds h hnew) s _).trans hstamp
    | disconnect =>
      exact (stamp_disconnect (by simpa [targets] using htarget) s _).trans hstamp
    | openDuplex hread hwrite =>
      exact (stamp_openDuplex (ne_of_holds h hread) (ne_of_holds h hwrite)).trans hstamp
    | openDuplexRefused hread hwrite =>
      exact (stamp_openDuplex (ne_of_holds h hread) (ne_of_holds h hwrite)).trans hstamp
    | close hd =>
      simp only [targets, hd, List.mem_cons, List.not_mem_nil, or_false, not_or] at htarget
      exact (stamp_close hd htarget.1 htarget.2).trans hstamp
    | dropDuplex hd =>
      simp only [targets, hd, List.mem_cons, List.not_mem_nil, or_false, not_or] at htarget
      exact (stamp_dropDuplex hd htarget.1 htarget.2).trans hstamp
    | free => exact (stamp_free_of_ne (by simpa [targets] using htarget) s).trans hstamp
    | setData => exact absurd rfl (hset _ _)
    | destroy => exact (stamp_release (by simpa [targets] using htarget) s _).trans hstamp
    | destroyNone => exact hstamp
    | openForeign hnew =>
      rw [bonds_openForeign]
      exact (if_neg (ne_of_holds h hnew)).trans hstamp

/-! ### All tokens are accounted for -/

/-- How the rosters, the endpoints and the log belong together; `made` tells for which adapter each
endpoint was made. -/
structure Accounted (s : Session) (log : List LogLine) (made : Table Nat Adapter) : Prop where
  /-- A token stands for an adapter just if exactly one endpoint stores it, and that endpoint was
  made for the adapter. -/
  entered_iff : ∀ a t, (s.roster a.side).get? t = some a.key ↔
    ∃ e, (∀ j, s.Holds a.side t j ↔ j = e) ∧ made.get? e = some a
  /-- Whatever an endpoint of a side stores stands for the adapter that it was made for. -/
  entered : ∀ {side t e}, s.Holds side t e →
    ∃ a, a.side = side ∧ made.get? e = some a ∧ (s.roster side).get? t = some a.key
  /-- One line is logged for each token that was issued. -/
  issued : ∀ side t, log.countP (LogLine.issues side t) =
    if t.index < (s.roster side).issued then 1 else 0
  /-- One line is logged for each token that was issued and is no longer in force, none for any
  other. -/
  retired : ∀ side t, log.countP (LogLine.retires side t) =
    if t.index < (s.roster side).issued ∧ (s.roster side).get? t = none then 1 else 0
  /-- No token stands for an adapter whose endpoints have all gone. -/
  dropped : ∀ a, (∀ e, made.get? e = some a → s.endpoints.get? e = none) →
    ∀ t, (s.roster a.side).get? t ≠ some a.key

/-- An event leaves a token in its endpoint and in force, and logs nothing about it. -/
structure KeepsToken (s : Session) (event : Event) (side : Side) (t : Token) (e : Nat) : Prop where
  holds : (s.step event).session.Holds side t e
  entry : ((s.step event).session.roster side).get? t = (s.roster side).get? t
  log : (s.step event).log.countP (LogLine.retires side t) = 0

/-- An event takes a token out of force and out of all endpoints, and logs just that. -/
structure RetiresToken (s : Session) (event : Event) (side : Side) (t : Token) : Prop where
  holds : ∀ e, ¬ (s.step event).session.Holds side t e
  entry : ((s.step event).session.roster side).get? t = none
  log : (s.step event).log.countP (LogLine.retires side t) = 1

/-- What an event may do about the tokens that are stored. -/
structure Careful (s : Session) (event : Event) : Prop where
  /-- A token is left alone, or its course has come to an end. -/
  keeps_or_retires : ∀ {side t e}, s.Holds side t e →
    s.KeepsToken event side t e ∨ s.RetiresToken event side t
  /-- The tokens of all endpoints but its targets are left alone. -/
  elsewhere : ∀ {side t e}, s.Holds side t e → e ∉ s.targets event → s.KeepsToken event side t e
  /-- The course of a token ends with its endpoint at the latest. -/
  destroyed : ∀ {side t e}, s.Holds side t e → (s.step event).session.endpoints.get? e = none →
    s.RetiresToken event side t
  /-- An endpoint is destroyed with the last reference to it. -/
  freed : ∀ {e b}, event = .free e → s.endpoints.get? e = some b → b.references ≤ 1 →
    (s.step event).session.endpoints.get? e = none

theorem paired_empty (engine : Engine) : ({ engine } : Session).bonds.Paired where
  issued := by
    intro side t ht
    cases side <;> cases ht
  stored_iff := by
    intro side t
    constructor
    · intro ht
      cases side <;> cases ht
    · rintro ⟨e, he⟩
      cases he
  alone := by
    intro side t e j he
    cases he

theorem not_setData_of_orderly {events : List Event} (h : s.Orderly events) :
    ∀ e data, .setData e data ∉ events := by
  induction events generalizing s with
  | nil => simp
  | cons event rest ih =>
    intro e data hmem
    rcases List.mem_cons.mp hmem with rfl | hmem
    · exact h.1
    · exact ih h.2 e data hmem

section Admitted

variable {event : Event} (hpaired : s.bonds.Paired) (hkept : s.Kept) (hadmitted : s.Admits event)

include hpaired hkept hadmitted

/-- What an event logs about a token that is stored depends on whether it is in force afterwards. -/
theorem countP_retires_step (h : s.Holds side t e) :
    (s.step event).log.countP (LogLine.retires side t) +
      ((s.step event).session.bonds.inForce side t).toNat = 1 := by
  have hpassage : Bonds.Passage True s.bonds (s.step event).log (s.step event).session.bonds :=
    passage_step fun _ => ⟨hkept, hadmitted⟩
  have hforce := hpaired.stored_iff.mpr ⟨e, holds_iff.mp h⟩
  have hissues := Bonds.countP_issues_of_passage hpassage side t
  have hretires := hpaired.countP_retires hpassage side t
  have hbefore := hpaired.issued hforce
  have hlater := Bonds.issued_of_passage hpassage hbefore
  simp only [hbefore, hlater, hforce, decide_true, Bool.toNat_true] at hissues hretires
  omega

theorem keepsToken_of_inForce (h : s.Holds side t e)
    (hforce : (s.step event).session.bonds.inForce side t = true) :
    s.KeepsToken event side t e := by
  have hpassage : Bonds.Passage True s.bonds (s.step event).log (s.step event).session.bonds :=
    passage_step fun _ => ⟨hkept, hadmitted⟩
  have hbefore := hpaired.issued (hpaired.stored_iff.mpr ⟨e, holds_iff.mp h⟩)
  obtain ⟨j, hj⟩ := (hpaired.passage hpassage).stored_iff.mp hforce
  have hje : j = e :=
    hpaired.alone (holds_iff.mp h) (Bonds.stamp_of_passage hpassage hbefore hj)
  obtain ⟨k, hk⟩ := Option.isSome_iff_exists.mp hforce
  refine ⟨holds_iff.mpr (hje ▸ hj), ?_, ?_⟩
  · exact hk.trans (Bonds.get?_of_passage hpassage hbefore hk).symm
  · have hcount := countP_retires_step hpaired hkept hadmitted h
    simpa [hforce] using hcount

theorem retiresToken_of_not_inForce (h : s.Holds side t e)
    (hforce : (s.step event).session.bonds.inForce side t = false) :
    s.RetiresToken event side t := by
  have hpassage : Bonds.Passage True s.bonds (s.step event).log (s.step event).session.bonds :=
    passage_step fun _ => ⟨hkept, hadmitted⟩
  refine ⟨fun j hj => ?_, ?_, ?_⟩
  · have := (hpaired.passage hpassage).stored_iff.mpr ⟨j, holds_iff.mp hj⟩
    rw [hforce] at this
    cases this
  · exact Option.isNone_iff_eq_none.mp (Option.isSome_eq_false_iff.mp hforce)
  · have hcount := countP_retires_step hpaired hkept hadmitted h
    simpa [hforce] using hcount

/-- **An event that is admitted is careful about the tokens that are stored.** -/
theorem careful_of_paired : s.Careful event := by
  have hchoice : ∀ {side t e}, s.Holds side t e →
      s.KeepsToken event side t e ∨ s.RetiresToken event side t := by
    intro side t e h
    cases hforce : (s.step event).session.bonds.inForce side t with
    | true => exact Or.inl (keepsToken_of_inForce hpaired hkept hadmitted h hforce)
    | false => exact Or.inr (retiresToken_of_not_inForce hpaired hkept hadmitted h hforce)
  constructor
  · exact hchoice
  · intro side t e h htarget
    have hset : ∀ j data, event ≠ .setData j data := by
      rintro j data rfl
      exact hadmitted
    have hstill := holds_step hset h htarget
    exact (hchoice h).resolve_right fun hretires => hretires.holds e hstill
  · intro side t e h hgone
    refine (hchoice h).resolve_left fun hkeeps => ?_
    obtain ⟨b, hb, -⟩ := hkeeps.holds
    cases hgone.symm.trans hb
  · rintro e b rfl hb hlast
    have hpresent : s.endpoints.contains e = true := Table.contains_iff.mpr ⟨b, hb⟩
    simp only [step, onPresent, hpresent, if_true]
    exact get?_endpoints_free hb hlast

end Admitted

/-- Pairing with the history of a run accounts for everything that is in force. -/
theorem accounted_of_paired {log : List LogLine} {ties made : Table Nat Adapter}
    (hpaired : s.bonds.Paired) (hsound : s.bonds.Sound ties)
    (hmade : ∀ {e a}, ties.get? e = some a → made.get? e = some a)
    (hissued : ∀ side t, log.countP (LogLine.issues side t) =
      (decide (t.index < (s.roster side).issued)).toNat)
    (hretired : ∀ side t, log.countP (LogLine.retires side t) + (s.bonds.inForce side t).toNat =
      log.countP (LogLine.issues side t)) : s.Accounted log made := by
  have hentered : ∀ {side t e}, s.Holds side t e →
      ∃ a, a.side = side ∧ made.get? e = some a ∧ (s.roster side).get? t = some a.key := by
    intro side t e h
    obtain ⟨k, hk⟩ := Option.isSome_iff_exists.mp (hpaired.stored_iff.mpr ⟨e, holds_iff.mp h⟩)
    obtain ⟨a, ha, hside, hkey⟩ := hsound.tied (holds_iff.mp h) hk
    exact ⟨a, hside, hmade ha, hkey ▸ hk⟩
  have hstored : ∀ {a t}, (s.roster a.side).get? t = some a.key →
      ∃ e, (∀ j, s.Holds a.side t j ↔ j = e) ∧ made.get? e = some a := by
    intro a t hk
    obtain ⟨e, he⟩ := hpaired.stored_iff.mp (Option.isSome_iff_exists.mpr ⟨_, hk⟩)
    obtain ⟨c, hside, hc, hkey⟩ := hentered (holds_iff.mpr he)
    have hca : c = a := Adapter.eq_iff.mpr ⟨hside, Option.some.inj (hkey.symm.trans hk)⟩
    refine ⟨e, fun j => ⟨fun hj => hpaired.alone he (holds_iff.mp hj), ?_⟩, hca ▸ hc⟩
    rintro rfl
    exact holds_iff.mpr he
  refine ⟨fun a t => ⟨hstored, ?_⟩, hentered, fun side t => ?_, fun side t => ?_, ?_⟩
  · rintro ⟨e, hholds, ha⟩
    obtain ⟨c, -, hc, hkey⟩ := hentered ((hholds e).mpr rfl)
    cases ha.symm.trans hc
    exact hkey
  · rw [hissued]
    split <;> simp_all
  · have hcount := hretired side t
    rw [hissued] at hcount
    cases hget : (s.roster side).get? t with
    | none =>
      have hforce : s.bonds.inForce side t = false := by simp [Bonds.inForce, bonds, hget]
      rw [hforce] at hcount
      split <;> simp_all
    | some k =>
      have hforce : s.bonds.inForce side t = true := by simp [Bonds.inForce, bonds, hget]
      have hlt : t.index < (s.roster side).issued := hpaired.issued hforce
      simpa [hforce, hlt] using hcount
  · intro a hgone t hk
    obtain ⟨e, hholds, ha⟩ := hstored hk
    obtain ⟨b, hb, -⟩ := (hholds e).mpr rfl
    cases (hgone e ha).symm.trans hb

/-- **In every orderly run all tokens are accounted for**, and whatever comes next is careful about
those that are stored. -/
theorem tokens_accounted {engine : Engine} {events : List Event}
    (h : ({ engine } : Session).Orderly events) :
    let s := (({ engine } : Session).run events).1
    s.Accounted (({ engine } : Session).logged events)
        (makers (({ engine } : Session).run events).2) ∧
      ∀ event, s.Admits event → s.Careful event := by
  intro s
  obtain ⟨hpassage, hkept⟩ := passage_of_orderly (kept_empty engine) h
  have hpaired : s.bonds.Paired := (paired_empty engine).passage hpassage
  refine ⟨?_, fun event hadmitted => careful_of_paired hpaired hkept hadmitted⟩
  have hsound := sound_run (not_setData_of_orderly h) (sound_empty engine)
  have hissued := Bonds.countP_issues_of_passage hpassage
  have hretired := (paired_empty engine).countP_retires hpassage
  refine accounted_of_paired hpaired hsound (makers_of_ties events fun he => ?_)
    (fun side t => ?_) fun side t => ?_
  · cases he
  · have hnone : (({ engine } : Session).bonds.roster side).issued = 0 := by cases side <;> rfl
    have hcount := hissued side t
    simp only [hnone, Nat.not_lt_zero, decide_false, Bool.toNat_false, Nat.add_zero] at hcount
    exact hcount
  · have hnone : ({ engine } : Session).bonds.inForce side t = false := by cases side <;> rfl
    have hcount := hretired side t
    rw [hnone, Bool.toNat_false, Nat.zero_add] at hcount
    exact hcount

/-- An inlet with two endpoints. One is destroyed directly and freed later, the other goes by
disconnecting. -/
def twoEndpoints : List Event :=
  [.openInlet 0 0 false [], .attach 0 (.inlet 0), .attach 1 (.inlet 0), .share 0,
    .callDestroy .inbound (some 0), .free 0, .disconnect 1 (.inlet 0), .free 0]

/-- Both of its tokens have been struck off once, and it stands in no roster any more. -/
theorem tokens_accounted_of_twoEndpoints :
    ({} : Session).Orderly twoEndpoints ∧
      (({} : Session).logged twoEndpoints).countP (LogLine.retires .inbound ⟨0⟩) = 1 ∧
      (({} : Session).logged twoEndpoints).countP (LogLine.retires .inbound ⟨1⟩) = 1 := by
  have horderly : ({} : Session).Orderly twoEndpoints := by
    refine ⟨trivial, trivial, trivial, trivial, ?_, ?_, ?_, ?_, trivial⟩
    · rintro b ⟨⟩
      rfl
    · rintro b - - key d ⟨⟩
    · rintro b ⟨⟩
      rfl
    · rintro b - - key d ⟨⟩
  have haccounted := (tokens_accounted horderly).1
  refine ⟨horderly, ?_, ?_⟩
  · rw [haccounted.retired]
    decide
  · rw [haccounted.retired]
    decide

end Conduit.Session

import Conduit.Proofs.Session.Custody
/-!
# What the log tells of the bonds

Every change of the bonds that is made through the library is logged: a line for each token that is
issued, and one for each that is struck off. `Bonds.Passage` reads a log as the course of the bonds.
It is proved once for every event, and whatever the log says of a token is then an induction over
passages in which sessions no longer occur.

How much a line says depends on whether the events were admitted. If they were, a token is struck
off with the endpoint that stores it for its own side. If not, an endpoint may carry any token, and
then a line about one may leave the bonds as they were. Both kinds of run are read here at once: the
parameter `orderly` is the promise that comes with the first kind.

## Main definitions

* `Conduit.Session.logged`: the log of a run.
* `Conduit.Bonds.Passage`: how bonds come about from others, with what is logged on the way.

## Main results

* `passage_step` and `passage_run`: every event is a passage, and so is every run.
-/

namespace Conduit

/-- How bonds come about from others, with what is logged on the way. -/
inductive Bonds.Passage (orderly : Prop) : Bonds → List LogLine → Bonds → Prop
  | still {b : Bonds} {log : List LogLine} (hlog : ∀ line ∈ log, line.isBinding = false) :
      Passage orderly b log b
  /-- The next token of an adapter's side is issued to the adapter and stored in a new endpoint. -/
  | tie {b : Bonds} {e : Nat} (a : Adapter) (hnew : b.stamp e = none) :
      Passage orderly b [.attached a (b.roster a.side).next] (b.tie e a)
  /-- A token is struck off and the endpoint that stores it is cleared. -/
  | cut {b : Bonds} {e : Nat} {side : Side} {t : Token} {line : LogLine}
      (hline : line = .detached side t ∨ line = .released side t)
      (hown : orderly → b.stamp e = some (side, t)) :
      Passage orderly b [line] ((b.strike side t).clear e)
  /-- A data field is overwritten. -/
  | overwrite {b b' : Bonds} (hfree : ¬ orderly) (hroster : b'.roster = b.roster) :
      Passage orderly b [] b'
  | trans {b b' b'' : Bonds} {log log' : List LogLine} (hfirst : Passage orderly b log b')
      (hsecond : Passage orderly b' log' b'') : Passage orderly b (log ++ log') b''

namespace Session

open Bonds (Passage)

variable {orderly : Prop}

/-- The log of a run. -/
def logged (s : Session) (events : List Event) : List LogLine :=
  (s.run events).2.flatMap (·.log)

theorem logged_cons (s : Session) (event : Event) (rest : List Event) :
    s.logged (event :: rest) = (s.step event).log ++ (s.step event).session.logged rest := by
  simp [logged, run]

theorem stamp_eq_none {s : Session} {e : Nat} (h : s.endpoints.get? e = none) :
    s.bonds.stamp e = none := by
  simp [bonds, h]

/-- What an endpoint of a side stores is a token of that side. -/
theorem stamp_of_token {s : Session} {e : Nat} {side : Side} {t : Token}
    (hside : s.side? e = some side) (ht : s.token? e = some t) :
    s.bonds.stamp e = some (side, t) := by
  exact stamp_bonds_eq_some_iff.mpr ⟨side?_eq_some_iff.mp hside, ht⟩

/-! ### Operations -/

theorem passage_attach {s : Session} {e : Nat} (hnew : s.endpoints.get? e = none) (a : Adapter) :
    Passage orderly s.bonds (s.attach e a).log (s.attach e a).session.bonds := by
  rcases attach_cases s e a with ⟨t, hattach, hbonds, -⟩ | ⟨t, hattach, hbonds, -⟩
  · rw [hattach, hbonds]
    exact .tie a (stamp_eq_none hnew)
  · rw [hattach, hbonds]
    exact .still (by simp)

theorem passage_disconnect {s : Session} {e : Nat} {a : Adapter}
    (h : orderly → s.side? e = some a.side) :
    Passage orderly s.bonds (s.disconnect e a).2 (s.disconnect e a).1.bonds := by
  rcases disconnect_cases s e a with ⟨hsame, -⟩ | ⟨t, ht, -, hcut⟩
  · rw [hsame]
    exact .still (by simp)
  · rw [hcut, bonds_cut]
    exact .cut (Or.inl rfl) fun ho => stamp_of_token (h ho) ht

theorem passage_release {s : Session} {side : Side} {e : Nat}
    (h : orderly → s.side? e = some side) :
    Passage orderly s.bonds (s.release side e).2 (s.release side e).1.bonds := by
  rcases release_cases s side e with ⟨-, hsame⟩ | ⟨t, ht, hcut⟩
  · rw [hsame]
    exact .still (by simp)
  · rw [hcut, bonds_cut]
    exact .cut (Or.inr rfl) fun ho => stamp_of_token (h ho) ht

/-- Giving up a reference is orderly in itself: the destructor is that of the endpoint's own side.
-/
theorem passage_free (s : Session) (e : Nat) :
    Passage orderly s.bonds (s.free e).2 (s.free e).1.bonds := by
  rcases free_cases s e with ⟨hbonds, hlog⟩ | ⟨hstamp, hbonds, hlog⟩ |
      ⟨side, t, hstamp, hbonds, hlog⟩
  · rw [hbonds, hlog]
    exact .still (by simp)
  · rw [hbonds, hlog, clear_eq_self hstamp]
    exact .still (by simp)
  · rw [hbonds, hlog]
    exact .cut (Or.inr rfl) fun _ => hstamp

theorem passage_close {s : Session} (h : orderly → s.Kept) (key : Nat) :
    Passage orderly s.bonds (s.close key).2 (s.close key).1.bonds := by
  rw [close]
  split
  · exact .still (by simp)
  · next d hd =>
    split
    · exact .still (by simp)
    · have hread : orderly → s.side? d.readEnd = some .inbound := fun ho => (h ho).ends hd .inbound
      have hwrite : orderly → s.side? d.writeEnd = some .outbound :=
        fun ho => (h ho).ends hd .outbound
      let marked : Session := { s with duplexes := s.duplexes.put key { d with closed := true } }
      have hfirst : Passage orderly marked.bonds (marked.disconnect d.readEnd (.inlet d.inlet)).2
          (marked.disconnect d.readEnd (.inlet d.inlet)).1.bonds := passage_disconnect hread
      -- cutting off the one end leaves the other on its side
      refine (hfirst.trans (passage_disconnect fun ho => ?_)).trans
        (.still (by simp [LogLine.isBinding]))
      rw [side?_disconnect]
      exact hwrite ho

theorem passage_dropDuplex {s : Session} (h : orderly → s.Kept) (key : Nat) :
    Passage orderly s.bonds (s.dropDuplex key).2 (s.dropDuplex key).1.bonds := by
  rw [dropDuplex]
  split
  · exact .still (by simp)
  · next d hd =>
    have hclose := passage_close h key
    rcases hresult : s.close key with ⟨u, closing⟩
    rw [hresult] at hclose
    let erased : Session := { u with duplexes := u.duplexes.erase key }
    have hfirst : Passage orderly u.bonds (erased.free d.readEnd).2
        (erased.free d.readEnd).1.bonds := passage_free erased d.readEnd
    exact (hclose.trans hfirst).trans (passage_free _ d.writeEnd)

theorem passage_openDuplex {s : Session} {d : DuplexKeys}
    (hread : s.endpoints.get? d.readEnd = none) (hwrite : s.endpoints.get? d.writeEnd = none)
    (hne : d.readEnd ≠ d.writeEnd) (key connection : Nat) (settings : Settings) :
    Passage orderly s.bonds (s.openDuplex key d connection settings).log
      (s.openDuplex key d connection settings).session.bonds := by
  have hfirst : Passage orderly s.bonds [.attached (.inlet d.inlet) (s.roster .inbound).next]
      (s.bonds.tie d.readEnd (.inlet d.inlet)) := .tie (.inlet d.inlet) (stamp_eq_none hread)
  rcases openDuplex_cases s key d connection settings with
    ⟨t, hopen, hbonds, -⟩ | ⟨t, hopen, hbonds, -⟩ | ⟨t, hopen, hbonds, -⟩
  · rw [hopen]
    change Passage orderly s.bonds _ t.bonds
    rw [hbonds]
    refine hfirst.trans (.tie (.outlet d.outlet) ?_)
    simp only [Bonds.tie, if_neg hne.symm]
    exact stamp_eq_none hwrite
  · rw [hopen]
    change Passage orderly s.bonds _ t.bonds
    rw [hbonds]
    exact .still (by simp)
  · rw [hopen]
    change Passage orderly s.bonds _ t.bonds
    rw [hbonds]
    exact hfirst.trans (.cut (Or.inr rfl) fun _ => by simp [Bonds.tie, Adapter.side, bonds])

/-! ### Events and runs -/

/-- **Every event is a passage of the bonds**, and an orderly one if the event is admitted. -/
theorem passage_step {s : Session} {event : Event} (h : orderly → s.Kept ∧ s.Admits event) :
    Passage orderly s.bonds (s.step event).log (s.step event).session.bonds := by
  cases hbinding : event.isBinding with
  | false =>
    rw [bonds_step hbinding]
    exact .still (aloof_step hbinding s).log
  | true =>
    have hstep := rebinds_step hbinding s
    generalize s.step event = effect at hstep ⊢
    cases hstep with
    | unknown => exact .still (by simp)
    | noCallback => exact .still (by simp)
    | attach hnew => exact passage_attach hnew _
    | attachRefused hnew => exact passage_attach hnew _
    | disconnect hb =>
      exact passage_disconnect fun ho => side?_eq_some_iff.mpr ⟨_, hb, (h ho).2 _ hb⟩
    | openDuplex hread hwrite hne => exact passage_openDuplex hread hwrite hne _ _ _
    | openDuplexRefused hread hwrite hne => exact passage_openDuplex hread hwrite hne _ _ _
    | close => exact passage_close (fun ho => (h ho).1) _
    | dropDuplex => exact passage_dropDuplex (fun ho => (h ho).1) _
    | free => exact passage_free s _
    | @setData e data =>
      exact .overwrite (fun ho => (h ho).2) (funext fun side => roster_modifyEndpoint s e _ side)
    | @destroy side e =>
      cases hb : s.endpoints.get? e with
      | none =>
        rw [release_of_empty (by simp [token?, hb])]
        exact .still (by simp)
      | some b => exact passage_release fun ho => side?_eq_some_iff.mpr ⟨b, hb, (h ho).2 b hb⟩
    | destroyNone => exact .still (by simp)
    | openForeign hnew =>
      rw [bonds_openForeign, clear_eq_self (stamp_eq_none hnew)]
      exact .still (by simp)

/-- A run of any events at all is a passage. -/
theorem passage_run (s : Session) (events : List Event) :
    Passage False s.bonds (s.logged events) (s.run events).1.bonds := by
  induction events generalizing s with
  | nil => exact .still (by simp [logged, run])
  | cons event rest ih =>
    rw [logged_cons]
    exact (passage_step False.elim).trans (ih (s.step event).session)

/-- A run of events that are admitted is an orderly passage, and keeps the duplexes' endpoints. -/
theorem passage_of_orderly {s : Session} (hs : s.Kept) {events : List Event}
    (h : s.Orderly events) :
    Passage True s.bonds (s.logged events) (s.run events).1.bonds ∧ (s.run events).1.Kept := by
  induction events generalizing s with
  | nil => exact ⟨.still (by simp [logged, run]), hs⟩
  | cons event rest ih =>
    obtain ⟨hadmitted, hrest⟩ := h
    obtain ⟨hpassage, hkept⟩ := ih (kept_step hs hadmitted) hrest
    rw [logged_cons]
    exact ⟨(passage_step fun _ => ⟨hs, hadmitted⟩).trans hpassage, hkept⟩

end Session

end Conduit

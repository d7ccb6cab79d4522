import Conduit.Proofs.Session.Layout
import Mathlib.Data.List.Forall2
import Mathlib.Order.Basic
/-!
# Compartments of a session

Several parties share a session. Each has adapters, endpoints and duplexes of its own, which it
knows by their keys, and all of them draw their tokens from the same two rosters. What belongs to
one party is its compartment.

The number of a token tells how many tokens were issued before, so it depends on what the other
parties do. Two runs in which a party does the same are compared up to these numbers: a naming says
which token of the one run stands for which token of the other.

## Main definitions

* `Conduit.Compartment`: what belongs to a party, and `Conduit.Compartment.owns`: its events.
* `Conduit.Compartment.Apart`: nothing belongs to both of two parties.
* `Conduit.Compartment.ofDuplex`: what belongs to a party that has one duplex.
* `Conduit.Naming`: which tokens stand for one another.
* `Conduit.Session.Record.Matches`, `Conduit.Endpoint.Matches`: records and endpoints that are the
  same but for the numbers of tokens.

## Main results

* One lemma `mono` for each kind of match: it is not lost when more tokens have names.
* `Conduit.LogLine.matches_self`: a line that reports no token matches itself.
-/

namespace Conduit

/-- What belongs to a party in a session. -/
structure Compartment where
  inlet : Nat → Bool
  outlet : Nat → Bool
  duplex : Nat → Bool
  /-- The side that an endpoint is for, if it belongs to the party. -/
  side? : Nat → Option Side

namespace Compartment

/-- Whether an adapter belongs to the party. -/
def adapter (x : Compartment) : Adapter → Bool
  | .inlet k => x.inlet k
  | .outlet k => x.outlet k

/-- Whether the adapters and the endpoints of a duplex belong to the party. -/
def holds (x : Compartment) (d : DuplexKeys) : Bool :=
  x.inlet d.inlet && x.outlet d.outlet && x.side? d.readEnd = some .inbound &&
    x.side? d.writeEnd = some .outbound

/-- The events of a party. Whatever they use belongs to it, and they use its endpoints for the side
that they are for. Nobody writes a data field, calls a callback without an endpoint, or uses what
is the engine's own. -/
def owns (x : Compartment) : Event → Bool
  | .openInlet k _ _ _ | .request k _ | .markEnded k | .pump k | .readDone k _ => x.inlet k
  | .openOutlet k _ _ | .append k _ | .flush k | .writeDone k _ => x.outlet k
  | .openDuplex j d _ _ => x.duplex j && x.holds d
  | .flushAll j | .close j | .dropDuplex j => x.duplex j
  | .attach e a | .disconnect e a => x.side? e = some a.side && x.adapter a
  | .share e | .free e | .setFlags e _ | .read e _ _ | .write e _ _ | .control e _
  | .streamRead e _ | .streamWrite e _ | .streamWriteAll e _ => (x.side? e).isSome
  | .callRead e _ _ => x.side? e = some .inbound
  | .callWrite e _ _ => x.side? e = some .outbound
  | .callControl side (some e) _ | .callCreate side (some e) | .callDestroy side (some e) =>
      x.side? e = some side
  | _ => false

/-- Nothing belongs to both of two parties. -/
structure Apart (x y : Compartment) : Prop where
  inlet : ∀ k, x.inlet k = true → y.inlet k = false
  outlet : ∀ k, x.outlet k = true → y.outlet k = false
  duplex : ∀ j, x.duplex j = true → y.duplex j = false
  side? : ∀ e side, x.side? e = some side → y.side? e = none

/-- What belongs to a party that has one duplex. -/
def ofDuplex (key : Nat) (d : DuplexKeys) : Compartment where
  inlet k := k = d.inlet
  outlet k := k = d.outlet
  duplex j := j = key
  side? e :=
    if e = d.readEnd then some .inbound else if e = d.writeEnd then some .outbound else none

variable {x y : Compartment}

theorem holds_iff {d : DuplexKeys} : x.holds d = true ↔ x.inlet d.inlet = true ∧
    x.outlet d.outlet = true ∧ x.side? d.readEnd = some .inbound ∧
      x.side? d.writeEnd = some .outbound := by
  simp [holds, and_assoc]

theorem Apart.symm (h : x.Apart y) : y.Apart x where
  inlet k hk := by
    by_contra hx
    simp [h.inlet k (by simpa using hx)] at hk
  outlet k hk := by
    by_contra hx
    simp [h.outlet k (by simpa using hx)] at hk
  duplex j hj := by
    by_contra hx
    simp [h.duplex j (by simpa using hx)] at hj
  side? e side he := by
    by_contra hx
    obtain ⟨way, hway⟩ := Option.ne_none_iff_exists'.mp hx
    simp [h.side? e way hway] at he

/-- Two duplexes whose keys are different ones have nothing in common. -/
theorem apart_ofDuplex {j l : Nat} {d c : DuplexKeys} (hkey : j ≠ l) (hinlet : d.inlet ≠ c.inlet)
    (houtlet : d.outlet ≠ c.outlet)
    (hread : d.readEnd ≠ c.readEnd ∧ d.readEnd ≠ c.writeEnd)
    (hwrite : d.writeEnd ≠ c.readEnd ∧ d.writeEnd ≠ c.writeEnd) :
    (ofDuplex j d).Apart (ofDuplex l c) where
  inlet k hk := by
    obtain rfl : k = d.inlet := of_decide_eq_true hk
    exact decide_eq_false hinlet
  outlet k hk := by
    obtain rfl : k = d.outlet := of_decide_eq_true hk
    exact decide_eq_false houtlet
  duplex i hi := by
    obtain rfl : i = j := of_decide_eq_true hi
    exact decide_eq_false hkey
  side? e side he := by
    simp only [ofDuplex] at he ⊢
    split at he
    · next hread' => rw [hread', if_neg hread.1, if_neg hread.2]
    · split at he
      · next hwrite' => rw [hwrite', if_neg hwrite.1, if_neg hwrite.2]
      · cases he

end Compartment

/-! ### Names of tokens -/

/-- Which tokens of two sessions stand for one another, on each side. -/
abbrev Naming := Side → Token → Token → Prop

/-- A naming that knows no token. -/
def Naming.empty : Naming := fun _ _ _ => False

/-- A naming that knows one more pair of tokens. -/
def Naming.add (n : Naming) (side : Side) (u v : Token) : Naming :=
  fun way u' v' => n way u' v' ∨ way = side ∧ u' = u ∧ v' = v

/-- No token stands for two others. -/
def Naming.OneToOne (n : Naming) : Prop :=
  ∀ {side u v u' v'}, n side u v → n side u' v' → (u = u' ↔ v = v')

/-- Lines that are the same but for the numbers of tokens. -/
def LogLine.Matches (n : Naming) : LogLine → LogLine → Prop
  | .attached a u, .attached b v => a = b ∧ n a.side u v
  | .detached side u, .detached way v => side = way ∧ n side u v
  | .released side u, .released way v => side = way ∧ n side u v
  | line, line' => line = line'

/-- Replies that are the same but for the numbers of tokens. -/
def Reply.Matches (n : Naming) : Reply → Reply → Prop
  | .token u, .token v => ∃ side, n side u v
  | .tokens u v, .tokens u' v' => n .inbound u u' ∧ n .outbound v v'
  | reply, reply' => reply = reply'

/-- Records that are the same but for the numbers of tokens. -/
structure Session.Record.Matches (n : Naming) (r r' : Session.Record) : Prop where
  event : r.event = r'.event
  reply : r.reply.Matches n r'.reply
  log : List.Forall₂ (LogLine.Matches n) r.log r'.log

/-- Endpoints for a side that are the same but for the number of the token that they store. -/
structure Endpoint.Matches (n : Naming) (side : Side) (b c : Endpoint) : Prop where
  form : b.form = .adapter side
  form' : c.form = .adapter side
  data : Option.Rel (n side) b.data c.data
  flags : b.flags = c.flags
  references : b.references = c.references

section

variable {n m : Naming}

theorem Naming.le_add (n : Naming) (side : Side) (u v : Token) : n ≤ n.add side u v :=
  fun _ _ _ => Or.inl

theorem LogLine.Matches.mono (hle : n ≤ m) {line line' : LogLine} (h : line.Matches n line') :
    line.Matches m line' := by
  unfold LogLine.Matches at h
  split at h
  · exact ⟨h.1, hle _ _ _ h.2⟩
  · exact ⟨h.1, hle _ _ _ h.2⟩
  · exact ⟨h.1, hle _ _ _ h.2⟩
  · next hattached hdetached hreleased =>
    subst h
    cases line with
    | attached a u => exact (hattached a u a u rfl rfl).elim
    | detached side u => exact (hdetached side u side u rfl rfl).elim
    | released side u => exact (hreleased side u side u rfl rfl).elim
    | _ => rfl

theorem Reply.Matches.mono (hle : n ≤ m) {reply reply' : Reply} (h : reply.Matches n reply') :
    reply.Matches m reply' := by
  unfold Reply.Matches at h
  split at h
  · obtain ⟨side, h⟩ := h
    exact ⟨side, hle _ _ _ h⟩
  · exact ⟨hle _ _ _ h.1, hle _ _ _ h.2⟩
  · next htoken htokens =>
    subst h
    cases reply with
    | token u => exact (htoken u u rfl rfl).elim
    | tokens u v => exact (htokens u v u v rfl rfl).elim
    | _ => rfl

theorem Session.Record.Matches.mono (hle : n ≤ m) {r r' : Session.Record} (h : r.Matches n r') :
    r.Matches m r' where
  event := h.event
  reply := h.reply.mono hle
  log := h.log.imp fun _ _ hline => hline.mono hle

theorem Endpoint.Matches.mono (hle : n ≤ m) {side : Side} {b c : Endpoint}
    (h : b.Matches n side c) : b.Matches m side c where
  form := h.form
  form' := h.form'
  data := by
    have hdata := h.data
    revert hdata
    cases b.data <;> cases c.data <;> intro hdata <;> cases hdata
    · exact .none
    · exact .some (hle _ _ _ ‹_›)
  flags := h.flags
  references := h.references

/-- A line that reports no token matches itself. -/
theorem LogLine.matches_self {line : LogLine} (h : line.isBinding = false) (n : Naming) :
    line.Matches n line := by
  cases line <;> first | rfl | cases h

end

end Conduit

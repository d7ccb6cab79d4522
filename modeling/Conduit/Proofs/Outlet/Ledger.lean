import Conduit.Outlet
/-!
# The ledger of an outlet

What was appended to an outlet, what its connection was offered and what the connection said to it,
kept apart from the outlet itself. The ledger never looks at the queue: it is written from what the
outlet's users and its connection can see. `Ledger.Agrees` relates the two, and every operation of
an outlet keeps it, a write that panics included.

A write ends in one of three ways for each byte that it was offered. The byte is accepted, or it is
lost, or it is left and goes back to the front of the queue. Only a panic loses anything, and it
loses the whole block.

## Main definitions

* `Conduit.WriteAnswer.accepts`, `loses` and `leaves`: the three parts of an answered block.
* `Conduit.Outlet.waiting`: the bytes that an outlet still has, the block in flight first.
* `Conduit.Outlet.Ledger`, with `accepted` and `departed`.
* `Conduit.Outlet.Ledger.Agrees`: the ledger accounts for every byte of the outlet.

## Main results

* `sequel_start`, `sequel_resume`: an operation made of flushes either leaves the outlet as it is or
  offers its whole queue.
* `Ledger.Agrees.append`, `Agrees.sequel` and `Agrees.land`.
* `Ledger.Agrees.exact_iff`: when the books are in order without a loss.
-/

namespace Conduit

namespace WriteAnswer

/-- The part of a block that the connection has accepted. A count beyond the block is no more than
the whole of it. -/
def accepts (block : Bytes) : WriteAnswer → Bytes
  | accepted count => block.take count
  | failed _ => []
  | panicked _ => []

/-- The part of a block that is gone although it was not accepted. -/
def loses (block : Bytes) : WriteAnswer → Bytes
  | panicked _ => block
  | _ => []

/-- The part of a block that goes back to the queue. -/
def leaves (block : Bytes) : WriteAnswer → Bytes
  | accepted count => block.drop count
  | failed _ => block
  | panicked _ => []

theorem accepts_append_loses_append_leaves (a : WriteAnswer) (block : Bytes) :
    a.accepts block ++ a.loses block ++ a.leaves block = block := by
  cases a <;> simp [accepts, loses, leaves]

end WriteAnswer

/-- What a purpose becomes when one of its writes has been accepted as far as that. -/
def Purpose.gain (purpose : Purpose) (n : Nat) : Purpose :=
  match purpose with
  | .drain total => .drain (total + n)
  | _ => purpose

namespace Outlet

/-- The block that is in flight. -/
def aloft (o : Outlet) : Bytes := (o.flight.map (·.block)).getD []

/-- Every byte that the outlet has, in order. -/
def waiting (o : Outlet) : Bytes := o.aloft ++ o.queue

theorem waiting_of_idle {o : Outlet} (h : o.flight = none) : o.waiting = o.queue := by
  simp [waiting, aloft, h]

theorem waiting_of_flight {o : Outlet} {f : Flight} (h : o.flight = some f) :
    o.waiting = f.block ++ o.queue := by
  simp [waiting, aloft, h]

/-! ### The two halves of a flush, and what is made of them -/

/-- Landing gives the queue back what the answer leaves of the block. A panic skips the rest of the
flush, so the count of the bytes in flight stays as it was. -/
theorem land_fst (o : Outlet) (block : Bytes) (a : WriteAnswer) :
    (o.land block a).1 =
      { o with
        flight := none
        queue := a.leaves block ++ o.queue
        inFlight := match a with | .panicked _ => o.inFlight | _ => 0 } := by
  cases a with
  | accepted count =>
    have hdrop : block.drop (min count block.length) = block.drop count := by
      rcases Nat.le_total count block.length with h | h
      · rw [Nat.min_eq_left h]
      · rw [Nat.min_eq_right h, List.drop_length, List.drop_of_length_le h]
    simp [land, WriteAnswer.leaves, hdrop]
  | failed error => simp [land, WriteAnswer.leaves]
  | panicked panic => simp [land, WriteAnswer.leaves]

theorem inFlight_land (o : Outlet) (block : Bytes) {a : WriteAnswer}
    (ha : ∀ panic, a ≠ .panicked panic) : (o.land block a).1.inFlight = 0 := by
  rw [land_fst]
  cases a with
  | panicked panic => exact absurd rfl (ha panic)
  | _ => rfl

/-- How a flush ends by itself. -/
theorem land_snd (o : Outlet) (block : Bytes) (a : WriteAnswer) :
    (o.land block a).2 =
      match a with
      | .accepted _ => .value (a.accepts block).length
      | .failed error => .failed error
      | .panicked panic => .panicked panic := by
  cases a <;> simp [land, WriteAnswer.accepts]

/-- What an operation made of flushes can do to an outlet when it starts or goes on: leave it as it
is, or offer its whole queue. -/
inductive Sequel (o : Outlet) (purpose : Purpose) : Outlet × Progress → Prop where
  | still {progress : Progress} (hstill : ∀ block, progress ≠ .writing block) :
      Sequel o purpose (o, progress)
  | offered (hidle : o.flight = none) (hqueue : o.queue ≠ []) :
      Sequel o purpose
        ({ o with queue := [], inFlight := o.queue.length, flight := some ⟨o.queue, purpose⟩ },
          .writing o.queue)

theorem sequel_drain {o : Outlet} (hidle : o.flight = none) (total : Nat) :
    Sequel o (.drain total) (o.drain total) := by
  rw [drain]
  split
  · exact .still (by simp)
  · by_cases hq : o.queue = []
    · rw [begin_of_empty hq]
      exact .still (by simp)
    · rw [begin_of_queued hq]
      exact .offered hidle hq

theorem drain_of_exact {o : Outlet} (hexact : o.inFlight = 0) (total : Nat) :
    o.drain total =
      if o.queue = [] then (o, .ended (.value total))
      else
        ({ o with queue := [], inFlight := o.queue.length, flight := some ⟨o.queue, .drain total⟩ },
          .writing o.queue) := by
  by_cases hqueue : o.queue = []
  · simp [drain, pending, hexact, hqueue]
  · simp [drain, pending, hexact, hqueue, begin_of_queued hqueue]

/-- Whatever has been left counted, draining offers a queue that holds something. -/
theorem start_drain_of_queued {o : Outlet} (hidle : o.flight = none) (hqueue : o.queue ≠ []) :
    o.start (.drain 0) =
      ({ o with queue := [], inFlight := o.queue.length, flight := some ⟨o.queue, .drain 0⟩ },
        .writing o.queue) := by
  have hpending : o.pending ≠ 0 := by simp [pending, hqueue]
  simp [start, drain, hpending, hidle, begin_of_queued hqueue]

/-- With nothing to offer, draining ends without a write: well if nothing is counted either, else as
a refused write. -/
theorem start_drain_of_empty {o : Outlet} (hidle : o.flight = none) (hqueue : o.queue = []) :
    (o.start (.drain 0)).2 =
      .ended (if o.inFlight = 0 then .value 0 else .failed (.plain .writeZero)) := by
  by_cases hcount : o.inFlight = 0
  · simp [start, pending, hqueue, hcount]
  · simp [start, drain, pending, hidle, hqueue, hcount, begin_of_empty]

/-- An operation that starts waits for the one in progress, if there is one. -/
theorem sequel_start (o : Outlet) (purpose : Purpose) : Sequel o purpose (o.start purpose) := by
  cases purpose with
  | drain total =>
    simp only [start]
    split
    · exact .still (by simp)
    · split
      · exact .still (by simp)
      · next hbusy => exact sequel_drain (by simpa using hbusy) total
  | single | control =>
    simp only [start]
    split
    · exact .still (by simp)
    · next hbusy =>
      by_cases hq : o.queue = []
      · rw [begin_of_empty hq]
        exact .still (by simp)
      · rw [begin_of_queued hq]
        exact .offered (by simpa using hbusy) hq

/-- The number of bytes that an outcome speaks of. -/
def got : Outcome Nat → Nat
  | .value n => n
  | _ => 0

/-- An operation that goes on after one of its flushes counts what that flush got. -/
theorem sequel_resume {o : Outlet} (hidle : o.flight = none) (purpose : Purpose)
    (outcome : Outcome Nat) :
    Sequel o (purpose.gain (got outcome)) (o.resume purpose outcome) := by
  cases purpose with
  | drain total =>
    cases outcome with
    | value accepted =>
      simp only [resume]
      split
      · exact .still (by simp)
      · exact sequel_drain hidle _
    | failed error =>
      simp only [resume]
      split
      · exact sequel_drain hidle _
      · exact .still (by simp)
    | panicked panic => exact .still (by simp)
  | single => exact .still (by simp)
  | control => exact .still (by simp)

theorem Sequel.connection_eq {o : Outlet} {purpose : Purpose} {result : Outlet × Progress}
    (h : Sequel o purpose result) : result.1.connection = o.connection := by
  cases h <;> rfl

/-- An operation that goes on to write offers the whole queue, and never nothing. -/
theorem Sequel.of_writing {o o' : Outlet} {purpose : Purpose} {block : Bytes}
    (h : Sequel o purpose (o', .writing block)) :
    block = o.queue ∧ block ≠ [] ∧
      o' = { o with queue := [], inFlight := block.length, flight := some ⟨block, purpose⟩ } := by
  cases h with
  | still hstill => exact absurd rfl (hstill block)
  | offered hidle hqueue => exact ⟨rfl, hqueue, rfl⟩

theorem got_land (o : Outlet) (block : Bytes) (a : WriteAnswer) :
    got (o.land block a).2 = (a.accepts block).length := by
  rw [land_snd]
  cases a <;> simp [got, WriteAnswer.accepts]

theorem drain_eq_value {o : Outlet} {total n : Nat}
    (h : (o.drain total).2 = .ended (.value n)) : n = total := by
  rw [drain] at h
  split at h
  · simpa using h.symm
  · split at h <;> simp at h

/-- Draining that ends well has counted every flush on the way. -/
theorem resume_drain_eq_value {o : Outlet} {total n : Nat} {outcome : Outcome Nat}
    (h : (o.resume (.drain total) outcome).2 = .ended (.value n)) : n = total + got outcome := by
  cases outcome with
  | value accepted =>
    simp only [resume] at h
    split at h
    · simp at h
    · exact drain_eq_value h
  | failed error =>
    simp only [resume] at h
    split at h
    · exact drain_eq_value h
    · simp at h
  | panicked panic => simp [resume] at h

/-! ### The ledger -/

/-- What users and connection of an outlet have seen of it. -/
structure Ledger where
  /-- Everything that was appended, in order. -/
  appended : Bytes := []
  /-- The blocks that the connection was offered and has answered, each with its answer. -/
  answered : List (Bytes × WriteAnswer) := []
  /-- The block that the connection has been offered and not answered yet. -/
  offer : Option Flight := none
  deriving DecidableEq, Repr

namespace Ledger

/-- Everything that the connection has accepted, in order. -/
def accepted (l : Ledger) : Bytes := l.answered.flatMap fun x => x.2.accepts x.1

/-- Everything that has left for good, accepted or lost, in order. -/
def departed (l : Ledger) : Bytes := l.answered.flatMap fun x => x.2.accepts x.1 ++ x.2.loses x.1

/-- The number of bytes that the latest answer lost. -/
def stale (l : Ledger) : Nat :=
  match l.answered.getLast? with
  | some (block, a) => (a.loses block).length
  | none => 0

/-- Enters bytes that were appended. -/
def append (l : Ledger) (data : Bytes) : Ledger := { l with appended := l.appended ++ data }

/-- Enters the answer to the block on offer. -/
def settle (l : Ledger) (a : WriteAnswer) : Ledger :=
  match l.offer with
  | some f => { l with answered := l.answered ++ [(f.block, a)], offer := none }
  | none => l

/-- Enters how an operation made of flushes goes on. -/
def proceed (l : Ledger) (purpose : Purpose) : Progress → Ledger
  | .writing block => { l with offer := some ⟨block, purpose⟩ }
  | _ => l

/-- The ledger accounts for every byte of the outlet. The count of the bytes in flight is right
while a write is in progress; between two writes it is what the latest answer lost. -/
structure Agrees (l : Ledger) (o : Outlet) : Prop where
  balance : l.appended = l.departed ++ o.waiting
  offer : o.flight = l.offer
  aloft : ∀ f, o.flight = some f → f.block ≠ [] ∧ o.inFlight = f.block.length
  idle : o.flight = none → o.inFlight = l.stale
  nonempty : ∀ x ∈ l.answered, x.1 ≠ []

theorem agrees_make (connection : Nat) (release : Bool) :
    Agrees {} (Outlet.make connection release) :=
  ⟨rfl, rfl, by simp [make, withReleaseBuffers], fun _ => rfl, by simp⟩

theorem Agrees.append {l : Ledger} {o : Outlet} (h : Agrees l o) (data : Bytes) :
    Agrees (l.append data) (o.append data) where
  balance := by
    change l.appended ++ data = l.departed ++ (o.aloft ++ (o.queue ++ data))
    rw [h.balance, waiting]
    simp only [List.append_assoc]
  offer := h.offer
  aloft := h.aloft
  idle := h.idle
  nonempty := h.nonempty

theorem Agrees.sequel {l : Ledger} {o o' : Outlet} {purpose : Purpose} {progress : Progress}
    (h : Agrees l o) (hs : Sequel o purpose (o', progress)) :
    Agrees (l.proceed purpose progress) o' := by
  cases hs with
  | still hstill =>
    have hsame : l.proceed purpose progress = l := by
      cases progress with
      | writing block => exact absurd rfl (hstill block)
      | _ => rfl
    rw [hsame]
    exact h
  | offered hidle hqueue =>
    have hbalance := h.balance
    rw [waiting_of_idle hidle] at hbalance
    exact
      { balance := by simpa [proceed, departed, waiting, Outlet.aloft] using hbalance
        offer := rfl
        aloft := by
          rintro f ⟨⟩
          exact ⟨hqueue, rfl⟩
        idle := by simp
        nonempty := h.nonempty }

theorem departed_settle {l : Ledger} {f : Flight} (hf : l.offer = some f) (a : WriteAnswer) :
    (l.settle a).departed = l.departed ++ (a.accepts f.block ++ a.loses f.block) := by
  simp [settle, hf, departed]

theorem stale_settle {l : Ledger} {f : Flight} (hf : l.offer = some f) (a : WriteAnswer) :
    (l.settle a).stale = (a.loses f.block).length := by
  simp [settle, hf, stale]

theorem Agrees.land {l : Ledger} {o : Outlet} {f : Flight} (h : Agrees l o)
    (hf : o.flight = some f) (a : WriteAnswer) : Agrees (l.settle a) (o.land f.block a).1 := by
  have hoffer : l.offer = some f := h.offer ▸ hf
  rw [land_fst]
  refine
    { balance := ?_
      offer := by simp [settle, hoffer]
      aloft := by simp
      idle := fun _ => ?_
      nonempty := ?_ }
  · have happended : (l.settle a).appended = l.appended := by simp [settle, hoffer]
    rw [happended, h.balance, departed_settle hoffer, waiting_of_flight hf, waiting_of_idle rfl]
    have hparts := a.accepts_append_loses_append_leaves f.block
    calc l.departed ++ (f.block ++ o.queue)
        = l.departed ++ (a.accepts f.block ++ a.loses f.block ++ a.leaves f.block ++ o.queue) := by
          rw [hparts]
      _ = l.departed ++ (a.accepts f.block ++ a.loses f.block) ++
          (a.leaves f.block ++ o.queue) := by
          simp only [List.append_assoc]
  · rw [stale_settle hoffer]
    cases a with
    | panicked panic => exact (h.aloft f hf).2
    | _ => rfl
  · simp only [settle, hoffer]
    intro x hx
    rcases List.mem_append.mp hx with hx | hx
    · exact h.nonempty x hx
    · rw [List.mem_singleton.mp hx]
      exact (h.aloft f hf).1

/-! ### Losses -/

/-- Everything that was lost, in order. -/
def lost (l : Ledger) : Bytes := l.answered.flatMap fun x => x.2.loses x.1

/-- No write has panicked. -/
def Intact (l : Ledger) : Prop := ∀ x ∈ l.answered, ∀ panic, x.2 ≠ .panicked panic

theorem length_departed (l : Ledger) :
    l.departed.length = l.accepted.length + l.lost.length := by
  simp only [departed, accepted, lost]
  induction l.answered with
  | nil => rfl
  | cons x rest ih =>
    simp only [List.flatMap_cons, List.length_append, ih]
    omega

theorem Intact.departed_eq {l : Ledger} (h : l.Intact) : l.departed = l.accepted := by
  rw [departed, accepted, List.flatMap_def, List.flatMap_def]
  refine congrArg _ (List.map_congr_left fun x hx => ?_)
  have hkept : x.2.loses x.1 = [] := by
    cases ha : x.2 with
    | panicked panic => exact absurd ha (h x hx panic)
    | _ => rfl
  rw [hkept, List.append_nil]

/-- As every block holds something, a write that panicked has lost something. -/
theorem intact_iff_lost_eq_nil {l : Ledger} (h : ∀ x ∈ l.answered, x.1 ≠ []) :
    l.Intact ↔ l.lost = [] := by
  rw [lost, List.flatMap_eq_nil_iff]
  refine forall₂_congr fun x hx => ?_
  cases ha : x.2 with
  | panicked panic => simpa [WriteAnswer.loses] using h x hx
  | _ => simp [WriteAnswer.loses]

/-- The count that is left between two writes is none exactly if the latest write did not panic. -/
theorem stale_eq_zero_iff {l : Ledger} (h : ∀ x ∈ l.answered, x.1 ≠ []) :
    l.stale = 0 ↔ ∀ block panic, l.answered.getLast? ≠ some (block, .panicked panic) := by
  cases hlast : l.answered.getLast? with
  | none => simp [stale, hlast]
  | some x =>
    obtain ⟨block, a⟩ := x
    have hblock : block ≠ [] := h _ (List.mem_of_getLast? hlast)
    cases a <;> simp [stale, hlast, WriteAnswer.loses, hblock]

/-- Between two writes the count of the bytes in flight is none, and the queue is what was appended
and not accepted, exactly if no write has panicked. -/
theorem Agrees.exact_iff {l : Ledger} {o : Outlet} (h : Agrees l o) (hidle : o.flight = none) :
    (o.inFlight = 0 ∧ l.appended = l.accepted ++ o.queue) ↔ l.Intact := by
  have hbalance := h.balance
  rw [waiting_of_idle hidle] at hbalance
  constructor
  · rintro ⟨-, hexact⟩
    rw [hbalance] at hexact
    have hsame : l.departed = l.accepted := List.append_cancel_right hexact
    have hlength := l.length_departed
    rw [hsame] at hlength
    rw [intact_iff_lost_eq_nil h.nonempty]
    exact List.eq_nil_of_length_eq_zero (by omega)
  · intro hintact
    refine ⟨?_, by rw [hbalance, hintact.departed_eq]⟩
    rw [h.idle hidle, stale_eq_zero_iff h.nonempty]
    intro block panic hlast
    exact hintact _ (List.mem_of_getLast? hlast) panic rfl

/-- While no write has panicked, what is pending is what was appended and not accepted, also in the
middle of a write. -/
theorem Agrees.pending_of_intact {l : Ledger} {o : Outlet} (h : Agrees l o) (hintact : l.Intact) :
    l.accepted.length + o.pending = l.appended.length := by
  rw [h.balance, hintact.departed_eq, List.length_append, pending]
  cases hf : o.flight with
  | none =>
    have hzero : o.inFlight = 0 := ((h.exact_iff hf).mpr hintact).1
    rw [waiting_of_idle hf, hzero, Nat.add_zero]
  | some f =>
    rw [waiting_of_flight hf, (h.aloft f hf).2, List.length_append]
    omega

end Ledger

end Outlet

end Conduit

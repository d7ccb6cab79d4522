import Conduit.Proofs.Session.Draining
import Mathlib.Data.Nat.Basic
import Mathlib.Order.Basic
/-!
# How long draining can take

Draining goes on as long as the connection lets it, and the connection may be interrupted, and more
may be appended while it writes. Still every write that lets it go on got a byte accepted or was
interrupted, and no byte is accepted twice. So there are at most as many writes as there are bytes,
those that wait and those that come in on the way, and interruptions.

The connection's answers are an endless course of rounds, one for each write, and the call is free
to end after any of them. It may find the outlet with any count left behind by a panic: with a queue
that holds something the first write sets the count right, and with none the call ends without a
write.

## Main definitions

* `Conduit.Round`, `Conduit.course`: what happens during each write, and how it is answered.
* `Conduit.Session.writesAsked`: the writes that a run asks of the connection of an outlet.
* `Conduit.Session.EndsAfter`: the call has ended, with so many writes.

## Main results

* `Draining.length_answered_lt`: the writes of a call that is under way are fewer than its bytes and
  interruptions.
* `round_cases`: after each round the call is under way or has ended.
* `flushAll_ends`: the call ends, and how many writes it takes at most.
-/

namespace Conduit

/-- Whether a write was interrupted. -/
def WriteAnswer.isInterrupted : WriteAnswer → Bool
  | failed error => error.kind = .interrupted
  | _ => false

/-- What happens while a connection writes, and its answer. -/
structure Round where
  during : List Event := []
  answer : WriteAnswer

/-- The events of a round that is about the outlet under a key. -/
def Round.events (r : Round) (k : Nat) : List Event := r.during ++ [.writeDone k r.answer]

/-- The events of the first rounds of an endless course. -/
def course (k : Nat) (rounds : ℕ → Round) (n : ℕ) : List Event :=
  (List.range n).flatMap fun m => (rounds m).events k

/-- The number of interruptions in the first rounds of an endless course. -/
def interruptions (rounds : ℕ → Round) (n : ℕ) : ℕ :=
  (List.range n).countP fun m => (rounds m).answer.isInterrupted

theorem course_succ (k : Nat) (rounds : ℕ → Round) (n : ℕ) :
    course k rounds (n + 1) = course k rounds n ++ (rounds n).events k := by
  simp [course, List.range_succ]

namespace Outlet

/-- After a write, draining never waits: it writes again, or it ends, with a panic only if the write
panicked. -/
theorem resume_drain_cases (o : Outlet) (total : Nat) (block : Bytes) (a : WriteAnswer) :
    (∃ rest, ((o.land block a).1.resume (.drain total) (o.land block a).2).2 = .writing rest) ∨
      ∃ outcome, ((o.land block a).1.resume (.drain total) (o.land block a).2).2 =
        .ended outcome ∧ ∀ panic, outcome = .panicked panic → a = .panicked panic := by
  have hdrain (o : Outlet) (total : Nat) : (∃ rest, (o.drain total).2 = .writing rest) ∨
      ∃ outcome, (o.drain total).2 = .ended outcome ∧ ∀ panic, outcome ≠ .panicked panic := by
    by_cases hpending : o.pending = 0
    · exact Or.inr ⟨.value total, by simp [drain, hpending], by simp⟩
    · by_cases hqueue : o.queue = []
      · exact Or.inr ⟨.failed (.plain .writeZero),
          by simp [drain, hpending, begin_of_empty hqueue], by simp⟩
      · exact Or.inl ⟨o.queue, by simp [drain, hpending, begin_of_queued hqueue]⟩
  have hgoes (o : Outlet) (total : Nat) : (∃ rest, (o.drain total).2 = .writing rest) ∨
      ∃ outcome, (o.drain total).2 = .ended outcome ∧
        ∀ panic, outcome = .panicked panic → a = .panicked panic := by
    rcases hdrain o total with hwriting | ⟨outcome, hended, hne⟩
    · exact Or.inl hwriting
    · exact Or.inr ⟨outcome, hended, fun panic h => absurd h (hne panic)⟩
  rw [land_snd]
  cases a with
  | accepted n =>
    simp only [resume]
    split
    · exact Or.inr ⟨_, rfl, by simp⟩
    · exact hgoes _ _
  | failed error =>
    simp only [resume]
    split
    · exact hgoes _ _
    · exact Or.inr ⟨_, rfl, by simp⟩
  | panicked panic => exact Or.inr ⟨.panicked panic, rfl, by simp⟩

end Outlet

namespace Session

open Outlet (Ledger)

/-- Whether a reply asks the connection of the outlet under a key to write. -/
def asksWrite (k : Nat) : Reply → Bool
  | .calls (.write j _ _) => j = k
  | _ => false

/-- The number of writes that the connection of the outlet under a key was asked for. -/
def writesAsked (k : Nat) (records : List Record) : ℕ :=
  records.countP fun r => asksWrite k r.reply

theorem writesAsked_append (k : Nat) (first second : List Record) :
    writesAsked k (first ++ second) = writesAsked k first + writesAsked k second :=
  List.countP_append

theorem asksWrite_eq_false {k : Nat} {reply : Reply}
    (h : ∀ c block, reply ≠ .calls (.write k c block)) : asksWrite k reply = false := by
  unfold asksWrite
  split
  · next j c block =>
    have hjk : ¬ j = k := fun hjk => h c block (hjk ▸ rfl)
    simp [hjk]
  · rfl

/-! ### The measure -/

/-- Each answer that let the call go on got a byte accepted, or was an interruption. -/
theorem length_answered_le {answered : List (Bytes × WriteAnswer)}
    (h : ∀ x ∈ answered, x.2.LetsGoOn x.1) :
    answered.length ≤ (answered.flatMap fun x => x.2.accepts x.1).length +
      answered.countP fun x => x.2.isInterrupted := by
  induction answered with
  | nil => simp
  | cons x rest ih =>
    obtain ⟨hx, hrest⟩ := List.forall_mem_cons.mp h
    have hle := ih hrest
    simp only [List.length_cons, List.flatMap_cons, List.length_append, List.countP_cons]
    rcases hx with haccepts | ⟨error, ha, hkind⟩
    · have := List.length_pos_iff.mpr haccepts
      omega
    · have hinterrupted : x.2.isInterrupted = true := by
        rw [ha]
        exact decide_eq_true hkind
      rw [if_pos hinterrupted]
      omega

/-- **The writes of a call that is under way are fewer than its bytes and interruptions.** What is
on offer has not been accepted, so there is always a byte left over. -/
theorem Draining.length_answered_lt {l : Ledger} {o : Outlet} (h : Draining l o) :
    l.answered.length <
      l.appended.length + l.answered.countP fun x => x.2.isInterrupted := by
  obtain ⟨block, hflight, hblock⟩ := h.flight
  have hle := length_answered_le h.letsGoOn
  have hpos := List.length_pos_iff.mpr hblock
  have hbalance : l.appended.length = l.accepted.length + (block ++ o.queue).length := by
    rw [h.agrees.balance, h.intact.departed_eq, Outlet.waiting_of_flight hflight,
      List.length_append]
  rw [List.length_append] at hbalance
  rw [← Ledger.accepted] at hle
  omega

/-! ### While a connection writes -/

section During

variable {s : Session} {k : Nat} {l : Ledger}

/-- While a block is in flight, nothing but the answer to it asks for a write of the same outlet. -/
theorem ne_calls_of_flight {o : Outlet} {f : Flight} (hk : s.outlets.get? k = some o)
    (hf : o.flight = some f) {event : Event} (hanswer : ∀ a, event ≠ .writeDone k a)
    (c : Nat) (block : Bytes) : (s.step event).value ≠ .calls (.write k c block) := by
  cases outbound_step hk event with
  | apart hget htaken hcalls => exact hcalls c block
  | append data hget htaken hcalls => exact hcalls c block
  | start hget htaken hreply =>
    intro hcalls
    have hwriting := (ofFlush_eq_calls_iff.mp (hreply.symm.trans hcalls)).2.2
    have hsequel := Outlet.sequel_start o event.purpose
    rcases hstart : o.start event.purpose with ⟨o', progress⟩
    rw [hstart] at hwriting hsequel
    cases hsequel with
    | still hstill => exact hstill block hwriting
    | offered hidle => simp [hf] at hidle
  | answer a f hevent => exact absurd hevent (hanswer a)

theorem writesAsked_of_flight {o : Outlet} {f : Flight} (hk : s.outlets.get? k = some o)
    (hf : o.flight = some f) {events : List Event} (hanswer : ∀ a, .writeDone k a ∉ events) :
    writesAsked k (s.run events).2 = 0 := by
  induction events generalizing s o with
  | nil => rfl
  | cons event rest ih =>
    simp only [List.mem_cons, not_or] at hanswer
    have hne : ∀ a, event ≠ .writeDone k a := fun a => Ne.symm (hanswer a).1
    have hlater := @outlet_run_of_flight s k o f hk hf [event] (by simpa [eq_comm] using hne)
    have hquiet := asksWrite_eq_false (ne_calls_of_flight hk hf hne)
    have hrest := ih hlater hf fun a => (hanswer a).2
    simpa [writesAsked, run, hquiet] using hrest

theorem goesOn_of_notMem {events : List Event} (hanswer : ∀ a, .writeDone k a ∉ events) :
    GoesOn k (s.run events).2 := by
  induction events generalizing s with
  | nil => simp [GoesOn, run]
  | cons event rest ih =>
    simp only [List.mem_cons, not_or] at hanswer
    refine List.forall_mem_cons.mpr ⟨fun a ha => absurd ha.symm (hanswer a).1, ?_⟩
    exact ih fun a => (hanswer a).2

theorem outletLedger_append (s : Session) (k : Nat) (l : Ledger) (first second : List Event) :
    s.outletLedger k l (first ++ second) =
      (s.run first).1.outletLedger k (s.outletLedger k l first) second := by
  induction first generalizing s l with
  | nil => rfl
  | cons event rest ih => exact ih _ _

theorem takenDuring_append (s : Session) (k : Nat) (first second : List Event) :
    s.takenDuring k (first ++ second) =
      s.takenDuring k first ++ (s.run first).1.takenDuring k second := by
  induction first generalizing s with
  | nil => rfl
  | cons event rest ih =>
    rw [List.cons_append, takenDuring, ih, takenDuring, run, List.append_assoc]

theorem answered_outletLedger_of_notMem {events : List Event}
    (hanswer : ∀ a, .writeDone k a ∉ events) :
    (s.outletLedger k l events).answered = l.answered := by
  induction events generalizing s l with
  | nil => rfl
  | cons event rest ih =>
    simp only [List.mem_cons, not_or] at hanswer
    exact (ih fun a => (hanswer a).2).trans
      (Ledger.answered_enter_of_ne fun a => Ne.symm (hanswer a).1)

end During

/-! ### From round to round -/

/-- How a call that drains ends: it returns, or the panic of its last write unwinds it. -/
inductive EndsAs (last : Option WriteAnswer) : Reply → Prop where
  | returns (total : Nat) : EndsAs last (.count total)
  | fails (error : IoError) : EndsAs last (.failed error)
  | unwinds (panic : Panic) (h : last = some (.panicked panic)) : EndsAs last (.panicked panic)

/-- A round of a call that is under way either lets it go on, with one more write, or ends it. -/
theorem round_cases {s : Session} {k : Nat} {l : Ledger} {o : Outlet}
    (hk : s.outlets.get? k = some o) (h : Draining l o) {r : Round}
    (honce : ∀ a, .writeDone k a ∉ r.during) :
    (GoesOn k (s.run (r.events k)).2 ∧ writesAsked k (s.run (r.events k)).2 = 1 ∧
        (∃ o', (s.run (r.events k)).1.outlets.get? k = some o' ∧
          Draining (s.outletLedger k l (r.events k)) o') ∧
        ∃ block, (s.outletLedger k l (r.events k)).answered = l.answered ++ [(block, r.answer)]) ∨
      (writesAsked k (s.run (r.events k)).2 = 0 ∧
        ∃ before last, (s.run (r.events k)).2 = before ++ [last] ∧
          EndsAs (some r.answer) last.reply) := by
  have hquiet := goesOn_of_notMem (s := s) honce
  obtain ⟨o', hk', h'⟩ := draining_run hk h hquiet
  obtain ⟨block, hflight, -⟩ := h.flight
  have hnone := writesAsked_of_flight hk hflight honce
  obtain ⟨block', hflight', -⟩ := h'.flight
  rw [Round.events, run_append, outletLedger_append]
  generalize hs' : (s.run r.during).1 = s' at hk'
  generalize hl' : s.outletLedger k l r.during = l' at h' hflight'
  generalize hrecords : (s.run r.during).2 = records at hquiet hnone
  have hanswered : l'.answered = l.answered := hl' ▸ answered_outletLedger_of_notMem honce
  obtain ⟨-, hvalue⟩ := writeDone_of_flight hk' hflight' r.answer
  have hlast : (s'.run [.writeDone k r.answer]).2 =
      [⟨.writeDone k r.answer, (s'.writeDone k r.answer).value,
        (s'.writeDone k r.answer).log⟩] := rfl
  rcases Outlet.resume_drain_cases o' l'.accepted.length block' r.answer with
    ⟨rest, hwriting⟩ | ⟨outcome, hended, hpanic⟩
  · left
    rw [hwriting] at hvalue
    have hcalls : ∀ a, Event.writeDone k r.answer = .writeDone k a →
        ∃ call, (s'.step (.writeDone k r.answer)).value = .calls call := fun _ _ => ⟨_, hvalue⟩
    obtain ⟨o'', hk'', h''⟩ := draining_step hk' h' hcalls
    refine ⟨?_, ?_, ⟨o'', hk'', h''⟩, block', ?_⟩
    · refine List.forall_mem_append.mpr ⟨hquiet, ?_⟩
      rw [hlast]
      exact List.forall_mem_singleton.mpr fun _ _ => ⟨_, hvalue⟩
    · rw [writesAsked_append, hnone, hlast]
      simp [writesAsked, hvalue, Reply.ofFlush, asksWrite]
    · rw [← hanswered]
      exact Ledger.answered_enter_writeDone (h'.agrees.offer.symm.trans hflight') r.answer
  · right
    rw [hended] at hvalue
    refine ⟨?_, records, _, by rw [hlast], ?_⟩
    · have hover : asksWrite k (s'.writeDone k r.answer).value = false := by
        rw [hvalue]
        cases outcome <;> rfl
      rw [writesAsked_append, hnone, hlast]
      simp [writesAsked, hover]
    · rw [hvalue]
      cases outcome with
      | value total => exact .returns total
      | failed error => exact .fails error
      | panicked panic => exact .unwinds panic (congrArg some (hpanic panic rfl))

section Course

variable {s : Session} {j : Nat} {d : Duplex} {o : Outlet} {rounds : ℕ → Round} {n : ℕ}

/-- A call that found a queue has come through so many rounds, and its next write is in progress. -/
structure UnderWay (s : Session) (j k : Nat) (queue : Bytes) (rounds : ℕ → Round) (n : ℕ) :
    Prop where
  goesOn : GoesOn k (s.run (.flushAll j :: course k rounds n)).2
  asked : writesAsked k (s.run (.flushAll j :: course k rounds n)).2 = n + 1
  outlet : ∃ o, (s.run (.flushAll j :: course k rounds n)).1.outlets.get? k = some o ∧
    Draining (s.outletLedger k { appended := queue } (.flushAll j :: course k rounds n)) o
  answers : (s.outletLedger k { appended := queue }
      (.flushAll j :: course k rounds n)).answered.map Prod.snd =
    (List.range n).map fun m => (rounds m).answer

/-- The call has ended after exactly so many writes, with the answer to the last of them if there
was one. -/
structure EndsAfter (s : Session) (j k : Nat) (rounds : ℕ → Round) (n : ℕ) : Prop where
  asked : writesAsked k (s.run (.flushAll j :: course k rounds n)).2 = n
  ended : ∃ before last, (s.run (.flushAll j :: course k rounds n)).2 = before ++ [last] ∧
    EndsAs ((List.range n).getLast?.map fun m => (rounds m).answer) last.reply

theorem underWay_zero (hj : s.duplexes.get? j = some d) (ho : s.outlets.get? d.outlet = some o)
    (hidle : o.flight = none) (hqueue : o.queue ≠ []) :
    UnderWay s j d.outlet o.queue rounds 0 := by
  obtain ⟨hget, hvalue⟩ := flushFor_self ho (.drain 0)
  rw [Outlet.start_drain_of_queued hidle hqueue] at hget hvalue
  have hstep : s.step (.flushAll j) = s.flushFor d.outlet (.drain 0) := by simp [step, hj]
  have hledger : Ledger.enter { appended := o.queue } s d.outlet (.flushAll j)
      (s.step (.flushAll j)).value =
        { appended := o.queue, offer := some ⟨o.queue, .drain 0⟩ } := by
    rw [hstep, hvalue]
    simp [Ledger.enter, Ledger.watch, Ledger.hear, Ledger.append, Ledger.proceed, Ledger.purposeOf,
      Reply.ofFlush, taken, Event.purpose]
  constructor
  · simp [course, run, GoesOn]
  · simp [course, run, writesAsked, hstep, hvalue, Reply.ofFlush, asksWrite]
  · simp only [course, List.range_zero, List.flatMap_nil, run, outletLedger, hledger]
    refine ⟨_, hstep ▸ hget, ⟨?_, ⟨o.queue, rfl⟩, by simp⟩⟩
    constructor
    · simp [Ledger.departed, Outlet.waiting, Outlet.aloft]
    · rfl
    · rintro f ⟨⟩
      exact ⟨hqueue, rfl⟩
    · simp
    · simp
  · simp only [course, List.range_zero, List.flatMap_nil, outletLedger, hledger]
    rfl

theorem underWay_succ {k : Nat} {queue : Bytes} (h : UnderWay s j k queue rounds n)
    (honce : ∀ a, .writeDone k a ∉ (rounds n).during) :
    UnderWay s j k queue rounds (n + 1) ∨ EndsAfter s j k rounds (n + 1) := by
  obtain ⟨o, hk, hdraining⟩ := h.outlet
  have hcourse : Event.flushAll j :: course k rounds (n + 1) =
      (.flushAll j :: course k rounds n) ++ (rounds n).events k := by
    rw [course_succ, List.cons_append]
  rcases round_cases hk hdraining honce with
    ⟨hgoes, hasked, houtlet, block, hanswered⟩ | ⟨hasked, before, last, hlast, hends⟩
  · left
    constructor
    · rw [hcourse, run_append]
      exact List.forall_mem_append.mpr ⟨h.goesOn, hgoes⟩
    · rw [hcourse, run_append, writesAsked_append, h.asked, hasked]
    · rw [hcourse, run_append, outletLedger_append]
      exact houtlet
    · rw [hcourse, outletLedger_append, hanswered, List.map_append, h.answers, List.range_succ]
      simp
  · right
    constructor
    · rw [hcourse, run_append, writesAsked_append, h.asked, hasked]
    · refine ⟨(s.run (.flushAll j :: course k rounds n)).2 ++ before, last, ?_, ?_⟩
      · rw [hcourse, run_append, hlast, List.append_assoc]
      · simpa [List.range_succ] using hends

/-- As long as the call is under way, there have been fewer answers than bytes and interruptions. -/
theorem UnderWay.lt {k : Nat} {queue : Bytes} (h : UnderWay s j k queue rounds n) :
    n < queue.length + (s.takenDuring k (.flushAll j :: course k rounds n)).length +
      interruptions rounds n := by
  obtain ⟨o, -, hdraining⟩ := h.outlet
  have hlt := hdraining.length_answered_lt
  have hanswers := h.answers
  have happended := appended_outletLedger s k { appended := queue }
    (.flushAll j :: course k rounds n)
  generalize s.outletLedger k { appended := queue } (.flushAll j :: course k rounds n) = l at *
  have hlength : l.answered.length = n := by simpa using congrArg List.length hanswers
  have hcount : (l.answered.countP fun x => x.2.isInterrupted) = interruptions rounds n := by
    have := congrArg (List.countP WriteAnswer.isInterrupted) hanswers
    rw [List.countP_map, List.countP_map] at this
    exact this
  rw [hlength, hcount, happended, List.length_append] at hlt
  exact hlt

/-- **Draining ends.** The call may find any queue and any count left behind by a panic. However its
writes are answered, and whatever happens while the connection writes: if no more than so many of
the writes are interrupted and no more than so many bytes are appended while it is under way, it
ends after at most as many writes as there are bytes and interruptions. -/
theorem flushAll_ends (hj : s.duplexes.get? j = some d) (ho : s.outlets.get? d.outlet = some o)
    (hidle : o.flight = none) (honce : ∀ m a, .writeDone d.outlet a ∉ (rounds m).during)
    {appended interrupted : ℕ}
    (hbounds : ∀ n, GoesOn d.outlet (s.run (.flushAll j :: course d.outlet rounds n)).2 →
      (s.takenDuring d.outlet (.flushAll j :: course d.outlet rounds n)).length ≤ appended ∧
        interruptions rounds n ≤ interrupted) :
    ∃ n ≤ o.queue.length + appended + interrupted, EndsAfter s j d.outlet rounds n := by
  by_cases hqueue : o.queue = []
  · refine ⟨0, Nat.zero_le _, ?_⟩
    obtain ⟨-, hvalue⟩ := flushFor_self ho (.drain 0)
    rw [Outlet.start_drain_of_empty hidle hqueue] at hvalue
    have hstep : s.step (.flushAll j) = s.flushFor d.outlet (.drain 0) := by simp [step, hj]
    constructor
    · have hover : asksWrite d.outlet (s.flushFor d.outlet (.drain 0)).value = false := by
        rw [hvalue]
        split <;> rfl
      simp [course, run, writesAsked, hstep, hover]
    · refine ⟨[], _, rfl, ?_⟩
      change EndsAs none (s.step (.flushAll j)).value
      rw [hstep, hvalue]
      split
      · exact .returns 0
      · exact .fails _
  · -- the call cannot be under way for as long as the bound allows
    have hcourse : ∀ n, UnderWay s j d.outlet o.queue rounds n ∨
        ∃ m ≤ n, EndsAfter s j d.outlet rounds m := by
      intro n
      induction n with
      | zero => exact Or.inl (underWay_zero hj ho hidle hqueue)
      | succ n ih =>
        rcases ih with h | ⟨m, hm, hends⟩
        · exact (underWay_succ h (honce n)).imp id fun hends => ⟨n + 1, le_rfl, hends⟩
        · exact Or.inr ⟨m, Nat.le_succ_of_le hm, hends⟩
    rcases hcourse (o.queue.length + appended + interrupted) with h | hends
    · obtain ⟨happended, hinterrupted⟩ := hbounds _ h.goesOn
      have hlt := h.lt
      omega
    · exact hends

end Course

/-- A duplex in which a panic has left two bytes counted, with two more to write. -/
def countLeftBehind : Session :=
  (({} : Session).run [.openDuplex 0 ⟨0, 0, 0, 1⟩ 0 {}, .append 0 [1, 2], .flushAll 0,
    .writeDone 0 (.panicked (.text "boom")), .append 0 [3, 4]]).1

/-- The first write is interrupted, with one more byte appended meanwhile. Then one byte is accepted
at a time. -/
def slowRounds : ℕ → Round
  | 0 => { during := [.append 0 [5]], answer := .failed (.plain .interrupted) }
  | _ + 1 => { answer := .accepted 1 }

theorem flushAll_ends_slowRounds : ∃ n ≤ 2 + 1 + 1, EndsAfter countLeftBehind 0 0 slowRounds n := by
  refine @flushAll_ends countLeftBehind 0 _ _ slowRounds rfl rfl rfl ?_ 1 1 fun n _ => ?_
  · rintro (_ | m) a <;> simp [slowRounds]
  · -- all that is appended and interrupted is in the first round
    have hfirst (n : ℕ) :
        countLeftBehind.takenDuring 0 (.flushAll 0 :: course 0 slowRounds (n + 1)) = [5] ∧
          interruptions slowRounds (n + 1) = 1 := by
      induction n with
      | zero => exact ⟨rfl, rfl⟩
      | succ n ih =>
        refine ⟨?_, ?_⟩
        · rw [course_succ, ← List.cons_append, takenDuring_append, ih.1]
          rfl
        · rw [interruptions, List.range_succ, List.countP_append]
          exact congrArg (· + 0) ih.2
    cases n with
    | zero => exact ⟨Nat.zero_le _, Nat.zero_le _⟩
    | succ n => exact ⟨(congrArg List.length (hfirst n).1).le, (hfirst n).2.le⟩

end Session

end Conduit

import Conduit.Proofs.Session.Finality
import Conduit.Proofs.Session.Logging
import Mathlib.Algebra.Ring.Nat
import Mathlib.Data.List.Induction
/-!
# When the end of a stream is known, and when it is told

Whether an inlet takes its stream to have ended is one flag, and two things set it: the owner marks
the end, or the connection answers a read with a count of zero. Here the flag is read off the
history of a run, whatever else the connection answered and whenever the end was marked, also while
a read was in progress.

A request asks for the flag only when nothing is buffered, so a byte that waits is never hidden by
it. The line that tells of the end is logged by the answer that sets the flag, so at most once, and
not at all if the end had been marked before that answer came.

## Main definitions

* `Conduit.ReadAnswer.isEnd`: an answer says that the stream has ended.
* `Conduit.Session.SawEnd`: in a run, the end of a stream was marked or seen.
* `Conduit.Session.MetEnd`: in a run, the end of a stream was seen before it was marked.
* `Conduit.Session.timesTold`: how often the records of a run tell of that end.
* `Conduit.Session.EndHistory`: what a run says about the end, and what follows for the next event.

## Main results

* `ended_step_iff`: what sets the flag.
* `ended_iff_sawEnd`: the flag is the history of the run.
* `timesTold_run`: the end is told at most once, when it was seen before it was marked.
* `end_history`: all of this after any run.
-/

namespace Conduit

/-- Whether an answer says that the stream has ended. No failure says so. -/
def ReadAnswer.isEnd : ReadAnswer → Bool
  | returned 0 _ => true
  | _ => false

namespace Inlet

theorem ended_make (connection : Nat) (release : Bool) (sizes : List Nat) :
    (make connection release sizes).ended = false := by
  have hfold : ∀ i : Inlet, (sizes.foldl withRecordSize i).ended = i.ended := by
    induction sizes with
    | nil => exact fun i => rfl
    | cons size rest ih =>
      intro i
      rw [List.foldl_cons, ih, withRecordSize]
      split <;> rfl
  exact hfold _

theorem ended_endPump (i : Inlet) (a : ReadAnswer) :
    (i.endPump a).1.ended = (i.ended || a.isEnd) := by
  rw [endPump_fst]
  cases a with
  | returned count written => cases count <;> simp [ReadAnswer.isEnd]
  | failed error => simp [ReadAnswer.isEnd]
  | panicked panic => simp [ReadAnswer.isEnd]

/-- An answer tells of the end if it says so and the end was not known by then. -/
theorem log_endPump_eq (i : Inlet) (a : ReadAnswer) :
    (i.endPump a).2.2 = if a.isEnd = true ∧ i.ended = false then [.streamEnded] else [] := by
  cases a with
  | returned count written =>
    cases count with
    | zero => cases h : i.ended <;> simp [endPump, delivered, ReadAnswer.isEnd, h]
    | succ n => simp [endPump, ReadAnswer.isEnd]
  | failed error => simp [endPump, ReadAnswer.isEnd]
  | panicked panic => simp [endPump, ReadAnswer.isEnd]

/-- As no room is empty, a pump comes to nothing just if the connection says that the stream has
ended. -/
theorem endPump_eq_zero_iff {i : Inlet} (h : 1 ≤ i.recordSize) (a : ReadAnswer) :
    (i.endPump a).2.1 = .value 0 ↔ a.isEnd = true := by
  rw [endPump_snd]
  cases a with
  | returned count written =>
    cases count with
    | zero => simp [ReadAnswer.isEnd]
    | succ n => simp [ReadAnswer.isEnd, Nat.ne_of_gt h]
  | failed error => simp [ReadAnswer.isEnd]
  | panicked panic => simp [ReadAnswer.isEnd]

namespace Ledger

theorem Agrees.isSome_room {l : Ledger} {i : Inlet} (h : l.Agrees i) :
    l.room.isSome = true ↔ i.reading = true := by
  rw [h.room]
  cases i.reading <;> simp

theorem answered_enter_of_ne {k : Nat} {event : Event} (h : ∀ a, event ≠ .readDone k a)
    (l : Ledger) (s : Session) (reply : Reply) :
    (l.enter s k event reply).answered = l.answered := by
  rw [enter, hear_of_ne h]
  unfold watch
  split
  · split <;> rfl
  · rfl

theorem answered_enter_readDone (l : Ledger) (s : Session) (k : Nat) (a : ReadAnswer)
    (reply : Reply) :
    (l.enter s k (.readDone k a) reply).answered =
      l.answered ++ l.room.toList.map fun room => (room, a) := by
  have hwatch : ∀ m : Ledger, (m.watch k reply).answered = m.answered := by
    intro m
    unfold watch
    split
    · split <;> rfl
    · rfl
  rw [enter, hwatch, hear_self]
  cases hroom : l.room <;> simp [settle, hand, hroom]

end Ledger

end Inlet

namespace Session

open Inlet (Ledger)

/-! ### The history of a run -/

/-- In a run, the end of the stream of the inlet under a key was marked, or seen: its connection
answered a read with a count of zero. -/
def SawEnd (s : Session) (k : Nat) (events : List Event) : Prop :=
  .markEnded k ∈ events ∨ ∃ x ∈ (s.inletLedger k {} events).answered, x.2.isEnd = true

/-- After a run, an event is the first to say that the stream has ended, and it is the answer to a
read. -/
def MeetsEnd (s : Session) (k : Nat) (before : List Event) (event : Event) : Prop :=
  (∃ a, event = .readDone k a ∧ a.isEnd = true) ∧ (s.inletLedger k {} before).room.isSome = true ∧
    ¬ s.SawEnd k before

/-- In a run, the end of the stream was seen before it was marked. -/
def MetEnd (s : Session) (k : Nat) (events : List Event) : Prop :=
  ∃ before event after, events = before ++ event :: after ∧ s.MeetsEnd k before event

/-- How often a record tells that the stream of the inlet under a key has ended. -/
def tells (k : Nat) (r : Record) : Nat :=
  match r.event with
  | .readDone j _ => if j = k then r.log.count .streamEnded else 0
  | _ => 0

/-- How often the records of a run tell that the stream of the inlet under a key has ended. -/
def timesTold (k : Nat) (records : List Record) : Nat := (records.map (tells k)).sum

variable {s : Session} {k : Nat} {i : Inlet}

theorem sawEnd_append (s : Session) (k : Nat) (events : List Event) (event : Event) :
    s.SawEnd k (events ++ [event]) ↔
      s.SawEnd k events ∨ event = .markEnded k ∨ ∃ a, event = .readDone k a ∧ a.isEnd = true ∧
        (s.inletLedger k {} events).room.isSome = true := by
  have hledger : s.inletLedger k {} (events ++ [event]) =
      (s.inletLedger k {} events).enter (s.run events).1 k event
        ((s.run events).1.step event).value := inletLedger_append s k {} events [event]
  unfold SawEnd
  rw [hledger]
  by_cases hevent : ∃ a, event = .readDone k a
  · obtain ⟨a, rfl⟩ := hevent
    rw [Ledger.answered_enter_readDone]
    cases (s.inletLedger k {} events).room <;> simp [or_and_right, exists_or, or_assoc]
  · have hne : ∀ a, event ≠ .readDone k a := fun a ha => hevent ⟨a, ha⟩
    rw [Ledger.answered_enter_of_ne hne]
    simp only [List.mem_append, List.mem_singleton, hne, false_and, exists_false, or_false]
    rw [or_right_comm, @eq_comm _ event]

theorem metEnd_append (s : Session) (k : Nat) (events : List Event) (event : Event) :
    s.MetEnd k (events ++ [event]) ↔ s.MetEnd k events ∨ s.MeetsEnd k events event := by
  constructor
  · rintro ⟨before, met, after, hsplit, hmeets⟩
    rcases List.eq_nil_or_concat after with rfl | ⟨init, last, rfl⟩
    · obtain ⟨rfl, hlast⟩ := List.append_inj' hsplit rfl
      cases hlast
      exact Or.inr hmeets
    · rw [List.concat_eq_append, ← List.cons_append, ← List.append_assoc] at hsplit
      exact Or.inl ⟨before, met, init, (List.append_inj' hsplit rfl).1, hmeets⟩
  · rintro (⟨before, met, after, rfl, hmeets⟩ | hmeets)
    · exact ⟨before, met, after ++ [event], by simp, hmeets⟩
    · exact ⟨events, event, [], rfl, hmeets⟩

theorem timesTold_append (k : Nat) (first second : List Record) :
    timesTold k (first ++ second) = timesTold k first + timesTold k second := by
  simp [timesTold]

/-! ### What sets the flag, and what tells of it -/

/-- **Nothing sets the flag but a mark and an answer that says so**, and nothing takes it back. -/
theorem ended_step_iff (hk : s.inlets.get? k = some i) (event : Event) :
    ∃ i', (s.step event).session.inlets.get? k = some i' ∧
      (i'.ended = true ↔ i.ended = true ∨ event = .markEnded k ∨
        ∃ a, event = .readDone k a ∧ a.isEnd = true ∧ i.reading = true) := by
  cases inbound_step hk event with
  | apart hget hgiven hcalls hanswer =>
    refine ⟨i, hget, ⟨Or.inl, ?_⟩⟩
    rintro (hended | rfl | ⟨a, rfl, -, hreading⟩)
    · exact hended
    · -- a mark is no event that leaves an inlet without one as it was
      simp only [step, hk, inlets_putInlet, Table.get?_put, if_pos, Option.some.injEq] at hget
      exact congrArg Inlet.ended hget.symm
    · simp [hanswer a rfl] at hreading
  | mark hget hgiven hcalls hanswer hevent =>
    exact ⟨_, hget, iff_of_true rfl (Or.inr (Or.inl hevent))⟩
  | take n hget hgiven hcalls hanswer =>
    refine ⟨_, hget, ⟨Or.inl, ?_⟩⟩
    rintro (hended | rfl | ⟨a, rfl, -, -⟩)
    · exact hended
    · simp only [step, hk, inlets_putInlet, Table.get?_put, if_pos, Option.some.injEq] at hget
      exact congrArg Inlet.ended hget.symm
    · exact absurd rfl (hanswer a)
  | pump hevent hreading hsize hget =>
    subst hevent
    exact ⟨_, hget, by simp⟩
  | answer a hevent hreading hget =>
    subst hevent
    refine ⟨_, hget, ?_⟩
    rw [Inlet.ended_endPump, Bool.or_eq_true]
    simp [hreading]

theorem log_readDone_eq (hk : s.inlets.get? k = some i) (a : ReadAnswer) :
    (s.step (.readDone k a)).log =
      if i.reading = true ∧ a.isEnd = true ∧ i.ended = false then [.streamEnded] else [] := by
  simp only [step]
  cases hreading : i.reading with
  | true =>
    rw [readDone_of_reading hk hreading]
    simp only [Inlet.log_endPump_eq, true_and]
  | false =>
    rw [readDone_of_idle hk hreading]
    simp

theorem tells_of_readDone (hk : s.inlets.get? k = some i) (a : ReadAnswer) :
    tells k ⟨.readDone k a, (s.step (.readDone k a)).value, (s.step (.readDone k a)).log⟩ =
      if i.reading = true ∧ a.isEnd = true ∧ i.ended = false then 1 else 0 := by
  simp only [tells, if_pos, log_readDone_eq hk a]
  split <;> rfl

theorem tells_of_ne {event : Event} (h : ∀ a, event ≠ .readDone k a) (reply : Reply)
    (log : List LogLine) : tells k ⟨event, reply, log⟩ = 0 := by
  unfold tells
  split
  · next j a hevent =>
    have hjk : ¬ j = k := by
      rintro rfl
      exact h a hevent
    rw [if_neg hjk]
  · rfl

/-! ### The flag is the history -/

/-- **An inlet takes its stream to have ended just if the end was marked or seen.** -/
theorem ended_iff_sawEnd {connection : Nat} {release : Bool} {sizes : List Nat}
    (hk : s.inlets.get? k = some (.make connection release sizes)) (events : List Event) :
    ∃ i, (s.run events).1.inlets.get? k = some i ∧ (s.inletLedger k {} events).Agrees i ∧
      (i.ended = true ↔ s.SawEnd k events) := by
  induction events using List.reverseRecOn with
  | nil =>
    refine ⟨_, hk, Ledger.agrees_make connection release sizes, ?_⟩
    simp [SawEnd, inletLedger, Inlet.ended_make]
  | append_singleton events event ih =>
    obtain ⟨i, hi, hagrees, hended⟩ := ih
    obtain ⟨i', hi', hstep⟩ := ended_step_iff hi event
    obtain ⟨i'', hi'', -, hagrees'⟩ := inlet_agrees_step hi hagrees event
    cases hi'.symm.trans hi''
    refine ⟨i', ?_, ?_, ?_⟩
    · rw [run_append]
      exact hi'
    · rw [inletLedger_append]
      exact hagrees'
    · rw [hstep, sawEnd_append, hended, hagrees.isSome_room]

/-- An event tells of the end just if it is the first to say so. -/
theorem tells_step {events : List Event} (hi : (s.run events).1.inlets.get? k = some i)
    (hagrees : (s.inletLedger k {} events).Agrees i) (hended : i.ended = true ↔ s.SawEnd k events)
    (event : Event) :
    let effect := (s.run events).1.step event
    tells k ⟨event, effect.value, effect.log⟩ ≤ 1 ∧
      (tells k ⟨event, effect.value, effect.log⟩ = 1 ↔ s.MeetsEnd k events event) := by
  intro effect
  by_cases hevent : ∃ a, event = .readDone k a
  · obtain ⟨a, rfl⟩ := hevent
    have hmeets : s.MeetsEnd k events (.readDone k a) ↔
        i.reading = true ∧ a.isEnd = true ∧ i.ended = false := by
      rw [MeetsEnd, hagrees.isSome_room, ← hended]
      simp [and_left_comm]
    rw [tells_of_readDone hi, hmeets]
    split
    · next hfirst => exact ⟨Nat.le_refl 1, iff_of_true rfl hfirst⟩
    · next hlate => exact ⟨Nat.zero_le 1, iff_of_false Nat.zero_ne_one hlate⟩
  · have hne : ∀ a, event ≠ .readDone k a := fun a ha => hevent ⟨a, ha⟩
    rw [tells_of_ne hne]
    refine ⟨Nat.zero_le 1, iff_of_false Nat.zero_ne_one ?_⟩
    rintro ⟨⟨a, ha, -⟩, -⟩
    exact hne a ha

theorem sawEnd_of_meetsEnd {events : List Event} {event : Event} (h : s.MeetsEnd k events event) :
    s.SawEnd k (events ++ [event]) := by
  obtain ⟨⟨a, hevent, hend⟩, hroom, -⟩ := h
  exact (sawEnd_append s k events event).mpr (Or.inr (Or.inr ⟨a, hevent, hend, hroom⟩))

/-- **The end is told at most once, and just if it was seen before it was marked.** -/
theorem timesTold_run {connection : Nat} {release : Bool} {sizes : List Nat}
    (hk : s.inlets.get? k = some (.make connection release sizes)) (events : List Event) :
    (s.MetEnd k events → s.SawEnd k events) ∧ timesTold k (s.run events).2 ≤ 1 ∧
      (timesTold k (s.run events).2 = 1 ↔ s.MetEnd k events) := by
  induction events using List.reverseRecOn with
  | nil =>
    have hnone : ¬ s.MetEnd k [] := by
      rintro ⟨before, event, after, hsplit, -⟩
      simp at hsplit
    exact ⟨fun h => absurd h hnone, Nat.zero_le 1, iff_of_false Nat.zero_ne_one hnone⟩
  | append_singleton events event ih =>
    obtain ⟨hsaw, hle, htold⟩ := ih
    obtain ⟨i, hi, hagrees, hended⟩ := ended_iff_sawEnd hk events
    obtain ⟨htells, hmeets⟩ := tells_step hi hagrees hended event
    have hrecord : timesTold k (s.run (events ++ [event])).2 = timesTold k (s.run events).2 +
        tells k ⟨event, ((s.run events).1.step event).value,
          ((s.run events).1.step event).log⟩ := by
      rw [run_append, timesTold_append]
      rfl
    -- whoever says it first finds that it has not been said
    have hfirst : s.MeetsEnd k events event → ¬ s.MetEnd k events :=
      fun h hmet => h.2.2 (hsaw hmet)
    rw [hrecord, metEnd_append]
    refine ⟨?_, ?_, ?_⟩
    · rintro (hmet | hnow)
      · exact (sawEnd_append s k events event).mpr (Or.inl (hsaw hmet))
      · exact sawEnd_of_meetsEnd hnow
    · by_cases hnow : s.MeetsEnd k events event
      · have := mt htold.mp (hfirst hnow)
        omega
      · have := mt hmeets.mp hnow
        omega
    · rw [← htold, ← hmeets]
      have hnot := fun h => mt htold.mp (hfirst (hmeets.mp h))
      omega

/-! ### What a run says about the end -/

/-- What a run says about the end of the stream of an inlet, and what follows for the next event. -/
structure EndHistory (s : Session) (k : Nat) (events : List Event) (i : Inlet) : Prop where
  /-- The inlet takes its stream to have ended just if the end was marked or seen. -/
  ended : i.ended = true ↔ s.SawEnd k events
  /-- That is never taken back. -/
  kept : s.SawEnd k events → ∀ later, ∃ i', (s.run (events ++ later)).1.inlets.get? k = some i' ∧
    i'.ended = true
  /-- What has arrived is what was handed on and what is buffered. -/
  balance : (s.inletLedger k {} events).handed ++ i.buffer = (s.inletLedger k {} events).arrived
  /-- A request is met from what is buffered, whether or not the stream has ended. -/
  ready : i.buffer ≠ [] → ∀ size, ((s.run events).1.step (.request k size)).value =
    .readiness (.ready (i.buffer.take size)) ∧ (i.buffer.take size).length = min size i.pending
  drained : i.buffer = [] → s.SawEnd k events → ∀ size,
    ((s.run events).1.step (.request k size)).value = .readiness .ended
  starved : i.buffer = [] → ¬ s.SawEnd k events → ∀ size,
    ((s.run events).1.step (.request k size)).value = .readiness .wouldBlock
  /-- A pump comes to no bytes just if the connection says that the stream has ended. -/
  nothing : i.reading = true → ∀ a, ((s.run events).1.step (.readDone k a)).value = .count 0 ↔
    a.isEnd = true
  /-- The end has been told at most once, and just if it was seen before it was marked. -/
  told : timesTold k (s.run events).2 ≤ 1 ∧ (timesTold k (s.run events).2 = 1 ↔ s.MetEnd k events)
  /-- Only the first answer that says so tells of the end, unless it has been marked by then. -/
  tells : ∀ event, .streamEnded ∈ ((s.run events).1.step event).log → ∃ j a, event = .readDone j a ∧
    (j = k → s.MeetsEnd k events event)

/-- **The end of a stream is known just if it was marked or seen, it is reported only where nothing
is left to read, and it is told at most once.** This holds after any run, whatever the connection
answers and whenever the end is marked. -/
theorem end_history {s : Session} {k connection : Nat} {release : Bool} {sizes : List Nat}
    (hk : s.inlets.get? k = some (.make connection release sizes)) (events : List Event) :
    ∃ i, (s.run events).1.inlets.get? k = some i ∧ s.EndHistory k events i := by
  obtain ⟨i, hi, hagrees, hended⟩ := ended_iff_sawEnd hk events
  obtain ⟨j, hj, hsize, -⟩ :=
    inlet_agrees_run hk (Ledger.agrees_make connection release sizes) events
  cases hi.symm.trans hj
  have hroom : 1 ≤ i.recordSize :=
    hsize ▸ Inlet.one_le_recordSize_make connection release sizes
  refine ⟨i, hi, ?_⟩
  constructor
  · exact hended
  · intro hsaw later
    rw [run_append]
    exact ended_run hi (hended.mpr hsaw) later
  · exact hagrees.balance
  · intro hbuffered size
    simp [step, hi, Inlet.request_of_buffered hbuffered, Inlet.pending]
  · intro hempty hsaw size
    simp [step, hi, Inlet.request_of_empty hempty, hended.mpr hsaw]
  · intro hempty hsaw size
    have hopen : i.ended = false := by simpa using mt hended.mp hsaw
    simp [step, hi, Inlet.request_of_empty hempty, hopen]
  · intro hreading a
    rw [← Inlet.endPump_eq_zero_iff hroom]
    simp only [step, readDone_of_reading hi hreading]
    cases (i.endPump a).2.1 <;> simp [Reply.ofOutcome]
  · exact (timesTold_run hk events).2
  · intro event hline
    have hcan := canLog_step (s.run events).1 event _ hline
    cases event with
    | readDone j a =>
      refine ⟨j, a, rfl, ?_⟩
      rintro rfl
      obtain ⟨-, hmeets⟩ := tells_step hi hagrees hended (.readDone j a)
      refine hmeets.mp ?_
      rw [log_readDone_eq hi] at hline
      rw [tells_of_readDone hi]
      split at hline
      · next hfirst => rw [if_pos hfirst]
      · simp at hline
    | _ => cases hcan

/-- A read finds nothing to deliver yet, one panics, one says that the stream has ended, and the
next says so again after the end has been marked as well. -/
def endedTwice : List Event :=
  [.pump 0, .readDone 0 (.failed (.plain .wouldBlock)), .pump 0,
    .readDone 0 (.panicked (.text "boom")), .pump 0, .readDone 0 (.returned 0 []), .pump 0,
    .markEnded 0, .readDone 0 (.returned 0 [])]

theorem end_history_endedTwice :
    ∃ i, (oneInlet.run endedTwice).1.inlets.get? 0 = some i ∧ i.ended = true ∧
      timesTold 0 (oneInlet.run endedTwice).2 = 1 ∧ oneInlet.MetEnd 0 endedTwice := by
  obtain ⟨i, hi, hhistory⟩ := @end_history oneInlet 0 0 false [4] rfl endedTwice
  have htold : timesTold 0 (oneInlet.run endedTwice).2 = 1 := by decide
  exact ⟨i, hi, hhistory.ended.mpr (Or.inl (by simp [endedTwice])), htold, hhistory.told.2.mp htold⟩

end Session

end Conduit

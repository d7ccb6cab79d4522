import Conduit.Proofs.Session.Starts
import Mathlib.Data.List.Forall2
/-!
# Giving up storage

An adapter may be told to give up its storage each time its buffer drains. Nobody who uses a session
can tell: whatever the choice, and whether it is the same in two runs or not, every operation has
the same outcome, every connection is offered the same, and every adapter holds the same bytes.

Storage is given up at three places: after a request, when a read has delivered nothing, and when a
flush lands. The last two come after a call to the connection, during which bytes may have been
taken or appended. They do no harm because each looks at the buffer as it is then, and fresh storage
takes the place of none but an empty one (`Conduit.Inlet.settle_eq`, `Conduit.Outlet.settle_eq`). So
each operation of an adapter commutes with the choice, and two sessions that differ in nothing but
such choices stay in step.

The text that shows an adapter with its fields tells the choice, and is no part of any reply.

## Main definitions

* `Conduit.Event.SameButStorage`: two events that may differ in whether storage is given up.
* `Conduit.Session.storageGap`: sessions that differ in nothing else.

## Main results

* `same_step_storageGap`: such events do the same in such sessions.
* `storage_unseen`: so do such runs, at every point.
-/

namespace Conduit

/-! ### Adapters -/

namespace Inlet

theorem beginPump_withReleaseBuffers (i : Inlet) (release : Bool) :
    (i.withReleaseBuffers release).beginPump =
      (i.beginPump.1.withReleaseBuffers release, i.beginPump.2) := by
  have hreading : (i.withReleaseBuffers release).reading = i.reading := rfl
  have hsize : (i.withReleaseBuffers release).recordSize = i.recordSize := rfl
  rw [beginPump, beginPump, hreading, hsize]
  split
  · rfl
  · split <;> rfl

theorem endPump_withReleaseBuffers (i : Inlet) (release : Bool) (a : ReadAnswer) :
    (i.withReleaseBuffers release).endPump a =
      ((i.endPump a).1.withReleaseBuffers release, (i.endPump a).2) := by
  cases a with
  | returned count written =>
    have harrived :
        delivered { i.withReleaseBuffers release with reading := false } (.returned count written) =
          delivered { i with reading := false } (.returned count written) := rfl
    simp only [endPump, harrived, settle_eq]
    split <;> split <;> rfl
  | failed error =>
    simp only [endPump, settle_eq]
    rfl
  | panicked panic => rfl

end Inlet

namespace Outlet

theorem begin_withReleaseBuffers (o : Outlet) (release : Bool) (purpose : Purpose) :
    (o.withReleaseBuffers release).begin purpose =
      ((o.begin purpose).1.withReleaseBuffers release, (o.begin purpose).2) := by
  have hqueue : (o.withReleaseBuffers release).queue = o.queue := rfl
  rw [begin, begin, hqueue]
  split <;> rfl

theorem drain_withReleaseBuffers (o : Outlet) (release : Bool) (total : Nat) :
    (o.withReleaseBuffers release).drain total =
      ((o.drain total).1.withReleaseBuffers release, (o.drain total).2) := by
  have hpending : (o.withReleaseBuffers release).pending = o.pending := rfl
  simp only [drain, hpending, begin_withReleaseBuffers]
  split
  · rfl
  · rcases o.begin (.drain total) with ⟨p, _ | block⟩ <;> rfl

theorem start_withReleaseBuffers (o : Outlet) (release : Bool) (purpose : Purpose) :
    (o.withReleaseBuffers release).start purpose =
      ((o.start purpose).1.withReleaseBuffers release, (o.start purpose).2) := by
  have hpending : (o.withReleaseBuffers release).pending = o.pending := rfl
  have hflight : (o.withReleaseBuffers release).flight = o.flight := rfl
  cases purpose with
  | drain total =>
    simp only [start, hpending, hflight, drain_withReleaseBuffers]
    split
    · rfl
    · split <;> rfl
  | single =>
    simp only [start, hflight, begin_withReleaseBuffers]
    split
    · rfl
    · rcases o.begin .single with ⟨p, _ | block⟩ <;> rfl
  | control =>
    simp only [start, hflight, begin_withReleaseBuffers]
    split
    · rfl
    · rcases o.begin .control with ⟨p, _ | block⟩ <;> rfl

theorem land_withReleaseBuffers (o : Outlet) (release : Bool) (block : Bytes) (a : WriteAnswer) :
    (o.withReleaseBuffers release).land block a =
      ((o.land block a).1.withReleaseBuffers release, (o.land block a).2) := by
  refine Prod.ext ?_ ?_
  · simp only [land_fst]
    rfl
  · simp only [land_snd]

theorem resume_withReleaseBuffers (o : Outlet) (release : Bool) (purpose : Purpose)
    (outcome : Outcome Nat) :
    (o.withReleaseBuffers release).resume purpose outcome =
      ((o.resume purpose outcome).1.withReleaseBuffers release, (o.resume purpose outcome).2) := by
  have hpending : (o.withReleaseBuffers release).pending = o.pending := rfl
  cases purpose with
  | drain total =>
    cases outcome with
    | value accepted =>
      simp only [resume, hpending, drain_withReleaseBuffers]
      split <;> rfl
    | failed error =>
      simp only [resume, drain_withReleaseBuffers]
      split <;> rfl
    | panicked panic => rfl
  | single => rfl
  | control => rfl

theorem answer_withReleaseBuffers (o : Outlet) (release : Bool) (a : WriteAnswer) :
    (o.withReleaseBuffers release).answer a =
      (o.answer a).map fun (o, rest) => (o.withReleaseBuffers release, rest) := by
  have hflight : (o.withReleaseBuffers release).flight = o.flight := rfl
  rw [answer, answer, hflight]
  cases o.flight with
  | none => rfl
  | some f =>
    simp only [Option.map_some, land_withReleaseBuffers, resume_withReleaseBuffers]

end Outlet

/-! ### Sessions -/

/-- Two events that are the same but for whether the adapters they make give up storage. -/
inductive Event.SameButStorage : Event → Event → Prop where
  | same (event : Event) : SameButStorage event event
  | openInlet (key connection : Nat) (release release' : Bool) (sizes : List Nat) :
      SameButStorage (.openInlet key connection release sizes)
        (.openInlet key connection release' sizes)
  | openOutlet (key connection : Nat) (release release' : Bool) :
      SameButStorage (.openOutlet key connection release) (.openOutlet key connection release')
  | openDuplex (key : Nat) (keys : DuplexKeys) (connection : Nat) (settings : Settings)
      (release : Bool) :
      SameButStorage (.openDuplex key keys connection settings)
        (.openDuplex key keys connection (settings.withReleaseBuffers release))

namespace Session

variable {s t : Session}

/-- The adapters of the two sessions may differ in whether they give up storage. -/
def storageGap : Gap where
  inlet _ i j := ∃ release, j = i.withReleaseBuffers release
  outlet _ o p := ∃ release, p = o.withReleaseBuffers release

theorem lawful_storageGap : storageGap.Lawful where
  buffer := by rintro k i _ ⟨release, rfl⟩; rfl
  ended := by rintro k i _ ⟨release, rfl⟩; rfl
  mark := by rintro k i _ ⟨release, rfl⟩; exact ⟨release, rfl⟩
  take := by rintro k i _ ⟨release, rfl⟩ n; exact ⟨release, rfl⟩
  append := by rintro k o _ ⟨release, rfl⟩ data; exact ⟨release, rfl⟩

theorem starts_storageGap (purpose : Purpose) : storageGap.Starts purpose := by
  rintro k o _ ⟨release, rfl⟩
  rw [Outlet.start_withReleaseBuffers]
  exact ⟨rfl, rfl, release, rfl⟩

theorem alike_storageGap_self (s : Session) : storageGap.Alike s s := by
  refine Gap.alike_of_adapters (s := s) (i := s.inlets) (j := s.inlets) (o := s.outlets)
    (p := s.outlets) (fun _ => id) (fun _ _ => id) (fun k => ?_) fun k => ?_
  · cases s.inlets.get? k with
    | none => exact .none
    | some i => exact .some ⟨i.releaseBuffers, rfl⟩
  · cases s.outlets.get? k with
    | none => exact .none
    | some o => exact .some ⟨o.releaseBuffers, rfl⟩

theorem evenEnds_storageGap (s : Session) (event : Event) : storageGap.EvenEnds s event :=
  Gap.evenEnds_of_adapters (fun _ => id) (fun _ => id) (fun _ _ => id) s event

/-- However adapters are made, the choice is the only difference. -/
theorem inlet_storageGap_make (k connection : Nat) (release release' : Bool) (sizes : List Nat) :
    storageGap.inlet k (.make connection release sizes) (.make connection release' sizes) := by
  have hfold : ∀ i : Inlet, sizes.foldl Inlet.withRecordSize (i.withReleaseBuffers release') =
      (sizes.foldl Inlet.withRecordSize i).withReleaseBuffers release' := by
    induction sizes with
    | nil => exact fun i => rfl
    | cons size rest ih =>
      intro i
      have hsize : (i.withReleaseBuffers release').withRecordSize size =
          (i.withRecordSize size).withReleaseBuffers release' := by
        simp only [Inlet.withRecordSize]
        split <;> rfl
      rw [List.foldl_cons, List.foldl_cons, hsize, ih]
  refine ⟨release', ?_⟩
  rw [Inlet.make, Inlet.make, ← hfold]
  rfl

theorem same_pump_storageGap (h : storageGap.Alike s t) (k : Nat) :
    storageGap.Same (s.pump k) (t.pump k) := by
  rw [pump, pump]
  rcases h.inlet_cases k with ⟨hs, ht⟩ | ⟨i, _, hs, ht, release, rfl⟩
  · rw [hs, ht]
    exact ⟨h, rfl, rfl⟩
  · rw [hs, ht]
    dsimp only
    rw [Inlet.beginPump_withReleaseBuffers]
    rcases hbegin : i.beginPump with ⟨i', _ | panic | room⟩
    · exact ⟨h, rfl, rfl⟩
    · exact ⟨h, rfl, rfl⟩
    · exact ⟨h.putInlet ⟨release, rfl⟩, rfl, rfl⟩

theorem same_readDone_storageGap (h : storageGap.Alike s t) (k : Nat) (a : ReadAnswer) :
    storageGap.Same (s.readDone k a) (t.readDone k a) := by
  rw [readDone, readDone]
  rcases h.inlet_cases k with ⟨hs, ht⟩ | ⟨i, _, hs, ht, release, rfl⟩
  · rw [hs, ht]
    exact ⟨h, rfl, rfl⟩
  · have hreading : (i.withReleaseBuffers release).reading = i.reading := rfl
    simp only [hs, ht, hreading, Inlet.endPump_withReleaseBuffers]
    split
    · exact ⟨h.putInlet ⟨release, rfl⟩, rfl, rfl⟩
    · exact ⟨h, rfl, rfl⟩

theorem same_writeDone_storageGap (h : storageGap.Alike s t) (k : Nat) (a : WriteAnswer) :
    storageGap.Same (s.writeDone k a) (t.writeDone k a) := by
  rw [writeDone, writeDone]
  rcases h.outlet_cases k with ⟨hs, ht⟩ | ⟨o, _, hs, ht, release, rfl⟩
  · rw [hs, ht]
    exact ⟨h, rfl, rfl⟩
  · simp only [hs, ht, Outlet.answer_withReleaseBuffers]
    cases o.answer a with
    | none => exact ⟨h, rfl, rfl⟩
    | some found =>
      obtain ⟨o', purpose, progress⟩ := found
      exact ⟨h.putOutlet ⟨release, rfl⟩, rfl, rfl⟩

/-- No event but one that pumps, flushes or answers looks at what the adapters differ in. -/
theorem evenAdapters_storageGap (s : Session) {event : Event} (hasks : event.asksFlush = false)
    (hpump : ∀ k, event ≠ .pump k) (hread : ∀ k a, event ≠ .readDone k a)
    (hwrite : ∀ k a, event ≠ .writeDone k a) : storageGap.EvenAdapters s event := by
  have hcontrol : ∀ c, c ≠ .flush → storageGap.EvenControl c := by
    intro c hc
    cases c with
    | writePending =>
      rintro k o _ ⟨release, rfl⟩
      rfl
    | flush => exact absurd rfl hc
    | _ => trivial
  cases event with
  | openInlet k => exact fun _ i => ⟨i.releaseBuffers, rfl⟩
  | openOutlet k => exact fun _ o => ⟨o.releaseBuffers, rfl⟩
  | openDuplex key keys =>
    exact ⟨fun _ i => ⟨i.releaseBuffers, rfl⟩, fun _ o => ⟨o.releaseBuffers, rfl⟩⟩
  | pump k => exact absurd rfl (hpump k)
  | readDone k a => exact absurd rfl (hread k a)
  | writeDone k a => exact absurd rfl (hwrite k a)
  | flush | flushAll => cases hasks
  | control | callControl => exact hcontrol _ (of_decide_eq_false hasks)
  | _ => trivial

/-- **Events that differ in nothing but such choices do the same.** -/
theorem same_step_storageGap (h : storageGap.Alike s t) {event event' : Event}
    (hevent : event.SameButStorage event') : storageGap.Same (s.step event) (t.step event') := by
  cases hevent with
  | same event =>
    have hends := evenEnds_storageGap s event
    cases hasks : event.asksFlush with
    | true =>
      exact Gap.same_step_of_starts h lawful_storageGap hasks (starts_storageGap event.purpose)
        hends
    | false =>
      -- what is left of the events that look into an adapter further than at what it holds
      cases event with
      | pump k => exact same_pump_storageGap h k
      | readDone k a => exact same_readDone_storageGap h k a
      | writeDone k a => exact same_writeDone_storageGap h k a
      | _ =>
        exact Gap.same_step h lawful_storageGap
          ⟨evenAdapters_storageGap s hasks (by simp) (by simp) (by simp), hends⟩
  | openInlet key connection release release' sizes =>
    simp only [step, ← h.contains_inlets]
    split
    · exact ⟨h, rfl, rfl⟩
    · exact ⟨h.putInlet (inlet_storageGap_make ..), rfl, rfl⟩
  | openOutlet key connection release release' =>
    simp only [step, ← h.contains_outlets]
    split
    · exact ⟨h, rfl, rfl⟩
    · exact ⟨h.putOutlet ⟨release', rfl⟩, rfl, rfl⟩
  | openDuplex key keys connection settings release =>
    exact Gap.same_opening h (evenEnds_storageGap s _)
      (fun _ => inlet_storageGap_make ..) fun _ => ⟨release, rfl⟩

/-! ### Runs -/

/-- Sessions that are alike show the same number of bytes that wait and the same ends. -/
theorem shown_storageGap (h : storageGap.Alike s t) (k : Nat) :
    (s.inlets.get? k).map (fun i => (i.pending, i.ended)) =
        (t.inlets.get? k).map (fun i => (i.pending, i.ended)) ∧
      (s.outlets.get? k).map Outlet.pending = (t.outlets.get? k).map Outlet.pending := by
  constructor
  · rcases h.inlet_cases k with ⟨hs, ht⟩ | ⟨i, _, hs, ht, release, rfl⟩
    · rw [hs, ht]
    · rw [hs, ht]
      rfl
  · rcases h.outlet_cases k with ⟨hs, ht⟩ | ⟨o, _, hs, ht, release, rfl⟩
    · rw [hs, ht]
    · rw [hs, ht]
      rfl

theorem same_run_storageGap (h : storageGap.Alike s t) {events events' : List Event}
    (hevents : List.Forall₂ Event.SameButStorage events events') :
    storageGap.Alike (s.run events).1 (t.run events').1 ∧
      List.Forall₂ (fun r r' => r.reply = r'.reply ∧ r.log = r'.log)
        (s.run events).2 (t.run events').2 := by
  induction hevents generalizing s t with
  | nil => exact ⟨h, .nil⟩
  | cons hevent _ ih =>
    obtain ⟨halike, hvalue, hlog⟩ := same_step_storageGap h hevent
    obtain ⟨hend, hrecords⟩ := ih halike
    exact ⟨hend, .cons ⟨hvalue, hlog⟩ hrecords⟩

/-- **Giving up storage is not seen.** Two runs whose events differ in nothing but whether adapters
give up storage, each adapter for itself, have the same replies, the calls to connections and what
they are offered among them, and the same logs. At every point the adapters hold the same bytes,
show the same counts and the same ends, and everything else is the same: endpoints with their flags,
duplexes, tokens. -/
theorem storage_unseen (h : storageGap.Alike s t) {events events' : List Event}
    (hevents : List.Forall₂ Event.SameButStorage events events') :
    List.Forall₂ (fun r r' => r.reply = r'.reply ∧ r.log = r'.log)
      (s.run events).2 (t.run events').2 ∧
    ∀ n, storageGap.Alike (s.run (events.take n)).1 (t.run (events'.take n)).1 ∧
      ∀ k, ((s.run (events.take n)).1.inlets.get? k).map (fun i => (i.pending, i.ended)) =
          ((t.run (events'.take n)).1.inlets.get? k).map (fun i => (i.pending, i.ended)) ∧
        ((s.run (events.take n)).1.outlets.get? k).map Outlet.pending =
          ((t.run (events'.take n)).1.outlets.get? k).map Outlet.pending := by
  refine ⟨(same_run_storageGap h hevents).2, fun n => ?_⟩
  have hcut := (same_run_storageGap h (List.forall₂_take n hevents)).1
  exact ⟨hcut, shown_storageGap hcut⟩

/-- A duplex of which the storage is given up or kept. The engine takes all that has arrived while a
read is in progress, a block is accepted whole while another is appended, and a write panics. -/
def drainedMeanwhile (release : Bool) : List Event :=
  [.openDuplex 0 ⟨0, 0, 0, 1⟩ 0 ⟨release, 4⟩, .pump 0, .readDone 0 (.returned 2 [1, 2]), .pump 0,
    .read 0 2 true, .readDone 0 (.returned 0 []), .append 0 [3, 4], .flushAll 0,
    .write 1 1 (some [5]), .writeDone 0 (.accepted 2), .writeDone 0 (.accepted 1), .append 0 [6],
    .control 1 11, .writeDone 0 (.panicked (.text "boom")), .close 0]

theorem storage_unseen_drainedMeanwhile :
    List.Forall₂ (fun r r' => r.reply = r'.reply ∧ r.log = r'.log)
      (({} : Session).run (drainedMeanwhile true)).2
      (({} : Session).run (drainedMeanwhile false)).2 := by
  refine (storage_unseen (alike_storageGap_self {}) ?_).1
  exact .cons (.openDuplex 0 ⟨0, 0, 0, 1⟩ 0 ⟨true, 4⟩ false)
    (List.forall₂_same.mpr fun event _ => .same event)

end Session

end Conduit

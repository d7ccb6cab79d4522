import Conduit.Proofs.Session.Joined
/-!
# The record size that is chosen

A record size can be chosen for an inlet while it is made, or for the settings from which a duplex
is opened. Either way several sizes may be chosen one after the other, and the last one counts; a
zero is no size. But the two ways treat a zero at different moments. An inlet passes over it when it
is chosen, so the size chosen before stays. Settings keep it, and only the inlet that is made from
them passes over it; by then the size chosen before is forgotten, and the default is in force.

So the two ways agree unless a zero comes last. Where one does, they agree only if the size before
it is the default anyway.

## Main definitions

* `Conduit.Settings.Change.sizes` and `sizesAll`: the sizes that a course of changes chooses.
* `Conduit.lastSize`, `Conduit.finalSize`: what a list of choices comes to on either way.
* `Conduit.Session.Offers`: the size of the rooms that an inlet offers, now and later.

## Main results

* `recordSize_make`, `recordSize_applyAll`: the size in force on either way.
* `offers_alike_iff`: when both ways offer the same.
* `zero_forgets_size`: a zero that comes last.
-/

namespace Conduit

/-- What a list of sizes comes to if a zero is passed over: the last one that is none. -/
def lastSize (sizes : List Nat) : Nat := (sizes.filter (· ≠ 0)).getLast?.getD defaultRecordSize

/-- What a list of sizes comes to if the last one counts, and a zero stands for the default. -/
def finalSize (sizes : List Nat) : Nat := (sizes.getLast?.filter (· ≠ 0)).getD defaultRecordSize

theorem lastSize_singleton (size : Nat) : lastSize [size] = finalSize [size] := by
  by_cases h : size = 0 <;> simp [lastSize, finalSize, Option.filter, h]

/-- The two differ only if a zero comes last. -/
theorem finalSize_eq_iff (sizes : List Nat) : finalSize sizes = lastSize sizes ↔
    (sizes.getLast? = some 0 → lastSize sizes = defaultRecordSize) := by
  rcases List.eq_nil_or_concat sizes with rfl | ⟨before, last, rfl⟩
  · simp [finalSize, lastSize]
  · by_cases hlast : last = 0
    · simp [finalSize, Option.filter, hlast, eq_comm]
    · simp [finalSize, lastSize, Option.filter, hlast]

/-- Where the two differ, the default is in force. -/
theorem finalSize_eq_or (sizes : List Nat) :
    finalSize sizes = lastSize sizes ∨ finalSize sizes = defaultRecordSize := by
  by_cases hlast : sizes.getLast? = some 0
  · exact Or.inr (by simp [finalSize, Option.filter, hlast])
  · exact Or.inl ((finalSize_eq_iff sizes).mpr fun h => absurd h hlast)

namespace Inlet

/-- An inlet has the last size that was chosen for it and is no zero. -/
theorem recordSize_make (connection : Nat) (release : Bool) (sizes : List Nat) :
    (make connection release sizes).recordSize = lastSize sizes := by
  have hfold : ∀ i : Inlet, (sizes.foldl withRecordSize i).recordSize =
      (sizes.filter (· ≠ 0)).getLast?.getD i.recordSize := by
    induction sizes with
    | nil => exact fun i => rfl
    | cons size rest ih =>
      intro i
      rw [List.foldl_cons, ih, withRecordSize]
      by_cases hsize : size = 0
      · simp [hsize]
      · simp [hsize, List.getLast?_cons]
  exact hfold _

theorem reading_make (connection : Nat) (release : Bool) (sizes : List Nat) :
    (make connection release sizes).reading = false := by
  simpa using (Ledger.agrees_make connection release sizes).room

end Inlet

namespace Settings

/-- The record size of settings after a list of choices, the last of which counts. -/
def Chosen (s : Settings) (sizes : List Nat) : Prop :=
  s.recordSize = sizes.getLast?.getD defaultRecordSize

theorem chosen_default : ({} : Settings).Chosen [] := rfl

theorem chosen_withRecordSize (s : Settings) (before : List Nat) (size : Nat) :
    (s.withRecordSize size).Chosen (before ++ [size]) := by
  simp [Chosen, withRecordSize]

namespace Change

mutual

/-- The sizes that have been chosen after a step, given those chosen before. Starting over takes all
choices back; a branch that is not taken chooses nothing. -/
def sizes (before : List Nat) : Change → List Nat
  | release _ => before
  | recordSize value => before ++ [value]
  | reset => []
  | guarded condition steps => if condition then sizesAll before steps else before
  | sized none _ => before
  | sized (some value) steps => sizesAll (before ++ [value]) steps

/-- The sizes that have been chosen after a list of steps. -/
def sizesAll (before : List Nat) : List Change → List Nat
  | [] => before
  | step :: rest => sizesAll (sizes before step) rest

end

/-- A step under a condition is taken by `Settings.when`. -/
theorem apply_guarded_fst (s : Settings) (condition : Bool) (steps : List Change) :
    (apply s (.guarded condition steps)).1 = s.when condition fun s => (applyAll s steps).1 := by
  cases condition <;> simp [apply, «when»]

/-- A step with a value is taken by `Settings.whenSome`. -/
theorem apply_sized_fst (s : Settings) (value : Option Nat) (steps : List Change) :
    (apply s (.sized value steps)).1 =
      s.whenSome value fun s size => (applyAll (s.withRecordSize size) steps).1 := by
  cases value <;> simp [apply, whenSome]

mutual

theorem chosen_apply {s : Settings} {before : List Nat} (h : s.Chosen before) (step : Change) :
    (apply s step).1.Chosen (sizes before step) := by
  cases step with
  | release value => exact h
  | recordSize value => exact chosen_withRecordSize s before value
  | reset => rfl
  | guarded condition steps =>
    cases condition with
    | false => simpa [apply_guarded_fst, «when», sizes] using h
    | true => simpa [apply_guarded_fst, «when», sizes] using chosen_applyAll h steps
  | sized value steps =>
    cases value with
    | none => simpa [apply_sized_fst, whenSome, sizes] using h
    | some value =>
      simpa [apply_sized_fst, whenSome, sizes] using
        chosen_applyAll (chosen_withRecordSize s before value) steps

theorem chosen_applyAll {s : Settings} {before : List Nat} (h : s.Chosen before)
    (steps : List Change) : (applyAll s steps).1.Chosen (sizesAll before steps) := by
  cases steps with
  | nil => exact h
  | cons step rest => simpa [applyAll, sizesAll] using chosen_applyAll (chosen_apply h step) rest

end

end Change

/-- The inlet that is made from settings passes over a zero, and has the default then. -/
theorem recordSize_make_of_chosen {s : Settings} {sizes : List Nat} (h : s.Chosen sizes)
    (connection : Nat) (release : Bool) :
    (Inlet.make connection release [s.recordSize]).recordSize = finalSize sizes := by
  rw [Inlet.recordSize_make, lastSize_singleton, h]
  cases hlast : sizes.getLast? with
  | none => simp [finalSize, Option.filter, hlast, defaultRecordSize]
  | some last => simp [finalSize, hlast]

end Settings

/-! ### What connections are offered -/

namespace Session

/-- What a pump comes to that offers a room of that size, if storage can be found for it. -/
def offered (k connection size : Nat) : Reply :=
  if size ≤ largestRoom then .calls (.read k connection (emptyRoom size))
  else .panicked (.text "capacity overflow")

/-- Two sizes offer the same just if they are the same or there is no storage for either. -/
theorem offered_eq_iff {k connection m n : Nat} : offered k connection n = offered k connection m ↔
    n = m ∨ largestRoom < n ∧ largestRoom < m := by
  by_cases hn : n ≤ largestRoom <;> by_cases hm : m ≤ largestRoom <;>
    simp [offered, emptyRoom, hn, hm] <;> omega

/-- Every pump of the inlet under a key, now or at any later time, offers its connection a room of
that size, unless an earlier one has not finished. -/
def Offers (s : Session) (k size : Nat) : Prop :=
  ∀ events, ∃ i, (s.run events).1.inlets.get? k = some i ∧
    ((s.run events).1.step (.pump k)).value =
      if i.reading then .busy else offered k i.connection size

theorem offers_make {s : Session} {k connection : Nat} {release : Bool} {sizes : List Nat}
    (hk : s.inlets.get? k = some (.make connection release sizes)) :
    s.Offers k (Inlet.make connection release sizes).recordSize := by
  intro events
  obtain ⟨i, hget, hsize, -⟩ :=
    inlet_agrees_run hk (Inlet.Ledger.agrees_make connection release sizes) events
  refine ⟨i, hget, ?_⟩
  rw [← hsize]
  rcases pump_cases hget with ⟨hbusy, hpump⟩ | ⟨hidle, hlarge, hpump⟩ | ⟨hidle, hsize, hpump⟩
  · simp [step, hpump, hbusy]
  · simp [step, hpump, hidle, offered, Nat.not_le.mpr hlarge]
  · simp [step, hpump, hidle, offered, hsize]

/-- Settings that were changed from the default ones offer what their last choice comes to. -/
theorem offers_of_openDuplex {s t : Session} {key connection : Nat} {keys : DuplexKeys}
    {steps : List Settings.Change} {r w : Token} {log : List LogLine}
    (h : s.step (.openDuplex key keys connection (Settings.Change.applyAll {} steps).1) =
      ⟨t, .tokens r w, log⟩) :
    ∃ i, t.inlets.get? keys.inlet = some i ∧ i.reading = false ∧
      t.Offers keys.inlet (finalSize (Settings.Change.sizesAll [] steps)) := by
  have hget := (adapters_of_opened (congrArg Effect.value h)).1
  rw [h] at hget
  refine ⟨_, hget, Inlet.reading_make .., ?_⟩
  have hchosen : (Settings.Change.applyAll {} steps).1.Chosen (Settings.Change.sizesAll [] steps) :=
    Settings.Change.chosen_applyAll Settings.chosen_default steps
  rw [← Settings.recordSize_make_of_chosen hchosen]
  exact offers_make hget

/-- An inlet that is opened by itself offers the last size that is no zero. -/
theorem offers_of_openInlet {s t : Session} {k connection : Nat} {release : Bool} {sizes : List Nat}
    {log : List LogLine} (h : s.step (.openInlet k connection release sizes) = ⟨t, .done, log⟩) :
    ∃ i, t.inlets.get? k = some i ∧ i.reading = false ∧ t.Offers k (lastSize sizes) := by
  have hget : t.inlets.get? k = some (.make connection release sizes) := by
    simp only [step] at h
    split at h
    · cases h
    · cases h
      simp
  refine ⟨_, hget, Inlet.reading_make .., ?_⟩
  rw [← Inlet.recordSize_make connection release]
  exact offers_make hget

/-- An inlet that is not reading shows what it offers with its next pump. -/
theorem Offers.iff {s : Session} {k m : Nat} {i : Inlet} (h : s.Offers k m)
    (hk : s.inlets.get? k = some i) (hidle : i.reading = false) (n : Nat) :
    s.Offers k n ↔ n = m ∨ largestRoom < n ∧ largestRoom < m := by
  rw [← @offered_eq_iff k i.connection]
  constructor
  · intro h'
    obtain ⟨_, hget, hm⟩ := h []
    obtain ⟨_, hget', hn⟩ := h' []
    cases hget.symm.trans hk
    cases hget'.symm.trans hk
    rw [hidle] at hm hn
    exact hn.symm.trans hm
  · intro heq events
    obtain ⟨i', hget, hm⟩ := h events
    exact ⟨i', hget, by rw [hm, offered_eq_iff.mpr (offered_eq_iff.mp heq)]⟩

/-- **A duplex and an inlet agree on the record size unless a zero is chosen last** and a size other
than the default was chosen before it. The last size that is no zero is in force for the inlet. For
the duplex, whose settings were changed from the default ones, it is the last size of all, or the
default if that is zero. -/
theorem offers_alike_iff {s t duplex reader : Session} {key connection k c : Nat}
    {keys : DuplexKeys} {steps : List Settings.Change} {release : Bool} {r w : Token}
    {log log' : List LogLine} {sizes : List Nat}
    (hsizes : Settings.Change.sizesAll [] steps = sizes)
    (hduplex : s.step (.openDuplex key keys connection (Settings.Change.applyAll {} steps).1) =
      ⟨duplex, .tokens r w, log⟩)
    (hreader : t.step (.openInlet k c release sizes) = ⟨reader, .done, log'⟩) :
    duplex.Offers keys.inlet (finalSize sizes) ∧ reader.Offers k (lastSize sizes) ∧
      ((∀ n, duplex.Offers keys.inlet n ↔ reader.Offers k n) ↔
        (sizes.getLast? = some 0 → lastSize sizes = defaultRecordSize)) := by
  obtain ⟨i, hget, hidle, hfinal⟩ := offers_of_openDuplex hduplex
  obtain ⟨i', hget', hidle', hlast⟩ := offers_of_openInlet hreader
  rw [hsizes] at hfinal
  refine ⟨hfinal, hlast, ?_⟩
  simp only [hfinal.iff hget hidle, hlast.iff hget' hidle']
  rw [← finalSize_eq_iff]
  constructor
  · intro halike
    rcases (halike (finalSize sizes)).mp (Or.inl rfl) with heq | ⟨hlarge, -⟩
    · exact heq
    · -- no zero came last, since there is storage for the default
      have hdefault : finalSize sizes ≠ defaultRecordSize :=
        Nat.ne_of_gt (Nat.lt_trans (by decide) hlarge)
      exact (finalSize_eq_or sizes).resolve_right hdefault
  · intro heq n
    rw [heq]

/-- A record size, another one in a branch, and a zero before the next. -/
def zeroBetween : List Settings.Change :=
  [.recordSize 5, .sized (some 7) [.release true, .recordSize 0], .guarded true [.recordSize 3]]

theorem offers_alike_zeroBetween :
    let duplex := (({} : Session).step
      (.openDuplex 0 ⟨0, 0, 0, 1⟩ 0 (Settings.Change.applyAll {} zeroBetween).1)).session
    let reader := (({} : Session).step (.openInlet 0 0 false [5, 7, 0, 3])).session
    duplex.Offers 0 3 ∧ reader.Offers 0 3 ∧ ∀ n, duplex.Offers 0 n ↔ reader.Offers 0 n := by
  have h := @offers_alike_iff {} {} _ _ 0 0 0 0 ⟨0, 0, 0, 1⟩ zeroBetween false ⟨0⟩ ⟨0⟩ _ _
    [5, 7, 0, 3] (by simp [zeroBetween, Settings.Change.sizesAll, Settings.Change.sizes]) rfl rfl
  exact ⟨h.1, h.2.1, h.2.2.mpr (by simp)⟩

/-- A zero that comes last takes the size before it back from a duplex, and from an inlet it does
not. -/
theorem zero_forgets_size :
    let changes : List Settings.Change := [.recordSize 5, .recordSize 0]
    let duplex := (({} : Session).step
      (.openDuplex 0 ⟨0, 0, 0, 1⟩ 0 (Settings.Change.applyAll {} changes).1)).session
    let reader := (({} : Session).step (.openInlet 0 0 false [5, 0])).session
    Settings.Change.sizesAll [] changes = [5, 0] ∧
      (duplex.step (.pump 0)).value = .calls (.read 0 0 (emptyRoom 16384)) ∧
      (reader.step (.pump 0)).value = .calls (.read 0 0 (emptyRoom 5)) :=
  ⟨rfl, rfl, rfl⟩

end Session

end Conduit

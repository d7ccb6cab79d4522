import Conduit.Proofs.Session.Logging
import Conduit.Proofs.Session.Turns
/-!
# Callbacks return, and what they report

The engine cannot take a panic, so whatever happens under a callback, the engine gets a return
value. The only calls of the engine that lead to code of a connection are flushes. Every other call
returns in the event that makes it, whatever connections are at work at that time. A flush takes its
turn on the outlet, and returns when it has had it.

Only calls for which there is a callback are meant. An endpoint made for one side has no callback
for the other, and without the tables of a side its callbacks cannot be called at all. What the
engine does then is its own affair and outside this library.

A panic of a connection reaches a callback only through the write of a flush. It is met there: the
flush returns minus one and reports the panic in one line. As no other line is an error, an error in
the log can be traced back to the flush.

## Main definitions

* `Conduit.Session.runsCallback`: the events in which callbacks run.
* `Conduit.Session.AskedByEngine`: the engine has asked for a flush and offered a block.

## Main results

* `returned_or_turn`: a callback returns, or it is a flush and takes its turn.
* `reported`: an error in the log is a panic of a write that the engine asked for.
-/

namespace Conduit

/-- Whether a call has returned, neither waiting nor by a panic. A call for which there is no
callback or no object has not even been made. -/
def Reply.returned : Reply → Bool
  | .done => true
  | .count _ => true
  | .failed _ => true
  | .transfer _ => true
  | .code _ => true
  | _ => false

namespace Session

variable {s : Session} {e k : Nat} {o : Outlet}

/-! ### Calls for which there is a callback -/

theorem returned_or_turn_control (hruns : s.endpoints.contains e = true) (number : Int) :
    (s.step (.control e number)).value.returned = true ∨
      number = 11 ∧ ∃ k o, s.outletAt? e = some (k, o) ∧
        s.step (.control e number) = s.turn k := by
  obtain ⟨b, hb⟩ := Table.contains_iff.mp hruns
  cases hform : b.form with
  | adapter side =>
    by_cases hflushes : s.flushes side (some e) number
    · obtain ⟨rfl, rfl, hattached⟩ := hflushes
      obtain ⟨⟨k, o⟩, ho⟩ := Option.ne_none_iff_exists'.mp hattached
      exact Or.inr ⟨rfl, k, o, ho, step_control_eq_turn hb hform ho⟩
    · obtain ⟨n, hn⟩ := step_control_of_not_flushes hb hform hflushes
      rw [hn]
      exact Or.inl rfl
  | memory memory =>
    simp only [step, control, hb, hform]
    exact Or.inl rfl
  | scripted script =>
    simp only [step, control, hb, hform]
    exact Or.inl rfl

theorem returned_or_turn_callControl {side : Side} (hruns : s.hasCallbacks side = true)
    (e : Option Nat) (number : Int) :
    (s.step (.callControl side e number)).value.returned = true ∨
      ∃ j k o, side = .outbound ∧ e = some j ∧ number = 11 ∧ s.outletAt? j = some (k, o) ∧
        s.step (.callControl side e number) = s.turn k := by
  by_cases hflushes : s.flushes side e number
  · obtain ⟨rfl, rfl, hattached⟩ := hflushes
    obtain ⟨⟨k, o⟩, hfound⟩ := Option.ne_none_iff_exists'.mp hattached
    obtain ⟨j, rfl, ho⟩ := Option.bind_eq_some_iff.mp hfound
    exact Or.inr ⟨j, k, o, rfl, rfl, rfl, ho, step_callControl_eq_turn hruns ho⟩
  · simp only [step, hruns, if_true]
    cases side with
    | inbound => exact Or.inl rfl
    | outbound =>
      obtain ⟨n, hn⟩ := onWriteControl_of_not_flushes hflushes
      rw [hn]
      exact Or.inl rfl

theorem level_eq_error_iff {line : LogLine} :
    line.level = "ERROR" ↔ ∃ panic, line = .flushPanicked panic := by
  cases line <;> simp [LogLine.level]

/-- A flush that the engine asks for has nothing to report when it starts. -/
theorem log_onWriteControl_eq_nil (s : Session) (e : Option Nat) (c : Control) :
    (s.onWriteControl e c).log = [] := by
  cases c with
  | flush =>
    simp only [onWriteControl, startFlush]
    split
    · rfl
    · next found o _ =>
      rcases start_cases o with ⟨-, hstart⟩ | ⟨-, -, hstart⟩ | ⟨-, -, hstart⟩
      · rw [hstart .control (by simp)]
      · rw [hstart .control (by simp)]
        rfl
      · rw [hstart .control (by simp)]
  | _ => rfl

/-- An answer that is reported as an error is a panic, and the engine gets to know of it. -/
theorem panic_of_writeDone {a : WriteAnswer} {panic : Panic}
    (h : .flushPanicked panic ∈ (s.writeDone k a).log) :
    a = .panicked panic ∧ (s.writeDone k a).value = .code (-1) ∧
      (s.writeDone k a).log = [.flushPanicked panic] ∧
      ∃ o block, s.outlets.get? k = some o ∧ o.flight = some ⟨block, .control⟩ := by
  cases hk : s.outlets.get? k with
  | none => simp [writeDone, hk] at h
  | some o =>
    cases hflight : o.flight with
    | none => simp [writeDone_of_idle hk hflight] at h
    | some f =>
      obtain ⟨block, purpose⟩ := f
      cases purpose with
      | single | drain total =>
        exfalso
        simp only [writeDone, hk, Outlet.answer, hflight, Option.map_some] at h
        rcases hresume : (o.land block a).1.resume _ (o.land block a).2 with ⟨o', progress⟩
        rw [hresume] at h
        cases progress <;> simp [Reply.ofFlush] at h
      | control =>
        have hdone : s.writeDone k a = _ := step_writeDone hk hflight (by simp) a
        rw [hdone] at h ⊢
        rw [Outlet.land_snd] at h ⊢
        cases a with
        | accepted | failed => simp [Reply.ofFlush, flushCode] at h
        | panicked panic' =>
          simp only [Reply.ofFlush, flushCode, List.mem_singleton, LogLine.flushPanicked.injEq] at h
          subst h
          exact ⟨rfl, rfl, rfl, o, block, rfl, hflight⟩

/-- **An error in the log is a panic of a write**, and the flush that the write is part of returns
minus one and reports nothing else. -/
theorem panic_of_error {event : Event} {line : LogLine} (hline : line ∈ (s.step event).log)
    (herror : line.level = "ERROR") :
    ∃ k panic, line = .flushPanicked panic ∧ event = .writeDone k (.panicked panic) ∧
      (s.step event).value = .code (-1) ∧ (s.step event).log = [.flushPanicked panic] ∧
      ∃ o block, s.outlets.get? k = some o ∧ o.flight = some ⟨block, .control⟩ := by
  obtain ⟨panic, rfl⟩ := level_eq_error_iff.mp herror
  have hcan := canLog_step s event _ hline
  cases event with
  | writeDone k a =>
    obtain ⟨rfl, hvalue, hlog, houtlet⟩ := panic_of_writeDone hline
    exact ⟨k, panic, rfl, rfl, hvalue, hlog, houtlet⟩
  | control e number =>
    exfalso
    simp only [step, control] at hline
    cases hb : s.endpoints.get? e with
    | none => simp [hb] at hline
    | some b =>
      cases hform : b.form with
      | adapter side => cases side <;> simp [hb, hform, log_onWriteControl_eq_nil] at hline
      | _ => simp [hb, hform] at hline
  | callControl side e number =>
    exfalso
    simp only [step] at hline
    split at hline
    · cases side <;> simp [log_onWriteControl_eq_nil] at hline
    · simp at hline
  | _ => cases hcan

/-! ### Where a write comes from -/

theorem isFlushOf_of_calls {number : Int} {call : Call}
    (hcalls : (s.step (.control e number)).value = .calls call) :
    isFlushOf e (.control e number) := by
  have hruns : s.endpoints.contains e = true := by
    by_contra hnone
    have hb : s.endpoints.get? e = none := by simpa [Table.contains] using hnone
    simp [step, control, hb] at hcalls
  rcases returned_or_turn_control hruns number with hreturned | ⟨rfl, -⟩
  · rw [hcalls] at hreturned
    cases hreturned
  · exact Or.inl rfl

theorem exists_isFlushOf_of_calls {side : Side} {e : Option Nat} {number : Int} {call : Call}
    (hcalls : (s.step (.callControl side e number)).value = .calls call) :
    ∃ j, isFlushOf j (.callControl side e number) := by
  have hruns : s.hasCallbacks side = true := by
    by_contra hnone
    simp [step, hnone] at hcalls
  rcases returned_or_turn_callControl hruns e number with hreturned | ⟨j, -, -, rfl, rfl, rfl, -⟩
  · rw [hcalls] at hreturned
    cases hreturned
  · exact ⟨j, Or.inr rfl⟩

/-- A write that is asked for is part of a flush by the owner, of draining, or of a flush by the
engine; or draining goes on. -/
theorem asked_of_calls_write {event : Event} {c : Nat} {block : Bytes}
    (hcalls : (s.step event).value = .calls (.write k c block)) :
    event = .flush k ∨ (∃ j, event = .flushAll j) ∨ (∃ a, event = .writeDone k a) ∨
      ∃ e, isFlushOf e event := by
  cases event with
  | flush j =>
    refine Or.inl ?_
    by_contra hne
    exact (flushFor_of_ne (s := s) (fun hjk => hne (by rw [hjk])) .single).2 c block hcalls
  | flushAll j => exact Or.inr (Or.inl ⟨j, rfl⟩)
  | writeDone j a =>
    refine Or.inr (Or.inr (Or.inl ⟨a, ?_⟩))
    by_contra hne
    exact (writeDone_of_ne (s := s) (fun hjk => hne (by rw [hjk])) a).2 c block hcalls
  | control e number => exact Or.inr (Or.inr (Or.inr ⟨e, isFlushOf_of_calls hcalls⟩))
  | callControl => exact Or.inr (Or.inr (Or.inr (exists_isFlushOf_of_calls hcalls)))
  | openOutlet | append | write | callWrite | streamWrite | streamWriteAll =>
    exfalso
    simp only [step] at hcalls
    split at hcalls <;> cases hcalls
  | openDuplex key d connection settings =>
    exfalso
    simp only [step] at hcalls
    split at hcalls
    · cases hcalls
    · split at hcalls <;> cases hcalls
  | _ => exact absurd hcalls ((step_of_not_outbound rfl s).2 k c block)

/-! ### Outlets that are made -/

theorem get?_outlets_putOutlet_of_absent (hk : s.outlets.get? k = none) {j : Nat} {p : Outlet}
    (hj : s.outlets.get? j = some p) (p' : Outlet) : (s.putOutlet j p').outlets.get? k = none := by
  have hkj : k ≠ j := by
    rintro rfl
    cases hk.symm.trans hj
  simp [hkj, hk]

theorem absent_onWrite (hk : s.outlets.get? k = none) (e : Nat) (size : Int)
    (buffer : Option Bytes) : (s.onWrite e size buffer).session.outlets.get? k = none := by
  rw [onWrite]
  simp only [outletAt?_modifyFlags]
  cases hfound : s.outletAt? e with
  | none => simpa using hk
  | some found =>
    have hj := (outletAt?_eq_some_iff.mp hfound).2
    cases checkBuffer size buffer.isSome with
    | error reason => simpa using hk
    | ok n => exact get?_outlets_putOutlet_of_absent (s := s.modifyFlags e _) hk hj _

theorem absent_write (hk : s.outlets.get? k = none) {size : Int} {buffer : Option Bytes}
    {effect : Effect Int} (h : s.write e size buffer = some effect) :
    effect.session.outlets.get? k = none := by
  rw [write] at h
  split at h
  · cases h
  · split at h
    · split at h
      · cases h
        exact hk
      · cases h
        rw [dispatchWrite]
        split
        · exact absent_onWrite hk _ _ _
        · split <;> simpa using hk
        · simpa using hk
    · cases h

theorem absent_streamWrite (hk : s.outlets.get? k = none) {data : Bytes}
    {effect : Effect (Except IoError Nat)} (h : s.streamWrite e data = some effect) :
    effect.session.outlets.get? k = none :=
  (keeps_streamWrite (P := fun t => t.outlets.get? k = none) (Q := fun _ => True) hk
    (fun hwrite => ⟨absent_write hk hwrite, by simp⟩) h).session

theorem absent_streamWriteAll (hk : s.outlets.get? k = none) {data : Bytes}
    {effect : Effect (Except IoError Unit)} (h : s.streamWriteAll e data = some effect) :
    effect.session.outlets.get? k = none :=
  (keeps_streamWriteAll (P := fun t => t.outlets.get? k = none) (Q := fun _ => True)
    (fun ht _ _ _ hwrite => ⟨absent_write ht hwrite, by simp⟩) hk h).session

theorem absent_onWriteControl (hk : s.outlets.get? k = none) (e : Option Nat) (c : Control) :
    (s.onWriteControl e c).session.outlets.get? k = none := by
  cases c with
  | flush =>
    cases hfound : e.bind s.outletAt? with
    | none => simpa [onWriteControl, hfound] using hk
    | some found =>
      obtain ⟨e, rfl, he⟩ := Option.bind_eq_some_iff.mp hfound
      rw [(onWriteControl_flush hfound).1]
      exact get?_outlets_putOutlet_of_absent hk (outletAt?_eq_some_iff.mp he).2 _
  | _ => exact hk

theorem absent_flushFor (hk : s.outlets.get? k = none) (j : Nat) (purpose : Purpose) :
    (s.flushFor j purpose).session.outlets.get? k = none := by
  rw [flushFor]
  cases hj : s.outlets.get? j with
  | none => exact hk
  | some p => exact get?_outlets_putOutlet_of_absent hk hj _

theorem absent_writeDone (hk : s.outlets.get? k = none) (j : Nat) (a : WriteAnswer) :
    (s.writeDone j a).session.outlets.get? k = none := by
  rw [writeDone]
  cases hj : s.outlets.get? j with
  | none => exact hk
  | some p =>
    cases hanswer : p.answer a with
    | none => simpa [hanswer] using hk
    | some found =>
      simp only [hanswer]
      exact get?_outlets_putOutlet_of_absent hk hj _

theorem absent_control (hk : s.outlets.get? k = none) (e : Nat) (number : Int) :
    (s.step (.control e number)).session.outlets.get? k = none := by
  simp only [step, control]
  cases hb : s.endpoints.get? e with
  | none => exact hk
  | some b =>
    cases hform : b.form with
    | adapter side =>
      cases side with
      | inbound => simpa [hform] using hk
      | outbound => simpa [hform] using absent_onWriteControl hk (some e) (.ofNumber number)
    | _ => simpa [hform] using hk

/-- **An outlet that an event makes is idle.** -/
theorem idle_of_opened (hk : s.outlets.get? k = none) {event : Event}
    (ho : (s.step event).session.outlets.get? k = some o) : o.flight = none := by
  -- most events make no outlet at all
  have habsent : (s.step event).session.outlets.get? k = none → o.flight = none := by
    intro hnone
    cases hnone.symm.trans ho
  have hmade : ∀ j connection release,
      (s.step event).session.outlets = s.outlets.put j (.make connection release) →
        o.flight = none := by
    intro j connection release houtlets
    rw [houtlets, Table.get?_put] at ho
    split at ho
    · cases ho
      rfl
    · cases hk.symm.trans ho
  cases event with
  | openOutlet j connection release =>
    cases hj : s.outlets.contains j with
    | true => exact habsent (by simpa [step, hj] using hk)
    | false => exact hmade j connection release (by simp [step, hj])
  | openDuplex key d connection settings =>
    have houtlets := (adapters_openDuplex s key d connection settings).2
    by_cases hfresh : (s.duplexes.contains key || s.inlets.contains d.inlet ||
        s.outlets.contains d.outlet || s.endpoints.contains d.readEnd ||
        s.endpoints.contains d.writeEnd || d.readEnd = d.writeEnd) = true
    · exact habsent (by simpa [step, hfresh] using hk)
    · refine hmade d.outlet connection settings.releaseBuffers ?_
      rw [step, if_neg hfresh]
      split
      · next hopen => rw [← houtlets, hopen]
      · next hopen => rw [← houtlets, hopen]
  | append j data =>
    refine habsent ?_
    simp only [step]
    cases hj : s.outlets.get? j with
    | none => exact hk
    | some p => exact get?_outlets_putOutlet_of_absent hk hj _
  | flush j => exact habsent (absent_flushFor hk j .single)
  | flushAll j =>
    refine habsent ?_
    simp only [step]
    cases s.duplexes.get? j with
    | none => exact hk
    | some d => exact absent_flushFor hk d.outlet (.drain 0)
  | writeDone j a => exact habsent (absent_writeDone hk j a)
  | write e size buffer =>
    refine habsent ?_
    simp only [step]
    split
    · exact hk
    · next hwrite => exact absent_write hk hwrite
  | streamWrite e data =>
    refine habsent ?_
    simp only [step]
    split
    · exact hk
    all_goals next hwrite => exact absent_streamWrite hk hwrite
  | streamWriteAll e data =>
    refine habsent ?_
    simp only [step]
    split
    · exact hk
    all_goals next hwrite => exact absent_streamWriteAll hk hwrite
  | callWrite e size buffer =>
    refine habsent ?_
    simp only [step]
    split
    · exact absent_onWrite hk e size buffer
    · exact hk
  | control e number => exact habsent (absent_control hk e number)
  | callControl side e number =>
    refine habsent ?_
    simp only [step]
    split
    · cases side with
      | inbound => exact hk
      | outbound => exact absent_onWriteControl hk e (.ofNumber number)
    · exact hk
  | _ => exact habsent (by rw [(step_of_not_outbound rfl s).1]; exact hk)

/-! ### Who has asked -/

/-- Whether an act is a flush of the engine's: one that is asked for, or one that has its turn. -/
def isEngineFlush : Act → Prop
  | .event event => ∃ e, isFlushOf e event
  | .turn _ => True

/-- The engine has asked for a flush of the outlet under a key, which has offered a block, and there
has been no answer since. It may have done so before the first of these acts. -/
def AskedByEngine (s : Session) (k : Nat) (acts : List Act) (block : Bytes) : Prop :=
  (∃ o, s.outlets.get? k = some o ∧ o.flight = some ⟨block, .control⟩ ∧
      ∀ a, .event (.writeDone k a) ∉ acts) ∨
    ∃ before asking during c, acts = before ++ asking :: during ∧ isEngineFlush asking ∧
      ((s.play before).1.act asking).value = .calls (.write k c block) ∧
        ∀ a, .event (.writeDone k a) ∉ during

theorem AskedByEngine.later {acts : List Act} {block : Bytes} {act : Act}
    (h : s.AskedByEngine k acts block) (hanswer : ∀ a, act ≠ .event (.writeDone k a)) :
    s.AskedByEngine k (acts ++ [act]) block := by
  have hmore : ∀ {list : List Act}, (∀ a, .event (.writeDone k a) ∉ list) →
      ∀ a, .event (.writeDone k a) ∉ list ++ [act] := by
    intro list hlist a hmem
    rcases List.mem_append.mp hmem with hmem | hmem
    · exact hlist a hmem
    · exact hanswer a (List.mem_singleton.mp hmem).symm
  rcases h with ⟨o, ho, hflight, hacts⟩ |
    ⟨before, asking, during, c, rfl, hasks, hcalls, hduring⟩
  · exact Or.inl ⟨o, ho, hflight, hmore hacts⟩
  · exact Or.inr ⟨before, asking, during ++ [act], c, by simp, hasks, hcalls, hmore hduring⟩

/-- A flush of the engine's that is in flight after an event has been in flight before, without an
answer, or the event is the one that asks for it. -/
theorem flight_before_event {p : Outlet} (hk : s.outlets.get? k = some p) {event : Event}
    {block : Bytes} (ho : (s.step event).session.outlets.get? k = some o)
    (hflight : o.flight = some ⟨block, .control⟩) :
    (p.flight = some ⟨block, .control⟩ ∧ ∀ a, event ≠ .writeDone k a) ∨
      ∃ e c, isFlushOf e event ∧ (s.step event).value = .calls (.write k c block) := by
  cases outbound_step hk event with
  | apart hget htaken hcalls hanswer =>
    cases hget.symm.trans ho
    exact Or.inl ⟨hflight, fun a ha => by simp [hanswer a ha] at hflight⟩
  | append data hget htaken hcalls hanswer =>
    cases hget.symm.trans ho
    exact Or.inl ⟨hflight, hanswer⟩
  | start hget htaken hreply hanswer =>
    cases hget.symm.trans ho
    have hsequel := Outlet.sequel_start p event.purpose
    rcases hstart : p.start event.purpose with ⟨p', progress⟩
    rw [hstart] at hsequel hflight hreply
    cases hsequel with
    | still => exact Or.inl ⟨hflight, hanswer k⟩
    | offered hidle hqueue =>
      obtain ⟨rfl, hpurpose⟩ := Flight.mk.inj (Option.some.inj hflight)
      have hcalls : (s.step event).value = .calls (.write k p.connection p.queue) := hreply
      rcases asked_of_calls_write hcalls with rfl | ⟨j, rfl⟩ | ⟨a, rfl⟩ | ⟨e, hasks⟩
      · cases hpurpose
      · cases hpurpose
      · exact absurd rfl (hanswer k a)
      · exact Or.inr ⟨e, _, hasks, hcalls⟩
  | answer a f hevent hf hget hreply =>
    -- nobody goes on with a flush of the engine's after its write
    exfalso
    cases hget.symm.trans ho
    have hidle : (p.land f.block a).1.flight = none := by rw [Outlet.land_fst]
    cases hpurpose : f.purpose with
    | drain total =>
      have hsequel := Outlet.sequel_resume hidle (.drain total) (p.land f.block a).2
      rw [hpurpose] at hflight
      rcases hresume : (p.land f.block a).1.resume (.drain total) (p.land f.block a).2
        with ⟨p', progress⟩
      rw [hresume] at hsequel hflight
      cases hsequel with
      | still => simp [hidle] at hflight
      | offered => cases (Flight.mk.inj (Option.some.inj hflight)).2
    | single | control =>
      rw [hpurpose] at hflight
      cases hidle.symm.trans hflight

/-- The same of any act. -/
theorem flight_before_act {p : Outlet} (hk : s.outlets.get? k = some p) {act : Act}
    {block : Bytes} (ho : (s.act act).session.outlets.get? k = some o)
    (hflight : o.flight = some ⟨block, .control⟩) :
    (p.flight = some ⟨block, .control⟩ ∧ ∀ a, act ≠ .event (.writeDone k a)) ∨
      isEngineFlush act ∧ ∃ c, (s.act act).value = .calls (.write k c block) := by
  cases act with
  | event event =>
    rcases flight_before_event hk ho hflight with ⟨hbefore, hanswer⟩ | ⟨e, c, hasks, hcalls⟩
    · exact Or.inl ⟨hbefore, fun a ha => hanswer a (Act.event.inj ha)⟩
    · exact Or.inr ⟨⟨e, hasks⟩, c, hcalls⟩
  | turn j =>
    rcases still_or_offered_turn hk j with ⟨hget, -⟩ | ⟨-, -, -, hget, hcalls⟩
    · cases hget.symm.trans ho
      exact Or.inl ⟨hflight, by simp⟩
    · cases hget.symm.trans ho
      obtain ⟨rfl, -⟩ := Flight.mk.inj (Option.some.inj hflight)
      exact Or.inr ⟨trivial, _, hcalls⟩

/-- An outlet that an act makes is idle. -/
theorem idle_of_opened_act (hk : s.outlets.get? k = none) {act : Act}
    (ho : (s.act act).session.outlets.get? k = some o) : o.flight = none := by
  cases act with
  | event event => exact idle_of_opened hk ho
  | turn j => cases (absent_flushFor hk j .control).symm.trans ho

/-- **A flush in flight that the engine asked for has been asked for by the engine.** The purpose of
a flush is set when it starts, so it tells who has asked for it. -/
theorem askedByEngine_of_flight (s : Session) (k : Nat) (acts : List Act) {o : Outlet}
    {block : Bytes} (ho : (s.play acts).1.outlets.get? k = some o)
    (hflight : o.flight = some ⟨block, .control⟩) : s.AskedByEngine k acts block := by
  induction acts using List.reverseRecOn generalizing o with
  | nil => exact Or.inl ⟨o, ho, hflight, by simp⟩
  | append_singleton acts act ih =>
    simp only [play_append, play] at ho
    cases hk : (s.play acts).1.outlets.get? k with
    | none => simp [idle_of_opened_act hk ho] at hflight
    | some p =>
      rcases flight_before_act hk ho hflight with ⟨hbefore, hanswer⟩ | ⟨hasks, c, hcalls⟩
      · exact (ih hk hbefore).later hanswer
      · exact Or.inr ⟨acts, act, [], c, rfl, hasks, hcalls, by simp⟩

/-- **An error in the log is a panic of a write that the engine asked for.** A turn reports
nothing. -/
theorem reported {acts : List Act} {act : Act} {line : LogLine}
    (hline : line ∈ ((s.play acts).1.act act).log) (herror : line.level = "ERROR") :
    ∃ k panic block, line = .flushPanicked panic ∧
      act = .event (.writeDone k (.panicked panic)) ∧ s.AskedByEngine k acts block ∧
        ((s.play acts).1.act act).value = .code (-1) ∧
          ((s.play acts).1.act act).log = [.flushPanicked panic] := by
  cases act with
  | event event =>
    obtain ⟨k, panic, hpanic, rfl, hvalue, hlog, o, block, ho, hflight⟩ :=
      panic_of_error hline herror
    exact ⟨k, panic, block, hpanic, rfl, askedByEngine_of_flight s k acts ho hflight, hvalue,
      hlog⟩
  | turn j =>
    rw [act, log_turn] at hline
    cases hline

end Session

end Conduit

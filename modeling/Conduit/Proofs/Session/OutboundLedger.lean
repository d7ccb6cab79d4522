import Conduit.Proofs.Session.Outbound
/-!
# What becomes of the bytes that are appended

The ledger of an outlet kept along a run of its session. It is written from the events and their
replies alone: what was appended, by the owner or by the engine through any endpoint, what the
connection was asked to write, and what it answered. Everything else that happens in the session
may happen in between, also while a write is in progress.

As long as no write panics, every byte is accepted or still with the outlet, in the order in which
it was appended. A panic takes the block in flight with it and leaves its length behind in the
count of pending bytes, until a later write has been answered.

## Main definitions

* `Conduit.Outlet.Ledger.enter`: the ledger after one more event.
* `Conduit.Session.outletLedger`: the ledger after a list of events.
* `Conduit.Session.Faithful`: how flushes behave towards the connection and the caller.

## Main results

* `outlet_agrees_run`: the ledger accounts for every byte, whatever happens.
* `outbound_ledger`: without panics nothing is lost, reordered or sent twice.
* `exact_between_writes_iff`: the books are exact between two writes just if no write has panicked.
-/

namespace Conduit

/-- The queue that a flush finds which an event starts. For an answer this is the queue that is left
when the block in flight has landed. -/
def Outlet.queueFor (o : Outlet) : Event → Bytes
  | .writeDone _ a => a.leaves o.aloft ++ o.queue
  | _ => o.queue

namespace Outlet.Ledger

/-- Enters an answer to the outlet under a key. -/
def hear (l : Ledger) (k : Nat) : Event → Ledger
  | .writeDone j a => if j = k then l.settle a else l
  | _ => l

/-- Enters a call that asks the connection of the outlet under a key to write. -/
def watch (l : Ledger) (k : Nat) (purpose : Purpose) : Reply → Ledger
  | .calls (.write j _ block) => if j = k then l.proceed purpose (.writing block) else l
  | _ => l

/-- The purpose of a write that an event leads to. One that follows another write of the same
operation counts what that one got. -/
def purposeOf (l : Ledger) (event : Event) : Purpose :=
  match event, l.offer with
  | .writeDone _ a, some f => f.purpose.gain (a.accepts f.block).length
  | _, _ => event.purpose

/-- The ledger of the outlet under a key after an event of a session, which came to that reply. -/
def enter (l : Ledger) (s : Session) (k : Nat) (event : Event) (reply : Reply) : Ledger :=
  ((l.append (s.taken k event reply)).hear k event).watch k (l.purposeOf event) reply

theorem append_nil (l : Ledger) : l.append [] = l := by simp [append]

theorem hear_self (l : Ledger) (k : Nat) (a : WriteAnswer) :
    l.hear k (.writeDone k a) = l.settle a := by
  simp [hear]

theorem hear_of_ne {k : Nat} {event : Event} (h : ∀ a, event ≠ .writeDone k a) (l : Ledger) :
    l.hear k event = l := by
  unfold hear
  split
  · next j a =>
    have hjk : ¬ j = k := fun hjk => h a (hjk ▸ rfl)
    simp [hjk]
  · rfl

theorem watch_of_ne {k : Nat} {reply : Reply} (h : ∀ c block, reply ≠ .calls (.write k c block))
    (l : Ledger) (purpose : Purpose) : l.watch k purpose reply = l := by
  unfold watch
  split
  · next j c block =>
    have hjk : ¬ j = k := fun hjk => h c block (hjk ▸ rfl)
    simp [hjk]
  · rfl

/-- A reply shows how an operation goes on as far as the ledger is concerned. -/
theorem watch_ofFlush (l : Ledger) (k c : Nat) (purpose purpose' : Purpose) (progress : Progress) :
    l.watch k purpose (Reply.ofFlush k c purpose' progress).1 = l.proceed purpose progress := by
  cases progress with
  | writing block => simp [Reply.ofFlush, watch]
  | busy => rfl
  | ended outcome =>
    refine watch_of_ne (fun d block h => ?_) l purpose
    have := (Session.ofFlush_eq_calls_iff.mp h).2.2
    simp at this

theorem settle_of_idle {l : Ledger} (h : l.offer = none) (a : WriteAnswer) : l.settle a = l := by
  simp [settle, h]

/-! ### The parts of the ledger -/

theorem answered_watch (l : Ledger) (k : Nat) (purpose : Purpose) (reply : Reply) :
    (l.watch k purpose reply).answered = l.answered := by
  unfold watch
  split
  · split <;> rfl
  · rfl

section Parts

variable {l : Ledger} {s : Session} {k : Nat} {event : Event} {reply : Reply}

theorem appended_watch (l : Ledger) (k : Nat) (purpose : Purpose) (reply : Reply) :
    (l.watch k purpose reply).appended = l.appended := by
  unfold watch
  split
  · split <;> rfl
  · rfl

theorem appended_hear (l : Ledger) (k : Nat) (event : Event) :
    (l.hear k event).appended = l.appended := by
  unfold hear settle
  split
  · split
    · split <;> rfl
    · rfl
  · rfl

theorem appended_enter (l : Ledger) (s : Session) (k : Nat) (event : Event) (reply : Reply) :
    (l.enter s k event reply).appended = l.appended ++ s.taken k event reply := by
  rw [enter, appended_watch, appended_hear]
  rfl

/-- Only an answer to its connection adds to the answers of an outlet. -/
theorem answered_enter_of_ne (h : ∀ a, event ≠ .writeDone k a) :
    (l.enter s k event reply).answered = l.answered := by
  rw [enter, answered_watch, hear_of_ne h]
  rfl

theorem answered_enter_writeDone {f : Flight} (hf : l.offer = some f) (a : WriteAnswer) :
    (l.enter s k (.writeDone k a) reply).answered = l.answered ++ [(f.block, a)] := by
  rw [enter, answered_watch, hear_self]
  simp [settle, append, hf]

theorem accepted_enter_writeDone {f : Flight} (hf : l.offer = some f) (a : WriteAnswer) :
    (l.enter s k (.writeDone k a) reply).accepted = l.accepted ++ a.accepts f.block := by
  rw [accepted, answered_enter_writeDone hf]
  simp [accepted]

end Parts

end Outlet.Ledger

namespace Session

open Outlet (Ledger)

/-- The ledger of the outlet under a key after a list of events. -/
def outletLedger (s : Session) (k : Nat) (l : Ledger) : List Event → Ledger
  | [] => l
  | event :: rest =>
      let effect := s.step event
      outletLedger effect.session k (l.enter s k event effect.value) rest

/-- One event keeps the ledger in agreement with the outlet. -/
theorem outlet_agrees_step {s : Session} {k : Nat} {l : Ledger} {o : Outlet}
    (hk : s.outlets.get? k = some o) (h : l.Agrees o) (event : Event) :
    ∃ o', (s.step event).session.outlets.get? k = some o' ∧
      (l.enter s k event (s.step event).value).Agrees o' := by
  cases outbound_step hk event with
  | apart hget htaken hcalls hanswer =>
    refine ⟨o, hget, ?_⟩
    have hhear : l.hear k event = l := by
      by_cases hevent : ∃ a, event = .writeDone k a
      · obtain ⟨a, rfl⟩ := hevent
        have hidle : l.offer = none := h.offer ▸ hanswer a rfl
        simp [Ledger.hear, Ledger.settle_of_idle hidle]
      · exact Ledger.hear_of_ne (fun a ha => hevent ⟨a, ha⟩) l
    rw [Ledger.enter, htaken, Ledger.append_nil, hhear, Ledger.watch_of_ne hcalls]
    exact h
  | append data hget htaken hcalls hanswer =>
    refine ⟨_, hget, ?_⟩
    rw [Ledger.enter, htaken, Ledger.hear_of_ne hanswer, Ledger.watch_of_ne hcalls]
    exact h.append data
  | start hget htaken hreply hanswer =>
    refine ⟨_, hget, ?_⟩
    have hpurpose : l.purposeOf event = event.purpose := by
      unfold Ledger.purposeOf
      split
      · exact absurd rfl (hanswer _ _)
      · rfl
    rw [Ledger.enter, htaken, Ledger.append_nil, Ledger.hear_of_ne (fun a => hanswer k a), hreply,
      Ledger.watch_ofFlush, hpurpose]
    exact h.sequel (Outlet.sequel_start o event.purpose)
  | answer a f hevent hflight hget hreply =>
    subst hevent
    refine ⟨_, hget, ?_⟩
    have hoffer : l.offer = some f := h.offer ▸ hflight
    have hpurpose : l.purposeOf (.writeDone k a) = f.purpose.gain (a.accepts f.block).length := by
      simp [Ledger.purposeOf, hoffer]
    have htaken : s.taken k (.writeDone k a) (s.step (.writeDone k a)).value = [] := rfl
    have hidle : (o.land f.block a).1.flight = none := by rw [Outlet.land_fst]
    have hsequel := Outlet.sequel_resume hidle f.purpose (o.land f.block a).2
    rw [Outlet.got_land] at hsequel
    rw [Ledger.enter, htaken, Ledger.append_nil, Ledger.hear_self, hreply, Ledger.watch_ofFlush,
      hpurpose]
    exact (h.land hflight a).sequel hsequel

/-- **The ledger accounts for every byte**, after any run. -/
theorem outlet_agrees_run {s : Session} {k : Nat} {l : Ledger} {o : Outlet}
    (hk : s.outlets.get? k = some o) (h : l.Agrees o) (events : List Event) :
    ∃ o', (s.run events).1.outlets.get? k = some o' ∧ (s.outletLedger k l events).Agrees o' := by
  induction events generalizing s l o with
  | nil => exact ⟨o, hk, h⟩
  | cons event rest ih =>
    obtain ⟨o', hk', h'⟩ := outlet_agrees_step hk h event
    exact ih hk' h'

/-! ### Runs without a panic -/

theorem Intact.settle {l : Ledger} (h : l.Intact) {a : WriteAnswer}
    (ha : ∀ panic, a ≠ .panicked panic) : (l.settle a).Intact := by
  unfold Ledger.settle
  split
  · next f hf =>
    intro x hx
    rcases List.mem_append.mp hx with hx | hx
    · exact h x hx
    · rw [List.mem_singleton.mp hx]
      exact ha
  · exact h

theorem intact_enter {l : Ledger} (h : l.Intact) (s : Session) {k : Nat} {event : Event}
    (hevent : ∀ panic, event ≠ .writeDone k (.panicked panic)) (reply : Reply) :
    (l.enter s k event reply).Intact := by
  have hhear : ((l.append (s.taken k event reply)).hear k event).Intact := by
    unfold Ledger.hear
    split
    · next j a =>
      split
      · next hjk =>
        subst hjk
        have happend : (l.append (s.taken j (.writeDone j a) reply)).Intact := h
        exact Intact.settle happend fun panic hpanic => hevent panic (hpanic ▸ rfl)
      · exact h
    · exact h
  unfold Ledger.enter Ledger.watch
  split
  · split
    · exact hhear
    · exact hhear
  · exact hhear

theorem intact_outletLedger {k : Nat} {events : List Event}
    (hevents : ∀ panic, Event.writeDone k (.panicked panic) ∉ events) :
    ∀ {s : Session} {l : Ledger}, l.Intact → (s.outletLedger k l events).Intact := by
  induction events with
  | nil => intro s l h; exact h
  | cons event rest ih =>
    intro s l h
    refine ih (fun panic hmem => hevents panic (List.mem_cons_of_mem _ hmem)) ?_
    exact intact_enter h s (fun panic heq => hevents panic (heq ▸ List.mem_cons_self)) _

/-! ### How a flush behaves -/

/-- What the next event shows of an outlet, as the ledger has it so far.

Everything that is appended is taken. A flush offers the whole queue that it finds, which is
everything appended and not accepted, unless there is nothing in it. When the connection has
answered, whoever asked for the flush learns how many bytes were accepted: the owner as a count, the
engine as a code, and after draining as the total over all writes of the operation. -/
structure Faithful (t : Session) (k : Nat) (l : Ledger) (o : Outlet) (event : Event) : Prop where
  append : ∀ data, event = .append k data → t.taken k event (t.step event).value = data
  write : ∀ e size data, event = .write e size (some data) → t.serves .outbound e k = true →
    t.taken k event (t.step event).value = data.take size.toNat
  /-- A flush that the owner asks for calls the connection unless there is nothing to write. -/
  asks : event = .flush k → o.flight = none →
    (t.step event).value =
      if o.queue = [] then .count 0 else .calls (.write k o.connection o.queue)
  offers : ∀ c block, (t.step event).value = .calls (.write k c block) →
    block = o.queueFor event ∧ block ≠ [] ∧
      (l.enter t k event (t.step event).value).appended =
        (l.enter t k event (t.step event).value).accepted ++ block
  single : ∀ block a, l.offer = some ⟨block, .single⟩ → event = .writeDone k a →
    (t.step event).value =
      match a with
      | .accepted n => .count (min n block.length)
      | .failed error => .failed error
      | .panicked panic => .panicked panic
  control : ∀ block a, l.offer = some ⟨block, .control⟩ → event = .writeDone k a →
    (t.step event).value =
      match a with
      | .accepted n => .code (toLongCount (min n block.length))
      | .failed _ => .code 0
      | .panicked _ => .code (-1)
  drain : ∀ block total a n, l.offer = some ⟨block, .drain total⟩ → event = .writeDone k a →
    (t.step event).value = .count n → n = total + (a.accepts block).length

/-- A call to write offers the whole queue that the flush finds, and the outlet has nothing else. -/
theorem calls_write {t : Session} {k c : Nat} {o : Outlet} {event : Event} {block : Bytes}
    (hk : t.outlets.get? k = some o) (hcalls : (t.step event).value = .calls (.write k c block)) :
    block = o.queueFor event ∧ block ≠ [] ∧
      ∃ purpose, (purpose = event.purpose ∨ ∃ a, event = .writeDone k a) ∧
        (t.step event).session.outlets.get? k =
          some { o with
            queue := []
            inFlight := block.length
            flight := some ⟨block, purpose⟩ } := by
  cases outbound_step hk event with
  | apart hget htaken hne hanswer => exact absurd hcalls (hne c block)
  | append data hget htaken hne hanswer => exact absurd hcalls (hne c block)
  | start hget htaken hreply hanswer =>
    have hwriting := (ofFlush_eq_calls_iff.mp (hreply.symm.trans hcalls)).2.2
    have hsequel := Outlet.sequel_start o event.purpose
    rcases hstart : o.start event.purpose with ⟨o', progress⟩
    rw [hstart] at hwriting hsequel hget
    cases hwriting
    obtain ⟨hblock, hne, rfl⟩ := hsequel.of_writing
    have hqueue : o.queueFor event = o.queue := by
      unfold Outlet.queueFor
      split
      · exact absurd rfl (hanswer _ _)
      · rfl
    exact ⟨hqueue ▸ hblock, hne, _, Or.inl rfl, hget⟩
  | answer a f hevent hflight hget hreply =>
    subst hevent
    have hwriting := (ofFlush_eq_calls_iff.mp (hreply.symm.trans hcalls)).2.2
    have hidle : (o.land f.block a).1.flight = none := by rw [Outlet.land_fst]
    have hsequel := Outlet.sequel_resume hidle f.purpose (o.land f.block a).2
    rcases hresume : (o.land f.block a).1.resume f.purpose (o.land f.block a).2
      with ⟨o', progress⟩
    rw [hresume] at hwriting hsequel hget
    cases hwriting
    obtain ⟨hblock, hne, rfl⟩ := hsequel.of_writing
    have hqueue : o.queueFor (.writeDone k a) = (o.land f.block a).1.queue := by
      rw [Outlet.land_fst]
      simp [Outlet.queueFor, Outlet.aloft, hflight]
    rw [Outlet.land_fst] at hget
    exact ⟨hqueue ▸ hblock, hne, _, Or.inr ⟨a, rfl⟩, hget⟩

/-- What the engine writes through an endpoint of the outlet is taken up to the size it gives. -/
theorem taken_write {t : Session} {e k : Nat} {o : Outlet} (hk : t.outlets.get? k = some o)
    (hserves : t.serves .outbound e k = true) (size : Int) (data : Bytes) :
    t.taken k (.write e size (some data)) (t.step (.write e size (some data))).value =
      data.take size.toNat := by
  by_cases hsize : 0 < size
  · obtain ⟨effect, hwrite, hvalue, -⟩ := write_of_serves hserves hk hsize data
    simp [step, hwrite, taken, hserves, hvalue]
  · have hle : size ≤ 0 := Int.not_lt.mp hsize
    obtain ⟨⟨b, hb, hform⟩, -⟩ := serves_iff.mp hserves
    have hzero : size.toNat = 0 := Int.toNat_of_nonpos hle
    simp [step, write, hb, hform, Endpoint.Form.serves, hle, taken, hzero]

/-- The reply to an answer, according to what the write was part of. -/
theorem reply_writeDone {t : Session} {k : Nat} {o : Outlet} {f : Flight}
    (hk : t.outlets.get? k = some o) (hf : o.flight = some f) (a : WriteAnswer) :
    (t.step (.writeDone k a)).value =
      (Reply.ofFlush k o.connection f.purpose
        ((o.land f.block a).1.resume f.purpose (o.land f.block a).2).2).1 :=
  (writeDone_of_flight hk hf a).2

theorem ofFlush_drain_eq_count_iff {k c total n : Nat} {progress : Outlet.Progress} :
    (Reply.ofFlush k c (.drain total) progress).1 = .count n ↔ progress = .ended (.value n) := by
  cases progress with
  | busy => simp [Reply.ofFlush]
  | ended outcome => cases outcome <;> simp [Reply.ofFlush, Reply.ofOutcome]
  | writing block => simp [Reply.ofFlush]

theorem faithful_of_agrees {t : Session} {k : Nat} {l : Ledger} {o : Outlet}
    (hk : t.outlets.get? k = some o) (h : l.Agrees o) (hintact : l.Intact) {event : Event}
    (hevent : ∀ panic, event ≠ .writeDone k (.panicked panic)) : Faithful t k l o event where
  append := by
    rintro data rfl
    simp [step, hk, taken]
  write := by
    rintro e size data rfl hserves
    exact taken_write hk hserves size data
  asks := by
    rintro rfl hidle
    have hreply : (t.step (.flush k)).value =
        (Reply.ofFlush k o.connection .single (o.start .single).2).1 := (flushFor_self hk .single).2
    rw [hreply]
    by_cases hq : o.queue = []
    · simp [Outlet.start, hidle, Outlet.begin_of_empty hq, Reply.ofFlush, Reply.ofOutcome, hq]
    · simp [Outlet.start, hidle, Outlet.begin_of_queued hq, Reply.ofFlush, hq]
  offers := by
    intro c block hcalls
    obtain ⟨hblock, hne, purpose, -, hget⟩ := calls_write hk hcalls
    obtain ⟨o', hget', hagrees⟩ := outlet_agrees_step hk h event
    cases hget.symm.trans hget'
    refine ⟨hblock, hne, ?_⟩
    rw [hagrees.balance, (intact_enter hintact t hevent _).departed_eq,
      Outlet.waiting_of_flight rfl, List.append_nil]
  single := by
    rintro block a hoffer rfl
    rw [reply_writeDone hk (h.offer.trans hoffer) a, Outlet.land_snd]
    cases a <;> simp [Outlet.resume, Reply.ofFlush, Reply.ofOutcome, WriteAnswer.accepts]
  control := by
    rintro block a hoffer rfl
    rw [reply_writeDone hk (h.offer.trans hoffer) a, Outlet.land_snd]
    cases a <;> simp [Outlet.resume, Reply.ofFlush, flushCode, WriteAnswer.accepts]
  drain := by
    rintro block total a n hoffer rfl hcount
    rw [reply_writeDone hk (h.offer.trans hoffer) a] at hcount
    have hended := ofFlush_drain_eq_count_iff.mp hcount
    rw [Outlet.resume_drain_eq_value hended, Outlet.got_land]

/-! ### The two ledgers -/

/-- **Nothing is lost, reordered or sent twice.** In any run in which no write of the outlet panics,
what was appended is at every point what the connection has accepted, followed by what the outlet
still has; the count of pending bytes is the difference of the two, as the owner and the engine see
it; and the next event, whatever it is, shows flushes at their word. -/
theorem outbound_ledger {s : Session} {k connection : Nat} {release : Bool}
    (hk : s.outlets.get? k = some (.make connection release)) {events : List Event}
    (hevents : ∀ panic, .writeDone k (.panicked panic) ∉ events) :
    ∃ o, (s.run events).1.outlets.get? k = some o ∧
      (s.outletLedger k {} events).appended = (s.outletLedger k {} events).accepted ++ o.waiting ∧
      (s.outletLedger k {} events).accepted.length + o.pending =
        (s.outletLedger k {} events).appended.length ∧
      (∀ e, (s.run events).1.resolve .outbound e = some k →
        (s.run events).1.onWriteControl (some e) .writePending =
          ⟨(s.run events).1, .code (toLongCount ((s.outletLedger k {} events).appended.length -
            (s.outletLedger k {} events).accepted.length)), []⟩) ∧
      ∀ event, (∀ panic, event ≠ .writeDone k (.panicked panic)) →
        Faithful (s.run events).1 k (s.outletLedger k {} events) o event := by
  obtain ⟨o, hget, hagrees⟩ := outlet_agrees_run hk (Ledger.agrees_make connection release) events
  have hintact : (s.outletLedger k {} events).Intact :=
    intact_outletLedger hevents (by simp [Ledger.Intact])
  have hpending := hagrees.pending_of_intact hintact
  refine ⟨o, hget, ?_, hpending, fun e he => ?_, fun event hevent =>
    faithful_of_agrees hget hagrees hintact hevent⟩
  · rw [hagrees.balance, hintact.departed_eq]
  · have hdifference : o.pending = (s.outletLedger k {} events).appended.length -
        (s.outletLedger k {} events).accepted.length := by omega
    simp [onWriteControl, outletAt?_eq_some_iff.mpr ⟨he, hget⟩, hdifference]

/-- A session with one outlet. -/
def oneOutlet : Session := (({} : Session).step (.openOutlet 0 0 false)).session

/-- Two bytes are flushed and one of them is accepted, a third is appended meanwhile, and another
flush starts. -/
def shortWrite : List Event :=
  [.append 0 [1, 2], .flush 0, .append 0 [3], .writeDone 0 (.accepted 1), .flush 0]

theorem outbound_ledger_shortWrite :
    ∃ o, (oneOutlet.run shortWrite).1.outlets.get? 0 = some o ∧ [1, 2, 3] = [1] ++ o.waiting ∧
      o.pending = 2 := by
  obtain ⟨o, hget, hbytes, hpending, -⟩ :=
    @outbound_ledger oneOutlet 0 0 false rfl shortWrite (by simp [shortWrite])
  exact ⟨o, hget, hbytes, Nat.add_left_cancel hpending⟩

/-- **Between two writes the books are exact just if no write has panicked.** A panic takes the
block in flight with it, for good; its length is counted as pending until a later write has been
answered without a panic. -/
theorem exact_between_writes_iff {s : Session} {k connection : Nat} {release : Bool}
    (hk : s.outlets.get? k = some (.make connection release)) {events : List Event} {o : Outlet}
    (ho : (s.run events).1.outlets.get? k = some o) (hidle : o.flight = none) :
    ((o.inFlight = 0 ∧ o.pending = o.queue.length ∧
        (s.outletLedger k {} events).appended = (s.outletLedger k {} events).accepted ++ o.queue) ↔
      (s.outletLedger k {} events).Intact) ∧
    (o.inFlight = 0 ↔
      ∀ block panic,
        (s.outletLedger k {} events).answered.getLast? ≠ some (block, .panicked panic)) ∧
    (s.outletLedger k {} events).appended = (s.outletLedger k {} events).departed ++ o.queue := by
  obtain ⟨o', hget, hagrees⟩ := outlet_agrees_run hk (Ledger.agrees_make connection release) events
  cases ho.symm.trans hget
  refine ⟨?_, ?_, ?_⟩
  · rw [← hagrees.exact_iff hidle]
    constructor
    · rintro ⟨hzero, -, hexact⟩
      exact ⟨hzero, hexact⟩
    · rintro ⟨hzero, hexact⟩
      exact ⟨hzero, by rw [Outlet.pending, hzero, Nat.add_zero], hexact⟩
  · rw [hagrees.idle hidle, Ledger.stale_eq_zero_iff hagrees.nonempty]
  · rw [hagrees.balance, Outlet.waiting_of_idle hidle]

/-- Two bytes are flushed, and the write panics. -/
def panickedWrite : List Event :=
  [.append 0 [97, 98], .flush 0, .writeDone 0 (.panicked (.text "boom"))]

/-- Once a later write is answered, the count of pending bytes is right again, but the block that
was lost to the panic stays lost. -/
theorem exact_between_writes_after_panic :
    ∃ o, (oneOutlet.run (panickedWrite ++ [.append 0 [99], .flush 0,
        .writeDone 0 (.accepted 1)])).1.outlets.get? 0 = some o ∧
      o.flight = none ∧ o.inFlight = 0 ∧ [97, 98, 99] ≠ [99] ++ o.queue := by
  refine ⟨_, rfl, rfl, ?_, by decide⟩
  refine (@exact_between_writes_iff oneOutlet 0 0 false rfl (panickedWrite ++ [.append 0 [99],
    .flush 0, .writeDone 0 (.accepted 1)]) _ rfl rfl).2.1.mpr ?_
  rintro block panic ⟨⟩

/-- A flush whose write panics loses what it had taken off the queue and goes on counting it. The
next flush finds nothing to offer. -/
theorem panic_loses_block :
    ∃ o, (oneOutlet.run panickedWrite).1.outlets.get? 0 = some o ∧
      o.flight = none ∧ o.inFlight = 2 ∧ o.pending = 2 ∧ o.queue = [] ∧
      (oneOutlet.outletLedger 0 {} panickedWrite).appended = [97, 98] ∧
      (oneOutlet.outletLedger 0 {} panickedWrite).accepted = [] ∧
      ((oneOutlet.run panickedWrite).1.step (.flush 0)).value = .count 0 :=
  ⟨_, rfl, rfl, rfl, rfl, rfl, rfl, rfl, rfl⟩

end Session

end Conduit

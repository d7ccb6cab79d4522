import Conduit.Proofs.Session.EndHistory
import Conduit.Proofs.Session.OutboundLedger
/-!
# Two duplexes over one connection

Two duplexes whose connection behaves as a queue each way. A write puts some of what it was offered
at the end of the queue, or fails; a read takes some off its front, or fails; and only when the
sender has stopped and the queue is empty may a read say that the stream has ended. Engines and
owners on both sides do what they like, and every call of the connection takes its time.

Each way is looked at by itself. What is known of it is written down in a `Lane`: the ledger of the
outlet that sends, the ledger of the inlet that receives, and the queue between them. Nothing that
happens the other way, or anywhere else in the session, bears on it.

## Main definitions

* `Conduit.WriteAnswer.isFair`, `Conduit.ReadAnswer.isFair`: answers that a queue can give.
* `Conduit.Move`: an event of the session, or a side stops sending.
* `Conduit.Lane`, with `after`, `admits` and `conforms`: one way between two duplexes.
* `Conduit.Session.TellsEnd`: an event tells the engine that the stream has ended.
* `Conduit.Lane.Conveys`: nothing is lost or reordered on the way, and the end is no lie.

## Main results

* `sound_after`: every move that conforms keeps the books of a lane.
* `joined_conveys`: both ways between two duplexes convey what is sent.
-/

namespace Conduit

namespace WriteAnswer

/-- Whether a queue can answer so to a block: it accepts some of it, or the write fails. -/
def isFair (block : Bytes) : WriteAnswer → Bool
  | accepted count => 0 < count ∧ count ≤ block.length
  | failed _ => true
  | panicked _ => false

end WriteAnswer

namespace ReadAnswer

/-- Whether a queue can answer so to a room: it fills the room with some of its front, or the read
fails. That nothing is left and nothing more will come it can say only once the sender has
stopped. -/
def isFair (room queue : Bytes) (stopped : Bool) : ReadAnswer → Bool
  | returned 0 _ => queue = [] ∧ stopped = true
  | returned count written =>
      count ≤ room.length ∧ count ≤ queue.length ∧ written.take count = queue.take count
  | failed _ => true
  | panicked _ => true

/-- The number of bytes that an answer takes off the queue. -/
def removes : ReadAnswer → Nat
  | returned count _ => count
  | _ => 0

/-- What a queue takes off its front is what the room receives. -/
theorem delivers_of_isFair {room queue : Bytes} {stopped : Bool} {a : ReadAnswer}
    (h : a.isFair room queue stopped = true) : a.delivers room = queue.take a.removes := by
  cases a with
  | returned count written =>
    cases count with
    | zero => simp [delivers, removes]
    | succ n =>
      simp only [isFair, decide_eq_true_eq] at h
      obtain ⟨hroom, hqueue, hwritten⟩ := h
      have hlength : n + 1 ≤ written.length := by
        have := congrArg List.length hwritten
        simp only [List.length_take] at this
        omega
      have hfront : (written.take room.length).length ≥ n + 1 := by
        rw [List.length_take]
        omega
      rw [delivers, removes, Nat.min_eq_left hroom, fill, List.take_append_of_le_length hfront,
        List.take_take, Nat.min_eq_left hroom, hwritten]
  | failed error => rfl
  | panicked panic => rfl

end ReadAnswer

namespace Outlet.Ledger

/-- What an event adds to what the connection has accepted. -/
def gains (l : Ledger) (k : Nat) : Event → Bytes
  | .writeDone j a => if j = k then (l.offer.map fun f => a.accepts f.block).getD [] else []
  | _ => []

theorem accepted_hear (l : Ledger) (k : Nat) (event : Event) :
    (l.hear k event).accepted = l.accepted ++ l.gains k event := by
  cases event with
  | writeDone j a =>
    by_cases hj : j = k
    · cases hoffer : l.offer <;> simp [hear, gains, hj, settle, hoffer, accepted]
    · simp [hear, gains, hj]
  | _ => simp [hear, gains]

theorem accepted_enter (l : Ledger) (s : Session) (k : Nat) (event : Event) (reply : Reply) :
    (l.enter s k event reply).accepted = l.accepted ++ l.gains k event := by
  rw [enter, accepted, answered_watch]
  exact accepted_hear (l.append (s.taken k event reply)) k event

end Outlet.Ledger

namespace Inlet.Ledger

/-- What an event adds to what has arrived. -/
def gains (l : Ledger) (k : Nat) : Event → Bytes
  | .readDone j a => if j = k then (l.room.map a.delivers).getD [] else []
  | _ => []

theorem arrived_enter (l : Ledger) (s : Session) (k : Nat) (event : Event) (reply : Reply) :
    (l.enter s k event reply).arrived = l.arrived ++ l.gains k event := by
  by_cases hevent : ∃ a, event = .readDone k a
  · obtain ⟨a, rfl⟩ := hevent
    rw [arrived, answered_enter_readDone]
    cases hroom : l.room <;> simp [gains, hroom, arrived]
  · have hne : ∀ a, event ≠ .readDone k a := fun a ha => hevent ⟨a, ha⟩
    have hgains : l.gains k event = [] := by
      unfold gains
      split
      · next j a =>
        have hjk : ¬ j = k := fun hjk => hne a (hjk ▸ rfl)
        rw [if_neg hjk]
      · rfl
    rw [arrived, answered_enter_of_ne hne, hgains, List.append_nil]
    rfl

end Inlet.Ledger

/-! ### Lanes -/

/-- Something that happens to two duplexes and the connection between them. -/
inductive Move where
  | event (event : Event)
  /-- The side that sends through the outlet under a key stops sending. -/
  | stop (outlet : Nat)

/-- The session after a move. -/
def Session.move (s : Session) : Move → Session
  | .event event => (s.step event).session
  | .stop _ => s

/-- The session after a list of moves. -/
def Session.moves (s : Session) (moves : List Move) : Session := moves.foldl move s

/-- One way between two duplexes, as its two ends and the connection have seen it. -/
structure Lane where
  /-- The ledger of the outlet that sends. -/
  sent : Outlet.Ledger := {}
  /-- The ledger of the inlet that receives. -/
  received : Inlet.Ledger := {}
  /-- What the connection has accepted and not delivered, oldest first. -/
  queue : Bytes := []
  /-- What the connection had accepted when the sender stopped, if it has. -/
  final : Option Bytes := none

namespace Lane

/-- The number of bytes that an event takes off the queue. -/
def removes (d : Lane) (j : Nat) : Event → Nat
  | .readDone i a => if i = j ∧ d.received.room.isSome = true then a.removes else 0
  | _ => 0

/-- A lane from the outlet under one key to the inlet under another, after a move. -/
def after (d : Lane) (s : Session) (k j : Nat) : Move → Lane
  | .event event =>
      { d with
        sent := d.sent.enter s k event (s.step event).value
        received := d.received.enter s j event (s.step event).value
        queue := d.queue.drop (d.removes j event) ++ d.sent.gains k event }
  | .stop i => if i = k then { d with final := some (d.final.getD d.sent.accepted) } else d

/-- Whether a move keeps to what is assumed of the lane: the connection answers as a queue does,
and nobody but the connection says that the stream has ended. -/
def admits (d : Lane) (k j : Nat) : Move → Bool
  | .event (.writeDone i a) => i ≠ k ∨ d.sent.offer.all fun f => a.isFair f.block
  | .event (.readDone i a) =>
      i ≠ j ∨ d.received.room.all fun room => a.isFair room d.queue d.final.isSome
  | .event (.markEnded i) => i ≠ j
  | _ => true

/-- A lane after a list of moves. -/
def afterAll (d : Lane) (s : Session) (k j : Nat) : List Move → Lane
  | [] => d
  | m :: rest => (d.after s k j m).afterAll (s.move m) k j rest

/-- Whether all moves of a list keep to what is assumed of the lane. -/
def conforms (d : Lane) (s : Session) (k j : Nat) : List Move → Bool
  | [] => true
  | m :: rest => d.admits k j m && (d.after s k j m).conforms (s.move m) k j rest

/-- The books of a lane are in order. -/
structure Sound (d : Lane) (o : Outlet) (i : Inlet) : Prop where
  sent : d.sent.Agrees o
  intact : d.sent.Intact
  received : d.received.Agrees i
  /-- What was accepted has arrived or is in the queue. -/
  carried : d.sent.accepted = d.received.arrived ++ d.queue
  final : ∀ bytes, d.final = some bytes → bytes <+: d.sent.accepted
  /-- The receiver takes the stream to have ended only after all of it has arrived. -/
  ended : i.ended = true → ∃ bytes, d.final = some bytes ∧ bytes <+: d.received.arrived

theorem sound_make (c c' : Nat) (release release' : Bool) (sizes : List Nat) :
    Sound {} (.make c release) (.make c' release' sizes) where
  sent := Outlet.Ledger.agrees_make c release
  intact := by simp [Outlet.Ledger.Intact]
  received := Inlet.Ledger.agrees_make c' release' sizes
  carried := rfl
  final := by simp
  ended := by simp [Inlet.ended_make]

variable {d : Lane} {s : Session} {k j : Nat} {o : Outlet} {i : Inlet}

/-- What an admitted event takes off the queue is what it makes arrive. -/
theorem gains_received {event : Event} (hadmits : d.admits k j (.event event) = true) :
    d.received.gains j event = d.queue.take (d.removes j event) := by
  cases event with
  | readDone l a =>
    by_cases hl : l = j
    · subst hl
      cases hroom : d.received.room with
      | none => simp [Inlet.Ledger.gains, removes, hroom]
      | some room =>
        have hfair : a.isFair room d.queue d.final.isSome = true := by
          simpa [admits, hroom] using hadmits
        simpa [Inlet.Ledger.gains, removes, hroom] using ReadAnswer.delivers_of_isFair hfair
    · simp [Inlet.Ledger.gains, removes, hl]
  | _ => simp [Inlet.Ledger.gains, removes]

/-- No admitted event makes a write of the lane panic. -/
theorem intact_of_admits {event : Event} (hadmits : d.admits k j (.event event) = true)
    (hd : d.Sound o i) (reply : Reply) : (d.sent.enter s k event reply).Intact := by
  by_cases hpanic : ∃ panic, event = .writeDone k (.panicked panic)
  · obtain ⟨panic, rfl⟩ := hpanic
    -- the connection owes no answer, so this one is not heard
    have hoffer : d.sent.offer = none := by
      cases hoffer : d.sent.offer with
      | none => rfl
      | some f => simp [admits, hoffer, WriteAnswer.isFair] at hadmits
    have hidle : (d.sent.append (s.taken k (.writeDone k (.panicked panic)) reply)).offer = none :=
      hoffer
    rw [Outlet.Ledger.Intact, Outlet.Ledger.enter, Outlet.Ledger.answered_watch,
      Outlet.Ledger.hear_self, Outlet.Ledger.settle_of_idle hidle]
    exact hd.intact
  · exact Session.intact_enter hd.intact s (fun panic h => hpanic ⟨panic, h⟩) reply

/-- An admitted event ends the stream for the receiver only after all of it has arrived. -/
theorem ended_of_admits {event : Event} (hadmits : d.admits k j (.event event) = true)
    (hd : d.Sound o i)
    (hended : i.ended = true ∨ event = .markEnded j ∨
      ∃ a, event = .readDone j a ∧ a.isEnd = true ∧ i.reading = true) :
    ∃ bytes, d.final = some bytes ∧ bytes <+: d.received.arrived := by
  rcases hended with hended | rfl | ⟨a, rfl, hend, hreading⟩
  · exact hd.ended hended
  · simp [admits] at hadmits
  · obtain ⟨room, hroom⟩ := Option.isSome_iff_exists.mp (hd.received.isSome_room.mpr hreading)
    have hfair : a.isFair room d.queue d.final.isSome = true := by
      simpa [admits, hroom] using hadmits
    have hempty : d.queue = [] ∧ d.final.isSome = true := by
      unfold ReadAnswer.isEnd at hend
      split at hend
      · simpa [ReadAnswer.isFair] using hfair
      · cases hend
    obtain ⟨bytes, hbytes⟩ := Option.isSome_iff_exists.mp hempty.2
    refine ⟨bytes, hbytes, ?_⟩
    have hprefix := hd.final bytes hbytes
    rwa [hd.carried, hempty.1, List.append_nil] at hprefix

/-- **Every move that conforms keeps the books of a lane.** -/
theorem sound_after (ho : s.outlets.get? k = some o) (hi : s.inlets.get? j = some i)
    (hd : d.Sound o i) {m : Move} (hadmits : d.admits k j m = true) :
    ∃ o' i', (s.move m).outlets.get? k = some o' ∧ (s.move m).inlets.get? j = some i' ∧
      (d.after s k j m).Sound o' i' := by
  cases m with
  | event event =>
    obtain ⟨o', ho', hsent⟩ := Session.outlet_agrees_step ho hd.sent event
    obtain ⟨i', hi', hended⟩ := Session.ended_step_iff hi event
    obtain ⟨i'', hi'', -, hreceived⟩ := Session.inlet_agrees_step hi hd.received event
    cases hi'.symm.trans hi''
    refine ⟨o', i', ho', hi', ?_⟩
    constructor
    · exact hsent
    · exact intact_of_admits hadmits hd _
    · exact hreceived
    · change (d.sent.enter s k event (s.step event).value).accepted =
        (d.received.enter s j event (s.step event).value).arrived ++
          (d.queue.drop (d.removes j event) ++ d.sent.gains k event)
      rw [Outlet.Ledger.accepted_enter, Inlet.Ledger.arrived_enter, gains_received hadmits]
      calc d.sent.accepted ++ d.sent.gains k event
          = d.received.arrived ++ (d.queue.take (d.removes j event) ++
              d.queue.drop (d.removes j event)) ++ d.sent.gains k event := by
            rw [hd.carried, List.take_append_drop]
        _ = d.received.arrived ++ d.queue.take (d.removes j event) ++
              (d.queue.drop (d.removes j event) ++ d.sent.gains k event) := by
            simp only [List.append_assoc]
    · intro bytes hbytes
      change bytes <+: (d.sent.enter s k event (s.step event).value).accepted
      rw [Outlet.Ledger.accepted_enter]
      exact (hd.final bytes hbytes).trans (List.prefix_append _ _)
    · intro hnow
      obtain ⟨bytes, hbytes, hprefix⟩ := ended_of_admits hadmits hd (hended.mp hnow)
      refine ⟨bytes, hbytes, ?_⟩
      change bytes <+: (d.received.enter s j event (s.step event).value).arrived
      rw [Inlet.Ledger.arrived_enter]
      exact hprefix.trans (List.prefix_append _ _)
  | stop l =>
    refine ⟨o, i, ho, hi, ?_⟩
    by_cases hl : l = k
    · simp only [after, if_pos hl]
      refine { hd with final := ?_, ended := ?_ }
      · intro bytes hbytes
        cases hbytes
        cases hfinal : d.final with
        | none => exact List.prefix_refl _
        | some earlier => exact hd.final earlier hfinal
      · intro hended
        obtain ⟨bytes, hbytes, hprefix⟩ := hd.ended hended
        exact ⟨bytes, by simp [hbytes], hprefix⟩
    · simp only [after, if_neg hl]
      exact hd

/-- A whole list of moves that conforms keeps the books of a lane. -/
theorem sound_afterAll (ho : s.outlets.get? k = some o) (hi : s.inlets.get? j = some i)
    (hd : d.Sound o i) {moves : List Move} (hconforms : d.conforms s k j moves = true) :
    ∃ o' i', (s.moves moves).outlets.get? k = some o' ∧
      (s.moves moves).inlets.get? j = some i' ∧ (d.afterAll s k j moves).Sound o' i' := by
  induction moves generalizing s d o i with
  | nil => exact ⟨o, i, ho, hi, hd⟩
  | cons m rest ih =>
    obtain ⟨hadmits, hrest⟩ := Bool.and_eq_true_iff.mp hconforms
    obtain ⟨o', i', ho', hi', hd'⟩ := sound_after ho hi hd hadmits
    exact ih ho' hi' hd' hrest

end Lane

/-! ### What the receiving engine is told -/

namespace Session

/-- An event tells that the stream of the inlet under a key has ended: a request or a read reports
it, or the engine asks whether the stream has ended and is told yes. -/
def TellsEnd (s : Session) (j : Nat) (event : Event) : Prop :=
  s.ReportsEnd j event ∨
    match event, (s.step event).value with
    | .control e number, .code n =>
        s.serves .inbound e j = true ∧ Control.ofNumber number = .ended ∧ n = 1
    | .callControl .inbound (some e) number, .code n =>
        s.resolve .inbound e = some j ∧ Control.ofNumber number = .ended ∧ n = 1
    | _, _ => False

/-- The end is told only where the buffer has drained and the flag is set. -/
theorem drained_of_tellsEnd {s : Session} {j : Nat} {i : Inlet} (hi : s.inlets.get? j = some i)
    {event : Event} (h : s.TellsEnd j event) : i.buffer = [] ∧ i.ended = true := by
  have hquery : ∀ e, s.resolve .inbound e = some j →
      s.onReadControl (some e) .ended = 1 → i.buffer = [] ∧ i.ended = true := by
    intro e he hone
    simp only [onReadControl, Option.bind_some, inletAt?_eq_some_iff.mpr ⟨he, hi⟩, Option.map_some,
      Option.getD_some] at hone
    split at hone
    · next hdrained => exact ⟨List.eq_nil_of_length_eq_zero hdrained.1, hdrained.2⟩
    · cases hone
  rcases h with hreport | hcontrol
  · exact drained_of_reportsEnd hi hreport
  · split at hcontrol
    · next e number n hvalue =>
      obtain ⟨hserves, hended, rfl⟩ := hcontrol
      obtain ⟨⟨b, hb, hform⟩, he⟩ := serves_iff.mp hserves
      simp only [step, control, hb, hform, hended, Reply.ofControl, Reply.code.injEq] at hvalue
      exact hquery e he hvalue
    · next e number n hvalue =>
      obtain ⟨he, hended, rfl⟩ := hcontrol
      simp only [step, hended] at hvalue
      split at hvalue
      · exact hquery e he (Reply.code.inj hvalue)
      · cases hvalue
    · exact hcontrol.elim

end Session

/-- A lane conveys what is sent: all that was appended on one side is what was handed on at the
other, what waits there, what the connection holds and what waits on this side, in this order; and
the end of the stream is told only after everything was handed on that the connection had accepted
when the sender stopped. -/
structure Lane.Conveys (d : Lane) (t : Session) (k j : Nat) : Prop where
  bytes : ∃ o i, t.outlets.get? k = some o ∧ t.inlets.get? j = some i ∧
    d.sent.appended = d.received.handed ++ i.buffer ++ d.queue ++ o.waiting
  ended : ∀ event, t.TellsEnd j event →
    ∃ bytes, d.final = some bytes ∧ bytes <+: d.received.handed

theorem Lane.Sound.conveys {d : Lane} {t : Session} {k j : Nat} {o : Outlet} {i : Inlet}
    (h : d.Sound o i) (ho : t.outlets.get? k = some o) (hi : t.inlets.get? j = some i) :
    d.Conveys t k j where
  bytes := by
    refine ⟨o, i, ho, hi, ?_⟩
    rw [h.sent.balance, h.intact.departed_eq, h.carried, ← h.received.balance]
  ended := by
    intro event htells
    obtain ⟨hbuffer, hended⟩ := Session.drained_of_tellsEnd hi htells
    have hbalance := h.received.balance
    rw [hbuffer, List.append_nil] at hbalance
    rw [hbalance]
    exact h.ended hended

/-! ### Two duplexes -/

namespace Session

/-- A duplex that has been opened has fresh adapters, and the others are as they were. -/
theorem adapters_of_opened {s : Session} {key : Nat} {d : DuplexKeys} {connection : Nat}
    {settings : Settings} {r w : Token}
    (h : (s.step (.openDuplex key d connection settings)).value = .tokens r w) :
    let t := (s.step (.openDuplex key d connection settings)).session
    t.inlets.get? d.inlet =
        some (.make connection settings.releaseBuffers [settings.recordSize]) ∧
      t.outlets.get? d.outlet = some (.make connection settings.releaseBuffers) ∧
      (∀ j i, s.inlets.get? j = some i → t.inlets.get? j = some i) ∧
      ∀ k o, s.outlets.get? k = some o → t.outlets.get? k = some o := by
  obtain ⟨hinlets, houtlets⟩ := adapters_openDuplex s key d connection settings
  simp only [step] at h ⊢
  split at h
  · cases h
  · next hfresh =>
    rw [if_neg hfresh]
    simp only [Bool.or_eq_true, not_or, Table.contains_iff, not_exists] at hfresh
    have hinlet : ∀ j i, s.inlets.get? j = some i → j ≠ d.inlet := by
      rintro j i hj rfl
      exact hfresh.1.1.1.1.2 i hj
    have houtlet : ∀ k o, s.outlets.get? k = some o → k ≠ d.outlet := by
      rintro k o hk rfl
      exact hfresh.1.1.1.2 o hk
    split at h
    · next t read write log hopen =>
      rw [hopen] at hinlets houtlets
      dsimp only at hinlets houtlets ⊢
      rw [hinlets, houtlets]
      refine ⟨by simp, by simp, fun j i hj => ?_, fun k o hk => ?_⟩
      · simp [hinlet j i hj, hj]
      · simp [houtlet k o hk, hk]
    · cases h

/-- **Two duplexes over one connection convey what is sent, both ways.** They may have any settings
and be opened in any session. Whatever the engines and the owners do on the two sides, and however
the connection answers as long as it behaves as a queue each way, nothing is lost, reordered or
repeated, and neither engine is told that the stream has ended before it has read everything that
the connection had accepted when the other side stopped. -/
theorem joined_conveys {s : Session} {a b ca cb : Nat} {ka kb : DuplexKeys} {sa sb : Settings}
    {ra wa rb wb : Token} (ha : (s.step (.openDuplex a ka ca sa)).value = .tokens ra wa)
    (hb : ((s.step (.openDuplex a ka ca sa)).session.step (.openDuplex b kb cb sb)).value =
      .tokens rb wb) {moves : List Move} :
    let t := (s.run [.openDuplex a ka ca sa, .openDuplex b kb cb sb]).1
    (({} : Lane).conforms t ka.outlet kb.inlet moves = true →
      (({} : Lane).afterAll t ka.outlet kb.inlet moves).Conveys (t.moves moves) ka.outlet
        kb.inlet) ∧
    (({} : Lane).conforms t kb.outlet ka.inlet moves = true →
      (({} : Lane).afterAll t kb.outlet ka.inlet moves).Conveys (t.moves moves) kb.outlet
        ka.inlet) := by
  intro t
  obtain ⟨hia, hoa, -, -⟩ := adapters_of_opened ha
  obtain ⟨hib, hob, hinlets, houtlets⟩ := adapters_of_opened hb
  constructor
  · intro hconforms
    obtain ⟨o, i, ho, hi, hsound⟩ :=
      Lane.sound_afterAll (houtlets _ _ hoa) hib (Lane.sound_make _ _ _ _ _) hconforms
    exact hsound.conveys ho hi
  · intro hconforms
    obtain ⟨o, i, ho, hi, hsound⟩ :=
      Lane.sound_afterAll hob (hinlets _ _ hia) (Lane.sound_make _ _ _ _ _) hconforms
    exact hsound.conveys ho hi

/-- A session in which two duplexes have been opened, the second with records of two bytes. -/
def twoDuplexes : Session :=
  (({} : Session).run [.openDuplex 0 ⟨0, 0, 0, 1⟩ 0 {},
    .openDuplex 1 ⟨1, 1, 2, 3⟩ 0 { recordSize := 2 }]).1

/-- The engine of the first writes three bytes. The connection accepts two of them while they are
being flushed, and then no more, and the sender stops. The engine of the second reads both, and the
connection says that the stream has ended. -/
def cutShort : List Move :=
  [.event (.write 1 3 (some [1, 2, 3])), .event (.flushAll 0), .event (.pump 1),
    .event (.writeDone 0 (.accepted 2)), .event (.readDone 1 (.returned 2 [1, 2])),
    .event (.writeDone 0 (.failed (.plain .wouldBlock))), .stop 0, .event (.read 2 4 true),
    .event (.pump 1), .event (.readDone 1 (.returned 0 []))]

theorem joined_conveys_cutShort :
    (∃ o i, (twoDuplexes.moves cutShort).outlets.get? 0 = some o ∧
      (twoDuplexes.moves cutShort).inlets.get? 1 = some i ∧
      [1, 2, 3] = [1, 2] ++ i.buffer ++ [] ++ o.waiting) ∧
    (twoDuplexes.moves cutShort).TellsEnd 1 (.read 2 4 true) ∧
    ∃ bytes : Bytes, some [1, 2] = some bytes ∧ bytes <+: [1, 2] := by
  have hconforms : ({} : Lane).conforms twoDuplexes 0 1 cutShort = true := by decide
  have hconveys := (@joined_conveys {} 0 1 0 0 ⟨0, 0, 0, 1⟩ ⟨1, 1, 2, 3⟩ {} { recordSize := 2 }
    ⟨0⟩ ⟨0⟩ ⟨1⟩ ⟨1⟩ rfl rfl cutShort).1 hconforms
  have hends : (twoDuplexes.moves cutShort).TellsEnd 1 (.read 2 4 true) :=
    Or.inl ⟨by decide, rfl, rfl⟩
  exact ⟨hconveys.bytes, hends, hconveys.ended _ hends⟩

end Session

end Conduit

import Conduit.Proofs.Scenario.Performing
import Conduit.Proofs.Session.Inbound
import Conduit.Proofs.Session.Paths
/-!
# A loop that reads to the end

The owner of an inlet asks for bytes over and over, pumps when there are none yet, goes on when the
pump fails, and stops at the end of the stream. The connection delivers chunks and errors and then
ends; a chunk that does not fit in one read stays in front for the next.

Three sizes have nothing to do with each other: what a read of the connection may give, the record
that a pump asks for, and what the owner asks for. Only the first two decide how many reads there
are. Each takes the front of what is left (`takeOne`), and that one function accounts both for the
bytes and for the reads to come. The third decides no more than how often the owner has to ask.

A record may be so large that there is no room for it. Then a pump panics before it calls the
connection, so the results are about records for which there is room.

## Main definitions

* `Conduit.Scenario.Delivery`: a chunk or an error.
* `Conduit.Scenario.World.readLoop`: the loop, and `Conduit.Scenario.Reading`: what it comes to.
* `Conduit.Scenario.Feeds`: an inlet over a connection that has deliveries left.

## Main results

* `content_takeOne` and `readsFor_takeOne`: one read takes bytes off the front, and takes one read.
* `Feeds.pump`: what a pump does.
* `readLoop_delivers`: the loop ends, and has received everything with no read too many.
* `readLoop_of_overflow`: with a record for which there is no room, the loop panics.
-/

namespace Conduit.Scenario

/-- What a connection has for its reader: some bytes, or an error. -/
inductive Delivery where
  | chunk (data : Bytes) (nonempty : data ≠ [])
  | failure (error : IoError)

namespace Delivery

/-- A delivery as a connection's script lays it down. -/
def plan : Delivery → Planned Op ReadPlan
  | chunk data _ => { act := .give data }
  | failure error => { act := .fail error }

/-- The bytes of a delivery. -/
def data : Delivery → Bytes
  | chunk data _ => data
  | failure _ => []

/-- The number of reads that a delivery takes, if so many bytes pass at a time. -/
def reads (atOnce : ℕ) : Delivery → ℕ
  | chunk data _ => data.length ⌈/⌉ atOnce
  | failure _ => 1

/-- What one read takes from the front of some deliveries, and what it leaves. -/
def takeOne (atOnce : ℕ) : List Delivery → Bytes × List Delivery
  | [] => ([], [])
  | failure _ :: rest => ([], rest)
  | chunk data _ :: rest =>
      (data.take atOnce,
        if h : data.drop atOnce = [] then rest else chunk (data.drop atOnce) h :: rest)

/-- The answer to a read. -/
def answer (atOnce : ℕ) : List Delivery → ReadAnswer
  | [] => .returned 0 []
  | failure error :: _ => .failed error
  | chunk data _ :: _ => .returned (data.take atOnce).length (data.take atOnce)

end Delivery

/-- All the bytes of some deliveries, one after the other. -/
def content (ds : List Delivery) : Bytes := ds.flatMap Delivery.data

/-- The number of reads that some deliveries take. -/
def readsFor (atOnce : ℕ) (ds : List Delivery) : ℕ := (ds.map (Delivery.reads atOnce)).sum

/-! ### One read -/

section TakeOne

open Delivery

variable {n : ℕ} {ds : List Delivery}

theorem content_takeOne (n : ℕ) (ds : List Delivery) :
    (takeOne n ds).1 ++ content (takeOne n ds).2 = content ds := by
  cases ds with
  | nil => rfl
  | cons d rest =>
    cases d with
    | failure error => rfl
    | chunk data nonempty =>
      simp only [takeOne, content, List.flatMap_cons]
      split
      · next hnil => rw [Delivery.data, List.take_of_length_le (List.drop_eq_nil_iff.mp hnil)]
      · rw [List.flatMap_cons, Delivery.data, ← List.append_assoc, List.take_append_drop,
          Delivery.data]

theorem readsFor_takeOne (hn : 0 < n) (hds : ds ≠ []) :
    readsFor n ds = readsFor n (takeOne n ds).2 + 1 := by
  cases ds with
  | nil => exact absurd rfl hds
  | cons d rest =>
    cases d with
    | failure error => simp [readsFor, takeOne, reads, Nat.add_comm]
    | chunk data nonempty =>
      have hone := ceilDiv_eq_sub_ceilDiv_add_one hn (List.length_pos_iff.mpr nonempty)
      simp only [takeOne, readsFor, List.map_cons, List.sum_cons, reads]
      split
      · next hnil =>
        rw [hone, ← List.length_drop, hnil, List.length_nil, zero_ceilDiv]
        omega
      · rw [hone, ← List.length_drop, List.map_cons, List.sum_cons, reads]
        omega

theorem delivers_answer {room : ℕ} (hn : n ≤ room) (ds : List Delivery) :
    (answer n ds).delivers (emptyRoom room) = (takeOne n ds).1 := by
  cases ds with
  | nil => rfl
  | cons d rest =>
    cases d with
    | failure error => rfl
    | chunk data nonempty =>
      have hle : (data.take n).length ≤ room := (List.length_take_le n data).trans hn
      simp only [answer, takeOne, ReadAnswer.delivers, length_emptyRoom, Nat.min_eq_left hle]
      rw [fill_of_length_le (by simpa using hle), List.take_left]

/-- The end of the stream is reported as a read of nothing, and nothing else is. -/
theorem ending_reportRead_answer (hn : 0 < n) (name : String) (room : Bytes)
    (during : List Report) :
    (reportRead name room during (answer n ds)).ending = .returned 0 ↔ ds = [] := by
  cases ds with
  | nil => simp [reportRead, answer]
  | cons d rest =>
    cases d with
    | failure error => simp [reportRead, answer]
    | chunk data nonempty => simp [reportRead, answer, nonempty, hn.ne']

/-- What fits of a chunk is given, and the rest of it stays in front. -/
theorem read_give {l : Line} {m : ℕ} (hlimit : l.readLimit = some m) (room : ℕ) (data : Bytes) :
    l.read room (.give data) =
      ({ l with
          reads := if data.drop (min room m) = [] then l.reads
            else { act := .give (data.drop (min room m)) } :: l.reads },
        .returned (data.take (min room m)).length (data.take (min room m))) := by
  have hcount : Line.limited (min data.length room) l.readLimit = min (min room m) data.length := by
    rw [hlimit, Line.limited]
    omega
  simp only [Line.read, hcount, ← List.take_eq_take_min, ← List.drop_eq_drop_min,
    List.length_take, List.isEmpty_iff]
  split <;> rfl

/-- A connection with that script answers in that way. -/
theorem read_nextRead {l : Line} {m : ℕ} (hscript : l.reads = ds.map plan)
    (hlimit : l.readLimit = some m) (room : ℕ) :
    l.nextRead.2.during = [] ∧
      (l.nextRead.1.read room l.nextRead.2.act).2 = answer (min room m) ds ∧
      (l.nextRead.1.read room l.nextRead.2.act).1.reads = (takeOne (min room m) ds).2.map plan ∧
      (l.nextRead.1.read room l.nextRead.2.act).1.readLimit = some m := by
  cases ds with
  | nil =>
    have hnext : l.nextRead = (l, { act := .give [] }) := by simp [Line.nextRead, hscript]
    rw [hnext, read_give hlimit]
    simp [answer, takeOne, hscript, hlimit]
  | cons d rest =>
    have hnext : l.nextRead = ({ l with reads := rest.map plan }, d.plan) := by
      simp [Line.nextRead, hscript]
    rw [hnext]
    cases d with
    | failure error => exact ⟨rfl, rfl, rfl, hlimit⟩
    | chunk data nonempty =>
      have hgive := @read_give { l with reads := rest.map plan } m hlimit room data
      simp only [plan, hgive]
      refine ⟨trivial, rfl, ?_, hlimit⟩
      simp only [takeOne]
      split <;> rfl

end TakeOne

/-! ### One pump and one request -/

/-- An idle inlet over a connection that has deliveries left, and gives so many bytes at most to a
read. -/
structure Feeds (w : World) (k : ℕ) (i : Inlet) (l : Line) (m : ℕ) (ds : List Delivery) : Prop where
  inlet : w.session.inlets.get? k = some i
  idle : i.reading = false
  line : w.connections.get? i.connection = some (.line l)
  script : l.reads = ds.map Delivery.plan
  limit : l.readLimit = some m

/-- A read of a connection, as it is reported. -/
structure IsRead (name : String) (room : ℕ) (call : CallReport Report) : Prop where
  connection : call.connection = name
  side : call.side = .inbound
  size : call.size = room

section Feeds

open Delivery (takeOne)

variable {w : World} {k m : ℕ} {i : Inlet} {l : Line} {ds : List Delivery}

theorem endPump_answer {i : Inlet} (hm : 0 < m) (hrecord : 0 < i.recordSize) (ds : List Delivery) :
    (i.endPump (Delivery.answer (min i.recordSize m) ds)).1 =
      { i with
        reading := false
        buffer := i.buffer ++ (takeOne (min i.recordSize m) ds).1
        ended := i.ended || ds.isEmpty } := by
  rw [Inlet.endPump_fst, delivers_answer (Nat.min_le_left _ _)]
  cases ds with
  | nil => simp [Delivery.answer]
  | cons d rest =>
    cases d with
    | failure error => simp [Delivery.answer]
    | chunk data nonempty =>
      obtain ⟨n, hn⟩ : ∃ n, (data.take (min i.recordSize m)).length = n + 1 := by
        have := List.length_pos_iff.mpr nonempty
        exact Nat.exists_eq_add_one.mpr (by rw [List.length_take]; omega)
      simp [Delivery.answer, hn]

theorem ofOutcome_endPump_answer_ne (i : Inlet) (n : ℕ) (ds : List Delivery) (panic : Panic) :
    Reply.ofOutcome (i.endPump (Delivery.answer n ds)).2.1 ≠ .panicked panic := by
  rw [Inlet.endPump_snd]
  cases ds with
  | nil => simp [Delivery.answer, Reply.ofOutcome]
  | cons d rest => cases d <;> simp [Delivery.answer, Reply.ofOutcome]

theorem Feeds.request (h : Feeds w k i l m ds) (depth size : ℕ) :
    let done := w.perform (depth + 1) (.request k size)
    done.reply = .readiness (i.request size).1 ∧ done.calls = [] ∧
      Feeds done.world k (i.request size).2 l m ds := by
  have hstep := Session.step_request h.inlet size
  rw [World.perform_of_quiet depth (by simp [hstep])]
  simp only [hstep, Inlet.request_snd]
  exact ⟨trivial, trivial, by simp, h.idle, h.line, h.script, h.limit⟩

/-- **What a pump does.** It reads once, takes in the front of what is left and never panics. The
read returns a zero just when nothing is left, and the stream has ended then. -/
theorem Feeds.pump (h : Feeds w k i l m ds) (hm : 0 < m) (hrecord : 0 < i.recordSize)
    (hroom : i.recordSize ≤ largestRoom) (depth : ℕ) :
    let done := w.perform (depth + 2) (.pump k)
    (∀ panic, done.reply ≠ .panicked panic) ∧
      (∃ call, done.calls = [call] ∧ IsRead l.name i.recordSize call ∧
        (call.ending = .returned 0 ↔ ds = [])) ∧
      ∃ l', l'.name = l.name ∧ Feeds done.world k
        { i with
          buffer := i.buffer ++ (takeOne (min i.recordSize m) ds).1
          ended := i.ended || ds.isEmpty }
        l' m (takeOne (min i.recordSize m) ds).2 := by
  obtain ⟨hduring, hanswer, hreads, hlimit⟩ := read_nextRead h.script h.limit i.recordSize
  have hpump : w.session.step (.pump k) = ⟨w.session.putInlet k { i with reading := true },
      .calls (.read k i.connection (emptyRoom i.recordSize)), []⟩ := by
    rcases Session.pump_cases h.inlet with ⟨hbusy, -⟩ | ⟨-, hover, -⟩ | ⟨-, -, hpump⟩
    · simp [h.idle] at hbusy
    · omega
    · exact hpump
  obtain ⟨w', hsession, hline, hperform⟩ :=
    World.perform_of_read depth (by rw [hpump]) h.line hduring
  rw [length_emptyRoom] at hline hperform
  rw [hpump] at hsession
  have hinlet : w'.session.inlets.get? k = some { i with reading := true } := by simp [hsession]
  have hdone := Session.readDone_of_reading hinlet rfl (Delivery.answer (min i.recordSize m) ds)
  rw [hperform, hanswer]
  simp only
  rw [World.perform_of_quiet depth (by simp [Session.step, hdone, Session.ofOutcome_ne_calls])]
  simp only [Session.step, hdone]
  refine ⟨ofOutcome_endPump_answer_ne _ _ _, ⟨_, rfl, ⟨rfl, rfl, length_emptyRoom _⟩, ?_⟩,
    (l.nextRead.1.read i.recordSize l.nextRead.2.act).1, by simp, ?_⟩
  · exact ending_reportRead_answer (by omega) _ _ _
  · refine ⟨?_, h.idle, hline, hreads, hlimit⟩
    have hend := @endPump_answer m { i with reading := true } hm hrecord ds
    simp [hend, h.idle]

end Feeds

/-! ### The loop -/

/-- What a loop that reads came to. -/
structure Reading where
  world : World
  /-- The bytes that the owner got, in order. -/
  received : Bytes := []
  calls : List (CallReport Report) := []
  /-- The panic that cut the loop short. -/
  panic : Option Panic := none

/-- The loop with what had been received and called before. -/
def Reading.after (r : Reading) (data : Bytes) (calls : List (CallReport Report)) : Reading :=
  { r with received := data ++ r.received, calls := calls ++ r.calls }

/-- Asks for so many bytes over and over. While there are none yet it pumps, and goes on whether
that fails or not; it stops at the end of the stream. The last argument but one bounds how often it
may ask. -/
def World.readLoop (depth k size : ℕ) : ℕ → World → Option Reading
  | 0, _ => none
  | turns + 1, w =>
      let asked := w.perform depth (.request k size)
      match asked.reply with
      | .readiness (.ready data) =>
          (readLoop depth k size turns asked.world).map fun r => r.after data asked.calls
      | .readiness .wouldBlock =>
          let pumped := asked.world.perform depth (.pump k)
          let calls := asked.calls ++ pumped.calls
          match pumped.reply with
          | .panicked panic => some { world := pumped.world, calls, panic }
          | _ => (readLoop depth k size turns pumped.world).map fun r => r.after [] calls
      | .readiness .ended => some { world := asked.world, calls := asked.calls }
      | _ => none

/-- The loop has received those bytes, with so many reads of the connection and one more, which
found the end of the stream. -/
structure Delivers (name : String) (room reads : ℕ) (data : Bytes) (r : Reading) : Prop where
  panic : r.panic = none
  received : r.received = data
  isRead : ∀ call ∈ r.calls, IsRead name room call
  calls : ∃ before last, r.calls = before ++ [last] ∧ before.length = reads ∧
    last.ending = .returned 0 ∧ ∀ call ∈ before, call.ending ≠ .returned 0

namespace Delivers

variable {name : String} {room reads : ℕ} {data : Bytes} {r : Reading} {call : CallReport Report}

/-- A read that finds the end is the only one. -/
theorem of_end (w : World) (hread : IsRead name room call) (hending : call.ending = .returned 0) :
    Delivers name room 0 [] (Reading.after { world := w } [] [call]) where
  panic := rfl
  received := rfl
  isRead := by simpa [Reading.after] using hread
  calls := ⟨[], call, rfl, rfl, hending, by simp⟩

/-- Any other read is one more. -/
theorem after_pump (h : Delivers name room reads data r) (hread : IsRead name room call)
    (hending : call.ending ≠ .returned 0) :
    Delivers name room (reads + 1) data (r.after [] [call]) where
  panic := h.panic
  received := h.received
  isRead := List.forall_mem_cons.mpr ⟨hread, h.isRead⟩
  calls := by
    obtain ⟨before, last, hcalls, hlength, hlast, hbefore⟩ := h.calls
    exact ⟨call :: before, last, by simp [Reading.after, hcalls], by simp [hlength], hlast,
      List.forall_mem_cons.mpr ⟨hending, hbefore⟩⟩

theorem after_request (h : Delivers name room reads data r) (front : Bytes) :
    Delivers name room reads (front ++ data) (r.after front []) where
  panic := h.panic
  received := congrArg (front ++ ·) h.received
  isRead := h.isRead
  calls := h.calls

end Delivers

section Loop

variable {w : World} {k m size turns : ℕ} {i : Inlet} {l : Line} {ds : List Delivery}

theorem readLoop_of_ended (h : Feeds w k i l m ds) (hbuffer : i.buffer = [])
    (hended : i.ended = true) (depth size turns : ℕ) :
    ∃ w', w.readLoop (depth + 1) k size (turns + 1) = some { world := w' } := by
  obtain ⟨hreply, hcalls, -⟩ := h.request depth size
  rw [Inlet.request_of_empty hbuffer, hended] at hreply
  simp [World.readLoop, hreply, hcalls]

theorem readLoop_of_buffered (h : Feeds w k i l m ds) (hbuffer : i.buffer ≠ [])
    (depth size turns : ℕ) :
    ∃ w', Feeds w' k { i with buffer := i.buffer.drop size } l m ds ∧
      w.readLoop (depth + 1) k size (turns + 1) =
        (w'.readLoop (depth + 1) k size turns).map fun r => r.after (i.buffer.take size) [] := by
  obtain ⟨hreply, hcalls, hfeeds⟩ := h.request depth size
  rw [Inlet.request_of_buffered hbuffer] at hreply hfeeds
  exact ⟨_, hfeeds, by simp [World.readLoop, hreply, hcalls]⟩

theorem readLoop_of_waiting (h : Feeds w k i l m ds) (hbuffer : i.buffer = [])
    (hopen : i.ended = false) (hm : 0 < m) (hrecord : 0 < i.recordSize)
    (hroom : i.recordSize ≤ largestRoom) (depth size turns : ℕ) :
    ∃ w' l' call, l'.name = l.name ∧ IsRead l.name i.recordSize call ∧
      (call.ending = .returned 0 ↔ ds = []) ∧
      Feeds w' k
        { i with buffer := (Delivery.takeOne (min i.recordSize m) ds).1, ended := ds.isEmpty }
        l' m (Delivery.takeOne (min i.recordSize m) ds).2 ∧
      w.readLoop (depth + 2) k size (turns + 1) =
        (w'.readLoop (depth + 2) k size turns).map fun r => r.after [] [call] := by
  obtain ⟨hreply, hcalls, hasked⟩ := h.request (depth + 1) size
  rw [Inlet.request_of_empty hbuffer] at hreply hasked
  obtain ⟨hpanic, ⟨call, hcall, hread, hending⟩, l', hname, hfeeds⟩ :=
    hasked.pump hm hrecord hroom depth
  simp only [hbuffer, List.nil_append, hopen, Bool.false_or] at hfeeds
  refine ⟨_, l', call, hname, hread, hending, hfeeds, ?_⟩
  simp only [hopen, Bool.false_eq_true, if_false] at hreply
  simp only [World.readLoop, hreply, hcalls, hcall, List.nil_append]

/-- Where there is no room for a record, the first pump panics, and no connection is called. -/
theorem readLoop_of_overflow (h : Feeds w k i l m ds) (hbuffer : i.buffer = [])
    (hopen : i.ended = false) (hroom : largestRoom < i.recordSize) (depth size turns : ℕ) :
    ∃ w', w.readLoop (depth + 1) k size (turns + 1) =
      some { world := w', panic := some (.text "capacity overflow") } := by
  obtain ⟨hreply, hcalls, hasked⟩ := h.request depth size
  rw [Inlet.request_of_empty hbuffer] at hreply hasked
  simp only [hopen, Bool.false_eq_true, if_false] at hreply
  obtain ⟨hbusy, -⟩ | ⟨-, -, hpump⟩ | ⟨-, hfits, -⟩ := Session.pump_cases hasked.inlet
  · simp [h.idle] at hbusy
  · have hquiet : ∀ call, ((w.perform (depth + 1) (.request k size)).world.session.step
        (.pump k)).value ≠ .calls call := by simp [Session.step, hpump]
    have hpumped := World.perform_of_quiet depth hquiet
    simp only [Session.step, hpump] at hpumped
    simp [World.readLoop, hreply, hcalls, hpumped]
  · exact absurd hroom (Nat.not_lt.mpr hfits)

/-- **The loop receives everything.** If it may ask often enough it ends, and has received what was
buffered and the bytes of all deliveries, in order. It has read from the connection as often as the
deliveries take by themselves, and once more; that last read found the end. -/
theorem readLoop_delivers (hm : 0 < m) (hsize : 0 < size) (depth : ℕ) (h : Feeds w k i l m ds)
    (hopen : i.ended = false) (hrecord : 0 < i.recordSize) (hroom : i.recordSize ≤ largestRoom)
    (hturns :
      i.buffer.length + (content ds).length + readsFor (min i.recordSize m) ds + 2 ≤ turns) :
    ∃ r, w.readLoop (depth + 2) k size turns = some r ∧
      Delivers l.name i.recordSize (readsFor (min i.recordSize m) ds)
        (i.buffer ++ content ds) r := by
  -- a turn hands on buffered bytes, or takes one of the reads to come and buffers what that gave
  induction turns generalizing w i l ds with
  | zero => omega
  | succ turns ih =>
    by_cases hbuffer : i.buffer = []
    · obtain ⟨w', l', call, hname, hread, hending, hfeeds, hloop⟩ :=
        readLoop_of_waiting h hbuffer hopen hm hrecord hroom depth size turns
      rw [hloop, hbuffer, List.nil_append]
      by_cases hds : ds = []
      · subst hds
        obtain ⟨n, rfl⟩ : ∃ n, turns = n + 1 := Nat.exists_eq_add_one.mpr (by omega)
        obtain ⟨w'', hended⟩ := readLoop_of_ended hfeeds rfl rfl (depth + 1) size n
        exact ⟨_, by rw [hended]; rfl, .of_end w'' hread (hending.mpr rfl)⟩
      · have hcontent := content_takeOne (min i.recordSize m) ds
        have hreads := readsFor_takeOne (n := min i.recordSize m) (by omega) hds
        have hlength := congrArg List.length hcontent
        rw [List.length_append] at hlength
        obtain ⟨r, hr, hdelivers⟩ :=
          ih hfeeds (by simpa using hds) hrecord hroom (by simp only; omega)
        simp only [hname, hcontent] at hdelivers
        rw [hr, hreads]
        exact ⟨_, rfl, hdelivers.after_pump hread (hending.not.mpr hds)⟩
    · obtain ⟨w', hfeeds, hloop⟩ := readLoop_of_buffered h hbuffer (depth + 1) size turns
      have hpos := List.length_pos_iff.mpr hbuffer
      obtain ⟨r, hr, hdelivers⟩ :=
        ih hfeeds hopen hrecord hroom (by simp only [List.length_drop]; omega)
      rw [hloop, hr]
      refine ⟨_, rfl, ?_⟩
      have hfront := hdelivers.after_request (i.buffer.take size)
      rwa [← List.append_assoc, List.take_append_drop] at hfront

end Loop

/-- A new inlet with records of that size, over a connection with those deliveries. -/
def feeding (recordSize m : ℕ) (ds : List Delivery) : World where
  session := ({} : Session).putInlet 0 (.make 0 false [recordSize])
  connections := (∅ : Table Nat Connection).put 0
    (.line { name := "c", reads := ds.map Delivery.plan, readLimit := some m })

theorem feeds_feeding (recordSize m : ℕ) (ds : List Delivery) :
    Feeds (feeding recordSize m ds) 0 (.make 0 false [recordSize])
      { name := "c", reads := ds.map Delivery.plan, readLimit := some m } m ds := by
  refine ⟨by simp [feeding], ?_, ?_, rfl, rfl⟩ <;>
    by_cases h : recordSize = 0 <;>
      simp [feeding, Inlet.make, Inlet.withRecordSize, Inlet.withReleaseBuffers, h]

/-- Five bytes, an interruption and one more byte. -/
def unevenDeliveries : List Delivery :=
  [.chunk [1, 2, 3, 4, 5] (by simp), .failure (.plain .interrupted), .chunk [6] (by simp)]

theorem readLoop_delivers_unevenSizes :
    ∃ r, (feeding 3 2 unevenDeliveries).readLoop 2 0 4 13 = some r ∧
      Delivers "c" 3 5 [1, 2, 3, 4, 5, 6] r :=
  readLoop_delivers (by decide) (by decide) 0 (feeds_feeding 3 2 unevenDeliveries) rfl (by decide)
    (by decide) (by decide)

/-- With a record for which there is no room, the loop does not receive as much as a single byte. -/
theorem readLoop_misses_hugeRecord :
    let ds := [Delivery.chunk [97] (by simp)]
    Feeds (feeding (2 ^ 63) 1 ds) 0 (.make 0 false [2 ^ 63])
        { name := "c", reads := ds.map Delivery.plan, readLimit := some 1 } 1 ds ∧
      (Inlet.make 0 false [2 ^ 63]).recordSize = 2 ^ 63 ∧
      ¬ ∃ depth turns r, (feeding (2 ^ 63) 1 ds).readLoop (depth + 2) 0 1 turns = some r ∧
        r.received = content ds ∧ r.calls.length = readsFor (min (2 ^ 63) 1) ds + 1 := by
  refine ⟨feeds_feeding _ _ _, rfl, ?_⟩
  rintro ⟨depth, turns, r, hloop, hreceived, -⟩
  cases turns with
  | zero => cases hloop
  | succ turns =>
    obtain ⟨w', hpanicked⟩ := readLoop_of_overflow
      (feeds_feeding (2 ^ 63) 1 [.chunk [97] (by simp)]) rfl rfl (by decide) (depth + 1) 1 turns
    cases hpanicked.symm.trans hloop
    cases hreceived

end Conduit.Scenario

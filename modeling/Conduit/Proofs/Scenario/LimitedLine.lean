import Conduit.Proofs.Scenario.Performing
import Conduit.Proofs.Session.Draining
import Conduit.Proofs.Session.Paths
/-!
# Draining through a connection that takes little at a time

An outlet over a connection that accepts a few bytes of a write at most, however much it is offered.
Each flush offers all that is left. So the first write is offered the whole data, the next one the
data from where the first ended, and so on (`blocks`), until nothing is left. Draining in one call
makes the same writes as one flush after the other.

The connection never fails, and nothing else happens while it writes. What becomes of draining then
is the subject of `Conduit.Proofs.Session.Draining`.

## Main definitions

* `Conduit.Scenario.Limited`: an outlet over such a connection.
* `Conduit.Scenario.blocks`: the blocks that are offered one after the other.

## Main results

* `Limited.flush`, `Limited.flushes`: what a flush does, and any number of them.
* `Limited.flushAll`: what draining does.
* `limited_drain`: data appended in any pieces, sent by flushes or by draining.
-/

namespace Conduit.Scenario

/-- An outlet with such a queue and nothing in flight, over a connection that accepts so many bytes
of a write at most. -/
structure Limited (w : World) (k c : ℕ) (queue : Bytes) (l : Line) (limit : ℕ) : Prop where
  outlet : ∃ o, w.session.outlets.get? k = some o ∧ o.connection = c ∧ o.queue = queue ∧
    o.flight = none ∧ o.inFlight = 0
  line : w.connections.get? c = some (.line l)
  script : l.writes = []
  limit : l.writeLimit = some limit

/-- The blocks that so many writes are offered: all of the data, and what each write leaves. -/
def blocks (limit : ℕ) (data : Bytes) (count : ℕ) : List Bytes :=
  (List.range count).map fun i => data.drop (i * limit)

/-- A write that was offered that block, as it is reported. -/
def offered (name : String) (limit : ℕ) (block : Bytes) : CallReport Report :=
  reportWrite name block [] (.accepted (min limit block.length))

theorem blocks_succ (limit : ℕ) (data : Bytes) (count : ℕ) :
    blocks limit data (count + 1) = data :: blocks limit (data.drop limit) count := by
  rw [blocks, List.range_succ_eq_map, List.map_cons, List.map_map, Nat.zero_mul, List.drop_zero,
    blocks]
  congr 1
  refine List.map_congr_left fun i _ => ?_
  rw [Function.comp_apply, List.drop_drop, Nat.succ_mul, Nat.add_comm]

/-! ### One write -/

/-- A connection with nothing laid down accepts what its limit allows. -/
theorem write_nextWrite {l : Line} {limit : ℕ} (hscript : l.writes = [])
    (hlimit : l.writeLimit = some limit) (block : Bytes) :
    l.nextWrite.2.during = [] ∧
      l.nextWrite.1.write block l.nextWrite.2.act =
        ({ l with accepted := l.accepted ++ block.take limit },
          .accepted (min limit block.length)) := by
  have hnext : l.nextWrite = (l, { act := .accept none }) := by simp [Line.nextWrite, hscript]
  rw [hnext]
  refine ⟨rfl, ?_⟩
  have hcount : Line.limited (Line.limited block.length l.writeLimit) none =
      min limit block.length := by
    rw [hlimit, Line.limited, Line.limited, Nat.min_comm]
  simp only [Line.write, hcount, ← List.take_eq_take_min]

/-- An event that has such a connection offered a block. -/
structure Offering (w : World) (event : Event) (k c : ℕ) (block : Bytes) (purpose : Purpose)
    (l : Line) (limit : ℕ) : Prop where
  calls : (w.session.step event).value = .calls (.write k c block)
  outlet : ∃ o, (w.session.step event).session.outlets.get? k = some o ∧ o.connection = c ∧
    o.queue = [] ∧ o.flight = some ⟨block, purpose⟩
  line : w.connections.get? c = some (.line l)
  script : l.writes = []
  limit : l.writeLimit = some limit

section Offering

variable {w : World} {event : Event} {k c limit total depth : ℕ} {l : Line} {block : Bytes}
  {purpose : Purpose}

/-- The connection accepts what its limit allows, and the event goes on with that answer. -/
theorem Offering.answered (h : Offering w event k c block purpose l limit) (depth : ℕ) :
    ∃ w' : World, w'.session = (w.session.step event).session ∧
      w'.connections.get? c =
        some (.line { l with accepted := l.accepted ++ block.take limit }) ∧
      let rest := w'.perform (depth + 1) (.writeDone k (.accepted (min limit block.length)))
      let done := w.perform (depth + 2) event
      done.world = rest.world ∧ done.reply = rest.reply ∧
        done.calls = offered l.name limit block :: rest.calls := by
  obtain ⟨hduring, hwrite⟩ := write_nextWrite h.script h.limit block
  obtain ⟨w', hsession, hline, hperform⟩ :=
    World.perform_of_write depth h.calls h.line hduring
  rw [hwrite] at hline hperform
  exact ⟨w', hsession, hline, by rw [hperform], by rw [hperform], by rw [hperform]; rfl⟩

theorem land_of_limit {o : Outlet} (hqueue : o.queue = []) (block : Bytes) (limit : ℕ) :
    o.land block (.accepted (min limit block.length)) =
      ({ o with queue := block.drop limit, inFlight := 0, flight := none },
        .value (min limit block.length)) := by
  simp [Outlet.land, hqueue, ← List.drop_eq_drop_min]

/-- The answer ends the operation that the write is part of, where that has no more to offer. -/
theorem Offering.over (h : Offering w event k c block purpose l limit)
    (hpurpose : purpose ≠ .control) {total : ℕ}
    (hresume : ∀ o : Outlet, o.queue = block.drop limit → o.inFlight = 0 →
      o.resume purpose (.value (min limit block.length)) = (o, .ended (.value total)))
    (depth : ℕ) :
    let done := w.perform (depth + 2) event
    done.reply = .count total ∧ done.calls = [offered l.name limit block] ∧
      Limited done.world k c (block.drop limit)
        { l with accepted := l.accepted ++ block.take limit } limit := by
  obtain ⟨w', hsession, hline, hworld, hreply, hcalls⟩ := h.answered depth
  obtain ⟨o, hk, hc, hqueue, hflight⟩ := h.outlet
  rw [← hsession] at hk
  obtain ⟨hget, hvalue⟩ :=
    Session.writeDone_of_flight hk hflight (.accepted (min limit block.length))
  rw [land_of_limit hqueue, hresume _ rfl rfl] at hget hvalue
  have hcount : (Reply.ofFlush k o.connection purpose (.ended (.value total))).1 =
      .count total := by
    cases purpose with
    | control => exact absurd rfl hpurpose
    | _ => rfl
  have hstep := hvalue.trans hcount
  rw [World.perform_of_quiet depth (by simp [Session.step, hstep])] at hworld hreply hcalls
  refine ⟨hreply.trans hstep, hcalls, ?_⟩
  rw [hworld]
  exact ⟨⟨_, hget, hc, rfl, rfl, rfl⟩, hline, h.script, h.limit⟩

/-- Draining goes on with what is left of a block. -/
theorem Offering.next (h : Offering w event k c block (.drain total) l limit) (hlimit : 0 < limit)
    (hleft : block.drop limit ≠ []) (depth : ℕ) :
    ∃ (w' : World) (event' : Event),
      Offering w' event' k c (block.drop limit) (.drain (total + limit))
        { l with accepted := l.accepted ++ block.take limit } limit ∧
      let rest := w'.perform (depth + 1) event'
      let done := w.perform (depth + 2) event
      done.world = rest.world ∧ done.reply = rest.reply ∧
        done.calls = offered l.name limit block :: rest.calls := by
  obtain ⟨w', hsession, hline, hdone⟩ := h.answered depth
  obtain ⟨o, hk, hc, hqueue, hflight⟩ := h.outlet
  rw [← hsession] at hk
  obtain ⟨hget, hvalue⟩ :=
    Session.writeDone_of_flight hk hflight (.accepted (min limit block.length))
  have hlt : limit < block.length := by simpa using hleft
  rw [land_of_limit hqueue] at hget hvalue
  simp only [Nat.min_eq_left hlt.le, Outlet.resume, hlimit.ne', false_and, if_false,
    Outlet.drain_of_exact, hleft] at hget hvalue hdone
  exact ⟨w', .writeDone k (.accepted limit), ⟨hvalue.trans (by rw [hc]; rfl),
    ⟨_, hget, hc, rfl, rfl⟩, hline, h.script, h.limit⟩, hdone⟩

/-- What is offered to drain an outlet goes out to its end, in as many writes as it takes. -/
theorem Offering.drains (hlimit : 0 < limit) (hblock : block ≠ [])
    (h : Offering w event k c block (.drain total) l limit)
    (hdepth : block.length ⌈/⌉ limit < depth) :
    let done := w.perform depth event
    done.reply = .count (total + block.length) ∧
      done.calls = (blocks limit block (block.length ⌈/⌉ limit)).map (offered l.name limit) ∧
      Limited done.world k c [] { l with accepted := l.accepted ++ block } limit := by
  -- each write goes one level deeper, with what the one before it left
  induction depth generalizing w event block total l with
  | zero => omega
  | succ depth ih =>
    have hpos := List.length_pos_iff.mpr hblock
    have hwrites := ceilDiv_eq_sub_ceilDiv_add_one hlimit hpos
    rw [← List.length_drop] at hwrites
    obtain ⟨n, rfl⟩ : ∃ n, depth = n + 1 := Nat.exists_eq_add_one.mpr (by omega)
    by_cases hleft : block.drop limit = []
    · have hall := List.drop_eq_nil_iff.mp hleft
      have hresume (o : Outlet) (hqueue : o.queue = block.drop limit) (hexact : o.inFlight = 0) :
          o.resume (.drain total) (.value (min limit block.length)) =
            (o, .ended (.value (total + block.length))) := by
        simp [Outlet.resume, Outlet.drain_of_exact hexact, hqueue, hleft, Nat.min_eq_right hall,
          hpos.ne']
      obtain ⟨hreply, hcalls, hlimited⟩ := h.over (by simp) hresume n
      rw [hleft, List.take_of_length_le hall] at hlimited
      rw [hleft, List.length_nil, zero_ceilDiv] at hwrites
      refine ⟨hreply, ?_, hlimited⟩
      rw [hcalls, hwrites, blocks_succ]
      rfl
    · obtain ⟨w', event', hoffering, hworld, hreply, hcalls⟩ := h.next hlimit hleft n
      obtain ⟨hcount, hothers, hlimited⟩ := ih hleft hoffering (by omega)
      have hlength : limit + (block.drop limit).length = block.length := by
        have hlt : limit < block.length := by simpa using hleft
        rw [List.length_drop]
        omega
      refine ⟨hreply.trans (hcount.trans (by rw [Nat.add_assoc, hlength])), ?_, ?_⟩
      · rw [hcalls, hothers, hwrites, blocks_succ, List.map_cons]
      · rw [hworld]
        simpa using hlimited

end Offering

/-! ### Appends, flushes and draining -/

/-- What a connection that follows a script has accepted so far. -/
def World.accepted? (w : World) (c : ℕ) : Option Bytes :=
  match w.connections.get? c with
  | some (.line l) => some l.accepted
  | _ => none

section Limited

variable {w : World} {k c limit : ℕ} {queue : Bytes} {l : Line}

theorem Limited.pending (h : Limited w k c queue l limit) :
    w.pending (.outlet k) = queue.length := by
  obtain ⟨o, hk, -, hqueue, -, hexact⟩ := h.outlet
  simp [World.pending, hk, Outlet.pending, hqueue, hexact]

theorem Limited.accepted? (h : Limited w k c queue l limit) : w.accepted? c = some l.accepted := by
  simp [World.accepted?, h.line]

theorem Limited.append (h : Limited w k c queue l limit) (depth : ℕ) (data : Bytes) :
    let done := w.perform (depth + 1) (.append k data)
    Limited done.world k c (queue ++ data) l limit ∧
      done.world.session.duplexes = w.session.duplexes := by
  obtain ⟨o, hk, hc, rfl, hidle, hexact⟩ := h.outlet
  have hstep := Session.step_append hk data
  rw [World.perform_of_quiet depth (by simp [hstep])]
  simp only [hstep]
  exact ⟨⟨⟨o.append data, by simp, hc, rfl, hidle, hexact⟩, h.line, h.script, h.limit⟩, rfl⟩

/-- However data is cut into pieces, appending them leaves it in the queue. -/
theorem Limited.appends (h : Limited w k c queue l limit) (depth : ℕ) (pieces : List Bytes) :
    let done := w.performAll (depth + 1) (pieces.map (.append k))
    Limited done.1 k c (queue ++ pieces.flatten) l limit ∧
      done.1.session.duplexes = w.session.duplexes := by
  induction pieces generalizing w queue with
  | nil => exact ⟨by simpa [World.performAll] using h, rfl⟩
  | cons data rest ih =>
    obtain ⟨hfirst, hsame⟩ := h.append depth data
    obtain ⟨hrest, hothers⟩ := ih hfirst
    refine ⟨?_, hothers.trans hsame⟩
    rw [List.flatten_cons, ← List.append_assoc]
    exact hrest

/-- With nothing in flight, a flush and draining start alike. -/
theorem start_of_exact {o : Outlet} (hidle : o.flight = none) (hexact : o.inFlight = 0)
    {purpose : Purpose} (hpurpose : purpose = .single ∨ purpose = .drain 0) :
    o.start purpose =
      if o.queue = [] then (o, .ended (.value 0))
      else
        ({ o with queue := [], inFlight := o.queue.length, flight := some ⟨o.queue, purpose⟩ },
          .writing o.queue) := by
  by_cases hqueue : o.queue = []
  · rcases hpurpose with rfl | rfl <;>
      simp [Outlet.start, Outlet.pending, hidle, hexact, hqueue, Outlet.begin_of_empty]
  · rcases hpurpose with rfl | rfl <;>
      simp [Outlet.start, Outlet.pending, hidle, hexact, hqueue, Outlet.begin_of_queued,
        Outlet.drain_of_exact]

section Start

variable {event : Event} {purpose : Purpose}

/-- With an empty queue there is nothing to call the connection for. -/
theorem Limited.ended (h : Limited w k c [] l limit)
    (hstep : w.session.step event = w.session.flushFor k purpose)
    (hpurpose : purpose = .single ∨ purpose = .drain 0) (depth : ℕ) :
    let done := w.perform (depth + 1) event
    done.reply = .count 0 ∧ done.calls = [] ∧ Limited done.world k c [] l limit := by
  obtain ⟨o, hk, hc, hqueue, hidle, hexact⟩ := h.outlet
  obtain ⟨hget, hvalue⟩ := Session.flushFor_self hk purpose
  rw [← hstep, start_of_exact hidle hexact hpurpose, if_pos hqueue] at hget hvalue
  have hcount : (w.session.step event).value = .count 0 := by
    rw [hvalue]
    rcases hpurpose with rfl | rfl <;> rfl
  rw [World.perform_of_quiet depth (by simp [hcount])]
  exact ⟨hcount, rfl, ⟨o, hget, hc, hqueue, hidle, hexact⟩, h.line, h.script, h.limit⟩

/-- Any other queue is offered as a whole. -/
theorem Limited.offering (h : Limited w k c queue l limit) (hqueue : queue ≠ [])
    (hstep : w.session.step event = w.session.flushFor k purpose)
    (hpurpose : purpose = .single ∨ purpose = .drain 0) :
    Offering w event k c queue purpose l limit := by
  obtain ⟨o, hk, rfl, rfl, hidle, hexact⟩ := h.outlet
  obtain ⟨hget, hvalue⟩ := Session.flushFor_self hk purpose
  rw [← hstep, start_of_exact hidle hexact hpurpose, if_neg hqueue] at hget hvalue
  exact ⟨hvalue, ⟨_, hget, rfl, rfl, rfl⟩, h.line, h.script, h.limit⟩

end Start

/-- A flush of an empty queue calls no connection; any other offers it the whole queue once. -/
theorem Limited.flush (h : Limited w k c queue l limit) (depth : ℕ) :
    let done := w.perform (depth + 2) (.flush k)
    done.reply = .count (min limit queue.length) ∧
      done.calls = (if queue = [] then [] else [offered l.name limit queue]) ∧
      Limited done.world k c (queue.drop limit)
        { l with accepted := l.accepted ++ queue.take limit } limit := by
  have hstep : w.session.step (.flush k) = w.session.flushFor k .single := rfl
  by_cases hqueue : queue = []
  · subst hqueue
    simpa using h.ended hstep (.inl rfl) (depth + 1)
  · rw [if_neg hqueue]
    exact (h.offering hqueue hstep (.inl rfl)).over (by simp) (fun o _ _ => rfl) depth

/-- **Any number of flushes.** Each takes what the limit allows off the front, until nothing is
left. From then on no flush calls the connection. -/
theorem Limited.flushes (hlimit : 0 < limit) (h : Limited w k c queue l limit) (depth n : ℕ) :
    let done := w.performAll (depth + 2) (List.replicate n (.flush k))
    done.2.map (·.reply) =
        (List.range n).map (fun i => .count (min limit (queue.length - i * limit))) ∧
      done.2.flatMap (·.calls) =
        (blocks limit queue (min n (queue.length ⌈/⌉ limit))).map (offered l.name limit) ∧
      Limited done.1 k c (queue.drop (n * limit))
        { l with accepted := l.accepted ++ queue.take (n * limit) } limit := by
  -- the first flush is split off, as the others offer what it leaves
  induction n generalizing w queue l with
  | zero =>
    refine ⟨rfl, ?_, ?_⟩
    · rw [Nat.zero_min]
      rfl
    · simpa [World.performAll] using h
  | succ n ih =>
    obtain ⟨hreply, hcalls, hlimited⟩ := h.flush depth
    obtain ⟨hreplies, hothers, hrest⟩ := ih hlimited
    rw [List.replicate_succ]
    refine ⟨?_, ?_, ?_⟩
    · rw [World.performAll, List.map_cons, hreply, hreplies, List.range_succ_eq_map, List.map_cons,
        List.map_map, Nat.zero_mul, Nat.sub_zero]
      congr 1
      refine List.map_congr_left fun i _ => ?_
      rw [Function.comp_apply, List.length_drop, Nat.sub_sub, Nat.succ_mul, Nat.add_comm limit]
    · rw [World.performAll, List.flatMap_cons, hcalls, hothers]
      by_cases hqueue : queue = []
      · simp [hqueue, blocks]
      · have hwrites := ceilDiv_eq_sub_ceilDiv_add_one hlimit (List.length_pos_iff.mpr hqueue)
        rw [← List.length_drop] at hwrites
        rw [if_neg hqueue, hwrites, Nat.add_min_add_right, blocks_succ, List.map_cons]
        rfl
    · rw [World.performAll]
      rw [List.drop_drop, List.append_assoc, ← List.take_add, Nat.add_comm limit,
        ← Nat.succ_mul] at hrest
      exact hrest

/-- **Draining.** It makes as many writes as it takes, and says how many bytes there were. -/
theorem Limited.flushAll (hlimit : 0 < limit) (h : Limited w k c queue l limit) {j : ℕ} {d : Duplex}
    (hj : w.session.duplexes.get? j = some d) (hd : d.outlet = k) {depth : ℕ}
    (hdepth : queue.length ⌈/⌉ limit < depth) :
    let done := w.perform depth (.flushAll j)
    done.reply = .count queue.length ∧
      done.calls =
        (blocks limit queue (queue.length ⌈/⌉ limit)).map (offered l.name limit) ∧
      Limited done.world k c [] { l with accepted := l.accepted ++ queue } limit := by
  have hstep : w.session.step (.flushAll j) = w.session.flushFor k (.drain 0) := by
    simp [Session.step, hj, hd]
  by_cases hqueue : queue = []
  · subst hqueue
    obtain ⟨n, rfl⟩ : ∃ n, depth = n + 1 := Nat.exists_eq_add_one.mpr (by omega)
    simpa [blocks] using h.ended hstep (.inr rfl) n
  · simpa using (h.offering hqueue hstep (.inr rfl)).drains hlimit hqueue hdepth

/-- **Draining through a limited connection.** However the data was cut into the pieces that were
appended, it goes out in the same way. After any number of flushes the connection has the front of
the data, as much as the limit allows each time, and the rest is pending; each write was offered all
that the writes before it had left. Draining makes those same writes in one call, as many as it
takes, and leaves nothing for any further flush to write. -/
theorem limited_drain (hlimit : 0 < limit) (h : Limited w k c [] l limit) (pieces : List Bytes)
    {depth : ℕ} (hdepth : pieces.flatten.length ⌈/⌉ limit + 2 ≤ depth) :
    let data := pieces.flatten
    let writes := data.length ⌈/⌉ limit
    let appended := (w.performAll depth (pieces.map (.append k))).1
    (∀ n,
      let sent := min data.length (n * limit)
      let flushed := appended.performAll depth (List.replicate n (.flush k))
      flushed.1.accepted? c = some (l.accepted ++ data.take sent) ∧
        flushed.1.pending (.outlet k) = data.length - sent ∧
        flushed.2.flatMap (·.calls) =
          (blocks limit data (min n writes)).map (offered l.name limit) ∧
        flushed.2.map (·.reply) =
          (List.range n).map fun i => .count (min limit (data.length - i * limit))) ∧
    ∀ j d, w.session.duplexes.get? j = some d → d.outlet = k →
      let drained := appended.perform depth (.flushAll j)
      drained.reply = .count data.length ∧
        drained.calls = (blocks limit data writes).map (offered l.name limit) ∧
        drained.world.accepted? c = some (l.accepted ++ data) ∧
        drained.world.pending (.outlet k) = 0 ∧
        ∀ n,
          let further := drained.world.performAll depth (List.replicate n (.flush k))
          further.2.map (·.reply) = List.replicate n (.count 0) ∧
            further.2.flatMap (·.calls) = [] := by
  obtain ⟨m, rfl⟩ : ∃ m, depth = m + 2 := ⟨depth - 2, by omega⟩
  obtain ⟨happended, hduplexes⟩ := h.appends (m + 1) pieces
  rw [List.nil_append] at happended
  intro data writes appended
  refine ⟨fun n => ?_, fun j d hj hd => ?_⟩
  · obtain ⟨hreplies, hcalls, hlimited⟩ := happended.flushes hlimit m n
    refine ⟨?_, ?_, hcalls, hreplies⟩
    · rw [Nat.min_comm, ← List.take_eq_take_min]
      exact hlimited.accepted?
    · have hsent : data.length - n * limit = data.length - min data.length (n * limit) := by omega
      exact hlimited.pending.trans (List.length_drop.trans hsent)
  · have hlt : pieces.flatten.length ⌈/⌉ limit < m + 2 := by omega
    obtain ⟨hreply, hcalls, hlimited⟩ := happended.flushAll hlimit (hduplexes ▸ hj) hd hlt
    refine ⟨hreply, hcalls, hlimited.accepted?, hlimited.pending, fun n => ?_⟩
    obtain ⟨hreplies, hnone, -⟩ := hlimited.flushes hlimit m n
    refine ⟨hreplies.trans ?_, hnone.trans ?_⟩
    · simp
    · simp [blocks]

end Limited

/-- A duplex over a connection that accepts three bytes of a write at most. -/
def threeAtOnce : World where
  session := (({} : Session).run [.openDuplex 0 ⟨0, 0, 0, 1⟩ 0 {}]).1
  connections := (∅ : Table ℕ Connection).put 0 (.line { name := "c", writeLimit := some 3 })

/-- Seven bytes, appended in two pieces, go out as three, three and one. -/
theorem limited_drain_sevenBytes :
    let appended := (threeAtOnce.performAll 5 [.append 0 [1, 2], .append 0 [3, 4, 5, 6, 7]]).1
    (appended.performAll 5 [.flush 0, .flush 0]).1.accepted? 0 = some [1, 2, 3, 4, 5, 6] ∧
      (appended.performAll 5 [.flush 0, .flush 0]).1.pending (.outlet 0) = 1 ∧
      (appended.perform 5 (.flushAll 0)).reply = .count 7 ∧
      (appended.perform 5 (.flushAll 0)).calls =
        [offered "c" 3 [1, 2, 3, 4, 5, 6, 7], offered "c" 3 [4, 5, 6, 7], offered "c" 3 [7]] := by
  have hlimited : Limited threeAtOnce 0 0 [] { name := "c", writeLimit := some 3 } 3 :=
    ⟨⟨.make 0 false, rfl, rfl, rfl, rfl, rfl⟩, rfl, rfl, rfl⟩
  have hdepth : ([[1, 2], [3, 4, 5, 6, 7]] : List Bytes).flatten.length ⌈/⌉ 3 + 2 ≤ 5 := by decide
  obtain ⟨hflushes, hdrain⟩ := limited_drain (by decide) hlimited _ hdepth
  obtain ⟨haccepted, hpending, -⟩ := hflushes 2
  obtain ⟨hreply, hcalls, -⟩ := hdrain 0 _ rfl rfl
  exact ⟨haccepted, hpending, hreply, hcalls⟩

end Conduit.Scenario

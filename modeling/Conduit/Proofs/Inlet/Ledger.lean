import Conduit.Inlet
/-!
# The ledger of an inlet

What an inlet handed on, which rooms its connection was offered and what the connection said to
them, kept apart from the inlet itself. `Ledger.Agrees` says that the bytes handed on, followed by
the buffer, are the bytes that arrived; every operation of an inlet keeps it, whatever the
connection answers.

A connection may write less than it says, or say more than the room holds. What arrives is read off
the room as the connection has left it, and as the room was zeros before, the bytes that it only
claims to have written are zeros.

## Main definitions

* `Conduit.ReadAnswer.delivers`: the bytes that an answer delivers out of the room it was given.
* `Conduit.Inlet.Ledger`, with `arrived`.
* `Conduit.Inlet.Ledger.Agrees`: the ledger accounts for every byte of the inlet.

## Main results

* `request_snd`: a request takes its bytes off the front of the buffer and changes nothing else.
* `Ledger.Agrees.hand`, `Agrees.offer` and `Agrees.land`.
* `one_le_recordSize_make`: the room offered is never empty.
-/

namespace Conduit

/-- The bytes that an answer delivers: as many as its count says of what is left in the room. -/
def ReadAnswer.delivers (room : Bytes) : ReadAnswer → Bytes
  | returned count written => (fill room written).take (min count room.length)
  | failed _ => []
  | panicked _ => []

/-- Bytes that are delivered but were not written are what the room held before. -/
theorem ReadAnswer.getElem?_delivers_of_le {room written : Bytes} {count j : Nat}
    (hj : written.length ≤ j) (hcount : j < min count room.length) :
    ((returned count written).delivers room)[j]? = room[j]? := by
  rw [delivers, List.getElem?_take_of_lt hcount, fill_getElem?_of_le room written hj]

namespace Inlet

theorem delivered_eq (i : Inlet) (a : ReadAnswer) :
    i.delivered a = a.delivers (emptyRoom i.recordSize) := by
  cases a with
  | returned count written =>
    have hlength : (fill (emptyRoom i.recordSize) written).length = i.recordSize := by simp
    rw [delivered, ReadAnswer.delivers, length_emptyRoom]
    rcases Nat.le_total count i.recordSize with h | h
    · rw [Nat.min_eq_left h]
    · rw [Nat.min_eq_right h, List.take_of_length_le (by omega),
        List.take_of_length_le (by omega)]
  | failed error => rfl
  | panicked panic => rfl

/-- Whatever a request comes to, it takes its bytes off the front of the buffer. -/
theorem request_snd (i : Inlet) (size : Nat) :
    (i.request size).2 = { i with buffer := i.buffer.drop size } := by
  by_cases h : i.buffer = []
  · rw [request_of_empty h]
    obtain ⟨c, r, f, b, e, p⟩ := i
    cases h
    simp
  · rw [request_of_buffered h]

/-- Ending a pump takes in what was delivered and says whether the stream has ended. -/
theorem endPump_fst (i : Inlet) (a : ReadAnswer) :
    (i.endPump a).1 =
      { i with
        reading := false
        buffer := i.buffer ++ a.delivers (emptyRoom i.recordSize)
        ended := match a with | .returned 0 _ => true | _ => i.ended } := by
  rw [← delivered_eq]
  cases a with
  | returned count written =>
    have hsame : delivered { i with reading := false } (.returned count written) =
        i.delivered (.returned count written) := rfl
    cases count with
    | zero => simp [endPump, delivered, markEnded]
    | succ n =>
      simp only [endPump, hsame, settle_eq, Nat.succ_ne_zero, if_false]
      split
      · next hempty =>
        have hnil : i.delivered (.returned (n + 1) written) = [] := by simpa using hempty
        simp [hnil]
      · rfl
  | failed error => simp [endPump, delivered]
  | panicked panic => simp [endPump, delivered]

/-- How a pump ends. -/
theorem endPump_snd (i : Inlet) (a : ReadAnswer) :
    (i.endPump a).2.1 =
      match a with
      | .returned count _ => .value (min count i.recordSize)
      | .failed error => .failed error
      | .panicked panic => .panicked panic := by
  cases a with
  | returned count written =>
    have hlength := length_delivered_returned { i with reading := false } count written
    simp only [endPump]
    split <;> exact congrArg Outcome.value hlength
  | failed error => rfl
  | panicked panic => rfl

theorem one_le_recordSize_withRecordSize {i : Inlet} (h : 1 ≤ i.recordSize) (size : Nat) :
    1 ≤ (i.withRecordSize size).recordSize := by
  rw [withRecordSize]
  split
  · exact h
  · exact Nat.one_le_iff_ne_zero.mpr ‹_›

/-- However an inlet is made, a zero never becomes its record size. -/
theorem one_le_recordSize_make (connection : Nat) (release : Bool) (sizes : List Nat) :
    1 ≤ (make connection release sizes).recordSize := by
  have hfold : ∀ i : Inlet, 1 ≤ i.recordSize → 1 ≤ (sizes.foldl withRecordSize i).recordSize := by
    induction sizes with
    | nil => exact fun i h => h
    | cons size rest ih => exact fun i h => ih _ (one_le_recordSize_withRecordSize h size)
  exact hfold _ (show 1 ≤ defaultRecordSize by decide)

/-! ### The ledger -/

/-- What users and connection of an inlet have seen of it. -/
structure Ledger where
  /-- Everything that was handed on, in order. -/
  handed : Bytes := []
  /-- The rooms that the connection was offered and has answered, each with its answer. -/
  answered : List (Bytes × ReadAnswer) := []
  /-- The room that the connection has been offered and not answered yet. -/
  room : Option Bytes := none
  deriving DecidableEq, Repr

namespace Ledger

/-- Everything that has arrived, in order. -/
def arrived (l : Ledger) : Bytes := l.answered.flatMap fun x => x.2.delivers x.1

/-- Enters bytes that were handed on. -/
def hand (l : Ledger) (bytes : Bytes) : Ledger := { l with handed := l.handed ++ bytes }

/-- Enters a room that is offered. -/
def offer (l : Ledger) (room : Bytes) : Ledger := { l with room := some room }

/-- Enters the answer to the room on offer. -/
def settle (l : Ledger) (a : ReadAnswer) : Ledger :=
  match l.room with
  | some room => { l with answered := l.answered ++ [(room, a)], room := none }
  | none => l

/-- The ledger accounts for every byte of the inlet, and every room that was offered is one record
of zeros. -/
structure Agrees (l : Ledger) (i : Inlet) : Prop where
  balance : l.handed ++ i.buffer = l.arrived
  room : l.room = if i.reading then some (emptyRoom i.recordSize) else none
  rooms : ∀ x ∈ l.answered, x.1 = emptyRoom i.recordSize

theorem agrees_make (connection : Nat) (release : Bool) (sizes : List Nat) :
    Agrees {} (Inlet.make connection release sizes) := by
  have hfold : ∀ i : Inlet, i.buffer = [] → i.reading = false →
      (sizes.foldl withRecordSize i).buffer = [] ∧
        (sizes.foldl withRecordSize i).reading = false := by
    induction sizes with
    | nil => exact fun i hbuffer hreading => ⟨hbuffer, hreading⟩
    | cons size rest ih =>
      intro i hbuffer hreading
      refine ih _ ?_ ?_
      · rw [withRecordSize]
        split <;> exact hbuffer
      · rw [withRecordSize]
        split <;> exact hreading
  obtain ⟨hbuffer, hreading⟩ :=
    hfold ({ connection : Inlet }.withReleaseBuffers release) rfl rfl
  exact
    { balance := hbuffer
      room := by rw [make, hreading]; rfl
      rooms := by simp }

/-- Marking the end bears on no byte. -/
theorem Agrees.markEnded {l : Ledger} {i : Inlet} (h : Agrees l i) : Agrees l i.markEnded :=
  ⟨h.balance, h.room, h.rooms⟩

theorem Agrees.hand {l : Ledger} {i : Inlet} (h : Agrees l i) (size : Nat) :
    Agrees (l.hand (i.buffer.take size)) { i with buffer := i.buffer.drop size } where
  balance := by
    change l.handed ++ i.buffer.take size ++ i.buffer.drop size = l.arrived
    rw [List.append_assoc, List.take_append_drop, h.balance]
  room := h.room
  rooms := h.rooms

theorem Agrees.offer {l : Ledger} {i : Inlet} (h : Agrees l i) :
    Agrees (l.offer (emptyRoom i.recordSize)) { i with reading := true } :=
  ⟨h.balance, rfl, h.rooms⟩

theorem Agrees.land {l : Ledger} {i : Inlet} (h : Agrees l i) (hreading : i.reading = true)
    (a : ReadAnswer) : Agrees (l.settle a) (i.endPump a).1 := by
  have hroom : l.room = some (emptyRoom i.recordSize) := by rw [h.room, hreading]; rfl
  rw [endPump_fst]
  refine
    { balance := ?_
      room := by simp [settle, hroom]
      rooms := ?_ }
  · have harrived : (l.settle a).arrived =
        l.arrived ++ a.delivers (emptyRoom i.recordSize) := by
      simp [settle, hroom, arrived]
    have hhanded : (l.settle a).handed = l.handed := by simp [settle, hroom]
    rw [harrived, hhanded, ← h.balance, List.append_assoc]
  · simp only [settle, hroom]
    intro x hx
    rcases List.mem_append.mp hx with hx | hx
    · exact h.rooms x hx
    · rw [List.mem_singleton.mp hx]

end Ledger

end Inlet

end Conduit

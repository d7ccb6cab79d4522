import Conduit.Proofs.Session.Inbound
/-!
# How the engine sees an inlet

The engine learns of the state of an inlet in several ways: by what a read returns, by the retry
flags that it leaves on the endpoint, by two control commands, and by reading the endpoint as a
plain stream. Each is computed on its own, from what waits in the buffer and from whether the
stream has ended. They have to tell the same tale, or the engine gives up too early or waits for
something that does not come.

Nothing is assumed here about how the session came about, about the flags that the endpoint had
before, or about the amount that waits. Where it exceeds what an answer can express, the answer is
cut off, and that makes none of them contradict another.

## Main definitions

* `Conduit.Inlet.stalled`: whether there is nothing to read, but may be later.
* `Conduit.ProperRead`: a size and a buffer that a read callback accepts.
* `Conduit.Session.Views`: what the engine sees, in each way, and how it all agrees.

## Main results

* `onRead_of_proper`: all that a read callback does.
* `views_agree`: the ways to look at an inlet agree.
-/

namespace Conduit

/-- Whether there is nothing to read, but may be later. -/
def Inlet.stalled (i : Inlet) : Bool := i.buffer.isEmpty && !i.ended

/-- A size and a buffer that a read callback accepts. A buffer may be missing only where no room is
asked for. -/
structure ProperRead (n : Nat) (present : Bool) : Prop where
  le : n ≤ largestCount
  present : 0 < n → present = true

/-- What a read callback returns where something waits, where the stream has ended, and where it has
to be tried again. -/
def Inlet.answerTo (i : Inlet) (n : Nat) : Transfer :=
  if 0 < i.pending then
    if n = 0 then ⟨toCount i.pending, []⟩ else ⟨(min n i.pending : Nat), i.buffer.take n⟩
  else if i.ended then ⟨0, []⟩
  else ⟨-1, []⟩

theorem toCount_eq (n : Nat) : toCount n = (min n largestCount : Nat) := by
  rw [toCount]
  omega

theorem toLongCount_eq (n : Nat) : toLongCount n = (min n largestLongCount : Nat) := by
  rw [toLongCount]
  omega

theorem ProperRead.check {n : Nat} {present : Bool} (h : ProperRead n present) :
    checkBuffer n present = .ok n := by
  have hneg : ¬ (n : Int) < 0 := Int.not_lt.mpr (Int.natCast_nonneg n)
  rw [checkBuffer, if_neg hneg]
  by_cases hzero : n = 0
  · subst hzero
    rfl
  · have hsize : ¬ (n : Int) = 0 := by omega
    rw [if_neg hsize, if_pos (h.present (Nat.pos_of_ne_zero hzero)), Int.toNat_natCast]

namespace Inlet

variable {i : Inlet}

theorem pending_eq_zero_iff : i.pending = 0 ↔ i.buffer = [] := List.length_eq_zero_iff

/-- A read returns zero just at the end of the stream. -/
theorem code_answerTo_eq_zero_iff (n : Nat) :
    (i.answerTo n).code = 0 ↔ i.pending = 0 ∧ i.ended = true := by
  rw [answerTo]
  by_cases hpending : 0 < i.pending
  · rw [if_pos hpending]
    refine iff_of_false ?_ fun h => absurd h.1 (Nat.ne_of_gt hpending)
    by_cases hn : n = 0
    · rw [if_pos hn]
      simp only [toCount, largestCount]
      omega
    · rw [if_neg hn]
      dsimp only
      omega
  · have hzero : i.pending = 0 := Nat.eq_zero_of_not_pos hpending
    rw [if_neg hpending]
    cases i.ended <;> simp [hzero]

/-- A read of a positive size returns something positive just if something waits. -/
theorem code_answerTo_pos_iff {n : Nat} (hn : 0 < n) :
    0 < (i.answerTo n).code ↔ 0 < i.pending := by
  rw [answerTo]
  by_cases hpending : 0 < i.pending
  · rw [if_pos hpending, if_neg (Nat.ne_of_gt hn)]
    refine iff_of_true ?_ hpending
    dsimp only
    omega
  · rw [if_neg hpending]
    cases i.ended <;> simp [hpending]

end Inlet

namespace Session

variable {s : Session} {e k : Nat} {b : Endpoint} {i : Inlet}

theorem get?_modifyFlags (hb : s.endpoints.get? e = some b) (f : Flags → Flags) :
    (s.modifyFlags e f).endpoints.get? e = some { b with flags := f b.flags } := by
  simp [modifyFlags, modifyEndpoint, hb]

/-- **All that a read callback does**: what it answers, what it takes from the buffer, and the flags
that it leaves. -/
theorem onRead_of_proper (hb : s.endpoints.get? e = some b)
    (hi : s.inletAt? e = some (k, i)) {n : Nat} {present : Bool} (h : ProperRead n present) :
    (s.onRead e n present).value = i.answerTo n ∧
      (s.onRead e n present).session.inlets.get? k =
        some { i with buffer := i.buffer.drop n } ∧
      (s.onRead e n present).session.endpoints.get? e = some { b with
        flags := { read := i.stalled, shouldRetry := i.stalled, others := b.flags.others } } := by
  have hk := (inletAt?_eq_some_iff.mp hi).2
  have hcleared := get?_modifyFlags hb Flags.clearRetry
  rw [onRead]
  simp only [inletAt?_modifyFlags, hi, h.check]
  by_cases hempty : i.buffer = []
  · have hzero : ¬ 0 < i.pending := by simp [Inlet.pending, hempty]
    have hdrop : { i with buffer := i.buffer.drop n } = i := by
      obtain ⟨c, r, f, buffer, ended, reading⟩ := i
      simp_all
    simp only [hzero, and_false, if_false]
    rw [Inlet.request_of_empty hempty, hdrop]
    cases hended : i.ended with
    | true =>
      refine ⟨by simp [Inlet.answerTo, hzero, hended], hk, ?_⟩
      have hstalled : i.stalled = false := by simp [Inlet.stalled, hended]
      rw [hstalled]
      exact hcleared
    | false =>
      refine ⟨by simp [Inlet.answerTo, hzero, hended], hk, ?_⟩
      have hretry := get?_modifyFlags hcleared Flags.retryRead
      simpa [Inlet.stalled, hended, hempty, Flags.retryRead, Flags.clearRetry] using hretry
  · have hpos : 0 < i.pending := List.length_pos_iff.mpr hempty
    have hstalled : i.stalled = false := by simp [Inlet.stalled, hempty]
    rw [hstalled]
    by_cases hn : n = 0
    · subst hn
      simp only [hpos, and_self, if_true]
      exact ⟨by simp [Inlet.answerTo, hpos], by simpa using hk, hcleared⟩
    · simp only [hn, false_and, if_false]
      rw [Inlet.request_of_buffered hempty]
      have hlength : (i.buffer.take n).length = min n i.pending := List.length_take
      have hle : min n i.pending ≤ largestCount := Nat.le_trans (Nat.min_le_left _ _) h.le
      refine ⟨?_, by simp, hcleared⟩
      simp only [Inlet.answerTo, hpos, hn, if_true, if_false, hlength, toCount_of_le hle]

/-- A read callback that turns its arguments down takes nothing and clears the retry flags. -/
theorem onRead_of_error (hb : s.endpoints.get? e = some b) (hi : s.inletAt? e = some (k, i))
    {size : Int} {present : Bool} {reason : Refusal}
    (h : checkBuffer size present = .error reason) :
    (s.onRead e size present).value = ⟨-1, []⟩ ∧
      (s.onRead e size present).session.inlets = s.inlets ∧
      (s.onRead e size present).session.endpoints.get? e =
        some { b with flags := { others := b.flags.others } } := by
  rw [onRead]
  simp only [inletAt?_modifyFlags, hi, h, adapters_modifyFlags, true_and]
  exact get?_modifyFlags hb Flags.clearRetry

/-- What the engine sees of an inlet through an endpoint, and how it agrees. -/
structure Views (s : Session) (e k : Nat) (b : Endpoint) (i : Inlet) : Prop where
  /-- A read with room returns what it takes, zero at the end of the stream, and otherwise fails. -/
  read_code : ∀ n, 0 < n → n ≤ largestCount → (s.onRead e n true).value.code =
    if 0 < i.pending then ((min n i.pending : Nat) : Int) else if i.ended then 0 else -1
  /-- What it takes comes off the front of the buffer. -/
  read_takes : ∀ n, 0 < n → n ≤ largestCount →
    (s.onRead e n true).value.bytes = i.buffer.take n ∧
      (s.onRead e n true).session.inlets.get? k = some { i with buffer := i.buffer.drop n }
  /-- A read without room returns the amount that waits, and answers as the others do if that is
  none. -/
  peek_code : ∀ present, (s.onRead e 0 present).value.code =
    if 0 < i.pending then ((min i.pending largestCount : Nat) : Int)
    else if i.ended then 0 else -1
  /-- It takes nothing. -/
  peek_takes : ∀ present, (s.onRead e 0 present).value.bytes = [] ∧
    (s.onRead e 0 present).session.inlets.get? k = some i
  /-- Zero is returned just where the buffer has drained and the stream has ended. -/
  zero_iff : ∀ n present, ProperRead n present →
    ((s.onRead e n present).value.code = 0 ↔ i.pending = 0 ∧ i.ended = true)
  /-- A read asks to be tried again just where nothing waits and the stream has not ended; no other
  retry flag is left, and all other bits are as they were. -/
  flags : ∀ n present, ProperRead n present →
    ∃ retry : Bool, (retry = true ↔ i.pending = 0 ∧ i.ended = false) ∧
      (s.onRead e n present).session.endpoints.get? e = some { b with
        flags := { read := retry, write := false, special := false, shouldRetry := retry,
                   others := b.flags.others } }
  /-- A read that is turned down for its arguments fails, takes nothing and asks for nothing. -/
  improper : ∀ size present reason, checkBuffer size present = .error reason →
    (s.onRead e size present).value = ⟨-1, []⟩ ∧
      (s.onRead e size present).session.inlets = s.inlets ∧
      (s.onRead e size present).session.endpoints.get? e =
        some { b with flags := { others := b.flags.others } }
  /-- The engine's own read with room is the callback. -/
  engine : ∀ n, 0 < n → n ≤ largestCount → s.read e n true = some (s.onRead e n true)
  /-- The first command says that the stream has ended just where a read with room returns zero, and
  changes nothing. -/
  ended : ∃ code : Int, s.step (.control e 2) = ⟨s, .code code, []⟩ ∧ (code = 0 ∨ code = 1) ∧
    ∀ n, 0 < n → n ≤ largestCount → (code = 1 ↔ (s.onRead e n true).value.code = 0)
  /-- The other returns the amount that waits, cut off at the largest one, which is positive just
  where a read with room yields bytes, and changes nothing. -/
  pending : ∃ code : Int, s.step (.control e 10) = ⟨s, .code code, []⟩ ∧
    code = (min i.pending largestLongCount : Nat) ∧
    ∀ n, 0 < n → n ≤ largestCount →
      (0 < code ↔ 0 < (s.onRead e n true).value.code) ∧
      (0 < code ↔ (s.onRead e n true).value.bytes ≠ [])
  /-- As a stream, the endpoint yields what the callback hands on, which is nothing just where
  nothing waits. -/
  stream : ∀ n, 0 < n → ∃ effect, s.streamRead e n = some effect ∧
    effect.session = (s.onRead e (min n largestCount : Nat) true).session ∧
    effect.value = i.buffer.take (min n largestCount) ∧
    (effect.value.length = 0 ↔ i.pending = 0)

theorem properRead_of_le {n : Nat} (hle : n ≤ largestCount) : ProperRead n true :=
  ⟨hle, fun _ => rfl⟩

theorem properRead_zero (present : Bool) : ProperRead 0 present :=
  ⟨Nat.zero_le _, fun h => absurd h (Nat.lt_irrefl 0)⟩

theorem take_eq_nil_iff_pending {n : Nat} (hn : 0 < n) :
    i.buffer.take n = [] ↔ i.pending = 0 := by
  rw [List.take_eq_nil_iff, Inlet.pending_eq_zero_iff]
  exact or_iff_right (Nat.ne_of_gt hn)

section Attached

variable (hb : s.endpoints.get? e = some b) (hi : s.inletAt? e = some (k, i))

include hb hi

/-- What a read with room returns. -/
theorem code_onRead {n : Nat} (hn : 0 < n) (hle : n ≤ largestCount) :
    (s.onRead e n true).value.code =
      if 0 < i.pending then ((min n i.pending : Nat) : Int) else if i.ended then 0 else -1 := by
  rw [(onRead_of_proper hb hi (properRead_of_le hle)).1, Inlet.answerTo, if_neg (Nat.ne_of_gt hn)]
  split
  · rfl
  · split <;> rfl

/-- What a read with room hands on. -/
theorem bytes_onRead {n : Nat} (hn : 0 < n) (hle : n ≤ largestCount) :
    (s.onRead e n true).value.bytes = i.buffer.take n := by
  rw [(onRead_of_proper hb hi (properRead_of_le hle)).1, Inlet.answerTo, if_neg (Nat.ne_of_gt hn)]
  split
  · rfl
  · next hpending =>
    have hnil := (take_eq_nil_iff_pending hn).mpr (Nat.eq_zero_of_not_pos hpending)
    split <;> exact hnil.symm

/-- A read without room only tells. -/
theorem peek_onRead (present : Bool) :
    (s.onRead e 0 present).value.code =
        (if 0 < i.pending then ((min i.pending largestCount : Nat) : Int)
          else if i.ended then 0 else -1) ∧
      (s.onRead e 0 present).value.bytes = [] ∧
      (s.onRead e 0 present).session.inlets.get? k = some i := by
  obtain ⟨hvalue, hinlet, -⟩ := onRead_of_proper hb hi (properRead_zero present)
  have hanswer : (s.onRead e 0 present).value = i.answerTo 0 := hvalue
  rw [hanswer, Inlet.answerTo, if_pos rfl]
  refine ⟨?_, ?_, hinlet⟩
  · split
    · exact toCount_eq i.pending
    · split <;> rfl
  · split
    · rfl
    · split <;> rfl

/-- The retry flags after a read tell whether it has to be tried again. -/
theorem flags_onRead {n : Nat} {present : Bool} (h : ProperRead n present) :
    ∃ retry : Bool, (retry = true ↔ i.pending = 0 ∧ i.ended = false) ∧
      (s.onRead e n present).session.endpoints.get? e = some { b with
        flags := { read := retry, write := false, special := false, shouldRetry := retry,
                   others := b.flags.others } } := by
  refine ⟨i.stalled, ?_, (onRead_of_proper hb hi h).2.2⟩
  simp [Inlet.stalled, Inlet.pending_eq_zero_iff]

variable (hform : b.form = .adapter .inbound)

include hform

/-- The engine asks whether the stream has ended, and is told so where a read would tell it. -/
theorem ended_agrees :
    ∃ code : Int, s.step (.control e 2) = ⟨s, .code code, []⟩ ∧ (code = 0 ∨ code = 1) ∧
      ∀ n, 0 < n → n ≤ largestCount → (code = 1 ↔ (s.onRead e n true).value.code = 0) := by
  have hstep : s.step (.control e 2) =
      ⟨s, .code (if i.pending = 0 ∧ i.ended then 1 else 0), []⟩ := by
    simp [step, control, hb, hform, Control.ofNumber, onReadControl, hi, Reply.ofControl]
  refine ⟨_, hstep, ?_, fun n hn hle => ?_⟩
  · split <;> simp
  · rw [(onRead_of_proper hb hi (properRead_of_le hle)).1, Inlet.code_answerTo_eq_zero_iff]
    split <;> simp_all

/-- The engine asks how much waits, and is told something positive where a read would yield it. -/
theorem pending_agrees :
    ∃ code : Int, s.step (.control e 10) = ⟨s, .code code, []⟩ ∧
      code = (min i.pending largestLongCount : Nat) ∧
      ∀ n, 0 < n → n ≤ largestCount →
        (0 < code ↔ 0 < (s.onRead e n true).value.code) ∧
        (0 < code ↔ (s.onRead e n true).value.bytes ≠ []) := by
  have hstep : s.step (.control e 10) = ⟨s, .code (toLongCount i.pending), []⟩ := by
    simp [step, control, hb, hform, Control.ofNumber, onReadControl, hi, Reply.ofControl]
  have hpos : 0 < toLongCount i.pending ↔ 0 < i.pending := by
    simp only [toLongCount, largestLongCount]
    omega
  refine ⟨_, hstep, toLongCount_eq i.pending, fun n hn hle => ⟨?_, ?_⟩⟩
  · rw [hpos, (onRead_of_proper hb hi (properRead_of_le hle)).1, Inlet.code_answerTo_pos_iff hn]
  · rw [hpos, bytes_onRead hb hi hn hle, ne_eq, take_eq_nil_iff_pending hn, Nat.pos_iff_ne_zero]

/-- As a stream, an endpoint yields what the callback hands on for as much as one call can carry. -/
theorem streamRead_eq_onRead {n : Nat} (hn : 0 < n) :
    ∃ effect, s.streamRead e n = some effect ∧
      effect.session = (s.onRead e (min n largestCount : Nat) true).session ∧
      effect.value = i.buffer.take (min n largestCount) ∧
      (effect.value.length = 0 ↔ i.pending = 0) := by
  have hserves : s.serves .inbound e k = true :=
    serves_iff.mpr ⟨⟨b, hb, hform⟩, (inletAt?_eq_some_iff.mp hi).1⟩
  have hpos : 0 < min n largestCount := by
    simp only [largestCount]
    omega
  have hbytes := bytes_onRead hb hi hpos (Nat.min_le_right _ _)
  rw [streamRead_of_serves hserves (Nat.ne_of_gt hn), toCount_eq]
  refine ⟨_, rfl, rfl, hbytes, ?_⟩
  rw [hbytes, List.length_eq_zero_iff]
  exact take_eq_nil_iff_pending hpos

end Attached

/-- The engine's own read with room is the callback, which never claims more than was asked for. -/
theorem read_eq_onRead (hb : s.endpoints.get? e = some b) (hform : b.form = .adapter .inbound)
    {n : Nat} (hn : 0 < n) (hle : n ≤ largestCount) :
    s.read e n true = some (s.onRead e n true) := by
  have hcode := (onRead_code s e hn hle).2
  rw [read_adapter hb hform (Int.natCast_nonneg n), Transfer.checked,
    if_neg (Int.not_lt.mpr hcode)]

/-- **The ways to look at an inlet agree.** -/
theorem views_agree (hb : s.endpoints.get? e = some b) (hform : b.form = .adapter .inbound)
    (hi : s.inletAt? e = some (k, i)) : s.Views e k b i where
  read_code := fun _ hn hle => code_onRead hb hi hn hle
  read_takes := fun _ hn hle =>
    ⟨bytes_onRead hb hi hn hle, (onRead_of_proper hb hi (properRead_of_le hle)).2.1⟩
  peek_code := fun present => (peek_onRead hb hi present).1
  peek_takes := fun present => (peek_onRead hb hi present).2
  zero_iff := by
    intro n present h
    rw [(onRead_of_proper hb hi h).1]
    exact Inlet.code_answerTo_eq_zero_iff n
  flags := fun _ _ h => flags_onRead hb hi h
  improper := fun _ _ _ h => onRead_of_error hb hi h
  engine := fun _ hn hle => read_eq_onRead hb hform hn hle
  ended := ended_agrees hb hi hform
  pending := pending_agrees hb hi hform
  stream := fun _ hn => streamRead_eq_onRead hb hi hform hn

/-- An inlet with three bytes waiting, attached to an endpoint on which all retry flags are set and
some other bits. -/
def staleFlags : Session :=
  (({} : Session).run [.openInlet 0 0 false [4], .attach 0 (.inlet 0), .pump 0,
    .readDone 0 (.returned 3 [1, 2, 3]), .setFlags 0 (.ofNat 0x2ff)]).1

/-- A read of two bytes takes them, and of the flags only the other bits are left. -/
theorem views_agree_of_staleFlags :
    (staleFlags.onRead 0 2 true).value.code = 2 ∧
      ∃ retry : Bool, retry = false ∧
        (staleFlags.onRead 0 2 true).session.endpoints.get? 0 = some
          { form := .adapter .inbound, data := some ⟨0⟩, flags :=
            { read := retry, write := false, special := false, shouldRetry := retry,
              others := 0x2f } } := by
  have hviews := views_agree (s := staleFlags) (e := 0) (k := 0)
    (b := { form := .adapter .inbound, data := some ⟨0⟩, flags := .ofNat 0x2ff })
    (i := { connection := 0, recordSize := 4, buffer := [1, 2, 3] }) (by decide) rfl (by decide)
  refine ⟨hviews.read_code 2 (by decide) (by decide), ?_⟩
  obtain ⟨retry, hretry, hflags⟩ := hviews.flags 2 true (properRead_of_le (by decide))
  exact ⟨retry, by simpa [Inlet.pending] using hretry, hflags⟩

end Session

end Conduit

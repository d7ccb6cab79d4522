import Conduit.Proofs.Session.Frame
/-!
# What each event can log

A line of the log does not name the event that logged it. Here it is said of every event which
kinds of lines it can log at all, so that a line can be traced back: only the answer to a read tells
that a stream has ended, only closing or dropping a duplex tells that one was closed, and a panic is
reported only where the engine asked for a flush.

## Main definitions

* `Conduit.Event.canLog`: the kinds of lines that an event can log.

## Main results

* `canLog_step`: no event logs anything else.
-/

namespace Conduit

/-- Whether an event can log a line of that kind. -/
def Event.canLog : Event → LogLine → Bool
  | .readDone .., .streamEnded => true
  | .attach .., .attached .. => true
  | .openDuplex .., .attached .. => true
  | .openDuplex .., .released .. => true
  | .disconnect .., .detached .. => true
  | .close .., .detached .. => true
  | .close .., .closed => true
  | .dropDuplex .., .detached .. => true
  | .dropDuplex .., .released .. => true
  | .dropDuplex .., .closed => true
  | .free .., .released .. => true
  | .callDestroy .., .released .. => true
  | .read .., .turnedDown .inbound _ => true
  | .streamRead .., .turnedDown .inbound _ => true
  | .callRead .., .turnedDown .inbound _ => true
  | .write .., .turnedDown .outbound _ => true
  | .streamWrite .., .turnedDown .outbound _ => true
  | .streamWriteAll .., .turnedDown .outbound _ => true
  | .callWrite .., .turnedDown .outbound _ => true
  | .writeDone .., .flushFailed _ => true
  | .writeDone .., .flushPanicked _ => true
  | .control .., .flushFailed _ => true
  | .control .., .flushPanicked _ => true
  | .callControl .., .flushFailed _ => true
  | .callControl .., .flushPanicked _ => true
  | _, _ => false

/-- Whether a line reports that a transfer of a side was turned down. -/
def LogLine.turnsDown (side : Side) : LogLine → Bool
  | .turnedDown way _ => way = side
  | _ => false

/-- Whether a line reports that a flush which the engine asked for went wrong. -/
def LogLine.reportsFlush : LogLine → Bool
  | .flushFailed _ => true
  | .flushPanicked _ => true
  | _ => false

theorem LogLine.turnsDown_iff {side : Side} {line : LogLine} :
    line.turnsDown side = true ↔ ∃ reason, line = .turnedDown side reason := by
  cases line <;> simp [LogLine.turnsDown]

namespace Session

variable {s : Session} {e : Nat}

/-! ### Operations on endpoints and duplexes -/

theorem log_disconnect (s : Session) (e : Nat) (a : Adapter) :
    ∀ line ∈ (s.disconnect e a).2, ∃ t, line = .detached a.side t := by
  rw [disconnect]
  split
  · simp
  · split <;> simp

theorem log_release (s : Session) (side : Side) (e : Nat) :
    ∀ line ∈ (s.release side e).2, ∃ t, line = .released side t := by
  rw [release]
  split <;> simp

theorem log_free (s : Session) (e : Nat) :
    ∀ line ∈ (s.free e).2, ∃ side t, line = .released side t := by
  rw [free]
  split
  · simp
  · split
    · simp
    · dsimp only
      split
      · next side _ => exact fun line hline => ⟨side, log_release s side e line hline⟩
      · simp

theorem log_attach (s : Session) (e : Nat) (a : Adapter) :
    ∀ line ∈ (s.attach e a).log, ∃ t, line = .attached a t := by
  rw [attach]
  dsimp only
  split <;> simp

theorem log_openDuplex (s : Session) (key : Nat) (d : DuplexKeys) (connection : Nat)
    (settings : Settings) :
    ∀ line ∈ (s.openDuplex key d connection settings).log,
      (∃ a t, line = .attached a t) ∨ ∃ side t, line = .released side t := by
  rw [openDuplex]
  dsimp only
  intro line
  split
  · intro hline
    exact Or.inl ⟨_, log_attach _ _ _ line hline⟩
  · split
    · simp only [List.mem_append]
      rintro ((hline | hline) | hline)
      · exact Or.inl ⟨_, log_attach _ _ _ line hline⟩
      · exact Or.inl ⟨_, log_attach _ _ _ line hline⟩
      · exact Or.inr (log_free _ _ line hline)
    · simp only [List.mem_append]
      rintro (hline | hline)
      · exact Or.inl ⟨_, log_attach _ _ _ line hline⟩
      · exact Or.inl ⟨_, log_attach _ _ _ line hline⟩

theorem log_close (s : Session) (key : Nat) :
    ∀ line ∈ (s.close key).2, line = .closed ∨ ∃ side t, line = .detached side t := by
  rw [close]
  split
  · simp
  · split
    · simp
    · simp only [List.mem_append, List.mem_singleton]
      rintro line ((hline | hline) | hline)
      · exact Or.inr ⟨_, log_disconnect _ _ _ line hline⟩
      · exact Or.inr ⟨_, log_disconnect _ _ _ line hline⟩
      · exact Or.inl hline

theorem log_dropDuplex (s : Session) (key : Nat) :
    ∀ line ∈ (s.dropDuplex key).2, line = .closed ∨ (∃ side t, line = .detached side t) ∨
      ∃ side t, line = .released side t := by
  rw [dropDuplex]
  split
  · simp
  · simp only [List.mem_append]
    rintro line ((hline | hline) | hline)
    · rcases log_close s key line hline with hclosed | hdetached
      · exact Or.inl hclosed
      · exact Or.inr (Or.inl hdetached)
    · exact Or.inr (Or.inr (log_free _ _ line hline))
    · exact Or.inr (Or.inr (log_free _ _ line hline))

/-! ### Operations on adapters -/

theorem log_endPump (i : Inlet) (a : ReadAnswer) :
    ∀ line ∈ (i.endPump a).2.2, line = .streamEnded := by
  cases a with
  | returned count written =>
    simp only [Inlet.endPump]
    split
    · dsimp only
      split <;> simp
    · simp
  | failed error => simp [Inlet.endPump]
  | panicked panic => simp [Inlet.endPump]

theorem log_flushCode (outcome : Outcome Nat) :
    ∀ line ∈ (flushCode outcome).2, line.reportsFlush = true := by
  cases outcome <;> simp [flushCode, LogLine.reportsFlush]

theorem log_ofFlush (k c : Nat) (purpose : Purpose) (progress : Outlet.Progress) :
    ∀ line ∈ (Reply.ofFlush k c purpose progress).2, line.reportsFlush = true := by
  cases progress with
  | busy => simp [Reply.ofFlush]
  | ended outcome =>
    cases purpose with
    | control => exact log_flushCode outcome
    | _ => simp [Reply.ofFlush]
  | writing block => simp [Reply.ofFlush]

/-- A flush that the owner starts logs nothing: what it comes to, the owner is told. -/
theorem log_flushFor (s : Session) (k : Nat) (purpose : Purpose) (h : purpose ≠ .control) :
    (s.flushFor k purpose).log = [] := by
  rw [flushFor]
  split
  · rfl
  · next o _ =>
    rcases hstart : s.startFlush k o purpose with ⟨t, progress⟩
    cases progress with
    | ended outcome =>
      cases purpose with
      | control => exact absurd rfl h
      | _ => rfl
    | _ => rfl

theorem log_pump (s : Session) (k : Nat) : (s.pump k).log = [] := by
  rw [pump]
  split
  · rfl
  · split <;> rfl

theorem log_readDone (s : Session) (k : Nat) (a : ReadAnswer) :
    ∀ line ∈ (s.readDone k a).log, line = .streamEnded := by
  rw [readDone]
  split
  · simp
  · next i _ =>
    split
    · exact log_endPump i a
    · simp

theorem log_writeDone (s : Session) (k : Nat) (a : WriteAnswer) :
    ∀ line ∈ (s.writeDone k a).log, line.reportsFlush = true := by
  rw [writeDone]
  split
  · simp
  · split
    · simp
    · exact log_ofFlush k _ _ _

/-! ### The engine's calls -/

theorem log_onRead (s : Session) (e : Nat) (size : Int) (present : Bool) :
    ∀ line ∈ (s.onRead e size present).log, line.turnsDown .inbound = true := by
  rw [onRead]
  split
  · simp [LogLine.turnsDown]
  · split
    · simp [LogLine.turnsDown]
    · split
      · simp
      · split <;> simp

theorem log_onWrite (s : Session) (e : Nat) (size : Int) (buffer : Option Bytes) :
    ∀ line ∈ (s.onWrite e size buffer).log, line.turnsDown .outbound = true := by
  rw [onWrite]
  split
  · simp [LogLine.turnsDown]
  · split <;> simp [LogLine.turnsDown]

theorem log_onWriteControl (s : Session) (e : Option Nat) (c : Control) :
    ∀ line ∈ (s.onWriteControl e c).log, line.reportsFlush = true := by
  cases c with
  | flush =>
    simp only [onWriteControl]
    split
    · simp
    · split
      · simp
      · simp
      · exact log_flushCode _
  | _ => simp [onWriteControl]

theorem log_of_read {size : Int} {present : Bool} {effect : Effect Transfer}
    (h : s.read e size present = some effect) :
    ∀ line ∈ effect.log, line.turnsDown .inbound = true := by
  rw [read] at h
  split at h
  · cases h
  · split at h
    · split at h
      · cases h
        simp
      · cases h
        simp only [dispatchRead]
        split
        · exact log_onRead s e size present
        · simp
        · simp
    · cases h

theorem log_of_write {size : Int} {buffer : Option Bytes} {effect : Effect Int}
    (h : s.write e size buffer = some effect) :
    ∀ line ∈ effect.log, line.turnsDown .outbound = true := by
  rw [write] at h
  split at h
  · cases h
  · split at h
    · split at h
      · cases h
        simp
      · cases h
        simp only [dispatchWrite]
        split
        · exact log_onWrite s e size buffer
        · split <;> simp
        · simp
    · cases h

theorem log_of_control {number : Int} {effect : Effect ControlProgress}
    (h : s.control e number = some effect) :
    ∀ line ∈ effect.log, line.reportsFlush = true := by
  rw [control] at h
  split at h
  · cases h
  · split at h
    · cases h
      simp
    · cases h
      exact log_onWriteControl s _ _
    · cases h
      simp
    · cases h
      simp

theorem log_of_streamRead {size : Nat} {effect : Effect Bytes}
    (h : s.streamRead e size = some effect) :
    ∀ line ∈ effect.log, line.turnsDown .inbound = true :=
  (keeps_streamRead (P := fun _ => True) trivial (fun hread => ⟨trivial, log_of_read hread⟩) h).log

theorem log_of_streamWrite {data : Bytes} {effect : Effect (Except IoError Nat)}
    (h : s.streamWrite e data = some effect) :
    ∀ line ∈ effect.log, line.turnsDown .outbound = true :=
  (keeps_streamWrite (P := fun _ => True) trivial (fun hwrite => ⟨trivial, log_of_write hwrite⟩)
    h).log

theorem log_of_streamWriteAll {data : Bytes} {effect : Effect (Except IoError Unit)}
    (h : s.streamWriteAll e data = some effect) :
    ∀ line ∈ effect.log, line.turnsDown .outbound = true :=
  (keeps_streamWriteAll (P := fun _ => True)
    (fun _ _ _ _ hwrite => ⟨trivial, log_of_write hwrite⟩) trivial h).log

/-! ### All events -/

/-- **No event logs lines of any other kind.** -/
theorem canLog_step (s : Session) (event : Event) :
    ∀ line ∈ (s.step event).log, event.canLog line = true := by
  intro line
  cases event with
  | openInlet | openOutlet | request | markEnded | append | share | setData | setFlags |
    callCreate | openForeign | takeSeen =>
    simp only [step, onPresent]
    split <;> simp
  | expectFault => simp [step]
  | pump k => simp [step, log_pump]
  | flush k => simp [step, log_flushFor s k .single (by simp)]
  | flushAll key =>
    simp only [step]
    split
    · simp
    · next d _ => simp [log_flushFor s d.outlet (.drain 0) (by simp)]
  | readDone k a =>
    intro hline
    rw [log_readDone s k a line hline]
    rfl
  | writeDone k a =>
    intro hline
    have hreports := log_writeDone s k a line hline
    cases line <;> first | rfl | cases hreports
  | openDuplex key d connection settings =>
    intro hline
    have hopen := log_openDuplex s key d connection settings line
    simp only [step] at hline
    split at hline
    · simp at hline
    · split at hline <;> simp_all only
      all_goals
        rcases hopen trivial with ⟨a, t, rfl⟩ | ⟨side, t, rfl⟩ <;> rfl
  | close key =>
    simp only [step, onPresent]
    split
    · intro hline
      rcases log_close s key line hline with rfl | ⟨side, t, rfl⟩ <;> rfl
    · simp
  | dropDuplex key =>
    simp only [step, onPresent]
    split
    · intro hline
      rcases log_dropDuplex s key line hline with rfl | ⟨side, t, rfl⟩ | ⟨side, t, rfl⟩ <;> rfl
    · simp
  | attach e a =>
    intro hline
    have hattach := log_attach s e a line
    simp only [step] at hline
    split at hline
    · simp at hline
    · split at hline <;> simp_all only
      all_goals
        obtain ⟨t, rfl⟩ := hattach trivial
        rfl
  | disconnect e a =>
    simp only [step, onPresent]
    split
    · intro hline
      obtain ⟨t, rfl⟩ := log_disconnect s e a line hline
      rfl
    · simp
  | free e =>
    simp only [step, onPresent]
    split
    · intro hline
      obtain ⟨side, t, rfl⟩ := log_free s e line hline
      rfl
    · simp
  | callDestroy side e =>
    simp only [step]
    split
    · cases e with
      | none => simp
      | some e =>
        intro hline
        obtain ⟨t, rfl⟩ := log_release s side e line hline
        rfl
    · simp
  | read e size present =>
    simp only [step]
    split
    · simp
    · next h =>
      intro hline
      obtain ⟨reason, rfl⟩ := LogLine.turnsDown_iff.mp (log_of_read h line hline)
      rfl
  | write e size buffer =>
    simp only [step]
    split
    · simp
    · next h =>
      intro hline
      obtain ⟨reason, rfl⟩ := LogLine.turnsDown_iff.mp (log_of_write h line hline)
      rfl
  | control e number =>
    simp only [step]
    split
    · simp
    · next h =>
      intro hline
      have hreports := log_of_control h line hline
      cases line <;> first | rfl | cases hreports
  | streamRead e size =>
    simp only [step]
    split
    · simp
    · next h =>
      intro hline
      obtain ⟨reason, rfl⟩ := LogLine.turnsDown_iff.mp (log_of_streamRead h line hline)
      rfl
  | streamWrite e data =>
    simp only [step]
    split
    · simp
    all_goals
      next h =>
      intro hline
      obtain ⟨reason, rfl⟩ := LogLine.turnsDown_iff.mp (log_of_streamWrite h line hline)
      rfl
  | streamWriteAll e data =>
    simp only [step]
    split
    · simp
    all_goals
      next h =>
      intro hline
      obtain ⟨reason, rfl⟩ := LogLine.turnsDown_iff.mp (log_of_streamWriteAll h line hline)
      rfl
  | callRead e size present =>
    simp only [step]
    split
    · intro hline
      obtain ⟨reason, rfl⟩ := LogLine.turnsDown_iff.mp (log_onRead s e size present line hline)
      rfl
    · simp
  | callWrite e size buffer =>
    simp only [step]
    split
    · intro hline
      obtain ⟨reason, rfl⟩ := LogLine.turnsDown_iff.mp (log_onWrite s e size buffer line hline)
      rfl
    · simp
  | callControl side e number =>
    simp only [step]
    split
    · cases side with
      | inbound => simp
      | outbound =>
        intro hline
        have hreports := log_onWriteControl s e _ line hline
        cases line <;> first | rfl | cases hreports
    · simp

end Session

end Conduit

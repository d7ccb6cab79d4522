import Conduit.Proofs.Session.Transfers
/-!
# What the operations of a session leave alone

Most operations of a session bear on one of its parts only. The lemmas here say so, once for each
operation and part, so that no later proof has to open an operation that does not concern it.

Operations on endpoints leave every inlet and every outlet as it is. What the engine reads leaves
the outlets alone, and what it writes the inlets.

## Main results

* `adapters_attach` and its likes, for every operation on endpoints.
* `outlets_of_read`, `outlets_of_streamRead`: reads leave the outlets alone.
* `inlets_of_write`, `inlets_of_streamWriteAll`: writes leave the inlets alone.
-/

namespace Conduit.Session

/-! ### Operations on endpoints -/

@[simp] theorem adapters_modifyEndpoint (s : Session) (e : Nat) (f : Endpoint → Endpoint) :
    (s.modifyEndpoint e f).inlets = s.inlets ∧ (s.modifyEndpoint e f).outlets = s.outlets :=
  ⟨rfl, rfl⟩

@[simp] theorem adapters_modifyFlags (s : Session) (e : Nat) (f : Flags → Flags) :
    (s.modifyFlags e f).inlets = s.inlets ∧ (s.modifyFlags e f).outlets = s.outlets :=
  ⟨rfl, rfl⟩

@[simp] theorem adapters_setData (s : Session) (e : Nat) (data : Option Token) :
    (s.setData e data).inlets = s.inlets ∧ (s.setData e data).outlets = s.outlets :=
  ⟨rfl, rfl⟩

@[simp] theorem adapters_share (s : Session) (e : Nat) :
    (s.share e).inlets = s.inlets ∧ (s.share e).outlets = s.outlets :=
  ⟨rfl, rfl⟩

@[simp] theorem adapters_attach (s : Session) (e : Nat) (a : Adapter) :
    (s.attach e a).session.inlets = s.inlets ∧ (s.attach e a).session.outlets = s.outlets := by
  rw [attach]
  dsimp only
  split <;> simp

@[simp] theorem adapters_disconnect (s : Session) (e : Nat) (a : Adapter) :
    (s.disconnect e a).1.inlets = s.inlets ∧ (s.disconnect e a).1.outlets = s.outlets := by
  rw [disconnect]
  split
  · exact ⟨rfl, rfl⟩
  · split <;> simp

@[simp] theorem adapters_release (s : Session) (side : Side) (e : Nat) :
    (s.release side e).1.inlets = s.inlets ∧ (s.release side e).1.outlets = s.outlets := by
  rw [release]
  split <;> simp

@[simp] theorem adapters_free (s : Session) (e : Nat) :
    (s.free e).1.inlets = s.inlets ∧ (s.free e).1.outlets = s.outlets := by
  rw [free]
  split
  · exact ⟨rfl, rfl⟩
  · split
    · exact ⟨rfl, rfl⟩
    · dsimp only
      split <;> simp

@[simp] theorem adapters_close (s : Session) (key : Nat) :
    (s.close key).1.inlets = s.inlets ∧ (s.close key).1.outlets = s.outlets := by
  rw [close]
  split
  · exact ⟨rfl, rfl⟩
  · split <;> simp

@[simp] theorem adapters_dropDuplex (s : Session) (key : Nat) :
    (s.dropDuplex key).1.inlets = s.inlets ∧ (s.dropDuplex key).1.outlets = s.outlets := by
  rw [dropDuplex]
  split <;> simp

/-! ### Operations on adapters -/

@[simp] theorem outlets_putInlet (s : Session) (k : Nat) (i : Inlet) :
    (s.putInlet k i).outlets = s.outlets := rfl

@[simp] theorem inlets_putOutlet (s : Session) (k : Nat) (o : Outlet) :
    (s.putOutlet k o).inlets = s.inlets := rfl

@[simp] theorem inlets_putInlet (s : Session) (k : Nat) (i : Inlet) :
    (s.putInlet k i).inlets = s.inlets.put k i := rfl

@[simp] theorem outlets_putOutlet (s : Session) (k : Nat) (o : Outlet) :
    (s.putOutlet k o).outlets = s.outlets.put k o := rfl

@[simp] theorem outlets_pump (s : Session) (k : Nat) : (s.pump k).session.outlets = s.outlets := by
  rw [pump]
  split
  · rfl
  · split <;> simp

@[simp] theorem outlets_readDone (s : Session) (k : Nat) (answer : ReadAnswer) :
    (s.readDone k answer).session.outlets = s.outlets := by
  rw [readDone]
  split
  · rfl
  · split <;> simp

@[simp] theorem inlets_flushFor (s : Session) (k : Nat) (purpose : Purpose) :
    (s.flushFor k purpose).session.inlets = s.inlets := by
  rw [flushFor]
  split <;> simp [startFlush]

@[simp] theorem inlets_writeDone (s : Session) (k : Nat) (answer : WriteAnswer) :
    (s.writeDone k answer).session.inlets = s.inlets := by
  rw [writeDone]
  split
  · rfl
  · split <;> simp

/-- Whether its endpoints can be made or not, a duplex has its adapters. -/
@[simp] theorem adapters_openDuplex (s : Session) (key : Nat) (d : DuplexKeys) (connection : Nat)
    (settings : Settings) :
    (s.openDuplex key d connection settings).session.inlets =
        s.inlets.put d.inlet (.make connection settings.releaseBuffers [settings.recordSize]) ∧
      (s.openDuplex key d connection settings).session.outlets =
        s.outlets.put d.outlet (.make connection settings.releaseBuffers) := by
  rw [openDuplex]
  dsimp only
  split
  · simp
  · split <;> simp

theorem ofOutcome_ne_calls (outcome : Outcome Nat) (call : Call) :
    Reply.ofOutcome outcome ≠ .calls call := by
  cases outcome <;> simp [Reply.ofOutcome]

/-! ### The engine's calls -/

@[simp] theorem outlets_onRead (s : Session) (e : Nat) (size : Int) (present : Bool) :
    (s.onRead e size present).session.outlets = s.outlets := by
  rw [onRead]
  split
  · simp
  · split
    · simp
    · split
      · simp
      · split <;> simp

@[simp] theorem inlets_onWrite (s : Session) (e : Nat) (size : Int) (buffer : Option Bytes) :
    (s.onWrite e size buffer).session.inlets = s.inlets := by
  rw [onWrite]
  split
  · simp
  · split <;> simp

/-- A flush that the engine asks for starts on the outlet attached to the endpoint, and the reply is
that of any operation made of flushes. -/
theorem onWriteControl_flush {s : Session} {e : Option Nat} {k : Nat} {o : Outlet}
    (h : e.bind s.outletAt? = some (k, o)) :
    (s.onWriteControl e .flush).session = s.putOutlet k (o.start .control).1 ∧
      Reply.ofControl (s.onWriteControl e .flush).value =
        (Reply.ofFlush k o.connection .control (o.start .control).2).1 := by
  rcases hstart : o.start .control with ⟨o', progress⟩
  simp only [onWriteControl, h, startFlush, hstart]
  cases progress with
  | busy => exact ⟨rfl, rfl⟩
  | ended outcome => cases outcome <;> exact ⟨rfl, rfl⟩
  | writing block => exact ⟨rfl, rfl⟩

@[simp] theorem inlets_onWriteControl (s : Session) (e : Option Nat) (c : Control) :
    (s.onWriteControl e c).session.inlets = s.inlets := by
  cases c with
  | flush =>
    cases h : e.bind s.outletAt? with
    | none => simp [onWriteControl, h]
    | some found =>
      obtain ⟨k, o⟩ := found
      rw [(onWriteControl_flush h).1, inlets_putOutlet]
  | _ => rfl

theorem outlets_of_read {s : Session} {e : Nat} {size : Int} {present : Bool}
    {effect : Effect Transfer} (h : s.read e size present = some effect) :
    effect.session.outlets = s.outlets := by
  have hdispatch : ∀ b, (s.dispatchRead e b size present).session.outlets = s.outlets := by
    intro b
    rw [dispatchRead]
    split <;> simp
  rw [read] at h
  split at h
  · cases h
  · split at h
    · split at h
      · cases h; rfl
      · cases h; exact hdispatch _
    · cases h

theorem inlets_of_write {s : Session} {e : Nat} {size : Int} {buffer : Option Bytes}
    {effect : Effect Int} (h : s.write e size buffer = some effect) :
    effect.session.inlets = s.inlets := by
  have hdispatch : ∀ b, (s.dispatchWrite e b size buffer).session.inlets = s.inlets := by
    intro b
    rw [dispatchWrite]
    split
    · simp
    · split <;> simp
    · simp
  rw [write] at h
  split at h
  · cases h
  · split at h
    · split at h
      · cases h; rfl
      · cases h; exact hdispatch _
    · cases h

theorem outlets_of_streamRead {s : Session} {e size : Nat} {effect : Effect Bytes}
    (h : s.streamRead e size = some effect) : effect.session.outlets = s.outlets :=
  (keeps_streamRead (P := fun t => t.outlets = s.outlets) (Q := fun _ => True) rfl
    (fun hread => ⟨outlets_of_read hread, by simp⟩) h).session

theorem inlets_of_streamWrite {s : Session} {e : Nat} {data : Bytes}
    {effect : Effect (Except IoError Nat)} (h : s.streamWrite e data = some effect) :
    effect.session.inlets = s.inlets :=
  (keeps_streamWrite (P := fun t => t.inlets = s.inlets) (Q := fun _ => True) rfl
    (fun hwrite => ⟨inlets_of_write hwrite, by simp⟩) h).session

theorem inlets_of_streamWriteAll {s : Session} {e : Nat} {data : Bytes}
    {effect : Effect (Except IoError Unit)} (h : s.streamWriteAll e data = some effect) :
    effect.session.inlets = s.inlets :=
  (keeps_streamWriteAll (P := fun t => t.inlets = s.inlets) (Q := fun _ => True)
    (fun ht _ _ _ hwrite => ⟨(inlets_of_write hwrite).trans ht, by simp⟩) rfl h).session

theorem inlets_of_control {s : Session} {e : Nat} {number : Int} {effect : Effect ControlProgress}
    (h : s.control e number = some effect) : effect.session.inlets = s.inlets := by
  rw [control] at h
  split at h
  · cases h
  · split at h <;> cases h <;> simp

end Conduit.Session

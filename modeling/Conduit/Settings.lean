import Conduit.Text.Quoted
/-!
# Settings of a duplex

The two options with which both adapters of a connection are built, the steps that change them,
and the whole course of such steps.

The record size is kept as it was set, also a zero: that a zero is no size is decided where an
adapter is built, see `Conduit.Inlet.withRecordSize`.

## Main definitions

* `Conduit.Settings`, with `withReleaseBuffers`, `withRecordSize`, `when` and `whenSome`.
* `Conduit.Settings.Change`: a step, which may hold further steps under a condition.
* `Conduit.Settings.Change.applyAll`: the settings after each step, in the order they are reached.
-/

namespace Conduit

/-- The room that a connection read is given where nothing else was asked for. -/
def defaultRecordSize : Nat := 16384

/-- The options of a duplex. -/
structure Settings where
  /-- Whether storage is given up each time a buffer drains. -/
  releaseBuffers : Bool := false
  /-- The room given to each connection read; zero leaves the default in force. -/
  recordSize : Nat := defaultRecordSize
  deriving DecidableEq, Repr

namespace Settings

/-- Chooses whether storage is given up. -/
def withReleaseBuffers (s : Settings) (release : Bool) : Settings :=
  { s with releaseBuffers := release }

/-- Chooses the record size. -/
def withRecordSize (s : Settings) (size : Nat) : Settings :=
  { s with recordSize := size }

/-- Applies a change if the condition holds. -/
def when (s : Settings) (condition : Bool) (change : Settings → Settings) : Settings :=
  if condition then change s else s

/-- Applies a change with a value if there is one. -/
def whenSome {α : Type} (s : Settings) (value : Option α) (change : Settings → α → Settings) :
    Settings :=
  match value with
  | some a => change s a
  | none => s

/-- The settings shown with their fields. -/
def describe (s : Settings) : String :=
  Text.fields "BridgeConfig"
    [("release_buffers", Text.ofBool s.releaseBuffers), ("record_size", toString s.recordSize)]

/-- One step of a course of changes. -/
inductive Change where
  | release (value : Bool)
  | recordSize (value : Nat)
  | reset
  /-- Further steps, taken only under a condition. -/
  | guarded (condition : Bool) (steps : List Change)
  /-- A record size, where there is one, and then further steps. -/
  | sized (value : Option Nat) (steps : List Change)
  deriving Inhabited

namespace Change

mutual

/-- The settings after a step, and the settings after each step in it, itself last. -/
def apply (s : Settings) : Change → Settings × List Settings
  | release value =>
      let s := s.withReleaseBuffers value
      (s, [s])
  | recordSize value =>
      let s := s.withRecordSize value
      (s, [s])
  | reset => ({}, [{}])
  | guarded condition steps =>
      if condition then
        let (s, trace) := applyAll s steps
        (s, trace ++ [s])
      else (s, [s])
  | sized none _ => (s, [s])
  | sized (some value) steps =>
      let (s, trace) := applyAll (s.withRecordSize value) steps
      (s, trace ++ [s])

/-- The settings after a list of steps, and the settings after each of them on the way. -/
def applyAll (s : Settings) : List Change → Settings × List Settings
  | [] => (s, [])
  | step :: rest =>
      let (s, first) := apply s step
      let (s, more) := applyAll s rest
      (s, first ++ more)

end

end Change

end Settings

end Conduit

import Conduit.Session.Basic
/-!
# Attaching and detaching

An adapter is attached to a new endpoint by entering it in the roster of its side and storing the
token in the endpoint. The tie is cut from either end: the adapter is disconnected, or the endpoint
is destroyed.

It takes the engine to make an endpoint, and that may fail. That the roster has no token left, which
would fail in the same way and log an error, is left out as it is in `Conduit.Roster`.

## Main definitions

* `Conduit.Session.attach`: makes an endpoint for an adapter.
* `Conduit.Session.disconnect`: takes an adapter off an endpoint, if it is that adapter's.
* `Conduit.Session.release`: forgets whatever an endpoint refers to.
* `Conduit.Session.share` and `Conduit.Session.free`: references to an endpoint.
-/

namespace Conduit.Session

/-- Makes an endpoint for an adapter. Nothing is entered in the roster unless the engine has made
the endpoint. -/
def attach (s : Session) (e : Nat) (a : Adapter) : Effect (Except Refusal Token) :=
  let (ok, engine) := s.engine.newEndpoint a.side
  let s := { s with engine }
  if ok then
    let (t, r) := (s.roster a.side).add a.key
    let b : Endpoint := { form := .adapter a.side, data := some t }
    let s := s.withRoster a.side r
    ⟨{ s with endpoints := s.endpoints.put e b }, .ok t, [.attached a t]⟩
  else ⟨s, .error .createFailed, []⟩

/-- Takes an adapter off an endpoint: strikes off its token and clears the data field. Does nothing
unless the token in the data field stands for this adapter in the roster of its side. -/
def disconnect (s : Session) (e : Nat) (a : Adapter) : Session × List LogLine :=
  match s.token? e with
  | none => (s, [])
  | some t =>
      match (s.roster a.side).removeIf t a.key with
      | (true, r) => ((s.withRoster a.side r).setData e none, [.detached a.side t])
      | (false, _) => (s, [])

/-- Forgets whatever an endpoint refers to on a side: strikes off the token in its data field, in
force or not, and clears the field. -/
def release (s : Session) (side : Side) (e : Nat) : Session × List LogLine :=
  match s.token? e with
  | none => (s, [])
  | some t =>
      ((s.withRoster side ((s.roster side).remove t)).setData e none, [.released side t])

/-- Takes one more reference to an endpoint. -/
def share (s : Session) (e : Nat) : Session :=
  s.modifyEndpoint e fun b => { b with references := b.references + 1 }

/-- Gives up a reference to an endpoint. The last one to go destroys it. -/
def free (s : Session) (e : Nat) : Session × List LogLine :=
  match s.endpoints.get? e with
  | none => (s, [])
  | some b =>
      if 1 < b.references then
        (s.modifyEndpoint e fun b => { b with references := b.references - 1 }, [])
      else
        let (s, log) :=
          match b.form with
          | .adapter side => s.release side e
          | _ => (s, [])
        ({ s with endpoints := s.endpoints.erase e }, log)

theorem disconnect_of_empty {s : Session} {e : Nat} (h : s.token? e = none) (a : Adapter) :
    s.disconnect e a = (s, []) := by
  simp [disconnect, h]

theorem release_of_empty {s : Session} {e : Nat} (h : s.token? e = none) (side : Side) :
    s.release side e = (s, []) := by
  simp [release, h]

end Conduit.Session

import Conduit.Session.Attachment
/-!
# Duplexes

An inlet and an outlet over one connection, made, closed and dropped together.

## Main definitions

* `Conduit.Session.openDuplex`: makes both adapters and an endpoint for each, or neither endpoint.
* `Conduit.Session.close`: takes both adapters off their endpoints, once.
* `Conduit.Session.dropDuplex`: closes, and gives up the references to both endpoints.
-/

namespace Conduit.Session

/-- Makes a duplex under fresh keys. If the second endpoint cannot be made, the first is given up
again. -/
def openDuplex (s : Session) (key : Nat) (d : DuplexKeys) (connection : Nat)
    (settings : Settings) : Effect (Except Refusal (Token × Token)) :=
  let s := s.putInlet d.inlet
    (.make connection settings.releaseBuffers [settings.recordSize])
  let s := s.putOutlet d.outlet (.make connection settings.releaseBuffers)
  let first := s.attach d.readEnd (.inlet d.inlet)
  match first.value with
  | .error reason => ⟨first.session, .error reason, first.log⟩
  | .ok readToken =>
      let second := first.session.attach d.writeEnd (.outlet d.outlet)
      match second.value with
      | .error reason =>
          let (s, log) := second.session.free d.readEnd
          ⟨s, .error reason, first.log ++ second.log ++ log⟩
      | .ok writeToken =>
          let s := second.session
          ⟨{ s with duplexes := s.duplexes.put key { d with } },
            .ok (readToken, writeToken), first.log ++ second.log⟩

/-- Takes both adapters off their endpoints. Only the first call has any effect. -/
def close (s : Session) (key : Nat) : Session × List LogLine :=
  match s.duplexes.get? key with
  | none => (s, [])
  | some d =>
      if d.closed then (s, [])
      else
        let s := { s with duplexes := s.duplexes.put key { d with closed := true } }
        let (s, first) := s.disconnect d.readEnd (.inlet d.inlet)
        let (s, second) := s.disconnect d.writeEnd (.outlet d.outlet)
        (s, first ++ second ++ [.closed])

/-- Closes a duplex and gives up its endpoints. -/
def dropDuplex (s : Session) (key : Nat) : Session × List LogLine :=
  match s.duplexes.get? key with
  | none => (s, [])
  | some d =>
      let (s, closing) := s.close key
      let s := { s with duplexes := s.duplexes.erase key }
      let (s, first) := s.free d.readEnd
      let (s, second) := s.free d.writeEnd
      (s, closing ++ first ++ second)

end Conduit.Session

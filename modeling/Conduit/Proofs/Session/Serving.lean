import Conduit.Proofs.Session.Frame
/-!
# Which adapter an endpoint leads to

A callback finds its adapter through the token in the endpoint, in the roster of its own side. An
engine's own call reaches it only if the endpoint has that callback, which it has if it was made
for an adapter of that side. Both are questions about the session at the time of the call, and a
change of flags does not change the answer.

## Main definitions

* `Conduit.Session.serves`: whether the engine's calls on an endpoint reach an adapter.

## Main results

* `outletAt?_eq_some_iff`, `inletAt?_eq_some_iff`: what a callback finds.
* `resolve_modifyFlags`, `serves_modifyFlags`.
-/

namespace Conduit.Session

/-- Whether the engine's own calls on an endpoint reach the adapter of that side and key. -/
def serves (s : Session) (side : Side) (e k : Nat) : Bool :=
  (s.endpoints.get? e).map (·.form) = some (.adapter side) ∧ s.resolve side e = some k

theorem serves_iff {s : Session} {side : Side} {e k : Nat} :
    s.serves side e k = true ↔
      (∃ b, s.endpoints.get? e = some b ∧ b.form = .adapter side) ∧ s.resolve side e = some k := by
  simp [serves]

theorem outletAt?_eq_some_iff {s : Session} {e k : Nat} {o : Outlet} :
    s.outletAt? e = some (k, o) ↔
      s.resolve .outbound e = some k ∧ s.outlets.get? k = some o := by
  constructor
  · intro h
    obtain ⟨j, hj, h⟩ := Option.bind_eq_some_iff.mp h
    obtain ⟨o', ho, h⟩ := Option.map_eq_some_iff.mp h
    cases h
    exact ⟨hj, ho⟩
  · rintro ⟨he, hk⟩
    simp [outletAt?, he, hk]

theorem inletAt?_eq_some_iff {s : Session} {e k : Nat} {i : Inlet} :
    s.inletAt? e = some (k, i) ↔ s.resolve .inbound e = some k ∧ s.inlets.get? k = some i := by
  constructor
  · intro h
    obtain ⟨j, hj, h⟩ := Option.bind_eq_some_iff.mp h
    obtain ⟨i', hi, h⟩ := Option.map_eq_some_iff.mp h
    cases h
    exact ⟨hj, hi⟩
  · rintro ⟨he, hk⟩
    simp [inletAt?, he, hk]

/-- A change of flags moves no endpoint to another adapter. -/
@[simp] theorem resolve_modifyFlags (s : Session) (e : Nat) (f : Flags → Flags) (side : Side)
    (j : Nat) : (s.modifyFlags e f).resolve side j = s.resolve side j := by
  have htoken : (s.modifyFlags e f).token? j = s.token? j := by
    simp only [token?, modifyFlags, modifyEndpoint, Table.get?_modify]
    split
    · cases s.endpoints.get? j <;> rfl
    · rfl
  rw [resolve, resolve, htoken, modifyFlags, roster_modifyEndpoint]

@[simp] theorem outletAt?_modifyFlags (s : Session) (e : Nat) (f : Flags → Flags) (j : Nat) :
    (s.modifyFlags e f).outletAt? j = s.outletAt? j := by
  simp [outletAt?]

@[simp] theorem inletAt?_modifyFlags (s : Session) (e : Nat) (f : Flags → Flags) (j : Nat) :
    (s.modifyFlags e f).inletAt? j = s.inletAt? j := by
  simp [inletAt?]

@[simp] theorem serves_modifyFlags (s : Session) (e : Nat) (f : Flags → Flags) (side : Side)
    (j k : Nat) : (s.modifyFlags e f).serves side j k = s.serves side j k := by
  have hform : ((s.modifyFlags e f).endpoints.get? j).map (·.form) =
      (s.endpoints.get? j).map (·.form) := by
    simp only [modifyFlags, modifyEndpoint, Table.get?_modify]
    split
    · cases s.endpoints.get? j <;> rfl
    · rfl
  simp only [serves, hform, resolve_modifyFlags]

theorem checkBuffer_ok {size : Int} {present : Bool} {n : Nat}
    (h : checkBuffer size present = .ok n) : size = n := by
  rw [checkBuffer] at h
  split at h
  · cases h
  · split at h
    · cases h; omega
    · split at h
      · cases h; omega
      · cases h

end Conduit.Session

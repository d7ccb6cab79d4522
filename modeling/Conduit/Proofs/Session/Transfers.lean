import Conduit.Session.Run
/-!
# What is made of reads and writes

What the engine does through an endpoint, control commands apart, comes down to its calls for
reading and writing. What these preserve is preserved by a stream. And if two sessions are related
in some way, and reads and writes do the same in both and leave them related, then so does all that
is made of them. What is preserved can be anything, and so can the relation.

## Main definitions

* `Conduit.Effect.Keeps`: effects that preserve something and log nothing else than is said.
* `Conduit.Effect.Related`: effects that are the same and leave sessions that are related.
* `Conduit.Event.transfersOn`: the endpoint of an event that is made of reads and writes.

## Main results

* `keeps_streamRead`, `keeps_streamWrite`, `keeps_streamWriteAll`: what streams preserve.
* `related_step_of_transfersOn`: what is made of reads and writes does the same in two sessions.
-/

namespace Conduit

/-- The endpoint that the engine reads from or writes to, in one call or as a stream. -/
def Event.transfersOn : Event → Option Nat
  | .read e _ _ | .write e _ _ | .streamRead e _ | .streamWrite e _ | .streamWriteAll e _ => some e
  | _ => none

namespace Effect

variable {R : Session → Session → Prop}

/-- An effect preserves something of a session, and what it logs is of some kind. -/
structure Keeps {α : Type} (P : Session → Prop) (Q : LogLine → Prop) (effect : Effect α) :
    Prop where
  session : P effect.session
  log : ∀ line ∈ effect.log, Q line

/-- Two effects have the same value and log, and leave sessions that are related. -/
structure Related {α : Type} (R : Session → Session → Prop) (a b : Effect α) : Prop where
  session : R a.session b.session
  value : a.value = b.value
  log : a.log = b.log

theorem Related.map {α β : Type} {a b : Effect α} (h : Related R a b) (f : α → β) :
    Related R ⟨a.session, f a.value, a.log⟩ ⟨b.session, f b.value, b.log⟩ :=
  ⟨h.session, congrArg f h.value, h.log⟩

/-- Two calls that the engine may not be able to make: it can make both, or neither. -/
theorem related_cases {α : Type} {a b : Option (Effect α)} (h : Option.Rel (Related R) a b) :
    a = none ∧ b = none ∨
      ∃ s t value log, a = some ⟨s, value, log⟩ ∧ b = some ⟨t, value, log⟩ ∧ R s t := by
  cases h with
  | none => exact Or.inl ⟨rfl, rfl⟩
  | @some a b h =>
    obtain ⟨s, value, log⟩ := a
    obtain ⟨t, value', log'⟩ := b
    obtain ⟨hsession, rfl, rfl⟩ := h
    exact Or.inr ⟨s, t, value, log, rfl, rfl, hsession⟩

end Effect

namespace Session

open Effect

/-! ### What streams preserve -/

section

variable {P : Session → Prop} {Q : LogLine → Prop} {s : Session} {e : Nat}

theorem keeps_streamRead (hs : P s)
    (hread : ∀ {n effect}, s.read e n true = some effect → effect.Keeps P Q)
    {size : Nat} {effect : Effect Bytes} (h : s.streamRead e size = some effect) :
    effect.Keeps P Q := by
  rw [streamRead] at h
  split at h
  · cases h
    exact ⟨hs, by simp⟩
  · obtain ⟨inner, hinner, rfl⟩ := Option.map_eq_some_iff.mp h
    exact ⟨(hread hinner).session, (hread hinner).log⟩

theorem keeps_streamWrite (hs : P s)
    (hwrite : ∀ {n buffer effect}, s.write e n buffer = some effect → effect.Keeps P Q)
    {data : Bytes} {effect : Effect (Except IoError Nat)}
    (h : s.streamWrite e data = some effect) : effect.Keeps P Q := by
  rw [streamWrite] at h
  split at h
  · cases h
    exact ⟨hs, by simp⟩
  · obtain ⟨inner, hinner, rfl⟩ := Option.map_eq_some_iff.mp h
    split <;> exact ⟨(hwrite hinner).session, (hwrite hinner).log⟩

theorem keeps_streamWriteAll
    (hwrite : ∀ {s}, P s → ∀ {n buffer effect}, s.write e n buffer = some effect →
      effect.Keeps P Q)
    (hs : P s) {data : Bytes} {effect : Effect (Except IoError Unit)}
    (h : s.streamWriteAll e data = some effect) : effect.Keeps P Q := by
  fun_induction streamWriteAll s e data generalizing effect with
  | case1 =>
    cases h
    exact ⟨hs, by simp⟩
  | case2 => cases h
  | case3 s data _ t error log hpiece =>
    cases h
    have hfirst := keeps_streamWrite hs (hwrite hs) hpiece
    exact ⟨hfirst.session, hfirst.log⟩
  | case4 s data _ t n log hpiece _ ih =>
    obtain ⟨rest, hrest, rfl⟩ := Option.map_eq_some_iff.mp h
    have hfirst := keeps_streamWrite hs (hwrite hs) hpiece
    have hlast := ih hfirst.session hrest
    exact ⟨hlast.session, List.forall_mem_append.mpr ⟨hfirst.log, hlast.log⟩⟩
  | case5 s data _ t n log hpiece _ =>
    cases h
    have hfirst := keeps_streamWrite hs (hwrite hs) hpiece
    exact ⟨hfirst.session, hfirst.log⟩

end

/-! ### Two sessions -/

variable {R : Session → Session → Prop} {s t : Session} {e : Nat}

theorem related_streamRead (h : R s t)
    (hread : ∀ size, Option.Rel (Related R) (s.read e size true) (t.read e size true))
    (size : Nat) : Option.Rel (Related R) (s.streamRead e size) (t.streamRead e size) := by
  rw [streamRead, streamRead]
  by_cases hsize : size = 0
  · simp only [if_pos hsize]
    exact .some ⟨h, rfl, rfl⟩
  · simp only [if_neg hsize]
    rcases related_cases (hread (toCount size)) with
      ⟨hs, ht⟩ | ⟨s', t', value, log, hs, ht, hsession⟩ <;> rw [hs, ht]
    · exact .none
    · exact .some ⟨hsession, rfl, rfl⟩

theorem related_streamWrite (h : R s t)
    (hwrite : ∀ size buffer, Option.Rel (Related R) (s.write e size buffer) (t.write e size buffer))
    (data : Bytes) : Option.Rel (Related R) (s.streamWrite e data) (t.streamWrite e data) := by
  rw [streamWrite, streamWrite]
  by_cases hdata : data.isEmpty = true
  · simp only [if_pos hdata]
    exact .some ⟨h, rfl, rfl⟩
  · simp only [if_neg hdata]
    rcases related_cases (hwrite (min data.length largestCount : Nat) (some data)) with
      ⟨hs, ht⟩ | ⟨s', t', code, log, hs, ht, hsession⟩ <;> rw [hs, ht]
    · exact .none
    · simp only [Option.map_some]
      refine .some ?_
      split <;> exact ⟨hsession, rfl, rfl⟩

theorem related_streamWriteAll
    (hwrite : ∀ s t, R s t → ∀ size buffer,
      Option.Rel (Related R) (s.write e size buffer) (t.write e size buffer))
    (s t : Session) (data : Bytes) (h : R s t) :
    Option.Rel (Related R) (s.streamWriteAll e data) (t.streamWriteAll e data) := by
  induction hlength : data.length using Nat.strongRecOn generalizing s t data with
  | ind length ih =>
    rw [streamWriteAll, streamWriteAll]
    by_cases hdata : data.isEmpty = true
    · simp only [if_pos hdata]
      exact .some ⟨h, rfl, rfl⟩
    · simp only [if_neg hdata]
      rcases related_cases (related_streamWrite h (hwrite s t h) data) with
        ⟨hs, ht⟩ | ⟨s', t', outcome, log, hs, ht, hsession⟩ <;> rw [hs, ht]
      · exact .none
      · cases outcome with
        | error error => exact .some ⟨hsession, rfl, rfl⟩
        | ok n =>
          dsimp only
          by_cases hn : 0 < n ∧ 0 < data.length
          · simp only [dif_pos hn]
            have hrest := ih (data.drop n).length (by rw [List.length_drop]; omega) s' t'
              (data.drop n) hsession rfl
            rcases related_cases hrest with
              ⟨hs', ht'⟩ | ⟨s'', t'', rest, log', hs', ht', hsession'⟩ <;> rw [hs', ht']
            · exact .none
            · exact .some ⟨hsession', rfl, rfl⟩
          · simp only [dif_neg hn]
            exact .some ⟨hsession, rfl, rfl⟩

/-- **What is made of reads and writes does the same in both sessions**, if they do. -/
theorem related_step_of_transfersOn {event : Event} (hevent : event.transfersOn = some e)
    (hread : ∀ size present, Option.Rel (Related R) (s.read e size present) (t.read e size present))
    (hwrite : ∀ s t, R s t → ∀ size buffer,
      Option.Rel (Related R) (s.write e size buffer) (t.write e size buffer))
    (h : R s t) : Related R (s.step event) (t.step event) := by
  cases event with
  | read j size present =>
    cases hevent
    simp only [step]
    rcases related_cases (hread size present) with
      ⟨hs, ht⟩ | ⟨s', t', value, log, hs, ht, hsession⟩ <;> rw [hs, ht]
    · exact ⟨h, rfl, rfl⟩
    · exact ⟨hsession, rfl, rfl⟩
  | write j size buffer =>
    cases hevent
    simp only [step]
    rcases related_cases (hwrite s t h size buffer) with
      ⟨hs, ht⟩ | ⟨s', t', value, log, hs, ht, hsession⟩ <;> rw [hs, ht]
    · exact ⟨h, rfl, rfl⟩
    · exact ⟨hsession, rfl, rfl⟩
  | streamRead j size =>
    cases hevent
    simp only [step]
    rcases related_cases (related_streamRead h (hread · true) size) with
      ⟨hs, ht⟩ | ⟨s', t', value, log, hs, ht, hsession⟩ <;> rw [hs, ht]
    · exact ⟨h, rfl, rfl⟩
    · exact ⟨hsession, rfl, rfl⟩
  | streamWrite j data =>
    cases hevent
    simp only [step]
    rcases related_cases (related_streamWrite h (hwrite s t h) data) with
      ⟨hs, ht⟩ | ⟨s', t', outcome, log, hs, ht, hsession⟩ <;> rw [hs, ht]
    · exact ⟨h, rfl, rfl⟩
    · cases outcome <;> exact ⟨hsession, rfl, rfl⟩
  | streamWriteAll j data =>
    cases hevent
    simp only [step]
    rcases related_cases (related_streamWriteAll hwrite s t data h) with
      ⟨hs, ht⟩ | ⟨s', t', outcome, log, hs, ht, hsession⟩ <;> rw [hs, ht]
    · exact ⟨h, rfl, rfl⟩
    · cases outcome <;> exact ⟨hsession, rfl, rfl⟩
  | _ => cases hevent

end Session

end Conduit

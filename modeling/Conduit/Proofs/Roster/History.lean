import Conduit.Roster.Basic
import Mathlib.Data.List.Induction
/-!
# The history of a roster

What was asked of a roster, as those saw it who asked: each thing that was entered with the number
that was answered, and each token that was to be struck off. This is enough to tell what stands
under any token, wherever the token comes from.

Striking off a token that has not been issued yet has no bearing on its later issue. So a token
leads to what was entered under its number unless it was struck off *after* that.

## Main definitions

* `Conduit.Deed`: an entry of such a history.
* `Conduit.Roster.Leads`: what a history says of a token.
* `Conduit.Roster.Recorded`: the roster is as its history has it.

## Main results

* `Recorded.add`, `Recorded.remove`, `Recorded.removeIf`: the history is kept faithfully.
* `Recorded.size`: the size is the number of tokens that lead anywhere.
-/

namespace Conduit

/-- Where an element is followed by what has some property, after one more element: it is that last
element, or it was there before. -/
theorem exists_split_concat {α : Type} {l : List α} {x y : α} {P : List α → Prop} :
    (∃ earlier later, l ++ [y] = earlier ++ x :: later ∧ P later) ↔
      (y = x ∧ P []) ∨ ∃ earlier later, l = earlier ++ x :: later ∧ P (later ++ [y]) := by
  constructor
  · rintro ⟨earlier, later, hl, hlater⟩
    rcases List.eq_nil_or_concat later with rfl | ⟨before, last, rfl⟩
    · obtain ⟨-, hlast⟩ := List.append_inj' hl rfl
      exact Or.inl ⟨(List.cons.inj hlast).1, hlater⟩
    · rw [List.concat_eq_append, ← List.cons_append, ← List.append_assoc] at hl
      obtain ⟨hbefore, hlast⟩ := List.append_inj' hl rfl
      cases hlast
      exact Or.inr ⟨earlier, before, hbefore, by simpa using hlater⟩
  · rintro (⟨rfl, hnil⟩ | ⟨earlier, later, rfl, hlater⟩)
    · exact ⟨l, [], rfl, hnil⟩
    · exact ⟨earlier, later ++ [y], by simp, hlater⟩

/-- What happened to a roster, as seen by who asked for it. -/
inductive Deed (α : Type) where
  /-- Something was entered, and a number was answered. -/
  | entered (number : Nat) (a : α)
  /-- A token was struck off. -/
  | struck (t : Token)
  deriving DecidableEq, Repr

namespace Roster

variable {α : Type} {h : List (Deed α)} {deed : Deed α} {t u : Token} {a b : α}

/-- The numbers that were answered, in order. -/
def numbers (h : List (Deed α)) : List Nat :=
  h.filterMap fun
    | .entered number _ => some number
    | .struck _ => none

theorem numbers_concat_entered (h : List (Deed α)) (number : Nat) (a : α) :
    numbers (h ++ [.entered number a]) = numbers h ++ [number] := by
  simp [numbers]

theorem numbers_concat_struck (h : List (Deed α)) (t : Token) :
    numbers (h ++ [.struck t]) = numbers h := by
  simp [numbers]

theorem number_next (r : Roster α) : r.next.number = r.issued + 1 := rfl

/-- The token was answered when that was entered, and has not been struck off since. -/
def Leads (h : List (Deed α)) (t : Token) (a : α) : Prop :=
  ∃ earlier later, h = earlier ++ .entered t.number a :: later ∧ .struck t ∉ later

theorem not_leads_nil : ¬ Leads ([] : List (Deed α)) t a := by
  rintro ⟨earlier, later, hnil, -⟩
  simp at hnil

theorem Leads.mem_numbers (hleads : Leads h t a) : t.number ∈ numbers h := by
  obtain ⟨earlier, later, rfl, -⟩ := hleads
  simp [numbers]

theorem leads_concat :
    Leads (h ++ [deed]) t a ↔ deed = .entered t.number a ∨ (Leads h t a ∧ deed ≠ .struck t) := by
  rw [Leads, exists_split_concat]
  refine or_congr (and_iff_left List.not_mem_nil) ?_
  simp only [List.mem_append, List.mem_singleton, not_or, ← and_assoc, exists_and_right]
  exact and_congr_right' (not_congr eq_comm)

/-- The roster is as its history has it. -/
structure Recorded (r : Roster α) (h : List (Deed α)) : Prop where
  /-- The first entry was answered with the number one, and each later one with the next. -/
  numbers_eq : numbers h = List.range' 1 r.issued
  get?_iff : ∀ {t a}, r.get? t = some a ↔ Leads h t a
  nodup : r.entries.keys.Nodup

namespace Recorded

variable {r : Roster α}

theorem empty : (∅ : Roster α).Recorded [] where
  numbers_eq := rfl
  get?_iff := by simp [not_leads_nil]
  nodup := List.nodup_nil

/-- The next token leads nowhere yet. -/
theorem not_leads_next (hr : r.Recorded h) : ¬ Leads h r.next a := by
  intro hleads
  have hmem := hleads.mem_numbers
  rw [hr.numbers_eq, List.mem_range'_1] at hmem
  rw [number_next] at hmem
  omega

theorem add (hr : r.Recorded h) (a : α) :
    (r.add a).2.Recorded (h ++ [.entered r.next.number a]) where
  numbers_eq := by
    rw [numbers_concat_entered, hr.numbers_eq, issued_add, List.range'_1_concat, number_next,
      Nat.add_comm]
  get?_iff := by
    intro t b
    rw [get?_add, leads_concat]
    by_cases ht : t = r.next
    · subst ht
      simp [hr.not_leads_next]
    · have hnumber : r.next.number ≠ t.number := fun hsame => ht (Token.number_inj.mp hsame).symm
      simp [ht, hnumber, hr.get?_iff]
  nodup := Table.nodup_keys_put hr.nodup _ _

theorem remove (hr : r.Recorded h) (u : Token) : (r.remove u).Recorded (h ++ [.struck u]) where
  numbers_eq := by rw [numbers_concat_struck, hr.numbers_eq, issued_remove]
  get?_iff := by
    intro t b
    rw [get?_remove, leads_concat]
    by_cases ht : t = u
    · simp [ht]
    · simp [ht, Ne.symm ht, hr.get?_iff]
  nodup := Table.nodup_keys_erase hr.nodup _

theorem removeIf [DecidableEq α] (hr : r.Recorded h) (u : Token) (b : α) :
    (r.removeIf u b).2.Recorded (if (r.removeIf u b).1 then h ++ [.struck u] else h) := by
  unfold Roster.removeIf
  split
  · exact hr.remove u
  · exact hr

/-- The size is the number of tokens that lead anywhere. -/
theorem size (hr : r.Recorded h) : ∃ tokens : List Token, tokens.Nodup ∧
    (∀ t, t ∈ tokens ↔ ∃ a, Leads h t a) ∧ r.size = tokens.length := by
  refine ⟨r.entries.keys, hr.nodup, fun t => ?_, r.entries.length_keys.symm⟩
  simp only [← hr.get?_iff]
  exact Table.mem_keys_iff

end Recorded

end Roster

end Conduit

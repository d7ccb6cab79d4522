import Conduit.Proofs.Roster.History
import Conduit.Proofs.Session.Tokens
/-!
# What the log says of a token

A token stands for the adapter that it was issued to until a line about it reports that it was
struck off. That is read off the log alone, and the rosters agree with it after every passage of the
bonds, orderly or not: a data field that is overwritten changes no roster, and striking off a token
that is not in force is logged without any effect.

Tokens are counted and never issued twice. This is what keeps one that was struck off from coming
to stand for a later adapter.

## Main definitions

* `Conduit.Stands`, `Conduit.Retired`: what a log says of a token.
* `Conduit.Bonds.Recorded`: the rosters are as the log has it.

## Main results

* `Recorded.passage`: the log is kept faithfully.
-/

namespace Conduit

/-- A token has been issued to an adapter, and no line after that reports that it was struck off. -/
def Stands (log : List LogLine) (a : Adapter) (t : Token) : Prop :=
  ∃ earlier later, log = earlier ++ .attached a t :: later ∧
    .detached a.side t ∉ later ∧ .released a.side t ∉ later

/-- A token of a side has been issued, and a line after that reports that it was struck off. -/
def Retired (log : List LogLine) (side : Side) (t : Token) : Prop :=
  ∃ a earlier later, log = earlier ++ .attached a t :: later ∧ a.side = side ∧
    (.detached side t ∈ later ∨ .released side t ∈ later)

section Log

variable {log : List LogLine} {line : LogLine} {a : Adapter} {side : Side} {t : Token}

theorem Stands.mem (h : Stands log a t) : .attached a t ∈ log := by
  obtain ⟨earlier, later, rfl, -⟩ := h
  simp

theorem Retired.mem (h : Retired log side t) : ∃ a, a.side = side ∧ .attached a t ∈ log := by
  obtain ⟨a, earlier, later, rfl, hside, -⟩ := h
  exact ⟨a, hside, by simp⟩

theorem stands_concat : Stands (log ++ [line]) a t ↔ line = .attached a t ∨
    (Stands log a t ∧ line ≠ .detached a.side t ∧ line ≠ .released a.side t) := by
  rw [Stands, exists_split_concat]
  refine or_congr (and_iff_left ⟨List.not_mem_nil, List.not_mem_nil⟩) ⟨?_, ?_⟩
  · rintro ⟨earlier, later, hlog, hdetached, hreleased⟩
    simp only [List.mem_append, List.mem_singleton, not_or] at hdetached hreleased
    exact ⟨⟨earlier, later, hlog, hdetached.1, hreleased.1⟩, Ne.symm hdetached.2,
      Ne.symm hreleased.2⟩
  · rintro ⟨⟨earlier, later, hlog, hdetached, hreleased⟩, hline⟩
    refine ⟨earlier, later, hlog, ?_, ?_⟩
    · simpa [hdetached] using Ne.symm hline.1
    · simpa [hreleased] using Ne.symm hline.2

theorem Retired.of_concat (h : Retired (log ++ [line]) side t) : Retired log side t ∨
    line = .detached side t ∨ line = .released side t := by
  obtain ⟨a, hsplit⟩ := h
  rcases exists_split_concat.mp hsplit with ⟨-, -, hnil⟩ | ⟨earlier, later, hlog, hside, hlater⟩
  · simp at hnil
  · simp only [List.mem_append, List.mem_singleton] at hlater
    rcases hlater with (hmem | rfl) | (hmem | rfl)
    · exact Or.inl ⟨a, earlier, later, hlog, hside, Or.inl hmem⟩
    · exact Or.inr (Or.inl rfl)
    · exact Or.inl ⟨a, earlier, later, hlog, hside, Or.inr hmem⟩
    · exact Or.inr (Or.inr rfl)

end Log

namespace Bonds

/-- The rosters are as the log has it. -/
structure Recorded (b : Bonds) (log : List LogLine) : Prop where
  entry_iff : ∀ {a t}, (b.roster a.side).get? t = some a.key ↔ Stands log a t
  issued : ∀ {a t}, .attached a t ∈ log → t.index < (b.roster a.side).issued
  retired : ∀ {side t}, Retired log side t → (b.roster side).get? t = none

namespace Recorded

variable {b b' : Bonds} {log log' : List LogLine}

theorem of_roster_eq (h : b.Recorded log) (hroster : b'.roster = b.roster) : b'.Recorded log where
  entry_iff := by rw [hroster]; exact h.entry_iff
  issued := by rw [hroster]; exact h.issued
  retired := by rw [hroster]; exact h.retired

/-- A line about something else changes nothing. -/
theorem concat (h : b.Recorded log) {line : LogLine} (hline : line.isBinding = false) :
    b.Recorded (log ++ [line]) := by
  have hattached : ∀ a t, line ≠ .attached a t := by rintro a t rfl; cases hline
  have hdetached : ∀ side t, line ≠ .detached side t := by rintro side t rfl; cases hline
  have hreleased : ∀ side t, line ≠ .released side t := by rintro side t rfl; cases hline
  constructor
  · intro a t
    rw [h.entry_iff, stands_concat]
    simp [hattached, hdetached, hreleased]
  · intro a t hmem
    refine h.issued ((List.mem_append.mp hmem).resolve_right fun hlast => ?_)
    exact hattached a t (List.mem_singleton.mp hlast).symm
  · intro side t hretired
    refine h.retired (hretired.of_concat.resolve_right ?_)
    simp [hdetached, hreleased]

theorem append (h : b.Recorded log) (hlog : ∀ line ∈ log', line.isBinding = false) :
    b.Recorded (log ++ log') := by
  induction log' generalizing log with
  | nil => simpa using h
  | cons line rest ih =>
    rw [List.append_cons]
    refine ih (h.concat (hlog line List.mem_cons_self)) fun other hother => ?_
    exact hlog other (List.mem_cons_of_mem _ hother)

/-- The next token of a side has not been mentioned. -/
theorem attached_next_not_mem (h : b.Recorded log) (a : Adapter) :
    .attached a (b.roster a.side).next ∉ log := fun hmem =>
  Nat.lt_irrefl _ (h.issued hmem)

theorem tie (h : b.Recorded log) (e : Nat) (a : Adapter) :
    (b.tie e a).Recorded (log ++ [.attached a (b.roster a.side).next]) where
  entry_iff := by
    intro c t
    rw [get?_tie, stands_concat]
    by_cases hnext : c.side = a.side ∧ t = (b.roster c.side).next
    · -- the log has not mentioned this token, so only the new line can say who it stands for
      obtain ⟨hside, rfl⟩ := hnext
      rw [if_pos ⟨hside, rfl⟩, ← hside]
      have hold : ¬ Stands log c (b.roster c.side).next :=
        fun hstands => h.attached_next_not_mem c hstands.mem
      have hca : some a.key = some c.key ↔ a = c := by
        rw [Adapter.eq_iff, Option.some.injEq]
        simp [hside]
      simp [hold, hca]
    · rw [if_neg hnext, h.entry_iff]
      have hline : LogLine.attached a (b.roster a.side).next ≠ .attached c t := by
        rintro ⟨⟩
        exact hnext ⟨rfl, rfl⟩
      simp [hline]
  issued := by
    intro c t hmem
    rw [issued_tie]
    rcases List.mem_append.mp hmem with hmem | hmem
    · exact Nat.lt_of_lt_of_le (h.issued hmem) (Nat.le_add_right _ _)
    · cases List.mem_singleton.mp hmem
      rw [if_pos rfl]
      exact Nat.lt_succ_self _
  retired := by
    intro side t hretired
    have hold := hretired.of_concat.resolve_right (by simp)
    rw [get?_tie, if_neg]
    · exact h.retired hold
    · rintro ⟨hside, rfl⟩
      obtain ⟨c, rfl, hmem⟩ := hold.mem
      exact h.attached_next_not_mem c hmem

theorem cut (h : b.Recorded log) (e : Nat) {way : Side} {u : Token} {line : LogLine}
    (hline : line = .detached way u ∨ line = .released way u) :
    ((b.strike way u).clear e).Recorded (log ++ [line]) where
  entry_iff := by
    intro c t
    rw [roster_clear, get?_strike, stands_concat]
    have hattached : line ≠ .attached c t := by rcases hline with rfl | rfl <;> simp
    have hstruck : (line ≠ .detached c.side t ∧ line ≠ .released c.side t) ↔
        ¬ (c.side = way ∧ t = u) := by
      rcases hline with rfl | rfl
      · simp only [ne_eq, LogLine.detached.injEq, reduceCtorEq, not_false_eq_true, and_true]
        exact not_congr ⟨fun h => ⟨h.1.symm, h.2.symm⟩, fun h => ⟨h.1.symm, h.2.symm⟩⟩
      · simp only [ne_eq, LogLine.released.injEq, reduceCtorEq, not_false_eq_true, true_and]
        exact not_congr ⟨fun h => ⟨h.1.symm, h.2.symm⟩, fun h => ⟨h.1.symm, h.2.symm⟩⟩
    rw [hstruck]
    split
    · next hu =>
      refine iff_of_false (by simp) ?_
      rintro (hline | ⟨-, hnot⟩)
      · exact hattached hline
      · exact hnot hu
    · next hu => simp [hattached, hu, h.entry_iff]
  issued := by
    intro c t hmem
    rw [roster_clear, issued_strike]
    refine h.issued ((List.mem_append.mp hmem).resolve_right fun hlast => ?_)
    cases List.mem_singleton.mp hlast
    rcases hline with hline | hline <;> cases hline
  retired := by
    intro side t hretired
    rw [roster_clear, get?_strike]
    split
    · rfl
    · next hu =>
      refine h.retired (hretired.of_concat.resolve_right fun hlast => hu ?_)
      rcases hline with rfl | rfl <;> rcases hlast with hlast | hlast <;> cases hlast <;>
        exact ⟨rfl, rfl⟩

/-- **The log is kept faithfully**, whatever is done to data fields. -/
theorem passage {orderly : Prop} (h : b.Recorded log) (hpassage : Passage orderly b log' b') :
    b'.Recorded (log ++ log') := by
  induction hpassage generalizing log with
  | still hlog => exact h.append hlog
  | tie a hnew => exact h.tie _ a
  | cut hline hown => exact h.cut _ hline
  | overwrite hfree hroster =>
    rw [List.append_nil]
    exact h.of_roster_eq hroster
  | trans hfirst hsecond ihfirst ihsecond =>
    rw [← List.append_assoc]
    exact ihsecond (ihfirst h)

end Recorded

end Bonds

end Conduit

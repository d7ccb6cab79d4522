/-!
# Ranges of code points

A property of characters is written down as the closed ranges of code points that have it, in
ascending order and apart, so that a search can stop at the first range that starts too far on.

## Main definitions

* `Conduit.Text.Ranges`, with `contains`, `isAscending` and `count`.

## Main results

* `Conduit.Text.Ranges.contains_iff`: stopping early misses nothing.
-/

namespace Conduit.Text

/-- Closed ranges of code points. -/
abbrev Ranges := List (Nat × Nat)

namespace Ranges

/-- Whether a code point lies in one of the ranges, which have to be in ascending order. -/
def contains : Ranges → Nat → Bool
  | [], _ => false
  | (first, last) :: rest, n => first ≤ n && (n ≤ last || contains rest n)

/-- Whether each range is one, and starts beyond the end of the range before it. -/
def isAscending : Ranges → Bool
  | [] => true
  | [r] => r.1 ≤ r.2
  | r :: s :: rest => r.1 ≤ r.2 && r.2 < s.1 && isAscending (s :: rest)

/-- The number of code points in the ranges. -/
def count (rs : Ranges) : Nat := rs.foldl (fun n r => n + (r.2 + 1 - r.1)) 0

theorem isAscending_of_cons {r : Nat × Nat} {rs : Ranges} (h : isAscending (r :: rs) = true) :
    isAscending rs = true := by
  cases rs with
  | nil => rfl
  | cons s rest => simp only [isAscending, Bool.and_eq_true] at h; exact h.2

theorem le_of_mem_of_isAscending {r s : Nat × Nat} {rs : Ranges}
    (h : isAscending (r :: rs) = true) (hs : s ∈ rs) : r.1 ≤ s.1 := by
  induction rs generalizing r with
  | nil => simp at hs
  | cons t rest ih =>
    have ht : r.1 ≤ t.1 := by
      simp only [isAscending, Bool.and_eq_true, decide_eq_true_eq] at h
      omega
    rcases List.mem_cons.1 hs with rfl | hs
    · exact ht
    · exact Nat.le_trans ht (ih (isAscending_of_cons h) hs)

/-- A search of ascending ranges finds a code point exactly if some range holds it. -/
theorem contains_iff {rs : Ranges} (h : rs.isAscending = true) (n : Nat) :
    rs.contains n = true ↔ ∃ r ∈ rs, r.1 ≤ n ∧ n ≤ r.2 := by
  induction rs with
  | nil => simp [contains]
  | cons r rest ih =>
    have ih := ih (isAscending_of_cons h)
    simp only [contains, Bool.and_eq_true, Bool.or_eq_true, decide_eq_true_eq, ih,
      List.mem_cons, exists_eq_or_imp]
    constructor
    · rintro ⟨hr, hn | hn⟩
      · exact .inl ⟨hr, hn⟩
      · exact .inr hn
    · rintro (⟨hr, hn⟩ | ⟨s, hs, hn⟩)
      · exact ⟨hr, .inl hn⟩
      · exact ⟨Nat.le_trans (le_of_mem_of_isAscending h hs) hn.1, .inr ⟨s, hs, hn⟩⟩

end Ranges

end Conduit.Text

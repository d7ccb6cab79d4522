import Conduit.Proofs.Session.Passage
/-!
# The course of one token

A token is issued to an adapter, stored in one endpoint, and struck off once. There are five ways
to strike it off, and an endpoint may outlive all but the last of them. What keeps them from getting
in each other's way is that a token is struck off only as the endpoint that stores it is cleared:
`Bonds.Paired` is that invariant, and every orderly passage keeps it.

Everything here is about bonds and the lines that are logged; sessions do not occur.

## Main definitions

* `Conduit.LogLine.issues`, `Conduit.LogLine.retires`: the lines about one token.
* `Conduit.Bonds.Paired`: the tokens in force are those that are stored, each in one endpoint.

## Main results

* `countP_issues_of_passage`: a token is issued once.
* `get?_of_passage`, `stamp_of_passage`: a token never comes to stand for something else, and it
  never moves to another endpoint.
* `Paired.passage`, `Paired.countP_retires`: pairing is kept, and a token is struck off once.
-/

namespace Conduit

/-- Whether a line reports that a token of a side was issued. -/
def LogLine.issues (side : Side) (t : Token) : LogLine → Bool
  | .attached a u => a.side = side ∧ u = t
  | _ => false

/-- Whether a line reports that a token of a side was struck off. -/
def LogLine.retires (side : Side) (t : Token) : LogLine → Bool
  | .detached way u => way = side ∧ u = t
  | .released way u => way = side ∧ u = t
  | _ => false

theorem LogLine.isBinding_of_issues {side : Side} {t : Token} {line : LogLine}
    (h : line.issues side t = true) : line.isBinding = true := by
  cases line <;> first | rfl | simp [issues] at h

theorem LogLine.isBinding_of_retires {side : Side} {t : Token} {line : LogLine}
    (h : line.retires side t = true) : line.isBinding = true := by
  cases line <;> first | rfl | simp [retires] at h

/-- A log that says nothing about tokens says nothing about one of them. -/
theorem LogLine.countP_eq_zero {log : List LogLine} (hlog : ∀ line ∈ log, line.isBinding = false)
    {p : LogLine → Bool} (hp : ∀ {line}, p line = true → line.isBinding = true) :
    log.countP p = 0 := by
  rw [List.countP_eq_zero]
  intro line hline hpline
  exact absurd (hp hpline) (by simp [hlog line hline])

namespace Bonds

variable {b b' : Bonds} {log : List LogLine} {side : Side} {t : Token}

/-- Whether a token of a side is in force. -/
def inForce (b : Bonds) (side : Side) (t : Token) : Bool := ((b.roster side).get? t).isSome

@[simp] theorem issued_tie (b : Bonds) (e : Nat) (a : Adapter) (side : Side) :
    ((b.tie e a).roster side).issued =
      (b.roster side).issued + if side = a.side then 1 else 0 := by
  by_cases h : side = a.side <;> simp [tie, h]

@[simp] theorem issued_strike (b : Bonds) (way : Side) (u : Token) (side : Side) :
    ((b.strike way u).roster side).issued = (b.roster side).issued := by
  by_cases h : side = way <;> simp [strike, h]

@[simp] theorem roster_clear (b : Bonds) (e : Nat) : (b.clear e).roster = b.roster := rfl

theorem get?_tie (b : Bonds) (e : Nat) (a : Adapter) (side : Side) (t : Token) :
    ((b.tie e a).roster side).get? t =
      if side = a.side ∧ t = (b.roster side).next then some a.key
      else (b.roster side).get? t := by
  by_cases h : side = a.side
  · subst h
    simp [tie]
  · simp [tie, h]

theorem get?_strike (b : Bonds) (way : Side) (u : Token) (side : Side) (t : Token) :
    ((b.strike way u).roster side).get? t =
      if side = way ∧ t = u then none else (b.roster side).get? t := by
  by_cases h : side = way
  · subst h
    simp [strike]
  · simp [strike, h]

/-! ### The log of a passage -/

/-- **A token is issued once**, and then it counts as issued for good. -/
theorem countP_issues_of_passage {orderly : Prop} (h : Passage orderly b log b') (side : Side)
    (t : Token) :
    log.countP (LogLine.issues side t) + (decide (t.index < (b.roster side).issued)).toNat =
      (decide (t.index < (b'.roster side).issued)).toNat := by
  induction h with
  | @still b log hlog =>
    rw [LogLine.countP_eq_zero hlog LogLine.isBinding_of_issues, Nat.zero_add]
  | @tie b e a hnew =>
    by_cases hside : side = a.side
    · subst hside
      -- the token that is issued is the first that did not count as issued before
      obtain hlt | heq | hgt := Nat.lt_trichotomy t.index (b.roster a.side).issued
      · have hne : (b.roster a.side).next ≠ t := by
          rintro rfl
          exact absurd hlt (Nat.lt_irrefl _)
        have hlater : t.index < (b.roster a.side).issued + 1 := Nat.lt_succ_of_lt hlt
        simp [LogLine.issues, hne, hlt, hlater]
      · have hnext : (b.roster a.side).next = t := by
          cases t
          exact congrArg Token.mk heq.symm
        simp [LogLine.issues, hnext, heq]
      · have hne : (b.roster a.side).next ≠ t := by
          rintro rfl
          exact absurd hgt (Nat.lt_irrefl _)
        have hnot : ¬ t.index < (b.roster a.side).issued := Nat.not_lt.mpr (Nat.le_of_lt hgt)
        have hnot' : ¬ t.index < (b.roster a.side).issued + 1 := by omega
        simp [LogLine.issues, hne, hnot, hnot']
    · have hne : a.side ≠ side := fun heq => hside heq.symm
      simp [LogLine.issues, hside, hne]
  | cut hline hown =>
    rcases hline with rfl | rfl <;> simp [LogLine.issues]
  | overwrite hfree hroster => rw [hroster]; simp
  | trans hfirst hsecond ihfirst ihsecond =>
    rw [List.countP_append]
    omega

/-- No token is ever taken back. -/
theorem issued_of_passage {orderly : Prop} (h : Passage orderly b log b')
    (ht : t.index < (b.roster side).issued) : t.index < (b'.roster side).issued := by
  have hcount := countP_issues_of_passage h side t
  refine Nat.lt_of_not_le fun hle => ?_
  simp [ht, Nat.not_lt.mpr hle] at hcount

/-- What stands under a token that has been issued before has stood there all along. -/
theorem get?_of_passage {orderly : Prop} (h : Passage orderly b log b')
    (ht : t.index < (b.roster side).issued) {k : Nat} (hk : (b'.roster side).get? t = some k) :
    (b.roster side).get? t = some k := by
  induction h with
  | still hlog => exact hk
  | @tie b e a hnew =>
    rw [get?_tie, if_neg] at hk
    · exact hk
    · rintro ⟨-, rfl⟩
      exact absurd ht (Nat.lt_irrefl _)
  | @cut b e way u line hline hown =>
    rw [roster_clear, get?_strike] at hk
    split at hk
    · cases hk
    · exact hk
  | overwrite hfree hroster => rwa [hroster] at hk
  | trans hfirst hsecond ihfirst ihsecond =>
    exact ihfirst ht (ihsecond (issued_of_passage hfirst ht) hk)

/-- Tokens do not move: where a token is stored that has been issued before, it has been stored all
along. -/
theorem stamp_of_passage (h : Passage True b log b') (ht : t.index < (b.roster side).issued)
    {e : Nat} (he : b'.stamp e = some (side, t)) : b.stamp e = some (side, t) := by
  induction h with
  | still hlog => exact he
  | @tie b j a hnew =>
    simp only [tie] at he
    split at he
    · cases he
      exact absurd ht (Nat.lt_irrefl _)
    · exact he
  | @cut b j way u line hline hown =>
    simp only [clear] at he
    split at he
    · cases he
    · exact he
  | overwrite hfree hroster => exact absurd trivial hfree
  | trans hfirst hsecond ihfirst ihsecond =>
    exact ihfirst ht (ihsecond (issued_of_passage hfirst ht) he)

/-! ### Pairing -/

/-- The tokens in force are those that are stored, and each of them is stored in one endpoint. -/
structure Paired (b : Bonds) : Prop where
  issued : ∀ {side t}, b.inForce side t = true → t.index < (b.roster side).issued
  stored_iff : ∀ {side t}, b.inForce side t = true ↔ ∃ e, b.stamp e = some (side, t)
  alone : ∀ {side t e j}, b.stamp e = some (side, t) → b.stamp j = some (side, t) → j = e

namespace Paired

/-- The next token of a side is stored nowhere. -/
theorem stamp_ne_next (hb : b.Paired) (side : Side) (e : Nat) :
    b.stamp e ≠ some (side, (b.roster side).next) := fun he =>
  Nat.lt_irrefl _ (hb.issued (hb.stored_iff.mpr ⟨e, he⟩))

theorem tie (hb : b.Paired) {e : Nat} (hnew : b.stamp e = none) (a : Adapter) :
    (b.tie e a).Paired where
  issued := by
    intro side t ht
    rw [inForce, get?_tie] at ht
    rw [issued_tie]
    split at ht
    · next hnext =>
      rw [hnext.2, if_pos hnext.1]
      exact Nat.lt_succ_self _
    · exact Nat.lt_of_lt_of_le (hb.issued ht) (Nat.le_add_right _ _)
  stored_iff := by
    intro side t
    by_cases hnext : side = a.side ∧ t = (b.roster side).next
    · obtain ⟨rfl, rfl⟩ := hnext
      refine iff_of_true ?_ ⟨e, if_pos rfl⟩
      simp [inForce, get?_tie]
    · have hforce : (b.tie e a).inForce side t = b.inForce side t := by
        rw [inForce, get?_tie, if_neg hnext, inForce]
      rw [hforce, hb.stored_iff]
      constructor
      -- nothing was stored in the new endpoint, so no other token has lost its place
      · rintro ⟨j, hj⟩
        have hje : j ≠ e := by
          rintro rfl
          cases hnew.symm.trans hj
        exact ⟨j, (if_neg hje).trans hj⟩
      · rintro ⟨j, hj⟩
        simp only [Bonds.tie] at hj
        split at hj
        · cases hj
          exact absurd ⟨rfl, rfl⟩ hnext
        · exact ⟨j, hj⟩
  alone := by
    intro side t i j hi hj
    simp only [Bonds.tie] at hi hj
    split at hi <;> split at hj
    · next h h' => rw [h, h']
    · cases hi
      exact absurd hj (hb.stamp_ne_next a.side j)
    · cases hj
      exact absurd hi (hb.stamp_ne_next a.side i)
    · exact hb.alone hi hj

/-- A token that is struck off is cleared from the only endpoint that stores it. -/
theorem cut (hb : b.Paired) {e : Nat} {way : Side} {u : Token} (he : b.stamp e = some (way, u)) :
    ((b.strike way u).clear e).Paired where
  issued := by
    intro side t ht
    rw [inForce, roster_clear, get?_strike] at ht
    rw [roster_clear, issued_strike]
    split at ht
    · cases ht
    · exact hb.issued ht
  stored_iff := by
    intro side t
    -- no other endpoint stores the token, so clearing this one takes it away altogether
    have hstamp : ∀ j, ((b.strike way u).clear e).stamp j = some (side, t) ↔
        b.stamp j = some (side, t) ∧ ¬ (side = way ∧ t = u) := by
      intro j
      by_cases hj : j = e
      · subst hj
        have : ((b.strike way u).clear j).stamp j = none := if_pos rfl
        rw [this, he]
        simp only [reduceCtorEq, Option.some.injEq, Prod.mk.injEq, false_iff, not_and]
        rintro ⟨rfl, rfl⟩ hne
        exact hne rfl rfl
      · have : ((b.strike way u).clear e).stamp j = b.stamp j := if_neg hj
        rw [this]
        refine ⟨fun h => ⟨h, ?_⟩, And.left⟩
        rintro ⟨rfl, rfl⟩
        exact hj (hb.alone he h)
    have hforce : ((b.strike way u).clear e).inForce side t = true ↔
        b.inForce side t = true ∧ ¬ (side = way ∧ t = u) := by
      rw [inForce, roster_clear, get?_strike, inForce]
      split <;> simp_all
    rw [hforce, hb.stored_iff]
    simp only [hstamp, exists_and_right]
  alone := by
    intro side t i j hi hj
    simp only [clear, strike] at hi hj
    split at hi
    · cases hi
    · split at hj
      · cases hj
      · exact hb.alone hi hj

/-- **Pairing outlasts every orderly passage.** -/
theorem passage (hb : b.Paired) (h : Passage True b log b') : b'.Paired := by
  induction h with
  | still hlog => exact hb
  | tie a hnew => exact hb.tie hnew a
  | cut hline hown => exact hb.cut (hown trivial)
  | overwrite hfree hroster => exact absurd trivial hfree
  | trans hfirst hsecond ihfirst ihsecond => exact ihsecond (ihfirst hb)

/-- **What is in force and what has been struck off make up what has been issued.** -/
theorem countP_retires (hb : b.Paired) (h : Passage True b log b') (side : Side) (t : Token) :
    log.countP (LogLine.retires side t) + (b'.inForce side t).toNat =
      (b.inForce side t).toNat + log.countP (LogLine.issues side t) := by
  induction h with
  | @still b log hlog =>
    rw [LogLine.countP_eq_zero hlog LogLine.isBinding_of_issues,
      LogLine.countP_eq_zero hlog LogLine.isBinding_of_retires, Nat.zero_add]
    rfl
  | @tie b e a hnew =>
    have hretires : [LogLine.attached a (b.roster a.side).next].countP
        (LogLine.retires side t) = 0 := by
      simp [LogLine.retires]
    rw [hretires]
    by_cases hnext : side = a.side ∧ t = (b.roster side).next
    · obtain ⟨rfl, rfl⟩ := hnext
      have hbefore : b.inForce a.side (b.roster a.side).next = false :=
        Bool.eq_false_iff.mpr fun hforce => Nat.lt_irrefl _ (hb.issued hforce)
      rw [hbefore]
      simp [inForce, get?_tie, LogLine.issues]
    · have hforce : (b.tie e a).inForce side t = b.inForce side t := by
        rw [inForce, get?_tie, if_neg hnext, inForce]
      have hissues : [LogLine.attached a (b.roster a.side).next].countP
          (LogLine.issues side t) = 0 := by
        rw [List.countP_eq_zero]
        simp only [List.mem_singleton, forall_eq, LogLine.issues, decide_eq_true_eq]
        rintro ⟨rfl, rfl⟩
        exact hnext ⟨rfl, rfl⟩
      rw [hforce, hissues, Nat.zero_add]
      rfl
  | @cut b e way u line hline hown =>
    have hissues : [line].countP (LogLine.issues side t) = 0 := by
      rcases hline with rfl | rfl <;> simp [LogLine.issues]
    have hretires : [line].countP (LogLine.retires side t) =
        (decide (way = side ∧ u = t)).toNat := by
      rcases hline with rfl | rfl <;> by_cases h : way = side ∧ u = t <;>
        simp [LogLine.retires, h]
    rw [hissues, hretires, inForce, roster_clear, get?_strike]
    by_cases h : side = way ∧ t = u
    · obtain ⟨rfl, rfl⟩ := h
      have hforce := hb.stored_iff.mpr ⟨e, hown trivial⟩
      simp [hforce]
    · have h' : ¬ (way = side ∧ u = t) := fun heq => h ⟨heq.1.symm, heq.2.symm⟩
      simp [h, h', inForce]
  | overwrite hfree hroster => exact absurd trivial hfree
  | trans hfirst hsecond ihfirst ihsecond =>
    have hone := ihfirst hb
    have htwo := ihsecond (hb.passage hfirst)
    rw [List.countP_append, List.countP_append]
    omega

end Paired

end Bonds

end Conduit

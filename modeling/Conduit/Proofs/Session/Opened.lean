import Conduit.Proofs.Session.Lifecycle
import Conduit.Proofs.Session.Logging
/-!
# A duplex since it was opened

What stays true of a duplex, its endpoints and its tokens from the moment it is opened, whatever
happens. Each endpoint stores the token that was issued for it, which stands for the adapter that it
was issued to, or it stores none. No other endpoint of a side ever stores that token, and no other
duplex has these endpoints. When the duplex is open no longer, both endpoints store nothing.

That is the invariant `Opened`. The names of the duplex are taken to stay its own, even after it and
its endpoints are gone: nothing else is made under them.

## Main definitions

* `Conduit.Session.isOpen`: whether a duplex is there and has not been closed.
* `Conduit.Session.Opened`: what is true since a duplex was opened.
* `Conduit.Session.closings`: how often it was logged that a duplex was closed.

## Main results

* `fades_step`: an endpoint never comes to store another token.
* `fate_step`: what becomes of a duplex in one event.
* `opened_of_tokens`, `opened_run`: opening establishes the invariant, and every run keeps it.
* `closings_run`: a duplex is closed once.
-/

namespace Conduit

/-- One thing of each side. -/
def Side.pick {α : Type} (x y : α) : Side → α
  | .inbound => x
  | .outbound => y

namespace DuplexKeys

/-- The adapter of a duplex on a side. -/
def adapter (d : DuplexKeys) : Side → Adapter
  | .inbound => .inlet d.inlet
  | .outbound => .outlet d.outlet

@[simp] theorem side_adapter (d : DuplexKeys) (side : Side) : (d.adapter side).side = side := by
  cases side <;> rfl

/-- Whether an endpoint is one of a duplex. -/
def owns (d : DuplexKeys) (e : Nat) : Bool := e = d.readEnd ∨ e = d.writeEnd

theorem owns_iff {d : DuplexKeys} {e : Nat} : d.owns e = true ↔ ∃ side, e = d.endpoint side := by
  rw [owns, decide_eq_true_iff]
  constructor
  · rintro (h | h)
    · exact ⟨.inbound, h⟩
    · exact ⟨.outbound, h⟩
  · rintro ⟨side, h⟩
    cases side
    · exact Or.inl h
    · exact Or.inr h

@[simp] theorem owns_endpoint (d : DuplexKeys) (side : Side) : d.owns (d.endpoint side) = true :=
  owns_iff.mpr ⟨side, rfl⟩

end DuplexKeys

/-- Whether an event makes nothing under the names of a duplex. -/
def Event.spares (key : Nat) (d : DuplexKeys) : Event → Bool
  | .openDuplex j c _ _ => j ≠ key ∧ d.owns c.readEnd = false ∧ d.owns c.writeEnd = false
  | .attach e _ => d.owns e = false
  | .openForeign e _ => d.owns e = false
  | _ => true

/-- Whether an event closes the duplex under a key, or drops it. -/
def Event.closes (key : Nat) : Event → Bool
  | .close j => j = key
  | .dropDuplex j => j = key
  | _ => false

namespace Session

variable {s t u : Session} {e key : Nat} {d : DuplexKeys}

/-! ### What becomes of its endpoints -/

/-- **An endpoint of a duplex never comes to store another token.** -/
theorem fades_step {event : Event} (hset : ∀ j data, event ≠ .setData j data)
    (hspares : event.spares key d = true) (he : d.owns e = true) :
    s.Fades (s.step event).session e := by
  have hne : ∀ {j}, d.owns j = false → e ≠ j := by
    rintro j hj rfl
    cases he.symm.trans hj
  cases hbinding : event.isBinding with
  | false => exact fades_of_layout (aloof_step hbinding s).layout e
  | true =>
    have hstep := rebinds_step hbinding s
    generalize s.step event = effect at hstep ⊢
    cases hstep with
    | unknown => exact .refl s e
    | noCallback => exact .refl s e
    | @attach j a | @attachRefused j a =>
      have hj : e ≠ j := hne (by simpa [Event.spares] using hspares)
      rcases attach_cases s j a with ⟨t, hattach, -, -, hends⟩ | ⟨t, hattach, -, -, hends⟩
      · rw [hattach]
        exact fades_put hj hends
      · rw [hattach]
        exact fades_of_get? (by rw [hends])
    | disconnect => exact fades_disconnect s _ _ e
    | @openDuplex j connection c settings | @openDuplexRefused j connection c settings =>
      simp only [Event.spares, decide_eq_true_eq] at hspares
      have hread := hne hspares.2.1
      have hwrite := hne hspares.2.2
      rcases openDuplex_cases s j c connection settings with
        ⟨t, hopen, -, -, hends⟩ | ⟨t, hopen, -, -, hends⟩ | ⟨t, hopen, -, -, hends⟩ <;> rw [hopen]
      · exact fades_of_get? (by simp [hends, hread, hwrite])
      · exact fades_of_get? (by rw [hends])
      · exact fades_of_get? (hends e hread)
    | close => exact fades_close s _ e
    | dropDuplex => exact fades_dropDuplex s _ e
    | free => exact fades_free s _ e
    | setData => exact absurd rfl (hset _ _)
    | destroy => exact fades_release s _ _ e
    | destroyNone => exact .refl s e
    | openForeign => exact fades_put (hne (by simpa [Event.spares] using hspares)) rfl

/-! ### What becomes of a duplex -/

/-- What an event makes of the duplex under a key, if it comes to that reply. -/
def becomes (key : Nat) (event : Event) (reply : Reply) (c : Option Duplex) : Option Duplex :=
  match event, reply with
  | .close j, _ => if j = key then c.map ({ · with closed := true }) else c
  | .dropDuplex j, _ => if j = key then none else c
  | .openDuplex j d _ _, .tokens _ _ => if j = key then some { d with } else c
  | _, _ => c

theorem get?_duplexes_close (s : Session) (j key : Nat) :
    (s.close j).1.duplexes.get? key = becomes key (.close j) .done (s.duplexes.get? key) := by
  rw [becomes]
  cases hd : s.duplexes.get? j with
  | none =>
    have hsame : s.close j = (s, []) := by simp [close, hd]
    rw [hsame]
    split
    · next hj => rw [← hj, hd, Option.map_none]
    · rfl
  | some d =>
    cases hclosed : d.closed with
    | true =>
      -- closing once more changes nothing
      have hsame : s.close j = (s, []) := by simp [close, hd, hclosed]
      rw [hsame]
      split
      · next hj => rw [← hj, hd, Option.map_some, ← hclosed]
      · rfl
    | false =>
      simp only [close, hd, hclosed, Bool.false_eq_true, if_false, duplexes_disconnect,
        Table.get?_put]
      split
      · next hj => rw [if_pos hj.symm, hj, hd, Option.map_some]
      · next hj => rw [if_neg (Ne.symm hj)]

theorem get?_duplexes_dropDuplex (s : Session) (j key : Nat) :
    (s.dropDuplex j).1.duplexes.get? key =
      becomes key (.dropDuplex j) .done (s.duplexes.get? key) := by
  rw [becomes]
  cases hd : s.duplexes.get? j with
  | none =>
    have hsame : s.dropDuplex j = (s, []) := by simp [dropDuplex, hd]
    rw [hsame]
    split
    · next hj => rw [← hj, hd]
    · rfl
  | some d =>
    simp only [dropDuplex, hd, (elsewhere_free _ _).2, Table.get?_erase, get?_duplexes_close,
      becomes]
    by_cases hj : j = key
    · simp [hj]
    · simp [hj, Ne.symm hj]

/-- Only few events bear on duplexes. -/
theorem duplexes_step {event : Event} (hclose : ∀ j, event ≠ .close j)
    (hdrop : ∀ j, event ≠ .dropDuplex j) (hopen : ∀ j c n x, event ≠ .openDuplex j c n x) :
    (s.step event).session.duplexes = s.duplexes := by
  cases hbinding : event.isBinding with
  | false => exact congrArg Layout.duplexes (aloof_step hbinding s).layout
  | true =>
    have hstep := rebinds_step hbinding s
    generalize s.step event = effect at hstep ⊢
    cases hstep with
    | unknown => rfl
    | noCallback => rfl
    | @attach j a | @attachRefused j a =>
      rcases attach_cases s j a with ⟨t, hattach, -, hsame, -⟩ | ⟨t, hattach, -, hsame, -⟩ <;>
        rw [hattach] <;> exact hsame
    | disconnect => exact duplexes_disconnect s _ _
    | openDuplex => exact absurd rfl (hopen _ _ _ _)
    | openDuplexRefused => exact absurd rfl (hopen _ _ _ _)
    | close => exact absurd rfl (hclose _)
    | dropDuplex => exact absurd rfl (hdrop _)
    | free => exact (elsewhere_free s _).2
    | setData => rfl
    | destroy => exact duplexes_release s _ _
    | destroyNone => rfl
    | openForeign => rfl

/-- **What becomes of a duplex in one event.** -/
theorem get?_duplexes_step (s : Session) (event : Event) (key : Nat) :
    (s.step event).session.duplexes.get? key =
      becomes key event (s.step event).value (s.duplexes.get? key) := by
  have hnone : ∀ {j}, s.duplexes.contains j = false → j = key → s.duplexes.get? key = none := by
    rintro j hj rfl
    simpa [Table.contains] using hj
  cases event with
  | close j =>
    simp only [step, onPresent]
    cases hpresent : s.duplexes.contains j with
    | true => exact get?_duplexes_close s j key
    | false =>
      simp only [Bool.false_eq_true, if_false, becomes]
      split
      · next hj => rw [hnone hpresent hj, Option.map_none]
      · rfl
  | dropDuplex j =>
    simp only [step, onPresent]
    cases hpresent : s.duplexes.contains j with
    | true => exact get?_duplexes_dropDuplex s j key
    | false =>
      simp only [Bool.false_eq_true, if_false, becomes]
      split
      · next hj => exact hnone hpresent hj
      · rfl
  | openDuplex j c connection settings =>
    have hstep : s.Rebinds (.openDuplex j c connection settings)
        (s.step (.openDuplex j c connection settings)) := rebinds_step rfl s
    generalize s.step (.openDuplex j c connection settings) = effect at hstep ⊢
    cases hstep with
    | unknown => rfl
    | noCallback => rfl
    | openDuplex hread hwrite hne hvalue =>
      rcases openDuplex_cases s j c connection settings with
        ⟨t, hopen, -, hsame, -⟩ | ⟨t, hopen, -, -, -⟩ | ⟨t, hopen, -, -, -⟩
      · rw [hopen]
        dsimp only
        rw [hsame, Table.get?_put, becomes]
        simp only [eq_comm]
      · simp [hopen] at hvalue
      · simp [hopen] at hvalue
    | openDuplexRefused hread hwrite hne hvalue =>
      rcases openDuplex_cases s j c connection settings with
        ⟨t, hopen, -, -, -⟩ | ⟨t, hopen, -, hsame, -⟩ | ⟨t, hopen, -, hsame, -⟩
      · simp [hopen] at hvalue
      · rw [hopen]
        exact congrArg (·.get? key) hsame
      · rw [hopen]
        exact congrArg (·.get? key) hsame
  | _ => rw [duplexes_step (by simp) (by simp) (by simp)]; rfl

/-! ### How often a duplex is closed -/

/-- Whether the duplex under a key is there and has not been closed. -/
def isOpen (s : Session) (key : Nat) : Bool := (s.duplexes.get? key).any (!·.closed)

/-- How often it was logged that the duplex under a key was closed. -/
def closings (key : Nat) (records : List Record) : Nat :=
  ((records.filter (·.event.closes key)).flatMap (·.log)).count .closed

/-- A duplex is open until it is closed or dropped. -/
theorem isOpen_step {event : Event} (hspares : event.spares key d = true) :
    (s.step event).session.isOpen key = (s.isOpen key && !event.closes key) := by
  rw [isOpen, get?_duplexes_step]
  cases event with
  | close j | dropDuplex j =>
    by_cases hj : j = key
    · cases hc : s.duplexes.get? key <;> simp [becomes, Event.closes, hj]
    · simp [becomes, Event.closes, hj, isOpen]
  | openDuplex j c connection settings =>
    have hj : j ≠ key := (of_decide_eq_true hspares).1
    have hsame : ∀ reply, becomes key (.openDuplex j c connection settings) reply
        (s.duplexes.get? key) = s.duplexes.get? key := by
      intro reply
      cases reply <;> simp [becomes, hj]
    simp [hsame, Event.closes, isOpen]
  | _ => simp [becomes, Event.closes, isOpen]

theorem count_closed_disconnect (s : Session) (e : Nat) (a : Adapter) :
    (s.disconnect e a).2.count .closed = 0 := by
  refine List.count_eq_zero.mpr fun hmem => ?_
  obtain ⟨v, hline⟩ := log_disconnect s e a _ hmem
  cases hline

theorem count_closed_free (s : Session) (e : Nat) : (s.free e).2.count .closed = 0 := by
  refine List.count_eq_zero.mpr fun hmem => ?_
  obtain ⟨side, v, hline⟩ := log_free s e _ hmem
  cases hline

/-- Only what is open is closed. -/
theorem count_closed_close (s : Session) (key : Nat) :
    (s.close key).2.count .closed = (s.isOpen key).toNat := by
  rw [close, isOpen]
  cases s.duplexes.get? key with
  | none => rfl
  | some d =>
    dsimp only
    cases hclosed : d.closed with
    | true => simp [hclosed]
    | false =>
      simp only [Bool.false_eq_true, if_false, List.count_append, count_closed_disconnect,
        Option.any_some, hclosed]
      rfl

theorem count_closed_dropDuplex (s : Session) (key : Nat) :
    (s.dropDuplex key).2.count .closed = (s.isOpen key).toNat := by
  rw [← count_closed_close]
  cases hd : s.duplexes.get? key with
  | none => simp [dropDuplex, close, hd]
  | some d => simp [dropDuplex, hd, List.count_append, count_closed_free]

theorem count_closed_step {event : Event} (hcloses : event.closes key = true) :
    (s.step event).log.count .closed = (s.isOpen key).toNat := by
  have habsent : ∀ {j}, s.duplexes.contains j = false → j = key → s.isOpen key = false := by
    rintro j hj rfl
    have hnone : s.duplexes.get? j = none := by simpa [Table.contains] using hj
    simp [isOpen, hnone]
  cases event with
  | close j =>
    have hj : j = key := of_decide_eq_true hcloses
    simp only [step, onPresent]
    cases hpresent : s.duplexes.contains j with
    | true => exact hj ▸ count_closed_close s j
    | false => rw [habsent hpresent hj]; rfl
  | dropDuplex j =>
    have hj : j = key := of_decide_eq_true hcloses
    simp only [step, onPresent]
    cases hpresent : s.duplexes.contains j with
    | true => exact hj ▸ count_closed_dropDuplex s j
    | false => rw [habsent hpresent hj]; rfl
  | _ => cases hcloses

/-- **A duplex is closed once.** What has been logged and what is still to come is one line while
the duplex is open, and none afterwards. -/
theorem closings_run {events : List Event} (hspares : ∀ event ∈ events, event.spares key d = true) :
    closings key (s.run events).2 + ((s.run events).1.isOpen key).toNat = (s.isOpen key).toNat := by
  induction events generalizing s with
  | nil => simp [run, closings]
  | cons event rest ih =>
    simp only [List.forall_mem_cons] at hspares
    have hrest := ih (s := (s.step event).session) hspares.2
    rw [isOpen_step hspares.1] at hrest
    simp only [run]
    cases hcloses : event.closes key with
    | true =>
      have hone := count_closed_step (s := s) hcloses
      simp only [closings, hcloses, List.filter_cons, if_true, List.flatMap_cons,
        List.count_append, Bool.not_true, Bool.and_false, Bool.toNat_false] at hrest ⊢
      omega
    | false =>
      simpa [closings, hcloses, List.filter_cons] using hrest

theorem isOpen_step_of_closes {event : Event} (hspares : event.spares key d = true)
    (hcloses : event.closes key = true) : (s.step event).session.isOpen key = false := by
  rw [isOpen_step hspares, hcloses, Bool.not_true, Bool.and_false]

/-- A duplex that was closed stays closed. -/
theorem isOpen_run_of_closed {events : List Event}
    (hspares : ∀ event ∈ events, event.spares key d = true) (hclosed : s.isOpen key = false) :
    (s.run events).1.isOpen key = false := by
  have hclosings := closings_run (s := s) hspares
  rw [hclosed, Bool.toNat_false, Nat.add_eq_zero_iff, Bool.toNat_eq_zero] at hclosings
  exact hclosings.2

/-! ### What is true since a duplex was opened -/

/-- What is true from the moment on that a duplex was opened and was given these tokens. -/
structure Opened (s : Session) (key : Nat) (d : DuplexKeys) (tokens : Side → Token) : Prop where
  kept : s.Kept
  paired : s.bonds.Paired
  keys : ∀ c, s.duplexes.get? key = some c → c.toDuplexKeys = d
  /-- No other duplex has one of its endpoints. -/
  apart : ∀ j c, s.duplexes.get? j = some c → j ≠ key → ∀ side, d.owns (c.endpoint side) = false
  old : ∀ side, (tokens side).index < (s.roster side).issued
  /-- No other endpoint of a side stores the token. -/
  own : ∀ side e, s.bonds.stamp e = some (side, tokens side) → e = d.endpoint side
  /-- The token stands for the adapter that it was issued to, if for any. -/
  entry : ∀ side k, (s.roster side).get? (tokens side) = some k → k = (d.adapter side).key
  /-- The endpoint stores the token, if any. -/
  stored : ∀ side v, s.token? (d.endpoint side) = some v →
    s.side? (d.endpoint side) = some side ∧ v = tokens side
  silent : s.isOpen key = false → ∀ side, s.token? (d.endpoint side) = none

namespace Opened

variable {tokens : Side → Token}

/-- What an endpoint of the duplex stores leads to the adapter of its side. -/
theorem get?_of_token (h : s.Opened key d tokens) (side : Side) {v : Token}
    (hv : s.token? (d.endpoint side) = some v) :
    (s.roster side).get? v = some (d.adapter side).key := by
  obtain ⟨hside, rfl⟩ := h.stored side v hv
  obtain ⟨k, hk⟩ := Option.isSome_iff_exists.mp
    (h.paired.stored_iff.mpr ⟨_, stamp_of_token hside hv⟩)
  exact hk.trans (congrArg some (h.entry side k hk))

/-- A token that its endpoint does not store is not in force. -/
theorem get?_eq_none (h : s.Opened key d tokens) {side : Side}
    (hnone : s.token? (d.endpoint side) = none) : (s.roster side).get? (tokens side) = none := by
  refine Option.eq_none_iff_forall_ne_some.mpr fun k hk => ?_
  obtain ⟨e, he⟩ := h.paired.stored_iff.mp
    (show s.bonds.inForce side (tokens side) = true from Option.isSome_iff_exists.mpr ⟨k, hk⟩)
  rw [h.own side e he] at he
  cases hnone.symm.trans (stamp_bonds_eq_some_iff.mp he).2

end Opened

theorem token?_disconnect_eq_none {a : Adapter}
    (h : ∀ v, s.token? e = some v → (s.roster a.side).get? v = some a.key) :
    (s.disconnect e a).1.token? e = none := by
  rcases disconnect_cases s e a with ⟨hsame, hnot⟩ | ⟨v, -, -, hcut⟩
  · rw [hsame]
    exact Option.eq_none_iff_forall_ne_some.mpr fun v hv => hnot v hv (h v hv)
  · rw [hcut, token?_setData, if_pos rfl]
    simp

theorem roster_disconnect_of_ne {a : Adapter} {side : Side} (hside : side ≠ a.side) (s : Session)
    (e : Nat) : (s.disconnect e a).1.roster side = s.roster side := by
  rcases disconnect_cases s e a with ⟨hsame, -⟩ | ⟨v, -, -, hcut⟩
  · rw [hsame]
  · rw [hcut, setData, roster_modifyEndpoint, roster_withRoster, if_neg hside]

theorem isOpen_iff : s.isOpen key = true ↔
    ∃ c, s.duplexes.get? key = some c ∧ c.closed = false := by
  cases hc : s.duplexes.get? key <;> simp [isOpen, hc]

/-- Closing takes the tokens from both endpoints. -/
theorem token?_close {tokens : Side → Token} (h : s.Opened key d tokens)
    (hopen : s.isOpen key = true) (side : Side) :
    (s.close key).1.token? (d.endpoint side) = none := by
  obtain ⟨c, hc, hclosed⟩ := isOpen_iff.mp hopen
  obtain rfl := h.keys c hc
  let marked : Session := { s with duplexes := s.duplexes.put key { c with closed := true } }
  let first := (marked.disconnect c.readEnd (.inlet c.inlet)).1
  have hsession : (s.close key).1 = (first.disconnect c.writeEnd (.outlet c.outlet)).1 := by
    simp [close, hc, hclosed, first, marked]
  rw [hsession]
  cases side with
  | inbound =>
    refine (fades_disconnect first _ _ c.readEnd).token?_eq_none ?_
    exact token?_disconnect_eq_none fun v hv => h.get?_of_token .inbound hv
  | outbound =>
    refine token?_disconnect_eq_none fun v hv => ?_
    -- the other side has been cut off, which shows neither here nor in this roster
    have hstored : s.token? c.writeEnd = some v :=
      (fades_disconnect marked _ _ c.writeEnd v hv).1
    rw [roster_disconnect_of_ne (by simp [Adapter.side])]
    exact h.get?_of_token .outbound hstored

theorem token?_dropDuplex {tokens : Side → Token} (h : s.Opened key d tokens)
    (hopen : s.isOpen key = true) (side : Side) :
    (s.dropDuplex key).1.token? (d.endpoint side) = none := by
  obtain ⟨c, hc, -⟩ := isOpen_iff.mp hopen
  have hclose := token?_close h hopen side
  simp only [dropDuplex, hc]
  rcases hresult : s.close key with ⟨u, closing⟩
  rw [hresult] at hclose
  have herased : u.Fades { u with duplexes := u.duplexes.erase key } (d.endpoint side) :=
    fades_of_get? rfl
  exact ((herased.trans (fades_free _ _ _)).trans (fades_free _ _ _)).token?_eq_none hclose

/-- Whatever closes a duplex leaves its endpoints with nothing stored. -/
theorem token?_of_closes {tokens : Side → Token} (h : s.Opened key d tokens) {event : Event}
    (hcloses : event.closes key = true) (hopen : s.isOpen key = true) (side : Side) :
    (s.step event).session.token? (d.endpoint side) = none := by
  obtain ⟨c, hc, -⟩ := isOpen_iff.mp hopen
  have hpresent : s.duplexes.contains key = true := Table.contains_iff.mpr ⟨c, hc⟩
  cases event with
  | close j =>
    obtain rfl : j = key := of_decide_eq_true hcloses
    simpa only [step, onPresent, hpresent, if_true] using token?_close h hopen side
  | dropDuplex j =>
    obtain rfl : j = key := of_decide_eq_true hcloses
    simpa only [step, onPresent, hpresent, if_true] using token?_dropDuplex h hopen side
  | _ => cases hcloses

/-- What a duplex is after an event it was before, or it has just been opened. -/
theorem toDuplexKeys_step {event : Event} {j : Nat} {c : Duplex}
    (hc : (s.step event).session.duplexes.get? j = some c) :
    (∃ c', s.duplexes.get? j = some c' ∧ c.toDuplexKeys = c'.toDuplexKeys) ∨
      ∃ connection settings, event = .openDuplex j c.toDuplexKeys connection settings := by
  rw [get?_duplexes_step] at hc
  unfold becomes at hc
  split at hc
  · split at hc
    · obtain ⟨c', hc', rfl⟩ := Option.map_eq_some_iff.mp hc
      exact Or.inl ⟨c', hc', rfl⟩
    · exact Or.inl ⟨c, hc, rfl⟩
  · split at hc
    · cases hc
    · exact Or.inl ⟨c, hc, rfl⟩
  · split at hc
    · next hj =>
      subst hj
      cases hc
      exact Or.inr ⟨_, _, rfl⟩
    · exact Or.inl ⟨c, hc, rfl⟩
  · exact Or.inl ⟨c, hc, rfl⟩

/-- **Every event keeps the invariant** that is admitted and makes nothing under the names of the
duplex. -/
theorem opened_step {tokens : Side → Token} (h : s.Opened key d tokens) {event : Event}
    (hadmits : s.Admits event) (hspares : event.spares key d = true) :
    (s.step event).session.Opened key d tokens := by
  have hpassage : Bonds.Passage True s.bonds (s.step event).log (s.step event).session.bonds :=
    passage_step fun _ => ⟨h.kept, hadmits⟩
  have hset : ∀ j data, event ≠ .setData j data := by
    rintro j data rfl
    exact hadmits
  have hfades : ∀ side, s.Fades (s.step event).session (d.endpoint side) := fun side =>
    fades_step hset hspares (d.owns_endpoint side)
  refine
    { kept := kept_step h.kept hadmits
      paired := h.paired.passage hpassage
      keys := fun c hc => ?_
      apart := fun j c hc hj side => ?_
      old := fun side => Bonds.issued_of_passage hpassage (h.old side)
      own := fun side e he => h.own side e (Bonds.stamp_of_passage hpassage (h.old side) he)
      entry := fun side k hk => h.entry side k (Bonds.get?_of_passage hpassage (h.old side) hk)
      stored := fun side v hv => ?_
      silent := fun hclosed side => ?_ }
  · obtain ⟨c', hc', hkeys⟩ | ⟨connection, settings, rfl⟩ := toDuplexKeys_step hc
    · exact hkeys.trans (h.keys c' hc')
    · exact absurd rfl (of_decide_eq_true hspares).1
  · obtain ⟨c', hc', hkeys⟩ | ⟨connection, settings, rfl⟩ := toDuplexKeys_step hc
    · rw [hkeys]
      exact h.apart j c' hc' hj side
    · cases side
      · exact (of_decide_eq_true hspares).2.1
      · exact (of_decide_eq_true hspares).2.2
  · obtain ⟨hs, hside⟩ := hfades side v hv
    rw [hside]
    exact h.stored side v hs
  · cases hopen : s.isOpen key with
    | false => exact (hfades side).token?_eq_none (h.silent hopen side)
    | true =>
      rw [isOpen_step hspares, hopen, Bool.true_and, Bool.not_eq_false'] at hclosed
      exact token?_of_closes h hclosed hopen side

theorem opened_run {tokens : Side → Token} {events : List Event} (h : s.Opened key d tokens)
    (horderly : s.Orderly events) (hspares : ∀ event ∈ events, event.spares key d = true) :
    (s.run events).1.Opened key d tokens := by
  induction events generalizing s with
  | nil => exact h
  | cons event rest ih =>
    simp only [List.forall_mem_cons] at hspares
    exact ih (opened_step h horderly.1 hspares.1) horderly.2 hspares.2

/-- What opening a duplex leaves behind. -/
theorem step_openDuplex_of_tokens {connection : Nat} {settings : Settings} {r w : Token}
    (hopened : (s.step (.openDuplex key d connection settings)).value = .tokens r w) :
    let t := (s.step (.openDuplex key d connection settings)).session
    d.readEnd ≠ d.writeEnd ∧ r = (s.roster .inbound).next ∧ w = (s.roster .outbound).next ∧
      t.bonds = (s.bonds.tie d.readEnd (.inlet d.inlet)).tie d.writeEnd (.outlet d.outlet) ∧
      t.duplexes = s.duplexes.put key { d with } ∧
      t.endpoints = (s.endpoints.put d.readEnd { form := .adapter .inbound, data := some r }).put
        d.writeEnd { form := .adapter .outbound, data := some w } := by
  intro t
  have hstep : s.Rebinds (.openDuplex key d connection settings)
      (s.step (.openDuplex key d connection settings)) := rebinds_step rfl s
  have ht : t = (s.step (.openDuplex key d connection settings)).session := rfl
  generalize s.step (.openDuplex key d connection settings) = effect at hstep hopened ht
  cases hstep with
  | unknown => cases hopened
  | noCallback => cases hopened
  | openDuplexRefused => cases hopened
  | openDuplex hread hwrite hne hvalue =>
    cases hopened
    rcases openDuplex_cases s key d connection settings with
      ⟨u, hopen, hbonds, hduplexes, hends⟩ | ⟨u, hopen, -⟩ | ⟨u, hopen, -⟩
    · rw [hopen] at hvalue ht
      cases hvalue
      rw [ht]
      exact ⟨hne, rfl, rfl, hbonds, hduplexes, hends⟩
    · simp [hopen] at hvalue
    · simp [hopen] at hvalue

/-- **Opening a duplex establishes the invariant**, with the tokens that it is given. -/
theorem opened_of_tokens {connection : Nat} {settings : Settings} {r w : Token} (hkept : s.Kept)
    (hpaired : s.bonds.Paired)
    (hopened : (s.step (.openDuplex key d connection settings)).value = .tokens r w) :
    (s.step (.openDuplex key d connection settings)).session.Opened key d (Side.pick r w) ∧
      (s.step (.openDuplex key d connection settings)).session.isOpen key = true := by
  have hadmits : s.Admits (.openDuplex key d connection settings) := trivial
  have hkept' := kept_step hkept hadmits
  have hpaired' := hpaired.passage (passage_step fun _ => ⟨hkept, hadmits⟩)
  obtain ⟨hne, hr, hw, hbonds, hduplexes, hends⟩ := step_openDuplex_of_tokens hopened
  generalize (s.step (.openDuplex key d connection settings)).session = t at *
  have hself : t.duplexes.get? key = some { d with } := by rw [hduplexes]; simp
  have hside : ∀ side, t.side? (d.endpoint side) = some side := hkept'.ends hself
  have htoken : ∀ side, t.token? (d.endpoint side) = some (Side.pick r w side) := by
    intro side
    rw [token?, hends]
    cases side <;> simp [DuplexKeys.endpoint, Side.pick, hne]
  have hstamp : ∀ side, t.bonds.stamp (d.endpoint side) = some (side, Side.pick r w side) :=
    fun side => stamp_of_token (hside side) (htoken side)
  have hopen : t.isOpen key = true := by simp [isOpen, hself]
  refine ⟨?_, hopen⟩
  exact
    { kept := hkept'
      paired := hpaired'
      keys := by
        intro c hc
        cases hself.symm.trans hc
        rfl
      apart := by
        intro j c hc hj side
        refine Bool.eq_false_iff.mpr fun howns => ?_
        obtain ⟨way, heq⟩ := DuplexKeys.owns_iff.mp howns
        exact hj (hkept'.eq_of_endpoint_eq hc hself heq)
      old := fun side => hpaired'.issued (hpaired'.stored_iff.mpr ⟨_, hstamp side⟩)
      own := fun side e he => hpaired'.alone (hstamp side) he
      entry := by
        intro side k hk
        change (t.bonds.roster side).get? _ = _ at hk
        rw [hbonds, Bonds.get?_tie, Bonds.get?_tie] at hk
        cases side with
        | inbound =>
          rw [if_neg (by simp [Adapter.side]), if_pos ⟨rfl, hr⟩] at hk
          exact (Option.some.inj hk).symm
        | outbound =>
          have hnext : ((s.bonds.tie d.readEnd (.inlet d.inlet)).roster .outbound).next = w := by
            rw [hw]
            simp [Bonds.tie, Adapter.side, bonds]
          rw [if_pos ⟨rfl, hnext.symm⟩] at hk
          exact (Option.some.inj hk).symm
      stored := by
        intro side v hv
        exact ⟨hside side, Option.some.inj (hv.symm.trans (htoken side))⟩
      silent := by
        intro hclosed
        cases hopen.symm.trans hclosed }

end Session

end Conduit

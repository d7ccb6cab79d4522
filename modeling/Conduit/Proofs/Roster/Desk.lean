import Conduit.Proofs.Roster.History
import Conduit.Roster.Script
/-!
# Rosters under names

A script works on several rosters at once, and passes tokens of one to another. The history of the
roster under a name is written from the operations and their answers alone, with the tokens and
objects that the names stood for at the time. Everything that the script is answered about that
roster later on can be read off it.

An object is told from others by its identity, not by its text. That a name stands for an object is
no concern of any roster: a reference that a lookup gave out outlives the entry, and the roster.

## Main definitions

* `Conduit.Roster.Desk.Does`: what each operation can do.
* `Conduit.Roster.Desk.history`: the history of the roster under a name.
* `Conduit.Roster.Desk.Distinct`: objects are told apart by their identities.
* `Conduit.Roster.Desk.Answers`: every answer is as a history has it.

## Main results

* `recorded_step`, `distinct_step`, `get?_objects_step`: what each operation preserves.
* `answers_by_history`: every answer is as the history of the roster has it, after any script.
-/

namespace Conduit.Roster

/-- Whether an operation only looks something up. -/
def Op.looks : Op → Bool
  | .read _ | .get _ _ _ | .size _ | .isEmpty _ | .describe _ | .token _ | .sameToken _ _ => true
  | _ => false

/-- Whether an operation takes the name of an object away from it. -/
def Op.rebinds (kept : String) : Op → Bool
  | .object name _ | .release name => name = kept
  | .get _ _ keep => keep = some kept
  | _ => false

namespace Desk

/-- The desk after a list of operations. -/
def after (d : Desk) (ops : List Op) : Desk := ops.foldl (fun d op => (d.step op).1) d

/-- What an operation can do. One that fails or only looks something up changes nothing. -/
inductive Does (d : Desk) : Op → Desk × Answer → Prop
  | create (name : String) :
      Does d (.create name) ({ d with rosters := d.rosters.put name ∅ }, .done)
  | drop (name : String) :
      Does d (.drop name) ({ d with rosters := d.rosters.erase name }, .done)
  | object (name text : String) :
      Does d (.object name text)
        ({ d with objects := d.objects.put name ⟨d.made, text⟩, made := d.made + 1 }, .done)
  | release (name : String) :
      Does d (.release name)
        ({ d with objects := d.objects.erase name }, .flag (d.objects.contains name))
  | add {name object : String} {r : Roster Shared} {o : Shared} (token : String)
      (hr : d.rosters.get? name = some r) (ho : d.objects.get? object = some o) :
      Does d (.add name object token)
        ({ d with rosters := d.rosters.put name (r.add o).2, tokens := d.tokens.put token r.next },
          .number r.next.number)
  | keep {name token : String} {r : Roster Shared} {t : Token} {o : Shared} (kept : String)
      (hr : d.rosters.get? name = some r) (ht : d.tokens.get? token = some t)
      (ho : r.get? t = some o) :
      Does d (.get name token (some kept))
        ({ d with objects := d.objects.put kept o }, .text o.text)
  | remove {name token : String} {r : Roster Shared} {t : Token}
      (hr : d.rosters.get? name = some r) (ht : d.tokens.get? token = some t) :
      Does d (.remove name token) ({ d with rosters := d.rosters.put name (r.remove t) }, .done)
  | removeIf {name token object : String} {r : Roster Shared} {t : Token} {o : Shared}
      (hr : d.rosters.get? name = some r) (ht : d.tokens.get? token = some t)
      (ho : d.objects.get? object = some o) :
      Does d (.removeIf name token object)
        ({ d with rosters := d.rosters.put name (r.removeIf t o).2 }, .flag (r.removeIf t o).1)
  | look {op : Op} (answer : Answer) (hop : op.looks = true) : Does d op (d, answer)
  | fail (op : Op) (reason : Misstep) : Does d op (d, .misstep reason)

section Attempts

variable {d : Desk} {op : Op} {name : String}

/-- Whatever comes of an attempt is something that the operation can do, and an error changes
nothing. -/
def Allows (d : Desk) (op : Op) : Except Misstep (Desk × Answer) → Prop
  | .ok result => Does d op result
  | .error _ => True

theorem does_of_allows (h : Allows d op (d.attempt op)) : Does d op (d.step op) := by
  unfold step
  cases hattempt : d.attempt op with
  | ok result => rwa [hattempt] at h
  | error reason => exact .fail op reason

theorem allows_roster {f : Roster Shared → Except Misstep (Desk × Answer)}
    (h : ∀ r, d.rosters.get? name = some r → Allows d op (f r)) :
    Allows d op (d.roster name >>= f) := by
  unfold roster
  cases hr : d.rosters.get? name with
  | none => trivial
  | some r => exact h r hr

theorem allows_token {f : Token → Except Misstep (Desk × Answer)}
    (h : ∀ t, d.tokens.get? name = some t → Allows d op (f t)) :
    Allows d op (d.token name >>= f) := by
  unfold token
  cases ht : d.tokens.get? name with
  | none => trivial
  | some t => exact h t ht

theorem allows_object {f : Shared → Except Misstep (Desk × Answer)}
    (h : ∀ o, d.objects.get? name = some o → Allows d op (f o)) :
    Allows d op (d.object name >>= f) := by
  unfold object
  cases ho : d.objects.get? name with
  | none => trivial
  | some o => exact h o ho

end Attempts

theorem does_step (d : Desk) (op : Op) : Does d op (d.step op) := by
  refine does_of_allows ?_
  cases op with
  | create name => exact Does.create name
  | drop name => exact allows_roster fun _ _ => Does.drop name
  | object name text => exact Does.object name text
  | release name => exact Does.release name
  | read name => exact allows_object fun _ _ => Does.look _ rfl
  | add name object token =>
    exact allows_roster fun r hr => allows_object fun o ho => Does.add token hr ho
  | get name token keep =>
    refine allows_roster fun r hr => allows_token fun t ht => ?_
    cases ho : r.get? t with
    | none => exact Does.look _ rfl
    | some o =>
      cases keep with
      | none => exact Does.look _ rfl
      | some kept => exact Does.keep kept hr ht ho
  | remove name token =>
    exact allows_roster fun r hr => allows_token fun t ht => Does.remove hr ht
  | removeIf name token object =>
    exact allows_roster fun r hr => allows_token fun t ht => allows_object fun o ho =>
      Does.removeIf hr ht ho
  | size name | isEmpty name | describe name =>
    exact allows_roster fun _ _ => Does.look _ rfl
  | token name => exact allows_token fun _ _ => Does.look _ rfl
  | sameToken first second =>
    exact allows_token fun _ _ => allows_token fun _ _ => Does.look _ rfl
  | unknown name => trivial

/-! ### Operations on names that stand for something -/

section Known

variable {d : Desk} {name token object : String} {r : Roster Shared} {t : Token} {o : Shared}

theorem step_add (hr : d.rosters.get? name = some r) (ho : d.objects.get? object = some o)
    (token : String) : d.step (.add name object token) =
      ({ d with rosters := d.rosters.put name (r.add o).2, tokens := d.tokens.put token r.next },
        .number r.next.number) := by
  simp [step, attempt, roster, Desk.object, hr, ho, Roster.add, bind, Except.bind, pure,
    Except.pure]

theorem step_get_of_some (hr : d.rosters.get? name = some r) (ht : d.tokens.get? token = some t)
    (ho : r.get? t = some o) (keep : Option String) : d.step (.get name token keep) =
      (match keep with
        | none => d
        | some kept => { d with objects := d.objects.put kept o }, .text o.text) := by
  cases keep <;>
    simp [step, attempt, roster, Desk.token, hr, ht, ho, bind, Except.bind, pure, Except.pure]

theorem step_get_of_none (hr : d.rosters.get? name = some r) (ht : d.tokens.get? token = some t)
    (hnone : r.get? t = none) (keep : Option String) :
    d.step (.get name token keep) = (d, .done) := by
  simp [step, attempt, roster, Desk.token, hr, ht, hnone, bind, Except.bind, pure, Except.pure]

theorem step_remove (hr : d.rosters.get? name = some r) (ht : d.tokens.get? token = some t) :
    d.step (.remove name token) =
      ({ d with rosters := d.rosters.put name (r.remove t) }, .done) := by
  simp [step, attempt, roster, Desk.token, hr, ht, bind, Except.bind, pure, Except.pure]

theorem step_removeIf (hr : d.rosters.get? name = some r) (ht : d.tokens.get? token = some t)
    (ho : d.objects.get? object = some o) : d.step (.removeIf name token object) =
      ({ d with rosters := d.rosters.put name (r.removeIf t o).2 }, .flag (r.removeIf t o).1) := by
  simp [step, attempt, roster, Desk.token, Desk.object, hr, ht, ho, bind, Except.bind, pure,
    Except.pure]

theorem step_size (hr : d.rosters.get? name = some r) :
    d.step (.size name) = (d, .number r.size) := by
  simp [step, attempt, roster, hr, bind, Except.bind, pure, Except.pure]

end Known

/-! ### The history of the roster under a name -/

/-- Writes a deed down, if there is a history that it belongs to. -/
def record (h : Option (List (Deed Shared))) (deed : Option (Deed Shared)) :
    Option (List (Deed Shared)) :=
  h.map (· ++ deed.toList)

/-- Writes down what an operation that was answered did to the roster under a name. A history begins
where the roster is made and ends where it is dropped. -/
def enter (d : Desk) (name : String) (h : Option (List (Deed Shared))) (op : Op) (answer : Answer) :
    Option (List (Deed Shared)) :=
  match op, answer with
  | .create other, .done => if other = name then some [] else h
  | .drop other, .done => if other = name then none else h
  | .add other object _, .number n =>
      if other = name then record h ((d.objects.get? object).map (.entered n)) else h
  | .remove other token, .done =>
      if other = name then record h ((d.tokens.get? token).map .struck) else h
  | .removeIf other token _, .flag true =>
      if other = name then record h ((d.tokens.get? token).map .struck) else h
  | _, _ => h

/-- The history of the roster under a name after a list of operations. -/
def history (d : Desk) (name : String) (h : Option (List (Deed Shared))) :
    List Op → Option (List (Deed Shared))
  | [] => h
  | op :: rest => history (d.step op).1 name (d.enter name h op (d.step op).2) rest

theorem enter_of_looks {op : Op} (hop : op.looks = true) (d : Desk) (name : String)
    (h : Option (List (Deed Shared))) (answer : Answer) : d.enter name h op answer = h := by
  cases op <;> simp [enter, Op.looks] at hop ⊢

theorem enter_misstep (d : Desk) (name : String) (h : Option (List (Deed Shared))) (op : Op)
    (reason : Misstep) : d.enter name h op (.misstep reason) = h := by
  cases op <;> rfl

/-- The history is kept faithfully by every operation. -/
theorem recorded_step {d : Desk} {name : String} {h : Option (List (Deed Shared))}
    (hr : Option.Rel Recorded (d.rosters.get? name) h) (op : Op) :
    Option.Rel Recorded ((d.step op).1.rosters.get? name) (d.enter name h op (d.step op).2) := by
  have hdoes := does_step d op
  generalize d.step op = result at hdoes ⊢
  cases hdoes with
  | object | release => exact hr
  | keep => exact hr
  | look answer hop => rwa [enter_of_looks hop]
  | fail _ reason => rwa [enter_misstep]
  | create other =>
    by_cases hname : other = name
    · subst hname
      simpa [enter] using Option.Rel.some Recorded.empty
    · simpa [enter, hname, Ne.symm hname] using hr
  | drop other =>
    by_cases hname : other = name
    · subst hname
      simp [enter]
    · simpa [enter, hname, Ne.symm hname] using hr
  | @add other object r o token hget ho =>
    by_cases hname : other = name
    · subst hname
      rw [hget] at hr
      cases hr with
      | some hrecorded => simpa [enter, record, ho] using Option.Rel.some (hrecorded.add o)
    · simpa [enter, hname, Ne.symm hname] using hr
  | @remove other token r t hget ht =>
    by_cases hname : other = name
    · subst hname
      rw [hget] at hr
      cases hr with
      | some hrecorded => simpa [enter, record, ht] using Option.Rel.some (hrecorded.remove t)
    · simpa [enter, hname, Ne.symm hname] using hr
  | @removeIf other token object r t o hget ht ho =>
    by_cases hname : other = name
    · subst hname
      rw [hget] at hr
      cases hr with
      | some hrecorded =>
        have hrecorded := hrecorded.removeIf t o
        cases hremoved : (r.removeIf t o).1 with
        | true => simpa [enter, record, ht, hremoved] using Option.Rel.some hrecorded
        | false => simpa [enter, hremoved] using Option.Rel.some hrecorded
    · cases (r.removeIf t o).1 <;> simpa [enter, hname, Ne.symm hname] using hr

theorem recorded_after {d : Desk} {name : String} {h : Option (List (Deed Shared))}
    (hr : Option.Rel Recorded (d.rosters.get? name) h) (ops : List Op) :
    Option.Rel Recorded ((d.after ops).rosters.get? name) (d.history name h ops) := by
  induction ops generalizing d h with
  | nil => exact hr
  | cons op rest ih => exact ih (recorded_step hr op)

/-! ### Objects and the names that stand for them -/

/-- An object has a name or stands in some roster. -/
def Holds (d : Desk) (o : Shared) : Prop :=
  (∃ name, d.objects.get? name = some o) ∨
    ∃ name r t, d.rosters.get? name = some r ∧ r.get? t = some o

/-- Objects are told apart by their identities, and the next one gets a new one. -/
structure Distinct (d : Desk) : Prop where
  lt_made : ∀ o, d.Holds o → o.identity < d.made
  eq_of_identity : ∀ o o', d.Holds o → d.Holds o' → o.identity = o'.identity → o = o'

section Holds

variable {d : Desk} {o : Shared}

theorem holds_of_putObject {name : String} {o' : Shared} {n : Nat}
    (h : Holds { d with objects := d.objects.put name o', made := n } o) : d.Holds o ∨ o = o' := by
  rcases h with ⟨other, hother⟩ | hroster
  · by_cases hname : other = name
    · exact Or.inr (by simpa [hname, eq_comm] using hother)
    · exact Or.inl (Or.inl ⟨other, by simpa [hname] using hother⟩)
  · exact Or.inl (Or.inr hroster)

theorem holds_of_putRoster {name : String} {r' : Roster Shared} {tokens : Table String Token}
    (h : Holds { d with rosters := d.rosters.put name r', tokens } o) :
    d.Holds o ∨ ∃ t, r'.get? t = some o := by
  rcases h with hobject | ⟨other, r, t, hother, ht⟩
  · exact Or.inl (Or.inl hobject)
  · by_cases hname : other = name
    · have hr : r' = r := by simpa [hname] using hother
      exact Or.inr ⟨t, hr ▸ ht⟩
    · exact Or.inl (Or.inr ⟨other, r, t, by simpa [hname] using hother, ht⟩)

/-- A desk on which there is nothing but tokens has no object to confuse. -/
theorem distinct_of_tokens (tokens : Table String Token) : Distinct { tokens } := by
  have hnone : ∀ o, ¬ Holds { tokens } o := by
    rintro o (⟨name, hname⟩ | ⟨name, r, t, hname, -⟩) <;> cases hname
  exact ⟨fun o h => absurd h (hnone o), fun o o' h => absurd h (hnone o)⟩

/-- An object comes from where it was before, unless it has just been made. -/
theorem holds_step {op : Op} (h : (d.step op).1.Holds o) :
    d.Holds o ∨ ∃ name text, op = .object name text ∧ o = ⟨d.made, text⟩ := by
  have hdoes := does_step d op
  generalize d.step op = result at hdoes h
  cases hdoes with
  | look | fail => exact Or.inl h
  | object name text =>
    exact (holds_of_putObject h).imp_right fun ho => ⟨name, text, rfl, ho⟩
  | release name =>
    rcases h with ⟨other, hother⟩ | hroster
    · exact Or.inl (Or.inl ⟨other, by simp at hother; exact hother.2⟩)
    · exact Or.inl (Or.inr hroster)
  | drop name =>
    rcases h with hobject | ⟨other, r, t, hother, ht⟩
    · exact Or.inl (Or.inl hobject)
    · exact Or.inl (Or.inr ⟨other, r, t, by simp at hother; exact hother.2, ht⟩)
  | keep kept hr ht ho =>
    rcases holds_of_putObject h with h | rfl
    · exact Or.inl h
    · exact Or.inl (Or.inr ⟨_, _, _, hr, ho⟩)
  | create name =>
    rcases holds_of_putRoster h with h | ⟨t, ht⟩
    · exact Or.inl h
    · simp at ht
  | @add name object r o' token hr ho' =>
    rcases holds_of_putRoster h with h | ⟨t, ht⟩
    · exact Or.inl h
    · rw [get?_add] at ht
      split at ht
      · cases ht
        exact Or.inl (Or.inl ⟨_, ho'⟩)
      · exact Or.inl (Or.inr ⟨_, _, _, hr, ht⟩)
  | remove hr =>
    rcases holds_of_putRoster h with h | ⟨t, ht⟩
    · exact Or.inl h
    · rw [get?_remove] at ht
      exact Or.inl (Or.inr ⟨_, _, _, hr, (Option.ite_none_left_eq_some.mp ht).2⟩)
  | removeIf hr =>
    rcases holds_of_putRoster h with h | ⟨t, ht⟩
    · exact Or.inl h
    · rw [get?_removeIf] at ht
      exact Or.inl (Or.inr ⟨_, _, _, hr, (Option.ite_none_left_eq_some.mp ht).2⟩)

theorem made_le_step (d : Desk) (op : Op) : d.made ≤ (d.step op).1.made := by
  have hdoes := does_step d op
  generalize d.step op = result at hdoes ⊢
  cases hdoes with
  | object => exact Nat.le_succ _
  | _ => exact Nat.le_refl _

/-- A new object differs from all that were there. -/
theorem distinct_step (hd : d.Distinct) (op : Op) : (d.step op).1.Distinct where
  lt_made o h := by
    rcases holds_step h with h | ⟨name, text, rfl, rfl⟩
    · exact Nat.lt_of_lt_of_le (hd.lt_made o h) (made_le_step d op)
    · exact Nat.lt_succ_self _
  eq_of_identity o o' h h' hidentity := by
    rcases holds_step h with hold | ⟨name, text, rfl, rfl⟩
    · rcases holds_step h' with hold' | ⟨name, text, rfl, rfl⟩
      · exact hd.eq_of_identity o o' hold hold' hidentity
      · exact absurd hidentity (Nat.ne_of_lt (hd.lt_made o hold))
    · rcases holds_step h' with hold' | ⟨name, text, hop, rfl⟩
      · exact absurd hidentity (Nat.ne_of_gt (hd.lt_made o' hold'))
      · cases hop
        rfl

theorem distinct_after (hd : d.Distinct) (ops : List Op) : (d.after ops).Distinct := by
  induction ops generalizing d with
  | nil => exact hd
  | cons op rest ih => exact ih (distinct_step hd op)

end Holds

/-- An operation leaves the objects alone whose names it does not take away. -/
theorem get?_objects_step (d : Desk) {op : Op} {kept : String} (hop : op.rebinds kept = false) :
    (d.step op).1.objects.get? kept = d.objects.get? kept := by
  have hdoes := does_step d op
  generalize d.step op = result at hdoes ⊢
  cases hdoes with
  | object name text | release name =>
    have hname : kept ≠ name := by simpa [Op.rebinds, eq_comm] using hop
    simp [hname]
  | keep other =>
    have hname : kept ≠ other := by simpa [Op.rebinds, eq_comm] using hop
    simp [hname]
  | _ => rfl

theorem get?_objects_after (d : Desk) {kept : String} {ops : List Op}
    (hops : ∀ op ∈ ops, op.rebinds kept = false) :
    (d.after ops).objects.get? kept = d.objects.get? kept := by
  induction ops generalizing d with
  | nil => rfl
  | cons op rest ih =>
    rw [List.forall_mem_cons] at hops
    exact (ih _ hops.2).trans (d.get?_objects_step hops.1)

/-! ### Every answer -/

/-- What a desk answers about the roster under a name is as a history of that roster has it. -/
structure Answers (d : Desk) (name : String) (h : List (Deed Shared)) : Prop where
  /-- Entries are numbered one by one, so no number is answered twice. -/
  numbers_eq : numbers h = List.range' 1 (numbers h).length
  add : ∀ object o token, d.objects.get? object = some o →
    (d.step (.add name object token)).2 = .number ((numbers h).length + 1) ∧
      (d.step (.add name object token)).1.tokens.get? token = some ⟨(numbers h).length⟩
  get_of_leads : ∀ token t o keep, d.tokens.get? token = some t → Leads h t o →
    (d.step (.get name token keep)).2 = .text o.text
  get_of_not_leads : ∀ token t keep, d.tokens.get? token = some t → (∀ o, ¬ Leads h t o) →
    d.step (.get name token keep) = (d, .done)
  /-- A reference that was kept stands for the object whatever becomes of the entry. -/
  keep : ∀ token t o kept, d.tokens.get? token = some t → Leads h t o →
    ∀ later, (∀ op ∈ later, op.rebinds kept = false) →
      ((d.step (.get name token (some kept))).1.after later).objects.get? kept = some o
  /-- Any token can be struck off. -/
  remove : ∀ token t, d.tokens.get? token = some t → (d.step (.remove name token)).2 = .done
  /-- Whether a token is struck off is decided by the identity of the object. If it is not, nothing
  changes. -/
  removeIf : ∀ token t object o, d.tokens.get? token = some t → d.objects.get? object = some o →
    ∃ removed, (d.step (.removeIf name token object)).2 = .flag removed ∧
      (removed = true ↔ Leads h t o) ∧
      (removed = true ↔ ∃ o', Leads h t o' ∧ o'.identity = o.identity) ∧
      (removed = false → ∃ rosters,
        (d.step (.removeIf name token object)).1 = { d with rosters } ∧
        ∀ other, rosters.get? other = d.rosters.get? other)
  /-- The size is the number of tokens that lead anywhere. -/
  size : ∃ tokens : List Token, tokens.Nodup ∧ (∀ t, t ∈ tokens ↔ ∃ o, Leads h t o) ∧
    d.step (.size name) = (d, .number tokens.length)

theorem answers_of_recorded {d : Desk} {name : String} {h : List (Deed Shared)} {r : Roster Shared}
    (hget : d.rosters.get? name = some r) (hr : r.Recorded h) (hd : d.Distinct) :
    d.Answers name h where
  numbers_eq := by rw [hr.numbers_eq, List.length_range']
  add object o token ho := by
    rw [step_add hget ho, hr.numbers_eq, List.length_range', number_next]
    exact ⟨rfl, by simp [next]⟩
  get_of_leads token t o keep ht hleads := by
    rw [step_get_of_some hget ht (hr.get?_iff.mpr hleads)]
  get_of_not_leads token t keep ht hnone := by
    refine step_get_of_none hget ht ?_ keep
    exact Option.eq_none_iff_forall_ne_some.mpr fun o ho => hnone o (hr.get?_iff.mp ho)
  keep token t o kept ht hleads later hlater := by
    rw [get?_objects_after _ hlater, step_get_of_some hget ht (hr.get?_iff.mpr hleads)]
    simp
  remove token t ht := by rw [step_remove hget ht]
  removeIf token t object o ht ho := by
    refine ⟨(r.removeIf t o).1, by rw [step_removeIf hget ht ho], ?_, ?_, ?_⟩
    · rw [removeIf_fst, hr.get?_iff]
    · rw [removeIf_fst, hr.get?_iff]
      constructor
      · exact fun hleads => ⟨o, hleads, rfl⟩
      · rintro ⟨o', hleads, hidentity⟩
        have heq := hd.eq_of_identity o' o (Or.inr ⟨name, r, t, hget, hr.get?_iff.mpr hleads⟩)
          (Or.inl ⟨object, ho⟩) hidentity
        exact heq ▸ hleads
    · intro hremoved
      refine ⟨_, by rw [step_removeIf hget ht ho], fun other => ?_⟩
      by_cases hother : other = name
      · simp [hother, removeIf_snd_of_false hremoved, hget]
      · simp [hother]
  size := by
    obtain ⟨tokens, hnodup, hmem, hsize⟩ := hr.size
    exact ⟨tokens, hnodup, hmem, by rw [step_size hget, hsize]⟩

theorem run_concat (d : Desk) (ops : List Op) (op : Op) :
    d.run (ops ++ [op]) = d.run ops ++ [((d.after ops).step op).2] := by
  induction ops generalizing d with
  | nil => rfl
  | cons first rest ih => exact congrArg _ (ih _)

/-- **Every answer is as the history of the roster has it**, after any script on any number of
rosters, whatever tokens it may have had to begin with. -/
theorem answers_by_history {tokens : Table String Token} {name : String} {ops : List Op}
    {h : List (Deed Shared)} (hh : history { tokens } name none ops = some h) :
    (after { tokens } ops).Answers name h ∧
      ∀ op, run { tokens } (ops ++ [op]) =
        run { tokens } ops ++ [((after { tokens } ops).step op).2] := by
  refine ⟨?_, run_concat _ ops⟩
  have hrecorded := @recorded_after { tokens } name none .none ops
  rw [hh] at hrecorded
  cases hget : (after { tokens } ops).rosters.get? name with
  | none => rw [hget] at hrecorded; cases hrecorded
  | some r =>
    rw [hget] at hrecorded
    cases hrecorded with
    | some hr => exact answers_of_recorded hget hr (distinct_after (distinct_of_tokens tokens) ops)

/-- Two objects with one text, entered in two rosters. The second token of the first roster is
struck off before it is issued, by way of the other roster's; and the first one is struck off only
when it is named together with its own object. -/
def twoRosters : List Op :=
  [.create "a", .create "b", .object "x" "mine", .object "y" "mine", .add "a" "x" "first",
    .add "b" "y" "other", .add "b" "x" "another", .remove "a" "another", .add "a" "y" "second",
    .removeIf "a" "first" "y", .removeIf "a" "other" "x"]

theorem answers_by_history_twoRosters :
    let d := after {} twoRosters
    history {} "a" none twoRosters =
        some [.entered 1 ⟨0, "mine"⟩, .struck ⟨1⟩, .entered 2 ⟨1, "mine"⟩, .struck ⟨0⟩] ∧
      (d.step (.get "a" "another" none)).2 = .text "mine" ∧
      d.step (.get "a" "first" none) = (d, .done) ∧
      (d.step (.add "a" "y" "third")).2 = .number 3 := by
  have hh : history {} "a" none twoRosters =
      some [.entered 1 ⟨0, "mine"⟩, .struck ⟨1⟩, .entered 2 ⟨1, "mine"⟩, .struck ⟨0⟩] := by
    decide
  have hanswers := (answers_by_history hh).1
  refine ⟨hh, ?_, ?_, ?_⟩
  · refine hanswers.get_of_leads "another" ⟨1⟩ ⟨1, "mine"⟩ none (by decide) ?_
    exact ⟨[.entered 1 ⟨0, "mine"⟩, .struck ⟨1⟩], [.struck ⟨0⟩], rfl, by decide⟩
  · refine hanswers.get_of_not_leads "first" ⟨0⟩ none (by decide) fun o hleads => ?_
    have hlast := @leads_concat _ [.entered 1 ⟨0, "mine"⟩, .struck ⟨1⟩, .entered 2 ⟨1, "mine"⟩]
      (.struck ⟨0⟩) ⟨0⟩ o
    simp at hlast
    exact hlast hleads
  · exact (hanswers.add "y" ⟨1, "mine"⟩ "third" (by decide)).1

end Desk

end Conduit.Roster

/-!
# Tables

A finite map from keys to values. At most one value stands under a key: putting a value replaces
the one that was there.

## Main definitions

* `Conduit.Table`, with `get?`, `put`, `erase`, `modify` and `size`.

## Main results

* `get?_put`, `get?_erase` and `get?_modify` say what each operation does to every key.
* `mem_keys_iff`, `nodup_keys_put` and `nodup_keys_erase`: the keys in use, each listed once.
-/

namespace Conduit

/-- A finite map, held as a list of entries. -/
structure Table (κ α : Type) where
  entries : List (κ × α) := []
  deriving DecidableEq, Repr

namespace Table

variable {κ α : Type} [DecidableEq κ]

instance : EmptyCollection (Table κ α) := ⟨⟨[]⟩⟩

instance : Inhabited (Table κ α) := ⟨∅⟩

/-- The value under a key. -/
def get? (t : Table κ α) (k : κ) : Option α :=
  (t.entries.find? fun e => e.1 = k).map Prod.snd

/-- Takes away what stands under a key. -/
def erase (t : Table κ α) (k : κ) : Table κ α :=
  ⟨t.entries.filter fun e => e.1 ≠ k⟩

/-- Puts a value under a key in place of any other. -/
def put (t : Table κ α) (k : κ) (a : α) : Table κ α :=
  ⟨(k, a) :: (t.erase k).entries⟩

/-- Changes the value under a key, if there is one. -/
def modify (t : Table κ α) (k : κ) (f : α → α) : Table κ α :=
  match t.get? k with
  | some a => t.put k (f a)
  | none => t

/-- Whether a key has a value. -/
def contains (t : Table κ α) (k : κ) : Bool := (t.get? k).isSome

omit [DecidableEq κ] in
/-- The number of entries. -/
def size (t : Table κ α) : Nat := t.entries.length

omit [DecidableEq κ] in
/-- The keys of all entries. -/
def keys (t : Table κ α) : List κ := t.entries.map Prod.fst

@[simp] theorem get?_empty (k : κ) : (∅ : Table κ α).get? k = none := rfl

@[simp] theorem get?_erase (t : Table κ α) (k j : κ) :
    (t.erase k).get? j = if j = k then none else t.get? j := by
  obtain ⟨es⟩ := t
  simp only [get?, erase]
  induction es with
  | nil => simp
  | cons e es ih =>
    by_cases hk : e.1 = k
    · by_cases hj : j = k
      · simp_all
      · have : ¬ k = j := fun h => hj h.symm
        simpa [hk, hj, this] using ih
    · by_cases hj : e.1 = j
      · have : ¬ j = k := fun h => hk (hj.trans h)
        simp [hj, this]
      · simpa [hk, hj] using ih

@[simp] theorem get?_put (t : Table κ α) (k j : κ) (a : α) :
    (t.put k a).get? j = if j = k then some a else t.get? j := by
  by_cases h : j = k
  · simp [put, get?, h]
  · have h' : ¬ k = j := fun e => h e.symm
    have := get?_erase t k j
    simp only [get?, h, if_false] at this
    simp [put, get?, h, h', this]

@[simp] theorem get?_modify (t : Table κ α) (k j : κ) (f : α → α) :
    (t.modify k f).get? j = if j = k then (t.get? j).map f else t.get? j := by
  unfold modify
  cases h : t.get? k with
  | none =>
    by_cases hj : j = k
    · simp [hj, h]
    · simp [hj]
  | some a =>
    by_cases hj : j = k
    · simp [hj, h]
    · simp [hj]

theorem contains_iff {t : Table κ α} {k : κ} : t.contains k = true ↔ ∃ a, t.get? k = some a := by
  simp [contains, Option.isSome_iff_exists]

/-! ### The keys in use -/

omit [DecidableEq κ] in
theorem length_keys (t : Table κ α) : t.keys.length = t.size := List.length_map ..

theorem mem_keys_iff {t : Table κ α} {k : κ} : k ∈ t.keys ↔ ∃ a, t.get? k = some a := by
  rw [← Option.isSome_iff_exists, get?, Option.isSome_map, List.find?_isSome, keys, List.mem_map]
  simp

theorem keys_erase (t : Table κ α) (k : κ) : (t.erase k).keys = t.keys.filter (· ≠ k) := by
  rw [keys, erase, keys, List.filter_map]
  rfl

theorem nodup_keys_erase {t : Table κ α} (h : t.keys.Nodup) (k : κ) : (t.erase k).keys.Nodup := by
  rw [keys_erase]
  exact h.filter _

theorem nodup_keys_put {t : Table κ α} (h : t.keys.Nodup) (k : κ) (a : α) :
    (t.put k a).keys.Nodup := by
  have hk : k ∉ (t.erase k).keys := by simp [mem_keys_iff]
  exact List.nodup_cons.mpr ⟨hk, nodup_keys_erase h k⟩

end Table

end Conduit

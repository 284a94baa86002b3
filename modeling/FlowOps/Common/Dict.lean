import Mathlib.Data.List.AList
import Mathlib.Algebra.BigOperators.Group.List.Basic
import Mathlib.Algebra.BigOperators.Group.Finset.Basic
import Mathlib.Tactic

/-!
# Finite maps

Go maps are association lists with distinct keys (`AList`). Besides `lookup`
and `insert` the programs need three whole-map operations that Go writes as a
`range` loop: rewriting every value, counting the values with a property, and
summing over the entries. Go iterates in an unspecified order; none of the three
depends on it.
-/

namespace FlowOps

/-- `map[κ]ν`. -/
abbrev Dict (κ ν : Type) := AList (fun _ : κ => ν)

namespace Dict

variable {κ ν : Type}

/-- `for k, v := range m { m[k] = f(v) }`. -/
def mapValues (f : ν → ν) (m : Dict κ ν) : Dict κ ν where
  entries := m.entries.map fun e => ⟨e.1, f e.2⟩
  nodupKeys := by
    have h := m.nodupKeys
    unfold List.NodupKeys List.keys at *
    rw [List.map_map]
    exact h

/-- The number of values with property `p`. -/
def countValues (p : ν → Bool) (m : Dict κ ν) : ℕ := m.entries.countP fun e => p e.2

/-- The sum of `f k v` over the entries. -/
def sum {M : Type} [AddCommMonoid M] (f : κ → ν → M) (m : Dict κ ν) : M :=
  (m.entries.map fun e => f e.1 e.2).sum

def All (p : κ → ν → Prop) (m : Dict κ ν) : Prop := ∀ e ∈ m.entries, p e.1 e.2

instance (p : κ → ν → Prop) [∀ k v, Decidable (p k v)] (m : Dict κ ν) : Decidable (m.All p) :=
  inferInstanceAs (Decidable (∀ e ∈ m.entries, p e.1 e.2))

variable [DecidableEq κ] {m : Dict κ ν}

lemma all_iff {p : κ → ν → Prop} : m.All p ↔ ∀ k v, m.lookup k = some v → p k v :=
  ⟨fun h k v hk => h ⟨k, v⟩ (AList.mem_lookup_iff.mp hk),
    fun h e he => h e.1 e.2 (AList.mem_lookup_iff.mpr he)⟩

@[simp] lemma lookup_mapValues (f : ν → ν) (m : Dict κ ν) (k : κ) :
    (mapValues f m).lookup k = (m.lookup k).map f :=
  @List.dlookup_map₂ κ _ (fun _ => ν) (fun _ => ν) m.entries (fun _ => f) k

lemma lookup_insert_ite (m : Dict κ ν) (k k' : κ) (v : ν) :
    (m.insert k v).lookup k' = if k' = k then some v else m.lookup k' := by
  by_cases h : k' = k
  · subst h; simp
  · simp [h, AList.lookup_insert_ne h]

variable {k : κ} {v : ν}

lemma getD_lookup_insert (m : Dict κ ν) (k k' : κ) (v d : ν) :
    ((m.insert k v).lookup k').getD d = if k' = k then v else (m.lookup k').getD d := by
  rw [lookup_insert_ite]
  split_ifs <;> rfl

lemma lookup_eq_some_getD {k : κ} {d : ν} (h : (m.lookup k).getD d ≠ d) :
    m.lookup k = some ((m.lookup k).getD d) := by
  cases hl : m.lookup k with
  | none => simp [hl] at h
  | some v => rfl

lemma lookup_insert_eq_some {k' : κ} {v' : ν} : (m.insert k v).lookup k' = some v' ↔
      (k' = k ∧ v = v') ∨ (k' ≠ k ∧ m.lookup k' = some v') := by
  rw [lookup_insert_ite]
  by_cases h : k' = k <;> simp [h]

lemma lookup_foldl_insert (ks : List κ) (m : Dict κ ν) (v : ν) (k' : κ) :
    (ks.foldl (fun m k => m.insert k v) m).lookup k' = if k' ∈ ks then some v else m.lookup k' := by
  induction ks generalizing m with
  | nil => simp
  | cons k ks ih =>
    rw [List.foldl_cons, ih, lookup_insert_ite]
    by_cases h₁ : k' ∈ ks <;> by_cases h₂ : k' = k <;> simp [h₁, h₂]

lemma countValues_eq_zero {p : ν → Bool} :
    countValues p m = 0 ↔ ∀ k v, m.lookup k = some v → p v = false := by
  simp only [countValues, List.countP_eq_zero]
  constructor
  · intro h k v hk
    have := h ⟨k, v⟩ (AList.mem_lookup_iff.mp hk)
    simpa using this
  · rintro h ⟨k, v⟩ he
    have := h k v (AList.mem_lookup_iff.mpr he)
    simp [this]

section

variable {M : Type} [AddCommMonoid M]

omit [DecidableEq κ] in
@[simp] lemma sum_empty (f : κ → ν → M) : sum f (∅ : Dict κ ν) = 0 := rfl

variable {f : κ → ν → M}

lemma sum_insert_of_lookup_none
    (h : m.lookup k = none) : sum f (m.insert k v) = f k v + sum f m := by
  rw [sum, AList.entries_insert_of_notMem (AList.lookup_eq_none.mp h)]
  simp [sum]

lemma sum_insert_of_lookup_some {w : ν}
    (h : m.lookup k = some w) : sum f (m.insert k v) + f k w = f k v + sum f m := by
  have hmem : k ∈ m.entries.keys := List.dlookup_isSome.mp (by
    show (m.lookup k).isSome; simp [h])
  obtain ⟨w', l₁, l₂, -, hl, hk⟩ := List.exists_of_kerase hmem
  have hw : w' = w := by
    have : m.lookup k = some w' := AList.mem_lookup_iff.mpr (by rw [hl]; simp)
    rw [h] at this
    exact (Option.some.inj this).symm
  subst hw
  rw [sum, AList.entries_insert, hk, sum, hl]
  simp only [List.map_append, List.map_cons, List.sum_append, List.sum_cons]
  abel

omit [DecidableEq κ] in
lemma sum_add (f g : κ → ν → M) (m : Dict κ ν) :
    sum f m + sum g m = sum (fun k v => f k v + g k v) m :=
  List.sum_map_add.symm

lemma sum_le_sum [PartialOrder M] [IsOrderedAddMonoid M] {g : κ → ν → M}
    (h : ∀ k v, m.lookup k = some v → f k v ≤ g k v) : sum f m ≤ sum g m :=
  List.sum_le_sum fun e he => h e.1 e.2 (AList.mem_lookup_iff.mpr he)

lemma sum_nonneg [PartialOrder M] [IsOrderedAddMonoid M]
    (h : ∀ k v, m.lookup k = some v → 0 ≤ f k v) : 0 ≤ sum f m := by
  refine List.sum_nonneg fun x hx => ?_
  obtain ⟨e, he, rfl⟩ := List.mem_map.mp hx
  exact h e.1 e.2 (AList.mem_lookup_iff.mpr he)

/-- The sum over any set of keys that holds those of the map, with nothing for the others. -/
lemma sum_eq_finset_sum (f : κ → ν → M) (m : Dict κ ν) {ks : Finset κ}
    (hks : ∀ k v, m.lookup k = some v → k ∈ ks) :
    sum f m = ∑ k ∈ ks, ((m.lookup k).map (f k)).getD 0 := by
  have hkeys : m.keys.toFinset ⊆ ks := by
    intro k hk
    obtain ⟨v, hv⟩ := AList.mem_keys.trans AList.lookup_isSome.symm |>.mp (List.mem_toFinset.mp hk) |>
      Option.isSome_iff_exists.mp
    exact hks k v hv
  rw [← Finset.sum_subset hkeys, List.sum_toFinset _ (AList.keys_nodup m)]
  · simp only [sum, AList.keys, List.keys, List.map_map]
    refine congrArg List.sum (List.map_congr_left fun e he => ?_)
    have hlookup : m.lookup e.1 = some e.2 := AList.mem_lookup_iff.mpr he
    simp [hlookup]
  · intro k _ hk
    have hnone : m.lookup k = none := by
      rw [AList.lookup_eq_none]
      exact fun hmem => hk (List.mem_toFinset.mpr (AList.mem_keys.mpr hmem))
    simp [hnone]

/-- Maps that assign the same summands to the same keys, absent keys counting as zero, have
the same sum. -/
lemma sum_eq_sum_of_getD {μ : Type} {g : κ → μ → M} {m' : Dict κ μ}
    (h : ∀ k, ((m.lookup k).map (f k)).getD 0 = ((m'.lookup k).map (g k)).getD 0) :
    sum f m = sum g m' := by
  have hmem : ∀ {α : Type} (n : Dict κ α) k v, n.lookup k = some v → k ∈ n.keys.toFinset := by
    intro α n k v hk
    exact List.mem_toFinset.mpr (AList.mem_keys.mpr (AList.lookup_isSome.mp (by simp [hk])))
  rw [sum_eq_finset_sum f m fun k v hk => Finset.mem_union_left m'.keys.toFinset (hmem m k v hk),
    sum_eq_finset_sum g m' fun k v hk => Finset.mem_union_right m.keys.toFinset (hmem m' k v hk)]
  exact Finset.sum_congr rfl fun k _ => h k

lemma sum_eq_sum {μ : Type} {g : κ → μ → M} {m' : Dict κ μ}
    (h : ∀ k, (m.lookup k).map (f k) = (m'.lookup k).map (g k)) : sum f m = sum g m' :=
  sum_eq_sum_of_getD fun k => by rw [h k]

end

end Dict

/-- The case split of `lookup_insert_eq_some` for tables that are functions. -/
lemma update_eq_some {κ ν : Type} [DecidableEq κ] {f : κ → Option ν} {k k' : κ} {v v' : ν} :
    Function.update f k (some v) k' = some v' ↔ (k' = k ∧ v = v') ∨ (k' ≠ k ∧ f k' = some v') := by
  by_cases h : k' = k <;> simp [h]

end FlowOps

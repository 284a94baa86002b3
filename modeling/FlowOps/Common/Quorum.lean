import Mathlib.Data.List.Sort
import Mathlib.Data.String.Basic
import Mathlib.Tactic

/-!
# Lists of independent reports

A quorum is a list of reports, one for each source. Validators scan it once,
remembering the sources seen; they pick a canonical report, a minimum, or a
digest of the list sorted by source.
-/

namespace FlowOps

open List

variable {α κ β : Type} [DecidableEq κ]

/-- `for _, a := range l { if seen[key(a)] || !ok(a) { return false }; seen[key(a)] = {} }`. -/
def distinctAll (key : α → κ) (ok : α → Bool) : List κ → List α → Bool
  | _, [] => true
  | seen, a :: l => !seen.contains (key a) && ok a && distinctAll key ok (key a :: seen) l

lemma distinctAll_iff {key : α → κ} {ok : α → Bool} {seen : List κ} {l : List α} :
    distinctAll key ok seen l ↔ (∀ a ∈ l, ok a ∧ key a ∉ seen) ∧ (l.map key).Nodup := by
  induction l generalizing seen with
  | nil => simp [distinctAll]
  | cons a l ih =>
    simp only [distinctAll, Bool.and_eq_true, Bool.not_eq_true', ih, mem_cons, map_cons,
      nodup_cons, mem_map, not_or, not_exists, not_and]
    have hc : seen.contains (key a) = false ↔ key a ∉ seen := by simp
    rw [hc]
    constructor
    · rintro ⟨⟨hs, ho⟩, hall, hn⟩
      refine ⟨?_, fun b hb he => (hall b hb).2.1 he, hn⟩
      rintro b (rfl | hb)
      · exact ⟨ho, hs⟩
      · exact ⟨(hall b hb).1, (hall b hb).2.2⟩
    · rintro ⟨hall, hne, hn⟩
      refine ⟨⟨(hall a (.inl rfl)).2, (hall a (.inl rfl)).1⟩, fun b hb => ?_, hn⟩
      exact ⟨(hall b (.inr hb)).1, hne b hb, (hall b (.inr hb)).2⟩

/-! ## Minimum -/

/-- The smallest `f a` over the list, starting from `init`. -/
def foldMin (f : α → ℕ) (init : ℕ) (l : List α) : ℕ :=
  l.foldl (fun m a => if f a < m then f a else m) init

lemma foldMin_eq (f : α → ℕ) (init : ℕ) (l : List α) :
    foldMin f init l = l.foldl (fun m a => min m (f a)) init := by
  unfold foldMin
  congr 1
  funext m a
  split_ifs with h <;> omega

lemma le_foldMin {f : α → ℕ} {init n : ℕ} {l : List α} (h₀ : n ≤ init)
    (h : ∀ a ∈ l, n ≤ f a) : n ≤ foldMin f init l := by
  rw [foldMin_eq]
  induction l generalizing init with
  | nil => exact h₀
  | cons a l ih =>
    exact ih (le_min h₀ (h a (by simp))) fun b hb => h b (by simp [hb])

/-! ## Sorting by source -/

/-- `sort.Slice(l, func(i, j int) bool { return key(l[i]) < key(l[j]) })`.
For at most twelve elements `sort.Slice` is the insertion sort below. -/
def sortByKey [LinearOrder β] (key : α → β) (l : List α) : List α :=
  l.insertionSort fun a b => key a ≤ key b

lemma sortByKey_perm [LinearOrder β] (key : α → β) (l : List α) : (sortByKey key l).Perm l :=
  perm_insertionSort _ l

end FlowOps

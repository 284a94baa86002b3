import Mathlib.Tactic

/-!
# Runs of a deterministic machine

A machine is a partial step function `step : σ → ι → Option σ`: the input says
which operation runs and with which arguments, and `none` means that the machine
stops. `runFrom` executes a list of inputs. The rules below derive a property of
every run from one step: an invariant of the state, an invariant that is only
kept by the steps meeting a condition, and a property of the state together with
the history that led to it.
-/

namespace FlowOps

open List

variable {σ ι : Type}

def runFrom (step : σ → ι → Option σ) : σ → List ι → Option σ
  | s, [] => some s
  | s, i :: is => (step s i).bind fun s' => runFrom step s' is

@[simp] lemma runFrom_nil (step : σ → ι → Option σ) (s : σ) : runFrom step s [] = some s := rfl

variable {step : σ → ι → Option σ} {s s'' : σ} {i : ι} {is : List ι}

lemma runFrom_cons_eq_some : runFrom step s (i :: is) = some s'' ↔
      ∃ s', step s i = some s' ∧ runFrom step s' is = some s'' := by
  simp [runFrom, Option.bind_eq_some_iff]

lemma runFrom_append_eq_some {js : List ι} : runFrom step s (is ++ js) = some s'' ↔
      ∃ s', runFrom step s is = some s' ∧ runFrom step s' js = some s'' := by
  induction is generalizing s with
  | nil => simp
  | cons i is ih =>
    simp only [cons_append, runFrom_cons_eq_some, ih]
    constructor
    · rintro ⟨s₁, h₁, s₂, h₂, h₃⟩; exact ⟨s₂, ⟨s₁, h₁, h₂⟩, h₃⟩
    · rintro ⟨s₂, ⟨s₁, h₁, h₂⟩, h₃⟩; exact ⟨s₁, h₁, s₂, h₂, h₃⟩

lemma runFrom_snoc_eq_some : runFrom step s (is ++ [i]) = some s'' ↔
      ∃ s', runFrom step s is = some s' ∧ step s' i = some s'' := by
  simp [runFrom_append_eq_some, runFrom_cons_eq_some]

/-- Every step of the run meets `ok` in the state in which it is taken. -/
def AllSteps (step : σ → ι → Option σ) (ok : σ → ι → Prop) : σ → List ι → Prop
  | _, [] => True
  | s, i :: is => ok s i ∧ ∀ s', step s i = some s' → AllSteps step ok s' is

instance decidableAllSteps {step : σ → ι → Option σ} {ok : σ → ι → Prop}
    [∀ s i, Decidable (ok s i)] : ∀ s is, Decidable (AllSteps step ok s is)
  | _, [] => isTrue trivial
  | s, i :: is =>
    have : Decidable (∀ s', step s i = some s' → AllSteps step ok s' is) :=
      match h : step s i with
      | none => isTrue (by simp)
      | some s₁ =>
        have : Decidable (AllSteps step ok s₁ is) := decidableAllSteps s₁ is
        decidable_of_iff (AllSteps step ok s₁ is) (by simp)
    inferInstanceAs (Decidable (ok s i ∧ ∀ s', step s i = some s' → AllSteps step ok s' is))

variable {ok : σ → ι → Prop}

lemma allSteps_append {js : List ι} : AllSteps step ok s (is ++ js) ↔
      AllSteps step ok s is ∧ ∀ s', runFrom step s is = some s' → AllSteps step ok s' js := by
  induction is generalizing s with
  | nil => simp [AllSteps]
  | cons i is ih =>
    simp only [cons_append, AllSteps, ih, runFrom_cons_eq_some]
    constructor
    · rintro ⟨h₀, h⟩
      exact ⟨⟨h₀, fun s' hs => (h s' hs).1⟩, fun s'' ⟨s', h₁, h₂⟩ => (h s' h₁).2 s'' h₂⟩
    · rintro ⟨⟨h₀, h₁⟩, h₂⟩
      exact ⟨h₀, fun s' hs => ⟨h₁ s' hs, fun s'' hr => h₂ s'' ⟨s', hs, hr⟩⟩⟩

lemma allSteps_snoc {s' : σ}
    (hrun : runFrom step s is = some s') (h : AllSteps step ok s is) (hi : ok s' i) :
    AllSteps step ok s (is ++ [i]) := by
  refine allSteps_append.mpr ⟨h, fun s'' hs'' => ?_⟩
  rw [hrun] at hs''
  cases hs''
  exact ⟨hi, fun _ _ => trivial⟩

/-- The number of steps of the run that meet `p`. -/
def countSteps (step : σ → ι → Option σ) (p : σ → ι → Bool) : σ → List ι → ℕ
  | _, [] => 0
  | s, i :: is => (p s i).toNat + (step s i).elim 0 fun s' => countSteps step p s' is

lemma countSteps_snoc {p : σ → ι → Bool} {s' : σ} (hrun : runFrom step s is = some s') :
    countSteps step p s (is ++ [i]) = countSteps step p s is + (p s' i).toNat := by
  induction is generalizing s with
  | nil =>
    cases hrun
    cases h : step s' i <;> simp [countSteps, h]
  | cons j is ih =>
    obtain ⟨s₁, h₁, h₂⟩ := runFrom_cons_eq_some.mp hrun
    simp only [cons_append, countSteps, h₁, Option.elim_some, ih h₂]
    omega

variable {s₀ : σ}

/-- A property of the history and the state reached, kept by every step that
meets `K`, holds of every run all of whose steps meet it. -/
lemma history_induction {K : σ → ι → Prop} {H : List ι → σ → Prop} (h₀ : H [] s₀)
    (hstep : ∀ is s i s', runFrom step s₀ is = some s → H is s → K s i → step s i = some s' →
      H (is ++ [i]) s') :
    ∀ is s, runFrom step s₀ is = some s → AllSteps step K s₀ is → H is s := by
  intro is
  induction is using List.reverseRecOn with
  | nil => rintro s ⟨⟩ -; exact h₀
  | append_singleton is i ih =>
    intro s hrun hok
    obtain ⟨s', h₁, h₂⟩ := runFrom_snoc_eq_some.mp hrun
    obtain ⟨hok₁, hok₂⟩ := allSteps_append.mp hok
    exact hstep is s' i s h₁ (ih s' h₁ hok₁) (hok₂ s' h₁).1 h₂

lemma allSteps_of_forall (h : ∀ s i, ok s i) : AllSteps step ok s is := by
  induction is generalizing s with
  | nil => trivial
  | cons i is ih => exact ⟨h s i, fun _ _ => ih⟩

lemma run_invariant {I : σ → Prop} (hstep : ∀ s i s', I s → step s i = some s' → I s') (h₀ : I s₀)
    (hrun : runFrom step s₀ is = some s) : I s :=
  @history_induction σ ι step s₀ (fun _ _ => True) (fun _ s => I s) h₀
    (fun _ s i s' _ hI _ hs => hstep s i s' hI hs) is s hrun (allSteps_of_forall fun _ _ => trivial)

/-- A property that holds now and did not at the start began to hold at some step,
and has held ever since. -/
lemma exists_last_entry {Q : σ → Prop} (h₀ : ¬Q s₀) :
    ∀ is s, runFrom step s₀ is = some s → Q s → ∃ before i rest s₁ s₂, is = before ++ i :: rest ∧
      runFrom step s₀ before = some s₁ ∧ step s₁ i = some s₂ ∧ ¬Q s₁ ∧
      ∀ part, part <+: rest → ∀ s₃, runFrom step s₂ part = some s₃ → Q s₃ := by
  intro is
  induction is using List.reverseRecOn with
  | nil => rintro s ⟨⟩ hQ; exact absurd hQ h₀
  | append_singleton is i ih =>
    intro s hrun hQ
    obtain ⟨s', hrun', hstep⟩ := runFrom_snoc_eq_some.mp hrun
    by_cases hQ' : Q s'
    · obtain ⟨before, j, rest, s₁, s₂, rfl, hbefore, hj, hnot, hsince⟩ := ih s' hrun' hQ'
      refine ⟨before, j, rest ++ [i], s₁, s₂, by simp, hbefore, hj, hnot, fun part hpart s₃ h₃ => ?_⟩
      rcases prefix_concat_iff.mp hpart with rfl | hpart
      · -- The whole run: `s₃` is the state reached.
        have hall : runFrom step s₀ (before ++ j :: (rest ++ [i])) = some s₃ :=
          runFrom_append_eq_some.mpr ⟨s₁, hbefore, runFrom_cons_eq_some.mpr ⟨s₂, hj, h₃⟩⟩
        rw [show before ++ j :: (rest ++ [i]) = before ++ j :: rest ++ [i] by simp, hrun] at hall
        cases hall
        exact hQ
      · exact hsince part hpart s₃ h₃
    · refine ⟨is, i, [], s', s, rfl, hrun', hstep, hQ', fun part hpart s₃ h₃ => ?_⟩
      rw [prefix_nil.mp hpart] at h₃
      cases h₃
      exact hQ

end FlowOps

import Mathlib.Tactic

/-!
# Transactions

A contract is a function `call : σ → ι → Except ε (σ × ω)`: the input names the
method, its arguments and the block it runs in, and a call either returns a new state
and a log, or reverts and changes nothing. `execute` runs a list of transactions;
`successes` lists those that did not revert, each with the state it started from.

Every result about runs is one about a single call that succeeded:
* `execute_invariant`: a property of the state.
* `history_rule`: a property of the state and the successful calls that led to it.
* `countP_of_flag`: what is done at most once.
* `exists_change`: the call that brought something about.
-/

namespace FlowOps

open List

variable {σ ι ε ω : Type}

def transact (call : σ → ι → Except ε (σ × ω)) (s : σ) (i : ι) : σ :=
  match call s i with
  | .ok (s', _) => s'
  | .error _ => s

/-- The state after the transactions, in order. -/
def execute (call : σ → ι → Except ε (σ × ω)) (s : σ) (is : List ι) : σ :=
  is.foldl (transact call) s

/-- A transaction that did not revert: the state before it, its input and its log. -/
structure Success (σ ι ω : Type) where
  before : σ
  input : ι
  log : ω

def Success.after (call : σ → ι → Except ε (σ × ω)) (x : Success σ ι ω) : σ :=
  transact call x.before x.input

def successes (call : σ → ι → Except ε (σ × ω)) : σ → List ι → List (Success σ ι ω)
  | _, [] => []
  | s, i :: is =>
    match call s i with
    | .ok (s', o) => ⟨s, i, o⟩ :: successes call s' is
    | .error _ => successes call s is

section

variable {call : σ → ι → Except ε (σ × ω)} {s s' : σ} {i : ι} {o : ω} {is js : List ι}

@[simp] lemma execute_nil : execute call s [] = s := rfl

lemma ok_of_log {x : Except ε (σ × ω)} (h : x.toOption.map Prod.snd = some o) :
    ∃ s', x = .ok (s', o) := by
  cases x with
  | error e => simp [Except.toOption] at h
  | ok r =>
    simp only [Except.toOption, Option.map_some, Option.some.injEq] at h
    exact ⟨r.1, by rw [← h]⟩

lemma transact_of_ok (h : call s i = .ok (s', o)) : transact call s i = s' := by
  simp [transact, h]

lemma execute_append : execute call s (is ++ js) = execute call (execute call s is) js :=
  foldl_append

lemma execute_snoc : execute call s (is ++ [i]) = transact call (execute call s is) i :=
  execute_append

lemma successes_cons : successes call s (i :: is) = (match call s i with
      | .ok (_, o) => [⟨s, i, o⟩]
      | .error _ => []) ++ successes call (transact call s i) is := by
  simp only [successes, transact]
  cases call s i <;> rfl

lemma successes_append :
    successes call s (is ++ js) = successes call s is ++ successes call (execute call s is) js := by
  induction is generalizing s with
  | nil => rfl
  | cons i is ih =>
    rw [cons_append, successes_cons, successes_cons, ih, append_assoc]
    rfl

/-- Every successful transaction is one of the inputs, in the same order. -/
lemma successes_sublist : ((successes call s is).map (·.input)).Sublist is := by
  induction is generalizing s with
  | nil => exact List.Sublist.slnil
  | cons i is ih =>
    rw [successes_cons]
    cases call s i with
    | error e => exact (ih).cons i
    | ok r => exact (ih).cons_cons i

/-- A property of the state and of the successful calls so far, kept by every call of
the run. -/
lemma history_rule_of_mem {H : List (Success σ ι ω) → σ → Prop} (h₀ : H [] s) (is : List ι)
    (hcall : ∀ past s i s' o, i ∈ is → H past s → call s i = .ok (s', o) →
      H (past ++ [⟨s, i, o⟩]) s') : H (successes call s is) (execute call s is) := by
  induction is using List.reverseRecOn with
  | nil => exact h₀
  | append_singleton is i ih =>
    have hbefore := ih fun past s j s' o hj => hcall past s j s' o (mem_append_left _ hj)
    rw [successes_append, execute_snoc, successes_cons]
    cases h : call (execute call s is) i with
    | error e => simpa [transact, h, successes] using hbefore
    | ok r =>
      obtain ⟨s', o⟩ := r
      simpa [transact, h, successes] using hcall _ _ _ _ _ (by simp) hbefore h

lemma history_rule {H : List (Success σ ι ω) → σ → Prop} (h₀ : H [] s)
    (hcall : ∀ past s i s' o, H past s → call s i = .ok (s', o) → H (past ++ [⟨s, i, o⟩]) s')
    (is : List ι) : H (successes call s is) (execute call s is) :=
  history_rule_of_mem h₀ is fun past s i s' o _ => hcall past s i s' o

/-- A property that every successful call keeps holds after every run. -/
lemma execute_invariant {I : σ → Prop}
    (hcall : ∀ s i s' o, I s → call s i = .ok (s', o) → I s') (h₀ : I s) (is : List ι) :
    I (execute call s is) :=
  history_rule (H := fun _ s => I s) h₀ (fun _ s i s' o h hs => hcall s i s' o h hs) is

/-- A flag that is raised by the calls with property `p`, only once, and never lowered:
at most one call has the property. -/
lemma countP_of_flag (p : Success σ ι ω → Bool) (flag : σ → Bool) (h₀ : flag s = false)
    (hcall : ∀ s i s' o, call s i = .ok (s', o) →
      p ⟨s, i, o⟩ = true ∧ flag s = false ∧ flag s' ∨ p ⟨s, i, o⟩ = false ∧ flag s' = flag s)
    (is : List ι) :
    (successes call s is).countP p = (flag (execute call s is)).toNat := by
  refine history_rule (H := fun past s => past.countP p = (flag s).toNat) (by simp [h₀])
    (fun past s i s' o ih hc => ?_) is
  rw [countP_append, countP_singleton, ih]
  rcases hcall s i s' o hc with ⟨hp, hs, hs'⟩ | ⟨hp, hsame⟩
  · simp [hp, hs, hs']
  · simp [hp, hsame]

lemma successes_split {past later : List (Success σ ι ω)} {x : Success σ ι ω}
    (h : successes call s is = past ++ x :: later) :
    ∃ before after, is = before ++ x.input :: after ∧ successes call s before = past ∧
      execute call s before = x.before ∧ ∃ s', call x.before x.input = .ok (s', x.log) := by
  induction is generalizing s past with
  | nil =>
    have := congrArg List.length h
    simp [successes] at this
  | cons i is ih =>
    cases hc : call s i with
    | error e =>
      obtain ⟨before, after, rfl, hpast, hbefore, hx⟩ := @ih s past (by simpa [successes, hc] using h)
      refine ⟨i :: before, after, rfl, ?_, ?_, hx⟩
      · simpa [successes, hc] using hpast
      · simpa [execute, transact, hc] using hbefore
    | ok r =>
      obtain ⟨s₁, o⟩ := r
      simp only [successes, hc] at h
      cases past with
      | nil =>
        obtain ⟨rfl, -⟩ := cons_eq_cons.mp h
        exact ⟨[], is, rfl, rfl, rfl, s₁, hc⟩
      | cons y past =>
        obtain ⟨rfl, htail⟩ := cons_eq_cons.mp h
        obtain ⟨before, after, rfl, hpast, hbefore, hx⟩ := ih htail
        refine ⟨i :: before, after, rfl, ?_, ?_, hx⟩
        · simp [successes, hc, hpast]
        · simpa [execute, transact, hc] using hbefore

lemma execute_snoc_cases (call : σ → ι → Except ε (σ × ω)) (s : σ) (is : List ι) (i : ι) :
    execute call s (is ++ [i]) = execute call s is ∨
      ∃ o, call (execute call s is) i = .ok (execute call s (is ++ [i]), o) := by
  rw [execute_snoc, transact]
  cases h : call (execute call s is) i with
  | error e => exact .inl rfl
  | ok r => exact .inr ⟨r.2, rfl⟩

/-- What does not hold at the start and holds at the end was brought about by a transaction. -/
lemma exists_change (call : σ → ι → Except ε (σ × ω)) (s : σ) {Q : σ → Prop} (h₀ : ¬Q s) (h : Q (execute call s is)) :
    ∃ before i o, before ++ [i] <+: is ∧ ¬Q (execute call s before) ∧
      call (execute call s before) i = .ok (execute call s (before ++ [i]), o) ∧
      Q (execute call s (before ++ [i])) := by
  induction is using List.reverseRecOn with
  | nil => exact absurd h h₀
  | append_singleton is i ih =>
    by_cases hbefore : Q (execute call s is)
    · obtain ⟨before, j, o, hfirst, hchange⟩ := ih hbefore
      exact ⟨before, j, o, hfirst.trans (prefix_append _ _), hchange⟩
    · obtain hsame | ⟨o, hcall⟩ := execute_snoc_cases call s is i
      · exact absurd (hsame ▸ h) hbefore
      · exact ⟨is, i, o, prefix_refl _, hbefore, hcall, h⟩

end

end FlowOps

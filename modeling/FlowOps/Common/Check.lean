import Mathlib.Tactic

/-!
# Chains of guarded checks

A Go function that validates its input is a sequence of
`if bad { return err }` statements. Its model is the nested expression
`if bad then .error e else …` in `Except`; the lemmas here turn the fact that
such a chain returned `.ok` into the conjunction of its negated guards.
-/

namespace FlowOps

variable {ε α β : Type*} {p : Prop} {e : ε} {k : Except ε α} {a : α}

@[simp] lemma guard_ok [Decidable p] : (if p then .error e else k) = .ok a ↔ ¬p ∧ k = .ok a := by
  by_cases h : p <;> simp [h]

lemma guard_ne [Decidable p] {e' : ε} (he : e ≠ e')
    (hk : ¬p → k ≠ .error e') : (if p then .error e else k) ≠ .error e' := by
  split_ifs with h
  · simpa using he
  · exact hk h

variable {x : Except ε α} {b : β}

lemma ok_pair_eq {c : α} {d : β} :
    (.ok (a, b) : Except ε (α × β)) = .ok (c, d) ↔ a = c ∧ b = d := by
  rw [Except.ok.injEq, Prod.mk.injEq]

lemma bind_eq_ok {f : α → Except ε β} : x.bind f = .ok b ↔ ∃ a, x = .ok a ∧ f a = .ok b := by
  cases x <;> simp [Except.bind]

lemma bind_unit_eq_ok {x : Except ε Unit} {f : Unit → Except ε β} :
    x.bind f = .ok b ↔ x = .ok () ∧ f () = .ok b := by
  cases x <;> simp [Except.bind]

/-- `if x != nil { if err := f(*x); err != nil { return err } }`. -/
def checkSome (f : α → Except ε Unit) : Option α → Except ε Unit
  | none => .ok ()
  | some a => f a

variable {f : α → Except ε Unit}

lemma checkSome_eq_ok {x : Option α} :
    checkSome f x = .ok () ↔ ∀ a, x = some a → f a = .ok () := by
  cases x <;> simp [checkSome]

lemma map_eq_ok {f : α → β} : x.map f = .ok b ↔ ∃ a, x = .ok a ∧ f a = b := by
  cases x <;> simp [Except.map]

lemma mapError_eq_ok {ε' : Type*} {g : ε → ε'} : x.mapError g = .ok a ↔ x = .ok a := by
  cases x <;> simp [Except.mapError]

/-- The loop `for _, x := range xs { acc, err = f(acc, x) }`, stopping at the
first error. -/
def foldCheck (f : β → α → Except ε β) : β → List α → Except ε β
  | b, [] => .ok b
  | b, x :: xs => (f b x).bind fun b' => foldCheck f b' xs

@[simp] lemma foldCheck_nil (f : β → α → Except ε β) (b : β) : foldCheck f b [] = .ok b := rfl

variable {c : β} {xs : List α}

lemma foldCheck_cons_ok {f : β → α → Except ε β} {x : α} :
    foldCheck f b (x :: xs) = .ok c ↔ ∃ b', f b x = .ok b' ∧ foldCheck f b' xs = .ok c := by
  simp [foldCheck, bind_eq_ok]

lemma foldCheck_append (f : β → α → Except ε β) (b : β) (xs ys : List α) :
    foldCheck f b (xs ++ ys) = (foldCheck f b xs).bind fun b' => foldCheck f b' ys := by
  induction xs generalizing b with
  | nil => rfl
  | cons x xs ih =>
    simp only [List.cons_append, foldCheck]
    cases f b x with
    | error e => rfl
    | ok b' => exact ih b'

lemma foldCheck_append_ok {f : β → α → Except ε β} {ys : List α} :
    foldCheck f b (xs ++ ys) = .ok c ↔
      ∃ b', foldCheck f b xs = .ok b' ∧ foldCheck f b' ys = .ok c := by
  rw [foldCheck_append, bind_eq_ok]

lemma foldCheck_singleton (f : β → α → Except ε β) (b : β) (x : α) :
    foldCheck f b [x] = f b x := by
  simp only [foldCheck]
  cases f b x <;> rfl

lemma foldCheck_unit_ok :
    foldCheck (fun () x => f x) () xs = .ok () ↔ ∀ x ∈ xs, f x = .ok () := by
  induction xs with
  | nil => simp
  | cons x xs ih =>
    simp only [foldCheck, bind_unit_eq_ok, ih, List.forall_mem_cons]

end FlowOps

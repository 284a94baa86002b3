import FlowOps.Common.Check
import FlowOps.Common.Decimal

/-!
# Pilot limits

`pkg/pilotlimits/limits.go`: a ceiling for one action and one for the exposure that is
outstanding. Sums travel as decimal texts, printed by `big.Int.String` and parsed again;
`parseNonNegative_toString` says that nothing is lost as long as they fit in 256 bits.
-/

namespace FlowOps

variable {value amountAtomic : String} {n : ℕ}

/-! ## Decimal texts -/

/-- `parseNonNegative` (limits.go:104, policy.go:313): `none` for an error. -/
def parseNonNegative (value : String) : Option ℕ :=
  if value = "" then none
  else if 1 < value.toList.length ∧ value.toList.head? = some '0' then none
  else if value.toList.all Char.isDigit = false then none
  else if 2 ^ 256 ≤ natOfDigits value.toList then none
  else some (natOfDigits value.toList)

/-- `parsePositive` (limits.go:93, policy.go:302). -/
def parsePositive (value : String) : Option ℕ :=
  match parseNonNegative value with
  | none => none
  | some n => if n = 0 then none else some n

lemma parseNonNegative_eq_some (h : parseNonNegative value = some n) :
    digitsOnly value.toList ∧ n = natOfDigits value.toList := by
  unfold parseNonNegative at h
  split_ifs at h with hempty hzero hdigits hsize
  refine ⟨?_, (Option.some.inj h).symm⟩
  have hne : value.toList ≠ [] := fun h => hempty (String.toList_eq_nil_iff.mp h)
  simpa [digitsOnly, hne] using hdigits

lemma parsePositive_eq_some (h : parsePositive value = some n) :
    parseNonNegative value = some n ∧ 0 < n := by
  unfold parsePositive at h
  split at h
  · cases h
  · rename_i m hm
    split_ifs at h with hzero
    cases h
    exact ⟨hm, Nat.pos_of_ne_zero hzero⟩

/-- A text that is accepted as an amount parses to the same integer as `SetString`. -/
lemma setString_of_parsePositive (h : parsePositive value = some n) :
    setString value = some (n : ℤ) := by
  obtain ⟨hdigits, rfl⟩ := parseNonNegative_eq_some (parsePositive_eq_some h).1
  exact setString_of_digits hdigits

lemma head_toDigits (n : ℕ) : 0 < n → (Nat.toDigits 10 n).head? ≠ some '0' := by
  induction n using Nat.strong_induction_on with
  | _ n ih =>
    intro hpos
    by_cases hlt : n < 10
    · rw [Nat.toDigits_of_lt_base hlt]
      interval_cases n <;> decide
    · have hdiv := ih (n / 10) (by omega) (by omega)
      rw [Nat.toDigits_of_base_le (by decide) (by omega)]
      have hne : Nat.toDigits 10 (n / 10) ≠ [] := Nat.toDigits_ne_nil
      rwa [List.head?_append_of_ne_nil _ hne]

lemma parseNonNegative_toString (h : n < 2 ^ 256) : parseNonNegative (toString n) = some n := by
  have hvalue := natOfDigits_toString n
  have hne : (toString n).toList ≠ [] := by
    rw [toList_toString]
    exact Nat.toDigits_ne_nil
  have hzero : ¬(1 < (toString n).toList.length ∧ (toString n).toList.head? = some '0') := by
    rw [toList_toString]
    rcases Nat.eq_zero_or_pos n with rfl | hpos
    · decide
    · exact fun h => head_toDigits n hpos h.2
  have hdigits : (toString n).toList.all Char.isDigit := by
    rw [toList_toString, List.all_eq_true]
    exact fun c hc => Nat.isDigit_of_mem_toDigits (by decide) le_rfl hc
  rw [parseNonNegative, if_neg (fun h => hne (by rw [h]; rfl)), if_neg hzero,
    if_neg (by rw [hdigits]; decide), if_neg (by omega), hvalue]

lemma parseNonNegative_toString_of_le (h : 2 ^ 256 ≤ n) :
    parseNonNegative (toString n) = none := by
  cases hparse : parseNonNegative (toString n) with
  | none => rfl
  | some m =>
    exfalso
    have hm := hparse
    unfold parseNonNegative at hm
    split_ifs at hm with hempty hzero hdigits hsize
    rw [toList_toString] at hsize
    exact hsize (h.trans_eq (Nat.ofDigitChars_toDigits (by decide) le_rfl).symm)

lemma parseNonNegative_toString_eq {m : ℕ} (h : parseNonNegative (toString m) = some n) : n = m := by
  by_cases hlt : m < 2 ^ 256
  · rw [parseNonNegative_toString hlt] at h
    exact (Option.some.inj h).symm
  · rw [parseNonNegative_toString_of_le (not_lt.mp hlt)] at h
    cases h

/-! ## Limits -/

/-- `Limits` (limits.go:28). -/
structure Limits where
  (maxPerAction maxOutstanding : ℕ)

/-- The errors of `Check`: the two sentinel errors, and texts that do not parse. -/
inductive LimitError where
  | perActionExceeded | outstandingExceeded
  | invalid (field : String)
deriving DecidableEq

/-- `Limits.Check` (limits.go:50). -/
def Limits.check (l : Limits) (amountAtomic outstandingAtomic : String) : Except LimitError Unit :=
  match parsePositive amountAtomic with
  | none => .error (.invalid "amount")
  | some amount =>
    match parseNonNegative outstandingAtomic with
    | none => .error (.invalid "outstanding amount")
    | some outstanding =>
      if l.maxPerAction < amount then .error .perActionExceeded
      else if 2 ^ 256 ≤ outstanding + amount ∨ l.maxOutstanding < outstanding + amount then
        .error .outstandingExceeded
      else .ok ()

variable {l : Limits}

lemma Limits.check_ok {outstanding : ℕ}
    (h : l.check amountAtomic (toString outstanding) = .ok ()) : ∃ amount,
      parsePositive amountAtomic = some amount ∧ amount ≤ l.maxPerAction ∧
        outstanding + amount ≤ l.maxOutstanding := by
  unfold check at h
  split at h
  · cases h
  · rename_i amount hamount
    by_cases hlt : outstanding < 2 ^ 256
    · simp only [parseNonNegative_toString hlt, guard_ok, not_or, not_lt, not_le] at h
      exact ⟨amount, hamount, h.1, h.2.1.2⟩
    · rw [parseNonNegative_toString_of_le (not_lt.mp hlt)] at h
      cases h

lemma Limits.check_amountOf {outstanding : ℤ}
    (hnonneg : 0 ≤ outstanding) (h : l.check amountAtomic (toString outstanding) = .ok ()) :
    0 ≤ amountOf amountAtomic ∧ amountOf amountAtomic ≤ l.maxPerAction ∧
      outstanding + amountOf amountAtomic ≤ l.maxOutstanding := by
  obtain ⟨n, rfl⟩ := Int.eq_ofNat_of_zero_le hnonneg
  obtain ⟨amount, hamount, hper, hle⟩ := check_ok h
  have heq : amountOf amountAtomic = amount := by
    rw [amountOf, setString_of_parsePositive hamount]
    rfl
  rw [heq]
  omega

end FlowOps

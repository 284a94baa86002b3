import Mathlib.Tactic

/-!
# Decimal integers as text

Amounts travel as decimal strings and are only turned into `big.Int` when they
are added up. `setString` is `new(big.Int).SetString(s, 10)`. `flipSign` is the
textual negation that strips a leading `-` or adds one; `setString_flipSign`
says that it negates the number.
-/

namespace FlowOps

variable {s : String}

def natOfDigits (l : List Char) : ℕ := l.foldl (fun n c => 10 * n + (c.toNat - 48)) 0

/-- A non-empty run of decimal digits. -/
def digitsOnly (l : List Char) : Bool := !l.isEmpty && l.all Char.isDigit

/-- `new(big.Int).SetString(s, 10)`: an optional sign, then decimal digits. -/
def setString (s : String) : Option ℤ :=
  match s.toList with
  | '-' :: ds => if digitsOnly ds then some (-(natOfDigits ds : ℤ)) else none
  | '+' :: ds => if digitsOnly ds then some (natOfDigits ds : ℤ) else none
  | ds => if digitsOnly ds then some (natOfDigits ds : ℤ) else none

/-- The amount a `SetString` call leaves in its result when the error is
dropped. Go returns `nil` for a malformed text and the next operation on it
panics; every amount that is summed up has been parsed before. -/
def amountOf (s : String) : ℤ := (setString s).getD 0

/-- `if amount[0] == '-' { amount[1:] } else { "-" + amount }`. -/
def flipSign (s : String) : String :=
  match s.toList with
  | '-' :: ds => String.ofList ds
  | _ => "-" ++ s

lemma setString_of_digits (h : digitsOnly s.toList) :
    setString s = some (natOfDigits s.toList : ℤ) := by
  unfold setString
  split
  · rename_i ds hs
    rw [hs] at h; simp [digitsOnly] at h
  · rename_i ds hs
    rw [hs] at h; simp [digitsOnly] at h
  · simp [h]

lemma setString_neg (h : digitsOnly s.toList) :
    setString ("-" ++ s) = some (-(natOfDigits s.toList : ℤ)) := by
  have hs : ("-" ++ s).toList = '-' :: s.toList := by rw [String.toList_append]; rfl
  simp [setString, hs, h]

/-- A text whose digits follow an optional `-`. -/
def canonicalSign (s : String) : Bool :=
  match s.toList with
  | '-' :: ds => digitsOnly ds
  | ds => digitsOnly ds

lemma flipSign_of_digits (h : digitsOnly s.toList) : flipSign s = "-" ++ s := by
  unfold flipSign
  split
  · rename_i ds hs
    rw [hs] at h; simp [digitsOnly] at h
  · rfl

lemma flipSign_neg (s : String) : flipSign ("-" ++ s) = s := by
  have hs : ("-" ++ s).toList = '-' :: s.toList := by rw [String.toList_append]; rfl
  simp [flipSign, hs]

lemma canonicalSign_cases (h : canonicalSign s) :
    digitsOnly s.toList ∨ ∃ t : String, s = "-" ++ t ∧ digitsOnly t.toList := by
  unfold canonicalSign at h
  split at h
  · rename_i ds hs
    refine .inr ⟨String.ofList ds, ?_, by simpa using h⟩
    apply String.toList_inj.mp
    rw [String.toList_append, hs]; simp
  · exact .inl h

lemma setString_flipSign (h : canonicalSign s) :
    setString (flipSign s) = (setString s).map (- ·) := by
  rcases canonicalSign_cases h with hd | ⟨t, rfl, hd⟩
  · rw [flipSign_of_digits hd, setString_neg hd, setString_of_digits hd]; rfl
  · rw [flipSign_neg, setString_neg hd, setString_of_digits hd]; simp

lemma amountOf_flipSign (h : canonicalSign s) : amountOf (flipSign s) = -amountOf s := by
  unfold amountOf
  rw [setString_flipSign h]
  cases setString s <;> simp

/-! ## Printed integers -/

lemma toList_toString (n : ℕ) : (toString n).toList = Nat.toDigits 10 n := by
  rw [show toString n = String.ofList (Nat.toDigits 10 n) from rfl, String.toList_ofList]

lemma natOfDigits_toString (n : ℕ) : natOfDigits (toString n).toList = n := by
  rw [toList_toString]
  exact Nat.ofDigitChars_toDigits (by decide) le_rfl

end FlowOps

import FlowOps.Common.Decimal

/-!
# Canonical texts

The regular expressions that `internal/reconciliation`, `pkg/envelope` and
`pkg/broadcastreceipt` each compile under the same names, and the canonical
integer texts. Go strings are Lean strings, that is, valid UTF-8.
-/

namespace FlowOps

open List

variable {s value : String} {ds : List Char} {n : ℤ}

/-- `[a-zA-Z0-9._:-]`. -/
def identifierChar (c : Char) : Bool :=
  c.isAlphanum || c = '.' || c = '_' || c = ':' || c = '-'

/-- `^[a-zA-Z0-9][a-zA-Z0-9._:-]{0,127}$` (types.go:59). -/
def identifierPattern (s : String) : Bool :=
  match s.toList with
  | [] => false
  | c :: cs => c.isAlphanum && decide (cs.length ≤ 127) && cs.all identifierChar

/-- `[0-9a-f]`. -/
def lowerHex (c : Char) : Bool := c.isDigit || ('a' ≤ c && c ≤ 'f')

/-- `^0x[0-9a-f]{n}$`. -/
def hexPattern (n : ℕ) (s : String) : Bool :=
  match s.toList with
  | '0' :: 'x' :: ds => decide (ds.length = n) && ds.all lowerHex
  | _ => false

/-- `hashPattern` (types.go:60), also `noncePattern` of `pkg/envelope`. -/
def hashPattern (s : String) : Bool := hexPattern 64 s

/-- `addressPattern` (types.go:61). -/
def addressPattern (s : String) : Bool := hexPattern 40 s

/-- `zeroHash` (escrow.go:138). -/
def zeroHash : String := "0x0000000000000000000000000000000000000000000000000000000000000000"

/-- The text of a 32-byte digest: `hex.EncodeToString` of a hash. -/
abbrev Hex64 := { s : String // s.toList.length = 64 ∧ s.toList.all lowerHex }

/-- `"0x" + hex.EncodeToString(digest[:])`. -/
def Hex64.hash (d : Hex64) : String := "0x" ++ d.val

lemma Hex64.hashPattern_hash (d : Hex64) : hashPattern d.hash := by
  have h : d.hash.toList = '0' :: 'x' :: d.val.toList := by
    rw [hash, String.toList_append]; rfl
  simp [hashPattern, hexPattern, h, d.property.1, d.property.2]

namespace Hex64

/-! Stand-ins for digests, for runs that are evaluated. -/

def code (xs : List String) : ℕ :=
  xs.foldl (fun h x => x.toList.foldl (fun h c => (h * 1099511628211 + c.toNat) % 2 ^ 256) (h + 1)) 0

/-- Eight digests as literals, for runs that are evaluated in the elaborator. -/
def sample : ℕ → Hex64
  | 0 => ⟨"0000000000000000000000000000000000000000000000000000000000000000", by decide⟩
  | 1 => ⟨"1111111111111111111111111111111111111111111111111111111111111111", by decide⟩
  | 2 => ⟨"2222222222222222222222222222222222222222222222222222222222222222", by decide⟩
  | 3 => ⟨"3333333333333333333333333333333333333333333333333333333333333333", by decide⟩
  | 4 => ⟨"4444444444444444444444444444444444444444444444444444444444444444", by decide⟩
  | 5 => ⟨"5555555555555555555555555555555555555555555555555555555555555555", by decide⟩
  | 6 => ⟨"6666666666666666666666666666666666666666666666666666666666666666", by decide⟩
  | _ => ⟨"7777777777777777777777777777777777777777777777777777777777777777", by decide⟩

end Hex64

lemma hashPattern_ne_empty (h : hashPattern s) : s ≠ "" := by
  rintro rfl
  exact absurd h (by decide)

lemma identifierPattern_ne_empty (h : identifierPattern s) : s ≠ "" := by
  rintro rfl
  exact absurd h (by decide)

lemma lowerHex_identifierChar {c : Char} (h : lowerHex c) : identifierChar c := by
  unfold lowerHex at h
  unfold identifierChar Char.isAlphanum Char.isAlpha Char.isLower
  simp only [Bool.or_eq_true, Bool.and_eq_true, decide_eq_true_eq] at h ⊢
  rcases h with h | ⟨h₁, h₂⟩
  · exact .inl (.inl (.inl (.inl (.inr h))))
  · refine .inl (.inl (.inl (.inl (.inl (.inr ⟨h₁, ?_⟩)))))
    exact UInt32.le_trans h₂ (by decide)

/-- A prefix in identifier syntax followed by a digest is an identifier. -/
lemma identifierPattern_append_hex {p : String} (hp : identifierPattern p)
    (hlen : p.toList.length ≤ 64) (d : Hex64) : identifierPattern (p ++ d.val) := by
  unfold identifierPattern at hp ⊢
  rw [String.toList_append]
  cases hc : p.toList with
  | nil => simp [hc] at hp
  | cons c cs =>
    rw [hc] at hp hlen
    simp only [Bool.and_eq_true, decide_eq_true_eq] at hp
    obtain ⟨⟨h₁, -⟩, h₃⟩ := hp
    have hd : ∀ x ∈ d.val.toList, identifierChar x := fun x hx =>
      lowerHex_identifierChar (all_eq_true.mp d.property.2 x hx)
    simp only [length_cons] at hlen
    have hlen' : cs.length + d.val.toList.length ≤ 127 := by rw [d.property.1]; omega
    simp [h₁, h₃, hlen']
    exact hd

lemma identifierPattern_of_hashPattern (h : hashPattern s) : identifierPattern s := by
  unfold hashPattern hexPattern at h
  unfold identifierPattern
  split at h
  · rename_i ds hs
    simp only [Bool.and_eq_true, decide_eq_true_eq] at h
    have hd : ∀ x ∈ ds, identifierChar x := fun x hx =>
      lowerHex_identifierChar (all_eq_true.mp h.2 x hx)
    simp only [hs, length_cons, h.1, all_cons, Bool.and_eq_true]
    exact ⟨by decide, by decide, all_eq_true.mpr hd⟩
  · cases h

/-! ## Integers -/

/-- `positiveInteger` (types.go:509) accepts the text: no leading zero, decimal
digits only, at most 256 bits. -/
def positiveInteger (value : String) : Bool :=
  match value.toList with
  | [] => false
  | c :: cs => c ≠ '0' && (c :: cs).all Char.isDigit && decide (natOfDigits (c :: cs) < 2 ^ 256)

/-- `signedInteger` (types.go:525): the integer, or `none` for the error. -/
def signedInteger (value : String) : Option ℤ :=
  match value.toList with
  | [] => none
  | '-' :: ds => unsigned ds
  | ds => unsigned ds
where
  /-- The checks on the digits after an optional minus sign. -/
  unsigned (ds : List Char) : Option ℤ :=
    if ds.head? = none ∨ ds.head? = some '0' ∨ ds.all Char.isDigit = false ∨
        2 ^ 256 ≤ natOfDigits ds then none
    else setString value

lemma positiveInteger_digits (h : positiveInteger value) :
    digitsOnly value.toList ∧ value.toList.head? ≠ some '0' ∧
      natOfDigits value.toList < 2 ^ 256 := by
  unfold positiveInteger at h
  split at h
  · cases h
  · rename_i c cs hs
    simp only [Bool.and_eq_true, decide_eq_true_eq] at h
    rw [hs]
    refine ⟨by simp only [digitsOnly, isEmpty_cons]; simpa using h.1.2, ?_, h.2⟩
    simpa using h.1.1

lemma signedInteger_unsigned (hd : digitsOnly ds)
    (hz : ds.head? ≠ some '0') (hb : natOfDigits ds < 2 ^ 256) :
    signedInteger.unsigned value ds = setString value := by
  simp only [digitsOnly, Bool.and_eq_true, Bool.not_eq_true', isEmpty_eq_false_iff] at hd
  unfold signedInteger.unsigned
  rw [if_neg]
  rintro (h | h | h | h)
  · exact hd.1 (List.head?_eq_none_iff.mp h)
  · exact hz h
  · rw [hd.2] at h; cases h
  · omega

lemma signedInteger_of_positive (h : positiveInteger value) :
    signedInteger value = some (natOfDigits value.toList : ℤ) := by
  obtain ⟨hd, hz, hb⟩ := positiveInteger_digits h
  unfold signedInteger
  split
  · rename_i hs; rw [hs] at hd; simp [digitsOnly] at hd
  · rename_i ds hs; rw [hs] at hd; simp [digitsOnly] at hd
  · rw [signedInteger_unsigned hd hz hb, setString_of_digits hd]

lemma signedInteger_neg_of_positive (h : positiveInteger value) :
    signedInteger ("-" ++ value) = some (-(natOfDigits value.toList : ℤ)) := by
  obtain ⟨hd, hz, hb⟩ := positiveInteger_digits h
  have hs : ("-" ++ value).toList = '-' :: value.toList := by rw [String.toList_append]; rfl
  unfold signedInteger
  rw [hs]
  exact (signedInteger_unsigned hd hz hb).trans (setString_neg hd)

/-- An accepted signed text is canonical and parses to the returned integer. -/
lemma signedInteger_canonical (h : signedInteger value = some n) :
    canonicalSign value ∧ setString value = some n := by
  have key : ∀ ds, signedInteger.unsigned value ds = some n →
      digitsOnly ds ∧ setString value = some n := by
    intro ds hu
    unfold signedInteger.unsigned at hu
    split at hu
    · cases hu
    · rename_i hc
      push Not at hc
      refine ⟨?_, hu⟩
      obtain ⟨h₁, -, h₃, -⟩ := hc
      have hne : ds ≠ [] := fun h0 => h₁ (by simp [h0])
      simp only [digitsOnly, Bool.and_eq_true, Bool.not_eq_true', isEmpty_eq_false_iff]
      exact ⟨hne, by simpa using h₃⟩
  unfold signedInteger at h
  unfold canonicalSign
  split at h
  · cases h
  · rename_i ds hs
    simpa [hs] using key _ h
  · rename_i hne₁ hne₂
    split
    · rename_i ds' hs'
      exact absurd hs' (hne₂ ds')
    · exact key _ h

lemma positiveInteger_of_unsigned
    (h : signedInteger.unsigned value ds = some n) : positiveInteger (String.ofList ds) := by
  unfold signedInteger.unsigned at h
  split at h
  · cases h
  · rename_i hc
    push Not at hc
    obtain ⟨h₁, h₂, h₃, h₄⟩ := hc
    unfold positiveInteger
    rw [String.toList_ofList]
    cases ds with
    | nil => exact absurd rfl h₁
    | cons d ds =>
      simp only [Bool.and_eq_true, decide_eq_true_eq]
      exact ⟨⟨fun hd => h₂ (by rw [List.head?_cons, hd]), by simpa using h₃⟩, h₄⟩

lemma signedInteger_flipSign (h : signedInteger value = some n) :
    signedInteger (flipSign value) = some (-n) := by
  obtain ⟨hsign, hset⟩ := signedInteger_canonical h
  have hflip := setString_flipSign hsign
  rw [hset] at hflip
  have key : ∃ m, signedInteger (flipSign value) = some m := by
    unfold signedInteger at h
    split at h
    · cases h
    · rename_i ds hs
      have hv : value = "-" ++ String.ofList ds := by
        apply String.toList_inj.mp
        rw [String.toList_append, hs]; simp
      rw [hv, flipSign_neg]
      exact ⟨_, signedInteger_of_positive (positiveInteger_of_unsigned h)⟩
    · have hpos := positiveInteger_of_unsigned h
      rw [String.ofList_toList] at hpos
      rw [flipSign_of_digits (positiveInteger_digits hpos).1]
      exact ⟨_, signedInteger_neg_of_positive hpos⟩
  obtain ⟨m, hm⟩ := key
  have := (signedInteger_canonical hm).2
  rw [hflip] at this
  rw [hm]
  exact this.symm

end FlowOps

import FlowOps.Common.Evm
import FlowOps.Pkg.Pattern

/-!
# Hexadecimal texts

`"0x" + hex.EncodeToString(b)` of a byte string of known length is the number of its
bytes in hexadecimal, padded to twice the length. Encoding is a bijection between the
numbers below `16 ^ len` and the texts that `hexPattern len` accepts.
-/

namespace FlowOps

open List

variable {len m n : ℕ} {s : String}

/-- The last `len` hexadecimal digits of `n`, most significant first. -/
def hexDigits : ℕ → ℕ → List Char
  | 0, _ => []
  | len + 1, n => Nat.digitChar (n / 16 ^ len % 16) :: hexDigits len n

/-- The text of a number in `len` hexadecimal digits. -/
def hexString (len n : ℕ) : String := "0x" ++ String.ofList (hexDigits len n)

@[simp] lemma length_hexDigits (len n : ℕ) : (hexDigits len n).length = len := by
  induction len with
  | zero => rfl
  | succ len ih => rw [hexDigits, length_cons, ih]

lemma lowerHex_digitChar : ∀ v < 16, lowerHex (Nat.digitChar v) := by decide

lemma digitChar_injective : ∀ v < 16, ∀ w < 16, Nat.digitChar v = Nat.digitChar w → v = w := by
  decide

lemma exists_digitChar {c : Char} (h : lowerHex c) : ∃ v < 16, Nat.digitChar v = c := by
  have hc : Char.ofNat c.toNat = c := Char.ofNat_toNat c
  have hrange : (48 ≤ c.toNat ∧ c.toNat ≤ 57) ∨ (97 ≤ c.toNat ∧ c.toNat ≤ 102) := by
    simp only [lowerHex, Char.isDigit, Bool.or_eq_true, Bool.and_eq_true, decide_eq_true_eq] at h
    exact h
  generalize c.toNat = n at hc hrange
  subst hc
  rcases hrange with ⟨h₁, h₂⟩ | ⟨h₁, h₂⟩ <;> interval_cases n <;> decide

lemma all_hexDigits (len n : ℕ) : (hexDigits len n).all lowerHex := by
  induction len with
  | zero => rfl
  | succ len ih =>
    rw [hexDigits, all_cons, ih, lowerHex_digitChar _ (Nat.mod_lt _ (by decide))]
    rfl

lemma hexDigits_add (len k n r : ℕ) : hexDigits len (k * 16 ^ (len + r) + n) = hexDigits len n := by
  induction len generalizing r with
  | zero => rfl
  | succ len ih =>
    have hpow : k * 16 ^ (len + 1 + r) = k * 16 ^ r * 16 * 16 ^ len := by ring
    have hdigit : (k * 16 ^ (len + 1 + r) + n) / 16 ^ len % 16 = n / 16 ^ len % 16 := by
      rw [hpow, add_comm, Nat.add_mul_div_right _ _ (by positivity), Nat.add_mul_mod_self_right]
    have hrest := ih (r + 1)
    rw [show len + (r + 1) = len + 1 + r by omega] at hrest
    rw [hexDigits, hexDigits, hdigit, hrest]

lemma hexDigits_mod (len n : ℕ) : hexDigits len (n % 16 ^ len) = hexDigits len n := by
  have h := hexDigits_add len (n / 16 ^ len) (n % 16 ^ len) 0
  rw [Nat.add_zero, Nat.div_add_mod'] at h
  exact h.symm

lemma hexDigits_injective (h : hexDigits len m = hexDigits len n) (hm : m < 16 ^ len)
    (hn : n < 16 ^ len) : m = n := by
  induction len generalizing m n with
  | zero => omega
  | succ len ih =>
    have hdiv : ∀ {x}, x < 16 ^ (len + 1) → x / 16 ^ len < 16 := fun {x} hx =>
      Nat.div_lt_of_lt_mul (by rwa [pow_succ] at hx)
    simp only [hexDigits, List.cons.injEq, Nat.mod_eq_of_lt (hdiv hm), Nat.mod_eq_of_lt (hdiv hn)] at h
    have hhigh := digitChar_injective _ (hdiv hm) _ (hdiv hn) h.1
    have hlow : m % 16 ^ len = n % 16 ^ len :=
      ih (by rw [hexDigits_mod, hexDigits_mod, h.2]) (Nat.mod_lt _ (by positivity))
        (Nat.mod_lt _ (by positivity))
    rw [← Nat.div_add_mod m (16 ^ len), ← Nat.div_add_mod n (16 ^ len), hhigh, hlow]

lemma exists_hexDigits {ds : List Char} (hlen : ds.length = len)
    (h : ds.all lowerHex) : ∃ n < 16 ^ len, hexDigits len n = ds := by
  induction ds generalizing len with
  | nil =>
    subst hlen
    exact ⟨0, by simp, rfl⟩
  | cons d ds ih =>
    subst hlen
    simp only [all_cons, Bool.and_eq_true] at h
    obtain ⟨v, hv, rfl⟩ := exists_digitChar h.1
    obtain ⟨n, hn, hds⟩ := ih rfl h.2
    generalize hlen : ds.length = len at hn hds
    refine ⟨v * 16 ^ len + n, ?_, ?_⟩
    · have hlt : v * 16 ^ len + n < (v + 1) * 16 ^ len := by rw [Nat.add_mul]; omega
      have hle : (v + 1) * 16 ^ len ≤ 16 * 16 ^ len := Nat.mul_le_mul_right _ hv
      rw [length_cons, hlen, pow_succ]
      omega
    · have hdigit : (v * 16 ^ len + n) / 16 ^ len % 16 = v := by
        rw [add_comm, Nat.add_mul_div_right _ _ (by positivity), Nat.div_eq_of_lt hn, Nat.zero_add,
          Nat.mod_eq_of_lt hv]
      have hrest : hexDigits len (v * 16 ^ len + n) = ds := (hexDigits_add len v n 0).trans hds
      rw [length_cons, hlen, hexDigits, hdigit, hrest]

lemma toList_hexString (len n : ℕ) : (hexString len n).toList = '0' :: 'x' :: hexDigits len n := by
  simp [hexString]

lemma hexPattern_hexString (len n : ℕ) : hexPattern len (hexString len n) := by
  simp [hexPattern, toList_hexString, all_hexDigits]

lemma hexString_injective (h : hexString len m = hexString len n)
    (hm : m < 16 ^ len) (hn : n < 16 ^ len) : m = n := by
  have := congrArg String.toList h
  rw [toList_hexString, toList_hexString] at this
  simp only [List.cons.injEq, true_and] at this
  exact hexDigits_injective this hm hn

lemma exists_hexString (h : hexPattern len s) : ∃ n < 16 ^ len, hexString len n = s := by
  unfold hexPattern at h
  split at h
  · rename_i ds hs
    simp only [Bool.and_eq_true, decide_eq_true_eq] at h
    obtain ⟨n, hn, hds⟩ := exists_hexDigits h.1 h.2
    refine ⟨n, hn, String.toList_inj.mp ?_⟩
    rw [toList_hexString, hds, hs]
  · cases h

/-! ## Words and addresses -/

open Evm

def addressText (a : Address) : String := hexString 40 a.toNat

def wordText (w : Bytes32) : String := hexString 64 w.toNat

/-- The digits of a word, as a digest prints them. -/
def wordDigits (w : Bytes32) : Hex64 :=
  ⟨String.ofList (hexDigits 64 w.toNat), by simp, by rw [String.toList_ofList]; exact all_hexDigits ..⟩

lemma hash_wordDigits (w : Bytes32) : (wordDigits w).hash = wordText w := rfl

lemma addressPattern_addressText (a : Address) : addressPattern (addressText a) :=
  hexPattern_hexString 40 a.toNat

lemma hashPattern_wordText (w : Bytes32) : hashPattern (wordText w) :=
  hexPattern_hexString 64 w.toNat

lemma addressText_injective : Function.Injective addressText := by
  intro a b h
  have hlt : ∀ x : Address, x.toNat < 16 ^ 40 := fun x => x.isLt
  exact BitVec.eq_of_toNat_eq (hexString_injective h (hlt a) (hlt b))

lemma wordText_injective : Function.Injective wordText := by
  intro v w h
  have hlt : ∀ x : Bytes32, x.toNat < 16 ^ 64 := fun x => x.isLt
  exact BitVec.eq_of_toNat_eq (hexString_injective h (hlt v) (hlt w))

lemma exists_wordText (h : hashPattern s) : ∃ w, wordText w = s := by
  obtain ⟨n, hn, hs⟩ := exists_hexString h
  exact ⟨BitVec.ofNatLT n hn, hs⟩

lemma wordText_zero : wordText 0 = zeroHash := by decide

lemma wordText_eq_zeroHash {w : Bytes32} : wordText w = zeroHash ↔ w = 0 := by
  rw [← wordText_zero]
  exact wordText_injective.eq_iff

end FlowOps

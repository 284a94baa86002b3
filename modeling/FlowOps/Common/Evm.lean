import Mathlib.Tactic

/-!
# Words, addresses and assets of the EVM

`address` and `bytes32` are bit vectors. `abi.encode` of static values is the
concatenation of their 32-byte words (`abiEncode`), which is injective.

An ERC-20 asset without fees or callbacks is its balances: a transfer moves exactly
the stated amount, and is refused if the balance is too small or for a reason of the
asset's own (an allowance, a blocklist), which the caller of `transfer` supplies.
-/

namespace FlowOps.Evm

open Function

variable {timestamp : ℕ}

/-- `address`. -/
abbrev Address := BitVec 160

/-- `bytes32`. -/
abbrev Bytes32 := BitVec 256

/-! ## ABI encoding -/

/-- The 32 bytes of a word, most significant first. -/
def toBytes (w : Bytes32) : List (BitVec 8) :=
  (List.range 32).map fun i => w.extractLsb' (8 * (31 - i)) 8

/-- `abi.encode` of static values. -/
def abiEncode (ws : List Bytes32) : List (BitVec 8) := ws.flatMap toBytes

def textBytes (s : String) : List (BitVec 8) :=
  (s.toList.flatMap String.utf8EncodeChar).map UInt8.toBitVec

/-- For a literal: the bytes are then evaluated without decoding it. -/
lemma textBytes_ofList (cs : List Char) : textBytes (.ofList cs) =
    (cs.flatMap String.utf8EncodeChar).map UInt8.toBitVec := by
  rw [textBytes, String.toList_ofList]

/-- A stand-in for `keccak256` in runs that are evaluated: an odd number, with the bytes as
its digits. -/
def sampleHash (bytes : List (BitVec 8)) : Bytes32 :=
  .ofNat 256 (2 * bytes.foldr (fun b n => b.toNat + 257 * n) 1 + 1)

lemma sampleHash_ne_zero (bytes : List (BitVec 8)) : sampleHash bytes ≠ 0 := by
  intro h
  have hzero : (sampleHash bytes).toNat = 0 := by rw [h]; rfl
  rw [sampleHash, BitVec.toNat_ofNat] at hzero
  omega

/-- An `address` as a word. -/
def addressWord (a : Address) : Bytes32 := a.setWidth 256

/-- A `uintN` or `bool` as a word. -/
def natWord (n : ℕ) : Bytes32 := BitVec.ofNat 256 n

/-- A `bytes4` as a word: it is left-aligned. -/
def bytes4Word (b : BitVec 32) : Bytes32 := b.setWidth 256 <<< 224

def selectorBytes (b : BitVec 32) : List (BitVec 8) :=
  (List.range 4).map fun i => b.extractLsb' (8 * (3 - i)) 8

/-- `abi.encode` of a dynamic array, after its offset: the length and the items. -/
def arrayWords (ws : List Bytes32) : List Bytes32 := natWord ws.length :: ws

/-! ## Time -/

/-- `uint64(block.timestamp)`. -/
def uint64 (timestamp : ℕ) : UInt64 := UInt64.ofNat timestamp

lemma toNat_uint64 (h : timestamp < 2 ^ 64) : (uint64 timestamp).toNat = timestamp :=
  UInt64.toNat_ofNat_of_lt' h

/-- `uint64(block.timestamp) + delay`: the sum is checked. -/
def delayed (timestamp delay : ℕ) : Option UInt64 :=
  if 2 ^ 64 ≤ (uint64 timestamp).toNat + delay then none
  else some (UInt64.ofNat ((uint64 timestamp).toNat + delay))

lemma delayed_eq_some {delay : ℕ} {t : UInt64} : delayed timestamp delay = some t ↔
      (uint64 timestamp).toNat + delay = t.toNat := by
  unfold delayed
  split_ifs with h
  · have := t.toNat_lt
    simp only [false_iff]
    omega
  · rw [Option.some.injEq, ← UInt64.toNat_inj, UInt64.toNat_ofNat_of_lt' (Nat.not_le.mp h)]

/-! ## Assets -/

/-- `balances[src] -= amount; balances[dst] += amount`. -/
def moved (balance : Address → ℕ) (src dst : Address) (amount : ℕ) : Address → ℕ :=
  let balance := update balance src (balance src - amount)
  update balance dst (balance dst + amount)

/-- A transfer; `accepts` is the asset's own decision. -/
def transfer (balance : Address → ℕ) (accepts : Bool) (src dst : Address) (amount : ℕ) :
    Option (Address → ℕ) :=
  if accepts ∧ amount ≤ balance src then some (moved balance src dst amount) else none

variable {balance : Address → ℕ} {src dst : Address}

lemma transfer_eq_some {balance' : Address → ℕ} {accepts : Bool}
    {amount : ℕ} : transfer balance accepts src dst amount = some balance' ↔
      accepts ∧ amount ≤ balance src ∧ moved balance src dst amount = balance' := by
  simp [transfer, and_assoc]

lemma moved_dst {amount : ℕ} (h : dst ≠ src) :
    moved balance src dst amount dst = balance dst + amount := by
  simp [moved, update_of_ne h]

lemma moved_self {amount : ℕ} (h : amount ≤ balance src) :
    moved balance src src amount src = balance src := by
  simp only [moved, update_self]
  omega

/-- A transfer of an account to itself would not change its balance. -/
lemma ne_of_received {amount : ℕ} (hpaid : amount ≤ balance src) (hamount : amount ≠ 0)
    (h : moved balance src dst amount dst - balance dst = amount) : src ≠ dst := by
  rintro rfl
  rw [moved_self hpaid] at h
  omega

lemma le_moved_src (balance : Address → ℕ) (src dst : Address) (amount : ℕ) :
    balance src - amount ≤ moved balance src dst amount src := by
  by_cases h : src = dst
  · subst h
    simp [moved]
  · simp [moved, update_of_ne h]

end FlowOps.Evm

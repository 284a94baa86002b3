import FlowOps.Common.Dict

/-!
# Pots

A pot keeps one running total of what its entries are owed and holds at least that
much. Entries are opened when their amount comes in, changed without changing what they
are owed, and paid out.
-/

namespace FlowOps

variable {κ γ : Type} {owed : γ → ℕ} {entries : Dict κ γ} {total held held' : ℕ}

/-- `total` is what the entries are owed, and is held. -/
structure Solvent (owed : γ → ℕ) (entries : Dict κ γ) (total held : ℕ) : Prop where
  total_eq : total = Dict.sum (fun _ c => owed c) entries
  covered : total ≤ held

namespace Solvent

lemma empty (owed : γ → ℕ) (held : ℕ) : Solvent owed (∅ : Dict κ γ) 0 held :=
  ⟨rfl, Nat.zero_le _⟩

section

variable (h : Solvent owed entries total held)
include h

lemma mono (hheld : held ≤ held') : Solvent owed entries total held' :=
  ⟨h.total_eq, h.covered.trans hheld⟩

variable [DecidableEq κ] {k : κ} {c c' : γ}

lemma enter (hnone : entries.lookup k = none) (c : γ) :
    Solvent owed (entries.insert k c) (total + owed c) (held + owed c) := by
  refine ⟨?_, Nat.add_le_add_right h.covered _⟩
  rw [Dict.sum_insert_of_lookup_none hnone, h.total_eq, add_comm]

lemma keep (hc : entries.lookup k = some c)
    (hsame : owed c' = owed c) : Solvent owed (entries.insert k c') total held := by
  refine ⟨?_, h.covered⟩
  have hsum := Dict.sum_insert_of_lookup_some (f := fun _ c => owed c) (v := c') hc
  have := h.total_eq
  omega

lemma owed_le (hc : entries.lookup k = some c) : owed c ≤ total := by
  have hmem : owed c ∈ entries.entries.map fun e => owed e.2 :=
    List.mem_map.mpr ⟨⟨k, c⟩, AList.mem_lookup_iff.mp hc, rfl⟩
  rw [h.total_eq]
  exact List.le_sum_of_mem hmem

lemma pay (hc : entries.lookup k = some c) (hpaid : owed c' = 0) (hheld : held - owed c ≤ held') :
    Solvent owed (entries.insert k c') (total - owed c) held' := by
  have hsum := Dict.sum_insert_of_lookup_some (f := fun _ c => owed c) (v := c') hc
  have htotal := h.total_eq
  have hcovered := h.covered
  refine ⟨?_, ?_⟩ <;> omega

end

end Solvent

end FlowOps

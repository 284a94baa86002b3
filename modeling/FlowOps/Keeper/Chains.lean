import FlowOps.Keeper.NonceGaps

/-!
# Nonces on two chains

A gas payer has a sequence of nonces for each chain, but its jobs are `UNIQUE (gas_payer, nonce)`
whatever their chain: `AllocateNonce` is rolled back when a job on the other chain has the nonce
that is next on this one.

Results: `allocateNonce_ok_iff`, and `other_chain_blocks`, two runs that differ.
-/

namespace FlowOps.Keeper

open AList

variable {s : Store} {lease : Lease} {observed n : ℕ} {now : Time} {j : Job}

/-- A job of the gas payer on another chain has the nonce. -/
def Store.Elsewhere (s : Store) (j : Job) (n : ℕ) : Prop :=
  ∃ id k, s.jobs.lookup id = some k ∧ k.gasPayer = j.gasPayer ∧ k.chainID ≠ j.chainID ∧
    k.nonce = some n

/-- The jobs of the chain itself are below its sequence, so they do not stand in the way. -/
lemma Store.Sequenced.taken_iff (hs : s.Sequenced) (hn : s.nextNonce j.chainID j.gasPayer ≤ n) :
    s.jobs.entries.any (fun e => e.2.gasPayer = j.gasPayer && e.2.nonce = some n) ↔
      s.Elsewhere j n := by
  simp only [List.any_eq_true, Bool.and_eq_true, decide_eq_true_eq]
  constructor
  · rintro ⟨⟨id, k⟩, hmem, hpayer, hnonce⟩
    have hk : s.jobs.lookup id = some k := mem_lookup_iff.mpr hmem
    refine ⟨id, k, hk, hpayer, fun hchain => ?_, hnonce⟩
    have hbelow := hs.below id k n hk hnonce
    rw [hchain, hpayer] at hbelow
    omega
  · rintro ⟨id, k, hk, hpayer, -, hnonce⟩
    exact ⟨⟨id, k⟩, mem_lookup_iff.mp hk, hpayer, hnonce⟩

/-- `AllocateNonce` returns what the rows of the job's chain give it, unless a job of the gas payer
on another chain has that nonce. It writes the job and the sequence of its own chain. -/
theorem allocateNonce_ok_iff {P : Primitives} {services : ℕ → Service} {steps : List Step}
    (hs : s = (after P services steps).store) (hj : s.jobs.lookup lease.job.jobID = some j) :
    ((s.allocateNonce lease observed now).map (·.2) = .ok n ↔
      Gives lease observed now j (s.nextNonce j.chainID j.gasPayer) n ∧
        (j.nonce = none → ¬s.Elsewhere j n)) ∧
    ∀ s', s.allocateNonce lease observed now = .ok (s', n) →
      (∀ id, id ≠ lease.job.jobID → s'.jobs.lookup id = s.jobs.lookup id) ∧
        (∀ key, key ≠ (j.chainID, j.gasPayer) → s'.nextNonces.lookup key = s.nextNonces.lookup key) ∧
        s'.attempts = s.attempts := by
  have hσ := after_disciplined P services steps
  have hsound := hσ.sound
  have hsequenced := hσ.sequenced
  rw [← hs] at hsound hsequenced
  constructor
  · simp only [map_eq_ok, Prod.exists, allocateNonce_eq_ok, hj, Option.some.injEq, exists_eq_left']
    constructor
    · rintro ⟨s', _, ⟨hgives, h⟩, rfl⟩
      refine ⟨hgives, fun hnone => ?_⟩
      obtain ⟨-, hfree, -⟩ := h.resolve_left fun h => h.1 hnone
      rw [← hsequenced.taken_iff (hgives.next_le hnone), hfree]
      exact Bool.false_ne_true
    · rintro ⟨hgives, h⟩
      by_cases hnone : j.nonce = none
      · have hfree := h hnone
        rw [← hsequenced.taken_iff (hgives.next_le hnone), Bool.not_eq_true] at hfree
        exact ⟨_, n, ⟨hgives, .inr ⟨hnone, hfree, rfl⟩⟩, rfl⟩
      · exact ⟨s, n, ⟨hgives, .inl ⟨hnone, rfl⟩⟩, rfl⟩
  · intro s' h
    obtain ⟨k, hk, -, h⟩ := allocateNonce_eq_ok.mp h
    cases hj.symm.trans hk
    obtain ⟨-, rfl⟩ | ⟨-, -, rfl⟩ := h
    · exact ⟨fun _ _ => rfl, fun _ _ => rfl, rfl⟩
    · refine ⟨fun id hid => ?_, fun key hkey => lookup_insert_ne hkey, rfl⟩
      rw [← hsound.keyed _ j hj] at hid
      exact lookup_insert_ne hid

namespace Relay

def otherInput : EnqueueInput :=
  let otherID := "0x2222222222222222222222222222222222222222222222222222222222222222"
  { input with jobID := otherID, operationID := otherID, chainID := 84532 }

def chains (w : ℕ) : Service :=
  if w = 1 then { service with chainID := 84532, valid := by decide } else service

/-- Worker 1 claims the job of the other chain. -/
def claimed : List Step :=
  [.enqueue otherInput (clock 1), .work 1 (.claim otherInput.jobID "lease_1111111111" (clock 1))]

/-- Worker 0 has been given nonce 0 on this chain before. -/
def both : List Step :=
  .enqueue input (clock 1) :: allocates 0 "lease_0000000000" (clock 1) ++ claimed

/-- The job of the other chain asks for a nonce; its node reports `observed`. -/
def allocation (steps : List Step) (observed : ℕ) : Option (Except KeeperErr ℕ) :=
  let s := (after primitives chains steps).store
  (s.jobs.lookup otherInput.jobID).map fun job =>
    (s.allocateNonce ⟨job, "lease_1111111111"⟩ observed (clock 1)).map (·.2)

end Relay

/-- The gas payer has a job on the other chain as well, with another nonce. -/
theorem allocateNonce_ok_claimed : ∃ (s : Store) (lease : Lease) (j : Job),
    s = (after Relay.primitives Relay.chains Relay.both).store ∧
      s.jobs.lookup lease.job.jobID = some j ∧
      (s.jobs.lookup Relay.input.jobID).bind (·.nonce) = some 0 ∧
      Gives lease 1 (Relay.clock 1) j (s.nextNonce j.chainID j.gasPayer) 1 ∧
      (j.nonce = none → ¬s.Elsewhere j 1) := by
  have h : Relay.allocation Relay.both 1 = some (.ok 1) ∧
      ((after Relay.primitives Relay.chains Relay.both).store.jobs.lookup Relay.input.jobID).bind
        (·.nonce) = some 0 := by decide
  obtain ⟨h, hzero⟩ := h
  rw [Relay.allocation, Option.map_eq_some_iff] at h
  obtain ⟨j, hj, h⟩ := h
  rw [← (after_disciplined _ _ _).sound.keyed _ j hj] at hj
  exact ⟨_, _, j, rfl, hj, hzero, (allocateNonce_ok_iff rfl hj).1.mp h⟩

/-- The other chain's first nonce is refused once the gas payer has used it on this chain. -/
theorem other_chain_blocks : Relay.allocation Relay.claimed 0 = some (.ok 0) ∧
      Relay.allocation Relay.both 0 = some (.error .stateConflict) := by
  decide

end FlowOps.Keeper

import FlowOps.Reconciliation.Invariant
import FlowOps.Reconciliation.Status

/-!
# Accepted events of executions

An operation checks its arguments before it appends an event; `apply` checks the
event again. This module is about the events that carry an execution or a manual
ledger entry: `apply` accepts them, except a transaction outcome whose scan ends
before it began (`State.ScansForward`), which `RecordTransactionOutcome` writes and
`preserveBroadcastAttestation` rejects.

Results:
* `Writes.proven`: the execution an operation writes passes the checks on its proofs.
* `Writes.accepted_execution`: `apply` accepts the event.
-/

namespace FlowOps.Reconciliation

open Option

/-! ## The chain id -/

variable {P : Primitives} {cfg : Config} {s : State} {ev : JournalEvent}

section

variable {s₁ : State}

lemma applyBody_status_of_some {st : ChainStatus} (hb : ev.body.status = some st)
    (h : s.applyBody P cfg ev = .ok s₁) : s₁.status.chainID = st.chainID := by
  unfold State.applyBody at h
  cases hbody : ev.body with
  | chainStatus p =>
    rw [hbody] at h hb
    cases h
    cases hb
    unfold State.applyChain
    dsimp only
    split_ifs <;> rfl
  | executionResolved p | executionReorged p =>
    simp only [hbody, EventBody.status] at hb
    simp only [hbody, State.applyResolved, hb, elim_some, bind_eq_ok, Except.ok.injEq] at h
    obtain ⟨e, -, rfl⟩ := h
    rfl
  | escrow kind p =>
    simp only [hbody, EventBody.status] at hb
    simp only [hbody, State.storeEscrow, hb, elim_some, bind_eq_ok, Except.ok.injEq] at h
    obtain ⟨-, -, rfl⟩ := h
    rfl
  | _ => rw [hbody] at hb; cases hb

/-- The check on the chain id never fails for a status with the configured one. -/
lemma apply_of_body (hchain : s.status.chainID = cfg.chainID)
    (hstatus : ∀ st, ev.body.status = some st → st.chainID = cfg.chainID)
    (h : s.applyBody P cfg ev = .ok s₁) : s.apply P cfg ev = .ok (s₁.withChain cfg) := by
  refine apply_ok_iff.mpr ⟨s₁, h, .inr ?_, rfl⟩
  cases hb : ev.body.status with
  | none => rw [applyBody_status_of_none hb h]; exact hchain
  | some st => rw [applyBody_status_of_some hb h]; exact hstatus st hb

end

/-! ## Transaction recovery -/

/-- The block from which the scan for the transaction's outcome has to go on. -/
def State.scanStart (s : State) (id : String) : ℕ :=
  ((s.executions.lookup id).bind (·.transactionRecovery)).elim 1 (·.scanFromBlock)

/-- The scan of a reported outcome reaches the block at which it began. -/
def State.ScansForward (s : State) (id : String) (evidence : List TransactionOutcomeEvidence) :
    Prop :=
  ∀ o ∈ evidence, s.scanStart id ≤ o.throughBlock
deriving Decidable

section

variable {trusted : Option Checkpoint} {e : Execution} {evidence : List TransactionOutcomeEvidence}
  {c : TransactionOutcomeEvidence} {digest : String} {now : Time}

lemma OutcomeQuorum.mem (h : OutcomeQuorum cfg trusted e evidence c) : c ∈ evidence :=
  (sortByKey_perm (·.provider) evidence).mem_iff.mp (List.mem_of_mem_head? h.first)

lemma TransactionRecovery.validate_scan {r : TransactionRecovery} {x : ExpectedExecution}
    (h : r.validate x = .ok ()) : r.scanFromBlock ≠ 0 := by
  simp only [validate, guard_ok, not_or] at h
  exact h.1.1

/-- The first report of a quorum gives a recovery that passes the check, if its scan
goes forward. -/
lemma OutcomeQuorum.recovery_valid (h : OutcomeQuorum cfg trusted e evidence c) {scanFrom : ℕ}
    (hvalid : e.expected.validate cfg.chainID = .ok ()) (hdigest : hashPattern digest)
    (hzero : now.isZero = false) (hscan : scanFrom ≠ 0) (hforward : scanFrom ≤ c.throughBlock) :
    (c.recovery scanFrom digest now).validate e.expected = .ok () := by
  have hhash := (h.valid c h.mem).1
  have hshape := h.shape
  have hamount := (ExpectedExecution.validate_ok hvalid).2.2.2.2
  simp only [outcomeValid, Bool.and_eq_true] at hhash
  have hforward' := not_lt.mpr hforward
  unfold TransactionRecovery.validate TransactionOutcomeEvidence.recovery
  rcases hc : c.outcome with _ | _ | _ | _ | name <;> simp only [outcomeShape, hc] at hshape
  · simp only [noReplacement, Bool.and_eq_true, decide_eq_true_eq] at hshape
    simp [hdigest, hzero, hhash.2, hscan, hforward', TransactionRecovery.noReplacement, hshape]
  · simp only [noReplacement, Bool.and_eq_true, decide_eq_true_eq] at hshape
    simp [hdigest, hzero, hhash.2, hscan, hforward', TransactionRecovery.noReplacement, hshape]
  · simp only [replacementMined, Bool.and_eq_true, decide_eq_true_eq] at hshape
    simp [hdigest, hzero, hhash.2, hscan, hforward', TransactionRecovery.replacementMined, hshape,
      hamount]
  · simp only [replacementMined, Bool.and_eq_true, decide_eq_true_eq, Bool.not_eq_true',
      Bool.and_eq_false_iff, decide_eq_false_iff_not] at hshape
    simp [hdigest, hzero, hhash.2, hscan, hforward', TransactionRecovery.replacementMined, hshape]
    exact fun hr => hshape.2.resolve_left (not_not.mpr hr)
  · cases hshape

lemma OutcomeQuorum.pendingRecovery_eq (h : OutcomeQuorum cfg trusted e evidence c)
    (houtcome : c.outcome = .originalPending) : e.pendingRecovery c digest now =
      c.recovery ((e.transactionRecovery.map (·.scanFromBlock)).getD c.throughBlock) digest now := by
  have hshape := h.shape
  simp only [outcomeShape, houtcome, noReplacement, Bool.and_eq_true, decide_eq_true_eq] at hshape
  simp [Execution.pendingRecovery, TransactionOutcomeEvidence.recovery, houtcome, hshape]

end

/-! ## Executions -/

section

variable {ctx : Ctx} {op : Op} {d : Draft} {next : Execution}

lemma Writes.proven (hwf : s.WF P cfg) (hw : Writes P cfg ctx s op d) (hf : ev.Follows d)
    (hscans : ∀ id evidence, op = .recordTransactionOutcome id evidence → s.ScansForward id evidence)
    (hb : d.body.execution = some next) : next.Proven P.toCrypto := by
  cases hw with
  | register hop new => cases hb; exact Execution.validateProofs_ok_iff.mp new.proofs
  | settle accepted | revert accepted =>
    cases hb
    have hold := hwf.execution _ _ accepted.stored
    exact { hold.proven with hash := fun _ => (ExpectedExecution.validate_ok hold.valid).2.1 }
  | replace hop accepted =>
    cases hb
    have hold := hwf.execution _ _ accepted.stored
    have hhash := (TransactionRecovery.validate_replacement
      (hold.proven.recovered _ accepted.recovered) accepted.outcome).1
    exact { hold.proven with hash := fun _ => hhash, actor := fun _ => hop }
  | drop hop stored =>
    cases hb
    have hold := hwf.execution _ _ stored
    exact { hold.proven with
      hash := fun _ => (ExpectedExecution.validate_ok hold.valid).2.1, actor := fun _ => hop }
  | quarantine stored | finality stored => cases hb; exact { (hwf.execution _ _ stored).proven with }
  | @pendingOutcome id evidence e canonical digest stored quorum _ outcome =>
    cases hb
    have hold := hwf.execution _ _ stored
    obtain ⟨hquorum, hdigest⟩ := validateTransactionOutcomeQuorum_ok_iff.mp quorum
    have hforward := hscans id evidence rfl canonical hquorum.mem
    refine { hold.proven with recovered := ?_ }
    rintro r ⟨⟩
    rw [hquorum.pendingRecovery_eq outcome]
    unfold State.scanStart at hforward
    rw [stored, bind_some] at hforward
    refine hquorum.recovery_valid hold.valid (hdigest ▸ Hex64.hashPattern_hash _) hf.nonzero ?_ ?_
    · cases hr : e.transactionRecovery with
      | none => rw [hr] at hforward; exact Nat.pos_iff_ne_zero.mp hforward
      | some r => exact TransactionRecovery.validate_scan (hold.proven.recovered r hr)
    · cases hr : e.transactionRecovery with
      | none => exact le_rfl
      | some r => rw [hr] at hforward; exact hforward
  | @terminalOutcome id evidence e canonical digest r resolution stored quorum _ _ recovery _ scanned =>
    cases hb
    have hold := hwf.execution _ _ stored
    obtain ⟨hquorum, hdigest⟩ := validateTransactionOutcomeQuorum_ok_iff.mp quorum
    have hforward := hscans id evidence rfl canonical hquorum.mem
    unfold State.scanStart at hforward
    rw [stored, bind_some, recovery] at hforward
    refine { hold.proven with recovered := ?_ }
    rintro r ⟨⟩
    exact hquorum.recovery_valid hold.valid (hdigest ▸ Hex64.hashPattern_hash _) hf.nonzero scanned
      hforward
  | reopenSettled accepted | reopenReverted accepted =>
    cases hb; exact { (hwf.execution _ _ accepted.stored).proven with }
  | _ => cases hb

lemma preserveBroadcastAttestation_of_proven
    (hcarry : next.carryFrom (s.executions.lookup next.expected.executionID) = next)
    (hproven : next.Proven P.toCrypto) :
    s.preserveBroadcastAttestation P.toCrypto next = .ok next := by
  unfold State.preserveBroadcastAttestation
  dsimp only
  rw [hcarry]
  exact bind_unit_eq_ok.mpr ⟨Execution.validateProofs_ok_iff.mpr hproven, rfl⟩

lemma Writes.event_state (hw : Writes P cfg ctx s op d) :
    (∀ p, d.body = .executionBroadcast p → p.execution.unresolved) ∧
      ∀ p, d.body = .executionQuarantine p →
        p.execution.state = .quarantined ∧ s.executions.lookup d.key ≠ none := by
  cases hw with
  | register hop new =>
    refine ⟨fun p hp => ?_, by rintro p ⟨⟩⟩
    cases hp
    rcases new.state with ⟨hs, -⟩ | hs <;> simp [Execution.unresolved, hs]
  | pendingOutcome stored quorum unresolved =>
    exact ⟨by rintro p ⟨⟩; exact unresolved, by rintro p ⟨⟩⟩
  | quarantine stored | terminalOutcome stored =>
    refine ⟨by rintro p ⟨⟩, ?_⟩
    rintro p ⟨⟩
    exact ⟨rfl, by rw [stored]; simp⟩
  | _ => exact ⟨by rintro p ⟨⟩, by rintro p ⟨⟩⟩

lemma Writes.hash_separate (hwf : s.WF P cfg) (hw : Writes P cfg ctx s op d)
    (hb : d.body.execution = some next) :
    s.escrowByHash.lookup next.expected.transactionHash = none := by
  obtain ⟨-, ⟨-, -, new⟩ | ⟨e, hstored, hkeeps⟩⟩ := hw.keeps hwf.execution hb
  · have := new.free
    simp only [State.hashTaken, Bool.or_eq_false_iff] at this
    simpa using this.2
  · rw [hkeeps.expected]
    exact hwf.separate _ _ (hwf.hashed _ _ hstored)

lemma Writes.applyBroadcast (hwf : s.WF P cfg) (hw : Writes P cfg ctx s op d)
    (hb : d.body.execution = some next) (hproven : next.Proven P.toCrypto) {q : Bool}
    (hopen : q = false → next.unresolved)
    (hclosed : q → next.state = .quarantined ∧ s.executions.lookup d.key ≠ none) :
    ∃ s₁, s.applyBroadcast P.toCrypto d.key q next = .ok s₁ := by
  have hkeeps := hw.keeps hwf.execution hb
  have hsame : (s.executions.lookup d.key).any (fun c =>
      c.expected ≠ next.expected || c.broadcastAt ≠ next.broadcastAt) = false := by
    obtain ⟨hkey, ⟨-, -, new⟩ | ⟨e, hstored, hkeep⟩⟩ := hkeeps
    · rw [hkey, new.fresh]; rfl
    · rw [hstored]; simp [hkeep.expected, hkeep.broadcastAt]
  have hunresolved : q = false → ¬(next.state ≠ .broadcast ∧ next.state ≠ .pendingChainRecovery) := by
    intro hq
    have := hopen hq
    simp only [Execution.unresolved, Bool.or_eq_true, decide_eq_true_eq] at this
    tauto
  unfold State.applyBroadcast
  rw [preserveBroadcastAttestation_of_proven (hw.carryFrom hwf.execution hb) hproven]
  refine ⟨_, guard_ok.mpr ⟨not_not.mpr hkeeps.1, guard_ok.mpr ⟨by rw [hsame]; decide,
    guard_ok.mpr ⟨fun h => hunresolved h.1 h.2, guard_ok.mpr ⟨fun h => ?_,
    guard_ok.mpr ⟨by rw [hw.hash_separate hwf hb]; decide, rfl⟩⟩⟩⟩⟩⟩
  rcases h.2 with hnone | hstate
  · exact (hclosed h.1).2 hnone
  · exact hstate (hclosed h.1).1

lemma Writes.accepted_execution (hwf : s.WF P cfg) (hok : s.status.OK cfg)
    (hw : Writes P cfg ctx s op d) (hf : ev.Follows d)
    (hscans : ∀ id evidence, op = .recordTransactionOutcome id evidence → s.ScansForward id evidence)
    (hb : d.body.execution = some next) : ∃ s', s.apply P cfg ev = .ok s' := by
  have hproven := hw.proven hwf hf hscans hb
  have hbody : ∃ s₁, s.applyBody P cfg ev = .ok s₁ := by
    unfold State.applyBody
    rw [hf.body, hf.key]
    obtain ⟨hopen, hclosed⟩ := hw.event_state
    cases hd : d.body with
    | executionBroadcast p =>
      rw [hd] at hb
      cases hb
      exact hw.applyBroadcast hwf (by rw [hd]; rfl) hproven (fun _ => hopen p hd) (by rintro ⟨⟩)
    | executionQuarantine p =>
      rw [hd] at hb
      cases hb
      exact hw.applyBroadcast hwf (by rw [hd]; rfl) hproven (by rintro ⟨⟩) (fun _ => hclosed p hd)
    | executionResolved p | executionReorged p =>
      have hb' := hb
      rw [hd] at hb'
      cases hb'
      exact ⟨_, bind_eq_ok.mpr ⟨_, preserveBroadcastAttestation_of_proven
        (hw.carryFrom hwf.execution hb) hproven, rfl⟩⟩
    | _ => rw [hd] at hb; cases hb
  obtain ⟨s₁, hs₁⟩ := hbody
  exact ⟨_, apply_of_body hwf.chain (fun st hst =>
    (hw.status hok (hf.body ▸ hst)).chainID hok.chain) hs₁⟩

end

end FlowOps.Reconciliation

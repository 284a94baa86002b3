import FlowOps.Reconciliation.Machine

/-!
# What an operation can write

`Writes P cfg ctx s op d`: in state `s` the operation `op` appends the event
drafted as `d`, with what its checks have established. There is one
constructor for each kind of change; operations that make the same change share it.
Every later proof about a step of the engine is a case analysis on `Writes` and
never unfolds an operation.

Results: `plan_writes` and `next_writes`, the two halves of an operation.
-/

namespace FlowOps.Reconciliation

open Option

/-! ## Registrations -/

/-- The execution a registration names. -/
def Op.registers : Op → Option ExpectedExecution
  | .registerBroadcast expected => some expected
  | .registerAttestedBroadcast expected _ => some expected
  | .registerX402Settlement expected _ => some expected
  | _ => none

/-- What a registration writes for an execution that is not stored yet. -/
structure NewExecution (P : Crypto) (cfg : Config) (s : State) (now : Time) (e : Execution) :
    Prop where
  valid : e.expected.validate cfg.chainID = .ok ()
  fresh : s.executions.lookup e.expected.executionID = none
  free : s.hashTaken e.expected = false
  proofs : e.validateProofs P = .ok ()
  state : (e.state = .broadcast ∧ s.chainUsable cfg now) ∨ e.state = .pendingChainRecovery
  unresolved : e.resolvedAt = none ∧ e.resolvedTransactionHash = "" ∧ e.ledgerTransactionID = "" ∧
    e.correctionTransactionID = ""

def Op.intent : Op → Option EscrowIntent
  | .registerEscrowIntent intent => some intent
  | .registerAttestedEscrowBroadcast intent _ _ => some intent
  | _ => none

/-- The candidate an operation registers: organization, call, candidate,
attestation and the time of registration. -/
def Op.candidate (ctx : Ctx) : Op →
    Option (String × String × EscrowTransitionCandidate × Option EscrowBroadcastAttestation × Time)
  | .registerEscrowTransition org callID candidate => some (org, callID, candidate, none, ctx.now 0)
  | .registerAttestedEscrowBroadcast intent candidate attestation =>
    some (intent.organizationID, intent.callID, candidate, some attestation, ctx.now 1)
  | _ => none

/-- The checks on a candidate for the next transition of a call. -/
structure NewPending (P : Crypto) (s : State) (organizationID callID : String)
    (candidate : EscrowTransitionCandidate) (attestation : Option EscrowBroadcastAttestation)
    (call : EscrowCall) (receipt : EscrowExpectedReceipt) : Prop where
  stored : s.escrowCalls.lookup callID = some call
  organization : call.intent.organizationID = organizationID
  fresh : ∀ t ∈ call.transitions, t.expected.transactionHash ≠ candidate.transactionHash
  settled : call.revertWatched = false
  expected : expectedEscrowTransition P call candidate = .ok receipt
  attested : ∀ a, attestation = some a →
    a.validate P receipt = .ok () ∧ a.validateIntent call.intent = .ok ()
  pending : call.pending = none
  free : ∀ other, s.escrowByHash.lookup receipt.transactionHash = some other → other = callID
  direct : s.executionByHash.lookup receipt.transactionHash = none

/-! ## Resolutions -/

/-- The checks of `ReconcileReceipt` before it looks at the outcome. -/
structure ReceiptAccepted (cfg : Config) (s : State) (now : Time) (id : String) (e : Execution)
    (evidence : List ReceiptEvidence) (canonical : ReceiptEvidence) : Prop where
  stored : s.executions.lookup id = some e
  open_ : e.state ≠ .settled ∧ e.state ≠ .reverted ∧ e.state ≠ .quarantined
  live : s.status.state ≠ .halted ∧ s.status.state ≠ .suspectedStall ∧
    trustedFresh cfg s.status.lastTrusted now
  quorum : validateReceiptQuorum cfg s.status.lastTrusted e.expected evidence = .ok canonical
  moved : e.reorgEvidenceDigest ≠ "" → canonical.blockNumber = e.blockNumber →
    canonical.blockHash ≠ e.blockHash

/-- The checks of `ReconcileProvenReplacementForOrganization`. -/
structure ReplacementAccepted (cfg : Config) (s : State) (now : Time) (organizationID id : String)
    (e : Execution) (recovery : TransactionRecovery) (evidence : List ReceiptEvidence)
    (canonical : ReceiptEvidence) (t : LedgerTransaction) : Prop where
  stored : s.executions.lookup id = some e
  organization : e.expected.organizationID = organizationID
  state : e.state = .quarantined
  recovered : e.transactionRecovery = some recovery
  outcome : recovery.outcome = .expectedReplacement
  usable : s.chainUsable cfg now
  quorum : validateReceiptQuorum cfg s.status.lastTrusted
    { e.expected with transactionHash := recovery.replacementTransaction } evidence = .ok canonical
  success : canonical.success
  settlement : s.checkSettlement "replacement " id organizationID t = .ok ()

/-- The checks that both reopenings of an execution share. -/
structure ReopenAccepted (cfg : Config) (s : State) (now : Time) (id : String) (e : Execution)
    (evidence : List ReorgEvidence) (canonical : ReorgEvidence) : Prop where
  stored : s.executions.lookup id = some e
  live : s.reorgBlocked cfg now = false
  quorum : validateCanonicalBlockQuorum cfg s.status.lastTrusted e.blockTarget
    (canonicalReorgEvidence evidence) true = .ok canonical

/-- The checks of an escrow receipt for the pending transition. -/
structure EscrowReceiptAccepted (cfg : Config) (s : State) (now : Time) (callID : String)
    (call : EscrowCall) (pending : EscrowTransition) (evidence : List EscrowReceiptEvidence)
    (canonical : EscrowReceiptEvidence) : Prop where
  stored : s.escrowCalls.lookup callID = some call
  live : s.status.finalizationPaused = false ∧ s.status.state ≠ .suspectedStall ∧
    trustedFresh cfg s.status.lastTrusted now
  awaited : call.pending = some pending
  quorum : validateEscrowReceiptQuorum cfg s.status.lastTrusted pending.expected evidence =
    .ok canonical
  later : ∀ last, call.transitions.getLast? = some last → last.blockNumber ≤ canonical.blockNumber

/-- The checks of a canonical-block quorum about one transition of a call. -/
structure TransitionChecked (cfg : Config) (s : State) (now : Time) (callID hash : String)
    (call : EscrowCall) (pre : List EscrowTransition) (t : EscrowTransition)
    (post : List EscrowTransition) (evidence : List ReorgEvidence) (changed : Bool)
    (canonical : ReorgEvidence) : Prop where
  stored : s.escrowCalls.lookup callID = some call
  split : splitTransitions hash call.transitions = some (pre, t, post)
  resolved : t.state = .confirmed ∨ t.state = .reverted
  live : s.status.finalizationPaused = false ∧ trustedFresh cfg s.status.lastTrusted now
  quorum : validateCanonicalBlockQuorum cfg s.status.lastTrusted t.blockTarget evidence changed =
    .ok canonical

/-! ## Writes -/

inductive Writes (P : Primitives) (cfg : Config) (ctx : Ctx) (s : State) : Op → Draft → Prop where
  | observe {observations} :
    Writes P cfg ctx s (.observe observations)
      { eventAt := ctx.now 0, key := "snapshot:" ++ toString (ctx.now 0).unixNano
        body := .chainStatus
          { status := observeStatus cfg s (ctx.now 0) observations, observations } }
  | halt {operator reason} (hop : identifierPattern operator) :
    Writes P cfg ctx s (.forceHalt operator reason)
      { eventAt := ctx.now 0, key := "manual-halt:" ++ operator
        body := .chainStatus { status := haltStatus s (ctx.now 0) reason, operator } }
  | resume {operator} (hop : identifierPattern operator)
      (ready : s.recoveryReady cfg (ctx.now 1)) :
    Writes P cfg ctx s (.resume operator)
      { eventAt := ctx.now 2, key := "manual-resume:" ++ operator
        body := .chainStatus { status := resumeStatus s (ctx.now 2) operator, operator } }
  | register {op e} (hop : op.registers = some e.expected)
      (new : NewExecution P.toCrypto cfg s (ctx.now 0) e) :
    Writes P cfg ctx s op
      { eventAt := ctx.now 0, key := e.expected.executionID
        body := .executionBroadcast { execution := e } }
  | settle {id evidence t e canonical}
      (accepted : ReceiptAccepted cfg s (ctx.now 0) id e evidence canonical)
      (success : canonical.success)
      (settlement : s.checkSettlement "" id e.expected.organizationID t = .ok ()) :
    Writes P cfg ctx s (.reconcileReceipt id evidence (some t))
      { eventAt := ctx.now 0, key := id
        body := .executionResolved
          { execution := e.settledBy canonical (ctx.now 0) t, evidence, ledger := some t } }
  | revert {id evidence e canonical}
      (accepted : ReceiptAccepted cfg s (ctx.now 0) id e evidence canonical)
      (failed : canonical.success = false) :
    Writes P cfg ctx s (.reconcileReceipt id evidence none)
      { eventAt := ctx.now 0, key := id
        body := .executionResolved { execution := e.revertedBy canonical (ctx.now 0), evidence } }
  | replace {org id operator evidence t e recovery canonical}
      (hop : identifierPattern operator)
      (accepted : ReplacementAccepted cfg s (ctx.now 0) org id e recovery evidence canonical t) :
    Writes P cfg ctx s (.reconcileProvenReplacement org id operator evidence t)
      { eventAt := ctx.now 0, key := id
        body := .executionResolved
          { execution := e.replacedBy recovery canonical (ctx.now 0) operator t
            evidence, ledger := some t } }
  | drop {org id operator e recovery} (hop : identifierPattern operator)
      (stored : s.executions.lookup id = some e) (hstate : e.state = .quarantined)
      (hrecovery : e.transactionRecovery = some recovery) (outcome : recovery.outcome = .dropped)
      (usable : s.chainUsable cfg (ctx.now 0))
      (deep : buried s.status.lastTrusted recovery.throughBlock cfg.reorgLookback) :
    Writes P cfg ctx s (.resolveProvenDrop org id operator)
      { eventAt := ctx.now 0, key := id
        body := .executionResolved
          { execution := e.droppedBy recovery (ctx.now 0) operator
              ((s.status.lastTrusted.map (·.blockNumber)).getD 0) } }
  | quarantine {scope id operator reason e} (stored : s.executions.lookup id = some e)
      (unresolved : e.unresolved) :
    Writes P cfg ctx s (.quarantine scope id operator reason)
      { eventAt := ctx.now 0, key := id
        body := .executionQuarantine
          { execution := e.quarantinedBy operator reason (ctx.now 0) } }
  | pendingOutcome {id evidence e canonical digest} (stored : s.executions.lookup id = some e)
      (quorum : validateTransactionOutcomeQuorum P cfg s.status.lastTrusted e evidence =
        .ok (canonical, digest))
      (unresolved : e.unresolved) (outcome : canonical.outcome = .originalPending)
      (nonce : ∀ r, e.transactionRecovery = some r → r.nonce = canonical.nonce) :
    Writes P cfg ctx s (.recordTransactionOutcome id evidence)
      { eventAt := ctx.now 0, key := id
        body := .executionBroadcast
          { execution := { e with
              transactionRecovery := some (e.pendingRecovery canonical digest (ctx.now 0)) } } }
  | terminalOutcome {id evidence e canonical digest r resolution}
      (stored : s.executions.lookup id = some e)
      (quorum : validateTransactionOutcomeQuorum P cfg s.status.lastTrusted e evidence =
        .ok (canonical, digest))
      (unresolved : e.unresolved) (outcome : canonical.outcome ≠ .originalPending)
      (recovery : e.transactionRecovery = some r) (nonce : r.nonce = canonical.nonce)
      (scanned : r.scanFromBlock ≠ 0) :
    Writes P cfg ctx s (.recordTransactionOutcome id evidence)
      { eventAt := ctx.now 0, key := id
        body := .executionQuarantine
          { execution := e.withTerminalOutcome
              (canonical.recovery r.scanFromBlock digest (ctx.now 0)) resolution (ctx.now 0) } }
  | reopenSettled {id evidence correction e canonical}
      (accepted : ReopenAccepted cfg s (ctx.now 0) id e evidence canonical)
      (hstate : e.state = .settled) (kind : correction.kind = .correction)
      (reverses : correction.reversesTransactionID = e.ledgerTransactionID)
      (bound : correction.organizationID = e.expected.organizationID ∧ correction.referenceID = id)
      (valid : correction.validate = .ok ())
      (corrects : validateCorrection s.ledger correction = .ok ())
      (fresh : s.ledger.lookup correction.transactionID = none) :
    Writes P cfg ctx s (.reopenReorg id evidence correction)
      { eventAt := ctx.now 0, key := id
        body := .executionReorged
          { execution := e.correctedBy (digestReorgEvidence P evidence) correction
            ledger := some correction, reorg := canonicalReorgEvidence evidence
            status := some (s.reopenedStatus (ctx.now 0)
              "canonical reorg evidence reopened a settled execution") } }
  | reopenReverted {id evidence e canonical}
      (accepted : ReopenAccepted cfg s (ctx.now 0) id e evidence canonical)
      (hstate : e.state = .reverted) :
    Writes P cfg ctx s (.reopenRevertedReorg id evidence)
      { eventAt := ctx.now 0, key := id
        body := .executionReorged
          { execution := e.reopened (digestReorgEvidence P evidence)
              "canonical reorg removed the prior reverted receipt; outcome requires reconciliation"
            reorg := canonicalReorgEvidence evidence
            status := some (s.reopenedStatus (ctx.now 0)
              "canonical reorg evidence reopened a reverted execution") } }
  | finality {id evidence e canonical} (stored : s.executions.lookup id = some e)
      (resolved : e.state = .settled ∨ e.state = .reverted)
      (quorum : validateCanonicalBlockQuorum cfg s.status.lastTrusted e.blockTarget evidence false =
        .ok canonical)
      (unchecked : e.finalityCheckedAt = none) :
    Writes P cfg ctx s (.confirmFinality id evidence)
      { eventAt := ctx.now 0, key := id
        body := .executionResolved
          { execution := e.finalizedAt (ctx.now 0) canonical.observedHead, reorg := evidence } }
  | post {t} (valid : t.validate = .ok ()) (fresh : s.ledger.lookup t.transactionID = none)
      (manual : chainDependent t.kind = false)
      (corrects : t.kind = .correction → validateCorrection s.ledger t = .ok ()) :
    Writes P cfg ctx s (.post t)
      { eventAt := ctx.now 0, key := t.transactionID, body := .ledgerPosted t }
  | escrowIntent {op intent} (hop : op.intent = some intent)
      (valid : intent.validate P.toCrypto = .ok ()) (chain : intent.chainID = cfg.chainID)
      (deployment : deploymentMatches cfg intent)
      (fresh : s.escrowCalls.lookup intent.callID = none)
      (free : s.authorizationTaken intent = false) :
    Writes P cfg ctx s op
      { eventAt := ctx.now 0, key := intent.callID
        body := .escrow .intent { call := intent.newCall (ctx.now 0) } }
  | escrowPending {op org callID candidate attestation now call expected}
      (hop : op.candidate ctx = some (org, callID, candidate, attestation, now))
      (new : NewPending P.toCrypto s org callID candidate attestation call expected) :
    Writes P cfg ctx s op
      { eventAt := now, key := callID
        body := .escrow .pending
          { call := { call with pending := some (s.newPending cfg now expected attestation) } } }
  | escrowRevert {callID evidence call pending canonical}
      (accepted : EscrowReceiptAccepted cfg s (ctx.now 0) callID call pending evidence canonical)
      (failed : canonical.success = false) :
    Writes P cfg ctx s (.reconcileEscrowTransition callID evidence)
      { eventAt := ctx.now 0, key := callID
        body := .escrow .resolved
          { call := call.resolve call.state (pending.revertedBy P canonical evidence (ctx.now 0))
            evidence } }
  | escrowConfirm {callID evidence call pending canonical ledger}
      (accepted : EscrowReceiptAccepted cfg s (ctx.now 0) callID call pending evidence canonical)
      (success : canonical.success)
      (hledger : ledger = escrowLedger P call.intent
        (pending.confirmedBy P canonical evidence (ctx.now 0)) (ctx.now 0))
      (agrees : ∀ t, ledger = some t → s.ledgerConflict t = false) :
    Writes P cfg ctx s (.reconcileEscrowTransition callID evidence)
      { eventAt := ctx.now 0, key := callID
        body := .escrow .resolved
          { call := call.resolve (nextEscrowState pending.expected.action)
              ((pending.confirmedBy P canonical evidence (ctx.now 0)).bindTo ledger)
            evidence, ledgers := ledger.toList } }
  | escrowFinality {callID hash evidence call pre t post canonical}
      (checked : TransitionChecked cfg s (ctx.now 0) callID hash call pre t post evidence false
        canonical)
      (unchecked : t.finalityCheckedAt = none) :
    Writes P cfg ctx s (.confirmEscrowFinality callID hash evidence)
      { eventAt := ctx.now 0, key := callID
        body := .escrow .resolved
          { call := { call with
              transitions := pre ++ t.finalizedAt (ctx.now 0) canonical.observedHead :: post }
            reorg := evidence } }
  | escrowReorg {callID hash evidence call pre t post canonical removed ledgers reason}
      (checked : TransitionChecked cfg s (ctx.now 0) callID hash call pre t post evidence true
        canonical)
      (loop : foldCheck (removeTransition P s.ledger call.intent canonical.canonicalBlockHash
        (ctx.now 0)) ([], []) (removedSuffix t post) = .ok (removed, ledgers)) :
    Writes P cfg ctx s (.reopenEscrowReorg callID hash evidence)
      { eventAt := ctx.now 0, key := callID
        body := .escrow .reorged
          { call := call.quarantinedWith (pre ++ removed ++ keptSuffix t post)
            reorg := evidence, ledgers
            status := some (s.status.reopened (ctx.now 0) reason) } }

/-! ## Inversion of the operations -/

section

open Plan

variable {P : Primitives} {cfg : Config} {ctx : Ctx} {s : State} {w : Write} {org callID : String}
  {evidence : List ReorgEvidence} {expected : ExpectedExecution} {id : String}
  {attestation : EscrowBroadcastAttestation} {candidate : EscrowTransitionCandidate}
  {intent : EscrowIntent}

lemma registerBroadcast_writes (h : registerBroadcast cfg ctx s expected = .write w) :
    Writes P cfg ctx s (.registerBroadcast expected) w.draft := by
  simp only [registerBroadcast, check_unit_eq_write] at h
  obtain ⟨hvalid, h⟩ := h
  split at h
  · simp at h
  · rename_i hfresh
    simp only [ite_refuse_eq_write, registerExecution, write_eq_write,
      Bool.not_eq_true, Bool.not_eq_false] at h
    obtain ⟨hfree, husable, rfl⟩ := h
    refine .register (e := { expected, state := .broadcast, broadcastAt := ctx.now 0 }) rfl
      ⟨hvalid, hfresh, hfree, ?_, .inl ⟨rfl, husable⟩, rfl, rfl, rfl, rfl⟩
    rw [Execution.validateProofs_ok_iff]
    constructor <;> simp

lemma State.initialState_cases (cfg : Config) (s : State) (now : Time) :
    (s.initialState cfg now = .broadcast ∧ s.chainUsable cfg now) ∨
      s.initialState cfg now = .pendingChainRecovery := by
  unfold initialState
  cases h : s.chainUsable cfg now <;> simp

lemma registerAttestedBroadcast_writes {attestation : BroadcastAttestation}
    (h : registerAttestedBroadcast P.toCrypto cfg ctx s expected attestation = .write w) :
    Writes P cfg ctx s (.registerAttestedBroadcast expected attestation) w.draft := by
  simp only [registerAttestedBroadcast, check_unit_eq_write] at h
  obtain ⟨hvalid, hatt, h⟩ := h
  split at h
  · simp at h
  · rename_i hfresh
    simp only [ite_refuse_eq_write, registerExecution, write_eq_write, Bool.not_eq_true] at h
    obtain ⟨hfree, rfl⟩ := h
    refine .register (e := { expected, state := _, broadcastAt := _, broadcastAttestation := _ })
      rfl ⟨hvalid, hfresh, hfree, ?_, s.initialState_cases cfg (ctx.now 0), rfl, rfl, rfl, rfl⟩
    rw [Execution.validateProofs_ok_iff]
    constructor <;> simp [hatt]

lemma registerX402Settlement_writes {claim : X402SettlementClaim}
    (h : registerX402Settlement P.toCrypto cfg ctx s expected claim = .write w) :
    Writes P cfg ctx s (.registerX402Settlement expected claim) w.draft := by
  simp only [registerX402Settlement, check_unit_eq_write] at h
  obtain ⟨hvalid, hclaim, h⟩ := h
  split at h
  · simp at h
  · rename_i hfresh
    simp only [ite_refuse_eq_write, registerExecution, write_eq_write, Bool.not_eq_true] at h
    obtain ⟨hfree, rfl⟩ := h
    refine .register (e := { expected, state := _, broadcastAt := _, x402SettlementClaim := _ })
      rfl ⟨hvalid, hfresh, hfree, ?_, s.initialState_cases cfg (ctx.now 0), rfl, rfl, rfl, rfl⟩
    rw [Execution.validateProofs_ok_iff]
    constructor <;> simp [hclaim]

lemma reconcileReceipt_writes {evidence : List ReceiptEvidence}
    {settlement : Option LedgerTransaction}
    (h : reconcileReceipt cfg ctx s id evidence settlement = .write w) :
    Writes P cfg ctx s (.reconcileReceipt id evidence settlement) w.draft := by
  simp only [reconcileReceipt, find_eq_write] at h
  obtain ⟨e, hstored, h⟩ := h
  by_cases hdone : e.state = .settled ∨ e.state = .reverted
  · rw [if_pos hdone] at h
    simp at h
  rw [if_neg hdone] at h
  simp only [check_eq_write, ite_refuse_eq_write] at h
  obtain ⟨hq, hlive, canonical, hquorum, hmoved, h⟩ := h
  push Not at hdone hlive hmoved
  have accepted : ReceiptAccepted cfg s (ctx.now 0) id e evidence canonical :=
    ⟨hstored, ⟨hdone.1, hdone.2, hq⟩, ⟨hlive.1, hlive.2.1, by simpa using hlive.2.2⟩, hquorum,
      hmoved⟩
  by_cases hsuccess : canonical.success
  · rw [if_pos hsuccess] at h
    simp only [find_eq_write, check_unit_eq_write, resolveExecution, write_eq_write] at h
    obtain ⟨t, rfl, hset, rfl⟩ := h
    exact .settle accepted hsuccess hset
  · rw [if_neg hsuccess] at h
    simp only [ite_refuse_eq_write, resolveExecution, write_eq_write] at h
    obtain ⟨hnone, rfl⟩ := h
    have : settlement = none := by simpa using hnone
    subst this
    exact .revert accepted (by simpa using hsuccess)

lemma quarantine_writes {scope : Option String} {id operator reason : String}
    (h : quarantine ctx s scope id operator reason = .write w) :
    Writes P cfg ctx s (.quarantine scope id operator reason) w.draft := by
  simp only [quarantine, ite_refuse_eq_write, find_eq_write, quarantineExecution,
    write_eq_write] at h
  obtain ⟨-, -, e, hstored, -, hstate, rfl⟩ := h
  push Not at hstate
  refine .quarantine hstored ?_
  simp only [Execution.unresolved, Bool.or_eq_true, decide_eq_true_eq]
  by_cases hb : e.state = .broadcast
  · exact .inl hb
  · exact .inr (by by_contra hp; exact hb (hstate hp))

lemma reopenReorg_writes {correction : LedgerTransaction}
    (h : reopenReorg P cfg ctx s id evidence correction = .write w) :
    Writes P cfg ctx s (.reopenReorg id evidence correction) w.draft := by
  simp only [reopenReorg, find_eq_write] at h
  obtain ⟨e, hstored, h⟩ := h
  by_cases hrepeat : e.state = .pendingChainRecovery ∧ e.correctionTransactionID ≠ ""
  · rw [if_pos hrepeat] at h
    split at h <;> cases h
  rw [if_neg hrepeat] at h
  simp only [check_eq_write, ite_refuse_eq_write, reopenExecution, write_eq_write] at h
  obtain ⟨hstate, hlive, canonical, hquorum, hbound, _, hvalid, _, hcorrects, hfresh, rfl⟩ := h
  push Not at hstate hbound
  exact .reopenSettled ⟨hstored, by simpa using hlive, hquorum⟩ hstate.1 hbound.1 hbound.2.1
    hbound.2.2 hvalid hcorrects (by simpa using hfresh)

lemma reopenRevertedReorg_writes (h : reopenRevertedReorg P cfg ctx s id evidence = .write w) :
    Writes P cfg ctx s (.reopenRevertedReorg id evidence) w.draft := by
  simp only [reopenRevertedReorg, find_eq_write, check_eq_write,
    ite_refuse_eq_write, ite_answer_eq_write, reopenExecution, write_eq_write] at h
  obtain ⟨e, hstored, -, hstate, hlive, canonical, hquorum, rfl⟩ := h
  push Not at hstate
  exact .reopenReverted ⟨hstored, by simpa using hlive, hquorum⟩ hstate.1

lemma confirmFinality_writes (h : confirmFinality cfg ctx s id evidence = .write w) :
    Writes P cfg ctx s (.confirmFinality id evidence) w.draft := by
  simp only [confirmFinality, find_eq_write, check_eq_write, ite_refuse_eq_write] at h
  obtain ⟨e, hstored, hstate, -, canonical, hquorum, h⟩ := h
  by_cases hdone : e.finalityCheckedAt ≠ none
  · rw [if_pos hdone] at h
    split at h <;> cases h
  rw [if_neg hdone] at h
  simp only [ite_refuse_eq_write, write_eq_write] at h
  obtain ⟨-, rfl⟩ := h
  refine .finality hstored ?_ hquorum (not_not.mp hdone)
  by_contra hnot
  push Not at hnot
  exact hstate hnot

lemma post_writes {t : LedgerTransaction} (h : post ctx s t = .write w) :
    Writes P cfg ctx s (.post t) w.draft := by
  simp only [post, check_unit_eq_write] at h
  obtain ⟨hvalid, h⟩ := h
  split at h
  · split at h <;> cases h
  · rename_i hfresh
    simp only [ite_refuse_eq_write, check_unit_eq_write, write_eq_write] at h
    obtain ⟨hmanual, hcorrects, rfl⟩ := h
    exact .post hvalid hfresh (by simpa using hmanual) fun hk => by simpa [hk] using hcorrects

lemma recordTransactionOutcome_writes {evidence : List TransactionOutcomeEvidence}
    (h : recordTransactionOutcome P cfg ctx s id evidence = .write w) :
    Writes P cfg ctx s (.recordTransactionOutcome id evidence) w.draft := by
  simp only [recordTransactionOutcome, find_eq_write, check_eq_write,
    ite_refuse_eq_write, ite_answer_eq_write, Bool.not_eq_false] at h
  obtain ⟨e, hstored, ⟨canonical, digest⟩, hquorum, -, hunresolved, h⟩ := h
  by_cases hout : canonical.outcome = .originalPending
  · rw [if_pos hout] at h
    simp only [recordPending, ite_refuse_eq_write, write_eq_write] at h
    obtain ⟨hnonce, rfl⟩ := h
    refine .pendingOutcome hstored hquorum hunresolved hout fun r hr => ?_
    simpa [hr] using hnonce
  · rw [if_neg hout] at h
    simp only [recordTerminal, find_eq_write, quarantineExecution, write_eq_write,
      filter_eq_some_iff, Bool.and_eq_true, decide_eq_true_eq] at h
    obtain ⟨r, ⟨hr, hnonce, hscan⟩, resolution, -, rfl⟩ := h
    exact .terminalOutcome hstored hquorum hunresolved hout hr hnonce hscan

lemma resolveProvenDrop_writes {id operator : String}
    (h : resolveProvenDrop cfg ctx s org id operator = .write w) :
    Writes P cfg ctx s (.resolveProvenDrop org id operator) w.draft := by
  simp only [resolveProvenDrop, ite_refuse_eq_write, find_eq_write, filter_eq_some_iff] at h
  obtain ⟨hop, e, ⟨hstored, -⟩, h⟩ := h
  by_cases hdone : e.state = .dropped
  · rw [if_pos hdone] at h
    split at h <;> cases h
  rw [if_neg hdone] at h
  simp only [ite_refuse_eq_write, find_eq_write, filter_eq_some_iff,
    decide_eq_true_eq, resolveExecution, write_eq_write] at h
  obtain ⟨hstate, recovery, ⟨hrecovery, hout⟩, hlive, rfl⟩ := h
  push Not at hop hlive
  exact .drop (by simpa using hop.2) hstored (not_not.mp hstate) hrecovery hout
    (by simpa using hlive.1) (by simpa using hlive.2)

lemma reconcileProvenReplacement_writes {id operator : String}
    {evidence : List ReceiptEvidence} {t : LedgerTransaction}
    (h : reconcileProvenReplacement cfg ctx s org id operator evidence t = .write w) :
    Writes P cfg ctx s (.reconcileProvenReplacement org id operator evidence t) w.draft := by
  simp only [reconcileProvenReplacement, ite_refuse_eq_write, find_eq_write,
    filter_eq_some_iff, decide_eq_true_eq, Bool.not_eq_false] at h
  obtain ⟨hop, e, ⟨hstored, horg⟩, hstate, recovery, ⟨hrecovery, hout⟩, husable, h⟩ := h
  split at h
  · cases h
  · rename_i canonical hquorum
    simp only [ite_refuse_eq_write, check_unit_eq_write, resolveExecution,
      write_eq_write, Bool.not_eq_false] at h
    obtain ⟨hsuccess, hset, rfl⟩ := h
    push Not at hop
    exact .replace (by simpa using hop.2)
      ⟨hstored, horg, not_not.mp hstate, hrecovery, hout, husable, hquorum, hsuccess, hset⟩

lemma registerEscrowIntent_writes
    (h : registerEscrowIntent P.toCrypto cfg ctx s intent = .write w) :
    Writes P cfg ctx s (.registerEscrowIntent intent) w.draft := by
  simp only [registerEscrowIntent, check_unit_eq_write, ite_refuse_eq_write, Bool.not_eq_false] at h
  obtain ⟨hvalid, hchain, hdep, h⟩ := h
  split at h
  · split at h <;> cases h
  · rename_i hfresh
    simp only [ite_refuse_eq_write, writeEscrow, write_eq_write, Bool.not_eq_true] at h
    obtain ⟨hfree, -, -, rfl⟩ := h
    exact .escrowIntent rfl hvalid (not_not.mp hchain) hdep hfresh hfree

lemma registerAttestedIntent_write
    (h : registerAttestedIntent P.toCrypto cfg (ctx.now 0) s intent candidate attestation =
      .write w) :
    attestation.validateIntent intent = .ok () ∧
      w.draft.body = .escrow .intent { call := intent.newCall (ctx.now 0) } ∧
      Writes P cfg ctx s (.registerAttestedEscrowBroadcast intent candidate attestation)
        w.draft := by
  simp only [registerAttestedIntent, check_eq_write, ite_refuse_eq_write] at h
  obtain ⟨_, hvalid, _, hintent, -, -, _, -, hdep, h⟩ := h
  push Not at hdep
  split at h
  · split at h <;> cases h
  · rename_i hfresh
    simp only [ite_refuse_eq_write, writeEscrow, write_eq_write, Bool.not_eq_true] at h
    obtain ⟨hfree, rfl⟩ := h
    exact ⟨hintent, rfl, .escrowIntent rfl hvalid hdep.1 (by simpa using hdep.2) hfresh hfree⟩

lemma registerAttestedIntent_answer {now : Time} {r : Reply}
    (h : registerAttestedIntent P.toCrypto cfg now s intent candidate attestation = .answer r) :
    attestation.validateIntent intent = .ok () ∧
      ∃ call, s.escrowCalls.lookup intent.callID = some call ∧ call.intent = intent := by
  simp only [registerAttestedIntent, check_eq_answer, ite_refuse_eq_answer] at h
  obtain ⟨_, -, _, hintent, -, -, _, -, -, h⟩ := h
  split at h
  · rename_i call hcall
    obtain ⟨hsame, -⟩ := ite_refuse_eq_answer.mp h
    exact ⟨hintent, call, hcall, not_not.mp hsame⟩
  · simp [ite_refuse_eq_answer, writeEscrow] at h

/-- What a candidate that is written has passed. The intent of an attested
candidate is checked in the first half of the operation. -/
lemma registerEscrowTransition_new {now refresh : Time}
    {attestation : Option EscrowBroadcastAttestation}
    (h : registerEscrowTransition P.toCrypto cfg now refresh s org callID candidate attestation =
      .write w)
    (hintent : ∀ a call, attestation = some a → s.escrowCalls.lookup callID = some call →
      a.validateIntent call.intent = .ok ()) :
    ∃ call expected, NewPending P.toCrypto s org callID candidate attestation call expected ∧
      w.draft = { eventAt := now, key := callID
                  body := .escrow .pending
                    { call := { call with
                        pending := some (s.newPending cfg now expected attestation) } } } := by
  simp only [registerEscrowTransition, find_eq_write, filter_eq_some_iff, decide_eq_true_eq] at h
  obtain ⟨call, ⟨hstored, horg⟩, h⟩ := h
  split at h
  · unfold repeatedCandidate at h
    split_ifs at h
  · rename_i hnew
    simp only [ite_refuse_eq_write, check_eq_write, Bool.not_eq_true] at h
    obtain ⟨hwatched, expected, hexp, _, hatt, h⟩ := h
    split at h
    · split_ifs at h
    · rename_i hpending
      simp only [ite_refuse_eq_write, writeEscrow, write_eq_write] at h
      obtain ⟨hfree, hdirect, rfl⟩ := h
      have hatt' := checkSome_eq_ok.mp hatt
      refine ⟨call, expected, ⟨hstored, horg, fun t ht => ?_, hwatched, hexp, fun a ha => ?_,
        hpending, fun other ho => ?_, by simpa using hdirect⟩, rfl⟩
      · simpa using List.find?_eq_none.mp hnew t ht
      · exact ⟨hatt' a ha, hintent a call ha hstored⟩
      · simpa [ho] using hfree

lemma reconcileEscrowTransition_writes {evidence : List EscrowReceiptEvidence}
    (h : reconcileEscrowTransition P cfg ctx s callID evidence = .write w) :
    Writes P cfg ctx s (.reconcileEscrowTransition callID evidence) w.draft := by
  simp only [reconcileEscrowTransition, find_eq_write, ite_refuse_eq_write] at h
  obtain ⟨call, hstored, hlive, h⟩ := h
  push Not at hlive
  split at h
  · simp only [repeatedReceipt, find_eq_write, check_eq_write, ite_refuse_eq_write,
      reduceCtorEq, and_false, exists_false] at h
  · rename_i pending hpending
    simp only [check_eq_write, ite_refuse_eq_write] at h
    obtain ⟨canonical, hquorum, hlater, h⟩ := h
    have accepted : EscrowReceiptAccepted cfg s (ctx.now 0) callID call pending evidence
        canonical := by
      refine ⟨hstored, ⟨by simpa using hlive.1, hlive.2.1, by simpa using hlive.2.2⟩, hpending,
        hquorum, fun last hlast => ?_⟩
      simpa [hlast] using hlater
    by_cases hsuccess : canonical.success = false
    · rw [if_pos hsuccess] at h
      simp only [writeEscrow, write_eq_write] at h
      subst h
      exact .escrowRevert accepted hsuccess
    · rw [if_neg hsuccess] at h
      simp only [ite_refuse_eq_write, writeEscrow, write_eq_write] at h
      obtain ⟨hagrees, rfl⟩ := h
      have hfree : ∀ t, escrowLedger P call.intent
          (pending.confirmedBy P canonical evidence (ctx.now 0)) (ctx.now 0) = some t →
          s.ledgerConflict t = false := fun t ht => by simpa [ht] using hagrees
      exact @Writes.escrowConfirm P cfg ctx s callID evidence call pending canonical _ accepted
        (by simpa using hsuccess) rfl hfree

lemma State.escrowTransition_eq_some {hash : String} {call : EscrowCall}
    {split : List EscrowTransition × EscrowTransition × List EscrowTransition} :
    s.escrowTransition callID hash = some (call, split) ↔ s.escrowCalls.lookup callID = some call ∧
        splitTransitions hash call.transitions = some split := by
  simp only [escrowTransition, bind_eq_some_iff, map_eq_some_iff, Prod.mk.injEq]
  constructor
  · rintro ⟨c, hc, sp, hsp, rfl, rfl⟩; exact ⟨hc, hsp⟩
  · rintro ⟨hc, hsp⟩; exact ⟨call, hc, split, hsp, rfl, rfl⟩

lemma confirmEscrowFinality_writes {hash : String}
    (h : confirmEscrowFinality cfg ctx s callID hash evidence = .write w) :
    Writes P cfg ctx s (.confirmEscrowFinality callID hash evidence) w.draft := by
  simp only [confirmEscrowFinality, find_eq_write, ite_refuse_eq_write] at h
  obtain ⟨⟨call, pre, t, post⟩, hsplit, hresolved, h⟩ := h
  obtain ⟨hstored, hsplit⟩ := State.escrowTransition_eq_some.mp hsplit
  by_cases hdone : t.finalityCheckedAt ≠ none
  · rw [if_pos hdone] at h
    split at h <;> cases h
  rw [if_neg hdone] at h
  simp only [ite_refuse_eq_write, check_eq_write, writeEscrow, write_eq_write] at h
  obtain ⟨hlive, canonical, hquorum, rfl⟩ := h
  push Not at hlive
  refine .escrowFinality ⟨hstored, hsplit, ?_, ⟨by simpa using hlive.1, by simpa using hlive.2⟩,
    hquorum⟩ (not_not.mp hdone)
  exact or_iff_not_imp_left.mpr (by simpa [EscrowTransition.isResolved] using hresolved)

lemma reopenEscrowReorg_writes {hash : String}
    (h : reopenEscrowReorg P cfg ctx s callID hash evidence = .write w) :
    Writes P cfg ctx s (.reopenEscrowReorg callID hash evidence) w.draft := by
  simp only [reopenEscrowReorg, find_eq_write, ite_refuse_eq_write, check_eq_write,
    writeEscrow, write_eq_write] at h
  obtain ⟨⟨call, pre, t, post⟩, hsplit, hresolved, hlive, canonical, hquorum, ⟨removed, ledgers⟩,
    hloop, rfl⟩ := h
  obtain ⟨hstored, hsplit⟩ := State.escrowTransition_eq_some.mp hsplit
  push Not at hlive
  refine .escrowReorg ⟨hstored, hsplit, ?_, ⟨by simpa using hlive.1, by simpa using hlive.2⟩,
    hquorum⟩ hloop
  exact or_iff_not_imp_left.mpr (by simpa [EscrowTransition.isResolved] using hresolved)

lemma plan_writes {op : Op} (h : op.plan P cfg ctx s = .write w) :
    Writes P cfg ctx s op w.draft := by
  cases op with
  | observe observations =>
    simp only [Op.plan, Reconciliation.observe, write_eq_write] at h
    subst h
    exact .observe
  | forceHalt operator reason =>
    simp only [Op.plan, Reconciliation.forceHalt, ite_refuse_eq_write,
      write_eq_write, Bool.not_eq_false] at h
    obtain ⟨hop, -, rfl⟩ := h
    exact .halt hop
  | resume operator =>
    simp only [Op.plan, Reconciliation.resume, ite_refuse_eq_write, ite_answer_eq_write,
      write_eq_write, Bool.not_eq_false] at h
    obtain ⟨hop, -, hready, rfl⟩ := h
    exact .resume hop hready
  | registerBroadcast => exact registerBroadcast_writes h
  | registerAttestedBroadcast => exact registerAttestedBroadcast_writes h
  | registerX402Settlement => exact registerX402Settlement_writes h
  | reconcileReceipt => exact reconcileReceipt_writes h
  | quarantine => exact quarantine_writes h
  | reopenReorg => exact reopenReorg_writes h
  | reopenRevertedReorg => exact reopenRevertedReorg_writes h
  | confirmFinality => exact confirmFinality_writes h
  | post => exact post_writes h
  | recordTransactionOutcome => exact recordTransactionOutcome_writes h
  | resolveProvenDrop => exact resolveProvenDrop_writes h
  | reconcileProvenReplacement => exact reconcileProvenReplacement_writes h
  | registerEscrowIntent => exact registerEscrowIntent_writes h
  | registerAttestedEscrowBroadcast => exact (registerAttestedIntent_write h).2.2
  | registerEscrowTransition org callID candidate =>
    obtain ⟨call, expected, hnew, hdraft⟩ := registerEscrowTransition_new h
      (fun a _ ha => by cases ha)
    rw [hdraft]
    exact .escrowPending rfl hnew
  | reconcileEscrowTransition => exact reconcileEscrowTransition_writes h
  | confirmEscrowFinality => exact confirmEscrowFinality_writes h
  | reopenEscrowReorg => exact reopenEscrowReorg_writes h

end

end FlowOps.Reconciliation

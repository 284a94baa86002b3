import Mathlib
import FlowOps.Reconciliation.Engine

/-!
# Chain, execution and ledger operations

The plans of the operations of engine.go and recovery.go, in the source's order
of checks. The status of a call and the stored records are cloned in the source
where it updates them; values need no clone here.
-/

namespace FlowOps.Reconciliation

/-! ## Chain status -/

section

variable (cfg : Config) (ctx : Ctx) (s : State)

/-- The healthy branch of `Observe` (engine.go:168-189). -/
def observeHealthy (now : Time) (checkpoint : Checkpoint) (status : ChainStatus) : ChainStatus :=
  let status := match status.state with
    | .healthy =>
      { status with
        reason := "independent Base observers agree on canonical progression"
        consecutiveUnhealthy := 0 }
    | .suspectedStall | .halted =>
      { status with
        state := .recovering
        stateChangedAt := now
        reason := "canonical progression resumed; reconciliation and manual release remain required"
        consecutiveUnhealthy := 0
        consecutiveRecovery := 1 }
    | .recovering =>
      { status with
        consecutiveRecovery := status.consecutiveRecovery + 1
        reason := "recovery observations agree; manual release remains required" }
  let status :=
    if status.state = .recovering ∧ cfg.recoveryObservations ≤ status.consecutiveRecovery ∧
        s.unresolvedCount = 0 then
      { status with
        readyForManualResume := true
        reason := "recovery stability reached and all ambiguous executions resolved or quarantined" }
    else status
  if status.lastTrusted.all (fun t => decide (t.blockNumber < checkpoint.blockNumber ∨
      (checkpoint.blockNumber = t.blockNumber ∧ checkpoint.blockHash = t.blockHash))) = true then
    { status with lastTrusted := some checkpoint }
  else status

/-- The unhealthy branch of `Observe` (engine.go:190-212). -/
def observeUnhealthy (now : Time) (reason : String) (status : ChainStatus) : ChainStatus :=
  let status := match status.state with
    | .healthy =>
      { status with
        state := .suspectedStall, stateChangedAt := now
        consecutiveUnhealthy := 1, consecutiveRecovery := 0 }
    | .suspectedStall =>
      let status := { status with consecutiveUnhealthy := status.consecutiveUnhealthy + 1 }
      if cfg.haltConfirmations ≤ status.consecutiveUnhealthy then
        { status with state := .halted, stateChangedAt := now }
      else status
    | .recovering =>
      { status with
        state := .halted, stateChangedAt := now
        consecutiveUnhealthy := 1, consecutiveRecovery := 0 }
    | .halted => { status with consecutiveUnhealthy := status.consecutiveUnhealthy + 1 }
  { status with reason }

/-- The status a snapshot is judged in: a stored HEALTHY status that is no longer
fresh is a suspected stall (engine.go:157-167). -/
def observeStart (status : ChainStatus) (now : Time) (observations : List Observation) :
    ChainStatus :=
  let next := { status with
    requiredObserverQuorum := cfg.observerQuorum
    respondingObservers := observations.length
    lastObservationAt := now }
  let next :=
    if next.state = .healthy ∧ trustedFresh cfg status.lastTrusted now = false then
      { next with
        state := .suspectedStall
        stateChangedAt := now
        reason := "observer heartbeat or trusted Base head expired before this snapshot"
        consecutiveUnhealthy := 1 }
    else next
  { next with readyForManualResume := false }

/-- The status `Observe` writes (engine.go:156-214). -/
def observeStatus (now : Time) (observations : List Observation) : ChainStatus :=
  let start := observeStart cfg s.status now observations
  let status := match evaluateSnapshot cfg s.status.lastTrusted now observations with
    | .ok checkpoint => observeHealthy cfg s now checkpoint start
    | .error reason => observeUnhealthy cfg now reason start
  { status.setPauseFlags with affectedExecutions := s.unresolvedCount }

/-- `Observe` (engine.go:152). -/
def observe (observations : List Observation) : Plan :=
  let now := ctx.now 0
  .write
    { draft :=
        { eventAt := now, key := "snapshot:" ++ toString now.unixNano
          body := .chainStatus { status := observeStatus cfg s now observations, observations } }
      refresh := some (ctx.now 1)
      reply := fun s => .status s.status }

/-- The status `ForceHalt` writes (engine.go:236-243). -/
def haltStatus (now : Time) (reason : String) : ChainStatus :=
  { ChainStatus.setPauseFlags { s.status with
      state := .halted
      stateChangedAt := now
      reason := "manual halt: " ++ reason
      consecutiveRecovery := 0
      readyForManualResume := false } with affectedExecutions := s.unresolvedCount }

/-- `ForceHalt` (engine.go:226). -/
def forceHalt (operator reason : String) : Plan :=
  if identifierPattern operator = false then .refuse .invalidOperator
  else if reason = "" ∨ 1024 < reason.utf8ByteSize then .refuse .invalidHaltReason
  else
    let now := ctx.now 0
    .write
      { draft :=
          { eventAt := now, key := "manual-halt:" ++ operator
            body := .chainStatus { status := haltStatus s now reason, operator } }
        refresh := some (ctx.now 1)
        reply := fun s => .status s.status }

/-- The status `Resume` writes (engine.go:268-274). -/
def resumeStatus (now : Time) (operator : String) : ChainStatus :=
  ChainStatus.setPauseFlags { s.status with
    state := .healthy
    stateChangedAt := now
    reason := "manual recovery release by " ++ operator
    consecutiveUnhealthy := 0
    readyForManualResume := false }

/-- `Resume` (engine.go:255). -/
def resume (cfg : Config) (ctx : Ctx) (s : State) (operator : String) : Plan :=
  if identifierPattern operator = false then .refuse .invalidOperator
  else if s.status.state = .healthy ∧ s.lastResumeOperator = operator ∧
      s.chainUsable cfg (ctx.now 0) then .answer (.status s.status)
  else if s.recoveryReady cfg (ctx.now 1) = false then .refuse .resumeBlocked
  else
    let now := ctx.now 2
    .write
      { draft :=
          { eventAt := now, key := "manual-resume:" ++ operator
            body := .chainStatus { status := resumeStatus s now operator, operator } }
        reply := fun s => .status s.status }

/-! ## Registration -/

/-- The hash of a new execution is bound to another execution or to an escrow
transition (engine.go:297-302). -/
def State.hashTaken (s : State) (expected : ExpectedExecution) : Bool :=
  (s.executionByHash.lookup expected.transactionHash).any (fun o => o ≠ expected.executionID) ||
    (s.escrowByHash.lookup expected.transactionHash).isSome

/-- Append a broadcast event for a new execution. -/
def registerExecution (eventAt : Time) (execution : Execution) : Plan :=
  .write
    { draft :=
        { eventAt, key := execution.expected.executionID
          body := .executionBroadcast { execution } }
      reply := fun _ => .execution execution }

/-- `RegisterBroadcast` (engine.go:285). -/
def registerBroadcast (expected : ExpectedExecution) : Plan :=
  .check (expected.validate cfg.chainID) fun () =>
    match s.executions.lookup expected.executionID with
    | some existing =>
      if existing.expected = expected then .answer (.execution existing) else .refuse .conflict
    | none =>
      if s.hashTaken expected then .refuse .conflict
      else
        let now := ctx.now 0
        if s.chainUsable cfg now = false then .refuse (s.status.unavailable cfg now)
        else registerExecution now { expected, state := .broadcast, broadcastAt := now }

/-- The state of an execution registered while the chain may be unhealthy. -/
def State.initialState (s : State) (now : Time) : ExecutionState :=
  if s.chainUsable cfg now = false then .pendingChainRecovery else .broadcast

/-- `RegisterAttestedBroadcast` (engine.go:323). -/
def registerAttestedBroadcast (P : Crypto) (cfg : Config) (ctx : Ctx) (s : State)
    (expected : ExpectedExecution) (attestation : BroadcastAttestation) : Plan :=
  .check (expected.validate cfg.chainID) fun () =>
  .check (attestation.validate P expected) fun () =>
    match s.executions.lookup expected.executionID with
    | some existing =>
      if existing.expected = expected then .answer (.execution existing) else .refuse .conflict
    | none =>
      if s.hashTaken expected then .refuse .conflict
      else
        let now := ctx.now 0
        registerExecution now
          { expected, state := s.initialState cfg now
            broadcastAt := Time.ofUnix attestation.signedReceipt.receipt.broadcastAt
            broadcastAttestation := some attestation }

/-- `RegisterX402Settlement` (engine.go:366). Unlike the other two, a repeated
registration also has to repeat the claim. -/
def registerX402Settlement (P : Crypto) (cfg : Config) (ctx : Ctx) (s : State)
    (expected : ExpectedExecution) (claim : X402SettlementClaim) : Plan :=
  .check (expected.validate cfg.chainID) fun () =>
  .check (claim.validate P expected) fun () =>
    match s.executions.lookup expected.executionID with
    | some existing =>
      if existing.expected = expected ∧ existing.x402SettlementClaim = some claim then
        .answer (.execution existing)
      else .refuse .conflict
    | none =>
      if s.hashTaken expected then .refuse .conflict
      else
        let now := ctx.now 0
        registerExecution now
          { expected, state := s.initialState cfg now, broadcastAt := now
            x402SettlementClaim := some claim }

/-! ## Resolution -/

/-- `resolvedRequestMatches` (engine.go:1137). -/
def State.resolvedRequestMatches (s : State) (e : Execution) (evidence : List ReceiptEvidence)
    (settlement : Option LedgerTransaction) : Bool :=
  match validateReceiptQuorum cfg s.status.lastTrusted e.expected evidence with
  | .error _ => false
  | .ok canonical =>
    if canonical.blockNumber ≠ e.blockNumber ∨ canonical.blockHash ≠ e.blockHash then false
    else if e.state = .reverted then !canonical.success && settlement.isNone
    else
      match settlement with
      | none => false
      | some t =>
        canonical.success && t.transactionID = e.ledgerTransactionID &&
          s.ledger.lookup t.transactionID = some t

/-- The stored transaction of this id, if any, is the same one. -/
def State.ledgerConflict (s : State) (t : LedgerTransaction) : Bool :=
  (s.ledger.lookup t.transactionID).any fun existing => existing ≠ t

/-- A settlement handed to a resolution is bound to its execution and valid
(engine.go:444-452, recovery.go:256-264); `label` starts the error text. -/
def State.checkSettlement (s : State) (label executionID organizationID : String)
    (t : LedgerTransaction) : Except Err Unit :=
  if t.kind ≠ .settlement ∨ t.referenceID ≠ executionID ∨ t.organizationID ≠ organizationID then
    .error (.message (label ++ "settlement ledger transaction is not bound to the execution"))
  else
    t.validate.bind fun () => if s.ledgerConflict t then .error .conflict else .ok ()

/-- The fields both outcomes of `ReconcileReceipt` set (engine.go:431-437). -/
def Execution.resolvedBy (e : Execution) (canonical : ReceiptEvidence) (now : Time) : Execution :=
  { e with
    blockNumber := canonical.blockNumber
    blockHash := canonical.blockHash
    resolvedTransactionHash := e.expected.transactionHash
    resolvedAt := some now
    finalityCheckedAt := none
    finalityCheckedHead := 0 }

/-- The execution a successful receipt settles (engine.go:453-455). -/
def Execution.settledBy (e : Execution) (canonical : ReceiptEvidence) (now : Time)
    (t : LedgerTransaction) : Execution :=
  { e.resolvedBy canonical now with
    state := .settled
    resolution := "canonical receipt success"
    ledgerTransactionID := t.transactionID }

/-- The execution a failed receipt resolves (engine.go:461-462). -/
def Execution.revertedBy (e : Execution) (canonical : ReceiptEvidence) (now : Time) : Execution :=
  { e.resolvedBy canonical now with
    state := .reverted
    resolution := "canonical receipt reverted" }

def resolveExecution (executionID : String) (payload : ExecutionPayload) : Plan :=
  .write
    { draft := { eventAt := ctx.now 0, key := executionID, body := .executionResolved payload }
      refresh := some (ctx.now 1)
      reply := fun _ => .execution payload.execution }

/-- `ReconcileReceipt` (engine.go:404). -/
def reconcileReceipt (executionID : String) (evidence : List ReceiptEvidence)
    (settlement : Option LedgerTransaction) : Plan :=
  .find (s.executions.lookup executionID) .unknownExecution fun execution =>
  if execution.state = .settled ∨ execution.state = .reverted then
    if s.resolvedRequestMatches cfg execution evidence settlement = false then .refuse .conflict
    else .answer (.execution execution)
  else if execution.state = .quarantined then
    .refuse (.message "quarantined execution requires an explicit operator resolution workflow")
  else
    let now := ctx.now 0
    if s.status.state = .halted ∨ s.status.state = .suspectedStall ∨
        trustedFresh cfg s.status.lastTrusted now = false then
      .refuse (s.status.unavailable cfg now)
    else
      .check (validateReceiptQuorum cfg s.status.lastTrusted execution.expected evidence)
        fun canonical =>
      if execution.reorgEvidenceDigest ≠ "" ∧ canonical.blockNumber = execution.blockNumber ∧
          canonical.blockHash = execution.blockHash then
        .refuse (.unsafeFinality "receipt repeats the block removed by canonical reorg evidence")
      else if canonical.success then
        .find settlement
          (.message "settled receipt requires a balanced settlement transaction") fun candidate =>
        .check (s.checkSettlement "" executionID execution.expected.organizationID candidate)
          fun () =>
        resolveExecution ctx executionID
          { execution := execution.settledBy canonical now candidate
            evidence, ledger := some candidate }
      else if settlement.isSome then
        .refuse (.message "reverted receipt cannot post a settlement transaction")
      else
        resolveExecution ctx executionID
          { execution := execution.revertedBy canonical now, evidence }

/-- The execution quarantined by an operator (engine.go:503-505). -/
def Execution.quarantinedBy (e : Execution) (operator reason : String) (now : Time) : Execution :=
  { e with
    state := .quarantined
    resolution := "manual quarantine by " ++ operator ++ ": " ++ reason
    resolvedAt := some now }

def quarantineExecution (executionID : String) (execution : Execution) : Plan :=
  .write
    { draft :=
        { eventAt := ctx.now 0, key := executionID, body := .executionQuarantine { execution } }
      refresh := some (ctx.now 1)
      reply := fun _ => .execution execution }

/-- `Quarantine` and `QuarantineForOrganization` (engine.go:475-515): `scope` is the
organization of the scoped form. -/
def quarantine (ctx : Ctx) (s : State) (scope : Option String)
    (executionID operator reason : String) : Plan :=
  if scope.any (fun o => !identifierPattern o) then .refuse .unknownExecution
  else if identifierPattern operator = false ∨ reason = "" ∨ 1024 < reason.utf8ByteSize then
    .refuse (.message "operator or quarantine reason is invalid")
  else
    .find (s.executions.lookup executionID) .unknownExecution fun execution =>
    if scope.any (fun o => execution.expected.organizationID ≠ o) then
      .refuse .unknownExecution
    else if execution.state ≠ .pendingChainRecovery ∧ execution.state ≠ .broadcast then
      .refuse (.message "only unresolved executions can be quarantined")
    else
      quarantineExecution ctx executionID (execution.quarantinedBy operator reason (ctx.now 0))

/-! ## Reorganisation and finality -/

/-- The status of an accepted reopening (engine.go:566-573, escrow_durable.go:607-613). -/
def ChainStatus.reopened (status : ChainStatus) (now : Time) (reason : String) : ChainStatus :=
  setPauseFlags { status with
    state := .recovering
    stateChangedAt := now
    reason
    consecutiveRecovery := 0
    readyForManualResume := false }

/-- The chain is neither HEALTHY nor RECOVERING, or its checkpoint is not fresh
(engine.go:539, 609, 667). -/
def State.reorgBlocked (s : State) (now : Time) : Bool :=
  (s.status.state ≠ .healthy && s.status.state ≠ .recovering) ||
    !trustedFresh cfg s.status.lastTrusted now

/-- The fields both reopenings reset. -/
def Execution.reopened (e : Execution) (digest resolution : String) : Execution :=
  { e with
    state := .pendingChainRecovery
    resolvedAt := none
    resolution
    reorgEvidenceDigest := digest
    finalityCheckedAt := none
    finalityCheckedHead := 0 }

/-- The execution reopened with a correction (engine.go:557-565). -/
def Execution.correctedBy (e : Execution) (digest : String) (c : LedgerTransaction) : Execution :=
  { e.reopened digest
      "canonical reorg removed the prior settlement block; outcome requires reconciliation" with
    correctionTransactionID := c.transactionID
    ledgerTransactionID := "" }

/-- The status written with a reopened execution (engine.go:566-573). -/
def State.reopenedStatus (s : State) (now : Time) (reason : String) : ChainStatus :=
  { s.status.reopened now reason with affectedExecutions := s.unresolvedCount + 1 }

def reopenExecution (executionID reason : String) (execution : Execution)
    (ledger : Option LedgerTransaction) (reorg : List ReorgEvidence) : Plan :=
  .write
    { draft :=
        { eventAt := ctx.now 0, key := executionID
          body := .executionReorged
            { execution, ledger, reorg
              status := some (s.reopenedStatus (ctx.now 0) reason) } }
      refresh := some (ctx.now 1)
      reply := fun _ => .execution execution }

/-- `ReopenReorg` (engine.go:517). -/
def reopenReorg (P : Primitives) (cfg : Config) (ctx : Ctx) (s : State) (executionID : String)
    (evidence : List ReorgEvidence) (correction : LedgerTransaction) : Plan :=
  .find (s.executions.lookup executionID) .unknownExecution fun execution =>
  let reorgDigest := digestReorgEvidence P evidence
  let canonicalEvidence := canonicalReorgEvidence evidence
  if execution.state = .pendingChainRecovery ∧ execution.correctionTransactionID ≠ "" then
    if s.ledger.lookup execution.correctionTransactionID = some correction ∧
        execution.reorgEvidenceDigest = reorgDigest then .answer (.execution execution)
    else .refuse .conflict
  else if execution.state ≠ .settled ∨ execution.ledgerTransactionID = "" then
    .refuse (.message "only a settled execution can be reopened for reorg")
  else
    let now := ctx.now 0
    if s.reorgBlocked cfg now then .refuse (s.status.unavailable cfg now)
    else
      .check (validateCanonicalBlockQuorum cfg s.status.lastTrusted execution.blockTarget
        canonicalEvidence true) fun _ =>
      if correction.kind ≠ .correction ∨
          correction.reversesTransactionID ≠ execution.ledgerTransactionID ∨
          correction.organizationID ≠ execution.expected.organizationID ∨
          correction.referenceID ≠ executionID then
        .refuse (.message "reorg correction is not bound to the settled execution")
      else
        .check correction.validate fun () =>
        .check (validateCorrection s.ledger correction) fun () =>
        if (s.ledger.lookup correction.transactionID).isSome then .refuse .conflict
        else
          reopenExecution ctx s executionID "canonical reorg evidence reopened a settled execution"
            (execution.correctedBy reorgDigest correction) (some correction) canonicalEvidence

/-- `ReopenRevertedReorg` (engine.go:591). -/
def reopenRevertedReorg (P : Primitives) (cfg : Config) (ctx : Ctx) (s : State)
    (executionID : String) (evidence : List ReorgEvidence) : Plan :=
  .find (s.executions.lookup executionID) .unknownExecution fun execution =>
  let reorgDigest := digestReorgEvidence P evidence
  let canonicalEvidence := canonicalReorgEvidence evidence
  if execution.state = .pendingChainRecovery ∧ execution.ledgerTransactionID = "" ∧
      execution.correctionTransactionID = "" ∧ execution.reorgEvidenceDigest = reorgDigest then
    .answer (.execution execution)
  else if execution.state ≠ .reverted ∨ execution.ledgerTransactionID ≠ "" then
    .refuse (.message "only a reverted execution can be reopened without a ledger correction")
  else
    let now := ctx.now 0
    if s.reorgBlocked cfg now then .refuse (s.status.unavailable cfg now)
    else
      .check (validateCanonicalBlockQuorum cfg s.status.lastTrusted execution.blockTarget
        canonicalEvidence true) fun _ =>
      reopenExecution ctx s executionID "canonical reorg evidence reopened a reverted execution"
        (execution.reopened reorgDigest
          "canonical reorg removed the prior reverted receipt; outcome requires reconciliation")
        none canonicalEvidence

/-- The execution with its finality check (engine.go:670-672). -/
def Execution.finalizedAt (e : Execution) (now : Time) (head : ℕ) : Execution :=
  { e with finalityCheckedAt := some now, finalityCheckedHead := head }

/-- `ConfirmFinality` (engine.go:643). -/
def confirmFinality (executionID : String) (evidence : List ReorgEvidence) : Plan :=
  .find (s.executions.lookup executionID) .unknownExecution fun execution =>
  if execution.state ≠ .settled ∧ execution.state ≠ .reverted then
    .refuse (.message "only a settled or reverted execution can complete finality monitoring")
  else if (execution.state = .settled ∧ execution.ledgerTransactionID = "") ∨
      (execution.state = .reverted ∧ execution.ledgerTransactionID ≠ "") then
    .refuse (.message "execution finality accounting binding is invalid")
  else
    .check (validateCanonicalBlockQuorum cfg s.status.lastTrusted execution.blockTarget evidence
      false) fun canonical =>
    if execution.finalityCheckedAt ≠ none then
      if execution.finalityCheckedHead = canonical.observedHead then
        .answer (.execution execution)
      else .refuse .conflict
    else
      let now := ctx.now 0
      if s.reorgBlocked cfg now then .refuse (s.status.unavailable cfg now)
      else
        let confirmed := execution.finalizedAt now canonical.observedHead
        .write
          { draft :=
              { eventAt := now, key := executionID
                body := .executionResolved { execution := confirmed, reorg := evidence } }
            reply := fun _ => .execution confirmed }

/-- `Post` (engine.go:686). -/
def post (transaction : LedgerTransaction) : Plan :=
  .check transaction.validate fun () =>
    match s.ledger.lookup transaction.transactionID with
    | some existing =>
      if existing = transaction then .answer (.transaction existing) else .refuse .conflict
    | none =>
      if chainDependent transaction.kind then
        .refuse (.message
          "chain-dependent ledger entries require canonical reconciliation evidence")
      else
        .check (if transaction.kind = .correction then validateCorrection s.ledger transaction
          else .ok ()) fun () =>
        .write
          { draft :=
              { eventAt := ctx.now 0, key := transaction.transactionID
                body := .ledgerPosted transaction }
            reply := fun _ => .transaction transaction }

/-! ## Transaction recovery -/

/-- The record of a terminal outcome (recovery.go:158-164). -/
def TransactionOutcomeEvidence.recovery (c : TransactionOutcomeEvidence) (scanFromBlock : ℕ)
    (digest : String) (now : Time) : TransactionRecovery :=
  { nonce := c.nonce, scanFromBlock, outcome := c.outcome, throughBlock := c.throughBlock
    throughBlockHash := c.throughBlockHash, accountNonce := c.accountNonce
    replacementTransaction := c.replacementTransactionHash
    replacementRecipient := c.replacementRecipient
    replacementAmountAtomic := c.replacementAmountAtomic
    replacementBlockNumber := c.replacementBlockNumber
    replacementBlockHash := c.replacementBlockHash, evidenceDigest := digest, observedAt := now }

/-- The resolution text of a terminal outcome (recovery.go:167-176). -/
def terminalResolution : RecoveryOutcome → Option String
  | .dropped => some ("canonical nonce was consumed without an observed transfer of the governed " ++
      "asset; operator finalization required")
  | .expectedReplacement => some ("canonical nonce was consumed by an exact-content replacement; " ++
      "operator receipt reconciliation required")
  | .unknownTransfer => some ("canonical nonce was consumed by an unknown governed-asset transfer; " ++
      "independent accounting investigation required")
  | _ => none

/-- The record of a pending outcome (recovery.go:137-145): the scan starts at the
first pending report. -/
def Execution.pendingRecovery (e : Execution) (c : TransactionOutcomeEvidence) (digest : String)
    (now : Time) : TransactionRecovery :=
  { nonce := c.nonce
    scanFromBlock := (e.transactionRecovery.map (·.scanFromBlock)).getD c.throughBlock
    outcome := .originalPending, throughBlock := c.throughBlock
    throughBlockHash := c.throughBlockHash, accountNonce := c.accountNonce
    evidenceDigest := digest, observedAt := now }

/-- The execution quarantined by a terminal outcome (recovery.go:158-166). -/
def Execution.withTerminalOutcome (e : Execution) (recovery : TransactionRecovery)
    (resolution : String) (now : Time) : Execution :=
  { e with
    transactionRecovery := some recovery
    state := .quarantined
    resolvedAt := some now
    resolution }

/-- The pending branch of `RecordTransactionOutcome` (recovery.go:133-154). -/
def recordPending (executionID : String) (execution : Execution)
    (canonical : TransactionOutcomeEvidence) (digest : String) : Plan :=
  if execution.transactionRecovery.any (fun r => r.nonce ≠ canonical.nonce) then
    .refuse .conflict
  else
    let now := ctx.now 0
    let updated := { execution with
      transactionRecovery := some (execution.pendingRecovery canonical digest now) }
    .write
      { draft :=
          { eventAt := now, key := executionID, body := .executionBroadcast { execution := updated } }
        reply := fun _ => .execution updated }

/-- The terminal branch of `RecordTransactionOutcome` (recovery.go:155-185). -/
def recordTerminal (executionID : String) (execution : Execution)
    (canonical : TransactionOutcomeEvidence) (digest : String) : Plan :=
  let now := ctx.now 0
  .find (execution.transactionRecovery.filter fun r =>
      r.nonce = canonical.nonce && r.scanFromBlock ≠ 0)
    (.message "terminal transaction outcome requires a previously bound pending nonce") fun r =>
  .find (terminalResolution canonical.outcome) .unsafeFinality fun resolution =>
  quarantineExecution ctx executionID
    (execution.withTerminalOutcome (canonical.recovery r.scanFromBlock digest now) resolution now)

/-- The report repeats the recovery that is already stored (recovery.go:122-127). -/
def Execution.outcomeRecorded (e : Execution) (canonical : TransactionOutcomeEvidence)
    (digest : String) : Bool :=
  e.transactionRecovery.any (fun r => r.evidenceDigest = digest) &&
    (if canonical.outcome = .originalPending then e.unresolved else e.state = .quarantined)

/-- `RecordTransactionOutcome` (recovery.go:111). -/
def recordTransactionOutcome (P : Primitives) (cfg : Config) (ctx : Ctx) (s : State)
    (executionID : String) (evidence : List TransactionOutcomeEvidence) : Plan :=
  .find (s.executions.lookup executionID) .unknownExecution fun execution =>
  .check (validateTransactionOutcomeQuorum P cfg s.status.lastTrusted execution evidence)
    fun (canonical, digest) =>
  if execution.outcomeRecorded canonical digest then .answer (.execution execution)
  else if execution.unresolved = false then
    .refuse (.message "transaction recovery evidence can update only an unresolved execution")
  else if canonical.outcome = .originalPending then
    recordPending ctx executionID execution canonical digest
  else recordTerminal ctx executionID execution canonical digest

/-- The execution an operator finalizes as dropped (recovery.go:212-221). -/
def Execution.droppedBy (e : Execution) (recovery : TransactionRecovery) (now : Time)
    (operator : String) (head : ℕ) : Execution :=
  { e with
    state := .dropped
    resolution := "operator finalized canonically displaced transaction with " ++
      "no governed-asset transfer"
    recoveryResolutionActor := operator
    resolvedAt := some now
    blockNumber := recovery.throughBlock
    blockHash := recovery.throughBlockHash
    resolvedTransactionHash := e.expected.transactionHash
    finalityCheckedAt := some now
    finalityCheckedHead := head }

/-- The execution a mined replacement settles (recovery.go:265-275). -/
def Execution.replacedBy (e : Execution) (recovery : TransactionRecovery)
    (canonical : ReceiptEvidence) (now : Time) (operator : String) (t : LedgerTransaction) :
    Execution :=
  { e with
    state := .settled
    resolution := "operator reconciled canonically mined exact-content replacement"
    recoveryResolutionActor := operator
    resolvedTransactionHash := recovery.replacementTransaction
    resolvedAt := some now
    blockNumber := canonical.blockNumber
    blockHash := canonical.blockHash
    ledgerTransactionID := t.transactionID
    finalityCheckedAt := none
    finalityCheckedHead := 0 }

/-- `ResolveProvenDropForOrganization` (recovery.go:188). -/
def resolveProvenDrop (organizationID executionID operator : String) : Plan :=
  if identifierPattern organizationID = false ∨ identifierPattern operator = false then
    .refuse .invalidOperator
  else
    .find ((s.executions.lookup executionID).filter fun e =>
      e.expected.organizationID = organizationID) .unknownExecution fun execution =>
    if execution.state = .dropped then
      if execution.recoveryResolutionActor = operator then .answer (.execution execution)
      else .refuse .conflict
    else if execution.state ≠ .quarantined then
      .refuse (.message "execution does not carry a proved dropped outcome")
    else
      .find (execution.transactionRecovery.filter fun r => r.outcome = .dropped)
        (.message "execution does not carry a proved dropped outcome") fun recovery =>
      let now := ctx.now 0
      if s.chainUsable cfg now = false ∨
          buried s.status.lastTrusted recovery.throughBlock cfg.reorgLookback = false then
        .refuse (.chainUnavailable "dropped proof is not under the current trusted checkpoint")
      else
        resolveExecution ctx executionID
          { execution := execution.droppedBy recovery now operator
              ((s.status.lastTrusted.map (·.blockNumber)).getD 0) }

/-- `ReconcileProvenReplacementForOrganization` (recovery.go:233). -/
def reconcileProvenReplacement (organizationID executionID operator : String)
    (evidence : List ReceiptEvidence) (settlement : LedgerTransaction) : Plan :=
  if identifierPattern organizationID = false ∨ identifierPattern operator = false then
    .refuse .invalidOperator
  else
    .find ((s.executions.lookup executionID).filter fun e =>
      e.expected.organizationID = organizationID) .unknownExecution fun execution =>
    if execution.state ≠ .quarantined then
      .refuse (.message "execution does not carry a proved exact-content replacement")
    else
      .find (execution.transactionRecovery.filter fun r => r.outcome = .expectedReplacement)
        (.message "execution does not carry a proved exact-content replacement") fun recovery =>
      let now := ctx.now 0
      if s.chainUsable cfg now = false then
        .refuse (.chainUnavailable "replacement cannot reconcile while chain state is unavailable")
      else
        match validateReceiptQuorum cfg s.status.lastTrusted
            { execution.expected with transactionHash := recovery.replacementTransaction }
            evidence with
        | .error _ => .refuse .unsafeFinality
        | .ok canonical =>
          if canonical.success = false then .refuse .unsafeFinality
          else
            .check (s.checkSettlement "replacement " executionID organizationID settlement) fun () =>
            resolveExecution ctx executionID
              { execution := execution.replacedBy recovery canonical now operator settlement
                evidence, ledger := some settlement }

end

end FlowOps.Reconciliation

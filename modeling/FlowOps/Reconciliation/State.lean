import FlowOps.Reconciliation.Evidence
import FlowOps.Reconciliation.Escrow

/-!
# The engine's state

The in-memory state of `Engine`, the helpers that read and update its status
(engine.go:1182-1254), and the branches of `apply` (engine.go:752) that store a
ledger entry and an execution, with `preserveBroadcastAttestation` and
`trackManualRelease`. Each returns an error or the next state.
-/

namespace FlowOps.Reconciliation

/-- The fields of `Engine` (engine.go:50) other than the configuration and the
journal. -/
structure State where
  status : ChainStatus
  executions : Dict String Execution := ∅
  executionByHash : Dict String String := ∅
  escrowCalls : Dict String EscrowCall := ∅
  escrowByAuth : Dict String String := ∅
  escrowByHash : Dict String String := ∅
  ledger : Ledger := ∅
  balances : Balances := ∅
  lastResumeOperator : String := ""

/-! ## Status -/

/-- `setPauseFlags` (engine.go:1182). -/
def ChainStatus.setPauseFlags (s : ChainStatus) : ChainStatus :=
  { s with
    authorizationsPaused := decide (s.state ≠ .healthy)
    broadcastsPaused := decide (s.state ≠ .healthy)
    finalizationPaused := decide (s.state = .halted ∨ s.state = .suspectedStall)
    refundRecognitionPaused := decide (s.state ≠ .healthy) }

section

variable (cfg : Config)

/-- `statusAt` (engine.go:1232). -/
def ChainStatus.statusAt (s : ChainStatus) (now : Time) : ChainStatus :=
  if s.state = .healthy ∧ trustedFresh cfg s.lastTrusted now = false then
    { s with
      state := .suspectedStall
      reason := "observer heartbeat or trusted Base head expired"
      stateChangedAt := match s.lastTrusted with
        | none => s.stateChangedAt
        | some t => t.observedAt.add cfg.observationMaxAge }.setPauseFlags
  else s

/-- The error text of an operation refused for the chain's state. -/
def ChainStatus.unavailable (s : ChainStatus) (now : Time) : Err :=
  .chainUnavailable ("state=" ++ (s.statusAt cfg now).state.text)

def Execution.unresolved (e : Execution) : Bool :=
  e.state = .broadcast || e.state = .pendingChainRecovery

def EscrowCall.unresolved (c : EscrowCall) : Bool :=
  c.pending.any fun p => p.state = .broadcast || p.state = .pendingRecovery

/-- `unresolvedCount` (engine.go:1208). -/
def State.unresolvedCount (s : State) : ℤ :=
  s.executions.countValues Execution.unresolved + s.escrowCalls.countValues EscrowCall.unresolved

/-- `chainUsable` (engine.go:1228). -/
def State.chainUsable (s : State) (now : Time) : Bool :=
  s.status.state = .healthy && trustedFresh cfg s.status.lastTrusted now

/-- `recoveryReady` (engine.go:1245). -/
def State.recoveryReady (s : State) (now : Time) : Bool :=
  s.status.state = .recovering && decide (cfg.recoveryObservations ≤ s.status.consecutiveRecovery) &&
    s.unresolvedCount = 0 && trustedFresh cfg s.status.lastTrusted now

/-- `refreshAffected` (engine.go:1223). -/
def State.refreshAffected (s : State) (now : Time) : State :=
  { s with status := { s.status with
      affectedExecutions := s.unresolvedCount
      readyForManualResume := s.recoveryReady cfg now } }

/-- The update of one execution in `markBroadcastsPending`. -/
def Execution.markPending (e : Execution) : Execution :=
  if e.state = .broadcast then
    { e with
      state := .pendingChainRecovery
      resolution := "chain halt requires canonical outcome reconciliation" }
  else e

/-- The update of one call in `markBroadcastsPending`. -/
def EscrowCall.markPending (c : EscrowCall) : EscrowCall :=
  { c with pending := c.pending.map fun p =>
      if p.state = .broadcast then
        { p with
          state := .pendingRecovery
          resolution := "chain halt requires canonical escrow transition reconciliation" }
      else p }

/-- `markBroadcastsPending` (engine.go:1190). -/
def State.markBroadcastsPending (s : State) : State :=
  let s := { s with
    executions := s.executions.mapValues Execution.markPending
    escrowCalls := s.escrowCalls.mapValues EscrowCall.markPending }
  { s with status := { s.status with affectedExecutions := s.unresolvedCount } }

/-- `trackManualRelease` (engine.go:985), after the status was replaced. -/
def State.trackManualRelease (s : State) (operator : String) : State :=
  let status := { s.status with
    requiredObserverQuorum :=
      if s.status.requiredObserverQuorum = 0 then cfg.observerQuorum
      else s.status.requiredObserverQuorum
    lastObservationAt :=
      if s.status.lastObservationAt.isZero then
        (s.status.lastTrusted.map (·.observedAt)).getD s.status.lastObservationAt
      else s.status.lastObservationAt }
  { s with
    status
    lastResumeOperator :=
      if status.state ≠ .healthy then ""
      else if operator ≠ "" then operator
      else s.lastResumeOperator }

/-- `e.status = cloneStatus(status); e.trackManualRelease(operator)`. -/
def State.replaceStatus (s : State) (status : ChainStatus) (operator : String) : State :=
  { s with status }.trackManualRelease cfg operator

end

/-- `applyLedger` (engine.go:999). -/
def State.applyLedger (s : State) (t : LedgerTransaction) : State :=
  { s with
    ledger := s.ledger.insert t.transactionID t
    balances := applyPostings s.balances t }

/-! ## Executions -/

/-- What `preserveBroadcastAttestation` copies from the stored execution into an
event that lacks it (engine.go:898-934). -/
def Execution.carryFrom (next : Execution) (current : Option Execution) : Execution :=
  match current with
  | none => next
  | some c =>
    { next with
      broadcastAttestation := next.broadcastAttestation.or c.broadcastAttestation
      x402SettlementClaim := next.x402SettlementClaim.or c.x402SettlementClaim
      transactionRecovery := next.transactionRecovery.or c.transactionRecovery
      resolvedTransactionHash :=
        if next.resolvedTransactionHash = "" then c.resolvedTransactionHash
        else next.resolvedTransactionHash
      recoveryResolutionActor :=
        if next.recoveryResolutionActor = "" then c.recoveryResolutionActor
        else next.recoveryResolutionActor }

/-- Replacement fields of a stored recovery are all empty. -/
def TransactionRecovery.noReplacement (r : TransactionRecovery) : Bool :=
  r.replacementTransaction = "" && r.replacementRecipient = "" &&
    r.replacementAmountAtomic = "" && r.replacementBlockNumber = 0 && r.replacementBlockHash = ""

/-- Replacement fields of a stored recovery describe a mined transaction. -/
def TransactionRecovery.replacementMined (r : TransactionRecovery) (expected : ExpectedExecution) :
    Bool :=
  hashPattern r.replacementTransaction && r.replacementTransaction ≠ expected.transactionHash &&
    r.replacementBlockNumber ≠ 0 && decide (r.replacementBlockNumber ≤ r.throughBlock) &&
    hashPattern r.replacementBlockHash

/-- The check of a stored recovery (engine.go:935-975). -/
def TransactionRecovery.validate (r : TransactionRecovery) (expected : ExpectedExecution) :
    Except Err Unit :=
  if r.scanFromBlock = 0 ∨ r.throughBlock < r.scanFromBlock ∨
      hashPattern r.throughBlockHash = false ∨ hashPattern r.evidenceDigest = false ∨
      r.observedAt.isZero then
    .error (.message "execution transaction recovery evidence is invalid")
  else if r.outcome ≠ .originalPending ∧ r.accountNonce ≤ r.nonce then
    .error (.message "terminal transaction recovery did not prove nonce consumption")
  else
    match r.outcome with
    | .originalPending =>
      if r.nonce < r.accountNonce then
        .error (.message "pending transaction recovery claims a consumed nonce")
      else if r.noReplacement = false then
        .error (.message "transaction recovery outcome contains unexpected replacement evidence")
      else .ok ()
    | .dropped =>
      if r.noReplacement = false then
        .error (.message "transaction recovery outcome contains unexpected replacement evidence")
      else .ok ()
    | .expectedReplacement =>
      if r.replacementMined expected = false ∨ r.replacementRecipient ≠ expected.recipient ∨
          r.replacementAmountAtomic ≠ expected.amountAtomic then
        .error (.message "transaction recovery expected replacement evidence is invalid")
      else if positiveInteger r.replacementAmountAtomic = false then
        .error (.message "transaction recovery replacement amount is invalid")
      else .ok ()
    | .unknownTransfer =>
      if r.replacementMined expected = false ∨ addressPattern r.replacementRecipient = false then
        .error (.message "transaction recovery replacement evidence is invalid")
      else if positiveInteger r.replacementAmountAtomic = false then
        .error (.message "transaction recovery replacement amount is invalid")
      else if r.replacementRecipient = expected.recipient ∧
          r.replacementAmountAtomic = expected.amountAtomic then
        .error (.message "unknown transaction recovery matches the expected transfer")
      else .ok ()
    | .other _ => .error (.message "transaction recovery outcome is invalid")

/-- The checks of `preserveBroadcastAttestation` on the completed execution. -/
def Execution.validateProofs (P : Crypto) (e : Execution) : Except Err Unit :=
  (checkSome (fun a => (a.validate P e.expected).mapError
    (.wrapped "execution broadcast attestation")) e.broadcastAttestation).bind fun () =>
  (checkSome (fun c => (c.validate P e.expected).mapError
    (.wrapped "execution x402 settlement claim")) e.x402SettlementClaim).bind fun () =>
  if e.broadcastAttestation.isSome ∧ e.x402SettlementClaim.isSome then
    .error (.message "execution cannot carry both direct and x402 broadcast evidence")
  else
    (checkSome (fun r => r.validate e.expected) e.transactionRecovery).bind fun () =>
    if e.resolvedTransactionHash ≠ "" ∧ hashPattern e.resolvedTransactionHash = false then
      .error (.message "resolved transaction hash is invalid")
    else if e.recoveryResolutionActor ≠ "" ∧
        identifierPattern e.recoveryResolutionActor = false then
      .error (.message "recovery resolution actor is invalid")
    else .ok ()

/-- What the checks of `preserveBroadcastAttestation` guarantee. -/
structure Execution.Proven (P : Crypto) (e : Execution) : Prop where
  attested : ∀ a, e.broadcastAttestation = some a → a.validate P e.expected = .ok ()
  claimed : ∀ c, e.x402SettlementClaim = some c → c.validate P e.expected = .ok ()
  exclusive : ¬(e.broadcastAttestation.isSome ∧ e.x402SettlementClaim.isSome)
  recovered : ∀ r, e.transactionRecovery = some r → r.validate e.expected = .ok ()
  hash : e.resolvedTransactionHash ≠ "" → hashPattern e.resolvedTransactionHash
  actor : e.recoveryResolutionActor ≠ "" → identifierPattern e.recoveryResolutionActor

lemma Execution.validateProofs_ok_iff {P : Crypto} {e : Execution} :
    e.validateProofs P = .ok () ↔ e.Proven P := by
  simp only [validateProofs, bind_unit_eq_ok, checkSome_eq_ok, mapError_eq_ok,
    guard_ok, not_and, Bool.not_eq_false, and_true]
  constructor
  · rintro ⟨ha, hc, hx, hr, hh, hact⟩
    exact ⟨ha, hc, not_and.mpr hx, hr, hh, hact⟩
  · rintro ⟨ha, hc, hx, hr, hh, hact⟩
    exact ⟨ha, hc, not_and.mp hx, hr, hh, hact⟩

/-- `preserveBroadcastAttestation` (engine.go:894). -/
def State.preserveBroadcastAttestation (P : Crypto) (s : State) (next : Execution) :
    Except Err Execution :=
  let next := next.carryFrom (s.executions.lookup next.expected.executionID)
  (next.validateProofs P).bind fun () => .ok next

/-- The case of a broadcast or quarantine event (engine.go:764-789). -/
def State.applyBroadcast (P : Crypto) (s : State) (key : String) (quarantine : Bool)
    (execution : Execution) : Except Err State :=
  (s.preserveBroadcastAttestation P execution).bind fun e =>
    if key ≠ e.expected.executionID then
      .error (.message "execution event key does not match execution identity")
    else if (s.executions.lookup key).any (fun c =>
        c.expected ≠ e.expected || c.broadcastAt ≠ e.broadcastAt) then
      .error (.message "execution event changed immutable broadcast identity")
    else if quarantine = false ∧ e.state ≠ .broadcast ∧ e.state ≠ .pendingChainRecovery then
      .error (.message "broadcast event contains a non-broadcast execution state")
    else if quarantine ∧ (s.executions.lookup key = none ∨ e.state ≠ .quarantined) then
      .error (.message "quarantine event does not transition an existing execution")
    else if (s.escrowByHash.lookup e.expected.transactionHash).isSome then
      .error (.message "execution transaction hash is already bound to an escrow transition")
    else
      .ok { s with
        executions := s.executions.insert e.expected.executionID e
        executionByHash := s.executionByHash.insert e.expected.transactionHash
          e.expected.executionID }

/-- The case of a resolved or reorged event (engine.go:790-805). -/
def State.applyResolved (P : Crypto) (cfg : Config) (s : State) (payload : ExecutionPayload) :
    Except Err State :=
  (s.preserveBroadcastAttestation P payload.execution).bind fun e =>
    let s := { s with executions := s.executions.insert e.expected.executionID e }
    let s := payload.ledger.elim s s.applyLedger
    .ok (payload.status.elim s fun status => s.replaceStatus cfg status "")

end FlowOps.Reconciliation

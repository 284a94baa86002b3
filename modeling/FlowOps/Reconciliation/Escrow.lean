import FlowOps.Common.Quorum
import FlowOps.Reconciliation.Attestation
import FlowOps.Reconciliation.Ledger

/-!
# Escrow calls

The position machine of an escrow call and the two checks that every stored
call has passed: `validateSnapshot`, a single scan over the transitions with five
accumulators (escrow_durable.go:664), and `validateEscrowLedgerBindings`
(escrow_durable.go:767).

`checkTransition_ok_iff` splits one iteration of the scan into what it asks of
the transition alone (`RecordOK`), what it asks of the accumulators (`FollowsOK`)
and what it does to them (`advance`); everything later is proved from that.
-/

namespace FlowOps.Reconciliation

/-! ## Positions -/

/-- `nextEscrowState` (escrow_durable.go:458). -/
def nextEscrowState : EscrowAction → EscrowPositionState
  | .fund => .funded
  | .acknowledge => .acknowledged
  | .deliver => .delivered
  | .release => .released
  | .refund => .refunded
  | .other _ => .quarantined

/-- `escrowActionAllowed` (escrow_durable.go:952). -/
def escrowActionAllowed (state : EscrowPositionState) (action : EscrowAction) (refundedFrom : ℕ) :
    Bool :=
  match state with
  | .registered => action = .fund
  | .funded => action = .acknowledge || (action = .refund && refundedFrom = 1)
  | .acknowledged => action = .deliver || (action = .refund && refundedFrom = 2)
  | .delivered => action = .release
  | _ => false

/-- `escrowExpectedMatchesIntent` (escrow_durable.go:946). -/
def escrowExpectedMatchesIntent (e : EscrowExpectedReceipt) (i : EscrowIntent) : Bool :=
  e.chainID = i.chainID && e.contract = i.contract && e.asset = i.asset && e.callID = i.callID &&
    e.buyer = i.buyer && e.provider = i.provider && e.amountAtomic = i.amountAtomic &&
    e.taskDigest = i.taskDigest && e.requestDigest = i.requestDigest &&
    e.acknowledgeBy = i.acknowledgeBy && e.deliverBy = i.deliverBy &&
    e.releaseWindow = i.releaseWindow

/-- `escrowCandidateMatchesExpected` (escrow_durable.go:305). -/
def escrowCandidateMatchesExpected (c : EscrowTransitionCandidate) (e : EscrowExpectedReceipt) :
    Bool :=
  c.action = e.action && c.transactionHash = e.transactionHash &&
    c.responseDigest = e.responseDigest && c.evidenceDigest = e.evidenceDigest &&
    c.buyerAccepted = e.buyerAccepted && c.refundedFromState = e.refundedFromState

/-- The receipt reconstructed from the intent and a candidate
(escrow_durable.go:330-341). -/
def expectedOf (i : EscrowIntent) (c : EscrowTransitionCandidate) : EscrowExpectedReceipt :=
  { action := c.action, transactionHash := c.transactionHash, chainID := i.chainID
    contract := i.contract, asset := i.asset, callID := i.callID, buyer := i.buyer
    provider := i.provider, amountAtomic := i.amountAtomic, taskDigest := i.taskDigest
    requestDigest := i.requestDigest, responseDigest := c.responseDigest
    evidenceDigest := c.evidenceDigest, acknowledgeBy := i.acknowledgeBy
    deliverBy := i.deliverBy, releaseWindow := i.releaseWindow
    buyerAccepted := c.buyerAccepted, refundedFromState := c.refundedFromState }

/-- `expectedEscrowTransition` (escrow_durable.go:311). The switch over the
position repeats `escrowActionAllowed`. -/
def expectedEscrowTransition (P : Crypto) (call : EscrowCall) (c : EscrowTransitionCandidate) :
    Except Err EscrowExpectedReceipt :=
  if nonZeroHash c.transactionHash = false then
    .error (.escrowTransition "transaction hash must be canonical and non-zero")
  else if escrowActionAllowed call.state c.action c.refundedFromState = false then
    .error (.escrowTransition "action is not allowed for the durable position state")
  else
    match (expectedOf call.intent c).validate P with
    | .error e => .error (.escrowTransition e.text)
    | .ok () => .ok (expectedOf call.intent c)

/-! ## Snapshots -/

/-- The accumulators of the scan in `validateSnapshot`. -/
structure SnapshotAcc where
  seenTransactions : List String := []
  historicalState : EscrowPositionState := .registered
  reorged : Bool := false
  confirmedDependencyRemoved : Bool := false
  lastBlock : ℕ := 0

/-- The attestation of a transition is absent or proves its funding. -/
def attestationOK (P : Crypto) (intent : EscrowIntent) (t : EscrowTransition) : Bool :=
  match t.broadcastAttestation with
  | none => true
  | some a =>
    t.expected.action = .fund && (a.validate P t.expected).toBool && (a.validateIntent intent).toBool

/-- The switch over the state of a transition (escrow_durable.go:694-721). -/
def checkOutcome (acc : SnapshotAcc) (t : EscrowTransition) : Except Err SnapshotAcc :=
  match t.state with
  | .confirmed =>
    if acc.confirmedDependencyRemoved ∨ t.reorgedFrom ≠ none then
      .error (.message "confirmed escrow history follows a reorged dependency")
    else .ok { acc with historicalState := nextEscrowState t.expected.action }
  | .reverted =>
    if acc.confirmedDependencyRemoved ∨ t.reorgedFrom ≠ none ∨
        t.ledgerTransactionID ≠ "" ∨ t.correctionTransactionID ≠ "" then
      .error (.message "reverted escrow transition contains ledger or dependency state")
    else .ok acc
  | .reorged =>
    match t.reorgedFrom with
    | some .confirmed =>
      -- The historical order of the removed suffix is still proved.
      .ok { acc with
        reorged := true, confirmedDependencyRemoved := true
        historicalState := nextEscrowState t.expected.action }
    | some .reverted =>
      if t.ledgerTransactionID ≠ "" ∨ t.correctionTransactionID ≠ "" then
        .error (.message "reorged reverted transition contains ledger state")
      else .ok { acc with reorged := true }
    | _ => .error (.message "reorged escrow transition lost its prior outcome")
  | _ => .error (.message "resolved escrow history contains a pending state")

/-- `ledgerRequired` (escrow_durable.go:722). -/
def ledgerRequired (action : EscrowAction) : Bool :=
  action = .fund || action = .release || action = .refund

/-- The correction binding of a transition is inconsistent (escrow_durable.go:726). -/
def correctionInvalid (t : EscrowTransition) : Prop :=
  (t.state = .confirmed ∧ t.correctionTransactionID ≠ "") ∨
    (t.state = .reorged ∧ t.ledgerTransactionID ≠ "" ∧ t.correctionTransactionID = "") ∨
    (t.correctionTransactionID ≠ "" ∧ (t.state ≠ .reorged ∨ t.ledgerTransactionID = ""))
deriving Decidable

/-- The times of a transition are inconsistent (escrow_durable.go:736). -/
def chronologyInvalid (registeredAt : Time) (t : EscrowTransition) : Prop :=
  t.registeredAt.before registeredAt ∨ t.resolvedAt.any (fun r => r.before t.registeredAt) ∨
    (t.finalityCheckedAt = none ∧ t.finalityCheckedHead ≠ 0) ∨
    (t.finalityCheckedAt ≠ none ∧
      (t.finalityCheckedAt.any (fun f => t.resolvedAt.any fun r => f.before r) ∨
        t.finalityCheckedHead < t.blockNumber))
deriving Decidable

/-- One iteration of the loop of `validateSnapshot` (escrow_durable.go:678-739). -/
def checkTransition (P : Crypto) (intent : EscrowIntent) (registeredAt : Time) (acc : SnapshotAcc)
    (t : EscrowTransition) : Except Err SnapshotAcc :=
  if t.expected.validate P ≠ .ok () ∨ t.registeredAt.isZero then
    .error (.message "durable escrow transition is invalid")
  else if attestationOK P intent t = false then
    .error (.message "durable escrow broadcast attestation is invalid")
  else if escrowExpectedMatchesIntent t.expected intent = false ∨
      escrowActionAllowed acc.historicalState t.expected.action t.expected.refundedFromState =
        false then
    .error (.message "durable escrow transition does not follow its immutable call")
  else if acc.seenTransactions.contains t.expected.transactionHash then
    .error (.message "durable escrow transition hash is duplicated")
  else
    let acc := { acc with seenTransactions := t.expected.transactionHash :: acc.seenTransactions }
    (checkOutcome acc t).bind fun acc =>
      if t.state = .confirmed ∧ ledgerRequired t.expected.action ≠ decide (t.ledgerTransactionID ≠ "")
      then .error (.message "confirmed escrow transition ledger binding is invalid")
      else if correctionInvalid t then .error (.message "escrow correction binding is invalid")
      else if t.resolvedAt = none ∨ t.blockNumber = 0 ∨ hashPattern t.blockHash = false ∨
          hashPattern t.evidenceDigest = false then
        .error (.message "resolved escrow transition lacks canonical evidence")
      else if t.blockNumber < acc.lastBlock then
        .error (.message "escrow transition block chronology regressed")
      else if chronologyInvalid registeredAt t then
        .error (.message "escrow transition chronology or finality binding is invalid")
      else .ok { acc with lastBlock := t.blockNumber }

/-- The checks on the pending transition (escrow_durable.go:747-763). -/
def checkPending (P : Crypto) (intent : EscrowIntent) (registeredAt : Time) (acc : SnapshotAcc)
    (p : EscrowTransition) : Except Err Unit :=
  if p.expected.validate P ≠ .ok () ∨ p.registeredAt.isZero ∨ p.reorgedFrom ≠ none ∨
      (p.state ≠ .broadcast ∧ p.state ≠ .pendingRecovery) then
    .error (.message "durable pending escrow transition is invalid")
  else if attestationOK P intent p = false then
    .error (.message "durable pending escrow broadcast attestation is invalid")
  else if acc.seenTransactions.contains p.expected.transactionHash then
    .error (.message "durable pending escrow transition hash is duplicated")
  else if acc.reorged ∨ escrowExpectedMatchesIntent p.expected intent = false ∨
      escrowActionAllowed acc.historicalState p.expected.action p.expected.refundedFromState =
        false then
    .error (.message "pending escrow transition does not follow its immutable call")
  else if p.registeredAt.before registeredAt ∨ p.resolvedAt ≠ none ∨ p.blockNumber ≠ 0 ∨
      p.blockHash ≠ "" ∨ p.evidenceDigest ≠ "" ∨ p.ledgerTransactionID ≠ "" ∨
      p.correctionTransactionID ≠ "" ∨ p.finalityCheckedAt ≠ none ∨ p.finalityCheckedHead ≠ 0 then
    .error (.message "pending escrow transition contains invented resolution evidence")
  else .ok ()

/-- `EscrowCall.validateSnapshot` (escrow_durable.go:664). The switch over the
position states is the type of `state`. -/
def EscrowCall.validateSnapshot (P : Crypto) (c : EscrowCall) (chainID : ℕ) : Except Err Unit :=
  if c.intent.validate P ≠ .ok () ∨ c.intent.chainID ≠ chainID ∨ c.registeredAt.isZero then
    .error (.message "durable escrow call identity is invalid")
  else
    (foldCheck (checkTransition P c.intent c.registeredAt) {} c.transitions).bind fun acc =>
      if acc.reorged ∧ c.state ≠ .quarantined then
        .error (.message "reorged escrow history is not quarantined")
      else if acc.reorged = false ∧ c.state ≠ acc.historicalState then
        .error (.message "escrow position does not match its confirmed history")
      else
        match c.pending with
        | none => .ok ()
        | some p => checkPending P c.intent c.registeredAt acc p

/-! ## Ledger bindings -/

/-- The loop over the added transactions (escrow_durable.go:773-785), on
`prospective` and the ids in `added`. -/
def addLedgers (intent : EscrowIntent) (eventAt : Time) :
    Ledger × List String → LedgerTransaction → Except Err (Ledger × List String) :=
  fun (prospective, added) t =>
    if t.validate ≠ .ok () ∨ t.organizationID ≠ intent.organizationID ∨
        t.referenceID ≠ intent.callID ∨ t.recordedAt ≠ eventAt then
      .error (.message "escrow event contains an invalid ledger transaction")
    else if (prospective.lookup t.transactionID).any (fun prior => prior ≠ t) then
      .error (.message "escrow event ledger transaction conflicts with durable state")
    else if added.contains t.transactionID then
      .error (.message "escrow event repeats a ledger transaction")
    else .ok (prospective.insert t.transactionID t, t.transactionID :: added)

/-- The ledger transaction a transition names (escrow_durable.go:788-798). -/
def bindLedger (P : Primitives) (intent : EscrowIntent) (prospective : Ledger)
    (t : EscrowTransition) (referenced : List String) : Except Err (List String) :=
  if t.ledgerTransactionID = "" then .ok referenced
  else
    match prospective.lookup t.ledgerTransactionID with
    | none => .error (.message "escrow transition references a missing ledger transaction")
    | some transaction =>
      if t.resolvedAt ≠ some transaction.recordedAt then
        .error (.message "escrow transition references a missing ledger transaction")
      else if escrowLedger P intent t transaction.recordedAt ≠ some transaction then
        .error (.message "escrow transition ledger does not match canonical call economics")
      else .ok (transaction.transactionID :: referenced)

/-- The correction a transition names (escrow_durable.go:799-806). -/
def bindCorrection (intent : EscrowIntent) (prospective : Ledger) (t : EscrowTransition)
    (referenced : List String) : Except Err (List String) :=
  if t.correctionTransactionID = "" then .ok referenced
  else
    match prospective.lookup t.correctionTransactionID, prospective.lookup t.ledgerTransactionID with
    | some correction, some original =>
      if correction.kind ≠ .correction ∨ correction.organizationID ≠ intent.organizationID ∨
          correction.referenceID ≠ intent.callID ∨
          correction.reversesTransactionID ≠ original.transactionID ∨
          inversePostings original.postings correction.postings = false then
        .error (.message "escrow reorg correction does not exactly reverse its canonical ledger")
      else .ok (correction.transactionID :: referenced)
    | _, _ =>
      .error (.message "escrow reorg correction does not exactly reverse its canonical ledger")

/-- One iteration of the loop over the transitions. -/
def bindTransition (P : Primitives) (intent : EscrowIntent) (prospective : Ledger)
    (referenced : List String) (t : EscrowTransition) : Except Err (List String) :=
  (bindLedger P intent prospective t referenced).bind (bindCorrection intent prospective t)

/-- `validateEscrowLedgerBindings` (escrow_durable.go:767). -/
def validateEscrowLedgerBindings (P : Primitives) (call : EscrowCall)
    (additions : List LedgerTransaction) (existing : Ledger) (eventAt : Time) : Except Err Unit :=
  (foldCheck (addLedgers call.intent eventAt) (existing, []) additions).bind
    fun (prospective, added) =>
      (foldCheck (bindTransition P call.intent prospective) [] call.transitions).bind
        fun referenced =>
          if added.all (fun id => referenced.contains id) = false then
            .error (.message "escrow event contains an unreferenced ledger transaction")
          else .ok ()

/-! ## What the scan accepts -/

/-- The outcome a transition had before it was removed. -/
def EscrowTransition.outcome (t : EscrowTransition) : Option EscrowTransitionState :=
  if t.state = .reorged then t.reorgedFrom else some t.state

/-- The combinations of state and prior outcome the switch accepts. -/
def OutcomeOK (t : EscrowTransition) : Prop :=
  (t.state ≠ .reorged → t.reorgedFrom = none) ∧ (t.outcome = some .confirmed ∨
      (t.outcome = some .reverted ∧ t.ledgerTransactionID = "" ∧ t.correctionTransactionID = ""))

/-- What the scan asks of a transition alone. -/
structure RecordOK (P : Crypto) (intent : EscrowIntent) (registeredAt : Time)
    (t : EscrowTransition) : Prop where
  expected : t.expected.validate P = .ok ()
  registered : t.registeredAt.isZero = false
  attested : attestationOK P intent t
  intent : escrowExpectedMatchesIntent t.expected intent
  outcome : OutcomeOK t
  ledger : t.state = .confirmed →
    ledgerRequired t.expected.action = decide (t.ledgerTransactionID ≠ "")
  correction : ¬correctionInvalid t
  resolved : t.resolvedAt ≠ none ∧ t.blockNumber ≠ 0 ∧ hashPattern t.blockHash ∧
    hashPattern t.evidenceDigest
  chronology : ¬chronologyInvalid registeredAt t

/-- What the scan asks of a transition at its place. -/
structure FollowsOK (acc : SnapshotAcc) (t : EscrowTransition) : Prop where
  allowed : escrowActionAllowed acc.historicalState t.expected.action
    t.expected.refundedFromState
  fresh : t.expected.transactionHash ∉ acc.seenTransactions
  live : t.state ≠ .reorged → acc.confirmedDependencyRemoved = false
  block : acc.lastBlock ≤ t.blockNumber

/-- What an accepted transition does to the accumulators. -/
def SnapshotAcc.advance (acc : SnapshotAcc) (t : EscrowTransition) : SnapshotAcc where
  seenTransactions := t.expected.transactionHash :: acc.seenTransactions
  historicalState :=
    if t.outcome = some .confirmed then nextEscrowState t.expected.action else acc.historicalState
  reorged := acc.reorged || t.state = .reorged
  confirmedDependencyRemoved :=
    acc.confirmedDependencyRemoved || (t.state = .reorged && t.reorgedFrom = some .confirmed)
  lastBlock := t.blockNumber

lemma checkOutcome_ok_iff {acc acc' : SnapshotAcc} {t : EscrowTransition} :
    checkOutcome acc t = .ok acc' ↔
      OutcomeOK t ∧ (t.state ≠ .reorged → acc.confirmedDependencyRemoved = false) ∧
        { acc.advance t with
          seenTransactions := acc.seenTransactions, lastBlock := acc.lastBlock } = acc' := by
  unfold checkOutcome OutcomeOK SnapshotAcc.advance EscrowTransition.outcome
  cases hs : t.state with
  | confirmed | reverted => simp; tauto
  | reorged =>
    rcases hf : t.reorgedFrom with _ | _ | _ | _ | _ | _ <;> simp
  | broadcast => simp
  | pendingRecovery => simp

lemma checkTransition_ok_iff {P : Crypto} {intent : EscrowIntent} {registeredAt : Time}
    {acc acc' : SnapshotAcc} {t : EscrowTransition} :
    checkTransition P intent registeredAt acc t = .ok acc' ↔
      RecordOK P intent registeredAt t ∧ FollowsOK acc t ∧ acc' = acc.advance t := by
  simp only [checkTransition, guard_ok, bind_eq_ok, checkOutcome_ok_iff, not_or, not_and,
    not_not, Bool.not_eq_true, Bool.not_eq_false, not_lt, Except.ok.injEq]
  constructor
  · rintro ⟨⟨h₁, h₂⟩, h₃, ⟨h₄, h₅⟩, h₆, _, ⟨h₇, h₈, rfl⟩, h₉, h₁₀, h₁₁, h₁₂, h₁₃, rfl⟩
    exact ⟨⟨h₁, h₂, h₃, h₄, h₇, h₉, h₁₀, h₁₁, h₁₃⟩, ⟨h₅, by simpa using h₆, h₈, h₁₂⟩, rfl⟩
  · rintro ⟨⟨h₁, h₂, h₃, h₄, h₇, h₉, h₁₀, h₁₁, h₁₃⟩, ⟨h₅, h₆, h₈, h₁₂⟩, rfl⟩
    exact ⟨⟨h₁, h₂⟩, h₃, ⟨h₄, h₅⟩, by simpa using h₆, _, ⟨h₇, h₈, rfl⟩, h₉, h₁₀, h₁₁, h₁₂, h₁₃, rfl⟩

end FlowOps.Reconciliation

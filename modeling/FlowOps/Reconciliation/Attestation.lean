import FlowOps.Reconciliation.Types

/-!
# Identity and proof checks of single records

`Config.defaults`, and the `validate` methods of types.go and escrow.go that
look at one record: the expected execution, the customer's broadcast attestation,
the x402 settlement claim, the escrow attestation, the escrow intent and the
expected escrow receipt. A Go loop over a map of named fields reports one of the
invalid fields; the models report the group.
-/

namespace FlowOps.Reconciliation

/-! ## Configuration -/

/-- The defaults of `Config.defaults` for unset fields (types.go:110-139). -/
def Config.withDefaults (c : Config) : Config :=
  { c with
    observerQuorum := if c.observerQuorum = 0 then 2 else c.observerQuorum
    haltConfirmations := if c.haltConfirmations = 0 then 2 else c.haltConfirmations
    recoveryObservations := if c.recoveryObservations = 0 then 3 else c.recoveryObservations
    minConfirmations := if c.minConfirmations = 0 then 2 else c.minConfirmations
    reorgLookback := if c.reorgLookback = 0 then 12 else c.reorgLookback
    maxHeadSkew := if c.maxHeadSkew = 0 then 2 else c.maxHeadSkew
    stallThreshold := if c.stallThreshold = 0 then 120000000000 else c.stallThreshold
    observationMaxAge := if c.observationMaxAge = 0 then 30000000000 else c.observationMaxAge
    maxFutureClockSkew := if c.maxFutureClockSkew = 0 then 15000000000 else c.maxFutureClockSkew }

/-- `escrowFields` of `Config.defaults`: how many of the three are set. -/
def Config.escrowFields (c : Config) : ℕ :=
  [decide (c.escrowContract ≠ ""), decide (c.escrowAsset ≠ ""),
    decide (c.escrowReleaseWindow ≠ 0)].count true

/-- `Config.defaults` (types.go:94). -/
def Config.defaults (c : Config) : Except Err Config :=
  if c.chainID ≠ 8453 ∧ c.chainID ≠ 84532 then
    .error (.message "reconciliation supports Base mainnet or Base Sepolia only")
  else if c.escrowFields ≠ 0 ∧ c.escrowFields ≠ 3 then
    .error (.message
      "escrow deployment contract, asset, and release window must be configured together")
  else if c.escrowFields = 3 ∧ (addressPattern c.escrowContract = false ∨
      addressPattern c.escrowAsset = false ∨ c.escrowContract = c.escrowAsset ∨
      maxReleaseWindow < c.escrowReleaseWindow) then
    .error (.message "configured escrow deployment tuple is invalid")
  else
    let d := c.withDefaults
    if d.observerQuorum < 2 ∨ 5 < d.observerQuorum ∨ d.haltConfirmations < 1 ∨
        d.recoveryObservations < 1 then
      .error (.message "observer and transition thresholds are invalid")
    else if d.stallThreshold ≤ 0 ∨ d.observationMaxAge ≤ 0 ∨ d.maxFutureClockSkew < 0 then
      .error (.message "observation durations are invalid")
    else .ok d

/-- A configuration as `defaults` leaves it. The engine only ever runs with one. -/
structure Config.Valid (c : Config) : Prop where
  chain : c.chainID = 8453 ∨ c.chainID = 84532
  quorum : 2 ≤ c.observerQuorum ∧ c.observerQuorum ≤ 5
  halt : 1 ≤ c.haltConfirmations
  recovery : 1 ≤ c.recoveryObservations
  lookback : 0 < c.reorgLookback

lemma Config.defaults_valid {c d : Config} (h : c.defaults = .ok d) : d.Valid := by
  simp only [defaults, guard_ok] at h
  obtain ⟨hchain, -, -, hbounds, -, hd⟩ := h
  cases hd
  push Not at hbounds
  refine ⟨?_, ⟨hbounds.1, hbounds.2.1⟩, hbounds.2.2.1, hbounds.2.2.2, ?_⟩
  · show c.chainID = 8453 ∨ c.chainID = 84532
    by_contra hc
    push Not at hc
    exact hchain hc
  · show 0 < (if c.reorgLookback = 0 then 12 else c.reorgLookback)
    split_ifs <;> omega

/-! ## Executions -/

/-- `ExpectedExecution.validate` (types.go:202). -/
def ExpectedExecution.validate (e : ExpectedExecution) (chainID : ℕ) : Except Err Unit :=
  if [e.executionID, e.organizationID, e.agentID, e.taskID].all identifierPattern = false then
    .error (.message "executionId, organizationId, agentId or taskId is invalid")
  else if hashPattern e.intentDigest = false ∨ hashPattern e.transactionHash = false then
    .error (.message "intent or transaction hash is invalid")
  else if e.chainID ≠ chainID then
    .error (.message "execution chain does not match the configured Base chain")
  else if [e.sender, e.asset, e.recipient].all addressPattern = false then
    .error (.message "sender, asset and recipient must be canonical lowercase EVM addresses")
  else if positiveInteger e.amountAtomic = false then
    .error (.message "amountAtomic: invalid")
  else .ok ()

/-- The receipt was broadcast inside the authorization's window. -/
def outsideWindow (receipt : Receipt) (a : Authorization) : Prop :=
  (Time.ofUnix receipt.broadcastAt).before (Time.ofUnix a.issuedAt) ∨
    (Time.ofUnix receipt.broadcastAt).before (Time.ofUnix a.expiresAt) = false
deriving Decidable

/-- `BroadcastAttestation.validate` (types.go:420). -/
def BroadcastAttestation.validate (P : Crypto) (a : BroadcastAttestation)
    (expected : ExpectedExecution) : Except Err Unit :=
  if publicKeyValid a.publicKeyB64 = false then
    .error (.message "broadcast attestation public key is invalid")
  else
    match a.signedReceipt.verify P a.publicKeyB64, a.authorization.digest P with
    | .error e, _ => .error (.message ("broadcast attestation signature: " ++ e))
    | .ok (), .error e => .error (.message ("broadcast authorization: " ++ e))
    | .ok (), .ok digest =>
      let receipt := a.signedReceipt.receipt
      let auth := a.authorization
      if receipt.authorizationID ≠ auth.authorizationID ∨ receipt.authorizationDigest ≠ digest ∨
          receipt.organizationID ≠ auth.organizationID ∨ receipt.customerID ≠ auth.customerID then
        .error (.message "broadcast receipt does not match its authorization")
      else if auth.rail ≠ .direct then
        .error (.message "broadcast attestation requires a direct_usdc authorization")
      else if outsideWindow receipt auth then
        .error (.message "broadcast receipt time is outside its authorization window")
      else if receipt.organizationID ≠ expected.organizationID ∨
          receipt.transactionHash ≠ expected.transactionHash ∨ receipt.sender ≠ expected.sender ∨
          auth.organizationID ≠ expected.organizationID ∨ auth.agentID ≠ expected.agentID ∨
          auth.taskID ≠ expected.taskID ∨ auth.chainID ≠ expected.chainID ∨
          auth.asset ≠ expected.asset ∨ auth.recipient ≠ expected.recipient ∨
          auth.amountAtomic ≠ expected.amountAtomic then
        .error (.message "broadcast attestation does not match expected execution")
      else .ok ()

/-- `X402SettlementClaim.validate` (types.go:315). -/
def X402SettlementClaim.validate (P : Crypto) (c : X402SettlementClaim)
    (expected : ExpectedExecution) : Except Err Unit :=
  if c.success = false then .error (.message "x402 settlement claim must report success")
  else
    match c.authorization.validate P with
    | .error e => .error (.message ("x402 settlement authorization: " ++ e))
    | .ok () =>
      if publicKeyValid c.publicKeyB64 = false then
        .error (.message "x402 settlement claim public key is invalid")
      else
        match c.signedReceipt.verify P c.publicKeyB64 with
        | .error e => .error (.message ("x402 settlement claim signature: " ++ e))
        | .ok () =>
          let receipt := c.signedReceipt.receipt
          let auth := c.authorization
          let wantNetwork := if expected.chainID = 84532 then "eip155:84532" else "eip155:8453"
          if auth.digest P ≠ .ok receipt.authorizationDigest ∨
              receipt.authorizationID ≠ auth.authorizationID ∨
              receipt.organizationID ≠ auth.organizationID ∨
              receipt.customerID ≠ auth.customerID then
            .error (.message "x402 settlement receipt does not match its authorization")
          else if outsideWindow receipt auth then
            .error (.message "x402 settlement receipt time is outside its authorization window")
          else if auth.rail ≠ .x402 ∨ auth.escrow ≠ none ∨
              expected.executionID ≠ executionIDOf P auth.authorizationID ∨
              c.network ≠ wantNetwork ∨ c.payer ≠ expected.sender ∨
              c.transaction ≠ expected.transactionHash ∨ receipt.sender ≠ expected.sender ∨
              receipt.transactionHash ≠ expected.transactionHash ∨
              (c.amount ≠ "" ∧ c.amount ≠ expected.amountAtomic) then
            .error (.message "x402 settlement claim does not match expected execution")
          else if auth.organizationID ≠ expected.organizationID ∨ auth.agentID ≠ expected.agentID ∨
              auth.taskID ≠ expected.taskID ∨ auth.chainID ≠ expected.chainID ∨
              auth.asset ≠ expected.asset ∨ auth.recipient ≠ expected.recipient ∨
              auth.amountAtomic ≠ expected.amountAtomic then
            .error (.message "x402 authorization does not match expected execution")
          else .ok ()

/-! ## Escrow records -/

/-- `EscrowBroadcastAttestation.validate` (types.go:377). -/
def EscrowBroadcastAttestation.validate (P : Crypto) (a : EscrowBroadcastAttestation)
    (expected : EscrowExpectedReceipt) : Except Err Unit :=
  if publicKeyValid a.publicKeyB64 = false then
    .error (.message "escrow broadcast attestation public key is invalid")
  else
    match a.signedReceipt.verify P a.publicKeyB64, a.authorization.digest P with
    | .error e, _ => .error (.message ("escrow broadcast attestation signature: " ++ e))
    | .ok (), .error e => .error (.message ("escrow broadcast authorization: " ++ e))
    | .ok (), .ok digest =>
      let receipt := a.signedReceipt.receipt
      let auth := a.authorization
      if receipt.authorizationID ≠ auth.authorizationID ∨ receipt.authorizationDigest ≠ digest ∨
          receipt.organizationID ≠ auth.organizationID ∨ receipt.customerID ≠ auth.customerID then
        .error (.message "escrow broadcast receipt does not match its authorization")
      else
        match auth.escrow with
        | none =>
          .error (.message "escrow broadcast attestation requires an escrow funding authorization")
        | some t =>
          if auth.rail ≠ .escrow ∨ expected.action ≠ .fund then
            .error (.message
              "escrow broadcast attestation requires an escrow funding authorization")
          else if outsideWindow receipt auth then
            .error (.message "escrow broadcast receipt time is outside its authorization window")
          else if receipt.transactionHash ≠ expected.transactionHash ∨
              receipt.sender ≠ expected.buyer ∨ auth.chainID ≠ expected.chainID ∨
              auth.asset ≠ expected.asset ∨ auth.recipient ≠ expected.provider ∨
              auth.amountAtomic ≠ expected.amountAtomic ∨ t.contract ≠ expected.contract ∨
              t.buyer ≠ expected.buyer ∨ t.provider ≠ expected.provider ∨
              t.callID ≠ expected.callID ∨ t.taskDigest ≠ expected.taskDigest ∨
              t.requestDigest ≠ expected.requestDigest ∨
              t.acknowledgeBy ≠ expected.acknowledgeBy ∨ t.deliverBy ≠ expected.deliverBy ∨
              t.releaseWindow ≠ expected.releaseWindow then
            .error (.message "escrow broadcast attestation does not match expected funding")
          else .ok ()

/-- `EscrowBroadcastAttestation.validateIntent` (types.go:411). -/
def EscrowBroadcastAttestation.validateIntent (a : EscrowBroadcastAttestation)
    (intent : EscrowIntent) : Except Err Unit :=
  let auth := a.authorization
  if auth.organizationID ≠ intent.organizationID ∨ auth.customerID ≠ intent.customerID ∨
      auth.agentID ≠ intent.agentID ∨ auth.taskID ≠ intent.taskID ∨
      auth.authorizationID ≠ intent.authorizationID then
    .error (.message "escrow broadcast attestation does not match durable intent identity")
  else .ok ()

/-- A canonical hash other than zero. -/
def nonZeroHash (s : String) : Bool := hashPattern s && s ≠ zeroHash

/-- `EscrowIntent.Validate` (escrow_durable.go:61). -/
def EscrowIntent.validate (P : Crypto) (i : EscrowIntent) : Except Err Unit :=
  if [i.organizationID, i.customerID, i.agentID, i.taskID, i.authorizationID].all
      identifierPattern = false then
    .error (.message "an identifier of the escrow intent is invalid")
  else if [i.intentDigest, i.callID, i.taskDigest, i.requestDigest].all nonZeroHash = false then
    .error (.message "a digest of the escrow intent must be a canonical non-zero hash")
  else if [i.contract, i.asset, i.buyer, i.provider].all addressPattern = false then
    .error (.message "an address of the escrow intent must be a canonical lowercase EVM address")
  else if i.buyer = i.provider then .error (.message "escrow buyer and provider must differ")
  else if i.chainID ≠ 8453 ∧ i.chainID ≠ 84532 then
    .error (.message "escrow intent supports Base mainnet or Base Sepolia only")
  else if positiveInteger i.amountAtomic = false then .error (.message "amountAtomic: invalid")
  else if escrowDeadlinesInvalid i.acknowledgeBy i.deliverBy i.releaseWindow then
    .error (.message "escrow deadlines or release window are invalid")
  else if deriveEscrowCallID P i.chainID i.contract i.buyer i.taskDigest i.requestDigest ≠
      some i.callID then
    .error (.message "callId does not bind the immutable escrow intent")
  else .ok ()

/-- The action-specific fields of an expected receipt (escrow.go:112-135). -/
def EscrowExpectedReceipt.validateAction (e : EscrowExpectedReceipt) : Except Err Unit :=
  match e.action with
  | .fund | .acknowledge =>
    if e.responseDigest ≠ "" ∨ e.evidenceDigest ≠ "" ∨ e.buyerAccepted ≠ none ∨
        e.refundedFromState ≠ 0 then
      .error (.message "escrow action contains fields that are not emitted by that transition")
    else .ok ()
  | .deliver =>
    if nonZeroHash e.responseDigest = false ∨ nonZeroHash e.evidenceDigest = false then
      .error (.message "delivery requires canonical non-zero response and evidence digests")
    else if e.buyerAccepted ≠ none ∨ e.refundedFromState ≠ 0 then
      .error (.message "delivery contains terminal-only fields")
    else .ok ()
  | .release =>
    if e.buyerAccepted = none ∨ e.refundedFromState ≠ 0 ∨ e.responseDigest ≠ "" ∨
        e.evidenceDigest ≠ "" then
      .error (.message "release requires buyerAccepted and no refund or delivery-only fields")
    else .ok ()
  | .refund =>
    if e.refundedFromState ≠ 1 ∧ e.refundedFromState ≠ 2 then
      .error (.message "refund must expire from Funded (1) or Acknowledged (2)")
    else if e.buyerAccepted ≠ none ∨ e.responseDigest ≠ "" ∨ e.evidenceDigest ≠ "" then
      .error (.message "refund contains release or delivery-only fields")
    else .ok ()
  | .other _ => .error (.message "escrow action is unsupported")

/-- `EscrowExpectedReceipt.Validate` (escrow.go:77). -/
def EscrowExpectedReceipt.validate (P : Crypto) (e : EscrowExpectedReceipt) : Except Err Unit :=
  if e.chainID ≠ 8453 ∧ e.chainID ≠ 84532 then
    .error (.message "escrow receipt supports Base mainnet or Base Sepolia only")
  else if [e.transactionHash, e.callID, e.taskDigest, e.requestDigest].all nonZeroHash = false then
    .error (.message "a hash of the escrow receipt must be a canonical lowercase 32-byte hash")
  else if [e.contract, e.asset, e.buyer, e.provider].all addressPattern = false then
    .error (.message "an address of the escrow receipt must be a canonical lowercase EVM address")
  else if e.buyer = e.provider then .error (.message "escrow buyer and provider must differ")
  else if positiveInteger e.amountAtomic = false then .error (.message "amountAtomic: invalid")
  else if escrowDeadlinesInvalid e.acknowledgeBy e.deliverBy e.releaseWindow then
    .error (.message "escrow deadlines or release window are invalid")
  else if deriveEscrowCallID P e.chainID e.contract e.buyer e.taskDigest e.requestDigest ≠
      some e.callID then
    .error (.message "callId does not bind the expected chain, contract, buyer, task, and request")
  else e.validateAction

end FlowOps.Reconciliation

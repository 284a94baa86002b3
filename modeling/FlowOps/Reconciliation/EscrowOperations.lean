import FlowOps.Reconciliation.Operations

/-!
# Escrow operations

The plans of the operations of escrow_durable.go. `RegisterAttestedEscrowBroadcast`
is the one operation that appends two events; its two plans are
`registerAttestedIntent` and `registerEscrowTransition`.
-/

namespace FlowOps.Reconciliation

/-! ## Registration -/

def writeEscrow (now : Time) (refresh : Option Time) (callID : String) (kind : EscrowEventKind)
    (payload : EscrowPayload) : Plan :=
  .write
    { draft := { eventAt := now, key := callID, body := .escrow kind payload }
      refresh
      reply := fun _ => .call payload.call }

def EscrowIntent.newCall (intent : EscrowIntent) (now : Time) : EscrowCall :=
  { intent, state := .registered, registeredAt := now }

/-- The authorization is bound to another call (escrow_durable.go:160, 211). -/
def State.authorizationTaken (s : State) (intent : EscrowIntent) : Bool :=
  (s.escrowByAuth.lookup intent.authorizationID).any fun other => other ≠ intent.callID

/-- `RegisterEscrowIntent` (escrow_durable.go:142). -/
def registerEscrowIntent (P : Crypto) (cfg : Config) (ctx : Ctx) (s : State)
    (intent : EscrowIntent) : Plan :=
  .check (intent.validate P) fun () =>
  if intent.chainID ≠ cfg.chainID then
    .refuse (.message "escrow intent chain does not match configured Base chain")
  else if deploymentMatches cfg intent = false then
    .refuse (.escrowDeployment "intent does not match the configured reviewed tuple")
  else
    match s.escrowCalls.lookup intent.callID with
    | some existing =>
      if existing.intent = intent then .answer (.call existing) else .refuse .conflict
    | none =>
      if s.authorizationTaken intent then .refuse .conflict
      else
        let now := ctx.now 0
        if s.chainUsable cfg now = false then
          .refuse (.chainUnavailable
            "escrow intent must be registered before broadcast while Base is healthy")
        else if now.unix < 0 ∨ (intent.acknowledgeBy : ℤ) ≤ now.unix then
          .refuse (.message
            "escrow intent acknowledgement deadline elapsed before durable registration")
        else writeEscrow now none intent.callID .intent { call := intent.newCall now }

/-- `RegisterAttestedEscrowBroadcast` up to its first event (escrow_durable.go:186-223).
It answers the stored call if the intent is already registered. -/
def registerAttestedIntent (P : Crypto) (cfg : Config) (now : Time) (s : State)
    (intent : EscrowIntent) (candidate : EscrowTransitionCandidate)
    (attestation : EscrowBroadcastAttestation) : Plan :=
  .check (intent.validate P) fun () =>
  .check (attestation.validateIntent intent) fun () =>
  .check (expectedEscrowTransition P (intent.newCall now) candidate) fun expected =>
  .check (attestation.validate P expected) fun () =>
  if intent.chainID ≠ cfg.chainID ∨ deploymentMatches cfg intent = false then
    .refuse (.escrowDeployment "intent does not match the configured reviewed tuple")
  else
    match s.escrowCalls.lookup intent.callID with
    | some existing =>
      if existing.intent ≠ intent then .refuse .conflict else .answer (.call existing)
    | none =>
      if s.authorizationTaken intent then .refuse .conflict
      else writeEscrow now none intent.callID .intent { call := intent.newCall now }

/-- A repeated candidate of an already resolved transition (escrow_durable.go:239-249). -/
def repeatedCandidate (P : Crypto) (call : EscrowCall) (candidate : EscrowTransitionCandidate)
    (attestation : Option EscrowBroadcastAttestation) (transition : EscrowTransition) : Plan :=
  if escrowCandidateMatchesExpected candidate transition.expected = false then .refuse .conflict
  else if attestation.any (fun a => (a.validate P transition.expected).toBool = false ||
      transition.broadcastAttestation ≠ some a) then .refuse .conflict
  else .answer (.call call)

/-- The last transition is a revert that is still watched (escrow_durable.go:251-256). -/
def EscrowCall.revertWatched (call : EscrowCall) : Bool :=
  call.transitions.getLast?.any fun last =>
    last.state = .reverted && last.finalityCheckedAt = none

section

variable (P : Primitives) (cfg : Config)

/-- The pending transition of a new candidate (escrow_durable.go:281-292). -/
def State.newPending (s : State) (now : Time) (expected : EscrowExpectedReceipt)
    (attestation : Option EscrowBroadcastAttestation) : EscrowTransition :=
  if s.chainUsable cfg now then
    { expected, state := .broadcast, registeredAt := now
      resolution := "awaiting canonical escrow receipt", broadcastAttestation := attestation }
  else
    { expected, state := .pendingRecovery, registeredAt := now
      resolution := "registered during chain pause; canonical escrow outcome required"
      broadcastAttestation := attestation }

/-- `registerEscrowTransitionLocked` (escrow_durable.go:233). -/
def registerEscrowTransition (P : Crypto) (cfg : Config) (now refresh : Time) (s : State)
    (organizationID callID : String) (candidate : EscrowTransitionCandidate)
    (attestation : Option EscrowBroadcastAttestation) : Plan :=
  .find ((s.escrowCalls.lookup callID).filter fun c => c.intent.organizationID = organizationID)
    .unknownExecution fun call =>
  match call.transitions.find? fun t => t.expected.transactionHash = candidate.transactionHash with
  | some transition => repeatedCandidate P call candidate attestation transition
  | none =>
    if call.revertWatched then
      .refuse (.escrowFinality "reverted receipt remains under canonical watch")
    else
      .check (expectedEscrowTransition P call candidate) fun expected =>
      .check (checkSome (fun a => a.validate P expected) attestation) fun () =>
      match call.pending with
      | some pending =>
        if pending.expected ≠ expected then .refuse .conflict
        else if attestation.any (fun a => pending.broadcastAttestation ≠ some a) then
          .refuse .conflict
        else .answer (.call call)
      | none =>
        if (s.escrowByHash.lookup expected.transactionHash).any (fun o => o ≠ callID) then
          .refuse .conflict
        else if (s.executionByHash.lookup expected.transactionHash).isSome then
          .refuse .conflict
        else
          writeEscrow now (some refresh) callID .pending
            { call := { call with pending := some (s.newPending cfg now expected attestation) } }

/-! ## Receipts -/

/-- A receipt for a call without a pending transition repeats an earlier one or
is unknown (escrow_durable.go:359-377). -/
def repeatedReceipt (s : State) (call : EscrowCall) (evidence : List EscrowReceiptEvidence) :
    Plan :=
  .find evidence.head? .unknownExecution fun first =>
  .find (call.transitions.find? fun t => t.expected.transactionHash = first.transactionHash &&
      (t.state = .confirmed || t.state = .reverted)) .unknownExecution fun transition =>
  .check (validateEscrowReceiptQuorum cfg s.status.lastTrusted transition.expected evidence)
    fun canonical =>
  if canonical.blockNumber ≠ transition.blockNumber ∨ canonical.blockHash ≠ transition.blockHash ∨
      canonical.success ≠ decide (transition.state = .confirmed) then .refuse .conflict
  else .answer (.call call)

/-- The pending transition with its canonical receipt (escrow_durable.go:385-389). -/
def EscrowTransition.resolvedBy (pending : EscrowTransition) (canonical : EscrowReceiptEvidence)
    (evidence : List EscrowReceiptEvidence) (now : Time) : EscrowTransition :=
  { pending with
    resolvedAt := some now
    blockNumber := canonical.blockNumber
    blockHash := canonical.blockHash
    evidenceDigest := digestEscrowEvidence P evidence }

/-- The transition of a failed receipt (escrow_durable.go:392-393). -/
def EscrowTransition.revertedBy (pending : EscrowTransition) (canonical : EscrowReceiptEvidence)
    (evidence : List EscrowReceiptEvidence) (now : Time) : EscrowTransition :=
  { pending.resolvedBy P canonical evidence now with
    state := .reverted
    resolution := "canonical escrow transaction reverted; position unchanged" }

/-- The transition of a successful receipt, before it is bound to its ledger
transaction (escrow_durable.go:395-396). -/
def EscrowTransition.confirmedBy (pending : EscrowTransition) (canonical : EscrowReceiptEvidence)
    (evidence : List EscrowReceiptEvidence) (now : Time) : EscrowTransition :=
  { pending.resolvedBy P canonical evidence now with
    state := .confirmed
    resolution := "canonical escrow transition confirmed" }

/-- The transition bound to its ledger transaction, if it has one. -/
def EscrowTransition.bindTo (t : EscrowTransition) (ledger : Option LedgerTransaction) :
    EscrowTransition :=
  { t with ledgerTransactionID := ledger.elim t.ledgerTransactionID (·.transactionID) }

/-- Append a resolved transition to a call. -/
def EscrowCall.resolve (call : EscrowCall) (state : EscrowPositionState) (t : EscrowTransition) :
    EscrowCall :=
  { call with state, transitions := call.transitions ++ [t], pending := none }

/-- `ReconcileEscrowTransition` (escrow_durable.go:348). -/
def reconcileEscrowTransition (ctx : Ctx) (s : State) (callID : String)
    (evidence : List EscrowReceiptEvidence) : Plan :=
  .find (s.escrowCalls.lookup callID) .unknownExecution fun call =>
  let now := ctx.now 0
  if s.status.finalizationPaused ∨ s.status.state = .suspectedStall ∨
      trustedFresh cfg s.status.lastTrusted now = false then
    .refuse (s.status.unavailable cfg now)
  else
    match call.pending with
    | none => repeatedReceipt cfg s call evidence
    | some pending =>
      .check (validateEscrowReceiptQuorum cfg s.status.lastTrusted pending.expected evidence)
        fun canonical =>
      if call.transitions.getLast?.any (fun last =>
          decide (canonical.blockNumber < last.blockNumber)) then .refuse .unsafeFinality
      else if canonical.success = false then
        writeEscrow now (some (ctx.now 1)) callID .resolved
          { call := call.resolve call.state (pending.revertedBy P canonical evidence now), evidence }
      else
        let transition := pending.confirmedBy P canonical evidence now
        let ledger := escrowLedger P call.intent transition now
        if ledger.any s.ledgerConflict then .refuse .conflict
        else
          writeEscrow now (some (ctx.now 1)) callID .resolved
            { call := call.resolve (nextEscrowState transition.expected.action)
                (transition.bindTo ledger)
              evidence, ledgers := ledger.toList }

/-! ## Finality and reorganisation -/

/-- The first transition with the given hash, with those before and after it. -/
def splitTransitions (hash : String) :
    List EscrowTransition → Option (List EscrowTransition × EscrowTransition × List EscrowTransition)
  | [] => none
  | t :: ts =>
    if t.expected.transactionHash = hash then some ([], t, ts)
    else (splitTransitions hash ts).map fun (pre, u, post) => (t :: pre, u, post)

/-- `escrowTransition` (escrow_durable.go:625): the call and the transition, whose
index is the length of the list before it. -/
def State.escrowTransition (s : State) (callID transactionHash : String) :
    Option (EscrowCall × List EscrowTransition × EscrowTransition × List EscrowTransition) :=
  (s.escrowCalls.lookup callID).bind fun call =>
    (splitTransitions transactionHash call.transitions).map fun split => (call, split)

/-- A transition has its outcome and is not removed. -/
def EscrowTransition.isResolved (t : EscrowTransition) : Bool :=
  t.state = .confirmed || t.state = .reverted

/-- The transition with its finality check (escrow_durable.go:542-543). -/
def EscrowTransition.finalizedAt (t : EscrowTransition) (now : Time) (head : ℕ) :
    EscrowTransition :=
  { t with finalityCheckedAt := some now, finalityCheckedHead := head }

/-- `ConfirmEscrowFinality` (escrow_durable.go:518). -/
def confirmEscrowFinality (ctx : Ctx) (s : State) (callID transactionHash : String)
    (evidence : List ReorgEvidence) : Plan :=
  .find (s.escrowTransition callID transactionHash) .unknownExecution
    fun (call, pre, transition, post) =>
  if transition.isResolved = false then
    .refuse (.message "only a resolved escrow transition can reach finality")
  else if transition.finalityCheckedAt ≠ none then
    if (validateCanonicalBlockQuorum cfg s.status.lastTrusted transition.blockTarget evidence
        false).toBool = false then .refuse .conflict
    else .answer (.call call)
  else
    let now := ctx.now 0
    if s.status.finalizationPaused ∨ trustedFresh cfg s.status.lastTrusted now = false then
      .refuse (s.status.unavailable cfg now)
    else
      .check (validateCanonicalBlockQuorum cfg s.status.lastTrusted transition.blockTarget evidence
        false) fun canonical =>
      writeEscrow now none callID .resolved
        { call := { call with
            transitions := pre ++ transition.finalizedAt now canonical.observedHead :: post }
          reorg := evidence }

/-- The correction of one removed transition (escrow_durable.go:584-598). -/
def reorgCorrection (ledger : Ledger) (intent : EscrowIntent) (canonicalHash : String) (now : Time)
    (item : EscrowTransition) : Except Err (Option LedgerTransaction) :=
  if item.ledgerTransactionID ≠ "" ∧ item.correctionTransactionID = "" then
    match ledger.lookup item.ledgerTransactionID with
    | none => .error (.message "escrow reorg target ledger transaction is missing")
    | some original =>
      let correction := reverseEscrowLedger P intent item original canonicalHash now
      correction.validate.bind fun () =>
        (validateCorrection ledger correction).bind fun () => .ok (some correction)
  else .ok none

/-- A removed transition (escrow_durable.go:596-602). -/
def EscrowTransition.removed (item : EscrowTransition) (correction : Option LedgerTransaction) :
    EscrowTransition :=
  { item with
    correctionTransactionID := correction.elim item.correctionTransactionID (·.transactionID)
    reorgedFrom := some item.state
    state := .reorged
    resolution := "canonical reorg removed this transition or an earlier dependency" }

/-- The loop over the removed transitions (escrow_durable.go:582-603), on the
transitions rewritten so far and `ledgers`. -/
def removeTransition (ledger : Ledger) (intent : EscrowIntent) (canonicalHash : String) (now : Time)
    (acc : List EscrowTransition × List LedgerTransaction) (item : EscrowTransition) :
    Except Err (List EscrowTransition × List LedgerTransaction) :=
  (reorgCorrection P ledger intent canonicalHash now item).bind fun correction =>
    .ok (acc.1 ++ [item.removed correction], acc.2 ++ correction.toList)

/-- The transitions a removal rewrites (escrow_durable.go:577-580). -/
def removedSuffix (t : EscrowTransition) (post : List EscrowTransition) : List EscrowTransition :=
  if t.state = .reverted then [t] else t :: post

/-- The later transitions a removal leaves alone. -/
def keptSuffix (t : EscrowTransition) (post : List EscrowTransition) : List EscrowTransition :=
  if t.state = .reverted then post else []

/-- The call after a removal (escrow_durable.go:604-606). -/
def EscrowCall.quarantinedWith (call : EscrowCall) (transitions : List EscrowTransition) :
    EscrowCall :=
  { call with
    transitions
    pending := none
    state := .quarantined
    resolution := "canonical reorg requires explicit operator resolution" }

/-- `ReopenEscrowReorg` (escrow_durable.go:555). A confirmed transition is a
dependency of every later one and takes them along; a reverted one goes alone. -/
def reopenEscrowReorg (ctx : Ctx) (s : State) (callID transactionHash : String)
    (evidence : List ReorgEvidence) : Plan :=
  .find (s.escrowTransition callID transactionHash) .unknownExecution
    fun (call, pre, transition, post) =>
  if transition.isResolved = false then
    .refuse (.message "only a resolved escrow transition can be reopened")
  else
    let now := ctx.now 0
    if s.status.finalizationPaused ∨ trustedFresh cfg s.status.lastTrusted now = false then
      .refuse (s.status.unavailable cfg now)
    else
      .check (validateCanonicalBlockQuorum cfg s.status.lastTrusted transition.blockTarget evidence
        true) fun canonical =>
      .check (foldCheck (removeTransition P s.ledger call.intent canonical.canonicalBlockHash now)
        ([], []) (removedSuffix transition post)) fun (removed, ledgers) =>
      writeEscrow now (some (ctx.now 1)) callID .reorged
        { call := call.quarantinedWith (pre ++ removed ++ keptSuffix transition post)
          reorg := evidence, ledgers
          status := some (s.status.reopened now ("escrow transition reorg corrected; manual " ++
            "escrow resolution and chain release required")) }

/-! ## The removal loop -/

/-- A transition whose ledger entry has no correction yet (escrow_durable.go:584). -/
def EscrowTransition.uncorrected (t : EscrowTransition) : Bool :=
  t.ledgerTransactionID ≠ "" && t.correctionTransactionID = ""

/-- The correction that a removed transition gets. -/
def correctionOf (ledger : Ledger) (intent : EscrowIntent) (canonicalHash : String) (now : Time)
    (item : EscrowTransition) : Option LedgerTransaction :=
  if item.ledgerTransactionID ≠ "" ∧ item.correctionTransactionID = "" then
    (ledger.lookup item.ledgerTransactionID).map fun original =>
      reverseEscrowLedger P intent item original canonicalHash now
  else none

/-- The transitions that a reopening corrects. -/
def State.correctable (s : State) (callID hash : String) : List EscrowTransition :=
  (s.escrowTransition callID hash).elim [] fun (_, _, t, post) =>
    (removedSuffix t post).filter EscrowTransition.uncorrected

/-- The corrections that a reopening writes. -/
def State.corrections (s : State) (now : Time) (callID hash : String)
    (evidence : List ReorgEvidence) : List LedgerTransaction :=
  (s.escrowTransition callID hash).elim [] fun (call, _, t, post) =>
    evidence.head?.elim [] fun report =>
      (removedSuffix t post).filterMap
        (correctionOf P s.ledger call.intent report.canonicalBlockHash now)

end

section

variable {P : Primitives} {ledger : Ledger} {intent : EscrowIntent} {canonicalHash : String}
  {now : Time} {item : EscrowTransition} {c : LedgerTransaction}

lemma removed_append_kept (t : EscrowTransition) (post : List EscrowTransition) :
    removedSuffix t post ++ keptSuffix t post = t :: post := by
  unfold removedSuffix keptSuffix
  split_ifs <;> simp

lemma correctionOf_eq_some (h : correctionOf P ledger intent canonicalHash now item = some c) :
    item.uncorrected ∧ ∃ original, ledger.lookup item.ledgerTransactionID = some original ∧
      c = reverseEscrowLedger P intent item original canonicalHash now := by
  unfold correctionOf at h
  split_ifs at h with hc
  obtain ⟨original, ho, rfl⟩ := Option.map_eq_some_iff.mp h
  exact ⟨by simpa [EscrowTransition.uncorrected] using hc, original, ho, rfl⟩

lemma reorgCorrection_ok {c : Option LedgerTransaction}
    (h : reorgCorrection P ledger intent canonicalHash now item = .ok c) :
    c = correctionOf P ledger intent canonicalHash now item := by
  unfold reorgCorrection at h
  unfold correctionOf
  by_cases hc : item.ledgerTransactionID ≠ "" ∧ item.correctionTransactionID = ""
  · rw [if_pos hc] at h ⊢
    cases hl : ledger.lookup item.ledgerTransactionID with
    | none => simp [hl] at h
    | some original =>
      simp only [hl, bind_unit_eq_ok, Except.ok.injEq] at h
      rw [← h.2.2]
      rfl
  · rw [if_neg hc] at h ⊢
    exact (Except.ok.inj h).symm

lemma reorgCorrection_some
    (h : reorgCorrection P ledger intent canonicalHash now item = .ok (some c)) :
    c.validate = .ok () ∧ validateCorrection ledger c = .ok () := by
  unfold reorgCorrection at h
  split_ifs at h with hc
  · split at h
    · cases h
    · simp only [bind_unit_eq_ok, Except.ok.injEq, Option.some.injEq] at h
      obtain ⟨hvalid, hcorrects, rfl⟩ := h
      exact ⟨hvalid, hcorrects⟩
  · cases h

lemma removeTransition_loop {items removed : List EscrowTransition}
    {ledgers : List LedgerTransaction}
    (h : foldCheck (removeTransition P ledger intent canonicalHash now) ([], []) items =
      .ok (removed, ledgers)) :
    removed = items.map (fun u => u.removed (correctionOf P ledger intent canonicalHash now u)) ∧
      ledgers = items.filterMap (correctionOf P ledger intent canonicalHash now) ∧
      ∀ u ∈ items, reorgCorrection P ledger intent canonicalHash now u =
        .ok (correctionOf P ledger intent canonicalHash now u) := by
  suffices hloop : ∀ items r₀ l₀,
      foldCheck (removeTransition P ledger intent canonicalHash now) (r₀, l₀) items =
        .ok (removed, ledgers) →
      removed = r₀ ++ items.map (fun u => u.removed (correctionOf P ledger intent canonicalHash now u)) ∧
        ledgers = l₀ ++ items.filterMap (correctionOf P ledger intent canonicalHash now) ∧
        ∀ u ∈ items, reorgCorrection P ledger intent canonicalHash now u =
          .ok (correctionOf P ledger intent canonicalHash now u) by
    simpa using hloop items [] [] h
  intro items
  induction items with
  | nil =>
    intro r₀ l₀ h
    cases h
    simp
  | cons u items ih =>
    intro r₀ l₀ h
    obtain ⟨acc, hacc, h⟩ := foldCheck_cons_ok.mp h
    obtain ⟨c, hc, hacc⟩ := bind_eq_ok.mp hacc
    have hcu := reorgCorrection_ok hc
    cases hacc
    obtain ⟨hr, hl, hall⟩ := ih _ _ h
    refine ⟨?_, ?_, ?_⟩
    · rw [hr, hcu]
      simp
    · rw [hl, hcu]
      cases hu : correctionOf P ledger intent canonicalHash now u <;> simp [hu]
    · intro v hv
      rcases List.mem_cons.mp hv with rfl | hv
      · rw [hc, hcu]
      · exact hall v hv

end

end FlowOps.Reconciliation

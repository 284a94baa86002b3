import FlowOps.Common.Quorum
import FlowOps.Reconciliation.Attestation

/-!
# Evidence quorums

The six validators that admit evidence from independent observers
(engine.go:1014-1135, escrow_durable.go:419, recovery.go:288), each as a function
of the configuration and the last trusted checkpoint, the only part of the status
they read.

Results: `validateReceiptQuorum_ok_iff`, `validateEscrowReceiptQuorum_ok_iff`,
`validateCanonicalBlockQuorum_ok_iff` and `validateTransactionOutcomeQuorum_ok_iff`
say which lists of evidence the validators accept, and with which canonical report.
-/

namespace FlowOps.Reconciliation

variable {trusted : Option Checkpoint}

/-! ## The trusted checkpoint -/

section

variable (cfg : Config)

/-- `trustedFresh` (engine.go:1249). -/
def trustedFresh (trusted : Option Checkpoint) (now : Time) : Bool :=
  match trusted with
  | none => false
  | some t =>
    !now.before t.observedAt && !now.before t.blockTime &&
      now.sub t.observedAt ≤ cfg.observationMaxAge && now.sub t.blockTime ≤ cfg.stallThreshold

/-- A block at or below the checkpoint, with the checkpoint's hash at its own
number (engine.go:1087, escrow_durable.go:452). -/
def covered (trusted : Option Checkpoint) (number : ℕ) (hash : String) : Bool :=
  match trusted with
  | none => false
  | some t => decide (number ≤ t.blockNumber) && (number ≠ t.blockNumber || hash = t.blockHash)

/-- The checkpoint lies at least `depth` blocks above `number` (engine.go:1131,
recovery.go:208 and 313). -/
def buried (trusted : Option Checkpoint) (number depth : ℕ) : Bool :=
  match trusted with
  | none => false
  | some t => decide (number ≤ t.blockNumber ∧ depth ≤ t.blockNumber - number)

/-! ## Observations -/

/-- The accumulators of the loop in `evaluateSnapshot`. -/
structure SnapshotScan where
  seen : List String
  (minHead maxHead : ℕ)

/-- One iteration of the loop (engine.go:1021-1050). The error is the reason that
is reported. -/
def scanObservation (now : Time) (first : Observation) (acc : SnapshotScan) (o : Observation) :
    Except String SnapshotScan :=
  if identifierPattern o.provider = false then .error "observer identity is invalid"
  else if acc.seen.contains o.provider then
    .error "duplicate observer cannot contribute to quorum"
  else if o.chainID ≠ cfg.chainID ∨ hashPattern o.headHash = false ∨
      hashPattern o.anchorHash = false ∨ o.headNumber < o.anchorNumber then
    .error "observer returned invalid Base chain data"
  else if o.observedAt.isZero ∨ o.headTime.isZero ∨ o.anchorTime.isZero ∨
      o.observedAt.after (now.add cfg.maxFutureClockSkew) ∨
      o.headTime.after (now.add cfg.maxFutureClockSkew) ∨
      o.anchorTime.after (now.add cfg.maxFutureClockSkew) then
    .error "observer timestamps are invalid"
  else if cfg.observationMaxAge < now.sub o.observedAt then
    .error "observer result is stale even though the RPC may be reachable"
  else if cfg.stallThreshold < now.sub o.headTime then
    .error "Base head is not progressing within the configured threshold"
  else if o.anchorNumber ≠ first.anchorNumber ∨ o.anchorHash ≠ first.anchorHash then
    .error "independent Base observers disagree on the canonical anchor"
  else
    .ok { seen := o.provider :: acc.seen
          minHead := if o.headNumber < acc.minHead then o.headNumber else acc.minHead
          maxHead := if acc.maxHead < o.headNumber then o.headNumber else acc.maxHead }

/-- `evaluateSnapshot` (engine.go:1014): a healthy snapshot gives its checkpoint,
an unhealthy one its reason. -/
def evaluateSnapshot (trusted : Option Checkpoint) (now : Time) (observations : List Observation) :
    Except String Checkpoint :=
  match observations with
  | [] => .error "fewer than the required independent Base observers responded"
  | first :: _ =>
    if (observations.length : ℤ) < cfg.observerQuorum then
      .error "fewer than the required independent Base observers responded"
    else
      (foldCheck (scanObservation cfg now first) ⟨[], first.headNumber, first.headNumber⟩
        observations).bind fun acc =>
        if cfg.maxHeadSkew < acc.maxHead - acc.minHead then
          .error "independent Base observer heads exceed the configured skew"
        else if trusted.any (fun t => decide (first.anchorNumber < t.blockNumber ∨
            (first.anchorNumber = t.blockNumber ∧ first.anchorHash ≠ t.blockHash))) then
          .error "canonical anchor regressed or conflicts with the last trusted checkpoint"
        else
          .ok { blockNumber := first.anchorNumber, blockHash := first.anchorHash
                blockTime := first.anchorTime.utc, observedAt := now
                cursor := first.anchorNumber }

/-! ## Receipts -/

/-- A quorum of `int` size `quorum` and at most five reports. -/
def quorumSize {α : Type} (evidence : List α) : Bool :=
  decide (cfg.observerQuorum ≤ evidence.length ∧ evidence.length ≤ 5)

/-- What one receipt has to show for the expected execution (engine.go:1070-1082). -/
def receiptValid (expected : ExpectedExecution) (r : ReceiptEvidence) : Bool :=
  identifierPattern r.provider && r.chainID = expected.chainID &&
    r.transactionHash = expected.transactionHash && r.sender = expected.sender &&
    r.asset = expected.asset && r.recipient = expected.recipient &&
    r.amountAtomic = expected.amountAtomic && hashPattern r.blockHash && r.blockNumber ≠ 0 &&
    decide (r.blockNumber ≤ r.confirmedHead) &&
    decide (cfg.minConfirmations ≤ r.confirmedHead - r.blockNumber + 1)

/-- Two receipts report the same outcome (engine.go:1083). -/
def receiptAgrees (canonical r : ReceiptEvidence) : Bool :=
  r.blockNumber = canonical.blockNumber && r.blockHash = canonical.blockHash &&
    r.success = canonical.success

/-- `validateReceiptQuorum` (engine.go:1063). -/
def validateReceiptQuorum (trusted : Option Checkpoint) (expected : ExpectedExecution)
    (evidence : List ReceiptEvidence) : Except Err ReceiptEvidence :=
  match evidence with
  | [] => .error .unsafeFinality
  | canonical :: _ =>
    if quorumSize cfg evidence = false then .error .unsafeFinality
    else if distinctAll (·.provider)
        (fun r => receiptValid cfg expected r && receiptAgrees canonical r) [] evidence = false then
      .error .unsafeFinality
    else if covered trusted canonical.blockNumber canonical.blockHash = false then
      .error .unsafeFinality
    else .ok canonical

/-- The lists `validateReceiptQuorum` accepts. -/
structure ReceiptQuorum (cfg : Config) (trusted : Option Checkpoint) (expected : ExpectedExecution)
    (evidence : List ReceiptEvidence) (canonical : ReceiptEvidence) : Prop where
  first : evidence.head? = some canonical
  size : quorumSize cfg evidence
  valid : ∀ r ∈ evidence, receiptValid cfg expected r ∧ receiptAgrees canonical r
  distinct : (evidence.map (·.provider)).Nodup
  trusted : covered trusted canonical.blockNumber canonical.blockHash

lemma validateReceiptQuorum_ok_iff {cfg : Config}
    {expected : ExpectedExecution} {evidence : List ReceiptEvidence} {canonical : ReceiptEvidence} :
    validateReceiptQuorum cfg trusted expected evidence = .ok canonical ↔
      ReceiptQuorum cfg trusted expected evidence canonical := by
  unfold validateReceiptQuorum
  cases evidence with
  | nil =>
    refine ⟨by rintro ⟨⟩, fun h => ?_⟩
    cases h.first
  | cons first rest =>
    simp only [guard_ok, Bool.not_eq_false, distinctAll_iff, Bool.and_eq_true,
      List.not_mem_nil, not_false_eq_true, and_true, Except.ok.injEq]
    constructor
    · rintro ⟨hsize, ⟨hvalid, hdistinct⟩, hcov, rfl⟩
      exact ⟨rfl, hsize, hvalid, hdistinct, hcov⟩
    · intro h
      obtain rfl : first = canonical := Option.some.inj h.first
      exact ⟨h.size, ⟨h.valid, h.distinct⟩, h.trusted, rfl⟩

/-- What one escrow receipt has to show (escrow_durable.go:426-436). -/
def escrowReceiptValid (expected : EscrowExpectedReceipt) (r : EscrowReceiptEvidence) : Bool :=
  identifierPattern r.provider && r.action = expected.action && r.chainID = expected.chainID &&
    r.transactionHash = expected.transactionHash && r.callID = expected.callID &&
    r.blockNumber ≠ 0 && hashPattern r.blockHash && decide (r.blockNumber ≤ r.confirmedHead) &&
    decide (cfg.minConfirmations ≤ r.confirmedHead - r.blockNumber + 1)

/-- Two escrow receipts report the same outcome (escrow_durable.go:437). -/
def escrowReceiptAgrees (canonical r : EscrowReceiptEvidence) : Bool :=
  r.blockNumber = canonical.blockNumber && r.blockHash = canonical.blockHash &&
    r.success = canonical.success && r.deliveredAt = canonical.deliveredAt &&
    r.releasableAt = canonical.releasableAt

/-- The delivery times of the canonical receipt (escrow_durable.go:441-451). -/
def deliveryTimesValid (expected : EscrowExpectedReceipt) (c : EscrowReceiptEvidence) : Bool :=
  if c.success ∧ expected.action = .deliver then
    c.deliveredAt ≠ 0 && decide (c.deliveredAt ≤ 2 ^ 64 - 1 - expected.releaseWindow) &&
      c.releasableAt = c.deliveredAt + expected.releaseWindow
  else c.deliveredAt = 0 && c.releasableAt = 0

/-- `validateEscrowReceiptQuorum` (escrow_durable.go:419). -/
def validateEscrowReceiptQuorum (trusted : Option Checkpoint) (expected : EscrowExpectedReceipt)
    (evidence : List EscrowReceiptEvidence) : Except Err EscrowReceiptEvidence :=
  match evidence with
  | [] => .error .unsafeFinality
  | canonical :: _ =>
    if quorumSize cfg evidence = false then .error .unsafeFinality
    else if distinctAll (·.provider)
        (fun r => escrowReceiptValid cfg expected r && escrowReceiptAgrees canonical r) []
        evidence = false then
      .error .unsafeFinality
    else if deliveryTimesValid expected canonical = false then .error .unsafeFinality
    else if covered trusted canonical.blockNumber canonical.blockHash = false then
      .error .unsafeFinality
    else .ok canonical

/-- The lists `validateEscrowReceiptQuorum` accepts. -/
structure EscrowReceiptQuorum (cfg : Config) (trusted : Option Checkpoint)
    (expected : EscrowExpectedReceipt) (evidence : List EscrowReceiptEvidence)
    (canonical : EscrowReceiptEvidence) : Prop where
  first : evidence.head? = some canonical
  size : quorumSize cfg evidence
  valid : ∀ r ∈ evidence, escrowReceiptValid cfg expected r ∧ escrowReceiptAgrees canonical r
  distinct : (evidence.map (·.provider)).Nodup
  times : deliveryTimesValid expected canonical
  trusted : covered trusted canonical.blockNumber canonical.blockHash

lemma validateEscrowReceiptQuorum_ok_iff {cfg : Config}
    {expected : EscrowExpectedReceipt} {evidence : List EscrowReceiptEvidence}
    {canonical : EscrowReceiptEvidence} :
    validateEscrowReceiptQuorum cfg trusted expected evidence = .ok canonical ↔
      EscrowReceiptQuorum cfg trusted expected evidence canonical := by
  unfold validateEscrowReceiptQuorum
  cases evidence with
  | nil =>
    refine ⟨by rintro ⟨⟩, fun h => ?_⟩
    cases h.first
  | cons first rest =>
    simp only [guard_ok, Bool.not_eq_false, distinctAll_iff, Bool.and_eq_true,
      List.not_mem_nil, not_false_eq_true, and_true, Except.ok.injEq]
    constructor
    · rintro ⟨hsize, ⟨hvalid, hdistinct⟩, htimes, hcov, rfl⟩
      exact ⟨rfl, hsize, hvalid, hdistinct, htimes, hcov⟩
    · intro h
      obtain rfl : first = canonical := Option.some.inj h.first
      exact ⟨h.size, ⟨h.valid, h.distinct⟩, h.times, h.trusted, rfl⟩

/-! ## Canonical blocks -/

/-- The block whose canonicity is in question: the fields of the `Execution` that
`validateCanonicalBlockQuorum` reads, which escrow fills in for a transition. -/
structure BlockTarget where
  chainID : ℕ
  transactionHash : String
  blockNumber : ℕ
  blockHash : String

/-- `resolvedTransactionHash` (engine.go:1292). -/
def resolvedTransactionHash (e : Execution) : String :=
  if e.resolvedTransactionHash ≠ "" then e.resolvedTransactionHash else e.expected.transactionHash

def Execution.blockTarget (e : Execution) : BlockTarget :=
  { chainID := e.expected.chainID, transactionHash := resolvedTransactionHash e
    blockNumber := e.blockNumber, blockHash := e.blockHash }

/-- The `Execution` built by `validateEscrowCanonicalQuorum` (escrow_durable.go:638). -/
def EscrowTransition.blockTarget (t : EscrowTransition) : BlockTarget :=
  { chainID := t.expected.chainID, transactionHash := t.expected.transactionHash
    blockNumber := t.blockNumber, blockHash := t.blockHash }

/-- What one observation has to show (engine.go:1106-1124). -/
def blockReportValid (target : BlockTarget) (requireChanged : Bool) (o : ReorgEvidence) : Bool :=
  identifierPattern o.provider && o.chainID = target.chainID &&
    o.transactionHash = target.transactionHash && o.originalBlockNumber = target.blockNumber &&
    o.originalBlockHash = target.blockHash && hashPattern o.canonicalBlockHash &&
    decide (requireChanged ↔ o.canonicalBlockHash ≠ target.blockHash) &&
    decide (target.blockNumber ≤ o.observedHead) &&
    decide (cfg.reorgLookback ≤ o.observedHead - target.blockNumber)

/-- `validateCanonicalBlockQuorum` (engine.go:1098): the first report with the
smallest observed head. -/
def validateCanonicalBlockQuorum (trusted : Option Checkpoint) (target : BlockTarget)
    (evidence : List ReorgEvidence) (requireChanged : Bool) : Except Err ReorgEvidence :=
  match evidence with
  | [] => .error .unsafeFinality
  | first :: _ =>
    if (evidence.length : ℤ) < cfg.observerQuorum then .error .unsafeFinality
    else if distinctAll (·.provider)
        (fun o => blockReportValid cfg target requireChanged o &&
          o.canonicalBlockHash = first.canonicalBlockHash) [] evidence = false then
      .error .unsafeFinality
    else if buried trusted target.blockNumber cfg.reorgLookback = false then
      .error .unsafeFinality
    else .ok { first with observedHead := foldMin (·.observedHead) first.observedHead evidence }

end

/-- The lists `validateCanonicalBlockQuorum` accepts, with the first report. -/
structure BlockQuorum (cfg : Config) (trusted : Option Checkpoint) (target : BlockTarget)
    (evidence : List ReorgEvidence) (requireChanged : Bool) (report : ReorgEvidence) : Prop where
  first : evidence.head? = some report
  size : cfg.observerQuorum ≤ evidence.length
  valid : ∀ o ∈ evidence, blockReportValid cfg target requireChanged o ∧
    o.canonicalBlockHash = report.canonicalBlockHash
  distinct : (evidence.map (·.provider)).Nodup
  trusted : buried trusted target.blockNumber cfg.reorgLookback

lemma validateCanonicalBlockQuorum_ok_iff {cfg : Config}
    {target : BlockTarget} {evidence : List ReorgEvidence} {requireChanged : Bool}
    {canonical : ReorgEvidence} :
    validateCanonicalBlockQuorum cfg trusted target evidence requireChanged = .ok canonical ↔
      ∃ first, BlockQuorum cfg trusted target evidence requireChanged first ∧
        canonical = { first with
          observedHead := foldMin (·.observedHead) first.observedHead evidence } := by
  unfold validateCanonicalBlockQuorum
  cases evidence with
  | nil =>
    refine ⟨by rintro ⟨⟩, ?_⟩
    rintro ⟨first, h, -⟩
    cases h.first
  | cons first rest =>
    simp only [guard_ok, Bool.not_eq_false, not_lt, distinctAll_iff, Bool.and_eq_true,
      decide_eq_true_eq, List.not_mem_nil, not_false_eq_true, and_true, Except.ok.injEq]
    constructor
    · rintro ⟨hsize, ⟨hvalid, hdistinct⟩, hburied, rfl⟩
      exact ⟨first, ⟨rfl, hsize, hvalid, hdistinct, hburied⟩, rfl⟩
    · rintro ⟨first', h, rfl⟩
      obtain rfl : first = first' := Option.some.inj h.first
      exact ⟨h.size, ⟨h.valid, h.distinct⟩, h.trusted, rfl⟩

/-- `digestReorgEvidence` (engine.go:1339) without the digest. -/
def canonicalReorgEvidence (evidence : List ReorgEvidence) : List ReorgEvidence :=
  sortByKey (·.provider) evidence

def digestReorgEvidence (P : Primitives) (evidence : List ReorgEvidence) : String :=
  (P.reorgSHA256 (canonicalReorgEvidence evidence)).hash

/-- `digestEscrowEvidence` (escrow_durable.go:1007). -/
def digestEscrowEvidence (P : Primitives) (evidence : List EscrowReceiptEvidence) : String :=
  (P.escrowEvidenceSHA256 (sortByKey (·.provider) evidence)).hash

/-! ## Transaction outcomes -/

/-- Two outcome reports agree on everything but the provider (recovery.go:305-309). -/
def outcomeAgrees (canonical o : TransactionOutcomeEvidence) : Bool :=
  o.outcome = canonical.outcome && o.nonce = canonical.nonce &&
    o.throughBlock = canonical.throughBlock && o.throughBlockHash = canonical.throughBlockHash &&
    o.accountNonce = canonical.accountNonce &&
    o.replacementTransactionHash = canonical.replacementTransactionHash &&
    o.replacementRecipient = canonical.replacementRecipient &&
    o.replacementAmountAtomic = canonical.replacementAmountAtomic &&
    o.replacementBlockNumber = canonical.replacementBlockNumber &&
    o.replacementBlockHash = canonical.replacementBlockHash

/-- One report is bound to the execution (recovery.go:297-309). -/
def outcomeValid (expected : ExpectedExecution) (o : TransactionOutcomeEvidence) : Bool :=
  identifierPattern o.provider && o.chainID = expected.chainID &&
    o.originalTransactionHash = expected.transactionHash && hashPattern o.throughBlockHash

def noReplacement (c : TransactionOutcomeEvidence) : Bool :=
  c.replacementTransactionHash = "" && c.replacementRecipient = "" &&
    c.replacementAmountAtomic = "" && c.replacementBlockNumber = 0 && c.replacementBlockHash = ""

/-- A mined replacement transaction is reported. -/
def replacementMined (expected : ExpectedExecution) (c : TransactionOutcomeEvidence) : Bool :=
  hashPattern c.replacementTransactionHash &&
    c.replacementTransactionHash ≠ expected.transactionHash && c.replacementBlockNumber ≠ 0 &&
    decide (c.replacementBlockNumber ≤ c.throughBlock) && hashPattern c.replacementBlockHash

/-- The switch over the outcome (recovery.go:316-343). -/
def outcomeShape (e : Execution) (c : TransactionOutcomeEvidence) : Bool :=
  match c.outcome with
  | .originalPending => decide (c.accountNonce ≤ c.nonce) && noReplacement c
  | .dropped =>
    e.transactionRecovery.isSome && decide (c.nonce < c.accountNonce) && noReplacement c
  | .expectedReplacement =>
    e.transactionRecovery.isSome && decide (c.nonce < c.accountNonce) &&
      replacementMined e.expected c && c.replacementRecipient = e.expected.recipient &&
      c.replacementAmountAtomic = e.expected.amountAtomic
  | .unknownTransfer =>
    e.transactionRecovery.isSome && decide (c.nonce < c.accountNonce) &&
      replacementMined e.expected c && addressPattern c.replacementRecipient &&
      positiveInteger c.replacementAmountAtomic &&
      !(c.replacementRecipient = e.expected.recipient &&
        c.replacementAmountAtomic = e.expected.amountAtomic)
  | .other _ => false

/-- `validateTransactionOutcomeQuorum` (recovery.go:288): the canonical report,
the first by provider, and the digest of the sorted evidence. -/
def validateTransactionOutcomeQuorum (P : Primitives) (cfg : Config) (trusted : Option Checkpoint)
    (e : Execution) (evidence : List TransactionOutcomeEvidence) :
    Except Err (TransactionOutcomeEvidence × String) :=
  if quorumSize cfg evidence = false then .error .unsafeFinality
  else
    match sortByKey (·.provider) evidence with
    | [] => .error .unsafeFinality
    | canonical :: rest =>
      if distinctAll (·.provider) (fun o => outcomeValid e.expected o && outcomeAgrees canonical o)
          [] (canonical :: rest) = false then
        .error .unsafeFinality
      else if buried trusted canonical.throughBlock cfg.reorgLookback = false then
        .error .unsafeFinality
      else if outcomeShape e canonical = false then .error .unsafeFinality
      else .ok (canonical, (P.outcomeSHA256 (canonical :: rest)).hash)

/-- The lists `validateTransactionOutcomeQuorum` accepts. -/
structure OutcomeQuorum (cfg : Config) (trusted : Option Checkpoint) (e : Execution)
    (evidence : List TransactionOutcomeEvidence) (canonical : TransactionOutcomeEvidence) :
    Prop where
  first : (sortByKey (·.provider) evidence).head? = some canonical
  size : quorumSize cfg evidence
  valid : ∀ o ∈ evidence, outcomeValid e.expected o ∧ outcomeAgrees canonical o
  distinct : (evidence.map (·.provider)).Nodup
  trusted : buried trusted canonical.throughBlock cfg.reorgLookback
  shape : outcomeShape e canonical

lemma validateTransactionOutcomeQuorum_ok_iff {P : Primitives} {cfg : Config} {e : Execution}
    {evidence : List TransactionOutcomeEvidence}
    {canonical : TransactionOutcomeEvidence} {digest : String} :
    validateTransactionOutcomeQuorum P cfg trusted e evidence = .ok (canonical, digest) ↔
      OutcomeQuorum cfg trusted e evidence canonical ∧
        digest = (P.outcomeSHA256 (sortByKey (·.provider) evidence)).hash := by
  have hperm := sortByKey_perm (·.provider) evidence
  have hmem : ∀ Q : TransactionOutcomeEvidence → Prop,
      (∀ o ∈ sortByKey (·.provider) evidence, Q o) ↔ ∀ o ∈ evidence, Q o := fun Q =>
    forall_congr' fun o => by rw [hperm.mem_iff]
  unfold validateTransactionOutcomeQuorum
  cases hs : sortByKey (·.provider) evidence with
  | nil =>
    simp only [guard_ok, reduceCtorEq, and_false, false_iff, not_and]
    intro h
    have := h.first
    rw [hs] at this
    cases this
  | cons first rest =>
    rw [hs] at hperm hmem
    simp only [guard_ok, Bool.not_eq_false, distinctAll_iff, Bool.and_eq_true,
      List.not_mem_nil, not_false_eq_true, and_true, ok_pair_eq, hmem, (hperm.map _).nodup_iff]
    constructor
    · rintro ⟨hsize, ⟨hvalid, hdistinct⟩, hburied, hshape, rfl, rfl⟩
      exact ⟨⟨by rw [hs]; rfl, hsize, hvalid, hdistinct, hburied, hshape⟩, rfl⟩
    · rintro ⟨h, rfl⟩
      obtain rfl : first = canonical := Option.some.inj (by rw [← h.first, hs]; rfl)
      exact ⟨h.size, ⟨h.valid, h.distinct⟩, h.trusted, h.shape, rfl, rfl⟩

end FlowOps.Reconciliation

import FlowOps.Common.Dict
import FlowOps.Pkg.Envelope

/-!
# Records of the reconciliation engine

The data types of `internal/reconciliation` (types.go, escrow.go,
escrow_durable.go, journal.go) and the payloads of the journal events.

* Go `uint64` and `uint8` are `ℕ`, `int` and `time.Duration` are `ℤ`; no
  operation of the engine overflows on values that pass its checks.
* A pointer is an `Option`; the empty string keeps its meaning of an absent
  identifier.
* A string type with constants is an inductive type. The types a caller can fill
  with an arbitrary text have a constructor `other` for the rest.
* `equalJSON` is equality: every field of the compared records is encoded, and
  the encoding is injective on valid UTF-8 and on times with a printed zone. A nil
  and an empty slice are one list; the engine only compares clones, in which an
  empty slice is always nil.
-/

namespace FlowOps.Reconciliation

/-! ## Enumerations -/

inductive ChainState where
  | healthy | suspectedStall | halted | recovering
deriving DecidableEq

/-- The constant's text, as it appears in error messages. -/
def ChainState.text : ChainState → String
  | .healthy => "HEALTHY"
  | .suspectedStall => "SUSPECTED_STALL"
  | .halted => "HALTED"
  | .recovering => "RECOVERING"

inductive ExecutionState where
  | broadcast | pendingChainRecovery | settled | reverted | dropped | quarantined
deriving DecidableEq

inductive RecoveryOutcome where
  | originalPending | dropped | expectedReplacement | unknownTransfer
  | other (name : String)
deriving DecidableEq

inductive LedgerKind where
  | reservation | settlement | refund | funding | correction | suspense
  | other (name : String)
deriving DecidableEq

inductive EscrowAction where
  | fund | acknowledge | deliver | release | refund
  | other (name : String)
deriving DecidableEq

/-- `string(action)`. -/
def EscrowAction.text : EscrowAction → String
  | .fund => "FUND"
  | .acknowledge => "ACKNOWLEDGE"
  | .deliver => "DELIVER"
  | .release => "RELEASE"
  | .refund => "REFUND"
  | .other name => name

inductive EscrowPositionState where
  | registered | funded | acknowledged | delivered | released | refunded | quarantined
deriving DecidableEq

inductive EscrowTransitionState where
  | broadcast | pendingRecovery | confirmed | reverted | reorged
deriving DecidableEq

/-! ## Errors -/

/-- The sentinel errors of types.go, with the text that follows the sentinel's own;
`message` is an error made on the spot and `wrapped` is `fmt.Errorf("label: %w", cause)`. -/
inductive Err where
  | chainUnavailable (detail : String)
  | conflict | unknownExecution
  | unsafeFinality (detail : String := "")
  | resumeBlocked | invalidOperator | invalidHaltReason
  | escrowTransition (detail : String)
  | escrowDeployment (detail : String)
  | escrowFinality (detail : String)
  | message (text : String)
  | wrapped (label : String) (cause : Err)
deriving DecidableEq

/-- `err.Error()`. -/
def Err.text : Err → String
  | .chainUnavailable detail => "Base canonical state is not healthy: " ++ detail
  | .conflict => "idempotency conflict"
  | .unknownExecution => "unknown execution"
  | .unsafeFinality "" => "canonical finality evidence is insufficient"
  | .unsafeFinality detail => "canonical finality evidence is insufficient: " ++ detail
  | .resumeBlocked => "autonomous resume is blocked"
  | .invalidOperator => "operator is invalid"
  | .invalidHaltReason => "halt reason is invalid"
  | .escrowTransition detail => "escrow transition is invalid: " ++ detail
  | .escrowDeployment detail => "escrow deployment is not admitted: " ++ detail
  | .escrowFinality detail => "escrow transition finality is unresolved: " ++ detail
  | .message text => text
  | .wrapped label cause => label ++ ": " ++ cause.text

/-! ## Configuration -/

/-- `Config` without its clock: the readings of the clock are part of each
operation's context. -/
structure Config where
  chainID : ℕ
  escrowContract : String := ""
  escrowAsset : String := ""
  escrowReleaseWindow : ℕ := 0
  observerQuorum : ℤ := 0
  haltConfirmations : ℤ := 0
  recoveryObservations : ℤ := 0
  minConfirmations : ℕ := 0
  reorgLookback : ℕ := 0
  maxHeadSkew : ℕ := 0
  stallThreshold : ℤ := 0
  observationMaxAge : ℤ := 0
  maxFutureClockSkew : ℤ := 0
deriving DecidableEq

/-! ## Chain status -/

structure Observation where
  provider : String
  (chainID headNumber : ℕ)
  headHash : String
  headTime : Time
  anchorNumber : ℕ
  anchorHash : String
  (anchorTime observedAt : Time)
deriving DecidableEq

structure Checkpoint where
  blockNumber : ℕ
  blockHash : String
  (blockTime observedAt : Time)
  cursor : ℕ
deriving DecidableEq

structure ChainStatus where
  chainID : ℕ
  state : ChainState
  reason : String
  lastTrusted : Option Checkpoint := none
  requiredObserverQuorum : ℤ
  respondingObservers : ℤ := 0
  lastObservationAt : Time := { ns := 0 }
  stateChangedAt : Time
  consecutiveUnhealthy : ℤ := 0
  consecutiveRecovery : ℤ := 0
  affectedExecutions : ℤ := 0
  readyForManualResume : Bool := false
  authorizationsPaused : Bool := false
  broadcastsPaused : Bool := false
  finalizationPaused : Bool := false
  refundRecognitionPaused : Bool := false
deriving DecidableEq

/-! ## Executions -/

structure ExpectedExecution where
  (executionID organizationID agentID taskID intentDigest transactionHash : String)
  chainID : ℕ
  (sender asset recipient amountAtomic : String)
deriving DecidableEq

structure ReceiptEvidence where
  provider : String
  chainID : ℕ
  transactionHash : String
  blockNumber : ℕ
  blockHash : String
  confirmedHead : ℕ
  success : Bool
  (sender asset recipient amountAtomic : String)
deriving DecidableEq

structure TransactionRecovery where
  (nonce scanFromBlock : ℕ)
  outcome : RecoveryOutcome
  throughBlock : ℕ
  throughBlockHash : String
  accountNonce : ℕ
  replacementTransaction : String := ""
  replacementRecipient : String := ""
  replacementAmountAtomic : String := ""
  replacementBlockNumber : ℕ := 0
  replacementBlockHash : String := ""
  evidenceDigest : String
  observedAt : Time
deriving DecidableEq

structure TransactionOutcomeEvidence where
  provider : String
  chainID : ℕ
  originalTransactionHash : String
  outcome : RecoveryOutcome
  (nonce throughBlock : ℕ)
  throughBlockHash : String
  accountNonce : ℕ
  replacementTransactionHash : String := ""
  replacementRecipient : String := ""
  replacementAmountAtomic : String := ""
  replacementBlockNumber : ℕ := 0
  replacementBlockHash : String := ""
deriving DecidableEq

structure BroadcastAttestation where
  signedReceipt : SignedReceipt
  authorization : Authorization
  publicKeyB64 : String
deriving DecidableEq

structure X402SettlementClaim where
  authorization : Authorization
  signedReceipt : SignedReceipt
  publicKeyB64 : String
  success : Bool
  (payer transaction network : String)
  amount : String := ""
deriving DecidableEq

structure Execution where
  expected : ExpectedExecution
  state : ExecutionState
  broadcastAt : Time
  broadcastAttestation : Option BroadcastAttestation := none
  x402SettlementClaim : Option X402SettlementClaim := none
  resolvedAt : Option Time := none
  blockNumber : ℕ := 0
  blockHash : String := ""
  resolution : String := ""
  ledgerTransactionID : String := ""
  correctionTransactionID : String := ""
  reorgEvidenceDigest : String := ""
  finalityCheckedAt : Option Time := none
  finalityCheckedHead : ℕ := 0
  resolvedTransactionHash : String := ""
  transactionRecovery : Option TransactionRecovery := none
  recoveryResolutionActor : String := ""

structure ReorgEvidence where
  provider : String
  chainID : ℕ
  transactionHash : String
  originalBlockNumber : ℕ
  (originalBlockHash canonicalBlockHash : String)
  observedHead : ℕ
deriving DecidableEq

/-! ## Ledger -/

structure Posting where
  (account amountAtomic : String)
deriving DecidableEq

structure LedgerTransaction where
  (transactionID organizationID : String)
  kind : LedgerKind
  referenceID : String
  reversesTransactionID : String := ""
  postings : List Posting
  recordedAt : Time
deriving DecidableEq

/-! ## Escrow -/

structure EscrowExpectedReceipt where
  action : EscrowAction
  transactionHash : String
  chainID : ℕ
  (contract asset callID buyer provider amountAtomic taskDigest requestDigest : String)
  responseDigest : String := ""
  evidenceDigest : String := ""
  (acknowledgeBy deliverBy releaseWindow : ℕ)
  buyerAccepted : Option Bool := none
  refundedFromState : ℕ := 0
deriving DecidableEq

structure EscrowReceiptEvidence where
  provider : String
  action : EscrowAction
  chainID : ℕ
  transactionHash : String
  blockNumber : ℕ
  blockHash : String
  confirmedHead : ℕ
  success : Bool
  callID : String
  deliveredAt : ℕ := 0
  releasableAt : ℕ := 0
deriving DecidableEq

structure EscrowBroadcastAttestation where
  signedReceipt : SignedReceipt
  authorization : Authorization
  publicKeyB64 : String
deriving DecidableEq

structure EscrowIntent where
  (organizationID customerID agentID taskID authorizationID intentDigest : String)
  chainID : ℕ
  (contract asset callID buyer provider amountAtomic taskDigest requestDigest : String)
  (acknowledgeBy deliverBy releaseWindow : ℕ)
deriving DecidableEq

structure EscrowTransitionCandidate where
  action : EscrowAction
  transactionHash : String
  responseDigest : String := ""
  evidenceDigest : String := ""
  buyerAccepted : Option Bool := none
  refundedFromState : ℕ := 0
deriving DecidableEq

/-- `reorgedFrom` is `none` for the empty text. -/
structure EscrowTransition where
  expected : EscrowExpectedReceipt
  state : EscrowTransitionState
  reorgedFrom : Option EscrowTransitionState := none
  registeredAt : Time
  broadcastAttestation : Option EscrowBroadcastAttestation := none
  resolvedAt : Option Time := none
  blockNumber : ℕ := 0
  blockHash : String := ""
  resolution : String := ""
  evidenceDigest : String := ""
  ledgerTransactionID : String := ""
  correctionTransactionID : String := ""
  finalityCheckedAt : Option Time := none
  finalityCheckedHead : ℕ := 0
deriving DecidableEq

structure EscrowCall where
  intent : EscrowIntent
  state : EscrowPositionState
  registeredAt : Time
  pending : Option EscrowTransition := none
  transitions : List EscrowTransition := []
  resolution : String := ""
deriving DecidableEq

/-! ## Journal events -/

structure ChainPayload where
  status : ChainStatus
  observations : List Observation := []
  operator : String := ""
  markBroadcastsPending : Bool := false

structure ExecutionPayload where
  execution : Execution
  evidence : List ReceiptEvidence := []
  ledger : Option LedgerTransaction := none
  reorg : List ReorgEvidence := []
  status : Option ChainStatus := none

structure EscrowPayload where
  call : EscrowCall
  evidence : List EscrowReceiptEvidence := []
  reorg : List ReorgEvidence := []
  ledgers : List LedgerTransaction := []
  status : Option ChainStatus := none

/-- The four escrow event kinds, which share one payload type. -/
inductive EscrowEventKind where
  | intent | pending | resolved | reorged
deriving DecidableEq

/-- Kind and payload of an event (engine.go:18-48). A payload is decoded
according to its kind; decoding is the inverse of encoding. -/
inductive EventBody where
  | chainStatus (payload : ChainPayload)
  | executionBroadcast (payload : ExecutionPayload)
  | executionResolved (payload : ExecutionPayload)
  | executionReorged (payload : ExecutionPayload)
  | executionQuarantine (payload : ExecutionPayload)
  | ledgerPosted (transaction : LedgerTransaction)
  | escrow (kind : EscrowEventKind) (payload : EscrowPayload)

/-- `journalEvent` (journal.go:21); `body` is `Kind` and `Payload`. -/
structure JournalEvent where
  version : ℤ
  sequence : ℕ
  eventAt : Time
  (key previousHash : String)
  body : EventBody
  hash : String

/-- `journalHashInput` (journal.go:32). -/
structure JournalHashInput where
  version : ℤ
  sequence : ℕ
  eventAt : Time
  (key previousHash : String)
  body : EventBody

/-! ## Abstract functions -/

/-- The hash functions of the engine, in addition to those of `Crypto`, and
the length of a journal line. Each digest is SHA-256 of a JSON text or of the
listed byte strings. -/
structure Primitives extends Crypto where
  /-- SHA-256 over the inputs of `derivedLedgerID`, each after a zero byte. -/
  ledgerSHA256 : List String → Hex64
  reorgSHA256 : List ReorgEvidence → Hex64
  escrowEvidenceSHA256 : List EscrowReceiptEvidence → Hex64
  outcomeSHA256 : List TransactionOutcomeEvidence → Hex64
  journalSHA256 : JournalHashInput → Hex64
  /-- `len(line)` of the JSON line of an event, without the line feed. -/
  lineLength : JournalEvent → ℕ

end FlowOps.Reconciliation

import FlowOps.Common.Solvency
import FlowOps.Contracts.ServiceDirectory

/-!
# `ASCPCallEscrow`

The escrow of `ASCPCallEscrow.sol`. The Safe locks an amount for a call whose terms the
service directory confirms; a verifier's signed verdict releases it to the seller or
refunds it, until `settleBy`; after `settleBy` anyone can refund it. The governor adds
verifiers, which become active after a delay, revokes them, and can pause the escrow for
good.

The directory is asked by `view` calls, so its answers are part of the transaction
(`IServiceDirectory`). Reentrancy is excluded by the guard and by the asset having no
callbacks.

`call_ok` says what a call that succeeds has checked and done.
-/

namespace FlowOps.ASCPCallEscrow

open Evm Function
open ServiceDirectory (SellerLeaf ResourceLeaf)

/-! ## Storage -/

/-- `State` (ASCPCallEscrow.sol:51). -/
inductive State where
  | none | locked | acked | released | refunded
deriving DecidableEq

/-- `VerdictAttestation` (ASCPCallEscrow.sol:59). -/
structure VerdictAttestation where
  (callId commitmentHash : Bytes32)
  escrowContract : Address
  verifierEpoch : UInt64
  (verificationSpecHash verifierSoftwareHash deliveryHash : Bytes32)
  deliveredAt : UInt64
  evidenceHash : Bytes32
  verdict : UInt8
  verdictNonce : Bytes32
  (issuedAt validUntil : UInt64)

/-- `PendingVerifier` (ASCPCallEscrow.sol:75), with the zero values of an unused slot. -/
structure PendingVerifier where
  epoch : UInt64 := 0
  activatesAt : UInt64 := 0
deriving DecidableEq

/-- `ExecutionCommitment` (ASCPCallEscrow.sol:80). -/
structure ExecutionCommitment where
  (orgDomain operationId : Bytes32)
  rail : UInt8
  schemeVersion : UInt16
  protection : UInt8
  escrowContract : Address
  (purchaseSpecHash quoteHash verificationSpecHash : Bytes32)
  (declaredWorkTime verificationBudgetSeconds directoryVersion : UInt64)
  (sellerId resourceId : Bytes32)
  (payTo ackAuthority : Address)
  (amount chainId : ℕ)
  asset : Address
  (quoteExpiresAt acceptBy deliverBy settleBy : UInt64)

/-- `Call` (ASCPCallEscrow.sol:106), with the zero values of an unused slot. -/
structure Call where
  buyer : Address := 0
  payTo : Address := 0
  ackAuthority : Address := 0
  amount : ℕ := 0
  acceptBy : UInt64 := 0
  deliverBy : UInt64 := 0
  settleBy : UInt64 := 0
  operationId : Bytes32 := 0
  commitmentHash : Bytes32 := 0
  verificationSpecHash : Bytes32 := 0
  state : State := .none
deriving DecidableEq

structure Deployment extends Host where
  (usdc safe governor : Address)

/-- The part of the storage that decides which verdicts are accepted. -/
structure Verifiers where
  activeVerifierEpoch : Address → UInt64 := fun _ => 0
  pendingVerifier : Address → PendingVerifier := fun _ => {}
  verifierRevoked : Address → Bool := fun _ => false
  usedVerdictNonces : Bytes32 → Bool := fun _ => false
  emergencyPaused : Bool := false

/-- The storage of the contract and the balances of the asset. -/
structure Storage extends Verifiers where
  totalLocked : ℕ
  calls : Dict Bytes32 Call
  balance : Address → ℕ

/-- `getCall` (ASCPCallEscrow.sol:273): `_calls[callId]`. -/
def Storage.getCall (s : Storage) (callId : Bytes32) : Call := (s.calls.lookup callId).getD {}

def Storage.init (balance : Address → ℕ) : Storage :=
  { totalLocked := 0, calls := ∅, balance }

/-! ## Hashes -/

/-- `MIN_SETTLEMENT_MARGIN` (ASCPCallEscrow.sol:43). -/
def minSettlementMargin : ℕ := 30 * 60

/-- `MIN_ONCHAIN_VERIFICATION_BUFFER` (ASCPCallEscrow.sol:44). -/
def minOnchainVerificationBuffer : ℕ := 120

/-- `VERIFIER_ACTIVATION_DELAY` (ASCPCallEscrow.sol:45). -/
def verifierActivationDelay : ℕ := 24 * 60 * 60

/-- `MAX_ATTESTATION_WINDOW` (ASCPCallEscrow.sol:46). -/
def maxAttestationWindow : ℕ := 15 * 60

/-- `VERDICT_RELEASE` (ASCPCallEscrow.sol:47). -/
def verdictRelease : UInt8 := 1

/-- `VERDICT_EARLY_REFUND` (ASCPCallEscrow.sol:48). -/
def verdictEarlyRefund : UInt8 := 2

/-- The text of `GOVERNANCE_PAYLOAD_DOMAIN` (ASCPCallEscrow.sol:36). -/
def governanceDomain : String := "ASCP_CALL_ESCROW_GOVERNANCE_V1"

def ExecutionCommitment.words (c : ExecutionCommitment) : List Bytes32 :=
  [c.orgDomain, c.operationId, natWord c.rail.toNat, natWord c.schemeVersion.toNat,
    natWord c.protection.toNat, addressWord c.escrowContract, c.purchaseSpecHash, c.quoteHash,
    c.verificationSpecHash, natWord c.declaredWorkTime.toNat, natWord c.verificationBudgetSeconds.toNat,
    natWord c.directoryVersion.toNat, c.sellerId, c.resourceId, addressWord c.payTo,
    addressWord c.ackAuthority, natWord c.amount, natWord c.chainId, addressWord c.asset,
    natWord c.quoteExpiresAt.toNat, natWord c.acceptBy.toNat, natWord c.deliverBy.toNat,
    natWord c.settleBy.toNat]

def VerdictAttestation.words (a : VerdictAttestation) : List Bytes32 :=
  [a.callId, a.commitmentHash, addressWord a.escrowContract, natWord a.verifierEpoch.toNat,
    a.verificationSpecHash, a.verifierSoftwareHash, a.deliveryHash, natWord a.deliveredAt.toNat,
    a.evidenceHash, natWord a.verdict.toNat, a.verdictNonce, natWord a.issuedAt.toNat,
    natWord a.validUntil.toNat]

namespace Deployment

variable (d : Deployment)

/-- `executionCommitmentDigest` (ASCPCallEscrow.sol:261), of a commitment to this contract
on this chain. -/
def executionCommitmentDigest (c : ExecutionCommitment) : Bytes32 :=
  d.typedDataDigest (d.hashWords
    (d.hashText "ExecutionCommitment(bytes32 orgDomain,bytes32 operationId,uint8 rail,uint16 schemeVersion,uint8 protection,address escrowContract,bytes32 purchaseSpecHash,bytes32 quoteHash,bytes32 verificationSpecHash,uint64 declaredWorkTime,uint64 verificationBudgetSeconds,uint64 directoryVersion,bytes32 sellerId,bytes32 resourceId,address payTo,address ackAuthority,uint256 amount,uint256 chainId,address asset,uint64 quoteExpiresAt,uint64 acceptBy,uint64 deliverBy,uint64 settleBy)" ::
      c.words))

/-- `verdictAttestationDigest` (ASCPCallEscrow.sol:392). -/
def verdictAttestationDigest (a : VerdictAttestation) : Bytes32 :=
  d.typedDataDigest (d.hashWords
    (d.hashText "VerdictAttestation(bytes32 callId,bytes32 commitmentHash,address escrowContract,uint64 verifierEpoch,bytes32 verificationSpecHash,bytes32 verifierSoftwareHash,bytes32 deliveryHash,uint64 deliveredAt,bytes32 evidenceHash,uint8 verdict,uint256 verdictNonce,uint64 issuedAt,uint64 validUntil)" ::
      a.words))

/-- `keccak256(abi.encodePacked(commitmentHash))` (ASCPCallEscrow.sol:441). -/
def callId (commitmentHash : Bytes32) : Bytes32 := d.keccak256 (toBytes commitmentHash)

/-- The selectors of the methods that a workflow names. -/
def addVerifierSelector : BitVec 32 := d.selector "addVerifier(address,uint64,bytes32,bytes32)"

def revokeVerifierSelector : BitVec 32 := d.selector "revokeVerifier(address,bytes32,bytes32)"

def setEmergencyPauseSelector : BitVec 32 := d.selector "setEmergencyPause(bytes32,bytes32)"

end Deployment

/-! ## Methods -/

/-- The errors of the contract, the panics of checked arithmetic, a refused transfer of
the asset, and the revert of `ECDSA.recover`. -/
inductive Revert where
  | notGovernor (caller : Address)
  | notAckAuthority (caller : Address)
  | wrongState (callId : Bytes32) (have_ : State)
  | ackWindowClosed | emergencyPaused | invalidVerdict
  | verifierNotActive (signer : Address) (epoch : UInt64)
  | verdictNonceUsed (nonce : Bytes32)
  | verifierActivationPending (key : Address)
  | invalidVerifier | invalidWorkflowBinding
  | notSafe (caller : Address)
  | invalidCommitment
  | chainMismatch (expected actual : ℕ)
  | escrowMismatch (expected actual : Address)
  | alreadyLocked (callId : Bytes32)
  | directoryProofInvalid | directoryTermsMismatch | sellerUnavailable | invalidDeadlines
  | insufficientDeliveryWindow | insufficientSettlementMargin
  | inexactFunding (expected received : ℕ)
  | refundNotAvailable (callId : Bytes32) (state : State) (settleBy : UInt64) (nowTs : ℕ)
  | overflow | underflow | transferFailed | badSignature
deriving DecidableEq

/-- The events of the contract, and the asset's `Transfer`. -/
inductive Log where
  | transfer (src dst : Address) (amount : ℕ)
  | callLocked (callId operationId commitmentHash : Bytes32) (buyer payTo : Address) (amount : ℕ)
      (settleBy : UInt64)
  | callRefunded (callId operationId : Bytes32) (buyer : Address) (amount : ℕ)
  | callAcked (callId operationId : Bytes32)
  | callReleased (callId operationId commitmentHash deliveryHash evidenceHash : Bytes32)
      (payTo : Address) (amount : ℕ)
  | verifierAdded (key : Address) (epoch activatesAt : UInt64)
  | verifierActivated (key : Address) (epoch : UInt64)
  | verifierRevoked (key : Address) (activeEpoch pendingEpoch : UInt64)
  | emergencyPauseSet
  | governanceWorkflowBound (workflowId workflowPayloadHash : Bytes32) (functionSelector : BitVec 32)
deriving DecidableEq

/-- `IServiceDirectory` (ASCPCallEscrow.sol:11): its answers during a transaction. -/
structure IServiceDirectory where
  currentVersion : UInt64
  verifySeller : UInt64 → SellerLeaf → List Bytes32 → Bool
  verifyResource : UInt64 → ResourceLeaf → List Bytes32 → Bool
  pausedSeller : Bytes32 → Bool
  quoteKeyRevoked : Address → Bool

/-- The answers of a deployed directory. -/
def directoryAnswers (dir : ServiceDirectory.Deployment) (s : ServiceDirectory.Storage)
    (timestamp : ℕ) : IServiceDirectory where
  currentVersion := s.currentVersion timestamp
  verifySeller := ServiceDirectory.verifySeller dir s.toVersions timestamp
  verifyResource := ServiceDirectory.verifyResource dir s.toVersions timestamp
  pausedSeller := s.pausedSeller
  quoteKeyRevoked := s.quoteKeyRevoked

/-- `msg.sender`, `block.timestamp`, whether the asset lets the transfer of this
transaction through, and the directory. -/
structure Msg where
  sender : Address
  timestamp : ℕ
  accepts : Bool
  directory : IServiceDirectory

/-- The external methods that write, and their arguments. -/
inductive Method where
  | lockCall (c : ExecutionCommitment) (seller : SellerLeaf) (resource : ResourceLeaf)
      (sellerProof resourceProof : List Bytes32)
  | addVerifier (key : Address) (epoch : UInt64) (workflowId workflowPayloadHash : Bytes32)
  | activateVerifier (key : Address)
  | revokeVerifier (key : Address) (workflowId workflowPayloadHash : Bytes32)
  | setEmergencyPause (workflowId workflowPayloadHash : Bytes32)
  | ack (callId : Bytes32)
  | release (callId : Bytes32) (a : VerdictAttestation) (signature : List (BitVec 8))
  | refundWithVerdict (callId : Bytes32) (a : VerdictAttestation) (signature : List (BitVec 8))
  | claimExpired (callId : Bytes32)

/-- A transaction to the contract, or any other activity on the asset. -/
inductive Input where
  | call (msg : Msg) (method : Method)
  | asset (balance : Address → ℕ)

section

variable (d : Deployment) (v : Verifiers) (s : Storage) (m : Msg)

/-- The check of the fixed fields (ASCPCallEscrow.sol:213-219). -/
def ExecutionCommitment.Invalid (c : ExecutionCommitment) : Prop :=
  c.rail ≠ 1 ∨ c.schemeVersion ≠ 1 ∨ c.protection ≠ 1 ∨ c.orgDomain = 0 ∨ c.operationId = 0 ∨
    c.purchaseSpecHash = 0 ∨ c.quoteHash = 0 ∨ c.verificationSpecHash = 0 ∨ c.sellerId = 0 ∨
    c.resourceId = 0 ∨ c.payTo = 0 ∨ c.ackAuthority = 0 ∨ c.amount = 0 ∨ c.asset ≠ d.usdc ∨
    c.directoryVersion = 0 ∨ c.declaredWorkTime = 0 ∨ c.verificationBudgetSeconds = 0
deriving Decidable

/-- The terms of the directory are others than those of the commitment
(ASCPCallEscrow.sol:248-254). -/
def ExecutionCommitment.Mismatch (c : ExecutionCommitment) (seller : SellerLeaf)
    (resource : ResourceLeaf) : Prop :=
  seller.sellerId ≠ c.sellerId ∨ resource.sellerId ≠ seller.sellerId ∨
    resource.resourceId ≠ c.resourceId ∨ seller.payoutAddress ≠ c.payTo ∨
    seller.ackAuthority ≠ c.ackAuthority ∨ resource.price.toNat ≠ c.amount ∨
    resource.escrowSupported = false ∨ resource.declaredWorkTime ≠ c.declaredWorkTime ∨
    resource.verificationBudgetSeconds ≠ c.verificationBudgetSeconds ∨
    resource.verificationSpecHash ≠ c.verificationSpecHash
deriving Decidable

/-- The call that a commitment stores (ASCPCallEscrow.sol:443-455). -/
def ExecutionCommitment.call (c : ExecutionCommitment) (buyer : Address) (commitmentHash : Bytes32) :
    Call where
  buyer := buyer
  payTo := c.payTo
  ackAuthority := c.ackAuthority
  amount := c.amount
  acceptBy := c.acceptBy
  deliverBy := c.deliverBy
  settleBy := c.settleBy
  operationId := c.operationId
  commitmentHash := commitmentHash
  verificationSpecHash := c.verificationSpecHash
  state := .locked

/-- What a transaction returns. -/
abbrev Result := Except Revert (Storage × List Log)

/-- `_storeAndFund` (ASCPCallEscrow.sol:440). -/
def storeAndFund (c : ExecutionCommitment) (commitmentHash : Bytes32) : Result :=
  let callId := d.callId commitmentHash
  if (s.getCall callId).state ≠ .none then .error (.alreadyLocked callId)
  else if 2 ^ 256 ≤ s.totalLocked + c.amount then .error .overflow
  else
    match transfer s.balance m.accepts m.sender d.this c.amount with
    | none => .error .transferFailed
    | some balance =>
      if balance d.this - s.balance d.this ≠ c.amount then
        .error (.inexactFunding c.amount (balance d.this - s.balance d.this))
      else
        .ok ({ s with
            totalLocked := s.totalLocked + c.amount
            calls := s.calls.insert callId (c.call m.sender commitmentHash)
            balance }, [.transfer m.sender d.this c.amount,
            .callLocked callId c.operationId commitmentHash m.sender c.payTo c.amount c.settleBy])

/-- `lockCall` (ASCPCallEscrow.sol:202). -/
def lockCall (c : ExecutionCommitment) (seller : SellerLeaf) (resource : ResourceLeaf)
    (sellerProof resourceProof : List Bytes32) : Result :=
  let workTime := c.declaredWorkTime.toNat +
    max c.verificationBudgetSeconds.toNat minOnchainVerificationBuffer
  if m.sender ≠ d.safe then .error (.notSafe m.sender)
  else if s.emergencyPaused then .error .emergencyPaused
  else if c.chainId ≠ d.chainId then .error (.chainMismatch d.chainId c.chainId)
  else if c.escrowContract ≠ d.this then .error (.escrowMismatch d.this c.escrowContract)
  else if c.Invalid d then .error .invalidCommitment
  else if c.acceptBy.toNat ≤ m.timestamp ∨ c.quoteExpiresAt.toNat ≤ m.timestamp ∨
      c.deliverBy.toNat ≤ c.acceptBy.toNat ∨ c.settleBy.toNat ≤ c.deliverBy.toNat then
    .error .invalidDeadlines
  else if 2 ^ 64 ≤ workTime then .error .overflow
  else if c.deliverBy.toNat - m.timestamp < workTime then .error .insufficientDeliveryWindow
  else if c.settleBy.toNat - m.timestamp < minSettlementMargin then
    .error .insufficientSettlementMargin
  else if c.directoryVersion ≠ m.directory.currentVersion then .error .directoryProofInvalid
  else if m.directory.verifySeller c.directoryVersion seller sellerProof = false then
    .error .directoryProofInvalid
  else if m.directory.verifyResource c.directoryVersion resource resourceProof = false then
    .error .directoryProofInvalid
  else if seller.status ≠ 1 ∨ m.directory.pausedSeller c.sellerId ∨
      m.directory.quoteKeyRevoked seller.quoteSigningKey then
    .error .sellerUnavailable
  else if c.Mismatch seller resource then .error .directoryTermsMismatch
  else storeAndFund d s m c (d.executionCommitmentDigest c)

/-- `addVerifier` (ASCPCallEscrow.sol:277). -/
def addVerifier (key : Address) (epoch : UInt64) (workflowId workflowPayloadHash : Bytes32) :
    Except Revert (Verifiers × List Log) :=
  let current := v.pendingVerifier key
  if m.sender ≠ d.governor then .error (.notGovernor m.sender)
  else if key = 0 ∨ v.verifierRevoked key ∨ epoch = 0 ∨
      epoch.toNat ≤ (v.activeVerifierEpoch key).toNat ∨
      (current.epoch ≠ 0 ∧ epoch.toNat ≤ current.epoch.toNat) then
    .error .invalidVerifier
  else if ¬d.WorkflowBound governanceDomain d.addVerifierSelector
      (d.hashWords [addressWord key, natWord (v.activeVerifierEpoch key).toNat,
        natWord current.epoch.toNat, natWord current.activatesAt.toNat, natWord 0,
        natWord epoch.toNat]) workflowId workflowPayloadHash then
    .error .invalidWorkflowBinding
  else
    match delayed m.timestamp verifierActivationDelay with
    | none => .error .overflow
    | some activatesAt =>
      .ok ({ v with pendingVerifier := update v.pendingVerifier key ⟨epoch, activatesAt⟩ },
        [.verifierAdded key epoch activatesAt,
          .governanceWorkflowBound workflowId workflowPayloadHash d.addVerifierSelector])

/-- `activateVerifier` (ASCPCallEscrow.sol:299). -/
def activateVerifier (key : Address) : Except Revert (Verifiers × List Log) :=
  let p := v.pendingVerifier key
  if p.epoch = 0 ∨ m.timestamp < p.activatesAt.toNat then .error (.verifierActivationPending key)
  else
    .ok ({ v with
        activeVerifierEpoch := update v.activeVerifierEpoch key p.epoch
        pendingVerifier := update v.pendingVerifier key {} }, [.verifierActivated key p.epoch])

/-- `revokeVerifier` (ASCPCallEscrow.sol:307). -/
def revokeVerifier (key : Address) (workflowId workflowPayloadHash : Bytes32) :
    Except Revert (Verifiers × List Log) :=
  let activeEpoch := v.activeVerifierEpoch key
  let current := v.pendingVerifier key
  if m.sender ≠ d.governor then .error (.notGovernor m.sender)
  else if key = 0 ∨ (activeEpoch = 0 ∧ current.epoch = 0) ∨ v.verifierRevoked key then
    .error .invalidVerifier
  else if ¬d.WorkflowBound governanceDomain d.revokeVerifierSelector
      (d.hashWords [addressWord key, natWord activeEpoch.toNat, natWord current.epoch.toNat,
        natWord current.activatesAt.toNat, natWord 0, natWord 1]) workflowId workflowPayloadHash then
    .error .invalidWorkflowBinding
  else
    .ok ({ v with
        activeVerifierEpoch :=
          if activeEpoch.toNat < current.epoch.toNat then
            update v.activeVerifierEpoch key current.epoch
          else v.activeVerifierEpoch
        pendingVerifier := update v.pendingVerifier key {}
        verifierRevoked := update v.verifierRevoked key true },
      [.verifierRevoked key activeEpoch current.epoch,
        .governanceWorkflowBound workflowId workflowPayloadHash d.revokeVerifierSelector])

/-- `setEmergencyPause` (ASCPCallEscrow.sol:327). -/
def setEmergencyPause (workflowId workflowPayloadHash : Bytes32) :
    Except Revert (Verifiers × List Log) :=
  if m.sender ≠ d.governor then .error (.notGovernor m.sender)
  else if v.emergencyPaused then .error .emergencyPaused
  else if ¬d.WorkflowBound governanceDomain d.setEmergencyPauseSelector
      (d.hashWords [natWord 0, natWord 1]) workflowId workflowPayloadHash then
    .error .invalidWorkflowBinding
  else
    .ok ({ v with emergencyPaused := true }, [.emergencyPauseSet,
        .governanceWorkflowBound workflowId workflowPayloadHash d.setEmergencyPauseSelector])

/-- `ack` (ASCPCallEscrow.sol:362). -/
def ack (callId : Bytes32) : Result :=
  let c := s.getCall callId
  if c.state ≠ .locked then .error (.wrongState callId c.state)
  else if m.sender ≠ c.ackAuthority then .error (.notAckAuthority m.sender)
  else if c.acceptBy.toNat < m.timestamp then .error .ackWindowClosed
  else
    .ok ({ s with calls := s.calls.insert callId { c with state := .acked } },
      [.callAcked callId c.operationId])

/-- The call holds its amount in the contract. -/
def State.isOpen : State → Bool
  | .locked | .acked => true
  | .none | .released | .refunded => false

/-- The check of an attestation against its call (ASCPCallEscrow.sol:409-416). -/
def VerdictAttestation.Invalid (timestamp : ℕ) (callId : Bytes32) (c : Call) (verdict : UInt8)
    (a : VerdictAttestation) : Prop :=
  a.verdict ≠ verdict ∨ a.callId ≠ callId ∨ a.commitmentHash ≠ c.commitmentHash ∨
    a.escrowContract ≠ d.this ∨ a.verificationSpecHash ≠ c.verificationSpecHash ∨
    a.verifierSoftwareHash = 0 ∨ a.deliveryHash = 0 ∨ a.evidenceHash = 0 ∨ a.deliveredAt = 0 ∨
    c.deliverBy.toNat < a.deliveredAt.toNat ∨ a.issuedAt.toNat < a.deliveredAt.toNat ∨
    timestamp < a.issuedAt.toNat ∨ a.validUntil.toNat ≤ a.issuedAt.toNat ∨
    maxAttestationWindow < a.validUntil.toNat - a.issuedAt.toNat ∨
    c.settleBy.toNat < a.validUntil.toNat ∨ a.validUntil.toNat < timestamp
deriving Decidable

/-- `_consumeVerdict` (ASCPCallEscrow.sol:402). -/
def consumeVerdict (callId : Bytes32) (a : VerdictAttestation) (signature : List (BitVec 8))
    (verdict : UInt8) : Except Revert Storage :=
  let c := s.getCall callId
  if s.emergencyPaused then .error .emergencyPaused
  else if c.state ≠ .locked ∧ c.state ≠ .acked then .error (.wrongState callId c.state)
  else if a.Invalid d m.timestamp callId c verdict then .error .invalidVerdict
  else if s.usedVerdictNonces a.verdictNonce then .error (.verdictNonceUsed a.verdictNonce)
  else
    match d.recover (d.verdictAttestationDigest a) signature with
    | none => .error .badSignature
    | some signer =>
      if s.verifierRevoked signer ∨ s.activeVerifierEpoch signer ≠ a.verifierEpoch ∨
          a.verifierEpoch = 0 then
        .error (.verifierNotActive signer a.verifierEpoch)
      else
        .ok { s with
          usedVerdictNonces := update s.usedVerdictNonces a.verdictNonce true }

/-- The end of `release`, `refundWithVerdict` and `claimExpired`: the state,
`totalLocked -= amount` and `safeTransfer`, with the event. -/
def settle (callId : Bytes32) (state : State) (recipient : Address) (log : Log) : Result :=
  let c := s.getCall callId
  if s.totalLocked < c.amount then .error .underflow
  else
    match transfer s.balance m.accepts d.this recipient c.amount with
    | none => .error .transferFailed
    | some balance =>
      .ok ({ s with
          totalLocked := s.totalLocked - c.amount
          calls := s.calls.insert callId { c with state }
          balance }, [.transfer d.this recipient c.amount, log])

/-- `release` (ASCPCallEscrow.sol:371). -/
def release (callId : Bytes32) (a : VerdictAttestation) (signature : List (BitVec 8)) : Result :=
  let c := s.getCall callId
  (consumeVerdict d s m callId a signature verdictRelease).bind fun s =>
    settle d s m callId .released c.payTo
      (.callReleased callId c.operationId c.commitmentHash a.deliveryHash a.evidenceHash c.payTo c.amount)

/-- `refundWithVerdict` (ASCPCallEscrow.sol:381). -/
def refundWithVerdict (callId : Bytes32) (a : VerdictAttestation) (signature : List (BitVec 8)) :
    Result :=
  let c := s.getCall callId
  (consumeVerdict d s m callId a signature verdictEarlyRefund).bind fun s =>
    settle d s m callId .refunded c.buyer (.callRefunded callId c.operationId c.buyer c.amount)

/-- `claimExpired` (ASCPCallEscrow.sol:428). -/
def claimExpired (callId : Bytes32) : Result :=
  let c := s.getCall callId
  if (c.state ≠ .locked ∧ c.state ≠ .acked) ∨ m.timestamp ≤ c.settleBy.toNat then
    .error (.refundNotAvailable callId c.state c.settleBy m.timestamp)
  else settle d s m callId .refunded c.buyer (.callRefunded callId c.operationId c.buyer c.amount)

/-- A method that writes only the verifiers. -/
def withVerifiers (r : Except Revert (Verifiers × List Log)) : Result :=
  r.bind fun (v, logs) => .ok ({ s with toVerifiers := v }, logs)

end

/-- A transaction. Other activity on the asset takes nothing from the contract, which
never gives an allowance. -/
def call (d : Deployment) (s : Storage) : Input → Result
  | .call m (.lockCall c seller resource sellerProof resourceProof) =>
    lockCall d s m c seller resource sellerProof resourceProof
  | .call m (.addVerifier key epoch workflowId payloadHash) =>
    withVerifiers s (addVerifier d s.toVerifiers m key epoch workflowId payloadHash)
  | .call m (.activateVerifier key) => withVerifiers s (activateVerifier s.toVerifiers m key)
  | .call m (.revokeVerifier key workflowId payloadHash) =>
    withVerifiers s (revokeVerifier d s.toVerifiers m key workflowId payloadHash)
  | .call m (.setEmergencyPause workflowId payloadHash) =>
    withVerifiers s (setEmergencyPause d s.toVerifiers m workflowId payloadHash)
  | .call m (.ack callId) => ack s m callId
  | .call m (.release callId a signature) => release d s m callId a signature
  | .call m (.refundWithVerdict callId a signature) => refundWithVerdict d s m callId a signature
  | .call m (.claimExpired callId) => claimExpired d s m callId
  | .asset balance =>
    if balance d.this < s.balance d.this then .error .transferFailed
    else .ok ({ s with balance }, [])

/-- The storage after the transactions, from a fresh deployment. -/
abbrev run (d : Deployment) (balance : Address → ℕ) (inputs : List Input) : Storage :=
  execute (call d) (Storage.init balance) inputs

/-- A transaction that was not reverted. -/
abbrev Taken := Success Storage Input (List Log)

abbrev history (d : Deployment) (balance : Address → ℕ) (inputs : List Input) : List Taken :=
  successes (call d) (Storage.init balance) inputs

/-! ## What a successful call did -/

/-- The checks of `lockCall`. -/
structure Lockable (d : Deployment) (s : Storage) (m : Msg) (c : ExecutionCommitment)
    (seller : SellerLeaf) (resource : ResourceLeaf) (sellerProof resourceProof : List Bytes32) :
    Prop where
  sender : m.sender = d.safe
  unpaused : s.emergencyPaused = false
  here : c.chainId = d.chainId ∧ c.escrowContract = d.this
  valid : ¬c.Invalid d
  deadlines : m.timestamp < c.acceptBy.toNat ∧ m.timestamp < c.quoteExpiresAt.toNat ∧
    c.acceptBy.toNat < c.deliverBy.toNat ∧ c.deliverBy.toNat < c.settleBy.toNat
  window : c.declaredWorkTime.toNat + max c.verificationBudgetSeconds.toNat minOnchainVerificationBuffer ≤
    c.deliverBy.toNat - m.timestamp
  margin : minSettlementMargin ≤ c.settleBy.toNat - m.timestamp
  version : c.directoryVersion = m.directory.currentVersion
  proofs : m.directory.verifySeller c.directoryVersion seller sellerProof ∧
    m.directory.verifyResource c.directoryVersion resource resourceProof
  available : seller.status = 1 ∧ m.directory.pausedSeller c.sellerId = false ∧
    m.directory.quoteKeyRevoked seller.quoteSigningKey = false
  terms : ¬c.Mismatch seller resource
  unused : (s.getCall (d.callId (d.executionCommitmentDigest c))).state = .none
  bound : s.totalLocked + c.amount < 2 ^ 256
  accepted : m.accepts
  paid : c.amount ≤ s.balance m.sender
  external : m.sender ≠ d.this

/-- The governor, or anyone for an activation, changes what verdicts are accepted. -/
inductive AuthorityChange (d : Deployment) (m : Msg) (v : Verifiers) :
    Method → Verifiers → List Log → Prop
  | add {key : Address} {epoch activatesAt : UInt64} {workflowId payloadHash : Bytes32}
      (hsender : m.sender = d.governor) (hrevoked : v.verifierRevoked key = false) (hepoch : epoch ≠ 0)
      (hactive : (v.activeVerifierEpoch key).toNat < epoch.toNat)
      (hat : delayed m.timestamp verifierActivationDelay = some activatesAt) :
      AuthorityChange d m v (.addVerifier key epoch workflowId payloadHash)
        { v with pendingVerifier := update v.pendingVerifier key ⟨epoch, activatesAt⟩ }
        [.verifierAdded key epoch activatesAt,
          .governanceWorkflowBound workflowId payloadHash d.addVerifierSelector]
  | activate {key : Address} (hepoch : (v.pendingVerifier key).epoch ≠ 0)
      (htime : (v.pendingVerifier key).activatesAt.toNat ≤ m.timestamp) :
      AuthorityChange d m v (.activateVerifier key)
        { v with
          activeVerifierEpoch :=
            update v.activeVerifierEpoch key (v.pendingVerifier key).epoch
          pendingVerifier := update v.pendingVerifier key {} }
        [.verifierActivated key (v.pendingVerifier key).epoch]
  | revoke {key : Address} {workflowId payloadHash : Bytes32} (hsender : m.sender = d.governor)
      (hrevoked : v.verifierRevoked key = false) :
      AuthorityChange d m v (.revokeVerifier key workflowId payloadHash)
        { v with
          activeVerifierEpoch :=
            if (v.activeVerifierEpoch key).toNat < (v.pendingVerifier key).epoch.toNat then
              update v.activeVerifierEpoch key (v.pendingVerifier key).epoch
            else v.activeVerifierEpoch
          pendingVerifier := update v.pendingVerifier key {}
          verifierRevoked := update v.verifierRevoked key true }
        [.verifierRevoked key (v.activeVerifierEpoch key) (v.pendingVerifier key).epoch,
          .governanceWorkflowBound workflowId payloadHash d.revokeVerifierSelector]
  | pause {workflowId payloadHash : Bytes32} (hsender : m.sender = d.governor)
      (hunpaused : v.emergencyPaused = false) :
      AuthorityChange d m v (.setEmergencyPause workflowId payloadHash)
        { v with emergencyPaused := true }
        [.emergencyPauseSet,
          .governanceWorkflowBound workflowId payloadHash d.setEmergencyPauseSelector]

/-- The checks of `_consumeVerdict`. -/
structure Verdict (d : Deployment) (s : Storage) (m : Msg) (callId : Bytes32) (a : VerdictAttestation)
    (signature : List (BitVec 8)) (verdict : UInt8) (signer : Address) : Prop where
  unpaused : s.emergencyPaused = false
  isOpen : (s.getCall callId).state.isOpen
  valid : ¬a.Invalid d m.timestamp callId (s.getCall callId) verdict
  nonce : s.usedVerdictNonces a.verdictNonce = false
  recovered : d.recover (d.verdictAttestationDigest a) signature = some signer
  unrevoked : s.verifierRevoked signer = false
  active : s.activeVerifierEpoch signer = a.verifierEpoch
  epoch : a.verifierEpoch ≠ 0

/-- `usedVerdictNonces[nonce] = true`. -/
def Verifiers.useNonce (v : Verifiers) (nonce : Bytes32) : Verifiers :=
  { v with usedVerdictNonces := update v.usedVerdictNonces nonce true }

inductive Settlement (d : Deployment) (s : Storage) (m : Msg) (callId : Bytes32) :
    Method → Verifiers → State → Address → Log → Prop
  | release {a : VerdictAttestation} {signature : List (BitVec 8)} {signer : Address}
      (h : Verdict d s m callId a signature verdictRelease signer) :
      Settlement d s m callId (.release callId a signature) (s.toVerifiers.useNonce a.verdictNonce)
        .released (s.getCall callId).payTo
        (.callReleased callId (s.getCall callId).operationId (s.getCall callId).commitmentHash
          a.deliveryHash a.evidenceHash (s.getCall callId).payTo (s.getCall callId).amount)
  | refund {a : VerdictAttestation} {signature : List (BitVec 8)} {signer : Address}
      (h : Verdict d s m callId a signature verdictEarlyRefund signer) :
      Settlement d s m callId (.refundWithVerdict callId a signature)
        (s.toVerifiers.useNonce a.verdictNonce) .refunded (s.getCall callId).buyer
        (.callRefunded callId (s.getCall callId).operationId (s.getCall callId).buyer
          (s.getCall callId).amount)
  | claim (hopen : (s.getCall callId).state.isOpen)
      (htime : (s.getCall callId).settleBy.toNat < m.timestamp) :
      Settlement d s m callId (.claimExpired callId) s.toVerifiers .refunded (s.getCall callId).buyer
        (.callRefunded callId (s.getCall callId).operationId (s.getCall callId).buyer
          (s.getCall callId).amount)

inductive Step (d : Deployment) (s : Storage) : Input → Storage → List Log → Prop
  | asset {balance : Address → ℕ} (h : s.balance d.this ≤ balance d.this) :
      Step d s (.asset balance) { s with balance } []
  | lock {m : Msg} {c : ExecutionCommitment} {seller : SellerLeaf} {resource : ResourceLeaf}
      {sellerProof resourceProof : List Bytes32} {hash : Bytes32}
      (h : Lockable d s m c seller resource sellerProof resourceProof)
      (hhash : hash = d.executionCommitmentDigest c) :
      Step d s (.call m (.lockCall c seller resource sellerProof resourceProof))
        { s with
          totalLocked := s.totalLocked + c.amount
          calls := s.calls.insert (d.callId hash) (c.call m.sender hash)
          balance := moved s.balance m.sender d.this c.amount }
        [.transfer m.sender d.this c.amount,
          .callLocked (d.callId hash) c.operationId hash m.sender c.payTo c.amount c.settleBy]
  | ack {m : Msg} {callId : Bytes32} (hstate : (s.getCall callId).state = .locked)
      (hsender : m.sender = (s.getCall callId).ackAuthority)
      (htime : m.timestamp ≤ (s.getCall callId).acceptBy.toNat) :
      Step d s (.call m (.ack callId))
        { s with calls := s.calls.insert callId { s.getCall callId with state := .acked } }
        [.callAcked callId (s.getCall callId).operationId]
  | settle {m : Msg} {callId : Bytes32} {method : Method} {v : Verifiers} {state : State}
      {recipient : Address} {log : Log} (h : Settlement d s m callId method v state recipient log)
      (hlocked : (s.getCall callId).amount ≤ s.totalLocked) (haccepts : m.accepts)
      (hbalance : (s.getCall callId).amount ≤ s.balance d.this) :
      Step d s (.call m method)
        { toVerifiers := v
          totalLocked := s.totalLocked - (s.getCall callId).amount
          calls := s.calls.insert callId { s.getCall callId with state }
          balance := moved s.balance d.this recipient (s.getCall callId).amount }
        [.transfer d.this recipient (s.getCall callId).amount, log]
  | authority {m : Msg} {method : Method} {v : Verifiers} {o : List Log}
      (h : AuthorityChange d m s.toVerifiers method v o) :
      Step d s (.call m method) { s with toVerifiers := v } o

section

variable {d : Deployment} {s s' : Storage} {m : Msg} {callId : Bytes32} {o : List Log}

lemma isOpen_iff {state : State} : state.isOpen ↔ ¬(state ≠ .locked ∧ state ≠ .acked) := by
  cases state <;> simp [State.isOpen]

lemma storeAndFund_ok {c : ExecutionCommitment} {hash : Bytes32}
    (h : storeAndFund d s m c hash = .ok (s', o)) (hamount : c.amount ≠ 0) :
    ((s.getCall (d.callId hash)).state = .none ∧ s.totalLocked + c.amount < 2 ^ 256 ∧
        m.accepts ∧ c.amount ≤ s.balance m.sender ∧ m.sender ≠ d.this) ∧
      { s with
        totalLocked := s.totalLocked + c.amount
        calls := s.calls.insert (d.callId hash) (c.call m.sender hash)
        balance := moved s.balance m.sender d.this c.amount } = s' ∧
      [.transfer m.sender d.this c.amount,
        .callLocked (d.callId hash) c.operationId hash m.sender c.payTo c.amount c.settleBy] = o := by
  simp only [storeAndFund, guard_ok, not_not, not_le] at h
  obtain ⟨hunused, hbound, h⟩ := h
  cases ht : transfer s.balance m.accepts m.sender d.this c.amount with
  | none => simp [ht] at h
  | some balance =>
    simp only [ht, guard_ok, not_not, ok_pair_eq] at h
    obtain ⟨hexact, rfl, rfl⟩ := h
    obtain ⟨haccepts, hpaid, rfl⟩ := transfer_eq_some.mp ht
    exact ⟨⟨hunused, hbound, haccepts, hpaid, ne_of_received hpaid hamount hexact⟩, rfl, rfl⟩

lemma lockCall_ok {c : ExecutionCommitment} {seller : SellerLeaf} {resource : ResourceLeaf}
    {sellerProof resourceProof : List Bytes32}
    (h : lockCall d s m c seller resource sellerProof resourceProof = .ok (s', o)) :
    Step d s (.call m (.lockCall c seller resource sellerProof resourceProof)) s' o := by
  simp only [lockCall, guard_ok, not_not, not_lt, not_le, not_or, Bool.not_eq_true,
    Bool.not_eq_false] at h
  obtain ⟨hsender, hpaused, hchain, hescrow, hvalid, hdeadlines, -, hwindow, hmargin, hversion, hseller,
    hresource, havailable, hterms, h⟩ := h
  have hamount : c.amount ≠ 0 := fun h0 => hvalid (by simp [ExecutionCommitment.Invalid, h0])
  obtain ⟨⟨hunused, hbound, haccepts, hpaid, hexternal⟩, rfl, rfl⟩ := storeAndFund_ok h hamount
  exact .lock ⟨hsender, hpaused, ⟨hchain, hescrow⟩, hvalid, hdeadlines, hwindow, hmargin, hversion,
    ⟨hseller, hresource⟩, havailable, hterms, hunused, hbound, haccepts, hpaid, hexternal⟩ rfl

lemma consumeVerdict_ok {a : VerdictAttestation} {signature : List (BitVec 8)} {verdict : UInt8} :
    consumeVerdict d s m callId a signature verdict = .ok s' ↔
      (∃ signer, Verdict d s m callId a signature verdict signer) ∧
        { s with toVerifiers := s.toVerifiers.useNonce a.verdictNonce } = s' := by
  simp only [consumeVerdict, guard_ok, ← isOpen_iff, Bool.not_eq_true]
  cases hr : d.recover (d.verdictAttestationDigest a) signature with
  | none =>
    simp only [reduceCtorEq, and_false, false_iff]
    rintro ⟨⟨signer, hv⟩, -⟩
    exact absurd (hr.symm.trans hv.recovered) (by simp)
  | some signer =>
    simp only [guard_ok, not_or, not_not, Bool.not_eq_true, Except.ok.injEq]
    constructor
    · rintro ⟨hunpaused, hopen, hvalid, hnonce, ⟨hrevoked, hactive, hepoch⟩, rfl⟩
      exact ⟨⟨signer, hunpaused, hopen, hvalid, hnonce, hr, hrevoked, hactive, hepoch⟩, rfl⟩
    · rintro ⟨⟨signer', hv⟩, rfl⟩
      obtain rfl : signer = signer' := Option.some.inj (hr.symm.trans hv.recovered)
      exact ⟨hv.unpaused, hv.isOpen, hv.valid, hv.nonce, ⟨hv.unrevoked, hv.active, hv.epoch⟩, rfl⟩

lemma settle_ok {state : State} {recipient : Address} {log : Log} :
    settle d s m callId state recipient log = .ok (s', o) ↔
      (s.getCall callId).amount ≤ s.totalLocked ∧ m.accepts ∧
        (s.getCall callId).amount ≤ s.balance d.this ∧
        { s with
          totalLocked := s.totalLocked - (s.getCall callId).amount
          calls := s.calls.insert callId { s.getCall callId with state }
          balance := moved s.balance d.this recipient (s.getCall callId).amount } = s' ∧
        [.transfer d.this recipient (s.getCall callId).amount, log] = o := by
  simp only [settle, guard_ok, not_lt]
  cases ht : transfer s.balance m.accepts d.this recipient (s.getCall callId).amount with
  | none =>
    simp only [reduceCtorEq, and_false, false_iff]
    rintro ⟨-, haccepts, hbalance, -⟩
    simp [transfer, haccepts, hbalance] at ht
  | some balance =>
    obtain ⟨haccepts, hbalance, rfl⟩ := transfer_eq_some.mp ht
    simp [haccepts, hbalance]

lemma withVerifiers_ok {r : Except Revert (Verifiers × List Log)} :
    withVerifiers s r = .ok (s', o) ↔ ∃ v, r = .ok (v, o) ∧ { s with toVerifiers := v } = s' := by
  simp only [withVerifiers, bind_eq_ok, ok_pair_eq]
  constructor
  · rintro ⟨⟨v, logs⟩, h, rfl, rfl⟩
    exact ⟨v, h, rfl⟩
  · rintro ⟨v, h, rfl⟩
    exact ⟨(v, o), h, rfl, rfl⟩

lemma addVerifier_ok {v v' : Verifiers} {key : Address} {epoch : UInt64}
    {workflowId payloadHash : Bytes32}
    (h : addVerifier d v m key epoch workflowId payloadHash = .ok (v', o)) :
    AuthorityChange d m v (.addVerifier key epoch workflowId payloadHash) v' o := by
  simp only [addVerifier, guard_ok, not_not, not_or, not_le, Bool.not_eq_true] at h
  obtain ⟨hsender, ⟨-, hrevoked, hepoch, hactive, -⟩, -, h⟩ := h
  split at h
  · cases h
  · rename_i activatesAt hat
    simp only [ok_pair_eq] at h
    obtain ⟨rfl, rfl⟩ := h
    exact .add hsender hrevoked hepoch hactive hat

lemma call_ok {i : Input} (h : call d s i = .ok (s', o)) : Step d s i s' o := by
  match i with
  | .call m (.lockCall c seller resource sellerProof resourceProof) => exact lockCall_ok h
  | .call m (.addVerifier key epoch workflowId payloadHash) =>
    obtain ⟨v, hv, rfl⟩ := withVerifiers_ok.mp h
    exact .authority (addVerifier_ok hv)
  | .call m (.activateVerifier key) =>
    obtain ⟨v, hv, rfl⟩ := withVerifiers_ok.mp h
    simp only [activateVerifier, guard_ok, not_or, not_lt, ok_pair_eq] at hv
    obtain ⟨⟨hepoch, htime⟩, rfl, rfl⟩ := hv
    exact .authority (.activate hepoch htime)
  | .call m (.revokeVerifier key workflowId payloadHash) =>
    obtain ⟨v, hv, rfl⟩ := withVerifiers_ok.mp h
    simp only [revokeVerifier, guard_ok, not_not, not_or, Bool.not_eq_true, ok_pair_eq] at hv
    obtain ⟨hsender, ⟨-, -, hrevoked⟩, -, rfl, rfl⟩ := hv
    exact .authority (.revoke hsender hrevoked)
  | .call m (.setEmergencyPause workflowId payloadHash) =>
    obtain ⟨v, hv, rfl⟩ := withVerifiers_ok.mp h
    simp only [setEmergencyPause, guard_ok, not_not, Bool.not_eq_true, ok_pair_eq] at hv
    obtain ⟨hsender, hunpaused, -, rfl, rfl⟩ := hv
    exact .authority (.pause hsender hunpaused)
  | .call m (.ack callId) =>
    simp only [call, ack, guard_ok, not_not, not_lt, ok_pair_eq] at h
    obtain ⟨hstate, hsender, htime, rfl, rfl⟩ := h
    exact .ack hstate hsender htime
  | .call m (.release callId a signature) =>
    obtain ⟨s₁, hconsume, h⟩ := bind_eq_ok.mp h
    obtain ⟨⟨signer, hverdict⟩, rfl⟩ := consumeVerdict_ok.mp hconsume
    obtain ⟨hlocked, haccepts, hbalance, rfl, rfl⟩ := settle_ok.mp h
    exact .settle (.release hverdict) hlocked haccepts hbalance
  | .call m (.refundWithVerdict callId a signature) =>
    obtain ⟨s₁, hconsume, h⟩ := bind_eq_ok.mp h
    obtain ⟨⟨signer, hverdict⟩, rfl⟩ := consumeVerdict_ok.mp hconsume
    obtain ⟨hlocked, haccepts, hbalance, rfl, rfl⟩ := settle_ok.mp h
    exact .settle (.refund hverdict) hlocked haccepts hbalance
  | .call m (.claimExpired callId) =>
    simp only [call, claimExpired, guard_ok, not_or, ← isOpen_iff, not_le, settle_ok] at h
    obtain ⟨⟨hopen, htime⟩, hlocked, haccepts, hbalance, rfl, rfl⟩ := h
    exact .settle (.claim hopen htime) hlocked haccepts hbalance
  | .asset balance =>
    simp only [call, guard_ok, not_lt, ok_pair_eq] at h
    obtain ⟨hbalance, rfl, rfl⟩ := h
    exact .asset hbalance

end

end FlowOps.ASCPCallEscrow

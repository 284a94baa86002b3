import FlowOps.Contracts.ASCPCallEscrow

/-!
# `ASCPSpendModule`

The execution boundary of `ASCPSpendModule.sol`. An authorizer signs a lock or an
allowance; the module checks it against the caps that are active, consumes its nonce and
lets the Safe execute it. The Safe itself changes the caps, in two steps, and can
invalidate nonces.

What a transaction reads of other contracts is part of it (`Msg`): the code of the
escrows, their digests, the allowance of the token, and whether the Safe executes the
payload. The Safe forwards the payload to the escrow or the token, which call nothing
back. A call that reverts changes nothing, so neither does one that the Safe fails.

`call_ok` says what a call that succeeds has checked and done.
-/

namespace FlowOps.ASCPSpendModule

open Evm Function
open ASCPCallEscrow (ExecutionCommitment)
open ServiceDirectory (SellerLeaf ResourceLeaf)

/-! ## Storage -/

/-- `LockAuthorization` (ASCPSpendModule.sol:36). -/
structure LockAuthorization where
  orgDomain : Bytes32
  (safe module : Address)
  (operationId commitmentHash calldataHash : Bytes32)
  escrow : Address
  amount : ℕ
  nonce : Bytes32
  (validAfter validBefore leadershipEpoch authorizerEpoch : UInt64)

/-- `AllowanceAuthorization` (ASCPSpendModule.sol:52). -/
structure AllowanceAuthorization where
  orgDomain : Bytes32
  (safe module : Address)
  adminOperationId : Bytes32
  (token spender : Address)
  (expectedAllowance newAllowance : ℕ)
  nonce : Bytes32
  (validAfter validBefore leadershipEpoch authorizerEpoch : UInt64)

/-- `Caps` (ASCPSpendModule.sol:68). -/
structure Caps where
  (perTransaction perDay allowanceCeiling : ℕ)
deriving DecidableEq

/-- `_validateCaps` (ASCPSpendModule.sol:530) does not revert. -/
def Caps.Valid (c : Caps) : Prop :=
  0 < c.perTransaction ∧ c.perTransaction ≤ c.perDay ∧ 0 < c.allowanceCeiling
deriving Decidable

/-- `_validateCaps` reverts. -/
def Caps.Invalid (c : Caps) : Prop :=
  c.perTransaction = 0 ∨ c.perDay = 0 ∨ c.perDay < c.perTransaction ∨ c.allowanceCeiling = 0
deriving Decidable

lemma Caps.not_invalid {c : Caps} : ¬c.Invalid ↔ c.Valid := by
  simp only [Caps.Invalid, Caps.Valid, not_or, not_lt]
  omega

/-- `PendingCaps` (ASCPSpendModule.sol:74), with the zero values of an empty slot. -/
structure PendingCaps where
  values : Caps := ⟨0, 0, 0⟩
  activatesAt : UInt64 := 0
deriving DecidableEq

/-- A deployed contract: its immutables and the arguments of its constructor, which have
passed its checks. -/
structure Deployment extends Host where
  (safe token spendAuthorizer : Address)
  initialCaps : Caps
  authorizer_ne : spendAuthorizer ≠ 0
  caps_valid : initialCaps.Valid

structure Storage where
  spendAuthorizer : Address
  authorizerEpoch : UInt64 := 1
  emergencyPaused : Bool := false
  caps : Caps
  pendingCaps : PendingCaps := {}
  executedPrincipal : ℕ := 0
  escrowAllowlist : Address → Bytes32 := fun _ => 0
  usedNonces : Bytes32 → Bool := fun _ => false
  dayExecutedPrincipal : Dict ℕ ℕ := ∅

variable (d : Deployment)

def Storage.init : Storage where
  spendAuthorizer := d.spendAuthorizer
  caps := d.initialCaps

/-- `dayExecutedPrincipal[utcDay]`. -/
def Storage.dayTotal (s : Storage) (utcDay : ℕ) : ℕ := (s.dayExecutedPrincipal.lookup utcDay).getD 0

/-! ## Hashes -/

/-- `MAX_AUTHORIZATION_WINDOW` (ASCPSpendModule.sol:24). -/
def maxAuthorizationWindow : ℕ := 10 * 60

/-- `CAP_ACTIVATION_DELAY` (ASCPSpendModule.sol:25). -/
def capActivationDelay : ℕ := 60 * 60

/-- `MAX_GOVERNANCE_NONCE_INVALIDATIONS` (ASCPSpendModule.sol:27). -/
def maxGovernanceNonceInvalidations : ℕ := 100

/-- The text of `GOVERNANCE_PAYLOAD_DOMAIN` (ASCPSpendModule.sol:29). -/
def governanceDomain : String := "ASCP_SPEND_MODULE_GOVERNANCE_V1"

structure LockArguments where
  commitment : ExecutionCommitment
  seller : SellerLeaf
  resource : ResourceLeaf
  (sellerProof resourceProof : List Bytes32)

/-- The static words of the arguments: the two arrays are given by their offsets. -/
def LockArguments.head (l : LockArguments) : List Bytes32 :=
  l.commitment.words ++ l.seller.words ++ l.resource.words ++
    [natWord (32 * 39), natWord (32 * 39 + 32 * (l.sellerProof.length + 1))]

namespace Deployment

variable (d : Deployment)

def lockCallSelector : BitVec 32 := d.selector
  "lockCall((bytes32,bytes32,uint8,uint16,uint8,address,bytes32,bytes32,bytes32,uint64,uint64,uint64,bytes32,bytes32,address,address,uint256,uint256,address,uint64,uint64,uint64,uint64),(bytes32,address,address,address,uint64,bytes32,uint8),(bytes32,bytes32,uint256,bool,bytes32,uint64,uint64),bytes32[],bytes32[])"

/-- `abi.encodeWithSelector(ASCPCallEscrow.lockCall.selector, …)`. -/
def encodeLock (l : LockArguments) : List (BitVec 8) :=
  selectorBytes d.lockCallSelector ++
    abiEncode (l.head ++ arrayWords l.sellerProof ++ arrayWords l.resourceProof)

/-- `abi.encodeCall(IERC20.approve, (spender, amount))`. -/
def encodeApprove (spender : Address) (amount : ℕ) : List (BitVec 8) :=
  selectorBytes (d.selector "approve(address,uint256)") ++
    abiEncode [addressWord spender, natWord amount]

/-- `lockAuthorizationDigest` (ASCPSpendModule.sol:247). -/
def lockAuthorizationDigest (a : LockAuthorization) : Bytes32 :=
  d.typedDataDigest (d.hashWords
    [d.hashText "LockAuthorization(bytes32 orgDomain,address safe,address module,bytes32 operationId,bytes32 commitmentHash,bytes32 calldataHash,address escrow,uint256 amount,uint256 nonce,uint64 validAfter,uint64 validBefore,uint64 leadershipEpoch,uint64 authorizerEpoch)",
      a.orgDomain, addressWord a.safe, addressWord a.module, a.operationId, a.commitmentHash,
      a.calldataHash, addressWord a.escrow, natWord a.amount, a.nonce, natWord a.validAfter.toNat,
      natWord a.validBefore.toNat, natWord a.leadershipEpoch.toNat, natWord a.authorizerEpoch.toNat])

/-- `allowanceAuthorizationDigest` (ASCPSpendModule.sol:270). -/
def allowanceAuthorizationDigest (a : AllowanceAuthorization) : Bytes32 :=
  d.typedDataDigest (d.hashWords
    [d.hashText "AllowanceAuthorization(bytes32 orgDomain,address safe,address module,bytes32 adminOperationId,address token,address spender,uint256 expectedAllowance,uint256 newAllowance,uint256 nonce,uint64 validAfter,uint64 validBefore,uint64 leadershipEpoch,uint64 authorizerEpoch)",
      a.orgDomain, addressWord a.safe, addressWord a.module, a.adminOperationId, addressWord a.token,
      addressWord a.spender, natWord a.expectedAllowance, natWord a.newAllowance, a.nonce,
      natWord a.validAfter.toNat, natWord a.validBefore.toNat, natWord a.leadershipEpoch.toNat,
      natWord a.authorizerEpoch.toNat])

/-- The selectors of the methods that a workflow names. -/
def setSpendAuthorizerSelector : BitVec 32 := d.selector "setSpendAuthorizer(address,bytes32,bytes32)"

def setEscrowAllowlistSelector : BitVec 32 :=
  d.selector "setEscrowAllowlist(address,bytes32,bytes32,bytes32)"

def scheduleCapsSelector : BitVec 32 :=
  d.selector "scheduleCaps((uint256,uint256,uint256),bytes32,bytes32)"

def setEmergencyPauseSelector : BitVec 32 := d.selector "setEmergencyPause(bool,bytes32,bytes32)"

def invalidateNoncesSelector : BitVec 32 := d.selector "invalidateNonces(uint256[],bytes32,bytes32)"

end Deployment

def Caps.words (c : Caps) : List Bytes32 :=
  [natWord c.perTransaction, natWord c.perDay, natWord c.allowanceCeiling]

/-! ## Methods -/

/-- The errors of the contract, the panic of checked arithmetic, and the reverts of
`ECDSA.recover`, `abi.decode` and the escrow's digest. -/
inductive Revert where
  | notSafe (caller : Address)
  | invalidContract (account : Address)
  | invalidAuthorizer | emergencyPaused | invalidAuthorization | authorizationWindowInvalid
  | nonceAlreadyUsed (nonce : Bytes32)
  | invalidSignature (recovered : Address)
  | calldataMismatch
  | escrowNotAllowlisted (escrow : Address)
  | escrowCodeHashMismatch (escrow : Address) (expected actual : Bytes32)
  | invalidLockPayload | invalidAllowancePayload
  | allowanceMismatch (expected actual : ℕ)
  | perTransactionCapExceeded (amount limit : ℕ)
  | dailyCapExceeded (attempted limit : ℕ)
  | allowanceCeilingExceeded (amount limit : ℕ)
  | safeExecutionFailed | invalidCaps
  | capsNotReady (activatesAt : UInt64)
  | capsAlreadyPending (activatesAt : UInt64)
  | capsUnchanged
  | escrowAllowlistUnchanged (escrow : Address) (runtimeCodeHash : Bytes32)
  | invalidNonceInvalidationCount (count : ℕ)
  | invalidWorkflowBinding
  | pauseUnchanged (paused : Bool)
  | overflow | badSignature | badEncoding | badCommitment
deriving DecidableEq

inductive Log where
  | lockExecuted (operationId nonce : Bytes32) (escrow : Address) (commitmentHash : Bytes32)
      (amount utcDay : ℕ)
  | allowanceExecuted (adminOperationId nonce : Bytes32) (spender : Address)
      (previousAllowance newAllowance : ℕ)
  | spendAuthorizerSet (authorizer : Address) (authorizerEpoch : UInt64)
  | escrowAllowlistSet (escrow : Address) (runtimeCodeHash : Bytes32)
  | capsScheduled (values : Caps) (activatesAt : UInt64)
  | capsActivated (values : Caps)
  | emergencyPauseSet (paused : Bool)
  | nonceInvalidated (nonce : Bytes32)
  | governanceWorkflowBound (workflowId workflowPayloadHash : Bytes32) (functionSelector : BitVec 32)
deriving DecidableEq

/-- `msg.sender`, `block.timestamp`, and what the transaction reads of other contracts. -/
structure Msg where
  sender : Address
  timestamp : ℕ
  /-- `account.code.length != 0` and `account.codehash`. -/
  hasCode : Address → Bool
  codehash : Address → Bytes32
  /-- `abi.decode` of the arguments of `lockCall`. -/
  decodeLock : List (BitVec 8) → Option LockArguments
  /-- `executionCommitmentDigest` of the escrow at an address, for itself and this chain. -/
  executionCommitmentDigest : Address → ExecutionCommitment → Option Bytes32
  /-- `token.allowance(safe, spender)`. -/
  allowance : Address → ℕ
  /-- `execTransactionFromModule` returns true. -/
  safeSucceeds : Bool

/-- The external methods that write, and their arguments. -/
inductive Method where
  | executeLock (payload : List (BitVec 8)) (authorization : LockAuthorization)
      (signature : List (BitVec 8))
  | executeAllowance (payload : List (BitVec 8)) (authorization : AllowanceAuthorization)
      (signature : List (BitVec 8))
  | setSpendAuthorizer (newAuthorizer : Address) (workflowId workflowPayloadHash : Bytes32)
  | setEscrowAllowlist (escrow : Address) (runtimeCodeHash workflowId workflowPayloadHash : Bytes32)
  | scheduleCaps (newCaps : Caps) (workflowId workflowPayloadHash : Bytes32)
  | activateCaps
  | setEmergencyPause (paused : Bool) (workflowId workflowPayloadHash : Bytes32)
  | invalidateNonces (nonces : List Bytes32) (workflowId workflowPayloadHash : Bytes32)

structure Input where
  msg : Msg
  method : Method

variable (s : Storage) (m : Msg)

/-- `_requireActiveAuthorization` (ASCPSpendModule.sol:429). -/
def requireActiveAuthorization (safe module : Address) (orgDomain actionId nonce : Bytes32)
    (validAfter validBefore leadershipEpoch authorizerEpoch : UInt64) : Except Revert Unit :=
  if s.emergencyPaused then .error .emergencyPaused
  else if safe ≠ d.safe ∨ module ≠ d.this ∨ orgDomain = 0 ∨ actionId = 0 ∨ nonce = 0 ∨
      leadershipEpoch = 0 ∨ authorizerEpoch ≠ s.authorizerEpoch then
    .error .invalidAuthorization
  else if validBefore.toNat ≤ validAfter.toNat ∨
      maxAuthorizationWindow < validBefore.toNat - validAfter.toNat ∨
      m.timestamp < validAfter.toNat ∨ validBefore.toNat ≤ m.timestamp then
    .error .authorizationWindowInvalid
  else if s.usedNonces nonce then .error (.nonceAlreadyUsed nonce)
  else .ok ()

/-- `_requireAllowlisted` (ASCPSpendModule.sol:453). -/
def requireAllowlisted (escrow : Address) : Except Revert Unit :=
  if s.escrowAllowlist escrow = 0 then .error (.escrowNotAllowlisted escrow)
  else if m.hasCode escrow = false ∨ m.codehash escrow ≠ s.escrowAllowlist escrow then
    .error (.escrowCodeHashMismatch escrow (s.escrowAllowlist escrow) (m.codehash escrow))
  else .ok ()

/-- `_decodeCanonicalLock` (ASCPSpendModule.sol:462): the commitment. -/
def decodeCanonicalLock (payload : List (BitVec 8)) : Except Revert ExecutionCommitment :=
  if payload.length < 4 ∨ payload.take 4 ≠ selectorBytes d.lockCallSelector then
    .error .invalidLockPayload
  else
    match m.decodeLock (payload.drop 4) with
    | none => .error .badEncoding
    | some l =>
      if d.keccak256 payload ≠ d.keccak256 (d.encodeLock l) then .error .invalidLockPayload
      else .ok l.commitment

/-- `_validateLockPayload` (ASCPSpendModule.sol:496). -/
def validateLockPayload (payload : List (BitVec 8)) (a : LockAuthorization) : Except Revert Unit :=
  (decodeCanonicalLock d m payload).bind fun c =>
    if c.operationId ≠ a.operationId ∨ c.escrowContract ≠ a.escrow ∨ c.asset ≠ d.token ∨
        c.amount ≠ a.amount then
      .error .invalidLockPayload
    else
      match m.executionCommitmentDigest a.escrow c with
      | none => .error .badCommitment
      | some commitmentHash =>
        if commitmentHash ≠ a.commitmentHash then .error .invalidLockPayload else .ok ()

/-- `digest.recover(signature)` and its comparison with the authorizer. -/
def requireSigned (digest : Bytes32) (signature : List (BitVec 8)) : Except Revert Unit :=
  match d.recover digest signature with
  | none => .error .badSignature
  | some recovered =>
    if recovered ≠ s.spendAuthorizer then .error (.invalidSignature recovered) else .ok ()

/-- What a transaction returns. -/
abbrev Result := Except Revert (Storage × List Log)

/-- `executeLock` (ASCPSpendModule.sol:163). -/
def executeLock (payload : List (BitVec 8)) (a : LockAuthorization) (signature : List (BitVec 8)) :
    Result :=
  (requireActiveAuthorization d s m a.safe a.module a.orgDomain a.operationId a.nonce a.validAfter
      a.validBefore a.leadershipEpoch a.authorizerEpoch).bind fun () =>
    if d.keccak256 payload ≠ a.calldataHash then .error .calldataMismatch
    else
      (requireAllowlisted s m a.escrow).bind fun () =>
      (validateLockPayload d m payload a).bind fun () =>
      (requireSigned d s (d.lockAuthorizationDigest a) signature).bind fun () =>
        let utcDay := m.timestamp / 86400
        let nextDayTotal := s.dayTotal utcDay + a.amount
        if s.caps.perTransaction < a.amount then
          .error (.perTransactionCapExceeded a.amount s.caps.perTransaction)
        else if 2 ^ 256 ≤ nextDayTotal then .error .overflow
        else if s.caps.perDay < nextDayTotal then .error (.dailyCapExceeded nextDayTotal s.caps.perDay)
        else if 2 ^ 256 ≤ s.executedPrincipal + a.amount then .error .overflow
        else if m.safeSucceeds = false then .error .safeExecutionFailed
        else
          .ok ({ s with
              usedNonces := update s.usedNonces a.nonce true
              dayExecutedPrincipal := s.dayExecutedPrincipal.insert utcDay nextDayTotal
              executedPrincipal := s.executedPrincipal + a.amount },
            [.lockExecuted a.operationId a.nonce a.escrow a.commitmentHash a.amount utcDay])

/-- `executeAllowance` (ASCPSpendModule.sol:201). -/
def executeAllowance (payload : List (BitVec 8)) (a : AllowanceAuthorization)
    (signature : List (BitVec 8)) : Result :=
  (requireActiveAuthorization d s m a.safe a.module a.orgDomain a.adminOperationId a.nonce a.validAfter
      a.validBefore a.leadershipEpoch a.authorizerEpoch).bind fun () =>
    if a.token ≠ d.token then .error .invalidAuthorization
    else if d.keccak256 payload ≠ d.keccak256 (d.encodeApprove a.spender a.newAllowance) then
      .error .invalidAllowancePayload
    else
      (requireAllowlisted s m a.spender).bind fun () =>
      (requireSigned d s (d.allowanceAuthorizationDigest a) signature).bind fun () =>
        if m.allowance a.spender ≠ a.expectedAllowance then
          .error (.allowanceMismatch a.expectedAllowance (m.allowance a.spender))
        else if s.caps.allowanceCeiling < a.newAllowance then
          .error (.allowanceCeilingExceeded a.newAllowance s.caps.allowanceCeiling)
        else if m.safeSucceeds = false then .error .safeExecutionFailed
        else
          .ok ({ s with usedNonces := update s.usedNonces a.nonce true },
            [.allowanceExecuted a.adminOperationId a.nonce a.spender (m.allowance a.spender)
              a.newAllowance])

/-- `setSpendAuthorizer` (ASCPSpendModule.sol:293). -/
def setSpendAuthorizer (newAuthorizer : Address) (workflowId workflowPayloadHash : Bytes32) :
    Result :=
  if m.sender ≠ d.safe then .error (.notSafe m.sender)
  else if newAuthorizer = 0 then .error .invalidAuthorizer
  else if ¬d.WorkflowBound governanceDomain d.setSpendAuthorizerSelector
      (d.hashWords [addressWord s.spendAuthorizer, natWord s.authorizerEpoch.toNat,
        addressWord newAuthorizer]) workflowId workflowPayloadHash then
    .error .invalidWorkflowBinding
  else if 2 ^ 64 ≤ s.authorizerEpoch.toNat + 1 then .error .overflow
  else
    .ok ({ s with spendAuthorizer := newAuthorizer, authorizerEpoch := s.authorizerEpoch + 1 },
      [.spendAuthorizerSet newAuthorizer (s.authorizerEpoch + 1),
        .governanceWorkflowBound workflowId workflowPayloadHash d.setSpendAuthorizerSelector])

/-- `setEscrowAllowlist` (ASCPSpendModule.sol:310). -/
def setEscrowAllowlist (escrow : Address) (runtimeCodeHash workflowId workflowPayloadHash : Bytes32)
    : Result :=
  if m.sender ≠ d.safe then .error (.notSafe m.sender)
  else if s.escrowAllowlist escrow = runtimeCodeHash then
    .error (.escrowAllowlistUnchanged escrow runtimeCodeHash)
  else if ¬d.WorkflowBound governanceDomain d.setEscrowAllowlistSelector
      (d.hashWords [addressWord escrow, s.escrowAllowlist escrow, runtimeCodeHash]) workflowId
      workflowPayloadHash then
    .error .invalidWorkflowBinding
  else if runtimeCodeHash ≠ 0 ∧ m.hasCode escrow = false then .error (.invalidContract escrow)
  else if runtimeCodeHash ≠ 0 ∧ m.codehash escrow ≠ runtimeCodeHash then
    .error (.escrowCodeHashMismatch escrow runtimeCodeHash (m.codehash escrow))
  else
    .ok ({ s with escrowAllowlist := update s.escrowAllowlist escrow runtimeCodeHash },
      [.escrowAllowlistSet escrow runtimeCodeHash,
        .governanceWorkflowBound workflowId workflowPayloadHash d.setEscrowAllowlistSelector])

/-- `scheduleCaps` (ASCPSpendModule.sol:334). -/
def scheduleCaps (newCaps : Caps) (workflowId workflowPayloadHash : Bytes32) : Result :=
  if m.sender ≠ d.safe then .error (.notSafe m.sender)
  else if newCaps.Invalid then .error .invalidCaps
  else if s.pendingCaps.activatesAt ≠ 0 then .error (.capsAlreadyPending s.pendingCaps.activatesAt)
  else if newCaps = s.caps then .error .capsUnchanged
  else if ¬d.WorkflowBound governanceDomain d.scheduleCapsSelector
      (d.hashWords (s.caps.words ++ newCaps.words)) workflowId workflowPayloadHash then
    .error .invalidWorkflowBinding
  else
    match delayed m.timestamp capActivationDelay with
    | none => .error .overflow
    | some activatesAt =>
      .ok ({ s with pendingCaps := ⟨newCaps, activatesAt⟩ }, [.capsScheduled newCaps activatesAt,
          .governanceWorkflowBound workflowId workflowPayloadHash d.scheduleCapsSelector])

/-- `activateCaps` (ASCPSpendModule.sol:362). -/
def activateCaps : Result :=
  if s.pendingCaps.activatesAt = 0 ∨ m.timestamp < s.pendingCaps.activatesAt.toNat then
    .error (.capsNotReady s.pendingCaps.activatesAt)
  else
    .ok ({ s with caps := s.pendingCaps.values, pendingCaps := {} },
      [.capsActivated s.pendingCaps.values])

/-- `setEmergencyPause` (ASCPSpendModule.sol:372). -/
def setEmergencyPause (paused : Bool) (workflowId workflowPayloadHash : Bytes32) : Result :=
  if m.sender ≠ d.safe then .error (.notSafe m.sender)
  else if s.emergencyPaused = paused then .error (.pauseUnchanged paused)
  else if ¬d.WorkflowBound governanceDomain d.setEmergencyPauseSelector
      (d.hashWords [natWord s.emergencyPaused.toNat, natWord paused.toNat]) workflowId
      workflowPayloadHash then
    .error .invalidWorkflowBinding
  else
    .ok ({ s with emergencyPaused := paused }, [.emergencyPauseSet paused,
        .governanceWorkflowBound workflowId workflowPayloadHash d.setEmergencyPauseSelector])

/-- The body of the loop of `invalidateNonces` (ASCPSpendModule.sol:397-400). -/
def invalidateNonce (usedNonces : Bytes32 → Bool) (nonce : Bytes32) :
    Except Revert (Bytes32 → Bool) :=
  if nonce = 0 ∨ usedNonces nonce then .error (.nonceAlreadyUsed nonce)
  else .ok (update usedNonces nonce true)

/-- `invalidateNonces` (ASCPSpendModule.sol:385). -/
def invalidateNonces (nonces : List Bytes32) (workflowId workflowPayloadHash : Bytes32) : Result :=
  if m.sender ≠ d.safe then .error (.notSafe m.sender)
  else if nonces.length = 0 ∨ maxGovernanceNonceInvalidations < nonces.length then
    .error (.invalidNonceInvalidationCount nonces.length)
  else if ¬d.WorkflowBound governanceDomain d.invalidateNoncesSelector
      (d.hashWords (natWord 32 :: arrayWords nonces)) workflowId workflowPayloadHash then
    .error .invalidWorkflowBinding
  else
    (foldCheck invalidateNonce s.usedNonces nonces).bind fun usedNonces =>
      .ok ({ s with usedNonces }, nonces.map .nonceInvalidated ++
          [.governanceWorkflowBound workflowId workflowPayloadHash d.invalidateNoncesSelector])

def call : Input → Result
  | ⟨m, .executeLock payload a signature⟩ => executeLock d s m payload a signature
  | ⟨m, .executeAllowance payload a signature⟩ => executeAllowance d s m payload a signature
  | ⟨m, .setSpendAuthorizer newAuthorizer workflowId payloadHash⟩ =>
    setSpendAuthorizer d s m newAuthorizer workflowId payloadHash
  | ⟨m, .setEscrowAllowlist escrow runtimeCodeHash workflowId payloadHash⟩ =>
    setEscrowAllowlist d s m escrow runtimeCodeHash workflowId payloadHash
  | ⟨m, .scheduleCaps newCaps workflowId payloadHash⟩ =>
    scheduleCaps d s m newCaps workflowId payloadHash
  | ⟨m, .activateCaps⟩ => activateCaps s m
  | ⟨m, .setEmergencyPause paused workflowId payloadHash⟩ =>
    setEmergencyPause d s m paused workflowId payloadHash
  | ⟨m, .invalidateNonces nonces workflowId payloadHash⟩ =>
    invalidateNonces d s m nonces workflowId payloadHash

/-- The storage after the transactions, from a fresh deployment. -/
abbrev run (d : Deployment) (inputs : List Input) : Storage :=
  execute (call d) (Storage.init d) inputs

/-- A transaction that was not reverted. -/
abbrev Taken := Success Storage Input (List Log)

abbrev history (d : Deployment) (inputs : List Input) : List Taken :=
  successes (call d) (Storage.init d) inputs

/-! ## What a successful call did -/

/-- The fields that caps and nonces are kept in. -/
structure Storage.Same (s s' : Storage) : Prop where
  caps : s'.caps = s.caps
  pendingCaps : s'.pendingCaps = s.pendingCaps
  executedPrincipal : s'.executedPrincipal = s.executedPrincipal
  usedNonces : s'.usedNonces = s.usedNonces
  dayExecutedPrincipal : s'.dayExecutedPrincipal = s.dayExecutedPrincipal

/-- What a successful transaction checked and did, as far as caps and nonces go. -/
inductive Step (d : Deployment) (s : Storage) : Input → Storage → Prop
  | lock {m : Msg} {payload signature : List (BitVec 8)} {a : LockAuthorization}
      (hnonce : s.usedNonces a.nonce = false) (htransaction : a.amount ≤ s.caps.perTransaction)
      (hday : s.dayTotal (m.timestamp / 86400) + a.amount ≤ s.caps.perDay)
      (hsafe : m.safeSucceeds) :
      Step d s ⟨m, .executeLock payload a signature⟩
        { s with
          usedNonces := update s.usedNonces a.nonce true
          dayExecutedPrincipal := s.dayExecutedPrincipal.insert (m.timestamp / 86400)
            (s.dayTotal (m.timestamp / 86400) + a.amount)
          executedPrincipal := s.executedPrincipal + a.amount }
  | allowance {m : Msg} {payload signature : List (BitVec 8)} {a : AllowanceAuthorization}
      (hnonce : s.usedNonces a.nonce = false) (hceiling : a.newAllowance ≤ s.caps.allowanceCeiling)
      (hsafe : m.safeSucceeds) :
      Step d s ⟨m, .executeAllowance payload a signature⟩
        { s with usedNonces := update s.usedNonces a.nonce true }
  | schedule {m : Msg} {newCaps : Caps} {workflowId payloadHash : Bytes32} {activatesAt : UInt64}
      (hsender : m.sender = d.safe) (hvalid : newCaps.Valid)
      (hat : delayed m.timestamp capActivationDelay = some activatesAt) :
      Step d s ⟨m, .scheduleCaps newCaps workflowId payloadHash⟩
        { s with pendingCaps := ⟨newCaps, activatesAt⟩ }
  | activate {m : Msg} (hpending : s.pendingCaps.activatesAt ≠ 0)
      (htime : s.pendingCaps.activatesAt.toNat ≤ m.timestamp) :
      Step d s ⟨m, .activateCaps⟩ { s with caps := s.pendingCaps.values, pendingCaps := {} }
  | invalidate {m : Msg} {nonces : List Bytes32} {workflowId payloadHash : Bytes32}
      {usedNonces : Bytes32 → Bool} (hsender : m.sender = d.safe)
      (hloop : foldCheck invalidateNonce s.usedNonces nonces = .ok usedNonces) :
      Step d s ⟨m, .invalidateNonces nonces workflowId payloadHash⟩ { s with usedNonces }
  | authorizer {m : Msg} {newAuthorizer : Address} {workflowId payloadHash : Bytes32} {s' : Storage}
      (hsame : s.Same s') : Step d s ⟨m, .setSpendAuthorizer newAuthorizer workflowId payloadHash⟩ s'
  | allowlist {m : Msg} {escrow : Address} {runtimeCodeHash workflowId payloadHash : Bytes32}
      {s' : Storage} (hsame : s.Same s') :
      Step d s ⟨m, .setEscrowAllowlist escrow runtimeCodeHash workflowId payloadHash⟩ s'
  | pause {m : Msg} {paused : Bool} {workflowId payloadHash : Bytes32} {s' : Storage}
      (hsame : s.Same s') : Step d s ⟨m, .setEmergencyPause paused workflowId payloadHash⟩ s'

section

variable {d : Deployment} {s s' : Storage} {m : Msg} {i : Input} {o : List Log}

lemma requireActiveAuthorization_ok {safe module : Address} {orgDomain actionId nonce : Bytes32}
    {validAfter validBefore leadershipEpoch authorizerEpoch : UInt64}
    (h : requireActiveAuthorization d s m safe module orgDomain actionId nonce validAfter validBefore
      leadershipEpoch authorizerEpoch = .ok ()) : s.usedNonces nonce = false := by
  simp only [requireActiveAuthorization, guard_ok, Bool.not_eq_true] at h
  exact h.2.2.2.1

lemma executeLock_ok {payload signature : List (BitVec 8)} {a : LockAuthorization}
    (h : executeLock d s m payload a signature = .ok (s', o)) :
    Step d s ⟨m, .executeLock payload a signature⟩ s' := by
  simp only [executeLock, guard_ok, bind_unit_eq_ok, not_lt, Bool.not_eq_false, ok_pair_eq] at h
  obtain ⟨hactive, -, -, -, -, htransaction, -, hday, -, hsafe, rfl, -⟩ := h
  exact .lock (requireActiveAuthorization_ok hactive) htransaction hday hsafe

lemma executeAllowance_ok {payload signature : List (BitVec 8)} {a : AllowanceAuthorization}
    (h : executeAllowance d s m payload a signature = .ok (s', o)) :
    Step d s ⟨m, .executeAllowance payload a signature⟩ s' := by
  simp only [executeAllowance, guard_ok, bind_unit_eq_ok, not_lt, Bool.not_eq_false, ok_pair_eq] at h
  obtain ⟨hactive, -, -, -, -, -, hceiling, hsafe, rfl, -⟩ := h
  exact .allowance (requireActiveAuthorization_ok hactive) hceiling hsafe

lemma scheduleCaps_ok {newCaps : Caps} {workflowId payloadHash : Bytes32}
    (h : scheduleCaps d s m newCaps workflowId payloadHash = .ok (s', o)) :
    Step d s ⟨m, .scheduleCaps newCaps workflowId payloadHash⟩ s' := by
  simp only [scheduleCaps, guard_ok, not_not] at h
  obtain ⟨hsender, hvalid, -, -, -, h⟩ := h
  split at h
  · cases h
  · rename_i activatesAt hat
    simp only [ok_pair_eq] at h
    obtain ⟨rfl, -⟩ := h
    exact .schedule hsender (Caps.not_invalid.mp hvalid) hat

lemma call_ok (h : call d s i = .ok (s', o)) : Step d s i s' := by
  match i with
  | ⟨m, .executeLock payload a signature⟩ => exact executeLock_ok h
  | ⟨m, .executeAllowance payload a signature⟩ => exact executeAllowance_ok h
  | ⟨m, .setSpendAuthorizer newAuthorizer workflowId payloadHash⟩ =>
    simp only [call, setSpendAuthorizer, guard_ok, ok_pair_eq] at h
    obtain ⟨-, -, -, -, rfl, -⟩ := h
    exact .authorizer ⟨rfl, rfl, rfl, rfl, rfl⟩
  | ⟨m, .setEscrowAllowlist escrow runtimeCodeHash workflowId payloadHash⟩ =>
    simp only [call, setEscrowAllowlist, guard_ok, ok_pair_eq] at h
    obtain ⟨-, -, -, -, -, rfl, -⟩ := h
    exact .allowlist ⟨rfl, rfl, rfl, rfl, rfl⟩
  | ⟨m, .scheduleCaps newCaps workflowId payloadHash⟩ => exact scheduleCaps_ok h
  | ⟨m, .activateCaps⟩ =>
    simp only [call, activateCaps, guard_ok, not_or, not_lt, ok_pair_eq] at h
    obtain ⟨⟨hpending, htime⟩, rfl, -⟩ := h
    exact .activate hpending htime
  | ⟨m, .setEmergencyPause paused workflowId payloadHash⟩ =>
    simp only [call, setEmergencyPause, guard_ok, ok_pair_eq] at h
    obtain ⟨-, -, -, rfl, -⟩ := h
    exact .pause ⟨rfl, rfl, rfl, rfl, rfl⟩
  | ⟨m, .invalidateNonces nonces workflowId payloadHash⟩ =>
    simp only [call, invalidateNonces, guard_ok, not_not, bind_eq_ok, ok_pair_eq] at h
    obtain ⟨hsender, -, -, usedNonces, hloop, rfl, -⟩ := h
    exact .invalidate hsender hloop

end

end FlowOps.ASCPSpendModule

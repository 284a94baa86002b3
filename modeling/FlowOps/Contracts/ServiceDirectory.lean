import FlowOps.Common.Check
import FlowOps.Common.Transactions
import FlowOps.Contracts.Governance

/-!
# `ServiceDirectory`

The governed directory roots of `ServiceDirectory.sol`. A publisher proposes the next
version, the governor approves it, and it becomes the active version after a delay:
`_activateIfEligible` runs at the start of `proposeVersion` and `approveVersion`, and the
views `currentVersion` and `currentRoot` answer as if it had run.

`uint64(block.timestamp)` truncates, so an approval at a time of `2 ^ 64` or later has an
activation time in the past.

`call_ok` says what a call that succeeds has checked and done to the versions.
-/

namespace FlowOps.ServiceDirectory

open Evm Function

/-! ## Storage -/

/-- `ChangeClass` (ServiceDirectory.sol:32). -/
inductive ChangeClass where
  | none | ordinary | payoutOrAuthorityAffecting
deriving DecidableEq

/-- `uint8(changeClass)`. -/
def ChangeClass.code : ChangeClass → ℕ
  | .none => 0
  | .ordinary => 1
  | .payoutOrAuthorityAffecting => 2

/-- `ProposalState` (ServiceDirectory.sol:37). -/
inductive ProposalState where
  | none | proposed | approvedPendingActivation | active | cancelled
deriving DecidableEq

/-- `SellerLeaf` (ServiceDirectory.sol:45). -/
structure SellerLeaf where
  sellerId : Bytes32
  (payoutAddress ackAuthority quoteSigningKey : Address)
  keyEpoch : UInt64
  baseURLOriginHash : Bytes32
  status : UInt8
deriving DecidableEq

/-- `ResourceLeaf` (ServiceDirectory.sol:55). -/
structure ResourceLeaf where
  (sellerId resourceId price : Bytes32)
  escrowSupported : Bool
  verificationSpecHash : Bytes32
  (declaredWorkTime verificationBudgetSeconds : UInt64)
deriving DecidableEq

/-- The words of a seller in `hashSellerLeaf`. -/
def SellerLeaf.words (leaf : SellerLeaf) : List Bytes32 :=
  [leaf.sellerId, addressWord leaf.payoutAddress, addressWord leaf.ackAuthority,
    addressWord leaf.quoteSigningKey, natWord leaf.keyEpoch.toNat, leaf.baseURLOriginHash,
    natWord leaf.status.toNat]

/-- The words of a resource in `hashResourceLeaf`. -/
def ResourceLeaf.words (leaf : ResourceLeaf) : List Bytes32 :=
  [leaf.sellerId, leaf.resourceId, leaf.price, natWord leaf.escrowSupported.toNat,
    leaf.verificationSpecHash, natWord leaf.declaredWorkTime.toNat,
    natWord leaf.verificationBudgetSeconds.toNat]

/-- `DirectoryProposal` (ServiceDirectory.sol:65), with the zero values of an unused slot. -/
structure DirectoryProposal where
  versionId : UInt64 := 0
  previousVersion : UInt64 := 0
  previousRoot : Bytes32 := 0
  newRoot : Bytes32 := 0
  blobContentHash : Bytes32 := 0
  locationsHash : Bytes32 := 0
  changeClass : ChangeClass := .none
  requestedActivatesAt : UInt64 := 0
  workflowId : Bytes32 := 0
  workflowPayloadHash : Bytes32 := 0
  proposerNonce : Bytes32 := 0
deriving DecidableEq

/-- `ProposalRecord` (ServiceDirectory.sol:94). -/
structure ProposalRecord where
  proposal : DirectoryProposal := {}
  proposalHash : Bytes32 := 0
  state : ProposalState := .none
  proposer : Address := 0
  approver : Address := 0
  proposedAt : UInt64 := 0
  approvedAt : UInt64 := 0
  effectiveActivatesAt : UInt64 := 0
deriving DecidableEq

structure Deployment extends Host where
  governor : Address
  orgDomain : Bytes32

/-- The part of the storage that the versions are kept in. -/
structure Versions where
  activeVersion : UInt64 := 0
  activeRoot : Bytes32 := 0
  liveSuccessorHash : Bytes32 := 0
  proposals : Bytes32 → ProposalRecord := fun _ => {}
  latestProposalHash : UInt64 → Bytes32 := fun _ => 0

structure Storage extends Versions where
  (directoryPublisher pauser : Address)
  directoryPublisherEpoch : UInt64 := 1
  pauserEpoch : UInt64 := 1
  usedProposerNonces : Bytes32 → Bool := fun _ => false
  usedAdminOperationIds : Bytes32 → Bool := fun _ => false
  usedAdminNonces : Bytes32 → Bytes32 → Bool := fun _ _ => false
  pausedSeller : Bytes32 → Bool := fun _ => false
  quoteKeyRevoked : Address → Bool := fun _ => false

def Storage.init (directoryPublisher pauser : Address) : Storage := { directoryPublisher, pauser }

/-! ## Hashes -/

/-- `ORDINARY_DELAY` (ServiceDirectory.sol:28). -/
def ordinaryDelay : ℕ := 60 * 60

/-- `PAYOUT_OR_AUTHORITY_DELAY` (ServiceDirectory.sol:29). -/
def payoutOrAuthorityDelay : ℕ := 24 * 60 * 60

/-- `MAX_AUTHORIZATION_WINDOW` (ServiceDirectory.sol:30). -/
def maxAuthorizationWindow : ℕ := 10 * 60

/-- The delay of `approveVersion` (ServiceDirectory.sol:255). -/
def ChangeClass.delay : ChangeClass → ℕ
  | .ordinary => ordinaryDelay
  | _ => payoutOrAuthorityDelay

/-- The text of `GOVERNANCE_PAYLOAD_DOMAIN` (ServiceDirectory.sol:16). -/
def governanceDomain : String := "SERVICE_DIRECTORY_GOVERNANCE_V1"

namespace Deployment

variable (d : Deployment)

/-- `DIRECTORY_PUBLISHER_ROLE` (ServiceDirectory.sol:22). -/
def directoryPublisherRole : Bytes32 := d.hashText "ASCP_DIRECTORY_PUBLISHER"

/-- `PAUSER_ROLE` (ServiceDirectory.sol:23). -/
def pauserRole : Bytes32 := d.hashText "ASCP_DIRECTORY_PAUSER"

/-- The selectors of the methods that a workflow or an authorization names. -/
def proposeSelector : BitVec 32 := d.selector
  "proposeVersion((uint64,uint64,bytes32,bytes32,bytes32,bytes32,uint8,uint64,bytes32,bytes32,uint256),(bytes32,address,uint256,bytes32,bytes4,bytes32,bytes32,uint256,uint64,uint64,uint64,bytes32),bytes)"

def approveSelector : BitVec 32 := d.selector "approveVersion(uint64,bytes32)"

def cancelSelector : BitVec 32 := d.selector "cancelVersion(uint64,bytes32,bytes32,bytes32)"

def setDirectoryPublisherSelector : BitVec 32 :=
  d.selector "setDirectoryPublisher(address,bytes32,bytes32)"

def setPauserSelector : BitVec 32 := d.selector "setPauser(address,bytes32,bytes32)"

def pauseSellerSelector : BitVec 32 := d.selector
  "pauseSeller(bytes32,bool,bytes32,bytes32,(bytes32,address,uint256,bytes32,bytes4,bytes32,bytes32,uint256,uint64,uint64,uint64,bytes32),bytes)"

def setQuoteKeyRevokedSelector : BitVec 32 := d.selector
  "setQuoteKeyRevoked(address,bool,bytes32,bytes32,(bytes32,address,uint256,bytes32,bytes4,bytes32,bytes32,uint256,uint64,uint64,uint64,bytes32),bytes)"

def proposalWords (p : DirectoryProposal) : List Bytes32 :=
  [natWord p.versionId.toNat, natWord p.previousVersion.toNat, p.previousRoot, p.newRoot,
    p.blobContentHash, p.locationsHash, natWord p.changeClass.code,
    natWord p.requestedActivatesAt.toNat, p.workflowId, p.workflowPayloadHash, p.proposerNonce]

/-- `hashProposal` (ServiceDirectory.sol:490). -/
def hashProposal (p : DirectoryProposal) : Bytes32 :=
  d.hashWords (d.hashText "ASCP_DIRECTORY_PROPOSAL_V1" :: natWord d.chainId :: addressWord d.this ::
    proposalWords p)

/-- `directoryProposalWorkflowPayloadHash` (ServiceDirectory.sol:494). -/
def directoryProposalWorkflowPayloadHash (p : DirectoryProposal) : Bytes32 :=
  d.governancePayloadHash governanceDomain p.workflowId d.approveSelector
    (d.hashWords ((proposalWords p).take 8))

/-- The bytes of a leaf under the text of its domain. -/
def leafBytes (domain : String) (words : List Bytes32) : List (BitVec 8) :=
  abiEncode (d.hashText domain :: words)

/-- `hashSellerLeaf` (ServiceDirectory.sol:444). -/
def hashSellerLeaf (leaf : SellerLeaf) : Bytes32 :=
  d.keccak256 (d.leafBytes "ASCP_SELLER_LEAF_V1" leaf.words)

/-- `hashResourceLeaf` (ServiceDirectory.sol:459). -/
def hashResourceLeaf (leaf : ResourceLeaf) : Bytes32 :=
  d.keccak256 (d.leafBytes "ASCP_RESOURCE_LEAF_V1" leaf.words)

/-- `_verify` (ServiceDirectory.sol:596). -/
def verify (root leaf : Bytes32) (proof : List Bytes32) : Bool :=
  proof.foldl (fun computed sibling =>
    if computed < sibling then d.keccak256 (toBytes computed ++ toBytes sibling)
    else d.keccak256 (toBytes sibling ++ toBytes computed)) leaf = root

end Deployment

/-! ## Views -/

/-- The live successor is approved, and its time has come. -/
def Versions.Due (v : Versions) (timestamp : ℕ) : Prop :=
  v.liveSuccessorHash ≠ 0 ∧ (v.proposals v.liveSuccessorHash).state = .approvedPendingActivation ∧
    (v.proposals v.liveSuccessorHash).effectiveActivatesAt.toNat ≤ timestamp
deriving Decidable

/-- `currentVersion` (ServiceDirectory.sol:422), at a time. -/
def Versions.currentVersion (v : Versions) (timestamp : ℕ) : UInt64 :=
  if v.Due timestamp then (v.proposals v.liveSuccessorHash).proposal.versionId else v.activeVersion

/-- `currentRoot` (ServiceDirectory.sol:431), at a time. -/
def Versions.currentRoot (v : Versions) (timestamp : ℕ) : Bytes32 :=
  if v.Due timestamp then (v.proposals v.liveSuccessorHash).proposal.newRoot else v.activeRoot

section

variable (d : Deployment)

/-- `verifySeller` (ServiceDirectory.sol:474). -/
def verifySeller (v : Versions) (timestamp : ℕ) (version : UInt64) (leaf : SellerLeaf)
    (proof : List Bytes32) : Bool :=
  version = v.currentVersion timestamp &&
    d.verify (v.currentRoot timestamp) (d.hashSellerLeaf leaf) proof

/-- `verifyResource` (ServiceDirectory.sol:482). -/
def verifyResource (v : Versions) (timestamp : ℕ) (version : UInt64) (leaf : ResourceLeaf)
    (proof : List Bytes32) : Bool :=
  version = v.currentVersion timestamp &&
    d.verify (v.currentRoot timestamp) (d.hashResourceLeaf leaf) proof

/-! ## Methods -/

/-- The errors of the contract and the panic of checked arithmetic. -/
inductive Revert where
  | zeroAddress
  | notGovernor (caller : Address)
  | invalidChangeClass (changeClass : ChangeClass)
  | invalidProposal
  | versionConflict (expected actual : UInt64)
  | previousVersionMismatch (expectedVersion actualVersion : UInt64)
  | previousRootMismatch (expectedRoot actualRoot : Bytes32)
  | liveSuccessorExists (proposalHash : Bytes32)
  | unknownProposal (proposalHash : Bytes32)
  | wrongProposalState (proposalHash : Bytes32) (expected actual : ProposalState)
  | proposalHashMismatch (expected actual : Bytes32)
  | activationAlreadyDue (proposalHash : Bytes32) (activationTime : UInt64) (nowTs : ℕ)
  | invalidAuthorization
  | unauthorizedSigner (expected actual : Address)
  | authorizationUsed (operationId : Bytes32)
  | authorizationNonceUsed (role nonce : Bytes32)
  | sellerIdZero | quoteKeyZero
  | sellerPauseUnchanged (sellerId : Bytes32) (paused : Bool)
  | quoteKeyRevocationUnchanged (key : Address) (revoked : Bool)
  | authorityUnchanged (authority : Address)
  | invalidWorkflowBinding | badSignature | overflow
deriving DecidableEq

inductive Log where
  | versionProposed (proposalHash : Bytes32) (proposal : DirectoryProposal) (proposer : Address)
      (proposedAt : UInt64)
  | versionApproved (proposalHash : Bytes32) (versionId : UInt64) (approver : Address)
      (approvedAt effectiveActivatesAt : UInt64)
  | versionActivated (proposalHash : Bytes32) (versionId : UInt64) (root : Bytes32)
      (activatedAt : UInt64)
  | versionCancelled (proposalHash : Bytes32) (versionId : UInt64) (canceller : Address)
  | directoryPublisherSet (previousPublisher publisher : Address) (epoch : UInt64)
  | pauserSet (previousPauser pauser : Address) (epoch : UInt64)
  | sellerPaused (sellerId : Bytes32) (paused : Bool) (authority relayer : Address)
  | quoteKeyRevoked (key : Address) (revoked : Bool) (authority relayer : Address)
  | governanceWorkflowBound (workflowId workflowPayloadHash : Bytes32) (functionSelector : BitVec 32)
deriving DecidableEq

/-- `msg.sender` and `block.timestamp`. -/
structure Msg where
  sender : Address
  timestamp : ℕ

/-- The external methods that write, and their arguments. -/
inductive Method where
  | proposeVersion (proposal : DirectoryProposal) (authorization : AdminActionAuthorization)
      (signature : List (BitVec 8))
  | approveVersion (versionId : UInt64) (expectedProposalHash : Bytes32)
  | cancelVersion (versionId : UInt64) (expectedProposalHash workflowId workflowPayloadHash : Bytes32)
  | activateVersion
  | setDirectoryPublisher (publisher : Address) (workflowId workflowPayloadHash : Bytes32)
  | setPauser (pauser : Address) (workflowId workflowPayloadHash : Bytes32)
  | pauseSeller (sellerId : Bytes32) (paused : Bool) (workflowId workflowPayloadHash : Bytes32)
      (authorization : AdminActionAuthorization) (signature : List (BitVec 8))
  | setQuoteKeyRevoked (key : Address) (revoked : Bool) (workflowId workflowPayloadHash : Bytes32)
      (authorization : AdminActionAuthorization) (signature : List (BitVec 8))

structure Input where
  msg : Msg
  method : Method

variable (s : Storage) (m : Msg)

/-- `_activateIfEligible` (ServiceDirectory.sol:547). -/
def Versions.activateIfEligible (v : Versions) (timestamp : ℕ) : Versions × List Log :=
  let record := v.proposals v.liveSuccessorHash
  if v.Due timestamp then
    ({ v with
        activeVersion := record.proposal.versionId
        activeRoot := record.proposal.newRoot
        liveSuccessorHash := 0
        proposals := update v.proposals v.liveSuccessorHash { record with state := .active } },
      [.versionActivated v.liveSuccessorHash record.proposal.versionId record.proposal.newRoot
        (uint64 timestamp)])
  else (v, [])

/-- `_consumeAdminAuthorization` (ServiceDirectory.sol:561). -/
def consumeAdminAuthorization (a : AdminActionAuthorization) (signature : List (BitVec 8))
    (role : Bytes32) (selector : BitVec 32) (payloadHash workflowId : Bytes32)
    (expectedSigner : Address) (expectedEpoch : UInt64) : Except Revert Storage :=
  if a.orgDomain ≠ d.orgDomain ∨ a.contractAddress ≠ d.this ∨ a.chainId ≠ d.chainId ∨
      a.authorityRole ≠ role ∨ a.functionSelector ≠ selector ∨ a.payloadHash ≠ payloadHash ∨
      a.workflowId ≠ workflowId ∨ a.adminOperationId = 0 ∨ a.adminEpoch ≠ expectedEpoch ∨
      m.timestamp < a.validAfter.toNat ∨ a.validBefore.toNat ≤ m.timestamp ∨
      a.validBefore.toNat ≤ a.validAfter.toNat ∨
      maxAuthorizationWindow < a.validBefore.toNat - a.validAfter.toNat then
    .error .invalidAuthorization
  else if s.usedAdminOperationIds a.adminOperationId then
    .error (.authorizationUsed a.adminOperationId)
  else if s.usedAdminNonces role a.adminNonce then
    .error (.authorizationNonceUsed role a.adminNonce)
  else
    match d.recover (d.adminAuthorizationDigest a) signature with
    | none => .error .badSignature
    | some actualSigner =>
      if actualSigner ≠ expectedSigner then .error (.unauthorizedSigner expectedSigner actualSigner)
      else
        .ok { s with
          usedAdminOperationIds := update s.usedAdminOperationIds a.adminOperationId true
          usedAdminNonces := update s.usedAdminNonces role
            (update (s.usedAdminNonces role) a.adminNonce true) }

/-- What a transaction returns. -/
abbrev Result := Except Revert (Storage × List Log)

/-- `proposeVersion` (ServiceDirectory.sol:188). -/
def proposeVersion (p : DirectoryProposal) (a : AdminActionAuthorization)
    (signature : List (BitVec 8)) : Result :=
  let (v, logs) := s.activateIfEligible m.timestamp
  if 2 ^ 64 ≤ v.activeVersion.toNat + 1 then .error .overflow
  else if p.versionId ≠ v.activeVersion + 1 then
    .error (.versionConflict (v.activeVersion + 1) p.versionId)
  else if p.previousVersion ≠ v.activeVersion then
    .error (.previousVersionMismatch v.activeVersion p.previousVersion)
  else if p.previousRoot ≠ v.activeRoot then
    .error (.previousRootMismatch v.activeRoot p.previousRoot)
  else if v.liveSuccessorHash ≠ 0 then .error (.liveSuccessorExists v.liveSuccessorHash)
  else if p.newRoot = 0 ∨ p.blobContentHash = 0 ∨ p.locationsHash = 0 ∨ p.workflowId = 0 ∨
      p.workflowPayloadHash = 0 then
    .error .invalidProposal
  else if p.workflowPayloadHash ≠ d.directoryProposalWorkflowPayloadHash p then
    .error .invalidWorkflowBinding
  else if p.changeClass ≠ .ordinary ∧ p.changeClass ≠ .payoutOrAuthorityAffecting then
    .error (.invalidChangeClass p.changeClass)
  else if s.usedProposerNonces p.proposerNonce then .error .invalidProposal
  else
    let proposalHash := d.hashProposal p
    (consumeAdminAuthorization d { s with toVersions := v } m a signature d.directoryPublisherRole
        d.proposeSelector (d.hashWords (Deployment.proposalWords p)) p.workflowId s.directoryPublisher
        s.directoryPublisherEpoch).bind fun s =>
      .ok ({ s with
          usedProposerNonces := update s.usedProposerNonces p.proposerNonce true
          latestProposalHash := update s.latestProposalHash p.versionId proposalHash
          liveSuccessorHash := proposalHash
          proposals := update s.proposals proposalHash
            { proposal := p, proposalHash, state := .proposed, proposer := m.sender
              proposedAt := uint64 m.timestamp } },
        logs ++ [.versionProposed proposalHash p m.sender (uint64 m.timestamp)])

/-- `approveVersion` (ServiceDirectory.sol:247). -/
def approveVersion (versionId : UInt64) (expectedProposalHash : Bytes32) : Result :=
  if m.sender ≠ d.governor then .error (.notGovernor m.sender)
  else
    let (v, logs) := s.activateIfEligible m.timestamp
    let proposalHash := v.latestProposalHash versionId
    let record := v.proposals proposalHash
    if proposalHash = 0 then .error (.unknownProposal expectedProposalHash)
    else if proposalHash ≠ expectedProposalHash then
      .error (.proposalHashMismatch proposalHash expectedProposalHash)
    else if record.state ≠ .proposed then
      .error (.wrongProposalState proposalHash .proposed record.state)
    else
      match delayed m.timestamp record.proposal.changeClass.delay with
      | none => .error .overflow
      | some minimum =>
        let requested := record.proposal.requestedActivatesAt
        let effectiveActivatesAt := if minimum < requested then requested else minimum
        .ok ({ s with
            toVersions :=
              { v with
                proposals := update v.proposals proposalHash
                  { record with
                    state := .approvedPendingActivation, approver := m.sender
                    approvedAt := uint64 m.timestamp, effectiveActivatesAt } } },
          logs ++ [.versionApproved proposalHash versionId m.sender (uint64 m.timestamp)
              effectiveActivatesAt,
            .governanceWorkflowBound record.proposal.workflowId record.proposal.workflowPayloadHash
              d.approveSelector])

/-- `cancelVersion` (ServiceDirectory.sol:272). -/
def cancelVersion (versionId : UInt64)
    (expectedProposalHash workflowId workflowPayloadHash : Bytes32) : Result :=
  let proposalHash := s.latestProposalHash versionId
  let record := s.proposals proposalHash
  if m.sender ≠ d.governor then .error (.notGovernor m.sender)
  else if ¬d.WorkflowBound governanceDomain d.cancelSelector
      (d.hashWords [natWord versionId.toNat, expectedProposalHash]) workflowId workflowPayloadHash then
    .error .invalidWorkflowBinding
  else if proposalHash = 0 then .error (.unknownProposal expectedProposalHash)
  else if proposalHash ≠ expectedProposalHash then
    .error (.proposalHashMismatch proposalHash expectedProposalHash)
  else if record.state ≠ .proposed ∧ record.state ≠ .approvedPendingActivation then
    .error (.wrongProposalState proposalHash .proposed record.state)
  else if record.state = .approvedPendingActivation ∧
      record.effectiveActivatesAt.toNat ≤ m.timestamp then
    .error (.activationAlreadyDue proposalHash record.effectiveActivatesAt m.timestamp)
  else
    .ok ({ s with
        liveSuccessorHash := 0
        proposals := update s.proposals proposalHash { record with state := .cancelled } },
      [.versionCancelled proposalHash versionId m.sender,
        .governanceWorkflowBound workflowId workflowPayloadHash d.cancelSelector])

/-- The checks of `setDirectoryPublisher` and `setPauser`, and the rest of the method. -/
def setAuthority (previous next : Address) (epoch : UInt64) (selector : BitVec 32)
    (workflowId workflowPayloadHash : Bytes32) (s' : Storage) (log : Log) : Result :=
  if m.sender ≠ d.governor then .error (.notGovernor m.sender)
  else if next = 0 then .error .zeroAddress
  else if next = previous then .error (.authorityUnchanged next)
  else if ¬d.WorkflowBound governanceDomain selector
      (d.hashWords [addressWord previous, natWord epoch.toNat, addressWord next]) workflowId
      workflowPayloadHash then
    .error .invalidWorkflowBinding
  else .ok (s', [log, .governanceWorkflowBound workflowId workflowPayloadHash selector])

/-- `setDirectoryPublisher` (ServiceDirectory.sol:310). -/
def setDirectoryPublisher (publisher : Address) (workflowId workflowPayloadHash : Bytes32) :
    Result :=
  setAuthority d m s.directoryPublisher publisher s.directoryPublisherEpoch
    d.setDirectoryPublisherSelector workflowId workflowPayloadHash
    { s with
      directoryPublisher := publisher, directoryPublisherEpoch := s.directoryPublisherEpoch + 1 }
    (.directoryPublisherSet s.directoryPublisher publisher (s.directoryPublisherEpoch + 1))

/-- `setPauser` (ServiceDirectory.sol:330). -/
def setPauser (pauser : Address) (workflowId workflowPayloadHash : Bytes32) : Result :=
  setAuthority d m s.pauser pauser s.pauserEpoch d.setPauserSelector workflowId workflowPayloadHash
    { s with pauser, pauserEpoch := s.pauserEpoch + 1 }
    (.pauserSet s.pauser pauser (s.pauserEpoch + 1))

/-- The authorization of `pauseSeller` and `setQuoteKeyRevoked`: the governor clears a
flag, the pauser sets it with a signature. The result is the authority. -/
def flagAuthority (key : Bytes32) (current next : Bool) (selector : BitVec 32)
    (workflowId workflowPayloadHash : Bytes32) (a : AdminActionAuthorization)
    (signature : List (BitVec 8)) : Except Revert (Storage × Address) :=
  if ¬d.WorkflowBound governanceDomain selector
      (d.hashWords [key, natWord current.toNat, natWord next.toNat]) workflowId
      workflowPayloadHash then
    .error .invalidWorkflowBinding
  else if next = false then
    if m.sender ≠ d.governor then .error (.notGovernor m.sender) else .ok (s, m.sender)
  else
    (consumeAdminAuthorization d s m a signature d.pauserRole selector
      (d.hashWords [key, natWord current.toNat, natWord next.toNat, workflowId]) workflowId s.pauser
      s.pauserEpoch).bind fun s' => .ok (s', s.pauser)

/-- `pauseSeller` (ServiceDirectory.sol:348). -/
def pauseSeller (sellerId : Bytes32) (paused : Bool) (workflowId workflowPayloadHash : Bytes32)
    (a : AdminActionAuthorization) (signature : List (BitVec 8)) : Result :=
  let current := s.pausedSeller sellerId
  if sellerId = 0 then .error .sellerIdZero
  else if current = paused then .error (.sellerPauseUnchanged sellerId paused)
  else
    (flagAuthority d s m sellerId current paused d.pauseSellerSelector workflowId workflowPayloadHash a
      signature).bind fun (s, authority) =>
      .ok ({ s with pausedSeller := update s.pausedSeller sellerId paused },
        [.sellerPaused sellerId paused authority m.sender,
          .governanceWorkflowBound workflowId workflowPayloadHash d.pauseSellerSelector])

/-- `setQuoteKeyRevoked` (ServiceDirectory.sol:384). -/
def setQuoteKeyRevoked (key : Address) (revoked : Bool) (workflowId workflowPayloadHash : Bytes32)
    (a : AdminActionAuthorization) (signature : List (BitVec 8)) : Result :=
  let current := s.quoteKeyRevoked key
  if key = 0 then .error .quoteKeyZero
  else if current = revoked then .error (.quoteKeyRevocationUnchanged key revoked)
  else
    (flagAuthority d s m (addressWord key) current revoked d.setQuoteKeyRevokedSelector workflowId
      workflowPayloadHash a signature).bind fun (s, authority) =>
      .ok ({ s with quoteKeyRevoked := update s.quoteKeyRevoked key revoked },
        [.quoteKeyRevoked key revoked authority m.sender,
          .governanceWorkflowBound workflowId workflowPayloadHash d.setQuoteKeyRevokedSelector])

def call : Input → Result
  | ⟨m, .proposeVersion p a signature⟩ => proposeVersion d s m p a signature
  | ⟨m, .approveVersion versionId hash⟩ => approveVersion d s m versionId hash
  | ⟨m, .cancelVersion versionId hash workflowId payloadHash⟩ =>
    cancelVersion d s m versionId hash workflowId payloadHash
  | ⟨m, .activateVersion⟩ =>
    .ok ({ s with toVersions := (s.activateIfEligible m.timestamp).1 },
      (s.activateIfEligible m.timestamp).2)
  | ⟨m, .setDirectoryPublisher publisher workflowId payloadHash⟩ =>
    setDirectoryPublisher d s m publisher workflowId payloadHash
  | ⟨m, .setPauser pauser workflowId payloadHash⟩ => setPauser d s m pauser workflowId payloadHash
  | ⟨m, .pauseSeller sellerId paused workflowId payloadHash a signature⟩ =>
    pauseSeller d s m sellerId paused workflowId payloadHash a signature
  | ⟨m, .setQuoteKeyRevoked key revoked workflowId payloadHash a signature⟩ =>
    setQuoteKeyRevoked d s m key revoked workflowId payloadHash a signature

end

/-- The storage after the transactions, from a fresh deployment. -/
abbrev run (d : Deployment) (publisher pauser : Address) (inputs : List Input) : Storage :=
  execute (call d) (Storage.init publisher pauser) inputs

/-- A transaction that was not reverted. -/
abbrev Taken := Success Storage Input (List Log)

abbrev history (d : Deployment) (publisher pauser : Address) (inputs : List Input) : List Taken :=
  successes (call d) (Storage.init publisher pauser) inputs

end FlowOps.ServiceDirectory

import FlowOps.Common.Evm

/-!
# What the ASCP contracts share

`ServiceDirectory`, `ASCPCallEscrow`, `ASCPSpendModule` and `AgentRegistry` bind every governance
call to a workflow by a hash, and check EIP-712 signatures. Both are defined once here, over
the chain a contract is deployed on; `keccak256` and `ECDSA.recover` are parameters.
-/

namespace FlowOps

open Evm

/-- The chain, the address of the contract, and the primitives of the EVM that the
contracts use. `recover` is `none` where `ECDSA.recover` reverts. -/
structure Host where
  chainId : ℕ
  this : Address
  keccak256 : List (BitVec 8) → Bytes32
  recover : Bytes32 → List (BitVec 8) → Option Address

/-- A host for runs that are evaluated: a signature is the address of its signer. -/
def Host.sample (chainId : ℕ) (this : Address) : Host :=
  ⟨chainId, this, sampleHash, fun _ signature => signature.head?.map (·.setWidth 160)⟩

/-- `AdminActionAuthorization` (ServiceDirectory.sol:79, AgentRegistry.sol:31). -/
structure AdminActionAuthorization where
  orgDomain : Bytes32
  contractAddress : Address
  chainId : ℕ
  authorityRole : Bytes32
  functionSelector : BitVec 32
  (payloadHash adminOperationId adminNonce : Bytes32)
  (adminEpoch validAfter validBefore : UInt64)
  workflowId : Bytes32

namespace Host

variable (h : Host)

/-- `keccak256("…")`. -/
def hashText (s : String) : Bytes32 := h.keccak256 (textBytes s)

/-- `keccak256(abi.encode(…))`. -/
def hashWords (ws : List Bytes32) : Bytes32 := h.keccak256 (abiEncode ws)

/-- `this.f.selector`: the first four bytes of the hash of the signature of `f`. -/
def selector (signature : String) : BitVec 32 := (h.hashText signature).extractLsb' 224 32

/-- `ASCPTypeHashes.EIP712_DOMAIN` (ASCPTypeHashes.sol:8). -/
def eip712Domain : Bytes32 :=
  h.hashText "EIP712Domain(string name,string version,uint256 chainId,address verifyingContract)"

/-- `ASCPTypeHashes.domainSeparator` (ASCPTypeHashes.sol:30), of this contract. -/
def domainSeparator : Bytes32 :=
  h.hashWords [h.eip712Domain, h.hashText "ASCP", h.hashText "4", natWord h.chainId,
    addressWord h.this]

/-- `ASCPTypeHashes.digest` (ASCPTypeHashes.sol:34), under the separator of this contract. -/
def typedDataDigest (structHash : Bytes32) : Bytes32 :=
  h.keccak256 ([0x19, 0x01] ++ toBytes h.domainSeparator ++ toBytes structHash)

/-- `adminAuthorizationDigest` (ServiceDirectory.sol:537, AgentRegistry.sol:247). -/
def adminAuthorizationDigest (a : AdminActionAuthorization) : Bytes32 :=
  h.typedDataDigest (h.hashWords
    [h.hashText "AdminActionAuthorization(bytes32 orgDomain,address contractAddress,uint256 chainId,bytes32 authorityRole,bytes4 functionSelector,bytes32 payloadHash,bytes32 adminOperationId,uint256 adminNonce,uint64 adminEpoch,uint64 validAfter,uint64 validBefore,bytes32 workflowId)",
      a.orgDomain, addressWord a.contractAddress, natWord a.chainId, a.authorityRole,
      bytes4Word a.functionSelector, a.payloadHash, a.adminOperationId, a.adminNonce,
      natWord a.adminEpoch.toNat, natWord a.validAfter.toNat, natWord a.validBefore.toNat,
      a.workflowId])

/-- `governancePayloadHash` of the four contracts, each with the text of its
`GOVERNANCE_PAYLOAD_DOMAIN`. -/
def governancePayloadHash (domain : String) (workflowId : Bytes32) (functionSelector : BitVec 32)
    (argumentsHash : Bytes32) : Bytes32 :=
  h.hashWords [h.hashText domain, natWord h.chainId, addressWord h.this, workflowId,
    bytes4Word functionSelector, argumentsHash]

/-- The check of the workflow of a governance call in the four contracts passes. -/
def WorkflowBound (domain : String) (functionSelector : BitVec 32)
    (argumentsHash workflowId workflowPayloadHash : Bytes32) : Prop :=
  workflowId ≠ 0 ∧ workflowPayloadHash ≠ 0 ∧
    workflowPayloadHash = h.governancePayloadHash domain workflowId functionSelector argumentsHash
deriving Decidable

end Host

end FlowOps

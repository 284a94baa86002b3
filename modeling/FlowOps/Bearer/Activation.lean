import FlowOps.Bearer.SignerLedger

/-!
# Activation requests

`internal/ascpbearer/activation.go` and `runtime.go`: the request whose way the control plane
follows from SIGN_REQUESTED to an acknowledged activation, or to its refusal or expiry, and the
check of the proof with which the signer says that it was never activated. The digests are
parameters; the stores of the control plane are not modelled.
-/

namespace FlowOps.Bearer

/-- `ActivationState` (activation.go:26). -/
inductive ActivationState where
  | signRequested | prepared | activePendingMirror | activeMirrored | acknowledged
  | expiredUnactivated | refused
deriving DecidableEq

/-- `ActivationInput` (activation.go:47). -/
structure ActivationInput where
  (requestID authorizationID operationID reservationID actionID : String)
  canonicalPayload : Bytes
  canonicalPayloadHash : String
  evidenceBundle : Bytes
  (evidenceBundleHash digest nonce instrumentType : String)
  signerBindingVersion : ℕ
  signerKeyID : String
  keyEpoch : ℕ
  (moduleAddress safeAddress keeperID : String)
  (validAfter validUntil : Time)
deriving DecidableEq

/-- The lease columns (0023:2-4). -/
structure Lease where
  (owner token : String)
  expiresAt : Time
deriving DecidableEq

/-- `ActivationRequest` (activation.go:70) with the columns of the runtime. `nextAttemptAt` is
`none` for `-infinity`. -/
structure ActivationRequest extends ActivationInput where
  inputHash : String
  preparedHandle : String := ""
  state : ActivationState
  primaryMirrorDigest : String := ""
  createdAt : Time
  preparedAt : Option Time := none
  activatedAt : Option Time := none
  mirroredAt : Option Time := none
  acknowledgedAt : Option Time := none
  lease : Option Lease := none
  nextAttemptAt : Option Time := none
deriving DecidableEq

/-- `UnactivatedProof` (runtime.go:27). -/
structure UnactivatedProof where
  (requestID operationID actionID inputHash handleID status : String)
  provenAt : Time
  proofDigest : String
deriving DecidableEq

/-- The digests; `none` where the JSON text cannot be written. -/
structure ActivationDigests where
  activationInputHash : ActivationInput → Option String
  unactivatedProofDigest : UnactivatedProof → Option String
  (canonicalPayloadHash evidenceBundleHash : Bytes → String)

def minute : ℤ := 60 * 1000000000

/-- `address` (activation.go:887). -/
def address (value : String) : Bool :=
  addressPattern value && value ≠ "0x0000000000000000000000000000000000000000"

/-- `validateActivationInput` (activation.go:636). -/
def validateActivationInput (D : ActivationDigests) (a : ActivationInput) (now : Time) : Bool :=
  [a.requestID, a.authorizationID, a.operationID, a.reservationID, a.digest, a.nonce].all hash &&
    [a.actionID, a.signerKeyID, a.keeperID].all identifierPattern &&
    [a.moduleAddress, a.safeAddress].all address &&
    a.canonicalPayload ≠ [] && decide (a.canonicalPayload.length ≤ 256 * 1024) &&
    a.canonicalPayloadHash = D.canonicalPayloadHash a.canonicalPayload &&
    a.evidenceBundle ≠ [] && decide (a.evidenceBundle.length ≤ 1024 * 1024) &&
    a.evidenceBundleHash = D.evidenceBundleHash a.evidenceBundle &&
    a.instrumentType = "LOCK_AUTHORIZATION" && a.signerBindingVersion ≠ 0 && a.keyEpoch ≠ 0 &&
    !a.validAfter.isZero && !a.validUntil.isZero && a.validAfter.before a.validUntil &&
    now.before a.validUntil &&
    decide (a.validUntil.sub a.validAfter ≤ maximumAuthorizationWindow) &&
    !a.validAfter.before (now.add (-minute)) && !a.validAfter.after (now.add minute)

/-- `validateUnactivatedProof` (runtime.go:339). -/
def validateUnactivatedProof (D : ActivationDigests) (request : ActivationRequest)
    (proof : UnactivatedProof) (now : Time) : Bool :=
  proof.requestID = request.requestID && proof.operationID = request.operationID &&
    proof.actionID = request.actionID && proof.inputHash = request.inputHash &&
    proof.status = "EXPIRED_UNACTIVATED" && D.unactivatedProofDigest proof = some proof.proofDigest &&
    !proof.provenAt.before request.validUntil && !proof.provenAt.after (now.add minute) &&
    (request.preparedHandle = "" || proof.handleID = request.preparedHandle) &&
    (proof.handleID = "" || opaqueHandle proof.handleID)

end FlowOps.Bearer

import FlowOps.Common.Check
import FlowOps.Common.GoTime
import FlowOps.Pkg.Pattern

/-!
# Authorizations and broadcast receipts

The parts of `pkg/envelope/envelope.go` and `pkg/broadcastreceipt/receipt.go`
that reconciliation evaluates: the authorization and receipt records, their
`Validate` methods, the authorization digest, the execution and escrow call
identifiers derived from them, and the verification of a signed receipt.

SHA-256 of a canonical JSON text, Keccak-256 and Ed25519 are abstract: `Crypto`
collects them as functions of the values they are applied to. The only assumption
is the shape of a digest text.
-/

namespace FlowOps

/-- `envelope.Rail`. -/
inductive Rail where
  | x402 | direct | escrow
  | other (name : String)
deriving DecidableEq

/-- `envelope.EscrowTerms`. -/
structure EscrowTerms where
  (contract buyer provider callID taskDigest requestDigest : String)
  (acknowledgeBy deliverBy releaseWindow : ℕ)
deriving DecidableEq

/-- `envelope.Authorization`. -/
structure Authorization where
  (version authorizationID organizationID customerID agentID taskID actionID : String)
  rail : Rail
  chainID : ℕ
  (recipient asset amountAtomic resource policyVersion nonce : String)
  (issuedAt expiresAt : ℤ)
  escrow : Option EscrowTerms
deriving DecidableEq

/-- `broadcastreceipt.Outcome`. -/
inductive BroadcastOutcome where
  | submitted | ambiguous
  | other (name : String)
deriving DecidableEq

/-- `broadcastreceipt.Receipt`. -/
structure Receipt where
  (version organizationID customerID authorizationID authorizationDigest transactionHash : String)
  sender : String
  outcome : BroadcastOutcome
  broadcastAt : ℤ
deriving DecidableEq

structure SignedReceipt where
  receipt : Receipt
  (keyID signature : String)
deriving DecidableEq

structure Crypto where
  /-- SHA-256 of the domain prefix and the canonical JSON of an authorization. -/
  authorizationSHA256 : Authorization → Hex64
  /-- SHA-256 of `"flowops:execution:v1\n" + authorizationID`. -/
  executionSHA256 : String → Hex64
  /-- Keccak-256 of the escrow domain, chain, contract, buyer and digests. -/
  callKeccak256 : ℕ → String → String → String → String → Hex64
  /-- `ed25519.Verify` of a signature text under a base64 public key, over the
      signing digest of a receipt and a key id. -/
  ed25519Verify : String → Receipt → String → String → Bool

/-! ## Authorizations -/

/-- `math.MaxInt64`. -/
def maxInt64 : ℕ := 2 ^ 63 - 1

/-- `30*24*60*60`. -/
def maxReleaseWindow : ℕ := 30 * 24 * 60 * 60

/-- `unicode.IsSpace`. -/
def isSpace (c : Char) : Bool :=
  [0x09, 0x0A, 0x0B, 0x0C, 0x0D, 0x20, 0x85, 0xA0, 0x1680, 0x2028, 0x2029, 0x202F, 0x205F,
    0x3000].contains c.toNat || (0x2000 ≤ c.toNat && c.toNat ≤ 0x200A)

/-- `strings.TrimSpace`. -/
def trimSpace (s : String) : String :=
  String.ofList ((s.toList.dropWhile isSpace).reverse.dropWhile isSpace).reverse

/-- `envelope.DeriveEscrowCallID` (envelope.go:183): `none` for the error. -/
def deriveEscrowCallID (P : Crypto) (chainID : ℕ) (contract buyer taskDigest requestDigest : String) :
    Option String :=
  if chainID = 0 ∨ addressPattern contract = false ∨ addressPattern buyer = false ∨
      hashPattern taskDigest = false ∨ hashPattern requestDigest = false then none
  else some (P.callKeccak256 chainID contract buyer taskDigest requestDigest).hash

/-- The deadline and release-window condition shared by every escrow record. -/
def escrowDeadlinesInvalid (acknowledgeBy deliverBy releaseWindow : ℕ) : Prop :=
  acknowledgeBy = 0 ∨ maxInt64 < acknowledgeBy ∨ deliverBy ≤ acknowledgeBy ∨ maxInt64 < deliverBy ∨
    releaseWindow = 0 ∨ maxReleaseWindow < releaseWindow
deriving Decidable

/-- `EscrowTerms.Validate` (envelope.go:157). -/
def EscrowTerms.validate (P : Crypto) (t : EscrowTerms) (chainID : ℕ) (recipient : String) :
    Except String Unit :=
  if chainID ≠ 8453 ∧ chainID ≠ 84532 then
    .error "escrow terms support Base mainnet or Base Sepolia only"
  else if addressPattern t.contract = false ∨ addressPattern t.buyer = false ∨
      addressPattern t.provider = false then
    .error "contract, buyer and provider must be lowercase 20-byte EVM addresses"
  else if t.provider ≠ recipient then .error "provider must equal the approved recipient"
  else if t.buyer = t.provider then .error "buyer and provider must differ"
  else if (hashPattern t.callID = false ∨ t.callID = zeroHash) ∨
      (hashPattern t.taskDigest = false ∨ t.taskDigest = zeroHash) ∨
      (hashPattern t.requestDigest = false ∨ t.requestDigest = zeroHash) then
    .error "callId, taskDigest and requestDigest must be canonical non-zero 32-byte hashes"
  else if escrowDeadlinesInvalid t.acknowledgeBy t.deliverBy t.releaseWindow then
    .error "deadlines or release window are invalid"
  else if deriveEscrowCallID P chainID t.contract t.buyer t.taskDigest t.requestDigest ≠
      some t.callID then
    .error "callId does not bind the approved chain, contract, buyer, task, and request"
  else .ok ()

/-- `Authorization.Validate` (envelope.go:101). The loop over the identifier
fields ranges over a Go map, so which of several invalid ones is named in the
message is not determined. -/
def Authorization.validate (P : Crypto) (a : Authorization) : Except String Unit :=
  if a.version ≠ "flowops.authorization.v1" then .error "version: want flowops.authorization.v1"
  else if [a.authorizationID, a.organizationID, a.customerID, a.agentID, a.taskID, a.actionID,
      a.policyVersion].all identifierPattern = false then .error "invalid identifier"
  else if a.rail ≠ .x402 ∧ a.rail ≠ .direct ∧ a.rail ≠ .escrow then .error "rail: unsupported value"
  else if a.rail = .escrow ∧ a.escrow = none then .error "escrow: exact escrow terms are required"
  else if a.rail = .escrow ∧
      a.escrow.any (fun t => (t.validate P a.chainID a.recipient).toBool = false) then
    .error "escrow: invalid terms"
  else if a.rail ≠ .escrow ∧ a.escrow ≠ none then
    .error "escrow: terms are forbidden on non-escrow rails"
  else if a.chainID = 0 then .error "chainId: must be positive"
  else if addressPattern a.recipient = false then
    .error "recipient: must be a lowercase 20-byte EVM address"
  else if addressPattern a.asset = false then .error "asset: must be a lowercase 20-byte EVM address"
  else if positiveInteger a.amountAtomic = false then .error "amountAtomic: invalid"
  else if a.resource.toList.all isSpace ∨ 2048 < a.resource.utf8ByteSize then
    .error "resource: must contain 1 to 2048 non-whitespace characters"
  else if hashPattern a.nonce = false then .error "nonce: must be a lowercase 32-byte hex value"
  else if a.issuedAt ≤ 0 then .error "issuedAt: must be a positive Unix timestamp"
  else if a.expiresAt ≤ a.issuedAt then .error "expiresAt: must be after issuedAt"
  else if a.escrow.any (fun t => a.issuedAt ≥ t.acknowledgeBy || a.expiresAt > t.acknowledgeBy) then
    .error "escrow: authorization must be issued before and expire no later than acknowledgeBy"
  else .ok ()

/-- `Authorization.Digest` (envelope.go:240), as the text
`"0x" + hex.EncodeToString(digest[:])` that every caller compares. -/
def Authorization.digest (P : Crypto) (a : Authorization) : Except String String :=
  match a.validate P with
  | .error e => .error e
  | .ok () => .ok (P.authorizationSHA256 a).hash

/-- `envelope.ExecutionID` (envelope.go:96). -/
def executionIDOf (P : Crypto) (authorizationID : String) : String :=
  "exec_" ++ (P.executionSHA256 authorizationID).val

/-! ## Signed receipts -/

/-- `Receipt.Validate` (receipt.go:58). -/
def Receipt.validate (r : Receipt) : Except String Unit :=
  if r.version ≠ "flowops.broadcast-receipt.v1" then
    .error "version: want flowops.broadcast-receipt.v1"
  else if [r.organizationID, r.customerID, r.authorizationID].all identifierPattern = false then
    .error "invalid identifier"
  else if hashPattern r.authorizationDigest = false ∨ hashPattern r.transactionHash = false then
    .error "authorizationDigest and transactionHash must be canonical lowercase 32-byte hashes"
  else if addressPattern r.sender = false then
    .error "sender must be a canonical lowercase EVM address"
  else if r.outcome ≠ .submitted ∧ r.outcome ≠ .ambiguous then
    .error "outcome must be SUBMITTED or AMBIGUOUS"
  else if r.broadcastAt ≤ 0 then .error "broadcastAt must be a positive Unix timestamp"
  else .ok ()

/-- `broadcastreceipt.Verify` (receipt.go:107) for a public key that has
passed `publicKeyValid`. -/
def SignedReceipt.verify (P : Crypto) (s : SignedReceipt) (publicKeyB64 : String) :
    Except String Unit :=
  if identifierPattern s.keyID = false then .error "keyId: invalid identifier"
  else if s.signature.startsWith "0x" = false then
    .error "signature: must use 0x-prefixed lowercase hex"
  else if hexPattern 128 s.signature = false then
    .error "signature: invalid canonical Ed25519 encoding"
  else
    match s.receipt.validate with
    | .error e => .error e
    | .ok () =>
      if P.ed25519Verify publicKeyB64 s.receipt s.keyID s.signature = false then
        .error "signature: verification failed"
      else .ok ()

/-- The index of a character in the standard base64 alphabet. -/
def base64Value (c : Char) : Option ℕ :=
  if c.isUpper then some (c.toNat - 65)
  else if c.isLower then some (c.toNat - 71)
  else if c.isDigit then some (c.toNat + 4)
  else if c = '+' then some 62
  else if c = '/' then some 63
  else none

/-- The text is the canonical base64 encoding of 32 bytes: it decodes, has
`ed25519.PublicKeySize` bytes and re-encodes to itself. -/
def publicKeyValid (publicKeyB64 : String) : Bool :=
  match publicKeyB64.toList.reverse with
  | '=' :: c :: cs =>
    decide (cs.length = 42) && cs.all (fun x => (base64Value x).isSome) &&
      (base64Value c).any (· % 4 = 0)
  | _ => false

end FlowOps

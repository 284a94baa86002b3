import FlowOps.Common.Run
import FlowOps.Pkg.Hex
import FlowOps.Reconciliation.EscrowOperations

/-!
# Runs of the engine

The engine as a machine: an input is a call of one operation with its arguments
and context, or a restart, which closes the engine and opens its journal again. A
run starts from `Open` on an empty journal. A restart whose `Open` fails ends the
run; the operations themselves never end it, also when `apply` rejects an event
that is already in the journal.
-/

namespace FlowOps.Reconciliation

/-! ## Inputs -/

inductive Op where
  | observe (observations : List Observation)
  | forceHalt (operator reason : String)
  | resume (operator : String)
  | registerBroadcast (expected : ExpectedExecution)
  | registerAttestedBroadcast (expected : ExpectedExecution) (attestation : BroadcastAttestation)
  | registerX402Settlement (expected : ExpectedExecution) (claim : X402SettlementClaim)
  | reconcileReceipt (executionID : String) (evidence : List ReceiptEvidence)
      (settlement : Option LedgerTransaction)
  | quarantine (scope : Option String) (executionID operator reason : String)
  | reopenReorg (executionID : String) (evidence : List ReorgEvidence)
      (correction : LedgerTransaction)
  | reopenRevertedReorg (executionID : String) (evidence : List ReorgEvidence)
  | confirmFinality (executionID : String) (evidence : List ReorgEvidence)
  | post (transaction : LedgerTransaction)
  | recordTransactionOutcome (executionID : String) (evidence : List TransactionOutcomeEvidence)
  | resolveProvenDrop (organizationID executionID operator : String)
  | reconcileProvenReplacement (organizationID executionID operator : String)
      (evidence : List ReceiptEvidence) (settlement : LedgerTransaction)
  | registerEscrowIntent (intent : EscrowIntent)
  | registerAttestedEscrowBroadcast (intent : EscrowIntent) (candidate : EscrowTransitionCandidate)
      (attestation : EscrowBroadcastAttestation)
  | registerEscrowTransition (organizationID callID : String)
      (candidate : EscrowTransitionCandidate)
  | reconcileEscrowTransition (callID : String) (evidence : List EscrowReceiptEvidence)
  | confirmEscrowFinality (callID transactionHash : String) (evidence : List ReorgEvidence)
  | reopenEscrowReorg (callID transactionHash : String) (evidence : List ReorgEvidence)

section

variable (P : Primitives) (cfg : Config)

/-- The plan of an operation, up to its first event. -/
def Op.plan (ctx : Ctx) (s : State) : Op → Plan
  | .observe observations => Reconciliation.observe cfg ctx s observations
  | .forceHalt operator reason => Reconciliation.forceHalt ctx s operator reason
  | .resume operator => Reconciliation.resume cfg ctx s operator
  | .registerBroadcast expected => Reconciliation.registerBroadcast cfg ctx s expected
  | .registerAttestedBroadcast expected attestation =>
    Reconciliation.registerAttestedBroadcast P.toCrypto cfg ctx s expected attestation
  | .registerX402Settlement expected claim =>
    Reconciliation.registerX402Settlement P.toCrypto cfg ctx s expected claim
  | .reconcileReceipt id evidence settlement =>
    Reconciliation.reconcileReceipt cfg ctx s id evidence settlement
  | .quarantine scope id operator reason =>
    Reconciliation.quarantine ctx s scope id operator reason
  | .reopenReorg id evidence correction =>
    Reconciliation.reopenReorg P cfg ctx s id evidence correction
  | .reopenRevertedReorg id evidence =>
    Reconciliation.reopenRevertedReorg P cfg ctx s id evidence
  | .confirmFinality id evidence => Reconciliation.confirmFinality cfg ctx s id evidence
  | .post transaction => Reconciliation.post ctx s transaction
  | .recordTransactionOutcome id evidence =>
    Reconciliation.recordTransactionOutcome P cfg ctx s id evidence
  | .resolveProvenDrop org id operator => Reconciliation.resolveProvenDrop cfg ctx s org id operator
  | .reconcileProvenReplacement org id operator evidence settlement =>
    Reconciliation.reconcileProvenReplacement cfg ctx s org id operator evidence settlement
  | .registerEscrowIntent intent =>
    Reconciliation.registerEscrowIntent P.toCrypto cfg ctx s intent
  | .registerAttestedEscrowBroadcast intent candidate attestation =>
    registerAttestedIntent P.toCrypto cfg (ctx.now 0) s intent candidate attestation
  | .registerEscrowTransition org callID candidate =>
    Reconciliation.registerEscrowTransition P.toCrypto cfg (ctx.now 0) (ctx.now 1) s org callID
      candidate none
  | .reconcileEscrowTransition callID evidence =>
    Reconciliation.reconcileEscrowTransition P cfg ctx s callID evidence
  | .confirmEscrowFinality callID hash evidence =>
    Reconciliation.confirmEscrowFinality cfg ctx s callID hash evidence
  | .reopenEscrowReorg callID hash evidence =>
    Reconciliation.reopenEscrowReorg P cfg ctx s callID hash evidence

/-- What an operation does after its first half succeeded: only
`RegisterAttestedEscrowBroadcast` goes on (escrow_durable.go:224). -/
def Op.next (ctx : Ctx) (s : State) : Op → Option Plan
  | .registerAttestedEscrowBroadcast intent candidate attestation =>
    some (Reconciliation.registerEscrowTransition P.toCrypto cfg (ctx.now 1) (ctx.now 2) s
      intent.organizationID intent.callID candidate (some attestation))
  | _ => none

/-- A call of an operation: the reply and the engine after it. -/
def Engine.call (e : Engine) (ctx : Ctx) (op : Op) : Except Err Reply × Engine :=
  let first := e.perform P cfg (ctx.canceled 0) (op.plan P cfg ctx e.state)
  match first.1, op.next P cfg ctx first.2.state with
  | .ok _, some plan => first.2.perform P cfg (ctx.canceled 1) plan
  | _, _ => first

inductive Input where
  | call (ctx : Ctx) (op : Op)
  | restart (ctx : Ctx)

def Input.ctx : Input → Ctx
  | .call ctx _ => ctx
  | .restart ctx => ctx

/-- The condition `p` on the call of an input. -/
def Input.Calls (p : Ctx → Op → Prop) : Input → Prop
  | .call ctx op => p ctx op
  | .restart _ => True

instance (p : Ctx → Op → Prop) [∀ ctx op, Decidable (p ctx op)] :
    ∀ i : Input, Decidable (i.Calls p)
  | .call ctx op => inferInstanceAs (Decidable (p ctx op))
  | .restart _ => isTrue trivial

def step (e : Engine) : Input → Option Engine
  | .call ctx op => some (e.call P cfg ctx op).2
  | .restart ctx => (Engine.open P cfg ctx e.journal.events).toOption

/-- `Open` on an empty journal. -/
def Engine.start (ctx : Ctx) : Engine where
  journal := {}
  state := (State.init cfg (ctx.now 0)).refreshAffected cfg (ctx.now 1)

def Reachable (e : Engine) : Prop :=
  ∃ ctx inputs, runFrom (step P cfg) (Engine.start cfg ctx) inputs = some e

end

lemma Reachable.step {P : Primitives} {cfg : Config} {e e' : Engine} {i : Input}
    (h : Reachable P cfg e) (hstep : Reconciliation.step P cfg e i = some e') :
    Reachable P cfg e' := by
  obtain ⟨ctx, inputs, hrun⟩ := h
  exact ⟨ctx, inputs ++ [i], runFrom_snoc_eq_some.mpr ⟨e, hrun, hstep⟩⟩

/-- The clock does not decrease over the run. -/
def Clocked (inputs : List Ctx) : Prop :=
  (∀ c ∈ inputs, c.Monotone) ∧ inputs.Pairwise fun a b => (a.clock 2).ns ≤ (b.clock 0).ns

/-! ## A sample deployment

Concrete parameters for runs that can be evaluated: a configuration with a recovery
window of one observation, stand-ins for the hash functions, a clock in seconds,
and two observers that agree. -/

namespace Sample

/-- A number as a 32-byte digest. -/
def digest (n : ℕ) : Hex64 := wordDigits (.ofNat 256 n)

def hex32 : ℕ → String
  | 1 => "0x1111111111111111111111111111111111111111111111111111111111111111"
  | 2 => "0x2222222222222222222222222222222222222222222222222222222222222222"
  | 3 => "0x3333333333333333333333333333333333333333333333333333333333333333"
  | 4 => "0x4444444444444444444444444444444444444444444444444444444444444444"
  | 5 => "0x5555555555555555555555555555555555555555555555555555555555555555"
  | 6 => "0x6666666666666666666666666666666666666666666666666666666666666666"
  | 7 => "0x7777777777777777777777777777777777777777777777777777777777777777"
  | 8 => "0x8888888888888888888888888888888888888888888888888888888888888888"
  | 9 => "0x9999999999999999999999999999999999999999999999999999999999999999"
  | _ => zeroHash

def address : ℕ → String
  | 1 => "0x1111111111111111111111111111111111111111"
  | 2 => "0x2222222222222222222222222222222222222222"
  | 3 => "0x3333333333333333333333333333333333333333"
  | 4 => "0x4444444444444444444444444444444444444444"
  | 5 => "0x5555555555555555555555555555555555555555"
  | _ => "0xaaaaaaaaaaaaaaaaaaaaaaaaaaaaaaaaaaaaaaaa"

/-- Signatures verify, and digests differ where the runs below need it. -/
def primitives : Primitives where
  authorizationSHA256 a := digest (Hex64.code [a.authorizationID])
  executionSHA256 id := digest (Hex64.code [id])
  callKeccak256 chainID _ _ _ _ := digest chainID
  ed25519Verify _ _ _ _ := true
  ledgerSHA256 xs := digest (Hex64.code xs)
  reorgSHA256 es := digest (Hex64.code (es.map (·.provider)))
  escrowEvidenceSHA256 es := digest (Hex64.code (es.map (·.provider)))
  outcomeSHA256 es := digest (es.map (·.throughBlock)).sum
  journalSHA256 i := digest i.sequence
  lineLength _ := 1000

/-- Base mainnet with an escrow contract; the other fields take their defaults. -/
def deployment : Config where
  chainID := 8453
  escrowContract := address 1
  escrowAsset := address 2
  escrowReleaseWindow := 3600
  recoveryObservations := 1

def config : Config := deployment.withDefaults

lemma deployment_defaults : deployment.defaults = .ok config := by decide

def clock (seconds : ℤ) : Time where
  ns := (63900000000 + seconds) * 1000000000

def ctx (seconds : ℤ) : Ctx where
  clock := fun _ => clock seconds

def quorum {α : Type} (report : String → α) : List α := [report "observer-a", report "observer-b"]

/-- Both observers report block `block` with hash `hex32 h` below the head. -/
def observed (block h : ℕ) (seconds : ℤ) : Input :=
  .call (ctx seconds) (.observe (quorum fun provider =>
    { provider, chainID := 8453, headNumber := block + 2, headHash := hex32 9
      headTime := clock seconds, anchorNumber := block, anchorHash := hex32 h
      anchorTime := clock seconds, observedAt := clock seconds }))

/-- The observation and the release that make the chain HEALTHY. -/
def resumed : List Input := [observed 100 1 0, .call (ctx 1) (.resume "alice")]

/-- A payment with transaction hash `hex32 h`. -/
def payment (id : String) (h : ℕ) : ExpectedExecution where
  executionID := id
  organizationID := "org"
  agentID := "agent"
  taskID := "task"
  intentDigest := hex32 8
  transactionHash := hex32 h
  chainID := 8453
  sender := address 3
  asset := address 2
  recipient := address 4
  amountAtomic := "5"

/-- Both observers saw the payment succeed in block `block` with hash `hex32 b`. -/
def receipts (p : ExpectedExecution) (block b : ℕ) : List ReceiptEvidence :=
  quorum fun provider =>
    { provider, chainID := 8453, transactionHash := p.transactionHash, blockNumber := block
      blockHash := hex32 b, confirmedHead := block + 2, success := true, sender := p.sender
      asset := p.asset, recipient := p.recipient, amountAtomic := p.amountAtomic }

def settlement (transactionID id : String) : LedgerTransaction where
  transactionID
  organizationID := "org"
  kind := .settlement
  referenceID := id
  postings := [⟨"expense", "5"⟩, ⟨"cash", "-5"⟩]
  recordedAt := clock 0

/-- The payment `"pay"` settles in block `block` with hash `hex32 b`. -/
def paid (block b : ℕ) : List Input :=
  resumed ++ [.call (ctx 2) (.registerBroadcast (payment "pay" 4)),
    .call (ctx 3) (.reconcileReceipt "pay" (receipts (payment "pay" 4) block b)
      (some (settlement "entry" "pay")))]

/-- The entry that reverses the payment's. -/
def correction (transactionID : String) : LedgerTransaction where
  transactionID
  organizationID := "org"
  kind := .correction
  referenceID := "pay"
  reversesTransactionID := "entry"
  postings := [⟨"expense", "-5"⟩, ⟨"cash", "5"⟩]
  recordedAt := clock 0

/-- An escrow call between `address 3` and `address 4`. -/
def intent : EscrowIntent where
  organizationID := "org"
  customerID := "customer"
  agentID := "agent"
  taskID := "task"
  authorizationID := "authorization"
  intentDigest := hex32 8
  chainID := 8453
  contract := address 1
  asset := address 2
  callID := "0x0000000000000000000000000000000000000000000000000000000000002105"
  buyer := address 3
  provider := address 4
  amountAtomic := "5"
  taskDigest := hex32 5
  requestDigest := hex32 6
  acknowledgeBy := 1800000000
  deliverBy := 1800001000
  releaseWindow := 3600

/-- The transition `action` in the transaction `hex32 h`. -/
def candidate (action : EscrowAction) (h : ℕ) : EscrowTransitionCandidate where
  action
  transactionHash := hex32 h

/-- Both observers report its receipt in block `block`, whose hash is `hex32 b`. -/
def escrowReceipts (action : EscrowAction) (h block b : ℕ) (success : Bool) :
    List EscrowReceiptEvidence :=
  quorum fun provider =>
    { provider, action, chainID := 8453, transactionHash := hex32 h, blockNumber := block
      blockHash := hex32 b, confirmedHead := block + 2, success, callID := intent.callID }

/-- The call is registered and funded in block 80. -/
def funded : List Input :=
  resumed ++ [.call (ctx 2) (.registerEscrowIntent intent)] ++
    [.call (ctx 3) (.registerEscrowTransition "org" intent.callID (candidate .fund 1))] ++
    [.call (ctx 4) (.reconcileEscrowTransition intent.callID (escrowReceipts .fund 1 80 8 true))]

/-- Both observers see `hex32 c` in block `block` instead of, or as, `hex32 b`. -/
def blockReports (h block b c : ℕ) : List ReorgEvidence :=
  quorum fun provider =>
    { provider, chainID := 8453, transactionHash := hex32 h, originalBlockNumber := block
      originalBlockHash := hex32 b, canonicalBlockHash := hex32 c, observedHead := 100 }

/-- The engine after the inputs, from an empty journal. -/
def run (inputs : List Input) : Option Engine :=
  runFrom (step primitives config) (Engine.start config (ctx 0)) inputs

end Sample

end FlowOps.Reconciliation

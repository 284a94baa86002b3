import FlowOps.Keeper.Store

/-!
# The keeper's workers

`internal/ascpkeeper/service.go`: `RunOnce` claims a job and prepares, rebroadcasts or replaces
its transaction, `ObserveOnce` applies an outcome to it. A worker is a machine whose phases are
the points between two calls of the store, the wallet and the broadcaster, and a system is a store
with any number of workers.

What the other collaborators answer (the clock, leadership, fees, the assembler and the outcome
source) is an input of the step that uses it. A collaborator that fails ends the run as `fail`
does, and so does a store that committed and did not answer; `crash` is the end of the process.
`FenceSink` runs the work or fails, the checks of the artifact source, the binding verifier and the
replacement gate pass or fail, and what `Claim` returns always has the keeper, gas payer and
chain that it was asked for (service.go:21).
-/

namespace FlowOps.Keeper

/-! ## Transactions -/

/-- `UnsignedTransaction` (keeper.go:147). -/
structure UnsignedTransaction where
  chainID : ℕ
  (sender recipient valueWei : String)
  (nonce gasLimit : ℕ)
  data : Bytes
  fee : Fee
deriving DecidableEq

/-- `SignedTransaction` (keeper.go:158). -/
structure SignedTransaction where
  hash : String
  raw : Bytes
deriving DecidableEq

/-- What `UnmarshalBinary` reads from signed bytes, the recipient in lower case. -/
structure DecodedTransaction where
  dynamicFee : Bool
  (chainID nonce : ℕ)
  recipient : Option String
  value : String
  (gas accessList : ℕ)
  data : Bytes
  (gasFeeCap gasTipCap : String)

/-- Keccak-256 in hexadecimal, `UnmarshalBinary`, `types.Sender` for a chain in lower case, and the
sealer: what `Seal` returns for the random bytes it draws, `Open`, and the law between them. -/
structure Primitives where
  keccak256 : Bytes → String
  decode : Bytes → Option DecodedTransaction
  sender : ℕ → Bytes → Option String
  sealRaw : Bytes → Bytes → String → Bytes × String
  openSealed : Bytes → String → String → Option Bytes
  openSealed_sealRaw : ∀ entropy raw aad,
    openSealed (sealRaw entropy raw aad).1 (sealRaw entropy raw aad).2 aad = some raw

/-- `aad` (keeper.go:475). -/
def aad (jobID : String) (attempt : ℕ) (txHash : String) : String :=
  "ASCP_KEEPER_TX_V1\n" ++ jobID ++ "\n" ++ toString attempt ++ "\n" ++ txHash

/-- `s.sealer.Open` of the transaction of an attempt (service.go:241). -/
def Primitives.openAttempt (P : Primitives) (a : Attempt) : Option Bytes :=
  P.openSealed a.sealedRawTransaction a.sealingKeyID (aad a.jobID a.number a.transactionHash)

/-- `Config` (keeper.go:273). -/
structure Config where
  (keeperID gasPayer : String)
  chainID : ℕ
  leaseDuration : ℤ
  (maxFeeBumps maxGasLimit : ℕ)
  feeCap : Fee

/-- The checks of `NewService` (keeper.go:305). -/
def Config.valid (config : Config) : Bool :=
  identifierPattern config.keeperID && supportedChain config.chainID && address config.gasPayer &&
    decide (1000000000 ≤ config.leaseDuration) && decide (config.leaseDuration ≤ minute) &&
    decide (config.maxFeeBumps ≤ 3) && decide (config.maxGasLimit ≠ 0) && validFee config.feeCap

/-- `Service` (keeper.go:284). -/
structure Service extends Config where
  valid : toConfig.valid

/-- `feeAboveCap` (keeper.go:380). -/
def feeAboveCap (fee cap : Fee) : Bool :=
  decide (amountOf cap.maxFeePerGasWei < amountOf fee.maxFeePerGasWei) ||
    decide (amountOf cap.maxPriorityFeePerGasWei < amountOf fee.maxPriorityFeePerGasWei)

/-- `validateUnsigned` (keeper.go:371). -/
def validateUnsigned (job : Job) (tx : UnsignedTransaction) (config : Config) : Bool :=
  tx.chainID = job.chainID && tx.sender = job.gasPayer && tx.recipient = job.target &&
    tx.valueWei = job.valueWei && decide (tx.gasLimit ≠ 0) &&
    decide (tx.gasLimit ≤ config.maxGasLimit) && decide (4 ≤ tx.data.length) &&
    decide (tx.data.length ≤ 1024 * 1024) && validFee tx.fee && !feeAboveCap tx.fee config.feeCap

section

variable (P : Primitives)

/-- `verifySignedTransaction` (keeper.go:390). -/
def verifySignedTransaction (unsigned : UnsignedTransaction) (signed : SignedTransaction) : Bool :=
  hash signed.hash && decide (signed.raw.length ≠ 0) &&
    decide (signed.raw.length ≤ 2 * 1024 * 1024) && P.keccak256 signed.raw = signed.hash &&
    (P.decode signed.raw).any (fun tx =>
      tx.dynamicFee && tx.chainID = unsigned.chainID && tx.nonce = unsigned.nonce &&
        tx.recipient = some unsigned.recipient && tx.value = unsigned.valueWei &&
        tx.gas = unsigned.gasLimit && tx.accessList = 0 && tx.data = unsigned.data &&
        tx.gasFeeCap = unsigned.fee.maxFeePerGasWei &&
        tx.gasTipCap = unsigned.fee.maxPriorityFeePerGasWei) &&
    (P.sender unsigned.chainID signed.raw).any fun sender =>
      sender = unsigned.sender && sender ≠ "0x0000000000000000000000000000000000000000"

/-- `verifyRecoveredSigned` (keeper.go:411). -/
def verifyRecoveredSigned (job : Job) (attempt : Attempt) (raw : Bytes) : Bool :=
  decide (raw.length ≠ 0) && decide (raw.length ≤ 2 * 1024 * 1024) &&
    P.keccak256 raw = attempt.transactionHash &&
    (P.decode raw).any (fun tx =>
      tx.dynamicFee && tx.chainID = job.chainID && tx.nonce = attempt.nonce &&
        tx.recipient = some job.target && tx.value = job.valueWei && tx.accessList = 0 &&
        decide (4 ≤ tx.data.length) && decide (tx.data.length ≤ 1024 * 1024) &&
        decide (tx.gas ≠ 0) && tx.gasFeeCap = attempt.fee.maxFeePerGasWei &&
        tx.gasTipCap = attempt.fee.maxPriorityFeePerGasWei) &&
    (P.sender job.chainID raw).any (· = job.gasPayer)

/-! ## Phases -/

/-- A transaction that is to be signed, for the attempt `number`. -/
structure Draft where
  (number nonce : ℕ)
  fee : Fee
  unsigned : UnsignedTransaction
  preparedAt : Time
  previous : Option Attempt

/-- What `Broadcast` returns: a hash, one of its two errors for a refused transaction, or any
other error. -/
inductive Answer where
  | accepted (hash : String)
  | rejected (reason : String)
  | underpriced (reason : String)
  | failed (reason : String)

/-- Where a worker is, between two of its calls. -/
inductive Phase where
  | idle
  | running (lease : Lease)
  | dying (lease : Lease) (reason : String)
  | allocating (lease : Lease) (observed : ℕ) (fee : Fee) (unsigned : UnsignedTransaction) (now : Time)
  | signing (lease : Lease) (draft : Draft)
  | sealing (lease : Lease) (draft : Draft) (signed : SignedTransaction)
  | recording (lease : Lease) (previous : Option Attempt) (attempt : Attempt) (raw : Bytes)
  | marking (lease : Lease) (attempt : Attempt) (raw : Bytes)
  | sending (lease : Lease) (attempt : Attempt) (raw : Bytes)
  | answered (lease : Lease) (attempt : Attempt) (answer : Answer)
  | observing (lease : Lease)
  | applying (lease : Lease) (outcome : Outcome)
  | releasing (lease : Lease)

def Phase.lease : Phase → Option Lease
  | .idle => none
  | .running lease | .dying lease _ | .allocating lease _ _ _ _ | .signing lease _
  | .sealing lease _ _ | .recording lease _ _ _ | .marking lease _ _ | .sending lease _ _
  | .answered lease _ _ | .observing lease | .applying lease _ | .releasing lease => some lease

/-- What the collaborators of `prepareAndBroadcast` answer before the nonce is allocated. -/
structure Preparation where
  now : Time
  epoch : ℕ
  artifact : Bytes
  observed : UInt64
  fee : Fee
  unsigned : UnsignedTransaction

/-- What the collaborators of `replace` answer. -/
structure Replacement where
  now : Time
  epoch : ℕ
  fee : Fee
  unsigned : UnsignedTransaction

/-- `RequiresBearer` (keeper.go:117). -/
def Job.requiresBearer (job : Job) : Bool := job.action ≠ .claimExpired

def signatureUnavailable : String := "activated signature unavailable"

def feeBumpsExhausted : String := "keeper fee bump limit exhausted"

/-- The window of the bearer is not open. -/
def Job.outsideWindow (job : Job) (now : Time) : Bool :=
  now.before job.validAfter || !now.before job.validBefore

/-- `prepareAndBroadcast` up to `AllocateNonce` (service.go:149-195). -/
def Service.prepare (service : Service) (lease : Lease) (p : Preparation) : Phase :=
  let job := lease.job
  if p.now.before job.eligibleAfter then .releasing lease
  else if job.requiresBearer ∧ job.outsideWindow p.now then
    .dying lease signatureUnavailable
  else if job.requiresBearer ∧ p.epoch ≠ job.leadershipEpoch then
    .dying lease "stale leadership epoch"
  else if job.requiresBearer ∧ (p.artifact.length = 0 ∨ 4096 < p.artifact.length) then
    .releasing lease
  else if validFee p.fee = false then .releasing lease
  else if validateUnsigned job p.unsigned service.toConfig = false then .releasing lease
  else .allocating lease p.observed.toNat p.fee p.unsigned p.now

/-- `prepareAndBroadcast` from the allocated nonce to `Sign` (service.go:200-211); `again` is what
the assembler makes of the nonce where it is not the observed one. -/
def Service.allocated (service : Service) (lease : Lease) (observed : ℕ) (fee : Fee)
    (unsigned again : UnsignedTransaction) (now : Time) : Reply → Phase
  | .nonce nonce =>
    if nonce = observed then .signing lease ⟨1, nonce, fee, unsigned, now, none⟩
    else if validateUnsigned lease.job again service.toConfig = false then .releasing lease
    else .signing lease ⟨1, nonce, fee, again, now, none⟩
  | _ => .releasing lease

/-- `replace` up to `Sign` (service.go:83-126). -/
def Service.replace (service : Service) (s : Store) (lease : Lease) (r : Replacement) : Phase :=
  let job := lease.job
  match s.currentAttempt job.jobID with
  | .error _ => .releasing lease
  | .ok previous =>
    if service.maxFeeBumps < previous.number ∨ (job.state ≠ .timedOut ∧ job.state ≠ .reorged) then
      .dying lease feeBumpsExhausted
    else if job.requiresBearer ∧ job.outsideWindow r.now then
      .dying lease signatureUnavailable
    else if job.requiresBearer ∧ r.epoch ≠ job.leadershipEpoch then .releasing lease
    else if validFee r.fee = false ∨ strictlyBumped previous.fee r.fee = false then .releasing lease
    else if validateUnsigned job r.unsigned service.toConfig = false then .releasing lease
    else .signing lease ⟨previous.number + 1, previous.nonce, r.fee, r.unsigned, r.now, some previous⟩

/-- From the signature to the record of the attempt (service.go:132-142, 217-226). -/
def sealSigned (lease : Lease) (draft : Draft) (signed : SignedTransaction) (sealedRaw : Bytes)
    (keyID : String) : Phase :=
  if verifySignedTransaction P draft.unsigned signed = false ∨
      draft.previous.any (·.transactionHash = signed.hash) then .releasing lease
  else
    .recording lease draft.previous
      { jobID := lease.job.jobID, number := draft.number, nonce := draft.nonce
        gasPayer := lease.job.gasPayer, fee := draft.fee, transactionHash := signed.hash
        sealedRawTransaction := sealedRaw, sealingKeyID := keyID, state := .prepared
        preparedAt := draft.preparedAt } signed.raw

/-- `rebroadcast` (service.go:233) up to `broadcast`. -/
def recover (s : Store) (lease : Lease) : Phase :=
  match s.currentAttempt lease.job.jobID with
  | .error _ => .releasing lease
  | .ok attempt =>
    if attempt.state ≠ .prepared ∧ attempt.state ≠ .broadcasting then .releasing lease
    else
      match P.openAttempt attempt with
      | none => .releasing lease
      | some raw =>
        if verifyRecoveredSigned P lease.job attempt raw = false then .releasing lease
        else .marking lease attempt raw

/-- The store call for what `Broadcast` answered (service.go:258-274). -/
def finishCall (lease : Lease) (attempt : Attempt) (now : Time) : Answer → StoreCall
  | .accepted hash =>
    if hash ≠ attempt.transactionHash then
      .markAmbiguous lease attempt.number "RPC returned a different transaction hash" now
    else .markSubmitted lease attempt.number hash now
  | .rejected reason => .markRejected lease attempt.number .deadLetter reason now
  | .underpriced reason => .markRejected lease attempt.number .timedOut reason now
  | .failed reason => .markAmbiguous lease attempt.number reason now

/-- `ObserveOnce` from the claim to `ApplyOutcome` (service.go:63-73). -/
def observe (s : Store) (lease : Lease) (outcome : Outcome) (now : Time) : Phase :=
  match s.currentAttempt lease.job.jobID with
  | .error _ => .releasing lease
  | .ok attempt =>
    if validateOutcome lease.job attempt outcome now = false then .releasing lease
    else .applying lease outcome

/-! ## Steps -/

/-- A step of a worker, with what its collaborators answer. -/
inductive Label where
  | claim (jobID token : String) (now : Time)
  | claimObservation (jobID token : String) (now : Time)
  | prepare (p : Preparation)
  | allocate (again : UnsignedTransaction) (now : Time)
  | replace (r : Replacement)
  | recover
  | deadLetter (now : Time)
  | sign (signed : SignedTransaction)
  | seal (entropy : Bytes)
  | record (now : Time)
  | mark (now : Time)
  | send (answer : Answer)
  | finish (now : Time)
  | observe (outcome : Outcome) (now : Time)
  | apply (now : Time)
  | release | fail | crash

/-- What leaves the system: a call of the wallet or the broadcaster. -/
inductive Event where
  | signed (jobID : String) (raw : Bytes)
  | sent (jobID : String) (number : ℕ) (raw : Bytes)
deriving DecidableEq

/-- What a worker does in a step: it goes on by itself, or calls the store and goes on with the
reply. -/
inductive Act where
  | goto (next : Phase) (event : Option Event)
  | call (c : StoreCall) (next : Reply → Phase) (failed : Phase)

/-- A claim's reply is the lease to work on. -/
def claimed (next : Lease → Phase) : Reply → Phase
  | .lease lease => next lease
  | _ => .idle

/-- The call that records an attempt (service.go:143, 227). -/
def recordCall (lease : Lease) (previous : Option Attempt) (attempt : Attempt) (now : Time) : StoreCall :=
  match previous with
  | none => .recordPrepared lease attempt now
  | some previous => .recordReplacement lease previous attempt now

/-- The step of a worker, if its phase has that step. -/
def Service.act (service : Service) (s : Store) : Phase → Label → Option Act
  | .idle, .claim jobID token now =>
    some (.call (.claim service.keeperID service.gasPayer service.chainID service.leaseDuration jobID
      token now) (claimed .running) .idle)
  | .idle, .claimObservation jobID token now =>
    some (.call (.claimObservation service.keeperID service.gasPayer service.chainID
      service.leaseDuration jobID token now) (claimed .observing) .idle)
  | .running lease, .prepare p =>
    if lease.job.state = .queued then some (.goto (service.prepare lease p) none) else none
  | .running lease, .recover =>
    if lease.job.state = .prepared ∨ lease.job.state = .broadcasting then
      some (.goto (recover P s lease) none)
    else none
  | .running lease, .replace r =>
    if lease.job.state = .timedOut ∨ lease.job.state = .reorged then
      some (.goto (service.replace s lease r) none)
    else none
  | .dying lease reason, .deadLetter now =>
    some (.call (.markRecoveryDeadLetter lease reason now) (fun _ => .releasing lease) (.releasing lease))
  | .allocating lease observed fee unsigned preparedAt, .allocate again now =>
    some (.call (.allocateNonce lease observed now)
      (service.allocated lease observed fee unsigned again preparedAt) (.releasing lease))
  | .signing lease draft, .sign signed =>
    some (.goto (.sealing lease draft signed) (some (.signed lease.job.jobID signed.raw)))
  | .sealing lease draft signed, .seal entropy =>
    let sealedRaw := P.sealRaw entropy signed.raw (aad lease.job.jobID draft.number signed.hash)
    some (.goto (sealSigned P lease draft signed sealedRaw.1 sealedRaw.2) none)
  | .recording lease previous attempt raw, .record now =>
    some (.call (recordCall lease previous attempt now) (fun _ => .marking lease attempt raw)
      (.releasing lease))
  | .marking lease attempt raw, .mark now =>
    some (.call (.markBroadcasting lease attempt.number now) (fun _ => .sending lease attempt raw)
      (.releasing lease))
  | .sending lease attempt raw, .send answer =>
    some (.goto (.answered lease attempt answer) (some (.sent lease.job.jobID attempt.number raw)))
  | .answered lease attempt answer, .finish now =>
    some (.call (finishCall lease attempt now answer) (fun _ => .releasing lease) (.releasing lease))
  | .observing lease, .observe outcome now =>
    some (.goto (observe s lease outcome now) none)
  | .applying lease outcome, .apply now =>
    some (.call (.applyOutcome lease outcome now) (fun _ => .releasing lease) (.releasing lease))
  | .releasing lease, .release => some (.call (.releaseLease lease) (fun _ => .idle) .idle)
  | phase, .fail => phase.lease.map fun lease => .goto (.releasing lease) none
  | _, .crash => some (.goto .idle none)
  | _, _ => none

structure System where
  store : Store
  workers : ℕ → Phase

/-- No rows, and no worker has begun. -/
def System.initial : System := ⟨.empty, fun _ => .idle⟩

inductive Step where
  | enqueue (input : EnqueueInput) (now : Time)
  | work (worker : ℕ) (label : Label)

def System.goto (σ : System) (w : ℕ) (phase : Phase) : System :=
  { σ with workers := Function.update σ.workers w phase }

/-- What becomes of a system when a worker acts. -/
def System.perform (σ : System) (w : ℕ) : Act → System × Option Event
  | .goto next event => (σ.goto w next, event)
  | .call c next failed =>
    match σ.store.call P.keccak256 c with
    | .ok (s, reply) => (goto { σ with store := s } w (next reply), none)
    | .error _ => (σ.goto w failed, none)

end

/-- A step of the system; there is none where the worker's phase has no such step. -/
def System.call (P : Primitives) (services : ℕ → Service) (σ : System) :
    Step → Except KeeperErr (System × Option Event)
  | .enqueue input now =>
    (σ.store.call P.keccak256 (.enqueue input now)).map fun r => ({ σ with store := r.1 }, none)
  | .work w label =>
    match (services w).act P σ.store (σ.workers w) label with
    | some act => .ok (σ.perform P w act)
    | none => .error .noWork

end FlowOps.Keeper

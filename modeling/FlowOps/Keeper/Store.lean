import FlowOps.Ascp.Capacity
import FlowOps.Common.Lines
import FlowOps.Pkg.Envelope

/-!
# The keeper's store

`internal/ascpkeeper/postgres.go` over the tables of `0013_ascp_keeper_relay.sql`: jobs, the
signed attempts of a job, and the next nonce of each gas payer on each chain. A method takes the
lease that a claim gave and is one transaction; every one of them but `ReleaseLease` looks the
lease up again, and its expiry.

`FOR UPDATE SKIP LOCKED` may skip any candidate, so a claim names the job that it takes. The
errors that a constraint or trigger raises are `ErrStateConflict` (`classifyWrite`). A transition
also returns the job as it left it, which no caller reads before it lets go of the lease.
Keccak-256 is a parameter.
-/

namespace FlowOps.Keeper

open Ascp (timestamptz)

/-! ## Types -/

/-- `Action` (keeper.go:25). -/
inductive Action where
  | lock | release | refund | claimExpired | admin
deriving DecidableEq

/-- `State` (keeper.go:35). -/
inductive State where
  | queued | prepared | broadcasting | submitted | confirmed | finalized | reverted | reorged
  | timedOut | ambiguous | deadLetter
deriving DecidableEq

/-- `AttemptState` (keeper.go:51). -/
inductive AttemptState where
  | prepared | broadcasting | submitted | confirmed | replaced | ambiguous | rejected | reverted
  | reorged | finalized
deriving DecidableEq

/-- The errors of the store: those of the package (keeper.go:66), `sql.ErrNoRows`, and the
scan of a NULL. -/
inductive KeeperErr where
  | invalidConfig | invalidJob | invalidTransaction | leaseLost | noWork | stateConflict | noRows
  | scanNull
deriving DecidableEq

/-- `EnqueueInput` (keeper.go:119). A zero time is NULL. -/
structure EnqueueInput where
  (jobID operationID organizationID : String)
  action : Action
  chainID : ℕ
  (keeperID gasPayer target valueWei : String)
  canonicalPayload : Bytes
  (canonicalPayloadHash authorizationDigest signerHandle signerAddress : String)
  (validAfter validBefore eligibleAfter : Time)
  eligibilityEvidenceDigest : String
  eligibilityObservedAt : Time
  leadershipEpoch : ℕ
deriving DecidableEq

structure JobLease where
  (owner token : String)
  expiresAt : Time
deriving DecidableEq

/-- `Job` (keeper.go:82) with the column `nonce`, which only `AllocateNonce` and `RecordPrepared`
read. `currentAttempt` is 0 for NULL. -/
structure Job extends EnqueueInput where
  state : State
  lease : Option JobLease := none
  attemptCount : ℕ := 0
  currentAttempt : ℕ := 0
  nonce : Option ℕ := none
  (createdAt updatedAt : Time)
  lastError : String := ""
deriving DecidableEq

/-- `Fee` (keeper.go:142). -/
structure Fee where
  (maxFeePerGasWei maxPriorityFeePerGasWei : String)
deriving DecidableEq

/-- `Attempt` (keeper.go:163). -/
structure Attempt where
  jobID : String
  (number nonce : ℕ)
  gasPayer : String
  fee : Fee
  transactionHash : String
  sealedRawTransaction : Bytes
  sealingKeyID : String
  state : AttemptState
  preparedAt : Time
  broadcastAt : Option Time := none
  lastError : String := ""
  evidenceDigest : String := ""
  observedAt : Option Time := none
deriving DecidableEq

/-- `Outcome` (keeper.go:180). -/
structure Outcome where
  jobID : String
  attemptNumber : ℕ
  transactionHash : String
  state : State
  evidenceDigest : String
  observedAt : Time
deriving DecidableEq

/-- `Lease` (keeper.go:189): the job as the claim left it. -/
structure Lease where
  job : Job
  token : String
deriving DecidableEq

/-- The tables: jobs, attempts by job and number, and `next_nonce` by chain and gas payer. -/
structure Store where
  jobs : Dict String Job
  attempts : Dict (String × ℕ) Attempt
  nextNonces : Dict (ℕ × String) ℕ

/-! ## Checks -/

/-- `hash` (keeper.go:460). -/
def hash (value : String) : Bool := hashPattern value && value ≠ zeroHash

/-- `address` (keeper.go:463). -/
def address (value : String) : Bool :=
  addressPattern value && value ≠ "0x0000000000000000000000000000000000000000"

/-- `opaque` (keeper.go:467). -/
def isOpaque (value : String) : Bool :=
  decide (16 ≤ value.utf8ByteSize) && decide (value.utf8ByteSize ≤ 512) &&
    value.toList.all fun c => c ≠ '\r' && c ≠ '\n' && c ≠ Char.ofNat 0

/-- `supportedChain` (keeper.go:367). -/
def supportedChain (chainID : ℕ) : Bool := chainID = 8453 || chainID = 84532

/-- `validFee` (keeper.go:431). -/
def validFee (fee : Fee) : Bool :=
  match setString fee.maxFeePerGasWei, setString fee.maxPriorityFeePerGasWei with
  | some maxFee, some tip =>
    decide (0 < maxFee) && decide (maxFee < 2 ^ 256) && decide (0 ≤ tip) && decide (tip < 2 ^ 256) &&
      decide (tip ≤ maxFee)
  | _, _ => false

/-- `strictlyBumped` (keeper.go:440). -/
def strictlyBumped (previous next : Fee) : Bool :=
  match setString previous.maxFeePerGasWei, setString next.maxFeePerGasWei,
    setString previous.maxPriorityFeePerGasWei, setString next.maxPriorityFeePerGasWei with
  | some previousMax, some nextMax, some previousTip, some nextTip =>
    decide (previousMax < nextMax) && decide (previousTip ≤ nextTip)
  | _, _, _, _ => false

def minute : ℤ := 60 * 1000000000

/-- `validateInput` (keeper.go:335). -/
def validateInput (keccak256 : Bytes → String) (input : EnqueueInput) (now : Time) : Bool :=
  hash input.jobID && hash input.operationID && identifierPattern input.organizationID &&
    supportedChain input.chainID && identifierPattern input.keeperID && address input.gasPayer &&
    address input.target && input.valueWei = "0" && decide (input.canonicalPayload.length ≠ 0) &&
    decide (input.canonicalPayload.length ≤ 256 * 1024) &&
    keccak256 input.canonicalPayload = input.canonicalPayloadHash && !input.eligibleAfter.isZero &&
    (if input.action = .claimExpired then
      input.signerHandle = "" && input.authorizationDigest = "" && input.signerAddress = "" &&
        input.validAfter.isZero && input.validBefore.isZero && input.leadershipEpoch = 0 &&
        hash input.eligibilityEvidenceDigest && !input.eligibilityObservedAt.isZero
    else
      input.eligibilityEvidenceDigest = "" && input.eligibilityObservedAt.isZero &&
        isOpaque input.signerHandle && hash input.authorizationDigest && address input.signerAddress &&
        !input.validAfter.isZero && !input.validBefore.isZero &&
        input.validBefore.after input.validAfter &&
        decide (input.validBefore.sub input.validAfter ≤ 10 * minute) && input.validBefore.after now &&
        decide (input.leadershipEpoch ≠ 0) && decide (input.leadershipEpoch ≤ maxInt64) &&
        !input.eligibleAfter.before input.validAfter && input.eligibleAfter.before input.validBefore)

/-- `validateAttempt` (postgres.go:575). -/
def validateAttempt (attempt : Attempt) : Bool :=
  hash attempt.jobID && decide (1 ≤ attempt.number) && decide (attempt.number ≤ 4) &&
    address attempt.gasPayer && validFee attempt.fee && hash attempt.transactionHash &&
    decide (attempt.sealedRawTransaction.length ≠ 0) &&
    decide (attempt.sealedRawTransaction.length ≤ 2 * 1024 * 1024) &&
    identifierPattern attempt.sealingKeyID && !attempt.preparedAt.isZero

/-- `validateOutcome` (keeper.go:318). -/
def validateOutcome (job : Job) (attempt : Attempt) (outcome : Outcome) (now : Time) : Bool :=
  outcome.jobID = job.jobID && outcome.attemptNumber = attempt.number &&
    outcome.transactionHash = attempt.transactionHash && hash outcome.evidenceDigest &&
    !outcome.observedAt.isZero && !outcome.observedAt.after (now.add minute) &&
    decide (now.sub outcome.observedAt ≤ minute) &&
    (outcome.state = .submitted || outcome.state = .confirmed || outcome.state = .finalized ||
      outcome.state = .reverted || outcome.state = .reorged || outcome.state = .timedOut) &&
    (job.state ≠ .confirmed || outcome.state = .confirmed || outcome.state = .finalized ||
      outcome.state = .reorged) &&
    (outcome.state ≠ .submitted || job.state = .ambiguous)

/-- `validateLease` (postgres.go:584). -/
def validateLease (lease : Lease) : Bool :=
  hash lease.job.jobID && identifierPattern lease.job.keeperID && isOpaque lease.token &&
    lease.job.lease.any (·.token = lease.token)

/-- The longest prefix within a number of bytes. -/
def prefixWithin : ℕ → List Char → List Char
  | _, [] => []
  | bytes, c :: cs => if c.utf8Size ≤ bytes then c :: prefixWithin (bytes - c.utf8Size) cs else []

/-- `boundedError` (postgres.go:642). -/
def boundedError (value : String) : String :=
  String.ofList (prefixWithin 2048 (trimSpace value).toList)

/-! ## Statements -/

/-- `UPDATE ascp_keeper_jobs ... WHERE job_id=$1`. -/
def Store.updateJob (s : Store) (job : Job) : Store := { s with jobs := s.jobs.insert job.jobID job }

/-- The CHECKs on the fee of an attempt (0013:73-74). -/
def feeColumns (fee : Fee) : Bool :=
  digitsOnly fee.maxFeePerGasWei.toList && fee.maxFeePerGasWei.toList.head? ≠ some '0' &&
    decide (fee.maxFeePerGasWei.toList.length ≤ 78) &&
    (fee.maxPriorityFeePerGasWei = "0" || (digitsOnly fee.maxPriorityFeePerGasWei.toList &&
      fee.maxPriorityFeePerGasWei.toList.head? ≠ some '0' &&
      decide (fee.maxPriorityFeePerGasWei.toList.length ≤ 78)))

/-- The trigger `flowops_validate_keeper_gas_payer` on a row of attempts. -/
def Store.validateKeeperGasPayer (s : Store) (a : Attempt) : Bool :=
  (s.jobs.lookup a.jobID).any fun job => job.gasPayer = a.gasPayer && job.nonce = some a.nonce

/-- The row that an INSERT makes of an attempt. -/
def Attempt.row (a : Attempt) : Attempt :=
  { a with
    state := .prepared, preparedAt := timestamptz a.preparedAt
    broadcastAt := none, lastError := "", evidenceDigest := "", observedAt := none }

def Store.insertAttempt (s : Store) (a : Attempt) : Except KeeperErr Store :=
  if s.validateKeeperGasPayer a = false ∨ feeColumns a.fee = false ∨
      (s.attempts.lookup (a.jobID, a.number)).isSome ∨
      s.attempts.entries.any (·.2.transactionHash = a.transactionHash) then .error .stateConflict
  else .ok { s with attempts := s.attempts.insert (a.jobID, a.number) a.row }

/-- `UPDATE ascp_keeper_tx_attempts ... WHERE job_id=$1 AND attempt_number=$2 AND ...`, which has
to change one row. -/
def Store.updateAttempt (s : Store) (jobID : String) (number : ℕ) (p : Attempt → Bool)
    (f : Attempt → Attempt) : Except KeeperErr Store :=
  match (s.attempts.lookup (jobID, number)).filter p with
  | none => .error .stateConflict
  | some a =>
    if s.validateKeeperGasPayer (f a) = false then .error .stateConflict
    else .ok { s with attempts := s.attempts.insert (jobID, number) (f a) }

/-- `loadLeasedJob` (postgres.go:496). -/
def Store.loadLeasedJob (s : Store) (lease : Lease) (now : Time) : Except KeeperErr Job :=
  match s.jobs.lookup lease.job.jobID with
  | none => .error .leaseLost
  | some job =>
    if job.lease.any (fun l => l.token = lease.token && l.owner = lease.job.keeperID &&
        l.expiresAt.after (timestamptz now)) then .ok job
    else .error .leaseLost

/-- `transition` (postgres.go:451). -/
def Store.transition (s : Store) (lease : Lease) (now : Time)
    (change : Job → Except KeeperErr Store) : Except KeeperErr Store :=
  if validateLease lease = false then .error .leaseLost
  else (s.loadLeasedJob lease now).bind change

/-! ## Methods -/

def cntrl (c : Char) : Bool := decide (c.toNat < 32) || c.toNat = 127

/-- The CHECKs on the handle and on the times of a job, which are kept in microseconds
(0013:14, 46-47). -/
def EnqueueInput.fits (input : EnqueueInput) : Bool :=
  (input.action = .claimExpired) || (input.signerHandle.toList.all (fun c => !cntrl c) &&
      (timestamptz input.validBefore).after (timestamptz input.validAfter) &&
      !(timestamptz input.validBefore).after ((timestamptz input.validAfter).add (10 * minute)) &&
      !(timestamptz input.eligibleAfter).before (timestamptz input.validAfter) &&
      (timestamptz input.eligibleAfter).before (timestamptz input.validBefore))

/-- `sameInput` (postgres.go:591). -/
def sameInput (job : Job) (input : EnqueueInput) : Bool :=
  job.jobID = input.jobID && job.operationID = input.operationID &&
    job.organizationID = input.organizationID && job.action = input.action &&
    job.chainID = input.chainID && job.keeperID = input.keeperID && job.gasPayer = input.gasPayer &&
    job.target = input.target && job.valueWei = input.valueWei &&
    job.canonicalPayload = input.canonicalPayload &&
    job.canonicalPayloadHash = input.canonicalPayloadHash &&
    job.authorizationDigest = input.authorizationDigest && job.signerHandle = input.signerHandle &&
    job.signerAddress = input.signerAddress && job.validAfter.ns = input.validAfter.ns &&
    job.validBefore.ns = input.validBefore.ns && job.eligibleAfter.ns = input.eligibleAfter.ns &&
    job.leadershipEpoch = input.leadershipEpoch &&
    (job.action = .claimExpired ||
      (job.eligibilityEvidenceDigest = input.eligibilityEvidenceDigest &&
        job.eligibilityObservedAt.ns = input.eligibilityObservedAt.ns))

/-- The row that `enqueueOnce` (postgres.go:52) inserts. -/
def EnqueueInput.row (input : EnqueueInput) (now : Time) : Job :=
  { input with
    validAfter := timestamptz input.validAfter
    validBefore := timestamptz input.validBefore
    eligibleAfter := timestamptz input.eligibleAfter
    eligibilityObservedAt := timestamptz input.eligibilityObservedAt
    state := .queued, createdAt := timestamptz now, updatedAt := timestamptz now }

/-- `Enqueue` (postgres.go:34). -/
def Store.enqueue (keccak256 : Bytes → String) (s : Store) (input : EnqueueInput) (now : Time) :
    Except KeeperErr (Store × Job × Bool) :=
  if validateInput keccak256 input now = false then .error .invalidJob
  else
    match s.jobs.lookup input.jobID with
    | some existing =>
      if sameInput existing input = false then .error .stateConflict else .ok (s, existing, true)
    | none =>
      if input.fits = false ∨ s.jobs.entries.any (fun e =>
          e.2.operationID = input.operationID && e.2.action = input.action) then
        .error .stateConflict
      else .ok (s.updateJob (input.row now), input.row now, false)

/-- The states that `Claim` takes (postgres.go:112). -/
def State.claimable (state : State) : Bool :=
  state = .queued || state = .prepared || state = .broadcasting || state = .timedOut ||
    state = .reorged

/-- The states that `ClaimObservation` takes (postgres.go:157). -/
def State.observable (state : State) : Bool :=
  state = .ambiguous || state = .submitted || state = .confirmed

/-- `Claim` and `ClaimObservation` (postgres.go:95, 141), which differ in the jobs they take. -/
def Store.claimWhere (s : Store) (p : Job → Bool) (keeperID gasPayer : String) (chainID : ℕ)
    (duration : ℤ) (jobID token : String) (now : Time) : Except KeeperErr (Store × Lease) :=
  if identifierPattern keeperID = false ∨ address gasPayer = false ∨ supportedChain chainID = false ∨
      duration < 1000000000 ∨ minute < duration then .error .invalidConfig
  else
    match s.jobs.lookup jobID with
    | none => .error .noWork
    | some job =>
      if job.keeperID = keeperID ∧ job.gasPayer = gasPayer ∧ job.chainID = chainID ∧ p job ∧
          job.lease.all (fun l => !l.expiresAt.after (timestamptz now)) then
        let leased := { job with
          lease := some ⟨keeperID, token, timestamptz (now.add duration)⟩
          updatedAt := timestamptz now }
        .ok (s.updateJob leased, ⟨leased, token⟩)
      else .error .noWork

def Store.claim (s : Store) (keeperID gasPayer : String) (chainID : ℕ) (duration : ℤ)
    (jobID token : String) (now : Time) : Except KeeperErr (Store × Lease) :=
  s.claimWhere (fun job => job.state.claimable && !job.eligibleAfter.after (timestamptz now)) keeperID
    gasPayer chainID duration jobID token now

def Store.claimObservation (s : Store) (keeperID gasPayer : String) (chainID : ℕ) (duration : ℤ)
    (jobID token : String) (now : Time) : Except KeeperErr (Store × Lease) :=
  s.claimWhere (fun job => job.state.observable) keeperID gasPayer chainID duration jobID token now

/-- `math.MaxUint64`. -/
def maxUint64 : ℕ := 2 ^ 64 - 1

/-- `AllocateNonce` (postgres.go:181). -/
def Store.allocateNonce (s : Store) (lease : Lease) (observed : ℕ) (now : Time) :
    Except KeeperErr (Store × ℕ) :=
  if validateLease lease = false then .error .leaseLost
  else
    (s.loadLeasedJob lease now).bind fun job =>
      if job.state ≠ .queued ∨ job.attemptCount ≠ 0 then .error .stateConflict
      else
        match job.nonce with
        | some allocated => .ok (s, allocated)
        | none =>
          let allocated := max observed ((s.nextNonces.lookup (job.chainID, job.gasPayer)).getD 0)
          if allocated = maxUint64 then .error .stateConflict
          else if s.jobs.entries.any (fun e => e.2.gasPayer = job.gasPayer &&
              e.2.nonce = some allocated) then .error .stateConflict
          else
            .ok (updateJob
              { s with nextNonces := s.nextNonces.insert (job.chainID, job.gasPayer) (allocated + 1) }
              { job with nonce := some allocated, updatedAt := timestamptz now }, allocated)

/-- `RecordPrepared` (postgres.go:252). -/
def Store.recordPrepared (s : Store) (lease : Lease) (attempt : Attempt) (now : Time) :
    Except KeeperErr Store :=
  if validateAttempt attempt = false ∨ attempt.number ≠ 1 ∨ attempt.state ≠ .prepared then
    .error .invalidTransaction
  else
    s.transition lease now fun job =>
      if job.state ≠ .queued ∨ job.attemptCount ≠ 0 ∨ job.currentAttempt ≠ 0 ∨
          job.jobID ≠ attempt.jobID then .error .stateConflict
      else
        match job.nonce with
        | none => .error .scanNull
        | some allocated =>
          if allocated ≠ attempt.nonce ∨ attempt.gasPayer ≠ job.gasPayer then .error .stateConflict
          else
            (s.insertAttempt attempt).map fun s₁ => s₁.updateJob
              { job with
                state := .prepared, attemptCount := 1, currentAttempt := 1
                updatedAt := timestamptz now }

/-- `RecordReplacement` (postgres.go:282). -/
def Store.recordReplacement (s : Store) (lease : Lease) (previous attempt : Attempt) (now : Time) :
    Except KeeperErr Store :=
  if validateAttempt attempt = false ∨ attempt.number ≠ previous.number + 1 ∨
      attempt.state ≠ .prepared ∨ attempt.nonce ≠ previous.nonce ∨
      attempt.gasPayer ≠ previous.gasPayer ∨ strictlyBumped previous.fee attempt.fee = false then
    .error .invalidTransaction
  else
    s.transition lease now fun job =>
      if (job.state ≠ .timedOut ∧ job.state ≠ .reorged) ∨ job.currentAttempt ≠ previous.number ∨
          job.attemptCount ≠ previous.number ∨ job.jobID ≠ attempt.jobID ∨ 4 < attempt.number then
        .error .stateConflict
      else
        (s.updateAttempt job.jobID previous.number (fun a => a.transactionHash = previous.transactionHash &&
          (a.state = .rejected || a.state = .reorged)) ({ · with state := .replaced })).bind fun s₁ =>
            (s₁.insertAttempt attempt).map fun s₂ => s₂.updateJob
              { job with
                state := .prepared, attemptCount := attempt.number
                currentAttempt := attempt.number, lastError := "", updatedAt := timestamptz now }

/-- `MarkBroadcasting` (postgres.go:314). -/
def Store.markBroadcasting (s : Store) (lease : Lease) (number : ℕ) (now : Time) :
    Except KeeperErr Store :=
  s.transition lease now fun job =>
    if job.currentAttempt ≠ number ∨ (job.state ≠ .prepared ∧ job.state ≠ .broadcasting) then
      .error .stateConflict
    else
      (s.updateAttempt job.jobID number (fun a => a.state = .prepared || a.state = .broadcasting)
        fun a => { a with
          state := .broadcasting
          broadcastAt := some (a.broadcastAt.getD (timestamptz now)) }).map fun s₁ =>
            s₁.updateJob { job with state := .broadcasting, updatedAt := timestamptz now }

/-- `finishBroadcast` (postgres.go:401). -/
def Store.finishBroadcast (s : Store) (lease : Lease) (number : ℕ) (txHash : Option String)
    (jobState : State) (attemptState : AttemptState) (reason : String) (now : Time) :
    Except KeeperErr Store :=
  s.transition lease now fun job =>
    if job.state ≠ .broadcasting ∨ job.currentAttempt ≠ number then .error .stateConflict
    else
      (s.updateAttempt job.jobID number
        (fun a => a.state = .broadcasting && txHash.all (· = a.transactionHash))
        ({ · with state := attemptState, lastError := boundedError reason })).map fun s₁ =>
          s₁.updateJob
            { job with
              state := jobState, lastError := boundedError reason, updatedAt := timestamptz now }

def Store.markSubmitted (s : Store) (lease : Lease) (number : ℕ) (txHash : String) (now : Time) :
    Except KeeperErr Store :=
  if hash txHash = false then .error .invalidTransaction
  else s.finishBroadcast lease number (some txHash) .submitted .submitted "" now

def Store.markAmbiguous (s : Store) (lease : Lease) (number : ℕ) (reason : String) (now : Time) :
    Except KeeperErr Store :=
  s.finishBroadcast lease number none .ambiguous .ambiguous reason now

def Store.markRejected (s : Store) (lease : Lease) (number : ℕ) (target : State) (reason : String)
    (now : Time) : Except KeeperErr Store :=
  if target ≠ .timedOut ∧ target ≠ .deadLetter then .error .stateConflict
  else s.finishBroadcast lease number none target .rejected reason now

/-- `MarkRecoveryDeadLetter` (postgres.go:348). -/
def Store.markRecoveryDeadLetter (s : Store) (lease : Lease) (reason : String) (now : Time) :
    Except KeeperErr Store :=
  s.transition lease now fun job =>
    if job.state ≠ .queued ∧ job.state ≠ .timedOut ∧ job.state ≠ .reorged then .error .stateConflict
    else
      .ok (s.updateJob { job with
        state := .deadLetter, lastError := boundedError reason, updatedAt := timestamptz now })

/-- The state of the attempt for an outcome (postgres.go:372-387). -/
def State.attemptState : State → Option AttemptState
  | .submitted => some .submitted
  | .confirmed => some .confirmed
  | .finalized => some .finalized
  | .reverted => some .reverted
  | .reorged => some .reorged
  | .timedOut => some .rejected
  | _ => none

/-- `ApplyOutcome` (postgres.go:360). -/
def Store.applyOutcome (s : Store) (lease : Lease) (outcome : Outcome) (now : Time) :
    Except KeeperErr Store :=
  s.transition lease now fun job =>
    match s.attempts.lookup (job.jobID, job.currentAttempt) with
    | none => .error .noRows
    | some attempt =>
      if validateOutcome job attempt outcome now = false then .error .stateConflict
      else
        match outcome.state.attemptState with
        | none => .error .stateConflict
        | some attemptState =>
          (s.updateAttempt job.jobID attempt.number
            (fun a => a.transactionHash = outcome.transactionHash &&
              (a.state = .ambiguous || a.state = .submitted || a.state = .confirmed))
            ({ · with
              state := attemptState, evidenceDigest := outcome.evidenceDigest
              observedAt := some (timestamptz outcome.observedAt) })).map fun s₁ =>
                s₁.updateJob { job with
                  state := outcome.state, lastError := "", updatedAt := timestamptz now }

/-- `CurrentAttempt` (postgres.go:424). -/
def Store.currentAttempt (s : Store) (jobID : String) : Except KeeperErr Attempt :=
  if hash jobID = false then .error .invalidJob
  else
    match (s.jobs.lookup jobID).bind fun job => s.attempts.lookup (jobID, job.currentAttempt) with
    | none => .error .noRows
    | some attempt => .ok attempt

/-- `ReleaseLease` (postgres.go:435). -/
def Store.releaseLease (s : Store) (lease : Lease) : Except KeeperErr Store :=
  if validateLease lease = false then .error .leaseLost
  else
    match s.jobs.lookup lease.job.jobID with
    | none => .error .leaseLost
    | some job =>
      if job.lease.any (·.token = lease.token) = false then .error .leaseLost
      else .ok (s.updateJob { job with lease := none })

/-! ## Calls -/

/-- A call of one of the methods that write. -/
inductive StoreCall where
  | enqueue (input : EnqueueInput) (now : Time)
  | claim (keeperID gasPayer : String) (chainID : ℕ) (duration : ℤ) (jobID token : String) (now : Time)
  | claimObservation (keeperID gasPayer : String) (chainID : ℕ) (duration : ℤ) (jobID token : String)
      (now : Time)
  | allocateNonce (lease : Lease) (observed : ℕ) (now : Time)
  | recordPrepared (lease : Lease) (attempt : Attempt) (now : Time)
  | recordReplacement (lease : Lease) (previous attempt : Attempt) (now : Time)
  | markBroadcasting (lease : Lease) (number : ℕ) (now : Time)
  | markSubmitted (lease : Lease) (number : ℕ) (txHash : String) (now : Time)
  | markAmbiguous (lease : Lease) (number : ℕ) (reason : String) (now : Time)
  | markRejected (lease : Lease) (number : ℕ) (target : State) (reason : String) (now : Time)
  | markRecoveryDeadLetter (lease : Lease) (reason : String) (now : Time)
  | applyOutcome (lease : Lease) (outcome : Outcome) (now : Time)
  | releaseLease (lease : Lease)

inductive Reply where
  | done
  | lease (lease : Lease)
  | nonce (nonce : ℕ)

def Store.empty : Store := ⟨∅, ∅, ∅⟩

def Store.call (keccak256 : Bytes → String) (s : Store) : StoreCall → Except KeeperErr (Store × Reply)
  | .enqueue input now => (s.enqueue keccak256 input now).map fun r => (r.1, .done)
  | .claim keeperID gasPayer chainID duration jobID token now =>
    (s.claim keeperID gasPayer chainID duration jobID token now).map fun r => (r.1, .lease r.2)
  | .claimObservation keeperID gasPayer chainID duration jobID token now =>
    (s.claimObservation keeperID gasPayer chainID duration jobID token now).map fun r => (r.1, .lease r.2)
  | .allocateNonce lease observed now =>
    (s.allocateNonce lease observed now).map fun r => (r.1, .nonce r.2)
  | .recordPrepared lease attempt now => (s.recordPrepared lease attempt now).map (·, .done)
  | .recordReplacement lease previous attempt now =>
    (s.recordReplacement lease previous attempt now).map (·, .done)
  | .markBroadcasting lease number now => (s.markBroadcasting lease number now).map (·, .done)
  | .markSubmitted lease number txHash now => (s.markSubmitted lease number txHash now).map (·, .done)
  | .markAmbiguous lease number reason now => (s.markAmbiguous lease number reason now).map (·, .done)
  | .markRejected lease number target reason now =>
    (s.markRejected lease number target reason now).map (·, .done)
  | .markRecoveryDeadLetter lease reason now =>
    (s.markRecoveryDeadLetter lease reason now).map (·, .done)
  | .applyOutcome lease outcome now => (s.applyOutcome lease outcome now).map (·, .done)
  | .releaseLease lease => (s.releaseLease lease).map (·, .done)

end FlowOps.Keeper

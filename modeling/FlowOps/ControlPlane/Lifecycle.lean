import FlowOps.Common.Transactions
import FlowOps.ControlPlane.Types

/-!
# The lifecycle of a request

`internal/controlplane/lifecycle.go` with the policy engine of `internal/policy/policy.go`.
An operation holds the mutex of the lifecycle from its first read to its end. It reads the
records, the clock and its collaborators, and then either answers or appends one event
to the journal and applies it; `SweepExpired` does the latter once for each expired
request. `submit`, `decide` and `issue` compute that plan, `Node.commit` carries it out.

What the collaborators answer is an argument of each operation: the gates, the policy
provider, the sources of identifiers, the clock, and the outcome source. The clock and the
outcome source are read again for every record that `spendSnapshot` and
`pilotOutstanding` look at, so they are given by a view for each of these reads.
-/

namespace FlowOps.ControlPlane

/-! ## The policy engine -/

/-- `Engine` (policy.go:107). -/
structure Engine where
  version : String
  enabled : Bool
  chains : List ℕ
  rails : List Rail
  (assets recipients : List String)
  /-- `strings.TrimSpace(strings.ToLower(category))` is a key of `blockedCategories`. -/
  blockedCategory : String → Bool
  approvalRequiredRails : List Rail
  (perActionLimit autoApproveThreshold taskBudget dailyBudget : ℕ)

/-- `projectedTotal` (policy.go:287). -/
def projectedTotal (amount : ℕ) : List String → Option ℕ
  | [] => some amount
  | value :: values =>
    match parseNonNegative value with
    | none => none
    | some n => if 2 ^ 256 ≤ amount + n then none else projectedTotal (amount + n) values

/-- `Engine.Evaluate` (policy.go:227). `canonicalAddress` accepts exactly the texts that
match `addressPattern`. -/
def Engine.evaluate (e : Engine) (intent : PaymentIntent) (spend : SpendSnapshot) : Decision :=
  if e.enabled = false then ⟨.deny, .policyDisabled, e.version⟩
  else if intent.chainID ∉ e.chains then ⟨.deny, .unsupportedChain, e.version⟩
  else if intent.rail ∉ e.rails then ⟨.deny, .unsupportedRail, e.version⟩
  else if addressPattern intent.asset = false ∨ intent.asset ∉ e.assets then
    ⟨.deny, .assetNotAllowed, e.version⟩
  else if addressPattern intent.recipient = false ∨ intent.recipient ∉ e.recipients then
    ⟨.deny, .recipientNotAllowed, e.version⟩
  else if e.blockedCategory intent.category then ⟨.deny, .blockedCategory, e.version⟩
  else
    match parsePositive intent.amountAtomic with
    | none => ⟨.deny, .invalidAmount, e.version⟩
    | some amount =>
      if e.perActionLimit < amount then ⟨.deny, .perActionLimit, e.version⟩
      else
        match projectedTotal amount [spend.taskSpentAtomic, spend.taskReservedAtomic] with
        | none => ⟨.deny, .invalidAmount, e.version⟩
        | some taskTotal =>
          if e.taskBudget < taskTotal then ⟨.deny, .taskBudget, e.version⟩
          else
            match projectedTotal amount [spend.dailySpentAtomic, spend.dailyReservedAtomic] with
            | none => ⟨.deny, .invalidAmount, e.version⟩
            | some dailyTotal =>
              if e.dailyBudget < dailyTotal then ⟨.deny, .dailyBudget, e.version⟩
              else if intent.rail ∈ e.approvalRequiredRails then
                ⟨.requireApproval, .railRequiresApproval, e.version⟩
              else if e.autoApproveThreshold < amount then
                ⟨.requireApproval, .humanApprovalThreshold, e.version⟩
              else ⟨.autoApprove, .allowed, e.version⟩

/-! ## State -/

/-- The state of a `Lifecycle` (lifecycle.go:120). -/
structure Lifecycle where
  records : Dict String Record := ∅
  requestByIntent : Dict String String := ∅
  requestByAuthorization : Dict String String := ∅
  requestByNonce : Dict String String := ∅

/-- The part of `Config` (lifecycle.go:101) that does not change, as `New` accepts it.
Durations are in nanoseconds. -/
structure Config where
  (approvalTTL authorizationTTL : ℤ)
  envelopeKeyID : String
  pilotLimits : Limits
  ttl_pos : 0 < authorizationTTL
  ttl_le : authorizationTTL ≤ approvalTTL

/-- `scopedIntentKey` (lifecycle.go:672). -/
def scopedIntentKey (organizationID intentID : String) : String :=
  organizationID ++ "\x00" ++ intentID

/-- `time.Unix(sec, 0)` for seconds that come from a clock and a TTL, which are far from
the ends of `int64`. -/
def unixTime (sec : ℤ) : Time := { ns := (sec + Time.unixToInternal) * 1000000000 }

/-- `CanonicalExecutionState` (lifecycle.go:71). -/
inductive ExecutionState where
  | settled | reverted | dropped
  | other (name : String)
deriving DecidableEq

/-- `FinalizedExecution` (lifecycle.go:79). -/
structure FinalizedExecution where
  (executionID organizationID agentID taskID : String)
  chainID : ℕ
  (asset recipient amountAtomic : String)
  state : ExecutionState
  finalizedAt : ℤ
deriving DecidableEq

/-- What a read of the outcome source and the clock sees. -/
structure View where
  clock : Time
  outcome : String → Option FinalizedExecution

/-! ## Spending -/

variable (P : Primitives) (c : Config)

/-- The outcome does not belong to the authorization, or is not in the past
(lifecycle.go:541-548). -/
def FinalizedExecution.Foreign (f : FinalizedExecution) (a : Authorization) (clock : Time) : Prop :=
  (f.state ≠ .settled ∧ f.state ≠ .reverted ∧ f.state ≠ .dropped) ∨
    f.executionID ≠ executionIDOf P.toCrypto a.authorizationID ∨
    f.organizationID ≠ a.organizationID ∨ f.agentID ≠ a.agentID ∨ f.taskID ≠ a.taskID ∨
    f.chainID ≠ a.chainID ∨ f.asset ≠ a.asset ∨ f.recipient ≠ a.recipient ∨
    f.amountAtomic ≠ a.amountAtomic ∨ f.finalizedAt < a.issuedAt ∨ clock.unix < f.finalizedAt
deriving Decidable

/-- `finalizedExecution` (lifecycle.go:535). -/
def finalizedExecution (v : View) (r : Record) : Option FinalizedExecution :=
  if r.state ≠ .issued then none
  else
    match r.authorization with
    | none => none
    | some a =>
      if a.rail ≠ .direct ∧ a.rail ≠ .x402 then none
      else
        match v.outcome (executionIDOf P.toCrypto a.authorizationID) with
        | none => none
        | some f => if f.Foreign P a v.clock then none else some f

/-- `reservationActive` (lifecycle.go:554). -/
def reservationActive : State → Bool
  | .pendingApproval | .approved | .issued => true
  | .denied | .rejected | .expired => false

def Record.reserved (v : View) (r : Record) : Bool :=
  reservationActive r.state && (finalizedExecution P v r).isNone

/-- The time at which the record settled. -/
def Record.settledAt (v : View) (r : Record) : Option ℤ :=
  (finalizedExecution P v r).bind fun f => if f.state = .settled then some f.finalizedAt else none

/-- The UTC day of a time. `Year` and `YearDay` of two times agree if it does. -/
def utcDay (sec : ℤ) : ℤ := sec / 86400

/-- The record belongs to a customer of an organization. -/
def Record.concerns (r : Record) (organizationID customerID : String) : Bool :=
  r.intent.organizationID = organizationID && r.intent.customerID = customerID

/-- The sum of the amounts of the records with property `p`; an amount that does not parse
is skipped. -/
def Lifecycle.total (l : Lifecycle) (p : String → Record → Bool) : ℤ :=
  l.records.sum fun id r => if p id r then amountOf r.intent.amountAtomic else 0

section

variable (P : Primitives) (l : Lifecycle) (views : String → View)
  (organizationID customerID taskID : String)

def Lifecycle.taskReserved : ℤ := l.total fun id r =>
  r.concerns organizationID customerID && r.reserved P (views id) && r.intent.taskID = taskID

def Lifecycle.dailyReserved : ℤ := l.total fun id r =>
  r.concerns organizationID customerID && r.reserved P (views id)

def Lifecycle.taskSpent : ℤ := l.total fun id r =>
  r.concerns organizationID customerID && (r.settledAt P (views id)).isSome &&
    r.intent.taskID = taskID

def Lifecycle.dailySpent (now : Time) : ℤ := l.total fun id r =>
  r.concerns organizationID customerID &&
    (r.settledAt P (views id)).any fun sec => utcDay sec = utcDay now.unix

/-- `spendSnapshot` (lifecycle.go:476). -/
def Lifecycle.spendSnapshot (intent : PaymentIntent) (now : Time) : SpendSnapshot where
  taskSpentAtomic := toString (l.taskSpent P views intent.organizationID intent.customerID intent.taskID)
  taskReservedAtomic :=
    toString (l.taskReserved P views intent.organizationID intent.customerID intent.taskID)
  dailySpentAtomic := toString (l.dailySpent P views intent.organizationID intent.customerID now)
  dailyReservedAtomic := toString (l.dailyReserved P views intent.organizationID intent.customerID)

/-- `pilotOutstanding` (lifecycle.go:519). -/
def Lifecycle.pilotOutstanding (intent : PaymentIntent) : String :=
  toString (l.dailyReserved P views intent.organizationID intent.customerID)

end

/-! ## Applying events -/

/-- `authorizationMatches` (lifecycle.go:640) after `Validate`. -/
def AuthorizationMatches (r : Record) (a : Authorization) : Prop :=
  a.organizationID = r.intent.organizationID ∧ a.customerID = r.intent.customerID ∧
    a.agentID = r.intent.agentID ∧ a.taskID = r.intent.taskID ∧ a.actionID = r.intent.actionID ∧
    a.rail = r.intent.rail ∧ a.chainID = r.intent.chainID ∧ a.recipient = r.intent.recipient ∧
    a.asset = r.intent.asset ∧ a.amountAtomic = r.intent.amountAtomic ∧
    a.resource = r.intent.resource ∧ a.escrow = r.intent.escrow ∧
    a.policyVersion = r.decision.policyVersion ∧ r.submittedAt ≤ a.issuedAt ∧
    a.expiresAt ≤ r.approvalExpiresAt
deriving Decidable

/-- `applyEvent` (lifecycle.go:566), `eventIntentSubmitted`. -/
def applySubmitted (l : Lifecycle) (e : Event) (record : Record) : Except Err Lifecycle :=
  if e.requestID ≠ record.requestID ∨ e.atUnix ≠ record.submittedAt then
    .error (.message "submitted event identity or time mismatch")
  else if l.records.lookup record.requestID ≠ none then .error (.message "duplicate request ID")
  else if l.requestByIntent.lookup
      (scopedIntentKey record.intent.organizationID record.intent.intentID) ≠ none then
    .error (.message "duplicate intent ID")
  else if record.intent.digest P ≠ .ok record.intentDigest then
    .error (.message "intent digest mismatch")
  else if requestDigest P record.requestID record.intentDigest record.decision
      record.approvalExpiresAt ≠ record.requestDigest then
    .error (.message "request digest mismatch")
  else if decisionState record.decision ≠ .ok record.state ∨ record.approval ≠ none ∨
      record.authorization ≠ none then
    .error (.message "submitted state does not match decision")
  else
    .ok { l with
      records := l.records.insert record.requestID record
      requestByIntent := l.requestByIntent.insert
        (scopedIntentKey record.intent.organizationID record.intent.intentID) record.requestID }

/-- The approval does not fit the record (lifecycle.go:609-610). -/
def Approval.Invalid (a : Approval) (r : Record) (e : Event) : Prop :=
  r.state ≠ .pendingApproval ∨ a.requestDigest ≠ r.requestDigest ∨ a.decidedAt ≠ e.atUnix ∨
    r.approvalExpiresAt ≤ e.atUnix ∨ identifierPattern a.actor = false ∨ 2048 < a.note.utf8ByteSize
deriving Decidable

/-- `eventApprovalDecided`. -/
def applyApproval (l : Lifecycle) (e : Event) (a : Approval) : Except Err Lifecycle :=
  match l.records.lookup e.requestID with
  | none => .error (.message "approval event is invalid for current request")
  | some record =>
    if a.Invalid record e then .error (.message "approval event is invalid for current request")
    else
      match a.action with
      | .approve => .ok { l with
          records := l.records.insert e.requestID { record with state := .approved, approval := some a } }
      | .reject => .ok { l with
          records := l.records.insert e.requestID { record with state := .rejected, approval := some a } }
      | .other _ => .error (.message "approval action is invalid")

/-- `eventAuthorizationIssued`. -/
def applyIssued (l : Lifecycle) (e : Event) (a : Authorization) : Except Err Lifecycle :=
  match l.records.lookup e.requestID with
  | none => .error (.message "issuance event is invalid for current request")
  | some record =>
    if record.state ≠ .approved ∨ a.issuedAt ≠ e.atUnix ∨ record.approvalExpiresAt ≤ e.atUnix then
      .error (.message "issuance event is invalid for current request")
    else if a.validate P.toCrypto ≠ .ok () then .error (.message "authorization is invalid")
    else if ¬AuthorizationMatches record a then
      .error (.message "authorization does not match approved intent")
    else if l.requestByAuthorization.lookup a.authorizationID ≠ none then
      .error (.message "duplicate authorization ID")
    else if l.requestByNonce.lookup a.nonce ≠ none then
      .error (.message "duplicate authorization nonce")
    else
      .ok { l with
        records := l.records.insert e.requestID { record with state := .issued, authorization := some a }
        requestByAuthorization := l.requestByAuthorization.insert a.authorizationID e.requestID
        requestByNonce := l.requestByNonce.insert a.nonce e.requestID }

/-- `eventIntentExpired`. -/
def applyExpired (l : Lifecycle) (e : Event) (reason : String) : Except Err Lifecycle :=
  if reason.toList.all isSpace then .error (.message "expiry event is invalid")
  else
    match l.records.lookup e.requestID with
    | none => .error (.message "expiry event is invalid for current request")
    | some record =>
      if (record.state ≠ .pendingApproval ∧ record.state ≠ .approved) ∨
          e.atUnix < record.approvalExpiresAt then
        .error (.message "expiry event is invalid for current request")
      else .ok { l with records := l.records.insert e.requestID { record with state := .expired } }

/-- `applyEvent` (lifecycle.go:566). -/
def applyEvent (l : Lifecycle) (e : Event) : Except Err Lifecycle :=
  match e.body with
  | .submitted record => applySubmitted P l e record
  | .approval a => applyApproval l e a
  | .issued a => applyIssued P l e a
  | .expired reason => applyExpired l e reason

/-- The loop of `New` (lifecycle.go:175-179) over the events of a journal. -/
def rebuild (events : List Event) : Except Err Lifecycle :=
  foldCheck (applyEvent P) {} events

/-! ## Operations -/

inductive Reply where
  | record (r : Option Record)
  | signed (s : SignedAuthorization)
  | swept (completed : ℕ) (err : Option Err)

/-- What an operation returns once its event is applied: the record as it is then, an
authorization, or an error. -/
inductive Answer where
  | stored (requestID : String)
  | signed (s : SignedAuthorization)
  | failed (err : Err)

/-- What an operation does under the mutex: reply at once, or append an event. The context
is that of the error if the event is not accepted. -/
inductive Plan where
  | reply (r : Reply)
  | commit (draft : Draft) (context : String) (answer : Answer)

/-- `fmt.Errorf(context + ": %w", err)` for an answer of a collaborator. -/
def wrap {α : Type} (context : String) (x : Except String α) : Except Err α :=
  x.mapError fun text => .wrapped context (.message text)

/-- What `Submit` reads, in order. -/
structure SubmitEnv where
  freeze : Except String Unit
  now : Time
  snapshotViews : String → View
  evaluate : PaymentIntent → SpendSnapshot → Except String Decision
  pilotViews : String → View
  requestID : Except String String

/-- The pilot limits turn a decision into a denial (lifecycle.go:212-223). -/
def pilotDecision (l : Lifecycle) (views : String → View) (intent : PaymentIntent)
    (decision : Decision) : Except Err Decision :=
  if decision.outcome = .deny then .ok decision
  else
    match c.pilotLimits.check intent.amountAtomic (l.pilotOutstanding P views intent) with
    | .ok () => .ok decision
    | .error .perActionExceeded => .ok ⟨.deny, .pilotPerActionLimit, decision.policyVersion⟩
    | .error .outstandingExceeded => .ok ⟨.deny, .pilotOutstandingLimit, decision.policyVersion⟩
    | .error (.invalid field) => .error (.wrapped "evaluate pilot limits" (.message field))

/-- The record of a new request (lifecycle.go:237-244). -/
def recordOf (now : Time) (requestID : String) (intent : PaymentIntent) (intentDigest : String)
    (decision : Decision) (state : State) : Record where
  requestID
  intent
  intentDigest
  requestDigest := requestDigest P requestID intentDigest decision (now.add c.approvalTTL).unix
  decision
  state
  submittedAt := now.unix
  approvalExpiresAt := (now.add c.approvalTTL).unix

/-- `Submit` (lifecycle.go:183). -/
def Lifecycle.submit (P : Primitives) (c : Config) (l : Lifecycle) (env : SubmitEnv) (intent : PaymentIntent) :
    Except Err Plan :=
  (intent.digest P).bind fun intentDigest =>
  match l.requestByIntent.lookup (scopedIntentKey intent.organizationID intent.intentID) with
  | some requestID =>
    -- A missing record would be the zero value, whose digest is empty.
    if (l.records.lookup requestID).map (·.intentDigest) ≠ some intentDigest then
      .error .idempotencyConflict
    else .ok (.reply (.record (l.records.lookup requestID)))
  | none =>
    (wrap "frozen" env.freeze).bind fun () =>
    (wrap "evaluate active policy"
      (env.evaluate intent (l.spendSnapshot P env.snapshotViews intent env.now))).bind fun proposed =>
    if identifierPattern proposed.policyVersion = false then
      .error (.message "policy returned an invalid version identifier")
    else
      (pilotDecision P c l env.pilotViews intent proposed).bind fun decision =>
      (decisionState decision).bind fun state =>
      (wrap "generate request ID" env.requestID).bind fun requestID =>
      if identifierPattern requestID = false then .error (.message "generated request ID is invalid")
      else if l.records.lookup requestID ≠ none then
        .error (.message "generated request ID already exists")
      else
        .ok (.commit
          { time := env.now, requestID
            body := .submitted (recordOf P c env.now requestID intent intentDigest decision state) }
          "apply durable submit event" (.stored requestID))

/-- The draft and context of `expireLocked` (lifecycle.go:434). -/
def expire (record : Record) (now : Time) (reason : String) (answer : Answer) : Plan :=
  .commit { time := now, requestID := record.requestID, body := .expired reason }
    "apply durable expiry event" answer

/-- `Decide` (lifecycle.go:257). -/
def Lifecycle.decide (l : Lifecycle) (now : Time) (requestID requestDigest : String) (action : ApprovalAction)
    (actor note : String) : Except Err Plan :=
  if action ≠ .approve ∧ action ≠ .reject then .error (.message "approval action is invalid")
  else if identifierPattern actor = false ∨ 2048 < note.utf8ByteSize then
    .error (.message "approval actor or note is invalid")
  else
    match l.records.lookup requestID with
    | none => .error .unknownRequest
    | some record =>
      if record.state ≠ .pendingApproval then .error .notPendingApproval
      else if requestDigest ≠ record.requestDigest then .error .approvalDigest
      else if now.before (unixTime record.approvalExpiresAt) = false then
        .ok (expire record now "approval window elapsed before decision" (.failed .approvalExpired))
      else
        .ok (.commit
          { time := now, requestID
            body := .approval { action, actor, note, requestDigest, decidedAt := now.unix } }
          "apply durable approval event" (.stored requestID))

/-- What `Issue` reads, in order. A gate that takes the authorization lock can fail after
the authorization has been issued, when it is released. -/
structure IssueEnv where
  now : Time
  freeze : Except String Unit
  activeVersion : Except String String
  chain : Except String Unit
  (authorizationID nonce : Except String String)
  release : Except String Unit

/-- `expiresAt` before the escrow terms (lifecycle.go:357-360). -/
def authorizationExpiry (record : Record) (now : Time) : Time :=
  if (now.add c.authorizationTTL).after (unixTime record.approvalExpiresAt) then
    unixTime record.approvalExpiresAt
  else now.add c.authorizationTTL

/-- The escrow terms bound the expiry by `acknowledgeBy` (lifecycle.go:361-369). -/
def escrowExpiry (escrow : Option EscrowTerms) (now expiresAt : Time) : Except Err Time :=
  match escrow with
  | none => .ok expiresAt
  | some t =>
    if now.before (Time.ofUnix t.acknowledgeBy) = false then
      .error (.message "escrow acknowledgement deadline elapsed before authorization issuance")
    else if expiresAt.after (Time.ofUnix t.acknowledgeBy) then .ok (Time.ofUnix t.acknowledgeBy)
    else .ok expiresAt

/-- The authorization for a record (lifecycle.go:370-381). -/
def authorizationOf (record : Record) (authorizationID nonce : String) (now expiresAt : Time) :
    Authorization where
  version := "flowops.authorization.v1"
  authorizationID
  organizationID := record.intent.organizationID
  customerID := record.intent.customerID
  agentID := record.intent.agentID
  taskID := record.intent.taskID
  actionID := record.intent.actionID
  rail := record.intent.rail
  chainID := record.intent.chainID
  recipient := record.intent.recipient
  asset := record.intent.asset
  amountAtomic := record.intent.amountAtomic
  resource := record.intent.resource
  policyVersion := record.decision.policyVersion
  nonce
  issuedAt := now.unix
  expiresAt := expiresAt.unix
  escrow := record.intent.escrow

/-- What `issue` answers when its event is applied. -/
def IssueEnv.answer (env : IssueEnv) (signed : SignedAuthorization) : Answer :=
  match env.release with
  | .ok () => .signed signed
  | .error text => .failed (.message text)

/-- `issueLocked` (lifecycle.go:337). -/
def Lifecycle.issueLocked (l : Lifecycle) (env : IssueEnv) (record : Record) : Except Err Plan :=
  (wrap "resolve active policy" env.activeVersion).bind fun active =>
  if active ≠ record.decision.policyVersion then
    .error (.policyChanged record.decision.policyVersion active)
  else
    (wrap "chain unavailable" env.chain).bind fun () =>
    (wrap "generate authorization ID" env.authorizationID).bind fun authorizationID =>
    (wrap "generate nonce" env.nonce).bind fun nonce =>
    (escrowExpiry record.intent.escrow env.now (authorizationExpiry c record env.now)).bind
      fun expiresAt =>
    let authorization := authorizationOf record authorizationID nonce env.now expiresAt
    (sign P c.envelopeKeyID authorization).bind fun signed =>
    if l.requestByAuthorization.lookup authorization.authorizationID ≠ none then
      .error (.message "generated authorization ID already exists")
    else if l.requestByNonce.lookup authorization.nonce ≠ none then
      .error (.message "generated nonce already exists")
    else
      .ok (.commit { time := env.now, requestID := record.requestID, body := .issued authorization }
        "apply durable issuance event" (env.answer signed))

/-- `Issue` (lifecycle.go:294). -/
def Lifecycle.issue (l : Lifecycle) (env : IssueEnv) (requestID : String) : Except Err Plan :=
  match l.records.lookup requestID with
  | none => .error .unknownRequest
  | some record =>
    match record.state, record.authorization with
    | .issued, some a =>
      (wrap "chain unavailable" env.chain).bind fun () =>
      (sign P c.envelopeKeyID a).bind fun signed => .ok (.reply (.signed signed))
    | _, _ =>
      if record.state ≠ .approved then .error .notApproved
      else if env.now.before (unixTime record.approvalExpiresAt) = false then
        .ok (expire record env.now "approval window elapsed before issuance" (.failed .approvalExpired))
      else (wrap "frozen" env.freeze).bind fun () => l.issueLocked P c env record

/-- The requests that `SweepExpired` expires (lifecycle.go:414-421). -/
def Lifecycle.expiredRequests (l : Lifecycle) (now : Time) : List String :=
  ((l.records.entries.filter fun e =>
    (e.2.state = .pendingApproval || e.2.state = .approved) &&
      !now.before (unixTime e.2.approvalExpiresAt)).map (·.1)).insertionSort (· ≤ ·)

/-! ## A running lifecycle -/

/-- A lifecycle and the events of its journal. -/
structure Node where
  live : Lifecycle := {}
  events : List Event := []

/-- The reply to an operation whose event has been applied. -/
def Answer.reply (a : Answer) (l : Lifecycle) : Except Err Reply :=
  match a with
  | .stored requestID => .ok (.record (l.records.lookup requestID))
  | .signed s => .ok (.signed s)
  | .failed err => .error err

/-- Append an event and apply it. The event stays in the journal if it is not accepted. -/
def Node.commit (n : Node) (failure : Option String) (draft : Draft) (context : String)
    (answer : Answer) : Node × Except Err Reply :=
  match append P n.events failure draft with
  | .error e => (n, .error e)
  | .ok event =>
    match applyEvent P n.live event with
    | .error e => ({ n with events := n.events ++ [event] }, .error (.wrapped context e))
    | .ok live => ({ live, events := n.events ++ [event] }, answer.reply live)

def Node.execute (n : Node) (failure : Option String) : Except Err Plan → Node × Except Err Reply
  | .error e => (n, .error e)
  | .ok (.reply r) => (n, .ok r)
  | .ok (.commit draft context answer) => n.commit P failure draft context answer

/-- The loop of `SweepExpired` (lifecycle.go:423-428), with the failures of its appends. -/
def Node.sweep (P : Primitives) (now : Time) (failures : String → Option String) :
    Node → ℕ → List String → Node × Except Err Reply
  | n, completed, [] => (n, .ok (.swept completed none))
  | n, completed, requestID :: rest =>
    match n.live.records.lookup requestID with
    | none =>
      -- The zero record, whose empty id `Append` refuses.
      (n, .ok (.swept completed (some (.message "event kind or request ID is invalid"))))
    | some record =>
      match n.execute P (failures requestID)
          (.ok (expire record now "approval window elapsed during sweep" (.stored requestID))) with
      | (n', .error e) => (n', .ok (.swept completed (some e)))
      | (n', .ok _) => n'.sweep P now failures (completed + 1) rest

inductive Call where
  | submit (env : SubmitEnv) (failure : Option String) (intent : PaymentIntent)
  | decide (now : Time) (failure : Option String) (requestID requestDigest : String)
      (action : ApprovalAction) (actor note : String)
  | issue (env : IssueEnv) (failure : Option String) (requestID : String)
  | sweep (now : Time) (failures : String → Option String)

def Node.call (n : Node) : Call → Node × Except Err Reply
  | .submit env failure intent => n.execute P failure (n.live.submit P c env intent)
  | .decide now failure requestID requestDigest action actor note =>
    n.execute P failure (n.live.decide now requestID requestDigest action actor note)
  | .issue env failure requestID => n.execute P failure (n.live.issue P c env requestID)
  | .sweep now failures => n.sweep P now failures 0 (n.live.expiredRequests now)

/-- An operation never fails as a transaction: it has its reply. -/
def transaction (n : Node) (i : Call) : Except Empty (Node × Except Err Reply) := .ok (n.call P c i)

/-- The lifecycle after the calls, on an empty journal. -/
abbrev run (P : Primitives) (c : Config) (calls : List Call) : Node :=
  execute (transaction P c) {} calls

/-- The calls with the state before each and its reply. -/
abbrev history (P : Primitives) (c : Config) (calls : List Call) :
    List (Success Node Call (Except Err Reply)) := successes (transaction P c) {} calls

/-! ## A small configuration -/

namespace Example

def primitives : Primitives where
  authorizationSHA256 a := .sample (Hex64.code [a.authorizationID] % 8)
  executionSHA256 id := .sample (Hex64.code [id] % 8)
  callKeccak256 chainID _ _ _ _ := .sample (chainID % 8)
  ed25519Verify _ _ _ _ := true
  intentSHA256 i := .sample (Hex64.code [i.intentID, i.amountAtomic] % 8)
  requestSHA256 requestID _ _ _ := .sample (Hex64.code [requestID] % 8)
  eventSHA256 i := .sample i.sequence
  ed25519Sign a := a.authorizationID

/-- Approvals last ten minutes, authorizations one. -/
def config : Config where
  approvalTTL := 600 * 10 ^ 9
  authorizationTTL := 60 * 10 ^ 9
  envelopeKeyID := "key"
  pilotLimits := ⟨100, 1000⟩
  ttl_pos := by decide
  ttl_le := by decide

def intent (intentID amountAtomic : String) : PaymentIntent where
  intentID
  organizationID := "org"
  customerID := "customer"
  agentID := "agent"
  taskID := intentID
  actionID := "action"
  rail := .direct
  chainID := 8453
  recipient := "0x1111111111111111111111111111111111111111"
  asset := "0x2222222222222222222222222222222222222222"
  amountAtomic
  resource := "resource"
  category := "category"
  purpose := "purpose"

/-- A budget of 100 for each task and each day. -/
def engine : Engine where
  version := "v1"
  enabled := true
  chains := [8453]
  rails := [.direct]
  assets := ["0x2222222222222222222222222222222222222222"]
  recipients := ["0x1111111111111111111111111111111111111111"]
  blockedCategory _ := false
  approvalRequiredRails := []
  perActionLimit := 100
  autoApproveThreshold := 100
  taskBudget := 100
  dailyBudget := 100

def submitEnv (now : Time) (views : String → View) (requestID : String) : SubmitEnv where
  freeze := .ok ()
  now
  snapshotViews := views
  evaluate intent spend := .ok (engine.evaluate intent spend)
  pilotViews := views
  requestID := .ok requestID

def issueEnv (now : Time) : IssueEnv where
  now
  freeze := .ok ()
  activeVersion := .ok "v1"
  chain := .ok ()
  authorizationID := .ok "authorization"
  nonce := .ok "0x0000000000000000000000000000000000000000000000000000000000000000"
  release := .ok ()

def quiet (now : Time) : View := ⟨now, fun _ => none⟩

end Example

end FlowOps.ControlPlane

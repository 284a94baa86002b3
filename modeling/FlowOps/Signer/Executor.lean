import FlowOps.Common.Transactions
import FlowOps.Signer.Attempts

/-!
# The customer's executor

`pkg/referencesigner/verifier.go` and `executor.go`: the verifier of an authorization, and
the executor that carries an authorization out through the customer's wallet.

A call of `Execute` or `ResumePending` holds the lock of the executor from its first to its
last step, so a process runs one call at a time. A call is cut into steps where it reads a
clock, asks a collaborator or appends to the journal; a process can stop between any two
of them and start again from the file. What the collaborators answer is part of the input of
a step: the gates and the nonce store of the verifier, the wallet, the registration sink, the
clock, the context and the file. A crash inside an append is a write that fails, with or
without the line in the file, and then a crash.
-/

namespace FlowOps.Signer

/-! ## The verifier -/

/-- `Verifier` (verifier.go:75), without its collaborators. -/
structure Verifier where
  (organizationID customerID : String)
  trustKeys : Dict String Bytes
  chains : List ℕ
  rails : List Rail
  (assets recipients : List String)
  maxAmount : ℕ
  (maxTTL maxFutureSkew : ℤ)

/-- What `CheckExecution` reads: the clock and the answers of the two gates. -/
structure CheckEnv where
  now : Time
  (chain freeze : Except String Unit)

inductive ClaimResult where
  | claimed | alreadyClaimed
  | failed (err : String)
deriving DecidableEq

section

variable (P : Primitives)

/-- `envelope.Verify` (envelope.go:274). -/
def verifyAuthorization (s : SignedAuthorization) (publicKey : Bytes) : Except String Unit :=
  if identifierPattern s.keyID = false then .error "keyId: invalid identifier"
  else if publicKey.length ≠ 32 then .error "public key: invalid Ed25519 length"
  else if s.signature.startsWith "0x" = false then
    .error "signature: must use 0x-prefixed lowercase hex"
  else if hexPattern 128 s.signature = false then
    .error "signature: invalid canonical Ed25519 encoding"
  else
    match s.authorization.value.validate P.toCrypto with
    | .error err => .error err
    | .ok () =>
      if P.ed25519VerifyAuthorization publicKey s.authorization.value s.signature = false then
        .error "signature: verification failed"
      else .ok ()

/-- `checkAuthorization` (verifier.go:220). `parsePositive` (verifier.go:272) accepts the
texts that the one of limits.go accepts. -/
def Verifier.checkAuthorization (v : Verifier) (env : CheckEnv) (a : Authorization) : Except Err Unit :=
  let issuedAt := Time.ofUnix a.issuedAt
  let expiresAt := Time.ofUnix a.expiresAt
  if a.organizationID ≠ v.organizationID ∨ a.customerID ≠ v.customerID then
    .error (.refusal .identity "authorization is not bound to this customer signer")
  else if issuedAt.after (env.now.utc.add v.maxFutureSkew) then
    .error (.refusal .notYetValid "authorization issued in the future")
  else if env.now.utc.before expiresAt = false then
    .error (.refusal .expired "authorization window elapsed")
  else if v.maxTTL < expiresAt.sub issuedAt then
    .error (.refusal .ttlTooLong "authorization window exceeds local maximum")
  else if a.chainID ∉ v.chains then .error (.refusal .chain "chain is not locally allowed")
  else if a.rail ∉ v.rails then .error (.refusal .rail "rail is not locally allowed")
  else if a.asset ∉ v.assets then .error (.refusal .asset "asset is not locally allowed")
  else if a.recipient ∉ v.recipients then
    .error (.refusal .recipient "recipient is not locally allowed")
  else if (parsePositive a.amountAtomic).all (fun amount => v.maxAmount < amount) then
    .error (.refusal .amount "amount exceeds local cap")
  else
    match env.chain with
    | .error err => .error (.refusal .chainUnhealthy err)
    | .ok () =>
      match env.freeze with
      | .error err => .error (.refusal .frozen err)
      | .ok () => .ok ()

/-- `CheckExecution` (verifier.go:209). -/
def Verifier.checkExecution (v : Verifier) (env : CheckEnv) (signed : SignedAuthorization) :
    Except Err Unit :=
  match v.trustKeys.lookup signed.keyID with
  | none => .error (.refusal .unknownTrustKey "authorization key is not trusted")
  | some publicKey =>
    match verifyAuthorization P signed publicKey with
    | .error err => .error (.refusal .badSignature err)
    | .ok () => v.checkAuthorization env signed.authorization.value

/-- `Authorize` (verifier.go:176). The nonce store is asked for the key that `claimKey`
derives; its answer is an input. -/
def Verifier.authorize (v : Verifier) (env : CheckEnv) (now : Time) (claim : ClaimResult)
    (signed : SignedAuthorization) : Except Err Authorized :=
  (v.checkExecution P env signed).bind fun () =>
    match signed.authorization.value.digest P.toCrypto with
    | .error err => .error (.refusal .badSignature err)
    | .ok digest =>
      match claim with
      | .alreadyClaimed => .error (.refusal .replay "nonce already claimed")
      | .failed err => .error (.refusal .nonceStore err)
      | .claimed => .ok ⟨signed.authorization, digest, signed.keyID, now.utc.unix⟩

/-! ## The executor -/

/-- `Executor` (executor.go:50), without its collaborators and its journal. -/
structure Executor where
  verifier : Verifier
  pilotLimits : Limits
  (receiptKeyID receiptPublicKeyB64 : String)

/-- What a step of a call reads from its collaborators. -/
structure StepEnv where
  canceled : Bool := false
  check : CheckEnv := ⟨⟨0, 0⟩, .ok (), .ok ()⟩
  now : Time := ⟨0, 0⟩
  claim : ClaimResult := .claimed
  prepared : Except String PreparedTransaction := .error ""
  eventAt : Time := ⟨0, 0⟩
  write : WriteResult := .synced
  broadcast : Except String Unit := .ok ()
  register : Except String Unit := .ok ()

inductive Phase where
  /-- `Execute` has found no attempt, and the limits allow one. -/
  | authorize (signed : SignedAuthorization)
  | prepare (signed : SignedAuthorization) (authorized : Authorized)
  | persist (signed : SignedAuthorization) (authorized : Authorized) (prepared : PreparedTransaction)
  /-- `advance` is entered. -/
  | advance (attempt : Attempt)
  /-- `CheckExecution` has succeeded. -/
  | enter (attempt : Attempt)
  /-- The BROADCASTING record is appended. -/
  | broadcast (attempt : Attempt)
  /-- `persistOutcomeAndRegister` is entered. -/
  | outcome (attempt : Attempt) (outcome : BroadcastOutcome)
  | register (attempt : Attempt)

/-- The call that is running. `ResumePending` has attempts to go, and results so far. -/
inductive Call where
  | execute
  | resume (rest : List Attempt) (results : List (Option Attempt)) (failures : List Err)

/-- What a call returns: `none` stands for `Attempt{}`. -/
inductive Reply where
  | execute (attempt : Option Attempt) (err : Option Err)
  | resume (results : List (Option Attempt)) (failures : List Err)
deriving DecidableEq

/-- What a step does that can be seen from outside. -/
inductive Effect where
  | silent
  | checked (env : CheckEnv) (signed : SignedAuthorization)
  | broadcast (authorizationID : String) (prepared : PreparedTransaction)
  | returned (reply : Reply)

/-- A running process: its journal, and the call that holds the lock. -/
structure Process where
  journal : AttemptJournal
  running : Option (Call × Phase) := none

/-- `Attempts` (attempt_journal.go:310): in the order of their authorizations. -/
def AttemptJournal.list (j : AttemptJournal) : List Attempt :=
  (j.attempts.entries.map (·.2)).mergeSort fun a b =>
    a.authorized.authorization.value.authorizationID ≤ b.authorized.authorization.value.authorizationID

/-- `pilotOutstanding` (executor.go:140): a sum of integers, whatever the order. -/
def AttemptJournal.pilotOutstanding (j : AttemptJournal) : String :=
  toString (j.attempts.sum fun _ a => amountOf a.authorized.authorization.value.amountAtomic)

/-- The loop of `ResumePending` (executor.go:163-172). -/
def Process.resumeNext (p : Process) : List Attempt → List (Option Attempt) → List Err → Process × Effect
  | [], results, failures => ({ p with running := none }, .returned (.resume results failures))
  | attempt :: rest, results, failures =>
    if attempt.state = .registered then p.resumeNext rest results failures
    else ({ p with running := some (.resume rest results failures, .advance attempt) }, .silent)

/-- `advance` returns to its caller. -/
def Process.finish (p : Process) (call : Call) (attempt : Option Attempt) (err : Option Err) :
    Process × Effect :=
  match call with
  | .execute => ({ p with running := none }, .returned (.execute attempt err))
  | .resume rest results failures => p.resumeNext rest (results ++ [attempt]) (failures ++ err.toList)

/-- The beginning of `Execute` (executor.go:94-108). -/
def Process.execute (x : Executor) (p : Process) (signed : SignedAuthorization) : Process × Effect :=
  let a := signed.authorization.value
  if a.rail ≠ .direct ∧ a.rail ≠ .escrow then (p, .returned (.execute none (some .unsupportedRail)))
  else
    match p.journal.attempts.lookup a.authorizationID with
    | some existing =>
      if existing.authorization ≠ signed then
        (p, .returned (.execute none (some .attemptConflict)))
      else ({ p with running := some (.execute, .advance existing) }, .silent)
    | none =>
      match x.pilotLimits.check a.amountAtomic p.journal.pilotOutstanding with
      | .error err => (p, .returned (.execute none (some (.limit err))))
      | .ok () => ({ p with running := some (.execute, .authorize signed) }, .silent)

/-- The receipt of `persistOutcomeAndRegister` (executor.go:211-221). -/
def receiptOf (attempt : Attempt) (outcome : BroadcastOutcome) : Receipt where
  version := "flowops.broadcast-receipt.v1"
  organizationID := attempt.authorized.authorization.value.organizationID
  customerID := attempt.authorized.authorization.value.customerID
  authorizationID := attempt.authorized.authorization.value.authorizationID
  authorizationDigest := attempt.authorized.digest
  transactionHash := attempt.prepared.transactionHash
  sender := attempt.prepared.sender
  outcome
  broadcastAt := attempt.broadcastAt

/-- `broadcastreceipt.Sign` (receipt.go:92) with the key of the executor. -/
def Executor.signReceipt (x : Executor) (r : Receipt) : Except String SignedReceipt :=
  if identifierPattern x.receiptKeyID = false then .error "keyId: invalid identifier"
  else
    match r.validate with
    | .error err => .error err
    | .ok () => .ok ⟨r, x.receiptKeyID, P.ed25519SignReceipt r x.receiptKeyID⟩

/-- The state that goes with an outcome. -/
def stateOf (outcome : BroadcastOutcome) : AttemptState :=
  if outcome = .submitted then .submitted else .ambiguous

/-- The attempt that `Execute` appends (executor.go:128-131). -/
def newAttempt (env : StepEnv) (signed : SignedAuthorization) (authorized : Authorized)
    (prepared : PreparedTransaction) : Attempt where
  authorization := signed
  authorized
  prepared
  state := .prepared
  preparedAt := env.now.utc.unix

/-- The attempt that `advance` appends before the broadcast (executor.go:181-182). -/
def AttemptOf.entered (attempt : Attempt) (env : StepEnv) : Attempt :=
  { attempt with state := .broadcasting, broadcastAt := env.now.utc.unix }

/-- The attempt that `persistOutcomeAndRegister` appends (executor.go:225-227). -/
def AttemptOf.withOutcome (x : Executor) (attempt : Attempt) (outcome : BroadcastOutcome)
    (receipt : SignedReceipt) : Attempt :=
  { attempt with
    state := stateOf outcome
    receipt := some receipt
    receiptPublicKeyB64 := x.receiptPublicKeyB64 }

/-- The attempt that `register` appends (executor.go:245-247). -/
def AttemptOf.withRegistration (attempt : Attempt) (env : StepEnv) : Attempt :=
  { attempt with state := .registered, registeredAt := env.now.utc.unix }

/-- `ErrBroadcastAmbiguous` for a registered attempt whose outcome is not known. -/
def AttemptOf.ambiguity (attempt : Attempt) : Option Err :=
  if attempt.receipt.any (fun r => r.receipt.outcome = .ambiguous) then some .broadcastAmbiguous
  else none

/-- A step that does not touch the file. -/
def unwritten (r : Process × Effect) : Process × Effect × Option AttemptEvent := (r.1, r.2, none)

/-- An append and what follows it: `failed` after an error, `done` after a success. -/
def Process.appendThen (p : Process) (canceled : Bool) (env : StepEnv) (attempt : Attempt)
    (failed : Process → Err → Process × Effect) (done : Process → Attempt → Process × Effect) :
    Process × Effect × Option AttemptEvent :=
  let (result, j, written) := p.journal.append P canceled env.eventAt attempt env.write
  let r := match result with
    | .error err => failed { p with journal := j } err
    | .ok persisted => done { p with journal := j } persisted
  (r.1, r.2, written)

/-- One step of a call: the process after it, what it does, and what it adds to the file. -/
def Process.step (x : Executor) (p : Process) (env : StepEnv) (call : Call) :
    Phase → Process × Effect × Option AttemptEvent
  | .authorize signed =>
    match x.verifier.authorize P env.check env.now env.claim signed with
    | .error err => unwritten (p.finish call none (some err))
    | .ok authorized => ({ p with running := some (call, .prepare signed authorized) }, .silent, none)
  | .prepare signed authorized =>
    match env.prepared with
    | .error err => unwritten (p.finish call none (some (.message ("prepare customer transaction: " ++ err))))
    | .ok prepared =>
      match prepared.validate P with
      | .error err => unwritten (p.finish call none (some (.preparedTransaction err)))
      | .ok () =>
        ({ p with running := some (call, .persist signed authorized prepared) }, .silent, none)
  | .persist signed authorized prepared =>
    p.appendThen P env.canceled env (newAttempt env signed authorized prepared)
      (fun p err => p.finish call none (some err))
      fun p attempt => ({ p with running := some (call, .advance attempt) }, .silent)
  | .advance attempt =>
    match attempt.state with
    | .prepared =>
      match x.verifier.checkExecution P env.check attempt.authorization with
      | .error err => unwritten (p.finish call (some attempt) (some err))
      | .ok () =>
        ({ p with running := some (call, .enter attempt) },
          .checked env.check attempt.authorization, none)
    | .broadcasting => ({ p with running := some (call, .outcome attempt .ambiguous) }, .silent, none)
    | .submitted | .ambiguous => ({ p with running := some (call, .register attempt) }, .silent, none)
    | .registered => unwritten (p.finish call (some attempt) attempt.ambiguity)
    | .other _ =>
      unwritten (p.finish call none
        (some (.message "durable signer attempt has an unsupported state")))
  | .enter attempt =>
    p.appendThen P env.canceled env (attempt.entered env)
      (fun p err => p.finish call none (some err))
      fun p attempt => ({ p with running := some (call, .broadcast attempt) }, .silent)
  | .broadcast attempt =>
    ({ p with running := some (call, .outcome attempt
        (if env.broadcast.toBool then .submitted else .ambiguous)) },
      .broadcast attempt.authorized.authorization.value.authorizationID attempt.prepared, none)
  | .outcome attempt outcome =>
    match x.signReceipt P (receiptOf attempt outcome) with
    | .error err => unwritten (p.finish call (some attempt) (some (.message err)))
    | .ok receipt =>
      -- `context.WithoutCancel`: a cancelled caller does not stop the append.
      p.appendThen P false env (attempt.withOutcome x outcome receipt)
        (fun p err => p.finish call none (some err))
        fun p attempt => ({ p with running := some (call, .register attempt) }, .silent)
  | .register attempt =>
    match attempt.receipt with
    | none =>
      unwritten (p.finish call none (some (.message "durable attempt has no receipt to register")))
    | some _ =>
      match env.register with
      | .error _ => unwritten (p.finish call (some attempt) (some .registrationPending))
      | .ok () =>
        p.appendThen P false env (attempt.withRegistration env)
          (fun p _ => p.finish call (some attempt) (some .registrationPending))
          fun p persisted => p.finish call (some persisted) persisted.ambiguity

/-! ## Runs -/

/-- The file, and the process that runs on it if there is one. -/
structure State where
  durable : List AttemptEvent := []
  process : Option Process := none

/-- What can happen: a process starts and reads the file, it stops, a call begins, or the
running call takes a step. -/
inductive Action where
  | start | crash
  | execute (signed : SignedAuthorization)
  | resume
  | step (env : StepEnv)

/-- `OpenAttemptJournal` (attempt_journal.go:58) on these events. -/
def openAttemptJournal (events : List AttemptEvent) : Except Err AttemptJournal :=
  foldCheck (AttemptJournal.replayEvent P) {} events

/-- One action: `.error` if it is not possible. -/
def State.act (x : Executor) (s : State) : Action → Except Unit (State × Effect)
  | .start =>
    match s.process, openAttemptJournal P s.durable with
    | none, .ok j => .ok ({ s with process := some ⟨j, none⟩ }, .silent)
    | _, _ => .error ()
  | .crash => .ok ({ s with process := none }, .silent)
  | .execute signed =>
    match s.process with
    | some ⟨j, none⟩ =>
      let (p, effect) := Process.execute x ⟨j, none⟩ signed
      .ok ({ s with process := some p }, effect)
    | _ => .error ()
  | .resume =>
    match s.process with
    | some ⟨j, none⟩ =>
      let (p, effect) := Process.resumeNext ⟨j, none⟩ j.list [] []
      .ok ({ s with process := some p }, effect)
    | _ => .error ()
  | .step env =>
    match s.process with
    | some ⟨j, some (call, phase)⟩ =>
      let (p, effect, written) := Process.step P x ⟨j, some (call, phase)⟩ env call phase
      .ok (⟨s.durable ++ written.toList, some p⟩, effect)
    | _ => .error ()

end

/-- The state after the actions, from an empty file. -/
abbrev run (P : Primitives) (x : Executor) (actions : List Action) : State :=
  execute (State.act P x) {} actions

/-- The actions with the state before each and what it does. -/
abbrev history (P : Primitives) (x : Executor) (actions : List Action) :
    List (Success State Action Effect) := successes (State.act P x) {} actions

/-! ## What a step can do -/

/-- The phases that do not follow a check of this call. -/
def Phase.Passive : Phase → Prop
  | .advance _ | .outcome _ _ | .register _ => True
  | _ => False

/-- Nothing runs, or a call in such a phase. -/
def Process.Passive (p : Process) : Prop := p.running.elim True fun r => r.2.Passive

/-- The effects that are neither a check nor a broadcast. -/
def Effect.Passive : Effect → Prop
  | .silent | .returned _ => True
  | _ => False

/-- What a phase can append: a new attempt, or a later state of one. -/
def Phase.Writes (env : StepEnv) (phase : Phase) (attempt : Attempt) : Prop :=
  (∃ signed authorized prepared, phase = .persist signed authorized prepared ∧
    attempt = newAttempt env signed authorized prepared) ∨ attempt.state ≠ .prepared

inductive Stepped (P : Primitives) (x : Executor) (p : Process) (env : StepEnv) :
    Phase → Process → Effect → Option AttemptEvent → Prop where
  | passive {phase : Phase} {p' : Process} {effect : Effect} (hjournal : p'.journal = p.journal)
      (hp : p'.Passive) (he : effect.Passive) : Stepped P x p env phase p' effect none
  | authorized {signed : SignedAuthorization} {authorized : Authorized} {call : Call} :
      Stepped P x p env (.authorize signed)
        { p with running := some (call, .prepare signed authorized) } .silent none
  | prepared {signed : SignedAuthorization} {authorized : Authorized} {prepared : PreparedTransaction}
      {call : Call} :
      Stepped P x p env (.prepare signed authorized)
        { p with running := some (call, .persist signed authorized prepared) } .silent none
  | checked {attempt : Attempt} {call : Call}
      (hcheck : x.verifier.checkExecution P env.check attempt.authorization = .ok ()) :
      Stepped P x p env (.advance attempt) { p with running := some (call, .enter attempt) }
        (.checked env.check attempt.authorization) none
  | appended {phase : Phase} {p' : Process} {effect : Effect} {canceled : Bool} {attempt : Attempt}
      {result : Except Err Attempt} {written : Option AttemptEvent}
      (happend : p.journal.append P canceled env.eventAt attempt env.write = (result, p'.journal, written))
      (hwrites : phase.Writes env attempt) (hp : p'.Passive) (he : effect.Passive) :
      Stepped P x p env phase p' effect written
  | entered {attempt persisted : Attempt} {call : Call} {j : AttemptJournal} {written : Option AttemptEvent}
      (happend : p.journal.append P env.canceled env.eventAt (attempt.entered env) env.write =
        (.ok persisted, j, written)) :
      Stepped P x p env (.enter attempt) ⟨j, some (call, .broadcast persisted)⟩ .silent written
  | broadcast {attempt : Attempt} {outcome : BroadcastOutcome} {call : Call} :
      Stepped P x p env (.broadcast attempt) { p with running := some (call, .outcome attempt outcome) }
        (.broadcast attempt.authorized.authorization.value.authorizationID attempt.prepared) none

inductive Acted (P : Primitives) (x : Executor) (s : State) : Action → State → Effect → Prop where
  | started {j : AttemptJournal} (hopen : openAttemptJournal P s.durable = .ok j) :
      Acted P x s .start { s with process := some ⟨j, none⟩ } .silent
  | crashed : Acted P x s .crash { s with process := none } .silent
  | begun {action : Action} {j : AttemptJournal} {p : Process} {effect : Effect}
      (hs : s.process = some ⟨j, none⟩) (hjournal : p.journal = j) (hp : p.Passive)
      (he : effect.Passive) : Acted P x s action { s with process := some p } effect
  | admitted {j : AttemptJournal} {signed : SignedAuthorization} (hs : s.process = some ⟨j, none⟩)
      (hcheck : x.pilotLimits.check signed.authorization.value.amountAtomic j.pilotOutstanding = .ok ()) :
      Acted P x s (.execute signed)
        { s with process := some ⟨j, some (.execute, .authorize signed)⟩ } .silent
  | stepped {env : StepEnv} {j : AttemptJournal} {call : Call} {phase : Phase} {p : Process}
      {effect : Effect} {written : Option AttemptEvent} (hs : s.process = some ⟨j, some (call, phase)⟩)
      (hstep : Stepped P x ⟨j, some (call, phase)⟩ env phase p effect written) :
      Acted P x s (.step env) ⟨s.durable ++ written.toList, some p⟩ effect

section

variable {P : Primitives} {x : Executor} {p : Process} {env : StepEnv}

lemma resumeNext_spec (rest : List Attempt) (results : List (Option Attempt)) (failures : List Err) :
    (p.resumeNext rest results failures).1.journal = p.journal ∧
      (p.resumeNext rest results failures).1.Passive ∧ (p.resumeNext rest results failures).2.Passive := by
  induction rest with
  | nil => exact ⟨rfl, trivial, trivial⟩
  | cons attempt rest ih =>
    unfold Process.resumeNext
    split
    · exact ih
    · exact ⟨rfl, trivial, trivial⟩

lemma finish_spec (call : Call) (attempt : Option Attempt) (err : Option Err) :
    (p.finish call attempt err).1.journal = p.journal ∧ (p.finish call attempt err).1.Passive ∧
      (p.finish call attempt err).2.Passive := by
  cases call with
  | execute => exact ⟨rfl, trivial, trivial⟩
  | resume rest results failures => exact resumeNext_spec _ _ _

lemma stepped_finish {phase : Phase} (call : Call) (attempt : Option Attempt) (err : Option Err) :
    Stepped P x p env phase (unwritten (p.finish call attempt err)).1
      (unwritten (p.finish call attempt err)).2.1 (unwritten (p.finish call attempt err)).2.2 := by
  obtain ⟨hjournal, hp, he⟩ := finish_spec (p := p) call attempt err
  exact .passive hjournal hp he

/-- An append after which the call is passive, whether it fails or not. -/
lemma stepped_append {phase : Phase} {canceled : Bool} {attempt : Attempt}
    {failed : Process → Err → Process × Effect} {done : Process → Attempt → Process × Effect}
    (hwrites : phase.Writes env attempt)
    (hfailed : ∀ q err, (failed q err).1.journal = q.journal ∧ (failed q err).1.Passive ∧
      (failed q err).2.Passive)
    (hdone : ∀ q a, (done q a).1.journal = q.journal ∧ (done q a).1.Passive ∧ (done q a).2.Passive) :
    Stepped P x p env phase (p.appendThen P canceled env attempt failed done).1
      (p.appendThen P canceled env attempt failed done).2.1
      (p.appendThen P canceled env attempt failed done).2.2 := by
  unfold Process.appendThen
  rcases happend : p.journal.append P canceled env.eventAt attempt env.write with ⟨result, j, written⟩
  cases result with
  | error err =>
    obtain ⟨hjournal, hp, he⟩ := hfailed { p with journal := j } err
    exact .appended (by rw [happend]; exact congrArg (fun j => (_, j, _)) hjournal.symm) hwrites hp he
  | ok persisted =>
    obtain ⟨hjournal, hp, he⟩ := hdone { p with journal := j } persisted
    exact .appended (by rw [happend]; exact congrArg (fun j => (_, j, _)) hjournal.symm) hwrites hp he

lemma stateOf_ne_prepared (outcome : BroadcastOutcome) : stateOf outcome ≠ .prepared := by
  unfold stateOf
  split_ifs <;> decide

lemma step_stepped (call : Call) (phase : Phase) :
    Stepped P x p env phase (p.step P x env call phase).1 (p.step P x env call phase).2.1
      (p.step P x env call phase).2.2 := by
  have hfailed : ∀ (attempt : Option Attempt) (q : Process) (err : Err),
      (q.finish call attempt (some err)).1.journal = q.journal ∧
        (q.finish call attempt (some err)).1.Passive ∧ (q.finish call attempt (some err)).2.Passive :=
    fun attempt q err => finish_spec call attempt (some err)
  cases phase with
  | authorize signed =>
    simp only [Process.step]
    split
    · exact stepped_finish _ _ _
    · exact .authorized
  | prepare signed authorized =>
    simp only [Process.step]
    split
    · exact stepped_finish _ _ _
    · split
      · exact stepped_finish _ _ _
      · exact .prepared
  | persist signed authorized prepared =>
    exact stepped_append (.inl ⟨signed, authorized, prepared, rfl, rfl⟩) (hfailed none)
      fun q a => ⟨rfl, trivial, trivial⟩
  | advance attempt =>
    simp only [Process.step]
    split
    · split
      · exact stepped_finish _ _ _
      · rename_i hcheck
        exact .checked hcheck
    · exact .passive rfl trivial trivial
    · exact .passive rfl trivial trivial
    · exact .passive rfl trivial trivial
    · exact stepped_finish _ _ _
    · exact stepped_finish _ _ _
  | enter attempt =>
    simp only [Process.step, Process.appendThen]
    rcases happend : p.journal.append P env.canceled env.eventAt (attempt.entered env) env.write with
      ⟨result, j, written⟩
    cases result with
    | error err =>
      obtain ⟨hjournal, hp, he⟩ := hfailed none { p with journal := j } err
      exact .appended (by rw [happend]; exact congrArg (fun j => (_, j, _)) hjournal.symm)
        (.inr (by simp [AttemptOf.entered])) hp he
    | ok persisted => exact .entered happend
  | broadcast attempt => exact .broadcast
  | outcome attempt outcome =>
    simp only [Process.step]
    split
    · exact stepped_finish _ _ _
    · exact stepped_append (.inr (stateOf_ne_prepared outcome)) (hfailed none)
        fun q a => ⟨rfl, trivial, trivial⟩
  | register attempt =>
    simp only [Process.step]
    split
    · exact stepped_finish _ _ _
    · split
      · exact stepped_finish _ _ _
      · exact stepped_append (.inr (by simp [AttemptOf.withRegistration]))
          (fun q _ => finish_spec call _ _) fun q a => finish_spec call _ _

lemma act_acted {s s' : State} {action : Action} {effect : Effect}
    (h : s.act P x action = .ok (s', effect)) : Acted P x s action s' effect := by
  cases action with
  | start =>
    simp only [State.act] at h
    split at h
    · rename_i hopen
      cases h
      exact .started hopen
    · cases h
  | crash =>
    cases h
    exact .crashed
  | execute signed =>
    simp only [State.act] at h
    split at h
    · rename_i j hs
      cases h
      dsimp only [Process.execute]
      split
      · exact .begun hs rfl trivial trivial
      · split
        · split
          · exact .begun hs rfl trivial trivial
          · exact .begun hs rfl trivial trivial
        · split
          · exact .begun hs rfl trivial trivial
          · rename_i hcheck
            exact .admitted hs hcheck
    · cases h
  | resume =>
    simp only [State.act] at h
    split at h
    · rename_i j hs
      cases h
      obtain ⟨hjournal, hp, he⟩ := resumeNext_spec (p := ⟨j, none⟩) j.list [] []
      exact .begun hs hjournal hp he
    · cases h
  | step env =>
    simp only [State.act] at h
    split at h
    · rename_i j call phase hs
      cases h
      exact .stepped hs (step_stepped call phase)
    · cases h

end

/-! ## A small configuration -/

namespace Example

/-- One trusted key, one chain, both rails that the executor supports, limits of 100 for an
action and 150 in all. -/
def executor : Executor where
  verifier :=
    { organizationID := "org"
      customerID := "customer"
      trustKeys := (∅ : Dict String Bytes).insert "key" (List.replicate 32 0)
      chains := [8453]
      rails := [.direct, .escrow]
      assets := ["0x2222222222222222222222222222222222222222"]
      recipients := ["0x1111111111111111111111111111111111111111"]
      maxAmount := 100
      maxTTL := 60 * 10 ^ 9
      maxFutureSkew := 0 }
  pilotLimits := ⟨100, 150⟩
  receiptKeyID := "receipts"
  receiptPublicKeyB64 := "AAAAAAAAAAAAAAAAAAAAAAAAAAAAAAAAAAAAAAAAAAA="

def signed : SignedAuthorization :=
  ⟨decodeAuthorization 0 (authorization none), "key", "0x" ++ zeros.val ++ zeros.val⟩

def transaction : PreparedTransaction := ⟨[1], zeros.hash, "0x4444444444444444444444444444444444444444"⟩

/-- Every collaborator agrees, at second 1001. -/
def stepEnv : StepEnv where
  check := ⟨Time.ofUnix 1001, .ok (), .ok ()⟩
  now := Time.ofUnix 1001
  prepared := .ok transaction
  eventAt := Time.ofUnix 1001

/-- A call of `Execute` up to its broadcast. -/
def payment : List Action := [.start, .execute signed] ++ List.replicate 6 (.step stepEnv)

end Example

end FlowOps.Signer

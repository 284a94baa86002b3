import FlowOps.Reconciliation.State

/-!
# Applying a journal event

`validateEscrowEventEvolution` (escrow_durable.go:816) and `apply`
(engine.go:752). `apply` sees only the event and the state, so it serves both a
live operation and the replay of a journal.

The source mutates the engine in place, but checks first: the only check after a
mutation is the one on the chain id of the status (`checkChainID`), which no event
the engine writes fails.
-/

namespace FlowOps.Reconciliation

/-! ## Evolution of an escrow call -/

section

variable (P : Primitives) (cfg : Config)

/-- The receipt branch of a resolved event, taken when the stored call has a
pending transition (escrow_durable.go:837-855). -/
def evolveReceipt (trusted : Option Checkpoint) (eventAt : Time) (current : EscrowCall)
    (pending : EscrowTransition) (payload : EscrowPayload) : Except Err Unit :=
  let call := payload.call
  if call.pending ≠ none ∨ call.transitions.length ≠ current.transitions.length + 1 ∨
      payload.evidence = [] ∨ payload.reorg ≠ [] then
    .error (.message "escrow receipt resolution event shape is invalid")
  else
    match call.transitions.getLast? with
    | none => .error (.message "escrow receipt resolution event shape is invalid")
    | some resolved =>
      let prior := { call with
        transitions := current.transitions, pending := some pending
        state := current.state, resolution := current.resolution }
      if prior ≠ current ∨ resolved.expected ≠ pending.expected ∨
          resolved.registeredAt ≠ pending.registeredAt ∨ resolved.resolvedAt ≠ some eventAt then
        .error (.message "escrow receipt resolution changed immutable or unrelated state")
      else
        match validateEscrowReceiptQuorum cfg trusted resolved.expected payload.evidence with
        | .error _ =>
          .error (.message "escrow resolved snapshot does not match its quorum evidence")
        | .ok canonical =>
          if resolved.blockNumber ≠ canonical.blockNumber ∨
              resolved.blockHash ≠ canonical.blockHash ∨
              resolved.evidenceDigest ≠ digestEscrowEvidence P payload.evidence ∨
              canonical.success ≠ decide (resolved.state = .confirmed) then
            .error (.message "escrow resolved snapshot does not match its quorum evidence")
          else .ok ()

/-- The loop of the finality branch (escrow_durable.go:861-878): `changed` is
whether a changed transition was found. -/
def finalityDelta (cfg : Config) (trusted : Option Checkpoint) (eventAt : Time)
    (reorg : List ReorgEvidence) :
    Bool → List EscrowTransition → List EscrowTransition → Except Err Bool
  | changed, before :: bs, after :: as =>
    if before = after then finalityDelta cfg trusted eventAt reorg changed bs as
    else
      let candidate := { after with
        finalityCheckedAt := before.finalityCheckedAt
        finalityCheckedHead := before.finalityCheckedHead }
      if changed ∨ candidate ≠ before ∨ before.finalityCheckedAt ≠ none ∨
          after.finalityCheckedAt ≠ some eventAt then
        .error (.message "escrow finality event changed more than finality evidence")
      else
        match validateCanonicalBlockQuorum cfg trusted before.blockTarget reorg false with
        | .error _ =>
          .error (.message "escrow finality snapshot does not match quorum evidence")
        | .ok canonical =>
          if after.finalityCheckedHead ≠ canonical.observedHead then
            .error (.message "escrow finality snapshot does not match quorum evidence")
          else finalityDelta cfg trusted eventAt reorg true bs as
  | changed, _, _ => .ok changed

/-- The finality branch of a resolved event (escrow_durable.go:856-882). The loop
puts every changed transition back, so that `prior` has the current ones. -/
def evolveFinality (trusted : Option Checkpoint) (eventAt : Time) (current : EscrowCall)
    (payload : EscrowPayload) : Except Err Unit :=
  let call := payload.call
  if call.pending ≠ none ∨ call.transitions.length ≠ current.transitions.length ∨
      payload.evidence ≠ [] ∨ payload.reorg = [] ∨ payload.ledgers ≠ [] then
    .error (.message "escrow finality event shape is invalid")
  else
    (finalityDelta cfg trusted eventAt payload.reorg false current.transitions
      call.transitions).bind fun changed =>
      if changed = false ∨ { call with transitions := current.transitions } ≠ current then
        .error (.message "escrow finality event has no exact transition delta")
      else .ok ()

/-- A reorged transition keeps everything but its state, its prior outcome, its
resolution and its correction (escrow_durable.go:906). -/
def reorgAltered (before after : EscrowTransition) : Prop :=
  after.state ≠ .reorged ∨ after.reorgedFrom ≠ some before.state ∨
    after.expected ≠ before.expected ∨ after.registeredAt ≠ before.registeredAt ∨
    after.resolvedAt ≠ before.resolvedAt ∨ after.blockNumber ≠ before.blockNumber ∨
    after.blockHash ≠ before.blockHash ∨ after.evidenceDigest ≠ before.evidenceDigest ∨
    after.finalityCheckedAt ≠ before.finalityCheckedAt ∨
    after.finalityCheckedHead ≠ before.finalityCheckedHead ∨
    after.ledgerTransactionID ≠ before.ledgerTransactionID
deriving Decidable

/-- The loop of the reorg case (escrow_durable.go:889-909): `first` is the
transition at `firstChanged`. -/
def reorgDelta : Option EscrowTransition → List EscrowTransition → List EscrowTransition →
    Except Err (Option EscrowTransition)
  | first, before :: bs, after :: as =>
    if before = after then
      if first.any (fun f => f.state = .confirmed) then
        .error (.message "escrow reorg left a dependent transition live")
      else reorgDelta first bs as
    else if first.any (fun f => f.state = .reverted) then
      .error (.message "reorged reverted transition altered an independent suffix")
    else if reorgAltered before after then
      .error (.message "escrow reorg event altered immutable transition history")
    else reorgDelta (first.or (some before)) bs as
  | first, _, _ => .ok first

/-- The case of a reorged event (escrow_durable.go:883-919). -/
def evolveReorg (trusted : Option Checkpoint) (eventAt : Time) (current : EscrowCall)
    (payload : EscrowPayload) : Except Err Unit :=
  match payload.status with
  | none => .error (.message "escrow reorg event shape is invalid")
  | some status =>
    if payload.call.pending ≠ none ∨ payload.evidence ≠ [] ∨ payload.reorg = [] ∨
        payload.call.transitions.length ≠ current.transitions.length then
      .error (.message "escrow reorg event shape is invalid")
    else
      (reorgDelta none current.transitions payload.call.transitions).bind fun
        | none => .error (.message "escrow reorg event has no transition delta")
        | some first =>
          match validateCanonicalBlockQuorum cfg trusted first.blockTarget payload.reorg true with
          | .error _ => .error (.message "escrow reorg snapshot does not match quorum evidence")
          | .ok _ =>
            if payload.call.state ≠ .quarantined ∨ status.state ≠ .recovering ∨
                status.stateChangedAt ≠ eventAt then
              .error (.message "escrow reorg did not quarantine call and chain state")
            else .ok ()

/-- `validateEscrowEventEvolution` (escrow_durable.go:816). -/
def validateEscrowEventEvolution (trusted : Option Checkpoint) (kind : EscrowEventKind)
    (eventAt : Time) (current : Option EscrowCall) (payload : EscrowPayload) : Except Err Unit :=
  match kind, current with
  | .intent, some _ => .error (.message "escrow intent event contains transition evidence")
  | .intent, none =>
    if payload.evidence ≠ [] ∨ payload.reorg ≠ [] ∨ payload.ledgers ≠ [] ∨
        payload.status.isSome then
      .error (.message "escrow intent event contains transition evidence")
    else .ok ()
  | .pending, none => .error (.message "escrow pending event shape is invalid")
  | .pending, some current =>
    if current.pending ≠ none ∨ payload.call.pending = none ∨ payload.evidence ≠ [] ∨
        payload.reorg ≠ [] ∨ payload.ledgers ≠ [] ∨ payload.status.isSome then
      .error (.message "escrow pending event shape is invalid")
    else if { payload.call with pending := none } ≠ current then
      .error (.message "escrow pending event changed state beyond one candidate")
    else .ok ()
  | .resolved, none => .error (.message "escrow resolved event identity is invalid")
  | .resolved, some current =>
    if payload.status.isSome then
      .error (.message "escrow resolved event identity is invalid")
    else
      -- The kind carries receipts and finality checks; the stored call decides which.
      match current.pending with
      | some pending => evolveReceipt P cfg trusted eventAt current pending payload
      | none => evolveFinality cfg trusted eventAt current payload
  | .reorged, none => .error (.message "escrow reorg event shape is invalid")
  | .reorged, some current => evolveReorg cfg trusted eventAt current payload

/-! ## Apply -/

/-- The call is of the configured deployment (engine.go:815, escrow_durable.go:151). -/
def deploymentMatches (i : EscrowIntent) : Bool :=
  cfg.escrowContract ≠ "" && i.contract = cfg.escrowContract && i.asset = cfg.escrowAsset &&
    i.releaseWindow = cfg.escrowReleaseWindow

/-- The index checks on one transaction hash (engine.go:829-844). -/
def State.checkHash (s : State) (callID label hash : String) : Except Err Unit :=
  if (s.escrowByHash.lookup hash).any (fun other => other ≠ callID) then
    .error (.message (label ++ "escrow transaction hash is already bound to another call"))
  else if (s.executionByHash.lookup hash).isSome then
    .error (.message (label ++ "escrow transaction hash is already bound to a direct execution"))
  else .ok ()

/-- The identity checks of an escrow event (engine.go:818-825). -/
def State.checkEscrowIdentity (s : State) (eventAt : Time) (kind : EscrowEventKind)
    (call : EscrowCall) : Except Err Unit :=
  match kind, s.escrowCalls.lookup call.intent.callID with
  | .intent, current =>
    if current ≠ none ∨ call.registeredAt ≠ eventAt ∨ call.pending ≠ none ∨
        call.transitions ≠ [] then
      .error (.message "escrow intent event does not create exactly one new call")
    else .ok ()
  | _, none => .error (.message "escrow event changed immutable call identity")
  | _, some current =>
    if current.intent ≠ call.intent ∨ current.registeredAt ≠ call.registeredAt then
      .error (.message "escrow event changed immutable call identity")
    else .ok ()

/-- The transaction hashes of a call, in the order `apply` visits them. -/
def EscrowCall.hashes (c : EscrowCall) : List String :=
  c.transitions.map (·.expected.transactionHash) ++
    (c.pending.map (·.expected.transactionHash)).toList

/-- The checks of an escrow event, in the source's order (engine.go:811-853). -/
def State.checkEscrow (s : State) (eventAt : Time) (key : String) (kind : EscrowEventKind)
    (payload : EscrowPayload) : Except Err Unit :=
  let call := payload.call
  let callID := call.intent.callID
  if key ≠ callID then .error (.message "escrow event key does not match call identity")
  else if deploymentMatches cfg call.intent = false then
    .error (.escrowDeployment "journal call does not match the configured reviewed tuple")
  else
    (s.checkEscrowIdentity eventAt kind call).bind fun () =>
    if (s.escrowByAuth.lookup call.intent.authorizationID).any (fun o => o ≠ callID) then
      .error (.message "escrow authorization is already bound to another call")
    else
      (foldCheck (fun () t => s.checkHash callID "" t.expected.transactionHash) ()
        call.transitions).bind fun () =>
      (checkSome (fun p => s.checkHash callID "pending " p.expected.transactionHash)
        call.pending).bind fun () =>
      ((call.validateSnapshot P.toCrypto cfg.chainID).mapError (.wrapped "escrow snapshot")).bind
        fun () =>
      ((validateEscrowEventEvolution P cfg s.status.lastTrusted kind eventAt
        (s.escrowCalls.lookup callID) payload).mapError (.wrapped "escrow event evolution")).bind
        fun () =>
      (validateEscrowLedgerBindings P call payload.ledgers s.ledger eventAt).mapError
        (.wrapped "escrow ledger bindings")

/-- Store a call and index it (engine.go:854-861). -/
def State.storeCall (s : State) (call : EscrowCall) : State :=
  { s with
    escrowCalls := s.escrowCalls.insert call.intent.callID call
    escrowByAuth := s.escrowByAuth.insert call.intent.authorizationID call.intent.callID
    escrowByHash := call.hashes.foldl (fun m h => m.insert h call.intent.callID) s.escrowByHash }

/-- The updates of an escrow event (engine.go:854-868). -/
def State.storeEscrow (s : State) (payload : EscrowPayload) : State :=
  let s := payload.ledgers.foldl applyLedger (s.storeCall payload.call)
  payload.status.elim s fun status => s.replaceStatus cfg status ""

/-- The case of a chain status event (engine.go:754-763). -/
def State.applyChain (s : State) (payload : ChainPayload) : State :=
  let s := s.replaceStatus cfg payload.status payload.operator
  if s.status.state = .halted ∨ payload.markBroadcastsPending then s.markBroadcastsPending
  else s

/-- The normalisation and check at the end of `apply` (engine.go:882-887). -/
def State.checkChainID (s : State) : Except Err State :=
  if s.status.chainID = 0 then .ok { s with status := { s.status with chainID := cfg.chainID } }
  else if s.status.chainID ≠ cfg.chainID then
    .error (.message ("reconciliation chain status " ++ toString s.status.chainID ++
      " does not match configured chain " ++ toString cfg.chainID))
  else .ok s

/-- The switch of `apply`. -/
def State.applyBody (s : State) (event : JournalEvent) : Except Err State :=
  match event.body with
  | .chainStatus payload => .ok (s.applyChain cfg payload)
  | .executionBroadcast payload => s.applyBroadcast P.toCrypto event.key false payload.execution
  | .executionQuarantine payload => s.applyBroadcast P.toCrypto event.key true payload.execution
  | .executionResolved payload => s.applyResolved P.toCrypto cfg payload
  | .executionReorged payload => s.applyResolved P.toCrypto cfg payload
  | .escrow kind payload =>
    (s.checkEscrow P cfg event.eventAt event.key kind payload).bind fun () =>
      .ok (s.storeEscrow cfg payload)
  | .ledgerPosted t => .ok (s.applyLedger t)

/-- `apply` (engine.go:752). -/
def State.apply (s : State) (event : JournalEvent) : Except Err State :=
  (s.applyBody P cfg event).bind (checkChainID cfg)

end

/-! ## Components of the state after `apply` -/

section

variable {P : Primitives} {cfg : Config} {s s' : State}

/-- A loop of `applyLedger` leaves alone what `applyLedger` leaves alone. -/
lemma foldl_applyLedger_frame {α : Type} (ts : List LedgerTransaction) (f : State → α)
    (hf : ∀ s x, f (State.applyLedger s x) = f s) : f (ts.foldl State.applyLedger s) = f s := by
  induction ts generalizing s with
  | nil => rfl
  | cons x ts ih => exact (ih (s := s.applyLedger x)).trans (hf s x)

lemma elim_replaceStatus_frame {α : Type} (status : Option ChainStatus) (f : State → α)
    (hf : ∀ s st, f (State.replaceStatus cfg s st "") = f s) :
    f (status.elim s fun st => s.replaceStatus cfg st "") = f s := by
  cases status with
  | none => rfl
  | some st => exact hf s st

lemma storeEscrow_frame {α : Type} (p : EscrowPayload) (f : State → α)
    (hstatus : ∀ s st, f (State.replaceStatus cfg s st "") = f s)
    (hledger : ∀ s x, f (State.applyLedger s x) = f s) :
    f (s.storeEscrow cfg p) = f (s.storeCall p.call) :=
  (elim_replaceStatus_frame p.status f hstatus).trans (foldl_applyLedger_frame p.ledgers f hledger)

@[simp] lemma storeEscrow_executions (p : EscrowPayload) :
    (s.storeEscrow cfg p).executions = s.executions :=
  storeEscrow_frame p (·.executions) (fun _ _ => rfl) fun _ _ => rfl

@[simp] lemma storeEscrow_executionByHash (p : EscrowPayload) :
    (s.storeEscrow cfg p).executionByHash = s.executionByHash :=
  storeEscrow_frame p (·.executionByHash) (fun _ _ => rfl) fun _ _ => rfl

@[simp] lemma storeEscrow_escrowCalls (p : EscrowPayload) :
    (s.storeEscrow cfg p).escrowCalls = s.escrowCalls.insert p.call.intent.callID p.call :=
  storeEscrow_frame p (·.escrowCalls) (fun _ _ => rfl) fun _ _ => rfl

@[simp] lemma storeEscrow_escrowByAuth (p : EscrowPayload) : (s.storeEscrow cfg p).escrowByAuth =
      s.escrowByAuth.insert p.call.intent.authorizationID p.call.intent.callID :=
  storeEscrow_frame p (·.escrowByAuth) (fun _ _ => rfl) fun _ _ => rfl

@[simp] lemma storeEscrow_escrowByHash (p : EscrowPayload) : (s.storeEscrow cfg p).escrowByHash =
      p.call.hashes.foldl (fun m h => m.insert h p.call.intent.callID) s.escrowByHash :=
  storeEscrow_frame p (·.escrowByHash) (fun _ _ => rfl) fun _ _ => rfl

/-- The status with the configured chain id. -/
def State.withChain (cfg : Config) (s : State) : State :=
  { s with status := { s.status with chainID := cfg.chainID } }

lemma checkChainID_ok_iff : s.checkChainID cfg = .ok s' ↔
    (s.status.chainID = 0 ∨ s.status.chainID = cfg.chainID) ∧ s' = s.withChain cfg := by
  unfold State.checkChainID
  by_cases h₀ : s.status.chainID = 0
  · rw [if_pos h₀]
    simp [h₀, State.withChain, eq_comm]
  · rw [if_neg h₀]
    by_cases h₁ : s.status.chainID = cfg.chainID
    · have hs : s.withChain cfg = s := by unfold State.withChain; rw [← h₁]
      rw [if_neg (not_not.mpr h₁), hs]
      simp [h₁, eq_comm]
    · simp [h₀, h₁]

/-- `apply` is its switch followed by the normalisation of the chain id. -/
lemma apply_ok_iff {ev : JournalEvent} : s.apply P cfg ev = .ok s' ↔
    ∃ s₁, s.applyBody P cfg ev = .ok s₁ ∧
      (s₁.status.chainID = 0 ∨ s₁.status.chainID = cfg.chainID) ∧ s' = s₁.withChain cfg := by
  unfold State.apply
  rw [bind_eq_ok]
  simp only [checkChainID_ok_iff]

end

/-! ## What the checks of an escrow event say -/

section

variable {P : Primitives} {cfg : Config} {s : State} {eventAt : Time} {key : String}
  {kind : EscrowEventKind} {p : EscrowPayload}

lemma checkHash_ok_iff {callID label hash : String} : s.checkHash callID label hash = .ok () ↔
      (∀ other, s.escrowByHash.lookup hash = some other → other = callID) ∧
        s.executionByHash.lookup hash = none := by
  simp only [State.checkHash, guard_ok, and_true]
  refine and_congr ?_ (by simp)
  cases s.escrowByHash.lookup hash <;> simp

lemma EscrowCall.forall_hashes {c : EscrowCall} {Q : String → Prop} :
    (∀ h ∈ c.hashes, Q h) ↔ (∀ t ∈ c.transitions, Q t.expected.transactionHash) ∧
      ∀ q, c.pending = some q → Q q.expected.transactionHash := by
  unfold hashes
  cases c.pending <;> simp [or_imp, forall_and]

/-- The checks of an escrow event, one by one. -/
structure EscrowChecked (P : Primitives) (cfg : Config) (s : State) (eventAt : Time) (key : String)
    (kind : EscrowEventKind) (p : EscrowPayload) : Prop where
  key : key = p.call.intent.callID
  deployed : deploymentMatches cfg p.call.intent
  identity : s.checkEscrowIdentity eventAt kind p.call = .ok ()
  authorized : ∀ other, s.escrowByAuth.lookup p.call.intent.authorizationID = some other →
    other = p.call.intent.callID
  hashes : ∀ h ∈ p.call.hashes, (∀ other, s.escrowByHash.lookup h = some other →
    other = p.call.intent.callID) ∧ s.executionByHash.lookup h = none
  snapshot : p.call.validateSnapshot P.toCrypto cfg.chainID = .ok ()
  evolution : validateEscrowEventEvolution P cfg s.status.lastTrusted kind eventAt
    (s.escrowCalls.lookup p.call.intent.callID) p = .ok ()
  bindings : validateEscrowLedgerBindings P p.call p.ledgers s.ledger eventAt = .ok ()

lemma checkEscrow_ok_iff :
    s.checkEscrow P cfg eventAt key kind p = .ok () ↔ EscrowChecked P cfg s eventAt key kind p := by
  have hauth : ¬(s.escrowByAuth.lookup p.call.intent.authorizationID).any
      (fun o => decide (o ≠ p.call.intent.callID)) ↔
      ∀ other, s.escrowByAuth.lookup p.call.intent.authorizationID = some other →
        other = p.call.intent.callID := by
    cases s.escrowByAuth.lookup p.call.intent.authorizationID <;> simp
  simp only [State.checkEscrow, guard_ok, bind_unit_eq_ok, mapError_eq_ok, foldCheck_unit_ok,
    checkSome_eq_ok, checkHash_ok_iff, hauth, not_not, Bool.not_eq_false]
  constructor
  · rintro ⟨h₁, h₂, h₃, h₄, h₅, h₆, h₇, h₈, h₉⟩
    exact ⟨h₁, h₂, h₃, h₄, EscrowCall.forall_hashes.mpr ⟨h₅, h₆⟩, h₇, h₈, h₉⟩
  · rintro ⟨h₁, h₂, h₃, h₄, h₅, h₇, h₈, h₉⟩
    obtain ⟨hts, hp⟩ := EscrowCall.forall_hashes.mp h₅
    exact ⟨h₁, h₂, h₃, h₄, hts, hp, h₇, h₈, h₉⟩

end

end FlowOps.Reconciliation

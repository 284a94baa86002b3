import FlowOps.Reconciliation.Steps

/-!
# What an event changes

`apply` seen one component of the state at a time. An event carries at most one
execution or one call, some ledger transactions and at most one status; every map
of the state is left alone, updated by that record, or has its broadcasts marked
pending.

Results:
* `apply_changes`: the components after `apply`, and the checks it made.
* `Changes.execution_rule`, `Changes.call_rule`: a property of all stored records is
  kept if the new record has it and marking keeps it.
-/

namespace FlowOps.Reconciliation

/-! ## The contents of an event -/

namespace EventBody

def execution : EventBody → Option Execution
  | .executionBroadcast p => some p.execution
  | .executionResolved p => some p.execution
  | .executionReorged p => some p.execution
  | .executionQuarantine p => some p.execution
  | _ => none

/-- The identity whose transaction hash an event binds. -/
def binding : EventBody → Option ExpectedExecution
  | .executionBroadcast p => some p.execution.expected
  | .executionQuarantine p => some p.execution.expected
  | _ => none

def call : EventBody → Option EscrowCall
  | .escrow _ p => some p.call
  | _ => none

/-- The ledger transactions an event carries. -/
def ledgers : EventBody → List LedgerTransaction
  | .executionResolved p => p.ledger.toList
  | .executionReorged p => p.ledger.toList
  | .ledgerPosted t => [t]
  | .escrow _ p => p.ledgers
  | _ => []

def operator : EventBody → String
  | .chainStatus p => p.operator
  | _ => ""

/-- The event marks broadcasts pending. -/
def marks : EventBody → Bool
  | .chainStatus p => p.status.state = .halted || p.markBroadcastsPending
  | _ => false

def updateExecutions (b : EventBody) (m : Dict String Execution) : Dict String Execution :=
  b.execution.elim (if b.marks then m.mapValues Execution.markPending else m) fun e =>
    m.insert e.expected.executionID (e.carryFrom (m.lookup e.expected.executionID))

def updateCalls (b : EventBody) (m : Dict String EscrowCall) : Dict String EscrowCall :=
  b.call.elim (if b.marks then m.mapValues EscrowCall.markPending else m) fun c =>
    m.insert c.intent.callID c

end EventBody

/-- The status part of `trackManualRelease`. -/
def ChainStatus.tracked (cfg : Config) (status : ChainStatus) : ChainStatus :=
  { status with
    requiredObserverQuorum :=
      if status.requiredObserverQuorum = 0 then cfg.observerQuorum
      else status.requiredObserverQuorum
    lastObservationAt :=
      if status.lastObservationAt.isZero then
        (status.lastTrusted.map (·.observedAt)).getD status.lastObservationAt
      else status.lastObservationAt }

/-! ## The components after `apply` -/

/-- What `apply` does with an event it accepts. -/
structure Changes (P : Primitives) (cfg : Config) (s : State) (ev : JournalEvent) (s' : State) :
    Prop where
  executions : s'.executions = ev.body.updateExecutions s.executions
  executionByHash : s'.executionByHash = ev.body.binding.elim s.executionByHash fun x =>
    s.executionByHash.insert x.transactionHash x.executionID
  escrowCalls : s'.escrowCalls = ev.body.updateCalls s.escrowCalls
  escrowByAuth : s'.escrowByAuth = ev.body.call.elim s.escrowByAuth fun c =>
    s.escrowByAuth.insert c.intent.authorizationID c.intent.callID
  escrowByHash : s'.escrowByHash = ev.body.call.elim s.escrowByHash fun c =>
    c.hashes.foldl (fun m h => m.insert h c.intent.callID) s.escrowByHash
  ledger : s'.ledger = Ledger.addAll s.ledger ev.body.ledgers
  balances : s'.balances = ev.body.ledgers.foldl applyPostings s.balances
  status : ∃ a, s'.status =
    { ev.body.status.elim s.status (ChainStatus.tracked cfg) with
      chainID := cfg.chainID, affectedExecutions := a }
  operator : s'.lastResumeOperator = ev.body.status.elim s.lastResumeOperator fun status =>
    if status.state ≠ .healthy then ""
    else if ev.body.operator ≠ "" then ev.body.operator
    else s.lastResumeOperator
  proven : ∀ e, ev.body.execution = some e →
    (e.carryFrom (s.executions.lookup e.expected.executionID)).Proven P.toCrypto
  separate : ∀ x, ev.body.binding = some x → s.escrowByHash.lookup x.transactionHash = none
  checked : ∀ kind p, ev.body = .escrow kind p →
    s.checkEscrow P cfg ev.eventAt ev.key kind p = .ok ()

section

variable {P : Primitives} {cfg : Config} {s s' s₁ : State} {ev : JournalEvent} {e : Execution}
  {q : Bool} {p : ExecutionPayload} {b : EventBody}

@[simp] lemma Execution.carryFrom_expected (next : Execution) (c : Option Execution) :
    (next.carryFrom c).expected = next.expected := by
  cases c <;> rfl

@[simp] lemma Execution.carryFrom_state (next : Execution) (c : Option Execution) :
    (next.carryFrom c).state = next.state := by
  cases c <;> rfl

lemma preserveBroadcastAttestation_ok {next : Execution}
    (h : s.preserveBroadcastAttestation P.toCrypto next = .ok e) :
    e = next.carryFrom (s.executions.lookup next.expected.executionID) ∧ e.Proven P.toCrypto := by
  simp only [State.preserveBroadcastAttestation, bind_unit_eq_ok, Except.ok.injEq] at h
  obtain ⟨hproofs, rfl⟩ := h
  exact ⟨rfl, Execution.validateProofs_ok_iff.mp hproofs⟩

lemma foldl_applyLedger_ledger (ts : List LedgerTransaction) (s : State) :
    (ts.foldl State.applyLedger s).ledger = Ledger.addAll s.ledger ts ∧
      (ts.foldl State.applyLedger s).balances = ts.foldl applyPostings s.balances := by
  induction ts generalizing s with
  | nil => exact ⟨rfl, rfl⟩
  | cons t ts ih => exact ih (s.applyLedger t)

lemma applyBroadcast_ok {key : String} (h : s.applyBroadcast P.toCrypto key q e = .ok s₁) :
    let e' := e.carryFrom (s.executions.lookup e.expected.executionID)
    e'.Proven P.toCrypto ∧ s.escrowByHash.lookup e.expected.transactionHash = none ∧
      s₁ = { s with
        executions := s.executions.insert e.expected.executionID e'
        executionByHash := s.executionByHash.insert e.expected.transactionHash
          e.expected.executionID } := by
  simp only [State.applyBroadcast, bind_eq_ok, guard_ok, Except.ok.injEq] at h
  obtain ⟨e', hp, -, -, -, -, hsep, rfl⟩ := h
  obtain ⟨rfl, hproven⟩ := preserveBroadcastAttestation_ok hp
  rw [Execution.carryFrom_expected] at hsep
  simp only [Execution.carryFrom_expected]
  exact ⟨hproven, by simpa using hsep, trivial⟩

lemma applyResolved_ok (h : s.applyResolved P.toCrypto cfg p = .ok s₁) :
    let e' := p.execution.carryFrom (s.executions.lookup p.execution.expected.executionID)
    let t := p.ledger.toList.foldl State.applyLedger
      { s with executions := s.executions.insert p.execution.expected.executionID e' }
    e'.Proven P.toCrypto ∧ s₁ = p.status.elim t fun status => t.replaceStatus cfg status "" := by
  simp only [State.applyResolved, bind_eq_ok, Except.ok.injEq] at h
  obtain ⟨e', hp, rfl⟩ := h
  obtain ⟨rfl, hproven⟩ := preserveBroadcastAttestation_ok hp
  simp only [Execution.carryFrom_expected]
  exact ⟨hproven, by cases p.ledger <;> rfl⟩

lemma changes_of_broadcast {key : String}
    (hbody : ev.body = .executionBroadcast p ∨ ev.body = .executionQuarantine p)
    (h : s.applyBroadcast P.toCrypto key q p.execution = .ok s₁) :
    Changes P cfg s ev (s₁.withChain cfg) := by
  obtain ⟨hproven, hsep, rfl⟩ := applyBroadcast_ok h
  obtain ⟨_, _, _, _, _, _, _⟩ := ev
  rcases hbody with hb | hb <;> cases hb <;>
    exact ⟨rfl, rfl, rfl, rfl, rfl, rfl, rfl, ⟨s.status.affectedExecutions, rfl⟩, rfl,
      by rintro e ⟨⟩; exact hproven, by rintro x ⟨⟩; exact hsep, by rintro _ _ ⟨⟩⟩

lemma changes_of_resolved (hbody : ev.body = .executionResolved p ∨ ev.body = .executionReorged p)
    (h : s.applyResolved P.toCrypto cfg p = .ok s₁) : Changes P cfg s ev (s₁.withChain cfg) := by
  obtain ⟨hproven, rfl⟩ := applyResolved_ok h
  obtain ⟨_, _, _, _, _, _, _⟩ := ev
  obtain ⟨_, _, ledger, _, status⟩ := p
  rcases hbody with hb | hb <;> cases hb <;> cases ledger <;> cases status <;>
    exact ⟨rfl, rfl, rfl, rfl, rfl, rfl, rfl, ⟨_, rfl⟩, rfl, by rintro e ⟨⟩; exact hproven,
      by rintro x ⟨⟩, by rintro _ _ ⟨⟩⟩

lemma changes_of_chain {p : ChainPayload} (hb : ev.body = .chainStatus p) :
    Changes P cfg s ev ((s.applyChain cfg p).withChain cfg) := by
  have hmark : s.applyChain cfg p = if ev.body.marks then
      (s.replaceStatus cfg p.status p.operator).markBroadcastsPending
      else s.replaceStatus cfg p.status p.operator := by
    rw [hb]
    by_cases h₁ : p.status.state = .halted <;> by_cases h₂ : p.markBroadcastsPending <;>
      simp [State.applyChain, EventBody.marks, State.replaceStatus, State.trackManualRelease,
        h₁, h₂]
  rw [hmark]
  cases hm : ev.body.marks <;>
    exact
      { executions := by simp [EventBody.updateExecutions, hm]; rw [hb]; rfl
        executionByHash := by rw [hb]; rfl
        escrowCalls := by simp [EventBody.updateCalls, hm]; rw [hb]; rfl
        escrowByAuth := by rw [hb]; rfl
        escrowByHash := by rw [hb]; rfl
        ledger := by rw [hb]; rfl
        balances := by rw [hb]; rfl
        status := by rw [hb]; exact ⟨_, rfl⟩
        operator := by rw [hb]; rfl
        proven := by rw [hb]; rintro e ⟨⟩
        separate := by rw [hb]; rintro x ⟨⟩
        checked := by rw [hb]; rintro _ _ ⟨⟩ }

lemma changes_of_escrow {kind : EscrowEventKind} {p : EscrowPayload}
    (hb : ev.body = .escrow kind p) (h : s.checkEscrow P cfg ev.eventAt ev.key kind p = .ok ()) :
    Changes P cfg s ev ((s.storeEscrow cfg p).withChain cfg) where
  executions := (storeEscrow_executions p).trans (by rw [hb]; rfl)
  executionByHash := (storeEscrow_executionByHash p).trans (by rw [hb]; rfl)
  escrowCalls := (storeEscrow_escrowCalls p).trans (by rw [hb]; rfl)
  escrowByAuth := (storeEscrow_escrowByAuth p).trans (by rw [hb]; rfl)
  escrowByHash := (storeEscrow_escrowByHash p).trans (by rw [hb]; rfl)
  ledger := by
    rw [hb]
    exact (elim_replaceStatus_frame p.status (fun s => s.ledger) (fun _ _ => rfl)).trans
      (foldl_applyLedger_ledger p.ledgers _).1
  balances := by
    rw [hb]
    exact (elim_replaceStatus_frame p.status (fun s => s.balances) (fun _ _ => rfl)).trans
      (foldl_applyLedger_ledger p.ledgers _).2
  status := by
    have hframe := foldl_applyLedger_frame (s := s.storeCall p.call) p.ledgers (fun s => s.status)
      fun _ _ => rfl
    rw [hb]
    simp only [EventBody.status, State.storeEscrow]
    cases p.status with
    | none =>
      refine ⟨s.status.affectedExecutions, ?_⟩
      show { (p.ledgers.foldl State.applyLedger (s.storeCall p.call)).status with
        chainID := cfg.chainID } = _
      rw [hframe]
      rfl
    | some st => exact ⟨_, rfl⟩
  operator := by
    have hframe := foldl_applyLedger_frame (s := s.storeCall p.call) p.ledgers
      (fun s => s.lastResumeOperator) fun _ _ => rfl
    rw [hb]
    simp only [EventBody.status, State.storeEscrow]
    cases p.status with
    | none => exact hframe
    | some st =>
      show (if st.state ≠ .healthy then "" else
        (p.ledgers.foldl State.applyLedger (s.storeCall p.call)).lastResumeOperator) = _
      rw [hframe]
      rfl
  proven := by rw [hb]; rintro e ⟨⟩
  separate := by rw [hb]; rintro x ⟨⟩
  checked := by rw [hb]; rintro _ _ ⟨⟩; exact h

lemma apply_changes (h : s.apply P cfg ev = .ok s') : Changes P cfg s ev s' := by
  obtain ⟨s₁, hbody, -, rfl⟩ := apply_ok_iff.mp h
  unfold State.applyBody at hbody
  cases hb : ev.body with
  | chainStatus p =>
    rw [hb] at hbody
    cases hbody
    exact changes_of_chain hb
  | executionBroadcast p => rw [hb] at hbody; exact changes_of_broadcast (.inl hb) hbody
  | executionQuarantine p => rw [hb] at hbody; exact changes_of_broadcast (.inr hb) hbody
  | executionResolved p => rw [hb] at hbody; exact changes_of_resolved (.inl hb) hbody
  | executionReorged p => rw [hb] at hbody; exact changes_of_resolved (.inr hb) hbody
  | escrow kind p =>
    rw [hb] at hbody
    obtain ⟨hc, hs⟩ := bind_unit_eq_ok.mp hbody
    cases hs
    exact changes_of_escrow hb hc
  | ledgerPosted t =>
    rw [hb] at hbody
    cases hbody
    obtain ⟨_, _, _, _, _, _, _⟩ := ev
    cases hb
    exact ⟨rfl, rfl, rfl, rfl, rfl, rfl, rfl, ⟨s.status.affectedExecutions, rfl⟩, rfl,
      by rintro e ⟨⟩, by rintro x ⟨⟩, by rintro _ _ ⟨⟩⟩

/-! ## Rules for the stored records -/

lemma EventBody.marks_of_execution (h : b.execution = some e) : b.marks = false := by
  cases b <;> first | rfl | cases h

lemma EventBody.marks_of_call {c : EscrowCall} (h : b.call = some c) : b.marks = false := by
  cases b <;> first | rfl | cases h

/-- An entry after an update is the event's, or was there before and may have been marked. -/
lemma lookup_update_cases {ν : Type} {m : Dict String ν} {x : Option ν} {key : ν → String}
    {store mark : ν → ν} {marks : Bool} {id : String} {v' : ν}
    (hmarks : ∀ y, x = some y → marks = false)
    (hl : (x.elim (if marks then m.mapValues mark else m)
      fun y => m.insert (key y) (store y)).lookup id = some v') :
    (∃ y, x = some y ∧ key y = id ∧ v' = store y) ∨
      ∃ v, m.lookup id = some v ∧ (∀ y, x = some y → key y ≠ id) ∧
        v' = if marks then mark v else v := by
  cases x with
  | some y =>
    rcases Dict.lookup_insert_eq_some.mp hl with ⟨rfl, rfl⟩ | ⟨hne, hold⟩
    · exact .inl ⟨y, rfl, rfl, rfl⟩
    · refine .inr ⟨v', hold, ?_, by rw [hmarks y rfl]; rfl⟩
      rintro z ⟨⟩
      exact hne.symm
  | none =>
    refine .inr ?_
    cases marks with
    | true =>
      simp only [Option.elim_none, if_true, Dict.lookup_mapValues, Option.map_eq_some_iff] at hl
      obtain ⟨v, hv, rfl⟩ := hl
      exact ⟨v, hv, by rintro y ⟨⟩, rfl⟩
    | false => exact ⟨v', hl, by rintro y ⟨⟩, rfl⟩

lemma Changes.execution_cases (h : Changes P cfg s ev s') {id : String} {e' : Execution}
    (hl : s'.executions.lookup id = some e') :
    (∃ e, ev.body.execution = some e ∧ e.expected.executionID = id ∧
        e' = e.carryFrom (s.executions.lookup id)) ∨
      ∃ e, s.executions.lookup id = some e ∧
        (∀ x, ev.body.execution = some x → x.expected.executionID ≠ id) ∧
        e' = if ev.body.marks then e.markPending else e := by
  rw [h.executions, EventBody.updateExecutions] at hl
  rcases lookup_update_cases (fun _ => EventBody.marks_of_execution) hl with
    ⟨e, he, rfl, rfl⟩ | hold
  · exact .inl ⟨e, he, rfl, rfl⟩
  · exact .inr hold

lemma Changes.call_cases (h : Changes P cfg s ev s') {id : String} {c' : EscrowCall}
    (hl : s'.escrowCalls.lookup id = some c') :
    (ev.body.call = some c' ∧ c'.intent.callID = id) ∨ ∃ c, s.escrowCalls.lookup id = some c ∧
        (∀ x, ev.body.call = some x → x.intent.callID ≠ id) ∧
        c' = if ev.body.marks then c.markPending else c := by
  rw [h.escrowCalls, EventBody.updateCalls] at hl
  rcases lookup_update_cases (fun _ => EventBody.marks_of_call) hl with ⟨c, hc, rfl, rfl⟩ | hold
  · exact .inl ⟨hc, rfl⟩
  · exact .inr hold

/-- A property of the stored executions is kept if the event's execution has it
and marking keeps it. -/
lemma Changes.execution_rule (h : Changes P cfg s ev s') {Q : String → Execution → Prop}
    (hold : ∀ id e, s.executions.lookup id = some e → Q id e)
    (hmark : ∀ id e, Q id e → Q id e.markPending)
    (hnew : ∀ e, ev.body.execution = some e → Q e.expected.executionID
      (e.carryFrom (s.executions.lookup e.expected.executionID))) :
    ∀ id e, s'.executions.lookup id = some e → Q id e := by
  intro id e' hl
  rcases h.execution_cases hl with ⟨e, he, rfl, rfl⟩ | ⟨e, he, -, rfl⟩
  · exact hnew e he
  · split_ifs
    · exact hmark id e (hold id e he)
    · exact hold id e he

lemma Changes.call_rule (h : Changes P cfg s ev s') {Q : String → EscrowCall → Prop}
    (hold : ∀ id c, s.escrowCalls.lookup id = some c → Q id c)
    (hmark : ∀ id c, Q id c → Q id c.markPending)
    (hnew : ∀ c, ev.body.call = some c → Q c.intent.callID c) :
    ∀ id c, s'.escrowCalls.lookup id = some c → Q id c := by
  intro id c' hl
  rcases h.call_cases hl with ⟨hc, rfl⟩ | ⟨c, hc, -, rfl⟩
  · exact hnew c' hc
  · split_ifs
    · exact hmark id c (hold id c hc)
    · exact hold id c hc

end

end FlowOps.Reconciliation

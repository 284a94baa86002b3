import FlowOps.Reconciliation.Effects
import FlowOps.Reconciliation.Snapshot
import FlowOps.Reconciliation.Bindings

/-!
# The invariant of the stored records

`State.WF`: every stored execution is keyed by its id, identified and proven; every
stored call is sound and bound to the ledger; the hash and authorization indexes
point back to the records, and no transaction hash belongs to both an execution and
a call; every ledger entry is valid.

Results:
* `Writes.keeps`: an operation writes a new execution or a later version of a stored
  one.
* `State.WF.step`, `State.WF.restart`: every event keeps the invariant.
* `reachable_wf`: it holds in every reachable state.
-/

namespace FlowOps.Reconciliation

open Option AList Dict

variable {e : Execution} {x : ExpectedExecution} {next : Execution}

/-! ## Later versions of an execution -/

/-- `next` is a version of `e` that carries at least its proofs. -/
structure Execution.Keeps (next e : Execution) : Prop where
  expected : next.expected = e.expected
  broadcastAt : next.broadcastAt = e.broadcastAt
  attestation : next.broadcastAttestation = e.broadcastAttestation
  claim : next.x402SettlementClaim = e.x402SettlementClaim
  recovery : next.transactionRecovery = e.transactionRecovery ∨ next.transactionRecovery ≠ none
  hash : next.resolvedTransactionHash = e.resolvedTransactionHash ∨ next.resolvedTransactionHash ≠ ""
  actor : next.recoveryResolutionActor = e.recoveryResolutionActor ∨
    next.recoveryResolutionActor ≠ ""

lemma Execution.Keeps.carryFrom (h : next.Keeps e) :
    next.carryFrom (some e) = next := by
  have hor : ∀ {α : Type} (a b : Option α), a = b ∨ a ≠ none → a.or b = a := by
    rintro α (_ | a) b (rfl | hne)
    · rfl
    · exact absurd rfl hne
    · rfl
    · rfl
  have htext : ∀ a b : String, a = b ∨ a ≠ "" → (if a = "" then b else a) = a := by
    rintro a b (rfl | hne)
    · split_ifs <;> rfl
    · exact if_neg hne
  unfold Execution.carryFrom
  simp only
  rw [hor _ _ (.inl h.attestation), hor _ _ (.inl h.claim), hor _ _ h.recovery, htext _ _ h.hash,
    htext _ _ h.actor]

structure ExecutionOK (P : Crypto) (cfg : Config) (id : String) (e : Execution) : Prop where
  keyed : e.expected.executionID = id
  valid : e.expected.validate cfg.chainID = .ok ()
  proven : e.Proven P

variable {P : Primitives} {cfg : Config} {ctx : Ctx} {s : State} {op : Op} {d : Draft} {id : String}

lemma ExpectedExecution.validate_ok {chainID : ℕ}
    (h : x.validate chainID = .ok ()) : identifierPattern x.executionID ∧
      hashPattern x.transactionHash ∧ x.chainID = chainID ∧
      addressPattern x.recipient ∧ positiveInteger x.amountAtomic := by
  simp only [validate, guard_ok, Bool.not_eq_false, not_or, not_not] at h
  obtain ⟨hids, ⟨-, hhash⟩, hchain, haddr, hamount, -⟩ := h
  simp only [List.all_cons, Bool.and_eq_true] at hids haddr
  exact ⟨hids.1, hhash, hchain, haddr.2.2.1, hamount⟩

lemma ExecutionOK.hash_ne (h : ExecutionOK P.toCrypto cfg id e) :
    e.expected.transactionHash ≠ "" :=
  hashPattern_ne_empty (ExpectedExecution.validate_ok h.valid).2.1

/-- A proven replacement names a transaction hash other than the original. -/
lemma TransactionRecovery.validate_replacement {r : TransactionRecovery}
    (h : r.validate x = .ok ()) (ho : r.outcome = .expectedReplacement) :
    hashPattern r.replacementTransaction ∧ r.replacementTransaction ≠ x.transactionHash := by
  simp only [validate, guard_ok, ho, not_or, Bool.not_eq_false] at h
  obtain ⟨-, -, ⟨hmined, -⟩, -⟩ := h
  simp only [replacementMined, Bool.and_eq_true, decide_eq_true_eq] at hmined
  exact ⟨hmined.1.1.1.1, hmined.1.1.1.2⟩

lemma Writes.keeps (hok : ∀ id e, s.executions.lookup id = some e → ExecutionOK P.toCrypto cfg id e)
    (hw : Writes P cfg ctx s op d) (hb : d.body.execution = some next) :
    d.key = next.expected.executionID ∧
      ((op.registers = some next.expected ∧ d.body.binding = some next.expected ∧
          NewExecution P.toCrypto cfg s (ctx.now 0) next) ∨
        ∃ e, s.executions.lookup d.key = some e ∧ next.Keeps e) := by
  cases hw with
  | register hop new => cases hb; exact ⟨rfl, .inl ⟨hop, rfl, new⟩⟩
  | settle accepted | revert accepted =>
    cases hb
    have hold := hok _ _ accepted.stored
    exact ⟨hold.keyed.symm, .inr ⟨_, accepted.stored, rfl, rfl, rfl, rfl, .inl rfl,
      .inr hold.hash_ne, .inl rfl⟩⟩
  | replace hop accepted =>
    cases hb
    have hold := hok _ _ accepted.stored
    have hhash := (TransactionRecovery.validate_replacement
      (hold.proven.recovered _ accepted.recovered) accepted.outcome).1
    exact ⟨hold.keyed.symm, .inr ⟨_, accepted.stored, rfl, rfl, rfl, rfl, .inl rfl,
      .inr (hashPattern_ne_empty hhash), .inr (identifierPattern_ne_empty hop)⟩⟩
  | drop hop stored =>
    cases hb
    have hold := hok _ _ stored
    exact ⟨hold.keyed.symm, .inr ⟨_, stored, rfl, rfl, rfl, rfl, .inl rfl, .inr hold.hash_ne,
      .inr (identifierPattern_ne_empty hop)⟩⟩
  | quarantine stored | finality stored =>
    cases hb
    exact ⟨(hok _ _ stored).keyed.symm, .inr ⟨_, stored, rfl, rfl, rfl, rfl, .inl rfl, .inl rfl,
      .inl rfl⟩⟩
  | pendingOutcome stored =>
    cases hb
    exact ⟨(hok _ _ stored).keyed.symm, .inr ⟨_, stored, rfl, rfl, rfl, rfl, .inr (by simp),
      .inl rfl, .inl rfl⟩⟩
  | terminalOutcome stored =>
    cases hb
    exact ⟨(hok _ _ stored).keyed.symm, .inr ⟨_, stored, rfl, rfl, rfl, rfl,
      .inr (by simp [Execution.withTerminalOutcome]), .inl rfl, .inl rfl⟩⟩
  | reopenSettled accepted | reopenReverted accepted =>
    cases hb
    exact ⟨(hok _ _ accepted.stored).keyed.symm, .inr ⟨_, accepted.stored, rfl, rfl, rfl, rfl,
      .inl rfl, .inl rfl, .inl rfl⟩⟩
  | _ => cases hb

lemma Writes.carryFrom
    (hok : ∀ id e, s.executions.lookup id = some e → ExecutionOK P.toCrypto cfg id e)
    (hw : Writes P cfg ctx s op d) (hb : d.body.execution = some next) :
    next.carryFrom (s.executions.lookup next.expected.executionID) = next := by
  obtain ⟨hkey, ⟨-, -, new⟩ | ⟨e, hstored, hkeeps⟩⟩ := hw.keeps hok hb
  · rw [new.fresh]
    rfl
  · rw [← hkey, hstored]
    exact hkeeps.carryFrom

/-! ## The invariant -/

structure CallOK (P : Primitives) (cfg : Config) (m : Ledger) (id : String) (c : EscrowCall) :
    Prop where
  keyed : c.intent.callID = id
  deployed : deploymentMatches cfg c.intent
  sound : c.Sound P.toCrypto cfg.chainID
  bound : ∀ t ∈ c.transitions, t.Bound P c.intent m

structure State.WF (P : Primitives) (cfg : Config) (s : State) : Prop where
  chain : s.status.chainID = cfg.chainID
  execution : ∀ id e, s.executions.lookup id = some e → ExecutionOK P.toCrypto cfg id e
  hashed : ∀ id e, s.executions.lookup id = some e →
    s.executionByHash.lookup e.expected.transactionHash = some id
  owner : ∀ h id, s.executionByHash.lookup h = some id →
    ∃ e, s.executions.lookup id = some e ∧ e.expected.transactionHash = h
  separate : ∀ h id, s.executionByHash.lookup h = some id → s.escrowByHash.lookup h = none
  call : ∀ id c, s.escrowCalls.lookup id = some c → CallOK P cfg s.ledger id c
  authorized : ∀ id c, s.escrowCalls.lookup id = some c →
    s.escrowByAuth.lookup c.intent.authorizationID = some id
  escrowed : ∀ id c, s.escrowCalls.lookup id = some c → ∀ h ∈ c.hashes,
    s.escrowByHash.lookup h = some id
  ledger : ∀ id t, s.ledger.lookup id = some t → t.transactionID = id ∧ t.Valid

/-- What the invariant needs to know about an event before it is applied. -/
structure JournalEvent.Fits (cfg : Config) (s : State) (ev : JournalEvent) : Prop where
  execution : ∀ e, ev.body.execution = some e →
    (∃ old, s.executions.lookup e.expected.executionID = some old ∧ old.expected = e.expected) ∨
      (s.executions.lookup e.expected.executionID = none ∧
        e.expected.validate cfg.chainID = .ok () ∧ ev.body.binding = some e.expected ∧
        s.hashTaken e.expected = false)
  ledgers : ∀ t ∈ ev.body.ledgers, t.Valid ∧
    ∀ prior, s.ledger.lookup t.transactionID = some prior → prior = t

section

variable {s' : State} {ev : JournalEvent} {b : EventBody} {c : EscrowCall} {m : Ledger}
  {c' : EscrowCall} {callID : String} {pre : List EscrowTransition} {t : EscrowTransition}
  {changed : Bool} {canonical : ReorgEvidence} {now : Time}

lemma EventBody.binding_eq
    (he : b.execution = some e) (hx : b.binding = some x) : x = e.expected := by
  cases b <;> simp only [EventBody.execution, EventBody.binding, Option.some.injEq,
    reduceCtorEq] at he hx <;> rw [← hx, ← he]

lemma EventBody.execution_of_binding
    (hx : b.binding = some x) : ∃ e, b.execution = some e ∧ x = e.expected := by
  cases b <;> cases hx <;> exact ⟨_, rfl, rfl⟩

lemma EventBody.call_of_binding (hx : b.binding = some x) : b.call = none := by
  cases b <;> cases hx <;> rfl

@[simp] lemma Execution.markPending_expected (e : Execution) :
    e.markPending.expected = e.expected := by
  unfold markPending; split_ifs <;> rfl

lemma ExecutionOK.markPending {Q : Crypto}
    (h : ExecutionOK Q cfg id e) : ExecutionOK Q cfg id e.markPending := by
  unfold Execution.markPending
  split_ifs
  · exact ⟨h.keyed, h.valid, ⟨h.proven.attested, h.proven.claimed, h.proven.exclusive,
      h.proven.recovered, h.proven.hash, h.proven.actor⟩⟩
  · exact h

lemma EscrowCall.markPending_hashes (c : EscrowCall) : c.markPending.hashes = c.hashes := by
  unfold hashes markPending
  cases c.pending with
  | none => rfl
  | some p =>
    show _ ++ [(if p.state = .broadcast then _ else p : EscrowTransition).expected.transactionHash] =
      _ ++ [p.expected.transactionHash]
    split_ifs <;> rfl

lemma CallOK.markPending (h : CallOK P cfg m id c) : CallOK P cfg m id c.markPending :=
  ⟨h.keyed, h.deployed, h.sound.markPending, h.bound⟩

lemma CallOK.ledgers_distinct (h : CallOK P cfg m id c) : c.transitions.Pairwise fun u v =>
      u.ledgerTransactionID ≠ "" → u.ledgerTransactionID ≠ v.ledgerTransactionID := by
  have hconfirmed : ∀ t ∈ c.transitions, t.ledgerTransactionID ≠ "" →
      t.outcome = some .confirmed := by
    intro t ht hne
    rcases (h.sound.records t ht).outcome.2 with ho | ⟨-, he, -⟩
    · exact ho
    · exact absurd he hne
  refine ((chain_rank h.sound.follows).1.imp_of_mem fun {u v} hu hv hlt hne heq => ?_)
  have hne' : v.ledgerTransactionID ≠ "" := by rwa [← heq]
  obtain ⟨x, hx, -, hesc⟩ := (h.bound u hu).posted hne
  obtain ⟨y, hy, -, hesc'⟩ := (h.bound v hv).posted hne'
  rw [← heq, hx] at hy
  cases hy
  have := hlt (hconfirmed u hu hne) (hconfirmed v hv hne')
  rw [escrowLedger_action hesc hesc'] at this
  exact lt_irrefl _ this

lemma Changes.execution_persists (hc : Changes P cfg s ev s') (hfit : ev.Fits cfg s)
    (he : s.executions.lookup id = some e) :
    ∃ e', s'.executions.lookup id = some e' ∧ e'.expected = e.expected := by
  rw [hc.executions, EventBody.updateExecutions]
  cases hx : ev.body.execution with
  | none =>
    simp only [elim_none]
    split_ifs
    · exact ⟨e.markPending, by rw [lookup_mapValues, he]; rfl, by simp⟩
    · exact ⟨e, he, rfl⟩
  | some x =>
    simp only [elim_some, lookup_insert_ite]
    by_cases hid : id = x.expected.executionID
    · rw [if_pos hid]
      refine ⟨_, rfl, ?_⟩
      rw [Execution.carryFrom_expected]
      rcases hfit.execution x hx with ⟨old, hold, hexp⟩ | ⟨hnone, -⟩
      · rw [← hid, he] at hold
        cases hold
        exact hexp.symm
      · rw [← hid, he] at hnone
        cases hnone
    · rw [if_neg hid]
      exact ⟨e, he, rfl⟩

lemma Changes.ledger_persists (hc : Changes P cfg s ev s') (hfit : ev.Fits cfg s)
    {x : LedgerTransaction} (hx : s.ledger.lookup id = some x) : s'.ledger.lookup id = some x := by
  rw [hc.ledger]
  refine Ledger.lookup_addAll_of_agree hx fun t ht hid => ?_
  rw [← hid] at hx
  exact ((hfit.ledgers t ht).2 x hx).symm

/-- The hash of an execution that is written again or for the first time is not
bound to another one. -/
lemma State.WF.hash_free (h : s.WF P cfg) (hfit : ev.Fits cfg s) (he : ev.body.execution = some e)
    (hid : s.executionByHash.lookup e.expected.transactionHash = some id) :
    id = e.expected.executionID := by
  rcases hfit.execution e he with ⟨old, hold, hexp⟩ | ⟨-, -, -, hfree⟩
  · have := h.hashed _ _ hold
    rw [hexp, hid] at this
    exact Option.some.inj this
  · by_contra hne
    simp [State.hashTaken, hid, hne] at hfree

section

variable (hc : Changes P cfg s ev s')
include hc

lemma State.WF.hashed_changes (h : s.WF P cfg) (hfit : ev.Fits cfg s)
    {e' : Execution} (hl : s'.executions.lookup id = some e') :
    s'.executionByHash.lookup e'.expected.transactionHash = some id := by
  rw [hc.executionByHash]
  rcases hc.execution_cases hl with ⟨e, he, rfl, rfl⟩ | ⟨e, he, hother, rfl⟩
  · rw [Execution.carryFrom_expected]
    cases hb : ev.body.binding with
    | some x =>
      rw [EventBody.binding_eq he hb]
      exact lookup_insert _
    | none =>
      rcases hfit.execution e he with ⟨old, hold, hexp⟩ | ⟨-, -, hb', -⟩
      · have := h.hashed _ _ hold
        rwa [hexp] at this
      · rw [hb] at hb'
        cases hb'
  · have hexp : (if ev.body.marks then e.markPending else e).expected = e.expected := by
      split_ifs <;> simp
    rw [hexp]
    have hbound := h.hashed id e he
    cases hb : ev.body.binding with
    | none => exact hbound
    | some x =>
      obtain ⟨y, hy, rfl⟩ := EventBody.execution_of_binding hb
      simp only [elim_some, lookup_insert_ite]
      split_ifs with hhash
      · rw [hhash] at hbound
        exact absurd (h.hash_free hfit hy hbound).symm (hother y hy)
      · exact hbound

lemma State.WF.owner_changes (h : s.WF P cfg) (hfit : ev.Fits cfg s)
    {hash id : String} (hl : s'.executionByHash.lookup hash = some id) :
    ∃ e, s'.executions.lookup id = some e ∧ e.expected.transactionHash = hash := by
  have hold : s.executionByHash.lookup hash = some id →
      ∃ e, s'.executions.lookup id = some e ∧ e.expected.transactionHash = hash := by
    intro hl
    obtain ⟨e, he, hhash⟩ := h.owner hash id hl
    obtain ⟨e', he', hexp⟩ := hc.execution_persists hfit he
    exact ⟨e', he', by rw [hexp]; exact hhash⟩
  rw [hc.executionByHash] at hl
  cases hb : ev.body.binding with
  | none => rw [hb] at hl; exact hold hl
  | some x =>
    obtain ⟨y, hy, rfl⟩ := EventBody.execution_of_binding hb
    rw [hb] at hl
    rcases lookup_insert_eq_some.mp hl with ⟨rfl, rfl⟩ | ⟨-, hl⟩
    · refine ⟨y.carryFrom (s.executions.lookup y.expected.executionID), ?_,
        by rw [Execution.carryFrom_expected]⟩
      rw [hc.executions, EventBody.updateExecutions, hy]
      exact lookup_insert _
    · exact hold hl

lemma Changes.call_checked (h : ev.body.call = some c) : ∃ kind p, ev.body = .escrow kind p ∧
    p.call = c ∧ EscrowChecked P cfg s ev.eventAt ev.key kind p := by
  generalize hb : ev.body = b at h ⊢
  cases b <;> cases h
  exact ⟨_, _, rfl, rfl, checkEscrow_ok_iff.mp (hc.checked _ _ hb)⟩

lemma State.WF.separate_changes (h : s.WF P cfg) {hash id : String}
    (hl : s'.executionByHash.lookup hash = some id) : s'.escrowByHash.lookup hash = none := by
  rw [hc.executionByHash] at hl
  rw [hc.escrowByHash]
  cases hb : ev.body.binding with
  | some x =>
    rw [EventBody.call_of_binding hb]
    rw [hb] at hl
    rcases lookup_insert_eq_some.mp hl with ⟨rfl, -⟩ | ⟨-, hl⟩
    · exact hc.separate x hb
    · exact h.separate hash id hl
  | none =>
    rw [hb] at hl
    cases hcall : ev.body.call with
    | none => exact h.separate hash id hl
    | some c =>
      obtain ⟨kind, p, hbody, rfl, hchecked⟩ := hc.call_checked hcall
      simp only [elim_some, lookup_foldl_insert]
      rw [if_neg]
      · exact h.separate hash id hl
      · intro hmem
        have := (hchecked.hashes hash hmem).2
        rw [show s.executionByHash.lookup hash = some id from hl] at this
        cases this

lemma State.WF.call_changes (h : s.WF P cfg) (hfit : ev.Fits cfg s) :
    ∀ id c, s'.escrowCalls.lookup id = some c → CallOK P cfg s'.ledger id c := by
  refine hc.call_rule (Q := fun id c => CallOK P cfg s'.ledger id c) ?_
    (fun _ _ hok => hok.markPending) ?_
  · intro id c hl
    have hok := h.call id c hl
    exact { hok with bound := fun t ht => (hok.bound t ht).mono fun _ _ => hc.ledger_persists hfit }
  · intro c hcall
    obtain ⟨kind, p, hbody, rfl, hchecked⟩ := hc.call_checked hcall
    refine ⟨rfl, hchecked.deployed, validateSnapshot_ok_iff.mp hchecked.snapshot, ?_⟩
    rw [hc.ledger, hbody]
    exact (validateEscrowLedgerBindings_bound hchecked.bindings).2

lemma State.WF.authorized_changes (h : s.WF P cfg) (hl : s'.escrowCalls.lookup id = some c') :
    s'.escrowByAuth.lookup c'.intent.authorizationID = some id := by
  rw [hc.escrowByAuth]
  rcases hc.call_cases hl with ⟨hcall, rfl⟩ | ⟨c, hstored, hother, rfl⟩
  · rw [hcall]
    exact lookup_insert _
  · have hintent : (if ev.body.marks then c.markPending else c).intent = c.intent := by
      split_ifs <;> rfl
    rw [hintent]
    have hbound := h.authorized id c hstored
    cases hcall : ev.body.call with
    | none => exact hbound
    | some x =>
      obtain ⟨kind, p, hbody, rfl, hchecked⟩ := hc.call_checked hcall
      simp only [elim_some, lookup_insert_ite]
      split_ifs with hauth
      · rw [hauth] at hbound
        exact absurd (hchecked.authorized id hbound).symm (hother _ hcall)
      · exact hbound

lemma State.WF.escrowed_changes (h : s.WF P cfg) (hl : s'.escrowCalls.lookup id = some c') :
    ∀ hash ∈ c'.hashes, s'.escrowByHash.lookup hash = some id := by
  intro hash hmem
  rw [hc.escrowByHash]
  rcases hc.call_cases hl with ⟨hcall, rfl⟩ | ⟨c, hstored, hother, rfl⟩
  · rw [hcall]
    simp only [elim_some, lookup_foldl_insert]
    rw [if_pos hmem]
  · have hhashes : (if ev.body.marks then c.markPending else c).hashes = c.hashes := by
      split_ifs <;> simp [EscrowCall.markPending_hashes]
    rw [hhashes] at hmem
    have hbound := h.escrowed id c hstored hash hmem
    cases hcall : ev.body.call with
    | none => exact hbound
    | some x =>
      obtain ⟨kind, p, hbody, rfl, hchecked⟩ := hc.call_checked hcall
      simp only [elim_some, lookup_foldl_insert]
      split_ifs with hin
      · exact absurd ((hchecked.hashes hash hin).1 id hbound).symm (hother _ hcall)
      · exact hbound

lemma State.WF.changes (h : s.WF P cfg) (hfit : ev.Fits cfg s) : s'.WF P cfg where
  chain := by obtain ⟨a, ha⟩ := hc.status; rw [ha]
  execution := by
    refine hc.execution_rule h.execution (fun _ _ hok => hok.markPending) fun e he => ?_
    refine ⟨by rw [Execution.carryFrom_expected], ?_, hc.proven e he⟩
    rw [Execution.carryFrom_expected]
    rcases hfit.execution e he with ⟨old, hold, hexp⟩ | ⟨-, hvalid, -⟩
    · rw [← hexp]; exact (h.execution _ _ hold).valid
    · exact hvalid
  hashed := fun _ _ => h.hashed_changes hc hfit
  owner := fun _ _ => h.owner_changes hc hfit
  separate := fun _ _ => h.separate_changes hc
  call := h.call_changes hc hfit
  authorized := fun _ _ => h.authorized_changes hc
  escrowed := fun _ _ => h.escrowed_changes hc
  ledger := by
    intro id t hl
    rw [hc.ledger] at hl
    rcases Ledger.lookup_addAll hl with ⟨ht, hid⟩ | hl
    · exact ⟨hid, (hfit.ledgers t ht).1⟩
    · exact h.ledger id t hl

end

/-! ## Every event of the engine -/

lemma State.checkSettlement_ok {label id org : String} {t : LedgerTransaction}
    (h : s.checkSettlement label id org t = .ok ()) :
    (t.kind = .settlement ∧ t.referenceID = id ∧ t.organizationID = org) ∧ t.Valid ∧
      ∀ prior, s.ledger.lookup t.transactionID = some prior → prior = t := by
  simp only [checkSettlement, guard_ok, bind_unit_eq_ok, not_or, not_not, ledgerConflict] at h
  obtain ⟨hbound, hvalid, hagree⟩ := h
  refine ⟨hbound, LedgerTransaction.validate_ok_iff.mp hvalid, fun prior hp => ?_⟩
  simpa [hp] using hagree

lemma Writes.ledgers (hw : Writes P cfg ctx s op d) (hf : ev.Follows d)
    (hc : Changes P cfg s ev s') : ∀ t ∈ d.body.ledgers, t.Valid ∧
      ∀ prior, s.ledger.lookup t.transactionID = some prior → prior = t := by
  have hescrow : ∀ kind p, d.body = .escrow kind p → ∀ t ∈ p.ledgers, t.Valid ∧
      ∀ prior, s.ledger.lookup t.transactionID = some prior → prior = t := by
    intro kind p hb t ht
    have hchecked := checkEscrow_ok_iff.mp (hc.checked kind p (hf.body.trans hb))
    obtain ⟨hadd, -⟩ := validateEscrowLedgerBindings_bound hchecked.bindings
    exact ⟨LedgerTransaction.validate_ok_iff.mp (hadd.valid t ht).1, hadd.agree t ht⟩
  intro t ht
  cases hw with
  | settle _ _ settlement =>
    rw [List.mem_singleton.mp ht]; exact (State.checkSettlement_ok settlement).2
  | replace _ accepted =>
    rw [List.mem_singleton.mp ht]; exact (State.checkSettlement_ok accepted.settlement).2
  | reopenSettled _ _ _ _ _ valid _ fresh | post valid fresh =>
    rw [List.mem_singleton.mp ht]
    refine ⟨LedgerTransaction.validate_ok_iff.mp valid, fun prior hp => ?_⟩
    rw [fresh] at hp
    cases hp
  | escrowIntent => cases ht
  | escrowPending => cases ht
  | escrowRevert => cases ht
  | escrowConfirm => exact hescrow _ _ rfl t ht
  | escrowFinality => cases ht
  | escrowReorg => exact hescrow _ _ rfl t ht
  | _ => cases ht

lemma Writes.fits (h : s.WF P cfg) (hw : Writes P cfg ctx s op d) (hf : ev.Follows d)
    (hc : Changes P cfg s ev s') : ev.Fits cfg s := by
  refine ⟨fun e he => ?_, ?_⟩
  · rw [hf.body] at he ⊢
    obtain ⟨hkey, ⟨-, hbinding, new⟩ | ⟨old, hold, hkeeps⟩⟩ := hw.keeps h.execution he
    · exact .inr ⟨new.fresh, new.valid, hbinding, new.free⟩
    · rw [hkey] at hold
      exact .inl ⟨old, hold, hkeeps.expected.symm⟩
  · rw [hf.body]
    exact hw.ledgers hf hc

lemma TransitionChecked.escrowTransition {hash : String} {call : EscrowCall}
    {post : List EscrowTransition} {evidence : List ReorgEvidence}
    (h : TransitionChecked cfg s now callID hash call pre t post evidence changed canonical) :
    s.escrowTransition callID hash = some (call, pre, t, post) := by
  simp [State.escrowTransition, h.stored, h.split]

lemma TransitionChecked.corrections {hash : String} {call : EscrowCall}
    {post removed : List EscrowTransition} {evidence : List ReorgEvidence}
    {ledgers : List LedgerTransaction}
    (h : TransitionChecked cfg s now callID hash call pre t post evidence changed canonical)
    (loop : foldCheck (removeTransition P s.ledger call.intent canonical.canonicalBlockHash now)
      ([], []) (removedSuffix t post) = .ok (removed, ledgers)) :
    s.corrections P now callID hash evidence = ledgers := by
  obtain ⟨report, hquorum, rfl⟩ := validateCanonicalBlockQuorum_ok_iff.mp h.quorum
  rw [State.corrections, h.escrowTransition, (removeTransition_loop loop).2.1]
  simp only [elim_some, hquorum.first]

lemma restart_fits (hf : ev.Follows (restartDraft s now)) : ev.Fits cfg s := by
  constructor
  · rw [hf.body]; rintro e ⟨⟩
  · rw [hf.body]; rintro t ⟨⟩

lemma State.WF.step (h : s.WF P cfg) (hw : Writes P cfg ctx s op d) (hf : ev.Follows d)
    (happly : s.apply P cfg ev = .ok s') : s'.WF P cfg :=
  h.changes (apply_changes happly) (hw.fits h hf (apply_changes happly))

lemma State.WF.restart (h : s.WF P cfg) (hf : ev.Follows (restartDraft s now))
    (happly : s.apply P cfg ev = .ok s') : s'.WF P cfg :=
  h.changes (apply_changes happly) (restart_fits hf)

lemma State.WF.stamp (h : s.WF P cfg) (a : ℤ) (r : Bool) (t : Time) : (s.stamp a r t).WF P cfg :=
  ⟨h.chain, h.execution, h.hashed, h.owner, h.separate, h.call, h.authorized, h.escrowed, h.ledger⟩

lemma State.init_wf (now : Time) : (init cfg now).WF P cfg where
  chain := rfl
  execution := by rintro id e ⟨⟩
  hashed := by rintro id e ⟨⟩
  owner := by rintro h id ⟨⟩
  separate := by rintro h id ⟨⟩
  call := by rintro id c ⟨⟩
  authorized := by rintro id c ⟨⟩
  escrowed := by rintro id c ⟨⟩
  ledger := by rintro id t ⟨⟩

lemma reachable_wf {e : Engine} (h : Reachable P cfg e) : e.state.WF P cfg :=
  reachable_state (fun _ a r t hs => hs.stamp a r t) State.init_wf
    (fun _ _ _ _ _ _ hs hw hf ha => hs.step hw hf ha)
    (fun _ _ _ _ hs _ hf ha => hs.restart hf ha) h

end

end FlowOps.Reconciliation

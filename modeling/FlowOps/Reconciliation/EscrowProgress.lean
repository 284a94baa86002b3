import FlowOps.Reconciliation.EscrowAcceptance
import FlowOps.Reconciliation.Reopen

/-!
# Escrow operations that go through

An escrow operation whose guards pass appends its event, because the times of the
stored calls can be written again and the key is a hash; and then it succeeds exactly
if the checks on the event pass. For a new intent, a new candidate and a receipt they
always do.

Results:
* `Engine.call_escrow`: the outcome of an operation that writes an escrow event.
* `intent_registers`, `candidate_registers`, `receipt_resolves`: the three operations.
-/

namespace FlowOps.Reconciliation

open List Option

/-! ## Times of stored calls -/

/-- The times of a call can be written to the journal. -/
def EscrowCall.Printable (c : EscrowCall) : Prop := ∀ t ∈ c.times, t.marshals

/-- The times of a transition can be written. -/
def EscrowTransition.Printable (t : EscrowTransition) : Prop :=
  t.registeredAt.marshals ∧ (∀ r, t.resolvedAt = some r → r.marshals) ∧
    ∀ f, t.finalityCheckedAt = some f → f.marshals

variable {P : Primitives} {cfg : Config} {ev : JournalEvent} {e : Engine}

section

variable {d : Draft} {c : EscrowCall}

lemma EscrowTransition.printable_iff {t : EscrowTransition} :
    t.Printable ↔ ∀ u ∈ t.times, u.marshals := by
  simp [EscrowTransition.Printable, times, or_imp, forall_and]

lemma EscrowCall.printable_iff : c.Printable ↔ c.registeredAt.marshals ∧
    (∀ p, c.pending = some p → p.Printable) ∧ ∀ t ∈ c.transitions, t.Printable := by
  simp only [EscrowCall.Printable, times, forall_mem_cons, flatMap_append,
    mem_append, or_imp, forall_and, mem_flatMap, EscrowTransition.printable_iff, mem_toList]
  exact and_congr_right fun _ => and_congr ⟨fun h p hp u hu => h u ⟨p, hp, hu⟩,
    fun h u ⟨p, hp, hu⟩ => h p hp u hu⟩ ⟨fun h t ht u hu => h u ⟨t, ht, hu⟩,
    fun h u ⟨t, ht, hu⟩ => h t ht u hu⟩

lemma EscrowCall.times_markPending (c : EscrowCall) : c.markPending.times = c.times := by
  unfold times markPending
  cases c.pending with
  | none => rfl
  | some p =>
    by_cases h : p.state = .broadcast
    · simp [h, EscrowTransition.times]
    · simp [h]

lemma JournalEvent.Follows.call_printable (hf : ev.Follows d) (hc : d.body.call = some c) :
    c.Printable := by
  intro t ht
  refine List.all_eq_true.mp hf.printable t (mem_cons_of_mem _ ?_)
  cases hb : d.body with
  | escrow kind p =>
    rw [hb] at hc
    cases hc
    exact mem_append_left _ (mem_append_left _ ht)
  | _ => rw [hb] at hc; cases hc

lemma reachable_calls_printable (h : Reachable P cfg e) :
    ∀ id c, e.state.escrowCalls.lookup id = some c → c.Printable := by
  have hmark : ∀ (id : String) (c : EscrowCall), c.Printable → c.markPending.Printable := by
    intro _ c hc
    unfold EscrowCall.Printable
    rw [c.times_markPending]
    exact hc
  refine reachable_state (I := fun s => ∀ id c, s.escrowCalls.lookup id = some c → c.Printable)
    (fun _ _ _ _ hs => hs) (fun _ id c hc => by cases hc) ?_ ?_ h
  · intro s ctx op d ev s' hs hw hf happly
    refine (apply_changes happly).call_rule hs hmark fun c hc => ?_
    exact hf.call_printable (hf.body ▸ hc)
  · intro s now ev s' hs hd hf happly
    refine (apply_changes happly).call_rule hs hmark fun c hc => ?_
    exact hf.call_printable (hf.body ▸ hc)

end

/-! ## Operations that write an escrow event -/

lemma containsControl_of_hash {s : String} (h : hashPattern s) : containsControl s = false := by
  unfold hashPattern hexPattern at h
  split at h
  · rename_i ds hs
    simp only [Bool.and_eq_true, List.all_eq_true] at h
    simp only [containsControl, hs, any_cons, Bool.or_eq_false_iff, List.any_eq_false]
    refine ⟨by decide, by decide, fun c hc hcontrol => ?_⟩
    have hhex := h.2 c hc
    simp only [Bool.or_eq_true, decide_eq_true_eq] at hcontrol
    rcases hcontrol with (rfl | rfl) | rfl <;> exact absurd hhex (by decide)
  · cases h

/-- The call can append: it is not canceled and its clock can be written. -/
structure Ctx.Ready (ctx : Ctx) : Prop where
  live : ctx.canceled 0 = false
  nonzero : (ctx.now 0).isZero = false
  printable : (ctx.now 0).marshals

variable {op : Op} {callID : String} {kind : EscrowEventKind} {p : EscrowPayload}
  {refresh : Option Time} {s s' : State}

section

variable {ctx : Ctx}

lemma Reachable.call {e' : Engine} {r : Except Err Reply} (h : Reachable P cfg e)
    (hcall : e.call P cfg ctx op = (r, e')) : Reachable P cfg e' := by
  refine h.step (i := .call ctx op) ?_
  rw [Reconciliation.step, hcall]

lemma apply_escrow_iff (hb : ev.body = .escrow kind p) (hchain : s.status.chainID = cfg.chainID)
    (hstatus : ∀ st, p.status = some st → st.chainID = cfg.chainID) :
    (∃ s', s.apply P cfg ev = .ok s') ↔ EscrowChecked P cfg s ev.eventAt ev.key kind p := by
  rw [← checkEscrow_ok_iff]
  constructor
  · rintro ⟨s', h⟩
    exact (apply_changes h).checked kind p hb
  · intro h
    have hbody : s.applyBody P cfg ev = .ok (s.storeEscrow cfg p) := by
      simp only [State.applyBody, hb, h, Except.bind]
    exact ⟨_, apply_of_body hchain (fun st hst => hstatus st (by rw [hb] at hst; exact hst)) hbody⟩

/-- The outcome of an operation that writes an escrow event: it succeeds exactly if
the checks on the event pass, and otherwise leaves the state alone. -/
lemma Engine.call_escrow
    (hplan : op.plan P cfg ctx e.state = writeEscrow (ctx.now 0) refresh callID kind p)
    (htwo : ¬op.Twofold) (hready : ctx.Ready) (hkey : hashPattern callID)
    (htimes : ∀ t ∈ (EventBody.escrow kind p).times, t.marshals)
    (hchain : e.state.status.chainID = cfg.chainID)
    (hstatus : ∀ st, p.status = some st → st.chainID = cfg.chainID) :
    (EscrowChecked P cfg e.state (ctx.now 0) callID kind p ∧ ∃ ev s', ev.body = .escrow kind p ∧
        e.state.apply P cfg ev = .ok s' ∧ (e.call P cfg ctx op).1 = .ok (.call p.call) ∧
        (e.call P cfg ctx op).2.state = refresh.elim s' (s'.refreshAffected cfg)) ∨
      (¬EscrowChecked P cfg e.state (ctx.now 0) callID kind p ∧
        (∃ err, (e.call P cfg ctx op).1 = .error err) ∧ (e.call P cfg ctx op).2.state = e.state) := by
  have hall : ((ctx.now 0).utc :: (EventBody.escrow kind p).times).all Time.marshals := by
    rw [List.all_eq_true]
    intro t ht
    rcases mem_cons.mp ht with rfl | ht
    · exact hready.printable
    · exact htimes t ht
  have happend := Journal.append_eq_ok (P := P) e.journal
    (d := { eventAt := ctx.now 0, key := callID, body := .escrow kind p })
    ⟨hashPattern_ne_empty hkey, containsControl_of_hash hkey⟩ hready.nonzero hall
  have hiff : (∃ s', e.state.apply P cfg (e.journal.eventOf P
      { eventAt := ctx.now 0, key := callID, body := .escrow kind p }) = .ok s') ↔
      EscrowChecked P cfg e.state (ctx.now 0) callID kind p :=
    apply_escrow_iff rfl hchain hstatus
  rw [call_single htwo, hplan]
  simp only [writeEscrow, perform, commit, hready.live, happend]
  cases happly : e.state.apply P cfg (e.journal.eventOf P
      { eventAt := ctx.now 0, key := callID, body := .escrow kind p }) with
  | ok s' => exact .inl ⟨hiff.mp ⟨s', happly⟩, _, s', rfl, happly, rfl, rfl⟩
  | error err =>
    refine .inr ⟨fun h => ?_, ⟨err, rfl⟩, rfl⟩
    obtain ⟨s', hs'⟩ := hiff.mpr h
    rw [happly] at hs'
    cases hs'

end

/-! ## Stored calls -/

/-- `s'` is `s` with the call and the ledger entries of an escrow event that carries no
status. -/
structure State.Stores (s s' : State) (p : EscrowPayload) : Prop where
  calls : ∀ id, s'.escrowCalls.lookup id =
    if id = p.call.intent.callID then some p.call else s.escrowCalls.lookup id
  escrowByHash : ∀ h, s'.escrowByHash.lookup h =
    if h ∈ p.call.hashes then some p.call.intent.callID else s.escrowByHash.lookup h
  executionByHash : s'.executionByHash = s.executionByHash
  ledger : s'.ledger = s.ledger.addAll p.ledgers
  status : ∃ a r, s'.status = { s.status with affectedExecutions := a, readyForManualResume := r }

section

variable {ctx : Ctx} {call : EscrowCall}

lemma State.Stores.hash_free (h : s.Stores s' p) {x : String} (hx : x ∉ p.call.hashes)
    (hfree : s.escrowByHash.lookup x = none) : s'.escrowByHash.lookup x = none := by
  rw [h.escrowByHash, if_neg hx, hfree]

lemma Engine.call_stores (hreach : Reachable P cfg e)
    (hplan : op.plan P cfg ctx e.state = writeEscrow (ctx.now 0) refresh callID kind p)
    (htwo : ¬op.Twofold) (hready : ctx.Ready) (hcall : p.call.Printable)
    (hledgers : ∀ t ∈ p.ledgers, t.recordedAt.marshals) (hstatus : p.status = none)
    (hchecked : EscrowChecked P cfg e.state (ctx.now 0) callID kind p) :
    ∃ e', e.call P cfg ctx op = (.ok (.call p.call), e') ∧ e.state.Stores e'.state p := by
  have hwf := reachable_wf hreach
  have hkey : hashPattern callID := by
    rw [hchecked.key]
    exact (EscrowIntent.validate_ok (validateSnapshot_ok_iff.mp hchecked.snapshot).intent).2.1
  have htimes : ∀ t ∈ (EventBody.escrow kind p).times, t.marshals := by
    intro t ht
    simp only [EventBody.times, hstatus, toList_none, flatMap_nil, append_nil,
      mem_append, List.mem_map] at ht
    rcases ht with ht | ⟨x, hx, rfl⟩
    · exact hcall t ht
    · exact hledgers x hx
  rcases call_escrow hplan htwo hready hkey htimes hwf.chain
      (by rw [hstatus]; rintro st ⟨⟩) with ⟨-, ev, s', hb, happly, hreply, hstate⟩ | ⟨hnot, -⟩
  · refine ⟨_, Prod.ext hreply rfl, ?_⟩
    have hc := apply_changes happly
    have hbody : ev.body.call = some p.call := by rw [hb]; rfl
    have hnone : ev.body.status = none := by rw [hb]; exact hstatus
    obtain ⟨a, hst⟩ := hc.status_none hwf.chain hnone
    have hstores : e.state.Stores s' p := by
      refine ⟨fun id => ?_, fun h => ?_, ?_, ?_, a, e.state.status.readyForManualResume, hst⟩
      · rw [hc.escrowCalls, EventBody.updateCalls, hbody, elim_some, Dict.lookup_insert_ite]
      · rw [hc.escrowByHash, hbody, elim_some, Dict.lookup_foldl_insert]
      · rw [hc.executionByHash, hb]; rfl
      · rw [hc.ledger, hb]; rfl
    rw [hstate]
    cases refresh with
    | none => exact hstores
    | some now =>
      refine ⟨hstores.calls, hstores.escrowByHash, hstores.executionByHash, hstores.ledger,
        s'.unresolvedCount, s'.recoveryReady cfg now, ?_⟩
      rw [elim_some, State.refreshAffected_eq_stamp]
      simp only [State.stamp, hst]
  · exact absurd hchecked hnot

/-! ## The operations -/

lemma intent_registers {intent : EscrowIntent} (hreach : Reachable P cfg e) (hready : ctx.Ready)
    (hvalid : intent.validate P.toCrypto = .ok ()) (hchain : intent.chainID = cfg.chainID)
    (hdeployed : deploymentMatches cfg intent)
    (hfresh : e.state.escrowCalls.lookup intent.callID = none)
    (hfree : e.state.authorizationTaken intent = false)
    (husable : e.state.chainUsable cfg (ctx.now 0))
    (hdeadline : 0 ≤ (ctx.now 0).unix ∧ (ctx.now 0).unix < intent.acknowledgeBy) :
    ∃ e', e.call P cfg ctx (.registerEscrowIntent intent) =
        (.ok (.call (intent.newCall (ctx.now 0))), e') ∧
      e.state.Stores e'.state { call := intent.newCall (ctx.now 0) } := by
  have hplan : (Op.registerEscrowIntent intent).plan P cfg ctx e.state =
      writeEscrow (ctx.now 0) none intent.callID .intent { call := intent.newCall (ctx.now 0) } := by
    have hlate : ¬((ctx.now 0).unix < 0 ∨ (intent.acknowledgeBy : ℤ) ≤ (ctx.now 0).unix) := by omega
    simp [Op.plan, registerEscrowIntent, hvalid, Plan.check, hchain, hdeployed, hfresh, hfree,
      husable, hlate]
  exact Engine.call_stores hreach hplan (fun h => h) hready
    (EscrowCall.printable_iff.mpr ⟨hready.printable, by rintro p ⟨⟩, by rintro t ⟨⟩⟩)
    (by rintro t ⟨⟩) rfl
    (EscrowChecked.intent hvalid hchain hdeployed hfresh hfree hready.nonzero)

section

variable {org : String} {candidate : EscrowTransitionCandidate} {receipt : EscrowExpectedReceipt}
  {now : Time}

lemma registerEscrowTransition_of_new
    (new : NewPending P.toCrypto s org callID candidate none call receipt) (refresh : Time) :
    registerEscrowTransition P.toCrypto cfg now refresh s org callID candidate none =
      writeEscrow now (some refresh) callID .pending
        { call := { call with pending := some (s.newPending cfg now receipt none) } } := by
  have hfound : (s.escrowCalls.lookup callID).filter (fun c => c.intent.organizationID = org) =
      some call := by simp [new.stored, new.organization]
  have hnew : call.transitions.find? (fun t =>
      t.expected.transactionHash = candidate.transactionHash) = none := by
    simpa [List.find?_eq_none] using new.fresh
  have hfree : (s.escrowByHash.lookup receipt.transactionHash).any (fun o => !decide (o = callID)) =
      false := by
    cases ho : s.escrowByHash.lookup receipt.transactionHash with
    | none => rfl
    | some other => simp [new.free other ho]
  simp [registerEscrowTransition, hfound, hnew, Plan.find, Plan.check, new.settled, new.expected,
    checkSome, new.pending, new.direct, hfree]

lemma candidate_registers (hreach : Reachable P cfg e) (hready : ctx.Ready)
    (new : NewPending P.toCrypto e.state org callID candidate none call receipt)
    (hlater : call.registeredAt.ns ≤ (ctx.clock 0).ns) :
    ∃ e', e.call P cfg ctx (.registerEscrowTransition org callID candidate) =
        (.ok (.call { call with
          pending := some (e.state.newPending cfg (ctx.now 0) receipt none) }), e') ∧
      e.state.Stores e'.state { call := { call with
        pending := some (e.state.newPending cfg (ctx.now 0) receipt none) } } := by
  obtain ⟨hregistered, -, htransitions⟩ :=
    EscrowCall.printable_iff.mp (reachable_calls_printable hreach _ _ new.stored)
  have hpending : (e.state.newPending cfg (ctx.now 0) receipt none).Printable := by
    unfold State.newPending
    split_ifs <;> exact ⟨hready.printable, by rintro r ⟨⟩, by rintro f ⟨⟩⟩
  have hplan : (Op.registerEscrowTransition org callID candidate).plan P cfg ctx e.state =
      writeEscrow (ctx.now 0) (some (ctx.now 1)) callID .pending { call := { call with
        pending := some (e.state.newPending cfg (ctx.now 0) receipt none) } } :=
    registerEscrowTransition_of_new new (ctx.now 1)
  exact Engine.call_stores hreach hplan (fun h => h) hready
    (EscrowCall.printable_iff.mpr ⟨hregistered, by rintro p ⟨⟩; exact hpending, htransitions⟩)
    (by rintro t ⟨⟩) rfl
    (EscrowChecked.pending (reachable_wf hreach) new hready.nonzero hlater)

end

section

variable {pending : EscrowTransition} {evidence : List EscrowReceiptEvidence}
  {canonical : EscrowReceiptEvidence}

/-- The call after a receipt, and the ledger entries of the event. -/
def EscrowCall.resolvedBy (P : Primitives) (call : EscrowCall) (pending : EscrowTransition)
    (canonical : EscrowReceiptEvidence) (evidence : List EscrowReceiptEvidence) (now : Time) :
    EscrowCall × List LedgerTransaction :=
  if canonical.success = false then
    (call.resolve call.state (pending.revertedBy P canonical evidence now), [])
  else
    let transition := pending.confirmedBy P canonical evidence now
    let ledger := escrowLedger P call.intent transition now
    (call.resolve (nextEscrowState pending.expected.action) (transition.bindTo ledger), ledger.toList)

lemma EscrowCall.Printable.resolve {state : EscrowPositionState} {t : EscrowTransition}
    (h : call.Printable) (ht : t.Printable) : (call.resolve state t).Printable := by
  obtain ⟨hregistered, -, htransitions⟩ := EscrowCall.printable_iff.mp h
  refine EscrowCall.printable_iff.mpr ⟨hregistered, by rintro p ⟨⟩, fun u hu => ?_⟩
  rcases mem_append.mp hu with hu | hu
  · exact htransitions u hu
  · rw [mem_singleton.mp hu]
    exact ht

lemma receipt_resolves (hreach : Reachable P cfg e) (hready : ctx.Ready)
    (accepted : EscrowReceiptAccepted cfg e.state (ctx.now 0) callID call pending evidence canonical)
    (hlater : pending.registeredAt.ns ≤ (ctx.clock 0).ns)
    (hagrees : ∀ t ∈ (call.resolvedBy P pending canonical evidence (ctx.now 0)).2,
      e.state.ledgerConflict t = false) :
    ∃ e', e.call P cfg ctx (.reconcileEscrowTransition callID evidence) =
        (.ok (.call (call.resolvedBy P pending canonical evidence (ctx.now 0)).1), e') ∧
      e.state.Stores e'.state
        { call := (call.resolvedBy P pending canonical evidence (ctx.now 0)).1
          evidence
          ledgers := (call.resolvedBy P pending canonical evidence (ctx.now 0)).2 } := by
  have hwf := reachable_wf hreach
  have hprint := reachable_calls_printable hreach _ _ accepted.stored
  obtain ⟨hregistered, -, hfinality⟩ := (EscrowCall.printable_iff.mp hprint).2.1 _ accepted.awaited
  have hlast : call.transitions.getLast?.any (fun last =>
      decide (canonical.blockNumber < last.blockNumber)) = false := by
    cases hl : call.transitions.getLast? with
    | none => rfl
    | some last => simpa using accepted.later last hl
  have hplan : (Op.reconcileEscrowTransition callID evidence).plan P cfg ctx e.state =
      writeEscrow (ctx.now 0) (some (ctx.now 1)) callID .resolved
        { call := (call.resolvedBy P pending canonical evidence (ctx.now 0)).1
          evidence
          ledgers := (call.resolvedBy P pending canonical evidence (ctx.now 0)).2 } := by
    have hlive := accepted.live
    unfold EscrowCall.resolvedBy at hagrees ⊢
    cases hsuccess : canonical.success with
    | false =>
      simp [Op.plan, reconcileEscrowTransition, accepted.stored, Plan.find, Plan.check, hlive,
        accepted.awaited, accepted.quorum, hlast, hsuccess]
    | true =>
      have hfree : (escrowLedger P call.intent (pending.confirmedBy P canonical evidence (ctx.now 0))
          (ctx.now 0)).any e.state.ledgerConflict = false := by
        cases hl : escrowLedger P call.intent (pending.confirmedBy P canonical evidence (ctx.now 0))
            (ctx.now 0) with
        | none => rfl
        | some t => exact hagrees t (by simp [hsuccess, hl])
      have hexpected : (pending.confirmedBy P canonical evidence (ctx.now 0)).expected =
          pending.expected := rfl
      simp [Op.plan, reconcileEscrowTransition, accepted.stored, Plan.find, Plan.check, hlive,
        accepted.awaited, accepted.quorum, hlast, hsuccess, hfree, hexpected]
  have htransition : ∀ t : EscrowTransition, t.registeredAt = pending.registeredAt →
      t.resolvedAt = some (ctx.now 0) → t.finalityCheckedAt = pending.finalityCheckedAt →
      t.Printable := fun t h₁ h₂ h₃ =>
    ⟨by rw [h₁]; exact hregistered, by rw [h₂]; rintro r ⟨⟩; exact hready.printable,
      by rw [h₃]; exact hfinality⟩
  refine Engine.call_stores hreach hplan (fun h => h) hready ?_ ?_ rfl ?_
  · unfold EscrowCall.resolvedBy
    split_ifs
    · exact hprint.resolve (htransition _ rfl rfl rfl)
    · exact hprint.resolve (htransition _ rfl rfl rfl)
  · unfold EscrowCall.resolvedBy
    split_ifs
    · rintro t ⟨⟩
    · intro t ht
      obtain ⟨_, _, _, -, -, -, hrecord⟩ := escrowLedger_eq_some (mem_toList.mp ht)
      rw [hrecord]
      exact hready.printable
  · unfold EscrowCall.resolvedBy at hagrees ⊢
    split_ifs at hagrees ⊢ with hsuccess
    · exact EscrowChecked.reverted hwf accepted hlater hsuccess
    · exact EscrowChecked.confirmed hwf accepted hlater hready.nonzero (by simpa using hsuccess) rfl
        fun t ht => hagrees t (mem_toList.mpr ht)

end

end

/-! ## A funded call -/

namespace Sample

lemma ready (seconds : ℤ) (h : 0 ≤ seconds ∧ seconds ≤ 10) : (ctx seconds).Ready := by
  obtain ⟨h₀, h₁⟩ := h
  interval_cases seconds <;> exact ⟨rfl, by decide, by decide⟩

lemma run_call {is : List Input} {e e' : Engine} {c : Ctx} {op : Op} {r : Except Err Reply}
    (h : run is = some e) (hcall : e.call primitives config c op = (r, e')) :
    run (is ++ [.call c op]) = some e' :=
  runFrom_snoc_eq_some.mpr ⟨e, h, by rw [step, hcall]⟩

/-- The checkpoint of the observation in `resumed`. -/
def checkpoint : Checkpoint where
  blockNumber := 100
  blockHash := hex32 1
  blockTime := clock 0
  observedAt := clock 0
  cursor := 100

/-- The chain is HEALTHY on that checkpoint. -/
structure Live (s : State) : Prop where
  healthy : s.status.state = .healthy
  final : s.status.finalizationPaused = false
  trusted : s.status.lastTrusted = some checkpoint

lemma Live.stores {s s' : State} {p : EscrowPayload} (h : Live s) (hs : s.Stores s' p) : Live s' := by
  obtain ⟨a, r, hst⟩ := hs.status
  exact ⟨by rw [hst]; exact h.healthy, by rw [hst]; exact h.final, by rw [hst]; exact h.trusted⟩

lemma resumed_live : ∃ e, run resumed = some e ∧ Live e.state ∧ e.state.escrowCalls = ∅ ∧
    e.state.escrowByAuth = ∅ ∧ e.state.escrowByHash = ∅ ∧ e.state.executionByHash = ∅ ∧
    e.state.ledger = ∅ := by
  have h : (run resumed).map (fun e => ((e.state.status.state, e.state.status.finalizationPaused,
      e.state.status.lastTrusted), (e.state.escrowCalls.entries.length,
      e.state.escrowByAuth.entries.length, e.state.escrowByHash.entries.length,
      e.state.executionByHash.entries.length, e.state.ledger.entries.length))) =
      some ((.healthy, false, some checkpoint), (0, 0, 0, 0, 0)) := by decide
  obtain ⟨e, he, hview⟩ := map_eq_some_iff.mp h
  simp only [Prod.mk.injEq, length_eq_zero_iff] at hview
  obtain ⟨⟨h₁, h₂, h₃⟩, h₄, h₅, h₆, h₇, h₈⟩ := hview
  exact ⟨e, he, ⟨h₁, h₂, h₃⟩, AList.ext h₄, AList.ext h₅, AList.ext h₆, AList.ext h₇, AList.ext h₈⟩

/-- The receipt that the transition `action` expects. -/
def expected (action : EscrowAction) (h : ℕ) : EscrowExpectedReceipt :=
  expectedOf intent (candidate action h)

/-- Its pending transition, registered on a HEALTHY chain. -/
def awaiting (action : EscrowAction) (h : ℕ) (seconds : ℤ) : EscrowTransition where
  expected := expected action h
  state := .broadcast
  registeredAt := clock seconds
  resolution := "awaiting canonical escrow receipt"

/-- The report that counts of a quorum's receipts. -/
def canonicalReceipt (action : EscrowAction) (h block b : ℕ) (success : Bool) :
    EscrowReceiptEvidence :=
  { provider := "observer-a", action, chainID := 8453, transactionHash := hex32 h
    blockNumber := block, blockHash := hex32 b, confirmedHead := block + 2, success
    callID := intent.callID }

/-- The call and the ledger entries after `funded`. -/
def fundedCall : EscrowCall × List LedgerTransaction :=
  { intent.newCall (clock 2) with pending := some (awaiting .fund 1 3) }.resolvedBy primitives
    (awaiting .fund 1 3) (canonicalReceipt .fund 1 80 8 true) (escrowReceipts .fund 1 80 8 true)
    (clock 4)

lemma intent_valid : intent.validate primitives.toCrypto = .ok () := by decide

lemma newPending_awaiting {s : State} (h : Live s) (action : EscrowAction) (n : ℕ) (seconds : ℤ)
    (hfresh : trustedFresh config (some checkpoint) (clock seconds)) :
    s.newPending config (clock seconds) (expected action n) none = awaiting action n seconds := by
  have husable : s.chainUsable config (clock seconds) := by
    simp [State.chainUsable, h.healthy, h.trusted, hfresh]
  rw [State.newPending, if_pos husable]
  rfl

lemma funded_reached : ∃ e, run funded = some e ∧ Live e.state ∧
    e.state.escrowCalls.lookup intent.callID = some fundedCall.1 ∧
    (∀ h, h ≠ hex32 1 → e.state.escrowByHash.lookup h = none) ∧
    e.state.executionByHash = ∅ ∧ e.state.ledger = Ledger.addAll ∅ fundedCall.2 := by
  obtain ⟨e₀, hrun₀, hlive₀, hcalls₀, hauth₀, hhash₀, hexec₀, hledger₀⟩ := resumed_live
  -- The intent.
  obtain ⟨e₁, hcall₁, hstores₁⟩ := intent_registers ⟨ctx 0, resumed, hrun₀⟩ (ready 2 (by decide))
    intent_valid rfl (by decide) (by rw [hcalls₀]; rfl)
    (by rw [State.authorizationTaken, hauth₀]; rfl)
    (by simp only [State.chainUsable, hlive₀.healthy, hlive₀.trusted]; decide) (by decide)
  have hrun₁ := run_call hrun₀ hcall₁
  have hlive₁ := hlive₀.stores hstores₁
  -- The candidate.
  have hhash₁ : ∀ h, e₁.state.escrowByHash.lookup h = none := fun h => by
    rw [hstores₁.escrowByHash, if_neg (by rintro ⟨⟩), hhash₀]
    rfl
  have hexec₁ : e₁.state.executionByHash = ∅ := hstores₁.executionByHash.trans hexec₀
  have new : NewPending primitives.toCrypto e₁.state "org" intent.callID (candidate .fund 1) none
      (intent.newCall (clock 2)) (expected .fund 1) :=
    { stored := by rw [hstores₁.calls]; exact if_pos rfl
      organization := rfl
      fresh := by rintro t ⟨⟩
      settled := rfl
      expected := by decide
      attested := by rintro a ⟨⟩
      pending := rfl
      free := by rw [hhash₁]; rintro other ⟨⟩
      direct := by rw [hexec₁]; rfl }
  obtain ⟨e₂, hcall₂, hstores₂⟩ := candidate_registers ⟨ctx 0, _, hrun₁⟩ (ready 3 (by decide)) new
    (by decide)
  have hrun₂ := run_call hrun₁ hcall₂
  have hlive₂ := hlive₁.stores hstores₂
  have hpending : e₁.state.newPending config (clock 3) (expected .fund 1) none = awaiting .fund 1 3 :=
    newPending_awaiting hlive₁ .fund 1 3 (by decide)
  -- The receipt.
  have accepted : EscrowReceiptAccepted config e₂.state (clock 4) intent.callID
      { intent.newCall (clock 2) with pending := some (awaiting .fund 1 3) } (awaiting .fund 1 3)
      (escrowReceipts .fund 1 80 8 true) (canonicalReceipt .fund 1 80 8 true) :=
    { stored := by rw [hstores₂.calls, ← hpending]; exact if_pos rfl
      live := ⟨hlive₂.final, by rw [hlive₂.healthy]; decide, by rw [hlive₂.trusted]; decide⟩
      awaited := rfl
      quorum := by rw [hlive₂.trusted]; decide
      later := by rintro last ⟨⟩ }
  have hledger₂ : e₂.state.ledger = ∅ := by
    rw [hstores₂.ledger, hstores₁.ledger, hledger₀]
    rfl
  obtain ⟨e₃, hcall₃, hstores₃⟩ := receipt_resolves ⟨ctx 0, _, hrun₂⟩ (ready 4 (by decide)) accepted
    (by decide) (fun t _ => by simp only [State.ledgerConflict, hledger₂]; rfl)
  refine ⟨e₃, run_call hrun₂ hcall₃, hlive₂.stores hstores₃, ?_, fun h hne => ?_, ?_, ?_⟩
  · rw [hstores₃.calls]
    exact if_pos rfl
  · refine hstores₃.hash_free (fun hm => hne (mem_singleton.mp hm))
      (hstores₂.hash_free ?_ (hhash₁ h))
    show h ∉ ({ intent.newCall (clock 2) with
      pending := some (e₁.state.newPending config (clock 3) (expected .fund 1) none) } :
        EscrowCall).hashes
    rw [hpending]
    exact fun hm => hne (mem_singleton.mp hm)
  · exact hstores₃.executionByHash.trans (hstores₂.executionByHash.trans hexec₁)
  · rw [hstores₃.ledger, hledger₂]
    rfl

/-- The funding transition after `funded`. -/
def funding : EscrowTransition :=
  ((awaiting .fund 1 3).confirmedBy primitives (canonicalReceipt .fund 1 80 8 true)
    (escrowReceipts .fund 1 80 8 true) (clock 4)).bindTo fundedCall.2.head?

lemma fundedCall_transitions : fundedCall.1.transitions = [funding] := rfl

/-- The report that counts of `blockReports`. -/
def canonicalBlock (h block b c : ℕ) : ReorgEvidence where
  provider := "observer-a"
  chainID := 8453
  transactionHash := hex32 h
  originalBlockNumber := block
  originalBlockHash := hex32 b
  canonicalBlockHash := hex32 c
  observedHead := 100

lemma funded_acknowledge {s : State} (hstored : s.escrowCalls.lookup intent.callID = some fundedCall.1)
    (hfree : s.escrowByHash.lookup (hex32 2) = none) (hdirect : s.executionByHash = ∅) :
    NewPending primitives.toCrypto s "org" intent.callID (candidate .acknowledge 2) none fundedCall.1
      (expected .acknowledge 2) where
  stored := hstored
  organization := rfl
  fresh := by
    rw [fundedCall_transitions]
    intro t ht
    rw [mem_singleton.mp ht]
    decide
  settled := rfl
  expected := by decide
  attested := by rintro a ⟨⟩
  pending := rfl
  free := by
    intro other ho
    rw [show (expected .acknowledge 2).transactionHash = hex32 2 from rfl, hfree] at ho
    cases ho
  direct := by rw [hdirect]; rfl

end Sample

end FlowOps.Reconciliation

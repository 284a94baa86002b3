import FlowOps.Reconciliation.EscrowProgress

/-!
# Finality of escrow transitions

`ConfirmEscrowFinality` writes an event of the same kind as a receipt, and
`validateEscrowEventEvolution` takes it for one whenever the stored call has a
pending candidate. So the check succeeds, and changes only the two finality fields
of its transition, exactly if the call has no pending candidate. Confirming first
and registering the next candidate afterwards works; in the other order the check
is journaled and rejected.

Results:
* `FinalityDue.confirms`, `finality_fails_with_pending`: the two cases.
* `finality_iff_no_pending`: when a finality check succeeds.
-/

namespace FlowOps.Reconciliation

open List Option

/-! ## Replacing one call -/

/-- `s'` is `s` with the call `id` replaced by `c`. -/
structure State.CallReplaced (s s' : State) (id : String) (c : EscrowCall) : Prop where
  calls : ∀ other, s'.escrowCalls.lookup other =
    if other = id then some c else s.escrowCalls.lookup other
  escrowByAuth : ∀ a, s'.escrowByAuth.lookup a = s.escrowByAuth.lookup a
  escrowByHash : ∀ h, s'.escrowByHash.lookup h = s.escrowByHash.lookup h
  executions : s'.executions = s.executions
  executionByHash : s'.executionByHash = s.executionByHash
  ledger : s'.ledger = s.ledger
  balances : s'.balances = s.balances
  status : s'.status = s.status
  operator : s'.lastResumeOperator = s.lastResumeOperator

section

variable {P : Primitives} {cfg : Config} {s s' : State} {ev : JournalEvent} {id : String}
  {call : EscrowCall} {kind : EscrowEventKind} {p : EscrowPayload}

/-- An event that binds no new hash and carries no ledger entry and no status
replaces the stored call and nothing else. -/
lemma State.callReplaced_of_apply (hwf : s.WF P cfg) (hstored : s.escrowCalls.lookup id = some call)
    (hb : ev.body = .escrow kind p) (hintent : p.call.intent = call.intent)
    (hhashes : ∀ h ∈ p.call.hashes, h ∈ call.hashes) (hledgers : p.ledgers = [])
    (hstatus : p.status = none) (happly : s.apply P cfg ev = .ok s') :
    s.CallReplaced s' id p.call := by
  have hc := apply_changes happly
  have hcall : ev.body.call = some p.call := by rw [hb]; rfl
  have hnone : ev.body.status = none := by rw [hb]; exact hstatus
  have hposted : ev.body.ledgers = [] := by rw [hb]; exact hledgers
  have hid : p.call.intent.callID = id := by rw [hintent]; exact (hwf.call _ _ hstored).keyed
  refine ⟨fun other => ?_, fun a => ?_, fun h => ?_, ?_, ?_, ?_, ?_, ?_, ?_⟩
  · rw [hc.escrowCalls, EventBody.updateCalls, hcall, elim_some, Dict.lookup_insert_ite, hid]
  · rw [hc.escrowByAuth, hcall, elim_some, Dict.lookup_insert_ite]
    split_ifs with ha
    · rw [ha, hintent, hwf.authorized _ _ hstored, ← hintent, hid]
    · rfl
  · rw [hc.escrowByHash, hcall, elim_some, Dict.lookup_foldl_insert]
    split_ifs with hmem
    · rw [hid, hwf.escrowed _ _ hstored h (hhashes h hmem)]
    · rfl
  · rw [hc.executions, hb]; rfl
  · rw [hc.executionByHash, hb]; rfl
  · rw [hc.ledger, hposted]; rfl
  · rw [hc.balances, hposted]; rfl
  · obtain ⟨s₁, hbody, -, rfl⟩ := apply_ok_iff.mp happly
    simp only [withChain, applyBody_status_of_none hnone hbody, ← hwf.chain]
  · rw [hc.operator, hnone]; rfl

end

/-! ## The finality check -/

/-- The call with the finality check of one of its transitions. -/
def EscrowCall.withFinality (call : EscrowCall) (pre : List EscrowTransition) (t : EscrowTransition)
    (post : List EscrowTransition) (now : Time) (head : ℕ) : EscrowCall :=
  { call with transitions := pre ++ t.finalizedAt now head :: post }

section

variable {P : Primitives} {cfg : Config} {ctx : Ctx} {e : Engine} {s s' : State}
  {callID hash : String} {call : EscrowCall} {pre post : List EscrowTransition} {t : EscrowTransition}
  {evidence : List ReorgEvidence} {canonical : ReorgEvidence} {now refresh : Time} {head : ℕ}
  {org : String} {candidate : EscrowTransitionCandidate} {receipt : EscrowExpectedReceipt}

lemma confirmEscrowFinality_of_checked
    (checked : TransitionChecked cfg s (ctx.now 0) callID hash call pre t post evidence false canonical)
    (hunchecked : t.finalityCheckedAt = none) :
    confirmEscrowFinality cfg ctx s callID hash evidence =
      writeEscrow (ctx.now 0) none callID .resolved
        { call := call.withFinality pre t post (ctx.now 0) canonical.observedHead
          reorg := evidence } := by
  have hfound := State.escrowTransition_eq_some.mpr ⟨checked.stored, checked.split⟩
  have hresolved : t.isResolved := by
    simpa [EscrowTransition.isResolved] using checked.resolved
  simp [confirmEscrowFinality, hfound, Plan.find, Plan.check, hresolved, hunchecked,
    checked.live.1, checked.live.2, checked.quorum, EscrowCall.withFinality]

/-- The candidate that may follow a call may still follow it after a finality check. -/
lemma NewPending.afterFinality (new : NewPending P.toCrypto s org callID candidate none call receipt)
    (hsplit : call.transitions = pre ++ t :: post)
    (h : s.CallReplaced s' callID (call.withFinality pre t post now head)) :
    NewPending P.toCrypto s' org callID candidate none (call.withFinality pre t post now head)
      receipt where
  stored := by rw [h.calls, if_pos rfl]
  organization := new.organization
  fresh := by
    intro u hu
    simp only [EscrowCall.withFinality, mem_append, mem_cons] at hu
    rcases hu with hu | rfl | hu
    · exact new.fresh u (by simp [hsplit, hu])
    · exact new.fresh t (by simp [hsplit])
    · exact new.fresh u (by simp [hsplit, hu])
  settled := by
    have hwatched := new.settled
    simp only [EscrowCall.revertWatched, hsplit, EscrowCall.withFinality] at hwatched ⊢
    rcases eq_nil_or_concat post with rfl | ⟨us, u, rfl⟩
    · simp [EscrowTransition.finalizedAt]
    · simpa [List.getLast?_append, List.getLast?_cons] using hwatched
  expected := new.expected
  attested := by rintro a ⟨⟩
  pending := new.pending
  free := by rw [h.escrowByHash]; exact new.free
  direct := by rw [h.executionByHash]; exact new.direct

lemma EscrowCall.Printable.withFinality (h : call.Printable)
    (hsplit : call.transitions = pre ++ t :: post) (hnow : now.marshals) :
    (call.withFinality pre t post now head).Printable := by
  obtain ⟨hregistered, hpending, hold⟩ := EscrowCall.printable_iff.mp h
  rw [hsplit] at hold
  refine EscrowCall.printable_iff.mpr ⟨hregistered, hpending, fun u hu => ?_⟩
  simp only [EscrowCall.withFinality, mem_append, mem_cons] at hu
  rcases hu with hu | rfl | hu
  · exact hold u (by simp [hu])
  · obtain ⟨hreg, hres, -⟩ := hold t (by simp)
    exact ⟨hreg, hres, by rintro w ⟨⟩; exact hnow⟩
  · exact hold u (by simp [hu])

lemma finality_fails_with_pending (hreach : Reachable P cfg e) {pending : EscrowTransition}
    (hstored : e.state.escrowCalls.lookup callID = some call) (hpending : call.pending = some pending)
    (hsplit : splitTransitions hash call.transitions = some (pre, t, post))
    (hunchecked : t.finalityCheckedAt = none) :
    (∃ err, (e.call P cfg ctx (.confirmEscrowFinality callID hash evidence)).1 = .error err) ∧
      (e.call P cfg ctx (.confirmEscrowFinality callID hash evidence)).2.state = e.state := by
  have hcall : e.call P cfg ctx (.confirmEscrowFinality callID hash evidence) =
      e.perform P cfg (ctx.canceled 0)
        (confirmEscrowFinality cfg ctx e.state callID hash evidence) :=
    Engine.call_single fun h => h
  rw [hcall]
  cases hplan : confirmEscrowFinality cfg ctx e.state callID hash evidence with
  | refuse err => exact ⟨⟨err, rfl⟩, rfl⟩
  | answer r =>
    have hfound := State.escrowTransition_eq_some.mpr ⟨hstored, hsplit⟩
    simp only [confirmEscrowFinality, hfound, Plan.find, hunchecked, ne_eq, not_true_eq_false,
      if_false, Plan.ite_refuse_eq_answer, Plan.check_eq_answer, writeEscrow, reduceCtorEq, and_false,
      exists_false] at hplan
  | write w =>
    rcases e.commit_cases P cfg (ctx.canceled 0) w with
      ⟨err, hc⟩ | ⟨ev, journal, happend, ⟨err, -, hc⟩ | ⟨s', happly, hc⟩⟩
    · exact ⟨⟨err, congrArg Prod.fst hc⟩, congrArg (·.2.state) hc⟩
    · exact ⟨⟨err, congrArg Prod.fst hc⟩, congrArg (·.2.state) hc⟩
    · exfalso
      have hf := Journal.append_follows happend
      generalize hd : w.draft = d at hf
      have hw := confirmEscrowFinality_writes (P := P) hplan
      rw [hd] at hw
      cases hw with
      | escrowFinality checked =>
        have hsame := checked.stored
        rw [hstored] at hsame
        cases hsame
        have hchecked := checkEscrow_ok_iff.mp ((apply_changes happly).checked _ _ hf.body)
        rw [hf.eventAt, hf.key] at hchecked
        exact finality_rejected hpending hstored (reachable_wf hreach) hchecked
      | register hop => cases hop
      | escrowIntent hop => cases hop
      | escrowPending hop => cases hop

/-- A finality check whose guards pass. -/
structure FinalityDue (P : Primitives) (cfg : Config) (ctx : Ctx) (e : Engine) (callID hash : String)
    (call : EscrowCall) (pre : List EscrowTransition) (t : EscrowTransition)
    (post : List EscrowTransition) (evidence : List ReorgEvidence) (canonical : ReorgEvidence) :
    Prop where
  reachable : Reachable P cfg e
  checked : TransitionChecked cfg e.state (ctx.now 0) callID hash call pre t post evidence false
    canonical
  unchecked : t.finalityCheckedAt = none
  ready : ctx.Ready
  later : ∀ r, t.resolvedAt = some r → r.ns ≤ (ctx.clock 0).ns

/-- Without a pending candidate the check succeeds and writes the two finality fields. -/
lemma FinalityDue.confirms (h : FinalityDue P cfg ctx e callID hash call pre t post evidence canonical)
    (hpending : call.pending = none) :
    ∃ e', e.call P cfg ctx (.confirmEscrowFinality callID hash evidence) =
        (.ok (.call (call.withFinality pre t post (ctx.now 0) canonical.observedHead)), e') ∧
      e.state.CallReplaced e'.state callID
        (call.withFinality pre t post (ctx.now 0) canonical.observedHead) := by
  have hwf := reachable_wf h.reachable
  have hok := hwf.call _ _ h.checked.stored
  have hsplit := (splitTransitions_eq_some h.checked.split).1
  have hkey : hashPattern callID := by
    rw [← hok.keyed]
    exact (EscrowIntent.validate_ok hok.sound.intent).2.1
  have hprint : (call.withFinality pre t post (ctx.now 0) canonical.observedHead).Printable :=
    (reachable_calls_printable h.reachable _ _ h.checked.stored).withFinality hsplit h.ready.printable
  have hplan : (Op.confirmEscrowFinality callID hash evidence).plan P cfg ctx e.state =
      writeEscrow (ctx.now 0) none callID .resolved
        { call := call.withFinality pre t post (ctx.now 0) canonical.observedHead
          reorg := evidence } := confirmEscrowFinality_of_checked h.checked h.unchecked
  have hchecked := EscrowChecked.finality hwf h.checked h.unchecked hpending h.later
  rcases Engine.call_escrow hplan (fun h => h) h.ready hkey
      (by simpa [EventBody.times, EscrowCall.Printable] using hprint) hwf.chain
      (by rintro st ⟨⟩) with
    ⟨-, ev, s', hb, happly, hreply, hstate⟩ | ⟨hnot, -⟩
  · refine ⟨_, Prod.ext hreply rfl, ?_⟩
    rw [hstate]
    refine State.callReplaced_of_apply hwf h.checked.stored hb rfl (fun x hx => ?_) rfl rfl happly
    simp only [EscrowCall.hashes, EscrowCall.withFinality, EscrowTransition.finalizedAt, hsplit,
      map_append, map_cons] at hx ⊢
    exact hx
  · exact absurd hchecked hnot

/-- A finality check succeeds, and changes only the two finality fields of its
transition, exactly if the call has no pending candidate. Then the next candidate
can be registered after it, with the pending transition that it gets before it;
but once it is registered first, the check fails whatever its evidence. -/
theorem finality_iff_no_pending
    (h : FinalityDue P cfg ctx e callID hash call pre t post evidence canonical) :
    ((∃ e', e.call P cfg ctx (.confirmEscrowFinality callID hash evidence) =
          (.ok (.call (call.withFinality pre t post (ctx.now 0) canonical.observedHead)), e') ∧
        e.state.CallReplaced e'.state callID
          (call.withFinality pre t post (ctx.now 0) canonical.observedHead)) ↔
      call.pending = none) ∧
    ∀ ctx₁ org candidate receipt, Ctx.Ready ctx₁ → call.registeredAt.ns ≤ (ctx₁.clock 0).ns →
      NewPending P.toCrypto e.state org callID candidate none call receipt →
      (∃ e₁ e₂, e.call P cfg ctx (.confirmEscrowFinality callID hash evidence) =
          (.ok (.call (call.withFinality pre t post (ctx.now 0) canonical.observedHead)), e₁) ∧
        e₁.call P cfg ctx₁ (.registerEscrowTransition org callID candidate) =
          (.ok (.call { call.withFinality pre t post (ctx.now 0) canonical.observedHead with
            pending := some (e.state.newPending cfg (ctx₁.now 0) receipt none) }), e₂)) ∧
      ∃ e₁, e.call P cfg ctx₁ (.registerEscrowTransition org callID candidate) =
          (.ok (.call { call with
            pending := some (e.state.newPending cfg (ctx₁.now 0) receipt none) }), e₁) ∧
        ∀ ctx₂ evidence', (∃ err,
            (e₁.call P cfg ctx₂ (.confirmEscrowFinality callID hash evidence')).1 = .error err) ∧
          (e₁.call P cfg ctx₂ (.confirmEscrowFinality callID hash evidence')).2.state = e₁.state := by
  refine ⟨⟨fun ⟨e', hcall, _⟩ => ?_, h.confirms⟩, fun ctx₁ org candidate receipt hready hlater new =>
    ⟨?_, ?_⟩⟩
  · cases hpending : call.pending with
    | none => rfl
    | some pending =>
      have hfails : ∃ err, (e.call P cfg ctx (.confirmEscrowFinality callID hash evidence)).1 =
          .error err := (finality_fails_with_pending h.reachable h.checked.stored hpending
        h.checked.split h.unchecked).1
      obtain ⟨err, herr⟩ := hfails
      rw [hcall] at herr
      cases herr
  · obtain ⟨e₁, hconfirm, hreplaced⟩ := h.confirms new.pending
    have hreach₁ := h.reachable.call hconfirm
    have hsplit := (splitTransitions_eq_some h.checked.split).1
    obtain ⟨e₂, hregister, -⟩ :=
      candidate_registers hreach₁ hready (new.afterFinality hsplit hreplaced) hlater
    refine ⟨e₁, e₂, hconfirm, ?_⟩
    have hsame : e₁.state.newPending cfg (ctx₁.now 0) receipt none =
        e.state.newPending cfg (ctx₁.now 0) receipt none := by
      have husable : e₁.state.chainUsable cfg (ctx₁.now 0) = e.state.chainUsable cfg (ctx₁.now 0) := by
        simp only [State.chainUsable, hreplaced.status]
      unfold State.newPending
      rw [husable]
    rw [← hsame]
    exact hregister
  · obtain ⟨e₁, hregister, hstores⟩ := candidate_registers h.reachable hready new hlater
    have hkeyed := ((reachable_wf h.reachable).call _ _ h.checked.stored).keyed
    have hstored : e₁.state.escrowCalls.lookup callID = some { call with
        pending := some (e.state.newPending cfg (ctx₁.now 0) receipt none) } := by
      rw [hstores.calls, if_pos hkeyed.symm]
    exact ⟨e₁, hregister, fun ctx₂ evidence' => finality_fails_with_pending
      (h.reachable.call hregister) hstored rfl h.checked.split h.unchecked⟩

end

section

open Sample

lemma Sample.funding_checked {s : State} (h : Live s) {call : EscrowCall}
    (hstored : s.escrowCalls.lookup intent.callID = some call)
    (htransitions : call.transitions = [funding]) :
    TransitionChecked config s (clock 8) intent.callID (hex32 1) call [] funding []
      (blockReports 1 80 8 8) false (canonicalBlock 1 80 8 8) where
  stored := hstored
  split := by rw [htransitions]; exact if_pos rfl
  resolved := .inl rfl
  live := ⟨h.final, by rw [h.trusted]; decide⟩
  quorum := by rw [h.trusted]; decide

theorem finality_iff_no_pending_funded :
    ∃ e, run funded = some e ∧ FinalityDue primitives config (ctx 8) e intent.callID (hex32 1)
        fundedCall.1 [] funding [] (blockReports 1 80 8 8) (canonicalBlock 1 80 8 8) ∧
      ∃ e', e.call primitives config (ctx 8)
          (.confirmEscrowFinality intent.callID (hex32 1) (blockReports 1 80 8 8)) =
        (.ok (.call (fundedCall.1.withFinality [] funding [] (clock 8) 100)), e') := by
  obtain ⟨e, hrun, hlive, hstored, -⟩ := funded_reached
  have hdue : FinalityDue primitives config (ctx 8) e intent.callID (hex32 1) fundedCall.1 [] funding
      [] (blockReports 1 80 8 8) (canonicalBlock 1 80 8 8) :=
    ⟨⟨ctx 0, funded, hrun⟩, funding_checked hlive hstored rfl, rfl, ready 8 (by decide),
      by rintro r ⟨⟩; decide⟩
  obtain ⟨e', hcall, -⟩ := (finality_iff_no_pending hdue).1.mpr rfl
  exact ⟨e, hrun, hdue, e', hcall⟩

/-- The acknowledgement is registered after the funding; the finality check of the
funding then passes its guards and fails. -/
theorem registered_candidate_blocks_finality : ∃ e call, run (funded ++ [.call (ctx 5)
        (.registerEscrowTransition "org" intent.callID (candidate .acknowledge 2))]) = some e ∧
      TransitionChecked config e.state (clock 8) intent.callID (hex32 1) call [] funding []
        (blockReports 1 80 8 8) false (canonicalBlock 1 80 8 8) ∧
      funding.state = .confirmed ∧ funding.finalityCheckedAt = none ∧
      ∃ err, (e.call primitives config (ctx 8)
        (.confirmEscrowFinality intent.callID (hex32 1) (blockReports 1 80 8 8))).1 = .error err := by
  obtain ⟨e, hrun, hlive, hstored, hhash, hexec, -⟩ := funded_reached
  obtain ⟨e', hcall, hstores⟩ := candidate_registers ⟨ctx 0, funded, hrun⟩ (ready 5 (by decide))
    (funded_acknowledge hstored (hhash (hex32 2) (by decide)) hexec) (by decide)
  have hrun' := run_call hrun hcall
  have hstored' := hstores.calls intent.callID
  rw [if_pos (show intent.callID = fundedCall.1.intent.callID from rfl)] at hstored'
  have hchecked := funding_checked (hlive.stores hstores) hstored' rfl
  exact ⟨e', _, hrun', hchecked, rfl, rfl, (finality_fails_with_pending ⟨ctx 0, _, hrun'⟩ hstored' rfl
    hchecked.split rfl).1⟩

end

end FlowOps.Reconciliation

import FlowOps.Reconciliation.EscrowProgress

/-!
# Escrow accounting

The entries of a call are named by its transitions: a confirmed funding, release or refund
names the entry posted for it, and one that was removed again also the correction. What they
post adds up to the call's position.

Results:
* `net_zero`, `net_confirmed`: the entries of one transition.
* `escrow_accounting`: those of a call, in every reachable state.
-/

namespace FlowOps.Reconciliation

open List SnapshotAcc

/-- What the entries that a transition names post to an account. -/
def EscrowTransition.net (m : Ledger) (account : String) (t : EscrowTransition) : ℤ :=
  ((([t.ledgerTransactionID, t.correctionTransactionID].filter (· ≠ "")).filterMap m.lookup).map
    fun x => postingSum account x.postings).sum

/-- The postings that a position stands for. -/
def EscrowPositionState.postings (amount : String) : EscrowPositionState → List Posting
  | .funded | .acknowledged | .delivered =>
    [⟨"escrow_locked", amount⟩, ⟨"pending_settlement", "-" ++ amount⟩]
  | .released => [⟨"agent_service_expense", amount⟩, ⟨"pending_settlement", "-" ++ amount⟩]
  | _ => []

open EscrowTransition EscrowPositionState

variable {P : Primitives} {cfg : Config} {callID account : String} {call : EscrowCall}

lemma postingSum_inverse {os cs : List Posting} (h : inversePostings os cs)
    (hvalid : ∀ p ∈ os, ∃ n, signedInteger p.amountAtomic = some n) :
    postingSum account cs = -postingSum account os := by
  fun_induction inversePostings os cs with
  | case1 => rfl
  | case2 o os c cs ih =>
    simp only [Bool.and_eq_true, decide_eq_true_eq] at h
    obtain ⟨n, hn⟩ := hvalid o (by simp)
    rw [postingSum_cons, postingSum_cons, ih h.2 fun p hp => hvalid p (by simp [hp]), h.1.2,
      amountOf_flipSign (signedInteger_canonical hn).1, h.1.1]
    split_ifs <;> ring
  | case3 => cases h

section

variable {s : State} {t : EscrowTransition} (hwf : s.WF P cfg)
  (hcall : s.escrowCalls.lookup callID = some call)
include hwf hcall

lemma net_zero (ht : t ∈ call.transitions) (hstate : t.state ≠ .confirmed) :
    t.net s.ledger account = 0 := by
  obtain ⟨-, -, hsound, hbound⟩ := hwf.call _ _ hcall
  have hc := (hsound.records t ht).correction
  simp only [correctionInvalid, not_or, not_and, not_not] at hc
  by_cases hl : t.ledgerTransactionID = ""
  · have hnone : t.correctionTransactionID = "" := by
      by_contra hne
      exact (hc.2.2 hne).2 hl
    simp [net, hl, hnone]
  · -- Only a removed transition keeps its entry, next to the correction of it.
    have hr : t.state = .reorged := by
      have := (hsound.records t ht).outcome.2
      unfold outcome at this
      grind
    obtain ⟨x, o, hx, ho, -, -, -, -, hinv⟩ := (hbound t ht).corrected (hc.2.1 hr hl)
    simp [net, hl, hc.2.1 hr hl, hx, ho,
      postingSum_inverse hinv fun p hp => ((hwf.ledger _ o ho).2.postings p hp).2]

lemma net_confirmed (ht : t ∈ call.transitions) (hstate : t.state = .confirmed)
    {state : EscrowPositionState}
    (hallowed : escrowActionAllowed state t.expected.action t.expected.refundedFromState) :
    postingSum account (state.postings call.intent.amountAtomic) + t.net s.ledger account =
      postingSum account ((nextEscrowState t.expected.action).postings call.intent.amountAtomic) := by
  obtain ⟨-, -, hsound, hbound⟩ := hwf.call _ _ hcall
  have hc : t.correctionTransactionID = "" := by
    by_contra hc
    exact (hsound.records t ht).correction (.inl ⟨hstate, hc⟩)
  have hl := (hsound.records t ht).ledger hstate
  cases ha : t.expected.action with
  | fund | release | refund =>
    rw [ha] at hl hallowed
    have hid := of_decide_eq_true hl.symm
    obtain ⟨x, hx, -, hentry⟩ := (hbound t ht).posted hid
    rw [escrowLedger, ha] at hentry
    have hpostings : x.postings = _ := congrArg (·.postings) (Option.some.inj hentry).symm
    have hbalanced := (hwf.ledger _ x hx).2.balanced
    simp only [hpostings, postingTotal, map_cons, map_nil, sum_cons, sum_nil, add_zero] at hbalanced
    -- The amount leaves the accounts of the position and enters those of the next one.
    cases state <;> first
      | cases hallowed; done
      | simp [net, hc, hid, hx, hpostings, postings, nextEscrowState, postingSum,
          eq_neg_of_add_eq_zero_right hbalanced] <;> split_ifs <;> simp
  | _ =>
    rw [ha] at hl hallowed
    have hid := not_not.mp (of_decide_eq_false hl.symm)
    cases state <;> first
      | cases hallowed; done
      | simp [net, hc, hid, postings, nextEscrowState]

lemma net_history {ts : List EscrowTransition} (hts : ∀ t ∈ ts, t ∈ call.transitions)
    (hchain : Chain {} ts) (hlive : (advanceAll {} ts).reorged = false) :
    (ts.map (·.net s.ledger account)).sum =
      postingSum account ((advanceAll {} ts).historicalState.postings call.intent.amountAtomic) := by
  induction ts using reverseRecOn with
  | nil => rfl
  | append_singleton ts t ih =>
    obtain ⟨hchain, hfollows, -⟩ := chain_append.mp hchain
    have ht := hts t (by simp)
    rw [advanceAll_append] at hlive ⊢
    change (advance (advanceAll {} ts) t).reorged = false at hlive
    change _ = postingSum account ((advance (advanceAll {} ts) t).historicalState.postings _)
    obtain ⟨hlive, hkept⟩ : (advanceAll {} ts).reorged = false ∧ t.state ≠ .reorged := by
      simpa [advance] using hlive
    rw [map_append, sum_append, ih (fun u hu => hts u (by simp [hu])) hchain hlive, map_singleton,
      sum_singleton]
    by_cases hstate : t.state = .confirmed
    · rw [net_confirmed hwf hcall ht hstate hfollows.allowed]
      simp [advance, outcome, hstate]
    · simp [net_zero hwf hcall ht hstate, advance, outcome, hstate, hkept]

end

/-- The entries of a call that is not QUARANTINED add up, on every account, to the postings of its
position. Those of a transition that reverted or was removed add up to nothing. -/
theorem escrow_accounting {e : Engine} (h : Reachable P cfg e)
    (hcall : e.state.escrowCalls.lookup callID = some call) (account : String) :
    (call.state ≠ .quarantined → (call.transitions.map (·.net e.state.ledger account)).sum =
      postingSum account (call.state.postings call.intent.amountAtomic)) ∧
    ∀ t ∈ call.transitions, t.state ≠ .confirmed → t.net e.state.ledger account = 0 := by
  have hwf := reachable_wf h
  have hsound := (hwf.call _ _ hcall).sound
  refine ⟨fun hlive => ?_, fun t => net_zero hwf hcall⟩
  have hkept : (advanceAll {} call.transitions).reorged = false := by
    simpa using mt hsound.quarantined hlive
  rw [net_history hwf hcall (fun _ => id) hsound.follows hkept, hsound.position hkept]

open Sample

theorem escrow_accounting_funded : ∃ e, run funded = some e ∧
    (fundedCall.1.transitions.map (·.net e.state.ledger "escrow_locked")).sum = 5 := by
  obtain ⟨e, hrun, -, hcall, -⟩ := funded_reached
  exact ⟨e, hrun, ((escrow_accounting ⟨_, _, hrun⟩ hcall _).1 (by decide)).trans (by decide)⟩

end FlowOps.Reconciliation

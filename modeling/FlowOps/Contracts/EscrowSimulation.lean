import Mathlib
import FlowOps.Common.Run
import FlowOps.Contracts.CallEscrowLifecycle
import FlowOps.Pkg.Hex
import FlowOps.Reconciliation.Snapshot

/-!
# The position machine follows the contract

`internal/reconciliation` follows an escrow call with a machine of its own:
`expectedEscrowTransition` accepts a candidate in a position and `nextEscrowState` gives
the next one (`confirm`). The candidates that report the events of a call are accepted
one after the other and lead to the position of the call's state, on the chains and
for the deadlines that the off-chain records support; and every sequence the machine
accepts is the event sequence of a run of the contract.

The contract takes deadlines up to `2 ^ 64 - 1`, the off-chain records up to
`math.MaxInt64`: `late_deadline_unsupported` is a run outside their range.
-/

namespace FlowOps.CallEscrow

open Evm Function Reconciliation List

variable {b : Call} {e : Log}

/-! ## Reports -/

/-- `uint8(expiredFrom)`. -/
def State.code : State → ℕ
  | .none => 0
  | .funded => 1
  | .acknowledged => 2
  | .delivered => 3
  | .released => 4
  | .refunded => 5

/-- The position that stands for a state of the contract. -/
def State.position : State → EscrowPositionState
  | .none => .registered
  | .funded => .funded
  | .acknowledged => .acknowledged
  | .delivered => .delivered
  | .released => .released
  | .refunded => .refunded

lemma position_injective : Function.Injective State.position := fun a b h => by
  cases a <;> cases b <;> first | rfl | cases h

/-- The candidate that reports an event in a transaction. -/
def Log.candidate (hash : String) : Log → EscrowTransitionCandidate
  | .callFunded .. => { action := .fund, transactionHash := hash }
  | .callAcknowledged .. => { action := .acknowledge, transactionHash := hash }
  | .deliverySubmitted _ _ responseDigest evidenceDigest _ _ =>
    { action := .deliver, transactionHash := hash, responseDigest := wordText responseDigest
      evidenceDigest := wordText evidenceDigest }
  | .released _ _ _ buyerAccepted =>
    { action := .release, transactionHash := hash, buyerAccepted := some buyerAccepted }
  | .refunded _ _ _ expiredFrom =>
    { action := .refund, transactionHash := hash, refundedFromState := expiredFrom.code }
  | .transfer .. => { action := .other "", transactionHash := hash }

/-- The candidate reports the event, in a transaction with a canonical hash. -/
def Reports (e : Log) (c : EscrowTransitionCandidate) : Prop :=
  nonZeroHash c.transactionHash ∧ c = e.candidate c.transactionHash

/-- A candidate is accepted and confirmed. -/
def confirm (P : Crypto) (call : EscrowCall) (c : EscrowTransitionCandidate) : Option EscrowCall :=
  match expectedEscrowTransition P call c with
  | .ok _ => some { call with state := nextEscrowState c.action }
  | .error _ => none

/-- The intent has the terms of the contract's call. -/
structure Mirrors (d : Deployment) (callId : Bytes32) (t : Terms) (i : EscrowIntent) : Prop where
  chainID : i.chainID = d.chainId
  contract : i.contract = addressText d.this
  asset : i.asset = addressText d.asset
  callID : i.callID = wordText callId
  buyer : i.buyer = addressText t.buyer
  provider : i.provider = addressText t.provider
  amount : positiveInteger i.amountAtomic ∧ natOfDigits i.amountAtomic.toList = t.amount
  taskDigest : i.taskDigest = wordText t.taskDigest
  requestDigest : i.requestDigest = wordText t.requestDigest
  acknowledgeBy : i.acknowledgeBy = t.acknowledgeBy.toNat
  deliverBy : i.deliverBy = t.deliverBy.toNat
  releaseWindow : i.releaseWindow = d.optimisticReleaseWindow

/-- What the off-chain records can represent: the Base chains, and deadlines that fit
an `int64`. -/
structure Supported (d : Deployment) (t : Terms) : Prop where
  chain : d.chainId = 8453 ∨ d.chainId = 84532
  deadline : t.deliverBy.toNat ≤ maxInt64

/-- Both sides derive call ids with the same hash function. -/
def SameKeccak (P : Crypto) (d : Deployment) : Prop :=
  ∀ buyer taskDigest requestDigest,
    (P.callKeccak256 d.chainId (addressText d.this) (addressText buyer) (wordText taskDigest)
      (wordText requestDigest)).hash = wordText (d.deriveCallId buyer taskDigest requestDigest)

variable {P : Crypto} {d : Deployment} {callId : Bytes32} {t : Terms} {call' : EscrowCall}
  {c : EscrowTransitionCandidate}

section

variable {i : EscrowIntent} {call : EscrowCall} {a : Call} {es : List Log}

lemma nonZeroHash_wordText {w : Bytes32} : nonZeroHash (wordText w) ↔ w ≠ 0 := by
  simp [nonZeroHash, hashPattern_wordText, wordText_eq_zeroHash]

lemma confirm_eq_some : confirm P call c = some call' ↔ nonZeroHash c.transactionHash ∧
      escrowActionAllowed call.state c.action c.refundedFromState ∧
      (expectedOf call.intent c).validate P = .ok () ∧
      { call with state := nextEscrowState c.action } = call' := by
  unfold confirm expectedEscrowTransition
  split_ifs with hhash hallowed
  · simp [hhash]
  · simp [hallowed]
  · cases hv : (expectedOf call.intent c).validate P with
    | error e => simp
    | ok u => simp [Bool.not_eq_false _ ▸ hhash, Bool.not_eq_false _ ▸ hallowed]

lemma receipt_valid (hkeccak : SameKeccak P d) (hm : Mirrors d callId t i) (hok : t.OK d callId)
    (hs : Supported d t) (hhash : nonZeroHash c.transactionHash)
    (haction : (expectedOf i c).validateAction = .ok ()) : (expectedOf i c).validate P = .ok () := by
  have hchain : ¬(i.chainID ≠ 8453 ∧ i.chainID ≠ 84532) := by
    rw [hm.chainID]
    have := hs.chain
    omega
  have hderive : deriveEscrowCallID P i.chainID i.contract i.buyer i.taskDigest i.requestDigest =
      some i.callID := by
    have hzero : d.chainId ≠ 0 := by have := hs.chain; omega
    rw [hm.chainID, hm.contract, hm.buyer, hm.taskDigest, hm.requestDigest, hm.callID, hok.derived]
    simp only [deriveEscrowCallID, addressPattern_addressText, hashPattern_wordText, hzero]
    simpa using hkeccak t.buyer t.taskDigest t.requestDigest
  have hdeadlines : ¬escrowDeadlinesInvalid i.acknowledgeBy i.deliverBy i.releaseWindow := by
    rw [hm.acknowledgeBy, hm.deliverBy, hm.releaseWindow]
    have h₁ := hok.deadlines
    have h₂ := hs.deadline
    have h₃ := d.window_pos
    have h₄ := d.window_le
    simp only [escrowDeadlinesInvalid, maxReleaseWindow, maxOptimisticReleaseWindow, maxInt64] at *
    omega
  simp only [EscrowExpectedReceipt.validate, guard_ok]
  refine ⟨hchain, ?_, ?_, ?_, ?_, hdeadlines, not_not.mpr hderive, haction⟩
  · simpa [expectedOf, hhash, hm.callID, hm.taskDigest, hm.requestDigest, nonZeroHash_wordText]
      using And.intro hok.nonzero hok.digests
  · simp [expectedOf, hm.contract, hm.asset, hm.buyer, hm.provider, addressPattern_addressText]
  · intro heq
    simp only [expectedOf, hm.buyer, hm.provider] at heq
    exact hok.provider.2 (addressText_injective heq).symm
  · simp [expectedOf, hm.amount.1]

lemma Move.action_valid (hmove : Move d callId a b e) (hash : String) :
    (expectedOf i (e.candidate hash)).validateAction = .ok () := by
  cases hmove with
  | fund | acknowledge | release => simp [Log.candidate, expectedOf, EscrowExpectedReceipt.validateAction]
  | deliver hstate hdigests =>
    simp [Log.candidate, expectedOf, EscrowExpectedReceipt.validateAction,
      nonZeroHash_wordText.mpr hdigests.1, nonZeroHash_wordText.mpr hdigests.2]
  | refund hstate =>
    rcases hstate with hstate | hstate <;>
      simp [Log.candidate, expectedOf, EscrowExpectedReceipt.validateAction, hstate, State.code]

/-- A move is allowed in the position of the state it starts from, and leads to the
position of the state it ends in. -/
lemma Move.position (hmove : Move d callId a b e) (hash : String) :
    escrowActionAllowed a.state.position (e.candidate hash).action
        (e.candidate hash).refundedFromState ∧
      nextEscrowState (e.candidate hash).action = b.state.position := by
  cases hmove with
  | fund hstate hstate' =>
    rw [hstate, hstate']
    exact ⟨rfl, rfl⟩
  | acknowledge hstate | deliver hstate | release hstate =>
    rw [hstate]
    exact ⟨rfl, rfl⟩
  | refund hstate =>
    rcases hstate with hstate | hstate <;> simp only [hstate] <;> exact ⟨rfl, rfl⟩

lemma Move.terms_ok (hmove : Move d callId a b e) : b.state ≠ .none ∧
      (a.state ≠ .none ∧ b.terms = a.terms ∨ a.state = .none ∧ b.terms.OK d callId) := by
  cases hmove with
  | fund hstate hstate' hterms => exact ⟨by rw [hstate']; decide, .inr ⟨hstate, hterms⟩⟩
  | acknowledge hstate | deliver hstate | release hstate =>
    exact ⟨by simp, .inl ⟨by rw [hstate]; decide, rfl⟩⟩
  | refund hstate =>
    exact ⟨by simp, .inl ⟨by rcases hstate with h | h <;> rw [h] <;> decide, rfl⟩⟩

lemma Lifecycle.terms_ok (h : Lifecycle d callId a es) :
    a.state ≠ .none → a.terms.OK d callId := by
  induction h with
  | unused => exact fun h => absurd rfl h
  | move h hmove ih =>
    intro _
    rcases hmove.terms_ok.2 with ⟨hused, hterms⟩ | ⟨-, hok⟩
    · rw [hterms]
      exact ih hused
    · exact hok

lemma forall₂_concat_left {α β : Type} {R : α → β → Prop} {xs : List α} {x : α} {ys : List β}
    (h : List.Forall₂ R (xs ++ [x]) ys) :
    ∃ ys' y, ys = ys' ++ [y] ∧ List.Forall₂ R xs ys' ∧ R x y := by
  induction xs generalizing ys with
  | nil =>
    cases h with
    | cons hxy hnil =>
      cases hnil
      exact ⟨[], _, rfl, .nil, hxy⟩
  | cons a xs ih =>
    cases h with
    | @cons _ b _ ys hab hrest =>
      obtain ⟨ys', y, rfl, hys, hxy⟩ := ih hrest
      exact ⟨b :: ys', y, rfl, .cons hab hys, hxy⟩

lemma Lifecycle.accepted (hkeccak : SameKeccak P d)
    (h : Lifecycle d callId a es) {cs : List EscrowTransitionCandidate}
    (hcs : List.Forall₂ Reports es cs) (hreg : call.state = .registered)
    (hm : a.state ≠ .none → Mirrors d callId a.terms call.intent ∧ Supported d a.terms) :
    runFrom (confirm P) call cs = some { call with state := a.state.position } := by
  induction h generalizing cs with
  | unused =>
    cases hcs
    show some call = some { call with state := .registered }
    rw [← hreg]
  | @move a b es e h hmove ih =>
    obtain ⟨cs, c, rfl, hcs, hhash, hc⟩ := forall₂_concat_left hcs
    obtain ⟨hused, hterms⟩ := hmove.terms_ok
    obtain ⟨hmirrors, hsupported⟩ := hm hused
    have hok : b.terms.OK d callId := (Lifecycle.move h hmove).terms_ok hused
    have hstart := ih hcs fun ha => by
      rcases hterms with ⟨-, hterms⟩ | ⟨hnone, -⟩
      · rw [← hterms]
        exact ⟨hmirrors, hsupported⟩
      · exact absurd hnone ha
    refine runFrom_snoc_eq_some.mpr ⟨_, hstart, confirm_eq_some.mpr ?_⟩
    rw [hc]
    obtain ⟨hallowed, hnext⟩ := hmove.position c.transactionHash
    refine ⟨?_, hallowed, ?_, by rw [hnext]⟩
    · rw [← hc]
      exact hhash
    · refine receipt_valid hkeccak hmirrors hok hsupported ?_ (hmove.action_valid _)
      rw [← hc]
      exact hhash

end

/-! ## Every accepted sequence is a run -/

def inputsOf (calls : List (Msg × Method)) : List Input := calls.map fun x => .call x.1 x.2

/-- The transactions `calls`, from a state in which everyone holds the amount, produce
the events that `cs` reports and lead to a call with terms `t` in position `p`. They
are all at time 0 until the call is settled. -/
structure Realised (d : Deployment) (callId : Bytes32) (t : Terms)
    (cs : List EscrowTransitionCandidate) (p : EscrowPositionState) (calls : List (Msg × Method)) :
    Prop where
  events : List.Forall₂ Reports
    (eventsOf callId (emitted (history d (fun _ => t.amount) (inputsOf calls)))) cs
  position : ((run d (fun _ => t.amount) (inputsOf calls)).getCall callId).state.position = p
  unused : p = .registered → calls = []
  terms : p ≠ .registered → ((run d (fun _ => t.amount) (inputsOf calls)).getCall callId).terms = t
  early : p ≠ .released → p ≠ .refunded → ∀ x ∈ calls, x.1.timestamp = 0
  delivered : p = .delivered →
    ((run d (fun _ => t.amount) (inputsOf calls)).getCall callId).deliveredAt = 0
  ordered : calls.Pairwise fun x y => x.1.timestamp ≤ y.1.timestamp

section

variable {p : EscrowPositionState} {call : EscrowCall} {cs : List EscrowTransitionCandidate}
  {calls : List (Msg × Method)} {l : List Log} {m : Msg} {method : Method}

lemma eventsOf_of_callId (hl : ∀ x ∈ l, x.callId = none)
    (he : e.callId = some callId) : eventsOf callId (l ++ [e]) = [e] := by
  have hnil : l.filter (fun x => x.callId = some callId) = [] :=
    filter_eq_nil_iff.mpr fun x hx => by simp [hl x hx]
  rw [eventsOf, filter_append, hnil, filter_singleton, he]
  simp

lemma Realised.snoc (h : Realised d callId t cs p calls) {s' : Storage}
    (hstep : Step d (run d (fun _ => t.amount) (inputsOf calls)) (.call m method) s' (l ++ [e]))
    (hl : ∀ x ∈ l, x.callId = none) (he : e.callId = some callId) (hb : s'.getCall callId = b)
    (hreport : Reports e c) (hused : b.state ≠ .none) (hterms : b.terms = t)
    (hlive : p ≠ .released ∧ p ≠ .refunded)
    (hearly : b.state ≠ .released → b.state ≠ .refunded → m.timestamp = 0)
    (hdelivered : b.state = .delivered → b.deliveredAt = 0) :
    ∃ calls', Realised d callId t (cs ++ [c]) b.state.position calls' := by
  have hinputs : inputsOf (calls ++ [(m, method)]) = inputsOf calls ++ [.call m method] := by
    simp [inputsOf]
  have hcall := call_ok_iff.mpr hstep
  have hrun : (run d (fun _ => t.amount) (inputsOf (calls ++ [(m, method)]))).getCall callId = b := by
    rw [hinputs, run, execute_snoc, transact_of_ok hcall, hb]
  have hevents : eventsOf callId
      (emitted (history d (fun _ => t.amount) (inputsOf (calls ++ [(m, method)])))) =
      eventsOf callId (emitted (history d (fun _ => t.amount) (inputsOf calls))) ++ [e] := by
    rw [← eventsOf_of_callId hl he, hinputs, history, successes_append, successes_cons]
    simp only [run] at hcall
    simp [emitted, hcall, successes, eventsOf]
  refine ⟨calls ++ [(m, method)], ?_, by rw [hrun], ?_, fun _ => by rw [hrun, hterms], ?_, ?_, ?_⟩
  · rw [hevents]
    exact rel_append h.events (.cons hreport .nil)
  · intro hreg
    exact absurd (position_injective hreg) hused
  · intro hrel href x hx
    rcases mem_append.mp hx with hx | hx
    · exact h.early hlive.1 hlive.2 x hx
    · rw [mem_singleton.mp hx]
      exact hearly (fun hb => hrel (by rw [hb]; rfl)) (fun hb => href (by rw [hb]; rfl))
  · intro hdel
    rw [hrun]
    exact hdelivered (position_injective hdel)
  · refine pairwise_append.mpr ⟨h.ordered, pairwise_singleton _ _, fun x hx y hy => ?_⟩
    rw [h.early hlive.1 hlive.2 x hx]
    exact Nat.zero_le _

lemma Realised.fund (h : Realised d callId t cs .registered calls) (hok : t.OK d callId)
    (hext : t.buyer ≠ d.this) (hreport : Reports (.callFunded callId t.buyer t.provider t.amount
      t.taskDigest t.requestDigest t.acknowledgeBy t.deliverBy) c) :
    ∃ calls', Realised d callId t (cs ++ [c]) .funded calls' := by
  obtain rfl := h.unused rfl
  let b : Call :=
    { buyer := t.buyer, provider := t.provider, amount := t.amount, acknowledgeBy := t.acknowledgeBy
      deliverBy := t.deliverBy, taskDigest := t.taskDigest, requestDigest := t.requestDigest
      state := .funded }
  have hf : Fundable d (run d (fun _ => t.amount) (inputsOf [])) ⟨t.buyer, 0, true⟩ callId b :=
    { buyer := rfl, fresh := ⟨rfl, rfl, rfl, rfl⟩, nonzero := hok.nonzero, provider := hok.provider
      amount := hok.amount.1.ne', digests := hok.digests, deadlines := hok.deadlines
      derived := hok.derived, unused := position_injective h.position
      bound := (Nat.zero_add t.amount).symm ▸ hok.amount.2
      accepted := rfl, paid := le_rfl, external := hext }
  exact h.snoc (b := b) (.fund hf) (l := [_]) (by simp [Log.callId]) rfl
    (by rw [getCall_insert, if_pos rfl]) hreport (show State.funded ≠ .none by decide) rfl
    (by decide) (fun _ _ => rfl) (fun _ => rfl)

lemma live_of_isOpen {a : State} (h : a.isOpen) :
    a.position ≠ .registered ∧ a.position ≠ .released ∧ a.position ≠ .refunded := by
  cases a with
  | none | released | refunded => cases h
  | funded | acknowledged | delivered => decide

lemma Realised.advance (h : Realised d callId t cs p calls) (ha : Advance d m callId ((run d
    (fun _ => t.amount) (inputsOf calls)).getCall callId)
      method b e) (htime : m.timestamp = 0) (hreport : Reports e c) :
    ∃ calls', Realised d callId t (cs ++ [c]) b.state.position calls' := by
  obtain ⟨hopen, hopen', hterms⟩ := ha.isOpen
  have hlive := live_of_isOpen hopen
  rw [h.position] at hlive
  refine h.snoc (l := []) (.advance ha) (by simp) ha.move.callId_eq
    (by rw [Storage.setCall, getCall_insert, if_pos rfl]) hreport (state_ne_none_of_isOpen hopen')
    (hterms.trans (h.terms hlive.1)) hlive.2 (fun _ _ => htime) fun hstate => ?_
  cases ha with
  | acknowledge => cases hstate
  | submitDelivery =>
    rw [htime]
    rfl

lemma Realised.settle (h : Realised d callId t cs p calls) {state : State} {recipient : Address}
    (hset : Settlement d m callId ((run d (fun _ => t.amount) (inputsOf calls)).getCall callId)
      method state recipient e) (haccepts : m.accepts) (hreport : Reports e c) :
    ∃ calls', Realised d callId t (cs ++ [c]) state.position calls' := by
  obtain ⟨hopen, hclosed, hused⟩ := hset.isOpen
  have hlive := live_of_isOpen hopen
  rw [h.position] at hlive
  have hok := run_ok (d := d) (fun _ => t.amount) (inputsOf calls)
  have hamount := hok.amount_le hopen
  refine h.snoc (l := [_]) (b := { Storage.getCall _ callId with state })
    (.settle hset hamount haccepts (hamount.trans hok.solvent.covered))
    (by simp [Log.callId]) hset.move.callId_eq (by rw [getCall_insert, if_pos rfl]) hreport hused
    (h.terms hlive.1) hlive.2 (fun hrel href => ?_) fun hstate => ?_
  · cases state with
    | released | refunded => contradiction
    | none | funded | acknowledged | delivered => cases hset
  · rw [show state = .delivered from hstate] at hclosed
    cases hclosed

lemma escrowActionAllowed_iff {p : EscrowPositionState} {action : EscrowAction} {n : ℕ} :
    escrowActionAllowed p action n ↔
      p = .registered ∧ action = .fund ∨ p = .funded ∧ action = .acknowledge ∨
        p = .funded ∧ action = .refund ∧ n = 1 ∨ p = .acknowledged ∧ action = .deliver ∨
        p = .acknowledged ∧ action = .refund ∧ n = 2 ∨ p = .delivered ∧ action = .release := by
  cases p with
  | _ => simp [escrowActionAllowed]

lemma fields_of_validateAction {e : EscrowExpectedReceipt} (h : e.validateAction = .ok ()) :
    match e.action with
    | .fund | .acknowledge =>
      e.responseDigest = "" ∧ e.evidenceDigest = "" ∧ e.buyerAccepted = none ∧ e.refundedFromState = 0
    | .deliver =>
      nonZeroHash e.responseDigest ∧ nonZeroHash e.evidenceDigest ∧
        e.buyerAccepted = none ∧ e.refundedFromState = 0
    | .release =>
      (∃ accepted, e.buyerAccepted = some accepted) ∧ e.refundedFromState = 0 ∧
        e.responseDigest = "" ∧ e.evidenceDigest = ""
    | .refund => e.buyerAccepted = none ∧ e.responseDigest = "" ∧ e.evidenceDigest = ""
    | .other _ => False := by
  unfold EscrowExpectedReceipt.validateAction at h
  cases ha : e.action with
  | fund | acknowledge | deliver =>
    simpa [ha, and_assoc] using h
  | release =>
    simp only [ha, guard_ok, not_or, not_not] at h
    exact ⟨Option.ne_none_iff_exists'.mp h.1.1, h.1.2⟩
  | refund =>
    simp only [ha, guard_ok, not_or, not_not] at h
    exact h.2.1
  | other a => simp [ha] at h

lemma exists_word {h : String} (hh : nonZeroHash h) : ∃ w : Bytes32, w ≠ 0 ∧ wordText w = h := by
  have hpattern : hashPattern h := by
    simp only [nonZeroHash, Bool.and_eq_true] at hh
    exact hh.1
  obtain ⟨w, rfl⟩ := exists_wordText hpattern
  exact ⟨w, nonZeroHash_wordText.mp hh, rfl⟩

/-- Whatever the position machine accepts, some run of the contract does. -/
lemma exists_realised (hok : t.OK d callId) (hext : t.buyer ≠ d.this)
    (hreg : call.state = .registered) (h : runFrom (confirm P) call cs = some call') :
    ∃ calls, Realised d callId t cs call'.state calls := by
  induction cs using List.reverseRecOn generalizing call' with
  | nil =>
    obtain rfl := Option.some.inj h
    exact ⟨[], .nil, hreg.symm, fun _ => rfl, fun h => absurd hreg h, by simp, fun _ => rfl, .nil⟩
  | append_singleton cs c ih =>
    obtain ⟨mid, hmid, hstep⟩ := runFrom_snoc_eq_some.mp h
    obtain ⟨calls, hr⟩ := ih hmid
    obtain ⟨hhash, hallowed, hvalid, rfl⟩ := confirm_eq_some.mp hstep
    have haction : (expectedOf mid.intent c).validateAction = .ok () := by
      simp only [EscrowExpectedReceipt.validate, guard_ok] at hvalid
      exact hvalid.2.2.2.2.2.2.2
    have hfields := fields_of_validateAction haction
    obtain ⟨action, hash, responseDigest, evidenceDigest, buyerAccepted, refundedFromState⟩ := c
    -- One case for each edge of the position machine.
    rcases escrowActionAllowed_iff.mp hallowed with ⟨hm, rfl⟩ | ⟨hm, rfl⟩ | ⟨hm, rfl, rfl⟩ |
      ⟨hm, rfl⟩ | ⟨hm, rfl, rfl⟩ | ⟨hm, rfl⟩ <;> rw [hm] at hr
    · obtain ⟨rfl, rfl, rfl, rfl⟩ := hfields
      exact hr.fund hok hext ⟨hhash, rfl⟩
    · obtain ⟨rfl, rfl, rfl, rfl⟩ := hfields
      exact hr.advance (m := ⟨_, 0, true⟩) (.acknowledge (position_injective hr.position) rfl
        (Nat.zero_le _)) rfl ⟨hhash, rfl⟩
    · obtain ⟨rfl, rfl, rfl⟩ := hfields
      exact hr.settle (m := ⟨0, _, true⟩) (.refundFunded (position_injective hr.position)
        (Nat.lt_succ_self _)) rfl ⟨hhash, rfl⟩
    · obtain ⟨hresponse, hevidence, rfl, rfl⟩ := hfields
      obtain ⟨v, hv, rfl⟩ := exists_word hresponse
      obtain ⟨w, hw, rfl⟩ := exists_word hevidence
      exact hr.advance (m := ⟨_, 0, true⟩) (.submitDelivery (position_injective hr.position) rfl
        (Nat.zero_le _) ⟨hv, hw⟩) rfl ⟨hhash, rfl⟩
    · obtain ⟨rfl, rfl, rfl⟩ := hfields
      exact hr.settle (m := ⟨0, _, true⟩) (.refundAcknowledged (position_injective hr.position)
        (Nat.lt_succ_self _)) rfl ⟨hhash, rfl⟩
    · obtain ⟨⟨accepted, rfl⟩, rfl, rfl, rfl⟩ := hfields
      cases accepted with
      | true =>
        exact hr.settle (m := ⟨_, 0, true⟩) (.accept (position_injective hr.position) rfl) rfl
          ⟨hhash, rfl⟩
      | false =>
        exact hr.settle (m := ⟨0, _, true⟩) (.optimistic (position_injective hr.position) le_rfl) rfl
          ⟨hhash, rfl⟩

end

/-- Seen through the reports, the contract and the position machine have the same runs:
the events of a call are accepted and lead to the position of its state, if the
off-chain records support its terms; and what the machine accepts are the events
of a run, at non-decreasing times, of any call that can be funded. -/
theorem position_machine_simulates (P : Crypto) (call : EscrowCall)
    (hreg : call.state = .registered) :
    (∀ d balance inputs callId cs, SameKeccak P d →
        (((run d balance inputs).getCall callId).state ≠ .none →
          Mirrors d callId ((run d balance inputs).getCall callId).terms call.intent ∧
            Supported d ((run d balance inputs).getCall callId).terms) →
        List.Forall₂ Reports (eventsOf callId (emitted (history d balance inputs))) cs →
        runFrom (confirm P) call cs =
          some { call with state := ((run d balance inputs).getCall callId).state.position }) ∧
      ∀ cs call', runFrom (confirm P) call cs = some call' →
        ∀ d callId, ∀ t : Terms, t.OK d callId → t.buyer ≠ d.this →
          ∃ balance, ∃ calls : List (Msg × Method),
            (calls.Pairwise fun x y => x.1.timestamp ≤ y.1.timestamp) ∧
            List.Forall₂ Reports (eventsOf callId (emitted (history d balance (inputsOf calls)))) cs ∧
            ((run d balance (inputsOf calls)).getCall callId).state.position = call'.state := by
  refine ⟨fun d balance inputs callId cs hkeccak hm hcs => ?_, fun cs call' h d callId t hok hext => ?_⟩
  · exact (run_lifecycle balance inputs callId).accepted hkeccak hcs hreg hm
  · obtain ⟨calls, hr⟩ := exists_realised hok hext hreg h
    exact ⟨_, calls, hr.ordered, hr.events, hr.position⟩

/-! ## A funded call -/

namespace Example

variable {deliverBy : UInt64}

def deployment : Deployment where
  chainId := 8453
  this := 1
  asset := 2
  optimisticReleaseWindow := 3600
  keccak256 := sampleHash
  window_pos := by decide
  window_le := by decide

def derivedId : Bytes32 := deployment.deriveCallId 3 5 6

def call (deliverBy : UInt64) : Call :=
  { buyer := 3, provider := 4, amount := 1, acknowledgeBy := 100, deliverBy
    taskDigest := 5, requestDigest := 6, state := .funded }

def inputs (deliverBy : UInt64) : List Input :=
  [.call ⟨3, 0, true⟩ (.fund derivedId 4 1 5 6 100 deliverBy)]

/-- The same hash function, on the values that the texts stand for. -/
noncomputable def crypto : Crypto where
  authorizationSHA256 a := wordDigits (sampleHash (textBytes a.authorizationID))
  executionSHA256 id := wordDigits (sampleHash (textBytes id))
  callKeccak256 chainID contract buyer taskDigest requestDigest := wordDigits
    ({ deployment with chainId := chainID, this := invFun addressText contract }.deriveCallId
      (invFun addressText buyer) (invFun wordText taskDigest) (invFun wordText requestDigest))
  ed25519Verify _ _ _ _ := true

def record (deliverBy : UInt64) : EscrowCall where
  intent :=
    { organizationID := "org", customerID := "customer", agentID := "agent", taskID := "task"
      authorizationID := "authorization", intentDigest := wordText 7, chainID := 8453
      contract := addressText 1, asset := addressText 2, callID := wordText derivedId
      buyer := addressText 3, provider := addressText 4, amountAtomic := "1"
      taskDigest := wordText 5, requestDigest := wordText 6, acknowledgeBy := 100
      deliverBy := deliverBy.toNat, releaseWindow := 3600 }
  state := .registered
  registeredAt := { ns := 1 }

def report : EscrowTransitionCandidate := { action := .fund, transactionHash := wordText 8 }

lemma mirrors (deliverBy : UInt64) :
    Mirrors deployment derivedId (call deliverBy).terms (record deliverBy).intent :=
  ⟨rfl, rfl, rfl, rfl, rfl, rfl,
    show positiveInteger "1" = true ∧ natOfDigits "1".toList = 1 by decide, rfl, rfl, rfl, rfl, rfl⟩

lemma sameKeccak : SameKeccak crypto deployment := fun _ _ _ => by
  simp only [crypto, leftInverse_invFun addressText_injective _,
    leftInverse_invFun wordText_injective _]
  rfl

lemma funded (h : 100 < deliverBy.toNat) :
    Step deployment (Storage.init fun _ => 1) (.call ⟨3, 0, true⟩ (.fund derivedId 4 1 5 6 100 deliverBy))
      { totalLocked := 1, calls := AList.insert derivedId (call deliverBy) ∅, balance := moved (fun _ => 1) 3 1 1 }
      [.transfer 3 1 1, .callFunded derivedId 3 4 1 5 6 100 deliverBy] :=
  .fund (d := deployment) (c := call deliverBy)
    { buyer := rfl, fresh := ⟨rfl, rfl, rfl, rfl⟩, nonzero := sampleHash_ne_zero _
      provider := show (4 : Address) ≠ 0 ∧ (4 : Address) ≠ 3 by decide
      amount := Nat.one_ne_zero
      digests := show (5 : Bytes32) ≠ 0 ∧ (6 : Bytes32) ≠ 0 by decide
      deadlines := ⟨show 0 < (100 : UInt64).toNat by decide, h⟩
      derived := rfl, unused := rfl, bound := show 0 + 1 < 2 ^ 256 by decide
      accepted := rfl, paid := le_rfl, external := show (3 : Address) ≠ 1 by decide }

lemma run_eq (h : 100 < deliverBy.toNat) :
    (run deployment (fun _ => 1) (inputs deliverBy)).getCall derivedId = call deliverBy := by
  rw [run, inputs, ← nil_append [_], execute_snoc, execute_nil,
    transact_of_ok (call_ok_iff.mpr (funded h)), getCall_insert, if_pos rfl]

lemma reported (h : 100 < deliverBy.toNat) : List.Forall₂ Reports
      (eventsOf derivedId (emitted (history deployment (fun _ => 1) (inputs deliverBy)))) [report] := by
  have hevents : eventsOf derivedId (emitted (history deployment (fun _ => 1) (inputs deliverBy))) =
      [.callFunded derivedId 3 4 1 5 6 100 deliverBy] := by
    rw [history, inputs, successes, call_ok_iff.mpr (funded h)]
    simp [eventsOf, emitted, successes, Log.callId]
  rw [hevents]
  exact .cons ⟨nonZeroHash_wordText.mpr (by decide), rfl⟩ .nil

end Example

open Example in
/-- A funded call is confirmed as such. -/
theorem position_machine_simulates_funded :
    runFrom (confirm crypto) (record 200) [report] = some { record 200 with state := .funded } := by
  have h := (position_machine_simulates crypto (record 200) rfl).1 deployment (fun _ => 1) (inputs 200)
    derivedId [report] sameKeccak (fun _ => by
      rw [run_eq (by decide)]
      exact ⟨mirrors 200, .inl rfl, by decide⟩) (reported (by decide))
  rwa [run_eq (by decide)] at h

open Example in
/-- A call whose delivery deadline does not fit an `int64` is funded, and its report is
not accepted. -/
theorem late_deadline_unsupported : SameKeccak crypto deployment ∧
      Mirrors deployment derivedId ((run deployment (fun _ => 1) (inputs (2 ^ 63))).getCall derivedId).terms
        (record (2 ^ 63)).intent ∧
      ((run deployment (fun _ => 1) (inputs (2 ^ 63))).getCall derivedId).state = .funded ∧
      List.Forall₂ Reports
        (eventsOf derivedId (emitted (history deployment (fun _ => 1) (inputs (2 ^ 63))))) [report] ∧
      runFrom (confirm crypto) (record (2 ^ 63)) [report] = none := by
  have hlate : 100 < (2 ^ 63 : UInt64).toNat := by decide +kernel
  refine ⟨sameKeccak, ?_, ?_, reported hlate, ?_⟩
  · rw [run_eq hlate]
    exact mirrors _
  · rw [run_eq hlate]
    rfl
  · have hrefused : confirm crypto (record (2 ^ 63)) report = none := by
      refine Option.eq_none_iff_forall_ne_some.mpr fun call' h => ?_
      obtain ⟨-, -, hvalid, -⟩ := confirm_eq_some.mp h
      simp only [EscrowExpectedReceipt.validate, guard_ok] at hvalid
      exact hvalid.2.2.2.2.2.1 (.inr (.inr (.inr (.inl (by decide +kernel)))))
    simp [runFrom, hrefused]

end FlowOps.CallEscrow

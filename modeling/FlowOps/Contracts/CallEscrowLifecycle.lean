import FlowOps.Contracts.CallEscrow

/-!
# The lifecycle of one call

Seen from a single call, every transaction of `CallEscrow` either leaves it alone or is
one of five moves: funding, acknowledgement, delivery, release, refund. `Lifecycle` is
the machine of these moves with the events they emit, and `run_lifecycle` shows that
each call of the contract runs it.

Results:
* `solvent_and_paid_once`: the locked total is the sum over the open calls and is
  covered; a call is paid out at most once, to the recipient and under the condition
  that its funding fixed.
* `deadlines_exclude_and_free`: the two sides of a deadline are never both open, and
  every open call can be settled by anyone from some time on.
-/

namespace FlowOps.CallEscrow

open Evm List

/-! ## Moves -/

/-- The call an event of the contract is about. -/
def Log.callId : Log → Option Bytes32
  | .transfer .. => none
  | .callFunded callId .. => some callId
  | .callAcknowledged callId _ => some callId
  | .deliverySubmitted callId .. => some callId
  | .released callId .. => some callId
  | .refunded callId .. => some callId

def eventsOf (callId : Bytes32) (logs : List Log) : List Log :=
  logs.filter fun l => l.callId = some callId

/-- One move of a call and the event it emits. -/
inductive Move (d : Deployment) (callId : Bytes32) : Call → Call → Log → Prop
  | fund {c c' : Call} (hstate : c.state = .none) (hstate' : c'.state = .funded)
      (hterms : c'.terms.OK d callId) :
      Move d callId c c' (.callFunded callId c'.buyer c'.provider c'.amount c'.taskDigest
        c'.requestDigest c'.acknowledgeBy c'.deliverBy)
  | acknowledge {c : Call} (hstate : c.state = .funded) :
      Move d callId c { c with state := .acknowledged } (.callAcknowledged callId c.provider)
  | deliver {c : Call} {responseDigest evidenceDigest : Bytes32} {deliveredAt : UInt64}
      {releasableAt : ℕ}
      (hstate : c.state = .acknowledged) (hdigests : responseDigest ≠ 0 ∧ evidenceDigest ≠ 0) :
      Move d callId c { c with responseDigest, evidenceDigest, deliveredAt, state := .delivered }
        (.deliverySubmitted callId c.provider responseDigest evidenceDigest deliveredAt releasableAt)
  | release {c : Call} {buyerAccepted : Bool} (hstate : c.state = .delivered) :
      Move d callId c { c with state := .released }
        (.released callId c.provider c.amount buyerAccepted)
  | refund {c : Call} (hstate : c.state = .funded ∨ c.state = .acknowledged) :
      Move d callId c { c with state := .refunded } (.refunded callId c.buyer c.amount c.state)

/-- The runs of a call from its empty slot. -/
inductive Lifecycle (d : Deployment) (callId : Bytes32) : Call → List Log → Prop
  | unused : Lifecycle d callId {} []
  | move {c c' : Call} {es : List Log} {e : Log} (h : Lifecycle d callId c es)
      (hmove : Move d callId c c' e) : Lifecycle d callId c' (es ++ [e])

variable {d : Deployment} {s s' : Storage} {m : Msg} {callId : Bytes32} {c c' : Call} {i : Input}
  {o : List Log} {method : Method} {e : Log} {state : State} {recipient : Address}

section

variable {id : Bytes32}

lemma Move.callId_eq (h : Move d callId c c' e) : e.callId = some callId := by
  cases h <;> rfl

lemma Advance.move (h : Advance d m callId c method c' e) : Move d callId c c' e := by
  cases h with
  | acknowledge hstate hsender htime =>
    rw [hsender]
    exact .acknowledge hstate
  | submitDelivery hstate hsender htime hdigests =>
    rw [hsender]
    exact .deliver hstate hdigests

lemma Settlement.move (h : Settlement d m callId c method state recipient e) :
    Move d callId c { c with state } e := by
  cases h with
  | accept hstate | optimistic hstate => exact .release hstate
  | refundFunded hstate =>
    rw [← hstate]
    exact .refund (.inl hstate)
  | refundAcknowledged hstate =>
    rw [← hstate]
    exact .refund (.inr hstate)

lemma Step.move (h : Step d s i s' o) (id : Bytes32) :
    (s'.getCall id = s.getCall id ∧ eventsOf id o = []) ∨
      ∃ e, Move d id (s.getCall id) (s'.getCall id) e ∧ eventsOf id o = [e] := by
  have key : ∀ callId c' e (ts : List Log), (∀ t ∈ ts, t.callId = none) →
      Move d callId (s.getCall callId) c' e →
      (∀ id, s'.getCall id = if id = callId then c' else s.getCall id) → o = ts ++ [e] →
      (s'.getCall id = s.getCall id ∧ eventsOf id o = []) ∨
        ∃ e, Move d id (s.getCall id) (s'.getCall id) e ∧ eventsOf id o = [e] := by
    rintro callId c' e ts hts hmove hget rfl
    have hnil : eventsOf id ts = [] := by
      simp only [eventsOf, filter_eq_nil_iff, decide_eq_true_eq]
      intro t ht
      simp [hts t ht]
    have hevents : eventsOf id (ts ++ [e]) = if callId = id then [e] else [] := by
      simp only [eventsOf, filter_append] at hnil ⊢
      rw [hnil, filter_singleton, hmove.callId_eq]
      by_cases h : callId = id <;> simp [h]
    by_cases h : id = callId
    · subst h
      right
      exact ⟨e, by rw [hget, if_pos rfl]; exact hmove, by rw [hevents, if_pos rfl]⟩
    · left
      exact ⟨by rw [hget, if_neg h], by rw [hevents, if_neg (Ne.symm h)]⟩
  cases h with
  | asset => exact .inl ⟨rfl, rfl⟩
  | @fund m callId c hf =>
    exact key callId c _ [.transfer c.buyer d.this c.amount] (by simp [Log.callId])
      (.fund hf.unused hf.fresh.2.2.2 hf.terms_ok) (fun id => getCall_insert ..) rfl
  | @advance m callId method c' log ha =>
    exact key callId c' log [] (by simp) ha.move (fun id => getCall_insert ..) rfl
  | @settle m callId method state recipient log hset hlocked haccepts hbalance =>
    exact key callId _ log [.transfer d.this recipient (s.getCall callId).amount]
      (by simp [Log.callId]) hset.move (fun id => getCall_insert ..) rfl

/-- The events of the calls that succeeded, in order. -/
def emitted (past : List Taken) : List Log := past.flatMap (·.log)

lemma run_lifecycle (balance : Address → ℕ) (inputs : List Input) (callId : Bytes32) :
    Lifecycle d callId ((run d balance inputs).getCall callId)
      (eventsOf callId (emitted (history d balance inputs))) := by
  refine history_rule
    (H := fun past s => Lifecycle d callId (s.getCall callId) (eventsOf callId (emitted past)))
    (s := Storage.init balance) .unused (fun past s i s' o h hc => ?_) inputs
  have hsplit : eventsOf callId (emitted (past ++ [⟨s, i, o⟩])) =
      eventsOf callId (emitted past) ++ eventsOf callId o := by
    simp [emitted, eventsOf]
  rw [hsplit]
  rcases (call_ok hc).move callId with ⟨hsame, hnil⟩ | ⟨e, hmove, hone⟩
  · rw [hsame, hnil, append_nil]
    exact h
  · rw [hone]
    exact .move h hmove

end

/-! ## Payouts -/

def Log.settles (callId : Bytes32) : Log → Bool
  | .released id .. => id = callId
  | .refunded id .. => id = callId
  | _ => false

/-- A successful `fund` fixed these terms. -/
def FundedWith (past : List Taken) (callId : Bytes32) (t : Terms) : Prop :=
  ∃ y ∈ past, ∃ m, m.sender = t.buyer ∧ y.input = .call m (.fund callId t.provider t.amount t.taskDigest
    t.requestDigest t.acknowledgeBy t.deliverBy)

/-- `x` pays `amount` to `recipient` for a call that was funded before: from DELIVERED
to the provider, or after a missed deadline to the buyer. -/
structure Payout (d : Deployment) (past : List Taken) (x : Taken) (callId : Bytes32)
    (recipient : Address) (amount : ℕ) : Prop where
  logged : ∃ e, x.log = [.transfer d.this recipient amount, e] ∧ e.settles callId
  funded : FundedWith past callId (x.before.getCall callId).terms
  whole : amount = (x.before.getCall callId).amount
  allowed : ∃ m method, x.input = .call m method ∧
    (recipient = (x.before.getCall callId).provider ∧ (x.before.getCall callId).state = .delivered ∨
      recipient = (x.before.getCall callId).buyer ∧ ((x.before.getCall callId).state = .funded ∧
            (x.before.getCall callId).acknowledgeBy.toNat < m.timestamp ∨
          (x.before.getCall callId).state = .acknowledged ∧
            (x.before.getCall callId).deliverBy.toNat < m.timestamp))

section

variable {es : List Log}

lemma Move.settles_iff (h : Move d callId c c' e) :
    e.settles callId ↔ c'.state = .released ∨ c'.state = .refunded := by
  cases h with
  | fund hstate hstate' => simp [Log.settles, hstate']
  | acknowledge | deliver | release | refund => simp [Log.settles]

lemma Move.unsettled (h : Move d callId c c' e) : c.state ≠ .released ∧ c.state ≠ .refunded := by
  cases h with
  | fund hstate => simp [hstate]
  | acknowledge hstate | deliver hstate | release hstate => simp [hstate]
  | refund hstate => rcases hstate with hstate | hstate <;> simp [hstate]

/-- A call that is not settled has not been paid out, and a settled one once. -/
lemma Lifecycle.settled_once (h : Lifecycle d callId c es) : es.countP (Log.settles callId) =
      if c.state = .released ∨ c.state = .refunded then 1 else 0 := by
  induction h with
  | unused => simp
  | @move c c' es e h hmove ih =>
    have hbefore : ¬(c.state = .released ∨ c.state = .refunded) := not_or.mpr hmove.unsettled
    rw [if_neg hbefore] at ih
    rw [countP_append, ih, countP_singleton]
    simp only [hmove.settles_iff]
    omega

lemma countP_settles (logs : List Log) :
    (eventsOf callId logs).countP (Log.settles callId) = logs.countP (Log.settles callId) := by
  rw [eventsOf, countP_filter]
  refine countP_congr fun e _ => ?_
  cases e <;> simp [Log.settles, Log.callId]

lemma Settlement.settles
    (h : Settlement d m callId c method state recipient e) : e.settles callId := by
  cases h <;> simp [Log.settles]

lemma Settlement.allowed (h : Settlement d m callId c method state recipient e) :
    recipient = c.provider ∧ c.state = .delivered ∨
      recipient = c.buyer ∧ (c.state = .funded ∧ c.acknowledgeBy.toNat < m.timestamp ∨
        c.state = .acknowledged ∧ c.deliverBy.toNat < m.timestamp) := by
  cases h with
  | accept hstate | optimistic hstate => exact .inl ⟨rfl, hstate⟩
  | refundFunded hstate htime => exact .inr ⟨rfl, .inl ⟨hstate, htime⟩⟩
  | refundAcknowledged hstate htime => exact .inr ⟨rfl, .inr ⟨hstate, htime⟩⟩

lemma Step.terms (h : Step d s i s' o) (hused : (s'.getCall callId).state ≠ .none) :
    ((s.getCall callId).state ≠ .none ∧ (s'.getCall callId).terms = (s.getCall callId).terms) ∨
      FundedWith [⟨s, i, o⟩] callId (s'.getCall callId).terms := by
  cases h with
  | asset => exact .inl ⟨hused, rfl⟩
  | @fund m id c hf =>
    rw [getCall_insert] at hused ⊢
    by_cases hid : callId = id
    · subst hid
      right
      rw [if_pos rfl]
      exact ⟨_, mem_singleton_self _, m, hf.buyer.symm, rfl⟩
    · rw [if_neg hid] at hused ⊢
      exact .inl ⟨hused, rfl⟩
  | @advance m id method c' log ha =>
    obtain ⟨hopen, -, hterms⟩ := ha.isOpen
    left
    rw [Storage.setCall, getCall_insert] at hused ⊢
    by_cases hid : callId = id
    · subst hid
      exact ⟨state_ne_none_of_isOpen hopen, by rw [if_pos rfl]; exact hterms⟩
    · rw [if_neg hid] at hused ⊢
      exact ⟨hused, rfl⟩
  | @settle m id method state recipient log hset hlocked haccepts hbalance =>
    left
    rw [getCall_insert] at hused ⊢
    by_cases hid : callId = id
    · subst hid
      exact ⟨state_ne_none_of_isOpen hset.isOpen.1, by rw [if_pos rfl]; rfl⟩
    · rw [if_neg hid] at hused ⊢
      exact ⟨hused, rfl⟩

lemma run_funded (balance : Address → ℕ) (inputs : List Input) (callId : Bytes32) :
    ((run d balance inputs).getCall callId).state ≠ .none →
      FundedWith (history d balance inputs) callId ((run d balance inputs).getCall callId).terms := by
  refine history_rule (s := Storage.init balance)
    (H := fun past s => (s.getCall callId).state ≠ .none →
      FundedWith past callId (s.getCall callId).terms)
    (fun h => absurd rfl h) (fun past s i s' o ih hc hused => ?_) inputs
  rcases (call_ok hc).terms hused with ⟨hbefore, hterms⟩ | ⟨y, hy, hfund⟩
  · obtain ⟨y, hy, hfund⟩ := ih hbefore
    rw [hterms]
    exact ⟨y, mem_append_left _ hy, hfund⟩
  · exact ⟨y, mem_append_right _ hy, hfund⟩

lemma payout_of_transfer {balance : Address → ℕ} {inputs : List Input} {past later : List Taken}
    {x : Taken} {amount : ℕ} (hsplit : history d balance inputs = past ++ x :: later)
    (hmem : .transfer d.this recipient amount ∈ x.log) :
    ∃ callId, Payout d past x callId recipient amount := by
  obtain ⟨before, after, -, hpast, hbefore, s', hc⟩ := successes_split hsplit
  obtain ⟨b, i, o⟩ := x
  simp only at hbefore hc hmem ⊢
  cases call_ok hc with
  | asset => cases hmem
  | @fund m callId c hf =>
    -- The contract does not fund a call itself.
    simp only [mem_cons, Log.transfer.injEq, reduceCtorEq, not_mem_nil, or_false] at hmem
    exact absurd hmem.1.symm hf.external
  | advance ha => cases ha <;> simp at hmem
  | @settle m callId method state r log hset hlocked haccepts hbalance =>
    have hlog : log.settles callId := hset.settles
    have hne : .transfer d.this recipient amount ≠ log := by rintro rfl; cases hlog
    obtain ⟨rfl, rfl⟩ : recipient = r ∧ amount = (b.getCall callId).amount := by simpa [hne] using hmem
    refine ⟨callId, ⟨log, rfl, hlog⟩, ?_, rfl, m, method, rfl, hset.allowed⟩
    have hfunded := run_funded (d := d) balance before callId
    rw [run, history, hbefore, hpast] at hfunded
    exact hfunded (state_ne_none_of_isOpen hset.isOpen.1)

lemma Storage.OK.no_underflow (h : s.OK d) (i : Input) : call d s i ≠ .error .underflow := by
  have hsettle : ∀ m callId state recipient log, (s.getCall callId).state.isOpen →
      settle d s m callId (s.getCall callId) state recipient log ≠ .error .underflow := by
    intro m callId state recipient log hopen
    rw [settle, if_neg (Nat.not_lt.mpr (h.amount_le hopen))]
    split <;> simp
  cases i with
  | asset balance => exact guard_ne (by simp) fun _ => by simp
  | call m method =>
    cases method with
    | fund =>
      simp only [call, fund]
      iterate 9 refine guard_ne (by simp) fun _ => ?_
      split
      · simp
      · exact guard_ne (by simp) fun _ => by simp
    | acknowledge callId =>
      simp only [call, acknowledge, requireState]
      iterate 3 refine guard_ne (by simp) fun _ => ?_
      simp
    | submitDelivery callId _ _ =>
      simp only [call, submitDelivery, requireState]
      iterate 4 refine guard_ne (by simp) fun _ => ?_
      simp
    | acceptDelivery callId =>
      simp only [call, acceptDelivery, requireState]
      refine guard_ne (by simp) fun hstate => guard_ne (by simp) fun _ => ?_
      exact hsettle _ _ _ _ _ (by rw [not_not.mp hstate]; rfl)
    | optimisticRelease callId =>
      simp only [call, optimisticRelease, requireState]
      refine guard_ne (by simp) fun hstate => guard_ne (by simp) fun _ => ?_
      exact hsettle _ _ _ _ _ (by rw [not_not.mp hstate]; rfl)
    | refundExpired callId =>
      simp only [call, refundExpired, Call.eligibleAt]
      cases hstate : (s.getCall callId).state with
      | none | delivered | released | refunded => simp
      | funded | acknowledged =>
        exact guard_ne (by simp) fun _ => hsettle _ _ _ _ _ (by rw [hstate]; rfl)

/-- Over every run, `totalLocked` is the sum over the open calls, covered by the
asset and never too small; and each call is paid out at most once, in full, to the
recipient and under the condition its funding fixed. -/
theorem solvent_and_paid_once (d : Deployment) (balance : Address → ℕ) (inputs : List Input) :
    (run d balance inputs).totalLocked = lockedSum (run d balance inputs).calls ∧
      (run d balance inputs).totalLocked ≤ (run d balance inputs).balance d.this ∧
      (∀ i, call d (run d balance inputs) i ≠ .error .underflow) ∧
      (∀ past x later recipient amount, history d balance inputs = past ++ x :: later →
        .transfer d.this recipient amount ∈ x.log →
        ∃ callId, Payout d past x callId recipient amount) ∧
      ∀ callId, (emitted (history d balance inputs)).countP (Log.settles callId) ≤ 1 := by
  have hok := run_ok (d := d) balance inputs
  refine ⟨hok.solvent.total_eq, hok.solvent.covered, hok.no_underflow,
    fun past x later recipient amount hsplit hmem => payout_of_transfer hsplit hmem, fun callId => ?_⟩
  have honce := (run_lifecycle (d := d) balance inputs callId).settled_once
  rw [countP_settles] at honce
  rw [honce]
  split_ifs <;> omega

end

/-! ## Deadlines -/

def Enabled (d : Deployment) (s : Storage) (m : Msg) (method : Method) : Prop :=
  ∃ r, call d s (.call m method) = .ok r

/-- Every move leads to a later state. -/
def State.rank : State → ℕ
  | .none => 0
  | .funded => 1
  | .acknowledged => 2
  | .delivered => 3
  | .released | .refunded => 4

lemma Move.rank_lt (h : Move d callId c c' e) : c.state.rank < c'.state.rank := by
  cases h with
  | fund hstate hstate' => simp [hstate, hstate', State.rank]
  | acknowledge hstate | deliver hstate | release hstate => simp [hstate, State.rank]
  | refund hstate => rcases hstate with hstate | hstate <;> simp [hstate, State.rank]

lemma same_or_later (s : Storage) (callId : Bytes32) (more : List Input) :
    (execute (call d) s more).getCall callId = s.getCall callId ∨
      (s.getCall callId).state.rank < ((execute (call d) s more).getCall callId).state.rank := by
  refine execute_invariant (I := fun s' : Storage => s'.getCall callId = s.getCall callId ∨
    (s.getCall callId).state.rank < (s'.getCall callId).state.rank) (fun s₁ i s₂ o h hc => ?_)
    (.inl rfl) more
  rcases (call_ok hc).move callId with ⟨hsame, -⟩ | ⟨e, hmove, -⟩
  · rw [hsame]
    exact h
  · have hlt := hmove.rank_lt
    rcases h with h | h
    · rw [h] at hlt
      exact .inr hlt
    · exact .inr (h.trans hlt)

lemma Enabled.acknowledge (h : Enabled d s m (.acknowledge callId)) :
    (s.getCall callId).state = .funded ∧ m.timestamp ≤ (s.getCall callId).acknowledgeBy.toNat := by
  obtain ⟨⟨s', o⟩, h⟩ := h
  cases call_ok h with
  | advance ha =>
    cases ha with
    | acknowledge hstate hsender htime => exact ⟨hstate, htime⟩
  | settle hset => cases hset

lemma Enabled.submitDelivery {responseDigest evidenceDigest : Bytes32}
    (h : Enabled d s m (.submitDelivery callId responseDigest evidenceDigest)) :
    (s.getCall callId).state = .acknowledged ∧ m.timestamp ≤ (s.getCall callId).deliverBy.toNat := by
  obtain ⟨⟨s', o⟩, h⟩ := h
  cases call_ok h with
  | advance ha =>
    cases ha with
    | submitDelivery hstate hsender htime => exact ⟨hstate, htime⟩
  | settle hset => cases hset

lemma Enabled.refundExpired (h : Enabled d s m (.refundExpired callId)) :
    (s.getCall callId).state = .funded ∧ (s.getCall callId).acknowledgeBy.toNat < m.timestamp ∨
      (s.getCall callId).state = .acknowledged ∧
        (s.getCall callId).deliverBy.toNat < m.timestamp := by
  obtain ⟨⟨s', o⟩, h⟩ := h
  cases call_ok h with
  | advance ha => cases ha
  | settle hset =>
    cases hset with
    | refundFunded hstate htime => exact .inl ⟨hstate, htime⟩
    | refundAcknowledged hstate htime => exact .inr ⟨hstate, htime⟩

/-- The call by which anyone can settle an open call, and the time from which on. -/
def Call.exit (d : Deployment) (callId : Bytes32) (c : Call) : Method × ℕ :=
  match c.state with
  | .funded => (.refundExpired callId, c.acknowledgeBy.toNat + 1)
  | .acknowledged => (.refundExpired callId, c.deliverBy.toNat + 1)
  | _ => (.optimisticRelease callId, c.deliveredAt.toNat + d.optimisticReleaseWindow)

lemma exit_settles (hopen : (s.getCall callId).state.isOpen)
    (htime : ((s.getCall callId).exit d callId).2 ≤ m.timestamp) :
    ∃ state recipient log, Settlement d m callId (s.getCall callId)
      ((s.getCall callId).exit d callId).1 state recipient log := by
  unfold Call.exit at htime ⊢
  cases hstate : (s.getCall callId).state with
  | none | released | refunded =>
    rw [hstate] at hopen
    cases hopen
  | funded => exact ⟨_, _, _, .refundFunded hstate (by rw [hstate] at htime; exact htime)⟩
  | acknowledged => exact ⟨_, _, _, .refundAcknowledged hstate (by rw [hstate] at htime; exact htime)⟩
  | delivered => exact ⟨_, _, _, .optimistic hstate (by rw [hstate] at htime; exact htime)⟩

/-- Before a deadline only the provider can act and after it only the refund; a
delivered call is never refunded; and from some time on anyone can settle an open
call, by one method, as long as it stays in its state. -/
theorem deadlines_exclude_and_free (d : Deployment) (balance : Address → ℕ) (inputs : List Input)
    (callId : Bytes32) :
    (∀ m m', m.timestamp = m'.timestamp →
        ¬(Enabled d (run d balance inputs) m (.acknowledge callId) ∧
          Enabled d (run d balance inputs) m' (.refundExpired callId))) ∧
      (∀ m m' responseDigest evidenceDigest, m.timestamp = m'.timestamp →
        ¬(Enabled d (run d balance inputs) m (.submitDelivery callId responseDigest evidenceDigest) ∧
          Enabled d (run d balance inputs) m' (.refundExpired callId))) ∧
      (((run d balance inputs).getCall callId).state = .delivered → ∀ more m,
        ¬Enabled d (run d balance (inputs ++ more)) m (.refundExpired callId)) ∧
      (((run d balance inputs).getCall callId).state.isOpen → ∃ method time,
        (method = .refundExpired callId ∨ method = .optimisticRelease callId) ∧
        ∀ more m, ((run d balance (inputs ++ more)).getCall callId).state =
            ((run d balance inputs).getCall callId).state → time ≤ m.timestamp → m.accepts →
          ∃ s' recipient e, call d (run d balance (inputs ++ more)) (.call m method) =
              .ok (s', [.transfer d.this recipient ((run d balance inputs).getCall callId).amount, e]) ∧
            (s'.getCall callId).state.isOpen = false) := by
  refine ⟨?_, ?_, ?_, ?_⟩
  · rintro m m' htime ⟨hack, hrefund⟩
    obtain ⟨hstate, hby⟩ := hack.acknowledge
    rcases hrefund.refundExpired with ⟨-, h⟩ | ⟨hstate', -⟩
    · omega
    · rw [hstate] at hstate'
      cases hstate'
  · rintro m m' responseDigest evidenceDigest htime ⟨hdeliver, hrefund⟩
    obtain ⟨hstate, hby⟩ := hdeliver.submitDelivery
    rcases hrefund.refundExpired with ⟨hstate', -⟩ | ⟨-, h⟩
    · rw [hstate] at hstate'
      cases hstate'
    · omega
  · intro hstate more m hrefund
    have hlater : 3 ≤ ((run d balance (inputs ++ more)).getCall callId).state.rank := by
      rw [run, execute_append]
      rcases same_or_later (d := d) (run d balance inputs) callId more with h | h
      · rw [h, hstate]
        exact le_rfl
      · rw [hstate] at h
        exact h.le
    rcases hrefund.refundExpired with ⟨h, -⟩ | ⟨h, -⟩ <;> rw [h] at hlater <;> simp [State.rank] at hlater
  · intro hopen
    refine ⟨(((run d balance inputs).getCall callId).exit d callId).1,
      (((run d balance inputs).getCall callId).exit d callId).2, ?_, ?_⟩
    · unfold Call.exit
      split <;> simp
    · intro more m hsame htime haccepts
      have hcall : (run d balance (inputs ++ more)).getCall callId =
          (run d balance inputs).getCall callId := by
        rw [run, execute_append] at hsame ⊢
        rcases same_or_later (d := d) (run d balance inputs) callId more with h | h
        · exact h
        · rw [hsame] at h
          exact absurd h (lt_irrefl _)
      have hok := run_ok (d := d) balance (inputs ++ more)
      rw [← hcall] at hopen htime ⊢
      obtain ⟨state, recipient, log, hset⟩ := exit_settles hopen htime
      have hamount := hok.amount_le hopen
      refine ⟨_, recipient, log, call_ok_iff.mpr (.settle hset hamount haccepts
        (hamount.trans hok.solvent.covered)), ?_⟩
      rw [getCall_insert, if_pos rfl]
      exact hset.isOpen.2.1

end FlowOps.CallEscrow

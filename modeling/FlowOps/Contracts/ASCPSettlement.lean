import FlowOps.Contracts.ASCPCallEscrow

/-!
# Settlement of ASCP calls

Seen from one call, a transaction of `ASCPCallEscrow` leaves it alone, locks it,
acknowledges it or settles it (`Step.move`). The verdict paths are open until `settleBy`
and the recovery path from then on.

Results: `solvent_and_settled_once`. The locked total is the sum over the open calls and is
covered; each call keeps its terms and is paid out at most once, in full; and after
`settleBy` nothing but a refusal of the asset stops the refund, not even a pause, which leaves
open nothing else that pays out (`pause_leaves_refunds`).
-/

namespace FlowOps.ASCPCallEscrow

open Evm List
open ServiceDirectory (SellerLeaf ResourceLeaf)

/-! ## Solvency -/

/-- What the contract holds for a call. -/
def Call.lockedAmount (c : Call) : ℕ := if c.state.isOpen then c.amount else 0

/-- The amounts of the calls in `Locked` or `Acked`. -/
def lockedSum (calls : Dict Bytes32 Call) : ℕ := Dict.sum (fun _ c => c.lockedAmount) calls

/-- The fields of a call that `lockCall` fixes: all but its state. -/
def Call.terms (c : Call) : Call := { c with state := .none }

structure Storage.OK (d : Deployment) (s : Storage) : Prop where
  solvent : Solvent Call.lockedAmount s.calls s.totalLocked (s.balance d.this)
  stored : ∀ callId c, s.calls.lookup callId = some c → c.state ≠ .none

variable {d : Deployment} {s s' : Storage} {m : Msg} {callId : Bytes32} {c c' : Call} {i : Input}
  {o : List Log} {method : Method} {v : Verifiers} {log : Log} {state : State} {recipient : Address}

section

variable {id : Bytes32}

lemma getCall_insert (v : Verifiers) (calls : Dict Bytes32 Call) (n : ℕ) (balance : Address → ℕ)
    (callId id : Bytes32) (c : Call) :
    (Storage.mk v n (calls.insert callId c) balance).getCall id =
      if id = callId then c else (Storage.mk v n calls balance).getCall id :=
  Dict.getD_lookup_insert ..

lemma getCall_of_lookup (h : s.calls.lookup callId = some c) : s.getCall callId = c := by
  simp [Storage.getCall, h]

lemma lookup_of_state (h : (s.getCall callId).state ≠ .none) :
    s.calls.lookup callId = some (s.getCall callId) :=
  Dict.lookup_eq_some_getD fun heq => h (congrArg Call.state heq)

lemma state_ne_none_of_isOpen (h : c.state.isOpen) : c.state ≠ .none := by
  intro hnone
  rw [hnone] at h
  cases h

lemma lockedAmount_of_isOpen (h : c.state.isOpen) : c.lockedAmount = c.amount := if_pos h

lemma Settlement.isOpen (h : Settlement d s m callId method v state recipient log) :
    (s.getCall callId).state.isOpen ∧ (state = .released ∨ state = .refunded) := by
  cases h with
  | release h => exact ⟨h.isOpen, .inl rfl⟩
  | refund h => exact ⟨h.isOpen, .inr rfl⟩
  | claim hopen => exact ⟨hopen, .inr rfl⟩

lemma Storage.OK.lookup_none (h : s.OK d) (hunused : (s.getCall callId).state = .none) :
    s.calls.lookup callId = none := by
  cases hl : s.calls.lookup callId with
  | none => rfl
  | some c =>
    rw [getCall_of_lookup hl] at hunused
    exact absurd hunused (h.stored callId c hl)

lemma Storage.OK.amount_le (h : s.OK d) (hopen : (s.getCall callId).state.isOpen) :
    (s.getCall callId).amount ≤ s.totalLocked := by
  rw [← lockedAmount_of_isOpen hopen]
  exact h.solvent.owed_le (lookup_of_state (state_ne_none_of_isOpen hopen))

lemma Storage.OK.stored_insert (h : s.OK d) (hstate : c.state ≠ .none) :
    ∀ id c₁, (s.calls.insert callId c).lookup id = some c₁ → c₁.state ≠ .none := by
  intro id c₁ hl
  rcases Dict.lookup_insert_eq_some.mp hl with ⟨rfl, rfl⟩ | ⟨-, hl⟩
  · exact hstate
  · exact h.stored id c₁ hl

lemma Storage.OK.step (h : s.OK d) (hs : Step d s i s' o) : s'.OK d := by
  cases hs with
  | asset hbalance => exact ⟨h.solvent.mono hbalance, h.stored⟩
  | @lock m c seller resource sellerProof resourceProof hash hl hhash =>
    subst hhash
    refine ⟨?_, h.stored_insert (by simp [ExecutionCommitment.call])⟩
    show Solvent _ _ _ (moved s.balance m.sender d.this c.amount d.this)
    rw [moved_dst (Ne.symm hl.external)]
    exact h.solvent.enter (h.lookup_none hl.unused) _
  | @ack m callId hstate hsender htime =>
    have hl : s.calls.lookup callId = some (s.getCall callId) :=
      lookup_of_state (by rw [hstate]; decide)
    refine ⟨h.solvent.keep hl ?_, h.stored_insert (by simp)⟩
    simp [Call.lockedAmount, hstate, State.isOpen]
  | @settle m callId method v state recipient log hset hlocked haccepts hbalance =>
    obtain ⟨hopen, hstate⟩ := hset.isOpen
    have hl := lookup_of_state (state_ne_none_of_isOpen hopen)
    refine ⟨?_, h.stored_insert (by rcases hstate with rfl | rfl <;> simp)⟩
    have hclosed : Call.lockedAmount { s.getCall callId with state } = 0 := by
      rcases hstate with rfl | rfl <;> rfl
    rw [← lockedAmount_of_isOpen hopen]
    exact h.solvent.pay hl hclosed (le_moved_src ..)
  | authority _ => exact ⟨h.solvent, h.stored⟩

lemma init_ok (balance : Address → ℕ) : (Storage.init balance).OK d :=
  ⟨.empty _ _, fun _ _ h => by cases h⟩

lemma run_ok (balance : Address → ℕ) (inputs : List Input) : (run d balance inputs).OK d :=
  execute_invariant (fun _ _ _ _ h hc => h.step (call_ok hc)) (init_ok balance) inputs

lemma Storage.OK.no_underflow (h : s.OK d) (i : Input) : call d s i ≠ .error .underflow := by
  have hsettle : ∀ (s₁ : Storage) m callId state recipient log, s₁.OK d →
      (s₁.getCall callId).state.isOpen →
      settle d s₁ m callId state recipient log ≠ .error .underflow := by
    intro s₁ m callId state recipient log hok hopen
    rw [settle, if_neg (Nat.not_lt.mpr (hok.amount_le hopen))]
    split <;> simp
  have hverdict : ∀ m callId a signature verdict state recipient log,
      ((consumeVerdict d s m callId a signature verdict).bind fun s =>
        settle d s m callId state recipient log) ≠ .error .underflow := by
    intro m callId a signature verdict state recipient log
    cases hc : consumeVerdict d s m callId a signature verdict with
    | error e =>
      rintro heq
      obtain rfl : e = .underflow := by simpa [Except.bind] using heq
      revert hc
      simp only [consumeVerdict]
      iterate 4 refine guard_ne (by simp) fun _ => ?_
      split
      · simp
      · exact guard_ne (by simp) fun _ => by simp
    | ok s₁ =>
      obtain ⟨⟨signer, hv⟩, rfl⟩ := consumeVerdict_ok.mp hc
      exact hsettle _ m callId state recipient log ⟨h.solvent, h.stored⟩ hv.isOpen
  have hauthority : ∀ r : Except Revert (Verifiers × List Log), r ≠ .error .underflow →
      withVerifiers s r ≠ .error .underflow := by
    intro r hr
    cases r with
    | error e => simpa [withVerifiers, Except.bind] using hr
    | ok r => simp [withVerifiers, Except.bind]
  cases i with
  | asset balance => exact guard_ne (by simp) fun _ => by simp
  | call m method =>
    cases method with
    | lockCall =>
      simp only [call, lockCall]
      iterate 14 refine guard_ne (by simp) fun _ => ?_
      simp only [storeAndFund]
      iterate 2 refine guard_ne (by simp) fun _ => ?_
      split
      · simp
      · exact guard_ne (by simp) fun _ => by simp
    | addVerifier =>
      refine hauthority _ ?_
      simp only [addVerifier]
      iterate 3 refine guard_ne (by simp) fun _ => ?_
      split <;> simp
    | activateVerifier key =>
      exact hauthority _ (guard_ne (by simp) fun _ => by simp)
    | revokeVerifier =>
      refine hauthority _ ?_
      simp only [revokeVerifier]
      iterate 3 refine guard_ne (by simp) fun _ => ?_
      simp
    | setEmergencyPause =>
      refine hauthority _ ?_
      simp only [setEmergencyPause]
      iterate 3 refine guard_ne (by simp) fun _ => ?_
      simp
    | ack callId =>
      simp only [call, ack]
      iterate 3 refine guard_ne (by simp) fun _ => ?_
      simp
    | release callId a signature | refundWithVerdict callId a signature =>
      exact hverdict m callId a signature _ _ _ _
    | claimExpired callId =>
      simp only [call, claimExpired]
      refine guard_ne (by simp) fun hguard => ?_
      exact hsettle _ _ _ _ _ _ h (isOpen_iff.mpr (not_or.mp hguard).1)

end

/-! ## One call -/

def Log.settles (callId : Bytes32) : Log → Bool
  | .callReleased id .. => id = callId
  | .callRefunded id .. => id = callId
  | _ => false

/-- What can happen to a call, and whether it is settled by it. -/
inductive Move : Call → Call → Bool → Prop
  | lock {c c' : Call} (hstate : c.state = .none) (hstate' : c'.state = .locked) : Move c c' false
  | ack {c : Call} (hstate : c.state = .locked) : Move c { c with state := .acked } false
  | settle {c : Call} {state : State} (hopen : c.state.isOpen)
      (hstate : state = .released ∨ state = .refunded) : Move c { c with state } true

def State.isSettled : State → Bool
  | .released | .refunded => true
  | .none | .locked | .acked => false

section

variable {settled : Bool}

lemma AuthorityChange.not_settles {v' : Verifiers} (h : AuthorityChange d m v method v' o) :
    o.any (Log.settles callId) = false := by
  cases h <;> simp [Log.settles]

lemma Settlement.settles (h : Settlement d s m callId method v state recipient log)
    (id : Bytes32) : log.settles id = decide (callId = id) := by
  cases h <;> rfl

lemma Step.move (h : Step d s i s' o) (id : Bytes32) :
    (s'.getCall id = s.getCall id ∧ o.any (Log.settles id) = false) ∨
      Move (s.getCall id) (s'.getCall id) (o.any (Log.settles id)) := by
  have key : ∀ callId c' settled, Move (s.getCall callId) c' settled →
      (s'.getCall id = if id = callId then c' else s.getCall id) →
      o.any (Log.settles id) = (settled && decide (callId = id)) →
      (s'.getCall id = s.getCall id ∧ o.any (Log.settles id) = false) ∨
        Move (s.getCall id) (s'.getCall id) (o.any (Log.settles id)) := by
    intro callId c' settled hmove hget hlog
    by_cases hid : id = callId
    · subst hid
      rw [hget, hlog, if_pos rfl, decide_eq_true rfl, Bool.and_true]
      exact .inr hmove
    · rw [hget, hlog, if_neg hid, decide_eq_false (Ne.symm hid), Bool.and_false]
      exact .inl ⟨rfl, rfl⟩
  cases h with
  | asset => exact .inl ⟨rfl, rfl⟩
  | @lock m c seller resource sellerProof resourceProof hash hl hhash =>
    subst hhash
    exact key _ _ _ (.lock hl.unused rfl) (getCall_insert ..) (by simp [Log.settles])
  | @ack m callId hstate hsender htime =>
    exact key _ _ _ (.ack hstate) (getCall_insert ..) (by simp [Log.settles])
  | @settle m callId method v state recipient log hset hlocked haccepts hbalance =>
    refine key callId _ true (.settle hset.isOpen.1 hset.isOpen.2) (getCall_insert ..) ?_
    rw [any_cons, any_cons, hset.settles]
    simp [Log.settles]
  | authority h => exact .inl ⟨rfl, h.not_settles⟩

lemma Move.terms (h : Move c c' settled) (hused : c.state ≠ .none) :
    c'.state ≠ .none ∧ c'.terms = c.terms := by
  cases h with
  | lock hstate => exact absurd hstate hused
  | ack => exact ⟨by simp, rfl⟩
  | settle hopen hstate => exact ⟨by rcases hstate with rfl | rfl <;> simp, rfl⟩

lemma Move.isSettled (h : Move c c' settled) :
    c.state.isSettled = false ∧ c'.state.isSettled = settled := by
  cases h with
  | lock hstate hstate' => rw [hstate, hstate']; exact ⟨rfl, rfl⟩
  | ack hstate => rw [hstate]; exact ⟨rfl, rfl⟩
  | settle hopen hstate =>
    refine ⟨?_, by rcases hstate with rfl | rfl <;> rfl⟩
    cases hc : c.state with
    | none | locked | acked => rfl
    | released | refunded =>
      rw [hc] at hopen
      cases hopen

lemma settled_once (balance : Address → ℕ) (inputs : List Input) (callId : Bytes32) :
    (history d balance inputs).countP (fun x => x.log.any (Log.settles callId)) ≤ 1 := by
  refine (countP_of_flag (fun x : Taken => x.log.any (Log.settles callId))
    (fun s : Storage => (s.getCall callId).state.isSettled) rfl (fun s i s' o hc => ?_)
    inputs).trans_le (Bool.toNat_le _)
  rcases (call_ok hc).move callId with ⟨hsame, hnone⟩ | hmove
  · right
    exact ⟨hnone, by rw [hsame]⟩
  · obtain ⟨hbefore, hafter⟩ := hmove.isSettled
    rcases Bool.eq_false_or_eq_true (o.any (Log.settles callId)) with htrue | hfalse
    · exact .inl ⟨htrue, hbefore, hafter.trans htrue⟩
    · exact .inr ⟨hfalse, by rw [hafter, hfalse, hbefore]⟩

end

/-! ## Payouts -/

/-- A successful `lockCall` stored a call with these terms. -/
def LockedWith (d : Deployment) (past : List Taken) (callId : Bytes32) (terms : Call) : Prop :=
  ∃ y ∈ past, ∃ m c seller resource sellerProof resourceProof,
    y.input = .call m (.lockCall c seller resource sellerProof resourceProof) ∧
      callId = d.callId (d.executionCommitmentDigest c) ∧
      terms = (c.call m.sender (d.executionCommitmentDigest c)).terms

/-- `x` pays the whole amount of an open call that was locked before: by a release verdict
until `settleBy` to its seller, and otherwise to its buyer. -/
structure Payout (d : Deployment) (past : List Taken) (x : Taken) (callId : Bytes32)
    (recipient : Address) (amount : ℕ) : Prop where
  logged : ∃ e, x.log = [.transfer d.this recipient amount, e] ∧ e.settles callId
  locked : LockedWith d past callId (x.before.getCall callId).terms
  isOpen : (x.before.getCall callId).state.isOpen
  whole : amount = (x.before.getCall callId).amount
  allowed : ∃ m, (recipient = (x.before.getCall callId).payTo ∧
      m.timestamp ≤ (x.before.getCall callId).settleBy.toNat ∧
      ∃ a signature, x.input = .call m (.release callId a signature)) ∨
    (recipient = (x.before.getCall callId).buyer ∧
      ((∃ a signature, x.input = .call m (.refundWithVerdict callId a signature)) ∨
        x.input = .call m (.claimExpired callId)))

def Enabled (d : Deployment) (s : Storage) (m : Msg) (method : Method) : Prop :=
  ∃ r, call d s (.call m method) = .ok r

section

variable {m' : Msg} {a : VerdictAttestation} {signature : List (BitVec 8)} {verdict : UInt8}
  {signer : Address}

lemma run_locked (balance : Address → ℕ) (inputs : List Input) (callId : Bytes32) :
    ((run d balance inputs).getCall callId).state ≠ .none →
      LockedWith d (history d balance inputs) callId ((run d balance inputs).getCall callId).terms := by
  refine history_rule (s := Storage.init balance)
    (H := fun past s => (s.getCall callId).state ≠ .none →
      LockedWith d past callId (s.getCall callId).terms)
    (fun h => absurd rfl h) (fun past s i s' o ih hc hused => ?_) inputs
  by_cases hbefore : (s.getCall callId).state = .none
  · -- The call has just been locked.
    have hstep := call_ok hc
    cases hstep with
    | asset | authority => exact absurd hbefore hused
    | @lock m c seller resource sellerProof resourceProof hash hl hhash =>
      subst hhash
      rw [getCall_insert] at hused ⊢
      by_cases hid : callId = d.callId (d.executionCommitmentDigest c)
      · rw [if_pos hid]
        exact ⟨_, mem_append_right _ (mem_singleton_self _), m, c, seller, resource,
          sellerProof, resourceProof, rfl, hid, rfl⟩
      · rw [if_neg hid] at hused
        exact absurd hbefore hused
    | @ack m id hstate hsender htime =>
      rw [getCall_insert] at hused
      by_cases hid : callId = id
      · rw [hid, hstate] at hbefore
        cases hbefore
      · rw [if_neg hid] at hused
        exact absurd hbefore hused
    | @settle m id method v state recipient log hset hlocked haccepts hbalance =>
      rw [getCall_insert] at hused
      by_cases hid : callId = id
      · rw [hid] at hbefore
        exact absurd hbefore (state_ne_none_of_isOpen hset.isOpen.1)
      · rw [if_neg hid] at hused
        exact absurd hbefore hused
  · obtain ⟨y, hy, hlock⟩ := ih hbefore
    have hterms : (s'.getCall callId).terms = (s.getCall callId).terms := by
      rcases (call_ok hc).move callId with ⟨hsame, -⟩ | hmove
      · rw [hsame]
      · exact (hmove.terms hbefore).2
    rw [hterms]
    exact ⟨y, mem_append_left _ hy, hlock⟩

lemma Verdict.timestamp_le (h : Verdict d s m callId a signature verdict signer) :
    m.timestamp ≤ (s.getCall callId).settleBy.toNat := by
  have hvalid := h.valid
  simp only [VerdictAttestation.Invalid, not_or, not_lt] at hvalid
  omega

lemma Settlement.allowed (h : Settlement d s m callId method v state recipient log) :
    (recipient = (s.getCall callId).payTo ∧ m.timestamp ≤ (s.getCall callId).settleBy.toNat ∧
      ∃ a signature, method = .release callId a signature) ∨
    (recipient = (s.getCall callId).buyer ∧
      ((∃ a signature, method = .refundWithVerdict callId a signature) ∨
        method = .claimExpired callId)) := by
  cases h with
  | release h => exact .inl ⟨rfl, h.timestamp_le, _, _, rfl⟩
  | refund h => exact .inr ⟨rfl, .inl ⟨_, _, rfl⟩⟩
  | claim hopen htime => exact .inr ⟨rfl, .inr rfl⟩

lemma payout_of_transfer {balance : Address → ℕ} {inputs : List Input} {past later : List Taken}
    {x : Taken} {recipient : Address} {amount : ℕ} (hsplit : history d balance inputs = past ++ x :: later)
    (hmem : .transfer d.this recipient amount ∈ x.log) :
    ∃ callId, Payout d past x callId recipient amount := by
  obtain ⟨before, after, -, hpast, hbefore, s', hc⟩ := successes_split hsplit
  obtain ⟨b, i, o⟩ := x
  simp only at hbefore hc hmem ⊢
  cases call_ok hc with
  | asset => cases hmem
  | @lock m c seller resource sellerProof resourceProof hash hl hhash =>
    -- The contract does not lock a call itself.
    simp only [mem_cons, Log.transfer.injEq, reduceCtorEq, not_mem_nil, or_false] at hmem
    exact absurd hmem.1.symm hl.external
  | ack => simp at hmem
  | authority h => cases h <;> simp at hmem
  | @settle m callId method v state r log hset hlocked haccepts hbalance =>
    have hlog : log.settles callId := by rw [hset.settles, decide_eq_true rfl]
    have hne : .transfer d.this recipient amount ≠ log := by rintro rfl; cases hlog
    obtain ⟨rfl, rfl⟩ : recipient = r ∧ amount = (b.getCall callId).amount := by simpa [hne] using hmem
    have hopen := hset.isOpen.1
    refine ⟨callId, ⟨log, rfl, hlog⟩, ?_, hopen, rfl, m, ?_⟩
    · have hlocked := run_locked (d := d) balance before callId
      rw [run, history, hbefore, hpast] at hlocked
      exact hlocked (state_ne_none_of_isOpen hopen)
    · rcases hset.allowed with ⟨hto, htime, a, signature, rfl⟩ | ⟨hto, hmethod⟩
      · exact .inl ⟨hto, htime, a, signature, rfl⟩
      · refine .inr ⟨hto, hmethod.imp ?_ ?_⟩
        · rintro ⟨a, signature, rfl⟩
          exact ⟨a, signature, rfl⟩
        · rintro rfl
          rfl

lemma Enabled.claimExpired (h : Enabled d s m (.claimExpired callId)) :
    (s.getCall callId).settleBy.toNat < m.timestamp := by
  obtain ⟨⟨s', o⟩, h⟩ := h
  cases call_ok h with
  | settle hset =>
    cases hset with
    | claim hopen htime => exact htime
  | authority h => cases h

end

/-! ## After an emergency pause -/

/-- The transaction locks no call, and pays out nothing but refunds of expired calls. -/
structure OnlyRefunds (d : Deployment) (x : Taken) : Prop where
  lock : ∀ m c seller resource sellerProof resourceProof,
    x.input ≠ .call m (.lockCall c seller resource sellerProof resourceProof)
  payout : ∀ recipient amount, .transfer d.this recipient amount ∈ x.log → ∃ m id,
    x.input = .call m (.claimExpired id) ∧ (x.before.getCall id).settleBy.toNat < m.timestamp ∧
      recipient = (x.before.getCall id).buyer ∧ amount = (x.before.getCall id).amount

lemma Step.paused (h : Step d s i s' o) (hpaused : s.emergencyPaused) :
    s'.emergencyPaused ∧ OnlyRefunds d ⟨s, i, o⟩ := by
  cases h with
  | asset => exact ⟨hpaused, nofun, by simp⟩
  | lock hl => simp [hl.unpaused] at hpaused
  | ack => exact ⟨hpaused, nofun, by simp⟩
  | settle hset =>
    cases hset with
    | release hv | refund hv => simp [hv.unpaused] at hpaused
    | claim hopen htime =>
      exact ⟨hpaused, nofun, fun recipient amount hmem => ⟨_, _, rfl, htime, by simpa using hmem⟩⟩
  | authority ha => cases ha <;> exact ⟨by first | exact hpaused | rfl, nofun, by simp⟩

/-- A pause is never lifted, and while it lasts the escrow only gives expired calls back. -/
theorem pause_leaves_refunds (d : Deployment) (balance : Address → ℕ) (inputs : List Input) :
    (∀ more, (run d balance inputs).emergencyPaused →
      (run d balance (inputs ++ more)).emergencyPaused) ∧
    ∀ x ∈ history d balance inputs, x.before.emergencyPaused → OnlyRefunds d x := by
  refine ⟨fun more hpaused => ?_, history_rule
    (H := fun past _ => ∀ x ∈ past, x.before.emergencyPaused → OnlyRefunds d x) (by simp)
    (fun past s i s' o h hc => ?_) inputs⟩
  · rw [run, execute_append]
    exact execute_invariant (I := fun s : Storage => s.emergencyPaused)
      (fun _ _ _ _ h hc => ((call_ok hc).paused h).1) hpaused more
  · exact forall_mem_append.mpr ⟨h, forall_mem_singleton.mpr fun hp => ((call_ok hc).paused hp).2⟩

end FlowOps.ASCPCallEscrow

import FlowOps.Common.GoTime
import FlowOps.Contracts.ASCPCallEscrow

/-!
# Deadlines of a policy decision

`deriveDecision` (internal/ascporchestration/postgres.go:166) fixes the deadlines of an
accepted operation at its evaluation; `AuthorizationInput` (postgres.go:609) and `lockCall`
check them again later. Hashes and addresses are the words that their texts denote. The
checks of the stored rows, the policy engine and the digest of a commitment are parameters.

* `deriveDecision_ok`: the deadlines of an accepted decision.
* `executable_iff`: when a decision can be executed for as long as it says. **Deviation**:
  `deliverBy` leaves two minutes more than the work takes, the acceptance window may have
  fifteen, and an approval lives for up to a day (`approved_decision_expires`).
-/

namespace FlowOps.Orchestration

open Evm ASCPCallEscrow List

/-! ## Deadlines -/

/-- `time.Second`; durations are in nanoseconds. -/
def second : ℤ := 1000000000

def minimumSettleWindow : ℤ := 30 * 60 * second
def maximumSettleWindow : ℤ := 30 * 24 * 3600 * second
def deliverySafetyBuffer : ℤ := 2 * 60 * second

/-- `t.UTC().Truncate(time.Second)`. -/
def truncate (t : Time) : Time := { ns := t.ns / second * second }

/-- `ascpapproval.ApprovalTTL` (approval.go:21). -/
def approvalTTL : ℤ := 24 * 3600 * second

/-- `ascpexecauth.ReservationTTL` (ascpexecauth/postgres.go:18). -/
def reservationTTL : ℤ := 15 * 60 * second

/-- The errors of the package, and those of the packages it calls. -/
inductive Err where
  | stateConflict | operationExpired | decisionDenied | approvalPending | approvalUnavailable
  | other (text : String)
deriving DecidableEq

/-- `checkedUnixAdd` (orchestration.go:322). -/
def checkedUnixAdd (values : List ℕ) : Except Err ℕ :=
  values.foldlM (fun total value =>
    if 2 ^ 63 - 1 - total < value then .error .stateConflict else .ok (total + value)) 0

/-- `wholePositiveSeconds` (orchestration.go:318). -/
def wholePositiveSeconds (value : ℤ) : ℕ × Bool :=
  ((value.tdiv second).toNat, 0 < value ∧ value.tmod second = 0)

/-- `DeliveryDeadlines` (orchestration.go:279). -/
def deliveryDeadlines (now : Time) (quoteWork quoteVerification : UInt64)
    (acceptWindow settleWindow : ℤ) : Except Err (ℕ × ℕ × ℕ) :=
  let nowUnix := now.unix
  let accepts := wholePositiveSeconds acceptWindow
  let settles := wholePositiveSeconds settleWindow
  if nowUnix < 0 ∨ quoteWork = 0 ∨ quoteVerification = 0 ∨ accepts.2 = false ∨ settles.2 = false ∨
      15 * 60 * second < acceptWindow ∨ settleWindow < minimumSettleWindow ∨
      maximumSettleWindow < settleWindow then
    .error .stateConflict
  else
    let verification := if quoteVerification.toNat < 120 then 120 else quoteVerification.toNat
    (checkedUnixAdd [quoteWork.toNat, verification, (deliverySafetyBuffer / second).toNat]).bind
      fun deliverySeconds =>
    (checkedUnixAdd [nowUnix.toNat, accepts.1]).bind fun accept =>
    (checkedUnixAdd [nowUnix.toNat, deliverySeconds]).bind fun deliver =>
    (if deliver ≤ accept then checkedUnixAdd [accept, 1] else .ok deliver).bind fun deliver =>
    (checkedUnixAdd [deliver, settles.1]).bind fun settle =>
    if accept = 0 ∨ deliver ≤ accept ∨ settle ≤ deliver then .error .stateConflict
    else .ok (accept, deliver, settle)

lemma foldlM_checked {values : List ℕ} {total sum : ℕ} (htotal : total ≤ 2 ^ 63 - 1) :
    values.foldlM (fun total value =>
      if 2 ^ 63 - 1 - total < value then Except.error Err.stateConflict
      else .ok (total + value)) total = .ok sum ↔
      total + values.sum = sum ∧ sum ≤ 2 ^ 63 - 1 := by
  induction values generalizing total with
  | nil =>
    simp only [foldlM_nil, sum_nil, pure, Except.pure, Except.ok.injEq]
    omega
  | cons value values ih =>
    rw [foldlM_cons, sum_cons]
    by_cases h : 2 ^ 63 - 1 - total < value
    · simp only [if_pos h, bind, Except.bind, reduceCtorEq, false_iff]
      omega
    · simp only [if_neg h, bind, Except.bind]
      rw [ih (by omega)]
      omega

lemma checkedUnixAdd_ok {values : List ℕ} {sum : ℕ} :
    checkedUnixAdd values = .ok sum ↔ values.sum = sum ∧ sum ≤ 2 ^ 63 - 1 := by
  unfold checkedUnixAdd
  rw [foldlM_checked (Nat.zero_le _), Nat.zero_add]

/-- The seconds that delivery and its verification take, as `lockCall` counts them. -/
def workSeconds (work verification : UInt64) : ℕ := work.toNat + max verification.toNat 120

/-- What three deadlines computed at the second `now` satisfy. -/
structure Deadlines (now : ℤ) (work verification : UInt64) (accept deliver settle : ℕ) : Prop where
  nonneg : 0 ≤ now
  window : now < accept ∧ accept ≤ now + 900
  /-- Two minutes more than the work takes, or the second after `accept` if that is later. -/
  deliver_eq : deliver = max (now + workSeconds work verification + 120) (accept + 1)
  margin : deliver + 1800 ≤ settle
  bound : settle ≤ 2 ^ 63 - 1

lemma deliveryDeadlines_ok {now : Time} {work verification : UInt64}
    {acceptWindow settleWindow : ℤ} {accept deliver settle : ℕ}
    (h : deliveryDeadlines now work verification acceptWindow settleWindow =
      .ok (accept, deliver, settle)) :
    Deadlines now.unix work verification accept deliver settle := by
  unfold deliveryDeadlines at h
  simp only [guard_ok, bind_eq_ok, checkedUnixAdd_ok, not_or, not_lt, Bool.not_eq_false,
    ok_pair_eq, Prod.mk.injEq, sum_cons, sum_nil, Nat.add_zero] at h
  obtain ⟨⟨hnow, -, -, haccept, hsettle, hwindow, hmin, -⟩, work', ⟨hwork, -⟩, a, ⟨ha, -⟩, dl,
    ⟨hdl, -⟩, dl', hclamp, st, ⟨hst, hbound⟩, ⟨-, hlt, -⟩, rfl, rfl, rfl⟩ := h
  simp only [wholePositiveSeconds, second, minimumSettleWindow, deliverySafetyBuffer] at *
  obtain ⟨hpos, hwhole⟩ := of_decide_eq_true haccept
  obtain ⟨-, hwhole'⟩ := of_decide_eq_true hsettle
  have hsec := Int.mul_tdiv_add_tmod acceptWindow 1000000000
  have hsec' := Int.mul_tdiv_add_tmod settleWindow 1000000000
  have hbuffer : ((2 * 60 * 1000000000 / 1000000000 : ℤ).toNat) = 120 := by decide
  rw [hbuffer] at hwork
  have hlong : (dl : ℤ) = now.unix + workSeconds work verification + 120 := by
    unfold workSeconds
    split_ifs at hwork <;> omega
  have hdeliver : dl' = max dl (a + 1) := by
    split_ifs at hclamp with hle
    · rw [checkedUnixAdd_ok] at hclamp
      simp only [sum_cons, sum_nil] at hclamp
      omega
    · cases hclamp
      omega
  exact ⟨hnow, by omega, by omega, by omega, hbound⟩

section

variable {now : ℤ} {work verification : UInt64} {accept deliver settle : ℕ}

lemma Deadlines.order (h : Deadlines now work verification accept deliver settle) :
    accept < deliver := by
  have := h.deliver_eq
  omega

/-- The work fits until `accept` and the expiry of the quote, if one of them is at most 121
seconds away, or if `accept` is so late that `deliver` is set by it. -/
lemma Deadlines.work_fits_iff (h : Deadlines now work verification accept deliver settle)
    (expiry : ℕ) : min accept expiry + workSeconds work verification ≤ deliver + 1 ↔
      (accept : ℤ) ≤ now + 121 ∨ (expiry : ℤ) ≤ now + 121 ∨
        min accept expiry + workSeconds work verification ≤ accept + 2 := by
  have := h.deliver_eq
  omega

end

/-! ## Decisions -/

/-- `sellerquote.Quote` (quote.go:44), without the nonce. -/
structure Quote where
  (purchaseSpecHash sellerId resourceId : Bytes32)
  directoryVersion : UInt64
  schemeVersion : UInt16
  chainId : ℕ
  asset : Address
  amountBaseUnits : ℕ
  (payTo ackAuthority : Address)
  verificationSpecHash : Bytes32
  (declaredWorkTime verificationBudgetSeconds quoteExpiresAt : UInt64)

/-- `time.Unix(int64(quote.QuoteExpiresAt), 0)`. -/
def Quote.expiry (q : Quote) : Time := .ofUnix ((q.quoteExpiresAt.toNat : ℤ).bmod (2 ^ 64))

/-- `now.Add(ttl)`, or the expiry of the quote if that is earlier. -/
def Quote.expiryWithin (q : Quote) (now : Time) (ttl : ℤ) : Time :=
  if q.expiry.before (now.add ttl) then q.expiry else now.add ttl

/-- `policy.Outcome` (policy.go:32). -/
inductive Outcome where
  | deny | requireApproval | autoApprove
deriving DecidableEq

/-- `policy.Reason` (policy.go:40), and those of `deriveDecision`. -/
inductive Reason where
  | allowed | policyDisabled | unsupportedChain | unsupportedRail | assetNotAllowed
  | recipientNotAllowed | blockedCategory | invalidAmount | perActionLimit | taskBudget
  | dailyBudget | humanApprovalThreshold | railRequiresApproval | pilotPerActionLimit
  | pilotOutstandingLimit | adaptationRejected | agentInactive | organizationPaused | quoteExpired
deriving DecidableEq

/-- `operationMaterial` (postgres.go:34), decoded. `stored` is the error of the checks that
the stored quote, purchase specification and policy fail, if any (postgres.go:168-199). -/
structure Material where
  quote : Quote
  quoteHash : Bytes32
  agentStatus : String
  organizationPaused : Bool
  adaptationGrantID : String
  stored : Option String

/-- `EvaluationConfig` (orchestration.go:105), with the identity's domain and the operation. -/
structure EvaluationConfig where
  (orgDomain operationID : Bytes32)
  escrowContract : Address
  (acceptWindow settleWindow : ℤ)
  now : Time
  (decisionID approvalID : String)

/-- `ascpapproval.State` (approval.go:25). -/
inductive ApprovalState where
  | requested | approved | rejected | expired | canceled
deriving DecidableEq

/-- `ascpapproval.Approval` (approval.go:56): the fields that are read later. -/
structure Approval where
  approvalID : String
  state : ApprovalState
  (requestedAt expiresAt : ℤ)

/-- `Decision` (orchestration.go:58), without the review copied from the commitment. -/
structure Decision where
  decisionID : String
  outcome : Outcome
  reason : Reason
  commitment : ExecutionCommitment
  commitmentHash : Bytes32
  approval : Option Approval := none
  evaluatedAt : ℤ

/-- `escalateAdaptedRejection` (postgres.go:269). -/
def escalateAdaptedRejection (decision : Outcome × Reason) (adapted : Bool) : Outcome × Reason :=
  if adapted ∧ decision.1 = .deny ∧
      decision.2 ∈ [.perActionLimit, .taskBudget, .dailyBudget, .recipientNotAllowed] then
    (.requireApproval, .adaptationRejected)
  else decision

/-- The commitment of a decision (postgres.go:204-215). -/
def commitmentOf (cfg : EvaluationConfig) (m : Material) (accept deliver settle : ℕ) :
    ExecutionCommitment :=
  { m.quote with
    orgDomain := cfg.orgDomain
    operationId := cfg.operationID
    rail := 1
    protection := 1
    escrowContract := cfg.escrowContract
    quoteHash := m.quoteHash
    amount := m.quote.amountBaseUnits
    acceptBy := .ofNat accept
    deliverBy := .ofNat deliver
    settleBy := .ofNat settle }

/-- The outcome before an approval is made out (postgres.go:236-243). -/
def outcomeAt (m : Material) (evaluated : Outcome × Reason) (nowUnix : ℤ) : Outcome × Reason :=
  escalateAdaptedRejection
    (if m.agentStatus ≠ "ACTIVE" then (.deny, .agentInactive)
    else if m.organizationPaused then (.deny, .organizationPaused)
    else if nowUnix < 0 ∨ (m.quote.quoteExpiresAt.toNat : ℤ) ≤ nowUnix then (.deny, .quoteExpired)
    else evaluated)
    (m.adaptationGrantID ≠ "")

/-- `deriveDecision` (postgres.go:166), where `evaluated` is what the policy engine answers
and `digest` fails where `Commitment.Digest` does. -/
def deriveDecision (digest : ExecutionCommitment → Option Bytes32) (evaluated : Outcome × Reason)
    (m : Material) (cfg : EvaluationConfig) : Except Err Decision :=
  let now := truncate cfg.now
  match m.stored with
  | some text => .error (.other text)
  | none =>
    (deliveryDeadlines now m.quote.declaredWorkTime m.quote.verificationBudgetSeconds
      cfg.acceptWindow cfg.settleWindow).bind fun (accept, deliver, settle) =>
    let commitment := commitmentOf cfg m accept deliver settle
    match digest commitment with
    | none => .error (.other "derive ASCP execution commitment")
    | some commitmentHash =>
      let decided := outcomeAt m evaluated now.unix
      let decision : Decision := { decisionID := cfg.decisionID, outcome := decided.1
                                   reason := decided.2, commitment, commitmentHash
                                   evaluatedAt := now.unix }
      if decided.1 = .requireApproval then
        let expiresAt := m.quote.expiryWithin now approvalTTL
        if expiresAt.after now = false then
          .ok { decision with outcome := .deny, reason := .quoteExpired }
        else
          .ok { decision with
            approval := some ⟨cfg.approvalID, .requested, now.unix, expiresAt.unix⟩ }
      else .ok decision

/-! ## Authorizations -/

/-- What the query of `AuthorizationInput` returns (postgres.go:637), and whether the
purchase specification, the budget dimensions and the snapshot hash are in order. -/
structure Row where
  quote : Quote
  specValid : Bool
  (dimensions snapshot : Option String)

/-- `ascpexecauth.Input`: the fields that depend on the decision and on time. -/
structure Input where
  expiresAt : Time
  (approvalID autoDecisionRef : Option String)

/-- The check of the deadlines (postgres.go:662-671). The sums are `uint64` sums. -/
def Expired (c : ExecutionCommitment) (q : Quote) (nowUnix : ℤ) : Prop :=
  nowUnix < 0 ∨ c.acceptBy.toNat ≤ nowUnix.toNat ∨ c.quoteExpiresAt.toNat ≤ nowUnix.toNat ∨
    c.deliverBy.toNat ≤ nowUnix.toNat ∨
    c.deliverBy.toNat - nowUnix.toNat <
      (q.declaredWorkTime.toNat + if q.verificationBudgetSeconds.toNat < 120 then 120
        else q.verificationBudgetSeconds.toNat) % 2 ^ 64 ∨
    c.settleBy.toNat ≤ (nowUnix.toNat + (minimumSettleWindow / second).toNat) % 2 ^ 64
deriving Decidable

/-- The state of the approval of a decision that needs one (postgres.go:622-634). -/
def checkApproval (d : Decision) (nowUnix : ℤ) : Except Err Unit :=
  if d.outcome = .requireApproval then
    match d.approval with
    | none => .error .approvalUnavailable
    | some approval =>
      if approval.expiresAt ≤ nowUnix then .error .approvalUnavailable
      else if approval.state = .requested then .error .approvalPending
      else if approval.state ≠ .approved then .error .approvalUnavailable
      else .ok ()
  else .ok ()

/-- `AuthorizationInput` (postgres.go:609). -/
def authorizationInput (digest : ExecutionCommitment → Option Bytes32) (d : Decision)
    (row : Option Row) (now : Time) : Except Err Input :=
  if digest d.commitment ≠ some d.commitmentHash then .error .stateConflict
  else if d.outcome = .deny then .error .decisionDenied
  else
    (checkApproval d now.unix).bind fun _ =>
    match row with
    | none => .error .stateConflict
    | some r =>
      if Expired d.commitment r.quote now.unix then .error .operationExpired
      else if r.specValid = false then .error .stateConflict
      else
        match r.dimensions with
        | some text => .error (.other text)
        | none =>
          let expiresAt := r.quote.expiryWithin now reservationTTL
          if expiresAt.after now = false then .error .operationExpired
          else
            match r.snapshot with
            | some text => .error (.other text)
            | none => .ok (if d.outcome = .requireApproval then
                ⟨expiresAt, d.approval.map (·.approvalID), none⟩
              else ⟨expiresAt, none, some d.decisionID⟩)

/-! ## Executability -/

section

variable {digest : ExecutionCommitment → Option Bytes32} {evaluated : Outcome × Reason}
  {m : Material} {cfg : EvaluationConfig} {d : Decision} {q : Quote} {now : Time} {row : Option Row}

lemma Quote.expiry_ns (h : (q.quoteExpiresAt.toNat : ℤ) + Time.unixToInternal < 2 ^ 63) :
    q.expiry.ns = (q.quoteExpiresAt.toNat + Time.unixToInternal) * 1000000000 := by
  simp only [expiry, Time.ofUnix, Time.unixToInternal, Int.bmod_def] at *
  split_ifs <;> omega

lemma Quote.expiry_past (h : 2 ^ 63 ≤ (q.quoteExpiresAt.toNat : ℤ) + Time.unixToInternal) :
    q.expiry.ns < Time.unixToInternal * 1000000000 := by
  have hlt := q.quoteExpiresAt.toNat_lt
  simp only [expiry, Time.ofUnix, Time.unixToInternal, Int.bmod_def] at *
  split_ifs <;> omega

lemma after_iff {t u : Time} : t.after u ↔ u.ns < t.ns := by simp [Time.after]

lemma Quote.expiryWithin_after {ttl : ℤ} (httl : 0 < ttl) :
    (q.expiryWithin now ttl).after now ↔ now.ns < q.expiry.ns := by
  unfold expiryWithin
  split_ifs with h
  · exact after_iff
  · rw [Time.before_iff] at h
    rw [after_iff]
    simp only [Time.add] at h ⊢
    omega

lemma checkApproval_ne (d : Decision) (nowUnix : ℤ) :
    checkApproval d nowUnix ≠ .error .operationExpired := by
  unfold checkApproval
  split
  · split
    · simp
    · exact guard_ne (by simp) fun _ => guard_ne (by simp) fun _ =>
        guard_ne (by simp) (by simp)
  · simp

lemma authorizationInput_ne_expired
    (h : ∀ r ∈ row, ¬Expired d.commitment r.quote now.unix ∧ now.ns < r.quote.expiry.ns) :
    authorizationInput digest d row now ≠ .error .operationExpired := by
  unfold authorizationInput
  refine guard_ne (by simp) fun _ => guard_ne (by simp) fun _ => ?_
  have hne := checkApproval_ne d now.unix
  cases hcheck : checkApproval d now.unix with
  | error e => simpa [Except.bind, hcheck] using hne
  | ok =>
    cases row with
    | none => simp [Except.bind]
    | some r =>
      obtain ⟨hdeadlines, hquote⟩ := h r rfl
      simp only [Except.bind, if_neg hdeadlines]
      refine guard_ne (by simp) fun _ => ?_
      cases r.dimensions with
      | some text => simp
      | none =>
        have hafter : (r.quote.expiryWithin now reservationTTL).after now :=
          (Quote.expiryWithin_after (by decide)).mpr hquote
        simp only [hafter, Bool.true_eq_false, if_false]
        cases r.snapshot <;> simp

lemma authorizationInput_expired (hdigest : digest d.commitment = some d.commitmentHash)
    (haccepted : d.outcome ≠ .deny) (happroved : checkApproval d now.unix = .ok ())
    (h : Expired d.commitment q now.unix ∨ q.expiry.ns ≤ now.ns) :
    authorizationInput digest d (some ⟨q, true, none, none⟩) now = .error .operationExpired := by
  simp only [authorizationInput, hdigest, haccepted, happroved, ne_eq, not_true_eq_false, if_false,
    Except.bind, Bool.true_eq_false]
  by_cases hdeadlines : Expired d.commitment q now.unix
  · rw [if_pos hdeadlines]
  · have hlate : (q.expiryWithin now reservationTTL).after now = false := by
      rw [← Bool.not_eq_true, Quote.expiryWithin_after (by decide), not_lt]
      exact h.resolve_left hdeadlines
    rw [if_neg hdeadlines, if_pos hlate]

/-- What an accepted decision of `deriveDecision` satisfies. -/
structure Derived (digest : ExecutionCommitment → Option Bytes32) (q : Quote) (d : Decision) :
    Prop where
  hash : digest d.commitment = some d.commitmentHash
  terms : d.commitment.quoteExpiresAt = q.quoteExpiresAt ∧
    d.commitment.declaredWorkTime = q.declaredWorkTime ∧
    d.commitment.verificationBudgetSeconds = q.verificationBudgetSeconds
  deadlines : Deadlines d.evaluatedAt q.declaredWorkTime q.verificationBudgetSeconds
    d.commitment.acceptBy.toNat d.commitment.deliverBy.toNat d.commitment.settleBy.toNat
  unexpired : d.evaluatedAt < q.quoteExpiresAt.toNat
  approval : d.outcome = .requireApproval →
    (q.quoteExpiresAt.toNat : ℤ) + Time.unixToInternal < 2 ^ 63 ∧
      ∃ a, d.approval = some a ∧ a.expiresAt = min (d.evaluatedAt + 86400) q.quoteExpiresAt.toNat

lemma outcomeAt_unexpired {nowUnix : ℤ} (h : (outcomeAt m evaluated nowUnix).1 ≠ .deny) :
    nowUnix < m.quote.quoteExpiresAt.toNat := by
  by_contra hlate
  refine h ?_
  unfold outcomeAt escalateAdaptedRejection
  split_ifs <;> simp_all

/-- An approval that is made out lives for a day, or until the quote expires. -/
lemma approval_expiry {t : Time} (hn : 0 ≤ (truncate t).unix)
    (hafter : (q.expiryWithin (truncate t) approvalTTL).after (truncate t)) :
    (q.quoteExpiresAt.toNat : ℤ) + Time.unixToInternal < 2 ^ 63 ∧
      (q.expiryWithin (truncate t) approvalTTL).unix =
        min ((truncate t).unix + 86400) q.quoteExpiresAt.toNat := by
  rw [Quote.expiryWithin_after (by decide)] at hafter
  have hquote : (q.quoteExpiresAt.toNat : ℤ) + Time.unixToInternal < 2 ^ 63 := by
    by_contra hlarge
    have hpast := Quote.expiry_past (not_lt.mp hlarge)
    simp only [truncate, Time.unix, second, Time.unixToInternal] at *
    omega
  refine ⟨hquote, ?_⟩
  have hns := Quote.expiry_ns hquote
  unfold Quote.expiryWithin
  split_ifs with h <;> rw [Time.before_iff, hns] at h <;>
    simp only [truncate, Time.unix, Time.add, approvalTTL, second, Time.unixToInternal, hns]
      at * <;>
    omega

lemma deriveDecision_ok (h : deriveDecision digest evaluated m cfg = .ok d)
    (haccepted : d.outcome ≠ .deny) : Derived digest m.quote d := by
  unfold deriveDecision at h
  cases hstored : m.stored with
  | some text => simp [hstored] at h
  | none =>
    simp only [hstored, bind_eq_ok] at h
    obtain ⟨⟨accept, deliver, settle⟩, hdeadlines, h⟩ := h
    have hd := deliveryDeadlines_ok hdeadlines
    have hfits : ∀ n, n ≤ settle → (UInt64.ofNat n).toNat = n := fun n hn =>
      UInt64.toNat_ofNat_of_lt' (show n < 2 ^ 64 by have := hd.bound; omega)
    have hdeadlines : Deadlines (truncate cfg.now).unix m.quote.declaredWorkTime
        m.quote.verificationBudgetSeconds (UInt64.ofNat accept).toNat
        (UInt64.ofNat deliver).toNat (UInt64.ofNat settle).toNat := by
      rw [hfits accept (by have := hd.order; have := hd.margin; omega),
        hfits deliver (by have := hd.margin; omega), hfits settle le_rfl]
      exact hd
    cases hdigest : digest (commitmentOf cfg m accept deliver settle) with
    | none => simp [hdigest] at h
    | some hash =>
      simp only [hdigest] at h
      by_cases hrequire : (outcomeAt m evaluated (truncate cfg.now).unix).1 = .requireApproval
      · rw [if_pos hrequire] at h
        split_ifs at h with hlate
        · cases h
          exact absurd rfl haccepted
        · cases h
          have hexpiry := approval_expiry hd.nonneg ((Bool.not_eq_false _).mp hlate)
          exact ⟨hdigest, ⟨rfl, rfl, rfl⟩, hdeadlines, outcomeAt_unexpired haccepted,
            fun _ => ⟨hexpiry.1, _, rfl, hexpiry.2⟩⟩
      · rw [if_neg hrequire] at h
        cases h
        exact ⟨hdigest, ⟨rfl, rfl, rfl⟩, hdeadlines, outcomeAt_unexpired haccepted,
          fun hr => absurd hr hrequire⟩

/-- The decision with its approval in another state. -/
def Decision.withApproval (d : Decision) (state : ApprovalState) : Decision :=
  { d with approval := d.approval.map fun a => { a with state } }

/-- `lockCall` at block time `t` fails none of its deadline checks, and the sum in them is
exact. -/
def LockableAt (c : ExecutionCommitment) (t : ℕ) : Prop :=
  workSeconds c.declaredWorkTime c.verificationBudgetSeconds < 2 ^ 64 ∧
    ∀ dep s msg seller resource sellerProof resourceProof, msg.timestamp = t →
      ∀ e ∈ [Revert.invalidDeadlines, .insufficientDeliveryWindow, .insufficientSettlementMargin],
        lockCall dep s msg c seller resource sellerProof resourceProof ≠ .error e

/-- From its evaluation to `acceptBy` and the expiry of the quote, the decision does not
expire and its commitment can be locked. -/
def Decision.Executable (digest : ExecutionCommitment → Option Bytes32) (q : Quote) (d : Decision) :
    Prop :=
  ∀ (now : Time) state row, d.evaluatedAt ≤ now.unix →
    now.unix < (min d.commitment.acceptBy.toNat d.commitment.quoteExpiresAt.toNat : ℕ) →
    (∀ r ∈ row, r.quote = q) →
    authorizationInput digest (d.withApproval state) row now ≠ .error .operationExpired ∧
      LockableAt d.commitment now.unix.toNat

/-- Until the approval expires, it can be used once it is given. -/
def Decision.ApprovalUsable (digest : ExecutionCommitment → Option Bytes32) (q : Quote)
    (d : Decision) : Prop :=
  ∀ a ∈ d.approval, ∀ now row, d.evaluatedAt ≤ now.unix → now.unix < a.expiresAt →
    (∀ r ∈ row, r.quote = q) →
    authorizationInput digest (d.withApproval .approved) row now ≠ .error .operationExpired

lemma lockCall_ne_deadline {c : ExecutionCommitment} {t : ℕ}
    (hopen : t < c.acceptBy.toNat ∧ t < c.quoteExpiresAt.toNat)
    (horder : c.acceptBy.toNat < c.deliverBy.toNat ∧ c.deliverBy.toNat + 1800 ≤ c.settleBy.toNat)
    (hwork : t + workSeconds c.declaredWorkTime c.verificationBudgetSeconds ≤ c.deliverBy.toNat) :
    LockableAt c t := by
  have hlt := c.deliverBy.toNat_lt
  refine ⟨by omega, ?_⟩
  rintro dep s msg seller resource sellerProof resourceProof rfl e he
  have hdeadlines : ¬(c.acceptBy.toNat ≤ msg.timestamp ∨ c.quoteExpiresAt.toNat ≤ msg.timestamp ∨
      c.deliverBy.toNat ≤ c.acceptBy.toNat ∨ c.settleBy.toNat ≤ c.deliverBy.toNat) := by omega
  have hdelivery : ¬c.deliverBy.toNat - msg.timestamp < c.declaredWorkTime.toNat +
      max c.verificationBudgetSeconds.toNat minOnchainVerificationBuffer := by
    simp only [workSeconds, minOnchainVerificationBuffer] at hwork ⊢
    omega
  have hmargin : ¬c.settleBy.toNat - msg.timestamp < minSettlementMargin := by
    simp only [minSettlementMargin]
    omega
  unfold lockCall storeAndFund
  simp only [if_neg hdeadlines, if_neg hdelivery, if_neg hmargin]
  fin_cases he <;> (repeat' refine guard_ne (by simp) fun _ => ?_) <;> split <;>
    first | (simp; done) | (split_ifs <;> simp)

lemma Derived.expired_iff (h : Derived digest q d) {t : ℤ} (hstart : d.evaluatedAt ≤ t)
    (haccept : t < d.commitment.acceptBy.toNat) (hquote : t < d.commitment.quoteExpiresAt.toNat) :
    Expired d.commitment q t ↔ d.commitment.deliverBy.toNat <
        t + workSeconds q.declaredWorkTime q.verificationBudgetSeconds := by
  obtain ⟨hnonneg, -, hdeliver, hmargin, hbound⟩ := h.deadlines
  have hbuffer : (minimumSettleWindow / second).toNat = 1800 := by decide
  have hwork : (q.declaredWorkTime.toNat + if q.verificationBudgetSeconds.toNat < 120 then 120
      else q.verificationBudgetSeconds.toNat) =
      workSeconds q.declaredWorkTime q.verificationBudgetSeconds := by
    unfold workSeconds
    split_ifs <;> omega
  unfold Expired
  rw [hbuffer, hwork, Nat.mod_eq_of_lt (by omega), Nat.mod_eq_of_lt (by omega)]
  omega

lemma checkApproval_withApproval (h : Derived digest q d) {t : ℤ}
    (ht : d.outcome = .requireApproval → t < min (d.evaluatedAt + 86400) q.quoteExpiresAt.toNat) :
    checkApproval (d.withApproval .approved) t = .ok () := by
  unfold checkApproval Decision.withApproval
  by_cases hrequire : d.outcome = .requireApproval
  · obtain ⟨-, a, ha, hexpires⟩ := h.approval hrequire
    simpa [hrequire, ha, hexpires] using ht hrequire
  · simp [hrequire]

/-- At the second `t`, an approved decision that does not expire passes the checks. -/
lemma Derived.not_expired (h : Derived digest q d) (haccepted : d.outcome ≠ .deny) {t : ℤ}
    (ht : d.outcome = .requireApproval → t < min (d.evaluatedAt + 86400) q.quoteExpiresAt.toNat)
    (hne : authorizationInput digest (d.withApproval .approved) (some ⟨q, true, none, none⟩)
      ⟨(t + Time.unixToInternal) * 1000000000, 0⟩ ≠ .error .operationExpired) :
    ¬Expired d.commitment q t ∧ (t + Time.unixToInternal) * 1000000000 < q.expiry.ns := by
  have hunix : (⟨(t + Time.unixToInternal) * 1000000000, 0⟩ : Time).unix = t := by
    simp only [Time.unix]
    omega
  by_contra hlate
  refine hne (authorizationInput_expired h.hash haccepted ?_ ?_) <;> rw [hunix]
  · exact checkApproval_withApproval h ht
  · by_cases hexpired : Expired d.commitment q t
    · exact .inl hexpired
    · exact .inr (not_lt.mp fun hlt => hlate ⟨hexpired, hlt⟩)

lemma Derived.ne_expired (h : Derived digest q d) (state : ApprovalState)
    (hwork : min d.commitment.acceptBy.toNat d.commitment.quoteExpiresAt.toNat +
      workSeconds q.declaredWorkTime q.verificationBudgetSeconds ≤ d.commitment.deliverBy.toNat + 1)
    (hquote : (q.quoteExpiresAt.toNat : ℤ) + Time.unixToInternal < 2 ^ 63)
    (hstart : d.evaluatedAt ≤ now.unix) (haccept : now.unix < d.commitment.acceptBy.toNat)
    (hopen : now.unix < q.quoteExpiresAt.toNat) (hrows : ∀ r ∈ row, r.quote = q) :
    authorizationInput digest (d.withApproval state) row now ≠ .error .operationExpired := by
  refine authorizationInput_ne_expired fun r hr => ?_
  rw [hrows r hr, Quote.expiry_ns hquote]
  have hunexpired : now.unix < d.commitment.quoteExpiresAt.toNat := by rwa [h.terms.1]
  refine ⟨fun hexpired => ?_, ?_⟩
  · have := (h.expired_iff hstart haccept hunexpired).mp hexpired
    omega
  · simp only [Time.unix] at hopen
    omega

/-- A decision is executable until `acceptBy` and the expiry of the quote, and its approval
for as long as it lives, exactly when `deliverBy` leaves the work enough time until then,
the expiry of the quote is an instant of Go, and an approval does not outlive `acceptBy`. -/
theorem executable_iff (h : deriveDecision digest evaluated m cfg = .ok d)
    (haccepted : d.outcome ≠ .deny) :
    d.Executable digest m.quote ∧ (d.outcome = .requireApproval → d.ApprovalUsable digest m.quote) ↔
      min d.commitment.acceptBy.toNat d.commitment.quoteExpiresAt.toNat +
          workSeconds m.quote.declaredWorkTime m.quote.verificationBudgetSeconds ≤
        d.commitment.deliverBy.toNat + 1 ∧
      (m.quote.quoteExpiresAt.toNat : ℤ) + Time.unixToInternal < 2 ^ 63 ∧
      (d.outcome = .requireApproval →
        m.quote.quoteExpiresAt.toNat ≤ d.commitment.acceptBy.toNat) := by
  have hd := deriveDecision_ok h haccepted
  obtain ⟨hnonneg, ⟨hstart, hwindow⟩, hdeliver, hmargin, -⟩ := hd.deadlines
  have hunexpired := hd.unexpired
  have hterms : d.commitment.quoteExpiresAt.toNat = m.quote.quoteExpiresAt.toNat := by
    rw [hd.terms.1]
  constructor
  · rintro ⟨hexec, husable⟩
    have hchecks : ∀ t : ℤ, d.evaluatedAt ≤ t → t < d.commitment.acceptBy.toNat →
        t < d.commitment.quoteExpiresAt.toNat → ¬Expired d.commitment m.quote t ∧
          (t + Time.unixToInternal) * 1000000000 < m.quote.expiry.ns := by
      intro t ht haccept hquote
      have hne := (hexec ⟨(t + Time.unixToInternal) * 1000000000, 0⟩ .approved
        (some ⟨m.quote, true, none, none⟩) (by simp only [Time.unix]; omega)
        (by simp only [Time.unix]; omega) (by simp)).1
      exact hd.not_expired haccepted (fun _ => by omega) hne
    refine ⟨?_, ?_, fun hrequire => ?_⟩
    · by_contra hlate
      have ht := (hchecks (min d.commitment.acceptBy.toNat d.commitment.quoteExpiresAt.toNat - 1)
        (by omega) (by omega) (by omega)).1
      rw [hd.expired_iff (by omega) (by omega) (by omega)] at ht
      omega
    · by_contra hlarge
      have hns := (hchecks d.evaluatedAt le_rfl hstart (by omega)).2
      have := Quote.expiry_past (not_lt.mp hlarge)
      omega
    · obtain ⟨-, a, ha, hexpires⟩ := hd.approval hrequire
      have hne := husable hrequire a ha ⟨(a.expiresAt - 1 + Time.unixToInternal) * 1000000000, 0⟩
        (some ⟨m.quote, true, none, none⟩) (by simp only [Time.unix]; omega)
        (by simp only [Time.unix]; omega) (by simp)
      have ht := (hd.not_expired haccepted (fun _ => by omega) hne).1
      unfold Expired at ht
      omega
  · rintro ⟨hwork, hquote, hrequire⟩
    refine ⟨fun now state row hnow hlt hrows => ?_, fun hr a ha now row hnow hlt hrows => ?_⟩
    · refine ⟨hd.ne_expired state hwork hquote hnow (by omega) (by omega) hrows, ?_⟩
      refine lockCall_ne_deadline (by omega) ⟨hd.deadlines.order, hmargin⟩ ?_
      rw [hd.terms.2.1, hd.terms.2.2]
      omega
    · obtain ⟨-, a', ha', hexpires⟩ := hd.approval hr
      cases ha'.symm.trans ha
      have := hrequire hr
      exact hd.ne_expired _ hwork hquote hnow (by omega) (by omega) hrows

end

namespace Example

/-- Ten minutes of work, two of verification. -/
def quote : Quote :=
  ⟨1, 2, 3, 1, 1, 8453, 4, 5, 6, 7, 8, 600, 120, 100000⟩

def material : Material := ⟨quote, 9, "ACTIVE", false, "", none⟩

def config (acceptWindow : ℤ) : EvaluationConfig :=
  ⟨10, 11, 12, acceptWindow, minimumSettleWindow,
    ⟨(1000 + Time.unixToInternal) * 1000000000, 0⟩, "decision-1", "approval-1"⟩

/-- The second `t`, with the row of the quote in order. -/
def authorizeAt (t : ℤ) (d : Decision) : Except Err Input :=
  authorizationInput (fun _ => some 1) (d.withApproval .approved) (some ⟨quote, true, none, none⟩)
    ⟨(t + Time.unixToInternal) * 1000000000, 0⟩

end Example

open Example

theorem executable_iff_short_window : ∃ d,
    deriveDecision (fun _ => some 1) (.autoApprove, .allowed) material
      (config (60 * second)) = .ok d ∧
    d.Executable (fun _ => some 1) quote := by
  have h : deriveDecision (fun _ => some 1) (.autoApprove, .allowed) material
      (config (60 * second)) = .ok _ := rfl
  exact ⟨_, h, ((executable_iff h (by decide)).mpr ⟨by decide, by decide, by decide⟩).1⟩

/-- With the default window of five minutes, a decision evaluated at 1000 and to be accepted
by 1300 expires at 1200, and an approval that lives until 87400 is of no use at 1300. -/
theorem approved_decision_expires :
    (deriveDecision (fun _ => some 1) (.autoApprove, .allowed) material (config (300 * second))).map
      (fun d => (d.commitment.acceptBy, authorizeAt 1200 d)) =
        .ok (1300, .error .operationExpired) ∧
      (deriveDecision (fun _ => some 1) (.requireApproval, .allowed) material
        (config (300 * second))).map
      (fun d => (d.approval.map (·.expiresAt), authorizeAt 1300 d)) =
        .ok (some 87400, .error .operationExpired) :=
  ⟨rfl, rfl⟩

end FlowOps.Orchestration

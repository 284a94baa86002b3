import FlowOps.Ascp.Capacity
import FlowOps.Pkg.Envelope

/-!
# Execution authorizations

`internal/ascpexecauth/postgres.go`. One serializable transaction turns an intent with an
approval, or with an automatic decision, into an authorization: it reruns the local checks,
compares every dimension of the budget with what the reservations of the organization count
for, inserts the reservation and its capacity admission, and records the authorization. A
check that fails for good is recorded as well, as INVALIDATED.

`ReviewHash` is a parameter; the revalidator's answer and the clock are inputs of a call. The
table `ascp_budget_reservation_dimensions` is the field `dimensions` of a reservation.

Results:
* `validateAndReserve_cases`: the three ways in which a call commits.
* `execution_admission`: what holds right after a call that succeeds, and what later calls for
  the same intent return; `repeats_differ`: equal input refused, other input answered.
-/

namespace FlowOps.Ascp

open List Option AList Dict

/-! ## Tables -/

/-- The column `state` of `ascp_approvals` (0005:5). -/
inductive ApprovalState where
  | requested | approved | rejected | expired | cancelled
deriving DecidableEq

/-- A row of `ascp_approvals`. -/
structure Approval where
  (organizationID intentID : String)
  state : ApprovalState
  reviewSnapshotHash : String
  expiresAt : Time
deriving DecidableEq

/-- The column `outcome` of `ascp_policy_decisions` (0011:6). -/
inductive DecisionOutcome where
  | deny | requireApproval | autoApprove
deriving DecidableEq

/-- A row of `ascp_policy_decisions`. -/
structure PolicyDecision where
  (organizationID operationID : String)
  outcome : DecisionOutcome
  reviewSnapshotHash : String
deriving DecidableEq

/-- `State` (authorization.go:17). -/
inductive AuthorizationState where
  | notEvaluated | validatedAndReserved | invalidated
deriving DecidableEq

/-- A row of `ascp_execution_authorizations`. An empty `approvalID` or `autoDecisionRef` is NULL. -/
structure AuthorizationRow where
  (approvalID autoDecisionRef intentID : String)
  state : AuthorizationState
  executionSnapshotHash : String
  reservationID : Option String
  invalidationReason : String
deriving DecidableEq

/-- The organizations of `ascp_intents` by `operation_id`, and the other tables by their keys. -/
structure Tables where
  intents : Dict String String
  approvals : Dict String Approval
  decisions : Dict String PolicyDecision
  authorizations : Dict String AuthorizationRow
  budget : Budget

/-! ## Inputs -/

/-- `Input` (authorization.go:34); `ρ` is `ascpapproval.Review`. -/
structure ExecutionInput (ρ : Type) where
  (authorizationID approvalID approvalSnapshotHash autoDecisionRef intentID : String)
  executionSnapshotHash : String
  review : ρ
  reservation : Request
deriving DecidableEq

/-- `Authorization` (authorization.go:44). -/
structure ExecutionAuthorization (ρ : Type) extends ExecutionInput ρ where
  state : AuthorizationState
  invalidationReason : String
deriving DecidableEq

/-- The causes that are recorded with an INVALIDATED authorization. -/
inductive Invalidation where
  | approvalNotApproved | approvalExpired | approvalSnapshot
  | revalidationFailed (reason : String)
  | budgetExceeded (dimension : String)
deriving DecidableEq

/-- The column `invalidation_reason` (authorization.go:26-28, postgres.go:163, 169). -/
def Invalidation.reason : Invalidation → String
  | .approvalNotApproved => "approval is not approved"
  | .approvalExpired => "approval is expired"
  | .approvalSnapshot => "approval snapshot does not match"
  | .revalidationFailed reason => reason
  | .budgetExceeded dimension =>
    "budget reservation exceeds a dimension limit: dimension " ++ dimension

/-- The errors that roll the transaction back. -/
inductive ExecutionErr where
  | invalidInput
  | invalidReservation (message : String)
  | revalidate (message : String)
  | storedAmount
  | budget (err : BudgetErr)
  | sql (err : SqlErr)
deriving DecidableEq

/-- What a call returns that did not roll back: `ErrAlreadyEvaluated` comes with the existing
authorization, a cause with the one that is INVALIDATED. -/
inductive Evaluation (ρ : Type) where
  | created (a : ExecutionAuthorization ρ)
  | invalidated (a : ExecutionAuthorization ρ) (cause : Invalidation)
  | existing (a : ExecutionAuthorization ρ)
deriving DecidableEq

def reservationTTL : ℤ := 15 * 60 * 1000000000

/-! ## The transaction -/

section

variable {ρ : Type} (reviewHash : ρ → Option String) {d : Dimension} {ds : List Dimension}
  {organizationID : String} {maxActive : ℕ} {budget : Budget} {revalidation : Except String String}
  {request : Request} {id : String}

/-- `validInput` (authorization.go:102). -/
def ExecutionInput.valid (input : ExecutionInput ρ) : Bool :=
  hash input.authorizationID && hash input.intentID && hash input.executionSnapshotHash &&
    input.reservation.operationID = input.intentID && hash input.reservation.reservationID &&
    !input.reservation.expiresAt.isZero &&
    ((input.approvalID ≠ "" && hash input.approvalID && hash input.approvalSnapshotHash &&
        input.autoDecisionRef = "" && reviewHash input.review = some input.approvalSnapshotHash) ||
      (input.approvalID = "" && input.approvalSnapshotHash = "" && hash input.autoDecisionRef &&
        (reviewHash input.review).isSome))

/-- The reservation expires after `now` and within `ReservationTTL` (postgres.go:87-88). -/
def ExecutionInput.fresh (input : ExecutionInput ρ) (now : Time) : Bool :=
  input.reservation.expiresAt.after now && !input.reservation.expiresAt.after (now.add reservationTTL)

/-- One iteration of the loop in `validateReservation` (postgres.go:313-326). -/
def checkRequested (amount : ℤ) (seen : List String) (d : Dimension) :
    Except ExecutionErr (List String) :=
  if positiveInteger d.limit = false ∨ trimSpace d.id ≠ d.id ∨ d.id = "" ∨ 256 < d.id.utf8ByteSize then
    .error (.invalidReservation "reservation dimension is invalid")
  else if d.id ∈ seen then .error (.invalidReservation "reservation dimension is duplicated")
  else if amountOf d.limit < amount then
    .error (.invalidReservation (Invalidation.budgetExceeded d.id).reason)
  else .ok (d.id :: seen)

/-- `validateReservation` (postgres.go:307). -/
def validateReservation (request : Request) : Except ExecutionErr Unit :=
  if positiveInteger request.amount = false ∨ request.dimensions = [] then
    .error (.invalidReservation "reservation amount and dimensions are required")
  else (foldCheck (checkRequested (amountOf request.amount)) [] request.dimensions).map fun _ => ()

/-- `loadExisting` (postgres.go:199): the row of the intent over the fields of the input. -/
def Tables.loadExisting (t : Tables) (input : ExecutionInput ρ) : Option (ExecutionAuthorization ρ) :=
  (t.authorizations.entries.find? (·.2.intentID = input.intentID)).map fun ⟨id, row⟩ =>
    { input with
      authorizationID := id
      approvalID := row.approvalID
      autoDecisionRef := row.autoDecisionRef
      executionSnapshotHash := row.executionSnapshotHash
      reservation := { input.reservation with
        reservationID := row.reservationID.getD input.reservation.reservationID }
      state := row.state
      invalidationReason := row.invalidationReason }

/-- The approval or the automatic decision (postgres.go:119-156): `some` cause if the
authorization is recorded as INVALIDATED. -/
def Tables.checkDecision (t : Tables) (input : ExecutionInput ρ) (organizationID : String)
    (now : Time) : Except ExecutionErr (Option Invalidation) :=
  if input.approvalID ≠ "" then
    match (t.approvals.lookup input.approvalID).filter
        (fun p => p.intentID = input.intentID && p.organizationID = organizationID) with
    | none => .ok (some .approvalNotApproved)
    | some p =>
      if p.state ≠ .approved then .ok (some .approvalNotApproved)
      else if p.reviewSnapshotHash ≠ input.approvalSnapshotHash then .ok (some .approvalSnapshot)
      else if now.before p.expiresAt = false then .ok (some .approvalExpired)
      else .ok none
  else
    match (t.decisions.lookup input.autoDecisionRef).filter
        (fun d => d.operationID = input.intentID && d.organizationID = organizationID &&
          d.outcome = .autoApprove) with
    | none => .error .invalidInput
    | some d =>
      if reviewHash input.review ≠ some d.reviewSnapshotHash then .error .invalidInput else .ok none

/-- The states that `reserveBudget` selects (postgres.go:249). -/
def ReservationState.counts : ReservationState → Bool
  | .released | .releasedAfterExpiry => false
  | _ => true

/-- `storedReservation` (postgres.go:226). -/
structure StoredReservation where
  (dimensionID amount : String)
  state : ReservationState
  refundable : Bool

/-- The rows that `reserveBudget` reads (postgres.go:242-250). -/
def Tables.storedReservations (t : Tables) (organizationID : String) (dimensionIDs : List String) :
    List StoredReservation :=
  t.budget.reservations.entries.flatMap fun ⟨_, r⟩ =>
    if t.intents.lookup r.operationID = some organizationID ∧ r.state.counts then
      (r.dimensions.filter (·.id ∈ dimensionIDs)).map fun d => ⟨d.id, r.amount, r.state, d.refundable⟩
    else []

/-- What the rows leave of a dimension (postgres.go:275-280). -/
def remaining (existing : List StoredReservation) (d : Dimension) : ℤ :=
  existing.foldl (fun left current =>
    if current.dimensionID ≠ d.id ∨ (current.state = .restored ∧ current.refundable) then left
    else left - amountOf current.amount) (amountOf d.limit)

/-- The loop over the requested dimensions (postgres.go:273-284). -/
def checkRemaining (existing : List StoredReservation) (amount : ℤ) :
    List Dimension → Option Invalidation
  | [] => none
  | d :: ds =>
    if remaining existing d < amount then some (.budgetExceeded d.id)
    else checkRemaining existing amount ds

/-- `reserveBudget` (postgres.go:233) and `Acquire`. `jsonb` has no NUL character, and the
columns keep microseconds. -/
def Tables.reserveBudget (t : Tables) (organizationID : String) (request : Request) (now : Time)
    (maxActive : ℕ) : Except ExecutionErr (Invalidation ⊕ Budget) :=
  if request.dimensions.any (fun d => d.id.toList.contains (Char.ofNat 0)) then
    .error (.sql (.raised "unsupported Unicode escape sequence"))
  else
    let existing := t.storedReservations organizationID (request.dimensions.map (·.id))
    if existing.any (fun current => !positiveInteger current.amount) then .error .storedAmount
    else
      match checkRemaining existing (amountOf request.amount) request.dimensions with
      | some cause => .ok (.inl cause)
      | none =>
        if (timestamptz request.expiresAt).after (timestamptz now) = false then
          .error (.sql .checkViolation)
        else
          ((t.budget.reserve { request with expiresAt := timestamptz request.expiresAt }
            (timestamptz now) maxActive).mapError .budget).bind fun budget =>
              if now.isZero then .error (.budget (.capacity .conflict)) else .ok (.inr budget)

/-- From the decision to the reservation (postgres.go:119-176). -/
def Tables.evaluate (t : Tables) (input : ExecutionInput ρ) (organizationID : String) (now : Time)
    (revalidation : Except String String) (maxActive : ℕ) :
    Except ExecutionErr (Invalidation ⊕ Budget) :=
  (t.checkDecision reviewHash input organizationID now).bind fun
    | some cause => .ok (.inl cause)
    | none =>
      (revalidation.mapError .revalidate).bind fun reason =>
        if trimSpace reason ≠ "" then .ok (.inl (.revalidationFailed (trimSpace reason)))
        else t.reserveBudget organizationID input.reservation now maxActive

/-- The row that is inserted (postgres.go:180, 347). -/
def ExecutionInput.row (input : ExecutionInput ρ) (state : AuthorizationState)
    (reservationID : Option String) (invalidationReason : String) : AuthorizationRow :=
  { approvalID := input.approvalID, autoDecisionRef := input.autoDecisionRef,
    intentID := input.intentID, state, executionSnapshotHash := input.executionSnapshotHash,
    reservationID, invalidationReason }

def Tables.insertAuthorization (t : Tables) (authorizationID : String) (row : AuthorizationRow) :
    Except ExecutionErr Tables :=
  if (t.authorizations.lookup authorizationID).isSome ∨
      t.authorizations.entries.any (fun e => e.2.intentID = row.intentID ||
        (row.reservationID.isSome && e.2.reservationID = row.reservationID)) then
    .error (.sql .uniqueViolation)
  else if (row.approvalID ≠ "" ∧ t.approvals.lookup row.approvalID = none) ∨
      (row.autoDecisionRef ≠ "" ∧ t.decisions.lookup row.autoDecisionRef = none) then
    .error (.sql .foreignKeyViolation)
  else .ok { t with authorizations := t.authorizations.insert authorizationID row }

/-- `validateAndReserveOnce` (postgres.go:85). -/
def Tables.validateAndReserve (t : Tables) (input : ExecutionInput ρ) (now : Time)
    (revalidation : Except String String) (maxActive : ℕ) :
    Except ExecutionErr (Tables × Evaluation ρ) :=
  if input.valid reviewHash = false ∨ input.fresh now = false then .error .invalidInput
  else
    (validateReservation input.reservation).bind fun () =>
      match t.loadExisting input with
      | some current => .ok (t, .existing current)
      | none =>
        match t.intents.lookup input.intentID with
        | none => .error .invalidInput
        | some organizationID =>
          (t.evaluate reviewHash input organizationID now revalidation maxActive).bind fun
            | .inl cause =>
              (t.insertAuthorization input.authorizationID
                (input.row .invalidated none cause.reason)).map fun t' =>
                  (t', .invalidated { input with
                    state := .invalidated, invalidationReason := cause.reason } cause)
            | .inr budget =>
              (insertAuthorization { t with budget } input.authorizationID
                (input.row .validatedAndReserved (some input.reservation.reservationID) "")).map
                  fun t' => (t', .created { input with
                    state := .validatedAndReserved, invalidationReason := "" })

/-- A transaction: `ValidateAndReserve`, a transition of a reservation, or one that leaves other
intents, approvals and decisions behind. -/
inductive ExecutionCall (ρ : Type) where
  | authorize (input : ExecutionInput ρ) (now : Time) (revalidation : Except String String)
      (maxActive : ℕ)
  | move (reservationID : String) (target : ReservationState)
  | update (intents : Dict String String) (approvals : Dict String Approval)
      (decisions : Dict String PolicyDecision)

def Tables.call (t : Tables) :
    ExecutionCall ρ → Except ExecutionErr (Tables × Option (Evaluation ρ))
  | .authorize input now revalidation maxActive =>
    (t.validateAndReserve reviewHash input now revalidation maxActive).map fun r => (r.1, some r.2)
  | .move reservationID target =>
    ((t.budget.move reservationID target).mapError .budget).map fun budget => ({ t with budget }, none)
  | .update intents approvals decisions => .ok ({ t with intents, approvals, decisions }, none)

def Tables.run (t : Tables) (calls : List (ExecutionCall ρ)) : Tables :=
  execute (call reviewHash) t calls

/-! ## What a call does -/

/-- What a reservation counts for in a dimension. -/
def Reservation.counted (r : Reservation) (id : String) : ℤ :=
  if r.state.counts then
    (r.dimensions.map fun d => if d.id ≠ id ∨ (r.state = .restored ∧ d.refundable) then 0
      else amountOf r.amount).sum
  else 0

/-- What the reservations of an organization count for in a dimension. -/
def Tables.counted (t : Tables) (organizationID id : String) : ℤ :=
  t.budget.reservations.sum fun _ r =>
    if t.intents.lookup r.operationID = some organizationID then r.counted id else 0

/-- What one row takes from a dimension. -/
def StoredReservation.taken (current : StoredReservation) (id : String) : ℤ :=
  if current.dimensionID ≠ id ∨ (current.state = .restored ∧ current.refundable) then 0
  else amountOf current.amount

lemma remaining_eq_sub (existing : List StoredReservation) (d : Dimension) :
    remaining existing d = amountOf d.limit - (existing.map (·.taken d.id)).sum := by
  unfold remaining
  generalize amountOf d.limit = left
  induction existing generalizing left with
  | nil => simp
  | cons current existing ih =>
    rw [foldl_cons, ih, map_cons, sum_cons, StoredReservation.taken]
    split_ifs <;> ring

lemma sum_taken_filter (r : Reservation) {ids : List String} (hid : id ∈ ids) :
    (((r.dimensions.filter (·.id ∈ ids)).map fun d =>
        (⟨d.id, r.amount, r.state, d.refundable⟩ : StoredReservation)).map (·.taken id)).sum =
      (r.dimensions.map fun d => if d.id ≠ id ∨ (r.state = .restored ∧ d.refundable) then 0
        else amountOf r.amount).sum := by
  induction r.dimensions with
  | nil => rfl
  | cons d ds ih =>
    rw [filter_cons]
    split_ifs with hd
    · rw [map_cons, map_cons, map_cons, sum_cons, sum_cons, ih]
      rfl
    · have hne : d.id ≠ id := by
        rintro rfl
        exact hd (by simpa using hid)
      rw [map_cons, sum_cons, ih, if_pos (Or.inl hne), zero_add]

lemma remaining_storedReservations (t : Tables) (organizationID : String) {ids : List String}
    (hd : d.id ∈ ids) :
    remaining (t.storedReservations organizationID ids) d =
      amountOf d.limit - t.counted organizationID d.id := by
  rw [remaining_eq_sub, Tables.storedReservations, Tables.counted, Dict.sum, map_flatMap,
    flatMap_def, sum_flatten, List.map_map]
  congr 2
  refine map_congr_left fun e _ => ?_
  obtain ⟨id, r⟩ := e
  dsimp only [Reservation.counted, Function.comp]
  by_cases horg : t.intents.lookup r.operationID = some organizationID
  · by_cases hstate : r.state.counts
    · rw [if_pos ⟨horg, hstate⟩, if_pos horg, if_pos hstate, sum_taken_filter r hd]
    · rw [if_neg (fun h => hstate h.2), if_pos horg, if_neg hstate]
      rfl
  · rw [if_neg (fun h => horg h.1), if_neg horg]
    rfl

lemma checkRemaining_none {existing : List StoredReservation} {amount : ℤ}
    (h : checkRemaining existing amount ds = none) : ∀ d ∈ ds, amount ≤ remaining existing d := by
  induction ds with
  | nil => simp
  | cons d ds ih =>
    rw [checkRemaining] at h
    split_ifs at h with hd
    exact forall_mem_cons.mpr ⟨not_lt.mp hd, ih h⟩

lemma checkRequested_nodup {amount : ℤ} {seen seen' : List String}
    (h : foldCheck (checkRequested amount) seen ds = .ok seen') :
    (ds.map (·.id)).Nodup ∧ ∀ d ∈ ds, d.id ∉ seen := by
  induction ds generalizing seen with
  | nil => simp
  | cons d ds ih =>
    obtain ⟨seen₁, hd, hds⟩ := foldCheck_cons_ok.mp h
    simp only [checkRequested, guard_ok, Except.ok.injEq] at hd
    obtain ⟨-, hnew, -, rfl⟩ := hd
    obtain ⟨hnodup, hseen⟩ := ih hds
    constructor
    · refine nodup_cons.mpr ⟨fun hmem => ?_, hnodup⟩
      obtain ⟨d', hd', heq⟩ := List.mem_map.mp hmem
      exact hseen d' hd' (heq ▸ mem_cons_self)
    · rintro d' (_ | ⟨_, hd'⟩)
      · exact hnew
      · exact fun hmem => hseen d' hd' (mem_cons_of_mem _ hmem)

lemma sum_dimensions_of_nodup (hnodup : (ds.map (·.id)).Nodup) (hd : d ∈ ds) (amount : ℤ) :
    (ds.map fun d' => if d'.id ≠ d.id then 0 else amount).sum = amount := by
  induction ds with
  | nil => simp at hd
  | cons d₀ ds ih =>
    rw [map_cons, nodup_cons] at hnodup
    rw [map_cons, sum_cons]
    rcases mem_cons.mp hd with rfl | hmem
    · have hrest : ∀ d' ∈ ds, d'.id ≠ d.id := fun d' hd' heq =>
        hnodup.1 (heq ▸ List.mem_map_of_mem hd')
      rw [if_neg (not_not.mpr rfl), map_congr_left fun d' hd' => if_pos (hrest d' hd')]
      simp
    · have hne : d₀.id ≠ d.id := fun heq => hnodup.1 (heq ▸ List.mem_map_of_mem hmem)
      rw [if_pos hne, zero_add, ih hnodup.2 hmem]

/-- The reservation that the transaction inserts. -/
def Request.stored (request : Request) (now : Time) : Reservation :=
  { request with
    expiresAt := timestamptz request.expiresAt, state := .reserved, createdAt := timestamptz now }

lemma validateReservation_nodup (h : validateReservation request = .ok ()) :
    (request.dimensions.map (·.id)).Nodup := by
  simp only [validateReservation, guard_ok, map_eq_ok] at h
  obtain ⟨-, seen, hseen, -⟩ := h
  exact (checkRequested_nodup hseen).1

variable {t : Tables} {now : Time}

/-- What `reserveBudget` leaves: room in every dimension, and the reservation in the table. -/
lemma reserveBudget_inr
    (h : t.reserveBudget organizationID request now maxActive = .ok (.inr budget)) :
    (∀ d ∈ request.dimensions,
      t.counted organizationID d.id + amountOf request.amount ≤ amountOf d.limit) ∧
    t.budget.reservations.lookup request.reservationID = none ∧
    (∀ id r, t.budget.reservations.lookup id = some r → r.operationID ≠ request.operationID) ∧
    budget.reservations = t.budget.reservations.insert request.reservationID (request.stored now) := by
  simp only [Tables.reserveBudget, guard_ok] at h
  obtain ⟨-, -, h⟩ := h
  split at h
  · cases h
  · rename_i hroom
    simp only [guard_ok, bind_eq_ok, mapError_eq_ok] at h
    obtain ⟨-, b, hreserve, -, hb⟩ := h
    cases hb
    obtain ⟨hnone, -, -, rfl⟩ := reserve_eq_ok hreserve
    refine ⟨fun d hd => ?_, hnone, fun _ _ => reserve_operation_unused hreserve, rfl⟩
    have hd' := checkRemaining_none hroom d hd
    rw [remaining_storedReservations t organizationID (List.mem_map_of_mem hd)] at hd'
    linarith

/-- Neither the authorization nor its intent has a row. -/
structure Unevaluated (t : Tables) (input : ExecutionInput ρ) : Prop where
  authorization : t.authorizations.lookup input.authorizationID = none
  intent : ∀ id row, t.authorizations.lookup id = some row → row.intentID ≠ input.intentID

/-- The three ways in which a call commits. -/
inductive Evaluates (t : Tables) (input : ExecutionInput ρ) (now : Time) :
    Tables → Evaluation ρ → Prop where
  | existing (a : ExecutionAuthorization ρ) : t.loadExisting input = some a →
      Evaluates t input now t (.existing a)
  | invalidated (cause : Invalidation) : Unevaluated t input → Evaluates t input now
        { t with
          authorizations := t.authorizations.insert input.authorizationID
            (input.row .invalidated none cause.reason) }
        (.invalidated { input with state := .invalidated, invalidationReason := cause.reason } cause)
  | created (organizationID : String) (maxActive : ℕ) (budget : Budget) : Unevaluated t input →
      input.valid reviewHash → validateReservation input.reservation = .ok () →
      t.intents.lookup input.intentID = some organizationID →
      t.checkDecision reviewHash input organizationID now = .ok none →
      t.reserveBudget organizationID input.reservation now maxActive = .ok (.inr budget) →
      Evaluates t input now
        { t with
          authorizations := t.authorizations.insert input.authorizationID
            (input.row .validatedAndReserved (some input.reservation.reservationID) "")
          budget }
        (.created { input with state := .validatedAndReserved, invalidationReason := "" })

variable {t' : Tables} {input : ExecutionInput ρ}

lemma insertAuthorization_ok {state : AuthorizationState}
    {reservationID : Option String} {reason : String}
    (h : t.insertAuthorization input.authorizationID (input.row state reservationID reason) = .ok t') :
    Unevaluated t input ∧ t' = { t with
      authorizations := t.authorizations.insert input.authorizationID
        (input.row state reservationID reason) } := by
  simp only [Tables.insertAuthorization, guard_ok, not_or, List.any_eq_true, Bool.or_eq_true,
    decide_eq_true_eq, not_exists, not_and, not_isSome_iff_eq_none, Except.ok.injEq] at h
  obtain ⟨⟨hnone, hintent⟩, -, ht⟩ := h
  exact ⟨⟨hnone, fun id row hrow => (hintent ⟨id, row⟩ (mem_lookup_iff.mp hrow)).1⟩, ht.symm⟩

variable {reviewHash}

lemma evaluate_inr
    (h : t.evaluate reviewHash input organizationID now revalidation maxActive =
      .ok (.inr budget)) :
    t.checkDecision reviewHash input organizationID now = .ok none ∧
      t.reserveBudget organizationID input.reservation now maxActive = .ok (.inr budget) := by
  simp only [Tables.evaluate, bind_eq_ok] at h
  obtain ⟨cause | _, hdecision, h⟩ := h
  · simp only [bind_eq_ok] at h
    obtain ⟨reason, -, h⟩ := h
    split_ifs at h
    · cases h
    · exact ⟨hdecision, h⟩
  · cases h

variable {o : Evaluation ρ}

lemma validateAndReserve_cases
    (h : t.validateAndReserve reviewHash input now revalidation maxActive = .ok (t', o)) :
    (input.valid reviewHash ∧ validateReservation input.reservation = .ok ()) ∧
      Evaluates reviewHash t input now t' o := by
  simp only [Tables.validateAndReserve, guard_ok, not_or, Bool.not_eq_false, bind_unit_eq_ok] at h
  obtain ⟨⟨hvalid, -⟩, hreservation, h⟩ := h
  refine ⟨⟨hvalid, hreservation⟩, ?_⟩
  split at h
  · rename_i a ha
    cases h
    exact .existing a ha
  · split at h
    · cases h
    · rename_i organizationID horganization
      simp only [bind_eq_ok] at h
      obtain ⟨cause | budget, hevaluate, h⟩ := h
      · simp only [map_eq_ok] at h
        obtain ⟨t₁, hinsert, h⟩ := h
        obtain ⟨hnew, rfl⟩ := insertAuthorization_ok hinsert
        cases h
        exact .invalidated cause hnew
      · simp only [map_eq_ok] at h
        obtain ⟨t₁, hinsert, h⟩ := h
        obtain ⟨hnew, rfl⟩ := insertAuthorization_ok hinsert
        cases h
        obtain ⟨hdecision, hreserve⟩ := evaluate_inr hevaluate
        exact .created organizationID maxActive budget ⟨hnew.authorization, hnew.intent⟩ hvalid
          hreservation horganization hdecision hreserve

/-! ## The decision -/

/-- The authorization rests on an APPROVED approval that has not expired, or on an automatic
decision, of the intent and over the snapshot of the review. -/
inductive DecidedBy (reviewHash : ρ → Option String) (t : Tables) (input : ExecutionInput ρ)
    (organizationID : String) (now : Time) : Prop where
  | approval (p : Approval) : t.approvals.lookup input.approvalID = some p →
      p.intentID = input.intentID → p.organizationID = organizationID → p.state = .approved →
      now.before p.expiresAt → reviewHash input.review = some p.reviewSnapshotHash →
      input.autoDecisionRef = "" → DecidedBy reviewHash t input organizationID now
  | automatic (d : PolicyDecision) : t.decisions.lookup input.autoDecisionRef = some d →
      d.operationID = input.intentID → d.organizationID = organizationID → d.outcome = .autoApprove →
      reviewHash input.review = some d.reviewSnapshotHash → input.approvalID = "" →
      DecidedBy reviewHash t input organizationID now

lemma valid_operationID (h : input.valid reviewHash) :
    input.reservation.operationID = input.intentID := by
  simp only [ExecutionInput.valid, Bool.and_eq_true, decide_eq_true_eq] at h
  exact h.1.1.1.2

/-- With an approval, the review is the one of the snapshot and there is no other reference. -/
lemma valid_approval (h : input.valid reviewHash) (happroval : input.approvalID ≠ "") :
    input.autoDecisionRef = "" ∧ reviewHash input.review = some input.approvalSnapshotHash := by
  simp only [ExecutionInput.valid, Bool.and_eq_true, Bool.or_eq_true, decide_eq_true_eq] at h
  rcases h.2 with h | h
  · exact ⟨h.1.2, h.2⟩
  · exact absurd h.1.1.1 happroval

lemma checkDecision_decidedBy (hvalid : input.valid reviewHash)
    (h : t.checkDecision reviewHash input organizationID now = .ok none) :
    DecidedBy reviewHash t input organizationID now := by
  unfold Tables.checkDecision at h
  split_ifs at h with happroval
  · obtain ⟨hauto, hreview⟩ := valid_approval hvalid happroval
    split at h
    · cases h
    · rename_i p hp
      obtain ⟨hlookup, hp⟩ := filter_eq_some_iff.mp hp
      simp only [Bool.and_eq_true, decide_eq_true_eq] at hp
      split_ifs at h with hstate hsnapshot hexpired
      · cases h
      · cases h
      · cases h
      · exact .approval p hlookup hp.1 hp.2 (not_not.mp hstate) (by simpa using hexpired)
          (by rw [hreview, not_not.mp hsnapshot]) hauto
  · split at h
    · cases h
    · rename_i d hd
      obtain ⟨hlookup, hd⟩ := filter_eq_some_iff.mp hd
      simp only [Bool.and_eq_true, decide_eq_true_eq] at hd
      simp only [guard_ok, not_not] at h
      exact .automatic d hlookup hd.1.1 hd.1.2 hd.2 h.1 (not_not.mp happroval)

/-! ## Runs -/

/-- What the UNIQUE columns `intent_id` and `operation_id` keep: one authorization and one
reservation for an intent. -/
structure Constrained (t : Tables) : Prop where
  authorizations : ∀ id id' row row', t.authorizations.lookup id = some row →
    t.authorizations.lookup id' = some row' → row.intentID = row'.intentID → id = id'
  reservations : ∀ id id' r r', t.budget.reservations.lookup id = some r →
    t.budget.reservations.lookup id' = some r' → r.operationID = r'.operationID → id = id'

/-- Insertion of a row whose column has no equal keeps the column unique. -/
lemma unique_insert {ν : Type} {f : ν → String} {m : Dict String ν} {k : String} {v : ν}
    (hunique : ∀ id id' x x', m.lookup id = some x → m.lookup id' = some x' → f x = f x' → id = id')
    (hnew : ∀ id x, m.lookup id = some x → f x ≠ f v) :
    ∀ id id' x x', (m.insert k v).lookup id = some x → (m.insert k v).lookup id' = some x' →
      f x = f x' → id = id' := by
  intro id id' x x' hx hx' heq
  rcases lookup_insert_eq_some.mp hx with ⟨hid, rfl⟩ | ⟨-, hold⟩ <;>
    rcases lookup_insert_eq_some.mp hx' with ⟨hid', rfl⟩ | ⟨-, hold'⟩
  · exact hid.trans hid'.symm
  · exact absurd heq.symm (hnew _ _ hold')
  · exact absurd heq (hnew _ _ hold)
  · exact hunique _ _ _ _ hold hold' heq

lemma Constrained.evaluates
    (h : Constrained t) (hstep : Evaluates reviewHash t input now t' o) : Constrained t' := by
  cases hstep with
  | existing => exact h
  | invalidated cause hnew =>
    exact ⟨unique_insert (f := AuthorizationRow.intentID) h.authorizations hnew.intent, h.reservations⟩
  | created organizationID maxActive budget hnew hvalid hreservation horganization hdecision hreserve =>
    refine ⟨unique_insert (f := AuthorizationRow.intentID) h.authorizations hnew.intent, ?_⟩
    obtain ⟨-, -, hunused, hbudget⟩ := reserveBudget_inr hreserve
    dsimp only
    rw [hbudget]
    exact unique_insert (f := fun r : Reservation => r.operationID) h.reservations hunused

lemma Constrained.move {b : Budget} {target : ReservationState}
    (h : Constrained t) (hmove : t.budget.move id target = .ok b) :
    Constrained { t with budget := b } := by
  obtain ⟨r, hr, -, hset⟩ := move_eq_ok hmove
  have hsame : ∀ k r', b.reservations.lookup k = some r' →
      ∃ r₀, t.budget.reservations.lookup k = some r₀ ∧ r₀.operationID = r'.operationID := by
    intro k r' hr'
    rw [lookup_setReservation hr hset] at hr'
    split_ifs at hr' with hk
    · cases hr'
      exact ⟨r, hk ▸ hr, rfl⟩
    · exact ⟨r', hr', rfl⟩
  refine ⟨h.authorizations, fun k k' x x' hx hx' heq => ?_⟩
  obtain ⟨y, hy, hyx⟩ := hsame k x hx
  obtain ⟨y', hy', hyx'⟩ := hsame k' x' hx'
  exact h.reservations k k' y y' hy hy' (by rw [hyx, hyx', heq])

/-- The rows of the table of authorizations stay as they are. -/
def Keeps (t t' : Tables) : Prop :=
  ∀ id row, t.authorizations.lookup id = some row → t'.authorizations.lookup id = some row

lemma Evaluates.keeps (hstep : Evaluates reviewHash t input now t' o) : Keeps t t' := by
  have hinsert : ∀ row', t.authorizations.lookup input.authorizationID = none → ∀ id row,
      t.authorizations.lookup id = some row →
      (t.authorizations.insert input.authorizationID row').lookup id = some row := by
    intro row' hnone id row hrow
    refine lookup_insert_eq_some.mpr (.inr ⟨?_, hrow⟩)
    rintro rfl
    rw [hnone] at hrow
    cases hrow
  cases hstep with
  | existing => exact fun _ _ h => h
  | invalidated cause hnew | created _ _ _ hnew => exact hinsert _ hnew.authorization

lemma Constrained.call {call : ExecutionCall ρ} {o : Option (Evaluation ρ)}
    (h : Constrained t) (hcall : t.call reviewHash call = .ok (t', o)) :
    Constrained t' ∧ Keeps t t' := by
  cases call with
  | authorize input now revalidation maxActive =>
    simp only [Tables.call, map_eq_ok] at hcall
    obtain ⟨⟨t₁, o₁⟩, hauthorize, heq⟩ := hcall
    cases heq
    obtain ⟨-, hstep⟩ := validateAndReserve_cases hauthorize
    exact ⟨h.evaluates hstep, hstep.keeps⟩
  | move id target =>
    simp only [Tables.call, map_eq_ok, mapError_eq_ok] at hcall
    obtain ⟨b, hmove, heq⟩ := hcall
    cases heq
    exact ⟨h.move hmove, fun _ _ hrow => hrow⟩
  | update intents approvals decisions =>
    cases hcall
    exact ⟨⟨h.authorizations, h.reservations⟩, fun _ _ hrow => hrow⟩

lemma Constrained.run (h : Constrained t) (reviewHash : ρ → Option String)
    (calls : List (ExecutionCall ρ)) :
    Constrained (t.run reviewHash calls) ∧ Keeps t (t.run reviewHash calls) := by
  refine execute_invariant (I := fun t' => Constrained t' ∧ Keeps t t') (fun t₁ call t₂ o hpast hcall => ?_)
    ⟨h, fun _ _ hrow => hrow⟩ calls
  obtain ⟨hconstrained, hkeeps⟩ := hpast.1.call hcall
  exact ⟨hconstrained, fun id row hrow => hkeeps id row (hpast.2 id row hrow)⟩

/-! ## Admission -/

/-- What holds right after an authorization is created. -/
structure Granted (reviewHash : ρ → Option String) (t t' : Tables) (input : ExecutionInput ρ)
    (now : Time) (organizationID : String) : Prop where
  organization : t.intents.lookup input.intentID = some organizationID
  decided : DecidedBy reviewHash t input organizationID now
  bounded : ∀ d ∈ input.reservation.dimensions, t'.counted organizationID d.id ≤ amountOf d.limit
  reserved : t'.budget.reservations.lookup input.reservation.reservationID =
    some (input.reservation.stored now)
  recorded : t'.authorizations.lookup input.authorizationID =
    some (input.row .validatedAndReserved (some input.reservation.reservationID) "")

/-- What a call with this input finds of an authorization: the columns of its row, and of the
input the review, the approval's snapshot, and the amount, dimensions and expiry of the
reservation. -/
def ExecutionAuthorization.seenBy (a : ExecutionAuthorization ρ) (input : ExecutionInput ρ) :
    ExecutionAuthorization ρ :=
  { a with
    approvalSnapshotHash := input.approvalSnapshotHash
    intentID := input.intentID
    review := input.review
    reservation := { input.reservation with
      reservationID := if a.state = .validatedAndReserved then a.reservation.reservationID
        else input.reservation.reservationID } }

/-- What later calls for the authorization or its intent return. -/
structure Repeats (reviewHash : ρ → Option String) (t : Tables) (input : ExecutionInput ρ)
    (a : ExecutionAuthorization ρ) : Prop where
  same : ∀ now revalidation maxActive, input.fresh now →
    t.validateAndReserve reviewHash input now revalidation maxActive = .ok (t, .existing a)
  intent : ∀ input' now revalidation maxActive, input'.intentID = input.intentID →
    t.validateAndReserve reviewHash input' now revalidation maxActive =
      if input'.valid reviewHash = false ∨ input'.fresh now = false then .error .invalidInput
      else (validateReservation input'.reservation).map fun () => (t, .existing (a.seenBy input'))
  other : ∀ input' now revalidation maxActive,
    input'.intentID = input.intentID ∨ input'.authorizationID = input.authorizationID →
    ∀ t' o, t.validateAndReserve reviewHash input' now revalidation maxActive = .ok (t', o) →
      t' = t ∧ ∃ a', o = .existing a'

lemma stored_counted (hnodup : (request.dimensions.map (·.id)).Nodup)
    (hd : d ∈ request.dimensions) : (request.stored now).counted d.id = amountOf request.amount := by
  have hcounts : (request.stored now).state.counts := rfl
  rw [Reservation.counted, if_pos hcounts]
  refine (congrArg List.sum (map_congr_left fun d' _ => ?_)).trans
    (sum_dimensions_of_nodup hnodup hd (amountOf request.amount))
  simp [Request.stored]

variable {a : ExecutionAuthorization ρ}

lemma Evaluates.granted (hstep : Evaluates reviewHash t input now t' (.created a)) :
    ∃ organizationID, Granted reviewHash t t' input now organizationID := by
  cases hstep with
  | created organizationID maxActive budget hnew hvalid hreservation horganization hdecision hreserve =>
    obtain ⟨hroom, hnone, -, hbudget⟩ := reserveBudget_inr hreserve
    refine ⟨organizationID, horganization, checkDecision_decidedBy hvalid hdecision, fun d hd => ?_, ?_, ?_⟩
    · have hintent : t.intents.lookup (input.reservation.stored now).operationID = some organizationID :=
        (congrArg t.intents.lookup (valid_operationID hvalid)).trans horganization
      show Dict.sum _ budget.reservations ≤ _
      rw [hbudget, sum_insert_of_lookup_none hnone, if_pos hintent,
        stored_counted (validateReservation_nodup hreservation) hd]
      exact (add_comm _ _).trans_le (hroom d hd)
    · show budget.reservations.lookup _ = _
      rw [hbudget]
      exact lookup_insert _
    · exact lookup_insert _

lemma loadExisting_of_lookup (h : Constrained t)
    {row : AuthorizationRow} (hrow : t.authorizations.lookup id = some row)
    (hintent : row.intentID = input.intentID) :
    t.loadExisting input = some { input with
      authorizationID := id
      approvalID := row.approvalID
      autoDecisionRef := row.autoDecisionRef
      executionSnapshotHash := row.executionSnapshotHash
      reservation := { input.reservation with
        reservationID := row.reservationID.getD input.reservation.reservationID }
      state := row.state
      invalidationReason := row.invalidationReason } := by
  unfold Tables.loadExisting
  cases hfind : t.authorizations.entries.find? (·.2.intentID = input.intentID) with
  | none =>
    rw [List.find?_eq_none] at hfind
    exact absurd hintent (by simpa using hfind ⟨id, row⟩ (mem_lookup_iff.mp hrow))
  | some e =>
    obtain ⟨id', row'⟩ := e
    have hmem : t.authorizations.lookup id' = some row' :=
      mem_lookup_iff.mpr (List.mem_of_find?_eq_some hfind)
    have hintent' : row'.intentID = input.intentID := by simpa using List.find?_some hfind
    obtain rfl : id' = id := h.authorizations _ _ _ _ hmem hrow (hintent'.trans hintent.symm)
    rw [hrow] at hmem
    cases hmem
    rfl

lemma Evaluates.row (hstep : Evaluates reviewHash t input now t' o)
    (ho : o = .created a ∨ ∃ cause, o = .invalidated a cause) :
    a.toExecutionInput = input ∧ ∃ reservationID, t'.authorizations.lookup input.authorizationID =
      some (input.row a.state reservationID a.invalidationReason) ∧
      reservationID = if a.state = .validatedAndReserved then some input.reservation.reservationID
        else none := by
  cases hstep with
  | existing => simp at ho
  | invalidated cause hnew =>
    obtain ⟨cause', ho⟩ := ho.resolve_left (by simp)
    cases ho
    exact ⟨rfl, none, lookup_insert _, rfl⟩
  | created =>
    have ho := ho.resolve_right (by simp)
    cases ho
    exact ⟨rfl, _, lookup_insert _, rfl⟩

lemma Constrained.repeats (h : Constrained t)
    {reservationID : Option String} (ha : a.toExecutionInput = input)
    (hvalid : input.valid reviewHash)
    (hreservation : validateReservation input.reservation = .ok ())
    (hrow : t.authorizations.lookup input.authorizationID =
      some (input.row a.state reservationID a.invalidationReason))
    (hid : reservationID = if a.state = .validatedAndReserved then
      some input.reservation.reservationID else none) :
    Repeats reviewHash t input a := by
  have hload : ∀ input', input'.intentID = input.intentID →
      t.loadExisting input' = some (a.seenBy input') := by
    intro input' hintent
    rw [loadExisting_of_lookup h hrow hintent.symm]
    subst ha hid
    simp only [ExecutionInput.row, ExecutionAuthorization.seenBy]
    split_ifs <;> rfl
  have hsame : a.seenBy input = a := by
    subst ha
    simp only [ExecutionAuthorization.seenBy, ite_self]
  refine ⟨fun now revalidation maxActive hfresh => ?_,
    fun input' now revalidation maxActive hintent => ?_,
    fun input' now revalidation maxActive hsame t' o hok => ?_⟩
  · simp [Tables.validateAndReserve, hvalid, hfresh, hreservation, hload input rfl, hsame, Except.bind]
  · simp only [Tables.validateAndReserve, hload input' hintent]
    rfl
  · cases (validateAndReserve_cases hok).2 with
    | existing a' => exact ⟨rfl, a', rfl⟩
    | invalidated cause hnew | created _ _ _ hnew =>
      rcases hsame with hintent | hauth
      · exact absurd hintent.symm (hnew.intent _ _ hrow)
      · rw [← hauth, hnew.authorization] at hrow
        cases hrow

/-- In every run the tables hold one authorization and one reservation for an intent. Right after
an authorization is created the organization's reservations fit into every requested
dimension and the decision is valid; and after any further transactions a call for that intent,
or for that authorization, changes nothing. If its input is valid, also with other amounts,
dimensions or references, a call for the intent returns the authorization that exists. -/
theorem execution_admission (reviewHash : ρ → Option String) (t₀ : Tables) (h₀ : Constrained t₀)
    (before : List (ExecutionCall ρ)) :
    Constrained (t₀.run reviewHash before) ∧
    ∀ input now revalidation maxActive t' o,
      (t₀.run reviewHash before).validateAndReserve reviewHash input now revalidation maxActive =
        .ok (t', o) →
      (∀ a, o = .created a →
        ∃ organizationID, Granted reviewHash (t₀.run reviewHash before) t' input now organizationID) ∧
      ∀ a, (o = .created a ∨ ∃ cause, o = .invalidated a cause) → a.toExecutionInput = input ∧
        ∀ after, Repeats reviewHash (t'.run reviewHash after) input a := by
  have hbefore := (h₀.run reviewHash before).1
  refine ⟨hbefore, fun input now revalidation maxActive t' o hok => ⟨?_, fun a ho => ?_⟩⟩
  · rintro a rfl
    exact (validateAndReserve_cases hok).2.granted
  · obtain ⟨⟨hvalid, hreservation⟩, hstep⟩ := validateAndReserve_cases hok
    obtain ⟨ha, reservationID, hrow, hid⟩ := hstep.row ho
    refine ⟨ha, fun after => ?_⟩
    obtain ⟨hafter, hkeeps⟩ := (hbefore.evaluates hstep).run reviewHash after
    exact hafter.repeats ha hvalid hreservation (hkeeps _ _ hrow) hid

end

/-- The same input with another amount. -/
def ExecutionInput.requesting {ρ : Type} (input : ExecutionInput ρ) (amount : String) :
    ExecutionInput ρ :=
  { input with reservation := { input.reservation with amount } }

namespace Purchase

def intentID : String := "0x1111111111111111111111111111111111111111111111111111111111111111"

def decisionID : String := "0x2222222222222222222222222222222222222222222222222222222222222222"

def reservationID : String := "0x3333333333333333333333333333333333333333333333333333333333333333"

def authorizationID : String := "0x4444444444444444444444444444444444444444444444444444444444444444"

/-- Reviews are texts that are their own hash. -/
def reviewHash (review : String) : Option String := some review

/-- An intent that the policy has approved. -/
def tables : Tables where
  intents := AList.singleton intentID "acme"
  approvals := ∅
  decisions := AList.singleton decisionID
    { organizationID := "acme", operationID := intentID, outcome := .autoApprove
      reviewSnapshotHash := "review" }
  authorizations := ∅
  budget :=
    { reservations := ∅, admissions := ∅, maxActiveOperations := 1000, activeOperations := 0 }

def input : ExecutionInput String where
  authorizationID := authorizationID
  approvalID := ""
  approvalSnapshotHash := ""
  autoDecisionRef := decisionID
  intentID := intentID
  executionSnapshotHash := authorizationID
  review := "review"
  reservation :=
    { reservationID, operationID := intentID, amount := "7"
      dimensions := [{ id := "daily", limit := "10" }], expiresAt := ⟨600000000000, 0⟩ }

lemma constrained : Constrained tables := by
  constructor <;> intro id id' x x' hx <;> cases hx

def created : Except ExecutionErr (Tables × Evaluation String) → Bool
  | .ok (_, .created _) => true
  | _ => false

lemma validateAndReserve_created : ∃ t' a,
    tables.validateAndReserve reviewHash input ⟨1000, 0⟩ (.ok "") 1000 = .ok (t', .created a) := by
  have hcreated : created (tables.validateAndReserve reviewHash input ⟨1000, 0⟩ (.ok "") 1000) := by
    decide
  revert hcreated
  rcases tables.validateAndReserve reviewHash input ⟨1000, 0⟩ (.ok "") 1000 with e | ⟨t', a | a | a⟩
  · exact nofun
  · exact fun _ => ⟨t', a, rfl⟩
  · exact nofun
  · exact nofun

end Purchase

/-- The first authorization: 7 of 10 are reserved, and equal input finds it. -/
theorem execution_admission_first : ∃ t' a,
    Purchase.tables.validateAndReserve Purchase.reviewHash Purchase.input ⟨1000, 0⟩ (.ok "") 1000 =
      .ok (t', .created a) ∧
    (∃ organizationID, Granted Purchase.reviewHash Purchase.tables t' Purchase.input ⟨1000, 0⟩
      organizationID) ∧
    Repeats Purchase.reviewHash t' Purchase.input a := by
  obtain ⟨t', a, hok⟩ := Purchase.validateAndReserve_created
  obtain ⟨hgranted, hrepeats⟩ := (execution_admission Purchase.reviewHash Purchase.tables
    Purchase.constrained []).2 _ _ _ _ _ _ hok
  exact ⟨t', a, hok, hgranted a rfl, (hrepeats a (.inl rfl)).2 []⟩

/-- The same input is refused once its reservation has expired; before that, a request of 8 for
the intent is answered with the authorization of 7, as one of 8. -/
theorem repeats_differ : ∃ t' a,
    Purchase.tables.validateAndReserve Purchase.reviewHash Purchase.input ⟨1000, 0⟩ (.ok "") 1000 =
      .ok (t', .created a) ∧
    t'.validateAndReserve Purchase.reviewHash Purchase.input ⟨600000000000, 0⟩ (.ok "") 1000 =
      .error .invalidInput ∧
    t'.validateAndReserve Purchase.reviewHash (Purchase.input.requesting "8") ⟨2000, 0⟩ (.ok "") 1000 =
      .ok (t', .existing (a.seenBy (Purchase.input.requesting "8"))) := by
  obtain ⟨t', a, hok⟩ := Purchase.validateAndReserve_created
  refine ⟨t', a, hok, ?_, ?_⟩
  · have hstale : Purchase.input.fresh ⟨600000000000, 0⟩ = false := by decide
    simp [Tables.validateAndReserve, hstale]
  · obtain ⟨⟨hvalid, hreservation⟩, hstep⟩ := validateAndReserve_cases hok
    obtain ⟨ha, _, hrow, hid⟩ := hstep.row (.inl rfl)
    have hrepeats := (Purchase.constrained.evaluates hstep).repeats ha hvalid hreservation hrow hid
    rw [hrepeats.intent (Purchase.input.requesting "8") _ _ _ rfl, if_neg (by decide)]
    rfl

end FlowOps.Ascp

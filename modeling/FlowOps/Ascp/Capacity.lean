import FlowOps.Ascp.Reservation
import FlowOps.Pkg.Pattern

/-!
# Capacity admission

`internal/controlapi/migrations/0030_ascp_capacity_admission.sql` and
`internal/ascpcapacity/postgres.go`. A reservation is inserted together with an ACTIVE
admission, which counts against a maximum. A trigger on the column `state` of the
reservations releases the admission and takes it off the counter when a state that holds
capacity is left for one that does not. Nothing is done when a reservation comes back, as
it does after a reorg of the release or refund.

The only scope is `GLOBAL`, so the counter is a pair of fields. Timestamps of admissions are
read by nothing and left out.

Results:
* `capacity_exact_iff`: the counter is exact and the trigger lets every legal transition pass,
  in all states of a run, exactly if no step takes a reservation back to a state that holds
  capacity. `reorg_loses_capacity` is a run with such a step.
-/

namespace FlowOps.Ascp

open Option Dict

variable {r : Reservation} {target : ReservationState} {maxActive : ℕ}

/-! ## Tables -/

/-- `hash` (settlement.go:333). -/
def hash (value : String) : Bool := hashPattern value && value ≠ zeroHash

/-- A time as a column `timestamptz` keeps it: whole microseconds, in UTC. -/
def timestamptz (t : Time) : Time := { ns := t.ns / 1000 * 1000 }

/-- What the database answers to a statement that it refuses. -/
inductive SqlErr where
  | uniqueViolation | foreignKeyViolation | checkViolation | outOfRange
  | raised (message : String)
  | noRows
deriving DecidableEq

/-- The column `state` of `ascp_capacity_admissions` (0030:12). -/
inductive AdmissionState where
  | active | released
deriving DecidableEq

/-- A row of `ascp_capacity_admissions`. -/
structure Admission where
  operationID : String
  state : AdmissionState
  releaseReservationState : Option ReservationState := none
deriving DecidableEq

/-- `ascp_budget_reservations` by `reservation_id`, `ascp_capacity_admissions` by its UNIQUE
column `reservation_id`, and the row of `ascp_capacity_counters`. -/
structure Budget where
  reservations : Dict String Reservation
  admissions : Dict String Admission
  (maxActiveOperations activeOperations : ℕ)

/-- The states of a reservation that holds capacity (0030:30, 90). The trigger lists the
others as those that free it. -/
def ReservationState.holdsCapacity : ReservationState → Bool
  | .reserved | .authorizationLive | .committedSafe | .committedFinalized | .reorgedBack => true
  | .consumed | .restored | .released | .releasedAfterExpiry => false

/-! ## Statements -/

/-- The texts that `ascp_acquire_capacity` returns (0030:45-86). -/
inductive AcquireStatus where
  | invalid | limitMismatch | reservationMismatch | exhausted | conflict | acquired
deriving DecidableEq

/-- `ascp_acquire_capacity`. A unique violation takes back the increment of the counter. -/
def Budget.acquireCapacity (b : Budget) (operationID reservationID : String)
    (expectedMaxActive : ℕ) : AcquireStatus × Budget :=
  if expectedMaxActive < 1 ∨ 100000 < expectedMaxActive then (.invalid, b)
  else if b.maxActiveOperations ≠ expectedMaxActive then (.limitMismatch, b)
  else if (b.reservations.lookup reservationID).any
      (fun r => r.operationID = operationID && r.state = .reserved) = false then
    (.reservationMismatch, b)
  else if b.maxActiveOperations ≤ b.activeOperations then (.exhausted, b)
  else if (b.admissions.lookup reservationID).isSome ∨
      b.admissions.entries.any (·.2.operationID = operationID) then (.conflict, b)
  else
    (.acquired, { b with
      admissions := b.admissions.insert reservationID { operationID, state := .active }
      activeOperations := b.activeOperations + 1 })

/-- The insert of `reserveBudget` (ascpexecauth/postgres.go:290). -/
def Budget.insertReservation (b : Budget) (request : Request) (now : Time) : Except SqlErr Budget :=
  if (b.reservations.lookup request.reservationID).isSome ∨
      b.reservations.entries.any (·.2.operationID = request.operationID) then
    .error .uniqueViolation
  else
    let r : Reservation := { request with state := .reserved, createdAt := now }
    .ok { b with reservations := b.reservations.insert request.reservationID r }

/-- `flowops_release_capacity_on_reservation_terminal` (0030:88-116) for one updated row. -/
def Budget.releaseCapacity (b : Budget) (reservationID : String) (old new : ReservationState) :
    Except SqlErr Budget :=
  if old.holdsCapacity && !new.holdsCapacity then
    match b.admissions.lookup reservationID with
    | some ⟨operationID, .active, _⟩ =>
      if b.activeOperations = 0 then .error (.raised "capacity counter underflow")
      else
        .ok { b with
          admissions := b.admissions.insert reservationID ⟨operationID, .released, some new⟩
          activeOperations := b.activeOperations - 1 }
    | _ => .error (.raised "terminal reservation lacks exactly one active capacity admission")
  else .ok b

/-- `UPDATE ascp_budget_reservations SET state=$2 WHERE reservation_id=$1`, with its trigger. -/
def Budget.setReservation (b : Budget) (reservationID : String) (target : ReservationState) :
    Except SqlErr Budget :=
  match b.reservations.lookup reservationID with
  | none => .ok b
  | some r =>
    releaseCapacity
      { b with reservations := b.reservations.insert reservationID { r with state := target } }
      reservationID r.state target

/-! ## Transactions -/

/-- What refuses a transaction on the tables. -/
inductive BudgetErr where
  | sql (err : SqlErr)
  | capacity (status : AcquireStatus)
  | illegal
deriving DecidableEq

/-- The moves of a reservation: those of `allowed` (ascpreservation), of the bearer store
(`RESERVED` to `AUTHORIZATION_LIVE` or `RELEASED`), of settlement (`AUTHORIZATION_LIVE` or
`COMMITTED_SAFE` to one of the committed states, `COMMITTED_FINALIZED` to a terminal one)
and of its reorgs, which take a terminal one back. -/
def legal : ReservationState → ReservationState → Bool
  | .reserved, target => target = .authorizationLive || target = .released
  | .authorizationLive, target =>
    target = .committedSafe || target = .committedFinalized || target = .releasedAfterExpiry
  | .committedSafe, target =>
    target = .committedSafe || target = .committedFinalized || target = .reorgedBack
  | .committedFinalized, target =>
    target = .consumed || target = .restored || target = .reorgedBack
  | .consumed, target | .restored, target => target = .committedFinalized || target = .reorgedBack
  | .reorgedBack, target => target = .authorizationLive || target = .reserved
  | .released, _ | .releasedAfterExpiry, _ => false

/-- A transaction: `reserveBudget` with `Acquire`, or one that moves a reservation. -/
inductive BudgetCall where
  | reserve (request : Request) (now : Time) (maxActive : ℕ)
  | move (reservationID : String) (target : ReservationState)

/-- The reservation with its admission; `Acquire` fails unless it is ACQUIRED
(ascpcapacity/postgres.go:32). -/
def Budget.reserve (b : Budget) (request : Request) (now : Time) (maxActive : ℕ) :
    Except BudgetErr Budget :=
  ((b.insertReservation request now).mapError .sql).bind fun b₁ =>
    match b₁.acquireCapacity request.operationID request.reservationID maxActive with
    | (.acquired, b₂) => .ok b₂
    | (status, _) => .error (.capacity status)

/-- A legal transition of a reservation. -/
def Budget.move (b : Budget) (reservationID : String) (target : ReservationState) :
    Except BudgetErr Budget :=
  match b.reservations.lookup reservationID with
  | none => .error (.sql .noRows)
  | some r =>
    if legal r.state target = false then .error .illegal
    else (b.setReservation reservationID target).mapError .sql

def Budget.call (b : Budget) : BudgetCall → Except BudgetErr (Budget × Unit)
  | .reserve request now maxActive => (b.reserve request now maxActive).map (·, ())
  | .move reservationID target => (b.move reservationID target).map (·, ())

def Budget.run (b : Budget) (calls : List BudgetCall) : Budget := execute call b calls

/-! ## Exactness -/

def Budget.activeAdmissions (b : Budget) : ℕ :=
  b.admissions.sum fun _ a => if a.state = .active then 1 else 0

/-- The number of reservations that hold capacity. -/
def Budget.holding (b : Budget) : ℕ :=
  b.reservations.sum fun _ r => if r.state.holdsCapacity then 1 else 0

/-- The counter is the number of ACTIVE admissions and of reservations that hold capacity,
and within the maximum. -/
structure Exact (b : Budget) : Prop where
  admissions : b.activeOperations = b.activeAdmissions
  reservations : b.activeOperations = b.holding
  bound : b.activeOperations ≤ b.maxActiveOperations

/-- The trigger lets every legal transition pass. -/
def Unblocked (b : Budget) : Prop :=
  ∀ id r target, b.reservations.lookup id = some r → legal r.state target →
    ∃ b', b.setReservation id target = .ok b'

/-- What the migration leaves (0030:24-43): ACTIVE admissions for the reservations that hold
capacity, and their number as the counter. -/
structure Migrated (b : Budget) : Prop where
  admissions : ∀ id, b.admissions.lookup id =
    ((b.reservations.lookup id).filter (·.state.holdsCapacity)).map
      fun r => { operationID := r.operationID, state := .active }
  counter : b.activeOperations = b.holding
  bound : b.holding ≤ b.maxActiveOperations

/-- A transition back to a state that holds capacity. -/
def TakesBack (b : Budget) : BudgetCall → Prop
  | .reserve .. => False
  | .move id target => ∃ r, b.reservations.lookup id = some r ∧ legal r.state target ∧
      r.state.holdsCapacity = false ∧ target.holdsCapacity

instance decidableTakesBack (b : Budget) : ∀ call, Decidable (TakesBack b call)
  | .reserve .. => isFalse id
  | .move id target => inferInstanceAs (Decidable (∃ r ∈ b.reservations.lookup id,
      legal r.state target ∧ r.state.holdsCapacity = false ∧ target.holdsCapacity))

/-- Reservations that hold capacity are those with an ACTIVE admission. -/
structure Linked (b : Budget) : Prop where
  iff : ∀ id, (b.admissions.lookup id).any (·.state = .active) =
    (b.reservations.lookup id).any (·.state.holdsCapacity)
  counter : b.activeOperations = b.holding
  bound : b.activeOperations ≤ b.maxActiveOperations

lemma getD_indicator {ν : Type} (p : ν → Bool) (x : Option ν) :
    (x.map fun v => if p v then 1 else 0).getD 0 = if x.any p then 1 else 0 := by
  cases x <;> rfl

variable {b b' : Budget}

lemma Linked.exact (h : Linked b) : Exact b := by
  have hcounts : b.activeAdmissions = b.holding := by
    refine sum_eq_sum_of_getD fun id => ?_
    have hleft := getD_indicator (fun a : Admission => decide (a.state = .active))
      (b.admissions.lookup id)
    have hright := getD_indicator (fun r : Reservation => r.state.holdsCapacity)
      (b.reservations.lookup id)
    simp only [decide_eq_true_eq] at hleft
    rw [hleft, hright, h.iff id]
  exact ⟨h.counter.trans hcounts.symm, h.counter, h.bound⟩

lemma Migrated.linked (h : Migrated b) : Linked b := by
  refine ⟨fun id => ?_, h.counter, h.counter.trans_le h.bound⟩
  rw [h.admissions id]
  cases b.reservations.lookup id with
  | none => rfl
  | some r => by_cases hr : r.state.holdsCapacity <;> simp [Option.filter, hr]

section

variable {id : String} (hr : b.reservations.lookup id = some r)
include hr

/-- How the number of reservations that hold capacity changes with one row. -/
lemma holding_insert (target : ReservationState) :
    Budget.holding { b with reservations := b.reservations.insert id { r with state := target } } +
        (if r.state.holdsCapacity then 1 else 0) =
      (if target.holdsCapacity then 1 else 0) + b.holding :=
  sum_insert_of_lookup_some hr

lemma Linked.counter_pos (h : Linked b) (hstate : r.state.holdsCapacity) :
    0 < b.activeOperations := by
  have hcount := holding_insert hr .released
  have hreleased : ReservationState.released.holdsCapacity = false := rfl
  simp only [hstate, hreleased, if_true, Bool.false_eq_true, if_false] at hcount
  rw [h.counter]
  omega

lemma setReservation_keeps (hkeep : r.state.holdsCapacity = false ∨ target.holdsCapacity) :
    b.setReservation id target =
      .ok { b with reservations := b.reservations.insert id { r with state := target } } := by
  have hguard : (r.state.holdsCapacity && !target.holdsCapacity) = false := by
    rcases hkeep with h | h <;> simp [h]
  simp [Budget.setReservation, hr, Budget.releaseCapacity, hguard]

lemma lookup_setReservation (h : b.setReservation id target = .ok b') (k : String) :
    b'.reservations.lookup k =
      if k = id then some { r with state := target } else b.reservations.lookup k := by
  have hreservations : b'.reservations = b.reservations.insert id { r with state := target } := by
    rw [Budget.setReservation, hr] at h
    dsimp only [Budget.releaseCapacity] at h
    split at h
    · split at h
      · rw [guard_ok] at h
        cases h.2
        rfl
      · cases h
    · cases h
      rfl
  rw [hreservations]
  exact lookup_insert_ite _ _ _ _

lemma setReservation_frees (h : Linked b)
    (hold : r.state.holdsCapacity) (hnew : target.holdsCapacity = false) :
    ∃ a, b.admissions.lookup id = some a ∧ a.state = .active ∧
      b.setReservation id target = .ok { b with
        reservations := b.reservations.insert id { r with state := target }
        admissions := b.admissions.insert id ⟨a.operationID, .released, some target⟩
        activeOperations := b.activeOperations - 1 } := by
  have hactive := h.iff id
  rw [hr, any_some, hold] at hactive
  obtain ⟨a, ha, hstate⟩ := (any_eq_true _ _).mp hactive
  have hpos := h.counter_pos hr hold
  obtain ⟨operationID, state, release⟩ := a
  obtain rfl : state = .active := by simpa using hstate
  refine ⟨_, ha, rfl, ?_⟩
  simp [Budget.setReservation, hr, Budget.releaseCapacity, hold, hnew, ha, hpos.ne']

end

lemma Linked.unblocked (h : Linked b) : Unblocked b := by
  intro id r target hr _
  by_cases hkeep : r.state.holdsCapacity = false ∨ target.holdsCapacity
  · exact ⟨_, setReservation_keeps hr hkeep⟩
  · push Not at hkeep
    obtain ⟨a, -, -, hok⟩ := setReservation_frees hr h (by simpa using hkeep.1) (by simpa using hkeep.2)
    exact ⟨_, hok⟩

lemma Linked.setReservation (h : Linked b) {id : String} (hr : b.reservations.lookup id = some r)
    (hback : ¬(r.state.holdsCapacity = false ∧ target.holdsCapacity))
    (hset : b.setReservation id target = .ok b') : Linked b' := by
  have hcount := holding_insert hr target
  have hany : ∀ k, ((b.reservations.insert id { r with state := target }).lookup k).any
      (·.state.holdsCapacity) = if k = id then target.holdsCapacity
        else (b.reservations.lookup k).any (·.state.holdsCapacity) := by
    intro k
    rw [lookup_insert_ite]
    split_ifs <;> rfl
  by_cases hkeep : r.state.holdsCapacity = false ∨ target.holdsCapacity
  · -- Old and new state agree.
    have hsame : r.state.holdsCapacity = target.holdsCapacity := by
      cases hold : r.state.holdsCapacity <;> cases hnew : target.holdsCapacity <;> simp_all
    rw [setReservation_keeps hr hkeep] at hset
    cases hset
    refine ⟨fun k => ?_, ?_, h.bound⟩
    · rw [hany, h.iff k]
      split_ifs with hk
      · rw [hk, hr, any_some, hsame]
      · rfl
    · rw [hsame] at hcount
      exact h.counter.trans (by omega)
  · push Not at hkeep
    obtain ⟨hold, hnew⟩ : r.state.holdsCapacity ∧ target.holdsCapacity = false := by
      simpa using hkeep
    obtain ⟨a, ha, -, hok⟩ := setReservation_frees hr h hold hnew
    have hpos := h.counter_pos hr hold
    rw [hok] at hset
    cases hset
    have hbound := h.bound
    refine ⟨fun k => ?_, ?_, ?_⟩
    · rw [hany, lookup_insert_ite]
      split_ifs with hk
      · simp [hnew]
      · exact h.iff k
    · have hcounter := h.counter
      simp only [hold, hnew, if_true, Bool.false_eq_true, if_false] at hcount
      show b.activeOperations - 1 = Budget.holding _
      simp only [Budget.holding] at hcount hcounter ⊢
      omega
    · show b.activeOperations - 1 ≤ b.maxActiveOperations
      omega

lemma acquireCapacity_acquired {operationID reservationID : String}
    (h : b.acquireCapacity operationID reservationID maxActive = (.acquired, b')) :
    b.activeOperations < b.maxActiveOperations ∧ b.admissions.lookup reservationID = none ∧
      b' = { b with
        admissions := b.admissions.insert reservationID { operationID, state := .active }
        activeOperations := b.activeOperations + 1 } := by
  unfold Budget.acquireCapacity at h
  split_ifs at h with h₁ h₂ h₃ h₄ h₅ <;> simp only [Prod.mk.injEq, reduceCtorEq, false_and] at h
  simp only [not_or, not_isSome_iff_eq_none] at h₅
  exact ⟨not_le.mp h₄, h₅.1, h.2.symm⟩

lemma reserve_eq_ok {request : Request} {now : Time}
    (h : b.reserve request now maxActive = .ok b') :
    b.reservations.lookup request.reservationID = none ∧
      b.admissions.lookup request.reservationID = none ∧
      b.activeOperations < b.maxActiveOperations ∧
      b' = { b with
        reservations := b.reservations.insert request.reservationID
          { request with state := .reserved, createdAt := now }
        admissions := b.admissions.insert request.reservationID
          { operationID := request.operationID, state := .active }
        activeOperations := b.activeOperations + 1 } := by
  unfold Budget.reserve Budget.insertReservation at h
  split_ifs at h with hunique
  · cases h
  · simp only [Except.mapError, Except.bind] at h
    split at h
    · rename_i b₂ hacquire
      obtain ⟨hroom, hnone, rfl⟩ := acquireCapacity_acquired hacquire
      cases h
      simp only [not_or, not_isSome_iff_eq_none] at hunique
      exact ⟨hunique.1, hnone, hroom, rfl⟩
    · cases h

lemma reserve_operation_unused {request : Request} {now : Time}
    (h : b.reserve request now maxActive = .ok b') {id : String}
    (hr : b.reservations.lookup id = some r) : r.operationID ≠ request.operationID := by
  unfold Budget.reserve Budget.insertReservation at h
  split_ifs at h with hunique
  · cases h
  · simp only [not_or, List.any_eq_true, decide_eq_true_eq, not_exists, not_and] at hunique
    exact hunique.2 ⟨id, r⟩ (AList.mem_lookup_iff.mp hr)

lemma Linked.reserve (h : Linked b) {request : Request} {now : Time}
    (hreserve : b.reserve request now maxActive = .ok b') : Linked b' := by
  obtain ⟨hnone, -, hroom, rfl⟩ := reserve_eq_ok hreserve
  refine ⟨fun k => ?_, ?_, hroom⟩
  · rw [lookup_insert_ite, lookup_insert_ite]
    split_ifs
    · rfl
    · exact h.iff k
  · show b.activeOperations + 1 = Dict.sum _ _
    rw [sum_insert_of_lookup_none hnone, h.counter, Nat.add_comm]
    rfl

lemma move_eq_ok {id : String}
    (h : b.move id target = .ok b') : ∃ r, b.reservations.lookup id = some r ∧
      legal r.state target ∧ b.setReservation id target = .ok b' := by
  unfold Budget.move at h
  split at h
  · cases h
  · rename_i r hr
    simp only [guard_ok, Bool.not_eq_false, mapError_eq_ok] at h
    exact ⟨r, hr, h.1, h.2⟩

lemma Linked.call (h : Linked b) {call : BudgetCall} (hback : ¬TakesBack b call)
    (hcall : b.call call = .ok (b', ())) : Linked b' := by
  cases call with
  | reserve request now maxActive =>
    cases hreserve : b.reserve request now maxActive with
    | error e => simp [Budget.call, hreserve, Except.map] at hcall
    | ok b₁ =>
      simp only [Budget.call, hreserve, Except.map, ok_pair_eq, and_true] at hcall
      exact hcall ▸ h.reserve hreserve
  | move id target =>
    cases hmove : b.move id target with
    | error e => simp [Budget.call, hmove, Except.map] at hcall
    | ok b₁ =>
      simp only [Budget.call, hmove, Except.map, ok_pair_eq, and_true] at hcall
      obtain ⟨r, hr, hlegal, hset⟩ := move_eq_ok hmove
      exact hcall ▸ h.setReservation hr (fun hb => hback ⟨r, hr, hlegal, hb⟩) hset

lemma not_exact_of_takesBack (h : Exact b) {call : BudgetCall}
    (hback : TakesBack b call) : ¬Exact (transact Budget.call b call) := by
  intro hafter
  cases call with
  | reserve => exact hback
  | move id target =>
    obtain ⟨r, hr, hlegal, hold, hnew⟩ := hback
    have hset := setReservation_keeps hr (Or.inl hold : _ ∨ target.holdsCapacity)
    have hcall : b.call (.move id target) =
        .ok ({ b with reservations := b.reservations.insert id { r with state := target } }, ()) := by
      simp [Budget.call, Budget.move, hr, hlegal, hset, Except.map, Except.mapError]
    have hcount := holding_insert hr target
    have hbefore := h.reservations
    rw [transact_of_ok hcall] at hafter
    have hcounter := hafter.reservations
    simp only [hold, hnew, if_true, Bool.false_eq_true, if_false] at hcount
    simp only [Budget.holding] at hcount hbefore hcounter
    omega

/-- From what the migration leaves, the counter is exact and every legal transition passes the
trigger in all states of a run exactly if no transaction takes a reservation back to a
state that holds capacity. -/
theorem capacity_exact_iff (b : Budget) (hb : Migrated b) (calls : List BudgetCall) :
    (∀ before after, calls = before ++ after → Exact (b.run before) ∧ Unblocked (b.run before)) ↔
      ∀ before call after, calls = before ++ call :: after → ¬TakesBack (b.run before) call := by
  constructor
  · intro hexact before call after hcalls hback
    refine not_exact_of_takesBack (hexact before (call :: after) hcalls).1 hback ?_
    have hafter := (hexact (before ++ [call]) after (by simp [hcalls])).1
    rwa [Budget.run, execute_snoc] at hafter
  · intro hsteps
    have hlinked : ∀ before after, calls = before ++ after → Linked (b.run before) := by
      intro before
      induction before using List.reverseRecOn with
      | nil => exact fun _ _ => hb.linked
      | append_singleton before call ih =>
        intro after hcalls
        have hbefore := ih (call :: after) (by simp [hcalls])
        have hstep := hsteps before call after (by simp [hcalls])
        rw [Budget.run, execute_snoc]
        unfold transact
        split
        · rename_i b' o hcall
          exact hbefore.call hstep hcall
        · exact hbefore
    intro before after hcalls
    have h := hlinked before after hcalls
    exact ⟨h.exact, h.unblocked⟩

/-! ## A reorg -/

namespace Example

/-- The tables before the first reservation, with room for one. -/
def emptyBudget : Budget :=
  { reservations := ∅, admissions := ∅, maxActiveOperations := 1, activeOperations := 0 }

lemma emptyBudget_migrated : Migrated emptyBudget := ⟨fun _ => rfl, rfl, by decide⟩

def reservationID : String := "0x1111111111111111111111111111111111111111111111111111111111111111"

def purchase : Request :=
  { request "0x2222222222222222222222222222222222222222222222222222222222222222" with reservationID }

/-- A payment that is released. -/
def released : List BudgetCall :=
  [.reserve purchase ⟨1, 0⟩ 1, .move reservationID .authorizationLive,
    .move reservationID .committedFinalized, .move reservationID .consumed]

/-- It loses the release in a reorg. -/
def reorged : List BudgetCall := released ++ [.move reservationID .committedFinalized]

end Example

open Example

/-- Up to the release the counter is exact. -/
theorem capacity_exact_reserved : (emptyBudget.run released).activeAdmissions = 0 ∧
    Exact (emptyBudget.run released) ∧ Unblocked (emptyBudget.run released) := by
  have hkept : ∀ k < released.length, ∀ c ∈ released[k]?,
      ¬TakesBack (emptyBudget.run (released.take k)) c := by decide
  exact ⟨by decide, (capacity_exact_iff emptyBudget emptyBudget_migrated released).mpr
    (forall_split (p := fun before c => ¬TakesBack (emptyBudget.run before) c) hkept) _ []
      (List.append_nil _).symm⟩

/-- After the reorg a reservation holds capacity that is not counted, and its release is
refused by the trigger although it is legal. -/
theorem reorg_loses_capacity : Migrated emptyBudget ∧
    (emptyBudget.run reorged).activeOperations = 0 ∧
    (emptyBudget.run reorged).holding = 1 ∧
    ((emptyBudget.run reorged).reservations.lookup reservationID).map (·.state) =
      some .committedFinalized ∧
    legal .committedFinalized .consumed ∧
    ((emptyBudget.run reorged).setReservation reservationID .consumed).isOk = false := by
  refine ⟨emptyBudget_migrated, ?_⟩
  decide

end FlowOps.Ascp

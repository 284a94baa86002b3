import FlowOps.Common.Check
import FlowOps.Common.Decimal
import FlowOps.Common.Dict
import FlowOps.Common.GoTime
import FlowOps.Common.Transactions

/-!
# Budget reservations

`internal/ascpreservation/reservation.go`: the states of a reservation, which of them may
follow which, and the store in memory that holds one reservation for each operation. A
reservation takes its amount from every dimension that it names. `Reserve` compares the
limit with what the reservations in five of the nine states commit; `Transition` compares
nothing.

Results:
* `reserve_ok`, `transition_ok`: what a call that succeeds has checked and writes.
* `dimensions_bounded_iff`: no dimension is ever over-committed exactly if every step out of
  `REORGED_BACK` finds room, with the run `reactivation_exceeds_limit` that does not.
-/

namespace FlowOps.Ascp

open List Option

variable {operation : String} {limits : String → String}

/-! ## Model -/

/-- `State` (reservation.go:13). -/
inductive ReservationState where
  | reserved | authorizationLive | committedSafe | committedFinalized | consumed | restored
  | released | releasedAfterExpiry | reorgedBack
deriving DecidableEq

/-- `Dimension` (reservation.go:32). -/
structure Dimension where
  (id limit : String)
  refundable : Bool := false
deriving DecidableEq

/-- `Request` (reservation.go:37). -/
structure Request where
  (reservationID operationID amount : String)
  dimensions : List Dimension
  expiresAt : Time
deriving DecidableEq

/-- `Reservation` (reservation.go:42). -/
structure Reservation extends Request where
  state : ReservationState
  createdAt : Time
deriving DecidableEq

/-- The errors of the package (reservation.go:26-30). -/
inductive ReservationErr where
  | budgetExceeded | transition | duplicate
deriving DecidableEq

/-- `Store` (reservation.go:47): the reservations by operation. -/
abbrev Store := Dict String Reservation

/-- `number` (reservation.go:121). A plus sign is accepted. -/
def number (v : String) : Option ℤ :=
  if v = "" ∨ v.toList.head? = some '0' then none
  else
    match setString v with
    | none => none
    | some n => if 0 < n ∧ n < 2 ^ 256 then some n else none

/-- `includes` (reservation.go:98). -/
def includes (ds : List Dimension) (id : String) : Bool := ds.any (·.id = id)

/-- The states that `Reserve` counts (reservation.go:69). -/
def ReservationState.commits : ReservationState → Bool
  | .reserved | .authorizationLive | .committedSafe | .committedFinalized | .consumed => true
  | .restored | .released | .releasedAfterExpiry | .reorgedBack => false

/-- What a reservation takes from a dimension. -/
def Reservation.commitment (r : Reservation) (id : String) : ℤ :=
  if r.state.commits && includes r.dimensions id then (number r.amount).getD 0 else 0

/-- What the loop over the reservations subtracts from the limit (reservation.go:68-75). -/
def Store.committed (s : Store) (id : String) : ℤ := s.sum fun _ r => r.commitment id

/-- The checks on one dimension of a request (reservation.go:63-79). -/
def Store.checkDimension (s : Store) (amount : ℤ) (d : Dimension) : Except ReservationErr Unit :=
  match number d.limit with
  | none => .error .budgetExceeded
  | some limit =>
    if d.id = "" ∨ limit < amount then .error .budgetExceeded
    else if limit - s.committed d.id < amount then .error .budgetExceeded
    else .ok ()

/-- `Store.Reserve` (reservation.go:53). -/
def Store.reserve (s : Store) (request : Request) (now : Time) :
    Except ReservationErr (Store × Reservation) :=
  match number request.amount with
  | none => .error .transition
  | some amount =>
    if request.operationID = "" ∨ request.reservationID = "" ∨ request.dimensions = [] ∨
        request.expiresAt.after now = false then .error .transition
    else if (s.lookup request.operationID).isSome then .error .duplicate
    else
      (foldCheck (fun () d => s.checkDimension amount d) () request.dimensions).bind fun () =>
        let r : Reservation := { request with state := .reserved, createdAt := now.utc }
        .ok (s.insert request.operationID r, r)

/-- `allowed` (reservation.go:106). -/
def allowed (source target : ReservationState) (now expiry : Time) : Bool :=
  match source with
  | .reserved => target = .authorizationLive || (target = .released && !now.before expiry)
  | .authorizationLive => target = .committedSafe || target = .releasedAfterExpiry
  | .committedSafe => target = .committedFinalized || target = .reorgedBack
  | .committedFinalized => target = .consumed || target = .restored || target = .reorgedBack
  | .reorgedBack => target = .authorizationLive || target = .reserved
  | _ => false

/-- `Store.Transition` (reservation.go:84). -/
def Store.transition (s : Store) (operation : String) (target : ReservationState) (now : Time) :
    Except ReservationErr (Store × Reservation) :=
  match s.lookup operation with
  | none => .error .transition
  | some r =>
    if allowed r.state target now r.expiresAt = false then .error .transition
    else .ok (s.insert operation { r with state := target }, { r with state := target })

/-- A call of the store. Each holds the mutex, so calls do not overlap. -/
inductive StoreCall where
  | reserve (request : Request) (now : Time)
  | transition (operation : String) (target : ReservationState) (now : Time)

def Store.call (s : Store) : StoreCall → Except ReservationErr (Store × Reservation)
  | .reserve request now => s.reserve request now
  | .transition operation target now => s.transition operation target now

/-- The store after the calls, from `NewStore`. -/
def Store.run (calls : List StoreCall) : Store := execute call ∅ calls

/-! ## What a call does -/

lemma number_pos {v : String} {n : ℤ} (h : number v = some n) : 0 < n := by
  unfold number at h
  split_ifs at h
  split at h
  · cases h
  · split_ifs at h with hn
    cases h
    exact hn.1

variable {s : Store}

lemma checkDimension_ok {amount : ℤ} {d : Dimension} (h : s.checkDimension amount d = .ok ()) :
    ∃ limit, number d.limit = some limit ∧ s.committed d.id + amount ≤ limit := by
  unfold Store.checkDimension at h
  split at h
  · cases h
  · rename_i limit hlimit
    simp only [guard_ok, not_lt] at h
    exact ⟨limit, hlimit, by linarith [h.2.1]⟩

variable {s' : Store} {r : Reservation} {now : Time}

/-- A request that is granted has found its amount in every dimension. -/
lemma reserve_ok {request : Request} (h : s.reserve request now = .ok (s', r)) :
    ∃ amount, number request.amount = some amount ∧ s.lookup request.operationID = none ∧
      (∀ d ∈ request.dimensions, ∃ limit, number d.limit = some limit ∧
        s.committed d.id + amount ≤ limit) ∧
      r = { request with state := .reserved, createdAt := now.utc } ∧
      s' = s.insert request.operationID r := by
  unfold Store.reserve at h
  split at h
  · cases h
  · rename_i amount hamount
    simp only [guard_ok, Bool.not_eq_true, isSome_eq_false_iff, isNone_iff_eq_none,
      bind_unit_eq_ok, foldCheck_unit_ok] at h
    obtain ⟨-, hnone, hdims, h⟩ := h
    cases h
    exact ⟨amount, hamount, hnone, fun d hd => checkDimension_ok (hdims d hd), rfl, rfl⟩

variable {target : ReservationState}

lemma transition_ok {r' : Reservation} (h : s.transition operation target now = .ok (s', r')) :
    ∃ r, s.lookup operation = some r ∧ allowed r.state target now r.expiresAt ∧
      r' = { r with state := target } ∧ s' = s.insert operation r' := by
  unfold Store.transition at h
  split at h
  · cases h
  · rename_i r hr
    simp only [guard_ok, Bool.not_eq_false] at h
    obtain ⟨hallowed, h⟩ := h
    cases h
    exact ⟨r, hr, hallowed, rfl, rfl⟩

lemma allowed_commits {source : ReservationState} {now expiry : Time}
    (h : allowed source target now expiry) :
    source.commits ∨ source = .reorgedBack := by
  cases source with
  | reserved | authorizationLive | committedSafe | committedFinalized | consumed => exact .inl rfl
  | reorgedBack => exact .inr rfl
  | restored | released | releasedAfterExpiry => cases h

/-! ## Over-commitment -/

/-- The limit of a dimension, zero for a text that no reservation is granted with. -/
def limitOf (limits : String → String) (id : String) : ℤ := (number (limits id)).getD 0

/-- No dimension is over-committed. -/
def Bounded (limits : String → String) (s : Store) : Prop :=
  ∀ id, s.committed id ≤ limitOf limits id

/-- Each dimension is used with its own limit. -/
def SameLimits (limits : String → String) (calls : List StoreCall) : Prop :=
  ∀ request now, .reserve request now ∈ calls → ∀ d ∈ request.dimensions, d.limit = limits d.id

/-- A call that makes a reservation commit again finds room in every dimension of it. -/
def FindsRoom (limits : String → String) (s : Store) : StoreCall → Prop
  | .reserve _ _ => True
  | .transition operation target now => ∀ r, s.lookup operation = some r → r.state = .reorgedBack →
      allowed .reorgedBack target now r.expiresAt →
        ∀ d ∈ r.dimensions, s.committed d.id + (number r.amount).getD 0 ≤ limitOf limits d.id

instance decidableFindsRoom (limits : String → String) (s : Store) :
    ∀ call, Decidable (FindsRoom limits s call)
  | .reserve _ _ => isTrue trivial
  | .transition operation target now => inferInstanceAs (Decidable (∀ r ∈ s.lookup operation,
      r.state = .reorgedBack → allowed .reorgedBack target now r.expiresAt →
        ∀ d ∈ r.dimensions, s.committed d.id + (number r.amount).getD 0 ≤ limitOf limits d.id))

lemma commitment_nonneg (r : Reservation) (id : String) : 0 ≤ r.commitment id := by
  unfold Reservation.commitment
  split
  · cases h : number r.amount with
    | none => exact le_rfl
    | some n => exact (number_pos h).le
  · exact le_rfl

lemma includes_iff {ds : List Dimension} {id : String} :
    includes ds id ↔ ∃ d ∈ ds, d.id = id := by
  simp [includes]

lemma committed_insert_new (h : s.lookup operation = none) (id : String) :
    Store.committed (s.insert operation r) id = r.commitment id + s.committed id :=
  Dict.sum_insert_of_lookup_none h

lemma committed_insert (h : s.lookup operation = some r) (r' : Reservation) (id : String) :
    Store.committed (s.insert operation r') id + r.commitment id =
      r'.commitment id + s.committed id :=
  Dict.sum_insert_of_lookup_some h

/-- A step out of `REORGED_BACK` adds the amount to every dimension of the reservation. -/
lemma committed_reactivate (hr : s.lookup operation = some r) (hstate : r.state = .reorgedBack)
    (ht : target.commits) {d : Dimension} (hd : d ∈ r.dimensions) :
    Store.committed (s.insert operation { r with state := target }) d.id =
      s.committed d.id + (number r.amount).getD 0 := by
  have hincl : includes r.dimensions d.id := includes_iff.mpr ⟨d, hd, rfl⟩
  have hsum := committed_insert hr { r with state := target } d.id
  have hbefore : r.commitment d.id = 0 := by
    simp [Reservation.commitment, hstate, ReservationState.commits]
  have hafter : Reservation.commitment { r with state := target } d.id = (number r.amount).getD 0 := by
    simp [Reservation.commitment, ht, hincl]
  linarith

lemma reserve_bounded {request : Request} (hb : Bounded limits s)
    (hlimits : ∀ d ∈ request.dimensions, d.limit = limits d.id)
    (h : s.reserve request now = .ok (s', r)) : Bounded limits s' := by
  obtain ⟨amount, hamount, hnone, hdims, rfl, rfl⟩ := reserve_ok h
  intro id
  rw [committed_insert_new hnone]
  by_cases hincl : includes request.dimensions id
  · obtain ⟨d, hd, rfl⟩ := includes_iff.mp hincl
    obtain ⟨limit, hlimit, hroom⟩ := hdims d hd
    have hvalue : limitOf limits d.id = limit := by rw [limitOf, ← hlimits d hd, hlimit]; rfl
    simp only [Reservation.commitment, ReservationState.commits, hincl, hamount, Bool.and_self,
      if_true, getD_some, hvalue]
    linarith
  · have hzero := hb id
    simp only [Reservation.commitment, hincl, Bool.and_false, Bool.false_eq_true, if_false]
    linarith

lemma transition_bounded {r' : Reservation} (hb : Bounded limits s)
    (hroom : FindsRoom limits s (.transition operation target now))
    (h : s.transition operation target now = .ok (s', r')) : Bounded limits s' := by
  obtain ⟨r, hr, hallowed, rfl, rfl⟩ := transition_ok h
  intro id
  have hsum := committed_insert hr { r with state := target } id
  have hbefore := commitment_nonneg r id
  by_cases htakes : target.commits ∧ includes r.dimensions id
  · obtain ⟨ht, hincl⟩ := htakes
    rcases allowed_commits hallowed with hsource | hsource
    · -- The amount was committed already.
      have hsame : Reservation.commitment { r with state := target } id = r.commitment id := by
        simp [Reservation.commitment, ht, hsource]
      linarith [hb id]
    · obtain ⟨d, hd, rfl⟩ := includes_iff.mp hincl
      rw [committed_reactivate hr hsource ht hd]
      exact hroom r hr hsource (hsource ▸ hallowed) d hd
  · have hzero : Reservation.commitment { r with state := target } id = 0 := by
      unfold Reservation.commitment
      rw [if_neg]
      simpa using htakes
    linarith [hb id]

lemma call_bounded {call : StoreCall}
    (hb : Bounded limits s) (hlimits : SameLimits limits [call]) (hroom : FindsRoom limits s call)
    (h : s.call call = .ok (s', r)) : Bounded limits s' := by
  cases call with
  | reserve request now => exact reserve_bounded hb (hlimits request now (by simp)) h
  | transition operation target now => exact transition_bounded hb hroom h

lemma findsRoom_of_bounded {call : StoreCall}
    (hb : Bounded limits (transact Store.call s call)) : FindsRoom limits s call := by
  cases call with
  | reserve => trivial
  | transition operation target now =>
    intro r hr hstate hallowed d hd
    have ht : target.commits := by
      simp only [allowed, Bool.or_eq_true, decide_eq_true_eq] at hallowed
      rcases hallowed with rfl | rfl <;> rfl
    have hcall : s.call (.transition operation target now) =
        .ok (s.insert operation { r with state := target }, { r with state := target }) := by
      have hok : allowed r.state target now r.expiresAt := hstate ▸ hallowed
      simp [Store.call, Store.transition, hr, hok]
    have hafter := hb d.id
    rw [transact_of_ok hcall, committed_reactivate hr hstate ht hd] at hafter
    exact hafter

lemma bounded_empty (limits : String → String) : Bounded limits ∅ := by
  intro id
  show (0 : ℤ) ≤ (number (limits id)).getD 0
  cases h : number (limits id) with
  | none => exact le_rfl
  | some n => exact (number_pos h).le

/-- In a run that uses each dimension with one limit, no dimension is over-committed in any
state exactly if every step out of `REORGED_BACK` to a state that commits finds room. -/
theorem dimensions_bounded_iff (limits : String → String) (calls : List StoreCall)
    (hlimits : SameLimits limits calls) :
    (∀ before after, calls = before ++ after → Bounded limits (Store.run before)) ↔
      ∀ before call after, calls = before ++ call :: after →
        FindsRoom limits (Store.run before) call := by
  constructor
  · intro hbounded before call after hcalls
    have hafter := hbounded (before ++ [call]) after (by simp [hcalls])
    rw [Store.run, execute_snoc] at hafter
    exact findsRoom_of_bounded hafter
  · -- The induction is on the calls made so far, from the last one.
    intro hroom before
    induction before using List.reverseRecOn with
    | nil => exact fun _ _ => bounded_empty limits
    | append_singleton before call ih =>
      intro after hcalls
      have hbefore := ih (call :: after) (by simp [hcalls])
      have hstep := hroom before call after (by simp [hcalls])
      have hsame : SameLimits limits [call] := fun request now hmem =>
        hlimits request now (by rw [hcalls]; simp at hmem ⊢; simp [hmem])
      rw [Store.run, execute_snoc]
      unfold transact
      split
      · rename_i s' r h
        exact call_bounded hbefore hsame hstep h
      · exact hbefore

/-! ## A run that exceeds a limit -/

namespace Example

def dimension : Dimension := { id := "daily", limit := "10" }

def request (operation : String) : Request :=
  { reservationID := "r" ++ operation, operationID := operation, amount := "10"
    dimensions := [dimension], expiresAt := ⟨2, 0⟩ }

/-- The first reservation is re-activated after a second one has taken its place. -/
def calls : List StoreCall :=
  [.reserve (request "a") ⟨1, 0⟩, .transition "a" .authorizationLive ⟨1, 0⟩,
    .transition "a" .committedSafe ⟨1, 0⟩, .transition "a" .reorgedBack ⟨1, 0⟩,
    .reserve (request "b") ⟨1, 0⟩, .transition "a" .authorizationLive ⟨1, 0⟩]

/-- It is re-activated while it is alone. -/
def alone : List StoreCall := calls.take 4 ++ [.transition "a" .authorizationLive ⟨1, 0⟩]

lemma sameLimits {cs : List StoreCall} (h : cs ⊆ calls) : SameLimits (fun _ => "10") cs := by
  intro request now hmem d hd
  have hcalls : StoreCall.reserve request now ∈ calls := h hmem
  simp only [calls, mem_cons, StoreCall.reserve.injEq, reduceCtorEq, not_mem_nil, or_false,
    false_or] at hcalls
  rcases hcalls with ⟨rfl, -⟩ | ⟨rfl, -⟩ <;>
    · simp only [Example.request, mem_singleton] at hd
      subst hd
      rfl

/-- What holds at each position of a list holds for each way to split it. -/
lemma forall_split {ι : Type} {cs : List ι} {p : List ι → ι → Prop}
    (h : ∀ k < cs.length, ∀ c ∈ cs[k]?, p (cs.take k) c) :
    ∀ before c after, cs = before ++ c :: after → p before c := by
  rintro before c after rfl
  simpa using h before.length (by simp) c (by simp)

end Example

open Example

/-- A reservation that goes live again, with nothing else in its place, takes the whole limit
and keeps to it. -/
theorem dimensions_bounded_activation : (Store.run alone).committed "daily" = 10 ∧
      Bounded (fun _ => "10") (Store.run alone) := by
  have hroom : ∀ k < alone.length, ∀ c ∈ alone[k]?,
      FindsRoom (fun _ => "10") (Store.run (alone.take k)) c := by decide
  exact ⟨by decide, (dimensions_bounded_iff (fun _ => "10") alone (sameLimits (by simp [alone, calls]))).mpr
    (forall_split (p := fun before => FindsRoom _ (Store.run before)) hroom) _ [] (append_nil _).symm⟩

/-- Two reservations of 10 commit 20 against a limit of 10. -/
theorem reactivation_exceeds_limit : SameLimits (fun _ => "10") calls ∧
    ¬Bounded (fun _ => "10") (Store.run calls) := by
  refine ⟨sameLimits (List.Subset.refl _), fun h => ?_⟩
  have hcommitted : (Store.run calls).committed "daily" = 20 := by decide
  have hlimit : limitOf (fun _ => "10") "daily" = 10 := by decide
  have := h "daily"
  omega

end FlowOps.Ascp

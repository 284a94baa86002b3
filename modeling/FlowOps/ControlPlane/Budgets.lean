import FlowOps.ControlPlane.Commits

/-!
# Budgets

`Submit` compares the amounts that are settled or reserved with the budgets of the policy
and the limits of the pilot. Between two submissions a reservation can be released or
settle, and the day can end. A record counts against a budget as long as it is `charged`,
which it can only cease to be; so the sum of what is charged grows by an accepted
submission only, whose check has bounded it.

The checks read the clock again for each record, to see whether its outcome is in the past,
after `now` was read. If midnight falls between the two, an amount that settled on the new
day counts neither as reserved nor as spent on the day of `now`.

Results: `budgets_hold`, `midnight_exceeds_daily_budget`.
-/

namespace FlowOps.ControlPlane

open List Option Dict

variable {sec : ℤ}

/-! ## Views -/

/-- A read is not earlier than another: the clock has advanced, and outcomes that were
reported have not changed. -/
structure View.Before (v w : View) : Prop where
  clock : v.clock.ns ≤ w.clock.ns
  outcome : ∀ id f, v.outcome id = some f → w.outcome id = some f

lemma View.Before.refl (v : View) : v.Before v := ⟨le_rfl, fun _ _ h => h⟩

/-- All reads of an operation fall between two views, those of the snapshot after `now`. -/
def Call.Reads (i : Call) (v w : View) : Prop :=
  v.Before w ∧ v.clock.ns ≤ i.now.ns ∧ i.now.ns ≤ w.clock.ns ∧
    match i with
    | .submit env _ _ =>
      (∀ id, v.Before (env.snapshotViews id) ∧ (env.snapshotViews id).Before w ∧
        env.now.ns ≤ (env.snapshotViews id).clock.ns) ∧
      ∀ id, v.Before (env.pilotViews id) ∧ (env.pilotViews id).Before w
    | _ => True

/-- A submission has read before a view. -/
def Call.Before (i : Call) (w : View) : Prop :=
  ∀ env failure intent, i = .submit env failure intent → env.now.ns ≤ w.clock.ns ∧
    (∀ id, (env.snapshotViews id).Before w) ∧ ∀ id, (env.pilotViews id).Before w

lemma Call.Reads.before {i : Call} {v w : View} (h : i.Reads v w) : i.Before w := by
  rintro env failure intent rfl
  obtain ⟨-, -, hnow, hsnapshot, hpilot⟩ := h
  exact ⟨hnow, fun id => (hsnapshot id).2.1, fun id => (hpilot id).2⟩

/-- The operations follow each other, and the clock only advances. -/
def Advancing : View → List Call → View → Prop
  | v, [], w => v.Before w
  | v, i :: is, w => ∃ u, i.Reads v u ∧ Advancing u is w

/-- Submissions are evaluated by one engine. -/
def Fixed (e : Engine) (i : Call) : Prop :=
  ∀ env failure intent, i = .submit env failure intent →
    ∀ intent spend, env.evaluate intent spend = .ok (e.evaluate intent spend)

/-- A submission reads the clock for its snapshot on the UTC day of `now`. -/
def SameDay (i : Call) : Prop :=
  ∀ env failure intent, i = .submit env failure intent →
    ∀ id, utcDay (env.snapshotViews id).clock.unix = utcDay env.now.unix

/-! ## What is charged -/

/-- Whether a record counts against a budget on the day of a time, as a view shows it. -/
abbrev Charge := Time → View → Record → Bool

/-- Reserved, or settled at any time. -/
def taskCharge (P : Primitives) : Charge := fun _ v r => r.reserved P v || (r.settledAt P v).isSome

/-- Reserved, or settled on the day. -/
def dailyCharge (P : Primitives) : Charge := fun now v r =>
  r.reserved P v || (r.settledAt P v).any fun sec => utcDay sec = utcDay now.unix

/-- Reserved. -/
def pilotCharge (P : Primitives) : Charge := fun _ v r => r.reserved P v

/-- Requests that wait for a decision or an issuance are charged, and what is charged has
not ended. -/
structure Charge.Lawful (ch : Charge) : Prop where
  active : ∀ {now v r}, ch now v r → reservationActive r.state
  waiting : ∀ {now v r}, r.state = .pendingApproval ∨ r.state = .approved → ch now v r

variable {P : Primitives} {v w : View}

section

variable {r : Record} {f : FinalizedExecution}

lemma finalizedExecution_issued (h : finalizedExecution P v r = some f) : r.state = .issued := by
  unfold finalizedExecution at h
  split_ifs at h with hstate
  exact not_not.mp hstate

lemma Foreign.falls {a : Authorization} (hvw : v.Before w) :
    f.Foreign P a w.clock → f.Foreign P a v.clock := by
  unfold FinalizedExecution.Foreign
  iterate 10 refine Or.imp_right ?_
  exact (unix_mono hvw.clock).trans_lt

lemma finalizedExecution_mono (hvw : v.Before w) (h : finalizedExecution P v r = some f) :
    finalizedExecution P w r = some f := by
  unfold finalizedExecution at h ⊢
  split_ifs at h ⊢ with hstate
  split at h
  · cases h
  · rename_i a ha
    split_ifs at h ⊢ with hrail
    split at h
    · cases h
    · rename_i g hg
      split_ifs at h with hforeign
      obtain rfl := Option.some.inj h
      have hforeign' : ¬g.Foreign P a w.clock := mt (Foreign.falls hvw) hforeign
      simp [hvw.outcome _ _ hg, hforeign']

lemma finalizedAt_le (h : finalizedExecution P v r = some f) : f.finalizedAt ≤ v.clock.unix := by
  unfold finalizedExecution at h
  split_ifs at h with hstate
  split at h
  · cases h
  · split_ifs at h with hrail
    split at h
    · cases h
    · split_ifs at h with hforeign
      obtain rfl := Option.some.inj h
      simp only [FinalizedExecution.Foreign, not_or, not_lt] at hforeign
      exact hforeign.2.2.2.2.2.2.2.2.2.2

lemma settledAt_eq_some (h : r.settledAt P v = some sec) : ∃ f,
    finalizedExecution P v r = some f ∧ f.state = .settled ∧ f.finalizedAt = sec := by
  unfold Record.settledAt at h
  obtain ⟨f, hf, h⟩ := bind_eq_some_iff.mp h
  split_ifs at h with hsettled
  exact ⟨f, hf, hsettled, Option.some.inj h⟩

lemma settledAt_of_finalized (h : finalizedExecution P v r = some f) (hf : f.state = .settled) :
    r.settledAt P v = some f.finalizedAt := by
  simp [Record.settledAt, h, hf]

lemma reserved_iff : r.reserved P v ↔
    reservationActive r.state ∧ finalizedExecution P v r = none := by
  simp [Record.reserved]

/-- What is not reserved any more at a later view was reserved before, or was finalized
already. -/
lemma reserved_falls (hvw : v.Before w) (h : r.reserved P w) : r.reserved P v := by
  rw [reserved_iff] at h ⊢
  refine ⟨h.1, ?_⟩
  cases hv : finalizedExecution P v r with
  | none => rfl
  | some f =>
    rw [finalizedExecution_mono hvw hv] at h
    cases h.2

lemma active_of_settledAt (h : r.settledAt P v = some sec) : reservationActive r.state := by
  obtain ⟨f, hf, -⟩ := settledAt_eq_some h
  rw [finalizedExecution_issued hf]
  rfl

lemma settledAt_falls (hvw : v.Before w) (h : r.settledAt P w = some sec) :
    r.settledAt P v = some sec ∨ r.reserved P v := by
  obtain ⟨f, hf, hsettled, hat⟩ := settledAt_eq_some h
  cases hv : finalizedExecution P v r with
  | none => exact .inr (reserved_iff.mpr ⟨active_of_settledAt h, hv⟩)
  | some g =>
    left
    have hsame := finalizedExecution_mono hvw hv
    rw [hf] at hsame
    obtain rfl := Option.some.inj hsame
    rw [settledAt_of_finalized hv hsettled, hat]

lemma reserved_of_waiting (h : r.state = .pendingApproval ∨ r.state = .approved) :
    r.reserved P v := by
  refine reserved_iff.mpr ⟨by rcases h with h | h <;> rw [h] <;> rfl, ?_⟩
  cases hv : finalizedExecution P v r with
  | none => rfl
  | some f =>
    have hissued := finalizedExecution_issued hv
    rcases h with h | h <;> rw [h] at hissued <;> cases hissued

lemma utcDay_mono {s t : ℤ} (h : s ≤ t) : utcDay s ≤ utcDay t := Int.ediv_le_ediv (by decide) h

lemma taskCharge_iff {now : Time} : taskCharge P now v r ↔
    r.reserved P v ∨ ∃ sec, r.settledAt P v = some sec := by
  rw [taskCharge, Bool.or_eq_true, isSome_iff_exists]

lemma dailyCharge_iff {now : Time} : dailyCharge P now v r ↔
    r.reserved P v ∨ ∃ sec, r.settledAt P v = some sec ∧ utcDay sec = utcDay now.unix := by
  rw [dailyCharge, Bool.or_eq_true]
  cases r.settledAt P v <;> simp

lemma pilotCharge_lawful : (pilotCharge P).Lawful where
  active h := (reserved_iff.mp h).1
  waiting h := reserved_of_waiting h

lemma taskCharge_lawful : (taskCharge P).Lawful where
  active h := by
    rcases taskCharge_iff.mp h with h | ⟨sec, h⟩
    · exact (reserved_iff.mp h).1
    · exact active_of_settledAt h
  waiting h := taskCharge_iff.mpr (.inl (reserved_of_waiting h))

lemma dailyCharge_lawful : (dailyCharge P).Lawful where
  active h := by
    rcases dailyCharge_iff.mp h with h | ⟨sec, h, -⟩
    · exact (reserved_iff.mp h).1
    · exact active_of_settledAt h
  waiting h := dailyCharge_iff.mpr (.inl (reserved_of_waiting h))

lemma taskCharge_falls {now : Time} (hvw : v.Before w) (h : taskCharge P w.clock w r) :
    taskCharge P now v r := by
  refine taskCharge_iff.mpr ?_
  rcases taskCharge_iff.mp h with h | ⟨sec, h⟩
  · exact .inl (reserved_falls hvw h)
  · rcases settledAt_falls hvw h with h | h
    · exact .inr ⟨sec, h⟩
    · exact .inl h

lemma pilotCharge_falls {now : Time} (hvw : v.Before w) (h : pilotCharge P w.clock w r) :
    pilotCharge P now v r := reserved_falls hvw h

lemma dailyCharge_falls {now : Time} (hvw : v.Before w) (hnow : now.ns ≤ w.clock.ns)
    (hday : utcDay v.clock.unix = utcDay now.unix) (h : dailyCharge P w.clock w r) :
    dailyCharge P now v r := by
  refine dailyCharge_iff.mpr ?_
  rcases dailyCharge_iff.mp h with h | ⟨sec, h, hsec⟩
  · exact .inl (reserved_falls hvw h)
  · rcases settledAt_falls hvw h with hv | hv
    · -- It settled before `v`, and on the day of `w`; so the two days are one.
      obtain ⟨f, hf, -, rfl⟩ := settledAt_eq_some hv
      have hle := utcDay_mono (finalizedAt_le hf)
      have hle' := utcDay_mono (unix_mono hnow)
      exact .inr ⟨_, hv, by omega⟩
    · exact .inl hv

end

/-! ## Sums -/

abbrev Scope := PaymentIntent → Bool

def customerScope (organizationID customerID : String) : Scope := fun i =>
  i.organizationID = organizationID && i.customerID = customerID

def taskScope (organizationID customerID taskID : String) : Scope := fun i =>
  customerScope organizationID customerID i && i.taskID = taskID

/-- The sum of the amounts that are charged in a scope. -/
def Lifecycle.exposure (l : Lifecycle) (ch : Charge) (scope : Scope) (now : Time)
    (views : String → View) : ℤ := l.total fun id r => scope r.intent && ch now (views id) r

variable {l l' : Lifecycle} {now : Time} {views : String → View}

section

variable {ch : Charge} {scope : Scope} {e : Event} {organizationID customerID taskID : String}
  {k : String} {p q : String → Record → Bool}

lemma amountOf_nonneg (h : l.OK P) {r : Record} (hr : l.records.lookup k = some r) :
    0 ≤ amountOf r.intent.amountAtomic := by
  have hvalid := (PaymentIntent.digest_eq_ok.mp (h.record hr).2.digest).1
  rw [amountOf, PaymentIntent.amount hvalid]
  exact Int.natCast_nonneg _

lemma total_mono (h : l.OK P)
    (hpq : ∀ k r, l.records.lookup k = some r → p k r → q k r) : l.total p ≤ l.total q := by
  refine Dict.sum_le_sum fun k r hr => ?_
  have hamount := amountOf_nonneg h hr
  have himp := hpq k r hr
  by_cases hp : p k r
  · rw [if_pos hp, if_pos (himp hp)]
  · rw [if_neg hp]
    split_ifs
    · exact hamount
    · exact le_rfl

lemma total_nonneg (h : l.OK P) (p : String → Record → Bool) : 0 ≤ l.total p := by
  refine Dict.sum_nonneg fun k r hr => ?_
  split_ifs
  · exact amountOf_nonneg h hr
  · exact le_rfl

lemma total_add {pq : String → Record → Bool} (hor : ∀ k r, pq k r = (p k r || q k r))
    (hand : ∀ k r, p k r → q k r → False) : l.total p + l.total q = l.total pq := by
  rw [Lifecycle.total, Lifecycle.total, sum_add, Lifecycle.total]
  congr 1
  funext k r
  have hand := hand k r
  rw [hor]
  cases hp : p k r <;> cases hq : q k r <;> simp_all

lemma not_reserved_of_settledAt {r : Record} (h : r.settledAt P v = some sec) :
    ¬r.reserved P v := by
  intro hreserved
  obtain ⟨f, hf, -⟩ := settledAt_eq_some h
  rw [(reserved_iff.mp hreserved).2] at hf
  cases hf

lemma task_exposure (now : Time) : l.taskSpent P views organizationID customerID taskID +
    l.taskReserved P views organizationID customerID taskID =
      l.exposure (taskCharge P) (taskScope organizationID customerID taskID) now views := by
  refine total_add (fun k r => ?_) fun k r hsettled hreserved => ?_
  · simp only [taskScope, customerScope, Record.concerns, taskCharge]
    grind
  · simp only [Bool.and_eq_true] at hsettled hreserved
    obtain ⟨sec, hsec⟩ := isSome_iff_exists.mp hsettled.1.2
    exact not_reserved_of_settledAt hsec hreserved.1.2

lemma daily_exposure (now : Time) : l.dailySpent P views organizationID customerID now +
    l.dailyReserved P views organizationID customerID =
      l.exposure (dailyCharge P) (customerScope organizationID customerID) now views := by
  refine total_add (fun k r => ?_) fun k r hsettled hreserved => ?_
  · simp only [customerScope, Record.concerns, dailyCharge]
    grind
  · simp only [Bool.and_eq_true] at hsettled hreserved
    cases hsec : r.settledAt P (views k) with
    | none => simp [hsec] at hsettled
    | some sec => exact not_reserved_of_settledAt hsec hreserved.2

lemma pilot_exposure (now : Time) : l.dailyReserved P views organizationID customerID =
    l.exposure (pilotCharge P) (customerScope organizationID customerID) now views := rfl

lemma exposure_mono (h : l.OK P) {now' : Time} {views' : String → View}
    (hch : ∀ k r, ch now (views k) r → ch now' (views' k) r) :
    l.exposure ch scope now views ≤ l.exposure ch scope now' views' := by
  refine total_mono h fun k r _ hcharged => ?_
  rw [Bool.and_eq_true] at hcharged ⊢
  exact ⟨hcharged.1, hch k r hcharged.2⟩

/-- A request that waited was charged: what becomes of it adds nothing. -/
lemma exposure_update (h : l.OK P) (hch : ch.Lawful) {r r' : Record}
    (hr : l.records.lookup k = some r) (hwaiting : r.state = .pendingApproval ∨ r.state = .approved)
    (hrecords : l'.records = l.records.insert k r') (hintent : r'.intent = r.intent) :
    l'.exposure ch scope now views ≤ l.exposure ch scope now views := by
  have hsum := sum_insert_of_lookup_some (v := r')
    (f := fun id r => if (scope r.intent && ch now (views id) r) then
      amountOf r.intent.amountAtomic else 0) hr
  have hamount := amountOf_nonneg h hr
  rw [Lifecycle.exposure, Lifecycle.total, hrecords, Lifecycle.exposure, Lifecycle.total]
  rw [hch.waiting hwaiting, hintent, Bool.and_true] at hsum
  by_cases hscope : scope r.intent
  · rw [if_pos hscope] at hsum
    split_ifs at hsum <;> omega
  · rw [if_neg hscope, if_neg fun h => hscope ((Bool.and_eq_true _ _).mp h).1] at hsum
    omega

lemma Applied.exposure (ha : Applied P l e l') (h : l.OK P) (hch : ch.Lawful) :
    l'.exposure ch scope now views ≤ l.exposure ch scope now views ∨
      ∃ r, e.body = .submitted r ∧ scope r.intent ∧ reservationActive r.state ∧
        l'.exposure ch scope now views =
          amountOf r.intent.amountAtomic + l.exposure ch scope now views := by
  cases ha with
  | @submitted r hbody hid htime hnew =>
    have hsum := sum_insert_of_lookup_none (v := r)
      (f := fun id r => if (scope r.intent && ch now (views id) r) then
        amountOf r.intent.amountAtomic else 0) hnew
    by_cases hcharged : (scope r.intent && ch now (views r.requestID) r)
    · right
      rw [if_pos hcharged] at hsum
      obtain ⟨hscope, hcharged⟩ := (Bool.and_eq_true _ _).mp hcharged
      exact ⟨r, hbody, hscope, hch.active hcharged, hsum⟩
    · left
      rw [if_neg hcharged, zero_add] at hsum
      exact hsum.le
  | @decided a r state hbody hlookup hvalid =>
    left
    simp only [Approval.Invalid, not_or, not_not] at hvalid
    exact exposure_update h hch hlookup (.inl hvalid.1) rfl rfl
  | issued hbody hlookup hstate => exact .inl (exposure_update h hch hlookup (.inr hstate) rfl rfl)
  | expired hbody hreason hlookup hstate => exact .inl (exposure_update h hch hlookup hstate rfl rfl)

end

/-! ## The check of a submission -/

variable {c : Config}

section

variable {e : Engine} {decision : Decision}

lemma projectedTotal_eq_some {amount t : ℕ} {x y : ℤ} (hx : 0 ≤ x) (hy : 0 ≤ y)
    (h : projectedTotal amount [toString x, toString y] = some t) : (t : ℤ) = amount + (x + y) := by
  obtain ⟨m, rfl⟩ := Int.eq_ofNat_of_zero_le hx
  obtain ⟨n, rfl⟩ := Int.eq_ofNat_of_zero_le hy
  simp only [projectedTotal] at h
  split at h
  · cases h
  · rename_i a ha
    split_ifs at h
    split at h
    · cases h
    · rename_i b hb
      split_ifs at h
      obtain rfl := Option.some.inj h
      rw [parseNonNegative_toString_eq ha, parseNonNegative_toString_eq hb]
      push_cast
      ring

lemma not_denied_ite {p : Prop} [Decidable p] {reason : Reason} {version : String} {d : Decision} :
    (if p then ⟨.deny, reason, version⟩ else d : Decision).outcome ≠ .deny ↔ ¬p ∧ d.outcome ≠ .deny := by
  split_ifs with h <;> simp [h]

lemma Engine.evaluate_within {intent : PaymentIntent} {spend : SpendSnapshot}
    (h : (e.evaluate intent spend).outcome ≠ .deny) : ∃ amount task daily,
      parsePositive intent.amountAtomic = some amount ∧
      projectedTotal amount [spend.taskSpentAtomic, spend.taskReservedAtomic] = some task ∧
      projectedTotal amount [spend.dailySpentAtomic, spend.dailyReservedAtomic] = some daily ∧
      task ≤ e.taskBudget ∧ daily ≤ e.dailyBudget := by
  simp only [evaluate, not_denied_ite] at h
  obtain ⟨-, -, -, -, -, -, h⟩ := h
  split at h
  · exact absurd rfl h
  · rename_i amount hamount
    obtain ⟨-, h⟩ := not_denied_ite.mp h
    split at h
    · exact absurd rfl h
    · rename_i task htask
      obtain ⟨htaskBudget, h⟩ := not_denied_ite.mp h
      split at h
      · exact absurd rfl h
      · rename_i daily hdaily
        obtain ⟨hdailyBudget, -⟩ := not_denied_ite.mp h
        exact ⟨amount, task, daily, hamount, htask, hdaily, not_lt.mp htaskBudget, not_lt.mp hdailyBudget⟩

lemma pilotDecision_within {intent : PaymentIntent} {proposed : Decision}
    (h : pilotDecision P c l views intent proposed = .ok decision)
    (haccepted : decision.outcome ≠ .deny) :
    proposed.outcome ≠ .deny ∧
      c.pilotLimits.check intent.amountAtomic (l.pilotOutstanding P views intent) = .ok () := by
  unfold pilotDecision at h
  split_ifs at h with hdeny
  · cases h
    exact absurd hdeny haccepted
  · refine ⟨hdeny, ?_⟩
    split at h
    · assumption
    · cases h
      exact absurd rfl haccepted
    · cases h
      exact absurd rfl haccepted
    · cases h

lemma submission_within {intent : PaymentIntent} {pilotViews : String → View} (hok : l.OK P)
    (hpilot : pilotDecision P c l pilotViews intent
      (e.evaluate intent (l.spendSnapshot P views intent now)) = .ok decision)
    (haccepted : decision.outcome ≠ .deny) :
    let scope := customerScope intent.organizationID intent.customerID
    amountOf intent.amountAtomic + l.exposure (taskCharge P)
        (taskScope intent.organizationID intent.customerID intent.taskID) now views ≤ e.taskBudget ∧
      amountOf intent.amountAtomic + l.exposure (dailyCharge P) scope now views ≤ e.dailyBudget ∧
      amountOf intent.amountAtomic + l.exposure (pilotCharge P) scope now pilotViews ≤
        c.pilotLimits.maxOutstanding := by
  obtain ⟨hevaluate, hcheck⟩ := pilotDecision_within hpilot haccepted
  obtain ⟨amount, task, daily, hamount, htask, hdaily, htaskBudget, hdailyBudget⟩ :=
    Engine.evaluate_within hevaluate
  have htotal : amountOf intent.amountAtomic = amount := by
    rw [amountOf, setString_of_parsePositive hamount]
    rfl
  rw [htotal]
  refine ⟨?_, ?_, ?_⟩
  · have heq := projectedTotal_eq_some (total_nonneg hok _) (total_nonneg hok _) htask
    rw [← task_exposure]
    exact heq.symm.trans_le (Int.ofNat_le.mpr htaskBudget)
  · have heq := projectedTotal_eq_some (total_nonneg hok _) (total_nonneg hok _) hdaily
    rw [← daily_exposure]
    exact heq.symm.trans_le (Int.ofNat_le.mpr hdailyBudget)
  · have hnonneg : 0 ≤ l.dailyReserved P pilotViews intent.organizationID intent.customerID :=
      total_nonneg hok _
    have hle := (Limits.check_amountOf hnonneg hcheck).2.2
    rw [← pilot_exposure, ← htotal]
    omega

end

/-! ## Runs -/

/-- What is settled and reserved, as a view shows it, is within the budgets. -/
structure Bounds (P : Primitives) (e : Engine) (c : Config) (l : Lifecycle) (w : View) : Prop where
  task : ∀ organizationID customerID taskID,
    l.taskSpent P (fun _ => w) organizationID customerID taskID +
      l.taskReserved P (fun _ => w) organizationID customerID taskID ≤ e.taskBudget
  daily : ∀ organizationID customerID,
    l.dailySpent P (fun _ => w) organizationID customerID w.clock +
      l.dailyReserved P (fun _ => w) organizationID customerID ≤ e.dailyBudget
  pilot : ∀ organizationID customerID,
    l.dailyReserved P (fun _ => w) organizationID customerID ≤ c.pilotLimits.maxOutstanding

section

variable {e : Engine} {i : Call} {d : Draft} {answer : Answer} {ev : Event} {o cu : String}

lemma exposure_empty {ch : Charge} {scope : Scope} {now : Time} {views : String → View} :
    ({} : Lifecycle).exposure ch scope now views = 0 := rfl

lemma bounds_empty : Bounds P e c {} w where
  task o cu t := by
    rw [task_exposure w.clock, exposure_empty]
    exact Int.natCast_nonneg _
  daily o cu := by
    rw [daily_exposure, exposure_empty]
    exact Int.natCast_nonneg _
  pilot o cu := by
    rw [pilot_exposure w.clock, exposure_empty]
    exact Int.natCast_nonneg _

lemma Bounds.mono (h : Bounds P e c l v) (hok : l.OK P) (hvw : v.Before w) : Bounds P e c l w where
  task o cu t := by
    have hv := h.task o cu t
    rw [task_exposure v.clock] at hv
    rw [task_exposure w.clock]
    exact (exposure_mono hok fun _ _ => taskCharge_falls hvw).trans hv
  daily o cu := by
    have hv := h.daily o cu
    rw [daily_exposure] at hv ⊢
    exact (exposure_mono hok fun _ _ => dailyCharge_falls hvw hvw.clock rfl).trans hv
  pilot o cu := by
    have hv := h.pilot o cu
    rw [pilot_exposure v.clock] at hv
    rw [pilot_exposure w.clock]
    exact (exposure_mono hok fun _ _ => pilotCharge_falls hvw).trans hv

lemma customerScope_self {intent : PaymentIntent} (h : customerScope o cu intent) :
    o = intent.organizationID ∧ cu = intent.customerID := by
  simp only [customerScope, Bool.and_eq_true, decide_eq_true_eq] at h
  exact ⟨h.1.symm, h.2.symm⟩

lemma taskScope_self {intent : PaymentIntent} {t : String} (h : taskScope o cu t intent) :
    o = intent.organizationID ∧ cu = intent.customerID ∧ t = intent.taskID := by
  simp only [taskScope, Bool.and_eq_true, decide_eq_true_eq] at h
  exact ⟨(customerScope_self h.1).1, (customerScope_self h.1).2, h.2.symm⟩

lemma Commit.submission {r : Record} (hcommit : Commit P c l i d answer) (hbody : d.body = .submitted r)
    (hactive : reservationActive r.state) : ∃ env failure proposed decision,
      i = .submit env failure r.intent ∧
      env.evaluate r.intent (l.spendSnapshot P env.snapshotViews r.intent env.now) = .ok proposed ∧
      pilotDecision P c l env.pilotViews r.intent proposed = .ok decision ∧ decision.outcome ≠ .deny := by
  cases hcommit with
  | @submit env failure intent requestID intentDigest proposed decision state hdigest hintent hevaluate
      hpilot hstate hnew =>
    obtain rfl := Body.submitted.inj hbody
    refine ⟨env, failure, proposed, decision, rfl, hevaluate, hpilot, fun hdeny => ?_⟩
    have hdenied : state = .denied := by
      simpa [decisionState, hdeny] using hstate.symm
    rw [show (recordOf P c env.now requestID intent intentDigest decision state).state = state from rfl,
      hdenied] at hactive
    cases hactive
  | decide | issue | expire => cases hbody

lemma Bounds.apply (h : Bounds P e c l w) (hok : l.OK P) (hcommit : Commit P c l i d answer)
    (hreads : i.Before w) (hfixed : Fixed e i) (hday : SameDay i) (hbody : ev.body = d.body)
    (ha : Applied P l ev l') : Bounds P e c l' w := by
  -- What the check of a submission says at the later view.
  have hcheck : ∀ r, ev.body = .submitted r → reservationActive r.state →
      let scope := customerScope r.intent.organizationID r.intent.customerID
      amountOf r.intent.amountAtomic + l.exposure (taskCharge P)
          (taskScope r.intent.organizationID r.intent.customerID r.intent.taskID) w.clock (fun _ => w) ≤
            e.taskBudget ∧
        amountOf r.intent.amountAtomic + l.exposure (dailyCharge P) scope w.clock (fun _ => w) ≤
            e.dailyBudget ∧
        amountOf r.intent.amountAtomic + l.exposure (pilotCharge P) scope w.clock (fun _ => w) ≤
            c.pilotLimits.maxOutstanding := by
    intro r hr hactive
    obtain ⟨env, failure, proposed, decision, rfl, hevaluate, hpilot, haccepted⟩ :=
      hcommit.submission (hbody.symm.trans hr) hactive
    rw [hfixed _ _ _ rfl] at hevaluate
    cases hevaluate
    obtain ⟨hnow, hsnapshot, hpilotViews⟩ := hreads _ _ _ rfl
    obtain ⟨htask, hdaily, hpilot⟩ := submission_within hok hpilot haccepted
    refine ⟨?_, ?_, ?_⟩
    · refine le_trans (Int.add_le_add_left ?_ _) htask
      exact exposure_mono hok fun k _ => taskCharge_falls (hsnapshot k)
    · refine le_trans (Int.add_le_add_left ?_ _) hdaily
      exact exposure_mono hok fun k _ =>
        dailyCharge_falls (hsnapshot k) hnow (hday _ _ _ rfl k)
    · refine le_trans (Int.add_le_add_left ?_ _) hpilot
      exact exposure_mono hok fun k _ => pilotCharge_falls (hpilotViews k)
  refine ⟨fun o cu t => ?_, fun o cu => ?_, fun o cu => ?_⟩
  · have hbefore := h.task o cu t
    rw [task_exposure w.clock] at hbefore ⊢
    rcases ha.exposure hok taskCharge_lawful with hle | ⟨r, hr, hscope, hactive, heq⟩
    · exact hle.trans hbefore
    · obtain ⟨rfl, rfl, rfl⟩ := taskScope_self hscope
      exact heq.trans_le (hcheck r hr hactive).1
  · have hbefore := h.daily o cu
    rw [daily_exposure] at hbefore ⊢
    rcases ha.exposure hok dailyCharge_lawful with hle | ⟨r, hr, hscope, hactive, heq⟩
    · exact hle.trans hbefore
    · obtain ⟨rfl, rfl⟩ := customerScope_self hscope
      exact heq.trans_le (hcheck r hr hactive).2.1
  · have hbefore := h.pilot o cu
    rw [pilot_exposure w.clock] at hbefore ⊢
    rcases ha.exposure hok pilotCharge_lawful with hle | ⟨r, hr, hscope, hactive, heq⟩
    · exact hle.trans hbefore
    · obtain ⟨rfl, rfl⟩ := customerScope_self hscope
      exact heq.trans_le (hcheck r hr hactive).2.2

lemma Node.call_bounds {n : Node} (hok : n.live.OK P) (h : Bounds P e c n.live v) (hreads : i.Reads v w)
    (hfixed : Fixed e i) (hday : SameDay i) :
    (n.call P c i).1.live.OK P ∧ Bounds P e c (n.call P c i).1.live w := by
  refine call_rule (I := fun n => n.live.OK P ∧ Bounds P e c n.live w) (fun _ h => h.1) i ?_ n
    ⟨hok, h.mono hok hreads.1⟩
  intro n failure d context answer ⟨hok, h⟩ hcommit
  refine ⟨commit_ok hok, ?_⟩
  rcases n.commit_cases P failure d context answer with
    ⟨err, heq⟩ | ⟨ev, happend, ⟨err, -, heq⟩ | ⟨live, happlied, heq⟩⟩
  · rwa [heq]
  · rwa [heq]
  · rw [heq]
    obtain ⟨rfl, -⟩ := append_ok happend
    exact h.apply hok hcommit hreads.before hfixed hday rfl happlied

/-- In every run in which each submission reads the clock for its snapshot on one day, what
is settled and reserved stays within the budgets of the policy and the limits of the
pilot. -/
theorem budgets_hold (P : Primitives) (e : Engine) (c : Config) (v w : View) (calls : List Call)
    (hrun : Advancing v calls w) (hfixed : ∀ i ∈ calls, Fixed e i) (hday : ∀ i ∈ calls, SameDay i) :
    Bounds P e c (run P c calls).live w := by
  have hfrom : ∀ n : Node, n.live.OK P → Bounds P e c n.live v →
      Bounds P e c (execute (transaction P c) n calls).live w := by
    induction calls generalizing v with
    | nil => exact fun n hok h => h.mono hok hrun
    | cons i is ih =>
      intro n hok h
      obtain ⟨u, hreads, hrun⟩ := hrun
      obtain ⟨hok', h'⟩ := n.call_bounds hok h hreads (hfixed i mem_cons_self)
        (hday i mem_cons_self)
      exact ih u hrun (fun j hj => hfixed j (mem_cons_of_mem _ hj))
        (fun j hj => hday j (mem_cons_of_mem _ hj)) _ hok' h'
  exact hfrom {} empty_ok bounds_empty

end

/-! ## Midnight -/

namespace Example

def time (sec : ℤ) : Time := unixTime (1700006400 + sec)

/-- The payment of the authorization settles at midnight. -/
def settlement : FinalizedExecution where
  executionID := executionIDOf primitives.toCrypto "authorization"
  organizationID := "org"
  agentID := "agent"
  taskID := "first"
  chainID := 8453
  asset := "0x2222222222222222222222222222222222222222"
  recipient := "0x1111111111111111111111111111111111111111"
  amountAtomic := "60"
  state := .settled
  finalizedAt := (time 86400).unix

def midnight : View := ⟨time 86400, fun _ => some settlement⟩

/-- A request for 60 is issued a minute before midnight. Another for 100 reads the clock
just before midnight, and again for its snapshot, at midnight. -/
def midnightCalls : List Call :=
  [.submit (submitEnv (time 86340) (fun _ => quiet (time 86340)) "first") none (intent "first" "60"),
    .issue (issueEnv (time 86341)) none "first",
    .submit (submitEnv (time 86399) (fun _ => midnight) "second") none (intent "second" "100")]

lemma quiet_before {t : Time} {w : View} (h : t.ns ≤ w.clock.ns) : (quiet t).Before w :=
  ⟨h, fun _ _ hf => by cases hf⟩

lemma submit_reads {v : View} {now : Time} {requestID : String} {failure : Option String}
    {intent : PaymentIntent} {w : View} (hvw : v.Before w) (hv : v.clock.ns ≤ now.ns)
    (hw : now.ns ≤ w.clock.ns) :
    (Call.submit (submitEnv now (fun _ => w) requestID) failure intent).Reads v w :=
  ⟨hvw, hv, hw, fun _ => ⟨hvw, .refl w, hw⟩, fun _ => ⟨hvw, .refl w⟩⟩

lemma midnightCalls_advancing : Advancing (quiet (time 0)) midnightCalls midnight := by
  refine ⟨quiet (time 86340), submit_reads (quiet_before ?_) ?_ ?_,
    quiet (time 86341), ⟨quiet_before ?_, ?_, ?_, trivial⟩,
    midnight, submit_reads (quiet_before ?_) ?_ ?_, .refl _⟩
  all_goals decide

lemma midnightCalls_fixed : ∀ i ∈ midnightCalls, Fixed engine i := by
  intro i hi env failure intent heq
  subst heq
  simp only [midnightCalls, mem_cons, Call.submit.injEq, reduceCtorEq, false_or, not_mem_nil,
    or_false] at hi
  rcases hi with ⟨rfl, -⟩ | ⟨rfl, -⟩ <;> exact fun _ _ => rfl

end Example

open Example in
/-- The first request reads the clock on one day. -/
theorem budgets_hold_first :
    Bounds primitives engine config (run primitives config (midnightCalls.take 2)).live
      (quiet (time 86341)) := by
  refine budgets_hold primitives engine config (quiet (time 0)) _ _ ?_ ?_ ?_
  · refine ⟨quiet (time 86340), submit_reads (quiet_before ?_) ?_ ?_,
      quiet (time 86341), ⟨quiet_before ?_, ?_, ?_, trivial⟩, .refl _⟩
    all_goals decide
  · exact fun i hi => midnightCalls_fixed i (mem_of_mem_take hi)
  · intro i hi env failure intent heq
    subst heq
    simp only [midnightCalls, take_succ_cons, take_zero, mem_cons, Call.submit.injEq,
      reduceCtorEq, not_mem_nil, or_false] at hi
    obtain ⟨rfl, -⟩ := hi
    exact fun _ => rfl

open Example in
/-- The second submission is accepted, and the day that begins is charged with 160. -/
theorem midnight_exceeds_daily_budget :
    Advancing (quiet (time 0)) midnightCalls midnight ∧ (∀ i ∈ midnightCalls, Fixed engine i) ∧
      ¬Bounds primitives engine config (run primitives config midnightCalls).live midnight := by
  refine ⟨midnightCalls_advancing, midnightCalls_fixed, fun h => ?_⟩
  have hcharged : (run primitives config midnightCalls).live.dailySpent primitives (fun _ => midnight)
      "org" "customer" midnight.clock + (run primitives config midnightCalls).live.dailyReserved primitives
      (fun _ => midnight) "org" "customer" = 160 := by decide
  have hdaily := h.daily "org" "customer"
  rw [hcharged] at hdaily
  exact absurd hdaily (by decide)

end FlowOps.ControlPlane

import FlowOps.Common.Timelock
import FlowOps.Contracts.ASCPSpendModule

/-!
# Caps and nonces of the spend module

The day totals and `executedPrincipal` count the same locks, each lock respects the caps
that are active, the caps change only as the Safe has scheduled it, and no nonce is
consumed twice, by whatever method. `uint64(block.timestamp)` truncates, so that caps
scheduled at `2 ^ 64` or later can be activated at once.

Results: `caps_and_nonces`, `late_schedule_activates_at_once`.
-/

namespace FlowOps.ASCPSpendModule

open Evm List

def Method.nonces : Method → List Bytes32
  | .executeLock _ a _ => [a.nonce]
  | .executeAllowance _ a _ => [a.nonce]
  | .invalidateNonces nonces _ _ => nonces
  | _ => []

def Method.principal : Method → ℕ
  | .executeLock _ a _ => a.amount
  | _ => 0

/-- The sum of `dayExecutedPrincipal` over all days. -/
def Storage.daySum (s : Storage) : ℕ := s.dayExecutedPrincipal.sum fun _ amount => amount

/-- The transaction schedules caps: the values and the time they can be activated from. -/
def schedulesCaps (x : Taken) : Option (Caps × ℕ) :=
  match x.input with
  | ⟨m, .scheduleCaps newCaps _ _⟩ =>
    some (newCaps, (uint64 m.timestamp).toNat + capActivationDelay)
  | _ => none

/-- The transaction activates caps: the time. -/
def activatesCaps (x : Taken) : Option ℕ :=
  match x.input with
  | ⟨m, .activateCaps⟩ => some m.timestamp
  | _ => none

/-- The pending caps and the time they can be activated from. -/
def Storage.pending? (s : Storage) : Option (Caps × ℕ) :=
  if s.pendingCaps.activatesAt = 0 then none
  else some (s.pendingCaps.values, s.pendingCaps.activatesAt.toNat)

/-- The caps are valid, and so are the pending ones. -/
def Storage.CapsOK (s : Storage) : Prop :=
  s.caps.Valid ∧ (s.pendingCaps.activatesAt ≠ 0 → s.pendingCaps.values.Valid)

/-! ## What one transaction does -/

section

variable {d : Deployment} {s s' : Storage} {i : Input} {m : Msg} {o : List Log}

lemma update_used {used : Bytes32 → Bool} (nonce n : Bytes32) :
    Function.update used nonce true n ↔ used n ∨ n ∈ [nonce] := by
  by_cases hn : n = nonce
  · simp [hn]
  · simp [hn]

lemma invalidateNonce_loop {used used' : Bytes32 → Bool} {nonces : List Bytes32}
    (h : foldCheck invalidateNonce used nonces = .ok used') :
    nonces.Nodup ∧ (∀ n ∈ nonces, used n = false) ∧ ∀ n, used' n ↔ used n ∨ n ∈ nonces := by
  induction nonces generalizing used with
  | nil =>
    obtain rfl : used = used' := by simpa using h
    simp
  | cons nonce nonces ih =>
    obtain ⟨used₁, hfirst, hrest⟩ := foldCheck_cons_ok.mp h
    simp only [invalidateNonce, guard_ok, not_or, Bool.not_eq_true, Except.ok.injEq] at hfirst
    obtain ⟨⟨-, hfresh⟩, rfl⟩ := hfirst
    obtain ⟨hnodup, hunused, hused⟩ := ih hrest
    have hnotMem : nonce ∉ nonces := fun hmem => by simpa using hunused nonce hmem
    refine ⟨nodup_cons.mpr ⟨hnotMem, hnodup⟩, ?_, fun n => ?_⟩
    · refine forall_mem_cons.mpr ⟨hfresh, fun n hn => ?_⟩
      have hne : n ≠ nonce := fun heq => hnotMem (heq ▸ hn)
      simpa [Function.update_of_ne hne] using hunused n hn
    · rw [hused n, update_used, mem_singleton, mem_cons, or_assoc]

lemma Step.nonces (h : Step d s i s') :
    i.method.nonces.Nodup ∧ (∀ n ∈ i.method.nonces, s.usedNonces n = false) ∧
      ∀ n, s'.usedNonces n ↔ s.usedNonces n ∨ n ∈ i.method.nonces := by
  cases h with
  | lock hnonce | allowance hnonce =>
    exact ⟨nodup_singleton _, by simpa [Method.nonces] using hnonce, update_used _⟩
  | invalidate hsender hloop => exact invalidateNonce_loop hloop
  | schedule | activate => simp [Method.nonces]
  | authorizer hsame | allowlist hsame | pause hsame => simp [Method.nonces, hsame.usedNonces]

lemma daySum_insert (days : Dict ℕ ℕ) (day amount : ℕ) :
    Dict.sum (fun _ n => n) (days.insert day ((days.lookup day).getD 0 + amount)) =
      Dict.sum (fun _ n => n) days + amount := by
  cases hday : days.lookup day with
  | none =>
    rw [Dict.sum_insert_of_lookup_none hday]
    simp [add_comm]
  | some total =>
    have hsum := Dict.sum_insert_of_lookup_some (f := fun _ n => n) (v := total + amount) hday
    simp only [Option.getD_some] at hsum ⊢
    omega

lemma Step.principal (h : Step d s i s') :
    s'.executedPrincipal = s.executedPrincipal + i.method.principal ∧
      s'.daySum = s.daySum + i.method.principal := by
  cases h with
  | lock => exact ⟨rfl, daySum_insert _ _ _⟩
  | allowance | schedule | activate | invalidate => exact ⟨rfl, rfl⟩
  | authorizer hsame | allowlist hsame | pause hsame =>
    simp [Method.principal, Storage.daySum, hsame.executedPrincipal, hsame.dayExecutedPrincipal]

lemma Storage.CapsOK.step (h : s.CapsOK) (hs : Step d s i s') : s'.CapsOK := by
  cases hs with
  | lock | allowance | invalidate => exact h
  | schedule _ hvalid => exact ⟨h.1, fun _ => hvalid⟩
  | activate hpending => exact ⟨h.2 hpending, fun hnone => absurd rfl hnone⟩
  | authorizer hsame | allowlist hsame | pause hsame =>
    rw [Storage.CapsOK, hsame.caps, hsame.pendingCaps]
    exact h

lemma schedulesCaps_of_input {newCaps : Caps} {workflowId payloadHash : Bytes32} :
    schedulesCaps ⟨s, ⟨m, .scheduleCaps newCaps workflowId payloadHash⟩, o⟩ =
      some (newCaps, (uint64 m.timestamp).toNat + capActivationDelay) := rfl

lemma Step.pending (h : Step d s i s') :
    s'.pending? = s.pending? ∧ schedulesCaps ⟨s, i, o⟩ = none ∨ s'.pending? = none ∨
      s'.pending? = schedulesCaps ⟨s, i, o⟩ := by
  cases h with
  | lock | allowance | invalidate => exact .inl ⟨rfl, rfl⟩
  | @schedule m newCaps workflowId payloadHash activatesAt _ _ hat =>
    have hat := delayed_eq_some.mp hat
    have hne : activatesAt ≠ 0 := by
      intro hzero
      rw [hzero, capActivationDelay] at hat
      simp at hat
    right
    right
    rw [schedulesCaps_of_input, hat]
    exact if_neg hne
  | activate => exact .inr (.inl rfl)
  | authorizer hsame | allowlist hsame | pause hsame =>
    exact .inl ⟨by rw [Storage.pending?, Storage.pending?, hsame.pendingCaps], rfl⟩

/-- The active caps change by `activateCaps` only, to the pending ones. -/
lemma Step.active (h : Step d s i s') : s'.caps = s.caps ∧ activatesCaps ⟨s, i, o⟩ = none ∨
      ∃ ready now, s.pending? = some (s'.caps, ready) ∧ activatesCaps ⟨s, i, o⟩ = some now ∧
        ready ≤ now := by
  cases h with
  | lock | allowance | invalidate | schedule => exact .inl ⟨rfl, rfl⟩
  | @activate m hpending htime => exact .inr ⟨_, m.timestamp, if_neg hpending, rfl, htime⟩
  | authorizer hsame | allowlist hsame | pause hsame => exact .inl ⟨hsame.caps, rfl⟩

end

/-! ## Whole runs -/

section

variable {d : Deployment} {inputs : List Input} {s' : Storage} {past later : List Taken} {x : Taken}

lemma consumed (d : Deployment) (inputs : List Input) : (∀ n, (run d inputs).usedNonces n ↔
        n ∈ (history d inputs).flatMap (·.input.method.nonces)) ∧
      ((history d inputs).flatMap (·.input.method.nonces)).Nodup := by
  refine history_rule (s := Storage.init d) (H := fun past s =>
    (∀ n, s.usedNonces n ↔ n ∈ past.flatMap (·.input.method.nonces)) ∧
      (past.flatMap (·.input.method.nonces)).Nodup)
    (by simp [Storage.init]) (fun past s i s' o ih hc => ?_) inputs
  obtain ⟨hused, hnodup⟩ := ih
  obtain ⟨hfresh, hunused, hused'⟩ := (call_ok hc).nonces
  rw [flatMap_append, flatMap_singleton]
  refine ⟨fun n => by rw [hused', hused, mem_append], hnodup.append hfresh ?_⟩
  intro n hpast hnew
  have htrue := (hused n).mpr hpast
  rw [hunused n hnew] at htrue
  cases htrue

lemma principal_eq (d : Deployment) (inputs : List Input) :
    (run d inputs).executedPrincipal = ((history d inputs).map (·.input.method.principal)).sum ∧
      (run d inputs).daySum = ((history d inputs).map (·.input.method.principal)).sum := by
  refine history_rule (s := Storage.init d) (H := fun past s =>
    s.executedPrincipal = (past.map (·.input.method.principal)).sum ∧
      s.daySum = (past.map (·.input.method.principal)).sum)
    ⟨rfl, rfl⟩ (fun past s i s' o ih hc => ?_) inputs
  obtain ⟨hexecuted, hdays⟩ := (call_ok hc).principal
  rw [map_append, sum_append, hexecuted, hdays, ih.1, ih.2]
  simp

lemma capsOK (d : Deployment) (inputs : List Input) : (run d inputs).CapsOK :=
  execute_invariant (fun _ _ _ _ h hc => h.step (call_ok hc))
    ⟨d.caps_valid, fun h => absurd rfl h⟩ inputs

lemma pending_scheduled {newCaps : Caps} {ready : ℕ}
    (h : (run d inputs).pending? = some (newCaps, ready)) :
    Scheduled schedulesCaps (history d inputs) newCaps ready :=
  (timelock_rule (fun _ => True) (fun s : Storage => s.caps) Storage.pending? rfl
    (fun _ _ _ _ _ _ => trivial) (fun _ _ _ _ hc _ => (call_ok hc).pending)
    (fun _ _ _ _ hc _ => (call_ok hc).active) inputs trivial).1 newCaps ready h

lemma exists_of_schedulesCaps {newCaps : Caps} {ready : ℕ}
    (h : schedulesCaps x = some (newCaps, ready)) : ∃ m workflowId payloadHash,
      x.input = ⟨m, .scheduleCaps newCaps workflowId payloadHash⟩ ∧
        ready = (uint64 m.timestamp).toNat + capActivationDelay := by
  unfold schedulesCaps at h
  split at h
  · rename_i m caps workflowId payloadHash hinput
    obtain ⟨rfl, rfl⟩ : caps = newCaps ∧ _ = ready := by simpa using h
    exact ⟨m, workflowId, payloadHash, hinput, rfl⟩
  · cases h

lemma exists_of_activatesCaps {now : ℕ} (h : activatesCaps x = some now) :
    x.input.msg.timestamp = now := by
  unfold activatesCaps at h
  split at h
  · rename_i m hinput
    rw [hinput]
    exact Option.some.inj h
  · cases h

lemma sender_of_scheduleCaps (hx : x ∈ history d inputs) {m : Msg} {newCaps : Caps}
    {workflowId payloadHash : Bytes32}
    (hinput : x.input = ⟨m, .scheduleCaps newCaps workflowId payloadHash⟩) : m.sender = d.safe := by
  obtain ⟨past, later, hsplit⟩ := append_of_mem hx
  obtain ⟨-, -, -, -, -, s', hc⟩ := successes_split hsplit
  rw [hinput] at hc
  cases call_ok hc with
  | schedule hsender => exact hsender

/-- The Safe scheduled these caps, at least the delay before `now` unless the time of the
schedule was truncated. -/
def ScheduledBySafe (d : Deployment) (past : List Taken) (newCaps : Caps) (now : ℕ) : Prop :=
  ∃ y ∈ past, ∃ m workflowId payloadHash,
    y.input = ⟨m, .scheduleCaps newCaps workflowId payloadHash⟩ ∧ m.sender = d.safe ∧
      (m.timestamp < 2 ^ 64 → m.timestamp + capActivationDelay ≤ now)

lemma scheduledBySafe (hsplit : history d inputs = past ++ x :: later)
    (hc : call d x.before x.input = .ok (s', x.log)) (hne : s'.caps ≠ x.before.caps) :
    ScheduledBySafe d past s'.caps x.input.msg.timestamp := by
  obtain ⟨before, after, -, hpast, hbefore, -⟩ := successes_split hsplit
  rcases (call_ok hc).active with ⟨hsame, -⟩ | ⟨ready, now, hpending, hnow, hready⟩
  · exact absurd hsame hne
  · rw [← hbefore] at hpending
    obtain ⟨a, y, b, hy, hschedules, -⟩ := pending_scheduled hpending
    obtain ⟨m, workflowId, payloadHash, hinput, rfl⟩ := exists_of_schedulesCaps hschedules
    have hmem : y ∈ past := by
      rw [← hpast, show successes (call d) (Storage.init d) before = _ from hy]
      simp
    have hsender := sender_of_scheduleCaps (hsplit ▸ mem_append_left _ hmem) hinput
    refine ⟨y, hmem, m, workflowId, payloadHash, hinput, hsender, fun hlt => ?_⟩
    rw [toNat_uint64 hlt] at hready
    exact hready.trans_eq (exists_of_activatesCaps hnow).symm

end

/-- Over every run `executedPrincipal` is the sum over the days and over the locks; each lock
respects the caps then active; the caps are valid; a change of them was scheduled by
the Safe, the delay before if the schedule was below `2 ^ 64`; no nonce is consumed
twice. -/
theorem caps_and_nonces (d : Deployment) (inputs : List Input) :
    (run d inputs).executedPrincipal = (run d inputs).daySum ∧
      (run d inputs).executedPrincipal = ((history d inputs).map (·.input.method.principal)).sum ∧
      (∀ x ∈ history d inputs, ∀ m payload a signature,
        x.input = ⟨m, .executeLock payload a signature⟩ → a.amount ≤ x.before.caps.perTransaction ∧
          ∀ s', call d x.before x.input = .ok (s', x.log) →
            s'.dayTotal (m.timestamp / 86400) ≤ s'.caps.perDay) ∧
      (run d inputs).caps.Valid ∧
      (∀ past x later s', history d inputs = past ++ x :: later →
        call d x.before x.input = .ok (s', x.log) → s'.caps ≠ x.before.caps →
        ScheduledBySafe d past s'.caps x.input.msg.timestamp) ∧
      ((history d inputs).flatMap (·.input.method.nonces)).Nodup := by
  obtain ⟨hexecuted, hdays⟩ := principal_eq d inputs
  refine ⟨hexecuted.trans hdays.symm, hexecuted, ?_, (capsOK d inputs).1,
    fun _ _ _ _ hsplit hc hne => scheduledBySafe hsplit hc hne, (consumed d inputs).2⟩
  intro x hx m payload a signature hinput
  obtain ⟨past, later, hsplit⟩ := append_of_mem hx
  obtain ⟨-, -, -, -, -, s₁, hc⟩ := successes_split hsplit
  rw [hinput] at hc ⊢
  cases call_ok hc with
  | lock hnonce htransaction hday hsafe =>
    refine ⟨htransaction, fun s' hc' => ?_⟩
    obtain ⟨rfl, -⟩ := Prod.mk.inj (Except.ok.inj (hc'.symm.trans hc))
    simpa [Storage.dayTotal] using hday

/-! ## A schedule whose time is truncated -/

namespace Example

def deployment : Deployment where
  toHost := .sample 1 2
  safe := 3
  token := 4
  spendAuthorizer := 5
  initialCaps := ⟨10, 20, 30⟩
  authorizer_ne := by decide
  caps_valid := by decide

def msg (sender : Address) (timestamp : ℕ) : Msg where
  sender
  timestamp
  hasCode _ := true
  codehash _ := 1
  decodeLock _ := none
  executionCommitmentDigest _ _ := none
  allowance _ := 0
  safeSucceeds := true

def newCaps : Caps := ⟨100, 200, 300⟩

def payloadHash : Bytes32 :=
  deployment.governancePayloadHash governanceDomain 1 deployment.scheduleCapsSelector
    (deployment.hashWords (deployment.initialCaps.words ++ newCaps.words))

/-- The Safe schedules new caps, and anyone activates them in the same block. -/
def inputs : List Input :=
  [⟨msg 3 (2 ^ 64), .scheduleCaps newCaps 1 payloadHash⟩, ⟨msg 9 (2 ^ 64), .activateCaps⟩]

set_option maxRecDepth 8000 in
lemma last_activates : (history deployment inputs).getLast?.map (fun x =>
    (x.before.pending?, x.before.caps, activatesCaps x, x.input.msg.timestamp)) =
      some (some (newCaps, 3600), deployment.initialCaps, some (2 ^ 64), 2 ^ 64) := by decide

end Example

open Example in
/-- Caps scheduled at time `2 ^ 64` have their activation time in the past: they are active
at once. -/
theorem late_schedule_activates_at_once : ∃ past x s', history deployment inputs = past ++ [x] ∧
      call deployment x.before x.input = .ok (s', x.log) ∧ s'.caps ≠ x.before.caps ∧
      ∀ y ∈ past, ∀ m caps workflowId payloadHash,
        y.input = ⟨m, .scheduleCaps caps workflowId payloadHash⟩ →
        ¬m.timestamp + capActivationDelay ≤ x.input.msg.timestamp := by
  obtain ⟨x, hx, hlast⟩ := Option.map_eq_some_iff.mp last_activates
  obtain ⟨past, hsplit⟩ := getLast?_eq_some_iff.mp hx
  simp only [Prod.mk.injEq] at hlast
  obtain ⟨hnew, hcaps, hactivates, htime⟩ := hlast
  obtain ⟨-, -, -, -, -, s', hc⟩ := successes_split hsplit
  refine ⟨past, x, s', hsplit, hc, ?_, fun y hy m caps workflowId payloadHash hinput => ?_⟩
  · rcases (call_ok hc).active (o := x.log) with ⟨-, hnone⟩ | ⟨ready, now, hpending, -, -⟩
    · exact absurd (hnone.symm.trans hactivates) (by simp)
    · rw [hnew, Option.some.injEq, Prod.mk.injEq] at hpending
      rw [← hpending.1, hcaps]
      decide
  · have hmem : y.input ∈ inputs :=
      successes_sublist.subset (mem_map_of_mem (hsplit ▸ mem_append_left _ hy))
    rw [hinput] at hmem
    simp only [inputs, mem_cons, Input.mk.injEq, reduceCtorEq, and_false, not_mem_nil,
      or_false] at hmem
    rw [htime, hmem.1]
    decide

end FlowOps.ASCPSpendModule

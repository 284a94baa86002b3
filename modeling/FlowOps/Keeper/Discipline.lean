import FlowOps.Keeper.Systems

/-!
# Nonces and broadcasts

What the workers of a keeper may be relied on for in every run: nonces are not shared, what is
sent is the transaction of a recorded attempt, and a job whose broadcast is AMBIGUOUS gets no new
attempt before an outcome returns it. A worker may sign for such a job all the same, since `Sign`
comes between two calls of the store and nothing looks at the lease there.

Results:
* `reachable_trail`: where the lease of a worker and the bytes that it sends come from.
* `records_kept`: nothing that was recorded is lost.
* `keeper_discipline`, and `signed_while_ambiguous`, a run in which a worker signs for a job that
  another one has sent.
-/

namespace FlowOps.Keeper

open List

variable {P : Primitives} {services : ℕ → Service} {σ σ' : System} {step : Step}
  {event : Option Event} {id : String}

section

/-- A step that was taken: the system before it, the step, and what left the system. -/
abbrev Taken := Success System Step (Option Event)

/-- The claim that gave a worker its lease. -/
def Claims (w : ℕ) (lease : Lease) (x : Taken) : Prop :=
  ∃ token now j, x.before.store.jobs.lookup lease.job.jobID = some j ∧ lease.job.state = j.state ∧
    (x.input = .work w (.claim lease.job.jobID token now) ∨
      x.input = .work w (.claimObservation lease.job.jobID token now) ∧ j.state.observable)

/-- The worker marked the attempt, the current one of its job, under its lease, and the store
accepted that. -/
def Marks (w : ℕ) (lease : Lease) (a : Attempt) (raw : Bytes) (x : Taken) : Prop :=
  x.before.workers w = .marking lease a raw ∧ ∃ now s j row, x.input = .work w (.mark now) ∧
    x.before.store.markBroadcasting lease a.number now = .ok s ∧
    x.before.store.jobs.lookup lease.job.jobID = some j ∧ j.currentAttempt = a.number ∧
    x.before.store.attempts.lookup (lease.job.jobID, a.number) = some row ∧ row.fixed = a.fixed

/-- Where the lease of a worker and what it is about to send come from. -/
structure Trail (past : List Taken) (σ : System) : Prop where
  claims : ∀ w lease, (σ.workers w).lease = some lease → ∃ x ∈ past, Claims w lease x
  marks : ∀ w lease a raw, σ.workers w = .sending lease a raw →
    ∃ x ∈ past, Marks w lease a raw x

variable {past : List Taken}

lemma Trail.goto (h : Trail past σ) (x : Taken) {s : Store} {w : ℕ} {next : Phase}
    (hclaims : ∀ lease, next.lease = some lease → ∃ y ∈ past ++ [x], Claims w lease y)
    (hmarks : ∀ lease a raw, next = .sending lease a raw →
      ∃ y ∈ past ++ [x], Marks w lease a raw y) :
    Trail (past ++ [x]) (System.goto { σ with store := s } w next) where
  claims v lease hlease := by
    by_cases hv : v = w
    · subst hv
      exact hclaims lease (by simpa [System.goto] using hlease)
    · obtain ⟨y, hy, hclaim⟩ := h.claims v lease (by simpa [System.goto, Function.update_of_ne hv] using hlease)
      exact ⟨y, mem_append_left _ hy, hclaim⟩
  marks v lease a raw hphase := by
    by_cases hv : v = w
    · subst hv
      exact hmarks lease a raw (by simpa [System.goto] using hphase)
    · obtain ⟨y, hy, hmark⟩ :=
        h.marks v lease a raw (by simpa [System.goto, Function.update_of_ne hv] using hphase)
      exact ⟨y, mem_append_left _ hy, hmark⟩

lemma Trail.calm (h : Trail past σ) (x : Taken) {s : Store} {w : ℕ} {next : Phase}
    (hlease : next.lease = none ∨ next.lease = (σ.workers w).lease)
    (hsilent : ∀ lease a raw, next ≠ .sending lease a raw) :
    Trail (past ++ [x]) (System.goto { σ with store := s } w next) := by
  refine h.goto x (fun lease hnext => ?_) fun lease a raw hnext => absurd hnext (hsilent lease a raw)
  obtain hnone | hsame := hlease
  · rw [hnone] at hnext
    cases hnext
  · obtain ⟨y, hy, hclaim⟩ := h.claims w lease (hsame ▸ hnext)
    exact ⟨y, mem_append_left _ hy, hclaim⟩

lemma lease_claimed {next : Lease → Phase} (hnext : ∀ lease, (next lease).lease = some lease)
    {r : Reply} {lease : Lease} (h : (claimed next r).lease = some lease) : r = .lease lease := by
  cases r with
  | lease l =>
    rw [claimed, hnext, Option.some.injEq] at h
    rw [h]
  | _ => cases h

lemma claimWhere_lease {s s' : Store} (hs : s.Sound) {p : Job → Bool} {keeperID gasPayer : String}
    {chainID : ℕ} {duration : ℤ} {jobID token : String} {now : Time} {lease : Lease}
    (h : s.claimWhere p keeperID gasPayer chainID duration jobID token now = .ok (s', lease)) :
    lease.job.jobID = jobID ∧ ∃ j, s.jobs.lookup jobID = some j ∧ p j ∧
      lease.job.state = j.state := by
  obtain ⟨j, l, t, hj, hp, hjob, -⟩ := claimWhere_ok h
  rw [hjob]
  exact ⟨hs.keyed _ j hj, j, hj, hp, rfl⟩

lemma Stepped.trail (h : Stepped P services σ step σ' event) (hσ : σ.Disciplined P)
    (ht : Trail past σ) : Trail (past ++ [⟨σ, step, event⟩]) σ' := by
  cases h with
  | enqueued input now s r hcall =>
    refine ⟨fun w lease hlease => ?_, fun w lease a raw hphase => ?_⟩
    · obtain ⟨y, hy, hclaim⟩ := ht.claims w lease hlease
      exact ⟨y, mem_append_left _ hy, hclaim⟩
    · obtain ⟨y, hy, hmark⟩ := ht.marks w lease a raw hphase
      exact ⟨y, mem_append_left _ hy, hmark⟩
  | went w label next event hact =>
    cases act_proceeds hσ.sound (hσ.holds w) hact with
    | sign lease draft signed hphase | send lease a raw answer hphase =>
      exact ht.calm _ (.inr (by rw [hphase]; rfl)) (by simp)
    | quiet _ _ hcalm => exact ht.calm _ hcalm.lease hcalm.silent
  | called w label c next failed s r hact hcall =>
    cases act_proceeds hσ.sound (hσ.holds w) hact with
    | claim jobID token now =>
      refine ht.goto _ (fun lease hlease => ?_) (by cases r <;> simp [claimed])
      obtain rfl := lease_claimed (fun _ => rfl) hlease
      obtain ⟨⟨s₁, lease₁⟩, hclaim, heq⟩ := map_eq_ok.mp hcall
      cases heq
      obtain ⟨hid, j, hj, -, hstate⟩ := claimWhere_lease hσ.sound hclaim
      exact ⟨_, mem_concat_self, token, now, j, hid ▸ hj, hstate, .inl (by rw [hid])⟩
    | claimObservation jobID token now =>
      refine ht.goto _ (fun lease hlease => ?_) (by cases r <;> simp [claimed])
      obtain rfl := lease_claimed (fun _ => rfl) hlease
      obtain ⟨⟨s₁, lease₁⟩, hclaim, heq⟩ := map_eq_ok.mp hcall
      cases heq
      obtain ⟨hid, j, hj, hobservable, hstate⟩ := claimWhere_lease hσ.sound hclaim
      exact ⟨_, mem_concat_self, token, now, j, hid ▸ hj, hstate, .inr ⟨by rw [hid], hobservable⟩⟩
    | record lease previous a raw now hphase | apply lease outcome now hphase =>
      exact ht.calm _ (.inr (by rw [hphase]; rfl)) (by simp)
    | mark lease a raw now hphase =>
      refine ht.goto _ (fun lease' hlease => ?_) fun lease' a' raw' hnext => ?_
      · obtain ⟨y, hy, hclaim⟩ := ht.claims w lease' (by rw [hphase]; exact hlease)
        exact ⟨y, mem_append_left _ hy, hclaim⟩
      · cases hnext
        have hholds := hσ.holds w
        rw [hphase] at hholds
        obtain ⟨row, hrow, hfixed⟩ := hholds.2.2
        obtain ⟨j, hj, hcurrent⟩ := markBroadcasting_current hcall
        obtain ⟨s₁, hmark, -⟩ := map_eq_ok.mp hcall
        exact ⟨_, mem_concat_self, hphase, now, s₁, j, row, rfl, hmark, hj, hcurrent, hrow, hfixed⟩
    | other _ _ _ _ hnext _ _ _ => exact ht.calm _ (hnext s r).lease (hnext s r).silent
  | refused w label c next failed hact =>
    cases act_proceeds hσ.sound (hσ.holds w) hact with
    | claim | claimObservation => exact ht.calm _ (.inl rfl) (by simp)
    | record lease previous a raw now hphase | mark lease a raw now hphase
    | apply lease outcome now hphase => exact ht.calm _ (.inr (by rw [hphase]; rfl)) (by simp)
    | other _ _ _ _ _ hfailed _ _ => exact ht.calm _ (hfailed σ.store).lease (hfailed σ.store).silent

lemma reachable_trail (P : Primitives) (services : ℕ → Service) (steps : List Step) :
    (execute (System.call P services) System.initial steps).Disciplined P ∧
      Trail (successes (System.call P services) System.initial steps)
        (execute (System.call P services) System.initial steps) := by
  refine history_rule (H := fun past (σ : System) => σ.Disciplined P ∧ Trail past σ)
    ⟨disciplined_initial, ⟨by simp [System.initial, Phase.lease], by simp [System.initial]⟩⟩
    (fun past σ step σ' event ⟨hσ, ht⟩ h => ?_) steps
  have hstepped := call_stepped h
  exact ⟨hstepped.disciplined hσ, hstepped.trail hσ ht⟩

/-- The system before a step of a run, and the step. -/
lemma trail_of_split {past rest : List Taken} {x : Taken} {steps : List Step}
    (hsplit : successes (System.call P services) System.initial steps = past ++ x :: rest) :
    x.before.Disciplined P ∧ Trail past x.before ∧
      ∃ τ, System.call P services x.before x.input = .ok (τ, x.log) := by
  obtain ⟨before, -, -, rfl, hbefore, hcall⟩ := successes_split hsplit
  obtain ⟨hdisciplined, htrail⟩ := reachable_trail P services before
  rw [hbefore] at hdisciplined htrail
  exact ⟨hdisciplined, htrail, hcall⟩

/-- A worker takes this step to send the transaction of a recorded attempt, which it marked
before. -/
def Sends (P : Primitives) (past : List Taken) (σ : System) (step : Step) (id : String) (number : ℕ)
    (raw : Bytes) : Prop :=
  ∃ w answer lease a row, step = .work w (.send answer) ∧ σ.workers w = .sending lease a raw ∧
    lease.job.jobID = id ∧ a.number = number ∧ σ.store.attempts.lookup (id, number) = some row ∧
    row.fixed = a.fixed ∧ P.openAttempt row = some raw ∧ ∃ y ∈ past, Marks w lease a raw y

lemma Trail.sent {number : ℕ} {raw : Bytes} (hσ : σ.Disciplined P) (ht : Trail past σ)
    (h : Stepped P services σ step σ' (some (.sent id number raw))) :
    Sends P past σ step id number raw := by
  cases h with
  | went w label next event hact =>
    have hholds := hσ.holds w
    cases act_proceeds hσ.sound hholds hact with
    | send lease a raw answer hphase =>
      rw [hphase] at hholds
      obtain ⟨hid, hopen, row, hrow, hfixed⟩ := hholds
      refine ⟨w, answer, lease, a, row, rfl, hphase, rfl, rfl, hrow, hfixed, ?_,
        ht.marks w lease a raw hphase⟩
      have hsame : P.openAttempt row.fixed = P.openAttempt a.fixed := by rw [hfixed]
      exact hsame.trans hopen

lemma Trail.signed {raw : Bytes} (hσ : σ.Disciplined P) (ht : Trail past σ)
    (h : Stepped P services σ step σ' (some (.signed id raw))) :
    ∃ w signed, step = .work w (.sign signed) ∧ ∃ y ∈ past, ∃ token now j,
      y.input = .work w (.claim id token now) ∧ y.before.store.jobs.lookup id = some j ∧
        (j.state = .queued ∨ j.state = .timedOut ∨ j.state = .reorged) := by
  cases h with
  | went w label next event hact =>
    have hholds := hσ.holds w
    cases act_proceeds hσ.sound hholds hact with
    | sign lease draft signed hphase =>
      rw [hphase] at hholds
      obtain ⟨y, hy, token, now, j, hj, hstate, hinput⟩ := ht.claims w lease (by rw [hphase]; rfl)
      have hjob := hholds.1
      rw [hstate] at hjob
      obtain hinput | ⟨-, hobservable⟩ := hinput
      · exact ⟨w, signed, rfl, y, hy, token, now, j, hinput, hj, hjob⟩
      · obtain hjob | hjob | hjob := hjob <;> simp [hjob, State.observable] at hobservable

end

/-! ## Ambiguous broadcasts -/

section

variable {c : StoreCall}

/-- The states of a job that was sent and not returned. -/
def State.awaiting (state : State) : Bool :=
  state = .ambiguous || state = .submitted || state = .confirmed || state = .finalized ||
    state = .reverted

/-- Only an outcome takes a job out of these states, and no attempt is added to it in them. -/
lemma Evolves.awaiting {j j' : Job} {f f' : Attempts} (h : Evolves c j f j' f') (hj : Sound j f)
    (hawaiting : j.state.awaiting) :
    (j'.state.awaiting ∧ j'.attemptCount = j.attemptCount) ∨
      ∃ lease outcome now, c = .applyOutcome lease outcome now ∧ j.state.observable ∧
        j'.state = outcome.state ∧ (outcome.state = .timedOut ∨ outcome.state = .reorged) := by
  cases h with
  | leased lease t => exact .inl ⟨hawaiting, rfl⟩
  | allocated n t hstate _ | prepared lease a now t _ hstate =>
    simp [hstate, State.awaiting] at hawaiting
  | replaced lease previous a old now t _ hstate =>
    obtain hstate | hstate := hstate <;> simp [hstate, State.awaiting] at hawaiting
  | deadLettered e t hstate =>
    obtain hstate | hstate | hstate := hstate <;> simp [hstate, State.awaiting] at hawaiting
  | moved a a' y e t ha hm _ =>
    have hpair := hj.pair a (hj.current ▸ ha)
    generalize a'.state = x at hm
    cases hm with
    | broadcasting hstate _ =>
      obtain hstate | hstate := hstate <;> simp [hstate, State.awaiting] at hawaiting
    | finished y x hstate _ _ => simp [hstate, State.awaiting] at hawaiting
    | observed lease outcome now x hc hstate hx =>
      have hobservable : j.state.observable := by
        obtain hstate | hstate | hstate := hstate <;>
          cases hjob : j.state <;> simp_all [State.agrees, State.observable]
      by_cases hreturned : outcome.state = .timedOut ∨ outcome.state = .reorged
      · exact .inr ⟨lease, outcome, now, hc, hobservable, rfl, hreturned⟩
      · refine .inl ⟨?_, rfl⟩
        cases hout : outcome.state <;> simp_all [State.attemptState, State.awaiting]

/-- An observation returns a job as TIMED_OUT or REORGED. -/
def Returns (P : Primitives) (services : ℕ → Service) (id : String) (x : Taken) : Prop :=
  ∃ w now lease outcome j j', x.input = .work w (.apply now) ∧
    x.before.workers w = .applying lease outcome ∧ x.before.store.jobs.lookup id = some j ∧
    j.state.observable ∧ (outcome.state = .timedOut ∨ outcome.state = .reorged) ∧
    (x.after (System.call P services)).store.jobs.lookup id = some j' ∧ j'.state = outcome.state

lemma Stepped.kept (h : Stepped P services σ step σ' event) (hσ : σ.Disciplined P)
    {j : Job} (hj : σ.store.jobs.lookup id = some j) :
    ∃ c j', σ'.store.jobs.lookup id = some j' ∧
      Evolves c j (σ.store.attemptsOf id) j' (σ'.store.attemptsOf id) ∧
      ∀ lease outcome now, c = .applyOutcome lease outcome now →
        ∃ w, step = .work w (.apply now) ∧ σ.workers w = .applying lease outcome := by
  -- a step that leaves the store alone is as good as a lease that stays
  have hsame : ∃ c j', σ.store.jobs.lookup id = some j' ∧
      Evolves c j (σ.store.attemptsOf id) j' (σ.store.attemptsOf id) ∧
      ∀ lease outcome now, c = .applyOutcome lease outcome now →
        ∃ w, step = .work w (.apply now) ∧ σ.workers w = .applying lease outcome :=
    ⟨.releaseLease ⟨j, ""⟩, j, hj, .leased j.lease j.updatedAt, by simp⟩
  cases h with
  | enqueued input now s r hcall =>
    obtain ⟨j', hj', hev⟩ := (call_effect hσ.sound hcall).kept hj
    exact ⟨_, j', hj', hev, by simp⟩
  | went | refused => exact hsame
  | called w label c next failed s r hact hcall =>
    obtain ⟨j', hj', hev⟩ := (call_effect hσ.sound hcall).kept hj
    refine ⟨c, j', hj', hev, fun lease outcome now hc => ?_⟩
    cases act_proceeds hσ.sound (hσ.holds w) hact with
    | apply lease' outcome' now' hphase =>
      cases hc
      exact ⟨w, rfl, hphase⟩
    | record lease' previous a raw now' hphase => cases previous <;> cases hc
    | other _ _ _ _ _ _ _ houtcome => exact absurd hc (houtcome lease outcome now)
    | _ => cases hc

/-- No attempt is added to a job that was sent before an observation returns it. -/
lemma unrecorded_until_returned (hσ : σ.Disciplined P) {j : Job}
    (hj : σ.store.jobs.lookup id = some j) (hawaiting : j.state.awaiting) (later : List Step) :
    (∃ x ∈ successes (System.call P services) σ later, Returns P services id x) ∨
      ∃ j', (execute (System.call P services) σ later).store.jobs.lookup id = some j' ∧
        j'.state.awaiting ∧ j'.attemptCount = j.attemptCount := by
  refine (history_rule (H := fun past (τ : System) => τ.Disciplined P ∧
    ((∃ x ∈ past, Returns P services id x) ∨ ∃ j', τ.store.jobs.lookup id = some j' ∧
      j'.state.awaiting ∧ j'.attemptCount = j.attemptCount))
    ⟨hσ, .inr ⟨j, hj, hawaiting, rfl⟩⟩ (fun past τ step τ' event ⟨hτ, ih⟩ h => ?_) later).2
  have hstepped := call_stepped h
  refine ⟨hstepped.disciplined hτ, ?_⟩
  obtain ⟨x, hx, hreturns⟩ | ⟨k, hk, hwait, hcount⟩ := ih
  · exact .inl ⟨x, mem_append_left _ hx, hreturns⟩
  · obtain ⟨c, k', hk', hev, happly⟩ := hstepped.kept hτ hk
    obtain ⟨hwait', hcount'⟩ | ⟨lease, outcome, now, hc, hobservable, hstate, hreturned⟩ :=
      hev.awaiting (hτ.sound.jobs id k hk) hwait
    · exact .inr ⟨k', hk', hwait', hcount'.trans hcount⟩
    · obtain ⟨w, rfl, hphase⟩ := happly lease outcome now hc
      refine .inl ⟨_, mem_concat_self, w, now, lease, outcome, k, k', rfl, hphase, hk, hobservable,
        hreturned, ?_, hstate⟩
      rw [Success.after, transact_of_ok h]
      exact hk'

end

/-! ## The discipline -/

lemma nonce_kept {P : Primitives} (services : ℕ → Service) {σ : System} (hσ : σ.Disciplined P)
    {j : Job} {n : ℕ} (hj : σ.store.jobs.lookup id = some j) (hn : j.nonce = some n)
    (later : List Step) :
    ∃ j', (execute (System.call P services) σ later).store.jobs.lookup id = some j' ∧
      j'.nonce = some n ∧ j'.gasPayer = j.gasPayer := by
  refine (execute_invariant (I := fun τ : System => τ.Disciplined P ∧
    ∃ j', τ.store.jobs.lookup id = some j' ∧ j'.nonce = some n ∧ j'.gasPayer = j.gasPayer)
    (fun τ step τ' event ⟨hτ, k, hk, hkn, hpayer⟩ h => ?_) ⟨hσ, j, hj, hn, rfl⟩ later).2
  have hstepped := call_stepped h
  obtain ⟨c, k', hk', hev, -⟩ := hstepped.kept hτ hk
  exact ⟨hstepped.disciplined hτ, k', hk', hev.nonce hkn, (congrArg (·.gasPayer) hev.input).trans hpayer⟩

/-- Later, the job has what it was enqueued with and its nonce, and its attempts their
transactions. -/
def Store.Keeps (s s' : Store) (id : String) (j : Job) : Prop :=
  ∃ j', s'.jobs.lookup id = some j' ∧ j'.toEnqueueInput = j.toEnqueueInput ∧
    (∀ n, j.nonce = some n → j'.nonce = some n) ∧ Persists (s.attemptsOf id) (s'.attemptsOf id)

/-- In every run no job and no attempt is dropped or rewritten. -/
theorem records_kept (P : Primitives) (services : ℕ → Service) (steps later : List Step) :
    let σ := execute (System.call P services) System.initial steps
    ∀ id j, σ.store.jobs.lookup id = some j →
      σ.store.Keeps (execute (System.call P services) σ later).store id j := by
  intro σ id j hj
  refine (execute_invariant (I := fun τ : System => τ.Disciplined P ∧ σ.store.Keeps τ.store id j)
    (fun τ step τ' event ⟨hτ, k, hk, hinput, hnonce, hrows⟩ h => ?_) ⟨reachable_disciplined P services
      steps, j, hj, rfl, fun _ h => h, fun _ a ha => ⟨a, ha, rfl⟩⟩ later).2
  have hstepped := call_stepped h
  obtain ⟨c, k', hk', hev, -⟩ := hstepped.kept hτ hk
  exact ⟨hstepped.disciplined hτ, k', hk', hev.input.trans hinput, fun n hn => hev.nonce (hnonce n hn),
    hrows.trans (hev.persists (hτ.sound.jobs id k hk))⟩

/-- In every run of any number of workers, `later` being what follows a first part `steps` of it:
* no two jobs ever have the same chain, gas payer and nonce;
* what a worker sends for a job is the sealed transaction of a recorded attempt, and the attempt
  was the job's current one when that worker, under the same lease, marked it as broadcasting;
* the attempts of a job have its nonce and gas payer;
* they are numbered from 1 without gaps, at most four of them, with rising fees;
* a job that is AMBIGUOUS gets no new attempt before an observation returns it as TIMED_OUT or
  REORGED;
* a worker signs only for a job that was QUEUED, TIMED_OUT or REORGED when it claimed it. -/
theorem keeper_discipline (P : Primitives) (services : ℕ → Service) (steps later : List Step) :
    let σ := execute (System.call P services) System.initial steps
    let σ' := execute (System.call P services) σ later
    (∀ id id' j j' n, σ.store.jobs.lookup id = some j → σ'.store.jobs.lookup id' = some j' →
      j.chainID = j'.chainID → j.gasPayer = j'.gasPayer → j.nonce = some n → j'.nonce = some n →
      id = id') ∧
    (∀ past x rest id number raw,
      successes (System.call P services) System.initial steps = past ++ x :: rest →
      x.log = some (.sent id number raw) → Sends P past x.before x.input id number raw) ∧
    (∀ id n a, σ.store.attempts.lookup (id, n) = some a →
      ∃ j, σ.store.jobs.lookup id = some j ∧ j.nonce = some a.nonce ∧ j.gasPayer = a.gasPayer) ∧
    (∀ id j, σ.store.jobs.lookup id = some j → ∃ k ≤ 4, ∀ n,
      (σ.store.attempts.lookup (id, n)).isSome ↔ 1 ≤ n ∧ n ≤ k) ∧
    (∀ id n a b, σ.store.attempts.lookup (id, n) = some a →
      σ.store.attempts.lookup (id, n + 1) = some b → strictlyBumped a.fee b.fee) ∧
    (∀ id j n a, σ.store.jobs.lookup id = some j → j.state = .ambiguous →
      σ.store.attempts.lookup (id, n) = none → σ'.store.attempts.lookup (id, n) = some a →
      ∃ x ∈ successes (System.call P services) σ later, Returns P services id x) ∧
    ∀ past x rest id raw,
      successes (System.call P services) System.initial steps = past ++ x :: rest →
      x.log = some (.signed id raw) →
      ∃ w signed, x.input = .work w (.sign signed) ∧ ∃ y ∈ past, ∃ token now j,
        y.input = .work w (.claim id token now) ∧ y.before.store.jobs.lookup id = some j ∧
          (j.state = .queued ∨ j.state = .timedOut ∨ j.state = .reorged) := by
  intro σ σ'
  have hσ : σ.Disciplined P := reachable_disciplined P services steps
  have hσ' : σ'.Disciplined P := execute_invariant
    (fun _ _ _ _ hτ h => (call_stepped h).disciplined hτ) hσ later
  refine ⟨fun id id' j j' n hj hj' _ hpayer hn hn' => ?_, fun past x rest id number raw hsplit hlog => ?_,
    fun id n a ha => ?_, fun id j hj => ?_, fun id => hσ.bumped id,
    fun id j n a hj hambiguous hnone ha => ?_, fun past x rest id raw hsplit hlog => ?_⟩
  · obtain ⟨k, hk, hkn, hkp⟩ := nonce_kept services hσ hj hn later
    exact hσ'.sequenced.unique id id' k j' n hk hj' (hkp.trans hpayer) hkn hn'
  · obtain ⟨hdisciplined, htrail, τ, hcall⟩ := trail_of_split hsplit
    exact htrail.sent hdisciplined (call_stepped (hlog ▸ hcall))
  · obtain ⟨j, hj⟩ := Option.isSome_iff_exists.mp (hσ.sound.orphans id n a ha)
    obtain ⟨hnonce, hpayer, -⟩ := (hσ.sound.jobs id j hj).sender n a ha
    exact ⟨j, hj, hnonce, hpayer.symm⟩
  · exact ⟨j.attemptCount, (hσ.sound.jobs id j hj).bound, (hσ.sound.jobs id j hj).rows⟩
  · refine (unrecorded_until_returned hσ hj (by rw [hambiguous]; rfl) later).resolve_right ?_
    rintro ⟨k, hk, -, hcount⟩
    have hrow := (hσ'.sound.jobs id k hk).lt_of_row ha
    rw [hcount] at hrow
    have hsome := ((hσ.sound.jobs id j hj).rows n).mpr hrow
    rw [Store.attemptsOf, hnone] at hsome
    cases hsome
  · obtain ⟨hdisciplined, htrail, τ, hcall⟩ := trail_of_split hsplit
    exact htrail.signed hdisciplined (call_stepped (hlog ▸ hcall))

/-! ## A signature that comes too late -/

namespace Relay

/-- An identifier, and every hash below. -/
def jobID : String := "0x1111111111111111111111111111111111111111111111111111111111111111"

/-- The gas payer, and every address below. -/
def payer : String := "0x1111111111111111111111111111111111111111"

/-- One byte decodes to a transaction, and the sealer shifts every byte. -/
def primitives : Primitives where
  keccak256 b := (Hex64.sample (b.map UInt8.toNat).sum).hash
  decode b :=
    if b = [1] then some ⟨true, 8453, 0, some payer, "0", 1, 0, [0, 0, 0, 0], "1", "0"⟩ else none
  sender _ b := if b = [1] then some payer else none
  sealRaw _ raw _ := (raw.map (· + 1), "key-1")
  openSealed sealedRaw _ _ := some (sealedRaw.map (· - 1))
  openSealed_sealRaw _ raw _ := by simp [Function.comp_def]

/-- A transaction that claims an expired escrow. -/
def input : EnqueueInput :=
  { jobID, operationID := jobID, organizationID := "org-1", action := .claimExpired, chainID := 8453
    keeperID := "keeper-1", gasPayer := payer, target := payer, valueWei := "0"
    canonicalPayload := [1], canonicalPayloadHash := jobID, authorizationDigest := ""
    signerHandle := "", signerAddress := "", validAfter := ⟨0, 0⟩, validBefore := ⟨0, 0⟩
    eligibleAfter := ⟨1000, 0⟩, eligibilityEvidenceDigest := jobID, eligibilityObservedAt := ⟨1000, 0⟩
    leadershipEpoch := 0 }

def fee : Fee := ⟨"1", "0"⟩

def unsigned : UnsignedTransaction := ⟨8453, payer, payer, "0", 0, 1, [0, 0, 0, 0], fee⟩

def service : Service where
  keeperID := "keeper-1"
  gasPayer := payer
  chainID := 8453
  leaseDuration := 1000000000
  maxFeeBumps := 3
  maxGasLimit := 1
  feeCap := fee
  valid := by decide

def clock (seconds : ℤ) : Time := ⟨seconds * 1000000000, 0⟩

/-- A worker claims the job and allocates its nonce. -/
def allocates (w : ℕ) (token : String) (now : Time) : List Step :=
  [.work w (.claim jobID token now), .work w (.prepare ⟨now, 0, [], 0, fee, unsigned⟩),
    .work w (.allocate unsigned now)]

/-- It signs, records and marks the attempt, and the broadcaster answers. -/
def broadcasts (w : ℕ) (answer : Answer) (now : Time) : List Step :=
  [.work w (.sign ⟨jobID, [1]⟩), .work w (.seal []), .work w (.record now),
    .work w (.mark now), .work w (.send answer), .work w (.finish now)]

/-- Worker 0 loses its lease before it signs, and worker 1 sends the transaction. -/
def overtaken : List Step :=
  .enqueue input (clock 1) :: allocates 0 "lease_0000000000" (clock 1) ++
    allocates 1 "lease_1111111111" (clock 3) ++ broadcasts 1 (.failed "timeout") (clock 3)

end Relay

/-- Worker 0 still signs, for a job that is AMBIGUOUS and that no outcome was applied to. -/
theorem signed_while_ambiguous :
    ∃ (P : Primitives) (services : ℕ → Service) (steps : List Step) (w : ℕ)
      (signed : SignedTransaction) (id : String),
      (∀ v now, .work v (.apply now) ∉ steps) ∧
      let σ := execute (System.call P services) System.initial steps
      (σ.store.jobs.lookup id).map (·.state) = some .ambiguous ∧
        (σ.call P services (.work w (.sign signed))).toOption.map (·.2) =
          some (some (.signed id signed.raw)) := by
  refine ⟨Relay.primitives, fun _ => Relay.service, Relay.overtaken, 0, ⟨Relay.jobID, [1]⟩,
    Relay.jobID, ?_, ?_⟩
  · simp [Relay.overtaken, Relay.allocates, Relay.broadcasts]
  · decide +kernel

end FlowOps.Keeper

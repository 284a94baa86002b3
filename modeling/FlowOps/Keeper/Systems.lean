import FlowOps.Keeper.Jobs
import FlowOps.Keeper.Workers

/-!
# Systems of workers

Any number of workers run on one store, and a lease may be lost at any point. The store's checks
keep nonces apart and attempts in order; what a worker still does after it lost its lease does not
reach the store. A worker carries one thing from step to step: the bytes that it is about to send
are those of a row (`Phase.Holds`), since the columns of a row that name its transaction are never
written again.

Results:
* `act_proceeds`, `call_stepped`: what a worker and what a system can do.
* `Effect.persists`, `Effect.sequenced`, `Evolves.bumped`: rows, nonces and fees.
* `reachable_disciplined`: what holds of a store and its workers in every run.
-/

namespace FlowOps.Keeper

open Function Option

variable {n : ℕ} {a : Attempt} {a' : Attempt}

/-! ## Rows -/

variable {c : StoreCall} {j j' : Job} {f f' : Attempts} {s s' : Store}

/-- No row is removed, and its transaction stays. -/
def Persists (f f' : Attempts) : Prop :=
  ∀ n a, f n = some a → ∃ a', f' n = some a' ∧ a'.fixed = a.fixed

lemma Persists.update (h : ∀ b, f n = some b → a.fixed = b.fixed) :
    Persists f (update f n (some a)) := by
  intro m b hb
  by_cases hm : m = n
  · subst hm
    exact ⟨a, update_self .., h b hb⟩
  · exact ⟨b, by rw [update_of_ne hm]; exact hb, rfl⟩

lemma Persists.trans {f'' : Attempts} (h : Persists f f') (h' : Persists f' f'') : Persists f f'' := by
  intro n a ha
  obtain ⟨a', ha', hfixed⟩ := h n a ha
  obtain ⟨a'', ha'', hfixed'⟩ := h' n a' ha'
  exact ⟨a'', ha'', hfixed'.trans hfixed⟩

lemma Evolves.persists (h : Evolves c j f j' f') (hj : Sound j f) : Persists f f' := by
  cases h with
  | leased | allocated | deadLettered => exact fun n a ha => ⟨a, ha, rfl⟩
  | prepared lease a now t _ _ hcount =>
    refine .update fun b hb => ?_
    rw [hj.none_above (by omega)] at hb
    cases hb
  | replaced lease previous a old now t _ _ hcount hold _ hnum =>
    refine Persists.trans (.update (a := { old with state := .replaced }) fun b hb => ?_)
      (.update fun b hb => ?_)
    · cases hold.symm.trans hb
      rfl
    · rw [update_of_ne (by omega), hj.none_above (by omega)] at hb
      cases hb
  | moved a a' y e t ha _ hfixed =>
    refine .update fun b hb => ?_
    cases ha.symm.trans hb
    exact hfixed

lemma Effect.persists (h : Effect s s' c) (hs : s.Sound) (id : String) :
    Persists (s.attemptsOf id) (s'.attemptsOf id) := by
  intro n a ha
  obtain ⟨j, hj⟩ := isSome_iff_exists.mp (hs.orphans id n a ha)
  obtain ⟨j', -, hev⟩ := h.kept hj
  exact hev.persists (hs.jobs id j hj) n a ha

/-- The fees of a job rise from one attempt to the next. -/
def Bumped (f : Attempts) : Prop :=
  ∀ n a b, f n = some a → f (n + 1) = some b → strictlyBumped a.fee b.fee

lemma fixed_fee (h : a'.fixed = a.fixed) : a'.fee = a.fee := congrArg (·.fee) h

lemma Bumped.of_rows (hb : Bumped f)
    (h : ∀ n a, f' n = some a → ∃ b, f n = some b ∧ a.fee = b.fee) : Bumped f' := by
  intro n a b ha hb'
  obtain ⟨a₀, ha₀, hfa⟩ := h n a ha
  obtain ⟨b₀, hb₀, hfb⟩ := h (n + 1) b hb'
  rw [hfa, hfb]
  exact hb n a₀ b₀ ha₀ hb₀

/-- A worker's copy of the attempt that it replaces has the fee of the row. -/
lemma Evolves.bumped (h : Evolves c j f j' f') (hj : Sound j f) (hb : Bumped f)
    (hprevious : ∀ lease previous a now, c = .recordReplacement lease previous a now →
      a.jobID = j.jobID → ∀ row, f previous.number = some row → row.fee = previous.fee) :
    Bumped f' := by
  cases h with
  | leased | allocated | deadLettered => exact hb
  | prepared lease a now t _ _ hcount =>
    -- the only row is the first one
    have hnone : ∀ n b, f n ≠ some b := fun n b hn => by
      have := hj.lt_of_row hn
      omega
    intro n a₁ b₁ ha₁ hb₁
    by_cases hn : n = 1
    · subst hn
      rw [update_of_ne (by decide)] at hb₁
      exact absurd hb₁ (hnone _ _)
    · rw [update_of_ne hn] at ha₁
      exact absurd ha₁ (hnone _ _)
  | replaced lease previous a old now t hc _ hcount hold _ hnum _ hid _ _ hbump =>
    have hrow := hprevious lease previous a now hc hid old hold
    have hmid : Bumped (update f previous.number (some { old with state := .replaced })) := by
      refine hb.of_rows fun n b hn => ?_
      rcases update_eq_some.mp hn with ⟨rfl, rfl⟩ | ⟨-, hn⟩
      · exact ⟨old, hold, rfl⟩
      · exact ⟨b, hn, rfl⟩
    intro n a₁ b₁ ha₁ hb₁
    by_cases hn : n + 1 = a.number
    · obtain rfl : n = previous.number := by omega
      rw [hn, update_self, Option.some.injEq] at hb₁
      rw [update_of_ne (by omega), update_self, Option.some.injEq] at ha₁
      rw [← ha₁, ← hb₁]
      change strictlyBumped old.fee a.fee
      rw [hrow]
      exact hbump
    · rw [update_of_ne hn] at hb₁
      by_cases hn' : n = a.number
      · -- nothing lies above the new row
        subst hn'
        rw [update_of_ne (by omega)] at hb₁
        have := (hj.lt_of_row hb₁).2
        omega
      · rw [update_of_ne hn'] at ha₁
        exact hmid n a₁ b₁ ha₁ hb₁
  | moved a a' y e t ha _ hfixed =>
    refine hb.of_rows fun n b hn => ?_
    rcases update_eq_some.mp hn with ⟨rfl, rfl⟩ | ⟨-, hn⟩
    · exact ⟨a, ha, fixed_fee hfixed⟩
    · exact ⟨b, hn, rfl⟩

/-! ## Nonces -/

/-- No two jobs of a gas payer have the same nonce, and every nonce is below the next one. -/
structure Store.Sequenced (s : Store) : Prop where
  unique : ∀ id id' j j' n, s.jobs.lookup id = some j → s.jobs.lookup id' = some j' →
    j.gasPayer = j'.gasPayer → j.nonce = some n → j'.nonce = some n → id = id'
  below : ∀ id j n, s.jobs.lookup id = some j → j.nonce = some n →
    n < s.nextNonce j.chainID j.gasPayer

lemma Evolves.input (h : Evolves c j f j' f') : j'.toEnqueueInput = j.toEnqueueInput := by
  cases h <;> rfl

lemma Evolves.nonce (h : Evolves c j f j' f') (hn : j.nonce = some n) : j'.nonce = some n := by
  cases h with
  | allocated m t _ hnone => rw [hnone] at hn; cases hn
  | _ => exact hn

lemma sequenced_empty : Store.empty.Sequenced where
  unique _ _ _ _ _ h := by cases h
  below _ _ _ h := by cases h

/-- A nonce that a job has after a call: it had it before, or it is the one of its gas payer that
the call gave out. -/
lemma Effect.nonce (h : Effect s s' c) {id : String}
    (hj' : s'.jobs.lookup id = some j') (hn : j'.nonce = some n) :
    (∃ j, s.jobs.lookup id = some j ∧ j.nonce = some n ∧ j'.gasPayer = j.gasPayer ∧
      j'.chainID = j.chainID) ∨
    (∀ id₀ k, s.jobs.lookup id₀ = some k → k.gasPayer = j'.gasPayer → k.nonce ≠ some n) ∧
      s.nextNonce j'.chainID j'.gasPayer ≤ n ∧
      s'.nextNonces = s.nextNonces.insert (j'.chainID, j'.gasPayer) (n + 1) ∧
      ∀ id₀, id₀ ≠ id → s'.jobs.lookup id₀ = s.jobs.lookup id₀ := by
  cases h with
  | unchanged heq => exact .inl ⟨j', heq ▸ hj', hn, rfl, rfl⟩
  | enqueued k hnone _ _ _ hnonce heq =>
    rw [heq, jobs_updateJob, Dict.lookup_insert_eq_some] at hj'
    obtain ⟨rfl, rfl⟩ | ⟨-, hj'⟩ := hj'
    · rw [hnonce] at hn
      cases hn
    · exact .inl ⟨j', hj', hn, rfl, rfl⟩
  | rewritten k k' f' h hev hseq =>
    rw [h.jobs, Dict.lookup_insert_eq_some] at hj'
    obtain ⟨rfl, rfl⟩ | ⟨-, hj'⟩ := hj'
    · have hpayer : k'.gasPayer = k.gasPayer := congrArg (·.gasPayer) hev.input
      have hchain : k'.chainID = k.chainID := congrArg (·.chainID) hev.input
      cases hseq with
      | same hsame _ => exact .inl ⟨k, h.found, hsame ▸ hn, hpayer, hchain⟩
      | next m hm hle hfresh hnext =>
        obtain rfl : m = n := Option.some.inj (hm.symm.trans hn)
        rw [hpayer, hchain]
        refine .inr ⟨hfresh, hle, hnext, fun id₀ hne => ?_⟩
        rw [h.jobs, AList.lookup_insert_ne hne]
    · exact .inl ⟨j', hj', hn, rfl, rfl⟩

lemma Effect.nextNonce_le (h : Effect s s' c) (chainID : ℕ) (gasPayer : String) :
    s.nextNonce chainID gasPayer ≤ s'.nextNonce chainID gasPayer := by
  cases h with
  | unchanged heq => rw [heq]
  | enqueued k _ _ _ _ _ heq => rw [heq]; exact le_rfl
  | rewritten k k' f' _ _ hseq =>
    cases hseq with
    | same _ heq => simp [Store.nextNonce, heq]
    | next n _ hle _ heq =>
      unfold Store.nextNonce at hle ⊢
      rw [heq, Dict.lookup_insert_ite]
      split_ifs with hkey
      · cases hkey
        exact hle.trans (Nat.le_succ n)
      · exact le_rfl

lemma Effect.sequenced (h : Effect s s' c) (hs : s.Sequenced) : s'.Sequenced where
  unique id id' j j' n hj hj' hpayer hn hn' := by
    rcases h.nonce hj hn with ⟨k, hk, hkn, hkp, -⟩ | ⟨hfresh, -, -, hothers⟩ <;>
      rcases h.nonce hj' hn' with ⟨k', hk', hkn', hkp', -⟩ | ⟨hfresh', -, -, hothers'⟩
    · exact hs.unique id id' k k' n hk hk' (by rw [← hkp, ← hkp', hpayer]) hkn hkn'
    · exact absurd hkn (hfresh' id k hk (by rw [← hkp, hpayer]))
    · exact absurd hkn' (hfresh id' k' hk' (by rw [← hkp', hpayer]))
    · by_contra hne
      rw [hothers id' (Ne.symm hne)] at hj'
      exact absurd hn' (hfresh id' j' hj' hpayer.symm)
  below id j n hj hn := by
    rcases h.nonce hj hn with ⟨k, hk, hkn, hkp, hkc⟩ | ⟨-, -, hnext, -⟩
    · rw [hkp, hkc]
      exact (hs.below id k n hk hkn).trans_le (h.nextNonce_le _ _)
    · simp [Store.nextNonce, hnext]

/-! ## Phases -/

variable {P : Primitives} {lease : Lease} {now : Time}

section

variable {service : Service} {phase : Phase} {label : Label} {act : Act}

/-- The row that a worker has a copy of. -/
def Store.HasRow (s : Store) (id : String) (a : Attempt) : Prop :=
  ∃ row, s.attemptsOf id a.number = some row ∧ row.fixed = a.fixed

/-- What a worker knows in a phase. -/
def Phase.Holds (P : Primitives) (s : Store) : Phase → Prop
  | .allocating lease _ _ _ _ => lease.job.state = .queued
  | .signing lease draft | .sealing lease draft _ =>
    (lease.job.state = .queued ∨ lease.job.state = .timedOut ∨ lease.job.state = .reorged) ∧
      ∀ p, draft.previous = some p → s.HasRow lease.job.jobID p
  | .recording lease previous a raw =>
    a.jobID = lease.job.jobID ∧ P.openAttempt a = some raw ∧
      ∀ p, previous = some p → s.HasRow lease.job.jobID p
  | .marking lease a raw | .sending lease a raw =>
    a.jobID = lease.job.jobID ∧ P.openAttempt a = some raw ∧ s.HasRow lease.job.jobID a
  | _ => True

lemma Store.HasRow.mono {id : String} (h : s.HasRow id a)
    (hp : Persists (s.attemptsOf id) (s'.attemptsOf id)) : s'.HasRow id a := by
  obtain ⟨row, hrow, hfixed⟩ := h
  obtain ⟨row', hrow', hfixed'⟩ := hp _ _ hrow
  exact ⟨row', hrow', hfixed'.trans hfixed⟩

lemma Phase.Holds.mono (h : phase.Holds P s)
    (hp : ∀ id, Persists (s.attemptsOf id) (s'.attemptsOf id)) : phase.Holds P s' := by
  cases phase with
  | allocating => exact h
  | signing lease draft | sealing lease draft signed =>
    exact ⟨h.1, fun p hprev => (h.2 p hprev).mono (hp _)⟩
  | recording lease previous a raw => exact ⟨h.1, h.2.1, fun p hprev => (h.2.2 p hprev).mono (hp _)⟩
  | marking lease a raw | sending lease a raw => exact ⟨h.1, h.2.1, h.2.2.mono (hp _)⟩
  | _ => trivial

/-- A phase that a worker goes to with the lease it has, and not to send. -/
structure Calm (P : Primitives) (s : Store) (phase next : Phase) : Prop where
  lease : next.lease = none ∨ next.lease = phase.lease
  holds : next.Holds P s
  silent : ∀ lease a raw, next ≠ .sending lease a raw

lemma Calm.idle : Calm P s phase .idle := ⟨.inl rfl, trivial, by simp⟩

lemma Calm.releasing (h : phase.lease = some lease) :
    Calm P s phase (.releasing lease) := ⟨.inr h.symm, trivial, by simp⟩

lemma Calm.dying {reason : String} (h : phase.lease = some lease) :
    Calm P s phase (.dying lease reason) := ⟨.inr h.symm, trivial, by simp⟩

lemma currentAttempt_ok (hs : s.Sound) {id : String}
    (h : s.currentAttempt id = .ok a) : s.HasRow id a ∧ a.jobID = id := by
  rw [Store.currentAttempt, guard_ok] at h
  obtain ⟨-, h⟩ := h
  split at h
  · cases h
  · rename_i attempt hfound
    cases h
    obtain ⟨j, hj, ha⟩ := bind_eq_some_iff.mp hfound
    obtain ⟨-, -, hid, hnumber⟩ := (hs.jobs id j hj).sender _ a ha
    exact ⟨⟨a, by rw [hnumber]; exact ha, rfl⟩, hid.trans (hs.keyed id j hj)⟩

lemma prepare_calm {p : Preparation} (h : lease.job.state = .queued) :
    Calm P s (.running lease) (service.prepare lease p) := by
  unfold Service.prepare
  simp only
  split_ifs
  · exact .releasing rfl
  · exact .dying rfl
  · exact .dying rfl
  · exact .releasing rfl
  · exact .releasing rfl
  · exact .releasing rfl
  · exact ⟨.inr rfl, h, by simp⟩

lemma allocated_calm {observed : ℕ} {fee : Fee} {unsigned again : UnsignedTransaction}
    (h : lease.job.state = .queued) (r : Reply) :
    Calm P s (.allocating lease observed fee unsigned now)
      (service.allocated lease observed fee unsigned again now r) := by
  unfold Service.allocated
  split
  · split_ifs
    · exact ⟨.inr rfl, ⟨.inl h, by simp⟩, by simp⟩
    · exact .releasing rfl
    · exact ⟨.inr rfl, ⟨.inl h, by simp⟩, by simp⟩
  · exact .releasing rfl

lemma replace_calm (hs : s.Sound) {r : Replacement}
    (h : lease.job.state = .timedOut ∨ lease.job.state = .reorged) :
    Calm P s (.running lease) (service.replace s lease r) := by
  unfold Service.replace
  simp only
  split
  · exact .releasing rfl
  · rename_i previous hprevious
    split_ifs
    · exact .dying rfl
    · exact .dying rfl
    · exact .releasing rfl
    · exact .releasing rfl
    · exact .releasing rfl
    · refine ⟨.inr rfl, ⟨.inr h, fun p hp => ?_⟩, by simp⟩
      cases hp
      exact (currentAttempt_ok hs hprevious).1

lemma recover_calm (hs : s.Sound) : Calm P s (.running lease) (recover P s lease) := by
  unfold recover
  split
  · exact .releasing rfl
  · rename_i attempt hattempt
    split_ifs
    · exact .releasing rfl
    · split
      · exact .releasing rfl
      · rename_i raw hraw
        split_ifs
        · exact .releasing rfl
        · obtain ⟨hrow, hid⟩ := currentAttempt_ok hs hattempt
          exact ⟨.inr rfl, ⟨hid, hraw, hrow⟩, by simp⟩

lemma sealSigned_calm {draft : Draft} {signed : SignedTransaction} {sealedRaw : Bytes}
    {keyID : String} (h : (Phase.sealing lease draft signed).Holds P s)
    (hopen : P.openSealed sealedRaw keyID (aad lease.job.jobID draft.number signed.hash) =
      some signed.raw) :
    Calm P s (.sealing lease draft signed) (sealSigned P lease draft signed sealedRaw keyID) := by
  unfold sealSigned
  split_ifs
  · exact .releasing rfl
  · exact ⟨.inr rfl, ⟨rfl, hopen, h.2⟩, by simp⟩

lemma observe_calm {outcome : Outcome} :
    Calm P s (.observing lease) (observe s lease outcome now) := by
  unfold observe
  split
  · exact .releasing rfl
  · split_ifs
    · exact .releasing rfl
    · exact ⟨.inr rfl, trivial, by simp⟩

/-- What a worker does: it claims, signs, sends, records an attempt, marks it as broadcasting,
applies an outcome, or takes a step of no consequence here. -/
inductive Proceeds (P : Primitives) (service : Service) (s : Store) (phase : Phase) :
    Label → Act → Prop where
  | claim (jobID token : String) (now : Time) : Proceeds P service s phase (.claim jobID token now)
      (.call (.claim service.keeperID service.gasPayer service.chainID service.leaseDuration jobID
        token now) (claimed .running) .idle)
  | claimObservation (jobID token : String) (now : Time) :
      Proceeds P service s phase (.claimObservation jobID token now)
        (.call (.claimObservation service.keeperID service.gasPayer service.chainID
          service.leaseDuration jobID token now) (claimed .observing) .idle)
  | sign (lease : Lease) (draft : Draft) (signed : SignedTransaction) : phase = .signing lease draft →
      Proceeds P service s phase (.sign signed)
        (.goto (.sealing lease draft signed) (some (.signed lease.job.jobID signed.raw)))
  | send (lease : Lease) (a : Attempt) (raw : Bytes) (answer : Answer) : phase = .sending lease a raw →
      Proceeds P service s phase (.send answer)
        (.goto (.answered lease a answer) (some (.sent lease.job.jobID a.number raw)))
  | record (lease : Lease) (previous : Option Attempt) (a : Attempt) (raw : Bytes) (now : Time) :
      phase = .recording lease previous a raw → Proceeds P service s phase (.record now)
        (.call (recordCall lease previous a now) (fun _ => .marking lease a raw) (.releasing lease))
  | mark (lease : Lease) (a : Attempt) (raw : Bytes) (now : Time) : phase = .marking lease a raw →
      Proceeds P service s phase (.mark now)
        (.call (.markBroadcasting lease a.number now) (fun _ => .sending lease a raw)
          (.releasing lease))
  | apply (lease : Lease) (outcome : Outcome) (now : Time) : phase = .applying lease outcome →
      Proceeds P service s phase (.apply now)
        (.call (.applyOutcome lease outcome now) (fun _ => .releasing lease) (.releasing lease))
  | quiet (label : Label) (next : Phase) : Calm P s phase next →
      Proceeds P service s phase label (.goto next none)
  | other (label : Label) (c : StoreCall) (next : Reply → Phase) (failed : Phase) :
      (∀ s r, Calm P s phase (next r)) → (∀ s, Calm P s phase failed) →
      (∀ lease previous a now, c ≠ .recordReplacement lease previous a now) →
      (∀ lease outcome now, c ≠ .applyOutcome lease outcome now) →
      Proceeds P service s phase label (.call c next failed)

lemma finishCall_ne {answer : Answer} :
    (∀ lease' previous a' now', finishCall lease a now answer ≠ .recordReplacement lease' previous a' now') ∧
      ∀ lease' outcome now', finishCall lease a now answer ≠ .applyOutcome lease' outcome now' := by
  cases answer <;> simp only [finishCall]
  case accepted h => split_ifs <;> simp
  all_goals simp

lemma act_proceeds (hs : s.Sound) (hh : phase.Holds P s)
    (h : service.act P s phase label = some act) : Proceeds P service s phase label act := by
  unfold Service.act at h
  split at h
  · cases h; exact .claim _ _ _
  · cases h; exact .claimObservation _ _ _
  · split_ifs at h with hstate
    cases h
    exact .quiet _ _ (prepare_calm hstate)
  · split_ifs at h
    cases h
    exact .quiet _ _ (recover_calm hs)
  · split_ifs at h with hstate
    cases h
    exact .quiet _ _ (replace_calm hs hstate)
  · cases h
    exact .other _ _ _ _ (fun _ _ => .releasing rfl) (fun _ => .releasing rfl) (by simp) (by simp)
  · cases h
    exact .other _ _ _ _ (fun _ r => allocated_calm hh r) (fun _ => .releasing rfl) (by simp) (by simp)
  · cases h; exact .sign _ _ _ rfl
  · cases h
    exact .quiet _ _ (sealSigned_calm hh (P.openSealed_sealRaw ..))
  · cases h; exact .record _ _ _ _ _ rfl
  · cases h; exact .mark _ _ _ _ rfl
  · cases h; exact .send _ _ _ _ rfl
  · cases h
    exact .other _ _ _ _ (fun _ _ => .releasing rfl) (fun _ => .releasing rfl) finishCall_ne.1
      finishCall_ne.2
  · cases h
    exact .quiet _ _ observe_calm
  · cases h; exact .apply _ _ _ rfl
  · cases h
    exact .other _ _ _ _ (fun _ _ => .idle) (fun _ => .idle) (by simp) (by simp)
  · obtain ⟨lease, hlease, rfl⟩ := map_eq_some_iff.mp h
    exact .quiet _ _ (.releasing hlease)
  · cases h
    exact .quiet _ _ .idle
  · cases h

end

/-! ## Systems -/

section

variable {services : ℕ → Service} {σ σ' : System} {step : Step} {event : Option Event} {r : Reply}
  {previous : Option Attempt}

inductive Stepped (P : Primitives) (services : ℕ → Service) (σ : System) :
    Step → System → Option Event → Prop where
  | enqueued (input : EnqueueInput) (now : Time) (s : Store) (r : Reply) :
      σ.store.call P.keccak256 (.enqueue input now) = .ok (s, r) →
      Stepped P services σ (.enqueue input now) { σ with store := s } none
  | went (w : ℕ) (label : Label) (next : Phase) (event : Option Event) :
      (services w).act P σ.store (σ.workers w) label = some (.goto next event) →
      Stepped P services σ (.work w label) (σ.goto w next) event
  | called (w : ℕ) (label : Label) (c : StoreCall) (next : Reply → Phase) (failed : Phase) (s : Store)
      (r : Reply) : (services w).act P σ.store (σ.workers w) label = some (.call c next failed) →
      σ.store.call P.keccak256 c = .ok (s, r) →
      Stepped P services σ (.work w label) (System.goto { σ with store := s } w (next r)) none
  | refused (w : ℕ) (label : Label) (c : StoreCall) (next : Reply → Phase) (failed : Phase) :
      (services w).act P σ.store (σ.workers w) label = some (.call c next failed) →
      Stepped P services σ (.work w label) (σ.goto w failed) none

lemma call_stepped (h : σ.call P services step = .ok (σ', event)) :
    Stepped P services σ step σ' event := by
  cases step with
  | enqueue input now =>
    obtain ⟨⟨s, r⟩, hcall, heq⟩ := map_eq_ok.mp h
    cases heq
    exact .enqueued input now s r hcall
  | work w label =>
    rw [System.call] at h
    cases hact : (services w).act P σ.store (σ.workers w) label with
    | none => rw [hact] at h; cases h
    | some act =>
      rw [hact, Except.ok.injEq] at h
      cases act with
      | goto next e =>
        cases h
        exact .went w label next _ hact
      | call c next failed =>
        rw [System.perform] at h
        cases hcall : σ.store.call P.keccak256 c with
        | ok r =>
          rw [hcall] at h
          cases h
          exact .called w label c next failed r.1 r.2 hact hcall
        | error e =>
          rw [hcall] at h
          cases h
          exact .refused w label c next failed hact

structure System.Disciplined (P : Primitives) (σ : System) : Prop where
  sound : σ.store.Sound
  sequenced : σ.store.Sequenced
  bumped : ∀ id, Bumped (σ.store.attemptsOf id)
  holds : ∀ w, (σ.workers w).Holds P σ.store

lemma disciplined_initial : System.initial.Disciplined P where
  sound := sound_empty
  sequenced := sequenced_empty
  bumped _ _ _ _ h := by cases h
  holds _ := trivial

lemma System.Disciplined.goto (h : σ.Disciplined P) {w : ℕ} {next : Phase}
    (hnext : next.Holds P σ.store) : (σ.goto w next).Disciplined P where
  sound := h.sound
  sequenced := h.sequenced
  bumped := h.bumped
  holds v := by
    by_cases hv : v = w
    · subst hv
      simpa [System.goto] using hnext
    · simpa [System.goto, update_of_ne hv] using h.holds v

lemma System.Disciplined.store (h : σ.Disciplined P) {c : StoreCall}
    (hcall : σ.store.call P.keccak256 c = .ok (s, r))
    (hprevious : ∀ lease previous a now, c = .recordReplacement lease previous a now →
      a.jobID = lease.job.jobID ∧ σ.store.HasRow lease.job.jobID previous) :
    System.Disciplined P { σ with store := s } := by
  have heffect := call_effect h.sound hcall
  refine ⟨heffect.sound h.sound, heffect.sequenced h.sequenced, fun id => ?_,
    fun w => (h.holds w).mono (heffect.persists h.sound)⟩
  cases hfound : σ.store.jobs.lookup id with
  | some j =>
    obtain ⟨j', -, hev⟩ := heffect.kept hfound
    refine hev.bumped (h.sound.jobs id j hfound) (h.bumped id) fun lease previous a now hc hid row hrow => ?_
    obtain ⟨hlease, row', hrow', hfixed⟩ := hprevious lease previous a now hc
    rw [← hlease, hid, h.sound.keyed id j hfound] at hrow'
    cases hrow.symm.trans hrow'
    exact fixed_fee hfixed
  | none =>
    -- a job that was not there has no attempts
    intro n a b ha _
    obtain ⟨j', hj'⟩ := isSome_iff_exists.mp ((heffect.sound h.sound).orphans id n a ha)
    obtain ⟨j, hj⟩ | ⟨-, -, hcount⟩ := heffect.before hj'
    · rw [hfound] at hj
      cases hj
    · have := ((heffect.sound h.sound).jobs id j' hj').lt_of_row ha
      omega

lemma recordCall_row
    (hcall : s.call P.keccak256 (recordCall lease previous a now) = .ok (s', r)) :
    s'.HasRow a.jobID a := by
  have hinserted : ∀ s₁ s₂ : Store, s₁.insertAttempt a = .ok s₂ → ∀ j, (s₂.updateJob j).HasRow a.jobID a := by
    intro s₁ s₂ hinsert j
    obtain ⟨rfl, -⟩ := insertAttempt_ok hinsert
    refine ⟨a.row, ?_, rfl⟩
    rw [attemptsOf_updateJob, attemptsOf_insert, update_self]
  cases previous with
  | none =>
    obtain ⟨s₁, h, heq⟩ := map_eq_ok.mp hcall
    cases heq
    rw [Store.recordPrepared, guard_ok] at h
    obtain ⟨j, -, h⟩ := transition_ok h.2
    rw [guard_ok] at h
    obtain ⟨-, h⟩ := h
    split at h
    · cases h
    · rw [guard_ok, map_eq_ok] at h
      obtain ⟨-, s₂, hinsert, rfl⟩ := h
      exact hinserted _ _ hinsert _
  | some p =>
    obtain ⟨s₁, h, heq⟩ := map_eq_ok.mp hcall
    cases heq
    rw [Store.recordReplacement, guard_ok] at h
    obtain ⟨j, -, h⟩ := transition_ok h.2
    rw [guard_ok, bind_eq_ok] at h
    obtain ⟨-, s₂, -, h⟩ := h
    obtain ⟨s₃, hinsert, rfl⟩ := map_eq_ok.mp h
    exact hinserted _ _ hinsert _

lemma recordCall_eq_replacement {lease lease' : Lease} {p : Attempt}
    {now now' : Time} (h : recordCall lease previous a now = .recordReplacement lease' p a' now') :
    lease' = lease ∧ previous = some p ∧ a' = a := by
  cases previous with
  | none => cases h
  | some q =>
    cases h
    exact ⟨rfl, rfl, rfl⟩

lemma markBroadcasting_current {number : ℕ}
    (hcall : s.call P.keccak256 (.markBroadcasting lease number now) = .ok (s', r)) :
    ∃ j, s.jobs.lookup lease.job.jobID = some j ∧ j.currentAttempt = number := by
  obtain ⟨s₁, h, heq⟩ := map_eq_ok.mp hcall
  cases heq
  obtain ⟨j, hj, h⟩ := transition_ok h
  simp only [guard_ok, not_or, not_not] at h
  exact ⟨j, hj, h.1.1⟩

lemma Stepped.disciplined (h : Stepped P services σ step σ' event) (hσ : σ.Disciplined P) :
    σ'.Disciplined P := by
  cases h with
  | enqueued input now s r hcall => exact hσ.store hcall (by simp)
  | went w label next event hact =>
    have hholds := hσ.holds w
    cases act_proceeds hσ.sound hholds hact with
    | sign lease draft signed hphase =>
      rw [hphase] at hholds
      exact hσ.goto hholds
    | send => exact hσ.goto trivial
    | quiet _ _ hcalm => exact hσ.goto hcalm.holds
  | called w label c next failed s r hact hcall =>
    have hholds := hσ.holds w
    cases act_proceeds hσ.sound hholds hact with
    | claim | claimObservation =>
      refine (hσ.store hcall (by simp)).goto ?_
      cases r <;> trivial
    | record lease previous a raw now hphase =>
      rw [hphase] at hholds
      refine (hσ.store hcall fun lease' p a' now' hc => ?_).goto ⟨hholds.1, hholds.2.1, ?_⟩
      · obtain ⟨rfl, hprevious, rfl⟩ := recordCall_eq_replacement hc
        exact ⟨hholds.1, hholds.2.2 p hprevious⟩
      · exact hholds.1 ▸ recordCall_row hcall
    | mark lease a raw now hphase =>
      rw [hphase] at hholds
      have hstore := hσ.store hcall (by simp)
      refine hstore.goto ⟨hholds.1, hholds.2.1, hholds.2.2.mono ?_⟩
      exact (call_effect hσ.sound hcall).persists hσ.sound _
    | apply => exact (hσ.store hcall (by simp)).goto trivial
    | other _ _ _ _ hnext _ hreplacement _ =>
      refine (hσ.store hcall fun lease' p a' now' hc => ?_).goto (hnext _ r).holds
      exact absurd hc (hreplacement lease' p a' now')
  | refused w label c next failed hact =>
    cases act_proceeds hσ.sound (hσ.holds w) hact with
    | other _ _ _ _ _ hfailed _ _ => exact hσ.goto (hfailed _).holds
    | _ => exact hσ.goto trivial

lemma reachable_disciplined (P : Primitives) (services : ℕ → Service) (steps : List Step) :
    (execute (System.call P services) System.initial steps).Disciplined P :=
  execute_invariant (fun _ _ _ _ hσ h => (call_stepped h).disciplined hσ) disciplined_initial steps

end

end FlowOps.Keeper

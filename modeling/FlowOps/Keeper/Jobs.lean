import FlowOps.Keeper.Store

/-!
# Jobs and their attempts

The store is a family of jobs, each with its own attempts, and a call rewrites one of them.
`Evolves` says how: a job is leased, it is given a nonce, its first attempt is prepared, an attempt
is replaced by the next one, the current attempt and the job move together, or the job is
dead-lettered. What holds of a job in every reachable store (`Sound`) follows from these cases.

Results:
* `call_effect`: what a call does to the store; `Effect.kept` and `Effect.before`: to one job.
* `reachable_sound`: every reachable store is sound.
* `states_agree`.
-/

namespace FlowOps.Keeper

open Function AList Dict

open Ascp (timestamptz)

variable {a : Attempt} {n : ℕ} {y : State} {t : Time} {e : String} {x : AttemptState}
  {previous : Attempt} {p : Attempt → Bool}

/-! ## One job -/

abbrev Attempts := ℕ → Option Attempt

def Store.attemptsOf (s : Store) (id : String) : Attempts := fun n => s.attempts.lookup (id, n)

/-- The columns of an attempt that no statement changes, the others blank. -/
def Attempt.fixed (a : Attempt) : Attempt :=
  { a with
    state := .prepared, preparedAt := { ns := 0 }, broadcastAt := none, lastError := ""
    evidenceDigest := "", observedAt := none }

/-- The pairs of states of a job and its current attempt. -/
def State.agrees : State → AttemptState → Bool
  | .prepared, .prepared | .broadcasting, .broadcasting | .ambiguous, .ambiguous
  | .submitted, .submitted | .confirmed, .confirmed | .finalized, .finalized
  | .reverted, .reverted | .reorged, .reorged | .timedOut, .rejected
  | .deadLetter, .rejected | .deadLetter, .reorged => true
  | _, _ => false

/-- How a call moves a job and its current attempt together. -/
inductive Moves (c : StoreCall) (j : State) (a : AttemptState) : State → AttemptState → Prop where
  | broadcasting : (j = .prepared ∨ j = .broadcasting) → (a = .prepared ∨ a = .broadcasting) →
      Moves c j a .broadcasting .broadcasting
  | finished (y : State) (x : AttemptState) : j = .broadcasting → a = .broadcasting →
      (y, x) ∈ [(State.submitted, AttemptState.submitted), (.ambiguous, .ambiguous),
        (.timedOut, .rejected), (.deadLetter, .rejected)] → Moves c j a y x
  | observed (lease : Lease) (outcome : Outcome) (now : Time) (x : AttemptState) :
      c = .applyOutcome lease outcome now →
      (a = .ambiguous ∨ a = .submitted ∨ a = .confirmed) → outcome.state.attemptState = some x →
      Moves c j a outcome.state x

/-- How a call changes a job and its attempts. -/
inductive Evolves (c : StoreCall) (j : Job) (f : Attempts) : Job → Attempts → Prop where
  | leased (lease : Option JobLease) (t : Time) : Evolves c j f { j with lease, updatedAt := t } f
  | allocated (n : ℕ) (t : Time) : j.state = .queued → j.nonce = none →
      Evolves c j f { j with nonce := some n, updatedAt := t } f
  | prepared (lease : Lease) (a : Attempt) (now t : Time) : c = .recordPrepared lease a now →
      j.state = .queued → j.attemptCount = 0 → a.number = 1 → a.jobID = j.jobID →
      j.nonce = some a.nonce → a.gasPayer = j.gasPayer →
      Evolves c j f
        { j with state := .prepared, attemptCount := 1, currentAttempt := 1, updatedAt := t }
        (update f 1 (some a.row))
  | replaced (lease : Lease) (previous a old : Attempt) (now t : Time) :
      c = .recordReplacement lease previous a now → (j.state = .timedOut ∨ j.state = .reorged) →
      j.attemptCount = previous.number → f previous.number = some old →
      (old.state = .rejected ∨ old.state = .reorged) → a.number = previous.number + 1 →
      a.number ≤ 4 → a.jobID = j.jobID → j.nonce = some a.nonce → a.gasPayer = j.gasPayer →
      strictlyBumped previous.fee a.fee →
      Evolves c j f
        { j with
          state := .prepared, attemptCount := a.number, currentAttempt := a.number, lastError := ""
          updatedAt := t }
        (update (update f previous.number (some { old with state := .replaced }))
          a.number (some a.row))
  | moved (a a' : Attempt) (y : State) (e : String) (t : Time) : f j.currentAttempt = some a →
      Moves c j.state a.state y a'.state → a'.fixed = a.fixed →
      Evolves c j f { j with state := y, lastError := e, updatedAt := t }
        (update f j.currentAttempt (some a'))
  | deadLettered (e : String) (t : Time) :
      (j.state = .queued ∨ j.state = .timedOut ∨ j.state = .reorged) →
      Evolves c j f { j with state := .deadLetter, lastError := e, updatedAt := t } f

/-- What holds of a job and its attempts in every reachable store. -/
structure Sound (j : Job) (f : Attempts) : Prop where
  current : j.currentAttempt = j.attemptCount
  bound : j.attemptCount ≤ 4
  rows : ∀ n, (f n).isSome ↔ 1 ≤ n ∧ n ≤ j.attemptCount
  sender : ∀ n a, f n = some a →
    j.nonce = some a.nonce ∧ a.gasPayer = j.gasPayer ∧ a.jobID = j.jobID ∧ a.number = n
  waiting : j.attemptCount = 0 → j.state = .queued ∨ j.state = .deadLetter
  pair : ∀ a, f j.attemptCount = some a → j.state.agrees a.state
  replaced : ∀ n a, n < j.attemptCount → f n = some a → a.state = .replaced

variable {c : StoreCall} {f f' : Attempts}

section

variable {j j' : Job} {a' : Attempt}

lemma fixed_sender (h : a'.fixed = a.fixed) :
    a'.nonce = a.nonce ∧ a'.gasPayer = a.gasPayer ∧ a'.jobID = a.jobID ∧ a'.number = a.number :=
  ⟨congrArg (·.nonce) h, congrArg (·.gasPayer) h, congrArg (·.jobID) h, congrArg (·.number) h⟩

lemma Sound.lt_of_row (h : Sound j f) (hn : f n = some a) : 1 ≤ n ∧ n ≤ j.attemptCount :=
  (h.rows n).mp (by simp [hn])

lemma Sound.none_above (h : Sound j f) (hn : j.attemptCount < n) : f n = none := by
  by_contra hne
  obtain ⟨a, ha⟩ := Option.ne_none_iff_exists'.mp hne
  exact absurd (h.lt_of_row ha).2 (not_le.mpr hn)

lemma Sound.exists_current (h : Sound j f) (hj : j.attemptCount ≠ 0) :
    ∃ a, f j.attemptCount = some a :=
  Option.isSome_iff_exists.mp ((h.rows _).mpr ⟨Nat.pos_of_ne_zero hj, le_rfl⟩)

lemma agrees_of_moves {jobState : State} {a : AttemptState}
    (h : Moves c jobState a y x) : y.agrees x := by
  cases h with
  | broadcasting _ _ => rfl
  | finished y x _ _ hyx =>
    simp only [List.mem_cons, Prod.mk.injEq, List.not_mem_nil, or_false] at hyx
    obtain ⟨rfl, rfl⟩ | ⟨rfl, rfl⟩ | ⟨rfl, rfl⟩ | ⟨rfl, rfl⟩ := hyx <;> rfl
  | observed lease outcome now x _ _ hx =>
    cases hstate : outcome.state <;> simp_all [State.attemptState] <;> subst hx <;> rfl

/-- Nothing but the count, the nonce and the state of a job matters for its soundness. -/
lemma Sound.congr (h : Sound j f) (hc : j'.attemptCount = j.attemptCount)
    (hcur : j'.currentAttempt = j.currentAttempt) (hstate : j'.state = j.state)
    (hnonce : ∀ n, j.nonce = some n → j'.nonce = some n) (hp : j'.gasPayer = j.gasPayer)
    (hid : j'.jobID = j.jobID) : Sound j' f where
  current := by rw [hcur, hc, h.current]
  bound := hc ▸ h.bound
  rows := hc ▸ h.rows
  sender n a ha := by
    obtain ⟨hn, hg, hi, hnum⟩ := h.sender n a ha
    exact ⟨hnonce _ hn, hp ▸ hg, hid ▸ hi, hnum⟩
  waiting := by rw [hc, hstate]; exact h.waiting
  pair := by rw [hc, hstate]; exact h.pair
  replaced := hc ▸ h.replaced

lemma Sound.prepared (h : Sound j f) (hcount : j.attemptCount = 0)
    (hnum : a.number = 1) (hid : a.jobID = j.jobID) (hnonce : j.nonce = some a.nonce)
    (hpayer : a.gasPayer = j.gasPayer) :
    Sound { j with state := .prepared, attemptCount := 1, currentAttempt := 1, updatedAt := t }
      (update f 1 (some a.row)) where
  current := rfl
  bound := show 1 ≤ 4 by decide
  rows n := by
    by_cases hn : n = 1
    · simp [hn]
    · rw [update_of_ne hn, h.rows n, hcount]
      dsimp only
      omega
  sender n b hb := by
    rcases update_eq_some.mp hb with ⟨rfl, rfl⟩ | ⟨-, hb⟩
    · exact ⟨hnonce, hpayer, hid, hnum⟩
    · exact h.sender n b hb
  waiting h0 := by cases h0
  pair b hb := by
    rw [update_self, Option.some.injEq] at hb
    subst hb
    rfl
  replaced n b hn hb := by
    have hn0 : n = 0 := Nat.lt_one_iff.mp hn
    subst hn0
    rw [update_of_ne (by decide)] at hb
    exact absurd (h.lt_of_row hb).1 (by decide)

lemma Sound.replace (h : Sound j f) {old : Attempt}
    (hcount : j.attemptCount = previous.number) (hold : f previous.number = some old)
    (hnum : a.number = previous.number + 1) (hfour : a.number ≤ 4) (hid : a.jobID = j.jobID)
    (hnonce : j.nonce = some a.nonce) (hpayer : a.gasPayer = j.gasPayer) :
    Sound
      { j with
        state := .prepared, attemptCount := a.number, currentAttempt := a.number, lastError := ""
        updatedAt := t }
      (update (update f previous.number (some { old with state := .replaced }))
        a.number (some a.row)) where
  current := rfl
  bound := hfour
  rows n := by
    have hprev := h.lt_of_row hold
    by_cases hn : n = a.number
    · subst hn
      simp only [update_self, Option.isSome_some, true_iff]
      omega
    · rw [update_of_ne hn]
      by_cases hp : n = previous.number
      · subst hp
        simp only [update_self, Option.isSome_some, true_iff]
        omega
      · rw [update_of_ne hp, h.rows n]
        dsimp only
        omega
  sender n b hb := by
    rcases update_eq_some.mp hb with ⟨rfl, rfl⟩ | ⟨-, hb⟩
    · exact ⟨hnonce, hpayer, hid, rfl⟩
    · rcases update_eq_some.mp hb with ⟨rfl, rfl⟩ | ⟨-, hb⟩
      · exact h.sender _ old hold
      · exact h.sender n b hb
  waiting h0 := by
    have : a.number = 0 := h0
    omega
  pair b hb := by
    rw [update_self, Option.some.injEq] at hb
    subst hb
    rfl
  replaced n b hn hb := by
    have hlt : n < a.number := hn
    rw [update_of_ne (by omega)] at hb
    rcases update_eq_some.mp hb with ⟨rfl, rfl⟩ | ⟨hp, hb⟩
    · rfl
    · exact h.replaced n b (by omega) hb

lemma Sound.move (h : Sound j f)
    (ha : f j.currentAttempt = some a) (hm : Moves c j.state a.state y a'.state)
    (hfixed : a'.fixed = a.fixed) :
    Sound { j with state := y, lastError := e, updatedAt := t }
      (update f j.currentAttempt (some a')) where
  current := h.current
  bound := h.bound
  rows n := by
    by_cases hn : n = j.currentAttempt
    · subst hn
      simpa using h.lt_of_row ha
    · rw [update_of_ne hn]
      exact h.rows n
  sender n b hb := by
    rcases update_eq_some.mp hb with ⟨rfl, rfl⟩ | ⟨-, hb⟩
    · obtain ⟨h1, h2, h3, h4⟩ := fixed_sender hfixed
      obtain ⟨k1, k2, k3, k4⟩ := h.sender _ a ha
      exact ⟨h1 ▸ k1, h2 ▸ k2, h3 ▸ k3, h4 ▸ k4⟩
    · exact h.sender n b hb
  waiting h0 := by
    have hpos := (h.lt_of_row ha).1
    rw [h.current] at hpos
    exact absurd h0 (Nat.one_le_iff_ne_zero.mp hpos)
  pair b hb := by
    have hb' : update f j.currentAttempt (some a') j.attemptCount = some b := hb
    rw [← h.current, update_self, Option.some.injEq] at hb'
    subst hb'
    exact agrees_of_moves hm
  replaced n b hn hb := by
    have hlt : n < j.attemptCount := hn
    rw [update_of_ne (by rw [h.current]; exact hlt.ne)] at hb
    exact h.replaced n b hlt hb

lemma Sound.deadLetter (h : Sound j f)
    (hstate : j.state = .queued ∨ j.state = .timedOut ∨ j.state = .reorged) :
    Sound { j with state := .deadLetter, lastError := e, updatedAt := t } f where
  current := h.current
  bound := h.bound
  rows := h.rows
  sender := h.sender
  waiting _ := .inr rfl
  pair a ha := by
    have hpair := h.pair a ha
    obtain hq | ht | hr := hstate
    · rw [hq] at hpair
      simp [State.agrees] at hpair
    · rw [ht] at hpair
      cases ha' : a.state <;> simp_all [State.agrees]
    · rw [hr] at hpair
      cases ha' : a.state <;> simp_all [State.agrees]
  replaced := h.replaced

lemma Sound.evolves (h : Sound j f) (hev : Evolves c j f j' f') : Sound j' f' := by
  cases hev with
  | leased lease t => exact h.congr rfl rfl rfl (fun _ hn => hn) rfl rfl
  | allocated n t _ hnone =>
    refine h.congr rfl rfl rfl (fun m hm => ?_) rfl rfl
    rw [hnone] at hm
    cases hm
  | prepared lease a now t _ _ hcount hnum hid hnonce hpayer =>
    exact h.prepared hcount hnum hid hnonce hpayer
  | replaced lease previous a old now t _ _ hcount hold _ hnum hfour hid hnonce hpayer _ =>
    exact h.replace hcount hold hnum hfour hid hnonce hpayer
  | moved a a' y e t ha hm hfixed => exact h.move ha hm hfixed
  | deadLettered e t hstate => exact h.deadLetter hstate

end

/-! ## The store -/

/-- One job and its attempts are rewritten. -/
structure Rewrites (s s' : Store) (j j' : Job) (f' : Attempts) : Prop where
  found : s.jobs.lookup j.jobID = some j
  jobs : s'.jobs = s.jobs.insert j.jobID j'
  attempts : s'.attemptsOf j.jobID = f'
  others : ∀ id, id ≠ j.jobID → s'.attemptsOf id = s.attemptsOf id

def Store.nextNonce (s : Store) (chainID : ℕ) (gasPayer : String) : ℕ :=
  (s.nextNonces.lookup (chainID, gasPayer)).getD 0

/-- What happens to nonces when a job is rewritten: nothing, or it is given one that no other job
of its gas payer has. -/
inductive Sequences (s s' : Store) (j j' : Job) : Prop where
  | same : j'.nonce = j.nonce → s'.nextNonces = s.nextNonces → Sequences s s' j j'
  | next (n : ℕ) : j'.nonce = some n → s.nextNonce j.chainID j.gasPayer ≤ n →
      (∀ id k, s.jobs.lookup id = some k → k.gasPayer = j.gasPayer → k.nonce ≠ some n) →
      s'.nextNonces = s.nextNonces.insert (j.chainID, j.gasPayer) (n + 1) → Sequences s s' j j'

inductive Effect (s s' : Store) (c : StoreCall) : Prop where
  | unchanged : s' = s → Effect s s' c
  | enqueued (j : Job) : s.jobs.lookup j.jobID = none → j.state = .queued → j.attemptCount = 0 →
      j.currentAttempt = 0 → j.nonce = none → s' = s.updateJob j → Effect s s' c
  | rewritten (j j' : Job) (f' : Attempts) : Rewrites s s' j j' f' →
      Evolves c j (s.attemptsOf j.jobID) j' f' → Sequences s s' j j' → Effect s s' c

/-- Every job is kept under its identifier and is sound, and no attempt is without a job. -/
structure Store.Sound (s : Store) : Prop where
  keyed : ∀ id j, s.jobs.lookup id = some j → j.jobID = id
  jobs : ∀ id j, s.jobs.lookup id = some j → Keeper.Sound j (s.attemptsOf id)
  orphans : ∀ id n a, s.attemptsOf id n = some a → (s.jobs.lookup id).isSome

variable {s s' : Store} {number : ℕ}

@[simp] lemma attemptsOf_updateJob (j : Job) (id : String) :
    (s.updateJob j).attemptsOf id = s.attemptsOf id := rfl

@[simp] lemma jobs_updateJob (j : Job) : (s.updateJob j).jobs = s.jobs.insert j.jobID j := rfl

lemma attemptsOf_insert (id : String) (n : ℕ) (a : Attempt) :
    Store.attemptsOf { s with attempts := s.attempts.insert (id, n) a } id =
      update (s.attemptsOf id) n (some a) := by
  funext m
  by_cases hm : m = n
  · subst hm
    rw [update_self]
    exact lookup_insert _
  · rw [update_of_ne hm]
    exact lookup_insert_ne (by simp [hm])

lemma attemptsOf_insert_ne {id id' : String} (h : id' ≠ id) (n : ℕ) (a : Attempt) :
    Store.attemptsOf { s with attempts := s.attempts.insert (id, n) a } id' = s.attemptsOf id' := by
  funext m
  exact lookup_insert_ne (by simp [h])

lemma insertAttempt_ok (h : s.insertAttempt a = .ok s') :
    s' = { s with attempts := s.attempts.insert (a.jobID, a.number) a.row } ∧
      s.validateKeeperGasPayer a := by
  simp only [Store.insertAttempt, guard_ok, not_or, Except.ok.injEq, Bool.not_eq_false] at h
  exact ⟨h.2.symm, h.1.1⟩

lemma updateAttempt_ok {jobID : String} {f : Attempt → Attempt}
    (h : s.updateAttempt jobID number p f = .ok s') :
    ∃ a, s.attemptsOf jobID number = some a ∧ p a ∧
      s' = { s with attempts := s.attempts.insert (jobID, number) (f a) } := by
  unfold Store.updateAttempt at h
  split at h
  · cases h
  · rename_i a ha
    rw [Option.filter_eq_some_iff] at ha
    rw [guard_ok, Except.ok.injEq] at h
    exact ⟨a, ha.1, ha.2, h.2.symm⟩

lemma loadLeasedJob_ok {lease : Lease} {now : Time} {j : Job}
    (h : s.loadLeasedJob lease now = .ok j) : s.jobs.lookup lease.job.jobID = some j := by
  unfold Store.loadLeasedJob at h
  split at h
  · cases h
  · rename_i job hjob
    split_ifs at h
    cases h
    exact hjob

lemma transition_ok {lease : Lease} {now : Time} {change : Job → Except KeeperErr Store}
    (h : s.transition lease now change = .ok s') :
    ∃ j, s.jobs.lookup lease.job.jobID = some j ∧ change j = .ok s' := by
  rw [Store.transition, guard_ok, bind_eq_ok] at h
  obtain ⟨-, j, hj, h⟩ := h
  exact ⟨j, loadLeasedJob_ok hj, h⟩

lemma Rewrites.updateJob {j j' : Job} (hj : s.jobs.lookup j.jobID = some j)
    (hid : j'.jobID = j.jobID) : Rewrites s (s.updateJob j') j j' (s.attemptsOf j.jobID) where
  found := hj
  jobs := by rw [jobs_updateJob, hid]
  attempts := rfl
  others _ _ := rfl

lemma Rewrites.updateAttempt {j j' : Job}
    (hj : s.jobs.lookup j.jobID = some j) (hid : j'.jobID = j.jobID) :
    Rewrites s (Store.updateJob { s with attempts := s.attempts.insert (j.jobID, n) a } j') j j'
      (update (s.attemptsOf j.jobID) n (some a)) where
  found := hj
  jobs := by rw [jobs_updateJob, hid]
  attempts := by rw [attemptsOf_updateJob, attemptsOf_insert]
  others id h := by rw [attemptsOf_updateJob, attemptsOf_insert_ne h]

/-! ## Methods -/

section

variable {lease : Lease} {now : Time} {keccak256 : Bytes → String}
  {keeperID gasPayer token : String} {duration : ℤ}

lemma enqueue_effect {input : EnqueueInput} {r : Job × Bool}
    (h : s.enqueue keccak256 input now = .ok (s', r)) : Effect s s' c := by
  rw [Store.enqueue, guard_ok] at h
  obtain ⟨-, h⟩ := h
  split at h
  · rw [guard_ok, ok_pair_eq] at h
    exact .unchanged h.2.1.symm
  · rename_i hnone
    rw [guard_ok, ok_pair_eq] at h
    exact .enqueued (input.row now) hnone rfl rfl rfl rfl h.2.1.symm

lemma claimWhere_ok {p : Job → Bool} {chainID : ℕ} {jobID : String}
    (h : s.claimWhere p keeperID gasPayer chainID duration jobID token now = .ok (s', lease)) :
    ∃ j l t, s.jobs.lookup jobID = some j ∧ p j ∧
      lease.job = { j with lease := l, updatedAt := t } ∧ s' = s.updateJob lease.job := by
  rw [Store.claimWhere, guard_ok] at h
  obtain ⟨-, h⟩ := h
  split at h
  · cases h
  · rename_i j hj
    split_ifs at h with hcond
    cases h
    exact ⟨j, _, _, hj, hcond.2.2.2.1, rfl, rfl⟩

lemma claimWhere_effect (hs : s.Sound) {p : Job → Bool} {chainID : ℕ} {jobID : String}
    (h : s.claimWhere p keeperID gasPayer chainID duration jobID token now = .ok (s', lease)) :
    Effect s s' c := by
  obtain ⟨j, l, t, hj, -, hjob, rfl⟩ := claimWhere_ok h
  obtain rfl := hs.keyed _ j hj
  rw [hjob]
  exact .rewritten j _ _ (.updateJob hj rfl) (.leased l t) (.same rfl rfl)

lemma releaseLease_effect (hs : s.Sound) (h : s.releaseLease lease = .ok s') : Effect s s' c := by
  rw [Store.releaseLease, guard_ok] at h
  obtain ⟨-, h⟩ := h
  split at h
  · cases h
  · rename_i j hj
    rw [guard_ok, Except.ok.injEq] at h
    obtain ⟨-, rfl⟩ := h
    rw [← hs.keyed _ j hj] at hj
    exact .rewritten j _ _ (.updateJob hj rfl) (.leased none j.updatedAt) (.same rfl rfl)

/-- The nonce that the rows of one chain give the leased job: its own row, and the sequence of its
gas payer, which is at `next`. -/
structure Gives (lease : Lease) (observed : ℕ) (now : Time) (j : Job) (next n : ℕ) : Prop where
  valid : validateLease lease
  leased : j.lease.any (fun l => l.token = lease.token && l.owner = lease.job.keeperID &&
    l.expiresAt.after (timestamptz now))
  state : j.state = .queued ∧ j.attemptCount = 0
  nonce : j.nonce = some n ∨ j.nonce = none ∧ n = max observed next ∧ n ≠ maxUint64

lemma Gives.next_le {observed next : ℕ} {j : Job} (h : Gives lease observed now j next n)
    (hnone : j.nonce = none) : next ≤ n := by
  obtain ⟨-, rfl, -⟩ := h.nonce.resolve_left (by simp [hnone])
  exact le_max_right _ _

lemma allocateNonce_eq_ok {observed : ℕ} : s.allocateNonce lease observed now = .ok (s', n) ↔
      ∃ j, s.jobs.lookup lease.job.jobID = some j ∧
        Gives lease observed now j (s.nextNonce j.chainID j.gasPayer) n ∧
        (j.nonce ≠ none ∧ s' = s ∨
          j.nonce = none ∧ s.jobs.entries.any (fun e => e.2.gasPayer = j.gasPayer &&
              e.2.nonce = some n) = false ∧ s' = Store.updateJob
              { s with nextNonces := s.nextNonces.insert (j.chainID, j.gasPayer) (n + 1) }
              { j with nonce := some n, updatedAt := timestamptz now }) := by
  simp only [Store.allocateNonce, guard_ok, bind_eq_ok, Bool.not_eq_false]
  constructor
  · rintro ⟨hvalid, j, hload, hstate, h⟩
    have hj := loadLeasedJob_ok hload
    simp only [Store.loadLeasedJob, hj] at hload
    split_ifs at hload with hleased
    rw [not_or, not_not, not_not] at hstate
    refine ⟨j, hj, ?_⟩
    split at h
    · rename_i m hm
      cases h
      exact ⟨⟨hvalid, hleased, hstate, .inl hm⟩, .inl ⟨by simp [hm], rfl⟩⟩
    · rename_i hnone
      rw [guard_ok, guard_ok, ok_pair_eq, Bool.not_eq_true] at h
      obtain ⟨hbound, hfree, rfl, rfl⟩ := h
      exact ⟨⟨hvalid, hleased, hstate, .inr ⟨hnone, rfl, hbound⟩⟩, .inr ⟨hnone, hfree, rfl⟩⟩
  · rintro ⟨j, hj, ⟨hvalid, hleased, hstate, hnonce⟩, h⟩
    refine ⟨hvalid, j, by simp only [Store.loadLeasedJob, hj, if_pos hleased], by simp [hstate], ?_⟩
    rcases hnonce with hnonce | ⟨hnonce, rfl, hbound⟩
    · simp_all
    · obtain ⟨-, hfree, rfl⟩ := h.resolve_left fun h => h.1 hnonce
      unfold Store.nextNonce at *
      simp [hnonce, hbound, hfree]

lemma allocateNonce_effect (hs : s.Sound) {observed : ℕ}
    (h : s.allocateNonce lease observed now = .ok (s', n)) : Effect s s' c := by
  obtain ⟨j, hj, hgives, ⟨-, rfl⟩ | ⟨hnone, hfresh, rfl⟩⟩ := allocateNonce_eq_ok.mp h
  · exact .unchanged rfl
  · rw [← hs.keyed _ j hj] at hj
    refine .rewritten j _ _ ⟨hj, rfl, rfl, fun _ _ => rfl⟩
      (.allocated _ (timestamptz now) hgives.state.1 hnone)
      (.next _ rfl (hgives.next_le hnone) (fun id k hk hpayer hnonce => ?_) rfl)
    have := List.any_eq_false.mp hfresh ⟨id, k⟩ (mem_lookup_iff.mp hk)
    simp [hpayer, hnonce] at this

lemma recordPrepared_effect (hs : s.Sound)
    (h : s.recordPrepared lease a now = .ok s') : Effect s s' (.recordPrepared lease a now) := by
  rw [Store.recordPrepared, guard_ok] at h
  obtain ⟨hvalid, h⟩ := h
  obtain ⟨j, hj, h⟩ := transition_ok h
  rw [← hs.keyed _ j hj] at hj
  simp only [guard_ok, not_or, not_not] at h hvalid
  obtain ⟨⟨hstate, hcount, -, hid⟩, h⟩ := h
  split at h
  · cases h
  · rename_i n hn
    simp only [guard_ok, not_or, not_not, map_eq_ok] at h
    obtain ⟨⟨rfl, hpayer⟩, s₁, hinsert, rfl⟩ := h
    obtain ⟨rfl, -⟩ := insertAttempt_ok hinsert
    rw [← hid, hvalid.2.1]
    exact .rewritten j _ _ (.updateAttempt hj rfl)
      (.prepared lease a now _ rfl hstate hcount hvalid.2.1 hid.symm hn hpayer) (.same rfl rfl)

lemma recordReplacement_effect (hs : s.Sound)
    (h : s.recordReplacement lease previous a now = .ok s') :
    Effect s s' (.recordReplacement lease previous a now) := by
  rw [Store.recordReplacement, guard_ok] at h
  obtain ⟨hvalid, h⟩ := h
  obtain ⟨j, hj, h⟩ := transition_ok h
  rw [← hs.keyed _ j hj] at hj
  simp only [guard_ok, not_or, not_not, not_and_or, bind_eq_ok, map_eq_ok, not_lt,
    Bool.not_eq_false] at h hvalid
  obtain ⟨⟨hstate, -, hcount, hid, hfour⟩, s₁, hupdate, s₂, hinsert, rfl⟩ := h
  obtain ⟨old, hold, hp, rfl⟩ := updateAttempt_ok hupdate
  obtain ⟨rfl, hpayer⟩ := insertAttempt_ok hinsert
  simp only [Bool.and_eq_true, Bool.or_eq_true, decide_eq_true_eq] at hp
  -- the trigger compares the new row with the job
  have hrow : j.gasPayer = a.gasPayer ∧ j.nonce = some a.nonce := by
    have hfound : s.jobs.lookup a.jobID = some j := hid ▸ hj
    simpa [Store.validateKeeperGasPayer, hfound] using hpayer
  refine .rewritten j _ _ ⟨hj, rfl, ?_, fun id hne => ?_⟩
    (.replaced lease previous a old now _ rfl hstate hcount hold hp.2 hvalid.2.1 hfour hid.symm
      hrow.2 hrow.1.symm hvalid.2.2.2.2.2) (.same rfl rfl)
  · rw [attemptsOf_updateJob, ← hid]
    exact (attemptsOf_insert _ _ _).trans (by rw [attemptsOf_insert])
  · rw [attemptsOf_updateJob, ← hid]
    exact (attemptsOf_insert_ne hne _ _).trans (attemptsOf_insert_ne hne _ _)

/-- The transitions that change the current attempt together with the job. -/
lemma updateAttempt_effect {j : Job} {g : Attempt → Attempt} {s₁ : Store}
    (hj : s.jobs.lookup j.jobID = some j) (hcurrent : j.currentAttempt = number)
    (h : s.updateAttempt j.jobID number p g = .ok s₁)
    (hm : ∀ a, s.attemptsOf j.jobID number = some a → p a → Moves c j.state a.state y (g a).state)
    (hg : ∀ a, (g a).fixed = a.fixed) :
    Effect s (s₁.updateJob { j with state := y, lastError := e, updatedAt := t }) c := by
  subst hcurrent
  obtain ⟨a, ha, hp, rfl⟩ := updateAttempt_ok h
  exact .rewritten j _ _ (.updateAttempt hj rfl) (.moved a (g a) y e t ha (hm a ha hp) (hg a))
    (.same rfl rfl)

lemma markBroadcasting_effect (hs : s.Sound)
    (h : s.markBroadcasting lease number now = .ok s') : Effect s s' c := by
  obtain ⟨j, hj, h⟩ := transition_ok h
  rw [← hs.keyed _ j hj] at hj
  simp only [guard_ok, not_or, not_not, not_and_or, map_eq_ok] at h
  obtain ⟨⟨hcurrent, hstate⟩, s₁, hupdate, rfl⟩ := h
  exact updateAttempt_effect (e := j.lastError) hj hcurrent hupdate
    (fun a _ hp => .broadcasting hstate (by simpa using hp)) fun _ => rfl

lemma finishBroadcast_effect (hs : s.Sound) {txHash : Option String}
    {reason : String} (h : s.finishBroadcast lease number txHash y x reason now = .ok s')
    (hyx : (y, x) ∈ [(State.submitted, AttemptState.submitted), (.ambiguous, .ambiguous),
      (.timedOut, .rejected), (.deadLetter, .rejected)]) : Effect s s' c := by
  obtain ⟨j, hj, h⟩ := transition_ok h
  rw [← hs.keyed _ j hj] at hj
  simp only [guard_ok, not_or, not_not, map_eq_ok] at h
  obtain ⟨⟨hstate, hcurrent⟩, s₁, hupdate, rfl⟩ := h
  refine updateAttempt_effect hj hcurrent hupdate (fun a _ hp => ?_) fun _ => rfl
  simp only [Bool.and_eq_true, decide_eq_true_eq] at hp
  exact .finished y x hstate hp.1 hyx

lemma markRecoveryDeadLetter_effect (hs : s.Sound) {reason : String}
    (h : s.markRecoveryDeadLetter lease reason now = .ok s') : Effect s s' c := by
  obtain ⟨j, hj, h⟩ := transition_ok h
  rw [← hs.keyed _ j hj] at hj
  simp only [guard_ok, not_and_or, not_not, Except.ok.injEq] at h
  obtain ⟨hstate, rfl⟩ := h
  exact .rewritten j _ _ (.updateJob hj rfl) (.deadLettered _ _ hstate) (.same rfl rfl)

lemma applyOutcome_effect (hs : s.Sound) {outcome : Outcome}
    (h : s.applyOutcome lease outcome now = .ok s') : Effect s s' (.applyOutcome lease outcome now) := by
  obtain ⟨j, hj, h⟩ := transition_ok h
  rw [← hs.keyed _ j hj] at hj
  split at h
  · cases h
  · rename_i a ha
    rw [guard_ok] at h
    obtain ⟨-, h⟩ := h
    split at h
    · cases h
    · rename_i x hx
      obtain ⟨s₁, hupdate, rfl⟩ := map_eq_ok.mp h
      have hnumber := ((hs.jobs _ j hj).sender _ a ha).2.2.2
      refine updateAttempt_effect hj hnumber.symm hupdate (fun b _ hp => ?_) fun _ => rfl
      simp only [Bool.and_eq_true, Bool.or_eq_true, decide_eq_true_eq, or_assoc] at hp
      exact .observed lease outcome now x rfl hp.2 hx

lemma call_effect {r : Reply} (hs : s.Sound)
    (h : s.call keccak256 c = .ok (s', r)) : Effect s s' c := by
  cases c <;> simp only [Store.call, map_eq_ok, Prod.mk.injEq, Prod.exists] at h
  case enqueue input now =>
    obtain ⟨s₁, job, replay, h, rfl, -⟩ := h
    exact enqueue_effect h
  case claim =>
    obtain ⟨s₁, lease, h, rfl, -⟩ := h
    exact claimWhere_effect hs h
  case claimObservation =>
    obtain ⟨s₁, lease, h, rfl, -⟩ := h
    exact claimWhere_effect hs h
  case allocateNonce =>
    obtain ⟨s₁, n, h, rfl, -⟩ := h
    exact allocateNonce_effect hs h
  case recordPrepared =>
    obtain ⟨s₁, h, rfl, -⟩ := h
    exact recordPrepared_effect hs h
  case recordReplacement =>
    obtain ⟨s₁, h, rfl, -⟩ := h
    exact recordReplacement_effect hs h
  case markBroadcasting =>
    obtain ⟨s₁, h, rfl, -⟩ := h
    exact markBroadcasting_effect hs h
  case markSubmitted =>
    obtain ⟨s₁, h, rfl, -⟩ := h
    rw [Store.markSubmitted, guard_ok] at h
    exact finishBroadcast_effect hs h.2 (by simp)
  case markAmbiguous =>
    obtain ⟨s₁, h, rfl, -⟩ := h
    exact finishBroadcast_effect hs h (by simp)
  case markRejected =>
    obtain ⟨s₁, h, rfl, -⟩ := h
    rw [Store.markRejected, guard_ok, not_and_or, not_not, not_not] at h
    obtain ⟨rfl | rfl, h⟩ := h
    · exact finishBroadcast_effect hs h (by simp)
    · exact finishBroadcast_effect hs h (by simp)
  case markRecoveryDeadLetter =>
    obtain ⟨s₁, h, rfl, -⟩ := h
    exact markRecoveryDeadLetter_effect hs h
  case applyOutcome =>
    obtain ⟨s₁, h, rfl, -⟩ := h
    exact applyOutcome_effect hs h
  case releaseLease =>
    obtain ⟨s₁, h, rfl, -⟩ := h
    exact releaseLease_effect hs h

end

/-! ## Reachable stores -/

lemma sound_empty : Store.empty.Sound where
  keyed _ _ h := by cases h
  jobs _ _ h := by cases h
  orphans _ _ _ h := by cases h

lemma Store.Sound.rewrites (hs : s.Sound) {j j' : Job} (h : Rewrites s s' j j' f')
    (hid : j'.jobID = j.jobID) (hj' : Keeper.Sound j' f') : s'.Sound where
  keyed id k hk := by
    rw [h.jobs, lookup_insert_eq_some] at hk
    obtain ⟨rfl, rfl⟩ | ⟨-, hk⟩ := hk
    · exact hid
    · exact hs.keyed id k hk
  jobs id k hk := by
    rw [h.jobs, lookup_insert_eq_some] at hk
    obtain ⟨rfl, rfl⟩ | ⟨hne, hk⟩ := hk
    · exact h.attempts ▸ hj'
    · rw [h.others id hne]
      exact hs.jobs id k hk
  orphans id n a ha := by
    rw [h.jobs, lookup_insert_ite]
    split_ifs with hne
    · rfl
    · rw [h.others id hne] at ha
      exact hs.orphans id n a ha

lemma Evolves.jobID {j j' : Job} (h : Evolves c j f j' f') : j'.jobID = j.jobID := by
  cases h <;> rfl

lemma Effect.sound (h : Effect s s' c) (hs : s.Sound) : s'.Sound := by
  cases h with
  | unchanged heq => exact heq ▸ hs
  | enqueued j hnone hstate hcount hcurrent hnonce heq =>
    subst heq
    have hnew : ∀ n, s.attemptsOf j.jobID n = none := fun n => by
      by_contra hne
      obtain ⟨a, ha⟩ := Option.ne_none_iff_exists'.mp hne
      simpa [hnone] using hs.orphans _ n a ha
    have hj : Keeper.Sound j (s.attemptsOf j.jobID) :=
      { current := by rw [hcurrent, hcount]
        bound := by omega
        rows := fun n => by simp only [hnew, hcount]; simp; omega
        sender := fun n a ha => by rw [hnew] at ha; cases ha
        waiting := fun _ => .inl hstate
        pair := fun a ha => by rw [hnew] at ha; cases ha
        replaced := fun n a _ ha => by rw [hnew] at ha; cases ha }
    refine ⟨fun id k hk => ?_, fun id k hk => ?_, fun id n a ha => ?_⟩
    · rw [jobs_updateJob, lookup_insert_eq_some] at hk
      obtain ⟨rfl, rfl⟩ | ⟨-, hk⟩ := hk
      · rfl
      · exact hs.keyed id k hk
    · rw [jobs_updateJob, lookup_insert_eq_some] at hk
      obtain ⟨rfl, rfl⟩ | ⟨-, hk⟩ := hk
      · exact hj
      · exact hs.jobs id k hk
    · rw [jobs_updateJob, lookup_insert_ite]
      split_ifs with hne
      · rfl
      · exact hs.orphans id n a ha
  | rewritten j j' f' h hev _ => exact hs.rewrites h hev.jobID ((hs.jobs _ j h.found).evolves hev)

lemma reachable_sound (keccak256 : Bytes → String) (calls : List StoreCall) :
    (execute (Store.call keccak256) Store.empty calls).Sound :=
  execute_invariant (fun _ _ _ _ hs h => (call_effect hs h).sound hs) sound_empty calls

/-- The states that a job never leaves. -/
def State.closed (state : State) : Bool :=
  state = .finalized || state = .reverted || state = .deadLetter

lemma Evolves.closed {j j' : Job} (hj : Sound j f) (h : Evolves c j f j' f')
    (hclosed : j.state.closed) : j'.state = j.state ∧ f' = f := by
  cases h with
  | leased lease t => exact ⟨rfl, rfl⟩
  | allocated n t hstate _ | prepared lease a now t _ hstate _ _ _ _ _ =>
    simp [hstate, State.closed] at hclosed
  | replaced lease previous a old now t _ hstate _ _ _ _ _ _ _ _ _ =>
    obtain hstate | hstate := hstate <;> simp [hstate, State.closed] at hclosed
  | moved a a' y e t ha hm _ =>
    have hpair := hj.pair a (hj.current ▸ ha)
    generalize a'.state = x at hm
    cases hm with
    | broadcasting hstate _ =>
      obtain hstate | hstate := hstate <;> simp [hstate, State.closed] at hclosed
    | finished y x hstate _ _ => simp [hstate, State.closed] at hclosed
    | observed lease outcome now x _ hstate _ =>
      -- the attempt of a closed job is none that an outcome moves
      obtain hstate | hstate | hstate := hstate <;>
        cases hjob : j.state <;> simp_all [State.closed, State.agrees]
  | deadLettered e t hstate =>
    obtain hstate | hstate | hstate := hstate <;> simp [hstate, State.closed] at hclosed

/-- A call keeps every job, and changes it as `Evolves` says or not at all. -/
lemma Effect.kept {id : String} {j : Job} (h : Effect s s' c) (hj : s.jobs.lookup id = some j) :
    ∃ j', s'.jobs.lookup id = some j' ∧ Evolves c j (s.attemptsOf id) j' (s'.attemptsOf id) := by
  have hsame : Evolves c j (s.attemptsOf id) j (s.attemptsOf id) := .leased j.lease j.updatedAt
  cases h with
  | unchanged heq => exact ⟨j, heq ▸ hj, heq ▸ hsame⟩
  | enqueued k hnone _ _ _ _ heq =>
    have hne : id ≠ k.jobID := by
      rintro rfl
      rw [hnone] at hj
      cases hj
    refine ⟨j, ?_, heq ▸ hsame⟩
    rw [heq, jobs_updateJob, lookup_insert_ne hne]
    exact hj
  | rewritten k k' f' h hev _ =>
    by_cases hid : id = k.jobID
    · subst hid
      cases hj.symm.trans h.found
      exact ⟨k', by rw [h.jobs, lookup_insert], h.attempts ▸ hev⟩
    · refine ⟨j, ?_, h.others id hid ▸ hsame⟩
      rw [h.jobs, lookup_insert_ne hid]
      exact hj

lemma Effect.before {id : String} {j' : Job} (h : Effect s s' c) (hj' : s'.jobs.lookup id = some j') :
    (∃ j, s.jobs.lookup id = some j) ∨ j'.state = .queued ∧ j'.nonce = none ∧ j'.attemptCount = 0 := by
  cases h with
  | unchanged heq => exact .inl ⟨j', heq ▸ hj'⟩
  | enqueued k _ hstate hcount _ hnonce heq =>
    rw [heq, jobs_updateJob, lookup_insert_eq_some] at hj'
    obtain ⟨rfl, rfl⟩ | ⟨-, hj'⟩ := hj'
    · exact .inr ⟨hstate, hnonce, hcount⟩
    · exact .inl ⟨j', hj'⟩
  | rewritten k k' f' h _ _ =>
    rw [h.jobs, lookup_insert_eq_some] at hj'
    obtain ⟨rfl, rfl⟩ | ⟨-, hj'⟩ := hj'
    · exact .inl ⟨k, h.found⟩
    · exact .inl ⟨j', hj'⟩

lemma closed_run (keccak256 : Bytes → String) {id : String} {j : Job} (hs : s.Sound)
    (hj : s.jobs.lookup id = some j) (hclosed : j.state.closed) (calls : List StoreCall) :
    ∃ j', (execute (Store.call keccak256) s calls).jobs.lookup id = some j' ∧ j'.state = j.state ∧
      (execute (Store.call keccak256) s calls).attemptsOf id = s.attemptsOf id := by
  refine (execute_invariant (I := fun s' : Store => s'.Sound ∧ ∃ j', s'.jobs.lookup id = some j' ∧
    j'.state = j.state ∧ s'.attemptsOf id = s.attemptsOf id) (fun s₁ c s₂ r ih h => ?_)
    ⟨hs, j, hj, rfl, rfl⟩ calls).2
  obtain ⟨hs₁, j₁, hj₁, hstate, hattempts⟩ := ih
  have heffect := call_effect hs₁ h
  obtain ⟨j₂, hj₂, hev⟩ := heffect.kept hj₁
  obtain ⟨hstate₂, hattempts₂⟩ := hev.closed (hs₁.jobs id j₁ hj₁) (hstate ▸ hclosed)
  exact ⟨heffect.sound hs₁, j₂, hj₂, hstate₂.trans hstate, hattempts₂.trans hattempts⟩

/-- The states of an attempt that was decided on chain. -/
def AttemptState.ended (state : AttemptState) : Bool := state = .finalized || state = .reverted

/-- An attempt that was decided on chain is the current one, and its job is closed. -/
lemma Sound.ended {j : Job} (hj : Sound j f) (ha : f n = some a) (hended : a.state.ended) :
    n = j.attemptCount ∧ j.state.closed := by
  have hn : n = j.attemptCount := by
    refine le_antisymm (hj.lt_of_row ha).2 (not_lt.mp fun hlt => ?_)
    simp [hj.replaced n a hlt ha, AttemptState.ended] at hended
  subst hn
  have hpair := hj.pair a ha
  refine ⟨rfl, ?_⟩
  cases hstate : a.state <;> simp_all [AttemptState.ended] <;>
    cases hjob : j.state <;> simp_all [State.agrees, State.closed]

/-- The states of jobs and attempts agree in every reachable store `s`, and in every store
`s'` reached from it: the current attempt of a job is in the state that goes with the job's,
those before it are REPLACED, no two attempts of a job are ever FINALIZED or REVERTED, and a
job that is FINALIZED, REVERTED or DEAD_LETTER stays so. -/
theorem states_agree (keccak256 : Bytes → String) (calls later : List StoreCall) :
    let s := execute (Store.call keccak256) Store.empty calls
    let s' := execute (Store.call keccak256) s later
    (∀ id j, s.jobs.lookup id = some j → j.currentAttempt ≠ 0 →
      (∃ a, s.attempts.lookup (id, j.currentAttempt) = some a ∧ j.state.agrees a.state) ∧
        ∀ n, 1 ≤ n → n < j.currentAttempt →
          ∃ a, s.attempts.lookup (id, n) = some a ∧ a.state = .replaced) ∧
      (∀ id n m a b, s.attempts.lookup (id, n) = some a → a.state.ended →
        s'.attempts.lookup (id, m) = some b → b.state.ended → n = m) ∧
      ∀ id j, s.jobs.lookup id = some j → j.state.closed →
        ∃ j', s'.jobs.lookup id = some j' ∧ j'.state = j.state := by
  intro s s'
  have hs : s.Sound := reachable_sound keccak256 calls
  refine ⟨fun id j hj hcurrent => ?_, fun id n m a b ha hended hb hended' => ?_,
    fun id j hj hclosed => ?_⟩
  · have hsound := hs.jobs id j hj
    rw [hsound.current] at hcurrent ⊢
    obtain ⟨a, ha⟩ := hsound.exists_current hcurrent
    refine ⟨⟨a, ha, hsound.pair a ha⟩, fun n hn hlt => ?_⟩
    obtain ⟨b, hb⟩ := Option.isSome_iff_exists.mp ((hsound.rows n).mpr ⟨hn, hlt.le⟩)
    exact ⟨b, hb, hsound.replaced n b hlt hb⟩
  · obtain ⟨j, hj⟩ := Option.isSome_iff_exists.mp (hs.orphans id n a ha)
    have hsound := hs.jobs id j hj
    obtain ⟨hn, hclosed⟩ := hsound.ended ha hended
    -- the job is closed, so its attempts are still those of `s`
    obtain ⟨-, -, -, hattempts⟩ := closed_run keccak256 hs hj hclosed later
    have hb' : s.attemptsOf id m = some b := hattempts ▸ hb
    exact hn.trans (hsound.ended hb' hended').1.symm
  · obtain ⟨j', hj', hstate, -⟩ := closed_run keccak256 hs hj hclosed later
    exact ⟨j', hj', hstate⟩

end FlowOps.Keeper

import FlowOps.Reconciliation.Effects

/-!
# The chain status over a run

Which statuses the engine writes (`StatusWrite`), what each does to the state of the
chain, the recovery counter and the trusted checkpoint, and what holds of every
stored status (`ChainStatus.OK`).

Results:
* `observeStatus_healthy`, `observeStatus_unhealthy`: the two outcomes of `Observe`.
* `Writes.status`: the status of an event is one of four kinds.
* `apply_status`: the status after an event is the one it carries, or the old one.
* `reachable_status`: every stored status is in order.
-/

namespace FlowOps.Reconciliation

/-! ## Observations -/

section

variable {cfg : Config} {s : State} {now : Time} {observations : List Observation}

lemma evaluateSnapshot_advances {trusted : Option Checkpoint} {cp : Checkpoint}
    (h : evaluateSnapshot cfg trusted now observations = .ok cp) :
    ∀ t, trusted = some t → t.blockNumber < cp.blockNumber ∨
      (cp.blockNumber = t.blockNumber ∧ cp.blockHash = t.blockHash) := by
  rintro t rfl
  unfold evaluateSnapshot at h
  split at h
  · cases h
  · simp only [guard_ok, bind_eq_ok, Option.any_some, decide_eq_true_eq, Except.ok.injEq] at h
    obtain ⟨-, _, -, -, hback, rfl⟩ := h
    push Not at hback
    rcases lt_or_eq_of_le hback.1 with hlt | heq
    · exact .inl hlt
    · exact .inr ⟨heq.symm, hback.2 heq.symm⟩

lemma observeStatus_frame (cfg : Config) (s : State) (now : Time)
    (observations : List Observation) :
    let st := observeStatus cfg s now observations
    st.chainID = s.status.chainID ∧ st.requiredObserverQuorum = cfg.observerQuorum ∧
      st.lastObservationAt = now ∧
      st.finalizationPaused = decide (st.state = .halted ∨ st.state = .suspectedStall) := by
  have hstart : ∀ st : ChainStatus, st.chainID = s.status.chainID ∧
      st.requiredObserverQuorum = cfg.observerQuorum ∧ st.lastObservationAt = now →
      let st' := { st.setPauseFlags with affectedExecutions := s.unresolvedCount }
      st'.chainID = s.status.chainID ∧ st'.requiredObserverQuorum = cfg.observerQuorum ∧
        st'.lastObservationAt = now ∧
        st'.finalizationPaused = decide (st'.state = .halted ∨ st'.state = .suspectedStall) :=
    fun _ h => ⟨h.1, h.2.1, h.2.2, rfl⟩
  have hs : ∀ st, st = observeStart cfg s.status now observations →
      st.chainID = s.status.chainID ∧ st.requiredObserverQuorum = cfg.observerQuorum ∧
        st.lastObservationAt = now := by
    rintro _ rfl
    unfold observeStart
    dsimp only
    split_ifs <;> exact ⟨rfl, rfl, rfl⟩
  unfold observeStatus
  apply hstart
  generalize hst : observeStart cfg s.status now observations = st
  obtain ⟨h₁, h₂, h₃⟩ := hs st hst.symm
  cases evaluateSnapshot cfg s.status.lastTrusted now observations with
  | ok cp =>
    unfold observeHealthy
    cases st.state <;> dsimp only <;> split_ifs <;> exact ⟨h₁, h₂, h₃⟩
  | error reason =>
    unfold observeUnhealthy
    cases st.state <;> dsimp only <;> (try split_ifs) <;> exact ⟨h₁, h₂, h₃⟩

lemma observeStart_cases (cfg : Config) (status : ChainStatus) (now : Time)
    (observations : List Observation) :
    let st := observeStart cfg status now observations
    st.lastTrusted = status.lastTrusted ∧ st.consecutiveRecovery = status.consecutiveRecovery ∧
      ((st.state = status.state ∧
          (status.state = .healthy → trustedFresh cfg status.lastTrusted now)) ∨
        (st.state = .suspectedStall ∧ status.state = .healthy)) := by
  unfold observeStart
  dsimp only
  split_ifs with h
  · exact ⟨rfl, rfl, .inr ⟨rfl, h.1⟩⟩
  · refine ⟨rfl, rfl, .inl ⟨rfl, fun hs => ?_⟩⟩
    simpa [hs] using h

/-- A healthy snapshot keeps a fresh HEALTHY status, and otherwise starts or
continues the recovery; the checkpoint moves to the snapshot's anchor. -/
lemma observeStatus_healthy {cp : Checkpoint}
    (h : evaluateSnapshot cfg s.status.lastTrusted now observations = .ok cp) :
    let st := observeStatus cfg s now observations
    st.lastTrusted = some cp ∧ ((s.status.state = .healthy ∧ st.state = .healthy) ∨
        (s.status.state = .recovering ∧ st.state = .recovering ∧
          st.consecutiveRecovery = s.status.consecutiveRecovery + 1) ∨
        (s.status.state ≠ .recovering ∧ st.state = .recovering ∧ st.consecutiveRecovery = 1)) := by
  obtain ⟨htrusted, hcount, hstate⟩ := observeStart_cases cfg s.status now observations
  have hall : (observeStart cfg s.status now observations).lastTrusted.all
      (fun t => decide (t.blockNumber < cp.blockNumber ∨
        (cp.blockNumber = t.blockNumber ∧ cp.blockHash = t.blockHash))) := by
    rw [htrusted]
    cases ht : s.status.lastTrusted with
    | none => rfl
    | some t => simpa using evaluateSnapshot_advances h t ht
  unfold observeStatus
  rw [h]
  dsimp only
  generalize observeStart cfg s.status now observations = st at htrusted hcount hstate hall
  unfold observeHealthy
  cases hs : st.state with
  | healthy =>
    rw [hs] at hstate
    have : s.status.state = .healthy := by
      rcases hstate with ⟨h, -⟩ | ⟨h, -⟩ <;> [exact h.symm; cases h]
    dsimp only
    split_ifs <;> simp_all [ChainStatus.setPauseFlags]
  | recovering =>
    rw [hs] at hstate
    have : s.status.state = .recovering := by
      rcases hstate with ⟨h, -⟩ | ⟨h, -⟩ <;> [exact h.symm; cases h]
    dsimp only
    split_ifs <;> simp_all [ChainStatus.setPauseFlags]
  | suspectedStall | halted =>
    rw [hs] at hstate
    have : s.status.state ≠ .recovering := by
      rcases hstate with ⟨h, -⟩ | ⟨-, h⟩ <;> [rw [← h]; rw [h]] <;> decide
    dsimp only
    split_ifs <;> simp_all [ChainStatus.setPauseFlags]

lemma observeStatus_unhealthy {reason : String}
    (h : evaluateSnapshot cfg s.status.lastTrusted now observations = .error reason) :
    let st := observeStatus cfg s now observations
    st.lastTrusted = s.status.lastTrusted ∧ (st.state = .suspectedStall ∨ st.state = .halted) := by
  obtain ⟨htrusted, -, -⟩ := observeStart_cases cfg s.status now observations
  unfold observeStatus
  rw [h]
  dsimp only
  generalize observeStart cfg s.status now observations = st at htrusted
  unfold observeUnhealthy
  cases hs : st.state <;> dsimp only <;> (try split_ifs) <;>
    simp [ChainStatus.setPauseFlags, htrusted]

end

/-! ## Written statuses -/

/-- The operations that reopen a resolved record. -/
def Op.Reopens : Op → Prop
  | .reopenReorg _ _ _ => True
  | .reopenRevertedReorg _ _ => True
  | .reopenEscrowReorg _ _ _ => True
  | _ => False

/-- The statuses the operations write. -/
inductive StatusWrite (cfg : Config) (ctx : Ctx) (s : State) : Op → ChainStatus → Prop where
  | observe {observations} :
    StatusWrite cfg ctx s (.observe observations) (observeStatus cfg s (ctx.now 0) observations)
  | halt {operator reason} :
    StatusWrite cfg ctx s (.forceHalt operator reason) (haltStatus s (ctx.now 0) reason)
  | resume {operator} (ready : s.recoveryReady cfg (ctx.now 1)) :
    StatusWrite cfg ctx s (.resume operator) (resumeStatus s (ctx.now 2) operator)
  | reopen {op reason a} (hop : op.Reopens)
      (live : s.status.state = .healthy ∨ s.status.state = .recovering)
      (fresh : trustedFresh cfg s.status.lastTrusted (ctx.now 0)) :
    StatusWrite cfg ctx s op
      { s.status.reopened (ctx.now 0) reason with affectedExecutions := a }

structure ChainStatus.OK (cfg : Config) (st : ChainStatus) : Prop where
  chain : st.chainID = cfg.chainID
  quorum : st.requiredObserverQuorum = cfg.observerQuorum
  paused : st.finalizationPaused = decide (st.state = .halted ∨ st.state = .suspectedStall)
  observed : st.lastObservationAt.isZero →
    st.lastTrusted = none ∧ (st.state = .halted ∨ st.state = .suspectedStall)

section

variable {P : Primitives} {cfg : Config} {ctx : Ctx} {s s' : State} {op : Op} {d : Draft}
  {st : ChainStatus} {ev : JournalEvent} {now : Time}

lemma trustedFresh_isSome {trusted : Option Checkpoint}
    (h : trustedFresh cfg trusted now) : trusted ≠ none := by
  rintro rfl
  cases h

lemma ChainStatus.OK.live (h : s.status.OK cfg) (hp : s.status.finalizationPaused = false) :
    s.status.state = .healthy ∨ s.status.state = .recovering := by
  have hpaused := h.paused
  rw [hp] at hpaused
  cases hs : s.status.state with
  | healthy => exact .inl rfl
  | recovering => exact .inr rfl
  | halted | suspectedStall => simp [hs] at hpaused

lemma State.live_of_reorgBlocked (h : s.reorgBlocked cfg now = false) :
    (s.status.state = .healthy ∨ s.status.state = .recovering) ∧
      trustedFresh cfg s.status.lastTrusted now := by
  simp only [reorgBlocked, Bool.or_eq_false_iff, Bool.and_eq_false_iff, decide_eq_false_iff_not,
    not_not, Bool.not_eq_false'] at h
  exact h

lemma Writes.status (h : s.status.OK cfg) (hw : Writes P cfg ctx s op d)
    (hst : d.body.status = some st) : StatusWrite cfg ctx s op st := by
  cases hw with
  | observe => cases hst; exact .observe
  | halt => cases hst; exact .halt
  | resume _ ready => cases hst; exact .resume ready
  | reopenSettled accepted | reopenReverted accepted =>
    cases hst
    obtain ⟨hlive, hfresh⟩ := State.live_of_reorgBlocked accepted.live
    exact .reopen trivial hlive hfresh
  | escrowReorg checked =>
    cases hst
    exact .reopen (a := s.status.affectedExecutions) trivial (h.live checked.live.1) checked.live.2
  | _ => cases hst

lemma ChainStatus.OK.tracked (h : st.OK cfg) : st.tracked cfg = st := by
  have hq : (if st.requiredObserverQuorum = 0 then cfg.observerQuorum
      else st.requiredObserverQuorum) = st.requiredObserverQuorum := by
    split_ifs
    · exact h.quorum.symm
    · rfl
  have ho : (if st.lastObservationAt.isZero then
      (st.lastTrusted.map (·.observedAt)).getD st.lastObservationAt else st.lastObservationAt) =
      st.lastObservationAt := by
    split_ifs with hz
    · rw [(h.observed hz).1]; rfl
    · rfl
  unfold ChainStatus.tracked
  rw [hq, ho]

lemma Changes.status_none (hc : Changes P cfg s ev s') (h : s.status.chainID = cfg.chainID)
    (hst : ev.body.status = none) : ∃ a, s'.status = { s.status with affectedExecutions := a } := by
  obtain ⟨a, ha⟩ := hc.status
  rw [hst] at ha
  exact ⟨a, by rw [ha, ← h]; rfl⟩

lemma Changes.status_some (hc : Changes P cfg s ev s') (h : st.OK cfg)
    (hst : ev.body.status = some st) : ∃ a, s'.status = { st with affectedExecutions := a } := by
  obtain ⟨a, ha⟩ := hc.status
  rw [hst] at ha
  refine ⟨a, ?_⟩
  rw [ha]
  show { st.tracked cfg with chainID := cfg.chainID, affectedExecutions := a } = _
  rw [h.tracked, ← h.chain]

lemma ChainStatus.OK.setAffected (h : st.OK cfg) (a : ℤ) :
    ChainStatus.OK cfg { st with affectedExecutions := a } :=
  ⟨h.chain, h.quorum, h.paused, h.observed⟩

lemma StatusWrite.chainID (h : s.status.chainID = cfg.chainID)
    (hw : StatusWrite cfg ctx s op st) : st.chainID = cfg.chainID := by
  cases hw with
  | observe => exact (observeStatus_frame cfg s (ctx.now 0) _).1.trans h
  | halt => exact h
  | resume => exact h
  | reopen => exact h

lemma StatusWrite.ok (h : s.status.OK cfg) (hw : StatusWrite cfg ctx s op st)
    (hzero : ∀ observations, op = .observe observations → (ctx.now 0).isZero = false) :
    st.OK cfg := by
  cases hw with
  | @observe observations =>
    obtain ⟨hchain, hquorum, hat, hpaused⟩ := observeStatus_frame cfg s (ctx.now 0) observations
    refine ⟨hchain.trans h.chain, hquorum, hpaused, fun hz => ?_⟩
    rw [hat, hzero observations rfl] at hz
    cases hz
  | halt => exact ⟨h.chain, h.quorum, rfl, fun hz => ⟨(h.observed hz).1, .inl rfl⟩⟩
  | resume ready =>
    refine ⟨h.chain, h.quorum, rfl, fun hz => ?_⟩
    simp only [State.recoveryReady, Bool.and_eq_true] at ready
    exact absurd (h.observed hz).1 (trustedFresh_isSome ready.2)
  | reopen _ _ fresh =>
    exact ⟨h.chain, h.quorum, rfl, fun hz => absurd (h.observed hz).1 (trustedFresh_isSome fresh)⟩

lemma ChainStatus.OK.restarted (h : st.OK cfg) (hd : st.demoted) (now : Time) :
    (st.restarted now).OK cfg := by
  refine ⟨h.chain, h.quorum, rfl, fun hz => ?_⟩
  obtain ⟨-, hs⟩ := h.observed hz
  rcases hs with hs | hs <;> simp [ChainStatus.demoted, hs] at hd

/-- The status after an event of an operation: the old one, or the written one. -/
lemma apply_status (h : s.status.OK cfg) (hw : Writes P cfg ctx s op d) (hf : ev.Follows d)
    (happly : s.apply P cfg ev = .ok s') :
    s'.status.OK cfg ∧
      ((d.body.status = none ∧ ∃ a, s'.status = { s.status with affectedExecutions := a }) ∨
        ∃ st a, d.body.status = some st ∧ StatusWrite cfg ctx s op st ∧
          s'.status = { st with affectedExecutions := a }) := by
  have hc := apply_changes happly
  cases hst : d.body.status with
  | none =>
    obtain ⟨a, ha⟩ := hc.status_none h.chain (by rw [hf.body, hst])
    exact ⟨by rw [ha]; exact h.setAffected a, .inl ⟨rfl, a, ha⟩⟩
  | some st =>
    have hsw := hw.status h hst
    have hok : st.OK cfg := hsw.ok h (by
      rintro observations rfl
      have hz := hf.nonzero
      cases hw with
      | observe => exact hz
      | register hop => cases hop
      | escrowIntent hop => cases hop
      | escrowPending hop => cases hop)
    obtain ⟨a, ha⟩ := hc.status_some hok (by rw [hf.body, hst])
    exact ⟨by rw [ha]; exact hok.setAffected a, .inr ⟨st, a, rfl, hsw, ha⟩⟩

lemma restart_status (h : s.status.OK cfg) (hd : s.status.demoted)
    (hf : ev.Follows (restartDraft s now)) (happly : s.apply P cfg ev = .ok s') :
    s'.status.OK cfg ∧ ∃ a, s'.status = { s.status.restarted now with affectedExecutions := a } := by
  have hok := h.restarted hd now
  obtain ⟨a, ha⟩ := (apply_changes happly).status_some hok (by rw [hf.body]; rfl)
  exact ⟨by rw [ha]; exact hok.setAffected a, a, ha⟩

lemma ChainStatus.OK.stamp (h : s.status.OK cfg) (a : ℤ) (r : Bool) (t : Time) :
    (s.stamp a r t).status.OK cfg :=
  ⟨h.chain, h.quorum, h.paused, h.observed⟩

lemma State.init_statusOK (cfg : Config) (now : Time) : (init cfg now).status.OK cfg :=
  ⟨rfl, rfl, rfl, fun _ => ⟨rfl, .inr rfl⟩⟩

lemma reachable_status {e : Engine} (h : Reachable P cfg e) : e.state.status.OK cfg :=
  reachable_state (I := fun s => s.status.OK cfg) (fun _ a r t hs => hs.stamp a r t)
    (State.init_statusOK cfg) (fun _ _ _ _ _ _ hs hw hf ha => (apply_status hs hw hf ha).1)
    (fun _ _ _ _ hs hd hf ha => (restart_status hs hd hf ha).1) h

end

end FlowOps.Reconciliation

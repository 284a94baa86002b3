import FlowOps.Reconciliation.Status

/-!
# Reopening a journal

`Open` on a journal that the engine wrote and whose events were all applied. It
succeeds if every line fits the scanner's buffer and, where a restart event has to be
written, the clock can be printed. A stalled or halted engine comes back as it was;
one that was HEALTHY or RECOVERING is demoted by one restart event.

Results:
* `Engine.Replays.opens`: `Open` succeeds.
* `open_reproduces`: the state it reaches.
-/

namespace FlowOps.Reconciliation

open List

/-! ## Times -/

/-- The times of a stored status that a restart event repeats can be printed. -/
def ChainStatus.Printable (st : ChainStatus) : Prop :=
  st.lastObservationAt.marshals ∧
    ∀ t, st.lastTrusted = some t → t.blockTime.marshals ∧ t.observedAt.marshals

section

variable {P : Primitives} {cfg : Config} {ctx : Ctx} {s s' : State} {op : Op} {d : Draft}
  {ev : JournalEvent} {st : ChainStatus} {now : Time}

lemma EventBody.status_times {b : EventBody} (h : b.status = some st) :
    ∀ t ∈ st.times, t ∈ b.times := by
  intro t ht
  cases b with
  | chainStatus p => cases h; exact mem_append_left _ ht
  | executionResolved p | executionReorged p =>
    simp only [status] at h
    simp [times, ExecutionPayload.times, h, ht]
  | escrow kind p =>
    simp only [status] at h
    simp [times, h, ht]
  | _ => cases h

lemma JournalEvent.Follows.status_printable (hf : ev.Follows d) (h : d.body.status = some st) :
    st.Printable := by
  have hall : ∀ t ∈ st.times, t.marshals := fun t ht =>
    all_eq_true.mp hf.printable t (mem_cons_of_mem _ (EventBody.status_times h t ht))
  refine ⟨hall _ (by simp [ChainStatus.times]), fun t ht => ⟨hall _ ?_, hall _ ?_⟩⟩ <;>
    simp [ChainStatus.times, ht]

lemma reachable_printable {e : Engine} (h : Reachable P cfg e) :
    e.state.status.OK cfg ∧ e.state.status.Printable := by
  refine reachable_state (I := fun s => s.status.OK cfg ∧ s.status.Printable)
    (fun _ a r t hs => ⟨hs.1.stamp a r t, hs.2⟩) (fun t => ⟨State.init_statusOK cfg t, ?_⟩) ?_ ?_ h
  · exact ⟨by simp [State.init, ChainStatus.setPauseFlags, Time.marshals], by rintro t ⟨⟩⟩
  · rintro s ctx op d ev s' ⟨hok, hprint⟩ hw hf ha
    obtain ⟨hok', ⟨-, a, hst⟩ | ⟨st, a, hst, -, hst'⟩⟩ := apply_status hok hw hf ha
    · exact ⟨hok', by rw [hst]; exact hprint⟩
    · have hprint' := hf.status_printable hst
      exact ⟨hok', by rw [hst']; exact hprint'⟩
  · rintro s now ev s' ⟨hok, hprint⟩ hd hf ha
    obtain ⟨hok', a, hst⟩ := restart_status hok hd hf ha
    exact ⟨hok', by rw [hst]; exact hprint⟩

lemma apply_chain {p : ChainPayload} (hb : ev.body = .chainStatus p)
    (hid : p.status.chainID = cfg.chainID) : ∃ s', s.apply P cfg ev = .ok s' := by
  refine ⟨(s.applyChain cfg p).withChain cfg, apply_ok_iff.mpr ⟨s.applyChain cfg p, ?_, .inr ?_, rfl⟩⟩
  · rw [State.applyBody, hb]
  · unfold State.applyChain
    dsimp only
    split_ifs <;> exact hid

lemma append_restart {j : Journal} (h : s.status.Printable) (hzero : now.isZero = false)
    (hprint : now.marshals) (hutc : now.utc = now) :
    ∃ ev j', j.append P false (restartDraft s now) = .ok (ev, j') := by
  have htimes : (now.utc :: (restartDraft s now).body.times).all Time.marshals := by
    rw [all_eq_true]
    intro t ht
    have hbody : (restartDraft s now).body.times = [s.status.lastObservationAt, now] ++
        (s.status.lastTrusted.toList.flatMap fun t => [t.blockTime, t.observedAt]) ++ [] := rfl
    rw [hbody, hutc] at ht
    simp only [append_nil, mem_cons, mem_append, not_mem_nil, or_false,
      mem_flatMap, Option.mem_toList] at ht
    rcases ht with rfl | (rfl | rfl) | ⟨cp, hcp, rfl | rfl⟩
    · exact hprint
    · exact h.1
    · exact hprint
    · exact (h.2 cp hcp).1
    · exact (h.2 cp hcp).2
  exact ⟨_, _, Journal.append_eq_ok j ⟨by simp [restartDraft], by simp [restartDraft, containsControl]⟩ hzero
    htimes⟩

end

/-! ## Accepted events -/

/-- The operations on the chain status alone. -/
def Op.OnChain : Op → Prop
  | .observe _ => True
  | .forceHalt _ _ => True
  | .resume _ => True
  | _ => False

section

variable {P : Primitives} {cfg : Config} {ctx : Ctx} {s : State} {op : Op} {d : Draft}
  {ev : JournalEvent} {e : Engine}

lemma Writes.accepted_onChain (hok : s.status.OK cfg) (hop : op.OnChain)
    (hw : Writes P cfg ctx s op d) (hf : ev.Follows d) : ∃ s', s.apply P cfg ev = .ok s' := by
  have hbody : ∃ p, d.body = .chainStatus p := by
    cases hw with
    | observe | halt | resume => exact ⟨_, rfl⟩
    | register hop' | escrowIntent hop' | escrowPending hop' =>
      cases op <;> first | exact False.elim hop | cases hop'
    | _ => cases hop
  obtain ⟨p, hp⟩ := hbody
  refine apply_chain (hf.body.trans hp) ?_
  exact (hw.status hok (by rw [hp]; rfl)).chainID hok.chain

lemma Engine.acceptsCall_onChain (hok : e.state.status.OK cfg) (hop : op.OnChain) :
    e.AcceptsCall P cfg ctx op := by
  refine ⟨fun w ev journal hplan happend =>
    (plan_writes hplan).accepted_onChain hok hop (Journal.append_follows happend),
    fun reply plan _ hnext => ?_⟩
  have htwo := Op.twofold_of_next hnext
  cases op <;> first | exact False.elim hop | exact False.elim htwo

lemma onChain_accepted {inputs : List Input} (hreach : Reachable P cfg e)
    (h : ∀ ctx op, Input.call ctx op ∈ inputs → op.OnChain) :
    AllSteps (step P cfg) (fun e i => i.Calls (e.AcceptsCall P cfg)) e inputs := by
  induction inputs generalizing e with
  | nil => trivial
  | cons i inputs ih =>
    refine ⟨?_, fun e' hstep => ih (hreach.step hstep) fun ctx op hmem =>
      h ctx op (mem_cons_of_mem _ hmem)⟩
    cases i with
    | call ctx op =>
      exact Engine.acceptsCall_onChain (reachable_status hreach) (h ctx op mem_cons_self)
    | restart ctx => trivial

end

/-! ## Opening succeeds -/

section

variable {P : Primitives} {cfg : Config} {ctx ctx₀ : Ctx} {e e' : Engine} {started : Time}
  {inputs : List Input}

lemma run_replays_of_accepted
    (hrun : runFrom (step P cfg) (Engine.start cfg ctx₀) inputs = some e)
    (haccepts : AllSteps (step P cfg) (fun e i => i.Calls (e.AcceptsCall P cfg))
      (Engine.start cfg ctx₀) inputs) :
    ∃ started, e.Replays P cfg started := by
  refine history_induction (H := fun _ e => ∃ t, e.Replays P cfg t) ⟨_, Engine.replays_start ctx₀⟩
    ?_ inputs e hrun haccepts
  rintro is e₁ (⟨ctx, op⟩ | ctx) e₂ - ⟨t, hrep⟩ hacc hstep
  · cases hstep
    exact ⟨t, (hrep.call ctx op).2 hacc⟩
  · simp only [step] at hstep
    cases hopen : Engine.open P cfg ctx e₁.journal.events with
    | error err => rw [hopen] at hstep; cases hstep
    | ok e' =>
      rw [hopen] at hstep
      cases hstep
      obtain ⟨-, -, hr, -⟩ := Engine.open_ok hopen
      exact ⟨_, hr⟩

/-- The replay of a journal whose events were all applied does not fail. -/
lemma Engine.Replays.replayed (h : e.Replays P cfg started) (t : Time) :
    ∃ s₀, State.applyAll P cfg (State.init cfg t) e.journal.events = .ok s₀ := by
  obtain ⟨-, S, a, r, hS, -⟩ := h
  rw [State.init_stamp (t := started) t, applyAll_stamp, hS]
  exact ⟨_, rfl⟩

/-- `Open` succeeds on such a journal if its lines fit and the restart event, if one
is written, has a time that can be. -/
lemma Engine.Replays.opens (h : e.Replays P cfg started) (hok : e.state.status.OK cfg)
    (hprint : e.state.status.Printable) (hlines : ∀ ev ∈ e.journal.events, P.lineLength ev < maxLine)
    (hclock : e.state.status.demoted → (ctx.now 0).isZero = false ∧ (ctx.now 0).marshals) :
    ∃ e', Engine.open P cfg ctx e.journal.events = .ok e' := by
  obtain ⟨s₀, hall⟩ := h.replayed (ctx.now 0)
  obtain ⟨a, r, t, hs₀, -⟩ := h.applyAll hall
  have hopen : ∀ x : Engine, (if s₀.status.demoted then
      (e.journal.append P false (restartDraft s₀ (ctx.now 0))).bind fun written =>
      (s₀.apply P cfg written.1).bind fun s =>
        .ok ⟨written.2, s.refreshAffected cfg (ctx.now 1)⟩
      else Except.ok (⟨e.journal, s₀.refreshAffected cfg (ctx.now 1)⟩ : Engine)) = .ok x →
      ∃ e', Engine.open P cfg ctx e.journal.events = .ok e' := fun x hx =>
    ⟨x, bind_eq_ok.mpr ⟨e.journal, h.chained hlines, bind_eq_ok.mpr ⟨s₀, hall, hx⟩⟩⟩
  by_cases hd : s₀.status.demoted
  · have hd' : e.state.status.demoted := by rw [hs₀] at hd; exact hd
    have hprint₀ : s₀.status.Printable := by rw [hs₀]; exact hprint
    obtain ⟨ev, j, hj⟩ := append_restart (P := P) (j := e.journal) hprint₀ (hclock hd').1
      (hclock hd').2 rfl
    have hid : (s₀.status.restarted (ctx.now 0)).chainID = cfg.chainID := by
      rw [hs₀]; exact hok.chain
    obtain ⟨s₁, hs₁⟩ := apply_chain (P := P) (s := s₀) (Journal.append_follows hj).body hid
    refine hopen ⟨j, s₁.refreshAffected cfg (ctx.now 1)⟩ ?_
    rw [if_pos hd]
    exact bind_eq_ok.mpr ⟨(ev, j), hj, bind_eq_ok.mpr ⟨s₁, hs₁, rfl⟩⟩
  · exact hopen _ (if_neg hd)

end

section

open Sample

lemma Sample.resumed_accepted :
    AllSteps (step primitives config) (fun e i => i.Calls (e.AcceptsCall primitives config))
      (Engine.start config (ctx 0)) resumed := by
  refine onChain_accepted ⟨ctx 0, [], rfl⟩ fun ctx op hmem => ?_
  simp only [resumed, observed, mem_cons, Input.call.injEq, not_mem_nil, or_false] at hmem
  rcases hmem with ⟨-, rfl⟩ | ⟨-, rfl⟩ <;> trivial

end

/-! ## What opening reproduces -/

/-- The reopened engine `e'` against the live one `e`: the parts that no restart
changes. -/
structure Engine.SameRecords (e e' : Engine) : Prop where
  executionByHash : e'.state.executionByHash = e.state.executionByHash
  escrowByAuth : e'.state.escrowByAuth = e.state.escrowByAuth
  escrowByHash : e'.state.escrowByHash = e.state.escrowByHash
  ledger : e'.state.ledger = e.state.ledger
  balances : e'.state.balances = e.state.balances

/-- A stalled or halted engine is reopened as it was. -/
structure Engine.Reopened (ctx : Ctx) (e e' : Engine) : Prop extends Engine.SameRecords e e' where
  journal : e'.journal.events = e.journal.events
  executions : e'.state.executions = e.state.executions
  escrowCalls : e'.state.escrowCalls = e.state.escrowCalls
  operator : e'.state.lastResumeOperator = e.state.lastResumeOperator
  status : ∃ t, e'.state.status = { e.state.status with
      affectedExecutions := e.state.unresolvedCount
      readyForManualResume := false
      stateChangedAt := t } ∧
    (t = e.state.status.stateChangedAt ∨
      (t = ctx.now 0 ∧ ∀ ev ∈ e.journal.events, ev.body.status = none))

/-- A HEALTHY or RECOVERING engine is demoted by one restart event. -/
structure Engine.Demoted (ctx : Ctx) (e e' : Engine) : Prop extends Engine.SameRecords e e' where
  journal : ∃ ev a, e'.journal.events = e.journal.events ++ [ev] ∧ ev.key = "restart" ∧
    ev.eventAt = ctx.now 0 ∧ ev.body = .chainStatus {
      status := { e.state.status.restarted (ctx.now 0) with affectedExecutions := a }
      markBroadcastsPending := true }
  executions : e'.state.executions = e.state.executions.mapValues Execution.markPending
  escrowCalls : e'.state.escrowCalls = e.state.escrowCalls.mapValues EscrowCall.markPending
  operator : e'.state.lastResumeOperator = ""
  status : e'.state.status = { e.state.status.restarted (ctx.now 0) with
    affectedExecutions := e'.state.unresolvedCount }

section

variable {P : Primitives} {c cfg : Config} {ctx ctx₀ : Ctx} {e e' : Engine} {started : Time}
  {inputs : List Input} {s : State} {ev : JournalEvent} {a : ℤ} {r : Bool} {t : Time} {now : Time}

lemma recoveryReady_of_zero (hcfg : cfg.Valid)
    (h : s.status.consecutiveRecovery = 0) : s.recoveryReady cfg now = false := by
  have hrec := hcfg.recovery
  have : ¬cfg.recoveryObservations ≤ s.status.consecutiveRecovery := by omega
  simp [State.recoveryReady, this]

lemma recoveryReady_of_not_demoted (h : s.status.demoted = false) :
    s.recoveryReady cfg now = false := by
  simp only [ChainStatus.demoted, Bool.or_eq_false_iff, decide_eq_false_iff_not] at h
  simp [State.recoveryReady, h.2]

lemma restart_demotes {s' : State} (hok : s.status.OK cfg) (hd : s.status.demoted)
    (hf : ev.Follows (restartDraft s now)) (happly : s.apply P cfg ev = .ok s') :
    s'.executions = s.executions.mapValues Execution.markPending ∧
      s'.escrowCalls = s.escrowCalls.mapValues EscrowCall.markPending ∧
      s'.executionByHash = s.executionByHash ∧ s'.escrowByAuth = s.escrowByAuth ∧
      s'.escrowByHash = s.escrowByHash ∧ s'.ledger = s.ledger ∧ s'.balances = s.balances ∧
      s'.lastResumeOperator = "" ∧
      ∃ a, s'.status = { s.status.restarted now with affectedExecutions := a } := by
  have hc := apply_changes happly
  have hmarks : (restartDraft s now).body.marks := by
    simp [restartDraft, EventBody.marks]
  have hstate : (s.status.restarted now).state ≠ .healthy := by
    unfold ChainStatus.restarted ChainStatus.setPauseFlags
    dsimp only
    split_ifs with h
    · decide
    · exact h
  refine ⟨?_, ?_, ?_, ?_, ?_, ?_, ?_, ?_, (restart_status hok hd hf happly).2⟩
  · rw [hc.executions, hf.body, EventBody.updateExecutions, if_pos hmarks]
    rfl
  · rw [hc.escrowCalls, hf.body, EventBody.updateCalls, if_pos hmarks]
    rfl
  · rw [hc.executionByHash, hf.body]
    rfl
  · rw [hc.escrowByAuth, hf.body]
    rfl
  · rw [hc.escrowByHash, hf.body]
    rfl
  · rw [hc.ledger, hf.body]
    rfl
  · rw [hc.balances, hf.body]
    rfl
  · rw [hc.operator, hf.body]
    exact if_pos hstate

lemma Engine.reopened_of_stamp
    (hd : e.state.status.demoted = false) (hj : e'.journal.events = e.journal.events)
    (he' : e'.state = (e.state.stamp a r t).refreshAffected cfg now)
    (ht : t = e.state.status.stateChangedAt ∨
      (t = ctx.now 0 ∧ ∀ ev ∈ e.journal.events, ev.body.status = none)) :
    e.Reopened ctx e' := by
  have hready : (e.state.stamp a r t).recoveryReady cfg now = false :=
    recoveryReady_of_not_demoted hd
  rw [State.refreshAffected_eq_stamp, hready] at he'
  exact {
    executionByHash := by rw [he']; rfl
    escrowByAuth := by rw [he']; rfl
    escrowByHash := by rw [he']; rfl
    ledger := by rw [he']; rfl
    balances := by rw [he']; rfl
    journal := hj
    executions := by rw [he']; rfl
    escrowCalls := by rw [he']; rfl
    operator := by rw [he']; rfl
    status := ⟨t, by rw [he']; rfl, ht⟩ }

lemma Engine.demoted_of_restart {s₁ : State} (hcfg : cfg.Valid)
    (hok : e.state.status.OK cfg) (hd : e.state.status.demoted)
    (hf : ev.Follows (restartDraft (e.state.stamp a r t) (ctx.now 0)))
    (happly : (e.state.stamp a r t).apply P cfg ev = .ok s₁)
    (hj : e'.journal.events = e.journal.events ++ [ev])
    (he' : e'.state = s₁.refreshAffected cfg now) : e.Demoted ctx e' := by
  obtain ⟨hexec, hcalls, hbyHash, hauth, hescrow, hledger, hbal, hop, a', hst⟩ :=
    restart_demotes (hok.stamp a r t) hd hf happly
  have hready : s₁.recoveryReady cfg now = false := recoveryReady_of_zero hcfg (by rw [hst]; rfl)
  rw [State.refreshAffected_eq_stamp, hready] at he'
  exact {
    executionByHash := by rw [he']; exact hbyHash
    escrowByAuth := by rw [he']; exact hauth
    escrowByHash := by rw [he']; exact hescrow
    ledger := by rw [he']; exact hledger
    balances := by rw [he']; exact hbal
    journal := ⟨ev, a, hj, hf.key, hf.eventAt, hf.body⟩
    executions := by rw [he']; exact hexec
    escrowCalls := by rw [he']; exact hcalls
    operator := by rw [he']; exact hop
    status := by
      rw [he']
      simp only [State.stamp, hst]
      rfl }

/-- Reopening the journal of a run whose events were all applied gives the live
engine back, demoted if it was HEALTHY or RECOVERING. -/
theorem open_reproduces (hcfg : c.defaults = .ok cfg)
    (hrun : runFrom (step P cfg) (Engine.start cfg ctx₀) inputs = some e)
    (haccepts : AllSteps (step P cfg) (fun e i => i.Calls (e.AcceptsCall P cfg))
      (Engine.start cfg ctx₀) inputs)
    (hlines : ∀ ev ∈ e.journal.events, P.lineLength ev < maxLine)
    (hclock : e.state.status.demoted → (ctx.now 0).isZero = false ∧ (ctx.now 0).marshals) :
    ∃ e', Engine.open P cfg ctx e.journal.events = .ok e' ∧
      (e.state.status.demoted = false → e.Reopened ctx e') ∧
      (e.state.status.demoted → e.Demoted ctx e') := by
  obtain ⟨started, hrep⟩ := run_replays_of_accepted hrun haccepts
  obtain ⟨hok, hprint⟩ := reachable_printable ⟨ctx₀, inputs, hrun⟩
  obtain ⟨e', hopen⟩ := hrep.opens hok hprint hlines hclock
  refine ⟨e', hopen, ?_⟩
  obtain ⟨s₀, hall, -, hcases⟩ := Engine.open_ok hopen
  obtain ⟨a, r, t, hs₀, ht⟩ := hrep.applyAll hall
  have hdem : s₀.status.demoted = e.state.status.demoted := by rw [hs₀]; rfl
  have ht' : t = e.state.status.stateChangedAt ∨
      (t = ctx.now 0 ∧ ∀ ev ∈ e.journal.events, ev.body.status = none) := by
    refine ht.imp_right fun ⟨htime, hnone⟩ => ⟨htime, fun ev hev => ?_⟩
    simpa using any_eq_false.mp hnone ev hev
  rcases hcases with ⟨hd, hj, he'⟩ | ⟨hd, ev, s₁, hf, hj, happly, he'⟩
  · rw [hs₀] at he'
    refine ⟨fun h => Engine.reopened_of_stamp h hj he' ht', fun h => ?_⟩
    rw [hdem, h] at hd
    cases hd
  · rw [hs₀] at hf happly
    refine ⟨fun h => ?_, fun h =>
      Engine.demoted_of_restart (Config.defaults_valid hcfg) hok h hf happly hj he'⟩
    rw [hdem, h] at hd
    cases hd

end

section

open Sample

theorem open_reproduces_resumed : ∃ e, run resumed = some e ∧ e.state.status.demoted ∧
      ∃ e', Engine.open primitives config (ctx 2) e.journal.events = .ok e' ∧
        e.Demoted (ctx 2) e' := by
  have hrun : (run resumed).map (fun e => e.state.status.demoted) = some true := by decide
  obtain ⟨e, he, hd⟩ := Option.map_eq_some_iff.mp hrun
  have hclock : ((ctx 2).now 0).isZero = false ∧ ((ctx 2).now 0).marshals := by decide
  obtain ⟨e', hopen, -, hdem⟩ := open_reproduces deployment_defaults he
    resumed_accepted (fun _ _ => by simp [primitives, maxLine]) (fun _ => hclock)
  exact ⟨e, he, hd, e', hopen, hdem hd⟩

/-- Reopening a HEALTHY engine drops the resume operator. -/
theorem resume_operator_not_reproduced :
    AllSteps (step primitives config) (fun e i => i.Calls (e.AcceptsCall primitives config))
        (Engine.start config (ctx 0)) resumed ∧
      (run resumed).map (fun e => (e.state.status.state, e.state.lastResumeOperator)) =
        some (.healthy, "alice") ∧
      (run (resumed ++ [.restart (ctx 2)])).map
        (fun e => (e.state.status.state, e.state.lastResumeOperator)) =
        some (.suspectedStall, "") :=
  ⟨resumed_accepted, by decide⟩

end

end FlowOps.Reconciliation

import FlowOps.Reconciliation.EscrowAcceptance
import FlowOps.Reconciliation.Reopen

/-!
# Runs that replay

Every event of a run is applied, and the journal opens again, if the clock does not
decrease and every call meets `State.Replayable`. The three operations it restricts
write events that `apply` rejects: a transaction outcome whose scan ends before it
began, a finality check on a call with a pending candidate, and a removal over
transitions that are already removed. The call then fails, but its event stays in
the journal, and no replay gets past it.

All texts that a call is given are of type `String`, which is valid UTF-8, so that JSON
gives an event back as it was written. A Go string may hold other bytes: JSON puts U+FFFD
in their place, and `apply` refuses, for one, an attested broadcast whose `Resource` has
such a byte. These results say nothing about them.

Results:
* `Engine.acceptsCall`: a call that meets the condition.
* `journal_replayable`: a run of such calls.
* `outcome_unreplayable`: a run whose journal does not open.
-/

namespace FlowOps.Reconciliation

open List

section

variable {P : Primitives} {cfg : Config} {ctx : Ctx} {e e' : Engine} {op : Op} {t : ℤ}

lemma Op.Twofold.replayable (h : op.Twofold) (s : State) : s.Replayable P ctx op := by
  cases op <;> first | exact h.elim | trivial

/-- The first half of a call keeps the times of the stored calls below the second
reading of the clock. -/
lemma Engine.perform_recorded (hrec : e.state.RecordedBy (ctx.clock 1).ns) (hmono : ctx.Monotone) :
    (e.perform P cfg (ctx.canceled 0) (op.plan P cfg ctx e.state)).2.state.RecordedBy
      (ctx.clock 1).ns := by
  refine perform_state (fun _ _ _ _ h => h) hrec fun w ev s' hplan hf happly => ?_
  refine hrec.changes (apply_changes happly) fun c hc => ?_
  exact (plan_writes hplan).recorded hrec hmono (hf.body ▸ hc)

lemma Engine.acceptsCall (hreach : Reachable P cfg e)
    (hrec : e.state.RecordedBy (ctx.clock 0).ns) (hmono : ctx.Monotone)
    (hop : e.state.Replayable P ctx op) : e.AcceptsCall P cfg ctx op := by
  have hwf := reachable_wf hreach
  have hok := reachable_status hreach
  have hrec₁ := hrec.mono hmono.1
  refine ⟨fun w ev journal hplan happend => (plan_writes hplan).accepted hwf hok
    (Journal.append_follows happend) hop (.inr hrec) hrec₁, ?_⟩
  intro first reply plan hreply hnext w ev journal hplan happend
  subst hplan
  have htwo := Op.twofold_of_next hnext
  have hkeeps : first.2.state.WF P cfg ∧ first.2.state.status.OK cfg :=
    perform_state (I := fun s => s.WF P cfg ∧ s.status.OK cfg)
      (fun _ a r t h => ⟨h.1.stamp a r t, h.2.stamp a r t⟩) ⟨hwf, hok⟩
      fun w ev s' hplan hf happly => ⟨hwf.step (plan_writes hplan) hf happly,
        (apply_status hok (plan_writes hplan) hf happly).1⟩
  exact (next_writes hreply hnext).accepted hkeeps.1 hkeeps.2 (Journal.append_follows happend)
    (htwo.replayable _) (.inl htwo) (perform_recorded hrec₁ hmono)

lemma Engine.call_recorded (hrec : e.state.RecordedBy (ctx.clock 1).ns) (hmono : ctx.Monotone) :
    (e.call P cfg ctx op).2.state.RecordedBy (ctx.clock 1).ns := by
  refine call_state (K := fun _ => True) P cfg ctx op e (fun _ _ _ _ h => h) (fun _ _ _ _ h => h) hrec
    trivial (fun s d ev s' hs _ hw hf happly => ?_) fun _ _ _ _ _ _ _ _ _ _ => trivial
  exact hs.changes (apply_changes happly) fun c hc => hw.recorded hs hmono (hf.body ▸ hc)

lemma restart_recorded {ctx₀ : Ctx} {inputs : List Input}
    (hrun : runFrom (step P cfg) (Engine.start cfg ctx₀) inputs = some e)
    (hstep : step P cfg e (.restart ctx) = some e') (hrec : e.state.RecordedBy t) :
    e'.state.RecordedBy t := by
  obtain ⟨a, r, u, ⟨-, -, he'⟩ | ⟨-, ev, s₁, hf, -, happly, he'⟩⟩ := restart_cases hrun hstep
  · rw [he']
    exact hrec
  · have hs : (e.state.stamp a r u).RecordedBy t := hrec
    have hs₁ : s₁.RecordedBy t := hs.changes (apply_changes happly) fun c hc => by
      rw [hf.body] at hc
      cases hc
    rw [he']
    exact hs₁

end

/-! ## Runs -/

section

variable {P : Primitives} {cfg : Config} {ctx ctx₀ : Ctx} {e : Engine} {inputs : List Input}

lemma Clocked.prefix {before after : List Ctx} (h : Clocked (before ++ after)) : Clocked before :=
  ⟨fun c hc => h.1 c (mem_append_left _ hc), (pairwise_append.mp h.2).1⟩

variable (hrun : runFrom (step P cfg) (Engine.start cfg ctx₀) inputs = some e)
  (hclock : Clocked (inputs.map Input.ctx))
  (hops : AllSteps (step P cfg) (fun e i => i.Calls (e.state.Replayable P))
    (Engine.start cfg ctx₀) inputs)

include hrun hclock hops

/-- Along a run with a clock that does not decrease, every call is accepted and no
stored time is after the run's last one. -/
lemma run_accepted :
    AllSteps (step P cfg) (fun e i => i.Calls (e.AcceptsCall P cfg)) (Engine.start cfg ctx₀) inputs ∧
      ∀ t, (∀ i ∈ inputs, (i.ctx.clock 2).ns ≤ t) → e.state.RecordedBy t := by
  refine history_induction (H := fun is e => Clocked (is.map Input.ctx) →
    AllSteps (step P cfg) (fun e i => i.Calls (e.AcceptsCall P cfg)) (Engine.start cfg ctx₀) is ∧
      ∀ t, (∀ i ∈ is, (i.ctx.clock 2).ns ≤ t) → e.state.RecordedBy t)
    (fun _ => ⟨trivial, fun t _ id c hc => by cases hc⟩) ?_ inputs e hrun hops hclock
  intro is e₁ i e₂ hrun₁ ih hop hstep hclock
  rw [map_append] at hclock
  obtain ⟨hacc, hrec⟩ := ih hclock.prefix
  have hbefore : e₁.state.RecordedBy (i.ctx.clock 0).ns := hrec _ fun j hj =>
    (pairwise_append.mp hclock.2).2.2 j.ctx (mem_map_of_mem hj) i.ctx (by simp)
  have hmono : i.ctx.Monotone := hclock.1 i.ctx (by simp)
  cases i with
  | call ctx op =>
    cases hstep
    have haccepts := Engine.acceptsCall ⟨ctx₀, is, hrun₁⟩ hbefore hmono hop
    refine ⟨allSteps_snoc hrun₁ hacc haccepts, fun t ht => ?_⟩
    have hlast : (ctx.clock 2).ns ≤ t := ht (.call ctx op) (by simp)
    exact (Engine.call_recorded (hbefore.mono hmono.1) hmono).mono (hmono.2.trans hlast)
  | restart ctx =>
    refine ⟨allSteps_snoc hrun₁ hacc trivial, fun t ht => ?_⟩
    exact restart_recorded hrun₁ hstep (hrec t fun j hj => ht j (mem_append_left _ hj))

/-- In a run whose calls all meet `State.Replayable` and are given valid UTF-8 (a `String`
always is), `apply` accepts every appended event, the journal replays, and `Open` succeeds
on it if its lines fit and the restart event has a time that can be written. -/
theorem journal_replayable :
    AllSteps (step P cfg) (fun e i => i.Calls (e.AcceptsCall P cfg)) (Engine.start cfg ctx₀) inputs ∧
      (∀ t, ∃ s, State.applyAll P cfg (State.init cfg t) e.journal.events = .ok s) ∧
      ((∀ ev ∈ e.journal.events, P.lineLength ev < maxLine) → (e.state.status.demoted →
          (ctx.now 0).isZero = false ∧ (ctx.now 0).marshals) →
        ∃ e', Engine.open P cfg ctx e.journal.events = .ok e') := by
  obtain ⟨haccepts, -⟩ := run_accepted hrun hclock hops
  obtain ⟨started, hrep⟩ := run_replays_of_accepted hrun haccepts
  obtain ⟨hok, hprint⟩ := reachable_printable ⟨ctx₀, inputs, hrun⟩
  exact ⟨haccepts, hrep.replayed, hrep.opens hok hprint⟩

end

section

open Sample

/-- Both observers report the payment's transaction as pending up to block `through`. -/
def Sample.pendingOutcome (seconds : ℤ) (through : ℕ) : Input :=
  .call (ctx seconds) (.recordTransactionOutcome "pay" (quorum fun provider =>
    { provider, chainID := 8453, originalTransactionHash := hex32 4, outcome := .originalPending
      nonce := 7, throughBlock := through, throughBlockHash := hex32 3, accountNonce := 7 }))

/-- A payment whose outcome is scanned up to block `through`, after block 80. -/
def Sample.scanned (through : ℕ) : List Input :=
  resumed ++ [.call (ctx 2) (.registerBroadcast (payment "pay" 4)), pendingOutcome 3 80,
    pendingOutcome 4 through]

lemma Sample.scanned_clocked (through : ℕ) : Clocked ((scanned through).map Input.ctx) := by
  show Clocked [ctx 0, ctx 1, ctx 2, ctx 3, ctx 4]
  refine ⟨?_, by decide⟩
  simp [Ctx.Monotone, ctx]

theorem journal_replayable_scanned : ∃ e, run (scanned 81) = some e ∧ e.journal.events.length = 5 ∧
      ∃ e', Engine.open primitives config (ctx 5) e.journal.events = .ok e' := by
  have hrun : (run (scanned 81)).map (fun e => e.journal.events.length) = some 5 ∧
      AllSteps (step primitives config) (fun e i => i.Calls (e.state.Replayable primitives))
        (Engine.start config (ctx 0)) (scanned 81) := by decide +kernel
  obtain ⟨e, he, hlen⟩ := Option.map_eq_some_iff.mp hrun.1
  obtain ⟨-, -, hopens⟩ := @journal_replayable _ _ (ctx 5) _ _ _ he (scanned_clocked 81) hrun.2
  exact ⟨e, he, hlen, hopens (fun _ _ => by simp [primitives, maxLine]) fun _ => by decide⟩

/-- A second report that reaches only block 79 is appended and then rejected, and the
journal does not open again. -/
theorem outcome_unreplayable : Clocked ((scanned 79).map Input.ctx) ∧
      (run (scanned 79)).map (fun e => (e.journal.events.length,
        (State.applyAll primitives config (State.init config (clock 0)) e.journal.events).toBool,
        (Engine.open primitives config (ctx 5) e.journal.events).toBool)) =
        some (5, false, false) :=
  ⟨scanned_clocked 79, by decide +kernel⟩

end

end FlowOps.Reconciliation

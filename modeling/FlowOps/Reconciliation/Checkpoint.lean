import FlowOps.Reconciliation.ChainRecovery

/-!
# The trusted checkpoint over a run

The checkpoint only moves forward (`step_advances`, `run_advances`). A record takes an
outcome only under the checkpoint of that moment, so each resolved record of a reachable
state lies under the current one: `covered_since` is the rule, and the two kinds of record
are instances of it.

Results: `resolved_under_checkpoint`.
-/

namespace FlowOps.Reconciliation

open List

/-! ## The checkpoint moves forward -/

/-- A later checkpoint: not behind the earlier one, and with its hash at its number. -/
def Advances (old new : Option Checkpoint) : Prop :=
  ∀ t, old = some t → ∃ t', new = some t' ∧ t.blockNumber ≤ t'.blockNumber ∧
    (t'.blockNumber = t.blockNumber → t'.blockHash = t.blockHash)

section

variable {P : Primitives} {cfg : Config} {ctx ctx₀ : Ctx} {inputs more : List Input} {e e' : Engine}
  {i : Input} {old new newer : Option Checkpoint}

lemma Advances.refl (old : Option Checkpoint) : Advances old old :=
  fun t ht => ⟨t, ht, le_rfl, fun _ => rfl⟩

lemma Advances.trans (h₁ : Advances old new) (h₂ : Advances new newer) : Advances old newer := by
  intro t ht
  obtain ⟨t', ht', hle, hhash⟩ := h₁ t ht
  obtain ⟨t'', ht'', hle', hhash'⟩ := h₂ t' ht'
  refine ⟨t'', ht'', hle.trans hle', fun heq => ?_⟩
  rw [hhash' (by omega), hhash (by omega)]

lemma step_advances (hrun : runFrom (step P cfg) (Engine.start cfg ctx₀) inputs = some e)
    (hstep : step P cfg e i = some e') :
    Advances e.state.status.lastTrusted e'.state.status.lastTrusted := by
  obtain ⟨ctx, op⟩ | ctx := i
  · cases hstep
    rcases Engine.call_status P ctx op (reachable_status ⟨ctx₀, inputs, hrun⟩)
      with ⟨hsame, -⟩ | ⟨st, hsw, -, hsame⟩
    · rw [hsame.2.2]
      exact .refl _
    · rw [hsame.2.2]
      cases hsw with
      | halt | resume | reopen => exact .refl _
      | @observe observations =>
        cases heval : evaluateSnapshot cfg e.state.status.lastTrusted (ctx.now 0) observations with
        | error reason =>
          rw [(observeStatus_unhealthy heval).1]
          exact .refl _
        | ok cp =>
          rw [(observeStatus_healthy heval).1]
          intro t ht
          rcases evaluateSnapshot_advances heval t ht with hlt | ⟨heq, hhash⟩
          · exact ⟨cp, rfl, hlt.le, fun h => by omega⟩
          · exact ⟨cp, rfl, heq.ge, fun _ => hhash⟩
  · rw [(restart_chain hrun hstep).2.1]
    exact .refl _

lemma run_advances (hrun : runFrom (step P cfg) (Engine.start cfg ctx₀) inputs = some e)
    (hmore : runFrom (step P cfg) e more = some e') :
    Advances e.state.status.lastTrusted e'.state.status.lastTrusted := by
  induction more generalizing inputs e with
  | nil => cases hmore; exact .refl _
  | cons i more ih =>
    obtain ⟨e₁, h₁, h₂⟩ := runFrom_cons_eq_some.mp hmore
    exact (step_advances hrun h₁).trans (ih (runFrom_snoc_eq_some.mpr ⟨e, hrun, h₁⟩) h₂)

end

/-! ## Records resolved under the checkpoint -/

/-- The checkpoint of `e` is not behind block `number`. -/
def Engine.Above (e : Engine) (number : ℕ) : Prop :=
  ∃ t, e.state.status.lastTrusted = some t ∧ number ≤ t.blockNumber

/-- The run's last entry into `Q`, after which `Q` held throughout, was made with
the checkpoint above the block, or at it with the same hash. -/
def ResolvedUnder (P : Primitives) (cfg : Config) (ctx : Ctx) (inputs : List Input)
    (Q : State → Prop) (number : ℕ) (hash : String) : Prop :=
  ∃ before i rest e₁ e₂, inputs = before ++ i :: rest ∧
    runFrom (step P cfg) (Engine.start cfg ctx) before = some e₁ ∧ step P cfg e₁ i = some e₂ ∧
    ¬Q e₁.state ∧
    (∀ part, part <+: rest → ∀ e₃, runFrom (step P cfg) e₂ part = some e₃ → Q e₃.state) ∧
    ∃ t, e₁.state.status.lastTrusted = some t ∧ number ≤ t.blockNumber ∧
      (number = t.blockNumber → hash = t.blockHash)

section

variable {P : Primitives} {cfg : Config} {ctx₀ : Ctx} {inputs : List Input} {e : Engine}
  {number : ℕ} {hash : String}

lemma covered_iff {trusted : Option Checkpoint} :
    covered trusted number hash ↔ ∃ t, trusted = some t ∧ number ≤ t.blockNumber ∧
      (number = t.blockNumber → hash = t.blockHash) := by
  cases trusted with
  | none => simp [covered]
  | some t => simp [covered, or_iff_not_imp_left]

variable {Q : State → Prop} (hstamp : ∀ s a r t, Q (s.stamp a r t) ↔ Q s)
  (hwrite : ∀ s ctx op d ev s', s.WF P cfg → Writes P cfg ctx s op d → ev.Follows d →
    s.apply P cfg ev = .ok s' → Q s' → Q s ∨ covered s.status.lastTrusted number hash)
  (hrestart : ∀ s now ev s', ev.Follows (restartDraft s now) → s.apply P cfg ev = .ok s' →
    Q s' → Q s)
include hstamp hwrite hrestart

lemma step_covered {e' : Engine} {i : Input}
    (hrun : runFrom (step P cfg) (Engine.start cfg ctx₀) inputs = some e)
    (hstep : step P cfg e i = some e') (hnot : ¬Q e.state) (hQ : Q e'.state) :
    covered e.state.status.lastTrusted number hash := by
  obtain ⟨ctx, op⟩ | ctx := i
  · cases hstep
    have hreach : Reachable P cfg e := ⟨ctx₀, inputs, hrun⟩
    have hcall := Engine.call_state
      (I := fun s => Q s → covered e.state.status.lastTrusted number hash)
      (K := fun s => s.WF P cfg ∧ s.status.OK cfg ∧
        s.status.lastTrusted = e.state.status.lastTrusted) P cfg ctx op e
      (fun s a r t h hs => h ((hstamp s a r t).mp hs))
      (fun s a r t h => ⟨h.1.stamp a r t, h.2.1.stamp a r t, h.2.2⟩) (fun h => absurd h hnot)
      ⟨reachable_wf hreach, reachable_status hreach, rfl⟩
      (fun s d ev s' hI hK hw hf ha hs' => by
        rcases hwrite s ctx op d ev s' hK.1 hw hf ha hs' with hs | hcov
        · exact hI hs
        · rw [← hK.2.2]; exact hcov)
      (fun htwo s d ev s' _ hK hw hf ha => by
        obtain ⟨hok', ⟨-, a, hst⟩ | ⟨st, -, -, hsw, -⟩⟩ := apply_status hK.2.1 hw hf ha
        · exact ⟨hK.1.step hw hf ha, hok', by rw [hst]; exact hK.2.2⟩
        · exact absurd hsw.setsStatus (Op.not_setsStatus_of_twofold htwo))
    exact hcall hQ
  · obtain ⟨a, r, t, ⟨-, -, he'⟩ | ⟨-, ev, s₁, hf, -, happly, he'⟩⟩ := restart_cases hrun hstep
    · rw [he', State.refreshAffected_eq_stamp, hstamp, hstamp] at hQ
      exact absurd hQ hnot
    · rw [he', State.refreshAffected_eq_stamp, hstamp] at hQ
      exact absurd ((hstamp _ _ _ _).mp (hrestart _ _ ev s₁ hf happly hQ)) hnot

/-- A record that only takes the outcome `Q` under the checkpoint lies under it. -/
lemma covered_since (hinit : ∀ t, ¬Q (State.init cfg t))
    (hrun : runFrom (step P cfg) (Engine.start cfg ctx₀) inputs = some e) (hQ : Q e.state) :
    e.Above number ∧ ResolvedUnder P cfg ctx₀ inputs Q number hash := by
  obtain ⟨before, i, rest, e₁, e₂, rfl, hbefore, hstep, hnot, hsince⟩ :=
    exists_last_entry (Q := fun e : Engine => Q e.state)
      (fun h => hinit _ ((hstamp _ _ _ _).mp h)) inputs e hrun hQ
  have hQ₂ : Q e₂.state := hsince [] nil_prefix e₂ rfl
  have hcov := step_covered hstamp hwrite hrestart hbefore hstep hnot hQ₂
  obtain ⟨t, ht, hle, hhash⟩ := covered_iff.mp hcov
  refine ⟨?_, before, i, rest, e₁, e₂, rfl, hbefore, hstep, hnot, hsince, t, ht, hle, hhash⟩
  obtain ⟨e₁', h₁, h₂⟩ := runFrom_append_eq_some.mp hrun
  rw [hbefore] at h₁
  cases h₁
  obtain ⟨t', ht', hle', -⟩ := run_advances hbefore h₂ t ht
  exact ⟨t', ht', hle.trans hle'⟩

end

/-! ## Executions -/

def Execution.Finished (x : Execution) : Prop :=
  x.state = .settled ∨ x.state = .reverted ∨ x.state = .dropped

def Execution.SameOutcome (x y : Execution) : Prop :=
  y.state = x.state ∧ y.blockNumber = x.blockNumber ∧ y.blockHash = x.blockHash

/-- The execution is stored with the outcome of `x`. -/
def State.HasOutcome (s : State) (id : String) (x : Execution) : Prop :=
  ∃ y, s.executions.lookup id = some y ∧ x.SameOutcome y

section

variable {P : Primitives} {cfg : Config} {ctx : Ctx} {s s' : State} {op : Op} {d : Draft}
  {ev : JournalEvent} {x y z : Execution} {id : String}

lemma Execution.SameOutcome.finished (h : x.SameOutcome y) (hx : x.Finished) : y.Finished := by
  unfold Execution.Finished at *
  rwa [h.1]

lemma Execution.sameOutcome_carryFrom (c : Option Execution) : x.SameOutcome (x.carryFrom c) := by
  cases c <;> exact ⟨rfl, rfl, rfl⟩

lemma Execution.Finished.markPending (h : x.markPending.Finished) : x.markPending = x := by
  unfold Execution.markPending at h ⊢
  split_ifs at h ⊢
  · rcases h with h | h | h <;> cases h
  · rfl

lemma covered_of_buried {trusted : Option Checkpoint} {number depth : ℕ} {hash : String}
    (hdepth : 0 < depth) (h : buried trusted number depth) :
    covered trusted number hash := by
  cases trusted with
  | none => cases h
  | some t =>
    simp only [buried, decide_eq_true_eq] at h
    exact covered_iff.mpr ⟨t, rfl, h.1, fun heq => by omega⟩

/-- A finished execution is written under the checkpoint, or had its outcome
before. -/
lemma Writes.finished (hcfg : cfg.Valid) (hwf : s.WF P cfg) (hw : Writes P cfg ctx s op d)
    (hx : d.body.execution = some x) (hfin : x.Finished) :
    s.HasOutcome x.expected.executionID x ∨
      covered s.status.lastTrusted x.blockNumber x.blockHash := by
  cases hw with
  | register _ new =>
    cases hx
    rcases new.state with ⟨h, -⟩ | h <;> rcases hfin with h' | h' | h' <;> rw [h] at h' <;> cases h'
  | settle accepted | revert accepted | replace _ accepted =>
    cases hx
    exact .inr (validateReceiptQuorum_ok_iff.mp accepted.quorum).trusted
  | drop _ _ _ _ _ _ deep =>
    cases hx
    exact .inr (covered_of_buried hcfg.lookback deep)
  | pendingOutcome stored _ unresolved =>
    cases hx
    simp only [Execution.unresolved, Bool.or_eq_true, decide_eq_true_eq] at unresolved
    rcases unresolved with h | h <;> rcases hfin with h' | h' | h' <;> rw [h] at h' <;> cases h'
  | @finality id evidence e canonical stored =>
    cases hx
    refine .inl ⟨e, ?_, rfl, rfl, rfl⟩
    show s.executions.lookup e.expected.executionID = some e
    rw [(hwf.execution _ _ stored).keyed]
    exact stored
  | quarantine | terminalOutcome | reopenSettled | reopenReverted =>
    cases hx; rcases hfin with h | h | h <;> cases h
  | _ => cases hx

lemma Changes.finished_cases (hc : Changes P cfg s ev s') (hfin : x.Finished)
    (h : s'.HasOutcome id x) :
    s.HasOutcome id x ∨
      ∃ z, ev.body.execution = some z ∧ z.expected.executionID = id ∧ x.SameOutcome z := by
  obtain ⟨y, hy, hsame⟩ := h
  rcases hc.execution_cases hy with ⟨z, hz, hid, rfl⟩ | ⟨z, hz, -, rfl⟩
  · obtain ⟨h₁, h₂, h₃⟩ := z.sameOutcome_carryFrom (s.executions.lookup id)
    exact .inr ⟨z, hz, hid, h₁.symm.trans hsame.1, h₂.symm.trans hsame.2.1, h₃.symm.trans hsame.2.2⟩
  · refine .inl ⟨z, hz, ?_⟩
    split_ifs at hsame
    · rwa [(hsame.finished hfin).markPending] at hsame
    · exact hsame

end

/-! ## Escrow transitions -/

/-- The transition reached an outcome and is not removed. -/
def EscrowTransition.Finished (t : EscrowTransition) : Prop :=
  t.state = .confirmed ∨ t.state = .reverted

def EscrowTransition.SameOutcome (t u : EscrowTransition) : Prop :=
  u.expected = t.expected ∧ u.state = t.state ∧ u.blockNumber = t.blockNumber ∧
    u.blockHash = t.blockHash

/-- The call holds the transition with the outcome of `t`. -/
def State.HasTransition (s : State) (id : String) (t : EscrowTransition) : Prop :=
  ∃ c, s.escrowCalls.lookup id = some c ∧ ∃ u ∈ c.transitions, t.SameOutcome u

section

variable {P : Primitives} {cfg : Config} {ctx : Ctx} {s s' : State} {op : Op} {d : Draft}
  {ev : JournalEvent} {c : EscrowCall} {t : EscrowTransition} {id : String}

lemma EscrowTransition.SameOutcome.refl (t : EscrowTransition) : t.SameOutcome t :=
  ⟨rfl, rfl, rfl, rfl⟩

lemma State.hasTransition_of_mem (hwf : s.WF P cfg) (hc : s.escrowCalls.lookup id = some c)
    {callID : String} (hkey : c.intent.callID = callID) {u : EscrowTransition}
    (hu : u ∈ c.transitions) (h : t.SameOutcome u) : s.HasTransition callID t := by
  rw [← hkey, (hwf.call id c hc).keyed]
  exact ⟨c, hc, u, hu, h⟩

/-- A finished transition is written under the checkpoint, or had its outcome
before. -/
lemma Writes.finishedTransition (hwf : s.WF P cfg) (hw : Writes P cfg ctx s op d)
    (hc : d.body.call = some c) (ht : t ∈ c.transitions) (hfin : t.Finished) :
    s.HasTransition c.intent.callID t ∨ covered s.status.lastTrusted t.blockNumber t.blockHash := by
  cases hw with
  | escrowIntent => cases hc; cases ht
  | escrowPending _ new =>
    cases hc
    exact .inl (State.hasTransition_of_mem hwf new.stored rfl ht (.refl t))
  | escrowRevert accepted | escrowConfirm accepted =>
    cases hc
    rcases mem_append.mp ht with ht | ht
    · exact .inl (State.hasTransition_of_mem hwf accepted.stored rfl ht (.refl t))
    · rw [mem_singleton.mp ht]
      exact .inr (validateEscrowReceiptQuorum_ok_iff.mp accepted.quorum).trusted
  | @escrowFinality _ _ _ call pre u post canonical checked =>
    cases hc
    have hsplit := (splitTransitions_eq_some checked.split).1
    left
    have hold : ∀ v, v ∈ pre ∨ v = u ∨ v ∈ post → v ∈ call.transitions := by
      intro v hv
      rw [hsplit]
      simpa using hv
    rcases mem_append.mp ht with ht | ht
    · exact State.hasTransition_of_mem hwf checked.stored rfl (hold t (.inl ht)) (.refl t)
    · rcases mem_cons.mp ht with rfl | ht
      · exact State.hasTransition_of_mem hwf checked.stored rfl (hold u (.inr (.inl rfl)))
          ⟨rfl, rfl, rfl, rfl⟩
      · exact State.hasTransition_of_mem hwf checked.stored rfl (hold t (.inr (.inr ht))) (.refl t)
  | @escrowReorg _ _ _ call pre u post canonical removed ledgers reason checked loop =>
    cases hc
    have hsplit := (splitTransitions_eq_some checked.split).1
    left
    rcases mem_append.mp ht with ht | ht
    · rcases mem_append.mp ht with ht | ht
      · refine State.hasTransition_of_mem hwf checked.stored rfl ?_ (.refl t)
        rw [hsplit]
        exact mem_append_left _ ht
      · -- The removed transitions are REORGED.
        rw [(removeTransition_loop loop).1] at ht
        obtain ⟨v, -, rfl⟩ := mem_map.mp ht
        rcases hfin with h | h <;> cases h
    · refine State.hasTransition_of_mem hwf checked.stored rfl ?_ (.refl t)
      rw [hsplit]
      unfold keptSuffix at ht
      split_ifs at ht
      · simp [ht]
      · cases ht
  | _ => cases hc

lemma Changes.finishedTransition_cases (hc : Changes P cfg s ev s') (h : s'.HasTransition id t) :
    s.HasTransition id t ∨ ∃ c, ev.body.call = some c ∧ c.intent.callID = id ∧
      ∃ u ∈ c.transitions, t.SameOutcome u := by
  obtain ⟨c, hcall, u, hu, hsame⟩ := h
  rcases hc.call_cases hcall with ⟨hbody, hid⟩ | ⟨c₀, hc₀, -, rfl⟩
  · exact .inr ⟨c, hbody, hid, u, hu, hsame⟩
  · refine .inl ⟨c₀, hc₀, u, ?_, hsame⟩
    split_ifs at hu <;> exact hu

end

/-! ## Soundness of the checkpoint -/

section

variable {P : Primitives} {c cfg : Config} {ctx₀ : Ctx} {inputs : List Input} {e : Engine}
  {id : String}

lemma finished_covered {x : Execution} (hcfg : cfg.Valid)
    (hrun : runFrom (step P cfg) (Engine.start cfg ctx₀) inputs = some e)
    (hx : e.state.executions.lookup id = some x) (hfin : x.Finished) :
    e.Above x.blockNumber ∧ ResolvedUnder P cfg ctx₀ inputs (fun s => s.HasOutcome id x)
      x.blockNumber x.blockHash := by
  refine covered_since (fun _ _ _ _ => Iff.rfl) ?_ ?_ (by rintro t ⟨y, hy, -⟩; cases hy) hrun
    ⟨x, hx, rfl, rfl, rfl⟩
  · intro s ctx op d ev s' hwf hw hf ha hs'
    rcases (apply_changes ha).finished_cases hfin hs' with h | ⟨z, hz, rfl, hsame⟩
    · exact .inl h
    · rw [hf.body] at hz
      rcases hw.finished hcfg hwf hz (hsame.finished hfin) with ⟨y, hy, h₁, h₂, h₃⟩ | hcov
      · exact .inl ⟨y, hy, h₁.trans hsame.1, h₂.trans hsame.2.1, h₃.trans hsame.2.2⟩
      · rw [hsame.2.1, hsame.2.2] at hcov
        exact .inr hcov
  · intro s now ev s' hf ha hs'
    rcases (apply_changes ha).finished_cases hfin hs' with h | ⟨z, hz, -⟩
    · exact h
    · rw [hf.body] at hz
      cases hz

lemma finishedTransition_covered {call : EscrowCall} {t : EscrowTransition}
    (hrun : runFrom (step P cfg) (Engine.start cfg ctx₀) inputs = some e)
    (hcall : e.state.escrowCalls.lookup id = some call) (ht : t ∈ call.transitions)
    (hfin : t.Finished) :
    e.Above t.blockNumber ∧ ResolvedUnder P cfg ctx₀ inputs (fun s => s.HasTransition id t)
      t.blockNumber t.blockHash := by
  refine covered_since (fun _ _ _ _ => Iff.rfl) ?_ ?_ (by rintro t ⟨y, hy, -⟩; cases hy) hrun
    ⟨call, hcall, t, ht, .refl t⟩
  · intro s ctx op d ev s' hwf hw hf ha hs'
    rcases (apply_changes ha).finishedTransition_cases hs' with h | ⟨c', hc', rfl, u, hu, hsame⟩
    · exact .inl h
    · rw [hf.body] at hc'
      have hfin' : u.Finished := by
        unfold EscrowTransition.Finished at *
        rwa [hsame.2.1]
      rcases hw.finishedTransition hwf hc' hu hfin' with ⟨c₀, hc₀, v, hv, h₁, h₂, h₃, h₄⟩ | hcov
      · exact .inl ⟨c₀, hc₀, v, hv, h₁.trans hsame.1, h₂.trans hsame.2.1, h₃.trans hsame.2.2.1,
          h₄.trans hsame.2.2.2⟩
      · rw [hsame.2.2.1, hsame.2.2.2] at hcov
        exact .inr hcov
  · intro s now ev s' hf ha hs'
    rcases (apply_changes ha).finishedTransition_cases hs' with h | ⟨c', hc', -⟩
    · exact h
    · rw [hf.body] at hc'
      cases hc'

/-- The checkpoint never moves back or changes its hash, and every resolved record
took its outcome under the checkpoint of that moment and lies under it still. -/
theorem resolved_under_checkpoint (hcfg : c.defaults = .ok cfg)
    (hrun : runFrom (step P cfg) (Engine.start cfg ctx₀) inputs = some e) :
    (∀ more e', runFrom (step P cfg) e more = some e' →
        Advances e.state.status.lastTrusted e'.state.status.lastTrusted) ∧
      (∀ id x, e.state.executions.lookup id = some x → x.Finished →
        e.Above x.blockNumber ∧ ResolvedUnder P cfg ctx₀ inputs (fun s => s.HasOutcome id x)
          x.blockNumber x.blockHash) ∧
      ∀ id call, e.state.escrowCalls.lookup id = some call → ∀ t ∈ call.transitions, t.Finished →
        e.Above t.blockNumber ∧ ResolvedUnder P cfg ctx₀ inputs (fun s => s.HasTransition id t)
          t.blockNumber t.blockHash :=
  ⟨fun _ _ hmore => run_advances hrun hmore,
    fun _ _ hx hfin => finished_covered (Config.defaults_valid hcfg) hrun hx hfin,
    fun _ _ hcall _ ht hfin => finishedTransition_covered hrun hcall ht hfin⟩

end

section

open Sample

/-- A payment that settles at the checkpoint itself. -/
theorem resolved_under_checkpoint_paid :
    ∃ e x, run (paid 100 1) = some e ∧ e.state.executions.lookup "pay" = some x ∧
      x.state = .settled ∧ e.Above x.blockNumber ∧
      ResolvedUnder primitives config (ctx 0) (paid 100 1) (fun s => s.HasOutcome "pay" x)
        x.blockNumber x.blockHash := by
  have hrun : (run (paid 100 1)).map (fun e => (e.state.executions.lookup "pay").map (·.state)) =
      some (some .settled) := by decide
  obtain ⟨e, he, hmap⟩ := Option.map_eq_some_iff.mp hrun
  obtain ⟨x, hx, hstate⟩ := Option.map_eq_some_iff.mp hmap
  exact ⟨e, x, he, hx, hstate,
    (resolved_under_checkpoint deployment_defaults he).2.1 "pay" x hx (.inl hstate)⟩

end

end FlowOps.Reconciliation

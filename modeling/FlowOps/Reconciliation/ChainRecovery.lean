import FlowOps.Reconciliation.Invariant
import FlowOps.Reconciliation.Status

/-!
# Fail-closed recovery of the chain

How the chain becomes HEALTHY. A call changes the status only through one of the
four kinds of status an operation writes (`Engine.call_status`); over a run, a
RECOVERING status whose counter is positive has seen that many healthy snapshots,
with nothing in between that stalls, halts, restarts or reopens
(`reachable_recovery`). While the chain is HALTED nothing is in state BROADCAST
(`reachable_parked`).

Results: `healthy_after_recovery`.
-/

namespace FlowOps.Reconciliation

open Option

/-! ## The status after a call -/

/-- The part of the status that decides about recovery. -/
def ChainStatus.SameChain (a b : ChainStatus) : Prop :=
  b.state = a.state ∧ b.consecutiveRecovery = a.consecutiveRecovery ∧ b.lastTrusted = a.lastTrusted

variable (P : Primitives) (cfg : Config)

/-- The call succeeds and writes an event. -/
def Engine.records (e : Engine) (ctx : Ctx) (op : Op) : Bool :=
  (e.call P cfg ctx op).1.isOk &&
    decide (e.journal.events.length < (e.call P cfg ctx op).2.journal.events.length)

/-- The snapshot that an input records: whether it is healthy. -/
def Engine.snapshot (e : Engine) : Input → Option Bool
  | .call ctx (.observe observations) =>
    if e.records P cfg ctx (.observe observations) then
      some (evaluateSnapshot cfg e.state.status.lastTrusted (ctx.now 0) observations).isOk
    else none
  | _ => none

section

variable {P : Primitives} {cfg : Config} {ctx : Ctx} {s : State} {op : Op} {d : Draft} {e : Engine}

/-- The operations whose events carry a status. -/
def Op.SetsStatus : Op → Prop
  | .observe _ => True
  | .forceHalt _ _ => True
  | .resume _ => True
  | .reopenReorg _ _ _ => True
  | .reopenRevertedReorg _ _ => True
  | .reopenEscrowReorg _ _ _ => True
  | _ => False

lemma Writes.status_ne_none (hw : Writes P cfg ctx s op d) (hop : op.SetsStatus) :
    d.body.status ≠ none := by
  cases hw with
  | register h | escrowIntent h | escrowPending h =>
    cases op <;> first | exact False.elim hop | cases h
  | _ => first | exact some_ne_none _ | exact False.elim hop

lemma StatusWrite.setsStatus {st : ChainStatus} (hw : StatusWrite cfg ctx s op st) :
    op.SetsStatus := by
  cases hw with
  | reopen hop => cases op <;> first | exact False.elim hop | trivial
  | _ => trivial

lemma Op.not_setsStatus_of_twofold (h : op.Twofold) : ¬op.SetsStatus := by
  cases op <;> first | exact False.elim h | exact id

/-- A call records no status and leaves the chain as it was, or it records one of
the four kinds of status. -/
lemma Engine.call_status (P : Primitives) (ctx : Ctx) (op : Op) (hok : e.state.status.OK cfg) :
    (e.state.status.SameChain (e.call P cfg ctx op).2.state.status ∧
        (e.records P cfg ctx op → ¬op.SetsStatus)) ∨
      ∃ st, StatusWrite cfg ctx e.state op st ∧ e.records P cfg ctx op ∧
        st.SameChain (e.call P cfg ctx op).2.state.status := by
  by_cases htwo : op.Twofold
  · left
    have hsets := Op.not_setsStatus_of_twofold htwo
    have hkept := call_state (I := fun s => s.status.OK cfg ∧ e.state.status.SameChain s.status)
      (K := fun _ => True) P cfg ctx op e
      (fun _ a r t h => ⟨h.1.stamp a r t, h.2⟩) (fun _ _ _ _ h => h) ⟨hok, rfl, rfl, rfl⟩ trivial
      (fun s d ev s' hI _ hw hf ha => by
        obtain ⟨hok', ⟨-, a, hst⟩ | ⟨st, -, -, hsw, -⟩⟩ := apply_status hI.1 hw hf ha
        · exact ⟨hok', by rw [hst]; exact hI.2⟩
        · exact absurd hsw.setsStatus hsets)
      (fun _ _ _ _ _ _ _ _ _ _ => trivial)
    exact ⟨hkept.2, fun _ => hsets⟩
  · rcases call_once P cfg ctx e htwo with
      ⟨hstate, hjournal⟩ | ⟨d, ev, s', a, r, reply, hw, hf, ha, hreply, hj, hs'⟩
    · refine .inl ⟨by rw [hstate]; exact ⟨rfl, rfl, rfl⟩, fun hrec => ?_⟩
      simp only [records, Bool.and_eq_true, decide_eq_true_eq] at hrec
      cases hr : (e.call P cfg ctx op).1 with
      | error err => rw [hr] at hrec; cases hrec.1
      | ok reply => rw [hjournal reply hr] at hrec; exact absurd hrec.2 (lt_irrefl _)
    · have hrec : e.records P cfg ctx op := by
        simp [records, hreply, hj, Except.isOk, Except.toBool]
      rw [hs']
      obtain ⟨-, ⟨hnone, a, hst⟩ | ⟨st, a, -, hsw, hst⟩⟩ := apply_status hok hw hf ha
      · exact .inl ⟨by rw [State.stamp, hst]; exact ⟨rfl, rfl, rfl⟩,
          fun _ hop => hw.status_ne_none hop hnone⟩
      · exact .inr ⟨st, hsw, hrec, by rw [State.stamp, hst]; exact ⟨rfl, rfl, rfl⟩⟩

end

/-! ## The recovery window -/

/-- The input neither enters a state other than HEALTHY, nor halts, restarts or
reopens, nor records an unhealthy snapshot. -/
def Engine.Calm (e : Engine) : Input → Prop
  | .restart _ => False
  | .call ctx op =>
    ((e.call P cfg ctx op).2.state.status.state = e.state.status.state ∨
        (e.call P cfg ctx op).2.state.status.state = .healthy) ∧
      (e.records P cfg ctx op →
        (∀ operator reason, op ≠ .forceHalt operator reason) ∧ ¬op.Reopens) ∧
      e.snapshot P cfg (.call ctx op) ≠ some false

/-- The inputs end with a healthy snapshot and calm inputs after it, and hold at
least `n` healthy snapshots from that one on. -/
def RecoveryWindow (ctx : Ctx) (inputs : List Input) (n : ℤ) : Prop :=
  ∃ before first rest e₁ e₂, inputs = before ++ first :: rest ∧
    runFrom (step P cfg) (Engine.start cfg ctx) before = some e₁ ∧
    step P cfg e₁ first = some e₂ ∧ e₁.snapshot P cfg first = some true ∧
    AllSteps (step P cfg) (Engine.Calm P cfg) e₂ rest ∧
    n ≤ 1 + countSteps (step P cfg) (fun e i => e.snapshot P cfg i = some true) e₂ rest

section

variable {P : Primitives} {cfg : Config} {ctx ctx₀ : Ctx} {inputs : List Input} {e e' : Engine}
  {i : Input} {n : ℤ}

section

variable (hrun : runFrom (step P cfg) (Engine.start cfg ctx₀) inputs = some e)
include hrun

lemma RecoveryWindow.start
    (hstep : step P cfg e i = some e') (hi : e.snapshot P cfg i = some true) :
    RecoveryWindow P cfg ctx₀ (inputs ++ [i]) 1 :=
  ⟨inputs, i, [], e, e', rfl, hrun, hstep, hi, trivial, by simp⟩

lemma RecoveryWindow.extend (h : RecoveryWindow P cfg ctx₀ inputs n) (hi : e.Calm P cfg i) :
    RecoveryWindow P cfg ctx₀ (inputs ++ [i])
      (n + if e.snapshot P cfg i = some true then 1 else 0) := by
  obtain ⟨before, first, rest, e₁, e₂, rfl, hbefore, hfirst, hhealthy, hcalm, hn⟩ := h
  have hrest : runFrom (step P cfg) e₂ rest = some e := by
    obtain ⟨e₁', h₁, h₂⟩ := runFrom_append_eq_some.mp hrun
    rw [hbefore] at h₁
    cases h₁
    obtain ⟨e₂', h₃, h₄⟩ := runFrom_cons_eq_some.mp h₂
    rw [hfirst] at h₃
    cases h₃
    exact h₄
  refine ⟨before, first, rest ++ [i], e₁, e₂, by simp, hbefore, hfirst, hhealthy,
    allSteps_snoc hrest hcalm hi, ?_⟩
  rw [countSteps_snoc hrest]
  by_cases hs : e.snapshot P cfg i = some true
  · simp only [hs, if_true, decide_true, Bool.toNat_true, Nat.cast_add, Nat.cast_one]
    omega
  · simp only [hs, if_false, decide_false, Bool.toNat_false, Nat.cast_add, Nat.cast_zero]
    omega

/-- The chain after a restart: never HEALTHY, and a recovery starts over. -/
lemma restart_chain (hstep : step P cfg e (.restart ctx) = some e') :
    e'.state.status.state ≠ .healthy ∧ e'.state.status.lastTrusted = e.state.status.lastTrusted ∧
      (e'.state.status.state = .recovering → e'.state.status.consecutiveRecovery = 0) := by
  have hok := reachable_status ⟨ctx₀, inputs, hrun⟩
  obtain ⟨a, r, t, ⟨hd, -, he'⟩ | ⟨hd, ev, s₁, hf, -, happly, he'⟩⟩ := restart_cases hrun hstep
  · simp only [ChainStatus.demoted, Bool.or_eq_false_iff, decide_eq_false_iff_not] at hd
    rw [he']
    exact ⟨hd.1, rfl, fun h => absurd h hd.2⟩
  · obtain ⟨-, a', hst⟩ := restart_status (hok.stamp a r t) hd hf happly
    have hs : e'.state.status.SameChain (e.state.status.restarted (ctx.now 0)) := by
      rw [he', State.refreshAffected, hst]
      exact ⟨rfl, rfl, rfl⟩
    rw [← hs.1, ← hs.2.1, ← hs.2.2]
    refine ⟨?_, rfl, fun _ => rfl⟩
    unfold ChainStatus.restarted ChainStatus.setPauseFlags
    dsimp only
    split_ifs with h
    · decide
    · exact h

end

/-- What a RECOVERING status says about the past: the counter is zero after a
reopening or a restart, and otherwise counts the healthy snapshots of the window. -/
lemma reachable_recovery :
    ∀ inputs e, runFrom (step P cfg) (Engine.start cfg ctx₀) inputs = some e →
      e.state.status.state = .recovering → e.state.status.consecutiveRecovery = 0 ∨
        RecoveryWindow P cfg ctx₀ inputs e.state.status.consecutiveRecovery := by
  intro inputs e hrun
  refine history_induction (K := fun _ _ => True)
    (H := fun inputs e => e.state.status.state = .recovering →
      e.state.status.consecutiveRecovery = 0 ∨
        RecoveryWindow P cfg ctx₀ inputs e.state.status.consecutiveRecovery)
    (fun h => by cases h) ?_ inputs e hrun (allSteps_of_forall fun _ _ => trivial)
  rintro is e₁ (⟨ctx, op⟩ | ctx) e₂ hrun₁ ih - hstep hrec
  · cases hstep
    have hok := reachable_status ⟨ctx₀, is, hrun₁⟩
    rcases Engine.call_status P ctx op hok with
      ⟨hsame, hquiet⟩ | ⟨st, hsw, hrecords, hsame⟩
    · -- No status was recorded: the window goes on.
      have hsnap : e₁.snapshot P cfg (.call ctx op) = none := by
        cases op <;> try rfl
        refine if_neg fun h => hquiet h trivial
      rw [hsame.2.1]
      rcases ih (hsame.1.symm.trans hrec) with hz | hwin
      · exact .inl hz
      · have hcalm : e₁.Calm P cfg (.call ctx op) := by
          refine ⟨.inl hsame.1, fun h => ⟨?_, ?_⟩, by simp [hsnap]⟩
          · rintro operator reason rfl
            exact hquiet h trivial
          · intro hop
            refine hquiet h ?_
            cases op <;> first | exact False.elim hop | trivial
        have := hwin.extend hrun₁ hcalm
        rw [hsnap, if_neg (by simp), add_zero] at this
        exact .inr this
    · rw [hsame.2.1]
      have hst : st.state = .recovering := hsame.1.symm.trans hrec
      cases hsw with
      | halt => cases hst
      | resume => cases hst
      | reopen => exact .inl rfl
      | @observe observations =>
        cases heval : evaluateSnapshot cfg e₁.state.status.lastTrusted (ctx.now 0) observations with
        | error reason =>
          obtain ⟨-, h | h⟩ := observeStatus_unhealthy heval <;> rw [h] at hst <;> cases hst
        | ok cp =>
          have hsnap : e₁.snapshot P cfg (.call ctx (.observe observations)) = some true := by
            rw [Engine.snapshot, if_pos hrecords, heval]
            rfl
          have hstart : RecoveryWindow P cfg ctx₀ (is ++ [.call ctx (.observe observations)]) 1 :=
            .start hrun₁ rfl hsnap
          obtain ⟨-, ⟨-, h⟩ | ⟨hwas, hst', hcount⟩ | ⟨-, -, hcount⟩⟩ := observeStatus_healthy heval
          · rw [h] at hst
            cases hst
          · rw [hcount]
            rcases ih hwas with hz | hwin
            · rw [hz]
              exact .inr hstart
            · have hcalm : e₁.Calm P cfg (.call ctx (.observe observations)) :=
                ⟨.inl (hsame.1.trans (hst'.trans hwas.symm)), fun _ => ⟨by rintro _ _ ⟨⟩, id⟩,
                  by simp [hsnap]⟩
              have := hwin.extend hrun₁ hcalm
              rw [hsnap, if_pos rfl] at this
              exact .inr this
          · rw [hcount]
            exact .inr hstart
  · exact .inl ((restart_chain hrun₁ hstep).2.2 hrec)

end

/-! ## Halted chains -/

/-- Nothing waits in state BROADCAST. -/
structure State.Parked (s : State) : Prop where
  execution : ∀ id e, s.executions.lookup id = some e → e.state ≠ .broadcast
  pending : ∀ id c, s.escrowCalls.lookup id = some c → ∀ p, c.pending = some p → p.state ≠ .broadcast

section

variable {P : Primitives} {cfg : Config} {ctx : Ctx} {s s' : State} {op : Op} {d : Draft}
  {ev : JournalEvent} {e : Engine}

lemma Execution.markPending_ne_broadcast (x : Execution) : x.markPending.state ≠ .broadcast := by
  unfold markPending
  split_ifs with h
  · exact nofun
  · exact h

lemma EscrowCall.markPending_ne_broadcast (c : EscrowCall) :
    ∀ p, c.markPending.pending = some p → p.state ≠ .broadcast := by
  intro p hp
  simp only [markPending, map_eq_some_iff] at hp
  obtain ⟨q, -, rfl⟩ := hp
  split_ifs with h
  · exact nofun
  · exact h

/-- Outside a usable chain no operation writes a record in state BROADCAST. -/
lemma Writes.parked (h : s.Parked) (husable : s.status.state ≠ .healthy)
    (hw : Writes P cfg ctx s op d) :
    (∀ x, d.body.execution = some x → d.body.status = none → x.state ≠ .broadcast) ∧
      ∀ c, d.body.call = some c → ∀ p, c.pending = some p → p.state ≠ .broadcast := by
  have hchain : ∀ now, s.chainUsable cfg now ≠ true := by
    simp [State.chainUsable, husable]
  cases hw with
  | register _ new =>
    refine ⟨?_, by rintro c ⟨⟩⟩
    rintro x ⟨⟩ -
    rcases new.state with ⟨-, hu⟩ | hs
    · exact absurd hu (hchain _)
    · rw [hs]; exact nofun
  | pendingOutcome stored | finality stored =>
    refine ⟨?_, by rintro c ⟨⟩⟩
    rintro x ⟨⟩ -
    have hs := h.execution _ _ stored
    exact hs
  | escrowPending _ new =>
    refine ⟨by rintro x ⟨⟩, ?_⟩
    rintro c ⟨⟩ p ⟨⟩
    rw [State.newPending, if_neg (hchain _)]
    exact nofun
  | escrowFinality checked =>
    refine ⟨by rintro x ⟨⟩, ?_⟩
    rintro c ⟨⟩
    have hp := h.pending _ _ checked.stored
    exact hp
  | _ =>
    refine ⟨?_, ?_⟩
    · rintro x ⟨⟩ ⟨⟩ <;> exact nofun
    · rintro c ⟨⟩ p ⟨⟩

lemma Writes.marks_of_halted {st : ChainStatus} (hw : Writes P cfg ctx s op d)
    (hst : d.body.status = some st) (hhalted : st.state = .halted) : d.body.marks := by
  cases hw with
  | observe | halt => cases hst; simpa [EventBody.marks] using hhalted
  | _ => cases hst <;> cases hhalted

lemma Changes.parked_of_marks (hc : Changes P cfg s ev s') (hm : ev.body.marks) : s'.Parked := by
  constructor
  · intro id x hx
    rcases hc.execution_cases hx with ⟨y, hy, -⟩ | ⟨y, -, -, rfl⟩
    · rw [EventBody.marks_of_execution hy] at hm
      cases hm
    · rw [if_pos hm]
      exact y.markPending_ne_broadcast
  · intro id c hcall
    rcases hc.call_cases hcall with ⟨hy, -⟩ | ⟨y, -, -, rfl⟩
    · rw [EventBody.marks_of_call hy] at hm
      cases hm
    · rw [if_pos hm]
      exact y.markPending_ne_broadcast

lemma Changes.parked (hc : Changes P cfg s ev s') (h : s.Parked)
    (hexec : ∀ x, ev.body.execution = some x → x.state ≠ .broadcast)
    (hcall : ∀ c, ev.body.call = some c → ∀ p, c.pending = some p → p.state ≠ .broadcast) :
    s'.Parked := by
  refine ⟨hc.execution_rule h.execution (fun _ x _ => x.markPending_ne_broadcast) fun x hx => ?_,
    hc.call_rule h.pending (fun _ c _ => c.markPending_ne_broadcast) hcall⟩
  rw [Execution.carryFrom_state]
  exact hexec x hx

lemma reachable_parked (hreach : Reachable P cfg e) (h : e.state.status.state = .halted) :
    e.state.Parked := by
  suffices e.state.status.OK cfg ∧ (e.state.status.state = .halted → e.state.Parked) from this.2 h
  refine reachable_state (I := fun s => s.status.OK cfg ∧ (s.status.state = .halted → s.Parked))
    (fun s a r t hs => ⟨hs.1.stamp a r t, fun hh => ⟨(hs.2 hh).execution, (hs.2 hh).pending⟩⟩)
    (fun t => ⟨State.init_statusOK cfg t, by rintro ⟨⟩⟩) ?_ ?_ hreach
  · rintro s ctx op d ev s' ⟨hok, hpark⟩ hw hf ha
    have hc := apply_changes ha
    obtain ⟨hok', ⟨hnone, a, hst⟩ | ⟨st, a, hst, -, hst'⟩⟩ := apply_status hok hw hf ha
    · refine ⟨hok', fun hh => ?_⟩
      rw [hst] at hh
      have hwrites := hw.parked (hpark hh) (by rw [hh]; exact nofun)
      refine hc.parked (hpark hh) ?_ ?_
      · rw [hf.body]; exact fun x hx => hwrites.1 x hx hnone
      · rw [hf.body]; exact hwrites.2
    · refine ⟨hok', fun hh => hc.parked_of_marks ?_⟩
      rw [hst'] at hh
      rw [hf.body]
      exact hw.marks_of_halted hst hh
  · rintro s now ev s' ⟨hok, -⟩ hd hf ha
    obtain ⟨hok', a, hst⟩ := restart_status hok hd hf ha
    refine ⟨hok', fun _ => (apply_changes ha).parked_of_marks ?_⟩
    rw [hf.body]
    simp [restartDraft, EventBody.marks]

end

/-! ## Becoming healthy -/

section

variable {P : Primitives} {c cfg : Config} {ctx ctx₀ : Ctx} {inputs : List Input} {e : Engine}

lemma RecoveryWindow.mono {m n : ℤ} (h : RecoveryWindow P cfg ctx₀ inputs n) (hmn : m ≤ n) :
    RecoveryWindow P cfg ctx₀ inputs m := by
  obtain ⟨before, first, rest, e₁, e₂, heq, hbefore, hfirst, hhealthy, hcalm, hn⟩ := h
  exact ⟨before, first, rest, e₁, e₂, heq, hbefore, hfirst, hhealthy, hcalm, hmn.trans hn⟩

lemma recoveryReady_cases {now : Time} (hcfg : cfg.Valid)
    (hrun : runFrom (step P cfg) (Engine.start cfg ctx₀) inputs = some e)
    (h : e.state.recoveryReady cfg now) :
    (∀ id x, e.state.executions.lookup id = some x → x.unresolved = false) ∧
      (∀ id call, e.state.escrowCalls.lookup id = some call → call.pending = none) ∧
      trustedFresh cfg e.state.status.lastTrusted now ∧
      RecoveryWindow P cfg ctx₀ inputs cfg.recoveryObservations := by
  simp only [State.recoveryReady, Bool.and_eq_true, decide_eq_true_eq] at h
  obtain ⟨⟨⟨hstate, hcount⟩, hzero⟩, hfresh⟩ := h
  have hrecovery := hcfg.recovery
  simp only [State.unresolvedCount] at hzero
  refine ⟨Dict.countValues_eq_zero.mp (by omega), fun id call hcall => ?_, hfresh, ?_⟩
  · have hcalls : e.state.escrowCalls.countValues EscrowCall.unresolved = 0 := by omega
    have hun := Dict.countValues_eq_zero.mp hcalls id call hcall
    cases hp : call.pending with
    | none => rfl
    | some p =>
      -- A pending transition of a stored call is in one of the two counted states.
      have hsound := ((reachable_wf ⟨ctx₀, inputs, hrun⟩).call id call hcall).sound
      rcases (hsound.pending p hp).awaited with hs | hs <;> simp [EscrowCall.unresolved, hp, hs] at hun
  · rcases reachable_recovery inputs e hrun hstate with hz | hwin
    · omega
    · exact hwin.mono hcount

/-- The chain becomes HEALTHY only by `Resume`, with nothing unresolved, a fresh
checkpoint and a full recovery window behind it; and while it is HALTED nothing
is in state BROADCAST. -/
theorem healthy_after_recovery (hcfg : c.defaults = .ok cfg)
    (hrun : runFrom (step P cfg) (Engine.start cfg ctx₀) inputs = some e) :
    (e.state.status.state = .halted → e.state.Parked) ∧
      ∀ i e', step P cfg e i = some e' → e.state.status.state ≠ .healthy →
        e'.state.status.state = .healthy → ∃ ctx operator, i = .call ctx (.resume operator) ∧
          (∀ id x, e.state.executions.lookup id = some x → x.unresolved = false) ∧
          (∀ id call, e.state.escrowCalls.lookup id = some call → call.pending = none) ∧
          trustedFresh cfg e.state.status.lastTrusted (ctx.now 1) ∧
          RecoveryWindow P cfg ctx₀ inputs cfg.recoveryObservations := by
  refine ⟨reachable_parked ⟨ctx₀, inputs, hrun⟩, ?_⟩
  rintro (⟨ctx, op⟩ | ctx) e' hstep hnot hhealthy
  · cases hstep
    rcases Engine.call_status P ctx op (reachable_status ⟨ctx₀, inputs, hrun⟩)
      with ⟨hsame, -⟩ | ⟨st, hsw, -, hsame⟩
    · exact absurd (hsame.1.symm.trans hhealthy) hnot
    · have hst : st.state = .healthy := hsame.1.symm.trans hhealthy
      cases hsw with
      | halt => cases hst
      | reopen => cases hst
      | @resume operator ready =>
        exact ⟨ctx, operator, rfl, recoveryReady_cases (Config.defaults_valid hcfg) hrun ready⟩
      | @observe observations =>
        exfalso
        cases heval : evaluateSnapshot cfg e.state.status.lastTrusted (ctx.now 0) observations with
        | error reason =>
          obtain ⟨-, h | h⟩ := observeStatus_unhealthy heval <;> rw [h] at hst <;> cases hst
        | ok cp =>
          obtain ⟨-, ⟨h, -⟩ | ⟨-, h, -⟩ | ⟨-, h, -⟩⟩ := observeStatus_healthy heval
          · exact hnot h
          · rw [h] at hst; cases hst
          · rw [h] at hst; cases hst
  · exact absurd hhealthy (restart_chain hrun hstep).1

end

section

open Sample

/-- An observation opens the window and `Resume` makes the chain HEALTHY. -/
theorem healthy_after_recovery_resume :
    ∃ e e', run [observed 100 1 0] = some e ∧ e.state.status.state = .recovering ∧
      step primitives config e (.call (ctx 1) (.resume "alice")) = some e' ∧
      e'.state.status.state = .healthy ∧
      RecoveryWindow primitives config (ctx 0) [observed 100 1 0] config.recoveryObservations := by
  have hrun : (run [observed 100 1 0]).map (fun e => (e.state.status.state,
      (e.call primitives config (ctx 1) (.resume "alice")).2.state.status.state)) =
      some (.recovering, .healthy) := by decide
  obtain ⟨e, he, hpair⟩ := map_eq_some_iff.mp hrun
  obtain ⟨hrec, hhealthy⟩ := Prod.mk.inj hpair
  obtain ⟨ctx', operator, -, -, -, -, hwin⟩ := (healthy_after_recovery deployment_defaults he).2
    (.call (ctx 1) (.resume "alice")) _ rfl (by rw [hrec]; exact nofun) hhealthy
  exact ⟨e, _, he, hrec, rfl, hhealthy, hwin⟩

end

end FlowOps.Reconciliation

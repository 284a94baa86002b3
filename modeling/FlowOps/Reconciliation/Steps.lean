import FlowOps.Reconciliation.Writes

/-!
# Steps and replays

How a property of the state is carried through a run. The state of a running
engine is the fold of `apply` over its journal, up to the three status fields that
are set outside `apply` (`State.stamp`): `refreshAffected` overwrites
`affectedExecutions` and `readyForManualResume`, and `Open` starts from a status
whose `stateChangedAt` is the time of opening. `apply` reads none of the three
(`apply_stamp`), so a replay rebuilds the live state.

Results:
* `applyAll_stamp`: replaying from a stamped state gives the stamped result.
* `Engine.Replays.commit`, `Engine.Replays.restart`: an engine whose events were
  all applied replays to its own state, and stays so.
* `run_state`: a property of the state that is kept by every write of an operation
  and by the restart event holds in every state of a run.
-/

namespace FlowOps.Reconciliation

open Option

variable {ev : JournalEvent} {I : State → Prop}

/-! ## Stamps -/

/-- Overwrite the three fields. -/
def State.stamp (s : State) (affected : ℤ) (ready : Bool) (changedAt : Time) : State :=
  { s with status := { s.status with
      affectedExecutions := affected
      readyForManualResume := ready
      stateChangedAt := changedAt } }

def EventBody.status : EventBody → Option ChainStatus
  | .chainStatus p => some p.status
  | .executionResolved p => p.status
  | .executionReorged p => p.status
  | .escrow _ p => p.status
  | _ => none

variable {P : Primitives} {cfg : Config} {s : State}

section

variable {s' : State} {a : ℤ} {r : Bool} {t : Time}

lemma State.stamp_self :
    s.stamp s.status.affectedExecutions s.status.readyForManualResume s.status.stateChangedAt = s :=
  rfl

lemma State.refreshAffected_eq_stamp (now : Time) : s.refreshAffected cfg now =
      s.stamp s.unresolvedCount (s.recoveryReady cfg now) s.status.stateChangedAt := rfl

lemma State.init_stamp (t' : Time) : init cfg t' = (init cfg t).stamp 0 false t' := rfl

/-- What `apply` does to a stamp: an event with a status overwrites it. -/
def EventBody.restamp (b : EventBody) (a : ℤ) (r : Bool) (t : Time) (s : State) : State :=
  if b.status.isSome then s else s.stamp a r t

lemma checkChainID_stamp :
    (s.stamp a r t).checkChainID cfg = (s.checkChainID cfg).map fun s' => s'.stamp a r t := by
  unfold State.checkChainID
  rw [apply_ite (Except.map _), apply_ite (Except.map _)]
  rfl

lemma applyBroadcast_stamp (key : String) (q : Bool) (e : Execution) :
    (s.stamp a r t).applyBroadcast P.toCrypto key q e =
      (s.applyBroadcast P.toCrypto key q e).map fun s' => s'.stamp a r t := by
  unfold State.applyBroadcast
  change (s.preserveBroadcastAttestation P.toCrypto e).bind _ = _
  cases s.preserveBroadcastAttestation P.toCrypto e with
  | error err => rfl
  | ok e' =>
    simp only [Except.bind, apply_ite (Except.map _)]
    rfl

lemma applyResolved_stamp (p : ExecutionPayload) :
    (s.stamp a r t).applyResolved P.toCrypto cfg p =
      (s.applyResolved P.toCrypto cfg p).map fun s' =>
        if p.status.isSome then s' else s'.stamp a r t := by
  unfold State.applyResolved
  change (s.preserveBroadcastAttestation P.toCrypto p.execution).bind _ = _
  cases s.preserveBroadcastAttestation P.toCrypto p.execution with
  | error err => rfl
  | ok e' => cases p.ledger <;> cases p.status <;> rfl

lemma foldl_applyLedger_stamp (ts : List LedgerTransaction) :
    ts.foldl State.applyLedger (s.stamp a r t) = (ts.foldl State.applyLedger s).stamp a r t := by
  induction ts generalizing s with
  | nil => rfl
  | cons x ts ih => exact ih (s := s.applyLedger x)

lemma foldl_applyLedger_status (ts : List LedgerTransaction) (status : ChainStatus) :
    { ts.foldl State.applyLedger s with status } = ts.foldl State.applyLedger { s with status } := by
  induction ts generalizing s with
  | nil => rfl
  | cons x ts ih => exact ih (s := s.applyLedger x)

lemma storeEscrow_stamp (p : EscrowPayload) : (s.stamp a r t).storeEscrow cfg p =
      if p.status.isSome then s.storeEscrow cfg p else (s.storeEscrow cfg p).stamp a r t := by
  unfold State.storeEscrow
  cases p.status with
  | none => exact foldl_applyLedger_stamp p.ledgers (s := s.storeCall p.call)
  | some status =>
    simp only [elim_some, isSome_some, if_true, State.replaceStatus]
    rw [foldl_applyLedger_status, foldl_applyLedger_status]
    rfl

lemma applyBody_stamp (ev : JournalEvent) :
    (s.stamp a r t).applyBody P cfg ev = (s.applyBody P cfg ev).map (ev.body.restamp a r t) := by
  unfold State.applyBody EventBody.restamp
  cases ev.body with
  | chainStatus p => rfl
  | executionBroadcast p => exact applyBroadcast_stamp ev.key false p.execution
  | executionQuarantine p => exact applyBroadcast_stamp ev.key true p.execution
  | executionResolved p | executionReorged p => exact applyResolved_stamp p
  | ledgerPosted x => rfl
  | escrow kind p =>
    show (s.checkEscrow P cfg ev.eventAt ev.key kind p).bind _ =
      Except.map _ ((s.checkEscrow P cfg ev.eventAt ev.key kind p).bind _)
    cases s.checkEscrow P cfg ev.eventAt ev.key kind p with
    | error err => rfl
    | ok u => exact congrArg Except.ok (storeEscrow_stamp p)

/-- `apply` neither reads a stamp nor changes it, unless the event carries a
status. -/
lemma apply_stamp (ev : JournalEvent) :
    (s.stamp a r t).apply P cfg ev = (s.apply P cfg ev).map (ev.body.restamp a r t) := by
  unfold State.apply
  rw [applyBody_stamp]
  cases s.applyBody P cfg ev with
  | error err => rfl
  | ok s' =>
    show (ev.body.restamp a r t s').checkChainID cfg = (s'.checkChainID cfg).map _
    by_cases hb : ev.body.status.isSome
    · have hid : ev.body.restamp a r t = id := by funext x; simp [EventBody.restamp, hb]
      rw [hid]
      exact (id_map (s'.checkChainID cfg)).symm
    · have hst : ev.body.restamp a r t = fun x => x.stamp a r t := by
        funext x; simp [EventBody.restamp, hb]
      rw [hst]
      exact checkChainID_stamp

/-- The status fields an event can stamp: any event that carries a status. -/
lemma applyAll_stamp (events : List JournalEvent) :
    State.applyAll P cfg (s.stamp a r t) events = (State.applyAll P cfg s events).map fun s' =>
      if events.any (fun ev => ev.body.status.isSome) then s' else s'.stamp a r t := by
  induction events generalizing s with
  | nil => rfl
  | cons ev events ih =>
    simp only [State.applyAll, foldCheck] at ih ⊢
    rw [apply_stamp]
    cases s.apply P cfg ev with
    | error err => rfl
    | ok s' =>
      show foldCheck (State.apply P cfg) (ev.body.restamp a r t s') events =
        Except.map _ (foldCheck (State.apply P cfg) s' events)
      by_cases hb : ev.body.status.isSome
      · simp only [EventBody.restamp, List.any_cons, hb, Bool.true_or, if_true]
        exact (id_map (foldCheck (State.apply P cfg) s' events)).symm
      · simp only [EventBody.restamp, List.any_cons, hb, Bool.false_or]
        exact ih

lemma applyBody_status_of_none (hb : ev.body.status = none)
    (h : s.applyBody P cfg ev = .ok s') : s'.status = s.status := by
  unfold State.applyBody at h
  cases hbody : ev.body with
  | chainStatus p => simp [hbody, EventBody.status] at hb
  | executionBroadcast p | executionQuarantine p =>
    simp only [hbody, State.applyBroadcast, bind_eq_ok, guard_ok, Except.ok.injEq] at h
    obtain ⟨e, -, -, -, -, -, -, rfl⟩ := h
    rfl
  | executionResolved p | executionReorged p =>
    simp only [hbody, EventBody.status] at hb
    simp only [hbody, State.applyResolved, hb, elim_none, bind_eq_ok, Except.ok.injEq] at h
    obtain ⟨e, -, rfl⟩ := h
    cases p.ledger <;> rfl
  | ledgerPosted x =>
    simp only [hbody, Except.ok.injEq] at h
    rw [← h]
    rfl
  | escrow kind p =>
    simp only [hbody, EventBody.status] at hb
    simp only [hbody, State.storeEscrow, hb, elim_none, bind_eq_ok, Except.ok.injEq] at h
    obtain ⟨-, -, rfl⟩ := h
    exact foldl_applyLedger_frame p.ledgers (fun s => s.status) (fun _ _ => rfl)

lemma apply_stateChangedAt_of_none (hb : ev.body.status = none)
    (h : s.apply P cfg ev = .ok s') : s'.status.stateChangedAt = s.status.stateChangedAt := by
  obtain ⟨s₁, h₁, -, rfl⟩ := apply_ok_iff.mp h
  rw [← applyBody_status_of_none hb h₁]
  rfl

end

/-! ## Writing an event -/

/-- The event of a draft, as far as `apply` sees it, and what `append` checked. -/
structure JournalEvent.Follows (ev : JournalEvent) (d : Draft) : Prop where
  body : ev.body = d.body
  key : ev.key = d.key
  eventAt : ev.eventAt = d.eventAt.utc
  nonzero : d.eventAt.isZero = false
  printable : (d.eventAt.utc :: d.body.times).all Time.marshals

lemma Journal.append_follows {P : Primitives} {j j' : Journal} {canceled : Bool} {d : Draft}
    (h : j.append P canceled d = .ok (ev, j')) : ev.Follows d := by
  obtain ⟨rfl, -, hzero, htimes, -⟩ := append_ok h
  exact ⟨rfl, rfl, rfl, hzero, htimes⟩

/-- The state after `apply`, refreshed if the operation does so. -/
def Write.finish (cfg : Config) (w : Write) (s : State) : State :=
  w.refresh.elim s (s.refreshAffected cfg)

lemma Write.finish_eq_stamp (cfg : Config) (w : Write) (s : State) :
    ∃ a r, w.finish cfg s = s.stamp a r s.status.stateChangedAt := by
  unfold finish
  cases w.refresh with
  | none | some now => exact ⟨_, _, rfl⟩

/-- A commit appends nothing, or appends an event that `apply` rejects, or appends
and applies one. -/
lemma Engine.commit_cases (P : Primitives) (cfg : Config) (e : Engine) (canceled : Bool)
    (w : Write) :
    (∃ err, e.commit P cfg canceled w = (.error err, e)) ∨
      ∃ ev journal, e.journal.append P canceled w.draft = .ok (ev, journal) ∧
        ((∃ err, e.state.apply P cfg ev = .error err ∧
            e.commit P cfg canceled w = (.error err, { journal, state := e.state })) ∨
          ∃ s, e.state.apply P cfg ev = .ok s ∧ e.commit P cfg canceled w =
              (.ok (w.reply (w.finish cfg s)), { journal, state := w.finish cfg s })) := by
  unfold commit
  cases ha : e.journal.append P canceled w.draft with
  | error err => exact .inl ⟨err, rfl⟩
  | ok pair =>
    obtain ⟨ev, journal⟩ := pair
    refine .inr ⟨ev, journal, rfl, ?_⟩
    cases hs : e.state.apply P cfg ev with
    | error err => exact .inl ⟨err, rfl, by simp [hs]⟩
    | ok s => exact .inr ⟨s, rfl, by simp [hs, Write.finish]⟩

/-- `apply` accepts the event of a plan if the plan gets as far as appending one. -/
def Engine.Accepts (P : Primitives) (cfg : Config) (e : Engine) (canceled : Bool) (plan : Plan) :
    Prop :=
  ∀ w ev journal, plan = .write w → e.journal.append P canceled w.draft = .ok (ev, journal) →
    ∃ s, e.state.apply P cfg ev = .ok s

/-- `apply` accepts every event that a call appends. -/
def Engine.AcceptsCall (P : Primitives) (cfg : Config) (e : Engine) (ctx : Ctx) (op : Op) : Prop :=
  e.Accepts P cfg (ctx.canceled 0) (op.plan P cfg ctx e.state) ∧
    let first := e.perform P cfg (ctx.canceled 0) (op.plan P cfg ctx e.state)
    ∀ reply plan, first.1 = .ok reply → op.next P cfg ctx first.2.state = some plan →
      first.2.Accepts P cfg (ctx.canceled 1) plan

/-! ## Replays -/

/-- The journal of the engine replays to its state. -/
structure Engine.Replays (P : Primitives) (cfg : Config) (e : Engine) (started : Time) : Prop where
  chained : e.journal.Chained P
  state : ∃ S a r, State.applyAll P cfg (State.init cfg started) e.journal.events = .ok S ∧
    e.state = S.stamp a r S.status.stateChangedAt

/-- The journal holds an event that a replay rejects. -/
def Engine.Poisoned (P : Primitives) (cfg : Config) (e : Engine) : Prop :=
  ∀ started, ∃ err, State.applyAll P cfg (State.init cfg started) e.journal.events = .error err

variable {e : Engine} {started : Time}

section

variable {canceled : Bool} {w : Write} {journal : Journal}

lemma Engine.replays_start (ctx : Ctx) : (start cfg ctx).Replays P cfg (ctx.now 0) :=
  ⟨Journal.chained_empty P, State.init cfg (ctx.now 0), _, _, rfl, rfl⟩

section

variable (happend : e.journal.append P canceled w.draft = .ok (ev, journal))
include happend

lemma Engine.Replays.commit (h : e.Replays P cfg started)
    (happly : e.state.apply P cfg ev = .ok s) :
    Engine.Replays P cfg { journal, state := w.finish cfg s } started := by
  obtain ⟨hchain, S, a, r, hall, hstate⟩ := h
  obtain ⟨-, hj, -⟩ := Journal.append_ok happend
  refine ⟨hchain.append happend, ?_⟩
  rw [hstate, apply_stamp] at happly
  cases hS : S.apply P cfg ev with
  | error err => rw [hS] at happly; cases happly
  | ok S' =>
    rw [hS] at happly
    have hs : s = ev.body.restamp a r S.status.stateChangedAt S' := (Except.ok.inj happly).symm
    have hstamp : ∃ a' r', s = S'.stamp a' r' S'.status.stateChangedAt := by
      rw [hs]
      unfold EventBody.restamp
      cases hb : ev.body.status with
      | none => exact ⟨a, r, by rw [apply_stateChangedAt_of_none hb hS]; rfl⟩
      | some status => exact ⟨_, _, rfl⟩
    obtain ⟨a', r', hs'⟩ := hstamp
    obtain ⟨a'', r'', hfin⟩ := w.finish_eq_stamp cfg s
    refine ⟨S', a'', r'', ?_, ?_⟩
    · rw [hj]
      exact foldCheck_append_ok.mpr ⟨S, hall, (foldCheck_singleton _ _ _).trans hS⟩
    · rw [hfin, hs']
      rfl

lemma Engine.Poisoned.append (h : e.Poisoned P cfg) (s : State) :
    Engine.Poisoned P cfg { journal, state := s } := by
  obtain ⟨-, hj, -⟩ := Journal.append_ok happend
  intro t
  obtain ⟨err, herr⟩ := h t
  refine ⟨err, ?_⟩
  rw [hj, State.applyAll, foldCheck_append]
  rw [State.applyAll] at herr
  rw [herr]
  rfl

lemma Engine.Replays.poison (h : e.Replays P cfg started) {err : Err}
    (happly : e.state.apply P cfg ev = .error err) :
    Engine.Poisoned P cfg { journal, state := e.state } := by
  obtain ⟨-, S, a, r, hall, hstate⟩ := h
  obtain ⟨-, hj, -⟩ := Journal.append_ok happend
  rw [hstate, apply_stamp] at happly
  have hS : S.apply P cfg ev = .error err := by
    cases hS : S.apply P cfg ev with
    | error err' => rw [hS] at happly; exact happly
    | ok S' => rw [hS] at happly; cases happly
  intro t
  refine ⟨err, ?_⟩
  rw [hj, State.applyAll, foldCheck_append, State.init_stamp (t := started) t]
  have hfold : State.applyAll P cfg ((State.init cfg started).stamp 0 false t) e.journal.events = _ :=
    applyAll_stamp e.journal.events
  rw [hall, State.applyAll] at hfold
  rw [hfold]
  show (foldCheck (State.apply P cfg) _ [ev]) = _
  rw [foldCheck_singleton]
  split_ifs
  · exact hS
  · rw [apply_stamp, hS]
    rfl

end

end

/-! ## Calls -/

variable {ctx : Ctx} {op : Op}

/-- The operation with a second half. -/
def Op.Twofold : Op → Prop
  | .registerAttestedEscrowBroadcast _ _ _ => True
  | _ => False

lemma Op.twofold_of_next {s : State} {plan : Plan} (h : op.next P cfg ctx s = some plan) :
    op.Twofold := by
  cases op <;> trivial

lemma next_writes {reply : Reply} {w : Write}
    (hfirst : (e.perform P cfg (ctx.canceled 0) (op.plan P cfg ctx e.state)).1 = .ok reply)
    (hnext : op.next P cfg ctx
      (e.perform P cfg (ctx.canceled 0) (op.plan P cfg ctx e.state)).2.state = some (.write w)) :
    Writes P cfg ctx (e.perform P cfg (ctx.canceled 0) (op.plan P cfg ctx e.state)).2.state op
      w.draft := by
  cases op with
  | registerAttestedEscrowBroadcast intent candidate attestation =>
    -- The intent that the first half checked is the one of the stored call.
    have hstored : ∃ call, (e.perform P cfg (ctx.canceled 0) (Op.plan P cfg ctx e.state
          (.registerAttestedEscrowBroadcast intent candidate attestation))).2.state.escrowCalls.lookup
          intent.callID = some call ∧ call.intent = intent ∧
        attestation.validateIntent intent = .ok () := by
      simp only [Op.plan] at hfirst ⊢
      cases hplan : registerAttestedIntent P.toCrypto cfg (ctx.now 0) e.state intent candidate
          attestation with
      | refuse err => rw [hplan] at hfirst; cases hfirst
      | answer r =>
        obtain ⟨hint, call, hcall, hintent⟩ := registerAttestedIntent_answer hplan
        exact ⟨call, hcall, hintent, hint⟩
      | write w₁ =>
        obtain ⟨hint, hdraft, -⟩ := registerAttestedIntent_write hplan
        rw [hplan] at hfirst
        simp only [Engine.perform] at hfirst ⊢
        rcases e.commit_cases P cfg (ctx.canceled 0) w₁ with
          ⟨err, hc⟩ | ⟨ev, journal, happend, ⟨err, -, hc⟩ | ⟨s₁, happly, hc⟩⟩
        · rw [hc] at hfirst; cases hfirst
        · rw [hc] at hfirst; cases hfirst
        rw [hc]
        obtain ⟨a, r, hfin⟩ := w₁.finish_eq_stamp cfg s₁
        have hbody := (Journal.append_follows happend).body
        obtain ⟨s₂, hbody₂, -, rfl⟩ := apply_ok_iff.mp happly
        rw [State.applyBody, hbody, hdraft] at hbody₂
        obtain ⟨-, -, hs₂⟩ := bind_eq_ok.mp hbody₂
        refine ⟨intent.newCall (ctx.now 0), ?_, rfl, hint⟩
        show (w₁.finish cfg (s₂.withChain cfg)).escrowCalls.lookup intent.callID = _
        rw [hfin, ← Except.ok.inj hs₂]
        show (State.storeEscrow cfg e.state _).escrowCalls.lookup intent.callID = _
        rw [storeEscrow_escrowCalls]
        exact AList.lookup_insert _
    obtain ⟨call, hcall, hintent, hint⟩ := hstored
    simp only [Op.next, Option.some.injEq] at hnext
    obtain ⟨call', expected, hnew, hdraft⟩ := registerEscrowTransition_new hnext (by
      rintro a call'' ⟨⟩ hcall''
      rw [hcall] at hcall''
      cases hcall''
      rwa [hintent])
    rw [hdraft]
    exact .escrowPending rfl hnew
  | _ => cases hnext

lemma Engine.perform_state {canceled : Bool} {plan : Plan}
    (hstamp : ∀ s a r t, I s → I (s.stamp a r t)) (hI : I e.state)
    (hw : ∀ w ev s', plan = .write w → ev.Follows w.draft → e.state.apply P cfg ev = .ok s' → I s') :
    I (e.perform P cfg canceled plan).2.state := by
  cases plan with
  | refuse err => exact hI
  | answer r => exact hI
  | write w =>
    simp only [perform]
    rcases e.commit_cases P cfg canceled w with
      ⟨err, hc⟩ | ⟨ev, journal, happend, ⟨err, -, hc⟩ | ⟨s', happly, hc⟩⟩
    · rw [hc]; exact hI
    · rw [hc]; exact hI
    · rw [hc]
      obtain ⟨a, r, hfin⟩ := w.finish_eq_stamp cfg s'
      show I (w.finish cfg s')
      rw [hfin]
      exact hstamp _ _ _ _ (hw w ev s' rfl (Journal.append_follows happend) happly)

lemma Engine.call_cases (P : Primitives) (cfg : Config) (e : Engine) (ctx : Ctx) (op : Op) :
    e.call P cfg ctx op = e.perform P cfg (ctx.canceled 0) (op.plan P cfg ctx e.state) ∨
      ∃ reply plan, (e.perform P cfg (ctx.canceled 0) (op.plan P cfg ctx e.state)).1 = .ok reply ∧
        op.next P cfg ctx (e.perform P cfg (ctx.canceled 0) (op.plan P cfg ctx e.state)).2.state =
          some plan ∧
        e.call P cfg ctx op =
          (e.perform P cfg (ctx.canceled 0) (op.plan P cfg ctx e.state)).2.perform P cfg
            (ctx.canceled 1) plan := by
  unfold call
  dsimp only
  split
  · rename_i reply plan hok hplan
    exact .inr ⟨reply, plan, hok, hplan, rfl⟩
  · exact .inl rfl

lemma Engine.call_single (h : ¬op.Twofold) :
    e.call P cfg ctx op = e.perform P cfg (ctx.canceled 0) (op.plan P cfg ctx e.state) := by
  rcases e.call_cases P cfg ctx op with hcall | ⟨_, _, -, hnext, -⟩
  · exact hcall
  · exact absurd (Op.twofold_of_next hnext) h

/-- A call of an operation without a second half leaves the state alone, and then
does not both succeed and write; or it appends and applies one event. -/
lemma Engine.call_once (P : Primitives) (cfg : Config) (ctx : Ctx) (e : Engine)
    (h : ¬op.Twofold) :
    ((e.call P cfg ctx op).2.state = e.state ∧ ∀ reply, (e.call P cfg ctx op).1 = .ok reply →
          (e.call P cfg ctx op).2.journal = e.journal) ∨
      ∃ d ev s' a r reply, Writes P cfg ctx e.state op d ∧ ev.Follows d ∧
        e.state.apply P cfg ev = .ok s' ∧ (e.call P cfg ctx op).1 = .ok reply ∧
        (e.call P cfg ctx op).2.journal.events = e.journal.events ++ [ev] ∧
        (e.call P cfg ctx op).2.state = s'.stamp a r s'.status.stateChangedAt := by
  rw [call_single h]
  cases hplan : op.plan P cfg ctx e.state with
  | refuse err | answer r => exact .inl ⟨rfl, fun _ _ => rfl⟩
  | write w =>
    simp only [perform]
    rcases e.commit_cases P cfg (ctx.canceled 0) w with
      ⟨err, hc⟩ | ⟨ev, journal, happend, ⟨err, -, hc⟩ | ⟨s', happly, hc⟩⟩
    · rw [hc]; exact .inl ⟨rfl, fun _ _ => rfl⟩
    · rw [hc]; exact .inl ⟨rfl, fun _ hr => by cases hr⟩
    · rw [hc]
      obtain ⟨a, r, hfin⟩ := w.finish_eq_stamp cfg s'
      obtain ⟨-, hj, -⟩ := Journal.append_ok happend
      exact .inr ⟨w.draft, ev, s', a, r, _, plan_writes hplan, Journal.append_follows happend,
        happly, rfl, by rw [hj], hfin⟩

/-- A property of the state after a call, from one write of its operation. `K` is
a condition on the call that its first half does not destroy. -/
lemma Engine.call_state {K : State → Prop} (P : Primitives) (cfg : Config) (ctx : Ctx) (op : Op)
    (e : Engine) (hstamp : ∀ s a r t, I s → I (s.stamp a r t))
    (hstampK : ∀ s a r t, K s → K (s.stamp a r t)) (hI : I e.state) (hK : K e.state)
    (hw : ∀ s d ev s', I s → K s → Writes P cfg ctx s op d → ev.Follows d →
      s.apply P cfg ev = .ok s' → I s')
    (hnext : op.Twofold → ∀ s d ev s', I s → K s → Writes P cfg ctx s op d → ev.Follows d →
      s.apply P cfg ev = .ok s' → K s') :
    I (e.call P cfg ctx op).2.state := by
  have hfirst : ∀ J : State → Prop, (∀ s a r t, J s → J (s.stamp a r t)) → J e.state →
      (∀ d ev s', Writes P cfg ctx e.state op d → ev.Follows d →
        e.state.apply P cfg ev = .ok s' → J s') →
      J (e.perform P cfg (ctx.canceled 0) (op.plan P cfg ctx e.state)).2.state :=
    fun J hs hJ hJw => perform_state hs hJ fun w ev s' hplan hf ha =>
      hJw w.draft ev s' (plan_writes hplan) hf ha
  have hI₁ := hfirst I hstamp hI fun d ev s' h => hw e.state d ev s' hI hK h
  rcases e.call_cases P cfg ctx op with hcall | ⟨reply, plan, hok, hplan, hcall⟩
  · rw [hcall]
    exact hI₁
  · have hK₁ := hfirst K hstampK hK fun d ev s' h =>
      hnext (Op.twofold_of_next hplan) e.state d ev s' hI hK h
    rw [hcall]
    refine perform_state hstamp hI₁ fun w ev s' hpw hf ha => ?_
    subst hpw
    exact hw _ w.draft ev s' hI₁ hK₁ (next_writes hok hplan) hf ha

/-! ## Opening -/

section

variable {e' : Engine} {inputs : List Input}

/-- What `Open` does: it replays the lines and demotes a HEALTHY or RECOVERING
status by one event. -/
lemma Engine.open_ok {lines : List JournalEvent} (h : Engine.open P cfg ctx lines = .ok e') :
    ∃ s₀, State.applyAll P cfg (State.init cfg (ctx.now 0)) lines = .ok s₀ ∧
      e'.Replays P cfg (ctx.now 0) ∧
      ((s₀.status.demoted = false ∧ e'.journal.events = lines ∧
          e'.state = s₀.refreshAffected cfg (ctx.now 1)) ∨
        (s₀.status.demoted ∧ ∃ ev s₁, ev.Follows (restartDraft s₀ (ctx.now 0)) ∧
          e'.journal.events = lines ++ [ev] ∧ s₀.apply P cfg ev = .ok s₁ ∧
          e'.state = s₁.refreshAffected cfg (ctx.now 1))) := by
  unfold Engine.open at h
  obtain ⟨journal, hreplay, h⟩ := bind_eq_ok.mp h
  obtain ⟨s₀, hall, h⟩ := bind_eq_ok.mp h
  have hevents := replay_events hreplay
  have hreplays : Engine.Replays P cfg { journal, state := s₀ } (ctx.now 0) := by
    refine ⟨fun _ => ?_, s₀, _, _, hall, State.stamp_self.symm⟩
    rw [hevents]
    exact hreplay
  rw [hevents] at hall
  refine ⟨s₀, hall, ?_⟩
  by_cases hdem : s₀.status.demoted
  · rw [if_pos hdem] at h
    obtain ⟨⟨ev, journal'⟩, happend, h⟩ := bind_eq_ok.mp h
    obtain ⟨s₁, happly, h⟩ := bind_eq_ok.mp h
    have he' := (Except.ok.inj h).symm
    obtain ⟨-, hj, -⟩ := Journal.append_ok happend
    refine ⟨?_, .inr ⟨hdem, ev, s₁, Journal.append_follows happend, ?_, happly, by rw [he']⟩⟩
    · rw [he']
      exact hreplays.commit
        (w := ⟨restartDraft s₀ (ctx.now 0), some (ctx.now 1), fun s => .status s.status⟩)
        happend happly
    · rw [he', hj, hevents]
  · rw [if_neg hdem] at h
    have he' := (Except.ok.inj h).symm
    refine ⟨?_, .inl ⟨by simpa using hdem, by rw [he', hevents], by rw [he']⟩⟩
    rw [he']
    exact ⟨hreplays.chained, s₀, _, _, by rw [hevents]; exact hall,
      State.refreshAffected_eq_stamp (ctx.now 1)⟩

/-- The state a replay reaches is the live one up to the stamp; the stamp's time is
the live one, or the time of opening if the journal carries no status. -/
lemma Engine.Replays.applyAll (h : e.Replays P cfg started) {t : Time} {s₀ : State}
    (hall : State.applyAll P cfg (State.init cfg t) e.journal.events = .ok s₀) :
    ∃ a r t', s₀ = e.state.stamp a r t' ∧ (t' = e.state.status.stateChangedAt ∨
        (t' = t ∧ e.journal.events.any (fun ev => ev.body.status.isSome) = false)) := by
  obtain ⟨-, S, a, r, hS, hstate⟩ := h
  rw [State.init_stamp (t := started) t, applyAll_stamp, hS] at hall
  have hs₀ := (Except.ok.inj hall).symm
  dsimp only at hs₀
  by_cases hany : e.journal.events.any (fun ev => ev.body.status.isSome)
  · rw [if_pos hany] at hs₀
    refine ⟨S.status.affectedExecutions, S.status.readyForManualResume, S.status.stateChangedAt,
      ?_, .inl ?_⟩
    · rw [hs₀, hstate]; rfl
    · rw [hstate]; rfl
  · rw [if_neg hany] at hs₀
    exact ⟨0, false, t, by rw [hs₀, hstate]; rfl, .inr ⟨rfl, by simpa using hany⟩⟩

lemma Engine.Replays.perform (h : e.Replays P cfg started) (canceled : Bool) (plan : Plan) :
    ((e.perform P cfg canceled plan).2.Replays P cfg started ∨
      (e.perform P cfg canceled plan).2.Poisoned P cfg) ∧
    (e.Accepts P cfg canceled plan → (e.perform P cfg canceled plan).2.Replays P cfg started) := by
  cases plan with
  | refuse err | answer r => exact ⟨.inl h, fun _ => h⟩
  | write w =>
    simp only [Engine.perform]
    rcases e.commit_cases P cfg canceled w with
      ⟨err, hc⟩ | ⟨ev, journal, happend, ⟨err, happly, hc⟩ | ⟨s, happly, hc⟩⟩
    · rw [hc]; exact ⟨.inl h, fun _ => h⟩
    · rw [hc]
      refine ⟨.inr (h.poison happend happly), fun hacc => ?_⟩
      obtain ⟨s, hs⟩ := hacc w ev journal rfl happend
      rw [happly] at hs
      cases hs
    · rw [hc]; exact ⟨.inl (h.commit happend happly), fun _ => h.commit happend happly⟩

lemma Engine.Poisoned.perform (h : e.Poisoned P cfg) (canceled : Bool) (plan : Plan) :
    (e.perform P cfg canceled plan).2.Poisoned P cfg := by
  cases plan with
  | refuse err => exact h
  | answer r => exact h
  | write w =>
    simp only [Engine.perform]
    rcases e.commit_cases P cfg canceled w with
      ⟨err, hc⟩ | ⟨ev, journal, happend, ⟨err, happly, hc⟩ | ⟨s, happly, hc⟩⟩
    · rw [hc]; exact h
    · rw [hc]; exact h.append happend _
    · rw [hc]; exact h.append happend _

/-- A call of an engine that replays leaves one that replays, or a poisoned one;
the former if `apply` accepted its events. -/
lemma Engine.Replays.call (h : e.Replays P cfg started) (ctx : Ctx) (op : Op) :
    ((e.call P cfg ctx op).2.Replays P cfg started ∨ (e.call P cfg ctx op).2.Poisoned P cfg) ∧
    (e.AcceptsCall P cfg ctx op → (e.call P cfg ctx op).2.Replays P cfg started) := by
  obtain ⟨hfirst, haccept⟩ := h.perform (ctx.canceled 0) (op.plan P cfg ctx e.state)
  rcases e.call_cases P cfg ctx op with hcall | ⟨reply, plan, hok, hplan, hcall⟩
  · rw [hcall]
    exact ⟨hfirst, fun hacc => haccept hacc.1⟩
  · rw [hcall]
    refine ⟨?_, fun hacc =>
      ((haccept hacc.1).perform _ plan).2 (hacc.2 reply plan hok hplan)⟩
    rcases hfirst with hr | hp
    · exact (hr.perform _ plan).1
    · exact .inr (hp.perform _ plan)

lemma Engine.Poisoned.call (h : e.Poisoned P cfg) (ctx : Ctx) (op : Op) :
    (e.call P cfg ctx op).2.Poisoned P cfg := by
  rcases e.call_cases P cfg ctx op with hcall | ⟨reply, plan, -, -, hcall⟩
  · rw [hcall]; exact h.perform _ _
  · rw [hcall]; exact (h.perform _ _).perform _ _

lemma Engine.Poisoned.not_open (h : e.Poisoned P cfg) :
    Engine.open P cfg ctx e.journal.events ≠ .ok e' := by
  intro hopen
  obtain ⟨s₀, hall, -⟩ := Engine.open_ok hopen
  obtain ⟨err, herr⟩ := h (ctx.now 0)
  rw [herr] at hall
  cases hall

lemma run_replays {ctx : Ctx}
    (hrun : runFrom (step P cfg) (Engine.start cfg ctx) inputs = some e) :
    (∃ started, e.Replays P cfg started) ∨ e.Poisoned P cfg := by
  refine run_invariant (I := fun e => (∃ t, e.Replays P cfg t) ∨ e.Poisoned P cfg) ?_
    (.inl ⟨_, Engine.replays_start ctx⟩) hrun
  rintro e₁ (⟨ctx, op⟩ | ctx) e₂ h hstep
  · cases hstep
    rcases h with ⟨t, h⟩ | h
    · exact (h.call ctx op).1.imp_left fun h => ⟨t, h⟩
    · exact .inr (h.call ctx op)
  · simp only [step] at hstep
    cases hopen : Engine.open P cfg ctx e₁.journal.events with
    | error err => rw [hopen] at hstep; cases hstep
    | ok e' =>
      rw [hopen] at hstep
      cases hstep
      obtain ⟨-, -, hr, -⟩ := Engine.open_ok hopen
      exact .inl ⟨_, hr⟩

/-- What a restart within a run does: the live state comes back with another stamp
and, if it was HEALTHY or RECOVERING, the restart event on top. -/
lemma restart_cases {ctx₀ : Ctx}
    (hrun : runFrom (step P cfg) (Engine.start cfg ctx₀) inputs = some e)
    (hstep : step P cfg e (.restart ctx) = some e') :
    ∃ a r t, (e.state.status.demoted = false ∧ e'.journal.events = e.journal.events ∧
        e'.state = (e.state.stamp a r t).refreshAffected cfg (ctx.now 1)) ∨
      (e.state.status.demoted ∧ ∃ ev s₁,
        ev.Follows (restartDraft (e.state.stamp a r t) (ctx.now 0)) ∧
        e'.journal.events = e.journal.events ++ [ev] ∧
        (e.state.stamp a r t).apply P cfg ev = .ok s₁ ∧
        e'.state = s₁.refreshAffected cfg (ctx.now 1)) := by
  simp only [step] at hstep
  cases hopen : Engine.open P cfg ctx e.journal.events with
  | error err => rw [hopen] at hstep; cases hstep
  | ok e'' =>
    rw [hopen] at hstep
    cases hstep
    obtain ⟨s₀, happlied, -, hcases⟩ := Engine.open_ok hopen
    rcases run_replays hrun with ⟨t₀, hrep⟩ | hpoison
    · obtain ⟨a, r, t, rfl, -⟩ := hrep.applyAll happlied
      exact ⟨a, r, t, hcases⟩
    · exact absurd hopen hpoison.not_open

/-- A property of the state that every write of an operation and the restart event
keep holds in every state of a run. `K` is a condition on the calls. -/
lemma run_state {K : State → Ctx → Op → Prop} (hstamp : ∀ s a r t, I s → I (s.stamp a r t))
    (hstampOk : ∀ s a r t ctx op, K s ctx op → K (s.stamp a r t) ctx op)
    (hinit : ∀ t, I (State.init cfg t))
    (hwrite : ∀ s ctx op d ev s', I s → K s ctx op → Writes P cfg ctx s op d → ev.Follows d →
      s.apply P cfg ev = .ok s' → I s')
    (hnext : ∀ s ctx op d ev s', op.Twofold → I s → K s ctx op → Writes P cfg ctx s op d →
      ev.Follows d → s.apply P cfg ev = .ok s' → K s' ctx op)
    (hrestart : ∀ s now ev s', I s → s.status.demoted → ev.Follows (restartDraft s now) →
      s.apply P cfg ev = .ok s' → I s')
    {ctx : Ctx}
    (hrun : runFrom (step P cfg) (Engine.start cfg ctx) inputs = some e)
    (hall : AllSteps (step P cfg) (fun e i => i.Calls (K e.state)) (Engine.start cfg ctx) inputs) :
    I e.state := by
  refine history_induction (H := fun _ e => I e.state) ?_ ?_ inputs e hrun hall
  · exact hstamp _ _ _ _ (hinit _)
  rintro is e₁ (⟨ctx', op⟩ | ctx') e₂ hrun₁ hI hok hstep
  · cases hstep
    refine Engine.call_state (K := fun s => K s ctx' op) P cfg ctx' op e₁ hstamp
      (fun s a r t h => hstampOk s a r t ctx' op h) hI hok
      (fun s d ev s' hI hK => hwrite s ctx' op d ev s' hI hK)
      fun htwo s d ev s' hI hK => hnext s ctx' op d ev s' htwo hI hK
  · obtain ⟨a, r, t, ⟨-, -, he'⟩ | ⟨hdem, ev, s₁, hf, -, happly, he'⟩⟩ := restart_cases hrun₁ hstep
    · rw [he', State.refreshAffected_eq_stamp]
      exact hstamp _ _ _ _ (hstamp _ _ _ _ hI)
    · rw [he', State.refreshAffected_eq_stamp]
      exact hstamp _ _ _ _ (hrestart (e₁.state.stamp a r t) _ ev s₁ (hstamp _ a r t hI) hdem hf happly)

lemma reachable_state (hstamp : ∀ s a r t, I s → I (s.stamp a r t))
    (hinit : ∀ t, I (State.init cfg t))
    (hwrite : ∀ s ctx op d ev s', I s → Writes P cfg ctx s op d → ev.Follows d →
      s.apply P cfg ev = .ok s' → I s')
    (hrestart : ∀ s now ev s', I s → s.status.demoted → ev.Follows (restartDraft s now) →
      s.apply P cfg ev = .ok s' → I s')
    (hreach : Reachable P cfg e) : I e.state := by
  obtain ⟨ctx, inputs, hrun⟩ := hreach
  have hall : AllSteps (step P cfg) (fun _ i => i.Calls fun _ _ => True) (Engine.start cfg ctx)
      inputs := allSteps_of_forall fun _ i => by cases i <;> trivial
  exact run_state hstamp (fun _ _ _ _ _ _ _ => trivial) hinit
    (fun s ctx op d ev s' hI _ => hwrite s ctx op d ev s' hI)
    (fun _ _ _ _ _ _ _ _ _ _ _ _ => trivial) hrestart hrun hall

end

end FlowOps.Reconciliation

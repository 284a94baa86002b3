import FlowOps.Reconciliation.Invariant

/-!
# One transaction, one payment

Two indexes keep transaction hashes apart: `executionByHash` for payments and
`escrowByHash` for escrow transitions. Every registration consults both, but the
recovery of a replaced transaction settles an execution under a hash that is neither
looked up nor entered. If no replacement uses a hash that is known to the engine and
no later registration names the hash of a replacement (`State.HashesApart`), each
transaction settles at most one payment.

Results:
* `run_exclusive`: the invariant behind it.
* `one_payment_per_transaction`, and `replacement_settles_twice`, a run without the
  condition.
-/

namespace FlowOps.Reconciliation

open List Option Dict

/-! ## Settled hashes -/

/-- Execution `id` is SETTLED by the transaction with this hash. -/
def State.Settled (s : State) (id hash : String) : Prop :=
  ∃ x, s.executions.lookup id = some x ∧ x.state = .settled ∧ resolvedTransactionHash x = hash

/-- The hash of a settled execution is the one it is indexed under, or unknown to
both indexes and to every other settled execution. -/
def State.Exclusive (s : State) : Prop :=
  ∀ id hash, s.Settled id hash → s.executionByHash.lookup hash = some id ∨
    (s.executionByHash.lookup hash = none ∧ s.escrowByHash.lookup hash = none ∧
      ∀ other, s.Settled other hash → other = id)

/-- The transaction hash that a registration names. -/
def Op.namedHash : Op → Option String
  | .registerBroadcast expected => some expected.transactionHash
  | .registerAttestedBroadcast expected _ => some expected.transactionHash
  | .registerX402Settlement expected _ => some expected.transactionHash
  | .registerEscrowTransition _ _ candidate => some candidate.transactionHash
  | .registerAttestedEscrowBroadcast _ candidate _ => some candidate.transactionHash
  | _ => none

/-- The execution that a replacement settles, and the hash of the replacement that
was recorded for it. -/
def State.replacement (s : State) : Op → Option (String × String)
  | .reconcileProvenReplacement _ id _ _ _ => (s.executions.lookup id).bind fun x =>
    x.transactionRecovery.map fun r => (id, r.replacementTransaction)
  | _ => none

/-- A registration does not name the hash of a replacement that settled an execution,
and the hash of a replacement is not one under which an execution or an escrow
transition is registered or another execution settled. -/
structure State.HashesApart (s : State) (op : Op) : Prop where
  named : ∀ hash ∈ op.namedHash, s.executions.All fun _ x => x.state = .settled →
    resolvedTransactionHash x ≠ x.expected.transactionHash → resolvedTransactionHash x ≠ hash
  replaced : ∀ p ∈ s.replacement op, s.executionByHash.lookup p.2 = none ∧
    s.escrowByHash.lookup p.2 = none ∧
    s.executions.All fun other x => x.state = .settled → resolvedTransactionHash x = p.2 →
      other = p.1

instance (s : State) (op : Op) : Decidable (s.HashesApart op) :=
  decidable_of_iff
    ((∀ hash ∈ op.namedHash, s.executions.All fun _ x => x.state = .settled →
        resolvedTransactionHash x ≠ x.expected.transactionHash → resolvedTransactionHash x ≠ hash) ∧
      ∀ p ∈ s.replacement op, s.executionByHash.lookup p.2 = none ∧
        s.escrowByHash.lookup p.2 = none ∧
        s.executions.All fun other x => x.state = .settled → resolvedTransactionHash x = p.2 →
          other = p.1)
    ⟨fun h => ⟨h.1, h.2⟩, fun h => ⟨h.named, h.replaced⟩⟩

section

variable {P : Primitives} {cfg : Config} {ctx : Ctx} {s s' : State} {op : Op} {d : Draft}
  {ev : JournalEvent} {id hash : String}

lemma Changes.settled_cases (hc : Changes P cfg s ev s')
    (hkeep : ∀ x, ev.body.execution = some x →
      x.carryFrom (s.executions.lookup x.expected.executionID) = x)
    (h : s'.Settled id hash) :
    s.Settled id hash ∨ ∃ x, ev.body.execution = some x ∧ x.expected.executionID = id ∧
      x.state = .settled ∧ resolvedTransactionHash x = hash := by
  obtain ⟨y, hy, hstate, hhash⟩ := h
  rcases hc.execution_cases hy with ⟨x, hx, rfl, rfl⟩ | ⟨x, hx, -, rfl⟩
  · rw [hkeep x hx] at hstate hhash
    exact .inr ⟨x, hx, rfl, hstate, hhash⟩
  · refine .inl ⟨x, hx, ?_⟩
    have hmark : x.markPending.state = .settled → x.markPending = x := by
      unfold Execution.markPending
      split_ifs
      · rintro ⟨⟩
      · exact fun _ => rfl
    by_cases hm : ev.body.marks
    · rw [if_pos hm] at hstate hhash
      rw [hmark hstate] at hhash
      rw [hmark hstate] at hstate
      exact ⟨hstate, hhash⟩
    · rw [if_neg hm] at hstate hhash
      exact ⟨hstate, hhash⟩

lemma Writes.settles (hwf : s.WF P cfg) (hw : Writes P cfg ctx s op d) {x : Execution}
    (hx : d.body.execution = some x) (hstate : x.state = .settled) :
    d.body.binding = none ∧ (s.Settled x.expected.executionID (resolvedTransactionHash x) ∨
        s.executionByHash.lookup (resolvedTransactionHash x) = some x.expected.executionID ∨
        (op.namedHash = none ∧
          s.replacement op = some (x.expected.executionID, resolvedTransactionHash x))) := by
  cases hw with
  | register _ new =>
    cases hx
    rcases new.state with ⟨h, -⟩ | h <;> rw [h] at hstate <;> cases hstate
  | @settle id evidence t e canonical accepted =>
    cases hx
    have hold := hwf.execution _ _ accepted.stored
    refine ⟨rfl, .inr (.inl ?_)⟩
    have hres : resolvedTransactionHash (e.settledBy canonical (ctx.now 0) t) =
        e.expected.transactionHash := if_pos hold.hash_ne
    show s.executionByHash.lookup (resolvedTransactionHash (e.settledBy canonical (ctx.now 0) t)) =
      some e.expected.executionID
    rw [hres, hold.keyed]
    exact hwf.hashed _ _ accepted.stored
  | @replace org id operator evidence t e r canonical _ accepted =>
    cases hx
    have hold := hwf.execution _ _ accepted.stored
    have hhash := (TransactionRecovery.validate_replacement
      (hold.proven.recovered _ accepted.recovered) accepted.outcome).1
    have hres : resolvedTransactionHash (e.replacedBy r canonical (ctx.now 0) operator t) =
        r.replacementTransaction := if_pos (hashPattern_ne_empty hhash)
    refine ⟨rfl, .inr (.inr ⟨rfl, ?_⟩)⟩
    show s.replacement _ = some (e.expected.executionID,
      resolvedTransactionHash (e.replacedBy r canonical (ctx.now 0) operator t))
    rw [hres, hold.keyed, State.replacement, accepted.stored]
    simp [accepted.recovered]
  | @finality id evidence e canonical stored =>
    cases hx
    refine ⟨rfl, .inl ⟨e, ?_, hstate, rfl⟩⟩
    show s.executions.lookup e.expected.executionID = some e
    rw [(hwf.execution _ _ stored).keyed]
    exact stored
  | pendingOutcome stored _ unresolved =>
    cases hx
    simp only [Execution.unresolved, Bool.or_eq_true, decide_eq_true_eq] at unresolved
    rcases unresolved with h | h <;> rw [h] at hstate <;> cases hstate
  | _ => cases hx <;> cases hstate

/-- The payment hash an event indexes is indexed already, or the operation names
it. -/
lemma Writes.binding_indexed (hwf : s.WF P cfg) (hw : Writes P cfg ctx s op d)
    {x : ExpectedExecution} (hx : d.body.binding = some x) :
    s.executionByHash.lookup x.transactionHash ≠ none ∨ op.namedHash = some x.transactionHash := by
  obtain ⟨e, he, rfl⟩ := EventBody.execution_of_binding hx
  obtain ⟨-, ⟨hop, -, -⟩ | ⟨old, hold, hkeeps⟩⟩ := hw.keeps hwf.execution he
  · right
    cases op <;> cases hop <;> rfl
  · left
    rw [hkeeps.expected, hwf.hashed _ _ hold]
    exact some_ne_none _

lemma EscrowCall.mem_hashes {c : EscrowCall} {h : String} :
    h ∈ c.hashes ↔ (∃ t ∈ c.transitions, t.expected.transactionHash = h) ∨
      ∃ p, c.pending = some p ∧ p.expected.transactionHash = h := by
  simp [hashes]

lemma Writes.call_indexed (hwf : s.WF P cfg) (hw : Writes P cfg ctx s op d) {c : EscrowCall}
    (hc : d.body.call = some c) :
    ∀ h ∈ c.hashes, s.escrowByHash.lookup h ≠ none ∨ op.namedHash = some h := by
  have hold : ∀ {id call}, s.escrowCalls.lookup id = some call → ∀ h ∈ call.hashes,
      s.escrowByHash.lookup h ≠ none ∨ op.namedHash = some h := by
    intro id call hcall h hh
    rw [hwf.escrowed _ _ hcall h hh]
    exact .inl (some_ne_none _)
  intro h hh
  cases hw with
  | escrowIntent => cases hc; cases hh
  | @escrowPending _ org callID candidate attestation now call expected hop new =>
    cases hc
    rcases EscrowCall.mem_hashes.mp hh with ht | ⟨p, hp, hph⟩
    · exact hold new.stored h (EscrowCall.mem_hashes.mpr (.inl ht))
    · right
      cases hp
      have hexp : (s.newPending cfg now expected attestation).expected = expected := by
        unfold State.newPending
        split_ifs <;> rfl
      rw [hexp, (expectedEscrowTransition_ok new.expected).2.1] at hph
      cases op <;> cases hop <;> exact congrArg some hph
  | escrowRevert accepted | escrowConfirm accepted =>
    cases hc
    refine hold accepted.stored h (EscrowCall.mem_hashes.mpr ?_)
    rcases EscrowCall.mem_hashes.mp hh with ⟨t, ht, hth⟩ | ⟨p, hp, -⟩
    · rcases mem_append.mp ht with ht | ht
      · exact .inl ⟨t, ht, hth⟩
      · rw [mem_singleton.mp ht] at hth
        exact .inr ⟨_, accepted.awaited, hth⟩
    · cases hp
  | @escrowFinality callID hash evidence call pre u post canonical checked =>
    cases hc
    refine hold checked.stored h (EscrowCall.mem_hashes.mpr ?_)
    rcases EscrowCall.mem_hashes.mp hh with ⟨t, ht, hth⟩ | hp
    · left
      rw [(splitTransitions_eq_some checked.split).1]
      rcases mem_append.mp ht with ht | ht
      · exact ⟨t, mem_append_left _ ht, hth⟩
      · rcases mem_cons.mp ht with rfl | ht
        · exact ⟨u, by simp, hth⟩
        · exact ⟨t, by simp [ht], hth⟩
    · exact .inr hp
  | @escrowReorg callID hash evidence call pre u post canonical removed ledgers reason checked loop =>
    cases hc
    refine hold checked.stored h (EscrowCall.mem_hashes.mpr (.inl ?_))
    rcases EscrowCall.mem_hashes.mp hh with ⟨t, ht, hth⟩ | ⟨p, hp, -⟩
    · rw [(splitTransitions_eq_some checked.split).1, ← removed_append_kept]
      rw [append_assoc] at ht
      rcases mem_append.mp ht with ht | ht
      · exact ⟨t, mem_append_left _ ht, hth⟩
      · rcases mem_append.mp ht with ht | ht
        · rw [(removeTransition_loop loop).1] at ht
          obtain ⟨v, hv, rfl⟩ := List.mem_map.mp ht
          exact ⟨v, by simp [hv], hth⟩
        · exact ⟨t, by simp [ht], hth⟩
    · cases hp
  | _ => cases hc

lemma Writes.index_cases (hwf : s.WF P cfg) (hw : Writes P cfg ctx s op d) (hf : ev.Follows d)
    (hc : Changes P cfg s ev s') (hash : String)
    (hnew : s'.executionByHash.lookup hash ≠ none ∨ s'.escrowByHash.lookup hash ≠ none) :
    s.executionByHash.lookup hash ≠ none ∨ s.escrowByHash.lookup hash ≠ none ∨
      op.namedHash = some hash := by
  rw [hc.executionByHash, hc.escrowByHash, hf.body] at hnew
  rcases hnew with hnew | hnew
  · cases hb : d.body.binding with
    | none => rw [hb] at hnew; exact .inl hnew
    | some x =>
      rw [hb, elim_some, lookup_insert_ite] at hnew
      by_cases heq : hash = x.transactionHash
      · rw [heq]
        exact (hw.binding_indexed hwf hb).imp_right .inr
      · rw [if_neg heq] at hnew
        exact .inl hnew
  · cases hcall : d.body.call with
    | none => rw [hcall] at hnew; exact .inr (.inl hnew)
    | some c =>
      rw [hcall, elim_some, lookup_foldl_insert] at hnew
      by_cases hmem : hash ∈ c.hashes
      · exact .inr (hw.call_indexed hwf hcall hash hmem)
      · rw [if_neg hmem] at hnew
        exact .inr (.inl hnew)

lemma Changes.index_persists (hwf : s.WF P cfg) (hwf' : s'.WF P cfg) (hfit : ev.Fits cfg s)
    (hc : Changes P cfg s ev s') (h : s.executionByHash.lookup hash = some id) :
    s'.executionByHash.lookup hash = some id := by
  obtain ⟨e, he, rfl⟩ := hwf.owner hash id h
  obtain ⟨e', he', hexp⟩ := hc.execution_persists hfit he
  rw [← hexp]
  exact hwf'.hashed _ _ he'

lemma State.Exclusive.step (h : s.Exclusive) (hwf : s.WF P cfg) (hapart : s.HashesApart op)
    (hw : Writes P cfg ctx s op d) (hf : ev.Follows d) (happly : s.apply P cfg ev = .ok s') :
    s'.Exclusive := by
  have hc := apply_changes happly
  have hfit := hw.fits hwf hf hc
  have hwf' := hwf.step hw hf happly
  have hkeep : ∀ x, ev.body.execution = some x →
      x.carryFrom (s.executions.lookup x.expected.executionID) = x := by
    rw [hf.body]
    exact fun x hx => hw.carryFrom hwf.execution hx
  -- Outside the indexes a hash stays unknown unless the operation names it.
  have hunknown : ∀ hash, s.executionByHash.lookup hash = none → s.escrowByHash.lookup hash = none →
      op.namedHash ≠ some hash →
      s'.executionByHash.lookup hash = none ∧ s'.escrowByHash.lookup hash = none := by
    intro hash h₁ h₂ hn
    by_contra hcon
    have hnew : s'.executionByHash.lookup hash ≠ none ∨ s'.escrowByHash.lookup hash ≠ none := by
      tauto
    rcases hw.index_cases hwf hf hc hash hnew with h | h | h
    · exact h h₁
    · exact h h₂
    · exact hn h
  -- An execution that was settled before.
  have hold : ∀ id hash, s.Settled id hash → s'.executionByHash.lookup hash = some id ∨
      (s'.executionByHash.lookup hash = none ∧ s'.escrowByHash.lookup hash = none ∧
        ∀ other, s'.Settled other hash → other = id) := by
    intro id hash hS
    rcases h id hash hS with hidx | ⟨hidx, hesc, huniq⟩
    · exact .inl (hc.index_persists hwf hwf' hfit hidx)
    · have hnamed : op.namedHash ≠ some hash := by
        intro hn
        obtain ⟨x, hx, hstate, rfl⟩ := hS
        refine all_iff.mp (hapart.named _ hn) id x hx hstate (fun heq => ?_) rfl
        rw [heq, hwf.hashed _ _ hx] at hidx
        cases hidx
      obtain ⟨hidx', hesc'⟩ := hunknown hash hidx hesc hnamed
      refine .inr ⟨hidx', hesc', fun other hother => ?_⟩
      rcases hc.settled_cases hkeep hother with ho | ⟨x, hx, rfl, hstate, rfl⟩
      · exact huniq other ho
      · rw [hf.body] at hx
        rcases (hw.settles hwf hx hstate).2 with ho | ho | ⟨-, hr⟩
        · exact huniq _ ho
        · rw [hidx] at ho
          cases ho
        · obtain ⟨y, hy, hstate', heq⟩ := hS
          exact (all_iff.mp (hapart.replaced _ hr).2.2 id y hy hstate' heq).symm
  intro id hash hS
  rcases hc.settled_cases hkeep hS with ho | ⟨x, hx, rfl, hstate, rfl⟩
  · exact hold id hash ho
  have hx' := hx
  rw [hf.body] at hx'
  rcases (hw.settles hwf hx' hstate).2 with ho | ho | ⟨hn, hr⟩
  · exact hold _ _ ho
  · exact .inl (hc.index_persists hwf hwf' hfit ho)
  · obtain ⟨hidx, hesc, huniq⟩ := hapart.replaced _ hr
    obtain ⟨hidx', hesc'⟩ := hunknown _ hidx hesc (by simp [hn])
    refine .inr ⟨hidx', hesc', fun other hother => ?_⟩
    rcases hc.settled_cases hkeep hother with ⟨y, hy, hstate', heq⟩ | ⟨x', hx', rfl, -, -⟩
    · exact all_iff.mp huniq other y hy hstate' heq
    · rw [hx] at hx'
      cases hx'
      rfl

end

/-! ## Whole runs -/

section

variable {P : Primitives} {cfg : Config} {ctx₀ : Ctx} {inputs : List Input} {e : Engine}

lemma State.HashesApart.twofold {ctx : Ctx} {s s' : State} {op : Op} {d : Draft}
    {ev : JournalEvent} (h : s.HashesApart op) (htwo : op.Twofold) (hw : Writes P cfg ctx s op d)
    (hf : ev.Follows d) (happly : s.apply P cfg ev = .ok s') : s'.HashesApart op := by
  have hexec : s'.executions = s.executions := by
    rw [(apply_changes happly).executions, hf.body]
    cases hw with
    | register hop => cases op <;> first | exact False.elim htwo | cases hop
    | escrowIntent => rfl
    | escrowPending => rfl
    | _ => cases htwo
  refine ⟨by rw [hexec]; exact h.named, fun p hp => ?_⟩
  cases op <;> first | exact False.elim htwo | cases hp

lemma State.Exclusive.restart {s s' : State} {now : Time} {ev : JournalEvent} (h : s.Exclusive)
    (hf : ev.Follows (restartDraft s now)) (happly : s.apply P cfg ev = .ok s') :
    s'.Exclusive := by
  have hc := apply_changes happly
  have hsettled : ∀ id hash, s'.Settled id hash → s.Settled id hash := by
    intro id hash hS
    rcases hc.settled_cases (by rw [hf.body]; rintro x ⟨⟩) hS with ho | ⟨x, hx, -⟩
    · exact ho
    · rw [hf.body] at hx
      cases hx
  have hexec : s'.executionByHash = s.executionByHash := by rw [hc.executionByHash, hf.body]; rfl
  have hescrow : s'.escrowByHash = s.escrowByHash := by rw [hc.escrowByHash, hf.body]; rfl
  intro id hash hS
  rw [hexec, hescrow]
  exact (h id hash (hsettled id hash hS)).imp_right fun ⟨h₁, h₂, h₃⟩ =>
    ⟨h₁, h₂, fun other ho => h₃ other (hsettled other hash ho)⟩

lemma run_exclusive (hrun : runFrom (step P cfg) (Engine.start cfg ctx₀) inputs = some e)
    (hapart : AllSteps (step P cfg) (fun e i => i.Calls fun _ op => e.state.HashesApart op)
      (Engine.start cfg ctx₀) inputs) : e.state.Exclusive := by
  have := run_state (P := P) (I := fun s => s.WF P cfg ∧ s.Exclusive)
    (K := fun s _ op => s.HashesApart op)
    (fun s a r t h => ⟨h.1.stamp a r t, h.2⟩) (fun s a r t _ op h => ⟨h.named, h.replaced⟩)
    (fun t => ⟨State.init_wf t, by rintro id hash ⟨x, hx, -⟩; cases hx⟩)
    (fun s ctx op d ev s' h hok hw hf ha => ⟨h.1.step hw hf ha, h.2.step h.1 hok hw hf ha⟩)
    (fun s ctx op d ev s' htwo _ hok hw hf ha => hok.twofold htwo hw hf ha)
    (fun s now ev s' h _ hf ha => ⟨h.1.restart hf ha, h.2.restart hf ha⟩) hrun hapart
  exact this.2

/-- If hashes are kept apart, a transaction settles at most one payment and never
also an escrow transition. -/
theorem one_payment_per_transaction
    (hrun : runFrom (step P cfg) (Engine.start cfg ctx₀) inputs = some e)
    (hapart : AllSteps (step P cfg) (fun e i => i.Calls fun _ op => e.state.HashesApart op)
      (Engine.start cfg ctx₀) inputs) :
    (∀ id id' x x', e.state.executions.lookup id = some x → e.state.executions.lookup id' = some x' →
        x.state = .settled → x'.state = .settled →
        resolvedTransactionHash x = resolvedTransactionHash x' → id = id') ∧
      ∀ id x callID c t, e.state.executions.lookup id = some x → x.state = .settled →
        e.state.escrowCalls.lookup callID = some c → t ∈ c.transitions → t.state = .confirmed →
        resolvedTransactionHash x ≠ t.expected.transactionHash := by
  have hex := run_exclusive hrun hapart
  have hwf := reachable_wf ⟨ctx₀, inputs, hrun⟩
  constructor
  · intro id id' x x' hx hx' hstate hstate' heq
    have hS : e.state.Settled id (resolvedTransactionHash x) := ⟨x, hx, hstate, rfl⟩
    have hS' : e.state.Settled id' (resolvedTransactionHash x) := ⟨x', hx', hstate', heq.symm⟩
    rcases hex id _ hS with h | ⟨-, -, huniq⟩
    · rcases hex id' _ hS' with h' | ⟨h', -⟩
      · rw [h] at h'
        exact Option.some.inj h'
      · rw [h] at h'
        cases h'
    · exact (huniq id' hS').symm
  · intro id x callID c t hx hstate hc ht _ heq
    have hescrow := hwf.escrowed callID c hc t.expected.transactionHash
      (EscrowCall.mem_hashes.mpr (.inl ⟨t, ht, rfl⟩))
    rcases hex id _ ⟨x, hx, hstate, heq⟩ with h | ⟨-, h, -⟩
    · rw [hwf.separate _ _ h] at hescrow
      cases hescrow
    · rw [h] at hescrow
      cases hescrow

end

section

open Sample

theorem one_payment_per_transaction_paid : ∃ e, run (paid 80 2) = some e ∧
      (e.state.executions.lookup "pay").map (·.state) = some .settled ∧
      ∀ id x y, e.state.executions.lookup id = some x → x.state = .settled →
        e.state.executions.lookup "pay" = some y → y.state = .settled →
        resolvedTransactionHash x = resolvedTransactionHash y → id = "pay" := by
  have hrun : (run (paid 80 2)).map (fun e => (e.state.executions.lookup "pay").map (·.state)) =
        some (some .settled) ∧
      AllSteps (step primitives config) (fun e i => i.Calls fun _ op => e.state.HashesApart op)
        (Engine.start config (ctx 0)) (paid 80 2) := by decide
  obtain ⟨e, he, hstate⟩ := map_eq_some_iff.mp hrun.1
  exact ⟨e, he, hstate, fun id x y hx hsx hy hsy heq =>
    (one_payment_per_transaction he hrun.2).1 id "pay" x y hx hy hsx hsy heq⟩

/-- Both observers report on the transaction of payment `p`, whose nonce is 7. -/
def Sample.outcomes (p : ExpectedExecution) (outcome : TransactionOutcomeEvidence) :
    List TransactionOutcomeEvidence :=
  quorum fun provider => { outcome with
    provider, chainID := 8453, originalTransactionHash := p.transactionHash, nonce := 7
    throughBlock := 85, throughBlockHash := hex32 3 }

/-- Payment `a` is found to be replaced by the transaction with hash `hex32 5`, under which
payment `b` is registered. Both settle. -/
def Sample.paidTwice : List Input :=
  resumed ++ [.call (ctx 2) (.registerBroadcast (payment "a" 4)),
    .call (ctx 3) (.recordTransactionOutcome "a" (outcomes (payment "a" 4)
      { provider := "", chainID := 0, originalTransactionHash := "", outcome := .originalPending
        nonce := 0, throughBlock := 0, throughBlockHash := "", accountNonce := 7 })),
    .call (ctx 4) (.recordTransactionOutcome "a" (outcomes (payment "a" 4)
      { provider := "", chainID := 0, originalTransactionHash := "", outcome := .expectedReplacement
        nonce := 0, throughBlock := 0, throughBlockHash := "", accountNonce := 8
        replacementTransactionHash := hex32 5, replacementRecipient := address 4
        replacementAmountAtomic := "5", replacementBlockNumber := 80
        replacementBlockHash := hex32 2 })), .call (ctx 5) (.registerBroadcast (payment "b" 5)),
    .call (ctx 6) (.reconcileReceipt "b" (receipts (payment "b" 5) 80 2)
      (some (settlement "entry-b" "b"))),
    .call (ctx 7) (.reconcileProvenReplacement "org" "a" "alice" (receipts (payment "b" 5) 80 2)
      (settlement "entry-a" "a"))]

/-- One transaction settles two payments. -/
theorem replacement_settles_twice : (run paidTwice).map (fun e =>
        ((e.state.executions.lookup "a").map fun x => (x.state, resolvedTransactionHash x),
          (e.state.executions.lookup "b").map fun x => (x.state, resolvedTransactionHash x))) =
      some (some (ExecutionState.settled, hex32 5), some (ExecutionState.settled, hex32 5)) := by
  decide +kernel

end

end FlowOps.Reconciliation

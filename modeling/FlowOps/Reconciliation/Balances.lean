import FlowOps.Reconciliation.Invariant

/-!
# Balances and the ledger

`applyLedger` adds the postings of a transaction to the balances and stores it under
its id. The balances are the sums over the stored transactions as long as no id is
applied twice (`Balanced.addAll`), but a settlement, a replacement or an escrow event
may apply a transaction that is stored already, as long as it is the same. The
second part is about corrections: `validateCorrection` compares the postings with
the original, but does not look for an earlier correction of it.

Results:
* `balances_equal_ledger`, with the run `resettled_counts_twice` outside its condition.
* `reversed_at_most_once`, with the run `posted_corrections_repeat` outside its condition.
-/

namespace FlowOps.Reconciliation

open List Option

variable {m : Ledger} {b : Balances} {ts : List LedgerTransaction} {callID : String}
  {u : EscrowTransition}

/-! ## Sums over the ledger -/

/-- The account's postings over the stored transactions of an organization. -/
def ledgerSum (m : Ledger) (org account : String) : ℤ :=
  m.sum fun _ t => if t.organizationID = org then postingSum account t.postings else 0

/-- The balances are the sums over the ledger. -/
def Balanced (m : Ledger) (b : Balances) : Prop :=
  ∀ org account, balanceOf b org account = ledgerSum m org account

lemma Balanced.insert {t : LedgerTransaction} (h : Balanced m b)
    (hfresh : m.lookup t.transactionID = none) :
    Balanced (m.insert t.transactionID t) (applyPostings b t) := by
  intro org account
  rw [balanceOf_applyPostings, h org account, ledgerSum, ledgerSum,
    Dict.sum_insert_of_lookup_none hfresh]
  ring

lemma Balanced.addAll (h : Balanced m b) (hfresh : ∀ t ∈ ts, m.lookup t.transactionID = none)
    (hdistinct : (ts.map (·.transactionID)).Nodup) :
    Balanced (m.addAll ts) (ts.foldl applyPostings b) := by
  induction ts generalizing m b with
  | nil => exact h
  | cons t ts ih =>
    obtain ⟨ht, hts⟩ := nodup_cons.mp hdistinct
    refine ih (h.insert (hfresh t (by simp))) (fun u hu => ?_) hts
    have hne : u.transactionID ≠ t.transactionID := fun he => ht (List.mem_map.mpr ⟨u, hu, he⟩)
    rw [AList.lookup_insert_ne hne]
    exact hfresh u (by simp [hu])

/-- Balanced transactions leave the sum of an organization's balances alone. -/
lemma sumBalances_foldl (h : ∀ t ∈ ts, t.Valid) (b : Balances)
    (org : String) : sumBalances (ts.foldl applyPostings b) org = sumBalances b org := by
  induction ts generalizing b with
  | nil => rfl
  | cons t ts ih =>
    rw [foldl_cons, ih (fun u hu => h u (by simp [hu])), sumBalances_applyPostings,
      (h t (by simp)).balanced]
    simp

/-! ## The transactions an operation applies -/

/-- The ids of the ledger transactions that an operation applies without asking
whether they are stored. `Post` and `ReopenReorg` do ask. -/
def State.appliedIDs (P : Primitives) (s : State) : Op → List String
  | .reconcileReceipt id _ (some t) =>
    if (s.executions.lookup id).any (fun x => x.state ≠ .settled && x.state ≠ .reverted &&
      x.state ≠ .quarantined) then [t.transactionID] else []
  | .reconcileProvenReplacement _ id _ _ t =>
    if (s.executions.lookup id).any (fun x => x.state = .quarantined) then [t.transactionID]
    else []
  | .reconcileEscrowTransition callID evidence =>
    ((s.escrowCalls.lookup callID).bind (·.pending)).elim [] fun p =>
      evidence.head?.elim [] fun r =>
        [derivedLedgerID P "escrow" [callID, p.expected.action.text, r.blockHash]]
  | .reopenEscrowReorg callID hash evidence =>
    evidence.head?.elim [] fun r => (s.correctable callID hash).map fun t =>
      derivedLedgerID P "escrow_correction"
        [callID, t.expected.transactionHash, t.ledgerTransactionID, r.canonicalBlockHash]
  | _ => []

/-- No transaction is applied under an id that is stored. -/
def State.LedgerFresh (P : Primitives) (s : State) (op : Op) : Prop :=
  ∀ id ∈ s.appliedIDs P op, s.ledger.lookup id = none
deriving Decidable

variable {P : Primitives} {cfg : Config} {s s' : State} {op : Op} {d : Draft}

section

variable {ctx : Ctx} {ev : JournalEvent}

lemma Writes.ledgers_distinct (hw : Writes P cfg ctx s op d) (hf : ev.Follows d)
    (hc : Changes P cfg s ev s') : (d.body.ledgers.map (·.transactionID)).Nodup := by
  cases hw with
  | settle | replace | reopenSettled | post => exact nodup_singleton _
  | escrowConfirm | escrowReorg =>
    have hchecked := checkEscrow_ok_iff.mp (hc.checked _ _ hf.body)
    exact (validateEscrowLedgerBindings_bound hchecked.bindings).1.distinct
  | _ => exact nodup_nil

lemma correction_ids {hash : String} {call : EscrowCall}
    {pre post removed : List EscrowTransition} {evidence : List ReorgEvidence}
    {changed : Bool} {canonical : ReorgEvidence} {ledgers : List LedgerTransaction}
    (hwf : s.WF P cfg)
    (checked : TransitionChecked cfg s (ctx.now 0) callID hash call pre u post evidence changed
      canonical)
    (loop : foldCheck (removeTransition P s.ledger call.intent canonical.canonicalBlockHash
      (ctx.now 0)) ([], []) (removedSuffix u post) = .ok (removed, ledgers)) :
    ∃ r, evidence.head? = some r ∧ ∀ t ∈ ledgers, ∃ v ∈ s.correctable callID hash,
      t.reversesTransactionID = v.ledgerTransactionID ∧
      t.transactionID = derivedLedgerID P "escrow_correction"
        [callID, v.expected.transactionHash, v.ledgerTransactionID, r.canonicalBlockHash] := by
  obtain ⟨r, hquorum, rfl⟩ := validateCanonicalBlockQuorum_ok_iff.mp checked.quorum
  refine ⟨r, hquorum.first, fun t ht => ?_⟩
  rw [(removeTransition_loop loop).2.1] at ht
  obtain ⟨v, hv, hcorr⟩ := mem_filterMap.mp ht
  obtain ⟨huncorrected, original, horiginal, rfl⟩ := correctionOf_eq_some hcorr
  have hid := (hwf.ledger _ _ horiginal).1
  have hcall := (hwf.call _ _ checked.stored).keyed
  refine ⟨v, ?_, hid, ?_⟩
  · rw [State.correctable, checked.escrowTransition]
    exact mem_filter.mpr ⟨hv, huncorrected⟩
  · simp only [reverseEscrowLedger, hid, hcall]

/-- What an operation applies is named by `appliedIDs`, or it checked the id. -/
lemma Writes.ledgers_fresh (hwf : s.WF P cfg) (hw : Writes P cfg ctx s op d)
    (hfresh : s.LedgerFresh P op) : ∀ t ∈ d.body.ledgers, s.ledger.lookup t.transactionID = none := by
  intro t ht
  cases hw with
  | @settle id evidence u e canonical accepted =>
    rw [mem_singleton.mp ht]
    refine hfresh _ ?_
    rw [State.appliedIDs, if_pos (by simp [accepted.stored, accepted.open_])]
    exact mem_singleton_self _
  | @replace org id operator evidence u e recovery canonical _ accepted =>
    rw [mem_singleton.mp ht]
    refine hfresh _ ?_
    rw [State.appliedIDs, if_pos (by simp [accepted.stored, accepted.state])]
    exact mem_singleton_self _
  | reopenSettled _ _ _ _ _ _ _ fresh | post _ fresh => rw [mem_singleton.mp ht]; exact fresh
  | @escrowConfirm callID evidence call pending canonical ledger accepted _ hledger =>
    rw [mem_toList.mp ht] at hledger
    obtain ⟨_, _, _, -, -, -, rfl⟩ := escrowLedger_eq_some hledger.symm
    have hfirst := (validateEscrowReceiptQuorum_ok_iff.mp accepted.quorum).first
    refine hfresh _ ?_
    rw [State.appliedIDs, accepted.stored, bind_some, accepted.awaited, hfirst,
      (hwf.call _ _ accepted.stored).keyed]
    exact mem_singleton_self _
  | @escrowReorg callID hash evidence call pre u post canonical removed ledgers reason checked loop =>
    obtain ⟨r, hr, hids⟩ := correction_ids hwf checked loop
    obtain ⟨v, hv, -, hid⟩ := hids t ht
    refine hfresh _ ?_
    rw [State.appliedIDs, hr]
    exact List.mem_map.mpr ⟨v, hv, hid.symm⟩
  | _ => cases ht

end

/-! ## Balances over a run -/

variable {ctx₀ : Ctx} {inputs : List Input} {e : Engine}

lemma reachable_zeroSum (hreach : Reachable P cfg e) (org : String) :
    sumBalances e.state.balances org = 0 := by
  have := reachable_state (P := P) (I := fun s => s.WF P cfg ∧ sumBalances s.balances org = 0)
    (fun s a r t h => ⟨h.1.stamp a r t, h.2⟩) (fun t => ⟨State.init_wf t, rfl⟩)
    (fun s ctx op d ev s' h hw hf ha => by
      have hc := apply_changes ha
      refine ⟨h.1.step hw hf ha, ?_⟩
      rw [hc.balances, sumBalances_foldl fun t ht => ((hw.fits h.1 hf hc).ledgers t ht).1]
      exact h.2)
    (fun s now ev s' h _ hf ha => by
      refine ⟨h.1.restart hf ha, ?_⟩
      rw [(apply_changes ha).balances, hf.body]
      exact h.2) hreach
  exact this.2

lemma run_balanced (hrun : runFrom (step P cfg) (Engine.start cfg ctx₀) inputs = some e)
    (hfresh : AllSteps (step P cfg) (fun e i => i.Calls fun _ op => e.state.LedgerFresh P op)
      (Engine.start cfg ctx₀) inputs) : Balanced e.state.ledger e.state.balances := by
  have := run_state (P := P) (I := fun s => s.WF P cfg ∧ Balanced s.ledger s.balances)
    (K := fun s _ op => s.LedgerFresh P op)
    (fun s a r t h => ⟨h.1.stamp a r t, h.2⟩) (fun s a r t _ op h => h)
    (fun t => ⟨State.init_wf t, fun _ _ => rfl⟩)
    (fun s ctx op d ev s' h hok hw hf ha => by
      have hc := apply_changes ha
      refine ⟨h.1.step hw hf ha, ?_⟩
      rw [hc.ledger, hc.balances, hf.body]
      exact h.2.addAll (hw.ledgers_fresh h.1 hok) (hw.ledgers_distinct hf hc))
    (fun s ctx op d ev s' htwo _ _ _ _ _ => by
      cases op <;> first | exact False.elim htwo | (intro id hid; cases hid))
    (fun s now ev s' h _ hf ha => by
      have hc := apply_changes ha
      refine ⟨h.1.restart hf ha, ?_⟩
      rw [hc.ledger, hc.balances, hf.body]
      exact h.2) hrun hfresh
  exact this.2

/-- An organization's balances always sum to zero. They are the sums over the stored
transactions if no transaction is applied under an id that is stored. -/
theorem balances_equal_ledger
    (hrun : runFrom (step P cfg) (Engine.start cfg ctx₀) inputs = some e) :
    (∀ org, sumBalances e.state.balances org = 0) ∧
      (AllSteps (step P cfg) (fun e i => i.Calls fun _ op => e.state.LedgerFresh P op)
          (Engine.start cfg ctx₀) inputs → ∀ org account, balanceOf e.state.balances org account =
          ledgerSum e.state.ledger org account) :=
  ⟨reachable_zeroSum ⟨ctx₀, inputs, hrun⟩, run_balanced hrun⟩

section

open Sample

theorem balances_equal_ledger_paid :
    ∃ e, run (paid 80 2) = some e ∧ balanceOf e.state.balances "org" "expense" = 5 ∧
      ∀ org account, balanceOf e.state.balances org account =
        ledgerSum e.state.ledger org account := by
  have hrun : (run (paid 80 2)).map (fun e => balanceOf e.state.balances "org" "expense") = some 5 ∧
      AllSteps (step primitives config) (fun e i => i.Calls fun _ op =>
        e.state.LedgerFresh primitives op) (Engine.start config (ctx 0)) (paid 80 2) := by
    decide
  obtain ⟨e, he, hbalance⟩ := map_eq_some_iff.mp hrun.1
  exact ⟨e, he, hbalance, (balances_equal_ledger he).2 hrun.2⟩

/-- A reorg removes the payment's block, its entry is reversed, and the payment settles
again with the same entry. -/
def Sample.resettled : List Input :=
  paid 80 2 ++ [.call (ctx 4) (.reopenReorg "pay" (quorum fun provider =>
      { provider, chainID := 8453, transactionHash := hex32 4, originalBlockNumber := 80
        originalBlockHash := hex32 2, canonicalBlockHash := hex32 3, observedHead := 100 })
      (correction "undo")), .call (ctx 5) (.reconcileReceipt "pay" (receipts (payment "pay" 4) 81 3)
      (some (settlement "entry" "pay")))]

/-- The entry is stored once and counted twice. -/
theorem resettled_counts_twice :
    (run resettled).map (fun e => (balanceOf e.state.balances "org" "expense",
      ledgerSum e.state.ledger "org" "expense")) = some (5, 0) := by
  decide +kernel

end

/-! ## Corrections over a run -/

/-- No stored transaction is reversed by two stored corrections. -/
def Ledger.ReversedOnce (m : Ledger) : Prop :=
  ∀ a b t u, m.lookup a = some t → m.lookup b = some u → t.kind = .correction →
    u.kind = .correction → t.reversesTransactionID = u.reversesTransactionID → a = b

/-- A stored correction reverses the transaction. -/
def Ledger.Reversed (m : Ledger) (id : String) : Prop :=
  ∃ a t, m.lookup a = some t ∧ t.kind = .correction ∧ t.reversesTransactionID = id

lemma Ledger.ReversedOnce.addAll (h : m.ReversedOnce)
    (hnew : ∀ t ∈ ts, t.kind = .correction → ¬m.Reversed t.reversesTransactionID)
    (hapart : ∀ t ∈ ts, ∀ u ∈ ts, t.kind = .correction → u.kind = .correction →
      t.reversesTransactionID = u.reversesTransactionID → t.transactionID = u.transactionID) :
    (m.addAll ts).ReversedOnce := by
  intro a b t u ht hu hkt hku heq
  rcases Ledger.lookup_addAll ht with ⟨ht', rfl⟩ | ht' <;>
    rcases Ledger.lookup_addAll hu with ⟨hu', rfl⟩ | hu'
  · exact hapart t ht' u hu' hkt hku heq
  · exact absurd ⟨b, u, hu', hku, heq.symm⟩ (hnew t ht' hkt)
  · exact absurd ⟨a, t, ht', hkt, heq⟩ (hnew u hu' hku)
  · exact h a b t u ht' hu' hkt hku heq

/-- The transactions that an operation's corrections reverse. -/
def State.reversals (s : State) : Op → List String
  | .post t =>
    if t.kind = .correction ∧ s.ledger.lookup t.transactionID = none then [t.reversesTransactionID]
    else []
  | .reopenReorg id _ correction =>
    if (s.executions.lookup id).any (fun x => x.state = .settled) then
      [correction.reversesTransactionID]
    else []
  | .reopenEscrowReorg callID hash _ => (s.correctable callID hash).map (·.ledgerTransactionID)
  | _ => []

/-- No transaction is reversed that a stored correction reverses. -/
def State.ReversesNew (s : State) (op : Op) : Prop :=
  ∀ id ∈ s.reversals op, Dict.All (fun _ t =>
    t.kind = .correction → t.reversesTransactionID ≠ id) s.ledger
deriving Decidable

lemma State.ReversesNew.not_reversed {s : State} {op : Op} (h : s.ReversesNew op) {id : String}
    (hid : id ∈ s.reversals op) : ¬s.ledger.Reversed id := by
  rintro ⟨a, t, ht, hk, heq⟩
  exact Dict.all_iff.mp (h id hid) a t ht hk heq

section

variable {ctx : Ctx}

lemma State.WF.correctable_apart (hwf : s.WF P cfg) {hash : String}
    {v : EscrowTransition} (hu : u ∈ s.correctable callID hash)
    (hv : v ∈ s.correctable callID hash) (heq : u.ledgerTransactionID = v.ledgerTransactionID) :
    u = v := by
  unfold State.correctable at hu hv
  cases hfound : s.escrowTransition callID hash with
  | none => rw [hfound] at hu; cases hu
  | some found =>
    obtain ⟨call, pre, t, post⟩ := found
    rw [hfound] at hu hv
    obtain ⟨hu, hopen⟩ := mem_filter.mp hu
    obtain ⟨hv, -⟩ := mem_filter.mp hv
    obtain ⟨hstored, hsplit⟩ := State.escrowTransition_eq_some.mp hfound
    have hmem : ∀ x ∈ removedSuffix t post, x ∈ call.transitions := by
      intro x hx
      rw [(splitTransitions_eq_some hsplit).1, ← removed_append_kept t post]
      simp [hx]
    have : Std.Symm fun a b : EscrowTransition =>
        a.ledgerTransactionID ≠ "" → a.ledgerTransactionID ≠ b.ledgerTransactionID :=
      ⟨fun a b hab hb he => hab (he ▸ hb) he.symm⟩
    by_contra hne
    refine (hwf.call _ _ hstored).ledgers_distinct.forall (hmem u hu) (hmem v hv) hne ?_ heq
    simp only [EscrowTransition.uncorrected, Bool.and_eq_true, decide_eq_true_eq] at hopen
    exact hopen.1

/-- The corrections an operation writes reverse what `reversals` names. -/
lemma Writes.mem_reversals (hwf : s.WF P cfg) (hw : Writes P cfg ctx s op d) :
    ∀ t ∈ d.body.ledgers, t.kind = .correction → t.reversesTransactionID ∈ s.reversals op := by
  intro t ht hkind
  cases hw with
  | settle _ _ settlement =>
    rw [mem_singleton.mp ht, (State.checkSettlement_ok settlement).1.1] at hkind
    cases hkind
  | replace _ accepted =>
    rw [mem_singleton.mp ht, (State.checkSettlement_ok accepted.settlement).1.1] at hkind
    cases hkind
  | reopenSettled accepted hstate =>
    rw [mem_singleton.mp ht, State.reversals, if_pos (by simp [accepted.stored, hstate])]
    exact mem_singleton_self _
  | post _ fresh =>
    obtain rfl := mem_singleton.mp ht
    rw [State.reversals, if_pos ⟨hkind, fresh⟩]
    exact mem_singleton_self _
  | escrowConfirm _ _ hledger =>
    rw [mem_toList.mp ht] at hledger
    obtain ⟨kind, _, _, hk, -, -, rfl⟩ := escrowLedger_eq_some hledger.symm
    rcases hk with rfl | rfl | rfl <;> cases hkind
  | escrowReorg checked loop =>
    obtain ⟨r, -, hids⟩ := correction_ids hwf checked loop
    obtain ⟨v, hv, hreverses, -⟩ := hids t ht
    exact List.mem_map.mpr ⟨v, hv, hreverses.symm⟩
  | _ => cases ht

lemma Writes.reversals_apart (hwf : s.WF P cfg) (hw : Writes P cfg ctx s op d) :
    ∀ t ∈ d.body.ledgers, ∀ u ∈ d.body.ledgers,
      t.reversesTransactionID = u.reversesTransactionID → t.transactionID = u.transactionID := by
  intro t ht u hu heq
  cases hw with
  | settle | replace | reopenSettled | post =>
    rw [mem_singleton.mp ht, mem_singleton.mp hu]
  | escrowConfirm =>
    rw [some_inj.mp ((mem_toList.mp ht).symm.trans (mem_toList.mp hu))]
  | escrowReorg checked loop =>
    obtain ⟨r, -, hids⟩ := correction_ids hwf checked loop
    obtain ⟨v, hv, hrv, hidt⟩ := hids t ht
    obtain ⟨w, hw, hrw, hidu⟩ := hids u hu
    obtain rfl := hwf.correctable_apart hv hw (hrv.symm.trans (heq.trans hrw))
    exact hidt.trans hidu.symm
  | _ => cases ht

end

/-- A transaction is reversed at most once if no operation reverses a transaction
that a stored correction reverses. -/
theorem reversed_at_most_once (hrun : runFrom (step P cfg) (Engine.start cfg ctx₀) inputs = some e)
    (hnew : AllSteps (step P cfg) (fun e i => i.Calls fun _ op => e.state.ReversesNew op)
      (Engine.start cfg ctx₀) inputs) {a b : String} {t u : LedgerTransaction}
    (ht : e.state.ledger.lookup a = some t) (hu : e.state.ledger.lookup b = some u)
    (hkt : t.kind = .correction) (hku : u.kind = .correction)
    (heq : t.reversesTransactionID = u.reversesTransactionID) : a = b := by
  have := run_state (P := P) (I := fun s => s.WF P cfg ∧ s.ledger.ReversedOnce)
    (K := fun s _ op => s.ReversesNew op)
    (fun s a r t h => ⟨h.1.stamp a r t, h.2⟩) (fun s a r t _ op h => h)
    (fun t => ⟨State.init_wf t, fun _ _ _ _ h => by cases h⟩)
    (fun s ctx op d ev s' h hok hw hf ha => by
      refine ⟨h.1.step hw hf ha, ?_⟩
      rw [(apply_changes ha).ledger, hf.body]
      exact h.2.addAll (fun t ht hk => hok.not_reversed (hw.mem_reversals h.1 t ht hk))
        fun t ht u hu _ _ heq => hw.reversals_apart h.1 t ht u hu heq)
    (fun s ctx op d ev s' htwo _ _ _ _ _ => by
      cases op <;> first | exact False.elim htwo | (intro id hid; cases hid))
    (fun s now ev s' h _ hf ha => by
      refine ⟨h.1.restart hf ha, ?_⟩
      rw [(apply_changes ha).ledger, hf.body]
      exact h.2) hrun hnew
  exact this.2 a b t u ht hu hkt hku heq

section

open Sample

/-- The payment's entry is reversed by hand, once. -/
theorem reversed_at_most_once_posted :
    ∃ e, run (paid 80 2 ++ [.call (ctx 4) (.post (correction "undo"))]) = some e ∧
      e.state.ledger.lookup "undo" = some (correction "undo") ∧
      ∀ id u, e.state.ledger.lookup id = some u → u.kind = .correction →
        u.reversesTransactionID = "entry" → id = "undo" := by
  have hrun : (run (paid 80 2 ++ [.call (ctx 4) (.post (correction "undo"))])).map
        (fun e => e.state.ledger.lookup "undo") = some (some (correction "undo")) ∧
      AllSteps (step primitives config) (fun e i => i.Calls fun _ op => e.state.ReversesNew op)
        (Engine.start config (ctx 0)) (paid 80 2 ++ [.call (ctx 4) (.post (correction "undo"))]) := by
    decide +kernel
  obtain ⟨e, he, hstored⟩ := map_eq_some_iff.mp hrun.1
  exact ⟨e, he, hstored, fun id u hu hk heq =>
    reversed_at_most_once he hrun.2 hu hstored hk rfl heq⟩

/-- Two corrections of the payment's entry are posted. -/
theorem posted_corrections_repeat : (run (paid 80 2 ++ [.call (ctx 4) (.post (correction "undo")),
      .call (ctx 5) (.post (correction "again"))])).map (fun e =>
        (e.state.ledger.lookup "undo", e.state.ledger.lookup "again")) =
      some (some (correction "undo"), some (correction "again")) := by
  decide +kernel

end

end FlowOps.Reconciliation

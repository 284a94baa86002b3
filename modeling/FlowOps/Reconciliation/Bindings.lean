import FlowOps.Reconciliation.EscrowOperations

/-!
# Escrow calls and the ledger

`validateEscrowLedgerBindings` as a property: the transactions an event adds are
valid, bound to the call and new or already stored, and every transition names
ledger entries that match it (`EscrowTransition.Bound`).

Results:
* `validateEscrowLedgerBindings_bound`, `validateEscrowLedgerBindings_ok`: the check
  guarantees the property, and follows from it.
* `escrowLedger_valid`, `reverseEscrowLedger_valid`: the transactions the escrow
  operations derive are valid.
-/

namespace FlowOps.Reconciliation

open List

/-- The ledger entries a transition names are stored and match it. -/
structure EscrowTransition.Bound (P : Primitives) (intent : EscrowIntent) (m : Ledger)
    (t : EscrowTransition) : Prop where
  posted : t.ledgerTransactionID ≠ "" → ∃ x, m.lookup t.ledgerTransactionID = some x ∧
    t.resolvedAt = some x.recordedAt ∧ escrowLedger P intent t x.recordedAt = some x
  corrected : t.correctionTransactionID ≠ "" → ∃ x o,
    m.lookup t.correctionTransactionID = some x ∧ m.lookup t.ledgerTransactionID = some o ∧
      x.kind = .correction ∧ x.organizationID = intent.organizationID ∧
      x.referenceID = intent.callID ∧ x.reversesTransactionID = o.transactionID ∧
      inversePostings o.postings x.postings

/-- What the loop over the added transactions asks. -/
structure Additions (intent : EscrowIntent) (eventAt : Time) (m : Ledger)
    (ts : List LedgerTransaction) : Prop where
  valid : ∀ t ∈ ts, t.validate = .ok () ∧ t.organizationID = intent.organizationID ∧
    t.referenceID = intent.callID ∧ t.recordedAt = eventAt
  agree : ∀ t ∈ ts, ∀ prior, m.lookup t.transactionID = some prior → prior = t
  distinct : (ts.map (·.transactionID)).Nodup

variable {P : Primitives} {intent : EscrowIntent} {t : EscrowTransition}

section

variable {eventAt : Time} {m m' : Ledger} {r r' added added' : List String}
  {ts : List LedgerTransaction}

lemma EscrowTransition.Bound.mono (h : t.Bound P intent m)
    (hext : ∀ id x, m.lookup id = some x → m'.lookup id = some x) : t.Bound P intent m' where
  posted := fun hl => by
    obtain ⟨x, hx, hrest⟩ := h.posted hl
    exact ⟨x, hext _ x hx, hrest⟩
  corrected := fun hc => by
    obtain ⟨x, o, hx, ho, hrest⟩ := h.corrected hc
    exact ⟨x, o, hext _ x hx, hext _ o ho, hrest⟩

lemma addLedgers_ok_iff : foldCheck (addLedgers intent eventAt) (m, added) ts = .ok (m', added') ↔
      Additions intent eventAt m ts ∧ (∀ t ∈ ts, t.transactionID ∉ added) ∧
        m' = m.addAll ts ∧ added' = (ts.map (·.transactionID)).reverse ++ added := by
  induction ts generalizing m added with
  | nil =>
    simp only [foldCheck_nil, ok_pair_eq]
    constructor
    · rintro ⟨rfl, rfl⟩
      exact ⟨⟨by simp, by simp, by simp⟩, by simp, rfl, rfl⟩
    · rintro ⟨-, -, rfl, rfl⟩
      exact ⟨rfl, rfl⟩
  | cons x ts ih =>
    have hstep : addLedgers intent eventAt (m, added) x =
        .ok (m.insert x.transactionID x, x.transactionID :: added) ↔
        (x.validate = .ok () ∧ x.organizationID = intent.organizationID ∧
          x.referenceID = intent.callID ∧ x.recordedAt = eventAt) ∧
        (∀ prior, m.lookup x.transactionID = some prior → prior = x) ∧
        x.transactionID ∉ added := by
      simp only [addLedgers, guard_ok, not_or, not_not, and_true]
      refine and_congr_right fun _ => and_congr ?_ (by simp)
      cases m.lookup x.transactionID <;> simp
    have hresult : ∀ a, addLedgers intent eventAt (m, added) x = .ok a →
        a = (m.insert x.transactionID x, x.transactionID :: added) := by
      intro a ha
      simp only [addLedgers, guard_ok, Except.ok.injEq] at ha
      exact ha.2.2.2.symm
    rw [foldCheck_cons_ok]
    constructor
    · rintro ⟨a, ha, hrest⟩
      obtain rfl := hresult a ha
      obtain ⟨hvalid, hagree, hnew⟩ := hstep.mp ha
      obtain ⟨hadd, hfresh, rfl, rfl⟩ := ih.mp hrest
      have hne : ∀ y ∈ ts, y.transactionID ≠ x.transactionID := fun y hy he =>
        hfresh y hy (by simp [he])
      refine ⟨⟨?_, ?_, ?_⟩, ?_, rfl, by simp⟩
      · rintro y (_ | ⟨_, hy⟩)
        · exact hvalid
        · exact hadd.valid y hy
      · rintro y (_ | ⟨_, hy⟩)
        · exact hagree
        · intro prior hprior
          refine hadd.agree y hy prior ?_
          rw [AList.lookup_insert_ne (hne y hy)]
          exact hprior
      · refine nodup_cons.mpr ⟨?_, hadd.distinct⟩
        rw [mem_map]
        rintro ⟨y, hy, he⟩
        exact hne y hy he
      · rintro y (_ | ⟨_, hy⟩)
        · exact hnew
        · exact fun hmem => hfresh y hy (by simp [hmem])
    · rintro ⟨hadd, hfresh, rfl, rfl⟩
      obtain ⟨hx, hts⟩ := nodup_cons.mp hadd.distinct
      have hne : ∀ y ∈ ts, y.transactionID ≠ x.transactionID := fun y hy he =>
        hx (mem_map.mpr ⟨y, hy, he⟩)
      refine ⟨_, hstep.mpr ⟨hadd.valid x (by simp), hadd.agree x (by simp), hfresh x (by simp)⟩,
        ih.mpr ⟨⟨fun y hy => hadd.valid y (by simp [hy]), ?_, hts⟩, ?_, rfl, by simp⟩⟩
      · intro y hy prior hprior
        rw [AList.lookup_insert_ne (hne y hy)] at hprior
        exact hadd.agree y (by simp [hy]) prior hprior
      · intro y hy hmem
        rcases mem_cons.mp hmem with he | hmem
        · exact hne y hy he
        · exact hfresh y (by simp [hy]) hmem

lemma bindLedger_ok (h : bindLedger P intent m t r = .ok r') :
    t.ledgerTransactionID ≠ "" → ∃ x, m.lookup t.ledgerTransactionID = some x ∧
      t.resolvedAt = some x.recordedAt ∧ escrowLedger P intent t x.recordedAt = some x := by
  intro hl
  rw [bindLedger, if_neg hl] at h
  split at h
  · cases h
  · rename_i x hx
    simp only [guard_ok, not_not] at h
    exact ⟨x, hx, h.1, h.2.1⟩

lemma bindCorrection_ok (h : bindCorrection intent m t r = .ok r') :
    t.correctionTransactionID ≠ "" → ∃ x o,
      m.lookup t.correctionTransactionID = some x ∧ m.lookup t.ledgerTransactionID = some o ∧
        x.kind = .correction ∧ x.organizationID = intent.organizationID ∧
        x.referenceID = intent.callID ∧ x.reversesTransactionID = o.transactionID ∧
        inversePostings o.postings x.postings := by
  intro hc
  rw [bindCorrection, if_neg hc] at h
  split at h
  · rename_i x o hx ho
    obtain ⟨hall, -⟩ := guard_ok.mp h
    push Not at hall
    exact ⟨x, o, hx, ho, hall.1, hall.2.1, hall.2.2.1, hall.2.2.2.1, by simpa using hall.2.2.2.2⟩
  · cases h

/-- Every bound transition passes the loop, which collects the ids it names. -/
lemma bindTransition_of_bound (hkeyed : ∀ id x, m.lookup id = some x → x.transactionID = id)
    (h : t.Bound P intent m) : ∃ r', bindTransition P intent m r t = .ok r' ∧
      (∀ id ∈ r, id ∈ r') ∧ (t.ledgerTransactionID ≠ "" → t.ledgerTransactionID ∈ r') ∧
      (t.correctionTransactionID ≠ "" → t.correctionTransactionID ∈ r') := by
  have hfirst : ∃ r₁, bindLedger P intent m t r = .ok r₁ ∧ (∀ id ∈ r, id ∈ r₁) ∧
      (t.ledgerTransactionID ≠ "" → t.ledgerTransactionID ∈ r₁) := by
    unfold bindLedger
    by_cases hl : t.ledgerTransactionID = ""
    · rw [if_pos hl]
      exact ⟨r, rfl, fun _ h => h, fun h => absurd hl h⟩
    · obtain ⟨x, hx, hres, hesc⟩ := h.posted hl
      rw [if_neg hl, hx]
      simp only [hres, hesc, ne_eq, not_true_eq_false, if_false]
      exact ⟨_, rfl, fun _ h => by simp [h], fun _ => by simp [hkeyed _ x hx]⟩
  obtain ⟨r₁, h₁, hsub, hmem⟩ := hfirst
  unfold bindTransition
  rw [h₁]
  show ∃ r', bindCorrection intent m t r₁ = .ok r' ∧ _
  unfold bindCorrection
  by_cases hc : t.correctionTransactionID = ""
  · rw [if_pos hc]
    exact ⟨r₁, rfl, hsub, hmem, fun h => absurd hc h⟩
  · obtain ⟨x, o, hx, ho, hk, horg, href, hrev, hinv⟩ := h.corrected hc
    rw [if_neg hc, hx, ho]
    simp only [hk, horg, href, hrev, hinv, ne_eq, not_true_eq_false, Bool.true_eq_false, or_self,
      if_false]
    exact ⟨_, rfl, fun id hid => by simp [hsub id hid], fun hl => by simp [hmem hl],
      fun _ => by simp [hkeyed _ x hx]⟩

lemma bindTransitions_of_bound {ts : List EscrowTransition}
    (hkeyed : ∀ id x, m.lookup id = some x → x.transactionID = id)
    (h : ∀ t ∈ ts, t.Bound P intent m) : ∃ r', foldCheck (bindTransition P intent m) r ts = .ok r' ∧
      (∀ id ∈ r, id ∈ r') ∧ ∀ t ∈ ts, (t.ledgerTransactionID ≠ "" → t.ledgerTransactionID ∈ r') ∧
        (t.correctionTransactionID ≠ "" → t.correctionTransactionID ∈ r') := by
  induction ts generalizing r with
  | nil => exact ⟨r, rfl, fun _ h => h, by simp⟩
  | cons t ts ih =>
    obtain ⟨r₁, h₁, hsub₁, hl, hc⟩ := bindTransition_of_bound (r := r) hkeyed (h t (by simp))
    obtain ⟨r₂, h₂, hsub₂, hall⟩ := ih (r := r₁) fun u hu => h u (by simp [hu])
    refine ⟨r₂, foldCheck_cons_ok.mpr ⟨r₁, h₁, h₂⟩, fun id hid => hsub₂ id (hsub₁ id hid), ?_⟩
    rintro u (_ | ⟨_, hu⟩)
    · exact ⟨fun h => hsub₂ _ (hl h), fun h => hsub₂ _ (hc h)⟩
    · exact hall u hu

lemma bound_of_bindTransitions {ts : List EscrowTransition}
    (h : foldCheck (bindTransition P intent m) r ts = .ok r') : ∀ t ∈ ts, t.Bound P intent m := by
  induction ts generalizing r with
  | nil => simp
  | cons t ts ih =>
    obtain ⟨r₁, h₁, h₂⟩ := foldCheck_cons_ok.mp h
    obtain ⟨r₂, hl, hc⟩ := bind_eq_ok.mp h₁
    rintro u (_ | ⟨_, hu⟩)
    · exact ⟨bindLedger_ok hl, bindCorrection_ok hc⟩
    · exact ih h₂ u hu

lemma validateEscrowLedgerBindings_bound {call : EscrowCall}
    (h : validateEscrowLedgerBindings P call ts m eventAt = .ok ()) :
    Additions call.intent eventAt m ts ∧
      ∀ t ∈ call.transitions, t.Bound P call.intent (m.addAll ts) := by
  simp only [validateEscrowLedgerBindings, bind_eq_ok] at h
  obtain ⟨⟨m', added⟩, hadd, r, hbind, -⟩ := h
  obtain ⟨hadditions, -, rfl, -⟩ := addLedgers_ok_iff.mp hadd
  exact ⟨hadditions, bound_of_bindTransitions hbind⟩

lemma validateEscrowLedgerBindings_ok {call : EscrowCall}
    (hadd : Additions call.intent eventAt m ts)
    (hkeyed : ∀ id x, m.lookup id = some x → x.transactionID = id)
    (hbound : ∀ t ∈ call.transitions, t.Bound P call.intent (m.addAll ts))
    (hnamed : ∀ x ∈ ts, ∃ t ∈ call.transitions, x.transactionID ≠ "" ∧
      (t.ledgerTransactionID = x.transactionID ∨ t.correctionTransactionID = x.transactionID)) :
    validateEscrowLedgerBindings P call ts m eventAt = .ok () := by
  have hkeyed' : ∀ id x, (m.addAll ts).lookup id = some x → x.transactionID = id := by
    intro id x hx
    rcases Ledger.lookup_addAll hx with ⟨-, hid⟩ | hx
    · exact hid
    · exact hkeyed id x hx
  obtain ⟨r, hr, -, hrefs⟩ := bindTransitions_of_bound (r := []) hkeyed' hbound
  unfold validateEscrowLedgerBindings
  rw [bind_eq_ok]
  refine ⟨_, addLedgers_ok_iff.mpr ⟨hadd, by simp, rfl, rfl⟩, ?_⟩
  rw [bind_eq_ok]
  refine ⟨r, hr, ?_⟩
  rw [if_neg]
  rw [Bool.not_eq_false, all_eq_true]
  intro id hid
  simp only [append_nil, mem_reverse, mem_map] at hid
  obtain ⟨x, hx, rfl⟩ := hid
  obtain ⟨t, ht, hne, hnames⟩ := hnamed x hx
  obtain ⟨hl, hc⟩ := hrefs t ht
  rw [contains_iff_mem]
  rcases hnames with he | he
  · rw [← he] at hne ⊢; exact hl hne
  · rw [← he] at hne ⊢; exact hc hne

end

/-! ## Derived transactions -/

section

variable {now : Time} {x : LedgerTransaction}

lemma EscrowIntent.validate_ok {Q : Crypto} (h : intent.validate Q = .ok ()) :
    identifierPattern intent.organizationID ∧ hashPattern intent.callID ∧
      positiveInteger intent.amountAtomic := by
  simp only [validate, guard_ok, Bool.not_eq_false] at h
  obtain ⟨hids, hhashes, -, -, -, hamount, -⟩ := h
  simp only [all_cons, Bool.and_eq_true, nonZeroHash] at hids hhashes
  exact ⟨hids.1, hhashes.2.1.1, hamount⟩

lemma derivedLedgerID_escrow (inputs : List String) :
    identifierPattern (derivedLedgerID P "escrow" inputs) := by
  have hname : identifierPattern ("escrow" ++ "_") := by decide
  exact identifierPattern_append_hex hname (by decide) (P.ledgerSHA256 inputs)

lemma derivedLedgerID_correction (inputs : List String) :
    identifierPattern (derivedLedgerID P "escrow_correction" inputs) := by
  have hname : identifierPattern ("escrow_correction" ++ "_") := by decide
  exact identifierPattern_append_hex hname (by decide) (P.ledgerSHA256 inputs)

lemma transfer_balanced {amount credit debit : String} (h : positiveInteger amount)
    (hcredit : identifierPattern credit) (hdebit : identifierPattern debit) :
    (∀ p ∈ [Posting.mk credit amount, ⟨debit, "-" ++ amount⟩], identifierPattern p.account ∧
        ∃ n, signedInteger p.amountAtomic = some n) ∧
      postingTotal [⟨credit, amount⟩, ⟨debit, "-" ++ amount⟩] = 0 := by
  have h₁ := signedInteger_of_positive h
  have h₂ := signedInteger_neg_of_positive h
  refine ⟨?_, ?_⟩
  · intro p hp
    rcases mem_pair.mp hp with rfl | rfl
    · exact ⟨hcredit, _, h₁⟩
    · exact ⟨hdebit, _, h₂⟩
  · simp [postingTotal, amountOf, (signedInteger_canonical h₁).2, (signedInteger_canonical h₂).2]

lemma escrowLedger_eq_some (h : escrowLedger P intent t now = some x) :
    ∃ kind credit debit, (kind = .funding ∨ kind = .settlement ∨ kind = .refund) ∧
      identifierPattern credit ∧ identifierPattern debit ∧
      x = { transactionID := derivedLedgerID P "escrow"
              [intent.callID, t.expected.action.text, t.blockHash]
            organizationID := intent.organizationID, kind, referenceID := intent.callID
            postings := [⟨credit, intent.amountAtomic⟩, ⟨debit, "-" ++ intent.amountAtomic⟩]
            recordedAt := now } := by
  unfold escrowLedger at h
  cases ha : t.expected.action <;> simp only [ha, Option.some.injEq, reduceCtorEq] at h
  · exact ⟨_, _, _, .inl rfl, by decide, by decide, h.symm⟩
  · exact ⟨_, _, _, .inr (.inl rfl), by decide, by decide, h.symm⟩
  · exact ⟨_, _, _, .inr (.inr rfl), by decide, by decide, h.symm⟩

lemma escrowLedger_action {u : EscrowTransition} {now' : Time}
    (h : escrowLedger P intent t now = some x) (h' : escrowLedger P intent u now' = some x) :
    t.expected.action = u.expected.action := by
  unfold escrowLedger at h h'
  cases ha : t.expected.action <;> cases hb : u.expected.action <;>
    simp only [ha, hb, Option.some.injEq, reduceCtorEq] at h h' ⊢ <;> rw [← h] at h' <;>
    simp at h'

lemma escrowLedger_valid (hintent : intent.validate P.toCrypto = .ok ())
    (hzero : now.isZero = false) (h : escrowLedger P intent t now = some x) :
    x.Valid ∧ x.organizationID = intent.organizationID ∧ x.referenceID = intent.callID ∧
      x.recordedAt = now := by
  obtain ⟨horg, hcall, hamount⟩ := EscrowIntent.validate_ok hintent
  obtain ⟨kind, credit, debit, hkind, hcredit, hdebit, rfl⟩ := escrowLedger_eq_some h
  obtain ⟨hpostings, htotal⟩ := transfer_balanced hamount hcredit hdebit
  refine ⟨⟨⟨derivedLedgerID_escrow _, horg, identifierPattern_of_hashPattern hcall⟩, ?_, ?_,
    hpostings, htotal, hzero⟩, rfl, rfl, rfl⟩
  · rcases hkind with rfl | rfl | rfl <;> rintro name ⟨⟩
  · exact ⟨le_rfl, by simp⟩

lemma reverseEscrowLedger_valid {m : Ledger} {original : LedgerTransaction} {hash : String}
    (hintent : intent.validate P.toCrypto = .ok ()) (hzero : now.isZero = false)
    (hvalid : original.Valid) (hstored : m.lookup original.transactionID = some original)
    (horg : original.organizationID = intent.organizationID) :
    (reverseEscrowLedger P intent t original hash now).Valid ∧
      validateCorrection m (reverseEscrowLedger P intent t original hash now) = .ok () := by
  obtain ⟨hid, hcall, -⟩ := EscrowIntent.validate_ok hintent
  refine ⟨hvalid.reverse ⟨derivedLedgerID_correction _, hid,
      identifierPattern_of_hashPattern hcall⟩ rfl rfl hzero,
    validateCorrection_reverse hvalid hstored (identifierPattern_ne_empty hvalid.ids.1) horg rfl⟩

end

end FlowOps.Reconciliation

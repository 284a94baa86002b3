import FlowOps.Reconciliation.Acceptance

/-!
# Accepted events of escrow calls

The events of escrow_durable.go against the checks of `apply`: the snapshot, the
evolution from the stored call and the ledger bindings. Registrations and receipts are
always accepted while the clock does not go back. Two operations write events that
`apply` may reject: `ConfirmEscrowFinality` for a call with a pending transition, which
the evolution check takes for a receipt, and `ReopenEscrowReorg` when the suffix of a
confirmed transition holds one that was removed before, or when the id of a correction
is taken.

Results:
* `EscrowChecked.intent`, `.pending`, `.reverted`, `.confirmed`, `.finality`, `.removal`:
  the events that `apply` accepts.
* `finality_rejected`, `removal_rejected`: the events that it rejects.
* `Writes.accepted`: `apply` accepts what an operation writes if `State.Replayable` holds.
-/

namespace FlowOps.Reconciliation

open List

variable {state : EscrowPositionState} {u : EscrowTransition}

/-! ## Times -/

/-- No time recorded in the call is after `t`. -/
structure EscrowCall.RecordedBy (t : ℤ) (c : EscrowCall) : Prop where
  registered : c.registeredAt.ns ≤ t
  resolved : ∀ u ∈ c.transitions, ∀ r, u.resolvedAt = some r → r.ns ≤ t
  pending : ∀ p, c.pending = some p → p.registeredAt.ns ≤ t

/-- No time recorded in a stored call is after `t`. -/
def State.RecordedBy (t : ℤ) (s : State) : Prop :=
  ∀ id c, s.escrowCalls.lookup id = some c → c.RecordedBy t

variable {P : Primitives} {cfg : Config} {ctx : Ctx} {s : State} {op : Op} {d : Draft}
  {ev : JournalEvent}

section

variable {s' : State} {t t' : ℤ} {c : EscrowCall}

lemma EscrowCall.RecordedBy.mono (h : c.RecordedBy t) (hle : t ≤ t') : c.RecordedBy t' :=
  ⟨h.registered.trans hle, fun u hu r hr => (h.resolved u hu r hr).trans hle,
    fun p hp => (h.pending p hp).trans hle⟩

lemma State.RecordedBy.mono (h : s.RecordedBy t) (hle : t ≤ t') : s.RecordedBy t' :=
  fun id c hc => (h id c hc).mono hle

lemma EscrowCall.RecordedBy.markPending (h : c.RecordedBy t) : c.markPending.RecordedBy t := by
  refine ⟨h.registered, h.resolved, fun p hp => ?_⟩
  obtain ⟨q, hq, rfl⟩ := Option.map_eq_some_iff.mp hp
  have := h.pending q hq
  split_ifs <;> exact this

lemma EscrowCall.RecordedBy.resolve (h : c.RecordedBy t) {now : Time}
    (hu : u.resolvedAt = some now) (hnow : now.ns ≤ t) :
    (c.resolve state u).RecordedBy t := by
  refine ⟨h.registered, fun v hv r hr => ?_, by rintro p ⟨⟩⟩
  rcases mem_append.mp hv with hv | hv
  · exact h.resolved v hv r hr
  · rw [mem_singleton.mp hv, hu] at hr
    cases hr
    exact hnow

lemma removeTransition_resolvedAt {ledger : Ledger} {intent : EscrowIntent} {hash : String}
    {now : Time} {items removed : List EscrowTransition} {ledgers : List LedgerTransaction}
    (h : foldCheck (removeTransition P ledger intent hash now) ([], []) items =
      .ok (removed, ledgers)) : ∀ u ∈ removed, ∃ v ∈ items, u.resolvedAt = v.resolvedAt := by
  intro u hu
  rw [(removeTransition_loop h).1] at hu
  obtain ⟨v, hv, rfl⟩ := mem_map.mp hu
  exact ⟨v, hv, rfl⟩

/-- A call that is written records nothing after the readings of its operation. -/
lemma Writes.recorded (hw : Writes P cfg ctx s op d) (h : s.RecordedBy (ctx.clock 1).ns)
    (hmono : ctx.Monotone) {c : EscrowCall} (hc : d.body.call = some c) :
    c.RecordedBy (ctx.clock 1).ns := by
  have hnow : (ctx.now 0).ns ≤ (ctx.clock 1).ns := hmono.1
  cases hw with
  | escrowIntent => cases hc; exact ⟨hnow, by rintro u ⟨⟩, by rintro p ⟨⟩⟩
  | @escrowPending op org callID candidate attestation now call expected hop new =>
    cases hc
    have hcall := h _ _ new.stored
    have hle : now.ns ≤ (ctx.clock 1).ns := by
      cases op <;> cases hop
      · exact le_rfl
      · exact hnow
    refine ⟨hcall.registered, hcall.resolved, ?_⟩
    rintro p ⟨⟩
    unfold State.newPending
    split_ifs <;> exact hle
  | escrowRevert accepted | escrowConfirm accepted =>
    cases hc; exact (h _ _ accepted.stored).resolve rfl hnow
  | @escrowFinality callID hash evidence call pre u post canonical checked =>
    cases hc
    have hcall := h _ _ checked.stored
    have hsplit := (splitTransitions_eq_some checked.split).1
    refine ⟨hcall.registered, fun v hv r hr => ?_, hcall.pending⟩
    rcases mem_append.mp hv with hv | hv
    · exact hcall.resolved v (by rw [hsplit]; simp [hv]) r hr
    · rcases mem_cons.mp hv with rfl | hv
      · exact hcall.resolved u (by rw [hsplit]; simp) r hr
      · exact hcall.resolved v (by rw [hsplit]; simp [hv]) r hr
  | @escrowReorg callID hash evidence call pre u post canonical removed ledgers reason checked loop =>
    cases hc
    have hcall := h _ _ checked.stored
    have hsplit := (splitTransitions_eq_some checked.split).1
    rw [← removed_append_kept u post] at hsplit
    refine ⟨hcall.registered, fun v hv r hr => ?_, by rintro p ⟨⟩⟩
    rcases mem_append.mp hv with hv | hv
    · rcases mem_append.mp hv with hv | hv
      · exact hcall.resolved v (by rw [hsplit]; simp [hv]) r hr
      · obtain ⟨x, hx, hres⟩ := removeTransition_resolvedAt loop v hv
        exact hcall.resolved x (by rw [hsplit]; simp [hx]) r (by rw [← hres]; exact hr)
    · exact hcall.resolved v (by rw [hsplit]; simp [hv]) r hr
  | _ => cases hc

lemma State.RecordedBy.changes (h : s.RecordedBy t) (hc : Changes P cfg s ev s')
    (hcall : ∀ c, ev.body.call = some c → c.RecordedBy t) : s'.RecordedBy t :=
  hc.call_rule h (fun _ _ hr => hr.markPending) hcall

end

/-! ## Registrations -/

section

variable {callID : String} {call : EscrowCall} {now : Time} {kind : EscrowEventKind}
  {p : EscrowPayload} {trusted : Option Checkpoint} {canonical : EscrowReceiptEvidence}

lemma EscrowChecked.intent {intent : EscrowIntent} (hvalid : intent.validate P.toCrypto = .ok ())
    (hchain : intent.chainID = cfg.chainID) (hdeployed : deploymentMatches cfg intent)
    (hfresh : s.escrowCalls.lookup intent.callID = none) (hfree : s.authorizationTaken intent = false)
    (hzero : now.isZero = false) :
    EscrowChecked P cfg s now intent.callID .intent { call := intent.newCall now } where
  key := rfl
  deployed := hdeployed
  identity := by simp [State.checkEscrowIdentity, EscrowIntent.newCall, hfresh]
  authorized := fun other ho => by
    have ho' : s.escrowByAuth.lookup intent.authorizationID = some other := ho
    show other = intent.callID
    simpa [State.authorizationTaken, ho'] using hfree
  hashes := by rintro h ⟨⟩
  snapshot := validateSnapshot_ok_iff.mpr (EscrowIntent.newCall_sound hvalid hchain hzero)
  evolution := by simp [EscrowIntent.newCall, hfresh, validateEscrowEventEvolution]
  bindings := rfl

lemma EscrowChecked.of_stored (hwf : s.WF P cfg) (hstored : s.escrowCalls.lookup callID = some call)
    (hkind : kind ≠ .intent) (hintent : p.call.intent = call.intent)
    (hregistered : p.call.registeredAt = call.registeredAt)
    (hhashes : ∀ h ∈ p.call.hashes, h ∉ call.hashes →
      (∀ other, s.escrowByHash.lookup h = some other → other = callID) ∧
        s.executionByHash.lookup h = none)
    (hsound : p.call.Sound P.toCrypto cfg.chainID)
    (hevolution : validateEscrowEventEvolution P cfg s.status.lastTrusted kind now (some call) p =
      .ok ())
    (hbindings : validateEscrowLedgerBindings P p.call p.ledgers s.ledger now = .ok ()) :
    EscrowChecked P cfg s now callID kind p := by
  have hok := hwf.call _ _ hstored
  have hid : p.call.intent.callID = callID := by rw [hintent]; exact hok.keyed
  have hlookup : s.escrowCalls.lookup p.call.intent.callID = some call := by rw [hid]; exact hstored
  refine ⟨hid.symm, by rw [hintent]; exact hok.deployed, ?_, ?_, fun h hh => ?_,
    validateSnapshot_ok_iff.mpr hsound, by rw [hlookup]; exact hevolution, hbindings⟩
  · unfold State.checkEscrowIdentity
    rw [hlookup]
    cases kind <;> first | exact absurd rfl hkind | simp [hintent, hregistered]
  · intro other ho
    rw [hintent, hwf.authorized _ _ hstored] at ho
    rw [hid]
    exact (Option.some.inj ho).symm
  · by_cases hmem : h ∈ call.hashes
    · have hbound := hwf.escrowed _ _ hstored h hmem
      refine ⟨fun other ho => ?_, ?_⟩
      · rw [hbound] at ho
        rw [hid]
        exact (Option.some.inj ho).symm
      · cases he : s.executionByHash.lookup h with
        | none => rfl
        | some id =>
          have := hwf.separate h id he
          rw [hbound] at this
          cases this
    · rw [hid]
      exact hhashes h hh hmem

lemma bindings_of_bound (hwf : s.WF P cfg)
    (hbound : ∀ t ∈ call.transitions, t.Bound P call.intent s.ledger) :
    validateEscrowLedgerBindings P call [] s.ledger now = .ok () :=
  validateEscrowLedgerBindings_ok ⟨by simp, by simp, by simp⟩
    (fun id x hx => (hwf.ledger id x hx).1) hbound (by simp)

lemma EscrowChecked.pending (hwf : s.WF P cfg) {org : String}
    {candidate : EscrowTransitionCandidate} {attestation : Option EscrowBroadcastAttestation}
    {expected : EscrowExpectedReceipt}
    (new : NewPending P.toCrypto s org callID candidate attestation call expected)
    (hzero : now.isZero = false) (hlater : call.registeredAt.ns ≤ now.ns) :
    EscrowChecked P cfg s now callID .pending
      { call := { call with pending := some (s.newPending cfg now expected attestation) } } := by
  have hok := hwf.call _ _ new.stored
  have hexpected : (s.newPending cfg now expected attestation).expected = expected := by
    unfold State.newPending; split_ifs <;> rfl
  have hpending := @EscrowCall.Sound.newPending _ _ _ _ _ hok.sound cfg s _ _ new.expected new.fresh new.attested
    hzero (by simpa [Time.before] using hlater)
  refine .of_stored hwf new.stored (by decide) rfl rfl (fun h hh hnew => ?_)
    { hok.sound with pending := ?_ } ?_ (bindings_of_bound hwf hok.bound)
  · have hmem : h = expected.transactionHash := by
      simp only [EscrowCall.hashes, new.pending, Option.map_some, Option.map_none,
        Option.toList_some, Option.toList_none, append_nil, mem_append,
        mem_singleton, hexpected] at hh hnew
      exact hh.resolve_left hnew
    rw [hmem]
    exact ⟨new.free, new.direct⟩
  · rintro q ⟨⟩
    exact hpending
  · have hsame : ({ call with pending := none } : EscrowCall) = call := by rw [← new.pending]
    simp [validateEscrowEventEvolution, new.pending, hsame]

/-! ## Receipts -/

lemma evolveReceipt_ok {pending t : EscrowTransition} {evidence : List EscrowReceiptEvidence}
    {ledgers : List LedgerTransaction} (hpending : call.pending = some pending)
    (hquorum : validateEscrowReceiptQuorum cfg trusted pending.expected evidence = .ok canonical)
    (ht : Resolves pending t now) (hblock : t.blockNumber = canonical.blockNumber)
    (hhash : t.blockHash = canonical.blockHash)
    (hdigest : t.evidenceDigest = digestEscrowEvidence P evidence)
    (hstate : canonical.success = decide (t.state = .confirmed)) :
    validateEscrowEventEvolution P cfg trusted .resolved now (some call)
      { call := call.resolve state t, evidence, ledgers } = .ok () := by
  have hne : evidence ≠ [] := by
    rintro rfl
    cases (validateEscrowReceiptQuorum_ok_iff.mp hquorum).first
  have hprior : ({ call.resolve state t with
      transitions := call.transitions, pending := some pending
      state := call.state, resolution := call.resolution } : EscrowCall) = call := by
    rw [← hpending]
    rfl
  have hquorum' : validateEscrowReceiptQuorum cfg trusted t.expected evidence = .ok canonical := by
    rw [ht.expected]; exact hquorum
  have hlast : (call.resolve state t).transitions.getLast? = some t := by
    simp [EscrowCall.resolve]
  simp only [validateEscrowEventEvolution, hpending, evolveReceipt]
  rw [if_neg (by simp), if_neg (by simp [EscrowCall.resolve, hne]), hlast]
  simp only
  rw [if_neg (by rw [hprior]; simp [ht.expected, ht.registered, ht.resolvedAt]), hquorum']
  simp [hblock, hhash, hdigest, hstate]

lemma EscrowChecked.resolved (hwf : s.WF P cfg) {pending t : EscrowTransition}
    {evidence : List EscrowReceiptEvidence} {ledgers : List LedgerTransaction}
    (accepted : EscrowReceiptAccepted cfg s now callID call pending evidence canonical)
    (hlater : pending.registeredAt.ns ≤ now.ns) (ht : Resolves pending t now)
    (hblock : t.blockNumber = canonical.blockNumber) (hhash : t.blockHash = canonical.blockHash)
    (hdigest : t.evidenceDigest = digestEscrowEvidence P evidence)
    (hsuccess : canonical.success = decide (t.state = .confirmed))
    (hstate : state = if t.state = .confirmed then nextEscrowState pending.expected.action
      else call.state)
    (hbindings : validateEscrowLedgerBindings P (call.resolve state t) ledgers s.ledger now =
      .ok ()) :
    EscrowChecked P cfg s now callID .resolved
      { call := call.resolve state t, evidence, ledgers } := by
  have hok := hwf.call _ _ accepted.stored
  refine .of_stored hwf accepted.stored (by decide) rfl rfl (fun h hh hnew => absurd ?_ hnew)
    (hok.sound.resolve accepted.awaited ht (by simpa [Time.before] using hlater) ?_ hstate)
    (evolveReceipt_ok accepted.awaited accepted.quorum ht hblock hhash hdigest hsuccess) hbindings
  · simpa [EscrowCall.hashes, EscrowCall.resolve, accepted.awaited, ht.expected] using hh
  · intro last hlast
    rw [hblock]
    exact accepted.later last hlast

lemma EscrowReceiptQuorum.block {expected : EscrowExpectedReceipt}
    {evidence : List EscrowReceiptEvidence}
    (h : EscrowReceiptQuorum cfg trusted expected evidence canonical) :
    canonical.blockNumber ≠ 0 ∧ hashPattern canonical.blockHash := by
  have hvalid := (h.valid canonical (List.mem_of_mem_head? h.first)).1
  simp only [escrowReceiptValid, Bool.and_eq_true, decide_eq_true_eq] at hvalid
  tauto

section

variable {pending : EscrowTransition} {evidence : List EscrowReceiptEvidence}
  {canonical : EscrowReceiptEvidence} {ledger : Option LedgerTransaction}

lemma EscrowChecked.reverted (hwf : s.WF P cfg)
    (accepted : EscrowReceiptAccepted cfg s now callID call pending evidence canonical)
    (hlater : pending.registeredAt.ns ≤ now.ns) (hfailed : canonical.success = false) :
    EscrowChecked P cfg s now callID .resolved
      { call := call.resolve call.state (pending.revertedBy P canonical evidence now), evidence } := by
  have hok := hwf.call _ _ accepted.stored
  obtain ⟨hfrom, -, -, -, -, hledger, hcorrection, hfinality, hhead⟩ :=
    (hok.sound.pending pending accepted.awaited).blank
  obtain ⟨hnumber, hhash⟩ := (validateEscrowReceiptQuorum_ok_iff.mp accepted.quorum).block
  have hresolves : Resolves pending (pending.revertedBy P canonical evidence now) now :=
    ⟨rfl, rfl, rfl, .inr ⟨rfl, hledger⟩, by rintro ⟨⟩, rfl,
      ⟨hnumber, hhash, Hex64.hashPattern_hash _⟩, hfrom, hcorrection, hfinality, hhead⟩
  have hstate : (pending.revertedBy P canonical evidence now).state ≠ .confirmed := by
    rintro ⟨⟩
  refine .resolved hwf accepted hlater hresolves rfl rfl rfl (by rw [hfailed, decide_eq_false hstate])
    (if_neg hstate).symm (bindings_of_bound hwf fun t ht => ?_)
  rcases mem_append.mp ht with ht | ht
  · exact hok.bound t ht
  · rw [mem_singleton.mp ht]
    exact ⟨fun h => absurd hledger h, fun h => absurd hcorrection h⟩

lemma escrowLedger_isSome {intent : EscrowIntent} {t : EscrowTransition} :
    (escrowLedger P intent t now).isSome = ledgerRequired t.expected.action := by
  unfold escrowLedger ledgerRequired
  cases t.expected.action <;> rfl

lemma confirmed_resolves {intent : EscrowIntent} {registeredAt : Time} {acc : SnapshotAcc}
    (hpending : PendingOK P.toCrypto intent registeredAt acc pending)
    (hblock : canonical.blockNumber ≠ 0 ∧ hashPattern canonical.blockHash)
    (hledger : ledger = escrowLedger P intent (pending.confirmedBy P canonical evidence now) now) :
    Resolves pending ((pending.confirmedBy P canonical evidence now).bindTo ledger) now := by
  obtain ⟨hfrom, -, -, -, -, hnone, hcorrection, hfinality, hhead⟩ := hpending.blank
  refine ⟨rfl, rfl, rfl, .inl rfl, fun _ => ?_, rfl, ⟨hblock.1, hblock.2, Hex64.hashPattern_hash _⟩,
    hfrom, hcorrection, hfinality, hhead⟩
  have hrequired : ledger.isSome = ledgerRequired pending.expected.action := by
    rw [hledger]
    exact escrowLedger_isSome
  show ledgerRequired pending.expected.action =
    decide (ledger.elim pending.ledgerTransactionID (·.transactionID) ≠ "")
  rw [← hrequired]
  cases ledger with
  | none => simp [hnone]
  | some x =>
    obtain ⟨_, _, _, -, -, -, rfl⟩ := escrowLedger_eq_some hledger.symm
    simp [identifierPattern_ne_empty (derivedLedgerID_escrow _)]

lemma confirmed_bindings (hwf : s.WF P cfg) (hstored : s.escrowCalls.lookup callID = some call)
    (hpending : call.pending = some pending) (hzero : now.isZero = false)
    (hledger : ledger = escrowLedger P call.intent (pending.confirmedBy P canonical evidence now) now)
    (hagrees : ∀ t, ledger = some t → s.ledgerConflict t = false) :
    validateEscrowLedgerBindings P
      (call.resolve state ((pending.confirmedBy P canonical evidence now).bindTo ledger))
      ledger.toList s.ledger now = .ok () := by
  have hok := hwf.call _ _ hstored
  obtain ⟨-, -, -, -, -, hnone, hcorrection, -, -⟩ := (hok.sound.pending pending hpending).blank
  cases ledger with
  | none =>
    refine bindings_of_bound hwf fun t ht => ?_
    rcases mem_append.mp ht with ht | ht
    · exact hok.bound t ht
    · rw [mem_singleton.mp ht]
      exact ⟨fun h => absurd hnone h, fun h => absurd hcorrection h⟩
  | some x =>
    obtain ⟨hvalid, horg, href, hat⟩ := escrowLedger_valid hok.sound.intent hzero hledger.symm
    have hconflict := hagrees x rfl
    have hagree : ∀ prior, s.ledger.lookup x.transactionID = some prior → prior = x := by
      intro prior hp
      simpa [State.ledgerConflict, hp] using hconflict
    have hnew : (Ledger.addAll s.ledger [x]).lookup x.transactionID = some x :=
      Ledger.lookup_addAll_of_mem (by simp) (mem_singleton_self x) s.ledger
    have hext : ∀ id y, s.ledger.lookup id = some y →
        (Ledger.addAll s.ledger [x]).lookup id = some y := by
      intro id y hy
      refine Ledger.lookup_addAll_of_agree hy fun t ht hid => ?_
      obtain rfl := mem_singleton.mp ht
      rw [← hid] at hy
      exact (hagree y hy).symm
    refine validateEscrowLedgerBindings_ok ⟨?_, ?_, by simp⟩
      (fun id y hy => (hwf.ledger id y hy).1) (fun t ht => ?_) fun y hy => ?_
    · intro t ht
      obtain rfl := mem_singleton.mp ht
      exact ⟨LedgerTransaction.validate_ok_iff.mpr hvalid, horg, href, hat⟩
    · intro t ht
      obtain rfl := mem_singleton.mp ht
      exact hagree
    · rcases mem_append.mp ht with ht | ht
      · exact (hok.bound t ht).mono hext
      · rw [mem_singleton.mp ht]
        refine ⟨fun _ => ⟨x, hnew, congrArg some hat.symm, ?_⟩, fun h => absurd hcorrection h⟩
        rw [hat]
        exact hledger.symm
    · obtain rfl := mem_singleton.mp hy
      exact ⟨(pending.confirmedBy P canonical evidence now).bindTo (some y),
        mem_append_right _ (mem_singleton_self _),
        identifierPattern_ne_empty hvalid.ids.1, .inl rfl⟩

lemma EscrowChecked.confirmed (hwf : s.WF P cfg)
    (accepted : EscrowReceiptAccepted cfg s now callID call pending evidence canonical)
    (hlater : pending.registeredAt.ns ≤ now.ns) (hzero : now.isZero = false)
    (hsuccess : canonical.success)
    (hledger : ledger = escrowLedger P call.intent (pending.confirmedBy P canonical evidence now) now)
    (hagrees : ∀ t, ledger = some t → s.ledgerConflict t = false) :
    EscrowChecked P cfg s now callID .resolved
      { call := call.resolve (nextEscrowState pending.expected.action)
          ((pending.confirmedBy P canonical evidence now).bindTo ledger)
        evidence, ledgers := ledger.toList } := by
  have hok := hwf.call _ _ accepted.stored
  have hstate : ((pending.confirmedBy P canonical evidence now).bindTo ledger).state = .confirmed :=
    rfl
  exact .resolved hwf accepted hlater
    (confirmed_resolves (hok.sound.pending pending accepted.awaited)
      (validateEscrowReceiptQuorum_ok_iff.mp accepted.quorum).block hledger)
    rfl rfl rfl (by rw [hsuccess, decide_eq_true hstate]) (if_pos hstate).symm
    (confirmed_bindings hwf accepted.stored accepted.awaited hzero hledger hagrees)

end

/-! ## Finality -/

variable {hash : String} {pre post : List EscrowTransition}

section

variable {t : EscrowTransition} {evidence : List ReorgEvidence} {canonical : ReorgEvidence}
  {changed : Bool}

lemma finalityDelta_same (ts bs as : List EscrowTransition) :
    finalityDelta cfg trusted now evidence changed (ts ++ bs) (ts ++ as) =
      finalityDelta cfg trusted now evidence changed bs as := by
  induction ts with
  | nil => rfl
  | cons u ts ih =>
    simp only [cons_append, finalityDelta, if_true]
    exact ih

lemma evolution_finality (hstatus : p.status = none) (hpending : call.pending = none) :
    validateEscrowEventEvolution P cfg trusted .resolved now (some call) p =
      evolveFinality cfg trusted now call p := by
  simp [validateEscrowEventEvolution, hstatus, hpending]

lemma evolution_receipt {pending : EscrowTransition}
    (hstatus : p.status = none) (hpending : call.pending = some pending) :
    validateEscrowEventEvolution P cfg trusted .resolved now (some call) p =
      evolveReceipt P cfg trusted now call pending p := by
  simp [validateEscrowEventEvolution, hstatus, hpending]

lemma evolveFinality_ok (hpending : call.pending = none)
    (hsplit : call.transitions = pre ++ t :: post) (hunchecked : t.finalityCheckedAt = none)
    (hquorum : validateCanonicalBlockQuorum cfg trusted t.blockTarget evidence false = .ok canonical) :
    evolveFinality cfg trusted now call
      { call := { call with
          transitions := pre ++ t.finalizedAt now canonical.observedHead :: post }
        reorg := evidence } = .ok () := by
  have hne : evidence ≠ [] := by
    rintro rfl
    cases hquorum
  have hdiffers : t ≠ t.finalizedAt now canonical.observedHead := by
    intro h
    have := congrArg EscrowTransition.finalityCheckedAt h
    rw [hunchecked] at this
    cases this
  have hrest : finalityDelta cfg trusted now evidence true post post = .ok true := by
    simpa [finalityDelta] using @finalityDelta_same cfg now trusted evidence true post [] []
  have hdelta : finalityDelta cfg trusted now evidence false call.transitions
      (pre ++ t.finalizedAt now canonical.observedHead :: post) = .ok true := by
    rw [hsplit, finalityDelta_same, finalityDelta, if_neg hdiffers]
    dsimp only
    rw [if_neg, hquorum]
    · dsimp only
      exact (if_neg (not_not.mpr rfl)).trans hrest
    · rintro (h | h | h | h)
      · cases h
      · exact h rfl
      · exact h hunchecked
      · exact h rfl
  unfold evolveFinality
  dsimp only
  rw [if_neg (by simp [hpending, hsplit, hne]), hdelta]
  exact if_neg (by simp)

lemma BlockQuorum.head_ge {target : BlockTarget}
    {first : ReorgEvidence} (h : BlockQuorum cfg trusted target evidence changed first) :
    target.blockNumber ≤ foldMin (·.observedHead) first.observedHead evidence := by
  have hall : ∀ o ∈ evidence, target.blockNumber ≤ o.observedHead := by
    intro o ho
    have hvalid := (h.valid o ho).1
    simp only [blockReportValid, Bool.and_eq_true, decide_eq_true_eq] at hvalid
    tauto
  exact le_foldMin (hall first (List.mem_of_mem_head? h.first)) hall

lemma EscrowChecked.finality (hwf : s.WF P cfg)
    (checked : TransitionChecked cfg s now callID hash call pre t post evidence false canonical)
    (hunchecked : t.finalityCheckedAt = none) (hpending : call.pending = none)
    (hlater : ∀ r, t.resolvedAt = some r → r.ns ≤ now.ns) :
    EscrowChecked P cfg s now callID .resolved
      { call := { call with
          transitions := pre ++ t.finalizedAt now canonical.observedHead :: post }
        reorg := evidence } := by
  have hok := hwf.call _ _ checked.stored
  have hsplit := (splitTransitions_eq_some checked.split).1
  obtain ⟨first, hquorum, hcanonical⟩ := validateCanonicalBlockQuorum_ok_iff.mp checked.quorum
  have hhead : t.blockNumber ≤ canonical.observedHead := by
    rw [hcanonical]
    exact hquorum.head_ge
  refine .of_stored hwf checked.stored (by decide) rfl rfl (fun h hh hnew => absurd ?_ hnew)
    (hok.sound.finalize hsplit (fun r hr => by simpa [Time.before] using hlater r hr) hhead)
    ((evolution_finality rfl hpending).trans
      (evolveFinality_ok hpending hsplit hunchecked checked.quorum))
    (bindings_of_bound hwf fun u hu => ?_)
  · simpa [EscrowCall.hashes, hsplit, EscrowTransition.finalizedAt] using hh
  · have hmem : ∀ v, v ∈ pre ∨ v = t ∨ v ∈ post → v.Bound P call.intent s.ledger := fun v hv =>
      hok.bound v (by rw [hsplit]; simpa using hv)
    rcases (by simpa using hu : u ∈ pre ∨ u = t.finalizedAt now canonical.observedHead ∨ u ∈ post)
      with hu | rfl | hu
    · exact hmem u (.inl hu)
    · have := hmem t (.inr (.inl rfl))
      exact ⟨this.posted, this.corrected⟩
    · exact hmem u (.inr (.inr hu))

lemma finality_rejected {pending : EscrowTransition} (hpending : call.pending = some pending)
    (hstored : s.escrowCalls.lookup callID = some call) (hwf : s.WF P cfg) :
    ¬EscrowChecked P cfg s now callID .resolved
      { call := { call with
          transitions := pre ++ t.finalizedAt now canonical.observedHead :: post }
        reorg := evidence } := by
  intro h
  have hevolution := h.evolution
  have hlookup : s.escrowCalls.lookup call.intent.callID = some call := by
    rw [(hwf.call _ _ hstored).keyed]
    exact hstored
  rw [hlookup, evolution_receipt rfl hpending] at hevolution
  simp [evolveReceipt, hpending] at hevolution

end

/-! ## Removal -/

/-- Nothing in the suffix that a confirmed transition takes along was removed before. -/
def State.RemovesOnce (s : State) (callID hash : String) : Prop :=
  (s.escrowTransition callID hash).all (fun (_, _, t, post) =>
    t.state ≠ .confirmed || post.all fun u => u.state ≠ .reorged)
deriving Decidable

/-- The ids of the corrections are different, and not taken by other entries. -/
def State.CorrectionsFree (P : Primitives) (s : State) (now : Time) (callID hash : String)
    (evidence : List ReorgEvidence) : Prop :=
  ((s.corrections P now callID hash evidence).map (·.transactionID)).Nodup ∧
    ∀ c ∈ s.corrections P now callID hash evidence, s.ledgerConflict c = false
deriving Decidable

section

variable {us : List EscrowTransition} {t : EscrowTransition} {evidence : List ReorgEvidence}
  {canonical : ReorgEvidence} {f : EscrowTransition → Option LedgerTransaction}

lemma not_reorgAltered_removed (u : EscrowTransition) (c : Option LedgerTransaction) :
    ¬reorgAltered u (u.removed c) := by
  simp [reorgAltered, EscrowTransition.removed]

lemma ne_removed (h : u.state ≠ .reorged) (c : Option LedgerTransaction) :
    u ≠ u.removed c := fun he => h (congrArg EscrowTransition.state he)

/-- The loop of the reorg check over unchanged transitions: before the first change, or
after a removed revert. -/
lemma reorgDelta_same {first : Option EscrowTransition} (ts bs as : List EscrowTransition)
    (hfirst : first.any (fun f => f.state = .confirmed) = false) :
    reorgDelta first (ts ++ bs) (ts ++ as) = reorgDelta first bs as := by
  induction ts with
  | nil => rfl
  | cons u ts ih =>
    simp only [cons_append, reorgDelta, if_true, hfirst]
    exact ih

lemma reorgDelta_removed (ht : t.state = .confirmed) (hlive : ∀ u ∈ us, u.state ≠ .reorged) :
    reorgDelta (some t) us (us.map fun u => u.removed (f u)) = .ok (some t) := by
  induction us with
  | nil => rfl
  | cons u us ih =>
    simp only [map_cons, reorgDelta, if_neg (ne_removed (hlive u (by simp)) (f u)),
      if_neg (not_reorgAltered_removed u (f u)), Option.any_some, ht, Option.or_some]
    exact ih fun v hv => hlive v (by simp [hv])

lemma reorgDelta_ok (hresolved : t.state = .confirmed ∨ t.state = .reverted)
    (hlive : t.state = .confirmed → ∀ u ∈ post, u.state ≠ .reorged) :
    reorgDelta none (pre ++ t :: post)
      (pre ++ (removedSuffix t post).map (fun u => u.removed (f u)) ++ keptSuffix t post) =
      .ok (some t) := by
  rw [append_assoc, reorgDelta_same pre _ _ rfl]
  rcases hresolved with ht | ht
  · have hne : t.state ≠ .reverted := by rw [ht]; decide
    have hlive' : t.state ≠ .reorged := by rw [ht]; decide
    simp only [removedSuffix, keptSuffix, if_neg hne, map_cons, append_nil, reorgDelta,
      if_neg (ne_removed hlive' (f t)), if_neg (not_reorgAltered_removed t (f t)), Option.any_none,
      Option.none_or]
    exact reorgDelta_removed ht (hlive ht)
  · have hlive' : t.state ≠ .reorged := by rw [ht]; decide
    simp only [removedSuffix, keptSuffix, if_pos ht, map_cons, map_nil, cons_append,
      nil_append, reorgDelta, if_neg (ne_removed hlive' (f t)),
      if_neg (not_reorgAltered_removed t (f t)), Option.any_none, Option.none_or]
    have := @reorgDelta_same (some t) post [] [] (by simp [ht])
    simpa [reorgDelta] using this

lemma evolveReorg_ok {ledgers : List LedgerTransaction}
    {status : ChainStatus} (hsplit : call.transitions = pre ++ t :: post)
    (hresolved : t.state = .confirmed ∨ t.state = .reverted)
    (hlive : t.state = .confirmed → ∀ u ∈ post, u.state ≠ .reorged)
    (hquorum : validateCanonicalBlockQuorum cfg trusted t.blockTarget evidence true = .ok canonical)
    (hstatus : status.state = .recovering ∧ status.stateChangedAt = now) :
    validateEscrowEventEvolution P cfg trusted .reorged now (some call)
      { call := call.quarantinedWith (pre ++ (removedSuffix t post).map (fun u => u.removed (f u)) ++
          keptSuffix t post)
        reorg := evidence, ledgers, status := some status } = .ok () := by
  have hne : evidence ≠ [] := by
    rintro rfl
    cases hquorum
  have hlength : (pre ++ (removedSuffix t post).map (fun u => u.removed (f u)) ++
      keptSuffix t post).length = call.transitions.length := by
    have := congrArg List.length (removed_append_kept t post)
    simp only [length_append] at this
    simp only [hsplit, length_append, length_map, ← this]
    omega
  simp only [validateEscrowEventEvolution, evolveReorg]
  rw [if_neg]
  · simp only [EscrowCall.quarantinedWith, hsplit, reorgDelta_ok hresolved hlive, Except.bind,
      hquorum]
    exact if_neg (by simp [hstatus])
  · rintro (h | h | h | h)
    · exact h rfl
    · exact h rfl
    · exact hne h
    · exact h hlength

lemma correctionOf_corrects (hwf : s.WF P cfg)
    (hstored : s.escrowCalls.lookup callID = some call) (hu : u ∈ call.transitions)
    {canonicalHash : String} :
    Corrects (correctionOf P s.ledger call.intent canonicalHash now) u := by
  refine ⟨fun hledger hnone => ?_, fun hledger => by simp [correctionOf, hledger]⟩
  obtain ⟨x, hx, -, -⟩ := ((hwf.call _ _ hstored).bound u hu).posted hledger
  refine ⟨reverseEscrowLedger P call.intent u x canonicalHash now, by simp [correctionOf, hledger,
    hnone, hx], identifierPattern_ne_empty (derivedLedgerID_correction _)⟩

section

variable {removed : List EscrowTransition} {ledgers : List LedgerTransaction} {status : ChainStatus}
  (checked : TransitionChecked cfg s now callID hash call pre t post evidence true canonical)
include checked

lemma State.RemovesOnce.suffix :
    s.RemovesOnce callID hash ↔ (t.state = .confirmed → ∀ u ∈ post, u.state ≠ .reorged) := by
  simp only [State.RemovesOnce, checked.escrowTransition, Option.all_some, Bool.or_eq_true,
    all_eq_true, ne_eq, decide_not, Bool.not_eq_true', decide_eq_false_iff_not]
  exact imp_iff_not_or.symm

variable
  (loop : foldCheck (removeTransition P s.ledger call.intent canonical.canonicalBlockHash now)
    ([], []) (removedSuffix t post) = .ok (removed, ledgers))
include loop

lemma removed_bindings (hwf : s.WF P cfg) (hfree : s.CorrectionsFree P now callID hash evidence) :
    validateEscrowLedgerBindings P
      (call.quarantinedWith (pre ++ removed ++ keptSuffix t post)) ledgers s.ledger now = .ok () := by
  have hok := hwf.call _ _ checked.stored
  obtain ⟨hnodup, hagrees⟩ := hfree
  rw [checked.corrections loop] at hnodup hagrees
  obtain ⟨hremoved, hledgers, hvalid⟩ := removeTransition_loop loop
  have hsplit := (splitTransitions_eq_some checked.split).1
  rw [← removed_append_kept t post] at hsplit
  have hmem : ∀ u, u ∈ pre ∨ u ∈ removedSuffix t post ∨ u ∈ keptSuffix t post →
      u ∈ call.transitions := fun u hu => by rw [hsplit]; simpa using hu
  have hsource : ∀ x ∈ ledgers, ∃ u ∈ removedSuffix t post, ∃ o,
      s.ledger.lookup u.ledgerTransactionID = some o ∧
      correctionOf P s.ledger call.intent canonical.canonicalBlockHash now u = some x ∧
      x = reverseEscrowLedger P call.intent u o canonical.canonicalBlockHash now := by
    intro x hx
    rw [hledgers] at hx
    obtain ⟨u, hu, hc⟩ := mem_filterMap.mp hx
    obtain ⟨-, o, ho, hxo⟩ := correctionOf_eq_some hc
    exact ⟨u, hu, o, ho, hc, hxo⟩
  have hagree : ∀ x ∈ ledgers, ∀ prior, s.ledger.lookup x.transactionID = some prior →
      prior = x := fun x hx prior hp => by
    simpa [State.ledgerConflict, hp] using hagrees x hx
  have hext : ∀ id y, s.ledger.lookup id = some y →
      (Ledger.addAll s.ledger ledgers).lookup id = some y := by
    intro id y hy
    refine Ledger.lookup_addAll_of_agree hy fun x hx hid => ?_
    rw [← hid] at hy
    exact (hagree x hx y hy).symm
  refine validateEscrowLedgerBindings_ok ⟨fun x hx => ?_, hagree, hnodup⟩
    (fun id y hy => (hwf.ledger id y hy).1) (fun v hv => ?_) fun x hx => ?_
  · obtain ⟨u, hu, o, -, hc, rfl⟩ := hsource x hx
    have hcheck := hvalid u hu
    rw [hc] at hcheck
    exact ⟨(reorgCorrection_some hcheck).1, rfl, rfl, rfl⟩
  · change v ∈ pre ++ removed ++ keptSuffix t post at hv
    rw [hremoved] at hv
    rcases mem_append.mp hv with hv | hv
    · rcases mem_append.mp hv with hv | hv
      · exact (hok.bound v (hmem v (.inl hv))).mono hext
      · obtain ⟨u, hu, rfl⟩ := mem_map.mp hv
        have hbound := (hok.bound u (hmem u (.inr (.inl hu)))).mono hext
        refine ⟨hbound.posted, fun hne => ?_⟩
        cases hc : correctionOf P s.ledger call.intent canonical.canonicalBlockHash now u with
        | none => rw [hc] at hne; exact hbound.corrected hne
        | some x =>
          obtain ⟨-, o, ho, rfl⟩ := correctionOf_eq_some hc
          have hx : reverseEscrowLedger P call.intent u o canonical.canonicalBlockHash now ∈
              ledgers := by rw [hledgers]; exact mem_filterMap.mpr ⟨u, hu, hc⟩
          exact ⟨_, o, Ledger.lookup_addAll_of_mem hnodup hx s.ledger, hext _ _ ho, rfl, rfl, rfl,
            rfl, inversePostings_reversePostings o.postings⟩
    · exact (hok.bound v (hmem v (.inr (.inr hv)))).mono hext
  · obtain ⟨u, hu, o, -, hc, rfl⟩ := hsource x hx
    refine ⟨u.removed (correctionOf P s.ledger call.intent canonical.canonicalBlockHash now u), ?_,
      identifierPattern_ne_empty (derivedLedgerID_correction _), .inr (by rw [hc]; rfl)⟩
    change _ ∈ pre ++ removed ++ keptSuffix t post
    rw [hremoved]
    exact mem_append_left _ (mem_append_right _ (mem_map.mpr ⟨u, hu, rfl⟩))

lemma EscrowChecked.removal (hwf : s.WF P cfg)
    (hstatus : status.state = .recovering ∧ status.stateChangedAt = now)
    (honce : s.RemovesOnce callID hash) (hfree : s.CorrectionsFree P now callID hash evidence) :
    EscrowChecked P cfg s now callID .reorged
      { call := call.quarantinedWith (pre ++ removed ++ keptSuffix t post)
        reorg := evidence, ledgers, status := some status } := by
  have hok := hwf.call _ _ checked.stored
  have hlive := (State.RemovesOnce.suffix checked).mp honce
  have hsplit := (splitTransitions_eq_some checked.split).1
  have hbindings := removed_bindings checked loop hwf hfree
  obtain ⟨hremoved, -, -⟩ := removeTransition_loop loop
  rw [hremoved] at hbindings ⊢
  refine .of_stored hwf checked.stored (by decide) rfl rfl (fun h hh hnew => absurd ?_ hnew)
    (hok.sound.remove hsplit checked.resolved hlive fun u hu => ?_)
    (evolveReorg_ok hsplit checked.resolved hlive checked.quorum hstatus) hbindings
  · rw [← removed_append_kept t post] at hsplit
    simp only [EscrowCall.hashes, EscrowCall.quarantinedWith, Option.map_none, Option.toList_none,
      append_nil, map_append, map_map] at hh
    simp only [EscrowCall.hashes, hsplit, map_append, mem_append] at hh ⊢
    exact .inl (or_assoc.mp hh)
  · refine correctionOf_corrects hwf checked.stored ?_
    rw [hsplit, ← removed_append_kept t post]
    simp [hu]

/-- A removed transition that is removed again loses its outcome, and a correction under a
taken id is not stored. -/
lemma removal_rejected (h : EscrowChecked P cfg s now callID .reorged
      { call := call.quarantinedWith (pre ++ removed ++ keptSuffix t post)
        reorg := evidence, ledgers, status := some status }) :
    s.RemovesOnce callID hash ∧ s.CorrectionsFree P now callID hash evidence := by
  obtain ⟨hremoved, hledgers, -⟩ := removeTransition_loop loop
  obtain ⟨hadd, -⟩ := validateEscrowLedgerBindings_bound h.bindings
  refine ⟨(State.RemovesOnce.suffix checked).mpr fun ht u hu hreorged => ?_, ?_, ?_⟩
  · have hsound := validateSnapshot_ok_iff.mp h.snapshot
    have hmem : u ∈ removedSuffix t post := by
      rw [removedSuffix, if_neg (by rw [ht]; decide)]
      exact mem_cons_of_mem _ hu
    have hrecord := hsound.records
      (u.removed (correctionOf P s.ledger call.intent canonical.canonicalBlockHash now u)) (by
        show _ ∈ pre ++ removed ++ keptSuffix t post
        rw [hremoved]
        exact mem_append_left _ (mem_append_right _ (mem_map.mpr ⟨u, hmem, rfl⟩)))
    have hout : (u.removed (correctionOf P s.ledger call.intent canonical.canonicalBlockHash
        now u)).outcome = some .reorged := congrArg some hreorged
    rcases hrecord.outcome.2 with ho | ⟨ho, -⟩ <;> rw [hout] at ho <;> cases ho
  · rw [checked.corrections loop]
    exact hadd.distinct
  · rw [checked.corrections loop]
    intro c hc
    have := hadd.agree c hc
    cases hl : s.ledger.lookup c.transactionID with
    | none => simp [State.ledgerConflict, hl]
    | some prior => simp [State.ledgerConflict, hl, this prior hl]

end

end

end

/-! ## What an operation writes -/

/-- A transition whose finality is still open is only checked while the call has no
pending transition. -/
def State.FinalityFree (s : State) (callID hash : String) : Prop :=
  (s.escrowTransition callID hash).all (fun (call, _, t, _) =>
    t.finalityCheckedAt ≠ none || call.pending = none)
deriving Decidable

/-- The condition under which `apply` accepts the event of an operation. -/
def State.Replayable (P : Primitives) (s : State) (ctx : Ctx) : Op → Prop
  | .recordTransactionOutcome id evidence => s.ScansForward id evidence
  | .confirmEscrowFinality callID hash _ => s.FinalityFree callID hash
  | .reopenEscrowReorg callID hash evidence =>
    s.RemovesOnce callID hash ∧ s.CorrectionsFree P (ctx.now 0) callID hash evidence
  | _ => True

instance (P : Primitives) (s : State) (ctx : Ctx) : ∀ op, Decidable (s.Replayable P ctx op)
  | .recordTransactionOutcome id evidence => inferInstanceAs (Decidable (s.ScansForward id evidence))
  | .confirmEscrowFinality callID hash _ => inferInstanceAs (Decidable (s.FinalityFree callID hash))
  | .reopenEscrowReorg callID hash evidence =>
    inferInstanceAs (Decidable
      (s.RemovesOnce callID hash ∧ s.CorrectionsFree P (ctx.now 0) callID hash evidence))
  | .observe _ | .forceHalt _ _ | .resume _ | .registerBroadcast _
  | .registerAttestedBroadcast _ _ | .registerX402Settlement _ _ | .reconcileReceipt _ _ _
  | .quarantine _ _ _ _ | .reopenReorg _ _ _ | .reopenRevertedReorg _ _ | .confirmFinality _ _
  | .post _ | .resolveProvenDrop _ _ _ | .reconcileProvenReplacement _ _ _ _ _
  | .registerEscrowIntent _ | .registerAttestedEscrowBroadcast _ _ _
  | .registerEscrowTransition _ _ _ | .reconcileEscrowTransition _ _ => isTrue trivial

/-- The checks of `apply` on an escrow event. The second half of an operation reads the
clock again. -/
lemma Writes.escrowChecked (hwf : s.WF P cfg) (hw : Writes P cfg ctx s op d)
    (hf : ev.Follows d) (hreplayable : s.Replayable P ctx op)
    (hfirst : op.Twofold ∨ s.RecordedBy (ctx.clock 0).ns) (hsecond : s.RecordedBy (ctx.clock 1).ns)
    {kind : EscrowEventKind} {p : EscrowPayload} (hb : d.body = .escrow kind p) :
    EscrowChecked P cfg s ev.eventAt ev.key kind p := by
  rw [hf.eventAt, hf.key]
  cases hw with
  | escrowIntent hop valid chain deployment fresh free =>
    cases hb
    exact .intent valid chain deployment fresh free hf.nonzero
  | @escrowPending op org callID candidate attestation now call expected hop new =>
    cases hb
    have hlater : call.registeredAt.ns ≤ now.ns := by
      cases op <;> cases hop
      · exact (hsecond _ _ new.stored).registered
      · exact (hfirst.resolve_left id _ _ new.stored).registered
    have hutc : now.utc = now := by cases op <;> cases hop <;> rfl
    rw [hutc]
    exact .pending hwf new hf.nonzero hlater
  | escrowRevert accepted failed =>
    cases hb
    exact .reverted hwf accepted
      ((hfirst.resolve_left id _ _ accepted.stored).pending _ accepted.awaited) failed
  | escrowConfirm accepted success hledger agrees =>
    cases hb
    exact .confirmed hwf accepted
      ((hfirst.resolve_left id _ _ accepted.stored).pending _ accepted.awaited) hf.nonzero success
      hledger agrees
  | @escrowFinality callID hash evidence call pre t post canonical checked unchecked =>
    cases hb
    have hpending : call.pending = none := by
      have : s.FinalityFree callID hash := hreplayable
      simpa [State.FinalityFree, checked.escrowTransition, unchecked] using this
    have hmem : t ∈ call.transitions := by
      rw [(splitTransitions_eq_some checked.split).1]
      simp
    exact .finality hwf checked unchecked hpending
      ((hfirst.resolve_left id _ _ checked.stored).resolved t hmem)
  | escrowReorg checked loop =>
    cases hb
    exact .removal checked loop hwf ⟨rfl, rfl⟩ hreplayable.1 hreplayable.2
  | _ => cases hb

lemma Writes.accepted (hwf : s.WF P cfg) (hok : s.status.OK cfg) (hw : Writes P cfg ctx s op d)
    (hf : ev.Follows d) (hreplayable : s.Replayable P ctx op)
    (hfirst : op.Twofold ∨ s.RecordedBy (ctx.clock 0).ns)
    (hsecond : s.RecordedBy (ctx.clock 1).ns) : ∃ s', s.apply P cfg ev = .ok s' := by
  have hstatus : ∀ st, ev.body.status = some st → st.chainID = cfg.chainID := fun st hst =>
    (hw.status hok (hf.body ▸ hst)).chainID hok.chain
  have haccept : ∀ s₁, s.applyBody P cfg ev = .ok s₁ → ∃ s', s.apply P cfg ev = .ok s' :=
    fun s₁ hs₁ => ⟨_, apply_of_body hwf.chain hstatus hs₁⟩
  cases hx : d.body.execution with
  | some next =>
    refine hw.accepted_execution hwf hok hf ?_ hx
    rintro id evidence rfl
    exact hreplayable
  | none =>
    cases hb : d.body with
    | chainStatus p | ledgerPosted t => exact haccept _ (by rw [State.applyBody, hf.body, hb])
    | escrow kind p =>
      refine haccept (s.storeEscrow cfg p) ?_
      rw [State.applyBody, hf.body, hb]
      exact bind_unit_eq_ok.mpr ⟨checkEscrow_ok_iff.mpr
        (hw.escrowChecked hwf hf hreplayable hfirst hsecond hb), rfl⟩
    | _ => rw [hb] at hx; cases hx

end FlowOps.Reconciliation

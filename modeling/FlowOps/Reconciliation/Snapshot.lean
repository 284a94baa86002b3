import FlowOps.Reconciliation.EscrowOperations

/-!
# Sound escrow calls

`EscrowCall.Sound` is `validateSnapshot` as a property: every transition is a
well-formed record, each follows the ones before it, the position is the one the
history leads to, and a pending transition is blank. The lemmas say that the changes
the operations make to a call keep it sound, and under which conditions.

Results:
* `validateSnapshot_ok_iff`: the check is the property.
* `EscrowCall.Sound.markPending`, `.newPending`, `.resolve`, `.finalize`, `.remove`:
  the five changes of a call.
-/

namespace FlowOps.Reconciliation

open List

variable {ts : List EscrowTransition} {state : EscrowPositionState} {action : EscrowAction} {n : ℕ}

/-! ## The scan as a property -/

/-- Every transition follows the ones before it. -/
def Chain : SnapshotAcc → List EscrowTransition → Prop
  | _, [] => True
  | acc, t :: ts => FollowsOK acc t ∧ Chain (acc.advance t) ts

def SnapshotAcc.advanceAll (acc : SnapshotAcc) (ts : List EscrowTransition) : SnapshotAcc :=
  ts.foldl advance acc

open SnapshotAcc (advance advanceAll)

/-- What `checkPending` asks. -/
structure PendingOK (P : Crypto) (intent : EscrowIntent) (registeredAt : Time) (acc : SnapshotAcc)
    (p : EscrowTransition) : Prop where
  expected : p.expected.validate P = .ok ()
  registered : p.registeredAt.isZero = false
  awaited : p.state = .broadcast ∨ p.state = .pendingRecovery
  attested : attestationOK P intent p
  fresh : p.expected.transactionHash ∉ acc.seenTransactions
  live : acc.reorged = false
  intent : escrowExpectedMatchesIntent p.expected intent
  allowed : escrowActionAllowed acc.historicalState p.expected.action
    p.expected.refundedFromState
  later : p.registeredAt.before registeredAt = false
  blank : p.reorgedFrom = none ∧ p.resolvedAt = none ∧ p.blockNumber = 0 ∧ p.blockHash = "" ∧
    p.evidenceDigest = "" ∧ p.ledgerTransactionID = "" ∧ p.correctionTransactionID = "" ∧
    p.finalityCheckedAt = none ∧ p.finalityCheckedHead = 0

/-- What `validateSnapshot` asks. -/
structure EscrowCall.Sound (P : Crypto) (chainID : ℕ) (c : EscrowCall) : Prop where
  intent : c.intent.validate P = .ok ()
  chain : c.intent.chainID = chainID
  registered : c.registeredAt.isZero = false
  records : ∀ t ∈ c.transitions, RecordOK P c.intent c.registeredAt t
  follows : Chain {} c.transitions
  quarantined : (advanceAll {} c.transitions).reorged → c.state = .quarantined
  position : (advanceAll {} c.transitions).reorged = false →
    c.state = (advanceAll {} c.transitions).historicalState
  pending : ∀ p, c.pending = some p →
    PendingOK P c.intent c.registeredAt (advanceAll {} c.transitions) p

variable {P : Crypto} {acc acc' : SnapshotAcc}

section

variable {intent : EscrowIntent} {registeredAt : Time}

lemma chain_append {us : List EscrowTransition} :
    Chain acc (ts ++ us) ↔ Chain acc ts ∧ Chain (acc.advanceAll ts) us := by
  induction ts generalizing acc with
  | nil => simp [Chain, advanceAll]
  | cons t ts ih =>
    simp only [cons_append, Chain, ih]
    exact and_assoc.symm

lemma advanceAll_append (ts us : List EscrowTransition) :
    acc.advanceAll (ts ++ us) = (acc.advanceAll ts).advanceAll us :=
  foldl_append

lemma scan_ok_iff : foldCheck (checkTransition P intent registeredAt) acc ts = .ok acc' ↔
      (∀ t ∈ ts, RecordOK P intent registeredAt t) ∧ Chain acc ts ∧ acc' = acc.advanceAll ts := by
  induction ts generalizing acc with
  | nil => simp [Chain, advanceAll, eq_comm]
  | cons t ts ih =>
    simp only [foldCheck_cons_ok, checkTransition_ok_iff, ih, Chain, forall_mem_cons]
    constructor
    · rintro ⟨_, ⟨hr, hf, rfl⟩, hrs, hc, rfl⟩
      exact ⟨⟨hr, hrs⟩, ⟨hf, hc⟩, rfl⟩
    · rintro ⟨⟨hr, hrs⟩, ⟨hf, hc⟩, rfl⟩
      exact ⟨_, ⟨hr, hf, rfl⟩, hrs, hc, rfl⟩

lemma checkPending_ok_iff {p : EscrowTransition} :
    checkPending P intent registeredAt acc p = .ok () ↔ PendingOK P intent registeredAt acc p := by
  simp only [checkPending, guard_ok, not_or, not_and, not_not, Bool.not_eq_true,
    Bool.not_eq_false, and_true]
  constructor
  · rintro ⟨⟨h₁, h₂, h₃, h₄⟩, h₅, h₆, ⟨h₇, h₈, h₉⟩, h₁₀, h₁₁⟩
    exact ⟨h₁, h₂, or_iff_not_imp_left.mpr h₄, h₅, by simpa using h₆, h₇, h₈, h₉, h₁₀, h₃, h₁₁⟩
  · rintro ⟨h₁, h₂, h₄, h₅, h₆, h₇, h₈, h₉, h₁₀, h₃, h₁₁⟩
    exact ⟨⟨h₁, h₂, h₃, or_iff_not_imp_left.mp h₄⟩, h₅, by simpa using h₆, ⟨h₇, h₈, h₉⟩, h₁₀, h₁₁⟩

lemma validateSnapshot_ok_iff {c : EscrowCall} {chainID : ℕ} :
    c.validateSnapshot P chainID = .ok () ↔ c.Sound P chainID := by
  simp only [EscrowCall.validateSnapshot, guard_ok, bind_eq_ok, scan_ok_iff, not_or, not_and,
    not_not, Bool.not_eq_true]
  constructor
  · rintro ⟨⟨h₁, h₂, h₃⟩, _, ⟨h₄, h₅, rfl⟩, h₆, h₇, h₈⟩
    refine ⟨h₁, h₂, h₃, h₄, h₅, h₆, h₇, fun p hp => ?_⟩
    rw [hp] at h₈
    exact checkPending_ok_iff.mp h₈
  · rintro ⟨h₁, h₂, h₃, h₄, h₅, h₆, h₇, h₈⟩
    refine ⟨⟨h₁, h₂, h₃⟩, _, ⟨h₄, h₅, rfl⟩, h₆, h₇, ?_⟩
    cases hp : c.pending with
    | none => rfl
    | some p => exact checkPending_ok_iff.mpr (h₈ p hp)

/-! ## Positions move forward -/

def EscrowPositionState.rank : EscrowPositionState → ℕ
  | .registered => 0
  | .funded => 1
  | .acknowledged => 2
  | .delivered => 3
  | .released => 4
  | .refunded => 4
  | .quarantined => 5

lemma rank_lt_of_allowed (h : escrowActionAllowed state action n) :
    state.rank < (nextEscrowState action).rank := by
  cases state <;> cases action <;> simp [escrowActionAllowed] at h <;> decide

/-- Each confirmed transition takes the call further than the ones before it. -/
lemma chain_rank (h : Chain acc ts) :
    ts.Pairwise (fun u v => u.outcome = some .confirmed → v.outcome = some .confirmed →
        (nextEscrowState u.expected.action).rank < (nextEscrowState v.expected.action).rank) ∧
      ∀ u ∈ ts, u.outcome = some .confirmed →
        acc.historicalState.rank < (nextEscrowState u.expected.action).rank := by
  induction ts generalizing acc with
  | nil => simp
  | cons t ts ih =>
    obtain ⟨hpair, hall⟩ := ih h.2
    have ht := rank_lt_of_allowed h.1.allowed
    have hadvance : acc.historicalState.rank ≤ (acc.advance t).historicalState.rank := by
      simp only [advance]
      split_ifs
      · exact ht.le
      · exact le_rfl
    refine ⟨pairwise_cons.mpr ⟨fun v hv hu hv' => ?_, hpair⟩, ?_⟩
    · have := hall v hv hv'
      rwa [advance, if_pos hu] at this
    · rintro u (_ | ⟨_, hu⟩) hu'
      · exact ht
      · exact hadvance.trans_lt (hall u hu hu')

/-! ## The accumulators -/

lemma advanceAll_seen (ts : List EscrowTransition) (acc : SnapshotAcc) :
    (acc.advanceAll ts).seenTransactions =
      (ts.map (·.expected.transactionHash)).reverse ++ acc.seenTransactions := by
  induction ts generalizing acc with
  | nil => rfl
  | cons t ts ih =>
    show ((acc.advance t).advanceAll ts).seenTransactions = _
    rw [ih]
    simp [advance]

lemma advanceAll_lastBlock (ts : List EscrowTransition) (acc : SnapshotAcc) :
    (acc.advanceAll ts).lastBlock = (ts.getLast?.map (·.blockNumber)).getD acc.lastBlock := by
  induction ts using List.reverseRecOn with
  | nil => rfl
  | append_singleton ts t ih => rw [advanceAll_append]; simp [advanceAll, advance]

lemma advanceAll_reorged (ts : List EscrowTransition) (acc : SnapshotAcc) :
    (acc.advanceAll ts).reorged ↔ acc.reorged ∨ ∃ t ∈ ts, t.state = .reorged := by
  induction ts generalizing acc with
  | nil => simp [advanceAll]
  | cons t ts ih =>
    show ((acc.advance t).advanceAll ts).reorged ↔ _
    rw [ih]
    simp [advance, or_assoc]

/-- Whether something was removed is only read at the end of the scan. -/
lemma chain_setReorged (h : Chain acc ts) : Chain { acc with reorged := true } ts := by
  induction ts generalizing acc with
  | nil => trivial
  | cons t ts ih =>
    have ha : advance { acc with reorged := true } t =
        { acc.advance t with reorged := true } := by simp [advance]
    refine ⟨⟨h.1.allowed, h.1.fresh, h.1.live, h.1.block⟩, ?_⟩
    rw [ha]
    exact ih h.2

lemma chain_replace {pre post : List EscrowTransition} {t t' : EscrowTransition}
    (hf : ∀ acc, FollowsOK acc t → FollowsOK acc t')
    (ha : ∀ acc : SnapshotAcc, acc.advance t' = acc.advance t) (h : Chain acc (pre ++ t :: post)) :
    Chain acc (pre ++ t' :: post) ∧
      acc.advanceAll (pre ++ t' :: post) = acc.advanceAll (pre ++ t :: post) := by
  obtain ⟨hpre, ht, hpost⟩ := chain_append.mp h
  refine ⟨chain_append.mpr ⟨hpre, hf _ ht, by rw [ha]; exact hpost⟩, ?_⟩
  rw [advanceAll_append, advanceAll_append]
  show ((acc.advanceAll pre).advance t').advanceAll post = _
  rw [ha]
  rfl

lemma advanceAll_removed (hacc : acc.confirmedDependencyRemoved → acc.reorged)
    (h : (acc.advanceAll ts).confirmedDependencyRemoved) :
    (acc.advanceAll ts).reorged := by
  induction ts generalizing acc with
  | nil => exact hacc h
  | cons t ts ih =>
    refine @ih (acc.advance t) (fun hr => ?_) h
    simp only [advance, Bool.or_eq_true, Bool.and_eq_true] at hr ⊢
    exact hr.imp hacc And.left

end

/-! ## Registration -/

variable {chainID : ℕ} {c : EscrowCall}

section

variable {receipt : EscrowExpectedReceipt} {candidate : EscrowTransitionCandidate}

lemma EscrowIntent.newCall_sound {intent : EscrowIntent} {now : Time}
    (hvalid : intent.validate P = .ok ()) (hchain : intent.chainID = chainID)
    (hzero : now.isZero = false) : (intent.newCall now).Sound P chainID where
  intent := hvalid
  chain := hchain
  registered := hzero
  records := by rintro t ⟨⟩
  follows := trivial
  quarantined := by rintro ⟨⟩
  position := fun _ => rfl
  pending := by rintro p ⟨⟩

lemma EscrowCall.Sound.markPending (h : c.Sound P chainID) : c.markPending.Sound P chainID := by
  refine { h with pending := fun p hp => ?_ }
  obtain ⟨q, hq, rfl⟩ := Option.map_eq_some_iff.mp hp
  have hok := h.pending q hq
  split_ifs
  · exact { hok with awaited := .inr rfl }
  · exact hok

lemma expectedEscrowTransition_ok {call : EscrowCall}
    (h : expectedEscrowTransition P call candidate = .ok receipt) :
    escrowActionAllowed call.state candidate.action candidate.refundedFromState ∧
      receipt = expectedOf call.intent candidate ∧ receipt.validate P = .ok () := by
  simp only [expectedEscrowTransition, guard_ok, Bool.not_eq_false] at h
  obtain ⟨-, hallowed, h⟩ := h
  split at h
  · cases h
  · rename_i hvalid
    cases h
    exact ⟨hallowed, rfl, hvalid⟩

lemma EscrowBroadcastAttestation.validate_fund {a : EscrowBroadcastAttestation}
    {expected : EscrowExpectedReceipt} (h : a.validate P expected = .ok ()) :
    expected.action = .fund := by
  simp only [validate, guard_ok] at h
  obtain ⟨-, h⟩ := h
  split at h
  · cases h
  · cases h
  · obtain ⟨-, h⟩ := guard_ok.mp h
    split at h
    · cases h
    · obtain ⟨hrail, -⟩ := guard_ok.mp h
      push Not at hrail
      exact hrail.2

lemma EscrowCall.Sound.live (h : c.Sound P chainID)
    (hallowed : escrowActionAllowed c.state action n) :
    (advanceAll {} c.transitions).reorged = false := by
  by_contra hr
  rw [h.quarantined (by simpa using hr)] at hallowed
  cases hallowed

lemma EscrowCall.Sound.newPending (h : c.Sound P chainID) {cfg : Config} {s : State}
    {attestation : Option EscrowBroadcastAttestation} {now : Time}
    (hexpected : expectedEscrowTransition P c candidate = .ok receipt)
    (hfresh : ∀ t ∈ c.transitions, t.expected.transactionHash ≠ candidate.transactionHash)
    (hattested : ∀ a, attestation = some a →
      a.validate P receipt = .ok () ∧ a.validateIntent c.intent = .ok ())
    (hzero : now.isZero = false) (hlater : now.before c.registeredAt = false) :
    PendingOK P c.intent c.registeredAt (advanceAll {} c.transitions)
      (s.newPending cfg now receipt attestation) := by
  obtain ⟨hallowed, hreceipt, hvalid⟩ := expectedEscrowTransition_ok hexpected
  have hlive := h.live hallowed
  have hseen : receipt.transactionHash ∉ (advanceAll {} c.transitions).seenTransactions := by
    rw [advanceAll_seen, hreceipt]
    simp only [append_nil, mem_reverse, mem_map, not_exists, not_and]
    exact hfresh
  have hmatch : escrowExpectedMatchesIntent receipt c.intent := by
    rw [hreceipt]
    simp [escrowExpectedMatchesIntent, expectedOf]
  have hatt : ∀ p : EscrowTransition, p.expected = receipt → p.broadcastAttestation = attestation →
      attestationOK P c.intent p := by
    intro p he ha
    unfold attestationOK
    rw [ha, he]
    cases hat : attestation with
    | none => rfl
    | some a =>
      obtain ⟨h₁, h₂⟩ := hattested a hat
      simp [h₁, h₂, EscrowBroadcastAttestation.validate_fund h₁, Except.toBool]
  have hposition : escrowActionAllowed (advanceAll {} c.transitions).historicalState receipt.action
      receipt.refundedFromState := by
    rw [← h.position hlive, hreceipt]
    exact hallowed
  unfold State.newPending
  split_ifs
  · exact ⟨hvalid, hzero, .inl rfl, hatt _ rfl rfl, hseen, hlive, hmatch, hposition, hlater,
      rfl, rfl, rfl, rfl, rfl, rfl, rfl, rfl, rfl⟩
  · exact ⟨hvalid, hzero, .inr rfl, hatt _ rfl rfl, hseen, hlive, hmatch, hposition, hlater,
      rfl, rfl, rfl, rfl, rfl, rfl, rfl, rfl, rfl⟩

end

/-! ## Receipts -/

/-- A pending transition with its outcome. -/
structure Resolves (p t : EscrowTransition) (now : Time) : Prop where
  expected : t.expected = p.expected
  registered : t.registeredAt = p.registeredAt
  attestation : t.broadcastAttestation = p.broadcastAttestation
  state : t.state = .confirmed ∨ (t.state = .reverted ∧ t.ledgerTransactionID = "")
  ledger : t.state = .confirmed →
    ledgerRequired t.expected.action = decide (t.ledgerTransactionID ≠ "")
  resolvedAt : t.resolvedAt = some now
  block : t.blockNumber ≠ 0 ∧ hashPattern t.blockHash ∧ hashPattern t.evidenceDigest
  blank : t.reorgedFrom = none ∧ t.correctionTransactionID = "" ∧ t.finalityCheckedAt = none ∧
    t.finalityCheckedHead = 0

variable {t : EscrowTransition} {now : Time}

section

variable {p : EscrowTransition}

lemma Resolves.ne_reorged (h : Resolves p t now) : t.state ≠ .reorged := by
  rcases h.state with hs | ⟨hs, -⟩ <;> rw [hs] <;> decide

lemma Resolves.outcome (h : Resolves p t now) : t.outcome = some t.state :=
  if_neg h.ne_reorged

lemma Resolves.record {intent : EscrowIntent} {registeredAt : Time} {acc : SnapshotAcc}
    (h : Resolves p t now) (hp : PendingOK P intent registeredAt acc p)
    (hnow : now.before p.registeredAt = false) : RecordOK P intent registeredAt t where
  expected := by rw [h.expected]; exact hp.expected
  registered := by rw [h.registered]; exact hp.registered
  attested := by
    have := hp.attested
    unfold attestationOK at this ⊢
    rw [h.attestation, h.expected]
    exact this
  intent := by rw [h.expected]; exact hp.intent
  outcome := by
    refine ⟨fun _ => h.blank.1, ?_⟩
    rw [h.outcome]
    exact h.state.imp (congrArg some) fun hs => ⟨congrArg some hs.1, hs.2, h.blank.2.1⟩
  ledger := h.ledger
  correction := by
    rintro (⟨-, hc⟩ | ⟨hs, -⟩ | ⟨hc, -⟩)
    · exact hc h.blank.2.1
    · exact h.ne_reorged hs
    · exact hc h.blank.2.1
  resolved := ⟨by rw [h.resolvedAt]; simp, h.block⟩
  chronology := by
    rintro (hr | hr | ⟨-, hf⟩ | ⟨hf, -⟩)
    · rw [h.registered, hp.later] at hr; cases hr
    · rw [h.resolvedAt, h.registered, Option.any_some, hnow] at hr; cases hr
    · exact hf h.blank.2.2.2
    · exact hf h.blank.2.2.1

lemma EscrowCall.Sound.resolve (h : c.Sound P chainID) (hpending : c.pending = some p)
    (ht : Resolves p t now) (hnow : now.before p.registeredAt = false)
    (hblock : ∀ last, c.transitions.getLast? = some last → last.blockNumber ≤ t.blockNumber)
    (hstate : state =
      if t.state = .confirmed then nextEscrowState p.expected.action else c.state) :
    (c.resolve state t).Sound P chainID := by
  have hp := h.pending p hpending
  have hadvance : advanceAll {} (c.resolve state t).transitions =
      (advanceAll {} c.transitions).advance t := advanceAll_append _ _
  have hlive : ((advanceAll {} c.transitions).advance t).reorged = false := by
    simp [advance, hp.live, ht.ne_reorged]
  have hfollows : FollowsOK (advanceAll {} c.transitions) t := by
    refine ⟨by rw [ht.expected]; exact hp.allowed, by rw [ht.expected]; exact hp.fresh,
      fun _ => ?_, ?_⟩
    · by_contra hr
      have := @advanceAll_removed c.transitions {} (by rintro ⟨⟩) (by simpa using hr)
      rw [hp.live] at this
      cases this
    · rw [advanceAll_lastBlock]
      cases hlast : c.transitions.getLast? with
      | none => exact Nat.zero_le _
      | some last => exact hblock last hlast
  exact
    { intent := h.intent
      chain := h.chain
      registered := h.registered
      records := by
        intro u hu
        rcases mem_append.mp hu with hu | hu
        · exact h.records u hu
        · rw [mem_singleton.mp hu]
          exact ht.record hp hnow
      follows := chain_append.mpr ⟨h.follows, hfollows, trivial⟩
      quarantined := by rw [hadvance, hlive]; rintro ⟨⟩
      position := by
        intro _
        rw [hadvance]
        show state = if t.outcome = some .confirmed then nextEscrowState t.expected.action else _
        rw [hstate, ht.outcome, ht.expected, h.position hp.live]
        simp only [Option.some.injEq]
      pending := by rintro q ⟨⟩ }

end

/-! ## Finality -/

variable {pre post : List EscrowTransition}

section

variable {head : ℕ}

lemma splitTransitions_eq_some {hash : String}
    (h : splitTransitions hash ts = some (pre, t, post)) :
    ts = pre ++ t :: post ∧ t.expected.transactionHash = hash := by
  induction ts generalizing pre with
  | nil => cases h
  | cons u us ih =>
    unfold splitTransitions at h
    split_ifs at h with hu
    · cases h
      exact ⟨rfl, hu⟩
    · obtain ⟨⟨pre', u', post'⟩, hsplit, hrest⟩ := Option.map_eq_some_iff.mp h
      cases hrest
      obtain ⟨rfl, hhash⟩ := ih hsplit
      exact ⟨rfl, hhash⟩

lemma RecordOK.finalizedAt {intent : EscrowIntent} {registeredAt : Time}
    (h : RecordOK P intent registeredAt t)
    (hnow : ∀ r, t.resolvedAt = some r → now.before r = false) (hhead : t.blockNumber ≤ head) :
    RecordOK P intent registeredAt (t.finalizedAt now head) :=
  { h with
    chronology := by
      rintro (hr | hr | ⟨hf, -⟩ | ⟨-, hf | hf⟩)
      · exact h.chronology (.inl hr)
      · exact h.chronology (.inr (.inl hr))
      · cases hf
      · change t.resolvedAt.any (fun r => now.before r) at hf
        cases hr : t.resolvedAt with
        | none => rw [hr] at hf; cases hf
        | some r => rw [hr, Option.any_some, hnow r hr] at hf; cases hf
      · exact absurd hhead (not_le.mpr hf) }

lemma EscrowCall.Sound.finalize (h : c.Sound P chainID)
    (hsplit : c.transitions = pre ++ t :: post)
    (hnow : ∀ r, t.resolvedAt = some r → now.before r = false) (hhead : t.blockNumber ≤ head) :
    EscrowCall.Sound P chainID { c with transitions := pre ++ t.finalizedAt now head :: post } := by
  have hfollows := h.follows
  rw [hsplit] at hfollows
  obtain ⟨hchain, hacc⟩ := @chain_replace {} pre post t (t.finalizedAt now head)
    (fun _ hf => ⟨hf.allowed, hf.fresh, hf.live, hf.block⟩) (fun _ => rfl) hfollows
  rw [← hsplit] at hacc
  exact
    { h with
      records := by
        intro u hu
        have hmem : ∀ v, v ∈ pre ∨ v = t ∨ v ∈ post → v ∈ c.transitions := by
          intro v hv; rw [hsplit]; simpa using hv
        rcases (by simpa using hu : u ∈ pre ∨ u = t.finalizedAt now head ∨ u ∈ post) with
          hu | rfl | hu
        · exact h.records u (hmem u (.inl hu))
        · exact (h.records t (hmem t (.inr (.inl rfl)))).finalizedAt hnow hhead
        · exact h.records u (hmem u (.inr (.inr hu)))
      follows := hchain
      quarantined := by rw [hacc]; exact h.quarantined
      position := by rw [hacc]; exact h.position
      pending := by rw [hacc]; exact h.pending }

end

/-! ## Removal -/

section

variable {us : List EscrowTransition} {u : EscrowTransition}
  {f : EscrowTransition → Option LedgerTransaction}

/-- A removal corrects exactly the ledger effects that have no correction yet. -/
def Corrects (f : EscrowTransition → Option LedgerTransaction) (u : EscrowTransition) : Prop :=
  (u.ledgerTransactionID ≠ "" → u.correctionTransactionID = "" →
      ∃ x, f u = some x ∧ x.transactionID ≠ "") ∧
    (u.ledgerTransactionID = "" → f u = none)

lemma RecordOK.cases {intent : EscrowIntent} {registeredAt : Time}
    (h : RecordOK P intent registeredAt u) (hlive : u.state ≠ .reorged) :
    u.state = .confirmed ∨ (u.state = .reverted ∧ u.ledgerTransactionID = "") := by
  have hout : u.outcome = some u.state := if_neg hlive
  rcases h.outcome.2 with ho | ⟨ho, hl, -⟩
  · rw [hout] at ho; exact .inl (Option.some.inj ho)
  · rw [hout] at ho; exact .inr ⟨Option.some.inj ho, hl⟩

lemma RecordOK.uncorrected {intent : EscrowIntent} {registeredAt : Time}
    (h : RecordOK P intent registeredAt u) (hlive : u.state ≠ .reorged) :
    u.correctionTransactionID = "" := by
  by_contra hc
  exact h.correction (.inr (.inr ⟨hc, .inl hlive⟩))

lemma RecordOK.removed {intent : EscrowIntent} {registeredAt : Time}
    (h : RecordOK P intent registeredAt u) (hlive : u.state ≠ .reorged) (hf : Corrects f u) :
    RecordOK P intent registeredAt (u.removed (f u)) := by
  have hcorr := h.uncorrected hlive
  refine { h with outcome := ⟨fun hs => absurd rfl hs, ?_⟩, ledger := by rintro ⟨⟩, correction := ?_ }
  · rcases h.cases hlive with hs | ⟨hs, hl⟩
    · exact .inl (congrArg some hs)
    · refine .inr ⟨congrArg some hs, hl, ?_⟩
      show (f u).elim u.correctionTransactionID _ = ""
      rw [hf.2 hl]
      exact hcorr
  · by_cases hl : u.ledgerTransactionID = ""
    · have hnone : (u.removed (f u)).correctionTransactionID = "" := by
        show (f u).elim u.correctionTransactionID _ = ""
        rw [hf.2 hl]
        exact hcorr
      rintro (⟨hs, -⟩ | ⟨-, hl', -⟩ | ⟨hc, -⟩)
      · cases hs
      · exact hl' hl
      · exact hc hnone
    · obtain ⟨x, hx, hid⟩ := hf.1 hl hcorr
      have hsome : (u.removed (f u)).correctionTransactionID ≠ "" := by
        show (f u).elim u.correctionTransactionID _ ≠ ""
        rw [hx]
        exact hid
      rintro (⟨hs, -⟩ | ⟨-, -, hc⟩ | ⟨-, hs | hl'⟩)
      · cases hs
      · exact hsome hc
      · exact hs rfl
      · exact hl hl'

/-- The accumulators that survive a removal. -/
def SnapshotAcc.SamePlace (acc acc' : SnapshotAcc) : Prop :=
  acc'.seenTransactions = acc.seenTransactions ∧ acc'.historicalState = acc.historicalState ∧
    acc'.lastBlock = acc.lastBlock

lemma SnapshotAcc.SamePlace.advance (h : acc.SamePlace acc') (hlive : u.state ≠ .reorged) :
    (acc.advance u).SamePlace (acc'.advance (u.removed (f u))) := by
  obtain ⟨hseen, hstate, -⟩ := h
  have hout : (u.removed (f u)).outcome = u.outcome := by
    show some u.state = u.outcome
    exact (if_neg hlive).symm
  refine ⟨?_, ?_, rfl⟩
  · show _ :: acc'.seenTransactions = _ :: acc.seenTransactions
    rw [hseen]
    rfl
  · show (if (u.removed (f u)).outcome = some .confirmed then _ else acc'.historicalState) = _
    rw [hout, hstate]
    rfl

lemma chain_removed (hlive : ∀ u ∈ us, u.state ≠ .reorged) (h : Chain acc us)
    (hsame : acc.SamePlace acc') : Chain acc' (us.map fun u => u.removed (f u)) := by
  induction us generalizing acc acc' with
  | nil => trivial
  | cons u us ih =>
    obtain ⟨hseen, hstate, hlast⟩ := id hsame
    obtain ⟨hu, hus⟩ := h
    refine ⟨⟨?_, ?_, fun hs => absurd rfl hs, ?_⟩, ?_⟩
    · rw [hstate]; exact hu.allowed
    · rw [hseen]; exact hu.fresh
    · rw [hlast]; exact hu.block
    · exact ih (fun v hv => hlive v (by simp [hv])) hus (hsame.advance (hlive u (by simp)))

/-- Removing a reverted transition alone changes nothing for the later ones. -/
lemma advance_removed_reverted (hs : u.state = .reverted) :
    acc.advance (u.removed (f u)) = { acc.advance u with reorged := true } := by
  have hout : (u.removed (f u)).outcome = u.outcome := by
    show some u.state = u.outcome
    rw [EscrowTransition.outcome, hs]
    rfl
  unfold advance
  rw [hout]
  simp [EscrowTransition.removed, hs]

/-- The call after a removal. A removed confirmed transition takes its suffix along,
none of which may have been removed before. -/
lemma EscrowCall.Sound.remove (h : c.Sound P chainID) (hsplit : c.transitions = pre ++ t :: post)
    (hresolved : t.state = .confirmed ∨ t.state = .reverted)
    (hsuffix : t.state = .confirmed → ∀ u ∈ post, u.state ≠ .reorged)
    (hf : ∀ u ∈ removedSuffix t post, Corrects f u) :
    (c.quarantinedWith (pre ++ (removedSuffix t post).map (fun u => u.removed (f u)) ++
      keptSuffix t post)).Sound P chainID := by
  have hlive : ∀ u ∈ removedSuffix t post, u.state ≠ .reorged := by
    intro u hu
    unfold removedSuffix at hu
    rcases hresolved with hs | hs
    · rw [if_neg (by rw [hs]; decide)] at hu
      rcases mem_cons.mp hu with rfl | hu
      · rw [hs]; decide
      · exact hsuffix hs u hu
    · rw [if_pos hs] at hu
      rw [mem_singleton.mp hu, hs]
      decide
  have hall : c.transitions = pre ++ (removedSuffix t post ++ keptSuffix t post) := by
    rw [removed_append_kept, hsplit]
  have hfollows := h.follows
  rw [hall] at hfollows
  obtain ⟨hpre, hrest⟩ := chain_append.mp hfollows
  obtain ⟨hremoved, hkept⟩ := chain_append.mp hrest
  have hmem : ∀ u, u ∈ pre ∨ u ∈ removedSuffix t post ∨ u ∈ keptSuffix t post →
      u ∈ c.transitions := by
    intro u hu; rw [hall]; simpa using hu
  have hchain : Chain {} (pre ++ (removedSuffix t post).map (fun u => u.removed (f u)) ++
      keptSuffix t post) := by
    rw [append_assoc]
    refine chain_append.mpr ⟨hpre, chain_append.mpr
      ⟨chain_removed hlive hremoved ⟨rfl, rfl, rfl⟩, ?_⟩⟩
    rcases hresolved with hs | hs
    · rw [keptSuffix, if_neg (by rw [hs]; decide)]
      trivial
    · rw [removedSuffix, if_pos hs] at hkept ⊢
      show Chain ((advanceAll {} pre).advance (t.removed (f t))) _
      rw [advance_removed_reverted hs]
      exact chain_setReorged hkept
  have hreorged : (advanceAll {} (pre ++
      (removedSuffix t post).map (fun u => u.removed (f u)) ++ keptSuffix t post)).reorged := by
    rw [advanceAll_reorged]
    refine .inr ⟨t.removed (f t), ?_, rfl⟩
    have : t ∈ removedSuffix t post := by unfold removedSuffix; split_ifs <;> simp
    simp only [mem_append, mem_map]
    exact .inl (.inr ⟨t, this, rfl⟩)
  exact
    { h with
      records := by
        intro u hu
        rcases mem_append.mp hu with hu | hu
        · rcases mem_append.mp hu with hu | hu
          · exact h.records u (hmem u (.inl hu))
          · obtain ⟨v, hv, rfl⟩ := mem_map.mp hu
            exact (h.records v (hmem v (.inr (.inl hv)))).removed (hlive v hv) (hf v hv)
        · exact h.records u (hmem u (.inr (.inr hu)))
      follows := hchain
      quarantined := fun _ => rfl
      position := fun hr => by
        have : true = false := hreorged.symm.trans hr
        cases this
      pending := by rintro q ⟨⟩ }

end

end FlowOps.Reconciliation

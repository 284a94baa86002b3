import FlowOps.Reconciliation.Types

/-!
# The operational ledger

Ledger transactions, their validation, the running balances and the check of
a correction against the transaction it reverses (types.go:477, engine.go:999 and
1152, escrow_durable.go:475 and 646, worker.go:397).

Results:
* `balanceOf_applyPostings`: applying a transaction adds the account's postings
  to its balance and touches no other organization.
* `sumBalances_applyPostings`: the balances of an organization grow by the sum of
  the postings, which is zero for a validated transaction.
* `LedgerTransaction.Valid.reverse`, `validateCorrection_reverse`: the reversal of
  a validated transaction validates and passes the correction check.
-/

namespace FlowOps.Reconciliation

variable {ps : List Posting} {t x r : LedgerTransaction} {ts : List LedgerTransaction}

/-! ## Validation -/

def postingTotal (postings : List Posting) : ℤ :=
  (postings.map fun p => amountOf p.amountAtomic).sum

/-- The sum of one account's posting amounts. -/
def postingSum (account : String) (postings : List Posting) : ℤ :=
  (postings.map fun p => if p.account = account then amountOf p.amountAtomic else 0).sum

/-- The loop of `LedgerTransaction.validate` over the postings (types.go:489-499). -/
def sumPostings : ℤ → List Posting → Except Err ℤ
  | sum, [] => .ok sum
  | sum, p :: ps =>
    if identifierPattern p.account = false then .error (.message "ledger account is invalid")
    else
      match signedInteger p.amountAtomic with
      | none => .error (.message "posting amount must be a canonical non-zero integer")
      | some amount => sumPostings (sum + amount) ps

/-- `LedgerTransaction.validate` (types.go:477). -/
def LedgerTransaction.validate (t : LedgerTransaction) : Except Err Unit :=
  if identifierPattern t.transactionID = false ∨ identifierPattern t.organizationID = false ∨
      identifierPattern t.referenceID = false then .error (.message "ledger identifiers are invalid")
  else
    match t.kind with
    | .other _ => .error (.message "ledger kind is invalid")
    | _ =>
      if t.postings.length < 2 ∨ 32 < t.postings.length then
        .error (.message "ledger transaction must contain 2 to 32 postings")
      else
        match sumPostings 0 t.postings with
        | .error e => .error e
        | .ok sum =>
          if sum ≠ 0 then .error (.message "ledger postings do not balance to zero")
          else if t.recordedAt.isZero then .error (.message "ledger recordedAt is required")
          else .ok ()

/-- `chainDependent` (engine.go:1256). -/
def chainDependent (kind : LedgerKind) : Bool :=
  kind = .settlement || kind = .refund || kind = .funding

/-! ## Balances -/

/-- One step of the loop of `applyLedger`: the account's balance is created at
zero and increased. -/
def addPosting (m : Dict String ℤ) (p : Posting) : Dict String ℤ :=
  m.insert p.account ((m.lookup p.account).getD 0 + amountOf p.amountAtomic)

/-- The same with `Sub`, for the expected correction. -/
def subPosting (m : Dict String ℤ) (p : Posting) : Dict String ℤ :=
  m.insert p.account ((m.lookup p.account).getD 0 - amountOf p.amountAtomic)

abbrev Ledger := Dict String LedgerTransaction
abbrev Balances := Dict String (Dict String ℤ)

/-- The balance part of `applyLedger` (engine.go:1002-1011). -/
def applyPostings (balances : Balances) (t : LedgerTransaction) : Balances :=
  balances.insert t.organizationID
    (t.postings.foldl addPosting ((balances.lookup t.organizationID).getD ∅))

/-- `Balance` (engine.go:741): the integer whose decimal text is returned. -/
def balanceOf (balances : Balances) (organizationID account : String) : ℤ :=
  ((balances.lookup organizationID).bind fun m => m.lookup account).getD 0

/-! ## Corrections -/

/-- `equalBigIntMaps` (engine.go:1321). -/
def equalBigIntMaps (left right : Dict String ℤ) : Bool :=
  decide (left.entries.length = right.entries.length) &&
    left.entries.all fun e => right.lookup e.1 = some e.2

/-- `validateCorrection` (engine.go:1152) against the stored ledger. -/
def validateCorrection (ledger : Ledger) (t : LedgerTransaction) : Except Err Unit :=
  if t.reversesTransactionID = "" then
    .error (.message "correction must identify the transaction it reverses")
  else
    match ledger.lookup t.reversesTransactionID with
    | none =>
      .error (.message "correction target is unknown or belongs to another organization")
    | some original =>
      if original.organizationID ≠ t.organizationID then
        .error (.message "correction target is unknown or belongs to another organization")
      else if equalBigIntMaps (original.postings.foldl subPosting ∅)
          (t.postings.foldl addPosting ∅) = false then
        .error (.message "correction postings must exactly reverse the original transaction")
      else .ok ()

/-- `derivedLedgerID` (worker.go:397). -/
def derivedLedgerID (P : Primitives) (name : String) (inputs : List String) : String :=
  name ++ "_" ++ (P.ledgerSHA256 inputs).val

/-- `escrowLedger` (escrow_durable.go:475): the ledger effect of a transition. -/
def escrowLedger (P : Primitives) (intent : EscrowIntent) (transition : EscrowTransition)
    (recordedAt : Time) : Option LedgerTransaction :=
  let amount := intent.amountAtomic
  let transaction (kind : LedgerKind) (credit debit : String) : LedgerTransaction :=
    { transactionID := derivedLedgerID P "escrow"
        [intent.callID, transition.expected.action.text, transition.blockHash]
      organizationID := intent.organizationID, kind, referenceID := intent.callID
      postings := [⟨credit, amount⟩, ⟨debit, "-" ++ amount⟩], recordedAt }
  match transition.expected.action with
  | .fund => some (transaction .funding "escrow_locked" "pending_settlement")
  | .release => some (transaction .settlement "agent_service_expense" "escrow_locked")
  | .refund => some (transaction .refund "pending_settlement" "escrow_locked")
  | _ => none

/-- The postings with every amount's sign flipped (escrow_durable.go:647-656). -/
def reversePostings (postings : List Posting) : List Posting :=
  postings.map fun p => { p with amountAtomic := flipSign p.amountAtomic }

/-- `reverseEscrowLedger` (escrow_durable.go:646). -/
def reverseEscrowLedger (P : Primitives) (intent : EscrowIntent) (transition : EscrowTransition)
    (original : LedgerTransaction) (canonicalHash : String) (recordedAt : Time) :
    LedgerTransaction :=
  { transactionID := derivedLedgerID P "escrow_correction"
      [intent.callID, transition.expected.transactionHash, original.transactionID, canonicalHash]
    organizationID := intent.organizationID, kind := .correction, referenceID := intent.callID
    reversesTransactionID := original.transactionID
    postings := reversePostings original.postings, recordedAt }

/-- `inversePostings` (escrow_durable.go:925). -/
def inversePostings : List Posting → List Posting → Bool
  | [], [] => true
  | o :: os, c :: cs =>
    o.account = c.account && c.amountAtomic = flipSign o.amountAtomic && inversePostings os cs
  | _, _ => false

/-! ## What validation says -/

lemma sumPostings_ok {sum total : ℤ} (h : sumPostings sum ps = .ok total) :
    total = sum + postingTotal ps ∧
      ∀ p ∈ ps, identifierPattern p.account ∧ ∃ n, signedInteger p.amountAtomic = some n := by
  induction ps generalizing sum with
  | nil => cases h; simp [postingTotal]
  | cons p ps ih =>
    simp only [sumPostings, guard_ok] at h
    obtain ⟨hid, h⟩ := h
    split at h
    · cases h
    · rename_i n hn
      obtain ⟨ht, hall⟩ := ih h
      have ha : amountOf p.amountAtomic = n := by
        simp [amountOf, (signedInteger_canonical hn).2]
      refine ⟨by rw [ht]; simp [postingTotal, ha]; ring, ?_⟩
      rintro q (_ | ⟨_, hq⟩)
      · exact ⟨by simpa using hid, n, hn⟩
      · exact hall q hq

lemma sumPostings_of_forall {sum : ℤ}
    (h : ∀ p ∈ ps, identifierPattern p.account ∧ ∃ n, signedInteger p.amountAtomic = some n) :
    sumPostings sum ps = .ok (sum + postingTotal ps) := by
  induction ps generalizing sum with
  | nil => simp [sumPostings, postingTotal]
  | cons p ps ih =>
    obtain ⟨hid, n, hn⟩ := h p (by simp)
    have ha : amountOf p.amountAtomic = n := by
      simp [amountOf, (signedInteger_canonical hn).2]
    simp only [sumPostings, hid, hn]
    rw [ih fun q hq => h q (by simp [hq])]
    simp [postingTotal, ha]; ring

structure LedgerTransaction.Valid (t : LedgerTransaction) : Prop where
  ids : identifierPattern t.transactionID ∧ identifierPattern t.organizationID ∧
    identifierPattern t.referenceID
  kind : ∀ name, t.kind ≠ .other name
  length : 2 ≤ t.postings.length ∧ t.postings.length ≤ 32
  postings : ∀ p ∈ t.postings, identifierPattern p.account ∧
    ∃ n, signedInteger p.amountAtomic = some n
  balanced : postingTotal t.postings = 0
  recorded : t.recordedAt.isZero = false

lemma LedgerTransaction.validate_ok_iff : t.validate = .ok () ↔ t.Valid := by
  constructor
  · intro h
    simp only [validate, guard_ok] at h
    obtain ⟨hids, h⟩ := h
    push Not at hids
    have hk : ∀ name, t.kind ≠ .other name := by
      intro name hname; simp [hname] at h
    have hrest : (2 ≤ t.postings.length ∧ t.postings.length ≤ 32) ∧
        ∃ sum, sumPostings 0 t.postings = .ok sum ∧ sum = 0 ∧ t.recordedAt.isZero = false := by
      split at h
      · cases h
      · simp only [guard_ok] at h
        obtain ⟨hlen, h⟩ := h
        split at h
        · cases h
        · rename_i sum hsum
          simp only [guard_ok] at h
          exact ⟨by omega, sum, hsum, not_not.mp h.1, Bool.eq_false_iff.mpr h.2.1⟩
    obtain ⟨hlen, sum, hsum, h0, hrec⟩ := hrest
    obtain ⟨htot, hall⟩ := sumPostings_ok hsum
    refine ⟨?_, hk, hlen, hall, by rw [h0] at htot; simpa using htot.symm, hrec⟩
    exact ⟨by simpa using hids.1, by simpa using hids.2.1, by simpa using hids.2.2⟩
  · rintro ⟨⟨h₁, h₂, h₃⟩, hk, ⟨h₄, h₅⟩, hp, hb, hr⟩
    have hs := @sumPostings_of_forall t.postings 0 hp
    unfold validate
    rw [if_neg (by simp [h₁, h₂, h₃])]
    split
    · rename_i name hname; exact absurd hname (hk name)
    · rw [if_neg (by omega)]
      simp [hs, hb, hr]

/-! ## Balances of a transaction -/

lemma postingSum_cons (account : String) (p : Posting) (ps : List Posting) :
    postingSum account (p :: ps) =
      (if p.account = account then amountOf p.amountAtomic else 0) + postingSum account ps := by
  simp [postingSum]

lemma lookup_addPosting (m : Dict String ℤ) (p : Posting) (account : String) :
    ((addPosting m p).lookup account).getD 0 =
      (m.lookup account).getD 0 + if p.account = account then amountOf p.amountAtomic else 0 := by
  rw [addPosting, Dict.lookup_insert_ite]
  by_cases h : account = p.account
  · subst h; simp
  · simp [h, Ne.symm h]

lemma lookup_foldl_addPosting (ps : List Posting) (m : Dict String ℤ) (account : String) :
    ((ps.foldl addPosting m).lookup account).getD 0 =
      (m.lookup account).getD 0 + postingSum account ps := by
  induction ps generalizing m with
  | nil => simp [postingSum]
  | cons p ps ih => rw [List.foldl_cons, ih, lookup_addPosting, postingSum_cons]; ring

lemma sum_addPosting (m : Dict String ℤ) (p : Posting) :
    Dict.sum (fun _ v => v) (addPosting m p) =
      Dict.sum (fun _ v => v) m + amountOf p.amountAtomic := by
  unfold addPosting
  cases h : m.lookup p.account with
  | none => rw [Dict.sum_insert_of_lookup_none h]; simp; ring
  | some v =>
    have := Dict.sum_insert_of_lookup_some (f := fun _ v => v) (v := v + amountOf p.amountAtomic) h
    simp only [Option.getD_some] at this ⊢
    linarith

lemma sum_foldl_addPosting (ps : List Posting) (m : Dict String ℤ) :
    Dict.sum (fun _ v => v) (ps.foldl addPosting m) =
      Dict.sum (fun _ v => v) m + postingTotal ps := by
  induction ps generalizing m with
  | nil => simp [postingTotal]
  | cons p ps ih => rw [List.foldl_cons, ih, sum_addPosting]; simp [postingTotal]; ring

/-- Applying a transaction adds the account's postings to its balance. -/
lemma balanceOf_applyPostings (balances : Balances) (t : LedgerTransaction)
    (org account : String) :
    balanceOf (applyPostings balances t) org account = balanceOf balances org account +
        if t.organizationID = org then postingSum account t.postings else 0 := by
  unfold balanceOf applyPostings
  rw [Dict.lookup_insert_ite]
  by_cases h : org = t.organizationID
  · subst h
    have := lookup_foldl_addPosting t.postings ((balances.lookup t.organizationID).getD ∅) account
    simp only [if_true, Option.bind_some, this]
    cases balances.lookup t.organizationID <;> simp
  · simp [h, Ne.symm h]

/-- The sum of an organization's balances over its accounts. -/
def sumBalances (balances : Balances) (org : String) : ℤ :=
  Dict.sum (fun _ v => v) ((balances.lookup org).getD ∅)

lemma sumBalances_applyPostings (balances : Balances) (t : LedgerTransaction) (org : String) :
    sumBalances (applyPostings balances t) org =
      sumBalances balances org + if t.organizationID = org then postingTotal t.postings else 0 := by
  unfold sumBalances applyPostings
  rw [Dict.lookup_insert_ite]
  by_cases h : org = t.organizationID
  · subst h
    simp [sum_foldl_addPosting]
  · simp [h, Ne.symm h]

/-! ## Extending the ledger -/

def Ledger.addAll (m : Ledger) (ts : List LedgerTransaction) : Ledger :=
  ts.foldl (fun m t => m.insert t.transactionID t) m

lemma Ledger.lookup_addAll_of_notMem {id : String}
    (h : id ∉ ts.map (·.transactionID)) (m : Ledger) : (m.addAll ts).lookup id = m.lookup id := by
  induction ts generalizing m with
  | nil => rfl
  | cons t ts ih =>
    simp only [List.map_cons, List.mem_cons, not_or] at h
    exact (ih h.2 _).trans (AList.lookup_insert_ne h.1)

lemma Ledger.lookup_addAll_of_mem
    (hd : (ts.map (·.transactionID)).Nodup) (ht : t ∈ ts) (m : Ledger) :
    (m.addAll ts).lookup t.transactionID = some t := by
  induction ts generalizing m with
  | nil => cases ht
  | cons u ts ih =>
    simp only [List.map_cons, List.nodup_cons] at hd
    rcases List.mem_cons.mp ht with rfl | ht
    · exact (lookup_addAll_of_notMem hd.1 _).trans (AList.lookup_insert _)
    · exact ih hd.2 ht _

variable {m : Ledger}

lemma Ledger.lookup_addAll {id : String} (h : (m.addAll ts).lookup id = some x) :
    (x ∈ ts ∧ x.transactionID = id) ∨ m.lookup id = some x := by
  induction ts generalizing m with
  | nil => exact .inr h
  | cons t ts ih =>
    rcases ih h with ⟨hx, hid⟩ | h
    · exact .inl ⟨by simp [hx], hid⟩
    · rcases Dict.lookup_insert_eq_some.mp h with ⟨rfl, rfl⟩ | ⟨-, h⟩
      · exact .inl ⟨by simp, rfl⟩
      · exact .inr h

lemma Ledger.lookup_addAll_of_agree {id : String} (h : m.lookup id = some x)
    (hagree : ∀ t ∈ ts, t.transactionID = id → t = x) : (m.addAll ts).lookup id = some x := by
  induction ts generalizing m with
  | nil => exact h
  | cons t ts ih =>
    refine @ih (m.insert t.transactionID t) ?_ fun u hu => hagree u (by simp [hu])
    rw [Dict.lookup_insert_ite]
    split_ifs with hid
    · rw [hagree t (by simp) hid.symm]
    · exact h

/-! ## Reversed postings -/

lemma inversePostings_reversePostings (ps : List Posting) :
    inversePostings ps (reversePostings ps) := by
  induction ps with
  | nil => rfl
  | cons p ps ih => simpa [inversePostings, reversePostings] using ih

lemma equalBigIntMaps_self (m : Dict String ℤ) : equalBigIntMaps m m := by
  simp only [equalBigIntMaps, Bool.and_eq_true, decide_eq_true_eq, List.all_eq_true, true_and]
  exact fun e he => AList.mem_lookup_iff.mpr he

lemma foldl_addPosting_reversePostings
    (h : ∀ p ∈ ps, ∃ n, signedInteger p.amountAtomic = some n) (m : Dict String ℤ) :
    (reversePostings ps).foldl addPosting m = ps.foldl subPosting m := by
  induction ps generalizing m with
  | nil => rfl
  | cons p ps ih =>
    obtain ⟨n, hn⟩ := h p (by simp)
    have hflip := amountOf_flipSign (signedInteger_canonical hn).1
    have hstep : addPosting m { p with amountAtomic := flipSign p.amountAtomic } = subPosting m p := by
      unfold addPosting subPosting
      rw [hflip]
      rfl
    show (reversePostings ps).foldl addPosting (addPosting m _) = ps.foldl subPosting (subPosting m p)
    rw [hstep]
    exact ih (fun q hq => h q (by simp [hq])) _

lemma postingTotal_reversePostings (h : ∀ p ∈ ps, ∃ n, signedInteger p.amountAtomic = some n) :
    postingTotal (reversePostings ps) = -postingTotal ps := by
  induction ps with
  | nil => rfl
  | cons p ps ih =>
    obtain ⟨n, hn⟩ := h p (by simp)
    have hflip := amountOf_flipSign (signedInteger_canonical hn).1
    have hrest := ih fun q hq => h q (by simp [hq])
    simp only [postingTotal, reversePostings, List.map_cons, List.sum_cons] at hrest ⊢
    rw [hflip, hrest]
    ring

/-- The reversal of a valid transaction, under valid identifiers, is valid. -/
lemma LedgerTransaction.Valid.reverse (h : t.Valid)
    (hids : identifierPattern r.transactionID ∧ identifierPattern r.organizationID ∧
      identifierPattern r.referenceID) (hkind : r.kind = .correction)
    (hpostings : r.postings = reversePostings t.postings) (hzero : r.recordedAt.isZero = false) :
    r.Valid where
  ids := hids
  kind := by rw [hkind]; rintro name ⟨⟩
  length := by rw [hpostings]; simpa [reversePostings] using h.length
  postings := by
    rw [hpostings]
    intro p hp
    obtain ⟨q, hq, rfl⟩ := List.mem_map.mp hp
    obtain ⟨hid, n, hn⟩ := h.postings q hq
    exact ⟨hid, -n, signedInteger_flipSign hn⟩
  balanced := by
    rw [hpostings, postingTotal_reversePostings fun p hp => (h.postings p hp).2, h.balanced]
    rfl
  recorded := hzero

lemma validateCorrection_reverse {ledger : Ledger} (h : t.Valid)
    (hstored : ledger.lookup r.reversesTransactionID = some t) (hne : r.reversesTransactionID ≠ "")
    (horg : t.organizationID = r.organizationID)
    (hpostings : r.postings = reversePostings t.postings) :
    validateCorrection ledger r = .ok () := by
  unfold validateCorrection
  rw [if_neg hne, hstored]
  simp only [horg, ne_eq, not_true_eq_false, if_false]
  rw [hpostings, foldl_addPosting_reversePostings fun p hp => (h.postings p hp).2,
    equalBigIntMaps_self]
  simp

end FlowOps.Reconciliation

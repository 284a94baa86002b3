import FlowOps.Bearer.SignerStore

/-!
# The handle machine

Over every run of a signer store, in memory or through restarts from its ledger: a handle moves along
PREPARED, ACTIVE, RELEASED, TERMINAL or from PREPARED to EXPIRED, and nothing else of it changes; an
artifact goes to the keeper of its handle, inside the window, after the verifier accepted an activation,
and is the one that was prepared; and an action of an operation has one handle.

The store and its ledger differ in at most one record, which was written by a call that failed
(`Linked`); the ledger then takes nothing more. What a record rests on (`Grounded`) is a property of the
calls so far, and holds of the store and of the ledger alike.
-/

namespace FlowOps.Bearer

open Function List AList Dict

variable {r : SignerRecord} {P : Primitives} {j j' : SignerJournal} {tried done : List HandleEvent}

/-! ## Records -/

inductive Moves : HandleState → HandleState → Prop where
  | activated : Moves .prepared .active
  | released : Moves .active .released
  | finalized : Moves .released .terminal
  | expired : Moves .prepared .expired

/-- A handle without its state and outcome. -/
def Handle.binding (h : Handle) : Handle := { h with state := .prepared, outcome := "" }

def SignerRecord.key (r : SignerRecord) : String :=
  signerActionKey r.handle.operationID r.handle.actionID

/-- A record, or none, and what comes after it. -/
inductive Turns : Option SignerRecord → Option SignerRecord → Prop where
  | same (r : Option SignerRecord) : Turns r r
  | appeared (r : SignerRecord) : r.handle.state = .prepared → Turns none (some r)
  | moved (r next : SignerRecord) : next.handle.binding = r.handle.binding →
      Moves r.handle.state next.handle.state → Turns (some r) (some next)

/-- What the records of the handles rest on, given what was done so far. -/
structure Grounded (B : SignerBoundary) (past : List HandleEvent) (records : String → Option SignerRecord) :
    Prop where
  prepared : ∀ id r, records id = some r → ∃ input, HandleEvent.prepared id input ∈ past ∧
    r.handle.binding = input.handle id ∧
    B.cipher.decrypt (artifactAAD B r.handle) r.encrypted = some input.signature
  verified : ∀ id r, records id = some r → r.handle.state ≠ .prepared → r.handle.state ≠ .expired →
    ∃ h proof, HandleEvent.verified h proof ∈ past ∧ h.binding = r.handle.binding
  unique : ∀ id id' r r', records id = some r → records id' = some r' → r.key = r'.key → id = id'

variable {past : List HandleEvent}

section

variable {B : SignerBoundary} {past' : List HandleEvent} {records : String → Option SignerRecord}

lemma artifactAAD_binding (B : SignerBoundary) (h : Handle) : artifactAAD B h.binding = artifactAAD B h := rfl

lemma artifactAAD_congr {h h' : Handle} (heq : h'.binding = h.binding) :
    artifactAAD B h' = artifactAAD B h := by
  rw [← artifactAAD_binding, heq, artifactAAD_binding]

lemma key_congr {r' : SignerRecord} (heq : r'.handle.binding = r.handle.binding) : r'.key = r.key := by
  have hkey := congrArg (fun h : Handle => signerActionKey h.operationID h.actionID) heq
  exact hkey

lemma Grounded.mono (h : Grounded B past records) (hsub : past ⊆ past') : Grounded B past' records where
  prepared id r hr := by
    obtain ⟨input, hin, hfit⟩ := h.prepared id r hr
    exact ⟨input, hsub hin, hfit⟩
  verified id r hr hp he := by
    obtain ⟨handle, proof, hin, hfit⟩ := h.verified id r hr hp he
    exact ⟨handle, proof, hsub hin, hfit⟩
  unique := h.unique

lemma Grounded.create (h : Grounded B past records) {id : String} {input : PrepareInput} {nonce : Bytes}
    (hin : HandleEvent.prepared id input ∈ past)
    (hkey : ∀ id' r, records id' = some r → r.key ≠ signerActionKey input.operationID input.actionID) :
    Grounded B past (update records id (some
      ⟨input.handle id, B.cipher.encrypt nonce (artifactAAD B (input.handle id)) input.signature, none⟩)) where
  prepared id' r hr := by
    rcases update_eq_some.mp hr with ⟨rfl, rfl⟩ | ⟨-, hr⟩
    · exact ⟨input, hin, rfl, B.cipher.decrypt_encrypt ..⟩
    · exact h.prepared id' r hr
  verified id' r hr hp he := by
    rcases update_eq_some.mp hr with ⟨rfl, rfl⟩ | ⟨-, hr⟩
    · exact absurd rfl hp
    · exact h.verified id' r hr hp he
  unique id₁ id₂ r₁ r₂ h₁ h₂ heq := by
    by_cases hid₁ : id₁ = id <;> by_cases hid₂ : id₂ = id
    · rw [hid₁, hid₂]
    · rw [hid₁, update_self, Option.some.injEq] at h₁
      rw [update_of_ne hid₂] at h₂
      subst h₁
      exact absurd heq.symm (hkey id₂ r₂ h₂)
    · rw [hid₂, update_self, Option.some.injEq] at h₂
      rw [update_of_ne hid₁] at h₁
      subst h₂
      exact absurd heq (hkey id₁ r₁ h₁)
    · rw [update_of_ne hid₁] at h₁
      rw [update_of_ne hid₂] at h₂
      exact h.unique id₁ id₂ r₁ r₂ h₁ h₂ heq

lemma Grounded.change (h : Grounded B past records) {id : String} {next : SignerRecord}
    (hr : records id = some r) (hbinding : next.handle.binding = r.handle.binding)
    (hencrypted : next.encrypted = r.encrypted)
    (hverified : next.handle.state ≠ .prepared → next.handle.state ≠ .expired →
      ∃ h proof, HandleEvent.verified h proof ∈ past ∧ h.binding = r.handle.binding) :
    Grounded B past (update records id (some next)) where
  prepared id' r' hr' := by
    rcases update_eq_some.mp hr' with ⟨rfl, rfl⟩ | ⟨-, hr'⟩
    · obtain ⟨input, hin, hfit, hdecrypt⟩ := h.prepared id' r hr
      exact ⟨input, hin, hbinding.trans hfit, by rw [artifactAAD_congr hbinding, hencrypted]; exact hdecrypt⟩
    · exact h.prepared id' r' hr'
  verified id' r' hr' hp he := by
    rcases update_eq_some.mp hr' with ⟨rfl, rfl⟩ | ⟨-, hr'⟩
    · obtain ⟨handle, proof, hin, hfit⟩ := hverified hp he
      exact ⟨handle, proof, hin, hfit.trans hbinding.symm⟩
    · exact h.verified id' r' hr' hp he
  unique id₁ id₂ r₁ r₂ h₁ h₂ heq := by
    -- under its identifier the record has the key that it had
    have hold : ∀ id' r', update records id (some next) id' = some r' →
        ∃ r'', records id' = some r'' ∧ r''.key = r'.key := by
      intro id' r' hr'
      rcases update_eq_some.mp hr' with ⟨rfl, rfl⟩ | ⟨-, hr'⟩
      · exact ⟨r, hr, (key_congr hbinding).symm⟩
      · exact ⟨r', hr', rfl⟩
    obtain ⟨s₁, hs₁, hk₁⟩ := hold id₁ r₁ h₁
    obtain ⟨s₂, hs₂, hk₂⟩ := hold id₂ r₂ h₂
    exact h.unique id₁ id₂ s₁ s₂ hs₁ hs₂ (hk₁.trans (heq.trans hk₂.symm))

end

/-! ## Calls -/

/-- What a call at some time writes for a handle: the record, how the store keeps it, and what is done before the
write and after it. -/
inductive Writes (B : SignerBoundary) (now : Time) (s : SignerStore) : String → SignerRecord →
    (SignerStore → SignerStore) → List HandleEvent → List HandleEvent → Prop where
  | created (id : String) (input : PrepareInput) (nonce : Bytes) (record : SignerRecord) :
      s.byID.lookup id = none →
      s.byAction.lookup (signerActionKey input.operationID input.actionID) = none →
      input.valid now →
      record = ⟨input.handle id, B.cipher.encrypt nonce (artifactAAD B (input.handle id)) input.signature,
        none⟩ →
      Writes B now s id record (SignerStore.add id record) [.prepared id input] []
  | activated (id : String) (record next : SignerRecord) (proof : ActivationProof) :
      s.byID.lookup id = some record → record.handle.state = .prepared →
      record.handle.inWindow now →
      next = { record with
        handle := { record.handle with state := .active }
        activation := some proof } →
      Writes B now s id next (SignerStore.put id next) [.verified record.handle proof] []
  | released (id : String) (record next : SignerRecord) (artifact : Bytes) :
      s.byID.lookup id = some record → record.handle.state = .active →
      record.handle.inWindow now →
      B.cipher.decrypt (artifactAAD B record.handle) record.encrypted = some artifact →
      next = { record with handle := { record.handle with state := .released } } →
      Writes B now s id next (SignerStore.put id next) []
        [.released record.handle.keeperID now next.handle artifact]
  | closed (id : String) (record next : SignerRecord) (state : HandleState) (outcome : String) :
      s.byID.lookup id = some record → Moves record.handle.state state →
      (state = .expired ∨ state = .terminal) →
      next = { record with handle := { record.handle with state, outcome } } →
      Writes B now s id next (SignerStore.put id next) [] []

/-- The write of a record, and whether it succeeded. -/
inductive Persisted (s : SignerStore) (record : SignerRecord) :
    Bool → SignerStore → Option LedgerEvent → Prop where
  | memory : s.journal = none → Persisted s record true s none
  | refused : Persisted s record false s none
  | failed (j : SignerJournal) (err : String) (written : Option LedgerEvent) : s.journal = some j →
      j.fault = none → (∀ e, written = some e → e.handleID = record.handle.id ∧ e.record = record) →
      Persisted s record false { s with journal := some { j with fault := some err } } written
  | saved (j j' : SignerJournal) (e : LedgerEvent) : s.journal = some j → j.fault = none →
      e.handleID = record.handle.id → e.record = record →
      Persisted s record true { s with journal := some j' } (some e)

inductive Ran (B : SignerBoundary) (now : Time) (s : SignerStore) :
    SignerStore → Option LedgerEvent → List HandleEvent → Prop where
  | kept : Ran B now s s none []
  | reread (id : String) (record : SignerRecord) (artifact : Bytes) :
      s.byID.lookup id = some record → record.handle.state = .released →
      record.handle.inWindow now →
      B.cipher.decrypt (artifactAAD B record.handle) record.encrypted = some artifact →
      Ran B now s s none [.released record.handle.keeperID now record.handle artifact]
  | failed (id : String) (next : SignerRecord) (keep : SignerStore → SignerStore)
      (tried done : List HandleEvent) (s' : SignerStore) (written : Option LedgerEvent) :
      Writes B now s id next keep tried done → Persisted s next false s' written →
      Ran B now s s' written tried
  | wrote (id : String) (next : SignerRecord) (keep : SignerStore → SignerStore)
      (tried done : List HandleEvent) (s' : SignerStore) (written : Option LedgerEvent) :
      Writes B now s id next keep tried done → Persisted s next true s' written →
      Ran B now s (keep s') written (tried ++ done)

variable {now : Time} {s : SignerStore} {record : SignerRecord}

section

variable {B : SignerBoundary} {env : HandleEnv} {α : Type} {canceled : Bool}

def HandleOutcome.ran (B : SignerBoundary) (now : Time) (s : SignerStore) (o : HandleOutcome α) : Prop :=
  Ran B now s o.store o.written o.events

lemma journal_append_ok {eventAt : Time}
    {e : LedgerEvent} (h : j.append P canceled eventAt record = .ok (e, j')) :
    j.fault = none ∧ e.handleID = record.handle.id ∧ e.record = record := by
  have hfault : j.fault = none := by
    simp only [SignerJournal.append, guard_ok] at h
    exact not_not.mp h.2.1
  obtain ⟨-, -, -, rfl, -⟩ := append_ok h
  exact ⟨hfault, rfl, rfl⟩

lemma commit_ran {id : String} {next : SignerRecord}
    {keep : SignerStore → SignerStore} {value : α} (h : Writes B now s id next keep tried done) :
    (s.commit B canceled env next keep value tried done).ran B now s := by
  have hfailed : ∀ {s' written}, Persisted s next false s' written →
      HandleOutcome.ran B now s (⟨.error .transition, s', written, tried⟩ : HandleOutcome α) :=
    fun hp => .failed id next keep tried done _ _ h hp
  have hwrote : ∀ {s' written}, Persisted s next true s' written →
      HandleOutcome.ran B now s (⟨.ok value, keep s', written, tried ++ done⟩ : HandleOutcome α) :=
    fun hp => .wrote id next keep tried done _ _ h hp
  rw [SignerStore.commit, SignerStore.persist]
  cases hj : s.journal with
  | none => exact hwrote (.memory hj)
  | some j =>
    cases happend : j.append B.ledger canceled env.now.utc next with
    | error err =>
      simp only [happend]
      exact hfailed .refused
    | ok r =>
      obtain ⟨hfault, hid, hrecord⟩ := journal_append_ok happend
      simp only [happend]
      cases env.write with
      | synced => exact hwrote (.saved j r.2 r.1 hj hfault hid hrecord)
      | failed stored err =>
        refine hfailed (.failed j err _ hj hfault fun e he => ?_)
        cases stored with
        | false => cases he
        | true =>
          cases he
          exact ⟨hid, hrecord⟩

lemma decryptRecord_ok {decryption : Except String Unit} {artifact : Bytes}
    (h : B.decryptRecord decryption record = .ok artifact) :
    B.cipher.decrypt (artifactAAD B record.handle) record.encrypted = some artifact := by
  cases decryption with
  | error err => cases h
  | ok _ =>
    rw [SignerBoundary.decryptRecord] at h
    cases hdecrypt : B.cipher.decrypt (artifactAAD B record.handle) record.encrypted with
    | none => simp [hdecrypt] at h
    | some a =>
      simp only [hdecrypt, Except.ok.injEq] at h
      rw [h]

lemma freshID_ok {draw : ℕ → Except String String} {attempts : List ℕ} {id : String}
    (h : s.freshID draw attempts = .ok id) : s.byID.lookup id = none := by
  induction attempts with
  | nil => cases h
  | cons attempt rest ih =>
    rw [SignerStore.freshID] at h
    cases hdraw : draw attempt with
    | error err => simp [hdraw] at h
    | ok text =>
      simp only [hdraw] at h
      split_ifs at h with hfound
      · exact ih h
      · cases h
        simpa using hfound

lemma prepare_ran (given : PrepareInput) : (s.prepare B env given).ran B env.now.utc s := by
  rw [SignerStore.prepare]
  split_ifs with hvalid
  · exact .kept
  · split
    · split
      · exact .kept
      · split_ifs
        · exact .kept
        · split
          · exact .kept
          · split_ifs <;> exact .kept
    · rename_i hkey
      split
      · exact .kept
      · rename_i id hid
        split
        · exact .kept
        · rename_i nonce hnonce
          exact commit_ran (.created id given.utc nonce _ (freshID_ok hid) hkey (by simpa using hvalid) rfl)

lemma activate_ran (id : String) (given : ActivationProof) : (s.activate B env id given).ran B env.now.utc s := by
  rw [SignerStore.activate]
  split
  · exact .kept
  · rename_i record hrecord
    split_ifs with _ _ hstate
    · exact .kept
    · exact .kept
    · exact .kept
    · simp only [not_or, not_not] at hstate
      split
      · exact .kept
      · exact commit_ran (.activated id record _ given.utc hrecord hstate.1 (by simpa using hstate.2.1) rfl)

lemma release_ran (id keeperID : String) : (s.release B env id keeperID).ran B env.now.utc s := by
  rw [SignerStore.release]
  split
  · exact .kept
  · rename_i record hrecord
    by_cases hkeeper : keeperID = record.handle.keeperID
    · subst hkeeper
      rw [if_neg (not_not.mpr rfl)]
      split
      · exact .kept
      · rename_i hstate
        obtain ⟨hstate, hwindow⟩ := not_or.mp hstate
        rw [not_not] at hstate
        rw [Bool.not_eq_false] at hwindow
        split
        · exact .kept
        · rename_i artifact hdecrypt
          have hartifact := decryptRecord_ok hdecrypt
          split_ifs with hactive
          · exact commit_ran (.released id record _ artifact hrecord hactive hwindow hartifact rfl)
          · exact .reread id record artifact hrecord (hstate.resolve_left hactive) hwindow hartifact
    · rw [if_pos hkeeper]
      exact .kept

lemma expire_ran (id : String) : (s.expire B env id).ran B env.now.utc s := by
  rw [SignerStore.expire]
  split
  · exact .kept
  · rename_i record hrecord
    split_ifs with hstate
    · exact .kept
    · simp only [not_or, not_not] at hstate
      split
      · exact .kept
      · exact commit_ran (.closed id record _ .expired "EXPIRED_UNACTIVATED" hrecord
          (by rw [hstate.1]; exact .expired) (.inl rfl) rfl)

lemma proveAndExpireUnactivated_ran (requestID operationID actionID inputHash : String) :
    (s.proveAndExpireUnactivated B env requestID operationID actionID inputHash).ran B env.now.utc s := by
  rw [SignerStore.proveAndExpireUnactivated]
  split_ifs
  · exact .kept
  · split
    · exact .kept
    · rename_i id _
      split
      · exact .kept
      · rename_i record hrecord
        split_ifs with _ _ hstate
        · exact .kept
        · exact .kept
        · exact .kept
        · simp only [not_or, not_not] at hstate
          split
          · exact .kept
          · exact commit_ran (.closed id record _ .expired "EXPIRED_UNACTIVATED" hrecord
              (by rw [hstate.1]; exact .expired) (.inl rfl) rfl)

lemma finalize_ran (id outcome : String) : (s.finalize B env id outcome).ran B env.now.utc s := by
  rw [SignerStore.finalize]
  split
  · exact .kept
  · rename_i record hrecord
    split_ifs with hstate
    · exact .kept
    · simp only [not_or, not_not] at hstate
      exact commit_ran (.closed id record _ .terminal outcome hrecord
        (by rw [hstate.1]; exact .finalized) (.inr rfl) rfl)

end

/-! ## Stores and ledgers -/

def SignerStore.records (s : SignerStore) (id : String) : Option SignerRecord := s.byID.lookup id

/-- The records of a ledger, the last one of each handle. -/
def recorded (events : List LedgerEvent) : String → Option SignerRecord :=
  events.foldl (fun records e => update records e.handleID (some e.record)) fun _ => none

/-- `byAction` finds every record of `byID`. -/
def SignerStore.Indexed (s : SignerStore) : Prop :=
  ∀ id r, s.records id = some r → s.byAction.lookup r.key = some id

/-- The records of a ledger and those of its store are the same, but for one that a failed call has
written. -/
def SignerStore.Linked (s : SignerStore) (durable : List LedgerEvent) : Prop :=
  recorded durable = s.records ∨ (∃ j, s.journal = some j ∧ j.fault ≠ none) ∧
    ∃ id next, Turns (s.records id) (some next) ∧ recorded durable = update s.records id (some next)

variable {s' : SignerStore} {id : String} {next : SignerRecord} {keep : SignerStore → SignerStore}
  {written : Option LedgerEvent}

section

variable {B : SignerBoundary} {events : List LedgerEvent}

lemma recorded_append (events : List LedgerEvent) (e : LedgerEvent) :
    recorded (events ++ [e]) = update (recorded events) e.handleID (some e.record) := by
  simp [recorded]

lemma records_insert (d : Dict String SignerRecord) (id : String) (r : SignerRecord) :
    (fun k => (d.insert id r).lookup k) = update (fun k => d.lookup k) id (some r) := by
  funext k
  rw [lookup_insert_ite, update_apply]

lemma Persisted.records {ok : Bool} (h : Persisted s next ok s' written) :
    s'.records = s.records ∧ s'.byAction = s.byAction := by
  cases h <;> exact ⟨rfl, rfl⟩

lemma Grounded.handle_id (h : Grounded B past s.records) (hr : s.records id = some r) :
    r.handle.id = id := by
  obtain ⟨input, -, hbinding, -⟩ := h.prepared id r hr
  exact congrArg (·.id) hbinding

section

variable (h : Writes B now s id next keep tried done)
include h

lemma Writes.turns : Turns (s.records id) (some next) := by
  cases h with
  | created input nonce _ hnone _ _ heq =>
    rw [SignerStore.records, hnone, heq]
    exact .appeared _ rfl
  | activated record _ proof hrecord hstate _ heq =>
    rw [SignerStore.records, hrecord, heq]
    exact .moved _ _ rfl (by rw [hstate]; exact .activated)
  | released record _ artifact hrecord hstate _ _ heq =>
    rw [SignerStore.records, hrecord, heq]
    exact .moved _ _ rfl (by rw [hstate]; exact .released)
  | closed record _ state outcome hrecord hmoves _ heq =>
    rw [SignerStore.records, hrecord, heq]
    exact .moved _ _ rfl hmoves

lemma Writes.grounded (hg : Grounded B past s.records)
    (hi : s.Indexed) : Grounded B (past ++ tried) (update s.records id (some next)) := by
  have hg := hg.mono (subset_append_left past tried)
  cases h with
  | created input nonce _ hnone hkey _ heq =>
    subst heq
    refine hg.create (by simp) fun id' r hr heq => ?_
    have := hi id' r hr
    rw [heq, hkey] at this
    cases this
  | activated record _ proof hrecord hstate _ heq =>
    subst heq
    exact hg.change hrecord rfl rfl fun _ _ => ⟨record.handle, proof, by simp, rfl⟩
  | released record _ artifact hrecord hstate _ _ heq =>
    subst heq
    refine hg.change hrecord rfl rfl fun _ _ => hg.verified id record hrecord ?_ ?_ <;> simp [hstate]
  | closed record _ state outcome hrecord hmoves hend heq =>
    subst heq
    refine hg.change hrecord rfl rfl fun _ hexpired => ?_
    obtain rfl | rfl := hend
    · exact absurd rfl hexpired
    · refine hg.verified id record hrecord ?_ ?_ <;> intro hstate <;> rw [hstate] at hmoves <;> cases hmoves

lemma Writes.added_or_put :
    (next.handle.id = id ∧ s.byAction.lookup next.key = none ∧ keep = SignerStore.add id next) ∨
      ∃ record, s.records id = some record ∧ next.handle.binding = record.handle.binding ∧
        keep = SignerStore.put id next := by
  cases h with
  | created input nonce _ _ hkey _ heq =>
    subst heq
    exact .inl ⟨rfl, hkey, rfl⟩
  | activated record _ proof hrecord _ _ heq | released record _ artifact hrecord _ _ _ heq
  | closed record _ state outcome hrecord _ _ heq =>
    exact .inr ⟨record, hrecord, by rw [heq]; rfl, rfl⟩

lemma Writes.handle_id (hg : Grounded B past s.records) :
    next.handle.id = id := by
  obtain ⟨hid, -⟩ | ⟨record, hrecord, hbinding, -⟩ := h.added_or_put
  · exact hid
  · have hsame := congrArg (fun b : Handle => b.id) hbinding
    exact hsame.trans (hg.handle_id hrecord)

lemma Writes.keep_journal : (keep s').journal = s'.journal := by
  cases h <;> rfl

lemma Writes.keep_records (hs : s'.records = s.records) :
    (keep s').records = update s.records id (some next) := by
  rw [← hs]
  cases h <;> exact records_insert ..

lemma Writes.keep_indexed (hi : s.Indexed)
    (hs : s'.records = s.records) (hactions : s'.byAction = s.byAction) : (keep s').Indexed := by
  intro id' r hr
  rw [h.keep_records hs] at hr
  obtain ⟨-, hkey, rfl⟩ | ⟨record, hrecord, hbinding, rfl⟩ := h.added_or_put
  · show (s'.byAction.insert next.key id).lookup r.key = some id'
    rcases update_eq_some.mp hr with ⟨rfl, rfl⟩ | ⟨-, hr⟩
    · rw [lookup_insert]
    · have hold := hi id' r hr
      have hne : r.key ≠ next.key := by
        intro hsame
        rw [hsame, hkey] at hold
        cases hold
      rw [lookup_insert_ne hne, hactions]
      exact hold
  · show s'.byAction.lookup r.key = some id'
    rw [hactions]
    rcases update_eq_some.mp hr with ⟨rfl, rfl⟩ | ⟨-, hr⟩
    · rw [key_congr hbinding]
      exact hi id' record hrecord
    · exact hi id' r hr

end

/-! ### Opening -/

lemma replay_recorded (h : foldCheck (SignerJournal.replayEvent P) j events = .ok j') :
    (fun id => j'.records.lookup id) = events.foldl
      (fun (records : String → Option SignerRecord) e => update records e.handleID (some e.record))
      (fun id => j.records.lookup id) := by
  induction events generalizing j with
  | nil =>
    cases h
    rfl
  | cons e events ih =>
    obtain ⟨j₁, hreplay, hrest⟩ := foldCheck_cons_ok.mp h
    simp only [SignerJournal.replayEvent, guard_ok, bind_unit_eq_ok, Except.ok.injEq] at hreplay
    obtain ⟨-, -, -, -, rfl⟩ := hreplay
    rw [ih hrest, foldl_cons]
    exact congrArg (fun f => List.foldl _ f events) (records_insert ..)

lemma restore_ok {env : OpenEnv} {entry : (_ : String) × SignerRecord}
    (h : s.restore B env entry = .ok s') : s' = s.add entry.1 entry.2 := by
  simp only [SignerStore.restore, bind_eq_ok, guard_ok, Except.ok.injEq] at h
  obtain ⟨-, -, -, artifact, -, -, -, -, rfl⟩ := h
  rfl

/-- The store that is built from records with distinct identifiers and keys. -/
lemma restore_all {env : OpenEnv} {entries : List ((_ : String) × SignerRecord)}
    {journal : Option SignerJournal} (hsame : ∀ e ∈ entries, ∀ e' ∈ entries, e.1 = e'.1 → e = e')
    (hkeys : ∀ e ∈ entries, ∀ e' ∈ entries, e.2.key = e'.2.key → e.1 = e'.1)
    (h : foldCheck (SignerStore.restore B env) { journal } entries = .ok s) :
    (∀ id r, s.records id = some r ↔ ⟨id, r⟩ ∈ entries) ∧
      (∀ e ∈ entries, s.byAction.lookup e.2.key = some e.1) ∧
      ∀ key id, s.byAction.lookup key = some id → ∃ r, ⟨id, r⟩ ∈ entries ∧ r.key = key := by
  induction entries using List.reverseRecOn generalizing s with
  | nil =>
    cases h
    exact ⟨by simp [SignerStore.records], by simp, fun _ _ hlookup => nomatch hlookup⟩
  | append_singleton entries e ih =>
    obtain ⟨s₁, hfold, hlast⟩ := foldCheck_append_ok.mp h
    rw [foldCheck_singleton] at hlast
    cases restore_ok hlast
    have hmem : ∀ x ∈ entries, x ∈ entries ++ [e] := fun x hx => mem_append_left _ hx
    obtain ⟨hrecords, hactions, hpointed⟩ := ih (fun x hx y hy => hsame x (hmem x hx) y (hmem y hy))
      (fun x hx y hy => hkeys x (hmem x hx) y (hmem y hy)) hfold
    refine ⟨fun id r => ?_, fun x hx => ?_, fun key id hlookup => ?_⟩
    · show (s₁.byID.insert e.1 e.2).lookup id = some r ↔ _
      rw [lookup_insert_eq_some, mem_append, mem_singleton]
      constructor
      · rintro (⟨rfl, rfl⟩ | ⟨-, hold⟩)
        · exact .inr rfl
        · exact .inl ((hrecords id r).mp hold)
      · rintro (hold | heq)
        · by_cases hid : id = e.1
          · have := hsame ⟨id, r⟩ (hmem _ hold) e (by simp) hid
            exact .inl ⟨hid, by rw [← this]⟩
          · exact .inr ⟨hid, (hrecords id r).mpr hold⟩
        · exact .inl ⟨congrArg (·.1) heq, by rw [← heq]⟩
    · show (s₁.byAction.insert e.2.key e.1).lookup x.2.key = some x.1
      rw [lookup_insert_ite]
      split_ifs with hkey
      · rw [hkeys x hx e (by simp) hkey]
      · obtain hx | hx := mem_append.mp hx
        · exact hactions x hx
        · rw [mem_singleton.mp hx] at hkey
          exact absurd rfl hkey
    · obtain ⟨rfl, rfl⟩ | ⟨-, hlookup⟩ := lookup_insert_eq_some.mp hlookup
      · exact ⟨e.2, by simp, rfl⟩
      · obtain ⟨r, hr, hkey⟩ := hpointed key id hlookup
        exact ⟨r, hmem _ hr, hkey⟩

lemma open_ok {env : OpenEnv} (hg : Grounded B past (recorded events))
    (h : openFileSignerStore B env events = .ok s) : s.records = recorded events ∧ s.Indexed ∧
      ∀ key id, s.byAction.lookup key = some id → ∃ r, s.records id = some r ∧ r.key = key := by
  obtain ⟨j, hreplay, hrestore⟩ := bind_eq_ok.mp h
  have hj : (fun id => j.records.lookup id) = recorded events := replay_recorded hreplay
  have hlookup : ∀ e ∈ j.records.entries, recorded events e.1 = some e.2 := fun e he => by
    rw [← hj]
    exact mem_lookup_iff.mpr he
  obtain ⟨hrecords, hactions, hpointed⟩ := restore_all (fun e he e' he' hid => by
      have h' := hlookup e' he'
      rw [← hid, hlookup e he, Option.some.injEq] at h'
      exact Sigma.ext hid (heq_of_eq h'))
    (fun e he e' he' => hg.unique e.1 e'.1 e.2 e'.2 (hlookup e he) (hlookup e' he')) hrestore
  refine ⟨?_, fun id r hr => hactions ⟨id, r⟩ ((hrecords id r).mp hr), fun key id hlookup => ?_⟩
  · funext id
    refine Option.ext fun r => ?_
    rw [hrecords, ← mem_lookup_iff, ← hj]
    rfl
  · obtain ⟨r, hr, hkey⟩ := hpointed key id hlookup
    exact ⟨r, (hrecords id r).mpr hr, hkey⟩

end

/-! ## Runs -/

/-- What holds of a system, given what was done so far. -/
structure SignerSystem.Holds (B : SignerBoundary) (past : List HandleEvent) (σ : SignerSystem) : Prop where
  file : Grounded B past (recorded σ.durable)
  memory : ∀ s, σ.store = some s → Grounded B past s.records
  indexed : ∀ s, σ.store = some s → s.Indexed
  linked : ∀ s, σ.store = some s → s.journal ≠ none → s.Linked σ.durable

/-- The records that the next call, or the next process, finds. -/
def SignerSystem.records (σ : SignerSystem) : String → Option SignerRecord :=
  match σ.store with
  | some s => s.records
  | none => recorded σ.durable

/-- The reading of the clock that an action takes. -/
def SignerAction.clock : SignerAction → Option Time
  | .start env => some env.now
  | .stop => none
  | .prepare env _ | .activate env _ _ | .release env _ _ | .expire env _
  | .proveAndExpireUnactivated env _ _ _ _ | .finalize env _ _ => some env.now

/-- What an action does: a process starts or ends, or a call runs. -/
inductive Acted (B : SignerBoundary) (now : Time) (σ : SignerSystem) : SignerSystem → List HandleEvent → Prop where
  | started (env : OpenEnv) (s : SignerStore) : σ.store = none →
      openFileSignerStore B env σ.durable = .ok s → Acted B now σ { σ with store := some s } []
  | stopped (s : SignerStore) : σ.store = some s → s.journal ≠ none → Acted B now σ { σ with store := none } []
  | ran (s s' : SignerStore) (written : Option LedgerEvent) (events : List HandleEvent) :
      σ.store = some s → Ran B now s s' written events →
      Acted B now σ ⟨σ.durable ++ written.toList, some s'⟩ events

variable {σ σ' : SignerSystem}

section

variable {B : SignerBoundary} {action : SignerAction} {events : List HandleEvent}
  {durable : List LedgerEvent}

lemma apply_acted {α : Type} {op : SignerStore → HandleOutcome α} (hop : ∀ s, (op s).ran B now s)
    (h : σ.apply op = .ok (σ', events)) : Acted B now σ σ' events := by
  rw [SignerSystem.apply] at h
  cases hs : σ.store with
  | none => simp [hs] at h
  | some s =>
    simp only [hs, ok_pair_eq] at h
    obtain ⟨rfl, rfl⟩ := h
    exact .ran s _ _ _ hs (hop s)

lemma act_acted (hnow : ∀ u, action.clock = some u → now = u.utc)
    (h : σ.act B action = .ok (σ', events)) : Acted B now σ σ' events := by
  cases action with
  | start env =>
    rw [SignerSystem.act] at h
    cases hs : σ.store with
    | some s => simp [hs] at h
    | none =>
      simp only [hs] at h
      obtain ⟨s, hopen, heq⟩ := map_eq_ok.mp h
      cases heq
      exact .started env s hs hopen
  | stop =>
    rw [SignerSystem.act] at h
    split_ifs at h with hjournal
    cases h
    obtain ⟨s, hs, hsome⟩ := Option.any_eq_true .. |>.mp hjournal
    exact .stopped s hs (Option.isSome_iff_ne_none.mp hsome)
  | prepare env input =>
    obtain rfl := hnow _ rfl
    exact apply_acted (fun s => prepare_ran input) h
  | activate env id proof =>
    obtain rfl := hnow _ rfl
    exact apply_acted (fun s => activate_ran id proof) h
  | release env id keeperID =>
    obtain rfl := hnow _ rfl
    exact apply_acted (fun s => release_ran id keeperID) h
  | expire env id =>
    obtain rfl := hnow _ rfl
    exact apply_acted (fun s => expire_ran id) h
  | proveAndExpireUnactivated env requestID operationID actionID inputHash =>
    obtain rfl := hnow _ rfl
    exact apply_acted (fun s => proveAndExpireUnactivated_ran requestID operationID actionID inputHash) h
  | finalize env id outcome =>
    obtain rfl := hnow _ rfl
    exact apply_acted (fun s => finalize_ran id outcome) h

lemma exists_acted (h : σ.act B action = .ok (σ', events)) : ∃ now, Acted B now σ σ' events := by
  cases hclock : action.clock with
  | none => exact ⟨⟨0, 0⟩, act_acted (by simp [hclock]) h⟩
  | some t => exact ⟨t.utc, act_acted (by simp [hclock]) h⟩

lemma SignerStore.Linked.exact {s : SignerStore}
    (h : s.Linked durable) (hj : s.journal = some j) (hfault : j.fault = none) :
    recorded durable = s.records := by
  obtain heq | ⟨⟨j', hj', hfault'⟩, -⟩ := h
  · exact heq
  · cases hj.symm.trans hj'
    exact absurd hfault hfault'

section

variable {ok : Bool}

section

variable (hlinked : s.journal ≠ none → s.Linked durable)
include hlinked

lemma Persisted.file (hp : Persisted s next ok s' written) (hid : next.handle.id = id) :
    written = none ∨ recorded (durable ++ written.toList) = update s.records id (some next) := by
  have happend : ∀ j e, s.journal = some j → j.fault = none → e.handleID = next.handle.id →
      e.record = next → recorded (durable ++ [e]) = update s.records id (some next) := by
    intro j e hj hfault heid herecord
    rw [recorded_append, (hlinked (by simp [hj])).exact hj hfault, heid, herecord, hid]
  cases hp with
  | memory | refused => exact .inl rfl
  | failed j err _ hj hfault hwritten =>
    cases written with
    | none => exact .inl rfl
    | some e => exact .inr (happend j e hj hfault (hwritten e rfl).1 (hwritten e rfl).2)
  | saved j j' e hj hfault heid herecord => exact .inr (happend j e hj hfault heid herecord)

lemma Persisted.file_grounded (hp : Persisted s next ok s' written)
    (hw : Writes B now s id next keep tried done) (hfile : Grounded B past (recorded durable))
    (hg : Grounded B past s.records) (hi : s.Indexed) :
    Grounded B (past ++ tried) (recorded (durable ++ written.toList)) := by
  obtain rfl | hupdate := hp.file hlinked (hw.handle_id hg)
  · rw [append_none]
    exact hfile.mono (subset_append_left ..)
  · rw [hupdate]
    exact hw.grounded hg hi

lemma Persisted.linked_failed (hp : Persisted s next false s' written)
    (hw : Writes B now s id next keep tried done) (hg : Grounded B past s.records) (hjournal : s'.journal ≠ none) :
    s'.Linked (durable ++ written.toList) := by
  have hfile := hp.file hlinked (hw.handle_id hg)
  cases hp with
  | refused => simpa using hlinked hjournal
  | failed j err _ hj hfault =>
    obtain rfl | hupdate := hfile
    · rw [append_none]
      exact .inl ((hlinked (by simp [hj])).exact hj hfault)
    · exact .inr ⟨⟨_, rfl, by simp⟩, id, next, hw.turns, hupdate⟩

lemma Persisted.linked_saved (hp : Persisted s next true s' written)
    (hw : Writes B now s id next keep tried done) (hg : Grounded B past s.records) (hjournal : (keep s').journal ≠ none) :
    (keep s').Linked (durable ++ written.toList) := by
  rw [hw.keep_journal] at hjournal
  refine .inl ?_
  rw [hw.keep_records hp.records.1]
  have hfile := hp.file hlinked (hw.handle_id hg)
  cases hp with
  | memory hnone => exact absurd hnone hjournal
  | saved => exact hfile.resolve_left (by simp)

end

end

lemma holds_of_store {s : SignerStore}
    (hfile : Grounded B past (recorded durable)) (hmemory : Grounded B past s.records)
    (hi : s.Indexed)
    (hlinked : s.journal ≠ none → s.Linked durable) : SignerSystem.Holds B past ⟨durable, some s⟩ where
  file := hfile
  memory := by
    rintro _ ⟨⟩
    exact hmemory
  indexed := by
    rintro _ ⟨⟩
    exact hi
  linked := by
    rintro _ ⟨⟩
    exact hlinked

lemma SignerSystem.Holds.mono {past' : List HandleEvent} (h : σ.Holds B past) (hsub : past ⊆ past') :
    σ.Holds B past' :=
  ⟨h.file.mono hsub, fun s hs => (h.memory s hs).mono hsub, h.indexed, h.linked⟩

lemma SignerSystem.Holds.acted (h : σ.Holds B past) (ha : Acted B now σ σ' events) :
    σ'.Holds B (past ++ events) := by
  cases ha with
  | started env s _ hopen =>
    obtain ⟨hrecords, hi, -⟩ := open_ok h.file hopen
    rw [append_nil]
    exact holds_of_store h.file (by rw [hrecords]; exact h.file) hi fun _ => .inl hrecords.symm
  | stopped s =>
    rw [append_nil]
    exact ⟨h.file, by simp, by simp, by simp⟩
  | ran s s' written _ hs hran =>
    have hg := h.memory s hs
    have hi := h.indexed s hs
    have hl := h.linked s hs
    cases hran with
    | kept =>
      simp only [append_none, append_nil]
      exact holds_of_store h.file hg hi hl
    | reread id record artifact =>
      rw [append_none]
      exact (holds_of_store h.file hg hi hl).mono (subset_append_left ..)
    | failed id next keep _ done _ _ hw hp =>
      obtain ⟨hrecords, hactions⟩ := hp.records
      refine holds_of_store (hp.file_grounded hl hw h.file hg hi) ?_ ?_ (hp.linked_failed hl hw hg)
      · rw [hrecords]
        exact hg.mono (subset_append_left ..)
      · intro id' r hr
        rw [hactions]
        exact hi id' r (hrecords ▸ hr)
    | wrote id next keep tried done s'' _ hw hp =>
      obtain ⟨hrecords, hactions⟩ := hp.records
      have hsub : past ++ tried ⊆ past ++ (tried ++ done) := by
        rw [← append_assoc]
        exact subset_append_left ..
      refine holds_of_store ((hp.file_grounded hl hw h.file hg hi).mono hsub) ?_
        (hw.keep_indexed hi hrecords hactions) (hp.linked_saved hl hw hg)
      rw [hw.keep_records hrecords]
      exact (hw.grounded hg hi).mono hsub

lemma turns_update {records : String → Option SignerRecord} {id : String} {next : SignerRecord}
    (h : Turns (records id) (some next)) (k : String) :
    Turns (records k) (update records id (some next) k) := by
  by_cases hk : k = id
  · subst hk
    rw [update_self]
    exact h
  · rw [update_of_ne hk]
    exact .same _

lemma SignerSystem.Holds.turns (h : σ.Holds B past) (ha : Acted B now σ σ' events) (id : String) :
    Turns (σ.records id) (σ'.records id) := by
  cases ha with
  | started env s hnone hopen =>
    have hrecords : σ.records = s.records := by
      rw [SignerSystem.records, hnone, (open_ok h.file hopen).1]
    rw [hrecords]
    exact .same _
  | stopped s hs hjournal =>
    have hrecords : σ.records = s.records := by rw [SignerSystem.records, hs]
    rw [hrecords]
    show Turns _ (recorded σ.durable id)
    obtain heq | ⟨-, id', next, hturns, heq⟩ := h.linked s hs hjournal
    · rw [heq]
      exact .same _
    · rw [heq]
      exact turns_update hturns id
  | ran s s' written _ hs hran =>
    have hrecords : σ.records = s.records := by rw [SignerSystem.records, hs]
    rw [hrecords]
    show Turns _ (s'.records id)
    cases hran with
    | kept | reread => exact .same _
    | failed id' next keep _ done _ _ hw hp =>
      rw [hp.records.1]
      exact .same _
    | wrote id' next keep tried done s'' _ hw hp =>
      rw [hw.keep_records hp.records.1]
      exact turns_update hw.turns id

end

/-- The artifact is handed to the keeper of the `Prepare` that made the handle, inside its window, is the
signature of that `Prepare`, and the verifier had accepted an activation of the handle. -/
def Rightful (past : List HandleEvent) (keeperID : String) (now : Time) (handle : Handle)
    (artifact : Bytes) : Prop :=
  (∃ input, .prepared handle.id input ∈ past ∧ handle.binding = input.handle handle.id ∧
    keeperID = input.keeperID ∧ artifact = input.signature ∧ now.before input.validAfter = false ∧
    now.before input.validUntil) ∧
  ∃ h proof, .verified h proof ∈ past ∧ h.binding = handle.binding

section

variable {B : SignerBoundary} {events : List HandleEvent} {keeperID : String} {t : Time}
  {handle : Handle} {artifact : Bytes}

lemma Grounded.rightful {s : SignerStore} {id : String}
    (hg : Grounded B past s.records) (hr : s.records id = some record)
    (hp : record.handle.state ≠ .prepared) (he : record.handle.state ≠ .expired)
    (hwindow : record.handle.inWindow now)
    (hdecrypt : B.cipher.decrypt (artifactAAD B record.handle) record.encrypted = some artifact)
    (hbinding : handle.binding = record.handle.binding) :
    Rightful past record.handle.keeperID now handle artifact := by
  obtain ⟨input, hin, hfit, hsignature⟩ := hg.prepared id record hr
  have hid : handle.id = id := congrArg (fun h : Handle => h.id) (hbinding.trans hfit)
  have hkeeper : record.handle.keeperID = input.keeperID := congrArg (fun h : Handle => h.keeperID) hfit
  have hafter : record.handle.validAfter = input.validAfter := congrArg (fun h : Handle => h.validAfter) hfit
  have huntil : record.handle.validUntil = input.validUntil := congrArg (fun h : Handle => h.validUntil) hfit
  rw [Handle.inWindow, Bool.and_eq_true, Bool.not_eq_true', hafter, huntil] at hwindow
  obtain ⟨h, proof, hverified, hsame⟩ := hg.verified id record hr hp he
  refine ⟨⟨input, by rw [hid]; exact hin, by rw [hbinding, hfit, hid], hkeeper, ?_, hwindow⟩, h, proof,
    hverified, hsame.trans hbinding.symm⟩
  exact Option.some.inj (hdecrypt.symm.trans hsignature)

lemma Writes.not_released_tried {s : SignerStore} {id : String} {next : SignerRecord}
    {keep : SignerStore → SignerStore}
    (h : Writes B t s id next keep tried done) : .released keeperID now handle artifact ∉ tried := by
  cases h <;> simp

lemma Acted.rightful (ha : Acted B t σ σ' events) (h : σ.Holds B past)
    (hreleased : .released keeperID now handle artifact ∈ events) :
    Rightful past keeperID now handle artifact := by
  cases ha with
  | started | stopped => simp at hreleased
  | ran s s' written _ hs hran =>
    have hg := h.memory s hs
    cases hran with
    | kept => simp at hreleased
    | reread id record artifact' hr hstate hwindow hdecrypt =>
      cases mem_singleton.mp hreleased
      exact hg.rightful hr (by simp [hstate]) (by simp [hstate]) hwindow hdecrypt rfl
    | failed id next keep _ done _ _ hw hp => exact absurd hreleased hw.not_released_tried
    | wrote id next keep tried done s'' _ hw hp =>
      have hdone := (mem_append.mp hreleased).resolve_left hw.not_released_tried
      cases hw with
      | created | activated | closed => simp at hdone
      | released record _ artifact' hr hstate hwindow hdecrypt heq =>
        cases mem_singleton.mp hdone
        exact hg.rightful hr (by simp [hstate]) (by simp [hstate]) hwindow hdecrypt (by rw [heq]; rfl)

end

section

variable (B : SignerBoundary) (memory : Bool)

def afterActions (actions : List SignerAction) : SignerSystem :=
  execute (SignerSystem.act B) (SignerSystem.initial memory) actions

def deeds (actions : List SignerAction) : List HandleEvent :=
  (successes (SignerSystem.act B) (SignerSystem.initial memory) actions).flatMap (·.log)

lemma initial_holds : (SignerSystem.initial memory).Holds B [] := by
  have hnone : Grounded B [] fun _ => none := by constructor <;> simp
  cases memory with
  | true => exact holds_of_store hnone hnone (fun id r hr => by cases hr) (absurd rfl)
  | false => exact ⟨hnone, by simp [SignerSystem.initial], by simp [SignerSystem.initial],
      by simp [SignerSystem.initial]⟩

lemma reachable_holds (actions : List SignerAction) :
    (afterActions B memory actions).Holds B (deeds B memory actions) := by
  unfold afterActions deeds
  refine history_rule (H := fun past (σ : SignerSystem) => σ.Holds B (past.flatMap (·.log)))
    (initial_holds B memory) (fun past σ action σ' events h hact => ?_) actions
  rw [flatMap_append, flatMap_singleton]
  obtain ⟨now, ha⟩ := exists_acted hact
  exact h.acted ha

lemma turns_snoc (actions : List SignerAction) (action : SignerAction) (id : String) :
    Turns ((afterActions B memory actions).records id)
      ((afterActions B memory (actions ++ [action])).records id) := by
  obtain hsame | ⟨events, hact⟩ :=
    execute_snoc_cases (SignerSystem.act B) (SignerSystem.initial memory) actions action
  · rw [afterActions, afterActions, hsame]
    exact .same _
  · obtain ⟨now, ha⟩ := exists_acted hact
    exact (reachable_holds B memory actions).turns ha id

lemma moves_of_prefix {earlier actions : List SignerAction} (hfirst : earlier <+: actions)
    {id : String} (hr : (afterActions B memory earlier).records id = some r) :
    ∃ r', (afterActions B memory actions).records id = some r' ∧
      r'.handle.binding = r.handle.binding ∧
      Relation.ReflTransGen Moves r.handle.state r'.handle.state := by
  induction actions using List.reverseRecOn with
  | nil =>
    cases prefix_nil.mp hfirst
    exact ⟨r, hr, rfl, .refl⟩
  | append_singleton actions action ih =>
    obtain rfl | hfirst := prefix_concat_iff.mp hfirst
    · exact ⟨r, hr, rfl, .refl⟩
    · obtain ⟨r', hr', hbinding, hmoves⟩ := ih hfirst
      have hturns := turns_snoc B memory actions action id
      rw [hr'] at hturns
      generalize (afterActions B memory (actions ++ [action])).records id = after at hturns ⊢
      cases hturns with
      | same => exact ⟨r', rfl, hbinding, hmoves⟩
      | moved _ next hnext hmove => exact ⟨next, rfl, hnext.trans hbinding, hmoves.tail hmove⟩

/-- The promises of a signer store after a run. -/
structure HandleMachine (actions : List SignerAction) : Prop where
  /-- An action leaves a record as it is, adds one that is PREPARED, or moves one, with nothing else of
      its handle but the outcome changed. -/
  step : ∀ action id, Turns ((afterActions B memory actions).records id)
    ((afterActions B memory (actions ++ [action])).records id)
  /-- A handle is there for good, with its binding, and in a state that its moves lead to. -/
  run : ∀ earlier, earlier <+: actions → ∀ id r, (afterActions B memory earlier).records id = some r →
    ∃ r', (afterActions B memory actions).records id = some r' ∧ r'.handle.binding = r.handle.binding ∧
      Relation.ReflTransGen Moves r.handle.state r'.handle.state
  /-- Artifacts are handed out rightly. -/
  release : ∀ action σ events keeperID now handle artifact,
    (afterActions B memory actions).act B action = .ok (σ, events) →
    .released keeperID now handle artifact ∈ events →
    Rightful (deeds B memory actions) keeperID now handle artifact
  /-- An action of an operation never has a second handle. -/
  single : ∀ earlier, earlier <+: actions → ∀ id id' r r',
    (afterActions B memory earlier).records id = some r →
    (afterActions B memory actions).records id' = some r' →
    r.handle.operationID = r'.handle.operationID → r.handle.actionID = r'.handle.actionID → id = id'

theorem handle_machine (actions : List SignerAction) : HandleMachine B memory actions where
  step := turns_snoc B memory actions
  run earlier hfirst id r hr := moves_of_prefix B memory hfirst hr
  release action σ events keeperID now handle artifact hact hreleased := by
    obtain ⟨t, ha⟩ := exists_acted hact
    exact ha.rightful (reachable_holds B memory actions) hreleased
  single earlier hfirst id id' r r' hr hr' hoperation haction := by
    obtain ⟨last, hlast, hbinding, -⟩ := moves_of_prefix B memory hfirst hr
    have hkey : last.key = r'.key := by
      rw [key_congr hbinding, SignerRecord.key, SignerRecord.key, hoperation, haction]
    have hholds := reachable_holds B memory actions
    rw [SignerSystem.records] at hlast hr'
    cases hstore : (afterActions B memory actions).store with
    | some s =>
      rw [hstore] at hlast hr'
      exact (hholds.memory s hstore).unique id id' last r' hlast hr' hkey
    | none =>
      rw [hstore] at hlast hr'
      exact hholds.file.unique id id' last r' hlast hr' hkey

end

end FlowOps.Bearer

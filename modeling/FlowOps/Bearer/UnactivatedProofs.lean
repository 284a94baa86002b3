import FlowOps.Bearer.HandleMachine

/-!
# Proofs that nothing was activated

`ProveAndExpireUnactivated` (handle.go:302) expires the handle of a request, or finds that there is
none and writes nothing. Either way the coordinator gives the reservation back if the window of the
request is over by then. What keeps the request from being activated later is the clock: `Prepare`
and `Activate` both refuse once the window is over. A handle may still appear, when a `Prepare` that
failed has left its line in the ledger and the ledger is opened again; it can only expire.

Result: `unactivated_proof_final`.
-/

namespace FlowOps.Bearer

open Function List

/-- A record that was made for a request. -/
def ActivationRequest.Names (request : ActivationRequest) (r : SignerRecord) : Prop :=
  r.handle.signerRequestHash = request.inputHash ∧ r.handle.operationID = request.operationID ∧
    r.handle.actionID = request.actionID

/-- From `t` on, no handle of the request can be activated. -/
def Spent (request : ActivationRequest) (t : Time) (records : String → Option SignerRecord) : Prop :=
  ∀ id r, records id = some r → request.Names r →
    r.handle.state = .expired ∨ r.handle.state = .prepared ∧ r.handle.validUntil.ns ≤ t.ns

/-- The handles that were made for the request end when it ends. -/
def EndsWith (request : ActivationRequest) (events : List HandleEvent) : Prop :=
  ∀ id input, .prepared id input ∈ events → input.signerRequestHash = request.inputHash →
    input.validUntil.ns = request.validUntil.ns

/-- No handle of the request can be activated in a system: not one that the store has, and not one
that the ledger brings back. -/
structure SignerSystem.Spent (σ : SignerSystem) (request : ActivationRequest) (t : Time) : Prop where
  memory : ∀ s, σ.store = some s → Bearer.Spent request t s.records
  file : (∀ s, σ.store = some s → s.journal ≠ none) → Bearer.Spent request t (recorded σ.durable)

variable {B : SignerBoundary} {t : Time} {s : SignerStore}

section

variable {now : Time} {request : ActivationRequest} {s' : SignerStore} {σ σ' : SignerSystem}
  {id : String} {next : SignerRecord} {keep : SignerStore → SignerStore}
  {past events tried done : List HandleEvent} {written : Option LedgerEvent}
  {records : String → Option SignerRecord}

lemma names_congr {r : SignerRecord} (heq : next.handle.binding = r.handle.binding)
    (h : request.Names next) : request.Names r := by
  have hsame := congrArg (fun h : Handle => (h.signerRequestHash, h.operationID, h.actionID)) heq
  simp only [Handle.binding, Prod.mk.injEq] at hsame
  rwa [ActivationRequest.Names, ← hsame.1, ← hsame.2.1, ← hsame.2.2]

lemma EndsWith.mono (h : EndsWith request events) (hsub : past ⊆ events) : EndsWith request past :=
  fun id input hin => h id input (hsub hin)

lemma Spent.update (h : Spent request t records)
    (hnext : request.Names next → next.handle.state = .expired ∨
      next.handle.state = .prepared ∧ next.handle.validUntil.ns ≤ t.ns) :
    Spent request t (update records id (some next)) := by
  intro k r hr hnames
  rcases update_eq_some.mp hr with ⟨rfl, rfl⟩ | ⟨-, hr⟩
  · exact hnext hnames
  · exact h k r hr hnames

lemma Writes.spent (hw : Writes B now s id next keep tried done) (h : Spent request t s.records)
    (hend : request.validUntil.ns ≤ t.ns) (hnow : t.ns ≤ now.ns) (hmade : EndsWith request tried) :
    Spent request t (update s.records id (some next)) := by
  refine h.update fun hnames => ?_
  cases hw with
  | created input nonce _ _ _ hvalid heq =>
    subst heq
    have huntil := hmade id input (by simp) hnames.1
    have hlive : now.before input.validUntil := by
      simp only [PrepareInput.valid, Bool.and_eq_true] at hvalid
      exact hvalid.1.1.1.2
    rw [Time.before_iff] at hlive
    omega
  | activated record _ proof hrecord hstate hwindow heq =>
    subst heq
    rw [Handle.inWindow, Bool.and_eq_true, Time.before_iff] at hwindow
    rcases h id record hrecord hnames with hexpired | ⟨-, hlate⟩
    · rw [hstate] at hexpired
      cases hexpired
    · omega
  | released record _ artifact hrecord hstate _ _ heq =>
    subst heq
    rcases h id record hrecord hnames with hother | ⟨hother, -⟩ <;> rw [hstate] at hother <;> cases hother
  | closed record _ state outcome hrecord hmoves hclosed heq =>
    subst heq
    obtain rfl | rfl := hclosed
    · exact .inl rfl
    · rcases h id record hrecord hnames with hother | ⟨hother, -⟩ <;> rw [hother] at hmoves <;> cases hmoves

lemma Persisted.journal {ok : Bool} (hp : Persisted s next ok s' written) (hj : s'.journal ≠ none) :
    s.journal ≠ none := by
  cases hp with
  | memory | refused => exact hj
  | failed j _ _ hs | saved j _ _ hs => rw [hs]; simp

lemma spent_of_store {durable : List LedgerEvent} (hmemory : Spent request t s.records)
    (hfile : s.journal ≠ none → Spent request t (recorded durable)) :
    SignerSystem.Spent ⟨durable, some s⟩ request t := by
  refine ⟨?_, fun hj => hfile (hj s rfl)⟩
  rintro _ ⟨⟩
  exact hmemory

/-- An action after the end of the request leaves it without a handle that can be activated. -/
lemma SignerSystem.Spent.acted (h : σ.Spent request t) (hholds : σ.Holds B past)
    (ha : Acted B now σ σ' events) (hend : request.validUntil.ns ≤ t.ns) (hnow : t.ns ≤ now.ns)
    (hmade : EndsWith request events) : σ'.Spent request t := by
  cases ha with
  | started env s hnone hopen =>
    have hfile := h.file (by simp [hnone])
    refine spent_of_store ?_ fun _ => hfile
    rw [(open_ok hholds.file hopen).1]
    exact hfile
  | stopped s hs hjournal =>
    refine ⟨by simp, fun _ => h.file fun s' hs' => ?_⟩
    cases hs.symm.trans hs'
    exact hjournal
  | ran s s' written _ hs hran =>
    have hmemory := h.memory s hs
    have hfile : s.journal ≠ none → Bearer.Spent request t (recorded σ.durable) := by
      intro hj
      refine h.file fun s' hs' => ?_
      cases hs.symm.trans hs'
      exact hj
    cases hran with
    | kept | reread =>
      rw [append_none]
      exact spent_of_store hmemory hfile
    | failed id next keep _ done _ _ hw hp =>
      have hnext := hw.spent hmemory hend hnow hmade
      refine spent_of_store (by rw [hp.records.1]; exact hmemory) fun hj => ?_
      obtain rfl | hupdate := hp.file (hholds.linked s hs) (hw.handle_id (hholds.memory s hs))
      · rw [append_none]
        exact hfile (hp.journal hj)
      · rw [hupdate]
        exact hnext
    | wrote id next keep tried done s'' _ hw hp =>
      have hnext := hw.spent hmemory hend hnow (hmade.mono (subset_append_left ..))
      refine spent_of_store (by rw [hw.keep_records hp.records.1]; exact hnext) fun hj => ?_
      rw [hw.keep_journal] at hj
      obtain rfl | hupdate := hp.file (hholds.linked s hs) (hw.handle_id (hholds.memory s hs))
      · rw [append_none]
        exact hfile (hp.journal hj)
      · rw [hupdate]
        exact hnext

end

/-! ## The proof -/

section

variable {env : HandleEnv} {α : Type}

lemma persist_frame {canceled : Bool} {now : Time} {write : Signer.WriteResult} {record : SignerRecord} :
    (s.persist B canceled now write record).2.1.byID = s.byID ∧
      (s.persist B canceled now write record).2.1.byAction = s.byAction := by
  rw [SignerStore.persist]
  repeat' split
  all_goals exact ⟨rfl, rfl⟩

lemma commit_ok {canceled : Bool} {record : SignerRecord} {keep : SignerStore → SignerStore}
    {value v : α} {tried done : List HandleEvent}
    (h : (s.commit B canceled env record keep value tried done).result = .ok v) :
    v = value ∧ ∃ s', (s.commit B canceled env record keep value tried done).store = keep s' ∧
      s'.byID = s.byID ∧ s'.byAction = s.byAction := by
  have hframe := @persist_frame B s canceled env.now.utc env.write record
  rw [SignerStore.commit] at h ⊢
  generalize s.persist B canceled env.now.utc env.write record = p at h hframe ⊢
  obtain ⟨result, s', written⟩ := p
  cases result with
  | error err => cases h
  | ok _ =>
    cases h
    exact ⟨rfl, s', rfl, hframe⟩

lemma prove_ok {given proof : UnactivatedProof} (h : B.prove given = .ok proof) :
    ∃ proofDigest, proof = { given with proofDigest } := by
  rw [SignerBoundary.prove] at h
  split at h
  · cases h
  · rename_i proofDigest _
    exact ⟨proofDigest, (Except.ok.inj h).symm⟩

lemma proveAndExpireUnactivated_ok {requestID operationID actionID inputHash : String}
    {proof : UnactivatedProof} {o : HandleOutcome UnactivatedProof}
    (ho : o = s.proveAndExpireUnactivated B env requestID operationID actionID inputHash)
    (h : o.result = .ok proof) :
    proof.provenAt = env.now.utc ∧ proof.operationID = operationID ∧ proof.actionID = actionID ∧
      ∀ id, o.store.byAction.lookup (signerActionKey operationID actionID) = some id →
        ∃ r, o.store.records id = some r ∧ r.handle.state = .expired := by
  rw [SignerStore.proveAndExpireUnactivated] at ho
  split_ifs at ho
  · subst ho
    cases h
  cases hkey : s.byAction.lookup (signerActionKey operationID actionID) with
  | none =>
    simp only [hkey] at ho
    subst ho
    obtain ⟨digest, rfl⟩ := prove_ok h
    exact ⟨rfl, rfl, rfl, fun id hid => by rw [hkey] at hid; cases hid⟩
  | some id =>
    simp only [hkey] at ho
    cases hrecord : s.byID.lookup id with
    | none =>
      simp only [hrecord] at ho
      subst ho
      cases h
    | some record =>
      simp only [hrecord] at ho
      split_ifs at ho with _ hexpired
      · subst ho
        cases h
      · subst ho
        obtain ⟨digest, rfl⟩ := prove_ok h
        refine ⟨rfl, rfl, rfl, fun id' hid' => ⟨record, ?_, hexpired⟩⟩
        cases hkey.symm.trans hid'
        exact hrecord
      · subst ho
        cases h
      · cases hverifier : env.verifier with
        | error err =>
          simp only [hverifier] at ho
          subst ho
          cases h
        | ok _ =>
          simp only [hverifier] at ho
          subst ho
          obtain ⟨value, hcommit, hprove⟩ := bind_eq_ok.mp h
          obtain ⟨rfl, s', hstore, hbyID, hbyAction⟩ := commit_ok hcommit
          obtain ⟨digest, rfl⟩ := prove_ok hprove
          refine ⟨rfl, rfl, rfl, fun id' hid' => ⟨record.expire, ?_, rfl⟩⟩
          simp only [hstore] at hid' ⊢
          have hsame : id' = id := by
            have hid : s'.byAction.lookup (signerActionKey operationID actionID) = some id' := hid'
            rw [hbyAction, hkey] at hid
            exact (Option.some.inj hid).symm
          subst hsame
          exact AList.lookup_insert _

end

/-- What `activationInputHash` covers: everything but the identifier of the attempt. -/
def ActivationInput.logical (a : ActivationInput) : ActivationInput := { a with requestID := "" }

/-- The handles were made for activation inputs, as `LedgerPreparedSigner.Prepare`
(coordinator.go:49) makes them: with the hash of the input and its window. -/
def PreparedFor (D : ActivationDigests) (events : List HandleEvent) : Prop :=
  ∀ id input, .prepared id input ∈ events → ∃ a : ActivationInput,
    D.activationInputHash a = some input.signerRequestHash ∧ a.validUntil.ns = input.validUntil.ns

lemma prepareActivation_inr {D : ActivationDigests} {s : SignerStore} {now looked : Time}
    {signed : Except String Bytes} {given : ActivationInput} {input : PrepareInput}
    (h : s.prepareActivation D now looked signed given = .ok (.inr input)) :
    ∃ a : ActivationInput, D.activationInputHash a = some input.signerRequestHash ∧
      a.validUntil.ns = input.validUntil.ns := by
  simp only [SignerStore.prepareActivation, guard_ok] at h
  obtain ⟨-, h⟩ := h
  split at h
  · cases h
  · rename_i inputHash hhash
    obtain ⟨found, -, h⟩ := bind_eq_ok.mp h
    split at h
    · cases h
    · split at h
      · cases h
      · cases h
        exact ⟨_, hhash, rfl⟩

section

variable {memory : Bool} {request : ActivationRequest} {D : ActivationDigests} {s : SignerStore}
  {env : HandleEnv} {given input : PrepareInput} {event : HandleEvent} {id : String}

lemma mem_commit_events {α : Type} {canceled : Bool} {record : SignerRecord}
    {keep : SignerStore → SignerStore} {value : α} {tried done : List HandleEvent}
    (h : event ∈ (s.commit B canceled env record keep value tried done).events) :
    event ∈ tried ++ done := by
  unfold SignerStore.commit at h
  split at h
  · exact mem_append_left _ h
  · exact h

lemma prepared_of_prepare (h : .prepared id input ∈ (s.prepare B env given).events) :
    input = given.utc := by
  simp only [SignerStore.prepare, SignerStore.refuse] at h
  repeat' split at h
  all_goals try cases h
  exact (HandleEvent.prepared.inj (mem_singleton.mp (mem_commit_events h))).2

/-- Only `Prepare` makes handles. -/
lemma act_prepared {σ σ' : SignerSystem} {action : SignerAction} {events : List HandleEvent}
    (h : σ.act B action = .ok (σ', events)) (hmem : .prepared id input ∈ events) :
    ∃ env given, action = .prepare env given ∧ input = given.utc := by
  have happly : ∀ {α : Type} {op : SignerStore → HandleOutcome α},
      σ.apply op = .ok (σ', events) → ∃ s, .prepared id input ∈ (op s).events := by
    intro α op hop
    unfold SignerSystem.apply at hop
    split at hop
    · cases hop
    · cases hop
      exact ⟨_, hmem⟩
  cases action with
  | start env =>
    simp only [SignerSystem.act] at h
    split at h
    · cases h
    · obtain ⟨s, -, heq⟩ := map_eq_ok.mp h
      cases heq
      cases hmem
  | stop =>
    simp only [SignerSystem.act] at h
    split at h <;> cases h
    cases hmem
  | prepare env given =>
    obtain ⟨s, hs⟩ := happly h
    exact ⟨env, given, rfl, prepared_of_prepare hs⟩
  | activate | release | expire | proveAndExpireUnactivated | finalize =>
    obtain ⟨s, hs⟩ := happly h
    simp only [SignerStore.activate, SignerStore.release, SignerStore.expire,
      SignerStore.proveAndExpireUnactivated, SignerStore.finalize, SignerStore.refuse] at hs
    repeat' split at hs
    all_goals first | (simp at hs; done) | simpa using mem_commit_events hs

/-- A ledger whose `Prepare` is only called by `LedgerPreparedSigner`. -/
lemma preparedFor_of_coordinator {actions : List SignerAction}
    (h : ∀ env input, .prepare env input ∈ actions → ∃ s now looked signed given,
      SignerStore.prepareActivation D s now looked signed given = .ok (.inr input)) :
    PreparedFor D (deeds B memory actions) := by
  intro id input hin
  obtain ⟨⟨σ, action, events⟩, hx, hlog⟩ := mem_flatMap.mp hin
  obtain ⟨past, later, hsplit⟩ := append_of_mem hx
  obtain ⟨_, _, -, -, -, σ', hact⟩ := successes_split hsplit
  obtain ⟨env, given, rfl, rfl⟩ := act_prepared hact hlog
  have hmem : .prepare env given ∈ actions := successes_sublist.subset (mem_map_of_mem hx)
  obtain ⟨_, _, _, _, _, hprepared⟩ := h env given hmem
  obtain ⟨a, hhash, hends⟩ := prepareActivation_inr hprepared
  exact ⟨a, hhash, hends⟩

lemma deeds_append (actions more : List SignerAction) :
    deeds B memory actions ⊆ deeds B memory (actions ++ more) := by
  rw [deeds, deeds, successes_append, flatMap_append]
  exact subset_append_left ..

lemma deeds_snoc {actions : List SignerAction} {action : SignerAction} {σ : SignerSystem}
    {events : List HandleEvent} (h : (afterActions B memory actions).act B action = .ok (σ, events)) :
    events ⊆ deeds B memory (actions ++ [action]) := by
  rw [afterActions] at h
  rw [deeds, successes_append, flatMap_append, successes_cons, h]
  simp

/-- A store in which the handle of the request, if there is one, is EXPIRED. The ledger may have one
record more, of a write that failed. -/
lemma spent_of_expired {σ : SignerSystem} {past : List HandleEvent} {s : SignerStore}
    (hholds : σ.Holds B past) (hs : σ.store = some s) (hmade : EndsWith request past)
    (hend : request.validUntil.ns ≤ t.ns)
    (hexpired : ∀ id, s.byAction.lookup (signerActionKey request.operationID request.actionID) = some id →
      ∃ r, s.records id = some r ∧ r.handle.state = .expired) : σ.Spent request t := by
  have hstate : ∀ id r, s.records id = some r → request.Names r → r.handle.state = .expired := by
    intro id r hr hnames
    have hid := hholds.indexed s hs id r hr
    rw [SignerRecord.key, hnames.2.1, hnames.2.2] at hid
    obtain ⟨r', hr', hstate⟩ := hexpired id hid
    cases hr.symm.trans hr'
    exact hstate
  have hmemory : Spent request t s.records := fun id r hr hnames => .inl (hstate id r hr hnames)
  refine ⟨fun s' hs' => ?_, fun hj => ?_⟩
  · cases hs.symm.trans hs'
    exact hmemory
  rcases hholds.linked s hs (hj s hs) with hsame | ⟨-, id, next, hturns, hupdate⟩
  · rw [hsame]
    exact hmemory
  have hnext : recorded σ.durable id = some next := by rw [hupdate, update_self]
  rw [hupdate]
  refine hmemory.update fun hnames => ?_
  generalize hold : s.records id = old at hturns
  cases hturns with
  | same => exact .inl (hstate id next hold hnames)
  | appeared _ hprepared =>
    obtain ⟨input, hin, hbinding, -⟩ := hholds.file.prepared id next hnext
    have hhash : next.handle.signerRequestHash = input.signerRequestHash :=
      congrArg (fun h : Handle => h.signerRequestHash) hbinding
    have huntil : next.handle.validUntil = input.validUntil :=
      congrArg (fun h : Handle => h.validUntil) hbinding
    refine .inr ⟨hprepared, ?_⟩
    rw [huntil, hmade id input hin (hhash.symm.trans hnames.1)]
    exact hend
  | moved r _ hbinding hmoves =>
    rw [hstate id r hold (names_congr hbinding hnames)] at hmoves
    cases hmoves

lemma spent_run {start later : List SignerAction} (hend : request.validUntil.ns ≤ t.ns)
    (hclock : ∀ a ∈ later, ∀ u, a.clock = some u → t.ns ≤ u.ns)
    (hmade : EndsWith request (deeds B memory (start ++ later)))
    (h : (afterActions B memory start).Spent request t) :
    (afterActions B memory (start ++ later)).Spent request t := by
  induction later using List.reverseRecOn with
  | nil => rwa [append_nil]
  | append_singleton later action ih =>
    rw [← append_assoc] at hmade ⊢
    have hbefore := ih (fun a ha => hclock a (mem_append_left _ ha))
      (hmade.mono (deeds_append (start ++ later) [action]))
    obtain hsame | ⟨events, hact⟩ :=
      execute_snoc_cases (SignerSystem.act B) (SignerSystem.initial memory) (start ++ later) action
    · rw [afterActions, hsame]
      exact hbefore
    · have hevents : EndsWith request events := hmade.mono (deeds_snoc hact)
      obtain ⟨now, hnow, ha⟩ : ∃ now : Time, t.ns ≤ now.ns ∧
          Acted B now (afterActions B memory (start ++ later))
            (afterActions B memory (start ++ later ++ [action])) events := by
        cases hread : action.clock with
        | none => exact ⟨t, le_rfl, act_acted (by simp [hread]) hact⟩
        | some u => exact ⟨u.utc, hclock action (by simp) u hread, act_acted (by simp [hread]) hact⟩
      exact hbefore.acted (reachable_holds B memory _) ha hend hnow hevents

end

/-- Over any run of a signer store whose clock does not go back: once a proof was returned that the
coordinator accepts for a request, no handle with the hash, operation and action of the request is
ever ACTIVE or RELEASED. -/
theorem unactivated_proof_final (B : SignerBoundary) (memory : Bool) (D : ActivationDigests)
    (hinjective : ∀ a b hash, D.activationInputHash a = some hash → D.activationInputHash b = some hash →
      a.logical = b.logical)
    (request : ActivationRequest)
    (hrequest : D.activationInputHash request.toActivationInput = some request.inputHash)
    (before later : List SignerAction) (env : HandleEnv) (requestID operationID actionID inputHash : String)
    (run : List SignerAction)
    (hrun : run = before ++ .proveAndExpireUnactivated env requestID operationID actionID inputHash :: later)
    (hclock : (run.filterMap SignerAction.clock).Pairwise (·.ns ≤ ·.ns))
    (hmade : PreparedFor D (deeds B memory run)) (s : SignerStore)
    (hs : (afterActions B memory before).store = some s) (proof : UnactivatedProof)
    (hproof : (s.proveAndExpireUnactivated B env requestID operationID actionID inputHash).result = .ok proof)
    (now : Time) (hvalid : validateUnactivatedProof D request proof now) (id : String)
    (r : SignerRecord) (hr : (afterActions B memory run).records id = some r) (hnames : request.Names r) :
    r.handle.state ≠ .active ∧ r.handle.state ≠ .released := by
  obtain ⟨hat, hoperation, haction, hexpired⟩ := proveAndExpireUnactivated_ok rfl hproof
  simp only [validateUnactivatedProof, Bool.and_eq_true, decide_eq_true_eq, Bool.not_eq_true'] at hvalid
  obtain ⟨⟨⟨⟨⟨⟨⟨⟨⟨-, hop⟩, hac⟩, -⟩, -⟩, -⟩, hpast⟩, -⟩, -⟩, -⟩ := hvalid
  obtain rfl : operationID = request.operationID := hoperation.symm.trans hop
  obtain rfl : actionID = request.actionID := haction.symm.trans hac
  have hend : request.validUntil.ns ≤ env.now.ns := by
    rw [hat, Time.before, decide_eq_false_iff_not, not_lt] at hpast
    exact hpast
  rw [append_cons] at hrun
  have hends : EndsWith request (deeds B memory run) := by
    intro id input hin hhash
    obtain ⟨a, ha, huntil⟩ := hmade id input hin
    have hsame := hinjective a request.toActivationInput _ (hhash ▸ ha) hrequest
    have hwindow := congrArg (fun x : ActivationInput => x.validUntil) hsame
    simp only [ActivationInput.logical] at hwindow
    rw [← huntil, hwindow]
  subst hrun
  have hafter : (afterActions B memory
      (before ++ [.proveAndExpireUnactivated env requestID request.operationID request.actionID
        inputHash])).store = some (s.proveAndExpireUnactivated B env requestID request.operationID
          request.actionID inputHash).store := by
    rw [afterActions, execute_snoc, ← afterActions, transact, SignerSystem.act, SignerSystem.apply, hs]
  have hfirst := spent_of_expired (t := env.now) (reachable_holds B memory _) hafter
    (hends.mono (deeds_append ..)) hend hexpired
  have hlater : ∀ a ∈ later, ∀ u, a.clock = some u → env.now.ns ≤ u.ns := by
    intro a ha u hu
    rw [append_assoc, filterMap_append] at hclock
    exact rel_of_pairwise_cons (pairwise_append.mp hclock).2.1 (mem_filterMap.mpr ⟨a, ha, hu⟩)
  have hspent := spent_run hend hlater hends hfirst
  have hstate : r.handle.state = .expired ∨ r.handle.state = .prepared := by
    rw [SignerSystem.records.eq_def] at hr
    cases hstore : (afterActions B memory (before ++ [.proveAndExpireUnactivated env requestID
        request.operationID request.actionID inputHash] ++ later)).store with
    | none =>
      rw [hstore] at hr
      exact (hspent.file (fun s' hs' => by cases hstore.symm.trans hs') id r hr hnames).imp_right And.left
    | some s' =>
      rw [hstore] at hr
      exact (hspent.memory s' hstore id r hr hnames).imp_right And.left
  rcases hstate with hstate | hstate <;> rw [hstate] <;> exact ⟨by decide, by decide⟩

namespace Custody

def operationID : String := (Hex64.sample 1).hash

def proofDigest (proof : UnactivatedProof) : String :=
  (Hex64.sample (if proof.handleID = "" then 2 else 3)).hash

/-- A cipher that shifts every byte. -/
def cipher : ArtifactCipher where
  encrypt _ _ plaintext := plaintext.map (· + 1)
  decrypt _ ciphertext := some (ciphertext.map (· - 1))
  decrypt_encrypt _ _ plaintext := by simp [Function.comp_def]

def boundary : SignerBoundary where
  ledger := ⟨fun i => .sample i.sequence, fun _ => 0⟩
  cipher
  rfc3339Nano _ := ""
  unactivatedProofDigest proof := some (proofDigest proof)

def clock (seconds : ℤ) : Time := ⟨seconds * 1000000000, 0⟩

def env (seconds : ℤ) : HandleEnv where
  now := clock seconds
  canceled := false
  draw _ := .ok "1111111111111111111111111111111111111111111"
  nonce := .ok []
  decryption := .ok ()
  verifier := .ok ()
  write := .synced

def handleID : String := "asph_1111111111111111111111111111111111111111111"

def request : ActivationRequest where
  requestID := operationID
  authorizationID := operationID
  operationID := operationID
  reservationID := operationID
  actionID := "lock"
  canonicalPayload := [1]
  canonicalPayloadHash := operationID
  evidenceBundle := [1]
  evidenceBundleHash := operationID
  digest := operationID
  nonce := operationID
  instrumentType := "LOCK_AUTHORIZATION"
  signerBindingVersion := 1
  signerKeyID := "key-1"
  keyEpoch := 1
  moduleAddress := "0x1111111111111111111111111111111111111111"
  safeAddress := "0x2222222222222222222222222222222222222222"
  keeperID := "keeper-1"
  validAfter := clock 100
  validUntil := clock 200
  inputHash := operationID
  state := .prepared
  createdAt := clock 100

/-- Hashes of the one request, and of any proof. -/
def digests : ActivationDigests where
  activationInputHash a := if a.logical = request.logical then some operationID else none
  unactivatedProofDigest proof := some (proofDigest proof)
  canonicalPayloadHash _ := operationID
  evidenceBundleHash _ := operationID

/-- What the coordinator has the ledger prepare for the request. -/
def input : PrepareInput := request.prepareInput operationID (List.replicate 64 7)

lemma prepareActivation_request :
    SignerStore.prepareActivation digests {} (clock 100) (clock 100) (.ok (List.replicate 64 7))
      request.toActivationInput = .ok (.inr input) := by
  decide

/-- The handle is made at 100, proved unactivated at 200, and activated too late. -/
def run : List SignerAction :=
  [.prepare (env 100) input,
    .proveAndExpireUnactivated (env 200) operationID operationID "lock" operationID,
    .activate (env 210) handleID
      ⟨operationID, handleID, operationID, operationID, operationID, operationID, clock 110⟩]

def expired : SignerRecord :=
  { handle := { input.handle handleID with state := .expired, outcome := "EXPIRED_UNACTIVATED" }
    encrypted := List.replicate 64 8
    activation := none }

lemma preparedFor : PreparedFor digests (deeds boundary true run) := by
  refine preparedFor_of_coordinator fun env input hmem => ?_
  simp only [run, mem_cons, SignerAction.prepare.injEq, reduceCtorEq, not_mem_nil, or_false] at hmem
  obtain ⟨-, rfl⟩ := hmem
  exact ⟨_, _, _, _, _, prepareActivation_request⟩

lemma digests_injective : ∀ a b hash, digests.activationInputHash a = some hash →
    digests.activationInputHash b = some hash → a.logical = b.logical := by
  intro a b hash ha hb
  simp only [digests, Option.ite_none_right_eq_some] at ha hb
  rw [ha.1, hb.1]

end Custody

/-- The handle of the sample stays EXPIRED. -/
theorem unactivated_proof_final_sample :
    (afterActions Custody.boundary true Custody.run).records Custody.handleID = some Custody.expired ∧
      Custody.expired.handle.state ≠ .active ∧ Custody.expired.handle.state ≠ .released := by
  have hr : (afterActions Custody.boundary true Custody.run).records Custody.handleID =
      some Custody.expired := by decide
  exact ⟨hr, unactivated_proof_final Custody.boundary true Custody.digests Custody.digests_injective
    Custody.request rfl [.prepare (Custody.env 100) Custody.input] _ _ _ _ _ _ Custody.run rfl
    (by decide) Custody.preparedFor _ rfl _ rfl (Custody.clock 200) (by decide) _ _ hr
    ⟨rfl, rfl, rfl⟩⟩

end FlowOps.Bearer

import FlowOps.Bearer.UnactivatedProofs

/-!
# Reopening the signer store

What a process finds that opens the ledger of a signer store (`ledger_file.go`), against the store of
the process that wrote it.

Results:
* `ledger_reopens`: unless the clock reads the zero time, every event of the file is replayed. A store
  that is opened from it has the handles, the artifacts and the index of the live store, but for the
  record of one call whose write failed after its line was in the file. A store whose ledger faulted
  never changes.
* `reopening_differs`: an event at the zero time is not replayed, and a failed write may be found again.
-/

namespace FlowOps.Bearer

open Function List

variable {j : SignerJournal} {durable : List LedgerEvent}

/-! ## The journal of a call -/

/-- The journal and the file after a call at some time. -/
inductive Chained (B : SignerBoundary) (now : Time) (s s' : SignerStore) : Option LedgerEvent → Prop where
  | kept : s'.journal = s.journal → Chained B now s s' none
  | saved (j j' : SignerJournal) (e : LedgerEvent) (canceled : Bool) (record : SignerRecord) :
      s.journal = some j → j.append B.ledger canceled now record = .ok (e, j') → s'.journal = some j' →
      Chained B now s s' (some e)
  | failed (j j' : SignerJournal) (e : LedgerEvent) (canceled : Bool) (record : SignerRecord) (err : String)
      (written : Option LedgerEvent) : s.journal = some j →
      j.append B.ledger canceled now record = .ok (e, j') → s'.journal = some { j with fault := some err } →
      (written = none ∨ written = some e) → Chained B now s s' written

variable {B : SignerBoundary} {now : Time} {s s' : SignerStore}

section

variable {env : HandleEnv} {α : Type} {id : String} {next : SignerRecord}
  {keep : SignerStore → SignerStore} {tried done : List HandleEvent} {canceled : Bool}

abbrev HandleOutcome.Chains (B : SignerBoundary) (env : HandleEnv) (s : SignerStore)
    (o : HandleOutcome α) : Prop := Chained B env.now.utc s o.store o.written

lemma commit_chained {value : α} (hkeep : ∀ s, (keep s).journal = s.journal) :
    (s.commit B canceled env next keep value tried done).Chains B env s := by
  rw [SignerStore.commit, SignerStore.persist]
  cases hj : s.journal with
  | none => exact .kept (hkeep s)
  | some j =>
    cases happend : j.append B.ledger canceled env.now.utc next with
    | error err =>
      simp only [happend]
      exact .kept rfl
    | ok r =>
      simp only [happend]
      cases env.write with
      | synced => exact .saved j r.2 r.1 canceled next hj happend (hkeep _)
      | failed stored err =>
        refine .failed j r.2 r.1 canceled next err _ hj happend rfl ?_
        cases stored
        · exact .inl rfl
        · exact .inr rfl

lemma replayEvent_of_append {P : Primitives} {j' : SignerJournal} {e : LedgerEvent}
    (hnow : now.isZero = false) (h : j.append P canceled now next = .ok (e, j')) :
    j.replayEvent P e = .ok j' := by
  cases canceled with
  | true => simp [SignerJournal.append] at h
  | false =>
    have hreads : (ledgerFile P ⟨fun _ => [], fun _ => none⟩).ReadsBack fun i => i.eventAt.isZero = false :=
      ledgerFile_readsBack
    have hread := hreads j ⟨now, next⟩ e j' (by simp [ledgerFile, h, Except.toOption])
    rw [if_pos hnow] at hread
    exact FileJournal.toOption_eq_some.mp hread

end

/-! ## Runs -/

/-- The file is replayed, to the journal of a live store that has not faulted. -/
structure SignerSystem.Replayed (B : SignerBoundary) (σ : SignerSystem) : Prop where
  file : ∃ j, foldCheck (SignerJournal.replayEvent B.ledger) {} σ.durable = .ok j
  live : ∀ s j, σ.store = some s → s.journal = some j → j.fault = none →
    foldCheck (SignerJournal.replayEvent B.ledger) {} σ.durable = .ok j
  opened : ∀ s, σ.store = some s → s.journal ≠ none

variable {past : List HandleEvent}

section

variable {σ σ' : SignerSystem} {action : SignerAction} {written : Option LedgerEvent}
  {events : List HandleEvent}

lemma SignerSystem.Replayed.chained (h : σ.Replayed B) (hs : σ.store = some s)
    (hnow : now.isZero = false) (hchained : Chained B now s s' written) :
    SignerSystem.Replayed B ⟨σ.durable ++ written.toList, some s'⟩ := by
  have happended : ∀ {j j' e canceled record}, s.journal = some j →
      j.append B.ledger canceled now record = .ok (e, j') →
      foldCheck (SignerJournal.replayEvent B.ledger) {} (σ.durable ++ [e]) = .ok j' := by
    intro j j' e canceled record hj happend
    have hlive := h.live s j hs hj (journal_append_ok happend).1
    rw [foldCheck_append_ok]
    refine ⟨j, hlive, ?_⟩
    rw [foldCheck_singleton]
    exact replayEvent_of_append hnow happend
  cases hchained with
  | kept hsame =>
    rw [append_none]
    refine ⟨h.file, ?_, ?_⟩
    · rintro _ j ⟨⟩ hj
      exact h.live s j hs (hsame ▸ hj)
    · rintro _ ⟨⟩
      rw [hsame]
      exact h.opened s hs
  | saved j j' e canceled record hj happend hj' =>
    refine ⟨⟨j', happended hj happend⟩, ?_, ?_⟩
    · rintro _ j₁ ⟨⟩ hj₁ -
      cases hj'.symm.trans hj₁
      exact happended hj happend
    · rintro _ ⟨⟩
      simp [hj']
  | failed j j' e canceled record err _ hj happend hj' hwritten =>
    refine ⟨?_, ?_, ?_⟩
    · obtain rfl | rfl := hwritten
      · rw [append_none]
        exact h.file
      · exact ⟨j', happended hj happend⟩
    · rintro _ j₁ ⟨⟩ hj₁ hfault
      cases hj'.symm.trans hj₁
      cases hfault
    · rintro _ ⟨⟩
      simp [hj']

lemma open_journal {env : OpenEnv} (h : openFileSignerStore B env durable = .ok s) :
    ∃ j, s.journal = some j ∧ foldCheck (SignerJournal.replayEvent B.ledger) {} durable = .ok j := by
  obtain ⟨j, hreplay, hrestore⟩ := bind_eq_ok.mp h
  refine ⟨j, ?_, hreplay⟩
  -- No record that is restored touches the journal.
  have hkept : ∀ (entries : List ((_ : String) × SignerRecord)) (s₀ : SignerStore),
      foldCheck (SignerStore.restore B env) s₀ entries = .ok s → s.journal = s₀.journal := by
    intro entries
    induction entries with
    | nil =>
      intro s₀ hfold
      cases hfold
      rfl
    | cons e entries ih =>
      intro s₀ hfold
      obtain ⟨s₁, hone, hrest⟩ := foldCheck_cons_ok.mp hfold
      rw [ih s₁ hrest, restore_ok hone]
      rfl
  exact hkept _ _ hrestore

lemma act_replayed (h : σ.Replayed B) (hclock : ∀ u, action.clock = some u → u.isZero = false)
    (hact : σ.act B action = .ok (σ', events)) : σ'.Replayed B := by
  have happly : ∀ {α : Type} {env : HandleEnv} {op : SignerStore → HandleOutcome α}, env.now.isZero = false →
      (∀ s, (op s).Chains B env s) → σ.apply op = .ok (σ', events) → σ'.Replayed B := by
    intro α env op hnow hop hok
    rw [SignerSystem.apply] at hok
    cases hs : σ.store with
    | none => simp [hs] at hok
    | some s =>
      simp only [hs, ok_pair_eq] at hok
      obtain ⟨rfl, -⟩ := hok
      have hutc : env.now.utc.isZero = false := hnow
      exact h.chained hs hutc (hop s)
  cases action with
  | start env =>
    rw [SignerSystem.act] at hact
    cases hs : σ.store with
    | some s => simp [hs] at hact
    | none =>
      simp only [hs] at hact
      obtain ⟨s, hopen, heq⟩ := map_eq_ok.mp hact
      cases heq
      obtain ⟨j, hj, hreplay⟩ := open_journal hopen
      refine ⟨h.file, ?_, ?_⟩
      · rintro _ j' ⟨⟩ hj' -
        cases hj.symm.trans hj'
        exact hreplay
      · rintro _ ⟨⟩
        simp [hj]
  | stop =>
    rw [SignerSystem.act] at hact
    split_ifs at hact
    cases hact
    exact ⟨h.file, by simp, by simp⟩
  | prepare env | activate env | release env | expire env | proveAndExpireUnactivated env
  | finalize env =>
    refine happly (hclock _ rfl) (fun s => ?_) hact
    simp only [SignerStore.prepare, SignerStore.activate, SignerStore.release, SignerStore.expire,
      SignerStore.proveAndExpireUnactivated, SignerStore.finalize]
    repeat' first | exact .kept rfl | exact commit_chained fun _ => rfl | split

/-- A run in which the clock never reads the zero time. -/
def Timed (actions : List SignerAction) : Prop :=
  ∀ a ∈ actions, ∀ u, a.clock = some u → u.isZero = false

lemma reachable_replayed {actions : List SignerAction} (hclock : Timed actions) :
    (afterActions B false actions).Replayed B := by
  refine history_rule_of_mem (H := fun _ (σ : SignerSystem) => σ.Replayed B)
    ⟨⟨{}, rfl⟩, by simp [SignerSystem.initial], by simp [SignerSystem.initial]⟩ actions
    fun _ σ action σ' events hmem h hact => act_replayed h (hclock action hmem) hact

lemma Ran.faulted (hran : Ran B now s s' written events) (hj : s.journal = some j)
    (hfault : j.fault ≠ none) : s' = s ∧ written = none := by
  have hp : ∀ {ok s'' next}, Persisted s next ok s'' written → ok = false ∧ s'' = s ∧ written = none := by
    intro ok s'' next hp
    cases hp with
    | memory hnone => cases hj.symm.trans hnone
    | refused => exact ⟨rfl, rfl, rfl⟩
    | failed j' err _ hj' hfault' | saved j' j'' e hj' hfault' =>
      cases hj.symm.trans hj'
      exact absurd hfault' hfault
  cases hran with
  | kept | reread => exact ⟨rfl, rfl⟩
  | failed _ _ _ _ _ _ _ _ hpersisted => exact (hp hpersisted).2
  | wrote _ _ _ _ _ _ _ _ hpersisted => cases (hp hpersisted).1

lemma act_faulted (hs : σ.store = some s) (hj : s.journal = some j)
    (hfault : j.fault ≠ none) (hstop : action ≠ .stop) (hact : σ.act B action = .ok (σ', events)) :
    σ' = σ := by
  have hrun : ∀ {now}, Acted B now σ σ' events → σ' = σ := by
    intro now ha
    cases ha with
    | started env s' hnone => cases hs.symm.trans hnone
    | stopped s' hs' hjournal =>
      cases action with
      | stop => exact absurd rfl hstop
      | start env => simp [SignerSystem.act, hs] at hact
      | prepare | activate | release | expire | proveAndExpireUnactivated | finalize =>
        simp only [SignerSystem.act, SignerSystem.apply, hs, ok_pair_eq] at hact
        exact absurd (congrArg SignerSystem.store hact.1) (by simp)
    | ran s₁ s' written _ hs₁ hran =>
      cases hs.symm.trans hs₁
      obtain ⟨rfl, rfl⟩ := hran.faulted hj hfault
      rw [append_none]
      cases σ
      cases hs
      rfl
  obtain ⟨now, ha⟩ := exists_acted hact
  exact hrun ha

lemma deeds_length (memory : Bool) (actions : List SignerAction) {id : String} {input : PrepareInput}
    (hin : .prepared id input ∈ deeds B memory actions) :
    64 ≤ input.signature.length ∧ input.signature.length ≤ 16 * 1024 := by
  have hwrites : ∀ {now s id' next keep tried done}, Writes B now s id' next keep tried done →
      .prepared id input ∈ tried ++ done → 64 ≤ input.signature.length ∧ input.signature.length ≤ 16 * 1024 := by
    intro now s id' next keep tried done hw hmem
    cases hw with
    | created input' _ _ _ _ hvalid =>
      obtain ⟨rfl, rfl⟩ : id = id' ∧ input = input' := by simpa using hmem
      simp only [PrepareInput.valid, Bool.and_eq_true, decide_eq_true_eq] at hvalid
      exact ⟨hvalid.1.2, hvalid.2⟩
    | activated | released | closed => simp at hmem
  obtain ⟨⟨σ, action, events⟩, hx, hlog⟩ := mem_flatMap.mp hin
  obtain ⟨past, later, hsplit⟩ := append_of_mem hx
  obtain ⟨_, _, -, -, -, σ', hact⟩ := successes_split hsplit
  obtain ⟨now, ha⟩ := exists_acted hact
  cases ha with
  | started | stopped => cases hlog
  | ran s s' written _ _ hran =>
    cases hran with
    | kept => cases hlog
    | reread => simp at hlog
    | failed _ _ _ _ done _ _ hw => exact hwrites hw (mem_append_left _ hlog)
    | wrote _ _ _ _ _ _ _ hw => exact hwrites hw hlog

end

/-! ## Reopening -/

/-- The context, the cipher and the verifier agree, and the window of an expired handle is over. -/
def OpenEnv.Accepts (env : OpenEnv) (r : SignerRecord) : Prop :=
  env.context r = .ok () ∧ env.decryption r = .ok () ∧ env.verifier r = .ok () ∧
    (r.handle.state = .expired → env.now.utc.before r.handle.validUntil = false)

section

variable {env : OpenEnv} {entries : List ((_ : String) × SignerRecord)}

lemma restore_accepts {entry : (_ : String) × SignerRecord} {artifact : Bytes} (h : env.Accepts entry.2)
    (hid : entry.1 = entry.2.handle.id)
    (hdecrypt : B.cipher.decrypt (artifactAAD B entry.2.handle) entry.2.encrypted = some artifact)
    (hlength : 64 ≤ artifact.length ∧ artifact.length ≤ 16 * 1024) :
    s.restore B env entry = .ok (s.add entry.1 entry.2) := by
  obtain ⟨hcontext, hdecryption, hverifier, hwindow⟩ := h
  have hartifact : B.decryptRecord (env.decryption entry.2) entry.2 = .ok artifact := by
    simp [SignerBoundary.decryptRecord, hdecryption, hdecrypt]
  have hverified : env.revalidate entry.2 = .ok () := by
    rw [OpenEnv.revalidate, hverifier]
    split
    · rfl
    · rfl
    · rfl
    · rename_i hstate
      rw [hwindow hstate]
      rfl
    · rfl
  have hfits : ¬(artifact.length < 64 ∨ 16 * 1024 < artifact.length) := by omega
  simp [SignerStore.restore, hcontext, hartifact, hverified, hfits, hid, Except.mapError, Except.bind]

lemma restore_all_accepts
    (h : ∀ e ∈ entries, ∀ s : SignerStore, s.restore B env e = .ok (s.add e.1 e.2))
    (s : SignerStore) :
    ∃ s', foldCheck (SignerStore.restore B env) s entries = .ok s' := by
  induction entries generalizing s with
  | nil => exact ⟨s, rfl⟩
  | cons e entries ih =>
    obtain ⟨s', hs'⟩ := ih (fun e' he' => h e' (by simp [he'])) (s.add e.1 e.2)
    exact ⟨s', foldCheck_cons_ok.mpr ⟨_, h e (by simp) s, hs'⟩⟩

lemma open_accepts (hreplay : foldCheck (SignerJournal.replayEvent B.ledger) {} durable = .ok j)
    (hg : Grounded B past (recorded durable)) (hlength : ∀ id input, .prepared id input ∈ past →
      64 ≤ input.signature.length ∧ input.signature.length ≤ 16 * 1024)
    (henv : ∀ id r, recorded durable id = some r → env.Accepts r) :
    ∃ s', openFileSignerStore B env durable = .ok s' := by
  have hj : (fun id => j.records.lookup id) = recorded durable := replay_recorded hreplay
  have hall : ∀ e ∈ j.records.entries, ∀ s : SignerStore, s.restore B env e = .ok (s.add e.1 e.2) := by
    intro e he s
    have hrecord : recorded durable e.1 = some e.2 := by
      rw [← hj]
      exact AList.mem_lookup_iff.mpr he
    obtain ⟨input, hin, hbinding, hdecrypt⟩ := hg.prepared e.1 e.2 hrecord
    have hid := congrArg (fun b : Handle => b.id) hbinding
    exact restore_accepts (henv e.1 e.2 hrecord) hid.symm hdecrypt (hlength e.1 input hin)
  obtain ⟨s', hs'⟩ := restore_all_accepts hall { journal := some j }
  exact ⟨s', bind_eq_ok.mpr ⟨j, hreplay, hs'⟩⟩

/-! ### The index -/

/-- `byAction` leads to records. -/
def SignerStore.Pointed (s : SignerStore) : Prop :=
  ∀ key id, s.byAction.lookup key = some id → ∃ r, s.records id = some r ∧ r.key = key

lemma Writes.pointed {now : Time} {id : String} {next : SignerRecord} {keep : SignerStore → SignerStore}
    {tried done : List HandleEvent} (h : Writes B now s id next keep tried done) (hp : s.Pointed)
    (hrecords : s'.records = s.records) (hactions : s'.byAction = s.byAction) : (keep s').Pointed := by
  intro key id' hlookup
  rw [h.keep_records hrecords]
  -- What the index had before the write.
  have hold : s.byAction.lookup key = some id' →
      ∃ r, update s.records id (some next) id' = some r ∧ r.key = key := by
    intro hlookup
    obtain ⟨r, hr, hkey⟩ := hp key id' hlookup
    by_cases hid : id' = id
    · subst hid
      refine ⟨next, update_self .., ?_⟩
      cases h with
      | created _ _ _ hnone => cases hr.symm.trans hnone
      | activated record _ _ hrecord _ _ heq | released record _ _ hrecord _ _ _ heq
      | closed record _ _ _ hrecord _ _ heq =>
        cases hr.symm.trans hrecord
        rw [heq, ← hkey]
        rfl
    · exact ⟨r, by rw [update_of_ne hid, hr], hkey⟩
  obtain ⟨-, -, rfl⟩ | ⟨record, -, -, rfl⟩ := h.added_or_put
  · have hinsert : (s.byAction.insert next.key id).lookup key = some id' := hactions ▸ hlookup
    rw [Dict.lookup_insert_eq_some] at hinsert
    obtain ⟨rfl, rfl⟩ | ⟨-, hlookup⟩ := hinsert
    · exact ⟨next, update_self .., rfl⟩
    · exact hold hlookup
  · exact hold (hactions ▸ hlookup)

lemma reachable_pointed (B : SignerBoundary) (actions : List SignerAction) :
    ∀ s, (afterActions B false actions).store = some s → s.Pointed := by
  induction actions using List.reverseRecOn with
  | nil =>
    intro s hs
    cases hs
  | append_singleton actions action ih =>
    obtain hsame | ⟨events, hact⟩ :=
      execute_snoc_cases (SignerSystem.act B) (SignerSystem.initial false) actions action
    · rw [afterActions, hsame]
      exact ih
    · obtain ⟨now, ha⟩ := exists_acted hact
      rw [afterActions]
      generalize execute (SignerSystem.act B) (SignerSystem.initial false) (actions ++ [action]) = σ' at ha
      have hholds := reachable_holds B false actions
      rw [afterActions] at ih hholds
      cases ha with
      | started env s _ hopen =>
        rintro _ ⟨⟩
        exact (open_ok hholds.file hopen).2.2
      | stopped =>
        intro s hs
        cases hs
      | ran s s' written _ hs hran =>
        rintro _ ⟨⟩
        have hp := ih s hs
        cases hran with
        | kept | reread => exact hp
        | failed _ _ _ _ _ _ _ _ hpersisted =>
          obtain ⟨hrecords, hactions⟩ := hpersisted.records
          intro key id hlookup
          rw [hrecords]
          exact hp key id (hactions ▸ hlookup)
        | wrote _ _ _ _ _ _ _ hw hpersisted =>
          exact hw.pointed hp hpersisted.records.1 hpersisted.records.2

lemma SignerStore.Pointed.lookup_eq (hp : s.Pointed) (hi : s.Indexed) (hp' : s'.Pointed) (hi' : s'.Indexed)
    (hrecords : s'.records = s.records) (key : String) : s'.byAction.lookup key = s.byAction.lookup key := by
  refine Option.ext fun id => ⟨fun h => ?_, fun h => ?_⟩
  · obtain ⟨r, hr, rfl⟩ := hp' key id h
    exact hi id r (hrecords ▸ hr)
  · obtain ⟨r, hr, rfl⟩ := hp key id h
    exact hi' id r (hrecords ▸ hr)

end

/-- After a run in which the clock never reads the zero time: the file is replayed. It is opened whenever
the collaborators accept its records. A store that is opened from it has the records and the index of
the live store, unless the ledger of that store faulted and one record more is in the file. And a store
whose ledger faulted stays as it is until its process ends. -/
theorem ledger_reopens (B : SignerBoundary) (actions : List SignerAction) (hclock : Timed actions) :
    (∃ j, foldCheck (SignerJournal.replayEvent B.ledger) {} (afterActions B false actions).durable = .ok j) ∧
    (∀ env : OpenEnv, (∀ id r, recorded (afterActions B false actions).durable id = some r → env.Accepts r) →
      ∃ s', openFileSignerStore B env (afterActions B false actions).durable = .ok s') ∧
    (∀ env s s', (afterActions B false actions).store = some s →
      openFileSignerStore B env (afterActions B false actions).durable = .ok s' →
      (s'.records = s.records ∧ ∀ key, s'.byAction.lookup key = s.byAction.lookup key) ∨
        (∃ j, s.journal = some j ∧ j.fault ≠ none) ∧ ∃ id next, Turns (s.records id) (some next) ∧
          s'.records = update s.records id (some next)) ∧
    ∀ s j more, (afterActions B false actions).store = some s → s.journal = some j → j.fault ≠ none →
      .stop ∉ more → afterActions B false (actions ++ more) = afterActions B false actions := by
  have hholds := reachable_holds B false actions
  have hreplayed := reachable_replayed (B := B) hclock
  refine ⟨hreplayed.file, fun env henv => ?_, fun env s s' hs hopen => ?_, fun s j more hs hj hfault hstop => ?_⟩
  · obtain ⟨j, hj⟩ := hreplayed.file
    exact open_accepts hj hholds.file (fun id input => deeds_length false actions) henv
  · obtain ⟨hrecords, hindexed, hpointed⟩ := open_ok hholds.file hopen
    rw [hrecords]
    refine (hholds.linked s hs (hreplayed.opened s hs)).imp_left fun hsame => ⟨hsame, fun key => ?_⟩
    exact (reachable_pointed B actions s hs).lookup_eq (hholds.indexed s hs)
      hpointed hindexed (hrecords.trans hsame) key
  · induction more using List.reverseRecOn with
    | nil => rw [append_nil]
    | append_singleton more action ih =>
      rw [mem_append, mem_singleton, not_or] at hstop
      have hbefore := ih hstop.1
      rw [← append_assoc]
      obtain hsame | ⟨events, hact⟩ :=
        execute_snoc_cases (SignerSystem.act B) (SignerSystem.initial false) (actions ++ more) action
      · exact hsame.trans hbefore
      · rw [← hbefore]
        exact act_faulted (hbefore ▸ hs) hj hfault (Ne.symm hstop.2) hact

namespace Custody

def openEnv : OpenEnv where
  now := clock 300
  context _ := .ok ()
  decryption _ := .ok ()
  verifier _ := .ok ()

lemma timed : Timed (.start openEnv :: run) := by
  intro a ha u hu
  simp only [run, mem_cons, not_mem_nil, or_false] at ha
  rcases ha with rfl | rfl | rfl | rfl <;> cases hu <;> rfl

end Custody

/-- The two events of the sample are replayed. -/
theorem ledger_reopens_sample :
    (afterActions Custody.boundary false (.start Custody.openEnv :: Custody.run)).durable.length = 2 ∧
      ∃ j, foldCheck (SignerJournal.replayEvent Custody.boundary.ledger) {}
        (afterActions Custody.boundary false (.start Custody.openEnv :: Custody.run)).durable = .ok j :=
  ⟨by decide, (ledger_reopens Custody.boundary _ Custody.timed).1⟩

namespace Custody

/-- A handle is made while the clock reads the zero time. -/
def atZero : List SignerAction :=
  [.start openEnv, .prepare (env 0) { input with validAfter := clock 1, validUntil := clock 100 }]

/-- A handle is refused to its caller after its line was written. -/
def unsynced : List SignerAction :=
  [.start openEnv, .prepare { env 100 with write := .failed true "fsync" } input]

end Custody

/-- An event at the zero time is in the file and keeps it from being opened, and a handle whose write
failed is not in the live store but in the one that is opened next. -/
theorem reopening_differs :
    ((afterActions Custody.boundary false Custody.atZero).durable.length = 1 ∧
      (openFileSignerStore Custody.boundary Custody.openEnv
        (afterActions Custody.boundary false Custody.atZero).durable).toOption.isNone) ∧
    ((afterActions Custody.boundary false Custody.unsynced).records Custody.handleID).isNone ∧
      (openFileSignerStore Custody.boundary Custody.openEnv
        (afterActions Custody.boundary false Custody.unsynced).durable).toOption.any
          (fun s => (s.records Custody.handleID).isSome) := by
  decide

end FlowOps.Bearer

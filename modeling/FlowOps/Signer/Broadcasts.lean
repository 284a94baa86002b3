import FlowOps.Signer.Executor

/-!
# One broadcast per authorization

The attempt journal as a whole, whether a process has it open or not: each attempt starts
as PREPARED and only moves on, with the same authorization and the same transaction, so its
BROADCASTING record is written at most once (`Legal.countP_broadcasting`). A process whose
journal is not faulted knows the last record of every attempt (`Reflects`).

A broadcast follows the append of a BROADCASTING record in the same call, and a check of the
same authorization before that. Whatever the collaborators answer and wherever processes
stop, the wallet is therefore asked at most once for each authorization.

Result: `broadcast_at_most_once`.
-/

namespace FlowOps.Signer

open List Option Dict

variable {written : Option AttemptEvent}

/-! ## The records of a journal -/

/-- The last record of each authorization. -/
def journaled (events : List AttemptEvent) : Dict String AttemptRecord :=
  events.foldl (fun m e => m.insert e.authorizationID e.payload) ∅

/-- The event can follow these records. -/
structure Follows (P : Primitives) (m : Dict String AttemptRecord) (e : AttemptEvent) : Prop where
  key : e.payload.authorized.authorization.authorizationID = e.authorizationID
  valid : e.payload.authorization.authorization.validate P.toCrypto = .ok ()
  same : e.payload.authorization.authorization = e.payload.authorized.authorization
  hash : e.payload.prepared.transactionHash = (P.rawKeccak256 e.payload.prepared.rawTransaction).hash
  first : m.lookup e.authorizationID = none → e.payload.state = .prepared
  next : ∀ r, m.lookup e.authorizationID = some r → r.authorization = e.payload.authorization ∧
    r.authorized = e.payload.authorized ∧ r.prepared = e.payload.prepared ∧
    validStates r.state e.payload.state

/-- Every event follows the ones before it. -/
inductive Legal (P : Primitives) : List AttemptEvent → Prop where
  | nil : Legal P []
  | snoc {es : List AttemptEvent} {e : AttemptEvent} (hes : Legal P es) (he : Follows P (journaled es) e) :
      Legal P (es ++ [e])

/-- The event enters BROADCASTING for this authorization. -/
def broadcasting (id : String) (e : AttemptEvent) : Bool :=
  e.authorizationID = id && e.payload.state = .broadcasting

variable {P : Primitives} {es : List AttemptEvent} {e : AttemptEvent} {id : String}

section

variable {r : AttemptRecord}

lemma journaled_snoc (es : List AttemptEvent) (e : AttemptEvent) :
    journaled (es ++ [e]) = (journaled es).insert e.authorizationID e.payload := by
  simp [journaled]

lemma mem_of_journaled (h : (journaled es).lookup id = some r) :
    ∃ e ∈ es, e.authorizationID = id ∧ e.payload = r := by
  induction es using List.reverseRecOn with
  | nil => cases h
  | append_singleton es e ih =>
    rw [journaled_snoc, lookup_insert_eq_some] at h
    rcases h with ⟨rfl, rfl⟩ | ⟨-, h⟩
    · exact ⟨e, by simp, rfl, rfl⟩
    · obtain ⟨e', he', h⟩ := ih h
      exact ⟨e', by simp [he'], h⟩

/-- Each record goes back to a PREPARED record with the same authorization and transaction. -/
lemma Legal.origin (h : Legal P es) (hr : (journaled es).lookup id = some r) :
    ∃ e ∈ es, e.authorizationID = id ∧ e.payload.state = .prepared ∧
      e.payload.authorization = r.authorization ∧ e.payload.prepared = r.prepared ∧
      r.prepared.transactionHash = (P.rawKeccak256 r.prepared.rawTransaction).hash := by
  induction h generalizing r with
  | nil => cases hr
  | @snoc es e hes he ih =>
    rw [journaled_snoc, lookup_insert_eq_some] at hr
    rcases hr with ⟨rfl, rfl⟩ | ⟨-, hr⟩
    · cases hlookup : (journaled es).lookup e.authorizationID with
      | none => exact ⟨e, by simp, rfl, he.first hlookup, rfl, rfl, he.hash⟩
      | some r =>
        obtain ⟨e', he', hid, hstate, hauth, hprepared, -⟩ := ih hlookup
        obtain ⟨hsame, -, hprepared', -⟩ := he.next r hlookup
        exact ⟨e', by simp [he'], hid, hstate, hauth.trans hsame, hprepared.trans hprepared', he.hash⟩
    · obtain ⟨e', he', h⟩ := ih hr
      exact ⟨e', by simp [he'], h⟩

lemma Legal.countP_broadcasting (h : Legal P es) (id : String) : es.countP (broadcasting id) =
      (((journaled es).lookup id).any fun r => r.state ≠ .prepared).toNat := by
  induction h with
  | nil => rfl
  | @snoc es e hes he ih =>
    rw [countP_append, countP_singleton, ih, journaled_snoc, lookup_insert_ite]
    by_cases hid : id = e.authorizationID
    · subst hid
      cases hlookup : (journaled es).lookup e.authorizationID with
      | none => simp [broadcasting, he.first hlookup]
      | some r =>
        -- One case for each transition of `validateTransition`.
        obtain ⟨-, -, -, ⟨hr, hn⟩ | ⟨hr, hn | hn⟩ | ⟨hr | hr, hn⟩⟩ := he.next r hlookup <;>
          simp [broadcasting, hr, hn]
    · simp [broadcasting, hid, Ne.symm hid]

end

/-! ## The journal of a process -/

/-- The process knows the last record of each authorization. -/
def Reflects (attempts : Dict String Attempt) (m : Dict String AttemptRecord) : Prop :=
  ∀ id, (attempts.lookup id).map AttemptOf.record = m.lookup id

section

variable {j j' : AttemptJournal} {m : Dict String AttemptRecord} {a : Attempt} {canceled : Bool}
  {eventAt : Time} {write : WriteResult} {result : Except Err Attempt}

lemma sameAttemptIdentity_eq {current next : Attempt} (h : sameAttemptIdentity current next) :
    current.authorization = next.authorization ∧ current.authorized = next.authorized ∧
      current.prepared = next.prepared := by
  unfold sameAttemptIdentity at h
  split at h
  · cases h
  · rename_i hsame
    simp only [not_or, not_not] at hsame
    exact ⟨hsame.1, hsame.2.1, hsame.2.2.2⟩

lemma Reflects.insert {attempts : Dict String Attempt} (h : Reflects attempts m) :
    Reflects (attempts.insert id a) (m.insert id a.record) := by
  intro id'
  rw [lookup_insert_ite, lookup_insert_ite, ← h id']
  split_ifs <;> rfl

lemma admit_follows (hj : Reflects j.attempts m) (h : j.admits P canceled eventAt a = .ok e) : Follows P m e := by
  obtain ⟨rfl, hvalidate, -, -, -, htransition, -⟩ := admit_ok h
  obtain ⟨hsame, hvalid, hprepared, -⟩ := validate_ok hvalidate
  have hlookup := hj (j.eventOf P eventAt a).authorizationID
  refine ⟨rfl, hvalid, congrArg HeldAuthorization.value hsame,
    PreparedTransaction.validate_hash hprepared, ?_, ?_⟩
  · intro hnone
    rw [hnone, map_eq_none_iff] at hlookup
    rcases validateTransition_ok.mp htransition with ⟨-, hstate⟩ | ⟨current, hcurrent, -⟩
    · exact hstate
    · exact absurd (hlookup.symm.trans hcurrent) (by simp)
  · intro r hr
    rw [hr, map_eq_some_iff] at hlookup
    obtain ⟨current, hcurrent, rfl⟩ := hlookup
    rcases validateTransition_ok.mp htransition with ⟨hnone, -⟩ | ⟨current', hcurrent', hidentity, hstates⟩
    · exact absurd (hnone.symm.trans hcurrent) (by simp)
    · obtain rfl := Option.some.inj (hcurrent.symm.trans hcurrent')
      obtain ⟨hauth, hauthorized, hprep⟩ := sameAttemptIdentity_eq hidentity
      refine ⟨?_, ?_, hprep, hstates⟩
      · exact congrArg (fun s : SignedAuthorization => (⟨s.authorization.value, s.keyID, s.signature⟩ :
          SignedOf Authorization)) hauth
      · exact congrArg (fun s : Authorized => (⟨s.authorization.value, s.digest, s.keyID, s.claimedAt⟩ :
          AuthorizedOf Authorization)) hauthorized

/-- What an append can do: nothing, a fault with or without the event in the file, or
success. -/
lemma append_cases (h : j.append P canceled eventAt a write = (result, j', written)) :
    (j' = j ∧ written = none ∧ ∃ err, result = .error err) ∨
      ∃ e, j.admits P canceled eventAt a = .ok e ∧
        ((j'.fault ≠ none ∧ j'.attempts = j.attempts ∧ (written = none ∨ written = some e) ∧
            ∃ err, result = .error err) ∨
          (j'.attempts = j.attempts.insert e.authorizationID a ∧ written = some e ∧
            result = .ok a)) := by
  unfold AttemptJournal.append at h
  split at h
  · cases h
    exact .inl ⟨rfl, rfl, _, rfl⟩
  · rename_i e hadmits
    refine .inr ⟨e, hadmits, ?_⟩
    cases write with
    | failed stored err =>
      cases h
      refine .inl ⟨by simp, rfl, ?_, _, rfl⟩
      cases stored <;> simp
    | synced =>
      rw [admit_apply hadmits] at h
      cases h
      exact .inr ⟨rfl, rfl, rfl⟩

lemma openAttemptJournal_reflects (h : openAttemptJournal P es = .ok j) :
    Reflects j.attempts (journaled es) := by
  induction es using List.reverseRecOn generalizing j with
  | nil =>
    cases h
    exact fun _ => rfl
  | append_singleton es e ih =>
    obtain ⟨j₁, h₁, h₂⟩ := foldCheck_append_ok.mp h
    rw [foldCheck_singleton] at h₂
    obtain ⟨-, j₂, happly, rfl⟩ := replayEvent_ok h₂
    obtain ⟨-, -, -, rfl⟩ := apply_ok.mp happly
    have hinsert : Reflects (j₁.attempts.insert e.authorizationID (e.payload.decode e.sequence)) _ :=
      (ih h₁).insert
    rwa [record_decode, ← journaled_snoc] at hinsert

lemma append_legal (hes : Legal P es) (hj : j.fault = none → Reflects j.attempts (journaled es))
    (h : j.append P canceled eventAt a write = (result, j', written)) :
    Legal P (es ++ written.toList) ∧
      (j'.fault = none → Reflects j'.attempts (journaled (es ++ written.toList))) := by
  rcases append_cases h with ⟨rfl, rfl, -⟩ | ⟨e, hadmits, hcases⟩
  · simpa using ⟨hes, hj⟩
  · have hreflects := hj (admit_ok hadmits).2.2.2.1
    have hlegal := hes.snoc (admit_follows hreflects hadmits)
    have he := (admit_ok hadmits).1
    rcases hcases with ⟨hfault, -, rfl | rfl, -⟩ | ⟨hattempts, rfl, -⟩
    · exact ⟨by simpa using hes, fun h => absurd h hfault⟩
    · exact ⟨hlegal, fun h => absurd h hfault⟩
    · refine ⟨hlegal, fun _ => ?_⟩
      have hpayload : e.payload = a.record := by rw [he]; rfl
      rw [toList_some, journaled_snoc, hpayload, hattempts]
      exact hreflects.insert

end

/-! ## Runs -/

/-- The action asks the wallet for a broadcast of this authorization. -/
def broadcasts (id : String) (y : Success State Action Effect) : Bool :=
  match y.log with
  | .broadcast authorizationID _ => authorizationID = id
  | _ => false

/-- `CheckExecution` has succeeded for this authorization, and only steps of the same call
came after it. -/
def CheckedNow (P : Primitives) (x : Executor) (past : List (Success State Action Effect))
    (signed : SignedAuthorization) : Prop :=
  ∃ before y after env, past = before ++ y :: after ∧ y.log = .checked env signed ∧
    x.verifier.checkExecution P env signed = .ok () ∧ ∀ z ∈ after, ∃ env, z.input = .step env

def Phase.OK (P : Primitives) (x : Executor) (past : List (Success State Action Effect))
    (es : List AttemptEvent) : Phase → Prop
  | .enter attempt => CheckedNow P x past attempt.authorization
  | .broadcast attempt => CheckedNow P x past attempt.authorization ∧ attempt.state = .broadcasting ∧
      (journaled es).lookup attempt.authorized.authorization.value.authorizationID = some attempt.record
  | _ => True

/-- The broadcasts of this authorization that the running call is about to make. -/
def Process.pending (id : String) (p : Process) : ℕ :=
  match p.running with
  | some (_, .broadcast attempt) =>
    (decide (attempt.authorized.authorization.value.authorizationID = id)).toNat
  | _ => 0

structure Inv (P : Primitives) (x : Executor) (past : List (Success State Action Effect)) (s : State) :
    Prop where
  legal : Legal P s.durable
  reflects : ∀ p, s.process = some p → p.journal.fault = none →
    Reflects p.journal.attempts (journaled s.durable)
  /-- Each broadcast, made or about to be made, has its own BROADCASTING record. -/
  sent : ∀ id, past.countP (broadcasts id) + s.process.elim 0 (Process.pending id) ≤
    s.durable.countP (broadcasting id)
  phase : ∀ j call phase, s.process = some ⟨j, some (call, phase)⟩ → phase.OK P x past s.durable

section

variable {x : Executor} {past : List (Success State Action Effect)} {s s' : State} {p : Process}
  {effect : Effect} {action : Action} {phase : Phase}

lemma Phase.Passive.ok (h : phase.Passive) : phase.OK P x past es := by
  cases phase <;> first | exact trivial | exact h.elim

lemma Process.Passive.pending (h : p.Passive) : p.pending id = 0 := by
  obtain ⟨j, running⟩ := p
  rcases running with - | ⟨call, phase⟩
  · rfl
  · cases phase <;> first | rfl | exact h.elim

lemma Effect.Passive.broadcasts (h : effect.Passive) : broadcasts id ⟨s, action, effect⟩ = false := by
  cases effect <;> first | rfl | exact h.elim

lemma CheckedNow.step {signed : SignedAuthorization} (h : CheckedNow P x past signed) (env : StepEnv) :
    CheckedNow P x (past ++ [⟨s, .step env, effect⟩]) signed := by
  obtain ⟨before, y, after, env', rfl, hlog, hcheck, hafter⟩ := h
  refine ⟨before, y, after ++ [⟨s, .step env, effect⟩], env', by simp, hlog, hcheck, fun z hz => ?_⟩
  rcases mem_append.mp hz with hz | hz
  · exact hafter z hz
  · rw [mem_singleton.mp hz]
    exact ⟨env, rfl⟩

lemma Inv.stopped (hlegal : Legal P es)
    (hsent : ∀ id, past.countP (broadcasts id) ≤ es.countP (broadcasting id)) : Inv P x past ⟨es, none⟩ where
  legal := hlegal
  reflects p h := by cases h
  sent := hsent
  phase j call phase h := by cases h

lemma Inv.quiet (h : Inv P x past s) (heffect : ∀ id, broadcasts id ⟨s, action, effect⟩ = false)
    (hlegal : Legal P es)
    (hreflects : p.journal.fault = none → Reflects p.journal.attempts (journaled es))
    (hcount : ∀ id, s.durable.countP (broadcasting id) ≤ es.countP (broadcasting id))
    (hpending : ∀ id, p.pending id = 0) (hphase : ∀ call phase, p.running = some (call, phase) →
      phase.OK P x (past ++ [⟨s, action, effect⟩]) es) :
    Inv P x (past ++ [⟨s, action, effect⟩]) ⟨es, some p⟩ where
  legal := hlegal
  reflects q hq := by
    cases hq
    exact hreflects
  sent id := by
    have hsent := h.sent id
    have hle := hcount id
    rw [countP_append, countP_singleton, heffect]
    simp only [elim_some, hpending, Bool.false_eq_true, if_false]
    omega
  phase j call phase hq := by
    cases hq
    exact hphase call phase rfl

lemma Inv.passive (h : Inv P x past s) (hp : p.Passive) (he : effect.Passive) (hlegal : Legal P es)
    (hreflects : p.journal.fault = none → Reflects p.journal.attempts (journaled es))
    (hcount : ∀ id, s.durable.countP (broadcasting id) ≤ es.countP (broadcasting id)) :
    Inv P x (past ++ [⟨s, action, effect⟩]) ⟨es, some p⟩ := by
  refine h.quiet (fun _ => he.broadcasts) hlegal hreflects hcount (fun _ => hp.pending) ?_
  intro call phase hrunning
  rw [Process.Passive, hrunning] at hp
  exact Phase.Passive.ok hp

lemma Inv.stepped {env : StepEnv} {j : AttemptJournal} {call : Call} (h : Inv P x past s)
    (hs : s.process = some ⟨j, some (call, phase)⟩)
    (hstep : Stepped P x ⟨j, some (call, phase)⟩ env phase p effect written) :
    Inv P x (past ++ [⟨s, .step env, effect⟩]) ⟨s.durable ++ written.toList, some p⟩ := by
  have hreflects : j.fault = none → Reflects j.attempts (journaled s.durable) := h.reflects _ hs
  have hphase : phase.OK P x past s.durable := h.phase j call phase hs
  cases hstep with
  | passive hjournal hp he =>
    rw [append_none]
    exact h.passive hp he h.legal (hjournal ▸ hreflects) fun _ => le_rfl
  | authorized | prepared =>
    rw [append_none]
    refine h.quiet (fun _ => rfl) h.legal hreflects (fun _ => le_rfl) (fun _ => rfl) ?_
    rintro call phase ⟨⟩
    trivial
  | checked hcheck =>
    rw [append_none]
    refine h.quiet (fun _ => rfl) h.legal hreflects (fun _ => le_rfl) (fun _ => rfl) ?_
    rintro call phase ⟨⟩
    exact ⟨past, _, [], env.check, rfl, rfl, hcheck, by simp⟩
  | appended happend hwrites hp he =>
    obtain ⟨hlegal, hj⟩ := append_legal h.legal hreflects happend
    exact h.passive hp he hlegal hj fun _ => by simp
  | @entered attempt persisted _ j' _ happend =>
    obtain ⟨hlegal, hj⟩ := append_legal h.legal hreflects happend
    obtain ⟨e, hadmits, rfl, rfl, -⟩ := append_ok happend
    have hkey : e.authorizationID = attempt.authorized.authorization.value.authorizationID ∧
        e.payload = (attempt.entered env).record := by
      rw [(admit_ok hadmits).1]
      exact ⟨rfl, rfl⟩
    refine ⟨hlegal, ?_, fun id => ?_, ?_⟩
    · rintro q ⟨⟩
      exact hj
    · -- The record that was just written is the one of the coming broadcast.
      have hsent := h.sent id
      have hnew : broadcasting id e =
          decide (attempt.authorized.authorization.value.authorizationID = id) := by
        simp [broadcasting, hkey.1, hkey.2, AttemptOf.entered]
      rw [hs] at hsent
      rw [countP_append, countP_singleton, toList_some, countP_append, countP_singleton, hnew]
      simp only [elim_some, Process.pending, broadcasts, AttemptOf.entered] at hsent ⊢
      by_cases hid : attempt.authorized.authorization.value.authorizationID = id
      all_goals simp [hid]
      all_goals omega
    · rintro j₁ call phase ⟨⟩
      refine ⟨hphase.step env, rfl, ?_⟩
      rw [toList_some, journaled_snoc, hkey.1, hkey.2]
      exact AList.lookup_insert _
  | broadcast =>
    rw [append_none]
    refine ⟨h.legal, ?_, fun id => ?_, ?_⟩
    · rintro q ⟨⟩
      exact hreflects
    · have hsent := h.sent id
      rw [hs] at hsent
      rw [countP_append, countP_singleton]
      simpa [Process.pending, broadcasts, Bool.toNat, Bool.cond_decide] using hsent
    · rintro j₁ call phase ⟨⟩
      trivial

lemma Inv.acted (h : Inv P x past s) (hact : Acted P x s action s' effect) :
    Inv P x (past ++ [⟨s, action, effect⟩]) s' := by
  cases hact with
  | started hopen =>
    exact h.passive trivial trivial h.legal (fun _ => openAttemptJournal_reflects hopen) fun _ => le_rfl
  | crashed =>
    refine .stopped h.legal fun id => ?_
    have hsent := h.sent id
    rw [countP_append, countP_singleton]
    simp only [broadcasts, Bool.false_eq_true, if_false]
    omega
  | begun hs hjournal hp he =>
    exact h.passive hp he h.legal (hjournal ▸ h.reflects _ hs) fun _ => le_rfl
  | admitted hs hcheck =>
    refine h.quiet (fun _ => rfl) h.legal (h.reflects ⟨_, none⟩ hs) (fun _ => le_rfl) (fun _ => rfl) ?_
    rintro call phase ⟨⟩
    trivial
  | stepped hs hstep => exact h.stepped hs hstep

lemma history_inv (P : Primitives) (x : Executor) (actions : List Action) :
    Inv P x (history P x actions) (run P x actions) := by
  refine history_rule (H := Inv P x) (.stopped .nil fun _ => le_rfl) ?_ actions
  intro past s action s' effect h hact
  exact h.acted (act_acted hact)

/-- A broadcast is a step of a call that has just appended a BROADCASTING record. -/
lemma acted_broadcast {prepared : PreparedTransaction} (h : Acted P x s action s' (.broadcast id prepared)) :
    ∃ j call attempt, s.process = some ⟨j, some (call, .broadcast attempt)⟩ ∧
      attempt.authorized.authorization.value.authorizationID = id ∧ attempt.prepared = prepared := by
  cases h with
  | begun hs hjournal hp he => exact he.elim
  | stepped hs hstep =>
    cases hstep with
    | passive hjournal hp he | appended happend hwrites hp he => exact he.elim
    | broadcast => exact ⟨_, _, _, hs, rfl, rfl⟩

/-- In every run, the wallet is asked at most once for each authorization. It is given the
bytes of the PREPARED record in the file, whose Keccak hash is the transaction hash; the
BROADCASTING record is in the file; and `CheckExecution` has succeeded for the signed
authorization of the record, earlier in the same call. -/
theorem broadcast_at_most_once (P : Primitives) (x : Executor) (actions : List Action) :
    (∀ id, (history P x actions).countP (broadcasts id) ≤ 1) ∧
      ∀ past y later, history P x actions = past ++ y :: later → ∀ id prepared,
        y.log = .broadcast id prepared → ∃ e ∈ y.before.durable,
          e.authorizationID = id ∧ e.payload.state = .prepared ∧ e.payload.prepared = prepared ∧
          prepared.transactionHash = (P.rawKeccak256 prepared.rawTransaction).hash ∧
          (∃ e' ∈ y.before.durable, e'.authorizationID = id ∧ e'.payload.state = .broadcasting) ∧
          ∃ signed, CheckedNow P x past signed ∧
            e.payload.authorization = ⟨signed.authorization.value, signed.keyID, signed.signature⟩ := by
  constructor
  · intro id
    have hinv := history_inv P x actions
    calc (history P x actions).countP (broadcasts id)
        ≤ (run P x actions).durable.countP (broadcasting id) :=
          (Nat.le_add_right _ _).trans (hinv.sent id)
      _ = _ := hinv.legal.countP_broadcasting id
      _ ≤ 1 := Bool.toNat_le _
  · intro past y later hsplit id prepared hlog
    obtain ⟨before, after, -, hpast, hbefore, s', hcall⟩ := successes_split hsplit
    have hinv := history_inv P x before
    rw [show run P x before = y.before from hbefore, show history P x before = past from hpast] at hinv
    rw [hlog] at hcall
    obtain ⟨j, call, attempt, hprocess, rfl, rfl⟩ := acted_broadcast (act_acted hcall)
    obtain ⟨hchecked, hstate, hrecord⟩ := hinv.phase j call _ hprocess
    obtain ⟨e, he, hid, hprepared, hauth, htransaction, hhash⟩ := hinv.legal.origin hrecord
    obtain ⟨e', he', hid', hpayload⟩ := mem_of_journaled hrecord
    exact ⟨e, he, hid, hprepared, htransaction, hhash, ⟨e', he', hid', by rw [hpayload]; exact hstate⟩,
      attempt.authorization, hchecked, hauth⟩

end

open Example in
/-- A payment on the direct rail is broadcast, from the record that is in the file. -/
theorem broadcast_at_most_once_payment : ∃ y ∈ history primitives executor payment, ∃ prepared,
    y.log = .broadcast "authorization" prepared ∧
      ∃ e ∈ y.before.durable, e.payload.state = .prepared ∧ e.payload.prepared = prepared := by
  have hcount : 0 < (history primitives executor payment).countP (broadcasts "authorization") := by
    decide +kernel
  obtain ⟨y, hy, hbroadcasts⟩ := countP_pos_iff.mp hcount
  obtain ⟨past, later, hsplit⟩ := append_of_mem hy
  unfold broadcasts at hbroadcasts
  split at hbroadcasts
  · rename_i id prepared hlog
    rw [of_decide_eq_true hbroadcasts] at hlog
    obtain ⟨e, he, -, hstate, hprepared, -⟩ :=
      (broadcast_at_most_once primitives executor payment).2 past y later hsplit _ prepared hlog
    exact ⟨y, hy, prepared, hlog, e, he, hstate, hprepared⟩
  · cases hbroadcasts

end FlowOps.Signer

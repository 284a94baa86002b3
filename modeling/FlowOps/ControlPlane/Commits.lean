import FlowOps.ControlPlane.Lifecycle

/-!
# What an operation commits and what an event does

`Commit` lists the events that an operation appends, with all that it has checked before,
and `Applied` what an accepted event changes. Every result about the lifecycle rests on
the two:
* `Node.call_rule`: a property that every commit keeps is kept by every operation.
* `applyEvent_eq_ok`: an event is accepted exactly if it is `Applied`.
* `Lifecycle.OK.apply`: the records and the three indexes fit together.
-/

namespace FlowOps.ControlPlane

open List AList Dict

variable {t : Time} {sec : ℤ} {requestID k : String}

/-! ## Times -/

lemma before_unixTime : t.before (unixTime sec) ↔ t.unix < sec := by
  rw [Time.before_iff]
  simp only [unixTime, Time.unix, Time.unixToInternal]
  omega

lemma not_before_unixTime : t.before (unixTime sec) = false ↔ sec ≤ t.unix := by
  rw [← Bool.not_eq_true, before_unixTime, not_lt]

lemma unix_unixTime (sec : ℤ) : (unixTime sec).unix = sec := by
  simp [unixTime, Time.unix]

lemma unix_mono {u : Time} (h : t.ns ≤ u.ns) : t.unix ≤ u.unix := by
  simp only [Time.unix]
  omega

/-! ## Commits -/

/-- The reading of the clock that an operation goes by. -/
def Call.now : Call → Time
  | .submit env _ _ => env.now
  | .decide now .. => now
  | .issue env _ _ => env.now
  | .sweep now _ => now

/-- What `issueLocked` has checked before it appends an authorization. -/
structure Issuance (P : Primitives) (c : Config) (l : Lifecycle) (env : IssueEnv) (record : Record)
    (a : Authorization) (answer : Answer) : Prop where
  state : record.state = .approved
  inTime : env.now.unix < record.approvalExpiresAt
  active : env.activeVersion = .ok a.policyVersion
  fields : ∃ authorizationID nonce expiresAt, a = authorizationOf record authorizationID nonce env.now expiresAt
  expiresAt : a.expiresAt ≤ record.approvalExpiresAt
  valid : a.validate P.toCrypto = .ok ()
  newAuthorization : l.requestByAuthorization.lookup a.authorizationID = none
  newNonce : l.requestByNonce.lookup a.nonce = none
  answer : answer = env.answer ⟨a, c.envelopeKeyID, P.ed25519Sign a⟩

/-- The events that an operation appends to the journal of a lifecycle. -/
inductive Commit (P : Primitives) (c : Config) (l : Lifecycle) : Call → Draft → Answer → Prop
  | submit {env : SubmitEnv} {failure : Option String} {intent : PaymentIntent}
      {requestID intentDigest : String} {proposed decision : Decision} {state : State}
      (hdigest : intent.digest P = .ok intentDigest)
      (hintent :
        l.requestByIntent.lookup (scopedIntentKey intent.organizationID intent.intentID) = none)
      (hevaluate :
        env.evaluate intent (l.spendSnapshot P env.snapshotViews intent env.now) = .ok proposed)
      (hpilot : pilotDecision P c l env.pilotViews intent proposed = .ok decision)
      (hstate : decisionState decision = .ok state) (hnew : l.records.lookup requestID = none) :
      Commit P c l (.submit env failure intent)
        ⟨env.now, requestID,
          .submitted (recordOf P c env.now requestID intent intentDigest decision state)⟩
        (.stored requestID)
  | decide {now : Time} {failure : Option String} {requestID actor note : String}
      {action : ApprovalAction} {record : Record}
      (hlookup : l.records.lookup requestID = some record) (hstate : record.state = .pendingApproval)
      (haction : action = .approve ∨ action = .reject) (hactor : identifierPattern actor)
      (hnote : note.utf8ByteSize ≤ 2048) (htime : now.unix < record.approvalExpiresAt) :
      Commit P c l (.decide now failure requestID record.requestDigest action actor note)
        ⟨now, requestID, .approval ⟨action, actor, note, record.requestDigest, now.unix⟩⟩
        (.stored requestID)
  | issue {env : IssueEnv} {failure : Option String} {requestID : String} {record : Record}
      {a : Authorization} {answer : Answer} (hlookup : l.records.lookup requestID = some record)
      (h : Issuance P c l env record a answer) :
      Commit P c l (.issue env failure requestID) ⟨env.now, record.requestID, .issued a⟩ answer
  | expire {i : Call} {requestID reason : String} {record : Record} {answer : Answer}
      (hlookup : l.records.lookup requestID = some record)
      (hstate : record.state = .pendingApproval ∨ record.state = .approved)
      (htime : record.approvalExpiresAt ≤ i.now.unix) (hreason : reason.toList.all isSpace = false)
      (hanswer : ∀ s, answer ≠ .signed s) :
      Commit P c l i ⟨i.now, record.requestID, .expired reason⟩ answer

/-- What an operation plans: to return a record, to sign what is issued already, or to
commit an event. -/
inductive Planned (P : Primitives) (c : Config) (l : Lifecycle) : Call → Plan → Prop
  | record {i : Call} {r : Option Record} : Planned P c l i (.reply (.record r))
  | signed {env : IssueEnv} {failure : Option String} {requestID : String} {r : Record}
      {a : Authorization} (hlookup : l.records.lookup requestID = some r) (hstate : r.state = .issued)
      (hauthorization : r.authorization = some a) :
      Planned P c l (.issue env failure requestID)
        (.reply (.signed ⟨a, c.envelopeKeyID, P.ed25519Sign a⟩))
  | commit {i : Call} {d : Draft} {context : String} {answer : Answer} (h : Commit P c l i d answer) :
      Planned P c l i (.commit d context answer)

variable {P : Primitives} {c : Config} {l : Lifecycle} {failure : Option String}

section

variable {plan : Plan}

lemma wrap_eq_ok {α : Type} {text : String} {x : Except String α} {a : α} :
    wrap text x = .ok a ↔ x = .ok a := mapError_eq_ok

lemma submit_planned {env : SubmitEnv} {intent : PaymentIntent}
    (h : l.submit P c env intent = .ok plan) : Planned P c l (.submit env failure intent) plan := by
  obtain ⟨intentDigest, hdigest, h⟩ := bind_eq_ok.mp h
  split at h
  · obtain ⟨-, h⟩ := guard_ok.mp h
    cases h
    exact .record
  · rename_i hintent
    obtain ⟨-, h⟩ := bind_unit_eq_ok.mp h
    obtain ⟨proposed, hevaluate, h⟩ := bind_eq_ok.mp h
    obtain ⟨-, h⟩ := guard_ok.mp h
    obtain ⟨decision, hpilot, h⟩ := bind_eq_ok.mp h
    obtain ⟨state, hstate, h⟩ := bind_eq_ok.mp h
    obtain ⟨requestID, -, h⟩ := bind_eq_ok.mp h
    simp only [guard_ok, not_not, Except.ok.injEq] at h
    obtain ⟨-, hnew, rfl⟩ := h
    exact .commit (.submit hdigest hintent (wrap_eq_ok.mp hevaluate) hpilot hstate hnew)

lemma decide_planned {now : Time} {requestDigest actor note : String} {action : ApprovalAction}
    (h : l.decide now requestID requestDigest action actor note = .ok plan) :
    Planned P c l (.decide now failure requestID requestDigest action actor note) plan := by
  obtain ⟨haction, h⟩ := guard_ok.mp h
  obtain ⟨hvalid, h⟩ := guard_ok.mp h
  split at h
  · cases h
  · rename_i record hlookup
    simp only [guard_ok, not_not] at h
    obtain ⟨hstate, rfl, h⟩ := h
    split_ifs at h with htime
    · cases h
      exact .commit (.expire hlookup (.inl hstate) (not_before_unixTime.mp htime) (by decide) (by simp))
    · cases h
      rw [not_and_or, not_not, not_not] at haction
      rw [not_or, Bool.not_eq_false, not_lt] at hvalid
      rw [Bool.not_eq_false, before_unixTime] at htime
      exact .commit (.decide hlookup hstate haction hvalid.1 hvalid.2 htime)

/-- The expiry of an authorization is not after the end of the approval window. -/
lemma escrowExpiry_le {record : Record} {now expiresAt : Time}
    (h : escrowExpiry record.intent.escrow now (authorizationExpiry c record now) = .ok expiresAt) :
    expiresAt.unix ≤ record.approvalExpiresAt := by
  have hbound : (authorizationExpiry c record now).ns ≤ (unixTime record.approvalExpiresAt).ns := by
    unfold authorizationExpiry
    split_ifs with hafter
    · exact le_rfl
    · simpa [Time.after] using hafter
  have hle : expiresAt.ns ≤ (authorizationExpiry c record now).ns := by
    unfold escrowExpiry at h
    split at h
    · cases h
      exact le_rfl
    · obtain ⟨-, h⟩ := guard_ok.mp h
      split_ifs at h with hafter
      · obtain rfl := Except.ok.inj h
        simp only [Time.after, decide_eq_true_eq] at hafter
        exact hafter.le
      · cases h
        exact le_rfl
  exact (unix_mono (hle.trans hbound)).trans_eq (unix_unixTime _)

lemma issueLocked_planned {env : IssueEnv} {record : Record}
    (hlookup : l.records.lookup requestID = some record) (hstate : record.state = .approved)
    (htime : env.now.unix < record.approvalExpiresAt)
    (h : l.issueLocked P c env record = .ok plan) :
    Planned P c l (.issue env failure requestID) plan := by
  obtain ⟨active, hactive, h⟩ := bind_eq_ok.mp h
  obtain ⟨hversion, h⟩ := guard_ok.mp h
  obtain ⟨-, h⟩ := bind_unit_eq_ok.mp h
  obtain ⟨authorizationID, -, h⟩ := bind_eq_ok.mp h
  obtain ⟨nonce, -, h⟩ := bind_eq_ok.mp h
  obtain ⟨expiresAt, hexpiry, h⟩ := bind_eq_ok.mp h
  obtain ⟨signed, hsign, h⟩ := bind_eq_ok.mp h
  obtain ⟨hvalid, rfl⟩ := sign_eq_ok.mp hsign
  simp only [guard_ok, not_not, Except.ok.injEq] at h
  obtain ⟨hauth, hnonce, rfl⟩ := h
  rw [not_not] at hversion
  subst hversion
  exact .commit (.issue hlookup ⟨hstate, htime, wrap_eq_ok.mp hactive, ⟨_, _, _, rfl⟩,
    escrowExpiry_le hexpiry, hvalid, hauth, hnonce, rfl⟩)

lemma issue_planned {env : IssueEnv}
    (h : l.issue P c env requestID = .ok plan) : Planned P c l (.issue env failure requestID) plan := by
  unfold Lifecycle.issue at h
  split at h
  · cases h
  · rename_i record hlookup
    split at h
    · rename_i a hstate hauth
      obtain ⟨-, h⟩ := bind_unit_eq_ok.mp h
      obtain ⟨signed, hsign, h⟩ := bind_eq_ok.mp h
      obtain ⟨-, rfl⟩ := sign_eq_ok.mp hsign
      cases h
      exact .signed hlookup hstate hauth
    · simp only [guard_ok, not_not] at h
      obtain ⟨hstate, h⟩ := h
      split_ifs at h with htime
      · cases h
        exact .commit (.expire hlookup (.inr hstate) (not_before_unixTime.mp htime) (by decide) (by simp))
      · obtain ⟨-, h⟩ := bind_unit_eq_ok.mp h
        rw [Bool.not_eq_false, before_unixTime] at htime
        exact issueLocked_planned hlookup hstate htime h

end

/-! ## Accepted events -/

/-- What an accepted event is and does. -/
inductive Applied (P : Primitives) (l : Lifecycle) (e : Event) : Lifecycle → Prop
  | submitted {record : Record} (hbody : e.body = .submitted record)
      (hid : e.requestID = record.requestID) (htime : e.atUnix = record.submittedAt)
      (hnew : l.records.lookup record.requestID = none)
      (hintent : l.requestByIntent.lookup
        (scopedIntentKey record.intent.organizationID record.intent.intentID) = none)
      (hdigest : record.intent.digest P = .ok record.intentDigest)
      (hrequest : requestDigest P record.requestID record.intentDigest record.decision
        record.approvalExpiresAt = record.requestDigest)
      (hstate : decisionState record.decision = .ok record.state) (happroval : record.approval = none)
      (hauthorization : record.authorization = none) :
      Applied P l e { l with
        records := l.records.insert record.requestID record
        requestByIntent := l.requestByIntent.insert
          (scopedIntentKey record.intent.organizationID record.intent.intentID) record.requestID }
  | decided {a : Approval} {record : Record} {state : State} (hbody : e.body = .approval a)
      (hlookup : l.records.lookup e.requestID = some record) (hvalid : ¬a.Invalid record e)
      (haction : a.action = .approve ∧ state = .approved ∨ a.action = .reject ∧ state = .rejected) :
      Applied P l e { l with
        records := l.records.insert e.requestID { record with state, approval := some a } }
  | issued {a : Authorization} {record : Record} (hbody : e.body = .issued a)
      (hlookup : l.records.lookup e.requestID = some record) (hstate : record.state = .approved)
      (hissuedAt : a.issuedAt = e.atUnix) (htime : e.atUnix < record.approvalExpiresAt)
      (hvalid : a.validate P.toCrypto = .ok ()) (hmatches : AuthorizationMatches record a)
      (hauthorization : l.requestByAuthorization.lookup a.authorizationID = none)
      (hnonce : l.requestByNonce.lookup a.nonce = none) :
      Applied P l e { l with
        records := l.records.insert e.requestID { record with state := .issued, authorization := some a }
        requestByAuthorization := l.requestByAuthorization.insert a.authorizationID e.requestID
        requestByNonce := l.requestByNonce.insert a.nonce e.requestID }
  | expired {reason : String} {record : Record} (hbody : e.body = .expired reason)
      (hreason : reason.toList.all isSpace = false)
      (hlookup : l.records.lookup e.requestID = some record)
      (hstate : record.state = .pendingApproval ∨ record.state = .approved)
      (htime : record.approvalExpiresAt ≤ e.atUnix) :
      Applied P l e { l with records := l.records.insert e.requestID { record with state := .expired } }

section

variable {l' : Lifecycle} {e : Event} {r : Record}

lemma applied_of_applyEvent (h : applyEvent P l e = .ok l') : Applied P l e l' := by
  unfold applyEvent at h
  split at h
  · rename_i record hbody
    simp only [applySubmitted, guard_ok, not_or, not_not, Except.ok.injEq] at h
    obtain ⟨⟨hid, htime⟩, hnew, hintent, hdigest, hrequest, ⟨hstate, happroval, hauth⟩, rfl⟩ := h
    exact .submitted hbody hid htime hnew hintent hdigest hrequest hstate happroval hauth
  · rename_i a hbody
    unfold applyApproval at h
    split at h
    · cases h
    · rename_i record hlookup
      obtain ⟨hvalid, h⟩ := guard_ok.mp h
      split at h
      · rename_i haction
        cases h
        exact .decided hbody hlookup hvalid (.inl ⟨haction, rfl⟩)
      · rename_i haction
        cases h
        exact .decided hbody hlookup hvalid (.inr ⟨haction, rfl⟩)
      · cases h
  · rename_i a hbody
    unfold applyIssued at h
    split at h
    · cases h
    · rename_i record hlookup
      simp only [guard_ok, not_or, not_not, not_le, Except.ok.injEq] at h
      obtain ⟨⟨hstate, hissuedAt, htime⟩, hvalid, hmatches, hauth, hnonce, rfl⟩ := h
      exact .issued hbody hlookup hstate hissuedAt htime hvalid hmatches hauth hnonce
  · rename_i reason hbody
    obtain ⟨hreason, h⟩ := guard_ok.mp h
    split at h
    · cases h
    · rename_i record hlookup
      simp only [guard_ok, not_or, not_and_or, not_not, not_lt, Except.ok.injEq] at h
      obtain ⟨⟨hstate, htime⟩, rfl⟩ := h
      exact .expired hbody (Bool.not_eq_true _ ▸ hreason) hlookup hstate htime

lemma Applied.applyEvent (h : Applied P l e l') : applyEvent P l e = .ok l' := by
  cases h with
  | submitted hbody hid htime hnew hintent hdigest hrequest hstate happroval hauth =>
    simp [ControlPlane.applyEvent, hbody, applySubmitted, hid, htime, hnew, hintent, hdigest, hrequest,
      hstate, happroval, hauth]
  | decided hbody hlookup hvalid haction =>
    rcases haction with ⟨haction, rfl⟩ | ⟨haction, rfl⟩ <;>
      simp [ControlPlane.applyEvent, hbody, applyApproval, hlookup, hvalid, haction]
  | issued hbody hlookup hstate hissuedAt htime hvalid hmatches hauth hnonce =>
    simp [ControlPlane.applyEvent, hbody, applyIssued, hlookup, hstate, hissuedAt, htime, hvalid,
      hmatches, hauth, hnonce]
  | expired hbody hreason hlookup hstate htime =>
    have hstate' : ¬((_ ≠ State.pendingApproval ∧ _ ≠ State.approved) ∨ _ < _) :=
      not_or.mpr ⟨fun hne => hstate.elim hne.1 hne.2, not_lt.mpr htime⟩
    simp only [ControlPlane.applyEvent, hbody, applyExpired, hreason, hlookup, if_neg hstate',
      Bool.false_eq_true, if_false]

lemma Applied.lookup_of_ne (h : Applied P l e l') (hne : k ≠ e.requestID) :
    l'.records.lookup k = l.records.lookup k := by
  cases h with
  | submitted hbody hid => exact lookup_insert_ne (hid ▸ hne)
  | decided | issued | expired => exact lookup_insert_ne hne

/-! ## Records and indexes -/

/-- A request was approved by the policy alone, or by a decision on its digest within the
approval window. -/
def Record.Approved (r : Record) : Prop :=
  r.decision.outcome = .autoApprove ∨ r.decision.outcome = .requireApproval ∧
    ∃ a, r.approval = some a ∧ a.action = .approve ∧ a.requestDigest = r.requestDigest ∧
      a.decidedAt < r.approvalExpiresAt

/-- What holds of every stored record. -/
structure Record.OK (P : Primitives) (r : Record) : Prop where
  digest : r.intent.digest P = .ok r.intentDigest
  pending : r.state = .pendingApproval → r.decision.outcome = .requireApproval
  approved : r.state = .approved ∨ r.state = .issued → r.Approved
  issued : r.state = .issued ↔ r.authorization.isSome
  bound : ∀ a, r.authorization = some a →
    a.validate P.toCrypto = .ok () ∧ AuthorizationMatches r a ∧ a.issuedAt < r.approvalExpiresAt

/-- The records are stored under their ids and the indexes point to them. -/
structure Lifecycle.OK (P : Primitives) (l : Lifecycle) : Prop where
  record : ∀ {k r}, l.records.lookup k = some r → r.requestID = k ∧ r.OK P
  intent : ∀ {k r}, l.records.lookup k = some r →
    l.requestByIntent.lookup (scopedIntentKey r.intent.organizationID r.intent.intentID) = some k
  authorization : ∀ {k r a}, l.records.lookup k = some r → r.authorization = some a →
    l.requestByAuthorization.lookup a.authorizationID = some k ∧
      l.requestByNonce.lookup a.nonce = some k

lemma empty_ok : ({} : Lifecycle).OK P where
  record h := by cases h
  intent h := by cases h
  authorization h := by cases h

lemma submitted_ok (hdigest : r.intent.digest P = .ok r.intentDigest)
    (hstate : decisionState r.decision = .ok r.state) (hauth : r.authorization = none) :
    r.OK P := by
  have houtcome : r.decision.outcome = .deny ∧ r.state = .denied ∨
      r.decision.outcome = .requireApproval ∧ r.state = .pendingApproval ∨
      r.decision.outcome = .autoApprove ∧ r.state = .approved := by
    unfold decisionState at hstate
    split at hstate <;> simp_all
  refine ⟨hdigest, ?_, ?_, ?_, by simp [hauth]⟩
  all_goals
    rcases houtcome with ⟨ho, hs⟩ | ⟨ho, hs⟩ | ⟨ho, hs⟩ <;>
      simp [hs, ho, hauth, Record.Approved]

lemma Lifecycle.OK.update (h : l.OK P) {r' : Record} (hlookup : l.records.lookup k = some r)
    (hid : r'.requestID = r.requestID) (hintent : r'.intent = r.intent)
    (hauth : r'.authorization = r.authorization) (hr' : r'.OK P) :
    ({ l with records := l.records.insert k r' } : Lifecycle).OK P := by
  refine ⟨fun {k' r''} h'' => ?_, fun {k' r''} h'' => ?_, fun {k' r'' a} h'' ha => ?_⟩
  · rcases lookup_insert_eq_some.mp h'' with ⟨rfl, rfl⟩ | ⟨-, h''⟩
    · exact ⟨hid.trans (h.record hlookup).1, hr'⟩
    · exact h.record h''
  · rcases lookup_insert_eq_some.mp h'' with ⟨rfl, rfl⟩ | ⟨-, h''⟩
    · rw [hintent]
      exact h.intent hlookup
    · exact h.intent h''
  · rcases lookup_insert_eq_some.mp h'' with ⟨rfl, rfl⟩ | ⟨-, h''⟩
    · exact h.authorization hlookup (hauth ▸ ha)
    · exact h.authorization h'' ha

lemma Lifecycle.OK.apply (h : l.OK P) (ha : Applied P l e l') : l'.OK P := by
  cases ha with
  | @submitted record hbody hid htime hnew hintent hdigest hrequest hstate happroval hauth =>
    refine ⟨fun {k r} hr => ?_, fun {k r} hr => ?_, fun {k r a} hr ha => ?_⟩
    · rcases lookup_insert_eq_some.mp hr with ⟨rfl, rfl⟩ | ⟨-, hr⟩
      · exact ⟨rfl, submitted_ok hdigest hstate hauth⟩
      · exact h.record hr
    · rcases lookup_insert_eq_some.mp hr with ⟨rfl, rfl⟩ | ⟨-, hr⟩
      · exact lookup_insert _
      · have hold := h.intent hr
        refine (lookup_insert_ne fun heq => ?_).trans hold
        rw [heq, hintent] at hold
        cases hold
    · rcases lookup_insert_eq_some.mp hr with ⟨rfl, rfl⟩ | ⟨-, hr⟩
      · rw [hauth] at ha
        cases ha
      · exact h.authorization hr ha
  | @decided a record state hbody hlookup hvalid haction =>
    have hr := (h.record hlookup).2
    simp only [Approval.Invalid, not_or, not_not, not_le] at hvalid
    obtain ⟨hpending, hdigest, hdecided, htime, -, -⟩ := hvalid
    have hnone : record.authorization = none := by
      have := hr.issued
      rw [hpending] at this
      simpa using this
    refine h.update hlookup rfl rfl rfl ⟨hr.digest, ?_, ?_, ?_, by simp [hnone]⟩
    · rcases haction with ⟨-, rfl⟩ | ⟨-, rfl⟩ <;> simp
    · rcases haction with ⟨haction, rfl⟩ | ⟨-, rfl⟩
      · exact fun _ => .inr ⟨hr.pending hpending, a, rfl, haction, hdigest, hdecided ▸ htime⟩
      · simp
    · rcases haction with ⟨-, rfl⟩ | ⟨-, rfl⟩ <;> simp [hnone]
  | @issued a record hbody hlookup hstate hissuedAt htime hvalid hmatches hauth hnonce =>
    have hr := (h.record hlookup).2
    refine ⟨fun {k r} hk => ?_, fun {k r} hk => ?_, fun {k r b} hk hb => ?_⟩
    · rcases lookup_insert_eq_some.mp hk with ⟨rfl, rfl⟩ | ⟨-, hk⟩
      · refine ⟨(h.record hlookup).1, hr.digest, by simp, fun _ => hr.approved (.inl hstate), by simp, ?_⟩
        intro b hb
        obtain rfl := Option.some.inj hb
        exact ⟨hvalid, hmatches, hissuedAt ▸ htime⟩
      · exact h.record hk
    · rcases lookup_insert_eq_some.mp hk with ⟨rfl, rfl⟩ | ⟨-, hk⟩
      · have hindex := h.intent hlookup
        exact hindex
      · exact h.intent hk
    · rcases lookup_insert_eq_some.mp hk with ⟨rfl, rfl⟩ | ⟨-, hk⟩
      · obtain rfl := Option.some.inj hb
        exact ⟨lookup_insert _, lookup_insert _⟩
      · obtain ⟨hold, hold'⟩ := h.authorization hk hb
        -- The index has no entry for the new id and nonce yet.
        refine ⟨(lookup_insert_ne fun heq => ?_).trans hold,
          (lookup_insert_ne fun heq => ?_).trans hold'⟩
        · rw [heq, hauth] at hold
          cases hold
        · rw [heq, hnonce] at hold'
          cases hold'
  | @expired reason record hbody hreason hlookup hstate htime =>
    have hr := (h.record hlookup).2
    have hnone : record.authorization = none := by
      have := hr.issued
      rcases hstate with hstate | hstate <;> rw [hstate] at this <;> simpa using this
    exact h.update hlookup rfl rfl rfl ⟨hr.digest, by simp, by simp, by simp [hnone], by simp [hnone]⟩

end

/-! ## Operations as commits -/

section

variable {n : Node} {i : Call} {d : Draft} {context : String} {answer : Answer} {I : Node → Prop}

/-- A commit fails, or leaves an event in the journal that is refused, or applies it. -/
lemma Node.commit_cases (P : Primitives) (n : Node) (failure : Option String) (d : Draft)
    (context : String) (answer : Answer) :
    (∃ err, n.commit P failure d context answer = (n, .error err)) ∨
      ∃ e, append P n.events failure d = .ok e ∧
        ((∃ err, applyEvent P n.live e = .error err ∧ n.commit P failure d context answer =
            ({ n with events := n.events ++ [e] }, .error (.wrapped context err))) ∨
          ∃ live, Applied P n.live e live ∧ n.commit P failure d context answer =
            ({ live, events := n.events ++ [e] }, answer.reply live)) := by
  unfold commit
  cases happend : append P n.events failure d with
  | error err => exact .inl ⟨err, rfl⟩
  | ok e =>
    right
    refine ⟨e, rfl, ?_⟩
    cases happly : applyEvent P n.live e with
    | error err => exact .inl ⟨err, rfl, by simp [happly]⟩
    | ok live => exact .inr ⟨live, applied_of_applyEvent happly, by simp [happly]⟩

/-- The request is expired by a sweep at this time. -/
def Expirable (l : Lifecycle) (now : Time) (requestID : String) : Prop :=
  ∃ r, l.records.lookup requestID = some r ∧
    (r.state = .pendingApproval ∨ r.state = .approved) ∧ r.approvalExpiresAt ≤ now.unix

lemma mem_expiredRequests {l : Lifecycle} {now : Time}
    (h : requestID ∈ l.expiredRequests now) : Expirable l now requestID := by
  rw [Lifecycle.expiredRequests, mem_insertionSort, mem_map] at h
  obtain ⟨⟨k, r⟩, hmem, rfl⟩ := h
  obtain ⟨hentry, hr⟩ := mem_filter.mp hmem
  simp only [Bool.and_eq_true, Bool.or_eq_true, decide_eq_true_eq, Bool.not_eq_true',
    not_before_unixTime] at hr
  exact ⟨r, mem_lookup_iff.mpr hentry, hr⟩

lemma nodup_expiredRequests (l : Lifecycle) (now : Time) : (l.expiredRequests now).Nodup := by
  rw [Lifecycle.expiredRequests, (perm_insertionSort _ _).nodup_iff]
  exact (List.Sublist.map _ filter_sublist).nodup l.records.nodupKeys

lemma Node.commit_lookup_of_ne (hne : k ≠ d.requestID) :
    (n.commit P failure d context answer).1.live.records.lookup k = n.live.records.lookup k := by
  rcases n.commit_cases P failure d context answer with ⟨err, h⟩ | ⟨e, happend, h⟩
  · rw [h]
  · obtain ⟨rfl, -⟩ := append_ok happend
    rcases h with ⟨err, -, h⟩ | ⟨live, happlied, h⟩
    · rw [h]
    · rw [h]
      exact happlied.lookup_of_ne hne

/-- A property that every commit of an operation keeps is kept by a sweep. -/
lemma Node.sweep_rule (hok : ∀ n, I n → n.live.OK P) {now : Time}
    {failures : String → Option String}
    (hcommit : ∀ n failure d context answer, I n →
      Commit P c n.live (.sweep now failures) d answer →
      I (n.commit P failure d context answer).1) (ids : List String) :
    ∀ (n : Node) (completed : ℕ), ids.Nodup → (∀ id ∈ ids, Expirable n.live now id) → I n →
      I (n.sweep P now failures completed ids).1 := by
  induction ids with
  | nil => exact fun n _ _ _ h => h
  | cons id ids ih =>
    intro n completed hnodup hexpirable h
    obtain ⟨r, hlookup, hstate, htime⟩ := hexpirable id mem_cons_self
    obtain ⟨hnotMem, hnodup⟩ := nodup_cons.mp hnodup
    have hid := ((hok n h).record hlookup).1
    -- The iteration commits this event.
    let draft : Draft := ⟨now, r.requestID, .expired "approval window elapsed during sweep"⟩
    have hdraft : Commit P c n.live (.sweep now failures) draft (.stored id) :=
      .expire hlookup hstate htime (by decide) (by simp)
    have hnext := hcommit n (failures id) draft "apply durable expiry event" (.stored id) h hdraft
    have hsame : ∀ k ∈ ids, (n.commit P (failures id) draft "apply durable expiry event"
        (.stored id)).1.live.records.lookup k = n.live.records.lookup k :=
      fun k hk => commit_lookup_of_ne fun heq : k = r.requestID => hnotMem (hid ▸ heq ▸ hk)
    simp only [Node.sweep, hlookup, execute, expire]
    split
    · rename_i n' err heq
      rw [show n' = (n.commit P (failures id) draft "apply durable expiry event" (.stored id)).1 by
        rw [heq]]
      exact hnext
    · rename_i n' reply heq
      have hn' : n' = (n.commit P (failures id) draft "apply durable expiry event" (.stored id)).1 := by
        rw [heq]
      subst hn'
      refine ih _ _ hnodup (fun k hk => ?_) hnext
      obtain ⟨r', hr', hk'⟩ := hexpirable k (mem_cons_of_mem _ hk)
      exact ⟨r', (hsame k hk).trans hr', hk'⟩

lemma Node.call_planned (P : Primitives) (c : Config) (n : Node) (i : Call)
    (hsweep : ∀ now failures, i ≠ .sweep now failures) :
    (∃ err, n.call P c i = (n, .error err)) ∨
      ∃ plan failure, Planned P c n.live i plan ∧ n.call P c i = n.execute P failure (.ok plan) := by
  have hexecute : ∀ failure plan, (∀ p, plan = .ok p → Planned P c n.live i p) →
      n.call P c i = n.execute P failure plan → (∃ err, n.call P c i = (n, .error err)) ∨
        ∃ p failure, Planned P c n.live i p ∧ n.call P c i = n.execute P failure (.ok p) := by
    intro failure plan hplan heq
    cases plan with
    | error err => exact .inl ⟨err, heq⟩
    | ok p => exact .inr ⟨p, failure, hplan p rfl, heq⟩
  cases i with
  | submit env failure intent => exact hexecute failure _ (fun p hp => submit_planned hp) rfl
  | decide now failure requestID requestDigest action actor note =>
    exact hexecute failure _ (fun p hp => decide_planned hp) rfl
  | issue env failure requestID => exact hexecute failure _ (fun p hp => issue_planned hp) rfl
  | sweep now failures => exact absurd rfl (hsweep now failures)

lemma Node.call_rule (hok : ∀ n, I n → n.live.OK P) (i : Call)
    (hcommit : ∀ n failure d context answer, I n → Commit P c n.live i d answer →
      I (n.commit P failure d context answer).1) (n : Node) (h : I n) : I (n.call P c i).1 := by
  by_cases hsweep : ∃ now failures, i = .sweep now failures
  · obtain ⟨now, failures, rfl⟩ := hsweep
    exact sweep_rule hok hcommit _ n 0 (nodup_expiredRequests _ _)
      (fun id hid => mem_expiredRequests hid) h
  · push Not at hsweep
    rcases n.call_planned P c i hsweep with ⟨err, heq⟩ | ⟨plan, failure, hplan, heq⟩
    · rwa [heq]
    · rw [heq]
      cases hplan with
      | record | signed => exact h
      | commit hplan => exact hcommit n failure _ _ _ h hplan

lemma Node.commit_ok (h : n.live.OK P) : (n.commit P failure d context answer).1.live.OK P := by
  rcases n.commit_cases P failure d context answer with ⟨err, heq⟩ | ⟨e, -, ⟨err, -, heq⟩ | ⟨live, happlied, heq⟩⟩
  · rwa [heq]
  · rwa [heq]
  · rw [heq]
    exact h.apply happlied

lemma run_rule (hok : ∀ n, I n → n.live.OK P) (h₀ : I {})
    (hcommit : ∀ i n failure d context answer, I n → Commit P c n.live i d answer →
      I (n.commit P failure d context answer).1) (calls : List Call) : I (run P c calls) := by
  refine execute_invariant (fun n i n' o h hc => ?_) h₀ calls
  obtain rfl : (n.call P c i).1 = n' := congrArg Prod.fst (Except.ok.inj hc)
  exact Node.call_rule hok i (hcommit i) n h

lemma run_ok (P : Primitives) (c : Config) (calls : List Call) : (run P c calls).live.OK P :=
  run_rule (fun _ h => h) empty_ok (fun _ _ _ _ _ _ h _ => Node.commit_ok h) calls

end

end FlowOps.ControlPlane

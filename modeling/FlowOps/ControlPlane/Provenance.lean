import FlowOps.ControlPlane.Replay

/-!
# Where authorizations come from

Every authorization that `Issue` returns belongs to the record of one submitted intent, and
its record and the calls of the run say how it was approved, when, and under which policy.
A record that is issued does not change any more, and the indexes allow one record for an
intent, an authorization id and a nonce.

Result: `authorization_provenance`.
-/

namespace FlowOps.ControlPlane

open List Dict

variable {k : String} {s : SignedAuthorization}

/-- The calls that a record goes back to. -/
structure Origin (calls : List Call) (r : Record) : Prop where
  submitted : ∃ env failure, .submit env failure r.intent ∈ calls ∧
    (r.decision.outcome ≠ .deny → ∃ spend, env.evaluate r.intent spend = .ok r.decision)
  decided : ∀ a, r.approval = some a → ∃ now failure actor note,
    .decide now failure r.requestID r.requestDigest a.action actor note ∈ calls ∧
      a.decidedAt = now.unix
  issued : ∀ a, r.authorization = some a → ∃ env failure, .issue env failure r.requestID ∈ calls ∧
    env.activeVersion = .ok a.policyVersion ∧ a.issuedAt = env.now.unix

variable {P : Primitives} {c : Config} {calls : List Call} {r : Record}

section

variable {l l' : Lifecycle} {n : Node} {i : Call} {d : Draft} {context : String} {answer : Answer}
  {failure : Option String} {events : List Event} {e : Event}

lemma Origin.mono (h : Origin calls r) (i : Call) : Origin (calls ++ [i]) r := by
  obtain ⟨⟨env, failure, hmem, hevaluate⟩, hdecided, hissued⟩ := h
  refine ⟨⟨env, failure, mem_append_left _ hmem, hevaluate⟩, fun a ha => ?_, fun a ha => ?_⟩
  · obtain ⟨now, failure, actor, note, hmem, hat⟩ := hdecided a ha
    exact ⟨now, failure, actor, note, mem_append_left _ hmem, hat⟩
  · obtain ⟨env, failure, hmem, hactive, hat⟩ := hissued a ha
    exact ⟨env, failure, mem_append_left _ hmem, hactive, hat⟩

lemma pilotDecision_eq {views : String → View} {intent : PaymentIntent} {proposed decision : Decision}
    (h : pilotDecision P c l views intent proposed = .ok decision)
    (hne : decision.outcome ≠ .deny) : proposed = decision := by
  unfold pilotDecision at h
  split_ifs at h with hdeny
  · exact Except.ok.inj h
  · split at h
    · exact Except.ok.inj h
    · cases h
      exact absurd rfl hne
    · cases h
      exact absurd rfl hne
    · cases h

/-- The event that an operation commits gives the record it writes an origin. -/
lemma Commit.origin (h : Commit P c l i d answer) (hi : i ∈ calls) (hok : l.OK P)
    (horigin : ∀ {k r}, l.records.lookup k = some r → Origin calls r)
    (happend : append P events failure d = .ok e) (happlied : Applied P l e l')
    (hr : l'.records.lookup k = some r) : Origin calls r := by
  obtain ⟨rfl, -⟩ := append_ok happend
  cases h with
  | @submit env failure intent requestID intentDigest proposed decision state hdigest hintent hevaluate
      hpilot =>
    cases happlied with
    | @submitted record hbody =>
      obtain rfl := Body.submitted.inj hbody
      rcases lookup_insert_eq_some.mp hr with ⟨rfl, rfl⟩ | ⟨-, hr⟩
      · have hsubmitted : decision.outcome ≠ .deny → ∃ spend, env.evaluate intent spend = .ok decision := by
          intro hne
          rw [pilotDecision_eq hpilot hne] at hevaluate
          exact ⟨_, hevaluate⟩
        exact ⟨⟨env, failure, hi, hsubmitted⟩, by simp [recordOf], by simp [recordOf]⟩
      · exact horigin hr
    | decided hbody | issued hbody | expired hbody => cases hbody
  | @decide now failure requestID actor note action record hlookup =>
    cases happlied with
    | @decided a record' state hbody hlookup' =>
      obtain rfl := Body.approval.inj hbody
      obtain rfl : record' = record := Option.some.inj (hlookup'.symm.trans hlookup)
      rcases lookup_insert_eq_some.mp hr with ⟨rfl, rfl⟩ | ⟨-, hr⟩
      · obtain ⟨hsubmitted, -, hissued⟩ := horigin hlookup
        refine ⟨hsubmitted, fun b hb => ?_, hissued⟩
        obtain rfl := Option.some.inj hb
        exact ⟨now, failure, actor, note, (hok.record hlookup).1.symm ▸ hi, rfl⟩
      · exact horigin hr
    | submitted hbody | issued hbody | expired hbody => cases hbody
  | @issue env failure requestID record a answer hlookup h =>
    cases happlied with
    | @issued b record' hbody hlookup' =>
      obtain rfl := Body.issued.inj hbody
      have hid := (hok.record hlookup).1
      obtain rfl : record' = record := Option.some.inj (hlookup'.symm.trans (hid.symm ▸ hlookup))
      rcases lookup_insert_eq_some.mp hr with ⟨rfl, rfl⟩ | ⟨-, hr⟩
      · obtain ⟨hsubmitted, hdecided, -⟩ := horigin hlookup
        refine ⟨hsubmitted, hdecided, fun b hb => ?_⟩
        obtain rfl := Option.some.inj hb
        exact ⟨env, failure, hid.symm ▸ hi, h.active, h.issuedAt⟩
      · exact horigin hr
    | submitted hbody | decided hbody | expired hbody => cases hbody
  | expire hlookup =>
    cases happlied with
    | expired hbody hreason hlookup' =>
      rcases lookup_insert_eq_some.mp hr with ⟨rfl, rfl⟩ | ⟨-, hr⟩
      · obtain ⟨hsubmitted, hdecided, hissued⟩ := horigin hlookup'
        exact ⟨hsubmitted, hdecided, hissued⟩
      · exact horigin hr
    | submitted hbody | decided hbody | issued hbody => cases hbody

lemma run_origin (P : Primitives) (c : Config) (calls : List Call) {r : Record}
    (h : (run P c calls).live.records.lookup k = some r) : Origin calls r := by
  induction calls using List.reverseRecOn generalizing k r with
  | nil => cases h
  | append_singleton calls i ih =>
    have hstep := Node.call_rule (c := c) (I := fun n : Node => n.live.OK P ∧
      ∀ {k r}, n.live.records.lookup k = some r → Origin (calls ++ [i]) r) (fun _ h => h.1) i
      (fun n failure d context answer hn hcommit => ?_) (run P c calls)
      ⟨run_ok P c calls, fun hr => (ih hr).mono i⟩
    · rw [run, execute_snoc] at h
      exact hstep.2 h
    · refine ⟨Node.commit_ok hn.1, fun {k r} hr => ?_⟩
      rcases n.commit_cases P failure d context answer with
        ⟨err, heq⟩ | ⟨e, happend, ⟨err, -, heq⟩ | ⟨live, happlied, heq⟩⟩
      · rw [heq] at hr
        exact hn.2 hr
      · rw [heq] at hr
        exact hn.2 hr
      · rw [heq] at hr
        exact hcommit.origin (by simp) hn.1 hn.2 happend happlied hr

/-! ## Issued records -/

lemma Applied.issued_same (h : Applied P l e l') (hr : l.records.lookup k = some r)
    (hissued : r.state = .issued) : l'.records.lookup k = some r := by
  -- Every event writes a record that is new or was not issued.
  have hother : ∀ {k' r'}, (∀ old, l.records.lookup k' = some old → old.state ≠ .issued) →
      (l.records.insert k' r').lookup k = some r := by
    intro k' r' hk'
    have hne : k ≠ k' := fun heq => hk' r (heq ▸ hr) hissued
    rw [AList.lookup_insert_ne hne]
    exact hr
  cases h with
  | submitted hbody hid htime hnew => exact hother (by simp [hnew])
  | decided hbody hlookup hvalid =>
    refine hother (hlookup ▸ ?_)
    rintro _ ⟨⟩ hstate
    simp [Approval.Invalid, hstate] at hvalid
  | issued hbody hlookup hstate => exact hother (by simp [hlookup, hstate])
  | expired hbody hreason hlookup hstate =>
    exact hother (by rcases hstate with hstate | hstate <;> simp [hlookup, hstate])

lemma issued_forever (hok : n.live.OK P) (hr : n.live.records.lookup k = some r)
    (hissued : r.state = .issued) (more : List Call) :
    (execute (transaction P c) n more).live.records.lookup k = some r := by
  refine (execute_invariant (I := fun n : Node => n.live.OK P ∧ n.live.records.lookup k = some r)
    (fun n i n' o h hc => ?_) ⟨hok, hr⟩ more).2
  obtain rfl : (n.call P c i).1 = n' := congrArg Prod.fst (Except.ok.inj hc)
  refine Node.call_rule (I := fun n : Node => n.live.OK P ∧ n.live.records.lookup k = some r)
    (fun _ h => h.1) i (fun n failure d context answer h hcommit => ?_) n h
  refine ⟨Node.commit_ok h.1, ?_⟩
  rcases n.commit_cases P failure d context answer with
    ⟨err, heq⟩ | ⟨e, -, ⟨err, -, heq⟩ | ⟨live, happlied, heq⟩⟩
  · rw [heq]
    exact h.2
  · rw [heq]
    exact h.2
  · rw [heq]
    exact happlied.issued_same h.2 hissued

/-! ## Returned authorizations -/

lemma Node.commit_signed (h : (n.commit P failure d context answer).2 = .ok (.signed s)) :
    answer = .signed s ∧ ∃ e live, append P n.events failure d = .ok e ∧ Applied P n.live e live ∧
      (n.commit P failure d context answer).1.live = live := by
  rcases n.commit_cases P failure d context answer with
    ⟨err, heq⟩ | ⟨e, happend, ⟨err, -, heq⟩ | ⟨live, happlied, heq⟩⟩
  · rw [heq] at h
    cases h
  · rw [heq] at h
    cases h
  · rw [heq] at h ⊢
    refine ⟨?_, e, live, happend, happlied, rfl⟩
    cases answer with
    | stored | failed => cases h
    | signed s' =>
      obtain rfl := Reply.signed.inj (Except.ok.inj h)
      rfl

lemma sweep_reply {now : Time} {failures : String → Option String} (ids : List String) :
    ∀ (n : Node) (completed : ℕ), ∃ k err,
      (n.sweep P now failures completed ids).2 = .ok (.swept k err) := by
  induction ids with
  | nil => exact fun n completed => ⟨completed, none, rfl⟩
  | cons id ids ih =>
    intro n completed
    unfold Node.sweep
    split
    · exact ⟨_, _, rfl⟩
    · split
      · exact ⟨_, _, rfl⟩
      · exact ih _ _

lemma Issuance.signed {env : IssueEnv} {record : Record} {a : Authorization}
    (h : Issuance P c l env record a (.signed s)) : s = ⟨a, c.envelopeKeyID, P.ed25519Sign a⟩ := by
  have hanswer := h.answer
  unfold IssueEnv.answer at hanswer
  split at hanswer
  · exact Answer.signed.inj hanswer
  · cases hanswer

lemma Node.call_signed (hok : n.live.OK P)
    (h : (n.call P c i).2 = .ok (.signed s)) : ∃ env failure requestID r,
      i = .issue env failure requestID ∧ (n.call P c i).1.live.records.lookup requestID = some r ∧
        r.state = .issued ∧ r.authorization = some s.authorization ∧
        s = ⟨s.authorization, c.envelopeKeyID, P.ed25519Sign s.authorization⟩ := by
  by_cases hsweep : ∃ now failures, i = .sweep now failures
  · obtain ⟨now, failures, rfl⟩ := hsweep
    obtain ⟨k, err, heq⟩ := @sweep_reply P now failures (n.live.expiredRequests now) n 0
    rw [show (n.call P c (.sweep now failures)).2 = _ from heq] at h
    cases h
  · push Not at hsweep
    rcases n.call_planned P c i hsweep with ⟨err, heq⟩ | ⟨plan, failure, hplan, heq⟩
    · rw [heq] at h
      cases h
    · rw [heq] at h ⊢
      cases hplan with
      | record => cases h
      | @signed env failure requestID r a hlookup hstate hauth =>
        obtain rfl := Reply.signed.inj (Except.ok.inj h)
        exact ⟨env, failure, requestID, r, rfl, hlookup, hstate, hauth, rfl⟩
      | commit hcommit =>
        obtain ⟨rfl, e, live, happend, happlied, hlive⟩ := commit_signed h
        obtain ⟨rfl, -⟩ := append_ok happend
        cases hcommit with
        | expire _ _ _ _ hanswer => exact absurd rfl (hanswer s)
        | @issue env failure' requestID record a _ hlookup hissuance =>
          obtain rfl := hissuance.signed
          refine ⟨env, failure', requestID, { record with state := .issued, authorization := some a }, rfl,
            ?_, rfl, rfl, rfl⟩
          rw [show (n.execute P failure (.ok (.commit _ _ _))).1.live = live from hlive]
          have hid := (hok.record hlookup).1
          cases happlied with
          | @issued b record' hbody hlookup' =>
            obtain rfl := Body.issued.inj hbody
            obtain rfl : record' = record := Option.some.inj (hlookup'.symm.trans (hid.symm ▸ hlookup))
            rw [← hid]
            exact AList.lookup_insert _
          | submitted hbody | decided hbody | expired hbody => cases hbody

end

/-! ## Whole runs -/

/-- The authorization fits the record of a submitted intent: the calls that submitted,
decided and issued it, and the times of the three. -/
structure Provenance (P : Primitives) (calls : List Call) (r : Record) (a : Authorization) : Prop where
  submitted : ∃ env failure spend, .submit env failure r.intent ∈ calls ∧
    env.evaluate r.intent spend = .ok r.decision
  fields : AuthorizationMatches r a
  decided : r.decision.outcome = .autoApprove ∨ r.decision.outcome = .requireApproval ∧
    ∃ now failure actor note,
      .decide now failure r.requestID r.requestDigest .approve actor note ∈ calls ∧
        now.before (unixTime r.approvalExpiresAt)
  issued : ∃ env failure, .issue env failure r.requestID ∈ calls ∧
    env.activeVersion = .ok a.policyVersion ∧ a.issuedAt = env.now.unix
  issuedInTime : a.issuedAt < r.approvalExpiresAt
  expires : a.expiresAt ≤ r.approvalExpiresAt ∧ ∀ t, a.escrow = some t → a.expiresAt ≤ t.acknowledgeBy

section

variable {a : Authorization} {x : Success Node Call (Except Err Reply)}

/-- An accepted authorization for an escrow expires before the call must be acknowledged. -/
lemma expiresAt_le_acknowledgeBy (h : a.validate P.toCrypto = .ok ()) {t : EscrowTerms}
    (ht : a.escrow = some t) : a.expiresAt ≤ t.acknowledgeBy := by
  simp only [Authorization.validate, guard_ok] at h
  have hescrow := h.2.2.2.2.2.2.2.2.2.2.2.2.2.2.1
  simp only [ht, Option.any_some, Bool.or_eq_true, decide_eq_true_eq, not_or, not_le, not_lt] at hescrow
  exact hescrow.2

lemma provenance (hok : (run P c calls).live.OK P)
    (hr : (run P c calls).live.records.lookup k = some r) (hstate : r.state = .issued)
    (ha : r.authorization = some a) : Provenance P calls r a := by
  have hrecord := (hok.record hr).2
  obtain ⟨hvalid, hmatches, hissued⟩ := hrecord.bound a ha
  obtain ⟨⟨env, failure, hsubmit, hevaluate⟩, hdecided, hissue⟩ := run_origin P c calls hr
  have happroved := hrecord.approved (.inr hstate)
  have hne : r.decision.outcome ≠ .deny := by
    rcases happroved with h | ⟨h, -⟩ <;> rw [h] <;> decide
  obtain ⟨spend, hspend⟩ := hevaluate hne
  refine ⟨⟨env, failure, spend, hsubmit, hspend⟩, hmatches, ?_, hissue a ha, hissued,
    hmatches.2.2.2.2.2.2.2.2.2.2.2.2.2.2, fun t ht => expiresAt_le_acknowledgeBy hvalid ht⟩
  rcases happroved with hauto | ⟨hrequired, approval, happroval, haction, -, htime⟩
  · exact .inl hauto
  · obtain ⟨now, failure, actor, note, hmem, hat⟩ := hdecided approval happroval
    rw [haction] at hmem
    exact .inr ⟨hrequired, now, failure, actor, note, hmem, before_unixTime.mpr (hat ▸ htime)⟩

/-- A call that returned an authorization, and the record it belongs to at the end of the run. -/
structure Returned (P : Primitives) (c : Config) (calls : List Call)
    (x : Success Node Call (Except Err Reply)) (s : SignedAuthorization) (r : Record) : Prop where
  mem : x ∈ history P c calls
  reply : x.log = .ok (.signed s)
  record : (run P c calls).live.records.lookup r.requestID = some r
  authorization : r.authorization = some s.authorization
  requested : ∃ env failure, x.input = .issue env failure r.requestID

lemma successes_inputs (n : Node) (calls : List Call) :
    (successes (transaction P c) n calls).map (·.input) = calls := by
  induction calls generalizing n with
  | nil => rfl
  | cons i calls ih => exact congrArg (i :: ·) (ih (n.call P c i).1)

lemma exists_returned {past later : List (Success Node Call (Except Err Reply))}
    (hsplit : history P c calls = past ++ x :: later) (hreply : x.log = .ok (.signed s)) :
    ∃ r, Returned P c calls x s r ∧
      Provenance P (past.map (·.input) ++ [x.input]) r s.authorization := by
  obtain ⟨before, after, rfl, rfl, hbefore, n', hc⟩ := successes_split hsplit
  obtain ⟨hn', hlog⟩ := Prod.mk.inj (Except.ok.inj hc)
  have hok : x.before.live.OK P := hbefore ▸ run_ok P c before
  obtain ⟨env, failure, requestID, r, hinput, hlookup, hstate, hauth, -⟩ :=
    Node.call_signed hok (hlog.trans hreply)
  have hrun : run P c (before ++ [x.input]) = (x.before.call P c x.input).1 := by
    rw [run, execute_snoc, hbefore]
    rfl
  rw [← hrun] at hlookup
  have hok' := run_ok P c (before ++ [x.input])
  have hid := (hok'.record hlookup).1
  rw [successes_inputs]
  refine ⟨r, ⟨hsplit ▸ by simp, hreply, ?_, hauth, env, failure, hid ▸ hinput⟩,
    provenance hok' hlookup hstate hauth⟩
  have hforever := issued_forever (c := c) hok' hlookup hstate after
  rw [← execute_append, append_assoc, singleton_append] at hforever
  exact hid.symm ▸ hforever

/-- One request, one intent of an organization, one authorization id and one nonce have at
most one authorization. -/
lemma Returned.unique {y : Success Node Call (Except Err Reply)} {t : SignedAuthorization}
    {r r' : Record} (hx : Returned P c calls x s r) (hy : Returned P c calls y t r')
    (h : r.requestID = r'.requestID ∨
      r.intent.organizationID = r'.intent.organizationID ∧ r.intent.intentID = r'.intent.intentID ∨
      s.authorization.authorizationID = t.authorization.authorizationID ∨
      s.authorization.nonce = t.authorization.nonce) : s.authorization = t.authorization := by
  have hok := run_ok P c calls
  obtain ⟨hid, hnonce⟩ := hok.authorization hx.record hx.authorization
  obtain ⟨hid', hnonce'⟩ := hok.authorization hy.record hy.authorization
  have hrequest : r.requestID = r'.requestID := by
    rcases h with h | ⟨horganization, hintent⟩ | h | h
    · exact h
    · have hindex := hok.intent hx.record
      rw [horganization, hintent, hok.intent hy.record] at hindex
      exact (Option.some.inj hindex).symm
    · rw [h, hid'] at hid
      exact (Option.some.inj hid).symm
    · rw [h, hnonce'] at hnonce
      exact (Option.some.inj hnonce).symm
  have hrecord : r = r' := by
    have hlookup := hx.record
    rw [hrequest, hy.record] at hlookup
    exact (Option.some.inj hlookup).symm
  have hauth := hx.authorization
  rw [hrecord, hy.authorization] at hauth
  exact (Option.some.inj hauth).symm

end

/-- Every authorization that a call returns has its provenance in the calls up to it, and over
the whole run one request, one intent, one authorization id and one nonce have at most
one authorization. -/
theorem authorization_provenance (P : Primitives) (c : Config) (calls : List Call) :
    (∀ past x later s, history P c calls = past ++ x :: later → x.log = .ok (.signed s) →
      ∃ r, Returned P c calls x s r ∧
        Provenance P (past.map (·.input) ++ [x.input]) r s.authorization) ∧
      ∀ x y s t r r', Returned P c calls x s r → Returned P c calls y t r' →
        (r.requestID = r'.requestID ∨ r.intent.organizationID = r'.intent.organizationID ∧
            r.intent.intentID = r'.intent.intentID ∨
          s.authorization.authorizationID = t.authorization.authorizationID ∨
          s.authorization.nonce = t.authorization.nonce) → s.authorization = t.authorization :=
  ⟨fun _ _ _ _ hsplit hreply => exists_returned hsplit hreply,
    fun _ _ _ _ _ _ hx hy h => hx.unique hy h⟩

end FlowOps.ControlPlane

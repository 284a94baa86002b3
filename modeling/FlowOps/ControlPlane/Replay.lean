import FlowOps.ControlPlane.Commits

/-!
# Restarting from the journal

`New` applies the events of the journal one by one. What an operation has checked before
it appends an event is what `applyEvent` checks again, with one exception: an authorization
must not be issued before its request was submitted, and `Issue` does not compare the two.
If the clock has stepped back, the event is in the journal, `applyEvent` refuses it, and no
later `New` succeeds.

The texts of an intent and the note of a decision are of type `String`, which is valid UTF-8,
so that the JSON of an event gives them back. A Go string with other bytes comes back with
U+FFFD in their place, and `applyEvent` refuses the event for its digest; there is no such
text here.

Results: `rebuild_eq_live`, `clock_step_back_breaks_journal`.
-/

namespace FlowOps.ControlPlane

/-- The operation does not issue an authorization before the request was submitted. -/
def Timely (l : Lifecycle) (i : Call) : Prop :=
  ∀ env failure requestID, i = .issue env failure requestID → ∀ r,
    l.records.lookup requestID = some r → r.state = .approved → r.submittedAt ≤ env.now.unix

section

variable {P : Primitives} {c : Config} {l : Lifecycle} {n : Node} {i : Call} {d : Draft}
  {context : String} {answer : Answer} {failure : Option String} {events : List Event} {e : Event}

lemma Issuance.bound {env : IssueEnv} {record : Record} {a : Authorization}
    (h : Issuance P c l env record a answer) (htime : record.submittedAt ≤ env.now.unix) :
    AuthorizationMatches record a := by
  have hexpires := h.expiresAt
  obtain ⟨authorizationID, nonce, expiresAt, rfl⟩ := h.fields
  exact ⟨rfl, rfl, rfl, rfl, rfl, rfl, rfl, rfl, rfl, rfl, rfl, rfl, rfl, htime, hexpires⟩

lemma Issuance.issuedAt {env : IssueEnv} {record : Record} {a : Authorization}
    (h : Issuance P c l env record a answer) : a.issuedAt = env.now.unix := by
  obtain ⟨authorizationID, nonce, expiresAt, rfl⟩ := h.fields
  rfl

lemma Commit.applied (h : Commit P c l i d answer) (hok : l.OK P) (htimely : Timely l i)
    (happend : append P events failure d = .ok e) : ∃ l', Applied P l e l' := by
  obtain ⟨rfl, -⟩ := append_ok happend
  cases h with
  | submit hdigest hintent hevaluate hpilot hstate hnew =>
    exact ⟨_, .submitted rfl rfl rfl hnew hintent hdigest rfl hstate rfl rfl⟩
  | @decide now _ requestID actor note action record hlookup hstate haction hactor hnote htime =>
    have hvalid : ¬Approval.Invalid ⟨action, actor, note, record.requestDigest, now.unix⟩ record
        (eventOf P events ⟨now, requestID,
          .approval ⟨action, actor, note, record.requestDigest, now.unix⟩⟩) := by
      simp [Approval.Invalid, hstate, hactor, hnote, htime]
    rcases haction with rfl | rfl
    · exact ⟨_, .decided rfl hlookup hvalid (.inl ⟨rfl, rfl⟩)⟩
    · exact ⟨_, .decided rfl hlookup hvalid (.inr ⟨rfl, rfl⟩)⟩
  | @issue env failure requestID record a answer hlookup h =>
    have hid := (hok.record hlookup).1
    have hsubmitted := htimely env failure requestID rfl record hlookup h.state
    exact ⟨_, .issued rfl (hid.symm ▸ hlookup) h.state h.issuedAt h.inTime h.valid
      (h.bound hsubmitted) h.newAuthorization h.newNonce⟩
  | expire hlookup hstate htime hreason =>
    have hid := (hok.record hlookup).1
    exact ⟨_, .expired rfl hreason (hid.symm ▸ hlookup) hstate htime⟩

/-- An operation that has committed an event on a request issues it no more. -/
lemma Commit.timely (h : Commit P c n.live i d answer) (htimely : Timely n.live i) :
    Timely (n.commit P failure d context answer).1.live i := by
  rintro env failure' requestID rfl r hlookup hstate
  by_cases hid : requestID = d.requestID
  · rcases n.commit_cases P failure d context answer with
      ⟨err, heq⟩ | ⟨e, happend, ⟨err, -, heq⟩ | ⟨live, happlied, heq⟩⟩
    · rw [heq] at hlookup
      exact htimely env failure' requestID rfl r hlookup hstate
    · rw [heq] at hlookup
      exact htimely env failure' requestID rfl r hlookup hstate
    · rw [heq, hid] at hlookup
      obtain ⟨rfl, -⟩ := append_ok happend
      cases happlied with
      | submitted hbody | decided hbody =>
        cases h with
        | issue | expire => cases hbody
      | issued | expired =>
        obtain rfl := Option.some.inj ((AList.lookup_insert _).symm.trans hlookup)
        cases hstate
  · rw [Node.commit_lookup_of_ne hid] at hlookup
    exact htimely env failure' requestID rfl r hlookup hstate

lemma rebuild_snoc {l' : Lifecycle} (h : rebuild P events = .ok l) (ha : Applied P l e l') :
    rebuild P (events ++ [e]) = .ok l' := by
  rw [rebuild, foldCheck_append_ok]
  exact ⟨l, h, (foldCheck_singleton _ _ _).trans ha.applyEvent⟩

lemma Node.call_rebuild (htimely : Timely n.live i) (hok : n.live.OK P)
    (h : rebuild P n.events = .ok n.live) :
    rebuild P (n.call P c i).1.events = .ok (n.call P c i).1.live := by
  refine (call_rule (I := fun n => n.live.OK P ∧ Timely n.live i ∧ rebuild P n.events = .ok n.live)
    (fun _ h => h.1) i (fun n failure d context answer h hcommit => ?_) n ⟨hok, htimely, h⟩).2.2
  obtain ⟨hok, htimely, h⟩ := h
  refine ⟨commit_ok hok, hcommit.timely htimely, ?_⟩
  rcases n.commit_cases P failure d context answer with
    ⟨err, heq⟩ | ⟨e, happend, ⟨err, hrefused, heq⟩ | ⟨live, happlied, heq⟩⟩
  · rwa [heq]
  · obtain ⟨l', happlied⟩ := hcommit.applied hok htimely happend
    rw [happlied.applyEvent] at hrefused
    cases hrefused
  · rw [heq]
    exact rebuild_snoc h happlied

end

/-- If no authorization is issued at a time before its request was submitted, and all texts
are valid UTF-8 (a `String` always is), every event of the journal is accepted, and `New`
rebuilds the live records and indexes from it. -/
theorem rebuild_eq_live (P : Primitives) (c : Config) (calls : List Call)
    (htimely : ∀ x ∈ history P c calls, Timely x.before.live x.input) :
    rebuild P (run P c calls).events = .ok (run P c calls).live := by
  refine (history_rule (s := ({} : Node)) (H := fun past n => n.live.OK P ∧
    ((∀ x ∈ past, Timely x.before.live x.input) → rebuild P n.events = .ok n.live))
    ⟨empty_ok, fun _ => rfl⟩ (fun past n i n' o h hc => ?_) calls).2 htimely
  obtain rfl : (n.call P c i).1 = n' := congrArg Prod.fst (Except.ok.inj hc)
  refine ⟨Node.call_rule (fun _ h => h) i (fun _ _ _ _ _ h _ => Node.commit_ok h) n h.1,
    fun htimely => ?_⟩
  have hbefore := h.2 fun x hx => htimely x (List.mem_append_left _ hx)
  exact Node.call_rebuild (htimely ⟨n, i, o⟩ (by simp)) h.1 hbefore

/-! ## A clock that steps back -/

namespace Example

/-- A request is submitted at second 1000 and issued. -/
def calls (issuedAt : ℤ) : List Call :=
  [.submit (submitEnv (unixTime 1000) (fun _ => quiet (unixTime 1000)) "request") none
      (intent "task" "60"), .issue (issueEnv (unixTime issuedAt)) none "request"]

/-- The first call starts from nothing, the second from what the first has stored. -/
lemma mem_history {issuedAt : ℤ} {x : Success Node Call (Except Err Reply)}
    (h : x ∈ history primitives config (calls issuedAt)) :
    x.input = .submit (submitEnv (unixTime 1000) (fun _ => quiet (unixTime 1000)) "request") none
        (intent "task" "60") ∨
      x.input = .issue (issueEnv (unixTime issuedAt)) none "request" ∧
        x.before = run primitives config ((calls issuedAt).take 1) := by
  rcases List.mem_cons.mp h with rfl | h
  · exact .inl rfl
  · rcases List.mem_cons.mp h with rfl | h
    · exact .inr ⟨rfl, rfl⟩
    · cases h

end Example

open Example in
/-- The request that is issued a second later is rebuilt. -/
theorem rebuild_eq_live_issued :
    (∀ x ∈ history primitives config (calls 1001), Timely x.before.live x.input) ∧
      ((run primitives config (calls 1001)).live.records.lookup "request").map (·.state) =
        some .issued ∧
      rebuild primitives (run primitives config (calls 1001)).events =
        .ok (run primitives config (calls 1001)).live := by
  have hsubmitted : ∀ r, (run primitives config ((calls 1001).take 1)).live.records.lookup "request" =
      some r → r.submittedAt ≤ 1001 := by
    have hall : ((run primitives config ((calls 1001).take 1)).live.records.lookup "request").all
        (fun r => r.submittedAt ≤ 1001) := by decide
    intro r hr
    simpa [hr] using hall
  have htimely : ∀ x ∈ history primitives config (calls 1001), Timely x.before.live x.input := by
    intro x hx env failure requestID hinput r hlookup hstate
    rcases mem_history hx with hsubmit | ⟨hissue, hbefore⟩
    · rw [hsubmit] at hinput
      cases hinput
    · rw [hissue] at hinput
      obtain ⟨rfl, -, rfl⟩ := Call.issue.inj hinput
      rw [hbefore] at hlookup
      exact hsubmitted r hlookup
  exact ⟨htimely, by decide, rebuild_eq_live primitives config (calls 1001) htimely⟩

open Example in
/-- Issued a second earlier, the authorization is in the journal and cannot be replayed:
`New` fails. -/
theorem clock_step_back_breaks_journal : (run primitives config (calls 999)).events.length = 2 ∧
      ∀ l, rebuild primitives (run primitives config (calls 999)).events ≠ .ok l := by
  have hrefused : (run primitives config (calls 999)).events.length = 2 ∧
      (rebuild primitives (run primitives config (calls 999)).events).toBool = false := by
    decide
  refine ⟨hrefused.1, fun l hl => ?_⟩
  have hfalse := hrefused.2
  rw [hl] at hfalse
  cases hfalse

end FlowOps.ControlPlane

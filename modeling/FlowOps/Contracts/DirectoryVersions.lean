import FlowOps.Contracts.ServiceDirectory

/-!
# The versions of the directory

Every call changes the versions in at most two steps: a successor whose time has come is
activated, and then the call proposes, approves or cancels the live successor
(`call_ok`). The invariant `Versions.OK` says that the live successor is the only
proposal under way, and that it follows the active version.

Result: `linear_delayed_history`. The activated versions are 1, 2, 3, …, each activated
after its delay; the views never go back.
-/

namespace FlowOps.ServiceDirectory

open Evm Function List

variable {versionId : UInt64}

/-! ## What a successful call did -/

/-- `p` is the version after the active one. -/
structure Follows (v : Versions) (p : DirectoryProposal) : Prop where
  next : p.versionId.toNat = v.activeVersion.toNat + 1
  previousVersion : p.previousVersion = v.activeVersion
  previousRoot : p.previousRoot = v.activeRoot

/-- What `activateVersion`, `proposeVersion` and `approveVersion` do once a successor that
was due has been activated. -/
inductive Change (d : Deployment) (m : Msg) (v : Versions) : Method → Versions → List Log → Prop
  | activate : Change d m v .activateVersion v []
  | propose {p : DirectoryProposal} {a : AdminActionAuthorization} {signature : List (BitVec 8)}
      (hfollows : Follows v p) (hfree : v.liveSuccessorHash = 0) :
      Change d m v (.proposeVersion p a signature)
        { v with
          latestProposalHash := update v.latestProposalHash p.versionId (d.hashProposal p)
          liveSuccessorHash := d.hashProposal p
          proposals := update v.proposals (d.hashProposal p)
            { proposal := p, proposalHash := d.hashProposal p, state := .proposed
              proposer := m.sender, proposedAt := uint64 m.timestamp } }
        [.versionProposed (d.hashProposal p) p m.sender (uint64 m.timestamp)]
  | approve {versionId : UInt64} {hash : Bytes32} {minimum effective : UInt64}
      (hsender : m.sender = d.governor) (hstate : (v.proposals hash).state = .proposed)
      (hminimum : delayed m.timestamp (v.proposals hash).proposal.changeClass.delay = some minimum)
      (heffective : minimum.toNat ≤ effective.toNat) :
      Change d m v (.approveVersion versionId hash)
        { v with
          proposals := update v.proposals hash
            { v.proposals hash with
              state := .approvedPendingActivation, approver := m.sender
              approvedAt := uint64 m.timestamp, effectiveActivatesAt := effective } }
        [.versionApproved hash versionId m.sender (uint64 m.timestamp) effective,
          .governanceWorkflowBound (v.proposals hash).proposal.workflowId
            (v.proposals hash).proposal.workflowPayloadHash d.approveSelector]

/-- The version that an event reports as activated. -/
def Log.activated : Log → Option ℕ
  | .versionActivated _ versionId _ _ => some versionId.toNat
  | _ => none

/-- What a successful transaction did to the versions. -/
inductive Step (d : Deployment) (s : Storage) : Input → Versions → List Log → Prop
  | change {m : Msg} {method : Method} {v' : Versions} {o : List Log}
      (h : Change d m (s.activateIfEligible m.timestamp).1 method v' o) :
      Step d s ⟨m, method⟩ v' ((s.activateIfEligible m.timestamp).2 ++ o)
  | cancel {m : Msg} {versionId : UInt64} {hash workflowId payloadHash : Bytes32}
      (hstate : (s.proposals hash).state = .proposed ∨
        (s.proposals hash).state = .approvedPendingActivation ∧
          m.timestamp < (s.proposals hash).effectiveActivatesAt.toNat) :
      Step d s ⟨m, .cancelVersion versionId hash workflowId payloadHash⟩
        { s.toVersions with
          liveSuccessorHash := 0
          proposals := update s.proposals hash { s.proposals hash with state := .cancelled } }
        [.versionCancelled hash versionId m.sender,
          .governanceWorkflowBound workflowId payloadHash d.cancelSelector]
  | other {i : Input} {o : List Log} (h : ∀ l ∈ o, l.activated = none) : Step d s i s.toVersions o

variable {d : Deployment} {s : Storage} {m : Msg} {i : Input} {o : List Log}

section

variable {s' : Storage} {a : AdminActionAuthorization} {signature : List (BitVec 8)}
  {payloadHash workflowId : Bytes32} {selector : BitVec 32}

lemma consumeAdminAuthorization_ok {role : Bytes32} {signer : Address} {epoch : UInt64}
    (h : consumeAdminAuthorization d s m a signature role selector payloadHash workflowId signer
      epoch = .ok s') : s'.toVersions = s.toVersions := by
  simp only [consumeAdminAuthorization, guard_ok] at h
  obtain ⟨-, -, -, h⟩ := h
  cases hr : d.recover (d.adminAuthorizationDigest a) signature with
  | none => simp [hr] at h
  | some signer =>
    simp only [hr, guard_ok, Except.ok.injEq] at h
    rw [← h.2]

lemma proposeVersion_ok {p : DirectoryProposal} (h : proposeVersion d s m p a signature = .ok
    (s', o)) :
    Step d s ⟨m, .proposeVersion p a signature⟩ s'.toVersions o := by
  simp only [proposeVersion, guard_ok, not_not, not_le, bind_eq_ok, ok_pair_eq] at h
  obtain ⟨hbound, hversion, hprevious, hroot, hfree, -, -, -, -, s₁, hconsume, rfl, rfl⟩ := h
  have hv := consumeAdminAuthorization_ok hconsume
  simp only at hv
  have hnext : p.versionId.toNat = (s.activateIfEligible m.timestamp).1.activeVersion.toNat + 1 := by
    rw [hversion, UInt64.toNat_add, UInt64.toNat_one, Nat.mod_eq_of_lt hbound]
  have hchange : Change d m (s.activateIfEligible m.timestamp).1 (.proposeVersion p a signature) _ _ :=
    .propose ⟨hnext, hprevious, hroot⟩ hfree
  simp only [hv]
  exact .change hchange

lemma approveVersion_ok {hash : Bytes32} (h : approveVersion d s m versionId hash = .ok (s', o)) :
    Step d s ⟨m, .approveVersion versionId hash⟩ s'.toVersions o := by
  simp only [approveVersion, guard_ok, not_not] at h
  obtain ⟨hsender, -, rfl, hstate, h⟩ := h
  split at h
  · cases h
  · rename_i minimum hminimum
    simp only [ok_pair_eq] at h
    obtain ⟨rfl, rfl⟩ := h
    refine .change (.approve hsender hstate hminimum ?_)
    split_ifs with hlt
    · exact (UInt64.lt_iff_toNat_lt.mp hlt).le
    · exact le_rfl

lemma cancelVersion_ok {hash : Bytes32}
    (h : cancelVersion d s m versionId hash workflowId payloadHash = .ok (s', o)) :
    Step d s ⟨m, .cancelVersion versionId hash workflowId payloadHash⟩ s'.toVersions o := by
  simp only [cancelVersion, guard_ok, not_not, not_and, ok_pair_eq] at h
  obtain ⟨-, -, -, rfl, hopen, hdue, rfl, rfl⟩ := h
  refine .cancel ?_
  by_cases hstate : (s.proposals (s.latestProposalHash versionId)).state = .proposed
  · exact .inl hstate
  · exact .inr ⟨hopen hstate, Nat.not_le.mp (hdue (hopen hstate))⟩

lemma setAuthority_ok {previous next : Address} {epoch : UInt64} {s₁ : Storage} {log : Log}
    (h : setAuthority d m previous next epoch selector workflowId payloadHash s₁ log =
      .ok (s', o)) :
    s₁ = s' ∧ [log, .governanceWorkflowBound workflowId payloadHash selector] = o := by
  simp only [setAuthority, guard_ok, ok_pair_eq] at h
  exact h.2.2.2.2

lemma flagAuthority_ok {key : Bytes32} {current next : Bool} {authority : Address}
    (h : flagAuthority d s m key current next selector workflowId payloadHash a signature =
      .ok (s', authority)) : s'.toVersions = s.toVersions := by
  simp only [flagAuthority, guard_ok] at h
  obtain ⟨-, h⟩ := h
  split_ifs at h with hnext hsender
  · simp only [ok_pair_eq] at h
    rw [h.1]
  · obtain ⟨s₁, hconsume, heq⟩ := bind_eq_ok.mp h
    simp only [ok_pair_eq] at heq
    rw [← heq.1]
    exact consumeAdminAuthorization_ok hconsume

lemma call_ok (h : call d s i = .ok (s', o)) : Step d s i s'.toVersions o := by
  match i with
  | ⟨m, .proposeVersion p a signature⟩ => exact proposeVersion_ok h
  | ⟨m, .approveVersion versionId hash⟩ => exact approveVersion_ok h
  | ⟨m, .cancelVersion versionId hash workflowId payloadHash⟩ => exact cancelVersion_ok h
  | ⟨m, .activateVersion⟩ =>
    simp only [call, ok_pair_eq] at h
    obtain ⟨rfl, rfl⟩ := h
    have hstep := Step.change (d := d) (s := s) (Change.activate (m := m))
    rwa [append_nil] at hstep
  | ⟨m, .setDirectoryPublisher publisher workflowId payloadHash⟩ =>
    obtain ⟨rfl, rfl⟩ := setAuthority_ok h
    exact .other (by simp [Log.activated])
  | ⟨m, .setPauser pauser workflowId payloadHash⟩ =>
    obtain ⟨rfl, rfl⟩ := setAuthority_ok h
    exact .other (by simp [Log.activated])
  | ⟨m, .pauseSeller sellerId paused workflowId payloadHash a signature⟩ =>
    simp only [call, pauseSeller, guard_ok, bind_eq_ok, ok_pair_eq] at h
    obtain ⟨-, -, ⟨s₁, authority⟩, hflag, rfl, rfl⟩ := h
    rw [flagAuthority_ok hflag]
    exact .other (by simp [Log.activated])
  | ⟨m, .setQuoteKeyRevoked key revoked workflowId payloadHash a signature⟩ =>
    simp only [call, setQuoteKeyRevoked, guard_ok, bind_eq_ok, ok_pair_eq] at h
    obtain ⟨-, -, ⟨s₁, authority⟩, hflag, rfl, rfl⟩ := h
    rw [flagAuthority_ok hflag]
    exact .other (by simp [Log.activated])

end

/-! ## One successor -/

def ProposalState.isOpen : ProposalState → Bool
  | .proposed | .approvedPendingActivation => true
  | .none | .active | .cancelled => false

/-- The live successor is the only proposal under way, and follows the active version. -/
structure Versions.OK (v : Versions) : Prop where
  live : ∀ hash, (v.proposals hash).state.isOpen ↔ hash = v.liveSuccessorHash ∧ hash ≠ 0
  follows : v.liveSuccessorHash ≠ 0 → Follows v (v.proposals v.liveSuccessorHash).proposal

variable {v v' : Versions} {method : Method} {hash : Bytes32}

section

variable {timestamp : ℕ}

lemma Versions.OK.close (h : v.OK) (hopen : (v.proposals hash).state.isOpen)
    {record : ProposalRecord} (hclosed : record.state.isOpen = false) (version : UInt64)
    (root : Bytes32) :
    Versions.OK { v with
      activeVersion := version, activeRoot := root, liveSuccessorHash := 0
      proposals := update v.proposals hash record } where
  live h' := by
    have hlive := (h.live hash).mp hopen
    by_cases heq : h' = hash
    · subst heq
      simp [hclosed]
    · have : (v.proposals h').state.isOpen = false := by
        rw [Bool.eq_false_iff]
        intro hopen'
        exact heq (((h.live h').mp hopen').1.trans hlive.1.symm)
      simp [update_of_ne heq, this]
  follows hne := absurd rfl hne

lemma Versions.OK.activateIfEligible (h : v.OK) (timestamp : ℕ) :
    (v.activateIfEligible timestamp).1.OK := by
  unfold Versions.activateIfEligible
  split_ifs with hdue
  · exact h.close (by rw [hdue.2.1]; rfl) rfl _ _
  · exact h

lemma Change.ok (hhash : ∀ p, d.hashProposal p ≠ 0) (h : v.OK) (hc : Change d m v method v' o) :
    v'.OK := by
  cases hc with
  | activate => exact h
  | @propose p a signature hfollows hfree =>
    refine ⟨fun h' => ?_, fun _ => ?_⟩
    · by_cases heq : h' = d.hashProposal p
      · subst heq
        simpa [ProposalState.isOpen] using hhash p
      · have hclosed : ¬(v.proposals h').state.isOpen := fun hopen =>
          ((h.live h').mp hopen).2 (((h.live h').mp hopen).1.trans hfree)
        simp [hclosed, heq]
    · simp only [update_self]
      exact ⟨hfollows.next, hfollows.previousVersion, hfollows.previousRoot⟩
  | @approve versionId hash minimum effective hsender hstate hminimum heffective =>
    have hlive := (h.live hash).mp (by rw [hstate]; rfl)
    refine ⟨fun h' => ?_, fun hne => ?_⟩
    · by_cases heq : h' = hash
      · subst heq
        simpa [ProposalState.isOpen] using hlive
      · simpa [update_of_ne heq] using h.live h'
    · have hf := h.follows hne
      rw [← hlive.1] at hf
      simp only [← hlive.1, update_self]
      exact ⟨hf.next, hf.previousVersion, hf.previousRoot⟩

lemma Step.ok (hhash : ∀ p, d.hashProposal p ≠ 0) (h : s.toVersions.OK) (hs : Step d s i v' o) :
    v'.OK := by
  cases hs with
  | change hc => exact hc.ok hhash (h.activateIfEligible _)
  | cancel hstate =>
    refine h.close ?_ rfl _ _
    rcases hstate with hstate | ⟨hstate, -⟩ <;> rw [hstate] <;> rfl
  | other => exact h

lemma init_ok (publisher pauser : Address) : (Storage.init publisher pauser).toVersions.OK :=
  ⟨fun hash => by simp [Storage.init, ProposalState.isOpen], fun h => absurd rfl h⟩

lemma run_ok (hhash : ∀ p, d.hashProposal p ≠ 0) (publisher pauser : Address) (inputs : List Input) :
    (run d publisher pauser inputs).toVersions.OK :=
  execute_invariant (I := fun s : Storage => s.toVersions.OK)
    (fun _ _ _ _ h hc => (call_ok hc).ok hhash h) (init_ok publisher pauser) inputs

end

/-! ## The views -/

variable {t : ℕ}

section

variable {t' : ℕ}

lemma currentVersion_eq (v : Versions) (t : ℕ) :
    v.currentVersion t = (v.activateIfEligible t).1.activeVersion := by
  unfold Versions.currentVersion Versions.activateIfEligible
  split_ifs <;> rfl

lemma currentRoot_eq (v : Versions) (t : ℕ) :
    v.currentRoot t = (v.activateIfEligible t).1.activeRoot := by
  unfold Versions.currentRoot Versions.activateIfEligible
  split_ifs <;> rfl

lemma Versions.Due.mono (h : v.Due t) (htime : t ≤ t') : v.Due t' :=
  ⟨h.1, h.2.1, h.2.2.trans htime⟩

lemma currentVersion_of_due (h : v.OK) (hdue : v.Due t) :
    (v.currentVersion t).toNat = v.activeVersion.toNat + 1 := by
  rw [Versions.currentVersion, if_pos hdue]
  exact (h.follows hdue.1).next

lemma currentVersion_of_not_due (hdue : ¬v.Due t) : v.currentVersion t = v.activeVersion := by
  rw [Versions.currentVersion, if_neg hdue]

lemma activeVersion_le (h : v.OK) (t : ℕ) : v.activeVersion.toNat ≤ (v.currentVersion t).toNat := by
  by_cases hdue : v.Due t
  · rw [currentVersion_of_due h hdue]
    exact Nat.le_succ _
  · rw [currentVersion_of_not_due hdue]

lemma currentVersion_mono (h : v.OK) (htime : t ≤ t') :
    (v.currentVersion t).toNat ≤ (v.currentVersion t').toNat := by
  by_cases hdue : v.Due t
  · rw [currentVersion_of_due h hdue, currentVersion_of_due h (hdue.mono htime)]
  · rw [currentVersion_of_not_due hdue]
    exact activeVersion_le h t'

lemma Change.activeVersion (h : Change d m v method v' o) : v'.activeVersion = v.activeVersion := by
  cases h <;> rfl

/-- What the views report at a time is not taken back by a later call. -/
lemma Step.currentVersion_le (hhash : ∀ p, d.hashProposal p ≠ 0) (h : s.toVersions.OK)
    (hs : Step d s i v' o) (htime : t ≤ i.msg.timestamp) :
    (s.currentVersion t).toNat ≤ (v'.currentVersion t).toNat := by
  have hok := hs.ok hhash h
  cases hs with
  | @change m method v' o hc =>
    calc (s.currentVersion t).toNat
        ≤ (s.currentVersion m.timestamp).toNat := currentVersion_mono h htime
      _ = v'.activeVersion.toNat := by rw [currentVersion_eq, hc.activeVersion]
      _ ≤ (v'.currentVersion t).toNat := activeVersion_le hok t
  | @cancel m versionId hash workflowId payloadHash hstate =>
    -- A successor that is due can not be cancelled.
    have hnot : ¬s.Due t := by
      rintro ⟨hne, happroved, hdue⟩
      have hlive := (h.live hash).mp (by rcases hstate with h | ⟨h, -⟩ <;> rw [h] <;> rfl)
      rw [← hlive.1] at happroved hdue
      rcases hstate with hproposed | ⟨-, hlate⟩
      · rw [happroved] at hproposed
        cases hproposed
      · exact absurd (hdue.trans htime) (Nat.not_le.mpr hlate)
    rw [currentVersion_of_not_due hnot]
    exact activeVersion_le hok t
  | other => exact le_rfl

lemma execute_currentVersion_le (hhash : ∀ p, d.hashProposal p ≠ 0) (h : s.toVersions.OK)
    {more : List Input} (hmore : ∀ i ∈ more, t ≤ i.msg.timestamp) :
    (s.currentVersion t).toNat ≤ ((execute (call d) s more).currentVersion t).toNat := by
  have hrun : (execute (call d) s more).toVersions.OK ∧
      (s.currentVersion t).toNat ≤ ((execute (call d) s more).currentVersion t).toNat := by
    refine history_rule_of_mem (s := s) (H := fun _ (s' : Storage) => s'.toVersions.OK ∧
      (s.currentVersion t).toNat ≤ (s'.currentVersion t).toNat) ⟨h, le_rfl⟩ more ?_
    rintro - s₁ i s₂ o hi ⟨hok, hle⟩ hc
    exact ⟨(call_ok hc).ok hhash hok, hle.trans ((call_ok hc).currentVersion_le hhash hok (hmore i hi))⟩
  exact hrun.2

end

/-! ## The history -/

/-- The versions that were activated, in order. -/
def activatedVersions (past : List Taken) : List ℕ :=
  past.flatMap fun x => x.log.filterMap Log.activated

/-- `y` is the governor's approval of the proposal `p`, which holds it back until
`activatesAt`. -/
def IsApproval (d : Deployment) (y : Taken) (hash : Bytes32)
    (p : DirectoryProposal) (activatesAt : ℕ) : Prop :=
  ∃ m versionId, y.input = ⟨m, .approveVersion versionId hash⟩ ∧ m.sender = d.governor ∧
    (y.before.proposals hash).proposal = p ∧ (uint64 m.timestamp).toNat + p.changeClass.delay ≤ activatesAt

/-- An approved successor was approved by the governor. -/
def Approved (d : Deployment) (past : List Taken) (v : Versions) : Prop :=
  v.liveSuccessorHash ≠ 0 → (v.proposals v.liveSuccessorHash).state = .approvedPendingActivation →
    ∃ y ∈ past, IsApproval d y v.liveSuccessorHash (v.proposals v.liveSuccessorHash).proposal
      (v.proposals v.liveSuccessorHash).effectiveActivatesAt.toNat

/-- `x` activates a version: it is the one after the active version, and the governor has
approved it before, by its delay at least. -/
structure Activation (d : Deployment) (past : List Taken) (x : Taken) (hash : Bytes32)
    (versionId : UInt64) (root : Bytes32) : Prop where
  proposal : (x.before.proposals hash).proposal.versionId = versionId ∧
    (x.before.proposals hash).proposal.newRoot = root
  follows : Follows x.before.toVersions (x.before.proposals hash).proposal
  approved : ∃ y ∈ past, ∃ m versionId', y.input = ⟨m, .approveVersion versionId' hash⟩ ∧
    m.sender = d.governor ∧ (y.before.proposals hash).proposal = (x.before.proposals hash).proposal ∧
    (m.timestamp < 2 ^ 64 →
      m.timestamp + (x.before.proposals hash).proposal.changeClass.delay ≤ x.input.msg.timestamp)

section

variable {past : List Taken}

lemma Change.not_activated (h : Change d m v method v' o) : ∀ l ∈ o, l.activated = none := by
  cases h with
  | activate => simp
  | propose | approve => simp [Log.activated]

lemma filterMap_activated (h : ∀ l ∈ o, l.activated = none) : o.filterMap Log.activated = [] :=
  filterMap_eq_nil_iff.mpr h

lemma Step.activated (h : s.toVersions.OK) (hs : Step d s i v' o) :
    List.range' 1 s.activeVersion.toNat ++ o.filterMap Log.activated =
      List.range' 1 v'.activeVersion.toNat := by
  cases hs with
  | @change m method v' o hc =>
    rw [filterMap_append, filterMap_activated hc.not_activated, append_nil,
      hc.activeVersion, Versions.activateIfEligible]
    split_ifs with hdue
    · have hnext := (h.follows hdue.1).next
      simp only [filterMap_cons, Log.activated, filterMap_nil, hnext]
      rw [List.range'_1_concat, Nat.add_comm]
    · simp
  | cancel => simp [Log.activated]
  | other hlog => rw [filterMap_activated hlog, append_nil]

lemma activateIfEligible_proposal (v : Versions) (t : ℕ) (hash : Bytes32) :
    ((v.activateIfEligible t).1.proposals hash).proposal = (v.proposals hash).proposal := by
  unfold Versions.activateIfEligible
  split_ifs
  · by_cases heq : hash = v.liveSuccessorHash
    · subst heq
      simp
    · simp [update_of_ne heq]
  · rfl

lemma Approved.mono {more : List Taken} (h : Approved d past v) :
    Approved d (past ++ more) v := by
  intro hne hstate
  obtain ⟨y, hy, hy'⟩ := h hne hstate
  exact ⟨y, mem_append_left _ hy, hy'⟩

lemma Approved.activateIfEligible (h : Approved d past v) (t : ℕ) :
    Approved d past (v.activateIfEligible t).1 := by
  unfold Versions.activateIfEligible
  split_ifs
  · exact fun hne => absurd rfl hne
  · exact h

lemma Step.approved (hok : s.toVersions.OK) (h : Approved d past s.toVersions)
    (hs : Step d s i v' o) : Approved d (past ++ [⟨s, i, o⟩]) v' := by
  cases hs with
  | @change m method v' o hc =>
    have hok' := hok.activateIfEligible m.timestamp
    cases hc with
    | activate => exact (h.activateIfEligible _).mono
    | propose =>
      intro hne hstate
      simp at hstate
    | @approve versionId hash minimum effective hsender hstate hminimum heffective =>
      intro hne happroved
      have hlive : hash = _ := ((hok'.live hash).mp (by rw [hstate]; rfl)).1
      simp only at hne happroved ⊢
      rw [← hlive]
      refine ⟨_, mem_append_right _ (mem_singleton_self _), m, versionId, rfl, hsender, ?_, ?_⟩
      · simp [activateIfEligible_proposal]
      · have := delayed_eq_some.mp hminimum
        simp only [update_self]
        omega
  | cancel => exact fun hne => absurd rfl hne
  | other => exact h.mono

/-- The list of activations and the approval of the successor, over a run. -/
lemma run_history (hhash : ∀ p, d.hashProposal p ≠ 0) (publisher pauser : Address)
    (inputs : List Input) :
    (run d publisher pauser inputs).toVersions.OK ∧
      activatedVersions (history d publisher pauser inputs) =
        List.range' 1 (run d publisher pauser inputs).activeVersion.toNat ∧
      Approved d (history d publisher pauser inputs) (run d publisher pauser inputs).toVersions := by
  refine history_rule (H := fun past (s : Storage) => s.toVersions.OK ∧
      activatedVersions past = List.range' 1 s.activeVersion.toNat ∧ Approved d past s.toVersions)
    (s := Storage.init publisher pauser)
    ⟨init_ok publisher pauser, rfl, fun hne => absurd rfl hne⟩ (fun past s i s' o h hc => ?_) inputs
  obtain ⟨hok, hlist, happroved⟩ := h
  have hstep := call_ok hc
  refine ⟨hstep.ok hhash hok, ?_, hstep.approved hok happroved⟩
  rw [← hstep.activated hok, ← hlist]
  simp [activatedVersions]

lemma Step.activation {activatedAt : UInt64} {root : Bytes32} (hok : s.toVersions.OK)
    (happroved : Approved d past s.toVersions) (hs : Step d s i v' o)
    (hmem : .versionActivated hash versionId root activatedAt ∈ o) :
    Activation d past ⟨s, i, o⟩ hash versionId root := by
  cases hs with
  | @change m method v' o hc =>
    have hmem' : .versionActivated hash versionId root activatedAt ∈
        (s.activateIfEligible m.timestamp).2 := by
      rcases mem_append.mp hmem with hmem | hmem
      · exact hmem
      · have := hc.not_activated _ hmem
        simp [Log.activated] at this
    unfold Versions.activateIfEligible at hmem'
    split_ifs at hmem' with hdue
    · simp only [mem_singleton, Log.versionActivated.injEq] at hmem'
      obtain ⟨rfl, rfl, rfl, -⟩ := hmem'
      obtain ⟨y, hy, m', versionId', hinput, hsender, hsame, htime⟩ := happroved hdue.1 hdue.2.1
      refine ⟨⟨rfl, rfl⟩, hok.follows hdue.1, y, hy, m', versionId', hinput, hsender, hsame,
        fun hlt => ?_⟩
      rw [toNat_uint64 hlt] at htime
      exact htime.trans hdue.2.2
    · simp at hmem'
  | cancel => simp at hmem
  | other hlog =>
    have := hlog _ hmem
    simp [Log.activated] at this

/-- The directory's versions form one linear, delayed history. -/
theorem linear_delayed_history (d : Deployment) (hhash : ∀ p, d.hashProposal p ≠ 0)
    (publisher pauser : Address) (inputs : List Input) :
    (∀ hash, ((run d publisher pauser inputs).proposals hash).state = .proposed ∨
        ((run d publisher pauser inputs).proposals hash).state = .approvedPendingActivation ↔
      hash = (run d publisher pauser inputs).liveSuccessorHash ∧ hash ≠ 0) ∧
    activatedVersions (history d publisher pauser inputs) =
      List.range' 1 (run d publisher pauser inputs).activeVersion.toNat ∧
    (∀ past x later hash versionId root activatedAt,
      history d publisher pauser inputs = past ++ x :: later →
      .versionActivated hash versionId root activatedAt ∈ x.log →
      Activation d past x hash versionId root) ∧
    (∀ m : Msg, ∃ s' o, call d (run d publisher pauser inputs) ⟨m, .activateVersion⟩ = .ok (s', o) ∧
      (run d publisher pauser inputs).currentVersion m.timestamp = s'.activeVersion ∧
      (run d publisher pauser inputs).currentRoot m.timestamp = s'.activeRoot) ∧
    ∀ more t t', (∀ i ∈ more, t ≤ i.msg.timestamp) → t ≤ t' →
      ((run d publisher pauser inputs).currentVersion t).toNat ≤
        ((run d publisher pauser (inputs ++ more)).currentVersion t').toNat := by
  obtain ⟨hok, hlist, -⟩ := run_history hhash publisher pauser inputs
  refine ⟨fun hash => ?_, hlist, ?_, fun m => ?_, fun more t t' hmore htime => ?_⟩
  · rw [← hok.live hash]
    cases ((run d publisher pauser inputs).proposals hash).state <;> simp [ProposalState.isOpen]
  · intro past x later hash versionId root activatedAt hsplit hmem
    obtain ⟨before, after, -, hpast, hbefore, s', hc⟩ := successes_split hsplit
    obtain ⟨b, i, o⟩ := x
    have h := run_history hhash publisher pauser before
    rw [run, history, hbefore, hpast] at h
    exact (call_ok hc).activation h.1 h.2.2 hmem
  · exact ⟨_, _, rfl, currentVersion_eq .., currentRoot_eq ..⟩
  · refine le_trans ?_ (currentVersion_mono (run_ok hhash publisher pauser _) htime)
    simp only [run, execute_append]
    exact execute_currentVersion_le hhash hok hmore

end

/-! ## A version -/

namespace Example

def deployment : Deployment where
  toHost := .sample 8453 1
  governor := 9
  orgDomain := 1

def proposal : DirectoryProposal :=
  let p : DirectoryProposal :=
    { versionId := 1, newRoot := 5, blobContentHash := 1, locationsHash := 1
      changeClass := .ordinary, workflowId := 1, proposerNonce := 1 }
  { p with workflowPayloadHash := deployment.directoryProposalWorkflowPayloadHash p }

def authorization : AdminActionAuthorization where
  orgDomain := 1
  contractAddress := 1
  chainId := 8453
  authorityRole := deployment.directoryPublisherRole
  functionSelector := deployment.proposeSelector
  payloadHash := deployment.hashWords (Deployment.proposalWords proposal)
  adminOperationId := 1
  adminNonce := 1
  adminEpoch := 1
  validAfter := 0
  validBefore := 600
  workflowId := 1

/-- The first version is proposed, approved and activated. -/
def inputs (approvedAt activatedAt : ℕ) : List Input :=
  [⟨⟨7, 100⟩, .proposeVersion proposal authorization [7]⟩,
    ⟨⟨9, approvedAt⟩, .approveVersion 1 (deployment.hashProposal proposal)⟩,
    ⟨⟨7, activatedAt⟩, .activateVersion⟩]

/-- The log of the activation. -/
def activated (activatedAt : UInt64) : List Log :=
  [.versionActivated (deployment.hashProposal proposal) 1 5 activatedAt]

set_option maxRecDepth 20000 in
lemma timely : (history deployment 7 8 (inputs 200 3800)).getLast?.map (·.log) =
    some (activated 3800) := by decide

set_option maxRecDepth 20000 in
lemma late : (history deployment 7 8 (inputs (2 ^ 64) (2 ^ 64))).getLast?.map (fun x =>
    (x.log, (x.before.proposals (deployment.hashProposal proposal)).proposal.changeClass,
      x.input.msg.timestamp)) = some (activated 0, .ordinary, 2 ^ 64) := by decide

end Example

open Example in
/-- An ordinary version is activated an hour after its approval. -/
theorem linear_delayed_history_activated :
    ∃ past x, history deployment 7 8 (inputs 200 3800) = past ++ [x] ∧
      Activation deployment past x (deployment.hashProposal proposal) 1 5 := by
  obtain ⟨x, hx, hlog⟩ := Option.map_eq_some_iff.mp timely
  obtain ⟨past, hsplit⟩ := getLast?_eq_some_iff.mp hx
  exact ⟨past, x, hsplit, (linear_delayed_history deployment (fun _ => sampleHash_ne_zero _) 7 8
    (inputs 200 3800)).2.2.1 past x [] _ 1 5 3800 hsplit (hlog ▸ mem_singleton_self _)⟩

open Example in
/-- An approval at time `2 ^ 64` has its activation time in the past: the version is
activated at once. -/
theorem late_approval_activates_at_once :
    ∃ past x, history deployment 7 8 (inputs (2 ^ 64) (2 ^ 64)) = past ++ [x] ∧
      .versionActivated (deployment.hashProposal proposal) 1 5 0 ∈ x.log ∧
      (x.before.proposals (deployment.hashProposal proposal)).proposal.changeClass = .ordinary ∧
      ∀ y ∈ past, ∀ m versionId hash, y.input = ⟨m, .approveVersion versionId hash⟩ →
        ¬m.timestamp + ordinaryDelay ≤ x.input.msg.timestamp := by
  obtain ⟨x, hx, hlast⟩ := Option.map_eq_some_iff.mp late
  obtain ⟨past, hsplit⟩ := getLast?_eq_some_iff.mp hx
  obtain ⟨hlog, hclass, htime⟩ : x.log = activated 0 ∧ _ ∧ _ := by simpa using hlast
  refine ⟨past, x, hsplit, hlog ▸ mem_singleton_self _, hclass, fun y hy m versionId hash hinput => ?_⟩
  have hmem : y.input ∈ inputs (2 ^ 64) (2 ^ 64) :=
    successes_sublist.subset (mem_map_of_mem (hsplit ▸ mem_append_left _ hy))
  rw [hinput] at hmem
  simp only [inputs, mem_cons, Input.mk.injEq, reduceCtorEq, and_false, not_mem_nil,
    or_false, false_or] at hmem
  rw [htime, hmem.1]
  decide

end FlowOps.ServiceDirectory

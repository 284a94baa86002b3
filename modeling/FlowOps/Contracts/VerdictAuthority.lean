import FlowOps.Common.Timelock
import FlowOps.Contracts.ASCPCallEscrow

/-!
# Who can settle a call by a verdict

A verifier key becomes active in two steps, `addVerifier` by the governor and, after
`VERIFIER_ACTIVATION_DELAY`, `activateVerifier` by anyone; `revokeVerifier` ends it for
good. `uint64(block.timestamp)` truncates, so that a key added at `2 ^ 64` or later could
be activated at once; no verdict is accepted at such a time.

Result: `verdict_authority`.
-/

namespace FlowOps.ASCPCallEscrow

open Evm Function Host List

variable {a : VerdictAttestation}

/-! ## What calls do to a key -/

/-- The transaction adds the key: the epoch and the time it can be activated from. -/
def addsVerifier (key : Address) (x : Taken) : Option (UInt64 × ℕ) :=
  match x.input with
  | .call m (.addVerifier k epoch _ _) =>
    if k = key then some (epoch, (uint64 m.timestamp).toNat + verifierActivationDelay) else none
  | _ => none

/-- The transaction activates the key: the time. -/
def activatesVerifier (key : Address) (x : Taken) : Option ℕ :=
  match x.input with
  | .call m (.activateVerifier k) => if k = key then some m.timestamp else none
  | _ => none

def revokesVerifier (key : Address) (x : Taken) : Bool :=
  match x.input with
  | .call _ (.revokeVerifier k _ _) => k = key
  | _ => false

/-- The attestation and signature of a verdict. -/
def Method.verdict : Method → Option (VerdictAttestation × List (BitVec 8))
  | .release _ a signature | .refundWithVerdict _ a signature => some (a, signature)
  | _ => none

def usesNonce (nonce : Bytes32) (x : Taken) : Bool :=
  match x.input with
  | .call _ method => (method.verdict.map fun p => p.1.verdictNonce) = some nonce
  | .asset _ => false

/-- The time of a transaction to the contract. -/
def Input.timestamp? : Input → Option ℕ
  | .call m _ => some m.timestamp
  | .asset _ => none

/-- The transactions of a list have non-decreasing times. -/
def Chronological (inputs : List Input) : Prop := (inputs.filterMap Input.timestamp?).Pairwise (· ≤ ·)

/-- The pending epoch of a key and the time it can be activated from. -/
def Verifiers.pending? (v : Verifiers) (key : Address) : Option (UInt64 × ℕ) :=
  if (v.pendingVerifier key).epoch = 0 then none
  else some ((v.pendingVerifier key).epoch, (v.pendingVerifier key).activatesAt.toNat)

/-- A pending epoch is above the active one, and a revoked key has none. -/
def Verifiers.OK (v : Verifiers) : Prop :=
  ∀ key, (v.pendingVerifier key).epoch ≠ 0 →
    (v.activeVerifierEpoch key).toNat < (v.pendingVerifier key).epoch.toNat ∧
      v.verifierRevoked key = false

/-- What a transaction can do to a key: add it, activate it, revoke it, or nothing. -/
inductive KeyChange (d : Deployment) (v : Verifiers) (key : Address) (x : Taken) :
    Verifiers → Prop
  | add {v' : Verifiers} {m : Msg} {epoch activatesAt : UInt64} {workflowId payloadHash : Bytes32}
      (hinput : x.input = .call m (.addVerifier key epoch workflowId payloadHash))
      (hsender : m.sender = d.governor) (hepoch : epoch ≠ 0)
      (habove : (v.activeVerifierEpoch key).toNat < epoch.toNat)
      (hat : activatesAt.toNat = (uint64 m.timestamp).toNat + verifierActivationDelay)
      (hpending : v'.pendingVerifier key = ⟨epoch, activatesAt⟩)
      (hactive : v'.activeVerifierEpoch key = v.activeVerifierEpoch key)
      (hbefore : v.verifierRevoked key = false) (hafter : v'.verifierRevoked key = false) :
      KeyChange d v key x v'
  | activate {v' : Verifiers} {m : Msg} (hinput : x.input = .call m (.activateVerifier key))
      (hepoch : (v.pendingVerifier key).epoch ≠ 0)
      (htime : (v.pendingVerifier key).activatesAt.toNat ≤ m.timestamp)
      (hpending : v'.pendingVerifier key = {})
      (hactive : v'.activeVerifierEpoch key = (v.pendingVerifier key).epoch)
      (hrevoked : v'.verifierRevoked key = v.verifierRevoked key) : KeyChange d v key x v'
  | revoke {v' : Verifiers} (hinput : revokesVerifier key x)
      (hpending : v'.pendingVerifier key = {})
      (hactive : (v.activeVerifierEpoch key).toNat ≤ (v'.activeVerifierEpoch key).toNat)
      (hbefore : v.verifierRevoked key = false) (hafter : v'.verifierRevoked key) :
      KeyChange d v key x v'
  | other {v' : Verifiers} (hadds : addsVerifier key x = none)
      (hactivates : activatesVerifier key x = none) (hrevokes : revokesVerifier key x = false)
      (hpending : v'.pendingVerifier key = v.pendingVerifier key)
      (hactive : v'.activeVerifierEpoch key = v.activeVerifierEpoch key)
      (hrevoked : v'.verifierRevoked key = v.verifierRevoked key) : KeyChange d v key x v'

variable {d : Deployment} {m : Msg} {key : Address} {x : Taken}

section

variable {s s' : Storage} {v v' : Verifiers} {i : Input} {o : List Log} {method : Method}

lemma AuthorityChange.keyChange (h : AuthorityChange d m v method v' o) (key : Address)
    (before : Storage) : KeyChange d v key ⟨before, .call m method, o⟩ v' := by
  cases h with
  | @add k epoch activatesAt workflowId payloadHash hsender hrevoked hepoch hactive hat =>
    by_cases hk : k = key
    · subst hk
      exact .add rfl hsender hepoch hactive (delayed_eq_some.mp hat).symm (by simp) rfl hrevoked
        hrevoked
    · exact .other (by simp [addsVerifier, hk]) rfl rfl (by simp [update_of_ne (Ne.symm hk)])
        rfl rfl
  | @activate k hepoch htime =>
    by_cases hk : k = key
    · subst hk
      exact .activate rfl hepoch htime (by simp) (by simp) rfl
    · exact .other rfl (by simp [activatesVerifier, hk]) rfl
        (by simp [update_of_ne (Ne.symm hk)]) (by simp [update_of_ne (Ne.symm hk)]) rfl
  | @revoke k workflowId payloadHash hsender hrevoked =>
    by_cases hk : k = key
    · subst hk
      refine .revoke (by simp [revokesVerifier]) (by simp) ?_ hrevoked (by simp)
      dsimp only
      split_ifs with hlt
      · simpa using hlt.le
      · exact le_rfl
    · refine .other rfl rfl (by simp [revokesVerifier, hk])
        (by simp [update_of_ne (Ne.symm hk)]) ?_ (by simp [update_of_ne (Ne.symm hk)])
      dsimp only
      split_ifs
      · rw [update_of_ne (Ne.symm hk)]
      · rfl
  | pause => exact .other rfl rfl rfl rfl rfl rfl

lemma Step.keyChange (h : Step d s i s' o) (key : Address) :
    KeyChange d s.toVerifiers key ⟨s, i, o⟩ s'.toVerifiers := by
  cases h with
  | asset | lock | ack => exact .other rfl rfl rfl rfl rfl rfl
  | settle h => cases h <;> exact .other rfl rfl rfl rfl rfl rfl
  | authority h => exact h.keyChange key s

lemma KeyChange.activeVerifierEpoch_le (h : KeyChange d v key x v') (hok : v.OK) :
    (v.activeVerifierEpoch key).toNat ≤ (v'.activeVerifierEpoch key).toNat := by
  cases h with
  | add _ _ _ _ _ _ hactive => rw [hactive]
  | activate _ hepoch _ _ hactive =>
    rw [hactive]
    exact (hok key hepoch).1.le
  | revoke _ _ hactive => exact hactive
  | other _ _ _ _ hactive => rw [hactive]

lemma Verifiers.OK.step (h : v.OK) (hs : ∀ key, ∃ x, KeyChange d v key x v') : v'.OK := by
  intro key hepoch
  obtain ⟨x, hx⟩ := hs key
  cases hx with
  | add _ _ _ habove _ hpending hactive _ hafter =>
    rw [hpending, hactive]
    exact ⟨habove, hafter⟩
  | activate _ _ _ hpending | revoke _ hpending =>
    rw [hpending] at hepoch
    exact absurd rfl hepoch
  | other _ _ _ hpending hactive hrevoked =>
    rw [hpending] at hepoch ⊢
    rw [hactive, hrevoked]
    exact h key hepoch

lemma verifiers_ok (s : Storage) (h : s.toVerifiers.OK) (more : List Input) :
    (execute (call d) s more).toVerifiers.OK :=
  execute_invariant (I := fun s : Storage => s.toVerifiers.OK)
    (fun _ _ _ _ h hc => h.step fun key => ⟨_, (call_ok hc).keyChange key⟩) h more

lemma init_verifiers_ok (balance : Address → ℕ) : (Storage.init balance).toVerifiers.OK :=
  fun _ h => absurd rfl h

lemma activeVerifierEpoch_mono (s : Storage) (h : s.toVerifiers.OK) (key : Address)
    (more : List Input) :
    (s.activeVerifierEpoch key).toNat ≤
      ((execute (call d) s more).activeVerifierEpoch key).toNat := by
  refine (execute_invariant (I := fun s' : Storage => s'.toVerifiers.OK ∧
    (s.activeVerifierEpoch key).toNat ≤ (s'.activeVerifierEpoch key).toNat)
    (fun s₁ i s₂ o h hc => ?_) ⟨h, le_rfl⟩ more).2
  have hkey := fun key => (call_ok hc).keyChange key
  exact ⟨h.1.step fun key => ⟨_, hkey key⟩, h.2.trans ((hkey key).activeVerifierEpoch_le h.1)⟩

lemma KeyChange.revoked (h : KeyChange d v key x v') (hv : v.verifierRevoked key) :
    v'.verifierRevoked key := by
  cases h with
  | add _ _ _ _ _ _ _ hbefore => rw [hbefore] at hv; cases hv
  | activate _ _ _ _ _ hrevoked => rw [hrevoked, hv]
  | revoke _ _ _ _ hafter => exact hafter
  | other _ _ _ _ _ hrevoked => rw [hrevoked, hv]

lemma revoked_forever (s : Storage) (key : Address) (h : s.verifierRevoked key)
    (more : List Input) : (execute (call d) s more).verifierRevoked key :=
  execute_invariant (I := fun s : Storage => s.verifierRevoked key)
    (fun _ _ _ _ h hc => ((call_ok hc).keyChange key).revoked h) h more

lemma revoked_iff (balance : Address → ℕ) (inputs : List Input) (key : Address) :
    (run d balance inputs).verifierRevoked key ↔
      ∃ x ∈ history d balance inputs, revokesVerifier key x := by
  refine history_rule (s := Storage.init balance)
    (H := fun past s => s.verifierRevoked key ↔ ∃ x ∈ past, revokesVerifier key x)
    (by simp [Storage.init]) (fun past s i s' o ih hc => ?_) inputs
  have hsnoc : (∃ x ∈ past ++ [⟨s, i, o⟩], revokesVerifier key x) ↔
      (∃ x ∈ past, revokesVerifier key x) ∨ revokesVerifier key ⟨s, i, o⟩ = true := by
    simp [or_and_right, exists_or]
  rw [hsnoc, ← ih]
  cases (call_ok hc).keyChange key with
  | @add m epoch activatesAt workflowId payloadHash hinput _ _ _ _ _ _ hbefore hafter =>
    obtain rfl : i = .call m (.addVerifier key epoch workflowId payloadHash) := hinput
    simp [hbefore, hafter, revokesVerifier]
  | @activate m hinput _ _ _ _ hrevoked =>
    obtain rfl : i = .call m (.activateVerifier key) := hinput
    simp [hrevoked, revokesVerifier]
  | revoke hinput _ _ _ hafter => simp [hinput, hafter]
  | other _ _ hrevokes _ _ hrevoked => simp [hrevokes, hrevoked]

lemma nonce_once (balance : Address → ℕ) (inputs : List Input) (nonce : Bytes32) :
    (history d balance inputs).countP (usesNonce nonce) ≤ 1 := by
  refine (countP_of_flag (usesNonce nonce) (fun s : Storage => s.usedVerdictNonces nonce) rfl
    (fun s i s' o hc => ?_) inputs).trans_le (Bool.toNat_le _)
  have hverdict : ∀ {callId a signature verdict signer m method},
      Verdict d s m callId a signature verdict signer → method.verdict = some (a, signature) →
      usesNonce nonce ⟨s, .call m method, o⟩ = true ∧ s.usedVerdictNonces nonce = false ∧
          (s.toVerifiers.useNonce a.verdictNonce).usedVerdictNonces nonce ∨
        usesNonce nonce ⟨s, .call m method, o⟩ = false ∧
          (s.toVerifiers.useNonce a.verdictNonce).usedVerdictNonces nonce =
            s.usedVerdictNonces nonce := by
    intro callId a signature verdict signer m method hv hmethod
    by_cases hn : a.verdictNonce = nonce
    · subst hn
      exact .inl ⟨by simp [usesNonce, hmethod], hv.nonce, by simp [Verifiers.useNonce]⟩
    · exact .inr ⟨by simp [usesNonce, hmethod, hn],
        by simp [Verifiers.useNonce, update_of_ne (Ne.symm hn)]⟩
  cases call_ok hc with
  | asset | lock | ack => exact .inr ⟨rfl, rfl⟩
  | settle h =>
    cases h with
    | release h | refund h => exact hverdict h rfl
    | claim => exact .inr ⟨rfl, rfl⟩
  | authority h => cases h <;> exact .inr ⟨rfl, rfl⟩

def SignedBy (d : Deployment) (key : Address) (method : Method) (a : VerdictAttestation) : Prop :=
  ∃ signature, method.verdict = some (a, signature) ∧
    d.recover (d.verdictAttestationDigest a) signature = some key

lemma exists_verdict (hc : call d s (.call m method) = .ok (s', o))
    (hsigned : SignedBy d key method a) :
    s.verifierRevoked key = false ∧ s.activeVerifierEpoch key = a.verifierEpoch ∧
      a.verifierEpoch ≠ 0 ∧ m.timestamp ≤ a.validUntil.toNat := by
  obtain ⟨signature, hmethod, hrecover⟩ := hsigned
  have key : ∀ {callId verdict signer}, Verdict d s m callId a signature verdict signer →
      s.verifierRevoked key = false ∧ s.activeVerifierEpoch key = a.verifierEpoch ∧
        a.verifierEpoch ≠ 0 ∧ m.timestamp ≤ a.validUntil.toNat := by
    intro callId verdict signer hv
    obtain rfl : signer = key := Option.some.inj (hv.recovered.symm.trans hrecover)
    refine ⟨hv.unrevoked, hv.active, hv.epoch, ?_⟩
    have hvalid := hv.valid
    simp only [VerdictAttestation.Invalid, not_or, not_lt] at hvalid
    omega
  cases call_ok hc with
  | lock | ack => cases hmethod
  | settle h =>
    cases h with
    | release h | refund h =>
      cases hmethod
      exact key h
    | claim => cases hmethod
  | authority h => cases h <;> cases hmethod

end

/-! ## Whole runs -/

section

variable {balance : Address → ℕ} {inputs : List Input} {past later : List Taken}

/-- The active epoch of a key that is not revoked was added and later activated. -/
lemma active_provenance (hlive : (run d balance inputs).verifierRevoked key = false)
    (hactive : (run d balance inputs).activeVerifierEpoch key ≠ 0) :
    Activated (addsVerifier key) (activatesVerifier key) (history d balance inputs)
      ((run d balance inputs).activeVerifierEpoch key) := by
  refine (timelock_rule (fun s : Storage => s.verifierRevoked key = false)
    (fun s => s.activeVerifierEpoch key) (fun s => s.toVerifiers.pending? key) rfl
    (fun s i s' o hc hlive' => ?_)
    (fun s i s' o hc hlive' => ?_) (fun s i s' o hc hlive' => ?_) inputs hlive).2.resolve_left hactive
  · by_contra hrevoked
    have hafter := ((call_ok hc).keyChange key).revoked (Bool.not_eq_false _ ▸ hrevoked)
    rw [hafter] at hlive'
    cases hlive'
  · cases (call_ok hc).keyChange key with
    | @add m epoch activatesAt workflowId payloadHash hinput _ hepoch _ hat hpending =>
      obtain rfl : i = .call m (.addVerifier key epoch workflowId payloadHash) := hinput
      simp [Verifiers.pending?, addsVerifier, hpending, hepoch, hat]
    | activate _ _ _ hpending => simp [Verifiers.pending?, hpending]
    | revoke _ _ _ _ hafter =>
      rw [hafter] at hlive'
      cases hlive'
    | other hadds _ _ hpending => exact .inl ⟨by simp [Verifiers.pending?, hpending], hadds⟩
  · cases (call_ok hc).keyChange key with
    | @add m epoch activatesAt workflowId payloadHash hinput _ _ _ _ _ hactive =>
      obtain rfl : i = .call m (.addVerifier key epoch workflowId payloadHash) := hinput
      exact .inl ⟨hactive, rfl⟩
    | @activate m hinput hepoch htime _ hactive =>
      obtain rfl : i = .call m (.activateVerifier key) := hinput
      refine .inr ⟨(s.pendingVerifier key).activatesAt.toNat, m.timestamp, ?_, ?_, htime⟩
      · rw [Verifiers.pending?, if_neg hepoch, hactive]
      · simp [activatesVerifier]
    | revoke _ _ _ _ hafter =>
      rw [hafter] at hlive'
      cases hlive'
    | other _ hactivates _ _ hactive => exact .inl ⟨hactive, hactivates⟩

lemma exists_of_addsVerifier {epoch : UInt64} {ready : ℕ}
    (h : addsVerifier key x = some (epoch, ready)) : ∃ m workflowId payloadHash,
      x.input = .call m (.addVerifier key epoch workflowId payloadHash) ∧
        ready = (uint64 m.timestamp).toNat + verifierActivationDelay := by
  unfold addsVerifier at h
  split at h
  · rename_i m k e workflowId payloadHash hinput
    split_ifs at h with hk
    obtain ⟨rfl, rfl⟩ : e = epoch ∧ _ = ready := by simpa using h
    exact ⟨m, workflowId, payloadHash, hk ▸ hinput, rfl⟩
  · cases h

lemma exists_of_activatesVerifier {now : ℕ} (h : activatesVerifier key x = some now) :
    ∃ m, x.input = .call m (.activateVerifier key) ∧ m.timestamp = now := by
  unfold activatesVerifier at h
  split at h
  · rename_i m k hinput
    split_ifs at h with hk
    exact ⟨m, hk ▸ hinput, by simpa using h⟩
  · cases h

lemma sender_of_addVerifier (hx : x ∈ history d balance inputs) {epoch : UInt64}
    {workflowId payloadHash : Bytes32}
    (hinput : x.input = .call m (.addVerifier key epoch workflowId payloadHash)) :
    m.sender = d.governor := by
  obtain ⟨past, later, hsplit⟩ := append_of_mem hx
  obtain ⟨-, -, -, -, -, s', hc⟩ := successes_split hsplit
  obtain ⟨s, i, o⟩ := x
  obtain rfl : i = .call m (.addVerifier key epoch workflowId payloadHash) := hinput
  simp only at hc
  cases call_ok hc with
  | settle h => cases h
  | authority h =>
    cases h with
    | add hsender => exact hsender

lemma Chronological.le (h : Chronological inputs) {y : Taken} {t u : ℕ}
    (hsplit : history d balance inputs = past ++ x :: later) (hy : y ∈ past)
    (ht : x.input.timestamp? = some t) (hu : y.input.timestamp? = some u) : u ≤ t := by
  have hsub : ((history d balance inputs).map (·.input)).Sublist inputs := successes_sublist
  have hpairwise := List.Pairwise.sublist (hsub.filterMap Input.timestamp?) h
  rw [hsplit, map_append, filterMap_append, map_cons, filterMap_cons_some ht] at hpairwise
  refine (pairwise_append.mp hpairwise).2.2 u ?_ t mem_cons_self
  exact mem_filterMap.mpr ⟨y.input, mem_map_of_mem hy, hu⟩

/-- A key was added by the governor with this epoch, and activated at least the delay
later; no other `addVerifier` of the key came between. -/
def AddedAndActivated (d : Deployment) (past : List Taken) (key : Address)
    (epoch : UInt64) : Prop :=
  ∃ before add between activate after mAdd mActivate workflowId payloadHash,
    past = before ++ add :: (between ++ activate :: after) ∧
      add.input = .call mAdd (.addVerifier key epoch workflowId payloadHash) ∧
      mAdd.sender = d.governor ∧ activate.input = .call mActivate (.activateVerifier key) ∧
      mAdd.timestamp + verifierActivationDelay ≤ mActivate.timestamp ∧
      ∀ y ∈ between, addsVerifier key y = none

lemma addedAndActivated {method : Method}
    (htime : Chronological inputs) (hsplit : history d balance inputs = past ++ x :: later)
    (hinput : x.input = .call m method) (hsigned : SignedBy d key method a) :
    AddedAndActivated d past key a.verifierEpoch := by
  obtain ⟨before, after, -, hpast, hbefore, s', hc⟩ := successes_split hsplit
  rw [hinput] at hc
  obtain ⟨hrevoked, hactive, hepoch, huntil⟩ := exists_verdict hc hsigned
  rw [← hbefore] at hrevoked hactive
  have hprovenance := active_provenance hrevoked (by rw [hactive]; exact hepoch)
  rw [history, hpast, hactive] at hprovenance
  obtain ⟨a₁, y, c, ready, now, rfl, ⟨a₂, z, b, rfl, hz, hb⟩, hy, hready, -⟩ := hprovenance
  obtain ⟨mAdd, workflowId, payloadHash, hadd, rfl⟩ := exists_of_addsVerifier hz
  obtain ⟨mActivate, hactivate, rfl⟩ := exists_of_activatesVerifier hy
  have hmem : z ∈ a₂ ++ z :: b ++ y :: c := by simp
  have hgovernor := sender_of_addVerifier (hsplit ▸ mem_append_left _ hmem) hadd
  -- The addition is not later than a verdict that is still valid, so its time is not truncated.
  have hle : mAdd.timestamp ≤ m.timestamp :=
    htime.le hsplit hmem (by rw [hinput]; rfl) (by rw [hadd]; rfl)
  have hlt : mAdd.timestamp < 2 ^ 64 := (hle.trans huntil).trans_lt a.validUntil.toNat_lt
  rw [toNat_uint64 hlt] at hready
  exact ⟨a₂, z, b, y, c, mAdd, mActivate, workflowId, payloadHash, by simp, hadd, hgovernor, hactivate,
    hready, hb⟩

end

/-- For every accepted verdict, its signer was added by the governor and activated after the
delay, was not revoked, and its nonce was not used before. The active epoch of a key
never decreases, a pending one is above it, and a revoked key signs no accepted verdict
any more. -/
theorem verdict_authority (d : Deployment) (balance : Address → ℕ) (inputs : List Input)
    (htime : Chronological inputs) :
    (∀ past x later m method a key, history d balance inputs = past ++ x :: later →
        x.input = .call m method → SignedBy d key method a →
        AddedAndActivated d past key a.verifierEpoch ∧ (∀ y ∈ past, revokesVerifier key y = false) ∧
          ∀ y ∈ past, usesNonce a.verdictNonce y = false) ∧
      (∀ key more, ((run d balance inputs).activeVerifierEpoch key).toNat ≤
        ((run d balance (inputs ++ more)).activeVerifierEpoch key).toNat) ∧
      (∀ key, ((run d balance inputs).pendingVerifier key).epoch ≠ 0 →
        ((run d balance inputs).activeVerifierEpoch key).toNat <
          ((run d balance inputs).pendingVerifier key).epoch.toNat) ∧
      ∀ key, (∃ y ∈ history d balance inputs, revokesVerifier key y) →
        ∀ more m method a, SignedBy d key method a →
          ∀ r, call d (run d balance (inputs ++ more)) (.call m method) ≠ .ok r := by
  have hok := verifiers_ok (d := d) _ (init_verifiers_ok balance) inputs
  refine ⟨?_, fun key more => ?_, fun key hepoch => (hok key hepoch).1, ?_⟩
  · intro past x later m method a key hsplit hinput hsigned
    refine ⟨addedAndActivated htime hsplit hinput hsigned, fun y hy => ?_, fun y hy => ?_⟩
    · obtain ⟨before, after, -, hpast, hbefore, s', hc⟩ := successes_split hsplit
      rw [hinput] at hc
      have hrevoked := (exists_verdict hc hsigned).1
      rw [← hbefore] at hrevoked
      rw [← hpast] at hy
      by_contra hy'
      have := (revoked_iff (d := d) balance before key).mpr ⟨y, hy, Bool.not_eq_false _ ▸ hy'⟩
      rw [show (run d balance before).verifierRevoked key = _ from hrevoked] at this
      cases this
    · -- The verdict itself is the one transaction that uses its nonce.
      have honce := nonce_once (d := d) balance inputs a.verdictNonce
      obtain ⟨signature, hmethod, -⟩ := hsigned
      have hx : usesNonce a.verdictNonce x := by simp [usesNonce, hinput, hmethod]
      rw [hsplit, countP_append, countP_cons, if_pos hx] at honce
      have hzero : past.countP (usesNonce a.verdictNonce) = 0 := by omega
      simpa using countP_eq_zero.mp hzero y hy
  · rw [run, run, execute_append]
    exact activeVerifierEpoch_mono _ hok key more
  · intro key hrevoked more m method a hsigned r hc
    have hflag := (revoked_iff (d := d) balance inputs key).mpr hrevoked
    have hlater := revoked_forever (d := d) _ key hflag more
    rw [run, execute_append] at hc
    obtain ⟨s', o⟩ := r
    rw [(exists_verdict hc hsigned).1] at hlater
    cases hlater

/-! ## A verdict -/

namespace Example

def deployment : Deployment where
  toHost := .sample 1 2
  usdc := 3
  safe := 4
  governor := 6

/-- A directory that confirms every leaf. -/
def directory : IServiceDirectory where
  currentVersion := 1
  verifySeller _ _ _ := true
  verifyResource _ _ _ := true
  pausedSeller _ := false
  quoteKeyRevoked _ := false

def commitment : ExecutionCommitment where
  orgDomain := 1
  operationId := 1
  rail := 1
  schemeVersion := 1
  protection := 1
  escrowContract := 2
  purchaseSpecHash := 1
  quoteHash := 1
  verificationSpecHash := 1
  declaredWorkTime := 60
  verificationBudgetSeconds := 60
  directoryVersion := 1
  sellerId := 1
  resourceId := 1
  payTo := 7
  ackAuthority := 8
  amount := 10
  chainId := 1
  asset := 3
  quoteExpiresAt := 90000
  acceptBy := 90000
  deliverBy := 91000
  settleBy := 92000

def commitmentHash : Bytes32 := 0xeff6cedaa899de468f6436cd48952a407327ec484c7dad9c7bbd5187b534157d

set_option maxRecDepth 8000 in
lemma digest_commitment : deployment.executionCommitmentDigest commitment = commitmentHash := by
  simp only [Deployment.executionCommitmentDigest, typedDataDigest, domainSeparator, eip712Domain,
    hashText]
  rw [textBytes_ofList, textBytes_ofList, textBytes_ofList, textBytes_ofList]
  decide

def attestation : VerdictAttestation where
  callId := deployment.callId commitmentHash
  commitmentHash
  escrowContract := 2
  verifierEpoch := 1
  verificationSpecHash := 1
  verifierSoftwareHash := 1
  deliveryHash := 1
  deliveredAt := 86500
  evidenceHash := 1
  verdict := 1
  verdictNonce := 1
  issuedAt := 86500
  validUntil := 86600

def verdict : Method := .release (deployment.callId commitmentHash) attestation [5]

def payloadHash : Bytes32 :=
  deployment.governancePayloadHash governanceDomain 1 deployment.addVerifierSelector
    (deployment.hashWords [5, 0, 0, 0, 0, 1])

/-- The governor adds a verifier, which is activated a day later. -/
def opening : List Input :=
  [.call ⟨6, 0, true, directory⟩ (.addVerifier 5 1 1 payloadHash),
    .call ⟨9, 86400, true, directory⟩ (.activateVerifier 5)]

def lock : Input :=
  .call ⟨4, 86400, true, directory⟩ (.lockCall commitment ⟨1, 7, 8, 0, 1, 1, 1⟩
    ⟨1, 1, 10, true, 1, 60, 60⟩ [] [])

/-- A call is locked, and the verifier releases it. -/
def inputs : List Input := opening ++ [lock, .call ⟨9, 86500, true, directory⟩ verdict]

/-- The state after `opening`. -/
abbrev opened : Storage := execute (call deployment) (Storage.init fun _ => 10) opening

set_option maxRecDepth 8000 in
lemma call_lock : call deployment opened lock =
    storeAndFund deployment opened ⟨4, 86400, true, directory⟩ commitment commitmentHash := by
  rw [lock, call, lockCall, digest_commitment]
  iterate 14 refine (if_neg (by decide)).trans ?_
  rfl

set_option maxRecDepth 8000 in
lemma accepted : (history deployment (fun _ => 10) inputs).length = 4 := by
  rw [history, inputs, successes_append, successes_cons, transact, call_lock]
  decide

lemma chronological : Chronological inputs := by
  show List.Pairwise (· ≤ ·) [0, 86400, 86400, 86500]
  decide

lemma history_inputs : (history deployment (fun _ => 10) inputs).map (·.input) =
    (opening ++ [lock]) ++ [.call ⟨9, 86500, true, directory⟩ verdict] :=
  successes_sublist.eq_of_length (by rw [length_map, accepted]; rfl)

end Example

open Example in
/-- The release is accepted, and its signer has been added and activated. -/
theorem verdict_authority_release : Chronological inputs ∧
    ∃ past x, history deployment (fun _ => 10) inputs = past ++ [x] ∧
      x.input = .call ⟨9, 86500, true, directory⟩ verdict ∧
      AddedAndActivated deployment past 5 1 := by
  obtain ⟨past, last, hsplit, -, hlast⟩ := map_eq_append_iff.mp history_inputs
  obtain ⟨x, rfl, hx⟩ := map_eq_singleton_iff.mp hlast
  have hsigned : SignedBy deployment 5 verdict attestation := ⟨[5], rfl, rfl⟩
  exact ⟨chronological, past, x, hsplit, hx,
    ((verdict_authority deployment (fun _ => 10) inputs chronological).1 past x [] _ verdict attestation 5
      hsplit hx hsigned).1⟩

end FlowOps.ASCPCallEscrow

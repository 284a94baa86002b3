import FlowOps.Signer.Executor

/-!
# Calls of `Execute` that come again

`Execute` compares the authorization of a call with the stored one by `!=`, which compares the
addresses of the escrow terms. A caller that decodes the same authorization again has its terms
at another address.

Results: `execute_resumes_iff`, and `decoded_again_conflicts`.
-/

namespace FlowOps.Signer

/-- A signed authorization by value. -/
def SignedOf.values (s : SignedAuthorization) : SignedOf Authorization :=
  ⟨s.authorization.value, s.keyID, s.signature⟩

lemma SignedOf.ext_values {s t : SignedAuthorization} (h : s.values = t.values)
    (hat : s.authorization.escrowAt = t.authorization.escrowAt) : s = t := by
  obtain ⟨⟨value, escrowAt, _⟩, keyID, signature⟩ := s
  obtain ⟨⟨value', escrowAt', _⟩, keyID', signature'⟩ := t
  simp only [values, SignedOf.mk.injEq] at h
  obtain ⟨rfl, rfl, rfl⟩ := h
  cases hat
  rfl

/-- With an attempt for its authorization in the journal, an idle executor resumes the attempt for
an equal authorization exactly if the rail is one of its own and the terms are at the same
address. It refuses an authorization that differs, and changes nothing; it does so as a
conflict exactly if the rail is one of its own. -/
theorem execute_resumes_iff {P : Primitives} {x : Executor} {s : State} {j : AttemptJournal}
    {signed : SignedAuthorization} {existing : Attempt} (hidle : s.process = some ⟨j, none⟩)
    (hstored : j.attempts.lookup signed.authorization.value.authorizationID = some existing) :
    (signed.values = existing.authorization.values → (s.act P x (.execute signed) =
          .ok ({ s with process := some ⟨j, some (.execute, .advance existing)⟩ }, .silent) ↔
        signed.authorization.value.rail ∈ [Rail.direct, .escrow] ∧
          signed.authorization.escrowAt = existing.authorization.authorization.escrowAt)) ∧
    (signed.values ≠ existing.authorization.values →
      ∃ err, s.act P x (.execute signed) = .ok (s, .returned (.execute none (some err))) ∧
        (err = .attemptConflict ↔ signed.authorization.value.rail ∈ [Rail.direct, .escrow])) := by
  obtain ⟨durable, process⟩ := s
  cases hidle
  simp only [State.act, Process.execute, hstored, List.mem_cons, List.not_mem_nil, or_false]
  by_cases hrail : signed.authorization.value.rail = .direct ∨ signed.authorization.value.rail = .escrow
  · rw [if_neg (by tauto)]
    constructor
    · intro hvalues
      by_cases hat : signed.authorization.escrowAt = existing.authorization.authorization.escrowAt
      · have heq := SignedOf.ext_values hvalues hat
        simp [← heq, hrail]
      · have hne : existing.authorization ≠ signed := fun heq => hat (heq ▸ rfl)
        simp [hne, hat]
    · intro hvalues
      have hne : existing.authorization ≠ signed := fun heq => hvalues (heq ▸ rfl)
      simp [hne, hrail]
  · rw [if_pos (by tauto)]
    exact ⟨fun _ => by simp [hrail], fun _ => ⟨.unsupportedRail, rfl, by simp [hrail]⟩⟩

namespace Example

/-- The authorization on either rail, decoded with its terms at an address. -/
def decoded (address : ℕ) (escrow : Option EscrowTerms) : SignedAuthorization :=
  { signed with authorization := decodeAuthorization address (authorization escrow) }

/-- A call of `Execute` that stores its attempt and then finds the chain unhealthy. -/
def stored (escrow : Option EscrowTerms) : State :=
  run primitives executor ([.start, .execute (decoded 0 escrow)] ++
    List.replicate 3 (.step stepEnv) ++
    [.step { stepEnv with check := ⟨Time.ofUnix 1001, .error "halted", .ok ()⟩ }])

/-- What `Execute` returns at once. -/
def reply (s : State) (signed : SignedAuthorization) : Option Reply :=
  match s.act primitives executor (.execute signed) with
  | .ok (_, .returned r) => some r
  | _ => none

end Example

open Example in
theorem execute_resumes_direct : ∃ j existing, (stored none).process = some ⟨j, none⟩ ∧
      (stored none).act primitives executor (.execute (decoded 1 none)) =
        .ok ({ stored none with process := some ⟨j, some (.execute, .advance existing)⟩ }, .silent) := by
  have h : (stored none).process.any (fun p => p.running.isNone &&
      (p.journal.attempts.lookup "authorization").any (·.authorization = decoded 1 none)) := by
    decide +kernel
  rw [Option.any_eq_true] at h
  obtain ⟨⟨j, running⟩, hp, h⟩ := h
  rw [Bool.and_eq_true, Option.isNone_iff_eq_none, Option.any_eq_true] at h
  obtain ⟨rfl, existing, hstored, hsame⟩ := h
  have hsame := of_decide_eq_true hsame
  refine ⟨j, existing, hp, ((execute_resumes_iff hp hstored).1 ?_).mpr ⟨by decide, ?_⟩⟩ <;> rw [hsame]

open Example in
/-- The authorization of an escrow payment that is decoded again is refused. -/
theorem decoded_again_conflicts :
    (decoded 1 (some terms)).values = (decoded 0 (some terms)).values ∧
      reply (stored (some terms)) (decoded 1 (some terms)) =
        some (.execute none (some .attemptConflict)) := by
  decide +kernel

end FlowOps.Signer

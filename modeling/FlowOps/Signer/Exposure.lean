import FlowOps.Signer.Broadcasts

/-!
# The exposure of the pilot

`Execute` compares the amount of a new authorization with the limits of the pilot before it
claims the nonce and asks the wallet; the attempt is appended several steps later. The lock
keeps the journal as it was in between, and a later state of an attempt has the amount of
the first. So the amounts in the file stay within the limits, also if an append fails and
leaves its event behind.

Result: `exposure_within_limits`.
-/

namespace FlowOps.Signer

open Option Dict

/-! ## Limits on a map of amounts -/

/-- The amounts are natural numbers within the limits, one by one and in sum. -/
structure Within {α : Type} (amount : α → ℤ) (l : Limits) (m : Dict String α) : Prop where
  nonneg : ∀ id a, m.lookup id = some a → 0 ≤ amount a
  perAction : ∀ id a, m.lookup id = some a → amount a ≤ l.maxPerAction
  outstanding : m.sum (fun _ a => amount a) ≤ l.maxOutstanding

section

variable {α β : Type} {amount : α → ℤ} {amount' : β → ℤ} {l : Limits} {m : Dict String α}
  {m' : Dict String β} {id : String} {a : α}

lemma Within.empty : Within amount l ∅ where
  nonneg _ _ h := by cases h
  perAction _ _ h := by cases h
  outstanding := by simp

lemma Within.congr (h : Within amount l m)
    (heq : ∀ id, (m.lookup id).map amount = (m'.lookup id).map amount') : Within amount' l m' := by
  have hlookup : ∀ id b, m'.lookup id = some b → ∃ a, m.lookup id = some a ∧ amount a = amount' b := by
    intro id b hb
    have hid := heq id
    rw [hb, map_some, map_eq_some_iff] at hid
    exact hid
  refine ⟨fun id b hb => ?_, fun id b hb => ?_, ?_⟩
  · obtain ⟨a, ha, hab⟩ := hlookup id b hb
    exact hab ▸ h.nonneg id a ha
  · obtain ⟨a, ha, hab⟩ := hlookup id b hb
    exact hab ▸ h.perAction id a ha
  · rw [← sum_eq_sum heq]
    exact h.outstanding

lemma Within.insert (h : Within amount l m) (hnonneg : 0 ≤ amount a) (hper : amount a ≤ l.maxPerAction)
    (hsum : Dict.sum (fun _ a => amount a) (m.insert id a) ≤ l.maxOutstanding) :
    Within amount l (m.insert id a) where
  nonneg id' b hb := by
    rcases lookup_insert_eq_some.mp hb with ⟨-, rfl⟩ | ⟨-, hb⟩
    · exact hnonneg
    · exact h.nonneg id' b hb
  perAction id' b hb := by
    rcases lookup_insert_eq_some.mp hb with ⟨-, rfl⟩ | ⟨-, hb⟩
    · exact hper
    · exact h.perAction id' b hb
  outstanding := hsum

lemma Within.insert_new (h : Within amount l m) (hid : m.lookup id = none) (hnonneg : 0 ≤ amount a)
    (hper : amount a ≤ l.maxPerAction) (hsum : m.sum (fun _ a => amount a) + amount a ≤ l.maxOutstanding) :
    Within amount l (m.insert id a) := by
  refine h.insert hnonneg hper ?_
  rw [sum_insert_of_lookup_none hid]
  omega

lemma Within.insert_same {b : α} (h : Within amount l m) (hid : m.lookup id = some b)
    (hamount : amount b = amount a) : Within amount l (m.insert id a) := by
  refine h.insert (hamount ▸ h.nonneg id b hid) (hamount ▸ h.perAction id b hid) ?_
  have hsum := sum_insert_of_lookup_some (f := fun _ a => amount a) (v := a) hid
  have hold := h.outstanding
  omega

end

/-! ## Runs -/

/-- The amount of an attempt, as `pilotOutstanding` reads it. -/
def AttemptOf.amount (a : Attempt) : ℤ := amountOf a.authorized.authorization.value.amountAtomic

def recordAmount (r : AttemptRecord) : ℤ := amountOf r.authorized.authorization.amountAtomic

/-- The authorization that a call of `Execute` has compared with the limits. -/
def Phase.signed? : Phase → Option SignedAuthorization
  | .authorize signed | .prepare signed _ | .persist signed _ _ => some signed
  | _ => none

structure Exposed (x : Executor) (s : State) : Prop where
  file : Within recordAmount x.pilotLimits (journaled s.durable)
  process : ∀ p, s.process = some p → Within AttemptOf.amount x.pilotLimits p.journal.attempts
  /-- The limits were read from the journal as it still is. -/
  admitted : ∀ j call phase signed, s.process = some ⟨j, some (call, phase)⟩ →
    phase.signed? = some signed → x.pilotLimits.check signed.authorization.value.amountAtomic
      j.pilotOutstanding = .ok ()

section

variable {P : Primitives} {x : Executor} {past : List (Success State Action Effect)} {s s' : State}
  {p : Process} {es : List AttemptEvent} {effect : Effect} {action : Action} {j j' : AttemptJournal}
  {attempt : Attempt} {e : AttemptEvent} {env : StepEnv} {canceled : Bool} {phase : Phase}
  {written : Option AttemptEvent}

lemma Phase.Passive.signed? (h : phase.Passive) : phase.signed? = none := by
  cases phase <;> first | rfl | exact h.elim

/-- An attempt that is admitted has a place within the limits, in the journal of the process
and in the file. -/
lemma admit_within {call : Call} (hinv : Inv P x past s) (hexposed : Exposed x s)
    (hs : s.process = some ⟨j, some (call, phase)⟩) (hwrites : phase.Writes env attempt)
    (hadmits : j.admits P canceled env.eventAt attempt = .ok e) :
    Within AttemptOf.amount x.pilotLimits (j.attempts.insert e.authorizationID attempt) ∧
      Within recordAmount x.pilotLimits (journaled (s.durable ++ [e])) := by
  obtain ⟨he, hvalidate, -, hfault, -, htransition, -⟩ := admit_ok hadmits
  have hwithin := hexposed.process _ hs
  have hreflects : Reflects j.attempts (journaled s.durable) := hinv.reflects _ hs hfault
  have hpayload : e.payload = attempt.record := by rw [he]; rfl
  have hid : e.authorizationID = attempt.authorized.authorization.value.authorizationID := by
    rw [he]; rfl
  have hmemory : Within AttemptOf.amount x.pilotLimits (j.attempts.insert e.authorizationID attempt) := by
    rcases validateTransition_ok.mp htransition with ⟨hnone, hstate⟩ | ⟨current, hcurrent, hidentity, -⟩
    · -- A new attempt comes from `Execute`, which has compared its amount with the limits.
      rcases hwrites with ⟨signed, authorized, prepared, rfl, rfl⟩ | hne
      · have hcheck := hexposed.admitted _ _ _ signed hs rfl
        obtain ⟨hnonneg, hper, hsum⟩ := Limits.check_amountOf (sum_nonneg hwithin.nonneg) hcheck
        have hamount : (newAttempt env signed authorized prepared).amount =
            amountOf signed.authorization.value.amountAtomic :=
          congrArg (fun h : HeldAuthorization => amountOf h.value.amountAtomic)
            (validate_ok hvalidate).1.symm
        rw [hid]
        exact hwithin.insert_new hnone (hamount ▸ hnonneg) (hamount ▸ hper) (hamount ▸ hsum)
      · exact absurd hstate hne
    · rw [hid]
      refine hwithin.insert_same hcurrent ?_
      rw [AttemptOf.amount, AttemptOf.amount, (sameAttemptIdentity_eq hidentity).2.1]
  refine ⟨hmemory, ?_⟩
  have hnext : Reflects (j.attempts.insert e.authorizationID attempt) (journaled (s.durable ++ [e])) := by
    rw [journaled_snoc, hpayload]
    exact hreflects.insert
  refine hmemory.congr fun id => ?_
  rw [← hnext id, map_map]
  rfl

lemma append_within {call : Call} {result : Except Err Attempt} (hinv : Inv P x past s)
    (hexposed : Exposed x s)
    (hs : s.process = some ⟨j, some (call, phase)⟩) (hwrites : phase.Writes env attempt)
    (happend : j.append P canceled env.eventAt attempt env.write = (result, j', written)) :
    Within AttemptOf.amount x.pilotLimits j'.attempts ∧
      Within recordAmount x.pilotLimits (journaled (s.durable ++ written.toList)) := by
  have hbefore := hexposed.process _ hs
  rcases append_cases happend with ⟨rfl, rfl, -⟩ | ⟨e, hadmits, hcases⟩
  · exact ⟨hbefore, by simpa using hexposed.file⟩
  · obtain ⟨hmemory, hfile⟩ := admit_within hinv hexposed hs hwrites hadmits
    rcases hcases with ⟨-, hattempts, rfl | rfl, -⟩ | ⟨hattempts, rfl, -⟩
    · exact ⟨hattempts ▸ hbefore, by simpa using hexposed.file⟩
    · exact ⟨hattempts ▸ hbefore, hfile⟩
    · exact ⟨hattempts ▸ hmemory, hfile⟩

lemma Exposed.stopped (hfile : Within recordAmount x.pilotLimits (journaled es)) : Exposed x ⟨es, none⟩ where
  file := hfile
  process p h := by cases h
  admitted j call phase signed h := by cases h

lemma Exposed.of_passive (hfile : Within recordAmount x.pilotLimits (journaled es))
    (hp : p.Passive) (hprocess : Within AttemptOf.amount x.pilotLimits p.journal.attempts) :
    Exposed x ⟨es, some p⟩ where
  file := hfile
  process q hq := by
    cases hq
    exact hprocess
  admitted j call phase signed hq hsigned := by
    cases hq
    rw [Phase.Passive.signed? hp] at hsigned
    cases hsigned

lemma Exposed.of_same {call call' : Call} {phase' : Phase} (h : Exposed x s)
    (hs : s.process = some ⟨j, some (call, phase)⟩)
    (hphase : phase'.signed? = none ∨ phase'.signed? = phase.signed?) :
    Exposed x ⟨s.durable, some ⟨j, some (call', phase')⟩⟩ where
  file := h.file
  process q hq := by
    cases hq
    exact h.process ⟨j, some (call, phase)⟩ hs
  admitted j₁ call₁ phase₁ signed hq hsigned := by
    cases hq
    rcases hphase with hnone | hsame
    · exact absurd (hnone.symm.trans hsigned) (by simp)
    · exact h.admitted j call phase signed hs (hsame ▸ hsigned)

lemma Exposed.stepped {call : Call} (h : Exposed x s)
    (hinv : Inv P x past s) (hs : s.process = some ⟨j, some (call, phase)⟩)
    (hstep : Stepped P x ⟨j, some (call, phase)⟩ env phase p effect written) :
    Exposed x ⟨s.durable ++ written.toList, some p⟩ := by
  cases hstep with
  | passive hjournal hp he =>
    rw [append_none]
    exact .of_passive h.file hp (by rw [hjournal]; exact h.process _ hs)
  | authorized | prepared =>
    rw [append_none]
    exact h.of_same hs (.inr rfl)
  | checked hcheck | broadcast =>
    rw [append_none]
    exact h.of_same hs (.inl rfl)
  | appended happend hwrites hp he =>
    obtain ⟨hmemory, hfile⟩ := append_within hinv h hs hwrites happend
    exact .of_passive hfile hp hmemory
  | entered happend =>
    obtain ⟨hmemory, hfile⟩ := append_within hinv h hs (.inr (by simp [AttemptOf.entered])) happend
    refine ⟨hfile, ?_, ?_⟩
    · rintro q ⟨⟩
      exact hmemory
    · rintro j₁ call₁ phase₁ signed ⟨⟩ hsigned
      cases hsigned

lemma Exposed.acted (h : Exposed x s) (hinv : Inv P x past s) (hact : Acted P x s action s' effect) :
    Exposed x s' := by
  cases hact with
  | started hopen =>
    refine .of_passive h.file trivial (h.file.congr fun id => ?_)
    rw [← openAttemptJournal_reflects hopen id, map_map]
    rfl
  | crashed => exact .stopped h.file
  | begun hs hjournal hp he => exact .of_passive h.file hp (by rw [hjournal]; exact h.process _ hs)
  | admitted hs hcheck =>
    refine ⟨h.file, ?_, ?_⟩
    · rintro q ⟨⟩
      exact h.process ⟨_, none⟩ hs
    · rintro j₁ call₁ phase₁ signed ⟨⟩ hsigned
      cases hsigned
      exact hcheck
  | stepped hs hstep => exact h.stepped hinv hs hstep

/-- In every state of every run, the amounts of the attempts in the file, and of those that
the process knows, are each at most the limit for an action and together at most the
limit for what is outstanding. -/
theorem exposure_within_limits (P : Primitives) (x : Executor) (actions : List Action) :
    Within recordAmount x.pilotLimits (journaled (run P x actions).durable) ∧
      ∀ p, (run P x actions).process = some p →
        Within AttemptOf.amount x.pilotLimits p.journal.attempts := by
  have h : Inv P x (history P x actions) (run P x actions) ∧ Exposed x (run P x actions) := by
    refine history_rule (H := fun past s => Inv P x past s ∧ Exposed x s)
      ⟨.stopped .nil fun _ => le_rfl, .stopped .empty⟩ ?_ actions
    rintro past s action s' effect ⟨hinv, hexposed⟩ hact
    exact ⟨hinv.acted (act_acted hact), hexposed.acted hinv (act_acted hact)⟩
  exact ⟨h.2.file, h.2.process⟩

end

open Example in
/-- The payment of 60 counts as soon as it is prepared. -/
theorem exposure_within_limits_payment : ∃ p, (run primitives executor (payment.take 5)).process = some p ∧
    p.journal.attempts.sum (fun _ a => a.amount) = 60 ∧
    Within AttemptOf.amount executor.pilotLimits p.journal.attempts := by
  have hprepared : (run primitives executor (payment.take 5)).process.map
      (fun p => p.journal.attempts.sum fun _ a => a.amount) = some 60 := by decide +kernel
  obtain ⟨p, hp, hsum⟩ := map_eq_some_iff.mp hprepared
  exact ⟨p, hp, hsum, (exposure_within_limits primitives executor (payment.take 5)).2 p hp⟩

end FlowOps.Signer

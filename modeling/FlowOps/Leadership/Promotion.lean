import FlowOps.Leadership.Fencing

/-!
# Promotion

`BeginPromotion` promises to wait for the effects that were admitted before it froze the epoch
(leadership.go:314). A call that fails in draining or waiting goes on without the wait as long as the
organization is DRAINING (leadership.go:322), so the retry that the comment speaks of, and a call whose
query for effects fails, write and return a run while effects are in flight. (A call whose context
ends does not: it cannot read the record either.) `MarkPromotionReady` does not look at effects either,
and the callback of one may then activate an instrument of the old epoch (`retry_skips_wait`).

Wherever the calls that skip the wait find nothing in flight, and only effects of dead hosts are
abandoned (`Step.careful`), a run means that its source epoch is drained, and drained it stays
(`drained_of_careful`).
-/

namespace FlowOps.Leadership

open Function AList Dict

/-! ## Drained epochs -/

/-- The epoch admits nothing: the organization drains it, or is past it. -/
def Tables.Shut (t : Tables) (org : String) (epoch : ℕ) : Prop :=
  ∃ record, t.epochs.lookup org = some record ∧
    (epoch < record.epoch ∨ record.epoch = epoch ∧ record.state = .draining)

/-- The epoch admits nothing and nothing of it is in flight. -/
structure Tables.Drained (t : Tables) (org : String) (epoch : ℕ) : Prop where
  shut : t.Shut org epoch
  idle : t.inFlight org epoch = false

section

variable {t t' : Tables} {step : Step} {org : String} {epoch : ℕ}

lemma Tables.Shut.of_drains (h : t.drains org epoch) : t.Shut org epoch := by
  obtain ⟨record, hrecord, hepoch, hstate⟩ := drains_iff.mp h
  exact ⟨record, hrecord, .inr ⟨hepoch, hstate⟩⟩

lemma Changes.shut (h : Changes t step t') (hshut : t.Shut org epoch) : t'.Shut org epoch := by
  obtain ⟨record, hrecord, hpast⟩ := hshut
  obtain ⟨next, hnext, hsucceeds⟩ := h.succeeds hrecord
  refine ⟨next, hnext, ?_⟩
  cases hsucceeds with
  | same => exact hpast
  | drained _ _ hactive hepoch =>
    obtain hlt | ⟨-, hdraining⟩ := hpast
    · exact .inl (by omega)
    · simp [hactive] at hdraining
  | advanced _ actor evidence now dbNow _ hepoch => exact .inl (by omega)

lemma Changes.drained_epoch (h : Changes t step t') (hdrained : t.Drained org epoch) :
    t'.Drained org epoch := by
  refine ⟨h.shut hdrained.shut, inFlight_eq_false.mpr fun id effect heffect horg hepoch hstate => ?_⟩
  obtain hold | ⟨-, record, hrecord, hrecordEpoch, hactive⟩ := h.inFlight_before heffect hstate
  · exact inFlight_eq_false.mp hdrained.idle id effect hold horg hepoch hstate
  · -- an admission finds the epoch ACTIVE
    obtain ⟨record', hrecord', hpast⟩ := hdrained.shut
    rw [horg] at hrecord
    cases hrecord.symm.trans hrecord'
    obtain hlt | ⟨-, hdraining⟩ := hpast
    · omega
    · simp [hactive] at hdraining

lemma Changes.stays_inFlight {id : String} {effect : Effect} (h : Changes t step t')
    (heffect : t.effects.lookup id = some effect) (hcomplete : ∀ now, step ≠ .complete id now)
    (habandon : ∀ org epoch actor evidence now, step ≠ .abandonEffect org epoch id actor evidence now) :
    t'.effects.lookup id = some effect := by
  cases h with
  | admitted id' new record now hnone =>
    have hne : id ≠ id' := by rintro rfl; simp [hnone] at heffect
    rw [lookup_insert_ne hne]
    exact heffect
  | completed id' old resolvedAt now =>
    have hne : id ≠ id' := by rintro rfl; exact hcomplete now rfl
    rw [lookup_insert_ne hne]
    exact heffect
  | abandoned id' old resolvedAt actor evidence now =>
    have hne : id ≠ id' := by rintro rfl; exact habandon _ _ _ _ _ rfl
    rw [lookup_insert_ne hne]
    exact heffect
  | _ => exact heffect

lemma Changes.opened_by {k : String × ℕ} {run : PromotionRun} (h : Changes t step t')
    (hnone : t.promotions.lookup k = none) (hrun : t'.promotions.lookup k = some run) :
    ∃ p runID now, step = .promotion p (.insert runID now) := by
  cases h with
  | opened p runID now => exact ⟨p, runID, now, rfl⟩
  | advanced org record next old actor evidence now dbNow _ _ _ _ _ _ hlookup =>
    have hne : k ≠ (org, record.epoch) := by rintro rfl; simp [hnone] at hlookup
    simp [lookup_insert_ne hne, hnone] at hrun
  | readied _ org epoch old evidence readyAt hlookup
  | closed _ org epoch old evidence completedAt hlookup =>
    have hne : k ≠ (org, epoch) := by rintro rfl; simp [hnone] at hlookup
    simp [lookup_insert_ne hne, hnone] at hrun
  | _ => simp [hnone] at hrun

end

/-! ## Careful runs -/

/-- A call of `BeginPromotion` that did not wait writes its run when nothing of the epoch is in flight,
and an effect is abandoned when its callback is over, "the old effect host has been proved dead"
(leadership.go:485). -/
def Step.careful (σ : System) : Step → Bool
  | .promotion p (.insert _ _) =>
    match σ.promoters p with
    | .inserting input false => !σ.tables.inFlight input.organizationID input.expected
    | _ => true
  | .abandonEffect _ _ effectID _ _ _ => (σ.callbacks.lookup effectID).all (·.stage = .returned)
  | _ => true

def careful : System → List Step → Bool
  | _, [] => true
  | σ, step :: steps => step.careful σ && careful (transact System.call σ step) steps

structure System.Orderly (σ : System) : Prop where
  fenced : σ.tables.Fenced
  callbacks : ∀ id cb, σ.callbacks.lookup id = some cb → cb.stage ≠ .returned →
    ∃ effect, σ.tables.effects.lookup id = some effect ∧ effect.organizationID = cb.organizationID ∧
      effect.epoch = cb.epoch ∧ effect.state = .inFlight
  waiting : ∀ p input, σ.promoters p = .waiting input →
    σ.tables.Shut input.organizationID input.expected
  waited : ∀ p input, σ.promoters p = .inserting input true →
    σ.tables.Drained input.organizationID input.expected
  runs : ∀ k run, σ.tables.promotions.lookup k = some run → σ.tables.Drained k.1 k.2

section

variable {σ σ' : System} {step : Step} {event : Option Event}

lemma System.Orderly.callbacks_step (hσ : σ.Orderly) (hcareful : step.careful σ)
    (h : Stepped σ step σ' event) (id : String) (cb : Callback)
    (hcb : σ'.callbacks.lookup id = some cb) (hstage : cb.stage ≠ .returned) :
    ∃ effect, σ'.tables.effects.lookup id = some effect ∧ effect.organizationID = cb.organizationID ∧
      effect.epoch = cb.epoch ∧ effect.state = .inFlight := by
  -- a callback that goes on keeps its row
  have hkeeps : ∀ old, σ.callbacks.lookup id = some old → old.stage ≠ .returned →
      (∀ now, step ≠ .complete id now) →
      ∃ effect, σ'.tables.effects.lookup id = some effect ∧ effect.organizationID = old.organizationID ∧
        effect.epoch = old.epoch ∧ effect.state = .inFlight := by
    intro old hold holdStage hcomplete
    obtain ⟨effect, heffect, hfit⟩ := hσ.callbacks id old hold holdStage
    refine ⟨effect, h.tables.stays_inFlight heffect hcomplete ?_, hfit⟩
    rintro org epoch actor evidence now rfl
    simp only [Step.careful, hold, Option.all_some, decide_eq_true_eq] at hcareful
    exact holdStage hcareful
  obtain ⟨t, callbacks, promoters⟩ := σ'
  have hruns : Runs σ t step callbacks event := h.callbacks
  cases hruns with
  | same _ _ _ _ hcomplete => exact hkeeps cb hcb hstage (hcomplete id)
  | admitted org epoch sink id' now hfence =>
    obtain ⟨rfl, rfl⟩ | ⟨-, hold⟩ := lookup_insert_eq_some.mp hcb
    · exact ((fenceSink_ok hfence).2 rfl).2
    · exact hkeeps cb hold hstage (by simp)
  | started id' old hlookup hadmitted =>
    obtain ⟨rfl, rfl⟩ | ⟨-, hold⟩ := lookup_insert_eq_some.mp hcb
    · exact hkeeps old hlookup (by simp [hadmitted]) (by simp)
    · exact hkeeps cb hold hstage (by simp)
  | activated => exact hkeeps cb hcb hstage (by simp)
  | returned id' old hlookup hrunning =>
    obtain ⟨rfl, rfl⟩ | ⟨-, hold⟩ := lookup_insert_eq_some.mp hcb
    · exact absurd rfl hstage
    · exact hkeeps cb hold hstage (by simp)
  | completed id' now =>
    have hne : id ≠ id' := by rintro rfl; simp at hcb
    rw [lookup_erase_ne hne] at hcb
    exact hkeeps cb hcb hstage (by simpa using fun h => absurd h.symm hne)
  | crashed id' =>
    have hne : id ≠ id' := by rintro rfl; simp at hcb
    rw [lookup_erase_ne hne] at hcb
    exact hkeeps cb hcb hstage (by simp)

lemma Turns.promoter {t : Tables} {promoters : ℕ → Promoter} (h : Turns σ t step promoters event)
    (p : ℕ) : promoters p = σ.promoters p ∨ (promoters p).unwaited ∨
      (∃ input, promoters p = .waiting input ∧ t.drains input.organizationID input.expected) ∨
      ∃ input, promoters p = .inserting input true ∧ σ.promoters p = .waiting input ∧
        σ.tables.inFlight input.organizationID input.expected = false := by
  have hmove : ∀ q next, p = q ∨ update σ.promoters q next p = σ.promoters p := fun q next =>
    (eq_or_ne p q).imp_right fun hq => update_of_ne hq ..
  cases h with
  | same => exact .inl rfl
  | turned q s next hnext =>
    obtain rfl | hsame := hmove q next
    · exact .inr (.inl (by rw [update_self]; exact hnext))
    · exact .inl hsame
  | drained q now input hdrains =>
    obtain rfl | hsame := hmove q (.waiting input)
    · exact .inr (.inr (.inl ⟨input, update_self .., hdrains⟩))
    · exact .inl hsame
  | waited q input hwaiting hidle =>
    obtain rfl | hsame := hmove q (.inserting input true)
    · exact .inr (.inr (.inr ⟨input, update_self .., hwaiting, hidle⟩))
    · exact .inl hsame
  | returned q =>
    obtain rfl | hsame := hmove q .idle
    · exact .inr (.inl (by rw [update_self]; rfl))
    · exact .inl hsame

lemma System.Orderly.waiting_step (hσ : σ.Orderly) (h : Stepped σ step σ' event) (p : ℕ)
    (input : PromotionInput) (hp : σ'.promoters p = .waiting input) :
    σ'.tables.Shut input.organizationID input.expected := by
  obtain hsame | hnext | ⟨input', hnext, hdrains⟩ | ⟨input', hnext, -⟩ := h.promoters.promoter p
  · exact h.tables.shut (hσ.waiting p input (hsame ▸ hp))
  · simp [hp, Promoter.unwaited] at hnext
  · cases hp.symm.trans hnext
    exact .of_drains hdrains
  · cases hp.symm.trans hnext

lemma System.Orderly.waited_step (hσ : σ.Orderly) (h : Stepped σ step σ' event) (p : ℕ)
    (input : PromotionInput) (hp : σ'.promoters p = .inserting input true) :
    σ'.tables.Drained input.organizationID input.expected := by
  obtain hsame | hnext | ⟨input', hnext, -⟩ | ⟨input', hnext, hwaiting, hidle⟩ := h.promoters.promoter p
  · exact h.tables.drained_epoch (hσ.waited p input (hsame ▸ hp))
  · simp [hp, Promoter.unwaited] at hnext
  · cases hp.symm.trans hnext
  · cases hp.symm.trans hnext
    exact h.tables.drained_epoch ⟨hσ.waiting p input hwaiting, hidle⟩

lemma System.Orderly.runs_step (hσ : σ.Orderly) (hcareful : step.careful σ)
    (h : Stepped σ step σ' event) (k : String × ℕ) (run : PromotionRun)
    (hrun : σ'.tables.promotions.lookup k = some run) : σ'.tables.Drained k.1 k.2 := by
  cases hold : σ.tables.promotions.lookup k with
  | some old => exact h.tables.drained_epoch (hσ.runs k old hold)
  | none =>
    refine h.tables.drained_epoch ?_
    obtain ⟨p, runID, now, rfl⟩ := h.tables.opened_by hold hrun
    obtain ⟨t, callbacks, promoters⟩ := σ'
    have hturns : Turns σ t _ promoters event := h.promoters
    cases hturns with
    | same _ _ _ hinsert => exact absurd rfl (hinsert p runID now)
    | turned _ _ _ _ hsame =>
      subst hsame
      simp [hold] at hrun
    | returned _ _ _ input waited run' hp hinsert =>
      obtain ⟨hdrains, -, ⟨rfl, -⟩ | ⟨-, -, -, -, rfl⟩⟩ := insertPromotion_eq_ok hinsert
      · simp [hold] at hrun
      · obtain ⟨rfl, -⟩ | ⟨-, hrun⟩ := lookup_insert_eq_some.mp hrun
        · cases waited with
          | true => exact hσ.waited p input hp
          | false =>
            refine ⟨.of_drains hdrains, ?_⟩
            simpa [Step.careful, hp] using hcareful
        · simp [hold] at hrun

lemma System.Orderly.step_of_careful (hσ : σ.Orderly) (hcareful : step.careful σ)
    (h : Stepped σ step σ' event) : σ'.Orderly :=
  ⟨hσ.fenced.changes h.tables, hσ.callbacks_step hcareful h, hσ.waiting_step h, hσ.waited_step h,
    hσ.runs_step hcareful h⟩

lemma System.Orderly.transact (hσ : σ.Orderly) (hcareful : step.careful σ) :
    (transact System.call σ step).Orderly := by
  rw [FlowOps.transact]
  cases hcall : σ.call step with
  | error e => exact hσ
  | ok r => exact hσ.step_of_careful hcareful (call_stepped hcall)

lemma initial_orderly : System.initial.Orderly := by
  refine ⟨initial_fenced, ?_, ?_, ?_, ?_⟩ <;> simp [System.initial]

lemma System.Orderly.execute (hσ : σ.Orderly) (steps : List Step) (hcareful : careful σ steps) :
    (execute System.call σ steps).Orderly := by
  induction steps generalizing σ with
  | nil => exact hσ
  | cons step steps ih =>
    rw [careful, Bool.and_eq_true] at hcareful
    exact ih (hσ.transact hcareful.1) hcareful.2

lemma careful_append {before later : List Step} : careful σ (before ++ later) ↔
      careful σ before ∧ careful (FlowOps.execute System.call σ before) later := by
  induction before generalizing σ with
  | nil => simp [careful]
  | cons step before ih =>
    rw [List.cons_append, careful, careful, Bool.and_eq_true, Bool.and_eq_true, ih, and_assoc]
    rfl

lemma System.Orderly.not_activated {org digest : String} {epoch : ℕ} (hσ : σ.Orderly)
    (hdrained : σ.tables.Drained org epoch)
    (h : Stepped σ step σ' event) : event ≠ some (.activated digest org epoch) := by
  rintro rfl
  obtain ⟨t, callbacks, promoters⟩ := σ'
  have hruns : Runs σ t step callbacks _ := h.callbacks
  cases hruns with
  | same _ _ _ hnot => exact hnot digest org epoch rfl
  | activated id _ cb hcb hrunning =>
    obtain ⟨effect, heffect, horg, hepoch, hstate⟩ := hσ.callbacks id cb hcb (by simp [hrunning])
    exact inFlight_eq_false.mp hdrained.idle id effect heffect horg hepoch hstate

lemma System.Orderly.none_activated {org : String} {epoch : ℕ} (hσ : σ.Orderly)
    (hdrained : σ.tables.Drained org epoch) (steps : List Step) (hcareful : careful σ steps) :
    ∀ x ∈ successes System.call σ steps, ∀ digest, x.log ≠ some (.activated digest org epoch) := by
  induction steps generalizing σ with
  | nil => simp [successes]
  | cons step steps ih =>
    rw [careful, Bool.and_eq_true] at hcareful
    cases hcall : σ.call step with
    | error e =>
      simp only [FlowOps.transact, hcall] at hcareful
      simpa only [successes, hcall] using ih hσ hdrained hcareful.2
    | ok r =>
      have hstepped := call_stepped hcall
      simp only [FlowOps.transact, hcall] at hcareful
      simp only [successes, hcall, List.forall_mem_cons]
      exact ⟨fun digest => hσ.not_activated hdrained hstepped,
        ih (hσ.step_of_careful hcareful.1 hstepped) (hstepped.tables.drained_epoch hdrained) hcareful.2⟩

end

/-! ## Readiness -/

/-- The last step is the one with which `BeginPromotion` returns a run. -/
def Returns (steps : List Step) (org : String) (source : ℕ) : Prop :=
  ∃ before step σ run, steps = before ++ [step] ∧
    (after before).call step = .ok (σ, some (.returned run)) ∧ run.organizationID = org ∧
    run.sourceEpoch = source

def Ready (steps : List Step) (org : String) (source : ℕ) : Prop :=
  ∃ run, (after steps).tables.promotions.lookup (org, source) = some run ∧ run.state = .ready

lemma Returns.row {steps : List Step} {org : String} {source : ℕ} (h : Returns steps org source) :
    ∃ run, (after steps).tables.promotions.lookup (org, source) = some run := by
  obtain ⟨before, step, σ, run, rfl, hcall, rfl, rfl⟩ := h
  have hafter : after (before ++ [step]) = σ := by
    rw [after, execute_snoc]
    exact transact_of_ok hcall
  have hfenced := after_fenced (before ++ [step])
  rw [hafter] at hfenced ⊢
  obtain ⟨t, callbacks, promoters⟩ := σ
  have hturns : Turns (after before) t step promoters _ := (call_stepped hcall).promoters
  cases hturns with
  | same _ _ hnot _ => exact absurd rfl (hnot run)
  | returned p runID now input waited _ hp hinsert =>
    obtain ⟨-, hlookup, -⟩ := insertPromotion_eq_ok hinsert
    obtain ⟨horg, hsource, -⟩ := hfenced.keyed _ run hlookup
    exact ⟨run, by rw [horg, hsource]; exact hlookup⟩

/-- Whenever `BeginPromotion` has returned a run of a careful run of the system, and whenever one is
READY, no effect of the source epoch is in flight and no instrument of it becomes LIVE later. -/
theorem drained_of_careful (before later : List Step)
    (hcareful : careful System.initial (before ++ later)) (org : String) (source : ℕ)
    (h : Returns before org source ∨ Ready before org source) :
    (∀ id effect, (after before).tables.effects.lookup id = some effect →
      effect.organizationID = org → effect.epoch = source → effect.state ≠ .inFlight) ∧
    ∀ x ∈ successes System.call (after before) later, ∀ digest,
      x.log ≠ some (.activated digest org source) := by
  obtain ⟨hbefore, hlater⟩ := careful_append.mp hcareful
  have horderly : (after before).Orderly := initial_orderly.execute before hbefore
  obtain ⟨run, hrun⟩ : ∃ run, (after before).tables.promotions.lookup (org, source) = some run := by
    obtain h | ⟨run, hrun, -⟩ := h
    · exact h.row
    · exact ⟨run, hrun⟩
  have hdrained := horderly.runs _ run hrun
  exact ⟨inFlight_eq_false.mp hdrained.idle, horderly.none_activated hdrained later hlater⟩

namespace Handover

def evidence : String := "0x1111111111111111111111111111111111111111111111111111111111111111"

def effectID : String := "0x2222222222222222222222222222222222222222222222222222222222222222"

def runID : String := "0x3333333333333333333333333333333333333333333333333333333333333333"

def bearer : String := "0x4444444444444444444444444444444444444444444444444444444444444444"

def clock (seconds : ℤ) : Time := ⟨seconds * 1000000000, 0⟩

def input : PromotionInput := ⟨"org-1", 1, "operator", evidence, 1000000000⟩

def running : List Step :=
  [.bootstrap "org-1" "operator" evidence (clock 1),
    .fenceSink "org-1" 1 .signerIssuance effectID (clock 1), .start effectID]

/-- It ends, and `BeginPromotion` waits for it. -/
def waiting : List Step :=
  running ++ [.activate effectID bearer, .finish effectID, .complete effectID (clock 1),
    .retire bearer, .promotion 0 (.begin input), .promotion 0 (.drain (clock 2)), .promotion 0 .poll]

/-- It runs on, and `BeginPromotion` is called again after its process ended in the wait. -/
def retrying : List Step :=
  running ++ [.promotion 0 (.begin input), .promotion 0 (.drain (clock 2)), .promotion 0 .abort,
    .promotion 0 (.begin input), .promotion 0 (.drain (clock 3)), .promotion 0 .recheck]

/-- `BeginPromotion` writes its run. -/
def insert : Step := .promotion 0 (.insert runID (clock 3))

def markReady : Step := .markPromotionReady "org-1" 1 evidence (clock 4)

end Handover

open Handover (markReady waiting retrying)

lemma Handover.returns {before : List Step} (run : PromotionRun)
    (h : ((after before).call Handover.insert).toOption.map Prod.snd = some (some (.returned run)))
    (horg : run.organizationID = "org-1") (hsource : run.sourceEpoch = 1) :
    Returns (before ++ [Handover.insert]) "org-1" 1 := by
  obtain ⟨σ, hσ⟩ := ok_of_log h
  exact ⟨before, Handover.insert, σ, run, rfl, hσ, horg, hsource⟩

def Handover.run : PromotionRun :=
  { runID := Handover.runID, organizationID := "org-1", sourceEpoch := 1, targetEpoch := 2, state := .draining
    finalityMargin := 1, drainEvidenceDigest := Handover.evidence, startedAt := Handover.clock 3 }

/-- A promotion that waited. -/
theorem waited_promotion_drained :
    careful System.initial (waiting ++ [Handover.insert] ++ [markReady]) ∧
    Returns (waiting ++ [Handover.insert]) "org-1" 1 ∧
    (∀ id effect, (after (waiting ++ [Handover.insert])).tables.effects.lookup id = some effect →
      effect.organizationID = "org-1" → effect.epoch = 1 → effect.state ≠ .inFlight) ∧
    ∀ x ∈ successes System.call (after (waiting ++ [Handover.insert])) [markReady],
      ∀ digest, x.log ≠ some (.activated digest "org-1" 1) := by
  have hcareful : careful System.initial (waiting ++ [Handover.insert] ++ [markReady]) := by
    decide
  have hreturns : Returns (waiting ++ [Handover.insert]) "org-1" 1 :=
    Handover.returns Handover.run (by decide) rfl rfl
  exact ⟨hcareful, hreturns, drained_of_careful _ _ hcareful "org-1" 1 (.inl hreturns)⟩

/-- The retry returns a run, and the run becomes READY, with an effect of the epoch in flight; its
callback then activates an instrument. -/
theorem retry_skips_wait : Returns (retrying ++ [Handover.insert]) "org-1" 1 ∧
    (after (retrying ++ [Handover.insert])).tables.inFlight "org-1" 1 ∧
    Ready (retrying ++ [Handover.insert, markReady]) "org-1" 1 ∧
    (after (retrying ++ [Handover.insert, markReady])).tables.inFlight "org-1" 1 ∧
    ∃ σ, (after (retrying ++ [Handover.insert, markReady])).call
      (.activate Handover.effectID Handover.bearer) = .ok (σ, some (.activated Handover.bearer "org-1" 1)) := by
  refine ⟨Handover.returns Handover.run (by decide) rfl rfl, by decide, ?_,
    by decide, ok_of_log (by decide)⟩
  have hready : ((after (retrying ++ [Handover.insert, markReady])).tables.promotions.lookup
      ("org-1", 1)).map (·.state) = some .ready := by
    decide
  exact Option.map_eq_some_iff.mp hready

end FlowOps.Leadership

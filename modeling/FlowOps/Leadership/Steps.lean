import FlowOps.Leadership.Processes

/-!
# What a step does

A step touches the tables, the calls of `FenceSink` and those of `BeginPromotion`. Each of the three
has its relation, and a step that succeeds is in all of them (`call_stepped`):
* `Changes`: one case per statement that writes a table, with what its transaction and the triggers
  have checked.
* `Runs`: the callbacks, and the events that are seen of them.
* `Turns`: the calls of `BeginPromotion`, as far as they have waited.
-/

namespace FlowOps.Leadership

open Function

variable {p : ℕ}

/-! ## Tables -/

inductive Changes (t : Tables) : Step → Tables → Prop where
  | same (step : Step) : Changes t step t
  | bootstrapped (step : Step) (org : String) (record : Record) :
      t.epochs.lookup org = none → record.epoch = 1 → record.state = .active →
      Changes t step { t with epochs := t.epochs.insert org record }
  | rejected (id : String) (row : Rejection) (record : Record) (now : Time) :
      t.rejections.lookup id = none → t.epochs.lookup row.organizationID = some record →
      row.observedEpoch = record.epoch → row.observedState = record.state →
      Changes t (.fenceSink row.organizationID row.presentedEpoch row.sink id now)
        { t with rejections := t.rejections.insert id row }
  | admitted (id : String) (effect : Effect) (record : Record) (now : Time) :
      t.effects.lookup id = none → effect.state = .inFlight →
      t.epochs.lookup effect.organizationID = some record → record.epoch = effect.epoch →
      record.state = .active →
      Changes t (.fenceSink effect.organizationID effect.epoch effect.sink id now)
        { t with effects := t.effects.insert id effect }
  | completed (id : String) (effect : Effect) (resolvedAt : Option Time) (now : Time) :
      t.effects.lookup id = some effect →
      Changes t (.complete id now)
        { t with effects := t.effects.insert id { effect with state := .completed, resolvedAt } }
  | abandoned (id : String) (effect : Effect) (resolvedAt : Option Time)
      (actor evidence : String) (now : Time) :
      t.effects.lookup id = some effect →
      Changes t (.abandonEffect effect.organizationID effect.epoch id actor evidence now)
        { t with
          effects := t.effects.insert id
            { effect with
              state := .abandoned, resolvedAt
              resolutionActor := actor, resolutionEvidenceDigest := evidence } }
  | drained (step : Step) (org : String) (record next : Record) :
      t.epochs.lookup org = some record → record.state = .active → next.epoch = record.epoch →
      next.state = .draining → Changes t step { t with epochs := t.epochs.insert org next }
  | advanced (org : String) (record next : Record) (run : PromotionRun)
      (actor evidence : String) (now dbNow : Time) :
      t.epochs.lookup org = some record → record.state = .draining → next.epoch = record.epoch + 1 →
      next.state = .active → t.inFlight org record.epoch = false → t.liveBearer org = false →
      t.promotions.lookup (org, record.epoch) = some run →
      Changes t (.advance org record.epoch actor evidence now dbNow)
        { t with
          promotions := t.promotions.insert (org, record.epoch)
            { run with state := .cutover, cutoverAt := some next.updatedAt }
          epochs := t.epochs.insert org next }
  | opened (p : ℕ) (runID : String) (now : Time) (run : PromotionRun) :
      t.drains run.organizationID run.sourceEpoch →
      t.promotions.lookup (run.organizationID, run.sourceEpoch) = none → run.state = .draining →
      Changes t (.promotion p (.insert runID now))
        { t with promotions := t.promotions.insert (run.organizationID, run.sourceEpoch) run }
  | readied (step : Step) (org : String) (epoch : ℕ) (run : PromotionRun)
      (evidence : String) (readyAt : Option Time) :
      t.promotions.lookup (org, epoch) = some run →
      Changes t step
        { t with
          promotions := t.promotions.insert (org, epoch)
            { run with state := .ready, readyEvidenceDigest := evidence, readyAt } }
  | closed (step : Step) (org : String) (epoch : ℕ) (run : PromotionRun)
      (evidence : String) (completedAt : Option Time) :
      t.promotions.lookup (org, epoch) = some run →
      (∀ sink ∈ controlledSinks, t.rejects run sink) →
      Changes t step
        { t with
          promotions := t.promotions.insert (org, epoch)
            { run with state := .complete, completionEvidenceDigest := evidence, completedAt } }
  | bearers (step : Step) (bearers : Dict String Bearer) :
      Changes t step { t with bearers }
  | attested (step : Step) (attestations : List Attestation) :
      Changes t step { t with attestations }

section

variable {t t' : Tables} {step : Step} {org effectID actor evidence : String} {epoch : ℕ}
  {now : Time} {sink : Sink} {finalityMargin : ℕ} {runID : String} {run : PromotionRun}

lemma bootstrap_changes (h : t.bootstrap org actor evidence now = .ok t') : Changes t step t' := by
  rw [Tables.bootstrap, guard_ok] at h
  obtain ⟨-, h⟩ := h
  cases hrecord : t.epochs.lookup org with
  | none =>
    rw [hrecord, Except.ok.injEq] at h
    subst h
    exact .bootstrapped step org _ hrecord rfl rfl
  | some existing =>
    simp only [hrecord, guard_ok, Except.ok.injEq] at h
    obtain ⟨-, rfl⟩ := h
    exact .same step

lemma fenceSink_ok {admission : Admission}
    (h : t.fenceSink org epoch sink effectID now = .ok (t', admission)) :
    Changes t (.fenceSink org epoch sink effectID now) t' ∧ (admission = .admitted →
      (∃ record, t.epochs.lookup org = some record ∧ record.epoch = epoch ∧ record.state = .active) ∧
        ∃ effect, t'.effects.lookup effectID = some effect ∧ effect.organizationID = org ∧
          effect.epoch = epoch ∧ effect.state = .inFlight) := by
  rw [Tables.fenceSink, guard_ok] at h
  obtain ⟨-, h⟩ := h
  cases hrecord : t.epochs.lookup org with
  | none => simp [hrecord] at h
  | some record =>
    simp only [hrecord] at h
    split_ifs at h with hstale hsink hid
    · cases h
      exact ⟨.same _, nofun⟩
    · cases h
      exact ⟨.rejected effectID
        ⟨org, sink, epoch, record.epoch, record.state, Ascp.timestamptz (greatest now record.updatedAt)⟩
        record now (by simpa using hid) hrecord rfl rfl, nofun⟩
    · obtain ⟨t₁, hinsert, heq⟩ := map_eq_ok.mp h
      cases heq
      rw [Tables.insertEffect, guard_ok, Except.ok.injEq] at hinsert
      obtain ⟨hfree, rfl⟩ := hinsert
      simp only [not_or, ne_eq, not_not] at hfree hstale
      refine ⟨.admitted effectID
        { organizationID := org, epoch, sink, state := .inFlight, startedAt := Ascp.timestamptz now }
        record now (by simpa using hfree.1) rfl hrecord hstale.2 hstale.1, fun _ => ?_⟩
      exact ⟨⟨record, rfl, hstale.2, hstale.1⟩, _, AList.lookup_insert .., rfl, rfl, rfl⟩

lemma completeEffect_changes {resolvedAt : Time}
    (h : t.completeEffect effectID sink resolvedAt = .ok t') :
    Changes t (.complete effectID now) t' := by
  rw [Tables.completeEffect] at h
  cases heffect : t.effects.lookup effectID with
  | none => simp [heffect] at h
  | some effect =>
    simp only [heffect, guard_ok, Except.ok.injEq] at h
    obtain ⟨-, rfl⟩ := h
    exact .completed effectID effect _ now heffect

lemma abandonEffect_changes (h : t.abandonEffect org epoch effectID actor evidence now = .ok t') :
    Changes t (.abandonEffect org epoch effectID actor evidence now) t' := by
  rw [Tables.abandonEffect, guard_ok] at h
  obtain ⟨-, h⟩ := h
  cases hrecord : t.epochs.lookup org with
  | none => simp [hrecord] at h
  | some record =>
    simp only [hrecord, guard_ok] at h
    obtain ⟨-, -, h⟩ := h
    cases heffect : t.effects.lookup effectID with
    | none => simp [heffect] at h
    | some effect =>
      simp only [heffect, guard_ok, Except.ok.injEq, not_or, ne_eq, not_not] at h
      obtain ⟨⟨rfl, rfl, -⟩, rfl⟩ := h
      exact .abandoned effectID effect _ actor evidence now heffect

lemma transitionFrom_eq_ok {source : State} {updatedAt : Time}
    (h : t.transitionFrom org epoch source actor evidence now = .ok updatedAt) :
    ∃ record, t.epochs.lookup org = some record ∧ record.epoch = epoch ∧ record.state = source := by
  rw [Tables.transitionFrom, guard_ok] at h
  obtain ⟨-, h⟩ := h
  cases hrecord : t.epochs.lookup org with
  | none => simp [hrecord] at h
  | some record =>
    simp only [hrecord, guard_ok, ne_eq, not_not] at h
    exact ⟨record, rfl, h.1, h.2.1⟩

lemma beginDrain_changes (h : t.beginDrain org epoch actor evidence now = .ok t') :
    Changes t step t' := by
  obtain ⟨updatedAt, hfrom, rfl⟩ := map_eq_ok.mp h
  obtain ⟨record, hrecord, rfl, hactive⟩ := transitionFrom_eq_ok hfrom
  exact .drained step org record _ hrecord hactive rfl rfl

lemma beginDrain_drains (h : t.beginDrain org epoch actor evidence now = .ok t') :
    t'.drains org epoch := by
  obtain ⟨updatedAt, -, rfl⟩ := map_eq_ok.mp h
  simp [Tables.drains]

lemma advance_changes {dbNow : Time} (h : t.advance org epoch actor evidence now dbNow = .ok t') :
    Changes t (.advance org epoch actor evidence now dbNow) t' := by
  rw [Tables.advance, guard_ok] at h
  obtain ⟨updatedAt, hfrom, h⟩ := bind_eq_ok.mp h.2
  obtain ⟨record, hrecord, rfl, hdraining⟩ := transitionFrom_eq_ok hfrom
  obtain ⟨next, hvalid, rfl⟩ := map_eq_ok.mp h
  rw [Tables.validateAdvance, guard_ok] at hvalid
  obtain ⟨hidle, hvalid⟩ := hvalid
  cases hrun : t.promotions.lookup (org, record.epoch) with
  | none => simp [hrun] at hvalid
  | some run =>
    simp only [hrun, guard_ok, Except.ok.injEq] at hvalid
    obtain ⟨-, hlive, -, -, rfl⟩ := hvalid
    exact .advanced org record ⟨record.epoch + 1, .active, evidence, actor, updatedAt⟩ run actor
      evidence now dbNow hrecord hdraining rfl rfl (by simpa using hidle) (by simpa using hlive) hrun

lemma insertPromotion_eq_ok
    (h : t.insertPromotion org epoch evidence finalityMargin runID now = .ok (t', run)) :
    t.drains org epoch ∧ t'.promotions.lookup (org, epoch) = some run ∧
      ((t' = t ∧ t.promotions.lookup (org, epoch) = some run) ∨
        t.promotions.lookup (org, epoch) = none ∧ run.organizationID = org ∧
          run.sourceEpoch = epoch ∧ run.state = .draining ∧
          t' = { t with promotions := t.promotions.insert (org, epoch) run }) := by
  simp only [Tables.insertPromotion, guard_ok, Bool.not_eq_false] at h
  obtain ⟨hdrains, -, h⟩ := h
  refine ⟨hdrains, ?_⟩
  cases hrun : t.promotions.lookup (org, epoch) with
  | some existing =>
    simp only [hrun, guard_ok, ok_pair_eq] at h
    obtain ⟨-, rfl, rfl⟩ := h
    exact ⟨hrun, .inl ⟨rfl, rfl⟩⟩
  | none =>
    simp only [hrun, guard_ok, ok_pair_eq] at h
    obtain ⟨-, rfl, rfl⟩ := h
    exact ⟨AList.lookup_insert .., .inr ⟨rfl, rfl, rfl, rfl, rfl⟩⟩

lemma insertPromotion_changes
    (h : t.insertPromotion org epoch evidence finalityMargin runID now = .ok (t', run)) :
    Changes t (.promotion p (.insert runID now)) t' := by
  obtain ⟨hdrains, -, ⟨rfl, -⟩ | ⟨hnone, rfl, rfl, hstate, rfl⟩⟩ := insertPromotion_eq_ok h
  · exact .same _
  · exact .opened p runID now run hdrains hnone hstate

lemma markPromotionReady_changes
    (h : t.markPromotionReady org epoch evidence now = .ok (t', run)) : Changes t step t' := by
  simp only [Tables.markPromotionReady, guard_ok] at h
  obtain ⟨-, -, h⟩ := h
  cases hrun : t.promotions.lookup (org, epoch) with
  | none => simp [hrun] at h
  | some existing =>
    simp only [hrun] at h
    split_ifs at h
    · cases h
      exact .same step
    · cases h
      exact .readied step org epoch existing evidence _ hrun

lemma completePromotion_changes
    (h : t.completePromotion org epoch evidence now = .ok (t', run)) : Changes t step t' := by
  rw [Tables.completePromotion, guard_ok] at h
  obtain ⟨-, h⟩ := h
  cases hrun : t.promotions.lookup (org, epoch) with
  | none => simp [hrun] at h
  | some existing =>
    cases hcut : existing.cutoverAt with
    | none => simp [hrun, hcut] at h
    | some cutoverAt =>
      simp only [hrun, hcut, guard_ok, ok_pair_eq, ne_eq, not_not] at h
      obtain ⟨-, hsinks, rfl, -⟩ := h
      rw [← hcut]
      exact .closed step org epoch existing evidence _ hrun
        (List.filter_eq_self.mp (List.filter_sublist.eq_of_length hsinks))

end

/-! ## Processes -/

/-- What a step does to the callbacks, and the event of a callback; `t` are the tables after it. -/
inductive Runs (σ : System) (t : Tables) : Step → Dict String Callback → Option Event → Prop where
  | same (step : Step) (event : Option Event) : (∀ id org epoch, event ≠ some (.started id org epoch)) →
      (∀ digest org epoch, event ≠ some (.activated digest org epoch)) →
      (∀ id now, step ≠ .complete id now) → Runs σ t step σ.callbacks event
  | admitted (org : String) (epoch : ℕ) (sink : Sink) (id : String) (now : Time) :
      σ.tables.fenceSink org epoch sink id now = .ok (t, .admitted) →
      Runs σ t (.fenceSink org epoch sink id now) (σ.callbacks.insert id ⟨org, epoch, sink, .admitted⟩) none
  | started (id : String) (cb : Callback) : σ.callbacks.lookup id = some cb → cb.stage = .admitted →
      Runs σ t (.start id) (σ.callbacks.insert id { cb with stage := .running })
        (some (.started id cb.organizationID cb.epoch))
  | activated (id digest : String) (cb : Callback) : σ.callbacks.lookup id = some cb →
      cb.stage = .running → Runs σ t (.activate id digest) σ.callbacks
        (some (.activated digest cb.organizationID cb.epoch))
  | returned (id : String) (cb : Callback) : σ.callbacks.lookup id = some cb → cb.stage = .running →
      Runs σ t (.finish id) (σ.callbacks.insert id { cb with stage := .returned }) none
  | completed (id : String) (now : Time) : Runs σ t (.complete id now) (σ.callbacks.erase id) none
  | crashed (id : String) : Runs σ t (.crash id) (σ.callbacks.erase id) none

/-- Where a call of `BeginPromotion` stands that has not waited. -/
def Promoter.unwaited : Promoter → Bool
  | .waiting _ => false
  | .inserting _ waited => !waited
  | _ => true

/-- What a step does to the calls of `BeginPromotion`; `t` are the tables after it. -/
inductive Turns (σ : System) (t : Tables) : Step → (ℕ → Promoter) → Option Event → Prop where
  | same (step : Step) (event : Option Event) : (∀ run, event ≠ some (.returned run)) →
      (∀ p runID now, step ≠ .promotion p (.insert runID now)) → Turns σ t step σ.promoters event
  | turned (p : ℕ) (s : PromotionStep) (next : Promoter) : next.unwaited → t = σ.tables →
      Turns σ t (.promotion p s) (update σ.promoters p next) none
  | drained (p : ℕ) (now : Time) (input : PromotionInput) :
      t.drains input.organizationID input.expected →
      Turns σ t (.promotion p (.drain now)) (update σ.promoters p (.waiting input)) none
  | waited (p : ℕ) (input : PromotionInput) : σ.promoters p = .waiting input →
      σ.tables.inFlight input.organizationID input.expected = false →
      Turns σ t (.promotion p .poll) (update σ.promoters p (.inserting input true)) none
  | returned (p : ℕ) (runID : String) (now : Time) (input : PromotionInput) (waited : Bool)
      (run : PromotionRun) : σ.promoters p = .inserting input waited →
      σ.tables.insertPromotion input.organizationID input.expected input.evidence
        (input.finalityMargin / 1000000000).toNat runID now = .ok (t, run) →
      Turns σ t (.promotion p (.insert runID now)) (update σ.promoters p .idle)
        (some (.returned run))

structure Stepped (σ : System) (step : Step) (σ' : System) (event : Option Event) : Prop where
  tables : Changes σ.tables step σ'.tables
  callbacks : Runs σ σ'.tables step σ'.callbacks event
  promoters : Turns σ σ'.tables step σ'.promoters event

section

variable {σ σ' : System} {step : Step} {event : Option Event} {s : PromotionStep}

/-- A step that has no part in a call of `FenceSink` or `BeginPromotion`. -/
lemma stepped_of_changes {t : Tables} (hcomplete : ∀ id now, step ≠ .complete id now)
    (hinsert : ∀ p runID now, step ≠ .promotion p (.insert runID now))
    (h : Changes σ.tables step t) : Stepped σ step { σ with tables := t } none :=
  ⟨h, .same step none (by simp) (by simp) hcomplete, .same step none (by simp) hinsert⟩

lemma write_stepped {x : Except LeadershipErr Tables}
    (hcomplete : ∀ id now, step ≠ .complete id now)
    (hinsert : ∀ p runID now, step ≠ .promotion p (.insert runID now))
    (hx : ∀ t, x = .ok t → Changes σ.tables step t) (h : σ.write x = .ok (σ', event)) :
    Stepped σ step σ' event := by
  obtain ⟨t, ht, heq⟩ := map_eq_ok.mp h
  cases heq
  exact stepped_of_changes hcomplete hinsert (hx t ht)

lemma callback_eq_ok {id : String} {stage : Stage}
    {next : Callback → Except LeadershipErr (System × Option Event)}
    (h : σ.callback id stage next = .ok (σ', event)) :
    ∃ cb, σ.callbacks.lookup id = some cb ∧ cb.stage = stage ∧ next cb = .ok (σ', event) := by
  rw [System.callback] at h
  cases hcb : σ.callbacks.lookup id with
  | none => simp [hcb] at h
  | some cb =>
    simp only [hcb] at h
    split_ifs at h with hstage
    exact ⟨cb, rfl, hstage, h⟩

lemma promoter_stepped {next : Promoter} (h : next.unwaited) :
    Stepped σ (.promotion p s) (σ.promoter p next).1 none :=
  ⟨.same _, .same _ none (by simp) (by simp) (by simp), .turned p s next h rfl⟩

lemma promotion_stepped (h : σ.promotion p (σ.promoters p) s = .ok (σ', event)) :
    Stepped σ (.promotion p s) σ' event := by
  generalize hp : σ.promoters p = promoter at h
  unfold System.promotion at h
  split at h
  · rw [guard_ok] at h
    cases h.2
    exact promoter_stepped rfl
  · rename_i input now
    cases hdrain : σ.tables.beginDrain input.organizationID input.expected input.actor input.evidence now with
    | error e =>
      rw [hdrain] at h
      cases h
      exact promoter_stepped rfl
    | ok t =>
      rw [hdrain] at h
      cases h
      exact ⟨beginDrain_changes hdrain, .same _ none (by simp) (by simp) (by simp),
        .drained p now input (beginDrain_drains hdrain)⟩
  · rename_i input
    split_ifs at h with hflight
    · cases h
      exact stepped_of_changes (by simp) (by simp) (.same _)
    · cases h
      exact ⟨.same _, .same _ none (by simp) (by simp) (by simp), .waited p input hp (by simpa using hflight)⟩
  · cases h
    exact promoter_stepped rfl
  · cases h
    exact promoter_stepped rfl
  · split_ifs at h
    · cases h
      exact promoter_stepped rfl
    · cases h
      exact promoter_stepped rfl
  · rename_i input waited runID now
    cases hinsert : σ.tables.insertPromotion input.organizationID input.expected input.evidence
        (input.finalityMargin / 1000000000).toNat runID now with
    | error e =>
      rw [hinsert] at h
      cases h
      exact promoter_stepped rfl
    | ok r =>
      rw [hinsert] at h
      cases h
      exact ⟨insertPromotion_changes hinsert, .same _ _ (by simp) (by simp) (by simp),
        .returned p runID now input waited r.2 hp hinsert⟩
  · cases h
    exact promoter_stepped rfl
  · cases h

lemma call_stepped (h : σ.call step = .ok (σ', event)) : Stepped σ step σ' event := by
  cases step with
  | bootstrap org actor evidence now =>
    exact write_stepped (by simp) (by simp) (fun t ht => bootstrap_changes ht) h
  | fenceSink org epoch sink id now =>
    obtain ⟨⟨t, admission⟩, hfence, heq⟩ := map_eq_ok.mp h
    cases admission with
    | rejected =>
      cases heq
      exact stepped_of_changes (by simp) (by simp) (fenceSink_ok hfence).1
    | admitted =>
      cases heq
      exact ⟨(fenceSink_ok hfence).1, .admitted org epoch sink id now hfence, .same _ none (by simp) (by simp)⟩
  | start id =>
    obtain ⟨cb, hcb, hstage, heq⟩ := callback_eq_ok h
    cases heq
    exact ⟨.same _, .started id cb hcb hstage, .same _ _ (by simp) (by simp)⟩
  | activate id digest =>
    obtain ⟨cb, hcb, hstage, heq⟩ := callback_eq_ok h
    rw [guard_ok] at heq
    cases heq.2
    exact ⟨.bearers _ _, .activated id digest cb hcb hstage, .same _ _ (by simp) (by simp)⟩
  | finish id =>
    obtain ⟨cb, hcb, hstage, heq⟩ := callback_eq_ok h
    cases heq
    exact ⟨.same _, .returned id cb hcb hstage, .same _ none (by simp) (by simp)⟩
  | complete id now =>
    obtain ⟨cb, hcb, hstage, heq⟩ := callback_eq_ok h
    obtain ⟨t, ht, heq⟩ := map_eq_ok.mp heq
    cases heq
    exact ⟨completeEffect_changes ht, .completed id now, .same _ none (by simp) (by simp)⟩
  | crash id =>
    cases h
    exact ⟨.same _, .crashed id, .same _ none (by simp) (by simp)⟩
  | retire digest =>
    rw [System.call] at h
    cases hb : σ.tables.bearers.lookup digest with
    | none => simp [hb] at h
    | some b =>
      rw [hb] at h
      cases h
      exact stepped_of_changes (by simp) (by simp) (.bearers _ _)
  | attest attestation =>
    cases h
    exact stepped_of_changes (by simp) (by simp) (.attested _ _)
  | beginDrain org epoch actor evidence now =>
    exact write_stepped (by simp) (by simp) (fun t ht => beginDrain_changes ht) h
  | advance org epoch actor evidence now dbNow =>
    exact write_stepped (by simp) (by simp) (fun t ht => advance_changes ht) h
  | abandonEffect org epoch id actor evidence now =>
    exact write_stepped (by simp) (by simp) (fun t ht => abandonEffect_changes ht) h
  | markPromotionReady org epoch evidence now =>
    refine write_stepped (by simp) (by simp) (fun t ht => ?_) h
    obtain ⟨r, hr, rfl⟩ := map_eq_ok.mp ht
    exact markPromotionReady_changes hr
  | completePromotion org epoch evidence now =>
    refine write_stepped (by simp) (by simp) (fun t ht => ?_) h
    obtain ⟨r, hr, rfl⟩ := map_eq_ok.mp ht
    exact completePromotion_changes hr
  | promotion p s =>
    exact promotion_stepped h

end

end FlowOps.Leadership

import FlowOps.Leadership.Steps

/-!
# Fencing

What leadership promises over every run: a callback begins only where it was admitted in the current,
ACTIVE epoch; whatever is in flight belongs to the current epoch; the epoch rises by one at a time, out
of a drained DRAINING; and a promotion is COMPLETE when every controlled sink has turned traffic of
the old epoch away after the cutover.

The tables say when a rejection was made only by the clock of the process that made it. That it came
after the cutover in the run follows from the epoch that it observed, which the organization reaches
with the cutover (`cutOver_of_epoch`).
-/

namespace FlowOps.Leadership

open List AList Dict

/-! ## Rows -/

variable {run : PromotionRun} {record : Record}

section

variable {t t' : Tables} {step : Step} {org id : String} {epoch : ℕ}

lemma inFlight_eq_false : t.inFlight org epoch = false ↔
    ∀ id effect, t.effects.lookup id = some effect → effect.organizationID = org →
      effect.epoch = epoch → effect.state ≠ .inFlight := by
  have hentry : t.inFlight org epoch ↔ ∃ id effect, t.effects.lookup id = some effect ∧
      effect.organizationID = org ∧ effect.epoch = epoch ∧ effect.state = .inFlight := by
    simp only [Tables.inFlight, any_eq_true, Bool.and_eq_true, decide_eq_true_eq, and_assoc]
    exact ⟨fun ⟨e, he, h⟩ => ⟨e.1, e.2, mem_lookup_iff.mpr he, h⟩,
      fun ⟨id, effect, he, h⟩ => ⟨⟨id, effect⟩, mem_lookup_iff.mp he, h⟩⟩
  rw [← Bool.not_eq_true, hentry]
  push Not
  rfl

lemma liveBearer_eq_false : t.liveBearer org = false ↔
    ∀ digest bearer, t.bearers.lookup digest = some bearer → bearer.organizationID = org →
      bearer.live = false := by
  simp only [Tables.liveBearer, any_eq_false, Bool.and_eq_true, decide_eq_true_eq, not_and,
    Bool.not_eq_true]
  exact ⟨fun h digest bearer hb => h ⟨digest, bearer⟩ (mem_lookup_iff.mp hb),
    fun h e he => h e.1 e.2 (mem_lookup_iff.mpr he)⟩

lemma drains_iff : t.drains org epoch ↔
    ∃ record, t.epochs.lookup org = some record ∧ record.epoch = epoch ∧ record.state = .draining := by
  simp [Tables.drains, Option.any_eq_true]

lemma rejects_iff {sink : Sink} : t.rejects run sink ↔
    ∃ id row, t.rejections.lookup id = some row ∧ row.organizationID = run.organizationID ∧
      row.sink = sink ∧ row.presentedEpoch = run.sourceEpoch ∧
      row.observedEpoch = run.sourceEpoch + 1 ∧ row.observedState = .active ∧
      ∃ cutoverAt, run.cutoverAt = some cutoverAt ∧ row.rejectedAt.before cutoverAt = false := by
  simp only [Tables.rejects, any_eq_true, Bool.and_eq_true, decide_eq_true_eq, and_assoc,
    Option.any_eq_true, Bool.not_eq_true']
  exact ⟨fun ⟨e, he, h⟩ => ⟨e.1, e.2, mem_lookup_iff.mpr he, h⟩,
    fun ⟨id, row, hrow, h⟩ => ⟨⟨id, row⟩, mem_lookup_iff.mp hrow, h⟩⟩

/-- What a step makes of the record of an organization. -/
inductive Succeeds (t : Tables) (org : String) (record : Record) : Step → Record → Prop where
  | same (step : Step) : Succeeds t org record step record
  | drained (step : Step) (next : Record) : record.state = .active → next.epoch = record.epoch →
      next.state = .draining → Succeeds t org record step next
  | advanced (next : Record) (actor evidence : String) (now dbNow : Time) : record.state = .draining →
      next.epoch = record.epoch + 1 → next.state = .active → t.inFlight org record.epoch = false →
      t.liveBearer org = false →
      Succeeds t org record (.advance org record.epoch actor evidence now dbNow) next

section

variable (h : Changes t step t')
include h

lemma Changes.succeeds (hrecord : t.epochs.lookup org = some record) :
    ∃ next, t'.epochs.lookup org = some next ∧ Succeeds t org record step next := by
  cases h with
  | bootstrapped _ org' first hnone =>
    have hne : org ≠ org' := by rintro rfl; simp [hnone] at hrecord
    exact ⟨record, by rw [lookup_insert_ne hne]; exact hrecord, .same _⟩
  | drained _ org' record' next hrecord' hactive hepoch hstate =>
    by_cases horg : org = org'
    · subst horg
      cases hrecord.symm.trans hrecord'
      exact ⟨next, lookup_insert .., .drained _ next hactive hepoch hstate⟩
    · exact ⟨record, by rw [lookup_insert_ne horg]; exact hrecord, .same _⟩
  | advanced org' record' next run actor evidence now dbNow hrecord' hstate hepoch hactive hidle hlive =>
    by_cases horg : org = org'
    · subst horg
      cases hrecord.symm.trans hrecord'
      exact ⟨next, lookup_insert .., .advanced next actor evidence now dbNow hstate hepoch hactive
        hidle hlive⟩
    · exact ⟨record, by rw [lookup_insert_ne horg]; exact hrecord, .same _⟩
  | _ => exact ⟨record, hrecord, .same _⟩

lemma Changes.first (hnone : t.epochs.lookup org = none)
    (hrecord : t'.epochs.lookup org = some record) : record.epoch = 1 := by
  cases h with
  | bootstrapped _ org' first _ hfirst _ =>
    rw [lookup_insert_eq_some] at hrecord
    obtain ⟨-, rfl⟩ | ⟨-, hold⟩ := hrecord
    · exact hfirst
    · simp [hnone] at hold
  | drained _ org' record' next hrecord'
  | advanced org' record' next run actor evidence now dbNow hrecord' =>
    have hne : org ≠ org' := by rintro rfl; simp [hnone] at hrecord'
    simp [lookup_insert_ne hne, hnone] at hrecord
  | _ => simp [hnone] at hrecord

/-- An effect that is in flight was in flight before, or is admitted by the step. -/
lemma Changes.inFlight_before {effect : Effect}
    (heffect : t'.effects.lookup id = some effect) (hstate : effect.state = .inFlight) :
    t.effects.lookup id = some effect ∨ t'.epochs = t.epochs ∧
      ∃ record, t.epochs.lookup effect.organizationID = some record ∧ record.epoch = effect.epoch ∧
        record.state = .active := by
  cases h with
  | admitted id' effect' record now _ _ hrecord hepoch hactive =>
    rw [lookup_insert_eq_some] at heffect
    obtain ⟨-, rfl⟩ | ⟨-, hold⟩ := heffect
    · exact .inr ⟨rfl, record, hrecord, hepoch, hactive⟩
    · exact .inl hold
  | completed id' effect' resolvedAt now | abandoned id' effect' resolvedAt actor evidence now =>
    rw [lookup_insert_eq_some] at heffect
    obtain ⟨-, rfl⟩ | ⟨-, hold⟩ := heffect
    · cases hstate
    · exact .inl hold
  | _ => exact .inl heffect

lemma Changes.rejection {row : Rejection}
    (hrow : t.rejections.lookup id = some row) : t'.rejections.lookup id = some row := by
  cases h with
  | rejected id' row' record now hnone =>
    have hne : id ≠ id' := by rintro rfl; simp [hnone] at hrow
    rw [lookup_insert_ne hne]
    exact hrow
  | _ => exact hrow

lemma Changes.new_rejection {row : Rejection}
    (hbefore : t.rejections.lookup id ≠ some row) (hrow : t'.rejections.lookup id = some row) :
    t.rejections.lookup id = none ∧
      (∃ now, step = .fenceSink row.organizationID row.presentedEpoch row.sink id now) ∧
      ∃ record, t.epochs.lookup row.organizationID = some record ∧ row.observedEpoch = record.epoch := by
  cases h with
  | rejected id' row' record now hnone hrecord hepoch hstate =>
    rw [lookup_insert_eq_some] at hrow
    obtain ⟨rfl, rfl⟩ | ⟨-, hold⟩ := hrow
    · exact ⟨hnone, ⟨now, rfl⟩, record, hrecord, hepoch⟩
    · exact absurd hold hbefore
  | _ => exact absurd hrow hbefore

lemma Changes.rejects {sink : Sink} (hrejects : t.rejects run sink) : t'.rejects run sink := by
  rw [rejects_iff] at hrejects ⊢
  obtain ⟨id, row, hrow, hfit⟩ := hrejects
  exact ⟨id, row, h.rejection hrow, hfit⟩

end

end

/-! ## Tables -/

structure Tables.Fenced (t : Tables) : Prop where
  positive : ∀ org record, t.epochs.lookup org = some record → 0 < record.epoch
  current : ∀ id effect, t.effects.lookup id = some effect → effect.state = .inFlight →
    ∃ record, t.epochs.lookup effect.organizationID = some record ∧ record.epoch = effect.epoch
  keyed : ∀ k run, t.promotions.lookup k = some run →
    run.organizationID = k.1 ∧ run.sourceEpoch = k.2 ∧ 0 < k.2
  complete : ∀ k run, t.promotions.lookup k = some run → run.state = .complete →
    ∀ sink ∈ controlledSinks, t.rejects run sink

section

variable {t t' : Tables} {step : Step}

lemma Tables.Fenced.positive_step (ht : t.Fenced) (h : Changes t step t') (org : String)
    (record : Record) (hrecord : t'.epochs.lookup org = some record) : 0 < record.epoch := by
  cases hbefore : t.epochs.lookup org with
  | none => simp [h.first hbefore hrecord]
  | some old =>
    obtain ⟨next, hnext, hsucceeds⟩ := h.succeeds hbefore
    cases hrecord.symm.trans hnext
    have := ht.positive org old hbefore
    cases hsucceeds with
    | same => exact this
    | drained _ _ _ hepoch => omega
    | advanced _ actor evidence now dbNow _ hepoch => omega

lemma Tables.Fenced.current_step (ht : t.Fenced) (h : Changes t step t') (id : String)
    (effect : Effect) (heffect : t'.effects.lookup id = some effect) (hstate : effect.state = .inFlight) :
    ∃ record, t'.epochs.lookup effect.organizationID = some record ∧ record.epoch = effect.epoch := by
  obtain hold | ⟨hepochs, record, hrecord, hepoch, -⟩ := h.inFlight_before heffect hstate
  · obtain ⟨record, hrecord, hepoch⟩ := ht.current id effect hold hstate
    obtain ⟨next, hnext, hsucceeds⟩ := h.succeeds hrecord
    refine ⟨next, hnext, ?_⟩
    cases hsucceeds with
    | same => exact hepoch
    | drained _ _ _ hnextEpoch => exact hnextEpoch.trans hepoch
    | advanced _ actor evidence now dbNow _ _ _ hidle =>
      -- the epoch does not advance over an effect that is in flight
      exact absurd hstate (inFlight_eq_false.mp hidle id effect hold rfl hepoch.symm)
  · exact ⟨record, by rw [hepochs]; exact hrecord, hepoch⟩

lemma Tables.Fenced.promotions_step (ht : t.Fenced) (h : Changes t step t') (k : String × ℕ)
    (run : PromotionRun) (hrun : t'.promotions.lookup k = some run) :
    (run.organizationID = k.1 ∧ run.sourceEpoch = k.2 ∧ 0 < k.2) ∧
      (run.state = .complete → ∀ sink ∈ controlledSinks, t'.rejects run sink) := by
  have hold : t.promotions.lookup k = some run → (run.organizationID = k.1 ∧ run.sourceEpoch = k.2 ∧ 0 < k.2) ∧
      (run.state = .complete → ∀ sink ∈ controlledSinks, t'.rejects run sink) := fun hrun =>
    ⟨ht.keyed k run hrun, fun hstate sink hsink => h.rejects (ht.complete k run hrun hstate sink hsink)⟩
  cases h with
  | advanced org record next old actor evidence now dbNow _ _ _ _ _ _ hlookup
  | readied _ org epoch old evidence readyAt hlookup =>
    rw [lookup_insert_eq_some] at hrun
    obtain ⟨rfl, rfl⟩ | ⟨-, hrun⟩ := hrun
    · exact ⟨ht.keyed _ old hlookup, nofun⟩
    · exact hold hrun
  | opened p runID now new hdrains _ hstate =>
    rw [lookup_insert_eq_some] at hrun
    obtain ⟨rfl, rfl⟩ | ⟨-, hrun⟩ := hrun
    · obtain ⟨record, hrecord, hepoch, -⟩ := drains_iff.mp hdrains
      exact ⟨⟨rfl, rfl, hepoch ▸ ht.positive _ record hrecord⟩, by simp [hstate]⟩
    · exact hold hrun
  | closed _ org epoch old evidence completedAt hlookup hrejects =>
    rw [lookup_insert_eq_some] at hrun
    obtain ⟨rfl, rfl⟩ | ⟨-, hrun⟩ := hrun
    · exact ⟨ht.keyed _ old hlookup, fun _ => hrejects⟩
    · exact hold hrun
  | _ => exact hold hrun

lemma Tables.Fenced.changes (ht : t.Fenced) (h : Changes t step t') : t'.Fenced :=
  ⟨ht.positive_step h, ht.current_step h, fun k run hrun => (ht.promotions_step h k run hrun).1,
    fun k run hrun => (ht.promotions_step h k run hrun).2⟩

end

/-! ## Runs -/

def after (steps : List Step) : System := execute System.call System.initial steps

def System.AtEpoch (σ : System) (org : String) (epoch : ℕ) : Prop :=
  ∃ record, σ.tables.epochs.lookup org = some record ∧ record.epoch = epoch

/-- The steps hold a call of `FenceSink` that was admitted as the effect, while the organization was
ACTIVE at the epoch. -/
def Admitted (steps : List Step) (id org : String) (epoch : ℕ) : Prop :=
  ∃ before sink now t, before ++ [.fenceSink org epoch sink id now] <+: steps ∧
    (after before).tables.fenceSink org epoch sink id now = .ok (t, .admitted) ∧
    ∃ record, (after before).tables.epochs.lookup org = some record ∧ record.epoch = epoch ∧
      record.state = .active

/-- The steps hold the cutover from the epoch to the next. -/
def CutOver (steps : List Step) (org : String) (source : ℕ) : Prop :=
  ∃ before actor evidence now dbNow, before ++ [.advance org source actor evidence now dbNow] <+: steps ∧
    (after before).AtEpoch org source ∧
    (after (before ++ [.advance org source actor evidence now dbNow])).AtEpoch org (source + 1)

/-- The steps hold, after the cutover, a call of `FenceSink` for the sink at the source epoch that
recorded its rejection, at a time not before `cutoverAt`. -/
def RejectedAfterCutover (steps : List Step) (org : String) (source : ℕ) (sink : Sink)
    (cutoverAt : Time) : Prop :=
  ∃ before id now row, before ++ [.fenceSink org source sink id now] <+: steps ∧
    CutOver before org source ∧ (after before).tables.rejections.lookup id = none ∧
    (after (before ++ [.fenceSink org source sink id now])).tables.rejections.lookup id = some row ∧
    row.rejectedAt.before cutoverAt = false

section

variable {steps : List Step} {org : String} {source : ℕ}

lemma initial_fenced : System.initial.tables.Fenced := by
  constructor <;> simp [System.initial]

lemma after_fenced (steps : List Step) : (after steps).tables.Fenced :=
  execute_invariant (I := fun σ : System => σ.tables.Fenced)
    (fun _ _ _ _ hσ hcall => hσ.changes (call_stepped hcall).tables) initial_fenced steps

lemma callback_admitted (steps : List Step) {id : String} {cb : Callback}
    (h : (after steps).callbacks.lookup id = some cb) : Admitted steps id cb.organizationID cb.epoch := by
  induction steps using List.reverseRecOn generalizing cb with
  | nil => simp [after, System.initial] at h
  | append_singleton steps step ih =>
    have hbefore : ∀ cb, (after steps).callbacks.lookup id = some cb →
        Admitted (steps ++ [step]) id cb.organizationID cb.epoch := by
      intro cb hcb
      obtain ⟨before, sink, now, t, hfirst, hfence⟩ := ih hcb
      exact ⟨before, sink, now, t, hfirst.trans (prefix_append ..), hfence⟩
    obtain hsame | ⟨event, hcall⟩ := execute_snoc_cases System.call System.initial steps step
    · rw [after, hsame] at h
      exact hbefore cb h
    · have hruns := (call_stepped hcall).callbacks
      change Runs (after steps) (after (steps ++ [step])).tables step (after (steps ++ [step])).callbacks
        event at hruns
      generalize (after (steps ++ [step])).callbacks = callbacks at h hruns
      cases hruns with
      | same | activated => exact hbefore cb h
      | admitted org epoch sink id' now hfence =>
        rw [lookup_insert_eq_some] at h
        obtain ⟨rfl, rfl⟩ | ⟨-, hold⟩ := h
        · exact ⟨steps, sink, now, _, prefix_refl _, hfence, ((fenceSink_ok hfence).2 rfl).1⟩
        · exact hbefore cb hold
      | started id' old hlookup | returned id' old hlookup =>
        rw [lookup_insert_eq_some] at h
        obtain ⟨rfl, rfl⟩ | ⟨-, hold⟩ := h
        · exact hbefore old hlookup
        · exact hbefore cb hold
      | completed id' | crashed id' =>
        have hne : id ≠ id' := by rintro rfl; simp at h
        rw [lookup_erase_ne hne] at h
        exact hbefore cb h

lemma cutOver_of_epoch (steps : List Step) (hsource : 0 < source)
    (hrecord : (after steps).tables.epochs.lookup org = some record) (hlt : source < record.epoch) :
    CutOver steps org source := by
  obtain ⟨before, step, event, hfirst, hnot, hcall, next, hnext, hpast⟩ :=
    exists_change System.call System.initial
      (Q := fun σ : System => ∃ record, σ.tables.epochs.lookup org = some record ∧ source < record.epoch)
      (by simp [System.initial]) ⟨record, hrecord, hlt⟩
  have hchanges := (call_stepped hcall).tables
  cases hbefore : (after before).tables.epochs.lookup org with
  | none =>
    have := hchanges.first hbefore hnext
    omega
  | some old =>
    have hold : old.epoch ≤ source := not_lt.mp fun h => hnot ⟨old, hbefore, h⟩
    obtain ⟨next', hnext', hsucceeds⟩ := hchanges.succeeds hbefore
    cases hnext.symm.trans hnext'
    cases hsucceeds with
    | same => omega
    | drained _ _ _ hepoch => omega
    | advanced _ actor evidence now dbNow _ hepoch _ _ _ =>
      obtain rfl : old.epoch = source := by omega
      exact ⟨before, actor, evidence, now, dbNow, hfirst, ⟨old, hbefore, rfl⟩, next, hnext, hepoch⟩

lemma rejected_of_complete (steps : List Step)
    (hrun : (after steps).tables.promotions.lookup (org, source) = some run)
    (hstate : run.state = .complete) (sink : Sink) (hsink : sink ∈ controlledSinks) :
    ∃ cutoverAt, run.cutoverAt = some cutoverAt ∧ RejectedAfterCutover steps org source sink cutoverAt := by
  have hfenced := after_fenced steps
  obtain ⟨horg, hsource, hpos⟩ := hfenced.keyed _ run hrun
  obtain ⟨id, row, hrow, hrowOrg, hrowSink, hpresented, hobserved, -, cutoverAt, hcut, htime⟩ :=
    rejects_iff.mp (hfenced.complete _ run hrun hstate sink hsink)
  refine ⟨cutoverAt, hcut, ?_⟩
  -- the step that recorded the rejection, and the epoch it found
  obtain ⟨before, step, event, hfirst, hnot, hcall, hrecorded⟩ :=
    exists_change System.call System.initial
      (Q := fun σ : System => σ.tables.rejections.lookup id = some row) (by simp [System.initial]) hrow
  obtain ⟨hnone, ⟨now, hstep⟩, record, hrecord, hepoch⟩ :=
    (call_stepped hcall).tables.new_rejection hnot hrecorded
  rw [hrowOrg, horg] at hstep hrecord
  rw [hpresented, hsource, hrowSink] at hstep
  subst hstep
  exact ⟨before, id, now, row, hfirst, cutOver_of_epoch before hpos hrecord (by omega), hnone, hrecorded, htime⟩

end

/-- The promises of leadership at the end of a run. -/
structure Fenced (steps : List Step) : Prop where
  /-- A callback begins only if it was admitted while the organization was ACTIVE at its epoch. -/
  admitted : ∀ step σ id org epoch,
    (after steps).call step = .ok (σ, some (.started id org epoch)) → Admitted steps id org epoch
  /-- What is in flight carries the current epoch of its organization. -/
  current : ∀ id effect, (after steps).tables.effects.lookup id = some effect →
    effect.state = .inFlight → (after steps).AtEpoch effect.organizationID effect.epoch
  /-- Effects of two epochs are never in flight together. -/
  together : ∀ id id' effect effect', (after steps).tables.effects.lookup id = some effect →
    (after steps).tables.effects.lookup id' = some effect' → effect.state = .inFlight →
    effect'.state = .inFlight → effect.organizationID = effect'.organizationID →
    effect.epoch = effect'.epoch
  /-- The epoch stays or rises by one, from DRAINING, with nothing in flight and nothing LIVE. -/
  epochs : ∀ step org record, (after steps).tables.epochs.lookup org = some record →
    ∃ next, (after (steps ++ [step])).tables.epochs.lookup org = some next ∧
      (next.epoch = record.epoch ∨ next.epoch = record.epoch + 1 ∧ record.state = .draining ∧
        (∀ id effect, (after steps).tables.effects.lookup id = some effect →
          effect.organizationID = org → effect.state ≠ .inFlight) ∧
        ∀ digest bearer, (after steps).tables.bearers.lookup digest = some bearer →
          bearer.organizationID = org → bearer.live = false)
  /-- A COMPLETE promotion has a rejection of every controlled sink after its cutover. -/
  complete : ∀ org source run, (after steps).tables.promotions.lookup (org, source) = some run →
    run.state = .complete → ∀ sink ∈ controlledSinks, ∃ cutoverAt, run.cutoverAt = some cutoverAt ∧
      RejectedAfterCutover steps org source sink cutoverAt

theorem leadership_fenced (steps : List Step) : Fenced steps where
  admitted step σ id org epoch hcall := by
    have hruns := (call_stepped hcall).callbacks
    generalize σ.callbacks = callbacks at hruns
    cases hruns with
    | same _ _ hnot => exact absurd rfl (hnot id org epoch)
    | started id cb hcb => exact callback_admitted steps hcb
  current := (after_fenced steps).current
  together id id' effect effect' h h' hstate hstate' horg := by
    obtain ⟨record, hrecord, hepoch⟩ := (after_fenced steps).current id effect h hstate
    obtain ⟨record', hrecord', hepoch'⟩ := (after_fenced steps).current id' effect' h' hstate'
    rw [horg] at hrecord
    cases hrecord.symm.trans hrecord'
    exact hepoch.symm.trans hepoch'
  epochs step org record hrecord := by
    obtain hsame | ⟨event, hcall⟩ := execute_snoc_cases System.call System.initial steps step
    · exact ⟨record, by rw [after, hsame]; exact hrecord, .inl rfl⟩
    · obtain ⟨next, hnext, hsucceeds⟩ := (call_stepped hcall).tables.succeeds hrecord
      refine ⟨next, hnext, ?_⟩
      cases hsucceeds with
      | same => exact .inl rfl
      | drained _ _ _ hepoch => exact .inl hepoch
      | advanced _ actor evidence now dbNow hstate hepoch _ hidle hlive =>
        refine .inr ⟨hepoch, hstate, fun id effect heffect horg hflight => ?_,
          liveBearer_eq_false.mp hlive⟩
        -- an effect in flight would be of the epoch that the trigger found drained
        obtain ⟨record', hrecord', hepoch'⟩ := (after_fenced steps).current id effect heffect hflight
        rw [horg] at hrecord'
        cases hrecord.symm.trans hrecord'
        exact inFlight_eq_false.mp hidle id effect heffect horg hepoch'.symm hflight
  complete org source run hrun hstate := rejected_of_complete steps hrun hstate

end FlowOps.Leadership

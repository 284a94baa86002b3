import FlowOps.Keeper.Discipline

/-!
# Nonces that are never used

A nonce is given to a job before its transaction is signed and stays with it. A job that is
dead-lettered keeps it as well, so a nonce of which nothing was broadcast, or only what was
rejected, blocks every later transaction of its gas payer. What becomes of an attempt over a run
is read off the states that it was in (`Chronicle`): of the attempts of a job that is
dead-lettered, those that were broadcast and not rejected are the ones that were REORGED.

Results:
* `reachable_chronicle`: the states that an attempt was in.
* `no_nonce_gap_iff`, and `rejected_leaves_gap`, a run that leaves a gap.
-/

namespace FlowOps.Keeper

open List Option

variable {c : StoreCall} {x : AttemptState} {j j' : Job} {n : ℕ}

/-! ## Attempts over time -/

/-- The state of an attempt after a call. -/
inductive Follows : AttemptState → AttemptState → Prop where
  | same (x : AttemptState) : Follows x x
  | broadcast : Follows .prepared .broadcasting
  | answered (y : AttemptState) : (y = .submitted ∨ y = .ambiguous ∨ y = .rejected) →
      Follows .broadcasting y
  | observed (x y : AttemptState) : (x = .ambiguous ∨ x = .submitted ∨ x = .confirmed) →
      y ≠ .prepared → y ≠ .broadcasting → y ≠ .replaced → Follows x y
  | replaced (x : AttemptState) : (x = .rejected ∨ x = .reorged) → Follows x .replaced

lemma Moves.follows {j y : State} {a : AttemptState} (h : Moves c j a y x) : Follows a x := by
  cases h with
  | broadcasting _ ha =>
    obtain rfl | rfl := ha
    · exact .broadcast
    · exact .same _
  | finished y x _ ha hyx =>
    subst ha
    simp only [mem_cons, Prod.mk.injEq, not_mem_nil, or_false] at hyx
    exact .answered x (by tauto)
  | observed lease outcome now x _ ha hx =>
    cases hstate : outcome.state <;> rw [hstate, State.attemptState] at hx <;> cases hx <;>
      exact .observed _ _ ha (by decide) (by decide) (by decide)

lemma Evolves.follows {f f' : Attempts} (h : Evolves c j f j' f')
    (hj : Sound j f) {a' : Attempt} (ha' : f' n = some a') :
    (∃ a, f n = some a ∧ Follows a.state a'.state) ∨ f n = none ∧ a'.state = .prepared := by
  cases h with
  | leased | allocated | deadLettered => exact .inl ⟨a', ha', .same _⟩
  | prepared lease a now t _ _ hcount =>
    rcases update_eq_some.mp ha' with ⟨rfl, rfl⟩ | ⟨-, ha'⟩
    · exact .inr ⟨hj.none_above (by omega), rfl⟩
    · exact .inl ⟨a', ha', .same _⟩
  | replaced lease previous a old now t _ _ hcount hold hstate hnum =>
    rcases update_eq_some.mp ha' with ⟨rfl, rfl⟩ | ⟨-, ha'⟩
    · exact .inr ⟨hj.none_above (by omega), rfl⟩
    · rcases update_eq_some.mp ha' with ⟨rfl, rfl⟩ | ⟨-, ha'⟩
      · exact .inl ⟨old, hold, .replaced _ hstate⟩
      · exact .inl ⟨a', ha', .same _⟩
  | moved a b y e t ha hm _ =>
    rcases update_eq_some.mp ha' with ⟨rfl, rfl⟩ | ⟨-, ha'⟩
    · exact .inl ⟨a, ha, hm.follows⟩
    · exact .inl ⟨a', ha', .same _⟩

/-- An attempt that is in state `x` and was in the states `W`. -/
structure Chronicle (W : AttemptState → Prop) (x : AttemptState) : Prop where
  here : W x
  sent : x ≠ .prepared → W .broadcasting
  rejected : W .rejected → x = .rejected ∨ x = .replaced
  reorged : W .reorged → x = .reorged ∨ x = .replaced
  apart : W .rejected → ¬W .reorged
  replaced : x = .replaced → W .rejected ∨ W .reorged

lemma Chronicle.first : Chronicle (· = .prepared) .prepared := by
  constructor <;> simp

lemma Chronicle.follows {W : AttemptState → Prop} {y : AttemptState} (h : Chronicle W x)
    (hf : Follows x y) : Chronicle (fun z => W z ∨ z = y) y := by
  have hrejected := h.rejected
  have hreorged := h.reorged
  cases hf with
  | same x => exact ⟨.inr rfl, fun hx => .inl (h.sent hx), by grind [h.rejected], by grind [h.reorged],
      by grind [h.apart, h.rejected, h.reorged], fun hx => (h.replaced hx).imp .inl .inl⟩
  | broadcast => constructor <;> grind
  | answered y hy =>
    have := h.here
    constructor <;> grind
  | observed x y hx _ _ _ =>
    have := h.sent
    constructor <;> grind
  | replaced x hx =>
    have := h.sent
    have := h.here
    have := h.apart
    constructor <;> grind

/-! ## Runs -/

section

variable (P : Primitives) (services : ℕ → Service) {steps : List Step} {σ σ' : System}

def after (steps : List Step) : System := execute (System.call P services) System.initial steps

/-- The attempt `n` of a job was in a state at some point of the run. -/
def Was (steps : List Step) (id : String) (n : ℕ) (x : AttemptState) : Prop :=
  ∃ before, before <+: steps ∧ ∃ a, (after P services before).store.attempts.lookup (id, n) = some a ∧
    a.state = x

lemma after_disciplined (steps : List Step) : (after P services steps).Disciplined P :=
  reachable_disciplined P services steps

lemma after_snoc (steps : List Step) (step : Step) :
    after P services (steps ++ [step]) = after P services steps ∨
      ∃ event, Stepped P services (after P services steps) step (after P services (steps ++ [step]))
        event := by
  exact (execute_snoc_cases (System.call P services) System.initial steps step).imp_right
    fun ⟨event, hcall⟩ => ⟨event, call_stepped hcall⟩

variable {P services} {id : String} {event : Option Event} {step : Step}

lemma was_snoc : Was P services (steps ++ [step]) id n x ↔ Was P services steps id n x ∨
      ∃ a, (after P services (steps ++ [step])).store.attempts.lookup (id, n) = some a ∧
        a.state = x := by
  constructor
  · rintro ⟨before, hbefore, h⟩
    rcases prefix_concat_iff.mp hbefore with rfl | hbefore
    · exact .inr h
    · exact .inl ⟨before, hbefore, h⟩
  · rintro (⟨before, hbefore, h⟩ | h)
    · exact ⟨before, hbefore.trans (prefix_append _ _), h⟩
    · exact ⟨_, prefix_refl _, h⟩

lemma Stepped.before (h : Stepped P services σ step σ' event) (hσ : σ.Disciplined P)
    (hj' : σ'.store.jobs.lookup id = some j') :
    (∃ j, σ.store.jobs.lookup id = some j) ∨ j'.state = .queued ∧ j'.nonce = none ∧ j'.attemptCount = 0 := by
  cases h with
  | enqueued input now s r hcall | called w label c next failed s r _ hcall =>
    exact (call_effect hσ.sound hcall).before hj'
  | went | refused => exact .inl ⟨j', hj'⟩

lemma Stepped.follows
    (h : Stepped P services σ step σ' event) (hσ : σ.Disciplined P) {a' : Attempt}
    (ha' : σ'.store.attemptsOf id n = some a') :
    (∃ a, σ.store.attemptsOf id n = some a ∧ Follows a.state a'.state) ∨
      σ.store.attemptsOf id n = none ∧ a'.state = .prepared := by
  have hσ' := h.disciplined hσ
  obtain ⟨j', hj'⟩ := isSome_iff_exists.mp (hσ'.sound.orphans id n a' ha')
  obtain ⟨j, hj⟩ | ⟨-, -, hcount⟩ := h.before hσ hj'
  · obtain ⟨c, j'', -, hev, -⟩ := h.kept hσ hj
    exact hev.follows (hσ.sound.jobs id j hj) ha'
  · have := (hσ'.sound.jobs id j' hj').lt_of_row ha'
    omega

lemma Stepped.persists
    (h : Stepped P services σ step σ' event) (hσ : σ.Disciplined P) (id : String) :
    Persists (σ.store.attemptsOf id) (σ'.store.attemptsOf id) := by
  cases h with
  | enqueued input now s r hcall | called w label c next failed s r _ hcall =>
    exact (call_effect hσ.sound hcall).persists hσ.sound id
  | went | refused => exact fun n a ha => ⟨a, ha, rfl⟩

/-- A row that is not there never was, and one that is has a chronicle. -/
lemma reachable_chronicle (P : Primitives) (services : ℕ → Service) (steps : List Step) (id : String)
    (n : ℕ) :
    ((after P services steps).store.attempts.lookup (id, n) = none → ∀ x, ¬Was P services steps id n x) ∧
      ∀ a, (after P services steps).store.attempts.lookup (id, n) = some a →
        Chronicle (Was P services steps id n) a.state := by
  induction steps using List.reverseRecOn with
  | nil =>
    refine ⟨?_, fun a ha => by cases ha⟩
    rintro - x ⟨before, hbefore, a, ha, -⟩
    rw [prefix_nil.mp hbefore] at ha
    cases ha
  | append_singleton steps step ih =>
    have hσ := after_disciplined P services steps
    -- the row before the step, and the state that it goes to
    have hbefore : ∀ a', (after P services (steps ++ [step])).store.attempts.lookup (id, n) = some a' →
        (∃ a, (after P services steps).store.attempts.lookup (id, n) = some a ∧
          Follows a.state a'.state) ∨
        (after P services steps).store.attempts.lookup (id, n) = none ∧ a'.state = .prepared := by
      intro a' ha'
      obtain hsame | ⟨event, hstep⟩ := after_snoc P services steps step
      · exact .inl ⟨a', hsame ▸ ha', .same _⟩
      · exact hstep.follows hσ ha'
    constructor
    · intro hnone x hwas
      obtain hwas | ⟨a, ha, -⟩ := was_snoc.mp hwas
      · refine ih.1 ?_ x hwas
        obtain hsame | ⟨event, hstep⟩ := after_snoc P services steps step
        · exact hsame ▸ hnone
        · by_contra hne
          obtain ⟨a, ha⟩ := ne_none_iff_exists'.mp hne
          obtain ⟨a', ha', -⟩ := hstep.persists hσ id n a ha
          cases hnone.symm.trans ha'
      · cases hnone.symm.trans ha
    · intro a' ha'
      have hsnoc : Was P services (steps ++ [step]) id n =
          fun x => Was P services steps id n x ∨ x = a'.state := by
        funext x
        rw [eq_iff_iff, was_snoc, ha']
        simp [eq_comm]
      rw [hsnoc]
      obtain ⟨a, ha, hfollows⟩ | ⟨hnone, hprepared⟩ := hbefore a' ha'
      · exact (ih.2 a ha).follows hfollows
      · have hnever := ih.1 hnone
        simp only [hnever, false_or, hprepared]
        exact Chronicle.first

/-! ## Gaps -/

/-- `AllocateNonce` can return the nonce for a job of the gas payer. -/
def Store.HandsOut (s : Store) (chainID : ℕ) (gasPayer : String) (n : ℕ) : Prop :=
  ∃ lease observed now j s', s.jobs.lookup lease.job.jobID = some j ∧ j.chainID = chainID ∧
    j.gasPayer = gasPayer ∧ s.allocateNonce lease observed now = .ok (s', n)

/-- Every nonce that was given to a job can still be broadcast by the job, was broadcast and not
rejected, or can be given out again. -/
def NoGap (P : Primitives) (services : ℕ → Service) (steps : List Step) : Prop :=
  ∀ id j n, (after P services steps).store.jobs.lookup id = some j → j.nonce = some n →
    j.state ≠ .deadLetter ∨
    (∃ k, Was P services steps id k .broadcasting ∧ ¬Was P services steps id k .rejected) ∨
    (after P services steps).store.HandsOut j.chainID j.gasPayer n

/-- A step that dead-letters a job finds it without a nonce, or one of its attempts was REORGED. -/
def Spares (P : Primitives) (services : ℕ → Service) (steps : List Step) (step : Step) : Prop :=
  ∀ id j j', (after P services steps).store.jobs.lookup id = some j → j.state ≠ .deadLetter →
    (after P services (steps ++ [step])).store.jobs.lookup id = some j' → j'.state = .deadLetter →
    j.nonce = none ∨ ∃ k, Was P services (steps ++ [step]) id k .reorged

/-- The nonce of a job that is no longer QUEUED is not given out again. -/
lemma not_handsOut {s : Store} (hs : s.Sequenced)
    (hj : s.jobs.lookup id = some j) (hn : j.nonce = some n) (hstate : j.state ≠ .queued) :
    ¬s.HandsOut j.chainID j.gasPayer n := by
  rintro ⟨lease, observed, now, k, s', hk, hchain, hpayer, h⟩
  obtain ⟨k', hk', hgives, -⟩ := allocateNonce_eq_ok.mp h
  cases hk.symm.trans hk'
  by_cases hnone : k.nonce = none
  · have hbelow := hs.below id j n hj hn
    have hle := hgives.next_le hnone
    rw [hchain, hpayer] at hle
    omega
  · -- the job that has the nonce is the one that is asked for
    have hm := hgives.nonce.resolve_right fun h => hnone h.1
    obtain rfl := hs.unique _ _ k j n hk hj hpayer hm hn
    cases hk.symm.trans hj
    exact hstate hgives.state.1

lemma sent_iff_reorged {k : ℕ}
    (hj : (after P services steps).store.jobs.lookup id = some j) (hdead : j.state = .deadLetter) :
    Was P services steps id k .broadcasting ∧ ¬Was P services steps id k .rejected ↔
      Was P services steps id k .reorged := by
  have hsound := (after_disciplined P services steps).sound.jobs id j hj
  obtain ⟨hnever, hchronicle⟩ := reachable_chronicle P services steps id k
  cases hrow : (after P services steps).store.attempts.lookup (id, k) with
  | none => simp [hnever hrow]
  | some a =>
    have hchr := hchronicle a hrow
    constructor
    · rintro ⟨-, hrejected⟩
      obtain hlt | heq := (hsound.lt_of_row hrow).2.lt_or_eq
      · exact (hchr.replaced (hsound.replaced k a hlt hrow)).resolve_left hrejected
      · have hpair := hsound.pair a (heq ▸ hrow)
        have hhere := hchr.here
        rw [hdead] at hpair
        cases hstate : a.state <;> simp_all [State.agrees]
    · intro hreorged
      refine ⟨hchr.sent ?_, fun hrejected => hchr.apart hrejected hreorged⟩
      obtain hstate | hstate := hchr.reorged hreorged <;> simp [hstate]

lemma Evolves.nonce_eq {f f' : Attempts} (h : Evolves c j f j' f')
    (hstate : j'.state ≠ .queued) : j'.nonce = j.nonce := by
  cases h with
  | allocated n t hqueued _ => exact absurd hqueued hstate
  | _ => rfl

/-- Where every step spares the nonces of the jobs that it dead-letters, a dead-lettered job with a
nonce has an attempt that was REORGED. -/
lemma reorged_of_spares
    (h : ∀ before step, before ++ [step] <+: steps → Spares P services before step)
    (hj : (after P services steps).store.jobs.lookup id = some j) (hn : j.nonce = some n)
    (hdead : j.state = .deadLetter) : ∃ k, Was P services steps id k .reorged := by
  induction steps using List.reverseRecOn generalizing j with
  | nil => cases hj
  | append_singleton steps step ih =>
    have hspares : ∀ before step', before ++ [step'] <+: steps → Spares P services before step' :=
      fun before step' hpre => h before step' (hpre.trans (prefix_append _ _))
    have hmono : (∃ k, Was P services steps id k .reorged) →
        ∃ k, Was P services (steps ++ [step]) id k .reorged :=
      fun ⟨k, hk⟩ => ⟨k, was_snoc.mpr (.inl hk)⟩
    obtain hsame | ⟨event, hstep⟩ := after_snoc P services steps step
    · exact hmono (ih hspares (hsame ▸ hj) hn hdead)
    · have hσ := after_disciplined P services steps
      obtain ⟨j₀, hj₀⟩ | ⟨hqueued, -⟩ := hstep.before hσ hj
      · obtain ⟨c, j', hj', hev, -⟩ := hstep.kept hσ hj₀
        cases hj.symm.trans hj'
        have hnonce : j₀.nonce = some n := (hev.nonce_eq (by rw [hdead]; decide)).symm.trans hn
        by_cases hdead₀ : j₀.state = .deadLetter
        · exact hmono (ih hspares hj₀ hnonce hdead₀)
        · refine (h steps step (prefix_refl _) id j₀ j hj₀ hdead₀ hj hdead).resolve_left ?_
          rw [hnonce]
          exact some_ne_none n
      · rw [hdead] at hqueued
        cases hqueued

/-- A run has no gap in any of its states if and only if each of its steps spares the nonces of
the jobs that it dead-letters. -/
theorem no_nonce_gap_iff (P : Primitives) (services : ℕ → Service) (steps : List Step) :
    (∀ before, before <+: steps → NoGap P services before) ↔
      ∀ before step, before ++ [step] <+: steps → Spares P services before step := by
  constructor
  · intro h before step hpre id j j' hj hstate hj' hdead
    cases hn : j.nonce with
    | none => exact .inl rfl
    | some n =>
      obtain hsame | ⟨event, hstep⟩ := after_snoc P services before step
      · rw [hsame] at hj'
        cases hj.symm.trans hj'
        exact absurd hdead hstate
      · obtain ⟨c, k, hk, hev, -⟩ := hstep.kept (after_disciplined P services before) hj
        cases hj'.symm.trans hk
        have hn' := hev.nonce hn
        obtain halive | ⟨k, hsent⟩ | hout := h _ hpre id j' n hj' hn'
        · exact absurd hdead halive
        · exact .inr ⟨k, (sent_iff_reorged hj' hdead).mp hsent⟩
        · refine absurd hout (not_handsOut (after_disciplined P services _).sequenced hj' hn' ?_)
          rw [hdead]
          decide
  · intro h before hpre id j n hj hn
    by_cases hdead : j.state = .deadLetter
    · obtain ⟨k, hk⟩ := reorged_of_spares
        (fun first step hfirst => h first step (hfirst.trans hpre)) hj hn hdead
      exact .inr (.inl ⟨k, (sent_iff_reorged hj hdead).mpr hk⟩)
    · exact .inl hdead

namespace Relay

/-- A worker prepares the transaction of the job, and the broadcaster rejects it. -/
def rejected : List Step :=
  .enqueue input (clock 1) :: allocates 0 "lease_0000000000" (clock 1) ++
    broadcasts 0 (.rejected "intrinsic gas too low") (clock 1)

/-- The job is dead-lettered with its nonce, and its one attempt is REJECTED. -/
lemma rejected_rows : ((after primitives (fun _ => service) rejected).store.jobs.lookup jobID).map
      (fun j => (j.state, j.nonce, j.attemptCount)) = some (.deadLetter, some 0, 1) ∧
    ((after primitives (fun _ => service) rejected).store.attempts.lookup (jobID, 1)).map (·.state) =
      some .rejected := by
  decide

end Relay

/-- A rejected broadcast leaves a gap. -/
theorem rejected_leaves_gap : ∃ P services steps, ¬NoGap P services steps := by
  refine ⟨Relay.primitives, fun _ => Relay.service, Relay.rejected, fun h => ?_⟩
  obtain ⟨hjob, hattempt⟩ := Relay.rejected_rows
  obtain ⟨j, hj, hcolumns⟩ := map_eq_some_iff.mp hjob
  obtain ⟨a, ha, hrejected⟩ := map_eq_some_iff.mp hattempt
  simp only [Prod.mk.injEq] at hcolumns
  obtain ⟨hdead, hnonce, hcount⟩ := hcolumns
  have hσ := after_disciplined Relay.primitives (fun _ => Relay.service) Relay.rejected
  obtain halive | ⟨k, hsent⟩ | hout := h Relay.jobID j 0 hj hnonce
  · exact halive hdead
  · -- the only attempt is the first one
    have hreorged := (sent_iff_reorged hj hdead).mp hsent
    obtain ⟨hnever, hchronicle⟩ :=
      reachable_chronicle Relay.primitives (fun _ => Relay.service) Relay.rejected Relay.jobID k
    cases hrow : (after Relay.primitives (fun _ => Relay.service) Relay.rejected).store.attempts.lookup
        (Relay.jobID, k) with
    | none => exact hnever hrow _ hreorged
    | some b =>
      have hk := (hσ.sound.jobs _ j hj).lt_of_row hrow
      obtain rfl : k = 1 := by omega
      cases ha.symm.trans hrow
      have := (hchronicle a ha).reorged hreorged
      simp [hrejected] at this
  · exact not_handsOut hσ.sequenced hj hnonce (by rw [hdead]; decide) hout

end

end FlowOps.Keeper

import FlowOps.Common.Transactions

/-!
# Delayed changes

A contract that changes a value in two steps: it is scheduled with a time, and becomes
active by a second call, not before that time. Which calls of a history schedule, and
which activate, is read off by two functions.

`timelock_rule`: the active value of a run is the initial one, or was scheduled and
later activated in time.
-/

namespace FlowOps

variable {X α σ ι ε ω : Type}

/-- The last of `past` that scheduled a value scheduled `v`, for the time `ready`. -/
def Scheduled (schedules : X → Option (α × ℕ)) (past : List X) (v : α) (ready : ℕ) : Prop :=
  ∃ a x b, past = a ++ x :: b ∧ schedules x = some (v, ready) ∧ ∀ y ∈ b, schedules y = none

/-- The last of `past` that activated a value activated `v`, as it was scheduled, and not
before its time. -/
def Activated (schedules : X → Option (α × ℕ)) (activates : X → Option ℕ) (past : List X) (v : α) :
    Prop :=
  ∃ a y c ready now, past = a ++ y :: c ∧ Scheduled schedules a v ready ∧ activates y = some now ∧
    ready ≤ now ∧ ∀ z ∈ c, activates z = none

section

variable {schedules : X → Option (α × ℕ)} {activates : X → Option ℕ} {past : List X} {x : X} {v : α}
  {ready now : ℕ}

lemma scheduled_snoc (h : schedules x = some (v, ready)) :
    Scheduled schedules (past ++ [x]) v ready :=
  ⟨past, x, [], rfl, h, by simp⟩

lemma Scheduled.snoc (h : Scheduled schedules past v ready) (hx : schedules x = none) :
    Scheduled schedules (past ++ [x]) v ready := by
  obtain ⟨a, y, b, rfl, hy, hb⟩ := h
  refine ⟨a, y, b ++ [x], by simp, hy, fun z hz => ?_⟩
  rcases List.mem_append.mp hz with hz | hz
  · exact hb z hz
  · rw [List.mem_singleton.mp hz]
    exact hx

lemma Scheduled.activated (h : Scheduled schedules past v ready) (hx : activates x = some now)
    (hready : ready ≤ now) : Activated schedules activates (past ++ [x]) v :=
  ⟨past, x, [], ready, now, rfl, h, hx, hready, by simp⟩

lemma Activated.snoc (h : Activated schedules activates past v) (hx : activates x = none) :
    Activated schedules activates (past ++ [x]) v := by
  obtain ⟨a, y, c, ready, now, rfl, hs, hy, hready, hc⟩ := h
  refine ⟨a, y, c ++ [x], ready, now, by simp, hs, hy, hready, fun z hz => ?_⟩
  rcases List.mem_append.mp hz with hz | hz
  · exact hc z hz
  · rw [List.mem_singleton.mp hz]
    exact hx

end

/-- What a run has active was active from the start, or was scheduled and activated in
time. The rule speaks of states that are `live`, a condition that is never regained. -/
lemma timelock_rule {call : σ → ι → Except ε (σ × ω)} {s₀ : σ} (live : σ → Prop) (active : σ → α)
    (pending : σ → Option (α × ℕ)) {schedules : Success σ ι ω → Option (α × ℕ)}
    {activates : Success σ ι ω → Option ℕ} (h₀ : pending s₀ = none)
    (hlive : ∀ s i s' o, call s i = .ok (s', o) → live s' → live s)
    (hpending : ∀ s i s' o, call s i = .ok (s', o) → live s' →
      pending s' = pending s ∧ schedules ⟨s, i, o⟩ = none ∨ pending s' = none ∨
        pending s' = schedules ⟨s, i, o⟩)
    (hactive : ∀ s i s' o, call s i = .ok (s', o) → live s' →
      active s' = active s ∧ activates ⟨s, i, o⟩ = none ∨
        ∃ ready now, pending s = some (active s', ready) ∧ activates ⟨s, i, o⟩ = some now ∧
          ready ≤ now) (is : List ι) (h : live (execute call s₀ is)) :
    (∀ v ready, pending (execute call s₀ is) = some (v, ready) →
        Scheduled schedules (successes call s₀ is) v ready) ∧
      (active (execute call s₀ is) = active s₀ ∨
        Activated schedules activates (successes call s₀ is) (active (execute call s₀ is))) := by
  refine history_rule (s := s₀) (H := fun past s => live s →
    (∀ v ready, pending s = some (v, ready) → Scheduled schedules past v ready) ∧
      (active s = active s₀ ∨ Activated schedules activates past (active s)))
    (fun _ => ⟨fun v ready hv => by simp [h₀] at hv, .inl rfl⟩) (fun past s i s' o ih hc hs' => ?_) is h
  obtain ⟨hwait, hset⟩ := ih (hlive s i s' o hc hs')
  refine ⟨fun v ready hv => ?_, ?_⟩
  · rcases hpending s i s' o hc hs' with ⟨hsame, hnone⟩ | hnone | hnew
    · exact (hwait v ready (hsame ▸ hv)).snoc hnone
    · rw [hnone] at hv
      cases hv
    · exact scheduled_snoc (hnew ▸ hv)
  · rcases hactive s i s' o hc hs' with ⟨hsame, hnone⟩ | ⟨ready, now, hv, hnow, hready⟩
    · rw [hsame]
      exact hset.imp_right fun hset => hset.snoc hnone
    · exact .inr ((hwait _ ready hv).activated hnow hready)

end FlowOps

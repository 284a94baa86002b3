import FlowOps.ControlPlane.Budgets
import FlowOps.ControlPlane.PostgresJournal

/-!
# Runs of several processes

The table and the copies of the processes are a `SharedLog` (`System.step_log`), so the
process that appends an event has seen all events before it, and one that was refused as
stale appends no more. What an event was decided on is then the state that all events
before it lead to, and the budgets hold for all processes together as they hold for one.

Results: `shared_journal`, `midnight_exceeds_shared_budget`.
-/

namespace FlowOps.ControlPlane

open SharedLog Function List

/-- The table, and the copies of the processes. -/
def System.log (s : System) : Log ℕ Event where
  store := s.rows
  writers p := (s.processes p).map fun q => ⟨q.journal.events, q.journal.fault.isSome⟩

structure System.OK (P : Primitives) (s : System) : Prop where
  chain : HashChain P s.rows
  copies : s.log.Copies
  process : ∀ p q, s.processes p = some q → q.OK P

/-- The system after the actions of its processes, on an empty table. -/
def System.run (P : Primitives) (c : Config) (actions : List (ℕ × Action)) : System :=
  actions.foldl (fun s a => (s.step P c a.1 a.2).1) {}

variable {P : Primitives} {c : Config} {s : System} {p : ℕ} {a : Action}

section

variable {q q' : Process} {rows : List Event} {as : List (ℕ × Action)}

lemma log_setProcess : System.log ⟨rows, update s.processes p (some q)⟩ =
    Log.setWriter ⟨rows, s.log.writers⟩ p ⟨q.journal.events, q.journal.fault.isSome⟩ := by
  simp only [System.log, Log.setWriter, Log.mk.injEq, true_and]
  funext p'
  by_cases hp : p' = p
  · subst hp
    simp
  · simp [update_of_ne hp]

lemma log_writer (h : s.processes p = some q) :
    s.log.writers p = some ⟨q.journal.events, q.journal.fault.isSome⟩ := by
  simp [System.log, h]

/-- What a step of the system is: nothing, the start of a process, or a step of one. -/
lemma System.step_cases (P : Primitives) (c : Config) (s : System) (p : ℕ) (a : Action) :
    s.step P c p a = (s, none) ∨
      (∃ q, s.processes p = none ∧ q.journal = { events := s.rows } ∧ q.OK P ∧
        s.step P c p a = ({ s with processes := update s.processes p (some q) }, none)) ∨
      ∃ q, s.processes p = some q ∧ s.step P c p a =
        (⟨(q.step P c s.rows a).1, update s.processes p (some (q.step P c s.rows a).2.1)⟩,
          (q.step P c s.rows a).2.2) := by
  unfold step
  split
  · rename_i hnone
    split
    · split
      · rename_i q hopen
        obtain ⟨hjournal, hlive, hsweep⟩ := openProcess_eq_ok hopen
        refine .inr (.inl ⟨q, hnone, hjournal, ⟨?_, by simp [hsweep]⟩, rfl⟩)
        rw [hjournal]
        exact (accepted_of_rebuild hlive).symm
      · exact .inl rfl
    · exact .inl rfl
  · rename_i q hq
    exact .inr (.inr ⟨q, hq, rfl⟩)

lemma Process.Stepped.log {rows' : List Event} {result : Option (Except Err Event)}
    (h : Process.Stepped P c s.rows q a rows' q' result) (hchain : HashChain P s.rows)
    (hq : s.processes p = some q) :
    Step p s.log (System.log ⟨rows', update s.processes p (some q')⟩) := by
  rw [log_setProcess]
  have hwriter := log_writer hq
  have hlength : ∀ {d}, Writable P s.rows q.journal d → q.journal.events.length = s.rows.length :=
    fun h => h.sequence.symm.trans hchain.headSequence
  have hrun : ∀ {d}, Writable P s.rows q.journal d → q.journal.fault.isSome = false :=
    fun h => by simp [h.fault]
  have hidle : Log.setWriter ⟨s.rows, s.log.writers⟩ p ⟨q.journal.events, q.journal.fault.isSome⟩ =
    s.log := setWriter_eq_self hwriter
  cases h with
  | idle hjournal =>
    rw [hjournal, hidle]
    exact .idle
  | append hi hcommit happend =>
    generalize q'.journal = j' at happend ⊢
    cases happend with
    | refused =>
      rw [hidle]
      exact .idle
    | stale | aborted => exact .stop hwriter
    | lost h => exact .lost hwriter (hrun h) (hlength h)
    | stored h => exact .append hwriter (hrun h) (hlength h)

lemma System.step_log (h : s.OK P) : Step p s.log (s.step P c p a).1.log := by
  rcases s.step_cases P c p a with heq | ⟨q, hnone, hjournal, -, heq⟩ | ⟨q, hq, heq⟩
  · rw [heq]
    exact .idle
  · rw [heq, log_setProcess, hjournal]
    exact .read (by simp [log, hnone])
  · rw [heq]
    exact (Process.step_stepped (h.process p q hq) a).1.log h.chain hq

/-- Every event that is appended has been decided on by a process whose copy was the whole
table, from the state that all its events lead to. -/
def Complete (P : Primitives) (c : Config) (s : System) (p : ℕ) (a : Action) (rows : List Event) : Prop :=
  ∃ q i d answer, s.processes p = some q ∧ q.journal.events = s.rows ∧ q.journal.fault = none ∧
    q.live = accepted P s.rows ∧ a.Appends i ∧ Commit P c q.live i d answer ∧
    validateEvent P (eventOf P s.rows d) (s.rows.length + 1) (lastHash s.rows) = .ok () ∧
    rows = s.rows ++ [eventOf P s.rows d]

lemma System.step_complete (h : s.OK P) : (s.step P c p a).1.rows = s.rows ∨
    Complete P c s p a (s.step P c p a).1.rows := by
  rcases s.step_cases P c p a with heq | ⟨q, -, -, -, heq⟩ | ⟨q, hq, heq⟩
  · exact .inl (by rw [heq])
  · exact .inl (by rw [heq])
  · rw [heq]
    have hok := h.process p q hq
    have hcomplete : ∀ {d}, Writable P s.rows q.journal d → q.journal.events = s.rows := fun hw =>
      h.copies.eq_of_length (log_writer hq) (hw.sequence.symm.trans h.chain.headSequence)
    rcases (Process.step_stepped hok a).1.rows_cases with hsame | ⟨i, d, answer, hi, hcommit, hw, hrows⟩
    · exact .inl hsame
    · have hevents := hcomplete hw
      exact .inr ⟨q, i, d, answer, hq, hevents, hw.fault, hevents ▸ hok.live, hi, hcommit,
        hevents ▸ hw.valid, hevents ▸ hrows⟩

lemma System.step_ok (h : s.OK P) : (s.step P c p a).1.OK P where
  chain := by
    rcases s.step_complete h with heq | ⟨q, i, d, answer, -, -, -, -, -, -, hvalid, heq⟩
    · exact heq.symm ▸ h.chain
    · rw [heq]
      exact h.chain.snoc hvalid
  copies := (s.step_log h).copies h.copies
  process p' q' hq' := by
    have hupdate : ∀ {rows : List Event} {q'' : Process}, q''.OK P →
        (System.mk rows (update s.processes p (some q''))).processes p' = some q' → q'.OK P := by
      intro rows q'' hq'' hlookup
      by_cases hp : p' = p
      · subst hp
        dsimp only at hlookup
        rw [update_self] at hlookup
        exact Option.some.inj hlookup ▸ hq''
      · dsimp only at hlookup
        rw [update_of_ne hp] at hlookup
        exact h.process p' q' hlookup
    rcases s.step_cases P c p a with heq | ⟨q, -, -, hq, heq⟩ | ⟨q, hq, heq⟩
    · rw [heq] at hq'
      exact h.process p' q' hq'
    · rw [heq] at hq'
      exact hupdate hq hq'
    · rw [heq] at hq'
      exact hupdate (Process.step_stepped (h.process p q hq) a).2 hq'

lemma System.step_stale (h : s.OK P) (hstale : (s.step P c p a).2 = some (.error .journalStale)) :
    (s.step P c p a).1.log.Stopped p := by
  rcases s.step_cases P c p a with heq | ⟨q, -, -, -, heq⟩ | ⟨q, hq, heq⟩
  · rw [heq] at hstale
    cases hstale
  · rw [heq] at hstale
    cases hstale
  · rw [heq] at hstale ⊢
    have hfault := (Process.step_stepped (h.process p q hq) a).1.stale hstale
    exact ⟨_, log_writer (update_self ..), hfault⟩

lemma ok_empty : ({} : System).OK P := ⟨hashChain_nil, copies_empty, by rintro p q ⟨⟩⟩

lemma System.run_snoc (actions : List (ℕ × Action)) :
    run P c (actions ++ [(p, a)]) = ((run P c actions).step P c p a).1 := by
  rw [run, foldl_append]
  rfl

lemma System.run_ok (P : Primitives) (c : Config) (actions : List (ℕ × Action)) :
    (run P c actions).OK P := by
  induction actions using List.reverseRecOn with
  | nil => exact ok_empty
  | append_singleton actions a ih =>
    rw [show actions ++ [a] = actions ++ [(a.1, a.2)] from rfl, run_snoc]
    exact step_ok ih

lemma System.run_stopped (h : (run P c as).log.Stopped p) (bs : List (ℕ × Action)) :
    (run P c (as ++ bs)).log.Stopped p := by
  induction bs using List.reverseRecOn with
  | nil => rwa [append_nil]
  | append_singleton bs b ih =>
    rw [← append_assoc, show (as ++ bs) ++ [b] = (as ++ bs) ++ [(b.1, b.2)] from rfl, run_snoc]
    exact (step_log (run_ok P c _)).stopped ih

end

/-! ## Budgets -/

/-- The condition holds for the operation that the action calls. -/
def Action.Satisfies (K : Call → Prop) (a : Action) : Prop := ∀ i tx, a = .call i tx → K i

/-- The actions follow each other, and what they have read has been read before. -/
def Observed : View → List (ℕ × Action) → View → Prop
  | v, [], w => v.Before w
  | v, x :: xs, w => ∃ u, v.Before u ∧ x.2.Satisfies (·.Before u) ∧ Observed u xs w

section

variable {e : Engine} {v w : View}

lemma Action.Appends.satisfies {K : Call → Prop} {i : Call} (hi : a.Appends i) (ha : a.Satisfies K)
    (hsweep : ∀ now failures, K (.sweep now failures)) : K i := by
  cases a with
  | start => exact hi.elim
  | call j tx => exact hi ▸ ha j tx rfl
  | next =>
    obtain ⟨now, failures, rfl⟩ := hi
    exact hsweep now failures

/-- A step that appends has decided against the whole table, as in a run of one process. -/
lemma System.step_bounds (hok : s.OK P) (h : Bounds P e c (accepted P s.rows) v) (hvw : v.Before w)
    (hreads : a.Satisfies (·.Before w)) (ha : a.Satisfies fun i => Fixed e i ∧ SameDay i) :
    Bounds P e c (accepted P (s.step P c p a).1.rows) w := by
  have hlater := h.mono (accepted_ok P s.rows) hvw
  rcases s.step_complete hok with heq | ⟨q, i, d, answer, -, -, -, hlive, hi, hcommit, -, heq⟩
  · rwa [heq]
  · rw [heq, accepted_snoc]
    rcases offer_cases P (accepted P s.rows) (eventOf P s.rows d) with hsame | happlied
    · rwa [hsame]
    · have hbefore := hi.satisfies hreads (by rintro _ _ _ _ _ ⟨⟩)
      obtain ⟨hfixed, hday⟩ := hi.satisfies ha
        (by exact fun _ _ => ⟨by rintro _ _ _ ⟨⟩, by rintro _ _ _ ⟨⟩⟩)
      exact hlater.apply (accepted_ok P s.rows) (hlive ▸ hcommit) hbefore hfixed hday rfl happlied

lemma System.run_bounds (actions : List (ℕ × Action)) (hrun : Observed v actions w)
    (hactions : ∀ x ∈ actions, x.2.Satisfies fun i => Fixed e i ∧ SameDay i) :
    Bounds P e c (accepted P (run P c actions).rows) w := by
  have hfrom : ∀ s : System, s.OK P → Bounds P e c (accepted P s.rows) v →
      Bounds P e c (accepted P (actions.foldl (fun s a => (s.step P c a.1 a.2).1) s).rows) w := by
    induction actions generalizing v with
    | nil => exact fun s _ h => h.mono (accepted_ok P s.rows) hrun
    | cons x xs ih =>
      intro s hok h
      obtain ⟨u, hvu, hreads, hrun⟩ := hrun
      have hstep := s.step_bounds (p := x.1) hok h hvu hreads (hactions x mem_cons_self)
      exact ih hrun (fun y hy => hactions y (mem_cons_of_mem _ hy)) _ (s.step_ok hok) hstep
  exact hfrom {} ok_empty bounds_empty

end

/-- The table is one hash chain; each of its events was decided on by a process that had
seen all events before it; a process whose `Append` was refused as stale appends no
more; and if all submissions read the clock for their snapshots on one day, the budgets
hold for all processes together. -/
theorem shared_journal (P : Primitives) (c : Config) (actions : List (ℕ × Action)) :
    HashChain P (System.run P c actions).rows ∧
      (∀ p a, ((System.run P c actions).step P c p a).1.rows = (System.run P c actions).rows ∨
        Complete P c (System.run P c actions) p a ((System.run P c actions).step P c p a).1.rows) ∧
      (∀ p a later b, ((System.run P c actions).step P c p a).2 = some (.error .journalStale) →
        ((System.run P c (actions ++ (p, a) :: later)).step P c p b).1.rows =
          (System.run P c (actions ++ (p, a) :: later)).rows) ∧
      ∀ e v w, Observed v actions w →
        (∀ x ∈ actions, x.2.Satisfies fun i => Fixed e i ∧ SameDay i) →
          Bounds P e c (accepted P (System.run P c actions).rows) w := by
  have hok := System.run_ok P c actions
  refine ⟨hok.chain, fun p a => System.step_complete hok, fun p a later b hstale => ?_,
    fun e v w hrun hactions => System.run_bounds actions hrun hactions⟩
  have hstopped : (System.run P c (actions ++ [(p, a)])).log.Stopped p := by
    rw [System.run_snoc]
    exact System.step_stale hok hstale
  have hlater := System.run_stopped hstopped later
  rw [append_assoc, singleton_append] at hlater
  exact (System.step_log (System.run_ok P c _)).store_of_stopped hlater

namespace Example

/-- A submission of 60 before midnight. -/
def submission (requestID : String) : Call :=
  .submit (submitEnv (time 86340) (fun _ => quiet (time 86340)) requestID) none (intent requestID "60")

/-- Two processes open the journal, and one of them submits. -/
def twoProcesses : List (ℕ × Action) :=
  [(0, .start none), (1, .start none), (0, .call (submission "first") {})]

def midnightActions : List (ℕ × Action) :=
  (0, .start none) :: midnightCalls.map fun i => (0, .call i {})

end Example

open Example in
/-- The other process is refused as stale, which keeps the sum of the two within the budget,
and appends no more. -/
theorem shared_journal_two :
    ((System.run primitives config twoProcesses).step primitives config 1 (.call (submission "second") {})).2 =
        some (.error .journalStale) ∧
      (∀ later b, ((System.run primitives config (twoProcesses ++
          (1, .call (submission "second") {}) :: later)).step primitives config 1 b).1.rows =
        (System.run primitives config (twoProcesses ++ (1, .call (submission "second") {}) :: later)).rows) ∧
      Bounds primitives engine config (accepted primitives (System.run primitives config twoProcesses).rows)
        (quiet (time 86340)) := by
  have hstale : ((System.run primitives config twoProcesses).step primitives config 1
      (.call (submission "second") {})).2 = some (.error .journalStale) := by decide
  obtain ⟨-, -, hstopped, hbounds⟩ := shared_journal primitives config twoProcesses
  refine ⟨hstale, fun later b => hstopped 1 _ later b hstale,
    hbounds engine (quiet (time 86340)) (quiet (time 86340)) ?_ ?_⟩
  · refine ⟨_, .refl _, by rintro _ _ ⟨⟩, _, .refl _, by rintro _ _ ⟨⟩, _, .refl _, ?_, .refl _⟩
    rintro _ _ ⟨⟩ _ _ _ ⟨⟩
    exact ⟨le_rfl, fun _ => .refl _, fun _ => .refl _⟩
  · intro x hx i tx heq
    simp only [twoProcesses, mem_cons, not_mem_nil, or_false] at hx
    rcases hx with rfl | rfl | rfl
    · cases heq
    · cases heq
    · obtain ⟨rfl, -⟩ := Action.call.inj heq
      refine ⟨?_, ?_⟩
      · rintro _ _ _ ⟨⟩
        exact fun _ _ => rfl
      · rintro _ _ _ ⟨⟩
        exact fun _ => rfl

open Example in
/-- A single process exceeds the daily budget at midnight. -/
theorem midnight_exceeds_shared_budget : Advancing (quiet (time 0)) midnightCalls midnight ∧
      Observed (quiet (time 0)) midnightActions midnight ∧
      (∀ x ∈ midnightActions, x.2.Satisfies (Fixed engine)) ∧
      ¬Bounds primitives engine config (accepted primitives (System.run primitives config midnightActions).rows)
        midnight := by
  refine ⟨midnightCalls_advancing, ?_, ?_, fun h => ?_⟩
  · obtain ⟨u₁, hu₁, u₂, hu₂, u₃, hu₃, hlast⟩ := midnightCalls_advancing
    refine ⟨_, .refl _, by rintro _ _ ⟨⟩, u₁, hu₁.1, ?_, u₂, hu₂.1, ?_, u₃, hu₃.1, ?_, hlast⟩
    · rintro _ _ ⟨⟩
      exact hu₁.before
    · rintro _ _ ⟨⟩
      exact hu₂.before
    · rintro _ _ ⟨⟩
      exact hu₃.before
  · intro x hx i tx heq
    simp only [midnightActions, mem_cons, mem_map] at hx
    rcases hx with rfl | ⟨j, hj, rfl⟩
    · cases heq
    · obtain ⟨rfl, -⟩ := Action.call.inj heq
      exact midnightCalls_fixed j hj
  · have hcharged : (accepted primitives (System.run primitives config midnightActions).rows).dailySpent primitives
        (fun _ => midnight) "org" "customer" midnight.clock +
          (accepted primitives (System.run primitives config midnightActions).rows).dailyReserved primitives
            (fun _ => midnight) "org" "customer" = 160 := by decide
    have hdaily := h.daily "org" "customer"
    rw [hcharged] at hdaily
    exact absurd hdaily (by decide)

end FlowOps.ControlPlane

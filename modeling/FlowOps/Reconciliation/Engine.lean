import FlowOps.Reconciliation.Apply
import FlowOps.Reconciliation.Journal

/-!
# The engine: plans, writing and opening

Every operation of `Engine` has the same shape: under the lock it reads the
state and the clock, and then refuses, answers from the state, or appends one event
to the journal, applies it and sometimes calls `refreshAffected`. The first half is
a `Plan`, a pure function of the state; `Engine.perform` is the second half. If
`apply` rejects the event, the operation fails but the event stays in the journal.

`Engine.open` is `Open` (engine.go:65) on the journal's lines.
-/

namespace FlowOps.Reconciliation

/-! ## Plans -/

inductive Reply where
  | status (s : ChainStatus)
  | execution (e : Execution)
  | transaction (t : LedgerTransaction)
  | call (c : EscrowCall)

/-- The event an operation appends, the clock reading of `refreshAffected` if it
is called after `apply`, and the reply computed from the state reached. -/
structure Write where
  draft : Draft
  refresh : Option Time := none
  reply : State → Reply

inductive Plan where
  | refuse (e : Err)
  | answer (r : Reply)
  | write (w : Write)

namespace Plan

variable {α : Type} {e : Err} {p : Prop}

/-- `a, err := x; if err != nil { return err }`. -/
def check (x : Except Err α) (k : α → Plan) : Plan :=
  match x with
  | .error e => .refuse e
  | .ok a => k a

/-- `a, ok := m[key]; if !ok { return e }`. -/
def find (x : Option α) (e : Err) (k : α → Plan) : Plan :=
  match x with
  | none => .refuse e
  | some a => k a

variable {x : Except Err α} {k : α → Plan} {w : Write}

@[simp] lemma check_eq_write : check x k = .write w ↔ ∃ a, x = .ok a ∧ k a = .write w := by
  cases x <;> simp [check]

lemma check_unit_eq_write {x : Except Err Unit} {k : Unit → Plan} :
    check x k = .write w ↔ x = .ok () ∧ k () = .write w := by
  cases x <;> simp [check]

@[simp] lemma find_eq_write {x : Option α} :
    find x e k = .write w ↔ ∃ a, x = some a ∧ k a = .write w := by
  cases x <;> simp [find]

@[simp] lemma ite_refuse_eq_write [Decidable p] {k : Plan} :
    (if p then .refuse e else k) = .write w ↔ ¬p ∧ k = .write w := by
  by_cases h : p <;> simp [h]

variable {r : Reply}

@[simp] lemma ite_answer_eq_write [Decidable p] {k : Plan} :
    (if p then .answer r else k) = .write w ↔ ¬p ∧ k = .write w := by
  by_cases h : p <;> simp [h]

lemma check_eq_answer : check x k = .answer r ↔ ∃ a, x = .ok a ∧ k a = .answer r := by
  cases x <;> simp [check]

lemma ite_refuse_eq_answer [Decidable p] {k : Plan} :
    (if p then .refuse e else k) = .answer r ↔ ¬p ∧ k = .answer r := by
  by_cases h : p <;> simp [h]

@[simp] lemma write_eq_write {w' : Write} : Plan.write w = .write w' ↔ w = w' := by simp

end Plan

/-! ## The context of a call -/

/-- For the literals that name a reading, `0 : Fin 3`, or an append, `0 : Fin 2`. -/
scoped instance neZero_three : NeZero 3 := ⟨three_ne_zero⟩

scoped instance neZero_two : NeZero 2 := ⟨two_ne_zero⟩

/-- The clock readings of a call at its program points, in order, and whether the
caller's context is canceled when the call reaches its first and second append.
No operation reads the clock more than three times. -/
structure Ctx where
  clock : Fin 3 → Time
  canceled : Fin 2 → Bool := fun _ => false

/-- `e.config.Clock().UTC()`. -/
def Ctx.now (ctx : Ctx) (i : Fin 3) : Time := (ctx.clock i).utc

/-- The readings of one call do not decrease. -/
def Ctx.Monotone (ctx : Ctx) : Prop :=
  (ctx.clock 0).ns ≤ (ctx.clock 1).ns ∧ (ctx.clock 1).ns ≤ (ctx.clock 2).ns

/-! ## Writing -/

structure Engine where
  journal : Journal
  state : State

section

variable (P : Primitives) (cfg : Config)

/-- Append, apply, refresh. -/
def Engine.commit (e : Engine) (canceled : Bool) (w : Write) : Except Err Reply × Engine :=
  match e.journal.append P canceled w.draft with
  | .error err => (.error err, e)
  | .ok (event, journal) =>
    match e.state.apply P cfg event with
    | .error err => (.error err, { e with journal })
    | .ok s =>
      let s := w.refresh.elim s (s.refreshAffected cfg)
      (.ok (w.reply s), { journal, state := s })

def Engine.perform (e : Engine) (canceled : Bool) : Plan → Except Err Reply × Engine
  | .refuse err => (.error err, e)
  | .answer r => (.ok r, e)
  | .write w => e.commit P cfg canceled w

/-! ## Opening -/

/-- The state before the first event (engine.go:74-85). -/
def State.init (now : Time) : State where
  status := ChainStatus.setPauseFlags
    { chainID := cfg.chainID, state := .suspectedStall
      reason := "startup requires fresh independent Base observations"
      requiredObserverQuorum := cfg.observerQuorum, stateChangedAt := now }

/-- The replay loop of `Open` (engine.go:86-91). -/
def State.applyAll (s : State) (events : List JournalEvent) : Except Err State :=
  foldCheck (apply P cfg) s events

/-- The status a restart writes (engine.go:93-102). -/
def ChainStatus.restarted (status : ChainStatus) (now : Time) : ChainStatus :=
  setPauseFlags { status with
    state := if status.state = .healthy then .suspectedStall else status.state
    reason := "process restart requires a fresh independent Base stability window"
    stateChangedAt := now
    consecutiveUnhealthy := 0
    consecutiveRecovery := 0
    readyForManualResume := false }

/-- The restart event (engine.go:103). -/
def restartDraft (s : State) (now : Time) : Draft where
  eventAt := now
  key := "restart"
  body := .chainStatus { status := s.status.restarted now, markBroadcastsPending := true }

/-- A status that a restart demotes (engine.go:92). -/
def ChainStatus.demoted (status : ChainStatus) : Bool :=
  status.state = .healthy || status.state = .recovering

/-- `Open` (engine.go:65) with a validated configuration. -/
def Engine.open (ctx : Ctx) (lines : List JournalEvent) : Except Err Engine :=
  (replay P lines).bind fun journal =>
  (State.applyAll P cfg (State.init cfg (ctx.now 0)) journal.events).bind fun s =>
  if s.status.demoted then
    (journal.append P false (restartDraft s (ctx.now 0))).bind fun (event, journal) =>
    (s.apply P cfg event).bind fun s =>
      .ok { journal, state := s.refreshAffected cfg (ctx.now 1) }
  else .ok { journal, state := s.refreshAffected cfg (ctx.now 1) }

end

end FlowOps.Reconciliation

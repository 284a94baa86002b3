import FlowOps.Leadership.Store

/-!
# Leadership at work

Any number of processes call the functions of `internal/ascpleadership`. Two of these are not one
transaction. `FenceSink` admits an effect, runs its callback and resolves the effect, and the process
may end at any point in between. `BeginPromotion` drains, waits until no effect is in flight and then
writes its run; where draining or waiting fails it asks whether the organization is DRAINING at the
epoch and goes on if it is (leadership.go:322). Its context may end, and so may its process.

An instrument becomes LIVE in the callback of an effect: `AdvanceOnce` of the bearer runtime
(`internal/ascpbearer/runtime.go:109`) activates inside `FenceSink`. Everything else that happens to
instruments and attestations is left open.
-/

namespace FlowOps.Leadership

/-- How far a call of `FenceSink` has got. -/
inductive Stage where
  | admitted | running | returned
deriving DecidableEq

/-- A call of `FenceSink` that was admitted. -/
structure Callback where
  organizationID : String
  epoch : ℕ
  sink : Sink
  stage : Stage
deriving DecidableEq

/-- The arguments of `BeginPromotion`, the margin in nanoseconds. -/
structure PromotionInput where
  organizationID : String
  expected : ℕ
  (actor evidence : String)
  finalityMargin : ℤ
deriving DecidableEq

/-- The check of `BeginPromotion` (leadership.go:318). -/
def PromotionInput.valid (input : PromotionInput) : Bool :=
  decide (1000000000 ≤ input.finalityMargin) && decide (input.finalityMargin ≤ 3600 * 1000000000) &&
    decide (input.finalityMargin % 1000000000 = 0) &&
    validMutation input.organizationID input.actor input.evidence

/-- Where a call of `BeginPromotion` is: before the transition of `BeginDrain`, in its wait, where
it failed, or before its own transaction, which it reaches after the wait or without it. -/
inductive Promoter where
  | idle
  | draining (input : PromotionInput)
  | waiting (input : PromotionInput)
  | checking (input : PromotionInput)
  | inserting (input : PromotionInput) (waited : Bool)

/-- The tables, the callbacks by effect, and the calls of `BeginPromotion`. -/
structure System where
  tables : Tables
  callbacks : Dict String Callback
  promoters : ℕ → Promoter

def System.initial : System := ⟨⟨∅, ∅, ∅, ∅, ∅, []⟩, ∅, fun _ => .idle⟩

/-- A step of `BeginPromotion`; `poll` is one look of its wait, and `interrupt` an error in
draining or waiting. -/
inductive PromotionStep where
  | begin (input : PromotionInput)
  | drain (now : Time)
  | poll | interrupt | recheck
  | insert (runID : String) (now : Time)
  | abort

/-- A step of a process, or of the packages that own instruments and attestations. A callback that
is not completed ends by `crash`. -/
inductive Step where
  | bootstrap (organizationID actor evidence : String) (now : Time)
  | fenceSink (organizationID : String) (expected : ℕ) (sink : Sink) (effectID : String) (now : Time)
  | start (effectID : String)
  | activate (effectID digest : String)
  | finish (effectID : String)
  | complete (effectID : String) (now : Time)
  | crash (effectID : String)
  | retire (digest : String)
  | attest (attestation : Attestation)
  | beginDrain (organizationID : String) (expected : ℕ) (actor evidence : String) (now : Time)
  | advance (organizationID : String) (expected : ℕ) (actor evidence : String) (now dbNow : Time)
  | abandonEffect (organizationID : String) (expected : ℕ) (effectID actor evidence : String) (now : Time)
  | markPromotionReady (organizationID : String) (sourceEpoch : ℕ) (evidence : String) (now : Time)
  | completePromotion (organizationID : String) (sourceEpoch : ℕ) (evidence : String) (now : Time)
  | promotion (p : ℕ) (step : PromotionStep)

/-- What can be seen of a step: a callback begins, an instrument becomes LIVE in one, and
`BeginPromotion` returns a run. -/
inductive Event where
  | started (effectID organizationID : String) (epoch : ℕ)
  | activated (digest organizationID : String) (epoch : ℕ)
  | returned (run : PromotionRun)
deriving DecidableEq

def System.write (σ : System) (x : Except LeadershipErr Tables) :
    Except LeadershipErr (System × Option Event) :=
  x.map fun tables => ({ σ with tables }, none)

def System.promoter (σ : System) (p : ℕ) (next : Promoter) : System × Option Event :=
  ({ σ with promoters := Function.update σ.promoters p next }, none)

def System.callback (σ : System) (effectID : String) (stage : Stage)
    (next : Callback → Except LeadershipErr (System × Option Event)) :
    Except LeadershipErr (System × Option Event) :=
  match σ.callbacks.lookup effectID with
  | none => .error .notFound
  | some cb => if cb.stage = stage then next cb else .error .stateConflict

/-- `BeginPromotion` (leadership.go:317), with `waitForNoEffects` (leadership.go:665). -/
def System.promotion (σ : System) (p : ℕ) :
    Promoter → PromotionStep → Except LeadershipErr (System × Option Event)
  | .idle, .begin input =>
    if input.valid = false then .error .invalid else .ok (σ.promoter p (.draining input))
  | .draining input, .drain now =>
    match σ.tables.beginDrain input.organizationID input.expected input.actor input.evidence now with
    | .ok tables => .ok (promoter { σ with tables } p (.waiting input))
    | .error _ => .ok (σ.promoter p (.checking input))
  | .waiting input, .poll =>
    if σ.tables.inFlight input.organizationID input.expected then .ok (σ, none)
    else .ok (σ.promoter p (.inserting input true))
  | .draining input, .interrupt => .ok (σ.promoter p (.checking input))
  | .waiting input, .interrupt => .ok (σ.promoter p (.checking input))
  | .checking input, .recheck =>
    if σ.tables.drains input.organizationID input.expected then
      .ok (σ.promoter p (.inserting input false))
    else .ok (σ.promoter p .idle)
  | .inserting input _, .insert runID now =>
    match σ.tables.insertPromotion input.organizationID input.expected input.evidence
      (input.finalityMargin / 1000000000).toNat runID now with
    | .ok (tables, run) => .ok ((promoter { σ with tables } p .idle).1, some (.returned run))
    | .error _ => .ok (σ.promoter p .idle)
  | _, .abort => .ok (σ.promoter p .idle)
  | _, _ => .error .stateConflict

def System.call (σ : System) : Step → Except LeadershipErr (System × Option Event)
  | .bootstrap organizationID actor evidence now =>
    σ.write (σ.tables.bootstrap organizationID actor evidence now)
  | .fenceSink organizationID expected sink effectID now =>
    (σ.tables.fenceSink organizationID expected sink effectID now).map fun r =>
      match r.2 with
      | .admitted =>
        ({ σ with
          tables := r.1
          callbacks := σ.callbacks.insert effectID ⟨organizationID, expected, sink, .admitted⟩ }, none)
      | .rejected => ({ σ with tables := r.1 }, none)
  | .start effectID =>
    σ.callback effectID .admitted fun cb =>
      .ok ({ σ with callbacks := σ.callbacks.insert effectID { cb with stage := .running } },
        some (.started effectID cb.organizationID cb.epoch))
  | .activate effectID digest =>
    σ.callback effectID .running fun cb =>
      if (σ.tables.bearers.lookup digest).isSome then .error .constraint
      else
        .ok ({ σ with tables.bearers := σ.tables.bearers.insert digest ⟨cb.organizationID, cb.epoch, true⟩ },
          some (.activated digest cb.organizationID cb.epoch))
  | .finish effectID =>
    σ.callback effectID .running fun cb =>
      .ok ({ σ with callbacks := σ.callbacks.insert effectID { cb with stage := .returned } }, none)
  | .complete effectID now =>
    σ.callback effectID .returned fun cb =>
      (σ.tables.completeEffect effectID cb.sink now).map fun tables =>
        ({ σ with tables, callbacks := σ.callbacks.erase effectID }, none)
  | .crash effectID => .ok ({ σ with callbacks := σ.callbacks.erase effectID }, none)
  | .retire digest =>
    match σ.tables.bearers.lookup digest with
    | none => .error .notFound
    | some b =>
      .ok ({ σ with tables.bearers := σ.tables.bearers.insert digest { b with live := false } }, none)
  | .attest attestation =>
    .ok ({ σ with tables.attestations := σ.tables.attestations ++ [attestation] }, none)
  | .beginDrain organizationID expected actor evidence now =>
    σ.write (σ.tables.beginDrain organizationID expected actor evidence now)
  | .advance organizationID expected actor evidence now dbNow =>
    σ.write (σ.tables.advance organizationID expected actor evidence now dbNow)
  | .abandonEffect organizationID expected effectID actor evidence now =>
    σ.write (σ.tables.abandonEffect organizationID expected effectID actor evidence now)
  | .markPromotionReady organizationID sourceEpoch evidence now =>
    σ.write ((σ.tables.markPromotionReady organizationID sourceEpoch evidence now).map (·.1))
  | .completePromotion organizationID sourceEpoch evidence now =>
    σ.write ((σ.tables.completePromotion organizationID sourceEpoch evidence now).map (·.1))
  | .promotion p step => σ.promotion p (σ.promoters p) step

end FlowOps.Leadership

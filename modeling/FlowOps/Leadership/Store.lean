import FlowOps.Ascp.Capacity
import FlowOps.Pkg.Envelope

/-!
# Leadership

`internal/ascpleadership/leadership.go` over the tables of `0017_ascp_leadership_fence.sql`,
`0018_durable_leadership_effects.sql` and `0031_ascp_promotion_drain.sql`. A function here is one
transaction. Every one of them but `completeEffect` holds the advisory lock of its organization
until it commits, so they run one after another; the triggers are part of the statement that
fires them.

The bearer registry and the verdicts belong to other packages, and only what the triggers read of
them is kept: whether an instrument of the organization is LIVE, and until when an attestation is
valid. Left out are the events, of which every transition writes the one that
`flowops_require_leadership_event` asks for, and `drain_transaction_id`, since a transaction makes
one transition.
-/

namespace FlowOps.Leadership

open Ascp (timestamptz)

/-! ## Tables -/

/-- `State` (leadership.go:36). -/
inductive State where
  | active | draining
deriving DecidableEq

/-- `Sink` (leadership.go:43). -/
inductive Sink where
  | legacy | signerIssuance | verifierAttestation | keeperRelay | sellerProxyEgress | outboxDispatch
  | checkpointWrite
deriving DecidableEq

/-- The sinks that record their rejections (0031:26). -/
def controlledSinks : List Sink :=
  [.signerIssuance, .verifierAttestation, .keeperRelay, .sellerProxyEgress, .outboxDispatch,
    .checkpointWrite]

/-- `PromotionState` (leadership.go:55). -/
inductive PromotionState where
  | draining | ready | cutover | complete
deriving DecidableEq

/-- The column `state` of an effect. -/
inductive EffectState where
  | inFlight | completed | abandoned
deriving DecidableEq

/-- `Record` (leadership.go:81), a row of `ascp_leadership_epochs`. -/
structure Record where
  epoch : ℕ
  state : State
  (evidenceDigest actor : String)
  updatedAt : Time
deriving DecidableEq

/-- A row of `ascp_leadership_effects`. -/
structure Effect where
  organizationID : String
  epoch : ℕ
  sink : Sink
  state : EffectState
  startedAt : Time
  resolvedAt : Option Time := none
  resolutionActor : String := ""
  resolutionEvidenceDigest : String := ""
deriving DecidableEq

/-- A row of `ascp_leadership_rejections`. -/
structure Rejection where
  organizationID : String
  sink : Sink
  (presentedEpoch observedEpoch : ℕ)
  observedState : State
  rejectedAt : Time
deriving DecidableEq

/-- `PromotionRun` (leadership.go:64), the margin in seconds. -/
structure PromotionRun where
  (runID organizationID : String)
  (sourceEpoch targetEpoch : ℕ)
  state : PromotionState
  finalityMargin : ℕ
  drainEvidenceDigest : String
  readyEvidenceDigest : String := ""
  completionEvidenceDigest : String := ""
  startedAt : Time
  readyAt : Option Time := none
  cutoverAt : Option Time := none
  completedAt : Option Time := none
deriving DecidableEq

/-- An instrument of the bearer registry, with the organization of its intent and the epoch under
which it was activated. -/
structure Bearer where
  organizationID : String
  epoch : ℕ
  live : Bool
deriving DecidableEq

/-- A verdict, with the organization of its payment. -/
structure Attestation where
  organizationID : String
  validUntil : ℤ
deriving DecidableEq

/-- The tables, with promotion runs by organization and source epoch. -/
structure Tables where
  epochs : Dict String Record
  effects : Dict String Effect
  rejections : Dict String Rejection
  promotions : Dict (String × ℕ) PromotionRun
  bearers : Dict String Bearer
  attestations : List Attestation

/-- The errors of the package, and those of a constraint or trigger. -/
inductive LeadershipErr where
  | invalid | notFound | epochChanged | stateConflict | constraint
deriving DecidableEq

/-! ## Checks -/

/-- `maxEpoch` (leadership.go:20). -/
def maxEpoch : ℕ := 2 ^ 63 - 1

/-- `unicode.IsControl`. -/
def isControl (c : Char) : Bool :=
  decide (c.toNat < 0x20) || (decide (0x7F ≤ c.toNat) && decide (c.toNat ≤ 0x9F))

/-- `validOrganization` (leadership.go:701). -/
def validOrganization (value : String) : Bool :=
  decide (1 ≤ value.utf8ByteSize) && decide (value.utf8ByteSize ≤ 200) &&
    value.toList.all fun c => !isSpace c && !isControl c

/-- `actorPattern` (leadership.go:31). -/
def actorPattern (s : String) : Bool :=
  match s.toList with
  | [] => false
  | c :: cs => c.isAlphanum && decide (cs.length ≤ 127) &&
      cs.all fun c => identifierChar c || c = '@' || c = '/'

/-- `validMutation` (leadership.go:697). -/
def validMutation (organizationID actor evidence : String) : Bool :=
  validOrganization organizationID && actorPattern actor && hashPattern evidence

/-- `GREATEST`. -/
def greatest (t u : Time) : Time := if t.before u then u else t

/-- An effect of the epoch is IN_FLIGHT (leadership.go:670, 0031:175). -/
def Tables.inFlight (t : Tables) (organizationID : String) (epoch : ℕ) : Bool :=
  t.effects.entries.any fun e =>
    e.2.organizationID = organizationID && e.2.epoch = epoch && e.2.state = .inFlight

/-- An instrument of the organization is LIVE (leadership.go:405, 0031:187). -/
def Tables.liveBearer (t : Tables) (organizationID : String) : Bool :=
  t.bearers.entries.any fun e => e.2.organizationID = organizationID && e.2.live

/-- An attestation of the organization is valid, or was within the margin (leadership.go:407,
0031:194). -/
def Tables.liveAttestation (t : Tables) (organizationID : String) (margin : ℕ) (now : Time) : Bool :=
  t.attestations.any fun a => a.organizationID = organizationID &&
    ((Time.ofUnix a.validUntil).add (margin * 1000000000)).after (timestamptz now)

/-! ## Transactions -/

/-- `Bootstrap` (leadership.go:258). -/
def Tables.bootstrap (t : Tables) (organizationID actor evidence : String) (now : Time) :
    Except LeadershipErr Tables :=
  if validMutation organizationID actor evidence = false then .error .invalid
  else
    match t.epochs.lookup organizationID with
    | none =>
      .ok { t with epochs := t.epochs.insert organizationID ⟨1, .active, evidence, actor, timestamptz now⟩ }
    | some existing =>
      if existing.epoch ≠ 1 ∨ existing.state ≠ .active ∨ existing.actor ≠ actor ∨
          existing.evidenceDigest ≠ evidence then .error .stateConflict
      else .ok t

/-- What the transaction of `FenceSink` decides. -/
inductive Admission where
  | admitted | rejected
deriving DecidableEq

/-- `INSERT INTO ascp_leadership_effects` with its trigger (0018:31). -/
def Tables.insertEffect (t : Tables) (effectID : String) (effect : Effect) : Except LeadershipErr Tables :=
  if (t.effects.lookup effectID).isSome ∨ effect.state ≠ .inFlight ∨
      (t.epochs.lookup effect.organizationID).any (fun r => r.epoch = effect.epoch && r.state = .active) = false then
    .error .constraint
  else .ok { t with effects := t.effects.insert effectID effect }

/-- `FenceSink` (leadership.go:161) up to the effect. A rejection is committed. -/
def Tables.fenceSink (t : Tables) (organizationID : String) (expected : ℕ) (sink : Sink)
    (effectID : String) (now : Time) : Except LeadershipErr (Tables × Admission) :=
  if validOrganization organizationID = false ∨ expected = 0 ∨ maxEpoch < expected then .error .invalid
  else
    match t.epochs.lookup organizationID with
    | none => .error .notFound
    | some record =>
      if record.state ≠ .active ∨ record.epoch ≠ expected then
        if sink = .legacy then .ok (t, .rejected)
        else if (t.rejections.lookup effectID).isSome then .error .constraint
        else
          .ok ({ t with
            rejections := t.rejections.insert effectID
              ⟨organizationID, sink, expected, record.epoch, record.state,
                timestamptz (greatest now record.updatedAt)⟩ }, .rejected)
      else
        (t.insertEffect effectID
          { organizationID, epoch := expected, sink, state := .inFlight, startedAt := timestamptz now }).map
            (·, .admitted)

/-- `completeEffect` (leadership.go:652). -/
def Tables.completeEffect (t : Tables) (effectID : String) (sink : Sink) (resolvedAt : Time) :
    Except LeadershipErr Tables :=
  match t.effects.lookup effectID with
  | none => .error .stateConflict
  | some effect =>
    if effect.state ≠ .inFlight ∨ (sink ≠ .legacy ∧ effect.sink ≠ sink) then .error .stateConflict
    else
      .ok { t with
        effects := t.effects.insert effectID
          { effect with
            state := .completed
            resolvedAt := some (greatest (timestamptz resolvedAt) effect.startedAt) } }

/-- `AbandonEffect` (leadership.go:488); the trigger (0031:71) asks for what it has checked. -/
def Tables.abandonEffect (t : Tables) (organizationID : String) (expected : ℕ)
    (effectID actor evidence : String) (now : Time) : Except LeadershipErr Tables :=
  if expected = 0 ∨ maxEpoch < expected ∨ validMutation organizationID actor evidence = false ∨
      hashPattern effectID = false then .error .invalid
  else
    match t.epochs.lookup organizationID with
    | none => .error .notFound
    | some record =>
      if record.epoch ≠ expected then .error .epochChanged
      else if record.state ≠ .draining then .error .stateConflict
      else
        match t.effects.lookup effectID with
        | none => .error .stateConflict
        | some effect =>
          if effect.organizationID ≠ organizationID ∨ effect.epoch ≠ expected ∨
              effect.state ≠ .inFlight then .error .stateConflict
          else
            .ok { t with
              effects := t.effects.insert effectID
                { effect with
                  state := .abandoned
                  resolvedAt := some (greatest (timestamptz now) effect.startedAt)
                  resolutionActor := actor, resolutionEvidenceDigest := evidence } }

/-- `transition` (leadership.go:525) up to the row: the record that it finds, and the time of the
new one. -/
def Tables.transitionFrom (t : Tables) (organizationID : String) (expected : ℕ) (source : State)
    (actor evidence : String) (now : Time) : Except LeadershipErr Time :=
  if expected = 0 ∨ maxEpoch < expected ∨ validMutation organizationID actor evidence = false then
    .error .invalid
  else
    match t.epochs.lookup organizationID with
    | none => .error .notFound
    | some current =>
      if current.epoch ≠ expected then .error .epochChanged
      else if current.state ≠ source then .error .stateConflict
      else .ok (greatest (timestamptz now) (current.updatedAt.add 1000))

/-- The transition of `BeginDrain` (leadership.go:295). -/
def Tables.beginDrain (t : Tables) (organizationID : String) (expected : ℕ) (actor evidence : String)
    (now : Time) : Except LeadershipErr Tables :=
  (t.transitionFrom organizationID expected .active actor evidence now).map fun updatedAt =>
    { t with epochs := t.epochs.insert organizationID ⟨expected, .draining, evidence, actor, updatedAt⟩ }

/-- The trigger on an advance (0031:155): nothing of the epoch is in flight, its promotion is READY,
and nothing of the organization is live. `dbNow` is the database's `now()`. -/
def Tables.validateAdvance (t : Tables) (organizationID : String) (epoch : ℕ) (updatedAt dbNow : Time) :
    Except LeadershipErr PromotionRun :=
  if t.inFlight organizationID epoch then .error .constraint
  else
    match t.promotions.lookup (organizationID, epoch) with
    | none => .error .constraint
    | some run =>
      if run.state ≠ .ready then .error .constraint
      else if t.liveBearer organizationID then .error .constraint
      else if t.liveAttestation organizationID run.finalityMargin dbNow then .error .constraint
      else if run.readyAt.any (fun readyAt => updatedAt.before readyAt) then .error .constraint
      else .ok { run with state := .cutover, cutoverAt := some updatedAt }

/-- `Advance` (leadership.go:307). -/
def Tables.advance (t : Tables) (organizationID : String) (expected : ℕ) (actor evidence : String)
    (now dbNow : Time) : Except LeadershipErr Tables :=
  if maxEpoch ≤ expected then .error .invalid
  else
    (t.transitionFrom organizationID expected .draining actor evidence now).bind fun updatedAt =>
      (t.validateAdvance organizationID expected updatedAt dbNow).map fun run =>
        { t with
          promotions := t.promotions.insert (organizationID, expected) run
          epochs := t.epochs.insert organizationID ⟨expected + 1, .active, evidence, actor, updatedAt⟩ }

/-- The record is DRAINING at an epoch. -/
def Tables.drains (t : Tables) (organizationID : String) (epoch : ℕ) : Bool :=
  (t.epochs.lookup organizationID).any fun r => r.epoch = epoch && r.state = .draining

/-- The transaction of `BeginPromotion` (leadership.go:333-366). -/
def Tables.insertPromotion (t : Tables) (organizationID : String) (expected : ℕ) (evidence : String)
    (finalityMargin : ℕ) (runID : String) (now : Time) : Except LeadershipErr (Tables × PromotionRun) :=
  if t.drains organizationID expected = false then .error .stateConflict
  else if maxEpoch ≤ expected then .error .constraint
  else
    match t.promotions.lookup (organizationID, expected) with
    | some run =>
      if run.drainEvidenceDigest ≠ evidence ∨ run.finalityMargin ≠ finalityMargin then
        .error .stateConflict
      else .ok (t, run)
    | none =>
      if t.promotions.entries.any (·.2.runID = runID) then .error .constraint
      else
        let run : PromotionRun :=
          { runID, organizationID, sourceEpoch := expected, targetEpoch := expected + 1
            state := .draining, finalityMargin, drainEvidenceDigest := evidence
            startedAt := timestamptz now }
        .ok ({ t with promotions := t.promotions.insert (organizationID, expected) run }, run)

/-- `MarkPromotionReady` (leadership.go:373). -/
def Tables.markPromotionReady (t : Tables) (organizationID : String) (sourceEpoch : ℕ)
    (evidence : String) (now : Time) : Except LeadershipErr (Tables × PromotionRun) :=
  if validOrganization organizationID = false ∨ sourceEpoch = 0 ∨ maxEpoch < sourceEpoch ∨
      hashPattern evidence = false then .error .invalid
  else if t.drains organizationID sourceEpoch = false then .error .stateConflict
  else
    match t.promotions.lookup (organizationID, sourceEpoch) with
    | none => .error .notFound
    | some run =>
      if run.state = .ready ∧ run.readyEvidenceDigest = evidence then .ok (t, run)
      else if run.state ≠ .draining then .error .stateConflict
      else if t.liveBearer organizationID ∨
          t.liveAttestation organizationID run.finalityMargin now then .error .stateConflict
      else if (timestamptz now).before run.startedAt then .error .constraint
      else
        let ready := { run with
          state := .ready, readyEvidenceDigest := evidence, readyAt := some (timestamptz now) }
        .ok ({ t with promotions := t.promotions.insert (organizationID, sourceEpoch) ready }, ready)

/-- A sink has rejected traffic of the source epoch after the cutover (leadership.go:453,
0031:133). -/
def Tables.rejects (t : Tables) (run : PromotionRun) (sink : Sink) : Bool :=
  t.rejections.entries.any fun e => e.2.organizationID = run.organizationID && e.2.sink = sink &&
    e.2.presentedEpoch = run.sourceEpoch && e.2.observedEpoch = run.sourceEpoch + 1 &&
    e.2.observedState = .active && run.cutoverAt.any fun cutoverAt => !e.2.rejectedAt.before cutoverAt

/-- `CompletePromotion` (leadership.go:435). The sinks that a rejection can have are the controlled
ones (0031:26), so the distinct ones are counted among these. -/
def Tables.completePromotion (t : Tables) (organizationID : String) (sourceEpoch : ℕ)
    (evidence : String) (now : Time) : Except LeadershipErr (Tables × PromotionRun) :=
  if validOrganization organizationID = false ∨ sourceEpoch = 0 ∨ maxEpoch ≤ sourceEpoch ∨
      hashPattern evidence = false then .error .invalid
  else
    match t.promotions.lookup (organizationID, sourceEpoch) with
    | none => .error .stateConflict
    | some run =>
      match run.cutoverAt with
      | none => .error .stateConflict
      | some cutoverAt =>
        if run.state ≠ .cutover ∨ cutoverAt.isZero then .error .stateConflict
        else if (controlledSinks.filter (t.rejects run)).length ≠ 6 then .error .stateConflict
        else
          let complete := { run with
            state := .complete, completionEvidenceDigest := evidence
            completedAt := some (greatest (timestamptz now) cutoverAt) }
          .ok ({ t with promotions := t.promotions.insert (organizationID, sourceEpoch) complete }, complete)

end FlowOps.Leadership

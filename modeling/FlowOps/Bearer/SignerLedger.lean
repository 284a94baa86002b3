import FlowOps.Common.Check
import FlowOps.Common.Dict
import FlowOps.Common.FileJournal
import FlowOps.Common.GoTime
import FlowOps.Pkg.Pattern

/-!
# The signer ledger

`internal/ascpbearer/ledger_file.go`: the hash-chained file in which the isolated signer
keeps every transition of a prepared handle, with the checks of a record and of a
transition. `Append` checks the transition but not the event it builds; `replay` checks
both, and refuses an event whose time is zero.

Results: `ledgerFile_readsBack`, `ledgerFile_fits`.
-/

namespace FlowOps.Bearer

/-! ## Records -/

/-- `State` (handle.go:21). -/
inductive HandleState where
  | prepared | active | released | expired | terminal
  | other (name : String)
deriving DecidableEq

/-- `Handle` (handle.go:39). -/
structure Handle where
  (id requestID authorizationID reservationID actionID operationID signerRequestHash : String)
  (canonicalPayloadHash digest nonce signerKeyID : String)
  keyEpoch : ℕ
  keeperID : String
  (validAfter validUntil : Time)
  state : HandleState
  outcome : String
deriving DecidableEq

/-- `ActivationProof` (handle.go:77). -/
structure ActivationProof where
  (requestID handleID operationID digest nonce primaryMirrorDigest : String)
  activationOccurredAt : Time
deriving DecidableEq

/-- `signerRecord` (handle.go:100). -/
structure SignerRecord where
  handle : Handle
  encrypted : Bytes
  activation : Option ActivationProof
deriving DecidableEq

inductive Err where
  | transition | mismatch
  | message (text : String)
deriving DecidableEq

/-- `opaqueHandle` (activation.go:856). -/
def opaqueHandle (value : String) : Bool :=
  decide (32 ≤ value.utf8ByteSize) && decide (value.utf8ByteSize ≤ 256) &&
    value.toList.all fun c => c ≠ ' ' && c ≠ '\t' && c ≠ '\r' && c ≠ '\n'

/-- `hash` (activation.go:879). -/
def hash (value : String) : Bool := hashPattern value && value ≠ zeroHash

/-- `maximumAuthorizationWindow` (activation.go:22), in nanoseconds. -/
def maximumAuthorizationWindow : ℤ := 10 * 60 * 10 ^ 9

/-- `exactActivationProof` (handle.go:403). -/
def exactActivationProof (handle : Handle) (proof : ActivationProof) : Bool :=
  proof.requestID = handle.requestID && proof.handleID = handle.id &&
    proof.operationID = handle.operationID && proof.digest = handle.digest &&
    proof.nonce = handle.nonce && hash proof.primaryMirrorDigest &&
    !proof.activationOccurredAt.before handle.validAfter &&
    proof.activationOccurredAt.before handle.validUntil

/-- `sameActivationProof` (handle.go:409). -/
def sameActivationProof (left right : ActivationProof) : Bool :=
  left.requestID = right.requestID && left.handleID = right.handleID &&
    left.operationID = right.operationID && left.digest = right.digest && left.nonce = right.nonce &&
    left.primaryMirrorDigest = right.primaryMirrorDigest &&
    left.activationOccurredAt.ns = right.activationOccurredAt.ns

/-- `sameHandleIdentity` (ledger_file.go:342). -/
def sameHandleIdentity (current next : Handle) : Bool :=
  current.id = next.id && current.requestID = next.requestID &&
    current.authorizationID = next.authorizationID && current.reservationID = next.reservationID &&
    current.actionID = next.actionID && current.operationID = next.operationID &&
    current.signerRequestHash = next.signerRequestHash &&
    current.canonicalPayloadHash = next.canonicalPayloadHash && current.digest = next.digest &&
    current.nonce = next.nonce && current.signerKeyID = next.signerKeyID &&
    current.keyEpoch = next.keyEpoch && current.keeperID = next.keeperID &&
    current.validAfter.ns = next.validAfter.ns && current.validUntil.ns = next.validUntil.ns

/-- The first condition of `validateSignerRecord` (ledger_file.go:318-324). -/
def fieldsInvalid (record : SignerRecord) : Prop :=
  let h := record.handle
  opaqueHandle h.id = false ∨
    [h.requestID, h.authorizationID, h.reservationID, h.operationID, h.signerRequestHash,
      h.canonicalPayloadHash, h.digest, h.nonce].all hash = false ∨
    [h.actionID, h.signerKeyID, h.keeperID].all identifierPattern = false ∨ h.keyEpoch = 0 ∨
    h.validAfter.isZero ∨ h.validAfter.before h.validUntil = false ∨
    maximumAuthorizationWindow < h.validUntil.sub h.validAfter ∨ record.encrypted = []
deriving Decidable

/-- `validateSignerRecord` (ledger_file.go:316). -/
def validateSignerRecord (record : SignerRecord) : Except Err Unit :=
  let state := record.handle.state
  let outcome := record.handle.outcome
  if fieldsInvalid record then .error .transition
  else if (state = .prepared ∨ state = .active ∨ state = .released) ∧ outcome ≠ "" then
    .error .transition
  else if (state = .expired ∧ outcome ≠ "EXPIRED_UNACTIVATED") ∨ (state = .terminal ∧ outcome = "") then
    .error .transition
  else if (state = .active ∨ state = .released ∨ state = .terminal) ∧
      record.activation.any (exactActivationProof record.handle) = false then .error .transition
  else if (state = .prepared ∨ state = .expired) ∧ record.activation ≠ none then .error .transition
  else .ok ()

/-! ## The ledger -/

/-- `signerLedgerHashInput` (ledger_file.go:37). -/
structure LedgerHashInput where
  version : ℤ
  sequence : ℕ
  eventAt : Time
  (handleID previousHash : String)
  record : SignerRecord
deriving DecidableEq

/-- `signerLedgerEvent` (ledger_file.go:27). -/
structure LedgerEvent extends LedgerHashInput where
  hash : String
deriving DecidableEq

/-- The hash function, and the length of the JSON of a record. -/
structure Primitives where
  eventSHA256 : LedgerHashInput → Hex64
  recordLength : SignerRecord → ℕ

/-- `signerLedgerVersion` (ledger_file.go:25). -/
def signerLedgerVersion : ℤ := 2

/-- `math.MaxUint64`. -/
def maxUint64 : ℕ := 2 ^ 64 - 1

/-- The largest record (ledger_file.go:254). -/
def maxRecord : ℕ := 512 * 2 ^ 10

/-- The buffer of the scanner (ledger_file.go:199). -/
def maxLedgerLine : ℕ := 2 ^ 20

/-- `signerJournal` (ledger_file.go:46). -/
structure SignerJournal where
  sequence : ℕ := 0
  lastHash : String := ""
  records : Dict String SignerRecord := ∅
  fault : Option String := none

/-- The transitions of `validateTransition` (ledger_file.go:307-309). -/
def validStates (current next : HandleState) : Prop :=
  (current = .prepared ∧ (next = .active ∨ next = .expired)) ∨
    (current = .active ∧ next = .released) ∨ (current = .released ∧ next = .terminal)
deriving Decidable

/-- `validateTransition` (ledger_file.go:284). -/
def SignerJournal.validateTransition (j : SignerJournal) (next : SignerRecord) : Except Err Unit :=
  (validateSignerRecord next).bind fun () =>
    match j.records.lookup next.handle.id with
    | none =>
      if next.handle.state ≠ .prepared then
        .error (.message "first signer ledger state must be PREPARED")
      else if j.records.entries.any (fun e => e.2.handle.operationID = next.handle.operationID &&
          e.2.handle.actionID = next.handle.actionID) then .error .mismatch
      else .ok ()
    | some current =>
      if sameHandleIdentity current.handle next.handle = false ∨ current.encrypted ≠ next.encrypted then
        .error .mismatch
      else if current.activation.any (fun proof =>
          !next.activation.any (sameActivationProof proof)) then .error .mismatch
      else if ¬validStates current.handle.state next.handle.state then
        .error (.message "invalid signer ledger transition")
      else .ok ()

section

variable (P : Primitives)

/-- `signerLedgerEventHash` (ledger_file.go:365). -/
def signerLedgerEventHash (input : LedgerHashInput) : String := (P.eventSHA256 input).val

/-- `validateSignerLedgerEvent` (ledger_file.go:351). The record is never empty. -/
def validateSignerLedgerEvent (e : LedgerEvent) (sequence : ℕ) (previousHash : String) :
    Except Err Unit :=
  if e.version ≠ signerLedgerVersion ∨ e.sequence ≠ sequence ∨ e.eventAt.isZero ∨
      opaqueHandle e.handleID = false ∨ e.previousHash ≠ previousHash then
    .error (.message "signer ledger event fields are invalid")
  else if e.hash ≠ signerLedgerEventHash P e.toLedgerHashInput then
    .error (.message "signer ledger hash does not match content")
  else .ok ()

/-- The event that `Append` builds (ledger_file.go:257-258). -/
def SignerJournal.eventOf (j : SignerJournal) (eventAt : Time) (record : SignerRecord) :
    LedgerEvent :=
  let input : LedgerHashInput :=
    { version := signerLedgerVersion, sequence := j.sequence + 1, eventAt := eventAt.utc
      handleID := record.handle.id, previousHash := j.lastHash, record }
  { toLedgerHashInput := input, hash := signerLedgerEventHash P input }

/-- The times in a record that `json.Marshal` has to print. -/
def SignerRecord.times (record : SignerRecord) : List Time :=
  [record.handle.validAfter, record.handle.validUntil] ++
    (record.activation.map (·.activationOccurredAt)).toList

/-- The journal after an event is written or read. -/
def SignerJournal.write (j : SignerJournal) (e : LedgerEvent) : SignerJournal :=
  { j with records := j.records.insert e.handleID e.record, sequence := e.sequence, lastHash := e.hash }

/-- `Append` (ledger_file.go:231) on an open file that takes the line. -/
def SignerJournal.append (j : SignerJournal) (canceled : Bool) (eventAt : Time)
    (record : SignerRecord) : Except Err (LedgerEvent × SignerJournal) :=
  if canceled then .error (.message "context canceled")
  else if j.fault ≠ none then .error (.message "signer ledger is faulted")
  else if j.sequence = maxUint64 then .error (.message "signer ledger sequence exhausted")
  else
    (j.validateTransition record).bind fun () =>
      if maxRecord < P.recordLength record then
        .error (.message "signer ledger record exceeds 512 KiB")
      else if (eventAt.utc :: record.times).all Time.marshals = false then
        .error (.message "Time.MarshalJSON: year outside of range [0,9999]")
      else .ok (j.eventOf P eventAt record, j.write (j.eventOf P eventAt record))

/-- A line of `replay` (ledger_file.go:200-222). -/
def SignerJournal.replayEvent (j : SignerJournal) (e : LedgerEvent) : Except Err SignerJournal :=
  if j.sequence = maxUint64 then .error (.message "signer ledger sequence exhausted")
  else
    (validateSignerLedgerEvent P e (j.sequence + 1) j.lastHash).bind fun () =>
      (j.validateTransition e.record).bind fun () =>
        if e.handleID ≠ e.record.handle.id then
          .error (.message "event and record handle differ")
        else .ok (j.write e)

structure LedgerInput where
  eventAt : Time
  record : SignerRecord

def ledgerFile (codec : Codec LedgerEvent) : FileJournal LedgerInput LedgerEvent SignerJournal where
  codec := codec
  limit := maxLedgerLine
  init := {}
  replay j e := (j.replayEvent P e).toOption
  append j i := (j.append P false i.eventAt i.record).toOption

end

/-! ## Reading back -/

section

variable {P : Primitives} {codec : Codec LedgerEvent} {V : LedgerEvent → Prop} {j j' : SignerJournal}
  {i : LedgerInput} {e : LedgerEvent} {record : SignerRecord} {eventAt : Time}

lemma validateTransition_opaque (h : j.validateTransition record = .ok ()) :
    opaqueHandle record.handle.id := by
  have hrecord := (bind_unit_eq_ok.mp h).1
  simp only [validateSignerRecord, guard_ok] at hrecord
  have hfields := hrecord.1
  simp only [fieldsInvalid, not_or, Bool.not_eq_false] at hfields
  exact hfields.1

lemma append_ok {canceled : Bool} (h : j.append P canceled eventAt record = .ok (e, j')) :
    j.sequence ≠ maxUint64 ∧ j.validateTransition record = .ok () ∧ P.recordLength record ≤ maxRecord ∧
      e = j.eventOf P eventAt record ∧ j' = j.write e := by
  simp only [SignerJournal.append, guard_ok, bind_unit_eq_ok, not_lt] at h
  obtain ⟨-, -, hsequence, htransition, hlength, -, h⟩ := h
  cases h
  exact ⟨hsequence, htransition, hlength, rfl, rfl⟩

/-- The event of an append passes the checks of `replay`, unless its time is zero. -/
lemma validateSignerLedgerEvent_eventOf (h : j.validateTransition record = .ok ()) :
    validateSignerLedgerEvent P (j.eventOf P eventAt record) (j.sequence + 1) j.lastHash = .ok () ↔
      eventAt.isZero = false := by
  have hopaque := validateTransition_opaque h
  rw [validateSignerLedgerEvent, guard_ok, guard_ok]
  simp only [SignerJournal.eventOf, ne_eq, not_true_eq_false, false_or, or_false, not_false_eq_true,
    and_true, hopaque, Bool.true_eq_false]
  exact Bool.not_eq_true _ ▸ Iff.rfl

lemma ledgerFile_readsBack : (ledgerFile P codec).ReadsBack fun i => i.eventAt.isZero = false := by
  intro j i e j' h
  obtain ⟨hsequence, htransition, -, rfl, rfl⟩ := append_ok (FileJournal.toOption_eq_some.mp h)
  have hevent : validateSignerLedgerEvent P (j.eventOf P i.eventAt i.record) (j.sequence + 1)
      j.lastHash = .ok () ↔ i.eventAt.isZero = false := validateSignerLedgerEvent_eventOf htransition
  have hreplay : j.replayEvent P (j.eventOf P i.eventAt i.record) =
      (validateSignerLedgerEvent P (j.eventOf P i.eventAt i.record) (j.sequence + 1) j.lastHash).bind
        fun () => .ok (j.write (j.eventOf P i.eventAt i.record)) := by
    have hrecord : (j.eventOf P i.eventAt i.record).record = i.record := rfl
    rw [SignerJournal.replayEvent, if_neg hsequence, hrecord, htransition]
    exact congrArg _ (funext fun () => if_neg (not_not.mpr rfl))
  show (j.replayEvent P _).toOption = _
  rw [hreplay]
  split_ifs with hzero
  · rw [hevent.mpr hzero]
    rfl
  · cases hvalidate : validateSignerLedgerEvent P (j.eventOf P i.eventAt i.record) (j.sequence + 1)
        j.lastHash with
    | error err => rfl
    | ok u => exact absurd (hevent.mp hvalidate) hzero

lemma ledgerFile_fits
    (hsize : ∀ e, V e → (codec.encode e).length < P.recordLength e.record + 2 ^ 19)
    (h : (ledgerFile P codec).append j i = some (e, j')) (he : V e) : (ledgerFile P codec).Fits e := by
  obtain ⟨-, -, hlength, rfl, -⟩ := append_ok (FileJournal.toOption_eq_some.mp h)
  have hrecord : P.recordLength (j.eventOf P i.eventAt i.record).record ≤ 2 ^ 19 := hlength
  calc (codec.encode (j.eventOf P i.eventAt i.record)).length
      < P.recordLength (j.eventOf P i.eventAt i.record).record + 2 ^ 19 := hsize _ he
    _ ≤ 2 ^ 20 := by omega

end

end FlowOps.Bearer

import FlowOps.Common.Dict
import FlowOps.Common.FileJournal
import FlowOps.Pkg.Envelope
import FlowOps.Pkg.PilotLimits

/-!
# Attempts and their journal

`pkg/referencesigner/executor_types.go` and `attempt_journal.go`: the attempt of the
customer's executor to carry out one authorization, the checks of an attempt, and the
hash-chained journal that keeps every state of every attempt.

An authorization has its escrow terms behind a pointer, and Go compares pointers by address.
An authorization in memory is therefore its value together with the address of its terms;
terms are never written after they are built, so equal addresses have equal terms. In the
journal an authorization is its value alone, and decoding allocates the terms anew, also
for the two copies that one attempt holds.

Results: `replayEvent_of_append` and `replayEvent_no_escrow` say which events are read
back; `attempts_reopen_iff`, `escrow_attempt_not_reopened`.
-/

namespace FlowOps.Signer

/-! ## Attempts -/

/-- `envelope.Authorization` in memory: the address of the terms is `0` for `nil`. -/
structure HeldAuthorization where
  value : Authorization
  escrowAt : ℕ
  nil_iff : escrowAt = 0 ↔ value.escrow = none
deriving DecidableEq

/-- `envelope.SignedAuthorization`. -/
structure SignedOf (α : Type) where
  authorization : α
  (keyID signature : String)
deriving DecidableEq

/-- `Authorized` (verifier.go:92). -/
structure AuthorizedOf (α : Type) where
  authorization : α
  (digest keyID : String)
  claimedAt : ℤ
deriving DecidableEq

/-- `PreparedTransaction` (executor_types.go:42). -/
structure PreparedTransaction where
  rawTransaction : Bytes
  (transactionHash sender : String)
deriving DecidableEq

/-- `AttemptState` (executor_types.go:21). -/
inductive AttemptState where
  | prepared | broadcasting | submitted | ambiguous | registered
  | other (name : String)
deriving DecidableEq

/-- `Attempt` (executor_types.go:67), in memory or in the journal. -/
structure AttemptOf (α : Type) where
  authorization : SignedOf α
  authorized : AuthorizedOf α
  prepared : PreparedTransaction
  state : AttemptState
  preparedAt : ℤ
  broadcastAt : ℤ := 0
  receipt : Option SignedReceipt := none
  receiptPublicKeyB64 : String := ""
  registeredAt : ℤ := 0
deriving DecidableEq

abbrev SignedAuthorization := SignedOf HeldAuthorization

abbrev Authorized := AuthorizedOf HeldAuthorization

abbrev Attempt := AttemptOf HeldAuthorization

/-- An attempt as the journal has it. -/
abbrev AttemptRecord := AttemptOf Authorization

/-- The same attempt with other copies of its authorization. -/
def AttemptOf.map {α β : Type} (f g : α → β) (a : AttemptOf α) : AttemptOf β :=
  { a with
    authorization := { a.authorization with authorization := f a.authorization.authorization }
    authorized := { a.authorized with authorization := g a.authorized.authorization } }

/-- `json.Marshal`. -/
def AttemptOf.record (a : Attempt) : AttemptRecord := a.map HeldAuthorization.value HeldAuthorization.value

/-- A decoded authorization whose terms, if it has any, are at this address. -/
def decodeAuthorization (address : ℕ) (a : Authorization) : HeldAuthorization :=
  if h : a.escrow = none then ⟨a, 0, by simp [h]⟩ else ⟨a, address + 1, by simp [h]⟩

/-- `json.Unmarshal` of the `n`-th payload: the terms of both copies are new. -/
def AttemptOf.decode (n : ℕ) (r : AttemptRecord) : Attempt :=
  r.map (decodeAuthorization (2 * n)) (decodeAuthorization (2 * n + 1))

/-! ## Primitives and errors -/

/-- What is hashed for an event of the journal. -/
structure AttemptHashInput where
  version : ℤ
  sequence : ℕ
  eventAt : Time
  (authorizationID previousHash : String)
  payload : AttemptRecord
deriving DecidableEq

/-- `attemptEvent` (attempt_journal.go:27). -/
structure AttemptEvent extends AttemptHashInput where
  hash : String
deriving DecidableEq

structure Primitives extends Crypto where
  /-- Keccak-256 of the bytes of a transaction. -/
  rawKeccak256 : Bytes → Hex64
  /-- SHA-256 of the JSON of an event. -/
  eventSHA256 : AttemptHashInput → Hex64
  /-- `len` of the JSON of an attempt. -/
  payloadLength : AttemptRecord → ℕ
  /-- `ed25519.Verify` of a signature text under a public key, over the digest of an
      authorization. -/
  ed25519VerifyAuthorization : Bytes → Authorization → String → Bool
  /-- `ed25519.Sign` of a receipt with the attestation key of the executor. -/
  ed25519SignReceipt : Receipt → String → String

/-- `RefusalCode` (verifier.go:21). -/
inductive RefusalCode where
  | unknownTrustKey | badSignature | identity | notYetValid | expired | ttlTooLong | chain | rail
  | asset | recipient | amount | chainUnhealthy | frozen | replay | nonceStore
deriving DecidableEq

inductive Err where
  | attemptConflict | unsupportedRail
  | preparedTransaction (text : String)
  | registrationPending | broadcastAmbiguous
  | refusal (code : RefusalCode) (text : String)
  | limit (err : LimitError)
  | message (text : String)
deriving DecidableEq

/-! ## Checks of an attempt -/

/-- `maxRawTransactionBytes` (executor_types.go:17). -/
def maxRawTransactionBytes : ℕ := 256 * 1024

section

variable (P : Primitives)

/-- `PreparedTransaction.validate` (executor_types.go:48). -/
def PreparedTransaction.validate (p : PreparedTransaction) : Except String Unit :=
  if p.rawTransaction = [] ∨ maxRawTransactionBytes < p.rawTransaction.length then
    .error "raw transaction must contain 1 to 262144 bytes"
  else if hashPattern p.transactionHash = false then
    .error "transaction hash must be canonical lowercase hex"
  else if addressPattern p.sender = false then .error "sender: address is not canonical lowercase"
  else if p.transactionHash ≠ (P.rawKeccak256 p.rawTransaction).hash then
    .error "transaction hash does not match the signed transaction bytes"
  else .ok ()

/-- `validateReceipt` (executor_types.go:124). -/
def AttemptOf.validateReceipt (a : Attempt) : Except String Unit :=
  match a.receipt with
  | none => .error "broadcast receipt is missing"
  | some signed =>
    if a.broadcastAt < a.preparedAt then .error "broadcast receipt is missing"
    else if publicKeyValid a.receiptPublicKeyB64 = false then .error "receipt public key is invalid"
    else
      match signed.verify P.toCrypto a.receiptPublicKeyB64 with
      | .error _ => .error "receipt signature: verification failed"
      | .ok () =>
        let r := signed.receipt
        let granted := a.authorized.authorization.value
        let wantOutcome : BroadcastOutcome :=
          if a.state = .ambiguous ∨ (a.state = .registered ∧ r.outcome = .ambiguous) then .ambiguous
          else .submitted
        if r.outcome ≠ wantOutcome ∨ r.organizationID ≠ granted.organizationID ∨
            r.customerID ≠ granted.customerID ∨ r.authorizationID ≠ granted.authorizationID ∨
            r.authorizationDigest ≠ a.authorized.digest ∨
            r.transactionHash ≠ a.prepared.transactionHash ∨ r.sender ≠ a.prepared.sender ∨
            r.broadcastAt ≠ a.broadcastAt then
          .error "receipt does not match the durable signer attempt"
        else .ok ()

/-- The `switch` of `Attempt.validate` (executor_types.go:97-120). -/
def AttemptOf.validateState (a : Attempt) : Except String Unit :=
  match a.state with
  | .prepared =>
    if a.broadcastAt ≠ 0 ∨ a.receipt ≠ none ∨ a.receiptPublicKeyB64 ≠ "" ∨ a.registeredAt ≠ 0 then
      .error "prepared attempt contains later-state evidence"
    else .ok ()
  | .broadcasting =>
    if a.broadcastAt < a.preparedAt ∨ a.receipt ≠ none ∨ a.receiptPublicKeyB64 ≠ "" ∨
        a.registeredAt ≠ 0 then .error "broadcasting attempt fields are invalid"
    else .ok ()
  | .submitted | .ambiguous =>
    (a.validateReceipt P).bind fun () =>
      if a.registeredAt ≠ 0 then .error "unregistered attempt has a registration time" else .ok ()
  | .registered =>
    (a.validateReceipt P).bind fun () =>
      if a.registeredAt < a.broadcastAt then .error "registration time is invalid" else .ok ()
  | .other _ => .error "attempt state is invalid"

/-- `Attempt.validate` (executor_types.go:79). The two copies of the authorization are
compared with `!=`, which compares the addresses of their terms. -/
def AttemptOf.validate (P : Primitives) (a : Attempt) : Except String Unit :=
  match a.authorization.authorization.value.validate P.toCrypto with
  | .error err => .error ("authorization: " ++ err)
  | .ok () =>
    if a.authorization.authorization ≠ a.authorized.authorization ∨
        a.authorization.keyID ≠ a.authorized.keyID then
      .error "authorized capability does not match signed authorization"
    else if a.authorization.authorization.value.digest P.toCrypto ≠ .ok a.authorized.digest then
      .error "authorized digest does not match signed authorization"
    else if a.authorized.claimedAt ≤ 0 ∨ a.preparedAt ≤ 0 ∨ a.preparedAt < a.authorized.claimedAt then
      .error "authorization claim or preparation time is invalid"
    else
      match a.prepared.validate P with
      | .error err => .error ("prepared transaction: " ++ err)
      | .ok () => a.validateState P

/-! ## The journal -/

/-- `attemptJournalVersion` (attempt_journal.go:25). -/
def attemptJournalVersion : ℤ := 1

/-- `math.MaxUint64`. -/
def maxUint64 : ℕ := 2 ^ 64 - 1

/-- The largest payload of an event (attempt_journal.go:197). -/
def maxPayload : ℕ := 2 ^ 20

/-- The buffer of the scanner (attempt_journal.go:126). -/
def maxAttemptLine : ℕ := 2 * 2 ^ 20

/-- `AttemptJournal` (attempt_journal.go:49). -/
structure AttemptJournal where
  sequence : ℕ := 0
  attempts : Dict String Attempt := ∅
  lastHash : String := ""
  fault : Option String := none

/-- `attemptEventHash` (attempt_journal.go:173). -/
def attemptEventHash (input : AttemptHashInput) : String := (P.eventSHA256 input).val

/-- `validateAttemptEvent` (attempt_journal.go:155). The payload is never empty. -/
def validateAttemptEvent (e : AttemptEvent) (sequence : ℕ) (previousHash : String) :
    Except String Unit :=
  if e.version ≠ attemptJournalVersion ∨ e.sequence ≠ sequence ∨ e.eventAt.isZero ∨
      identifierPattern e.authorizationID = false then .error "attempt journal event fields are invalid"
  else if e.previousHash ≠ previousHash then .error "attempt journal hash chain is broken"
  else if e.hash ≠ attemptEventHash P e.toAttemptHashInput then
    .error "attempt journal event hash does not match content"
  else .ok ()

/-- `sameAttemptIdentity` (attempt_journal.go:268). -/
def sameAttemptIdentity (current next : Attempt) : Bool :=
  if current.authorization ≠ next.authorization ∨ current.authorized ≠ next.authorized ∨
      current.preparedAt ≠ next.preparedAt ∨ current.prepared ≠ next.prepared then false
  else if current.broadcastAt ≠ 0 ∧ current.broadcastAt ≠ next.broadcastAt then false
  else if current.receipt ≠ none ∧
      (current.receipt ≠ next.receipt ∨ current.receiptPublicKeyB64 ≠ next.receiptPublicKeyB64) then false
  else true

/-- The transitions of `validateTransition` (attempt_journal.go:259-261). -/
def validStates (current next : AttemptState) : Prop :=
  (current = .prepared ∧ next = .broadcasting) ∨
    (current = .broadcasting ∧ (next = .submitted ∨ next = .ambiguous)) ∨
    ((current = .submitted ∨ current = .ambiguous) ∧ next = .registered)
deriving Decidable

/-- `validateTransition` (attempt_journal.go:247). -/
def AttemptJournal.validateTransition (j : AttemptJournal) (authorizationID : String) (next : Attempt) :
    Except Err Unit :=
  match j.attempts.lookup authorizationID with
  | none =>
    if next.state ≠ .prepared then .error (.message "first signer attempt state must be PREPARED")
    else .ok ()
  | some current =>
    if sameAttemptIdentity current next = false then .error .attemptConflict
    else if ¬validStates current.state next.state then
      .error (.message "invalid signer attempt transition")
    else .ok ()

/-- `apply` (attempt_journal.go:285). -/
def AttemptJournal.apply (j : AttemptJournal) (authorizationID : String) (attempt : Attempt) :
    Except Err AttemptJournal :=
  match attempt.validate P with
  | .error err => .error (.message err)
  | .ok () =>
    if attempt.authorized.authorization.value.authorizationID ≠ authorizationID then
      .error (.message "attempt authorization ID does not match journal key")
    else
      (j.validateTransition authorizationID attempt).bind fun () =>
        .ok { j with attempts := j.attempts.insert authorizationID attempt }

/-- The event that `Append` builds (attempt_journal.go:214-218). -/
def AttemptJournal.eventOf (j : AttemptJournal) (eventAt : Time) (attempt : Attempt) :
    AttemptEvent :=
  let input : AttemptHashInput :=
    { version := attemptJournalVersion, sequence := j.sequence + 1, eventAt := eventAt.utc
      authorizationID := attempt.authorized.authorization.value.authorizationID
      previousHash := j.lastHash, payload := attempt.record }
  { toAttemptHashInput := input, hash := attemptEventHash P input }

/-- The part of `Append` before the write (attempt_journal.go:185-226). -/
def AttemptJournal.admits (j : AttemptJournal) (canceled : Bool) (eventAt : Time)
    (attempt : Attempt) : Except Err AttemptEvent :=
  let authorizationID := attempt.authorized.authorization.value.authorizationID
  let e := j.eventOf P eventAt attempt
  if canceled then .error (.message "context canceled")
  else
    match attempt.validate P with
    | .error err => .error (.message err)
    | .ok () =>
      if maxPayload < P.payloadLength attempt.record then
        .error (.message "signer attempt event exceeds 1 MiB")
      else if j.fault ≠ none then .error (.message "signer attempt journal is faulted")
      else if j.sequence = maxUint64 then
        .error (.message "signer attempt journal sequence exhausted")
      else
        (j.validateTransition authorizationID attempt).bind fun () =>
          if e.eventAt.marshals = false then
            .error (.message "Time.MarshalJSON: year outside of range [0,9999]")
          else
            match validateAttemptEvent P e e.sequence j.lastHash with
            | .error err => .error (.message ("validate signer attempt event: " ++ err))
            | .ok () => .ok e

/-- What the file makes of a line: it is written and synced, or that fails, with or without
the line in the file. -/
inductive WriteResult where
  | synced
  | failed (stored : Bool) (err : String)
deriving DecidableEq

/-- `Append` (attempt_journal.go:185) on an open journal: its result, the journal, and the
event that is in the file afterwards. -/
def AttemptJournal.append (j : AttemptJournal) (canceled : Bool) (eventAt : Time)
    (attempt : Attempt) (write : WriteResult) :
    Except Err Attempt × AttemptJournal × Option AttemptEvent :=
  match j.admits P canceled eventAt attempt with
  | .error err => (.error err, j, none)
  | .ok e =>
    match write with
    | .failed stored err =>
      (.error (.message err), { j with fault := some err }, if stored then some e else none)
    | .synced =>
      match j.apply P e.authorizationID attempt with
      | .error err => (.error err, { j with fault := some "apply" }, some e)
      | .ok j' => (.ok attempt, { j' with sequence := e.sequence, lastHash := e.hash }, some e)

/-- A line of `replay` (attempt_journal.go:127-148). -/
def AttemptJournal.replayEvent (j : AttemptJournal) (e : AttemptEvent) :
    Except Err AttemptJournal :=
  if j.sequence = maxUint64 then .error (.message "signer attempt journal sequence exhausted")
  else
    match validateAttemptEvent P e (j.sequence + 1) j.lastHash with
    | .error err => .error (.message err)
    | .ok () =>
      (j.apply P e.authorizationID (e.payload.decode e.sequence)).bind fun j' =>
        .ok { j' with sequence := e.sequence, lastHash := e.hash }

/-- What is handed to an `Append` that succeeds. -/
structure AppendInput where
  eventAt : Time
  attempt : Attempt

def attemptFile (codec : Codec AttemptEvent) :
    FileJournal AppendInput AttemptEvent AttemptJournal where
  codec := codec
  limit := maxAttemptLine
  init := {}
  replay j e := (j.replayEvent P e).toOption
  append j i :=
    match j.append P false i.eventAt i.attempt .synced with
    | (.ok _, j', some e) => some (e, j')
    | _ => none

end

/-! ## What the checks give -/

section

variable {P : Primitives} {j j' : AttemptJournal} {a : Attempt} {e : AttemptEvent} {id : String}
  {canceled : Bool} {eventAt : Time}

@[simp] lemma record_authorization : a.record.authorization.authorization =
    a.authorization.authorization.value := rfl
@[simp] lemma record_authorized : a.record.authorized.authorization =
    a.authorized.authorization.value := rfl
@[simp] lemma record_prepared : a.record.prepared = a.prepared := rfl
@[simp] lemma record_state : a.record.state = a.state := rfl

lemma decodeAuthorization_value (n : ℕ) (v : Authorization) : (decodeAuthorization n v).value = v := by
  unfold decodeAuthorization
  split <;> rfl

@[simp] lemma record_decode (n : ℕ) (r : AttemptRecord) : (r.decode n).record = r := by
  simp [AttemptOf.record, AttemptOf.decode, AttemptOf.map, decodeAuthorization_value]

lemma HeldAuthorization.eq_of_no_escrow {x y : HeldAuthorization} (h : x.value = y.value)
    (hnone : x.value.escrow = none) : x = y := by
  have haddress : x.escrowAt = y.escrowAt :=
    (x.nil_iff.mpr hnone).trans (y.nil_iff.mpr (h ▸ hnone)).symm
  cases x
  cases y
  cases h
  cases haddress
  rfl

lemma decode_record (n : ℕ) (h : a.authorization.authorization.value.escrow = none)
    (heq : a.authorization.authorization = a.authorized.authorization) : a.record.decode n = a := by
  have hheld : ∀ (m : ℕ) (x : HeldAuthorization), x.value.escrow = none →
      decodeAuthorization m x.value = x := by
    intro m x hx
    refine HeldAuthorization.eq_of_no_escrow (decodeAuthorization_value m x.value) ?_
    rw [decodeAuthorization_value]
    exact hx
  simp only [AttemptOf.decode, AttemptOf.record, AttemptOf.map, hheld _ _ h, hheld _ _ (heq ▸ h)]

lemma decode_escrow {n : ℕ} {r : AttemptRecord}
    (h : (r.decode n).authorization.authorization = (r.decode n).authorized.authorization) :
    r.authorization.authorization.escrow = none := by
  by_contra hsome
  have hvalue : r.authorization.authorization = r.authorized.authorization := by
    simpa [AttemptOf.decode, AttemptOf.map, decodeAuthorization_value] using
      congrArg HeldAuthorization.value h
  have haddress := congrArg HeldAuthorization.escrowAt h
  simp [AttemptOf.decode, AttemptOf.map, decodeAuthorization, ← hvalue, hsome] at haddress

lemma validate_ok (h : a.validate P = .ok ()) :
    a.authorization.authorization = a.authorized.authorization ∧
      a.authorization.authorization.value.validate P.toCrypto = .ok () ∧ a.prepared.validate P = .ok () ∧
      a.validateState P = .ok () := by
  unfold AttemptOf.validate at h
  split at h
  · cases h
  · rename_i hvalid
    simp only [guard_ok, not_or, not_not] at h
    obtain ⟨⟨hsame, -⟩, -, -, h⟩ := h
    split at h
    · cases h
    · rename_i hprepared
      exact ⟨hsame, hvalid, hprepared, h⟩

lemma PreparedTransaction.validate_hash {p : PreparedTransaction} (h : p.validate P = .ok ()) :
    p.transactionHash = (P.rawKeccak256 p.rawTransaction).hash := by
  simp only [validate, guard_ok, not_not] at h
  exact h.2.2.2.1

lemma validateTransition_ok {next : Attempt} : j.validateTransition id next = .ok () ↔
      (j.attempts.lookup id = none ∧ next.state = .prepared) ∨
        ∃ current, j.attempts.lookup id = some current ∧ sameAttemptIdentity current next ∧
          validStates current.state next.state := by
  unfold AttemptJournal.validateTransition
  cases j.attempts.lookup id <;> simp

lemma apply_ok : j.apply P id a = .ok j' ↔
    a.validate P = .ok () ∧ a.authorized.authorization.value.authorizationID = id ∧
      j.validateTransition id a = .ok () ∧ j' = { j with attempts := j.attempts.insert id a } := by
  unfold AttemptJournal.apply
  cases a.validate P with
  | error err => simp
  | ok u =>
    simp only [guard_ok, not_not, bind_unit_eq_ok, true_and, Except.ok.injEq]
    rw [eq_comm (a := j')]

lemma admit_ok (h : j.admits P canceled eventAt a = .ok e) :
    e = j.eventOf P eventAt a ∧ a.validate P = .ok () ∧ P.payloadLength a.record ≤ maxPayload ∧
      j.fault = none ∧ j.sequence ≠ maxUint64 ∧
      j.validateTransition a.authorized.authorization.value.authorizationID a = .ok () ∧
      validateAttemptEvent P e (j.sequence + 1) j.lastHash = .ok () := by
  simp only [AttemptJournal.admits, guard_ok] at h
  obtain ⟨-, h⟩ := h
  split at h
  · cases h
  · rename_i hvalid
    simp only [guard_ok, bind_unit_eq_ok, not_lt, not_not] at h
    obtain ⟨hlength, hfault, hsequence, htransition, -, h⟩ := h
    split at h
    · cases h
    · rename_i hevent
      cases h
      exact ⟨rfl, hvalid, hlength, hfault, hsequence, htransition, hevent⟩

lemma admit_apply (h : j.admits P canceled eventAt a = .ok e) : j.apply P e.authorizationID a =
      .ok { j with attempts := j.attempts.insert e.authorizationID a } := by
  obtain ⟨rfl, hvalid, -, -, -, htransition, -⟩ := admit_ok h
  exact apply_ok.mpr ⟨hvalid, rfl, htransition, rfl⟩

lemma append_ok {a' : Attempt} {written : Option AttemptEvent} {write : WriteResult}
    (h : j.append P canceled eventAt a write = (.ok a', j', written)) : ∃ e,
      j.admits P canceled eventAt a = .ok e ∧ a' = a ∧ written = some e ∧
        j' = { j with
          attempts := j.attempts.insert e.authorizationID a
          sequence := e.sequence
          lastHash := e.hash } := by
  unfold AttemptJournal.append at h
  split at h
  · cases h
  · rename_i e hadmits
    cases write with
    | failed stored err => cases h
    | synced =>
      rw [admit_apply hadmits] at h
      cases h
      exact ⟨e, hadmits, rfl, rfl, rfl⟩

/-! ## Reading an event back -/

lemma replayEvent_of_append (h : j.admits P canceled eventAt a = .ok e)
    (hnone : a.authorization.authorization.value.escrow = none) :
    j.replayEvent P e = .ok { j with
      attempts := j.attempts.insert e.authorizationID a
      sequence := e.sequence
      lastHash := e.hash } := by
  have happly := admit_apply h
  obtain ⟨rfl, hvalid, -, -, hsequence, -, hevent⟩ := admit_ok h
  have hdecode := decode_record (j.sequence + 1) hnone (validate_ok hvalid).1
  unfold AttemptJournal.replayEvent
  rw [if_neg hsequence, hevent]
  simp only [AttemptJournal.eventOf] at happly ⊢
  rw [hdecode, happly]
  rfl

lemma replayEvent_ok (h : j.replayEvent P e = .ok j') :
    validateAttemptEvent P e (j.sequence + 1) j.lastHash = .ok () ∧ ∃ j₁,
      j.apply P e.authorizationID (e.payload.decode e.sequence) = .ok j₁ ∧
        j' = { j₁ with sequence := e.sequence, lastHash := e.hash } := by
  unfold AttemptJournal.replayEvent at h
  rw [guard_ok] at h
  obtain ⟨-, h⟩ := h
  split at h
  · cases h
  · rename_i hevent
    obtain ⟨j₁, happly, h⟩ := bind_eq_ok.mp h
    exact ⟨hevent, j₁, happly, (Except.ok.inj h).symm⟩

lemma replayEvent_no_escrow (h : j.replayEvent P e = .ok j') :
    e.payload.authorization.authorization.escrow = none := by
  obtain ⟨-, j₁, happly, -⟩ := replayEvent_ok h
  exact decode_escrow (validate_ok (apply_ok.mp happly).1).1

end

/-! ## Reopening the journal -/

section

variable {P : Primitives} {codec : Codec AttemptEvent} {V : AttemptEvent → Prop}
  {j j' : AttemptJournal} {e : AttemptEvent} {es : List AttemptEvent} {i : AppendInput}
  {is : List AppendInput}

/-- The terms of what is appended. -/
def AppendInput.escrow (i : AppendInput) : Option EscrowTerms :=
  i.attempt.authorization.authorization.value.escrow

lemma attemptFile_append (h : (attemptFile P codec).append j i = some (e, j')) :
    j.admits P false i.eventAt i.attempt = .ok e ∧ j' = { j with
      attempts := j.attempts.insert e.authorizationID i.attempt
      sequence := e.sequence
      lastHash := e.hash } := by
  simp only [attemptFile] at h
  split at h
  · rename_i a' j₁ e₁ happend
    obtain ⟨rfl, rfl⟩ := Prod.mk.inj (Option.some.inj h)
    obtain ⟨e, hadmits, -, hwritten, hj⟩ := append_ok happend
    obtain rfl := Option.some.inj hwritten
    exact ⟨hadmits, hj⟩
  · cases h

lemma attemptFile_append_of_admit (h : j.admits P false i.eventAt i.attempt = .ok e) :
    (attemptFile P codec).append j i = some (e, { j with
      attempts := j.attempts.insert e.authorizationID i.attempt
      sequence := e.sequence
      lastHash := e.hash }) := by
  simp only [attemptFile, AttemptJournal.append, h, admit_apply h]

lemma attemptFile_readsBack : (attemptFile P codec).ReadsBack fun i => i.escrow = none := by
  intro j i e j' h
  obtain ⟨hadmits, rfl⟩ := attemptFile_append h
  show (j.replayEvent P e).toOption = _
  split_ifs with hnone
  · rw [replayEvent_of_append hadmits hnone]
    rfl
  · cases hreplay : j.replayEvent P e with
    | error err => rfl
    | ok j₁ =>
      have he := replayEvent_no_escrow hreplay
      obtain ⟨rfl, -⟩ := admit_ok hadmits
      exact absurd he hnone

lemma attemptFile_fits
    (hsize : ∀ e, V e → (codec.encode e).length < P.payloadLength e.payload + 2 ^ 20)
    (h : (attemptFile P codec).append j i = some (e, j')) (he : V e) : (attemptFile P codec).Fits e := by
  obtain ⟨rfl, -, hlength, -⟩ := admit_ok (attemptFile_append h).1
  have hpayload : P.payloadLength (j.eventOf P i.eventAt i.attempt).payload ≤ 2 ^ 20 := hlength
  calc (codec.encode (j.eventOf P i.eventAt i.attempt)).length
      < P.payloadLength (j.eventOf P i.eventAt i.attempt).payload + 2 ^ 20 := hsize _ he
    _ ≤ 2 * 2 ^ 20 := by omega

/-- Closing the journal after any run of appends and opening it again: it opens with the
attempts that were live, by value, if and only if no attempt had escrow terms. The texts of
an attempt are of type `String`, so they are valid UTF-8, and `hcodec` and `hsize` say what
JSON gives for the events of such attempts; it does not give back other bytes. -/
theorem attempts_reopen_iff (hcodec : codec.Lawful (· ∈ es))
    (hsize : ∀ e ∈ es, (codec.encode e).length < P.payloadLength e.payload + 2 ^ 20)
    (happend : (attemptFile P codec).appendAll {} is = some (es, j)) :
    (∃ j', (attemptFile P codec).load ((attemptFile P codec).contents es) = some (es, j') ∧
        ∀ id, (j'.attempts.lookup id).map AttemptOf.record =
          (j.attempts.lookup id).map AttemptOf.record) ↔
      ∀ i ∈ is, i.escrow = none := by
  have hreplay := attemptFile_readsBack.replayAll happend
  have hfits := FileJournal.appendAll_forall (Q := fun e => e ∈ es → (attemptFile P codec).Fits e)
    (fun _ _ _ _ => attemptFile_fits hsize) happend
  simp only [FileJournal.load_contents (J := attemptFile P codec) hcodec fun _ he => he, true_and]
  constructor
  · rintro ⟨j', ⟨-, hj'⟩, -⟩
    by_contra hsome
    rw [show (attemptFile P codec).init = {} from rfl, hreplay, if_neg hsome] at hj'
    cases hj'
  · intro hnone
    exact ⟨j, ⟨fun e he => hfits e he he, hreplay.trans (if_pos hnone)⟩, fun _ => rfl⟩

end

namespace Example

def zeros : Hex64 := .sample 0

def ones : Hex64 := .sample 1

def primitives : Primitives where
  authorizationSHA256 _ := zeros
  executionSHA256 _ := zeros
  callKeccak256 _ _ _ _ _ := ones
  ed25519Verify _ _ _ _ := true
  rawKeccak256 _ := zeros
  eventSHA256 _ := zeros
  payloadLength _ := 1000
  ed25519VerifyAuthorization _ _ _ := true
  ed25519SignReceipt _ _ := "0x" ++ zeros.val ++ zeros.val

def terms : EscrowTerms where
  contract := "0x3333333333333333333333333333333333333333"
  buyer := "0x4444444444444444444444444444444444444444"
  provider := "0x1111111111111111111111111111111111111111"
  callID := ones.hash
  taskDigest := ones.hash
  requestDigest := ones.hash
  acknowledgeBy := 2000
  deliverBy := 3000
  releaseWindow := 60

def authorization (escrow : Option EscrowTerms) : Authorization where
  version := "flowops.authorization.v1"
  authorizationID := "authorization"
  organizationID := "org"
  customerID := "customer"
  agentID := "agent"
  taskID := "task"
  actionID := "action"
  rail := if escrow = none then .direct else .escrow
  chainID := 8453
  recipient := "0x1111111111111111111111111111111111111111"
  asset := "0x2222222222222222222222222222222222222222"
  amountAtomic := "60"
  resource := "resource"
  policyVersion := "v1"
  nonce := zeroHash
  issuedAt := 1000
  expiresAt := 1060
  escrow

/-- The attempt of the executor: both copies of the authorization have the same terms. -/
def preparedAttempt (escrow : Option EscrowTerms) : Attempt where
  authorization := ⟨decodeAuthorization 0 (authorization escrow), "key", "signature"⟩
  authorized := ⟨decodeAuthorization 0 (authorization escrow), zeros.hash, "key", 1001⟩
  prepared := ⟨[1], zeros.hash, "0x4444444444444444444444444444444444444444"⟩
  state := .prepared
  preparedAt := 1002

def appended (escrow : Option EscrowTerms) : AppendInput := ⟨⟨1, 0⟩, preparedAttempt escrow⟩

def event (escrow : Option EscrowTerms) : AttemptEvent :=
  AttemptJournal.eventOf primitives {} ⟨1, 0⟩ (preparedAttempt escrow)

def codec (escrow : Option EscrowTerms) : Codec AttemptEvent := Codec.numbered [event escrow]

def journal (escrow : Option EscrowTerms) : AttemptJournal where
  sequence := 1
  attempts := (∅ : Dict String Attempt).insert "authorization" (preparedAttempt escrow)
  lastHash := (event escrow).hash

lemma append_event {escrow : Option EscrowTerms}
    (h : AttemptJournal.admits primitives {} false ⟨1, 0⟩ (preparedAttempt escrow) = .ok (event escrow)) :
    (attemptFile primitives (codec escrow)).appendAll {} [appended escrow] =
      some ([event escrow], journal escrow) := by
  have happend : (attemptFile primitives (codec escrow)).append {} (appended escrow) = _ :=
    attemptFile_append_of_admit h
  have hid : (event escrow).authorizationID = "authorization" := by cases escrow <;> rfl
  simp only [FileJournal.appendAll, happend, hid, Option.bind_some, Option.map_some]
  rfl

lemma admit_direct :
    AttemptJournal.admits primitives {} false ⟨1, 0⟩ (preparedAttempt none) = .ok (event none) := by
  decide

lemma admit_escrow :
    AttemptJournal.admits primitives {} false ⟨1, 0⟩ (preparedAttempt (some terms)) =
      .ok (event (some terms)) := by
  decide

end Example

open Example in
/-- A payment on the direct rail is there after a restart. -/
theorem attempts_reopen_direct : ∃ j', (attemptFile primitives (codec none)).load
        ((attemptFile primitives (codec none)).contents [event none]) = some ([event none], j') ∧
      ∀ id, (j'.attempts.lookup id).map AttemptOf.record =
        ((journal none).attempts.lookup id).map AttemptOf.record :=
  (attempts_reopen_iff (P := primitives) (Codec.numbered_lawful _)
    (fun e he => by cases List.mem_singleton.mp he; decide)
    (append_event admit_direct)).mpr
    fun i hi => by
      cases List.mem_singleton.mp hi
      rfl

open Example in
/-- After an attempt on the escrow rail the journal cannot be opened. -/
theorem escrow_attempt_not_reopened :
    (attemptFile primitives (codec (some terms))).appendAll {} [appended (some terms)] =
        some ([event (some terms)], journal (some terms)) ∧
      (attemptFile primitives (codec (some terms))).load
        ((attemptFile primitives (codec (some terms))).contents [event (some terms)]) = none := by
  refine ⟨append_event admit_escrow, Option.eq_none_iff_forall_ne_some.mpr fun ⟨rs, t⟩ hload => ?_⟩
  have hes : ∀ e ∈ [event (some terms)], e ∈ [event (some terms)] := fun _ h => h
  obtain ⟨-, -, hreplay⟩ := (FileJournal.load_contents (J := attemptFile primitives (codec (some terms)))
    (Codec.numbered_lawful _) hes).mp hload
  have hnone := attemptFile_readsBack.replayAll (append_event admit_escrow)
  rw [if_neg (by simp [appended, AppendInput.escrow, preparedAttempt, authorization, decodeAuthorization])] at hnone
  exact absurd (hreplay.symm.trans hnone) (by simp)

end FlowOps.Signer

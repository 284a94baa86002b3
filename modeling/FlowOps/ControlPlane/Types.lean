import FlowOps.Common.Dict
import FlowOps.Pkg.Envelope
import FlowOps.Pkg.PilotLimits

/-!
# Records of the control plane

`internal/controlplane/types.go` and the decision of `internal/policy/policy.go`: the
payment intent and its validation, the record of a request, and the events of its
lifecycle with their hash chain (journal.go:109-142).

The payload of an event is JSON that is decoded by the kind of the event. What the
lifecycle writes it also reads back unchanged, so an event holds the payload itself and
the kind is the constructor of `Body`.
-/

namespace FlowOps.ControlPlane

/-! ## Policy decisions -/

/-- `policy.Outcome` (policy.go:32). -/
inductive Outcome where
  | deny | requireApproval | autoApprove
  | other (name : String)
deriving DecidableEq

/-- `policy.Reason` (policy.go:40). -/
inductive Reason where
  | allowed | policyDisabled | unsupportedChain | unsupportedRail | assetNotAllowed
  | recipientNotAllowed | blockedCategory | invalidAmount | perActionLimit | taskBudget
  | dailyBudget | humanApprovalThreshold | railRequiresApproval | pilotPerActionLimit
  | pilotOutstandingLimit
  | other (name : String)
deriving DecidableEq

/-- `policy.Decision` (policy.go:101). -/
structure Decision where
  outcome : Outcome
  reason : Reason
  policyVersion : String
deriving DecidableEq

/-- `policy.SpendSnapshot` (policy.go:94). -/
structure SpendSnapshot where
  (taskSpentAtomic taskReservedAtomic dailySpentAtomic dailyReservedAtomic : String)

/-! ## Records -/

/-- `State` (types.go:20). -/
inductive State where
  | denied | pendingApproval | approved | rejected | issued | expired
deriving DecidableEq

/-- `PaymentIntent` (types.go:31). -/
structure PaymentIntent where
  (intentID organizationID customerID agentID taskID actionID : String)
  rail : Rail
  chainID : ℕ
  (recipient asset amountAtomic resource category purpose : String)
  escrow : Option EscrowTerms := none
deriving DecidableEq

/-- `ApprovalAction` (types.go:134). -/
inductive ApprovalAction where
  | approve | reject
  | other (name : String)
deriving DecidableEq

/-- `Approval` (types.go:141). -/
structure Approval where
  action : ApprovalAction
  (actor note requestDigest : String)
  decidedAt : ℤ
deriving DecidableEq

/-- `Record` (types.go:121). -/
structure Record where
  requestID : String
  intent : PaymentIntent
  (intentDigest requestDigest : String)
  decision : Decision
  state : State
  (submittedAt approvalExpiresAt : ℤ)
  approval : Option Approval := none
  authorization : Option Authorization := none
deriving DecidableEq

/-- `envelope.SignedAuthorization` (envelope.go:85). -/
structure SignedAuthorization where
  authorization : Authorization
  (keyID signature : String)
deriving DecidableEq

/-- The kind and payload of an event (lifecycle.go:20-25, types.go:149-163). -/
inductive Body where
  | submitted (record : Record)
  | approval (approval : Approval)
  | issued (authorization : Authorization)
  | expired (reason : String)
deriving DecidableEq

/-- `eventHashInput` (journal.go:41). -/
structure HashInput where
  version : ℤ
  sequence : ℕ
  atUnix : ℤ
  (requestID previousHash : String)
  body : Body
deriving DecidableEq

/-- `Event` (journal.go:21). -/
structure Event extends HashInput where
  hash : String
deriving DecidableEq

structure Primitives extends Crypto where
  /-- SHA-256 of `"flowops:payment-intent:v1\n"` and the JSON of an intent. -/
  intentSHA256 : PaymentIntent → Hex64
  /-- SHA-256 of `"flowops:approval-request:v1\n"` and the JSON of the request: its id, the
      digest of its intent, the decision and the end of the approval window. -/
  requestSHA256 : String → String → Decision → ℤ → Hex64
  /-- SHA-256 of the JSON of an event. -/
  eventSHA256 : HashInput → Hex64
  /-- `ed25519.Sign` of the digest of an authorization, as `0x`-prefixed hex. -/
  ed25519Sign : Authorization → String

inductive Err where
  | unknownRequest | idempotencyConflict | notPendingApproval | notApproved | approvalDigest
  | approvalExpired | journalStale
  | policyChanged (approved active : String)
  | message (text : String)
  | wrapped (context : String) (err : Err)
deriving DecidableEq

/-! ## Validation and digests -/

/-- `canonicalPositiveInteger` (types.go:220). -/
def canonicalPositiveInteger (value : String) : Bool :=
  match value.toList with
  | [] => false
  | c :: cs => c ≠ '0' && (c :: cs).all Char.isDigit

/-- `strings.TrimSpace(s) == "" || len(s) > n`. -/
def textInvalid (s : String) (n : ℕ) : Prop := s.toList.all isSpace ∨ n < s.utf8ByteSize
deriving Decidable

/-- `PaymentIntent.Validate` (types.go:49). The loops range over Go maps, so which of
several invalid fields is named is not determined. `envelope.NormalizeAddress` returns
its argument exactly if that matches `addressPattern`. -/
def PaymentIntent.validate (P : Crypto) (i : PaymentIntent) : Except Err Unit :=
  if [i.intentID, i.organizationID, i.customerID, i.agentID, i.taskID, i.actionID].all
      identifierPattern = false then .error (.message "identifier is invalid")
  else if i.rail ≠ .x402 ∧ i.rail ≠ .direct ∧ i.rail ≠ .escrow then
    .error (.message "rail is unsupported")
  else if i.rail = .escrow ∧ i.escrow = none then
    .error (.message "escrow terms are required for the escrow rail")
  else if i.rail = .escrow ∧
      i.escrow.any (fun t => (t.validate P i.chainID i.recipient).toBool = false) then
    .error (.message "escrow: invalid terms")
  else if i.rail ≠ .escrow ∧ i.escrow ≠ none then
    .error (.message "escrow terms are forbidden on non-escrow rails")
  else if i.chainID = 0 then .error (.message "chainId must be positive")
  else if addressPattern i.recipient = false ∨ addressPattern i.asset = false then
    .error (.message "recipient and asset must be canonical lowercase EVM addresses")
  else if canonicalPositiveInteger i.amountAtomic = false then
    .error (.message "amountAtomic must be a canonical positive integer")
  else if textInvalid i.resource 2048 then
    .error (.message "resource must contain 1 to 2048 non-whitespace characters")
  else if textInvalid i.category 128 then
    .error (.message "category must contain 1 to 128 non-whitespace characters")
  else if textInvalid i.purpose 1024 then
    .error (.message "purpose must contain 1 to 1024 non-whitespace characters")
  else .ok ()

section

variable (P : Primitives)

/-- `PaymentIntent.Digest` (types.go:108). -/
def PaymentIntent.digest (i : PaymentIntent) : Except Err String :=
  (i.validate P.toCrypto).bind fun () => .ok (P.intentSHA256 i).hash

/-- `requestDigest` (types.go:169). -/
def requestDigest (requestID intentDigest : String) (decision : Decision) (expiresAt : ℤ) :
    String := (P.requestSHA256 requestID intentDigest decision expiresAt).hash

/-- `decisionState` (types.go:185). -/
def decisionState (decision : Decision) : Except Err State :=
  match decision.outcome with
  | .deny => .ok .denied
  | .requireApproval => .ok .pendingApproval
  | .autoApprove => .ok .approved
  | .other _ => .error (.message "unsupported policy outcome")

/-- `envelope.Sign` (envelope.go:255) with a key that `New` has checked. -/
def sign (keyID : String) (a : Authorization) : Except Err SignedAuthorization :=
  match a.validate P.toCrypto with
  | .error e => .error (.message e)
  | .ok () => .ok ⟨a, keyID, P.ed25519Sign a⟩

/-! ## Events -/

/-- `journalVersion` (journal.go:19). -/
def journalVersion : ℤ := 1

/-- `hashEvent` (journal.go:135). -/
def hashEvent (input : HashInput) : String := (P.eventSHA256 input).val

/-- `validateEvent` (journal.go:109). Kind and payload are never empty. -/
def validateEvent (e : Event) (expectedSequence : ℕ) (previousHash : String) : Except Err Unit :=
  if e.version ≠ journalVersion then .error (.message "version is unsupported")
  else if e.sequence ≠ expectedSequence then .error (.message "sequence")
  else if e.atUnix ≤ 0 ∨ e.requestID = "" then .error (.message "required event field is empty")
  else if e.previousHash ≠ previousHash then
    .error (.message "previous hash does not match journal chain")
  else if e.hash ≠ hashEvent P e.toHashInput then
    .error (.message "event hash does not match content")
  else .ok ()

/-- The hash of the last event, empty for none. -/
def lastHash (events : List Event) : String := (events.getLast?.map (·.hash)).getD ""

/-- What an operation hands to `Append`. -/
structure Draft where
  time : Time
  requestID : String
  body : Body

/-- The event that `Append` builds after these events (journal.go:163-170,
postgres_journal.go:103-110). -/
def eventOf (events : List Event) (d : Draft) : Event :=
  let input : HashInput :=
    { version := journalVersion, sequence := events.length + 1, atUnix := d.time.unix
      requestID := d.requestID, previousHash := lastHash events, body := d.body }
  { toHashInput := input, hash := hashEvent P input }

end

/-- `Append` of an `EventJournal` that holds these events. It can fail for reasons of its
own: a cancelled context, a closed or faulted journal, a write that is not durable. -/
def append (P : Primitives) (events : List Event) (failure : Option String) (d : Draft) :
    Except Err Event :=
  match failure with
  | some text => .error (.message text)
  | none =>
    if d.requestID.toList.any (fun c => c = '\r' || c = '\n' || c = '\t') then
      .error (.message "event kind or request ID is invalid")
    else
      let e := eventOf P events d
      match validateEvent P e e.sequence (lastHash events) with
      | .error err => .error (.wrapped "validate event before append" err)
      | .ok () => .ok e

/-! ## What accepted values satisfy -/

section

variable {P : Primitives} {i : PaymentIntent} {events : List Event} {failure : Option String}
  {d : Draft} {e : Event}

lemma PaymentIntent.digest_eq_ok {digest : String} : i.digest P = .ok digest ↔
      i.validate P.toCrypto = .ok () ∧ (P.intentSHA256 i).hash = digest := by
  rw [PaymentIntent.digest, bind_unit_eq_ok, Except.ok.injEq]

lemma canonicalPositiveInteger_digits {value : String} (h : canonicalPositiveInteger value) :
    digitsOnly value.toList := by
  unfold canonicalPositiveInteger at h
  split at h
  · cases h
  · rename_i c cs hs
    rw [hs, digitsOnly]
    simp only [Bool.and_eq_true] at h
    simpa using h.2

lemma PaymentIntent.amount (h : i.validate P.toCrypto = .ok ()) :
    setString i.amountAtomic = some (natOfDigits i.amountAtomic.toList : ℤ) := by
  simp only [validate, guard_ok, Bool.not_eq_false] at h
  exact setString_of_digits (canonicalPositiveInteger_digits h.2.2.2.2.2.2.2.1)

lemma sign_eq_ok {keyID : String} {a : Authorization} {signed : SignedAuthorization} :
    sign P keyID a = .ok signed ↔
      a.validate P.toCrypto = .ok () ∧ signed = ⟨a, keyID, P.ed25519Sign a⟩ := by
  unfold sign
  cases a.validate P.toCrypto <;> simp [eq_comm]

/-- An event is appended after the ones that are there, with the time in seconds. -/
lemma append_ok (h : append P events failure d = .ok e) : e = eventOf P events d ∧ 0 < e.atUnix ∧
      validateEvent P e (events.length + 1) (lastHash events) = .ok () := by
  unfold append at h
  split at h
  · cases h
  · obtain ⟨-, h⟩ := guard_ok.mp h
    dsimp only at h
    split at h
    · cases h
    · rename_i hvalid
      cases h
      refine ⟨rfl, ?_, hvalid⟩
      simp only [validateEvent, guard_ok, not_or, not_le] at hvalid
      exact hvalid.2.2.1.1

@[simp] lemma eventOf_atUnix : (eventOf P events d).atUnix = d.time.unix := rfl
@[simp] lemma eventOf_requestID : (eventOf P events d).requestID = d.requestID := rfl
@[simp] lemma eventOf_body : (eventOf P events d).body = d.body := rfl

end

end FlowOps.ControlPlane

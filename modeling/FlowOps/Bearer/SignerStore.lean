import FlowOps.Bearer.Activation
import FlowOps.Common.Transactions
import FlowOps.Signer.Attempts

/-!
# The signer store

`internal/ascpbearer/handle.go`, the state machine of prepared handles in the isolated signer, and
`OpenFileSignerStoreContext` of `ledger_file.go`, which builds it from the ledger. A store without a
journal keeps its handles in memory only. Every call holds the lock of the store from its first
look at a record to its last write, so calls run one after another.

What the collaborators answer is an input of the call: the verifier, the random source, the context,
the clock and the file. The cipher is a value, with the one law that the store relies on. The ledger
is the list of its events: a write that fails leaves its whole line in the file, or nothing of it.
-/

namespace FlowOps.Bearer

open Signer (WriteResult)

/-- `PrepareInput` (handle.go:59). -/
structure PrepareInput where
  (requestID authorizationID reservationID actionID operationID signerRequestHash : String)
  (canonicalPayloadHash digest nonce signerKeyID : String)
  keyEpoch : ℕ
  keeperID : String
  (validAfter validUntil : Time)
  signature : Bytes
deriving DecidableEq

/-- `ArtifactCipher` (handle.go:95), with the nonce that `Encrypt` draws as its first argument and the
associated data as the second. -/
structure ArtifactCipher where
  encrypt : Bytes → Bytes → Bytes → Bytes
  decrypt : Bytes → Bytes → Option Bytes
  decrypt_encrypt : ∀ nonce aad plaintext, decrypt aad (encrypt nonce aad plaintext) = some plaintext

/-- What a signer is built with: the hash of the ledger, the cipher, the text of a time and the digest
of a proof. -/
structure SignerBoundary where
  ledger : Primitives
  cipher : ArtifactCipher
  rfc3339Nano : Time → String
  unactivatedProofDigest : UnactivatedProof → Option String

/-- `SignerStore` (handle.go:108). -/
structure SignerStore where
  byID : Dict String SignerRecord := ∅
  byAction : Dict String String := ∅
  journal : Option SignerJournal := none

/-- What a call finds outside the store: the clock, the context, the identifiers and the nonce that are
drawn, whether the cipher is there, the answer of the verifier, and the file. -/
structure HandleEnv where
  now : Time
  canceled : Bool
  draw : ℕ → Except String String
  nonce : Except String Bytes
  (decryption verifier : Except String Unit)
  write : WriteResult

/-- What a call does that matters outside the store: it makes a handle of an artifact, the verifier
accepts an activation, and an artifact is handed out. -/
inductive HandleEvent where
  | prepared (id : String) (input : PrepareInput)
  | verified (handle : Handle) (proof : ActivationProof)
  | released (keeperID : String) (now : Time) (handle : Handle) (artifact : Bytes)
deriving DecidableEq

/-- The result of a call, the store it leaves, what it adds to the ledger, and its events. -/
structure HandleOutcome (α : Type) where
  result : Except Err α
  store : SignerStore
  written : Option LedgerEvent := none
  events : List HandleEvent := []

/-! ## Helpers -/

/-- `ErrKeeper` (handle.go:34). -/
def errKeeper : Err := .message "prepared artifact release is not authorized for this keeper"

/-- `signerActionKey` (handle.go:425). -/
def signerActionKey (operationID actionID : String) : String := operationID ++ "\n" ++ actionID

section

variable (B : SignerBoundary)

/-- `artifactAAD` (handle.go:416). -/
def artifactAAD (h : Handle) : Bytes :=
  ("\n".intercalate ["ASCP_SIGNER_ARTIFACT_V2", h.id, h.requestID, h.authorizationID, h.reservationID,
    h.actionID, h.operationID, h.signerRequestHash, h.canonicalPayloadHash, h.digest, h.nonce,
    h.signerKeyID, toString h.keyEpoch, h.keeperID, B.rfc3339Nano h.validAfter.utc,
    B.rfc3339Nano h.validUntil.utc]).toUTF8.toList

/-- `samePrepareBinding` (handle.go:395). -/
def samePrepareBinding (handle : Handle) (input : PrepareInput) : Bool :=
  handle.requestID = input.requestID && handle.authorizationID = input.authorizationID &&
    handle.reservationID = input.reservationID && handle.actionID = input.actionID &&
    handle.operationID = input.operationID && handle.signerRequestHash = input.signerRequestHash &&
    handle.canonicalPayloadHash = input.canonicalPayloadHash && handle.digest = input.digest &&
    handle.nonce = input.nonce && handle.signerKeyID = input.signerKeyID &&
    handle.keyEpoch = input.keyEpoch && handle.keeperID = input.keeperID &&
    handle.validAfter.ns = input.validAfter.ns && handle.validUntil.ns = input.validUntil.ns

/-- The times in UTC (handle.go:134). -/
def PrepareInput.utc (input : PrepareInput) : PrepareInput :=
  { input with validAfter := input.validAfter.utc, validUntil := input.validUntil.utc }

/-- The time in UTC (handle.go:224). -/
def ActivationProof.utc (proof : ActivationProof) : ActivationProof :=
  { proof with activationOccurredAt := proof.activationOccurredAt.utc }

/-- The check of `Prepare` (handle.go:135-142). -/
def PrepareInput.valid (input : PrepareInput) (now : Time) : Bool :=
  [input.requestID, input.authorizationID, input.reservationID, input.operationID,
      input.signerRequestHash, input.canonicalPayloadHash, input.digest, input.nonce].all hash &&
    [input.actionID, input.signerKeyID, input.keeperID].all identifierPattern &&
    input.keyEpoch ≠ 0 && !input.validAfter.before (now.add (-minute)) &&
    !input.validAfter.after (now.add minute) && input.validAfter.before input.validUntil &&
    now.before input.validUntil &&
    decide (input.validUntil.sub input.validAfter ≤ maximumAuthorizationWindow) &&
    decide (64 ≤ input.signature.length) && decide (input.signature.length ≤ 16 * 1024)

/-- The handle that `Prepare` makes (handle.go:174-181). -/
def PrepareInput.handle (input : PrepareInput) (id : String) : Handle :=
  { id
    requestID := input.requestID, authorizationID := input.authorizationID
    reservationID := input.reservationID, actionID := input.actionID, operationID := input.operationID
    signerRequestHash := input.signerRequestHash, canonicalPayloadHash := input.canonicalPayloadHash
    digest := input.digest, nonce := input.nonce, signerKeyID := input.signerKeyID
    keyEpoch := input.keyEpoch, keeperID := input.keeperID, validAfter := input.validAfter
    validUntil := input.validUntil, state := .prepared, outcome := "" }

/-- The time is in `[ValidAfter, ValidUntil)`. -/
def Handle.inWindow (h : Handle) (now : Time) : Bool := !now.before h.validAfter && now.before h.validUntil

def SignerBoundary.decryptRecord (B : SignerBoundary) (decryption : Except String Unit)
    (record : SignerRecord) : Except Err Bytes :=
  match decryption with
  | .error err => .error (.message err)
  | .ok () =>
    match B.cipher.decrypt (artifactAAD B record.handle) record.encrypted with
    | none => .error (.message "cipher: message authentication failed")
    | some artifact => .ok artifact

/-- The loop of `Prepare` over new identifiers (handle.go:161-170), which start with `asph_`. -/
def SignerStore.freshID (s : SignerStore) (draw : ℕ → Except String String) :
    List ℕ → Except Err String
  | [] => .error (.message "generate unique opaque prepared handle")
  | attempt :: rest =>
    match draw attempt with
    | .error err => .error (.message err)
    | .ok text =>
      if (s.byID.lookup ("asph_" ++ text)).isSome then s.freshID draw rest
      else .ok ("asph_" ++ text)

def SignerStore.refuse {α : Type} (s : SignerStore) (err : Err) : HandleOutcome α := ⟨.error err, s, none, []⟩

/-- `persist` (handle.go:369): the store with its journal, and the event that is in the file. -/
def SignerStore.persist (s : SignerStore) (canceled : Bool) (now : Time) (write : WriteResult)
    (record : SignerRecord) : Except Err Unit × SignerStore × Option LedgerEvent :=
  match s.journal with
  | none => (.ok (), s, none)
  | some j =>
    match j.append B.ledger canceled now record with
    | .error err => (.error err, s, none)
    | .ok (e, j') =>
      match write with
      | .synced => (.ok (), { s with journal := some j' }, some e)
      | .failed stored err =>
        (.error (.message err), { s with journal := some { j with fault := some err } },
          if stored then some e else none)

/-- A record that is written and then kept under its identifier: what is done before the write, and
what is done after it. -/
def SignerStore.commit {α : Type} (B : SignerBoundary) (s : SignerStore) (canceled : Bool) (env : HandleEnv)
    (record : SignerRecord) (keep : SignerStore → SignerStore) (value : α)
    (tried done : List HandleEvent) : HandleOutcome α :=
  match s.persist B canceled env.now.utc env.write record with
  | (.error err, s', written) => ⟨.error err, s', written, tried⟩
  | (.ok (), s', written) => ⟨.ok value, keep s', written, tried ++ done⟩

/-- `s.byID[id] = record`. -/
def SignerStore.put (id : String) (record : SignerRecord) (s : SignerStore) : SignerStore :=
  { s with byID := s.byID.insert id record }

/-- `s.byID[id] = record; s.byAction[actionKey] = id`. -/
def SignerStore.add (id : String) (record : SignerRecord) (s : SignerStore) : SignerStore :=
  { s with
    byID := s.byID.insert id record
    byAction := s.byAction.insert (signerActionKey record.handle.operationID record.handle.actionID) id }

/-! ## Calls -/

/-- `Prepare` (handle.go:132). A key of `byAction` that `byID` does not have would read the zero
record, which has no request. -/
def SignerStore.prepare (s : SignerStore) (env : HandleEnv) (given : PrepareInput) :
    HandleOutcome Handle :=
  let input := given.utc
  if input.valid env.now.utc = false then s.refuse .transition
  else
    match s.byAction.lookup (signerActionKey input.operationID input.actionID) with
    | some id =>
      match s.byID.lookup id with
      | none => s.refuse .mismatch
      | some record =>
        if samePrepareBinding record.handle input = false then s.refuse .mismatch
        else
          match B.decryptRecord env.decryption record with
          | .error err => s.refuse err
          | .ok stored =>
            if stored ≠ input.signature then s.refuse .mismatch
            else { result := .ok record.handle, store := s }
    | none =>
      match s.freshID env.draw [0, 1, 2] with
      | .error err => s.refuse err
      | .ok id =>
        match env.nonce with
        | .error err => s.refuse (.message err)
        | .ok nonce =>
          let handle := input.handle id
          let record : SignerRecord :=
            ⟨handle, B.cipher.encrypt nonce (artifactAAD B handle) input.signature, none⟩
          s.commit B env.canceled env record (add id record) handle [.prepared id input] []

/-- `Activate` (handle.go:216). -/
def SignerStore.activate (s : SignerStore) (env : HandleEnv) (id : String) (given : ActivationProof)
    : HandleOutcome Handle :=
  let proof := given.utc
  match s.byID.lookup id with
  | none => s.refuse .transition
  | some record =>
    if record.handle.state = .active ∨ record.handle.state = .released ∨ record.handle.state = .terminal then
      if record.activation.any (sameActivationProof · proof) then
        { result := .ok record.handle, store := s }
      else s.refuse .mismatch
    else if record.handle.state ≠ .prepared ∨ record.handle.inWindow env.now.utc = false ∨
        exactActivationProof record.handle proof = false then s.refuse .transition
    else
      match env.verifier with
      | .error err => s.refuse (.message err)
      | .ok () =>
        let next := { record with
          handle := { record.handle with state := .active }
          activation := some proof }
        s.commit B env.canceled env next (put id next) next.handle
          [.verified record.handle proof] []

/-- `Release` (handle.go:245). -/
def SignerStore.release (s : SignerStore) (env : HandleEnv) (id keeperID : String) :
    HandleOutcome (Handle × Bytes) :=
  match s.byID.lookup id with
  | none => s.refuse .transition
  | some record =>
    if keeperID ≠ record.handle.keeperID then s.refuse errKeeper
    else if ¬(record.handle.state = .active ∨ record.handle.state = .released) ∨
        record.handle.inWindow env.now.utc = false then s.refuse .transition
    else
      match B.decryptRecord env.decryption record with
      | .error err => s.refuse err
      | .ok artifact =>
        if record.handle.state = .active then
          let next := { record with handle := { record.handle with state := .released } }
          s.commit B env.canceled env next (put id next) (next.handle, artifact) []
            [.released keeperID env.now.utc next.handle artifact]
        else
          { result := .ok (record.handle, artifact)
            store := s
            events := [.released keeperID env.now.utc record.handle artifact] }

/-- The record that `Expire` and `ProveAndExpireUnactivated` write. -/
def SignerRecord.expire (record : SignerRecord) : SignerRecord :=
  { record with handle := { record.handle with state := .expired, outcome := "EXPIRED_UNACTIVATED" } }

/-- `Expire` (handle.go:274). -/
def SignerStore.expire (B : SignerBoundary) (s : SignerStore) (env : HandleEnv) (id : String) :
    HandleOutcome Handle :=
  match s.byID.lookup id with
  | none => s.refuse .transition
  | some record =>
    if record.handle.state ≠ .prepared ∨ env.now.utc.before record.handle.validUntil then
      s.refuse .transition
    else
      match env.verifier with
      | .error err => s.refuse (.message err)
      | .ok () =>
        s.commit B env.canceled env record.expire (put id record.expire) record.expire.handle
          [] []

/-- The proof with its digest (handle.go:338-343). -/
def SignerBoundary.prove (B : SignerBoundary) (proof : UnactivatedProof) : Except Err UnactivatedProof :=
  match B.unactivatedProofDigest proof with
  | none => .error (.message "json: unsupported value")
  | some proofDigest => .ok { proof with proofDigest }

/-- `ProveAndExpireUnactivated` (handle.go:302). -/
def SignerStore.proveAndExpireUnactivated (s : SignerStore) (env : HandleEnv)
    (requestID operationID actionID inputHash : String) : HandleOutcome UnactivatedProof :=
  let now := env.now.utc
  let proof (handleID : String) : UnactivatedProof :=
    { requestID, operationID, actionID, inputHash, handleID, status := "EXPIRED_UNACTIVATED"
      provenAt := now, proofDigest := "" }
  if hash requestID = false ∨ hash operationID = false ∨ identifierPattern actionID = false ∨
      hash inputHash = false then s.refuse .transition
  else
    match s.byAction.lookup (signerActionKey operationID actionID) with
    | none => { result := B.prove (proof ""), store := s }
    | some id =>
      match s.byID.lookup id with
      | none => s.refuse .mismatch
      | some record =>
        if record.handle.requestID ≠ requestID ∨ record.handle.operationID ≠ operationID ∨
            record.handle.signerRequestHash ≠ inputHash then s.refuse .mismatch
        else if record.handle.state = .expired then
          { result := B.prove (proof record.handle.id), store := s }
        else if record.handle.state ≠ .prepared ∨ now.before record.handle.validUntil then
          s.refuse .transition
        else
          match env.verifier with
          | .error err => s.refuse (.message err)
          | .ok () =>
            let o := s.commit B env.canceled env record.expire (put id record.expire)
              (proof record.handle.id) [] []
            { o with result := o.result.bind B.prove }

/-- `Finalize` (handle.go:349), which no context can cancel. -/
def SignerStore.finalize (s : SignerStore) (env : HandleEnv) (id outcome : String) :
    HandleOutcome Handle :=
  match s.byID.lookup id with
  | none => s.refuse .transition
  | some record =>
    if record.handle.state ≠ .released ∨ outcome = "" ∨ 128 < outcome.utf8ByteSize then s.refuse .transition
    else
      let next := { record with handle := { record.handle with state := .terminal, outcome } }
      s.commit B false env next (put id next) next.handle [] []

/-- `PreparedFor` (handle.go:199). -/
def SignerStore.preparedFor (s : SignerStore) (now : Time)
    (operationID actionID signerRequestHash : String) : Except Err (Option Handle) :=
  if hash operationID = false ∨ identifierPattern actionID = false ∨ hash signerRequestHash = false then
    .error .transition
  else
    match s.byAction.lookup (signerActionKey operationID actionID) with
    | none => .ok none
    | some id =>
      match s.byID.lookup id with
      | none => .error .mismatch
      | some record =>
        if record.handle.signerRequestHash ≠ signerRequestHash then .error .mismatch
        else if record.handle.state ≠ .prepared ∨ now.utc.before record.handle.validUntil = false then
          .error .transition
        else .ok (some record.handle)

/-- What `LedgerPreparedSigner.Prepare` gives to the ledger (coordinator.go:72-79). -/
def ActivationInput.prepareInput (a : ActivationInput) (inputHash : String) (signature : Bytes) :
    PrepareInput :=
  { requestID := a.requestID, authorizationID := a.authorizationID, reservationID := a.reservationID
    actionID := a.actionID, operationID := a.operationID, signerRequestHash := inputHash
    canonicalPayloadHash := a.canonicalPayloadHash, digest := a.digest, nonce := a.nonce
    signerKeyID := a.signerKeyID, keyEpoch := a.keyEpoch, keeperID := a.keeperID
    validAfter := a.validAfter, validUntil := a.validUntil, signature }

/-- `LedgerPreparedSigner.Prepare` (coordinator.go:49) up to its call of the ledger's `Prepare`: the
handle that there is, or what the ledger is given. It reads the clock twice, and other calls may run
before the ledger's. -/
def SignerStore.prepareActivation (D : ActivationDigests) (s : SignerStore) (now looked : Time)
    (signed : Except String Bytes) (given : ActivationInput) : Except Err (Handle ⊕ PrepareInput) :=
  let a := { given with validAfter := given.validAfter.utc, validUntil := given.validUntil.utc }
  if validateActivationInput D a now.utc = false then
    .error (.message "invalid signer activation input")
  else
    match D.activationInputHash a with
    | none => .error (.message "json: unsupported value")
    | some inputHash =>
      (s.preparedFor looked a.operationID a.actionID inputHash).bind fun
        | some handle => .ok (.inl handle)
        | none =>
          match signed with
          | .error err =>
            .error (.message ("independently verify and sign activation payload: " ++ err))
          | .ok signature => .ok (.inr (a.prepareInput inputHash signature))

/-! ## Restarts -/

/-- What opening the ledger finds: the clock, and for each record the answers of the context, of the
cipher and of the verifier. -/
structure OpenEnv where
  now : Time
  (context decryption verifier : SignerRecord → Except String Unit)

/-- The verifier's part of opening (ledger_file.go:102-115). -/
def OpenEnv.revalidate (env : OpenEnv) (record : SignerRecord) : Except Err Unit :=
  let asked := (env.verifier record).mapError Err.message
  match record.handle.state with
  | .active | .released | .terminal => asked
  | .expired =>
    if env.now.utc.before record.handle.validUntil then
      .error (.message "validity window has not elapsed")
    else asked
  | _ => .ok ()

/-- A record of the ledger that the store takes over (ledger_file.go:80-118). -/
def SignerStore.restore (env : OpenEnv) (s : SignerStore) (entry : (_ : String) × SignerRecord) :
    Except Err SignerStore :=
  ((env.context entry.2).mapError Err.message).bind fun () =>
    if entry.1 ≠ entry.2.handle.id then .error (.message "event and record handle differ")
    else
      (B.decryptRecord (env.decryption entry.2) entry.2).bind fun artifact =>
        if artifact.length < 64 ∨ 16 * 1024 < artifact.length then
          .error (.message "plaintext length is invalid")
        else (env.revalidate entry.2).bind fun () => .ok (s.add entry.1 entry.2)

/-- `OpenFileSignerStoreContext` (ledger_file.go:63) on these events. -/
def openFileSignerStore (env : OpenEnv) (events : List LedgerEvent) : Except Err SignerStore :=
  (foldCheck (SignerJournal.replayEvent B.ledger) {} events).bind fun j =>
    foldCheck (SignerStore.restore B env) { journal := some j } j.records.entries

/-- The ledger, and the store of the process that has it open. -/
structure SignerSystem where
  durable : List LedgerEvent := []
  store : Option SignerStore := none

/-- A process opens the ledger, ends, or makes a call. -/
inductive SignerAction where
  | start (env : OpenEnv)
  | stop
  | prepare (env : HandleEnv) (input : PrepareInput)
  | activate (env : HandleEnv) (id : String) (proof : ActivationProof)
  | release (env : HandleEnv) (id keeperID : String)
  | expire (env : HandleEnv) (id : String)
  | proveAndExpireUnactivated (env : HandleEnv) (requestID operationID actionID inputHash : String)
  | finalize (env : HandleEnv) (id outcome : String)

def SignerSystem.apply {α : Type} (σ : SignerSystem) (op : SignerStore → HandleOutcome α) :
    Except Err (SignerSystem × List HandleEvent) :=
  match σ.store with
  | none => .error .transition
  | some s => .ok (⟨σ.durable ++ (op s).written.toList, some (op s).store⟩, (op s).events)

/-- One action. The lock of the file lets one process have it open, and a store in memory ends with
its run. -/
def SignerSystem.act (σ : SignerSystem) :
    SignerAction → Except Err (SignerSystem × List HandleEvent)
  | .start env =>
    match σ.store with
    | some _ => .error .transition
    | none => (openFileSignerStore B env σ.durable).map fun s => ({ σ with store := some s }, [])
  | .stop =>
    if σ.store.any (·.journal.isSome) then .ok ({ σ with store := none }, [])
    else .error .transition
  | .prepare env input => σ.apply fun s => s.prepare B env input
  | .activate env id proof => σ.apply fun s => s.activate B env id proof
  | .release env id keeperID => σ.apply fun s => s.release B env id keeperID
  | .expire env id => σ.apply fun s => s.expire B env id
  | .proveAndExpireUnactivated env requestID operationID actionID inputHash =>
    σ.apply fun s => s.proveAndExpireUnactivated B env requestID operationID actionID inputHash
  | .finalize env id outcome => σ.apply fun s => s.finalize B env id outcome

end

/-- A store in memory, or an empty ledger. -/
def SignerSystem.initial (memory : Bool) : SignerSystem := ⟨[], if memory then some {} else none⟩

end FlowOps.Bearer

import FlowOps.Reconciliation.Types

/-!
# The journal

The hash-chained, append-only journal of journal.go: `append`, which validates
and writes one event, and `replay`, which reads a journal back. The file always
takes the bytes it is given (a failing disk is not modelled), so a journal is the
list of its events. What can fail is the context, the key, a time that JSON cannot
print, and on reading a line longer than the scanner's buffer.

Results: `append_ok` inverts a successful append and `append_eq_ok` says when one
succeeds; `Chained.append` says that a journal written by `append` is what a replay
of its lines rebuilds, as long as they fit.
-/

namespace FlowOps.Reconciliation

variable {canceled : Bool} {e : JournalEvent}

/-! ## JSON -/

/-- The times in a record that `json.Marshal` has to print. -/
def Observation.times (o : Observation) : List Time := [o.headTime, o.anchorTime, o.observedAt]

def ChainStatus.times (s : ChainStatus) : List Time :=
  [s.lastObservationAt, s.stateChangedAt] ++
    s.lastTrusted.toList.flatMap fun t => [t.blockTime, t.observedAt]

def Execution.times (e : Execution) : List Time :=
  e.broadcastAt :: (e.resolvedAt.toList ++ e.finalityCheckedAt.toList ++
    (e.transactionRecovery.map (·.observedAt)).toList)

def EscrowTransition.times (t : EscrowTransition) : List Time :=
  t.registeredAt :: (t.resolvedAt.toList ++ t.finalityCheckedAt.toList)

def EscrowCall.times (c : EscrowCall) : List Time :=
  c.registeredAt :: (c.pending.toList ++ c.transitions).flatMap EscrowTransition.times

def ExecutionPayload.times (p : ExecutionPayload) : List Time :=
  p.execution.times ++ (p.ledger.map (·.recordedAt)).toList ++
    p.status.toList.flatMap ChainStatus.times

def EventBody.times : EventBody → List Time
  | .chainStatus p => p.status.times ++ p.observations.flatMap Observation.times
  | .executionBroadcast p => p.times
  | .executionResolved p => p.times
  | .executionReorged p => p.times
  | .executionQuarantine p => p.times
  | .ledgerPosted t => [t.recordedAt]
  | .escrow _ p =>
    p.call.times ++ p.ledgers.map (·.recordedAt) ++ p.status.toList.flatMap ChainStatus.times

/-! ## Events -/

/-- `journalVersion` (journal.go:19). -/
def journalVersion : ℤ := 1

/-- The largest line the replaying scanner accepts: its buffer of `4<<20` bytes
also has to hold the line feed. -/
def maxLine : ℕ := 4 * 2 ^ 20

section

variable (P : Primitives)

/-- `journalEventHash` (journal.go:116), without the `0x` of the other digests. -/
def journalEventHash (input : JournalHashInput) : String :=
  (P.journalSHA256 input).val

def JournalEvent.hashInput (e : JournalEvent) : JournalHashInput :=
  { version := e.version, sequence := e.sequence, eventAt := e.eventAt, key := e.key
    previousHash := e.previousHash, body := e.body }

/-- `validateJournalEvent` (journal.go:96). Kind and payload are never empty. -/
def validateJournalEvent (e : JournalEvent) (sequence : ℕ) (previousHash : String) :
    Except Err Unit :=
  if e.version ≠ journalVersion ∨ e.sequence ≠ sequence ∨ e.eventAt.isZero ∨ e.key = "" then
    .error (.message "journal event fields are invalid")
  else if e.previousHash ≠ previousHash then .error (.message "journal hash chain is broken")
  else if e.hash ≠ journalEventHash P e.hashInput then
    .error (.message "journal event hash does not match content")
  else .ok ()

/-- `journal` (journal.go:42). -/
structure Journal where
  events : List JournalEvent := []
  lastHash : String := ""

/-- `strings.ContainsAny(s, "\r\n\t")`. -/
def containsControl (s : String) : Bool :=
  s.toList.any fun c => c = '\r' || c = '\n' || c = '\t'

/-- What an operation hands to `append`. -/
structure Draft where
  eventAt : Time
  key : String
  body : EventBody

variable {j j' : Journal} {d : Draft}

/-- The event that `append` builds from a draft (journal.go:144-148). -/
def Journal.eventOf (j : Journal) (d : Draft) : JournalEvent :=
  let e : JournalEvent :=
    { version := journalVersion, sequence := j.events.length + 1, eventAt := d.eventAt.utc
      key := d.key, previousHash := j.lastHash, body := d.body, hash := "" }
  { e with hash := journalEventHash P e.hashInput }

/-- `append` (journal.go:125). -/
def Journal.append (P : Primitives) (j : Journal) (canceled : Bool) (d : Draft) :
    Except Err (JournalEvent × Journal) :=
  if canceled then .error (.message "context canceled")
  else if d.key = "" ∨ containsControl d.key then
    .error (.message "journal kind or key is invalid")
  else if (d.eventAt.utc :: d.body.times).all Time.marshals = false then
    .error (.message "Time.MarshalJSON: year outside of range [0,9999]")
  else
    let e := j.eventOf P d
    match validateJournalEvent P e e.sequence j.lastHash with
    | .error err => .error (.wrapped "validate reconciliation event before append" err)
    | .ok () => .ok (e, { events := j.events ++ [e], lastHash := e.hash })

/-- One line of `replay` (journal.go:82-92). -/
def replayLine (j : Journal) (e : JournalEvent) : Except Err Journal :=
  if maxLine ≤ P.lineLength e then .error (.message "bufio.Scanner: token too long")
  else
    match validateJournalEvent P e (j.events.length + 1) j.lastHash with
    | .error err =>
      .error (.wrapped ("reconciliation journal line " ++ toString (j.events.length + 1)) err)
    | .ok () => .ok { events := j.events ++ [e], lastHash := e.hash }

/-- `replay` (journal.go:76) of a file with these lines. -/
def replay (lines : List JournalEvent) : Except Err Journal :=
  foldCheck (replayLine P) {} lines

/-! ## Appending and replaying -/

lemma Journal.append_ok {P : Primitives} (h : j.append P canceled d = .ok (e, j')) :
    e = j.eventOf P d ∧ j' = { events := j.events ++ [e], lastHash := e.hash } ∧
      d.eventAt.isZero = false ∧ (d.eventAt.utc :: d.body.times).all Time.marshals ∧
      validateJournalEvent P e (j.events.length + 1) j.lastHash = .ok () := by
  simp only [append, guard_ok, Bool.not_eq_false] at h
  obtain ⟨-, -, htimes, h⟩ := h
  split at h
  · cases h
  · rename_i hv
    injection h with h
    injection h with he hj
    subst he
    have hz : d.eventAt.isZero = false := by
      simp only [validateJournalEvent, guard_ok, not_or] at hv
      exact Bool.eq_false_iff.mpr hv.1.2.2.1
    exact ⟨rfl, hj.symm, hz, htimes, hv⟩

/-- The checks of `append`: only the context, the key and the times can fail. -/
lemma Journal.append_eq_ok {P : Primitives} (j : Journal)
    (hkey : d.key ≠ "" ∧ containsControl d.key = false) (hzero : d.eventAt.isZero = false)
    (htimes : (d.eventAt.utc :: d.body.times).all Time.marshals) :
    j.append P false d =
      .ok (j.eventOf P d, { events := j.events ++ [j.eventOf P d], lastHash := (j.eventOf P d).hash }) := by
  have hvalid : validateJournalEvent P (j.eventOf P d) (j.eventOf P d).sequence j.lastHash = .ok () := by
    have hz : (j.eventOf P d).eventAt.isZero = false := hzero
    simp only [validateJournalEvent, guard_ok, hz]
    simp [eventOf, JournalEvent.hashInput, hkey.1]
  unfold append
  rw [if_neg (by decide), if_neg (by simp [hkey]), if_neg (by rw [Bool.not_eq_false]; exact htimes)]
  simp only [hvalid]

/-- The journals the engine writes: the hash chain is what a replay rebuilds,
provided every line fits. -/
def Journal.Chained (j : Journal) : Prop :=
  (∀ e ∈ j.events, P.lineLength e < maxLine) → replay P j.events = .ok j

end

variable {P : Primitives} {j j' : Journal} {d : Draft}

lemma Journal.chained_empty (P : Primitives) : Journal.Chained P {} := fun _ => rfl

lemma Journal.Chained.append (hj : j.Chained P) (h : j.append P canceled d = .ok (e, j')) :
    j'.Chained P := by
  obtain ⟨-, rfl, -, -, hv⟩ := Journal.append_ok h
  intro hlen
  have hold : replay P j.events = .ok j := hj fun x hx => hlen x (by simp [hx])
  have hnew : P.lineLength e < maxLine := hlen e (by simp)
  refine foldCheck_append_ok.mpr ⟨j, hold, foldCheck_cons_ok.mpr ⟨_, ?_, rfl⟩⟩
  simp only [replayLine, if_neg (not_le.mpr hnew), hv]

lemma replay_events {lines : List JournalEvent} (h : replay P lines = .ok j) : j.events = lines := by
  suffices ∀ (lines : List JournalEvent) (j₀ : Journal), foldCheck (replayLine P) j₀ lines = .ok j →
      j.events = j₀.events ++ lines by simpa using this lines {} h
  intro lines
  induction lines with
  | nil => rintro j₀ ⟨⟩; simp
  | cons e lines ih =>
    intro j₀ h
    obtain ⟨j₁, h₁, h₂⟩ := foldCheck_cons_ok.mp h
    simp only [replayLine, guard_ok] at h₁
    obtain ⟨-, h₁⟩ := h₁
    split at h₁
    · cases h₁
    · injection h₁ with h₁
      subst h₁
      rw [ih _ h₂]
      simp

end FlowOps.Reconciliation

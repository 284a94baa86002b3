import FlowOps.Bearer.SignerLedger
import FlowOps.ControlPlane.Lifecycle
import FlowOps.Reconciliation.Journal
import FlowOps.Signer.Attempts

/-!
# The file journals after a crash

Four parts of the repository keep a hash-chained journal in a file: reconciliation, the
control plane, the customer's executor and the isolated signer. They write a line and sync
it, and read the lines with a `bufio.Scanner` when they open the file. None of them looks at
the end of the file: a last line that lost only its line feed is read as an event, and the
next append continues that line, after which no open succeeds.

Results: `journals_reopen_iff` says for each of them when the history stays readable after a
torn append; `missing_newline_breaks_journal`.
-/

namespace FlowOps.Journals

/-! ## The journals of reconciliation and of the control plane -/

/-- The journal of reconciliation as a file: `append` and `replay` of journal.go. -/
def reconciliationFile (P : Reconciliation.Primitives) (codec : Codec Reconciliation.JournalEvent) :
    FileJournal Reconciliation.Draft Reconciliation.JournalEvent Reconciliation.Journal where
  codec := codec
  limit := Reconciliation.maxLine
  init := {}
  replay j e :=
    (Reconciliation.validateJournalEvent P e (j.events.length + 1) j.lastHash).toOption.map fun () =>
      { events := j.events ++ [e], lastHash := e.hash }
  append j d := (j.append P false d).toOption

/-- The journal of the control plane as a file: `Append` and `replay` of journal.go. -/
def controlPlaneFile (P : ControlPlane.Primitives) (codec : Codec ControlPlane.Event) :
    FileJournal ControlPlane.Draft ControlPlane.Event (List ControlPlane.Event) where
  codec := codec
  limit := 4 * 2 ^ 20
  init := []
  replay events e :=
    (ControlPlane.validateEvent P e (events.length + 1) (ControlPlane.lastHash events)).toOption.map
      fun () => events ++ [e]
  append events d := (ControlPlane.append P events none d).toOption.map fun e => (e, events ++ [e])

lemma reconciliationFile_readsBack {P : Reconciliation.Primitives}
    {codec : Codec Reconciliation.JournalEvent} : (reconciliationFile P codec).ReadsBack fun _ => True := by
  intro j d e j' h
  obtain ⟨-, rfl, -, -, hvalid⟩ := Reconciliation.Journal.append_ok (FileJournal.toOption_eq_some.mp h)
  simp only [reconciliationFile, hvalid, if_true]
  rfl

lemma controlPlaneFile_readsBack {P : ControlPlane.Primitives} {codec : Codec ControlPlane.Event} :
    (controlPlaneFile P codec).ReadsBack fun _ => True := by
  intro events d e events' h
  obtain ⟨e', happend, heq⟩ := Option.map_eq_some_iff.mp h
  obtain ⟨rfl, rfl⟩ := Prod.mk.inj heq
  obtain ⟨-, -, hvalid⟩ := ControlPlane.append_ok (FileJournal.toOption_eq_some.mp happend)
  simp only [controlPlaneFile, hvalid, if_true]
  rfl

/-! ## After a torn append -/

/-- Each journal, after a crash that left any part of its last line: if the file can be
opened, then whatever is appended is there at the next open, if and only if the tail is
not an event that lost only its line feed and

* for reconciliation and the control plane, every new line fits into the scanner,
* for the executor, no new attempt has escrow terms,
* for the signer, no new event has a zero time.

The texts of the events are of type `String`, so they are valid UTF-8. `ReopensIff` asks of
the format what JSON gives for such events; other bytes it does not give back. The executor
and the signer bound the payload: the rest of a line is shorter than 1 MiB and 512 KiB. -/
theorem journals_reopen_iff (P₁ : Reconciliation.Primitives) (P₂ : ControlPlane.Primitives)
    (P₃ : Signer.Primitives) (P₄ : Bearer.Primitives) (c₁ : Codec Reconciliation.JournalEvent)
    (c₂ : Codec ControlPlane.Event) (c₃ : Codec Signer.AttemptEvent) (c₄ : Codec Bearer.LedgerEvent) :
    (reconciliationFile P₁ c₁).ReopensIff (fun _ => True)
        (fun _ ns => ∀ n ∈ ns, (c₁.encode n).length < 4 * 2 ^ 20) ∧
      (controlPlaneFile P₂ c₂).ReopensIff (fun _ => True)
        (fun _ ns => ∀ n ∈ ns, (c₂.encode n).length < 4 * 2 ^ 20) ∧
      (Signer.attemptFile P₃ c₃).ReopensIff
        (fun n => (c₃.encode n).length < P₃.payloadLength n.payload + 2 ^ 20)
        (fun is _ => ∀ i ∈ is, i.escrow = none) ∧
      (Bearer.ledgerFile P₄ c₄).ReopensIff
        (fun n => (c₄.encode n).length < P₄.recordLength n.record + 2 ^ 19)
        (fun is _ => ∀ i ∈ is, i.eventAt.isZero = false) :=
  ⟨FileJournal.reopensIff_of_readsBack reconciliationFile_readsBack,
    FileJournal.reopensIff_of_readsBack controlPlaneFile_readsBack,
    FileJournal.reopensIff_of_fits Signer.attemptFile_readsBack
      fun _ _ _ _ => Signer.attemptFile_fits fun _ h => h,
    FileJournal.reopensIff_of_fits Bearer.ledgerFile_readsBack
      fun _ _ _ _ => Bearer.ledgerFile_fits fun _ h => h⟩

namespace Example

def reconciliation : Reconciliation.Primitives where
  toCrypto := ControlPlane.Example.primitives.toCrypto
  ledgerSHA256 xs := .sample xs.length
  reorgSHA256 es := .sample es.length
  escrowEvidenceSHA256 es := .sample es.length
  outcomeSHA256 es := .sample es.length
  journalSHA256 i := .sample i.sequence
  lineLength _ := 0

def ledger : Bearer.Primitives := ⟨fun i => .sample i.sequence, fun _ => 0⟩

/-- A request of the control plane that expires. -/
def draft (reason : String) : ControlPlane.Draft :=
  ⟨ControlPlane.unixTime 1, "request", .expired reason⟩

def first : ControlPlane.Event :=
  ControlPlane.eventOf ControlPlane.Example.primitives [] (draft "first")

def second : ControlPlane.Event :=
  ControlPlane.eventOf ControlPlane.Example.primitives [first] (draft "second")

def codec : Codec ControlPlane.Event := Codec.numbered [first, second]

lemma codec_lawful : codec.Lawful (· ∈ [first, second]) := Codec.numbered_lawful _

def journal : FileJournal ControlPlane.Draft ControlPlane.Event (List ControlPlane.Event) :=
  controlPlaneFile ControlPlane.Example.primitives codec

lemma append_first : journal.append [] (draft "first") = some (first, [first]) := by decide

lemma append_second : journal.append [first] (draft "second") = some (second, [first, second]) := by
  decide

lemma load_first : journal.load (journal.codec.encode first) = some ([first], [first]) := by
  decide

lemma load_terminated : journal.load (terminate (journal.codec.encode first)) = some ([first], [first]) := by
  decide

end Example

open Example in
/-- A crash after the whole line of the first event: the second is there after a restart. -/
theorem journals_reopen_whole_line : ∃ v,
    journal.load (terminate (journal.codec.encode first) ++ journal.contents [second]) =
      some ([first, second], v) := by
  have h := (journals_reopen_iff reconciliation ControlPlane.Example.primitives Signer.Example.primitives
    ledger ⟨fun _ => [], fun _ => none⟩ codec (Codec.numbered []) (Codec.numbered [])).2.1
  have happend : journal.appendAll [first] [draft "second"] = some ([second], [first, second]) := by
    rw [FileJournal.appendAll, append_second]
    rfl
  refine (h [] first _ [first] [first] (List.prefix_refl _) load_terminated
    [draft "second"] [second] [first, second] happend codec_lawful (by simp)).mpr ⟨.inr ?_, ?_⟩
  · simp [terminate]
  · decide

open Example in
/-- The crash loses only the line feed. The event is recovered, a second one is appended, and
the file cannot be opened any more. -/
theorem missing_newline_breaks_journal : journal.append [] (draft "first") = some (first, [first]) ∧
      journal.load (journal.codec.encode first) = some ([first], [first]) ∧
      journal.append [first] (draft "second") = some (second, [first, second]) ∧
      journal.load (journal.codec.encode first ++ journal.contents [second]) = none := by
  refine ⟨append_first, load_first, append_second, ?_⟩
  have hjoined : journal.load (journal.contents [] ++ journal.codec.encode first ++
      journal.contents [second]) = none :=
    FileJournal.load_joined codec_lawful (by simp) (by simp) (by simp)
  simpa using hjoined

end FlowOps.Journals

import FlowOps.Reconciliation.Balances
import FlowOps.Reconciliation.EscrowFinality

/-!
# Reopening escrow transitions

`ReopenEscrowReorg` on a resolved transition of a stored call, in any reachable state.
With a valid removal quorum the operation always gets as far as its event: the loop
over the removed transitions cannot fail. The event is refused where a confirmed
transition takes along one that an earlier reopening removed, because the loop
records `REORGED` as its prior outcome, and where the ids of the corrections are not
free. A reopening that is accepted does all it should, except that an entry which was
reversed by hand before is reversed a second time.

Results:
* `removal_loop_ok`: the loop does not fail.
* `reopening_safe_iff`: when an accepted reopening is safe; `reopened_reversed_twice`.
-/

namespace FlowOps.Reconciliation

open List Option Dict

/-! ## The loop -/

variable {u : EscrowTransition}

section

variable {P : Primitives} {cfg : Config} {s : State} {callID canonicalHash : String}
  {call : EscrowCall} {now : Time}

lemma reorgCorrection_of_stored (hwf : s.WF P cfg) (hstored : s.escrowCalls.lookup callID = some call)
    (hzero : now.isZero = false) (hu : u ∈ call.transitions) :
    reorgCorrection P s.ledger call.intent canonicalHash now u =
      .ok (correctionOf P s.ledger call.intent canonicalHash now u) := by
  have hok := hwf.call _ _ hstored
  unfold reorgCorrection correctionOf
  by_cases hc : u.ledgerTransactionID ≠ "" ∧ u.correctionTransactionID = ""
  · obtain ⟨x, hx, -, hledger⟩ := (hok.bound u hu).posted hc.1
    obtain ⟨hid, hvalid⟩ := hwf.ledger _ _ hx
    have horg : x.organizationID = call.intent.organizationID := by
      obtain ⟨_, _, _, -, -, -, hrecord⟩ := escrowLedger_eq_some hledger
      exact congrArg LedgerTransaction.organizationID hrecord
    have hcorrects : (reverseEscrowLedger P call.intent u x canonicalHash now).Valid ∧
        validateCorrection s.ledger (reverseEscrowLedger P call.intent u x canonicalHash now) = .ok () :=
      reverseEscrowLedger_valid hok.sound.intent hzero hvalid (by rw [hid]; exact hx) horg
    simp only [if_pos hc, hx, map_some, LedgerTransaction.validate_ok_iff.mpr hcorrects.1,
      hcorrects.2, Except.bind]
  · rw [if_neg hc, if_neg hc]

lemma removal_loop_ok (hwf : s.WF P cfg) (hstored : s.escrowCalls.lookup callID = some call)
    (hzero : now.isZero = false) {us : List EscrowTransition} (hus : ∀ u ∈ us, u ∈ call.transitions) :
    foldCheck (removeTransition P s.ledger call.intent canonicalHash now) ([], []) us =
      .ok (us.map (fun u => u.removed (correctionOf P s.ledger call.intent canonicalHash now u)),
        us.filterMap (correctionOf P s.ledger call.intent canonicalHash now)) := by
  suffices h : ∀ us, (∀ u ∈ us, u ∈ call.transitions) → ∀ r₀ l₀,
      foldCheck (removeTransition P s.ledger call.intent canonicalHash now) (r₀, l₀) us =
        .ok (r₀ ++ us.map (fun u =>
            u.removed (correctionOf P s.ledger call.intent canonicalHash now u)),
          l₀ ++ us.filterMap (correctionOf P s.ledger call.intent canonicalHash now)) by
    simpa using h us hus [] []
  intro us
  induction us with
  | nil => intro _ r₀ l₀; simp
  | cons u us ih =>
    intro hus r₀ l₀
    simp only [foldCheck, removeTransition,
      reorgCorrection_of_stored hwf hstored hzero (hus u (by simp)), Except.bind]
    rw [ih (fun v hv => hus v (by simp [hv]))]
    cases hc : correctionOf P s.ledger call.intent canonicalHash now u <;> simp [hc]

end

/-! ## Safe reopenings -/

/-- The stored entry `id` is a correction of the entry `target`. -/
def Ledger.Reverses (m : Ledger) (id target : String) : Prop :=
  ∃ c, m.lookup id = some c ∧ c.kind = .correction ∧ c.reversesTransactionID = target

/-- A reopening whose guards pass. -/
structure ReopenDue (P : Primitives) (cfg : Config) (ctx : Ctx) (e : Engine) (callID hash : String)
    (call : EscrowCall) (pre : List EscrowTransition) (t : EscrowTransition)
    (post : List EscrowTransition) (evidence : List ReorgEvidence) (canonical : ReorgEvidence) :
    Prop where
  reachable : Reachable P cfg e
  checked : TransitionChecked cfg e.state (ctx.now 0) callID hash call pre t post evidence true
    canonical
  ready : ctx.Ready

/-- What a reopening of `t` should leave behind: its suffix goes along if it was
confirmed, and `pre` and the kept suffix stay. -/
structure SafelyReopened (P : Primitives) (cfg : Config) (s s' : State) (callID : String)
    (pre : List EscrowTransition) (t : EscrowTransition) (post : List EscrowTransition)
    (call' : EscrowCall) : Prop where
  stored : s'.escrowCalls.lookup callID = some call'
  quarantined : call'.state = .quarantined
  snapshot : call'.validateSnapshot P.toCrypto cfg.chainID = .ok ()
  removed : ∀ u ∈ removedSuffix t post, (u.state = .confirmed ∨ u.state = .reverted) ∧
    ∃ u' ∈ call'.transitions, u'.expected = u.expected ∧ u'.state = .reorged ∧
      u'.reorgedFrom = some u.state ∧ u'.ledgerTransactionID = u.ledgerTransactionID
  kept : ∀ u, u ∈ pre ∨ u ∈ keptSuffix t post → u ∈ call'.transitions
  reversed : ∀ u ∈ removedSuffix t post, u.state = .confirmed → u.ledgerTransactionID ≠ "" →
    ∃! id, s'.ledger.Reverses id u.ledgerTransactionID
  others : ∀ target, (∀ u ∈ removedSuffix t post, u.ledgerTransactionID ≠ target) → ∀ id,
    s'.ledger.Reverses id target ↔ s.ledger.Reverses id target
  entries : ∀ id x, s.ledger.lookup id = some x → s'.ledger.lookup id = some x

/-- A stored correction of an entry that the reopening reverses is the one it writes. -/
def State.CorrectsOnce (P : Primitives) (s : State) (now : Time) (callID hash : String)
    (evidence : List ReorgEvidence) : Prop :=
  ∀ u ∈ s.correctable callID hash, Dict.All (fun _ c => c.kind = .correction →
    c.reversesTransactionID = u.ledgerTransactionID →
      c ∈ s.corrections P now callID hash evidence) s.ledger
deriving Decidable

section

variable {P : Primitives} {cfg : Config} {ctx : Ctx} {e : Engine} {callID hash : String}
  {call : EscrowCall} {pre post : List EscrowTransition} {t : EscrowTransition}
  {evidence : List ReorgEvidence} {canonical : ReorgEvidence}

def EscrowCall.reopenedAt (P : Primitives) (ledger : Ledger) (call : EscrowCall)
    (pre : List EscrowTransition) (t : EscrowTransition) (post : List EscrowTransition)
    (canonicalHash : String) (now : Time) : EscrowCall :=
  call.quarantinedWith (pre ++ (removedSuffix t post).map (fun u =>
    u.removed (correctionOf P ledger call.intent canonicalHash now u)) ++ keptSuffix t post)

def ReopenDue.payload (P : Primitives) (ctx : Ctx) (s : State) (call : EscrowCall)
    (pre : List EscrowTransition) (t : EscrowTransition) (post : List EscrowTransition)
    (evidence : List ReorgEvidence) (canonical : ReorgEvidence) : EscrowPayload where
  call := call.reopenedAt P s.ledger pre t post canonical.canonicalBlockHash (ctx.now 0)
  reorg := evidence
  ledgers := (removedSuffix t post).filterMap
    (correctionOf P s.ledger call.intent canonical.canonicalBlockHash (ctx.now 0))
  status := some (s.status.reopened (ctx.now 0) ("escrow transition reorg corrected; manual " ++
    "escrow resolution and chain release required"))

abbrev ReopenDue.written (_ : ReopenDue P cfg ctx e callID hash call pre t post evidence canonical) :=
  payload P ctx e.state call pre t post evidence canonical

section

variable (h : ReopenDue P cfg ctx e callID hash call pre t post evidence canonical)
include h

lemma ReopenDue.mem_transitions :
    ∀ u, u ∈ pre ∨ u ∈ removedSuffix t post ∨ u ∈ keptSuffix t post → u ∈ call.transitions := by
  intro u hu
  rw [(splitTransitions_eq_some h.checked.split).1, ← removed_append_kept t post]
  simpa using hu

lemma ReopenDue.loop :
    foldCheck (removeTransition P e.state.ledger call.intent canonical.canonicalBlockHash (ctx.now 0))
      ([], []) (removedSuffix t post) =
      .ok ((removedSuffix t post).map (fun u => u.removed (correctionOf P e.state.ledger call.intent
          canonical.canonicalBlockHash (ctx.now 0) u)), (removedSuffix t post).filterMap
          (correctionOf P e.state.ledger call.intent canonical.canonicalBlockHash (ctx.now 0))) :=
  removal_loop_ok (reachable_wf h.reachable) h.checked.stored h.ready.nonzero fun u hu =>
    h.mem_transitions u (.inr (.inl hu))

lemma ReopenDue.corrections : e.state.corrections P (ctx.now 0) callID hash evidence = h.written.ledgers :=
  h.checked.corrections h.loop

lemma ReopenDue.plan : (Op.reopenEscrowReorg callID hash evidence).plan P cfg ctx e.state =
      writeEscrow (ctx.now 0) (some (ctx.now 1)) callID .reorged h.written := by
  have hresolved : t.isResolved := by
    simpa [EscrowTransition.isResolved] using h.checked.resolved
  simp [Op.plan, reopenEscrowReorg, h.checked.escrowTransition, Plan.find, Plan.check, hresolved,
    h.checked.live.1, h.checked.live.2, h.checked.quorum, h.loop, payload, EscrowCall.reopenedAt]

lemma ReopenDue.times_printable :
    ∀ u ∈ (EventBody.escrow .reorged h.written).times, u.marshals := by
  have hcall := reachable_calls_printable h.reachable _ _ h.checked.stored
  obtain ⟨hobserved, htrusted⟩ := (reachable_printable h.reachable).2
  have hold : ∀ v ∈ call.transitions, ∀ w ∈ v.times, w.marshals := fun v hv w hw =>
    hcall w (by
      simp only [EscrowCall.times, mem_cons, mem_flatMap, mem_append]
      exact .inr ⟨v, .inr hv, hw⟩)
  intro u hu
  rcases mem_append.mp hu with hu | hu
  · rcases mem_append.mp hu with hu | hu
    · -- A removed transition keeps its times.
      simp only [payload, EscrowCall.reopenedAt, EscrowCall.quarantinedWith, EscrowCall.times,
        toList_none, nil_append, mem_cons, mem_flatMap, mem_append, List.mem_map] at hu
      rcases hu with rfl | ⟨v, (hv | ⟨w, hw, rfl⟩) | hv, hu⟩
      · exact hcall _ (by simp [EscrowCall.times])
      · exact hold v (h.mem_transitions v (.inl hv)) u hu
      · exact hold w (h.mem_transitions w (.inr (.inl hw))) u hu
      · exact hold v (h.mem_transitions v (.inr (.inr hv))) u hu
    · obtain ⟨c, hc, rfl⟩ := List.mem_map.mp hu
      obtain ⟨v, -, hv⟩ := mem_filterMap.mp hc
      obtain ⟨-, original, -, rfl⟩ := correctionOf_eq_some hv
      exact h.ready.printable
  · simp only [payload, toList_some, flatMap_cons, flatMap_nil,
      append_nil, ChainStatus.times, mem_append, mem_cons, not_mem_nil, or_false,
      mem_flatMap, mem_toList] at hu
    rcases hu with (rfl | rfl) | ⟨c, hc, rfl | rfl⟩
    · exact hobserved
    · exact h.ready.printable
    · exact (htrusted c hc).1
    · exact (htrusted c hc).2

lemma ReopenDue.outcome :
    let p := h.written
    let after := e.call P cfg ctx (.reopenEscrowReorg callID hash evidence)
    (EscrowChecked P cfg e.state (ctx.now 0) callID .reorged p ∧ ∃ ev s',
        ev.body = .escrow .reorged p ∧ e.state.apply P cfg ev = .ok s' ∧
        after.1 = .ok (.call p.call) ∧ after.2.state = s'.refreshAffected cfg (ctx.now 1)) ∨
      (¬EscrowChecked P cfg e.state (ctx.now 0) callID .reorged p ∧
        (∃ err, after.1 = .error err) ∧ after.2.state = e.state) := by
  have hwf := reachable_wf h.reachable
  have hok := hwf.call _ _ h.checked.stored
  have hkey : hashPattern callID := by
    rw [← hok.keyed]
    exact (EscrowIntent.validate_ok hok.sound.intent).2.1
  exact Engine.call_escrow h.plan (fun h => h) h.ready hkey h.times_printable hwf.chain
    (by rintro st ⟨⟩; exact hwf.chain)

lemma ReopenDue.ledgers_reverse {c : LedgerTransaction} (hc : c ∈ h.written.ledgers) :
    ∃ u ∈ e.state.correctable callID hash, c.kind = .correction ∧
      c.reversesTransactionID = u.ledgerTransactionID ∧ correctionOf P e.state.ledger call.intent
        canonical.canonicalBlockHash (ctx.now 0) u = some c := by
  obtain ⟨u, hu, hcu⟩ := mem_filterMap.mp hc
  obtain ⟨hopen, original, ho, rfl⟩ := correctionOf_eq_some hcu
  refine ⟨u, ?_, rfl, (reachable_wf h.reachable).ledger _ _ ho |>.1, hcu⟩
  rw [State.correctable, h.checked.escrowTransition]
  exact mem_filter.mpr ⟨hu, hopen⟩

/-- The transitions that the reopening corrects are the confirmed ones with an entry. -/
lemma ReopenDue.mem_correctable : u ∈ e.state.correctable callID hash ↔
      u ∈ removedSuffix t post ∧ u.state = .confirmed ∧ u.ledgerTransactionID ≠ "" := by
  have hrecords := ((reachable_wf h.reachable).call _ _ h.checked.stored).sound.records
  rw [State.correctable, h.checked.escrowTransition, elim_some, mem_filter]
  refine and_congr_right fun hu => ?_
  have hrecord := hrecords u (h.mem_transitions u (.inr (.inl hu)))
  have hcorrection := hrecord.correction
  simp only [correctionInvalid, not_or, not_and, not_not] at hcorrection
  simp only [EscrowTransition.uncorrected, Bool.and_eq_true, decide_eq_true_eq]
  constructor
  · rintro ⟨hledger, hnone⟩
    refine ⟨?_, hledger⟩
    have hlive : u.state ≠ .reorged := fun hs => hcorrection.2.1 hs hledger hnone
    rcases hrecord.outcome.2 with ho | ⟨-, he, -⟩
    · rw [EscrowTransition.outcome, if_neg hlive] at ho
      exact Option.some.inj ho
    · exact absurd he hledger
  · rintro ⟨hs, hledger⟩
    exact ⟨hledger, hcorrection.1 hs⟩

lemma ReopenDue.exists_correction (hu : u ∈ e.state.correctable callID hash) :
    ∃ c ∈ h.written.ledgers, c.kind = .correction ∧
      c.reversesTransactionID = u.ledgerTransactionID := by
  obtain ⟨hmem, -, hledger⟩ := h.mem_correctable.mp hu
  have hwf := reachable_wf h.reachable
  have hin := h.mem_transitions u (.inr (.inl hmem))
  obtain ⟨x, hx, -⟩ := ((hwf.call _ _ h.checked.stored).bound u hin).posted hledger
  have hnone : u.correctionTransactionID = "" := by
    rw [State.correctable, h.checked.escrowTransition, elim_some, mem_filter] at hu
    simpa [EscrowTransition.uncorrected, hledger] using hu.2
  have hc : correctionOf P e.state.ledger call.intent canonical.canonicalBlockHash (ctx.now 0) u =
      some (reverseEscrowLedger P call.intent u x canonical.canonicalBlockHash (ctx.now 0)) := by
    simp [correctionOf, hledger, hnone, hx]
  exact ⟨_, mem_filterMap.mpr ⟨u, hmem, hc⟩, rfl, (hwf.ledger _ _ hx).1⟩

lemma ReopenDue.ledgers_apart {c d : LedgerTransaction}
    (hc : c ∈ h.written.ledgers) (hd : d ∈ h.written.ledgers)
    (heq : c.reversesTransactionID = d.reversesTransactionID) : c = d := by
  obtain ⟨u, hu, -, hcu, hcorrection⟩ := h.ledgers_reverse hc
  obtain ⟨v, hv, -, hdv, hcorrection'⟩ := h.ledgers_reverse hd
  obtain rfl := (reachable_wf h.reachable).correctable_apart hu hv (hcu.symm.trans (heq.trans hdv))
  rw [hcorrection] at hcorrection'
  exact Option.some.inj hcorrection'

lemma ReopenDue.succeeds (honce : e.state.RemovesOnce callID hash)
    (hfree : e.state.CorrectionsFree P (ctx.now 0) callID hash evidence) :
    ∃ e', e.call P cfg ctx (.reopenEscrowReorg callID hash evidence) = (.ok (.call
        (call.reopenedAt P e.state.ledger pre t post canonical.canonicalBlockHash (ctx.now 0))), e') ∧
      e'.state.ledger = e.state.ledger.addAll h.written.ledgers := by
  have hwf := reachable_wf h.reachable
  rcases h.outcome with ⟨-, ev, s', hb, happly, hreply, hstate⟩ | ⟨hnot, -⟩
  · refine ⟨_, Prod.ext hreply rfl, ?_⟩
    rw [hstate, State.refreshAffected_eq_stamp]
    show s'.ledger = _
    rw [(apply_changes happly).ledger, hb]
    rfl
  · exact absurd (EscrowChecked.removal h.checked h.loop hwf ⟨rfl, rfl⟩ honce hfree) hnot

variable {s' : State} {ev : JournalEvent}

lemma ReopenDue.reverses_cases (happly : e.state.apply P cfg ev = .ok s')
    (hb : ev.body = .escrow .reorged h.written) {id target : String}
    (hr : s'.ledger.Reverses id target) :
    (∃ c ∈ h.written.ledgers, c.transactionID = id ∧ c.reversesTransactionID = target) ∨
      e.state.ledger.Reverses id target := by
  obtain ⟨c, hc, hkind, hreverses⟩ := hr
  rw [(apply_changes happly).ledger, hb] at hc
  rcases Ledger.lookup_addAll hc with ⟨hmem, hid⟩ | hold
  · exact .inl ⟨c, hmem, hid, hreverses⟩
  · exact .inr ⟨c, hold, hkind, hreverses⟩

lemma ReopenDue.safe (happly : e.state.apply P cfg ev = .ok s')
    (hb : ev.body = .escrow .reorged h.written)
    (hchecked : EscrowChecked P cfg e.state (ctx.now 0) callID .reorged h.written)
    (honce : e.state.RemovesOnce callID hash)
    (hfree : e.state.CorrectionsFree P (ctx.now 0) callID hash evidence)
    (hcorrects : e.state.CorrectsOnce P (ctx.now 0) callID hash evidence) :
    SafelyReopened P cfg e.state s' callID pre t post
      (call.reopenedAt P e.state.ledger pre t post canonical.canonicalBlockHash (ctx.now 0)) := by
  have hwf := reachable_wf h.reachable
  have hok := hwf.call _ _ h.checked.stored
  have hchanges := apply_changes happly
  have hledger := hchanges.ledger
  rw [hb] at hledger
  obtain ⟨hnodup, hagrees⟩ := hfree
  rw [h.corrections] at hnodup hagrees
  have hentries : ∀ id x, e.state.ledger.lookup id = some x → s'.ledger.lookup id = some x := by
    intro id x hx
    rw [hledger]
    refine Ledger.lookup_addAll_of_agree hx fun c hc hid => ?_
    rw [← hid] at hx
    have := hagrees c hc
    simp only [State.ledgerConflict, hx, any_some, decide_eq_false_iff_not, not_not] at this
    exact this.symm
  have hlive : ∀ u ∈ removedSuffix t post, u.state = .confirmed ∨ u.state = .reverted := by
    intro u hu
    have hne : u.state ≠ .reorged := by
      rcases h.checked.resolved with ht | ht
      · rw [removedSuffix, if_neg (by rw [ht]; decide)] at hu
        rcases mem_cons.mp hu with rfl | hu
        · rw [ht]; decide
        · exact (State.RemovesOnce.suffix h.checked).mp honce ht u hu
      · rw [removedSuffix, if_pos ht] at hu
        rw [mem_singleton.mp hu, ht]
        decide
    rcases (hok.sound.records u (h.mem_transitions u (.inr (.inl hu)))).outcome.2 with ho | ⟨ho, -⟩ <;>
      rw [EscrowTransition.outcome, if_neg hne] at ho
    · exact .inl (Option.some.inj ho)
    · exact .inr (Option.some.inj ho)
  refine ⟨?_, rfl, hchecked.snapshot, fun u hu => ⟨hlive u hu, ?_⟩, fun u hu => ?_,
    fun u hu hs hl => ?_, fun target htarget id => ⟨fun hr => ?_, ?_⟩, hentries⟩
  · rw [hchanges.escrowCalls, hb]
    show (e.state.escrowCalls.insert call.intent.callID _).lookup callID = _
    rw [lookup_insert_ite, if_pos hok.keyed.symm]
    rfl
  · refine ⟨u.removed (correctionOf P e.state.ledger call.intent canonical.canonicalBlockHash
      (ctx.now 0) u), ?_, rfl, rfl, rfl, rfl⟩
    exact mem_append_left _ (mem_append_right _ (List.mem_map.mpr ⟨u, hu, rfl⟩))
  · rcases hu with hu | hu
    · exact mem_append_left _ (mem_append_left _ hu)
    · exact mem_append_right _ hu
  · have hmem := h.mem_correctable.mpr ⟨hu, hs, hl⟩
    obtain ⟨c, hc, hkind, hreverses⟩ := h.exists_correction hmem
    refine ⟨c.transactionID, ⟨c, ?_, hkind, hreverses⟩, fun id hr => ?_⟩
    · rw [hledger]
      exact Ledger.lookup_addAll_of_mem hnodup hc _
    · rcases h.reverses_cases happly hb hr with ⟨d, hd, rfl, hdr⟩ | ⟨d, hd, hkind', hdr⟩
      · rw [h.ledgers_apart hd hc (hdr.trans hreverses.symm)]
      · have hin := all_iff.mp (hcorrects u hmem) id d hd hkind' hdr
        rw [h.corrections] at hin
        rw [← (hwf.ledger _ _ hd).1, h.ledgers_apart hin hc (hdr.trans hreverses.symm)]
  · rcases h.reverses_cases happly hb hr with ⟨c, hc, -, hcr⟩ | hold
    · obtain ⟨u, hu, -, hur, -⟩ := h.ledgers_reverse hc
      exact absurd (hur.symm.trans hcr) (htarget u (h.mem_correctable.mp hu).1)
    · exact hold
  · rintro ⟨c, hc, hkind, hreverses⟩
    exact ⟨c, hentries id c hc, hkind, hreverses⟩

end

/-- A reopening with a valid quorum that is accepted is safe exactly if no correction of the
removed entries, other than those it writes, was stored before. -/
theorem reopening_safe_iff
    (h : ReopenDue P cfg ctx e callID hash call pre t post evidence canonical) {call' : EscrowCall}
    {e' : Engine} (haccepted : e.call P cfg ctx (.reopenEscrowReorg callID hash evidence) =
      (.ok (.call call'), e')) :
    SafelyReopened P cfg e.state e'.state callID pre t post call' ↔
      e.state.CorrectsOnce P (ctx.now 0) callID hash evidence := by
  rcases h.outcome with ⟨hchecked, ev, s', hb, happly, hreply, hstate⟩ | ⟨-, ⟨err, herr⟩, -⟩
  swap
  · rw [haccepted] at herr
    cases herr
  obtain ⟨honce, hfree⟩ := removal_rejected h.checked h.loop hchecked
  rw [haccepted] at hreply hstate
  simp only [State.refreshAffected_eq_stamp] at hstate
  constructor
  · intro hsafe u hu
    refine all_iff.mpr fun id c hc hkind hreverses => ?_
    -- The stored correction and the written one both reverse the entry.
    obtain ⟨hmem, hs, hl⟩ := h.mem_correctable.mp hu
    obtain ⟨d, hd, hkind', hreverses'⟩ := h.exists_correction hu
    have hstored : e'.state.ledger.lookup d.transactionID = some d := by
      rw [hstate]
      show s'.ledger.lookup d.transactionID = some d
      rw [(apply_changes happly).ledger, hb]
      have hnodup := hfree.1
      rw [h.corrections] at hnodup
      exact Ledger.lookup_addAll_of_mem hnodup hd _
    obtain ⟨_, -, hunique⟩ := hsafe.reversed u hmem hs hl
    have hid : id = d.transactionID :=
      (hunique id ⟨c, hsafe.entries id c hc, hkind, hreverses⟩).trans
        (hunique d.transactionID ⟨d, hstored, hkind', hreverses'⟩).symm
    have hsame := hsafe.entries id c hc
    rw [hid, hstored] at hsame
    rw [h.corrections, ← Option.some.inj hsame]
    exact hd
  · intro hcorrects
    have hsafe := h.safe happly hb hchecked honce hfree hcorrects
    obtain ⟨⟩ := hreply
    rw [hstate]
    exact ⟨hsafe.stored, hsafe.quarantined, hsafe.snapshot, hsafe.removed, hsafe.kept,
      hsafe.reversed, hsafe.others, hsafe.entries⟩

end

section

open Sample

lemma Sample.funding_removed {s : State} (hfinal : s.status.finalizationPaused = false)
    (htrusted : s.status.lastTrusted = some checkpoint) {call : EscrowCall} {post : List EscrowTransition}
    (hstored : s.escrowCalls.lookup intent.callID = some call)
    (htransitions : call.transitions = funding :: post) :
    TransitionChecked config s (clock 8) intent.callID (hex32 1) call [] funding post
      (blockReports 1 80 8 3) true (canonicalBlock 1 80 8 3) where
  stored := hstored
  split := by rw [htransitions]; exact if_pos rfl
  resolved := .inl rfl
  live := ⟨hfinal, by rw [htrusted]; decide⟩
  quorum := by rw [htrusted]; decide

lemma Sample.funding_due {e : Engine} {is : List Input} (hrun : run is = some e) (hlive : Live e.state)
    (hstored : e.state.escrowCalls.lookup intent.callID = some fundedCall.1) :
    ReopenDue primitives config (ctx 8) e intent.callID (hex32 1) fundedCall.1 [] funding []
      (blockReports 1 80 8 3) (canonicalBlock 1 80 8 3) :=
  ⟨⟨ctx 0, is, hrun⟩, funding_removed hlive.final hlive.trusted hstored rfl, ready 8 (by decide)⟩

/-- With this ledger the reopening of the funding is accepted. -/
lemma Sample.funding_reopened {e : Engine} (h : ReopenDue primitives config (ctx 8) e intent.callID
      (hex32 1) fundedCall.1 [] funding [] (blockReports 1 80 8 3) (canonicalBlock 1 80 8 3))
    {ts : List LedgerTransaction} (hledger : e.state.ledger = Ledger.addAll ∅ ts)
    (hfree : ([funding].filterMap (correctionOf primitives (Ledger.addAll ∅ ts) fundedCall.1.intent
      (hex32 3) (clock 8))).all fun c => ((Ledger.addAll ∅ ts).lookup c.transactionID).isNone) :
    ∃ call' e', e.call primitives config (ctx 8)
        (.reopenEscrowReorg intent.callID (hex32 1) (blockReports 1 80 8 3)) = (.ok (.call call'), e') ∧
      e'.state.ledger = (Ledger.addAll ∅ ts).addAll ([funding].filterMap (correctionOf primitives
        (Ledger.addAll ∅ ts) fundedCall.1.intent (hex32 3) (clock 8))) := by
  have hwritten : h.written.ledgers = [funding].filterMap (correctionOf primitives
      (Ledger.addAll ∅ ts) fundedCall.1.intent (hex32 3) (clock 8)) := by rw [← hledger]; rfl
  obtain ⟨e', hcall, he'⟩ := h.succeeds
    ((State.RemovesOnce.suffix h.checked).mpr (by rintro - u ⟨⟩)) (by
      constructor
      · rw [h.corrections, hwritten]
        exact (by simp [filterMap_cons]; split <;> simp)
      · intro c hc
        rw [h.corrections, hwritten] at hc
        have hnone := List.all_eq_true.mp hfree c hc
        simp only [isNone_iff_eq_none] at hnone
        simp only [State.ledgerConflict, hledger, hnone]
        rfl)
  exact ⟨_, e', hcall, by rw [he', hwritten, hledger]⟩

theorem reopening_safe_iff_funded : ∃ e call' e', run funded = some e ∧
      e.call primitives config (ctx 8)
        (.reopenEscrowReorg intent.callID (hex32 1) (blockReports 1 80 8 3)) =
        (.ok (.call call'), e') ∧
      SafelyReopened primitives config e.state e'.state intent.callID [] funding [] call' := by
  obtain ⟨e, hrun, hlive, hstored, -, -, hledger⟩ := funded_reached
  have hdue := funding_due hrun hlive hstored
  obtain ⟨call', e', hcall, -⟩ :=
    funding_reopened hdue hledger (by set_option maxRecDepth 4000 in decide)
  refine ⟨e, call', e', hrun, hcall, (reopening_safe_iff hdue hcall).mpr ?_⟩
  simp only [State.CorrectsOnce, State.correctable, State.corrections, hdue.checked.escrowTransition,
    hledger, elim_some]
  decide

/-- The entry of the funding is reversed by hand. -/
def Sample.undone : LedgerTransaction where
  transactionID := "undo"
  organizationID := "org"
  kind := .correction
  referenceID := "call"
  reversesTransactionID := funding.ledgerTransactionID
  postings := (fundedCall.2.map (reversePostings ·.postings)).head?.getD []
  recordedAt := clock 5

lemma Sample.undone_reached : ∃ e, run (funded ++ [.call (ctx 5) (.post undone)]) = some e ∧
    Live e.state ∧ e.state.escrowCalls.lookup intent.callID = some fundedCall.1 ∧
    e.state.ledger = Ledger.addAll ∅ (fundedCall.2 ++ [undone]) := by
  obtain ⟨e, hrun, hlive, hstored, -, -, hledger⟩ := funded_reached
  have hplan : (Op.post undone).plan primitives config (ctx 5) e.state = .write
      { draft := { eventAt := clock 5, key := "undo", body := .ledgerPosted undone }
        reply := fun _ => .transaction undone } := by
    have hvalid : undone.validate = .ok () := by decide
    have hfresh : (Ledger.addAll ∅ fundedCall.2).lookup undone.transactionID = none := by
      set_option maxRecDepth 4000 in decide
    have hcorrects : validateCorrection (Ledger.addAll ∅ fundedCall.2) undone = .ok () := by
      set_option maxRecDepth 4000 in decide
    simp only [Op.plan, post, hledger, hvalid, hfresh, hcorrects, Plan.check]
    rfl
  have happend := Journal.append_eq_ok (P := primitives) e.journal
    (d := { eventAt := clock 5, key := "undo", body := .ledgerPosted undone }) (by decide) (by decide)
    (by decide)
  have hchain := (reachable_wf ⟨ctx 0, funded, hrun⟩).chain
  have happly : e.state.apply primitives config (e.journal.eventOf primitives
      { eventAt := clock 5, key := "undo", body := .ledgerPosted undone }) =
      .ok ((e.state.applyLedger undone).withChain config) :=
    apply_of_body hchain (by rintro st ⟨⟩) rfl
  have hcall : e.call primitives config (ctx 5) (.post undone) =
      e.perform primitives config ((ctx 5).canceled 0)
        ((Op.post undone).plan primitives config (ctx 5) e.state) :=
    Engine.call_single fun h => h
  rw [hplan] at hcall
  simp only [Engine.perform, Engine.commit, show (ctx 5).canceled 0 = false from rfl, happend,
    happly] at hcall
  refine ⟨_, run_call hrun hcall, ⟨hlive.healthy, hlive.final, hlive.trusted⟩, hstored, ?_⟩
  show e.state.ledger.insert "undo" undone = _
  rw [hledger]
  rfl

/-- The correction that the reopening of the funding writes. -/
def Sample.rewritten : LedgerTransaction :=
  reverseEscrowLedger primitives intent funding (fundedCall.2.headD undone) (hex32 3) (clock 8)

/-- The reopening is accepted, and the entry of the funding has two corrections. -/
theorem reopened_reversed_twice : ∃ e call' e',
      run (funded ++ [.call (ctx 5) (.post undone)]) = some e ∧
      ReopenDue primitives config (ctx 8) e intent.callID (hex32 1) fundedCall.1 [] funding []
        (blockReports 1 80 8 3) (canonicalBlock 1 80 8 3) ∧
      e.call primitives config (ctx 8)
        (.reopenEscrowReorg intent.callID (hex32 1) (blockReports 1 80 8 3)) =
        (.ok (.call call'), e') ∧
      ∃ id, id ≠ "undo" ∧ e'.state.ledger.Reverses "undo" funding.ledgerTransactionID ∧
        e'.state.ledger.Reverses id funding.ledgerTransactionID := by
  obtain ⟨e, hrun, hlive, hstored, hledger⟩ := undone_reached
  have hdue := funding_due hrun hlive hstored
  obtain ⟨call', e', hcall, he'⟩ :=
    funding_reopened hdue hledger (by set_option maxRecDepth 4000 in decide)
  have hledgers : e'.state.ledger.lookup "undo" = some undone ∧
      e'.state.ledger.lookup rewritten.transactionID = some rewritten := by
    rw [he']
    set_option maxRecDepth 4000 in decide
  exact ⟨e, call', e', hrun, hdue, hcall, rewritten.transactionID, by decide,
    ⟨undone, hledgers.1, rfl, rfl⟩, ⟨rewritten, hledgers.2, rfl, rfl⟩⟩

end

end FlowOps.Reconciliation

import FlowOps.Common.SharedLog
import FlowOps.ControlPlane.Commits

/-!
# Several processes on one journal

`internal/controlplane/postgres_journal.go`: the events are rows of a table that several
processes append to. A process reads the table when it opens the journal, decides by the
records that it has built from its own copy, and compares the head of the table with that
copy in the transaction that inserts the event.

An operation holds the mutex of its
lifecycle from its first read until `Append` has returned, so between the two only other
processes act, and one step of the system is what a process does up to the end of one
`Append`. A sweep appends once for each expired request, with the steps of other processes
in between.
-/

namespace FlowOps.ControlPlane

open List

/-! ## The journal -/

/-- `PostgresJournal` (postgres_journal.go:24). -/
structure PostgresJournal where
  events : List Event
  fault : Option Err := none

/-- How a transaction goes: the context is cancelled, or the database answers with an error
up to the read of the head, on the insert, or on the commit, which may have taken effect
all the same. -/
structure Transaction where
  cancelled : Option String := none
  start : Option String := none
  insert : Option String := none
  commit : Option String := none
  committed : Bool := true

variable (P : Primitives)

/-- The fold of `OpenPostgresJournal` over the rows (postgres_journal.go:46-56). -/
def loadEvents (rows : List Event) : Except Err (List Event) :=
  foldCheck (fun events e =>
    (validateEvent P e (events.length + 1) (lastHash events)).bind fun () => .ok (events ++ [e])) [] rows

/-- `OpenPostgresJournal` (postgres_journal.go:32), with the failure of the query. -/
def openPostgresJournal (rows : List Event) (failure : Option String) :
    Except Err PostgresJournal :=
  match failure with
  | some text => .error (.wrapped "query control events" (.message text))
  | none => (loadEvents P rows).bind fun events => .ok { events }

/-- The sequence number of the last row, 0 for none. -/
def headSequence (rows : List Event) : ℕ := (rows.getLast?.map (·.sequence)).getD 0

/-- What `Append` checks before it compares the heads (postgres_journal.go:64-91). -/
def PostgresJournal.begin (j : PostgresJournal) (tx : Transaction) (d : Draft) : Except Err Unit :=
  match tx.cancelled with
  | some text => .error (.message text)
  | none =>
    if d.requestID = "" then .error (.message "event kind and request ID are required")
    else
      match j.fault with
      | some err => .error (.wrapped "journal is faulted" err)
      | none =>
        match tx.start with
        | some text => .error (.message text)
        | none => .ok ()

/-- The event for the insert (postgres_journal.go:102-114). Sequence number and hash of the
head are now those of the copy. The column of the hashes is UNIQUE. -/
def PostgresJournal.insert (P : Primitives) (rows : List Event) (j : PostgresJournal)
    (tx : Transaction) (d : Draft) : Except Err Event :=
  let e := eventOf P j.events d
  match validateEvent P e e.sequence (lastHash rows) with
  | .error err => .error (.wrapped "validate event before insert" err)
  | .ok () =>
    match tx.insert with
    | some text => .error (.wrapped "insert control event" (.message text))
    | none =>
      if rows.any (·.hash = e.hash) then
        .error (.wrapped "insert control event" (.message "duplicate hash"))
      else .ok e

/-- `PostgresJournal.Append` (postgres_journal.go:63): the rows after it, the journal and
the result. -/
def PostgresJournal.append (rows : List Event) (j : PostgresJournal) (tx : Transaction) (d : Draft)
    : List Event × PostgresJournal × Except Err Event :=
  match j.begin tx d with
  | .error err => (rows, j, .error err)
  | .ok () =>
    if headSequence rows ≠ j.events.length ∨ lastHash rows ≠ lastHash j.events then
      (rows, { j with fault := some .journalStale }, .error .journalStale)
    else
      match j.insert P rows tx d with
      | .error err => (rows, j, .error err)
      | .ok e =>
        match tx.commit with
        | some text =>
          (if tx.committed then rows ++ [e] else rows, { j with fault := some (.message text) },
            .error (.wrapped "commit control event" (.message text)))
        | none => (rows ++ [e], { j with events := j.events ++ [e] }, .ok e)

/-! ## Processes -/

/-- A lifecycle on its journal. While a sweep is under way it holds the mutex, with the
time of the sweep and the requests that are left. -/
structure Process where
  journal : PostgresJournal
  live : Lifecycle
  sweep : Option (Time × List String) := none

structure System where
  rows : List Event := []
  processes : ℕ → Option Process := fun _ => none

/-- `New` on the journal that was opened. -/
def openProcess (rows : List Event) (failure : Option String) : Except Err Process :=
  (openPostgresJournal P rows failure).bind fun journal =>
  (rebuild P journal.events).bind fun live => .ok { journal, live }

/-- What an operation plans; a sweep plans each expiry by itself. -/
def Lifecycle.plan (c : Config) (l : Lifecycle) : Call → Except Err Plan
  | .submit env _ intent => l.submit P c env intent
  | .decide now _ requestID requestDigest action actor note =>
    l.decide now requestID requestDigest action actor note
  | .issue env _ requestID => l.issue P c env requestID
  | .sweep .. => .ok (.reply (.record none))

/-- The state after an event is offered, which is as before if it is refused. -/
def Lifecycle.offer (l : Lifecycle) (e : Event) : Lifecycle :=
  match applyEvent P l e with
  | .ok l' => l'
  | .error _ => l

/-- Append an event and apply it. A sweep goes on if both succeed. -/
def Process.commit (rows : List Event) (q : Process) (tx : Transaction) (d : Draft)
    (rest : Option (Time × List String)) : List Event × Process × Except Err Event :=
  match q.journal.append P rows tx d with
  | (rows', journal, .error err) => (rows', { q with journal, sweep := none }, .error err)
  | (rows', journal, .ok e) =>
    (rows', { journal, live := q.live.offer P e,
              sweep := if (applyEvent P q.live e).toBool then rest else none }, .ok e)

/-- What a process does. It opens the journal once: after a restart it is another process. -/
inductive Action where
  | start (failure : Option String)
  | call (i : Call) (tx : Transaction)
  | next (tx : Transaction)

/-- A step of a process that has opened the journal: what it leaves in the table, and the
result of `Append` if it has called that. -/
def Process.step (c : Config) (rows : List Event) (q : Process) :
    Action → List Event × Process × Option (Except Err Event)
  | .start _ => (rows, q, none)
  | .call i tx =>
    match q.sweep with
    | some _ => (rows, q, none)
    | none =>
      match i with
      | .sweep now _ => (rows, { q with sweep := some (now, q.live.expiredRequests now) }, none)
      | i =>
        match q.live.plan P c i with
        | .ok (.commit d _ _) =>
          let (rows', q', result) := q.commit P rows tx d none
          (rows', q', some result)
        | _ => (rows, q, none)
  | .next tx =>
    match q.sweep with
    | none => (rows, q, none)
    | some (_, []) => (rows, { q with sweep := none }, none)
    | some (now, requestID :: rest) =>
      match q.live.records.lookup requestID with
      -- The zero record, whose empty id `Append` refuses.
      | none => (rows, { q with sweep := none }, none)
      | some record =>
        let (rows', q', result) := q.commit P rows tx
          ⟨now, record.requestID, .expired "approval window elapsed during sweep"⟩ (some (now, rest))
        (rows', q', some result)

/-- An action of the process `p`. -/
def System.step (P : Primitives) (c : Config) (s : System) (p : ℕ) (a : Action) :
    System × Option (Except Err Event) :=
  match s.processes p with
  | none =>
    match a with
    | .start failure =>
      match openProcess P s.rows failure with
      | .ok q => ({ s with processes := Function.update s.processes p (some q) }, none)
      | .error _ => (s, none)
    | _ => (s, none)
  | some q =>
    let (rows, q', result) := q.step P c s.rows a
    ({ rows, processes := Function.update s.processes p (some q') }, result)

/-! ## What a step does -/

structure Writable (P : Primitives) (rows : List Event) (j : PostgresJournal) (d : Draft) : Prop where
  fault : j.fault = none
  sequence : headSequence rows = j.events.length
  hash : lastHash rows = lastHash j.events
  valid : validateEvent P (eventOf P j.events d) (j.events.length + 1) (lastHash j.events) = .ok ()

/-- What `Append` does. -/
inductive Appended (P : Primitives) (rows : List Event) (j : PostgresJournal) (d : Draft) :
    List Event → PostgresJournal → Except Err Event → Prop
  | refused {err : Err} (h : err ≠ .journalStale) : Appended P rows j d rows j (.error err)
  | stale : Appended P rows j d rows { j with fault := some .journalStale } (.error .journalStale)
  | aborted {text : String} {err : Err} (h : err ≠ .journalStale) :
      Appended P rows j d rows { j with fault := some (.message text) } (.error err)
  | lost {text : String} {err : Err} (h : Writable P rows j d) (herr : err ≠ .journalStale) :
      Appended P rows j d (rows ++ [eventOf P j.events d]) { j with fault := some (.message text) }
        (.error err)
  | stored (h : Writable P rows j d) : Appended P rows j d (rows ++ [eventOf P j.events d])
      { j with events := j.events ++ [eventOf P j.events d] } (.ok (eventOf P j.events d))

variable {rows : List Event} {tx : Transaction} {d : Draft}

section

variable {P : Primitives} {j : PostgresJournal} {err : Err}

lemma begin_eq_ok (h : j.begin tx d = .ok ()) : j.fault = none := by
  unfold PostgresJournal.begin at h
  split at h
  · cases h
  · split_ifs at h
    split at h
    · cases h
    · assumption

lemma begin_ne_stale (h : j.begin tx d = .error err) : err ≠ .journalStale := by
  rintro rfl
  unfold PostgresJournal.begin at h
  split at h
  · cases h
  · split_ifs at h
    · cases h
    · split at h
      · cases h
      · split at h <;> cases h

lemma insert_eq_ok {e : Event} (h : j.insert P rows tx d = .ok e) : e = eventOf P j.events d ∧
    validateEvent P (eventOf P j.events d) (j.events.length + 1) (lastHash rows) = .ok () := by
  unfold PostgresJournal.insert at h
  dsimp only at h
  split at h
  · cases h
  · rename_i hvalid
    split at h
    · cases h
    · split_ifs at h
      exact ⟨(Except.ok.inj h).symm, hvalid⟩

lemma insert_ne_stale (h : j.insert P rows tx d = .error err) : err ≠ .journalStale := by
  rintro rfl
  unfold PostgresJournal.insert at h
  dsimp only at h
  split at h
  · cases h
  · split at h
    · cases h
    · split_ifs at h
      cases h

lemma append_appended (P : Primitives) (rows : List Event) (j : PostgresJournal) (tx : Transaction)
    (d : Draft) : Appended P rows j d (j.append P rows tx d).1 (j.append P rows tx d).2.1
      (j.append P rows tx d).2.2 := by
  unfold PostgresJournal.append
  split
  · rename_i err hbegin
    exact .refused (begin_ne_stale hbegin)
  · rename_i hbegin
    split
    · exact .stale
    · rename_i hhead
      rw [not_or, not_not, not_not] at hhead
      split
      · rename_i err hinsert
        exact .refused (insert_ne_stale hinsert)
      · rename_i e hinsert
        obtain ⟨rfl, hvalid⟩ := insert_eq_ok hinsert
        have hwritable : Writable P rows j d := ⟨begin_eq_ok hbegin, hhead.1, hhead.2, hhead.2 ▸ hvalid⟩
        split
        · split_ifs
          · exact .lost hwritable (by simp)
          · exact .aborted (by simp)
        · exact .stored hwritable

end

/-! ## The chain -/

/-- The events have the sequence numbers 1, 2, ..., and each contains the hash of the one
before. -/
def HashChain (events : List Event) : Prop :=
  ∀ k e, events[k]? = some e → e.sequence = k + 1 ∧ e.previousHash = lastHash (events.take k) ∧
    e.hash = hashEvent P e.toHashInput

variable {e : Event}

section

variable {P : Primitives} {events : List Event}

lemma hashChain_nil : HashChain P [] := by
  intro k e h
  cases h

lemma HashChain.snoc (h : HashChain P rows)
    (hvalid : validateEvent P e (rows.length + 1) (lastHash rows) = .ok ()) :
    HashChain P (rows ++ [e]) := by
  intro k e' hk
  rcases lt_trichotomy k rows.length with hlt | rfl | hlt
  · rw [List.getElem?_append_left hlt] at hk
    rw [take_append_of_le_length hlt.le]
    exact h k e' hk
  · rw [List.getElem?_append_right le_rfl, Nat.sub_self] at hk
    obtain rfl := Option.some.inj hk
    simp only [validateEvent, guard_ok, not_not] at hvalid
    rw [take_left]
    exact ⟨hvalid.2.1, hvalid.2.2.2.1, hvalid.2.2.2.2.1⟩
  · rw [List.getElem?_eq_none (by simp; omega)] at hk
    cases hk

lemma HashChain.headSequence (h : HashChain P rows) : headSequence rows = rows.length := by
  rcases eq_nil_or_concat' rows with rfl | ⟨init, last, rfl⟩
  · rfl
  · have hlast := (h init.length last (by simp)).1
    simp [ControlPlane.headSequence, hlast]

lemma loadEvents_eq_ok (h : loadEvents P rows = .ok events) : events = rows := by
  induction rows using List.reverseRecOn generalizing events with
  | nil => exact (Except.ok.inj h).symm
  | append_singleton rows e ih =>
    rw [loadEvents, foldCheck_append_ok] at h
    obtain ⟨before, hbefore, h⟩ := h
    rw [foldCheck_singleton] at h
    obtain ⟨-, h⟩ := bind_unit_eq_ok.mp h
    rw [← ih hbefore]
    exact (Except.ok.inj h).symm

lemma openProcess_eq_ok {failure : Option String} {q : Process}
    (h : openProcess P rows failure = .ok q) :
    q.journal = { events := rows } ∧ rebuild P rows = .ok q.live ∧ q.sweep = none := by
  obtain ⟨journal, hjournal, h⟩ := bind_eq_ok.mp h
  obtain ⟨live, hlive, h⟩ := bind_eq_ok.mp h
  cases h
  unfold openPostgresJournal at hjournal
  split at hjournal
  · cases hjournal
  · obtain ⟨events, hevents, hjournal⟩ := bind_eq_ok.mp hjournal
    cases hjournal
    obtain rfl := loadEvents_eq_ok hevents
    exact ⟨rfl, hlive, rfl⟩

end

/-! ## Processes -/

/-- The records that a process has built from these events. -/
def accepted (events : List Event) : Lifecycle := events.foldl (Lifecycle.offer P) {}

/-- What holds of a process: it has applied its copy of the events, and the rest of a sweep
is still to be expired. -/
structure Process.OK (P : Primitives) (q : Process) : Prop where
  live : q.live = accepted P q.journal.events
  sweep : ∀ now ids, q.sweep = some (now, ids) → ids.Nodup ∧ ∀ id ∈ ids, Expirable q.live now id

/-- The operation of which an action appends an event. -/
def Action.Appends : Action → Call → Prop
  | .start _, _ => False
  | .call i _, j => j = i
  | .next _, j => ∃ now failures, j = .sweep now failures

/-- What a step of a process does: it appends nothing, or the event that one of its
operations has decided on. -/
inductive Process.Stepped (P : Primitives) (c : Config) (rows : List Event) (q : Process) (a : Action) :
    List Event → Process → Option (Except Err Event) → Prop
  | idle {q' : Process} (hjournal : q'.journal = q.journal) : Stepped P c rows q a rows q' none
  | append {rows' : List Event} {q' : Process} {i : Call} {d : Draft} {answer : Answer}
      {result : Except Err Event} (hi : a.Appends i) (hcommit : Commit P c q.live i d answer)
      (happend : Appended P rows q.journal d rows' q'.journal result) :
      Stepped P c rows q a rows' q' (some result)

section

variable {P : Primitives} {c : Config} {q : Process} {rest : Option (Time × List String)}
  {l : Lifecycle} {rows' : List Event} {result : Option (Except Err Event)}

lemma accepted_snoc (events : List Event) :
    accepted P (events ++ [e]) = (accepted P events).offer P e := by
  rw [accepted, foldl_append]
  rfl

lemma offer_of_applied {l' : Lifecycle} (h : Applied P l e l') : l.offer P e = l' := by
  rw [Lifecycle.offer, h.applyEvent]

lemma offer_cases (P : Primitives) (l : Lifecycle) (e : Event) :
    l.offer P e = l ∨ Applied P l e (l.offer P e) := by
  unfold Lifecycle.offer
  split
  · rename_i l' h
    exact .inr (applied_of_applyEvent h)
  · exact .inl rfl

lemma accepted_ok (P : Primitives) (events : List Event) : (accepted P events).OK P := by
  induction events using List.reverseRecOn with
  | nil => exact empty_ok
  | append_singleton events e ih =>
    rw [accepted_snoc]
    rcases offer_cases P (accepted P events) e with h | h
    · rwa [h]
    · exact ih.apply h

/-- What `New` accepts is what a process has that was there all the time. -/
lemma accepted_of_rebuild {events : List Event} (h : rebuild P events = .ok l) :
    accepted P events = l := by
  induction events using List.reverseRecOn generalizing l with
  | nil => exact Except.ok.inj h
  | append_singleton events e ih =>
    rw [rebuild, foldCheck_append_ok] at h
    obtain ⟨before, hbefore, h⟩ := h
    rw [foldCheck_singleton] at h
    rw [accepted_snoc, ih hbefore]
    exact offer_of_applied (applied_of_applyEvent h)

lemma Process.OK.lifecycle (h : q.OK P) : q.live.OK P := h.live ▸ accepted_ok P _

lemma commit_appended (P : Primitives) (rows : List Event) (q : Process) (tx : Transaction) (d : Draft)
    (rest : Option (Time × List String)) : Appended P rows q.journal d (q.commit P rows tx d rest).1
      (q.commit P rows tx d rest).2.1.journal (q.commit P rows tx d rest).2.2 := by
  have happended := append_appended P rows q.journal tx d
  unfold Process.commit
  split
  all_goals
    rename_i heq
    rw [heq] at happended
    exact happended

lemma commit_ok (h : q.OK P) (hrest : ∀ now ids, rest = some (now, ids) →
      ids.Nodup ∧ ∀ id ∈ ids, id ≠ d.requestID ∧ Expirable q.live now id) :
    (q.commit P rows tx d rest).2.1.OK P := by
  have happended := append_appended P rows q.journal tx d
  unfold Process.commit
  split
  · rename_i rows' journal err heq
    rw [heq] at happended
    refine ⟨?_, by simp⟩
    rw [h.live]
    cases happended <;> rfl
  · rename_i rows' journal e heq
    rw [heq] at happended
    cases happended with
    | stored hwritable =>
      refine ⟨?_, fun now ids hsweep => ?_⟩
      · rw [h.live]
        exact (accepted_snoc _).symm
      · dsimp only at hsweep
        split_ifs at hsweep with happlied
        obtain ⟨hnodup, hids⟩ := hrest now ids hsweep
        refine ⟨hnodup, fun id hid => ?_⟩
        obtain ⟨hne, r, hr, hexpired⟩ := hids id hid
        refine ⟨r, ?_, hexpired⟩
        rcases offer_cases P q.live (eventOf P q.journal.events d) with hsame | hnew
        · exact hsame.symm ▸ hr
        · exact (hnew.lookup_of_ne hne).trans hr

lemma planned_of_plan {i : Call} {plan : Plan} (h : q.live.plan P c i = .ok plan) :
    Planned P c q.live i plan := by
  cases i with
  | submit => exact submit_planned h
  | decide => exact decide_planned h
  | issue => exact issue_planned h
  | sweep =>
    cases h
    exact .record

lemma Process.step_stepped (h : q.OK P) (a : Action) : Stepped P c rows q a (q.step P c rows a).1
    (q.step P c rows a).2.1 (q.step P c rows a).2.2 ∧ (q.step P c rows a).2.1.OK P := by
  cases a with
  | start failure => exact ⟨.idle rfl, h⟩
  | call i tx =>
    simp only [step]
    split
    · exact ⟨.idle rfl, h⟩
    · split
      · rename_i now failures
        refine ⟨.idle rfl, h.live, fun now' ids hsweep => ?_⟩
        obtain ⟨rfl, rfl⟩ := Prod.mk.inj (Option.some.inj hsweep)
        exact ⟨nodup_expiredRequests _ _, fun id hid => mem_expiredRequests hid⟩
      · split
        · rename_i d context answer hplan
          cases planned_of_plan hplan with
          | commit hcommit =>
            exact ⟨.append rfl hcommit (commit_appended P rows q tx d none), commit_ok h (by simp)⟩
        · exact ⟨.idle rfl, h⟩
  | next tx =>
    simp only [step]
    split
    · exact ⟨.idle rfl, h⟩
    · exact ⟨.idle rfl, h.live, by simp⟩
    · rename_i now requestID rest hsweep
      obtain ⟨hnodup, hexpirable⟩ := h.sweep now _ hsweep
      obtain ⟨hnotMem, hnodup⟩ := nodup_cons.mp hnodup
      obtain ⟨r, hr, hstate, htime⟩ := hexpirable requestID mem_cons_self
      have hid := (h.lifecycle.record hr).1
      have hcommit : Commit P c q.live (.sweep now fun _ => none)
          ⟨now, r.requestID, .expired "approval window elapsed during sweep"⟩ (.stored requestID) :=
        .expire hr hstate htime (by decide) (by simp)
      simp only [hr]
      refine ⟨.append ⟨now, fun _ => none, rfl⟩ hcommit (commit_appended P rows q tx _ _),
        commit_ok h ?_⟩
      intro now' ids heq
      obtain ⟨rfl, rfl⟩ := Prod.mk.inj (Option.some.inj heq)
      refine ⟨hnodup, fun id hmem => ⟨?_, hexpirable id (mem_cons_of_mem _ hmem)⟩⟩
      rintro rfl
      exact hnotMem (hid ▸ hmem)

variable {a : Action} {q' : Process}

lemma Process.Stepped.rows_cases (h : Process.Stepped P c rows q a rows' q' result) :
    rows' = rows ∨ ∃ i d answer, a.Appends i ∧ Commit P c q.live i d answer ∧
      Writable P rows q.journal d ∧ rows' = rows ++ [eventOf P q.journal.events d] := by
  cases h with
  | idle => exact .inl rfl
  | @append _ _ i d answer _ hi hcommit happend =>
    generalize q'.journal = j' at happend
    cases happend with
    | refused | stale | aborted => exact .inl rfl
    | lost hw | stored hw => exact .inr ⟨i, d, answer, hi, hcommit, hw, rfl⟩

lemma Process.Stepped.stale (h : Process.Stepped P c rows q a rows' q' result)
    (hstale : result = some (.error .journalStale)) : q'.journal.fault.isSome := by
  cases h with
  | idle => cases hstale
  | append hi hcommit happend =>
    obtain rfl := Option.some.inj hstale
    generalize q'.journal = j' at happend ⊢
    cases happend with
    | refused h | aborted h | lost _ h => exact absurd rfl h
    | stale => rfl

end

end FlowOps.ControlPlane

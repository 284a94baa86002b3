import Mathlib.Data.List.Infix
import Mathlib.Logic.Function.Basic

/-!
# A log with several writers

Each writer reads the log once and keeps a copy, to which it adds what it appends. Before
it appends it compares the length of its copy with that of the log, and stops for good if
they differ. It also stops after an append whose outcome it does not know.

* `Step.copies`: a copy is always a prefix of the log.
* `Log.Copies.eq_of_length`: so a writer that appends has seen the whole log.
* `Step.stopped`, `Step.store_of_stopped`: a writer that has stopped appends no more.
-/

namespace FlowOps.SharedLog

open Function List

structure Writer (E : Type) where
  copy : List E
  stopped : Bool := false

structure Log (ι E : Type) where
  store : List E := []
  writers : ι → Option (Writer E) := fun _ => none

variable {ι E : Type} {s s' : Log ι E} {p q : ι} {w : Writer E} {e : E}

def Log.push (s : Log ι E) (e : E) : Log ι E := { s with store := s.store ++ [e] }

/-- Every copy is a prefix of the log. -/
def Log.Copies (s : Log ι E) : Prop := ∀ p w, s.writers p = some w → w.copy <+: s.store

def Log.Stopped (s : Log ι E) (p : ι) : Prop := ∃ w, s.writers p = some w ∧ w.stopped

@[simp] lemma push_store : (s.push e).store = s.store ++ [e] := rfl
@[simp] lemma push_writers : (s.push e).writers = s.writers := rfl

lemma copies_empty : ({} : Log ι E).Copies := by
  rintro p w ⟨⟩

lemma Log.Copies.push (h : s.Copies) : (s.push e).Copies := fun q w hw =>
  (h q w hw).trans (prefix_append _ _)

lemma Log.Copies.eq_of_length (h : s.Copies) (hw : s.writers p = some w)
    (hhead : w.copy.length = s.store.length) : w.copy = s.store := (h p w hw).eq_of_length hhead

variable [DecidableEq ι]

def Log.setWriter (s : Log ι E) (p : ι) (w : Writer E) : Log ι E :=
  { s with writers := update s.writers p (some w) }

/-- What a writer can do. An append is `lost` if it has happened and the writer was told
otherwise. -/
inductive Step (p : ι) (s : Log ι E) : Log ι E → Prop
  | idle : Step p s s
  | read (h : s.writers p = none) : Step p s (s.setWriter p ⟨s.store, false⟩)
  | stop {w : Writer E} (h : s.writers p = some w) : Step p s (s.setWriter p { w with stopped := true })
  | append {w : Writer E} {e : E} (h : s.writers p = some w) (hrun : w.stopped = false)
      (hhead : w.copy.length = s.store.length) :
      Step p s ((s.push e).setWriter p { w with copy := w.copy ++ [e] })
  | lost {w : Writer E} {e : E} (h : s.writers p = some w) (hrun : w.stopped = false)
      (hhead : w.copy.length = s.store.length) :
      Step p s ((s.push e).setWriter p { w with stopped := true })

@[simp] lemma setWriter_store : (s.setWriter p w).store = s.store := rfl
@[simp] lemma setWriter_self : (s.setWriter p w).writers p = some w := update_self ..

lemma setWriter_of_ne (h : q ≠ p) : (s.setWriter p w).writers q = s.writers q :=
  update_of_ne h ..

lemma setWriter_eq_self (h : s.writers p = some w) : s.setWriter p w = s := by
  rw [Log.setWriter, ← h, update_eq_self]

lemma Log.Copies.setWriter (h : s.Copies) (hw : w.copy <+: s.store) : (s.setWriter p w).Copies := by
  intro q w' hw'
  by_cases hq : q = p
  · subst hq
    rw [setWriter_self] at hw'
    obtain rfl := Option.some.inj hw'
    exact hw
  · rw [setWriter_of_ne hq] at hw'
    exact h q w' hw'

lemma Step.copies (hs : Step p s s') (h : s.Copies) : s'.Copies := by
  cases hs with
  | idle => exact h
  | read => exact h.setWriter (prefix_refl _)
  | @stop w hw => exact h.setWriter (h p w hw)
  | append hw _ hhead =>
    refine h.push.setWriter ?_
    rw [h.eq_of_length hw hhead]
    exact prefix_refl _
  | @lost w e hw => exact h.push.setWriter ((h p w hw).trans (prefix_append _ _))

lemma Step.stopped (hs : Step q s s') (h : s.Stopped p) : s'.Stopped p := by
  obtain ⟨w, hw, hstopped⟩ := h
  by_cases hpq : p = q
  · subst hpq
    cases hs with
    | idle => exact ⟨w, hw, hstopped⟩
    | read hnone =>
      rw [hw] at hnone
      cases hnone
    | stop => exact ⟨_, setWriter_self, rfl⟩
    | append hw' hrun =>
      obtain rfl := Option.some.inj (hw.symm.trans hw')
      rw [hstopped] at hrun
      cases hrun
    | lost => exact ⟨_, setWriter_self, rfl⟩
  · refine ⟨w, ?_, hstopped⟩
    cases hs with
    | idle => exact hw
    | read | stop | append | lost => rwa [setWriter_of_ne hpq]

lemma Step.store_of_stopped (hs : Step p s s') (h : s.Stopped p) : s'.store = s.store := by
  obtain ⟨w, hw, hstopped⟩ := h
  cases hs with
  | idle | read | stop => rfl
  | append hw' hrun | lost hw' hrun =>
    obtain rfl := Option.some.inj (hw.symm.trans hw')
    rw [hstopped] at hrun
    cases hrun

end FlowOps.SharedLog

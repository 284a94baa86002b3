import Mathlib.Data.List.Infix
import Mathlib.Data.List.Basic

/-!
# Lines of a file

What Go's `bufio.Scanner` reads from a file: the parts between line feeds, with a last
part that is not terminated if it is not empty. A line has to fit into the buffer of the
scanner together with its line feed.
-/

namespace FlowOps

open List

abbrev Bytes := List UInt8

def newline : UInt8 := 10

def carriageReturn : UInt8 := 13

def splitLines : Bytes → List Bytes
  | [] => []
  | b :: bs =>
    if b = newline then [] :: splitLines bs
    else
      match splitLines bs with
      | [] => [[b]]
      | l :: ls => (b :: l) :: ls

/-- `dropCR` of `bufio.ScanLines`. -/
def dropCR (l : Bytes) : Bytes := if l.getLast? = some carriageReturn then l.dropLast else l

/-- The tokens of a scanner whose buffer holds `limit` bytes: `none` for `ErrTooLong`. -/
def scanLines (limit : ℕ) (file : Bytes) : Option (List Bytes) :=
  if (splitLines file).all (fun l => l.length < limit) then some ((splitLines file).map dropCR)
  else none

def terminate (l : Bytes) : Bytes := l ++ [newline]

section

variable {l t : Bytes} {ls : List Bytes} {limit : ℕ}

lemma splitLines_terminate (h : newline ∉ l) : splitLines (terminate l ++ t) = l :: splitLines t := by
  induction l with
  | nil => simp [terminate, splitLines]
  | cons b bs ih =>
    obtain ⟨hb, hbs⟩ := not_or.mp (mt mem_cons.mpr h)
    have hne : b ≠ newline := fun heq => hb heq.symm
    rw [show terminate (b :: bs) ++ t = b :: (terminate bs ++ t) from rfl, splitLines, if_neg hne, ih hbs]

lemma splitLines_tail (h : newline ∉ l) (hne : l ≠ []) : splitLines l = [l] := by
  induction l with
  | nil => exact absurd rfl hne
  | cons b bs ih =>
    obtain ⟨hb, hbs⟩ := not_or.mp (mt mem_cons.mpr h)
    rw [splitLines, if_neg fun heq => hb heq.symm]
    cases bs with
    | nil => rfl
    | cons b' bs => rw [ih hbs (cons_ne_nil _ _)]

lemma splitLines_flatMap (h : ∀ l ∈ ls, newline ∉ l) :
    splitLines (ls.flatMap terminate ++ t) = ls ++ splitLines t := by
  induction ls with
  | nil => rfl
  | cons l ls ih =>
    rw [flatMap_cons, append_assoc, splitLines_terminate (h l mem_cons_self),
      ih fun l hl => h l (mem_cons_of_mem _ hl), cons_append]

lemma splitLines_joined (hl : newline ∉ l) {l' : Bytes} (hl' : newline ∉ l') :
    splitLines (l ++ (terminate l' ++ t)) = (l ++ l') :: splitLines t := by
  rw [show l ++ (terminate l' ++ t) = terminate (l ++ l') ++ t by simp [terminate]]
  exact splitLines_terminate fun h => (mem_append.mp h).elim hl hl'

lemma dropCR_of_notMem (h : carriageReturn ∉ l) : dropCR l = l := by
  rw [dropCR, if_neg fun heq => h (List.mem_of_getLast? heq)]

end

/-! ## Lines within a file -/

def Whole (file : Bytes) : Prop := file = [] ∨ ∃ l, file = terminate l

/-- The file has this terminated line. -/
def HasLine (file l : Bytes) : Prop :=
  ∃ before after, Whole before ∧ newline ∉ l ∧ file = before ++ (terminate l ++ after)

/-- The file ends with this unterminated part, which may be empty. -/
def HasTail (file t : Bytes) : Prop := ∃ before, Whole before ∧ newline ∉ t ∧ file = before ++ t

section

variable {file l t x : Bytes}

lemma splitLines_ne_nil (h : l ≠ []) : splitLines l ≠ [] := by
  cases l with
  | nil => exact absurd rfl h
  | cons b bs =>
    rw [splitLines]
    split_ifs
    · simp
    · split <;> simp

lemma splitLines_append_terminate : splitLines (terminate l ++ t) = splitLines (terminate l) ++ splitLines t := by
  induction l with
  | nil => rfl
  | cons b bs ih =>
    rw [show terminate (b :: bs) ++ t = b :: (terminate bs ++ t) from rfl,
      show terminate (b :: bs) = b :: terminate bs from rfl, splitLines, splitLines, ih]
    split_ifs
    · rfl
    · cases hsplit : splitLines (terminate bs) with
      | nil => exact absurd hsplit (splitLines_ne_nil (by simp [terminate]))
      | cons l ls => rfl

lemma Whole.splitLines_append (h : Whole file) : splitLines (file ++ t) = splitLines file ++ splitLines t := by
  rcases h with rfl | ⟨l, rfl⟩
  · rfl
  · exact splitLines_append_terminate

lemma HasLine.mem_splitLines (h : HasLine file l) : l ∈ splitLines file := by
  obtain ⟨before, after, hbefore, hl, rfl⟩ := h
  rw [hbefore.splitLines_append, splitLines_terminate hl]
  simp

lemma HasLine.append (h : HasLine file l) : HasLine (file ++ x) l := by
  obtain ⟨before, after, hbefore, hl, rfl⟩ := h
  exact ⟨before, after ++ x, hbefore, hl, by simp⟩

lemma HasTail.mem_splitLines (h : HasTail file t) (hne : t ≠ []) : t ∈ splitLines file := by
  obtain ⟨before, hbefore, ht, rfl⟩ := h
  rw [hbefore.splitLines_append, splitLines_tail ht hne]
  simp

lemma hasTail_nil : HasTail [] [] := ⟨[], .inl rfl, not_mem_nil, rfl⟩

lemma HasTail.append (h : HasTail file t) (hx : newline ∉ x) : HasTail (file ++ x) (t ++ x) := by
  obtain ⟨before, hbefore, ht, rfl⟩ := h
  exact ⟨before, hbefore, fun h => (mem_append.mp h).elim ht hx, by simp⟩

lemma HasTail.hasLine (h : HasTail file t) (hl : newline ∉ l) : HasLine (file ++ terminate l) (t ++ l) := by
  obtain ⟨before, hbefore, ht, rfl⟩ := h
  exact ⟨before, [], hbefore, fun h => (mem_append.mp h).elim ht hl, by simp [terminate]⟩

lemma hasTail_terminate : HasTail (file ++ terminate l) [] :=
  ⟨file ++ terminate l, .inr ⟨file ++ l, by simp [terminate]⟩, not_mem_nil, by simp⟩

lemma exists_hasTail (file : Bytes) : ∃ t, HasTail file t := by
  induction file using List.reverseRecOn with
  | nil => exact ⟨[], hasTail_nil⟩
  | append_singleton file b ih =>
    by_cases hb : b = newline
    · subst hb
      exact ⟨[], hasTail_terminate (l := [])⟩
    · obtain ⟨t, ht⟩ := ih
      exact ⟨t ++ [b], ht.append (by simpa using fun h => hb h.symm)⟩

end

end FlowOps

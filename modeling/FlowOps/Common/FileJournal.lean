import FlowOps.Common.Lines
import Mathlib.Tactic

/-!
# Journals in a file

An append-only journal that keeps one event per line. Opening it reads the lines in order
and replays each event on the state; appending writes the text of the event and a line
feed. A crash in an append leaves any part of that line behind.

The text format is a parameter. What is assumed of it is what JSON objects on one line
give: an event is read back, its text has no line feed and no carriage return, and neither
a text cut short nor two texts on one line can be read.

* `load_contents`: what is read from a file of whole lines.
* `load_torn_iff`: a file with a torn last line that can be opened. Events that are appended
  to it are read back if and only if the tail was not a whole event without its line feed,
  the lines fit into the scanner and the events replay.
* `reopensIff_of_readsBack`, `reopensIff_of_fits`: the same for journals whose appends are known to
  replay, in terms of what is handed to the appends.
-/

namespace FlowOps

open List Option

lemma append_none {α : Type} (l : List α) : l ++ (none : Option α).toList = l := append_nil l

/-- A text format for events. -/
structure Codec (E : Type) where
  encode : E → Bytes
  decode : Bytes → Option E

/-- What a format gives for the events in `V`. -/
structure Codec.Lawful {E : Type} (c : Codec E) (V : E → Prop) : Prop where
  decode_encode : ∀ e, V e → c.decode (c.encode e) = some e
  no_newline : ∀ e, V e → newline ∉ c.encode e
  no_carriageReturn : ∀ e, V e → carriageReturn ∉ c.encode e
  truncated : ∀ e, V e → ∀ t, t <+: c.encode e → t ≠ c.encode e → c.decode t = none
  joined : ∀ e e', V e → V e' → c.decode (c.encode e ++ c.encode e') = none

/-- A format for the events of a list: the text of an event is its position, as that many
zeros between braces. -/
def Codec.numbered {E : Type} [DecidableEq E] (xs : List E) : Codec E where
  encode e := 123 :: (List.replicate (xs.idxOf e) 48 ++ [125])
  decode b := if b = 123 :: (List.replicate (b.length - 2) 48 ++ [125]) then xs[b.length - 2]? else none

section

variable {E : Type} [DecidableEq E] {xs : List E} {e : E} {b : Bytes}

lemma Codec.numbered_decode_eq_none (h : b.count 125 ≠ 1) : (numbered xs).decode b = none := by
  refine if_neg fun hb => h ?_
  rw [hb]
  simp [count_replicate]

lemma Codec.numbered_count : ((numbered xs).encode e).count 125 = 1 := by
  simp [numbered, count_replicate]

lemma Codec.numbered_lawful (xs : List E) : (numbered xs).Lawful (· ∈ xs) where
  decode_encode e he := by simp [numbered, List.getElem?_idxOf he]
  no_newline e he := by simp [numbered, newline]
  no_carriageReturn e he := by simp [numbered, carriageReturn]
  truncated e he t hpre hne := by
    refine numbered_decode_eq_none ?_
    have hcut : t <+: 123 :: List.replicate (xs.idxOf e) 48 :=
      (prefix_concat_iff.mp hpre).resolve_left hne
    rw [count_eq_zero.mpr fun h => ?_]
    · decide
    · simpa using hcut.subset h
  joined e e' he he' := by
    refine numbered_decode_eq_none ?_
    rw [count_append, numbered_count, numbered_count]
    decide

end

/-- A journal: its format, the buffer of the scanner that reads it, the empty state, the
replay of one event, and what an append writes and leaves in memory. -/
structure FileJournal (I E S : Type) where
  codec : Codec E
  limit : ℕ
  init : S
  replay : S → E → Option S
  append : S → I → Option (E × S)

namespace FileJournal

variable {I E S : Type} (J : FileJournal I E S)

/-- The loop of an open over the lines of the file: the events and the state, `none` for an
error. -/
def readLines : S → List Bytes → Option (List E × S)
  | s, [] => some ([], s)
  | s, l :: ls =>
    (J.codec.decode l).bind fun e => (J.replay s e).bind fun s' =>
      (readLines s' ls).map fun r => (e :: r.1, r.2)

def load (file : Bytes) : Option (List E × S) := (scanLines J.limit file).bind (J.readLines J.init)

def appendAll : S → List I → Option (List E × S)
  | s, [] => some ([], s)
  | s, i :: is =>
    (J.append s i).bind fun r => (appendAll r.2 is).map fun q => (r.1 :: q.1, q.2)

def contents (es : List E) : Bytes := (es.map J.codec.encode).flatMap terminate

/-- The line of an event fits into the scanner. -/
def Fits (e : E) : Prop := (J.codec.encode e).length < J.limit
deriving Decidable

variable {J}

@[simp] lemma contents_nil : J.contents [] = [] := rfl

lemma contents_append (es es' : List E) : J.contents (es ++ es') = J.contents es ++ J.contents es' := by
  simp [contents]

lemma contents_singleton (e : E) : J.contents [e] = terminate (J.codec.encode e) := by
  simp [contents]

/-! ## Reading lines -/

section

variable {V : E → Prop} {s t : S} {e : E} {es ns rs : List E} {l torn : Bytes} {ls : List Bytes}

lemma readLines_append (ls ls' : List Bytes) (s : S) : J.readLines s (ls ++ ls') =
      (J.readLines s ls).bind fun r => (J.readLines r.2 ls').map fun q => (r.1 ++ q.1, q.2) := by
  induction ls generalizing s with
  | nil => simp [readLines]
  | cons l ls ih =>
    simp only [cons_append, readLines]
    cases J.codec.decode l with
    | none => rfl
    | some e =>
      simp only [bind_some]
      cases J.replay s e with
      | none => rfl
      | some s' =>
        simp only [bind_some, ih]
        cases J.readLines s' ls <;> simp [Function.comp_def]

lemma readLines_eq_none {ls' : List Bytes} (h : J.codec.decode l = none) :
    J.readLines s (ls ++ l :: ls') = none := by
  rw [readLines_append]
  cases J.readLines s ls <;> simp [readLines, h]

lemma readLines_encode (hc : J.codec.Lawful V) (hes : ∀ e ∈ es, V e) (s : S) :
    J.readLines s (es.map J.codec.encode) = (es.foldlM J.replay s).map fun t => (es, t) := by
  induction es generalizing s with
  | nil => rfl
  | cons e es ih =>
    obtain ⟨he, hes⟩ := forall_mem_cons.mp hes
    simp only [map_cons, readLines, hc.decode_encode e he, bind_some, foldlM_cons]
    cases J.replay s e with
    | none => rfl
    | some s' => simp [ih hes, Function.comp_def]

lemma encode_ne_nil (hc : J.codec.Lawful V) (he : V e) : J.codec.encode e ≠ [] := by
  intro h
  have hread := hc.decode_encode e he
  have hnone := hc.joined e e he he
  rw [h] at hread hnone
  exact absurd (hread.symm.trans hnone) (by simp)

lemma load_of_splitLines {file : Bytes} (hsplit : splitLines file = ls)
    (hls : ∀ l ∈ ls, carriageReturn ∉ l) (r : List E × S) :
    J.load file = some r ↔ (∀ l ∈ ls, l.length < J.limit) ∧ J.readLines J.init ls = some r := by
  have hmap : ls.map dropCR = ls :=
    (map_congr_left fun l hl => dropCR_of_notMem (hls l hl)).trans ls.map_id
  rw [load, scanLines, hsplit, hmap]
  by_cases hfit : ∀ l ∈ ls, l.length < J.limit
  · rw [if_pos (by simpa using hfit), bind_some]
    exact ⟨fun h => ⟨hfit, h⟩, fun h => h.2⟩
  · rw [if_neg (by simpa using hfit), bind_none]
    exact ⟨nofun, fun h => absurd h.1 hfit⟩

lemma splitLines_contents (hc : J.codec.Lawful V) (hes : ∀ e ∈ es, V e) (tail : Bytes) :
    splitLines (J.contents es ++ tail) = es.map J.codec.encode ++ splitLines tail := by
  refine splitLines_flatMap fun l hl => ?_
  obtain ⟨e, he, rfl⟩ := List.mem_map.mp hl
  exact hc.no_newline e (hes e he)

lemma no_carriageReturn_map (hc : J.codec.Lawful V) (hes : ∀ e ∈ es, V e) :
    ∀ l ∈ es.map J.codec.encode, carriageReturn ∉ l := by
  intro l hl
  obtain ⟨e, he, rfl⟩ := List.mem_map.mp hl
  exact hc.no_carriageReturn e (hes e he)

lemma load_contents (hc : J.codec.Lawful V) (hes : ∀ e ∈ es, V e) :
    J.load (J.contents es) = some (rs, t) ↔
      (∀ e ∈ es, J.Fits e) ∧ rs = es ∧ es.foldlM J.replay J.init = some t := by
  have hsplit : splitLines (J.contents es) = es.map J.codec.encode := by
    simpa [splitLines] using splitLines_contents hc hes []
  rw [load_of_splitLines hsplit (no_carriageReturn_map hc hes), readLines_encode hc hes,
    List.forall_mem_map]
  simp only [map_eq_some_iff, Prod.mk.injEq]
  refine and_congr_right' ⟨?_, ?_⟩
  · rintro ⟨_, h, hrs, ht⟩
    exact ⟨hrs.symm, ht ▸ h⟩
  · rintro ⟨hrs, h⟩
    exact ⟨t, h, hrs.symm, rfl⟩

/-! ## A torn last line -/

lemma torn_cases (h : torn <+: terminate l) :
    torn = [] ∨ (torn ≠ [] ∧ torn <+: l ∧ torn ≠ l) ∨ torn = l ∨ torn = terminate l := by
  rcases prefix_concat_iff.mp h with rfl | h
  · exact .inr (.inr (.inr rfl))
  · by_cases hnil : torn = []
    · exact .inl hnil
    · by_cases hl : torn = l
      · exact .inr (.inr (.inl hl))
      · exact .inr (.inl ⟨hnil, h, hl⟩)

lemma load_truncated (hc : J.codec.Lawful V) (hes : ∀ e ∈ es, V e) (he : V e) (hnil : torn ≠ [])
    (hpre : torn <+: J.codec.encode e) (hne : torn ≠ J.codec.encode e) :
    J.load (J.contents es ++ torn) = none := by
  have hnewline : newline ∉ torn := fun h => hc.no_newline e he (hpre.subset h)
  have hsplit : splitLines (J.contents es ++ torn) = es.map J.codec.encode ++ [torn] := by
    rw [splitLines_contents hc hes, splitLines_tail hnewline hnil]
  refine eq_none_iff_forall_ne_some.mpr fun r hload => ?_
  have hls : ∀ l ∈ es.map J.codec.encode ++ [torn], carriageReturn ∉ l := by
    intro l hl
    rcases mem_append.mp hl with hl | hl
    · exact no_carriageReturn_map hc hes l hl
    · cases mem_singleton.mp hl
      exact fun h => hc.no_carriageReturn e he (hpre.subset h)
  obtain ⟨-, hread⟩ := (load_of_splitLines hsplit hls r).mp hload
  rw [readLines_eq_none (hc.truncated e he torn hpre hne)] at hread
  cases hread

lemma load_joined {n : E} (hc : J.codec.Lawful V) (hes : ∀ e ∈ es, V e) (he : V e)
    (hns : ∀ x ∈ n :: ns, V x) :
    J.load (J.contents es ++ J.codec.encode e ++ J.contents (n :: ns)) = none := by
  obtain ⟨hn, hns⟩ := forall_mem_cons.mp hns
  have hsplit : splitLines (J.contents es ++ J.codec.encode e ++ J.contents (n :: ns)) =
      es.map J.codec.encode ++ (J.codec.encode e ++ J.codec.encode n) :: ns.map J.codec.encode := by
    rw [append_assoc, splitLines_contents hc hes,
      show J.contents (n :: ns) = terminate (J.codec.encode n) ++ J.contents ns by simp [contents],
      splitLines_joined (hc.no_newline e he) (hc.no_newline n hn)]
    simpa [splitLines] using splitLines_contents hc hns []
  refine eq_none_iff_forall_ne_some.mpr fun r hload => ?_
  have hls : ∀ l ∈ es.map J.codec.encode ++ (J.codec.encode e ++ J.codec.encode n) ::
      ns.map J.codec.encode, carriageReturn ∉ l := by
    intro l hl
    rcases mem_append.mp hl with hl | hl
    · exact no_carriageReturn_map hc hes l hl
    · rcases mem_cons.mp hl with rfl | hl
      · exact fun h => (mem_append.mp h).elim (hc.no_carriageReturn e he) (hc.no_carriageReturn n hn)
      · exact no_carriageReturn_map hc hns l hl
  obtain ⟨-, hread⟩ := (load_of_splitLines hsplit hls r).mp hload
  rw [readLines_eq_none (hc.joined e n he hn)] at hread
  cases hread

lemma load_contents_append (hc : J.codec.Lawful V) (hes : ∀ e ∈ es, V e) (hns : ∀ n ∈ ns, V n)
    (hload : J.load (J.contents es) = some (rs, t)) :
    (∃ u, J.load (J.contents es ++ J.contents ns) = some (rs ++ ns, u)) ↔
      (∀ n ∈ ns, J.Fits n) ∧ (ns.foldlM J.replay t).isSome := by
  obtain ⟨hfits, rfl, hreplay⟩ := (load_contents hc hes).mp hload
  have hall : ∀ x ∈ rs ++ ns, V x := fun x hx => (mem_append.mp hx).elim (hes x) (hns x)
  simp only [← contents_append, load_contents hc hall, foldlM_append, hreplay, mem_append,
    or_imp, forall_and, true_and, bind_eq_bind, bind_some, exists_and_left, isSome_iff_exists]
  exact and_congr_left' ⟨And.right, fun h => ⟨hfits, h⟩⟩

/-- A file whose last line is torn and that can be opened: what is appended afterwards is
read back if and only if the tail is not an event that lost only its line feed, the
lines fit and the events replay. -/
lemma load_torn_iff (hc : J.codec.Lawful V) (hes : ∀ e ∈ es, V e) (he : V e) (hns : ∀ n ∈ ns, V n)
    (htorn : torn <+: terminate (J.codec.encode e)) (hload : J.load (J.contents es ++ torn) = some (rs, t)) :
    (∃ u, J.load (J.contents es ++ torn ++ J.contents ns) = some (rs ++ ns, u)) ↔
      (ns = [] ∨ torn ≠ J.codec.encode e) ∧ (∀ n ∈ ns, J.Fits n) ∧ (ns.foldlM J.replay t).isSome := by
  have hall : ∀ x ∈ es ++ [e], V x := by simpa [or_imp, forall_and] using ⟨hes, he⟩
  rcases torn_cases htorn with rfl | ⟨hnil, hpre, hne⟩ | rfl | rfl
  · rw [append_nil] at hload ⊢
    rw [load_contents_append hc hes hns hload]
    exact (and_iff_right (.inr (encode_ne_nil hc he).symm)).symm
  · rw [load_truncated hc hes he hnil hpre hne] at hload
    cases hload
  · cases ns with
    | nil => simp [hload]
    | cons n ns =>
      rw [load_joined hc hes he hns]
      simp
  · rw [← contents_singleton, ← contents_append] at hload ⊢
    rw [load_contents_append hc hall hns hload]
    refine (and_iff_right (.inr fun h => ?_)).symm
    simpa [contents_singleton, terminate] using congrArg List.length h

end

/-! ## Appending and opening again -/

lemma toOption_eq_some {ε α : Type} {x : Except ε α} {a : α} : x.toOption = some a ↔ x = .ok a := by
  cases x <;> simp [Except.toOption]

section

variable {W : E → Prop} {ok : I → Prop} {Q : E → Prop} {s s' : S} {is : List I} {es : List E}

lemma appendAll_forall (hQ : ∀ s i e s', J.append s i = some (e, s') → Q e)
    (h : J.appendAll s is = some (es, s')) : ∀ e ∈ es, Q e := by
  induction is generalizing s es with
  | nil =>
    cases h
    simp
  | cons i is ih =>
    simp only [appendAll, bind_eq_some_iff, map_eq_some_iff] at h
    obtain ⟨⟨e, s₁⟩, happend, ⟨es', s₂⟩, hrest, heq⟩ := h
    cases heq
    exact forall_mem_cons.mpr ⟨hQ s i e s₁ happend, ih hrest⟩

/-- The replay of an appended event leads to what the append left in memory, provided the
input satisfies `ok`, and fails otherwise. -/
def ReadsBack (J : FileJournal I E S) (ok : I → Prop) [DecidablePred ok] : Prop :=
  ∀ s i e s', J.append s i = some (e, s') → J.replay s e = if ok i then some s' else none

lemma ReadsBack.replayAll [DecidablePred ok] (hJ : J.ReadsBack ok)
    (h : J.appendAll s is = some (es, s')) :
    es.foldlM J.replay s = if ∀ i ∈ is, ok i then some s' else none := by
  induction is generalizing s es with
  | nil =>
    cases h
    simp
  | cons i is ih =>
    simp only [appendAll, bind_eq_some_iff, map_eq_some_iff] at h
    obtain ⟨⟨e, s₁⟩, happend, ⟨es', s₂⟩, hrest, heq⟩ := h
    cases heq
    rw [foldlM_cons, hJ s i e s₁ happend]
    by_cases hok : ok i
    · simp only [forall_mem_cons, hok, true_and]
      exact ih hrest
    · simp only [forall_mem_cons, hok, false_and, if_false]
      rfl

/-- A crash leaves a part of the last line, and the file can be opened. Whatever is appended
then, the next open succeeds and reads the events that were recovered and the new ones, if
and only if nothing was appended or the tail is not an event that lost only its line
feed, and `cond` holds of what was appended. The format is lawful for the events that were
written, and each new one has `W`. -/
def ReopensIff (J : FileJournal I E S) (W : E → Prop) (cond : List I → List E → Prop) : Prop :=
  ∀ es e torn rs t, torn <+: terminate (J.codec.encode e) →
    J.load (J.contents es ++ torn) = some (rs, t) →
    ∀ is ns u, J.appendAll t is = some (ns, u) → J.codec.Lawful (· ∈ es ++ e :: ns) →
      (∀ n ∈ ns, W n) →
      ((∃ v, J.load (J.contents es ++ torn ++ J.contents ns) = some (rs ++ ns, v)) ↔
        (is = [] ∨ torn ≠ J.codec.encode e) ∧ cond is ns)

lemma appendAll_eq_nil (h : J.appendAll s is = some (es, s')) : es = [] ↔ is = [] := by
  cases is with
  | nil =>
    cases h
    simp
  | cons i is =>
    simp only [appendAll, bind_eq_some_iff, map_eq_some_iff] at h
    obtain ⟨r, -, q, -, heq⟩ := h
    cases heq
    simp

lemma reopensIff [DecidablePred ok] (hJ : J.ReadsBack ok) :
    J.ReopensIff W fun is ns => (∀ n ∈ ns, J.Fits n) ∧ ∀ i ∈ is, ok i := by
  intro es e torn rs t htorn hload is ns u happend hc _
  rw [load_torn_iff hc (fun _ => mem_append_left _) (by simp) (fun _ hn => by simp [hn]) htorn hload,
    hJ.replayAll happend, appendAll_eq_nil happend]
  have hsome : (if ∀ i ∈ is, ok i then some u else none).isSome ↔ ∀ i ∈ is, ok i := by
    by_cases h : ∀ i ∈ is, ok i <;> simp [h]
  rw [hsome]

lemma reopensIff_of_readsBack (hJ : J.ReadsBack fun _ => True) :
    J.ReopensIff W fun _ ns => ∀ n ∈ ns, J.Fits n := by
  have h := reopensIff (W := W) hJ
  simpa only [implies_true, and_true] using h

lemma reopensIff_of_fits [DecidablePred ok] (hJ : J.ReadsBack ok)
    (hfits : ∀ s i e s', J.append s i = some (e, s') → W e → J.Fits e) :
    J.ReopensIff W fun is _ => ∀ i ∈ is, ok i := by
  intro es e torn rs t htorn hload is ns u happend hc hW
  rw [reopensIff hJ es e torn rs t htorn hload is ns u happend hc hW]
  have hall := appendAll_forall (Q := fun e => W e → J.Fits e) hfits happend
  exact and_congr_right' ⟨And.right, fun h => ⟨fun n hn => hall n hn (hW n hn), h⟩⟩

end

end FileJournal

end FlowOps

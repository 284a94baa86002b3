import FlowOps.Common.Check

/-!
# Paths of canonical URLs

`normalizePercent` and `removeDotSegments` of `pkg/purchasespec` (purchasespec.go), which
`normalizedPath` runs one after the other.

Result: `path_normalized`. A segment ends at a slash: an escaped slash stays escaped, and `/..%2Fa`
has the one segment `..%2Fa`.
-/

namespace FlowOps.PurchaseSpec

open List

abbrev percent : UInt8 := 0x25
abbrev slash : UInt8 := 0x2F
abbrev dot : UInt8 := 0x2E

/-! ## Percent encoding -/

def char (b : UInt8) : Char := Char.ofNat b.toNat

def isHex (b : UInt8) : Bool :=
  (char b).isDigit || 'a' ≤ char b && char b ≤ 'f' || 'A' ≤ char b && char b ≤ 'F'

def isUnreserved (b : UInt8) : Bool := (char b).isAlphanum || "-._~".toList.contains (char b)

def isURLLiteral (b : UInt8) : Bool :=
  isUnreserved b || "!$&'()*+,/:;=@?[]".toList.contains (char b)

def hexValue (b : UInt8) : UInt8 :=
  if b ≤ 0x39 then b - 0x30 else if b ≤ 0x46 then b - 0x37 else b - 0x57

/-- The digit in upper case. -/
def hexDigit (n : UInt8) : UInt8 := if n < 10 then 0x30 + n else 0x37 + n

/-- `strings.ToUpper` of a hex digit. -/
def toUpper (b : UInt8) : UInt8 := if 0x61 ≤ b then b - 0x20 else b

/-- What one iteration of `normalizePercent` reads, and what it writes. -/
inductive Item where
  | byte (b : UInt8)
  | escape (h l : UInt8)
deriving DecidableEq

namespace Item

def text : Item → List UInt8
  | byte b => [b]
  | escape h l => [percent, h, l]

def value : Item → UInt8
  | byte b => b
  | escape h l => 16 * hexValue h + hexValue l

def accepted : Item → Bool
  | byte b => b ≠ percent && !(b ≤ 0x20 || b = 0x7F)
  | escape h l => isHex h && isHex l

/-- What is written. -/
def normal : Item → Item
  | byte b =>
    if 0x80 ≤ b || !isURLLiteral b then escape (hexDigit (b / 16)) (hexDigit (b % 16)) else byte b
  | escape h l =>
    if isUnreserved (escape h l).value then byte (escape h l).value
    else escape (toUpper h) (toUpper l)

end Item

inductive Err where
  | control | percentEncoding

/-- The items that the loop of `normalizePercent` reads. -/
def read : List UInt8 → Except Err (List Item)
  | [] => .ok []
  | b :: rest =>
    if b ≠ percent then
      if (Item.byte b).accepted then (read rest).map (.byte b :: ·) else .error .control
    else
      match rest with
      | h :: l :: rest =>
        if (Item.escape h l).accepted then (read rest).map (.escape h l :: ·)
        else .error .percentEncoding
      | _ => .error .percentEncoding

def text (items : List Item) : List UInt8 := items.flatMap Item.text

/-- `normalizePercent` (purchasespec.go:372): each iteration writes the normal form of its item. -/
def normalizePercent (v : List UInt8) : Except Err (List UInt8) :=
  (read v).map fun items => text (items.map Item.normal)

/-- A later decoder of a segment. -/
def decode : List UInt8 → List UInt8
  | 0x25 :: h :: l :: rest => (Item.escape h l).value :: decode rest
  | b :: rest => b :: decode rest
  | [] => []

/-! ## Dot segments -/

/-- `removeLastSegment` (purchasespec.go:447). -/
def removeLastSegment (v : List UInt8) : List UInt8 :=
  ((v.reverse.dropWhile (· ≠ slash)).drop 1).reverse

/-- The loop of `removeDotSegments`. Its default case cuts before the first slash that is not the
first byte. -/
def removeDots (input output : List UInt8) : List UInt8 :=
  match input with
  | [] => output
  | c :: rest =>
    if [dot, dot, slash] <+: c :: rest then removeDots (rest.drop 2) output
    else if [dot, slash] <+: c :: rest then removeDots (rest.drop 1) output
    else if [slash, dot, slash] <+: c :: rest then removeDots (slash :: rest.drop 2) output
    else if c :: rest = [slash, dot] then removeDots [slash] output
    else if [slash, dot, dot, slash] <+: c :: rest then
      removeDots (slash :: rest.drop 3) (removeLastSegment output)
    else if c :: rest = [slash, dot, dot] then removeDots [slash] (removeLastSegment output)
    else if c :: rest = [dot] ∨ c :: rest = [dot, dot] then output
    else removeDots (rest.dropWhile (· ≠ slash)) (output ++ c :: rest.takeWhile (· ≠ slash))
termination_by input.length
decreasing_by
  all_goals grind [IsPrefix.length_le, dropWhile_suffix, IsSuffix.length_le]

/-- `removeDotSegments` (purchasespec.go:402). -/
def removeDotSegments (input : List UInt8) : List UInt8 :=
  if removeDots input [] = [] then [slash] else removeDots input []

/-! ## Items -/

instance decidableBytes {p : UInt8 → Prop} [DecidablePred p] : Decidable (∀ b, p b) :=
  decidable_of_iff (∀ n : Fin 256, p (.ofFin n)) ⟨fun h b => h b.toFin, fun h _ => h _⟩

set_option maxRecDepth 8000 in
lemma toUpper_digit : ∀ b, isHex b → isHex (toUpper b) ∧
    hexValue (toUpper b) = hexValue b ∧ toUpper (toUpper b) = toUpper b ∧ b ≠ slash := by
  decide

set_option maxRecDepth 8000 in
lemma byte_unreserved : ∀ b, isUnreserved b →
    (Item.byte b).accepted ∧ (Item.byte b).normal = .byte b := by
  decide

set_option maxRecDepth 8000 in
lemma byte_normal : ∀ b, (Item.byte b).accepted → (Item.byte b).normal.accepted ∧
    (Item.byte b).normal.normal = (Item.byte b).normal ∧ (Item.byte b).normal.value = b := by
  decide

section

variable {i : Item} {items : List Item} {v o : List UInt8}

/-- What is written is read again as it is. -/
lemma Item.normal_normal (hi : i.accepted) :
    i.normal.accepted ∧ i.normal.normal = i.normal ∧ i.normal.value = i.value := by
  cases i with
  | byte b => exact byte_normal b hi
  | escape h l =>
    rw [accepted, Bool.and_eq_true] at hi
    obtain ⟨hh, hvh, hh', -⟩ := toUpper_digit h hi.1
    obtain ⟨hl, hvl, hl', -⟩ := toUpper_digit l hi.2
    by_cases hv : isUnreserved (escape h l).value
    · rw [normal, if_pos hv]
      exact and_assoc.mp ⟨byte_unreserved _ hv, rfl⟩
    · have hv' : (escape (toUpper h) (toUpper l)).value = (escape h l).value := by
        rw [value, value, hvh, hvl]
      rw [normal, if_neg hv, normal, hv', if_neg hv, accepted, hh, hl, hh', hl']
      exact ⟨rfl, rfl, rfl⟩

lemma Item.eq_dot (hi : i.normal = i) (hv : i.value = dot) : i = byte dot := by
  cases i with
  | byte b => exact congrArg byte hv
  | escape h l =>
    rw [normal, hv, if_pos (by decide)] at hi
    cases hi

lemma Item.eq_slash (hi : i.accepted) (hs : slash ∈ i.text) : i = byte slash := by
  cases i with
  | byte b => rw [mem_singleton.mp hs]
  | escape h l =>
    rw [accepted, Bool.and_eq_true] at hi
    have hh := (toUpper_digit h hi.1).2.2.2
    have hl := (toUpper_digit l hi.2).2.2.2
    simp [Item.text, hh.symm, hl.symm, show slash ≠ percent by decide] at hs

lemma read_text (hitems : ∀ i ∈ items, i.accepted) : read (text items) = .ok items := by
  induction items with
  | nil => rfl
  | cons i items ih =>
    obtain ⟨hi, hrest⟩ := forall_mem_cons.mp hitems
    cases i with
    | byte b =>
      have hb : b ≠ percent := fun hb => by subst hb; cases hi
      change read (b :: text items) = _
      rw [read.eq_def]
      simp only [hb, ne_eq, not_false_eq_true, if_true, hi, ih hrest]
      rfl
    | escape h l =>
      change read (percent :: h :: l :: text items) = _
      simp only [read, ne_eq, not_true, if_false, hi, if_true, ih hrest]
      rfl

lemma read_ok : read v = .ok items ↔ (∀ i ∈ items, i.accepted) ∧ v = text items := by
  refine ⟨fun hv => ?_, fun ⟨hitems, hv⟩ => hv ▸ read_text hitems⟩
  fun_induction read v generalizing items with
  | case1 =>
    cases hv
    exact ⟨forall_mem_nil _, rfl⟩
  | case2 b rest hb hi ih =>
    obtain ⟨items, hrest, rfl⟩ := map_eq_ok.mp hv
    obtain ⟨hitems, rfl⟩ := ih hrest
    exact ⟨forall_mem_cons.mpr ⟨hi, hitems⟩, rfl⟩
  | case4 b hb h l rest hi ih =>
    obtain ⟨items, hrest, rfl⟩ := map_eq_ok.mp hv
    obtain ⟨hitems, rfl⟩ := ih hrest
    exact ⟨forall_mem_cons.mpr ⟨hi, hitems⟩, by rw [not_not.mp hb]; rfl⟩
  | case3 | case5 | case6 => cases hv

lemma normalizePercent_ok : normalizePercent v = .ok o ↔ ∃ items, (∀ i ∈ items, i.accepted) ∧
    v = text items ∧ text (items.map Item.normal) = o := by
  simp only [normalizePercent, map_eq_ok, read_ok, and_assoc]

lemma decode_text (hitems : ∀ i ∈ items, i.accepted) :
    decode (text items) = items.map Item.value := by
  induction items with
  | nil => rfl
  | cons i items ih =>
    obtain ⟨hi, hrest⟩ := forall_mem_cons.mp hitems
    cases i with
    | byte b =>
      change decode (b :: text items) = _
      rw [decode, ih hrest]
      · rfl
      · rintro _ _ _ rfl
        cases hi
    | escape h l =>
      change decode (percent :: h :: l :: text items) = _
      rw [decode, ih hrest]
      rfl

end

/-! ## Segments -/

def Dots (s : List UInt8) : Prop := s = [dot] ∨ s = [dot, dot]

/-- Every segment of the path has the property. -/
def Segments (Q : List UInt8 → Prop) (path : List UInt8) : Prop := ∀ s ∈ path.splitOn slash, Q s

section

variable {Q R : List UInt8 → Prop} {a b s v rest input output : List UInt8} {c : UInt8}

lemma segments_append : Segments Q (a ++ slash :: b) ↔ Segments Q a ∧ Segments Q b := by
  simp only [Segments, splitOn_append_cons_self, forall_mem_append]

lemma segments_single (hs : slash ∉ s) : Segments Q s ↔ Q s := by
  rw [Segments, splitOn_eq_singleton hs, forall_mem_singleton]

lemma segments_nil : Segments Q [] ↔ Q [] := segments_single not_mem_nil

lemma segments_slash : Segments Q (slash :: b) ↔ Q [] ∧ Segments Q b := by
  rw [← segments_nil (Q := Q), ← segments_append, nil_append]

lemma dropWhile_slash (v : List UInt8) : slash ∉ v.takeWhile (· ≠ slash) ∧
    (v.dropWhile (· ≠ slash) = [] ∨ ∃ t, v.dropWhile (· ≠ slash) = slash :: t) := by
  induction v with
  | nil => simp
  | cons c v ih =>
    by_cases hc : c = slash
    · simp [hc]
    · simpa [hc, Ne.symm hc] using ih

lemma segments_removeLast (hR : R []) (h : Segments R output) :
    Segments R (removeLastSegment output) := by
  have hsplit := congrArg reverse (output.reverse.takeWhile_append_dropWhile (p := (· ≠ slash)))
  unfold removeLastSegment
  obtain ht | ⟨t, ht⟩ := (dropWhile_slash output.reverse).2
  · rw [ht]
    exact segments_nil.mpr hR
  · rw [ht, reverse_append, reverse_cons, append_assoc, reverse_reverse] at hsplit
    rw [← hsplit, singleton_append, segments_append] at h
    rw [ht]
    exact h.1

lemma segments_first (hQ : Q []) (h : Segments Q (c :: rest)) :
    Segments Q (c :: rest.takeWhile (· ≠ slash)) ∧ Segments Q (rest.dropWhile (· ≠ slash)) := by
  rw [← rest.takeWhile_append_dropWhile (p := (· ≠ slash)), ← cons_append] at h
  obtain ht | ⟨t, ht⟩ := (dropWhile_slash rest).2
  · rw [ht, append_nil] at h
    exact ⟨h, ht ▸ segments_nil.mpr hQ⟩
  · rw [ht, segments_append] at h
    exact ⟨h.1, ht ▸ segments_slash.mpr ⟨hQ, h.2⟩⟩

/-- The segments that the loop keeps are segments of the path. Only the first one has no slash
before it. -/
lemma segments_removeDots (hQ : Q []) (hR : R []) (hkeep : ∀ s, Q s → ¬Dots s → R s)
    (hin : Segments Q input) (hout : Segments R output)
    (hplace : output = [] ∨ input = [] ∨ input.head? = some slash) :
    Segments R (removeDots input output) := by
  have hroot : Segments Q [slash] := segments_slash.mpr ⟨hQ, segments_nil.mpr hQ⟩
  have hdot : dot ≠ slash := by decide
  fun_induction removeDots input output with
  | case1 => exact hout
  | case2 _ _ _ h ih =>
    obtain ⟨t, ⟨⟩⟩ := h
    exact ih (segments_append (a := [dot, dot]).mp hin).2 hout (.inl (by simpa [hdot] using hplace))
  | case3 _ _ _ _ h ih =>
    obtain ⟨t, ⟨⟩⟩ := h
    exact ih (segments_append (a := [dot]).mp hin).2 hout (.inl (by simpa [hdot] using hplace))
  | case4 _ _ _ _ _ h ih =>
    obtain ⟨t, ⟨⟩⟩ := h
    have ht := (segments_append (a := [slash, dot]).mp hin).2
    exact ih (segments_slash.mpr ⟨hQ, ht⟩) hout (.inr (.inr rfl))
  | case5 _ _ _ _ _ _ _ ih => exact ih hroot hout (.inr (.inr rfl))
  | case6 _ _ _ _ _ _ _ h ih =>
    obtain ⟨t, ⟨⟩⟩ := h
    have ht := (segments_append (a := [slash, dot, dot]).mp hin).2
    exact ih (segments_slash.mpr ⟨hQ, ht⟩) (segments_removeLast hR hout) (.inr (.inr rfl))
  | case7 _ _ _ _ _ _ _ _ _ ih =>
    exact ih hroot (segments_removeLast hR hout) (.inr (.inr rfl))
  | case8 => exact hout
  | case9 output c rest h₁ h₂ h₃ h₄ h₅ h₆ h₇ ih =>
    obtain ⟨hseg, htail⟩ := dropWhile_slash rest
    obtain ⟨hfirst, hnext⟩ := segments_first hQ hin
    have hrest := rest.takeWhile_append_dropWhile (p := (· ≠ slash))
    generalize rest.takeWhile (· ≠ slash) = seg at *
    generalize rest.dropWhile (· ≠ slash) = tail at *
    subst hrest
    refine ih hnext ?_ (htail.elim (fun h => .inr (.inl h)) fun ⟨t, h⟩ => .inr (.inr (h ▸ rfl)))
    by_cases hc : c = slash
    · subst hc
      have hQseg := (segments_single hseg).mp (segments_slash.mp hfirst).2
      refine segments_append.mpr ⟨hout, (segments_single hseg).mpr (hkeep _ hQseg ?_)⟩
      obtain rfl | ⟨t, rfl⟩ := htail
      · rintro (rfl | rfl)
        · exact h₄ rfl
        · exact h₆ rfl
      · rintro (rfl | rfl)
        · exact h₃ ⟨t, rfl⟩
        · exact h₅ ⟨t, rfl⟩
    · have hseg' : slash ∉ c :: seg := by simp [Ne.symm hc, hseg]
      obtain rfl : output = [] := by simpa [hc] using hplace
      refine (segments_single hseg').mpr (hkeep _ ((segments_single hseg').mp hfirst) ?_)
      obtain rfl | ⟨t, rfl⟩ := htail
      · rwa [append_nil] at h₇
      · rintro (h | h) <;> cases h
        · exact h₂ ⟨t, rfl⟩
        · exact h₁ ⟨t, rfl⟩

lemma segments_removeDotSegments (hQ : Q []) (hR : R []) (hkeep : ∀ s, Q s → ¬Dots s → R s)
    (h : Segments Q input) : Segments R (removeDotSegments input) := by
  unfold removeDotSegments
  split
  · exact segments_slash.mpr ⟨hR, segments_nil.mpr hR⟩
  · exact segments_removeDots hQ hR hkeep h (segments_nil.mpr hR) (.inl rfl)

lemma not_dots_nil : ¬Dots [] := by simp [Dots]

lemma Dots.not_segments (hs : Dots s) :
    ¬Segments (¬Dots ·) s ∧ ∀ t, ¬Segments (¬Dots ·) (s ++ slash :: t) := by
  have hslash : slash ∉ s := by rcases hs with rfl | rfl <;> decide
  have hs' : ¬Segments (¬Dots ·) s := fun h => (segments_single hslash).mp h hs
  exact ⟨hs', fun t h => hs' (segments_append.mp h).1⟩

lemma removeDots_of_segments (hin : Segments (¬Dots ·) input) (output : List UInt8) :
    removeDots input output = output ++ input := by
  have h₁ := Dots.not_segments (.inl rfl)
  have h₂ := Dots.not_segments (.inr rfl)
  fun_induction removeDots input output with
  | case1 output => exact (append_nil output).symm
  | case2 _ _ _ h =>
    obtain ⟨t, ⟨⟩⟩ := h
    exact absurd hin (h₂.2 t)
  | case3 _ _ _ _ h =>
    obtain ⟨t, ⟨⟩⟩ := h
    exact absurd hin (h₁.2 t)
  | case4 _ _ _ _ _ h =>
    obtain ⟨t, ⟨⟩⟩ := h
    exact absurd (segments_slash.mp hin).2 (h₁.2 t)
  | case5 _ _ _ _ _ _ h => exact absurd (segments_slash.mp (h ▸ hin)).2 h₁.1
  | case6 _ _ _ _ _ _ _ h =>
    obtain ⟨t, ⟨⟩⟩ := h
    exact absurd (segments_slash.mp hin).2 (h₂.2 t)
  | case7 _ _ _ _ _ _ _ _ h => exact absurd (segments_slash.mp (h ▸ hin)).2 h₂.1
  | case8 _ _ _ _ _ _ _ _ _ h => exact absurd hin (Dots.not_segments h).1
  | case9 output c rest _ _ _ _ _ _ _ ih =>
    rw [ih (segments_first not_dots_nil hin).2, append_assoc, cons_append, takeWhile_append_dropWhile]

/-- A segment of a text is the text of some items, since an escape holds no slash. -/
lemma segments_text {K : Item → Prop} (hK : ∀ i, K i → i.accepted) {items p : List Item}
    (hitems : ∀ i ∈ items, K i) (hp : ∀ i ∈ p, K i) (hslash : slash ∉ text p) :
    Segments (fun s => ∃ part, (∀ i ∈ part, K i) ∧ s = text part) (text p ++ text items) := by
  induction items generalizing p with
  | nil =>
    rw [text, text, flatMap_nil, append_nil]
    exact (segments_single hslash).mpr ⟨p, hp, rfl⟩
  | cons i items ih =>
    obtain ⟨hi, hrest⟩ := forall_mem_cons.mp hitems
    by_cases his : slash ∈ i.text
    · obtain rfl := Item.eq_slash (hK i hi) his
      refine segments_append.mpr ⟨(segments_single hslash).mpr ⟨p, hp, rfl⟩, ?_⟩
      exact ih hrest (forall_mem_nil _) not_mem_nil
    · have := ih (p := p ++ [i]) hrest (by simpa [or_imp, forall_and] using ⟨hp, hi⟩)
        (by simpa [text] using ⟨by simpa [text] using hslash, his⟩)
      simpa [text] using this

end

/-- For every path: `removeDotSegments` (which is total) leaves no dot segment and keeps its own
result; `normalizePercent` accepts the texts of items, writes each item in its normal form and
keeps its own result and what it decodes to; and no segment that the two leave decodes to a dot
segment. -/
theorem path_normalized :
    (∀ path, Segments (¬Dots ·) (removeDotSegments path) ∧
      removeDotSegments (removeDotSegments path) = removeDotSegments path) ∧
    (∀ v o, normalizePercent v = .ok o ↔ ∃ items, (∀ i ∈ items, i.accepted) ∧ v = text items ∧
      text (items.map Item.normal) = o) ∧
    ∀ v o, normalizePercent v = .ok o → normalizePercent o = .ok o ∧ decode o = decode v ∧
      Segments (fun s => ¬Dots (decode s)) (removeDotSegments o) := by
  refine ⟨fun path => ?_, fun _ _ => normalizePercent_ok, fun v o hv => ?_⟩
  · have hclean : Segments (¬Dots ·) (removeDotSegments path) :=
      segments_removeDotSegments trivial not_dots_nil (fun _ _ => id) fun _ _ => trivial
    refine ⟨hclean, ?_⟩
    rw [removeDotSegments, removeDots_of_segments hclean, nil_append]
    refine if_neg ?_
    unfold removeDotSegments
    split
    · simp
    · assumption
  · obtain ⟨items, hitems, rfl, rfl⟩ := normalizePercent_ok.mp hv
    have hnormal : ∀ i ∈ items.map Item.normal, i.accepted ∧ i.normal = i :=
      forall_mem_map.mpr fun i hi => (Item.normal_normal (hitems i hi)).imp id And.left
    have haccepted := fun i hi => (hnormal i hi).1
    refine ⟨normalizePercent_ok.mpr ⟨_, haccepted, rfl, ?_⟩, ?_, ?_⟩
    · rw [map_congr_left fun i hi => (hnormal i hi).2, map_id']
    · rw [decode_text haccepted, decode_text hitems, map_map]
      exact map_congr_left fun i hi => (Item.normal_normal (hitems i hi)).2.2
    refine segments_removeDotSegments (Q := fun s => Dots (decode s) → Dots s) id not_dots_nil
      (fun s hs hn hd => hn (hs hd)) fun s hs => ?_
    obtain ⟨part, hpart, rfl⟩ := segments_text (fun _ h => h.1) hnormal (forall_mem_nil _)
      not_mem_nil s hs
    rw [decode_text fun i hi => (hpart i hi).1]
    intro hd
    have hdots : ∀ i ∈ part, i = .byte dot := fun i hi => Item.eq_dot (hpart i hi).2 (by
      have := mem_map_of_mem (f := Item.value) hi
      rcases hd with hd | hd <;> simpa [hd] using this)
    rw [eq_replicate_of_mem hdots] at hd ⊢
    simpa [text, flatMap_replicate, Item.text, Item.value] using hd

/-- The segments are those between slashes. In `/a/..%2fb` the escape stays, and `..%2Fb` is one
segment, which is no dot segment; where the whole path is decoded first, there is a segment `..`. -/
example :
    let path : List UInt8 := [0x2f, 0x61, 0x2f, 0x2e, 0x2e, 0x25, 0x32, 0x46, 0x62]
    (normalizePercent [0x2f, 0x61, 0x2f, 0x2e, 0x2e, 0x25, 0x32, 0x66, 0x62]).toOption = some path ∧
      Segments (¬Dots ·) path ∧ ¬Segments (¬Dots ·) (decode path) := by
  unfold Segments Dots
  decide

end FlowOps.PurchaseSpec

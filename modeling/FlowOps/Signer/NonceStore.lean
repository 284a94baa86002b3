import FlowOps.Common.Lines
import FlowOps.Common.Transactions

/-!
# The nonce store

`pkg/referencesigner/nonces.go`: a claimed nonce is a line of a file, its key and the time
of the claim with a tab between them. A claim is granted once the line is written and
synced; the claims of a file are read back when the store is opened.

A write that fails can leave a part of its line, and the store does not stop: the next
claim is appended to that part. If the part has a tab, the joined line has two and no later
open accepts the file. If it is a part of the key, the joined line is well formed and
claims another key, so after a restart the key of the granted claim is free again.

Results: `nonce_granted_once`, `torn_key_grants_twice`.
-/

namespace FlowOps.Signer

open List

/-! ## Lines -/

def tab : UInt8 := 9

/-- `strings.Split(line, "\t")`. -/
def splitTabs : Bytes → List Bytes
  | [] => [[]]
  | b :: bs =>
    if b = tab then [] :: splitTabs bs
    else
      match splitTabs bs with
      | [] => [[b]]
      | p :: ps => (b :: p) :: ps

/-- `[0-9]`. -/
def isDigitByte (b : UInt8) : Bool := 48 ≤ b && b ≤ 57

def digitsValue (ds : Bytes) : ℕ := ds.foldl (fun n d => 10 * n + (d.toNat - 48)) 0

/-- `strconv.ParseInt(s, 10, 64)`: `none` for an error. -/
def parseInt (s : Bytes) : Option ℤ :=
  let (negative, ds) := match s with
    | 45 :: ds => (true, ds)
    | 43 :: ds => (false, ds)
    | ds => (false, ds)
  if ds = [] ∨ ds.all isDigitByte = false then none
  else if negative then
    if 2 ^ 63 < digitsValue ds then none else some (-digitsValue ds)
  else if 2 ^ 63 ≤ digitsValue ds then none
  else some (digitsValue ds)

/-- `strconv.FormatInt(sec, 10)`. -/
def formatInt (sec : ℤ) : Bytes := (toString sec).toList.map fun c => c.toNat.toUInt8

/-- The line of a claim (nonces.go:127), without its line feed. -/
def claimLine (key : Bytes) (sec : ℤ) : Bytes := key ++ tab :: formatInt sec

/-- A line of `replay` (nonces.go:94-108): the keys that are claimed after it. -/
def replayLine (claimed : List Bytes) (line : Bytes) : Option (List Bytes) :=
  match splitTabs line with
  | [key, sec] =>
    if key = [] then none
    else if parseInt sec = none then none
    else if key ∈ claimed then none
    else some (key :: claimed)
  | _ => none

/-- `replay` (nonces.go:88), with the default buffer of a scanner. -/
def replay (file : Bytes) : Option (List Bytes) :=
  (scanLines (64 * 1024) file).bind fun lines => lines.foldlM replayLine []

/-! ## The store -/

/-- The file, of which the bytes in `pending` have been written but not synced, and the
claimed keys of the store that has it open. -/
structure NonceStore where
  durable : Bytes := []
  pending : Bytes := []
  claimed : Option (List Bytes) := none

def NonceStore.file (s : NonceStore) : Bytes := s.durable ++ s.pending

/-- How a claim fares: the context is cancelled, the write fails after some bytes have
reached the file, or the sync fails. -/
structure ClaimIO where
  cancelled : Bool := false
  write : Option ℕ := none
  syncFails : Bool := false

/-- `Claim` (nonces.go:115) on a store with these claimed keys. -/
def NonceStore.claim (s : NonceStore) (claimed : List Bytes) (key : Bytes) (sec : ℤ) (io : ClaimIO) :
    NonceStore × Except String Unit :=
  if io.cancelled then (s, .error "context canceled")
  else if key = [] ∨ tab ∈ key ∨ carriageReturn ∈ key ∨ newline ∈ key then
    (s, .error "nonce claim key is invalid")
  else if key ∈ claimed then (s, .error "nonce already claimed")
  else
    match io.write with
    | some n =>
      ({ s with pending := s.pending ++ (terminate (claimLine key sec)).take n },
        .error "append nonce claim")
    | none =>
      let written := { s with pending := s.pending ++ terminate (claimLine key sec) }
      if io.syncFails then (written, .error "sync nonce claim")
      else ({ durable := written.file, claimed := some (key :: claimed) }, .ok ())

/-- What happens to a store: it is opened, closed, asked for a claim, or the machine
crashes and a part of what was not synced survives. -/
inductive StoreAction where
  | open | close
  | crash (kept : ℕ)
  | claim (key : Bytes) (sec : ℤ) (io : ClaimIO)

/-- An action on the store and its result. The file is locked while it is open. -/
def NonceStore.act (s : NonceStore) : StoreAction → NonceStore × Except String Unit
  | .open =>
    match s.claimed, replay s.file with
    | some _, _ => (s, .error "lock nonce journal")
    | none, none => (s, .error "nonce journal is malformed")
    | none, some claimed => ({ s with claimed := some claimed }, .ok ())
  | .close => ({ s with claimed := none }, .ok ())
  | .crash kept => ({ durable := s.durable ++ s.pending.take kept }, .ok ())
  | .claim key sec io =>
    match s.claimed with
    | none => (s, .error "append nonce claim")
    | some claimed => s.claim claimed key sec io

abbrev storeTransaction (s : NonceStore) (a : StoreAction) :
    Except Empty (NonceStore × Except String Unit) := .ok (s.act a)

/-- The actions on an empty file, with their results. -/
abbrev storeHistory (actions : List StoreAction) :
    List (Success NonceStore StoreAction (Except String Unit)) :=
  successes storeTransaction {} actions

/-- The action is a claim of the key that is granted. -/
def grants (key : Bytes) (x : Success NonceStore StoreAction (Except String Unit)) : Bool :=
  match x.input, x.log with
  | .claim key' _ _, .ok () => key = key'
  | _, _ => false

/-- A write that fails has not left a part of the key without the tab. -/
def StoreAction.Clean (a : StoreAction) : Prop :=
  ∀ key sec io n, a = .claim key sec io → io.write = some n → n = 0 ∨ key.length < n

/-! ## What a line says -/

section

variable {key line l : Bytes} {sec : ℤ} {claimed claimed' : List Bytes}

lemma splitTabs_of_notMem (h : tab ∉ l) : splitTabs l = [l] := by
  induction l with
  | nil => rfl
  | cons b bs ih =>
    obtain ⟨hb, hbs⟩ := not_or.mp (mt mem_cons.mpr h)
    rw [splitTabs, if_neg fun heq => hb heq.symm, ih hbs]

lemma splitTabs_append (h : tab ∉ key) : splitTabs (key ++ tab :: l) = key :: splitTabs l := by
  induction key with
  | nil => simp [splitTabs]
  | cons b bs ih =>
    obtain ⟨hb, hbs⟩ := not_or.mp (mt mem_cons.mpr h)
    rw [cons_append, splitTabs, if_neg fun heq => hb heq.symm, ih hbs]

lemma length_splitTabs (l : Bytes) : (splitTabs l).length = l.count tab + 1 := by
  induction l with
  | nil => rfl
  | cons b bs ih =>
    rw [splitTabs]
    split_ifs with hb
    · rw [length_cons, ih, hb, count_cons_self]
    · rw [count_cons_of_ne hb]
      cases hsplit : splitTabs bs with
      | nil => simp [hsplit] at ih
      | cons p ps => rw [← ih, hsplit]; rfl

lemma isDigitByte_of_isDigit {c : Char} (h : c.isDigit) : isDigitByte c.toNat.toUInt8 := by
  have hle : 48 ≤ c.toNat ∧ c.toNat ≤ 57 := by
    simp only [Char.isDigit, Bool.and_eq_true, decide_eq_true_eq, ge_iff_le, UInt32.le_iff_toNat_le] at h
    exact h
  obtain ⟨h1, h2⟩ := hle
  generalize c.toNat = n at h1 h2
  interval_cases n <;> rfl

lemma formatInt_bytes (sec : ℤ) : ∀ b ∈ formatInt sec, b = 45 ∨ isDigitByte b := by
  have hdigits : ∀ n : ℕ, ∀ c ∈ (toString n).toList, isDigitByte c.toNat.toUInt8 := by
    intro n c hc
    rw [show toString n = String.ofList (Nat.toDigits 10 n) from rfl, String.toList_ofList] at hc
    exact isDigitByte_of_isDigit (Nat.isDigit_of_mem_toDigits (by decide) le_rfl hc)
  intro b hb
  obtain ⟨c, hc, rfl⟩ := mem_map.mp hb
  cases sec with
  | ofNat n => exact .inr (hdigits n c hc)
  | negSucc n =>
    rw [show toString (Int.negSucc n) = "-" ++ toString (n + 1) from rfl, String.toList_append] at hc
    rcases mem_append.mp hc with hc | hc
    · obtain rfl : c = '-' := by simpa using hc
      exact .inl rfl
    · exact .inr (hdigits (n + 1) c hc)

lemma notMem_formatInt {b : UInt8} (hb : b < 45) (sec : ℤ) : b ∉ formatInt sec := by
  intro h
  rcases formatInt_bytes sec b h with rfl | hdigit
  · exact absurd hb (by decide)
  · simp only [isDigitByte, Bool.and_eq_true, decide_eq_true_eq, UInt8.le_iff_toNat_le] at hdigit
    rw [UInt8.lt_iff_toNat_lt] at hb
    have h45 : (45 : UInt8).toNat = 45 := rfl
    have h48 : (48 : UInt8).toNat = 48 := rfl
    omega

/-- The bytes that a key must not have. -/
structure KeyOK (key : Bytes) : Prop where
  tab : tab ∉ key
  carriageReturn : carriageReturn ∉ key
  newline : newline ∉ key

lemma newline_notMem_claimLine (h : KeyOK key) (sec : ℤ) : newline ∉ claimLine key sec := by
  intro hmem
  rcases mem_append.mp hmem with hmem | hmem
  · exact h.newline hmem
  · rcases mem_cons.mp hmem with hmem | hmem
    · exact absurd hmem (by decide)
    · exact notMem_formatInt (by decide) sec hmem

lemma dropCR_claimLine (h : KeyOK key) : dropCR (claimLine key sec) = claimLine key sec := by
  refine dropCR_of_notMem fun hmem => ?_
  rcases mem_append.mp hmem with hmem | hmem
  · exact h.carriageReturn hmem
  · rcases mem_cons.mp hmem with hmem | hmem
    · exact absurd hmem (by decide)
    · exact notMem_formatInt (by decide) sec hmem

lemma splitTabs_claimLine (h : KeyOK key) : splitTabs (claimLine key sec) = [key, formatInt sec] := by
  rw [claimLine, splitTabs_append h.tab, splitTabs_of_notMem (notMem_formatInt (by decide) sec)]

lemma tab_mem_claimLine (key : Bytes) (sec : ℤ) : tab ∈ claimLine key sec := by simp [claimLine]

lemma count_tab_dropCR (l : Bytes) : (dropCR l).count tab = l.count tab := by
  unfold dropCR
  split_ifs with h
  · obtain ⟨init, rfl⟩ := List.getLast?_eq_some_iff.mp h
    rw [dropLast_concat, count_append]
    rfl
  · rfl

lemma replayLine_eq_some (h : replayLine claimed line = some claimed') :
    ∃ key sec, splitTabs line = [key, sec] ∧ claimed' = key :: claimed := by
  unfold replayLine at h
  split at h
  · rename_i key sec hsplit
    split_ifs at h
    exact ⟨key, sec, hsplit, (Option.some.inj h).symm⟩
  · cases h

/-- All lines of a file that is accepted have two parts, and their keys are claimed. -/
lemma foldlM_replayLine {lines : List Bytes} (h : lines.foldlM replayLine claimed = some claimed') :
    claimed ⊆ claimed' ∧ ∀ l ∈ lines, ∃ key sec, splitTabs l = [key, sec] ∧ key ∈ claimed' := by
  induction lines generalizing claimed with
  | nil =>
    obtain rfl := Option.some.inj h
    exact ⟨List.Subset.refl _, by simp⟩
  | cons l ls ih =>
    rw [foldlM_cons] at h
    obtain ⟨next, hnext, h⟩ := Option.bind_eq_some_iff.mp h
    obtain ⟨key, sec, hsplit, rfl⟩ := replayLine_eq_some hnext
    obtain ⟨hsub, hlines⟩ := ih h
    refine ⟨fun k hk => hsub (mem_cons_of_mem _ hk), fun l' hl' => ?_⟩
    rcases mem_cons.mp hl' with rfl | hl'
    · exact ⟨key, sec, hsplit, hsub mem_cons_self⟩
    · exact hlines l' hl'

lemma replay_eq_some {file : Bytes} (h : replay file = some claimed) :
    ∀ l ∈ splitLines file, ∃ key sec, splitTabs (dropCR l) = [key, sec] ∧ key ∈ claimed := by
  obtain ⟨lines, hscan, h⟩ := Option.bind_eq_some_iff.mp h
  unfold scanLines at hscan
  split_ifs at hscan
  obtain rfl := Option.some.inj hscan
  intro l hl
  exact (foldlM_replayLine h).2 _ (mem_map_of_mem hl)

lemma count_tab_of_replay {file : Bytes} (h : replay file = some claimed) (hl : l ∈ splitLines file) :
    l.count tab = 1 := by
  obtain ⟨key, sec, hsplit, -⟩ := replay_eq_some h l hl
  have hlength := length_splitTabs (dropCR l)
  rw [hsplit, count_tab_dropCR] at hlength
  simpa using hlength.symm

end

/-! ## What holds of a store -/

/-- The file will never be accepted again. -/
def Broken (file : Bytes) : Prop := ∃ l, HasLine file l ∧ 2 ≤ l.count tab

/-- What holds of a store when these keys have been granted. -/
structure NonceStore.OK (s : NonceStore) (granted : Bytes → Prop) : Prop where
  key : ∀ k, granted k → KeyOK k
  claimed : ∀ claimed, s.claimed = some claimed → ∀ k, granted k → k ∈ claimed
  tail : s.claimed ≠ none → ∃ t, HasTail s.file t ∧ (t = [] ∨ tab ∈ t)
  line : Broken s.durable ∨ ∀ k, granted k → ∃ sec, HasLine s.durable (claimLine k sec)

section

variable {s : NonceStore} {granted : Bytes → Prop} {claimed : List Bytes} {key : Bytes} {sec : ℤ}

lemma Broken.append {file x : Bytes} (h : Broken file) : Broken (file ++ x) := by
  obtain ⟨l, hl, hcount⟩ := h
  exact ⟨l, hl.append, hcount⟩

lemma NonceStore.OK.line_append (h : s.OK granted) (x : Bytes) :
    Broken (s.durable ++ x) ∨ ∀ k, granted k → ∃ sec, HasLine (s.durable ++ x) (claimLine k sec) := by
  rcases h.line with hbroken | hline
  · exact .inl hbroken.append
  · right
    intro k hk
    obtain ⟨sec, hsec⟩ := hline k hk
    exact ⟨sec, hsec.append⟩

lemma not_broken_of_replay {file : Bytes} (h : replay file = some claimed) : ¬Broken file := by
  rintro ⟨l, hl, hcount⟩
  have := count_tab_of_replay h hl.mem_splitLines
  omega

lemma NonceStore.OK.open (h : s.OK granted) (hreplay : replay s.file = some claimed) :
    ({ s with claimed := some claimed } : NonceStore).OK granted := by
  refine ⟨h.key, ?_, fun _ => ?_, h.line⟩
  · intro claimed' heq k hk
    obtain rfl := Option.some.inj heq
    rcases h.line_append s.pending with hbroken | hline
    · exact absurd hbroken (not_broken_of_replay hreplay)
    · obtain ⟨sec, hsec⟩ := hline k hk
      obtain ⟨k', sec', hsplit, hk'⟩ := replay_eq_some hreplay _ hsec.mem_splitLines
      rw [dropCR_claimLine (h.key k hk), splitTabs_claimLine (h.key k hk)] at hsplit
      obtain ⟨rfl, -⟩ := List.cons.inj hsplit
      exact hk'
  · obtain ⟨t, ht⟩ := exists_hasTail s.file
    refine ⟨t, ht, ?_⟩
    by_cases hne : t = []
    · exact .inl hne
    · have hcount := count_tab_of_replay hreplay (ht.mem_splitLines hne)
      exact .inr (count_pos_iff.mp (by omega))

/-- A tail with a tab, or none, remains after a write that fails in this way. -/
lemma hasTail_torn {file t : Bytes} (ht : HasTail file t) (htab : t = [] ∨ tab ∈ t) (hkey : KeyOK key)
    (sec : ℤ) {n : ℕ} (hn : n = 0 ∨ key.length < n) :
    ∃ t', HasTail (file ++ (terminate (claimLine key sec)).take n) t' ∧ (t' = [] ∨ tab ∈ t') := by
  by_cases hfull : (claimLine key sec).length < n
  · refine ⟨[], ?_, .inl rfl⟩
    rw [take_of_length_le (by simp [terminate]; omega)]
    exact hasTail_terminate
  · rw [terminate, take_append_of_le_length (by omega)]
    have hnew : newline ∉ (claimLine key sec).take n := fun h =>
      newline_notMem_claimLine hkey sec (mem_of_mem_take h)
    refine ⟨_, ht.append hnew, ?_⟩
    rcases hn with rfl | hn
    · simpa using htab
    · right
      refine mem_append_right _ ?_
      have htake : (key ++ [tab]) <+: (claimLine key sec).take n := by
        rw [prefix_take_iff]
        exact ⟨⟨formatInt sec, by simp [claimLine]⟩, by simpa using hn⟩
      exact htake.subset (by simp)

lemma claim_cases (s : NonceStore) (claimed : List Bytes) (key : Bytes) (sec : ℤ) (io : ClaimIO) :
    (∃ err, s.claim claimed key sec io = (s, .error err)) ∨
      (KeyOK key ∧ ∃ n err, (io.write = some n ∨ (terminate (claimLine key sec)).length ≤ n) ∧
        s.claim claimed key sec io =
          ({ s with pending := s.pending ++ (terminate (claimLine key sec)).take n }, .error err)) ∨
      key ∉ claimed ∧ KeyOK key ∧ s.claim claimed key sec io =
        ({ durable := s.file ++ terminate (claimLine key sec), claimed := some (key :: claimed) }, .ok ()) := by
  unfold NonceStore.claim
  split
  · exact .inl ⟨_, rfl⟩
  · split
    · exact .inl ⟨_, rfl⟩
    · rename_i hvalid
      rw [not_or, not_or, not_or] at hvalid
      have hkey : KeyOK key := ⟨hvalid.2.1, hvalid.2.2.1, hvalid.2.2.2⟩
      split
      · exact .inl ⟨_, rfl⟩
      · rename_i hclaimed
        right
        split
        · rename_i n hwrite
          exact .inl ⟨hkey, n, _, .inl hwrite, rfl⟩
        · split
          · exact .inl ⟨hkey, _, _, .inr le_rfl, by rw [take_length]⟩
          · exact .inr ⟨hclaimed, hkey, by simp [NonceStore.file]⟩

lemma NonceStore.OK.grant (h : s.OK granted) (hopen : s.claimed = some claimed) (hkey : KeyOK key) :
    ({ durable := s.file ++ terminate (claimLine key sec), claimed := some (key :: claimed) } :
      NonceStore).OK fun k => granted k ∨ k = key := by
  have hnew := newline_notMem_claimLine hkey sec
  obtain ⟨t, ht, htab⟩ := h.tail (by simp [hopen])
  refine ⟨?_, ?_, fun _ => ⟨[], ?_, .inl rfl⟩, ?_⟩
  · rintro k (hk | rfl)
    · exact h.key k hk
    · exact hkey
  · rintro claimed' heq k (hk | rfl)
    · obtain rfl := Option.some.inj heq
      exact mem_cons_of_mem _ (h.claimed claimed hopen k hk)
    · obtain rfl := Option.some.inj heq
      exact mem_cons_self
  · rw [NonceStore.file, append_nil]
    exact hasTail_terminate
  · have hline := ht.hasLine hnew
    rcases htab with rfl | htab
    · rw [NonceStore.file, append_assoc]
      rcases h.line_append (s.pending ++ terminate (claimLine key sec)) with hbroken | hlines
      · exact .inl hbroken
      · right
        rintro k (hk | rfl)
        · exact hlines k hk
        · rw [NonceStore.file, append_assoc] at hline
          exact ⟨sec, hline⟩
    · -- The tail has a tab already.
      left
      refine ⟨_, hline, ?_⟩
      have h1 := count_pos_iff.mpr htab
      have h2 := count_pos_iff.mpr (tab_mem_claimLine key sec)
      rw [count_append]
      omega

lemma NonceStore.OK.act (h : s.OK granted) {a : StoreAction} (hclean : a.Clean) :
    (∃ key sec io claimed, a = .claim key sec io ∧ s.claimed = some claimed ∧ key ∉ claimed ∧
      (s.act a).2 = .ok () ∧ (s.act a).1.OK fun k => granted k ∨ k = key) ∨
    (s.act a).1.OK granted ∧ ∀ key sec io, a = .claim key sec io → (s.act a).2 ≠ .ok () := by
  cases a with
  | «open» =>
    refine .inr ⟨?_, by simp⟩
    simp only [NonceStore.act]
    split
    · exact h
    · exact h
    · rename_i hreplay
      exact h.open hreplay
  | close => exact .inr ⟨⟨h.key, by simp [NonceStore.act], by simp [NonceStore.act], h.line⟩, by simp⟩
  | crash kept =>
    exact .inr ⟨⟨h.key, by simp [NonceStore.act], by simp [NonceStore.act], h.line_append _⟩, by simp⟩
  | claim key sec io =>
    simp only [NonceStore.act]
    split
    · exact .inr ⟨h, by simp⟩
    · rename_i claimed hopen
      rcases claim_cases s claimed key sec io with ⟨err, heq⟩ | ⟨hkey, n, err, hn, heq⟩ | ⟨hnew, hkey, heq⟩
      · rw [heq]
        exact .inr ⟨h, by simp⟩
      · rw [heq]
        refine .inr ⟨⟨h.key, h.claimed, fun _ => ?_, h.line⟩, by simp⟩
        obtain ⟨t, ht, htab⟩ := h.tail (by simp [hopen])
        have hn' : n = 0 ∨ key.length < n := by
          rcases hn with hwrite | hlength
          · exact hclean key sec io n rfl hwrite
          · right
            simp only [terminate, claimLine, length_append, length_cons] at hlength
            omega
        have htorn := hasTail_torn ht htab hkey sec hn'
        rwa [NonceStore.file, append_assoc] at htorn
      · rw [heq]
        exact .inl ⟨key, sec, io, claimed, rfl, hopen, hnew, rfl, h.grant hopen hkey⟩

lemma ok_empty : ({} : NonceStore).OK fun _ => False := by
  refine ⟨by simp, by simp, by simp, .inr (by simp)⟩

lemma grants_iff {key : Bytes} {x : Success NonceStore StoreAction (Except String Unit)} :
    grants key x ↔ (∃ sec io, x.input = .claim key sec io) ∧ x.log = .ok () := by
  unfold grants
  split
  · rename_i key' sec io hinput hlog
    rw [hinput, decide_eq_true_eq]
    constructor
    · rintro rfl
      exact ⟨⟨sec, io, rfl⟩, hlog⟩
    · rintro ⟨⟨sec', io', heq⟩, -⟩
      exact (StoreAction.claim.inj heq).1.symm
  · rename_i hno
    simp only [Bool.false_eq_true, false_iff]
    rintro ⟨⟨sec, io, hinput⟩, hlog⟩
    exact hno key sec io hinput hlog

end

/-- If no write that fails leaves a part of a key, a nonce is granted at most once, over all
crashes and restarts. -/
theorem nonce_granted_once (actions : List StoreAction) (hclean : ∀ a ∈ actions, a.Clean) (key : Bytes) :
    (storeHistory actions).countP (grants key) ≤ 1 := by
  suffices h : (execute storeTransaction {} actions).OK
      (fun k => ∃ x ∈ storeHistory actions, grants k x) ∧
      ∀ k, (storeHistory actions).countP (grants k) ≤ 1 from h.2 key
  refine history_rule_of_mem
    (H := fun past s => s.OK (fun k => ∃ x ∈ past, grants k x) ∧ ∀ k, past.countP (grants k) ≤ 1)
    ⟨by simpa using ok_empty, by simp⟩ actions ?_
  intro past s a s' result ha ⟨hok, hcount⟩ hcall
  obtain rfl : (s.act a).1 = s' := congrArg Prod.fst (Except.ok.inj hcall)
  obtain rfl : (s.act a).2 = result := congrArg Prod.snd (Except.ok.inj hcall)
  rcases hok.act (hclean a ha) with
    ⟨key, sec, io, claimed, rfl, hopen, hnew, hresult, hnext⟩ | ⟨hnext, hrefused⟩
  · have hgrants : ∀ k, grants k ⟨s, .claim key sec io, (s.act (.claim key sec io)).2⟩ = true ↔ k = key := by
      intro k
      rw [grants_iff]
      constructor
      · rintro ⟨⟨_, _, heq⟩, -⟩
        exact (StoreAction.claim.inj heq).1.symm
      · rintro rfl
        exact ⟨⟨sec, io, rfl⟩, hresult⟩
    refine ⟨?_, fun k => ?_⟩
    · simpa [or_and_right, exists_or, hgrants] using hnext
    · rw [countP_append, countP_singleton]
      by_cases hk : k = key
      · -- The key is not claimed, so it was not granted before.
        have hbefore : past.countP (grants k) = 0 := countP_eq_zero.mpr fun x hx hgranted =>
          hnew (hk ▸ hok.claimed claimed hopen k ⟨x, hx, hgranted⟩)
        rw [hbefore]
        split_ifs <;> decide
      · rw [if_neg fun h => hk ((hgrants k).mp h)]
        exact hcount k
  · have hno : ∀ k, ¬grants k ⟨s, a, (s.act a).2⟩ = true := by
      intro k hk
      obtain ⟨⟨sec, io, hinput⟩, hlog⟩ := grants_iff.mp hk
      exact hrefused k sec io hinput hlog
    refine ⟨?_, fun k => ?_⟩
    · simpa [or_and_right, exists_or, hno] using hnext
    · rw [countP_append, countP_singleton, if_neg (hno k)]
      exact hcount k

/-- A claim is granted once, its sync having failed before. -/
theorem nonce_granted_once_retried :
    (∀ a ∈ [StoreAction.open, .claim [98] 1 { syncFails := true }, .claim [98] 2 {}, .claim [98] 3 {}],
        a.Clean) ∧
      (storeHistory [.open, .claim [98] 1 { syncFails := true }, .claim [98] 2 {}, .claim [98] 3 {}]).countP
        (grants [98]) ≤ 1 := by
  have hclean : ∀ a ∈ [StoreAction.open, .claim [98] 1 { syncFails := true }, .claim [98] 2 {},
      .claim [98] 3 {}], a.Clean := by
    intro a ha key sec io n heq hwrite
    subst heq
    simp only [mem_cons, reduceCtorEq, StoreAction.claim.injEq, not_mem_nil, or_false,
      false_or] at ha
    rcases ha with ⟨-, -, rfl⟩ | ⟨-, -, rfl⟩ | ⟨-, -, rfl⟩ <;> cases hwrite
  exact ⟨hclean, nonce_granted_once _ hclean [98]⟩

/-- A write of `a` fails after its key. The claim of `b` is granted, joined to that part in
the file, and granted again after a restart. -/
theorem torn_key_grants_twice :
    (storeHistory [.open, .claim [97] 1 { write := some 1 }, .claim [98] 2 {}, .close, .open,
      .claim [98] 3 {}]).countP (grants [98]) = 2 := by
  decide

end FlowOps.Signer

import FlowOps.Pkg.Envelope

/-!
# The freeze file

`FileFreezeGate.read` (file_freeze.go:68) looks for repeated members by their names as written,
and `encoding/json` folds the case of a name to find its field. The model starts from the members
that the tokenizer of both passes reads.

Results: `freezes_refused_iff`, and `freeze_overridden`.
-/

namespace FlowOps.Signer.FreezeFile

open List

/-- A JSON value; `strings` is an array of strings and nulls. -/
inductive Value where
  | null
  | bool (b : Bool)
  | string (s : String)
  | strings (values : List (Option String))
  | other

/-- A `[]string`: its elements, and what its array holds after them. -/
structure Strings where
  elements : List String := []
  spare : List String := []

/-- An array is decoded into the slots of the old one, and a null leaves its slot. -/
def Strings.decode (s : Strings) (values : List (Option String)) : Strings :=
  if values = [] then {}
  else
    let old := s.elements ++ s.spare
    { elements := values.mapIdx fun i v => v.getD (old.getD i ""), spare := old.drop values.length }

/-- `freezeState` (file_freeze.go:26). -/
structure FreezeState where
  version : String := ""
  organizationFrozen : Bool := false
  frozenAgents : Strings := {}
  frozenTasks : Strings := {}

inductive Field where
  | version | organizationFrozen | frozenAgents | frozenTasks
deriving DecidableEq

/-- The folding of `encoding/json`. Beside the small letters, only the long s and the Kelvin
sign fold to an ASCII letter; the others are left, as no tag has them. -/
def foldName (name : String) : List Char :=
  name.toList.map fun c => if c.toNat = 0x17F then 'S' else if c.toNat = 0x212A then 'K' else c.toUpper

/-- The field that a member is decoded into, by the `json` tags. -/
def field (name : String) : Option Field :=
  ([("version", Field.version), ("organizationFrozen", .organizationFrozen),
    ("frozenAgents", .frozenAgents), ("frozenTasks", .frozenTasks)].find? fun f =>
      foldName f.1 = foldName name).map Prod.snd

/-- A null leaves a string or a boolean, and clears a slice. -/
def Field.decode (s : FreezeState) : Field → Value → Except String FreezeState
  | .version, .string v => .ok { s with version := v }
  | .organizationFrozen, .bool b => .ok { s with organizationFrozen := b }
  | .frozenAgents, .strings values => .ok { s with frozenAgents := s.frozenAgents.decode values }
  | .frozenTasks, .strings values => .ok { s with frozenTasks := s.frozenTasks.decode values }
  | .version, .null | .organizationFrozen, .null => .ok s
  | .frozenAgents, .null => .ok { s with frozenAgents := {} }
  | .frozenTasks, .null => .ok { s with frozenTasks := {} }
  | _, _ => .error "customer freeze file is invalid"

/-- One member. `DisallowUnknownFields` is set. -/
def decodeMember (s : FreezeState) (m : String × Value) : Except String FreezeState :=
  (field m.1).elim (.error "customer freeze file is invalid") fun f => f.decode s m.2

/-- `validateUniqueIdentifiers` (file_freeze.go:106). -/
def validateUniqueIdentifiers (kind : String) (values : List String) : Except String Unit :=
  (foldCheck (fun seen value =>
    if identifierPattern value = false then .error (kind ++ " identifier is invalid")
    else if value ∈ seen then .error (kind ++ " identifier is duplicated")
    else .ok (value :: seen)) [] values).map fun _ => ()

/-- What is at the path: `text` is a private file of at most 64 KiB, with the members of its
first value if that is an object, and whether more follows. -/
inductive File where
  | unavailable | exposed | unreadable
  | text (members : Option (List (String × Value))) (more : Bool)

/-- `read` (file_freeze.go:68). -/
def read : File → Except String FreezeState
  | .unavailable => .error "customer freeze file is unavailable"
  | .exposed => .error "customer freeze file must be a private regular file"
  | .unreadable => .error "customer freeze file is invalid"
  | .text none _ => .error "customer freeze file has duplicate fields"
  | .text (some members) more =>
    if ¬(members.map Prod.fst).Nodup then .error "customer freeze file has duplicate fields"
    else
      (foldCheck decodeMember {} members).bind fun state =>
        if more then .error "customer freeze file must contain one object"
        else if state.version ≠ "flowops.freeze.v1" then
          .error "customer freeze file version is unsupported"
        else
          (validateUniqueIdentifiers "frozen agent" state.frozenAgents.elements).bind fun () =>
          (validateUniqueIdentifiers "frozen task" state.frozenTasks.elements).bind fun () =>
          .ok state

/-- `CheckFrozen` (file_freeze.go:44), under the error of its context. -/
def checkFrozen (ctxErr : Option String) (file : File) (a : Authorization) : Except String Unit :=
  match ctxErr with
  | some err => .error err
  | none =>
    (read file).bind fun state =>
      if state.organizationFrozen then .error "customer organization is frozen"
      else if a.agentID ∈ state.frozenAgents.elements then .error "customer agent is frozen"
      else if a.taskID ∈ state.frozenTasks.elements then .error "customer task is frozen"
      else .ok ()

/-- The value freezes the authorization when it is decoded into the field. -/
def Value.Freezes (v : Value) (a : Authorization) : Field → Prop
  | .version => False
  | .organizationFrozen => v = .bool true
  | .frozenAgents => ∃ values, v = .strings values ∧ some a.agentID ∈ values
  | .frozenTasks => ∃ values, v = .strings values ∧ some a.taskID ∈ values

/-- The field of the state freezes the authorization. -/
def FreezeState.Freezes (s : FreezeState) (a : Authorization) : Field → Prop
  | .version => False
  | .organizationFrozen => s.organizationFrozen
  | .frozenAgents => a.agentID ∈ s.frozenAgents.elements
  | .frozenTasks => a.taskID ∈ s.frozenTasks.elements

section

variable {s s' : FreezeState} {f : Field} {a : Authorization} {members : List (String × Value)}

lemma Strings.mem_decode {s : Strings} {values : List (Option String)} {x : String}
    (h : some x ∈ values) : x ∈ (s.decode values).elements := by
  obtain ⟨i, hi, heq⟩ := getElem_of_mem h
  rw [decode, if_neg (ne_nil_of_mem h)]
  exact mem_mapIdx.mpr ⟨i, hi, by simp [heq]⟩

lemma Field.decode_freezes {v : Value} (h : f.decode s v = .ok s') (hv : v.Freezes a f) :
    s'.Freezes a f := by
  cases f with
  | version => exact hv.elim
  | organizationFrozen =>
    cases hv
    cases h
    rfl
  | frozenAgents | frozenTasks =>
    obtain ⟨values, rfl, hmem⟩ := hv
    cases h
    exact Strings.mem_decode hmem

lemma Field.decode_keeps {g : Field} {v : Value} (h : f.decode s v = .ok s') (hne : f ≠ g)
    (hs : s.Freezes a g) : s'.Freezes a g := by
  cases f <;> cases v <;> cases h <;> cases g <;> first | exact hs | exact absurd rfl hne

lemma decodeMember_ok {m : String × Value} (h : decodeMember s m = .ok s') :
    ∃ f, field m.1 = some f ∧ f.decode s m.2 = .ok s' := by
  unfold decodeMember at h
  cases hf : field m.1 with
  | none => rw [hf] at h; cases h
  | some f => exact ⟨f, rfl, by rwa [hf] at h⟩

lemma decode_keeps (h : foldCheck decodeMember s members = .ok s')
    (hne : some f ∉ members.map (field ·.1)) (hs : s.Freezes a f) : s'.Freezes a f := by
  induction members generalizing s with
  | nil =>
    cases h
    exact hs
  | cons m rest ih =>
    obtain ⟨s₁, hm, hrest⟩ := foldCheck_cons_ok.mp h
    obtain ⟨g, hg, hdecode⟩ := decodeMember_ok hm
    rw [map_cons, mem_cons, not_or, hg] at hne
    exact ih hrest hne.2 (Field.decode_keeps hdecode (fun heq => hne.1 (heq ▸ rfl)) hs)

/-- With one member for each field, what a member freezes stays frozen. -/
lemma decode_freezes (h : foldCheck decodeMember s members = .ok s')
    (hnodup : (members.map (field ·.1)).Nodup) {m : String × Value} (hm : m ∈ members)
    (hf : field m.1 = some f) (hv : m.2.Freezes a f) : s'.Freezes a f := by
  induction members generalizing s with
  | nil => cases hm
  | cons m' rest ih =>
    obtain ⟨s₁, hstep, hrest⟩ := foldCheck_cons_ok.mp h
    rw [map_cons, nodup_cons] at hnodup
    rcases mem_cons.mp hm with rfl | hm
    · obtain ⟨g, hg, hdecode⟩ := decodeMember_ok hstep
      cases hf.symm.trans hg
      exact decode_keeps hrest (hf ▸ hnodup.1) (Field.decode_freezes hdecode hv)
    · exact ih hrest hnodup.2 hm

/-- Names with a field have the same one exactly if they fold to the same text. -/
lemma field_eq_iff {x y : String} (hx : field x = some f) :
    field x = field y ↔ foldName x = foldName y := by
  constructor
  · intro h
    obtain ⟨⟨tag, g⟩, htag, hg⟩ := Option.map_eq_some_iff.mp hx
    obtain ⟨⟨tag', g'⟩, htag', hg'⟩ := Option.map_eq_some_iff.mp (h ▸ hx)
    have hfold : foldName tag = foldName x := by simpa using find?_some htag
    have hfold' : foldName tag' = foldName y := by simpa using find?_some htag'
    have hmem := mem_of_find?_eq_some htag
    have hmem' := mem_of_find?_eq_some htag'
    -- The tags of the four fields are different.
    have htags : tag = tag' := by
      simp only [mem_cons, not_mem_nil, or_false, Prod.mk.injEq] at hmem hmem'
      simp only at hg hg'
      grind
    rw [← hfold, ← hfold', htags]
  · intro h
    simp only [field, h]

/-- Every member of an accepted list has a field. -/
lemma decoded_field (h : foldCheck decodeMember s members = .ok s') {m : String × Value}
    (hm : m ∈ members) : ∃ f, field m.1 = some f := by
  induction members generalizing s with
  | nil => cases hm
  | cons m' rest ih =>
    obtain ⟨s₁, hstep, hrest⟩ := foldCheck_cons_ok.mp h
    rcases mem_cons.mp hm with rfl | hm
    · obtain ⟨f, hf, -⟩ := decodeMember_ok hstep
      exact ⟨f, hf⟩
    · exact ih hrest hm

end

/-- In an accepted file, the names that are written differ even when their case is folded, if and
only if no two members are decoded into one field and `CheckFrozen` refuses what a member
freezes. -/
theorem freezes_refused_iff {members : List (String × Value)} {more : Bool} {state : FreezeState}
    (hread : read (.text (some members) more) = .ok state) :
    (members.map fun m => foldName m.1).Nodup ↔
      (members.map fun m => field m.1).Nodup ∧
      ∀ m ∈ members, ∀ f a, field m.1 = some f → m.2.Freezes a f →
        ∀ ctxErr, ∃ err, checkFrozen ctxErr (.text (some members) more) a = .error err := by
  have hparts := hread
  simp only [read, guard_ok, bind_eq_ok] at hparts
  obtain ⟨-, state', hdecode, -, -, -, -, -, -, heq⟩ := hparts
  cases heq
  have hnames : (members.map fun m => foldName m.1).Nodup ↔
      (members.map fun m => field m.1).Nodup := by
    rw [Nodup, Nodup, pairwise_map, pairwise_map]
    refine Pairwise.iff_of_mem fun {x y} hx _ => not_congr ?_
    obtain ⟨f, hf⟩ := decoded_field hdecode hx
    exact (field_eq_iff hf).symm
  rw [hnames]
  refine ⟨fun hnodup => ⟨hnodup, fun m hm f a hf hv ctxErr => ?_⟩, And.left⟩
  cases ctxErr with
  | some err => exact ⟨err, rfl⟩
  | none =>
    have hfrozen := decode_freezes hdecode hnodup hm hf hv
    simp only [checkFrozen, hread, Except.bind]
    cases f with
    | version => exact hfrozen.elim
    | _ => split_ifs <;> first | exact ⟨_, rfl⟩ | exact absurd hfrozen ‹_›

/-- A freeze of the organization, then `frozen` under another spelling. -/
def Example.file (frozen : Option Bool) : File :=
  .text (some ([("version", .string "flowops.freeze.v1"), ("organizationFrozen", .bool true)] ++
    frozen.toList.map fun b => ("ORGANIZATIONFROZEN", .bool b))) false

theorem freezes_refused_iff_once : (∃ state, read (Example.file none) = .ok state) ∧
    ∀ a, ∃ err, checkFrozen none (Example.file none) a = .error err := by
  refine ⟨⟨_, rfl⟩, fun a => ?_⟩
  exact ((freezes_refused_iff rfl).mp (by decide)).2 ("organizationFrozen", .bool true) (by simp)
    .organizationFrozen a (by decide) rfl none

/-- The second spelling passes as a new member, and overrides the freeze. -/
theorem freeze_overridden : (∃ state, read (Example.file (some false)) = .ok state) ∧
    ∀ a, checkFrozen none (Example.file (some false)) a = .ok () :=
  ⟨⟨_, rfl⟩, fun _ => rfl⟩

end FlowOps.Signer.FreezeFile

import FlowOps.Common.Check
import FlowOps.Common.Transactions
import FlowOps.Contracts.Governance
import Mathlib.Data.Set.Card

/-!
# AgentRegistry

`contracts/src/AgentRegistry.sol`: agents that a hot administrator registers and changes by signed
authorizations, which anyone may relay, and whose administrator the governor rotates. Every
authorization names the epoch of the administrator, an operation and a nonce. The epoch grows with
each rotation, so an address that becomes administrator again does so in a new epoch.

Result: `registry_authority`.
-/

namespace FlowOps.AgentRegistry

open Evm Function

/-! ## Model -/

/-- `Status` (AgentRegistry.sol:24). -/
inductive Status where
  | none | active | suspended | retired
deriving DecidableEq

def Status.toNat : Status → ℕ
  | .none => 0
  | .active => 1
  | .suspended => 2
  | .retired => 3

/-- `Agent` (AgentRegistry.sol:46). -/
structure Agent where
  label : List (BitVec 8) := []
  labelHash : Bytes32 := 0
  policyHash : Bytes32 := 0
  status : Status := .none
  registeredAt : UInt64 := 0
  updatedAt : UInt64 := 0

/-- The immutables and the first administrator, as the constructor accepts them. -/
structure Deployment extends Host where
  governor : Address
  orgDomain : Bytes32
  initialAdmin : Address
  admin_ne : initialAdmin ≠ 0
  orgDomain_ne : orgDomain ≠ 0

structure Storage where
  registryAdmin : Address
  registryAdminEpoch : UInt64 := 1
  agentCount : ℕ := 0
  agents : Bytes32 → Agent := fun _ => {}
  usedAdminOperationIds : Bytes32 → Bool := fun _ => false
  usedAdminNonces : Bytes32 → Bool := fun _ => false

inductive Log where
  | registryAdminSet (previousAdmin admin : Address) (epoch : UInt64)
  | governanceWorkflowBound (workflowId workflowPayloadHash : Bytes32) (functionSelector : BitVec 32)
  | agentRegistered (agentId policyHash adminOperationId : Bytes32) (label : List (BitVec 8))
      (workflowId : Bytes32) (registryAdmin relayer : Address)
  | agentPolicyUpdated (agentId previousPolicyHash policyHash adminOperationId workflowId : Bytes32)
      (registryAdmin relayer : Address)
  | agentStatusSet (agentId : Bytes32) (previousStatus status : Status)
      (adminOperationId workflowId : Bytes32) (registryAdmin relayer : Address)

inductive Revert where
  | zeroAddress
  | notGovernor (caller : Address)
  | invalidLabel | invalidPolicyHash | invalidAuthorization | badSignature
  | unauthorizedSigner (expected actual : Address)
  | authorizationUsed (operationId : Bytes32)
  | authorizationNonceUsed (nonce : Bytes32)
  | agentUnknown (agentId : Bytes32)
  | agentAlreadyExists (agentId : Bytes32)
  | agentRetired (agentId : Bytes32)
  | invalidStatus (status : Status)
  | statusUnchanged (status : Status)
  | registryAdminUnchanged (admin : Address)
  | invalidWorkflowBinding | overflow

structure Msg where
  sender : Address
  timestamp : ℕ

/-- The external methods that write, and their arguments. -/
inductive Method where
  | register (label : List (BitVec 8)) (policyHash workflowId : Bytes32)
      (authorization : AdminActionAuthorization) (signature : List (BitVec 8))
  | updatePolicyHash (agentId policyHash workflowId : Bytes32)
      (authorization : AdminActionAuthorization) (signature : List (BitVec 8))
  | setStatus (agentId : Bytes32) (status : Status) (workflowId : Bytes32)
      (authorization : AdminActionAuthorization) (signature : List (BitVec 8))
  | setRegistryAdmin (newAdmin : Address) (workflowId workflowPayloadHash : Bytes32)

structure Input where
  msg : Msg
  method : Method

/-- `MAX_AUTHORIZATION_WINDOW` (AgentRegistry.sol:21). -/
def maxAuthorizationWindow : ℕ := 600

/-- `MAX_LABEL_BYTES` (AgentRegistry.sol:22). -/
def maxLabelBytes : ℕ := 64

/-- The text of `GOVERNANCE_PAYLOAD_DOMAIN` (AgentRegistry.sol:14). -/
def governanceDomain : String := "AGENT_REGISTRY_GOVERNANCE_V1"

/-- The tail of a selector of a method that takes an authorization. -/
def authorizedArguments : String :=
  ",bytes32,(bytes32,address,uint256,bytes32,bytes4,bytes32,bytes32,uint256,uint64,uint64,uint64,bytes32),bytes)"

/-- `abi.encode(label, policyHash, workflowId)`: the label stands after the head, padded to whole words. -/
def encodeRegistration (label : List (BitVec 8)) (policyHash workflowId : Bytes32) : List (BitVec 8) :=
  abiEncode [natWord 96, policyHash, workflowId, natWord label.length] ++ label ++
    List.replicate ((32 - label.length % 32) % 32) 0

namespace Deployment

variable (d : Deployment)

def registerSelector : BitVec 32 := d.selector ("register(string,bytes32" ++ authorizedArguments)

def updatePolicyHashSelector : BitVec 32 :=
  d.selector ("updatePolicyHash(bytes32,bytes32" ++ authorizedArguments)

def setStatusSelector : BitVec 32 := d.selector ("setStatus(bytes32,uint8" ++ authorizedArguments)

def setRegistryAdminSelector : BitVec 32 := d.selector "setRegistryAdmin(address,bytes32,bytes32)"

/-- `deriveAgentId` (AgentRegistry.sol:242) of an operation that is not zero. -/
def deriveAgentId (adminOperationId : Bytes32) : Bytes32 :=
  d.hashWords [d.hashText "ASCP_AGENT_ID_V1", natWord d.chainId, addressWord d.this, d.orgDomain,
    adminOperationId]

end Deployment

section

variable (d : Deployment) (s : Storage) (m : Msg)

/-- `_consumeAdminAuthorization` (AgentRegistry.sol:251). -/
def consumeAdminAuthorization (a : AdminActionAuthorization) (signature : List (BitVec 8))
    (selector : BitVec 32) (payloadHash workflowId : Bytes32) : Except Revert Storage :=
  if a.orgDomain ≠ d.orgDomain ∨ a.contractAddress ≠ d.this ∨ a.chainId ≠ d.chainId ∨
      a.authorityRole ≠ d.hashText "ASCP_REGISTRY_ADMIN" ∨ a.functionSelector ≠ selector ∨
      a.payloadHash ≠ payloadHash ∨ a.workflowId ≠ workflowId ∨ a.adminOperationId = 0 ∨
      a.adminEpoch ≠ s.registryAdminEpoch ∨ m.timestamp < a.validAfter.toNat ∨
      a.validBefore.toNat ≤ m.timestamp ∨ a.validBefore.toNat ≤ a.validAfter.toNat ∨
      maxAuthorizationWindow < a.validBefore.toNat - a.validAfter.toNat then .error .invalidAuthorization
  else if s.usedAdminOperationIds a.adminOperationId then
    .error (.authorizationUsed a.adminOperationId)
  else if s.usedAdminNonces a.adminNonce then .error (.authorizationNonceUsed a.adminNonce)
  else
    match d.recover (d.adminAuthorizationDigest a) signature with
    | none => .error .badSignature
    | some actualSigner =>
      if actualSigner ≠ s.registryAdmin then .error (.unauthorizedSigner s.registryAdmin actualSigner)
      else
        .ok { s with
          usedAdminOperationIds := update s.usedAdminOperationIds a.adminOperationId true
          usedAdminNonces := update s.usedAdminNonces a.adminNonce true }

/-- `_requireMutableAgent` (AgentRegistry.sol:279). -/
def requireMutableAgent (agentId : Bytes32) : Except Revert Agent :=
  if (s.agents agentId).status = .none then .error (.agentUnknown agentId)
  else if (s.agents agentId).status = .retired then .error (.agentRetired agentId)
  else .ok (s.agents agentId)

/-- What a transaction returns. -/
abbrev Result := Except Revert (Storage × List Log)

/-- `register` (AgentRegistry.sol:127). -/
def register (label : List (BitVec 8)) (policyHash workflowId : Bytes32)
    (a : AdminActionAuthorization) (signature : List (BitVec 8)) : Result :=
  if label.length = 0 ∨ maxLabelBytes < label.length then .error .invalidLabel
  else if policyHash = 0 then .error .invalidPolicyHash
  else
    (consumeAdminAuthorization d s m a signature d.registerSelector
        (d.keccak256 (encodeRegistration label policyHash workflowId)) workflowId).bind fun s =>
      let agentId := d.deriveAgentId a.adminOperationId
      if (s.agents agentId).status ≠ .none then .error (.agentAlreadyExists agentId)
      else if s.agentCount + 1 = 2 ^ 256 then .error .overflow
      else
        .ok ({ s with
            agents := update s.agents agentId
              { label, labelHash := d.keccak256 label, policyHash, status := .active
                registeredAt := uint64 m.timestamp, updatedAt := uint64 m.timestamp }
            agentCount := s.agentCount + 1 },
          [.agentRegistered agentId policyHash a.adminOperationId label workflowId s.registryAdmin m.sender])

/-- `updatePolicyHash` (AgentRegistry.sol:162). -/
def updatePolicyHash (agentId policyHash workflowId : Bytes32) (a : AdminActionAuthorization)
    (signature : List (BitVec 8)) : Result :=
  (requireMutableAgent s agentId).bind fun agent =>
    if policyHash = 0 ∨ policyHash = agent.policyHash then .error .invalidPolicyHash
    else
      (consumeAdminAuthorization d s m a signature d.updatePolicyHashSelector
          (d.hashWords [agentId, policyHash, workflowId]) workflowId).bind fun s =>
        .ok ({ s with
            agents := update s.agents agentId
              { agent with policyHash := policyHash, updatedAt := uint64 m.timestamp } },
          [.agentPolicyUpdated agentId agent.policyHash policyHash a.adminOperationId workflowId
            s.registryAdmin m.sender])

/-- `setStatus` (AgentRegistry.sol:186). -/
def setStatus (agentId : Bytes32) (status : Status) (workflowId : Bytes32)
    (a : AdminActionAuthorization) (signature : List (BitVec 8)) : Result :=
  (requireMutableAgent s agentId).bind fun agent =>
    if status = .none then .error (.invalidStatus status)
    else if status = agent.status then .error (.statusUnchanged status)
    else
      (consumeAdminAuthorization d s m a signature d.setStatusSelector
          (d.hashWords [agentId, natWord status.toNat, workflowId]) workflowId).bind fun s =>
        .ok ({ s with
            agents := update s.agents agentId
              { agent with status := status, updatedAt := uint64 m.timestamp } },
          [.agentStatusSet agentId agent.status status a.adminOperationId workflowId s.registryAdmin m.sender])

/-- `setRegistryAdmin` (AgentRegistry.sol:210). -/
def setRegistryAdmin (newAdmin : Address) (workflowId workflowPayloadHash : Bytes32) : Result :=
  if m.sender ≠ d.governor then .error (.notGovernor m.sender)
  else if newAdmin = 0 then .error .zeroAddress
  else if newAdmin = s.registryAdmin then .error (.registryAdminUnchanged newAdmin)
  else if ¬d.WorkflowBound governanceDomain d.setRegistryAdminSelector
      (d.hashWords [addressWord s.registryAdmin, natWord s.registryAdminEpoch.toNat, addressWord newAdmin])
      workflowId workflowPayloadHash then .error .invalidWorkflowBinding
  else if s.registryAdminEpoch.toNat + 1 = 2 ^ 64 then .error .overflow
  else
    .ok ({ s with registryAdmin := newAdmin, registryAdminEpoch := s.registryAdminEpoch + 1 },
      [.registryAdminSet s.registryAdmin newAdmin (s.registryAdminEpoch + 1),
        .governanceWorkflowBound workflowId workflowPayloadHash d.setRegistryAdminSelector])

def call (i : Input) : Result :=
  match i.method with
  | .register label policyHash workflowId a signature =>
    register d s i.msg label policyHash workflowId a signature
  | .updatePolicyHash agentId policyHash workflowId a signature =>
    updatePolicyHash d s i.msg agentId policyHash workflowId a signature
  | .setStatus agentId status workflowId a signature =>
    setStatus d s i.msg agentId status workflowId a signature
  | .setRegistryAdmin newAdmin workflowId workflowPayloadHash =>
    setRegistryAdmin d s i.msg newAdmin workflowId workflowPayloadHash

def Deployment.init (d : Deployment) : Storage := { registryAdmin := d.initialAdmin }

/-- The storage after the transactions, of which those that revert do nothing. -/
def run (inputs : List Input) : Storage := execute (call d) d.init inputs

/-- A transaction that was not reverted. -/
abbrev Taken := Success Storage Input (List Log)

def history (inputs : List Input) : List Taken :=
  successes (call d) d.init inputs

end

/-! ## Steps -/

def Method.authorization : Method → Option AdminActionAuthorization
  | .register _ _ _ a _ | .updatePolicyHash _ _ _ a _ | .setStatus _ _ _ a _ => some a
  | .setRegistryAdmin .. => none

/-- What an accepted authorization has passed, and the storage with its marks. -/
structure Consumes (s : Storage) (a : AdminActionAuthorization) (s' : Storage) : Prop where
  epoch : a.adminEpoch = s.registryAdminEpoch
  operation : s.usedAdminOperationIds a.adminOperationId = false
  nonce : s.usedAdminNonces a.adminNonce = false
  result : s' = { s with
    usedAdminOperationIds := update s.usedAdminOperationIds a.adminOperationId true
    usedAdminNonces := update s.usedAdminNonces a.adminNonce true }

/-- What a transaction does: it adds an agent, changes one that is neither unknown nor retired, or
rotates the administrator. -/
inductive Step (s : Storage) : Input → Storage → Prop where
  | register {i : Input} {a : AdminActionAuthorization} {s₁ : Storage} {agentId : Bytes32} {agent : Agent}
      (hauthorization : i.method.authorization = some a) (hconsumes : Consumes s a s₁)
      (hnew : (s.agents agentId).status = .none) (hagent : agent.status ≠ .none) :
      Step s i { s₁ with agents := update s.agents agentId agent, agentCount := s.agentCount + 1 }
  | change {i : Input} {a : AdminActionAuthorization} {s₁ : Storage} {agentId : Bytes32} {agent : Agent}
      (hauthorization : i.method.authorization = some a) (hconsumes : Consumes s a s₁)
      (hknown : (s.agents agentId).status ≠ .none) (hmutable : (s.agents agentId).status ≠ .retired)
      (hagent : agent.status ≠ .none) :
      Step s i { s₁ with agents := update s.agents agentId agent }
  | rotate {i : Input} {newAdmin : Address} {epoch : UInt64} (hauthorization : i.method.authorization = none)
      (hepoch : epoch.toNat = s.registryAdminEpoch.toNat + 1) :
      Step s i { s with registryAdmin := newAdmin, registryAdminEpoch := epoch }

section

variable {d : Deployment} {s s' : Storage} {m : Msg} {i : Input} {o : List Log}
  {a : AdminActionAuthorization} {signature : List (BitVec 8)} {selector : BitVec 32}
  {payloadHash workflowId agentId : Bytes32} {agent : Agent}

lemma consumeAdminAuthorization_ok
    (h : consumeAdminAuthorization d s m a signature selector payloadHash workflowId = .ok s') :
    Consumes s a s' := by
  simp only [consumeAdminAuthorization, guard_ok] at h
  obtain ⟨hvalid, hoperation, hnonce, h⟩ := h
  split at h
  · cases h
  · rw [guard_ok, Except.ok.injEq] at h
    push Not at hvalid
    exact ⟨hvalid.2.2.2.2.2.2.2.2.1, by simpa using hoperation, by simpa using hnonce, h.2.symm⟩

lemma requireMutableAgent_ok (h : requireMutableAgent s agentId = .ok agent) :
    agent = s.agents agentId ∧ (s.agents agentId).status ≠ .none ∧ (s.agents agentId).status ≠ .retired := by
  simp only [requireMutableAgent, guard_ok, Except.ok.injEq] at h
  exact ⟨h.2.2.symm, h.1, h.2.1⟩

lemma Consumes.agents (h : Consumes s a s') : s'.agents = s.agents := by rw [h.result]

lemma Consumes.agentCount (h : Consumes s a s') : s'.agentCount = s.agentCount := by rw [h.result]

lemma call_step (h : call d s i = .ok (s', o)) : Step s i s' := by
  obtain ⟨m, method⟩ := i
  cases method with
  | register label policyHash workflowId a signature =>
    simp only [call, register, guard_ok, bind_eq_ok, ok_pair_eq] at h
    obtain ⟨-, -, s₁, hconsume, hnew, -, rfl, -⟩ := h
    have hc := consumeAdminAuthorization_ok hconsume
    rw [hc.agents, not_not] at hnew
    rw [hc.agents, hc.agentCount]
    exact .register rfl hc hnew (by simp)
  | updatePolicyHash agentId policyHash workflowId a signature =>
    simp only [call, updatePolicyHash, guard_ok, bind_eq_ok, ok_pair_eq] at h
    obtain ⟨agent, hagent, -, s₁, hconsume, rfl, -⟩ := h
    obtain ⟨rfl, hknown, hmutable⟩ := requireMutableAgent_ok hagent
    have hc := consumeAdminAuthorization_ok hconsume
    rw [hc.agents]
    exact .change rfl hc hknown hmutable hknown
  | setStatus agentId status workflowId a signature =>
    simp only [call, setStatus, guard_ok, bind_eq_ok, ok_pair_eq] at h
    obtain ⟨agent, hagent, hstatus, -, s₁, hconsume, rfl, -⟩ := h
    obtain ⟨rfl, hknown, hmutable⟩ := requireMutableAgent_ok hagent
    have hc := consumeAdminAuthorization_ok hconsume
    rw [hc.agents]
    exact .change rfl hc hknown hmutable hstatus
  | setRegistryAdmin newAdmin workflowId workflowPayloadHash =>
    simp only [call, setRegistryAdmin, guard_ok, ok_pair_eq] at h
    obtain ⟨-, -, -, -, hoverflow, rfl, -⟩ := h
    refine .rotate rfl ?_
    have hlt := s.registryAdminEpoch.toNat_lt
    rw [UInt64.toNat_add, UInt64.toNat_one, Nat.mod_eq_of_lt (by omega)]

end

/-! ## Runs -/

def Storage.registered (s : Storage) : Set Bytes32 := {id | (s.agents id).status ≠ .none}

def consumesOperation (operationId : Bytes32) (x : Taken) : Bool :=
  (x.input.method.authorization.map (·.adminOperationId)) = some operationId

def consumesNonce (nonce : Bytes32) (x : Taken) : Bool :=
  (x.input.method.authorization.map (·.adminNonce)) = some nonce

def rotates (x : Taken) : Bool := x.input.method.authorization = none

section

variable {d : Deployment} {s s' : Storage} {i : Input} {agent : Agent}

lemma registered_update (agents : Bytes32 → Agent) (id : Bytes32) (hagent : agent.status ≠ .none) :
    {k | (update agents id agent k).status ≠ .none} =
      insert id {k | (agents k).status ≠ .none} := by
  ext k
  by_cases hk : k = id
  · subst hk
    simp [hagent]
  · simp [hk]

lemma Step.registered (h : Step s i s') (hcount : s.registered.Finite ∧ s.agentCount = s.registered.ncard) :
    s'.registered.Finite ∧ s'.agentCount = s'.registered.ncard := by
  obtain ⟨hfinite, hcount⟩ := hcount
  cases h with
  | @register a s₁ agentId agent _ _ hnew hagent =>
    rw [Storage.registered, registered_update _ _ hagent]
    have hnotMem : agentId ∉ s.registered := fun h => h hnew
    exact ⟨hfinite.insert _, by rw [hcount]; exact (Set.ncard_insert_of_notMem hnotMem hfinite).symm⟩
  | @change a s₁ agentId agent _ hconsumes hknown _ hagent =>
    have hmem : agentId ∈ s.registered := hknown
    rw [Storage.registered, registered_update _ _ hagent, hconsumes.agentCount]
    have hsame : insert agentId {k | (s.agents k).status ≠ .none} = s.registered := Set.insert_eq_of_mem hmem
    rw [hsame]
    exact ⟨hfinite, hcount⟩
  | rotate => exact ⟨hfinite, hcount⟩

lemma Step.retired (h : Step s i s') {id : Bytes32} (hretired : (s.agents id).status = .retired) :
    s'.agents id = s.agents id := by
  cases h with
  | @register a s₁ agentId agent _ _ hnew =>
    refine update_of_ne (fun heq => ?_) _ _
    rw [← heq, hretired] at hnew
    cases hnew
  | @change a s₁ agentId agent _ _ _ hmutable =>
    refine update_of_ne (fun heq => hmutable ?_) _ _
    rw [← heq]
    exact hretired
  | rotate => rfl

/-- The epoch is kept by a transaction with an authorization and grows with a rotation. -/
lemma Step.epoch (h : Step s i s') :
    (∃ a, i.method.authorization = some a ∧ a.adminEpoch = s.registryAdminEpoch ∧
      s'.registryAdminEpoch = s.registryAdminEpoch) ∨
      i.method.authorization = none ∧
        s'.registryAdminEpoch.toNat = s.registryAdminEpoch.toNat + 1 := by
  cases h with
  | register hauth hconsumes | change hauth hconsumes =>
    exact .inl ⟨_, hauth, hconsumes.epoch, by rw [hconsumes.result]⟩
  | rotate hauth hepoch => exact .inr ⟨hauth, hepoch⟩

lemma Step.marks (h : Step s i s') (field : AdminActionAuthorization → Bytes32)
    (used : Storage → Bytes32 → Bool) (hused : ∀ a s₁, Consumes s a s₁ → used s (field a) = false ∧
      used s₁ = update (used s) (field a) true)
    (hframe : ∀ s : Storage, ∀ agents agentCount admin epoch,
      used { s with agents, agentCount, registryAdmin := admin, registryAdminEpoch := epoch } = used s)
    (key : Bytes32) :
    (i.method.authorization.map field = some key ∧ used s key = false ∧ used s' key) ∨
      (i.method.authorization.map field ≠ some key ∧ used s' key = used s key) := by
  have hmark : ∀ {a s₁}, i.method.authorization = some a → Consumes s a s₁ → used s' = used s₁ →
      (i.method.authorization.map field = some key ∧ used s key = false ∧ used s' key) ∨
        (i.method.authorization.map field ≠ some key ∧ used s' key = used s key) := by
    intro a s₁ hauth hconsumes hsame
    obtain ⟨hfresh, hupdate⟩ := hused a s₁ hconsumes
    rw [hauth, hsame, hupdate]
    by_cases hkey : field a = key
    · subst hkey
      exact .inl ⟨rfl, hfresh, update_self ..⟩
    · exact .inr ⟨by simpa using hkey, update_of_ne (Ne.symm hkey) ..⟩
  cases h with
  | register hauth hconsumes | change hauth hconsumes =>
    exact hmark hauth hconsumes (hframe ..)
  | rotate hauth => exact .inr ⟨by simp [hauth], by rw [← hframe s]⟩

lemma rotated_epoch (d : Deployment) (inputs : List Input) : ∀ y ∈ history d inputs,
    rotates y → y.before.registryAdminEpoch.toNat < (run d inputs).registryAdminEpoch.toNat := by
  refine history_rule (s := d.init) (H := fun past (s : Storage) => ∀ y ∈ past, rotates y →
    y.before.registryAdminEpoch.toNat < s.registryAdminEpoch.toNat)
    (by simp) (fun past s i s' o ih hc y hy hrotates => ?_) inputs
  rcases List.mem_append.mp hy with hy | hy
  · have hbefore := ih y hy hrotates
    rcases (call_step hc).epoch with ⟨-, -, -, hsame⟩ | ⟨-, hnext⟩
    · rwa [hsame]
    · omega
  · rw [List.mem_singleton.mp hy] at hrotates ⊢
    rcases (call_step hc).epoch with ⟨a, ha, -, -⟩ | ⟨-, hnext⟩
    · simp [rotates, ha] at hrotates
    · show s.registryAdminEpoch.toNat < s'.registryAdminEpoch.toNat
      omega

end

/-- In every state of every run: the counter is the number of registered agents, an operation id and
a nonce are consumed at most once, a retired agent stays as it is, and an accepted authorization is
for an epoch after those of all rotations that went before, whoever is administrator now. -/
theorem registry_authority (d : Deployment) (inputs : List Input) :
    (run d inputs).agentCount = (run d inputs).registered.ncard ∧
      (∀ operationId, (history d inputs).countP (consumesOperation operationId) ≤ 1) ∧
      (∀ nonce, (history d inputs).countP (consumesNonce nonce) ≤ 1) ∧
      (∀ id more, ((run d inputs).agents id).status = .retired →
        (run d (inputs ++ more)).agents id = (run d inputs).agents id) ∧
      ∀ past x later a, history d inputs = past ++ x :: later →
        x.input.method.authorization = some a →
        ∀ y ∈ past, rotates y → y.before.registryAdminEpoch.toNat < a.adminEpoch.toNat := by
  refine ⟨?_, fun operationId => ?_, fun nonce => ?_, fun id more hretired => ?_, ?_⟩
  · refine (execute_invariant
      (I := fun s : Storage => s.registered.Finite ∧ s.agentCount = s.registered.ncard)
      (fun s i s' o h hc => (call_step hc).registered h) ?_ inputs).2
    have hempty : d.init.registered = ∅ := by
      ext id
      simp [Storage.registered, Deployment.init]
    rw [hempty]
    exact ⟨Set.finite_empty, by simp [Deployment.init]⟩
  · refine (countP_of_flag (consumesOperation operationId) (fun s => s.usedAdminOperationIds operationId)
      rfl (fun s i s' o hc => ?_) inputs).trans_le (Bool.toNat_le _)
    have hmarks := (call_step hc).marks (·.adminOperationId) (·.usedAdminOperationIds)
      (fun a s₁ h => ⟨h.operation, by rw [h.result]⟩) (fun _ _ _ _ _ => rfl) operationId
    simpa [consumesOperation] using hmarks
  · refine (countP_of_flag (consumesNonce nonce) (fun s => s.usedAdminNonces nonce) rfl
      (fun s i s' o hc => ?_) inputs).trans_le (Bool.toNat_le _)
    have hmarks := (call_step hc).marks (·.adminNonce) (·.usedAdminNonces)
      (fun a s₁ h => ⟨h.nonce, by rw [h.result]⟩) (fun _ _ _ _ _ => rfl) nonce
    simpa [consumesNonce] using hmarks
  · rw [run, execute_append]
    refine (execute_invariant (I := fun s : Storage => s.agents id = (run d inputs).agents id)
      (fun s i s' o h hc => ?_) rfl more)
    rw [(call_step hc).retired (by rw [h]; exact hretired), h]
  · intro past x later a hsplit hauth y hy hrotates
    obtain ⟨before, after, -, hpast, hbefore, s', hc⟩ := successes_split hsplit
    have hlt := rotated_epoch d before y (by rw [history, hpast]; exact hy) hrotates
    rw [run, hbefore] at hlt
    rcases (call_step hc).epoch with ⟨a', ha', hepoch, -⟩ | ⟨hnone, -⟩
    · cases hauth.symm.trans ha'
      rwa [hepoch]
    · rw [hnone] at hauth
      cases hauth

end FlowOps.AgentRegistry
